/-
JSON in writing. A `Spacing` says what stands before the items of a collection and behind the colon
of a member; `compact` uses no blanks at all, `pretty` a line for each item, indented by two blanks
for each level. Empty collections stay on their line.
-/

import DeclTree.Json.Basic
import DeclTree.Json.Literal

namespace DeclTree.Json

/-- Where blanks are put. -/
structure Spacing where
  /-- What stands before an item, or the closing bracket, at some depth. -/
  lineBreak : Nat → List Char
  /-- What parts the name of a member from its value. -/
  colon : List Char

/-- No blanks. -/
def Spacing.compact : Spacing := ⟨fun _ => [], [':']⟩

/-- A line for each item and a blank behind each colon. -/
def Spacing.pretty : Spacing := ⟨fun depth => '\n' :: List.replicate (2 * depth) ' ', [':', ' ']⟩

mutual

/-- A value that stands at some depth, in front of what follows it. -/
def write (spacing : Spacing) (depth : Nat) : Json → List Char → List Char
  | .null, rest => 'n' :: 'u' :: 'l' :: 'l' :: rest
  | .boolean true, rest => 't' :: 'r' :: 'u' :: 'e' :: rest
  | .boolean false, rest => 'f' :: 'a' :: 'l' :: 's' :: 'e' :: rest
  | .integer value, rest => (Int.repr value).toList ++ rest
  | .fraction, rest => '0' :: '.' :: '0' :: rest
  | .string text, rest => writeLiteral text ++ rest
  | .array [], rest => '[' :: ']' :: rest
  | .array items, rest =>
      '[' :: writeItems spacing (depth + 1) items (spacing.lineBreak depth ++ ']' :: rest)
  | .object [], rest => '\x7b' :: '\x7d' :: rest
  | .object members, rest =>
      '\x7b' :: writeMembers spacing (depth + 1) members (spacing.lineBreak depth ++ '\x7d' :: rest)

/-- The items of an array, parted by commas, in front of what follows them. -/
def writeItems (spacing : Spacing) (depth : Nat) : List Json → List Char → List Char
  | [], rest => rest
  | [item], rest => spacing.lineBreak depth ++ write spacing depth item rest
  | item :: items, rest =>
      spacing.lineBreak depth ++
        write spacing depth item (',' :: writeItems spacing depth items rest)

/-- The members of an object, parted by commas, in front of what follows them. -/
def writeMembers (spacing : Spacing) (depth : Nat) :
    List (Option String × Json) → List Char → List Char
  | [], rest => rest
  | [(name, value)], rest =>
      spacing.lineBreak depth ++ writeLiteral name ++ spacing.colon ++
        write spacing depth value rest
  | (name, value) :: members, rest =>
      spacing.lineBreak depth ++ writeLiteral name ++ spacing.colon ++
        write spacing depth value (',' :: writeMembers spacing depth members rest)

end

/-- A value without blanks. -/
def compact (json : Json) : String := String.ofList (write .compact 0 json [])

/-- A value with a line for each item. -/
def pretty (json : Json) : String := String.ofList (write .pretty 0 json [])

end DeclTree.Json
