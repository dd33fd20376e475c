/-
Strict JSON in reading. Blanks may stand around values and signs and are the space, the tab, the
line feed and the carriage return; there are no comments, no commas behind a last item, no leading
zeros, and nothing may follow the value.
-/

import DeclTree.Json.Basic
import DeclTree.Json.Literal

namespace DeclTree.Json

/-- Whether a character may stand between values and signs. -/
def isBlank (c : Char) : Bool := c = ' ' || c = '\t' || c = '\n' || c = '\r'

/-- What is behind the blanks. -/
def skipBlanks (cs : List Char) : List Char := cs.dropWhile isBlank

/-! ### Numbers -/

/-- One digit or more, and what is behind them. -/
def digits? (cs : List Char) : Option (List Char × List Char) :=
  match cs.takeWhile Char.isDigit with
  | [] => none
  | digits => some (digits, cs.dropWhile Char.isDigit)

/-- The fraction of a number, if there is one: whether there is, and what is behind it. -/
def fraction? : List Char → Option (Bool × List Char)
  | '.' :: rest => (digits? rest).map fun (_, rest) => (true, rest)
  | rest => some (false, rest)

/-- What is behind the sign of an exponent, if there is a sign. -/
def skipSign : List Char → List Char
  | '+' :: rest => rest
  | '-' :: rest => rest
  | rest => rest

/-- The exponent of a number, if there is one: whether there is, and what is behind it. -/
def exponent? : List Char → Option (Bool × List Char)
  | c :: rest =>
      if c = 'e' ∨ c = 'E' then (digits? (skipSign rest)).map fun (_, rest) => (true, rest)
      else some (false, c :: rest)
  | [] => some (false, [])

/-- A number without its sign. A negative zero is no integer. -/
def unsigned? (negative : Bool) (cs : List Char) : Option (Json × List Char) := do
  let (whole, rest) ← digits? cs
  if whole.head? = some '0' ∧ whole ≠ ['0'] then none
  else
    let (hasFraction, rest) ← fraction? rest
    let (hasExponent, rest) ← exponent? rest
    let magnitude := Nat.ofDigitChars 10 whole 0
    if hasFraction || hasExponent || (negative && magnitude = 0) then return (.fraction, rest)
    else return (.integer (if negative then -magnitude else magnitude), rest)

/-- A number. -/
def number? : List Char → Option (Json × List Char)
  | '-' :: rest => unsigned? true rest
  | rest => unsigned? false rest

/-! ### Values -/

mutual

/-- A value at the very start of a text, and what is behind it, in at most `fuel` nested calls. -/
def value? : Nat → List Char → Option (Json × List Char)
  | 0, _ => none
  | fuel + 1, cs =>
      match cs with
      | 'n' :: 'u' :: 'l' :: 'l' :: rest => some (.null, rest)
      | 't' :: 'r' :: 'u' :: 'e' :: rest => some (.boolean true, rest)
      | 'f' :: 'a' :: 'l' :: 's' :: 'e' :: rest => some (.boolean false, rest)
      | '"' :: rest => (readLiteral? rest).map fun (text, rest) => (.string text, rest)
      | '[' :: rest =>
          match skipBlanks rest with
          | ']' :: rest => some (.array [], rest)
          | rest => (items? fuel rest).map fun (items, rest) => (.array items, rest)
      | '\x7b' :: rest =>
          match skipBlanks rest with
          | '\x7d' :: rest => some (.object [], rest)
          | rest => (members? fuel rest).map fun (members, rest) => (.object members, rest)
      | cs => number? cs

/-- One item or more up to the closing bracket, and what is behind it. -/
def items? : Nat → List Char → Option (List Json × List Char)
  | 0, _ => none
  | fuel + 1, cs => do
      let (item, rest) ← value? fuel (skipBlanks cs)
      match skipBlanks rest with
      | ']' :: rest => return ([item], rest)
      | ',' :: rest =>
          let (items, rest) ← items? fuel rest
          return (item :: items, rest)
      | _ => none

/-- One member or more up to the closing brace, and what is behind it. -/
def members? : Nat → List Char → Option (List (Option String × Json) × List Char)
  | 0, _ => none
  | fuel + 1, cs => do
      let (member, rest) ← member? fuel (skipBlanks cs)
      match skipBlanks rest with
      | '\x7d' :: rest => return ([member], rest)
      | ',' :: rest =>
          let (members, rest) ← members? fuel rest
          return (member :: members, rest)
      | _ => none

/-- A name, a colon and a value, and what is behind them. -/
def member? : Nat → List Char → Option ((Option String × Json) × List Char)
  | 0, _ => none
  | fuel + 1, cs =>
      match cs with
      | '"' :: rest => do
          let (name, rest) ← readLiteral? rest
          match skipBlanks rest with
          | ':' :: rest =>
              let (value, rest) ← value? fuel (skipBlanks rest)
              return ((name, value), rest)
          | _ => none
      | _ => none

end

/-- The value that a text consists of. No call is nested deeper than three times the characters
allow. -/
def parse? (text : String) : Option Json :=
  let cs := skipBlanks text.toList
  match value? (3 * cs.length + 1) cs with
  | some (json, rest) => if skipBlanks rest = [] then some json else none
  | none => none

end DeclTree.Json
