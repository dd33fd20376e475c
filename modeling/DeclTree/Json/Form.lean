/-
The JSON form of a type: a function to JSON and one back. `readAs?` and `writeAs` go through the
text. The tools here read the shapes that forms are built from: the members of a record, an
alternative with or without content.
-/

import DeclTree.Json.Reader
import DeclTree.Json.Writer

namespace DeclTree

/-- How the values of a type are written as JSON, and which JSON is read as one of them. -/
class JsonForm (α : Type) where
  toJson : α → Json
  ofJson? : Json → Option α

namespace Json

/-- A value as JSON text without blanks. -/
def writeAs {α : Type} [JsonForm α] (value : α) : String := (JsonForm.toJson value).compact

/-- The value that a JSON text stands for. -/
def readAs? (α : Type) [JsonForm α] (text : String) : Option α :=
  (parse? text).bind JsonForm.ofJson?

/-! ### Plain values -/

instance : JsonForm String where
  toJson := .ofText
  ofJson?
    | .string text => text
    | _ => none

instance : JsonForm Bool where
  toJson := .boolean
  ofJson?
    | .boolean value => some value
    | _ => none

instance : JsonForm Int64 where
  toJson value := .integer value.toInt
  ofJson?
    | .integer value =>
        if Int64.minValue.toInt ≤ value ∧ value ≤ Int64.maxValue.toInt then some (.ofInt value)
        else none
    | _ => none

/-! ### Records -/

/-- The values of the members of a name. -/
def valuesOf (name : String) (members : List (Option String × Json)) : List Json :=
  (members.filter fun member => member.1 = some name).map Prod.snd

/-- The value of a member that has to occur, and once only. -/
def required? {α : Type} [JsonForm α] (name : String) (members : List (Option String × Json)) :
    Option α :=
  match valuesOf name members with
  | [value] => JsonForm.ofJson? value
  | _ => none

/-- The value of a member that may be missing, but occurs once at most. -/
def optional? {α : Type} [JsonForm α] (name : String) (default : α)
    (members : List (Option String × Json)) : Option α :=
  match valuesOf name members with
  | [] => some default
  | [value] => JsonForm.ofJson? value
  | _ => none

/-- Whether all names are texts. -/
def hasTextNames (members : List (Option String × Json)) : Bool :=
  members.all fun member => member.1.isSome

/-! ### Alternatives -/

/-- The name of an alternative, and its content if it is written with one: either a bare string, or
an object whose one member has the name of the alternative. -/
def alternative? : Json → Option (String × Option Json)
  | .string (some name) => some (name, none)
  | .object [(some name, content)] => some (name, some content)
  | _ => none

/-- Whether an alternative without content is written rightly: as a bare string, or with null. -/
def isEmptyContent : Option Json → Bool
  | none => true
  | some .null => true
  | some _ => false

/-- An alternative with content. -/
def ofAlternative {α : Type} [JsonForm α] (name : String) (content : α) : Json :=
  .ofFields [(name, JsonForm.toJson content)]

/-- The alternative of a name among some that have no content. -/
def emptyAlternative? {α : Type} (alternatives : List (String × α)) (json : Json) : Option α := do
  let (name, content) ← alternative? json
  if isEmptyContent content then alternatives.lookup name else none

end Json

end DeclTree
