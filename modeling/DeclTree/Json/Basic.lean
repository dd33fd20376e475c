/-
JSON values, as far as this library tells them apart. Members keep their order, and a name may
occur more than once. Two things that the grammar admits have no content here: a number with a
fraction, an exponent or a negative zero, and a string literal whose escapes are no Unicode text.
-/

namespace DeclTree

/-- A JSON value. -/
inductive Json where
  | null
  | boolean (value : Bool)
  /-- A number that is written as an integer. -/
  | integer (value : Int)
  /-- A number that is not written as an integer. -/
  | fraction
  /-- A string literal. It has no text if its escapes hold an unpaired surrogate. -/
  | string (text : Option String)
  | array (items : List Json)
  /-- Members in their order. A name is a string literal. -/
  | object (members : List (Option String × Json))

namespace Json

/-- The string literal of a text. -/
def ofText (text : String) : Json := .string (some text)

/-- The object of some named values, in their order. -/
def ofFields (fields : List (String × Json)) : Json :=
  .object (fields.map fun field => (some field.1, field.2))

end Json

end DeclTree
