/-
The JSON forms of names, types, literals and of all that says what a node is.
-/

import DeclTree.Json.Form
import DeclTree.Node.Basic

namespace DeclTree

/-! ### Names and types -/

instance : JsonForm Name where
  toJson
    | .identifier text => .ofAlternative "Identifier" text
    | .special text => .ofAlternative "Special" text
  ofJson? json :=
    match json.alternative? with
    | some ("Identifier", some text) => (JsonForm.ofJson? text).map .identifier
    | some ("Special", some text) => (JsonForm.ofJson? text).map .special
    | _ => none

instance : JsonForm QualName where
  toJson name := .ofText name.text
  ofJson? json := (JsonForm.ofJson? json).map QualName.mk

instance : JsonForm Ty where
  toJson ty :=
    .ofFields [("classifier", JsonForm.toJson ty.classifier), ("nullable", .boolean ty.nullable)]
  ofJson?
    | .object members =>
        if Json.hasTextNames members then do
          let classifier ← Json.required? "classifier" members
          let nullable ← Json.required? "nullable" members
          return ⟨classifier, nullable⟩
        else none
    | .array [classifier, nullable] => do
        let classifier ← JsonForm.ofJson? classifier
        let nullable ← JsonForm.ofJson? nullable
        return ⟨classifier, nullable⟩
    | _ => none

/-! ### Literals and annotations -/

instance : JsonForm Literal where
  toJson
    | .string value => .ofAlternative "String" value
    | .int value => .ofAlternative "Int" value
    | .boolean value => .ofAlternative "Boolean" value
  ofJson? json :=
    match json.alternative? with
    | some ("String", some value) => (JsonForm.ofJson? value).map .string
    | some ("Int", some value) => (JsonForm.ofJson? value).map .int
    | some ("Boolean", some value) => (JsonForm.ofJson? value).map .boolean
    | _ => none

instance : JsonForm AnnotationTag where
  toJson
    | .suspendProp => .ofText "SuspendProp"
    | .generated => .ofText "Generated"
    | .other name => .ofAlternative "Other" name
  ofJson? json :=
    match json.alternative? with
    | some ("SuspendProp", content) =>
        if Json.isEmptyContent content then some .suspendProp else none
    | some ("Generated", content) =>
        if Json.isEmptyContent content then some .generated else none
    | some ("Other", some name) => (JsonForm.ofJson? name).map .other
    | _ => none

/-! ### Kinds of nodes -/

/-- The word for a visibility in JSON. -/
def Visibility.jsonName : Visibility → String
  | publicAccess => "Public"
  | internalAccess => "Internal"
  | privateAccess => "Private"

instance : JsonForm Visibility where
  toJson visibility := .ofText visibility.jsonName
  ofJson? := Json.emptyAlternative?
    ([.publicAccess, .internalAccess, .privateAccess].map fun v => (v.jsonName, v))

/-- The word for a modality in JSON. -/
def Modality.jsonName : Modality → String
  | final => "Final"
  | overridable => "Open"
  | abstract => "Abstract"

instance : JsonForm Modality where
  toJson modality := .ofText modality.jsonName
  ofJson? := Json.emptyAlternative?
    ([.final, .overridable, .abstract].map fun m => (m.jsonName, m))

/-- The word for a kind of node in JSON. -/
def NodeTag.jsonName : NodeTag → String
  | module => "Module"
  | function => "Function"
  | property => "Property"
  | getter => "Getter"
  | setter => "Setter"
  | parameter => "Parameter"
  | body => "Body"
  | call => "Call"
  | ret => "Return"
  | getValue => "GetValue"
  | literal => "Literal"
  | typeRef => "TypeRef"

/-- Every kind of node. -/
def NodeTag.all : List NodeTag :=
  [.module, .function, .property, .getter, .setter, .parameter, .body, .call, .ret, .getValue,
    .literal, .typeRef]

instance : JsonForm NodeTag where
  toJson tag := .ofText tag.jsonName
  ofJson? := Json.emptyAlternative? (NodeTag.all.map fun tag => (tag.jsonName, tag))

/-- Places are numbers of 64 bits. -/
instance : JsonForm NodeId where
  toJson id := .integer id.index
  ofJson?
    | .integer index => if 0 ≤ index ∧ index < UInt64.size then some ⟨index.toNat⟩ else none
    | _ => none

end DeclTree
