/-
Declarations with a body: functions and the accessors of properties. They are built in two halves.
`Builder.start` makes the declaration and its parameters, and `Builder.finish` gives it the body
that was written in between and, if it is an accessor, attaches it to its property.
-/

import DeclTree.Build.Operation

namespace DeclTree

/-- What is asked of a builder for a function. -/
structure FunctionSpec where
  name : Name
  result : Ty
  parameters : List (Name × Ty) := []
  visibility : Visibility := .publicAccess
  modality : Modality := .final
deriving DecidableEq, Repr

/-- A declaration with a body. -/
inductive Declaration where
  | function (spec : FunctionSpec)
  /-- The getter of a property. -/
  | getter (property : NodeId)
  /-- The setter of a property. -/
  | setter (property : NodeId)
deriving DecidableEq, Repr

/-- What the writer of a body knows of the declaration that it is for. -/
structure Scope where
  /-- The symbol of the declaration. -/
  owner : Symbol
  /-- Its value parameters in their order. -/
  parameters : List NodeId
deriving DecidableEq, Repr

/-- A declaration that waits for its body. -/
structure Draft where
  node : NodeId
  scope : Scope
  /-- The property that the declaration is an accessor of. -/
  property : Option NodeId
deriving DecidableEq, Repr

/-- What an accessor takes over from its property. -/
structure PropertyFacts where
  symbol : Symbol
  name : Name
  ty : Ty
  isVar : Bool
deriving DecidableEq, Repr

namespace Builder

/-! ### Checks -/

/-- What is known of a property. -/
def propertyAt (tree : Tree) (id : NodeId) : Except TreeError PropertyFacts :=
  match tree.node id with
  | .error error => .error error
  | .ok node =>
      match node.kind with
      | .property symbol _ _ isVar => .ok ⟨symbol, node.name, node.ty, isVar⟩
      | _ => .error (.violation (.notProperty id))

/-- Checks that a property has no accessor of a kind. -/
def checkNoAccessor (tree : Tree) (property : NodeId) (tag : NodeTag) : Except TreeError Unit :=
  match tree.findChild property tag with
  | .error error => .error error
  | .ok none => .ok ()
  | .ok (some accessor) => .error (.violation (.accessorExists property tag accessor))

/-- What is known of a property that may be given a getter. -/
def checkGetter (tree : Tree) (property : NodeId) : Except TreeError PropertyFacts := do
  let facts ← propertyAt tree property
  checkNoAccessor tree property .getter
  return facts

/-- What is known of a property that may be given a setter. -/
def checkSetter (tree : Tree) (property : NodeId) : Except TreeError PropertyFacts := do
  let facts ← propertyAt tree property
  if facts.isVar then
    checkNoAccessor tree property .setter
    return facts
  else .error (.violation (.readOnlyProperty facts.name))

/-! ### The first half -/

/-- Makes the value parameters of a declaration, the first of them with some index, and attaches
them. -/
def addParameters (builder : Builder) (owner : NodeId) (ownerName : QualName) :
    Nat → List (Name × Ty) → Build (List NodeId)
  | _, [] => return []
  | index, (name, ty) :: rest => do
      let symbol ← Build.newSymbol ⟨ownerName.child name, .valueParameter, [], ty⟩
      let id ← builder.create (.parameter symbol index) name ty
      Build.append owner id
      let ids ← addParameters builder owner ownerName (index + 1) rest
      return id :: ids

/-- Makes a function with its parameters. The types of the parameters are checked before anything is
made. -/
def startFunction (builder : Builder) (spec : FunctionSpec) : Build Draft := do
  Build.ofExcept (spec.parameters.forM fun parameter => builder.context.types.resolve parameter.2)
  let name := builder.qualify spec.name
  let symbol ← Build.newSymbol ⟨name, .function, spec.parameters.map Prod.snd, spec.result⟩
  let node ← builder.create (.function symbol spec.visibility spec.modality) spec.name spec.result
  let parameters ← builder.addParameters node name 0 spec.parameters
  return ⟨node, ⟨symbol, parameters⟩, none⟩

/-- Makes a getter, which has no parameters and the type of its property. -/
def startGetter (builder : Builder) (property : NodeId) : Build Draft := do
  let facts ← Build.ofExcept (checkGetter (← Build.tree) property)
  let name := Name.getterOf facts.name
  let symbol ← Build.newSymbol ⟨builder.qualify name, .getter, [], facts.ty⟩
  let node ← builder.create (.getter symbol facts.symbol) name facts.ty
  return ⟨node, ⟨symbol, []⟩, some property⟩

/-- Makes a setter, which has the parameter `value` of the type of its property. -/
def startSetter (builder : Builder) (property : NodeId) : Build Draft := do
  let facts ← Build.ofExcept (checkSetter (← Build.tree) property)
  let name := Name.setterOf facts.name
  let symbol ← Build.newSymbol ⟨builder.qualify name, .setter, [facts.ty], .unit⟩
  let node ← builder.create (.setter symbol facts.symbol) name .unit
  let parameters ←
    builder.addParameters node (builder.qualify name) 0 [(.identifier "value", facts.ty)]
  return ⟨node, ⟨symbol, parameters⟩, some property⟩

/-- Makes a declaration without its body. -/
def start (builder : Builder) : Declaration → Build Draft
  | .function spec => builder.startFunction spec
  | .getter property => builder.startGetter property
  | .setter property => builder.startSetter property

/-! ### The second half -/

/-- Makes a body of some statements. -/
def makeBody (builder : Builder) (statements : List NodeId) : Build NodeId := do
  let body ← builder.create .body (.special "<body>") .unit
  Build.appendAll body statements
  return body

/-- Gives a declaration its body. An accessor is then attached to its property; a function is left
for the host to attach. -/
def finish (builder : Builder) (draft : Draft) (statements : List NodeId) : Build NodeId := do
  let body ← builder.makeBody statements
  Build.append draft.node body
  match draft.property with
  | some property => Build.append property draft.node
  | none => Build.note .declarations ("built function " ++ draft.scope.owner.name.text)
  return draft.node

end Builder

end DeclTree
