/-
The operations of a builder that make one node from given ones: literals, references to types,
calls, returns, reads of parameters, properties, and the annotation of what is being built.
Nothing that is attached already is used or changed.
-/

import DeclTree.Build.Workspace
import DeclTree.Context

namespace DeclTree

/-- A builder: the context whose types and symbols it uses, and the package that it names
declarations in. -/
structure Builder where
  context : Context
  package : QualName := .root

/-- What is asked of a builder for a property. -/
structure PropertySpec where
  name : Name
  ty : Ty
  isVar : Bool
  visibility : Visibility := .publicAccess
  modality : Modality := .final
deriving DecidableEq, Repr

/-- What a builder does in one go. -/
inductive Operation where
  /-- A constant. -/
  | literal (value : Literal)
  /-- A reference to a type. -/
  | typeRef (ty : Ty)
  /-- A call with some arguments, which become its children. -/
  | call (callee : Symbol) (arguments : List NodeId)
  /-- The return of a value, which becomes its child, from a declaration. -/
  | ret (target : Symbol) (value : NodeId)
  /-- The read of a value parameter. -/
  | get (parameter : NodeId)
  /-- A property without accessors. -/
  | property (spec : PropertySpec)
  /-- An annotation on a node that is not attached. -/
  | annotate (id : NodeId) (tag : AnnotationTag) (arguments : List Literal)
deriving DecidableEq, Repr

/-- The type of a constant. -/
def Literal.ty : Literal → Ty
  | string _ => .string
  | int _ => .int
  | boolean _ => .boolean

namespace Builder

/-- The qualified name of a declaration in the package of the builder. -/
def qualify (builder : Builder) (name : Name) : QualName := builder.package.child name

/-- Makes a node whose type the context knows. -/
def create (builder : Builder) (kind : NodeKind) (name : Name) (ty : Ty) : Build NodeId :=
  Build.create builder.context.types kind name ty

/-- Checks that a node is not attached and is not the module, so that it may be used as an
operand. -/
def checkUnlinked (tree : Tree) (id : NodeId) : Except TreeError Unit :=
  match tree.node id with
  | .error error => .error error
  | .ok node =>
      if node.parent.isSome ∨ id = .root then .error (.violation (.operandAttached id)) else .ok ()

/-- The symbol that a value parameter declares, with its node. -/
def parameterAt (tree : Tree) (id : NodeId) : Except TreeError (Symbol × Node) :=
  match tree.node id with
  | .error error => .error error
  | .ok node =>
      match node.kind with
      | .parameter symbol _ => .ok (symbol, node)
      | _ => .error (.violation (.notParameter id))

/-- Makes a constant. -/
def literal (builder : Builder) (value : Literal) : Build NodeId :=
  builder.create (.literal value) (.special "<const>") value.ty

/-- Makes a reference to a type. -/
def typeRef (builder : Builder) (ty : Ty) : Build NodeId :=
  builder.create .typeRef (.special "<type>") ty

/-- Makes a call. The number of arguments has to be right, their types are not looked at. -/
def call (builder : Builder) (callee : Symbol) (arguments : List NodeId) : Build NodeId := do
  if arguments.length ≠ callee.arity then
    throw (.arity callee.name callee.arity arguments.length)
  let tree ← Build.tree
  Build.ofExcept (arguments.forM (checkUnlinked tree))
  let id ← builder.create (.call callee) (.identifier callee.name.shortName) callee.result
  Build.appendAll id arguments
  return id

/-- Makes a return. -/
def ret (builder : Builder) (target : Symbol) (value : NodeId) : Build NodeId := do
  Build.ofExcept (checkUnlinked (← Build.tree) value)
  let id ← builder.create (.ret target) (.special "<return>") .nothing
  Build.append id value
  return id

/-- Makes a read of a value parameter, with the name and the type of the parameter. -/
def get (builder : Builder) (parameter : NodeId) : Build NodeId := do
  let (symbol, node) ← Build.ofExcept (parameterAt (← Build.tree) parameter)
  builder.create (.getValue symbol) node.name node.ty

/-- Makes a property without accessors. -/
def property (builder : Builder) (spec : PropertySpec) : Build NodeId := do
  let name := builder.qualify spec.name
  let symbol ← Build.newSymbol ⟨name, .property, [], spec.ty⟩
  let kind := NodeKind.property symbol spec.visibility spec.modality spec.isVar
  let id ← builder.create kind spec.name spec.ty
  Build.note .declarations ("built property " ++ name.text)
  return id

/-- Puts an annotation on a node that is not attached. -/
def annotate (id : NodeId) (tag : AnnotationTag) (arguments : List Literal) : Build Unit := do
  Build.ofExcept (checkUnlinked (← Build.tree) id)
  Build.annotate id tag arguments

/-- Does one operation. The answer is the node that was made, or that was annotated. -/
def perform (builder : Builder) : Operation → Build NodeId
  | .literal value => builder.literal value
  | .typeRef ty => builder.typeRef ty
  | .call callee arguments => builder.call callee arguments
  | .ret target value => builder.ret target value
  | .get parameter => builder.get parameter
  | .property spec => builder.property spec
  | .annotate id tag arguments => do
      annotate id tag arguments
      return id

end Builder

end DeclTree
