/-
Nodes. A `NodeKind` is what a node is together with what only that kind carries; a `Node` adds what
all nodes have: a name, a type, the links to its children and its parent, and annotations.
-/

import DeclTree.Node.Annotations
import DeclTree.Node.Id
import DeclTree.Symbol.Basic

namespace DeclTree

/-- From where a declaration can be seen. -/
inductive Visibility where
  | publicAccess
  | internalAccess
  | privateAccess
deriving DecidableEq, Repr

/-- The word for a visibility. -/
def Visibility.text : Visibility → String
  | publicAccess => "public"
  | internalAccess => "internal"
  | privateAccess => "private"

/-- Whether a declaration can be, or has to be, overridden. -/
inductive Modality where
  | final
  | overridable
  | abstract
deriving DecidableEq, Repr

/-- The word for a modality. -/
def Modality.text : Modality → String
  | final => "final"
  | overridable => "open"
  | abstract => "abstract"

/-- What a node is, with what only nodes of that kind carry. -/
inductive NodeKind where
  | module
  | function (symbol : Symbol) (visibility : Visibility) (modality : Modality)
  | property (symbol : Symbol) (visibility : Visibility) (modality : Modality) (isVar : Bool)
  | getter (symbol property : Symbol)
  | setter (symbol property : Symbol)
  | parameter (symbol : Symbol) (index : Nat)
  | body
  | call (callee : Symbol)
  | ret (target : Symbol)
  | getValue (target : Symbol)
  | literal (value : Literal)
  | typeRef
deriving DecidableEq, Repr

namespace NodeKind

/-- The kind alone. -/
def tag : NodeKind → NodeTag
  | module => .module
  | function .. => .function
  | property .. => .property
  | getter .. => .getter
  | setter .. => .setter
  | parameter .. => .parameter
  | body => .body
  | call _ => .call
  | ret _ => .ret
  | getValue _ => .getValue
  | literal _ => .literal
  | typeRef => .typeRef

/-- The symbol that the node declares, where it is a declaration. -/
def declared? : NodeKind → Option Symbol
  | function symbol _ _ => some symbol
  | property symbol _ _ _ => some symbol
  | getter symbol _ => some symbol
  | setter symbol _ => some symbol
  | parameter symbol _ => some symbol
  | _ => none

/-- The symbol of another declaration that the node refers to: the property of an accessor, the
callee of a call, what is returned from, what is read. -/
def mentioned? : NodeKind → Option Symbol
  | getter _ owner => some owner
  | setter _ owner => some owner
  | call callee => some callee
  | ret target => some target
  | getValue target => some target
  | _ => none

/-- Whether two nodes are alike in all that only their kind carries. Symbols are compared by
identity. -/
def same : NodeKind → NodeKind → Bool
  | module, module => true
  | function a visibility modality, function b visibility' modality' =>
      a.same b && visibility = visibility' && modality = modality'
  | property a visibility modality isVar, property b visibility' modality' isVar' =>
      a.same b && visibility = visibility' && modality = modality' && isVar = isVar'
  | getter a owner, getter b owner' => a.same b && owner.same owner'
  | setter a owner, setter b owner' => a.same b && owner.same owner'
  | parameter a index, parameter b index' => a.same b && index = index'
  | body, body => true
  | call a, call b => a.same b
  | ret a, ret b => a.same b
  | getValue a, getValue b => a.same b
  | literal a, literal b => a = b
  | typeRef, typeRef => true
  | _, _ => false

end NodeKind

/-- One node of a tree. -/
structure Node where
  kind : NodeKind
  name : Name
  ty : Ty
  /-- The children in their order. -/
  children : List NodeId := []
  /-- The node that lists this one among its children. -/
  parent : Option NodeId := none
  annotations : Annotations := .empty
deriving DecidableEq, Repr

/-- The kind of a node alone. -/
def Node.tag (node : Node) : NodeTag := node.kind.tag

end DeclTree
