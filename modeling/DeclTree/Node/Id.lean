/-
What a node is called and what kind of node it is: `NodeId`, its place in the tree that owns it, and
`NodeTag`, its kind without anything that the node carries.
-/

namespace DeclTree

/-- The place of a node in the tree that owns it. -/
structure NodeId where
  index : Nat
deriving DecidableEq, Repr

namespace NodeId

/-- Every tree has its module at the first place. -/
def root : NodeId := ⟨0⟩

/-- A node is shown by its place behind a number sign. -/
def text (id : NodeId) : String := "#" ++ Nat.repr id.index

end NodeId

/-- The twelve kinds of nodes. -/
inductive NodeTag where
  | module
  | function
  | property
  | getter
  | setter
  | parameter
  | body
  | call
  | ret
  | getValue
  | literal
  | typeRef
deriving DecidableEq, Repr

/-- The word that stands for a kind of node wherever nodes are shown. -/
def NodeTag.text : NodeTag → String
  | .module => "MODULE"
  | .function => "FUN"
  | .property => "PROPERTY"
  | .getter => "GETTER"
  | .setter => "SETTER"
  | .parameter => "VALUE_PARAMETER"
  | .body => "BLOCK_BODY"
  | .call => "CALL"
  | .ret => "RETURN"
  | .getValue => "GET_VAR"
  | .literal => "CONST"
  | .typeRef => "TYPE_REF"

end DeclTree
