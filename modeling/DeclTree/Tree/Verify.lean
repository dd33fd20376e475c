/-
Verification of a subtree. Every node is checked by itself, a node before its children: its type
is of a known class, its children know it as their parent, an accessor stands under its own
property and has the parameters of its kind, and a call has as many arguments as its callee has
parameters. The first node that fails decides the error.
-/

import DeclTree.Tree.Basic

namespace DeclTree.Tree

/-- Checks that every child of a node knows it as its parent. -/
def checkChildren (tree : Tree) (id : NodeId) (children : List NodeId) : Except TreeError Unit :=
  children.forM fun child =>
    match tree.parent child with
    | .error error => .error error
    | .ok parent =>
        if parent = some id then .ok () else .error (.violation (.mismatchedParent child id))

/-- Whether a node is the property that a symbol declares. -/
def declaresProperty (property : Symbol) (node : Node) : Bool :=
  match node.kind with
  | .property symbol .. => symbol.same property
  | _ => false

/-- Checks that an accessor stands under its own property, or is not attached yet. -/
def checkOwner (tree : Tree) (accessor : NodeId) (parent : Option NodeId) (property : Symbol) :
    Except TreeError Unit :=
  match parent with
  | none => .ok ()
  | some owner =>
      match tree.node owner with
      | .error error => .error error
      | .ok node =>
          if declaresProperty property node then .ok ()
          else .error (.violation (.foreignAccessor accessor property.name))

/-- The children of a node that are value parameters. -/
def parameters (tree : Tree) (children : List NodeId) : List Node :=
  (children.filterMap tree.node?).filter fun node => node.tag = .parameter

/-- Whether a node is the parameter that a setter has: `value`, at index 0. -/
def isSetterParameter (node : Node) : Bool :=
  match node.kind with
  | .parameter _ 0 => node.name.text = "value"
  | _ => false

/-- Checks that a setter has one parameter and that it is the right one. -/
def checkSetterParameter (tree : Tree) (setter : NodeId) (children : List NodeId) :
    Except TreeError Unit :=
  match tree.parameters children with
  | [parameter] =>
      if isSetterParameter parameter then .ok () else .error (.violation (.setterParameter setter))
  | _ => .error (.violation (.setterParameter setter))

/-- Checks what only nodes of the node's kind have to keep. -/
def checkKind (tree : Tree) (id : NodeId) (node : Node) : Except TreeError Unit :=
  match node.kind with
  | .getter _ property => do
      tree.checkOwner id node.parent property
      if (tree.parameters node.children).isEmpty then .ok ()
      else .error (.violation .getterParameter)
  | .setter _ property => do
      tree.checkOwner id node.parent property
      tree.checkSetterParameter id node.children
  | .call callee =>
      if node.children.length = callee.arity then .ok ()
      else .error (.arity callee.name callee.arity node.children.length)
  | _ => .ok ()

/-- Checks one node. -/
def checkNode (tree : Tree) (types : TypeUniverse) (id : NodeId) : Except TreeError Unit := do
  let node ← tree.node id
  types.resolve node.ty
  tree.checkChildren id node.children
  tree.checkKind id node

/-- Checks a subtree, every node before its children. -/
def verify (tree : Tree) (types : TypeUniverse) (id : NodeId) : Except TreeError Unit := do
  let order ← tree.preorder id
  order.forM (tree.checkNode types)

end DeclTree.Tree
