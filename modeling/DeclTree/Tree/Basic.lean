/-
Trees of declarations. A `Tree` owns its nodes and never loses one; the module stands at the first
place. New nodes are attached to nothing. `Tree.node?_push` and `Tree.node?_update` say what adding
and changing a node do to the look-up of nodes; `Tree.preorder` lists a subtree with every node
before its children.
-/

import DeclTree.Node.Basic
import DeclTree.Ty.Universe

namespace DeclTree

/-- The nodes of one compilation unit, attached or not. A node is found at the place that its
`NodeId` says. -/
structure Tree where
  nodes : Array Node
deriving DecidableEq, Repr

namespace Tree

/-- The tree that holds a module and nothing else. -/
def ofModule (name : Name) : Tree :=
  ⟨#[{ kind := .module, name := name, ty := .unit }]⟩

/-- The number of nodes, attached or not. -/
def size (tree : Tree) : Nat := tree.nodes.size

/-! ### Reading nodes -/

/-- The node at a place, if there is one. -/
def node? (tree : Tree) (id : NodeId) : Option Node := tree.nodes[id.index]?

/-- The node at a place, which has to be there. -/
def node (tree : Tree) (id : NodeId) : Except TreeError Node :=
  match tree.node? id with
  | some node => .ok node
  | none => .error (.violation (.notInTree id))

/-- The children of a node in their order. -/
def children (tree : Tree) (id : NodeId) : Except TreeError (List NodeId) :=
  (tree.node id).map Node.children

/-- The parent of a node, if it is attached. -/
def parent (tree : Tree) (id : NodeId) : Except TreeError (Option NodeId) :=
  (tree.node id).map Node.parent

/-- Whether there is a node of that kind at a place. -/
def hasTag (tree : Tree) (tag : NodeTag) (id : NodeId) : Bool :=
  (tree.node? id).any fun node => node.tag = tag

/-- The first child of a kind. -/
def findChild (tree : Tree) (id : NodeId) (tag : NodeTag) : Except TreeError (Option NodeId) :=
  (tree.children id).map fun children => children.find? (tree.hasTag tag)

/-- Whether a node itself carries an annotation. What its parents and children carry is of no
account. -/
def isAnnotated (tree : Tree) (id : NodeId) (tag : AnnotationTag) : Except TreeError Bool :=
  (tree.node id).map fun node => node.annotations.contains tag

theorem node_eq_ok_iff (tree : Tree) (id : NodeId) (found : Node) :
    tree.node id = .ok found ↔ tree.node? id = some found := by
  unfold node
  cases tree.node? id <;> simp

theorem node?_eq_none_iff (tree : Tree) (id : NodeId) :
    tree.node? id = none ↔ tree.size ≤ id.index := by
  simp [node?, size]

/-! ### Adding and changing nodes -/

/-- The tree with one node more, and the place of that node. -/
def push (tree : Tree) (node : Node) : NodeId × Tree :=
  (⟨tree.size⟩, ⟨tree.nodes.push node⟩)

/-- The tree with the node at a place changed. -/
def update (tree : Tree) (id : NodeId) (change : Node → Node) : Tree :=
  ⟨tree.nodes.modify id.index change⟩

@[simp] theorem size_push (tree : Tree) (node : Node) :
    (tree.push node).2.size = tree.size + 1 := by
  simp [push, size]

@[simp] theorem size_update (tree : Tree) (id : NodeId) (change : Node → Node) :
    (tree.update id change).size = tree.size := by
  simp [update, size]

/-- A new node stands behind all others, which stay as they are. -/
theorem node?_push (tree : Tree) (node : Node) (id : NodeId) :
    (tree.push node).2.node? id = if id.index = tree.size then some node else tree.node? id :=
  Array.getElem?_push

/-- A change touches one node only. -/
theorem node?_update (tree : Tree) (id other : NodeId) (change : Node → Node) :
    (tree.update id change).node? other =
      if id = other then (tree.node? other).map change else tree.node? other := by
  obtain ⟨index⟩ := id
  obtain ⟨asked⟩ := other
  simp [update, node?, Array.getElem?_modify]

/-- A new node without parent and children. Its type has to be of a known class. -/
def create (tree : Tree) (types : TypeUniverse) (kind : NodeKind) (name : Name) (ty : Ty) :
    Except TreeError (NodeId × Tree) :=
  (types.resolve ty).map fun _ => tree.push { kind := kind, name := name, ty := ty }

/-- The tree with an annotation put on a node that is there. -/
def putTag (tree : Tree) (id : NodeId) (tag : AnnotationTag) (arguments : List Literal) :
    Tree :=
  tree.update id fun node => { node with annotations := node.annotations.put tag arguments }

/-- Puts an annotation on a node. -/
def annotate (tree : Tree) (id : NodeId) (tag : AnnotationTag) (arguments : List Literal) :
    Except TreeError Tree :=
  (tree.node id).map fun _ => tree.putTag id tag arguments

/-! ### Listing a subtree -/

/-- The subtrees of some nodes one after the other, as far as `fuel` nodes. -/
def preorderFrom (tree : Tree) : Nat → List NodeId → Except TreeError (List NodeId)
  | _, [] => .ok []
  | 0, id :: _ => .error (.violation (.endless id))
  | fuel + 1, id :: pending =>
      match tree.children id with
      | .error error => .error error
      | .ok children => (preorderFrom tree fuel (children ++ pending)).map (id :: ·)

/-- The nodes of a subtree, every node before its children and the children in their order. No
subtree has more nodes than the tree, so the bound is never reached. -/
def preorder (tree : Tree) (id : NodeId) : Except TreeError (List NodeId) :=
  tree.preorderFrom tree.size [id]

end Tree

end DeclTree
