/-
**Trees that have all nodes of another one.**

`Tree.Keeps` says that a tree has all nodes of another one as they are, and perhaps some more. If
that one is a forest, no new node is reached from an old one (`Keeps.old_of_reaches`), and whatever
is asked of a subtree of the old one is answered as it was: how it is shown as text
(`Keeps.dumpWith_eq`) and as data (`Keeps.view_eq`), and whether it passes verification
(`Keeps.verify_eq`). `Untouched` is all of this together (`Keeps.untouched`).
-/

import DeclTree.Tree.Dump
import DeclTree.Tree.View
import DeclTree.Proofs.Tree.Extend
import DeclTree.Proofs.Tree.Verify
import DeclTree.Proofs.Tree.Walk

namespace DeclTree.Tree

/-- Going from a node to one of its children, and so on, leads to `id`. -/
def Reaches (tree : Tree) (top id : NodeId) : Prop :=
  Relation.ReflTransGen (fun upper lower => lower ∈ tree.childrenOf upper) top id

/-- The other tree has all nodes of the tree as they are, and perhaps some more. -/
def Keeps (tree other : Tree) : Prop :=
  ∀ id : NodeId, id.index < tree.size → other.node? id = tree.node? id

variable {tree other : Tree}

theorem keeps_extend (tree : Tree) (nodes : List Node) : tree.Keeps (tree.extend nodes) :=
  fun _ there => node?_extend_old nodes there

namespace Keeps

theorem size_le (keeps : tree.Keeps other) : tree.size ≤ other.size := by
  by_contra less
  have last : tree.size - 1 < tree.size := by omega
  obtain ⟨node, found⟩ : ∃ node, tree.node? ⟨tree.size - 1⟩ = some node :=
    node?_eq_some_of_lt last
  have kept : tree.size - 1 < other.size := lt_of_node? ((keeps ⟨_⟩ last).trans found)
  omega

theorem node (keeps : tree.Keeps other) {id : NodeId} (there : id.index < tree.size) :
    other.node id = tree.node id := by
  unfold Tree.node
  rw [keeps id there]

theorem parentOf (keeps : tree.Keeps other) {id : NodeId} (there : id.index < tree.size) :
    other.parentOf id = tree.parentOf id := by
  unfold Tree.parentOf
  rw [keeps id there]

theorem childrenOf (keeps : tree.Keeps other) {id : NodeId} (there : id.index < tree.size) :
    other.childrenOf id = tree.childrenOf id := by
  unfold Tree.childrenOf
  rw [keeps id there]

/-! ### What is below what -/

/-- **No new node is reached from an old one.** -/
theorem old_of_reaches (keeps : tree.Keeps other) (forest : tree.IsForest) {top id : NodeId}
    (reached : other.Reaches top id) (old : top.index < tree.size) : id.index < tree.size := by
  induction reached with
  | refl => exact old
  | tail _ listed ih =>
      rw [keeps.childrenOf ih] at listed
      exact forest.child_there listed

/-- What is above an old node is old. -/
theorem old_of_above (keeps : tree.Keeps other) (forest : tree.IsForest) {top id : NodeId}
    (above : other.Above top id) (old : id.index < tree.size) : top.index < tree.size := by
  induction above using Relation.ReflTransGen.head_induction_on with
  | refl => exact old
  | head attached _ ih =>
      rw [keeps.parentOf old] at attached
      exact ih (forest.parent_there attached)

theorem standsIn (keeps : tree.Keeps other) {grove : Grove} (stands : grove.StandsIn tree) :
    grove.StandsIn other := by
  induction grove with
  | bare => trivial
  | plant id below next belowIh nextIh =>
      obtain ⟨there, listed, belowStands, nextStands⟩ := stands
      refine ⟨Nat.lt_of_lt_of_le there keeps.size_le, ?_, belowIh belowStands, nextIh nextStands⟩
      rw [listed, keeps.childrenOf there]

/-! ### What is asked of a subtree -/

variable {id : NodeId}

theorem preorder_eq (keeps : tree.Keeps other) (forest : tree.IsForest)
    (there : id.index < tree.size) : other.preorder id = tree.preorder id := by
  obtain ⟨below, stands⟩ := forest.exists_grove there
  have bound := forest.length_order_le stands
  rw [Tree.preorder_eq stands bound,
    Tree.preorder_eq (keeps.standsIn stands) (Nat.le_trans bound keeps.size_le)]

/-- The nodes that are listed for an old one are old. -/
theorem old_of_mem_preorder (forest : tree.IsForest) (there : id.index < tree.size)
    {order : List NodeId} (listing : tree.preorder id = .ok order) :
    ∀ low ∈ order, low.index < tree.size := by
  obtain ⟨below, stands⟩ := forest.exists_grove there
  rw [Tree.preorder_eq stands (forest.length_order_le stands)] at listing
  cases listing
  exact Grove.there_of_mem_order stands

theorem dumpWith_eq (keeps : tree.Keeps other) (forest : tree.IsForest)
    (there : id.index < tree.size) (layout : Layout) (indent : String) :
    other.dumpWith layout id indent = tree.dumpWith layout id indent := by
  obtain ⟨below, stands⟩ := forest.exists_grove there
  have bound := forest.length_order_le stands
  have old := Grove.there_of_mem_order stands
  unfold dumpWith
  rw [walk_eq stands bound, walk_eq (keeps.standsIn stands) (Nat.le_trans bound keeps.size_le)]
  refine congrArg Except.ok (visit_congr (fun low member => keeps low (old low member)) ?_ ?_ _ _)
  · intro low member tag data state
    have line : other.lineOrRemark low = tree.lineOrRemark low := by
      unfold lineOrRemark Tree.line
      rw [keeps.node (old low member)]
    cases tag <;> simp only [Visitor.handler, dumper, line]
  · exact fun _ _ _ _ => rfl

theorem assembleAll_eq (keeps : tree.Keeps other) {order : List NodeId}
    (old : ∀ low ∈ order, low.index < tree.size) :
    other.assembleAll order = tree.assembleAll order := by
  induction order with
  | nil => rfl
  | cons low rest ih =>
      have first : ∀ ready, other.assemble low ready = tree.assemble low ready := fun ready => by
        unfold assemble
        rw [keeps.node (old low List.mem_cons_self)]
      rw [assembleAll, assembleAll, ih fun id member => old id (List.mem_cons_of_mem _ member)]
      cases tree.assembleAll rest with
      | error _ => rfl
      | ok ready => exact first ready

theorem view_eq (keeps : tree.Keeps other) (forest : tree.IsForest)
    (there : id.index < tree.size) : other.view id = tree.view id := by
  unfold view
  rw [keeps.preorder_eq forest there]
  cases listing : tree.preorder id with
  | error _ => rfl
  | ok order =>
      dsimp only
      rw [keeps.assembleAll_eq (old_of_mem_preorder forest there listing)]

theorem checkNode_eq (keeps : tree.Keeps other) (forest : tree.IsForest)
    (there : id.index < tree.size) (types : TypeUniverse) :
    other.checkNode types id = tree.checkNode types id := by
  unfold checkNode
  rw [keeps.node there]
  cases looked : tree.node id with
  | error _ => rfl
  | ok node =>
      have found : tree.node? id = some node := (node_eq_ok_iff tree id node).mp looked
      have childrenOld : ∀ child ∈ node.children, child.index < tree.size := fun child listed =>
        forest.child_there (by rwa [childrenOf_eq found])
      have children : other.checkChildren id node.children =
          tree.checkChildren id node.children := by
        refine forM_congr fun child listed => ?_
        rw [Tree.parent, Tree.parent, keeps.node (childrenOld child listed)]
      have parameters : other.parameters node.children = tree.parameters node.children := by
        unfold Tree.parameters
        rw [List.filterMap_congr fun child listed => keeps child (childrenOld child listed)]
      have owner : ∀ property, other.checkOwner id node.parent property =
          tree.checkOwner id node.parent property := fun property => by
        unfold checkOwner
        cases attached : node.parent with
        | none => rfl
        | some parent =>
            dsimp only
            rw [keeps.node (forest.parent_there ((parentOf_eq found).trans attached))]
      have kind : other.checkKind id node = tree.checkKind id node := by
        unfold checkKind checkSetterParameter
        simp only [parameters, owner]
      show (do types.resolve node.ty; other.checkChildren id node.children
               other.checkKind id node) = _
      rw [children, kind]
      rfl

theorem verify_eq (keeps : tree.Keeps other) (forest : tree.IsForest)
    (there : id.index < tree.size) (types : TypeUniverse) :
    other.verify types id = tree.verify types id := by
  unfold verify
  rw [keeps.preorder_eq forest there]
  cases listing : tree.preorder id with
  | error _ => rfl
  | ok order =>
      refine forM_congr fun low member => keeps.checkNode_eq forest ?_ types
      exact old_of_mem_preorder forest there listing low member

end Keeps

/-- Nothing that was in the tree has changed in the other one, and nothing that is new there can be
seen from it. -/
structure Untouched (tree other : Tree) : Prop where
  size_le : tree.size ≤ other.size
  node : ∀ id : NodeId, id.index < tree.size → other.node? id = tree.node? id
  apart : ∀ top id : NodeId, top.index < tree.size → other.Reaches top id → id.index < tree.size
  dump : ∀ id : NodeId, id.index < tree.size → ∀ layout indent,
    other.dumpWith layout id indent = tree.dumpWith layout id indent
  view : ∀ id : NodeId, id.index < tree.size → other.view id = tree.view id
  verify : ∀ id : NodeId, id.index < tree.size → ∀ types,
    other.verify types id = tree.verify types id

theorem Keeps.untouched (keeps : tree.Keeps other) (forest : tree.IsForest) :
    tree.Untouched other where
  size_le := keeps.size_le
  node := keeps
  apart _ _ old reached := keeps.old_of_reaches forest reached old
  dump _ there layout indent := keeps.dumpWith_eq forest there layout indent
  view _ there := keeps.view_eq forest there
  verify _ there types := keeps.verify_eq forest there types

end DeclTree.Tree
