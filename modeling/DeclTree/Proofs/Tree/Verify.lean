/-
**Verification checks a subtree node by node.**

In a forest a subtree passes verification exactly if every node below its top passes the check for
single nodes (`IsForest.verify_eq_ok_iff`).
-/

import DeclTree.Tree.Verify
import DeclTree.Proofs.Tree.Grove

namespace DeclTree

/-- Checks one after the other succeed if each of them does. -/
theorem forM_eq_ok_iff {α ε : Type} (check : α → Except ε Unit) (items : List α) :
    items.forM check = .ok () ↔ ∀ item ∈ items, check item = .ok () := by
  induction items with
  | nil => simp [pure, Except.pure]
  | cons item rest ih =>
      rw [List.forall_mem_cons, ← ih, List.forM]
      cases check item with
      | error error => exact ⟨nofun, fun both => nomatch both.1⟩
      | ok _ => exact ⟨fun later => ⟨rfl, later⟩, fun both => both.2⟩

/-- Two checks, one after the other, succeed if both do. -/
theorem seq_eq_ok_iff {ε : Type} {first later : Except ε Unit} :
    (do first; later) = .ok () ↔ first = .ok () ∧ later = .ok () := by
  cases first with
  | error _ => exact ⟨nofun, fun both => nomatch both.1⟩
  | ok _ => exact ⟨fun second => ⟨rfl, second⟩, And.right⟩

theorem forM_congr {α ε : Type} {check other : α → Except ε Unit} {items : List α}
    (same : ∀ item ∈ items, check item = other item) : items.forM check = items.forM other := by
  induction items with
  | nil => rfl
  | cons item rest ih =>
      rw [List.forM, List.forM, same item List.mem_cons_self,
        ih fun item member => same item (List.mem_cons_of_mem _ member)]

namespace Tree

variable {tree : Tree} {types : TypeUniverse}

theorem verify_eq {id : NodeId} {below : Grove} (stands : (Grove.single id below).StandsIn tree)
    (bound : (Grove.single id below).order.length ≤ tree.size) :
    tree.verify types id = (Grove.single id below).order.forM (tree.checkNode types) := by
  rw [verify, preorder_eq stands bound]
  rfl

/-- In a forest every child knows its parent. -/
theorem IsForest.checkChildren_eq (forest : tree.IsForest) {id : NodeId} {node : Node}
    (found : tree.node? id = some node) : tree.checkChildren id node.children = .ok () := by
  refine (forM_eq_ok_iff _ _).mpr fun child listed => ?_
  rw [← childrenOf_eq found] at listed
  obtain ⟨lower, looked⟩ := node?_eq_some_of_lt (forest.child_there listed)
  have attached : lower.parent = some id :=
    (parentOf_eq looked).symm.trans (forest.mem_childrenOf_iff.mp listed)
  rw [Tree.parent, (node_eq_ok_iff tree child lower).mpr looked]
  exact if_pos attached

/-- The check of a single node comes down to its type and to what its kind asks for. -/
theorem IsForest.checkNode_eq (forest : tree.IsForest) {id : NodeId} {node : Node}
    (found : tree.node? id = some node) :
    tree.checkNode types id = (do types.resolve node.ty; tree.checkKind id node) := by
  have looked : tree.node id = .ok node := (node_eq_ok_iff tree id node).mpr found
  unfold checkNode
  rw [looked]
  show (do types.resolve node.ty; tree.checkChildren id node.children
           tree.checkKind id node) = _
  rw [forest.checkChildren_eq found]
  rfl

theorem IsForest.checkNode_eq_ok_iff (forest : tree.IsForest) {id : NodeId} {node : Node}
    (found : tree.node? id = some node) :
    tree.checkNode types id = .ok () ↔
      types.resolve node.ty = .ok () ∧ tree.checkKind id node = .ok () := by
  rw [forest.checkNode_eq found, seq_eq_ok_iff]

/-- **Verification succeeds** if and only if every node of the subtree is as it should be. -/
theorem IsForest.verify_eq_ok_iff (forest : tree.IsForest) {id : NodeId}
    (there : id.index < tree.size) :
    tree.verify types id = .ok () ↔
      ∀ low, tree.Above id low → tree.checkNode types low = .ok () := by
  obtain ⟨below, stands⟩ := forest.exists_grove there
  rw [verify_eq stands (forest.length_order_le stands), forM_eq_ok_iff]
  refine forall_congr' fun low => imp_congr_left ?_
  exact Grove.mem_order_single_iff forest stands low

end Tree

end DeclTree
