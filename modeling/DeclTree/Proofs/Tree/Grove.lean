/-
**Subtrees as data.**

A `Grove` is subtrees that stand side by side, taken out of their tree, so that what is computed
along a subtree can be defined, and proved, by recursion. `Grove.StandsIn` says that a grove is what
the tree has below some nodes. In a forest:

* `IsForest.exists_grove`: below any nodes there is a grove, because no path is longer than the tree
  has nodes;
* `Grove.mem_order_iff`: it has all nodes that the nodes are above, and no others;
* `preorder_eq`: listing a subtree gives its nodes, each once (`Grove.nodup_order`), and the bound
  on their number is never reached (`IsForest.length_order_le`).
-/

import DeclTree.Proofs.Tree.Forest

namespace DeclTree

/-- Subtrees that stand side by side: none at all, or a node with what is below it, and the others
next to it. -/
inductive Grove where
  | bare
  | plant (id : NodeId) (below next : Grove)

namespace Grove

/-- The nodes that all others are below. -/
def roots : Grove → List NodeId
  | bare => []
  | plant id _ next => id :: next.roots

/-- All nodes, every node before those below it. -/
def order : Grove → List NodeId
  | bare => []
  | plant id below next => id :: (below.order ++ next.order)

/-- A tree has the nodes of a grove, with the children that they have there. -/
def StandsIn (tree : Tree) : Grove → Prop
  | bare => True
  | plant id below next =>
      id.index < tree.size ∧ below.roots = tree.childrenOf id ∧ below.StandsIn tree ∧
        next.StandsIn tree

/-- One node with what is below it. -/
def single (id : NodeId) (below : Grove) : Grove := plant id below bare

variable {tree : Tree}

theorem standsIn_single {id : NodeId} {below : Grove} (there : id.index < tree.size)
    (roots : below.roots = tree.childrenOf id) (stands : below.StandsIn tree) :
    (single id below).StandsIn tree :=
  ⟨there, roots, stands, trivial⟩

/-- Groves below some nodes make one grove. -/
theorem exists_of_each {ids : List NodeId} (there : ∀ id ∈ ids, id.index < tree.size)
    (each : ∀ id ∈ ids, ∃ below : Grove, below.StandsIn tree ∧ below.roots = tree.childrenOf id) :
    ∃ grove : Grove, grove.StandsIn tree ∧ grove.roots = ids := by
  induction ids with
  | nil => exact ⟨bare, trivial, rfl⟩
  | cons id rest ih =>
      obtain ⟨below, stands, roots⟩ := each id List.mem_cons_self
      obtain ⟨next, nextStands, nextRoots⟩ :=
        ih (fun id member => there id (List.mem_cons_of_mem _ member))
          fun id member => each id (List.mem_cons_of_mem _ member)
      refine ⟨plant id below next, ⟨there id List.mem_cons_self, roots, stands, nextStands⟩, ?_⟩
      rw [Grove.roots, nextRoots]

/-- The nodes of a grove are those that its roots are above. -/
theorem mem_order_iff (forest : tree.IsForest) {grove : Grove} (stands : grove.StandsIn tree)
    (id : NodeId) : id ∈ grove.order ↔ ∃ root ∈ grove.roots, tree.Above root id := by
  induction grove with
  | bare => simp [order, roots]
  | plant top below next belowIh nextIh =>
      obtain ⟨_, listed, belowStands, nextStands⟩ := stands
      have nearer : id ∈ below.order ↔ ∃ child, tree.parentOf child = some top ∧
          tree.Above child id := by
        rw [belowIh belowStands, listed]
        simp only [forest.mem_childrenOf_iff]
      rw [order, roots, List.mem_cons, List.mem_append, nearer, nextIh nextStands]
      simp only [List.mem_cons, exists_eq_or_imp]
      rw [← or_assoc]
      refine or_congr_left ⟨?_, fun above => ?_⟩
      · rintro (same | ⟨child, attached, above⟩)
        · rw [same]
          exact Tree.Above.refl tree top
        · exact (Tree.above_of_parentOf attached).trans above
      · by_cases same : id = top
        · exact .inl same
        · exact .inr (above.childOf same)

theorem there_of_mem_order {grove : Grove} (stands : grove.StandsIn tree) :
    ∀ id ∈ grove.order, id.index < tree.size := by
  induction grove with
  | bare => exact fun _ member => absurd member List.not_mem_nil
  | plant top below next belowIh nextIh =>
      obtain ⟨there, _, belowStands, nextStands⟩ := stands
      intro id member
      rcases List.mem_cons.mp member with same | member
      · rwa [same]
      · exact (List.mem_append.mp member).elim (belowIh belowStands id) (nextIh nextStands id)

end Grove

namespace Tree

variable {tree : Tree}

/-- No node is above another one of the list. -/
def Apart (tree : Tree) (ids : List NodeId) : Prop :=
  ids.Pairwise fun id other => ¬ tree.Above id other ∧ ¬ tree.Above other id

/-- The children of a node are apart. -/
theorem IsForest.apart_childrenOf (forest : tree.IsForest) (parent : NodeId) :
    tree.Apart (tree.childrenOf parent) := by
  refine (forest.nodup_childrenOf parent).imp_of_mem ?_
  have never : ∀ child sibling, child ∈ tree.childrenOf parent →
      sibling ∈ tree.childrenOf parent → sibling ≠ child → ¬ tree.Above child sibling := by
    intro child sibling listed also other above
    obtain ⟨top, attached, above⟩ := above.parentOf other
    rw [forest.mem_childrenOf_iff.mp also] at attached
    cases attached
    exact forest.not_above_of_parentOf (forest.mem_childrenOf_iff.mp listed) above
  intro child sibling listed also other
  exact ⟨never child sibling listed also (Ne.symm other), never sibling child also listed other⟩

end Tree

namespace Grove

variable {tree : Tree}

/-- No node stands in a grove twice if its roots are apart. -/
theorem nodup_order (forest : tree.IsForest) {grove : Grove} (stands : grove.StandsIn tree)
    (apart : tree.Apart grove.roots) : grove.order.Nodup := by
  induction grove with
  | bare => exact List.nodup_nil
  | plant top below next belowIh nextIh =>
      obtain ⟨_, listed, belowStands, nextStands⟩ := stands
      obtain ⟨others, nextApart⟩ := List.pairwise_cons.mp apart
      have belowNodup := belowIh belowStands (listed ▸ forest.apart_childrenOf top)
      have notBelow : top ∉ below.order := fun member => by
        obtain ⟨child, isChild, above⟩ := (mem_order_iff forest belowStands top).mp member
        rw [listed, forest.mem_childrenOf_iff] at isChild
        exact forest.not_above_of_parentOf isChild above
      have under : ∀ id ∈ below.order, tree.Above top id := fun id member => by
        obtain ⟨child, isChild, above⟩ := (mem_order_iff forest belowStands id).mp member
        rw [listed, forest.mem_childrenOf_iff] at isChild
        exact (Tree.above_of_parentOf isChild).trans above
      -- A node below two roots would put one of them above the other.
      have elsewhere : ∀ id, tree.Above top id → id ∉ next.order := fun id above member => by
        obtain ⟨root, isRoot, also⟩ := (mem_order_iff forest nextStands id).mp member
        exact (above.total also).elim (others root isRoot).2 (others root isRoot).1
      refine List.nodup_cons.mpr ⟨?_, belowNodup.append (nextIh nextStands nextApart) ?_⟩
      · exact fun member => (List.mem_append.mp member).elim notBelow
          (elsewhere top (Tree.Above.refl tree top))
      · exact fun id member => elsewhere id (under id member)

/-! ### The grove of one node -/

variable {top : NodeId} {below : Grove}

theorem nodup_order_single (forest : tree.IsForest) (stands : (single top below).StandsIn tree) :
    (single top below).order.Nodup :=
  nodup_order forest stands (List.pairwise_singleton _ top)

/-- The grove of a node has what the node is above. -/
theorem mem_order_single_iff (forest : tree.IsForest) (stands : (single top below).StandsIn tree)
    (id : NodeId) : id ∈ (single top below).order ↔ tree.Above top id := by
  rw [mem_order_iff forest stands]
  exact ⟨fun ⟨_, isTop, above⟩ => List.mem_singleton.mp isTop ▸ above,
    fun above => ⟨top, List.mem_singleton_self top, above⟩⟩

end Grove

namespace Tree

variable {tree : Tree}

/-- Below any node there is a grove. A path of some length leaves room for only so many nodes
below, which the induction is on. -/
theorem IsForest.exists_below (forest : tree.IsForest) (room : Nat) :
    ∀ {id : NodeId} {path : List NodeId}, tree.Path id path → tree.size ≤ path.length + room →
      id.index < tree.size →
      ∃ below : Grove, below.StandsIn tree ∧ below.roots = tree.childrenOf id := by
  induction room with
  | zero =>
      intro id path climb full there
      have none : tree.childrenOf id = [] := by
        refine List.eq_nil_iff_forall_not_mem.mpr fun child listed => ?_
        have longer : tree.Path child (child :: path) :=
          .under (forest.mem_childrenOf_iff.mp listed) climb
        have bound := forest.length_path_le longer (forest.child_there listed)
        rw [List.length_cons] at bound
        omega
      exact ⟨.bare, trivial, none.symm⟩
  | succ room ih =>
      intro id path climb full there
      refine Grove.exists_of_each (fun child listed => forest.child_there listed) ?_
      intro child listed
      refine ih (.under (forest.mem_childrenOf_iff.mp listed) climb) ?_
        (forest.child_there listed)
      rw [List.length_cons]
      omega

/-- **Every subtree is a grove.** -/
theorem IsForest.exists_grove (forest : tree.IsForest) {id : NodeId}
    (there : id.index < tree.size) :
    ∃ below : Grove, (Grove.single id below).StandsIn tree := by
  obtain ⟨path, climb⟩ := forest.exists_path id
  obtain ⟨below, stands, roots⟩ := forest.exists_below tree.size climb (by omega) there
  exact ⟨below, Grove.standsIn_single there roots stands⟩

/-! ### Listing -/

theorem preorderFrom_grove {grove : Grove} (stands : grove.StandsIn tree) (fuel : Nat)
    (pending : List NodeId) :
    tree.preorderFrom (fuel + grove.order.length) (grove.roots ++ pending) =
      (tree.preorderFrom fuel pending).map (grove.order ++ ·) := by
  induction grove generalizing fuel pending with
  | bare =>
      show tree.preorderFrom fuel pending = _
      cases tree.preorderFrom fuel pending <;> rfl
  | plant top below next belowIh nextIh =>
      obtain ⟨there, listed, belowStands, nextStands⟩ := stands
      have length : fuel + (Grove.plant top below next).order.length =
          (fuel + next.order.length) + below.order.length + 1 := by
        simp only [Grove.order, List.length_cons, List.length_append]
        omega
      obtain ⟨node, found⟩ := node?_eq_some_of_lt there
      have children : tree.children top = .ok below.roots := by
        rw [listed, childrenOf_eq found, children, (node_eq_ok_iff tree top node).mpr found]
        rfl
      rw [length, Grove.roots, List.cons_append, preorderFrom, children]
      dsimp only
      rw [belowIh belowStands, nextIh nextStands]
      cases tree.preorderFrom fuel pending with
      | error _ => rfl
      | ok order =>
          show Except.ok _ = Except.ok _
          simp [Grove.order]

/-- A subtree of a forest has no more nodes than the forest. -/
theorem IsForest.length_order_le (forest : tree.IsForest) {id : NodeId} {below : Grove}
    (stands : (Grove.single id below).StandsIn tree) :
    (Grove.single id below).order.length ≤ tree.size :=
  length_le_size (Grove.nodup_order_single forest stands)
    (Grove.there_of_mem_order stands)

/-- **Listing a subtree** gives the nodes of its grove, if they are no more than the tree has. -/
theorem preorder_eq {id : NodeId} {below : Grove} (stands : (Grove.single id below).StandsIn tree)
    (bound : (Grove.single id below).order.length ≤ tree.size) :
    tree.preorder id = .ok (Grove.single id below).order := by
  obtain ⟨fuel, size⟩ : ∃ fuel, tree.size = fuel + (Grove.single id below).order.length :=
    ⟨_, (Nat.sub_add_cancel bound).symm⟩
  have listing := preorderFrom_grove stands fuel []
  rw [preorder, size]
  refine listing.trans ?_
  cases fuel <;> simp [preorderFrom, Except.map]

end Tree

end DeclTree
