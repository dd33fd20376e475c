/-
**Attaching and detaching, exactly.**

Whether a node may be attached is said by `Attachable`, of the links of the tree alone, and why it
may not by `Refusal`, which has only the first reason of all that there are. What a tree is after a
node was attached or detached is said place by place (`Attached`, `Detached`), and nothing else is.

* `IsForest.checkAttachable_eq_ok_iff`, `IsForest.checkAttachable_eq_error_iff`: the check of the
  code decides both, because the search for cycles is exact (`IsForest.wouldCycle_iff`);
* `unlink_link`: detaching undoes attaching, since a node that had no parent is listed nowhere;
* `above_withdraw_iff`: a node that is detached keeps what is below it;
* `append_detach_exact`: **attaching and detaching on any module that a host has worked on**.
-/

import DeclTree.Proofs.Tree.Cycle
import DeclTree.Proofs.Tree.Extend

namespace DeclTree

namespace Tree

/-! ### What may be attached -/

/-- A node may be attached under another one. -/
structure Attachable (tree : Tree) (parent child : NodeId) : Prop where
  parentThere : parent.index < tree.size
  childThere : child.index < tree.size
  notRoot : child ≠ .root
  alone : tree.parentOf child = none
  /-- The child is neither the parent nor above it. -/
  apart : ¬ tree.Above child parent

/-- Why a node may not be attached under another one: the first reason, in this order. -/
inductive Refusal (tree : Tree) (parent child : NodeId) : Violation → Prop
  | noParent (absent : tree.size ≤ parent.index) : Refusal tree parent child (.notInTree parent)
  | noChild (parentThere : parent.index < tree.size) (absent : tree.size ≤ child.index) :
      Refusal tree parent child (.notInTree child)
  | root (parentThere : parent.index < tree.size) (childThere : child.index < tree.size)
      (isRoot : child = .root) : Refusal tree parent child .rootAttached
  | attached (parentThere : parent.index < tree.size) (childThere : child.index < tree.size)
      (notRoot : child ≠ .root) {current : NodeId} (attached : tree.parentOf child = some current) :
      Refusal tree parent child (.alreadyAttached child current)
  | cycle (parentThere : parent.index < tree.size) (childThere : child.index < tree.size)
      (notRoot : child ≠ .root) (alone : tree.parentOf child = none)
      (above : tree.Above child parent) : Refusal tree parent child (.cycle child parent)

variable {tree : Tree} {parent child id : NodeId}

theorem attachable_or_refusal (tree : Tree) (parent child : NodeId) :
    tree.Attachable parent child ∨ ∃ violation, tree.Refusal parent child violation := by
  by_cases parentThere : parent.index < tree.size
  · by_cases childThere : child.index < tree.size
    · by_cases isRoot : child = .root
      · exact .inr ⟨_, .root parentThere childThere isRoot⟩
      · cases attached : tree.parentOf child with
        | some current => exact .inr ⟨_, .attached parentThere childThere isRoot attached⟩
        | none =>
            by_cases above : tree.Above child parent
            · exact .inr ⟨_, .cycle parentThere childThere isRoot attached above⟩
            · exact .inl ⟨parentThere, childThere, isRoot, attached, above⟩
    · exact .inr ⟨_, .noChild parentThere (Nat.not_lt.mp childThere)⟩
  · exact .inr ⟨_, .noParent (Nat.not_lt.mp parentThere)⟩

namespace IsForest

/-- **The check lets through what may be attached.** -/
theorem checkAttachable_eq_ok_iff (forest : tree.IsForest) :
    tree.checkAttachable parent child = .ok () ↔ tree.Attachable parent child := by
  rw [Tree.checkAttachable_eq_ok_iff, ← Bool.not_eq_true, forest.wouldCycle_iff]
  constructor
  · rintro ⟨parentThere, childThere, notRoot, alone, apart⟩
    exact ⟨parentThere, childThere, notRoot, alone, apart⟩
  · rintro ⟨parentThere, childThere, notRoot, alone, apart⟩
    exact ⟨parentThere, childThere, notRoot, alone, apart⟩

/-- The first reason is the one that the check gives. -/
theorem checkAttachable_of_refusal (forest : tree.IsForest) {violation : Violation}
    (refusal : tree.Refusal parent child violation) :
    tree.checkAttachable parent child = .error (.violation violation) := by
  unfold checkAttachable node
  cases refusal with
  | noParent absent => rw [(node?_eq_none_iff tree parent).mpr absent]
  | noChild parentThere absent =>
      obtain ⟨parentNode, above⟩ := node?_eq_some_of_lt parentThere
      rw [above, (node?_eq_none_iff tree child).mpr absent]
  | root parentThere childThere isRoot =>
      obtain ⟨parentNode, above⟩ := node?_eq_some_of_lt parentThere
      obtain ⟨childNode, below⟩ := node?_eq_some_of_lt childThere
      rw [above, below]
      exact if_pos isRoot
  | attached parentThere childThere notRoot attached =>
      obtain ⟨parentNode, above⟩ := node?_eq_some_of_lt parentThere
      obtain ⟨childNode, below⟩ := node?_eq_some_of_lt childThere
      rw [parentOf_eq below] at attached
      rw [above, below]
      dsimp only
      rw [if_neg notRoot, attached]
  | cycle parentThere childThere notRoot alone met =>
      obtain ⟨parentNode, above⟩ := node?_eq_some_of_lt parentThere
      obtain ⟨childNode, below⟩ := node?_eq_some_of_lt childThere
      rw [parentOf_eq below] at alone
      rw [above, below]
      dsimp only
      rw [if_neg notRoot, alone]
      exact if_pos ((forest.wouldCycle_iff parent child).mpr met)

/-- **The check refuses for the first reason**, and for no other one. -/
theorem checkAttachable_eq_error_iff (forest : tree.IsForest) {error : TreeError} :
    tree.checkAttachable parent child = .error error ↔
      ∃ violation, error = .violation violation ∧ tree.Refusal parent child violation := by
  constructor
  · intro refused
    obtain attachable | ⟨violation, refusal⟩ := tree.attachable_or_refusal parent child
    · cases (forest.checkAttachable_eq_ok_iff.mpr attachable).symm.trans refused
    · cases (forest.checkAttachable_of_refusal refusal).symm.trans refused
      exact ⟨violation, rfl, refusal⟩
  · rintro ⟨violation, rfl, refusal⟩
    exact forest.checkAttachable_of_refusal refusal

end IsForest

/-! ### What is changed -/

/-- One tree is the other one with a node attached: the child knows its parent, the parent has the
child behind its other children, and all else is as it was. -/
def Attached (tree : Tree) (parent child : NodeId) (after : Tree) : Prop :=
  ∀ id, after.node? id = (tree.node? id).map fun node =>
    { node with
      parent := if id = child then some parent else node.parent
      children := if id = parent then node.children ++ [child] else node.children }

/-- One tree is the other one with a node detached: the node has no parent, the one that it had does
not list it any more, and all else is as it was. -/
def Detached (tree : Tree) (child : NodeId) (after : Tree) : Prop :=
  ∀ id, after.node? id = (tree.node? id).map fun node =>
    { node with
      parent := if id = child then none else node.parent
      children := if tree.parentOf child = some id then node.children.erase child
        else node.children }

/-- The tree with a node detached. -/
def withdraw (tree : Tree) (child : NodeId) : Tree :=
  match tree.parentOf child with
  | some parent => tree.unlink parent child
  | none => tree

theorem withdraw_of_attached (attached : tree.parentOf child = some parent) :
    tree.withdraw child = tree.unlink parent child := by
  rw [withdraw, attached]

theorem withdraw_of_alone (alone : tree.parentOf child = none) : tree.withdraw child = tree := by
  rw [withdraw, alone]

theorem size_withdraw (tree : Tree) (child : NodeId) : (tree.withdraw child).size = tree.size := by
  unfold withdraw
  split
  · exact size_unlink _ _ _
  · rfl

theorem parentOf_withdraw (tree : Tree) (child id : NodeId) :
    (tree.withdraw child).parentOf id = if id = child then none else tree.parentOf id := by
  cases attached : tree.parentOf child with
  | some parent => rw [withdraw_of_attached attached, parentOf_unlink]
  | none =>
      rw [withdraw_of_alone attached]
      split
      · next same => rw [same, attached]
      · rfl

theorem IsForest.withdraw (forest : tree.IsForest) (child : NodeId) :
    (tree.withdraw child).IsForest := by
  cases attached : tree.parentOf child with
  | some parent =>
      rw [withdraw_of_attached attached]
      exact isForest_unlink forest attached
  | none => rwa [withdraw_of_alone attached]

/-- In a forest the node is listed once, so taking it from the list takes one place. -/
theorem IsForest.detached_withdraw (forest : tree.IsForest) (child : NodeId) :
    tree.Detached child (tree.withdraw child) := by
  intro id
  cases attached : tree.parentOf child with
  | some parent =>
      rw [withdraw_of_attached attached, node?_unlink]
      refine Option.map_congr fun node found => ?_
      have nodup : node.children.Nodup := childrenOf_eq found ▸ forest.nodup_childrenOf id
      by_cases hit : id = parent
      · subst hit
        rw [if_pos rfl, if_pos rfl, nodup.erase_eq_filter]
        congr 1
        refine List.filter_congr fun other _ => ?_
        rw [Bool.eq_iff_iff, decide_eq_true_iff, bne_iff_ne]
      · rw [if_neg hit, if_neg fun same => hit (Option.some.inj same).symm]
  | none =>
      rw [withdraw_of_alone attached]
      cases found : tree.node? id with
      | none => rfl
      | some node =>
          have kept : (if id = child then none else node.parent) = node.parent := by
            split
            · next same => rw [← parentOf_eq found, same, attached]
            · rfl
          rw [Option.map_some, kept, if_neg nofun]

/-- **Detaching undoes attaching.** The child was listed nowhere, so taking it away takes the last
place of the list and no other one. -/
theorem unlink_link (forest : tree.IsForest) (alone : tree.parentOf child = none) :
    (tree.link parent child).unlink parent child = tree := by
  refine ext_node? fun id => ?_
  rw [node?_unlink, node?_link, Option.map_map]
  cases found : tree.node? id with
  | none => rfl
  | some node =>
      have parentKept : (if id = child then none else if id = child then some parent
          else node.parent) = node.parent := by
        by_cases same : id = child
        · rw [if_pos same, ← parentOf_eq found, same, alone]
        · rw [if_neg same, if_neg same]
      have unlisted : child ∉ node.children := fun member => by
        rw [← childrenOf_eq found, forest.mem_childrenOf_iff, alone] at member
        cases member
      have childrenKept : (if id = parent then
          (if id = parent then node.children ++ [child] else node.children).filter (· ≠ child)
          else if id = parent then node.children ++ [child] else node.children) =
          node.children := by
        by_cases same : id = parent
        · rw [if_pos same, if_pos same, List.filter_append, List.filter_eq_self.mpr]
          · simp
          · intro other member
            exact decide_eq_true fun hit => unlisted (hit ▸ member)
        · rw [if_neg same, if_neg same]
      show some { node with parent := _, children := _ } = some node
      rw [parentKept, childrenKept]

/-- **A node that is detached keeps what is below it.** -/
theorem above_withdraw_iff : (tree.withdraw child).Above child id ↔ tree.Above child id := by
  constructor
  · refine Relation.ReflTransGen.mono (fun lower upper attached => ?_) _ _
    rw [parentOf_withdraw] at attached
    split at attached
    · cases attached
    · exact attached
  · intro above
    induction above using Relation.ReflTransGen.head_induction_on with
    | refl => exact Above.refl _ child
    | @head lower upper attached _ ih =>
        by_cases same : lower = child
        · rw [same]
          exact Above.refl _ child
        · refine ih.trans (above_of_parentOf ?_)
          rw [parentOf_withdraw, if_neg same, attached]

/-- **Where a detached node may be attached again**: everywhere but below itself. -/
theorem attachable_withdraw_iff (childThere : child.index < tree.size) (notRoot : child ≠ .root) :
    (tree.withdraw child).Attachable parent child ↔
      parent.index < tree.size ∧ ¬ tree.Above child parent := by
  constructor
  · intro attachable
    exact ⟨size_withdraw tree child ▸ attachable.parentThere,
      fun above => attachable.apart (above_withdraw_iff.mpr above)⟩
  · rintro ⟨parentThere, apart⟩
    exact {
      parentThere := by rwa [size_withdraw]
      childThere := by rwa [size_withdraw]
      notRoot
      alone := by rw [parentOf_withdraw, if_pos rfl]
      apart := fun above => apart (above_withdraw_iff.mp above) }

end Tree

namespace Build

variable {workspace : Workspace} {parent child : NodeId}

theorem append_eq_ok_iff (forest : workspace.tree.IsForest) {after : Workspace} :
    append parent child workspace = .ok () after ↔ workspace.tree.Attachable parent child ∧
      after = { workspace with tree := workspace.tree.link parent child } := by
  rw [append_apply, ← forest.checkAttachable_eq_ok_iff]
  cases workspace.tree.checkAttachable parent child <;> simp [eq_comm]

/-- **What may be attached is attached.** -/
theorem exists_append_iff (forest : workspace.tree.IsForest) :
    (∃ after, append parent child workspace = .ok () after) ↔
      workspace.tree.Attachable parent child := by
  simp only [append_eq_ok_iff forest, exists_and_left, exists_eq, and_true]

theorem append_eq_error_iff (forest : workspace.tree.IsForest) {error : TreeError}
    {after : Workspace} :
    append parent child workspace = .error error after ↔ after = workspace ∧
      ∃ violation, error = .violation violation ∧
        workspace.tree.Refusal parent child violation := by
  rw [append_apply, ← forest.checkAttachable_eq_error_iff]
  cases workspace.tree.checkAttachable parent child <;> simp [eq_comm, and_comm]

theorem detach_ok (there : child.index < workspace.tree.size) :
    detach child workspace =
      .ok () { workspace with tree := workspace.tree.withdraw child } := by
  obtain ⟨node, found⟩ := Tree.node?_eq_some_of_lt there
  have looked : workspace.tree.parent child = .ok (workspace.tree.parentOf child) := by
    rw [Tree.parent, (Tree.node_eq_ok_iff _ _ _).mpr found, Tree.parentOf_eq found]
    rfl
  rw [detach_apply, Tree.detach, looked, Tree.withdraw]
  cases workspace.tree.parentOf child <;> rfl

theorem detach_error (absent : workspace.tree.size ≤ child.index) :
    detach child workspace = .error (.violation (.notInTree child)) workspace := by
  rw [detach_apply, Tree.detach, Tree.parent, Tree.node,
    (Tree.node?_eq_none_iff _ _).mpr absent]
  rfl

end Build

/-- **Attaching and detaching, exactly**, on any module that a host has worked on, for any two
places. A node is attached exactly if both places are taken, the node is not the module, it has no
parent, and it is neither the new parent nor above it; otherwise the first of these reasons is
reported and nothing is changed. Attaching gives the node its parent and the parent its last child,
and changes nothing else; detaching it then restores what was there. A node that is there can always
be detached, which takes it from its parent, and does nothing where there is none; and from there,
unless it is the module, it can be attached under every node but those below itself. -/
theorem append_detach_exact (name : Name) (supply : SymbolSupply) (log : Log) (acts : List Act)
    (parent child : NodeId) :
    let before := (Workspace.ofModule name supply log).after acts
    let tree := before.tree
    ((∃ after, Build.append parent child before = .ok () after) ↔
        tree.Attachable parent child) ∧
      (∀ error after, Build.append parent child before = .error error after ↔ after = before ∧
        ∃ violation, error = .violation violation ∧ tree.Refusal parent child violation) ∧
      (∀ after, Build.append parent child before = .ok () after →
        after = { before with tree := after.tree } ∧ tree.Attached parent child after.tree ∧
          Build.detach child after = .ok () before) ∧
      (tree.size ≤ child.index →
        Build.detach child before = .error (.violation (.notInTree child)) before) ∧
      (child.index < tree.size → ∃ after, Build.detach child before = .ok () after ∧
        after = { before with tree := after.tree } ∧ tree.Detached child after.tree ∧
          (tree.parentOf child = none → after = before) ∧
          (child ≠ .root → ∀ target, (∃ later, Build.append target child after = .ok () later) ↔
            target.index < tree.size ∧ ¬ tree.Above child target)) := by
  intro before tree
  have forest : tree.IsForest := isForest_after name supply log acts
  refine ⟨?_, fun error after => Build.append_eq_error_iff forest, fun after appended => ?_,
    Build.detach_error, fun there => ?_⟩
  · exact Build.exists_append_iff forest
  · obtain ⟨attachable, rfl⟩ := (Build.append_eq_ok_iff forest).mp appended
    refine ⟨rfl, Tree.node?_link tree parent child, ?_⟩
    have attached : (tree.link parent child).parentOf child = some parent := by
      rw [Tree.parentOf_link attachable.childThere, if_pos rfl]
    rw [Build.detach_ok (by rw [Tree.size_link]; exact attachable.childThere),
      Tree.withdraw_of_attached attached, Tree.unlink_link forest attachable.alone]
  · refine ⟨_, Build.detach_ok there, rfl, forest.detached_withdraw child, fun alone => ?_,
      fun notRoot target => ?_⟩
    · rw [Tree.withdraw_of_alone alone]
    · rw [Build.exists_append_iff (forest.withdraw child)]
      exact Tree.attachable_withdraw_iff there notRoot

end DeclTree
