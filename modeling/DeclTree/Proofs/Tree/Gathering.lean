/-
**Several nodes attached under one.**

`linkAll` attaches some nodes under another one, one after the other, and changes them and that one
only (`node?_linkAll`). `Gathers` says when each of these attachments is let through, if the other
one has no parent: the nodes are unlinked, no two of them are the same, and it is not among them.

* `checkAttachable_iff_of_alone`: what this comes to for a single node;
* `gathers_cons_iff`: the first node is attached, and the rest is gathered in the tree after that;
* `exists_first_again`: a list that names a node twice has a place where this first shows;
* `above_linkAll_iff`: what is below the new parent afterwards.
-/

import DeclTree.Proofs.Build.Spared
import DeclTree.Proofs.Tree.Attachment
import DeclTree.Proofs.Tree.Extend
import Mathlib.Data.List.Induction

namespace DeclTree.Tree

/-- A node that is there, is not the module, and is attached to nothing. -/
structure Unlinked (tree : Tree) (id : NodeId) : Prop where
  there : id.index < tree.size
  notRoot : id ≠ .root
  alone : tree.parentOf id = none

/-- The tree with some nodes attached under another one, the first one first. -/
def linkAll (tree : Tree) (parent : NodeId) (children : List NodeId) : Tree :=
  children.foldl (fun tree child => tree.link parent child) tree

/-- Some nodes may be attached under another one, one after the other. -/
structure Gathers (tree : Tree) (parent : NodeId) (children : List NodeId) : Prop where
  unlinked : ∀ child ∈ children, tree.Unlinked child
  nodup : children.Nodup
  apart : parent ∉ children

variable {tree : Tree} {parent child id : NodeId} {children : List NodeId}

/-! ### Unlinked nodes -/

/-- A node is an operand for a builder exactly if it is unlinked. -/
theorem checkUnlinked_eq_ok_iff : Builder.checkUnlinked tree id = .ok () ↔ tree.Unlinked id := by
  refine ⟨fun passed => ?_, fun unlinked => ?_⟩
  · obtain ⟨alone, notRoot⟩ := unlinked_of_checkUnlinked passed
    refine ⟨?_, notRoot, alone⟩
    unfold Builder.checkUnlinked Tree.node at passed
    cases found : tree.node? id with
    | some node => exact lt_of_node? found
    | none =>
        rw [found] at passed
        cases passed
  · obtain ⟨node, found⟩ := node?_eq_some_of_lt unlinked.there
    have alone : node.parent = none := (parentOf_eq found).symm.trans unlinked.alone
    unfold Builder.checkUnlinked
    rw [(node_eq_ok_iff tree id node).mpr found]
    exact if_neg fun either => either.elim (by simp [alone]) unlinked.notRoot

/-- Nodes are operands for a call exactly if all of them are unlinked. -/
theorem forM_checkUnlinked_eq_ok_iff :
    children.forM (Builder.checkUnlinked tree) = .ok () ↔
      ∀ child ∈ children, tree.Unlinked child := by
  rw [forM_eq_ok_iff]
  simp only [checkUnlinked_eq_ok_iff]

theorem lt_size_push (tree : Tree) (node : Node) : tree.size < (tree.push node).2.size := by
  rw [size_push]
  exact Nat.lt_succ_self _

theorem parentOf_push_self (tree : Tree) (node : Node) :
    (tree.push node).2.parentOf ⟨tree.size⟩ = node.parent :=
  parentOf_eq ((node?_push tree node _).trans (if_pos rfl))

/-- A new node is unlinked, unless it is the first one. -/
theorem unlinked_push_self (node : Node) (alone : node.parent = none)
    (there : id.index < tree.size) : (tree.push node).2.Unlinked ⟨tree.size⟩ where
  there := lt_size_push tree node
  notRoot isRoot := by
    have first : tree.size = 0 := congrArg NodeId.index isRoot
    omega
  alone := (parentOf_push_self tree node).trans alone

theorem unlinked_push_iff (node : Node) (alone : node.parent = none) :
    (tree.push node).2.Unlinked id ∧ id ≠ ⟨tree.size⟩ ↔ tree.Unlinked id := by
  constructor
  · rintro ⟨⟨there, notRoot, unattached⟩, other⟩
    rw [size_push] at there
    rw [parentOf_push tree node alone] at unattached
    refine ⟨?_, notRoot, unattached⟩
    have different : id.index ≠ tree.size := fun same => other (congrArg NodeId.mk same)
    omega
  · rintro ⟨there, notRoot, unattached⟩
    refine ⟨⟨?_, notRoot, (parentOf_push tree node alone id).trans unattached⟩, ?_⟩
    · rw [size_push]
      omega
    · rintro rfl
      exact Nat.lt_irrefl _ there

theorem unlinked_link_iff (there : child.index < tree.size) :
    (tree.link parent child).Unlinked id ↔ tree.Unlinked id ∧ id ≠ child := by
  constructor
  · rintro ⟨inside, notRoot, alone⟩
    rw [size_link] at inside
    rw [parentOf_link there] at alone
    split at alone
    · cases alone
    · next other => exact ⟨⟨inside, notRoot, alone⟩, other⟩
  · rintro ⟨⟨inside, notRoot, alone⟩, other⟩
    exact ⟨by rwa [size_link], notRoot, by rw [parentOf_link there, if_neg other, alone]⟩

theorem wouldCycle_self (tree : Tree) (id : NodeId) : tree.wouldCycle id id = true := by
  unfold wouldCycle meets
  exact if_pos rfl

/-- Under a node without parent every other unlinked node may be attached. -/
theorem checkAttachable_iff_of_alone (there : parent.index < tree.size)
    (alone : tree.parentOf parent = none) :
    tree.checkAttachable parent child = .ok () ↔ tree.Unlinked child ∧ child ≠ parent := by
  constructor
  · intro attachable
    obtain ⟨_, inside, notRoot, unattached, noCycle⟩ :=
      (checkAttachable_eq_ok_iff tree parent child).mp attachable
    refine ⟨⟨inside, notRoot, unattached⟩, ?_⟩
    rintro rfl
    cases (wouldCycle_self tree child).symm.trans noCycle
  · rintro ⟨⟨inside, notRoot, unattached⟩, other⟩
    exact checkAttachable_of_alone there inside notRoot other.symm alone unattached

/-! ### The tree with all of them attached -/

theorem linkAll_cons (tree : Tree) (parent child : NodeId) (rest : List NodeId) :
    tree.linkAll parent (child :: rest) = (tree.link parent child).linkAll parent rest := rfl

/-- **The nodes know their parent, the parent has them behind its other children, and nothing else
is changed.** -/
theorem node?_linkAll (tree : Tree) (parent : NodeId) (children : List NodeId) (id : NodeId) :
    (tree.linkAll parent children).node? id = (tree.node? id).map fun node =>
      { node with
        parent := if id ∈ children then some parent else node.parent
        children := if id = parent then node.children ++ children else node.children } := by
  induction children generalizing tree with
  | nil => cases found : tree.node? id <;> simp [linkAll, found]
  | cons child rest ih =>
      rw [linkAll_cons, ih, node?_link, Option.map_map]
      refine congrArg (Option.map · _) (funext fun node => ?_)
      have parents : (if id ∈ rest then some parent else if id = child then some parent
          else node.parent) = if id ∈ child :: rest then some parent else node.parent := by
        by_cases later : id ∈ rest <;> by_cases first : id = child <;>
          simp [later, List.mem_cons, first]
      have children : (if id = parent then (if id = parent then node.children ++ [child]
          else node.children) ++ rest else if id = parent then node.children ++ [child]
          else node.children) =
          if id = parent then node.children ++ child :: rest else node.children := by
        by_cases above : id = parent <;> simp [above]
      show { node with parent := _, children := _ } = _
      rw [parents, children]

theorem size_linkAll (tree : Tree) (parent : NodeId) (children : List NodeId) :
    (tree.linkAll parent children).size = tree.size := by
  induction children generalizing tree with
  | nil => rfl
  | cons child rest ih => rw [linkAll_cons, ih, size_link]

theorem labelOf_linkAll (tree : Tree) (parent : NodeId) (children : List NodeId) (id : NodeId) :
    (tree.linkAll parent children).labelOf id = tree.labelOf id := by
  rw [labelOf, node?_linkAll, Option.map_map]
  rfl

theorem parentOf_linkAll (there : id.index < tree.size) :
    (tree.linkAll parent children).parentOf id =
      if id ∈ children then some parent else tree.parentOf id := by
  obtain ⟨node, found⟩ := node?_eq_some_of_lt there
  rw [parentOf, node?_linkAll, found, parentOf_eq found]
  rfl

/-- A node that is not among them keeps its parent, and stays without where it has none. -/
theorem parentOf_linkAll_of_not_mem (unlisted : id ∉ children) :
    (tree.linkAll parent children).parentOf id = tree.parentOf id := by
  refine parentOf_congr ?_
  rw [node?_linkAll, Option.map_map]
  exact congrArg (Option.map · _) (funext fun _ => if_neg unlisted)

theorem childrenOf_linkAll (there : parent.index < tree.size) :
    (tree.linkAll parent children).childrenOf parent = tree.childrenOf parent ++ children := by
  obtain ⟨node, found⟩ := node?_eq_some_of_lt there
  rw [childrenOf, node?_linkAll, found, childrenOf_eq found, Option.map_some, Option.map_some,
    if_pos rfl]
  rfl

/-! ### What may be gathered -/

theorem gathers_nil (tree : Tree) (parent : NodeId) : tree.Gathers parent [] :=
  ⟨List.forall_mem_nil _, List.nodup_nil, List.not_mem_nil⟩

/-- **One node after the other.** -/
theorem gathers_cons_iff {rest : List NodeId} :
    tree.Gathers parent (child :: rest) ↔
      (tree.Unlinked child ∧ child ≠ parent) ∧ (tree.link parent child).Gathers parent rest := by
  constructor
  · rintro ⟨unlinked, nodup, apart⟩
    obtain ⟨first, later⟩ := List.forall_mem_cons.mp unlinked
    obtain ⟨once, nodup⟩ := List.nodup_cons.mp nodup
    refine ⟨⟨first, fun same => apart (same ▸ List.mem_cons_self)⟩, fun other member => ?_, nodup,
      fun member => apart (List.mem_cons_of_mem _ member)⟩
    refine (unlinked_link_iff first.there).mpr ⟨later other member, ?_⟩
    rintro rfl
    exact once member
  · rintro ⟨⟨first, other⟩, unlinked, nodup, apart⟩
    have later := fun id member => (unlinked_link_iff first.there).mp (unlinked id member)
    refine ⟨List.forall_mem_cons.mpr ⟨first, fun id member => (later id member).1⟩,
      List.nodup_cons.mpr ⟨fun member => (later child member).2 rfl, nodup⟩, fun member => ?_⟩
    rcases List.mem_cons.mp member with same | below
    · exact other same.symm
    · exact apart below

/-- Nodes are gathered under a new one. -/
theorem gathers_push_iff (node : Node) (alone : node.parent = none) :
    (tree.push node).2.Gathers ⟨tree.size⟩ children ↔
      (∀ child ∈ children, tree.Unlinked child) ∧ children.Nodup := by
  constructor
  · rintro ⟨unlinked, nodup, apart⟩
    refine ⟨fun child member => ?_, nodup⟩
    refine (unlinked_push_iff node alone).mp ⟨unlinked child member, ?_⟩
    rintro rfl
    exact apart member
  · rintro ⟨unlinked, nodup⟩
    have each := fun child member => (unlinked_push_iff node alone).mpr (unlinked child member)
    exact ⟨fun child member => (each child member).1, nodup, fun member => (each _ member).2 rfl⟩

/-- A list that names a node twice names one again for the first time. -/
theorem exists_first_again (repeated : ¬children.Nodup) :
    ∃ first again rest, children = first ++ again :: rest ∧ first.Nodup ∧ again ∈ first := by
  induction children using List.reverseRecOn with
  | nil => exact absurd List.nodup_nil repeated
  | append_singleton front last ih =>
      by_cases nodup : front.Nodup
      · refine ⟨front, last, [], rfl, nodup, ?_⟩
        by_contra absent
        exact repeated (nodup.append (List.nodup_singleton last)
          (List.disjoint_singleton.mpr absent))
      · obtain ⟨first, again, rest, rfl, once, member⟩ := ih nodup
        exact ⟨first, again, rest ++ [last], by rw [List.append_assoc]; rfl, once, member⟩

/-! ### What is above what -/

theorem Above.linkAll {top : NodeId} (above : tree.Above top id)
    (gathers : tree.Gathers parent children) : (tree.linkAll parent children).Above top id := by
  induction children generalizing tree with
  | nil => exact above
  | cons child rest ih =>
      obtain ⟨⟨first, _⟩, later⟩ := gathers_cons_iff.mp gathers
      exact ih (above.link first.there first.alone) later

theorem above_of_above_linkAll {top : NodeId} (gathers : tree.Gathers parent children)
    (above : (tree.linkAll parent children).Above top id) :
    tree.Above top id ∨ ∃ child ∈ children, tree.Above child id := by
  induction children generalizing tree with
  | nil => exact .inl above
  | cons child rest ih =>
      obtain ⟨⟨first, _⟩, later⟩ := gathers_cons_iff.mp gathers
      rcases ih later above with old | ⟨other, member, below⟩
      · exact (above_of_above_link first.there old).imp_right fun new =>
          ⟨child, List.mem_cons_self, new⟩
      · rcases above_of_above_link first.there below with old | new
        · exact .inr ⟨other, List.mem_cons_of_mem _ member, old⟩
        · exact .inr ⟨child, List.mem_cons_self, new⟩

/-- **Below a node that had no children are those below the nodes that it was given.** -/
theorem above_linkAll_iff (gathers : tree.Gathers parent children)
    (childless : ∀ id, tree.parentOf id ≠ some parent) (other : id ≠ parent) :
    (tree.linkAll parent children).Above parent id ↔ ∃ child ∈ children, tree.Above child id := by
  constructor
  · intro above
    rcases above_of_above_linkAll gathers above with old | new
    · obtain ⟨child, attached, _⟩ := old.childOf other
      exact absurd attached (childless child)
    · exact new
  · rintro ⟨child, member, below⟩
    have attached : (tree.linkAll parent children).parentOf child = some parent := by
      rw [parentOf_linkAll (gathers.unlinked child member).there, if_pos member]
    exact (above_of_parentOf attached).trans (below.linkAll gathers)

end DeclTree.Tree
