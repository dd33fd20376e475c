/-
**Trees of nodes are forests, and every change of one keeps it so.**

`IsForest` says of the links of a tree that both copies of a link agree, that no link leaves the
tree, that the module stands at the top, and that climbing from parent to parent ends
(`Path`). The changes of a tree keep this:

* `isForest_push`, `isForest_putTag`: a new node has no links, and an annotation is none;
* `isForest_link`: a child that `checkAttachable` lets through is not above its new parent, because
  the search of `wouldCycle` cannot miss it (`wouldCycle_of_above`): as long as the child is above
  the parent, the climb has not reached the child yet, and some node that is still to be searched
  is above the parent;
* `isForest_unlink`: taking links away closes no cycle.

In a forest no node is above its own parent (`IsForest.not_above_of_parentOf`), so a path repeats
no node and is no longer than the tree (`IsForest.length_path_le`).
-/

import DeclTree.Proofs.Tree.Links
import Mathlib.Data.List.Nodup
import Mathlib.Data.List.Perm.Subperm
import Mathlib.Logic.Relation

namespace DeclTree.Tree

/-! ### Climbing -/

/-- `top` is the node itself or one of those above it. -/
def Above (tree : Tree) (top id : NodeId) : Prop :=
  Relation.ReflTransGen (fun lower upper => tree.parentOf lower = some upper) id top

/-- Climbing from a node passes these nodes, the node itself first and one without parent last. -/
inductive Path (tree : Tree) : NodeId → List NodeId → Prop
  | top {id : NodeId} (alone : tree.parentOf id = none) : Path tree id [id]
  | under {id parent : NodeId} {path : List NodeId} (attached : tree.parentOf id = some parent)
      (rest : Path tree parent path) : Path tree id (id :: path)

/-- The rules that the links of a tree keep. -/
structure IsForest (tree : Tree) : Prop where
  /-- Whatever is stored as a parent is in the tree. -/
  parent_there : ∀ {child parent : NodeId},
    tree.parentOf child = some parent → parent.index < tree.size
  /-- Whatever is stored as a child is in the tree. -/
  child_there : ∀ {child parent : NodeId},
    child ∈ tree.childrenOf parent → child.index < tree.size
  /-- A node lists exactly those that know it as their parent. -/
  mem_childrenOf_iff : ∀ {child parent : NodeId},
    child ∈ tree.childrenOf parent ↔ tree.parentOf child = some parent
  /-- No node is listed twice. -/
  nodup_childrenOf : ∀ parent : NodeId, (tree.childrenOf parent).Nodup
  /-- There is a module. -/
  root_there : NodeId.root.index < tree.size
  /-- The module is attached to nothing. -/
  root_alone : tree.parentOf .root = none
  /-- Climbing from a node comes to one without parent. -/
  exists_path : ∀ id : NodeId, ∃ path, tree.Path id path

variable {tree : Tree}

theorem Above.refl (tree : Tree) (id : NodeId) : tree.Above id id := Relation.ReflTransGen.refl

theorem Above.trans {high middle low : NodeId} (upper : tree.Above high middle)
    (lower : tree.Above middle low) : tree.Above high low :=
  Relation.ReflTransGen.trans lower upper

theorem above_of_parentOf {id parent : NodeId} (attached : tree.parentOf id = some parent) :
    tree.Above parent id :=
  Relation.ReflTransGen.single attached

/-- Of two nodes above a third one is above the other. -/
theorem Above.total {first second id : NodeId} (one : tree.Above first id)
    (two : tree.Above second id) : tree.Above second first ∨ tree.Above first second :=
  Relation.ReflTransGen.total_of_right_unique
    (fun _ _ _ up other => Option.some.inj (up.symm.trans other)) one two

/-- What is above a node, and is not the node, is above its parent. -/
theorem Above.parentOf {top id : NodeId} (above : tree.Above top id) (other : id ≠ top) :
    ∃ parent, tree.parentOf id = some parent ∧ tree.Above top parent := by
  rcases Relation.ReflTransGen.cases_head above with same | ⟨parent, attached, rest⟩
  · exact absurd same other
  · exact ⟨parent, attached, rest⟩

/-- Below a node, and not the node, is below one that knows it as its parent. -/
theorem Above.childOf {top id : NodeId} (above : tree.Above top id) (other : id ≠ top) :
    ∃ child, tree.parentOf child = some top ∧ tree.Above child id := by
  rcases Relation.ReflTransGen.cases_tail above with same | ⟨child, rest, attached⟩
  · exact absurd same.symm other
  · exact ⟨child, attached, rest⟩

/-! ### Paths -/

theorem Path.unique {id : NodeId} {path other : List NodeId} (one : tree.Path id path)
    (two : tree.Path id other) : path = other := by
  induction one generalizing other with
  | top alone =>
      cases two with
      | top _ => rfl
      | under attached _ => exact absurd (alone.symm.trans attached) nofun
  | under attached _ ih =>
      cases two with
      | top alone => exact absurd (alone.symm.trans attached) nofun
      | under attached' rest =>
          cases Option.some.inj (attached.symm.trans attached')
          rw [ih rest]

/-- What is above a node lies on its path, and its own path is the rest. -/
theorem Path.suffix {top id : NodeId} (above : tree.Above top id) {path : List NodeId}
    (climb : tree.Path id path) : ∃ rest, tree.Path top rest ∧ rest <:+ path := by
  induction above using Relation.ReflTransGen.head_induction_on generalizing path with
  | refl => exact ⟨path, climb, List.suffix_refl path⟩
  | head attached _ ih =>
      cases climb with
      | top alone => exact absurd (alone.symm.trans attached) nofun
      | under attached' rest =>
          cases Option.some.inj (attached.symm.trans attached')
          obtain ⟨tail, tailPath, suffix⟩ := ih rest
          exact ⟨tail, tailPath, suffix.trans (List.suffix_cons _ _)⟩

theorem Path.above_of_mem {id : NodeId} {path : List NodeId} (climb : tree.Path id path) :
    ∀ top ∈ path, tree.Above top id := by
  induction climb with
  | @top id alone =>
      intro top member
      rw [List.mem_singleton.mp member]
      exact Above.refl tree id
  | @under id parent path attached _ ih =>
      intro top member
      rcases List.mem_cons.mp member with same | member
      · rw [same]
        exact Above.refl tree id
      · exact (ih top member).trans (above_of_parentOf attached)

namespace IsForest

/-- **No cycle.** No node is above its own parent. -/
theorem not_above_of_parentOf (forest : tree.IsForest) {id parent : NodeId}
    (attached : tree.parentOf id = some parent) : ¬ tree.Above id parent := by
  intro above
  obtain ⟨path, climb⟩ := forest.exists_path parent
  obtain ⟨rest, again, suffix⟩ := Path.suffix above climb
  have longer : rest = id :: path := again.unique (.under attached climb)
  have bound := suffix.length_le
  rw [longer, List.length_cons] at bound
  omega

theorem nodup_path (forest : tree.IsForest) {id : NodeId} {path : List NodeId}
    (climb : tree.Path id path) : path.Nodup := by
  induction climb with
  | top _ => exact List.nodup_singleton _
  | under attached rest ih =>
      refine List.nodup_cons.mpr ⟨fun member => ?_, ih⟩
      exact forest.not_above_of_parentOf attached (rest.above_of_mem _ member)

/-- What is above a node of the tree is in the tree. -/
theorem there_of_above (forest : tree.IsForest) {top id : NodeId} (above : tree.Above top id)
    (there : id.index < tree.size) : top.index < tree.size := by
  rcases Relation.ReflTransGen.cases_tail above with same | ⟨child, _, attached⟩
  · rwa [same]
  · exact forest.parent_there attached

end IsForest

/-- What is below a node of the tree is in the tree. -/
theorem lt_of_above {top id : NodeId} (above : tree.Above top id)
    (there : top.index < tree.size) : id.index < tree.size := by
  rcases Relation.ReflTransGen.cases_head above with same | ⟨parent, attached, _⟩
  · rwa [same]
  · exact lt_of_parentOf attached

/-- Different places of a tree are no more than it has nodes. -/
theorem length_le_size {ids : List NodeId} (nodup : ids.Nodup)
    (there : ∀ id ∈ ids, id.index < tree.size) : ids.length ≤ tree.size := by
  have places : (ids.map NodeId.index).Nodup :=
    nodup.map fun ⟨_⟩ ⟨_⟩ same => congrArg NodeId.mk same
  have subset : ids.map NodeId.index ⊆ List.range tree.size := by
    intro place member
    obtain ⟨id, inside, rfl⟩ := List.mem_map.mp member
    exact List.mem_range.mpr (there id inside)
  have bound := (List.subperm_of_subset places subset).length_le
  rwa [List.length_map, List.length_range] at bound

theorem IsForest.length_path_le (forest : tree.IsForest) {id : NodeId} {path : List NodeId}
    (climb : tree.Path id path) (there : id.index < tree.size) : path.length ≤ tree.size :=
  length_le_size (forest.nodup_path climb) fun top member =>
    forest.there_of_above (climb.above_of_mem top member) there

/-! ### The search for cycles -/

/-- The search cannot end without a meeting as long as the climb has the child ahead and some node
that is still to be searched is above the parent. -/
theorem meets_of_above (forest : tree.IsForest) {parent child : NodeId} (fuel : Nat) :
    ∀ (above : NodeId) (below : List NodeId), tree.Above child above →
      (∃ lower ∈ below, tree.Above lower parent) →
      tree.meets parent child fuel (some above) below = true := by
  induction fuel with
  | zero => exact fun _ _ _ _ => rfl
  | succ fuel ih =>
      rintro above below ahead ⟨lower, member, top⟩
      unfold meets
      by_cases met : above = child
      · rw [if_pos met]
      · rw [if_neg met]
        obtain ⟨next, attached, ahead⟩ := ahead.parentOf met
        cases below with
        | nil => exact absurd member List.not_mem_nil
        | cons first rest =>
            by_cases found : first = parent
            · exact if_pos found
            · show (if first = parent then true else _) = true
              rw [if_neg found, show (tree.node? above).bind Node.parent = some next from attached]
              refine ih next _ ahead ?_
              rcases List.mem_cons.mp member with same | later
              · subst same
                obtain ⟨step, listed, top⟩ := top.childOf (Ne.symm found)
                refine ⟨step, List.mem_append_left _ (List.mem_reverse.mpr ?_), top⟩
                exact forest.mem_childrenOf_iff.mpr listed
              · exact ⟨lower, List.mem_append_right _ later, top⟩

/-- **The cycle check misses no cycle.** -/
theorem wouldCycle_of_above (forest : tree.IsForest) {parent child : NodeId}
    (above : tree.Above child parent) : tree.wouldCycle parent child = true :=
  meets_of_above forest _ parent [child] above ⟨child, List.mem_singleton_self child, above⟩

/-- A parentless node has nothing above it that could be its child. -/
theorem wouldCycle_of_alone {parent child : NodeId} (there : parent.index < tree.size)
    (alone : tree.parentOf parent = none) (other : parent ≠ child) :
    tree.wouldCycle parent child = false := by
  obtain ⟨fuel, size⟩ : ∃ fuel, tree.size = fuel + 1 := ⟨tree.size - 1, by omega⟩
  have ended : (tree.node? parent).bind Node.parent = none := alone
  rw [wouldCycle, size, meets]
  simp only [if_neg other, if_neg (Ne.symm other), ended]
  rfl

/-! ### What keeps a forest -/

/-- A tree with the same links and no fewer nodes is a forest too. -/
theorem IsForest.of_links {other : Tree} (forest : tree.IsForest) (size : tree.size ≤ other.size)
    (parents : ∀ id, other.parentOf id = tree.parentOf id)
    (children : ∀ id, other.childrenOf id = tree.childrenOf id) : other.IsForest where
  parent_there attached := by
    rw [parents] at attached
    exact Nat.lt_of_lt_of_le (forest.parent_there attached) size
  child_there member := by
    rw [children] at member
    exact Nat.lt_of_lt_of_le (forest.child_there member) size
  mem_childrenOf_iff := by
    intro child parent
    rw [children, parents]
    exact forest.mem_childrenOf_iff
  nodup_childrenOf parent := by
    rw [children]
    exact forest.nodup_childrenOf parent
  root_there := Nat.lt_of_lt_of_le forest.root_there size
  root_alone := by
    rw [parents]
    exact forest.root_alone
  exists_path id := by
    obtain ⟨path, climb⟩ := forest.exists_path id
    refine ⟨path, ?_⟩
    induction climb with
    | top alone => exact .top ((parents _).trans alone)
    | under attached _ ih => exact .under ((parents _).trans attached) ih

theorem node?_ofModule (name : Name) (id : NodeId) : (ofModule name).node? id =
    if id.index = 0 then some { kind := .module, name := name, ty := .unit } else none := by
  obtain ⟨_ | index⟩ := id <;> rfl

/-- An empty module has no other node. -/
theorem eq_of_node?_ofModule {name : Name} {id : NodeId} {node : Node}
    (found : (ofModule name).node? id = some node) :
    node = { kind := .module, name := name, ty := .unit } := by
  rw [node?_ofModule] at found
  split at found
  · cases found
    rfl
  · cases found

theorem parentOf_ofModule (name : Name) (id : NodeId) : (ofModule name).parentOf id = none := by
  rw [parentOf, node?_ofModule]
  split <;> rfl

theorem childrenOf_ofModule (name : Name) (id : NodeId) : (ofModule name).childrenOf id = [] := by
  rw [childrenOf, node?_ofModule]
  split <;> rfl

/-- The module alone is a forest. -/
theorem isForest_ofModule (name : Name) : (ofModule name).IsForest where
  parent_there attached := absurd ((parentOf_ofModule name _).symm.trans attached) nofun
  child_there member := by
    rw [childrenOf_ofModule] at member
    cases member
  mem_childrenOf_iff := by simp [parentOf_ofModule, childrenOf_ofModule]
  nodup_childrenOf parent := by
    rw [childrenOf_ofModule]
    exact List.nodup_nil
  root_there := Nat.zero_lt_one
  root_alone := parentOf_ofModule name _
  exists_path id := ⟨[id], .top (parentOf_ofModule name id)⟩

theorem isForest_push (forest : tree.IsForest) (kind : NodeKind) (name : Name) (ty : Ty) :
    (tree.push { kind := kind, name := name, ty := ty }).2.IsForest :=
  forest.of_links (by rw [size_push]; omega) (parentOf_push tree _ rfl) (childrenOf_push tree _ rfl)

theorem isForest_putTag (forest : tree.IsForest) (id : NodeId) (tag : AnnotationTag)
    (arguments : List Literal) : (tree.putTag id tag arguments).IsForest :=
  forest.of_links (Nat.le_of_eq (size_putTag tree id tag arguments).symm)
    (parentOf_putTag tree id tag arguments)
    (childrenOf_putTag tree id tag arguments)

/-- Attaching a node leaves the path of whatever is not below it. -/
theorem Path.link {parent child id : NodeId} {path : List NodeId} (climb : tree.Path id path)
    (there : child.index < tree.size) (apart : ¬ tree.Above child id) :
    (tree.link parent child).Path id path := by
  induction climb with
  | @top id alone =>
      have other : id ≠ child := fun same => apart (same ▸ Above.refl tree id)
      exact .top (by rw [parentOf_link there, if_neg other, alone])
  | @under id above path attached _ ih =>
      have other : id ≠ child := fun same => apart (same ▸ Above.refl tree id)
      have higher : ¬ tree.Above child above := fun top =>
        apart (top.trans (above_of_parentOf attached))
      exact .under (by rw [parentOf_link there, if_neg other, attached]) (ih higher)

/-- **Attaching keeps a forest** whenever the check lets it through. -/
theorem isForest_link (forest : tree.IsForest) {parent child : NodeId}
    (attachable : tree.checkAttachable parent child = .ok ()) :
    (tree.link parent child).IsForest := by
  obtain ⟨parentThere, childThere, notRoot, alone, noCycle⟩ :=
    (checkAttachable_eq_ok_iff tree parent child).mp attachable
  have apart : ¬ tree.Above child parent := fun above => by
    rw [wouldCycle_of_above forest above] at noCycle
    cases noCycle
  have unlisted : ∀ id, child ∉ tree.childrenOf id := fun id member => by
    rw [forest.mem_childrenOf_iff, alone] at member
    cases member
  have newPath : ∃ path, (tree.link parent child).Path child path := by
    obtain ⟨path, climb⟩ := forest.exists_path parent
    exact ⟨child :: path, .under (by rw [parentOf_link childThere, if_pos rfl])
      (climb.link childThere apart)⟩
  exact {
    parent_there := by
      intro id above attached
      rw [parentOf_link childThere] at attached
      rw [size_link]
      split at attached
      · rwa [← Option.some.inj attached]
      · exact forest.parent_there attached
    child_there := by
      intro id above member
      rw [childrenOf_link parentThere] at member
      rw [size_link]
      split at member
      · rcases List.mem_append.mp member with old | new
        · exact forest.child_there old
        · rwa [List.mem_singleton.mp new]
      · exact forest.child_there member
    mem_childrenOf_iff := by
      intro id above
      rw [childrenOf_link parentThere, parentOf_link childThere]
      have old : id ∈ tree.childrenOf above ↔ tree.parentOf id = some above :=
        forest.mem_childrenOf_iff
      by_cases below : id = child
      · subst below
        by_cases hit : above = parent
        · simp [hit]
        · simp [hit, Ne.symm hit, unlisted above]
      · by_cases hit : above = parent
        · subst hit
          simp [below, old]
        · simp [below, hit, old]
    nodup_childrenOf := by
      intro above
      rw [childrenOf_link parentThere]
      split
      · exact (forest.nodup_childrenOf above).append (List.nodup_singleton child) fun id old new =>
          unlisted above (List.mem_singleton.mp new ▸ old)
      · exact forest.nodup_childrenOf above
    root_there := by
      rw [size_link]
      exact forest.root_there
    root_alone := by
      rw [parentOf_link childThere, if_neg (Ne.symm notRoot)]
      exact forest.root_alone
    exists_path := by
      intro id
      obtain ⟨path, climb⟩ := forest.exists_path id
      induction climb with
      | @top id top =>
          by_cases below : id = child
          · rwa [below]
          · exact ⟨[id], .top (by rw [parentOf_link childThere, if_neg below, top])⟩
      | @under id above path attached _ ih =>
          obtain ⟨rest, climb⟩ := ih
          have other : id ≠ child := fun same => by
            rw [same, alone] at attached
            cases attached
          refine ⟨id :: rest, .under ?_ climb⟩
          rw [parentOf_link childThere, if_neg other, attached] }

/-- **Detaching keeps a forest.** -/
theorem isForest_unlink (forest : tree.IsForest) {parent child : NodeId}
    (attached : tree.parentOf child = some parent) : (tree.unlink parent child).IsForest where
  parent_there := by
    intro id above up
    rw [parentOf_unlink] at up
    rw [size_unlink]
    split at up
    · cases up
    · exact forest.parent_there up
  child_there := by
    intro id above member
    rw [childrenOf_unlink] at member
    rw [size_unlink]
    split at member
    · exact forest.child_there (List.mem_of_mem_filter member)
    · exact forest.child_there member
  mem_childrenOf_iff := by
    intro id above
    rw [childrenOf_unlink, parentOf_unlink]
    have old : id ∈ tree.childrenOf above ↔ tree.parentOf id = some above :=
      forest.mem_childrenOf_iff
    by_cases below : id = child
    · subst below
      by_cases hit : above = parent
      · simp [hit]
      · simp [hit, old, attached, Ne.symm hit]
    · by_cases hit : above = parent
      · subst hit
        simp [below, old]
      · simp [below, hit, old]
  nodup_childrenOf := by
    intro above
    rw [childrenOf_unlink]
    split
    · exact (forest.nodup_childrenOf above).filter _
    · exact forest.nodup_childrenOf above
  root_there := by
    rw [size_unlink]
    exact forest.root_there
  root_alone := by
    rw [parentOf_unlink]
    split
    · rfl
    · exact forest.root_alone
  exists_path := by
    intro id
    obtain ⟨path, climb⟩ := forest.exists_path id
    induction climb with
    | @top id top =>
        refine ⟨[id], .top ?_⟩
        rw [parentOf_unlink]
        split
        · rfl
        · exact top
    | @under id above path up _ ih =>
        obtain ⟨rest, climb⟩ := ih
        by_cases below : id = child
        · exact ⟨[id], .top (by rw [parentOf_unlink, if_pos below])⟩
        · exact ⟨id :: rest, .under (by rw [parentOf_unlink, if_neg below, up]) climb⟩

end DeclTree.Tree
