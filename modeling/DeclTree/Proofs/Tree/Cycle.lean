/-
**The search for cycles finds what the climb finds.**

`wouldCycle` climbs from the parent and searches below the child at the same pace, and answers as
soon as one of the two is over. `Searches` is this search as rules, one for each way in which a
round can go, with no bound on the number of rounds. In a forest:

* `Searches.of_path`: the search ends, as the climb does, and the bound of `wouldCycle` is never
  reached; it has one answer (`Searches.unique`);
* `Searches.above`: where the two meet, the child is above the parent, because all that is climbed
  to is above the parent and all that is searched is below the child. That no such child is missed
  is `wouldCycle_of_above`;
* `wouldCycle_climbs`: so the answer is the one of the plain check, which climbs from the parent and
  looks for the child on the way.
-/

import DeclTree.Proofs.Host.Run

namespace DeclTree

namespace Tree

/-- The search for a cycle, from where the climb has come to (nowhere, once it is past the top) and
what is still to be searched, with its answer. -/
inductive Searches (tree : Tree) (parent child : NodeId) :
    Option NodeId → List NodeId → Bool → Prop
  | climbedOut {below : List NodeId} : Searches tree parent child none below false
  | metAbove {below : List NodeId} : Searches tree parent child (some child) below true
  | searchedOut {above : NodeId} (apart : above ≠ child) :
      Searches tree parent child (some above) [] false
  | metBelow {above : NodeId} {rest : List NodeId} (apart : above ≠ child) :
      Searches tree parent child (some above) (parent :: rest) true
  /-- No meeting: the climb goes on, and the children of the node are to be searched next, the last
  one first. -/
  | round {above lower : NodeId} {rest : List NodeId} {answer : Bool} (apart : above ≠ child)
      (elsewhere : lower ≠ parent)
      (later : Searches tree parent child (tree.parentOf above)
        ((tree.childrenOf lower).reverse ++ rest) answer) :
      Searches tree parent child (some above) (lower :: rest) answer

variable {tree : Tree} {parent child : NodeId}

namespace Searches

theorem unique {climb : Option NodeId} {below : List NodeId} {answer other : Bool}
    (one : tree.Searches parent child climb below answer)
    (two : tree.Searches parent child climb below other) : answer = other := by
  induction one generalizing other with
  | climbedOut =>
      cases two
      rfl
  | metAbove =>
      cases two with
      | metAbove => rfl
      | searchedOut apart => exact absurd rfl apart
      | metBelow apart => exact absurd rfl apart
      | round apart _ _ => exact absurd rfl apart
  | searchedOut apart =>
      cases two with
      | metAbove => exact absurd rfl apart
      | searchedOut _ => rfl
  | metBelow apart =>
      cases two with
      | metAbove => exact absurd rfl apart
      | metBelow _ => rfl
      | round _ elsewhere _ => exact absurd rfl elsewhere
  | round apart elsewhere _ ih =>
      cases two with
      | metAbove => exact absurd rfl apart
      | metBelow _ => exact absurd rfl elsewhere
      | round _ _ later => exact ih later

/-- **Where the two meet there is a cycle.** -/
theorem above {climb : Option NodeId} {below : List NodeId} {answer : Bool}
    (search : tree.Searches parent child climb below answer)
    (climbed : ∀ high, climb = some high → tree.Above high parent)
    (searched : ∀ low ∈ below, tree.Above child low) (forest : tree.IsForest)
    (met : answer = true) : tree.Above child parent := by
  induction search with
  | climbedOut => cases met
  | metAbove => exact climbed child rfl
  | searchedOut _ => cases met
  | metBelow _ => exact searched parent List.mem_cons_self
  | @round above lower rest _ _ _ _ ih =>
      refine ih ?_ ?_ met
      · intro high attached
        exact (above_of_parentOf attached).trans (climbed above rfl)
      · intro low member
        rcases List.mem_append.mp member with inside | later
        · have attached := forest.mem_childrenOf_iff.mp (List.mem_reverse.mp inside)
          exact (searched lower List.mem_cons_self).trans (above_of_parentOf attached)
        · exact searched low (List.mem_cons_of_mem lower later)

/-- A round of the bounded search is a round of the search. -/
theorem of_later {above : NodeId} {fuel : Nat}
    (later : ∀ below, tree.Searches parent child (tree.parentOf above) below
      (tree.meets parent child fuel (tree.parentOf above) below)) (below : List NodeId) :
    tree.Searches parent child (some above) below
      (tree.meets parent child (fuel + 1) (some above) below) := by
  unfold meets
  by_cases met : above = child
  · subst met
    rw [if_pos rfl]
    exact .metAbove
  · rw [if_neg met]
    cases below with
    | nil => exact .searchedOut met
    | cons lower rest =>
        dsimp only
        by_cases found : lower = parent
        · subst found
          rw [if_pos rfl]
          exact .metBelow met
        · rw [if_neg found]
          exact .round met found (later _)

/-- **The search ends.** A bound above the length of the climb is never reached. -/
theorem of_path {above : NodeId} {path : List NodeId} (climb : tree.Path above path) {fuel : Nat}
    (bound : path.length < fuel) (below : List NodeId) :
    tree.Searches parent child (some above) below
      (tree.meets parent child fuel (some above) below) := by
  induction climb generalizing fuel below with
  | @top above alone =>
      obtain ⟨left, rfl⟩ : ∃ left, fuel = left + 1 + 1 := ⟨fuel - 2, by simp at bound; omega⟩
      refine of_later (fun next => ?_) below
      rw [alone]
      exact .climbedOut
  | @under above top path attached _ ih =>
      obtain ⟨left, rfl⟩ : ∃ left, fuel = left + 1 := ⟨fuel - 1, by omega⟩
      refine of_later (fun next => ?_) below
      rw [attached]
      exact ih (by simp at bound; omega) next

end Searches

namespace IsForest

/-- No climb is longer than the tree has nodes, from wherever it begins. -/
theorem exists_path_le (forest : tree.IsForest) (id : NodeId) :
    ∃ path, tree.Path id path ∧ path.length ≤ tree.size := by
  obtain ⟨path, climb⟩ := forest.exists_path id
  by_cases there : id.index < tree.size
  · exact ⟨path, climb, forest.length_path_le climb there⟩
  · have alone : tree.parentOf id = none := by
      rw [parentOf, (node?_eq_none_iff tree id).mpr (by omega), Option.bind_none]
    exact ⟨[id], .top alone, forest.root_there⟩

/-- **The bounded search is the search.** -/
theorem searches_iff (forest : tree.IsForest) (parent child : NodeId) (answer : Bool) :
    tree.Searches parent child (some parent) [child] answer ↔
      answer = tree.wouldCycle parent child := by
  obtain ⟨path, climb, short⟩ := forest.exists_path_le parent
  have search : tree.Searches parent child (some parent) [child] (tree.wouldCycle parent child) :=
    .of_path climb (Nat.lt_succ_of_le short) [child]
  constructor
  · intro other
    exact other.unique search
  · rintro rfl
    exact search

/-- **A cycle is found exactly if there is one.** -/
theorem wouldCycle_iff (forest : tree.IsForest) (parent child : NodeId) :
    tree.wouldCycle parent child = true ↔ tree.Above child parent := by
  refine ⟨fun met => ?_, wouldCycle_of_above forest⟩
  refine ((forest.searches_iff parent child _).mpr rfl).above ?_ ?_ forest met
  · rintro high ⟨⟩
    exact Above.refl tree parent
  · intro low member
    rw [List.mem_singleton.mp member]
    exact Above.refl tree child

end IsForest

/-- The nodes above a node are those that climbing from it passes. -/
theorem Path.mem_iff {id top : NodeId} {path : List NodeId} (climb : tree.Path id path) :
    top ∈ path ↔ tree.Above top id := by
  refine ⟨climb.above_of_mem top, fun above => ?_⟩
  obtain ⟨rest, climbOn, suffix⟩ := Path.suffix above climb
  have first : top ∈ rest := by
    cases climbOn <;> exact List.mem_cons_self
  exact suffix.subset first

end Tree

/-- **The search for a cycle answers what the plain check answers**, on any module that a host has
worked on, for any two places. The search ends, with one answer, which is the one of `wouldCycle`.
The answer says whether the child is the parent or above it, that is, whether climbing from the
parent, which ends as well, passes the child. -/
theorem wouldCycle_climbs (name : Name) (supply : SymbolSupply) (log : Log) (acts : List Act)
    (parent child : NodeId) :
    let tree := ((Workspace.ofModule name supply log).after acts).tree
    (∀ answer, tree.Searches parent child (some parent) [child] answer ↔
        answer = tree.wouldCycle parent child) ∧
      (tree.wouldCycle parent child = true ↔ tree.Above child parent) ∧
      ∃ path, tree.Path parent path ∧
        tree.wouldCycle parent child = decide (child ∈ path) := by
  intro tree
  have forest : tree.IsForest := isForest_after name supply log acts
  obtain ⟨path, climb⟩ := forest.exists_path parent
  refine ⟨forest.searches_iff parent child, forest.wouldCycle_iff parent child, path, climb, ?_⟩
  rw [Bool.eq_iff_iff, forest.wouldCycle_iff, decide_eq_true_iff, climb.mem_iff]

end DeclTree
