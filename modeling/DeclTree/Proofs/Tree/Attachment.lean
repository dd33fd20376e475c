/-
**Verification of what is attached.**

Two subtrees that pass verification are put together by attaching one under a node of the other.
Attaching touches two links only, so whatever else is checked in the joint subtree is checked as
before (`Furnished.congr`, `lodged_link_iff`). What can go wrong is said by `Admits`, of the two
nodes that the new link joins:

* `furnished_link_iff`: the parent gets one child more, which a call has no place for, and an
  accessor has none for a value parameter;
* `lodged_link_child_iff`: the child gets a parent, which an accessor takes only from its own
  property;
* `IsForest.verify_link_iff`, `verify_append_iff`: the joint subtree passes **if and only if** the
  parent admits the child.
-/

import DeclTree.Proofs.Host.Run
import DeclTree.Proofs.Tree.Fits

namespace DeclTree

namespace Tree

/-- A node may get another one as its child without either of them losing what it was verified
for. -/
structure Admits (tree : Tree) (parent child : NodeId) : Prop where
  notCall : tree.hasTag .call parent = false
  /-- An accessor has all the value parameters that it may have. -/
  notParameter : tree.hasTag .getter parent = true ∨ tree.hasTag .setter parent = true →
    tree.hasTag .parameter child = false
  /-- An accessor is attached to its own property. -/
  own : ∀ kind property, tree.kindOf child = some kind → kind.owner? = some property →
    tree.Declares property parent

variable {tree : Tree} {types : TypeUniverse} {parent child id : NodeId}

/-! ### What is above what -/

/-- What is above a node stays above it when a parentless node is attached somewhere. -/
theorem Above.link {top : NodeId} (above : tree.Above top id) (there : child.index < tree.size)
    (alone : tree.parentOf child = none) : (tree.link parent child).Above top id := by
  refine Relation.ReflTransGen.mono ?_ _ _ above
  intro lower upper attached
  have other : lower ≠ child := by
    rintro rfl
    cases alone.symm.trans attached
  rw [parentOf_link there, if_neg other]
  exact attached

/-- After a node was attached, below a node is what was below it, and what was below the node that
was attached. -/
theorem above_of_above_link {top : NodeId} (there : child.index < tree.size)
    (above : (tree.link parent child).Above top id) : tree.Above top id ∨ tree.Above child id := by
  induction above using Relation.ReflTransGen.head_induction_on with
  | refl => exact .inl (Above.refl tree top)
  | @head lower upper attached _ ih =>
      by_cases same : lower = child
      · subst same
        exact .inr (Above.refl tree lower)
      · rw [parentOf_link there, if_neg same] at attached
        exact ih.imp (·.trans (above_of_parentOf attached)) (·.trans (above_of_parentOf attached))

/-! ### The two ends of a link -/

/-- **The parent** has what its kind asks for, with one child more. -/
theorem furnished_link_iff (furnished : tree.Furnished parent) (there : parent.index < tree.size) :
    (tree.link parent child).Furnished parent ↔ tree.hasTag .call parent = false ∧
      (tree.hasTag .getter parent = true ∨ tree.hasTag .setter parent = true →
        tree.hasTag .parameter child = false) := by
  have kept : (tree.link parent child).kindOf parent = tree.kindOf parent :=
    kindOf_congr (labelOf_link tree parent child parent)
  have values : (tree.link parent child).childrenTagged parent .parameter =
      if tree.hasTag .parameter child = true then
        tree.childrenTagged parent .parameter ++ [child]
      else tree.childrenTagged parent .parameter := by
    rw [childrenTagged_link there]
    simp only [true_and]
  obtain ⟨node, found⟩ := node?_eq_some_of_lt there
  have is := kindOf_eq found
  simp only [hasTag_eq_of_kindOf is]
  cases kind : node.kind with
  | getter symbol property =>
      rw [kind] at is
      have before := (furnished_getter_iff is).mp furnished
      rw [furnished_getter_iff (kept.trans is), values, before]
      cases tree.hasTag .parameter child <;> simp [NodeKind.tag]
  | setter symbol property =>
      rw [kind] at is
      obtain ⟨value, one, isValue⟩ := (furnished_setter_iff is).mp furnished
      have stays : (tree.link parent child).IsValue value := by
        unfold IsValue
        rw [labelOf_link]
        exact isValue
      rw [furnished_setter_iff (kept.trans is), values, one]
      cases tree.hasTag .parameter child with
      | false => simpa [NodeKind.tag] using stays
      | true => simp [NodeKind.tag]
  | call callee =>
      rw [kind] at is
      have before := (furnished_call_iff is).mp furnished
      rw [furnished_call_iff (kept.trans is), childrenOf_link there, if_pos rfl,
        List.length_append, before]
      simp [NodeKind.tag]
  | _ =>
      rw [kind] at is
      have neutral : (tree.link parent child).Neutral parent := ⟨_, kept.trans is, rfl⟩
      simp [NodeKind.tag, neutral.fits.furnished]

/-- **The child** stands under its new parent. -/
theorem lodged_link_child_iff (there : child.index < tree.size) :
    (tree.link parent child).Lodged child ↔
      ∀ kind property, tree.kindOf child = some kind → kind.owner? = some property →
        tree.Declares property parent := by
  have kept : (tree.link parent child).kindOf child = tree.kindOf child :=
    kindOf_congr (labelOf_link tree parent child child)
  have attached : (tree.link parent child).parentOf child = some parent := by
    rw [parentOf_link there, if_pos rfl]
  constructor
  · intro lodged kind property is of
    exact (lodged kind property parent (kept.trans is) of attached).congr
      (labelOf_link tree parent child parent).symm
  · intro own kind property owner is of also
    cases attached.symm.trans also
    exact (own kind property (kept.symm.trans is) of).congr (labelOf_link tree parent child parent)

/-- All other nodes stand where they stood. -/
theorem lodged_link_iff (there : child.index < tree.size) (other : id ≠ child) :
    (tree.link parent child).Lodged id ↔ tree.Lodged id := by
  have kept : (tree.link parent child).kindOf id = tree.kindOf id :=
    kindOf_congr (labelOf_link tree parent child id)
  unfold Lodged
  rw [kept, parentOf_link there, if_neg other]
  refine forall₃_congr fun _ _ owner => ?_
  refine imp_congr_right fun _ => imp_congr_right fun _ => imp_congr_right fun _ => ?_
  exact ⟨(·.congr (labelOf_link tree parent child owner).symm),
    (·.congr (labelOf_link tree parent child owner))⟩

/-! ### Subtrees -/

/-- **Verification after attaching.** -/
theorem IsForest.verify_link_iff (forest : tree.IsForest) {top : NodeId}
    (attachable : tree.checkAttachable parent child = .ok ()) (above : tree.Above top parent)
    (topPasses : tree.verify types top = .ok ()) (childPasses : tree.verify types child = .ok ()) :
    (tree.link parent child).verify types top = .ok () ↔ tree.Admits parent child := by
  obtain ⟨parentThere, childThere, _, alone, noCycle⟩ :=
    (checkAttachable_eq_ok_iff tree parent child).mp attachable
  have joint : (tree.link parent child).IsForest := isForest_link forest attachable
  have topThere : top.index < tree.size := forest.there_of_above above parentThere
  have apart : parent ≠ child := by
    rintro rfl
    rw [wouldCycle_of_above forest (Above.refl tree parent)] at noCycle
    cases noCycle
  simp only [forest.verify_eq_ok_iff topThere, forest.checkNode_iff_passes] at topPasses
  simp only [forest.verify_eq_ok_iff childThere, forest.checkNode_iff_passes] at childPasses
  rw [joint.verify_eq_ok_iff (by rwa [size_link])]
  simp only [joint.checkNode_iff_passes]
  have parentPasses := topPasses parent above
  constructor
  · intro passes
    have parentAfter := passes parent (above.link childThere alone)
    have attached : (tree.link parent child).parentOf child = some parent := by
      rw [parentOf_link childThere, if_pos rfl]
    have childAfter := passes child
      ((above.link childThere alone).trans (above_of_parentOf attached))
    obtain ⟨notCall, notParameter⟩ :=
      (furnished_link_iff parentPasses.furnished parentThere).mp parentAfter.furnished
    exact ⟨notCall, notParameter, (lodged_link_child_iff childThere).mp childAfter.lodged⟩
  · intro admits low below
    -- Wherever the node is in the joint subtree, it passed before.
    have before : tree.Passes types low :=
      (above_of_above_link childThere below).elim (topPasses low) (childPasses low)
    refine ⟨?_, ?_, ?_⟩
    · rw [labelOf_link]
      exact before.known
    · by_cases isParent : low = parent
      · subst isParent
        exact (furnished_link_iff before.furnished parentThere).mpr
          ⟨admits.notCall, admits.notParameter⟩
      · exact before.furnished.link parentThere fun same => absurd same isParent
    · by_cases isChild : low = child
      · subst isChild
        exact (lodged_link_child_iff childThere).mpr admits.own
      · exact (lodged_link_iff childThere isChild).mpr before.lodged

theorem append_eq_ok_iff {after : Tree} :
    tree.append parent child = .ok after ↔
      tree.checkAttachable parent child = .ok () ∧ tree.link parent child = after := by
  unfold append
  cases tree.checkAttachable parent child <;> simp [Except.map]

end Tree

/-- **Verification composes with attaching**, on any module that a host has worked on. A node is
attached under another one, and before that its subtree passed verification, and so did one that the
other node is in. Then the joint subtree passes **if and only if** the parent is no call, does not
get a value parameter as an accessor, and is the own property of the child if this is an
accessor. -/
theorem verify_append_iff (name : Name) (supply : SymbolSupply) (log : Log) (acts : List Act)
    (types : TypeUniverse) (parent child top : NodeId) (after : Tree) :
    let tree := ((Workspace.ofModule name supply log).after acts).tree
    tree.append parent child = .ok after → tree.Above top parent →
      tree.verify types top = .ok () → tree.verify types child = .ok () →
        (after.verify types top = .ok () ↔ tree.Admits parent child) := by
  intro tree appended above topPasses childPasses
  have forest : tree.IsForest := isForest_after name supply log acts
  obtain ⟨attachable, rfl⟩ := Tree.append_eq_ok_iff.mp appended
  exact forest.verify_link_iff attachable above topPasses childPasses

/-- A property under the module is given its getter, which was made by itself: the property admits
it, and the module still passes. -/
theorem verify_append_getter :
    let signature : Signature := ⟨⟨"p"⟩, .property, [], .int⟩
    let property : Symbol := { signature with id := ⟨1⟩ }
    let getter : Symbol := { signature with kind := .getter, id := ⟨2⟩ }
    let tree := ((Workspace.ofModule (.identifier "app") {} []).after
      [.create .builtin (.property property .publicAccess .final false) (.identifier "p") .int,
        .append .root ⟨1⟩,
        .create .builtin (.getter getter property) (.special "<get-p>") .int]).tree
    let after := tree.link ⟨1⟩ ⟨2⟩
    tree.append ⟨1⟩ ⟨2⟩ = .ok after ∧ tree.Above .root ⟨1⟩ ∧
      tree.verify .builtin .root = .ok () ∧ tree.verify .builtin ⟨2⟩ = .ok () ∧
        (after.verify .builtin .root = .ok () ↔ tree.Admits ⟨1⟩ ⟨2⟩) ∧ tree.Admits ⟨1⟩ ⟨2⟩ := by
  intro signature property getter tree after
  have appended : tree.append ⟨1⟩ ⟨2⟩ = .ok after :=
    Tree.append_eq_ok_iff.mpr ⟨by decide, rfl⟩
  have above : tree.Above .root ⟨1⟩ := Tree.above_of_parentOf (by decide)
  have rootPasses : tree.verify .builtin .root = .ok () := by decide
  have getterPasses : tree.verify .builtin ⟨2⟩ = .ok () := by decide
  have composed := verify_append_iff (.identifier "app") {} [] _ .builtin ⟨1⟩ ⟨2⟩ .root after
    appended above rootPasses getterPasses
  exact ⟨appended, above, rootPasses, getterPasses, composed, composed.mp (by decide)⟩

end DeclTree
