/-
**What work that succeeds leaves.**

Work that succeeds has succeeded in all its parts, so that what it made is known. A node that an
operation makes fits (`perform_fits`): nothing is asked of it, or it is a call that was given its
arguments. A declaration that waits for its body has the parameters that its kind asks for, and its
property if it is an accessor (`Draft.Ready`, `start_begun`); with its body it fits (`finish_fits`).
-/

import DeclTree.Proofs.Build.Spared
import DeclTree.Proofs.Tree.Fits

namespace DeclTree

/-! ### Nodes that were there -/

namespace Tree

variable {old : Nat} {asked : NodeId → NodeTag → Prop} {before after : Tree} {id : NodeId}

theorem Furnished.spared (furnished : before.Furnished id) (forest : before.IsForest)
    (spared : Spared old asked before after) (there : id.index < old)
    (inside : id.index < before.size) (other : before.hasTag .property id = false) :
    after.Furnished id :=
  furnished.congr (spared.labelOf id inside) (spared.childrenOf_eq there inside other)
    fun child listed => spared.labelOf child (forest.child_there listed)

theorem Housed.spared (housed : before.Housed id) (forest : before.IsForest)
    (spared : Spared old asked before after) (inside : id.index < before.size) :
    after.Housed id :=
  housed.congr (spared.labelOf id inside) fun owner attached =>
    ⟨spared.parentOf id owner attached, spared.labelOf owner (forest.parent_there attached)⟩

/-- **A node that fits and is spared still fits.** Only properties get new children, and nothing is
asked of them. -/
theorem Fits.spared (fits : before.Fits id) (forest : before.IsForest)
    (spared : Spared old asked before after) (there : id.index < old)
    (inside : id.index < before.size) : after.Fits id := by
  cases isProperty : before.hasTag .property id with
  | true =>
      have neutral := neutral_of_isProperty isProperty
      exact (neutral.congr (spared.labelOf id inside)).fits
  | false =>
      exact ⟨fits.furnished.spared forest spared there inside isProperty,
        fits.housed.spared forest spared inside⟩

/-! ### Nodes that were made -/

/-- All nodes that were made since fit. -/
def NewFit (before after : Tree) : Prop :=
  ∀ id : NodeId, before.size ≤ id.index → id.index < after.size → after.Fits id

/-- Nodes were made of whose links nothing is asked, and what was there stayed what it is. -/
structure AddsNeutral (before after : Tree) : Prop where
  size_le : before.size ≤ after.size
  labelOf : ∀ id : NodeId, id.index < before.size → after.labelOf id = before.labelOf id
  neutral : ∀ id : NodeId, before.size ≤ id.index → id.index < after.size → after.Neutral id

theorem AddsNeutral.newFit (adds : AddsNeutral before after) : NewFit before after :=
  fun id new inside => (adds.neutral id new inside).fits

theorem AddsNeutral.trans {middle : Tree} (first : AddsNeutral before middle)
    (later : AddsNeutral middle after) : AddsNeutral before after where
  size_le := first.size_le.trans later.size_le
  labelOf id there :=
    (later.labelOf id (Nat.lt_of_lt_of_le there first.size_le)).trans (first.labelOf id there)
  neutral id new inside := by
    by_cases early : id.index < middle.size
    · exact (first.neutral id new early).congr (later.labelOf id early)
    · exact later.neutral id (Nat.not_lt.mp early) inside

/-- No node was made. -/
theorem AddsNeutral.of_same (size : after.size = before.size)
    (labels : ∀ id, after.labelOf id = before.labelOf id) : AddsNeutral before after where
  size_le := size.ge
  labelOf id _ := labels id
  neutral id new inside := by omega

theorem addsNeutral_link (tree : Tree) (parent child : NodeId) :
    AddsNeutral tree (tree.link parent child) :=
  .of_same (size_link _ _ _) (labelOf_link _ _ _)

/-- The node that was made is the only new one. -/
theorem eq_of_new (size : after.size = before.size + 1) (new : before.size ≤ id.index)
    (inside : id.index < after.size) : id = ⟨before.size⟩ := by
  obtain ⟨index⟩ := id
  rw [NodeId.mk.injEq]
  dsimp only at new inside
  omega

theorem kindOf_push_self (tree : Tree) (kind : NodeKind) (name : Name) (ty : Ty) :
    (tree.push { kind := kind, name := name, ty := ty }).2.kindOf ⟨tree.size⟩ = some kind := by
  rw [kindOf, labelOf_push_self]
  rfl

theorem childrenOf_push_self (tree : Tree) (kind : NodeKind) (name : Name) (ty : Ty) :
    (tree.push { kind := kind, name := name, ty := ty }).2.childrenOf ⟨tree.size⟩ = [] := by
  rw [childrenOf, node?_push, if_pos rfl]
  rfl

theorem addsNeutral_push (tree : Tree) (kind : NodeKind) (name : Name) (ty : Ty)
    (isNeutral : kind.isNeutral = true := by rfl) :
    AddsNeutral tree (tree.push { kind := kind, name := name, ty := ty }).2 where
  size_le := (Nat.le_succ _).trans_eq (size_push _ _).symm
  labelOf id there := labelOf_push there _
  neutral id new inside := by
    rw [eq_of_new (size_push tree _) new inside]
    exact ⟨kind, kindOf_push_self tree kind name ty, isNeutral⟩

end Tree

/-! ### Drafts -/

/-- A declaration has all that it needs but its body: the parameters that its kind asks for, and
its property if it is an accessor. -/
structure Draft.Ready (draft : Draft) (tree : Tree) : Prop where
  furnished : tree.Furnished draft.node
  notCall : tree.hasTag .call draft.node = false
  owned : ∀ kind symbol, tree.kindOf draft.node = some kind → kind.owner? = some symbol →
    ∃ property, draft.property = some property ∧ tree.Declares symbol property

/-- A declaration was begun. It is the first node that was made, and of the other ones nothing is
asked. -/
structure Draft.Begun (draft : Draft) (before begun : Tree) : Prop where
  node_eq : draft.node = ⟨before.size⟩
  there : before.size < begun.size
  others : ∀ id : NodeId, before.size < id.index → id.index < begun.size → begun.Neutral id
  ready : draft.Ready begun

theorem Draft.Ready.spared {draft : Draft} {old : Nat} {asked : NodeId → NodeTag → Prop}
    {before after : Tree} (ready : draft.Ready before) (forest : before.IsForest)
    (spared : Tree.Spared old asked before after) (there : draft.node.index < old)
    (inside : draft.node.index < before.size)
    (other : before.hasTag .property draft.node = false) : draft.Ready after where
  furnished := ready.furnished.spared forest spared there inside other
  notCall := (Tree.hasTag_congr (spared.labelOf _ inside)).trans ready.notCall
  owned kind symbol is of := by
    obtain ⟨property, same, declares⟩ :=
      ready.owned kind symbol ((Tree.kindOf_congr (spared.labelOf _ inside)).symm.trans is) of
    exact ⟨property, same, declares.congr (spared.labelOf property declares.there)⟩

section Drafts

variable {draft : Draft} {tree : Tree}

/-- It is given a body. -/
theorem Draft.Ready.link_body (ready : draft.Ready tree) {body : NodeId}
    (there : draft.node.index < tree.size) (isBody : tree.kindOf body = some .body) :
    draft.Ready (tree.link draft.node body) where
  furnished := ready.furnished.link there fun _ =>
    ⟨ready.notCall, Tree.hasTag_eq_of_kindOf isBody .parameter⟩
  notCall := (Tree.hasTag_congr (Tree.labelOf_link _ _ _ _)).trans ready.notCall
  owned kind symbol is of := by
    obtain ⟨property, same, declares⟩ :=
      ready.owned kind symbol ((Tree.kindOf_congr (Tree.labelOf_link _ _ _ _)).symm.trans is) of
    exact ⟨property, same, declares.congr (Tree.labelOf_link _ _ _ _)⟩

/-- What has no property is no accessor. -/
theorem Draft.Ready.fits_unattached (ready : draft.Ready tree) (none : draft.property = none) :
    tree.Fits draft.node := by
  refine ⟨ready.furnished, fun kind symbol is of => ?_⟩
  obtain ⟨property, same, _⟩ := ready.owned kind symbol is of
  cases none.symm.trans same

/-- An accessor is attached to its property. -/
theorem Draft.Ready.fits_attached (ready : draft.Ready tree) {property : NodeId}
    (of : draft.property = some property)
    (attachable : tree.checkAttachable property draft.node = .ok ())
    (other : draft.node ≠ property) : (tree.link property draft.node).Fits draft.node := by
  obtain ⟨there, inside, _⟩ := (Tree.checkAttachable_eq_ok_iff _ _ _).mp attachable
  refine ⟨ready.furnished.link there fun same => absurd same other, fun kind symbol is asks => ?_⟩
  obtain ⟨owner, same, declares⟩ :=
    ready.owned kind symbol ((Tree.kindOf_congr (Tree.labelOf_link _ _ _ _)).symm.trans is) asks
  cases of.symm.trans same
  exact ⟨property, by rw [Tree.parentOf_link inside, if_pos rfl],
    declares.congr (Tree.labelOf_link _ _ _ _)⟩

/-- A declaration was given its body, and was attached to its property if it is an accessor. -/
theorem Draft.Ready.fits_finished {after : Tree} (ready : draft.Ready tree) {body : NodeId}
    (isBody : tree.kindOf body = some .body)
    (attachable : tree.checkAttachable draft.node body = .ok ())
    (notProperty : tree.hasTag .property draft.node = false)
    (isProperty : ∀ property, draft.property = some property →
      tree.hasTag .property property = true)
    (rest : match draft.property with
      | none => after = tree.link draft.node body
      | some property =>
          (tree.link draft.node body).checkAttachable property draft.node = .ok () ∧
            after = (tree.link draft.node body).link property draft.node) :
    after.size = tree.size ∧ after.Fits draft.node ∧
      ∀ other, other ≠ draft.node → tree.Fits other → after.Fits other := by
  obtain ⟨there, _⟩ := (Tree.checkAttachable_eq_ok_iff _ _ _).mp attachable
  have given := ready.link_body there isBody
  cases of : draft.property with
  | none =>
      rw [of] at rest
      rw [rest]
      exact ⟨Tree.size_link _ _ _, given.fits_unattached of, fun other apart fits =>
        fits.link attachable fun same => absurd same apart⟩
  | some property =>
      rw [of] at rest
      obtain ⟨equippable, rfl⟩ := rest
      have different : draft.node ≠ property := by
        intro same
        cases (same ▸ notProperty).symm.trans (isProperty property of)
      refine ⟨by rw [Tree.size_link, Tree.size_link], given.fits_attached of equippable different,
        fun other apart fits => ?_⟩
      have filled := fits.link attachable fun same => absurd same apart
      refine filled.link equippable fun same => ?_
      rw [same]
      exact (Tree.neutral_of_isProperty (isProperty property of)).congr (Tree.labelOf_link _ _ _ _)

end Drafts

namespace Builder

open Build

variable {builder : Builder} {before after : Workspace} {id : NodeId}

/-! ### Pieces of work -/

/-- All nodes were attached, in their order. -/
theorem appendAll_eq_ok {parent : NodeId} {children : List NodeId} {answer : Unit}
    (done : Build.appendAll parent children before = .ok answer after) :
    after.tree.size = before.tree.size ∧
      (∀ other, after.tree.labelOf other = before.tree.labelOf other) ∧
      after.tree.childrenOf parent = before.tree.childrenOf parent ++ children := by
  induction children generalizing before with
  | nil =>
      cases done
      exact ⟨rfl, fun _ => rfl, (List.append_nil _).symm⟩
  | cons child rest ih =>
      obtain ⟨_, middle, first, later⟩ := bind_eq_ok done
      obtain ⟨attachable, leaves⟩ := append_eq_ok first
      obtain ⟨there, _⟩ := (Tree.checkAttachable_eq_ok_iff _ parent child).mp attachable
      obtain ⟨size, labels, children⟩ := ih later
      rw [leaves] at size labels children
      refine ⟨size.trans (Tree.size_link _ _ _), fun other =>
        (labels other).trans (Tree.labelOf_link _ _ _ _), ?_⟩
      rw [children, Tree.childrenOf_link there, if_pos rfl, List.append_assoc]
      rfl

/-! ### Operations -/

/-- A call has all arguments that it asks for. -/
theorem call_fits {callee : Symbol} {arguments : List NodeId}
    (done : builder.call callee arguments before = .ok id after) :
    Tree.NewFit before.tree after.tree := by
  unfold call at done
  split at done
  · cases done
  · next arity =>
      obtain ⟨_, _, looked⟩ := ofExcept_bind_eq_ok (tree_bind_eq_ok done)
      obtain ⟨call, made, created, rest⟩ := bind_eq_ok looked
      obtain ⟨rfl, leaves⟩ := create_eq_ok created
      obtain ⟨_, _, filled, ended⟩ := bind_eq_ok rest
      cases ended
      obtain ⟨size, labels, children⟩ := appendAll_eq_ok filled
      rw [leaves] at size labels children
      intro id new inside
      rw [Tree.eq_of_new (size.trans (Tree.size_push _ _)) new inside]
      have is : after.tree.kindOf ⟨before.tree.size⟩ = some (.call callee) := by
        rw [Tree.kindOf_congr (labels _), Tree.kindOf_push_self]
      have given : after.tree.childrenOf ⟨before.tree.size⟩ = arguments := by
        rw [children, Tree.childrenOf_push_self, List.nil_append]
      refine ⟨⟨fun _ _ other => ?_, fun _ _ other => ?_, fun _ same => ?_⟩, fun _ _ same of => ?_⟩
      · cases is.symm.trans other
      · cases is.symm.trans other
      · cases is.symm.trans same
        rw [given]
        exact not_not.mp arity
      · cases is.symm.trans same
        cases of

/-- A return was made, and was given its value. -/
theorem ret_eq_ok {target : Symbol} {value : NodeId}
    (done : builder.ret target value before = .ok id after) :
    id = ⟨before.tree.size⟩ ∧ after.tree =
      (before.tree.push { kind := .ret target, name := .special "<return>", ty := .nothing }).2.link
        id value := by
  obtain ⟨_, _, looked⟩ := ofExcept_bind_eq_ok (tree_bind_eq_ok done)
  obtain ⟨ret, made, created, rest⟩ := bind_eq_ok looked
  obtain ⟨_, _, filled, ended⟩ := bind_eq_ok rest
  cases ended
  obtain ⟨rfl, leaves⟩ := create_eq_ok created
  rw [(append_eq_ok filled).2, leaves]
  exact ⟨rfl, rfl⟩

/-- Of the node that any other operation makes nothing is asked. -/
theorem perform_addsNeutral {operation : Operation}
    (done : builder.perform operation before = .ok id after)
    (other : ∀ callee arguments, operation ≠ .call callee arguments) :
    Tree.AddsNeutral before.tree after.tree := by
  cases operation with
  | literal value =>
      rw [(create_eq_ok done).2]
      exact Tree.addsNeutral_push before.tree _ _ _
  | typeRef ty =>
      rw [(create_eq_ok done).2]
      exact Tree.addsNeutral_push before.tree _ _ _
  | call callee arguments => exact absurd rfl (other callee arguments)
  | ret target value =>
      rw [(ret_eq_ok done).2]
      exact (Tree.addsNeutral_push before.tree _ _ _).trans (Tree.addsNeutral_link _ _ _)
  | get parameter =>
      obtain ⟨_, _, created⟩ := ofExcept_bind_eq_ok (tree_bind_eq_ok done)
      rw [(create_eq_ok created).2]
      exact Tree.addsNeutral_push before.tree _ _ _
  | property spec =>
      obtain ⟨symbol, made, _, leaves, rest⟩ := declare_bind_eq_ok
        (fun symbol => .property symbol spec.visibility spec.modality spec.isVar) done
      obtain ⟨_, _, noted, ended⟩ := bind_eq_ok rest
      cases noted
      cases ended
      show Tree.AddsNeutral before.tree made.tree
      rw [leaves]
      exact Tree.addsNeutral_push before.tree _ _ _
  | annotate asked tag arguments =>
      obtain ⟨_, _, annotated, ended⟩ := bind_eq_ok done
      cases ended
      obtain ⟨_, _, put⟩ := ofExcept_bind_eq_ok (tree_bind_eq_ok annotated)
      rw [annotate_eq_ok put]
      exact .of_same (Tree.size_putTag _ _ _ _) (Tree.labelOf_putTag _ _ _ _)

/-- **The node that an operation makes fits.** -/
theorem perform_fits {operation : Operation}
    (done : builder.perform operation before = .ok id after) :
    Tree.NewFit before.tree after.tree := by
  by_cases isCall : ∃ callee arguments, operation = .call callee arguments
  · obtain ⟨callee, arguments, rfl⟩ := isCall
    exact call_fits done
  · exact (perform_addsNeutral done fun callee arguments same =>
      isCall ⟨callee, arguments, same⟩).newFit

/-! ### Declarations that wait for their body -/

/-- The parameters of a declaration. -/
theorem addParameters_addsNeutral {owner : NodeId} {ownerName : QualName}
    {parameters : List (Name × Ty)} {index : Nat} {ids : List NodeId}
    (done : builder.addParameters owner ownerName index parameters before = .ok ids after) :
    Tree.AddsNeutral before.tree after.tree := by
  induction parameters generalizing index before ids with
  | nil =>
      cases done
      exact .of_same rfl fun _ => rfl
  | cons parameter rest ih =>
      obtain ⟨name, ty⟩ := parameter
      obtain ⟨symbol, made, _, leaves, work⟩ := declare_bind_eq_ok
        (fun symbol => .parameter symbol index) done
      obtain ⟨_, filled, attached, more⟩ := bind_eq_ok work
      obtain ⟨_, _, added, ended⟩ := bind_eq_ok more
      cases ended
      have one : Tree.AddsNeutral before.tree filled.tree := by
        rw [(append_eq_ok attached).2, leaves]
        exact (Tree.addsNeutral_push before.tree _ _ _).trans (Tree.addsNeutral_link _ _ _)
      exact one.trans (ih added)

/-- A single parameter. -/
theorem addParameters_single {owner : NodeId} {ownerName : QualName} {name : Name} {ty : Ty}
    {index : Nat} {ids : List NodeId}
    (done : builder.addParameters owner ownerName index [(name, ty)] before = .ok ids after) :
    ∃ symbol, after.tree =
      (before.tree.push { kind := .parameter symbol index, name := name, ty := ty }).2.link owner
        ⟨before.tree.size⟩ ∧ owner.index < before.tree.size + 1 := by
  obtain ⟨symbol, made, _, leaves, work⟩ := declare_bind_eq_ok
    (fun symbol => .parameter symbol index) done
  obtain ⟨_, filled, attached, more⟩ := bind_eq_ok work
  obtain ⟨_, _, added, ended⟩ := bind_eq_ok more
  cases added
  cases ended
  obtain ⟨attachable, linked⟩ := append_eq_ok attached
  obtain ⟨there, _⟩ := (Tree.checkAttachable_eq_ok_iff _ _ _).mp attachable
  rw [leaves, Tree.size_push] at there
  exact ⟨symbol, by rw [linked, leaves], there⟩

theorem declares_of_propertyAt {tree : Tree} {property : NodeId} {facts : PropertyFacts}
    (found : propertyAt tree property = .ok facts) : tree.Declares facts.symbol property := by
  obtain ⟨node, visibility, modality, there, kind, _⟩ := propertyAt_eq_ok found
  refine ⟨facts.symbol, visibility, modality, facts.isVar, ?_, decide_eq_true rfl⟩
  rw [Tree.kindOf_eq there, kind]

theorem startFunction_begun {spec : FunctionSpec} {draft : Draft}
    (started : builder.startFunction spec before = .ok draft after) :
    draft.Begun before.tree after.tree := by
  obtain ⟨_, _, named⟩ := ofExcept_bind_eq_ok started
  obtain ⟨symbol, made, _, leaves, work⟩ := declare_bind_eq_ok
    (fun symbol => .function symbol spec.visibility spec.modality) named
  obtain ⟨_, _, added, ended⟩ := bind_eq_ok work
  cases ended
  have parameters := addParameters_addsNeutral added
  have first : Tree.AddsNeutral before.tree made.tree := by
    rw [leaves]
    exact Tree.addsNeutral_push before.tree _ _ _
  have there : before.tree.size < made.tree.size := by
    rw [leaves, Tree.size_push]
    exact Nat.lt_succ_self _
  have is : after.tree.kindOf ⟨before.tree.size⟩ =
      some (.function symbol spec.visibility spec.modality) := by
    rw [Tree.kindOf_congr (parameters.labelOf ⟨before.tree.size⟩ there), leaves,
      Tree.kindOf_push_self]
  have inside := Nat.lt_of_lt_of_le there parameters.size_le
  exact {
    node_eq := rfl
    there := inside
    others := fun id new inside => (first.trans parameters).neutral id (Nat.le_of_lt new) inside
    ready := {
      furnished := (Tree.Neutral.fits ⟨_, is, rfl⟩).furnished
      notCall := Tree.hasTag_eq_of_kindOf is .call
      owned := fun kind symbol same of => by
        cases is.symm.trans same
        cases of } }

theorem startGetter_begun {property : NodeId} {draft : Draft}
    (started : builder.startGetter property before = .ok draft after) :
    draft.Begun before.tree after.tree := by
  obtain ⟨facts, checked, named⟩ := ofExcept_bind_eq_ok (tree_bind_eq_ok started)
  obtain ⟨symbol, made, _, leaves, ended⟩ := declare_bind_eq_ok
    (fun symbol => .getter symbol facts.symbol) named
  cases ended
  have declares := declares_of_propertyAt (checkGetter_eq_ok checked).1
  have isProperty := lt_of_propertyAt (checkGetter_eq_ok checked).1
  have is : after.tree.kindOf ⟨before.tree.size⟩ = some (.getter symbol facts.symbol) := by
    rw [leaves, Tree.kindOf_push_self]
  exact {
    node_eq := rfl
    there := by
      rw [leaves, Tree.size_push]
      exact Nat.lt_succ_self _
    others := fun id new inside => by
      rw [leaves, Tree.size_push] at inside
      omega
    ready := {
      furnished := {
        getter := fun _ _ _ => by
          rw [leaves, Tree.childrenTagged, Tree.childrenOf_push_self]
          rfl
        setter := fun _ _ other => by cases is.symm.trans other
        call := fun _ other => by cases is.symm.trans other }
      notCall := Tree.hasTag_eq_of_kindOf is .call
      owned := fun kind symbol same of => by
        cases is.symm.trans same
        cases of
        rw [leaves]
        exact ⟨property, rfl, declares.congr (Tree.labelOf_push isProperty _)⟩ } }

theorem startSetter_begun {property : NodeId} {draft : Draft}
    (started : builder.startSetter property before = .ok draft after) :
    draft.Begun before.tree after.tree := by
  obtain ⟨facts, checked, named⟩ := ofExcept_bind_eq_ok (tree_bind_eq_ok started)
  obtain ⟨symbol, made, _, leaves, work⟩ := declare_bind_eq_ok
    (fun symbol => .setter symbol facts.symbol) named
  obtain ⟨_, _, added, ended⟩ := bind_eq_ok work
  cases ended
  have declares := declares_of_propertyAt (checkSetter_eq_ok checked).1
  have isProperty := lt_of_propertyAt (checkSetter_eq_ok checked).1
  have parameter := addParameters_addsNeutral added
  have size : made.tree.size = before.tree.size + 1 := by rw [leaves, Tree.size_push]
  have there : before.tree.size < made.tree.size := size ▸ Nat.lt_succ_self _
  have is : after.tree.kindOf ⟨before.tree.size⟩ = some (.setter symbol facts.symbol) := by
    rw [Tree.kindOf_congr (parameter.labelOf ⟨before.tree.size⟩ there), leaves,
      Tree.kindOf_push_self]
  obtain ⟨own, linked, inside⟩ := addParameters_single added
  have value : after.tree.labelOf ⟨made.tree.size⟩ =
      some ⟨.parameter own 0, .identifier "value", facts.ty⟩ := by
    rw [linked, Tree.labelOf_link, Tree.labelOf_push_self]
    rfl
  have given : after.tree.childrenTagged ⟨before.tree.size⟩ .parameter = [⟨made.tree.size⟩] := by
    have isParameter := Tree.hasTag_eq_of_kindOf
      (Tree.kindOf_push_self made.tree (.parameter own 0) (.identifier "value") facts.ty) .parameter
    rw [linked, Tree.childrenTagged_link (by rwa [Tree.size_push]), if_pos ⟨rfl, isParameter⟩,
      Tree.childrenTagged, Tree.childrenOf_push _ _ rfl, leaves, Tree.childrenOf_push_self]
    rfl
  exact {
    node_eq := rfl
    there := Nat.lt_of_lt_of_le there parameter.size_le
    others := fun id new inside => parameter.neutral id (size ▸ new) inside
    ready := {
      furnished := {
        getter := fun _ _ other => by cases is.symm.trans other
        setter := fun _ _ _ => ⟨_, given, _, own, value, rfl, rfl⟩
        call := fun _ other => by cases is.symm.trans other }
      notCall := Tree.hasTag_eq_of_kindOf is .call
      owned := fun kind symbol same of => by
        cases is.symm.trans same
        cases of
        refine ⟨property, rfl, (declares.congr ?_).congr (parameter.labelOf property ?_)⟩
        · rw [leaves]
          exact Tree.labelOf_push isProperty _
        · exact Nat.lt_trans isProperty there } }

/-- **The first half of a declaration.** -/
theorem start_begun {declaration : Declaration} {draft : Draft}
    (started : builder.start declaration before = .ok draft after) :
    draft.Begun before.tree after.tree := by
  cases declaration with
  | function _ => exact startFunction_begun started
  | getter _ => exact startGetter_begun started
  | setter _ => exact startSetter_begun started

/-! ### Declarations with a body -/

theorem makeBody_made {statements : List NodeId}
    (made : builder.makeBody statements before = .ok id after) :
    id = ⟨before.tree.size⟩ ∧ after.tree.labelOf id = some ⟨.body, .special "<body>", .unit⟩ ∧
      after.tree.childrenOf id = statements ∧ Tree.AddsNeutral before.tree after.tree := by
  obtain ⟨body, middle, created, work⟩ := bind_eq_ok made
  obtain ⟨rfl, leaves⟩ := create_eq_ok created
  obtain ⟨_, _, filled, ended⟩ := bind_eq_ok work
  cases ended
  obtain ⟨size, labels, children⟩ := appendAll_eq_ok filled
  refine ⟨rfl, ?_, ?_, ?_⟩
  · rw [labels, leaves]
    exact Tree.labelOf_push_self before.tree _
  · rw [children, leaves, Tree.childrenOf_push_self, List.nil_append]
  · refine (?_ : Tree.AddsNeutral before.tree middle.tree).trans (.of_same size labels)
    rw [leaves]
    exact Tree.addsNeutral_push before.tree _ _ _

/-- The declaration was given its body, and was attached to its property if it is an accessor. -/
theorem finish_eq_ok {draft : Draft} {statements : List NodeId}
    (done : builder.finish draft statements before = .ok id after) :
    id = draft.node ∧ ∃ body middle, builder.makeBody statements before = .ok body middle ∧
      middle.tree.checkAttachable draft.node body = .ok () ∧
      match draft.property with
      | none => after.tree = middle.tree.link draft.node body
      | some property =>
          (middle.tree.link draft.node body).checkAttachable property draft.node = .ok () ∧
            after.tree = (middle.tree.link draft.node body).link property draft.node := by
  obtain ⟨body, middle, made, work⟩ := bind_eq_ok done
  obtain ⟨_, last, filled, rest⟩ := bind_eq_ok work
  obtain ⟨attachable, leaves⟩ := append_eq_ok filled
  cases of : draft.property with
  | none =>
      rw [of] at rest
      obtain ⟨_, _, noted, ended⟩ := bind_eq_ok rest
      cases noted
      cases ended
      exact ⟨rfl, body, middle, made, attachable, leaves⟩
  | some property =>
      rw [of] at rest
      obtain ⟨_, _, equipped, ended⟩ := bind_eq_ok rest
      cases ended
      refine ⟨rfl, body, middle, made, attachable, ?_⟩
      rw [← leaves]
      exact append_eq_ok equipped

/-- **A declaration that was given its body fits**, and so does its body. What fitted before still
does. -/
theorem finish_fits {draft : Draft} {declaration : Declaration} {statements : List NodeId}
    {old : Nat} (done : builder.finish draft statements before = .ok id after)
    (forest : before.tree.IsForest) (ready : draft.Ready before.tree)
    (stands : draft.Stands declaration old before.tree) :
    after.tree.Fits draft.node ∧ Tree.NewFit before.tree after.tree ∧
      ∀ other : NodeId, other.index < before.tree.size → other ≠ draft.node →
        before.tree.Fits other → after.tree.Fits other := by
  obtain ⟨-, body, middle, made, attachable, rest⟩ := finish_eq_ok done
  obtain ⟨rfl, isBody, -, adds⟩ := makeBody_made made
  have steps := builder.makeBody_steps statements (le_refl before.tree.size)
  have spared := Edits.spared (steps.run_ok made).1 le_rfl
  have inside := stands.takes.there
  have notProperty := stands.takes.notProperty
  have middleReady := ready.spared forest spared inside inside notProperty
  have isProperty : ∀ property, draft.property = some property →
      middle.tree.hasTag .property property = true := fun property of => by
    obtain ⟨_, _, isProperty, _⟩ := stands.accessor_of of
    exact spared.hasTag isProperty
  have kind : middle.tree.kindOf ⟨before.tree.size⟩ = some .body :=
    congrArg (Option.map Label.kind) isBody
  obtain ⟨size, fits, others⟩ := middleReady.fits_finished kind attachable
    ((Tree.hasTag_congr (spared.labelOf _ inside)).trans notProperty) isProperty rest
  refine ⟨fits, fun other new within => ?_, fun other there apart fitted =>
    others other apart (fitted.spared forest spared there there)⟩
  have apart : other ≠ draft.node := by
    rintro rfl
    omega
  exact others other apart (adds.newFit other new (size ▸ within))

end Builder

end DeclTree
