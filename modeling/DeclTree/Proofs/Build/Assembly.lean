/-
**Putting calls and bodies together.**

The operands of a call and the statements of a body are picked first and attached later, when the
call or the body is made. Whether that succeeds is said here of the tree in which it begins:

* `appendAll_eq_ok_iff`: some nodes are attached under one without parent exactly if they may be
  gathered there;
* `appendAll_eq_error`: unlinked nodes are attached up to the first one that occurs again, which is
  refused;
* `makeBody_eq_ok_iff`: a body is made of unlinked statements, no two of them the same;
* `exists_finish_iff`: a function is given such a body unless it is itself below a statement;
* `startFunction_ok`: a function whose types are known can be begun.
-/

import DeclTree.Proofs.Build.Success
import DeclTree.Proofs.Tree.Gathering
import DeclTree.Proofs.Tree.Relinking

namespace DeclTree

/-- All types that are asked for are of known classes. -/
structure FunctionSpec.Resolves (spec : FunctionSpec) (types : TypeUniverse) : Prop where
  result : types.resolve spec.result = .ok ()
  parameters : ∀ parameter ∈ spec.parameters, types.resolve parameter.2 = .ok ()

variable {before after : Workspace} {error : TreeError}

namespace Tree

variable {tree : Tree} {parent child : NodeId}

theorem checkAttachable_of_attached {current : NodeId} (parentThere : parent.index < tree.size)
    (childThere : child.index < tree.size) (notRoot : child ≠ .root)
    (attached : tree.parentOf child = some current) :
    tree.checkAttachable parent child = .error (.violation (.alreadyAttached child current)) := by
  obtain ⟨parentNode, above⟩ := node?_eq_some_of_lt parentThere
  obtain ⟨childNode, below⟩ := node?_eq_some_of_lt childThere
  rw [parentOf_eq below] at attached
  unfold checkAttachable node
  rw [above, below]
  dsimp only
  rw [if_neg notRoot, attached]

/-- A new node is above nothing, and changes nothing about what is above what. -/
theorem above_push_iff {top id : NodeId} (node : Node) (alone : node.parent = none) :
    (tree.push node).2.Above top id ↔ tree.Above top id := by
  unfold Above
  simp only [parentOf_push tree node alone]

theorem IsForest.childless_push (forest : tree.IsForest) (node : Node) (alone : node.parent = none)
    (id : NodeId) : (tree.push node).2.parentOf id ≠ some ⟨tree.size⟩ := by
  rw [parentOf_push tree node alone]
  exact fun attached => Nat.lt_irrefl _ (forest.parent_there attached)

end Tree

namespace Build

variable {parent : NodeId} {children : List NodeId}

theorem create_ok {types : TypeUniverse} {ty : Ty} (known : types.resolve ty = .ok ())
    (kind : NodeKind) (name : Name) (before : Workspace) :
    create types kind name ty before = .ok ⟨before.tree.size⟩
      { before with tree := (before.tree.push { kind := kind, name := name, ty := ty }).2 } := by
  rw [create_apply, known]

/-- A symbol is made, and then a node that declares it. -/
theorem declare_bind_ok {β : Type} {types : TypeUniverse} {ty : Ty}
    (known : types.resolve ty = .ok ()) (signature : Signature) (kind : Symbol → NodeKind)
    (name : Name) (next : Symbol → NodeId → Build β) (before : Workspace) :
    (newSymbol signature >>= fun symbol => create types (kind symbol) name ty >>= next symbol)
        before =
      let symbol := (before.supply.fresh signature).1
      next symbol ⟨before.tree.size⟩ { before with
        tree := (before.tree.push { kind := kind symbol, name := name, ty := ty }).2
        supply := (before.supply.fresh signature).2 } :=
  (bind_ok (newSymbol_apply signature before)).trans (bind_ok (create_ok known _ _ _))

theorem append_ok {child : NodeId}
    (attachable : before.tree.checkAttachable parent child = .ok ()) :
    append parent child before = .ok () { before with tree := before.tree.link parent child } := by
  rw [append_apply, attachable]

/-! ### One after the other -/

theorem appendAll_cons (parent child : NodeId) (rest : List NodeId) :
    appendAll parent (child :: rest) = append parent child >>= fun _ => appendAll parent rest := rfl

theorem appendAll_append (parent : NodeId) (children later : List NodeId) (before : Workspace) :
    appendAll parent (children ++ later) before =
      (appendAll parent children >>= fun _ => appendAll parent later) before := by
  induction children generalizing before with
  | nil => rfl
  | cons child rest ih =>
      rw [List.cons_append, appendAll_cons, appendAll_cons, bind_assoc, bind_apply, bind_apply]
      cases append parent child before with
      | ok _ middle => exact ih middle
      | error _ _ => rfl

/-- **All of them are attached exactly if they may be gathered.** -/
theorem appendAll_eq_ok_iff (there : parent.index < before.tree.size)
    (alone : before.tree.parentOf parent = none) :
    appendAll parent children before = .ok () after ↔ before.tree.Gathers parent children ∧
      after = { before with tree := before.tree.linkAll parent children } := by
  induction children generalizing before with
  | nil =>
      refine ⟨fun done => ?_, fun ⟨_, same⟩ => same ▸ rfl⟩
      cases done
      exact ⟨Tree.gathers_nil _ _, rfl⟩
  | cons child rest ih =>
      rw [appendAll_cons, bind_apply, append_apply, Tree.gathers_cons_iff,
        ← Tree.checkAttachable_iff_of_alone there alone]
      cases attachable : before.tree.checkAttachable parent child with
      | error _ => exact ⟨nofun, fun both => nomatch both.1.1⟩
      | ok _ =>
          obtain ⟨first, other⟩ := (Tree.checkAttachable_iff_of_alone there alone).mp attachable
          let linked : Workspace := { before with tree := before.tree.link parent child }
          have stillThere : parent.index < linked.tree.size := by rwa [Tree.size_link]
          have stillAlone : linked.tree.parentOf parent = none := by
            rw [Tree.parentOf_link first.there, if_neg other.symm, alone]
          have later : appendAll parent rest linked = .ok () after ↔ _ := ih stillThere stillAlone
          constructor
          · intro done
            obtain ⟨gathers, leaves⟩ := later.mp done
            exact ⟨⟨rfl, gathers⟩, leaves⟩
          · rintro ⟨⟨_, gathers⟩, leaves⟩
            exact later.mpr ⟨gathers, leaves⟩

/-- **A node that occurs again is refused**, and those before it stay attached. -/
theorem appendAll_again {first rest : List NodeId} {again : NodeId}
    (there : parent.index < before.tree.size) (alone : before.tree.parentOf parent = none)
    (gathers : before.tree.Gathers parent first) (member : again ∈ first) :
    appendAll parent (first ++ again :: rest) before =
      .error (.violation (.alreadyAttached again parent))
        { before with tree := before.tree.linkAll parent first } := by
  have unlinked := gathers.unlinked again member
  have attached : (before.tree.linkAll parent first).parentOf again = some parent := by
    rw [Tree.parentOf_linkAll unlinked.there, if_pos member]
  have refused : (before.tree.linkAll parent first).checkAttachable parent again = _ :=
    Tree.checkAttachable_of_attached (by rwa [Tree.size_linkAll])
      (by rw [Tree.size_linkAll]; exact unlinked.there) unlinked.notRoot attached
  rw [appendAll_append, bind_ok ((appendAll_eq_ok_iff there alone).mpr ⟨gathers, rfl⟩),
    appendAll_cons]
  refine bind_error ?_
  rw [append_apply, refused]

/-- **Unlinked nodes fail to be attached only where one of them occurs again.** -/
theorem appendAll_eq_error (there : parent.index < before.tree.size)
    (alone : before.tree.parentOf parent = none)
    (unlinked : ∀ child ∈ children, before.tree.Unlinked child) (apart : parent ∉ children)
    (failed : appendAll parent children before = .error error after) :
    ∃ first again rest, children = first ++ again :: rest ∧ first.Nodup ∧ again ∈ first ∧
      error = .violation (.alreadyAttached again parent) ∧
        after = { before with tree := before.tree.linkAll parent first } := by
  by_cases nodup : children.Nodup
  · have done := (appendAll_eq_ok_iff there alone).mpr ⟨⟨unlinked, nodup, apart⟩, rfl⟩
    cases done.symm.trans failed
  · obtain ⟨first, again, rest, rfl, once, member⟩ := Tree.exists_first_again nodup
    have gathers : before.tree.Gathers parent first :=
      ⟨fun child listed => unlinked child (List.mem_append_left _ listed), once,
        fun listed => apart (List.mem_append_left _ listed)⟩
    cases (appendAll_again there alone gathers member).symm.trans failed
    exact ⟨first, again, rest, rfl, once, member, rfl, rfl⟩

end Build

namespace Builder

open Build

variable (builder : Builder) {id : NodeId} {statements : List NodeId}

/-! ### Bodies -/

/-- **A body is made of unlinked statements**, no two of them the same. -/
theorem makeBody_eq_ok_iff : builder.makeBody statements before = .ok id after ↔
    ((∀ statement ∈ statements, before.tree.Unlinked statement) ∧ statements.Nodup) ∧
      id = ⟨before.tree.size⟩ ∧ after = { before with
        tree := (before.tree.push
          { kind := .body, name := .special "<body>", ty := .unit }).2.linkAll ⟨before.tree.size⟩
            statements } := by
  have known : builder.context.types.resolve .unit = .ok () :=
    builder.context.types.resolve_builtin (by decide)
  let node : Node := { kind := .body, name := .special "<body>", ty := .unit }
  let made : Workspace := { before with tree := (before.tree.push node).2 }
  have there : before.tree.size < made.tree.size := Tree.lt_size_push before.tree node
  have alone : made.tree.parentOf ⟨before.tree.size⟩ = none :=
    Tree.parentOf_push_self before.tree node
  have created : builder.makeBody statements before =
      (appendAll ⟨before.tree.size⟩ statements >>= fun _ => pure ⟨before.tree.size⟩) made :=
    bind_ok (create_ok known _ _ before)
  rw [created, ← Tree.gathers_push_iff node rfl]
  constructor
  · intro done
    obtain ⟨_, filled, attached, ended⟩ := bind_eq_ok done
    obtain ⟨gathers, rfl⟩ := (appendAll_eq_ok_iff there alone).mp attached
    cases ended
    exact ⟨gathers, rfl, rfl⟩
  · rintro ⟨gathers, rfl, rfl⟩
    exact bind_ok ((appendAll_eq_ok_iff there alone).mpr ⟨gathers, rfl⟩)

/-! ### Functions -/

/-- **A function is given its body** exactly if the statements are unlinked, no two of them are the
same, and the function is below none of them. -/
theorem exists_finish_iff {draft : Draft} (isFunction : draft.property = none)
    (forest : before.tree.IsForest) (there : draft.node.index < before.tree.size) :
    (∃ id after, builder.finish draft statements before = .ok id after) ↔
      ((∀ statement ∈ statements, before.tree.Unlinked statement) ∧ statements.Nodup) ∧
        ∀ statement ∈ statements, ¬ before.tree.Above statement draft.node := by
  let node : Node := { kind := .body, name := .special "<body>", ty := .unit }
  let pushed := (before.tree.push node).2
  let filled := pushed.linkAll ⟨before.tree.size⟩ statements
  have other : draft.node ≠ ⟨before.tree.size⟩ := by
    intro same
    rw [same] at there
    exact Nat.lt_irrefl _ there
  have size : filled.size = before.tree.size + 1 := by rw [Tree.size_linkAll, Tree.size_push]
  -- with the body made, what is left is to attach it, which only a cycle can prevent
  have attach : (∀ statement ∈ statements, before.tree.Unlinked statement) ∧ statements.Nodup →
      (filled.checkAttachable draft.node ⟨before.tree.size⟩ = .ok () ↔
        ∀ statement ∈ statements, ¬ before.tree.Above statement draft.node) := by
    intro fit
    have gathers : pushed.Gathers ⟨before.tree.size⟩ statements :=
      (Tree.gathers_push_iff node rfl).mpr fit
    have made := builder.makeBody_eq_ok_iff.mpr ⟨fit, rfl, rfl⟩
    have steps := builder.makeBody_steps statements (le_refl before.tree.size)
    have filledForest : filled.IsForest := forest.grows (Edits.grows (steps.run_ok made).1)
    have below : filled.Above ⟨before.tree.size⟩ draft.node ↔
        ∃ statement ∈ statements, before.tree.Above statement draft.node := by
      rw [Tree.above_linkAll_iff gathers (forest.childless_push node rfl) other]
      simp only [pushed, Tree.above_push_iff node rfl]
    rw [filledForest.checkAttachable_eq_ok_iff]
    constructor
    · exact fun attachable statement member above =>
        attachable.apart (below.mpr ⟨statement, member, above⟩)
    · intro apart
      have new : pushed.Unlinked ⟨before.tree.size⟩ := Tree.unlinked_push_self node rfl there
      have inside : before.tree.size < filled.size := size ▸ Nat.lt_succ_self _
      refine ⟨Nat.lt_trans there inside, inside, new.notRoot, ?_, fun above => ?_⟩
      · rw [Tree.parentOf_linkAll_of_not_mem gathers.apart, new.alone]
      · obtain ⟨statement, member, above⟩ := below.mp above
        exact apart statement member above
  constructor
  · rintro ⟨id, after, done⟩
    obtain ⟨-, body, middle, made, attachable, -⟩ := finish_eq_ok done
    obtain ⟨fit, rfl, rfl⟩ := builder.makeBody_eq_ok_iff.mp made
    exact ⟨fit, (attach fit).mp attachable⟩
  · rintro ⟨fit, apart⟩
    have made := builder.makeBody_eq_ok_iff.mpr ⟨fit, rfl, rfl⟩
    have rest := builder.finish_apply made (append_ok ((attach fit).mpr apart))
    rw [isFunction] at rest
    exact ⟨_, _, rest.trans (bind_ok (note_apply _ _ _))⟩

theorem addParameters_ok (ownerName : QualName) (index : Nat) {owner : NodeId}
    {parameters : List (Name × Ty)} (there : owner.index < before.tree.size)
    (alone : before.tree.parentOf owner = none)
    (known : ∀ parameter ∈ parameters, builder.context.types.resolve parameter.2 = .ok ()) :
    ∃ ids after, builder.addParameters owner ownerName index parameters before = .ok ids after := by
  induction parameters generalizing index before with
  | nil => exact ⟨[], before, rfl⟩
  | cons parameter rest ih =>
      obtain ⟨name, ty⟩ := parameter
      obtain ⟨first, later⟩ := List.forall_mem_cons.mp known
      let signature : Signature := ⟨ownerName.child name, .valueParameter, [], ty⟩
      let symbol := (before.supply.fresh signature).1
      let node : Node := { kind := .parameter symbol index, name := name, ty := ty }
      let made : Workspace := { before with
        tree := (before.tree.push node).2, supply := (before.supply.fresh signature).2 }
      have other : owner ≠ ⟨before.tree.size⟩ := by
        rintro rfl
        exact Nat.lt_irrefl _ there
      have new : made.tree.Unlinked ⟨before.tree.size⟩ := Tree.unlinked_push_self node rfl there
      have stillThere : owner.index < made.tree.size := Nat.lt_trans there new.there
      have stillAlone : made.tree.parentOf owner = none :=
        (Tree.parentOf_push before.tree node rfl owner).trans alone
      have attachable : made.tree.checkAttachable owner ⟨before.tree.size⟩ = .ok () :=
        (Tree.checkAttachable_iff_of_alone stillThere stillAlone).mpr ⟨new, other.symm⟩
      let linked : Workspace := { made with tree := made.tree.link owner ⟨before.tree.size⟩ }
      have linkedThere : owner.index < linked.tree.size := by rwa [Tree.size_link]
      have linkedAlone : linked.tree.parentOf owner = none :=
        (Tree.parentOf_link new.there owner).trans ((if_neg other).trans stillAlone)
      obtain ⟨ids, after, done⟩ := ih (index + 1) linkedThere linkedAlone later
      refine ⟨⟨before.tree.size⟩ :: ids, after, ?_⟩
      refine (declare_bind_ok first signature (.parameter · index) name _ before).trans ?_
      exact (bind_ok (append_ok attachable)).trans (bind_ok done)

/-- **A function whose types are known can be begun.** -/
theorem startFunction_ok {spec : FunctionSpec} (resolves : spec.Resolves builder.context.types)
    (before : Workspace) :
    ∃ draft after, builder.start (.function spec) before = .ok draft after := by
  let signature : Signature :=
    ⟨builder.qualify spec.name, .function, spec.parameters.map Prod.snd, spec.result⟩
  let symbol := (before.supply.fresh signature).1
  let node : Node := { kind := .function symbol spec.visibility spec.modality,
                       name := spec.name, ty := spec.result }
  let made : Workspace := { before with
    tree := (before.tree.push node).2, supply := (before.supply.fresh signature).2 }
  have there : before.tree.size < made.tree.size := Tree.lt_size_push before.tree node
  have alone : made.tree.parentOf ⟨before.tree.size⟩ = none :=
    Tree.parentOf_push_self before.tree node
  obtain ⟨parameters, after, added⟩ :=
    builder.addParameters_ok (builder.qualify spec.name) 0 there alone resolves.parameters
  have checked : (spec.parameters.forM fun parameter =>
      builder.context.types.resolve parameter.2) = .ok () :=
    (forM_eq_ok_iff _ spec.parameters).mpr resolves.parameters
  refine ⟨⟨⟨before.tree.size⟩, ⟨symbol, parameters⟩, none⟩, after, ?_⟩
  show builder.startFunction spec before = _
  refine (bind_ok (ofExcept_ok checked before)).trans ?_
  refine (declare_bind_ok resolves.result signature
    (.function · spec.visibility spec.modality) spec.name _ before).trans ?_
  exact bind_ok added

end Builder

end DeclTree
