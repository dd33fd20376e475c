/-
**Whether a function is built, and whether it is attached.**

A function is there, attached to nothing, while the script for its body runs, and so are the
statements that the body accepts. The script can hand any of them to the builder, which attaches it.
The body only looks at a statement when it accepts it, and nobody looks at the function when it is
given its body. So what the script did last decides:

* `function_parentOf`: **a function that is built has the parent that the script gave it**, and may
  be attached to the module exactly if that is none;
* `function_assembled`: **a function whose body was accepted is built exactly if none of the
  statements is attached by then.**
-/

import DeclTree.Proofs.Build.Operands
import DeclTree.Proofs.Host.Run

namespace DeclTree

variable {σ : Type} {builder : Builder} {spec : FunctionSpec} {workspace : Workspace} {id : NodeId}

/-- A node other than the module may be attached to the module if it is attached to nothing. -/
theorem Tree.IsForest.attachable_root_iff {tree : Tree} (forest : tree.IsForest)
    (there : id.index < tree.size) (notRoot : id ≠ .root) :
    tree.Attachable .root id ↔ tree.parentOf id = none := by
  refine ⟨Attachable.alone, fun alone => ?_⟩
  refine ⟨forest.root_there, there, notRoot, alone, fun above => ?_⟩
  obtain ⟨parent, attached, _⟩ := above.parentOf notRoot.symm
  cases forest.root_alone.symm.trans attached

namespace Builder

/-- A function that waits for its body is the first node that was made, and is given no property. -/
theorem start_function {draft : Draft} {begun : Workspace} (body : Scope → Script σ)
    (started : builder.start (.function spec) workspace = .ok draft begun) :
    draft.node = ⟨workspace.tree.size⟩ ∧ draft.property = none :=
  ⟨(start_begun started).node_eq, (stands_written body started).1.property_eq⟩

/-- **A function is given its body without being attached.** -/
theorem parentOf_finish {draft : Draft} {statements : List NodeId} {before after : Workspace}
    (isFunction : draft.property = none) (forest : before.tree.IsForest)
    (there : draft.node.index < before.tree.size)
    (done : builder.finish draft statements before = .ok id after) :
    after.tree.parentOf draft.node = before.tree.parentOf draft.node := by
  obtain ⟨_, apart⟩ := (builder.exists_finish_iff isFunction forest there).mp ⟨id, after, done⟩
  have unlisted : draft.node ∉ statements := fun listed => apart _ listed (.refl _ _)
  obtain ⟨-, body, middle, made, attachable, rest⟩ := finish_eq_ok done
  obtain ⟨_, rfl, rfl⟩ := builder.makeBody_eq_ok_iff.mp made
  have other : draft.node ≠ ⟨before.tree.size⟩ := by
    intro same
    rw [same] at there
    exact Nat.lt_irrefl _ there
  obtain ⟨_, inside, _⟩ := (Tree.checkAttachable_eq_ok_iff _ _ _).mp attachable
  rw [isFunction] at rest
  rw [rest, Tree.parentOf_link inside, if_neg other, Tree.parentOf_linkAll_of_not_mem unlisted,
    Tree.parentOf_push before.tree _ rfl]

/-- The workspace when the body of a function was written. -/
theorem written_function {draft : Draft} {begun : Workspace} (forest : workspace.tree.IsForest)
    (body : Scope → Script σ)
    (started : builder.start (.function spec) workspace = .ok draft begun) :
    let written := (builder.written (.function spec) body workspace).tree
    written.IsForest ∧ draft.node.index < written.size := by
  intro written
  have begins := Edits.grows ((builder.start_steps (.function spec) le_rfl).run_ok started).1
  have writes := ((body draft.scope).performs builder draft.scope.owner [] begun).grows
  rw [← written_of_start body started] at writes
  exact ⟨forest.grows (begins.trans writes), (stands_written body started).1.takes.there⟩

/-- **Statements that a body accepted can be attached exactly if they still are attached to
nothing**, provided that the function is neither among them nor attached itself. -/
theorem exists_finish_iff_alone {draft : Draft} {statements : List NodeId} {before : Workspace}
    (isFunction : draft.property = none) (forest : before.tree.IsForest)
    (there : draft.node.index < before.tree.size) (alone : before.tree.parentOf draft.node = none)
    (unlisted : draft.node ∉ statements) (holds : before.tree.Holds statements) :
    (∃ id after, builder.finish draft statements before = .ok id after) ↔
      ∀ statement ∈ statements, before.tree.parentOf statement = none := by
  rw [builder.exists_finish_iff isFunction forest there]
  constructor
  · exact fun ⟨⟨unlinked, _⟩, _⟩ statement member => (unlinked statement member).alone
  · intro free
    refine ⟨⟨fun statement member => ⟨holds.there _ member, holds.notRoot _ member,
      free statement member⟩, holds.nodup⟩, fun statement member above => ?_⟩
    -- only the function is above itself, as it has no parent
    have other : draft.node ≠ statement := fun same => unlisted (same ▸ member)
    obtain ⟨parent, attached, _⟩ := above.parentOf other
    cases alone.symm.trans attached

end Builder

/-- **A function that is built has the parent that it had when the script ended.** It has none if
the script did not hand it over, and the host can attach it to the module exactly if it has none. -/
theorem function_parentOf {workspace : Workspace} (reachable : workspace.Reachable)
    (builder : Builder) (spec : FunctionSpec) (body : Scope → Script σ) {id : NodeId}
    (built : (builder.declare (.function spec) body workspace).2.1 = .ok id) :
    let written := builder.written (.function spec) body workspace
    let after := (builder.declare (.function spec) body workspace).2.2
    after.tree.parentOf id = written.tree.parentOf id ∧
      (id ∉ builder.operands (.function spec) body workspace → after.tree.parentOf id = none) ∧
      ((∃ attached, Build.append .root id after = .ok () attached) ↔
        after.tree.parentOf id = none) := by
  intro written after
  have forest := reachable.isForest
  obtain ⟨draft, begun, statements, started, _, done⟩ := Builder.finish_of_declare_ok built
  obtain ⟨new, isFunction⟩ := Builder.start_function body started
  obtain ⟨writtenForest, there⟩ := Builder.written_function forest body started
  obtain rfl := (Builder.finish_eq_ok done).1
  have parent := Builder.parentOf_finish isFunction writtenForest there done
  refine ⟨parent, fun unhanded => ?_, ?_⟩
  · rw [new] at unhanded parent ⊢
    exact parent.trans (Builder.parentOf_written builder (.function spec) body workspace unhanded)
  · have grows := Edits.grows (builder.declare_edits (.function spec) body workspace)
    have afterForest : after.tree.IsForest := forest.grows grows
    have inside : draft.node.index < after.tree.size :=
      Nat.lt_of_lt_of_le there
        (Builder.finish_grows done (Builder.stands_written body started).1).size_le
    have notRoot : draft.node ≠ .root := by
      intro isRoot
      rw [new] at isRoot
      have empty : workspace.tree.size = 0 := congrArg NodeId.index isRoot
      exact absurd forest.root_there (by rw [empty]; exact Nat.not_lt_zero _)
    rw [Build.exists_append_iff afterForest, afterForest.attachable_root_iff inside notRoot]

/-- A function that returns another one, which is built in its body, can be attached. -/
theorem function_parentOf_returning :
    let builder : Builder := { context := .builtin }
    let workspace := Workspace.ofModule (.identifier "app") {} []
    let outer : FunctionSpec := { name := .identifier "outer", result := .int }
    let inner : FunctionSpec := { name := .identifier "inner", result := .int }
    let innerBody : Scope → Script Unit := fun _ => .buildThen (.literal (.int 4)) .returnLast
    let body : Scope → Script Unit := fun _ =>
      .declare (.function inner) innerBody fun _ _ => .returnLast ⟨2⟩
    let after := (builder.declare (.function outer) body workspace).2.2
    workspace.Reachable ∧ (builder.declare (.function outer) body workspace).2.1 = .ok ⟨1⟩ ∧
      after.tree.parentOf ⟨1⟩ = none ∧
      ∃ attached, Build.append .root ⟨1⟩ after = .ok () attached := by
  intro builder workspace outer inner innerBody body after
  have reachable : workspace.Reachable := Workspace.reachable_after _ _ _ []
  have built : (builder.declare (.function outer) body workspace).2.1 = .ok ⟨1⟩ := by
    decide +kernel
  have unhanded : ⟨1⟩ ∉ builder.operands (.function outer) body workspace := by decide +kernel
  obtain ⟨_, unlinked, attachable⟩ := function_parentOf reachable builder outer body built
  exact ⟨reachable, built, unlinked unhanded, attachable.mpr (unlinked unhanded)⟩

/-- **A function can be built attached.** The script returns the function that it is for, under a
return that it never adds to the body. The function is built all the same, has that return for its
parent, and is refused by the module. -/
theorem function_returning_itself :
    let builder : Builder := { context := .builtin }
    let workspace := Workspace.ofModule (.identifier "app") {} []
    let spec : FunctionSpec := { name := .identifier "f", result := .unit }
    let body : Scope → Script Unit := fun scope =>
      .build (.ret scope.owner ⟨1⟩) fun _ => .done () (.ok ())
    let after := (builder.declare (.function spec) body workspace).2.2
    workspace.Reachable ∧ (builder.declare (.function spec) body workspace).2.1 = .ok ⟨1⟩ ∧
      after.tree.parentOf ⟨1⟩ = some ⟨2⟩ ∧
        ((Build.append .root ⟨1⟩).attempt after).1 =
          .error (.violation (.alreadyAttached ⟨1⟩ ⟨2⟩)) :=
  ⟨Workspace.reachable_after _ _ _ [], by decide +kernel, by decide +kernel, by decide +kernel⟩

/-- **A function whose body was accepted is built exactly if none of the statements is attached when
the script ends**, so in particular if none of them was handed over after all. What is asked is that
the types of the function are known and that the script leaves the function itself alone. -/
theorem function_assembled {workspace : Workspace} (reachable : workspace.Reachable)
    (builder : Builder) {spec : FunctionSpec} (resolves : spec.Resolves builder.context.types)
    (body : Scope → Script σ)
    (apart : ⟨workspace.tree.size⟩ ∉ builder.operands (.function spec) body workspace) :
    ∃ verdict written, builder.bodyEnd (.function spec) body workspace = some (verdict, written) ∧
      ∀ statements, verdict = .ok statements → ⟨workspace.tree.size⟩ ∉ statements →
        ((∃ id, (builder.declare (.function spec) body workspace).2.1 = .ok id) ↔
          ∀ statement ∈ statements, written.tree.parentOf statement = none) ∧
        ((∀ statement ∈ statements,
            statement ∉ builder.operands (.function spec) body workspace) →
          ∃ id, (builder.declare (.function spec) body workspace).2.1 = .ok id) := by
  have forest := reachable.isForest
  obtain ⟨draft, begun, started⟩ := builder.startFunction_ok resolves workspace
  obtain ⟨new, isFunction⟩ := Builder.start_function body started
  obtain ⟨writtenForest, there⟩ := Builder.written_function forest body started
  have ending := Builder.bodyEnd_of_start body started
  have alone := Builder.parentOf_written builder (.function spec) body workspace apart
  rw [Builder.written_of_start body started] at writtenForest there alone
  refine ⟨_, _, ending, fun statements accepted unlisted => ?_⟩
  have ended : builder.bodyEnd (.function spec) body workspace = some (.ok statements, _) :=
    ending.trans (congrArg some (Prod.ext accepted rfl))
  rw [← new] at alone unlisted
  have built_iff := (Builder.exists_declare_iff started ended).trans
    (Builder.exists_finish_iff_alone isFunction writtenForest there alone unlisted
      (Builder.holds_bodyEnd builder ended))
  exact ⟨built_iff, fun unhanded => built_iff.mpr fun statement member =>
    Builder.parentOf_bodyEnd builder ended member (unhanded statement member)⟩

/-- A body of a function that was built within and of a return, neither of which is handed over. -/
theorem function_assembled_nested :
    let builder : Builder := { context := .builtin }
    let workspace := Workspace.ofModule (.identifier "app") {} []
    let outer : FunctionSpec := { name := .identifier "outer", result := .int }
    let inner : FunctionSpec := { name := .identifier "inner", result := .int }
    let innerBody : Scope → Script Unit := fun _ => .buildThen (.literal (.int 4)) .returnLast
    let body : Scope → Script Unit := fun _ =>
      .declare (.function inner) innerBody fun _ _ => .push ⟨2⟩ fun _ =>
        .buildThen (.literal (.int 5)) .returnLast
    workspace.Reachable ∧ outer.Resolves builder.context.types ∧
      ⟨1⟩ ∉ builder.operands (.function outer) body workspace ∧
      ∃ written, builder.bodyEnd (.function outer) body workspace =
          some (.ok [⟨2⟩, ⟨7⟩], written) ∧
        ∃ id, (builder.declare (.function outer) body workspace).2.1 = .ok id := by
  intro builder workspace outer inner innerBody body
  have reachable : workspace.Reachable := Workspace.reachable_after _ _ _ []
  have resolves : outer.Resolves builder.context.types :=
    ⟨by decide +kernel, List.forall_mem_nil _⟩
  have apart : ⟨1⟩ ∉ builder.operands (.function outer) body workspace := by decide +kernel
  have accepted : (builder.bodyEnd (.function outer) body workspace).map Prod.fst =
      some (.ok [⟨2⟩, ⟨7⟩]) := by decide +kernel
  obtain ⟨verdict, written, ended, assembled⟩ :=
    function_assembled reachable builder resolves body apart
  rw [ended] at accepted
  obtain rfl : verdict = .ok [⟨2⟩, ⟨7⟩] := Option.some.inj accepted
  obtain ⟨_, built⟩ := assembled [⟨2⟩, ⟨7⟩] rfl (by decide)
  exact ⟨reachable, resolves, apart, written, ended, built (by decide +kernel)⟩

/-- **An accepted statement can be used up.** The script adds a literal to the body, and then has it
returned, under a return that it never adds. All that the script did succeeded and its body is
accepted, but the function is not built. -/
theorem statement_used_up :
    let builder : Builder := { context := .builtin }
    let workspace := Workspace.ofModule (.identifier "app") {} []
    let spec : FunctionSpec := { name := .identifier "f", result := .unit }
    let body : Scope → Script Unit := fun scope =>
      .build (.literal (.int 4)) fun _ => .push ⟨2⟩ fun _ =>
        .build (.ret scope.owner ⟨2⟩) fun _ => .done () (.ok ())
    let error : TreeError := .violation (.alreadyAttached ⟨2⟩ ⟨3⟩)
    workspace.Reachable ∧ spec.Resolves builder.context.types ∧
      ⟨1⟩ ∉ builder.operands (.function spec) body workspace ∧
      (builder.bodyEnd (.function spec) body workspace).map Prod.fst = some (.ok [⟨2⟩]) ∧
      (builder.deeds (.function spec) body workspace).map Deed.outcome =
        [.ok (), .ok (), .ok (), .error error] ∧
      (builder.declare (.function spec) body workspace).2.1 = .error error :=
  ⟨Workspace.reachable_after _ _ _ [], ⟨by decide +kernel, List.forall_mem_nil _⟩,
    by decide +kernel, by decide +kernel, by decide +kernel, by decide +kernel⟩

end DeclTree
