/-
**What a body holds.**

The statements of a body are ids that are set aside while the body is written, and are attached when
it ends. `Script.accepted` lists what a body accepts in a run of a script (`Entry`), each entry when
it is accepted; bodies that are written within have lists of their own. `Builder.bodyOf` is what the
script of a declaration is given to know, and what its body accepts; `Builder.bodyEnd` is how the
script ends.

* `Script.statements_eq`: what a run ends with is what it began with, and what it accepted;
* `Script.kindOf_returned`: the returns among it return from the declaration that the body is for,
  whatever was done since;
* `finish_of_declare_ok`, `declare_eq_error`: what the script left was finished, or was not, or it
  never came to the script;
* `finish_body`: a declaration that is finished has one child more, a body of the statements given;
* `declare_body`: so a declaration that is built has the children it was begun with and a body,
  which holds what was accepted for it and nothing else.
-/

import DeclTree.Proofs.Build.Success

namespace DeclTree

variable {σ : Type}

/-- A statement that a body accepted: one that was pushed, or a return that was made for it. -/
inductive Entry where
  | pushed (statement : NodeId)
  | returned (ret : NodeId)
deriving DecidableEq, Repr

/-- The node of the statement. -/
def Entry.node : Entry → NodeId
  | pushed statement => statement
  | returned ret => ret

/-- What a body that has some statements already accepts in a run of a script, first to last. What
the bodies of declarations accept that are built within is not part of it. -/
def Script.accepted (builder : Builder) (owner : Symbol) :
    Script σ → List NodeId → Workspace → List Entry
  | .done _ _, _, _ => []
  | .build operation next, statements, workspace =>
      let (outcome, after) := (builder.perform operation).attempt workspace
      accepted builder owner (next outcome) statements after
  | .push statement next, statements, workspace =>
      match Builder.addStatement workspace.tree statements statement with
      | .ok longer =>
          .pushed statement :: accepted builder owner (next (.ok ())) longer workspace
      | .error error => accepted builder owner (next (.error error)) statements workspace
  | .pushReturn value next, statements, workspace =>
      match builder.ret owner value workspace with
      | .ok id after =>
          .returned id :: accepted builder owner (next (.ok id)) (statements ++ [id]) after
      | .error error after => accepted builder owner (next (.error error)) statements after
  | .newSymbol signature next, statements, workspace =>
      let (symbol, supply) := workspace.supply.fresh signature
      accepted builder owner (next symbol) statements { workspace with supply := supply }
  | .look next, statements, workspace =>
      accepted builder owner (next workspace.tree) statements workspace
  | .declare declaration body next, statements, workspace =>
      let (host, outcome, after) := builder.declareWith declaration
        (fun scope => run builder scope.owner (body scope) []) workspace
      accepted builder owner (next host outcome) statements after

/-- What the script for the body of a declaration is given to know, and what the body accepts.
There is nothing if the body is not begun. -/
def Builder.bodyOf (builder : Builder) (declaration : Declaration) (body : Scope → Script σ)
    (workspace : Workspace) : Option (Scope × List Entry) :=
  match builder.start declaration workspace with
  | .error _ _ => none
  | .ok draft begun =>
      some (draft.scope, (body draft.scope).accepted builder draft.scope.owner [] begun)

/-- How the writing of a body ended: with its statements or the error for which it was given up, and
with the workspace as it was then. There is nothing if the body is not begun. -/
def Builder.bodyEnd (builder : Builder) (declaration : Declaration) (body : Scope → Script σ)
    (workspace : Workspace) : Option (Except TreeError (List NodeId) × Workspace) :=
  match builder.start declaration workspace with
  | .error _ _ => none
  | .ok draft begun => some ((body draft.scope).run builder draft.scope.owner [] begun).2

/-- The workspace when the body of a declaration was written, or the one there was before if the
body is not begun. -/
def Builder.written (builder : Builder) (declaration : Declaration) (body : Scope → Script σ)
    (workspace : Workspace) : Workspace :=
  ((builder.bodyEnd declaration body workspace).map Prod.snd).getD workspace

/-- A body, in which there is what was accepted for it, in order. The returns that were made for it
are returns from its owner. -/
structure Tree.IsBody (tree : Tree) (owner : Symbol) (entries : List Entry) (body : NodeId) :
    Prop where
  label : tree.labelOf body = some ⟨.body, .special "<body>", .unit⟩
  children : tree.childrenOf body = entries.map Entry.node
  attached : ∀ entry ∈ entries, tree.parentOf entry.node = some body
  returned : ∀ ret, .returned ret ∈ entries → tree.kindOf ret = some (.ret owner)

variable {builder : Builder} {before after : Workspace} {id : NodeId}

/-- A node stays of its kind. -/
theorem Grows.kindOf (grows : Grows before after) {kind : NodeKind}
    (is : before.tree.kindOf id = some kind) : after.tree.kindOf id = some kind := by
  obtain ⟨_, found, _⟩ := Option.map_eq_some_iff.mp is
  exact (Tree.kindOf_congr (grows.labelOf (Tree.lt_of_labelOf found))).trans is

/-! ### Scripts -/

theorem Builder.addStatement_eq_ok {tree : Tree} {statements longer : List NodeId}
    {statement : NodeId} (added : addStatement tree statements statement = .ok longer) :
    longer = statements ++ [statement] := by
  unfold addStatement at added
  split at added
  · cases added
  · cases checked : checkUnlinked tree statement with
    | error _ =>
        rw [checked] at added
        cases added
    | ok _ =>
        rw [checked] at added
        exact (Except.ok.inj added).symm

theorem Builder.kindOf_ret {target : Symbol} {value : NodeId}
    (done : builder.ret target value before = .ok id after) :
    after.tree.kindOf id = some (.ret target) := by
  obtain ⟨rfl, leaves⟩ := ret_eq_ok done
  rw [leaves, Tree.kindOf_congr (Tree.labelOf_link _ _ _ _), Tree.kindOf_push_self]

/-- **A run ends with the statements that there were and those that were accepted.** -/
theorem Script.statements_eq (script : Script σ) : ∀ (owner : Symbol) (statements : List NodeId)
    (workspace : Workspace) {final : List NodeId},
    (script.run builder owner statements workspace).2.1 = .ok final →
      final = statements ++ (script.accepted builder owner statements workspace).map
        Entry.node := by
  induction script with
  | done host verdict =>
      intro owner statements workspace final ended
      unfold run at ended
      cases verdict with
      | ok _ =>
          rw [← Except.ok.inj ended]
          exact (List.append_nil _).symm
      | error _ => cases ended
  | build operation next ih =>
      exact fun owner statements workspace _ ended => ih _ owner statements _ ended
  | push statement next ih =>
      intro owner statements workspace final ended
      unfold run at ended
      unfold accepted
      cases added : Builder.addStatement workspace.tree statements statement with
      | ok longer =>
          rw [added] at ended
          rw [ih _ owner longer workspace ended, Builder.addStatement_eq_ok added,
            List.append_assoc]
          rfl
      | error error =>
          rw [added] at ended
          exact ih _ owner statements workspace ended
  | pushReturn value next ih =>
      intro owner statements workspace final ended
      unfold run at ended
      unfold accepted
      cases done : builder.ret owner value workspace with
      | ok id after =>
          rw [done] at ended
          rw [ih _ owner _ after ended, List.append_assoc]
          rfl
      | error error after =>
          rw [done] at ended
          exact ih _ owner statements after ended
  | newSymbol signature next ih =>
      exact fun owner statements workspace _ ended => ih _ owner statements _ ended
  | look next ih =>
      exact fun owner statements workspace _ ended => ih _ owner statements workspace ended
  | declare declaration body next _ ih =>
      exact fun owner statements workspace _ ended => ih _ _ owner statements _ ended

/-- **The returns that were made for a body return from its owner.** What is done after one was
made leaves it what it is. -/
theorem Script.kindOf_returned (script : Script σ) : ∀ (owner : Symbol)
    (statements : List NodeId) (workspace : Workspace) {ret : NodeId},
    .returned ret ∈ script.accepted builder owner statements workspace →
      (script.run builder owner statements workspace).2.2.tree.kindOf ret =
        some (.ret owner) := by
  induction script with
  | done host verdict => exact fun owner statements workspace _ member => nomatch member
  | build operation next ih =>
      exact fun owner statements workspace _ member => ih _ owner statements _ member
  | push statement next ih =>
      intro owner statements workspace ret member
      unfold run
      unfold accepted at member
      cases added : Builder.addStatement workspace.tree statements statement with
      | ok longer =>
          rw [added] at member
          rcases List.mem_cons.mp member with first | later
          · cases first
          · exact ih _ owner longer workspace later
      | error error =>
          rw [added] at member
          exact ih _ owner statements workspace member
  | pushReturn value next ih =>
      intro owner statements workspace ret member
      unfold run
      unfold accepted at member
      cases done : builder.ret owner value workspace with
      | ok id after =>
          rw [done] at member
          rcases List.mem_cons.mp member with first | later
          · cases first
            have rest := (next (.ok ret)).performs builder owner (statements ++ [ret]) after
            exact rest.grows.kindOf (Builder.kindOf_ret done)
          · exact ih _ owner _ after later
      | error error after =>
          rw [done] at member
          exact ih _ owner statements after member
  | newSymbol signature next ih =>
      exact fun owner statements workspace _ member => ih _ owner statements _ member
  | look next ih =>
      exact fun owner statements workspace _ member => ih _ owner statements workspace member
  | declare declaration body next _ ih =>
      exact fun owner statements workspace _ member => ih _ _ owner statements _ member

/-! ### Declarations -/

namespace Builder

/-- A declaration that is built was begun, its body was written, and it was finished. -/
theorem declare_eq_ok {declaration : Declaration} {body : Scope → Script σ}
    {workspace : Workspace} (built : (builder.declare declaration body workspace).2.1 = .ok id) :
    ∃ draft begun statements, builder.start declaration workspace = .ok draft begun ∧
      ((body draft.scope).run builder draft.scope.owner [] begun).2.1 = .ok statements ∧
      builder.finish draft statements
          ((body draft.scope).run builder draft.scope.owner [] begun).2.2 =
        .ok id (builder.declare declaration body workspace).2.2 := by
  unfold declare declareWith at built ⊢
  cases started : builder.start declaration workspace with
  | error error after =>
      rw [started] at built
      cases built
  | ok draft begun =>
      rw [started] at built
      dsimp only at built ⊢
      rcases written : (body draft.scope).run builder draft.scope.owner [] begun with
        ⟨host, outcome, after⟩
      rw [written] at built
      cases outcome with
      | error error => cases built
      | ok statements =>
          refine ⟨draft, begun, statements, rfl, ?_, ?_⟩
          · rw [written]
          · rw [written]
            exact Build.attempt_eq_ok built

/-- The body of a declaration that was begun. -/
theorem bodyEnd_of_start {declaration : Declaration} (body : Scope → Script σ)
    {workspace begun : Workspace} {draft : Draft}
    (started : builder.start declaration workspace = .ok draft begun) :
    builder.bodyEnd declaration body workspace =
      some ((body draft.scope).run builder draft.scope.owner [] begun).2 := by
  unfold bodyEnd
  rw [started]

theorem written_of_start {declaration : Declaration} (body : Scope → Script σ)
    {workspace begun : Workspace} {draft : Draft}
    (started : builder.start declaration workspace = .ok draft begun) :
    builder.written declaration body workspace =
      ((body draft.scope).run builder draft.scope.owner [] begun).2.2 := by
  rw [written, bodyEnd_of_start body started]
  rfl

theorem written_of_start_error {declaration : Declaration} (body : Scope → Script σ)
    {workspace after : Workspace} {error : TreeError}
    (stopped : builder.start declaration workspace = .error error after) :
    builder.written declaration body workspace = workspace := by
  unfold written bodyEnd
  rw [stopped]
  rfl

/-- The declaration still waits for its body when the script ends. -/
theorem stands_written {declaration : Declaration} (body : Scope → Script σ)
    {workspace begun : Workspace} {draft : Draft}
    (started : builder.start declaration workspace = .ok draft begun) :
    let written := (builder.written declaration body workspace).tree
    draft.Stands declaration workspace.tree.size written ∧ workspace.tree.size ≤ written.size := by
  intro written
  obtain ⟨steps, stands⟩ := (builder.start_steps declaration le_rfl).run_ok started
  have edits := ((body draft.scope).performs builder draft.scope.owner [] begun).edits
    (Edits.size_le steps)
  rw [← written_of_start body started] at edits
  exact ⟨stands.edits edits, (Edits.size_le steps).trans (Edits.size_le edits)⟩

/-- A declaration whose body was accepted is finished. -/
theorem declare_of_bodyEnd {declaration : Declaration} {body : Scope → Script σ}
    {workspace begun written : Workspace} {draft : Draft} {statements : List NodeId}
    (started : builder.start declaration workspace = .ok draft begun)
    (ended : builder.bodyEnd declaration body workspace = some (.ok statements, written)) :
    (builder.declare declaration body workspace).2 =
      (builder.finish draft statements).attempt written := by
  rw [bodyEnd_of_start body started] at ended
  unfold declare declareWith
  rw [started]
  dsimp only
  rcases run : (body draft.scope).run builder draft.scope.owner [] begun with ⟨host, outcome, last⟩
  rw [run] at ended
  cases ended
  rfl

/-- It is built exactly if it can be finished. -/
theorem exists_declare_iff {declaration : Declaration} {body : Scope → Script σ}
    {workspace begun written : Workspace} {draft : Draft} {statements : List NodeId}
    (started : builder.start declaration workspace = .ok draft begun)
    (ended : builder.bodyEnd declaration body workspace = some (.ok statements, written)) :
    (∃ id, (builder.declare declaration body workspace).2.1 = .ok id) ↔
      ∃ id after, builder.finish draft statements written = .ok id after := by
  rw [declare_of_bodyEnd started ended]
  constructor
  · exact fun ⟨id, done⟩ => ⟨id, _, Build.attempt_eq_ok done⟩
  · exact fun ⟨id, after, done⟩ => ⟨id, congrArg Prod.fst (Build.attempt_ok done)⟩

/-- A declaration that is built was finished with the statements that its body ended with. -/
theorem finish_of_declare_ok {declaration : Declaration} {body : Scope → Script σ}
    {workspace : Workspace} (built : (builder.declare declaration body workspace).2.1 = .ok id) :
    let written := builder.written declaration body workspace
    ∃ draft begun statements, builder.start declaration workspace = .ok draft begun ∧
      builder.bodyEnd declaration body workspace = some (.ok statements, written) ∧
        builder.finish draft statements written =
          .ok id (builder.declare declaration body workspace).2.2 := by
  intro written
  obtain ⟨draft, begun, statements, started, ended, done⟩ := declare_eq_ok built
  rw [← written_of_start body started] at done
  refine ⟨draft, begun, statements, started, ?_, done⟩
  rw [bodyEnd_of_start body started]
  exact congrArg some (Prod.ext ended (written_of_start body started).symm)

/-- A declaration that is not built was not begun, or its body was given up, or it could not be
finished. -/
theorem declare_eq_error {declaration : Declaration} {body : Scope → Script σ}
    {workspace : Workspace} {error : TreeError}
    (failed : (builder.declare declaration body workspace).2.1 = .error error) :
    let written := builder.written declaration body workspace
    let after := (builder.declare declaration body workspace).2.2
    builder.start declaration workspace = .error error after ∨
      ∃ draft begun, builder.start declaration workspace = .ok draft begun ∧
        (after = written ∨
          ∃ statements, builder.finish draft statements written = .error error after) := by
  intro written after
  cases started : builder.start declaration workspace with
  | error other stopped =>
      unfold declare declareWith at failed
      unfold after declare declareWith
      rw [started] at failed ⊢
      cases failed
      exact .inl rfl
  | ok draft begun =>
      refine .inr ⟨draft, begun, rfl, ?_⟩
      unfold written
      rw [written_of_start body started]
      unfold declare declareWith at failed
      unfold after declare declareWith
      rw [started] at failed ⊢
      dsimp only at failed ⊢
      rcases ended : (body draft.scope).run builder draft.scope.owner [] begun with
        ⟨host, outcome, last⟩
      rw [ended] at failed
      cases outcome with
      | error other => exact .inl rfl
      | ok statements => exact .inr ⟨statements, Build.attempt_eq_error failed⟩

/-- **A declaration that is finished has one child more**, a body of the statements that it was
given. -/
theorem finish_body {draft : Draft} {declaration : Declaration} {statements : List NodeId}
    {old : Nat} (done : builder.finish draft statements before = .ok id after)
    (stands : draft.Stands declaration old before.tree) :
    ∃ body, after.tree.labelOf body = some ⟨.body, .special "<body>", .unit⟩ ∧
      after.tree.childrenOf draft.node = before.tree.childrenOf draft.node ++ [body] ∧
      after.tree.childrenOf body = statements := by
  obtain ⟨-, body, middle, made, attachable, rest⟩ := finish_eq_ok done
  obtain ⟨rfl, isBody, children, -⟩ := makeBody_made made
  have steps := builder.makeBody_steps statements (le_refl before.tree.size)
  have spared := Edits.spared (steps.run_ok made).1 le_rfl
  have inside := stands.takes.there
  have kept : middle.tree.childrenOf draft.node = before.tree.childrenOf draft.node :=
    spared.childrenOf_eq inside inside stands.takes.notProperty
  obtain ⟨there, _⟩ := (Tree.checkAttachable_eq_ok_iff _ _ _).mp attachable
  have apart : (⟨before.tree.size⟩ : NodeId) ≠ draft.node := by
    intro same
    rw [← same] at inside
    exact Nat.lt_irrefl _ inside
  have given : ∀ id, (middle.tree.link draft.node ⟨before.tree.size⟩).childrenOf id = _ :=
    Tree.childrenOf_link there
  refine ⟨⟨before.tree.size⟩, ?_⟩
  cases of : draft.property with
  | none =>
      rw [of] at rest
      rw [rest, Tree.labelOf_link, given, given, if_pos rfl, if_neg apart, kept]
      exact ⟨isBody, rfl, children⟩
  | some property =>
      rw [of] at rest
      obtain ⟨equippable, linked⟩ := rest
      obtain ⟨_, _, isProperty, _⟩ := stands.accessor_of of
      obtain ⟨propertyThere, _⟩ := (Tree.checkAttachable_eq_ok_iff _ _ _).mp equippable
      have nodeOther : draft.node ≠ property := by
        intro same
        rw [← same, stands.takes.notProperty] at isProperty
        cases isProperty
      have bodyOther : (⟨before.tree.size⟩ : NodeId) ≠ property := by
        rintro rfl
        exact Nat.lt_irrefl _ (Tree.lt_of_hasTag isProperty)
      rw [linked, Tree.labelOf_link, Tree.labelOf_link, Tree.childrenOf_link propertyThere,
        Tree.childrenOf_link propertyThere, if_neg nodeOther, if_neg bodyOther, given, given,
        if_pos rfl, if_neg apart, kept]
      exact ⟨isBody, rfl, children⟩

/-- What is done to finish a declaration takes nothing away. -/
theorem finish_grows {draft : Draft} {declaration : Declaration} {statements : List NodeId}
    {old : Nat} (done : builder.finish draft statements before = .ok id after)
    (stands : draft.Stands declaration old before.tree) : Grows before after := by
  obtain ⟨last, work, ends⟩ := builder.finish_ends draft statements stands.takes
    (stands.takes.new.trans stands.takes.there.le)
  rw [Build.attempt_ok done] at ends
  have ending : Edits builder.context.types (fun _ _ => True) old last after :=
    ends.edits (stands.edits work) fun _ _ _ _ => trivial
  exact (Edits.grows work).trans ending.grows

/-- **A declaration that is built** has the children that it was begun with and a body, which holds
what was accepted for it and nothing else. Since it was begun nothing was taken away. -/
theorem declare_body {declaration : Declaration} {body : Scope → Script σ} {workspace : Workspace}
    (forest : workspace.tree.IsForest)
    (built : (builder.declare declaration body workspace).2.1 = .ok id) :
    let after := (builder.declare declaration body workspace).2.2
    ∃ draft begun entries bodyNode, builder.start declaration workspace = .ok draft begun ∧
      builder.bodyOf declaration body workspace = some (draft.scope, entries) ∧
      id = draft.node ∧ Grows begun after ∧
      after.tree.childrenOf id = begun.tree.childrenOf id ++ [bodyNode] ∧
      after.tree.IsBody draft.scope.owner entries bodyNode := by
  intro after
  obtain ⟨draft, begun, statements, started, written, done⟩ := declare_eq_ok built
  obtain rfl := (finish_eq_ok done).1
  have performs := (body draft.scope).performs builder draft.scope.owner [] begun
  have stands := ((builder.start_steps declaration (Nat.zero_le _)).run_ok started).2
  have writtenStands := stands.edits (performs.edits le_rfl)
  have inside := stands.takes.there
  have kept := performs.spared.childrenOf_eq inside inside stands.takes.notProperty
  have finished := finish_grows done writtenStands
  have afterForest : after.tree.IsForest :=
    forest.grows (Edits.grows (builder.declare_edits declaration body workspace))
  obtain ⟨bodyNode, label, given, children⟩ := finish_body done writtenStands
  have accepted := (body draft.scope).statements_eq draft.scope.owner [] begun written
  rw [List.nil_append] at accepted
  have known : builder.bodyOf declaration body workspace = some (draft.scope,
      (body draft.scope).accepted builder draft.scope.owner [] begun) := by
    unfold bodyOf
    rw [started]
  refine ⟨draft, begun, _, bodyNode, started, known, rfl, performs.grows.trans finished, ?_, ?_⟩
  · rw [given, kept]
  · exact {
      label := label
      children := children.trans accepted
      attached := fun entry member => by
        rw [← afterForest.mem_childrenOf_iff, children, accepted]
        exact List.mem_map_of_mem member
      returned := fun ret member =>
        finished.kindOf ((body draft.scope).kindOf_returned draft.scope.owner [] begun member) }

end Builder

end DeclTree
