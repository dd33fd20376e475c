/-
**What was done in a run of a builder.**

A script decides what comes next by how everything went before, so what a builder did in a run is
not written in the script. `Script.deeds` and `Builder.deeds` list it: one `Deed` for every
operation, statement and declaration, nested ones included, in the order in which they ended, each
with its outcome and the tree that it left.

`Performs` has the same as rules, from which facts about runs are derived by induction; a run goes
by these rules (`Script.performs`, `Builder.performs`).
-/

import DeclTree.Build.Script
import DeclTree.Proofs.Build.Steps

namespace DeclTree

/-- The property that a declaration is an accessor of, and the kind of the accessor. -/
def Declaration.accessor? : Declaration → Option (NodeId × NodeTag)
  | .function _ => none
  | .getter property => some (property, .getter)
  | .setter property => some (property, .setter)

/-- Something that was done in a run. -/
structure Deed where
  /-- The declaration that was to be built, if it was one. -/
  declaration : Option Declaration
  /-- The declarations that were built in its body, and in the bodies there. -/
  inside : List Declaration
  outcome : Except TreeError Unit
  /-- The tree that it left. -/
  tree : Tree

namespace Deed

/-- An operation or a statement, with its outcome. -/
def simple {α : Type} (outcome : Except TreeError α) (tree : Tree) : Deed :=
  ⟨none, [], outcome.map fun _ => (), tree⟩

/-- The declaration, if there is one and it was built. -/
def built (deed : Deed) : Option Declaration :=
  match deed.outcome with
  | .ok _ => deed.declaration
  | .error _ => none

/-- The declarations that were built. -/
def allBuilt (deeds : List Deed) : List Declaration := deeds.filterMap built

/-- A declaration that was to be built, after what was done in its body. -/
def declaring {α : Type} (declaration : Declaration) (within : List Deed)
    (outcome : Except TreeError α) (tree : Tree) : Deed :=
  ⟨some declaration, allBuilt within, outcome.map fun _ => (), tree⟩

@[simp] theorem allBuilt_append (deeds later : List Deed) :
    allBuilt (deeds ++ later) = allBuilt deeds ++ allBuilt later :=
  List.filterMap_append

@[simp] theorem built_simple {α : Type} (outcome : Except TreeError α) (tree : Tree) :
    (simple outcome tree).built = none := by
  cases outcome <;> rfl

theorem built_declaring {α : Type} {declaration other : Declaration} {within : List Deed}
    {outcome : Except TreeError α} {tree : Tree} :
    (declaring declaration within outcome tree).built = some other ↔
      other = declaration ∧ ∃ value, outcome = .ok value := by
  cases outcome <;> simp [declaring, built, Except.map, eq_comm]

@[simp] theorem allBuilt_declaring_ok {α : Type} (declaration : Declaration) (within : List Deed)
    (value : α) (tree : Tree) :
    allBuilt [declaring declaration within (.ok value) tree] = [declaration] := rfl

@[simp] theorem allBuilt_declaring_error {α : Type} (declaration : Declaration)
    (within : List Deed) (error : TreeError) (tree : Tree) :
    allBuilt [declaring declaration within (.error error : Except TreeError α) tree] = [] := rfl

end Deed

variable {σ : Type}

/-! ### The list -/

/-- What is done when a declaration is built whose body is written by `writeBody`, with what is done
in the body. -/
def Builder.deedsWith (builder : Builder) (declaration : Declaration)
    (writeBody : Scope → Workspace → σ × Except TreeError (List NodeId) × Workspace)
    (bodyDeeds : Scope → Workspace → List Deed) (workspace : Workspace) : List Deed :=
  let within := match builder.start declaration workspace with
    | .error _ _ => []
    | .ok draft begun => bodyDeeds draft.scope begun
  let (_, outcome, after) := builder.declareWith declaration writeBody workspace
  within ++ [.declaring declaration within outcome after.tree]

/-- What is done by a script in a body that has some statements already. -/
def Script.deeds (builder : Builder) (owner : Symbol) :
    Script σ → List NodeId → Workspace → List Deed
  | .done _ _, _, _ => []
  | .build operation next, statements, workspace =>
      let (outcome, after) := (builder.perform operation).attempt workspace
      .simple outcome after.tree :: deeds builder owner (next outcome) statements after
  | .push statement next, statements, workspace =>
      let added := Builder.addStatement workspace.tree statements statement
      .simple added workspace.tree ::
        match added with
        | .ok statements => deeds builder owner (next (.ok ())) statements workspace
        | .error error => deeds builder owner (next (.error error)) statements workspace
  | .pushReturn value next, statements, workspace =>
      match builder.ret owner value workspace with
      | .ok id after =>
          .simple (.ok id) after.tree ::
            deeds builder owner (next (.ok id)) (statements ++ [id]) after
      | .error error after =>
          .simple (.error error : Except TreeError NodeId) after.tree ::
            deeds builder owner (next (.error error)) statements after
  | .newSymbol signature next, statements, workspace =>
      let (symbol, supply) := workspace.supply.fresh signature
      deeds builder owner (next symbol) statements { workspace with supply := supply }
  | .look next, statements, workspace =>
      deeds builder owner (next workspace.tree) statements workspace
  | .declare declaration body next, statements, workspace =>
      let writeBody := fun scope => run builder scope.owner (body scope) []
      let (host, outcome, after) := builder.declareWith declaration writeBody workspace
      builder.deedsWith declaration writeBody
          (fun scope => deeds builder scope.owner (body scope) []) workspace ++
        deeds builder owner (next host outcome) statements after

/-- What is done when a declaration is built whose body is written by a script. -/
def Builder.deeds (builder : Builder) (declaration : Declaration) (body : Scope → Script σ)
    (workspace : Workspace) : List Deed :=
  builder.deedsWith declaration (fun scope => Script.run builder scope.owner (body scope) [])
    (fun scope => Script.deeds builder scope.owner (body scope) []) workspace

/-! ### The rules -/

/-- A builder does some things one after the other, and comes from one workspace to another. -/
inductive Performs (builder : Builder) : List Deed → Workspace → Workspace → Prop
  | nothing (workspace : Workspace) : Performs builder [] workspace workspace
  | append {first later : List Deed} {before middle after : Workspace}
      (one : Performs builder first before middle) (two : Performs builder later middle after) :
      Performs builder (first ++ later) before after
  | symbol (signature : Signature) (workspace : Workspace) :
      Performs builder [] workspace
        { workspace with supply := (workspace.supply.fresh signature).2 }
  | operation (operation : Operation) (workspace : Workspace) :
      Performs builder
        [.simple ((builder.perform operation).attempt workspace).1
          ((builder.perform operation).attempt workspace).2.tree]
        workspace ((builder.perform operation).attempt workspace).2
  | statement (outcome : Except TreeError (List NodeId)) (workspace : Workspace) :
      Performs builder [.simple outcome workspace.tree] workspace workspace
  /-- A declaration is not even begun. -/
  | refused {declaration : Declaration} {before after : Workspace} {error : TreeError}
      (stopped : builder.start declaration before = .error error after) :
      Performs builder
        [.declaring declaration [] (.error error : Except TreeError NodeId) after.tree] before after
  /-- The body of a declaration is given up. -/
  | abandoned {declaration : Declaration} {draft : Draft} {within : List Deed}
      {before begun after : Workspace} (error : TreeError)
      (started : builder.start declaration before = .ok draft begun)
      (body : Performs builder within begun after) :
      Performs builder
        (within ++
          [.declaring declaration within (.error error : Except TreeError NodeId) after.tree])
        before after
  /-- A declaration is given its body, which need not succeed. -/
  | finished {declaration : Declaration} {draft : Draft} {within : List Deed}
      {before begun written : Workspace} (statements : List NodeId)
      (started : builder.start declaration before = .ok draft begun)
      (body : Performs builder within begun written) :
      Performs builder
        (within ++ [.declaring declaration within
          ((builder.finish draft statements).attempt written).1
          ((builder.finish draft statements).attempt written).2.tree])
        before ((builder.finish draft statements).attempt written).2

variable (builder : Builder)

/-- A declaration goes by the rules if the writing of its body does. -/
theorem Builder.performs_deedsWith (declaration : Declaration)
    (writeBody : Scope → Workspace → σ × Except TreeError (List NodeId) × Workspace)
    (bodyDeeds : Scope → Workspace → List Deed) (workspace : Workspace)
    (body : ∀ scope begun, Performs builder (bodyDeeds scope begun) begun
      (writeBody scope begun).2.2) :
    Performs builder (builder.deedsWith declaration writeBody bodyDeeds workspace) workspace
      (builder.declareWith declaration writeBody workspace).2.2 := by
  unfold deedsWith declareWith
  cases started : builder.start declaration workspace with
  | error error after => exact .refused started
  | ok draft begun =>
      have within := body draft.scope begun
      dsimp only
      rcases written : writeBody draft.scope begun with ⟨host, outcome, after⟩
      rw [written] at within
      cases outcome with
      | error error => exact .abandoned error started within
      | ok statements => exact .finished statements started within

/-- **A script goes by the rules.** -/
theorem Script.performs (script : Script σ) : ∀ (owner : Symbol) (statements : List NodeId)
    (workspace : Workspace), Performs builder (script.deeds builder owner statements workspace)
      workspace (script.run builder owner statements workspace).2.2 := by
  induction script with
  | done host verdict => exact fun _ _ workspace => .nothing workspace
  | build operation next ih =>
      exact fun owner statements workspace =>
        .append (.operation operation workspace) (ih _ owner statements _)
  | push statement next ih =>
      intro owner statements workspace
      unfold run deeds
      have stated : Performs builder _ workspace workspace :=
        .statement (Builder.addStatement workspace.tree statements statement) workspace
      cases added : Builder.addStatement workspace.tree statements statement with
      | ok longer =>
          rw [added] at stated
          exact stated.append (ih _ owner longer workspace)
      | error error =>
          rw [added] at stated
          exact stated.append (ih _ owner statements workspace)
  | pushReturn value next ih =>
      intro owner statements workspace
      have returned : Performs builder _ workspace _ := .operation (.ret owner value) workspace
      unfold run deeds
      cases done : builder.ret owner value workspace with
      | ok id after =>
          rw [show builder.perform (.ret owner value) = builder.ret owner value from rfl,
            Build.attempt_ok done] at returned
          exact returned.append (ih _ owner _ after)
      | error error after =>
          rw [show builder.perform (.ret owner value) = builder.ret owner value from rfl,
            Build.attempt_error done] at returned
          exact returned.append (ih _ owner _ after)
  | newSymbol signature next ih =>
      exact fun owner statements workspace =>
        .append (.symbol signature workspace) (ih _ owner statements _)
  | look next ih => exact fun owner statements workspace => ih _ owner statements workspace
  | declare declaration body next ihBody ihNext =>
      intro owner statements workspace
      refine .append ?_ (ihNext _ _ owner statements _)
      exact builder.performs_deedsWith declaration _ _ workspace fun scope begun =>
        ihBody scope scope.owner [] begun

/-- **So does a declaration whose body is written by a script.** -/
theorem Builder.performs (declaration : Declaration) (body : Scope → Script σ)
    (workspace : Workspace) :
    Performs builder (builder.deeds declaration body workspace) workspace
      (builder.declare declaration body workspace).2.2 :=
  builder.performs_deedsWith declaration _ _ workspace fun scope begun =>
    (body scope).performs builder scope.owner [] begun

end DeclTree
