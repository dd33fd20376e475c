/-
**Work on a workspace, taken step by step.**

Each operation of `Build` has one equation that says what it answers and what workspace it leaves
(`create_apply`, `append_apply`, `annotate_apply`, `detach_apply`). `Build.Steps step work start
answer` is the judgement on some work that follows from such equations: in `start` the work takes
steps of the kind `step` and no others, whether it succeeds or fails, and what it answers satisfies
`answer`. Work in sequence is judged in sequence (`Steps.bind`), so that what a single step keeps
is kept by whatever is built from steps (`Steps.attempt`).
-/

import DeclTree.Build.Workspace
import Mathlib.Logic.Relation

namespace DeclTree.Build

variable {α β : Type}

/-! ### Equations -/

theorem bind_apply (work : Build α) (next : α → Build β) (workspace : Workspace) :
    (work >>= next) workspace = match work workspace with
      | .ok value after => next value after
      | .error error after => .error error after := by
  show EStateM.bind work next workspace = _
  unfold EStateM.bind
  cases work workspace <;> rfl

theorem bind_ok {work : Build α} {next : α → Build β} {before after : Workspace} {value : α}
    (done : work before = .ok value after) : (work >>= next) before = next value after := by
  rw [bind_apply, done]

theorem bind_error {work : Build α} {next : α → Build β} {before after : Workspace}
    {error : TreeError} (failed : work before = .error error after) :
    (work >>= next) before = .error error after := by
  rw [bind_apply, failed]

/-- Work in sequence that succeeds succeeds in both parts. -/
theorem bind_eq_ok {work : Build α} {next : α → Build β} {before after : Workspace} {answer : β}
    (done : (work >>= next) before = .ok answer after) :
    ∃ value middle, work before = .ok value middle ∧ next value middle = .ok answer after := by
  rw [bind_apply] at done
  cases first : work before with
  | ok value middle =>
      rw [first] at done
      exact ⟨value, middle, rfl, done⟩
  | error error middle =>
      rw [first] at done
      cases done

theorem attempt_ok {work : Build α} {before after : Workspace} {value : α}
    (done : work before = .ok value after) : work.attempt before = (.ok value, after) := by
  unfold attempt
  rw [done]

theorem attempt_error {work : Build α} {before after : Workspace} {error : TreeError}
    (failed : work before = .error error after) : work.attempt before = (.error error, after) := by
  unfold attempt
  rw [failed]

theorem attempt_eq_ok {work : Build α} {before : Workspace} {value : α}
    (done : (work.attempt before).1 = .ok value) :
    work before = .ok value (work.attempt before).2 := by
  cases run : work before with
  | ok other after =>
      rw [attempt_ok run] at done ⊢
      cases done
      rfl
  | error error after =>
      rw [attempt_error run] at done
      cases done

theorem ofExcept_apply (outcome : Except TreeError α) (workspace : Workspace) :
    ofExcept outcome workspace = match outcome with
      | .ok value => .ok value workspace
      | .error error => .error error workspace := by
  cases outcome <;> rfl

theorem ofExcept_ok {outcome : Except TreeError α} {value : α} (passed : outcome = .ok value)
    (workspace : Workspace) : ofExcept outcome workspace = .ok value workspace := by
  rw [ofExcept_apply, passed]

theorem ofExcept_error {outcome : Except TreeError α} {error : TreeError}
    (refused : outcome = .error error) (workspace : Workspace) :
    ofExcept outcome workspace = .error error workspace := by
  rw [ofExcept_apply, refused]

theorem tree_apply (workspace : Workspace) : tree workspace = .ok workspace.tree workspace := rfl

theorem create_apply (types : TypeUniverse) (kind : NodeKind) (name : Name) (ty : Ty)
    (workspace : Workspace) :
    create types kind name ty workspace = match types.resolve ty with
      | .ok _ => .ok ⟨workspace.tree.size⟩
          { workspace with
            tree := (workspace.tree.push { kind := kind, name := name, ty := ty }).2 }
      | .error error => .error error workspace := by
  unfold create
  rw [bind_apply, ofExcept_apply]
  cases types.resolve ty <;> rfl

theorem append_apply (parent child : NodeId) (workspace : Workspace) :
    append parent child workspace = match workspace.tree.checkAttachable parent child with
      | .ok _ => .ok () { workspace with tree := workspace.tree.link parent child }
      | .error error => .error error workspace := by
  unfold append
  rw [bind_ok (tree_apply workspace), bind_apply,
    ofExcept_apply]
  cases workspace.tree.checkAttachable parent child <;> rfl

theorem annotate_apply (id : NodeId) (tag : AnnotationTag) (arguments : List Literal)
    (workspace : Workspace) :
    annotate id tag arguments workspace = match workspace.tree.node id with
      | .ok _ => .ok () { workspace with tree := workspace.tree.putTag id tag arguments }
      | .error error => .error error workspace := by
  unfold annotate
  rw [bind_ok (tree_apply workspace), bind_apply,
    ofExcept_apply]
  cases workspace.tree.node id <;> rfl

theorem detach_apply (child : NodeId) (workspace : Workspace) :
    detach child workspace = match workspace.tree.detach child with
      | .ok tree => .ok () { workspace with tree := tree }
      | .error error => .error error workspace := by
  unfold detach
  rw [bind_ok (tree_apply workspace), bind_apply,
    ofExcept_apply]
  cases workspace.tree.detach child <;> rfl

theorem newSymbol_apply (signature : Signature) (workspace : Workspace) :
    newSymbol signature workspace = .ok (workspace.supply.fresh signature).1
      { workspace with supply := (workspace.supply.fresh signature).2 } := rfl

theorem note_apply (source : LogSource) (message : String) (workspace : Workspace) :
    note source message workspace =
      .ok () { workspace with log := workspace.log ++ [⟨.debug, source, message⟩] } := rfl

/-! ### Work that succeeds -/

theorem tree_bind_eq_ok {next : Tree → Build β} {before after : Workspace} {answer : β}
    (done : (tree >>= next) before = .ok answer after) :
    next before.tree before = .ok answer after :=
  (bind_ok (tree_apply before)).symm.trans done

theorem ofExcept_bind_eq_ok {outcome : Except TreeError α} {next : α → Build β}
    {before after : Workspace} {answer : β}
    (done : (ofExcept outcome >>= next) before = .ok answer after) :
    ∃ value, outcome = .ok value ∧ next value before = .ok answer after := by
  cases outcome with
  | ok value => exact ⟨value, rfl, (bind_ok (ofExcept_apply _ before)).symm.trans done⟩
  | error error => cases (bind_error (ofExcept_apply _ before)).symm.trans done

theorem create_eq_ok {types : TypeUniverse} {kind : NodeKind} {name : Name} {ty : Ty}
    {before after : Workspace} {id : NodeId}
    (done : create types kind name ty before = .ok id after) :
    id = ⟨before.tree.size⟩ ∧
      after.tree = (before.tree.push { kind := kind, name := name, ty := ty }).2 := by
  rw [create_apply] at done
  cases resolved : types.resolve ty with
  | ok _ =>
      rw [resolved] at done
      cases done
      exact ⟨rfl, rfl⟩
  | error _ =>
      rw [resolved] at done
      cases done

/-- A symbol was made as it was asked for, and a node that declares it. -/
theorem declare_bind_eq_ok {types : TypeUniverse} {signature : Signature}
    (kind : Symbol → NodeKind) {name : Name} {ty : Ty} {next : Symbol → NodeId → Build β}
    {before after : Workspace} {answer : β}
    (done : (newSymbol signature >>= fun symbol =>
      create types (kind symbol) name ty >>= next symbol) before = .ok answer after) :
    ∃ symbol made, symbol.toSignature = signature ∧
      made.tree = (before.tree.push { kind := kind symbol, name := name, ty := ty }).2 ∧
        next symbol ⟨before.tree.size⟩ made = .ok answer after := by
  have named := (bind_ok (newSymbol_apply signature before)).symm.trans done
  obtain ⟨id, made, created, rest⟩ := bind_eq_ok named
  obtain ⟨rfl, leaves⟩ := create_eq_ok created
  exact ⟨_, made, rfl, leaves, rest⟩

theorem append_eq_ok {parent child : NodeId} {before after : Workspace} {answer : Unit}
    (done : append parent child before = .ok answer after) :
    before.tree.checkAttachable parent child = .ok () ∧
      after.tree = before.tree.link parent child := by
  rw [append_apply] at done
  cases attachable : before.tree.checkAttachable parent child with
  | ok _ =>
      rw [attachable] at done
      cases done
      exact ⟨rfl, rfl⟩
  | error _ =>
      rw [attachable] at done
      cases done

theorem annotate_eq_ok {id : NodeId} {tag : AnnotationTag} {arguments : List Literal}
    {before after : Workspace} {answer : Unit}
    (done : annotate id tag arguments before = .ok answer after) :
    after.tree = before.tree.putTag id tag arguments := by
  rw [annotate_apply] at done
  cases there : before.tree.node id with
  | ok _ =>
      rw [there] at done
      cases done
      rfl
  | error _ =>
      rw [there] at done
      cases done

/-! ### Work that fails -/

theorem attempt_eq_error {work : Build α} {before : Workspace} {error : TreeError}
    (failed : (work.attempt before).1 = .error error) :
    work before = .error error (work.attempt before).2 := by
  cases run : work before with
  | ok value after =>
      rw [attempt_ok run] at failed
      cases failed
  | error other after =>
      rw [attempt_error run] at failed ⊢
      cases failed
      rfl

/-- Work in sequence that fails fails in its first part, or in its second one. -/
theorem bind_eq_error {work : Build α} {next : α → Build β} {before after : Workspace}
    {error : TreeError} (failed : (work >>= next) before = .error error after) :
    work before = .error error after ∨
      ∃ value middle, work before = .ok value middle ∧ next value middle = .error error after := by
  rw [bind_apply] at failed
  cases first : work before with
  | ok value middle =>
      rw [first] at failed
      exact .inr ⟨value, middle, rfl, failed⟩
  | error other middle =>
      rw [first] at failed
      cases failed
      exact .inl rfl

theorem tree_bind_eq_error {next : Tree → Build β} {before after : Workspace} {error : TreeError}
    (failed : (tree >>= next) before = .error error after) :
    next before.tree before = .error error after :=
  (bind_ok (tree_apply before)).symm.trans failed

/-- A check that fails has changed nothing. -/
theorem ofExcept_bind_eq_error {outcome : Except TreeError α} {next : α → Build β}
    {before after : Workspace} {error : TreeError}
    (failed : (ofExcept outcome >>= next) before = .error error after) :
    (outcome = .error error ∧ after = before) ∨
      ∃ value, outcome = .ok value ∧ next value before = .error error after := by
  cases outcome with
  | ok value => exact .inr ⟨value, rfl, (bind_ok (ofExcept_apply _ before)).symm.trans failed⟩
  | error other =>
      cases (bind_error (ofExcept_apply _ before)).symm.trans failed
      exact .inl ⟨rfl, rfl⟩

/-- A node that is not made, because its type is not known. -/
theorem create_eq_error {types : TypeUniverse} {kind : NodeKind} {name : Name} {ty : Ty}
    {before after : Workspace} {error : TreeError}
    (failed : create types kind name ty before = .error error after) :
    types.resolve ty = .error error ∧ after = before := by
  rw [create_apply] at failed
  cases resolved : types.resolve ty with
  | ok _ =>
      rw [resolved] at failed
      cases failed
  | error _ =>
      rw [resolved] at failed
      cases failed
      exact ⟨rfl, rfl⟩

theorem annotate_eq_error {id : NodeId} {tag : AnnotationTag} {arguments : List Literal}
    {before after : Workspace} {error : TreeError}
    (failed : annotate id tag arguments before = .error error after) : after = before := by
  rw [annotate_apply] at failed
  cases there : before.tree.node id with
  | ok _ =>
      rw [there] at failed
      cases failed
  | error _ =>
      rw [there] at failed
      cases failed
      rfl

/-! ### The judgement -/

/-- In `start`, the work takes steps of one kind, whether it succeeds or fails; what it answers
satisfies `answer` in the workspace that it leaves. -/
def Steps (step : Workspace → Workspace → Prop) (work : Build α) (start : Workspace)
    (answer : α → Workspace → Prop) : Prop :=
  match work start with
  | .ok value finish => Relation.ReflTransGen step start finish ∧ answer value finish
  | .error _ finish => Relation.ReflTransGen step start finish

variable {step : Workspace → Workspace → Prop} {start : Workspace}

theorem Steps.of_ok {work : Build α} {answer : α → Workspace → Prop} {finish : Workspace}
    {value : α} (run : work start = .ok value finish)
    (steps : Relation.ReflTransGen step start finish) (holds : answer value finish) :
    Steps step work start answer := by
  unfold Steps
  rw [run]
  exact ⟨steps, holds⟩

theorem Steps.of_error {work : Build α} {answer : α → Workspace → Prop} {finish : Workspace}
    {error : TreeError} (run : work start = .error error finish)
    (steps : Relation.ReflTransGen step start finish) : Steps step work start answer := by
  unfold Steps
  rw [run]
  exact steps

theorem Steps.run_ok {work : Build α} {answer : α → Workspace → Prop} {finish : Workspace}
    {value : α} (steps : Steps step work start answer) (run : work start = .ok value finish) :
    Relation.ReflTransGen step start finish ∧ answer value finish := by
  unfold Steps at steps
  rwa [run] at steps

theorem Steps.run_error {work : Build α} {answer : α → Workspace → Prop} {finish : Workspace}
    {error : TreeError} (steps : Steps step work start answer)
    (run : work start = .error error finish) : Relation.ReflTransGen step start finish := by
  unfold Steps at steps
  rwa [run] at steps

/-- The workspace that the work leaves is reached in steps. -/
theorem Steps.attempt {work : Build α} {answer : α → Workspace → Prop}
    (steps : Steps step work start answer) :
    Relation.ReflTransGen step start (work.attempt start).2 := by
  cases run : work start with
  | ok value finish =>
      rw [attempt_ok run]
      exact (steps.run_ok run).1
  | error error finish =>
      rw [attempt_error run]
      exact steps.run_error run

/-- **Work in sequence.** -/
theorem Steps.bind {work : Build α} {next : α → Build β} {middle : α → Workspace → Prop}
    {answer : β → Workspace → Prop} (first : Steps step work start middle)
    (rest : ∀ value after, Relation.ReflTransGen step start after → middle value after →
      Steps step (next value) after answer) :
    Steps step (work >>= next) start answer := by
  cases run : work start with
  | error error after => exact .of_error (bind_error run) (first.run_error run)
  | ok value after =>
      obtain ⟨steps, holds⟩ := first.run_ok run
      have later := rest value after steps holds
      cases done : next value after with
      | ok _ _ =>
          obtain ⟨more, answers⟩ := later.run_ok done
          exact .of_ok ((bind_ok run).trans done) (steps.trans more) answers
      | error _ _ => exact .of_error ((bind_ok run).trans done) (steps.trans (later.run_error done))

theorem Steps.mono {work : Build α} {wider : Workspace → Workspace → Prop}
    {answer weaker : α → Workspace → Prop} (steps : Steps step work start answer)
    (inside : ∀ before after, step before after → Relation.ReflTransGen wider before after)
    (implies : ∀ value after, answer value after → weaker value after) :
    Steps wider work start weaker := by
  have widen : ∀ {finish}, Relation.ReflTransGen step start finish →
      Relation.ReflTransGen wider start finish := by
    intro finish path
    induction path with
    | refl => exact .refl
    | tail _ last ih => exact ih.trans (inside _ _ last)
  cases run : work start with
  | ok value finish =>
      obtain ⟨path, answers⟩ := steps.run_ok run
      exact .of_ok run (widen path) (implies _ _ answers)
  | error error finish => exact .of_error run (widen (steps.run_error run))

theorem Steps.pure (value : α) {answer : α → Workspace → Prop} (holds : answer value start) :
    Steps step (Pure.pure value) start answer :=
  .of_ok (show (Pure.pure value : Build α) start = .ok value start from rfl) .refl holds

theorem Steps.throw (error : TreeError) {answer : α → Workspace → Prop} :
    Steps step (MonadExcept.throw error : Build α) start answer :=
  .of_error (show (MonadExcept.throw error : Build α) start = .error error start from rfl) .refl

/-- A check leaves everything as it is. -/
theorem Steps.ofExcept (outcome : Except TreeError α) :
    Steps step (ofExcept outcome) start fun value after => outcome = .ok value ∧ after = start := by
  cases outcome with
  | ok value => exact .of_ok (ofExcept_apply _ _) .refl ⟨rfl, rfl⟩
  | error error => exact .of_error (ofExcept_apply _ _) .refl

/-- So does looking at the tree. -/
theorem Steps.tree :
    Steps step tree start fun value after => value = start.tree ∧ after = start :=
  .of_ok (tree_apply start) .refl ⟨rfl, rfl⟩

/-! ### Single pieces of work -/

/-- A node is made in one step, or nothing is done. -/
theorem Steps.create {types : TypeUniverse} {kind : NodeKind} {name : Name} {ty : Ty}
    {answer : NodeId → Workspace → Prop}
    (made : types.resolve ty = .ok () → step start
      { start with tree := (start.tree.push { kind := kind, name := name, ty := ty }).2 })
    (holds : answer ⟨start.tree.size⟩
      { start with tree := (start.tree.push { kind := kind, name := name, ty := ty }).2 }) :
    Steps step (create types kind name ty) start answer := by
  have run := create_apply types kind name ty start
  cases resolved : types.resolve ty with
  | ok _ =>
      rw [resolved] at run
      exact .of_ok run (.single (made resolved)) holds
  | error _ =>
      rw [resolved] at run
      exact .of_error run .refl

/-- So is a node attached. -/
theorem Steps.append {parent child : NodeId} {answer : Unit → Workspace → Prop}
    (linked : start.tree.checkAttachable parent child = .ok () →
      step start { start with tree := start.tree.link parent child })
    (holds : answer () { start with tree := start.tree.link parent child }) :
    Steps step (append parent child) start answer := by
  have run := append_apply parent child start
  cases attachable : start.tree.checkAttachable parent child with
  | ok _ =>
      rw [attachable] at run
      exact .of_ok run (.single (linked attachable)) holds
  | error _ =>
      rw [attachable] at run
      exact .of_error run .refl

/-- So is an annotation put. -/
theorem Steps.annotate {id : NodeId} {tag : AnnotationTag} {arguments : List Literal}
    {answer : Unit → Workspace → Prop}
    (put : ∀ node, start.tree.node id = .ok node →
      step start { start with tree := start.tree.putTag id tag arguments })
    (holds : answer () { start with tree := start.tree.putTag id tag arguments }) :
    Steps step (annotate id tag arguments) start answer := by
  have run := annotate_apply id tag arguments start
  cases there : start.tree.node id with
  | ok node =>
      rw [there] at run
      exact .of_ok run (.single (put node there)) holds
  | error _ =>
      rw [there] at run
      exact .of_error run .refl

/-- A symbol is made in one step. -/
theorem Steps.newSymbol {signature : Signature} {answer : Symbol → Workspace → Prop}
    (made : step start { start with supply := (start.supply.fresh signature).2 })
    (holds : answer (start.supply.fresh signature).1
      { start with supply := (start.supply.fresh signature).2 }) :
    Steps step (newSymbol signature) start answer :=
  .of_ok (newSymbol_apply signature start) (.single made) holds

/-- A record is written in one step. -/
theorem Steps.note {source : LogSource} {message : String} {answer : Unit → Workspace → Prop}
    (noted : step start { start with log := start.log ++ [⟨.debug, source, message⟩] })
    (holds : answer () { start with log := start.log ++ [⟨.debug, source, message⟩] }) :
    Steps step (note source message) start answer :=
  .of_ok (note_apply source message start) (.single noted) holds

end DeclTree.Build
