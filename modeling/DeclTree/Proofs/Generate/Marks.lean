/-
**What the generator annotates.**

A run builds its two declarations, annotates them and completes its work (`run_eq`). The bodies that
it writes annotate nothing, so that its marks are those on the two declarations.

* `generate_records`: a run records its marks, and nothing else, however it ends;
* `generateMarks_eq`: **a run that succeeds marks the two nodes that it attaches, and a run that
  fails marks none.**
-/

import DeclTree.Proofs.Build.Marks
import DeclTree.Proofs.Generate.Outcome

namespace DeclTree

open Build Builder

variable {context : Context} {start : Workspace}

namespace Template

/-! ### A run in three parts -/

/-- What a run does at first: it builds both declarations. -/
def build (context : Context) : Build (List NodeId) := do
  Build.ofExcept (← Build.tree).checkNotGenerated
  let println ← context.lookUp println Symbol.takesAnything
  let builder : Builder := { context := context }
  let main ← buildMain builder
  let test ← buildTest builder println
  return [main, test]

/-- What a run does in the end: it verifies and attaches the declarations. -/
def complete (context : Context) (declarations : List NodeId) : Build Unit := do
  let tree ← Build.tree
  Build.ofExcept (declarations.forM (tree.verify context.types))
  declarations.forM attach

/-- In between it annotates them. -/
theorem run_eq (context : Context) :
    run context = (do
      let declarations ← build context
      declarations.forM fun id => Builder.annotate id .generated []
      complete context declarations) := by
  unfold run build buildAll complete
  simp only [bind_assoc, pure_bind]

/-- The marks that a run leaves. -/
def marks (context : Context) (workspace : Workspace) : List Mark :=
  match build context workspace with
  | .ok declarations after => marksOn .generated [] declarations after
  | .error _ _ => []

/-! ### The bodies -/

section Bodies

variable (builder : Builder) (owner : Symbol)

theorem marks_buildThen {operation : Operation} {next : NodeId → Script Unit}
    (plain : ∀ outcome, operation.marks outcome = [])
    (rest : ∀ id statements after, (next id).marks builder owner statements after = [])
    (statements : List NodeId) (workspace : Workspace) :
    (Script.buildThen operation next).marks builder owner statements workspace = [] := by
  unfold Script.buildThen Script.marks
  rcases (builder.perform operation).attempt workspace with ⟨outcome, after⟩
  dsimp only
  rw [plain, List.nil_append]
  cases outcome with
  | ok id => exact rest id statements after
  | error error => rfl

theorem marks_returnLast (value : NodeId) (statements : List NodeId) (workspace : Workspace) :
    (Script.returnLast value).marks builder owner statements workspace = [] := by
  unfold Script.returnLast Script.marks
  cases builder.ret owner value workspace <;> rfl

theorem marks_pushLast (statement : NodeId) (statements : List NodeId) (workspace : Workspace) :
    (Script.pushLast statement).marks builder owner statements workspace = [] := by
  unfold Script.pushLast Script.marks
  cases Builder.addStatement workspace.tree statements statement <;> rfl

theorem marks_getterBody (statements : List NodeId) (workspace : Workspace) :
    getterBody.marks builder owner statements workspace = [] :=
  marks_buildThen builder owner (fun _ => rfl) (marks_returnLast builder owner) statements workspace

theorem marks_setterBody (printer : Symbol) (scope : Scope) (statements : List NodeId)
    (workspace : Workspace) :
    (setterBody printer scope).marks builder owner statements workspace = [] := by
  unfold setterBody
  split
  · refine marks_buildThen builder owner (fun _ => rfl) (fun argument => ?_) statements workspace
    exact marks_buildThen builder owner (fun _ => rfl) (marks_pushLast builder owner)
  · rfl

end Bodies

/-! ### What is recorded -/

theorem buildTest_silent (builder : Builder) (printer : Symbol) :
    Steps Silent (buildTest builder printer) start anything := by
  refine (builder.property_silent _).bind fun _ _ _ _ => ?_
  refine (builder.build_silent _ _ fun scope => marks_getterBody builder scope.owner []).bind
    fun _ _ _ _ => ?_
  refine (builder.build_silent _ _ fun scope => marks_setterBody builder scope.owner printer scope
    []).bind fun _ _ _ _ => ?_
  exact .pure _ trivial

theorem build_silent (context : Context) : Steps Silent (build context) start anything := by
  refine Steps.tree.bind fun _ _ _ _ => (Steps.ofExcept _).bind fun _ _ _ _ => ?_
  have found : ∀ start, Steps Silent (context.lookUp println Symbol.takesAnything) start anything :=
    fun start => (Steps.ofExcept _).bind fun _ _ _ _ =>
      (note_silent _ _).bind fun _ _ _ _ => .pure _ trivial
  refine (found _).bind fun _ _ _ _ => ?_
  refine (Builder.build_silent _ _ _ fun _ _ => rfl).bind fun _ _ _ _ => ?_
  exact (buildTest_silent _ _).bind fun _ _ _ _ => .pure _ trivial

theorem attach_silent (declaration : NodeId) :
    Steps Silent (attach declaration) start anything := by
  refine (append_silent _ _).bind fun _ _ _ _ => Steps.tree.bind fun _ _ _ _ => ?_
  exact (Steps.ofExcept _).bind fun _ _ _ _ => note_silent _ _

theorem attachAll_silent (declarations : List NodeId) :
    Steps Silent (declarations.forM attach) start anything := by
  induction declarations generalizing start with
  | nil => exact .pure _ trivial
  | cons declaration rest ih => exact (attach_silent declaration).bind fun _ _ _ _ => ih

theorem complete_silent (context : Context) (declarations : List NodeId) :
    Steps Silent (complete context declarations) start anything := by
  refine Steps.tree.bind fun _ _ _ _ => (Steps.ofExcept _).bind fun _ _ _ _ => ?_
  exact attachAll_silent declarations

/-- **The work of a run records its marks, and nothing else.** -/
theorem run_records (context : Context) (start : Workspace) :
    start.tree.Records (marks context start) ((run context).attempt start).2.tree := by
  have building : Steps Silent (build context) start anything := build_silent context
  unfold marks
  cases built : build context start with
  | error error after =>
      have failed : run context start = .error error after := by
        rw [run_eq]
        exact bind_error built
      rw [attempt_error failed]
      exact .of_steps (building.run_error built)
  | ok declarations after =>
      have annotating := (Tree.Records.of_steps (building.run_ok built).1).append
        (annotateAll_records .generated [] declarations after)
      dsimp only
      cases annotated : (declarations.forM fun id => Builder.annotate id .generated []) after with
      | error error last =>
          have failed : run context start = .error error last := by
            rw [run_eq]
            exact (bind_ok built).trans (bind_error annotated)
          rw [attempt_error annotated] at annotating
          rw [attempt_error failed]
          exact annotating
      | ok _ last =>
          have completing : Steps Silent (complete context declarations) last anything :=
            complete_silent context declarations
          have left : run context start = complete context declarations last := by
            rw [run_eq]
            exact (bind_ok built).trans (bind_ok annotated)
          rw [attempt_ok annotated] at annotating
          have whole := annotating.append (Tree.Records.of_steps completing.attempt)
          rw [List.append_nil] at whole
          rwa [attempt, left]

/-! ### Which marks these are -/

variable {tree : Tree} {supply : SymbolSupply} {log : Log}

/-- A run that is not stopped by an earlier one comes to the look-up. -/
theorem build_fresh {root : Node} (found : tree.node? .root = some root)
    (fresh : ¬ tree.IsGenerated) :
    build context ⟨tree, supply, log⟩ =
      (do
        let println ← context.lookUp println Symbol.takesAnything
        let main ← buildMain (plainBuilder context)
        let test ← buildTest (plainBuilder context) println
        return [main, test]) ⟨tree, supply, log⟩ := by
  have passed := Tree.checkNotGenerated_ok found fresh
  exact (bind_ok (tree_apply _)).trans (bind_ok (ofExcept_ok passed _))

/-- **A run that succeeds marks `main` and `test`, and a run that fails marks nothing.** -/
theorem marks_eq (forest : tree.IsForest) (context : Context) (supply : SymbolSupply) (log : Log) :
    marks context ⟨tree, supply, log⟩ =
      match ((run context).attempt ⟨tree, supply, log⟩).1 with
      | .ok _ => [⟨⟨tree.size⟩, .generated, []⟩, ⟨⟨tree.size + 2⟩, .generated, []⟩]
      | .error _ => [] := by
  obtain ⟨root, found⟩ := Tree.node?_eq_some_of_lt forest.root_there
  have unmarked : ∀ {error : TreeError} {after : Workspace},
      build context ⟨tree, supply, log⟩ = .error error after →
        marks context ⟨tree, supply, log⟩ = [] := fun failed => by
    unfold marks
    rw [failed]
  have lookedUp := Context.lookUp_eq context ⟨tree, supply, log⟩
  have ends := (run_ends forest context supply log).1
  generalize ran : ((run context).attempt ⟨tree, supply, log⟩).1 = outcome at ends ⊢
  generalize ((run context).attempt ⟨tree, supply, log⟩).2.tree = after at ends
  cases ends with
  | generated root found again =>
      have stopped : build context ⟨tree, supply, log⟩ =
          .error (.violation (.alreadyGenerated root.name)) ⟨tree, supply, log⟩ := by
        refine (bind_ok (tree_apply _)).trans (bind_error ?_)
        exact ofExcept_error (Tree.checkNotGenerated_error found again) _
      exact unmarked stopped
  | noPrinter fresh none =>
      rw [none] at lookedUp
      exact unmarked ((build_fresh found fresh).trans (bind_error lookedUp))
  | manyPrinters fresh many =>
      rcases printers : context.printers with _ | ⟨printer, _ | ⟨second, rest⟩⟩
      · simp [printers] at many
      · simp [printers] at many
      · rw [printers] at lookedUp
        exact unmarked ((build_fresh found fresh).trans (bind_error lookedUp))
  | unknownType fresh printer one unknown =>
      have fits := Context.takesAnything_of_printers one
      rw [one] at lookedUp
      exact unmarked ((build_fresh found fresh).trans ((bind_ok lookedUp).trans
        ((bind_ok (buildMain_eq forest.root_there)).trans
          (bind_error (buildTest_error forest.root_there fits unknown)))))
  | done fresh printer one known =>
      have fits := Context.takesAnything_of_printers one
      have resolved := (context.types.resolve_eq_ok_iff printer.result).mpr known
      have whole := attempt_eq_ok ran
      rw [run_eq] at whole
      obtain ⟨declarations, middle, built, rest⟩ := bind_eq_ok whole
      obtain ⟨_, last, annotated, _⟩ := bind_eq_ok rest
      have marked := marksOn_of_ok annotated
      rw [one] at lookedUp
      have both := (build_fresh found fresh).trans ((bind_ok lookedUp).trans
        ((bind_ok (buildMain_eq forest.root_there)).trans
          (bind_ok (buildTest_eq forest.root_there fits resolved))))
      cases built.symm.trans both
      unfold marks
      rw [built]
      exact marked

end Template

/-! ### A run with its reports -/

/-- The marks that a run of the generator leaves. -/
def generateMarks (config : Config) (context : Context) (collector : Collector)
    (workspace : Workspace) : List Mark :=
  let (_, log) := collector.report (config.openingMessages workspace.tree) workspace.log
  Template.marks context { workspace with log := log }

/-- **A run of the generator records its marks, and nothing else.** -/
theorem generate_records (config : Config) (context : Context) (collector : Collector)
    (workspace : Workspace) :
    workspace.tree.Records (generateMarks config context collector workspace)
      (generate config context collector workspace).2.2.tree := by
  rw [generate_eq]
  exact Template.run_records context _

/-- **A run that succeeds marks the two nodes that it attaches**, and one that fails marks none. -/
theorem generateMarks_eq (config : Config) (context : Context) (collector : Collector)
    {workspace : Workspace} (forest : workspace.tree.IsForest) :
    generateMarks config context collector workspace =
      match (generate config context collector workspace).1 with
      | .ok _ => [⟨⟨workspace.tree.size⟩, .generated, []⟩,
          ⟨⟨workspace.tree.size + 2⟩, .generated, []⟩]
      | .error _ => [] := by
  rw [generate_eq]
  exact Template.marks_eq forest context workspace.supply _

end DeclTree
