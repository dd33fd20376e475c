/-
**Runs of a host.**

A host works on a module in acts (`Act`): it makes, attaches, detaches and annotates nodes, makes
symbols, has a builder do an operation or build a declaration whose body is written by any script,
and runs the generator. An act may fail at any point, and what it did before stays done;
`Workspace.after` is the workspace after a list of acts, whichever of them failed.

* `generate_advances`: a run of the generator is a sequence of single steps of builders and of
  attachments (`Advance`);
* `Act.growth`: every act but a detachment is a sequence of the five steps of `Growth`, none of
  which takes anything away;
* `Workspace.after_induction`: what these steps and detachments keep holds after every run;
* `isForest_after`: the tree of a module is a forest after every run;
* `Workspace.Reachable`: the workspaces that a host can come to, also in the midst of an act.
-/

import DeclTree.Generate.Template
import DeclTree.Proofs.Build.ScriptEdits

namespace DeclTree

/-- Anything is attached to a property. -/
abbrev equipsAnything : NodeId → NodeTag → Prop := fun _ _ => True

/-- A single step of work that leaves the making of nodes to builders that know some types: a step
of such a builder, or the attachment of a node. -/
inductive Advance (types : TypeUniverse) (before : Workspace) : Workspace → Prop
  | edit {after : Workspace} (edit : Edit types equipsAnything 0 before after) :
      Advance types before after
  | attach (parent child : NodeId)
      (attachable : before.tree.checkAttachable parent child = .ok ()) :
      Advance types before { before with tree := before.tree.link parent child }

/-- Steps of such work, one after the other. -/
abbrev Advances (types : TypeUniverse) : Workspace → Workspace → Prop :=
  Relation.ReflTransGen (Advance types)

variable {types : TypeUniverse} {workspace start : Workspace}

theorem Edits.advances {asks : NodeId → NodeTag → Prop} {old : Nat} {before after : Workspace}
    (edits : Edits types asks old before after) : Advances types before after :=
  Relation.ReflTransGen.mono
    (fun _ _ edit => .edit (edit.widen (Nat.zero_le old) fun _ _ _ => trivial)) _ _ edits

/-- Such work takes nothing away. -/
theorem Advances.grows {before after : Workspace} (advances : Advances types before after) :
    Grows before after := by
  induction advances with
  | refl => exact .refl
  | tail _ advance ih =>
      cases advance with
      | edit edit => exact ih.trans edit.grows
      | attach parent child attachable => exact ih.tail (.attach parent child attachable)

namespace Build

theorem create_grows (types : TypeUniverse) (kind : NodeKind) (name : Name) (ty : Ty) :
    Steps Growth (create types kind name ty) start Builder.anything :=
  .create (.make types kind name ty) trivial

theorem append_advances (parent child : NodeId) :
    Steps (Advance types) (append parent child) start Builder.anything :=
  .append (.attach parent child) trivial

theorem annotate_grows (id : NodeId) (tag : AnnotationTag) (arguments : List Literal) :
    Steps Growth (annotate id tag arguments) start Builder.anything :=
  .annotate (.annotate id tag arguments) trivial

end Build

/-! ### The generator -/

namespace Template

open Build Builder

/-- Work of a builder, of which no answer is asked. -/
theorem advance_of_edits {α : Type} {work : Build α} {answer : α → Workspace → Prop}
    (steps : Steps (Edit types equipsNothing 0) work start answer) :
    Steps (Advance types) work start anything :=
  steps.mono (fun _ _ edit => .single (.edit (edit.widen le_rfl fun _ _ => False.elim)))
    fun _ _ _ => trivial

theorem build_advances (builder : Builder) (declaration : Declaration)
    (body : Scope → Script Unit) :
    Steps (Advance builder.context.types) (builder.build declaration body) start anything := by
  have advances := Edits.advances (builder.declare_edits declaration body start)
  unfold Steps Builder.build
  rcases done : builder.declare declaration body start with ⟨host, outcome, after⟩
  rw [done] at advances
  cases outcome with
  | ok id => exact ⟨advances, trivial⟩
  | error error => exact advances

theorem forM_advances {α : Type} (work : α → Build Unit)
    (each : ∀ value start, Steps (Advance types) (work value) start anything) (values : List α) :
    Steps (Advance types) (values.forM work) start anything := by
  induction values generalizing start with
  | nil => exact .pure _ trivial
  | cons value rest ih => exact (each value start).bind fun _ _ _ _ => ih

theorem buildTest_advances (builder : Builder) (println : Symbol) :
    Steps (Advance builder.context.types) (buildTest builder println) start anything := by
  unfold buildTest
  refine (advance_of_edits (builder.property_steps _)).bind fun _ _ _ _ => ?_
  refine (build_advances builder _ _).bind fun _ _ _ _ => ?_
  exact (build_advances builder _ _).bind fun _ _ _ _ => .pure _ trivial

theorem buildAll_advances (context : Context) (println : Symbol) :
    Steps (Advance context.types) (buildAll context println) start anything := by
  unfold buildAll
  refine (build_advances ⟨context, .root⟩ _ _).bind fun _ _ _ _ => ?_
  refine (buildTest_advances ⟨context, .root⟩ println).bind fun _ _ _ _ => ?_
  refine (forM_advances _ (fun id start => ?_) _).bind fun _ _ _ _ => .pure _ trivial
  exact advance_of_edits (annotate_steps id _ _)

theorem attach_advances (declaration : NodeId) :
    Steps (Advance types) (attach declaration) start anything := by
  unfold attach
  refine (append_advances .root declaration).bind fun _ _ _ _ => Steps.tree.bind fun _ _ _ _ => ?_
  refine (Steps.ofExcept _).bind fun _ _ _ _ => ?_
  exact .note (.edit (.log _)) trivial

theorem run_advances (context : Context) :
    Steps (Advance context.types) (run context) start anything := by
  unfold run
  refine Steps.tree.bind fun _ _ _ _ => (Steps.ofExcept _).bind fun _ _ _ _ => ?_
  have found : ∀ start, Steps (Advance context.types)
      (context.lookUp println Symbol.takesAnything) start anything := fun start => by
    unfold Context.lookUp
    refine (Steps.ofExcept _).bind fun _ _ _ _ => ?_
    exact (advance_of_edits (note_steps _ _)).bind fun _ _ _ _ => .pure _ trivial
  refine (found _).bind fun _ _ _ _ => (buildAll_advances context _).bind fun _ _ _ _ => ?_
  refine Steps.tree.bind fun _ _ _ _ => (Steps.ofExcept _).bind fun _ _ _ _ => ?_
  exact forM_advances _ (fun declaration _ => attach_advances declaration) _

end Template

/-- **A run of the generator builds and attaches, and nothing else**, wherever it ends. -/
theorem generate_advances (config : Config) (context : Context) (collector : Collector)
    (workspace : Workspace) :
    Advances context.types workspace (generate config context collector workspace).2.2 := by
  unfold generate
  rcases collector.report (config.openingMessages workspace.tree) workspace.log with
    ⟨collector, log⟩
  have opened : Advances context.types workspace { workspace with log := log } :=
    .single (.edit (.log log))
  have steps : Build.Steps (Advance context.types) (Template.run context)
      { workspace with log := log } Builder.anything := Template.run_advances context
  dsimp only
  cases run : Template.run context { workspace with log := log } with
  | error error after => exact opened.trans (steps.run_error run)
  | ok _ after => exact (opened.trans (steps.run_ok run).1).tail (.edit (.log _))

/-- It takes nothing away. -/
theorem generate_grows (config : Config) (context : Context) (collector : Collector)
    (workspace : Workspace) :
    Grows workspace (generate config context collector workspace).2.2 :=
  (generate_advances config context collector workspace).grows

/-! ### Acts -/

/-- What a host does in one go. -/
inductive Act : Type 1 where
  | create (types : TypeUniverse) (kind : NodeKind) (name : Name) (ty : Ty)
  | append (parent child : NodeId)
  | detach (child : NodeId)
  | annotate (id : NodeId) (tag : AnnotationTag) (arguments : List Literal)
  | newSymbol (signature : Signature)
  | perform (builder : Builder) (operation : Operation)
  | declare {σ : Type} (builder : Builder) (declaration : Declaration) (body : Scope → Script σ)
  | generate (config : Config) (context : Context) (collector : Collector)

/-- The workspace after an act, whether the act succeeded or failed. -/
def Act.apply : Act → Workspace → Workspace
  | .create types kind name ty, workspace =>
      ((Build.create types kind name ty).attempt workspace).2
  | .append parent child, workspace => ((Build.append parent child).attempt workspace).2
  | .detach child, workspace => ((Build.detach child).attempt workspace).2
  | .annotate id tag arguments, workspace =>
      ((Build.annotate id tag arguments).attempt workspace).2
  | .newSymbol signature, workspace => ((Build.newSymbol signature).attempt workspace).2
  | .perform builder operation, workspace => ((builder.perform operation).attempt workspace).2
  | .declare builder declaration body, workspace => (builder.declare declaration body workspace).2.2
  | .generate config context collector, workspace =>
      (DeclTree.generate config context collector workspace).2.2

namespace Workspace

/-- A module that is empty. -/
def ofModule (name : Name) (supply : SymbolSupply) (log : Log) : Workspace :=
  ⟨Tree.ofModule name, supply, log⟩

/-- The workspace after some acts, the first one first. -/
def after (workspace : Workspace) (acts : List Act) : Workspace :=
  acts.foldl (fun workspace act => act.apply workspace) workspace

theorem after_append (workspace : Workspace) (acts later : List Act) :
    workspace.after (acts ++ later) = (workspace.after acts).after later :=
  List.foldl_append

end Workspace

/-- An attachment is a step of work for builders that know any types. -/
theorem Act.append_advances (types : TypeUniverse) (parent child : NodeId)
    (workspace : Workspace) :
    Advances types workspace ((Act.append parent child).apply workspace) :=
  (Build.append_advances parent child).attempt

/-- A detachment takes one link away, or nothing where there is no link. -/
theorem detach_apply_eq (child : NodeId) (workspace : Workspace) :
    (Act.detach child).apply workspace =
      { workspace with
        tree := match workspace.tree.parentOf child with
          | some parent => workspace.tree.unlink parent child
          | none => workspace.tree } := by
  have run := Build.detach_apply child workspace
  show ((Build.detach child).attempt workspace).2 = _
  unfold Tree.detach Tree.parent Tree.node at run
  unfold Tree.parentOf
  cases there : workspace.tree.node? child with
  | none =>
      rw [there] at run
      rw [Build.attempt_error run]
      rfl
  | some node =>
      rw [there] at run
      rw [Build.attempt_ok run, Option.bind_some]
      cases node.parent <;> rfl

/-- **Every act but a detachment takes nothing away.** -/
theorem Act.growth (act : Act) (workspace : Workspace) (other : ∀ child, act ≠ .detach child) :
    Grows workspace (act.apply workspace) := by
  cases act with
  | create types kind name ty => exact (Build.create_grows types kind name ty).attempt
  | append parent child => exact (append_advances .builtin parent child workspace).grows
  | detach child => exact absurd rfl (other child)
  | annotate id tag arguments => exact (Build.annotate_grows id tag arguments).attempt
  | newSymbol signature => exact .single (.symbol signature)
  | perform builder operation =>
      exact Edits.grows (builder.perform_steps operation (Nat.zero_le _)).attempt
  | declare builder declaration body =>
      exact Edits.grows (builder.declare_edits declaration body workspace)
  | generate config context collector => exact generate_grows config context collector workspace

/-- **What the single steps keep holds after every run.** A detachment has to keep it only if it is
among the acts of the run. -/
theorem Workspace.after_induction (holds : Workspace → Prop) {acts : List Act}
    (begin : holds workspace)
    (grow : ∀ before after, Growth before after → holds before → holds after)
    (detach : ∀ before child parent, Act.detach child ∈ acts →
      before.tree.parentOf child = some parent → holds before →
        holds { before with tree := before.tree.unlink parent child }) :
    holds (workspace.after acts) := by
  induction acts generalizing workspace with
  | nil => exact begin
  | cons act rest ih =>
      show holds ((act.apply workspace).after rest)
      refine ih ?_ fun before child parent later =>
        detach before child parent (List.mem_cons_of_mem _ later)
      by_cases isDetach : ∃ child, act = .detach child
      · obtain ⟨child, rfl⟩ := isDetach
        rw [detach_apply_eq]
        cases attached : workspace.tree.parentOf child with
        | none => exact begin
        | some parent => exact detach _ child parent List.mem_cons_self attached begin
      · have grows := act.growth workspace fun child same => isDetach ⟨child, same⟩
        generalize act.apply workspace = reached at grows
        induction grows with
        | refl => exact begin
        | tail _ last held => exact grow _ _ last held

/-- The module stays what it is. -/
theorem labelOf_root_after (name : Name) (supply : SymbolSupply) (log : Log) (acts : List Act) :
    ((Workspace.ofModule name supply log).after acts).tree.labelOf .root =
      some ⟨.module, name, .unit⟩ := by
  refine Workspace.after_induction
    (fun workspace => workspace.tree.labelOf .root = some ⟨.module, name, .unit⟩) rfl ?_ ?_
  · intro before after growth held
    exact (growth.labelOf (Tree.lt_of_labelOf held)).trans held
  · exact fun before child parent _ _ held => (Tree.labelOf_unlink _ parent child .root).trans held

theorem Workspace.isForest_of_after {acts : List Act} (forest : workspace.tree.IsForest) :
    (workspace.after acts).tree.IsForest :=
  after_induction (fun workspace => workspace.tree.IsForest) forest
    (fun _ _ growth held => held.growth growth)
    fun _ _ _ _ attached held => Tree.isForest_unlink held attached

/-- **The tree of a module is a forest after every run**: both copies of a link agree, no link
leaves the tree, no child is listed twice, the module is attached to nothing, and climbing from
any node ends. -/
theorem isForest_after (name : Name) (supply : SymbolSupply) (log : Log) (acts : List Act) :
    ((Workspace.ofModule name supply log).after acts).tree.IsForest :=
  Workspace.isForest_of_after (Tree.isForest_ofModule name)

/-! ### Workspaces that a host can come to -/

/-- A workspace that a host can come to on a module that was empty at first: after its acts, or from
there on, as it sees the tree where it writes a body. -/
def Workspace.Reachable (workspace : Workspace) : Prop :=
  ∃ name supply log acts, Grows ((Workspace.ofModule name supply log).after acts) workspace

theorem Workspace.reachable_after (name : Name) (supply : SymbolSupply) (log : Log)
    (acts : List Act) : ((Workspace.ofModule name supply log).after acts).Reachable :=
  ⟨name, supply, log, acts, .refl⟩

theorem Workspace.Reachable.isForest {workspace : Workspace} (reachable : workspace.Reachable) :
    workspace.tree.IsForest := by
  obtain ⟨name, supply, log, acts, grows⟩ := reachable
  exact (isForest_after name supply log acts).grows grows

end DeclTree
