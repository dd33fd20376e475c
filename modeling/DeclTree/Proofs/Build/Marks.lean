/-
**What a run annotates.**

Annotations are put by calls, and a call that succeeds leaves a mark. `Script.marks` lists the marks
that a host leaves by a script, first to last, nested declarations included, whether or not what it
does around them succeeds; `Builder.marks` those that it leaves in the body of a declaration.

* `Tree.Records`: of the annotations that a node had, those that it has afterwards are what the
  marks on the node make;
* `perform_records`: an operation, of which only one kind leaves a mark;
* `start_silent`, `finish_silent`: both halves of a declaration leave no marks, however they end;
* `Script.records`, `Builder.declare_records`: **a run records its marks, and nothing else.**
-/

import DeclTree.Proofs.Build.Spared
import DeclTree.Proofs.Node.Mark

namespace DeclTree

variable {σ : Type}

/-! ### The marks of a run -/

/-- The mark of a call, if the call succeeded. -/
def Mark.ifOk {α : Type} (mark : Mark) : Except TreeError α → List Mark
  | .ok _ => [mark]
  | .error _ => []

theorem Mark.mem_ifOk {α : Type} {mark other : Mark} {outcome : Except TreeError α} :
    other ∈ mark.ifOk outcome ↔ other = mark ∧ ∃ value, outcome = .ok value := by
  cases outcome <;> simp [ifOk]

/-- The mark that an operation leaves, given how it turned out. -/
def Operation.marks : Operation → Except TreeError NodeId → List Mark
  | .annotate id tag arguments, outcome => Mark.ifOk ⟨id, tag, arguments⟩ outcome
  | _, _ => []

/-- The marks that are left in the body of a declaration, if the body is begun. -/
def Builder.marksIn (builder : Builder) (declaration : Declaration)
    (bodyMarks : Scope → Workspace → List Mark) (workspace : Workspace) : List Mark :=
  match builder.start declaration workspace with
  | .error _ _ => []
  | .ok draft begun => bodyMarks draft.scope begun

/-- The marks that a script leaves, in a body that has some statements already. -/
def Script.marks (builder : Builder) (owner : Symbol) :
    Script σ → List NodeId → Workspace → List Mark
  | .done _ _, _, _ => []
  | .build operation next, statements, workspace =>
      let (outcome, after) := (builder.perform operation).attempt workspace
      operation.marks outcome ++ marks builder owner (next outcome) statements after
  | .push statement next, statements, workspace =>
      match Builder.addStatement workspace.tree statements statement with
      | .ok longer => marks builder owner (next (.ok ())) longer workspace
      | .error error => marks builder owner (next (.error error)) statements workspace
  | .pushReturn value next, statements, workspace =>
      match builder.ret owner value workspace with
      | .ok id after => marks builder owner (next (.ok id)) (statements ++ [id]) after
      | .error error after => marks builder owner (next (.error error)) statements after
  | .newSymbol signature next, statements, workspace =>
      let (symbol, supply) := workspace.supply.fresh signature
      marks builder owner (next symbol) statements { workspace with supply := supply }
  | .look next, statements, workspace =>
      marks builder owner (next workspace.tree) statements workspace
  | .declare declaration body next, statements, workspace =>
      let (host, outcome, after) := builder.declare declaration body workspace
      builder.marksIn declaration (fun scope => marks builder scope.owner (body scope) [])
          workspace ++
        marks builder owner (next host outcome) statements after

/-- The marks that are left while the body of a declaration is written by a script. -/
def Builder.marks (builder : Builder) (declaration : Declaration) (body : Scope → Script σ)
    (workspace : Workspace) : List Mark :=
  builder.marksIn declaration (fun scope => (body scope).marks builder scope.owner []) workspace

/-- The marks that a builder leaves that annotates some nodes, one after the other, until it is
refused. -/
def Builder.marksOn (tag : AnnotationTag) (arguments : List Literal) :
    List NodeId → Workspace → List Mark
  | [], _ => []
  | id :: rest, workspace =>
      match Builder.annotate id tag arguments workspace with
      | .ok _ after => ⟨id, tag, arguments⟩ :: marksOn tag arguments rest after
      | .error _ _ => []

/-! ### Recording -/

namespace Tree

/-- The annotations at a place. Where there is no node there are none. -/
def annotationsAt (tree : Tree) (id : NodeId) : Annotations := (tree.annotationsOf id).getD .empty

theorem annotationsAt_eq {tree : Tree} {id : NodeId} {node : Node}
    (found : tree.node? id = some node) : tree.annotationsAt id = node.annotations := by
  rw [annotationsAt, annotationsOf, found]
  rfl

/-- A new node has no annotations. -/
theorem annotationsAt_push (tree : Tree) (kind : NodeKind) (name : Name) (ty : Ty) (id : NodeId) :
    (tree.push { kind := kind, name := name, ty := ty }).2.annotationsAt id =
      tree.annotationsAt id := by
  unfold annotationsAt annotationsOf
  rw [node?_push]
  split
  · next new =>
      rw [(node?_eq_none_iff tree id).mpr new.ge]
      rfl
  · rfl

theorem annotationsAt_link (tree : Tree) (parent child id : NodeId) :
    (tree.link parent child).annotationsAt id = tree.annotationsAt id := by
  rw [annotationsAt, annotationsOf_link, annotationsAt]

theorem annotationsAt_unlink (tree : Tree) (parent child id : NodeId) :
    (tree.unlink parent child).annotationsAt id = tree.annotationsAt id := by
  rw [annotationsAt, annotationsOf, node?_unlink, Option.map_map, annotationsAt, annotationsOf]
  rfl

theorem annotationsAt_putTag {tree : Tree} {id : NodeId} {node : Node}
    (found : tree.node? id = some node) (tag : AnnotationTag) (arguments : List Literal) :
    (tree.putTag id tag arguments).annotationsAt id =
      (tree.annotationsAt id).put tag arguments := by
  have put : (tree.putTag id tag arguments).node? id =
      some { node with annotations := node.annotations.put tag arguments } := by
    rw [node?_putTag, found, Option.map_some, if_pos rfl]
  rw [annotationsAt_eq put, annotationsAt_eq found]

/-- From one tree to another one, some marks were put and nothing else was done to annotations. -/
def Records (before : Tree) (marks : List Mark) (after : Tree) : Prop :=
  ∀ id, after.annotationsAt id = (before.annotationsAt id).record (Mark.onNode id marks)

namespace Records

variable {before middle after : Tree} {marks more : List Mark}

theorem refl (tree : Tree) : tree.Records [] tree := fun _ => rfl

/-- Work after work. -/
theorem append (first : before.Records marks middle) (later : middle.Records more after) :
    before.Records (marks ++ more) after := fun id => by
  rw [later id, first id, Mark.onNode_append, Annotations.record_append]

/-- One mark is put on a node that is there. -/
theorem putTag {id : NodeId} {node : Node} (found : before.node? id = some node)
    (tag : AnnotationTag) (arguments : List Literal) :
    before.Records [⟨id, tag, arguments⟩] (before.putTag id tag arguments) := by
  intro other
  by_cases same : other = id
  · subst same
    have here : Mark.onNode other [⟨other, tag, arguments⟩] = [⟨other, tag, arguments⟩] := by
      simp [Mark.onNode]
    rw [annotationsAt_putTag found, here]
    rfl
  · rw [Mark.onNode_eq_nil (List.forall_mem_singleton.mpr (Ne.symm same)), annotationsAt,
      annotationsOf_putTag same, Annotations.record_nil, annotationsAt]

end Records

end Tree

/-- A step that does nothing to annotations. -/
abbrev Silent (before after : Workspace) : Prop := before.tree.Records [] after.tree

variable {before after start : Workspace}

theorem Tree.Records.of_steps (steps : Relation.ReflTransGen Silent before after) :
    before.tree.Records [] after.tree := by
  induction steps with
  | refl => exact .refl before.tree
  | tail _ last ih => exact ih.append last

namespace Build

theorem create_silent (types : TypeUniverse) (kind : NodeKind) (name : Name) (ty : Ty) :
    Steps Silent (create types kind name ty) start Builder.anything :=
  .create (fun _ => start.tree.annotationsAt_push kind name ty) trivial

theorem newSymbol_silent (signature : Signature) :
    Steps Silent (newSymbol signature) start Builder.anything :=
  .newSymbol (.refl start.tree) trivial

theorem note_silent (source : LogSource) (message : String) :
    Steps Silent (note source message) start Builder.anything :=
  .note (.refl start.tree) trivial

theorem append_silent (parent child : NodeId) :
    Steps Silent (append parent child) start Builder.anything :=
  .append (fun _ => start.tree.annotationsAt_link parent child) trivial

theorem appendAll_silent (parent : NodeId) (children : List NodeId) :
    Steps Silent (appendAll parent children) start Builder.anything := by
  induction children generalizing start with
  | nil => exact .pure () trivial
  | cons child rest ih => exact (append_silent parent child).bind fun _ _ _ _ => ih

/-- **An annotation leaves a mark if it succeeds.** -/
theorem annotate_records (id : NodeId) (tag : AnnotationTag) (arguments : List Literal)
    (start : Workspace) :
    start.tree.Records
      (Mark.ifOk ⟨id, tag, arguments⟩ ((annotate id tag arguments).attempt start).1)
      ((annotate id tag arguments).attempt start).2.tree := by
  have run := annotate_apply id tag arguments start
  cases there : start.tree.node id with
  | ok node =>
      rw [there] at run
      rw [attempt_ok run]
      exact .putTag ((Tree.node_eq_ok_iff _ _ _).mp there) tag arguments
  | error _ =>
      rw [there] at run
      rw [attempt_error run]
      exact .refl start.tree

end Build

namespace Builder

open Build

variable (builder : Builder)

/-! ### Operations -/

/-- So does one of a builder. -/
theorem annotate_records (id : NodeId) (tag : AnnotationTag) (arguments : List Literal)
    (start : Workspace) :
    start.tree.Records
      (Mark.ifOk ⟨id, tag, arguments⟩ ((Builder.annotate id tag arguments).attempt start).1)
      ((Builder.annotate id tag arguments).attempt start).2.tree := by
  cases passed : checkUnlinked start.tree id with
  | ok _ =>
      have run : Builder.annotate id tag arguments start = Build.annotate id tag arguments start :=
        (bind_ok (tree_apply start)).trans (bind_ok (ofExcept_ok passed start))
      have same : (Builder.annotate id tag arguments).attempt start =
          (Build.annotate id tag arguments).attempt start := by
        rw [attempt, run, attempt]
      rw [same]
      exact Build.annotate_records id tag arguments start
  | error error =>
      have run : Builder.annotate id tag arguments start = .error error start :=
        (bind_ok (tree_apply start)).trans (bind_error (ofExcept_error passed start))
      rw [attempt_error run]
      exact .refl start.tree

theorem call_silent (callee : Symbol) (arguments : List NodeId) :
    Steps Silent (builder.call callee arguments) start anything := by
  unfold call
  split
  · exact .throw _
  · refine Steps.tree.bind fun _ _ _ _ => (Steps.ofExcept _).bind fun _ _ _ _ => ?_
    refine (create_silent _ _ _ _).bind fun _ _ _ _ => ?_
    exact (appendAll_silent _ _).bind fun _ _ _ _ => .pure _ trivial

theorem ret_silent (target : Symbol) (value : NodeId) :
    Steps Silent (builder.ret target value) start anything := by
  refine Steps.tree.bind fun _ _ _ _ => (Steps.ofExcept _).bind fun _ _ _ _ => ?_
  refine (create_silent _ _ _ _).bind fun _ _ _ _ => ?_
  exact (append_silent _ _).bind fun _ _ _ _ => .pure _ trivial

theorem property_silent (spec : PropertySpec) :
    Steps Silent (builder.property spec) start anything := by
  refine (newSymbol_silent _).bind fun _ _ _ _ => (create_silent _ _ _ _).bind fun _ _ _ _ => ?_
  exact (note_silent _ _).bind fun _ _ _ _ => .pure _ trivial

/-- **An operation records its mark, and nothing else.** -/
theorem perform_records (operation : Operation) (start : Workspace) :
    start.tree.Records (operation.marks ((builder.perform operation).attempt start).1)
      ((builder.perform operation).attempt start).2.tree := by
  have silently : ∀ {work : Build NodeId}, Steps Silent work start anything →
      start.tree.Records [] (work.attempt start).2.tree := fun steps => .of_steps steps.attempt
  cases operation with
  | literal value => exact silently (create_silent _ _ _ _)
  | typeRef ty => exact silently (create_silent _ _ _ _)
  | call callee arguments => exact silently (builder.call_silent callee arguments)
  | ret target value => exact silently (builder.ret_silent target value)
  | get parameter =>
      refine silently (Steps.tree.bind fun _ _ _ _ => (Steps.ofExcept _).bind fun _ _ _ _ => ?_)
      exact create_silent _ _ _ _
  | property spec => exact silently (builder.property_silent spec)
  | annotate id tag arguments =>
      have recorded := annotate_records id tag arguments start
      cases run : Builder.annotate id tag arguments start with
      | ok _ after =>
          have done : builder.perform (.annotate id tag arguments) start = .ok id after :=
            bind_ok run
          rw [attempt_ok run] at recorded
          rw [attempt_ok done]
          exact recorded
      | error error after =>
          have failed : builder.perform (.annotate id tag arguments) start = .error error after :=
            bind_error run
          rw [attempt_error run] at recorded
          rw [attempt_error failed]
          exact recorded

/-- A builder that annotates some nodes one after the other records its marks. -/
theorem annotateAll_records (tag : AnnotationTag) (arguments : List Literal) (ids : List NodeId)
    (start : Workspace) :
    start.tree.Records (marksOn tag arguments ids start)
      ((ids.forM fun id => Builder.annotate id tag arguments).attempt start).2.tree := by
  induction ids generalizing start with
  | nil => exact .refl start.tree
  | cons id rest ih =>
      have first := annotate_records id tag arguments start
      unfold marksOn
      cases run : Builder.annotate id tag arguments start with
      | ok _ after =>
          have whole : ((id :: rest).forM fun id => Builder.annotate id tag arguments) start =
              (rest.forM fun id => Builder.annotate id tag arguments) after := bind_ok run
          have same :
              ((id :: rest).forM fun id => Builder.annotate id tag arguments).attempt start =
                (rest.forM fun id => Builder.annotate id tag arguments).attempt after := by
            rw [attempt, whole, attempt]
          rw [attempt_ok run] at first
          rw [same]
          exact first.append (ih after)
      | error error after =>
          have whole : ((id :: rest).forM fun id => Builder.annotate id tag arguments) start =
              .error error after := bind_error run
          rw [attempt_error run] at first
          rw [attempt_error whole]
          exact first

/-- A builder that is not refused marks all of them. -/
theorem marksOn_of_ok {tag : AnnotationTag} {arguments : List Literal} {ids : List NodeId}
    (done : (ids.forM fun id => Builder.annotate id tag arguments) before = .ok () after) :
    marksOn tag arguments ids before = ids.map (⟨·, tag, arguments⟩) := by
  induction ids generalizing before with
  | nil => rfl
  | cons id rest ih =>
      obtain ⟨_, middle, first, later⟩ := bind_eq_ok
        (show (Builder.annotate id tag arguments >>= fun _ =>
          rest.forM fun id => Builder.annotate id tag arguments) before = .ok () after from done)
      unfold marksOn
      rw [first]
      exact congrArg (List.cons _) (ih later)

/-! ### Declarations -/

theorem addParameters_silent (owner : NodeId) (ownerName : QualName)
    (parameters : List (Name × Ty)) (index : Nat) :
    Steps Silent (builder.addParameters owner ownerName index parameters) start anything := by
  induction parameters generalizing index start with
  | nil => exact .pure _ trivial
  | cons parameter rest ih =>
      refine (newSymbol_silent _).bind fun _ _ _ _ => (create_silent _ _ _ _).bind fun _ _ _ _ => ?_
      refine (append_silent _ _).bind fun _ _ _ _ => ?_
      exact (ih (index + 1)).bind fun _ _ _ _ => .pure _ trivial

theorem start_silent (declaration : Declaration) :
    Steps Silent (builder.start declaration) start anything := by
  cases declaration with
  | function spec =>
      refine (Steps.ofExcept _).bind fun _ _ _ _ => (newSymbol_silent _).bind fun _ _ _ _ => ?_
      refine (create_silent _ _ _ _).bind fun _ _ _ _ => ?_
      exact (builder.addParameters_silent _ _ _ _).bind fun _ _ _ _ => .pure _ trivial
  | getter property =>
      refine Steps.tree.bind fun _ _ _ _ => (Steps.ofExcept _).bind fun _ _ _ _ => ?_
      refine (newSymbol_silent _).bind fun _ _ _ _ => ?_
      exact (create_silent _ _ _ _).bind fun _ _ _ _ => .pure _ trivial
  | setter property =>
      refine Steps.tree.bind fun _ _ _ _ => (Steps.ofExcept _).bind fun _ _ _ _ => ?_
      refine (newSymbol_silent _).bind fun _ _ _ _ => (create_silent _ _ _ _).bind fun _ _ _ _ => ?_
      exact (builder.addParameters_silent _ _ _ _).bind fun _ _ _ _ => .pure _ trivial

theorem finish_silent (draft : Draft) (statements : List NodeId) :
    Steps Silent (builder.finish draft statements) start anything := by
  unfold finish makeBody
  rw [bind_assoc]
  refine (create_silent _ _ _ _).bind fun _ _ _ _ => ?_
  rw [bind_assoc]
  refine (appendAll_silent _ _).bind fun _ _ _ _ => ?_
  rw [pure_bind]
  refine (append_silent _ _).bind fun _ _ _ _ => ?_
  cases draft.property with
  | none => exact (note_silent _ _).bind fun _ _ _ _ => .pure _ trivial
  | some property => exact (append_silent _ _).bind fun _ _ _ _ => .pure _ trivial

/-- A declaration records what is recorded while its body is written. -/
theorem declareWith_records {declaration : Declaration}
    {writeBody : Scope → Workspace → σ × Except TreeError (List NodeId) × Workspace}
    {bodyMarks : Scope → Workspace → List Mark} {workspace : Workspace}
    (within : ∀ scope (begun : Workspace),
      begun.tree.Records (bodyMarks scope begun) (writeBody scope begun).2.2.tree) :
    workspace.tree.Records (builder.marksIn declaration bodyMarks workspace)
      (builder.declareWith declaration writeBody workspace).2.2.tree := by
  have first : Steps Silent (builder.start declaration) workspace anything :=
    builder.start_silent declaration
  unfold marksIn declareWith
  cases started : builder.start declaration workspace with
  | error error after => exact .of_steps (first.run_error started)
  | ok draft begun =>
      have beginning := Tree.Records.of_steps (first.run_ok started).1
      have inside := within draft.scope begun
      dsimp only
      rcases written : writeBody draft.scope begun with ⟨host, outcome, after⟩
      rw [written] at inside
      have body := beginning.append inside
      cases outcome with
      | error error => exact body
      | ok statements =>
          have ending : Steps Silent (builder.finish draft statements) after anything :=
            builder.finish_silent draft statements
          have whole := body.append (Tree.Records.of_steps ending.attempt)
          rwa [List.append_nil] at whole

end Builder

/-! ### Scripts -/

variable (builder : Builder)

/-- **A run records its marks, and nothing else.** -/
theorem Script.records (script : Script σ) : ∀ (owner : Symbol) (statements : List NodeId)
    (workspace : Workspace),
    workspace.tree.Records (script.marks builder owner statements workspace)
      (script.run builder owner statements workspace).2.2.tree := by
  induction script with
  | done host verdict => exact fun _ _ workspace => .refl workspace.tree
  | build operation next ih =>
      exact fun owner statements workspace =>
        (builder.perform_records operation workspace).append (ih _ owner statements _)
  | push statement next ih =>
      intro owner statements workspace
      unfold run marks
      cases Builder.addStatement workspace.tree statements statement with
      | ok longer => exact ih _ owner longer workspace
      | error error => exact ih _ owner statements workspace
  | pushReturn value next ih =>
      intro owner statements workspace
      have returning : Build.Steps Silent (builder.ret owner value) workspace Builder.anything :=
        builder.ret_silent owner value
      unfold run marks
      cases done : builder.ret owner value workspace with
      | ok id after =>
          exact (Tree.Records.of_steps (returning.run_ok done).1).append
            (ih _ owner (statements ++ [id]) after)
      | error error after =>
          exact (Tree.Records.of_steps (returning.run_error done)).append
            (ih _ owner statements after)
  | newSymbol signature next ih =>
      intro owner statements workspace
      exact ih (workspace.supply.fresh signature).1 owner statements
        { workspace with supply := (workspace.supply.fresh signature).2 }
  | look next ih => exact fun owner statements workspace => ih _ owner statements workspace
  | declare declaration body next ihBody ihNext =>
      intro owner statements workspace
      have declaring : workspace.tree.Records
          (builder.marksIn declaration (fun scope => marks builder scope.owner (body scope) [])
            workspace) (builder.declare declaration body workspace).2.2.tree :=
        builder.declareWith_records fun scope begun => ihBody scope scope.owner [] begun
      exact declaring.append (ihNext _ _ owner statements _)

/-- **So does a declaration whose body is written by a script.** -/
theorem Builder.declare_records (declaration : Declaration) (body : Scope → Script σ)
    (workspace : Workspace) :
    workspace.tree.Records (builder.marks declaration body workspace)
      (builder.declare declaration body workspace).2.2.tree :=
  builder.declareWith_records fun scope begun =>
    (body scope).records builder scope.owner [] begun

/-- A declaration is silent if its body is. -/
theorem Builder.build_silent (declaration : Declaration) (body : Scope → Script Unit)
    (unmarked : ∀ scope begun, (body scope).marks builder scope.owner [] begun = []) :
    Build.Steps Silent (builder.build declaration body) start Builder.anything := by
  have recorded := builder.declare_records declaration body start
  have none : builder.marks declaration body start = [] := by
    unfold marks marksIn
    cases builder.start declaration start with
    | error _ _ => rfl
    | ok draft begun => exact unmarked draft.scope begun
  rw [none] at recorded
  unfold Build.Steps build
  rcases done : builder.declare declaration body start with ⟨host, outcome, after⟩
  rw [done] at recorded
  cases outcome with
  | ok id => exact ⟨.single recorded, trivial⟩
  | error error => exact Relation.ReflTransGen.single recorded

end DeclTree
