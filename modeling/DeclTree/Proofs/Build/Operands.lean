/-
**What a run attaches.**

The operations of a run are handed nodes to attach, and so is every body that is written within, by
what it accepts. `Script.operands` lists them, first to last, whether they were attached or refused.
What the body that the script is for accepts is not among them: it is attached when the body ends.

* `Tree.AttachesOnly`: of the nodes that were there, those that are not handed over keep their
  parent, or stay without one;
* `perform_attaching`, `start_attaching`, `finish_attaching`: an operation and both halves of a
  declaration, however they end;
* `Script.attachesOnly`: **a run attaches what it is handed**, and new nodes;
* `Script.parentOf_accepted`: so what a body accepted is attached to nothing when the run ends,
  unless it was handed over;
* `Script.holds`: what it accepted is there, and no node is accepted twice.
-/

import DeclTree.Proofs.Build.Assembly
import DeclTree.Proofs.Build.Statements

namespace DeclTree

variable {σ : Type}

/-! ### What is handed over -/

/-- The nodes that an operation is to attach. -/
def Operation.operands : Operation → List NodeId
  | .call _ arguments => arguments
  | .ret _ value => [value]
  | _ => []

/-- What a body is handed, if it is begun. -/
def Builder.handedIn (builder : Builder) (declaration : Declaration)
    (bodyNodes : Scope → Workspace → List NodeId) (workspace : Workspace) : List NodeId :=
  match builder.start declaration workspace with
  | .error _ _ => []
  | .ok draft begun => bodyNodes draft.scope begun

/-- The nodes that are handed over in a run of a script, for a body that has some statements
already.
-/
def Script.operands (builder : Builder) (owner : Symbol) :
    Script σ → List NodeId → Workspace → List NodeId
  | .done _ _, _, _ => []
  | .build operation next, statements, workspace =>
      let (outcome, after) := (builder.perform operation).attempt workspace
      operation.operands ++ operands builder owner (next outcome) statements after
  | .push statement next, statements, workspace =>
      match Builder.addStatement workspace.tree statements statement with
      | .ok longer => operands builder owner (next (.ok ())) longer workspace
      | .error error => operands builder owner (next (.error error)) statements workspace
  | .pushReturn value next, statements, workspace =>
      match builder.ret owner value workspace with
      | .ok id after => value :: operands builder owner (next (.ok id)) (statements ++ [id]) after
      | .error error after => value :: operands builder owner (next (.error error)) statements after
  | .newSymbol signature next, statements, workspace =>
      let (symbol, supply) := workspace.supply.fresh signature
      operands builder owner (next symbol) statements { workspace with supply := supply }
  | .look next, statements, workspace =>
      operands builder owner (next workspace.tree) statements workspace
  | .declare declaration body next, statements, workspace =>
      let (host, outcome, after) := builder.declare declaration body workspace
      builder.handedIn declaration (fun scope begun =>
          operands builder scope.owner (body scope) [] begun ++
            ((body scope).accepted builder scope.owner [] begun).map Entry.node) workspace ++
        operands builder owner (next host outcome) statements after

/-- The nodes that are handed over while the body of a declaration is written. -/
def Builder.operands (builder : Builder) (declaration : Declaration) (body : Scope → Script σ)
    (workspace : Workspace) : List NodeId :=
  builder.handedIn declaration (fun scope => (body scope).operands builder scope.owner [])
    workspace

/-! ### Attaching nothing else -/

/-- Of the first `old` nodes those that were not handed over keep their parent, or stay without. -/
structure Tree.AttachesOnly (old : Nat) (handed : List NodeId) (before after : Tree) : Prop where
  size_le : before.size ≤ after.size
  parentOf : ∀ id : NodeId, id.index < old → id ∉ handed → after.parentOf id = before.parentOf id

namespace Tree.AttachesOnly

variable {old : Nat} {handed more : List NodeId} {before middle after : Tree}

theorem of_same (size : before.size ≤ after.size)
    (same : ∀ id, after.parentOf id = before.parentOf id) : AttachesOnly old handed before after :=
  ⟨size, fun id _ _ => same id⟩

theorem trans (first : AttachesOnly old handed before middle)
    (later : AttachesOnly old handed middle after) : AttachesOnly old handed before after where
  size_le := first.size_le.trans later.size_le
  parentOf id there unhanded := (later.parentOf id there unhanded).trans
    (first.parentOf id there unhanded)

theorem mono {older : Nat} (only : AttachesOnly old handed before after) (le : older ≤ old)
    (also : ∀ id ∈ handed, id ∈ more) : AttachesOnly older more before after where
  size_le := only.size_le
  parentOf id there unhanded :=
    only.parentOf id (Nat.lt_of_lt_of_le there le) fun member => unhanded (also id member)

/-- Work after work. -/
theorem append (first : AttachesOnly before.size handed before middle)
    (later : AttachesOnly middle.size more middle after) :
    AttachesOnly before.size (handed ++ more) before after :=
  (first.mono le_rfl fun _ => List.mem_append_left _).trans
    (later.mono first.size_le fun _ => List.mem_append_right _)

end Tree.AttachesOnly

/-- A step after which only new nodes, and those handed over, are attached that were not before. -/
abbrev Attaching (old : Nat) (handed : List NodeId) (before after : Workspace) : Prop :=
  Tree.AttachesOnly old handed before.tree after.tree

variable {old : Nat} {handed : List NodeId} {before after start : Workspace}

theorem Tree.AttachesOnly.of_steps
    (steps : Relation.ReflTransGen (Attaching old handed) before after) :
    Tree.AttachesOnly old handed before.tree after.tree := by
  induction steps with
  | refl => exact .of_same le_rfl fun _ => rfl
  | tail _ last ih => exact ih.trans last

namespace Builder

open Build

variable (builder : Builder)

/-! ### Pieces of work -/

theorem create_attaching (kind : NodeKind) (name : Name) (ty : Ty) :
    Steps (Attaching old handed) (builder.create kind name ty) start fun id after =>
      id = ⟨start.tree.size⟩ ∧ after.tree.size = start.tree.size + 1 :=
  .create (fun _ => .of_same (Tree.lt_size_push _ _).le (Tree.parentOf_push start.tree _ rfl))
    ⟨rfl, Tree.size_push _ _⟩

theorem newSymbol_attaching (signature : Signature) :
    Steps (Attaching old handed) (newSymbol signature) start fun _ after =>
      after.tree = start.tree :=
  .newSymbol (.of_same le_rfl fun _ => rfl) rfl

theorem note_attaching (source : LogSource) (message : String) :
    Steps (Attaching old handed) (note source message) start anything :=
  .note (.of_same le_rfl fun _ => rfl) trivial

theorem append_attaching {parent child : NodeId} (given : child ∈ handed ∨ old ≤ child.index) :
    Steps (Attaching old handed) (Build.append parent child) start anything := by
  refine .append (fun attachable =>
    ⟨(Tree.size_link _ _ _).ge, fun id there unhanded => ?_⟩) trivial
  obtain ⟨_, inside, _⟩ := (Tree.checkAttachable_eq_ok_iff _ _ _).mp attachable
  rw [Tree.parentOf_link inside, if_neg]
  rintro rfl
  exact given.elim unhanded (Nat.not_le.mpr there)

theorem appendAll_attaching {parent : NodeId} {children : List NodeId}
    (given : ∀ child ∈ children, child ∈ handed) :
    Steps (Attaching old handed) (Build.appendAll parent children) start anything := by
  induction children generalizing start with
  | nil => exact .pure () trivial
  | cons child rest ih =>
      obtain ⟨first, later⟩ := List.forall_mem_cons.mp given
      exact (append_attaching (.inl first)).bind fun _ _ _ _ => ih later

/-! ### Operations -/

theorem ret_attaching (target : Symbol) (value : NodeId) :
    Steps (Attaching old [value]) (builder.ret target value) start anything := by
  unfold ret
  refine Steps.tree.bind ?_
  rintro _ _ - ⟨rfl, rfl⟩
  refine (Steps.ofExcept _).bind ?_
  rintro _ _ - ⟨_, rfl⟩
  refine (builder.create_attaching _ _ _).bind fun id _ _ _ => ?_
  refine (append_attaching (.inl (List.mem_singleton_self value))).bind fun _ _ _ _ => ?_
  exact .pure _ trivial

theorem call_attaching (callee : Symbol) (arguments : List NodeId) :
    Steps (Attaching old arguments) (builder.call callee arguments) start anything := by
  unfold call
  split
  · exact .throw _
  · refine Steps.tree.bind ?_
    rintro _ _ - ⟨rfl, rfl⟩
    refine (Steps.ofExcept _).bind ?_
    rintro _ _ - ⟨_, rfl⟩
    refine (builder.create_attaching _ _ _).bind fun id _ _ _ => ?_
    exact (appendAll_attaching fun _ member => member).bind fun _ _ _ _ => .pure _ trivial

/-- **An operation attaches its operands and nothing else.** -/
theorem perform_attaching (operation : Operation) :
    Steps (Attaching old operation.operands) (builder.perform operation) start anything := by
  cases operation with
  | literal value =>
      exact (builder.create_attaching _ _ _).mono (fun _ _ => .single) fun _ _ _ => trivial
  | typeRef ty =>
      exact (builder.create_attaching _ _ _).mono (fun _ _ => .single) fun _ _ _ => trivial
  | call callee arguments => exact builder.call_attaching callee arguments
  | ret target value => exact builder.ret_attaching target value
  | get parameter =>
      refine Steps.tree.bind ?_
      rintro _ _ - ⟨rfl, rfl⟩
      refine (Steps.ofExcept _).bind ?_
      rintro ⟨symbol, node⟩ _ - ⟨_, rfl⟩
      exact (builder.create_attaching _ _ _).mono (fun _ _ => .single) fun _ _ _ => trivial
  | property spec =>
      refine (newSymbol_attaching _).bind fun symbol _ _ _ => ?_
      refine (builder.create_attaching _ _ _).bind fun _ _ _ _ => ?_
      exact (note_attaching _ _).bind fun _ _ _ _ => .pure _ trivial
  | annotate id tag arguments =>
      refine (?_ : Steps _ (annotate id tag arguments) start anything).bind fun _ _ _ _ =>
        .pure _ trivial
      refine Steps.tree.bind ?_
      rintro _ _ - ⟨rfl, rfl⟩
      refine (Steps.ofExcept _).bind ?_
      rintro _ after - ⟨_, rfl⟩
      exact .annotate (fun _ _ => .of_same (Tree.size_putTag _ _ _ _).ge fun other =>
        Tree.parentOf_putTag _ _ _ _ other) trivial

/-! ### Declarations -/

theorem addParameters_attaching (owner : NodeId) (ownerName : QualName)
    (parameters : List (Name × Ty)) (index : Nat) (new : old ≤ start.tree.size) :
    Steps (Attaching old handed) (builder.addParameters owner ownerName index parameters) start
      anything := by
  induction parameters generalizing index start with
  | nil => exact .pure _ trivial
  | cons parameter rest ih =>
      obtain ⟨name, ty⟩ := parameter
      unfold addParameters
      refine (newSymbol_attaching _).bind fun symbol named _ same => ?_
      refine (builder.create_attaching _ _ _).bind ?_
      rintro id made - ⟨is, size⟩
      rw [same] at is size
      refine (append_attaching (.inr (is ▸ new))).bind fun _ linked steps _ => ?_
      have later : old ≤ linked.tree.size :=
        (new.trans (size ▸ Nat.le_succ _)).trans (Tree.AttachesOnly.of_steps steps).size_le
      exact (ih (index + 1) later).bind fun _ _ _ _ => .pure _ trivial

/-- **The first half of a declaration attaches new nodes only.** The declaration itself is not among
them. -/
theorem start_attaching (declaration : Declaration) (new : old ≤ start.tree.size + 1) :
    Steps (Attaching old handed) (builder.start declaration) start anything := by
  cases declaration with
  | function spec =>
      refine (Steps.ofExcept _).bind ?_
      rintro _ _ - ⟨_, rfl⟩
      refine (newSymbol_attaching _).bind fun symbol named _ same => ?_
      refine (builder.create_attaching _ _ _).bind ?_
      rintro id made - ⟨_, size⟩
      rw [same] at size
      exact (builder.addParameters_attaching _ _ _ _ (size ▸ new)).bind fun _ _ _ _ =>
        .pure _ trivial
  | getter property =>
      refine Steps.tree.bind ?_
      rintro _ _ - ⟨rfl, rfl⟩
      refine (Steps.ofExcept _).bind ?_
      rintro facts _ - ⟨_, rfl⟩
      refine (newSymbol_attaching _).bind fun symbol _ _ _ => ?_
      exact (builder.create_attaching _ _ _).bind fun _ _ _ _ => .pure _ trivial
  | setter property =>
      refine Steps.tree.bind ?_
      rintro _ _ - ⟨rfl, rfl⟩
      refine (Steps.ofExcept _).bind ?_
      rintro facts _ - ⟨_, rfl⟩
      refine (newSymbol_attaching _).bind fun symbol named _ same => ?_
      refine (builder.create_attaching _ _ _).bind ?_
      rintro id made - ⟨_, size⟩
      rw [same] at size
      exact (builder.addParameters_attaching _ _ _ _ (size ▸ new)).bind fun _ _ _ _ =>
        .pure _ trivial

/-- **The second half of a declaration attaches its statements**, and the declaration if it is an
accessor. -/
theorem finish_attaching (draft : Draft) (statements : List NodeId)
    (new : old ≤ start.tree.size) (newer : old ≤ draft.node.index) :
    Steps (Attaching old statements) (builder.finish draft statements) start anything := by
  unfold finish makeBody
  rw [bind_assoc]
  refine (builder.create_attaching _ _ _).bind ?_
  rintro body _ - ⟨is, _⟩
  rw [bind_assoc]
  refine (appendAll_attaching fun _ member => member).bind fun _ _ _ _ => ?_
  rw [pure_bind]
  refine (append_attaching (.inr (is ▸ new))).bind fun _ _ _ _ => ?_
  cases draft.property with
  | none => exact (note_attaching _ _).bind fun _ _ _ _ => .pure _ trivial
  | some property => exact (append_attaching (.inr newer)).bind fun _ _ _ _ => .pure _ trivial

/-- A declaration attaches what is handed over in its body and what its body accepts. -/
theorem declareWith_attachesOnly {declaration : Declaration}
    {writeBody : Scope → Workspace → σ × Except TreeError (List NodeId) × Workspace}
    {bodyNodes : Scope → Workspace → List NodeId} {workspace : Workspace}
    (within : ∀ scope begun, Tree.AttachesOnly begun.tree.size (bodyNodes scope begun) begun.tree
      (writeBody scope begun).2.2.tree)
    (accepts : ∀ scope begun statements, (writeBody scope begun).2.1 = .ok statements →
      ∀ statement ∈ statements, statement ∈ bodyNodes scope begun) :
    Tree.AttachesOnly workspace.tree.size (builder.handedIn declaration bodyNodes workspace)
      workspace.tree (builder.declareWith declaration writeBody workspace).2.2.tree := by
  have first : Steps (Attaching workspace.tree.size []) (builder.start declaration) workspace
      anything := builder.start_attaching declaration (Nat.le_succ _)
  unfold handedIn declareWith
  cases started : builder.start declaration workspace with
  | error error after => exact .of_steps (first.run_error started)
  | ok draft begun =>
      have beginning := Tree.AttachesOnly.of_steps (first.run_ok started).1
      have inside := within draft.scope begun
      have accepted := accepts draft.scope begun
      dsimp only
      rcases written : writeBody draft.scope begun with ⟨host, outcome, after⟩
      rw [written] at inside accepted
      have body := beginning.append inside
      cases outcome with
      | error error => exact body
      | ok statements =>
          have node : draft.node = ⟨workspace.tree.size⟩ := (start_begun started).node_eq
          have ending : Steps (Attaching workspace.tree.size statements)
              (builder.finish draft statements) after anything :=
            builder.finish_attaching draft statements (beginning.size_le.trans inside.size_le)
              (node ▸ le_rfl)
          exact body.trans
            ((Tree.AttachesOnly.of_steps ending.attempt).mono le_rfl (accepted statements rfl))

end Builder

/-! ### Scripts -/

variable {builder : Builder}

theorem Builder.addStatement_eq_ok_iff {tree : Tree} {statements longer : List NodeId}
    {statement : NodeId} : addStatement tree statements statement = .ok longer ↔
      (statement ∉ statements ∧ tree.Unlinked statement) ∧ longer = statements ++ [statement] := by
  rw [← Tree.checkUnlinked_eq_ok_iff]
  unfold addStatement
  split
  · next again => exact ⟨nofun, fun both => absurd again both.1.1⟩
  · next first =>
      cases checkUnlinked tree statement with
      | error _ => exact ⟨nofun, fun both => nomatch both.1.2⟩
      | ok _ =>
          exact ⟨fun added => ⟨⟨first, rfl⟩, (Except.ok.inj added).symm⟩, fun both => both.2 ▸ rfl⟩

/-- A return is a new node, attached to nothing. -/
theorem Builder.unlinked_ret {target : Symbol} {value id : NodeId}
    (done : builder.ret target value before = .ok id after) :
    id = ⟨before.tree.size⟩ ∧ after.tree.Unlinked id := by
  obtain ⟨_, passed, _⟩ := Build.ofExcept_bind_eq_ok (Build.tree_bind_eq_ok done)
  have operand := Tree.checkUnlinked_eq_ok_iff.mp passed
  let node : Node := { kind := .ret target, name := .special "<return>", ty := .nothing }
  obtain ⟨pushed, other⟩ := (Tree.unlinked_push_iff node rfl).mpr operand
  obtain ⟨rfl, leaves⟩ := ret_eq_ok done
  rw [leaves]
  exact ⟨rfl, (Tree.unlinked_link_iff pushed.there).mpr
    ⟨Tree.unlinked_push_self node rfl operand.there, other.symm⟩⟩

variable (builder)

/-- **A run attaches what it is handed.** -/
theorem Script.attachesOnly (script : Script σ) : ∀ (owner : Symbol) (statements : List NodeId)
    (workspace : Workspace), Tree.AttachesOnly workspace.tree.size
      (script.operands builder owner statements workspace) workspace.tree
        (script.run builder owner statements workspace).2.2.tree := by
  induction script with
  | done host verdict => exact fun _ _ workspace => .of_same le_rfl fun _ => rfl
  | build operation next ih =>
      exact fun owner statements workspace => (Tree.AttachesOnly.of_steps
        (builder.perform_attaching operation).attempt).append (ih _ owner statements _)
  | push statement next ih =>
      intro owner statements workspace
      unfold run operands
      cases Builder.addStatement workspace.tree statements statement with
      | ok longer => exact ih _ owner longer workspace
      | error error => exact ih _ owner statements workspace
  | pushReturn value next ih =>
      intro owner statements workspace
      have returning : Build.Steps (Attaching workspace.tree.size [value]) (builder.ret owner value)
          workspace Builder.anything := builder.ret_attaching owner value
      unfold run operands
      cases done : builder.ret owner value workspace with
      | ok id after =>
          exact (Tree.AttachesOnly.of_steps (returning.run_ok done).1).append
            (ih _ owner (statements ++ [id]) after)
      | error error after =>
          exact (Tree.AttachesOnly.of_steps (returning.run_error done)).append
            (ih _ owner statements after)
  | newSymbol signature next ih =>
      intro owner statements workspace
      exact ih (workspace.supply.fresh signature).1 owner statements
        { workspace with supply := (workspace.supply.fresh signature).2 }
  | look next ih => exact fun owner statements workspace => ih _ owner statements workspace
  | declare declaration body next ihBody ihNext =>
      intro owner statements workspace
      have declaring : Tree.AttachesOnly workspace.tree.size
          (builder.handedIn declaration (fun scope begun =>
            operands builder scope.owner (body scope) [] begun ++
              ((body scope).accepted builder scope.owner [] begun).map Entry.node) workspace)
          workspace.tree (builder.declare declaration body workspace).2.2.tree := by
        refine builder.declareWith_attachesOnly (fun scope begun =>
          (ihBody scope scope.owner [] begun).mono le_rfl fun _ => List.mem_append_left _) ?_
        intro scope begun accepted ended statement member
        rw [(body scope).statements_eq scope.owner [] begun ended, List.nil_append] at member
        exact List.mem_append_right _ member
      exact declaring.append (ihNext _ _ owner statements _)

theorem Builder.operands_of_start {declaration : Declaration} (body : Scope → Script σ)
    {workspace begun : Workspace} {draft : Draft}
    (started : builder.start declaration workspace = .ok draft begun) :
    builder.operands declaration body workspace =
      (body draft.scope).operands builder draft.scope.owner [] begun := by
  unfold operands handedIn
  rw [started]

/-- A declaration that was made for a body is attached to nothing when the body was written, unless
it was handed over. -/
theorem Builder.parentOf_written (declaration : Declaration) (body : Scope → Script σ)
    (workspace : Workspace)
    (unhanded : ⟨workspace.tree.size⟩ ∉ builder.operands declaration body workspace) :
    (builder.written declaration body workspace).tree.parentOf ⟨workspace.tree.size⟩ = none := by
  let made : NodeId := ⟨workspace.tree.size⟩
  have unmade : workspace.tree.parentOf made = none := by
    rw [Tree.parentOf, (Tree.node?_eq_none_iff workspace.tree made).mpr le_rfl, Option.bind_none]
  cases started : builder.start declaration workspace with
  | error error after => rw [written_of_start_error body started, unmade]
  | ok draft begun =>
      rw [operands_of_start builder body started] at unhanded
      have first : Build.Steps (Attaching (workspace.tree.size + 1) []) (builder.start declaration)
          workspace anything := builder.start_attaching declaration le_rfl
      have beginning := Tree.AttachesOnly.of_steps (first.run_ok started).1
      have running := (body draft.scope).attachesOnly builder draft.scope.owner [] begun
      rw [written_of_start body started, running.parentOf made (start_begun started).there unhanded,
        beginning.parentOf made (Nat.lt_succ_self _) List.not_mem_nil, unmade]

/-- **What a body accepted is attached to nothing when the run ends**, unless it was handed over. -/
theorem Script.parentOf_accepted (script : Script σ) : ∀ (owner : Symbol)
    (statements : List NodeId) (workspace : Workspace) {entry : Entry},
    entry ∈ script.accepted builder owner statements workspace →
      entry.node ∉ script.operands builder owner statements workspace →
        (script.run builder owner statements workspace).2.2.tree.parentOf entry.node = none := by
  induction script with
  | done host verdict => exact fun owner statements workspace _ member => nomatch member
  | build operation next ih =>
      exact fun owner statements workspace _ member unhanded =>
        ih _ owner statements _ member fun later => unhanded (List.mem_append_right _ later)
  | push statement next ih =>
      intro owner statements workspace entry member unhanded
      unfold run
      unfold accepted at member
      unfold operands at unhanded
      cases added : Builder.addStatement workspace.tree statements statement with
      | ok longer =>
          rw [added] at member unhanded
          rcases List.mem_cons.mp member with rfl | later
          · obtain ⟨⟨_, unlinked⟩, _⟩ := Builder.addStatement_eq_ok_iff.mp added
            have rest := (next (.ok ())).attachesOnly builder owner longer workspace
            exact (rest.parentOf _ unlinked.there unhanded).trans unlinked.alone
          · exact ih _ owner longer workspace later unhanded
      | error error =>
          rw [added] at member unhanded
          exact ih _ owner statements workspace member unhanded
  | pushReturn value next ih =>
      intro owner statements workspace entry member unhanded
      unfold run
      unfold accepted at member
      unfold operands at unhanded
      cases done : builder.ret owner value workspace with
      | ok id after =>
          rw [done] at member unhanded
          have kept := fun handed => unhanded (List.mem_cons_of_mem value handed)
          rcases List.mem_cons.mp member with rfl | later
          · obtain ⟨_, unlinked⟩ := Builder.unlinked_ret done
            have rest := (next (.ok id)).attachesOnly builder owner (statements ++ [id]) after
            exact (rest.parentOf _ unlinked.there kept).trans unlinked.alone
          · exact ih _ owner _ after later kept
      | error error after =>
          rw [done] at member unhanded
          exact ih _ owner statements after member fun handed =>
            unhanded (List.mem_cons_of_mem value handed)
  | newSymbol signature next ih =>
      exact fun owner statements workspace _ member unhanded =>
        ih _ owner statements _ member unhanded
  | look next ih =>
      exact fun owner statements workspace _ member unhanded =>
        ih _ owner statements workspace member unhanded
  | declare declaration body next _ ih =>
      exact fun owner statements workspace _ member unhanded =>
        ih _ _ owner statements _ member fun later => unhanded (List.mem_append_right _ later)

/-! ### Statements -/

/-- Statements that a body can have accepted: nodes other than the module, no two of them the
same. -/
structure Tree.Holds (tree : Tree) (statements : List NodeId) : Prop where
  there : ∀ statement ∈ statements, statement.index < tree.size
  notRoot : ∀ statement ∈ statements, statement ≠ .root
  nodup : statements.Nodup

theorem Tree.Holds.mono {tree other : Tree} {statements : List NodeId}
    (holds : tree.Holds statements) (size : tree.size ≤ other.size) : other.Holds statements :=
  ⟨fun statement member => Nat.lt_of_lt_of_le (holds.there statement member) size, holds.notRoot,
    holds.nodup⟩

/-- A statement more. -/
theorem Tree.Holds.concat {tree : Tree} {statements : List NodeId} {statement : NodeId}
    (holds : tree.Holds statements) (unlinked : tree.Unlinked statement)
    (other : statement ∉ statements) : tree.Holds (statements ++ [statement]) where
  there := List.forall_mem_append.mpr ⟨holds.there, List.forall_mem_singleton.mpr unlinked.there⟩
  notRoot :=
    List.forall_mem_append.mpr ⟨holds.notRoot, List.forall_mem_singleton.mpr unlinked.notRoot⟩
  nodup := holds.nodup.append (List.nodup_singleton statement) (List.disjoint_singleton.mpr other)

/-- **The statements that a run ends with** are there, and no two of them are the same. -/
theorem Script.holds (script : Script σ) : ∀ (owner : Symbol) (statements : List NodeId)
    (workspace : Workspace) {final : List NodeId}, workspace.tree.Holds statements →
    (script.run builder owner statements workspace).2.1 = .ok final →
      (script.run builder owner statements workspace).2.2.tree.Holds final := by
  induction script with
  | done host verdict =>
      intro owner statements workspace final holds ended
      unfold run at ended
      cases verdict with
      | ok _ =>
          rw [← Except.ok.inj ended]
          exact holds
      | error _ => cases ended
  | build operation next ih =>
      intro owner statements workspace final holds ended
      have performed : Tree.AttachesOnly 0 operation.operands workspace.tree _ :=
        .of_steps (builder.perform_attaching operation).attempt
      exact ih _ owner statements _ (holds.mono performed.size_le) ended
  | push statement next ih =>
      intro owner statements workspace final holds ended
      unfold run at ended ⊢
      cases added : Builder.addStatement workspace.tree statements statement with
      | ok longer =>
          rw [added] at ended
          obtain ⟨⟨first, unlinked⟩, rfl⟩ := Builder.addStatement_eq_ok_iff.mp added
          exact ih _ owner _ workspace (holds.concat unlinked first) ended
      | error error =>
          rw [added] at ended
          exact ih _ owner statements workspace holds ended
  | pushReturn value next ih =>
      intro owner statements workspace final holds ended
      have returning : Build.Steps (Attaching 0 [value]) (builder.ret owner value)
          workspace Builder.anything := builder.ret_attaching owner value
      unfold run at ended ⊢
      cases done : builder.ret owner value workspace with
      | ok id after =>
          rw [done] at ended
          obtain ⟨rfl, unlinked⟩ := Builder.unlinked_ret done
          have grown := (Tree.AttachesOnly.of_steps (returning.run_ok done).1).size_le
          refine ih _ owner _ after ((holds.mono grown).concat unlinked fun member => ?_) ended
          exact Nat.lt_irrefl _ (holds.there _ member)
      | error error after =>
          rw [done] at ended
          have grown := (Tree.AttachesOnly.of_steps (returning.run_error done)).size_le
          exact ih _ owner statements after (holds.mono grown) ended
  | newSymbol signature next ih =>
      exact fun owner statements workspace _ holds ended => ih _ owner statements _ holds ended
  | look next ih =>
      exact fun owner statements workspace _ holds ended =>
        ih _ owner statements workspace holds ended
  | declare declaration body next _ ih =>
      intro owner statements workspace final holds ended
      have grown := Edits.size_le (builder.declare_edits declaration body workspace)
      exact ih _ _ owner statements _ (holds.mono grown) ended

/-! ### Bodies of declarations -/

namespace Builder

variable {declaration : Declaration} {body : Scope → Script σ} {workspace written : Workspace}
variable {statements : List NodeId}

/-- A body that ended with statements was begun. -/
theorem start_of_bodyEnd {verdict : Except TreeError (List NodeId)}
    (ended : builder.bodyEnd declaration body workspace = some (verdict, written)) :
    ∃ draft begun, builder.start declaration workspace = .ok draft begun ∧
      ((body draft.scope).run builder draft.scope.owner [] begun).2 = (verdict, written) := by
  unfold bodyEnd at ended
  cases started : builder.start declaration workspace with
  | error _ _ =>
      rw [started] at ended
      cases ended
  | ok draft begun =>
      rw [started] at ended
      exact ⟨draft, begun, rfl, Option.some.inj ended⟩

/-- The statements that a body ended with. -/
theorem holds_bodyEnd
    (ended : builder.bodyEnd declaration body workspace = some (.ok statements, written)) :
    written.tree.Holds statements := by
  obtain ⟨draft, begun, _, run⟩ := start_of_bodyEnd builder ended
  have none : begun.tree.Holds [] :=
    ⟨List.forall_mem_nil _, List.forall_mem_nil _, List.nodup_nil⟩
  have holds := (body draft.scope).holds builder draft.scope.owner [] begun none
    (congrArg Prod.fst run)
  rwa [run] at holds

/-- **They are attached to nothing then, unless they were handed over.** -/
theorem parentOf_bodyEnd
    (ended : builder.bodyEnd declaration body workspace = some (.ok statements, written))
    {statement : NodeId} (member : statement ∈ statements)
    (unhanded : statement ∉ builder.operands declaration body workspace) :
    written.tree.parentOf statement = none := by
  obtain ⟨draft, begun, started, run⟩ := start_of_bodyEnd builder ended
  rw [operands_of_start builder body started] at unhanded
  rw [(body draft.scope).statements_eq draft.scope.owner [] begun (congrArg Prod.fst run),
    List.nil_append] at member
  obtain ⟨entry, accepted, rfl⟩ := List.mem_map.mp member
  have free := (body draft.scope).parentOf_accepted builder draft.scope.owner [] begun accepted
    unhanded
  rwa [run] at free

end Builder

end DeclTree
