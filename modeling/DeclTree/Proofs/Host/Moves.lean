/-
**Symbols in the runs of a host.**

A host that leaves the making of nodes to builders works in moves (`Move`): it declares symbols in
tables, makes symbols of its own, has builders do jobs, attaches and detaches nodes, and runs
generators. It also makes symbols while it writes the body of a declaration, and in the bodies
nested there; `Workspace.hostSymbols` lists all that it made in some moves.

* `Script.unused`: what a host makes inside a body is declared by no node, neither when the body is
  done nor when it is given up;
* `identifies_afterMoves`: **after any moves, symbols say which node is meant**.
-/

import DeclTree.Proofs.Host.Identity
import DeclTree.Proofs.Host.Work

namespace DeclTree

variable {σ : Type}

/-! ### Symbols of the host's own -/

/-- What the host makes in the body of a declaration, if the body is begun. -/
def Builder.symbolsIn (builder : Builder) (declaration : Declaration)
    (bodySymbols : Scope → Workspace → List Symbol) (workspace : Workspace) : List Symbol :=
  match builder.start declaration workspace with
  | .error _ _ => []
  | .ok draft begun => bodySymbols draft.scope begun

/-- The symbols that the host makes by a script, nested ones included, in a body that has some
statements already. -/
def Script.symbols (builder : Builder) (owner : Symbol) :
    Script σ → List NodeId → Workspace → List Symbol
  | .done _ _, _, _ => []
  | .build operation next, statements, workspace =>
      let (outcome, after) := (builder.perform operation).attempt workspace
      symbols builder owner (next outcome) statements after
  | .push statement next, statements, workspace =>
      match Builder.addStatement workspace.tree statements statement with
      | .ok statements => symbols builder owner (next (.ok ())) statements workspace
      | .error error => symbols builder owner (next (.error error)) statements workspace
  | .pushReturn value next, statements, workspace =>
      match builder.ret owner value workspace with
      | .ok id after => symbols builder owner (next (.ok id)) (statements ++ [id]) after
      | .error error after => symbols builder owner (next (.error error)) statements after
  | .newSymbol signature next, statements, workspace =>
      let (symbol, supply) := workspace.supply.fresh signature
      symbol :: symbols builder owner (next symbol) statements { workspace with supply := supply }
  | .look next, statements, workspace =>
      symbols builder owner (next workspace.tree) statements workspace
  | .declare declaration body next, statements, workspace =>
      let (host, outcome, after) := builder.declare declaration body workspace
      builder.symbolsIn declaration (fun scope => symbols builder scope.owner (body scope) [])
          workspace ++
        symbols builder owner (next host outcome) statements after

/-- The symbols that the host makes in a job, that is in the body of a declaration. -/
def Job.symbols (builder : Builder) : Job → Workspace → List Symbol
  | perform _, _ => []
  | declare declaration body, workspace =>
      builder.symbolsIn declaration (fun scope => (body scope).symbols builder scope.owner [])
        workspace

/-! ### Moves -/

/-- What a host does that leaves the making of nodes to builders. -/
inductive Move : Type 1 where
  /-- A symbol is declared in some table. -/
  | declareSymbol (table : SymbolTable) (signature : Signature)
  | newSymbol (signature : Signature)
  | build (builder : Builder) (job : Job)
  | append (parent child : NodeId)
  | detach (child : NodeId)
  | generate (config : Config) (context : Context) (collector : Collector)

namespace Move

/-- The workspace after a move, whether the move succeeded or failed. -/
def apply : Move → Workspace → Workspace
  | declareSymbol table signature, workspace =>
      { workspace with supply := (table.declare workspace.supply signature).2.2 }
  | newSymbol signature, workspace => (Act.newSymbol signature).apply workspace
  | build builder job, workspace => (job.act builder).apply workspace
  | append parent child, workspace => (Act.append parent child).apply workspace
  | detach child, workspace => (Act.detach child).apply workspace
  | generate config context collector, workspace =>
      (Act.generate config context collector).apply workspace

/-- The symbols that the host makes in a move. -/
def symbols : Move → Workspace → List Symbol
  | declareSymbol table signature, workspace => [(table.declare workspace.supply signature).1]
  | newSymbol signature, workspace => [(workspace.supply.fresh signature).1]
  | build builder job, workspace => job.symbols builder workspace
  | _, _ => []

end Move

namespace Workspace

/-- The workspace after some moves, the first one first. -/
def afterMoves (workspace : Workspace) (moves : List Move) : Workspace :=
  moves.foldl (fun workspace move => move.apply workspace) workspace

/-- The symbols that the host makes in some moves. -/
def hostSymbols (workspace : Workspace) : List Move → List Symbol
  | [] => []
  | move :: rest => move.symbols workspace ++ hostSymbols (move.apply workspace) rest

end Workspace

/-! ### Bodies -/

section Bodies

open Build Builder

variable (builder : Builder) {workspace start : Workspace}

/-- The second half of a declaration. -/
theorem Builder.finish_advances (draft : Draft) (statements : List NodeId) :
    Steps (Advance builder.context.types) (builder.finish draft statements) start anything := by
  unfold finish
  refine (Template.advance_of_edits
    (builder.makeBody_steps statements (Nat.zero_le _))).bind fun _ _ _ _ => ?_
  refine (append_advances _ _).bind fun _ _ _ _ => ?_
  cases draft.property with
  | some property => exact (append_advances _ _).bind fun _ _ _ _ => .pure _ trivial
  | none =>
      exact (Template.advance_of_edits (note_steps _ _)).bind fun _ _ _ _ => .pure _ trivial

theorem Builder.perform_namings (operation : Operation) (workspace : Workspace) :
    Namings workspace ((builder.perform operation).attempt workspace).2 :=
  Advances.namings (Edits.advances (builder.perform_steps operation (Nat.zero_le _)).attempt)

theorem Builder.declare_namings (declaration : Declaration) (body : Scope → Script σ)
    (workspace : Workspace) :
    Namings workspace (builder.declare declaration body workspace).2.2 :=
  Advances.namings (Edits.advances (builder.declare_edits declaration body workspace))

theorem Script.run_namings (script : Script σ) (owner : Symbol) (statements : List NodeId)
    (workspace : Workspace) :
    Namings workspace (script.run builder owner statements workspace).2.2 :=
  Advances.namings (Edits.advances
    ((script.performs builder owner statements workspace).edits (Nat.zero_le _)))

/-- What the host makes in the body of a declaration is not declared when the declaration is done,
if it is not when the body is done. -/
theorem Builder.declare_unused (declaration : Declaration) (body : Scope → Script σ)
    (identified : workspace.Identified)
    (inside : ∀ scope (begun : Workspace), begun.Identified →
      ∀ symbol ∈ (body scope).symbols builder scope.owner [] begun,
        ((body scope).run builder scope.owner [] begun).2.2.Unused symbol) :
    ∀ symbol ∈ builder.symbolsIn declaration
        (fun scope => (body scope).symbols builder scope.owner []) workspace,
      (builder.declare declaration body workspace).2.2.Unused symbol := by
  intro symbol member
  unfold symbolsIn at member
  unfold declare declareWith
  cases started : builder.start declaration workspace with
  | error error after =>
      rw [started] at member
      cases member
  | ok draft begun =>
      rw [started] at member
      have starting := ((builder.start_steps declaration (Nat.zero_le _)).run_ok started).1
      have begunIdentified : begun.Identified :=
        Namings.identified (Advances.namings (Edits.advances starting)) identified
      have unused := inside draft.scope begun begunIdentified symbol member
      dsimp only
      rcases written : (body draft.scope).run builder draft.scope.owner [] begun with
        ⟨host, outcome, after⟩
      rw [written] at unused
      cases outcome with
      | error error => exact unused
      | ok statements =>
          exact Namings.unused
            (Advances.namings (builder.finish_advances draft statements).attempt) unused

/-- **What a host makes inside a body is declared by no node**, whether the body is accepted or
given up. By induction on the script, since what comes later in it declares no symbol that has been
handed out (`Namings.unused`). -/
theorem Script.unused (script : Script σ) : ∀ (owner : Symbol) (statements : List NodeId)
    (workspace : Workspace), workspace.Identified →
      ∀ symbol ∈ script.symbols builder owner statements workspace,
        (script.run builder owner statements workspace).2.2.Unused symbol := by
  induction script with
  | done host verdict =>
      intro owner statements workspace identified symbol member
      cases member
  | build operation next ih =>
      intro owner statements workspace identified symbol member
      refine ih _ owner statements _ ?_ symbol member
      exact Namings.identified (builder.perform_namings operation workspace) identified
  | push statement next ih =>
      intro owner statements workspace identified symbol member
      unfold symbols at member
      unfold run
      cases added : Builder.addStatement workspace.tree statements statement with
      | ok longer =>
          rw [added] at member
          exact ih _ owner longer workspace identified symbol member
      | error error =>
          rw [added] at member
          exact ih _ owner statements workspace identified symbol member
  | pushReturn value next ih =>
      intro owner statements workspace identified symbol member
      have namings := builder.perform_namings (.ret owner value) workspace
      rw [show builder.perform (.ret owner value) = builder.ret owner value from rfl] at namings
      unfold symbols at member
      unfold run
      cases done : builder.ret owner value workspace with
      | ok id after =>
          rw [done] at member
          rw [attempt_ok done] at namings
          exact ih _ owner _ after (Namings.identified namings identified) symbol member
      | error error after =>
          rw [done] at member
          rw [attempt_error done] at namings
          exact ih _ owner _ after (Namings.identified namings identified) symbol member
  | newSymbol signature next ih =>
      intro owner statements workspace identified symbol member
      have made : Naming workspace
          { workspace with supply := (workspace.supply.fresh signature).2 } :=
        .keep (Nat.le_succ _) fun _ => rfl
      obtain rfl | member := List.mem_cons.mp member
      · exact Namings.unused ((next _).run_namings builder owner statements _)
          (identified.unused_fresh signature)
      · exact ih _ owner statements _ (made.identified identified) symbol member
  | look next ih =>
      intro owner statements workspace identified symbol member
      exact ih _ owner statements workspace identified symbol member
  | declare declaration body next ihBody ihNext =>
      intro owner statements workspace identified symbol member
      have namings := builder.declare_namings declaration body workspace
      obtain inBody | later := List.mem_append.mp member
      · have unused := builder.declare_unused declaration body identified
          (fun scope begun begunIdentified => ihBody scope scope.owner [] begun begunIdentified)
          symbol inBody
        exact Namings.unused ((next _ _).run_namings builder owner statements _) unused
      · exact ihNext _ _ owner statements _ (Namings.identified namings identified) symbol later

end Bodies

/-! ### Runs -/

theorem Job.unused (builder : Builder) (job : Job) {workspace : Workspace}
    (identified : workspace.Identified) :
    ∀ symbol ∈ job.symbols builder workspace,
      ((job.act builder).apply workspace).Unused symbol := by
  cases job with
  | perform operation =>
      intro symbol member
      cases member
  | declare declaration body =>
      exact builder.declare_unused declaration body identified fun scope begun begunIdentified =>
        (body scope).unused builder scope.owner [] begun begunIdentified

namespace Move

theorem namings (move : Move) (workspace : Workspace) :
    Namings workspace (move.apply workspace) := by
  cases move with
  | declareSymbol table signature => exact .single (.keep (Nat.le_succ _) fun _ => rfl)
  | newSymbol signature => exact .single (.keep (Nat.le_succ _) fun _ => rfl)
  | build builder job =>
      cases job with
      | perform operation => exact builder.perform_namings operation workspace
      | declare declaration body => exact builder.declare_namings declaration body workspace
  | append parent child =>
      exact Advances.namings (Act.append_advances .builtin parent child workspace)
  | detach child =>
      refine .single (.keep ?_ fun id => ?_) <;>
        simp only [apply, detach_apply_eq]
      · exact le_rfl
      · split
        · exact Tree.labelOf_unlink _ _ child id
        · rfl
  | generate config context collector =>
      exact Advances.namings (generate_advances config context collector workspace)

/-- What a host makes in a move is declared by no node after the move. -/
theorem unused (move : Move) {workspace : Workspace} (identified : workspace.Identified) :
    ∀ symbol ∈ move.symbols workspace, (move.apply workspace).Unused symbol := by
  intro symbol member
  cases move with
  | declareSymbol table signature =>
      obtain rfl := List.mem_singleton.mp member
      exact identified.unused_fresh signature
  | newSymbol signature =>
      obtain rfl := List.mem_singleton.mp member
      exact identified.unused_fresh signature
  | build builder job => exact job.unused builder identified symbol member
  | append parent child => cases member
  | detach child => cases member
  | generate config context collector => cases member

end Move

namespace Workspace

variable {workspace : Workspace}

theorem namings_afterMoves (workspace : Workspace) (moves : List Move) :
    Namings workspace (workspace.afterMoves moves) := by
  induction moves generalizing workspace with
  | nil => exact .refl
  | cons move rest ih => exact (move.namings workspace).trans (ih _)

theorem Identified.unused_hostSymbols (identified : workspace.Identified) (moves : List Move) :
    ∀ symbol ∈ workspace.hostSymbols moves, (workspace.afterMoves moves).Unused symbol := by
  induction moves generalizing workspace with
  | nil =>
      intro symbol member
      cases member
  | cons move rest ih =>
      intro symbol member
      obtain now | later := List.mem_append.mp member
      · exact Namings.unused (namings_afterMoves _ rest) (move.unused identified symbol now)
      · exact ih (Namings.identified (move.namings workspace) identified) symbol later

end Workspace

/-- **Symbol identity.** After any moves of a host, on a module that was empty at first, no two
declarations of the tree have the same symbol, attached or not; none has a symbol that was handed
out before the tree was there, or that the host made for a table, for itself or inside a body; every
accessor has exactly one property; and every read has exactly one value parameter, whose name and
type it bears. -/
theorem identifies_afterMoves (name : Name) (supply : SymbolSupply) (log : Log)
    (moves : List Move) :
    let start := Workspace.ofModule name supply log
    (start.afterMoves moves).tree.Identifies fun symbol =>
      symbol.id.number < supply.next ∨ symbol ∈ start.hostSymbols moves := by
  intro start
  have begun : start.Identified := Workspace.identified_ofModule name supply log
  have namings := Workspace.namings_afterMoves start moves
  refine (Namings.identified namings begun).identifies ?_
  rintro symbol (earlier | made)
  · exact Namings.unused namings (Workspace.unused_ofModule name supply log earlier)
  · exact begun.unused_hostSymbols moves symbol made

end DeclTree
