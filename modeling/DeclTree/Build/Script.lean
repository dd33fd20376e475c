/-
Scripts: how a host writes a body. A `Script` is what the host does next, given how all that it did
before turned out, so a host can react to errors and can build declarations, with bodies of their
own, while it writes a body. `Script.run` does what a script says, and `Builder.declare` builds a
declaration whose body is written by one.
-/

import DeclTree.Build.Declaration

namespace DeclTree

/-- What a host does inside a body. At the end it hands over a `σ` of its own. -/
inductive Script (σ : Type) where
  /-- Ends the body: it is accepted as it is, or given up. -/
  | done (host : σ) (verdict : Except TreeError Unit)
  /-- Has the builder do something. -/
  | build (operation : Operation) (next : Except TreeError NodeId → Script σ)
  /-- Adds a statement. -/
  | push (statement : NodeId) (next : Except TreeError Unit → Script σ)
  /-- Adds the return of a value from the declaration that the body is for. -/
  | pushReturn (value : NodeId) (next : Except TreeError NodeId → Script σ)
  /-- Makes a symbol of the host's own. -/
  | newSymbol (signature : Signature) (next : Symbol → Script σ)
  /-- Looks at the tree. -/
  | look (next : Tree → Script σ)
  /-- Builds a declaration. What its body hands over is there if the body was begun. -/
  | declare (declaration : Declaration) (body : Scope → Script σ)
      (next : Option σ → Except TreeError NodeId → Script σ)

variable {σ : Type}

namespace Builder

/-- Checks that a statement may be added to a body, and adds it. -/
def addStatement (tree : Tree) (statements : List NodeId) (statement : NodeId) :
    Except TreeError (List NodeId) :=
  if statement ∈ statements then .error (.violation (.pushedTwice statement))
  else (checkUnlinked tree statement).map fun _ => statements ++ [statement]

/-- Builds a declaration whose body is written by `writeBody`: what the writer hands over, if the
body was begun, the outcome, and the workspace afterwards. -/
def declareWith (builder : Builder) (declaration : Declaration)
    (writeBody : Scope → Workspace → σ × Except TreeError (List NodeId) × Workspace)
    (workspace : Workspace) : Option σ × Except TreeError NodeId × Workspace :=
  match builder.start declaration workspace with
  | .error error workspace => (none, .error error, workspace)
  | .ok draft workspace =>
      match writeBody draft.scope workspace with
      | (host, .error error, workspace) => (some host, .error error, workspace)
      | (host, .ok statements, workspace) =>
          (some host, (builder.finish draft statements).attempt workspace)

end Builder

namespace Script

/-- Does what a script says in a body that has some statements already: what the host hands over,
the statements of the body or the error for which it was given up, and the workspace afterwards.
-/
def run (builder : Builder) (owner : Symbol) :
    Script σ → List NodeId → Workspace → σ × Except TreeError (List NodeId) × Workspace
  | .done host verdict, statements, workspace =>
      (host, verdict.map fun _ => statements, workspace)
  | .build operation next, statements, workspace =>
      let (outcome, workspace) := (builder.perform operation).attempt workspace
      run builder owner (next outcome) statements workspace
  | .push statement next, statements, workspace =>
      match Builder.addStatement workspace.tree statements statement with
      | .ok statements => run builder owner (next (.ok ())) statements workspace
      | .error error => run builder owner (next (.error error)) statements workspace
  | .pushReturn value next, statements, workspace =>
      match builder.ret owner value workspace with
      | .ok id workspace => run builder owner (next (.ok id)) (statements ++ [id]) workspace
      | .error error workspace => run builder owner (next (.error error)) statements workspace
  | .newSymbol signature next, statements, workspace =>
      let (symbol, supply) := workspace.supply.fresh signature
      run builder owner (next symbol) statements { workspace with supply := supply }
  | .look next, statements, workspace =>
      run builder owner (next workspace.tree) statements workspace
  | .declare declaration body next, statements, workspace =>
      let (host, outcome, workspace) := builder.declareWith declaration
        (fun scope => run builder scope.owner (body scope) []) workspace
      run builder owner (next host outcome) statements workspace

/-! ### Scripts that end with the first error -/

/-- Goes on with the node that the builder makes, or gives the body up. -/
def buildThen (operation : Operation) (next : NodeId → Script Unit) : Script Unit :=
  .build operation fun outcome =>
    match outcome with
    | .ok id => next id
    | .error error => .done () (.error error)

/-- Adds a statement and ends the body. -/
def pushLast (statement : NodeId) : Script Unit := .push statement (.done ())

/-- Adds the return of a value and ends the body. -/
def returnLast (value : NodeId) : Script Unit :=
  .pushReturn value fun outcome => .done () (outcome.map fun _ => ())

/-- The body without statements. -/
def empty : Script Unit := .done () (.ok ())

end Script

/-- Builds a declaration whose body is written by a script. -/
def Builder.declare (builder : Builder) (declaration : Declaration) (body : Scope → Script σ)
    (workspace : Workspace) : Option σ × Except TreeError NodeId × Workspace :=
  builder.declareWith declaration
    (fun scope => Script.run builder scope.owner (body scope) []) workspace

/-- Builds a declaration whose body is written by a script that hands nothing over. -/
def Builder.build (builder : Builder) (declaration : Declaration) (body : Scope → Script Unit) :
    Build NodeId := fun workspace =>
  match builder.declare declaration body workspace with
  | (_, .ok id, workspace) => .ok id workspace
  | (_, .error error, workspace) => .error error workspace

end DeclTree
