/-
A session: a host's context together with the workspace on which it lets a builder and a generator
work. The context can grow by classes and declarations; all else happens in the workspace.
-/

import DeclTree.Generate.Template

namespace DeclTree

/-- A context and the workspace that goes with it. -/
structure Session where
  context : Context
  workspace : Workspace

namespace Session

variable {α : Type}

/-- A session with a module that is empty, in some context. -/
def start (context : Context) (supply : SymbolSupply) (moduleName : Name) : Session :=
  ⟨context, ⟨Tree.ofModule moduleName, supply, []⟩⟩

/-- A session in the standard context. -/
def startStandard (supply : SymbolSupply) (moduleName : Name) : Session :=
  let (context, supply) := Context.standard supply
  ⟨context, ⟨Tree.ofModule moduleName, supply, [context.startRecord]⟩⟩

/-- The tree of a session. -/
def tree (session : Session) : Tree := session.workspace.tree

/-- Does some work in the workspace. -/
def perform (session : Session) (work : Build α) : Except TreeError α × Session :=
  let (outcome, workspace) := work.attempt session.workspace
  (outcome, { session with workspace := workspace })

/-- Builds a declaration. -/
def declare (session : Session) (package : QualName) (declaration : Declaration)
    (body : Scope → Script α) : Option α × Except TreeError NodeId × Session :=
  let builder : Builder := ⟨session.context, package⟩
  let (host, outcome, workspace) := builder.declare declaration body session.workspace
  (host, outcome, { session with workspace := workspace })

/-- Runs the generator. -/
def generate (session : Session) (config : Config) (collector : Collector) :
    Except TreeError Unit × Collector × Session :=
  let (outcome, collector, workspace) :=
    DeclTree.generate config session.context collector session.workspace
  (outcome, collector, { session with workspace := workspace })

/-- Makes a class known. -/
def registerClass (session : Session) (classifier : QualName) : Ty × Session :=
  (.ofClass classifier,
    { session with
      context := { session.context with types := session.context.types.register classifier } })

/-- Puts a symbol into the table. -/
def insertSymbol (session : Session) (symbol : Symbol) : Session :=
  { session with
    context := { session.context with symbols := session.context.symbols.insert symbol } }

/-- Puts a new symbol into the table. -/
def declareSymbol (session : Session) (signature : Signature) : Symbol × Session :=
  let (symbol, table, supply) :=
    session.context.symbols.declare session.workspace.supply signature
  (symbol,
    ⟨{ session.context with symbols := table }, { session.workspace with supply := supply }⟩)

end Session

end DeclTree
