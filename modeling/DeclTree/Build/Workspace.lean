/-
What a builder works on: a tree, a supply of symbols and a log. A `Build` may fail; what it did to
the workspace before it failed stays done.
-/

import DeclTree.Log
import DeclTree.Tree.Attach

namespace DeclTree

/-- The tree under construction, the symbols still to be handed out, and the log so far. -/
structure Workspace where
  tree : Tree
  supply : SymbolSupply
  log : Log

/-- Work on a workspace that gives an `α` or an error. -/
abbrev Build (α : Type) := EStateM TreeError Workspace α

namespace Build

variable {α : Type}

/-- The outcome of some work, and the workspace after it. -/
def attempt (work : Build α) (workspace : Workspace) : Except TreeError α × Workspace :=
  match work workspace with
  | .ok value workspace => (.ok value, workspace)
  | .error error workspace => (.error error, workspace)

/-- Goes on with the value, or fails with the error. -/
def ofExcept : Except TreeError α → Build α
  | .ok value => pure value
  | .error error => throw error

/-- Fails because a rule was not kept. -/
def violate (cause : Violation) : Build α := throw (.violation cause)

/-! ### The tree -/

/-- The tree as it is now. -/
def tree : Build Tree := fun workspace => .ok workspace.tree workspace

/-- Puts another tree in the place of the tree. -/
def changeTree (change : Tree → Tree) : Build Unit :=
  modify fun workspace => { workspace with tree := change workspace.tree }

/-- Makes a node without parent and children. -/
def create (types : TypeUniverse) (kind : NodeKind) (name : Name) (ty : Ty) : Build NodeId := do
  ofExcept (types.resolve ty)
  modifyGet fun workspace =>
    let (id, tree) := workspace.tree.push { kind := kind, name := name, ty := ty }
    (id, { workspace with tree := tree })

/-- Attaches a node as the last child of another one. -/
def append (parent child : NodeId) : Build Unit := do
  ofExcept ((← tree).checkAttachable parent child)
  changeTree (·.link parent child)

/-- Attaches several nodes, the first one first. -/
def appendAll (parent : NodeId) (children : List NodeId) : Build Unit :=
  children.forM (append parent)

/-- Takes a node from its parent. -/
def detach (child : NodeId) : Build Unit := do
  let detached ← ofExcept ((← tree).detach child)
  changeTree fun _ => detached

/-- Puts an annotation on a node. -/
def annotate (id : NodeId) (tag : AnnotationTag) (arguments : List Literal) : Build Unit := do
  let _ ← ofExcept ((← tree).node id)
  changeTree (·.putTag id tag arguments)

/-! ### Symbols and the log -/

/-- A symbol that is the same as no other one. -/
def newSymbol (signature : Signature) : Build Symbol :=
  modifyGet fun workspace =>
    let (symbol, supply) := workspace.supply.fresh signature
    (symbol, { workspace with supply := supply })

/-- Writes a record to the log. -/
def note (source : LogSource) (message : String) : Build Unit :=
  modify fun workspace => { workspace with log := workspace.log ++ [⟨.debug, source, message⟩] }

end Build

end DeclTree
