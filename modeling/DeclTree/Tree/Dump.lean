/-
A subtree as text, one line for each node, indented by its depth. The layout with braces encloses
each node together with its children.
-/

import DeclTree.Tree.Line
import DeclTree.Tree.Walk

namespace DeclTree

/-- How the nodes of a subtree are set out. -/
inductive Layout where
  /-- A line for each node. -/
  | plain
  /-- A line for each node that opens a brace, and a line that closes it. -/
  | braces
deriving DecidableEq, Repr

namespace Layout

/-- What stands behind the line of a node. -/
def opening : Layout → String
  | plain => "\n"
  | braces => " \x7b\n"

/-- What stands behind the children of a node whose line has this indent. -/
def closing (indent : String) : Layout → String
  | plain => ""
  | braces => indent ++ "\x7d\n"

end Layout

/-- The indent of the children of a node. -/
def childIndent (indent : String) : String := "  " ++ indent

/-- The line of a node, or a remark in its place if there is no such node. -/
def Tree.lineOrRemark (tree : Tree) (id : NodeId) : String :=
  match tree.line id with
  | .ok line => line
  | .error error => "<malformed node: " ++ error.message ++ ">"

/-- Writes every node behind what was written before. The data of a node are its indent. -/
def dumper (layout : Layout) : Visitor String String where
  element tree id indent out :=
    (.descend (childIndent indent), out ++ indent ++ tree.lineOrRemark id ++ layout.opening)
  leave _ _ indent out := out ++ layout.closing indent

/-- A subtree in some layout, its first line behind some indent. -/
def Tree.dumpWith (tree : Tree) (layout : Layout) (id : NodeId) (indent : String) :
    Except TreeError String :=
  tree.walk (dumper layout) id indent ""

/-- A subtree with a line for each node. -/
def Tree.dump (tree : Tree) (id : NodeId) : Except TreeError String :=
  tree.dumpWith .plain id ""

end DeclTree
