/-
The generator. It adds to a module the function `main`, which does nothing, and the property `test`,
whose getter returns 4 and whose setter prints the value. A module is generated into once; both
declarations are built and verified before the first of them is attached, so that a run that fails
attaches nothing.
-/

import DeclTree.Build.Script
import DeclTree.Generate.Diagnostics
import DeclTree.Tree.Verify

namespace DeclTree

/-! ### Conditions -/

/-- Whether a node is the function `main` of an earlier run. -/
def Node.isGeneratedMain (node : Node) : Bool :=
  node.tag = .function && node.name.text = "main" && node.annotations.contains .generated

/-- Checks that no earlier run has generated into the module. -/
def Tree.checkNotGenerated (tree : Tree) : Except TreeError Unit := do
  let root ← tree.node .root
  if (root.children.filterMap tree.node?).any Node.isGeneratedMain then
    .error (.violation (.alreadyGenerated root.name))
  else .ok ()

/-- Whether a symbol has one parameter, which takes any value. -/
def Symbol.takesAnything (symbol : Symbol) : Bool := symbol.parameters = [Ty.anyNullable]

/-- The overload of a name that fits, which is noted in the log. -/
def Context.lookUp (context : Context) (name : QualName) (fits : Symbol → Bool) : Build Symbol := do
  let symbol ← Build.ofExcept (context.symbols.resolve name fits)
  Build.note .symbols
    ("resolved " ++ name.text ++ " to SymbolId(" ++ Nat.repr symbol.id.number ++ ")")
  return symbol

namespace Template

/-! ### Declarations -/

/-- `fun main(): Unit` without statements. -/
def buildMain (builder : Builder) : Build NodeId :=
  builder.build (.function { name := .identifier "main", result := .unit }) fun _ => .empty

/-- The body of the getter: 4 is returned. -/
def getterBody : Script Unit :=
  .buildThen (.literal (.int 4)) .returnLast

/-- The body of the setter: the value is read and printed. -/
def setterBody (println : Symbol) (scope : Scope) : Script Unit :=
  match scope.parameters with
  | value :: _ =>
      .buildThen (.get value) fun argument =>
        .buildThen (.call println [argument]) .pushLast
  | [] => .empty

/-- `var test: Int` with both accessors. -/
def buildTest (builder : Builder) (println : Symbol) : Build NodeId := do
  let property ← builder.property { name := .identifier "test", ty := .int, isVar := true }
  let _ ← builder.build (.getter property) fun _ => getterBody
  let _ ← builder.build (.setter property) (setterBody println)
  return property

/-- Builds both declarations and marks them as generated. -/
def buildAll (context : Context) (println : Symbol) : Build (List NodeId) := do
  let builder : Builder := { context := context }
  let main ← buildMain builder
  let test ← buildTest builder println
  let declarations := [main, test]
  declarations.forM fun id => Builder.annotate id .generated []
  return declarations

/-! ### A run -/

/-- Attaches a declaration to the module. -/
def attach (declaration : NodeId) : Build Unit := do
  Build.append .root declaration
  let line ← Build.ofExcept ((← Build.tree).line declaration)
  Build.note .generator ("attached " ++ line)

/-- Builds, verifies and attaches the declarations. -/
def run (context : Context) : Build Unit := do
  Build.ofExcept (← Build.tree).checkNotGenerated
  let println ← context.lookUp println Symbol.takesAnything
  let declarations ← buildAll context println
  let tree ← Build.tree
  Build.ofExcept (declarations.forM (tree.verify context.types))
  declarations.forM attach

/-- The message with which a run ends that succeeds. -/
def closingMessage : Message := ⟨.info, "generated 2 declarations"⟩

end Template

/-- Runs the generator over the module of a workspace: the outcome, and the collector and the
workspace afterwards. -/
def generate (config : Config) (context : Context) (collector : Collector) (workspace : Workspace) :
    Except TreeError Unit × Collector × Workspace :=
  let (collector, log) :=
    collector.report (config.openingMessages workspace.tree) workspace.log
  match Template.run context { workspace with log := log } with
  | .error error workspace => (.error error, collector, workspace)
  | .ok _ workspace =>
      let (collector, log) := collector.report [Template.closingMessage] workspace.log
      (.ok (), collector, { workspace with log := log })

end DeclTree
