/-
The program behind the command line, as a function from its arguments and its surroundings to what
it writes and how it exits. The result goes to the standard output, the log and errors to the
standard error.
-/

import DeclTree.Cli.Arguments
import DeclTree.Cli.Files
import DeclTree.Session
import DeclTree.Text.Plain
import DeclTree.Tree.View

namespace DeclTree.Cli

/-! ### Surroundings and results -/

/-- What the program has around it. -/
structure Surroundings where
  /-- The text of a file. -/
  textOf : String → Except FileFault String
  /-- The lightest level of the log that is written, if any is. -/
  threshold : Option LogLevel := some .info
  /-- Whether the output is coloured. -/
  coloured : Bool := false

/-- What a run of the program leaves behind. -/
structure Output where
  exitCode : Nat
  stdout : String
  stderr : String
deriving DecidableEq, Repr

/-- What a command gives: the text of its result or the reason of its failure, and the log. -/
structure Report where
  result : Except String String
  log : Log

/-! ### Writing -/

/-- A text in a graphic rendition, between its escape sequence and the one that ends it. -/
def Surroundings.paint (surroundings : Surroundings) (rendition text : String) : String :=
  if surroundings.coloured then "\x1b[" ++ rendition ++ "m" ++ text ++ "\x1b[0m" else text

/-- A message of several lines, all but the first indented by four blanks. -/
def indentLines (message : String) : String :=
  String.ofList (message.toList.flatMap fun c => if c = '\n' then "\n    ".toList else [c])

/-- A level, filled up to five places. -/
def levelField (level : LogLevel) : String :=
  level.text ++ String.ofList (List.replicate (5 - level.text.length) ' ')

/-- A record on its lines, as plain text: a message can do nothing to the terminal. -/
def recordLines (entry : LogRecord) : String :=
  Text.plain
    ("[" ++ levelField entry.level ++ " " ++ entry.source.text ++ "] " ++
      indentLines entry.message ++ "\n")

/-- Whether a record is written. -/
def Surroundings.admits (surroundings : Surroundings) (entry : LogRecord) : Bool :=
  surroundings.threshold.any fun lightest => decide (entry.level.rank ≤ lightest.rank)

/-- The log as it is written. -/
def Surroundings.logText (surroundings : Surroundings) (log : Log) : String :=
  String.join ((log.filter surroundings.admits).map recordLines)

/-! ### The command `generate` -/

/-- Reads the configuration in a file. -/
def readConfig (surroundings : Surroundings) (path : String) : Except String Config :=
  match surroundings.textOf path with
  | .error fault =>
      .error ("Failed to read config file: " ++ Text.quote path ++ ": " ++ fault.message)
  | .ok text =>
      match Json.readAs? Config text with
      | some config => .ok config
      | none =>
          .error ("Invalid generator config: " ++ Text.quote path ++ ": not a configuration")

/-- The configuration that the options come to: what is given on the line goes before what is in the
file. -/
def effectiveConfig (surroundings : Surroundings) (options : GenerateOptions) :
    Except String Config := do
  let config ←
    match options.config with
    | some path => readConfig surroundings path
    | none => .ok {}
  return {
    string := if options.string = "" then config.string else options.string
    file := if options.file = "" then config.file else options.file
    dumpTree := config.dumpTree || options.dumpTree }

/-- The body of the getter of the sample property: 0 is returned. -/
def sampleGetterBody : Script Unit :=
  .buildThen (.literal (.int 0)) .returnLast

/-- Builds the property of the sample module, `@SuspendProp var counter: Int`. -/
def buildSample (context : Context) : Build Unit := do
  let builder : Builder := { context := context, package := ⟨"sample"⟩ }
  let property ← builder.property { name := .identifier "counter", ty := .int, isVar := true }
  let _ ← builder.build (.getter property) fun _ => sampleGetterBody
  Builder.annotate property .suspendProp []
  Build.append .root property

/-- A session with the module that generation begins with. -/
def openModule (sample : Bool) : Except TreeError Session :=
  if sample then
    let session := Session.startStandard {} (.special "<sample>")
    match session.perform (buildSample session.context) with
    | (.ok _, session) => .ok session
    | (.error error, _) => .error error
  else .ok (Session.startStandard {} (.special "<main>"))

/-- The session with the record of a run being about to begin. -/
def noteStart (config : Config) (session : Session) : Session :=
  let message :=
    "Running generator (string=" ++ Text.quote config.string ++ ", file=" ++
      Text.quote config.file ++ ")"
  { session with
    workspace :=
      { session.workspace with log := session.workspace.log ++ [⟨.info, .commandLine, message⟩] } }

/-- The module in some format. -/
def showModule (format : Format) (tree : Tree) : Except TreeError String :=
  match format with
  | .text => tree.dump .root
  | .json => (tree.dumpJson .root).map (· ++ "\n")

/-- The result of a generation: the module under a heading, and the good news. -/
def generateText (surroundings : Surroundings) (shown : String) : String :=
  surroundings.paint "1;34" "=== IR ===" ++ "\n" ++ shown ++
    surroundings.paint "1;32" "success" ++ ": generation finished\n"

/-- Generates into a module and shows it. -/
def runGenerate (surroundings : Surroundings) (options : GenerateOptions) : Report :=
  match effectiveConfig surroundings options with
  | .error reason => ⟨.error reason, []⟩
  | .ok config =>
      match openModule options.sample with
      | .error error => ⟨.error error.message, []⟩
      | .ok session =>
          match (noteStart config session).generate config .log with
          | (.error error, _, session) =>
              ⟨.error ("IR generation failed: " ++ error.message), session.workspace.log⟩
          | (.ok _, _, session) =>
              match showModule options.format session.tree with
              | .error error => ⟨.error error.message, session.workspace.log⟩
              | .ok shown => ⟨.ok (generateText surroundings shown), session.workspace.log⟩

/-! ### The command `symbols` -/

/-- The line of one declaration. -/
def symbolLine (surroundings : Surroundings) (symbol : Symbol) : String :=
  surroundings.paint "36" symbol.name.text ++ " (" ++
    String.intercalate ", " (symbol.parameters.map Ty.text) ++ "): " ++ symbol.result.text ++ "\n"

/-- The lines of the declarations of a name, of which there has to be one. -/
def symbolLines (surroundings : Surroundings) (table : SymbolTable) (name : QualName) :
    Except String String :=
  match table.references name with
  | [] => .error ("No declarations named " ++ name.text)
  | symbols => .ok (String.join (symbols.map (symbolLine surroundings)))

/-- Lists the declarations of the standard library, or those of one name. -/
def runSymbols (surroundings : Surroundings) (name : Option String) : Report :=
  let context := (Context.standard {}).1
  let names : List QualName :=
    match name with
    | some name => [⟨name⟩]
    | none => [println, print]
  ⟨(names.mapM (symbolLines surroundings context.symbols)).map String.join, [context.startRecord]⟩

/-! ### The program -/

/-- Does a command. -/
def runCommand (surroundings : Surroundings) : Command → Report
  | .generate options => runGenerate surroundings options
  | .symbols name => runSymbols surroundings name

/-- What a report comes to outside. -/
def Report.output (surroundings : Surroundings) (report : Report) : Output :=
  let log := surroundings.logText report.log
  match report.result with
  | .ok text => ⟨0, text, log⟩
  | .error reason =>
      ⟨1, "", log ++ surroundings.paint "1;31" "error" ++ ": " ++ reason ++ "\n"⟩

/-- How the program is called. -/
def usage : String :=
  "Usage: irgen [-v] generate [--string S] [--file F] [--config PATH] [--dump-tree] [--sample] " ++
    "[--format text|json]\n       irgen [-v] symbols [NAME]\n"

/-- Runs the program with some arguments. -/
def run (surroundings : Surroundings) (arguments : List String) : Output :=
  match Request.ofArguments? arguments with
  | none => ⟨2, "", "error: wrong arguments\n\n" ++ usage⟩
  | some .version => ⟨0, "irgen 0.1.0\n", ""⟩
  | some .help => ⟨0, usage, ""⟩
  | some (.run command) => (runCommand surroundings command).output surroundings

end DeclTree.Cli
