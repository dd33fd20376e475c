/-
The arguments of the command line. An argument is an option, a cluster of short flags, or a plain
word. Arguments are taken in their order, and the first one that settles the matter does: a wrong
one makes the whole line wrong, and a request for the version or for help is granted whatever
follows.
-/

namespace DeclTree.Cli

/-! ### What is asked for -/

/-- How the generated module is shown. -/
inductive Format where
  | text
  | json
deriving DecidableEq, Repr

/-- What is given to the generator on the command line. -/
structure GenerateOptions where
  string : String := ""
  file : String := ""
  /-- The path of a file with a configuration. -/
  config : Option String := none
  dumpTree : Bool := false
  /-- Whether to begin with the sample module. -/
  sample : Bool := false
  format : Format := .text
deriving DecidableEq, Repr

/-- What the program is to do. -/
inductive Command where
  /-- Run the generator and show the module. -/
  | generate (options : GenerateOptions)
  /-- List the known declarations, or those of one name. -/
  | symbols (name : Option String)
deriving DecidableEq, Repr

/-- What a command line asks for. -/
inductive Request where
  | version
  | help
  | run (command : Command)
deriving DecidableEq, Repr

/-! ### Single arguments -/

/-- An argument by its outer form. -/
inductive Argument where
  /-- Two dashes: what follows are plain words. -/
  | escape
  /-- Two dashes and a name, perhaps with a value behind an equals sign. -/
  | long (name : String) (value : Option String)
  /-- One dash and letters. -/
  | short (letters : List Char)
  /-- Anything else, one dash alone included. -/
  | plain (text : String)
deriving DecidableEq, Repr

namespace Argument

/-- The name of an option, and its value if there is an equals sign. -/
def ofLong (cs : List Char) : Argument :=
  let name := String.ofList (cs.takeWhile (· ≠ '='))
  match cs.dropWhile (· ≠ '=') with
  | [] => .long name none
  | _ :: value => .long name (some (String.ofList value))

/-- The form of an argument. -/
def ofText (text : String) : Argument :=
  match text.toList with
  | ['-', '-'] => .escape
  | '-' :: '-' :: cs => ofLong cs
  | ['-'] => .plain text
  | '-' :: letters => .short letters
  | _ => .plain text

/-- Whether an argument can be the value of the option before it. -/
def isPlain : Argument → Bool
  | .plain _ => true
  | _ => false

end Argument

/-! ### Lines of arguments -/

/-- An argument in its place on the line. -/
inductive Item where
  | flag (name : String)
  | option (name value : String)
  | short (letters : List Char)
  | word (text : String)
  /-- An option without its value, or a flag with one. -/
  | wrong
deriving DecidableEq, Repr

/-- The items of a line. An option that takes a value has it behind an equals sign or as the next
argument. -/
def Item.ofArguments (takesValue : String → Bool) : List String → List Item
  | [] => []
  | argument :: rest =>
      match Argument.ofText argument with
      | .escape => rest.map .word
      | .long name (some value) =>
          if takesValue name then .option name value :: ofArguments takesValue rest else [.wrong]
      | .long name none =>
          if takesValue name then
            match rest with
            | value :: rest =>
                if (Argument.ofText value).isPlain then
                  .option name value :: ofArguments takesValue rest
                else [.wrong]
            | [] => [.wrong]
          else .flag name :: ofArguments takesValue rest
      | .short letters => .short letters :: ofArguments takesValue rest
      | .plain text => .word text :: ofArguments takesValue rest

/-- What comes of a cluster of short flags: the line goes on, or the matter is settled. -/
inductive ShortFlags where
  | goOn (verbose : Bool)
  | settled (request : Request)
deriving DecidableEq, Repr

/-- Takes the short flags of a cluster. A flag may be given once; the version may be asked for only
before the command. -/
def ShortFlags.ofLetters (beforeCommand : Bool) (verbose : Bool) : List Char → Option ShortFlags
  | [] => some (.goOn verbose)
  | 'v' :: rest => if verbose then none else ofLetters beforeCommand true rest
  | 'V' :: _ => if beforeCommand then some (.settled .version) else none
  | 'h' :: _ => some (.settled .help)
  | _ :: _ => none

/-! ### The command `generate` -/

/-- What has been given to `generate` so far. Nothing may be given twice. -/
structure GenerateLine where
  string : Option String := none
  file : Option String := none
  config : Option String := none
  format : Option Format := none
  dumpTree : Bool := false
  sample : Bool := false
  verbose : Bool := false
deriving DecidableEq, Repr

namespace GenerateLine

/-- The options of `generate` that take a value. -/
def takesValue (name : String) : Bool := name ∈ ["string", "file", "config", "format"]

/-- The format of a name. -/
def format? (name : String) : Option Format :=
  if name = "text" then some .text else if name = "json" then some .json else none

/-- The line with one more option. The path of a file is not empty. -/
def option? (line : GenerateLine) (name value : String) : Option GenerateLine :=
  if name = "string" ∧ line.string = none then some { line with string := some value }
  else if name = "file" ∧ line.file = none then some { line with file := some value }
  else if name = "config" ∧ line.config = none ∧ value ≠ "" then
    some { line with config := some value }
  else if name = "format" ∧ line.format = none then
    (format? value).map fun format => { line with format := some format }
  else none

/-- The line with one more flag. -/
def flag? (line : GenerateLine) (name : String) : Option GenerateLine :=
  if name = "dump-tree" ∧ line.dumpTree = false then some { line with dumpTree := true }
  else if name = "sample" ∧ line.sample = false then some { line with sample := true }
  else if name = "verbose" ∧ line.verbose = false then some { line with verbose := true }
  else none

/-- What is given in the end. What is missing is empty, and the format is text. -/
def options (line : GenerateLine) : GenerateOptions where
  string := line.string.getD ""
  file := line.file.getD ""
  config := line.config
  dumpTree := line.dumpTree
  sample := line.sample
  format := line.format.getD .text

/-- Takes the items behind `generate`. There are no plain words among them. -/
def request? (line : GenerateLine) : List Item → Option Request
  | [] => some (.run (.generate line.options))
  | .flag "help" :: _ => some .help
  | .flag name :: rest => (line.flag? name).bind fun line => request? line rest
  | .option name value :: rest => (line.option? name value).bind fun line => request? line rest
  | .short letters :: rest =>
      match ShortFlags.ofLetters false line.verbose letters with
      | some (.goOn verbose) => request? { line with verbose := verbose } rest
      | some (.settled request) => some request
      | none => none
  | .word _ :: _ => none
  | .wrong :: _ => none

end GenerateLine

/-! ### The command `symbols` -/

/-- Takes the items behind `symbols`, among them one plain word at most. -/
def symbolsRequest? (verbose : Bool) (name : Option String) : List Item → Option Request
  | [] => some (.run (.symbols name))
  | .flag "help" :: _ => some .help
  | .flag "verbose" :: rest => if verbose then none else symbolsRequest? true name rest
  | .flag _ :: _ => none
  | .option .. :: _ => none
  | .short letters :: rest =>
      match ShortFlags.ofLetters false verbose letters with
      | some (.goOn verbose) => symbolsRequest? verbose name rest
      | some (.settled request) => some request
      | none => none
  | .word text :: rest =>
      match name with
      | none => symbolsRequest? verbose (some text) rest
      | some _ => none
  | .wrong :: _ => none

/-! ### The whole line -/

/-- The arguments behind `help`: nothing, or one of the commands. -/
def helpRequest? : List String → Option Request
  | [] => some .help
  | [name] => if name ∈ ["generate", "symbols", "help"] then some .help else none
  | _ => none

/-- Takes the arguments up to the command. -/
def requestFrom? (verbose : Bool) : List String → Option Request
  | [] => none
  | argument :: rest =>
      match Argument.ofText argument with
      | .long "verbose" none => if verbose then none else requestFrom? true rest
      | .long "version" none => some .version
      | .long "help" none => some .help
      | .long _ _ => none
      | .escape => none
      | .short letters =>
          match ShortFlags.ofLetters true verbose letters with
          | some (.goOn verbose) => requestFrom? verbose rest
          | some (.settled request) => some request
          | none => none
      | .plain "generate" =>
          GenerateLine.request? {} (Item.ofArguments GenerateLine.takesValue rest)
      | .plain "symbols" => symbolsRequest? false none (Item.ofArguments (fun _ => false) rest)
      | .plain "help" => helpRequest? rest
      | .plain _ => none

/-- What a command line asks for, if it is right. -/
def Request.ofArguments? (arguments : List String) : Option Request :=
  requestFrom? false arguments

end DeclTree.Cli
