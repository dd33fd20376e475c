/-
The entry of the program: it reads its arguments and its surroundings, and writes what `Cli.run`
says.
-/

import DeclTree.Cli.Run

namespace DeclTree.Cli

/-- Reads a whole file. -/
def readWholeFile (path : String) : IO (Except FileFault String) := do
  try
    let bytes ← IO.FS.readBinFile path
    return match String.fromUTF8? bytes with
      | some text => .ok text
      | none => .error .notText
  catch error =>
    return .error <|
      match error with
      | .permissionDenied .. => .denied
      | .inappropriateType _ code _ => if code = 21 then .isDirectory else .notDirectory
      | .invalidArgument .. => .nameTooLong
      | _ => .missing

/-- The file that the arguments name, read before the program runs. -/
def configFile (arguments : List String) : IO (String → Except FileFault String) := do
  match Request.ofArguments? arguments with
  | some (.run (.generate { config := some path, .. })) => do
      let content ← readWholeFile path
      return fun asked => if asked = path then content else .error .missing
  | _ => return fun _ => .error .missing

/-- The threshold of the log that a word stands for. -/
def thresholdOf : String → Option LogLevel
  | "off" => none
  | "error" => some .error
  | "warn" => some .warn
  | "debug" => some .debug
  | "trace" => some .trace
  | _ => some .info

/-- The surroundings of this process. -/
def surroundings (arguments : List String) : IO Surroundings := do
  let level ← IO.getEnv "IRGEN_LOG"
  let colour ← IO.getEnv "CLICOLOR_FORCE"
  return {
    textOf := ← configFile arguments
    threshold := thresholdOf (level.getD "info")
    coloured := colour.any (· ≠ "0") }

end DeclTree.Cli

open DeclTree.Cli in
/-- Runs the program. -/
def main (arguments : List String) : IO UInt32 := do
  let output := run (← surroundings arguments) arguments
  (← IO.getStdout).putStr output.stdout
  (← IO.getStderr).putStr output.stderr
  return output.exitCode.toUInt32
