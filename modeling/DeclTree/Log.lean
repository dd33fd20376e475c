/-
The log: records of what was done, each with a level and the part of the program that wrote it.
-/

namespace DeclTree

/-- How weighty a record is, the weightiest first. -/
inductive LogLevel where
  | error
  | warn
  | info
  | debug
  | trace
deriving DecidableEq, Repr

namespace LogLevel

/-- The place of a level in the order of weight, the weightiest lowest. -/
def rank : LogLevel → Nat
  | error => 1
  | warn => 2
  | info => 3
  | debug => 4
  | trace => 5

/-- The word for a level. -/
def text : LogLevel → String
  | error => "ERROR"
  | warn => "WARN"
  | info => "INFO"
  | debug => "DEBUG"
  | trace => "TRACE"

end LogLevel

/-- The part of the program that a record comes from. -/
inductive LogSource where
  | commandLine
  | context
  | diagnostics
  | symbols
  | declarations
  | generator
deriving DecidableEq, Repr

/-- The word for a source. -/
def LogSource.text : LogSource → String
  | commandLine => "irgen"
  | context => "irgen::context"
  | diagnostics => "irgen::diagnostics"
  | symbols => "irgen::ir::symbol"
  | declarations => "irgen::builder::declarations"
  | generator => "irgen::generator"

/-- One record. -/
structure LogRecord where
  level : LogLevel
  source : LogSource
  message : String
deriving DecidableEq, Repr

/-- Records in the order in which they were written. -/
abbrev Log := List LogRecord

end DeclTree
