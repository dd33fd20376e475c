/-
Diagnostics: messages that a generator has for its host. A `Collector` keeps them or passes them to
the log; reporting never fails and never changes what the generator does.
-/

import DeclTree.Log

namespace DeclTree

/-- How grave a message is, the least grave first. -/
inductive Severity where
  | logging
  | info
  | warning
  | error
deriving DecidableEq, Repr

namespace Severity

/-- The word for a severity. -/
def text : Severity → String
  | logging => "logging"
  | info => "info"
  | warning => "warning"
  | error => "error"

/-- The place of a severity in the order of gravity. -/
def rank : Severity → Nat
  | logging => 0
  | info => 1
  | warning => 2
  | error => 3

/-- Severities from the least to the most grave. -/
def sort (severities : List Severity) : List Severity :=
  severities.mergeSort fun a b => decide (a.rank ≤ b.rank)

/-- The level of the log at which a message is passed on. -/
def level : Severity → LogLevel
  | logging => .debug
  | info => .info
  | warning => .warn
  | error => .error

end Severity

/-- What a generator tells its host. -/
structure Message where
  severity : Severity
  text : String
deriving DecidableEq, Repr

/-- The record that a message becomes in the log. -/
def Message.record (message : Message) : LogRecord :=
  ⟨message.severity.level, .diagnostics, message.text⟩

/-- What becomes of messages. -/
inductive Collector where
  /-- They are kept, in their order. -/
  | buffered (messages : List Message)
  /-- They are written to the log. -/
  | log
deriving DecidableEq, Repr

namespace Collector

/-- Hands some messages to a collector: the collector and the log afterwards. -/
def report (collector : Collector) (messages : List Message) (log : Log) : Collector × Log :=
  match collector with
  | .buffered kept => (.buffered (kept ++ messages), log)
  | .log => (.log, log ++ messages.map Message.record)

/-- The messages that a collector has kept. -/
def messages : Collector → List Message
  | .buffered messages => messages
  | .log => []

/-- The texts that a collector has kept for one severity. -/
def withSeverity (collector : Collector) (severity : Severity) : List String :=
  (collector.messages.filter fun message => message.severity = severity).map Message.text

/-- The collector without what it has kept. -/
def clear : Collector → Collector
  | .buffered _ => .buffered []
  | .log => .log

end Collector

end DeclTree
