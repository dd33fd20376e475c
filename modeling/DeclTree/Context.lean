/-
What a host provides: the classes that types may be of and the table of known declarations. The
standard context declares the functions of the standard library; `println` has several overloads, so
its name alone does not resolve.
-/

import DeclTree.Log
import DeclTree.Symbol.Table
import DeclTree.Ty.Universe

namespace DeclTree

/-- The services of a host. -/
structure Context where
  types : TypeUniverse
  symbols : SymbolTable
deriving DecidableEq, Repr

/-- The name of the function that prints a line. -/
def println : QualName := ⟨"std.io.println"⟩

/-- The name of the function that prints without ending the line. -/
def print : QualName := ⟨"std.io.print"⟩

/-- A new symbol in the table. -/
def SymbolTable.declare (table : SymbolTable) (supply : SymbolSupply) (signature : Signature) :
    Symbol × SymbolTable × SymbolSupply :=
  let (symbol, supply) := supply.fresh signature
  (symbol, table.insert symbol, supply)

namespace Context

/-- The context that knows the built-in classes and nothing else. -/
def builtin : Context := ⟨.builtin, .empty⟩

/-- The signatures of the standard library. -/
def standardSignatures : List Signature :=
  [[], [Ty.anyNullable], [Ty.int], [Ty.string], [Ty.boolean]].map
      (fun parameters => ⟨println, .function, parameters, .unit⟩) ++
    [⟨print, .function, [Ty.anyNullable], .unit⟩]

/-- The context with the standard library declared, and the supply afterwards. -/
def standard (supply : SymbolSupply) : Context × SymbolSupply :=
  let declareNext := fun (table, supply) signature =>
    (SymbolTable.declare table supply signature).2
  let (table, supply) := standardSignatures.foldl declareNext (SymbolTable.empty, supply)
  (⟨.builtin, table⟩, supply)

/-- The record of a standard context having been made. -/
def startRecord (context : Context) : LogRecord :=
  ⟨.debug, .context,
    "stdlib context initialised with " ++ Nat.repr context.symbols.size ++ " symbols"⟩

end Context

end DeclTree
