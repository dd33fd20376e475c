/-
The table of known declarations. A `SymbolTable` keeps the overloads of each name together, in the
order in which they were first inserted, and a name resolves when exactly one of its overloads fits.
`SymbolTable.references_insert` says what an insertion does to the overloads of a name: it touches
one name only, and that only if the symbol is not there yet.
-/

import DeclTree.Error
import DeclTree.Symbol.Basic

namespace DeclTree

/-- The overloads of each declared name, the names in the order in which they first came. -/
structure SymbolTable where
  entries : List (QualName × List Symbol)
deriving DecidableEq, Repr

namespace SymbolTable

/-- The table without declarations. -/
def empty : SymbolTable := ⟨[]⟩

/-- The overloads of a name, in the order of their insertion. -/
def references (table : SymbolTable) (name : QualName) : List Symbol :=
  ((table.entries.find? fun entry => entry.1 = name).map Prod.snd).getD []

/-- Overloads with a symbol more, unless that very symbol is among them. -/
def addOverload (symbol : Symbol) (overloads : List Symbol) : List Symbol :=
  if overloads.any symbol.same then overloads else overloads ++ [symbol]

/-- Entries with a symbol added to the overloads of its name. A name that has none comes last. -/
def insertEntry (symbol : Symbol) :
    List (QualName × List Symbol) → List (QualName × List Symbol)
  | [] => [(symbol.name, addOverload symbol [])]
  | entry :: rest =>
      if entry.1 = symbol.name then (entry.1, addOverload symbol entry.2) :: rest
      else entry :: insertEntry symbol rest

/-- The table with a symbol among the overloads of its name. -/
def insert (table : SymbolTable) (symbol : Symbol) : SymbolTable :=
  ⟨insertEntry symbol table.entries⟩

/-- The number of symbols. -/
def size (table : SymbolTable) : Nat :=
  table.entries.foldr (fun entry others => entry.2.length + others) 0

/-- Whether no name was declared. -/
def isEmpty (table : SymbolTable) : Bool := table.entries.isEmpty

/-- The one overload of a name that fits. Where there are several, they are counted. -/
def resolve (table : SymbolTable) (name : QualName) (fits : Symbol → Bool) :
    Except TreeError Symbol :=
  match (table.references name).filter fits with
  | [] => .error (.unresolved name)
  | first :: others =>
      if others.length = 0 then .ok first else .error (.ambiguous name (others.length + 1))

@[simp] theorem references_empty (name : QualName) : empty.references name = [] := rfl

/-- **Insertion touches the overloads of one name only.** -/
theorem references_insert (table : SymbolTable) (symbol : Symbol) (name : QualName) :
    (table.insert symbol).references name =
      if symbol.name = name then addOverload symbol (table.references name)
      else table.references name := by
  obtain ⟨entries⟩ := table
  simp only [insert, references]
  induction entries with
  | nil => by_cases same : symbol.name = name <;> simp [insertEntry, same]
  | cons entry rest ih =>
      by_cases hit : entry.1 = symbol.name
      · by_cases same : symbol.name = name
        · simp [insertEntry, hit, same]
        · simp [insertEntry, hit, same]
      · by_cases asked : entry.1 = name
        · have other : symbol.name ≠ name := fun same => hit (asked.trans same.symm)
          simp [insertEntry, asked, other, other.symm]
        · simpa [insertEntry, hit, asked] using ih

end SymbolTable

end DeclTree
