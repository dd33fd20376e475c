/-
Symbols: handles on declarations. A symbol carries the signature of its declaration; two symbols are
the same when they have one identity, however alike their signatures are. A `SymbolSupply` hands out
identities, each once.
-/

import DeclTree.Ty.Basic

namespace DeclTree

/-- What a symbol declares. -/
inductive SymbolKind where
  | function
  | property
  | getter
  | setter
  | valueParameter
deriving DecidableEq, Repr

/-- The identity of a symbol. -/
structure SymbolId where
  number : Nat
deriving DecidableEq, Repr

/-- What is said of a declaration when its symbol is made. -/
structure Signature where
  name : QualName
  kind : SymbolKind
  parameters : List Ty
  result : Ty
deriving DecidableEq, Repr

/-- A handle on a declaration. -/
structure Symbol extends Signature where
  id : SymbolId
deriving DecidableEq, Repr

namespace Symbol

/-- Whether two symbols are handles on one declaration. -/
def same (a b : Symbol) : Bool := decide (a.id = b.id)

/-- The number of parameters that the declaration has. -/
def arity (symbol : Symbol) : Nat := symbol.parameters.length

/-- A symbol is shown by the qualified name of its declaration, between apostrophes. -/
def text (symbol : Symbol) : String := "'" ++ symbol.name.text ++ "'"

end Symbol

/-- The source of identities: every number below `next` has been handed out, no other one has. -/
structure SymbolSupply where
  next : Nat := 1
deriving DecidableEq, Repr

namespace SymbolSupply

/-- A new symbol, and the supply without its identity. -/
def fresh (supply : SymbolSupply) (signature : Signature) : Symbol × SymbolSupply :=
  ({ signature with id := ⟨supply.next⟩ }, ⟨supply.next + 1⟩)

end SymbolSupply

end DeclTree
