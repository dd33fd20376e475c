/-
Names. A declaration has a `Name`, an identifier or a generated special name; a declaration of the
symbol table and a class have a `QualName`, segments joined by dots. A member of a package is named
by `QualName.child`, and `QualName.shortName` is what stands after the last dot.
-/

namespace DeclTree

/-! ### Names of declarations -/

/-- The name of a declaration. -/
inductive Name where
  /-- A name that was written by someone. -/
  | identifier (text : String)
  /-- A generated name, by custom in angle brackets. -/
  | special (text : String)
deriving DecidableEq, Repr

namespace Name

/-- The text of a name, whichever kind it is. -/
def text : Name → String
  | identifier text => text
  | special text => text

/-- Whether the name is a generated one. -/
def isSpecial : Name → Bool
  | identifier _ => false
  | special _ => true

/-- The name of the getter of a property. -/
def getterOf (property : Name) : Name :=
  special ("<get-" ++ property.text ++ ">")

/-- The name of the setter of a property. -/
def setterOf (property : Name) : Name :=
  special ("<set-" ++ property.text ++ ">")

end Name

/-! ### Qualified names -/

/-- A name that is qualified by its package, such as `std.io.println`. -/
structure QualName where
  text : String
deriving DecidableEq, Repr

/-- The characters after the last dot, or all of them where there is no dot. -/
def lastSegment (text : List Char) : List Char :=
  (text.reverse.takeWhile (· ≠ '.')).reverse

namespace QualName

/-- The package of declarations that are in none. -/
def root : QualName := ⟨""⟩

/-- The qualified name of a member of a package. In the root package the name stands alone. -/
def child (package : QualName) (name : Name) : QualName :=
  if package.text = "" then ⟨name.text⟩ else ⟨package.text ++ "." ++ name.text⟩

/-- The last segment of a qualified name. -/
def shortName (name : QualName) : String :=
  String.ofList (lastSegment name.text.toList)

/-- Qualified names in ascending order of their texts, compared by code points. -/
def sort (names : List QualName) : List QualName :=
  names.mergeSort fun a b => decide (a.text ≤ b.text)

end QualName

end DeclTree
