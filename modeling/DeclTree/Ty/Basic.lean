/-
Types of declarations and expressions: a class and whether null is admitted. The six built-in
classes have their types here.
-/

import DeclTree.Name

namespace DeclTree

/-- A type: the class that it is of, and whether its values may be null. -/
structure Ty where
  classifier : QualName
  nullable : Bool
deriving DecidableEq, Repr

namespace Ty

/-- The non-null type of a class. -/
def ofClass (classifier : QualName) : Ty := ⟨classifier, false⟩

/-- The same type with null admitted. -/
def makeNullable (ty : Ty) : Ty := { ty with nullable := true }

/-- A type is shown by the short name of its class, with a question mark where null is admitted. -/
def text (ty : Ty) : String :=
  ty.classifier.shortName ++ (if ty.nullable then "?" else "")

/-! ### Built-in types -/

/-- The type of all non-null values. -/
def any : Ty := ofClass ⟨"builtins.Any"⟩

/-- The type of all values, null included. -/
def anyNullable : Ty := any.makeNullable

/-- The type of what yields nothing of interest. -/
def unit : Ty := ofClass ⟨"builtins.Unit"⟩

/-- The type of integers. -/
def int : Ty := ofClass ⟨"builtins.Int"⟩

/-- The type of texts. -/
def string : Ty := ofClass ⟨"builtins.String"⟩

/-- The type of truth values. -/
def boolean : Ty := ofClass ⟨"builtins.Boolean"⟩

/-- The type of what yields no value at all. -/
def nothing : Ty := ofClass ⟨"builtins.Nothing"⟩

end Ty

end DeclTree
