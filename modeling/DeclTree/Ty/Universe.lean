/-
The classes that types may be of. A `TypeUniverse` has the six built-in classes and those that were
registered, and only grows; `TypeUniverse.resolve_eq_ok_iff`: a type resolves exactly when its class
is known, whether null is admitted or not.
-/

import DeclTree.Error
import DeclTree.Ty.Basic

namespace DeclTree

/-- The classes that were registered on top of the built-in ones, each once, in their order. -/
structure TypeUniverse where
  registered : List QualName
deriving DecidableEq, Repr

namespace TypeUniverse

/-- The universe of the built-in classes alone. -/
def builtin : TypeUniverse := ⟨[]⟩

/-- All classes of a universe, the built-in ones first. -/
def classes (types : TypeUniverse) : List QualName :=
  [Ty.any, Ty.unit, Ty.int, Ty.string, Ty.boolean, Ty.nothing].map Ty.classifier ++
    types.registered

/-- The universe with one class more, unless it is known. -/
def register (types : TypeUniverse) (classifier : QualName) : TypeUniverse :=
  if classifier ∈ types.classes then types else ⟨types.registered ++ [classifier]⟩

/-- Checks that the class of a type is known. -/
def resolve (types : TypeUniverse) (ty : Ty) : Except TreeError Unit :=
  if ty.classifier ∈ types.classes then .ok () else .error (.unresolved ty.classifier)

theorem resolve_eq_ok_iff (types : TypeUniverse) (ty : Ty) :
    types.resolve ty = .ok () ↔ ty.classifier ∈ types.classes := by
  simp [resolve]

/-- The built-in classes are known everywhere. -/
theorem resolve_builtin (types : TypeUniverse) {ty : Ty}
    (known : ty.classifier ∈ builtin.classes) : types.resolve ty = .ok () := by
  rw [resolve_eq_ok_iff]
  refine List.mem_append_left _ ?_
  rwa [classes, builtin, List.append_nil] at known

theorem mem_classes_register (types : TypeUniverse) (added classifier : QualName) :
    classifier ∈ (types.register added).classes ↔
      classifier ∈ types.classes ∨ classifier = added := by
  unfold register
  split
  · next known => exact ⟨Or.inl, fun either => either.elim id fun same => same ▸ known⟩
  · simp [classes, or_assoc]

end TypeUniverse

end DeclTree
