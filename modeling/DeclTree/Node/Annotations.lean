/-
The annotations of a node: a map from tags to arguments that keeps the order in which the tags first
came. Putting a tag again replaces its arguments (`Annotations.find?_put`) and leaves it where it is
(`Annotations.tags_put`).
-/

import DeclTree.Name

namespace DeclTree

/-- The value of a literal, also as the argument of an annotation. -/
inductive Literal where
  | string (value : String)
  | int (value : Int64)
  | boolean (value : Bool)
deriving DecidableEq, Repr

/-- What an annotation says. -/
inductive AnnotationTag where
  /-- The accessors of the property are to be replaced. -/
  | suspendProp
  /-- The declaration was made by a generator. -/
  | generated
  /-- Anything else, by its qualified name. -/
  | other (name : QualName)
deriving DecidableEq, Repr

/-- The word for a tag. -/
def AnnotationTag.text : AnnotationTag → String
  | suspendProp => "SuspendProp"
  | generated => "Generated"
  | other name => name.text

/-- Tags with their arguments, each tag once, in the order in which the tags first came. -/
structure Annotations where
  entries : List (AnnotationTag × List Literal)
deriving DecidableEq, Repr

namespace Annotations

/-- No annotations. -/
def empty : Annotations := ⟨[]⟩

/-- The tags in their order. -/
def tags (annotations : Annotations) : List AnnotationTag :=
  annotations.entries.map Prod.fst

/-- The arguments of a tag. -/
def find? (annotations : Annotations) (tag : AnnotationTag) : Option (List Literal) :=
  (annotations.entries.find? fun entry => entry.1 = tag).map Prod.snd

/-- Whether a tag is there. -/
def contains (annotations : Annotations) (tag : AnnotationTag) : Bool :=
  decide (tag ∈ annotations.tags)

/-- Entries with the arguments of a tag replaced where it stands, or put at the end. -/
def putEntry (tag : AnnotationTag) (arguments : List Literal) :
    List (AnnotationTag × List Literal) → List (AnnotationTag × List Literal)
  | [] => [(tag, arguments)]
  | entry :: rest =>
      if entry.1 = tag then (tag, arguments) :: rest else entry :: putEntry tag arguments rest

/-- The annotations with a tag set to some arguments. -/
def put (annotations : Annotations) (tag : AnnotationTag) (arguments : List Literal) :
    Annotations :=
  ⟨putEntry tag arguments annotations.entries⟩

theorem contains_iff (annotations : Annotations) (tag : AnnotationTag) :
    annotations.contains tag = true ↔ tag ∈ annotations.tags := by
  simp [contains]

/-- A tag that is there already keeps its place; another one comes last. -/
theorem tags_put (annotations : Annotations) (tag : AnnotationTag) (arguments : List Literal) :
    (annotations.put tag arguments).tags =
      if tag ∈ annotations.tags then annotations.tags else annotations.tags ++ [tag] := by
  obtain ⟨entries⟩ := annotations
  simp only [put, tags]
  induction entries with
  | nil => simp [putEntry]
  | cons entry rest ih =>
      by_cases same : entry.1 = tag
      · simp [putEntry, same]
      · have other : tag ≠ entry.1 := fun eq => same eq.symm
        by_cases later : tag ∈ rest.map Prod.fst <;> simp_all [putEntry]

/-- The arguments that were put last are found; all other tags have theirs as before. -/
theorem find?_put (annotations : Annotations) (tag asked : AnnotationTag)
    (arguments : List Literal) :
    (annotations.put tag arguments).find? asked =
      if asked = tag then some arguments else annotations.find? asked := by
  obtain ⟨entries⟩ := annotations
  simp only [put, find?]
  induction entries with
  | nil => by_cases same : asked = tag <;> simp [putEntry, same, eq_comm]
  | cons entry rest ih =>
      by_cases same : entry.1 = tag
      · by_cases wanted : asked = tag
        · simp [putEntry, same, wanted]
        · simp [putEntry, same, wanted, Ne.symm wanted]
      · by_cases hit : entry.1 = asked
        · subst hit
          simp [putEntry, same]
        · simpa [putEntry, same, hit] using ih

end Annotations

end DeclTree
