/-
**Forms that are read back.**

A form is lossless if every value is read from the JSON that it is written as
(`JsonForm.Lossless`). A text is read as the JSON that it was written from, of whatever shape
(`parse?_compact`), so values of a lossless form are also read back from their texts
(`readAs?_writeAs`). What is left is to go through the forms:

* the forms of names, types, literals, annotations, configurations and all the parts of a kind of
  node are lossless, integers in the whole of their range and texts of any characters;
* a place has a form only if it is a number of 64 bits (`ofJson?_toJson_nodeId`);
* `readAs?_writeAs_forms`: hence **each of these types round-trips through its text**.
-/

import DeclTree.Generate.Config
import DeclTree.Node.Form
import DeclTree.Proofs.Json.Value

namespace DeclTree

/-- A form from which every value is read back. -/
class JsonForm.Lossless (α : Type) [JsonForm α] : Prop where
  ofJson?_toJson : ∀ value : α, JsonForm.ofJson? (JsonForm.toJson value) = some value

namespace Json

open JsonForm (Lossless)
open JsonForm.Lossless (ofJson?_toJson)

section Texts

variable {α : Type} [JsonForm α]

/-- A text is read as what its JSON is read as. -/
theorem readAs?_writeAs_eq (value : α) :
    readAs? α (writeAs value) = JsonForm.ofJson? (JsonForm.toJson value) := by
  unfold readAs? writeAs
  rw [parse?_compact]
  rfl

/-- **A value of a lossless form is read back from its text.** -/
theorem readAs?_writeAs [Lossless α] (value : α) : readAs? α (writeAs value) = some value := by
  rw [readAs?_writeAs_eq, ofJson?_toJson]

end Texts

/-! ### Plain values -/

instance : Lossless String where
  ofJson?_toJson _ := rfl

instance : Lossless Bool where
  ofJson?_toJson _ := rfl

instance : Lossless Int64 where
  ofJson?_toJson value := by
    -- The bounds that reading checks are those of the type, so nothing is turned down.
    have bounds : Int64.minValue.toInt ≤ value.toInt ∧ value.toInt ≤ Int64.maxValue.toInt := by
      refine ⟨value.minValue_le_toInt, ?_⟩
      have below := value.toInt_lt
      show value.toInt ≤ 2 ^ 63 - 1
      omega
    show (if _ then _ else _) = _
    rw [if_pos bounds, Int64.ofInt_toInt]

/-! ### Names, types and literals -/

instance : Lossless Name where
  ofJson?_toJson name := by
    cases name with
    | identifier text => rfl
    | special text => rfl

instance : Lossless QualName where
  ofJson?_toJson _ := rfl

instance : Lossless Ty where
  ofJson?_toJson _ := rfl

instance : Lossless Literal where
  ofJson?_toJson literal := by
    cases literal with
    | string value => rfl
    | boolean value => rfl
    | int value =>
        show (JsonForm.ofJson? (JsonForm.toJson value)).map Literal.int = _
        rw [ofJson?_toJson]
        rfl

instance : Lossless AnnotationTag where
  ofJson?_toJson tag := by
    cases tag with
    | suspendProp => rfl
    | generated => rfl
    | other name => rfl

instance : Lossless Config where
  ofJson?_toJson _ := rfl

/-! ### Kinds and places of nodes -/

instance : Lossless Visibility where
  ofJson?_toJson visibility := by cases visibility <;> rfl

instance : Lossless Modality where
  ofJson?_toJson modality := by cases modality <;> rfl

instance : Lossless NodeTag where
  ofJson?_toJson tag := by cases tag <;> rfl

/-- A place is read back if it is one of a tree that fits into memory. -/
theorem ofJson?_toJson_nodeId (id : NodeId) :
    JsonForm.ofJson? (JsonForm.toJson id) = if id.index < UInt64.size then some id else none := by
  show (if 0 ≤ (id.index : Int) ∧ (id.index : Int) < UInt64.size then
    some (⟨(id.index : Int).toNat⟩ : NodeId) else none) = _
  have bounds : (0 ≤ (id.index : Int) ∧ (id.index : Int) < UInt64.size) ↔
      id.index < UInt64.size := by
    omega
  simp only [bounds, Int.toNat_natCast]

/-- **Serialization round trip.** The text of a value is read as that very value, whatever
characters its texts hold and however large its integers are; of places, those that are numbers of
64 bits are read back, and no others. -/
theorem readAs?_writeAs_forms :
    (∀ name : Name, readAs? Name (writeAs name) = some name) ∧
      (∀ name : QualName, readAs? QualName (writeAs name) = some name) ∧
      (∀ ty : Ty, readAs? Ty (writeAs ty) = some ty) ∧
      (∀ literal : Literal, readAs? Literal (writeAs literal) = some literal) ∧
      (∀ tag : AnnotationTag, readAs? AnnotationTag (writeAs tag) = some tag) ∧
      (∀ visibility : Visibility, readAs? Visibility (writeAs visibility) = some visibility) ∧
      (∀ modality : Modality, readAs? Modality (writeAs modality) = some modality) ∧
      (∀ tag : NodeTag, readAs? NodeTag (writeAs tag) = some tag) ∧
      (∀ id : NodeId, readAs? NodeId (writeAs id) = some id ↔ id.index < UInt64.size) ∧
      (∀ config : Config, readAs? Config (writeAs config) = some config) := by
  refine ⟨readAs?_writeAs, readAs?_writeAs, readAs?_writeAs, readAs?_writeAs, readAs?_writeAs,
    readAs?_writeAs, readAs?_writeAs, readAs?_writeAs, ?_, readAs?_writeAs⟩
  intro id
  rw [readAs?_writeAs_eq, ofJson?_toJson_nodeId]
  by_cases fits : id.index < UInt64.size
  · rw [if_pos fits]
    exact iff_of_true rfl fits
  · rw [if_neg fits]
    exact iff_of_false (by rintro ⟨⟩) fits

end Json

end DeclTree
