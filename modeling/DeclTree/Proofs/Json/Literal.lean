/-
**String literals that are read back.**

A literal is written character by character, and each written character is one piece in reading, be
it escaped or not:

* `readPieces?_writeChar`: what `writeChar` puts down is read as the one piece `pieceOf`;
* `joinPieces?_map_pieceOf`: the pieces of characters join to these characters, since no code unit
  among them is a surrogate;
* `readLiteral?_literalTail`: a literal is read as what it was written from, **whatever the text**
  is, and also if there is no text.
-/

import DeclTree.Json.Literal
import Mathlib.Tactic.SplitIfs

namespace DeclTree.Json

/-! ### Pieces in reading -/

section Pieces

variable (rest : List Char)

/-- The characters that are escaped by a letter of their own, although they are controls. -/
def lettered : List Char := ['\x08', '\x0c', '\n', '\r', '\t']

/-- The piece that a written character is read as. -/
def pieceOf (c : Char) : Piece :=
  if c.toNat < 0x20 ∧ c ∉ lettered then .unit c.toNat else .char c

theorem readPieces?_mark {mark c : Char} (is : markChar? mark = some c) :
    readPieces? ('\\' :: mark :: rest) =
      (readPieces? rest).map (Prod.map (Piece.char c :: ·) id) := by
  have other : mark ≠ 'u' := by
    rintro rfl
    cases is
  rw [readPieces?.eq_3, is]
  · cases readPieces? rest <;> rfl
  · intro a b c d rest same
    exact absurd same other

theorem readPieces?_unit {a b c d : Char} {unit : Nat} (is : codeUnit? a b c d = some unit) :
    readPieces? ('\\' :: 'u' :: a :: b :: c :: d :: rest) =
      (readPieces? rest).map (Prod.map (Piece.unit unit :: ·) id) := by
  rw [readPieces?, is]
  cases readPieces? rest <;> rfl

theorem readPieces?_plain {c : Char} (quote : c ≠ '"') (backslash : c ≠ '\\')
    (control : ¬c.toNat < 0x20) :
    readPieces? (c :: rest) = (readPieces? rest).map (Prod.map (Piece.char c :: ·) id) := by
  rw [readPieces?, if_neg control]
  · cases readPieces? rest <;> rfl
  · exact quote
  · intro a b c d rest same
    exact absurd same backslash
  · intro mark rest same
    exact absurd same backslash

theorem hexValue?_hexDigit : ∀ n < 16, hexValue? (hexDigit n) = some n := by
  decide

/-- The four digits of a control stand for it. -/
theorem codeUnit?_control {n : Nat} (control : n < 0x20) :
    codeUnit? '0' '0' (hexDigit (n / 16)) (hexDigit (n % 16)) = some n := by
  unfold codeUnit?
  rw [hexValue?_hexDigit (n / 16) (by omega), hexValue?_hexDigit (n % 16) (by omega)]
  show some (((0 * 16 + 0) * 16 + n / 16) * 16 + n % 16) = some n
  congr 1
  omega

/-- **One character** is read as one piece. -/
theorem readPieces?_writeChar (c : Char) :
    readPieces? (writeChar c ++ rest) =
      (readPieces? rest).map (Prod.map (pieceOf c :: ·) id) := by
  unfold writeChar
  split_ifs with quote backslash back form line carriage tab control
  · subst quote
    exact readPieces?_mark rest rfl
  · subst backslash
    exact readPieces?_mark rest rfl
  · subst back
    exact readPieces?_mark rest rfl
  · subst form
    exact readPieces?_mark rest rfl
  · subst line
    exact readPieces?_mark rest rfl
  · subst carriage
    exact readPieces?_mark rest rfl
  · subst tab
    exact readPieces?_mark rest rfl
  · have piece : pieceOf c = .unit c.toNat := if_pos ⟨control, by simp [lettered, *]⟩
    rw [piece]
    exact readPieces?_unit rest (codeUnit?_control control)
  · have piece : pieceOf c = .char c := if_neg fun both => control both.1
    rw [piece]
    exact readPieces?_plain rest quote backslash control

/-- A text is read piece by piece, up to the closing quote. -/
theorem readPieces?_flatMap (cs : List Char) :
    readPieces? (cs.flatMap writeChar ++ '"' :: rest) = some (cs.map pieceOf, rest) := by
  induction cs with
  | nil =>
      show readPieces? ('"' :: rest) = _
      rw [readPieces?]
      rfl
  | cons c cs ih =>
      rw [List.flatMap_cons, List.append_assoc, readPieces?_writeChar, ih]
      rfl

end Pieces

/-! ### Pieces that are joined -/

/-- The code unit of a control is no surrogate, so it stands for itself whatever follows. -/
theorem joinPieces?_unit {unit : Nat} (control : unit < 0x20) (rest : List Piece) :
    joinPieces? (.unit unit :: rest) = (joinPieces? rest).map (Char.ofNat unit :: ·) := by
  have notLeading : isLeading unit = false := by
    unfold isLeading
    simp only [Bool.and_eq_false_iff, decide_eq_false_iff_not]
    omega
  have notTrailing : isTrailing unit = false := by
    unfold isTrailing
    simp only [Bool.and_eq_false_iff, decide_eq_false_iff_not]
    omega
  cases rest with
  | nil => simp [joinPieces?, notLeading, notTrailing]
  | cons piece rest => cases piece <;> simp [joinPieces?, notLeading, notTrailing]

theorem joinPieces?_pieceOf (c : Char) (rest : List Piece) :
    joinPieces? (pieceOf c :: rest) = (joinPieces? rest).map (c :: ·) := by
  unfold pieceOf
  split_ifs with escaped
  · rw [joinPieces?_unit escaped.1, Char.ofNat_toNat]
  · rw [joinPieces?]

theorem joinPieces?_map_pieceOf (cs : List Char) : joinPieces? (cs.map pieceOf) = some cs := by
  induction cs with
  | nil => rfl
  | cons c cs ih =>
      rw [List.map_cons, joinPieces?_pieceOf, ih]
      rfl

/-! ### Literals -/

/-- What a literal is written with behind its opening quote. -/
def literalTail : Option String → List Char
  | some text => text.toList.flatMap writeChar ++ ['"']
  | none => ['\\', 'u', 'd', '8', '0', '0', '"']

theorem writeLiteral_eq_cons (text : Option String) :
    writeLiteral text = '"' :: literalTail text := by
  cases text <;> rfl

/-- **A literal is read as what it was written from.** -/
theorem readLiteral?_literalTail (text : Option String) (rest : List Char) :
    readLiteral? (literalTail text ++ rest) = some (text, rest) := by
  cases text with
  | none =>
      -- The one escape is an unpaired surrogate, which is what makes the literal have no text.
      show (readPieces? ('\\' :: 'u' :: 'd' :: '8' :: '0' :: '0' :: '"' :: rest)).map _ = _
      have surrogate : codeUnit? 'd' '8' '0' '0' = some 0xd800 := by decide
      rw [readPieces?_unit _ surrogate, readPieces?]
      rfl
  | some text =>
      unfold readLiteral? literalTail
      rw [List.append_assoc]
      show (readPieces? (text.toList.flatMap writeChar ++ '"' :: rest)).map _ = _
      rw [readPieces?_flatMap]
      simp only [Option.map_some, joinPieces?_map_pieceOf, String.ofList_toList]

end DeclTree.Json
