/-
**Quoted text is a prefix code.**

`escapeBy` is the written form of a character for any choice of the characters that can be seen on
their own; `escapeChar` is the one for Unicode (`escapeChar_eq`). A character is written as itself,
as a backslash and its mark, or as a backslash and its code point in braces (`Written`), and what is
written ends where one can see that it ends, so:

* `Written.append_inj`: no written form is the beginning of another one, and none is that of two
  characters;
* `quoteBy_inj`: **no two texts are quoted alike**;
* `newline_not_mem_escapeBy`: a line break is never written as itself;
* `escapesNext_of_quote`: **a double quote inside stands behind a backslash that escapes it**, and
  the last quote does not (`escapesNext_flatMap`).

All of this holds whatever characters count as visible.
-/

import DeclTree.Proofs.Text.Delimited
import DeclTree.Text.Quoted
import Mathlib.Tactic.SplitIfs

namespace DeclTree.Text

/-! ### Digits -/

/-- The digits of a number are those below the base. -/
theorem exists_digit_of_mem_toDigits {base n : Nat} (many : 1 < base) {c : Char}
    (member : c ∈ Nat.toDigits base n) : ∃ digit < base, c = Nat.digitChar digit := by
  induction n using Nat.strongRecOn with
  | ind n ih =>
      by_cases small : n < base
      · rw [Nat.toDigits_of_lt_base small, List.mem_singleton] at member
        exact ⟨n, small, member⟩
      · have large : base ≤ n := by omega
        rw [Nat.toDigits_of_base_le many large, List.mem_append, List.mem_singleton] at member
        rcases member with before | last
        · exact ih (n / base) (Nat.div_lt_self (by omega) many) before
        · exact ⟨n % base, Nat.mod_lt n (by omega), last⟩

theorem not_mem_hexDigits {c : Char} (other : ∀ digit < 16, Nat.digitChar digit ≠ c) (n : Nat) :
    c ∉ Nat.toDigits 16 n := by
  intro member
  obtain ⟨digit, small, same⟩ := exists_digit_of_mem_toDigits (by decide) member
  exact other digit small same.symm

theorem hexDigit_inj : ∀ a < 16, ∀ b < 16, Nat.digitChar a = Nat.digitChar b → a = b := by
  decide

/-- A number is known by its hexadecimal digits. -/
theorem hexDigits_inj {m n : Nat} (same : Nat.toDigits 16 m = Nat.toDigits 16 n) : m = n := by
  induction m using Nat.strongRecOn generalizing n with
  | ind m ih =>
      by_cases small : m < 16 <;> by_cases low : n < 16
      · rw [Nat.toDigits_of_lt_base small, Nat.toDigits_of_lt_base low] at same
        exact hexDigit_inj m small n low (List.singleton_inj.mp same)
      · rw [Nat.toDigits_of_lt_base small, Nat.toDigits_of_base_le (by decide) (by omega)] at same
        have more := congrArg List.length same
        have some : (Nat.toDigits 16 (n / 16)).length ≠ 0 := by simp [Nat.toDigits_ne_nil]
        simp only [List.length_append, List.length_singleton] at more
        omega
      · rw [Nat.toDigits_of_lt_base low, Nat.toDigits_of_base_le (by decide) (by omega)] at same
        have more := congrArg List.length same
        have some : (Nat.toDigits 16 (m / 16)).length ≠ 0 := by simp [Nat.toDigits_ne_nil]
        simp only [List.length_append, List.length_singleton] at more
        omega
      · rw [Nat.toDigits_of_base_le (by decide) (by omega),
          Nat.toDigits_of_base_le (by decide) (by omega : 16 ≤ n)] at same
        obtain ⟨heads, last⟩ := List.append_inj' same rfl
        have quotients := ih (m / 16) (by omega) heads
        have remainders := hexDigit_inj (m % 16) (by omega) (n % 16) (by omega)
          (List.singleton_inj.mp last)
        omega

/-! ### Written forms -/

/-- What stands behind the backslash for the characters that have a mark of their own. -/
def mark? (c : Char) : Option Char :=
  if c = '\x00' then some '0'
  else if c = '\t' then some 't'
  else if c = '\r' then some 'r'
  else if c = '\n' then some 'n'
  else if c = '"' ∨ c = '\\' then some c
  else none

/-- The character that a mark stands for. -/
def ofMark (mark : Char) : Char :=
  if mark = '0' then '\x00'
  else if mark = 't' then '\t'
  else if mark = 'r' then '\r'
  else if mark = 'n' then '\n'
  else mark

/-- The written form of a character, where it is given which characters can be seen on their own. -/
def escapeBy (visible : Char → Bool) (c : Char) : List Char :=
  match mark? c with
  | some mark => ['\\', mark]
  | none => if visible c then [c] else codePointEscape c

/-- The written form of a text between double quotes, likewise. -/
def quoteBy (visible : Char → Bool) (text : String) : String :=
  String.ofList ('"' :: text.toList.flatMap (escapeBy visible) ++ ['"'])

theorem escapeChar_eq : escapeChar = escapeBy isVisible := by
  funext c
  unfold escapeChar escapeBy mark?
  split_ifs <;> rfl

theorem quote_eq : quote = quoteBy isVisible := by
  funext text
  rw [quote, quoteBy, escapeChar_eq]

theorem ofMark_of_mark? {c mark : Char} (marked : mark? c = some mark) : ofMark mark = c := by
  unfold mark? at marked
  split_ifs at marked with null tab carriage newline self
  · rw [null, ← Option.some.inj marked]
    rfl
  · rw [tab, ← Option.some.inj marked]
    rfl
  · rw [carriage, ← Option.some.inj marked]
    rfl
  · rw [newline, ← Option.some.inj marked]
    rfl
  · obtain rfl := Option.some.inj marked
    rcases self with rfl | rfl <;> rfl

/-- A mark is what its character is written with. -/
theorem mark_ne {c mark other : Char} (marked : mark? c = some mark)
    (none : mark? (ofMark other) ≠ some other) : mark ≠ other := by
  rintro rfl
  rw [ofMark_of_mark? marked] at none
  exact none marked

theorem mark?_eq_none_iff (c : Char) :
    mark? c = none ↔ c ≠ '\x00' ∧ c ≠ '\t' ∧ c ≠ '\r' ∧ c ≠ '\n' ∧ c ≠ '"' ∧ c ≠ '\\' := by
  unfold mark?
  split_ifs with null tab carriage newline self
  · simp [null]
  · simp [tab]
  · simp [carriage]
  · simp [newline]
  · rcases self with rfl | rfl <;> simp
  · simp [null, tab, carriage, newline, not_or.mp self]

/-- The three ways in which a character can be written. -/
inductive Written (c : Char) : List Char → Prop
  | plain (bare : mark? c = none) : Written c [c]
  | marked (mark : Char) (is : mark? c = some mark) : Written c ['\\', mark]
  | coded : Written c (codePointEscape c)

theorem written_escapeBy (visible : Char → Bool) (c : Char) : Written c (escapeBy visible c) := by
  unfold escapeBy
  split
  next mark is => exact .marked mark is
  next bare =>
    split
    · exact .plain bare
    · exact .coded

namespace Written

variable {c d : Char} {form other rest more : List Char}

theorem codePointEscape_append (c : Char) (rest : List Char) :
    codePointEscape c ++ rest =
      '\\' :: 'u' :: '\x7b' :: (Nat.toDigits 16 c.toNat ++ '\x7d' :: rest) := by
  simp [codePointEscape]

/-- A code point ends with its brace. -/
theorem codePointEscape_append_inj
    (same : codePointEscape c ++ rest = codePointEscape d ++ more) : c = d ∧ rest = more := by
  have brace : ∀ n, '\x7d' ∉ Nat.toDigits 16 n := not_mem_hexDigits (by decide)
  rw [codePointEscape_append, codePointEscape_append] at same
  simp only [List.cons.injEq, true_and] at same
  obtain ⟨digits, rests⟩ := append_cons_inj (brace _) (brace _) same
  exact ⟨Char.toNat_inj.mp (hexDigits_inj digits), rests⟩

/-- **No written form is the beginning of another one.** -/
theorem append_inj (written : Written c form) (also : Written d other)
    (same : form ++ rest = other ++ more) : c = d ∧ rest = more := by
  cases written with
  | plain bare =>
      have notBackslash := ((mark?_eq_none_iff c).mp bare).2.2.2.2.2
      cases also with
      | plain _ => simpa using same
      | marked mark _ => exact absurd (List.cons.inj same).1 notBackslash
      | coded => exact absurd (List.cons.inj same).1 notBackslash
  | marked mark is =>
      cases also with
      | plain bare =>
          have notBackslash := ((mark?_eq_none_iff d).mp bare).2.2.2.2.2
          exact absurd (List.cons.inj same).1.symm notBackslash
      | marked twin also =>
          simp only [List.cons_append, List.nil_append, List.cons.injEq, true_and] at same
          obtain ⟨rfl, rests⟩ := same
          exact ⟨(ofMark_of_mark? is).symm.trans (ofMark_of_mark? also), rests⟩
      | coded =>
          rw [codePointEscape_append] at same
          simp only [List.cons_append, List.cons.injEq, true_and] at same
          exact absurd same.1 (mark_ne is (by decide))
  | coded =>
      cases also with
      | plain bare =>
          have notBackslash := ((mark?_eq_none_iff d).mp bare).2.2.2.2.2
          exact absurd (List.cons.inj same).1.symm notBackslash
      | marked mark also =>
          rw [codePointEscape_append] at same
          simp only [List.cons_append, List.cons.injEq, true_and] at same
          exact absurd same.1.symm (mark_ne also (by decide))
      | coded => exact codePointEscape_append_inj same

theorem ne_nil (written : Written c form) : form ≠ [] := by
  cases written <;> simp [codePointEscape]

end Written

/-! ### Texts -/

section Texts

variable {visible : Char → Bool} {c : Char} {cs ds form before after : List Char}

theorem flatMap_escapeBy_inj
    (same : cs.flatMap (escapeBy visible) = ds.flatMap (escapeBy visible)) : cs = ds := by
  induction cs generalizing ds with
  | nil =>
      cases ds with
      | nil => rfl
      | cons d rest =>
          rw [List.flatMap_nil, List.flatMap_cons] at same
          exact absurd (List.append_eq_nil_iff.mp same.symm).1 (written_escapeBy visible d).ne_nil
  | cons c rest ih =>
      cases ds with
      | nil =>
          rw [List.flatMap_nil, List.flatMap_cons] at same
          exact absurd (List.append_eq_nil_iff.mp same).1 (written_escapeBy visible c).ne_nil
      | cons d others =>
          rw [List.flatMap_cons, List.flatMap_cons] at same
          obtain ⟨rfl, rests⟩ :=
            (written_escapeBy visible c).append_inj (written_escapeBy visible d) same
          rw [ih rests]

theorem toList_quoteBy (visible : Char → Bool) (text : String) :
    (quoteBy visible text).toList = '"' :: (text.toList.flatMap (escapeBy visible) ++ ['"']) := by
  simp [quoteBy]

/-- **No two texts are quoted alike.** -/
theorem quoteBy_inj (visible : Char → Bool) {text other : String} :
    quoteBy visible text = quoteBy visible other ↔ text = other := by
  refine ⟨fun same => ?_, fun same => same ▸ rfl⟩
  have lists := congrArg String.toList same
  rw [toList_quoteBy, toList_quoteBy] at lists
  exact String.toList_inj.mp
    (flatMap_escapeBy_inj (List.append_cancel_right (List.cons.inj lists).2))

/-! ### Line breaks -/

theorem Written.newline_not_mem (written : Written c form) : '\n' ∉ form := by
  cases written with
  | plain bare =>
      have other := ((mark?_eq_none_iff c).mp bare).2.2.2.1
      exact fun member => other (List.mem_singleton.mp member).symm
  | marked mark is =>
      have other : mark ≠ '\n' := mark_ne is (by decide)
      simpa using other.symm
  | coded =>
      have digits : '\n' ∉ Nat.toDigits 16 c.toNat := not_mem_hexDigits (by decide) _
      simp [codePointEscape, digits]

/-- **No line break is written as itself.** -/
theorem newline_not_mem_escapeBy (visible : Char → Bool) (cs : List Char) :
    '\n' ∉ cs.flatMap (escapeBy visible) := by
  rw [List.mem_flatMap]
  rintro ⟨c, _, member⟩
  exact (written_escapeBy visible c).newline_not_mem member

/-! ### Quotes inside -/

/-- Whether the character that comes next is escaped: it stands behind a backslash, and this is not
escaped itself. -/
def escapesNext (before : List Char) : Bool :=
  before.foldl (fun escaping c => !escaping && c = '\\') false

theorem escapesNext_append (whole : escapesNext before = false) (more : List Char) :
    escapesNext (before ++ more) = escapesNext more := by
  unfold escapesNext at whole ⊢
  rw [List.foldl_append, whole]

theorem escapesNext_of_not_mem (absent : '\\' ∉ cs) : escapesNext cs = false := by
  induction cs with
  | nil => rfl
  | cons c rest ih =>
      obtain ⟨first, later⟩ := List.ne_and_not_mem_of_not_mem_cons absent
      have whole : escapesNext [c] = false := by simpa [escapesNext] using first.symm
      exact (escapesNext_append whole rest).trans (ih later)

/-- A written form escapes nothing behind it. -/
theorem Written.escapesNext (written : Written c form) : escapesNext form = false := by
  cases written with
  | plain bare =>
      have other := ((mark?_eq_none_iff c).mp bare).2.2.2.2.2
      exact escapesNext_of_not_mem fun member => other (List.mem_singleton.mp member).symm
  | marked mark _ => simp [Text.escapesNext]
  | coded =>
      have digits : '\\' ∉ Nat.toDigits 16 c.toNat := not_mem_hexDigits (by decide) _
      have starts : codePointEscape c =
          ['\\', 'u'] ++ '\x7b' :: (Nat.toDigits 16 c.toNat ++ ['\x7d']) := by
        simp [codePointEscape]
      rw [starts, escapesNext_append (by decide)]
      exact escapesNext_of_not_mem (by simp [digits])

/-- The only quote in a written form is that of the quote itself. -/
theorem Written.escapesNext_of_quote (written : Written c form)
    (place : form = before ++ '"' :: after) : Text.escapesNext before = true := by
  cases written with
  | plain bare =>
      have other := ((mark?_eq_none_iff c).mp bare).2.2.2.2.1
      have member : '"' ∈ [c] := place ▸ List.mem_append_right before List.mem_cons_self
      exact absurd (List.mem_singleton.mp member).symm other
  | marked mark _ =>
      rcases before with _ | ⟨first, _ | ⟨second, rest⟩⟩
      · exact absurd (List.cons.inj place).1 (by decide)
      · rw [← (List.cons.inj place).1]
        rfl
      · simp at place
  | coded =>
      have digits : '"' ∉ Nat.toDigits 16 c.toNat := not_mem_hexDigits (by decide) _
      have member : '"' ∈ codePointEscape c :=
        place ▸ List.mem_append_right before List.mem_cons_self
      exact absurd member (by simp [codePointEscape, digits])

theorem escapesNext_flatMap (visible : Char → Bool) (cs : List Char) :
    escapesNext (cs.flatMap (escapeBy visible)) = false := by
  induction cs with
  | nil => rfl
  | cons c rest ih =>
      rw [List.flatMap_cons, escapesNext_append (written_escapeBy visible c).escapesNext, ih]

/-- **Every double quote inside is escaped.** By induction on the text: the quote stands in the
written form of the first character, or behind it, where that form makes no difference. -/
theorem escapesNext_of_quote (place : cs.flatMap (escapeBy visible) = before ++ '"' :: after) :
    escapesNext before = true := by
  induction cs generalizing before with
  | nil => exact absurd place.symm (by simp)
  | cons c rest ih =>
      have written := written_escapeBy visible c
      rw [List.flatMap_cons, List.append_eq_append_iff] at place
      rcases place with ⟨later, rfl, there⟩ | ⟨within, form, there⟩
      · rw [escapesNext_append written.escapesNext]
        exact ih there
      · cases within with
        | nil =>
            have none : escapesNext [] = true := ih there.symm
            exact absurd none (by decide)
        | cons d more =>
            obtain ⟨rfl, -⟩ := List.cons.inj there
            exact written.escapesNext_of_quote form

end Texts

end DeclTree.Text
