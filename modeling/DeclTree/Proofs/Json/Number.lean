/-
**Numbers that are read back.**

A number is read up to a character that cannot go on with it, so it is read back in front of all
others, that is in front of what `EndsNumber`. It is written without leading zeros
(`eq_zero_of_head?_toDigits`), and a sign is put in front of nothing but a number other than zero
(`toList_repr_cases`), which are the two things that reading is strict about. Hence `number?_repr`,
for integers **of any size**.
-/

import DeclTree.Json.Reader
import DeclTree.Json.Writer

namespace DeclTree.Json

/-- Whether a character goes on with a number that it stands right behind. -/
def continuesNumber (c : Char) : Bool := c.isDigit || c = '.' || c = 'e' || c = 'E'

/-- A number ends before this. -/
def EndsNumber (rest : List Char) : Prop := ∀ c ∈ rest.head?, continuesNumber c = false

variable {rest : List Char}

/-! ### Numbers -/

theorem digits?_append {digits : List Char} (all : ∀ c ∈ digits, c.isDigit = true)
    (some : digits ≠ []) (stops : ∀ c ∈ rest.head?, c.isDigit = false) :
    digits? (digits ++ rest) = .some (digits, rest) := by
  have none : rest.takeWhile Char.isDigit = [] ∧ rest.dropWhile Char.isDigit = rest := by
    cases rest with
    | nil => exact ⟨rfl, rfl⟩
    | cons c rest =>
        have stop := stops c rfl
        simp [stop]
  unfold digits?
  rw [List.takeWhile_append_of_pos all, List.dropWhile_append_of_pos all, none.1, none.2,
    List.append_nil]
  cases digits with
  | nil => exact absurd rfl some
  | cons c digits => rfl

theorem EndsNumber.notDigit (ends : EndsNumber rest) : ∀ c ∈ rest.head?, c.isDigit = false := by
  intro c first
  have none := ends c first
  simp only [continuesNumber, Bool.or_eq_false_iff] at none
  exact none.1.1.1

theorem EndsNumber.fraction? (ends : EndsNumber rest) :
    Json.fraction? rest = some (false, rest) := by
  unfold Json.fraction?
  split
  · exact absurd (ends _ rfl) (by decide)
  · rfl

theorem EndsNumber.exponent? (ends : EndsNumber rest) :
    Json.exponent? rest = some (false, rest) := by
  cases rest with
  | nil => rfl
  | cons c rest =>
      show (if c = 'e' ∨ c = 'E' then _ else _) = _
      rw [if_neg]
      rintro (rfl | rfl)
      · exact absurd (ends _ rfl) (by decide)
      · exact absurd (ends _ rfl) (by decide)

/-- No leading zeros are written. -/
theorem eq_zero_of_head?_toDigits {n : Nat} (zero : (Nat.toDigits 10 n).head? = some '0') :
    n = 0 := by
  induction n using Nat.strongRecOn with
  | ind n ih =>
      by_cases small : n < 10
      · rw [Nat.toDigits_of_lt_base small] at zero
        exact Nat.digitChar_eq_zero.mp (Option.some.inj zero)
      · rw [Nat.toDigits_of_base_le (by decide) (by omega), List.head?_append,
          List.head?_eq_some_head Nat.toDigits_ne_nil, Option.some_or,
          ← List.head?_eq_some_head Nat.toDigits_ne_nil] at zero
        have tenth := ih (n / 10) (by omega) zero
        omega

theorem isDigit_of_mem {n : Nat} : ∀ c ∈ Nat.toDigits 10 n, c.isDigit = true :=
  fun _ member => Nat.isDigit_of_mem_toDigits (by decide) (by decide) member

/-- The digits of a number are read as the number, but not behind the sign of a zero. -/
theorem unsigned?_toDigits (ends : EndsNumber rest) {negative : Bool} {n : Nat}
    (real : negative = true → n ≠ 0) :
    unsigned? negative (Nat.toDigits 10 n ++ rest) =
      some (.integer (if negative = true then -n else n), rest) := by
  have leading : ¬((Nat.toDigits 10 n).head? = some '0' ∧ Nat.toDigits 10 n ≠ ['0']) := by
    rintro ⟨first, more⟩
    obtain rfl := eq_zero_of_head?_toDigits first
    exact more rfl
  have signed : (negative && n = 0 : Bool) = false := by
    cases negative with
    | false => rfl
    | true => simpa using real rfl
  unfold unsigned?
  simp only [digits?_append isDigit_of_mem Nat.toDigits_ne_nil ends.notDigit, Option.bind_eq_bind,
    Option.bind_some, if_neg leading, ends.fraction?, ends.exponent?, Nat.ofDigitChars_ten_toDigits,
    Bool.or_self, Bool.false_or, signed, Bool.false_eq_true, if_false]
  rfl

/-- How a number is written. -/
theorem toList_repr_cases (value : Int) :
    (∃ n : Nat, value = n ∧ (Int.repr value).toList = Nat.toDigits 10 n) ∨
      ∃ n : Nat, n ≠ 0 ∧ value = -n ∧ (Int.repr value).toList = '-' :: Nat.toDigits 10 n := by
  rw [Int.repr_eq_if]
  by_cases positive : 0 ≤ value
  · refine .inl ⟨value.toNat, by omega, ?_⟩
    rw [if_pos positive, Nat.toList_repr]
  · refine .inr ⟨(-value).toNat, by omega, by omega, ?_⟩
    rw [if_neg positive, String.toList_append, Nat.toList_repr]
    rfl

/-- A number starts with a digit or the sign. -/
theorem toList_repr_eq_cons (value : Int) :
    ∃ c cs, (Int.repr value).toList = c :: cs ∧ (c.isDigit = true ∨ c = '-') := by
  obtain ⟨n, -, written⟩ | ⟨n, -, -, written⟩ := toList_repr_cases value
  · cases digits : Nat.toDigits 10 n with
    | nil => exact absurd digits Nat.toDigits_ne_nil
    | cons c cs =>
        refine ⟨c, cs, written.trans digits, .inl (isDigit_of_mem (n := n) c ?_)⟩
        rw [digits]
        exact List.mem_cons_self
  · exact ⟨'-', _, written, .inr rfl⟩

/-- What a number starts with is none of some characters that no number starts with. -/
theorem not_mem_of_starts {c : Char} (starts : c.isDigit = true ∨ c = '-') {cs : List Char}
    (none : cs.all (fun c => !c.isDigit && c != '-') = true) : c ∉ cs := by
  intro member
  have neither := List.all_eq_true.mp none c member
  obtain digit | rfl := starts
  · rw [digit] at neither
    cases neither
  · cases neither

theorem number?_unsigned {c : Char} (digit : c.isDigit = true) (cs : List Char) :
    number? (c :: cs) = unsigned? false (c :: cs) := by
  unfold number?
  split
  · next same =>
      cases same
      cases digit
  · rfl

/-- **A number is read as the number that was written.** -/
theorem number?_repr (ends : EndsNumber rest) (value : Int) :
    number? ((Int.repr value).toList ++ rest) = some (.integer value, rest) := by
  obtain ⟨n, rfl, written⟩ | ⟨n, nonzero, rfl, written⟩ := toList_repr_cases value
  · obtain ⟨c, cs, starts, digit | rfl⟩ := toList_repr_eq_cons (n : Int)
    · rw [starts, List.cons_append, number?_unsigned digit, ← List.cons_append, ← starts, written]
      exact unsigned?_toDigits ends (by rintro ⟨⟩)
    · rw [starts] at written
      exact absurd (isDigit_of_mem (n := n) '-' (by rw [← written]; exact List.mem_cons_self))
        (by decide)
  · rw [written]
    exact unsigned?_toDigits ends fun _ => nonzero

/-- So no two numbers are written alike. -/
theorem repr_inj {value other : Int} (same : Int.repr value = Int.repr other) : value = other := by
  have ends : EndsNumber [] := nofun
  have read := number?_repr ends value
  rw [same, number?_repr ends other, Option.some.injEq, Prod.mk.injEq] at read
  exact (Json.integer.inj read.1).symm

/-- The one number without an integer is read as such. -/
theorem number?_fraction (ends : EndsNumber rest) :
    number? ('0' :: '.' :: '0' :: rest) = some (.fraction, rest) := by
  have zero : ∀ c ∈ ['0'], c.isDigit = true := by
    intro c member
    obtain rfl := List.mem_singleton.mp member
    rfl
  have whole : digits? (['0'] ++ '.' :: '0' :: rest) = some (['0'], '.' :: '0' :: rest) :=
    digits?_append zero (by decide) (by rintro c ⟨⟩; rfl)
  have behind : digits? (['0'] ++ rest) = some (['0'], rest) :=
    digits?_append zero (by decide) ends.notDigit
  have fraction : fraction? ('.' :: '0' :: rest) = some (true, rest) := by
    rw [fraction?.eq_1]
    show (digits? (['0'] ++ rest)).map _ = _
    rw [behind]
    rfl
  rw [number?_unsigned rfl]
  show unsigned? false (['0'] ++ '.' :: '0' :: rest) = _
  unfold unsigned?
  simp only [whole, fraction, ends.exponent?, Option.bind_eq_bind, Option.bind_some]
  rfl

end DeclTree.Json
