/-
**Texts that a character ends.**

Up to the first place where a character stands, a text is what it is whatever comes behind that
place (`takeWhile_append_cons`). So a text without the character is found again in front of it
(`append_cons_inj`), as a line is in front of its line break.
-/

import Mathlib.Data.List.TakeWhile

namespace DeclTree.Text

variable {c : Char}

theorem takeWhile_append_cons (c : Char) (before after : List Char) :
    (before ++ c :: after).takeWhile (· ≠ c) = before.takeWhile (· ≠ c) := by
  induction before with
  | nil => simp
  | cons d rest ih =>
      by_cases same : d = c
      · simp [same]
      · simpa [same] using ih

theorem not_mem_takeWhile (c : Char) (cs : List Char) : c ∉ cs.takeWhile (· ≠ c) := by
  intro member
  simpa using List.mem_takeWhile_imp member

theorem takeWhile_eq_self_iff (c : Char) (cs : List Char) :
    cs.takeWhile (· ≠ c) = cs ↔ c ∉ cs := by
  constructor
  · intro whole
    rw [← whole]
    exact not_mem_takeWhile c cs
  · intro absent
    rw [List.takeWhile_eq_self_iff]
    intro d member
    have other : d ≠ c := fun same => absent (same ▸ member)
    simpa using other

/-- What stands before the first place of a character, and what stands behind it. -/
theorem append_cons_inj {before other after more : List Char} (absent : c ∉ before)
    (otherAbsent : c ∉ other) (same : before ++ c :: after = other ++ c :: more) :
    before = other ∧ after = more := by
  have starts : before = other :=
    calc before = before.takeWhile (· ≠ c) := ((takeWhile_eq_self_iff c before).mpr absent).symm
      _ = (before ++ c :: after).takeWhile (· ≠ c) := (takeWhile_append_cons c before after).symm
      _ = (other ++ c :: more).takeWhile (· ≠ c) := by rw [same]
      _ = other.takeWhile (· ≠ c) := takeWhile_append_cons c other more
      _ = other := (takeWhile_eq_self_iff c other).mpr otherAbsent
  rw [starts] at same
  exact ⟨starts, (List.cons.inj (List.append_cancel_left same)).2⟩

end DeclTree.Text
