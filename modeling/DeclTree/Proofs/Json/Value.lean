/-
**Values that are read back.**

Whatever blanks a value is written with, it is read as what was written. Reading looks for the end
of a value by itself, so this is stated in front of what follows:

* `value?_write`, `items?_writeItems`, `members?_writeMembers`: **the reader undoes the writer**, by
  induction on the value, in front of anything that does not go on with a number. Reading takes
  fuel, and three times the length of the text is enough, as a value takes at most three nested
  calls for each character (a member stands in an object that stands in the value);
* `write_eq_cons`: a value starts with no blank and no closing bracket, by which a collection with
  items is told from an empty one;
* `length_le_write`: what follows a value is no longer than the value with it, which is what the
  fuel is counted by;
* `parse?_write`: a whole text is read as the value that it was written from, hence
  `parse?_compact` and `parse?_pretty`.
-/

import DeclTree.Proofs.Json.Literal
import DeclTree.Proofs.Json.Number

namespace DeclTree.Json

variable {rest : List Char}

/-! ### Blanks -/

/-- A spacing that puts nothing but blanks, and the colon. -/
structure Spacing.IsBlank (spacing : Spacing) : Prop where
  lineBreak : ∀ depth, ∀ c ∈ spacing.lineBreak depth, Json.isBlank c = true
  colon : ∃ blanks, spacing.colon = ':' :: blanks ∧ ∀ c ∈ blanks, Json.isBlank c = true

theorem Spacing.isBlank_compact : Spacing.compact.IsBlank where
  lineBreak := fun _ _ member => nomatch member
  colon := ⟨[], rfl, fun _ member => nomatch member⟩

theorem Spacing.isBlank_pretty : Spacing.pretty.IsBlank where
  lineBreak := by
    intro depth c member
    obtain rfl | ⟨_, rfl⟩ := by simpa [Spacing.pretty] using member
    · rfl
    · rfl
  colon := by
    refine ⟨[' '], rfl, fun c member => ?_⟩
    obtain rfl := List.mem_singleton.mp member
    rfl

theorem skipBlanks_append {blanks : List Char} (blank : ∀ c ∈ blanks, isBlank c = true) :
    skipBlanks (blanks ++ rest) = skipBlanks rest :=
  List.dropWhile_append_of_pos blank

theorem skipBlanks_cons {c : Char} (solid : isBlank c = false) :
    skipBlanks (c :: rest) = c :: rest :=
  List.dropWhile_cons_of_neg (by simp [solid])

theorem skipBlanks_skipBlanks (cs : List Char) : skipBlanks (skipBlanks cs) = skipBlanks cs := by
  induction cs with
  | nil => rfl
  | cons c cs ih =>
      by_cases blank : isBlank c = true
      · have skipped : skipBlanks (c :: cs) = skipBlanks cs := List.dropWhile_cons_of_pos blank
        rw [skipped, ih]
      · rw [skipBlanks_cons (by simpa using blank), skipBlanks_cons (by simpa using blank)]

/-! ### Reading step by step -/

variable {fuel : Nat} {cs after : List Char}

theorem value?_number {c : Char} (starts : c.isDigit = true ∨ c = '-') :
    value? (fuel + 1) (c :: cs) = number? (c :: cs) := by
  have other : c ∉ ['n', 't', 'f', '"', '[', '\x7b'] := not_mem_of_starts starts rfl
  simp only [List.mem_cons, List.not_mem_nil, or_false, not_or] at other
  obtain ⟨null, true, false, quote, bracket, brace⟩ := other
  rw [value?.eq_8]
  · rintro rest ⟨⟩
    exact null rfl
  · rintro rest ⟨⟩
    exact true rfl
  · rintro rest ⟨⟩
    exact false rfl
  · rintro rest ⟨⟩
    exact quote rfl
  · rintro rest ⟨⟩
    exact bracket rfl
  · rintro rest ⟨⟩
    exact brace rfl

theorem items?_skipBlanks (fuel : Nat) (cs : List Char) :
    items? fuel (skipBlanks cs) = items? fuel cs := by
  cases fuel with
  | zero => rfl
  | succ fuel => rw [items?, items?, skipBlanks_skipBlanks]

theorem members?_skipBlanks (fuel : Nat) (cs : List Char) :
    members? fuel (skipBlanks cs) = members? fuel cs := by
  cases fuel with
  | zero => rfl
  | succ fuel => rw [members?, members?, skipBlanks_skipBlanks]

theorem value?_array {c : Char} {items : List Json} (starts : skipBlanks cs = c :: rest)
    (more : c ≠ ']') (read : items? fuel cs = some (items, after)) :
    value? (fuel + 1) ('[' :: cs) = some (.array items, after) := by
  rw [← items?_skipBlanks, starts] at read
  rw [value?, starts]
  split
  · next same =>
      cases same
      exact absurd rfl more
  · rw [read]
    rfl

theorem value?_object {c : Char} {members : List (Option String × Json)}
    (starts : skipBlanks cs = c :: rest) (more : c ≠ '\x7d')
    (read : members? fuel cs = some (members, after)) :
    value? (fuel + 1) ('\x7b' :: cs) = some (.object members, after) := by
  rw [← members?_skipBlanks, starts] at read
  rw [value?, starts]
  split
  · next same =>
      cases same
      exact absurd rfl more
  · rw [read]
    rfl

theorem items?_last {item : Json} (read : value? fuel (skipBlanks cs) = some (item, rest))
    (closes : skipBlanks rest = ']' :: after) :
    items? (fuel + 1) cs = some ([item], after) := by
  simp only [items?, read, Option.bind_eq_bind, Option.bind_some, closes]
  rfl

theorem items?_more {item : Json} {items : List Json}
    (read : value? fuel (skipBlanks cs) = some (item, ',' :: rest))
    (readMore : items? fuel rest = some (items, after)) :
    items? (fuel + 1) cs = some (item :: items, after) := by
  rw [items?, read]
  show (items? fuel rest).bind _ = _
  rw [readMore]
  rfl

theorem members?_last {member : Option String × Json}
    (read : member? fuel (skipBlanks cs) = some (member, rest))
    (closes : skipBlanks rest = '\x7d' :: after) :
    members? (fuel + 1) cs = some ([member], after) := by
  simp only [members?, read, Option.bind_eq_bind, Option.bind_some, closes]
  rfl

theorem members?_more {member : Option String × Json} {members : List (Option String × Json)}
    (read : member? fuel (skipBlanks cs) = some (member, ',' :: rest))
    (readMore : members? fuel rest = some (members, after)) :
    members? (fuel + 1) cs = some (member :: members, after) := by
  rw [members?, read]
  show (members? fuel rest).bind _ = _
  rw [readMore]
  rfl

/-! ### What a written value looks like -/

theorem endsNumber_cons {c : Char} (stops : continuesNumber c = false) (cs : List Char) :
    EndsNumber (c :: cs) := by
  rintro first ⟨⟩
  exact stops

theorem endsNumber_append {blanks : List Char} (blank : ∀ c ∈ blanks, isBlank c = true)
    (ends : EndsNumber rest) : EndsNumber (blanks ++ rest) := by
  cases blanks with
  | nil => exact ends
  | cons c blanks =>
      have first := blank c List.mem_cons_self
      simp only [isBlank, Bool.or_eq_true, decide_eq_true_eq] at first
      refine endsNumber_cons ?_ _
      obtain ((rfl | rfl) | rfl) | rfl := first <;> decide

variable {spacing : Spacing}

/-- A value starts with a character that is neither a blank nor the end of an array. -/
theorem write_eq_cons (spacing : Spacing) (depth : Nat) (json : Json) (rest : List Char) :
    ∃ c cs, write spacing depth json rest = c :: cs ∧ isBlank c = false ∧ c ≠ ']' := by
  cases json with
  | null => exact ⟨_, _, rfl, by decide, by decide⟩
  | boolean value => cases value <;> exact ⟨_, _, rfl, by decide, by decide⟩
  | integer value =>
      obtain ⟨c, cs, starts, first⟩ := toList_repr_eq_cons value
      have other : c ∉ [' ', '\t', '\n', '\r', ']'] := not_mem_of_starts first rfl
      simp only [List.mem_cons, List.not_mem_nil, or_false, not_or] at other
      refine ⟨c, cs ++ rest, ?_, by simp [isBlank, other], other.2.2.2.2⟩
      rw [write, starts]
      rfl
  | fraction => exact ⟨_, _, rfl, by decide, by decide⟩
  | string text =>
      refine ⟨'"', literalTail text ++ rest, ?_, by decide, by decide⟩
      rw [write, writeLiteral_eq_cons]
      rfl
  | array items => cases items <;> exact ⟨_, _, rfl, by decide, by decide⟩
  | object members => cases members <;> exact ⟨_, _, rfl, by decide, by decide⟩

theorem skipBlanks_write (depth : Nat) (json : Json) (rest : List Char) :
    skipBlanks (write spacing depth json rest) = write spacing depth json rest := by
  obtain ⟨c, cs, starts, solid, -⟩ := write_eq_cons spacing depth json rest
  rw [starts, skipBlanks_cons solid]

theorem skipBlanks_writeLiteral (name : Option String) (rest : List Char) :
    skipBlanks (writeLiteral name ++ rest) = writeLiteral name ++ rest := by
  rw [writeLiteral_eq_cons, List.cons_append, skipBlanks_cons (by decide)]

theorem skipBlanks_writeItems (blank : spacing.IsBlank) (depth : Nat) (item : Json)
    (items : List Json) (rest : List Char) :
    ∃ c cs, skipBlanks (writeItems spacing depth (item :: items) rest) = c :: cs ∧ c ≠ ']' := by
  have first : ∃ behind, writeItems spacing depth (item :: items) rest =
      spacing.lineBreak depth ++ write spacing depth item behind := by
    cases items <;> exact ⟨_, rfl⟩
  obtain ⟨behind, written⟩ := first
  obtain ⟨c, cs, starts, -, more⟩ := write_eq_cons spacing depth item behind
  refine ⟨c, cs, ?_, more⟩
  rw [written, skipBlanks_append (blank.lineBreak depth), skipBlanks_write, starts]

theorem skipBlanks_writeMembers (blank : spacing.IsBlank) (depth : Nat)
    (member : Option String × Json) (members : List (Option String × Json)) (rest : List Char) :
    ∃ cs, skipBlanks (writeMembers spacing depth (member :: members) rest) = '"' :: cs := by
  have first : ∃ behind, writeMembers spacing depth (member :: members) rest =
      spacing.lineBreak depth ++ (writeLiteral member.1 ++ behind) := by
    cases members <;> exact ⟨_, by simp only [writeMembers, List.append_assoc]; rfl⟩
  obtain ⟨behind, written⟩ := first
  refine ⟨literalTail member.1 ++ behind, ?_⟩
  rw [written, skipBlanks_append (blank.lineBreak depth), skipBlanks_writeLiteral,
    writeLiteral_eq_cons]
  rfl

theorem length_writeLiteral_pos (name : Option String) : 0 < (writeLiteral name).length := by
  rw [writeLiteral_eq_cons]
  exact Nat.succ_pos _

theorem member?_written (blank : spacing.IsBlank) {depth : Nat} {name : Option String}
    {json value : Json}
    (read : value? fuel (write spacing depth json rest) = some (value, after)) :
    member? (fuel + 1) (writeLiteral name ++ (spacing.colon ++ write spacing depth json rest)) =
      some ((name, value), after) := by
  obtain ⟨blanks, colon, blank⟩ := blank.colon
  have starts : skipBlanks (':' :: blanks ++ write spacing depth json rest) =
      ':' :: (blanks ++ write spacing depth json rest) := skipBlanks_cons (by decide)
  rw [writeLiteral_eq_cons, List.cons_append, member?, readLiteral?_literalTail, colon]
  simp only [Option.bind_eq_bind, Option.bind_some, starts]
  rw [skipBlanks_append blank, skipBlanks_write, read]
  rfl

/-! ### Writing prolongs what follows -/

mutual

theorem length_le_write (spacing : Spacing) (depth : Nat) : ∀ (json : Json) (rest : List Char),
    rest.length ≤ (write spacing depth json rest).length
  | .null, rest => by simp only [write, List.length_cons]; omega
  | .boolean true, rest => by simp only [write, List.length_cons]; omega
  | .boolean false, rest => by simp only [write, List.length_cons]; omega
  | .integer _, rest => by simp only [write, List.length_append]; omega
  | .fraction, rest => by simp only [write, List.length_cons]; omega
  | .string _, rest => by simp only [write, List.length_append]; omega
  | .array [], rest => by simp only [write, List.length_cons]; omega
  | .array (item :: items), rest => by
      have inside := length_le_writeItems spacing (depth + 1) (item :: items)
        (spacing.lineBreak depth ++ ']' :: rest)
      simp only [write, List.length_cons, List.length_append] at inside ⊢
      omega
  | .object [], rest => by simp only [write, List.length_cons]; omega
  | .object (member :: members), rest => by
      have inside := length_le_writeMembers spacing (depth + 1) (member :: members)
        (spacing.lineBreak depth ++ '\x7d' :: rest)
      simp only [write, List.length_cons, List.length_append] at inside ⊢
      omega

theorem length_le_writeItems (spacing : Spacing) (depth : Nat) :
    ∀ (items : List Json) (rest : List Char),
      rest.length ≤ (writeItems spacing depth items rest).length
  | [], rest => Nat.le_refl _
  | [item], rest => by
      have one := length_le_write spacing depth item rest
      simp only [writeItems, List.length_append]
      omega
  | item :: next :: items, rest => by
      have one := length_le_write spacing depth item
        (',' :: writeItems spacing depth (next :: items) rest)
      have more := length_le_writeItems spacing depth (next :: items) rest
      rw [writeItems.eq_3 _ _ _ _ _ (by simp)]
      simp only [List.length_cons, List.length_append] at one ⊢
      omega

theorem length_le_writeMembers (spacing : Spacing) (depth : Nat) :
    ∀ (members : List (Option String × Json)) (rest : List Char),
      rest.length ≤ (writeMembers spacing depth members rest).length
  | [], rest => Nat.le_refl _
  | [(name, value)], rest => by
      have one := length_le_write spacing depth value rest
      simp only [writeMembers, List.length_append]
      omega
  | (name, value) :: next :: members, rest => by
      have one := length_le_write spacing depth value
        (',' :: writeMembers spacing depth (next :: members) rest)
      have more := length_le_writeMembers spacing depth (next :: members) rest
      rw [writeMembers.eq_3 _ _ _ _ _ _ (by simp)]
      simp only [List.length_cons, List.length_append] at one ⊢
      omega

end

/-! ### Values -/

mutual

/-- **A value is read as what was written**, if the fuel is enough for its text and no number is
continued by what follows. -/
theorem value?_write (blank : spacing.IsBlank) (depth : Nat) :
    ∀ (json : Json) {rest : List Char} {fuel : Nat}, EndsNumber rest →
      3 * (write spacing depth json rest).length < fuel →
        value? fuel (write spacing depth json rest) = some (json, rest)
  | _, _, 0, _, enough => absurd enough (Nat.not_lt_zero _)
  | .null, _, _ + 1, _, _ => rfl
  | .boolean true, _, _ + 1, _, _ => rfl
  | .boolean false, _, _ + 1, _, _ => rfl
  | .integer value, rest, fuel + 1, ends, _ => by
      obtain ⟨c, cs, starts, first⟩ := toList_repr_eq_cons value
      rw [write, ← number?_repr ends value, starts]
      exact value?_number first
  | .fraction, rest, fuel + 1, ends, _ => by
      rw [write, ← number?_fraction ends]
      exact value?_number (.inl (by decide))
  | .string text, rest, fuel + 1, _, _ => by
      rw [write, writeLiteral_eq_cons, List.cons_append, value?, readLiteral?_literalTail]
      rfl
  | .array [], _, _ + 1, _, _ => by
      rw [write, value?, skipBlanks_cons (by decide)]
      rfl
  | .array (item :: items), rest, fuel + 1, _, enough => by
      rw [write.eq_8 _ _ _ _ (by simp)] at enough ⊢
      obtain ⟨c, cs, starts, more⟩ := skipBlanks_writeItems blank (depth + 1) item items
        (spacing.lineBreak depth ++ ']' :: rest)
      refine value?_array starts more ?_
      refine items?_writeItems blank (depth + 1) (item :: items) (by simp)
        (blank.lineBreak depth) ?_
      simp only [List.length_cons] at enough
      omega
  | .object [], _, _ + 1, _, _ => by
      rw [write, value?, skipBlanks_cons (by decide)]
      rfl
  | .object (member :: members), rest, fuel + 1, _, enough => by
      rw [write.eq_10 _ _ _ _ (by simp)] at enough ⊢
      obtain ⟨cs, starts⟩ := skipBlanks_writeMembers blank (depth + 1) member members
        (spacing.lineBreak depth ++ '\x7d' :: rest)
      refine value?_object starts (by decide) ?_
      refine members?_writeMembers blank (depth + 1) (member :: members) (by simp)
        (blank.lineBreak depth) ?_
      simp only [List.length_cons] at enough
      omega

theorem items?_writeItems (blank : spacing.IsBlank) (depth : Nat) :
    ∀ (items : List Json) {closing rest : List Char} {fuel : Nat}, items ≠ [] →
      (∀ c ∈ closing, isBlank c = true) →
        3 * (writeItems spacing depth items (closing ++ ']' :: rest)).length + 2 < fuel →
          items? fuel (writeItems spacing depth items (closing ++ ']' :: rest)) =
            some (items, rest)
  | _, _, _, 0, _, _, enough => absurd enough (Nat.not_lt_zero _)
  | [], _, _, _, nonempty, _, _ => absurd rfl nonempty
  | [item], closing, rest, fuel + 1, _, closes, enough => by
      rw [writeItems] at enough ⊢
      have closed : skipBlanks (closing ++ ']' :: rest) = ']' :: rest := by
        rw [skipBlanks_append closes, skipBlanks_cons (by decide)]
      refine items?_last ?_ closed
      rw [skipBlanks_append (blank.lineBreak depth), skipBlanks_write]
      refine value?_write blank depth item ?_ ?_
      · exact endsNumber_append closes (endsNumber_cons (by decide) _)
      · rw [List.length_append] at enough
        omega
  | item :: next :: items, closing, rest, fuel + 1, _, closes, enough => by
      rw [writeItems.eq_3 _ _ _ _ _ (by simp)] at enough ⊢
      have shorter := length_le_write spacing depth item
        (',' :: writeItems spacing depth (next :: items) (closing ++ ']' :: rest))
      rw [List.length_append] at enough
      rw [List.length_cons] at shorter
      refine items?_more ?_ (items?_writeItems blank depth (next :: items) (by simp) closes ?_)
      · rw [skipBlanks_append (blank.lineBreak depth), skipBlanks_write]
        refine value?_write blank depth item (endsNumber_cons (by decide) _) ?_
        omega
      · omega

theorem members?_writeMembers (blank : spacing.IsBlank) (depth : Nat) :
    ∀ (members : List (Option String × Json)) {closing rest : List Char} {fuel : Nat},
      members ≠ [] → (∀ c ∈ closing, isBlank c = true) →
        3 * (writeMembers spacing depth members (closing ++ '\x7d' :: rest)).length + 2 < fuel →
          members? fuel (writeMembers spacing depth members (closing ++ '\x7d' :: rest)) =
            some (members, rest)
  | _, _, _, 0, _, _, enough => absurd enough (Nat.not_lt_zero _)
  | [], _, _, _, nonempty, _, _ => absurd rfl nonempty
  | [(name, value)], closing, rest, fuel + 1, _, closes, enough => by
      rw [writeMembers, List.append_assoc, List.append_assoc] at enough ⊢
      simp only [List.length_append] at enough
      obtain ⟨fuel, rfl⟩ : ∃ less, fuel = less + 1 := ⟨fuel - 1, by omega⟩
      have closed : skipBlanks (closing ++ '\x7d' :: rest) = '\x7d' :: rest := by
        rw [skipBlanks_append closes, skipBlanks_cons (by decide)]
      refine members?_last ?_ closed
      rw [skipBlanks_append (blank.lineBreak depth), skipBlanks_writeLiteral]
      refine member?_written blank (value?_write blank depth value ?_ ?_)
      · exact endsNumber_append closes (endsNumber_cons (by decide) _)
      · have quote := length_writeLiteral_pos name
        omega
  | (name, value) :: next :: members, closing, rest, fuel + 1, _, closes, enough => by
      rw [writeMembers.eq_3 _ _ _ _ _ _ (by simp), List.append_assoc, List.append_assoc]
        at enough ⊢
      have shorter := length_le_write spacing depth value
        (',' :: writeMembers spacing depth (next :: members) (closing ++ '\x7d' :: rest))
      simp only [List.length_append] at enough
      rw [List.length_cons] at shorter
      obtain ⟨fuel, rfl⟩ : ∃ less, fuel = less + 1 := ⟨fuel - 1, by omega⟩
      refine members?_more ?_
        (members?_writeMembers blank depth (next :: members) (by simp) closes ?_)
      · rw [skipBlanks_append (blank.lineBreak depth), skipBlanks_writeLiteral]
        refine member?_written blank
          (value?_write blank depth value (endsNumber_cons (by decide) _) ?_)
        have quote := length_writeLiteral_pos name
        omega
      · omega

end

/-- **A text is read as the value that it was written from**, with any blanks. -/
theorem parse?_write (blank : spacing.IsBlank) (depth : Nat) (json : Json) :
    parse? (String.ofList (write spacing depth json [])) = some json := by
  unfold parse?
  rw [String.toList_ofList]
  simp only [skipBlanks_write]
  rw [value?_write blank depth json (by rintro c ⟨⟩) (Nat.lt_succ_self _)]
  rfl

theorem parse?_compact (json : Json) : parse? json.compact = some json :=
  parse?_write Spacing.isBlank_compact 0 json

theorem parse?_pretty (json : Json) : parse? json.pretty = some json :=
  parse?_write Spacing.isBlank_pretty 0 json

end DeclTree.Json
