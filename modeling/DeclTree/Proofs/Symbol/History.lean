/-
**A symbol table after any calls.**

A table is filled by declaring symbols in it and by inserting symbols that were made before, some of
them perhaps several times. `TableRun` is a table together with the symbols that were inserted into
it, in the order of the insertions. All that the table answers can be read from this list: the
overloads of a name are its symbols of that name, each once (`Symbol.distinct`), and whether a name
resolves depends on nothing but which symbols of that name are in it.

* `distinct_concat`: one more insertion either adds its symbol at the end or changes nothing;
* `references_insertAll`, `size_insertAll`: overloads and sizes, from the list of insertions;
* `resolve_eq_ok_iff_only`, `resolve_eq_unresolved_iff`, `resolve_eq_ambiguous_iff`: how a name
  resolves, and `resolve_congr`: in what order its overloads stand does not matter;
* `TableRun.sound_after`: in a run, symbols are told apart by their identities;
* `table_exact`: **what a table answers after any calls**.
-/

import DeclTree.Context
import Mathlib.Data.List.Induction
import Mathlib.Data.List.Nodup
import Mathlib.Data.List.Perm.Basic

namespace DeclTree

/-! ### Symbols without repetitions -/

namespace Symbol

/-- Some symbols, each once, in the order in which they first come. -/
def distinct (history : List Symbol) : List Symbol := history.eraseDupsBy same

/-- No two of the symbols have one identity. -/
def ToldApart (symbols : List Symbol) : Prop :=
  ∀ symbol ∈ symbols, ∀ other ∈ symbols, symbol.id = other.id → symbol = other

theorem same_iff {symbol other : Symbol} : symbol.same other = true ↔ symbol.id = other.id :=
  decide_eq_true_iff

end Symbol

namespace SymbolTable

variable {symbol other : Symbol} {history made : List Symbol}

theorem addOverload_of_any (there : history.any symbol.same = true) :
    addOverload symbol history = history :=
  if_pos there

theorem addOverload_of_not_any (absent : ¬ history.any symbol.same = true) :
    addOverload symbol history = history ++ [symbol] :=
  if_neg absent

/-- **One more symbol comes last, or it was there already.** -/
theorem distinct_concat (history : List Symbol) (symbol : Symbol) :
    Symbol.distinct (history ++ [symbol]) = addOverload symbol (Symbol.distinct history) := by
  cases history with
  | nil => rfl
  | cons first rest =>
      have tail := distinct_concat (rest.filter fun later => later.same first = false) symbol
      unfold Symbol.distinct at tail ⊢
      rw [List.cons_append, List.eraseDupsBy_cons, List.eraseDupsBy_cons, List.filter_append]
      by_cases again : symbol.same first = true
      · have dropped : [symbol].filter (fun later => later.same first = false) = [] := by
          simp [again]
        rw [dropped, List.append_nil, addOverload_of_any (by simp [again])]
      · have kept : [symbol].filter (fun later => later.same first = false) = [symbol] := by
          simp [again]
        rw [kept, tail]
        unfold addOverload
        rw [List.any_cons, Bool.eq_false_iff.mpr again, Bool.false_or]
        split <;> rfl
termination_by history.length
decreasing_by exact Nat.lt_succ_of_le (List.length_filter_le _ _)

theorem addOverload_ne_nil (symbol : Symbol) (overloads : List Symbol) :
    addOverload symbol overloads ≠ [] := by
  by_cases there : overloads.any symbol.same = true
  · obtain ⟨other, member, _⟩ := List.any_eq_true.mp there
    rw [addOverload_of_any there]
    exact List.ne_nil_of_mem member
  · rw [addOverload_of_not_any there]
    exact List.concat_ne_nil _ _

theorem nodup_addOverload (nodup : history.Nodup) : (addOverload symbol history).Nodup := by
  by_cases there : history.any symbol.same = true
  · rwa [addOverload_of_any there]
  · rw [addOverload_of_not_any there]
    have absent : symbol ∉ history := fun member =>
      there (List.any_eq_true.mpr ⟨symbol, member, Symbol.same_iff.mpr rfl⟩)
    exact List.concat_eq_append ▸ (List.nodup_concat _ _).mpr ⟨absent, nodup⟩

theorem nodup_distinct (history : List Symbol) : (Symbol.distinct history).Nodup := by
  induction history using List.reverseRecOn with
  | nil => exact List.nodup_nil
  | append_singleton history symbol ih =>
      rw [distinct_concat]
      exact nodup_addOverload ih

/-! ### Symbols that are told apart by their identities -/

section ToldApart

variable (told : Symbol.ToldApart made)
include told

theorem any_same_iff (here : symbol ∈ made) (within : history ⊆ made) :
    history.any symbol.same = true ↔ symbol ∈ history := by
  rw [List.any_eq_true]
  constructor
  · rintro ⟨other, member, same⟩
    rwa [told symbol here other (within member) (Symbol.same_iff.mp same)]
  · exact fun member => ⟨symbol, member, Symbol.same_iff.mpr rfl⟩

theorem mem_addOverload_iff (here : symbol ∈ made) (within : history ⊆ made) :
    other ∈ addOverload symbol history ↔ other ∈ history ∨ other = symbol := by
  by_cases there : history.any symbol.same = true
  · have member : symbol ∈ history := (any_same_iff told here within).mp there
    rw [addOverload_of_any there]
    exact ⟨Or.inl, fun either => either.elim id fun same => same ▸ member⟩
  · rw [addOverload_of_not_any there, List.mem_append, List.mem_singleton]

theorem mem_distinct_iff (within : history ⊆ made) :
    symbol ∈ Symbol.distinct history ↔ symbol ∈ history := by
  induction history using List.reverseRecOn generalizing symbol with
  | nil => exact Iff.rfl
  | append_singleton history last ih =>
      obtain ⟨before, ends⟩ := List.append_subset.mp within
      have inside : Symbol.distinct history ⊆ made := fun _ member => before ((ih before).mp member)
      rw [distinct_concat, mem_addOverload_iff told (ends (List.mem_singleton_self _)) inside,
        ih before, List.mem_append, List.mem_singleton]

/-- A symbol that is the same as one of them is one of them. -/
theorem any_same_distinct_iff (here : symbol ∈ made) (within : history ⊆ made) :
    (Symbol.distinct history).any symbol.same = true ↔ symbol ∈ history := by
  have inside : Symbol.distinct history ⊆ made := fun _ member =>
    within ((mem_distinct_iff told within).mp member)
  rw [any_same_iff told here inside, mem_distinct_iff told within]

end ToldApart

/-! ### One insertion, and all of them -/

/-- The table into which some symbols were inserted, the first one first. -/
def insertAll (history : List Symbol) : SymbolTable := history.foldl insert .empty

theorem insertAll_concat (history : List Symbol) (symbol : Symbol) :
    insertAll (history ++ [symbol]) = (insertAll history).insert symbol :=
  List.foldl_concat _ _ _ _

/-- **The overloads of a name are the symbols of that name that were inserted, each once.** -/
theorem references_insertAll (history : List Symbol) (name : QualName) :
    (insertAll history).references name =
      Symbol.distinct (history.filter fun symbol => symbol.name = name) := by
  induction history using List.reverseRecOn with
  | nil => rfl
  | append_singleton history symbol ih =>
      rw [insertAll_concat, references_insert, ih, List.filter_append]
      by_cases named : symbol.name = name
      · have kept : [symbol].filter (fun symbol => symbol.name = name) = [symbol] := by
          simp [named]
        rw [if_pos named, kept, distinct_concat]
      · have dropped : [symbol].filter (fun symbol => symbol.name = name) = [] := by
          simp [named]
        rw [if_neg named, dropped, List.append_nil]

theorem length_addOverload (symbol : Symbol) (overloads : List Symbol) :
    (addOverload symbol overloads).length =
      overloads.length + if overloads.any symbol.same then 0 else 1 := by
  unfold addOverload
  split
  · rfl
  · exact List.length_append

/-- The table grows as much as the overloads of the name do. -/
theorem size_insert_add (table : SymbolTable) (symbol : Symbol) :
    (table.insert symbol).size + (table.references symbol.name).length =
      table.size + (addOverload symbol (table.references symbol.name)).length := by
  obtain ⟨entries⟩ := table
  simp only [insert, references, size]
  induction entries with
  | nil => rfl
  | cons entry rest ih =>
      by_cases hit : entry.1 = symbol.name
      · simp only [insertEntry, hit, if_true, List.foldr_cons, List.find?_cons_of_pos, decide_true,
          Option.map_some, Option.getD_some]
        omega
      · have skipped : (entry :: rest).find? (fun entry => entry.1 = symbol.name) =
            rest.find? fun entry => entry.1 = symbol.name :=
          List.find?_cons_of_neg (by simpa using hit)
        rw [skipped]
        simp only [insertEntry, hit, if_false, List.foldr_cons]
        omega

/-- Only a symbol that is new to the overloads of its name is counted. -/
theorem size_insert (table : SymbolTable) (symbol : Symbol) :
    (table.insert symbol).size =
      table.size + if (table.references symbol.name).any symbol.same then 0 else 1 := by
  have grown := size_insert_add table symbol
  rw [length_addOverload] at grown
  omega

/-- **The table has as many symbols as were inserted, each counted once.** -/
theorem size_insertAll (told : Symbol.ToldApart made) (within : history ⊆ made) :
    (insertAll history).size = (Symbol.distinct history).length := by
  induction history using List.reverseRecOn with
  | nil => rfl
  | append_singleton history symbol ih =>
      obtain ⟨before, ends⟩ := List.append_subset.mp within
      have here : symbol ∈ made := ends (List.mem_singleton_self _)
      have ofName : history.filter (fun other => other.name = symbol.name) ⊆ made :=
        List.Subset.trans (List.filter_subset_self _) before
      have known : (Symbol.distinct (history.filter fun other => other.name = symbol.name)).any
          symbol.same = (Symbol.distinct history).any symbol.same := by
        rw [Bool.eq_iff_iff, any_same_distinct_iff told here ofName,
          any_same_distinct_iff told here before, List.mem_filter]
        exact and_iff_left (decide_eq_true rfl)
      rw [insertAll_concat, size_insert, references_insertAll, known, ih before, distinct_concat,
        length_addOverload]

theorem isEmpty_insert (table : SymbolTable) (symbol : Symbol) :
    (table.insert symbol).isEmpty = false := by
  obtain ⟨entries⟩ := table
  cases entries with
  | nil => rfl
  | cons entry rest =>
      show List.isEmpty (insertEntry symbol (entry :: rest)) = false
      unfold insertEntry
      split <;> rfl

/-- A table without names is one without symbols. -/
theorem isEmpty_insertAll_iff (told : Symbol.ToldApart made) (within : history ⊆ made) :
    (insertAll history).isEmpty = true ↔ (insertAll history).size = 0 := by
  induction history using List.reverseRecOn with
  | nil => exact iff_of_true rfl rfl
  | append_singleton history symbol _ =>
      refine iff_of_false ?_ ?_
      · rw [insertAll_concat, isEmpty_insert]
        exact Bool.false_ne_true
      · rw [size_insertAll told within, distinct_concat, List.length_eq_zero_iff]
        exact addOverload_ne_nil symbol _

/-! ### How a name resolves -/

variable {table another : SymbolTable} {name : QualName} {fits : Symbol → Bool}

theorem resolve_eq_ok_iff :
    table.resolve name fits = .ok symbol ↔ (table.references name).filter fits = [symbol] := by
  unfold resolve
  rcases (table.references name).filter fits with _ | ⟨first, _ | ⟨second, rest⟩⟩ <;> simp

/-- **A name resolves to the only overload that fits.** -/
theorem resolve_eq_ok_iff_only (nodup : (table.references name).Nodup) :
    table.resolve name fits = .ok symbol ↔
      ∀ other, other ∈ table.references name ∧ fits other = true ↔ other = symbol := by
  rw [resolve_eq_ok_iff, ← List.perm_singleton,
    List.perm_ext_iff_of_nodup (nodup.filter fits) (List.nodup_singleton symbol)]
  simp only [List.mem_filter, List.mem_singleton]

theorem resolve_eq_unresolved_iff :
    table.resolve name fits = .error (.unresolved name) ↔
      ∀ other ∈ table.references name, fits other = false := by
  have none : (table.references name).filter fits = [] ↔
      ∀ other ∈ table.references name, fits other = false := by
    simp [List.filter_eq_nil_iff]
  rw [← none]
  unfold resolve
  rcases (table.references name).filter fits with _ | ⟨first, _ | ⟨second, rest⟩⟩ <;> simp

/-- Where several overloads fit, all of them are counted. -/
theorem resolve_eq_ambiguous_iff {count : Nat} :
    table.resolve name fits = .error (.ambiguous name count) ↔
      2 ≤ count ∧ count = (table.references name).countP fits := by
  rw [List.countP_eq_length_filter]
  unfold resolve
  rcases (table.references name).filter fits with _ | ⟨first, _ | ⟨second, rest⟩⟩
  · simp
    omega
  · simp
    omega
  · simp
    omega

/-- The order of the overloads does not matter. -/
theorem resolve_congr (same : (table.references name).Perm (another.references name)) :
    table.resolve name fits = another.resolve name fits := by
  have fitting : ((table.references name).filter fits).Perm
      ((another.references name).filter fits) := same.filter fits
  unfold resolve
  generalize (table.references name).filter fits = found at fitting ⊢
  generalize (another.references name).filter fits = others at fitting ⊢
  have long : found.length = others.length := fitting.length_eq
  rcases found with _ | ⟨first, _ | ⟨second, rest⟩⟩
  · rw [List.nil_perm.mp fitting]
  · rw [List.singleton_perm.mp fitting]
  · rcases others with _ | ⟨_, _ | ⟨_, more⟩⟩
    · cases long
    · cases long
    · have tails : rest.length = more.length := by simpa using long
      simp [tails]

end SymbolTable

/-! ### Calls on a table -/

/-- A call on a table, or the making of a symbol for a later one. -/
inductive TableCall where
  /-- A symbol is made, for whatever else. -/
  | make (signature : Signature)
  | declare (signature : Signature)
  /-- A symbol that was made is inserted. Other symbols do not exist. -/
  | insert (symbol : Symbol)

/-- A table that is being filled. -/
structure TableRun where
  supply : SymbolSupply
  /-- The symbols that exist. -/
  made : List Symbol
  /-- The symbols that were declared in the table or inserted, the first one first. -/
  inserted : List Symbol
  table : SymbolTable

namespace TableRun

open SymbolTable

/-- A new table. -/
def start (supply : SymbolSupply) : TableRun := ⟨supply, [], [], .empty⟩

/-- The table after a call. -/
def apply (run : TableRun) : TableCall → TableRun
  | .make signature =>
      let (symbol, supply) := run.supply.fresh signature
      { run with supply := supply, made := symbol :: run.made }
  | .declare signature =>
      let (symbol, table, supply) := run.table.declare run.supply signature
      ⟨supply, symbol :: run.made, run.inserted ++ [symbol], table⟩
  | .insert symbol =>
      if symbol ∈ run.made then
        { run with inserted := run.inserted ++ [symbol], table := run.table.insert symbol }
      else run

/-- What some calls make of a table, the first one first. -/
def after (run : TableRun) (calls : List TableCall) : TableRun := calls.foldl apply run

/-- The symbols of a run are told apart by their identities, and the table is filled with those that
were inserted. -/
structure Sound (run : TableRun) : Prop where
  numbered : ∀ symbol ∈ run.made, symbol.id.number < run.supply.next
  told : Symbol.ToldApart run.made
  within : run.inserted ⊆ run.made
  filled : run.table = insertAll run.inserted

theorem sound_start (supply : SymbolSupply) : (start supply).Sound where
  numbered := fun _ member => nomatch member
  told := fun _ member => nomatch member
  within := List.Subset.refl []
  filled := rfl

theorem apply_insert {run : TableRun} {symbol : Symbol} (there : symbol ∈ run.made) :
    run.apply (.insert symbol) =
      { run with inserted := run.inserted ++ [symbol], table := run.table.insert symbol } :=
  if_pos there

theorem apply_insert_of_not_mem {run : TableRun} {symbol : Symbol} (absent : symbol ∉ run.made) :
    run.apply (.insert symbol) = run :=
  if_neg absent

/-- A new identity is above all others. -/
theorem Sound.make {run : TableRun} (sound : run.Sound) (signature : Signature) :
    (run.apply (.make signature)).Sound where
  numbered := by
    rintro symbol (_ | ⟨_, before⟩)
    · exact Nat.lt_succ_self _
    · exact Nat.lt_succ_of_lt (sound.numbered symbol before)
  told := by
    rintro symbol (_ | ⟨_, before⟩) other (_ | ⟨_, earlier⟩) same
    · rfl
    · exact absurd (congrArg SymbolId.number same) (Nat.ne_of_gt (sound.numbered other earlier))
    · exact absurd (congrArg SymbolId.number same) (Nat.ne_of_lt (sound.numbered symbol before))
    · exact sound.told symbol before other earlier same
  within := fun _ member => List.mem_cons_of_mem _ (sound.within member)
  filled := sound.filled

theorem Sound.insert {run : TableRun} (sound : run.Sound) (symbol : Symbol) :
    (run.apply (.insert symbol)).Sound := by
  by_cases there : symbol ∈ run.made
  · rw [apply_insert there]
    exact {
      numbered := sound.numbered
      told := sound.told
      within := List.append_subset.mpr
        ⟨sound.within, List.cons_subset.mpr ⟨there, List.nil_subset _⟩⟩
      filled := by rw [insertAll_concat, ← sound.filled] }
  · rw [apply_insert_of_not_mem there]
    exact sound

/-- To declare is to make a symbol and to insert it. -/
theorem apply_declare (run : TableRun) (signature : Signature) :
    run.apply (.declare signature) =
      (run.apply (.make signature)).apply (.insert (run.supply.fresh signature).1) := by
  have there : (run.supply.fresh signature).1 ∈ (run.apply (.make signature)).made :=
    List.mem_cons_self
  exact (apply_insert there).symm

theorem Sound.apply {run : TableRun} (sound : run.Sound) (call : TableCall) :
    (run.apply call).Sound := by
  cases call with
  | make signature => exact sound.make signature
  | declare signature =>
      rw [apply_declare]
      exact (sound.make signature).insert _
  | insert symbol => exact sound.insert symbol

theorem Sound.after {run : TableRun} (sound : run.Sound) (calls : List TableCall) :
    (run.after calls).Sound := by
  induction calls generalizing run with
  | nil => exact sound
  | cons call calls ih => exact ih (sound.apply call)

theorem sound_after (supply : SymbolSupply) (calls : List TableCall) :
    ((start supply).after calls).Sound :=
  (sound_start supply).after calls

variable {run : TableRun}

theorem Sound.references (sound : run.Sound) (name : QualName) :
    run.table.references name =
      Symbol.distinct (run.inserted.filter fun symbol => symbol.name = name) := by
  rw [sound.filled, references_insertAll]

theorem Sound.nodup_references (sound : run.Sound) (name : QualName) :
    (run.table.references name).Nodup := by
  rw [sound.references]
  exact nodup_distinct _

theorem Sound.mem_references_iff (sound : run.Sound) {name : QualName} {symbol : Symbol} :
    symbol ∈ run.table.references name ↔ symbol ∈ run.inserted ∧ symbol.name = name := by
  have ofName : run.inserted.filter (fun symbol => symbol.name = name) ⊆ run.made :=
    List.Subset.trans (List.filter_subset_self _) sound.within
  rw [sound.references, mem_distinct_iff sound.told ofName, List.mem_filter, decide_eq_true_iff]

end TableRun

/-- **What a table answers after any calls.** The overloads of a name are the symbols of that name
that were inserted, each once, in the order of their first insertions, and the size counts all
symbols so. A name resolves to the only overload that fits; it stays unresolved when there is none,
and several are counted. Any other run that inserted the same symbols of a name, in whatever order,
however often and with whatever else, resolves it alike. -/
theorem table_exact (supply : SymbolSupply) (calls : List TableCall) :
    let run := (TableRun.start supply).after calls
    (∀ name, run.table.references name =
        Symbol.distinct (run.inserted.filter fun symbol => symbol.name = name)) ∧
      run.table.size = (Symbol.distinct run.inserted).length ∧
      (run.table.isEmpty = true ↔ run.table.size = 0) ∧
      ∀ name fits,
        (∀ symbol, run.table.resolve name fits = .ok symbol ↔
          ∀ other, other ∈ run.table.references name ∧ fits other = true ↔ other = symbol) ∧
        (run.table.resolve name fits = .error (.unresolved name) ↔
          ∀ other ∈ run.table.references name, fits other = false) ∧
        (∀ count, run.table.resolve name fits = .error (.ambiguous name count) ↔
          2 ≤ count ∧ count = (run.table.references name).countP fits) ∧
        ∀ supply calls,
          let another := (TableRun.start supply).after calls
          (∀ symbol, symbol.name = name → (symbol ∈ another.inserted ↔ symbol ∈ run.inserted)) →
            another.table.resolve name fits = run.table.resolve name fits := by
  intro run
  have sound : run.Sound := TableRun.sound_after supply calls
  refine ⟨sound.references, ?_, ?_, fun name fits => ⟨fun symbol => ?_, ?_, fun count => ?_, ?_⟩⟩
  · rw [sound.filled]
    exact SymbolTable.size_insertAll sound.told sound.within
  · rw [sound.filled]
    exact SymbolTable.isEmpty_insertAll_iff sound.told sound.within
  · exact SymbolTable.resolve_eq_ok_iff_only (sound.nodup_references name)
  · exact SymbolTable.resolve_eq_unresolved_iff
  · exact SymbolTable.resolve_eq_ambiguous_iff
  · intro supply calls another alike
    have soundToo : another.Sound := TableRun.sound_after supply calls
    refine SymbolTable.resolve_congr ?_
    rw [List.perm_ext_iff_of_nodup (soundToo.nodup_references name) (sound.nodup_references name)]
    intro symbol
    rw [soundToo.mem_references_iff, sound.mem_references_iff]
    exact and_congr_left fun named => alike symbol named

/-- The declarations that print a number and a text, when they are made first. -/
def printInt : Symbol := ⟨⟨println, .function, [Ty.int], .unit⟩, ⟨1⟩⟩

def printString : Symbol := ⟨⟨println, .function, [Ty.string], .unit⟩, ⟨2⟩⟩

/-- Two overloads are inserted in either order, and one of them once more. -/
theorem table_exact_reordered :
    let made := [.make printInt.toSignature, .make printString.toSignature]
    let run := (TableRun.start {}).after (made ++ [.insert printInt, .insert printString])
    let another := (TableRun.start {}).after
      (made ++ [.insert printString, .insert printInt, .insert printString])
    another.table.references println = [printString, printInt] ∧
      run.table.references println = [printInt, printString] ∧
      ∀ fits, another.table.resolve println fits = run.table.resolve println fits := by
  intro made run another
  have alike : ∀ symbol : Symbol, symbol ∈ another.inserted ↔ symbol ∈ run.inserted := by
    intro symbol
    show symbol ∈ [printString, printInt, printString] ↔ symbol ∈ [printInt, printString]
    simp only [List.mem_cons, List.not_mem_nil, or_false]
    tauto
  exact ⟨by decide, by decide, fun fits =>
    ((table_exact {} _).2.2.2 println fits).2.2.2 {} _ fun symbol _ => alike symbol⟩

end DeclTree
