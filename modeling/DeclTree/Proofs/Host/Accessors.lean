/-
**How many accessors a property has.**

That a property has no accessor of a kind is checked before the body of a new one is written, and
the new one is attached after that. So a property gets every accessor that is built for it
(`Counts.total`), also one that was built in the body of another one, and when an accessor was
built, its property has one more of its kind than were built for it in the body
(`Counts.each`).

* `Edits.accessors_eq`: only accessors that are asked for are attached to a property;
* `Draft.Ends.accessors`: what the last step of a declaration adds;
* `Performs.counts`: the numbers of accessors in a run, by induction on what is done in it;
* `accessors_counted`: in a run on an empty module, every property has at most one getter and at
  most one setter **if and only if** no accessor was built for a property in the body of an accessor
  of the same kind for the same property;
* `nestedGetter_doubles`: a run in which one was.
-/

import DeclTree.Proofs.Host.Work

namespace DeclTree

/-! ### Accessors in a tree -/

namespace Tree

/-- Every property has at most one getter and at most one setter. -/
def OneOfEach (tree : Tree) : Prop :=
  ∀ property, tree.hasTag .property property = true →
    (tree.childrenTagged property .getter).length ≤ 1 ∧
      (tree.childrenTagged property .setter).length ≤ 1

/-- There is a property, or nothing yet. -/
def MayEquip (tree : Tree) (property : NodeId) : Prop :=
  property.index < tree.size → tree.hasTag .property property = true

end Tree

/-! ### Single steps -/

section Steps

variable {types : TypeUniverse} {asks : NodeId → NodeTag → Prop} {old : Nat}
variable {before after : Workspace} {property : NodeId} {tag : NodeTag}

theorem Grows.mayEquip (grows : Grows before after) (may : after.tree.MayEquip property) :
    before.tree.MayEquip property := fun there => by
  rw [← Tree.hasTag_congr (grows.labelOf there)]
  exact may (Nat.lt_of_lt_of_le there grows.size_le)

theorem Edit.accessors_eq (edit : Edit types asks old before after)
    (forest : before.tree.IsForest) (may : before.tree.MayEquip property)
    (unasked : ¬asks property tag) :
    after.tree.childrenTagged property tag = before.tree.childrenTagged property tag := by
  cases edit with
  | log _ => rfl
  | symbol _ => rfl
  | make _ _ _ _ _ _ =>
      exact Tree.childrenTagged_congr (Tree.childrenOf_push _ _ rfl _) fun _ member =>
        Tree.labelOf_push (forest.child_there member) _
  | declare _ _ _ _ _ _ _ =>
      exact Tree.childrenTagged_congr (Tree.childrenOf_push _ _ rfl _) fun _ member =>
        Tree.labelOf_push (forest.child_there member) _
  | fill parent child takes attachable =>
      have other : property ≠ parent := by
        rintro rfl
        cases takes.notProperty.symm.trans (may takes.there)
      exact (Tree.childrenTagged_link takes.there).trans (if_neg fun both => other both.1)
  | equip owner accessor kind new asked isProperty isAccessor tagged attachable =>
      obtain ⟨there, _⟩ := (Tree.checkAttachable_eq_ok_iff _ owner accessor).mp attachable
      refine (Tree.childrenTagged_link there).trans (if_neg ?_)
      rintro ⟨rfl, has⟩
      exact unasked ((Tree.hasTag_iff_eq tagged).mp has ▸ asked)
  | annotate id tag arguments _ =>
      exact Tree.childrenTagged_congr (Tree.childrenOf_putTag _ _ _ _ _) fun child _ =>
        Tree.labelOf_putTag _ _ _ _ _

/-- **Only accessors that are asked for are attached to a property.** -/
theorem Edits.accessors_eq (edits : Edits types asks old before after)
    (forest : before.tree.IsForest) (may : after.tree.MayEquip property)
    (unasked : ¬asks property tag) :
    after.tree.childrenTagged property tag = before.tree.childrenTagged property tag := by
  induction edits with
  | refl => rfl
  | tail earlier edit ih =>
      have mayMiddle := edit.grows.mayEquip may
      exact (edit.accessors_eq (forest.grows (Edits.grows earlier)) mayMiddle unasked).trans
        (ih mayMiddle)

end Steps

/-! ### Declarations -/

/-- The accessors among some declarations. -/
def Declaration.accessorsAmong (declarations : List Declaration) : List (NodeId × NodeTag) :=
  declarations.filterMap accessor?

theorem Declaration.accessorsAmong_append (declarations later : List Declaration) :
    accessorsAmong (declarations ++ later) = accessorsAmong declarations ++ accessorsAmong later :=
  List.filterMap_append

theorem Declaration.accessorsAmong_singleton {declaration : Declaration}
    {accessor : NodeId × NodeTag} (same : declaration.accessor? = some accessor) :
    accessorsAmong [declaration] = [accessor] :=
  List.filterMap_cons_some same

namespace Builder

open Build

variable {builder : Builder} {before after : Workspace} {declaration : Declaration}
variable {property : NodeId} {tag : NodeTag}

/-- An accessor is begun only if its property has none of its kind. -/
theorem checkNoAccessor_of_start {draft : Draft}
    (started : builder.start declaration before = .ok draft after)
    (accessor : declaration.accessor? = some (property, tag)) :
    checkNoAccessor before.tree property tag = .ok () := by
  cases declaration with
  | function _ => cases accessor
  | getter _ =>
      cases accessor
      obtain ⟨facts, checked, _⟩ := ofExcept_bind_eq_ok (tree_bind_eq_ok started)
      exact (checkGetter_eq_ok checked).2
  | setter _ =>
      cases accessor
      obtain ⟨facts, checked, _⟩ := ofExcept_bind_eq_ok (tree_bind_eq_ok started)
      exact (checkSetter_eq_ok checked).2.2

theorem accessors_of_checkNoAccessor {tree : Tree}
    (free : checkNoAccessor tree property tag = .ok ()) :
    tree.childrenTagged property tag = [] := by
  unfold checkNoAccessor Tree.findChild Tree.children Tree.node at free
  unfold Tree.childrenTagged Tree.childrenOf
  cases found : tree.node? property with
  | none => rfl
  | some node =>
      rw [found] at free
      simp only [Except.map] at free
      cases first : node.children.find? (tree.hasTag tag) with
      | none => exact List.filter_eq_nil_iff.mpr (List.find?_eq_none.mp first)
      | some accessor =>
          rw [first] at free
          cases free

end Builder

section Ends

variable {draft : Draft} {declaration : Declaration} {old : Nat} {last after : Workspace}
variable {outcome : Except TreeError NodeId}

/-- **The last step of a declaration** gives its property one accessor, if it is one. -/
theorem Draft.Ends.accessors (ends : draft.Ends last outcome after)
    (stands : draft.Stands declaration old last.tree) (within : List Deed)
    (property : NodeId) (tag : NodeTag) :
    (after.tree.childrenTagged property tag).length =
      (last.tree.childrenTagged property tag).length +
        (Declaration.accessorsAmong
          (Deed.allBuilt [.declaring declaration within outcome after.tree])).count
            (property, tag) := by
  cases ends with
  | stopped error => rw [Deed.allBuilt_declaring_error]; rfl
  | function none =>
      have notAccessor : declaration.accessor? = Option.none :=
        Option.map_eq_none_iff.mp (stands.property_eq.symm.trans none)
      rw [Deed.allBuilt_declaring_ok, Declaration.accessorsAmong,
        List.filterMap_cons_none notAccessor]
      rfl
  | accessor owner of attachable =>
      obtain ⟨kind, accessor, isProperty, tagged⟩ := stands.accessor_of of
      have hit : (property = owner ∧ last.tree.hasTag tag draft.node = true) ↔
          (property, tag) = (owner, kind) := by rw [Tree.hasTag_iff_eq tagged, Prod.mk.injEq]
      rw [Deed.allBuilt_declaring_ok, Declaration.accessorsAmong_singleton accessor,
        Tree.childrenTagged_link (Tree.lt_of_hasTag isProperty)]
      by_cases same : (property, tag) = (owner, kind)
      · rw [if_pos (hit.mpr same), same, List.length_append, List.count_singleton_self]
        rfl
      · rw [if_neg (mt hit.mp same), List.count_singleton, if_neg (by simpa using Ne.symm same)]
        rfl

end Ends

/-! ### Runs -/

/-- No accessor was built in the body of an accessor of the same kind for the same property. -/
def Deed.Unrepeated (deeds : List Deed) : Prop :=
  ∀ deed ∈ deeds, ∀ declaration, deed.built = some declaration →
    ∀ accessor, declaration.accessor? = some accessor →
      accessor ∉ Declaration.accessorsAmong deed.inside

theorem Deed.mem_accessorsAmong_allBuilt {deeds : List Deed} {accessor : NodeId × NodeTag} :
    accessor ∈ Declaration.accessorsAmong (allBuilt deeds) ↔ ∃ deed ∈ deeds, ∃ declaration,
      deed.built = some declaration ∧ declaration.accessor? = some accessor := by
  simp only [Declaration.accessorsAmong, allBuilt, List.mem_filterMap]
  exact ⟨fun ⟨declaration, ⟨deed, member, built⟩, same⟩ => ⟨deed, member, declaration, built, same⟩,
    fun ⟨deed, member, declaration, built, same⟩ => ⟨declaration, ⟨deed, member, built⟩, same⟩⟩

/-- What a run does to the numbers of accessors. -/
structure Counts (deeds : List Deed) (before after : Tree) : Prop where
  /-- A property gets the accessors that are built for it, and no others. -/
  total : ∀ property tag, after.MayEquip property →
    (after.childrenTagged property tag).length = (before.childrenTagged property tag).length +
      (Declaration.accessorsAmong (Deed.allBuilt deeds)).count (property, tag)
  /-- When an accessor has been built, its property has one more than were built in the body. -/
  each : ∀ deed ∈ deeds, ∀ declaration, deed.built = some declaration →
    ∀ property tag, declaration.accessor? = some (property, tag) →
      (deed.tree.childrenTagged property tag).length =
        (Declaration.accessorsAmong deed.inside).count (property, tag) + 1
  /-- The accessors that a property has when one has been built for it, it keeps. -/
  stays : ∀ deed ∈ deeds, ∀ declaration, deed.built = some declaration →
    ∀ property tag, declaration.accessor? = some (property, tag) →
      after.hasTag .property property = true ∧
        (deed.tree.childrenTagged property tag).length ≤ (after.childrenTagged property tag).length
  /-- A second accessor of a kind comes only from a body. -/
  once : Deed.Unrepeated deeds → ∀ property tag, after.MayEquip property →
    (before.childrenTagged property tag).length ≤ 1 → (after.childrenTagged property tag).length ≤ 1

section Counts

variable {types : TypeUniverse} {old : Nat} {before middle after : Workspace}
variable {deeds later : List Deed}

/-- Where nothing is built, no numbers change. -/
theorem Counts.unbuilt {before after : Tree} (unbuilt : ∀ deed ∈ deeds, deed.built = none)
    (same : ∀ property tag, after.MayEquip property →
      after.childrenTagged property tag = before.childrenTagged property tag) :
    Counts deeds before after where
  total property tag may := by
    rw [same property tag may, show Deed.allBuilt deeds = [] from
      List.filterMap_eq_nil_iff.mpr unbuilt]
    rfl
  each deed member _ built := by cases (unbuilt deed member).symm.trans built
  stays deed member _ built := by cases (unbuilt deed member).symm.trans built
  once _ property tag may one := by rwa [same property tag may]

/-- No accessor is attached where none is built. -/
theorem Counts.quiet (edits : Edits types equipsNothing old before after)
    (forest : before.tree.IsForest) (unbuilt : ∀ deed ∈ deeds, deed.built = none) :
    Counts deeds before.tree after.tree :=
  .unbuilt unbuilt fun _ _ may => edits.accessors_eq forest may id

theorem Counts.append (first : Counts deeds before.tree middle.tree)
    (second : Counts later middle.tree after.tree) (grows : Grows middle after) :
    Counts (deeds ++ later) before.tree after.tree where
  total property tag may := by
    rw [second.total property tag may, first.total property tag (grows.mayEquip may),
      Deed.allBuilt_append, Declaration.accessorsAmong_append, List.count_append, Nat.add_assoc]
  each deed member := by
    rcases List.mem_append.mp member with early | late
    · exact first.each deed early
    · exact second.each deed late
  stays deed member declaration built property tag accessor := by
    rcases List.mem_append.mp member with early | late
    · obtain ⟨isProperty, fewer⟩ := first.stays deed early declaration built property tag accessor
      have stillProperty := grows.hasTag isProperty
      have total := second.total property tag fun _ => stillProperty
      exact ⟨stillProperty, by omega⟩
    · exact second.stays deed late declaration built property tag accessor
  once unrepeated property tag may one := by
    have parts := List.forall_mem_append.mp unrepeated
    exact second.once parts.2 property tag may
      (first.once parts.1 property tag (grows.mayEquip may) one)

section Close

variable {draft : Draft} {declaration : Declaration} {tree : Tree} {written last : Workspace}
variable {outcome : Except TreeError NodeId} {within : List Deed}

theorem Draft.Ends.grows (ends : draft.Ends last outcome after)
    (stands : draft.Stands declaration old last.tree) : Grows last after := by
  have edits : Edits .builtin (fun _ _ => True) old last after :=
    ends.edits stands fun _ _ _ _ => trivial
  exact edits.grows

/-- What is attached once the body of a declaration is written. -/
theorem Draft.Ends.accessors_written (ends : draft.Ends last outcome after)
    (stands : draft.Stands declaration old last.tree) (forest : written.tree.IsForest)
    (work : Edits types equipsNothing old written last) (within : List Deed) {property : NodeId}
    (tag : NodeTag) (may : after.tree.MayEquip property) :
    written.tree.MayEquip property ∧
      (after.tree.childrenTagged property tag).length =
        (written.tree.childrenTagged property tag).length +
          (Declaration.accessorsAmong
            (Deed.allBuilt [.declaring declaration within outcome after.tree])).count
              (property, tag) := by
  have mayLast := (ends.grows stands).mayEquip may
  rw [ends.accessors stands within property tag, work.accessors_eq forest mayLast id]
  exact ⟨(Edits.grows work).mayEquip mayLast, rfl⟩

/-- An accessor whose property had none of its kind when it was begun. -/
theorem Counts.finished {value : NodeId} (counts : Counts within tree written.tree)
    (ends : draft.Ends last (.ok value) after) (stands : draft.Stands declaration old last.tree)
    (forest : written.tree.IsForest) (work : Edits types equipsNothing old written last)
    {property : NodeId} {tag : NodeTag} (accessor : declaration.accessor? = some (property, tag))
    (free : tree.childrenTagged property tag = []) :
    after.tree.hasTag .property property = true ∧
      (after.tree.childrenTagged property tag).length =
        (Declaration.accessorsAmong (Deed.allBuilt within)).count (property, tag) + 1 := by
  have isProperty := (ends.grows stands).hasTag (stands.accessor property tag accessor).1
  obtain ⟨may, added⟩ := ends.accessors_written stands forest work within tag fun _ => isProperty
  refine ⟨isProperty, ?_⟩
  rw [added, counts.total property tag may, free, Deed.allBuilt_declaring_ok,
    Declaration.accessorsAmong_singleton accessor, List.count_singleton_self, List.length_nil,
    Nat.zero_add]

/-- **A declaration is given its body.** -/
theorem Counts.close (counts : Counts within tree written.tree)
    (free : ∀ property tag, declaration.accessor? = some (property, tag) →
      tree.childrenTagged property tag = [])
    (ends : draft.Ends last outcome after) (stands : draft.Stands declaration old last.tree)
    (forest : written.tree.IsForest) (work : Edits types equipsNothing old written last) :
    Counts (within ++ [.declaring declaration within outcome after.tree]) tree after.tree where
  total property tag may := by
    obtain ⟨mayWritten, added⟩ := ends.accessors_written stands forest work within tag may
    rw [added, counts.total property tag mayWritten, Deed.allBuilt_append,
      Declaration.accessorsAmong_append, List.count_append, Nat.add_assoc]
  each deed member other built property tag accessor := by
    rcases List.mem_append.mp member with early | late
    · exact counts.each deed early other built property tag accessor
    · cases List.mem_singleton.mp late
      obtain ⟨rfl, value, rfl⟩ := Deed.built_declaring.mp built
      exact (counts.finished ends stands forest work accessor (free property tag accessor)).2
  stays deed member other built property tag accessor := by
    rcases List.mem_append.mp member with early | late
    · obtain ⟨isProperty, fewer⟩ := counts.stays deed early other built property tag accessor
      have stillProperty := (ends.grows stands).hasTag ((Edits.grows work).hasTag isProperty)
      obtain ⟨_, added⟩ := ends.accessors_written stands forest work within tag
        fun _ => stillProperty
      exact ⟨stillProperty, by omega⟩
    · cases List.mem_singleton.mp late
      obtain ⟨rfl, value, rfl⟩ := Deed.built_declaring.mp built
      exact ⟨(counts.finished ends stands forest work accessor (free property tag accessor)).1,
        le_rfl⟩
  once unrepeated property tag may one := by
    have parts := List.forall_mem_append.mp unrepeated
    obtain ⟨mayWritten, added⟩ := ends.accessors_written stands forest work within tag may
    by_cases hit : (property, tag) ∈ Declaration.accessorsAmong
        (Deed.allBuilt [.declaring declaration within outcome after.tree])
    · obtain ⟨deed, member, other, built, accessor⟩ := Deed.mem_accessorsAmong_allBuilt.mp hit
      cases List.mem_singleton.mp member
      obtain ⟨rfl, value, rfl⟩ := Deed.built_declaring.mp built
      have alone : (property, tag) ∉ Declaration.accessorsAmong (Deed.allBuilt within) :=
        parts.2 _ member other built _ accessor
      rw [(counts.finished ends stands forest work accessor (free property tag accessor)).2,
        List.count_eq_zero_of_not_mem alone]
    · rw [added, List.count_eq_zero_of_not_mem hit]
      exact counts.once parts.1 property tag mayWritten one

end Close

end Counts

/-- **The numbers of accessors in a run.** -/
theorem Performs.counts {builder : Builder} {deeds : List Deed} {before after : Workspace}
    (performs : Performs builder deeds before after) (forest : before.tree.IsForest) :
    Counts deeds before.tree after.tree := by
  induction performs with
  | nothing _ => exact .unbuilt (List.forall_mem_nil _) fun _ _ _ => rfl
  | append one two firstIh laterIh =>
      exact (firstIh forest).append (laterIh (forest.grows one.grows)) two.grows
  | symbol _ _ => exact .unbuilt (List.forall_mem_nil _) fun _ _ _ => rfl
  | operation operation workspace =>
      exact .quiet (builder.perform_steps operation le_rfl).attempt forest
        (List.forall_mem_singleton.mpr (Deed.built_simple _ _))
  | statement outcome _ =>
      exact .unbuilt (List.forall_mem_singleton.mpr (Deed.built_simple _ _)) fun _ _ _ => rfl
  | @refused declaration before _ _ stopped =>
      have edits := (builder.start_steps declaration (le_refl before.tree.size)).run_error stopped
      exact .quiet edits forest (List.forall_mem_singleton.mpr rfl)
  | @abandoned declaration _ _ before begun after error started body ih =>
      have startEdits :=
        ((builder.start_steps declaration (le_refl before.tree.size)).run_ok started).1
      have begins : Counts [] before.tree begun.tree :=
        .quiet startEdits forest (List.forall_mem_nil _)
      have inside := ih (forest.grows (Edits.grows startEdits))
      have given := begins.append inside body.grows
      exact given.append (.unbuilt (List.forall_mem_singleton.mpr rfl) fun _ _ _ => rfl) .refl
  | @finished declaration draft within before begun written statements started body ih =>
      obtain ⟨startEdits, stands⟩ :=
        (builder.start_steps declaration (le_refl before.tree.size)).run_ok started
      have begunForest := forest.grows (Edits.grows startEdits)
      have bodyEdits := body.edits le_rfl
      have begins : Counts [] before.tree begun.tree :=
        .quiet startEdits forest (List.forall_mem_nil _)
      have counts := begins.append (ih begunForest) (Edits.grows bodyEdits)
      have writtenStands := stands.edits bodyEdits
      obtain ⟨last, work, ends⟩ := builder.finish_ends draft statements writtenStands.takes
        ((Edits.size_le startEdits).trans (Edits.size_le bodyEdits))
      refine counts.close (fun property tag accessor => ?_) ends (writtenStands.edits work)
        (begunForest.grows (Edits.grows bodyEdits)) work
      exact Builder.accessors_of_checkNoAccessor (Builder.checkNoAccessor_of_start started accessor)

/-- Only a builder attaches accessors to properties. -/
theorem Work.counts (work : Work) {workspace : Workspace} (forest : workspace.tree.IsForest)
    (module : workspace.tree.hasTag .module .root = true) :
    Counts (work.deeds workspace) workspace.tree (work.act.apply workspace).tree := by
  cases work with
  | build builder job => exact (job.performs builder workspace).counts forest
  | attach child =>
      obtain ⟨label, found, isModule⟩ := (Tree.hasTag_iff _ _ _).mp module
      have takes : workspace.tree.Takes 0 .root :=
        ⟨Nat.zero_le _, label, found, fun isProperty => by cases isModule.symm.trans isProperty⟩
      have steps : Build.Steps (Edit .builtin equipsNothing 0) (Build.append .root child) workspace
          Builder.anything := Builder.append_steps .root child takes
      exact .quiet steps.attempt forest (List.forall_mem_nil _)
  | newSymbol _ => exact .unbuilt (List.forall_mem_nil _) fun _ _ _ => rfl

theorem Workspace.counts_afterWorks (workspace : Workspace) (works : List Work)
    (forest : workspace.tree.IsForest) (module : workspace.tree.hasTag .module .root = true) :
    Counts (workspace.deeds works) workspace.tree (workspace.afterWorks works).tree := by
  induction works generalizing workspace with
  | nil => exact .unbuilt (List.forall_mem_nil _) fun _ _ _ => rfl
  | cons work rest ih =>
      have grows := work.act.growth workspace work.act_ne_detach
      exact (work.counts forest module).append (ih _ (forest.grows grows) (grows.hasTag module))
        (Workspace.grows_afterWorks _ rest)

/-- **How many accessors a property has** after any run on an empty module. Whenever an accessor has
been built, its property has one more of its kind than were built in the body of that accessor; in
the end a property has all that were built for it. So every property has at most one getter and at
most one setter exactly if no accessor was built for a property in the body of an accessor of the
same kind for the same property. -/
theorem accessors_counted (name : Name) (supply : SymbolSupply) (log : Log) (works : List Work) :
    let start := Workspace.ofModule name supply log
    let deeds := start.deeds works
    let tree := (start.afterWorks works).tree
    (∀ deed ∈ deeds, ∀ declaration, deed.built = some declaration →
      ∀ property tag, declaration.accessor? = some (property, tag) →
        (deed.tree.childrenTagged property tag).length =
          (Declaration.accessorsAmong deed.inside).count (property, tag) + 1) ∧
    (∀ property, tree.hasTag .property property = true → ∀ tag,
      (tree.childrenTagged property tag).length =
        (Declaration.accessorsAmong (Deed.allBuilt deeds)).count (property, tag)) ∧
    (tree.OneOfEach ↔ Deed.Unrepeated deeds) := by
  intro start deeds tree
  have counts : Counts deeds start.tree tree :=
    start.counts_afterWorks works (Tree.isForest_ofModule name) rfl
  have none : ∀ property tag, start.tree.childrenTagged property tag = [] := by
    intro property tag
    show ((Tree.ofModule name).childrenOf property).filter _ = []
    rw [Tree.childrenOf_ofModule]
    rfl
  refine ⟨counts.each, fun property isProperty tag => ?_, fun one => ?_, fun unrepeated => ?_⟩
  · rw [counts.total property tag fun _ => isProperty, none, List.length_nil, Nat.zero_add]
  · rintro deed member declaration built ⟨property, tag⟩ accessor again
    obtain ⟨isProperty, fewer⟩ := counts.stays deed member declaration built property tag accessor
    have more := counts.each deed member declaration built property tag accessor
    have twice := List.count_pos_iff.mpr again
    obtain ⟨getters, setters⟩ := one property isProperty
    rcases declaration.isAccessor accessor with rfl | rfl
    · omega
    · omega
  · have once := counts.once unrepeated
    exact fun property isProperty =>
      ⟨once property .getter (fun _ => isProperty) (by rw [none]; exact Nat.zero_le 1),
        once property .setter (fun _ => isProperty) (by rw [none]; exact Nat.zero_le 1)⟩

/-- A property is given a getter in the body of its getter, and then has two. -/
theorem nestedGetter_doubles :
    let builder : Builder := { context := .builtin }
    let property : Job := .perform (.property
      { name := .identifier "p", ty := .int, isVar := true })
    let inner : Script Unit := .declare (.getter ⟨1⟩) (fun _ => .empty) fun _ outcome =>
      .done () (outcome.map fun _ => ())
    let outer : Job := .declare (.getter ⟨1⟩) fun _ => inner
    let works := [Work.build builder property, Work.build builder outer]
    ¬((Workspace.ofModule (.special "<module>") {} []).afterWorks works).tree.OneOfEach := by
  intro builder property inner outer works one
  have getters := (one ⟨1⟩ (by decide)).1
  exact absurd getters (by decide)

end DeclTree
