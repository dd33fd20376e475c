/-
**Declarations and scripts take the steps of a builder and no others.**

A declaration is built in two halves with a script between them, and the script may build
declarations of its own. What the second half needs to know of the first one is `Draft.Stands`: the
declaration is a new node, and if it is an accessor, its property is a property. Both are said of
what nodes are, and so outlive whatever the script does (`Draft.Stands.edits`).

* `start_steps`: the first half attaches no accessor;
* `finish_ends`: nor does the second one until its last step, which is the only one that attaches an
  accessor to its property (`Draft.Ends`);
* `Performs.edits`: so whatever is done in a run, the accessors that are attached are those that
  were built. A nested declaration begins in a tree that has grown since, so what is new to it is
  new to the outer one as well;
* `declare_edits`: a declaration whose body is written by a script.
-/

import DeclTree.Proofs.Build.Deeds
import DeclTree.Proofs.Build.Edit

namespace DeclTree

/-- An accessor that was built, for its property. -/
def Deed.equips (deeds : List Deed) (property : NodeId) (tag : NodeTag) : Prop :=
  ∃ declaration ∈ Deed.allBuilt deeds, declaration.accessor? = some (property, tag)

theorem Deed.equips_append {deeds later : List Deed} {property : NodeId} {tag : NodeTag} :
    Deed.equips (deeds ++ later) property tag ↔
      Deed.equips deeds property tag ∨ Deed.equips later property tag := by
  simp only [Deed.equips, Deed.allBuilt_append, List.mem_append, or_and_right, exists_or]

theorem Declaration.isAccessor {declaration : Declaration} {property : NodeId} {tag : NodeTag}
    (accessor : declaration.accessor? = some (property, tag)) : tag = .getter ∨ tag = .setter := by
  cases declaration <;> cases accessor
  · exact .inl rfl
  · exact .inr rfl

/-- The declaration that waits for its body is a node made since the tree had `old` nodes, and no
property. If it is an accessor, it has a property. -/
structure Draft.Stands (draft : Draft) (declaration : Declaration) (old : Nat) (tree : Tree) :
    Prop where
  takes : tree.Takes old draft.node
  property_eq : draft.property = declaration.accessor?.map Prod.fst
  accessor : ∀ property tag, declaration.accessor? = some (property, tag) →
    tree.hasTag .property property = true ∧ tree.hasTag tag draft.node = true

variable {types : TypeUniverse} {asks : NodeId → NodeTag → Prop} {old : Nat}
variable {before after : Workspace} {declaration : Declaration}

theorem Draft.Stands.edits {draft : Draft} (stands : draft.Stands declaration old before.tree)
    {since : Nat} (edits : Edits types asks since before after) :
    draft.Stands declaration old after.tree where
  takes := Edits.takes edits stands.takes
  property_eq := stands.property_eq
  accessor property tag of := by
    obtain ⟨isProperty, tagged⟩ := stands.accessor property tag of
    exact ⟨edits.grows.hasTag isProperty, edits.grows.hasTag tagged⟩

/-- An accessor that waits for its body knows its property. -/
theorem Draft.Stands.accessor_of {draft : Draft} {tree : Tree}
    (stands : draft.Stands declaration old tree) {property : NodeId}
    (of : draft.property = some property) :
    ∃ tag, declaration.accessor? = some (property, tag) ∧
      tree.hasTag .property property = true ∧ tree.hasTag tag draft.node = true := by
  obtain ⟨⟨_, tag⟩, accessor, rfl⟩ :=
    Option.map_eq_some_iff.mp (stands.property_eq.symm.trans of)
  exact ⟨tag, accessor, stands.accessor _ tag accessor⟩

/-- How the second half of a declaration ends, after work that attaches no accessor. -/
inductive Draft.Ends (draft : Draft) (last : Workspace) : Except TreeError NodeId → Workspace → Prop
  | stopped (error : TreeError) : Draft.Ends draft last (.error error) last
  /-- A function is left unattached. -/
  | function (none : draft.property = none) : Draft.Ends draft last (.ok draft.node) last
  /-- An accessor is attached to its property. -/
  | accessor (property : NodeId) (of : draft.property = some property)
      (attachable : last.tree.checkAttachable property draft.node = .ok ()) :
      Draft.Ends draft last (.ok draft.node)
        { last with tree := last.tree.link property draft.node }

namespace Builder

open Build

variable (builder : Builder) {start : Workspace}

/-! ### The first half -/

theorem propertyAt_eq_ok {tree : Tree} {id : NodeId} {facts : PropertyFacts}
    (found : propertyAt tree id = .ok facts) :
    ∃ node visibility modality, tree.node? id = some node ∧
      node.kind = .property facts.symbol visibility modality facts.isVar ∧
        node.name = facts.name ∧ node.ty = facts.ty := by
  unfold propertyAt Tree.node at found
  cases there : tree.node? id with
  | none =>
      rw [there] at found
      cases found
  | some node =>
      rw [there] at found
      dsimp only at found
      split at found
      · next kind =>
          cases found
          exact ⟨node, _, _, rfl, kind, rfl, rfl⟩
      · cases found

theorem checkGetter_eq_ok {tree : Tree} {property : NodeId} {facts : PropertyFacts}
    (checked : checkGetter tree property = .ok facts) :
    propertyAt tree property = .ok facts ∧ checkNoAccessor tree property .getter = .ok () := by
  unfold checkGetter at checked
  cases found : propertyAt tree property with
  | error _ =>
      rw [found] at checked
      cases checked
  | ok other =>
      rw [found] at checked
      cases free : checkNoAccessor tree property .getter <;> rw [free] at checked <;> cases checked
      exact ⟨rfl, rfl⟩

theorem checkSetter_eq_ok {tree : Tree} {property : NodeId} {facts : PropertyFacts}
    (checked : checkSetter tree property = .ok facts) :
    propertyAt tree property = .ok facts ∧ facts.isVar = true ∧
      checkNoAccessor tree property .setter = .ok () := by
  unfold checkSetter at checked
  cases found : propertyAt tree property with
  | error _ =>
      rw [found] at checked
      cases checked
  | ok other =>
      rw [found] at checked
      by_cases isVar : other.isVar = true
      · cases free : checkNoAccessor tree property .setter <;>
          simp [bind, Except.bind, isVar, free, pure, Except.pure] at checked
        exact ⟨by rw [checked], checked ▸ isVar, rfl⟩
      · simp [bind, Except.bind, isVar] at checked

/-- A property that is found backs an accessor, and has the tag of a property. -/
theorem isProperty_of_propertyAt {tree : Tree} {id : NodeId} {facts : PropertyFacts}
    (found : propertyAt tree id = .ok facts) :
    (∃ owner visibility modality isVar, tree.labelOf id = some owner ∧
      owner.kind = .property facts.symbol visibility modality isVar) ∧
      tree.hasTag .property id = true := by
  obtain ⟨node, visibility, modality, there, kind, _, _⟩ := propertyAt_eq_ok found
  have label : tree.labelOf id = some node.label := by rw [Tree.labelOf, there, Option.map_some]
  refine ⟨⟨node.label, visibility, modality, facts.isVar, label, kind⟩, ?_⟩
  exact (Tree.hasTag_iff tree _ id).mpr ⟨node.label, label, congrArg NodeKind.tag kind⟩

theorem lt_of_propertyAt {tree : Tree} {id : NodeId} {facts : PropertyFacts}
    (found : propertyAt tree id = .ok facts) : id.index < tree.size :=
  Tree.lt_of_hasTag (isProperty_of_propertyAt found).2

theorem addParameters_steps (owner : NodeId) (ownerName : QualName)
    (parameters : List (Name × Ty)) (index : Nat) (takes : start.tree.Takes old owner) :
    Steps (builder.Step old)
      (builder.addParameters owner ownerName index parameters) start anything := by
  induction parameters generalizing index start with
  | nil => exact .pure _ trivial
  | cons parameter rest ih =>
      obtain ⟨name, ty⟩ := parameter
      unfold addParameters
      refine builder.declare_steps _ (fun symbol => .parameter symbol index) _ _ _ _
        (fun _ => rfl) (fun _ => trivial) fun symbol made _ leaves => ?_
      have stays : made.tree.Takes old owner := by
        obtain ⟨label, found, other⟩ := takes.label
        rw [leaves]
        exact ⟨takes.new, label, (Tree.labelOf_push takes.there _).trans found, other⟩
      refine (append_steps _ _ stays).bind fun _ _ edits _ => ?_
      exact (ih (index + 1) (Edits.takes edits stays)).bind fun _ _ _ _ => .pure _ trivial

theorem startFunction_steps (spec : FunctionSpec) (new : old ≤ start.tree.size) :
    Steps (builder.Step old) (builder.startFunction spec) start
      fun draft after => draft.Stands (.function spec) old after.tree := by
  unfold startFunction
  refine (Steps.ofExcept _).bind ?_
  rintro _ named - ⟨_, rfl⟩
  refine builder.declare_steps _
    (fun symbol => .function symbol spec.visibility spec.modality) _ _ _ _
    (fun _ => rfl) (fun _ => trivial) fun symbol made _ leaves => ?_
  have takes : made.tree.Takes old ⟨named.tree.size⟩ := by
    rw [leaves]
    exact Tree.takes_push new (by nofun)
  refine (builder.addParameters_steps _ _ _ _ takes).bind fun _ _ edits _ => ?_
  exact .pure _ ⟨Edits.takes edits takes, rfl, nofun⟩

/-- A new accessor and its property, before the accessor has a body. -/
theorem stands_of_push {tree : Tree} {property : NodeId} {tag : NodeTag} {scope : Scope}
    (accessor : declaration.accessor? = some (property, tag)) (new : old ≤ tree.size)
    (isProperty : tree.hasTag .property property = true) {kind : NodeKind} {name : Name} {ty : Ty}
    (tagged : kind.tag = tag) :
    Draft.Stands ⟨⟨tree.size⟩, scope, some property⟩ declaration old
      (tree.push { kind := kind, name := name, ty := ty }).2 where
  takes := Tree.takes_push new fun isProperty => by
    rw [tagged] at isProperty
    rcases declaration.isAccessor accessor with same | same <;> rw [same] at isProperty <;>
      cases isProperty
  property_eq := by rw [accessor, Option.map_some]
  accessor other _ of := by
    cases accessor.symm.trans of
    refine ⟨?_, (Tree.hasTag_iff _ _ _).mpr ⟨_, Tree.labelOf_push_self tree _, tagged⟩⟩
    rw [Tree.hasTag_iff, Tree.labelOf_push (Tree.lt_of_hasTag isProperty), ← Tree.hasTag_iff]
    exact isProperty

theorem startGetter_steps (property : NodeId) (new : old ≤ start.tree.size) :
    Steps (builder.Step old) (builder.startGetter property) start
      fun draft after => draft.Stands (.getter property) old after.tree := by
  unfold startGetter
  refine Steps.tree.bind ?_
  rintro _ _ - ⟨rfl, rfl⟩
  refine (Steps.ofExcept _).bind ?_
  rintro facts after - ⟨checked, rfl⟩
  obtain ⟨backed, isProperty⟩ := isProperty_of_propertyAt (checkGetter_eq_ok checked).1
  refine builder.declare_steps _ (fun symbol => .getter symbol facts.symbol) _ _ _ _
    (fun _ => rfl) (fun _ => ⟨property, backed⟩) fun symbol last _ leaves => ?_
  rw [leaves]
  exact .pure _ (stands_of_push rfl new isProperty rfl)

theorem startSetter_steps (property : NodeId) (new : old ≤ start.tree.size) :
    Steps (builder.Step old) (builder.startSetter property) start
      fun draft after => draft.Stands (.setter property) old after.tree := by
  unfold startSetter
  refine Steps.tree.bind ?_
  rintro _ _ - ⟨rfl, rfl⟩
  refine (Steps.ofExcept _).bind ?_
  rintro facts after - ⟨checked, rfl⟩
  obtain ⟨backed, isProperty⟩ := isProperty_of_propertyAt (checkSetter_eq_ok checked).1
  refine builder.declare_steps _ (fun symbol => .setter symbol facts.symbol) _ _ _ _
    (fun _ => rfl) (fun _ => ⟨property, backed⟩) fun symbol last _ leaves => ?_
  have stands : Draft.Stands ⟨⟨after.tree.size⟩, ⟨symbol, []⟩, some property⟩ (.setter property)
      old last.tree := by
    rw [leaves]
    exact stands_of_push rfl new isProperty rfl
  refine (builder.addParameters_steps _ _ _ _ stands.takes).bind fun parameters _ edits _ => ?_
  obtain ⟨takes, of, accessor⟩ := stands.edits edits
  exact .pure _ ⟨takes, of, accessor⟩

/-- **The first half of a declaration.** -/
theorem start_steps (declaration : Declaration) (new : old ≤ start.tree.size) :
    Steps (builder.Step old) (builder.start declaration) start
      fun draft after => draft.Stands declaration old after.tree := by
  cases declaration with
  | function spec => exact builder.startFunction_steps spec new
  | getter property => exact builder.startGetter_steps property new
  | setter property => exact builder.startSetter_steps property new

/-! ### The second half -/

theorem makeBody_steps (statements : List NodeId) (new : old ≤ start.tree.size) :
    Steps (builder.Step old) (builder.makeBody statements) start
      anything := by
  unfold makeBody
  refine (builder.create_steps _ _ _).bind ?_
  rintro id _ - ⟨rfl, rfl⟩
  exact (appendAll_steps _ _ (Tree.takes_push new (by nofun))).bind fun _ _ _ _ => .pure _ trivial

/-- A declaration that has its body is attached to its property, if it has one. -/
theorem finish_apply {draft : Draft} {statements : List NodeId} {body : NodeId}
    {middle last : Workspace} (made : builder.makeBody statements start = .ok body middle)
    (filled : Build.append draft.node body middle = .ok () last) :
    builder.finish draft statements start = (do
      match draft.property with
      | some property => Build.append property draft.node
      | none => note .declarations ("built function " ++ draft.scope.owner.name.text)
      return draft.node) last :=
  (bind_ok made).trans (bind_ok filled)

/-- **The second half of a declaration.** -/
theorem finish_ends (draft : Draft) (statements : List NodeId)
    (takes : start.tree.Takes old draft.node) (new : old ≤ start.tree.size) :
    ∃ last, Relation.ReflTransGen (builder.Step old) start last ∧
      Draft.Ends draft last ((builder.finish draft statements).attempt start).1
        ((builder.finish draft statements).attempt start).2 := by
  have body := builder.makeBody_steps statements new
  cases made : builder.makeBody statements start with
  | error error middle =>
      have failed : builder.finish draft statements start = _ := bind_error made
      rw [attempt_error failed]
      exact ⟨middle, body.run_error made, .stopped error⟩
  | ok id middle =>
      have bodyEdits := (body.run_ok made).1
      have fill : Steps (builder.Step old) (Build.append draft.node id) middle anything :=
        append_steps draft.node id (Edits.takes bodyEdits takes)
      cases filled : Build.append draft.node id middle with
      | error error last =>
          have failed : builder.finish draft statements start = _ :=
            (bind_ok made).trans (bind_error filled)
          rw [attempt_error failed]
          exact ⟨last, bodyEdits.trans (fill.run_error filled), .stopped error⟩
      | ok _ last =>
          have edits := bodyEdits.trans (fill.run_ok filled).1
          have rest := builder.finish_apply made filled
          cases of : draft.property with
          | none =>
              rw [of] at rest
              rw [attempt_ok (rest.trans (bind_ok (note_apply _ _ last)))]
              exact ⟨_, edits.tail (.log _), .function of⟩
          | some property =>
              rw [of] at rest
              have equip := append_apply property draft.node last
              cases attachable : last.tree.checkAttachable property draft.node with
              | error error =>
                  rw [attachable] at equip
                  rw [attempt_error (rest.trans (bind_error equip))]
                  exact ⟨last, edits, .stopped error⟩
              | ok _ =>
                  rw [attachable] at equip
                  rw [attempt_ok (rest.trans (bind_ok equip))]
                  exact ⟨last, edits, .accessor property of attachable⟩

end Builder

/-! ### Runs -/

variable {builder : Builder} {σ : Type}

/-- The end of a declaration is a step of a builder, if accessors that are built are asked for. -/
theorem Draft.Ends.edits {draft : Draft} {last : Workspace} {outcome : Except TreeError NodeId}
    (ends : draft.Ends last outcome after) (stands : draft.Stands declaration old last.tree)
    (asked : ∀ property tag, outcome = .ok draft.node →
      declaration.accessor? = some (property, tag) → asks property tag) :
    Edits types asks old last after := by
  cases ends with
  | stopped _ => exact .refl
  | function _ => exact .refl
  | accessor property of attachable =>
      obtain ⟨tag, accessor, isProperty, tagged⟩ := stands.accessor_of of
      exact .single (.equip property draft.node tag stands.takes.new
        (asked property tag rfl accessor) isProperty (declaration.isAccessor accessor) tagged
        attachable)

/-- **A run takes the steps of a builder and no others**, and attaches the accessors that it
built. -/
theorem Performs.edits {deeds : List Deed} (performs : Performs builder deeds before after)
    (new : old ≤ before.tree.size) :
    Edits builder.context.types (Deed.equips deeds) old before after := by
  induction performs with
  | nothing _ => exact .refl
  | append _ _ firstIh laterIh =>
      have first := firstIh new
      have later := laterIh (new.trans (Edits.size_le first))
      exact (Edits.widen le_rfl (fun _ _ asked => Deed.equips_append.mpr (.inl asked)) first).trans
        (Edits.widen le_rfl (fun _ _ asked => Deed.equips_append.mpr (.inr asked)) later)
  | symbol signature _ => exact .single (.symbol signature)
  | operation operation workspace =>
      exact Edits.ofNothing (builder.perform_steps operation new).attempt
  | statement _ _ => exact .refl
  | @refused declaration _ _ _ stopped =>
      exact Edits.ofNothing ((builder.start_steps declaration new).run_error stopped)
  | @abandoned declaration _ _ _ _ _ _ started _ ih =>
      have startEdits := ((builder.start_steps declaration new).run_ok started).1
      have inside := ih (new.trans (Edits.size_le startEdits))
      exact (Edits.ofNothing startEdits).trans
        (Edits.widen le_rfl (fun _ _ asked => Deed.equips_append.mpr (.inl asked)) inside)
  | @finished declaration draft _ _ _ _ statements started _ ih =>
      obtain ⟨startEdits, stands⟩ := (builder.start_steps declaration new).run_ok started
      have inside := ih (new.trans (Edits.size_le startEdits))
      have writtenNew := new.trans ((Edits.size_le startEdits).trans (Edits.size_le inside))
      have writtenStands := stands.edits inside
      obtain ⟨last, work, ends⟩ := builder.finish_ends draft statements writtenStands.takes
        writtenNew
      refine (Edits.ofNothing startEdits).trans ?_
      refine (Edits.widen le_rfl (fun _ _ asked => Deed.equips_append.mpr (.inl asked))
        inside).trans ?_
      refine (Edits.ofNothing work).trans ?_
      refine ends.edits (writtenStands.edits work) fun property tag built accessor => ?_
      refine Deed.equips_append.mpr (.inr ⟨declaration, ?_, accessor⟩)
      rw [built, Deed.allBuilt_declaring_ok]
      exact List.mem_singleton_self declaration

theorem Performs.grows {deeds : List Deed} (performs : Performs builder deeds before after) :
    Grows before after :=
  Edits.grows (performs.edits le_rfl)

/-- **A declaration whose body is written by a script.** -/
theorem Builder.declare_edits (builder : Builder) (declaration : Declaration)
    (body : Scope → Script σ) (workspace : Workspace) :
    Edits builder.context.types (Deed.equips (builder.deeds declaration body workspace))
      workspace.tree.size workspace (builder.declare declaration body workspace).2.2 :=
  (builder.performs declaration body workspace).edits le_rfl

end DeclTree
