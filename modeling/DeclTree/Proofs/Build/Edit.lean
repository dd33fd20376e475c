/-
**What a builder does to a workspace.**

`Edit types asks old` lists the single steps that a builder can take: nodes and symbols are made, a
node is attached under a node made since the tree had `old` nodes that is no property (`fill`), a
new accessor is attached to a property for which `asks` has one of its kind (`equip`), and an
unattached node is annotated. Nothing is detached, and nothing else is attached.

* `perform_steps`: an operation takes such steps and no others, also where it fails midway, and
  attaches no accessor;
* `Edit.widen`: the steps for a tree that has grown since are steps for the smaller tree, and so are
  those for which fewer accessors were asked;
* `Edit.grows`: no step takes anything away, so that nodes stay what they are.
-/

import DeclTree.Build.Script
import DeclTree.Proofs.Build.Growth
import DeclTree.Proofs.Build.Steps

namespace DeclTree

/-- What a new node rests on: an accessor on its property, and a read on its parameter, of which it
has the name and the type. No builder makes a module. -/
def Tree.Backs (tree : Tree) (label : Label) : Prop :=
  match label.kind with
  | .module => False
  | .getter _ property | .setter _ property =>
      ∃ id owner visibility modality isVar, tree.labelOf id = some owner ∧
        owner.kind = .property property visibility modality isVar
  | .getValue target =>
      ∃ id parameter index, tree.labelOf id = some parameter ∧
        parameter.kind = .parameter target index ∧ parameter.name = label.name ∧
          parameter.ty = label.ty
  | _ => True

/-- A node made since the tree had `old` nodes that is no property. A builder attaches nodes under
such nodes, unless it is an accessor to its property. -/
structure Tree.Takes (tree : Tree) (old : Nat) (id : NodeId) : Prop where
  new : old ≤ id.index
  label : ∃ label, tree.labelOf id = some label ∧ label.kind.tag ≠ .property

theorem Tree.Takes.there {tree : Tree} {old : Nat} {id : NodeId} (takes : tree.Takes old id) :
    id.index < tree.size := by
  obtain ⟨label, found, _⟩ := takes.label
  exact Tree.lt_of_labelOf found

theorem Tree.Takes.notProperty {tree : Tree} {old : Nat} {id : NodeId}
    (takes : tree.Takes old id) : tree.hasTag .property id = false := by
  obtain ⟨label, found, other⟩ := takes.label
  refine Bool.eq_false_iff.mpr fun isProperty => ?_
  obtain ⟨_, same, tag⟩ := (hasTag_iff tree .property id).mp isProperty
  cases found.symm.trans same
  exact other tag

/-- A single step of a builder that knows some types, when the tree once had `old` nodes. -/
inductive Edit (types : TypeUniverse) (asks : NodeId → NodeTag → Prop) (old : Nat)
    (before : Workspace) : Workspace → Prop
  | log (log : Log) : Edit types asks old before { before with log := log }
  /-- A symbol is made that no node declares. -/
  | symbol (signature : Signature) :
      Edit types asks old before { before with supply := (before.supply.fresh signature).2 }
  /-- A node is made that declares nothing. -/
  | make (kind : NodeKind) (name : Name) (ty : Ty) (resolved : types.resolve ty = .ok ())
      (plain : kind.declared? = none) (backed : before.tree.Backs ⟨kind, name, ty⟩) :
      Edit types asks old before
        { before with tree := (before.tree.push { kind := kind, name := name, ty := ty }).2 }
  /-- A node is made that declares a new symbol. -/
  | declare (signature : Signature) (kind : NodeKind) (name : Name) (ty : Ty)
      (resolved : types.resolve ty = .ok ())
      (declared : kind.declared? = some (before.supply.fresh signature).1)
      (backed : before.tree.Backs ⟨kind, name, ty⟩) :
      Edit types asks old before
        { before with
          tree := (before.tree.push { kind := kind, name := name, ty := ty }).2
          supply := (before.supply.fresh signature).2 }
  /-- A node is attached under a new one. -/
  | fill (parent child : NodeId) (takes : before.tree.Takes old parent)
      (attachable : before.tree.checkAttachable parent child = .ok ()) :
      Edit types asks old before { before with tree := before.tree.link parent child }
  /-- A new accessor is attached to a property. -/
  | equip (property accessor : NodeId) (tag : NodeTag) (new : old ≤ accessor.index)
      (asked : asks property tag) (isProperty : before.tree.hasTag .property property = true)
      (isAccessor : tag = .getter ∨ tag = .setter)
      (tagged : before.tree.hasTag tag accessor = true)
      (attachable : before.tree.checkAttachable property accessor = .ok ()) :
      Edit types asks old before { before with tree := before.tree.link property accessor }
  /-- An unattached node is annotated. -/
  | annotate (id : NodeId) (tag : AnnotationTag) (arguments : List Literal)
      (unlinked : Builder.checkUnlinked before.tree id = .ok ()) :
      Edit types asks old before { before with tree := before.tree.putTag id tag arguments }

/-- Steps of a builder, one after the other. -/
abbrev Edits (types : TypeUniverse) (asks : NodeId → NodeTag → Prop) (old : Nat) :
    Workspace → Workspace → Prop :=
  Relation.ReflTransGen (Edit types asks old)

/-- Nothing is attached to a property. -/
abbrev equipsNothing : NodeId → NodeTag → Prop := fun _ _ => False

variable {types : TypeUniverse} {asks : NodeId → NodeTag → Prop} {old : Nat}
variable {before after : Workspace}

/-! ### What every step keeps -/

theorem Edit.widen {older : Nat} {more : NodeId → NodeTag → Prop} (le : older ≤ old)
    (also : ∀ property tag, asks property tag → more property tag)
    (edit : Edit types asks old before after) : Edit types more older before after := by
  cases edit with
  | log log => exact .log log
  | symbol signature => exact .symbol signature
  | make kind name ty resolved plain backed => exact .make kind name ty resolved plain backed
  | declare signature kind name ty resolved declared backed =>
      exact .declare signature kind name ty resolved declared backed
  | fill parent child takes attachable =>
      exact .fill parent child ⟨le.trans takes.new, takes.label⟩ attachable
  | equip property accessor tag new asked isProperty isAccessor tagged attachable =>
      exact .equip property accessor tag (le.trans new) (also property tag asked) isProperty
        isAccessor tagged attachable
  | annotate id tag arguments unlinked => exact .annotate id tag arguments unlinked

/-- No step takes anything away. -/
theorem Edit.grows (edit : Edit types asks old before after) : Grows before after := by
  cases edit with
  | log log => exact .single (.log log)
  | symbol signature => exact .single (.symbol signature)
  | make kind name ty resolved _ _ => exact .single (.make types kind name ty resolved)
  | declare signature kind name ty resolved _ _ =>
      exact (Relation.ReflTransGen.single (.symbol signature)).tail
        (.make types kind name ty resolved)
  | fill parent child _ attachable => exact .single (.attach parent child attachable)
  | equip property accessor _ _ _ _ _ _ attachable =>
      exact .single (.attach property accessor attachable)
  | annotate id tag arguments unlinked =>
      unfold Builder.checkUnlinked at unlinked
      cases there : before.tree.node id with
      | ok node => exact .single (.annotate id tag arguments node there)
      | error error =>
          rw [there] at unlinked
          cases unlinked

theorem Edits.widen {older : Nat} {more : NodeId → NodeTag → Prop} (le : older ≤ old)
    (also : ∀ property tag, asks property tag → more property tag)
    (edits : Edits types asks old before after) : Edits types more older before after :=
  Relation.ReflTransGen.mono (fun _ _ edit => edit.widen le also) _ _ edits

theorem Edits.ofNothing (edits : Edits types equipsNothing old before after) :
    Edits types asks old before after :=
  edits.widen le_rfl fun _ _ => False.elim

theorem Edits.grows (edits : Edits types asks old before after) : Grows before after := by
  induction edits with
  | refl => exact .refl
  | tail _ edit ih => exact ih.trans edit.grows

theorem Edits.size_le (edits : Edits types asks old before after) :
    before.tree.size ≤ after.tree.size :=
  edits.grows.size_le

theorem Edits.takes (edits : Edits types asks old before after) {least : Nat} {id : NodeId}
    (takes : before.tree.Takes least id) : after.tree.Takes least id := by
  obtain ⟨label, found, other⟩ := takes.label
  exact ⟨takes.new, label, (edits.grows.labelOf takes.there).trans found, other⟩

/-- A new node that is no property. -/
theorem Tree.takes_push {tree : Tree} (new : old ≤ tree.size) {kind : NodeKind} {name : Name}
    {ty : Ty} (other : kind.tag ≠ .property) :
    (tree.push { kind := kind, name := name, ty := ty }).2.Takes old ⟨tree.size⟩ :=
  ⟨new, _, labelOf_push_self tree _, other⟩

/-- A single step of a builder that attaches no accessor. -/
abbrev Builder.Step (builder : Builder) (old : Nat) : Workspace → Workspace → Prop :=
  Edit builder.context.types equipsNothing old

namespace Builder

open Build

variable (builder : Builder) {start : Workspace}

/-! ### Single pieces of work -/

/-- Nothing is asked of what the work answers. -/
abbrev anything {α : Type} : α → Workspace → Prop := fun _ _ => True

theorem create_steps (kind : NodeKind) (name : Name) (ty : Ty)
    (plain : kind.declared? = none := by rfl)
    (backed : start.tree.Backs ⟨kind, name, ty⟩ := by trivial) :
    Steps (builder.Step old) (builder.create kind name ty) start fun id after =>
      id = ⟨start.tree.size⟩ ∧ after =
        { start with tree := (start.tree.push { kind := kind, name := name, ty := ty }).2 } :=
  .create (fun resolved => .make kind name ty resolved plain backed) ⟨rfl, rfl⟩

/-- A symbol and the node that declares it are made in one step; where the type of the node is not
known, the symbol alone is made. -/
theorem declare_steps {β : Type} (signature : Signature) (kind : Symbol → NodeKind) (name : Name)
    (ty : Ty) (next : Symbol → NodeId → Build β) (answer : β → Workspace → Prop)
    (declared : ∀ symbol, (kind symbol).declared? = some symbol)
    (backed : ∀ symbol, start.tree.Backs ⟨kind symbol, name, ty⟩)
    (rest : ∀ symbol after, symbol = (start.supply.fresh signature).1 →
      after = { start with
        tree := (start.tree.push { kind := kind symbol, name := name, ty := ty }).2
        supply := (start.supply.fresh signature).2 } →
      Steps (builder.Step old) (next symbol ⟨start.tree.size⟩) after answer) :
    Steps (builder.Step old)
      (newSymbol signature >>= fun symbol =>
        builder.create (kind symbol) name ty >>= next symbol) start answer := by
  let symbol := (start.supply.fresh signature).1
  let named : Workspace := { start with supply := (start.supply.fresh signature).2 }
  have run : builder.create (kind symbol) name ty named = _ :=
    create_apply builder.context.types (kind symbol) name ty named
  have first : (newSymbol signature >>= fun symbol =>
      builder.create (kind symbol) name ty >>= next symbol) start =
      (builder.create (kind symbol) name ty >>= next symbol) named :=
    bind_ok (newSymbol_apply signature start)
  cases resolved : builder.context.types.resolve ty with
  | error error =>
      rw [resolved] at run
      exact .of_error (first.trans (bind_error run)) (.single (.symbol signature))
  | ok _ =>
      rw [resolved] at run
      have later := rest symbol _ rfl rfl
      have edit : builder.Step old start _ :=
        .declare signature (kind symbol) name ty resolved (declared symbol) (backed symbol)
      have begun := first.trans (bind_ok run)
      cases done : next symbol _ _ with
      | ok _ _ =>
          obtain ⟨edits, answers⟩ := later.run_ok done
          exact .of_ok (begun.trans done) (.head edit edits) answers
      | error _ _ => exact .of_error (begun.trans done) (.head edit (later.run_error done))

theorem append_steps (parent child : NodeId) (takes : start.tree.Takes old parent) :
    Steps (Edit types equipsNothing old) (Build.append parent child) start anything :=
  .append (.fill parent child takes) trivial

theorem appendAll_steps (parent : NodeId) (children : List NodeId)
    (takes : start.tree.Takes old parent) :
    Steps (Edit types equipsNothing old) (Build.appendAll parent children) start anything := by
  induction children generalizing start with
  | nil => exact .pure () trivial
  | cons child rest ih =>
      exact (append_steps parent child takes).bind fun _ _ edits _ => ih (Edits.takes edits takes)

theorem note_steps (source : LogSource) (message : String) :
    Steps (Edit types equipsNothing old) (note source message) start anything :=
  .note (.log _) trivial

/-! ### Operations -/

theorem call_steps (callee : Symbol) (arguments : List NodeId) (new : old ≤ start.tree.size) :
    Steps (builder.Step old) (builder.call callee arguments) start anything := by
  unfold call
  split
  · exact .throw _
  · refine Steps.tree.bind ?_
    rintro tree _ - ⟨rfl, rfl⟩
    refine (Steps.ofExcept _).bind ?_
    rintro _ _ - ⟨_, rfl⟩
    refine (builder.create_steps _ _ _).bind ?_
    rintro id _ - ⟨rfl, rfl⟩
    exact (appendAll_steps _ _ (Tree.takes_push new (by nofun))).bind fun _ _ _ _ => .pure _ trivial

theorem ret_steps (target : Symbol) (value : NodeId) (new : old ≤ start.tree.size) :
    Steps (builder.Step old) (builder.ret target value) start anything := by
  unfold ret
  refine Steps.tree.bind ?_
  rintro tree _ - ⟨rfl, rfl⟩
  refine (Steps.ofExcept _).bind ?_
  rintro _ _ - ⟨_, rfl⟩
  refine (builder.create_steps _ _ _).bind ?_
  rintro id _ - ⟨rfl, rfl⟩
  exact (append_steps _ _ (Tree.takes_push new (by nofun))).bind fun _ _ _ _ => .pure _ trivial

theorem parameterAt_eq_ok {tree : Tree} {id : NodeId} {symbol : Symbol} {node : Node}
    (found : parameterAt tree id = .ok (symbol, node)) :
    tree.node? id = some node ∧ ∃ index, node.kind = .parameter symbol index := by
  unfold parameterAt Tree.node at found
  cases there : tree.node? id with
  | none =>
      rw [there] at found
      cases found
  | some other =>
      rw [there] at found
      dsimp only at found
      split at found
      · next kind =>
          cases found
          exact ⟨rfl, _, kind⟩
      · cases found

theorem get_steps (parameter : NodeId) :
    Steps (builder.Step old) (builder.get parameter) start anything := by
  unfold get
  refine Steps.tree.bind ?_
  rintro tree _ - ⟨rfl, rfl⟩
  refine (Steps.ofExcept _).bind ?_
  rintro ⟨symbol, node⟩ after - ⟨found, rfl⟩
  obtain ⟨there, index, kind⟩ := parameterAt_eq_ok found
  refine (builder.create_steps _ _ _ rfl ?_).mono (fun _ _ edit => .single edit)
    fun _ _ _ => trivial
  exact ⟨parameter, node.label, index, by rw [Tree.labelOf, there]; rfl, kind, rfl, rfl⟩

theorem property_steps (spec : PropertySpec) :
    Steps (builder.Step old) (builder.property spec) start anything :=
  builder.declare_steps _ (fun symbol => .property symbol spec.visibility spec.modality spec.isVar)
    _ _ _ _ (fun _ => rfl) (fun _ => trivial) fun _ _ _ _ =>
      (note_steps _ _).bind fun _ _ _ _ => .pure _ trivial

theorem annotate_steps (id : NodeId) (tag : AnnotationTag) (arguments : List Literal) :
    Steps (Edit types equipsNothing old) (annotate id tag arguments) start anything := by
  unfold annotate
  refine Steps.tree.bind ?_
  rintro tree _ - ⟨rfl, rfl⟩
  refine (Steps.ofExcept _).bind ?_
  rintro _ after - ⟨unlinked, rfl⟩
  exact .annotate (fun _ _ => .annotate id tag arguments unlinked) trivial

/-- **An operation takes the steps of a builder and no others.** -/
theorem perform_steps (operation : Operation) (new : old ≤ start.tree.size) :
    Steps (builder.Step old) (builder.perform operation) start anything := by
  have forget : ∀ {answer : NodeId → Workspace → Prop} {work : Build NodeId},
      Steps (builder.Step old) work start answer →
      Steps (builder.Step old) work start anything := fun steps =>
    steps.mono (fun _ _ edit => .single edit) fun _ _ _ => trivial
  cases operation with
  | literal value => exact forget (builder.create_steps _ _ _)
  | typeRef ty => exact forget (builder.create_steps _ _ _)
  | call callee arguments => exact builder.call_steps callee arguments new
  | ret target value => exact builder.ret_steps target value new
  | get parameter => exact builder.get_steps parameter
  | property spec => exact builder.property_steps spec
  | annotate id tag arguments =>
      exact (annotate_steps id tag arguments).bind fun _ _ _ _ => .pure _ trivial

end Builder

end DeclTree
