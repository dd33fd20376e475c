/-
**What builders leave alone.**

`Tree.Spared` says what becomes of the nodes of a tree while builders work: they stay what they are,
no link is taken away, what is attached is neither annotated nor attached elsewhere, and a list of
children only gets longer where new accessors were asked for a property (`Tree.Joins`).

* `Spared.push`, `Spared.putTag`, `Spared.link`: each change that a builder makes spares the tree;
* `Spared.trans`: so do changes one after the other;
* `Performs.spared`: so does whatever is done in a run, however it ends.
-/

import DeclTree.Proofs.Build.ScriptEdits

namespace DeclTree

namespace Tree

/-- The annotations of the node at a place, if there is a node. -/
def annotationsOf (tree : Tree) (id : NodeId) : Option Annotations :=
  (tree.node? id).map Node.annotations

/-! ### Annotations -/

theorem annotationsOf_push {tree : Tree} {id : NodeId} (there : id.index < tree.size)
    (node : Node) : (tree.push node).2.annotationsOf id = tree.annotationsOf id := by
  rw [annotationsOf, node?_push, if_neg (by omega), annotationsOf]

theorem annotationsOf_putTag {tree : Tree} {id other : NodeId} (different : other ≠ id)
    (tag : AnnotationTag) (arguments : List Literal) :
    (tree.putTag id tag arguments).annotationsOf other = tree.annotationsOf other := by
  rw [annotationsOf, node?_putTag, Option.map_map, annotationsOf]
  exact congrArg (Option.map · _) (funext fun _ => if_neg different)

theorem annotationsOf_link (tree : Tree) (parent child id : NodeId) :
    (tree.link parent child).annotationsOf id = tree.annotationsOf id := by
  rw [annotationsOf, node?_link, Option.map_map]
  rfl

/-- What may be annotated: a node other than the module that is attached to nothing. -/
theorem unlinked_of_checkUnlinked {tree : Tree} {id : NodeId}
    (passed : Builder.checkUnlinked tree id = .ok ()) : tree.parentOf id = none ∧ id ≠ .root := by
  unfold Builder.checkUnlinked Tree.node at passed
  unfold parentOf
  cases found : tree.node? id with
  | none =>
      rw [found] at passed
      cases passed
  | some node =>
      rw [found] at passed
      dsimp only at passed
      split at passed
      · cases passed
      · next free =>
          rw [not_or, Option.not_isSome_iff_eq_none] at free
          exact free

/-! ### Sparing -/

/-- A child that was added to a node: an accessor, made since the tree had `old` nodes, of a
property for which one of its kind was asked. -/
structure Joins (tree : Tree) (old : Nat) (asked : NodeId → NodeTag → Prop) (id accessor : NodeId) :
    Prop where
  new : old ≤ accessor.index
  isProperty : tree.hasTag .property id = true
  isAsked : ∃ tag, asked id tag ∧ (tag = .getter ∨ tag = .setter) ∧ tree.hasTag tag accessor = true

/-- From one tree to another one the first `old` nodes were spared. -/
structure Spared (old : Nat) (asked : NodeId → NodeTag → Prop) (before after : Tree) : Prop where
  size_le : before.size ≤ after.size
  /-- A node stays what it is. -/
  labelOf : ∀ id : NodeId, id.index < before.size → after.labelOf id = before.labelOf id
  /-- No node loses its parent or gets another one in its place. -/
  parentOf : ∀ id parent : NodeId,
    before.parentOf id = some parent → after.parentOf id = some parent
  /-- The module is not attached. -/
  root_parentOf : after.parentOf .root = before.parentOf .root
  /-- What is attached, and the module, is not annotated. -/
  annotationsOf : ∀ id : NodeId, id.index < old → before.parentOf id ≠ none ∨ id = .root →
    after.annotationsOf id = before.annotationsOf id
  /-- Children are added at the end, and they are accessors that were asked for. -/
  childrenOf : ∀ id : NodeId, id.index < old → ∃ added,
    after.childrenOf id = before.childrenOf id ++ added ∧
      ∀ accessor ∈ added, after.Joins old asked id accessor

variable {old : Nat} {asked : NodeId → NodeTag → Prop} {before middle after tree : Tree}

/-! ### Changes one after the other -/

theorem Spared.refl (old : Nat) (asked : NodeId → NodeTag → Prop) (tree : Tree) :
    Spared old asked tree tree where
  size_le := le_rfl
  labelOf _ _ := rfl
  parentOf _ _ attached := attached
  root_parentOf := rfl
  annotationsOf _ _ _ := rfl
  childrenOf _ _ := ⟨[], (List.append_nil _).symm, nofun⟩

theorem Spared.hasTag (spared : Spared old asked before after) {tag : NodeTag} {id : NodeId}
    (has : before.hasTag tag id = true) : after.hasTag tag id = true := by
  rw [hasTag_iff, spared.labelOf id (lt_of_hasTag has), ← hasTag_iff]
  exact has

theorem Joins.spared {id accessor : NodeId} (joins : before.Joins old asked id accessor)
    (spared : Spared old asked before after) : after.Joins old asked id accessor := by
  obtain ⟨new, isProperty, tag, isAsked, isAccessor, tagged⟩ := joins
  exact ⟨new, spared.hasTag isProperty, tag, isAsked, isAccessor, spared.hasTag tagged⟩

theorem Spared.trans (first : Spared old asked before middle)
    (later : Spared old asked middle after) : Spared old asked before after where
  size_le := first.size_le.trans later.size_le
  labelOf id there :=
    (later.labelOf id (Nat.lt_of_lt_of_le there first.size_le)).trans (first.labelOf id there)
  parentOf id parent attached := later.parentOf id parent (first.parentOf id parent attached)
  root_parentOf := later.root_parentOf.trans first.root_parentOf
  annotationsOf id there kept := by
    refine (later.annotationsOf id there (kept.imp_left fun attached => ?_)).trans
      (first.annotationsOf id there kept)
    obtain ⟨parent, up⟩ := Option.ne_none_iff_exists'.mp attached
    rw [first.parentOf id parent up]
    nofun
  childrenOf id there := by
    obtain ⟨added, children, joined⟩ := first.childrenOf id there
    obtain ⟨more, longer, joining⟩ := later.childrenOf id there
    refine ⟨added ++ more, by rw [longer, children, List.append_assoc], fun accessor member => ?_⟩
    rcases List.mem_append.mp member with early | late
    · exact (joined accessor early).spared later
    · exact joining accessor late

/-! ### Single changes -/

theorem Spared.push (new : old ≤ tree.size) (kind : NodeKind) (name : Name) (ty : Ty) :
    Spared old asked tree (tree.push { kind := kind, name := name, ty := ty }).2 where
  size_le := (Nat.le_succ _).trans_eq (size_push _ _).symm
  labelOf id there := labelOf_push there _
  parentOf id parent attached := by rwa [parentOf_push tree _ rfl]
  root_parentOf := parentOf_push tree _ rfl _
  annotationsOf _ there _ := annotationsOf_push (Nat.lt_of_lt_of_le there new) _
  childrenOf id _ := ⟨[], by rw [childrenOf_push tree _ rfl, List.append_nil], nofun⟩

theorem Spared.putTag {id : NodeId} (unlinked : Builder.checkUnlinked tree id = .ok ())
    (tag : AnnotationTag) (arguments : List Literal) :
    Spared old asked tree (tree.putTag id tag arguments) where
  size_le := (size_putTag _ _ _ _).ge
  labelOf other _ := labelOf_putTag _ _ _ _ _
  parentOf other parent attached := by rwa [parentOf_putTag]
  root_parentOf := parentOf_putTag _ _ _ _ _
  annotationsOf other _ kept := by
    obtain ⟨alone, notRoot⟩ := unlinked_of_checkUnlinked unlinked
    refine annotationsOf_putTag ?_ tag arguments
    rintro rfl
    exact kept.elim (fun attached => attached alone) notRoot
  childrenOf other _ := ⟨[], by rw [childrenOf_putTag, List.append_nil], nofun⟩

/-- A node is attached under a new node, or it is an accessor that was asked for. -/
theorem Spared.link {parent child : NodeId}
    (attachable : tree.checkAttachable parent child = .ok ())
    (joins : parent.index < old → tree.Joins old asked parent child) :
    Spared old asked tree (tree.link parent child) where
  size_le := (size_link _ _ _).ge
  labelOf id _ := labelOf_link _ _ _ _
  parentOf id above attached := by
    obtain ⟨_, there, _, alone, _⟩ := (checkAttachable_eq_ok_iff tree parent child).mp attachable
    have other : id ≠ child := by
      rintro rfl
      rw [alone] at attached
      cases attached
    rwa [parentOf_link there, if_neg other]
  root_parentOf := by
    obtain ⟨_, there, notRoot, _⟩ := (checkAttachable_eq_ok_iff tree parent child).mp attachable
    rw [parentOf_link there, if_neg notRoot.symm]
  annotationsOf _ _ _ := annotationsOf_link _ _ _ _
  childrenOf id there := by
    obtain ⟨parentThere, _⟩ := (checkAttachable_eq_ok_iff tree parent child).mp attachable
    rw [childrenOf_link parentThere]
    by_cases same : id = parent
    · subst same
      obtain ⟨new, isProperty, tag, isAsked, isAccessor, tagged⟩ := joins there
      refine ⟨[child], by rw [if_pos rfl], fun accessor member => ?_⟩
      rw [List.mem_singleton.mp member]
      refine ⟨new, ?_, tag, isAsked, isAccessor, ?_⟩
      · rwa [hasTag_iff, labelOf_link, ← hasTag_iff]
      · rwa [hasTag_iff, labelOf_link, ← hasTag_iff]
    · exact ⟨[], by rw [if_neg same, List.append_nil], nofun⟩

/-! ### What stays as it is -/

/-- Only properties get new children. -/
theorem Spared.childrenOf_eq (spared : Spared old asked before after) {id : NodeId}
    (there : id.index < old) (inside : id.index < before.size)
    (other : before.hasTag .property id = false) :
    after.childrenOf id = before.childrenOf id := by
  obtain ⟨added, children, joined⟩ := spared.childrenOf id there
  cases added with
  | nil => rw [children, List.append_nil]
  | cons accessor rest =>
      have isProperty := (joined accessor List.mem_cons_self).isProperty
      rw [hasTag_iff, spared.labelOf id inside, ← hasTag_iff, other] at isProperty
      cases isProperty

end Tree

/-! ### Builders -/

variable {types : TypeUniverse} {asks : NodeId → NodeTag → Prop} {old : Nat}
variable {before after : Workspace} {builder : Builder}

theorem Edit.spared (edit : Edit types asks old before after) (new : old ≤ before.tree.size) :
    Tree.Spared old asks before.tree after.tree := by
  cases edit with
  | log _ => exact .refl old asks before.tree
  | symbol _ => exact .refl old asks before.tree
  | make kind name ty _ _ _ => exact .push new kind name ty
  | declare _ kind name ty _ _ _ => exact .push new kind name ty
  | fill parent child takes attachable =>
      exact .link attachable fun inside => absurd takes.new (Nat.not_le.mpr inside)
  | equip property accessor tag later asked isProperty isAccessor tagged attachable =>
      exact .link attachable fun _ => ⟨later, isProperty, tag, asked, isAccessor, tagged⟩
  | annotate id tag arguments unlinked => exact .putTag unlinked tag arguments

theorem Edits.spared (edits : Edits types asks old before after) (new : old ≤ before.tree.size) :
    Tree.Spared old asks before.tree after.tree := by
  induction edits with
  | refl => exact .refl old asks before.tree
  | tail earlier edit ih => exact ih.trans (edit.spared (new.trans (Edits.size_le earlier)))

/-- **Whatever is done in a run spares the nodes that were there**, and adds to properties the
accessors that were built. -/
theorem Performs.spared {deeds : List Deed} (performs : Performs builder deeds before after) :
    Tree.Spared before.tree.size (Deed.equips deeds) before.tree after.tree :=
  (performs.edits le_rfl).spared le_rfl

end DeclTree
