/-
**What verification reports.**

A node can have several faults at once, and a subtree many nodes that have some. Which of them is
reported is said by `Fault`, of a single node: its type comes first, then the node it stands under,
then its children; and of a subtree by its grove, in whose order the first node with a fault
decides.

* `IsForest.checkNode_eq_error_iff`: the check of a node reports its fault, because the children of
  a forest know their parents, and because a node that has no fault passes (`passes_or_fault`);
* `forM_eq_error_iff`: checks one after the other fail with the first that fails;
* `verify_exact`: **verification decides whether all nodes of a subtree pass, and otherwise reports
  the fault of the first one that does not**.
-/

import DeclTree.Proofs.Host.Run
import DeclTree.Proofs.Tree.Fits

namespace DeclTree

/-- Checks one after the other fail as the first one does that fails. -/
theorem forM_eq_error_iff {α ε : Type} (check : α → Except ε Unit) (items : List α) (error : ε) :
    items.forM check = .error error ↔ ∃ earlier item later, items = earlier ++ item :: later ∧
      (∀ passed ∈ earlier, check passed = .ok ()) ∧ check item = .error error := by
  constructor
  · intro failed
    induction items with
    | nil => cases failed
    | cons first rest ih =>
        cases checked : check first with
        | error _ =>
            rw [List.forM, checked] at failed
            cases failed
            exact ⟨[], first, rest, rfl, List.forall_mem_nil _, checked⟩
        | ok _ =>
            rw [List.forM, checked] at failed
            obtain ⟨earlier, item, later, rfl, passed, fails⟩ := ih failed
            exact ⟨first :: earlier, item, later, rfl,
              List.forall_mem_cons.mpr ⟨checked, passed⟩, fails⟩
  · rintro ⟨earlier, item, later, rfl, passed, fails⟩
    induction earlier with
    | nil =>
        rw [List.nil_append, List.forM, fails]
        rfl
    | cons first rest ih =>
        obtain ⟨firstPassed, passed⟩ := List.forall_mem_cons.mp passed
        rw [List.cons_append, List.forM, firstPassed]
        exact ih passed

namespace Tree

/-- A node has a type of a known class. -/
def Typed (tree : Tree) (types : TypeUniverse) (id : NodeId) : Prop :=
  ∃ label, tree.labelOf id = some label ∧ types.resolve label.ty = .ok ()

/-- What is reported of a node by itself: its type before what it stands under, and that before its
children. -/
inductive Fault (tree : Tree) (types : TypeUniverse) (id : NodeId) : TreeError → Prop
  | unknownType {label : Label} (found : tree.labelOf id = some label)
      (unknown : label.ty.classifier ∉ types.classes) :
      Fault tree types id (.unresolved label.ty.classifier)
  /-- An accessor stands under something other than its own property. -/
  | foreign {kind : NodeKind} {property : Symbol} {owner : NodeId} (typed : tree.Typed types id)
      (is : tree.kindOf id = some kind) (of : kind.owner? = some property)
      (attached : tree.parentOf id = some owner) (other : ¬ tree.Declares property owner) :
      Fault tree types id (.violation (.foreignAccessor id property.name))
  | getterParameter {symbol property : Symbol} (typed : tree.Typed types id)
      (lodged : tree.Lodged id) (is : tree.kindOf id = some (.getter symbol property))
      (some : tree.childrenTagged id .parameter ≠ []) :
      Fault tree types id (.violation .getterParameter)
  | setterParameter {symbol property : Symbol} (typed : tree.Typed types id)
      (lodged : tree.Lodged id) (is : tree.kindOf id = some (.setter symbol property))
      (other : ¬ ∃ value, tree.childrenTagged id .parameter = [value] ∧ tree.IsValue value) :
      Fault tree types id (.violation (.setterParameter id))
  | arity {callee : Symbol} (typed : tree.Typed types id)
      (is : tree.kindOf id = some (.call callee))
      (other : (tree.childrenOf id).length ≠ callee.arity) :
      Fault tree types id (.arity callee.name callee.arity (tree.childrenOf id).length)

variable {tree : Tree} {types : TypeUniverse} {id : NodeId}

/-! ### Single nodes -/

/-- A node passes, or there is something to report of it. -/
theorem passes_or_fault (types : TypeUniverse) (there : id.index < tree.size) :
    tree.Passes types id ∨ ∃ error, tree.Fault types id error := by
  obtain ⟨node, found⟩ := node?_eq_some_of_lt there
  have labelled : tree.labelOf id = some node.label := by rw [labelOf, found, Option.map_some]
  have is := kindOf_eq found
  by_cases typed : tree.Typed types id
  · by_cases lodged : tree.Lodged id
    · by_cases furnished : tree.Furnished id
      · exact .inl ⟨typed, furnished, lodged⟩
      · right
        cases kind : node.kind with
        | getter symbol property =>
            rw [kind] at is
            rw [furnished_getter_iff is] at furnished
            exact ⟨_, .getterParameter typed lodged is furnished⟩
        | setter symbol property =>
            rw [kind] at is
            rw [furnished_setter_iff is] at furnished
            exact ⟨_, .setterParameter typed lodged is furnished⟩
        | call callee =>
            rw [kind] at is
            rw [furnished_call_iff is] at furnished
            exact ⟨_, .arity typed is furnished⟩
        | _ =>
            rw [kind] at is
            have neutral : tree.Neutral id := ⟨_, is, rfl⟩
            exact absurd neutral.fits.furnished furnished
    · simp only [Lodged, not_forall] at lodged
      obtain ⟨kind, property, owner, is, of, attached, other⟩ := lodged
      exact .inr ⟨_, .foreign typed is of attached other⟩
  · refine .inr ⟨_, .unknownType labelled fun known => typed ?_⟩
    exact ⟨node.label, labelled, (types.resolve_eq_ok_iff _).mpr known⟩

theorem checkOwner_of_foreign {owner : NodeId} {property : Symbol}
    (there : owner.index < tree.size) (other : ¬ tree.Declares property owner) :
    tree.checkOwner id (some owner) property =
      .error (.violation (.foreignAccessor id property.name)) := by
  obtain ⟨node, found⟩ := node?_eq_some_of_lt there
  rw [← declaresProperty_iff found] at other
  unfold checkOwner
  dsimp only
  rw [(node_eq_ok_iff tree owner node).mpr found]
  exact if_neg other

theorem checkSetterParameter_eq (tree : Tree) (id : NodeId) (children : List NodeId) :
    tree.checkSetterParameter id children = .ok () ∨
      tree.checkSetterParameter id children = .error (.violation (.setterParameter id)) := by
  unfold checkSetterParameter
  split
  · next parameter _ => cases isSetterParameter parameter <;> simp
  · exact .inr rfl

/-- What the kind of a node asks of its links is asked in this order. -/
theorem checkKind_of_fault (forest : tree.IsForest) {node : Node}
    (found : tree.node? id = some node) {error : TreeError} (fault : tree.Fault types id error)
    (typed : tree.Typed types id) : tree.checkKind id node = .error error := by
  have listed := childrenOf_eq found
  have lodging : ∀ {kind property}, tree.kindOf id = some kind → kind.owner? = some property →
      tree.Lodged id → tree.checkOwner id node.parent property = .ok () := by
    intro kind property is of lodged
    rw [← parentOf_eq found, checkOwner_eq_ok_iff]
    exact (lodged_iff is of).mp lodged
  have sameKind : ∀ {kind}, tree.kindOf id = some kind → node.kind = kind := fun is =>
    Option.some.inj ((kindOf_eq found).symm.trans is)
  unfold checkKind
  cases fault with
  | unknownType labelled unknown =>
      obtain ⟨label, also, known⟩ := typed
      cases labelled.symm.trans also
      exact absurd ((types.resolve_eq_ok_iff _).mp known) unknown
  | @foreign kind property owner _ is of attached other =>
      have refused : tree.checkOwner id (some owner) property =
          .error (.violation (.foreignAccessor id property.name)) :=
        checkOwner_of_foreign (forest.parent_there attached) other
      rw [← attached, parentOf_eq found] at refused
      rw [sameKind is]
      cases kind <;> cases of <;> dsimp only <;> rw [refused] <;> rfl
  | getterParameter _ lodged is some =>
      rw [childrenTagged, listed, Ne, ← parameters_eq_nil_iff, ← List.isEmpty_iff] at some
      rw [sameKind is]
      dsimp only
      rw [lodging is rfl lodged]
      exact if_neg some
  | setterParameter _ lodged is other =>
      rw [childrenTagged, listed] at other
      rw [sameKind is]
      dsimp only
      rw [lodging is rfl lodged]
      exact (checkSetterParameter_eq tree id node.children).resolve_left
        (mt checkSetterParameter_eq_ok_iff.mp other)
  | arity _ is other =>
      rw [listed] at other ⊢
      rw [sameKind is]
      exact if_neg other

/-- **The check of a node reports its fault.** -/
theorem IsForest.checkNode_of_fault (forest : tree.IsForest) (there : id.index < tree.size)
    {error : TreeError} (fault : tree.Fault types id error) :
    tree.checkNode types id = .error error := by
  obtain ⟨node, found⟩ := node?_eq_some_of_lt there
  have labelled : tree.labelOf id = some node.label := by rw [labelOf, found, Option.map_some]
  rw [forest.checkNode_eq found]
  by_cases known : node.ty.classifier ∈ types.classes
  · have resolved : types.resolve node.ty = .ok () := (types.resolve_eq_ok_iff _).mpr known
    rw [resolved]
    exact checkKind_of_fault forest found fault ⟨node.label, labelled, resolved⟩
  · have untyped : ¬ tree.Typed types id := by
      rintro ⟨label, also, resolved⟩
      cases labelled.symm.trans also
      exact known ((types.resolve_eq_ok_iff _).mp resolved)
    cases fault with
    | unknownType also _ =>
        cases labelled.symm.trans also
        rw [show types.resolve node.ty = .error (.unresolved node.ty.classifier) from if_neg known]
        rfl
    | foreign typed _ _ _ _ => exact absurd typed untyped
    | getterParameter typed _ _ _ => exact absurd typed untyped
    | setterParameter typed _ _ _ => exact absurd typed untyped
    | arity typed _ _ => exact absurd typed untyped

theorem IsForest.checkNode_eq_error_iff (forest : tree.IsForest) (there : id.index < tree.size)
    {error : TreeError} :
    tree.checkNode types id = .error error ↔ tree.Fault types id error := by
  refine ⟨fun failed => ?_, forest.checkNode_of_fault there⟩
  obtain passes | ⟨other, fault⟩ := passes_or_fault types there
  · cases (forest.checkNode_iff_passes.mpr passes).symm.trans failed
  · cases (forest.checkNode_of_fault there fault).symm.trans failed
    exact fault

/-! ### Subtrees -/

/-- **A subtree fails as its first node does that does not pass.** -/
theorem IsForest.verify_eq_error_iff (forest : tree.IsForest) {below : Grove}
    (stands : (Grove.single id below).StandsIn tree) {error : TreeError} :
    tree.verify types id = .error error ↔
      ∃ earlier low later, (Grove.single id below).order = earlier ++ low :: later ∧
        (∀ passed ∈ earlier, tree.Passes types passed) ∧ tree.Fault types low error := by
  have there := Grove.there_of_mem_order stands
  rw [verify_eq stands (forest.length_order_le stands), forM_eq_error_iff]
  simp only [forest.checkNode_iff_passes]
  refine exists_congr fun earlier => exists_congr fun low => exists_congr fun later => ?_
  refine and_congr_right fun order => and_congr_right fun _ => ?_
  refine forest.checkNode_eq_error_iff (there low ?_)
  rw [order]
  exact List.mem_append_right _ List.mem_cons_self

end Tree

/-- **Verification decides its specification, and reports the first violation.** In every workspace
that a host can come to, for every node and whatever classes are known: the subtree has an order, in
which every node comes once, before those below it, and children come in the order in which they are
stored. Verification succeeds if and only if all nodes of the subtree pass, and otherwise it reports
the fault of the first one in that order that does not. -/
theorem verify_exact {workspace : Workspace} (reachable : workspace.Reachable)
    (types : TypeUniverse) {id : NodeId} (there : id.index < workspace.tree.size) :
    let tree := workspace.tree
    (tree.verify types id = .ok () ↔ ∀ low, tree.Above id low → tree.Passes types low) ∧
      ∃ below : Grove, (Grove.single id below).StandsIn tree ∧
        (Grove.single id below).order.Nodup ∧
        (∀ low, low ∈ (Grove.single id below).order ↔ tree.Above id low) ∧
        ∀ error, tree.verify types id = .error error ↔
          ∃ earlier low later, (Grove.single id below).order = earlier ++ low :: later ∧
            (∀ passed ∈ earlier, tree.Passes types passed) ∧ tree.Fault types low error := by
  intro tree
  have forest : tree.IsForest := reachable.isForest
  refine ⟨?_, ?_⟩
  · rw [forest.verify_eq_ok_iff there]
    simp only [forest.checkNode_iff_passes]
  · obtain ⟨below, stands⟩ := forest.exists_grove there
    refine ⟨below, stands, ?_, fun low => ?_, fun error => forest.verify_eq_error_iff stands⟩
    · exact Grove.nodup_order forest stands (List.pairwise_singleton _ id)
    · rw [Grove.mem_order_iff forest stands]
      exact ⟨fun ⟨_, isTop, above⟩ => List.mem_singleton.mp isTop ▸ above,
        fun above => ⟨id, List.mem_singleton_self id, above⟩⟩

/-- A call without its argument in a body, and beside the body a getter that has no property: the
call is reported, which comes first. -/
theorem verify_two_faults :
    let callee : Symbol := ⟨⟨⟨"f"⟩, .function, [.int], .int⟩, ⟨1⟩⟩
    let property : Symbol := ⟨⟨⟨"p"⟩, .property, [], .int⟩, ⟨2⟩⟩
    let getter : Symbol := ⟨⟨⟨"<get-p>"⟩, .getter, [], .int⟩, ⟨3⟩⟩
    let workspace := (Workspace.ofModule (.identifier "app") {} []).after
      [.create .builtin .body (.special "<body>") .unit, .append .root ⟨1⟩,
        .create .builtin (.call callee) (.identifier "f") .int, .append ⟨1⟩ ⟨2⟩,
        .create .builtin (.getter getter property) (.special "<get-p>") .int, .append .root ⟨3⟩]
    let tree := workspace.tree
    workspace.Reachable ∧ NodeId.root.index < tree.size ∧
      tree.verify .builtin ⟨3⟩ = .error (.violation (.foreignAccessor ⟨3⟩ ⟨"p"⟩)) ∧
      tree.verify .builtin .root = .error (.arity ⟨"f"⟩ 1 0) ∧
      ∃ below earlier low later, (Grove.single .root below).order = earlier ++ low :: later ∧
        (∀ passed ∈ earlier, tree.Passes .builtin passed) ∧
          tree.Fault .builtin low (.arity ⟨"f"⟩ 1 0) := by
  intro callee property getter workspace tree
  have reachable : workspace.Reachable := Workspace.reachable_after _ _ _ _
  have there : NodeId.root.index < tree.size := by decide
  have failed : tree.verify .builtin .root = .error (.arity ⟨"f"⟩ 1 0) := by decide
  obtain ⟨below, _, _, _, reports⟩ := (verify_exact reachable .builtin there).2
  exact ⟨reachable, there, by decide, failed, below, (reports _).mp failed⟩

end DeclTree
