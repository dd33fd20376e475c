/-
**What verification asks of single nodes, in terms of their links.**

Only accessors and calls are asked for something. A node is `Furnished` if it has the children that
its kind asks for: a getter no value parameter, a setter the one called `value`, a call as many
arguments as its callee has parameters. It is `Housed` if it is no accessor or is attached to its
own property. `Fits` is both.

Verification asks a little less of an accessor, which need not be attached: it is `Lodged` if it
stands under no other node than its own property. A known type, `Furnished` and `Lodged` together
are exactly what a node of a forest is checked for (`IsForest.checkNode_iff_passes`).

What a node is never changes, so both outlive every change that leaves the links of the node alone
(`Furnished.congr`, `Housed.congr`), and attaching some other node (`Fits.link`).
-/

import DeclTree.Proofs.Tree.Verify

namespace DeclTree

/-- The property of an accessor. -/
def NodeKind.owner? : NodeKind → Option Symbol
  | getter _ owner => some owner
  | setter _ owner => some owner
  | _ => none

/-- Whether nothing is asked of the links of a node: it is neither an accessor nor a call. -/
def NodeKind.isNeutral : NodeKind → Bool
  | getter _ _ => false
  | setter _ _ => false
  | call _ => false
  | _ => true

namespace Tree

/-- The kind of the node at a place, if there is a node. -/
def kindOf (tree : Tree) (id : NodeId) : Option NodeKind := (tree.labelOf id).map Label.kind

/-- There is a node of whose links nothing is asked. -/
def Neutral (tree : Tree) (id : NodeId) : Prop :=
  ∃ kind, tree.kindOf id = some kind ∧ kind.isNeutral = true

/-- There is the property that a symbol declares. -/
def Declares (tree : Tree) (property : Symbol) (id : NodeId) : Prop :=
  ∃ symbol visibility modality isVar,
    tree.kindOf id = some (.property symbol visibility modality isVar) ∧
      symbol.same property = true

/-- There is the value parameter that a setter has. -/
def IsValue (tree : Tree) (id : NodeId) : Prop :=
  ∃ label symbol, tree.labelOf id = some label ∧ label.kind = .parameter symbol 0 ∧
    label.name.text = "value"

/-- A node has the children that its kind asks for. -/
structure Furnished (tree : Tree) (id : NodeId) : Prop where
  getter : ∀ symbol property, tree.kindOf id = some (.getter symbol property) →
    tree.childrenTagged id .parameter = []
  setter : ∀ symbol property, tree.kindOf id = some (.setter symbol property) →
    ∃ value, tree.childrenTagged id .parameter = [value] ∧ tree.IsValue value
  call : ∀ callee, tree.kindOf id = some (.call callee) →
    (tree.childrenOf id).length = callee.arity

/-- An accessor is attached to its own property. -/
def Housed (tree : Tree) (id : NodeId) : Prop :=
  ∀ kind property, tree.kindOf id = some kind → kind.owner? = some property →
    ∃ owner, tree.parentOf id = some owner ∧ tree.Declares property owner

/-- The links of a node are as its kind asks. -/
structure Fits (tree : Tree) (id : NodeId) : Prop where
  furnished : tree.Furnished id
  housed : tree.Housed id

/-- An accessor that is attached is attached to its own property. -/
def Lodged (tree : Tree) (id : NodeId) : Prop :=
  ∀ kind property owner, tree.kindOf id = some kind → kind.owner? = some property →
    tree.parentOf id = some owner → tree.Declares property owner

/-- A node is all that verification asks of it. -/
structure Passes (tree : Tree) (types : TypeUniverse) (id : NodeId) : Prop where
  known : ∃ label, tree.labelOf id = some label ∧ types.resolve label.ty = .ok ()
  furnished : tree.Furnished id
  lodged : tree.Lodged id

variable {tree other : Tree} {id : NodeId}

/-! ### What nodes are -/

theorem kindOf_congr (same : other.labelOf id = tree.labelOf id) :
    other.kindOf id = tree.kindOf id := by
  rw [kindOf, same, kindOf]

theorem kindOf_eq {node : Node} (found : tree.node? id = some node) :
    tree.kindOf id = some node.kind := by
  rw [kindOf, labelOf, found]
  rfl

theorem hasTag_eq_of_kindOf {kind : NodeKind} (is : tree.kindOf id = some kind) (tag : NodeTag) :
    tree.hasTag tag id = decide (kind.tag = tag) := by
  obtain ⟨label, found, rfl⟩ := Option.map_eq_some_iff.mp is
  rw [Bool.eq_iff_iff, hasTag_iff, found, decide_eq_true_iff]
  exact ⟨fun ⟨_, same, tagged⟩ => Option.some.inj same ▸ tagged, fun tagged => ⟨label, rfl, tagged⟩⟩

theorem Neutral.congr (neutral : tree.Neutral id) (same : other.labelOf id = tree.labelOf id) :
    other.Neutral id := by
  obtain ⟨kind, found, isNeutral⟩ := neutral
  exact ⟨kind, (kindOf_congr same).trans found, isNeutral⟩

theorem Declares.congr {property : Symbol} (declares : tree.Declares property id)
    (same : other.labelOf id = tree.labelOf id) : other.Declares property id := by
  obtain ⟨symbol, visibility, modality, isVar, found, own⟩ := declares
  exact ⟨symbol, visibility, modality, isVar, (kindOf_congr same).trans found, own⟩

theorem Declares.there {property : Symbol} (declares : tree.Declares property id) :
    id.index < tree.size := by
  obtain ⟨_, _, _, _, found, _⟩ := declares
  obtain ⟨label, labelled, _⟩ := Option.map_eq_some_iff.mp found
  exact lt_of_labelOf labelled

theorem neutral_of_isProperty (isProperty : tree.hasTag .property id = true) :
    tree.Neutral id := by
  obtain ⟨label, found, tag⟩ := (hasTag_iff tree .property id).mp isProperty
  refine ⟨label.kind, by rw [kindOf, found]; rfl, ?_⟩
  cases kind : label.kind <;> rw [kind] at tag <;> first | rfl | cases tag

theorem Neutral.fits (neutral : tree.Neutral id) : tree.Fits id := by
  obtain ⟨kind, found, isNeutral⟩ := neutral
  refine ⟨⟨fun _ _ is => ?_, fun _ _ is => ?_, fun _ is => ?_⟩, fun other property is of => ?_⟩
  · cases found.symm.trans is
    cases isNeutral
  · cases found.symm.trans is
    cases isNeutral
  · cases found.symm.trans is
    cases isNeutral
  · cases found.symm.trans is
    cases kind with
    | getter _ _ => cases isNeutral
    | setter _ _ => cases isNeutral
    | _ => cases of

theorem Housed.lodged (housed : tree.Housed id) : tree.Lodged id := by
  intro kind property owner is of attached
  obtain ⟨other, also, declares⟩ := housed kind property is of
  cases attached.symm.trans also
  exact declares

/-! ### Changes elsewhere -/

theorem Furnished.congr (furnished : tree.Furnished id) (same : other.labelOf id = tree.labelOf id)
    (children : other.childrenOf id = tree.childrenOf id)
    (labels : ∀ child ∈ tree.childrenOf id, other.labelOf child = tree.labelOf child) :
    other.Furnished id := by
  have parameters : other.childrenTagged id .parameter = tree.childrenTagged id .parameter :=
    childrenTagged_congr children labels
  have kinds := kindOf_congr same
  refine ⟨fun symbol property is => ?_, fun symbol property is => ?_, fun callee is => ?_⟩
  · rw [parameters]
    exact furnished.getter symbol property (kinds.symm.trans is)
  · obtain ⟨value, alone, label, named, found, isValue⟩ :=
      furnished.setter symbol property (kinds.symm.trans is)
    have listed : value ∈ tree.childrenTagged id .parameter := alone ▸ List.mem_singleton_self value
    exact ⟨value, parameters.trans alone, label, named,
      (labels value (List.mem_of_mem_filter listed)).trans found, isValue⟩
  · rw [children]
    exact furnished.call callee (kinds.symm.trans is)

theorem Housed.congr (housed : tree.Housed id) (same : other.labelOf id = tree.labelOf id)
    (parent : ∀ owner, tree.parentOf id = some owner →
      other.parentOf id = some owner ∧ other.labelOf owner = tree.labelOf owner) :
    other.Housed id := by
  intro kind property is of
  obtain ⟨owner, attached, declares⟩ := housed kind property ((kindOf_congr same).symm.trans is) of
  obtain ⟨still, label⟩ := parent owner attached
  exact ⟨owner, still, declares.congr label⟩

/-- Attaching a node that is no value parameter. -/
theorem Furnished.link (furnished : tree.Furnished id) {parent child : NodeId}
    (there : parent.index < tree.size)
    (apart : id = parent → tree.hasTag .call id = false ∧ tree.hasTag .parameter child = false) :
    (tree.link parent child).Furnished id := by
  by_cases same : id = parent
  · obtain ⟨notCall, notParameter⟩ := apart same
    have kinds := kindOf_congr (labelOf_link tree parent child id)
    have parameters : (tree.link parent child).childrenTagged id .parameter =
        tree.childrenTagged id .parameter := by
      rw [childrenTagged_link there, if_neg fun both => by rw [notParameter] at both; cases both.2]
    refine ⟨fun symbol property is => ?_, fun symbol property is => ?_, fun callee is => ?_⟩
    · rw [parameters]
      exact furnished.getter symbol property (kinds.symm.trans is)
    · obtain ⟨value, alone, label, named, found, isValue⟩ :=
        furnished.setter symbol property (kinds.symm.trans is)
      exact ⟨value, parameters.trans alone, label, named,
        (labelOf_link tree parent child value).trans found, isValue⟩
    · obtain ⟨label, found, kind⟩ := Option.map_eq_some_iff.mp (kinds.symm.trans is)
      have isCall : tree.hasTag .call id = true :=
        (hasTag_iff tree .call id).mpr ⟨label, found, congrArg NodeKind.tag kind⟩
      cases notCall.symm.trans isCall
  · have children : (tree.link parent child).childrenOf id = tree.childrenOf id := by
      rw [childrenOf_link there, if_neg same]
    exact furnished.congr (labelOf_link tree parent child id) children fun value _ =>
      labelOf_link tree parent child value

/-- Attaching a node elsewhere, or to a node of which nothing is asked. -/
theorem Fits.link (fits : tree.Fits id) {parent child : NodeId}
    (attachable : tree.checkAttachable parent child = .ok ())
    (apart : id = parent → tree.Neutral id) : (tree.link parent child).Fits id := by
  obtain ⟨there, childThere, _, alone, _⟩ :=
    (checkAttachable_eq_ok_iff tree parent child).mp attachable
  by_cases same : id = parent
  · exact ((apart same).congr (labelOf_link tree parent child id)).fits
  · refine ⟨fits.furnished.link there fun is => absurd is same, ?_⟩
    refine fits.housed.congr (labelOf_link tree parent child id) fun owner attached => ?_
    have other : id ≠ child := by
      rintro rfl
      cases alone.symm.trans attached
    rw [parentOf_link childThere, if_neg other]
    exact ⟨attached, labelOf_link tree parent child owner⟩

/-! ### What single kinds ask -/

section Kinds

variable {symbol property : Symbol}

theorem furnished_getter_iff (is : tree.kindOf id = some (.getter symbol property)) :
    tree.Furnished id ↔ tree.childrenTagged id .parameter = [] := by
  refine ⟨fun furnished => furnished.getter symbol property is, fun none => ⟨?_, ?_, ?_⟩⟩
  · intro _ _ _
    exact none
  · intro _ _ other
    cases is.symm.trans other
  · intro _ other
    cases is.symm.trans other

theorem furnished_setter_iff (is : tree.kindOf id = some (.setter symbol property)) :
    tree.Furnished id ↔
      ∃ value, tree.childrenTagged id .parameter = [value] ∧ tree.IsValue value := by
  refine ⟨fun furnished => furnished.setter symbol property is, fun one => ⟨?_, ?_, ?_⟩⟩
  · intro _ _ other
    cases is.symm.trans other
  · intro _ _ _
    exact one
  · intro _ other
    cases is.symm.trans other

theorem furnished_call_iff {callee : Symbol} (is : tree.kindOf id = some (.call callee)) :
    tree.Furnished id ↔ (tree.childrenOf id).length = callee.arity := by
  refine ⟨fun furnished => furnished.call callee is, fun full => ⟨?_, ?_, ?_⟩⟩
  · intro _ _ other
    cases is.symm.trans other
  · intro _ _ other
    cases is.symm.trans other
  · intro callee other
    cases is.symm.trans other
    exact full

theorem lodged_iff {kind : NodeKind} (is : tree.kindOf id = some kind)
    (of : kind.owner? = some property) :
    tree.Lodged id ↔ ∀ owner, tree.parentOf id = some owner → tree.Declares property owner := by
  constructor
  · intro lodged owner attached
    exact lodged kind property owner is of attached
  · intro declares other also owner found owned attached
    cases is.symm.trans found
    cases of.symm.trans owned
    exact declares owner attached

end Kinds

/-! ### Verification -/

/-- Looking up the value parameters among some nodes loses none of them. -/
theorem map_some_parameters (tree : Tree) (children : List NodeId) :
    (tree.parameters children).map some =
      (children.filter (tree.hasTag .parameter)).map tree.node? := by
  unfold parameters
  induction children with
  | nil => rfl
  | cons child rest ih =>
      unfold hasTag at ih ⊢
      cases found : tree.node? child with
      | none => simp [found, ih]
      | some node =>
          by_cases isParameter : node.tag = .parameter
          · simp [found, isParameter, ih]
          · simp [found, isParameter, ih]

theorem parameters_eq_nil_iff {children : List NodeId} :
    tree.parameters children = [] ↔ children.filter (tree.hasTag .parameter) = [] := by
  rw [← List.map_eq_nil_iff, map_some_parameters, List.map_eq_nil_iff]

theorem parameters_eq_singleton_iff {children : List NodeId} {node : Node} :
    tree.parameters children = [node] ↔
      ∃ value, children.filter (tree.hasTag .parameter) = [value] ∧
        tree.node? value = some node := by
  rw [← List.map_eq_singleton_iff, ← map_some_parameters]
  simp [List.map_eq_singleton_iff]

theorem declaresProperty_iff {node : Node} (found : tree.node? id = some node)
    (property : Symbol) : declaresProperty property node = true ↔ tree.Declares property id := by
  unfold Declares declaresProperty
  rw [kindOf_eq found]
  cases node.kind <;> simp

theorem isSetterParameter_iff {node : Node} (found : tree.node? id = some node) :
    isSetterParameter node = true ↔ tree.IsValue id := by
  unfold IsValue labelOf isSetterParameter
  rw [found]
  obtain ⟨kind, name, ty, children, parent, annotations⟩ := node
  cases kind with
  | parameter symbol index => cases index <;> simp [Node.label]
  | _ => simp [Node.label]

theorem checkOwner_eq_ok_iff {parent : Option NodeId} {property : Symbol} :
    tree.checkOwner id parent property = .ok () ↔
      ∀ owner, parent = some owner → tree.Declares property owner := by
  unfold checkOwner
  cases parent with
  | none => simp
  | some owner =>
      simp only [Option.some.injEq, forall_eq']
      cases found : tree.node? owner with
      | none =>
          simp only [node, found]
          constructor
          · intro failed
            cases failed
          · intro declares
            have outside := (node?_eq_none_iff tree owner).mp found
            exact absurd declares.there (by omega)
      | some node =>
          simp only [(node_eq_ok_iff tree owner node).mpr found]
          rw [← declaresProperty_iff found]
          cases declaresProperty property node <;> simp

theorem checkSetterParameter_eq_ok_iff {children : List NodeId} :
    tree.checkSetterParameter id children = .ok () ↔
      ∃ value, children.filter (tree.hasTag .parameter) = [value] ∧ tree.IsValue value := by
  have single : tree.checkSetterParameter id children = .ok () ↔
      ∃ node, tree.parameters children = [node] ∧ isSetterParameter node = true := by
    unfold checkSetterParameter
    split
    · next node one =>
        simp only [one, List.cons.injEq, and_true, exists_eq_left']
        cases isSetterParameter node <;> simp
    · next others =>
        refine ⟨nofun, ?_⟩
        rintro ⟨node, one, _⟩
        exact absurd one (others node)
  rw [single]
  simp only [parameters_eq_singleton_iff]
  constructor
  · rintro ⟨node, ⟨value, one, found⟩, isValue⟩
    exact ⟨value, one, (isSetterParameter_iff found).mp isValue⟩
  · rintro ⟨value, one, label, symbol, labelled, isValue⟩
    obtain ⟨node, found, _⟩ := Option.map_eq_some_iff.mp labelled
    exact ⟨node, ⟨value, one, found⟩,
      (isSetterParameter_iff found).mpr ⟨label, symbol, labelled, isValue⟩⟩

/-- **What the kind of a node asks of its links.** -/
theorem checkKind_eq_ok_iff {node : Node} (found : tree.node? id = some node) :
    tree.checkKind id node = .ok () ↔ tree.Furnished id ∧ tree.Lodged id := by
  have kind := kindOf_eq found
  have listed := childrenOf_eq found
  unfold checkKind
  cases is : node.kind with
  | getter symbol property =>
      rw [is] at kind
      dsimp only
      rw [seq_eq_ok_iff, checkOwner_eq_ok_iff, furnished_getter_iff kind, lodged_iff kind rfl,
        parentOf_eq found, and_comm, childrenTagged, listed, ← parameters_eq_nil_iff]
      refine and_congr_left' ?_
      cases tree.parameters node.children <;> simp
  | setter symbol property =>
      rw [is] at kind
      dsimp only
      rw [seq_eq_ok_iff, checkOwner_eq_ok_iff, checkSetterParameter_eq_ok_iff,
        furnished_setter_iff kind, lodged_iff kind rfl, parentOf_eq found, and_comm, childrenTagged,
        listed]
  | call callee =>
      rw [is] at kind
      dsimp only
      rw [furnished_call_iff kind, listed]
      refine ⟨fun full => ⟨?_, ?_⟩, fun both => if_pos both.1⟩
      · by_contra other
        rw [if_neg other] at full
        cases full
      · intro other _ _ also of
        cases kind.symm.trans also
        cases of
  | _ =>
      rw [is] at kind
      have neutral : tree.Neutral id := ⟨_, kind, rfl⟩
      exact ⟨fun _ => ⟨neutral.fits.furnished, neutral.fits.housed.lodged⟩, fun _ => rfl⟩

/-- **What verification asks of a node of a forest.** -/
theorem IsForest.checkNode_iff_passes (forest : tree.IsForest) {types : TypeUniverse} :
    tree.checkNode types id = .ok () ↔ tree.Passes types id := by
  constructor
  · intro checked
    cases found : tree.node? id with
    | none =>
        unfold checkNode node at checked
        rw [found] at checked
        cases checked
    | some node =>
        obtain ⟨known, kind⟩ := (forest.checkNode_eq_ok_iff found).mp checked
        obtain ⟨furnished, lodged⟩ := (checkKind_eq_ok_iff found).mp kind
        exact ⟨⟨node.label, by rw [labelOf, found, Option.map_some], known⟩, furnished, lodged⟩
  · intro passes
    obtain ⟨label, labelled, known⟩ := passes.known
    obtain ⟨node, found, rfl⟩ := Option.map_eq_some_iff.mp labelled
    exact (forest.checkNode_eq_ok_iff found).mpr
      ⟨known, (checkKind_eq_ok_iff found).mpr ⟨passes.furnished, passes.lodged⟩⟩

/-- A node of a known type whose links are as its kind asks passes. -/
theorem Fits.passes {types : TypeUniverse} (fits : tree.Fits id) {label : Label}
    (labelled : tree.labelOf id = some label) (known : types.resolve label.ty = .ok ()) :
    tree.Passes types id :=
  ⟨⟨label, labelled, known⟩, fits.furnished, fits.housed.lodged⟩

end Tree

end DeclTree
