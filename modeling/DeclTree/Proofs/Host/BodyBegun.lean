/-
**Whether the body of a declaration is begun.**

A declaration is checked before the host is asked to write its body. Between the checks and the body
nodes are made and attached, each of which can fail; but in a session the checks decide alone
(`Declaration.Admitted`), because no class is forgotten and so the type of every property is still
known. Where they are not passed, `Declaration.Barred` says with which error the declaration fails;
its cases come in the order of the checks.

* `Session.Reachable`: the sessions that a host can come to, also where it writes a body;
* `start_of_admitted`: a declaration that is admitted is begun;
* `start_of_barred`: one that is barred fails, and no node is made;
* `admitted_or_barred`: there is no third way;
* `body_begun_exact`: **the checks decide**, and whether a body is given up is up to the body.
-/

import DeclTree.Proofs.Build.Assembly
import DeclTree.Proofs.Host.PropertyAccessor
import DeclTree.Proofs.Host.WellTyped

namespace DeclTree

/-! ### Sessions that a host can come to -/

/-- A session that a host can come to on a module that was empty at first: after its commands, or
from there on, as it is where the host writes a body. -/
def Session.Reachable (session : Session) : Prop :=
  ∃ context name supply log commands,
    let reached := Session.after ⟨context, Workspace.ofModule name supply log⟩ commands
    session.context = reached.context ∧
      Advances session.context.types reached.workspace session.workspace

namespace Session.Reachable

variable {session : Session}

theorem after (context : Context) (name : Name) (supply : SymbolSupply) (log : Log)
    (commands : List Command) :
    (Session.after ⟨context, Workspace.ofModule name supply log⟩ commands).Reachable :=
  ⟨context, name, supply, log, commands, rfl, .refl⟩

theorem wellTyped (reachable : session.Reachable) : session.WellTyped := by
  obtain ⟨context, name, supply, log, commands, same, advances⟩ := reachable
  have wellTyped := (Session.WellTyped.ofModule context name supply log).after commands
  rw [same] at advances
  have advanced := wellTyped.advances advances
  rwa [← same] at advanced

/-- The writing of a body leads to such a session again, wherever it is cut off. -/
theorem written {σ : Type} (reachable : session.Reachable) (package : QualName)
    (declaration : Declaration) (body : Scope → Script σ) :
    Session.Reachable ⟨session.context,
      Builder.written ⟨session.context, package⟩ declaration body session.workspace⟩ := by
  obtain ⟨context, name, supply, log, commands, same, advances⟩ := reachable
  refine ⟨context, name, supply, log, commands, same, advances.trans ?_⟩
  let builder : Builder := ⟨session.context, package⟩
  cases started : builder.start declaration session.workspace with
  | error error after =>
      rw [Builder.written_of_start_error body started]
  | ok draft begun =>
      obtain ⟨steps, -⟩ := (builder.start_steps declaration le_rfl).run_ok started
      have performs := (body draft.scope).performs builder draft.scope.owner [] begun
      rw [Builder.written_of_start body started]
      exact (Edits.advances steps).trans (Edits.advances (performs.edits le_rfl))

end Session.Reachable

/-! ### The checks -/

/-- There is what an accessor is asked for: a property, and for a setter one that can be set. -/
def Declaration.Suits (tree : Tree) : Declaration → Prop
  | .function _ => False
  | .getter property => ∃ symbol visibility modality isVar,
      tree.kindOf property = some (.property symbol visibility modality isVar)
  | .setter property => ∃ symbol visibility modality,
      tree.kindOf property = some (.property symbol visibility modality true)

/-- A function is admitted if its types are known, an accessor if it suits its property and the
property has none of its kind. -/
def Declaration.Admitted (types : TypeUniverse) (tree : Tree) (declaration : Declaration) : Prop :=
  match declaration with
  | .function spec => spec.Resolves types
  | .getter property => declaration.Suits tree ∧ tree.childrenTagged property .getter = []
  | .setter property => declaration.Suits tree ∧ tree.childrenTagged property .setter = []

/-- Why a declaration is not admitted, and with which error it fails. -/
inductive Declaration.Barred (types : TypeUniverse) (tree : Tree) : Declaration → TreeError → Prop
  /-- The type of a parameter is not known, the first one of which that can be said. -/
  | parameter {spec : FunctionSpec} {earlier later : List (Name × Ty)} {name : Name} {ty : Ty}
      (place : spec.parameters = earlier ++ (name, ty) :: later)
      (known : ∀ passed ∈ earlier, types.resolve passed.2 = .ok ())
      (unknown : ty.classifier ∉ types.classes) :
      Barred types tree (.function spec) (.unresolved ty.classifier)
  | result {spec : FunctionSpec}
      (known : ∀ parameter ∈ spec.parameters, types.resolve parameter.2 = .ok ())
      (unknown : spec.result.classifier ∉ types.classes) :
      Barred types tree (.function spec) (.unresolved spec.result.classifier)
  | absent {declaration : Declaration} {property : NodeId} {tag : NodeTag}
      (accessor : declaration.accessor? = some (property, tag))
      (beyond : tree.size ≤ property.index) :
      Barred types tree declaration (.violation (.notInTree property))
  | noProperty {declaration : Declaration} {property : NodeId} {tag : NodeTag}
      (accessor : declaration.accessor? = some (property, tag))
      (there : property.index < tree.size) (other : tree.hasTag .property property = false) :
      Barred types tree declaration (.violation (.notProperty property))
  | readOnly {property : NodeId} {symbol : Symbol} {visibility : Visibility} {modality : Modality}
      {name : Name} {ty : Ty}
      (label : tree.labelOf property =
        some ⟨.property symbol visibility modality false, name, ty⟩) :
      Barred types tree (.setter property) (.violation (.readOnlyProperty name))
  /-- The property has accessors of the kind, of which the first one is named. -/
  | equipped {declaration : Declaration} {property existing : NodeId} {tag : NodeTag}
      {others : List NodeId} (accessor : declaration.accessor? = some (property, tag))
      (suits : declaration.Suits tree)
      (has : tree.childrenTagged property tag = existing :: others) :
      Barred types tree declaration (.violation (.accessorExists property tag existing))

variable {tree : Tree} {types : TypeUniverse} {property : NodeId} {tag : NodeTag}

/-- Types one after the other resolve up to the first one that is not known. -/
theorem TypeUniverse.forM_resolve_eq_error_iff {parameters : List (Name × Ty)}
    {error : TreeError} :
    (parameters.forM fun parameter => types.resolve parameter.2) = .error error ↔
      ∃ earlier name ty later, parameters = earlier ++ (name, ty) :: later ∧
        (∀ passed ∈ earlier, types.resolve passed.2 = .ok ()) ∧
          ty.classifier ∉ types.classes ∧ error = .unresolved ty.classifier := by
  have unknown : ∀ ty, types.resolve ty = .error error ↔
      ty.classifier ∉ types.classes ∧ error = .unresolved ty.classifier := fun ty => by
    unfold resolve
    split
    · next known => exact iff_of_false nofun fun both => both.1 known
    · next unknown => simp [unknown, eq_comm]
  rw [forM_eq_error_iff]
  simp only [Prod.exists, unknown]

namespace Builder

/-! ### The property of an accessor -/

theorem propertyAt_of_absent (beyond : tree.size ≤ property.index) :
    propertyAt tree property = .error (.violation (.notInTree property)) := by
  unfold propertyAt Tree.node
  rw [(Tree.node?_eq_none_iff tree property).mpr beyond]

theorem propertyAt_of_other (there : property.index < tree.size)
    (other : tree.hasTag .property property = false) :
    propertyAt tree property = .error (.violation (.notProperty property)) := by
  obtain ⟨node, found⟩ := Tree.node?_eq_some_of_lt there
  rw [Tree.hasTag_eq_of_kindOf (Tree.kindOf_eq found)] at other
  unfold propertyAt
  rw [(Tree.node_eq_ok_iff tree property node).mpr found]
  dsimp only
  split
  · next kind => simp [kind, NodeKind.tag] at other
  · rfl

theorem exists_propertyAt (isProperty : tree.hasTag .property property = true) :
    ∃ facts, propertyAt tree property = .ok facts := by
  obtain ⟨⟨kind, name, ty⟩, found, isTag⟩ := (Tree.hasTag_iff tree .property property).mp isProperty
  cases kind with
  | property symbol visibility modality isVar =>
      exact ⟨⟨symbol, name, ty, isVar⟩, propertyAt_eq_ok_iff.mpr ⟨visibility, modality, found⟩⟩
  | _ => cases isTag

theorem kindOf_of_propertyAt {facts : PropertyFacts}
    (found : propertyAt tree property = .ok facts) : ∃ visibility modality,
      tree.kindOf property = some (.property facts.symbol visibility modality facts.isVar) := by
  obtain ⟨visibility, modality, label⟩ := propertyAt_eq_ok_iff.mp found
  exact ⟨visibility, modality, congrArg (Option.map Label.kind) label⟩

theorem propertyAt_of_kindOf {symbol : Symbol} {visibility : Visibility} {modality : Modality}
    {isVar : Bool} (is : tree.kindOf property = some (.property symbol visibility modality isVar)) :
    ∃ facts, propertyAt tree property = .ok facts ∧ facts.isVar = isVar := by
  obtain ⟨⟨kind, name, ty⟩, label, rfl⟩ := Option.map_eq_some_iff.mp is
  exact ⟨⟨symbol, name, ty, isVar⟩, propertyAt_eq_ok_iff.mpr ⟨visibility, modality, label⟩, rfl⟩

/-- Only an accessor that the property has is in the way of another one of its kind. -/
theorem checkNoAccessor_eq (there : property.index < tree.size) (tag : NodeTag) :
    checkNoAccessor tree property tag = match tree.childrenTagged property tag with
      | [] => .ok ()
      | existing :: _ => .error (.violation (.accessorExists property tag existing)) := by
  obtain ⟨node, found⟩ := Tree.node?_eq_some_of_lt there
  unfold checkNoAccessor Tree.findChild Tree.children Tree.childrenTagged
  rw [(Tree.node_eq_ok_iff tree property node).mpr found, Tree.childrenOf_eq found]
  simp only [Except.map, ← List.head?_filter]
  cases node.children.filter (tree.hasTag tag) <;> rfl

theorem checkGetter_of_property {facts : PropertyFacts}
    (found : propertyAt tree property = .ok facts) :
    checkGetter tree property = (checkNoAccessor tree property .getter).map fun _ => facts := by
  unfold checkGetter
  rw [found]
  cases checkNoAccessor tree property .getter <;> rfl

theorem checkSetter_of_property {facts : PropertyFacts}
    (found : propertyAt tree property = .ok facts) :
    checkSetter tree property =
      if facts.isVar then (checkNoAccessor tree property .setter).map fun _ => facts
      else .error (.violation (.readOnlyProperty facts.name)) := by
  unfold checkSetter
  rw [found]
  cases checkNoAccessor tree property .setter <;> rfl

open Build

variable {builder : Builder} {before : Workspace} {declaration : Declaration} {error : TreeError}

/-! ### Declarations that are admitted -/

/-- A property of a tree whose types are known has a known type. -/
theorem resolve_of_propertyAt (known : tree.Known types) {facts : PropertyFacts}
    (found : propertyAt tree property = .ok facts) : types.resolve facts.ty = .ok () := by
  obtain ⟨visibility, modality, label⟩ := propertyAt_eq_ok_iff.mp found
  exact known property _ label

theorem startGetter_ok (known : before.tree.Known builder.context.types) {facts : PropertyFacts}
    (found : propertyAt before.tree property = .ok facts)
    (free : before.tree.childrenTagged property .getter = []) :
    ∃ draft begun, builder.start (.getter property) before = .ok draft begun := by
  have checked : checkGetter before.tree property = .ok facts := by
    rw [checkGetter_of_property found,
      checkNoAccessor_eq (lt_of_propertyAt found), free]
    rfl
  let name := Name.getterOf facts.name
  let signature : Signature := ⟨builder.qualify name, .getter, [], facts.ty⟩
  let symbol := (before.supply.fresh signature).1
  let node : Node := { kind := .getter symbol facts.symbol, name := name, ty := facts.ty }
  let made : Workspace := { before with
    tree := (before.tree.push node).2, supply := (before.supply.fresh signature).2 }
  refine ⟨⟨⟨before.tree.size⟩, ⟨symbol, []⟩, some property⟩, made, ?_⟩
  refine (bind_ok (tree_apply before)).trans ((bind_ok (ofExcept_ok checked before)).trans ?_)
  exact declare_bind_ok (resolve_of_propertyAt known found) signature (.getter · facts.symbol)
    name _ before

theorem startSetter_ok (known : before.tree.Known builder.context.types) {facts : PropertyFacts}
    (found : propertyAt before.tree property = .ok facts) (isVar : facts.isVar = true)
    (free : before.tree.childrenTagged property .setter = []) :
    ∃ draft begun, builder.start (.setter property) before = .ok draft begun := by
  have there := lt_of_propertyAt found
  have checked : checkSetter before.tree property = .ok facts := by
    rw [checkSetter_of_property found, if_pos isVar, checkNoAccessor_eq there, free]
    rfl
  have unit : builder.context.types.resolve .unit = .ok () :=
    builder.context.types.resolve_builtin (by decide)
  let name := Name.setterOf facts.name
  let signature : Signature := ⟨builder.qualify name, .setter, [facts.ty], .unit⟩
  let symbol := (before.supply.fresh signature).1
  let node : Node := { kind := .setter symbol facts.symbol, name := name, ty := .unit }
  let made : Workspace := { before with
    tree := (before.tree.push node).2, supply := (before.supply.fresh signature).2 }
  have value : ∀ parameter ∈ [(Name.identifier "value", facts.ty)],
      builder.context.types.resolve parameter.2 = .ok () :=
    List.forall_mem_singleton.mpr (resolve_of_propertyAt known found)
  have new : before.tree.size < made.tree.size := Tree.lt_size_push before.tree node
  have alone : made.tree.parentOf ⟨before.tree.size⟩ = none :=
    Tree.parentOf_push_self before.tree node
  obtain ⟨parameters, begun, added⟩ :=
    builder.addParameters_ok (builder.qualify name) 0 new alone value
  refine ⟨⟨⟨before.tree.size⟩, ⟨symbol, parameters⟩, some property⟩, begun, ?_⟩
  refine (bind_ok (tree_apply before)).trans ((bind_ok (ofExcept_ok checked before)).trans ?_)
  refine (declare_bind_ok unit signature (.setter · facts.symbol) name _ before).trans ?_
  exact bind_ok added

/-- **A declaration that is admitted is begun**: all types that are needed are known. -/
theorem start_of_admitted (known : before.tree.Known builder.context.types)
    (admitted : declaration.Admitted builder.context.types before.tree) :
    ∃ draft begun, builder.start declaration before = .ok draft begun := by
  cases declaration with
  | function spec => exact builder.startFunction_ok admitted before
  | getter property =>
      obtain ⟨⟨_, _, _, _, is⟩, free⟩ := admitted
      obtain ⟨facts, found, _⟩ := propertyAt_of_kindOf is
      exact startGetter_ok known found free
  | setter property =>
      obtain ⟨⟨_, _, _, is⟩, free⟩ := admitted
      obtain ⟨facts, found, isVar⟩ := propertyAt_of_kindOf is
      exact startSetter_ok known found isVar free

/-! ### Declarations that are barred -/

theorem start_function_unknown {spec : FunctionSpec}
    (known : ∀ parameter ∈ spec.parameters,
      builder.context.types.resolve parameter.2 = .ok ())
    (unknown : spec.result.classifier ∉ builder.context.types.classes) :
    ∃ after, builder.start (.function spec) before =
      .error (.unresolved spec.result.classifier) after ∧ after.tree = before.tree := by
  have checked : (spec.parameters.forM fun parameter =>
      builder.context.types.resolve parameter.2) = .ok () :=
    (forM_eq_ok_iff _ spec.parameters).mpr known
  let signature : Signature :=
    ⟨builder.qualify spec.name, .function, spec.parameters.map Prod.snd, spec.result⟩
  refine ⟨{ before with supply := (before.supply.fresh signature).2 }, ?_, rfl⟩
  refine (bind_ok (ofExcept_ok checked before)).trans ?_
  refine (bind_ok (newSymbol_apply signature before)).trans (bind_error ?_)
  rw [create, create_apply, TypeUniverse.resolve, if_neg unknown]

/-- **A declaration that is barred is not begun**, and no node is made for it. -/
theorem start_of_barred
    (barred : declaration.Barred builder.context.types before.tree error) :
    ∃ after, builder.start declaration before = .error error after ∧ after.tree = before.tree := by
  cases barred with
  | parameter place known unknown =>
      have refused := TypeUniverse.forM_resolve_eq_error_iff.mpr
        ⟨_, _, _, _, place, known, unknown, rfl⟩
      exact ⟨before, bind_error (ofExcept_error refused before), rfl⟩
  | result known unknown => exact start_function_unknown known unknown
  | absent accessor beyond =>
      have refused := propertyAt_of_absent beyond
      exact ⟨before, builder.start_of_propertyAt_error accessor refused, rfl⟩
  | noProperty accessor there other =>
      have refused := propertyAt_of_other there other
      exact ⟨before, builder.start_of_propertyAt_error accessor refused, rfl⟩
  | @readOnly property symbol visibility modality name ty label =>
      have found : propertyAt before.tree property = .ok ⟨symbol, name, ty, false⟩ :=
        propertyAt_eq_ok_iff.mpr ⟨visibility, modality, label⟩
      refine ⟨before, start_setter_error ?_, rfl⟩
      rw [checkSetter_of_property found]
      rfl
  | @equipped _ property existing _ _ accessor suits has =>
      refine ⟨before, ?_, rfl⟩
      cases declaration with
      | function spec => cases accessor
      | getter owner =>
          cases accessor
          obtain ⟨_, _, _, _, is⟩ := suits
          obtain ⟨facts, found, _⟩ := propertyAt_of_kindOf is
          have there := lt_of_propertyAt found
          refine start_getter_error ?_
          rw [checkGetter_of_property found, checkNoAccessor_eq there, has]
          rfl
      | setter owner =>
          cases accessor
          obtain ⟨_, _, _, is⟩ := suits
          obtain ⟨facts, found, isVar⟩ := propertyAt_of_kindOf is
          have there := lt_of_propertyAt found
          refine start_setter_error ?_
          rw [checkSetter_of_property found, if_pos isVar, checkNoAccessor_eq there, has]
          rfl

/-! ### All declarations -/

/-- An accessor of a property that suits it is admitted unless the property has one of its kind. -/
theorem admitted_or_barred_of_suits (suits : declaration.Suits tree)
    (accessor : declaration.accessor? = some (property, tag)) :
    declaration.Admitted types tree ∨ ∃ error, declaration.Barred types tree error := by
  cases has : tree.childrenTagged property tag with
  | nil =>
      refine .inl ?_
      cases declaration with
      | function spec => cases accessor
      | getter owner =>
          cases accessor
          exact ⟨suits, has⟩
      | setter owner =>
          cases accessor
          exact ⟨suits, has⟩
  | cons existing others => exact .inr ⟨_, .equipped accessor suits has⟩

theorem admitted_or_barred_function (types : TypeUniverse) (tree : Tree) (spec : FunctionSpec) :
    (Declaration.function spec).Admitted types tree ∨
      ∃ error, (Declaration.function spec).Barred types tree error := by
  cases checked : spec.parameters.forM fun parameter => types.resolve parameter.2 with
  | error error =>
      obtain ⟨_, _, _, _, place, known, unknown, rfl⟩ :=
        TypeUniverse.forM_resolve_eq_error_iff.mp checked
      exact .inr ⟨_, .parameter place known unknown⟩
  | ok _ =>
      have known := (forM_eq_ok_iff _ spec.parameters).mp checked
      by_cases result : spec.result.classifier ∈ types.classes
      · exact .inl ⟨(types.resolve_eq_ok_iff spec.result).mpr result, known⟩
      · exact .inr ⟨_, .result known result⟩

theorem admitted_or_barred_accessor
    (accessor : declaration.accessor? = some (property, tag)) :
    declaration.Admitted types tree ∨ ∃ error, declaration.Barred types tree error := by
  by_cases there : property.index < tree.size
  case neg => exact .inr ⟨_, .absent accessor (Nat.le_of_not_lt there)⟩
  cases isProperty : tree.hasTag .property property with
  | false => exact .inr ⟨_, .noProperty accessor there isProperty⟩
  | true =>
      obtain ⟨facts, found⟩ := exists_propertyAt isProperty
      obtain ⟨visibility, modality, is⟩ := kindOf_of_propertyAt found
      cases declaration with
      | function spec => cases accessor
      | getter owner =>
          cases accessor
          exact admitted_or_barred_of_suits ⟨_, _, _, _, is⟩ rfl
      | setter owner =>
          cases accessor
          cases isVar : facts.isVar with
          | false =>
              obtain ⟨visibility, modality, label⟩ := propertyAt_eq_ok_iff.mp found
              rw [isVar] at label
              exact .inr ⟨_, .readOnly label⟩
          | true =>
              rw [isVar] at is
              exact admitted_or_barred_of_suits ⟨_, _, _, is⟩ rfl

/-- **There is no third way.** -/
theorem admitted_or_barred (types : TypeUniverse) (tree : Tree) (declaration : Declaration) :
    declaration.Admitted types tree ∨ ∃ error, declaration.Barred types tree error := by
  cases declaration with
  | function spec => exact admitted_or_barred_function types tree spec
  | getter property => exact admitted_or_barred_accessor rfl
  | setter property => exact admitted_or_barred_accessor rfl

/-! ### The body -/

variable {σ : Type}

theorem declare_of_start_error {after : Workspace} (body : Scope → Script σ)
    (stopped : builder.start declaration before = .error error after) :
    builder.declare declaration body before = (none, .error error, after) := by
  unfold declare declareWith
  rw [stopped]

/-- The host hands something over exactly if the body was begun. -/
theorem isSome_declare_of_start {draft : Draft} {begun : Workspace} (body : Scope → Script σ)
    (started : builder.start declaration before = .ok draft begun) :
    (builder.declare declaration body before).1.isSome = true := by
  unfold declare declareWith
  rw [started]
  dsimp only
  rcases (body draft.scope).run builder draft.scope.owner [] begun with ⟨host, _ | _, _⟩ <;> rfl

/-- **A body that is given up is the end of its declaration**, which fails alike. -/
theorem declare_of_given_up {body : Scope → Script σ} {written : Workspace}
    (givenUp : builder.bodyEnd declaration body before = some (.error error, written)) :
    (builder.declare declaration body before).2 = (.error error, written) := by
  unfold bodyEnd at givenUp
  unfold declare declareWith
  cases started : builder.start declaration before with
  | error _ _ =>
      rw [started] at givenUp
      cases givenUp
  | ok draft begun =>
      rw [started] at givenUp
      have ended := Option.some.inj givenUp
      dsimp only at ended ⊢
      rcases run : (body draft.scope).run builder draft.scope.owner [] begun with
        ⟨host, outcome, last⟩
      rw [run] at ended
      cases ended
      rfl

end Builder

/-- **The checks decide whether a body is begun.** In every session on a module that was empty at
first, wherever the host has got to: the body of a declaration is begun if and only if the
declaration is admitted. If it is barred, it fails as the first check says that is not passed, and
the tree is what it was. A body that was begun and is given up makes the declaration fail with the
very error for which it was given up. -/
theorem body_begun_exact {σ : Type} {session : Session} (reachable : session.Reachable)
    (package : QualName) (declaration : Declaration) (body : Scope → Script σ) :
    let types := session.context.types
    let declared := session.declare package declaration body
    (declared.1.isSome = true ↔ declaration.Admitted types session.tree) ∧
      (∀ error, declaration.Barred types session.tree error →
        declared.1 = none ∧ declared.2.1 = .error error) ∧
      (declared.1 = none → declared.2.2.tree = session.tree ∧
        ∃ error, declared.2.1 = .error error ∧ declaration.Barred types session.tree error) ∧
      ∀ error written, Builder.bodyEnd ⟨session.context, package⟩ declaration body
          session.workspace = some (.error error, written) →
        declared.2.1 = .error error ∧ declared.2.2.workspace = written := by
  intro types declared
  let builder : Builder := ⟨session.context, package⟩
  have begun : declaration.Admitted types session.tree → declared.1.isSome = true := fun admitted =>
    let ⟨_, _, started⟩ := builder.start_of_admitted reachable.wellTyped.known admitted
    Builder.isSome_declare_of_start body started
  have stopped : ∀ error, declaration.Barred types session.tree error →
      declared.1 = none ∧ declared.2.1 = .error error ∧ declared.2.2.tree = session.tree := by
    intro error barred
    obtain ⟨after, failed, same⟩ := builder.start_of_barred barred
    have left := Builder.declare_of_start_error body failed
    exact ⟨congrArg Prod.fst left, congrArg (fun run => run.2.1) left,
      (congrArg (fun run => run.2.2.tree) left).trans same⟩
  refine ⟨⟨fun isSome => ?_, begun⟩, fun error barred => ?_, fun unbegun => ?_,
    fun error written givenUp => ?_⟩
  · rcases Builder.admitted_or_barred types session.tree declaration with admitted | ⟨error, barred⟩
    · exact admitted
    · rw [(stopped error barred).1] at isSome
      cases isSome
  · obtain ⟨none, failed, _⟩ := stopped error barred
    exact ⟨none, failed⟩
  · rcases Builder.admitted_or_barred types session.tree declaration with admitted | ⟨error, barred⟩
    · have isSome := begun admitted
      rw [unbegun] at isSome
      cases isSome
    · obtain ⟨_, failed, same⟩ := stopped error barred
      exact ⟨same, error, failed, barred⟩
  · have left := Builder.declare_of_given_up givenUp
    exact ⟨congrArg Prod.fst left, congrArg Prod.snd left⟩

/-- A session with a property that was given a getter. -/
def Session.withGetter : Session :=
  after ⟨.builtin, Workspace.ofModule (.identifier "app") {} []⟩
    [.perform .root (.property { name := .identifier "p", ty := .int, isVar := true }),
      .declare .root (.getter ⟨1⟩) fun _ => Script.empty]

/-- A second getter is refused before its body is begun, and the first one is named. -/
theorem body_begun_second_getter :
    let declared := Session.withGetter.declare .root (.getter ⟨1⟩) fun _ => Script.empty
    Session.withGetter.Reachable ∧ declared.1 = none ∧
      declared.2.1 = .error (.violation (.accessorExists ⟨1⟩ .getter ⟨2⟩)) ∧
        declared.2.2.tree = Session.withGetter.tree := by
  have reachable : Session.withGetter.Reachable := Session.Reachable.after _ _ _ _ _
  have has : Session.withGetter.tree.childrenTagged ⟨1⟩ .getter = [⟨2⟩] := by decide +kernel
  have suits : (Declaration.getter ⟨1⟩).Suits Session.withGetter.tree :=
    ⟨⟨⟨⟨"p"⟩, .property, [], .int⟩, ⟨1⟩⟩, .publicAccess, .final, true, by decide +kernel⟩
  obtain ⟨_, barred, unbegun, _⟩ :=
    body_begun_exact reachable .root (.getter ⟨1⟩) fun _ => Script.empty
  obtain ⟨none, failed⟩ := barred _ (.equipped rfl suits has)
  exact ⟨reachable, none, failed, (unbegun none).1⟩

end DeclTree
