/-
**What becomes of an accessor and its property.**

An accessor is checked, made, given a body by a script, and attached to its property last of all.
The script can see the unfinished accessor and the property, can hand both of them to the builder,
and can build other accessors of the property meanwhile; and it is not the only thing that can fail.
However it ends, the property has the children that it had when the script ended, and one more
exactly if the accessor was built.

* `propertyAt_eq_ok_iff`: what the builder knows of a property is what the node of the property says
  (`Tree.IsProperty`), and it stays so;
* `startAccessor_eq_ok`: the accessor as the script for its body finds it (`Tree.IsGetter`,
  `Tree.IsSetter`);
* `Edits.childrenOf_eq`: work that attaches no accessor leaves the children of old nodes alone;
* `finish_childrenOf`: the last step, and only it, adds to the children of the property;
* `not_mem_written`: the script cannot attach the accessor that it is for;
* `accessor_ends`: **both ends**, on every workspace that a host can come to.
-/

import DeclTree.Proofs.Host.Function

namespace DeclTree

variable {σ : Type}

namespace Tree

/-- A property, with what its node says about it. -/
def IsProperty (tree : Tree) (facts : PropertyFacts) (id : NodeId) : Prop :=
  ∃ visibility modality, tree.labelOf id =
    some ⟨.property facts.symbol visibility modality facts.isVar, facts.name, facts.ty⟩

/-- The getter of a property in a package, as the scope of its body has it. -/
structure IsGetter (tree : Tree) (package : QualName) (facts : PropertyFacts) (scope : Scope)
    (id : NodeId) : Prop where
  label : tree.labelOf id = some ⟨.getter scope.owner facts.symbol,
    .special ("<get-" ++ facts.name.text ++ ">"), facts.ty⟩
  signature : scope.owner.toSignature =
    ⟨package.child (.special ("<get-" ++ facts.name.text ++ ">")), .getter, [], facts.ty⟩
  parameters : scope.parameters = []

/-- The setter of a property in a package, as the scope of its body has it. -/
structure IsSetter (tree : Tree) (package : QualName) (facts : PropertyFacts) (scope : Scope)
    (id : NodeId) : Prop where
  isVar : facts.isVar = true
  label : tree.labelOf id = some ⟨.setter scope.owner facts.symbol,
    .special ("<set-" ++ facts.name.text ++ ">"), .unit⟩
  signature : scope.owner.toSignature =
    ⟨package.child (.special ("<set-" ++ facts.name.text ++ ">")), .setter, [facts.ty], .unit⟩
  parameters : ∃ value, scope.parameters = [value] ∧
    tree.IsParameter (package.child (.special ("<set-" ++ facts.name.text ++ ">"))) 0
      (.identifier "value", facts.ty) value

/-- The accessor that was asked for. -/
def IsAccessor (tree : Tree) (package : QualName) (declaration : Declaration)
    (facts : PropertyFacts) (scope : Scope) (id : NodeId) : Prop :=
  match declaration with
  | .function _ => False
  | .getter _ => tree.IsGetter package facts scope id
  | .setter _ => tree.IsSetter package facts scope id

end Tree

variable {builder : Builder} {declaration : Declaration} {property id : NodeId} {tag : NodeTag}
variable {types : TypeUniverse} {old : Nat} {before after workspace : Workspace}

/-- A property stays what it is. -/
theorem Tree.IsProperty.of_grows {facts : PropertyFacts}
    (is : before.tree.IsProperty facts property) (grows : Grows before after) :
    after.tree.IsProperty facts property := by
  obtain ⟨visibility, modality, label⟩ := is
  exact ⟨visibility, modality, (grows.labelOf (Tree.lt_of_labelOf label)).trans label⟩

/-- A node says one thing about a property. -/
theorem Tree.IsProperty.unique {tree : Tree} {facts other : PropertyFacts}
    (is : tree.IsProperty facts property) (also : tree.IsProperty other property) :
    facts = other := by
  obtain ⟨symbol, name, ty, isVar⟩ := facts
  obtain ⟨_, _, _, _⟩ := other
  obtain ⟨_, _, label⟩ := is
  obtain ⟨_, _, same⟩ := also
  cases label.symm.trans same
  rfl

/-- An accessor stays what it is. -/
theorem Grows.isAccessor (grows : Grows before after) {package : QualName} {facts : PropertyFacts}
    {scope : Scope} (is : before.tree.IsAccessor package declaration facts scope id) :
    after.tree.IsAccessor package declaration facts scope id := by
  cases declaration with
  | function spec => exact is
  | getter property =>
      exact ⟨(grows.labelOf (Tree.lt_of_labelOf is.label)).trans is.label, is.signature,
        is.parameters⟩
  | setter property =>
      obtain ⟨value, only, isParameter⟩ := is.parameters
      exact ⟨is.isVar, (grows.labelOf (Tree.lt_of_labelOf is.label)).trans is.label, is.signature,
        value, only, grows.isParameter isParameter⟩

/-- Work that attaches no accessor adds to the children of no old node. -/
theorem Edits.childrenOf_eq (edits : Edits types equipsNothing old before after)
    (new : old ≤ before.tree.size) (there : id.index < old) :
    after.tree.childrenOf id = before.tree.childrenOf id := by
  obtain ⟨added, children, joined⟩ := (Edits.spared edits new).childrenOf id there
  cases added with
  | nil => rw [children, List.append_nil]
  | cons accessor rest =>
      obtain ⟨_, asked, _⟩ := (joined accessor List.mem_cons_self).isAsked
      exact asked.elim

namespace Builder

open Build

/-! ### Properties -/

/-- **What is known of a property is what its node says.** -/
theorem propertyAt_eq_ok_iff {tree : Tree} {facts : PropertyFacts} :
    propertyAt tree property = .ok facts ↔ tree.IsProperty facts property := by
  constructor
  · intro found
    obtain ⟨node, visibility, modality, there, kind, name, ty⟩ := propertyAt_eq_ok found
    refine ⟨visibility, modality, ?_⟩
    rw [Tree.labelOf, there, ← kind, ← name, ← ty]
    rfl
  · rintro ⟨visibility, modality, label⟩
    obtain ⟨node, there, same⟩ := Option.map_eq_some_iff.mp label
    obtain ⟨kind, name, ty⟩ := Label.mk.inj same
    unfold propertyAt
    rw [(Tree.node_eq_ok_iff _ _ _).mpr there]
    dsimp only
    rw [kind, name, ty]

theorem start_getter_error {error : TreeError}
    (refused : checkGetter workspace.tree property = .error error) :
    builder.start (.getter property) workspace = .error error workspace :=
  (bind_ok (tree_apply workspace)).trans (bind_error (ofExcept_error refused workspace))

theorem start_setter_error {error : TreeError}
    (refused : checkSetter workspace.tree property = .error error) :
    builder.start (.setter property) workspace = .error error workspace :=
  (bind_ok (tree_apply workspace)).trans (bind_error (ofExcept_error refused workspace))

/-- What is no property is given no accessor, and nothing is made. -/
theorem start_of_propertyAt_error (builder : Builder) {error : TreeError}
    (accessor : declaration.accessor? = some (property, tag))
    (absent : propertyAt workspace.tree property = .error error) :
    builder.start declaration workspace = .error error workspace := by
  cases declaration with
  | function spec => cases accessor
  | getter owner =>
      cases accessor
      refine start_getter_error ?_
      rw [checkGetter, absent]
      rfl
  | setter owner =>
      cases accessor
      refine start_setter_error ?_
      rw [checkSetter, absent]
      rfl

/-! ### The first half -/

theorem startGetter_eq_ok {draft : Draft}
    (started : builder.startGetter property before = .ok draft after) :
    ∃ facts, propertyAt before.tree property = .ok facts ∧ draft.node = ⟨before.tree.size⟩ ∧
      draft.property = some property ∧
        after.tree.IsGetter builder.package facts draft.scope draft.node ∧
          after.tree.childrenOf draft.node = draft.scope.parameters := by
  obtain ⟨facts, checked, named⟩ := ofExcept_bind_eq_ok (tree_bind_eq_ok started)
  obtain ⟨symbol, made, signature, leaves, ended⟩ := declare_bind_eq_ok
    (fun symbol => .getter symbol facts.symbol) named
  cases ended
  refine ⟨facts, (checkGetter_eq_ok checked).1, rfl, rfl, ⟨?_, signature, rfl⟩, ?_⟩
  · rw [leaves]
    exact Tree.labelOf_push_self before.tree _
  · rw [leaves]
    exact Tree.childrenOf_push_self before.tree _ _ _

theorem startSetter_eq_ok {draft : Draft}
    (started : builder.startSetter property before = .ok draft after) :
    ∃ facts, propertyAt before.tree property = .ok facts ∧ draft.node = ⟨before.tree.size⟩ ∧
      draft.property = some property ∧
        after.tree.IsSetter builder.package facts draft.scope draft.node ∧
          after.tree.childrenOf draft.node = draft.scope.parameters := by
  obtain ⟨facts, checked, named⟩ := ofExcept_bind_eq_ok (tree_bind_eq_ok started)
  obtain ⟨symbol, made, signature, leaves, work⟩ := declare_bind_eq_ok
    (fun symbol => .setter symbol facts.symbol) named
  obtain ⟨parameters, _, added, ended⟩ := bind_eq_ok work
  cases ended
  obtain ⟨found, isVar, _⟩ := checkSetter_eq_ok checked
  obtain ⟨children, count, each⟩ := addParameters_eq_ok added
  obtain ⟨value, rfl⟩ := List.length_eq_one_iff.mp count
  refine ⟨facts, found, rfl, rfl, ⟨isVar, ?_, signature, value, rfl, each 0 _ value rfl rfl⟩, ?_⟩
  · have there : before.tree.size < made.tree.size := by
      rw [leaves, Tree.size_push]
      exact Nat.lt_succ_self _
    refine ((addParameters_addsNeutral added).labelOf ⟨before.tree.size⟩ there).trans ?_
    rw [leaves]
    exact Tree.labelOf_push_self before.tree _
  · refine children.trans ?_
    rw [leaves, Tree.childrenOf_push_self, List.nil_append]

/-- **The accessor that waits for its body**: the first node that was made, with its parameters for
children. -/
theorem startAccessor_eq_ok {draft : Draft}
    (accessor : declaration.accessor? = some (property, tag))
    (started : builder.start declaration before = .ok draft after) :
    ∃ facts, propertyAt before.tree property = .ok facts ∧ draft.node = ⟨before.tree.size⟩ ∧
      draft.property = some property ∧
        after.tree.IsAccessor builder.package declaration facts draft.scope draft.node ∧
          after.tree.childrenOf draft.node = draft.scope.parameters := by
  cases declaration with
  | function spec => cases accessor
  | getter owner =>
      cases accessor
      exact startGetter_eq_ok started
  | setter owner =>
      cases accessor
      exact startSetter_eq_ok started

/-! ### The second half -/

/-- **The property is given the accessor** as its last child. -/
theorem finish_equips {draft : Draft} {statements : List NodeId}
    (done : builder.finish draft statements before = .ok id after)
    (takes : before.tree.Takes old draft.node) (new : old ≤ before.tree.size)
    (of : draft.property = some property) (there : property.index < old) :
    after.tree.childrenOf property = before.tree.childrenOf property ++ [draft.node] := by
  obtain ⟨last, work, ends⟩ := builder.finish_ends draft statements takes new
  rw [attempt_ok done] at ends
  cases ends with
  | function none => cases none.symm.trans of
  | accessor owner same attachable =>
      cases same.symm.trans of
      obtain ⟨inside, _⟩ := (Tree.checkAttachable_eq_ok_iff _ _ _).mp attachable
      rw [Tree.childrenOf_link inside, if_pos rfl, Edits.childrenOf_eq work new there]

/-- **An accessor that cannot be finished leaves the property alone.** -/
theorem finish_spares {draft : Draft} {statements : List NodeId} {error : TreeError}
    (failed : builder.finish draft statements before = .error error after)
    (takes : before.tree.Takes old draft.node) (new : old ≤ before.tree.size)
    (there : property.index < old) :
    after.tree.childrenOf property = before.tree.childrenOf property := by
  obtain ⟨last, work, ends⟩ := builder.finish_ends draft statements takes new
  rw [attempt_error failed] at ends
  cases ends with
  | stopped _ => exact Edits.childrenOf_eq work new there

/-! ### The script in between -/

/-- **The script does not attach the accessor that it is for.** What it adds to the children of the
property was made later. -/
theorem not_mem_written (forest : workspace.tree.IsForest) (declaration : Declaration)
    (body : Scope → Script σ) (there : property.index < workspace.tree.size) :
    ⟨workspace.tree.size⟩ ∉
      (builder.written declaration body workspace).tree.childrenOf property := by
  intro member
  have old : ⟨workspace.tree.size⟩ ∉ workspace.tree.childrenOf property := fun listed =>
    Nat.lt_irrefl _ (forest.child_there listed)
  cases started : builder.start declaration workspace with
  | error error after =>
      rw [written_of_start_error body started] at member
      exact old member
  | ok draft begun =>
      rw [written_of_start body started] at member
      obtain ⟨steps, -⟩ := (builder.start_steps declaration le_rfl).run_ok started
      have inside := Nat.lt_of_lt_of_le there (Edits.size_le steps)
      have performs := (body draft.scope).performs builder draft.scope.owner [] begun
      obtain ⟨added, children, joined⟩ := performs.spared.childrenOf property inside
      rw [children, Edits.childrenOf_eq steps le_rfl there] at member
      rcases List.mem_append.mp member with early | late
      · exact old early
      · exact Nat.not_lt.mpr (joined _ late).new (start_begun started).there

end Builder

/-- **An accessor that is built comes last among the children of its property; one that is not is
none of them.** On every workspace that a host can come to, with every builder and whatever script
wrote the body, a getter or a setter of anything ends in one of two ways.

If it is built, it is the new node that was asked for, with the type and the symbol that the node of
the property has, and named after it; for a setter the property is a variable. The script was given
to know just the symbol of the accessor and its parameters. Its children are its parameters
and a body, and those of the body are the statements that the script had accepted for it, in that
order. The property has the children that it had when the script ended, and after them the accessor.

If it is not built, for whatever reason, the property has just those children. The node that was
made for the accessor, if it came to that, is not among them. -/
theorem accessor_ends {workspace : Workspace} (reachable : workspace.Reachable) (builder : Builder)
    {declaration : Declaration} (body : Scope → Script σ) {property : NodeId} {tag : NodeTag}
    (accessor : declaration.accessor? = some (property, tag)) :
    let written := (builder.written declaration body workspace).tree
    let outcome := (builder.declare declaration body workspace).2.1
    let after := (builder.declare declaration body workspace).2.2.tree
    (∀ id, outcome = .ok id → ∃ facts scope entries bodyNode,
      builder.bodyOf declaration body workspace = some (scope, entries) ∧
        id = ⟨workspace.tree.size⟩ ∧
        after.IsProperty facts property ∧
        after.IsAccessor builder.package declaration facts scope id ∧
        after.childrenOf id = scope.parameters ++ [bodyNode] ∧
        after.IsBody scope.owner entries bodyNode ∧
        after.childrenOf property = written.childrenOf property ++ [id]) ∧
    (∀ error, outcome = .error error →
      after.childrenOf property = written.childrenOf property ∧
        ⟨workspace.tree.size⟩ ∉ after.childrenOf property) := by
  intro written outcome after
  have forest := reachable.isForest
  constructor
  · intro id built
    obtain ⟨draft, begun, entries, bodyNode, started, known, rfl, grows, children, isBody⟩ :=
      Builder.declare_body forest built
    obtain ⟨facts, found, new, of, isAccessor, parameters⟩ :=
      Builder.startAccessor_eq_ok accessor started
    obtain ⟨_, _, statements, again, _, done⟩ := Builder.finish_of_declare_ok built
    cases started.symm.trans again
    refine ⟨facts, draft.scope, entries, bodyNode, known, new, ?_, grows.isAccessor isAccessor,
      children.trans (by rw [parameters]), isBody, ?_⟩
    · exact (Builder.propertyAt_eq_ok_iff.mp found).of_grows
        (Edits.grows (builder.declare_edits declaration body workspace))
    · obtain ⟨stands, size⟩ := Builder.stands_written body started
      have there := Builder.lt_of_propertyAt found
      exact Builder.finish_equips done stands.takes size of there
  · intro error failed
    have ends := Builder.declare_eq_error failed
    cases found : Builder.propertyAt workspace.tree property with
    | error absent =>
        have stopped := builder.start_of_propertyAt_error accessor found
        rcases ends with same | ⟨_, _, started, _⟩
        · obtain ⟨-, unchanged⟩ := EStateM.Result.error.inj (stopped.symm.trans same)
          have unwritten := Builder.written_of_start_error body stopped
          unfold after written
          rw [← unchanged, unwritten]
          exact ⟨rfl, fun listed => Nat.lt_irrefl _ (forest.child_there listed)⟩
        · cases stopped.symm.trans started
    | ok facts =>
        have there := Builder.lt_of_propertyAt found
        have kept : after.childrenOf property = written.childrenOf property := by
          rcases ends with stopped | ⟨draft, begun, started, same | ⟨statements, unfinished⟩⟩
          · have steps := (builder.start_steps declaration le_rfl).run_error stopped
            refine (Edits.childrenOf_eq steps le_rfl there).trans ?_
            unfold written
            rw [Builder.written_of_start_error body stopped]
          · exact congrArg (Tree.childrenOf · property) (congrArg Workspace.tree same)
          · obtain ⟨stands, size⟩ := Builder.stands_written body started
            exact Builder.finish_spares unfinished stands.takes size there
        rw [kept]
        exact ⟨rfl, Builder.not_mem_written forest declaration body there⟩

/-- A setter of an integer, in whose body the getter of the same property is built. The getter comes
first among the children of the property. -/
theorem accessor_ends_setter :
    let builder : Builder := { context := .builtin }
    let property : PropertySpec := { name := .identifier "p", ty := .int, isVar := true }
    let workspace := (Workspace.ofModule (.identifier "app") {} []).after
      [.perform builder (.property property)]
    let getterBody : Scope → Script Unit := fun _ => .buildThen (.literal (.int 4)) .returnLast
    let body : Scope → Script Unit := fun _ =>
      .declare (.getter ⟨1⟩) getterBody fun _ _ => .buildThen (.get ⟨3⟩) .returnLast
    let after := (builder.declare (.setter ⟨1⟩) body workspace).2.2.tree
    let symbol : Symbol :=
      { name := ⟨"p"⟩, kind := .property, parameters := [], result := .int, id := ⟨1⟩ }
    workspace.Reachable ∧ (builder.declare (.setter ⟨1⟩) body workspace).2.1 = .ok ⟨2⟩ ∧
      after.childrenOf ⟨1⟩ = [⟨4⟩, ⟨2⟩] ∧
      ∃ scope bodyNode, after.IsSetter .root ⟨symbol, .identifier "p", .int, true⟩ scope ⟨2⟩ ∧
        after.labelOf ⟨2⟩ =
          some ⟨.setter scope.owner symbol, .special "<set-p>", .unit⟩ ∧
        after.childrenOf ⟨2⟩ = scope.parameters ++ [bodyNode] ∧
        after.IsBody scope.owner [.returned ⟨9⟩] bodyNode := by
  intro builder property workspace getterBody body after symbol
  have reachable : workspace.Reachable := Workspace.reachable_after _ _ _ _
  have built : (builder.declare (.setter ⟨1⟩) body workspace).2.1 = .ok ⟨2⟩ := by decide +kernel
  have accepted : (builder.bodyOf (.setter ⟨1⟩) body workspace).map Prod.snd =
      some [.returned ⟨9⟩] := by decide +kernel
  have others : (builder.written (.setter ⟨1⟩) body workspace).tree.childrenOf ⟨1⟩ = [⟨4⟩] := by
    decide +kernel
  have asked : workspace.tree.IsProperty ⟨symbol, .identifier "p", .int, true⟩ ⟨1⟩ :=
    ⟨.publicAccess, .final, by rfl⟩
  have described : after.IsProperty ⟨symbol, .identifier "p", .int, true⟩ ⟨1⟩ :=
    asked.of_grows (Edits.grows (builder.declare_edits (.setter ⟨1⟩) body workspace))
  obtain ⟨facts, scope, entries, bodyNode, known, _, isProperty, isSetter, children, isBody,
    equipped⟩ := (accessor_ends reachable builder body rfl).1 ⟨2⟩ built
  obtain rfl := isProperty.unique described
  have same : entries = [.returned ⟨9⟩] := by
    rw [known] at accepted
    exact Option.some.inj accepted
  rw [same] at isBody
  rw [others] at equipped
  exact ⟨reachable, built, equipped, scope, bodyNode, isSetter, isSetter.label, children, isBody⟩

end DeclTree
