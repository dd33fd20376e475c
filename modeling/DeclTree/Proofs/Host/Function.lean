/-
**What a function is when it has been built.**

A function is made in two halves around a script for its body, and while the script runs, it can see
the function, its parameters and the whole tree, build declarations of its own and fail at any of
it. None of this shows in the function: its node, its symbol and its parameters are what was asked
for, in order (`Tree.IsFunction`), and its children are the parameters and one body, which holds
what the script had accepted (`Tree.IsBody`).

* `addParameters_eq_ok`: the parameters are numbered and attached in their order;
* `startFunction_eq_ok`: the function as the script for its body finds it;
* `function_built`: **the function as it is returned**, on every workspace that a host can come to.
-/

import DeclTree.Proofs.Build.Statements
import DeclTree.Proofs.Host.Run

namespace DeclTree

variable {σ : Type}

namespace Tree

/-- The value parameter that was asked for, as the one with an index of the declaration of a
name. -/
def IsParameter (tree : Tree) (owner : QualName) (index : Nat) (parameter : Name × Ty)
    (id : NodeId) : Prop :=
  ∃ symbol : Symbol,
    symbol.toSignature = ⟨owner.child parameter.1, .valueParameter, [], parameter.2⟩ ∧
      tree.labelOf id = some ⟨.parameter symbol index, parameter.1, parameter.2⟩

/-- The function that was asked for in a package: its node, its symbol and its parameters, as the
scope of its body has them. -/
structure IsFunction (tree : Tree) (package : QualName) (spec : FunctionSpec) (scope : Scope)
    (id : NodeId) : Prop where
  label : tree.labelOf id =
    some ⟨.function scope.owner spec.visibility spec.modality, spec.name, spec.result⟩
  signature : scope.owner.toSignature =
    ⟨package.child spec.name, .function, spec.parameters.map Prod.snd, spec.result⟩
  count : scope.parameters.length = spec.parameters.length
  parameters : ∀ (place : Nat) (parameter : Name × Ty) (node : NodeId),
    spec.parameters[place]? = some parameter → scope.parameters[place]? = some node →
      tree.IsParameter (package.child spec.name) place parameter node

end Tree

variable {builder : Builder} {before after : Workspace} {id : NodeId}

theorem Grows.isParameter (grows : Grows before after) {owner : QualName} {index : Nat}
    {parameter : Name × Ty} (is : before.tree.IsParameter owner index parameter id) :
    after.tree.IsParameter owner index parameter id := by
  obtain ⟨symbol, signature, label⟩ := is
  exact ⟨symbol, signature, (grows.labelOf (Tree.lt_of_labelOf label)).trans label⟩

/-- A function stays what it is. -/
theorem Grows.isFunction (grows : Grows before after) {package : QualName} {spec : FunctionSpec}
    {scope : Scope} (is : before.tree.IsFunction package spec scope id) :
    after.tree.IsFunction package spec scope id where
  label := (grows.labelOf (Tree.lt_of_labelOf is.label)).trans is.label
  signature := is.signature
  count := is.count
  parameters place parameter node asked given :=
    grows.isParameter (is.parameters place parameter node asked given)

namespace Builder

open Build

/-- **The parameters are made and attached in their order**, numbered from the index given. -/
theorem addParameters_eq_ok {owner : NodeId} {ownerName : QualName}
    {parameters : List (Name × Ty)} {index : Nat} {ids : List NodeId}
    (done : builder.addParameters owner ownerName index parameters before = .ok ids after) :
    after.tree.childrenOf owner = before.tree.childrenOf owner ++ ids ∧
      ids.length = parameters.length ∧
      ∀ (place : Nat) (parameter : Name × Ty) (node : NodeId),
        parameters[place]? = some parameter → ids[place]? = some node →
          after.tree.IsParameter ownerName (index + place) parameter node := by
  induction parameters generalizing index before ids with
  | nil =>
      cases done
      exact ⟨(List.append_nil _).symm, rfl, nofun⟩
  | cons parameter rest ih =>
      obtain ⟨name, ty⟩ := parameter
      obtain ⟨symbol, made, signature, leaves, work⟩ := declare_bind_eq_ok
        (fun symbol => .parameter symbol index) done
      obtain ⟨_, filled, attached, more⟩ := bind_eq_ok work
      obtain ⟨others, last, added, ended⟩ := bind_eq_ok more
      cases ended
      obtain ⟨children, count, each⟩ := ih added
      obtain ⟨attachable, linked⟩ := append_eq_ok attached
      obtain ⟨there, inside, _⟩ := (Tree.checkAttachable_eq_ok_iff _ _ _).mp attachable
      refine ⟨?_, congrArg Nat.succ count, fun place parameter node asked given => ?_⟩
      · rw [children, linked, Tree.childrenOf_link there, if_pos rfl, leaves,
          Tree.childrenOf_push _ _ rfl, List.append_assoc]
        rfl
      cases place with
      | zero =>
          cases asked
          cases given
          refine ⟨symbol, signature, ?_⟩
          -- what is made for the other parameters leaves this one what it is
          rw [← Tree.size_link made.tree owner ⟨before.tree.size⟩, ← linked] at inside
          rw [(addParameters_addsNeutral added).labelOf _ inside, linked, Tree.labelOf_link, leaves]
          exact Tree.labelOf_push_self before.tree _
      | succ place =>
          rw [Nat.add_succ, ← Nat.succ_add]
          exact each place parameter node asked given

/-- **The function that waits for its body**: the first node that was made, with its parameters for
children. -/
theorem startFunction_eq_ok {spec : FunctionSpec} {draft : Draft}
    (started : builder.startFunction spec before = .ok draft after) :
    draft.node = ⟨before.tree.size⟩ ∧
      after.tree.IsFunction builder.package spec draft.scope draft.node ∧
      after.tree.childrenOf draft.node = draft.scope.parameters := by
  obtain ⟨_, _, named⟩ := ofExcept_bind_eq_ok started
  obtain ⟨symbol, made, signature, leaves, work⟩ := declare_bind_eq_ok
    (fun symbol => .function symbol spec.visibility spec.modality) named
  obtain ⟨parameters, _, added, ended⟩ := bind_eq_ok work
  cases ended
  obtain ⟨children, count, each⟩ := addParameters_eq_ok added
  refine ⟨rfl, ?_, ?_⟩
  · exact {
      label := by
        have there : before.tree.size < made.tree.size := by
          rw [leaves, Tree.size_push]
          exact Nat.lt_succ_self _
        refine ((addParameters_addsNeutral added).labelOf ⟨before.tree.size⟩ there).trans ?_
        rw [leaves]
        exact Tree.labelOf_push_self before.tree _
      signature := signature
      count := count
      parameters := fun place parameter node asked given => by
        have is := each place parameter node asked given
        rwa [Nat.zero_add] at is }
  · refine children.trans ?_
    rw [leaves, Tree.childrenOf_push_self, List.nil_append]

end Builder

/-- **A function that was built is the one that was asked for.** On every workspace that a host can
come to, with every builder and whatever script wrote the body: the function is a new node, and with
its symbol and its parameters it is as the specification says. The script was given to know just
that symbol and those parameters. The children of the function are the parameters and a body, and
those of the body are the statements that the script had accepted for this body, in that order; each
of them has the body for its parent, and the returns among them that were made for the body are
returns from the function. -/
theorem function_built {workspace : Workspace} (reachable : workspace.Reachable)
    (builder : Builder) (spec : FunctionSpec) (body : Scope → Script σ) {id : NodeId}
    (built : (builder.declare (.function spec) body workspace).2.1 = .ok id) :
    let after := (builder.declare (.function spec) body workspace).2.2.tree
    ∃ scope entries bodyNode,
      builder.bodyOf (.function spec) body workspace = some (scope, entries) ∧
        id = ⟨workspace.tree.size⟩ ∧
        after.IsFunction builder.package spec scope id ∧
        after.childrenOf id = scope.parameters ++ [bodyNode] ∧
        after.IsBody scope.owner entries bodyNode := by
  intro after
  obtain ⟨draft, begun, entries, bodyNode, started, known, rfl, grows, children, isBody⟩ :=
    Builder.declare_body reachable.isForest built
  obtain ⟨new, isFunction, parameters⟩ := Builder.startFunction_eq_ok started
  refine ⟨draft.scope, entries, bodyNode, known, new, grows.isFunction isFunction, ?_, isBody⟩
  rw [children, parameters]

/-- A function that is built in the body of another one, is pushed there, and is refused when it is
pushed again. The return in the inner body is not among what the outer body accepted. -/
theorem function_built_nested :
    let builder : Builder := { context := .builtin }
    let workspace := Workspace.ofModule (.identifier "app") {} []
    let outer : FunctionSpec :=
      { name := .identifier "outer", result := .int, parameters := [(.identifier "x", .int)] }
    let inner : FunctionSpec := { name := .identifier "inner", result := .int }
    let innerBody : Scope → Script Unit := fun _ => .buildThen (.literal (.int 4)) .returnLast
    let body : Scope → Script Unit := fun _ =>
      .declare (.function inner) innerBody fun _ _ => .push ⟨3⟩ fun _ => .push ⟨3⟩ fun _ =>
        .buildThen (.get ⟨2⟩) .returnLast
    let after := (builder.declare (.function outer) body workspace).2.2.tree
    workspace.Reachable ∧ (builder.declare (.function outer) body workspace).2.1 = .ok ⟨1⟩ ∧
      ∃ scope bodyNode,
        builder.bodyOf (.function outer) body workspace =
            some (scope, [.pushed ⟨3⟩, .returned ⟨8⟩]) ∧
          after.IsFunction .root outer scope ⟨1⟩ ∧
          after.childrenOf ⟨1⟩ = scope.parameters ++ [bodyNode] ∧
          after.IsBody scope.owner [.pushed ⟨3⟩, .returned ⟨8⟩] bodyNode := by
  intro builder workspace outer inner innerBody body after
  have reachable : workspace.Reachable := Workspace.reachable_after _ _ _ []
  have built : (builder.declare (.function outer) body workspace).2.1 = .ok ⟨1⟩ := by
    decide +kernel
  have accepted : (builder.bodyOf (.function outer) body workspace).map Prod.snd =
      some [.pushed ⟨3⟩, .returned ⟨8⟩] := by decide +kernel
  obtain ⟨scope, entries, bodyNode, known, _, isFunction, children, isBody⟩ :=
    function_built reachable builder outer body built
  have same : entries = [.pushed ⟨3⟩, .returned ⟨8⟩] := by
    rw [known] at accepted
    exact Option.some.inj accepted
  rw [same] at known isBody
  exact ⟨reachable, built, scope, bodyNode, known, isFunction, children, isBody⟩

end DeclTree
