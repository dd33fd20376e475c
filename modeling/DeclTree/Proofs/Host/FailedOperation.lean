/-
**What an operation that fails leaves behind.**

An operation checks what it is given before it makes a node, so that where it fails, the tree is
what it was. There is one exception. A call checks its arguments one by one, before any of them is
attached, and so lets an argument pass that occurs again (`Builder.Reuses`); only when the arguments
are attached is it refused. By then there is the call, which nothing refers to, and it holds the
arguments that stand before (`Tree.Strands`).

* `Tree.strands_linkAll`: nodes that are attached under a new call are stranded there, if that is
  where it ends;
* `call_eq_error`, `ret_eq_error`, `perform_eq_error`: calls, returns, and what is no call;
* `operation_failed`: **either the tree is what it was**, or the operation is such a call.
-/

import DeclTree.Proofs.Build.Assembly
import DeclTree.Proofs.Host.Run

namespace DeclTree

/-- The node of a call before it has arguments. -/
def Node.ofCall (callee : Symbol) : Node :=
  { kind := .call callee, name := .identifier callee.name.shortName, ty := callee.result }

/-- A call was made that is attached to nothing. Some nodes became its children, and nothing else
was changed. -/
structure Tree.Strands (before : Tree) (callee : Symbol) (held : List NodeId) (after : Tree) :
    Prop where
  size : after.size = before.size + 1
  label : after.labelOf ⟨before.size⟩ = some (Node.ofCall callee).label
  alone : after.parentOf ⟨before.size⟩ = none
  children : after.childrenOf ⟨before.size⟩ = held
  others : ∀ id : NodeId, id.index < before.size →
    after.node? id = (before.node? id).map fun node =>
      { node with parent := (if id ∈ held then some ⟨before.size⟩ else node.parent) }

/-- The arguments of a call pass all checks, and one of them occurs again. -/
structure Builder.Reuses (builder : Builder) (tree : Tree) (callee : Symbol)
    (arguments : List NodeId) : Prop where
  count : arguments.length = callee.arity
  unlinked : ∀ argument ∈ arguments, tree.Unlinked argument
  known : builder.context.types.resolve callee.result = .ok ()
  repeated : ¬arguments.Nodup

variable {builder : Builder} {before after : Workspace} {error : TreeError}

theorem Tree.strands_linkAll {tree : Tree} {callee : Symbol} {held : List NodeId}
    (unlinked : ∀ id ∈ held, tree.Unlinked id) (nodup : held.Nodup) :
    tree.Strands callee held ((tree.push (.ofCall callee)).2.linkAll ⟨tree.size⟩ held) := by
  let node := Node.ofCall callee
  have gathers : (tree.push node).2.Gathers ⟨tree.size⟩ held :=
    (gathers_push_iff node rfl).mpr ⟨unlinked, nodup⟩
  exact {
    size := by rw [size_linkAll, size_push]
    label := by rw [labelOf_linkAll, labelOf_push_self]
    alone := (parentOf_linkAll_of_not_mem gathers.apart).trans (parentOf_push_self tree node)
    children := by
      have there : (⟨tree.size⟩ : NodeId).index < (tree.push node).2.size := lt_size_push tree node
      have childless : (tree.push node).2.childrenOf ⟨tree.size⟩ = [] :=
        childrenOf_push_self tree _ _ _
      rw [childrenOf_linkAll there, childless, List.nil_append]
    others := fun id there => by
      have other : id ≠ ⟨tree.size⟩ := by
        rintro rfl
        exact Nat.lt_irrefl _ there
      rw [node?_linkAll, node?_push, if_neg (Nat.ne_of_lt there)]
      exact congrArg (Option.map · _) (funext fun _ => by rw [if_neg other]) }

namespace Builder

open Build

/-! ### Operations that attach nodes -/

/-- The arguments of a new call that cannot be attached. -/
theorem appendAll_call_eq_error {callee : Symbol} {arguments : List NodeId}
    (unlinked : ∀ argument ∈ arguments, before.tree.Unlinked argument)
    (failed : appendAll ⟨before.tree.size⟩ arguments
      { before with tree := (before.tree.push (.ofCall callee)).2 } = .error error after) :
    ∃ first again rest, arguments = first ++ again :: rest ∧ first.Nodup ∧ again ∈ first ∧
      error = .violation (.alreadyAttached again ⟨before.tree.size⟩) ∧
        before.tree.Strands callee first after.tree := by
  let node := Node.ofCall callee
  have apart := fun argument member =>
    (Tree.unlinked_push_iff node rfl).mpr (unlinked argument member)
  obtain ⟨first, again, rest, rfl, once, member, rfl, rfl⟩ := appendAll_eq_error
    (Tree.lt_size_push before.tree node) (Tree.parentOf_push_self before.tree node)
    (fun argument member => (apart argument member).1) (fun member => (apart _ member).2 rfl) failed
  refine ⟨first, again, rest, rfl, once, member, rfl, Tree.strands_linkAll ?_ once⟩
  exact fun argument listed => unlinked argument (List.mem_append_left _ listed)

/-- **A call that fails** has changed nothing, or was given an argument again. -/
theorem call_eq_error {callee : Symbol} {arguments : List NodeId}
    (failed : builder.call callee arguments before = .error error after) :
    (after = before ∧ ¬builder.Reuses before.tree callee arguments) ∨
      builder.Reuses before.tree callee arguments ∧ ∃ first again rest,
        arguments = first ++ again :: rest ∧ first.Nodup ∧ again ∈ first ∧
          error = .violation (.alreadyAttached again ⟨before.tree.size⟩) ∧
            before.tree.Strands callee first after.tree := by
  unfold call at failed
  split at failed
  · next count =>
      cases failed
      exact .inl ⟨rfl, fun reuses => count reuses.count⟩
  · next count =>
      rcases ofExcept_bind_eq_error (tree_bind_eq_error failed) with
        ⟨refused, rfl⟩ | ⟨_, passed, made⟩
      · refine .inl ⟨rfl, fun reuses => ?_⟩
        have passed := Tree.forM_checkUnlinked_eq_ok_iff.mpr reuses.unlinked
        cases passed.symm.trans refused
      have unlinked := Tree.forM_checkUnlinked_eq_ok_iff.mp passed
      cases known : builder.context.types.resolve callee.result with
      | error unknown =>
          have unmade : builder.create (.call callee) (.identifier callee.name.shortName)
              callee.result before = .error unknown before := by
            rw [create, create_apply, known]
          cases (bind_error unmade).symm.trans made
          exact .inl ⟨rfl, fun reuses => nomatch reuses.known.symm.trans known⟩
      | ok _ =>
          rcases bind_eq_error ((bind_ok (create_ok known _ _ before)).symm.trans made) with
            refused | ⟨_, _, _, ended⟩
          · obtain ⟨first, again, rest, rfl, once, member, stranded⟩ :=
              appendAll_call_eq_error unlinked refused
            refine .inr ⟨⟨not_not.mp count, unlinked, known, fun nodup => ?_⟩,
              first, again, rest, rfl, once, member, stranded⟩
            exact (List.disjoint_of_nodup_append nodup) member List.mem_cons_self
          · cases ended

/-- **A return that fails** has changed nothing: a value that may be used at all may be attached to
the new return. -/
theorem ret_eq_error {target : Symbol} {value : NodeId}
    (failed : builder.ret target value before = .error error after) : after = before := by
  rcases ofExcept_bind_eq_error (tree_bind_eq_error failed) with ⟨_, rfl⟩ | ⟨_, passed, made⟩
  · rfl
  let node : Node := { kind := .ret target, name := .special "<return>", ty := .nothing }
  have known : builder.context.types.resolve .nothing = .ok () :=
    builder.context.types.resolve_builtin (by decide)
  have unlinked := (Tree.unlinked_push_iff node rfl).mpr (Tree.checkUnlinked_eq_ok_iff.mp passed)
  have attachable := (Tree.checkAttachable_iff_of_alone (Tree.lt_size_push before.tree node)
    (Tree.parentOf_push_self before.tree node)).mpr unlinked
  have attached := (bind_ok (create_ok known _ _ before)).symm.trans made
  cases (bind_ok (append_ok attachable)).symm.trans attached

/-- **An operation that fails** and is no call has left the tree as it was. -/
theorem perform_eq_error {operation : Operation}
    (failed : builder.perform operation before = .error error after)
    (other : ∀ callee arguments, operation ≠ .call callee arguments) :
    after.tree = before.tree := by
  cases operation with
  | literal value => rw [(create_eq_error failed).2]
  | typeRef ty => rw [(create_eq_error failed).2]
  | call callee arguments => exact absurd rfl (other callee arguments)
  | ret target value => rw [ret_eq_error failed]
  | get parameter =>
      rcases ofExcept_bind_eq_error (tree_bind_eq_error failed) with ⟨_, rfl⟩ | ⟨_, _, made⟩
      · rfl
      · rw [(create_eq_error made).2]
  | property spec =>
      -- the symbol of the property may have been made
      have named := (bind_ok (newSymbol_apply _ before)).symm.trans failed
      rcases bind_eq_error named with unmade | ⟨_, _, _, noted⟩
      · rw [(create_eq_error unmade).2]
      · cases (bind_ok (note_apply _ _ _)).symm.trans noted
  | annotate id tag arguments =>
      rcases bind_eq_error failed with refused | ⟨_, _, _, ended⟩
      · rcases ofExcept_bind_eq_error (tree_bind_eq_error refused) with ⟨_, rfl⟩ | ⟨_, _, put⟩
        · rfl
        · rw [annotate_eq_error put]
      · cases ended

end Builder

/-- **An operation that fails leaves the tree as it was**, unless it is a call that was given an
unlinked node again and had nothing else against it. That call is refused where the node occurs
again for the first time; it stays in the tree, attached to nothing, and what stands before that
place is no longer free to be used. -/
theorem operation_failed (builder : Builder) (operation : Operation) (workspace : Workspace)
    {error : TreeError}
    (failed : ((builder.perform operation).attempt workspace).1 = .error error) :
    let after := ((builder.perform operation).attempt workspace).2.tree
    (after = workspace.tree ∧ ∀ callee arguments, operation = .call callee arguments →
        ¬builder.Reuses workspace.tree callee arguments) ∨
      ∃ callee first again rest, operation = .call callee (first ++ again :: rest) ∧
        builder.Reuses workspace.tree callee (first ++ again :: rest) ∧
          first.Nodup ∧ again ∈ first ∧
            error = .violation (.alreadyAttached again ⟨workspace.tree.size⟩) ∧
              workspace.tree.Strands callee first after := by
  intro after
  have run := Build.attempt_eq_error failed
  by_cases isCall : ∃ callee arguments, operation = .call callee arguments
  · obtain ⟨callee, arguments, rfl⟩ := isCall
    rcases Builder.call_eq_error run with ⟨same, free⟩ | ⟨reuses, first, again, rest, rfl, stranded⟩
    · refine .inl ⟨congrArg Workspace.tree same, ?_⟩
      rintro _ _ ⟨⟩
      exact free
    · exact .inr ⟨callee, first, again, rest, rfl, reuses, stranded⟩
  · refine .inl ⟨Builder.perform_eq_error run fun callee arguments same => ?_, ?_⟩
    · exact isCall ⟨callee, arguments, same⟩
    · exact fun callee arguments same => absurd ⟨callee, arguments, same⟩ isCall

/-- A call of three arguments, the last of which is the first one again, strands the others. -/
theorem operation_failed_call :
    let builder : Builder := { context := .builtin }
    let callee : Symbol := { name := ⟨"g"⟩, kind := .function, parameters := [.int, .int, .int],
                             result := .int, id := ⟨1⟩ }
    let workspace := (Workspace.ofModule (.identifier "app") ⟨2⟩ []).after
      [.perform builder (.literal (.int 4)), .perform builder (.literal (.int 5))]
    let run := (builder.perform (.call callee [⟨1⟩, ⟨2⟩, ⟨1⟩])).attempt workspace
    run.1 = .error (.violation (.alreadyAttached ⟨1⟩ ⟨3⟩)) ∧
      ∃ first, ⟨1⟩ ∈ first ∧ workspace.tree.Strands callee first run.2.tree := by
  intro builder callee workspace run
  have failed : run.1 = .error (.violation (.alreadyAttached ⟨1⟩ ⟨3⟩)) := by decide +kernel
  refine ⟨failed, ?_⟩
  rcases operation_failed builder _ workspace failed with
    ⟨_, free⟩ | ⟨_, first, again, rest, same, _, _, member, refused, stranded⟩
  · refine absurd ⟨by decide, ?_, by decide +kernel, by decide⟩ (free _ _ rfl)
    have first : workspace.tree.Unlinked ⟨1⟩ := Tree.checkUnlinked_eq_ok_iff.mp (by decide +kernel)
    have second : workspace.tree.Unlinked ⟨2⟩ := Tree.checkUnlinked_eq_ok_iff.mp (by decide +kernel)
    simp only [List.forall_mem_cons]
    exact ⟨first, second, first, List.forall_mem_nil _⟩
  · obtain ⟨called, -⟩ := Operation.call.inj same
    obtain ⟨named, -⟩ := Violation.alreadyAttached.inj (TreeError.violation.inj refused)
    rw [← named] at member
    rw [← called] at stranded
    refine ⟨first, member, ?_⟩
    unfold run
    exact stranded

/-- **A failed call can use up its argument.** A literal is given to a call for both arguments. The
call fails, and the literal, which was attached to nothing, is its child. -/
theorem literal_stranded :
    let builder : Builder := { context := .builtin }
    let signature : Signature := ⟨⟨"g"⟩, .function, [.int, .int], .int⟩
    let workspace := (Workspace.ofModule (.identifier "app") {} []).after
      [.newSymbol signature, .perform builder (.literal (.int 4))]
    let run := (builder.perform (.call { signature with id := ⟨1⟩ } [⟨1⟩, ⟨1⟩])).attempt workspace
    workspace.Reachable ∧ run.1 = .error (.violation (.alreadyAttached ⟨1⟩ ⟨2⟩)) ∧
      workspace.tree.parentOf ⟨1⟩ = none ∧ run.2.tree.parentOf ⟨1⟩ = some ⟨2⟩ :=
  ⟨Workspace.reachable_after _ _ _ _, by decide +kernel, by decide +kernel, by decide +kernel⟩

end DeclTree
