/-
**How a call ends.**

A call is given its operands in a list. `Accepts` are the conditions under which it is made, and
`Calls` is what it then makes of the tree: a node with the operands as children, which is named by
what the name of the callee ends in. If the conditions are not met, `Refuses` says with which error
the call fails; its cases come in the order in which the conditions are looked at, each with what is
known from those before it.

* `checkUnlinked_eq_error_iff`, `forM_checkUnlinked_eq_error_iff`: why a single node is no operand,
  and which one of several is named;
* `call_of_accepts`: the call is made, and the arguments are attached to it one after the other;
* `call_of_refuses`: it fails as its first unmet condition says;
* `accepts_or_refuses`: nothing else can stop it;
* `call_exact`: **the outcome of a call**, in any workspace.
-/

import DeclTree.Proofs.Build.Fresh
import DeclTree.Proofs.Host.FailedOperation
import DeclTree.Proofs.Symbol.LastSegment
import DeclTree.Proofs.Tree.Faults

namespace DeclTree

/-! ### Operands -/

/-- Why a node is no operand, and with which error it is refused. -/
inductive Tree.Withholds (tree : Tree) (id : NodeId) : TreeError → Prop
  | absent (beyond : tree.size ≤ id.index) : Withholds tree id (.violation (.notInTree id))
  | linked (there : id.index < tree.size)
      (taken : id = .root ∨ ∃ parent, tree.parentOf id = some parent) :
      Withholds tree id (.violation (.operandAttached id))

namespace Tree

variable {tree : Tree} {id : NodeId} {error : TreeError}

theorem checkUnlinked_of_withholds (withholds : tree.Withholds id error) :
    Builder.checkUnlinked tree id = .error error := by
  unfold Builder.checkUnlinked Tree.node
  cases withholds with
  | absent beyond => rw [(node?_eq_none_iff tree id).mpr beyond]
  | linked there taken =>
      obtain ⟨node, found⟩ := node?_eq_some_of_lt there
      rw [parentOf_eq found] at taken
      rw [found]
      refine if_pos (taken.symm.imp_left ?_)
      rintro ⟨parent, attached⟩
      rw [attached, Option.isSome_some]

theorem unlinked_or_withholds (tree : Tree) (id : NodeId) :
    tree.Unlinked id ∨ ∃ error, tree.Withholds id error := by
  by_cases there : id.index < tree.size
  · by_cases isRoot : id = .root
    · exact .inr ⟨_, .linked there (.inl isRoot)⟩
    · cases attached : tree.parentOf id with
      | none => exact .inl ⟨there, isRoot, attached⟩
      | some parent => exact .inr ⟨_, .linked there (.inr ⟨parent, attached⟩)⟩
  · exact .inr ⟨_, .absent (Nat.le_of_not_lt there)⟩

/-- **A node is no operand** if it is not there, is the module, or has a parent. -/
theorem checkUnlinked_eq_error_iff :
    Builder.checkUnlinked tree id = .error error ↔ tree.Withholds id error := by
  refine ⟨fun refused => ?_, checkUnlinked_of_withholds⟩
  rcases unlinked_or_withholds tree id with unlinked | ⟨other, withholds⟩
  · cases (checkUnlinked_eq_ok_iff.mpr unlinked).symm.trans refused
  · cases (checkUnlinked_of_withholds withholds).symm.trans refused
    exact withholds

/-- **The first node that is no operand decides** how they are refused. -/
theorem forM_checkUnlinked_eq_error_iff {ids : List NodeId} :
    ids.forM (Builder.checkUnlinked tree) = .error error ↔
      ∃ earlier id later, ids = earlier ++ id :: later ∧
        (∀ passed ∈ earlier, tree.Unlinked passed) ∧ tree.Withholds id error := by
  rw [forM_eq_error_iff]
  simp only [checkUnlinked_eq_ok_iff, checkUnlinked_eq_error_iff]

end Tree

/-! ### Calls -/

/-- A call is attached to nothing and has its arguments as children, in their order. It is named by
the segment that the name of its callee ends in, and has the type that the callee gives. The
arguments know it, and nothing else is changed. -/
structure Tree.Calls (before : Tree) (callee : Symbol) (arguments : List NodeId) (after : Tree) :
    Prop where
  size : after.size = before.size + 1
  call : ∃ segment, callee.name.EndsIn segment ∧
    after.node? ⟨before.size⟩ = some {
      kind := .call callee, name := .identifier segment, ty := callee.result,
      children := arguments, parent := none, annotations := ⟨[]⟩ }
  others : ∀ id : NodeId, id.index < before.size →
    after.node? id = (before.node? id).map fun node =>
      { node with parent := (if id ∈ arguments then some ⟨before.size⟩ else node.parent) }

namespace Builder

/-- A call may be made with these arguments. -/
structure Accepts (builder : Builder) (tree : Tree) (callee : Symbol) (arguments : List NodeId) :
    Prop where
  count : arguments.length = callee.parameters.length
  unlinked : ∀ argument ∈ arguments, tree.Unlinked argument
  known : callee.result.classifier ∈ builder.context.types.classes
  nodup : arguments.Nodup

/-- Why a call is not made, and with which error it fails. -/
inductive Refuses (builder : Builder) (tree : Tree) (callee : Symbol) (arguments : List NodeId) :
    TreeError → Prop
  | count (wrong : arguments.length ≠ callee.parameters.length) :
      Refuses builder tree callee arguments
        (.arity callee.name callee.parameters.length arguments.length)
  /-- An argument is no operand, the first one of which that can be said. -/
  | operand {earlier later : List NodeId} {argument : NodeId} {error : TreeError}
      (count : arguments.length = callee.parameters.length)
      (place : arguments = earlier ++ argument :: later)
      (unlinked : ∀ passed ∈ earlier, tree.Unlinked passed)
      (withholds : tree.Withholds argument error) :
      Refuses builder tree callee arguments error
  | unknown (count : arguments.length = callee.parameters.length)
      (unlinked : ∀ argument ∈ arguments, tree.Unlinked argument)
      (unknown : callee.result.classifier ∉ builder.context.types.classes) :
      Refuses builder tree callee arguments (.unresolved callee.result.classifier)
  /-- An argument stands among those before it, the first one of which that can be said. -/
  | again {earlier later : List NodeId} {argument : NodeId}
      (count : arguments.length = callee.parameters.length)
      (unlinked : ∀ argument ∈ arguments, tree.Unlinked argument)
      (known : callee.result.classifier ∈ builder.context.types.classes)
      (place : arguments = earlier ++ argument :: later) (nodup : earlier.Nodup)
      (member : argument ∈ earlier) :
      Refuses builder tree callee arguments (.violation (.alreadyAttached argument ⟨tree.size⟩))

open Build

variable {builder : Builder} {tree : Tree} {before : Workspace} {callee : Symbol}
variable {arguments : List NodeId} {error : TreeError}

/-- A call whose operands are fit for it and whose type is known is made before it is given them. -/
theorem call_made (count : arguments.length = callee.parameters.length)
    (unlinked : ∀ argument ∈ arguments, before.tree.Unlinked argument)
    (known : callee.result.classifier ∈ builder.context.types.classes) :
    builder.call callee arguments before =
      (appendAll ⟨before.tree.size⟩ arguments >>= fun _ => pure ⟨before.tree.size⟩)
        { before with tree := (before.tree.push (.ofCall callee)).2 } := by
  have passed := Tree.forM_checkUnlinked_eq_ok_iff.mpr unlinked
  have resolves := (TypeUniverse.resolve_eq_ok_iff _ _).mpr known
  exact (builder.call_eq before count passed).trans (bind_ok (create_ok resolves _ _ before))

/-- The node of a new call can be given the operands. -/
theorem gathers_ofCall (unlinked : ∀ argument ∈ arguments, tree.Unlinked argument)
    (nodup : arguments.Nodup) :
    (tree.push (.ofCall callee)).2.Gathers ⟨tree.size⟩ arguments :=
  (Tree.gathers_push_iff (.ofCall callee) rfl).mpr ⟨unlinked, nodup⟩

/-- **A call that may be made is made.** -/
theorem call_of_accepts (accepts : builder.Accepts before.tree callee arguments) :
    builder.call callee arguments before = .ok ⟨before.tree.size⟩ { before with
      tree := (before.tree.push (.ofCall callee)).2.linkAll ⟨before.tree.size⟩ arguments } := by
  let made : Workspace := { before with tree := (before.tree.push (.ofCall callee)).2 }
  have there : before.tree.size < made.tree.size := Tree.lt_size_push before.tree _
  have alone : made.tree.parentOf ⟨before.tree.size⟩ = none := Tree.parentOf_push_self before.tree _
  have attached := (appendAll_eq_ok_iff there alone).mpr
    ⟨gathers_ofCall accepts.unlinked accepts.nodup, rfl⟩
  exact (call_made accepts.count accepts.unlinked accepts.known).trans (bind_ok attached)

/-- **A call that may not be made fails**, with the error of the first condition that is not met. -/
theorem call_of_refuses (refuses : builder.Refuses before.tree callee arguments error) :
    ∃ after, builder.call callee arguments before = .error error after := by
  cases refuses with
  | count wrong =>
      refine ⟨before, ?_⟩
      unfold call Symbol.arity
      rw [if_pos wrong]
      rfl
  | operand count place unlinked withholds =>
      have refused : arguments.forM (checkUnlinked before.tree) = .error error :=
        Tree.forM_checkUnlinked_eq_error_iff.mpr ⟨_, _, _, place, unlinked, withholds⟩
      refine ⟨before, ?_⟩
      unfold call Symbol.arity
      rw [if_neg (not_not_intro count)]
      exact (bind_ok (tree_apply before)).trans (bind_error (ofExcept_error refused before))
  | unknown count unlinked unknown =>
      have passed := Tree.forM_checkUnlinked_eq_ok_iff.mpr unlinked
      refine ⟨before, (builder.call_eq before count passed).trans (bind_error ?_)⟩
      rw [create, create_apply, TypeUniverse.resolve, if_neg unknown]
  | @again earlier later argument count unlinked known place nodup member =>
      have first : (before.tree.push (.ofCall callee)).2.Gathers ⟨before.tree.size⟩ earlier :=
        gathers_ofCall
          (fun passed listed => unlinked passed (place ▸ List.mem_append_left _ listed)) nodup
      have attached : appendAll ⟨before.tree.size⟩ (earlier ++ argument :: later)
          { before with tree := (before.tree.push (.ofCall callee)).2 } = .error _ _ :=
        appendAll_again (Tree.lt_size_push before.tree (.ofCall callee))
          (Tree.parentOf_push_self before.tree (.ofCall callee)) first member
      rw [← place] at attached
      exact ⟨_, (call_made count unlinked known).trans (bind_error attached)⟩

/-- **There is no third way.** -/
theorem accepts_or_refuses (builder : Builder) (tree : Tree) (callee : Symbol)
    (arguments : List NodeId) :
    builder.Accepts tree callee arguments ∨
      ∃ error, builder.Refuses tree callee arguments error := by
  by_cases count : arguments.length = callee.parameters.length
  case neg => exact .inr ⟨_, .count count⟩
  cases checked : arguments.forM (checkUnlinked tree) with
  | error error =>
      obtain ⟨earlier, argument, later, place, unlinked, withholds⟩ :=
        Tree.forM_checkUnlinked_eq_error_iff.mp checked
      exact .inr ⟨error, .operand count place unlinked withholds⟩
  | ok _ =>
      have unlinked := Tree.forM_checkUnlinked_eq_ok_iff.mp checked
      by_cases known : callee.result.classifier ∈ builder.context.types.classes
      case neg => exact .inr ⟨_, .unknown count unlinked known⟩
      by_cases nodup : arguments.Nodup
      · exact .inl ⟨count, unlinked, known, nodup⟩
      · obtain ⟨earlier, argument, later, place, once, member⟩ := Tree.exists_first_again nodup
        exact .inr ⟨_, .again count unlinked known place once member⟩

theorem call_eq_ok_iff {id : NodeId} {after : Workspace} :
    builder.call callee arguments before = .ok id after ↔
      builder.Accepts before.tree callee arguments ∧ id = ⟨before.tree.size⟩ ∧
        after = { before with
          tree := (before.tree.push (.ofCall callee)).2.linkAll ⟨before.tree.size⟩ arguments } := by
  constructor
  · intro done
    rcases accepts_or_refuses builder before.tree callee arguments with accepts | ⟨error, refuses⟩
    · cases (call_of_accepts accepts).symm.trans done
      exact ⟨accepts, rfl, rfl⟩
    · obtain ⟨_, failed⟩ := call_of_refuses refuses
      cases failed.symm.trans done
  · rintro ⟨accepts, rfl, rfl⟩
    exact call_of_accepts accepts

theorem exists_call_error_iff :
    (∃ after, builder.call callee arguments before = .error error after) ↔
      builder.Refuses before.tree callee arguments error := by
  refine ⟨fun ⟨after, failed⟩ => ?_, call_of_refuses⟩
  rcases accepts_or_refuses builder before.tree callee arguments with accepts | ⟨other, refuses⟩
  · cases (call_of_accepts accepts).symm.trans failed
  · obtain ⟨_, refused⟩ := call_of_refuses refuses
    cases refused.symm.trans failed
    exact refuses

end Builder

/-- What a call makes of the tree, node by node. -/
theorem Tree.calls_linkAll {tree : Tree} {callee : Symbol} {arguments : List NodeId}
    (unlinked : ∀ argument ∈ arguments, tree.Unlinked argument) (nodup : arguments.Nodup) :
    tree.Calls callee arguments
      ((tree.push (.ofCall callee)).2.linkAll ⟨tree.size⟩ arguments) := by
  have stranded : tree.Strands callee arguments _ := strands_linkAll unlinked nodup
  have gathers : (tree.push (.ofCall callee)).2.Gathers ⟨tree.size⟩ arguments :=
    Builder.gathers_ofCall unlinked nodup
  refine ⟨stranded.size, ?_, stranded.others⟩
  refine ⟨callee.name.shortName, QualName.endsIn_iff.mpr rfl, ?_⟩
  rw [node?_linkAll, node?_push, if_pos rfl, Option.map_some, if_neg gathers.apart, if_pos rfl]
  rfl

/-- **The outcome of a call.** It is made exactly if the number of its arguments is right, all of
them are operands, its type is known, and no argument is given twice; and then it is the only new
node, is named by what the name of the callee ends in, has the arguments as children, and nothing
but their parent is changed. Otherwise it fails as the first of these conditions says that is not
met. -/
theorem call_exact (builder : Builder) (callee : Symbol) (arguments : List NodeId)
    (workspace : Workspace) :
    let run := (builder.perform (.call callee arguments)).attempt workspace
    (∀ id, run.1 = .ok id ↔
        builder.Accepts workspace.tree callee arguments ∧ id = ⟨workspace.tree.size⟩) ∧
      (∀ error, run.1 = .error error ↔
        builder.Refuses workspace.tree callee arguments error) ∧
      (builder.Accepts workspace.tree callee arguments →
        workspace.tree.Calls callee arguments run.2.tree ∧
          run.2 = { workspace with tree := run.2.tree }) := by
  intro run
  refine ⟨fun id => ?_, fun error => ?_, fun accepts => ?_⟩
  · constructor
    · intro done
      obtain ⟨accepts, made, -⟩ := Builder.call_eq_ok_iff.mp (Build.attempt_eq_ok done)
      exact ⟨accepts, made⟩
    · rintro ⟨accepts, rfl⟩
      exact congrArg Prod.fst (Build.attempt_ok (Builder.call_of_accepts accepts))
  · rw [← Builder.exists_call_error_iff]
    constructor
    · exact fun failed => ⟨_, Build.attempt_eq_error failed⟩
    · rintro ⟨after, failed⟩
      exact congrArg Prod.fst (Build.attempt_error failed)
  · have left : run.2 = _ := congrArg Prod.snd (Build.attempt_ok (Builder.call_of_accepts accepts))
    rw [left]
    exact ⟨Tree.calls_linkAll accepts.unlinked accepts.nodup, rfl⟩

end DeclTree
