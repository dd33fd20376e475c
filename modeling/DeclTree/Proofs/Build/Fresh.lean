/-
**Builders at work on fresh nodes.**

What a builder does to a tree with some nodes more (`Tree.extend`) is done to these nodes alone, as
long as the operands are among them: making a node puts one behind them (`create_extend`), and
attaching one under another one changes the two (`append_extend`). Neither can fail on nodes without
parent whose types are known. A declaration is then built in three parts that are followed one by
one (`build_ok`): its start, its body, and its end.
-/

import DeclTree.Build.Script
import DeclTree.Proofs.Build.Steps
import DeclTree.Proofs.Tree.Extend

namespace DeclTree

variable {tree : Tree} {nodes : List Node} {supply : SymbolSupply} {log : Log}
variable {before middle after : Workspace} {builder : Builder}

/-! ### Single operations -/

namespace Build

theorem create_extend {types : TypeUniverse} (kind : NodeKind) (name : Name) {ty : Ty}
    (known : types.resolve ty = .ok ()) :
    create types kind name ty ⟨tree.extend nodes, supply, log⟩ =
      .ok ⟨tree.size + nodes.length⟩
        ⟨tree.extend (nodes ++ [{ kind := kind, name := name, ty := ty }]), supply, log⟩ := by
  rw [create_apply, known]
  dsimp only
  rw [Tree.push_extend, Tree.size_extend]

theorem create_extend_error {types : TypeUniverse} (kind : NodeKind) (name : Name) {ty : Ty}
    (unknown : ty.classifier ∉ types.classes) :
    create types kind name ty before = .error (.unresolved ty.classifier) before := by
  rw [create_apply, TypeUniverse.resolve, if_neg unknown]

theorem append_extend (there : NodeId.root.index < tree.size) (parent child : Nat)
    {parentNode childNode : Node} (parentFound : nodes[parent]? = some parentNode)
    (childFound : nodes[child]? = some childNode) (other : parent ≠ child)
    (parentAlone : parentNode.parent = none) (childAlone : childNode.parent = none) :
    append ⟨tree.size + parent⟩ ⟨tree.size + child⟩ ⟨tree.extend nodes, supply, log⟩ =
      .ok () ⟨tree.extend (Tree.linkNodes nodes tree.size parent child), supply, log⟩ := by
  rw [append_apply,
    Tree.checkAttachable_extend there parentFound childFound other parentAlone childAlone]
  dsimp only
  rw [Tree.link_extend]

end Build

namespace Builder

open Build

theorem checkUnlinked_extend (there : NodeId.root.index < tree.size) {place : Nat} (node : Node)
    (found : nodes[place]? = some node) (alone : node.parent = none) :
    checkUnlinked (tree.extend nodes) ⟨tree.size + place⟩ = .ok () := by
  unfold checkUnlinked
  rw [Tree.node_extend_new tree nodes found]
  dsimp only
  rw [if_neg]
  rw [alone]
  exact fun either => either.elim (by simp) (Tree.new_ne_root there place)

theorem parameterAt_extend (place : Nat) {node : Node} {symbol : Symbol} {index : Nat}
    (found : nodes[place]? = some node) (isParameter : node.kind = .parameter symbol index) :
    parameterAt (tree.extend nodes) ⟨tree.size + place⟩ = .ok (symbol, node) := by
  unfold parameterAt
  rw [Tree.node_extend_new tree nodes found]
  dsimp only
  rw [isParameter]

theorem propertyAt_extend {place : Nat} {node : Node} {symbol : Symbol} {visibility : Visibility}
    {modality : Modality} {isVar : Bool} (found : nodes[place]? = some node)
    (isProperty : node.kind = .property symbol visibility modality isVar) :
    propertyAt (tree.extend nodes) ⟨tree.size + place⟩ =
      .ok ⟨symbol, node.name, node.ty, isVar⟩ := by
  unfold propertyAt
  rw [Tree.node_extend_new tree nodes found]
  dsimp only
  rw [isProperty]

theorem checkNoAccessor_extend {place : Nat} (node : Node) {tag : NodeTag}
    (found : nodes[place]? = some node)
    (others : ∀ child ∈ node.children, (tree.extend nodes).hasTag tag child = false) :
    checkNoAccessor (tree.extend nodes) ⟨tree.size + place⟩ tag = .ok () := by
  have absent : node.children.find? ((tree.extend nodes).hasTag tag) = none :=
    List.find?_eq_none.mpr fun child listed => by simp [others child listed]
  unfold checkNoAccessor Tree.findChild Tree.children
  rw [Tree.node_extend_new tree nodes found]
  simp only [Except.map, absent]

theorem annotate_extend (there : NodeId.root.index < tree.size) (place : Nat) {node : Node}
    (found : nodes[place]? = some node) (alone : node.parent = none) (tag : AnnotationTag)
    (arguments : List Literal) :
    annotate ⟨tree.size + place⟩ tag arguments ⟨tree.extend nodes, supply, log⟩ =
      .ok () ⟨tree.extend (nodes.modify place fun node =>
        { node with annotations := node.annotations.put tag arguments }), supply, log⟩ := by
  have unlinked := checkUnlinked_extend there node found alone
  unfold annotate
  refine (bind_ok (tree_apply _)).trans ((bind_ok (ofExcept_ok unlinked _)).trans ?_)
  rw [annotate_apply, Tree.node_extend_new tree nodes found]
  dsimp only
  rw [Tree.putTag_extend]

/-! ### Operations in parts -/

theorem ret_ok {target : Symbol} {value id : NodeId}
    (unlinked : checkUnlinked before.tree value = .ok ())
    (made : builder.create (.ret target) (.special "<return>") .nothing before = .ok id middle)
    (filled : append id value middle = .ok () after) :
    builder.ret target value before = .ok id after := by
  unfold ret
  refine (bind_ok (tree_apply before)).trans ((bind_ok (ofExcept_ok unlinked before)).trans ?_)
  exact (bind_ok made).trans (bind_ok filled)

theorem get_eq (before : Workspace) {parameter : NodeId} {symbol : Symbol} {node : Node}
    (found : parameterAt before.tree parameter = .ok (symbol, node)) :
    builder.get parameter before = builder.create (.getValue symbol) node.name node.ty before := by
  unfold get
  exact (bind_ok (tree_apply before)).trans (bind_ok (ofExcept_ok found before))

/-- A call with operands that are fit for it comes down to its node and their attachment. -/
theorem call_eq (before : Workspace) {callee : Symbol} {arguments : List NodeId}
    (arity : arguments.length = callee.arity)
    (unlinked : arguments.forM (checkUnlinked before.tree) = .ok ()) :
    builder.call callee arguments before =
      (do
        let id ← builder.create (.call callee) (.identifier callee.name.shortName) callee.result
        appendAll id arguments
        return id) before := by
  unfold call
  rw [if_neg (not_not_intro arity)]
  exact (bind_ok (tree_apply before)).trans (bind_ok (ofExcept_ok unlinked before))

theorem makeBody_ok {statements : List NodeId} {body : NodeId}
    (made : builder.create .body (.special "<body>") .unit before = .ok body middle)
    (filled : appendAll body statements middle = .ok () after) :
    builder.makeBody statements before = .ok body after := by
  unfold makeBody
  exact (bind_ok made).trans (bind_ok filled)

theorem appendAll_single {parent child : NodeId}
    (attached : append parent child before = .ok () after) :
    appendAll parent [child] before = .ok () after := by
  unfold appendAll
  exact bind_ok attached

/-- The end of a function. -/
theorem finish_function {node body : NodeId} {scope : Scope} {statements : List NodeId}
    (made : builder.makeBody statements before = .ok body middle)
    (filled : append node body middle = .ok () after) :
    builder.finish ⟨node, scope, none⟩ statements before =
      .ok node { after with
        log := after.log ++
          [⟨.debug, .declarations, "built function " ++ scope.owner.name.text⟩] } := by
  unfold finish
  exact (bind_ok made).trans (bind_ok filled)

/-- The end of an accessor. -/
theorem finish_accessor {node body property : NodeId} {scope : Scope} {statements : List NodeId}
    {later : Workspace} (made : builder.makeBody statements before = .ok body middle)
    (filled : append node body middle = .ok () later)
    (attached : append property node later = .ok () after) :
    builder.finish ⟨node, scope, some property⟩ statements before = .ok node after := by
  unfold finish
  exact (bind_ok made).trans ((bind_ok filled).trans (bind_ok attached))

/-! ### Declarations -/

/-- A declaration is begun, its body is written, and the two are put together. -/
theorem build_ok {declaration : Declaration} {body : Scope → Script Unit} {draft : Draft}
    {statements : List NodeId} {later : Workspace} {id : NodeId}
    (started : builder.start declaration before = .ok draft middle)
    (written : Script.run builder draft.scope.owner (body draft.scope) [] middle =
      ((), .ok statements, later))
    (finished : builder.finish draft statements later = .ok id after) :
    builder.build declaration body before = .ok id after := by
  unfold build declare declareWith
  rw [started]
  dsimp only
  rw [written]
  dsimp only
  rw [attempt_ok finished]

/-- What stops the body stops the declaration. -/
theorem build_error {declaration : Declaration} {body : Scope → Script Unit} {draft : Draft}
    {error : TreeError} (started : builder.start declaration before = .ok draft middle)
    (stopped : Script.run builder draft.scope.owner (body draft.scope) [] middle =
      ((), .error error, after)) :
    builder.build declaration body before = .error error after := by
  unfold build declare declareWith
  rw [started]
  dsimp only
  rw [stopped]

end Builder

/-! ### Bodies -/

namespace Script

open Build

variable {owner : Symbol} {statements : List NodeId}

theorem run_buildThen_ok {operation : Operation} {next : NodeId → Script Unit} {id : NodeId}
    (done : builder.perform operation before = .ok id after) :
    run builder owner (buildThen operation next) statements before =
      run builder owner (next id) statements after := by
  unfold buildThen
  rw [run, attempt_ok done]

theorem run_buildThen_error {operation : Operation} {next : NodeId → Script Unit}
    {error : TreeError} (failed : builder.perform operation before = .error error after) :
    run builder owner (buildThen operation next) statements before =
      ((), .error error, after) := by
  unfold buildThen
  rw [run, attempt_error failed]
  rfl

theorem run_pushLast {statement : NodeId} {more : List NodeId}
    (added : Builder.addStatement before.tree statements statement = .ok more) :
    run builder owner (pushLast statement) statements before = ((), .ok more, before) := by
  unfold pushLast
  rw [run, added]
  rfl

theorem run_returnLast {value id : NodeId} (done : builder.ret owner value before = .ok id after) :
    run builder owner (returnLast value) statements before =
      ((), .ok (statements ++ [id]), after) := by
  unfold returnLast
  rw [run, done]
  rfl

end Script

end DeclTree
