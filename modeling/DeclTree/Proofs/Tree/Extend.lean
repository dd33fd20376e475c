/-
**A tree with some nodes more.**

`Tree.extend` puts a list of nodes behind those of a tree, so that a tree under construction is an
old tree and a list of what is new. Old places have the nodes that they had (`node?_extend_old`),
the new ones those of the list (`node?_extend_new`), and work on new nodes is work on the list
(`push_extend`, `link_extend`, `putTag_extend`). A new node without parent may be attached under
another one (`checkAttachable_extend`), or under the module (`checkAttachable_root`).
-/

import DeclTree.Proofs.Tree.Forest

namespace DeclTree.Tree

/-- The tree with some nodes behind its own. -/
def extend (tree : Tree) (nodes : List Node) : Tree := ⟨tree.nodes ++ nodes.toArray⟩

/-- Nodes with one of them attached under another one. The first of the nodes is at some place, and
the two are counted from there. -/
def linkNodes (nodes : List Node) (first parent child : Nat) : List Node :=
  (nodes.modify child fun node => { node with parent := some ⟨first + parent⟩ }).modify parent
    fun node => { node with children := node.children ++ [⟨first + child⟩] }

variable (tree : Tree) (nodes : List Node)

@[simp] theorem extend_nil : tree.extend [] = tree := by
  unfold extend
  rw [Array.append_empty]

@[simp] theorem size_extend : (tree.extend nodes).size = tree.size + nodes.length := by
  simp [extend, size]

theorem node?_extend_old {tree : Tree} {id : NodeId} (there : id.index < tree.size) :
    (tree.extend nodes).node? id = tree.node? id :=
  Array.getElem?_append_left there

theorem node?_extend_new (place : Nat) :
    (tree.extend nodes).node? ⟨tree.size + place⟩ = nodes[place]? := by
  unfold node? extend size
  rw [Array.getElem?_append_right (Nat.le_add_right _ _), Nat.add_sub_cancel_left,
    List.getElem?_toArray]

theorem node_extend_new {place : Nat} {node : Node} (found : nodes[place]? = some node) :
    (tree.extend nodes).node ⟨tree.size + place⟩ = .ok node :=
  (node_eq_ok_iff _ _ _).mpr ((node?_extend_new tree nodes place).trans found)

theorem hasTag_extend_new {tag : NodeTag} {place : Nat} (node : Node)
    (found : nodes[place]? = some node) :
    (tree.extend nodes).hasTag tag ⟨tree.size + place⟩ = decide (node.tag = tag) := by
  unfold hasTag
  rw [node?_extend_new, found]
  rfl

theorem push_extend (node : Node) :
    ((tree.extend nodes).push node).2 = tree.extend (nodes ++ [node]) := by
  simp [push, extend]

/-- Trees with the same nodes at all places are the same. -/
theorem ext_node? {tree other : Tree} (same : ∀ id, tree.node? id = other.node? id) :
    tree = other := by
  cases tree
  cases other
  congr 1
  exact Array.ext_getElem? fun {index} => same ⟨index⟩

/-- Every place is an old one or a new one. -/
theorem old_or_new (tree : Tree) (id : NodeId) :
    id.index < tree.size ∨ ∃ place, id = ⟨tree.size + place⟩ := by
  by_cases old : id.index < tree.size
  · exact .inl old
  · exact .inr ⟨id.index - tree.size, congrArg NodeId.mk (by omega)⟩

theorem update_extend_new (place : Nat) (change : Node → Node) :
    (tree.extend nodes).update ⟨tree.size + place⟩ change =
      tree.extend (nodes.modify place change) := by
  refine ext_node? fun id => ?_
  rw [node?_update]
  rcases tree.old_or_new id with old | ⟨later, rfl⟩
  · rw [if_neg fun same => by rw [← same] at old; exact absurd old (by simp),
      node?_extend_old _ old, node?_extend_old _ old]
  · rw [node?_extend_new, node?_extend_new, List.getElem?_modify]
    by_cases hit : place = later <;> simp [hit]

theorem update_extend_old {tree : Tree} {id : NodeId} (there : id.index < tree.size)
    (change : Node → Node) :
    (tree.extend nodes).update id change = (tree.update id change).extend nodes := by
  refine ext_node? fun asked => ?_
  rw [node?_update]
  rcases tree.old_or_new asked with old | ⟨later, rfl⟩
  · have kept : asked.index < (tree.update id change).size := by rwa [size_update]
    rw [node?_extend_old _ old, node?_extend_old _ kept, node?_update]
  · have other : id ≠ ⟨tree.size + later⟩ := fun same => by
      rw [same] at there
      exact absurd there (by simp)
    have moved := node?_extend_new (tree.update id change) nodes later
    rw [size_update] at moved
    rw [if_neg other, node?_extend_new, moved]

theorem link_extend (parent child : Nat) :
    (tree.extend nodes).link ⟨tree.size + parent⟩ ⟨tree.size + child⟩ =
      tree.extend (linkNodes nodes tree.size parent child) := by
  unfold link linkNodes
  rw [update_extend_new, update_extend_new]

/-- A new node is attached under the module. -/
theorem link_root_extend {tree : Tree} (there : NodeId.root.index < tree.size) (child : Nat) :
    (tree.extend nodes).link .root ⟨tree.size + child⟩ =
      (tree.update .root fun node =>
          { node with children := node.children ++ [⟨tree.size + child⟩] }).extend
        (nodes.modify child fun node => { node with parent := some .root }) := by
  unfold link
  rw [update_extend_new, update_extend_old _ there]

theorem putTag_extend (place : Nat) (tag : AnnotationTag) (arguments : List Literal) :
    (tree.extend nodes).putTag ⟨tree.size + place⟩ tag arguments =
      tree.extend (nodes.modify place fun node =>
        { node with annotations := node.annotations.put tag arguments }) := by
  unfold putTag
  rw [update_extend_new]

/-! ### What may be attached -/

/-- A node without parent may be attached under another one without parent. -/
theorem checkAttachable_of_alone {tree : Tree} {parent child : NodeId}
    (parentThere : parent.index < tree.size) (childThere : child.index < tree.size)
    (notRoot : child ≠ .root) (other : parent ≠ child) (parentAlone : tree.parentOf parent = none)
    (childAlone : tree.parentOf child = none) : tree.checkAttachable parent child = .ok () :=
  (checkAttachable_eq_ok_iff tree parent child).mpr
    ⟨parentThere, childThere, notRoot, childAlone,
      wouldCycle_of_alone parentThere parentAlone other⟩

variable {tree nodes}

theorem lt_of_getElem? {place : Nat} {node : Node} (found : nodes[place]? = some node) :
    tree.size + place < (tree.extend nodes).size := by
  rw [size_extend]
  exact Nat.add_lt_add_left (List.getElem?_eq_some_iff.mp found).1 _

theorem parentOf_extend_new {place : Nat} {node : Node} (found : nodes[place]? = some node) :
    (tree.extend nodes).parentOf ⟨tree.size + place⟩ = node.parent :=
  parentOf_eq ((node?_extend_new tree nodes place).trans found)

theorem new_ne_root (there : NodeId.root.index < tree.size) (place : Nat) :
    (⟨tree.size + place⟩ : NodeId) ≠ .root := fun same => by
  have index : tree.size + place = 0 := congrArg NodeId.index same
  exact absurd there (by rw [show tree.size = 0 by omega]; exact Nat.not_lt_zero _)

theorem checkAttachable_extend (there : NodeId.root.index < tree.size) {parent child : Nat}
    {parentNode childNode : Node} (parentFound : nodes[parent]? = some parentNode)
    (childFound : nodes[child]? = some childNode) (other : parent ≠ child)
    (parentAlone : parentNode.parent = none) (childAlone : childNode.parent = none) :
    (tree.extend nodes).checkAttachable ⟨tree.size + parent⟩ ⟨tree.size + child⟩ = .ok () := by
  refine checkAttachable_of_alone (lt_of_getElem? parentFound) (lt_of_getElem? childFound)
    (new_ne_root there child) (fun same => other ?_) ((parentOf_extend_new parentFound).trans
      parentAlone) ((parentOf_extend_new childFound).trans childAlone)
  have index : tree.size + parent = tree.size + child := congrArg NodeId.index same
  omega

theorem checkAttachable_root (there : NodeId.root.index < tree.size)
    (alone : tree.parentOf .root = none) {child : Nat} {childNode : Node}
    (childFound : nodes[child]? = some childNode) (childAlone : childNode.parent = none) :
    (tree.extend nodes).checkAttachable .root ⟨tree.size + child⟩ = .ok () := by
  refine checkAttachable_of_alone (by rw [size_extend]; omega) (lt_of_getElem? childFound)
    (new_ne_root there child) (new_ne_root there child).symm ?_
    ((parentOf_extend_new childFound).trans childAlone)
  unfold parentOf
  rw [node?_extend_old nodes there]
  exact alone

end DeclTree.Tree
