/-
**The links of a tree.**

A tree stores every link twice: a node knows its parent, and a node lists its children. `parentOf`
and `childrenOf` are the two views of the links of one node, empty where there is no node. Every
change of a tree has one equation for the node at a place (`node?_link`, `node?_unlink`,
`node?_putTag`), and from it one for each view:

* a new node has no links, and all others keep theirs (`parentOf_push`, `childrenOf_push`);
* attaching sets the parent of the child and puts the child behind the other children of its parent
  (`parentOf_link`, `childrenOf_link`);
* detaching takes both away again (`parentOf_unlink`, `childrenOf_unlink`);
* an annotation is no link (`parentOf_putTag`, `childrenOf_putTag`).

What a node is, is said by its `Label`, its kind, name and type. No change touches it
(`labelOf_push`, `labelOf_link`, `labelOf_unlink`, `labelOf_putTag`).
-/

import DeclTree.Tree.Attach
import Mathlib.Tactic.ByContra

namespace DeclTree

/-- What a node is and stays, whatever becomes of its links and annotations. -/
structure Label where
  kind : NodeKind
  name : Name
  ty : Ty

/-- The label of a node. -/
def Node.label (node : Node) : Label := ⟨node.kind, node.name, node.ty⟩

namespace Tree

/-- The label of the node at a place, if there is a node. -/
def labelOf (tree : Tree) (id : NodeId) : Option Label := (tree.node? id).map Node.label

/-- The parent of the node at a place, if there is a node and it is attached. -/
def parentOf (tree : Tree) (id : NodeId) : Option NodeId := (tree.node? id).bind Node.parent

/-- The children of the node at a place, none where there is no node. -/
def childrenOf (tree : Tree) (id : NodeId) : List NodeId :=
  ((tree.node? id).map Node.children).getD []

/-! ### Nodes that are there -/

theorem node?_eq_some_of_lt {tree : Tree} {id : NodeId} (there : id.index < tree.size) :
    ∃ node, tree.node? id = some node := by
  cases found : tree.node? id with
  | some node => exact ⟨node, rfl⟩
  | none => exact absurd ((node?_eq_none_iff tree id).mp found) (by omega)

theorem lt_of_node? {tree : Tree} {id : NodeId} {node : Node} (found : tree.node? id = some node) :
    id.index < tree.size := by
  by_contra outside
  rw [(node?_eq_none_iff tree id).mpr (by omega)] at found
  cases found

theorem lt_of_labelOf {tree : Tree} {id : NodeId} {label : Label}
    (found : tree.labelOf id = some label) : id.index < tree.size := by
  obtain ⟨node, looked, _⟩ := Option.map_eq_some_iff.mp found
  exact lt_of_node? looked

theorem lt_of_parentOf {tree : Tree} {id parent : NodeId}
    (attached : tree.parentOf id = some parent) : id.index < tree.size := by
  obtain ⟨node, found, _⟩ := Option.bind_eq_some_iff.mp attached
  exact lt_of_node? found

theorem parentOf_eq {tree : Tree} {id : NodeId} {node : Node} (found : tree.node? id = some node) :
    tree.parentOf id = node.parent := by
  rw [parentOf, found]
  rfl

theorem childrenOf_eq {tree : Tree} {id : NodeId} {node : Node}
    (found : tree.node? id = some node) : tree.childrenOf id = node.children := by
  rw [childrenOf, found]
  rfl

/-- The two views depend on the node alone. -/
theorem parentOf_congr {tree other : Tree} {id asked : NodeId}
    (same : (tree.node? id).map Node.parent = (other.node? asked).map Node.parent) :
    tree.parentOf id = other.parentOf asked := by
  unfold parentOf
  cases left : tree.node? id <;> cases right : other.node? asked <;>
    rw [left, right] at same <;> simp_all

theorem childrenOf_congr {tree other : Tree} {id asked : NodeId}
    (same : (tree.node? id).map Node.children = (other.node? asked).map Node.children) :
    tree.childrenOf id = other.childrenOf asked := by
  unfold childrenOf
  rw [same]

/-! ### A new node -/

theorem parentOf_push (tree : Tree) (node : Node) (alone : node.parent = none) (id : NodeId) :
    (tree.push node).2.parentOf id = tree.parentOf id := by
  by_cases new : id.index = tree.size
  · have before : tree.node? id = none := (node?_eq_none_iff tree id).mpr (by omega)
    simp [parentOf, node?_push, new, before, alone]
  · simp [parentOf, node?_push, new]

theorem childrenOf_push (tree : Tree) (node : Node) (alone : node.children = []) (id : NodeId) :
    (tree.push node).2.childrenOf id = tree.childrenOf id := by
  by_cases new : id.index = tree.size
  · have before : tree.node? id = none := (node?_eq_none_iff tree id).mpr (by omega)
    simp [childrenOf, node?_push, new, before, alone]
  · simp [childrenOf, node?_push, new]

/-- A new node takes no place that was taken. -/
theorem labelOf_push {tree : Tree} {id : NodeId} (there : id.index < tree.size) (node : Node) :
    (tree.push node).2.labelOf id = tree.labelOf id := by
  rw [labelOf, node?_push, if_neg (by omega), labelOf]

/-- The label of the new node itself. -/
theorem labelOf_push_self (tree : Tree) (node : Node) :
    (tree.push node).2.labelOf ⟨tree.size⟩ = some node.label := by
  rw [labelOf, node?_push, if_pos rfl, Option.map_some]

/-- The nodes after one was made: it, and those that were there. -/
theorem labelOf_push_eq_some {tree : Tree} {id : NodeId} {node : Node} {label : Label}
    (found : (tree.push node).2.labelOf id = some label) :
    tree.labelOf id = some label ∨ id = ⟨tree.size⟩ ∧ label = node.label := by
  have within := lt_of_labelOf found
  rw [size_push] at within
  by_cases old : id.index < tree.size
  · exact .inl ((labelOf_push old node).symm.trans found)
  · obtain rfl : id = ⟨tree.size⟩ := congrArg NodeId.mk (show id.index = tree.size by omega)
    rw [labelOf_push_self] at found
    exact .inr ⟨rfl, (Option.some.inj found).symm⟩

/-! ### An annotation -/

@[simp] theorem size_putTag (tree : Tree) (id : NodeId) (tag : AnnotationTag)
    (arguments : List Literal) : (tree.putTag id tag arguments).size = tree.size :=
  size_update tree id _

theorem node?_putTag (tree : Tree) (id : NodeId) (tag : AnnotationTag) (arguments : List Literal)
    (asked : NodeId) :
    (tree.putTag id tag arguments).node? asked = (tree.node? asked).map fun node =>
      { node with
        annotations := if asked = id then node.annotations.put tag arguments
          else node.annotations } := by
  rw [putTag, node?_update]
  by_cases hit : id = asked
  · subst hit
    simp
  · have other : asked ≠ id := fun same => hit same.symm
    simp [hit, other]

theorem parentOf_putTag (tree : Tree) (id : NodeId) (tag : AnnotationTag)
    (arguments : List Literal) (asked : NodeId) :
    (tree.putTag id tag arguments).parentOf asked = tree.parentOf asked :=
  parentOf_congr (by rw [node?_putTag, Option.map_map]; rfl)

theorem childrenOf_putTag (tree : Tree) (id : NodeId) (tag : AnnotationTag)
    (arguments : List Literal) (asked : NodeId) :
    (tree.putTag id tag arguments).childrenOf asked = tree.childrenOf asked :=
  childrenOf_congr (by rw [node?_putTag, Option.map_map]; rfl)

theorem labelOf_putTag (tree : Tree) (id : NodeId) (tag : AnnotationTag)
    (arguments : List Literal) (asked : NodeId) :
    (tree.putTag id tag arguments).labelOf asked = tree.labelOf asked := by
  rw [labelOf, node?_putTag, Option.map_map]
  rfl

/-! ### Attaching -/

@[simp] theorem size_link (tree : Tree) (parent child : NodeId) :
    (tree.link parent child).size = tree.size := by
  rw [link, size_update, size_update]

/-- Attaching changes the parent of the child and the children of the parent, and nothing else. -/
theorem node?_link (tree : Tree) (parent child id : NodeId) :
    (tree.link parent child).node? id = (tree.node? id).map fun node =>
      { node with
        parent := if id = child then some parent else node.parent
        children := if id = parent then node.children ++ [child] else node.children } := by
  rw [link, node?_update, node?_update]
  cases tree.node? id with
  | none => simp
  | some node =>
      by_cases below : child = id <;> by_cases above : parent = id <;>
        simp [below, above, eq_comm (a := id)]

theorem parentOf_link {tree : Tree} {parent child : NodeId} (there : child.index < tree.size)
    (id : NodeId) :
    (tree.link parent child).parentOf id =
      if id = child then some parent else tree.parentOf id := by
  unfold parentOf
  rw [node?_link]
  by_cases below : id = child
  · subst below
    obtain ⟨node, found⟩ := node?_eq_some_of_lt there
    simp [found]
  · cases tree.node? id <;> simp [below]

theorem childrenOf_link {tree : Tree} {parent child : NodeId} (there : parent.index < tree.size)
    (id : NodeId) :
    (tree.link parent child).childrenOf id =
      if id = parent then tree.childrenOf id ++ [child] else tree.childrenOf id := by
  unfold childrenOf
  rw [node?_link]
  by_cases above : id = parent
  · subst above
    obtain ⟨node, found⟩ := node?_eq_some_of_lt there
    simp [found]
  · cases tree.node? id <;> simp [above]

theorem labelOf_link (tree : Tree) (parent child id : NodeId) :
    (tree.link parent child).labelOf id = tree.labelOf id := by
  rw [labelOf, node?_link, Option.map_map]
  rfl

/-- What may be attached: a node other than the module that is attached to nothing, under a node
that is not below it. -/
theorem checkAttachable_eq_ok_iff (tree : Tree) (parent child : NodeId) :
    tree.checkAttachable parent child = .ok () ↔
      parent.index < tree.size ∧ child.index < tree.size ∧ child ≠ .root ∧
        tree.parentOf child = none ∧ tree.wouldCycle parent child = false := by
  unfold checkAttachable
  cases above : tree.node? parent with
  | none =>
      have outside := (node?_eq_none_iff tree parent).mp above
      simp only [node, above]
      exact ⟨nofun, fun inside => by omega⟩
  | some parentNode =>
      have parentThere := lt_of_node? above
      cases below : tree.node? child with
      | none =>
          have outside := (node?_eq_none_iff tree child).mp below
          simp only [node, above, below]
          exact ⟨nofun, fun inside => by omega⟩
      | some childNode =>
          have childThere := lt_of_node? below
          simp only [node, above, below, parentOf_eq below]
          by_cases root : child = .root
          · simp [root]
          · cases attached : childNode.parent <;> cases cycle : tree.wouldCycle parent child <;>
              simp [root, parentThere, childThere]

/-! ### Detaching -/

@[simp] theorem size_unlink (tree : Tree) (parent child : NodeId) :
    (tree.unlink parent child).size = tree.size := by
  rw [unlink, size_update, size_update]

/-- Detaching changes the parent of the child and the children of the parent, and nothing else. -/
theorem node?_unlink (tree : Tree) (parent child id : NodeId) :
    (tree.unlink parent child).node? id = (tree.node? id).map fun node =>
      { node with
        parent := if id = child then none else node.parent
        children := if id = parent then node.children.filter (· ≠ child) else node.children } := by
  rw [unlink, node?_update, node?_update]
  cases tree.node? id with
  | none => simp
  | some node =>
      by_cases below : child = id <;> by_cases above : parent = id <;>
        simp [below, above, eq_comm (a := id)]

theorem parentOf_unlink (tree : Tree) (parent child id : NodeId) :
    (tree.unlink parent child).parentOf id = if id = child then none else tree.parentOf id := by
  unfold parentOf
  rw [node?_unlink]
  by_cases below : id = child <;> cases tree.node? id <;> simp [below]

theorem childrenOf_unlink (tree : Tree) (parent child id : NodeId) :
    (tree.unlink parent child).childrenOf id =
      if id = parent then (tree.childrenOf id).filter (· ≠ child) else tree.childrenOf id := by
  unfold childrenOf
  rw [node?_unlink]
  by_cases above : id = parent <;> cases tree.node? id <;> simp [above]

theorem labelOf_unlink (tree : Tree) (parent child id : NodeId) :
    (tree.unlink parent child).labelOf id = tree.labelOf id := by
  rw [labelOf, node?_unlink, Option.map_map]
  rfl

/-! ### Kinds of nodes -/

theorem hasTag_iff (tree : Tree) (tag : NodeTag) (id : NodeId) :
    tree.hasTag tag id = true ↔ ∃ label, tree.labelOf id = some label ∧ label.kind.tag = tag := by
  unfold hasTag labelOf
  cases tree.node? id with
  | none => simp
  | some node =>
      show decide (node.tag = tag) = true ↔ ∃ label, some node.label = some label ∧ _
      rw [decide_eq_true_iff]
      refine ⟨fun same => ⟨node.label, rfl, same⟩, ?_⟩
      rintro ⟨_, found, same⟩
      cases found
      exact same

theorem lt_of_hasTag {tree : Tree} {tag : NodeTag} {id : NodeId}
    (has : tree.hasTag tag id = true) : id.index < tree.size := by
  obtain ⟨label, found, _⟩ := (hasTag_iff tree tag id).mp has
  exact lt_of_labelOf found

section Kinds

variable {tree other : Tree} {id : NodeId} {tag : NodeTag}

theorem hasTag_congr (same : tree.labelOf id = other.labelOf id) :
    tree.hasTag tag id = other.hasTag tag id := by
  rw [Bool.eq_iff_iff, hasTag_iff, hasTag_iff, same]

/-- A node is of one kind. -/
theorem hasTag_iff_eq {kind : NodeTag} (tagged : tree.hasTag kind id = true) :
    tree.hasTag tag id = true ↔ tag = kind := by
  obtain ⟨label, found, isKind⟩ := (hasTag_iff tree kind id).mp tagged
  rw [hasTag_iff, found]
  exact ⟨fun ⟨_, same, isTag⟩ => isTag.symm.trans (Option.some.inj same ▸ isKind),
    fun same => ⟨label, rfl, isKind.trans same.symm⟩⟩

/-! ### Children of a kind -/

/-- The children of a kind that a node has. -/
def childrenTagged (tree : Tree) (id : NodeId) (tag : NodeTag) : List NodeId :=
  (tree.childrenOf id).filter (tree.hasTag tag)

theorem childrenTagged_congr (children : tree.childrenOf id = other.childrenOf id)
    (labels : ∀ child ∈ other.childrenOf id, tree.labelOf child = other.labelOf child) :
    tree.childrenTagged id tag = other.childrenTagged id tag := by
  unfold childrenTagged
  rw [children]
  exact List.filter_congr fun child member => hasTag_congr (labels child member)

/-- Attaching a node adds a child of its own kind to its parent. -/
theorem childrenTagged_link {parent child : NodeId} (there : parent.index < tree.size) :
    (tree.link parent child).childrenTagged id tag =
      if id = parent ∧ tree.hasTag tag child = true then tree.childrenTagged id tag ++ [child]
      else tree.childrenTagged id tag := by
  have tags : (tree.link parent child).hasTag tag = tree.hasTag tag :=
    funext fun asked => hasTag_congr (labelOf_link tree parent child asked)
  unfold childrenTagged
  rw [childrenOf_link there, tags]
  by_cases same : id = parent <;> cases has : tree.hasTag tag child <;> simp [same, has]

end Kinds

end Tree

end DeclTree
