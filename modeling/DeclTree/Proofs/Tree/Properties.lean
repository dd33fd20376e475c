/-
**A search for properties finds each of them once.**

The search passes over no node, so it notes what there is to note of each node of the subtree, in
the order of the listing (`properties_eq`), and that is every property (`map_id_noted`). As every
node is listed once, so is every property: `IsForest.exists_properties`.
-/

import DeclTree.Proofs.Tree.Walk
import DeclTree.Tree.Properties

namespace DeclTree.Tree

/-- What is noted of a node in search of an annotation: nothing, unless it is a property. -/
def noted? (tree : Tree) (tag : AnnotationTag) (id : NodeId) : Option FoundProperty :=
  match tree.node? id with
  | some node =>
      if node.tag = .property then some ⟨id, node.name, node.annotations.contains tag⟩ else none
  | none => none

variable {tree : Tree}

/-- The handler for the kind of a node notes what there is to note of the node, and wants its
children visited. -/
theorem handler_propertyFinder {id : NodeId} {node : Node} (found : tree.node? id = some node)
    (tag : AnnotationTag) (before : List FoundProperty) :
    (propertyFinder tag).handler node.tag tree id () before =
      (.descend (), before ++ (tree.noted? tag id).toList) := by
  unfold noted?
  rw [found]
  dsimp only
  split
  next isProperty =>
    rw [isProperty]
    show (match tree.node? id with | some _ => _ | none => _) = _
    rw [found]
    rfl
  next isOther =>
    have passing : (propertyFinder tag).handler node.tag =
        fun _ _ _ found => (.descend (), found) := by
      cases kind : node.tag with
      | property => exact absurd kind isOther
      | _ => rfl
    rw [passing]
    exact congrArg (Prod.mk _) (List.append_nil before).symm

/-- **On a grove, what is noted is what there is to note of its nodes**, in their order. -/
theorem visit_propertyFinder {grove : Grove} (stands : grove.StandsIn tree) (tag : AnnotationTag)
    (before : List FoundProperty) :
    tree.visit (propertyFinder tag) grove () before =
      before ++ grove.order.filterMap (tree.noted? tag) := by
  induction grove generalizing before with
  | bare => exact (List.append_nil before).symm
  | plant id below next belowIh nextIh =>
      obtain ⟨there, _, belowStands, nextStands⟩ := stands
      obtain ⟨node, found⟩ := node?_eq_some_of_lt there
      have self : (tree.noted? tag id).toList = [id].filterMap (tree.noted? tag) := by
        cases noted : tree.noted? tag id <;> simp [noted]
      have order : (Grove.plant id below next).order = [id] ++ (below.order ++ next.order) := rfl
      rw [visit, found]
      dsimp only
      rw [handler_propertyFinder found]
      show tree.visit (propertyFinder tag) next ()
        (tree.visit (propertyFinder tag) below () (before ++ (tree.noted? tag id).toList)) = _
      rw [belowIh belowStands, nextIh nextStands, order, List.filterMap_append,
        List.filterMap_append, self]
      simp only [List.append_assoc]

/-- What is noted of a node, if anything is. -/
theorem noted?_eq_some_iff {tag : AnnotationTag} {id : NodeId} {entry : FoundProperty} :
    tree.noted? tag id = some entry ↔ ∃ node, tree.node? id = some node ∧ node.tag = .property ∧
      ⟨id, node.name, node.annotations.contains tag⟩ = entry := by
  unfold noted?
  cases tree.node? id with
  | none => simp
  | some node => by_cases isProperty : node.tag = .property <;> simp [isProperty]

/-- The properties among some nodes are noted, in their order. -/
theorem map_id_noted (tree : Tree) (tag : AnnotationTag) (order : List NodeId) :
    (order.filterMap (tree.noted? tag)).map FoundProperty.id =
      order.filter (tree.hasTag .property) := by
  have each : (fun id => (tree.noted? tag id).map FoundProperty.id) =
      Option.guard (tree.hasTag .property) := by
    funext id
    show (tree.noted? tag id).map FoundProperty.id =
      if tree.hasTag .property id = true then some id else none
    unfold noted? hasTag
    cases tree.node? id with
    | none => rfl
    | some node => by_cases isProperty : node.tag = .property <;> simp [isProperty]
  rw [List.map_filterMap, each, List.filterMap_eq_filter]

/-- **A search notes what there is to note of the nodes of a subtree**, in the order of the
listing. -/
theorem properties_eq {id : NodeId} {below : Grove} (stands : (Grove.single id below).StandsIn tree)
    (bound : (Grove.single id below).order.length ≤ tree.size) (tag : AnnotationTag) :
    tree.properties tag id = .ok ((Grove.single id below).order.filterMap (tree.noted? tag)) := by
  unfold properties
  rw [walk_eq stands bound, visit_propertyFinder stands, List.nil_append]

/-- **A search notes each property of the subtree once**, in the order of the listing. -/
theorem IsForest.exists_properties (forest : tree.IsForest) {id : NodeId}
    (there : id.index < tree.size) (tag : AnnotationTag) :
    ∃ order, tree.preorder id = .ok order ∧ (order.Nodup ∧ ∀ low, low ∈ order ↔ tree.Above id low) ∧
      tree.properties tag id = .ok (order.filterMap (tree.noted? tag)) := by
  obtain ⟨below, stands⟩ := forest.exists_grove there
  have bound := forest.length_order_le stands
  refine ⟨(Grove.single id below).order, preorder_eq stands bound,
    ⟨Grove.nodup_order_single forest stands, Grove.mem_order_single_iff forest stands⟩,
    properties_eq stands bound tag⟩

end DeclTree.Tree
