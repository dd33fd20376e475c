/-
**What a search for an annotation finds.**

`properties_found` puts together that a search meets every node of a subtree once, whatever stands
between the properties, and that the annotations of a node are those that were put on it in the run.
-/

import DeclTree.Proofs.Host.Annotations
import DeclTree.Proofs.Tree.Properties

namespace DeclTree

/-- **A search finds every property below a node, and nothing else**, in any module that a host has
worked on, from any of its nodes. What is found are the properties of the subtree, at whatever depth
and below whatever nodes, each once and in the order of the children that are stored; each has its
own name, and is said to be annotated exactly if a call put the tag on this very node at some time.
Those that are annotated are found in the same order. -/
theorem properties_found (name : Name) (supply : SymbolSupply) (log : Log) (acts : List Act)
    {id : NodeId} (there : id.index < ((Workspace.ofModule name supply log).after acts).tree.size)
    (tag : AnnotationTag) :
    let start := Workspace.ofModule name supply log
    let tree := (start.after acts).tree
    ∃ (below : Grove) (found : List FoundProperty),
      let order := (Grove.single id below).order
      ((Grove.single id below).StandsIn tree ∧ order.Nodup ∧
        ∀ low, low ∈ order ↔ tree.Above id low) ∧
      tree.properties tag id = .ok found ∧
      found.map FoundProperty.id = order.filter (tree.hasTag .property) ∧
      (∀ entry ∈ found, (tree.node? entry.id).map Node.name = some entry.name ∧
        (entry.annotated = true ↔ ∃ arguments, ⟨entry.id, tag, arguments⟩ ∈ start.marks acts)) ∧
      (FoundProperty.allAnnotated found).Sublist found ∧
      ∀ entry, entry ∈ FoundProperty.allAnnotated found ↔
        entry ∈ found ∧ ∃ arguments, ⟨entry.id, tag, arguments⟩ ∈ start.marks acts := by
  intro start tree
  have forest : tree.IsForest := isForest_after name supply log acts
  obtain ⟨below, stands⟩ := forest.exists_grove there
  let found := (Grove.single id below).order.filterMap (tree.noted? tag)
  have each : ∀ entry ∈ found, (tree.node? entry.id).map Node.name = some entry.name ∧
      (entry.annotated = true ↔ ∃ arguments, ⟨entry.id, tag, arguments⟩ ∈ start.marks acts) := by
    intro entry member
    obtain ⟨low, _, noted⟩ := List.mem_filterMap.mp member
    obtain ⟨node, looked, _, rfl⟩ := Tree.noted?_eq_some_iff.mp noted
    refine ⟨by rw [looked, Option.map_some], ?_⟩
    rw [Annotations.contains_iff, tags_after name supply log acts looked, List.mem_eraseDups,
      Mark.mem_map_tag_onNode]
  refine ⟨below, found, ⟨stands, Grove.nodup_order_single forest stands,
      Grove.mem_order_single_iff forest stands⟩,
    Tree.properties_eq stands (forest.length_order_le stands) tag, tree.map_id_noted tag _, each,
    List.filter_sublist, fun entry => ?_⟩
  rw [FoundProperty.allAnnotated, List.mem_filter]
  exact and_congr_right fun member => (each entry member).2

/-- A property that is annotated stands in the body of the getter of another one, which is not. -/
theorem properties_found_in_getter :
    let builder : Builder := { context := .builtin }
    let acts : List Act :=
      [.perform builder (.property { name := .identifier "outer", ty := .int, isVar := true }),
        .perform builder (.property { name := .identifier "inner", ty := .int, isVar := false }),
        .perform builder (.annotate ⟨2⟩ .suspendProp []),
        .declare builder (.getter ⟨1⟩) fun _ => .pushLast ⟨2⟩, .append .root ⟨1⟩]
    let start := Workspace.ofModule (.identifier "app") {} []
    let tree := (start.after acts).tree
    let found : List FoundProperty :=
      [⟨⟨1⟩, .identifier "outer", false⟩, ⟨⟨2⟩, .identifier "inner", true⟩]
    tree.properties .suspendProp .root = .ok found ∧
      FoundProperty.allAnnotated found = [⟨⟨2⟩, .identifier "inner", true⟩] ∧
      (∃ arguments, ⟨⟨2⟩, .suspendProp, arguments⟩ ∈ start.marks acts) ∧
      ¬ ∃ arguments, ⟨⟨1⟩, .suspendProp, arguments⟩ ∈ start.marks acts := by
  intro builder acts start tree found
  have there : NodeId.root.index < tree.size := by decide +kernel
  have searched : tree.properties .suspendProp .root = .ok found := by decide +kernel
  obtain ⟨_, other, -, same, -, each, -, -⟩ :=
    properties_found (.identifier "app") {} [] acts there .suspendProp
  cases searched.symm.trans same
  obtain ⟨⟨_, outer⟩, ⟨_, inner⟩⟩ :=
    And.imp_right List.forall_mem_singleton.mp (List.forall_mem_cons.mp each)
  exact ⟨searched, by decide, inner.mp rfl, mt outer.mpr Bool.false_ne_true⟩

end DeclTree
