/-
**The annotations of a node, from all calls of a run.**

`Workspace.marks` lists the marks that a host leaves in a run, first to last: by its own calls on
the tree, by what it has builders do, in the bodies that it writes for declarations, and by
generators. `Act.Annotates` says which acts leave a mark on a node that is there.

* `Act.records`, `Workspace.records_after`: an act, and a run, record their marks and nothing else;
* `Act.annotates_of_mark`: a mark on a node that is there comes from a call that annotates this
  node;
* `annotations_after`: **the annotations of a node are those that were put on it**, in the order in
  which their tags first came, with the arguments that came last.
-/

import DeclTree.Proofs.Generate.Marks

namespace DeclTree

/-! ### The marks of a run -/

/-- The marks that an act leaves. -/
def Act.marks : Act → Workspace → List Mark
  | .annotate id tag arguments, workspace =>
      Mark.ifOk ⟨id, tag, arguments⟩ ((Build.annotate id tag arguments).attempt workspace).1
  | .perform builder operation, workspace =>
      operation.marks ((builder.perform operation).attempt workspace).1
  | .declare builder declaration body, workspace => builder.marks declaration body workspace
  | .generate config context collector, workspace =>
      generateMarks config context collector workspace
  | _, _ => []

/-- The marks that a host leaves in some acts. -/
def Workspace.marks (workspace : Workspace) : List Act → List Mark
  | [] => []
  | act :: rest => act.marks workspace ++ marks (act.apply workspace) rest

/-- An act that annotates a node that is there: a call of the host's that succeeds, on the tree or
on a builder, or one in the body of a declaration, whatever becomes of the declaration. -/
inductive Act.Annotates (before : Workspace) (id : NodeId) : Act → Prop
  | onTree (tag : AnnotationTag) (arguments : List Literal)
      (done : ((Build.annotate id tag arguments).attempt before).1 = .ok ()) :
      Annotates before id (.annotate id tag arguments)
  | byBuilder (builder : Builder) (tag : AnnotationTag) (arguments : List Literal) (answer : NodeId)
      (done : ((builder.perform (.annotate id tag arguments)).attempt before).1 = .ok answer) :
      Annotates before id (.perform builder (.annotate id tag arguments))
  | inBody {σ : Type} (builder : Builder) (declaration : Declaration) (body : Scope → Script σ)
      (tag : AnnotationTag) (arguments : List Literal)
      (within : ⟨id, tag, arguments⟩ ∈ builder.marks declaration body before) :
      Annotates before id (.declare builder declaration body)

variable {workspace : Workspace} {id : NodeId}

/-! ### One act -/

/-- No act takes nodes away. -/
theorem Act.size_le (act : Act) (workspace : Workspace) :
    workspace.tree.size ≤ (act.apply workspace).tree.size := by
  by_cases isDetach : ∃ child, act = .detach child
  · obtain ⟨child, rfl⟩ := isDetach
    rw [detach_apply_eq]
    cases workspace.tree.parentOf child with
    | none => exact le_rfl
    | some parent => exact (Tree.size_unlink _ parent child).ge
  · exact (act.growth workspace fun child same => isDetach ⟨child, same⟩).size_le

/-- **An act records its marks, and nothing else.** -/
theorem Act.records (act : Act) (workspace : Workspace) :
    workspace.tree.Records (act.marks workspace) (act.apply workspace).tree := by
  cases act with
  | create types kind name ty => exact .of_steps (Build.create_silent types kind name ty).attempt
  | append parent child => exact .of_steps (Build.append_silent parent child).attempt
  | detach child =>
      rw [detach_apply_eq]
      cases workspace.tree.parentOf child with
      | none => exact .refl workspace.tree
      | some parent => exact workspace.tree.annotationsAt_unlink parent child
  | annotate id tag arguments => exact Build.annotate_records id tag arguments workspace
  | newSymbol signature => exact .refl workspace.tree
  | perform builder operation => exact builder.perform_records operation workspace
  | declare builder declaration body => exact builder.declare_records declaration body workspace
  | generate config context collector =>
      exact generate_records config context collector workspace

/-- The marks of a generator are on nodes that it makes. -/
theorem size_le_of_mem_generateMarks {config : Config} {context : Context} {collector : Collector}
    (forest : workspace.tree.IsForest) {mark : Mark}
    (marked : mark ∈ generateMarks config context collector workspace) :
    workspace.tree.size ≤ mark.node.index := by
  rw [generateMarks_eq config context collector forest] at marked
  split at marked
  · rcases List.mem_pair.mp marked with rfl | rfl
    · exact le_rfl
    · exact Nat.le_add_right _ 2
  · cases marked

/-- **A mark on a node that is there comes from a call that annotates it.** -/
theorem Act.annotates_of_mark {act : Act} (forest : workspace.tree.IsForest)
    (there : id.index < workspace.tree.size) {tag : AnnotationTag} {arguments : List Literal}
    (marked : ⟨id, tag, arguments⟩ ∈ act.marks workspace) : act.Annotates workspace id := by
  cases act with
  | annotate other tag arguments =>
      obtain ⟨same, _, done⟩ := Mark.mem_ifOk.mp marked
      cases same
      exact .onTree _ _ done
  | perform builder operation =>
      cases operation with
      | annotate other tag arguments =>
          obtain ⟨same, answer, done⟩ := Mark.mem_ifOk.mp marked
          cases same
          exact .byBuilder builder _ _ answer done
      | _ => cases marked
  | declare builder declaration body => exact .inBody builder declaration body tag arguments marked
  | generate config context collector =>
      exact absurd (size_le_of_mem_generateMarks forest marked) (Nat.not_le.mpr there)
  | _ => cases marked

/-! ### A run -/

/-- **So does a run.** -/
theorem Workspace.records_after (acts : List Act) (workspace : Workspace) :
    workspace.tree.Records (workspace.marks acts) (workspace.after acts).tree := by
  induction acts generalizing workspace with
  | nil => exact .refl workspace.tree
  | cons act rest ih => exact (act.records workspace).append (ih (act.apply workspace))

/-- The annotations of a node are what its marks make of none. -/
theorem annotationsAt_after (name : Name) (supply : SymbolSupply) (log : Log) (acts : List Act)
    (id : NodeId) :
    ((Workspace.ofModule name supply log).after acts).tree.annotationsAt id =
      Annotations.empty.record
        (Mark.onNode id ((Workspace.ofModule name supply log).marks acts)) := by
  have bare : (Workspace.ofModule name supply log).tree.annotationsAt id = .empty := by
    unfold Tree.annotationsAt Tree.annotationsOf
    cases found : (Workspace.ofModule name supply log).tree.node? id with
    | none => rfl
    | some node =>
        obtain rfl : id = .root := congrArg NodeId.mk (Nat.lt_one_iff.mp (Tree.lt_of_node? found))
        cases found
        rfl
  rw [Workspace.records_after acts _ id, bare]

/-- Its tags are those of its marks. -/
theorem tags_after (name : Name) (supply : SymbolSupply) (log : Log) (acts : List Act) {node : Node}
    (found : ((Workspace.ofModule name supply log).after acts).tree.node? id = some node) :
    let marks := (Workspace.ofModule name supply log).marks acts
    node.annotations.tags = ((Mark.onNode id marks).map Mark.tag).eraseDups := by
  intro marks
  rw [← Tree.annotationsAt_eq found, annotationsAt_after, Annotations.tags_record]

/-- An act that does not annotate a node leaves its annotations alone. -/
theorem annotationsOf_apply {act : Act} {node : Node} (forest : workspace.tree.IsForest)
    (found : workspace.tree.node? id = some node) (unmarked : ¬ act.Annotates workspace id) :
    (act.apply workspace).tree.annotationsOf id = some node.annotations := by
  have there := Tree.lt_of_node? found
  obtain ⟨later, still⟩ :=
    Tree.node?_eq_some_of_lt (Nat.lt_of_lt_of_le there (act.size_le workspace))
  have elsewhere : ∀ mark ∈ act.marks workspace, mark.node ≠ id := by
    rintro ⟨_, tag, arguments⟩ marked rfl
    exact unmarked (Act.annotates_of_mark forest there marked)
  have recorded := act.records workspace id
  rw [Mark.onNode_eq_nil elsewhere, Annotations.record_nil, Tree.annotationsAt_eq still,
    Tree.annotationsAt_eq found] at recorded
  rw [Tree.annotationsOf, still, Option.map_some, recorded]

/-- **The annotations of a node, after any run.** Its tags are those with which a call put an
annotation on this node, through the tree, a builder, the body of a declaration or a generator, in
the order of the first such calls, and each has the arguments of the last one. Whether a tag is
there is answered accordingly, and the line of the node ends with these tags in this order. An act
that does not itself annotate the node leaves its annotations as they are, whatever else it does. -/
theorem annotations_after (name : Name) (supply : SymbolSupply) (log : Log) (acts : List Act)
    {id : NodeId} {node : Node}
    (found : ((Workspace.ofModule name supply log).after acts).tree.node? id = some node) :
    let start := Workspace.ofModule name supply log
    let before := start.after acts
    let marks := Mark.onNode id (start.marks acts)
    let tags := (marks.map Mark.tag).eraseDups
    (∀ tag, tag ∈ tags ↔ ∃ arguments, ⟨id, tag, arguments⟩ ∈ start.marks acts) ∧
      node.annotations.tags = tags ∧
      (∀ tag, node.annotations.find? tag = Mark.lastArguments tag marks) ∧
      (∀ tag, before.tree.isAnnotated id tag = .ok (decide (tag ∈ tags))) ∧
      before.tree.line id = .ok (node.headline ++ Node.annotationSuffix tags) ∧
      ∀ act : Act, ¬ act.Annotates before id →
        (act.apply before).tree.annotationsOf id = some node.annotations := by
  intro start before marks tags
  have recorded : node.annotations = Annotations.empty.record marks :=
    (Tree.annotationsAt_eq found).symm.trans (annotationsAt_after name supply log acts id)
  have tagged : node.annotations.tags = tags := tags_after name supply log acts found
  have looked : before.tree.node id = .ok node := (Tree.node_eq_ok_iff _ _ _).mpr found
  refine ⟨fun tag => ?_, tagged, fun tag => ?_, fun tag => ?_, ?_, fun act unmarked => ?_⟩
  · rw [List.mem_eraseDups, Mark.mem_map_tag_onNode]
  · rw [recorded, Annotations.find?_record]
  · rw [Tree.isAnnotated, looked, Except.map, Annotations.contains, tagged]
  · rw [Tree.line, looked, Except.map, Node.line, tagged]
  · exact annotationsOf_apply (isForest_after name supply log acts) found unmarked

/-- A property is annotated on the tree, then in the body of a getter that is given up, and again on
the tree after it was attached, when a builder refuses it, and detached. -/
theorem annotations_after_reannotated :
    let builder : Builder := { context := .builtin }
    let start := Workspace.ofModule (.identifier "app") {} []
    let acts : List Act :=
      [.perform builder (.property { name := .identifier "level", ty := .int, isVar := true }),
        .annotate ⟨1⟩ .suspendProp [.int 1],
        .declare builder (.getter ⟨1⟩) fun _ => .build (.annotate ⟨1⟩ .generated []) fun _ =>
          .done () (.error (.unresolved println)),
        .append .root ⟨1⟩, .perform builder (.annotate ⟨1⟩ (.other println) []), .detach ⟨1⟩,
        .annotate ⟨1⟩ .suspendProp [.int 2]]
    let before := start.after acts
    ∃ node, before.tree.node? ⟨1⟩ = some node ∧
      node.annotations.tags = [.suspendProp, .generated] ∧
      node.annotations.find? .suspendProp = some [.int 2] ∧
      before.tree.isAnnotated ⟨1⟩ (.other println) = .ok false ∧
      before.tree.line ⟨1⟩ = .ok (node.headline ++ " @SuspendProp @Generated") ∧
      ((Act.append .root ⟨1⟩).apply before).tree.annotationsOf ⟨1⟩ = some node.annotations := by
  intro builder start acts before
  have there : (⟨1⟩ : NodeId).index < before.tree.size := by decide +kernel
  have marked : Mark.onNode ⟨1⟩ (start.marks acts) =
      [⟨⟨1⟩, .suspendProp, [.int 1]⟩, ⟨⟨1⟩, .generated, []⟩, ⟨⟨1⟩, .suspendProp, [.int 2]⟩] := by
    decide +kernel
  obtain ⟨node, found⟩ := Tree.node?_eq_some_of_lt there
  obtain ⟨-, tags, arguments, asked, line, frame⟩ :=
    annotations_after (.identifier "app") {} [] acts found
  rw [marked] at tags arguments asked line
  exact ⟨node, found, tags, arguments .suspendProp, asked (.other println), line,
    frame (.append .root ⟨1⟩) nofun⟩

end DeclTree
