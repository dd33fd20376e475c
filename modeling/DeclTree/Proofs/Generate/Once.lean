/-
**The generator succeeds once.**

After a run that succeeded the function `main` that it made is a child of the module and is marked
as generated (`Tree.HasMain`). Nothing takes this away but the detachment of that very node: it can
be attached nowhere else while it has a parent, annotations are only added to, and no change touches
what a node is (`HasMain.growth`, `HasMain.unlink`). So `main` is found by whatever run comes later,
and the run ends before it has made anything (`generate_once`).
-/

import DeclTree.Proofs.Generate.Failure

namespace DeclTree

/-- The function `main` of an earlier run is a child of the module. -/
structure Tree.HasMain (tree : Tree) (main : NodeId) : Prop where
  attached : tree.parentOf main = some .root
  marked : ∃ node, tree.node? main = some node ∧ node.isGeneratedMain = true

/-- A node that is marked stays so as long as its tags are among those that it has later. -/
theorem Node.isGeneratedMain_of_tags (node : Node) {later : Node} (kind : later.kind = node.kind)
    (name : later.name = node.name)
    (tags : ∀ tag ∈ node.annotations.tags, tag ∈ later.annotations.tags)
    (isMain : node.isGeneratedMain = true) : later.isGeneratedMain = true := by
  obtain ⟨isFunction, isNamed, isMarked⟩ := node.isGeneratedMain_iff.mp isMain
  refine later.isGeneratedMain_iff.mpr ⟨?_, ?_, tags _ isMarked⟩
  · rw [Node.tag, kind]
    exact isFunction
  · rw [name]
    exact isNamed

/-- No annotation takes a tag away. -/
theorem Annotations.mem_tags_put (annotations : Annotations) (tag : AnnotationTag)
    (arguments : List Literal) :
    ∀ old ∈ annotations.tags, old ∈ (annotations.put tag arguments).tags := by
  intro old member
  rw [tags_put]
  split
  · exact member
  · exact List.mem_append_left _ member

namespace Tree.HasMain

variable {tree : Tree} {main : NodeId}

theorem there (held : tree.HasMain main) : main.index < tree.size :=
  lt_of_parentOf held.attached

/-- The search for an earlier run finds it. -/
theorem isGenerated (held : tree.HasMain main) (forest : tree.IsForest) : tree.IsGenerated := by
  obtain ⟨node, found, isMain⟩ := held.marked
  exact ⟨main, forest.mem_childrenOf_iff.mpr held.attached, node, found,
    node.isGeneratedMain_iff.mp isMain⟩

/-! ### What keeps it -/

theorem push (held : tree.HasMain main) (kind : NodeKind) (name : Name) (ty : Ty) :
    (tree.push { kind := kind, name := name, ty := ty }).2.HasMain main where
  attached := by rw [parentOf_push tree _ rfl, held.attached]
  marked := by
    obtain ⟨node, found, isMain⟩ := held.marked
    refine ⟨node, ?_, isMain⟩
    rw [node?_push, if_neg (Nat.ne_of_lt held.there), found]

theorem putTag (held : tree.HasMain main) (id : NodeId) (tag : AnnotationTag)
    (arguments : List Literal) : (tree.putTag id tag arguments).HasMain main where
  attached := by rw [parentOf_putTag, held.attached]
  marked := by
    obtain ⟨node, found, isMain⟩ := held.marked
    refine ⟨_, by rw [node?_putTag, found, Option.map_some], ?_⟩
    refine node.isGeneratedMain_of_tags rfl rfl (fun old member => ?_) isMain
    dsimp only
    split
    · exact node.annotations.mem_tags_put tag arguments old member
    · exact member

/-- What has a parent cannot be attached elsewhere. -/
theorem link (held : tree.HasMain main) {parent child : NodeId}
    (attachable : tree.checkAttachable parent child = .ok ()) :
    (tree.link parent child).HasMain main where
  attached := by
    obtain ⟨_, childThere, _, alone, _⟩ :=
      (checkAttachable_eq_ok_iff tree parent child).mp attachable
    have other : main ≠ child := fun same => by
      rw [← same, held.attached] at alone
      cases alone
    rw [parentOf_link childThere, if_neg other, held.attached]
  marked := by
    obtain ⟨node, found, isMain⟩ := held.marked
    refine ⟨_, by rw [node?_link, found, Option.map_some], ?_⟩
    exact node.isGeneratedMain_of_tags rfl rfl (fun _ member => member) isMain

theorem unlink (held : tree.HasMain main) {parent child : NodeId} (other : main ≠ child) :
    (tree.unlink parent child).HasMain main where
  attached := by rw [parentOf_unlink, if_neg other, held.attached]
  marked := by
    obtain ⟨node, found, isMain⟩ := held.marked
    refine ⟨_, by rw [node?_unlink, found, Option.map_some], ?_⟩
    exact node.isGeneratedMain_of_tags rfl rfl (fun _ member => member) isMain

/-- **What takes nothing away keeps it.** -/
theorem growth {before after : Workspace} (held : before.tree.HasMain main)
    (growth : Growth before after) : after.tree.HasMain main := by
  cases growth with
  | log _ => exact held
  | symbol _ => exact held
  | make _ kind name ty _ => exact held.push kind name ty
  | attach _ _ attachable => exact held.link attachable
  | annotate id tag arguments _ _ => exact held.putTag id tag arguments

/-- It is there after every run in which it is not detached. -/
theorem after {workspace : Workspace} (held : workspace.tree.HasMain main) {acts : List Act}
    (kept : ∀ act ∈ acts, act ≠ .detach main) : (workspace.after acts).tree.HasMain main := by
  refine Workspace.after_induction (fun workspace => workspace.tree.HasMain main) held
    (fun _ _ growth held => held.growth growth) ?_
  intro before child parent member _ held
  exact held.unlink fun same => kept _ member (congrArg Act.detach same.symm)

end Tree.HasMain

/-! ### Runs after a run that succeeded -/

/-- A run that succeeds leaves its `main`. -/
theorem Template.Ends.hasMain {context : Context} {supply : SymbolSupply} {tree after : Tree}
    (ends : Template.Ends context supply tree (.ok ()) after) : after.HasMain ⟨tree.size⟩ := by
  cases ends with
  | done _ printer _ _ =>
      have found := Tree.node?_extend_new (tree.adopt [⟨tree.size⟩, ⟨tree.size + 2⟩])
        (Template.declarationNodes tree.size supply printer
          (Template.underModule ∘ Template.annotated)) 0
      rw [Tree.size_adopt] at found
      exact ⟨Tree.parentOf_eq found, ⟨_, found, rfl⟩⟩

/-- A run that finds an earlier one ends there and leaves the tree as it is. -/
theorem generate_of_isGenerated (config : Config) (context : Context) (collector : Collector)
    {workspace : Workspace} (forest : workspace.tree.IsForest)
    (again : workspace.tree.IsGenerated) {name : Name}
    (named : workspace.tree.labelOf .root = some ⟨.module, name, .unit⟩) :
    (generate config context collector workspace).1 =
        .error (.violation (.alreadyGenerated name)) ∧
      (generate config context collector workspace).2.2.tree = workspace.tree := by
  have ends := generate_ends config context collector forest
  generalize (generate config context collector workspace).1 = outcome at ends
  generalize (generate config context collector workspace).2.2.tree = after at ends
  cases ends with
  | generated root found _ =>
      obtain ⟨module, also, labelled⟩ := Option.map_eq_some_iff.mp named
      have same : root = module := Option.some.inj (found.symm.trans also)
      have rootName : root.name = name := by
        rw [same]
        exact congrArg Label.name labelled
      exact ⟨by rw [rootName], rfl⟩
  | noPrinter fresh _ => exact absurd again fresh
  | manyPrinters fresh _ => exact absurd again fresh
  | unknownType fresh _ _ _ => exact absurd again fresh
  | done fresh _ _ _ => exact absurd again fresh

/-- **At most one run succeeds.** After a run that succeeded, on any module that a host has worked
on, and after any later acts of which none detaches the `main` of that run, every run is refused and
leaves the tree as it is. So if a later run succeeds, that `main` was detached in between. -/
theorem generate_once (name : Name) (supply : SymbolSupply) (log : Log) (acts : List Act)
    (config : Config) (context : Context) (collector : Collector) (later : List Act)
    (succeeded : (generate config context collector
      ((Workspace.ofModule name supply log).after acts)).1 = .ok ()) :
    let before := (Workspace.ofModule name supply log).after acts
    let now := (generate config context collector before).2.2.after later
    let main : NodeId := ⟨before.tree.size⟩
    ((∀ act ∈ later, act ≠ .detach main) → ∀ config context collector,
      (generate config context collector now).1 =
          .error (.violation (.alreadyGenerated name)) ∧
        (generate config context collector now).2.2.tree = now.tree) ∧
    ∀ config context collector,
      (generate config context collector now).1 = .ok () → .detach main ∈ later := by
  intro before now main
  have reached : now = (Workspace.ofModule name supply log).after
      (acts ++ .generate config context collector :: later) := by
    rw [Workspace.after_append]
    rfl
  have forest : now.tree.IsForest := by
    rw [reached]
    exact Workspace.isForest_of_after (Tree.isForest_ofModule name)
  have named : now.tree.labelOf .root = some ⟨.module, name, .unit⟩ := by
    rw [reached]
    exact labelOf_root_after name supply log _
  have beforeForest : before.tree.IsForest :=
    Workspace.isForest_of_after (Tree.isForest_ofModule name)
  have ends := generate_ends config context collector beforeForest
  rw [succeeded] at ends
  have refused : (∀ act ∈ later, act ≠ .detach main) → ∀ config context collector,
      (generate config context collector now).1 =
          .error (.violation (.alreadyGenerated name)) ∧
        (generate config context collector now).2.2.tree = now.tree := by
    intro kept config context collector
    exact generate_of_isGenerated config context collector forest
      ((ends.hasMain.after kept).isGenerated forest) named
  refine ⟨refused, fun config context collector again => ?_⟩
  by_contra absent
  have blocked := refused (fun act member same => absent (same ▸ member)) config context collector
  rw [blocked.1] at again
  cases again

/-- A run with the standard library, an annotation on its `main`, the detachment of its `test`, and
another run. -/
theorem generate_standard_once :
    let before := (Workspace.ofModule (.identifier "app") {} []).after []
    let first := generate {} (Context.standard {}).1 (.buffered []) before
    let now := first.2.2.after [.annotate ⟨1⟩ .suspendProp [], .detach ⟨3⟩]
    first.1 = .ok () ∧ ∀ config context collector,
      (generate config context collector now).1 =
          .error (.violation (.alreadyGenerated (.identifier "app"))) ∧
        (generate config context collector now).2.2.tree = now.tree := by
  have succeeded : (generate {} (Context.standard {}).1 (.buffered [])
      ((Workspace.ofModule (.identifier "app") {} []).after [])).1 = .ok () :=
    (generate_eq_verdict {} _ _ (Tree.isForest_ofModule _)).trans rfl
  have kept : ∀ act ∈ [Act.annotate ⟨1⟩ .suspendProp [], .detach ⟨3⟩], act ≠ .detach ⟨1⟩ :=
    List.forall_mem_cons.mpr ⟨nofun, List.forall_mem_singleton.mpr nofun⟩
  exact ⟨succeeded, (generate_once _ {} [] [] {} _ _ _ succeeded).1 kept⟩

end DeclTree
