/-
**What builders make passes verification.**

No builder verifies anything. That what they make passes anyway comes from two facts. Work that
succeeds leaves the nodes that it made as their kinds ask (`Performs.newFit`), and what builders do
later leaves them alone (`Tree.Fits.spared`), so that nothing ever has to be checked again. A
declaration is the one node that does not fit while its body is written; but it was made before, and
so the body leaves it alone as well.

* `Edits.known`: builders make no node whose type is not known;
* `Tree.Sound`: the tree is a forest, all types are known, and all nodes fit;
* `builders_sound`: **after a run on an empty module in which everything that builders did
  succeeded, every subtree passes verification.**
-/

import DeclTree.Proofs.Build.Success
import DeclTree.Proofs.Host.Work

namespace DeclTree

/-! ### What was made -/

namespace Deed

theorem outcome_simple {α : Type} {outcome : Except TreeError α} {tree : Tree} :
    (simple outcome tree).outcome = .ok () ↔ ∃ value, outcome = .ok value := by
  cases outcome <;> simp [simple, Except.map]

theorem outcome_declaring {α : Type} {declaration : Declaration} {within : List Deed}
    {outcome : Except TreeError α} {tree : Tree} :
    (declaring declaration within outcome tree).outcome = .ok () ↔
      ∃ value, outcome = .ok value := by
  cases outcome <;> simp [declaring, Except.map]

end Deed

section Runs

variable {builder : Builder} {deeds : List Deed} {before after : Workspace}

/-- **If everything that was done succeeded, all nodes that were made fit.** -/
theorem Performs.newFit (performs : Performs builder deeds before after)
    (forest : before.tree.IsForest) (succeeded : ∀ deed ∈ deeds, deed.outcome = .ok ()) :
    Tree.NewFit before.tree after.tree := by
  induction performs with
  | nothing _ => exact fun _ new inside => absurd new (Nat.not_le.mpr inside)
  | append one two firstIh laterIh =>
      have parts := List.forall_mem_append.mp succeeded
      have middleForest := forest.grows one.grows
      intro id new inside
      rcases Nat.lt_or_ge id.index _ with early | late
      · exact (firstIh forest parts.1 id new early).spared middleForest two.spared early early
      · exact laterIh middleForest parts.2 id late inside
  | symbol _ _ => exact fun _ new inside => absurd new (Nat.not_le.mpr inside)
  | operation operation workspace =>
      obtain ⟨value, done⟩ := Deed.outcome_simple.mp (succeeded _ (List.mem_singleton_self _))
      exact Builder.perform_fits (Build.attempt_eq_ok done)
  | statement _ _ => exact fun _ new inside => absurd new (Nat.not_le.mpr inside)
  | refused _ =>
      obtain ⟨_, failed⟩ := Deed.outcome_declaring.mp (succeeded _ (List.mem_singleton_self _))
      cases failed
  | abandoned error _ _ _ =>
      have last := (List.forall_mem_append.mp succeeded).2
      obtain ⟨_, failed⟩ := Deed.outcome_declaring.mp (last _ (List.mem_singleton_self _))
      cases failed
  | @finished declaration draft within before begun written statements started body ih =>
      have parts := List.forall_mem_append.mp succeeded
      obtain ⟨value, ended⟩ := Deed.outcome_declaring.mp (parts.2 _ (List.mem_singleton_self _))
      obtain ⟨startEdits, stands⟩ :=
        (builder.start_steps declaration (le_refl before.tree.size)).run_ok started
      have begunForest := forest.grows (Edits.grows startEdits)
      have bodyEdits := body.edits le_rfl
      have begins := Builder.start_begun started
      -- The draft is older than its body, and no property, so the body leaves it alone.
      have ready := begins.ready.spared begunForest body.spared stands.takes.there
        stands.takes.there stands.takes.notProperty
      obtain ⟨fits, newFit, others⟩ := Builder.finish_fits (Build.attempt_eq_ok ended)
        (begunForest.grows (Edits.grows bodyEdits)) ready (stands.edits bodyEdits)
      intro id new inside
      by_cases isDraft : id = draft.node
      · rw [isDraft]
        exact fits
      rcases Nat.lt_or_ge id.index written.tree.size with early | late
      · refine others id early isDraft ?_
        rcases Nat.lt_or_ge id.index begun.tree.size with first | inBody
        · have other : id.index ≠ before.tree.size := by
            intro same
            rw [begins.node_eq, ← same] at isDraft
            exact isDraft rfl
          have neutral := begins.others id (Nat.lt_of_le_of_ne new other.symm) first
          exact (neutral.congr (body.spared.labelOf id first)).fits
        · exact ih begunForest parts.1 id inBody early
      · exact newFit id late inside

end Runs

/-! ### Types -/

/-- All nodes have types of known classes. -/
def Tree.Known (types : TypeUniverse) (tree : Tree) : Prop :=
  ∀ id label, tree.labelOf id = some label → types.resolve label.ty = .ok ()

section Types

variable {types : TypeUniverse} {asks : NodeId → NodeTag → Prop} {old : Nat}
variable {before after : Workspace}

theorem Tree.Known.push {tree : Tree} (known : tree.Known types) {kind : NodeKind} {name : Name}
    {ty : Ty} (resolved : types.resolve ty = .ok ()) :
    (tree.push { kind := kind, name := name, ty := ty }).2.Known types := by
  intro id label found
  obtain old | ⟨-, rfl⟩ := labelOf_push_eq_some found
  · exact known id label old
  · exact resolved

theorem Edit.known (edit : Edit types asks old before after) (known : before.tree.Known types) :
    after.tree.Known types := by
  cases edit with
  | log _ => exact known
  | symbol _ => exact known
  | make _ _ _ resolved _ _ => exact known.push resolved
  | declare _ _ _ _ resolved _ _ => exact known.push resolved
  | fill parent child _ _ =>
      exact fun id label found => known id label ((Tree.labelOf_link _ _ _ id).symm.trans found)
  | equip property accessor _ _ _ _ _ _ _ =>
      exact fun id label found => known id label ((Tree.labelOf_link _ _ _ id).symm.trans found)
  | annotate asked tag arguments _ =>
      exact fun id label found => known id label ((Tree.labelOf_putTag _ _ _ _ id).symm.trans found)

/-- **No builder makes a node of an unknown type.** -/
theorem Edits.known (edits : Edits types asks old before after) (known : before.tree.Known types) :
    after.tree.Known types := by
  induction edits with
  | refl => exact known
  | tail _ edit ih => exact edit.known ih

end Types

/-! ### Works -/

/-- Everything that verification asks of a tree. -/
structure Tree.Sound (types : TypeUniverse) (tree : Tree) : Prop where
  forest : tree.IsForest
  known : tree.Known types
  fits : ∀ id : NodeId, id.index < tree.size → tree.Fits id

theorem Tree.Sound.verify_eq_ok {types : TypeUniverse} {tree : Tree} (sound : tree.Sound types)
    {id : NodeId} (there : id.index < tree.size) : tree.verify types id = .ok () := by
  refine (sound.forest.verify_eq_ok_iff there).mpr fun low above => ?_
  obtain ⟨node, found⟩ := node?_eq_some_of_lt (lt_of_above above there)
  have labelled : tree.labelOf low = some node.label := by rw [labelOf, found, Option.map_some]
  refine sound.forest.checkNode_iff_passes.mpr ?_
  exact (sound.fits low (lt_of_node? found)).passes labelled (sound.known low _ labelled)

/-- A module alone is sound. -/
theorem Tree.sound_ofModule (types : TypeUniverse) (name : Name) :
    (Tree.ofModule name).Sound types := by
  refine ⟨isForest_ofModule name, fun id label found => ?_, fun id there => ?_⟩
  · obtain ⟨node, looked, rfl⟩ := Option.map_eq_some_iff.mp found
    rw [eq_of_node?_ofModule looked]
    show types.resolve .unit = .ok ()
    exact types.resolve_builtin (by decide)
  · obtain ⟨node, looked⟩ := node?_eq_some_of_lt there
    refine Neutral.fits ⟨node.kind, kindOf_eq looked, ?_⟩
    rw [eq_of_node?_ofModule looked]
    rfl

/-- Attaching a node under one of which nothing is asked. -/
theorem Tree.Sound.link {types : TypeUniverse} {tree : Tree} (sound : tree.Sound types)
    {parent child : NodeId} (attachable : tree.checkAttachable parent child = .ok ())
    (neutral : tree.Neutral parent) : (tree.link parent child).Sound types where
  forest := isForest_link sound.forest attachable
  known id label found := sound.known id label ((labelOf_link _ _ _ id).symm.trans found)
  fits id there := by
    rw [size_link] at there
    exact (sound.fits id there).link attachable fun same => same ▸ neutral

/-- What builders do with the types of a context keeps a tree sound. -/
theorem Performs.sound {builder : Builder} {deeds : List Deed} {before after : Workspace}
    (performs : Performs builder deeds before after)
    (succeeded : ∀ deed ∈ deeds, deed.outcome = .ok ())
    (sound : before.tree.Sound builder.context.types) :
    after.tree.Sound builder.context.types where
  forest := sound.forest.grows performs.grows
  known := Edits.known (performs.edits le_rfl) sound.known
  fits id there := by
    rcases Nat.lt_or_ge id.index before.tree.size with old | new
    · exact (sound.fits id old).spared sound.forest performs.spared old old
    · exact performs.newFit sound.forest succeeded id new there

theorem Work.sound {context : Context} (work : Work) {workspace : Workspace}
    (inContext : ∀ builder job, work = .build builder job → builder.context = context)
    (succeeded : ∀ deed ∈ work.deeds workspace, deed.outcome = .ok ())
    (module : workspace.tree.Neutral .root) (sound : workspace.tree.Sound context.types) :
    (work.act.apply workspace).tree.Sound context.types := by
  cases work with
  | build builder job =>
      obtain rfl := inContext builder job rfl
      exact (job.performs builder workspace).sound succeeded sound
  | attach child =>
      have run := Build.append_apply .root child workspace
      show ((Build.append .root child).attempt workspace).2.tree.Sound context.types
      cases attachable : workspace.tree.checkAttachable .root child with
      | ok _ =>
          rw [attachable] at run
          rw [Build.attempt_ok run]
          exact sound.link attachable module
      | error _ =>
          rw [attachable] at run
          rw [Build.attempt_error run]
          exact sound
  | newSymbol signature => exact sound

theorem Workspace.sound_afterWorks {context : Context} (workspace : Workspace) (works : List Work)
    (inContext : ∀ builder job, .build builder job ∈ works → builder.context = context)
    (succeeded : ∀ deed ∈ workspace.deeds works, deed.outcome = .ok ())
    (module : workspace.tree.Neutral .root) (sound : workspace.tree.Sound context.types) :
    (workspace.afterWorks works).tree.Sound context.types := by
  induction works generalizing workspace with
  | nil => exact sound
  | cons work rest ih =>
      have parts := List.forall_mem_append.mp succeeded
      have grows := work.act.growth workspace work.act_ne_detach
      refine ih _ (fun builder job later => inContext builder job (List.mem_cons_of_mem _ later))
        parts.2 (module.congr (Grows.labelOf grows sound.forest.root_there))
        (work.sound ?_ parts.1 module sound)
      rintro builder job rfl
      exact inContext builder job List.mem_cons_self

/-- **What builders make passes verification.** After any run on an empty module in which builders
work in one context, whatever they build and however deep bodies are nested in it, interleaved with
attaching nodes under the module: if everything that the builders did succeeded, then the subtree of
every node passes verification. -/
theorem builders_sound (context : Context) (name : Name) (supply : SymbolSupply) (log : Log)
    (works : List Work)
    (inContext : ∀ builder job, .build builder job ∈ works → builder.context = context)
    (succeeded : ∀ deed ∈ (Workspace.ofModule name supply log).deeds works,
      deed.outcome = .ok ()) :
    let tree := ((Workspace.ofModule name supply log).afterWorks works).tree
    ∀ id : NodeId, id.index < tree.size → tree.verify context.types id = .ok () := by
  intro tree id there
  have sound := Workspace.sound_afterWorks (Workspace.ofModule name supply log) works inContext
    succeeded ⟨.module, rfl, rfl⟩ (Tree.sound_ofModule context.types name)
  exact sound.verify_eq_ok there

/-- A property with a getter and a setter, attached under the module. -/
theorem property_with_accessors_sound :
    let builder : Builder := { context := .builtin }
    let returnOne : Script Unit := .buildThen (.literal (.int 1)) .returnLast
    let property : Job := .perform (.property
      { name := .identifier "p", ty := .int, isVar := true })
    let works := [
      Work.build builder property,
      Work.build builder (.declare (.getter ⟨1⟩) fun _ => returnOne),
      Work.build builder (.declare (.setter ⟨1⟩) fun _ => .empty),
      Work.attach ⟨1⟩]
    let start := Workspace.ofModule (.special "<module>") {} []
    (∀ deed ∈ start.deeds works, deed.outcome = .ok ()) ∧
      (start.afterWorks works).tree.verify TypeUniverse.builtin .root = .ok () := by
  intro builder returnOne property works start
  have succeeded : ∀ deed ∈ start.deeds works, deed.outcome = .ok () := by decide
  refine ⟨succeeded, builders_sound .builtin (.special "<module>") {} [] works ?_ succeeded .root
    (by decide)⟩
  intro other job member
  simp only [works, List.mem_cons, List.not_mem_nil, Work.build.injEq, reduceCtorEq, or_false]
    at member
  rcases member with ⟨rfl, _⟩ | ⟨rfl, _⟩ | ⟨rfl, _⟩ <;> rfl

end DeclTree
