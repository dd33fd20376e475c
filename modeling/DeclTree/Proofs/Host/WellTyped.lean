/-
**Types and links in a session.**

A host that works in a session does so in commands (`Command`), all of them with the context of the
session, whose classes and declarations only get more. Every way of making a node checks its type
against the classes that are known by then, and no class is ever forgotten, so the types of all
nodes stay known, attached or not; and the links stay those of a forest. Of what verification looks
for, that leaves the accessors and the calls (`TreeError.IsMisuse`).

* `Advances.known`: builders, generators and attachments make no node of an unknown type;
* `Session.WellTyped`: the invariant, kept by every command (`Session.WellTyped.apply`);
* `verify_structural`: **in no session does verification report an unknown type or a child that does
  not know its parent**.
-/

import DeclTree.Proofs.Host.Sound
import DeclTree.Proofs.Tree.Faults
import DeclTree.Session

namespace DeclTree

/-- What is reported of accessors and calls that are not used as their kinds ask. -/
inductive TreeError.IsMisuse : TreeError → Prop
  | owner (accessor : NodeId) (property : QualName) :
      IsMisuse (.violation (.foreignAccessor accessor property))
  | getterParameter : IsMisuse (.violation .getterParameter)
  | setterParameter (setter : NodeId) : IsMisuse (.violation (.setterParameter setter))
  | arity (callee : QualName) (expected found : Nat) : IsMisuse (.arity callee expected found)

/-! ### Commands -/

/-- What a host does in a session. Whatever needs a context uses the one that the session has. -/
inductive Command : Type 1 where
  | registerClass (classifier : QualName)
  | declareSymbol (signature : Signature)
  | insertSymbol (symbol : Symbol)
  | newSymbol (signature : Signature)
  | create (kind : NodeKind) (name : Name) (ty : Ty)
  | append (parent child : NodeId)
  | detach (child : NodeId)
  | annotate (id : NodeId) (tag : AnnotationTag) (arguments : List Literal)
  | perform (package : QualName) (operation : Operation)
  | declare {σ : Type} (package : QualName) (declaration : Declaration) (body : Scope → Script σ)
  | generate (config : Config) (collector : Collector)

/-- The session after a command, whether the command succeeded or failed. -/
def Command.apply : Command → Session → Session
  | registerClass classifier, session => (session.registerClass classifier).2
  | declareSymbol signature, session => (session.declareSymbol signature).2
  | insertSymbol symbol, session => session.insertSymbol symbol
  | newSymbol signature, session => (session.perform (Build.newSymbol signature)).2
  | create kind name ty, session =>
      (session.perform (Build.create session.context.types kind name ty)).2
  | append parent child, session => (session.perform (Build.append parent child)).2
  | detach child, session => (session.perform (Build.detach child)).2
  | annotate id tag arguments, session => (session.perform (Build.annotate id tag arguments)).2
  | perform package operation, session =>
      (session.perform (Builder.perform ⟨session.context, package⟩ operation)).2
  | declare package declaration body, session => (session.declare package declaration body).2.2
  | generate config collector, session => (session.generate config collector).2.2

/-- The session after some commands, the first one first. -/
def Session.after (session : Session) (commands : List Command) : Session :=
  commands.foldl (fun session command => command.apply session) session

/-! ### Known types -/

section Types

variable {types wider : TypeUniverse} {tree : Tree} {before after : Workspace}

/-- No class is forgotten. -/
theorem Tree.Known.mono (known : tree.Known types)
    (more : ∀ classifier ∈ types.classes, classifier ∈ wider.classes) : tree.Known wider :=
  fun id label found => (wider.resolve_eq_ok_iff label.ty).mpr
    (more _ ((types.resolve_eq_ok_iff label.ty).mp (known id label found)))

/-- Whatever leaves the nodes what they are leaves their types known. -/
theorem Tree.Known.of_labels {other : Tree} (known : tree.Known types)
    (same : ∀ id, other.labelOf id = tree.labelOf id) : other.Known types :=
  fun id label found => known id label ((same id).symm.trans found)

theorem Advance.known (advance : Advance types before after) (known : before.tree.Known types) :
    after.tree.Known types := by
  cases advance with
  | edit edit => exact edit.known known
  | attach parent child _ => exact known.of_labels (Tree.labelOf_link _ parent child)

theorem Advances.known (advances : Advances types before after)
    (known : before.tree.Known types) : after.tree.Known types := by
  induction advances with
  | refl => exact known
  | tail _ advance ih => exact advance.known ih

end Types

/-! ### Sessions -/

/-- The tree of a session is a forest, and the session knows the types of all its nodes. -/
structure Session.WellTyped (session : Session) : Prop where
  forest : session.tree.IsForest
  known : session.tree.Known session.context.types

namespace Session.WellTyped

variable {session : Session}

/-- A module alone is well typed, whatever classes there are. -/
theorem ofModule (context : Context) (name : Name) (supply : SymbolSupply) (log : Log) :
    Session.WellTyped ⟨context, Workspace.ofModule name supply log⟩ where
  forest := Tree.isForest_ofModule name
  known := (Tree.sound_ofModule context.types name).known

/-- Builders, generators and attachments keep a session well typed. -/
theorem advances (wellTyped : session.WellTyped) {after : Workspace}
    (advances : Advances session.context.types session.workspace after) :
    Session.WellTyped ⟨session.context, after⟩ where
  forest := wellTyped.forest.grows (Advances.grows advances)
  known := Advances.known advances wellTyped.known

theorem create (wellTyped : session.WellTyped) (kind : NodeKind) (name : Name) (ty : Ty) :
    ((Command.create kind name ty).apply session).WellTyped := by
  have run := Build.create_apply session.context.types kind name ty session.workspace
  show Session.WellTyped ⟨session.context, (Build.attempt _ session.workspace).2⟩
  cases resolved : session.context.types.resolve ty with
  | ok _ =>
      rw [resolved] at run
      rw [Build.attempt_ok run]
      exact ⟨Tree.isForest_push wellTyped.forest kind name ty, wellTyped.known.push resolved⟩
  | error _ =>
      rw [resolved] at run
      rw [Build.attempt_error run]
      exact wellTyped

theorem detach (wellTyped : session.WellTyped) (child : NodeId) :
    ((Command.detach child).apply session).WellTyped := by
  show Session.WellTyped ⟨session.context, (Act.detach child).apply session.workspace⟩
  rw [detach_apply_eq]
  cases attached : session.workspace.tree.parentOf child with
  | none => exact wellTyped
  | some parent =>
      exact ⟨Tree.isForest_unlink wellTyped.forest attached,
        wellTyped.known.of_labels (Tree.labelOf_unlink _ parent child)⟩

theorem annotate (wellTyped : session.WellTyped) (id : NodeId) (tag : AnnotationTag)
    (arguments : List Literal) :
    ((Command.annotate id tag arguments).apply session).WellTyped := by
  have run := Build.annotate_apply id tag arguments session.workspace
  show Session.WellTyped ⟨session.context, (Build.attempt _ session.workspace).2⟩
  cases there : session.workspace.tree.node id with
  | ok _ =>
      rw [there] at run
      rw [Build.attempt_ok run]
      exact ⟨Tree.isForest_putTag wellTyped.forest id tag arguments,
        wellTyped.known.of_labels (Tree.labelOf_putTag _ id tag arguments)⟩
  | error _ =>
      rw [there] at run
      rw [Build.attempt_error run]
      exact wellTyped

/-- **Every command keeps a session well typed**, whether it succeeds or fails. -/
theorem apply (wellTyped : session.WellTyped) (command : Command) :
    (command.apply session).WellTyped := by
  cases command with
  | registerClass classifier =>
      refine ⟨wellTyped.forest, wellTyped.known.mono fun known member => ?_⟩
      exact (TypeUniverse.mem_classes_register _ classifier known).mpr (.inl member)
  | declareSymbol signature => exact ⟨wellTyped.forest, wellTyped.known⟩
  | insertSymbol symbol => exact ⟨wellTyped.forest, wellTyped.known⟩
  | newSymbol signature => exact ⟨wellTyped.forest, wellTyped.known⟩
  | create kind name ty => exact wellTyped.create kind name ty
  | append parent child =>
      exact wellTyped.advances (Act.append_advances _ parent child session.workspace)
  | detach child => exact wellTyped.detach child
  | annotate id tag arguments => exact wellTyped.annotate id tag arguments
  | perform package operation =>
      have steps : Build.Steps (Builder.Step ⟨session.context, package⟩ 0)
          (Builder.perform ⟨session.context, package⟩ operation) session.workspace
          Builder.anything := Builder.perform_steps _ operation (Nat.zero_le _)
      exact wellTyped.advances (Edits.advances steps.attempt)
  | declare package declaration body =>
      have edits := Builder.declare_edits ⟨session.context, package⟩ declaration body
        session.workspace
      exact wellTyped.advances (Edits.advances edits)
  | generate config collector =>
      exact wellTyped.advances
        (generate_advances config session.context collector session.workspace)

/-- So does every run. -/
theorem after (wellTyped : session.WellTyped) (commands : List Command) :
    (session.after commands).WellTyped := by
  induction commands generalizing session with
  | nil => exact wellTyped
  | cons command rest ih => exact ih (wellTyped.apply command)

/-- Where all types are known, what is reported is a misuse of an accessor or of a call. -/
theorem isMisuse (wellTyped : session.WellTyped) {id : NodeId}
    (there : id.index < session.tree.size) {error : TreeError}
    (failed : session.tree.verify session.context.types id = .error error) : error.IsMisuse := by
  obtain ⟨below, stands⟩ := wellTyped.forest.exists_grove there
  obtain ⟨_, low, _, _, _, fault⟩ := (wellTyped.forest.verify_eq_error_iff stands).mp failed
  cases fault with
  | unknownType found unknown =>
      have resolved := wellTyped.known low _ found
      exact absurd ((TypeUniverse.resolve_eq_ok_iff _ _).mp resolved) unknown
  | foreign _ _ _ _ _ => exact .owner low _
  | getterParameter _ _ _ _ => exact .getterParameter
  | setterParameter _ _ _ _ => exact .setterParameter low
  | arity _ _ _ => exact .arity _ _ _

end Session.WellTyped

/-- **Nodes stay typed and linked.** In every session on a module that was empty at first, after any
commands, which may succeed or fail: every node, attached or not, has a type of a class that is
known by now, and its children know it as their parent. So whatever verification reports, of any
node of the tree, it is an accessor that stands under another node than its property, a parameter
that an accessor should or should not have, or a call with the wrong number of arguments. -/
theorem verify_structural (context : Context) (name : Name) (supply : SymbolSupply) (log : Log)
    (commands : List Command) :
    let session := Session.after ⟨context, Workspace.ofModule name supply log⟩ commands
    (∀ id node, session.tree.node? id = some node →
        session.context.types.resolve node.ty = .ok () ∧
          ∀ child ∈ node.children, session.tree.parentOf child = some id) ∧
      ∀ id : NodeId, id.index < session.tree.size → ∀ error,
        session.tree.verify session.context.types id = .error error → error.IsMisuse := by
  intro session
  have wellTyped : session.WellTyped :=
    (Session.WellTyped.ofModule context name supply log).after commands
  refine ⟨fun id node found => ⟨?_, fun child listed => ?_⟩, fun id there error failed =>
    wellTyped.isMisuse there failed⟩
  · exact wellTyped.known id node.label (by rw [Tree.labelOf, found, Option.map_some])
  · rw [← wellTyped.forest.mem_childrenOf_iff, Tree.childrenOf_eq found]
    exact listed

end DeclTree
