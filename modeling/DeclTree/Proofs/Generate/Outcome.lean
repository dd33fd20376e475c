/-
**How a run of the generator ends.**

A run can be stopped by three things, and by nothing else: an earlier run, the lack of exactly one
declaration that prints, and a type of this declaration that is not known. `Ends` lists how a run
ends in each case, with the tree that it leaves; `generate_ends` says that these are all cases,
whatever the messages that are reported on the way.

* `checkNotGenerated_ok`, `checkNotGenerated_error`: what an earlier run has left is found;
* `lookUp_eq`: the declaration that prints is found if there is exactly one;
* `attachBoth_eq`: the declarations that were built are attached to the module;
* `run_ends`: **the work of a run**, which writes to the log only what is no message of its host's;
* `generate_eq`: a run is this work between two reports;
* `generate_exact`: **the outcome of a run** on any module that a host has worked on.
-/

import DeclTree.Proofs.Generate.Verification
import DeclTree.Proofs.Host.Run

namespace DeclTree

open Build

/-! ### The conditions -/

/-- A function `main` that is marked as generated is attached to the module. -/
def Tree.IsGenerated (tree : Tree) : Prop :=
  ∃ child ∈ tree.childrenOf .root, ∃ node, tree.node? child = some node ∧
    node.tag = .function ∧ node.name.text = "main" ∧ .generated ∈ node.annotations.tags

/-- The declarations that print any value. -/
def Context.printers (context : Context) : List Symbol :=
  (context.symbols.references println).filter fun symbol => symbol.parameters = [Ty.anyNullable]

variable {tree : Tree} {root : Node}

theorem Node.isGeneratedMain_iff (node : Node) :
    node.isGeneratedMain = true ↔
      node.tag = .function ∧ node.name.text = "main" ∧ .generated ∈ node.annotations.tags := by
  unfold isGeneratedMain
  rw [Bool.and_eq_true, Bool.and_eq_true, Annotations.contains_iff, decide_eq_true_iff,
    decide_eq_true_iff, and_assoc]

/-- The search for an earlier run finds what it looks for. -/
theorem Tree.any_isGeneratedMain_iff (found : tree.node? .root = some root) :
    (root.children.filterMap tree.node?).any Node.isGeneratedMain = true ↔ tree.IsGenerated := by
  unfold IsGenerated
  rw [List.any_eq_true, childrenOf_eq found]
  simp only [List.mem_filterMap, Node.isGeneratedMain_iff]
  exact ⟨fun ⟨node, ⟨child, listed, looked⟩, isMain⟩ => ⟨child, listed, node, looked, isMain⟩,
    fun ⟨child, listed, node, looked, isMain⟩ => ⟨node, ⟨child, listed, looked⟩, isMain⟩⟩

theorem Tree.checkNotGenerated_eq (found : tree.node? .root = some root) :
    tree.checkNotGenerated =
      if (root.children.filterMap tree.node?).any Node.isGeneratedMain then
        .error (.violation (.alreadyGenerated root.name))
      else .ok () := by
  unfold checkNotGenerated
  rw [(node_eq_ok_iff tree .root root).mpr found]
  rfl

theorem Tree.checkNotGenerated_ok (found : tree.node? .root = some root)
    (fresh : ¬ tree.IsGenerated) : tree.checkNotGenerated = .ok () := by
  rw [checkNotGenerated_eq found, if_neg (mt (any_isGeneratedMain_iff found).mp fresh)]

theorem Tree.checkNotGenerated_error (found : tree.node? .root = some root)
    (generated : tree.IsGenerated) :
    tree.checkNotGenerated = .error (.violation (.alreadyGenerated root.name)) := by
  rw [checkNotGenerated_eq found, if_pos ((any_isGeneratedMain_iff found).mpr generated)]

/-! ### What a run writes to the log -/

/-- A log with records more, none of which is a message for the host. -/
def Log.Continues (log after : Log) : Prop :=
  ∃ more, after = log ++ more ∧ ∀ record ∈ more, record.source ≠ .diagnostics

namespace Log.Continues

variable {log mid after : Log}

theorem refl (log : Log) : log.Continues log :=
  ⟨[], (List.append_nil log).symm, nofun⟩

theorem trans (first : log.Continues mid) (second : mid.Continues after) :
    log.Continues after := by
  obtain ⟨more, rfl, others⟩ := first
  obtain ⟨rest, rfl, restOthers⟩ := second
  exact ⟨more ++ rest, List.append_assoc log more rest, fun record written =>
    (List.mem_append.mp written).elim (others record) (restOthers record)⟩

theorem note (continues : log.Continues mid) (source : LogSource) (other : source ≠ .diagnostics)
    (text : String) : log.Continues (mid ++ [⟨.debug, source, text⟩]) :=
  continues.trans ⟨_, rfl, List.forall_mem_singleton.mpr other⟩

end Log.Continues

/-! ### The declaration that prints -/

section LookUp

variable {context : Context} {workspace : Workspace} {printer : Symbol}

theorem Context.takesAnything_of_printers (one : context.printers = [printer]) :
    printer.takesAnything = true := by
  have member : printer ∈ context.printers := one ▸ List.mem_singleton_self printer
  exact (List.mem_filter.mp member).2

theorem Context.resolve_printers (context : Context) :
    context.symbols.resolve println Symbol.takesAnything =
      match context.printers with
      | [] => .error (.unresolved println)
      | [printer] => .ok printer
      | printers => .error (.ambiguous println printers.length) := by
  have fitting : (context.symbols.references println).filter Symbol.takesAnything =
      context.printers := rfl
  unfold SymbolTable.resolve
  rw [fitting]
  rcases context.printers with _ | ⟨first, _ | ⟨second, rest⟩⟩ <;> rfl

theorem Context.lookUp_eq (context : Context) (workspace : Workspace) :
    context.lookUp println Symbol.takesAnything workspace =
      match context.printers with
      | [] => .error (.unresolved println) workspace
      | [printer] => .ok printer { workspace with
          log := workspace.log ++ [⟨.debug, .symbols, "resolved " ++ println.text ++
            " to SymbolId(" ++ Nat.repr printer.id.number ++ ")"⟩] }
      | printers => .error (.ambiguous println printers.length) workspace := by
  unfold lookUp
  rw [resolve_printers]
  rcases context.printers with _ | ⟨first, _ | ⟨second, rest⟩⟩ <;> rfl

end LookUp

/-! ### Attachment to the module -/

/-- The tree with some nodes as the last children of the module. -/
def Tree.adopt (tree : Tree) (children : List NodeId) : Tree :=
  tree.update .root fun root => { root with children := root.children ++ children }

@[simp] theorem Tree.size_adopt (tree : Tree) (children : List NodeId) :
    (tree.adopt children).size = tree.size :=
  size_update _ _ _

theorem Tree.node?_adopt (tree : Tree) (children : List NodeId) (id : NodeId) :
    (tree.adopt children).node? id = if NodeId.root = id then
      (tree.node? id).map fun root => { root with children := root.children ++ children }
    else tree.node? id :=
  node?_update _ _ _ _

theorem Tree.adopt_adopt (tree : Tree) (children others : List NodeId) :
    (tree.adopt children).adopt others = tree.adopt (children ++ others) := by
  refine ext_node? fun id => ?_
  rw [node?_adopt, node?_adopt, node?_adopt]
  split
  · rw [Option.map_map]
    congr 1
    funext root
    simp
  · rfl

theorem Tree.parentOf_adopt (tree : Tree) (children : List NodeId) (id : NodeId) :
    (tree.adopt children).parentOf id = tree.parentOf id := by
  unfold parentOf
  rw [node?_adopt]
  split
  · cases tree.node? id <;> rfl
  · rfl

namespace Template

variable {nodes : List Node} {supply : SymbolSupply} {log : Log}

/-- The node of a declaration that is attached to the module. -/
def underModule (node : Node) : Node := { node with parent := some .root }

/-- The record of a declaration that was attached. -/
def attachRecord (node : Node) : LogRecord := ⟨.debug, .generator, "attached " ++ node.line⟩

/-- A declaration that stands alone is attached to the module. -/
theorem attach_eq (there : NodeId.root.index < tree.size) (alone : tree.parentOf .root = none)
    (place : Nat) {node : Node} (found : nodes[place]? = some node)
    (parentless : node.parent = none) :
    attach ⟨tree.size + place⟩ ⟨tree.extend nodes, supply, log⟩ =
      .ok () ⟨(tree.adopt [⟨tree.size + place⟩]).extend (nodes.modify place underModule), supply,
        log ++ [attachRecord (underModule node)]⟩ := by
  have attached : append .root ⟨tree.size + place⟩ ⟨tree.extend nodes, supply, log⟩ =
      .ok () ⟨(tree.adopt [⟨tree.size + place⟩]).extend (nodes.modify place underModule), supply,
        log⟩ := by
    rw [append_apply, Tree.checkAttachable_root there alone found parentless]
    dsimp only
    rw [Tree.link_root_extend nodes there]
    rfl
  have listed : (nodes.modify place underModule)[place]? = some (underModule node) := by
    simp [found]
  have looked := Tree.node_extend_new (tree.adopt [⟨tree.size + place⟩]) _ listed
  rw [Tree.size_adopt] at looked
  have line : ofExcept (((tree.adopt [⟨tree.size + place⟩]).extend
      (nodes.modify place underModule)).line ⟨tree.size + place⟩)
        ⟨(tree.adopt [⟨tree.size + place⟩]).extend (nodes.modify place underModule), supply, log⟩ =
      .ok (underModule node).line
        ⟨(tree.adopt [⟨tree.size + place⟩]).extend (nodes.modify place underModule), supply,
          log⟩ := by
    rw [ofExcept_apply, Tree.line, looked]
    rfl
  unfold attach
  refine (bind_ok attached).trans ((bind_ok (tree_apply _)).trans ?_)
  exact (bind_ok line).trans (note_apply _ _ _)

variable {context : Context} {printer : Symbol}

/-- Both declarations are attached. -/
theorem attachBoth_eq (there : NodeId.root.index < tree.size) (alone : tree.parentOf .root = none)
    (left : SymbolSupply) :
    ∃ more, [(⟨tree.size⟩ : NodeId), ⟨tree.size + 2⟩].forM attach
        ⟨tree.extend (declarationNodes tree.size supply printer annotated), left, log⟩ =
      .ok () ⟨(tree.adopt [⟨tree.size⟩, ⟨tree.size + 2⟩]).extend
        (declarationNodes tree.size supply printer (underModule ∘ annotated)), left, more⟩ ∧
      log.Continues more := by
  have main : attach ⟨tree.size⟩
      ⟨tree.extend (declarationNodes tree.size supply printer annotated), left, log⟩ = _ :=
    attach_eq there alone 0 rfl rfl
  have test : attach ⟨(tree.adopt [⟨tree.size⟩]).size + 2⟩
      ⟨(tree.adopt [⟨tree.size⟩]).extend
        ((declarationNodes tree.size supply printer annotated).modify 0 underModule), left,
        log ++ [attachRecord (underModule (annotated (mainNode supply [⟨tree.size + 1⟩])))]⟩ = _ :=
    attach_eq (by rwa [Tree.size_adopt]) (by rwa [Tree.parentOf_adopt]) 2 rfl rfl
  rw [Tree.size_adopt, Tree.adopt_adopt] at test
  exact ⟨_, (bind_ok main).trans (bind_ok test),
    ((Log.Continues.refl log).note .generator nofun _).note .generator nofun _⟩

/-! ### All cases -/

theorem continues_builtLog (log : Log) : log.Continues (builtLog log) :=
  ((Log.Continues.refl log).note .declarations nofun _).note .declarations nofun _

/-- The tree with both declarations, before they are attached, is a forest. -/
theorem isForest_built (forest : tree.IsForest) (fits : printer.takesAnything = true)
    (known : context.types.resolve printer.result = .ok ()) :
    (tree.extend (declarationNodes tree.size supply printer annotated)).IsForest := by
  have advances : Steps (Advance context.types) (buildAll context printer) ⟨tree, supply, []⟩
      Builder.anything := buildAll_advances context printer
  exact forest.grows (Advances.grows (advances.run_ok (buildAll_eq forest.root_there fits known)).1)

/-- A run that is not stopped by an earlier one comes to the look-up. -/
theorem run_fresh {root : Node} (found : tree.node? .root = some root)
    (fresh : ¬ tree.IsGenerated) :
    run context ⟨tree, supply, log⟩ =
      (do
        let println ← context.lookUp println Symbol.takesAnything
        let declarations ← buildAll context println
        let tree ← Build.tree
        Build.ofExcept (declarations.forM (tree.verify context.types))
        declarations.forM attach) ⟨tree, supply, log⟩ := by
  have passed := Tree.checkNotGenerated_ok found fresh
  exact (bind_ok (tree_apply _)).trans (bind_ok (ofExcept_ok passed _))

/-- A run with one declaration that prints any value, of a known type. -/
theorem run_ok (supply : SymbolSupply) (log : Log) (forest : tree.IsForest)
    (fresh : ¬ tree.IsGenerated) (one : context.printers = [printer])
    (known : printer.result.classifier ∈ context.types.classes) :
    ∃ after, run context ⟨tree, supply, log⟩ = .ok () after ∧
      after.tree = (tree.adopt [⟨tree.size⟩, ⟨tree.size + 2⟩]).extend
        (declarationNodes tree.size supply printer (underModule ∘ annotated)) ∧
      log.Continues after.log := by
  obtain ⟨root, found⟩ := Tree.node?_eq_some_of_lt forest.root_there
  have fits := Context.takesAnything_of_printers one
  have resolved := (context.types.resolve_eq_ok_iff printer.result).mpr known
  have built : (tree.extend (declarationNodes tree.size supply printer annotated)).IsForest :=
    isForest_built forest fits resolved
  have verified : [(⟨tree.size⟩ : NodeId), ⟨tree.size + 2⟩].forM
      ((tree.extend (declarationNodes tree.size supply printer annotated)).verify context.types) =
        .ok () := by
    refine (forM_eq_ok_iff _ _).mpr ?_
    refine List.forall_mem_cons.mpr ⟨?_, List.forall_mem_singleton.mpr ?_⟩
    · exact verify_declarations forest built fits resolved 0 (by decide)
    · exact verify_declarations forest built fits resolved 2 (by decide)
  have lookedUp := Context.lookUp_eq context ⟨tree, supply, log⟩
  rw [one] at lookedUp
  obtain ⟨more, attached, continues⟩ := attachBoth_eq forest.root_there forest.root_alone _
  rw [run_fresh found fresh]
  refine ⟨_, (bind_ok lookedUp).trans ((bind_ok (buildAll_eq forest.root_there fits resolved)).trans
    ((bind_ok (tree_apply _)).trans ((bind_ok (ofExcept_ok verified _)).trans attached))), rfl, ?_⟩
  exact (((Log.Continues.refl log).note .symbols nofun _).trans (continues_builtLog _)).trans
    continues

/-- A run with one declaration that prints any value, of a type that is not known. -/
theorem run_unknownType (supply : SymbolSupply) (log : Log) (forest : tree.IsForest)
    (fresh : ¬ tree.IsGenerated) (one : context.printers = [printer])
    (unknown : printer.result.classifier ∉ context.types.classes) :
    ∃ after, run context ⟨tree, supply, log⟩ =
        .error (.unresolved printer.result.classifier) after ∧
      after.tree = tree.extend (abandonedNodes tree.size supply) ∧
      log.Continues after.log := by
  obtain ⟨root, found⟩ := Tree.node?_eq_some_of_lt forest.root_there
  have fits := Context.takesAnything_of_printers one
  have lookedUp := Context.lookUp_eq context ⟨tree, supply, log⟩
  rw [one] at lookedUp
  rw [run_fresh found fresh]
  exact ⟨_, (bind_ok lookedUp).trans (bind_error (buildAll_error forest.root_there fits unknown)),
    rfl, ((Log.Continues.refl log).note .symbols nofun _).trans (continues_builtLog _)⟩

/-- How a run ends, with the tree that it leaves. -/
inductive Ends (context : Context) (supply : SymbolSupply) (tree : Tree) :
    Except TreeError Unit → Tree → Prop
  | generated (root : Node) (found : tree.node? .root = some root) (again : tree.IsGenerated) :
      Ends context supply tree (.error (.violation (.alreadyGenerated root.name))) tree
  | noPrinter (fresh : ¬ tree.IsGenerated) (none : context.printers = []) :
      Ends context supply tree (.error (.unresolved println)) tree
  | manyPrinters (fresh : ¬ tree.IsGenerated) (many : 2 ≤ context.printers.length) :
      Ends context supply tree (.error (.ambiguous println context.printers.length)) tree
  /-- Ten nodes are left that are attached to no node of the tree. -/
  | unknownType (fresh : ¬ tree.IsGenerated) (printer : Symbol)
      (one : context.printers = [printer])
      (unknown : printer.result.classifier ∉ context.types.classes) :
      Ends context supply tree (.error (.unresolved printer.result.classifier))
        (tree.extend (abandonedNodes tree.size supply))
  /-- `main` and `test` are the last children of the module. -/
  | done (fresh : ¬ tree.IsGenerated) (printer : Symbol) (one : context.printers = [printer])
      (known : printer.result.classifier ∈ context.types.classes) :
      Ends context supply tree (.ok ())
        ((tree.adopt [⟨tree.size⟩, ⟨tree.size + 2⟩]).extend
          (declarationNodes tree.size supply printer (underModule ∘ annotated)))

/-- **The work of a run ends in one of these ways**, and writes no message for the host. -/
theorem run_ends (forest : tree.IsForest) (context : Context) (supply : SymbolSupply) (log : Log) :
    Ends context supply tree ((run context).attempt ⟨tree, supply, log⟩).1
        ((run context).attempt ⟨tree, supply, log⟩).2.tree ∧
      log.Continues ((run context).attempt ⟨tree, supply, log⟩).2.log := by
  obtain ⟨root, found⟩ := Tree.node?_eq_some_of_lt forest.root_there
  by_cases generated : tree.IsGenerated
  · have stopped : run context ⟨tree, supply, log⟩ =
        .error (.violation (.alreadyGenerated root.name)) ⟨tree, supply, log⟩ := by
      refine (bind_ok (tree_apply _)).trans (bind_error ?_)
      exact ofExcept_error (Tree.checkNotGenerated_error found generated) _
    rw [attempt_error stopped]
    exact ⟨.generated root found generated, .refl log⟩
  · have lookedUp := Context.lookUp_eq context ⟨tree, supply, log⟩
    rcases printers : context.printers with _ | ⟨printer, _ | ⟨second, rest⟩⟩
    · rw [printers] at lookedUp
      rw [attempt_error ((run_fresh found generated).trans (bind_error lookedUp))]
      exact ⟨.noPrinter generated printers, .refl log⟩
    · by_cases known : printer.result.classifier ∈ context.types.classes
      · obtain ⟨after, done, left, continues⟩ :=
          run_ok supply log forest generated printers known
        rw [attempt_ok done, left]
        exact ⟨.done generated printer printers known, continues⟩
      · obtain ⟨after, stopped, left, continues⟩ :=
          run_unknownType supply log forest generated printers known
        rw [attempt_error stopped, left]
        exact ⟨.unknownType generated printer printers known, continues⟩
    · have many : 2 ≤ context.printers.length := by
        rw [printers]
        exact Nat.le_add_left 2 rest.length
      rw [printers] at lookedUp
      rw [attempt_error ((run_fresh found generated).trans (bind_error lookedUp)), ← printers]
      exact ⟨.manyPrinters generated many, .refl log⟩

end Template

/-! ### The work and its messages -/

theorem Collector.report_nil (collector : Collector) (log : Log) :
    collector.report [] log = (collector, log) := by
  cases collector <;> simp [report]

/-- The message about the outcome of a run: only a run that succeeds has one. -/
def concluded : Except TreeError Unit → List Message
  | .ok _ => [⟨.info, "generated 2 declarations"⟩]
  | .error _ => []

/-- **A run** reports on the module, does its work and reports on the outcome. -/
theorem generate_eq (config : Config) (context : Context) (collector : Collector)
    (workspace : Workspace) :
    let opened := collector.report (config.openingMessages workspace.tree) workspace.log
    let worked := (Template.run context).attempt { workspace with log := opened.2 }
    let closed := opened.1.report (concluded worked.1) worked.2.log
    generate config context collector workspace =
      (worked.1, closed.1, { worked.2 with log := closed.2 }) := by
  intro opened worked closed
  have work : worked = (Template.run context).attempt { workspace with log := opened.2 } := rfl
  have close : closed = opened.1.report (concluded worked.1) worked.2.log := rfl
  unfold generate
  dsimp only
  cases ran : Template.run context { workspace with log := opened.2 } with
  | ok _ after =>
      rw [Build.attempt_ok ran] at work
      rw [close, work]
      rfl
  | error error after =>
      rw [Build.attempt_error ran] at work
      rw [close, work, concluded, Collector.report_nil]

/-- **How the generator ends**, whatever it reports. -/
theorem generate_ends (config : Config) (context : Context) (collector : Collector)
    {workspace : Workspace} (forest : workspace.tree.IsForest) :
    Template.Ends context workspace.supply workspace.tree
      (generate config context collector workspace).1
      (generate config context collector workspace).2.2.tree := by
  rw [generate_eq]
  exact (Template.run_ends forest context workspace.supply _).1

/-- What a run that succeeds adds, and what it leaves as it was. -/
theorem Template.Ends.added {supply : SymbolSupply} {context : Context} {after : Tree}
    (forest : tree.IsForest) (ends : Template.Ends context supply tree (.ok ()) after) :
    after.size = tree.size + 12 ∧
      after.childrenOf .root = tree.childrenOf .root ++ [⟨tree.size⟩, ⟨tree.size + 2⟩] ∧
      ∀ id : NodeId, id.index < tree.size → id ≠ .root → after.node? id = tree.node? id := by
  cases ends with
  | done _ printer _ _ =>
      refine ⟨?_, ?_, fun id there other => ?_⟩
      · rw [Tree.size_extend, Tree.size_adopt]
        rfl
      · obtain ⟨root, found⟩ := Tree.node?_eq_some_of_lt forest.root_there
        have adopted := Tree.node?_adopt tree [⟨tree.size⟩, ⟨tree.size + 2⟩] .root
        rw [if_pos rfl, found, Option.map_some] at adopted
        rw [Tree.childrenOf_eq found]
        refine Tree.childrenOf_eq ((Tree.node?_extend_old _ ?_).trans adopted)
        rw [Tree.size_adopt]
        exact forest.root_there
      · rw [Tree.node?_extend_old _ (by rwa [Tree.size_adopt]), Tree.node?_adopt,
          if_neg (Ne.symm other)]

/-- **The outcome of a run**, on any module that a host has worked on, with any context. The run
succeeds exactly if no earlier one has generated into the module, one declaration prints any value,
and the type of this declaration is known; `Template.Ends` says what the error is otherwise, in the
order of the checks, and what tree is left. A run that succeeds adds twelve nodes, attaches two of
them as the last children of the module and touches no other node. -/
theorem generate_exact (name : Name) (supply : SymbolSupply) (log : Log) (acts : List Act)
    (config : Config) (context : Context) (collector : Collector) :
    let before := (Workspace.ofModule name supply log).after acts
    let run := generate config context collector before
    (run.1 = .ok () ↔ ¬ before.tree.IsGenerated ∧ ∃ printer, context.printers = [printer] ∧
      context.types.resolve printer.result = .ok ()) ∧
    Template.Ends context before.supply before.tree run.1 run.2.2.tree ∧
    (run.1 = .ok () →
      run.2.2.tree.size = before.tree.size + 12 ∧
      run.2.2.tree.childrenOf .root = before.tree.childrenOf .root ++
        [⟨before.tree.size⟩, ⟨before.tree.size + 2⟩] ∧
      ∀ id : NodeId, id.index < before.tree.size → id ≠ .root →
        run.2.2.tree.node? id = before.tree.node? id) := by
  intro before run
  have forest : before.tree.IsForest :=
    Workspace.isForest_of_after (Tree.isForest_ofModule name)
  have ends : Template.Ends context before.supply before.tree run.1 run.2.2.tree :=
    generate_ends config context collector forest
  refine ⟨?_, ends, fun succeeded => Template.Ends.added forest (succeeded ▸ ends)⟩
  simp only [TypeUniverse.resolve_eq_ok_iff]
  generalize run.1 = outcome at ends
  generalize run.2.2.tree = after at ends
  cases ends with
  | generated root found again => exact ⟨nofun, fun both => absurd again both.1⟩
  | noPrinter fresh none =>
      refine ⟨nofun, fun ⟨_, printer, one, _⟩ => ?_⟩
      rw [none] at one
      cases one
  | manyPrinters fresh many =>
      refine ⟨nofun, fun ⟨_, printer, one, _⟩ => ?_⟩
      rw [one] at many
      exact absurd many (Nat.lt_irrefl 1)
  | unknownType fresh printer one unknown =>
      refine ⟨nofun, fun ⟨_, other, also, known⟩ => ?_⟩
      rw [one] at also
      cases also
      exact absurd known unknown
  | done fresh printer one known => exact ⟨fun _ => ⟨fresh, printer, one, known⟩, fun _ => rfl⟩

end DeclTree
