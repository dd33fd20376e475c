/-
**What a run of the generator reports.**

All messages of a run but the last one are about the module as it came, so what they say does not
depend on how the run ends; the last one is there exactly if the run succeeds.

* `Collector.Receives`: a collector, or the log behind it, was handed certain messages in their
  order and no others, whatever else was written to the log in between;
* `openingMessages_eq`: the messages about the module are the text of the module and one message for
  each property, so there is never a warning;
* `Ends.after_eq`: the tree that a run leaves is a function of the context, the supply and the tree;
  another supply gives other identities to the new symbols and changes nothing else
  (`anonymous_leaves`);
* `generate_reports`: **the messages of a run**, and that they make no difference to it.
-/

import DeclTree.Proofs.Generate.Failure
import DeclTree.Proofs.Tree.Dump
import DeclTree.Proofs.Tree.Properties

namespace DeclTree

/-! ### Messages that arrive -/

/-- The records that messages have become. -/
def Log.diagnostics (log : Log) : Log :=
  log.filter fun record => decide (record.source = .diagnostics)

/-- Some messages, in their order, and no others were handed to a collector: it has kept them, or it
has passed each of them to the log. -/
inductive Collector.Receives (messages : List Message) : Collector → Log → Collector → Log → Prop
  | kept (before : List Message) {log later : Log}
      (silent : later.diagnostics = log.diagnostics) :
      Receives messages (.buffered before) log (.buffered (before ++ messages)) later
  | passed {log later : Log}
      (written : later.diagnostics = log.diagnostics ++ messages.map Message.record) :
      Receives messages .log log .log later

theorem Log.Continues.diagnostics_eq {log after : Log} (continues : log.Continues after) :
    after.diagnostics = log.diagnostics := by
  obtain ⟨more, rfl, others⟩ := continues
  have none : more.filter (fun record => decide (record.source = .diagnostics)) = [] :=
    List.filter_eq_nil_iff.mpr fun record written => by simpa using others record written
  unfold Log.diagnostics
  rw [List.filter_append, none, List.append_nil]

theorem Log.diagnostics_append_records (log : Log) (messages : List Message) :
    Log.diagnostics (log ++ messages.map Message.record) =
      log.diagnostics ++ messages.map Message.record := by
  have all : (messages.map Message.record).filter
      (fun record => decide (record.source = .diagnostics)) = messages.map Message.record :=
    List.filter_eq_self.mpr (List.forall_mem_map.mpr fun _ _ => rfl)
  unfold Log.diagnostics
  rw [List.filter_append, all]

namespace Collector

variable {messages others : List Message} {collector opened closed : Collector}
  {log mid later : Log}

/-- A report arrives. -/
theorem receives_report (collector : Collector) (messages : List Message) (log : Log) :
    collector.Receives messages log (collector.report messages log).1
      (collector.report messages log).2 := by
  cases collector with
  | buffered kept => exact .kept kept rfl
  | log => exact .passed (Log.diagnostics_append_records log messages)

/-- A collector that keeps messages has kept these. -/
theorem Receives.eq_buffered {before : List Message}
    (received : (Collector.buffered before).Receives messages log opened mid) :
    opened = .buffered (before ++ messages) := by
  cases received with
  | kept _ _ => rfl

/-- Other records in the log are no messages. -/
theorem Receives.continues (received : collector.Receives messages log opened mid)
    (continues : mid.Continues later) : collector.Receives messages log opened later := by
  cases received with
  | kept before silent => exact .kept before (continues.diagnostics_eq.trans silent)
  | passed written => exact .passed (continues.diagnostics_eq.trans written)

theorem Receives.trans (first : collector.Receives messages log opened mid)
    (second : opened.Receives others mid closed later) :
    collector.Receives (messages ++ others) log closed later := by
  cases first with
  | kept before silent =>
      cases second with
      | kept _ stillSilent =>
          rw [List.append_assoc]
          exact .kept before (stillSilent.trans silent)
  | passed written =>
      cases second with
      | passed alsoWritten =>
          refine .passed ?_
          rw [alsoWritten, written, List.map_append, List.append_assoc]

end Collector

/-! ### Messages about the module -/

/-- What is said of a node: nothing, unless it is a property. -/
def Tree.propertyMessage? (tree : Tree) (id : NodeId) : Option Message :=
  match tree.node? id with
  | some node =>
      if node.tag = .property then
        some ⟨.logging, "prop found: " ++ node.name.text ++ " with annotation SuspendProp? " ++
          if .suspendProp ∈ node.annotations.tags then "true" else "false"⟩
      else none
  | none => none

/-- The messages before anything is generated into a module, of which the text and the messages
about its properties are given. -/
def Config.announced (config : Config) (text : String) (properties : List Message) :
    List Message :=
  [⟨.info, "Argument 'string' = " ++ config.string⟩,
    ⟨.info, "Argument 'file' = " ++ config.file⟩] ++
    if config.dumpTree then ⟨.logging, text⟩ :: properties else []

variable {tree : Tree}

theorem Tree.map_noted?_message (tree : Tree) (id : NodeId) :
    (tree.noted? .suspendProp id).map (fun found => found.message .suspendProp) =
      tree.propertyMessage? id := by
  have spelled : " with annotation SuspendProp? " =
      " with annotation " ++ AnnotationTag.suspendProp.text ++ "? " := by decide
  unfold noted? propertyMessage?
  cases tree.node? id with
  | none => rfl
  | some node =>
      dsimp only
      split
      · rw [spelled]
        simp only [Option.map_some, FoundProperty.message, boolText, Annotations.contains_iff,
          String.append_assoc]
      · rfl

theorem severity_of_propertyMessage? {id : NodeId} {message : Message}
    (said : tree.propertyMessage? id = some message) : message.severity = .logging := by
  unfold Tree.propertyMessage? at said
  split at said
  · split at said
    · cases said
      rfl
    · cases said
  · cases said

/-- **A module is shown as its text and its properties**, neither of which is ever refused. -/
theorem openingMessages_eq (forest : tree.IsForest) :
    ∃ text order, tree.dumpWith .braces .root "" = .ok text ∧ tree.preorder .root = .ok order ∧
      (order.Nodup ∧ ∀ low, low ∈ order ↔ tree.Above .root low) ∧
      ∀ config : Config, config.openingMessages tree =
        config.announced text (order.filterMap tree.propertyMessage?) := by
  obtain ⟨text, dumped, -⟩ := forest.dumpWith_iff forest.root_there .braces ""
  obtain ⟨order, listed, subtree, searched⟩ :=
    forest.exists_properties forest.root_there .suspendProp
  refine ⟨text, order, dumped, listed, subtree, fun config => ?_⟩
  have shown : tree.shownMessage = ⟨.logging, text⟩ := by
    unfold Tree.shownMessage
    rw [dumped]
  have properties : tree.propertyMessages .suspendProp = order.filterMap tree.propertyMessage? := by
    unfold Tree.propertyMessages
    rw [searched]
    dsimp only
    rw [List.map_filterMap]
    exact List.filterMap_congr fun id _ => tree.map_noted?_message id
  unfold Config.openingMessages Config.announced
  rw [shown, properties]

/-- No message is a warning. -/
theorem not_warning (config : Config) (text : String) (order : List NodeId)
    (outcome : Except TreeError Unit) :
    ∀ message ∈ config.announced text (order.filterMap tree.propertyMessage?) ++ concluded outcome,
      message.severity ≠ .warning := by
  have shown : ∀ message ∈ (⟨.logging, text⟩ : Message) :: order.filterMap tree.propertyMessage?,
      message.severity ≠ .warning := by
    refine List.forall_mem_cons.mpr ⟨nofun, fun message listed => ?_⟩
    obtain ⟨id, -, said⟩ := List.mem_filterMap.mp listed
    rw [severity_of_propertyMessage? said]
    exact nofun
  refine List.forall_mem_append.mpr ⟨List.forall_mem_append.mpr ⟨?_, ?_⟩, ?_⟩
  · exact List.forall_mem_cons.mpr ⟨nofun, List.forall_mem_singleton.mpr nofun⟩
  · split
    · exact shown
    · exact nofun
  · cases outcome with
    | ok _ => exact List.forall_mem_singleton.mpr nofun
    | error _ => exact nofun

/-- **All messages of a run**: those about the module, and the one about the outcome. -/
theorem generate_receives (config : Config) (context : Context) (collector : Collector)
    {workspace : Workspace} (forest : workspace.tree.IsForest) :
    let run := generate config context collector workspace
    collector.Receives (config.openingMessages workspace.tree ++ concluded run.1) workspace.log
      run.2.1 run.2.2.log := by
  intro run
  have opening := collector.receives_report (config.openingMessages workspace.tree) workspace.log
  have continues := (Template.run_ends forest context workspace.supply
    (collector.report (config.openingMessages workspace.tree) workspace.log).2).2
  rw [show run = _ from generate_eq config context collector workspace]
  exact (opening.continues continues).trans (Collector.receives_report _ _ _)

/-! ### Trees up to the identities of symbols -/

/-- A symbol without its identity. -/
def Symbol.anonymous (symbol : Symbol) : Symbol := { symbol with id := ⟨0⟩ }

/-- What a node is, up to the identities of symbols. -/
def NodeKind.anonymous : NodeKind → NodeKind
  | .function symbol visibility modality => .function symbol.anonymous visibility modality
  | .property symbol visibility modality isVar =>
      .property symbol.anonymous visibility modality isVar
  | .getter symbol owner => .getter symbol.anonymous owner.anonymous
  | .setter symbol owner => .setter symbol.anonymous owner.anonymous
  | .parameter symbol index => .parameter symbol.anonymous index
  | .call callee => .call callee.anonymous
  | .ret target => .ret target.anonymous
  | .getValue target => .getValue target.anonymous
  | kind => kind

/-- A node up to the identities of symbols. -/
def Node.anonymous (node : Node) : Node := { node with kind := node.kind.anonymous }

/-- A tree up to the identities of symbols. -/
def Tree.anonymous (tree : Tree) : Tree := ⟨tree.nodes.map Node.anonymous⟩

theorem Tree.anonymous_extend (tree : Tree) (nodes : List Node) :
    (tree.extend nodes).anonymous = tree.anonymous.extend (nodes.map Node.anonymous) := by
  simp [extend, anonymous]

namespace Template

/-- The tree that a run leaves. -/
def left (context : Context) (supply : SymbolSupply) (tree : Tree) : Tree :=
  match tree.checkNotGenerated, context.printers with
  | .ok _, [printer] =>
      if printer.result.classifier ∈ context.types.classes then
        (tree.adopt [⟨tree.size⟩, ⟨tree.size + 2⟩]).extend
          (declarationNodes tree.size supply printer (underModule ∘ annotated))
      else tree.extend (abandonedNodes tree.size supply)
  | _, _ => tree

variable {context : Context} {supply : SymbolSupply} {after : Tree}
  {outcome : Except TreeError Unit}

/-- **The tree that is left depends on the context, the supply and the tree only.** -/
theorem Ends.after_eq (forest : tree.IsForest) (ends : Ends context supply tree outcome after) :
    after = left context supply tree := by
  obtain ⟨root, found⟩ := Tree.node?_eq_some_of_lt forest.root_there
  unfold left
  cases ends with
  | generated module there again => rw [Tree.checkNotGenerated_error there again]
  | noPrinter fresh none => rw [Tree.checkNotGenerated_ok found fresh, none]
  | manyPrinters fresh many =>
      rw [Tree.checkNotGenerated_ok found fresh]
      rcases printers : context.printers with _ | ⟨first, _ | ⟨second, rest⟩⟩
      · rfl
      · rw [printers] at many
        exact absurd many (Nat.lt_irrefl 1)
      · rfl
  | unknownType fresh printer one unknown =>
      rw [Tree.checkNotGenerated_ok found fresh, one]
      exact (if_neg unknown).symm
  | done fresh printer one known =>
      rw [Tree.checkNotGenerated_ok found fresh, one]
      exact (if_pos known).symm

/-- The supply is seen in the identities of new symbols only. -/
theorem anonymous_left (context : Context) (supply other : SymbolSupply) (tree : Tree) :
    (left context supply tree).anonymous = (left context other tree).anonymous := by
  unfold left
  split
  · split
    · rw [Tree.anonymous_extend, Tree.anonymous_extend]
      rfl
    · rw [Tree.anonymous_extend, Tree.anonymous_extend]
      rfl
  · rfl

end Template

/-- **What a run reports**, in any tree that a host can come to, with any configuration and in any
context. The collector is handed the two arguments; if the module is to be shown, the text of the
module with braces and a message for each property below the module, each once and in the order of
the listing; and, exactly if the run succeeds, a last message that says so. There is no warning.

None of this makes a difference to the run: over an equal tree, any other configuration, collector
and log give the same outcome and the same tree, up to the identities that the supply has for the
new symbols. -/
theorem generate_reports {workspace : Workspace} (reachable : workspace.Reachable)
    (config : Config) (context : Context) (collector : Collector) :
    let tree := workspace.tree
    let run := generate config context collector workspace
    (∃ text order, tree.dumpWith .braces .root "" = .ok text ∧ tree.preorder .root = .ok order ∧
      (order.Nodup ∧ ∀ low, low ∈ order ↔ tree.Above .root low) ∧
      let messages :=
        config.announced text (order.filterMap tree.propertyMessage?) ++ concluded run.1
      collector.Receives messages workspace.log run.2.1 run.2.2.log ∧
        ∀ message ∈ messages, message.severity ≠ .warning) ∧
    ∀ (other : Workspace) (config : Config) (collector : Collector), other.tree = tree →
      let again := generate config context collector other
      again.1 = run.1 ∧ again.2.2.tree.anonymous = run.2.2.tree.anonymous ∧
        (other.supply = workspace.supply → again.2.2.tree = run.2.2.tree) := by
  intro tree run
  have forest : workspace.tree.IsForest := reachable.isForest
  constructor
  · obtain ⟨text, order, dumped, listed, subtree, opening⟩ := openingMessages_eq forest
    refine ⟨text, order, dumped, listed, subtree, ?_, not_warning config text order run.1⟩
    rw [← opening config]
    exact generate_receives config context collector forest
  · intro other config' collector' same again
    have otherForest : other.tree.IsForest := same ▸ forest
    have ended : run.2.2.tree = Template.left context workspace.supply tree :=
      (generate_ends config context collector forest).after_eq forest
    have endedAgain : again.2.2.tree = Template.left context other.supply tree :=
      same ▸ (generate_ends config' context collector' otherForest).after_eq otherForest
    refine ⟨?_, ?_, fun supplied => ?_⟩
    · calc again.1 = Template.verdict context other.tree :=
            generate_eq_verdict config' context collector' otherForest
        _ = Template.verdict context tree := by rw [same]
        _ = run.1 := (generate_eq_verdict config context collector forest).symm
    · rw [ended, endedAgain]
      exact Template.anonymous_left context other.supply workspace.supply tree
    · rw [ended, endedAgain, supplied]

/-- A module with a property in which there is another one, which was made before it. -/
def Workspace.ofProperties : Workspace :=
  (ofModule (.identifier "app") {} []).after
    [.create .builtin (.property ⟨⟨⟨"depth"⟩, .property, [], .int⟩, ⟨7⟩⟩ .publicAccess .final false)
        (.identifier "depth") .int,
      .create .builtin (.property ⟨⟨⟨"level"⟩, .property, [], .int⟩, ⟨8⟩⟩ .publicAccess .final true)
        (.identifier "level") .int,
      .append ⟨2⟩ ⟨1⟩, .append .root ⟨2⟩, .annotate ⟨2⟩ .suspendProp []]

/-- The text of this module with braces. -/
def textOfProperties : String :=
  "MODULE name:app \x7b\n" ++
    "  PROPERTY name:level visibility:public modality:final type:Int var @SuspendProp \x7b\n" ++
    "    PROPERTY name:depth visibility:public modality:final type:Int val \x7b\n" ++
    "    \x7d\n" ++
    "  \x7d\n" ++
    "\x7d\n"

/-- A run that shows this module and succeeds, and the same run with nothing shown. -/
theorem generate_reports_properties :
    Workspace.ofProperties.Reachable ∧
      (generate ⟨"a", "b", true⟩ (Context.standard {}).1 (.buffered []) .ofProperties).2.1 =
        .buffered
          [⟨.info, "Argument 'string' = a"⟩, ⟨.info, "Argument 'file' = b"⟩,
            ⟨.logging, textOfProperties⟩,
            ⟨.logging, "prop found: level with annotation SuspendProp? true"⟩,
            ⟨.logging, "prop found: depth with annotation SuspendProp? false"⟩,
            ⟨.info, "generated 2 declarations"⟩] ∧
      (generate {} (Context.standard {}).1 .log .ofProperties).2.2.tree =
        (generate ⟨"a", "b", true⟩ (Context.standard {}).1 (.buffered [])
          .ofProperties).2.2.tree := by
  have reachable : Workspace.ofProperties.Reachable := Workspace.reachable_after _ _ _ _
  have succeeded : (generate ⟨"a", "b", true⟩ (Context.standard {}).1 (.buffered [])
      .ofProperties).1 = .ok () :=
    (generate_eq_verdict _ _ _ reachable.isForest).trans rfl
  have shown : Workspace.ofProperties.tree.dumpWith .braces .root "" = .ok textOfProperties := by
    decide +kernel
  have inOrder : Workspace.ofProperties.tree.preorder .root = .ok [.root, ⟨2⟩, ⟨1⟩] := rfl
  obtain ⟨⟨text, order, dumped, listed, -, received, -⟩, indifferent⟩ :=
    generate_reports reachable ⟨"a", "b", true⟩ (Context.standard {}).1 (.buffered [])
  have collected := received.eq_buffered
  rw [← Except.ok.inj (shown.symm.trans dumped), ← Except.ok.inj (inOrder.symm.trans listed)]
    at collected
  refine ⟨reachable, collected.trans (congrArg Collector.buffered ?_),
    (indifferent _ {} .log rfl).2.2 rfl⟩
  rw [succeeded]
  decide +kernel

end DeclTree
