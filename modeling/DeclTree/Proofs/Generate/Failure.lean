/-
**A run of the generator that fails attaches nothing.**

Wherever a run fails, the tree that it leaves is the old one with some nodes more
(`Template.Ends.keeps`): the last thing that can fail is the call in the setter, and until then the
nodes that were made are attached to each other alone. So nothing that was in the tree has changed,
and a later run ends as if the failed one had never been (`generate_error_untouched`), because what
decides on it, `Template.verdict`, looks at the module and its children only.
-/

import DeclTree.Proofs.Generate.Outcome

namespace DeclTree

variable {tree other after : Tree} {context : Context} {supply : SymbolSupply}

/-! ### What decides on a run -/

namespace Template

/-- The three conditions of a run, in the order in which they are checked. -/
def verdict (context : Context) (tree : Tree) : Except TreeError Unit := do
  tree.checkNotGenerated
  let printer ← context.symbols.resolve println Symbol.takesAnything
  context.types.resolve printer.result

/-- **A run ends as the conditions say.** -/
theorem Ends.verdict_eq (forest : tree.IsForest) {outcome : Except TreeError Unit}
    (ends : Ends context supply tree outcome after) : verdict context tree = outcome := by
  obtain ⟨root, found⟩ := Tree.node?_eq_some_of_lt forest.root_there
  unfold verdict
  rw [Context.resolve_printers]
  cases ends with
  | generated module there again =>
      rw [Tree.checkNotGenerated_error there again]
      rfl
  | noPrinter fresh none =>
      rw [Tree.checkNotGenerated_ok found fresh, none]
      rfl
  | manyPrinters fresh many =>
      rw [Tree.checkNotGenerated_ok found fresh]
      rcases printers : context.printers with _ | ⟨first, _ | ⟨second, rest⟩⟩
      · rw [printers] at many
        exact absurd many (Nat.not_succ_le_zero 1)
      · rw [printers] at many
        exact absurd many (Nat.lt_irrefl 1)
      · rfl
  | unknownType fresh printer one unknown =>
      rw [Tree.checkNotGenerated_ok found fresh, one]
      exact if_neg unknown
  | done fresh printer one known =>
      rw [Tree.checkNotGenerated_ok found fresh, one]
      exact if_pos known

end Template

/-- **The conditions decide on a run**, with any collector and configuration. -/
theorem generate_eq_verdict (config : Config) (context : Context) (collector : Collector)
    {workspace : Workspace} (forest : workspace.tree.IsForest) :
    (generate config context collector workspace).1 = Template.verdict context workspace.tree :=
  ((generate_ends config context collector forest).verdict_eq forest).symm

/-- The first condition depends on old nodes only. -/
theorem Tree.Keeps.checkNotGenerated_eq (keeps : tree.Keeps other) (forest : tree.IsForest) :
    other.checkNotGenerated = tree.checkNotGenerated := by
  obtain ⟨root, found⟩ := node?_eq_some_of_lt forest.root_there
  have children : root.children.filterMap other.node? = root.children.filterMap tree.node? :=
    List.filterMap_congr fun child listed =>
      keeps child (forest.child_there (by rwa [childrenOf_eq found]))
  rw [Tree.checkNotGenerated_eq found,
    Tree.checkNotGenerated_eq ((keeps .root forest.root_there).trans found), children]

theorem Tree.Keeps.verdict_eq (keeps : tree.Keeps other) (forest : tree.IsForest)
    (context : Context) : Template.verdict context other = Template.verdict context tree := by
  unfold Template.verdict
  rw [keeps.checkNotGenerated_eq forest]

/-! ### Runs that fail -/

/-- A run that fails leaves all nodes as they are. -/
theorem Template.Ends.keeps {error : TreeError}
    (ends : Template.Ends context supply tree (.error error) after) : tree.Keeps after := by
  cases ends with
  | generated _ _ _ => exact fun _ _ => rfl
  | noPrinter _ _ => exact fun _ _ => rfl
  | manyPrinters _ _ => exact fun _ _ => rfl
  | unknownType _ _ _ _ => exact Tree.keeps_extend tree _

/-- **All or nothing.** A run that fails, on any module that a host has worked on and with any
context, leaves every node as it was; what it made is not reached from there and changes no answer
about it. Any later run ends as it would have ended without it. -/
theorem generate_error_untouched (name : Name) (supply : SymbolSupply) (log : Log)
    (acts : List Act) (config : Config) (context : Context) (collector : Collector)
    (error : TreeError)
    (failed : (generate config context collector
      ((Workspace.ofModule name supply log).after acts)).1 = .error error) :
    let before := (Workspace.ofModule name supply log).after acts
    let left := (generate config context collector before).2.2
    before.tree.Untouched left.tree ∧
      ∀ config context collector,
        (generate config context collector left).1 =
          (generate config context collector before).1 := by
  intro before left
  have forest : before.tree.IsForest :=
    Workspace.isForest_of_after (Tree.isForest_ofModule name)
  have leftForest : left.tree.IsForest :=
    forest.grows (generate_grows config context collector before)
  have ends := generate_ends config context collector forest
  rw [failed] at ends
  have keeps : before.tree.Keeps left.tree := ends.keeps
  refine ⟨keeps.untouched forest, fun config context collector => ?_⟩
  rw [generate_eq_verdict config context collector leftForest,
    generate_eq_verdict config context collector forest, keeps.verdict_eq forest]

/-- A context with one declaration that prints any value, of a type that it does not know. -/
def Context.unknownPrinter : Context :=
  ⟨.builtin, .insert .empty
    ⟨⟨println, .function, [Ty.anyNullable], .ofClass ⟨"user.Missing"⟩⟩, ⟨0⟩⟩⟩

/-- The run on an empty module fails when the setter is half built. -/
theorem generate_unknownPrinter_untouched :
    let before := (Workspace.ofModule (.identifier "app") {} []).after []
    let failed := generate {} .unknownPrinter (.buffered []) before
    failed.1 = .error (.unresolved ⟨"user.Missing"⟩) ∧ before.tree.Untouched failed.2.2.tree ∧
      ∀ config context collector,
        (generate config context collector failed.2.2).1 =
          (generate config context collector before).1 := by
  have failed : (generate {} .unknownPrinter (.buffered [])
      ((Workspace.ofModule (.identifier "app") {} []).after [])).1 =
        .error (.unresolved ⟨"user.Missing"⟩) :=
    (generate_eq_verdict {} .unknownPrinter _ (Tree.isForest_ofModule _)).trans rfl
  exact ⟨failed, generate_error_untouched _ {} [] [] {} .unknownPrinter _ _ failed⟩

end DeclTree
