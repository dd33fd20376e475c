/-
**The text of a subtree is the recursion over it.**

`Tree.SetsOut` is the recursion as rules: a node stands on a line behind its indent, what is below
it follows behind two blanks more, and in the layout with braces a line with the indent of the node
itself closes it. A dump writes its text in the course of a traversal instead, which hands the
indent down and comes back to each node for the closing line.

* `Tree.setOut`: the recursion on a grove;
* `setsOut_grove_iff`: the rules have this outcome, and no other;
* `visit_dumper`: a traversal of the grove writes it behind what was written before;
* `IsForest.dumpWith_iff`, `dump_setsOut`: **the text is what the rules say**. Each of its lines is
  that of a node, none is a remark that a node could not be shown.
-/

import DeclTree.Proofs.Tree.Shown
import DeclTree.Proofs.Tree.Walk
import DeclTree.Tree.Dump

namespace DeclTree

variable {tree : Tree}

namespace Tree

/-- Nodes are set out one after the other in some layout, behind some indent. -/
inductive SetsOut (tree : Tree) : Layout → String → List NodeId → String → Prop
  | nil {layout : Layout} {indent : String} : SetsOut tree layout indent [] ""
  /-- The line of the node, and all below it. -/
  | plain {indent inside others : String} {id : NodeId} {rest : List NodeId} {node : Node}
      (found : tree.node? id = some node)
      (below : SetsOut tree .plain ("  " ++ indent) node.children inside)
      (beside : SetsOut tree .plain indent rest others) :
      SetsOut tree .plain indent (id :: rest) (indent ++ node.line ++ "\n" ++ inside ++ others)
  /-- The line of the node with an opening brace, all below it, and the closing brace. -/
  | braces {indent inside others : String} {id : NodeId} {rest : List NodeId} {node : Node}
      (found : tree.node? id = some node)
      (below : SetsOut tree .braces ("  " ++ indent) node.children inside)
      (beside : SetsOut tree .braces indent rest others) :
      SetsOut tree .braces indent (id :: rest)
        (indent ++ node.line ++ " \x7b\n" ++ inside ++ indent ++ "\x7d\n" ++ others)

/-- The text of a grove. -/
def setOut (tree : Tree) (layout : Layout) : Grove → String → String
  | .bare, _ => ""
  | .plant id below next, indent =>
      match tree.node? id with
      | none => setOut tree layout next indent
      | some node =>
          indent ++ node.line ++ layout.opening ++ setOut tree layout below (childIndent indent) ++
            layout.closing indent ++ setOut tree layout next indent

theorem setOut_plant {id : NodeId} {node : Node} (found : tree.node? id = some node)
    (layout : Layout) (below next : Grove) (indent : String) :
    tree.setOut layout (.plant id below next) indent =
      indent ++ node.line ++ layout.opening ++ tree.setOut layout below (childIndent indent) ++
        layout.closing indent ++ tree.setOut layout next indent := by
  rw [setOut, found]

/-- On a grove that stands in the tree the rules have one outcome. -/
theorem setsOut_grove_iff {grove : Grove} (stands : grove.StandsIn tree) (layout : Layout)
    (indent text : String) :
    tree.SetsOut layout indent grove.roots text ↔ text = tree.setOut layout grove indent := by
  induction grove generalizing indent text with
  | bare =>
      refine ⟨fun sets => ?_, fun same => ?_⟩
      · cases sets
        rfl
      · rw [same]
        exact .nil
  | plant id below next belowIh nextIh =>
      obtain ⟨there, listed, belowStands, nextStands⟩ := stands
      obtain ⟨node, found⟩ := node?_eq_some_of_lt there
      have children : node.children = below.roots := by rw [listed, childrenOf_eq found]
      rw [setOut_plant found, Grove.roots]
      refine ⟨fun sets => ?_, fun same => ?_⟩
      · cases sets with
        | plain found' below' beside' =>
            cases Option.some.inj (found.symm.trans found')
            rw [children] at below'
            rw [(belowIh belowStands _ _).mp below', (nextIh nextStands _ _).mp beside']
            simp only [Layout.opening, Layout.closing, childIndent, String.append_empty]
        | braces found' below' beside' =>
            cases Option.some.inj (found.symm.trans found')
            rw [children] at below'
            rw [(belowIh belowStands _ _).mp below', (nextIh nextStands _ _).mp beside']
            simp only [Layout.opening, Layout.closing, childIndent, String.append_assoc]
      · rw [same]
        have inside := (belowIh belowStands (childIndent indent) _).mpr rfl
        have beside := (nextIh nextStands indent _).mpr rfl
        rw [← children] at inside
        cases layout with
        | plain =>
            have sets := SetsOut.plain found inside beside
            simpa only [Layout.opening, Layout.closing, String.append_empty] using sets
        | braces =>
            have sets := SetsOut.braces found inside beside
            simpa only [Layout.opening, Layout.closing, String.append_assoc] using sets

/-! ### Traversal -/

/-- A node that is there is shown by its line. -/
theorem lineOrRemark_eq {id : NodeId} {node : Node} (found : tree.node? id = some node) :
    tree.lineOrRemark id = node.line := by
  unfold lineOrRemark Tree.line
  rw [(node_eq_ok_iff tree id node).mpr found]
  rfl

/-- Nodes of all kinds are written alike. -/
theorem handler_dumper (layout : Layout) :
    (dumper layout).handler = fun _ => (dumper layout).element := by
  funext tag
  cases tag <;> rfl

/-- **A traversal writes the text of a grove** behind what was written before. -/
theorem visit_dumper {grove : Grove} (stands : grove.StandsIn tree) (layout : Layout)
    (indent out : String) :
    tree.visit (dumper layout) grove indent out = out ++ tree.setOut layout grove indent := by
  induction grove generalizing indent out with
  | bare => exact (String.append_empty).symm
  | plant id below next belowIh nextIh =>
      obtain ⟨there, _, belowStands, nextStands⟩ := stands
      obtain ⟨node, found⟩ := node?_eq_some_of_lt there
      rw [visit, found, handler_dumper, setOut_plant found]
      show tree.visit (dumper layout) next indent
        (tree.visit (dumper layout) below (childIndent indent)
          (out ++ indent ++ tree.lineOrRemark id ++ layout.opening) ++ layout.closing indent) = _
      rw [lineOrRemark_eq found, belowIh belowStands, nextIh nextStands]
      simp only [String.append_assoc]

namespace IsForest

theorem dumpWith_eq (forest : tree.IsForest) {id : NodeId} {below : Grove}
    (stands : (Grove.single id below).StandsIn tree) (layout : Layout) (indent : String) :
    tree.dumpWith layout id indent =
      .ok (tree.setOut layout (Grove.single id below) indent) := by
  unfold dumpWith
  rw [walk_eq stands (forest.length_order_le stands), visit_dumper stands, String.empty_append]

/-- **The text of a node is what the rules say**, and they say one thing. -/
theorem dumpWith_iff (forest : tree.IsForest) {id : NodeId} (there : id.index < tree.size)
    (layout : Layout) (indent : String) :
    ∃ text, tree.dumpWith layout id indent = .ok text ∧
      ∀ other, tree.SetsOut layout indent [id] other ↔ other = text := by
  obtain ⟨below, stands⟩ := forest.exists_grove there
  exact ⟨_, forest.dumpWith_eq stands layout indent, setsOut_grove_iff stands layout indent⟩

end IsForest

end Tree

/-- **The text of a subtree is the recursion over it**, in any tree that a host can come to, for
each of its nodes, in both layouts and behind any indent; a dump is the plain text without indent.
None of them is ever refused, and no node below is replaced by a remark. -/
theorem dump_setsOut {workspace : Workspace} (reachable : workspace.Reachable) {id : NodeId}
    (there : id.index < workspace.tree.size) :
    let tree := workspace.tree
    (∀ layout indent, ∃ text, tree.dumpWith layout id indent = .ok text ∧
      ∀ other, tree.SetsOut layout indent [id] other ↔ other = text) ∧
    (∃ text, tree.dump id = .ok text ∧
      ∀ other, tree.SetsOut .plain "" [id] other ↔ other = text) ∧
    ∀ low, tree.Above id low → ∃ line, tree.line low = .ok line ∧ tree.lineOrRemark low = line := by
  intro tree
  have forest : tree.IsForest := reachable.isForest
  refine ⟨forest.dumpWith_iff there, forest.dumpWith_iff there .plain "", fun low above => ?_⟩
  obtain ⟨node, found⟩ := Tree.node?_eq_some_of_lt (Tree.lt_of_above above there)
  refine ⟨node.line, ?_, Tree.lineOrRemark_eq found⟩
  unfold Tree.line
  rw [(Tree.node_eq_ok_iff tree low node).mpr found]
  rfl

/-- With braces, the blanks of each level stand before those of the level above. -/
theorem dump_setsOut_body :
    let tree := Workspace.ofBody.tree
    Workspace.ofBody.Reachable ∧ (⟨1⟩ : NodeId).index < tree.size ∧
      tree.SetsOut .braces "\t" [⟨1⟩]
        ("\tBLOCK_BODY \x7b\n" ++
          "  \tCONST type:Int value=4 \x7b\n" ++
          "  \t\x7d\n" ++
          "  \tCONST type:String value=\"x\" @Generated \x7b\n" ++
          "  \t\x7d\n" ++
          "\t\x7d\n") := by
  have reachable : Workspace.ofBody.Reachable := Workspace.reachable_after _ _ _ _
  have there : (⟨1⟩ : NodeId).index < Workspace.ofBody.tree.size := by decide
  obtain ⟨text, dumped, sets⟩ := (dump_setsOut reachable there).1 .braces "\t"
  refine ⟨reachable, there, (sets _).mpr (Except.ok.inj (Eq.trans ?_ dumped))⟩
  decide +kernel

end DeclTree
