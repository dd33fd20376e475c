/-
**The text of a subtree tells the subtree.**

Two subtrees are alike if they have the same shape and nodes at the same place have the same line
(`Tree.Alike`). Subtrees that are alike have one text. Conversely the text tells where each line
ends, as lines are unbroken, and how far in it stands, as no line starts with a blank; so it tells
which lines are those of children and which stand next to them.

* `margin_plant`: how far in the text of a grove stands is how far in its first node does;
* `alike_of_append_eq`: **groves with the same text are alike**, also if less indented text follows;
* `dump_eq_iff_alike`: so it is with dumps, each of which has one line for each node.
-/

import DeclTree.Proofs.Tree.Dump
import DeclTree.Proofs.Tree.Line

namespace DeclTree

open Text

/-! ### Indents -/

/-- An indent of some blanks. -/
def blanks (width : Nat) : String := String.ofList (List.replicate width ' ')

theorem toList_blanks (width : Nat) : (blanks width).toList = List.replicate width ' ' :=
  String.toList_ofList

theorem childIndent_blanks (width : Nat) : childIndent (blanks width) = blanks (width + 2) := by
  refine String.toList_inj.mp ?_
  rw [childIndent, String.toList_append, toList_blanks, toList_blanks, Nat.add_comm,
    List.replicate_add]
  rfl

/-- How far in a text stands: the number of blanks that it starts with. -/
def margin (text : List Char) : Nat := (text.takeWhile (· = ' ')).length

theorem margin_replicate_append {c : Char} (solid : c ≠ ' ') (width : Nat) (cs : List Char) :
    margin (List.replicate width ' ' ++ c :: cs) = width := by
  unfold margin
  rw [List.takeWhile_append_of_pos fun a member => by simp [List.eq_of_mem_replicate member],
    List.takeWhile_cons_of_neg (by simpa using solid), List.append_nil, List.length_replicate]

/-- Nothing follows, or a line that stands less far in. -/
def Outdents (width : Nat) (rest : List Char) : Prop := rest = [] ∨ margin rest < width

theorem Outdents.further {width : Nat} {rest : List Char} (outdents : Outdents width rest) :
    Outdents (width + 2) rest :=
  outdents.imp_right fun less => by omega

/-! ### Groves -/

namespace Tree

/-- Nodes of two trees that are alike, one by one: they have the same line, and their children are
alike. -/
inductive Alike (tree other : Tree) : List NodeId → List NodeId → Prop
  | nil : Alike tree other [] []
  | cons {id twin : NodeId} {rest others : List NodeId} {node like : Node}
      (found : tree.node? id = some node) (foundTwin : other.node? twin = some like)
      (line : node.line = like.line) (below : Alike tree other node.children like.children)
      (beside : Alike tree other rest others) : Alike tree other (id :: rest) (twin :: others)

/-- A node that the tree has is shown on one line. -/
def IsUnbroken (tree : Tree) (id : NodeId) : Prop :=
  ∀ node, tree.node? id = some node → node.IsUnbroken

theorem isUnbroken_of_nodes {tree : Tree} (unbroken : ∀ node ∈ tree.nodes, node.IsUnbroken)
    (id : NodeId) : tree.IsUnbroken id :=
  fun node found => unbroken node (Array.mem_of_getElem? found)

variable {tree other : Tree} {grove twins : Grove}

/-- Groves that are alike have one text. -/
theorem setOut_eq_of_alike (stands : grove.StandsIn tree) (twinsStand : twins.StandsIn other)
    (alike : tree.Alike other grove.roots twins.roots) (layout : Layout) (indent : String) :
    tree.setOut layout grove indent = other.setOut layout twins indent := by
  induction grove generalizing twins indent with
  | bare =>
      cases twins with
      | bare => rfl
      | plant twin under beside => nomatch alike
  | plant id below next belowIh nextIh =>
      obtain ⟨_, listed, belowStands, nextStands⟩ := stands
      cases twins with
      | bare => nomatch alike
      | plant twin under beside =>
          obtain ⟨_, twinListed, underStands, besideStands⟩ := twinsStand
          cases alike with
          | cons found foundTwin line inside others =>
              rw [← childrenOf_eq found, ← childrenOf_eq foundTwin, ← listed, ← twinListed]
                at inside
              rw [setOut_plant found, setOut_plant foundTwin, line,
                belowIh belowStands underStands inside, nextIh nextStands besideStands others]

/-- The plain text of a grove, character by character. -/
def chars (tree : Tree) (grove : Grove) (width : Nat) : List Char :=
  (tree.setOut .plain grove (blanks width)).toList

theorem chars_plant {id : NodeId} {node : Node} (found : tree.node? id = some node)
    (below next : Grove) (width : Nat) :
    tree.chars (.plant id below next) width =
      List.replicate width ' ' ++ (node.line.toList ++
        '\n' :: (tree.chars below (width + 2) ++ tree.chars next width)) := by
  unfold chars
  rw [setOut_plant found, childIndent_blanks]
  simp only [Layout.opening, Layout.closing, String.append_empty, String.toList_append,
    toList_blanks, List.append_assoc]
  rfl

/-- The text of a grove stands as far in as its nodes. -/
theorem margin_plant {id : NodeId} {below next : Grove}
    (stands : (Grove.plant id below next).StandsIn tree) (width : Nat) (rest : List Char) :
    margin (tree.chars (.plant id below next) width ++ rest) = width := by
  obtain ⟨node, found⟩ := node?_eq_some_of_lt stands.1
  obtain ⟨c, cs, starts, solid⟩ := node.line_eq_cons
  rw [chars_plant found, starts, List.append_assoc, List.cons_append]
  exact margin_replicate_append solid width _

theorem chars_plant_ne_nil {id : NodeId} {below next : Grove}
    (stands : (Grove.plant id below next).StandsIn tree) (width : Nat) (rest : List Char) :
    tree.chars (.plant id below next) width ++ rest ≠ [] := by
  obtain ⟨node, found⟩ := node?_eq_some_of_lt stands.1
  rw [chars_plant found]
  simp

/-- A grove that has nodes is not outdented with respect to itself. -/
theorem not_outdents_plant {id : NodeId} {below next : Grove}
    (stands : (Grove.plant id below next).StandsIn tree) (width : Nat) (rest : List Char) :
    ¬ Outdents width (tree.chars (.plant id below next) width ++ rest) := by
  rintro (empty | less)
  · exact chars_plant_ne_nil stands width rest empty
  · rw [margin_plant stands] at less
    exact Nat.lt_irrefl width less

/-- What follows the children of a node stands less far in than they do. -/
theorem outdents_chars (stands : grove.StandsIn tree) {width : Nat} {rest : List Char}
    (outdents : Outdents width rest) : Outdents (width + 2) (tree.chars grove width ++ rest) := by
  cases grove with
  | bare => exact outdents.further
  | plant id below next =>
      refine .inr ?_
      rw [margin_plant stands]
      omega

/-- **Groves with the same text are alike**, and the same follows them, if what follows stands less
far in. -/
theorem alike_of_append_eq (stands : grove.StandsIn tree) (twinsStand : twins.StandsIn other)
    (unbroken : ∀ id ∈ grove.order, tree.IsUnbroken id)
    (twinsUnbroken : ∀ id ∈ twins.order, other.IsUnbroken id) {width : Nat}
    {rest more : List Char} (outdents : Outdents width rest) (moreOutdents : Outdents width more)
    (same : tree.chars grove width ++ rest = other.chars twins width ++ more) :
    tree.Alike other grove.roots twins.roots ∧ rest = more := by
  induction grove generalizing twins width rest more with
  | bare =>
      cases twins with
      | bare => exact ⟨.nil, same⟩
      | plant twin under beside =>
          have follows : rest = other.chars (.plant twin under beside) width ++ more := same
          exact absurd (follows ▸ outdents) (not_outdents_plant twinsStand width more)
  | plant id below next belowIh nextIh =>
      cases twins with
      | bare =>
          have follows : tree.chars (.plant id below next) width ++ rest = more := same
          exact absurd (follows ▸ moreOutdents) (not_outdents_plant stands width rest)
      | plant twin under beside =>
          obtain ⟨there, listed, belowStands, nextStands⟩ := stands
          obtain ⟨twinThere, twinListed, underStands, besideStands⟩ := twinsStand
          obtain ⟨node, found⟩ := node?_eq_some_of_lt there
          obtain ⟨like, foundTwin⟩ := node?_eq_some_of_lt twinThere
          rw [Grove.order, List.forall_mem_cons, List.forall_mem_append] at unbroken twinsUnbroken
          obtain ⟨nodeUnbroken, belowUnbroken, nextUnbroken⟩ := unbroken
          obtain ⟨likeUnbroken, underUnbroken, besideUnbroken⟩ := twinsUnbroken
          rw [chars_plant found, chars_plant foundTwin] at same
          simp only [List.append_assoc, List.cons_append] at same
          obtain ⟨line, behind⟩ := Text.append_cons_inj
            (Node.unbroken_line (nodeUnbroken node found))
            (Node.unbroken_line (likeUnbroken like foundTwin)) (List.append_cancel_left same)
          -- The children end where a line stands less far in: that of a node next to them, or of
          -- what follows the grove.
          obtain ⟨inside, others⟩ := belowIh belowStands underStands belowUnbroken underUnbroken
            (outdents_chars nextStands outdents) (outdents_chars besideStands moreOutdents) behind
          obtain ⟨siblings, follow⟩ := nextIh nextStands besideStands nextUnbroken besideUnbroken
            outdents moreOutdents others
          rw [listed, twinListed, childrenOf_eq found, childrenOf_eq foundTwin] at inside
          exact ⟨.cons found foundTwin (String.toList_inj.mp line) inside siblings, follow⟩

/-! ### Lines -/

theorem unbroken_blanks_append {node : Node} (unbroken : node.IsUnbroken) (width : Nat) :
    Unbroken (blanks width ++ node.line) := by
  refine (unbroken_append_iff _ _).mpr ⟨?_, Node.unbroken_line unbroken⟩
  unfold Unbroken
  rw [toList_blanks]
  exact fun member => absurd (List.eq_of_mem_replicate member) (by decide)

/-- A text is one line, that of a node behind some blanks. -/
def IsLineOf (tree : Tree) (id : NodeId) (line : String) : Prop :=
  Unbroken line ∧ ∃ node width, tree.node? id = some node ∧ line = blanks width ++ node.line

/-- **The plain text of a grove has one line for each of its nodes**, in their order. -/
theorem exists_lines (stands : grove.StandsIn tree)
    (unbroken : ∀ id ∈ grove.order, tree.IsUnbroken id) (width : Nat) :
    ∃ lines, tree.setOut .plain grove (blanks width) = String.join (lines.map (· ++ "\n")) ∧
      List.Forall₂ tree.IsLineOf grove.order lines := by
  induction grove generalizing width with
  | bare => exact ⟨[], rfl, .nil⟩
  | plant id below next belowIh nextIh =>
      obtain ⟨there, _, belowStands, nextStands⟩ := stands
      obtain ⟨node, found⟩ := node?_eq_some_of_lt there
      rw [Grove.order, List.forall_mem_cons, List.forall_mem_append] at unbroken
      obtain ⟨nodeUnbroken, belowUnbroken, nextUnbroken⟩ := unbroken
      obtain ⟨inside, belowText, belowLines⟩ := belowIh belowStands belowUnbroken (width + 2)
      obtain ⟨others, nextText, nextLines⟩ := nextIh nextStands nextUnbroken width
      have isLine : tree.IsLineOf id (blanks width ++ node.line) :=
        ⟨unbroken_blanks_append (nodeUnbroken node found) width, node, width, found, rfl⟩
      refine ⟨(blanks width ++ node.line) :: (inside ++ others), ?_,
        .cons isLine (List.rel_append belowLines nextLines)⟩
      rw [setOut_plant found, childIndent_blanks, belowText, nextText, List.map_cons,
        List.map_append, String.join_cons, String.join_append]
      simp only [Layout.opening, Layout.closing, String.append_empty, String.append_assoc]

namespace IsForest

/-- A dump is the text of the grove of the node, which has all that the node is above. -/
theorem exists_dump (forest : tree.IsForest) {id : NodeId} (there : id.index < tree.size) :
    ∃ below : Grove, (Grove.single id below).StandsIn tree ∧
      tree.dump id = .ok (tree.setOut .plain (Grove.single id below) (blanks 0)) ∧
      ∀ low, low ∈ (Grove.single id below).order ↔ tree.Above id low := by
  obtain ⟨below, stands⟩ := forest.exists_grove there
  exact ⟨below, stands, forest.dumpWith_eq stands .plain "",
    Grove.mem_order_single_iff forest stands⟩

end IsForest

end Tree

/-- **The text of a subtree tells the subtree**: two dumps, of nodes of any trees that hosts can
come to, are the same exactly if the two subtrees have the same shape and the same lines at the same
places. What stands in the way of this are names with line breaks, so below both nodes there have to
be none; the texts of literals may have any. Such a dump has one line for each node of the subtree,
in the order of the listing. -/
theorem dump_eq_iff_alike {workspace other : Workspace} (reachable : workspace.Reachable)
    (otherReachable : other.Reachable) {id twin : NodeId}
    (there : id.index < workspace.tree.size) (twinThere : twin.index < other.tree.size)
    (unbroken : ∀ low, workspace.tree.Above id low → workspace.tree.IsUnbroken low)
    (twinUnbroken : ∀ low, other.tree.Above twin low → other.tree.IsUnbroken low) :
    (workspace.tree.dump id = other.tree.dump twin ↔
      workspace.tree.Alike other.tree [id] [twin]) ∧
    ∃ order lines, workspace.tree.preorder id = .ok order ∧
      (order.Nodup ∧ ∀ low, low ∈ order ↔ workspace.tree.Above id low) ∧
      workspace.tree.dump id = .ok (String.join (lines.map (· ++ "\n"))) ∧
      List.Forall₂ workspace.tree.IsLineOf order lines := by
  have forest := reachable.isForest
  obtain ⟨below, stands, dumped, covers⟩ := forest.exists_dump there
  obtain ⟨under, twinStands, twinDumped, twinCovers⟩ :=
    otherReachable.isForest.exists_dump twinThere
  have orderUnbroken : ∀ low ∈ (Grove.single id below).order, workspace.tree.IsUnbroken low :=
    fun low member => unbroken low ((covers low).mp member)
  have twinOrderUnbroken : ∀ low ∈ (Grove.single twin under).order, other.tree.IsUnbroken low :=
    fun low member => twinUnbroken low ((twinCovers low).mp member)
  refine ⟨⟨fun same => ?_, fun alike => ?_⟩, ?_⟩
  · rw [dumped, twinDumped] at same
    have chars : workspace.tree.chars (Grove.single id below) 0 ++ [] =
        other.tree.chars (Grove.single twin under) 0 ++ [] :=
      congrArg (· ++ []) (congrArg String.toList (Except.ok.inj same))
    exact (Tree.alike_of_append_eq stands twinStands orderUnbroken twinOrderUnbroken (.inl rfl)
      (.inl rfl) chars).1
  · rw [dumped, twinDumped, Tree.setOut_eq_of_alike stands twinStands alike]
  · obtain ⟨lines, text, each⟩ := Tree.exists_lines stands orderUnbroken 0
    exact ⟨_, lines, Tree.preorder_eq stands (forest.length_order_le stands),
      ⟨Grove.nodup_order_single forest stands, covers⟩,
      dumped.trans (congrArg Except.ok text), each⟩

/-- The body of `Workspace.ofBody`, of which the last node was made first. -/
def Workspace.ofBodyReordered : Workspace :=
  (ofModule (.identifier "app") {} []).after
    [.create .builtin (.literal (.string "x")) (.special "<const>") .string,
      .annotate ⟨1⟩ .generated [], .create .builtin .body (.special "<body>") .unit,
      .create .builtin (.literal (.int 4)) (.special "<const>") .int, .append ⟨2⟩ ⟨3⟩,
      .append ⟨2⟩ ⟨1⟩]

theorem dump_eq_iff_alike_reordered :
    let tree := Workspace.ofBody.tree
    let other := Workspace.ofBodyReordered.tree
    (Workspace.ofBody.Reachable ∧ Workspace.ofBodyReordered.Reachable ∧
      (⟨1⟩ : NodeId).index < tree.size ∧ (⟨2⟩ : NodeId).index < other.size ∧
      (∀ low, tree.Above ⟨1⟩ low → tree.IsUnbroken low) ∧
      ∀ low, other.Above ⟨2⟩ low → other.IsUnbroken low) ∧
    tree.Alike other [⟨1⟩] [⟨2⟩] := by
  intro tree other
  have reachable : Workspace.ofBody.Reachable := Workspace.reachable_after _ _ _ _
  have otherReachable : Workspace.ofBodyReordered.Reachable := Workspace.reachable_after _ _ _ _
  have there : (⟨1⟩ : NodeId).index < tree.size := by decide
  have twinThere : (⟨2⟩ : NodeId).index < other.size := by decide
  have unbroken : ∀ low, tree.Above ⟨1⟩ low → tree.IsUnbroken low :=
    fun low _ => Tree.isUnbroken_of_nodes (by decide +kernel) low
  have twinUnbroken : ∀ low, other.Above ⟨2⟩ low → other.IsUnbroken low :=
    fun low _ => Tree.isUnbroken_of_nodes (by decide +kernel) low
  have same : tree.dump ⟨1⟩ = other.dump ⟨2⟩ := by decide +kernel
  exact ⟨⟨reachable, otherReachable, there, twinThere, unbroken, twinUnbroken⟩,
    (dump_eq_iff_alike reachable otherReachable there twinThere unbroken twinUnbroken).1.mp same⟩

end DeclTree
