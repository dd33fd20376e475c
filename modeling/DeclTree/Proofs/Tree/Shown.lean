/-
**The view of a subtree is the recursion over it.**

`Tree.Shows` is the recursion as rules: a node is shown with its kind, name, type and annotations
and with its children as they are shown. `Tree.view` goes through the listed nodes from the last to
the first instead, and keeps the views that no parent has taken yet. What is ready at any time
are the views of some nodes that stand side by side, in their order, before those of what comes
later in the listing (`assembleAll_grove`). So a parent finds the views of its children in front and
takes just these (`takeAll_front`), and the view that is left in the end is that of the first node.

* `Tree.shown`: the recursion on a grove, each of whose nodes has to be listed once;
* `shows_grove_iff`: the rules have this outcome, and no other;
* `IsForest.view_iff`, `view_shows`: **the view is what the rules say**, and it is never refused.
-/

import DeclTree.Proofs.Host.Run
import DeclTree.Proofs.Tree.Grove
import DeclTree.Tree.View

namespace DeclTree

variable {tree : Tree}

namespace Tree

/-- Nodes are shown one after the other. -/
inductive Shows (tree : Tree) : List NodeId → List View → Prop
  | nil : Shows tree [] []
  | cons {id : NodeId} {rest : List NodeId} {node : Node} {children views : List View}
      (found : tree.node? id = some node) (below : Shows tree node.children children)
      (beside : Shows tree rest views) :
      Shows tree (id :: rest)
        (.node node.tag.text node.name.text node.ty.text
          (node.annotations.tags.map AnnotationTag.text) children :: views)

/-- The roots of a grove, each with its view. -/
def shown (tree : Tree) : Grove → List (NodeId × View)
  | .bare => []
  | .plant id below next =>
      match tree.node? id with
      | none => shown tree next
      | some node => (id, node.view ((shown tree below).map Prod.snd)) :: shown tree next

theorem map_fst_shown {grove : Grove} (stands : grove.StandsIn tree) :
    (tree.shown grove).map Prod.fst = grove.roots := by
  induction grove with
  | bare => rfl
  | plant id below next _ nextIh =>
      obtain ⟨there, _, _, nextStands⟩ := stands
      obtain ⟨node, found⟩ := node?_eq_some_of_lt there
      rw [shown, found]
      exact congrArg (id :: ·) (nextIh nextStands)

/-- On a grove that stands in the tree the rules have one outcome. -/
theorem shows_grove_iff {grove : Grove} (stands : grove.StandsIn tree) (views : List View) :
    tree.Shows grove.roots views ↔ views = (tree.shown grove).map Prod.snd := by
  induction grove generalizing views with
  | bare =>
      refine ⟨fun shows => ?_, fun same => ?_⟩
      · cases shows
        rfl
      · rw [same]
        exact .nil
  | plant id below next belowIh nextIh =>
      obtain ⟨there, listed, belowStands, nextStands⟩ := stands
      obtain ⟨node, found⟩ := node?_eq_some_of_lt there
      have children : node.children = below.roots := by rw [listed, childrenOf_eq found]
      rw [shown, found]
      refine ⟨fun shows => ?_, fun same => ?_⟩
      · cases shows with
        | cons found' inside beside =>
            cases Option.some.inj (found.symm.trans found')
            rw [children] at inside
            rw [(belowIh belowStands _).mp inside, (nextIh nextStands _).mp beside]
            rfl
      · rw [same]
        refine .cons found ?_ ((nextIh nextStands _).mpr rfl)
        rw [children]
        exact (belowIh belowStands _).mpr rfl

end Tree

/-! ### The views that are ready -/

namespace ReadyViews

theorem take?_cons (id : NodeId) (view : View) (others : List (NodeId × View)) :
    take? ⟨(id, view) :: others⟩ id = some (view, ⟨others⟩) := by
  simp [take?]

/-- **Views that stand in front are taken, and no others.** -/
theorem takeAll_front (front others : List (NodeId × View)) :
    takeAll ⟨front ++ others⟩ (front.map Prod.fst) = .ok (front.map Prod.snd, ⟨others⟩) := by
  induction front with
  | nil => rfl
  | cons entry front ih =>
      rw [List.map_cons, List.cons_append, takeAll, take?_cons]
      dsimp only
      rw [ih]
      rfl

theorem put_of_absent {others : List (NodeId × View)} {id : NodeId}
    (absent : ∀ entry ∈ others, entry.1 ≠ id) (view : View) :
    put ⟨others⟩ id view = ⟨(id, view) :: others⟩ := by
  unfold put
  rw [List.filter_eq_self.mpr fun entry member => decide_eq_true (absent entry member)]

end ReadyViews

namespace Tree

theorem roots_subset_order (grove : Grove) : grove.roots ⊆ grove.order := by
  induction grove with
  | bare => exact List.Subset.refl []
  | plant id below next _ nextIh =>
      refine List.cons_subset_cons id fun root member => ?_
      exact List.mem_append_right _ (nextIh member)

/-- The nodes whose views are ready are among those that were gone through. -/
theorem mem_of_shown {grove : Grove} (stands : grove.StandsIn tree) {rest : List NodeId}
    {ready : List (NodeId × View)} (keys : ∀ entry ∈ ready, entry.1 ∈ rest) :
    ∀ entry ∈ tree.shown grove ++ ready, entry.1 ∈ grove.order ++ rest := by
  intro entry member
  rcases List.mem_append.mp member with shown | old
  · have root : entry.1 ∈ grove.roots :=
      map_fst_shown stands ▸ List.mem_map_of_mem shown
    exact List.mem_append_left _ (roots_subset_order grove root)
  · exact List.mem_append_right _ (keys entry old)

/-- A node whose children are ready in front becomes ready itself, in their place. -/
theorem assemble_front {id : NodeId} {node : Node} (found : tree.node? id = some node)
    {front others : List (NodeId × View)} (children : front.map Prod.fst = node.children)
    (absent : ∀ entry ∈ others, entry.1 ≠ id) :
    tree.assemble id ⟨front ++ others⟩ =
      .ok ⟨(id, node.view (front.map Prod.snd)) :: others⟩ := by
  unfold assemble
  rw [(node_eq_ok_iff tree id node).mpr found]
  dsimp only
  rw [← children, ReadyViews.takeAll_front]
  exact congrArg Except.ok (ReadyViews.put_of_absent absent _)

/-- **When the nodes of a grove are gone through, the views of its roots are ready**, in front of
those that were ready before. No node is listed twice, so no view is lost to another one. -/
theorem assembleAll_grove {grove : Grove} (stands : grove.StandsIn tree) {rest : List NodeId}
    (nodup : (grove.order ++ rest).Nodup) {ready : List (NodeId × View)}
    (before : tree.assembleAll rest = .ok ⟨ready⟩) (keys : ∀ entry ∈ ready, entry.1 ∈ rest) :
    tree.assembleAll (grove.order ++ rest) = .ok ⟨tree.shown grove ++ ready⟩ := by
  induction grove generalizing rest ready with
  | bare => exact before
  | plant id below next belowIh nextIh =>
      obtain ⟨there, listed, belowStands, nextStands⟩ := stands
      obtain ⟨node, found⟩ := node?_eq_some_of_lt there
      rw [Grove.order, List.cons_append, List.append_assoc] at nodup ⊢
      obtain ⟨fresh, nodup⟩ := List.nodup_cons.mp nodup
      have beside : tree.assembleAll (next.order ++ rest) = .ok ⟨tree.shown next ++ ready⟩ :=
        nextIh nextStands nodup.of_append_right before keys
      have nextKeys := mem_of_shown nextStands keys
      have inside : tree.assembleAll (below.order ++ (next.order ++ rest)) =
          .ok ⟨tree.shown below ++ (tree.shown next ++ ready)⟩ :=
        belowIh belowStands nodup beside nextKeys
      have children : (tree.shown below).map Prod.fst = node.children := by
        rw [map_fst_shown belowStands, listed, childrenOf_eq found]
      have absent : ∀ entry ∈ tree.shown next ++ ready, entry.1 ≠ id := fun entry member same =>
        fresh (List.mem_append_right _ (same ▸ nextKeys entry member))
      rw [assembleAll, inside, shown, found]
      exact assemble_front found children absent

theorem view_eq {id : NodeId} {node : Node} {below : Grove}
    (stands : (Grove.single id below).StandsIn tree) (found : tree.node? id = some node)
    (nodup : (Grove.single id below).order.Nodup) :
    tree.view id = .ok (node.view ((tree.shown below).map Prod.snd)) := by
  have listing : tree.preorder id = .ok (Grove.single id below).order :=
    preorder_eq stands (length_le_size nodup (Grove.there_of_mem_order stands))
  have assembled : tree.assembleAll ((Grove.single id below).order ++ []) =
      .ok ⟨tree.shown (Grove.single id below) ++ []⟩ :=
    assembleAll_grove stands (by rwa [List.append_nil]) rfl
      fun _ member => absurd member List.not_mem_nil
  rw [List.append_nil, List.append_nil, Grove.single, shown, found] at assembled
  unfold view
  rw [listing, Grove.single]
  dsimp only
  rw [assembled]
  dsimp only
  rw [shown, ReadyViews.take?_cons]

namespace IsForest

/-- **The view is what the rules say of the node**, and they say one thing. -/
theorem view_iff (forest : tree.IsForest) {id : NodeId} (there : id.index < tree.size) :
    ∃ view, tree.view id = .ok view ∧ ∀ views, tree.Shows [id] views ↔ views = [view] := by
  obtain ⟨below, stands⟩ := forest.exists_grove there
  obtain ⟨node, found⟩ := node?_eq_some_of_lt there
  have nodup := Grove.nodup_order_single forest stands
  refine ⟨_, view_eq stands found nodup, fun views => ?_⟩
  have shows := shows_grove_iff stands views
  rwa [Grove.single, shown, found] at shows

/-- A node that does not exist has no view. -/
theorem view_of_absent (forest : tree.IsForest) {id : NodeId} (absent : tree.size ≤ id.index) :
    tree.view id = .error (.violation (.notInTree id)) := by
  have missing : tree.children id = .error (.violation (.notInTree id)) := by
    unfold children Tree.node
    rw [(node?_eq_none_iff tree id).mpr absent]
    rfl
  obtain ⟨fuel, size⟩ := Nat.exists_eq_add_of_lt forest.root_there
  unfold view preorder
  rw [size, preorderFrom, missing]

end IsForest

end Tree

/-- **The view of a node is the recursion over its subtree**, in any tree that a host can come to.
It is never refused: no node is met twice, none is left out, and the listing ends. Only of a node
that does not exist there is no view. -/
theorem view_shows {workspace : Workspace} (reachable : workspace.Reachable) (id : NodeId) :
    let tree := workspace.tree
    (id.index < tree.size →
      ∃ view, tree.view id = .ok view ∧ ∀ views, tree.Shows [id] views ↔ views = [view]) ∧
    (tree.size ≤ id.index → tree.view id = .error (.violation (.notInTree id))) :=
  ⟨reachable.isForest.view_iff, reachable.isForest.view_of_absent⟩

/-- A module beside which stands a body with a number and a text, the text marked as generated. -/
def Workspace.ofBody : Workspace :=
  (ofModule (.identifier "app") {} []).after
    [.create .builtin .body (.special "<body>") .unit,
      .create .builtin (.literal (.int 4)) (.special "<const>") .int, .append ⟨1⟩ ⟨2⟩,
      .create .builtin (.literal (.string "x")) (.special "<const>") .string, .append ⟨1⟩ ⟨3⟩,
      .annotate ⟨3⟩ .generated []]

theorem view_shows_body :
    let tree := Workspace.ofBody.tree
    Workspace.ofBody.Reachable ∧ (⟨1⟩ : NodeId).index < tree.size ∧
      tree.Shows [⟨1⟩] [.node "BLOCK_BODY" "<body>" "Unit" []
        [.node "CONST" "<const>" "Int" [] [],
          .node "CONST" "<const>" "String" ["Generated"] []]] := by
  have reachable : Workspace.ofBody.Reachable := Workspace.reachable_after _ _ _ _
  have there : (⟨1⟩ : NodeId).index < Workspace.ofBody.tree.size := by decide
  have viewed : Workspace.ofBody.tree.view ⟨1⟩ = .ok (.node "BLOCK_BODY" "<body>" "Unit" []
      [.node "CONST" "<const>" "Int" [] [],
        .node "CONST" "<const>" "String" ["Generated"] []]) := by rfl
  obtain ⟨view, found, shows⟩ := (view_shows reachable ⟨1⟩).1 there
  cases Except.ok.inj (viewed.symm.trans found)
  exact ⟨reachable, there, (shows _).mpr rfl⟩

end DeclTree
