/-
**Traversals follow subtrees.**

`Tree.visit` is the recursion that a traversal carries out with a list of steps: a node is handed to
the handler of its kind, then what is below it is visited if the handler wants it, then the node is
left, and then come the nodes next to it. On a grove that stands in the tree:

* `walkSteps_grove`: the steps for a grove leave the state of the recursion. A slot that is in use
  (`SlotIn`) keeps its data whatever is given later (`dataAt_append`), so every step finds the data
  that the recursion hands down;
* `walk_eq`: so does a whole traversal, whose bound on the number of steps is never reached.
-/

import DeclTree.Tree.Walk
import DeclTree.Proofs.Tree.Grove

namespace DeclTree.Tree

variable {σ δ : Type}

/-- The state after a grove was visited with some data. -/
def visit (tree : Tree) (visitor : Visitor σ δ) : Grove → δ → σ → σ
  | .bare, _, state => state
  | .plant id below next, data, state =>
      match tree.node? id with
      | none => state
      | some node =>
          match visitor.handler node.tag tree id data state with
          | (.descend childData, entered) =>
              tree.visit visitor next data
                (visitor.leave tree id data (tree.visit visitor below childData entered))
          | (.stop, entered) => tree.visit visitor next data (visitor.leave tree id data entered)

variable {tree : Tree}

/-! ### Slots -/

/-- A slot that is in use: one of those given so far, or none, which stands for the top. -/
def SlotIn (given : Array δ) (slot : Option Nat) : Prop :=
  ∀ place, slot = some place → place < given.size

theorem SlotIn.append {given : Array δ} {slot : Option Nat} (within : SlotIn given slot)
    (more : Array δ) : SlotIn (given ++ more) slot := fun place at' => by
  have bound := within place at'
  rw [Array.size_append]
  omega

/-- Data that are given later leave those of a slot in use as they are. -/
theorem dataAt_append {given : Array δ} {slot : Option Nat} (within : SlotIn given slot) (top : δ)
    (more : Array δ) : dataAt top (given ++ more) slot = dataAt top given slot := by
  cases slot with
  | none => rfl
  | some place =>
      have bound := within place rfl
      simp only [dataAt, Option.bind_some, Array.getElem?_append_left bound]

/-- The data that were given last are those of the new slot. -/
theorem dataAt_push (top : δ) (given : Array δ) (data : δ) :
    dataAt top (given.push data) (some given.size) = data := by
  simp [dataAt]

theorem slotIn_push (given : Array δ) (data : δ) : SlotIn (given.push data) (some given.size) :=
  fun place at' => by
    cases at'
    simp

/-! ### Steps -/

/-- The steps for the roots of a grove do what the recursion does, and come to what was pending
with no fewer steps left than there were beyond those for the grove. The data given on the way stand
behind those that had been given before, so what was pending finds its own where they were. -/
theorem walkSteps_grove {grove : Grove} (stands : grove.StandsIn tree) (visitor : Visitor σ δ)
    (top : δ) (fuel : Nat) (pending : List Step) {slot : Option Nat} {given : Array δ}
    (within : SlotIn given slot) (state : σ) :
    ∃ spare more, tree.walkSteps visitor top (fuel + 2 * grove.order.length)
        (grove.roots.map (Step.enter · slot) ++ pending) given state =
      tree.walkSteps visitor top (fuel + spare) pending (given ++ more)
        (tree.visit visitor grove (dataAt top given slot) state) := by
  induction grove generalizing fuel pending slot given state with
  | bare => exact ⟨0, #[], by rw [Array.append_empty]; rfl⟩
  | plant id below next belowIh nextIh =>
      obtain ⟨there, listed, belowStands, nextStands⟩ := stands
      obtain ⟨node, found⟩ := node?_eq_some_of_lt there
      have looked : tree.node id = .ok node := (node_eq_ok_iff tree id node).mpr found
      have children : tree.children id = .ok below.roots := by
        rw [listed, childrenOf_eq found, children, looked]
        rfl
      have length : fuel + 2 * (Grove.plant id below next).order.length =
          (fuel + 2 * next.order.length + 1 + 2 * below.order.length) + 1 := by
        simp only [Grove.order, List.length_cons, List.length_append]
        omega
      rw [length, visit, found]
      dsimp only
      rw [Grove.roots, List.map_cons, List.cons_append, walkSteps]
      simp only [accept, looked, Except.map]
      rcases visitor.handler node.tag tree id (dataAt top given slot) state with
        ⟨decision, entered⟩
      cases decision with
      | descend data =>
          obtain ⟨spare, inner, inside⟩ := belowIh belowStands (fuel + 2 * next.order.length + 1)
            (.leave id slot :: (next.roots.map (Step.enter · slot) ++ pending))
            (slotIn_push given data) entered
          rw [dataAt_push] at inside
          -- Everything given below this node stands behind the data of its own slot.
          have behind : given.push data ++ inner = given ++ (#[data] ++ inner) := by
            rw [← Array.append_assoc, Array.push_eq_append]
          rw [behind] at inside
          have own : dataAt top (given ++ (#[data] ++ inner)) slot = dataAt top given slot :=
            dataAt_append within top _
          obtain ⟨more, outer, beside⟩ := nextIh nextStands (fuel + spare) pending
            (within.append (#[data] ++ inner))
            (visitor.leave tree id (dataAt top given slot)
              (tree.visit visitor below data entered))
          rw [own, Array.append_assoc] at beside
          refine ⟨spare + more, #[data] ++ inner ++ outer, ?_⟩
          have left : fuel + 2 * next.order.length + 1 + spare =
              (fuel + spare + 2 * next.order.length) + 1 := by omega
          simp only [stepsAfter, children, Except.map, List.append_assoc, List.singleton_append]
          rw [inside, left, walkSteps, own, beside, Nat.add_assoc]
      | stop =>
          obtain ⟨spare, outer, beside⟩ := nextIh nextStands (fuel + 2 * below.order.length) pending
            within (visitor.leave tree id (dataAt top given slot) entered)
          refine ⟨2 * below.order.length + spare, outer, ?_⟩
          have left : fuel + 2 * next.order.length + 1 + 2 * below.order.length =
              (fuel + 2 * below.order.length + 2 * next.order.length) + 1 := by omega
          simp only [stepsAfter, List.singleton_append]
          rw [left, walkSteps, beside, Nat.add_assoc]

/-- **A traversal carries out the recursion** over the subtree, if this has no more nodes than the
tree. -/
theorem walk_eq {id : NodeId} {below : Grove} (stands : (Grove.single id below).StandsIn tree)
    (bound : (Grove.single id below).order.length ≤ tree.size) (visitor : Visitor σ δ) (data : δ)
    (state : σ) :
    tree.walk visitor id data state =
      .ok (tree.visit visitor (Grove.single id below) data state) := by
  obtain ⟨fuel, size⟩ : ∃ fuel, 2 * tree.size =
      fuel + 2 * (Grove.single id below).order.length := ⟨_, (Nat.sub_add_cancel (by omega)).symm⟩
  have top : SlotIn (#[] : Array δ) none := nofun
  obtain ⟨spare, more, steps⟩ := walkSteps_grove stands visitor data fuel [] top state
  rw [walk, size]
  refine steps.trans ?_
  cases fuel + spare <;> rfl

/-- Visitors that see the same in two trees do the same in both. -/
theorem visit_congr {other : Tree} {grove : Grove} {visitor : Visitor σ δ}
    (nodes : ∀ id ∈ grove.order, other.node? id = tree.node? id)
    (handlers : ∀ id ∈ grove.order, ∀ tag data state,
      visitor.handler tag other id data state = visitor.handler tag tree id data state)
    (leaves : ∀ id ∈ grove.order, ∀ data state,
      visitor.leave other id data state = visitor.leave tree id data state) (data : δ) (state : σ) :
    other.visit visitor grove data state = tree.visit visitor grove data state := by
  induction grove generalizing data state with
  | bare => rfl
  | plant id below next belowIh nextIh =>
      have inBelow : ∀ low ∈ below.order, low ∈ (Grove.plant id below next).order := fun _ member =>
        List.mem_cons_of_mem _ (List.mem_append_left _ member)
      have inNext : ∀ low ∈ next.order, low ∈ (Grove.plant id below next).order := fun _ member =>
        List.mem_cons_of_mem _ (List.mem_append_right _ member)
      have inside := belowIh (fun low member => nodes low (inBelow low member))
        (fun low member => handlers low (inBelow low member))
        fun low member => leaves low (inBelow low member)
      have beside := nextIh (fun low member => nodes low (inNext low member))
        (fun low member => handlers low (inNext low member))
        fun low member => leaves low (inNext low member)
      have self : id ∈ (Grove.plant id below next).order := List.mem_cons_self
      rw [visit, visit, nodes id self]
      cases tree.node? id with
      | none => rfl
      | some node =>
          dsimp only
          rw [handlers id self]
          rcases visitor.handler node.tag tree id data state with ⟨decision, entered⟩
          cases decision with
          | descend childData =>
              dsimp only
              rw [inside, leaves id self, beside]
          | stop =>
              dsimp only
              rw [leaves id self, beside]

end DeclTree.Tree
