/-
**A traversal is the recursion over the subtree.**

`Visitor.Handles` has a rule for each kind of node, which says by which handler of a visitor the
nodes of this kind are handled. `Tree.Traverses` is the recursion as rules: some nodes are traversed
one after the other, each by handing it to its handler, traversing its children with the data that
the handler gave for them (or passing them over), and leaving it with its own data. In a forest the
rules have exactly one outcome for every node, and this is what `Tree.walk` arrives at
(`IsForest.walk_iff`).

A visitor that has a handler for all nodes alike uses it for each kind (`Visitor.handler_element`),
and if it never stops, it is handed every node of the subtree once (`IsForest.walk_noting`).
`walk_traverses` says all of this for the module of a host.
-/

import DeclTree.Proofs.Host.Run
import DeclTree.Proofs.Tree.Walk

namespace DeclTree

variable {σ δ : Type}

/-! ### Handlers of kinds -/

/-- The handler that a visitor has for the nodes of a kind, whatever they carry besides. -/
inductive Visitor.Handles (visitor : Visitor σ δ) : NodeKind → Handler σ δ → Prop
  | module : Handles visitor .module visitor.module
  | function {symbol : Symbol} {visibility : Visibility} {modality : Modality} :
      Handles visitor (.function symbol visibility modality) visitor.function
  | property {symbol : Symbol} {visibility : Visibility} {modality : Modality} {isVar : Bool} :
      Handles visitor (.property symbol visibility modality isVar) visitor.property
  | getter {symbol owner : Symbol} : Handles visitor (.getter symbol owner) visitor.getter
  | setter {symbol owner : Symbol} : Handles visitor (.setter symbol owner) visitor.setter
  | parameter {symbol : Symbol} {index : Nat} :
      Handles visitor (.parameter symbol index) visitor.parameter
  | body : Handles visitor .body visitor.body
  | call {callee : Symbol} : Handles visitor (.call callee) visitor.call
  | ret {target : Symbol} : Handles visitor (.ret target) visitor.ret
  | getValue {target : Symbol} : Handles visitor (.getValue target) visitor.getValue
  | literal {value : Literal} : Handles visitor (.literal value) visitor.literal
  | typeRef : Handles visitor .typeRef visitor.typeRef

/-- **The handler of a node is the one for its kind.** -/
theorem Visitor.handles_iff {visitor : Visitor σ δ} {kind : NodeKind} {handler : Handler σ δ} :
    visitor.Handles kind handler ↔ handler = visitor.handler kind.tag := by
  constructor
  · intro handles
    cases handles <;> rfl
  · rintro rfl
    cases kind <;> constructor

/-- A handler that is given for all nodes alike is the handler for each kind. -/
theorem Visitor.handler_element (element : Handler σ δ) (tag : NodeTag) :
    ({ element := element } : Visitor σ δ).handler tag = element := by
  cases tag <;> rfl

namespace Tree

/-! ### The recursion -/

/-- Nodes are traversed one after the other with the same data, by the handlers that `handles` has
for their kinds. The state before the first of them and the state after the last one are given. -/
inductive Traverses (tree : Tree) (handles : NodeKind → Handler σ δ → Prop)
    (leave : Tree → NodeId → δ → σ → σ) : List NodeId → δ → σ → σ → Prop
  | nil {data : δ} {state : σ} : Traverses tree handles leave [] data state state
  /-- The handler wants the children visited, and says with which data. -/
  | descend {id : NodeId} {rest : List NodeId} {node : Node} {handler : Handler σ δ}
      {data childData : δ} {state entered below final : σ} (found : tree.node? id = some node)
      (handled : handles node.kind handler)
      (decision : handler tree id data state = (.descend childData, entered))
      (children : Traverses tree handles leave node.children childData entered below)
      (others : Traverses tree handles leave rest data (leave tree id data below) final) :
      Traverses tree handles leave (id :: rest) data state final
  /-- The handler wants the children passed over. -/
  | stop {id : NodeId} {rest : List NodeId} {node : Node} {handler : Handler σ δ} {data : δ}
      {state entered final : σ} (found : tree.node? id = some node)
      (handled : handles node.kind handler)
      (decision : handler tree id data state = (.stop, entered))
      (others : Traverses tree handles leave rest data (leave tree id data entered) final) :
      Traverses tree handles leave (id :: rest) data state final

variable {tree : Tree} {visitor : Visitor σ δ} {handles : NodeKind → Handler σ δ → Prop}

/-- On a grove that stands in the tree the rules have one outcome. -/
theorem traverses_grove_iff {grove : Grove} (stands : grove.StandsIn tree)
    (dispatches : ∀ kind handler, handles kind handler ↔ handler = visitor.handler kind.tag)
    (data : δ) (state final : σ) :
    tree.Traverses handles visitor.leave grove.roots data state final ↔
      final = tree.visit visitor grove data state := by
  induction grove generalizing data state final with
  | bare =>
      refine ⟨fun traversed => ?_, fun same => ?_⟩
      · cases traversed
        rfl
      · rw [same]
        exact .nil
  | plant id below next belowIh nextIh =>
      obtain ⟨there, listed, belowStands, nextStands⟩ := stands
      obtain ⟨node, found⟩ := node?_eq_some_of_lt there
      have children : node.children = below.roots := by rw [listed, childrenOf_eq found]
      have handled : handles node.kind (visitor.handler node.tag) := (dispatches _ _).mpr rfl
      rw [visit, found]
      dsimp only
      refine ⟨fun traversed => ?_, fun same => ?_⟩
      · cases traversed with
        | descend found' handled' decision inside others =>
            cases Option.some.inj (found.symm.trans found')
            rw [children] at inside
            rw [(dispatches _ _).mp handled'] at decision
            rw [Node.tag, decision]
            dsimp only
            rw [← (belowIh belowStands _ _ _).mp inside]
            exact (nextIh nextStands _ _ _).mp others
        | stop found' handled' decision others =>
            cases Option.some.inj (found.symm.trans found')
            rw [(dispatches _ _).mp handled'] at decision
            rw [Node.tag, decision]
            exact (nextIh nextStands _ _ _).mp others
      · rcases decision : visitor.handler node.tag tree id data state with ⟨verdict, entered⟩
        rw [decision] at same
        cases verdict with
        | descend childData =>
            refine .descend found handled decision ?_ ((nextIh nextStands _ _ _).mpr same)
            rw [children]
            exact (belowIh belowStands _ _ _).mpr rfl
        | stop => exact .stop found handled decision ((nextIh nextStands _ _ _).mpr same)

/-- **A traversal succeeds, with the one outcome that the rules have.** -/
theorem IsForest.walk_iff (forest : tree.IsForest) {id : NodeId} (there : id.index < tree.size)
    (dispatches : ∀ kind handler, handles kind handler ↔ handler = visitor.handler kind.tag)
    (data : δ) (state : σ) :
    ∃ final, tree.walk visitor id data state = .ok final ∧
      ∀ other, tree.Traverses handles visitor.leave [id] data state other ↔ other = final := by
  obtain ⟨below, stands⟩ := forest.exists_grove there
  exact ⟨_, walk_eq stands (forest.length_order_le stands) visitor data state,
    traverses_grove_iff stands dispatches data state⟩

/-! ### One handler for all nodes -/

/-- Notes every node it is handed, and wants all children visited. -/
def noting (next : NodeId → δ → δ) : Handler (List NodeId) δ :=
  fun _ id data noted => (.descend (next id data), noted ++ [id])

theorem visit_noting {grove : Grove} (stands : grove.StandsIn tree) (next : NodeId → δ → δ)
    (data : δ) (noted : List NodeId) :
    tree.visit { element := noting next } grove data noted = noted ++ grove.order := by
  induction grove generalizing data noted with
  | bare => exact (List.append_nil noted).symm
  | plant id below beside belowIh besideIh =>
      obtain ⟨there, _, belowStands, besideStands⟩ := stands
      obtain ⟨node, found⟩ := node?_eq_some_of_lt there
      rw [visit, found]
      dsimp only
      rw [Visitor.handler_element]
      dsimp only [noting]
      rw [belowIh belowStands, besideIh besideStands, Grove.order]
      simp only [List.append_assoc, List.cons_append, List.nil_append]

/-- Such a visitor is handed the nodes of the subtree, each of them once, in the order in which they
are listed. -/
theorem IsForest.walk_noting (forest : tree.IsForest) {id : NodeId} (there : id.index < tree.size)
    (next : NodeId → δ → δ) (data : δ) :
    ∃ order, tree.walk { element := noting next } id data [] = .ok order ∧
      tree.preorder id = .ok order ∧ order.Nodup ∧ ∀ low, low ∈ order ↔ tree.Above id low := by
  obtain ⟨below, stands⟩ := forest.exists_grove there
  have bound := forest.length_order_le stands
  refine ⟨(Grove.single id below).order, ?_, preorder_eq stands bound,
    Grove.nodup_order_single forest stands, Grove.mem_order_single_iff forest stands⟩
  rw [walk_eq stands bound, visit_noting stands, List.nil_append]

end Tree

/-! ### The module of a host -/

open DeclTree.Tree

/-- **A traversal carries out the recursion**, on any module that a host has worked on, from any of
its nodes, for any visitor, data and state. It succeeds, and its outcome is the one that the rules
have. A visitor with one handler for all nodes has each of them handed to this handler: its outcome
is the one of the rules with this handler alone, and if it notes the nodes and never stops, it notes
each node of the subtree once, in the order of the listing. -/
theorem walk_traverses {σ δ : Type} (name : Name) (supply : SymbolSupply) (log : Log)
    (acts : List Act) (id : NodeId) (data : δ) (state : σ) :
    let tree := ((Workspace.ofModule name supply log).after acts).tree
    id.index < tree.size →
      (∀ visitor : Visitor σ δ, ∃ final, tree.walk visitor id data state = .ok final ∧
        ∀ other, tree.Traverses visitor.Handles visitor.leave [id] data state other ↔
          other = final) ∧
      (∀ element : Handler σ δ, ∃ final,
        tree.walk { element := element } id data state = .ok final ∧
          ∀ other, tree.Traverses (fun _ handler => handler = element)
            (fun _ _ _ state => state) [id] data state other ↔ other = final) ∧
      ∀ next : NodeId → δ → δ, ∃ order,
        tree.walk { element := noting next } id data [] = .ok order ∧
          tree.preorder id = .ok order ∧ order.Nodup ∧
            ∀ low, low ∈ order ↔ tree.Above id low := by
  intro tree there
  have forest : tree.IsForest := isForest_after name supply log acts
  refine ⟨fun visitor => ?_, fun element => ?_, fun next => forest.walk_noting there next data⟩
  · exact forest.walk_iff there (fun _ _ => Visitor.handles_iff) data state
  · let visitor : Visitor σ δ := { element := element }
    have dispatches (kind : NodeKind) (handler : Handler σ δ) :
        handler = element ↔ handler = visitor.handler kind.tag := by
      rw [Visitor.handler_element]
    exact forest.walk_iff there dispatches data state

/-- A body with a constant in it, under the module. Where bodies and literals have handlers of their
own, each of the three nodes is handed to another one; a single handler notes all three of them, in
their order. -/
theorem walk_three_nodes :
    let tree := ((Workspace.ofModule (.identifier "app") {} []).after
      [.create .builtin .body (.special "<body>") .unit, .append .root ⟨1⟩,
        .create .builtin (.literal (.int 4)) (.special "<const>") .int, .append ⟨1⟩ ⟨2⟩]).tree
    let note (mark : String) (id : NodeId) (depth : Nat) (noted : List (String × NodeId × Nat)) :=
      noted ++ [(mark, id, depth)]
    let visitor : Visitor (List (String × NodeId × Nat)) Nat := {
      element := fun _ id depth noted => (.descend (depth + 1), note "any" id depth noted)
      body := fun _ id depth noted => (.descend (depth + 10), note "body" id depth noted)
      literal := fun _ id depth noted => (.stop, note "literal" id depth noted)
      leave := fun _ => note "left" }
    let noted : List (String × NodeId × Nat) := [("any", ⟨0⟩, 0), ("body", ⟨1⟩, 1),
      ("literal", ⟨2⟩, 11), ("left", ⟨2⟩, 11), ("left", ⟨1⟩, 1), ("left", ⟨0⟩, 0)]
    NodeId.root.index < tree.size ∧
      tree.walk visitor .root 0 [] = .ok noted ∧
      tree.Traverses visitor.Handles visitor.leave [.root] 0 [] noted ∧
      tree.walk { element := noting fun _ depth => depth + 1 } .root 0 [] =
        .ok [⟨0⟩, ⟨1⟩, ⟨2⟩] ∧
      ∀ low, low ∈ ([⟨0⟩, ⟨1⟩, ⟨2⟩] : List NodeId) ↔ tree.Above .root low := by
  intro tree note visitor noted
  have there : NodeId.root.index < tree.size := by decide
  have dispatched : tree.walk visitor .root 0 [] = .ok noted := by rfl
  have walked : tree.walk { element := noting fun _ depth => depth + 1 } .root 0 [] =
      .ok [⟨0⟩, ⟨1⟩, ⟨2⟩] := by rfl
  obtain ⟨final, arrived, only⟩ :=
    (walk_traverses (.identifier "app") {} [] _ .root 0 [] there).1 visitor
  cases dispatched.symm.trans arrived
  obtain ⟨order, listing, _, _, listed⟩ :=
    (walk_traverses (.identifier "app") {} [] _ .root 0 () there).2.2 fun _ depth => depth + 1
  cases walked.symm.trans listing
  exact ⟨there, dispatched, (only noted).mpr rfl, walked, listed⟩

end DeclTree
