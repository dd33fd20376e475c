/-
Traversal of a subtree. A `Visitor` has a handler for each kind of node and carries a state from
handler to handler; the handler of a node decides whether its children are visited, and with which
data. `Tree.walk` enters every node before its children and leaves it after them. The data that
handlers give are kept in one list, and what is still to be done says where in it its data are.
-/

import DeclTree.Tree.Basic

namespace DeclTree

/-- What a handler decides about the children of its node. -/
inductive Visit (δ : Type) where
  /-- The children are visited in their order, each with these data. -/
  | descend (data : δ)
  /-- The children are not visited. -/
  | stop
deriving DecidableEq, Repr

/-- What is done when a node is entered: the tree, the node, the data of the node and the state so
far give the decision and the next state. -/
abbrev Handler (σ δ : Type) := Tree → NodeId → δ → σ → Visit δ × σ

/-- A handler for every kind of node. Those that are not given do as `element` does, and nothing is
done on leaving a node unless `leave` is given. -/
structure Visitor (σ δ : Type) where
  element : Handler σ δ
  leave : Tree → NodeId → δ → σ → σ := fun _ _ _ state => state
  module : Handler σ δ := element
  function : Handler σ δ := element
  property : Handler σ δ := element
  getter : Handler σ δ := element
  setter : Handler σ δ := element
  parameter : Handler σ δ := element
  body : Handler σ δ := element
  call : Handler σ δ := element
  ret : Handler σ δ := element
  getValue : Handler σ δ := element
  literal : Handler σ δ := element
  typeRef : Handler σ δ := element

variable {σ δ : Type}

/-- The handler for a kind of node. -/
def Visitor.handler (visitor : Visitor σ δ) : NodeTag → Handler σ δ
  | .module => visitor.module
  | .function => visitor.function
  | .property => visitor.property
  | .getter => visitor.getter
  | .setter => visitor.setter
  | .parameter => visitor.parameter
  | .body => visitor.body
  | .call => visitor.call
  | .ret => visitor.ret
  | .getValue => visitor.getValue
  | .literal => visitor.literal
  | .typeRef => visitor.typeRef

/-- What is still to be done in a traversal. A slot is the place of the data among those that
handlers have given; where there is none, they are the data of the whole traversal. -/
inductive Step where
  | enter (id : NodeId) (slot : Option Nat)
  | leave (id : NodeId) (slot : Option Nat)
deriving DecidableEq, Repr

/-- The node that a step is about. -/
def Step.node : Step → NodeId
  | enter id _ => id
  | leave id _ => id

/-- The data of a slot. -/
def dataAt (top : δ) (given : Array δ) (slot : Option Nat) : δ :=
  (slot.bind fun place => given[place]?).getD top

namespace Tree

/-- Hands one node to the handler for its kind. -/
def accept (tree : Tree) (visitor : Visitor σ δ) (id : NodeId) (data : δ) (state : σ) :
    Except TreeError (Visit δ × σ) :=
  (tree.node id).map fun node => visitor.handler node.tag tree id data state

/-- What entering a node leaves to be done, and the data given so far: the children, if the handler
wants them, all in one new slot, and then the leaving. -/
def stepsAfter (tree : Tree) (id : NodeId) (slot : Option Nat) (given : Array δ) :
    Visit δ → Except TreeError (List Step × Array δ)
  | .descend data =>
      (tree.children id).map fun children =>
        (children.map (Step.enter · (some given.size)) ++ [.leave id slot], given.push data)
  | .stop => .ok ([.leave id slot], given)

/-- Does the steps one after the other, at most `fuel` of them. -/
def walkSteps (tree : Tree) (visitor : Visitor σ δ) (top : δ) :
    Nat → List Step → Array δ → σ → Except TreeError σ
  | _, [], _, state => .ok state
  | 0, step :: _, _, _ => .error (.violation (.endless step.node))
  | fuel + 1, .enter id slot :: pending, given, state =>
      match tree.accept visitor id (dataAt top given slot) state with
      | .error error => .error error
      | .ok (visit, state) =>
          match tree.stepsAfter id slot given visit with
          | .error error => .error error
          | .ok (steps, given) => walkSteps tree visitor top fuel (steps ++ pending) given state
  | fuel + 1, .leave id slot :: pending, given, state =>
      walkSteps tree visitor top fuel pending given
        (visitor.leave tree id (dataAt top given slot) state)

/-- Visits a subtree and gives the last state. Every node is entered and left at most once, so the
bound is never reached. -/
def walk (tree : Tree) (visitor : Visitor σ δ) (id : NodeId) (data : δ) (state : σ) :
    Except TreeError σ :=
  tree.walkSteps visitor data (2 * tree.size) [.enter id none] #[] state

end Tree

end DeclTree
