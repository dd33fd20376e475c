/-
A subtree as data for other programs: a `View` says of every node its kind, name, type and
annotations and holds the views of its children. `View.toJson` leaves out what is empty.
-/

import DeclTree.Json.Writer
import DeclTree.Tree.Basic

namespace DeclTree

/-- What is shown of a node and of all below it. -/
inductive View where
  | node (kind name ty : String) (annotations : List String) (children : List View)

/-- The view of one node with given views of its children. -/
def Node.view (node : Node) (children : List View) : View :=
  .node node.tag.text node.name.text node.ty.text
    (node.annotations.tags.map AnnotationTag.text) children

/-! ### Views that wait for their parents -/

/-- The views that are ready and that no parent has taken yet, with the nodes that they are of. -/
structure ReadyViews where
  entries : List (NodeId × View)

namespace ReadyViews

/-- No views. -/
def empty : ReadyViews := ⟨[]⟩

/-- Puts the view of a node by the others. One that was there of the same node gives way to it. -/
def put (ready : ReadyViews) (id : NodeId) (view : View) : ReadyViews :=
  ⟨(id, view) :: ready.entries.filter fun entry => entry.1 ≠ id⟩

/-- Takes the view of a node away, if it is ready. -/
def take? (ready : ReadyViews) (id : NodeId) : Option (View × ReadyViews) :=
  (ready.entries.find? fun entry => entry.1 = id).map fun entry =>
    (entry.2, ⟨ready.entries.eraseP fun entry => entry.1 = id⟩)

/-- Takes the views of some nodes away, the first one first. All of them have to be ready. -/
def takeAll (ready : ReadyViews) : List NodeId → Except TreeError (List View × ReadyViews)
  | [] => .ok ([], ready)
  | id :: rest =>
      match ready.take? id with
      | none => .error (.violation (.reachedTwice id))
      | some (view, ready) =>
          (takeAll ready rest).map fun (views, ready) => (view :: views, ready)

end ReadyViews

namespace Tree

/-- Makes the view of a node from those of its children, which are taken away for it. -/
def assemble (tree : Tree) (id : NodeId) (ready : ReadyViews) : Except TreeError ReadyViews :=
  match tree.node id with
  | .error error => .error error
  | .ok node =>
      (ready.takeAll node.children).map fun (children, ready) => ready.put id (node.view children)

/-- Makes the views of some nodes, the last one first. -/
def assembleAll (tree : Tree) : List NodeId → Except TreeError ReadyViews
  | [] => .ok .empty
  | id :: rest =>
      match assembleAll tree rest with
      | .error error => .error error
      | .ok ready => tree.assemble id ready

/-- The view of a subtree. From the last node to the first, the views of all children are ready when
their parent is reached. -/
def view (tree : Tree) (id : NodeId) : Except TreeError View :=
  match tree.preorder id with
  | .error error => .error error
  | .ok order =>
      match tree.assembleAll order with
      | .error error => .error error
      | .ok ready =>
          match ready.take? id with
          | none => .error (.violation (.notShown id))
          | some (view, _) => .ok view

end Tree

/-! ### JSON -/

/-- A member for a list, unless the list is empty. -/
def listField (name : String) (items : List Json) : List (String × Json) :=
  if items.isEmpty then [] else [(name, .array items)]

mutual

/-- A view as a JSON object. -/
def View.toJson : View → Json
  | .node kind name ty annotations children =>
      .ofFields ([("kind", .ofText kind), ("name", .ofText name), ("type", .ofText ty)] ++
        listField "annotations" (annotations.map .ofText) ++
        listField "children" (View.toJsons children))

/-- Views as JSON objects. -/
def View.toJsons : List View → List Json
  | [] => []
  | view :: views => view.toJson :: View.toJsons views

end

/-- A subtree as JSON text with a line for each item. -/
def Tree.dumpJson (tree : Tree) (id : NodeId) : Except TreeError String :=
  (tree.view id).map fun view => view.toJson.pretty

end DeclTree
