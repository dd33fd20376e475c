/-
The properties of a subtree, wherever they stand in it, each with the mark whether it carries a
certain annotation itself.
-/

import DeclTree.Tree.Walk

namespace DeclTree

/-- A property that was met. -/
structure FoundProperty where
  id : NodeId
  name : Name
  annotated : Bool
deriving DecidableEq, Repr

/-- Those of the properties met that carry the annotation, in the same order. -/
def FoundProperty.allAnnotated (found : List FoundProperty) : List FoundProperty :=
  found.filter annotated

/-- Notes every property behind those noted before. No node is passed over, as a property may stand
anywhere below another one. -/
def propertyFinder (tag : AnnotationTag) : Visitor (List FoundProperty) Unit where
  element _ _ _ found := (.descend (), found)
  property tree id _ found :=
    match tree.node? id with
    | some node =>
        (.descend (), found ++ [⟨id, node.name, node.annotations.contains tag⟩])
    | none => (.descend (), found)

/-- The properties of a subtree in the order of traversal. -/
def Tree.properties (tree : Tree) (tag : AnnotationTag) (id : NodeId) :
    Except TreeError (List FoundProperty) :=
  tree.walk (propertyFinder tag) id () []

end DeclTree
