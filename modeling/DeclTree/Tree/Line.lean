/-
A node on one line: the word for its kind, then what there is to say of such a node, then its
annotations, each behind an at sign. What its children are is not said.
-/

import DeclTree.Text.Quoted
import DeclTree.Tree.Basic

namespace DeclTree

/-- The value of a literal as it is shown: a text between quotes, all else bare. -/
def Literal.text : Literal → String
  | string value => Text.quote value
  | int value => Int.repr value.toInt
  | boolean true => "true"
  | boolean false => "false"

namespace Node

/-- The line of a node, without its annotations. -/
def headline (node : Node) : String :=
  let word := node.tag.text
  let name := node.name.text
  let ty := node.ty.text
  match node.kind with
  | .module => word ++ " name:" ++ name
  | .function _ visibility modality =>
      word ++ " name:" ++ name ++ " visibility:" ++ visibility.text ++ " modality:" ++
        modality.text ++ " returnType:" ++ ty
  | .property _ visibility modality isVar =>
      word ++ " name:" ++ name ++ " visibility:" ++ visibility.text ++ " modality:" ++
        modality.text ++ " type:" ++ ty ++ (if isVar then " var" else " val")
  | .getter _ property =>
      word ++ " name:" ++ name ++ " returnType:" ++ ty ++ " property:" ++ property.text
  | .setter _ property =>
      word ++ " name:" ++ name ++ " returnType:" ++ ty ++ " property:" ++ property.text
  | .parameter _ index =>
      word ++ " name:" ++ name ++ " index:" ++ Nat.repr index ++ " type:" ++ ty
  | .body => word
  | .call callee => word ++ " " ++ callee.text ++ " type:" ++ ty
  | .ret target => word ++ " type:" ++ ty ++ " from:" ++ target.text
  | .getValue _ => word ++ " '" ++ name ++ "' type:" ++ ty
  | .literal value => word ++ " type:" ++ ty ++ " value=" ++ value.text
  | .typeRef => word ++ " type:" ++ ty

/-- Annotations as they stand at the end of a line. -/
def annotationSuffix (tags : List AnnotationTag) : String :=
  String.join (tags.map fun tag => " @" ++ tag.text)

/-- The line of a node. -/
def line (node : Node) : String := node.headline ++ annotationSuffix node.annotations.tags

end Node

/-- The line of the node at a place. -/
def Tree.line (tree : Tree) (id : NodeId) : Except TreeError String :=
  (tree.node id).map Node.line

end DeclTree
