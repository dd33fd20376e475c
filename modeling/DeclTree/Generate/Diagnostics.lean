/-
What the generator reports before it generates: its arguments and, if it is told to, the module as
it came and the properties in it.
-/

import DeclTree.Diagnostics
import DeclTree.Generate.Config
import DeclTree.Tree.Dump
import DeclTree.Tree.Properties

namespace DeclTree

/-- The word for a truth value. -/
def boolText (value : Bool) : String := if value then "true" else "false"

namespace FoundProperty

/-- The message about a property that was met in search of an annotation. -/
def message (found : FoundProperty) (tag : AnnotationTag) : Message :=
  ⟨.logging, "prop found: " ++ found.name.text ++ " with annotation " ++ tag.text ++ "? " ++
    boolText found.annotated⟩

end FoundProperty

namespace Tree

/-- The module as it stands, or a warning that it cannot be shown. -/
def shownMessage (tree : Tree) : Message :=
  match tree.dumpWith .braces .root "" with
  | .ok text => ⟨.logging, text⟩
  | .error error => ⟨.warning, "failed to dump the input tree: " ++ error.message⟩

/-- A message for every property of the module. -/
def propertyMessages (tree : Tree) (tag : AnnotationTag) : List Message :=
  match tree.properties tag .root with
  | .ok found => found.map fun property => property.message tag
  | .error _ => []

end Tree

/-- The messages with which a run of the generator begins. -/
def Config.openingMessages (config : Config) (tree : Tree) : List Message :=
  [⟨.info, "Argument 'string' = " ++ config.string⟩,
    ⟨.info, "Argument 'file' = " ++ config.file⟩] ++
    if config.dumpTree then tree.shownMessage :: tree.propertyMessages .suspendProp else []

end DeclTree
