/-
What can go wrong. A `TreeError` is a reference without a declaration, a reference with several, a
call with the wrong number of arguments, or a violation of the rules by which trees are built; a
`Violation` says which rule. `TreeError.message` has the wording of all of them.
-/

import DeclTree.Name
import DeclTree.Node.Id

namespace DeclTree

/-- A rule for the shape of a tree, or for its construction, that was not kept. -/
inductive Violation where
  /-- The tree has no such node. -/
  | notInTree (id : NodeId)
  /-- The module is to be attached to a node. -/
  | rootAttached
  /-- The node that is to be attached has a parent already. -/
  | alreadyAttached (child parent : NodeId)
  /-- The node that is to be attached is the new parent itself or above it. -/
  | cycle (child parent : NodeId)
  /-- The child does not know the parent that lists it. -/
  | mismatchedParent (child parent : NodeId)
  /-- A getter has value parameters. -/
  | getterParameter
  /-- An accessor stands under something other than its own property. -/
  | foreignAccessor (accessor : NodeId) (property : QualName)
  /-- A setter has other parameters than one `value` at index 0. -/
  | setterParameter (setter : NodeId)
  /-- An operand is attached already. -/
  | operandAttached (id : NodeId)
  /-- A body was given the same statement again. -/
  | pushedTwice (statement : NodeId)
  /-- A node is read that is no value parameter. -/
  | notParameter (id : NodeId)
  /-- An accessor is to be added to a node that is no property. -/
  | notProperty (id : NodeId)
  /-- The property has an accessor of that kind. -/
  | accessorExists (property : NodeId) (tag : NodeTag) (accessor : NodeId)
  /-- A read-only property is to have a setter. -/
  | readOnlyProperty (property : Name)
  /-- The module holds the declarations of an earlier generation. -/
  | alreadyGenerated (moduleName : Name)
  /-- The host gave up on the body that it was writing, for a reason of its own. -/
  | host (reason : String)
  /-- A node that is to be shown below another one has been shown already, or is not there to be
  shown. -/
  | reachedTwice (id : NodeId)
  /-- A subtree is to be shown, but its first node is not. -/
  | notShown (id : NodeId)
  /-- The subtree does not end. In a forest this cannot be. -/
  | endless (id : NodeId)
deriving DecidableEq, Repr

namespace Violation

/-- The wording of a violation. -/
def message : Violation → String
  | notInTree id => "node " ++ id.text ++ " does not belong to this tree"
  | rootAttached => "the module root cannot be attached"
  | alreadyAttached child parent =>
      "node " ++ child.text ++ " is already a child of " ++ parent.text ++ "; detach it first"
  | cycle child parent =>
      "attaching " ++ child.text ++ " under " ++ parent.text ++ " would create a cycle"
  | mismatchedParent child parent =>
      "child " ++ child.text ++ " of " ++ parent.text ++ " has a mismatched parent pointer"
  | getterParameter => "getter must not declare value parameters"
  | foreignAccessor accessor property =>
      "accessor " ++ accessor.text ++ " is not owned by its corresponding property '" ++
        property.text ++ "'"
  | setterParameter setter =>
      "setter " ++ setter.text ++ " must declare exactly one `value` parameter at index 0"
  | operandAttached id =>
      "node " ++ id.text ++ " is already attached and cannot be reused as an operand"
  | pushedTwice statement => "statement " ++ statement.text ++ " was pushed twice"
  | notParameter id => "node " ++ id.text ++ " is not a value parameter"
  | notProperty id => "node " ++ id.text ++ " is not a property"
  | accessorExists property tag accessor =>
      "property " ++ property.text ++ " already has a " ++ tag.text ++ " (" ++ accessor.text ++ ")"
  | readOnlyProperty property => "read-only property " ++ property.text ++ " cannot have a setter"
  | alreadyGenerated moduleName =>
      "module " ++ moduleName.text ++ " already contains generated declarations"
  | host reason => reason
  | reachedTwice id => "node " ++ id.text ++ " is reachable twice"
  | notShown id => "node " ++ id.text ++ " was not dumped"
  | endless id => "the subtree of node " ++ id.text ++ " does not end"

end Violation

/-- Why an operation on a tree did not succeed. -/
inductive TreeError where
  /-- No declaration, or no class, fits the name. -/
  | unresolved (name : QualName)
  /-- Several declarations fit the name. -/
  | ambiguous (name : QualName) (candidates : Nat)
  /-- A call has not as many arguments as its callee has parameters. -/
  | arity (callee : QualName) (expected found : Nat)
  /-- A rule for trees was not kept. -/
  | violation (cause : Violation)
deriving DecidableEq, Repr

namespace TreeError

/-- The wording of an error. -/
def message : TreeError → String
  | unresolved name => "未解決の参照: " ++ name.text
  | ambiguous name candidates =>
      "曖昧な参照: " ++ name.text ++ " に一致する宣言が" ++ Nat.repr candidates ++ "個あります"
  | arity callee expected found =>
      "引数の数が一致しません: " ++ callee.text ++ " は" ++ Nat.repr expected ++
        "個を期待しましたが、" ++ Nat.repr found ++ "個が渡されました"
  | violation cause => "IRの不変条件違反: " ++ cause.message

end TreeError

end DeclTree
