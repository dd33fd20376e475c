/-
Attaching and detaching. A node is attached under at most one parent, the module under none, and
no node below itself; `Tree.append` refuses whatever would break this, `Tree.detach` is always
possible.
-/

import DeclTree.Tree.Basic

namespace DeclTree.Tree

/-! ### Cycles -/

/-- Climbs from `above` and searches `below` at the same pace, for `fuel` steps. The answer is there
as soon as one of the two ends: having climbed past a parentless node, or having searched all of the
subtree, without a meeting. The search takes the last child of a node first. -/
def meets (tree : Tree) (parent child : NodeId) : Nat → Option NodeId → List NodeId → Bool
  | 0, _, _ => true
  | _ + 1, none, _ => false
  | fuel + 1, some above, below =>
      if above = child then true
      else
        match below with
        | [] => false
        | lower :: rest =>
            if lower = parent then true
            else
              meets tree parent child fuel ((tree.node? above).bind Node.parent)
                ((((tree.node? lower).map Node.children).getD []).reverse ++ rest)

/-- Whether `child` is `parent` itself or above it. Climbing ends within as many steps as the tree
has nodes. -/
def wouldCycle (tree : Tree) (parent child : NodeId) : Bool :=
  tree.meets parent child (tree.size + 1) (some parent) [child]

/-! ### Attaching -/

/-- Checks that `child` may be attached under `parent`. -/
def checkAttachable (tree : Tree) (parent child : NodeId) : Except TreeError Unit :=
  match tree.node parent, tree.node child with
  | .error error, _ => .error error
  | .ok _, .error error => .error error
  | .ok _, .ok node =>
      if child = .root then .error (.violation .rootAttached)
      else
        match node.parent with
        | some current => .error (.violation (.alreadyAttached child current))
        | none =>
            if tree.wouldCycle parent child then .error (.violation (.cycle child parent))
            else .ok ()

/-- The tree with `child` as the last child of `parent`. -/
def link (tree : Tree) (parent child : NodeId) : Tree :=
  (tree.update child fun node => { node with parent := some parent }).update parent fun node =>
    { node with children := node.children ++ [child] }

/-- Attaches a node as the last child of another one. -/
def append (tree : Tree) (parent child : NodeId) : Except TreeError Tree :=
  (tree.checkAttachable parent child).map fun _ => tree.link parent child

/-! ### Detaching -/

/-- The tree with `child` no longer among the children of `parent`. -/
def unlink (tree : Tree) (parent child : NodeId) : Tree :=
  (tree.update parent fun node =>
      { node with children := node.children.filter (· ≠ child) }).update child fun node =>
    { node with parent := none }

/-- Takes a node from its parent. A node without parent stays as it is. -/
def detach (tree : Tree) (child : NodeId) : Except TreeError Tree :=
  (tree.parent child).map fun parent =>
    match parent with
    | none => tree
    | some parent => tree.unlink parent child

end DeclTree.Tree
