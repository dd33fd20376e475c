/-
**Work that takes nothing away.**

`Growth` lists the single steps of such work: nodes and symbols are made, and nodes are attached and
annotated. After any number of them all nodes are still what they are (`Grows.labelOf`), and a
forest is still a forest (`Tree.IsForest.grows`).
-/

import DeclTree.Build.Workspace
import DeclTree.Proofs.Tree.Forest
import Mathlib.Data.Nat.Basic
import Mathlib.Order.Basic

namespace DeclTree

/-- A single step that takes nothing away: any node is made, attached or annotated. -/
inductive Growth (before : Workspace) : Workspace → Prop
  | log (log : Log) : Growth before { before with log := log }
  | symbol (signature : Signature) :
      Growth before { before with supply := (before.supply.fresh signature).2 }
  | make (types : TypeUniverse) (kind : NodeKind) (name : Name) (ty : Ty)
      (resolved : types.resolve ty = .ok ()) :
      Growth before
        { before with tree := (before.tree.push { kind := kind, name := name, ty := ty }).2 }
  | attach (parent child : NodeId)
      (attachable : before.tree.checkAttachable parent child = .ok ()) :
      Growth before { before with tree := before.tree.link parent child }
  | annotate (id : NodeId) (tag : AnnotationTag) (arguments : List Literal) (node : Node)
      (there : before.tree.node id = .ok node) :
      Growth before { before with tree := before.tree.putTag id tag arguments }

/-- Steps that take nothing away, one after the other. -/
abbrev Grows : Workspace → Workspace → Prop := Relation.ReflTransGen Growth

variable {before after : Workspace}

theorem Tree.IsForest.growth (forest : before.tree.IsForest) (growth : Growth before after) :
    after.tree.IsForest := by
  cases growth with
  | log _ => exact forest
  | symbol _ => exact forest
  | make _ kind name ty _ => exact Tree.isForest_push forest kind name ty
  | attach _ _ attachable => exact Tree.isForest_link forest attachable
  | annotate id tag arguments _ _ => exact Tree.isForest_putTag forest id tag arguments

theorem Tree.IsForest.grows (forest : before.tree.IsForest) (grows : Grows before after) :
    after.tree.IsForest := by
  induction grows with
  | refl => exact forest
  | tail _ growth ih => exact ih.growth growth

theorem Growth.size_le (growth : Growth before after) : before.tree.size ≤ after.tree.size := by
  cases growth with
  | log _ => exact le_rfl
  | symbol _ => exact le_rfl
  | make _ _ _ _ _ => exact (Nat.le_succ _).trans_eq (Tree.size_push _ _).symm
  | attach _ _ _ => exact (Tree.size_link _ _ _).ge
  | annotate _ _ _ _ _ => exact (Tree.size_putTag _ _ _ _).ge

/-- A node stays what it is. -/
theorem Growth.labelOf (growth : Growth before after) {id : NodeId}
    (there : id.index < before.tree.size) : after.tree.labelOf id = before.tree.labelOf id := by
  cases growth with
  | log _ => rfl
  | symbol _ => rfl
  | make _ _ _ _ _ => exact Tree.labelOf_push there _
  | attach _ _ _ => exact Tree.labelOf_link _ _ _ _
  | annotate _ _ _ _ _ => exact Tree.labelOf_putTag _ _ _ _ _

theorem Grows.size_le (grows : Grows before after) : before.tree.size ≤ after.tree.size := by
  induction grows with
  | refl => exact le_rfl
  | tail _ growth ih => exact ih.trans growth.size_le

theorem Grows.labelOf (grows : Grows before after) {id : NodeId}
    (there : id.index < before.tree.size) : after.tree.labelOf id = before.tree.labelOf id := by
  induction grows with
  | refl => rfl
  | tail earlier growth ih =>
      exact (growth.labelOf (Nat.lt_of_lt_of_le there (Grows.size_le earlier))).trans ih

theorem Grows.hasTag (grows : Grows before after) {tag : NodeTag} {id : NodeId}
    (has : before.tree.hasTag tag id = true) : after.tree.hasTag tag id = true := by
  rw [Tree.hasTag_congr (grows.labelOf (Tree.lt_of_hasTag has))]
  exact has

end DeclTree
