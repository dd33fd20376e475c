/-
**Hosts that leave building to builders.**

A `Job` is something that a host has a builder do: an operation, or a declaration whose body is
written by any script. `Work` is a job, the attachment of a node under the module, or a symbol of
the host's own; `Workspace.deeds` lists what the builders did in a list of works, nested
declarations included.

* `Job.performs`: a job goes by the rules of `Performs`;
* `job_spares`: **whatever a builder does in a workspace that a host can come to, it leaves the
  nodes that were there alone**, and at most gives accessors to properties for which they were
  asked.
-/

import DeclTree.Proofs.Build.Spared
import DeclTree.Proofs.Host.Run

namespace DeclTree

/-- Something that a host has a builder do. -/
inductive Job : Type 1 where
  | perform (operation : Operation)
  | declare {σ : Type} (declaration : Declaration) (body : Scope → Script σ)

namespace Job

/-- A job as an act of the host. -/
def act (builder : Builder) : Job → Act
  | perform operation => .perform builder operation
  | declare declaration body => .declare builder declaration body

/-- What a builder does for a job. -/
def deeds (builder : Builder) : Job → Workspace → List Deed
  | perform operation, workspace =>
      let (outcome, after) := (builder.perform operation).attempt workspace
      [.simple outcome after.tree]
  | declare declaration body, workspace => builder.deeds declaration body workspace

theorem performs (builder : Builder) (job : Job) (workspace : Workspace) :
    Performs builder (job.deeds builder workspace) workspace
      ((job.act builder).apply workspace) := by
  cases job with
  | perform operation => exact .operation operation workspace
  | declare declaration body => exact builder.performs declaration body workspace

end Job

/-- **Builders leave alone what is there.** In every workspace that a host can come to, whatever a
builder is asked to do and however it ends: no node changes what it is or loses its parent; what is
attached, and the module, is not annotated and stays where it is; and no node gets new children but
a property, which gets accessors that were built for it. -/
theorem job_spares (name : Name) (supply : SymbolSupply) (log : Log) (acts : List Act)
    (builder : Builder) (job : Job) :
    let before := (Workspace.ofModule name supply log).after acts
    let after := (job.act builder).apply before
    Tree.Spared before.tree.size (Deed.equips (job.deeds builder before)) before.tree after.tree ∧
      after.tree.parentOf .root = none ∧
      after.tree.childrenOf .root = before.tree.childrenOf .root := by
  intro before after
  have forest : before.tree.IsForest := isForest_after name supply log acts
  have spared := (job.performs builder before).spared
  refine ⟨spared, spared.root_parentOf.trans forest.root_alone, ?_⟩
  refine spared.childrenOf_eq forest.root_there forest.root_there (Bool.eq_false_iff.mpr ?_)
  intro isProperty
  obtain ⟨label, found, same⟩ := (Tree.hasTag_iff _ _ _).mp isProperty
  rw [labelOf_root_after] at found
  cases found
  cases same

/-! ### Works -/

/-- What a host does that leaves building to builders. -/
inductive Work : Type 1 where
  | build (builder : Builder) (job : Job)
  /-- A node is attached under the module. -/
  | attach (child : NodeId)
  | newSymbol (signature : Signature)

namespace Work

/-- A work as an act of the host. -/
def act : Work → Act
  | build builder job => job.act builder
  | attach child => .append .root child
  | newSymbol signature => .newSymbol signature

theorem act_ne_detach (work : Work) (child : NodeId) : work.act ≠ .detach child := by
  cases work with
  | build builder job => cases job <;> nofun
  | attach _ => nofun
  | newSymbol _ => nofun

/-- What builders do in a work. -/
def deeds : Work → Workspace → List Deed
  | build builder job, workspace => job.deeds builder workspace
  | _, _ => []

end Work

namespace Workspace

/-- The workspace after some works, the first one first. -/
def afterWorks (workspace : Workspace) (works : List Work) : Workspace :=
  workspace.after (works.map Work.act)

/-- What builders do in some works. -/
def deeds (workspace : Workspace) : List Work → List Deed
  | [] => []
  | work :: rest => work.deeds workspace ++ deeds (work.act.apply workspace) rest

/-- No work takes anything away. -/
theorem grows_afterWorks (workspace : Workspace) (works : List Work) :
    Grows workspace (workspace.afterWorks works) := by
  induction works generalizing workspace with
  | nil => exact .refl
  | cons work rest ih =>
      have grows : Grows workspace (work.act.apply workspace) :=
        work.act.growth workspace fun child => work.act_ne_detach child
      exact grows.trans (ih _)

end Workspace

end DeclTree
