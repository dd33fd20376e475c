/-
**Who declares which symbol.**

Symbols are told apart by their identities alone, so it matters that no identity is given away
twice. A step of a host or a builder is looked at here as a `Naming`: nodes stay what they are, and
if one is made, it declares either nothing or a symbol that had not been handed out before.

* `Workspace.Identified` is the invariant: the supply is ahead of every declared symbol, no symbol
  is declared twice, and every accessor and every read rests on a declaration that is there;
* `Workspace.Unused` is a symbol that was handed out without a declaration, as those are that hosts
  make, and those of builds that failed: it is never declared later on (`Naming.unused`);
* `Workspace.Identified.identifies`: with the invariant, symbols say which node is meant
  (`Tree.Identifies`).
-/

import DeclTree.Proofs.Host.Run
import DeclTree.Proofs.Tree.Fits

namespace DeclTree

namespace Tree

/-- The symbol that the node at a place declares, if it is a declaration. -/
def declaredAt (tree : Tree) (id : NodeId) : Option Symbol :=
  (tree.kindOf id).bind NodeKind.declared?

/-- There is the value parameter that a symbol declares. -/
def DeclaresParameter (tree : Tree) (target : Symbol) (id : NodeId) : Prop :=
  ∃ symbol index, tree.kindOf id = some (.parameter symbol index) ∧ symbol.same target = true

/-- There is a node of some name and some type. -/
def IsCalled (tree : Tree) (name : Name) (ty : Ty) (id : NodeId) : Prop :=
  ∃ label, tree.labelOf id = some label ∧ label.name = name ∧ label.ty = ty

/-- By its symbol, a declaration of the tree is told from all others, and from what some symbols
`outside` stand for. -/
structure Identifies (tree : Tree) (outside : Symbol → Prop) : Prop where
  /-- No two nodes, attached or not, declare the same symbol. -/
  apart : ∀ id other symbol again, tree.declaredAt id = some symbol →
    tree.declaredAt other = some again → symbol.same again = true → id = other
  /-- No node declares a symbol from outside. -/
  foreign : ∀ id symbol host, tree.declaredAt id = some symbol → outside host →
    symbol.same host = false
  /-- An accessor has exactly one property. -/
  owner : ∀ id kind property, tree.kindOf id = some kind → kind.owner? = some property →
    ∃! owner, tree.Declares property owner
  /-- A read has exactly one value parameter, and bears its name and its type. -/
  read : ∀ id label target, tree.labelOf id = some label → label.kind = .getValue target →
    ∃ parameter, tree.DeclaresParameter target parameter ∧
      tree.IsCalled label.name label.ty parameter ∧
        ∀ other, tree.DeclaresParameter target other → other = parameter

variable {tree other : Tree} {id : NodeId}

theorem declaredAt_congr (same : other.labelOf id = tree.labelOf id) :
    other.declaredAt id = tree.declaredAt id := by
  rw [declaredAt, kindOf_congr same, declaredAt]

/-- What a node rests on stays. -/
theorem Backs.mono {label : Label} (backs : tree.Backs label)
    (stay : ∀ id label, tree.labelOf id = some label → other.labelOf id = some label) :
    other.Backs label := by
  unfold Backs at backs ⊢
  split at backs
  · exact backs
  · obtain ⟨id, owner, visibility, modality, isVar, found, kind⟩ := backs
    exact ⟨id, owner, visibility, modality, isVar, stay id owner found, kind⟩
  · obtain ⟨id, owner, visibility, modality, isVar, found, kind⟩ := backs
    exact ⟨id, owner, visibility, modality, isVar, stay id owner found, kind⟩
  · obtain ⟨id, parameter, index, found, same⟩ := backs
    exact ⟨id, parameter, index, stay id parameter found, same⟩
  · trivial

/-- An accessor rests on its property. -/
theorem Backs.owner {label : Label} {property : Symbol} (backs : tree.Backs label)
    (of : label.kind.owner? = some property) :
    ∃ id owner visibility modality isVar, tree.labelOf id = some owner ∧
      owner.kind = .property property visibility modality isVar := by
  unfold Backs at backs
  cases kind : label.kind <;> rw [kind] at backs of <;> cases of
  · exact backs
  · exact backs

/-- A read rests on its value parameter. -/
theorem Backs.read {label : Label} {target : Symbol} (backs : tree.Backs label)
    (reads : label.kind = .getValue target) :
    ∃ id parameter index, tree.labelOf id = some parameter ∧
      parameter.kind = .parameter target index ∧ parameter.name = label.name ∧
        parameter.ty = label.ty := by
  unfold Backs at backs
  rw [reads] at backs
  exact backs

theorem declaredAt_push_eq_some {node : Node} {symbol : Symbol}
    (declared : (tree.push node).2.declaredAt id = some symbol) :
    tree.declaredAt id = some symbol ∨
      id = ⟨tree.size⟩ ∧ node.kind.declared? = some symbol := by
  obtain ⟨kind, is, declares⟩ := Option.bind_eq_some_iff.mp declared
  obtain ⟨label, found, rfl⟩ := Option.map_eq_some_iff.mp is
  obtain old | ⟨rfl, rfl⟩ := labelOf_push_eq_some found
  · left
    rw [declaredAt, kindOf, old]
    exact declares
  · exact .inr ⟨rfl, declares⟩

/-- In an empty module, there is nothing but the module. -/
theorem kind_of_labelOf_ofModule {name : Name} {label : Label}
    (found : (ofModule name).labelOf id = some label) : label.kind = .module := by
  obtain ⟨node, looked, rfl⟩ := Option.map_eq_some_iff.mp found
  rw [eq_of_node?_ofModule looked]
  rfl

/-- Hence nothing is declared in it. -/
theorem declaredAt_ofModule (name : Name) (id : NodeId) : (ofModule name).declaredAt id = none := by
  unfold declaredAt kindOf
  cases found : (ofModule name).labelOf id with
  | none => rfl
  | some label =>
      show label.kind.declared? = none
      rw [kind_of_labelOf_ofModule found]
      rfl

end Tree

/-! ### Steps -/

/-- A step, as far as it concerns what nodes are and declare. -/
inductive Naming (before after : Workspace) : Prop
  | keep (ahead : before.supply.next ≤ after.supply.next)
      (labels : ∀ id, after.tree.labelOf id = before.tree.labelOf id)
  /-- A node is made. If it is a declaration, its symbol was not handed out before. -/
  | make (node : Node) (ahead : before.supply.next ≤ after.supply.next)
      (pushed : after.tree = (before.tree.push node).2) (backed : before.tree.Backs node.label)
      (fresh : ∀ symbol, node.kind.declared? = some symbol →
        before.supply.next ≤ symbol.id.number ∧ symbol.id.number < after.supply.next)

/-- Steps, one after the other. -/
abbrev Namings : Workspace → Workspace → Prop := Relation.ReflTransGen Naming

variable {types : TypeUniverse} {before after : Workspace} {symbol : Symbol}

theorem Edit.naming {asks : NodeId → NodeTag → Prop} {old : Nat}
    (edit : Edit types asks old before after) : Naming before after := by
  cases edit with
  | log log => exact .keep le_rfl fun _ => rfl
  | symbol signature => exact .keep (Nat.le_succ _) fun _ => rfl
  | make kind name ty _ plain backed =>
      refine .make _ le_rfl rfl backed fun symbol declares => ?_
      cases plain.symm.trans declares
  | declare signature kind name ty _ declared backed =>
      refine .make _ (Nat.le_succ _) rfl backed fun symbol declares => ?_
      cases declared.symm.trans declares
      exact ⟨le_rfl, Nat.lt_succ_self _⟩
  | fill parent child _ _ => exact .keep le_rfl (Tree.labelOf_link _ parent child)
  | equip property accessor _ _ _ _ _ _ _ =>
      exact .keep le_rfl (Tree.labelOf_link _ property accessor)
  | annotate id tag arguments _ => exact .keep le_rfl (Tree.labelOf_putTag _ id tag arguments)

theorem Advance.naming (advance : Advance types before after) : Naming before after := by
  cases advance with
  | edit edit => exact edit.naming
  | attach parent child _ => exact .keep le_rfl (Tree.labelOf_link _ parent child)

theorem Advances.namings (advances : Advances types before after) : Namings before after :=
  Relation.ReflTransGen.mono (fun _ _ advance => advance.naming) _ _ advances

/-! ### What steps keep -/

namespace Workspace

/-- The invariant. -/
structure Identified (workspace : Workspace) : Prop where
  /-- Every symbol that a node declares has been handed out. -/
  handedOut : ∀ id symbol, workspace.tree.declaredAt id = some symbol →
    symbol.id.number < workspace.supply.next
  apart : ∀ id other symbol again, workspace.tree.declaredAt id = some symbol →
    workspace.tree.declaredAt other = some again → symbol.same again = true → id = other
  /-- Every node but the module has what it rests on. -/
  backed : ∀ id label, workspace.tree.labelOf id = some label →
    label.kind = .module ∨ workspace.tree.Backs label

/-- A symbol was handed out, but no node declares it. -/
structure Unused (workspace : Workspace) (symbol : Symbol) : Prop where
  handedOut : symbol.id.number < workspace.supply.next
  undeclared : ∀ id declared, workspace.tree.declaredAt id = some declared →
    declared.same symbol = false

end Workspace

open Workspace

theorem Naming.identified (naming : Naming before after) (identified : before.Identified) :
    after.Identified := by
  obtain ⟨ahead, labels⟩ | ⟨node, ahead, pushed, backed, fresh⟩ := naming
  · have declared : ∀ id, after.tree.declaredAt id = before.tree.declaredAt id :=
      fun id => Tree.declaredAt_congr (labels id)
    refine ⟨?_, ?_, ?_⟩
    · intro id symbol declares
      rw [declared] at declares
      exact (identified.handedOut id symbol declares).trans_le ahead
    · intro id other symbol again declares declaresToo
      rw [declared] at declares declaresToo
      exact identified.apart id other symbol again declares declaresToo
    · intro id label found
      rw [labels] at found
      refine (identified.backed id label found).imp_right fun backs => backs.mono ?_
      exact fun id label found => (labels id).trans found
  · have stay : ∀ id label, before.tree.labelOf id = some label →
        after.tree.labelOf id = some label := by
      intro id label found
      rw [pushed, Tree.labelOf_push (Tree.lt_of_labelOf found)]
      exact found
    -- A symbol that an old node declares is behind the supply, the new one is not.
    have differ : ∀ id symbol new, before.tree.declaredAt id = some symbol →
        node.kind.declared? = some new → symbol.id ≠ new.id := by
      intro id symbol new declares declaresNew same
      have old := identified.handedOut id symbol declares
      have later := (fresh new declaresNew).1
      rw [same] at old
      omega
    refine ⟨?_, ?_, ?_⟩
    · intro id symbol declares
      rw [pushed] at declares
      obtain old | ⟨-, new⟩ := Tree.declaredAt_push_eq_some declares
      · exact (identified.handedOut id symbol old).trans_le ahead
      · exact (fresh symbol new).2
    · intro id other symbol again declares declaresToo same
      have sameId : symbol.id = again.id := of_decide_eq_true same
      rw [pushed] at declares declaresToo
      obtain old | ⟨here, new⟩ := Tree.declaredAt_push_eq_some declares <;>
        obtain oldToo | ⟨hereToo, newToo⟩ := Tree.declaredAt_push_eq_some declaresToo
      · exact identified.apart id other symbol again old oldToo same
      · exact absurd sameId (differ id symbol again old newToo)
      · exact absurd sameId.symm (differ other again symbol oldToo new)
      · exact here.trans hereToo.symm
    · intro id label found
      rw [pushed] at found
      obtain old | ⟨-, rfl⟩ := Tree.labelOf_push_eq_some found
      · exact (identified.backed id label old).imp_right fun backs => backs.mono stay
      · exact .inr (backed.mono stay)

/-- **A symbol that no node declares is never declared later on**, once it has been handed out. -/
theorem Naming.unused (naming : Naming before after) (unused : before.Unused symbol) :
    after.Unused symbol := by
  obtain ⟨ahead, labels⟩ | ⟨node, ahead, pushed, -, fresh⟩ := naming
  · refine ⟨unused.handedOut.trans_le ahead, fun id declared declares => ?_⟩
    rw [Tree.declaredAt_congr (labels id)] at declares
    exact unused.undeclared id declared declares
  · refine ⟨unused.handedOut.trans_le ahead, fun id declared declares => ?_⟩
    rw [pushed] at declares
    obtain old | ⟨-, new⟩ := Tree.declaredAt_push_eq_some declares
    · exact unused.undeclared id declared old
    · refine decide_eq_false fun same => ?_
      have later := (fresh declared new).1
      have handedOut := unused.handedOut
      rw [same] at later
      omega

theorem Namings.identified (namings : Namings before after) (identified : before.Identified) :
    after.Identified := by
  induction namings with
  | refl => exact identified
  | tail _ naming ih => exact naming.identified ih

theorem Namings.unused (namings : Namings before after) (unused : before.Unused symbol) :
    after.Unused symbol := by
  induction namings with
  | refl => exact unused
  | tail _ naming ih => exact naming.unused ih

namespace Workspace

variable {workspace : Workspace}

theorem identified_ofModule (name : Name) (supply : SymbolSupply) (log : Log) :
    (ofModule name supply log).Identified where
  handedOut id symbol declares := by
    cases (Tree.declaredAt_ofModule name id).symm.trans declares
  apart id _ symbol _ declares := by
    cases (Tree.declaredAt_ofModule name id).symm.trans declares
  backed _ _ found := .inl (Tree.kind_of_labelOf_ofModule found)

/-- Nor does it declare what was handed out before. -/
theorem unused_ofModule (name : Name) (supply : SymbolSupply) (log : Log)
    (earlier : symbol.id.number < supply.next) : (ofModule name supply log).Unused symbol where
  handedOut := earlier
  undeclared id declared declares := by
    cases (Tree.declaredAt_ofModule name id).symm.trans declares

/-- A symbol that was just handed out to a host is not used. -/
theorem Identified.unused_fresh (identified : workspace.Identified) (signature : Signature) :
    Workspace.Unused { workspace with supply := (workspace.supply.fresh signature).2 }
      (workspace.supply.fresh signature).1 := by
  refine ⟨Nat.lt_succ_self _, fun id declared declares => decide_eq_false fun same => ?_⟩
  have old := identified.handedOut id declared declares
  rw [same] at old
  exact absurd old (lt_irrefl _)

/-- **Symbols say which node is meant.** -/
theorem Identified.identifies (identified : workspace.Identified) {outside : Symbol → Prop}
    (unused : ∀ symbol, outside symbol → workspace.Unused symbol) :
    workspace.tree.Identifies outside := by
  have declaredAt : ∀ {id kind symbol}, workspace.tree.kindOf id = some kind →
      kind.declared? = some symbol → workspace.tree.declaredAt id = some symbol := by
    intro id kind symbol is declares
    rw [Tree.declaredAt, is]
    exact declares
  have kindOf : ∀ {id label}, workspace.tree.labelOf id = some label →
      workspace.tree.kindOf id = some label.kind := by
    intro id label found
    rw [Tree.kindOf, found]
    rfl
  refine ⟨identified.apart, ?_, ?_, ?_⟩
  · exact fun id symbol host declares made => (unused host made).undeclared id symbol declares
  · intro id kind property is of
    obtain ⟨label, found, rfl⟩ := Option.map_eq_some_iff.mp is
    have backs : workspace.tree.Backs label :=
      (identified.backed id label found).resolve_left fun isModule => by
        rw [isModule] at of
        cases of
    obtain ⟨owner, declared, visibility, modality, isVar, foundOwner, isProperty⟩ := backs.owner of
    have declares := (kindOf foundOwner).trans (congrArg some isProperty)
    refine ⟨owner, ⟨property, visibility, modality, isVar, declares, decide_eq_true rfl⟩, ?_⟩
    rintro other ⟨symbol, _, _, _, isOther, same⟩
    exact identified.apart other owner symbol property (declaredAt isOther rfl)
      (declaredAt declares rfl) same
  · intro id label target found reads
    have backs : workspace.tree.Backs label :=
      (identified.backed id label found).resolve_left fun isModule => by
        rw [isModule] at reads
        cases reads
    obtain ⟨parameter, declared, index, foundParameter, isParameter, name, ty⟩ := backs.read reads
    have declares := (kindOf foundParameter).trans (congrArg some isParameter)
    refine ⟨parameter, ⟨target, index, declares, decide_eq_true rfl⟩,
      ⟨declared, foundParameter, name, ty⟩, ?_⟩
    rintro other ⟨symbol, _, isOther, same⟩
    exact identified.apart other parameter symbol target (declaredAt isOther rfl)
      (declaredAt declares rfl) same

end Workspace

end DeclTree
