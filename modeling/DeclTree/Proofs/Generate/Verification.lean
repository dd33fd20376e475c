/-
**The declarations of a run pass verification.**

The two declarations stand on nodes of their own, of which every one has a known type
(`known_of_mem`) and is as its kind asks for (`checkKind_of_mem`): the accessors stand under their
own property, the setter takes one value, and the call has one argument. As nothing but these nodes
is below a declaration, verification cannot fail (`verify_declarations`).
-/

import DeclTree.Proofs.Generate.Stages
import DeclTree.Proofs.Tree.Keeps

namespace DeclTree.Template

variable {tree : Tree} {supply : SymbolSupply} {context : Context} {printer : Symbol}

/-- What holds of each of the nodes. -/
theorem forall_declarationNodes {first : Nat} {mark : Node → Node} {holds : Node → Prop} :
    (∀ node ∈ declarationNodes first supply printer mark, holds node) ↔
      (∀ node ∈ mainNodes first supply mark, holds node) ∧
        (∀ node ∈ getterNodes first supply mark [⟨first + 7⟩], holds node) ∧
          ∀ node ∈ setterNodes first supply printer, holds node := by
  rw [declarationNodes, List.forall_mem_append, List.forall_mem_append, and_assoc]

/-- The types of the declarations are known. -/
theorem known_of_mem (known : context.types.resolve printer.result = .ok ()) :
    ∀ node ∈ declarationNodes tree.size supply printer annotated,
      context.types.resolve node.ty = .ok () := by
  refine forall_declarationNodes.mpr ⟨?_, ?_, ?_⟩
  · simp only [mainNodes, List.forall_mem_cons]
    exact ⟨known_unit, known_unit, List.forall_mem_nil _⟩
  · simp only [getterNodes, List.forall_mem_cons]
    exact ⟨known_int, known_int, known_int, known_nothing, known_unit, List.forall_mem_nil _⟩
  · simp only [setterNodes, List.forall_mem_cons]
    exact ⟨known_unit, known_int, known_int, known, known_unit, List.forall_mem_nil _⟩

/-- An accessor stands under its own property. -/
theorem checkOwner_property (accessor : NodeId) :
    (tree.extend (declarationNodes tree.size supply printer annotated)).checkOwner accessor
      (some ⟨tree.size + 2⟩) (testSymbol supply) = .ok () := by
  have property : (tree.extend (declarationNodes tree.size supply printer annotated)).node
      ⟨tree.size + 2⟩ = .ok (annotated (testNode supply [⟨tree.size + 3⟩, ⟨tree.size + 7⟩])) :=
    Tree.node_extend_new _ _ rfl
  unfold Tree.checkOwner
  dsimp only
  rw [property]
  exact if_pos (decide_eq_true rfl)

theorem checkKind_getter (id : NodeId) :
    (tree.extend (declarationNodes tree.size supply printer annotated)).checkKind id
      (getterNode supply (some ⟨tree.size + 2⟩) [⟨tree.size + 6⟩]) = .ok () := by
  have none : (tree.extend (declarationNodes tree.size supply printer annotated)).parameters
      [⟨tree.size + 6⟩] = [] := by
    unfold Tree.parameters
    rw [List.filterMap_cons, Tree.node?_extend_new]
    rfl
  unfold Tree.checkKind getterNode
  dsimp only
  rw [checkOwner_property, none]
  rfl

theorem checkKind_setter (id : NodeId) :
    (tree.extend (declarationNodes tree.size supply printer annotated)).checkKind id
      (setterNode supply (some ⟨tree.size + 2⟩) [⟨tree.size + 8⟩, ⟨tree.size + 11⟩]) = .ok () := by
  have one : (tree.extend (declarationNodes tree.size supply printer annotated)).parameters
      [⟨tree.size + 8⟩, ⟨tree.size + 11⟩] = [valueNode supply (some ⟨tree.size + 7⟩)] := by
    unfold Tree.parameters
    rw [List.filterMap_cons, Tree.node?_extend_new, List.filterMap_cons, Tree.node?_extend_new]
    rfl
  have fits : Tree.checkSetterParameter
      (tree.extend (declarationNodes tree.size supply printer annotated)) id
      [⟨tree.size + 8⟩, ⟨tree.size + 11⟩] = .ok () := by
    unfold Tree.checkSetterParameter
    rw [one]
    rfl
  unfold Tree.checkKind setterNode
  dsimp only
  rw [checkOwner_property, fits]
  rfl

theorem checkKind_call (fits : printer.takesAnything = true) (id : NodeId) :
    (tree.extend (declarationNodes tree.size supply printer annotated)).checkKind id
      (callNode printer (some ⟨tree.size + 11⟩) [⟨tree.size + 9⟩]) = .ok () := by
  have parameters : printer.parameters = [Ty.anyNullable] := of_decide_eq_true fits
  refine if_pos ?_
  rw [Symbol.arity, parameters]
  rfl

/-- Every node is as its kind asks for, wherever it stands. -/
theorem checkKind_of_mem (fits : printer.takesAnything = true) (id : NodeId) :
    ∀ node ∈ declarationNodes tree.size supply printer annotated,
      (tree.extend (declarationNodes tree.size supply printer annotated)).checkKind id node =
        .ok () := by
  refine forall_declarationNodes.mpr ⟨?_, ?_, ?_⟩
  · simp only [mainNodes, List.forall_mem_cons]
    exact ⟨rfl, rfl, List.forall_mem_nil _⟩
  · simp only [getterNodes, List.forall_mem_cons]
    exact ⟨rfl, checkKind_getter id, rfl, rfl, rfl, List.forall_mem_nil _⟩
  · simp only [setterNodes, List.forall_mem_cons]
    exact ⟨checkKind_setter id, rfl, rfl, checkKind_call fits id, rfl, List.forall_mem_nil _⟩

/-- **Both declarations pass verification.** -/
theorem verify_declarations (forest : tree.IsForest)
    (built : (tree.extend (declarationNodes tree.size supply printer annotated)).IsForest)
    (fits : printer.takesAnything = true) (known : context.types.resolve printer.result = .ok ())
    (place : Nat) (there : place < 12) :
    (tree.extend (declarationNodes tree.size supply printer annotated)).verify context.types
      ⟨tree.size + place⟩ = .ok () := by
  have inside : (⟨tree.size + place⟩ : NodeId).index <
      (tree.extend (declarationNodes tree.size supply printer annotated)).size := by
    rw [Tree.size_extend]
    exact Nat.add_lt_add_left there _
  refine (built.verify_eq_ok_iff inside).mpr fun low above => ?_
  -- Below a new node there are new nodes only.
  rcases tree.old_or_new low with old | ⟨later, rfl⟩
  · have top := (Tree.keeps_extend tree _).old_of_above forest above old
    exact absurd top (by simp)
  · obtain ⟨node, found⟩ := Tree.node?_eq_some_of_lt (Tree.lt_of_above above inside)
    have listed := found
    rw [Tree.node?_extend_new] at listed
    have member := List.mem_of_getElem? listed
    exact (built.checkNode_eq_ok_iff found).mpr
      ⟨known_of_mem known node member, checkKind_of_mem fits _ node member⟩

end DeclTree.Template
