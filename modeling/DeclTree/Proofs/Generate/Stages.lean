/-
**What the generator builds, node by node.**

A run makes twelve nodes behind those of the tree, and takes five symbols from the supply. The two
declarations are followed from stage to stage, as lists of nodes whose first one is at the place
`first`:

* `buildMain_eq`: `main` with its body;
* `buildTest_eq`: `test` with its getter and its setter, where the type of the call is known;
* `buildTest_error`: where it is not, the setter stays without a body and without a parent.
-/

import DeclTree.Generate.Template
import DeclTree.Proofs.Build.Fresh

namespace DeclTree.Template

open Build Builder

/-! ### The nodes -/

/-- The symbol of `main`. -/
def mainSymbol (supply : SymbolSupply) : Symbol :=
  ⟨⟨⟨"main"⟩, .function, [], .unit⟩, ⟨supply.next⟩⟩

/-- The symbol of `test`. -/
def testSymbol (supply : SymbolSupply) : Symbol :=
  ⟨⟨⟨"test"⟩, .property, [], .int⟩, ⟨supply.next + 1⟩⟩

/-- The symbol of the getter of `test`. -/
def getterSymbol (supply : SymbolSupply) : Symbol :=
  ⟨⟨⟨"<get-test>"⟩, .getter, [], .int⟩, ⟨supply.next + 2⟩⟩

/-- The symbol of the setter of `test`. -/
def setterSymbol (supply : SymbolSupply) : Symbol :=
  ⟨⟨⟨"<set-test>"⟩, .setter, [.int], .unit⟩, ⟨supply.next + 3⟩⟩

/-- The symbol of the value that the setter takes. -/
def valueSymbol (supply : SymbolSupply) : Symbol :=
  ⟨⟨⟨"<set-test>.value"⟩, .valueParameter, [], .int⟩, ⟨supply.next + 4⟩⟩

def mainNode (supply : SymbolSupply) (body : List NodeId) : Node :=
  { kind := .function (mainSymbol supply) .publicAccess .final, name := .identifier "main"
    ty := .unit, children := body }

def testNode (supply : SymbolSupply) (accessors : List NodeId) : Node :=
  { kind := .property (testSymbol supply) .publicAccess .final true, name := .identifier "test"
    ty := .int, children := accessors }

def bodyNode (declaration : Option NodeId) (statements : List NodeId) : Node :=
  { kind := .body, name := .special "<body>", ty := .unit, children := statements
    parent := declaration }

def getterNode (supply : SymbolSupply) (property : Option NodeId) (body : List NodeId) : Node :=
  { kind := .getter (getterSymbol supply) (testSymbol supply), name := .special "<get-test>"
    ty := .int, children := body, parent := property }

def fourNode (ret : Option NodeId) : Node :=
  { kind := .literal (.int 4), name := .special "<const>", ty := .int, parent := ret }

def retNode (supply : SymbolSupply) (body : Option NodeId) (value : List NodeId) : Node :=
  { kind := .ret (getterSymbol supply), name := .special "<return>", ty := .nothing
    children := value, parent := body }

def setterNode (supply : SymbolSupply) (property : Option NodeId) (parts : List NodeId) : Node :=
  { kind := .setter (setterSymbol supply) (testSymbol supply), name := .special "<set-test>"
    ty := .unit, children := parts, parent := property }

def valueNode (supply : SymbolSupply) (setter : Option NodeId) : Node :=
  { kind := .parameter (valueSymbol supply) 0, name := .identifier "value", ty := .int
    parent := setter }

def readNode (supply : SymbolSupply) (call : Option NodeId) : Node :=
  { kind := .getValue (valueSymbol supply), name := .identifier "value", ty := .int
    parent := call }

def callNode (printer : Symbol) (body : Option NodeId) (arguments : List NodeId) : Node :=
  { kind := .call printer, name := .identifier printer.name.shortName, ty := printer.result
    children := arguments, parent := body }

/-- `main` and its body. What is done to `main` in the end is `mark`. -/
def mainNodes (first : Nat) (supply : SymbolSupply) (mark : Node → Node) : List Node :=
  [mark (mainNode supply [⟨first + 1⟩]), bodyNode (some ⟨first⟩) []]

/-- `test` with a getter that returns 4, and with other accessors. -/
def getterNodes (first : Nat) (supply : SymbolSupply) (mark : Node → Node)
    (others : List NodeId) : List Node :=
  [mark (testNode supply (⟨first + 3⟩ :: others)),
    getterNode supply (some ⟨first + 2⟩) [⟨first + 6⟩],
    fourNode (some ⟨first + 5⟩),
    retNode supply (some ⟨first + 6⟩) [⟨first + 4⟩],
    bodyNode (some ⟨first + 3⟩) [⟨first + 5⟩]]

/-- The setter of `test`, which prints the value. -/
def setterNodes (first : Nat) (supply : SymbolSupply) (printer : Symbol) : List Node :=
  [setterNode supply (some ⟨first + 2⟩) [⟨first + 8⟩, ⟨first + 11⟩],
    valueNode supply (some ⟨first + 7⟩),
    readNode supply (some ⟨first + 10⟩),
    callNode printer (some ⟨first + 11⟩) [⟨first + 9⟩],
    bodyNode (some ⟨first + 7⟩) [⟨first + 10⟩]]

/-- Both declarations. -/
def declarationNodes (first : Nat) (supply : SymbolSupply) (printer : Symbol)
    (mark : Node → Node) : List Node :=
  mainNodes first supply mark ++ getterNodes first supply mark [⟨first + 7⟩] ++
    setterNodes first supply printer

/-- What is left when the call that prints cannot be made: the setter is without body and without
property. -/
def abandonedNodes (first : Nat) (supply : SymbolSupply) : List Node :=
  mainNodes first supply id ++ getterNodes first supply id [] ++
    [setterNode supply none [⟨first + 8⟩], valueNode supply (some ⟨first + 7⟩),
      readNode supply none]

/-! ### The stages -/

/-- A builder that is in no package. -/
abbrev plainBuilder (context : Context) : Builder := { context := context }

/-- The workspace of a run that has made some nodes and has taken some symbols. -/
abbrev stage (tree : Tree) (supply : SymbolSupply) (nodes : List Node) (taken : Nat) (log : Log) :
    Workspace :=
  ⟨tree.extend nodes, ⟨supply.next + taken⟩, log⟩

/-- The workspace with `main` and some nodes more. -/
abbrev withMain (tree : Tree) (supply : SymbolSupply) (nodes : List Node) (taken : Nat)
    (log : Log) : Workspace :=
  stage tree supply (mainNodes tree.size supply id ++ nodes) taken log

/-- The workspace with `main`, with `test` and its getter, and with some nodes more. -/
abbrev withGetter (tree : Tree) (supply : SymbolSupply) (nodes : List Node) (taken : Nat)
    (log : Log) : Workspace :=
  withMain tree supply (getterNodes tree.size supply id [] ++ nodes) taken log

/-- The workspace with the setter begun as well, which has its value but no body. -/
abbrev withSetter (tree : Tree) (supply : SymbolSupply) (nodes : List Node) (log : Log) :
    Workspace :=
  withGetter tree supply (setterNode supply none [⟨tree.size + 8⟩] ::
    valueNode supply (some ⟨tree.size + 7⟩) :: nodes) 5 log

variable {tree : Tree} {supply : SymbolSupply} {log : Log} {context : Context}

theorem known_unit : context.types.resolve .unit = .ok () :=
  context.types.resolve_builtin (by decide)

theorem known_int : context.types.resolve .int = .ok () :=
  context.types.resolve_builtin (by decide)

theorem known_nothing : context.types.resolve .nothing = .ok () :=
  context.types.resolve_builtin (by decide)

theorem buildMain_eq (there : NodeId.root.index < tree.size) :
    buildMain (plainBuilder context) ⟨tree, supply, log⟩ =
      .ok ⟨tree.size⟩ (stage tree supply (mainNodes tree.size supply id) 1
        (log ++ [⟨.debug, .declarations, "built function main"⟩])) := by
  have started : (plainBuilder context).start
      (.function { name := .identifier "main", result := .unit }) (stage tree supply [] 0 log) =
        .ok ⟨⟨tree.size⟩, ⟨mainSymbol supply, []⟩, none⟩
          (stage tree supply [mainNode supply []] 1 log) := by
    refine (bind_ok (ofExcept_apply _ _)).trans ((bind_ok (newSymbol_apply _ _)).trans ?_)
    exact bind_ok (create_extend _ _ known_unit)
  have made : (plainBuilder context).makeBody [] (stage tree supply [mainNode supply []] 1 log) =
      .ok ⟨tree.size + 1⟩ (stage tree supply [mainNode supply [], bodyNode none []] 1 log) :=
    makeBody_ok (create_extend _ _ known_unit) rfl
  have filled : append ⟨tree.size⟩ ⟨tree.size + 1⟩
      (stage tree supply [mainNode supply [], bodyNode none []] 1 log) =
        .ok () (stage tree supply (mainNodes tree.size supply id) 1 log) :=
    append_extend there 0 1 rfl rfl (by decide) rfl rfl
  rw [← Tree.extend_nil tree]
  exact build_ok started rfl (finish_function made filled)

theorem property_eq :
    (plainBuilder context).property { name := .identifier "test", ty := .int, isVar := true }
        (withMain tree supply [] 1 log) =
      .ok ⟨tree.size + 2⟩ (withMain tree supply [testNode supply []] 2
        (log ++ [⟨.debug, .declarations, "built property test"⟩])) := by
  refine (bind_ok (newSymbol_apply _ _)).trans ?_
  exact (bind_ok (create_extend _ _ known_int)).trans (bind_ok (note_apply _ _ _))

theorem getter_eq (there : NodeId.root.index < tree.size) :
    (plainBuilder context).build (.getter ⟨tree.size + 2⟩) (fun _ => getterBody)
        (withMain tree supply [testNode supply []] 2 log) =
      .ok ⟨tree.size + 3⟩ (withGetter tree supply [] 3 log) := by
  have looked : ofExcept (checkGetter (withMain tree supply [testNode supply []] 2 log).tree
      ⟨tree.size + 2⟩) (withMain tree supply [testNode supply []] 2 log) =
        .ok ⟨testSymbol supply, .identifier "test", .int, true⟩
          (withMain tree supply [testNode supply []] 2 log) := by
    have noGetter : ∀ child ∈ (testNode supply []).children,
        (withMain tree supply [testNode supply []] 2 log).tree.hasTag .getter child = false := by
      simp [testNode]
    unfold checkGetter
    rw [propertyAt_extend rfl rfl]
    show ofExcept (do checkNoAccessor _ _ _; return _) _ = _
    rw [checkNoAccessor_extend (testNode supply []) rfl noGetter]
    rfl
  have started : (plainBuilder context).start (.getter ⟨tree.size + 2⟩)
      (withMain tree supply [testNode supply []] 2 log) =
        .ok ⟨⟨tree.size + 3⟩, ⟨getterSymbol supply, []⟩, some ⟨tree.size + 2⟩⟩
          (withMain tree supply [testNode supply [], getterNode supply none []] 3 log) := by
    refine (bind_ok (tree_apply _)).trans ((bind_ok looked).trans ?_)
    exact (bind_ok (newSymbol_apply _ _)).trans (bind_ok (create_extend _ _ known_int))
  have four : (plainBuilder context).perform (.literal (.int 4))
      (withMain tree supply [testNode supply [], getterNode supply none []] 3 log) =
        .ok ⟨tree.size + 4⟩ (withMain tree supply
          [testNode supply [], getterNode supply none [], fourNode none] 3 log) :=
    create_extend _ _ known_int
  have returned : (plainBuilder context).ret (getterSymbol supply) ⟨tree.size + 4⟩
      (withMain tree supply [testNode supply [], getterNode supply none [], fourNode none] 3 log) =
        .ok ⟨tree.size + 5⟩ (withMain tree supply
          [testNode supply [], getterNode supply none [], fourNode (some ⟨tree.size + 5⟩),
            retNode supply none [⟨tree.size + 4⟩]] 3 log) :=
    ret_ok (checkUnlinked_extend there (fourNode none) rfl rfl) (create_extend _ _ known_nothing)
      (append_extend there 5 4 rfl rfl (by decide) rfl rfl)
  have made : (plainBuilder context).makeBody [⟨tree.size + 5⟩] (withMain tree supply
      [testNode supply [], getterNode supply none [], fourNode (some ⟨tree.size + 5⟩),
        retNode supply none [⟨tree.size + 4⟩]] 3 log) =
        .ok ⟨tree.size + 6⟩ (withMain tree supply
          [testNode supply [], getterNode supply none [], fourNode (some ⟨tree.size + 5⟩),
            retNode supply (some ⟨tree.size + 6⟩) [⟨tree.size + 4⟩],
            bodyNode none [⟨tree.size + 5⟩]] 3 log) :=
    makeBody_ok (create_extend _ _ known_unit) (appendAll_single
      (append_extend there 6 5 rfl rfl (by decide) rfl rfl))
  exact build_ok started ((Script.run_buildThen_ok four).trans (Script.run_returnLast returned))
    (finish_accessor made (append_extend there 3 6 rfl rfl (by decide) rfl rfl)
      (append_extend there 2 3 rfl rfl (by decide) rfl rfl))

/-- The setter is begun. -/
theorem setter_started (there : NodeId.root.index < tree.size) :
    (plainBuilder context).start (.setter ⟨tree.size + 2⟩) (withGetter tree supply [] 3 log) =
      .ok ⟨⟨tree.size + 7⟩, ⟨setterSymbol supply, [⟨tree.size + 8⟩]⟩, some ⟨tree.size + 2⟩⟩
        (withSetter tree supply [] log) := by
  have looked : ofExcept (checkSetter (withGetter tree supply [] 3 log).tree ⟨tree.size + 2⟩)
      (withGetter tree supply [] 3 log) =
        .ok ⟨testSymbol supply, .identifier "test", .int, true⟩
          (withGetter tree supply [] 3 log) := by
    have onlyGetter : ∀ child ∈ (testNode supply [⟨tree.size + 3⟩]).children,
        (withGetter tree supply [] 3 log).tree.hasTag .setter child = false := by
      intro child listed
      rw [List.mem_singleton.mp listed]
      exact Tree.hasTag_extend_new tree _ (getterNode supply _ _) rfl
    unfold checkSetter
    rw [propertyAt_extend rfl rfl]
    show ofExcept (do checkNoAccessor _ _ _; return _) _ = _
    rw [checkNoAccessor_extend (testNode supply [⟨tree.size + 3⟩]) rfl onlyGetter]
    rfl
  have attached : append ⟨tree.size + 7⟩ ⟨tree.size + 8⟩
      (withGetter tree supply [setterNode supply none [], valueNode supply none] 5 log) =
        .ok () (withSetter tree supply [] log) :=
    append_extend there 7 8 rfl rfl (by decide) rfl rfl
  have added : (plainBuilder context).addParameters ⟨tree.size + 7⟩ ⟨"<set-test>"⟩ 0
      [(.identifier "value", .int)]
      (withGetter tree supply [setterNode supply none []] 4 log) =
        .ok [⟨tree.size + 8⟩] (withSetter tree supply [] log) := by
    refine (bind_ok (newSymbol_apply _ _)).trans ((bind_ok (create_extend _ _ known_int)).trans ?_)
    exact (bind_ok attached).trans (bind_ok rfl)
  show (plainBuilder context).startSetter ⟨tree.size + 2⟩ (withGetter tree supply [] 3 log) = _
  refine (bind_ok (tree_apply _)).trans ((bind_ok looked).trans ?_)
  refine (bind_ok (newSymbol_apply _ _)).trans ((bind_ok (create_extend _ _ known_unit)).trans ?_)
  exact bind_ok added

/-- The value that the setter takes is read. -/
theorem read_eq :
    (plainBuilder context).perform (.get ⟨tree.size + 8⟩) (withSetter tree supply [] log) =
      .ok ⟨tree.size + 9⟩ (withSetter tree supply [readNode supply none] log) := by
  have found : parameterAt (withSetter tree supply [] log).tree ⟨tree.size + 8⟩ =
      .ok (valueSymbol supply, valueNode supply (some ⟨tree.size + 7⟩)) :=
    parameterAt_extend 8 rfl rfl
  exact (get_eq _ found).trans (create_extend _ _ known_int)

/-- Nothing but the type of the call is in its way. -/
theorem call_read_eq (there : NodeId.root.index < tree.size) {printer : Symbol}
    (fits : printer.takesAnything = true) :
    (plainBuilder context).perform (.call printer [⟨tree.size + 9⟩])
        (withSetter tree supply [readNode supply none] log) =
      (do
        let id ← (plainBuilder context).create (.call printer)
          (.identifier printer.name.shortName) printer.result
        appendAll id [⟨tree.size + 9⟩]
        return id) (withSetter tree supply [readNode supply none] log) := by
  have parameters : printer.parameters = [Ty.anyNullable] := of_decide_eq_true fits
  have unlinked : [(⟨tree.size + 9⟩ : NodeId)].forM
      (checkUnlinked (withSetter tree supply [readNode supply none] log).tree) = .ok () := by
    show (do checkUnlinked _ _; return ()) = _
    rw [checkUnlinked_extend there (readNode supply none) rfl rfl]
    rfl
  refine call_eq (withSetter tree supply [readNode supply none] log) ?_ unlinked
  rw [Symbol.arity, parameters]
  rfl

theorem setter_eq (there : NodeId.root.index < tree.size) {printer : Symbol}
    (fits : printer.takesAnything = true) (known : context.types.resolve printer.result = .ok ()) :
    (plainBuilder context).build (.setter ⟨tree.size + 2⟩) (setterBody printer)
        (withGetter tree supply [] 3 log) =
      .ok ⟨tree.size + 7⟩ (stage tree supply (declarationNodes tree.size supply printer id) 5
        log) := by
  have called : (plainBuilder context).perform (.call printer [⟨tree.size + 9⟩])
      (withSetter tree supply [readNode supply none] log) =
        .ok ⟨tree.size + 10⟩ (withSetter tree supply [readNode supply (some ⟨tree.size + 10⟩),
          callNode printer none [⟨tree.size + 9⟩]] log) := by
    refine (call_read_eq there fits).trans ?_
    refine (bind_ok (create_extend _ _ known)).trans (bind_ok (appendAll_single ?_))
    exact append_extend there 10 9 rfl rfl (by decide) rfl rfl
  have pushed : addStatement (withSetter tree supply [readNode supply (some ⟨tree.size + 10⟩),
      callNode printer none [⟨tree.size + 9⟩]] log).tree [] ⟨tree.size + 10⟩ =
        .ok [⟨tree.size + 10⟩] := by
    unfold addStatement
    rw [if_neg List.not_mem_nil,
      checkUnlinked_extend there (callNode printer none [⟨tree.size + 9⟩]) rfl rfl]
    rfl
  have made : (plainBuilder context).makeBody [⟨tree.size + 10⟩]
      (withSetter tree supply [readNode supply (some ⟨tree.size + 10⟩),
        callNode printer none [⟨tree.size + 9⟩]] log) =
        .ok ⟨tree.size + 11⟩ (withSetter tree supply [readNode supply (some ⟨tree.size + 10⟩),
          callNode printer (some ⟨tree.size + 11⟩) [⟨tree.size + 9⟩],
          bodyNode none [⟨tree.size + 10⟩]] log) :=
    makeBody_ok (create_extend _ _ known_unit) (appendAll_single
      (append_extend there 11 10 rfl rfl (by decide) rfl rfl))
  exact build_ok (setter_started there)
    ((Script.run_buildThen_ok read_eq).trans ((Script.run_buildThen_ok called).trans
      (Script.run_pushLast pushed)))
    (finish_accessor made (append_extend there 7 11 rfl rfl (by decide) rfl rfl)
      (append_extend there 2 7 rfl rfl (by decide) rfl rfl))

/-- The setter is abandoned if the type of the call is not known. -/
theorem setter_error (there : NodeId.root.index < tree.size) {printer : Symbol}
    (fits : printer.takesAnything = true)
    (unknown : printer.result.classifier ∉ context.types.classes) :
    (plainBuilder context).build (.setter ⟨tree.size + 2⟩) (setterBody printer)
        (withGetter tree supply [] 3 log) =
      .error (.unresolved printer.result.classifier)
        (stage tree supply (abandonedNodes tree.size supply) 5 log) := by
  have refused : (plainBuilder context).perform (.call printer [⟨tree.size + 9⟩])
      (withSetter tree supply [readNode supply none] log) =
        .error (.unresolved printer.result.classifier)
          (withSetter tree supply [readNode supply none] log) :=
    (call_read_eq there fits).trans (bind_error (create_extend_error _ _ unknown))
  exact build_error (setter_started there)
    ((Script.run_buildThen_ok read_eq).trans (Script.run_buildThen_error refused))

/-! ### Both declarations -/

/-- The node of a declaration that is marked as generated, and as nothing else. -/
def annotated (node : Node) : Node :=
  { node with annotations := ⟨[(.generated, [])]⟩ }

theorem buildTest_eq (there : NodeId.root.index < tree.size) {printer : Symbol}
    (fits : printer.takesAnything = true) (known : context.types.resolve printer.result = .ok ()) :
    buildTest (plainBuilder context) printer (withMain tree supply [] 1 log) =
      .ok ⟨tree.size + 2⟩ (stage tree supply (declarationNodes tree.size supply printer id) 5
        (log ++ [⟨.debug, .declarations, "built property test"⟩])) := by
  unfold buildTest
  refine (bind_ok property_eq).trans ((bind_ok (getter_eq there)).trans ?_)
  exact bind_ok (setter_eq there fits known)

theorem buildTest_error (there : NodeId.root.index < tree.size) {printer : Symbol}
    (fits : printer.takesAnything = true)
    (unknown : printer.result.classifier ∉ context.types.classes) :
    buildTest (plainBuilder context) printer (withMain tree supply [] 1 log) =
      .error (.unresolved printer.result.classifier)
        (stage tree supply (abandonedNodes tree.size supply) 5
          (log ++ [⟨.debug, .declarations, "built property test"⟩])) := by
  unfold buildTest
  refine (bind_ok property_eq).trans ((bind_ok (getter_eq there)).trans ?_)
  exact bind_error (setter_error there fits unknown)

/-- The log after both declarations were begun. -/
def builtLog (log : Log) : Log :=
  log ++ [⟨.debug, .declarations, "built function main"⟩] ++
    [⟨.debug, .declarations, "built property test"⟩]

/-- **Both declarations are built** if the type of the call is known. -/
theorem buildAll_eq (there : NodeId.root.index < tree.size) {printer : Symbol}
    (fits : printer.takesAnything = true) (known : context.types.resolve printer.result = .ok ()) :
    buildAll context printer ⟨tree, supply, log⟩ =
      .ok [⟨tree.size⟩, ⟨tree.size + 2⟩] (stage tree supply
        (declarationNodes tree.size supply printer annotated) 5 (builtLog log)) := by
  have main : Builder.annotate ⟨tree.size⟩ .generated [] (stage tree supply
      (declarationNodes tree.size supply printer id) 5 (builtLog log)) =
        .ok () (stage tree supply
          ((declarationNodes tree.size supply printer id).modify 0 annotated) 5 (builtLog log)) :=
    annotate_extend there 0 rfl rfl .generated []
  have test : Builder.annotate ⟨tree.size + 2⟩ .generated [] (stage tree supply
      ((declarationNodes tree.size supply printer id).modify 0 annotated) 5 (builtLog log)) =
        .ok () (stage tree supply (declarationNodes tree.size supply printer annotated) 5
          (builtLog log)) :=
    annotate_extend there 2 rfl rfl .generated []
  have marked : [(⟨tree.size⟩ : NodeId), ⟨tree.size + 2⟩].forM
      (fun id => Builder.annotate id .generated []) (stage tree supply
        (declarationNodes tree.size supply printer id) 5 (builtLog log)) =
        .ok () (stage tree supply (declarationNodes tree.size supply printer annotated) 5
          (builtLog log)) :=
    (bind_ok main).trans (bind_ok test)
  unfold buildAll
  refine (bind_ok (buildMain_eq there)).trans ((bind_ok (buildTest_eq there fits known)).trans ?_)
  exact bind_ok marked

/-- The call is the only thing that may fail. -/
theorem buildAll_error (there : NodeId.root.index < tree.size) {printer : Symbol}
    (fits : printer.takesAnything = true)
    (unknown : printer.result.classifier ∉ context.types.classes) :
    buildAll context printer ⟨tree, supply, log⟩ =
      .error (.unresolved printer.result.classifier)
        (stage tree supply (abandonedNodes tree.size supply) 5 (builtLog log)) := by
  unfold buildAll
  exact (bind_ok (buildMain_eq there)).trans (bind_error (buildTest_error there fits unknown))

end DeclTree.Template
