/-
**JSON that loses nothing of a view.**

`Json.Describes` says which JSON stands for which views, whatever the order of the members: an
object with the kind, the name and the type of a node, its annotations and what describes its
children, where lists that are empty are left out and nothing else is there.

* `describes_toJsons`: a view is described by the JSON that it is turned into;
* `Describes.unique`: **JSON describes one view at most**, as a list that is left out is the empty
  one;
* `dumpJson_tells`: so the text of a subtree, which is read as this JSON (`parse?_pretty`),
  describes its view and no other, and **two texts are equal exactly if the views are**.
-/

import DeclTree.Json.Form
import DeclTree.Proofs.Json.Value
import DeclTree.Proofs.Tree.Shown

namespace DeclTree

namespace Json

/-- The values of a member for a list: none for an empty list, else the array of its items. -/
def listValues (items : List Json) : List Json := if items.isEmpty then [] else [.array items]

theorem listValues_inj {items others : List Json} (same : listValues items = listValues others) :
    items = others := by
  unfold listValues at same
  cases items <;> cases others <;> simp_all

/-- JSON values that describe some views, one by one. -/
inductive Describes : List Json → List View → Prop
  | nil : Describes [] []
  /-- An object with the members of a view, each of them once, and no others. -/
  | cons {members : List (Option String × Json)} {items rest : List Json} {kind name ty : String}
      {annotations : List String} {children views : List View}
      (known : ∀ member ∈ members,
        member.1 ∈ ["kind", "name", "type", "annotations", "children"].map some)
      (kinds : valuesOf "kind" members = [.ofText kind])
      (names : valuesOf "name" members = [.ofText name])
      (types : valuesOf "type" members = [.ofText ty])
      (tags : valuesOf "annotations" members = listValues (annotations.map .ofText))
      (parts : valuesOf "children" members = listValues items)
      (below : Describes items children) (beside : Describes rest views) :
      Describes (.object members :: rest) (.node kind name ty annotations children :: views)

theorem ofText_inj {text other : String} (same : ofText text = ofText other) : text = other := by
  cases same
  rfl

/-- **JSON describes one view at most.** -/
theorem Describes.unique {jsons : List Json} {views others : List View}
    (describes : Describes jsons views) (also : Describes jsons others) : views = others := by
  induction describes generalizing others with
  | nil =>
      cases also
      rfl
  | cons known kinds names types tags parts below beside belowIh besideIh =>
      cases also with
      | cons known' kinds' names' types' tags' parts' below' beside' =>
          have kind := ofText_inj (List.singleton_inj.mp (kinds.symm.trans kinds'))
          have name := ofText_inj (List.singleton_inj.mp (names.symm.trans names'))
          have ty := ofText_inj (List.singleton_inj.mp (types.symm.trans types'))
          have annotations := List.map_injective_iff.mpr (fun _ _ => ofText_inj)
            (listValues_inj (tags.symm.trans tags'))
          rw [← listValues_inj (parts.symm.trans parts')] at below'
          rw [kind, name, ty, annotations, belowIh below', besideIh beside']

/-! ### The JSON of a view -/

theorem valuesOf_append (name : String) (members more : List (Option String × Json)) :
    valuesOf name (members ++ more) = valuesOf name members ++ valuesOf name more := by
  unfold valuesOf
  rw [List.filter_append, List.map_append]

/-- A member for a list is there if the list is not empty. -/
theorem valuesOf_listField (name field : String) (items : List Json) :
    valuesOf name ((listField field items).map fun field => (some field.1, field.2)) =
      if field = name then listValues items else [] := by
  unfold listField listValues valuesOf
  cases items with
  | nil => simp
  | cons item items => by_cases same : field = name <;> simp [same]

theorem mem_listField {name : String} {items : List Json} {field : String × Json}
    (listed : field ∈ listField name items) : field.1 = name := by
  unfold listField at listed
  split at listed
  · exact absurd listed List.not_mem_nil
  · rw [List.mem_singleton.mp listed]

/-- The fields of a view, apart from its children. -/
def viewFields (kind name ty : String) : List (String × Json) :=
  [("kind", .ofText kind), ("name", .ofText name), ("type", .ofText ty)]

/-- **A view is described by its JSON.** -/
theorem describes_toJsons : ∀ views : List View, Describes (View.toJsons views) views
  | [] => .nil
  | .node kind name ty annotations children :: views => by
      have below := describes_toJsons children
      have beside := describes_toJsons views
      have values : ∀ asked, valuesOf asked ((viewFields kind name ty ++
          listField "annotations" (annotations.map .ofText) ++
          listField "children" (View.toJsons children)).map fun field => (some field.1, field.2)) =
            valuesOf asked ((viewFields kind name ty).map fun field => (some field.1, field.2)) ++
              (if "annotations" = asked then listValues (annotations.map .ofText) else []) ++
              if "children" = asked then listValues (View.toJsons children) else [] := by
        intro asked
        rw [List.map_append, List.map_append, valuesOf_append, valuesOf_append,
          valuesOf_listField, valuesOf_listField]
      rw [View.toJsons, View.toJson]
      refine .cons ?_ (values "kind") (values "name") (values "type")
        ((values "annotations").trans (List.append_nil _)) (values "children") below beside
      intro member listed
      obtain ⟨field, among, rfl⟩ := List.mem_map.mp listed
      refine List.mem_map_of_mem ?_
      rcases List.mem_append.mp among with others | nested
      · rcases List.mem_append.mp others with plain | tag
        · simp only [List.mem_cons, List.not_mem_nil, or_false] at plain
          rcases plain with rfl | rfl | rfl <;> simp
        · rw [mem_listField tag]
          simp
      · rw [mem_listField nested]
        simp

/-- The JSON of a view describes this view and no other. -/
theorem describes_toJson_iff (view : View) (views : List View) :
    Describes [view.toJson] views ↔ views = [view] :=
  ⟨fun describes => describes.unique (describes_toJsons [view]),
    fun same => same ▸ describes_toJsons [view]⟩

end Json

namespace Tree

theorem dumpJson_eq {tree : Tree} {id : NodeId} {view : View} (viewed : tree.view id = .ok view) :
    tree.dumpJson id = .ok view.toJson.pretty := by
  unfold dumpJson
  rw [viewed]
  rfl

end Tree

/-- Views with the same text are the same. -/
theorem View.pretty_inj {view other : View} (same : view.toJson.pretty = other.toJson.pretty) :
    view = other := by
  have read := Json.parse?_pretty view.toJson
  rw [same, Json.parse?_pretty] at read
  have describes := (Json.describes_toJson_iff view [view]).mpr rfl
  rw [← Option.some.inj read, Json.describes_toJson_iff] at describes
  exact List.singleton_inj.mp describes

/-- **The JSON text of a subtree tells its view**, for nodes of any trees that hosts can come to and
whatever characters their names have. There is such a text; strict reading gives JSON that describes
the view of the node, member by member, and no other view; and two texts are equal exactly if the
two views are. -/
theorem dumpJson_tells {workspace other : Workspace} (reachable : workspace.Reachable)
    (otherReachable : other.Reachable) {id twin : NodeId}
    (there : id.index < workspace.tree.size) (twinThere : twin.index < other.tree.size) :
    (∃ view text json, workspace.tree.view id = .ok view ∧ workspace.tree.dumpJson id = .ok text ∧
      Json.parse? text = some json ∧ ∀ views, Json.Describes [json] views ↔ views = [view]) ∧
    (workspace.tree.dumpJson id = other.tree.dumpJson twin ↔
      workspace.tree.view id = other.tree.view twin) := by
  obtain ⟨view, viewed, -⟩ := reachable.isForest.view_iff there
  obtain ⟨like, twinViewed, -⟩ := otherReachable.isForest.view_iff twinThere
  refine ⟨⟨view, _, view.toJson, viewed, Tree.dumpJson_eq viewed, Json.parse?_pretty _,
    Json.describes_toJson_iff view⟩, ?_⟩
  rw [Tree.dumpJson_eq viewed, Tree.dumpJson_eq twinViewed, viewed, twinViewed]
  refine ⟨fun same => ?_, fun same => ?_⟩
  · rw [View.pretty_inj (Except.ok.inj same)]
  · rw [Except.ok.inj same]

/-- A module whose name looks like JSON, with an annotation that holds a quote and a control. -/
def Workspace.ofQuotes : Workspace :=
  (ofModule (.identifier "\", \"type\": \"") {} []).after
    [.annotate .root (.other ⟨"a\"b\x01"⟩) []]

theorem dumpJson_tells_quotes :
    let tree := Workspace.ofQuotes.tree
    (Workspace.ofQuotes.Reachable ∧ NodeId.root.index < tree.size) ∧
    ∃ json, Json.parse? ("\x7b\n  \"kind\": \"MODULE\",\n" ++
        "  \"name\": \"\\\", \\\"type\\\": \\\"\",\n" ++
        "  \"type\": \"Unit\",\n  \"annotations\": [\n    \"a\\\"b\\u0001\"\n  ]\n\x7d") =
          some json ∧
      Json.Describes [json]
        [.node "MODULE" "\", \"type\": \"" "Unit" ["a\"b\x01"] []] := by
  intro tree
  have reachable : Workspace.ofQuotes.Reachable := Workspace.reachable_after _ _ _ _
  have there : NodeId.root.index < tree.size := by decide
  obtain ⟨view, text, json, viewed, dumped, read, describes⟩ :=
    (dumpJson_tells reachable reachable there there).1
  have shown : Workspace.ofQuotes.tree.view .root =
      .ok (.node "MODULE" "\", \"type\": \"" "Unit" ["a\"b\x01"] []) := by rfl
  refine ⟨⟨reachable, there⟩, json, ?_, (describes _).mpr ?_⟩
  · rw [← read]
    refine congrArg Json.parse? (Except.ok.inj (Eq.trans ?_ dumped))
    decide +kernel
  · rw [Except.ok.inj (shown.symm.trans viewed)]

end DeclTree
