/-
The configuration of the generator and its JSON form, in which every member may be missing.
-/

import DeclTree.Json.Form

namespace DeclTree

/-- What the generator is told. The two texts are reported and used for nothing else. -/
structure Config where
  string : String := ""
  file : String := ""
  /-- Whether the module is shown before anything is generated. -/
  dumpTree : Bool := false
deriving DecidableEq, Repr

namespace Config

/-- Reads the members of a configuration from those of an object. -/
def ofMembers? (members : List (Option String × Json)) : Option Config :=
  if Json.hasTextNames members then do
    let string ← Json.optional? "string" "" members
    let file ← Json.optional? "file" "" members
    let dumpTree ← Json.optional? "dump_tree" false members
    return ⟨string, file, dumpTree⟩
  else none

/-- Reads the members of a configuration in their order, of which the last ones may be missing. -/
def ofItems? : List Json → Option Config
  | [] => some {}
  | [string] => do
      let string ← JsonForm.ofJson? string
      return { string := string }
  | [string, file] => do
      let string ← JsonForm.ofJson? string
      let file ← JsonForm.ofJson? file
      return { string := string, file := file }
  | [string, file, dumpTree] => do
      let string ← JsonForm.ofJson? string
      let file ← JsonForm.ofJson? file
      let dumpTree ← JsonForm.ofJson? dumpTree
      return { string := string, file := file, dumpTree := dumpTree }
  | _ => none

end Config

instance : JsonForm Config where
  toJson config :=
    .ofFields [("string", .ofText config.string), ("file", .ofText config.file),
      ("dump_tree", .boolean config.dumpTree)]
  ofJson?
    | .object members => Config.ofMembers? members
    | .array items => Config.ofItems? items
    | _ => none

end DeclTree
