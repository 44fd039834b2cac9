import DataAccess.Catalog.SchemaLookup

/-!
# Scripted catalogs: sources of schemas that follow a script

A `ScriptedCatalog` answers from a list of entries and records every call. An entry may load a
schema, load nothing, or fail; the list itself may fail too.

A script may also ask for a race. The first time that the names are listed, or that the schema of an
entry is loaded, a rival uses the same registry before the answer is given
(`ScriptedCatalog.answer`).
-/

namespace DataAccess.Catalog

/-- A listed schema. With `race`, a rival looks up the same name while it is loaded for the first
time. -/
structure ScriptedEntry where
  /-- The name. -/
  name : SchemaName
  /-- What is loaded. -/
  schema : Option SchemaDecl
  /-- The error with which loading fails. -/
  error : Option Error := none
  /-- Whether a rival looks up the same name during the first load. -/
  race : Bool := false

/-- A source of schemas that follows a script. -/
structure ScriptedCatalog where
  /-- The listed schemas. -/
  entries : List ScriptedEntry
  /-- The default schema. -/
  defaultName : Option String := none
  /-- The error with which listing fails. -/
  namesError : Option Error := none
  /-- The error with which the question for the default schema fails. -/
  defaultError : Option Error := none
  /-- A name that the first listing contains in addition, while a rival lists the names too. -/
  namesRace : Option String := none
  /-- The front of the name of an empty table that is added to whatever is loaded. The number of the
  load follows it. -/
  loadTag : Option String := none
  /-- The number of loads that did not fail. -/
  loads : Nat := 0
  /-- The calls, the last one first. -/
  calls : List SourceCall := []

namespace ScriptedCatalog

/-- What is loaded for an entry at the present count of loads. -/
def loaded (c : ScriptedCatalog) (e : ScriptedEntry) : Option SchemaDecl :=
  e.schema.map fun d => match c.loadTag with
    | some tag => d.append { name := tag ++ toString c.loads }
    | none => d

/-- The entries of which those of a name race no more. -/
def withoutRace (c : ScriptedCatalog) (name : SchemaName) : List ScriptedEntry :=
  c.entries.map fun e => if e.name == name then { e with race := false } else e

/-- The answer to a call that has been recorded, with the lookup that a rival makes before it is
given, if any. -/
def reply : (call : SourceCall) → ScriptedCatalog →
    Except Error call.Answer × Option (Lookup Unit) × ScriptedCatalog
  | .listNames, c => match c.namesError with
      | some e => (.error e, none, c)
      | none =>
          let names := c.entries.map (·.name)
          match c.namesRace with
          | some more =>
              (.ok (names ++ [some more]), some (Lookup.schemaNames.bind fun _ => .done ()),
                { c with namesRace := none })
          | none => (.ok names, none, c)
  | .defaultName, c => match c.defaultError with
      | some e => (.error e, none, c)
      | none => (.ok c.defaultName, none, c)
  | .load name, c => match c.entries.find? (·.name == name) with
      | none => (.ok none, none, c)
      | some entry => match entry.error with
          | some e => (.error e, none, c)
          | none =>
              let c := { c with loads := c.loads + 1 }
              if entry.race then
                (.ok (c.loaded entry), some ((Lookup.schemaByName? name).bind fun _ => .done ()),
                  { c with entries := c.withoutRace name })
              else
                (.ok (c.loaded entry), none, c)

/-- Answers a call. Rivals may race too, but not more deeply than `depth`. -/
def answerTo (depth : Nat) : Answering ScriptedCatalog := fun call site =>
  let c := { site.source with calls := call :: site.source.calls }
  let (answer, rival, source) := reply call c
  let site := { site with source }
  match depth, rival with
  | depth + 1, some l => (answer, (l.run (answerTo depth) site).2)
  | _, _ => (answer, site)

/-- The number of races that are left: the entries with `race`, and `namesRace`. -/
def races (c : ScriptedCatalog) : Nat :=
  c.entries.countP (·.race) + c.namesRace.toList.length

/-- Answers a call, after all races that it leads to: `answerTo` with the number of `races` as the
depth. -/
def answer : Answering ScriptedCatalog := fun call site =>
  answerTo site.source.races call site

end ScriptedCatalog

end DataAccess.Catalog
