import DataAccess.Catalog.Lookup

/-!
# Lookup of schemas

The lookups that answer with names and schemas: `schemaNames`, `schemaByName?`, `schemas` and
`defaultSchema?`. A schema is looked up by exact name first and then up to case; the name that is
listed is its canonical name, under which it is cached.
-/

namespace DataAccess.Catalog

/-! ## Names -/

/-- The order of schema names: `none` first, then by `≤` on texts. -/
def SchemaName.le : SchemaName → SchemaName → Bool
  | none, _ => true
  | some _, none => false
  | some a, some b => a ≤ b

/-- Schema names in the order `SchemaName.le`, each once. -/
def sortNames (names : List SchemaName) : List SchemaName :=
  (names.mergeSort SchemaName.le).eraseReps

/-- The listed name that a name stands for: the same, or else the first that differs in case alone
(`Text.equalIgnoringCase`). The nameless schema stands only for itself. -/
def canonicalName? (listed : List SchemaName) : SchemaName → Option SchemaName
  | none => if listed.contains none then some none else none
  | some name =>
      let named := listed.filterMap id
      (named.find? (· == name) <|> named.find? fun n => Text.equalIgnoringCase n name).map some

/-- Whether a schema of that name is about the database itself: `Text.lowercase name` begins with
"information" and ends with "schema". Such schemas are no default. -/
def isInformationSchema (name : String) : Bool :=
  let lower := (Text.lowercase name).toList
  "information".toList.isPrefixOf lower && "schema".toList.isSuffixOf lower

namespace Lookup

/-- The schema names in order (`sortNames`), listed by the source unless they are cached. -/
def schemaNames : Lookup (List SchemaName) := do
  match ← step .readNames with
  | some names => return names
  | none =>
      let listed ← call .listNames
      step (.storeNames (sortNames listed))

/-! ## Schemas -/

/-- Loads a listed schema and publishes it under `cacheKey name`, or takes the one that another
caller has published. A listed name that cannot be loaded is the error `declaredSchemaMissing`. -/
def loadSchema (name : SchemaName) : Lookup Schema := do
  match ← call (.load name) with
  | some schema => step (.publish (cacheKey name) schema)
  | none => fail (.declaredSchemaMissing name)

/-- The schema that is cached under `cacheKey name`, loaded if there is none (`loadSchema`). -/
def listedSchema (name : SchemaName) : Lookup Schema := do
  match ← step (.readSchema (cacheKey name)) with
  | some schema => return schema
  | none => loadSchema name

/-- The schema of a name: what is cached under `cacheKey name`, before any list is asked for, or
else the schema of the listed name for which `name` stands (`canonicalName?`). -/
def schemaByName? (name : SchemaName) : Lookup (Option Schema) := do
  match ← step (.readSchema (cacheKey name)) with
  | some schema => return some schema
  | none =>
      match canonicalName? (← schemaNames) name with
      | some canonical => return some (← listedSchema canonical)
      | none => return none

/-- All schemas, in the order of `schemaNames`. -/
def schemas : Lookup (List Schema) := do
  (← schemaNames).mapM listedSchema

/-! ## The default schema -/

/-- The schema with the most tables among `best` and those of the given names, the first of several.
Names with `isInformationSchema` do not count. -/
def fullestSchema? (best : Option Schema) : List SchemaName → Lookup (Option Schema)
  | [] => return best
  | name :: rest =>
      if name.any isInformationSchema then fullestSchema? best rest
      else do
        match ← schemaByName? name with
        | none => fullestSchema? best rest
        | some schema =>
            if best.all fun b => b.tables.length < schema.tables.length then
              fullestSchema? (some schema) rest
            else
              fullestSchema? best rest

/-- The schema of a name that may not be set, or not be listed (`schemaByName?`). -/
def schemaIfSet? : Option String → Lookup (Option Schema)
  | some name => schemaByName? (some name)
  | none => return none

/-- The schema for labels that name none: the configured one (`readPreferred`), the source's own
default (`defaultName`), the only one, or the one with the most tables (`fullestSchema?`). A name
that is set and stands for no listed one is passed over. -/
def defaultSchema? : Lookup (Option Schema) := do
  match ← schemaIfSet? (← step .readPreferred) with
  | some schema => return some schema
  | none =>
      match ← schemaIfSet? (← call .defaultName) with
      | some schema => return some schema
      | none =>
          match ← schemaNames with
          | [name] => schemaByName? name
          | names => fullestSchema? none names

end Lookup

end DataAccess.Catalog
