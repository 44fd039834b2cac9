import DataAccess.Catalog.Schema

/-!
# Registry: the cache of built schemas

A `Registry` holds the list of schema names, once a source has been asked for it, and the schemas
that have been built since. Several callers share one registry, so what a caller may do in one go is
a `CacheStep`: a read, or a write that yields to an earlier writer. `Registry.perform` is the effect
of one step.

The first writer wins: `perform` never replaces a list of names or a schema that is present. Only
`refresh` empties the cache.
-/

namespace DataAccess.Catalog

/-- The key of a schema in the cache. -/
abbrev CacheKey := String

/-- The key under which the nameless schema is cached. It is a text that a schema could have as its
name. -/
def namelessKey : CacheKey := "<tabula.schema.name.null>"

/-- The cache key of a schema name: the name itself, or `namelessKey` for `none`. -/
def cacheKey (name : SchemaName) : CacheKey :=
  name.getD namelessKey

/-- The cache of built schemas: the sorted list of `names` once it has been asked for, and `schemas`
by their keys (`cacheKey`). -/
structure Registry where
  /-- The configured name of the default schema. -/
  preferred : Option String := none
  /-- The sorted schema names, once listed. -/
  names : Option (List SchemaName) := none
  /-- The schemas built since the last refresh, with distinct keys. -/
  schemas : List (CacheKey × Schema) := []
  /-- The identity of the next schema to be built. -/
  nextId : SchemaId := 0
deriving Inhabited

/-! ## Steps -/

/-- What a caller may do to the cache in one go. What other callers do comes between two steps. -/
inductive CacheStep where
  /-- Read the configured name of the default schema. -/
  | readPreferred
  /-- Read the list of names. -/
  | readNames
  /-- Store a list of names, unless there is one. -/
  | storeNames (names : List SchemaName)
  /-- Read a schema. -/
  | readSchema (key : CacheKey)
  /-- Store a schema, unless there is one under that key. -/
  | publish (key : CacheKey) (schema : Schema)

/-- What a step answers: a write answers with what is stored afterwards. -/
abbrev CacheStep.Reply : CacheStep → Type
  | readPreferred => Option String
  | readNames => Option (List SchemaName)
  | storeNames _ => List SchemaName
  | readSchema _ => Option Schema
  | publish _ _ => Schema

namespace Registry

/-- The cached schema of that key. -/
def schema? (r : Registry) (key : CacheKey) : Option Schema :=
  r.schemas.lookup key

/-- The number of cached schemas. -/
def size (r : Registry) : Nat := r.schemas.length

/-- The effect and the answer of one step. A value that is there already is kept and answered, so
the first writer wins. -/
def perform (r : Registry) : (step : CacheStep) → step.Reply × Registry
  | .readPreferred => (r.preferred, r)
  | .readNames => (r.names, r)
  | .storeNames names => match r.names with
      | some present => (present, r)
      | none => (names, { r with names := some names })
  | .readSchema key => (r.schema? key, r)
  | .publish key schema => match r.schema? key with
      | some present => (present, r)
      | none => (schema, { r with schemas := r.schemas ++ [(key, schema)] })

/-- Builds a schema under the identity `r.nextId`, which no other one has. -/
def build (r : Registry) (d : SchemaDecl) : Schema × Registry :=
  (d.build r.nextId, { r with nextId := r.nextId + 1 })

/-- Empties the cache. -/
def refresh (r : Registry) : Registry :=
  { r with names := none, schemas := [] }

/-- What the registry holds: the cached schemas. -/
def holdings (r : Registry) : Holdings :=
  ⟨r.schemas.map fun e => e.2.id, []⟩

@[simp]
theorem schema?_refresh (r : Registry) (key : CacheKey) : r.refresh.schema? key = none := rfl

@[simp]
theorem size_refresh (r : Registry) : r.refresh.size = 0 := rfl

/-- After `.publish key s`, what it answers is found under `key`: `s`, or the schema that was there
before. -/
theorem schema?_perform_publish (r : Registry) (key : CacheKey) (s : Schema) :
    (r.perform (.publish key s)).2.schema? key = some (r.perform (.publish key s)).1 := by
  cases h : r.schema? key with
  | some present => simp [perform, h]
  | none =>
      have h' : List.lookup key r.schemas = none := h
      simp [perform, schema?, List.lookup_append, h']

/-- The step `.publish key s` leaves every `other ≠ key` alone. -/
theorem schema?_perform_publish_of_ne (r : Registry) {key other : CacheKey} (s : Schema)
    (hne : other ≠ key) : (r.perform (.publish key s)).2.schema? other = r.schema? other := by
  cases h : r.schema? key with
  | some present => simp [perform, h]
  | none =>
      have h' : List.lookup key r.schemas = none := h
      have hb : (other == key) = false := by simpa using hne
      simp [perform, schema?, h', List.lookup_append, List.lookup_cons, hb]

end Registry

end DataAccess.Catalog
