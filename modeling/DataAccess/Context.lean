import DataAccess.Execution.CompiledQuery
import DataAccess.Query.Scope

/-!
# Contexts: a source, its catalog and its dialect

A `Context` is the entry point to one source. It knows the dialect of the source, which it asks for
once, and how names are looked up and queries executed. The state that goes with it is a `Site`: the
registry of the schemas and the state of the source.
-/

namespace DataAccess

open Catalog Dialect Execution Streaming

/-- What can be configured. -/
structure ContextConfig where
  /-- The name of the default schema. -/
  defaultSchema : Option String := none
  /-- Whether streams apply a window that SQL leaves out. -/
  paginationFallback : Bool := true
deriving DecidableEq, Inhabited

/-- The entry point to one source: what it is, how its SQL is written, and what is configured. -/
structure Context (σ : Type) where
  /-- The source. -/
  source : Source σ
  /-- The dialect of the source. -/
  dialect : SqlDialect
  /-- The configuration. -/
  config : ContextConfig := {}
  /-- Reads the text of a query, if texts are understood. -/
  parser : Option (String → Lookup Query) := none

namespace Context

/-- The context of a source, which is asked for its product (`SqlDialect.ofProbe`). -/
def ofSource (source : Source σ) (config : ContextConfig) (state : σ) : Context σ :=
  { source, config, dialect := .ofProbe (source.product state) }

/-- The site of a context that has not been used: nothing is cached, and the next schema will be
built under `firstId`. -/
def site (ctx : Context σ) (firstId : SchemaId) (state : σ) : Site σ :=
  ⟨{ preferred := ctx.config.defaultSchema, nextId := firstId }, state⟩

/-- Looks something up, with the answers of the source (`Lookup.run`). -/
def lookup (ctx : Context σ) (l : Lookup α) (site : Site σ) : Except Error α × Site σ :=
  l.run ctx.source.answer site

/-- Makes a change and counts the rows it touches. If `u.isDdl` and it succeeds, the cached schemas
are forgotten (`Registry.refresh`), so that later lookups ask the source again. -/
def executeUpdate (ctx : Context σ) (u : Update) (site : Site σ) : Except Error Nat × Site σ :=
  match ctx.source.update u site.source with
  | (.ok count, source) =>
      (.ok count, ⟨if u.isDdl then site.registry.refresh else site.registry, source⟩)
  | (.error e, source) => (.error e, { site with source })

/-- Compiles a query in the dialect of the context. The schemas that are cached count as held beside
those of the query itself. -/
def compile (ctx : Context σ) (q : Query) (site : Site σ) : CompiledQuery :=
  { prepared := .ofQuery ctx.dialect site.registry.holdings ctx.config.paginationFallback q }

/-- Compiles a query, executes it once without parameters and closes it. Its connection is closed
with its stream, which is the only one. -/
def executeQuery (ctx : Context σ) (q : Query) (site : Site σ) :
    Except Error CompiledQuery × Site σ :=
  let compiled := ctx.compile q site
  let (outcome, compiled, s) := compiled.execute ctx.source .empty site.source
  let (compiled, s) := compiled.close ctx.source s
  let (compiled, s) := compiled.dropHandle ctx.source s
  (outcome.map fun _ => compiled, { site with source := s })

/-- Reads the text of a query (`parser`) and executes it, or fails with `unsupported` if there is no
parser. -/
def executeText (ctx : Context σ) (text : String) (site : Site σ) :
    Except Error CompiledQuery × Site σ :=
  match ctx.parser with
  | none => (.error (.unsupported "No query parser configured"), site)
  | some parse => match ctx.lookup (parse text) site with
      | (.ok q, site) => ctx.executeQuery q site
      | (.error e, site) => (.error e, site)

end Context

end DataAccess
