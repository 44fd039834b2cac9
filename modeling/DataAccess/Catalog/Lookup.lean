import DataAccess.Catalog.Registry
import DataAccess.Error

/-!
# Lookup: what a caller asks of a registry and its source

A `Lookup` is a finite tree of requests: steps on the cache and calls to the source, each followed
by what is done with the reply. It says nothing of who else is using the registry. Run by itself
(`Lookup.run`) it takes its steps one after another; callers that share a registry may interleave
theirs in any order.

A lookup ends with a result or with an error. An error of the source ends it at once.
-/

namespace DataAccess.Catalog

/-! ## Calls to the source -/

/-- A question to the source of the schemas. -/
inductive SourceCall where
  /-- The names of all schemas. -/
  | listNames
  /-- The source's own default schema. -/
  | defaultName
  /-- The schema of that name. -/
  | load (name : SchemaName)

/-- What a source answers to a call, if it does not fail. -/
abbrev SourceCall.Answer : SourceCall → Type
  | listNames => List SchemaName
  | defaultName => Option String
  | load _ => Option SchemaDecl

/-- What a lookup receives for a call: the answer, except that a `SchemaDecl` that is loaded is
built on arrival, to a `Schema`. -/
abbrev SourceCall.Reply : SourceCall → Type
  | listNames => List SchemaName
  | defaultName => Option String
  | load _ => Option Schema

/-- Receives an answer. A declaration `d` is built under the next identity of the registry
(`Registry.build`), which is the only way in which an answer changes the registry. -/
def SourceCall.receive : (call : SourceCall) → call.Answer → Registry → call.Reply × Registry
  | listNames, names, r => (names, r)
  | defaultName, name, r => (name, r)
  | load _, none, r => (none, r)
  | load _, some d, r => ((r.build d).1, (r.build d).2)

/-! ## Trees of requests -/

/-- A finite tree of requests with results of type `α`. -/
inductive Lookup (α : Type) : Type where
  /-- End with a result. -/
  | done (a : α)
  /-- End with an error. -/
  | fail (e : Error)
  /-- Take a step on the cache and go on with its reply. -/
  | cache (step : CacheStep) (next : step.Reply → Lookup α)
  /-- Ask the source and go on with its reply. -/
  | ask (call : SourceCall) (next : call.Reply → Lookup α)

namespace Lookup

/-- Goes on with the result of a lookup: `l.bind f` is the tree `l` with `f a` in place of each
`done a`. -/
def bind : Lookup α → (α → Lookup β) → Lookup β
  | done a, f => f a
  | fail e, _ => fail e
  | cache step next, f => cache step fun reply => (next reply).bind f
  | ask call next, f => ask call fun reply => (next reply).bind f

instance : Monad Lookup where
  pure := done
  bind := bind

theorem bind_done (l : Lookup α) : l.bind done = l := by
  induction l with
  | done => rfl
  | fail => rfl
  | cache step next ih => simp only [bind, ih]
  | ask call next ih => simp only [bind, ih]

theorem bind_assoc (l : Lookup α) (f : α → Lookup β) (g : β → Lookup γ) :
    (l.bind f).bind g = l.bind fun a => (f a).bind g := by
  induction l with
  | done => rfl
  | fail => rfl
  | cache step next ih => simp only [bind, ih]
  | ask call next ih => simp only [bind, ih]

instance : LawfulMonad Lookup :=
  LawfulMonad.mk' Lookup bind_done (fun _ _ => rfl) bind_assoc

/-- One step on the cache. -/
def step (s : CacheStep) : Lookup s.Reply :=
  cache s done

/-- One call to the source. -/
def call (c : SourceCall) : Lookup c.Reply :=
  ask c done

/-- A result that may be an error. -/
def ofExcept : Except Error α → Lookup α
  | .ok a => done a
  | .error e => fail e

end Lookup

/-! ## Running a lookup by itself -/

/-- A registry beside the state of its source. -/
structure Site (σ : Type) where
  /-- The registry. -/
  registry : Registry
  /-- The state of the source. -/
  source : σ

/-- How calls to a source are answered. While a source works on its answer other callers may use the
registry, so the answer comes with the state of both (`Site`). -/
abbrev Answering (σ : Type) : Type :=
  (call : SourceCall) → Site σ → Except Error call.Answer × Site σ

/-- Answers of a source by `answer`, from its own state, while nobody else uses the registry. -/
def Answering.ofSource (answer : (call : SourceCall) → σ → Except Error call.Answer × σ) :
    Answering σ := fun call site =>
  let (reply, source) := answer call site.source
  (reply, { site with source })

/-- Runs a lookup to its end, its requests one after another: steps on the cache by
`Registry.perform`, calls by `answer`. The first call that fails ends it, and the site stays as it
is then. -/
def Lookup.run (answer : Answering σ) : Lookup α → Site σ → Except Error α × Site σ
  | .done a, site => (.ok a, site)
  | .fail e, site => (.error e, site)
  | .cache step next, site =>
      let (reply, registry) := site.registry.perform step
      (next reply).run answer { site with registry }
  | .ask call next, site => match answer call site with
      | (.error e, site) => (.error e, site)
      | (.ok a, site) =>
          let (reply, registry) := call.receive a site.registry
          (next reply).run answer { site with registry }

/-- A composed lookup runs its parts one after another: `(l.bind f).run` is `(f a).run` from where
`l.run` has come to `a`, and fails where `l.run` fails. -/
theorem Lookup.run_bind (answer : Answering σ) (l : Lookup α) (f : α → Lookup β) (site : Site σ) :
    (l.bind f).run answer site = match l.run answer site with
      | (.ok a, site) => (f a).run answer site
      | (.error e, site) => (.error e, site) := by
  induction l generalizing site with
  | done => rfl
  | fail => rfl
  | cache step next ih => simp only [bind, run, ih]
  | ask call next ih =>
      simp only [bind, run]
      split
      · rfl
      · simp only [ih]

end DataAccess.Catalog
