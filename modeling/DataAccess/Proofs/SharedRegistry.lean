import DataAccess.Catalog.Provider
import DataAccess.Proofs.LookupRules

/-!
# Shared registry: the first writer wins

Callers share a registry and a source. Each takes the requests of its lookup one by one, in any
order with those of the others (`Shared.run`), so that several may load a schema before one of them
publishes it.

* **Alone** (`run_of_returned_alone`): a caller that is alone comes to the answer of its lookup.
* **One event** (`assured_step`): as long as nobody refreshes the registry, it grows, and what each
  caller is assured of holds whatever the others do.
* **Running** (`assured_run`): the same along all events.
* **One after another** (`sound_recorded`): a source that writes down what it loads never writes
  down two names with one key.
* **The first writer wins** (`first_writer_wins`).
-/

namespace DataAccess.Catalog

variable {σ : Type}

/-! ## Callers and events -/

/-- Someone who looks something up, with what is left of the lookup `request.lookup`. -/
structure Caller where
  /-- What is looked up. -/
  request : Request
  /-- What is left of the lookup. -/
  rest : Lookup request.Answer

/-- A registry and a source that callers share. Requests of their lookups are taken in any order
(`SharedEvent`), and each of them is atomic. -/
structure Shared (σ : Type) where
  /-- The registry and the source. -/
  site : Site σ
  /-- The callers, in the order of their entrance. -/
  callers : List Caller := []

/-- What happens at a shared registry. A lookup is `advance`d by one request at a time, so others
come in between. -/
inductive SharedEvent where
  /-- Someone enters with a request. -/
  | enter (q : Request)
  /-- The caller of that number takes the next request of its lookup. -/
  | advance (i : Nat)
  /-- The registry is refreshed. -/
  | refresh
deriving DecidableEq

namespace Shared

/-- A registry that is new, without callers. -/
def new (preferred : Option String) (firstId : SchemaId) (source : σ) : Shared σ :=
  ⟨⟨{ preferred, nextId := firstId }, source⟩, []⟩

variable (answer : (call : SourceCall) → σ → Except Error call.Answer × σ)

/-- One event. The number of no caller, and a caller who has come to an end, change nothing. -/
def step (s : Shared σ) : SharedEvent → Shared σ
  | .enter q => { s with callers := s.callers ++ [⟨q, q.lookup⟩] }
  | .advance i => match s.callers[i]? with
      | some k =>
          ⟨(k.rest.advance answer s.site).2,
            s.callers.set i ⟨k.request, (k.rest.advance answer s.site).1⟩⟩
      | none => s
  | .refresh => { s with site := ⟨s.site.registry.refresh, s.site.source⟩ }

/-- Events, one after another. -/
def run (s : Shared σ) (es : List SharedEvent) : Shared σ :=
  es.foldl (step answer) s

/-- Whether the caller `i` asked for `q` and has come to the answer `a`. -/
def Returned (s : Shared σ) (i : Nat) (q : Request) (a : q.Answer) : Prop :=
  s.callers[i]? = some ⟨q, .done a⟩

/-- A caller that is alone takes the requests that its lookup takes by itself: after any number of
them, what is left runs to the same end. -/
theorem run_alone (q : Request) (l : Lookup q.Answer) (w : Site σ) (n : Nat) :
    ∃ l' w', run answer ⟨w, [⟨q, l⟩]⟩ (List.replicate n (.advance 0)) = ⟨w', [⟨q, l'⟩]⟩ ∧
      l'.run (.ofSource answer) w' = l.run (.ofSource answer) w := by
  induction n generalizing l w with
  | zero => exact ⟨l, w, rfl, rfl⟩
  | succ n ih =>
      obtain ⟨l', w', hrun, hsame⟩ := ih (l.advance answer w).1 (l.advance answer w).2
      exact ⟨l', w', hrun, hsame.trans (l.run_advance answer w)⟩

/-- A caller that is alone comes to the answer to which `q.lookup.run` comes. -/
theorem run_of_returned_alone {q : Request} {a : q.Answer} {w : Site σ} {n : Nat}
    (h : (run answer ⟨w, [⟨q, q.lookup⟩]⟩ (List.replicate n (.advance 0))).Returned 0 q a) :
    q.lookup.run (.ofSource answer) w =
      (.ok a, (run answer ⟨w, [⟨q, q.lookup⟩]⟩ (List.replicate n (.advance 0))).site) := by
  obtain ⟨l', w', hrun, hsame⟩ := run_alone answer q q.lookup w n
  rw [hrun] at h ⊢
  obtain ⟨-, hdone⟩ := Caller.mk.inj (Option.some.inj h)
  obtain rfl : l' = .done a := eq_of_heq hdone
  exact hsame.symm

/-! ## What callers are assured of -/

/-- Lookups keep schemas under the keys of listed names (`Registry.Filed`), and may fail. -/
def filing : Upkeep (.shared answer) where
  inv w := w.registry.Filed
  mayFail := True
  filed h := h
  stable h hgrows := h.grows hgrows

/-- All lookups keep schemas there. -/
theorem sound_filing : (filing answer).Sound := by
  apply Upkeep.sound_of_calls
  · intro call w e s hfiled _
    exact ⟨hfiled, trivial⟩
  · intro w w' listed s hfiled _ hgrows _ w'' hgrows'
    exact ((Registry.Filed.grows hfiled hgrows).grows hgrows').grows (Registry.grows_storeNames _ _)
  · intro name w s hfiled _ _
    exact ⟨hfiled, trivial⟩
  · intro name w w' d s hfiled hlists _ hgrows _ w'' hgrows'
    have hbuilt : w'.registry.Grows (w'.registry.build d).2 :=
      Registry.grows_receive _ (.load name) (some d)
    have hall := (Registry.Grows.trans hgrows hbuilt).trans hgrows'
    exact (Registry.Filed.grows hfiled hall).grows (Registry.grows_publish (hlists.grows hall) _)
  · intro w name? s hfiled _
    exact hfiled

/-- What a caller is assured of: if it comes to an answer, that `Stands` from then on, whatever
others do meanwhile. -/
def Assured (w : Site σ) (k : Caller) : Prop :=
  k.rest.Ensures (.shared answer) ((filing answer).Kept fun a r => k.request.Stands r a) w

variable {answer} {s : Shared σ}

/-- **One event**: as long as nobody refreshes the registry it `Grows`, and all callers stay
`Assured`. -/
theorem assured_step {e : SharedEvent} (he : e ≠ .refresh) (hfiled : s.site.registry.Filed)
    (hcallers : ∀ k ∈ s.callers, Assured answer s.site k) :
    s.site.registry.Grows (s.step answer e).site.registry ∧
      ∀ k ∈ (s.step answer e).callers, Assured answer (s.step answer e).site k := by
  cases e with
  | enter q =>
      refine ⟨.refl _, ?_⟩
      intro k hk
      rcases List.mem_append.mp hk with hold | hnew
      · exact hcallers k hold
      · obtain rfl := List.mem_singleton.mp hnew
        exact (sound_filing answer).lookup q s.site hfiled trivial
  | advance i =>
      unfold step
      rcases hi : s.callers[i]? with _ | k
      · simp only [hi]
        exact ⟨.refl _, hcallers⟩
      · simp only [hi]
        obtain ⟨hgrows, hk⟩ := Lookup.ensures_advance (hcallers k (List.mem_of_getElem? hi))
        refine ⟨hgrows, ?_⟩
        intro k' hk'
        rcases List.mem_or_eq_of_mem_set hk' with hother | rfl
        · exact Lookup.ensures_of_moves (hcallers k' hother) hgrows
        · exact hk
  | refresh => exact absurd rfl he

/-- **Running**: the registry `Grows` along events without a refresh, and all callers are `Assured`,
by induction on the events. -/
theorem assured_run {es : List SharedEvent} (hes : .refresh ∉ es) (hfiled : s.site.registry.Filed)
    (hcallers : ∀ k ∈ s.callers, Assured answer s.site k) :
    s.site.registry.Grows (s.run answer es).site.registry ∧
      ∀ k ∈ (s.run answer es).callers, Assured answer (s.run answer es).site k := by
  induction es generalizing s with
  | nil => exact ⟨.refl _, hcallers⟩
  | cons e es ih =>
      have he : e ≠ .refresh := by
        rintro rfl
        exact hes List.mem_cons_self
      obtain ⟨hgrows, hassured⟩ := assured_step he hfiled hcallers
      have hrest : .refresh ∉ es := fun hmem => hes (List.mem_cons_of_mem _ hmem)
      obtain ⟨hgrows', hassured'⟩ := ih hrest (hfiled.grows hgrows) hassured
      exact ⟨hgrows.trans hgrows', hassured'⟩

/-- An answer `a` that was returned after `es` `Stands` after all `later` events, too. -/
theorem stands_of_returned {es later : List SharedEvent} {i : Nat} {q : Request} {a : q.Answer}
    (hes : .refresh ∉ es) (hlater : .refresh ∉ later) (hfiled : s.site.registry.Filed)
    (hcallers : ∀ k ∈ s.callers, Assured answer s.site k) (ha : (s.run answer es).Returned i q a) :
    q.Stands ((s.run answer es).run answer later).site.registry a := by
  obtain ⟨hgrows, hassured⟩ := assured_run hes hfiled hcallers
  obtain ⟨hgrows', -⟩ := assured_run hlater (hfiled.grows hgrows) hassured
  have hdone := hassured _ (List.mem_of_getElem? ha)
  exact (hdone _ hgrows').2

end Shared

/-! ## Keys -/

namespace Registry

variable {r : Registry} {name : SchemaName} {key key' : CacheKey}

/-- A name that is not spelled like `namelessKey` has the key of its canonical name. -/
theorem KeyOf.canonical {n : String} (h : r.KeyOf (some n) key) (hn : n ≠ namelessKey) :
    ∃ names listed, r.names = some names ∧ canonicalName? names (some n) = some listed ∧
      cacheKey listed = key := by
  obtain ⟨names, hnames, listed, hlisted, hkey, hcanonical | hown⟩ := h
  · exact ⟨names, listed, hnames, hcanonical, hkey⟩
  · have hsame : listed = some n := by
      cases listed with
      | none => exact absurd (hown.trans hkey.symm) hn
      | some m => exact congrArg some (hkey.trans hown.symm)
    subst hsame
    exact ⟨names, some n, hnames, canonicalName?_of_mem hlisted, hkey⟩

/-- The nameless schema has its own key. -/
theorem KeyOf.nameless (h : r.KeyOf none key) : key = namelessKey := by
  obtain ⟨names, -, listed, -, hkey, hcanonical | hown⟩ := h
  · rw [← hkey, canonicalName?_none hcanonical]
    rfl
  · exact hown.symm

/-- Such a name has one key, by `KeyOf`. -/
theorem KeyOf.unique (hname : name ≠ some namelessKey) (h : r.KeyOf name key)
    (h' : r.KeyOf name key') :
    key = key' := by
  cases name with
  | none => rw [h.nameless, h'.nameless]
  | some n =>
      have hn : n ≠ namelessKey := fun heq => hname (congrArg some heq)
      obtain ⟨names, listed, hnames, hcanonical, rfl⟩ := h.canonical hn
      obtain ⟨names', listed', hnames', hcanonical', rfl⟩ := h'.canonical hn
      obtain rfl : names = names' := Option.some.inj (hnames.symm.trans hnames')
      obtain rfl : listed = listed' := Option.some.inj (hcanonical.symm.trans hcanonical')
      rfl

end Registry

/-! ## One after another -/

section Recording

variable (answer : (call : SourceCall) → σ → Except Error call.Answer × σ)

/-- What is written down of an answer to `call`: the name of a schema that was loaded, in front of
`loaded`. -/
def noteLoad : (call : SourceCall) → Except Error call.Answer → List SchemaName → List SchemaName
  | .load name, .ok (some _), loaded => name :: loaded
  | _, _, loaded => loaded

/-- The source `answer`, which also writes down the names of the schemas that it has loaded
(`noteLoad`). -/
def recorded (call : SourceCall) (x : σ × List SchemaName) :
    Except Error call.Answer × (σ × List SchemaName) :=
  ((answer call x.1).1, (answer call x.1).2, noteLoad call (answer call x.1).1 x.2)

/-- Lookups for the requests `qs`, one after another, whatever each of them comes to. -/
def lookupAll (qs : List Request) (w : Site σ) : Site σ :=
  qs.foldl (fun w q => (q.lookup.run (.ofSource answer) w).2) w

/-- Whether each schema that was loaded is cached, and none was loaded twice for one key: `cacheKey`
is injective on what was written down. -/
structure LoadedOnce (w : Site (σ × List SchemaName)) : Prop where
  /-- Schemas are cached under keys of listed names. -/
  filed : w.registry.Filed
  /-- The keys of the loaded names are different. -/
  nodup : (w.source.2.map cacheKey).Nodup
  /-- What was loaded is cached. -/
  cached : ∀ name ∈ w.source.2, ∃ s, w.registry.schema? (cacheKey name) = some s

/-- What was loaded stays cached. -/
theorem LoadedOnce.grows {r r' : Registry} {x x' : σ} {loaded : List SchemaName}
    (h : LoadedOnce ⟨r, (x, loaded)⟩) (hgrows : r.Grows r') : LoadedOnce ⟨r', (x', loaded)⟩ := by
  refine ⟨h.filed.grows hgrows, h.nodup, ?_⟩
  intro name hname
  obtain ⟨s, hs⟩ := h.cached name hname
  exact ⟨s, hgrows.schema_of _ s hs⟩

/-- Lookups load once for each key, and may fail. -/
def loadingOnce : Upkeep (.alone (recorded answer)) where
  inv := LoadedOnce
  mayFail := True
  filed h := h.filed
  stable h hsame := hsame ▸ h

/-- All lookups load once for each key. -/
theorem sound_loadingOnce : (loadingOnce answer).Sound := by
  apply Upkeep.sound_of_calls
  · rintro call w e s honce hanswer
    obtain ⟨hreply, rfl⟩ := Prod.mk.inj hanswer
    rw [hreply]
    have hnothing : noteLoad call (.error e) w.source.2 = w.source.2 := by
      cases call <;> rfl
    rw [hnothing]
    exact ⟨honce.grows (.refl _), trivial⟩
  · rintro w _ listed s honce - rfl hanswer _ rfl
    obtain ⟨-, rfl⟩ := Prod.mk.inj hanswer
    exact honce.grows (Registry.grows_storeNames _ _)
  · rintro name w s honce - hanswer
    obtain ⟨hreply, rfl⟩ := Prod.mk.inj hanswer
    rw [hreply]
    exact ⟨honce.grows (.refl _), trivial⟩
  · rintro name w _ d s honce hlists hfree rfl hanswer _ rfl
    obtain ⟨hreply, rfl⟩ := Prod.mk.inj hanswer
    rw [hreply]
    have hbuilt : w.registry.Grows (w.registry.build d).2 :=
      Registry.grows_receive _ (.load name) (some d)
    have hgrows :=
      hbuilt.trans (Registry.grows_publish (hlists.grows hbuilt) (w.registry.build d).1)
    refine ⟨honce.filed.grows hgrows, ?_, ?_⟩
    · -- The key was free, so that nothing has been loaded for it before.
      have hnew : cacheKey name ∉ w.source.2.map cacheKey := by
        intro hmem
        obtain ⟨name', hname', hkey⟩ := List.mem_map.mp hmem
        obtain ⟨s, hs⟩ := honce.cached name' hname'
        rw [hkey, hfree] at hs
        cases hs
      exact List.nodup_cons.mpr ⟨hnew, honce.nodup⟩
    · intro name' hname'
      rcases List.mem_cons.mp hname' with rfl | hold
      · exact ⟨_, Registry.schema?_perform_publish _ _ _⟩
      · obtain ⟨s, hs⟩ := honce.cached name' hold
        exact ⟨s, hgrows.schema_of _ s hs⟩
  · intro w name? s honce hanswer
    obtain ⟨-, rfl⟩ := Prod.mk.inj hanswer
    exact honce.grows (.refl _)

/-- **One after another**: lookups keep `LoadedOnce`, so nothing is loaded twice for one key. -/
theorem loadedOnce_lookupAll (qs : List Request) {w : Site (σ × List SchemaName)}
    (h : LoadedOnce w) :
    LoadedOnce (lookupAll (recorded answer) qs w) := by
  induction qs generalizing w with
  | nil => exact h
  | cons q qs ih =>
      apply ih
      exact (Lookup.ensures_run ((sound_loadingOnce answer).lookup q w h trivial)).inv

end Recording

/-! ## The first writer wins -/

section FirstWriter

variable (answer : (call : SourceCall) → σ → Except Error call.Answer × σ)

/-- **The first writer wins**: as long as nobody refreshes a registry that was new, every answer
`Stands` from then on, whatever others look up and in whatever order. So all callers get one list of
names, and all get the same build of a schema under the names that have its key (`Registry.KeyOf`),
unless a name is spelled like `namelessKey`. If the lookups come one after another (`lookupAll`),
nothing is loaded twice for one key (`LoadedOnce`). -/
theorem first_writer_wins (preferred : Option String) (firstId : SchemaId) (source : σ)
    {es : List SharedEvent} (hes : .refresh ∉ es) :
    let now := (Shared.new preferred firstId source).run answer es
    (∀ i q a, now.Returned i q a → ∀ later, .refresh ∉ later →
        q.Stands (now.run answer later).site.registry a) ∧
      (∀ i j names names', now.Returned i .names names → now.Returned j .names names' →
        names = names') ∧
      (∀ i j name name' s s' key, now.Returned i (.schema name) (some s) →
        now.Returned j (.schema name') (some s') → name ≠ some namelessKey →
          name' ≠ some namelessKey →
        now.site.registry.KeyOf name key → now.site.registry.KeyOf name' key → s = s') ∧
      ∀ qs, ((lookupAll (recorded answer) qs
        ⟨{ preferred, nextId := firstId }, (source, [])⟩).source.2.map cacheKey).Nodup := by
  intro now
  have hfiled : (Shared.new preferred firstId source).site.registry.Filed := nofun
  have hstands : ∀ {i : Nat} {q : Request} {a : q.Answer}, now.Returned i q a →
      ∀ later, .refresh ∉ later → q.Stands (now.run answer later).site.registry a :=
    fun ha later hlater => Shared.stands_of_returned hes hlater hfiled nofun ha
  have hnow : ∀ {i : Nat} {q : Request} {a : q.Answer}, now.Returned i q a →
      q.Stands now.site.registry a :=
    fun ha => hstands ha [] nofun
  refine ⟨fun i q a ha => hstands ha, ?_, ?_, ?_⟩
  · intro i j names names' hi hj
    have hnames : now.site.registry.names = some names := hnow hi
    exact Option.some.inj (hnames.symm.trans (hnow hj))
  · intro i j name name' s s' key hi hj hname hname' hkey hkey'
    obtain ⟨k, hk, hs⟩ := hnow hi
    obtain ⟨k', hk', hs'⟩ := hnow hj
    rw [hk.unique hname hkey] at hs
    rw [hk'.unique hname' hkey'] at hs'
    exact Option.some.inj (hs.symm.trans hs')
  · intro qs
    refine (loadedOnce_lookupAll answer qs ?_).nodup
    exact ⟨nofun, List.nodup_nil, nofun⟩

/-- The schema that a caller has come to. -/
def Caller.schema? : Caller → Option Schema
  | ⟨.schema _, .done s?⟩ => s?
  | _ => none

/-- A caller that has come to a schema has come to an answer. -/
theorem Shared.returned_of_schema? {w : Shared σ} {i : Nat} {name : SchemaName} {s : Schema}
    (hq : w.callers[i]?.map (·.request) = some (.schema name))
    (hs : w.callers[i]?.bind Caller.schema? = some s) : w.Returned i (.schema name) (some s) := by
  obtain ⟨⟨q, rest⟩, hk, hrequest⟩ := Option.map_eq_some_iff.mp hq
  obtain rfl : q = .schema name := hrequest
  rw [hk] at hs
  cases rest with
  | done s? =>
      obtain rfl : s? = some s := hs
      exact hk
  | fail e => cases hs
  | cache step next => cases hs
  | ask call next => cases hs

/-- Two callers look for one schema under two spellings of its name. Both load it, and the second
one is the first to publish it. -/
def racingCallers : List SharedEvent :=
  let both : List SharedEvent := [.advance 0, .advance 1]
  [.enter (.schema (some "A")), .enter (.schema (some "a"))] ++
    both ++ both ++ both ++ both ++ both ++ both ++ [.advance 1, .advance 0]

/-- Both callers have the schema that was published first, and the source has been asked for it
twice. -/
theorem first_writer_wins_racingCallers :
    let catalog : FixedCatalog := { schemas := [⟨some "A", []⟩] }
    let now := (Shared.new none 0 catalog).run FixedCatalog.answer racingCallers
    SharedEvent.refresh ∉ racingCallers ∧ now.site.source.loads = 2 ∧
      now.Returned 0 (.schema (some "A")) (some ⟨1, some "A", []⟩) ∧
      now.Returned 1 (.schema (some "a")) (some ⟨1, some "A", []⟩) ∧
      ∀ later, .refresh ∉ later →
        (now.run FixedCatalog.answer later).site.registry.Answers (some "a")
          (some ⟨1, some "A", []⟩) := by
  intro catalog now
  have hes : SharedEvent.refresh ∉ racingCallers := by decide
  have hfirst : now.Returned 0 (.schema (some "A")) (some ⟨1, some "A", []⟩) :=
    Shared.returned_of_schema? (by decide +kernel) (by decide +kernel)
  have hsecond : now.Returned 1 (.schema (some "a")) (some ⟨1, some "A", []⟩) :=
    Shared.returned_of_schema? (by decide +kernel) (by decide +kernel)
  refine ⟨hes, by decide +kernel, hfirst, hsecond, ?_⟩
  exact (first_writer_wins FixedCatalog.answer none 0 catalog hes).1 1
    (.schema (some "a")) _ hsecond

end FirstWriter

end DataAccess.Catalog
