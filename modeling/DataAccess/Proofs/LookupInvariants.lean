import DataAccess.Proofs.SharedRegistry

/-!
# Lookup invariants: what holds of a registry whatever happens to it

A registry that is refreshed forgets what callers have seen, so what holds between two of their
requests is only what holds at all times. Here such invariants are stated, and what follows from
them for the answers that callers come to.

* **Upholding** (`Lookup.Upholds`): a lookup keeps an invariant of the registry and has results of
  which something holds, with rules for composition (`upholds_bind`), for one request
  (`upholds_advance`) and for a whole run (`upholds_run`).
* **Stock** (`Stock`): which lists of names and which schemas may be in a registry. If the source
  delivers nothing else (`Stock.Supplied`), nothing else is ever answered (`Stock.Supplied.lookup`).
* **Events** (`Shared.under_run`): the same for callers that share a registry, refreshes included.
-/

namespace DataAccess.Catalog

variable {σ α β : Type}

/-! ## Upholding -/

/-- No `CacheStep` takes a schema from its key. -/
theorem Registry.schema?_perform_of_some {r : Registry} {key : CacheKey} {s : Schema}
    (step : CacheStep) (h : r.schema? key = some s) : (r.perform step).2.schema? key = some s := by
  cases step with
  | readPreferred => exact h
  | readNames => exact h
  | storeNames names => exact (r.grows_storeNames names).schema_of key s h
  | readSchema other => exact h
  | publish other s' =>
      by_cases hkey : key = other
      · subst hkey
        rw [perform_publish_of_some h]
        exact h
      · rw [schema?_perform_publish_of_ne r s' hkey]
        exact h

/-- What is so at all times where a registry is used: an invariant `inv` of the registry, the states
`inSource` of the source, and how that answers. There is no assumption on when callers take their
requests. -/
structure Regime (σ : Type) where
  /-- Answers a call to the source. -/
  answer : (call : SourceCall) → σ → Except Error call.Answer × σ
  /-- The states of the source. -/
  inSource : σ → Prop
  /-- The invariant of the registry. -/
  inv : Registry → Prop
  /-- Whether a lookup may end with an error. -/
  mayFail : Prop

/-- Whether the regime is on at a site: `g.inv` and `g.inSource` hold there. -/
def Regime.At (g : Regime σ) (w : Site σ) : Prop :=
  g.inv w.registry ∧ g.inSource w.source

/-- The regime `g` under which, besides, the schema `s` is cached under `key`. -/
def Regime.caching (g : Regime σ) (key : CacheKey) (s : Schema) : Regime σ :=
  { g with inv := fun r => g.inv r ∧ r.schema? key = some s }

namespace Lookup

/-- Whether a lookup keeps the invariant and comes to results of which `post` holds, whatever
becomes of the registry between its requests. -/
def Upholds (g : Regime σ) (post : α → Prop) : Lookup α → Prop
  | .done a => post a
  | .fail _ => g.mayFail
  | .cache step next => ∀ r, g.inv r →
      g.inv (r.perform step).2 ∧ Upholds g post (next (r.perform step).1)
  | .ask call next => ∀ r x, g.inv r → g.inSource x → match (g.answer call x).1 with
      | .error _ => g.mayFail
      | .ok a => g.inv (call.receive a r).2 ∧ Upholds g post (next (call.receive a r).1)

variable {g : Regime σ} {post post' : α → Prop} {l : Lookup α} {w : Site σ}

/-- A result that is known is upheld if `post` holds of it. -/
theorem upholds_pure {a : α} (h : post a) : (pure a : Lookup α).Upholds g post :=
  h

/-- A step on the cache has its reply as the result, if it keeps the invariant. -/
theorem upholds_step {step : CacheStep} {post : step.Reply → Prop}
    (h : ∀ r, g.inv r → g.inv (r.perform step).2 ∧ post (r.perform step).1) :
    (Lookup.step step).Upholds g post :=
  h

/-- A call to the source has its answer, as it is received (`SourceCall.receive`), as the result. -/
theorem upholds_call {call : SourceCall} {post : call.Reply → Prop}
    (herror : ∀ x e, g.inSource x → (g.answer call x).1 = .error e → g.mayFail)
    (hok : ∀ r x a, g.inv r → g.inSource x → (g.answer call x).1 = .ok a →
      g.inv (call.receive a r).2 ∧ post (call.receive a r).1) :
        (Lookup.call call).Upholds g post := by
  intro r x hr hx
  rcases hanswer : (g.answer call x).1 with e | a
  · exact herror x e hx hanswer
  · exact hok r x a hr hx hanswer

/-- A composed lookup `l >>= f` has the results that `f a` has for the results `a` of `l`. -/
theorem upholds_bind {f : α → Lookup β} {post' : β → Prop} (h : l.Upholds g post)
    (hf : ∀ a, post a → (f a).Upholds g post') : (l >>= f).Upholds g post' := by
  show (l.bind f).Upholds g post'
  induction l with
  | done a => exact hf a h
  | fail e => exact h
  | cache step next ih =>
      intro r hr
      obtain ⟨hstep, hnext⟩ := h r hr
      exact ⟨hstep, ih _ hnext⟩
  | ask call next ih =>
      intro r x hr hx
      have hcall := h r x hr hx
      rcases hanswer : (g.answer call x).1 with e | a
      · rw [hanswer] at hcall
        exact hcall
      · rw [hanswer] at hcall
        exact ⟨hcall.1, ih _ hcall.2⟩

/-- The predicate `post` may be weakened. -/
theorem upholds_mono (h : l.Upholds g post) (himp : ∀ a, post a → post' a) : l.Upholds g post' := by
  have hbind : (l >>= pure).Upholds g post' := upholds_bind h fun a ha => upholds_pure (himp a ha)
  rwa [bind_pure] at hbind

/-- A schema that is cached stays cached: `Upholds g` gives `Upholds (g.caching key s)`. -/
theorem upholds_caching (key : CacheKey) (s : Schema) (h : l.Upholds g post) :
    l.Upholds (g.caching key s) post := by
  induction l with
  | done a => exact h
  | fail e => exact h
  | cache step next ih =>
      intro r hr
      obtain ⟨hstep, hnext⟩ := h r hr.1
      exact ⟨⟨hstep, Registry.schema?_perform_of_some step hr.2⟩, ih _ hnext⟩
  | ask call next ih =>
      intro r x hr hx
      have hcall := h r x hr.1 hx
      show match (g.answer call x).1 with
        | .error _ => g.mayFail
        | .ok a => (g.inv (call.receive a r).2 ∧ (call.receive a r).2.schema? key = some s) ∧ _
      rcases hanswer : (g.answer call x).1 with e | a
      · rw [hanswer] at hcall
        exact hcall
      · rw [hanswer] at hcall
        exact ⟨⟨hcall.1, (r.grows_receive call a).schema_of _ _ hr.2⟩, ih _ hcall.2⟩

/-- **One request**: `Lookup.advance` keeps the invariant, and the rest of the lookup upholds the
same. -/
theorem upholds_advance (h : l.Upholds g post) (hinv : g.inv w.registry)
    (hx : g.inSource w.source) :
    g.inv (l.advance g.answer w).2.registry ∧ (l.advance g.answer w).1.Upholds g post := by
  cases l with
  | done a => exact ⟨hinv, h⟩
  | fail e => exact ⟨hinv, h⟩
  | cache step next => exact h w.registry hinv
  | ask call next =>
      have hcall := h w.registry w.source hinv hx
      rcases hanswer : g.answer call w.source with ⟨e | a, x⟩
      · rw [hanswer] at hcall
        simp only [advance, hanswer]
        exact ⟨hinv, hcall⟩
      · rw [hanswer] at hcall
        simp only [advance, hanswer]
        exact hcall

/-- **A whole run**: the regime is on after it, and its result is one that the lookup upholds, by
induction on the lookup. -/
theorem upholds_run (hsource : ∀ call x, g.inSource x → g.inSource (g.answer call x).2)
    (h : l.Upholds g post) (hw : g.At w) :
    g.At (l.run (.ofSource g.answer) w).2 ∧ match (l.run (.ofSource g.answer) w).1 with
      | .ok a => post a
      | .error _ => g.mayFail := by
  induction l generalizing w with
  | done a => exact ⟨hw, h⟩
  | fail e => exact ⟨hw, h⟩
  | cache step next ih =>
      obtain ⟨hstep, hnext⟩ := h w.registry hw.1
      exact ih _ hnext ⟨hstep, hw.2⟩
  | ask call next ih =>
      have hcall := h w.registry w.source hw.1 hw.2
      have hx := hsource call w.source hw.2
      unfold run Answering.ofSource
      rcases hanswer : g.answer call w.source with ⟨e | a, x⟩
      · rw [hanswer] at hcall hx
        exact ⟨⟨hw.1, hx⟩, hcall⟩
      · rw [hanswer] at hcall hx
        exact ih _ hcall.2 ⟨hcall.1, hx⟩

/-- What `upholds_run` says of a run that has the result `a`. -/
theorem upholds_of_run (hsource : ∀ call x, g.inSource x → g.inSource (g.answer call x).2)
    (h : l.Upholds g post) (hw : g.At w) {a : α} {w' : Site σ}
    (hrun : l.run (.ofSource g.answer) w = (.ok a, w')) : g.At w' ∧ post a := by
  have hpost := upholds_run hsource h hw
  rw [hrun] at hpost
  exact hpost

/-- A lookup that upholds a regime without failures has a result. -/
theorem exists_run (hsource : ∀ call x, g.inSource x → g.inSource (g.answer call x).2)
    (h : l.Upholds g post) (hfail : ¬ g.mayFail) (hw : g.At w) :
    ∃ a w', l.run (.ofSource g.answer) w = (.ok a, w') ∧ g.At w' ∧ post a := by
  have hpost := upholds_run hsource h hw
  rcases hrun : l.run (.ofSource g.answer) w with ⟨e | a, w'⟩
  · rw [hrun] at hpost
    exact absurd hpost.2 hfail
  · rw [hrun] at hpost
    exact ⟨a, w', rfl, hpost⟩

/-- A search through a list finds what one of its parts finds, or nothing if none of them does
(`findSomeM?`). -/
theorem upholds_findSomeM? {P : β → Option α → Prop} {f : β → Lookup (Option α)} {bs : List β}
    (h : ∀ b ∈ bs, (f b).Upholds g (P b)) :
    (bs.findSomeM? f).Upholds g fun a? =>
      (∃ b ∈ bs, ∃ a, a? = some a ∧ P b (some a)) ∨ a? = none ∧ ∀ b ∈ bs, P b none := by
  induction bs with
  | nil => exact .inr ⟨rfl, nofun⟩
  | cons b rest ih =>
      refine upholds_bind (h b List.mem_cons_self) fun a? ha => ?_
      cases a? with
      | some a => exact .inl ⟨b, List.mem_cons_self, a, rfl, ha⟩
      | none =>
          refine upholds_mono (ih fun b' hb' => h b' (List.mem_cons_of_mem _ hb')) ?_
          intro a? hrest
          rcases hrest with ⟨b', hb', a, rfl, ha'⟩ | ⟨rfl, hnone⟩
          · exact .inl ⟨b', List.mem_cons_of_mem _ hb', a, rfl, ha'⟩
          · exact .inr ⟨rfl, List.forall_mem_cons.mpr ⟨ha, hnone⟩⟩

/-- A lookup for each element of a list has results with `P`, one for each (`List.Forall₂`). -/
theorem upholds_mapM {P : β → α → Prop} {f : β → Lookup α} {bs : List β}
    (h : ∀ b ∈ bs, (f b).Upholds g (P b)) : (bs.mapM f).Upholds g (List.Forall₂ P bs) := by
  induction bs with
  | nil => exact .nil
  | cons b rest ih =>
      rw [List.mapM_cons]
      refine upholds_bind (h b List.mem_cons_self) fun a ha => ?_
      refine upholds_bind (ih fun b' hb' => h b' (List.mem_cons_of_mem _ hb')) fun as has => ?_
      exact upholds_pure (.cons ha has)

variable (name : SchemaName) (s : Schema)

/-- A schema that is cached is what is read under its key. -/
theorem upholds_readSchema_caching :
    (step (.readSchema (cacheKey name))).Upholds (g.caching (cacheKey name) s) (· = some s) :=
  upholds_step fun _ hr => ⟨hr, hr.2⟩

/-- A schema that is cached is what `listedSchema` gives for each listed name that has its key. -/
theorem upholds_listedSchema_caching :
    (listedSchema name).Upholds (g.caching (cacheKey name) s) (· = s) := by
  refine upholds_bind (upholds_readSchema_caching name s) fun s? hs => ?_
  subst hs
  exact upholds_pure rfl

/-- It is what `schemaByName?` gives for each name that has its key, listed or not. -/
theorem upholds_schemaByName?_caching :
    (schemaByName? name).Upholds (g.caching (cacheKey name) s) (· = some s) := by
  refine upholds_bind (upholds_readSchema_caching name s) fun s? hs => ?_
  subst hs
  exact upholds_pure rfl

/-! ## Running -/

variable {answer : (call : SourceCall) → σ → Except Error call.Answer × σ} {f : α → Lookup β}
    {a : α} {b : β}
variable {w' : Site σ} {name : SchemaName} {s : Schema}

/-- If `l` comes to `a` in `w'`, then `l >>= f` runs as `f a` from there. -/
theorem run_bind_of_ok (h : l.run (.ofSource answer) w = (.ok a, w')) :
    (l >>= f).run (.ofSource answer) w = (f a).run (.ofSource answer) w' := by
  show (l.bind f).run _ w = _
  rw [run_bind, h]

/-- If `l >>= f` has a result, `l` has one `a`, and `f a` has that result. -/
theorem exists_of_run_bind (h : (l >>= f).run (.ofSource answer) w = (.ok b, w')) :
    ∃ a w₁, l.run (.ofSource answer) w = (.ok a, w₁) ∧
      (f a).run (.ofSource answer) w₁ = (.ok b, w') := by
  have hrun : (l.bind f).run (.ofSource answer) w = (.ok b, w') := h
  rw [run_bind] at hrun
  rcases hfirst : l.run (.ofSource answer) w with ⟨e | a, w₁⟩
  · rw [hfirst] at hrun
    cases hrun
  · rw [hfirst] at hrun
    exact ⟨a, w₁, rfl, hrun⟩

/-- A step on the cache. -/
theorem run_step (answer : (call : SourceCall) → σ → Except Error call.Answer × σ)
    (step : CacheStep) (w : Site σ) : (Lookup.step step).run (.ofSource answer) w =
      (.ok (w.registry.perform step).1, ⟨(w.registry.perform step).2, w.source⟩) :=
  rfl

/-- A call to the source. -/
theorem run_call_of_ok {call : SourceCall} {a : call.Answer}
    (h : (answer call w.source).1 = .ok a) :
    (Lookup.call call).run (.ofSource answer) w =
      (.ok (call.receive a w.registry).1,
        ⟨(call.receive a w.registry).2, (answer call w.source).2⟩) := by
  simp only [Lookup.call, run, Answering.ofSource, h]

/-- The schema that is cached under the key of a name is what `schemaByName?` gives, and nothing
changes. -/
theorem run_schemaByName?_of_some (answer : (call : SourceCall) → σ → Except Error call.Answer × σ)
    (h : w.registry.schema? (cacheKey name) = some s) :
    (schemaByName? name).run (.ofSource answer) w = (.ok (some s), w) := by
  unfold schemaByName?
  rw [run_bind_of_ok (run_step answer _ w)]
  simp only [Registry.perform, h]
  rfl

/-- The names that are cached are what `schemaNames` gives, and nothing changes. -/
theorem run_schemaNames_of_some (answer : (call : SourceCall) → σ → Except Error call.Answer × σ)
    {names : List SchemaName} (h : w.registry.names = some names) :
    schemaNames.run (.ofSource answer) w = (.ok names, w) := by
  unfold schemaNames
  rw [run_bind_of_ok (run_step answer _ w)]
  simp only [Registry.perform, h]
  rfl

end Lookup

/-! ## Stock -/

/-- Where a registry is used: who answers its calls, and what may be in it. The predicates `lists`
and `files` say which lists of names and which schemas these are. -/
structure Stock (σ : Type) where
  /-- Answers a call to the source. -/
  answer : (call : SourceCall) → σ → Except Error call.Answer × σ
  /-- The states of the source. -/
  inSource : σ → Prop
  /-- Whether a lookup may end with an error. -/
  mayFail : Prop
  /-- The lists of names. -/
  lists : List SchemaName → Prop
  /-- The schemas that may be cached under a key. -/
  files : CacheKey → Schema → Prop
  /-- The first identity of a schema that is yet to be built. -/
  base : SchemaId

namespace Stock

/-- Whether there is nothing in a registry but what the stock `k` allows. -/
structure Holds (k : Stock σ) (r : Registry) : Prop where
  /-- The cached list of names. -/
  names : ∀ names, r.names = some names → k.lists names
  /-- The cached schemas. -/
  schemas : ∀ key s, r.schema? key = some s → k.files key s
  /-- The next identity. -/
  nextId : k.base ≤ r.nextId

/-- The regime whose invariant is `k.Holds`. -/
def regime (k : Stock σ) : Regime σ :=
  ⟨k.answer, k.inSource, k.Holds, k.mayFail⟩

/-- Whether a name is in a list that the stock allows (`k.lists`). -/
def Listed (k : Stock σ) (name : SchemaName) : Prop :=
  ∃ names, k.lists names ∧ name ∈ names

/-- Whether a schema may be cached, under some key (`k.files`). -/
def Offers (k : Stock σ) (s : Schema) : Prop :=
  ∃ key, k.files key s

/-- Whether a schema, or that there is none, may be answered for `name`: the schema is under
`cacheKey name`, or under the key of the name for which it stands (`canonicalName?`). -/
def Answers (k : Stock σ) (name : SchemaName) : Option Schema → Prop
  | some s => ∃ key, k.files key s ∧ (key = cacheKey name ∨ ∃ names listed, k.lists names ∧
      canonicalName? names name = some listed ∧ key = cacheKey listed)
  | none => ∃ names, k.lists names ∧ canonicalName? names name = none

/-- Whether an answer `a` may be given to the request `q`: what it is made of may be in the
registry. -/
def Gives (k : Stock σ) : (q : Request) → q.Answer → Prop
  | .names, names => k.lists names
  | .schema name, s? => k.Answers name s?
  | .schemas, ss => ∃ names, k.lists names ∧
      List.Forall₂ (fun name s => k.files (cacheKey name) s) names ss
  | .default, s? => ∀ s, s? = some s → k.Offers s
  | .table _, t? => ∀ t, t? = some t → ∃ s path, k.Offers s ∧ s.tableByPath? path = some t
  | .column _, c? => ∀ c, c? = some c → ∃ s path, k.Offers s ∧ s.columnByPath? path = some c

/-- Whether the source delivers nothing but what the stock `k` allows, and fails only if a lookup
may. -/
structure Supplied (k : Stock σ) : Prop where
  /-- It lists names. -/
  lists : ∀ x names, k.inSource x → (k.answer .listNames x).1 = .ok names →
    k.lists (sortNames names)
  /-- It loads the schemas of listed names. -/
  loads : ∀ x name d id, k.inSource x → k.Listed name → (k.answer (.load name) x).1 = .ok (some d) →
    k.base ≤ id → k.files (cacheKey name) (d.build id)
  /-- It fails to list names. -/
  unlisted : ∀ x e, k.inSource x → (k.answer .listNames x).1 = .error e → k.mayFail
  /-- It fails to load the schema of a listed name, or has none. -/
  unloaded : ∀ x name, k.inSource x → k.Listed name →
    (∀ d, (k.answer (.load name) x).1 ≠ .ok (some d)) → k.mayFail

variable {k : Stock σ} {r : Registry}

/-- The step `.storeNames names` keeps `Holds`, if `k.lists names`. -/
theorem Holds.storeNames (h : k.Holds r) {names : List SchemaName} (hnames : k.lists names) :
    k.Holds (r.perform (.storeNames names)).2 ∧ k.lists (r.perform (.storeNames names)).1 := by
  unfold Registry.perform
  rcases hpresent : r.names with _ | present
  · refine ⟨⟨?_, h.schemas, h.nextId⟩, hnames⟩
    rintro _ ⟨rfl⟩
    exact hnames
  · exact ⟨h, h.names present hpresent⟩

/-- The step `.publish key s` keeps `Holds`, if `k.files key s`. -/
theorem Holds.publish (h : k.Holds r) {key : CacheKey} {s : Schema} (hs : k.files key s) :
    k.Holds (r.perform (.publish key s)).2 ∧ k.files key (r.perform (.publish key s)).1 := by
  rcases hpresent : r.schema? key with _ | present
  · have hpublished := Registry.schema?_perform_publish r key s
    have hothers := fun other (hne : other ≠ key) => Registry.schema?_perform_publish_of_ne r s hne
    rw [Registry.perform_publish_of_none hpresent] at hpublished hothers ⊢
    refine ⟨⟨h.names, ?_, h.nextId⟩, hs⟩
    intro other s' hs'
    by_cases hkey : other = key
    · subst hkey
      obtain rfl : s = s' := Option.some.inj (hpublished.symm.trans hs')
      exact hs
    · rw [hothers other hkey] at hs'
      exact h.schemas other s' hs'
  · rw [Registry.perform_publish_of_some hpresent]
    exact ⟨h, h.schemas key present hpresent⟩

/-- An answer of the source that is received keeps `Holds`: nothing is stored yet. -/
theorem Holds.receive (h : k.Holds r) (call : SourceCall) (a : call.Answer) :
    k.Holds (call.receive a r).2 := by
  cases call with
  | listNames => exact h
  | defaultName => exact h
  | load name =>
      cases a with
      | none => exact h
      | some d => exact ⟨h.names, h.schemas, Nat.le_succ_of_le h.nextId⟩

/-- A refresh keeps `Holds`: everything is forgotten. -/
theorem Holds.refresh (h : k.Holds r) : k.Holds r.refresh :=
  ⟨nofun, nofun, h.nextId⟩

/-- A schema that may be answered may be cached (`Offers`). -/
theorem offers_of_answers {name : SchemaName} {s : Schema} (h : k.Answers name (some s)) :
    k.Offers s := by
  obtain ⟨key, hs, -⟩ := h
  exact ⟨key, hs⟩

namespace Supplied

open Lookup

/-- What `.readSchema key` gives is what may be cached under `key`. -/
theorem readSchema (key : CacheKey) :
    (step (.readSchema key)).Upholds k.regime fun s? => ∀ s, s? = some s → k.files key s :=
  upholds_step fun _ hr => ⟨hr, hr.schemas key⟩

variable (h : k.Supplied)

include h

/-- The names that `schemaNames` answers are a list that the stock allows. -/
theorem schemaNames : Lookup.schemaNames.Upholds k.regime k.lists := by
  have hread : (step .readNames).Upholds k.regime fun names? => ∀ names, names? = some names →
      k.lists names :=
    upholds_step fun r hr => ⟨hr, hr.names⟩
  refine upholds_bind hread fun names? hnames => ?_
  cases names? with
  | some names => exact upholds_pure (hnames names rfl)
  | none =>
      have hlist : (call .listNames).Upholds k.regime fun names => k.lists (sortNames names) :=
        upholds_call h.unlisted fun r x names hr hx hanswer => ⟨hr, h.lists x names hx hanswer⟩
      exact upholds_bind hlist fun names hlisted => upholds_step fun r hr => hr.storeNames hlisted

/-- The schema that `listedSchema name` answers, for a listed name, may be under `cacheKey name`. -/
theorem listedSchema {name : SchemaName} (hname : k.Listed name) :
    (Lookup.listedSchema name).Upholds k.regime (k.files (cacheKey name)) := by
  refine upholds_bind (readSchema _) fun s? hs => ?_
  cases s? with
  | some s => exact upholds_pure (hs s rfl)
  | none =>
      have hload : (call (.load name)).Upholds k.regime fun s? => (s? = none → k.mayFail) ∧
          ∀ s, s? = some s → k.files (cacheKey name) s := by
        refine upholds_call (fun x e hx hanswer => ?_) fun r x d? hr hx hanswer => ?_
        · exact h.unloaded x name hx hname fun d hd => nomatch hanswer.symm.trans hd
        · refine ⟨hr.receive (.load name) d?, ?_⟩
          cases d? with
          | none =>
              exact ⟨fun _ =>
                h.unloaded x name hx hname (fun d hd => nomatch hanswer.symm.trans hd), nofun⟩
          | some d =>
              refine ⟨nofun, ?_⟩
              rintro _ ⟨rfl⟩
              exact h.loads x name d r.nextId hx hname hanswer hr.nextId
      refine upholds_bind hload fun s? hs => ?_
      cases s? with
      | none => exact hs.1 rfl
      | some s => exact upholds_step fun r hr => hr.publish (hs.2 s rfl)

/-- What `schemaByName? name` answers may be answered for it (`Answers`). -/
theorem schemaByName? (name : SchemaName) :
    (Lookup.schemaByName? name).Upholds k.regime (k.Answers name) := by
  refine upholds_bind (readSchema _) fun s? hs => ?_
  cases s? with
  | some s => exact upholds_pure ⟨_, hs s rfl, .inl rfl⟩
  | none =>
      refine upholds_bind h.schemaNames fun names hnames => ?_
      rcases hcanonical : canonicalName? names name with _ | listed
      · exact ⟨names, hnames, hcanonical⟩
      · have hlisted : k.Listed listed := ⟨names, hnames, Registry.mem_of_canonicalName? hcanonical⟩
        refine upholds_bind (h.listedSchema hlisted) fun s hs => ?_
        exact ⟨_, hs, .inr ⟨names, listed, hnames, hcanonical, rfl⟩⟩

/-- What `schemas` answers are schemas that may be cached, in the order of their names. -/
theorem schemas : Lookup.schemas.Upholds k.regime (k.Gives .schemas) := by
  refine upholds_bind h.schemaNames fun names hnames => ?_
  refine upholds_mono (upholds_mapM fun name hname => ?_) fun ss hss => ⟨names, hnames, hss⟩
  exact h.listedSchema ⟨names, hnames, hname⟩

/-- The schema of a name, whatever the name is. -/
theorem offered (name : SchemaName) :
    (Lookup.schemaByName? name).Upholds k.regime fun s? => ∀ s, s? = some s → k.Offers s :=
  upholds_mono (h.schemaByName? name) fun _ hs _ heq => offers_of_answers (heq ▸ hs)

/-- The schema of a name that may not be set. -/
theorem schemaIfSet? (name? : Option String) :
    (Lookup.schemaIfSet? name?).Upholds k.regime fun s? => ∀ s, s? = some s → k.Offers s := by
  cases name? with
  | none => exact upholds_pure nofun
  | some name => exact h.offered (some name)

/-- The schema with the most tables, or the best one so far. -/
theorem fullestSchema? {best : Option Schema} (hbest : ∀ s, best = some s → k.Offers s)
    (names : List SchemaName) :
    (Lookup.fullestSchema? best names).Upholds k.regime fun s? => ∀ s, s? = some s →
      k.Offers s := by
  induction names generalizing best with
  | nil => exact hbest
  | cons name rest ih =>
      unfold Lookup.fullestSchema?
      split
      · exact ih hbest
      · refine upholds_bind (h.offered name) fun s? hs => ?_
        cases s? with
        | none => exact ih hbest
        | some s =>
            dsimp only
            split
            · exact ih hs
            · exact ih hbest

variable (hdefault : ∀ x e, k.inSource x → (k.answer .defaultName x).1 = .error e → k.mayFail)

include hdefault

/-- The default schema. -/
theorem defaultSchema? :
    Lookup.defaultSchema?.Upholds k.regime fun s? => ∀ s, s? = some s → k.Offers s := by
  have hpreferred : (step .readPreferred).Upholds k.regime fun _ => True :=
    upholds_step fun r hr => ⟨hr, trivial⟩
  have hown : (call .defaultName).Upholds k.regime fun _ => True :=
    upholds_call hdefault fun r x name? hr hx _ => ⟨hr, trivial⟩
  refine upholds_bind hpreferred fun preferred _ =>
    upholds_bind (h.schemaIfSet? preferred) fun s? hs => ?_
  cases s? with
  | some s => exact upholds_pure hs
  | none =>
      refine upholds_bind hown fun name? _ => upholds_bind (h.schemaIfSet? name?) fun s? hs' => ?_
      cases s? with
      | some s => exact upholds_pure hs'
      | none =>
          refine upholds_bind h.schemaNames fun names _ => ?_
          split
          · exact h.offered _
          · exact h.fullestSchema? hs _

/-- What `resolve? find label` answers is what `find` gives in a schema that may be cached. -/
theorem resolve? (find : Schema → List Char → Option α) (label : String) :
    (Lookup.resolve? find label).Upholds k.regime fun a? =>
      ∀ a, a? = some a → ∃ s path, k.Offers s ∧ find s path = some a := by
  have hpath : ∀ name path, (inSchema? find name path).Upholds k.regime fun a? =>
      ∀ a, a? = some a → ∃ s path, k.Offers s ∧ find s path = some a := by
    intro name path
    refine upholds_bind (h.offered name) fun s? hs => upholds_pure fun a ha => ?_
    obtain ⟨s, hsome, hfound⟩ := Option.bind_eq_some_iff.mp ha
    exact ⟨s, path, hs s hsome, hfound⟩
  have hafter : ∀ case label name, (afterSchema? find case label name).Upholds k.regime fun a? =>
      ∀ a, a? = some a → ∃ s path, k.Offers s ∧ find s path = some a := by
    intro case label name
    unfold afterSchema?
    split
    · exact hpath _ _
    · exact upholds_pure nofun
  have hlisted : ∀ label name, (inListed? find label name).Upholds k.regime fun a? =>
      ∀ a, a? = some a → ∃ s path, k.Offers s ∧ find s path = some a := by
    intro label name
    cases name with
    | none => exact hpath none label
    | some name => exact hafter .sensitive label name
  unfold Lookup.resolve?
  dsimp only
  split
  · exact upholds_pure nofun
  · refine upholds_bind h.schemaNames fun names _ => ?_
    refine upholds_bind (upholds_findSomeM? fun name _ => hlisted _ name) fun a? ha => ?_
    cases a? with
    | some a =>
        obtain ⟨_, _, _, heq, hfound⟩ := ha.resolve_right nofun
        exact upholds_pure (heq ▸ hfound)
    | none =>
        refine upholds_bind (upholds_findSomeM? fun name _ => hafter .insensitive _ name)
          fun a? ha => ?_
        cases a? with
        | some a =>
            obtain ⟨_, _, _, heq, hfound⟩ := ha.resolve_right nofun
            exact upholds_pure (heq ▸ hfound)
        | none =>
            refine upholds_bind (h.defaultSchema? hdefault) fun s? hs => upholds_pure fun a ha => ?_
            obtain ⟨s, hsome, hfound⟩ := Option.bind_eq_some_iff.mp ha
            exact ⟨s, _, hs s hsome, hfound⟩

/-- **Stock**: nothing is answered but what may be in the registry: each `q.lookup` upholds the
regime of `k`, with answers that it `Gives`. -/
theorem lookup (q : Request) : q.lookup.Upholds k.regime (k.Gives q) := by
  cases q with
  | names => exact h.schemaNames
  | schema name => exact h.schemaByName? name
  | schemas => exact h.schemas
  | default => exact h.defaultSchema? hdefault
  | table label => exact h.resolve? hdefault Schema.tableByPath? label
  | column label => exact h.resolve? hdefault Schema.columnByPath? label

end Supplied
end Stock

/-! ## Events -/

namespace Shared

variable {g : Regime σ} {post : Nat → (q : Request) → q.Answer → Prop} {s : Shared σ}

/-- Whether the invariant holds of a shared registry and all callers uphold it, each of them with
answers of which `post` holds. -/
structure Under (g : Regime σ) (post : Nat → (q : Request) → q.Answer → Prop) (s : Shared σ) :
    Prop where
  /-- The invariant. -/
  inv : g.inv s.site.registry
  /-- The callers. -/
  callers : ∀ (i : Nat) (k : Caller), s.callers[i]? = some k → k.rest.Upholds g (post i k.request)

/-- One event keeps `Under`, if a refresh keeps the invariant and whoever enters upholds it. -/
theorem under_step (hrefresh : ∀ r, g.inv r → g.inv r.refresh)
    (henter : ∀ i (q : Request), q.lookup.Upholds g (post i q)) (hx : g.inSource s.site.source)
    (h : s.Under g post) (e : SharedEvent) : (s.step g.answer e).Under g post := by
  cases e with
  | enter q =>
      refine ⟨h.inv, ?_⟩
      intro i k hk
      rcases Nat.lt_trichotomy i s.callers.length with hold | rfl | hbeyond
      · exact h.callers i k ((List.getElem?_append_left hold).symm.trans hk)
      · obtain rfl := Option.some.inj ((List.getElem?_concat_length).symm.trans hk)
        exact henter _ q
      · have hlength : (s.step g.answer (.enter q)).callers.length ≤ i := by
          rw [step, List.length_append, List.length_singleton]
          exact hbeyond
        rw [List.getElem?_eq_none hlength] at hk
        cases hk
  | advance i =>
      rcases hi : s.callers[i]? with _ | k
      · simp only [step, hi]
        exact h
      · simp only [step, hi]
        obtain ⟨hinv, hrest⟩ := Lookup.upholds_advance (h.callers i k hi) h.inv hx
        refine ⟨hinv, ?_⟩
        intro j k' hk'
        by_cases hij : i = j
        · subst hij
          rw [List.getElem?_set_self (List.getElem?_eq_some_iff.mp hi).1] at hk'
          obtain rfl := Option.some.inj hk'
          exact hrest
        · rw [List.getElem?_set_ne hij] at hk'
          exact h.callers j k' hk'
  | refresh => exact ⟨hrefresh _ h.inv, h.callers⟩

/-- **Events**: what holds at all times holds after all events, by induction on them. -/
theorem under_run (hrefresh : ∀ r, g.inv r → g.inv r.refresh)
    (henter : ∀ i (q : Request), q.lookup.Upholds g (post i q)) {es : List SharedEvent}
    (hx : ∀ es₁ es₂, es = es₁ ++ es₂ → g.inSource (s.run g.answer es₁).site.source)
    (h : s.Under g post) :
    (s.run g.answer es).Under g post := by
  induction es generalizing s with
  | nil => exact h
  | cons e es ih =>
      refine ih ?_ (under_step hrefresh henter (hx [] (e :: es) rfl) h e)
      intro es₁ es₂ hes
      exact hx (e :: es₁) es₂ (congrArg (e :: ·) hes)

/-- The events `es ++ es'` are the events `es` and then `es'`. -/
theorem run_append (answer : (call : SourceCall) → σ → Except Error call.Answer × σ) (s : Shared σ)
    (es es' : List SharedEvent) : s.run answer (es ++ es') = (s.run answer es).run answer es' :=
  List.foldl_append

/-- What becomes of the caller `i` who takes a request, and of the site: what `Lookup.advance`
says. -/
theorem step_advance (answer : (call : SourceCall) → σ → Except Error call.Answer × σ) {i : Nat}
    {k : Caller} (hi : s.callers[i]? = some k) :
    (s.step answer (.advance i)).callers[i]? = some ⟨k.request, (k.rest.advance answer s.site).1⟩ ∧
      (s.step answer (.advance i)).site = (k.rest.advance answer s.site).2 := by
  have hlength : i < s.callers.length := (List.getElem?_eq_some_iff.mp hi).1
  simp only [step, hi]
  exact ⟨List.getElem?_set_self hlength, trivial⟩

/-- A caller who goes on while the others wait comes to the answer to which the rest `l` of its
lookup comes by itself. -/
theorem exists_returned_of_rest {answer : (call : SourceCall) → σ → Except Error call.Answer × σ}
    {i : Nat} {q : Request} {l : Lookup q.Answer} {a : q.Answer} {w : Site σ}
    (hi : s.callers[i]? = some ⟨q, l⟩) (h : l.run (.ofSource answer) s.site = (.ok a, w)) :
    ∃ es, (s.run answer es).Returned i q a ∧ (s.run answer es).site = w := by
  induction l generalizing s with
  | done b =>
      obtain ⟨hb, rfl⟩ := Prod.mk.inj h
      obtain rfl := Except.ok.inj hb
      exact ⟨[], hi, rfl⟩
  | fail e => cases h
  | cache step next ih =>
      obtain ⟨hi', hsite⟩ := step_advance answer hi
      obtain ⟨es, hes⟩ := ih _ hi' (hsite ▸ h)
      exact ⟨.advance i :: es, hes⟩
  | ask call next ih =>
      obtain ⟨hi', hsite⟩ := step_advance answer hi
      rw [← Lookup.run_advance, ← hsite] at h
      rcases hanswer : answer call s.site.source with ⟨e | b, x⟩
      · simp only [Lookup.advance, hanswer] at h
        cases h
      · simp only [Lookup.advance, hanswer] at hi' h
        obtain ⟨es, hes⟩ := ih _ hi' h
        exact ⟨.advance i :: es, hes⟩

/-- Someone who enters may come to the answer of `q.lookup` while the others wait. -/
theorem exists_returned {answer : (call : SourceCall) → σ → Except Error call.Answer × σ}
    {q : Request} {a : q.Answer} {w : Site σ}
    (h : q.lookup.run (.ofSource answer) s.site = (.ok a, w)) :
    ∃ es, (s.run answer es).Returned s.callers.length q a ∧ (s.run answer es).site = w := by
  obtain ⟨es, hes⟩ :=
    exists_returned_of_rest (s := s.step answer (.enter q)) List.getElem?_concat_length h
  exact ⟨.enter q :: es, hes⟩

/-- An answer is one of which `post` holds. -/
theorem Under.post_of_returned (h : s.Under g post) {i : Nat} {q : Request} {a : q.Answer}
    (ha : s.Returned i q a) : post i q a :=
  h.callers i _ ha

end Shared

end DataAccess.Catalog
