import DataAccess.Proofs.LookupInvariants
import DataAccess.Proofs.NameOrder

/-!
# Named schemas: a lookup answers with the schema of the name

A source lists names and loads a schema of each of them (`Provides`). Whatever callers look up and
whenever the registry is refreshed, a lookup by name answers with the schema of the name that is
asked for, or of a listed name that differs from it in case alone (`Request.Apt`). There is one
exception: a schema whose name is spelled like the key of the nameless schema shares its place in
the cache with the nameless one (`Request.Clashes`).

* **The catalog** (`Provides.supplied`): what a registry on such a source may contain.
* **Own schemas** (`apt_of_gives`): what is given to a request that does not clash is what it asks
  for.
* **Clashes** (`exists_not_apt`): a request that clashes may get the schema of the other name.
* **Exactly** (`apt_unless_clashes`, `nameless_for_unlisted`).
-/

namespace DataAccess.Catalog

variable {σ : Type}

/-! ## The catalog -/

/-- Whether a source, in the states `inSource`, lists the names `listed`, and loads for each of them
a schema of that name of which `good` holds. It may fail instead. -/
structure Provides (answer : (call : SourceCall) → σ → Except Error call.Answer × σ)
    (inSource : σ → Prop) (listed : List SchemaName) (good : SchemaDecl → Prop) : Prop where
  /-- It stays in these states. -/
  stays : ∀ call x, inSource x → inSource (answer call x).2
  /-- It lists these names. -/
  lists : ∀ x names, inSource x → (answer .listNames x).1 = .ok names → names = listed
  /-- It loads a schema of the name. -/
  loads : ∀ x name d, inSource x → name ∈ listed → (answer (.load name) x).1 = .ok (some d) →
    d.name = name ∧ good d

/-- Whether a source, in the states `inSource`, does not fail to list names and to load the schemas
of the `listed` ones. -/
structure Delivers (answer : (call : SourceCall) → σ → Except Error call.Answer × σ)
    (inSource : σ → Prop) (listed : List SchemaName) : Prop where
  /-- It lists names. -/
  lists : ∀ x, inSource x → ∃ names, (answer .listNames x).1 = .ok names
  /-- It loads the schemas of listed names. -/
  loads : ∀ x name, inSource x → name ∈ listed → ∃ d, (answer (.load name) x).1 = .ok (some d)

/-- The `Stock` of a source that `Provides`: the cached list of names is `sortNames listed`, and
under `cacheKey d.name` is what is built from a good declaration `d` with a listed name. -/
def catalogStock (answer : (call : SourceCall) → σ → Except Error call.Answer × σ)
    (inSource : σ → Prop) (mayFail : Prop) (listed : List SchemaName) (good : SchemaDecl → Prop) :
    Stock σ where
  answer
  inSource
  mayFail
  lists names := names = sortNames listed
  files key s := ∃ d id, d.name ∈ listed ∧ key = cacheKey d.name ∧ good d ∧ s = d.build id
  base := 0

/-- A `FixedCatalog` without phantoms `Provides` the names of its declarations, if all of these are
good. -/
theorem FixedCatalog.provides {schemas : List SchemaDecl} {good : SchemaDecl → Prop}
    (hgood : ∀ d ∈ schemas, good d) :
    Provides FixedCatalog.answer (fun c => c.schemas = schemas ∧ c.phantoms = [])
      (schemas.map (·.name)) good where
  stays call c hc := by
    cases call with
    | listNames => exact hc
    | defaultName => exact hc
    | load name => exact hc
  lists := by
    rintro c names ⟨hschemas, hphantoms⟩ hanswer
    rw [← Except.ok.inj hanswer, hschemas, hphantoms]
    exact List.append_nil _
  loads := by
    rintro c name d ⟨rfl, -⟩ - hanswer
    have hfound : c.schemas.find? (fun d => d.name == name) = some d := Except.ok.inj hanswer
    have hname := List.find?_some hfound
    exact ⟨beq_iff_eq.mp hname, hgood d (List.mem_of_find?_eq_some hfound)⟩

/-- Such a source also `Delivers`: it does not fail. -/
theorem FixedCatalog.delivers (schemas : List SchemaDecl) :
    Delivers FixedCatalog.answer (fun c => c.schemas = schemas ∧ c.phantoms = [])
      (schemas.map (·.name)) where
  lists c _ := ⟨_, rfl⟩
  loads := by
    rintro c name ⟨rfl, -⟩ hname
    obtain ⟨d, hd, rfl⟩ := List.mem_map.mp hname
    rcases hfind : findDecl? c.schemas d.name with _ | d'
    · have hnot := List.find?_eq_none.mp hfind d hd
      exact absurd (beq_self_eq_true d.name) hnot
    · exact ⟨d', congrArg Except.ok hfind⟩

section Catalog

variable {answer : (call : SourceCall) → σ → Except Error call.Answer × σ} {inSource : σ → Prop}
variable {mayFail : Prop} {listed : List SchemaName} {good : SchemaDecl → Prop}

/-- A name is in the list that is kept if the source lists it. -/
theorem listed_catalogStock {name : SchemaName} :
    (catalogStock answer inSource mayFail listed good).Listed name ↔ name ∈ listed := by
  constructor
  · rintro ⟨_, rfl, hname⟩
    exact mem_sortNames.mp hname
  · intro hname
    exact ⟨_, rfl, mem_sortNames.mpr hname⟩

/-- **The catalog**: a source that `Provides` delivers what its `catalogStock` allows in the
registry. -/
theorem Provides.supplied (h : Provides answer inSource listed good) (mayFail : Prop)
    (hfail : ¬ mayFail → Delivers answer inSource listed) :
    (catalogStock answer inSource mayFail listed good).Supplied where
  lists x names hx hanswer := congrArg sortNames (h.lists x names hx hanswer)
  loads := by
    intro x name d id hx hname hanswer _
    have hmem := listed_catalogStock.mp hname
    obtain ⟨rfl, hgood⟩ := h.loads x name d hx hmem hanswer
    exact ⟨d, id, hmem, rfl, hgood, rfl⟩
  unlisted := by
    intro x e hx hanswer
    by_contra hnot
    obtain ⟨names, hnames⟩ := (hfail hnot).lists x hx
    cases hanswer.symm.trans hnames
  unloaded := by
    intro x name hx hname hnone
    by_contra hnot
    obtain ⟨d, hd⟩ := (hfail hnot).loads x name hx (listed_catalogStock.mp hname)
    exact hnone d hd

namespace Shared

variable (answer) in
/-- A source that is shared stays in its states along every run of `SharedEvent`s. -/
theorem inSource_run (h : ∀ call x, inSource x → inSource (answer call x).2) {s : Shared σ}
    (hx : inSource s.site.source) (es : List SharedEvent) :
    inSource (s.run answer es).site.source := by
  induction es generalizing s with
  | nil => exact hx
  | cons e es ih =>
      refine ih ?_
      cases e with
      | enter q => exact hx
      | refresh => exact hx
      | advance i =>
          rcases hi : s.callers[i]? with _ | k
          · simp only [step, hi]
            exact hx
          · simp only [step, hi]
            cases hrest : k.rest with
            | done a => exact hx
            | fail e => exact hx
            | cache step next => exact hx
            | ask call next =>
                have hnext := h call _ hx
                rcases hanswer : answer call s.site.source with ⟨e | a, x⟩
                · simp only [Lookup.advance, hanswer]
                  rw [hanswer] at hnext
                  exact hnext
                · simp only [Lookup.advance, hanswer]
                  rw [hanswer] at hnext
                  exact hnext

end Shared

variable {preferred : Option String} {firstId : SchemaId} {source : σ}

/-- In a registry that was new there is nothing but what the stock `k` allows, whatever has
happened, and callers get nothing but what it `Gives`. -/
theorem Stock.Supplied.under_run {k : Stock σ} (h : k.Supplied)
    (hstays : ∀ call x, k.inSource x → k.inSource (k.answer call x).2)
    (hdefault : ∀ x e, k.inSource x → (k.answer .defaultName x).1 = .error e → k.mayFail)
    (hfirst : k.base ≤ firstId) (hsource : k.inSource source) (es : List SharedEvent) :
    ((Shared.new preferred firstId source).run k.answer es).Under k.regime fun _ q a =>
      k.Gives q a := by
  refine Shared.under_run (fun _ hr => Stock.Holds.refresh hr)
    (fun _ q => h.lookup hdefault q) ?_ ?_
  · intro es₁ es₂ _
    exact Shared.inSource_run k.answer hstays hsource es₁
  · exact ⟨⟨nofun, nofun, hfirst⟩, nofun⟩

/-- In a registry that was new there is nothing but what such a source delivers, whatever has
happened, and callers get nothing else. -/
theorem Provides.under_run (h : Provides answer inSource listed good) (hsource : inSource source)
    (es : List SharedEvent) :
    ((Shared.new preferred firstId source).run answer es).Under
      (catalogStock answer inSource True listed good).regime
      fun _ q a => (catalogStock answer inSource True listed good).Gives q a :=
  (h.supplied True fun hnot => absurd trivial hnot).under_run h.stays (fun _ _ _ _ => trivial)
    (Nat.zero_le firstId) hsource es

end Catalog

/-! ## Own schemas -/

/-- Whether an answer is about what was asked: a schema has the name, or differs from it in case
alone where the name is not listed, and all schemas are those of the listed names. -/
def Request.Apt (listed : List SchemaName) : (q : Request) → q.Answer → Prop
  | .names, answered => answered = sortNames listed
  | .schema none, s? => ∀ s, s? = some s → s.name = none
  | .schema (some n), s? => ∀ s, s? = some s → ∃ m, some m ∈ listed ∧ s.name = some m ∧
      Text.equalIgnoringCase m n = true ∧ (some n ∈ listed → m = n)
  | .schemas, ss => ss.map (·.name) = sortNames listed
  | _, _ => True

/-- Whether a request is about a schema that shares its key with another one that is listed: the
nameless schema and one that is spelled like `namelessKey`. -/
def Request.Clashes (listed : List SchemaName) : Request → Prop
  | .schema none => some namelessKey ∈ listed
  | .schema (some n) => none ∈ listed ∧
      (n = namelessKey ∨ canonicalName? (sortNames listed) (some n) = some (some namelessKey))
  | .schemas => none ∈ listed ∧ some namelessKey ∈ listed
  | _ => False

/-- Two names with one `cacheKey` are equal, unless one of them is `none` and the other is
`some namelessKey`. -/
theorem eq_of_cacheKey_eq {a b : SchemaName} (h : cacheKey a = cacheKey b) :
    a = b ∨ a = none ∧ b = some namelessKey ∨ a = some namelessKey ∧ b = none := by
  cases a with
  | none =>
      cases b with
      | none => exact .inl rfl
      | some m => exact .inr (.inl ⟨rfl, congrArg some h.symm⟩)
  | some n =>
      cases b with
      | none => exact .inr (.inr ⟨congrArg some h, rfl⟩)
      | some m => exact .inl (congrArg some h)

/-- Names that are not spelled like this key are equal if they share a key. -/
theorem eq_of_cacheKey_of_ne {a b : SchemaName} (ha : a ≠ some namelessKey)
    (hb : b ≠ some namelessKey) (h : cacheKey a = cacheKey b) : a = b := by
  rcases eq_of_cacheKey_eq h with hsame | ⟨-, hclash⟩ | ⟨hclash, -⟩
  · exact hsame
  · exact absurd hclash hb
  · exact absurd hclash ha

/-- **Own schemas**: what `catalogStock` gives to a request that does not clash is `Apt`. -/
theorem apt_of_gives {answer : (call : SourceCall) → σ → Except Error call.Answer × σ}
    {inSource : σ → Prop} {mayFail : Prop} {listed : List SchemaName} {good : SchemaDecl → Prop}
    {q : Request} {a : q.Answer} (hq : ¬ q.Clashes listed)
    (h : (catalogStock answer inSource mayFail listed good).Gives q a) :
    q.Apt listed a := by
  cases q with
  | names => exact h
  | schema name =>
      cases name with
      | none =>
          rintro s rfl
          obtain ⟨key, ⟨d, id, hd, rfl, -, rfl⟩, hkey⟩ := h
          have hnameless : cacheKey d.name = cacheKey none := by
            rcases hkey with hown | ⟨names, canonical, -, hcanonical, hkey⟩
            · exact hown
            · rw [hkey, Registry.canonicalName?_none hcanonical]
          rcases eq_of_cacheKey_eq hnameless with hnone | ⟨hnone, -⟩ | ⟨htoken, -⟩
          · exact hnone
          · exact hnone
          · have hlisted : some namelessKey ∈ listed := htoken ▸ hd
            exact absurd hlisted hq
      | some n =>
          rintro s rfl
          obtain ⟨key, ⟨d, id, hd, rfl, -, rfl⟩, hkey⟩ := h
          rcases hkey with hown | ⟨names, canonical, rfl, hcanonical, hkey⟩
          · rcases eq_of_cacheKey_eq hown with hsame | ⟨hnone, htoken⟩ | ⟨-, hnone⟩
            · exact ⟨n, hsame ▸ hd, hsame, Text.equalIgnoringCase_iff.mpr rfl, fun _ => rfl⟩
            · exact absurd ⟨hnone ▸ hd, .inl (Option.some.inj htoken)⟩ hq
            · cases hnone
          · obtain ⟨m, rfl, hsame, hlisted⟩ := Registry.canonicalName?_some hcanonical
            rcases eq_of_cacheKey_eq hkey with hname | ⟨hnone, htoken⟩ | ⟨-, hnone⟩
            · exact ⟨m, hname ▸ hd, hname, hsame, fun hmem => hlisted (mem_sortNames.mpr hmem)⟩
            · exact absurd ⟨hnone ▸ hd, .inr (htoken ▸ hcanonical)⟩ hq
            · cases hnone
  | schemas =>
      obtain ⟨names, hnames, hall⟩ := h
      have hlisted : ∀ name ∈ names, name ∈ listed := by
        rintro name hname
        obtain rfl : names = sortNames listed := hnames
        exact mem_sortNames.mp hname
      show a.map (·.name) = sortNames listed
      rw [← show names = sortNames listed from hnames]
      clear hnames
      induction hall with
      | nil => rfl
      | cons hfiled _ ih =>
          obtain ⟨hname, hrest⟩ := List.forall_mem_cons.mp hlisted
          refine congrArg₂ List.cons ?_ (ih hrest)
          obtain ⟨d, id, hd, hkey, -, rfl⟩ := hfiled
          rcases eq_of_cacheKey_eq hkey with hsame | ⟨hnone, htoken⟩ | ⟨htoken, hnone⟩
          · exact hsame.symm
          · exact absurd ⟨hnone ▸ hname, htoken ▸ hd⟩ hq
          · exact absurd ⟨hnone ▸ hd, htoken ▸ hname⟩ hq
  | default => trivial
  | table label => trivial
  | column label => trivial

/-! ## Clashes -/

section Clashes

variable {answer : (call : SourceCall) → σ → Except Error call.Answer × σ} {inSource : σ → Prop}
variable {mayFail : Prop} {listed : List SchemaName} {good : SchemaDecl → Prop} {s : Schema}

/-- A schema under the key of the nameless schema is also given to a name that stands for one that
is spelled like this key. -/
theorem upholds_of_canonical (h : (catalogStock answer inSource mayFail listed good).Supplied)
    {n : String} (hn : n ≠ namelessKey)
    (hcanonical : canonicalName? (sortNames listed) (some n) = some (some namelessKey)) :
    (Lookup.schemaByName? (some n)).Upholds
      ((catalogStock answer inSource mayFail listed good).regime.caching namelessKey s)
        (· = some s) := by
  have hread := Stock.Supplied.readSchema (k := catalogStock answer inSource mayFail listed good)
    (cacheKey (some n))
  refine Lookup.upholds_bind (Lookup.upholds_caching _ _ hread) fun s? hs => ?_
  cases s? with
  | some s' =>
      -- Nothing is cached under the name itself, as it is not listed.
      obtain ⟨d, id, hd, hkey, -⟩ := hs s' rfl
      rcases eq_of_cacheKey_eq hkey with hname | ⟨hnone, -⟩ | ⟨htoken, -⟩
      · have hsame :=
          (Registry.canonicalName?_of_mem (mem_sortNames.mpr (hname ▸ hd))).symm.trans hcanonical
        exact absurd (Option.some.inj (Option.some.inj hsame)) hn
      · cases hnone
      · exact absurd (Option.some.inj htoken) hn
  | none =>
      refine Lookup.upholds_bind (Lookup.upholds_caching _ _ h.schemaNames) fun names hnames => ?_
      obtain rfl : names = sortNames listed := hnames
      rw [hcanonical]
      refine Lookup.upholds_bind (Lookup.upholds_listedSchema_caching (some namelessKey) s)
        fun s' hs' => ?_
      exact Lookup.upholds_pure (congrArg some hs')

/-- A schema under the key of the nameless schema is in two places among all schemas. -/
theorem upholds_of_both (h : (catalogStock answer inSource mayFail listed good).Supplied)
    (htoken : some namelessKey ∈ listed) (hs : s.name = none) :
    Lookup.schemas.Upholds ((catalogStock answer inSource mayFail listed good).regime.caching
      namelessKey s)
      fun ss => ss.map (·.name) ≠ sortNames listed := by
  refine Lookup.upholds_bind (Lookup.upholds_caching _ _ h.schemaNames) fun names hnames => ?_
  obtain rfl : names = sortNames listed := hnames
  have hall : ∀ name ∈ sortNames listed, (Lookup.listedSchema name).Upholds
      ((catalogStock answer inSource mayFail listed good).regime.caching namelessKey s)
      fun s' => cacheKey name = namelessKey → s' = s := by
    intro name hname
    by_cases hkey : cacheKey name = namelessKey
    · rw [← hkey]
      exact Lookup.upholds_mono (Lookup.upholds_listedSchema_caching name s) fun s' hs' _ => hs'
    · have hlisted := h.listedSchema (listed_catalogStock.mpr (mem_sortNames.mp hname))
      exact Lookup.upholds_mono (Lookup.upholds_caching _ _ hlisted) fun s' _ hsame =>
        absurd hsame hkey
  refine Lookup.upholds_mono (Lookup.upholds_mapM hall) fun ss hss hnames => ?_
  rw [← hnames, List.forall₂_map_left_iff, List.forall₂_same] at hss
  have hmem : some namelessKey ∈ ss.map (·.name) := hnames ▸ mem_sortNames.mpr htoken
  obtain ⟨s', hs', hname⟩ := List.mem_map.mp hmem
  obtain rfl := hss s' hs' (hname ▸ rfl)
  exact nomatch hs.symm.trans hname

/-- **Clashes**: there is a listed name `m` with `cacheKey m = namelessKey` such that its schema,
once it is cached there, is given to a request that clashes, and is not `Apt`. -/
theorem exists_upholds_of_clashes (h : (catalogStock answer inSource mayFail listed good).Supplied)
    {q : Request} (hq : q.Clashes listed) :
    ∃ m ∈ listed, cacheKey m = namelessKey ∧ ∀ s : Schema, s.name = m →
      q.lookup.Upholds ((catalogStock answer inSource mayFail listed good).regime.caching
        namelessKey s)
        fun a => ¬ q.Apt listed a := by
  cases q with
  | names => exact hq.elim
  | schema name =>
      cases name with
      | none =>
          refine ⟨some namelessKey, hq, rfl, fun s hs => ?_⟩
          refine Lookup.upholds_mono (Lookup.upholds_schemaByName?_caching none s) ?_
          rintro _ rfl hapt
          exact nomatch hs.symm.trans (hapt s rfl)
      | some n =>
          refine ⟨none, hq.1, rfl, fun s hs => ?_⟩
          have hinapt : ∀ s? : Option Schema, s? = some s →
              ¬ (Request.schema (some n)).Apt listed s? := by
            rintro _ rfl hapt
            obtain ⟨m, -, hname, -⟩ := hapt s rfl
            exact nomatch hs.symm.trans hname
          by_cases hn : n = namelessKey
          · subst hn
            exact Lookup.upholds_mono
              (Lookup.upholds_schemaByName?_caching (some namelessKey) s) hinapt
          · exact Lookup.upholds_mono (upholds_of_canonical h hn (hq.2.resolve_left hn)) hinapt
  | schemas => exact ⟨none, hq.1, rfl, fun s hs => upholds_of_both h hq.2 hs⟩
  | default => exact hq.elim
  | table label => exact hq.elim
  | column label => exact hq.elim

/-- In a new registry, the lookup of a listed name loads its schema and caches it under
`cacheKey name`. -/
theorem run_schemaByName?_new (h : Provides answer inSource listed good)
    (hdelivers : Delivers answer inSource listed) {name : SchemaName} (hname : name ∈ listed)
    (preferred : Option String) (firstId : SchemaId) {source : σ} (hsource : inSource source) :
    ∃ s w, (Lookup.schemaByName? name).run (.ofSource answer)
      ⟨{ preferred, nextId := firstId }, source⟩ =
        (.ok (some s), w) ∧ s.name = name ∧ w.registry.schema? (cacheKey name) = some s := by
  obtain ⟨names, hnames⟩ := hdelivers.lists source hsource
  obtain rfl := h.lists source names hsource hnames
  have hlisting : inSource (answer .listNames source).2 := h.stays .listNames source hsource
  obtain ⟨d, hd⟩ := hdelivers.loads _ name hlisting hname
  let fresh : Site σ := ⟨{ preferred, nextId := firstId }, source⟩
  let listing : Site σ :=
    ⟨{ fresh.registry with names := some (sortNames names) }, (answer .listNames source).2⟩
  let loading : Site σ :=
    ⟨{ listing.registry with schemas := [(cacheKey name, d.build firstId)], nextId := firstId + 1 },
      (answer (.load name) listing.source).2⟩
  have hlist : Lookup.schemaNames.run (.ofSource answer) fresh =
      (.ok (sortNames names), listing) := by
    refine (Lookup.run_bind_of_ok (Lookup.run_step answer .readNames fresh)).trans ?_
    exact Lookup.run_bind_of_ok (Lookup.run_call_of_ok (w := fresh) hnames)
  have hload : (Lookup.listedSchema name).run (.ofSource answer) listing =
      (.ok (d.build firstId), loading) := by
    refine (Lookup.run_bind_of_ok
      (Lookup.run_step answer (.readSchema (cacheKey name)) listing)).trans ?_
    exact Lookup.run_bind_of_ok (Lookup.run_call_of_ok (w := listing) hd)
  refine ⟨d.build firstId, loading, ?_, (h.loads _ name d hlisting hname hd).1,
    List.lookup_cons_self⟩
  refine (Lookup.run_bind_of_ok (Lookup.run_step answer (.readSchema (cacheKey name)) fresh)).trans
    ?_
  refine (Lookup.run_bind_of_ok (w := fresh) hlist).trans ?_
  rw [Registry.canonicalName?_of_mem (mem_sortNames.mpr hname)]
  exact Lookup.run_bind_of_ok hload

/-- **Clashes**: if a request clashes, someone may get an answer that is not `Apt`, after some
events. -/
theorem exists_not_apt (h : Provides answer inSource listed good)
    (hdelivers : Delivers answer inSource listed) {q : Request} (hq : q.Clashes listed)
    (preferred : Option String) (firstId : SchemaId) {source : σ} (hsource : inSource source) :
    ∃ es i a, ((Shared.new preferred firstId source).run answer es).Returned i q a ∧
      ¬ q.Apt listed a := by
  have hsupplied := h.supplied False fun _ => hdelivers
  obtain ⟨m, hm, hkey, hinapt⟩ := exists_upholds_of_clashes hsupplied hq
  obtain ⟨s, w, hrun, hs, hcached⟩ := run_schemaByName?_new h hdelivers hm preferred firstId hsource
  have hnew : (catalogStock answer inSource False listed good).regime.At
      ⟨{ preferred, nextId := firstId }, source⟩ := ⟨⟨nofun, nofun, Nat.zero_le _⟩, hsource⟩
  -- Someone looks up the other name first.
  obtain ⟨es, -, hsite⟩ := Shared.exists_returned (s := Shared.new preferred firstId source)
    (q := .schema m) hrun
  obtain ⟨⟨hholds, hx⟩, -⟩ := Lookup.upholds_of_run h.stays (hsupplied.schemaByName? m) hnew hrun
  obtain ⟨a, w', hlookup, -, ha⟩ := Lookup.exists_run h.stays (hinapt s hs) id
    ⟨⟨hholds, hkey ▸ hcached⟩, hx⟩
  have hthere : q.lookup.run (.ofSource answer)
    ((Shared.new preferred firstId source).run answer es).site =
      (.ok a, w') := hsite ▸ hlookup
  obtain ⟨es', hreturned, -⟩ := Shared.exists_returned hthere
  rw [← Shared.run_append] at hreturned
  exact ⟨es ++ es', _, a, hreturned, ha⟩

/-- **Exactly**: whatever callers look up and whenever the registry is refreshed (`es`), a request
that does not clash (`Request.Clashes`) gets nothing but what it asks for (`Request.Apt`), and one
that clashes may get something else, if the source does not fail (`Delivers`). -/
theorem apt_unless_clashes (h : Provides answer inSource listed good) (preferred : Option String)
    (firstId : SchemaId) {source : σ} (hsource : inSource source) (q : Request) :
    (¬ q.Clashes listed → ∀ es i a,
        ((Shared.new preferred firstId source).run answer es).Returned i q a → q.Apt listed a) ∧
      (Delivers answer inSource listed → q.Clashes listed → ∃ es i a,
        ((Shared.new preferred firstId source).run answer es).Returned i q a ∧
          ¬ q.Apt listed a) := by
  constructor
  · intro hq es i a ha
    exact apt_of_gives hq ((h.under_run hsource es).post_of_returned ha)
  · intro hdelivers hq
    exact exists_not_apt h hdelivers hq preferred firstId hsource

/-- With a nameless schema, the schema "A" and one that is spelled like the key of the nameless one,
a request for "a" gets the schema "A", and a request for all schemas may get one of them twice. -/
theorem apt_unless_clashes_threeSchemas :
    let schemas : List SchemaDecl := [⟨none, []⟩, ⟨some "A", []⟩, ⟨some namelessKey, []⟩]
    let inSource := fun c : FixedCatalog => c.schemas = schemas ∧ c.phantoms = []
    let listed : List SchemaName := [none, some "A", some namelessKey]
    let run :=
      (Shared.new none 0 (⟨schemas, [], none, 0, 0⟩ : FixedCatalog)).run FixedCatalog.answer
    Provides FixedCatalog.answer inSource listed (fun _ => True) ∧
      inSource ⟨schemas, [], none, 0, 0⟩ ∧
      (∀ es i s, (run es).Returned i (.schema (some "a")) (some s) → s.name = some "A") ∧
      ∃ es i ss, (run es).Returned i .schemas ss ∧ ss.map (·.name) ≠ sortNames listed := by
  intro schemas inSource listed run
  have hprovides : Provides FixedCatalog.answer inSource listed (fun _ => True) :=
    FixedCatalog.provides fun _ _ => trivial
  refine ⟨hprovides, ⟨rfl, rfl⟩, ?_, ?_⟩
  · have hdiffers : Text.equalIgnoringCase namelessKey "a" = false := by decide +kernel
    have hclash : ¬ (Request.schema (some "a")).Clashes listed := by
      rintro ⟨-, htoken | hcanonical⟩
      · exact absurd htoken (by decide)
      · obtain ⟨m, htoken, hsame, -⟩ := Registry.canonicalName?_some hcanonical
        obtain rfl := Option.some.inj htoken
        exact absurd (hsame.symm.trans hdiffers) nofun
    intro es i s hs
    obtain ⟨m, hm, hname, hsame, -⟩ :=
      (apt_unless_clashes hprovides none 0 ⟨rfl, rfl⟩ (.schema (some "a"))).1 hclash es i
        (some s) hs s rfl
    have hcases : m = "A" ∨ m = namelessKey := by simpa [listed] using hm
    rcases hcases with rfl | rfl
    · exact hname
    · exact absurd (hsame.symm.trans hdiffers) nofun
  · exact (apt_unless_clashes hprovides none 0 ⟨rfl, rfl⟩ .schemas).2
      (FixedCatalog.delivers schemas)
      ⟨by decide, by decide⟩

end Clashes

/-- A caller looks for the nameless schema, and another one for a schema that is spelled like its
key. -/
def namelessThenKey : List SharedEvent :=
  .enter (.schema none) :: List.replicate 7 (.advance 0) ++
    [.enter (.schema (some namelessKey)), .advance 1]

/-- **Clashes**: the nameless schema may be given to a request for a name that the source does not
list. -/
theorem nameless_for_unlisted :
    let catalog : FixedCatalog := ⟨[⟨none, []⟩], [], none, 0, 0⟩
    Provides FixedCatalog.answer (fun c => c.schemas = catalog.schemas ∧ c.phantoms = []) [none]
      (fun _ => True) ∧
      ¬ ∀ (es : List SharedEvent) (i : Nat) (q : Request) (a : q.Answer),
        ((Shared.new none 0 catalog).run FixedCatalog.answer es).Returned i q a →
          q.Apt [none] a := by
  intro catalog
  refine ⟨FixedCatalog.provides fun _ _ => trivial, fun happ => ?_⟩
  have hreturned : ((Shared.new none 0 catalog).run FixedCatalog.answer namelessThenKey).Returned 1
      (.schema (some namelessKey)) (some ⟨0, none, []⟩) :=
    Shared.returned_of_schema? (by decide +kernel) (by decide +kernel)
  obtain ⟨m, hm, -⟩ := happ namelessThenKey 1 _ _ hreturned _ rfl
  exact absurd hm (by simp)

end DataAccess.Catalog
