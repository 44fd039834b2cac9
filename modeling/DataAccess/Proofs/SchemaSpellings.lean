import DataAccess.Proofs.NamedSchemas

/-!
# Schema spellings: one schema for all spellings of its name

A source lists names that are pairwise different, also if case is ignored, and loads a schema for
each of them (`LoadsListed`). A lookup by name may find its schema in the cache at once, or come to
the listed name that the spelling stands for and find that in the cache, or load it. All these ways
lead to the schema that is cached under the listed name.

* **Canonical names** (`canonicalName?_eq_some_iff`, `canonicalName?_congr`): spellings that differ
  in case alone stand for the same listed name.
* **Loads** (`Lookup.loads`): the names of the schemas that a lookup asks the source for.
* **The cache** (`LoadsListed.at_run`): whatever has happened, schemas are cached under the keys of
  listed names.
* **One lookup** (`LoadsListed.run_schemaByName?`): what it answers is cached under the canonical
  name, and it asks for no schema that was.
* **Two lookups** (`spellings_share_schema`).
-/

namespace DataAccess.Catalog

variable {σ α β : Type}

/-! ## Canonical names -/

/-- Whether no two listed names differ in case alone: `Text.equalIgnoringCase m n` only for
`m = n`. -/
def DistinctNames (listed : List SchemaName) : Prop :=
  ∀ m n, some m ∈ listed → some n ∈ listed → Text.equalIgnoringCase m n = true → m = n

section Canonical

variable {listed names : List SchemaName} {a b n : String}

/-- A spelling of a listed name stands for some listed name, by `canonicalName?`. -/
theorem exists_canonicalName? {m : String} (hm : some m ∈ names)
    (hsame : Text.equalIgnoringCase m n = true) :
    ∃ name, canonicalName? names (some n) = some name := by
  have hmem : m ∈ names.filterMap id := List.mem_filterMap.mpr ⟨some m, hm, rfl⟩
  unfold canonicalName?
  dsimp only
  cases (names.filterMap id).find? (· == n) with
  | some exact => exact ⟨_, rfl⟩
  | none =>
      cases hfound : (names.filterMap id).find? fun k => Text.equalIgnoringCase k n with
      | some found => exact ⟨_, rfl⟩
      | none => exact absurd hsame (List.find?_eq_none.mp hfound m hmem)

/-- **Canonical names**: with `DistinctNames`, `canonicalName? names (some n)` is the listed name
that differs from `n` at most in case. -/
theorem canonicalName?_eq_some_iff (h : DistinctNames names) {name : SchemaName} :
    canonicalName? names (some n) = some name ↔
      ∃ m, name = some m ∧ some m ∈ names ∧ Text.equalIgnoringCase m n = true := by
  constructor
  · intro hname
    obtain ⟨m, rfl, hsame, -⟩ := Registry.canonicalName?_some hname
    exact ⟨m, rfl, Registry.mem_of_canonicalName? hname, hsame⟩
  · rintro ⟨m, rfl, hm, hsame⟩
    obtain ⟨name, hname⟩ := exists_canonicalName? hm hsame
    obtain ⟨m', rfl, hsame', -⟩ := Registry.canonicalName?_some hname
    have hboth : Text.equalIgnoringCase m' m = true := by
      rw [Text.equalIgnoringCase_iff] at hsame hsame' ⊢
      exact hsame'.trans hsame.symm
    rw [hname, h m' m (Registry.mem_of_canonicalName? hname) hm hboth]

/-- **Canonical names**: spellings `a` and `b` that differ in case alone stand for the same name, in
whatever order the names are listed. -/
theorem canonicalName?_congr (h : DistinctNames listed)
    (hnames : ∀ name, name ∈ names ↔ name ∈ listed) (hab : Text.equalIgnoringCase a b = true) :
    canonicalName? names (some a) = canonicalName? listed (some b) := by
  have hdistinct : DistinctNames names :=
    fun m n hm hn => h m n ((hnames _).mp hm) ((hnames _).mp hn)
  refine Option.ext fun name => ?_
  rw [canonicalName?_eq_some_iff h, canonicalName?_eq_some_iff hdistinct]
  refine exists_congr fun m => and_congr_right fun _ => and_congr (hnames _) ?_
  rw [Text.equalIgnoringCase_iff] at hab
  rw [Text.equalIgnoringCase_iff, Text.equalIgnoringCase_iff, hab]

end Canonical

/-! ## Loads -/

/-- The name of the schema that a call asks for. -/
def SourceCall.loaded : SourceCall → List SchemaName
  | .load name => [name]
  | _ => []

namespace Lookup

variable (answer : (call : SourceCall) → σ → Except Error call.Answer × σ)

/-- The names of the schemas that a lookup asks the source for, if it runs by itself: those of its
`.load` calls, in order. -/
def loads : Lookup α → Site σ → List SchemaName
  | .done _, _ => []
  | .fail _, _ => []
  | .cache step next, w =>
      loads (next (w.registry.perform step).1) ⟨(w.registry.perform step).2, w.source⟩
  | .ask call next, w => call.loaded ++ match answer call w.source with
      | (.error _, _) => []
      | (.ok a, x) => loads (next (call.receive a w.registry).1) ⟨(call.receive a w.registry).2, x⟩

variable {answer} {l : Lookup α} {f : α → Lookup β} {w w' : Site σ} {a : α}

/-- A composed lookup asks for what its parts ask for: `loads` appends. -/
theorem loads_bind_of_ok (h : l.run (.ofSource answer) w = (.ok a, w')) :
    (l >>= f).loads answer w = l.loads answer w ++ (f a).loads answer w' := by
  show (l.bind f).loads answer w = _
  induction l generalizing w with
  | done b =>
      obtain ⟨hb, rfl⟩ := Prod.mk.inj h
      obtain rfl := Except.ok.inj hb
      rfl
  | fail e => cases h
  | cache step next ih => exact ih _ h
  | ask call next ih =>
      rcases hanswer : answer call w.source with ⟨e | b, x⟩
      · simp only [run, Answering.ofSource, hanswer] at h
        cases h
      · simp only [run, Answering.ofSource, hanswer] at h
        simp only [Lookup.bind, loads, hanswer, List.append_assoc]
        rw [ih _ h]

/-- If its first part fails, a composed lookup asks for what that asks for. -/
theorem loads_bind_of_error {e : Error} (h : l.run (.ofSource answer) w = (.error e, w')) :
    (l >>= f).loads answer w = l.loads answer w := by
  show (l.bind f).loads answer w = _
  induction l generalizing w with
  | done b => cases h
  | fail e => rfl
  | cache step next ih => exact ih _ h
  | ask call next ih =>
      rcases hanswer : answer call w.source with ⟨e | b, x⟩
      · simp only [Lookup.bind, loads, hanswer]
      · simp only [run, Answering.ofSource, hanswer] at h
        simp only [Lookup.bind, loads, hanswer]
        rw [ih _ h]

/-- If its first part fails, a composed lookup fails. -/
theorem run_bind_of_error {e : Error} (h : l.run (.ofSource answer) w = (.error e, w')) :
    (l >>= f).run (.ofSource answer) w = (.error e, w') := by
  show (l.bind f).run _ w = _
  rw [run_bind, h]

/-- A step on the cache asks for nothing. -/
theorem loads_step (step : CacheStep) : (Lookup.step step).loads answer w = [] := rfl

/-- A call asks for what it says. -/
theorem loads_call (call : SourceCall) : (Lookup.call call).loads answer w = call.loaded := by
  unfold Lookup.call loads
  split <;> exact List.append_nil _

/-- A call that the source does not answer fails. -/
theorem run_call_of_error {call : SourceCall} {e : Error}
    (h : (answer call w.source).1 = .error e) :
    (Lookup.call call).run (.ofSource answer) w =
      (.error e, ⟨w.registry, (answer call w.source).2⟩) := by
  simp only [Lookup.call, run, Answering.ofSource, h]

/-- The names are listed without asking for a schema: `schemaNames.loads` is empty. -/
theorem loads_schemaNames : schemaNames.loads answer w = [] := by
  unfold schemaNames
  rw [loads_bind_of_ok (run_step answer _ w), loads_step]
  cases hnames : w.registry.names with
  | some names =>
      simp only [Registry.perform, hnames]
      rfl
  | none =>
      simp only [Registry.perform, hnames]
      rcases hanswer : (answer .listNames w.source).1 with e | names
      · rw [loads_bind_of_error (run_call_of_error hanswer), loads_call]
        rfl
      · rw [loads_bind_of_ok (run_call_of_ok hanswer), loads_call]
        rfl

end Lookup

/-! ## The cache -/

/-- Whether a source, in the states `inSource`, lists the names `listed` in some order, or fails to
list them, and loads a schema for each of them. -/
structure LoadsListed (answer : (call : SourceCall) → σ → Except Error call.Answer × σ)
    (inSource : σ → Prop) (listed : List SchemaName) : Prop where
  /-- It stays in these states. -/
  stays : ∀ call x, inSource x → inSource (answer call x).2
  /-- It lists these names. -/
  lists : ∀ x names, inSource x → (answer .listNames x).1 = .ok names →
    ∀ name, name ∈ names ↔ name ∈ listed
  /-- It loads their schemas. -/
  loads : ∀ x name, inSource x → name ∈ listed → ∃ d, (answer (.load name) x).1 = .ok (some d)

/-- The `Stock` of a source that `LoadsListed`: lists with the members of `listed`, and schemas
under the keys of listed names. -/
def listedStock (answer : (call : SourceCall) → σ → Except Error call.Answer × σ)
    (inSource : σ → Prop) (listed : List SchemaName) : Stock σ where
  answer
  inSource
  mayFail := True
  lists names := ∀ name, name ∈ names ↔ name ∈ listed
  files key _ := ∃ name ∈ listed, key = cacheKey name
  base := 0

section Served

variable {answer : (call : SourceCall) → σ → Except Error call.Answer × σ} {inSource : σ → Prop}
variable {listed : List SchemaName} {w w' : Site σ} {n : String} {name : SchemaName}

/-- A name is in the list that is kept only if the source lists it. -/
theorem mem_listed_of_stock (h : (listedStock answer inSource listed).Listed name) :
    name ∈ listed := by
  obtain ⟨names, hnames, hname⟩ := h
  exact (hnames name).mp hname

variable (answer inSource listed) in
/-- Whether a lookup of `n` may have come to an outcome and left a registry: it answers with the
schema that is cached under the key of `canonicalName? listed (some n)`, or with none if there is no
such name, or fails since the source fails to list names. -/
def Settled (n : String) : Except Error (Option Schema) → Registry → Prop
  | .ok (some s), r =>
      ∃ name, canonicalName? listed (some n) = some name ∧ r.schema? (cacheKey name) = some s
  | .ok none, _ => canonicalName? listed (some n) = none
  | .error e, _ => ∃ x, inSource x ∧ (answer .listNames x).1 = .error e

namespace LoadsListed

/-- A source that `LoadsListed` delivers what its `listedStock` allows. -/
theorem supplied (h : LoadsListed answer inSource listed) :
    (listedStock answer inSource listed).Supplied where
  lists x names hx hanswer name := mem_sortNames.trans (h.lists x names hx hanswer name)
  loads _ name _ _ _ hname _ _ := ⟨name, mem_listed_of_stock hname, rfl⟩
  unlisted _ _ _ _ := trivial
  unloaded _ _ _ _ _ := trivial

/-- **The cache**: after any run of `SharedEvent`s, the names that are cached are the listed ones,
and schemas are cached under their keys. -/
theorem at_run (h : LoadsListed answer inSource listed) (preferred : Option String)
    (firstId : SchemaId) {source : σ} (hsource : inSource source) (es : List SharedEvent) :
    (listedStock answer inSource listed).regime.At
      ((Shared.new preferred firstId source).run answer es).site :=
  ⟨(h.supplied.under_run h.stays (fun _ _ _ _ => trivial) (Nat.zero_le firstId) hsource es).inv,
    Shared.inSource_run answer h.stays hsource es⟩

/-- A lookup leaves a cache on such a source as it may be. -/
theorem at_run_schemaByName? (h : LoadsListed answer inSource listed)
    (hw : (listedStock answer inSource listed).regime.At w) (name : SchemaName) :
    (listedStock answer inSource listed).regime.At
      ((Lookup.schemaByName? name).run (.ofSource answer) w).2 :=
  (Lookup.upholds_run h.stays (h.supplied.schemaByName? name) hw).1

/-! ## One lookup -/

variable (h : LoadsListed answer inSource listed)
    (hw : (listedStock answer inSource listed).regime.At w)

include h hw

/-- The names are listed, and no schema is cached or forgotten thereby, or the source fails to list
them. -/
theorem run_schemaNames :
    (∃ names w', Lookup.schemaNames.run (.ofSource answer) w = (.ok names, w') ∧
      (∀ name, name ∈ names ↔ name ∈ listed) ∧ w'.registry.schemas = w.registry.schemas ∧
      inSource w'.source) ∨
    ∃ e w', Lookup.schemaNames.run (.ofSource answer) w = (.error e, w') ∧
      ∃ x, inSource x ∧ (answer .listNames x).1 = .error e := by
  cases hcached : w.registry.names with
  | some names =>
      exact .inl ⟨names, w, Lookup.run_schemaNames_of_some answer hcached,
        hw.1.names names hcached, rfl, hw.2⟩
  | none =>
      have hrun : Lookup.schemaNames.run (.ofSource answer) w =
          (Lookup.call .listNames >>= fun names => Lookup.step (.storeNames (sortNames names))).run
            (.ofSource answer) w := by
        unfold Lookup.schemaNames
        rw [Lookup.run_bind_of_ok (Lookup.run_step answer _ w)]
        simp only [Registry.perform, hcached]
      rcases hanswer : (answer .listNames w.source).1 with e | names
      · right
        rw [hrun, Lookup.run_bind_of_error (Lookup.run_call_of_error hanswer)]
        exact ⟨e, _, rfl, w.source, hw.2, hanswer⟩
      · left
        rw [hrun, Lookup.run_bind_of_ok (Lookup.run_call_of_ok hanswer), Lookup.run_step]
        simp only [SourceCall.receive, Registry.perform, hcached]
        exact ⟨_, _, rfl, fun name =>
          mem_sortNames.trans (h.lists w.source names hw.2 hanswer name), rfl,
          h.stays .listNames w.source hw.2⟩

omit hw in
/-- The schema of a listed name is cached under its key after `listedSchema`, and is asked for only
if there was none. -/
theorem run_listedSchema (hx : inSource w.source) (hname : name ∈ listed) :
    (∃ s w', (Lookup.listedSchema name).run (.ofSource answer) w = (.ok s, w') ∧
      w'.registry.schema? (cacheKey name) = some s) ∧
    ∀ other ∈ (Lookup.listedSchema name).loads answer w,
      other = name ∧ w.registry.schema? (cacheKey name) = none := by
  unfold Lookup.listedSchema
  rw [Lookup.run_bind_of_ok (Lookup.run_step answer _ w),
    Lookup.loads_bind_of_ok (Lookup.run_step answer _ w),
    Lookup.loads_step]
  cases hcached : w.registry.schema? (cacheKey name) with
  | some s =>
      simp only [Registry.perform, hcached]
      exact ⟨⟨s, w, rfl, hcached⟩, List.forall_mem_nil _⟩
  | none =>
      simp only [Registry.perform, hcached]
      obtain ⟨d, hd⟩ := h.loads w.source name hx hname
      unfold Lookup.loadSchema
      rw [Lookup.run_bind_of_ok (Lookup.run_call_of_ok hd),
        Lookup.loads_bind_of_ok (Lookup.run_call_of_ok hd),
        Lookup.loads_call]
      refine ⟨⟨_, _, rfl, Registry.schema?_perform_publish _ _ _⟩,
        fun other hother => ⟨?_, trivial⟩⟩
      rcases List.mem_append.mp hother with hread | hload
      · cases hread
      · rcases List.mem_append.mp hload with hcall | hpublish
        · exact List.mem_singleton.mp hcall
        · cases hpublish

/-- **One lookup**: `schemaByName? (some n)` ends `Settled`, and asks for no schema but the one of
the canonical name, if that was not cached before. -/
theorem run_schemaByName? (hdistinct : DistinctNames listed) (hkey : some namelessKey ∉ listed)
    (hn : n ≠ namelessKey) :
    Settled answer inSource listed n ((Lookup.schemaByName? (some n)).run (.ofSource answer) w).1
      ((Lookup.schemaByName? (some n)).run (.ofSource answer) w).2.registry ∧
    ∀ name ∈ (Lookup.schemaByName? (some n)).loads answer w,
      canonicalName? listed (some n) = some name ∧ w.registry.schema? (cacheKey name) = none := by
  unfold Lookup.schemaByName?
  rw [Lookup.run_bind_of_ok (Lookup.run_step answer _ w),
    Lookup.loads_bind_of_ok (Lookup.run_step answer _ w),
    Lookup.loads_step, List.nil_append]
  cases hcached : w.registry.schema? (cacheKey (some n)) with
  | some s =>
      simp only [Registry.perform, hcached]
      -- The schema is cached under the name itself, which is listed and so its own canonical name.
      obtain ⟨name, hname, hsame⟩ := hw.1.schemas _ s hcached
      have hneither : name ≠ some namelessKey := fun heq => hkey (heq ▸ hname)
      have hself := eq_of_cacheKey_of_ne (fun heq => hn (Option.some.inj heq)) hneither hsame
      exact ⟨⟨some n, Registry.canonicalName?_of_mem (hself ▸ hname), hcached⟩,
        List.forall_mem_nil _⟩
  | none =>
      simp only [Registry.perform, hcached]
      rcases h.run_schemaNames hw with ⟨names, w', hrun, hnames, hkept, hx⟩ | ⟨e, w', hrun, hfails⟩
      · rw [Lookup.run_bind_of_ok hrun, Lookup.loads_bind_of_ok hrun, Lookup.loads_schemaNames,
          List.nil_append]
        have hcanonical : canonicalName? names (some n) = canonicalName? listed (some n) :=
          canonicalName?_congr hdistinct hnames (Text.equalIgnoringCase_iff.mpr rfl)
        cases hc : canonicalName? names (some n) with
        | none => exact ⟨hcanonical.symm.trans hc, List.forall_mem_nil _⟩
        | some name =>
            have hlisted : name ∈ listed := (hnames name).mp (Registry.mem_of_canonicalName? hc)
            obtain ⟨⟨s, w'', hload, hstored⟩, hloads⟩ := h.run_listedSchema hx hlisted
            have hbefore : w'.registry.schema? (cacheKey name) =
                w.registry.schema? (cacheKey name) :=
              congrArg (List.lookup _) hkept
            dsimp only
            rw [Lookup.run_bind_of_ok hload, Lookup.loads_bind_of_ok hload]
            refine ⟨⟨name, hcanonical.symm.trans hc, hstored⟩, fun other hother => ?_⟩
            rcases List.mem_append.mp hother with hother | hother
            · obtain ⟨rfl, hnone⟩ := hloads other hother
              exact ⟨hcanonical.symm.trans hc, hbefore ▸ hnone⟩
            · cases hother
      · rw [Lookup.run_bind_of_error hrun, Lookup.loads_bind_of_error hrun,
          Lookup.loads_schemaNames]
        exact ⟨hfails, List.forall_mem_nil _⟩

end LoadsListed

/-! ## Two lookups -/

/-- **Spelling does not split a schema.** Let a source (`LoadsListed`) list names that are pairwise
different, also if case is ignored (`DistinctNames`), none of them spelled like `namelessKey`, and
let it load a schema for each. Whatever callers have looked up and whenever the registry was
refreshed (`es`), let a schema be looked up by two spellings `a` and `b` of one name, one after the
other. Then

* both lookups answer with the same schema, or both with none, unless the source fails to list
  names;
* each of them asks the source (`Lookup.loads`) for no schema but the one of the canonical name, and
  only if that is not cached;
* the second one asks for none, if the first one has an answer. -/
theorem spellings_share_schema (h : LoadsListed answer inSource listed)
    (hdistinct : DistinctNames listed)
    (hkey : some namelessKey ∉ listed) (preferred : Option String) (firstId : SchemaId) {source : σ}
    (hsource : inSource source) (es : List SharedEvent) {a b : String} (ha : a ≠ namelessKey)
    (hb : b ≠ namelessKey) (hab : Text.equalIgnoringCase a b = true) :
    let w := ((Shared.new preferred firstId source).run answer es).site
    let first := (Lookup.schemaByName? (some a)).run (.ofSource answer) w
    let second := (Lookup.schemaByName? (some b)).run (.ofSource answer) first.2
    ((∃ s?, first.1 = .ok s? ∧ second.1 = .ok s?) ∨
      ∃ e, (first.1 = .error e ∨ second.1 = .error e) ∧ ∃ x, inSource x ∧
        (answer .listNames x).1 = .error e) ∧
    (∀ name ∈ (Lookup.schemaByName? (some a)).loads answer w,
      canonicalName? listed (some a) = some name ∧ w.registry.schema? (cacheKey name) = none) ∧
    (∀ name ∈ (Lookup.schemaByName? (some b)).loads answer first.2,
      canonicalName? listed (some b) = some name ∧
        first.2.registry.schema? (cacheKey name) = none) ∧
    ∀ s?, first.1 = .ok s? → (Lookup.schemaByName? (some b)).loads answer first.2 = [] := by
  intro w first second
  have hw := h.at_run preferred firstId hsource es
  have hw' := h.at_run_schemaByName? hw (some a)
  obtain ⟨hfirst, hloads⟩ := h.run_schemaByName? hw hdistinct hkey ha
  obtain ⟨hsecond, hloads'⟩ := h.run_schemaByName? hw' hdistinct hkey hb
  have hsame : canonicalName? listed (some a) = canonicalName? listed (some b) :=
    canonicalName?_congr hdistinct (fun _ => Iff.rfl) hab
  refine ⟨?_, hloads, hloads', fun s? hs => ?_⟩
  · change Settled answer inSource listed a first.1 first.2.registry at hfirst
    change Settled answer inSource listed b second.1 second.2.registry at hsecond
    rcases hx : first.1 with e | _ | s <;> rw [hx] at hfirst
    · exact .inr ⟨e, .inl rfl, hfirst⟩
    · rcases hy : second.1 with e | _ | s' <;> rw [hy] at hsecond
      · exact .inr ⟨e, .inr rfl, hsecond⟩
      · exact .inl ⟨none, rfl, rfl⟩
      · obtain ⟨name, hname, -⟩ := hsecond
        cases (hsame.symm.trans hfirst).symm.trans hname
    · obtain ⟨name, hname, hcached⟩ := hfirst
      rcases hy : second.1 with e | _ | s' <;> rw [hy] at hsecond
      · exact .inr ⟨e, .inr rfl, hsecond⟩
      · cases (hsame.symm.trans hname).symm.trans hsecond
      · obtain ⟨name', hname', hcached'⟩ := hsecond
        obtain rfl := Option.some.inj ((hsame.symm.trans hname).symm.trans hname')
        -- What is cached stays so, and the second lookup answers with it.
        have hkept := (Lookup.upholds_run h.stays (Lookup.upholds_caching (cacheKey name) s
          (h.supplied.schemaByName? (some b))) ⟨⟨hw'.1, hcached⟩, hw'.2⟩).1.1.2
        obtain rfl := Option.some.inj (hkept.symm.trans hcached')
        exact .inl ⟨some s, rfl, rfl⟩
  · rw [List.eq_nil_iff_forall_not_mem]
    intro name hname
    obtain ⟨hcanonical, hnone⟩ := hloads' name hname
    change Settled answer inSource listed a first.1 first.2.registry at hfirst
    rw [hs] at hfirst
    cases s? with
    | none => cases (hsame.symm.trans hfirst).symm.trans hcanonical
    | some s =>
        obtain ⟨name', hname', hcached⟩ := hfirst
        obtain rfl := Option.some.inj ((hsame.symm.trans hname').symm.trans hcanonical)
        cases hnone.symm.trans hcached

end Served

/-- A source that `Provides` names and their schemas and that `Delivers` them also `LoadsListed`. -/
theorem Provides.loadsListed {answer : (call : SourceCall) → σ → Except Error call.Answer × σ}
    {inSource : σ → Prop} {listed : List SchemaName} {good : SchemaDecl → Prop}
    (h : Provides answer inSource listed good) (hdelivers : Delivers answer inSource listed) :
    LoadsListed answer inSource listed where
  stays := h.stays
  lists x names hx hanswer name := by rw [h.lists x names hx hanswer]
  loads := hdelivers.loads

/-- A caller looks up a schema, and the registry is refreshed before that is cached. -/
def refreshedLookup : List SharedEvent :=
  .enter (.schema (some "public")) :: List.replicate 6 (.advance 0) ++ [.refresh, .advance 0]

/-- Two spellings of a name give the schema that a caller has cached after a refresh, and nothing is
loaded for them. -/
theorem spellings_share_schema_refreshedLookup :
    let schemas : List SchemaDecl := [⟨some "PUBLIC", []⟩]
    let inSource := fun c : FixedCatalog => c.schemas = schemas ∧ c.phantoms = []
    let w := ((Shared.new none 0 (⟨schemas, [], none, 0, 0⟩ : FixedCatalog)).run FixedCatalog.answer
      refreshedLookup).site
    let first := (Lookup.schemaByName? (some "Public")).run (.ofSource FixedCatalog.answer) w
    let second := (Lookup.schemaByName? (some "public")).run (.ofSource FixedCatalog.answer) first.2
    LoadsListed FixedCatalog.answer inSource [some "PUBLIC"] ∧ DistinctNames [some "PUBLIC"] ∧
      w.registry.names = none ∧ w.registry.schema? "PUBLIC" = some ⟨0, some "PUBLIC", []⟩ ∧
      first.1 = .ok (some ⟨0, some "PUBLIC", []⟩) ∧ second.1 = first.1 ∧
      (Lookup.schemaByName? (some "Public")).loads FixedCatalog.answer w = [] ∧
      (Lookup.schemaByName? (some "public")).loads FixedCatalog.answer first.2 = [] := by
  intro schemas inSource w first second
  have hsource : LoadsListed FixedCatalog.answer inSource [some "PUBLIC"] :=
    (FixedCatalog.provides fun _ _ => trivial : Provides _ _ (schemas.map (·.name)) fun _ =>
      True).loadsListed
      (FixedCatalog.delivers schemas)
  have hdistinct : DistinctNames [some "PUBLIC"] := by
    intro m n hm hn _
    have hfirst := Option.some.inj (List.mem_singleton.mp hm)
    have hsecond := Option.some.inj (List.mem_singleton.mp hn)
    rw [hfirst, hsecond]
  have hspelled : Text.equalIgnoringCase "Public" "public" = true := by decide +kernel
  have hstart : inSource ⟨schemas, [], none, 0, 0⟩ := ⟨rfl, rfl⟩
  obtain ⟨hboth, hloads, -, hsecond⟩ :=
    spellings_share_schema hsource hdistinct (by decide) none 0 hstart
    refreshedLookup (by decide) (by decide) hspelled
  have hcached : w.registry.schema? "PUBLIC" = some ⟨0, some "PUBLIC", []⟩ := by decide +kernel
  have hfirst : first.1 = .ok (some ⟨0, some "PUBLIC", []⟩) := by
    have hsome : first.1.toOption = some (some ⟨0, some "PUBLIC", []⟩) := by decide +kernel
    cases hx : first.1 with
    | error e => cases (congrArg Except.toOption hx).symm.trans hsome
    | ok s? =>
        exact congrArg Except.ok (Option.some.inj ((congrArg Except.toOption hx).symm.trans hsome))
  refine ⟨hsource, hdistinct, by decide +kernel, hcached, hfirst, ?_, ?_, hsecond _ hfirst⟩
  · rcases hboth with ⟨s?, hfirst', hsecond'⟩ | ⟨e, -, x, -, hfails⟩
    · exact hsecond'.trans hfirst'.symm
    · cases hfails
  · rw [List.eq_nil_iff_forall_not_mem]
    intro name hname
    obtain ⟨hcanonical, hnone⟩ := hloads name hname
    have hname := (canonicalName?_eq_some_iff hdistinct).mp hcanonical
    obtain ⟨m, rfl, hm, -⟩ := hname
    obtain rfl := Option.some.inj (List.mem_singleton.mp hm)
    cases hnone.symm.trans hcached

end DataAccess.Catalog
