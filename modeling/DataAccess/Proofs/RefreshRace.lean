import DataAccess.Proofs.LookupInvariants

/-!
# Refresh race: what a refresh cannot take back

A caller stores what the source has answered in a request of its own, and the registry may be
refreshed in between. Then what is stored is older than the refresh. Nothing else is: this file says
exactly what a lookup that begins after a refresh may come to.

* **At once** (`Request.storesAtOnce`): a lookup stores nothing but what the source has just
  answered to it, so that a caller has at most one thing in hand (`Shared.InHand`).
* **Since a refresh** (`supplied_since`): what is stored after a refresh was answered by the source
  after it, or was in hand.
* **Coming back** (`returned_of_publish`, `returned_of_storeNames`): what is in hand may come back.
* **The race** (`refreshed_answers`, `refresh_not_final`).
-/

namespace DataAccess.Catalog

variable {σ α β : Type}

/-! ## At once -/

/-- Whether a step stores something: `.storeNames` or `.publish`. -/
def CacheStep.Stores : CacheStep → Prop
  | storeNames _ => True
  | publish _ _ => True
  | _ => False

/-- Whether a step stores an answer of the source: `sortNames names` for a listing, and the schema
that was loaded under the key of its name. -/
def SourceCall.StoredBy : (call : SourceCall) → call.Reply → CacheStep → Prop
  | listNames, names, step => step = .storeNames (sortNames names)
  | load name, some s, step => step = .publish (cacheKey name) s
  | _, _, _ => False

namespace Lookup

/-- Whether a lookup stores nothing but what the source has just answered to it. It begins with what
`may` be stored already. -/
def StoresAtOnce : Lookup α → (may : CacheStep → Prop) → Prop
  | .done _, _ => True
  | .fail _, _ => True
  | .cache step next, may =>
      (step.Stores → may step) ∧ ∀ reply, (next reply).StoresAtOnce fun _ => False
  | .ask call next, _ => ∀ reply, (next reply).StoresAtOnce (call.StoredBy reply)

variable {may may' : CacheStep → Prop} {l : Lookup α}

/-- A lookup may begin with more: `StoresAtOnce` is monotone in `may`. -/
theorem StoresAtOnce.mono (h : l.StoresAtOnce may) (himp : ∀ step, may step → may' step) :
    l.StoresAtOnce may' := by
  cases l with
  | done a => exact h
  | fail e => exact h
  | cache step next => exact ⟨fun hs => himp _ (h.1 hs), h.2⟩
  | ask call next => exact h

/-- A lookup may begin with the step that is its next request. -/
theorem StoresAtOnce.next (h : l.StoresAtOnce may) :
    l.StoresAtOnce fun step => ∃ next, l = .cache step next := by
  cases l with
  | done a => exact h
  | fail e => exact h
  | cache step next => exact ⟨fun _ => ⟨next, rfl⟩, h.2⟩
  | ask call next => exact h

/-- `l >>= f` begins with what `l` does, if `f a` begins with nothing. -/
theorem StoresAtOnce.bind {f : α → Lookup β} (h : l.StoresAtOnce may)
    (hf : ∀ a, (f a).StoresAtOnce fun _ => False) : (l >>= f).StoresAtOnce may := by
  show (l.bind f).StoresAtOnce may
  induction l generalizing may with
  | done a => exact (hf a).mono nofun
  | fail e => exact h
  | cache step next ih => exact ⟨h.1, fun reply => ih reply (h.2 reply)⟩
  | ask call next ih => exact fun reply => ih reply (h reply)

/-- A lookup that reads first stores nothing at once. -/
theorem storesAtOnce_read {step : CacheStep} (hstep : ¬ step.Stores) {f : step.Reply → Lookup β}
    (hf : ∀ a, (f a).StoresAtOnce fun _ => False) : (Lookup.step step >>= f).StoresAtOnce may :=
  ⟨fun hs => absurd hs hstep, hf⟩

/-- A lookup that calls the source first stores nothing at once, and after the answer what is
`StoredBy` it. -/
theorem storesAtOnce_call {call : SourceCall} {f : call.Reply → Lookup β}
    (hf : ∀ reply, (f reply).StoresAtOnce (call.StoredBy reply)) :
    (Lookup.call call >>= f).StoresAtOnce may :=
  hf

/-- A step that may be taken. -/
theorem storesAtOnce_step {step : CacheStep} (hstep : may step) :
    (Lookup.step step).StoresAtOnce may :=
  ⟨fun _ => hstep, fun _ => trivial⟩

/-- A search through a list. -/
theorem storesAtOnce_findSomeM? {f : β → Lookup (Option α)}
    (h : ∀ b, (f b).StoresAtOnce fun _ => False) (bs : List β) :
    (bs.findSomeM? f).StoresAtOnce fun _ => False := by
  induction bs with
  | nil => trivial
  | cons b rest ih =>
      refine (h b).bind fun a? => ?_
      cases a? with
      | some a => trivial
      | none => exact ih

/-- A lookup for each element of a list. -/
theorem storesAtOnce_mapM {f : β → Lookup α} (h : ∀ b, (f b).StoresAtOnce fun _ => False)
    (bs : List β) :
    (bs.mapM f).StoresAtOnce fun _ => False := by
  induction bs with
  | nil => trivial
  | cons b rest ih =>
      rw [List.mapM_cons]
      exact (h b).bind fun a => ih.bind fun as => trivial

/-- The names of the schemas. -/
theorem storesAtOnce_schemaNames : schemaNames.StoresAtOnce fun _ => False := by
  refine storesAtOnce_read id fun names? => ?_
  cases names? with
  | some names => trivial
  | none => exact storesAtOnce_call fun names => storesAtOnce_step rfl

/-- `listedSchema` stores nothing at once: it reads first. -/
theorem storesAtOnce_listedSchema (name : SchemaName) :
    (listedSchema name).StoresAtOnce fun _ => False := by
  refine storesAtOnce_read id fun s? => ?_
  cases s? with
  | some s => trivial
  | none =>
      refine storesAtOnce_call fun s? => ?_
      cases s? with
      | none => trivial
      | some s => exact storesAtOnce_step rfl

/-- The schema of a name. -/
theorem storesAtOnce_schemaByName? (name : SchemaName) :
    (schemaByName? name).StoresAtOnce fun _ => False := by
  refine storesAtOnce_read id fun s? => ?_
  cases s? with
  | some s => trivial
  | none =>
      refine storesAtOnce_schemaNames.bind fun names => ?_
      split
      · exact (storesAtOnce_listedSchema _).bind fun s => trivial
      · trivial

/-- The schema of a name that may not be set. -/
theorem storesAtOnce_schemaIfSet? (name? : Option String) :
    (schemaIfSet? name?).StoresAtOnce fun _ => False := by
  cases name? with
  | none => trivial
  | some name => exact storesAtOnce_schemaByName? (some name)

/-- The schema with the most tables. -/
theorem storesAtOnce_fullestSchema? (best : Option Schema) (names : List SchemaName) :
    (fullestSchema? best names).StoresAtOnce fun _ => False := by
  induction names generalizing best with
  | nil => trivial
  | cons name rest ih =>
      unfold fullestSchema?
      split
      · exact ih best
      · refine (storesAtOnce_schemaByName? name).bind fun s? => ?_
        cases s? with
        | none => exact ih best
        | some s =>
            dsimp only
            split
            · exact ih (some s)
            · exact ih best

/-- The default schema. -/
theorem storesAtOnce_defaultSchema? : defaultSchema?.StoresAtOnce fun _ => False := by
  refine storesAtOnce_read id fun preferred =>
    (storesAtOnce_schemaIfSet? preferred).bind fun s? => ?_
  cases s? with
  | some s => trivial
  | none =>
      refine storesAtOnce_call fun name? =>
        ((storesAtOnce_schemaIfSet? name?).bind fun s? => ?_).mono nofun
      cases s? with
      | some s => trivial
      | none =>
          refine storesAtOnce_schemaNames.bind fun names => ?_
          split
          · exact storesAtOnce_schemaByName? _
          · exact storesAtOnce_fullestSchema? none _

/-- `resolve?` stores nothing at once: it reads first. -/
theorem storesAtOnce_resolve? (find : Schema → List Char → Option α) (label : String) :
    (resolve? find label).StoresAtOnce fun _ => False := by
  have hpath : ∀ name path, (inSchema? find name path).StoresAtOnce fun _ => False :=
    fun name path => (storesAtOnce_schemaByName? name).bind fun s? => trivial
  have hafter : ∀ case label name,
      (afterSchema? find case label name).StoresAtOnce fun _ => False := by
    intro case label name
    unfold afterSchema?
    split
    · exact hpath _ _
    · trivial
  have hlisted : ∀ label name, (inListed? find label name).StoresAtOnce fun _ => False := by
    intro label name
    cases name with
    | none => exact hpath none label
    | some name => exact hafter .sensitive label name
  unfold resolve?
  dsimp only
  split
  · trivial
  · refine storesAtOnce_schemaNames.bind fun names => ?_
    refine (storesAtOnce_findSomeM? (hlisted _) names).bind fun a? => ?_
    cases a? with
    | some a => trivial
    | none =>
        refine (storesAtOnce_findSomeM? (hafter .insensitive _) _).bind fun a? => ?_
        cases a? with
        | some a => trivial
        | none => exact storesAtOnce_defaultSchema?.bind fun s? => trivial

end Lookup

/-- **At once**: each `q.lookup` stores nothing but what the source has just answered to it, and
begins with nothing to store. -/
theorem Request.storesAtOnce (q : Request) : q.lookup.StoresAtOnce fun _ => False := by
  cases q with
  | names => exact Lookup.storesAtOnce_schemaNames
  | schema name => exact Lookup.storesAtOnce_schemaByName? name
  | schemas =>
      exact Lookup.storesAtOnce_schemaNames.bind fun names =>
        Lookup.storesAtOnce_mapM Lookup.storesAtOnce_listedSchema names
  | default => exact Lookup.storesAtOnce_defaultSchema?
  | table label => exact Lookup.storesAtOnce_resolve? Schema.tableByPath? label
  | column label => exact Lookup.storesAtOnce_resolve? Schema.columnByPath? label

/-! ## What callers have in hand -/

namespace Shared

variable {answer : (call : SourceCall) → σ → Except Error call.Answer × σ} {s : Shared σ}

/-- Whether a caller has the step in hand: it `Stores` something, and is the next request of that
caller. -/
def InHand (s : Shared σ) (step : CacheStep) : Prop :=
  step.Stores ∧ ∃ k ∈ s.callers, ∃ next, k.rest = .cache step next

/-- Whether all callers store at once (`StoresAtOnce`) what the source has answered, and the schemas
among it have been built: their identities are below `nextId`. -/
def Prompt (s : Shared σ) : Prop :=
  ∀ k ∈ s.callers, ∃ may, k.rest.StoresAtOnce may ∧
    ∀ key schema, may (.publish key schema) → schema.id < s.site.registry.nextId

/-- Steps on the cache build nothing: `nextId` stays. -/
theorem nextId_perform (r : Registry) (step : CacheStep) :
    (r.perform step).2.nextId = r.nextId := by
  cases step with
  | readPreferred => rfl
  | readNames => rfl
  | storeNames names =>
      rcases hnames : r.names with _ | present
      · simp only [Registry.perform, hnames]
      · simp only [Registry.perform, hnames]
  | readSchema key => rfl
  | publish key schema =>
      rcases hcached : r.schema? key with _ | present
      · rw [Registry.perform_publish_of_none hcached]
      · rw [Registry.perform_publish_of_some hcached]

variable (answer) in
/-- What a caller may store after its next request. Its schemas are below `nextId` then, which does
not decrease. -/
theorem storesAtOnce_advance {l : Lookup α} {may : CacheStep → Prop} {w : Site σ}
    (h : l.StoresAtOnce may)
    (hbuilt : ∀ key schema, may (.publish key schema) → schema.id < w.registry.nextId) :
    w.registry.nextId ≤ (l.advance answer w).2.registry.nextId ∧
      ∃ may', (l.advance answer w).1.StoresAtOnce may' ∧
        ∀ key schema, may' (.publish key schema) →
          schema.id < (l.advance answer w).2.registry.nextId := by
  cases l with
  | done a => exact ⟨Nat.le_refl _, may, h, hbuilt⟩
  | fail e => exact ⟨Nat.le_refl _, may, h, hbuilt⟩
  | cache step next =>
      exact ⟨Nat.le_of_eq (nextId_perform _ step).symm, _, h.2 _, fun _ _ => False.elim⟩
  | ask call next =>
      rcases hanswer : answer call w.source with ⟨e | a, x⟩
      · simp only [Lookup.advance, hanswer]
        exact ⟨Nat.le_refl _, fun _ => False, trivial, fun _ _ => False.elim⟩
      · simp only [Lookup.advance, hanswer]
        refine ⟨?_, _, h _, ?_⟩
        · cases call with
          | listNames => exact Nat.le_refl _
          | defaultName => exact Nat.le_refl _
          | load name =>
              cases a with
              | none => exact Nat.le_refl _
              | some d => exact Nat.le_succ _
        · intro key schema hstored
          cases call with
          | listNames => cases hstored
          | defaultName => exact hstored.elim
          | load name =>
              cases a with
              | none => exact hstored.elim
              | some d =>
                  obtain ⟨-, rfl⟩ := CacheStep.publish.inj hstored
                  exact Nat.lt_succ_self _

/-- `Prompt` holds of a new registry: nobody has entered yet. -/
theorem prompt_new (preferred : Option String) (firstId : SchemaId) (source : σ) :
    (new preferred firstId source).Prompt :=
  fun _ hk => absurd hk List.not_mem_nil

/-- One event keeps `Prompt`. -/
theorem Prompt.step (h : s.Prompt) (e : SharedEvent) : (s.step answer e).Prompt := by
  cases e with
  | enter q =>
      intro k hk
      rcases List.mem_append.mp hk with hold | hnew
      · exact h k hold
      · obtain rfl := List.mem_singleton.mp hnew
        exact ⟨_, q.storesAtOnce, fun _ _ => False.elim⟩
  | advance i =>
      rcases hi : s.callers[i]? with _ | k
      · simp only [Shared.step, hi]
        exact h
      · simp only [Shared.step, hi]
        obtain ⟨may, hrest, hbuilt⟩ := h k (List.mem_of_getElem? hi)
        obtain ⟨hle, hafter⟩ := storesAtOnce_advance answer hrest hbuilt
        intro k' hk'
        rcases List.mem_or_eq_of_mem_set hk' with hother | rfl
        · obtain ⟨may', hrest', hbuilt'⟩ := h k' hother
          exact ⟨may', hrest', fun key schema hmay =>
            Nat.lt_of_lt_of_le (hbuilt' key schema hmay) hle⟩
        · exact hafter
  | refresh => exact h

/-- All events keep `Prompt`. -/
theorem Prompt.run (h : s.Prompt) (es : List SharedEvent) : (s.run answer es).Prompt := by
  induction es generalizing s with
  | nil => exact h
  | cons e es ih => exact ih (h.step e)

/-- A schema in hand has been built: `schema.id < nextId`. -/
theorem id_lt_of_inHand (h : s.Prompt) {key : CacheKey} {schema : Schema}
    (hhand : s.InHand (.publish key schema)) : schema.id < s.site.registry.nextId := by
  obtain ⟨hstores, k, hk, next, hrest⟩ := hhand
  obtain ⟨may, hmay, hbuilt⟩ := h k hk
  rw [hrest] at hmay
  exact hbuilt key schema (hmay.1 hstores)

/-! ## Since a refresh -/

variable (answer) (old : Shared σ) (es : List SharedEvent)

/-- What is there after a refresh and the events `es`. -/
def refreshed : Shared σ :=
  (old.step answer .refresh).run answer es

/-- Whether the source lists some names, in order and each once, in one of its states since a
refresh. -/
def ListedSince (names : List SchemaName) : Prop :=
  ∃ es₁ es₂ listed, es = es₁ ++ es₂ ∧
    (answer .listNames (old.refreshed answer es₁).site.source).1 = .ok listed ∧
      names = sortNames listed

/-- What may be in a registry after a refresh: what has been answered since (`ListedSince`, or an
identity from `nextId` on), and what was in hand (`InHand`). -/
def since : Stock σ where
  answer
  inSource x := ∃ es₁ es₂, es = es₁ ++ es₂ ∧ x = (old.refreshed answer es₁).site.source
  mayFail := True
  lists names := old.ListedSince answer es names ∨ old.InHand (.storeNames names)
  files _ schema := old.site.registry.nextId ≤ schema.id ∨ ∃ key, old.InHand (.publish key schema)
  base := old.site.registry.nextId

/-- The source delivers what `since` allows. -/
theorem supplied_since : (since answer old es).Supplied where
  lists := by
    rintro x names ⟨es₁, es₂, hes, rfl⟩ hanswer
    exact .inl ⟨es₁, es₂, names, hes, hanswer, rfl⟩
  loads _ _ _ _ _ _ _ hbase := .inl hbase
  unlisted _ _ _ _ := trivial
  unloaded _ _ _ _ _ := trivial

variable {answer old es}

/-- A lookup that `StoresAtOnce` upholds the regime of `since`, if that allows what it may begin
with. -/
theorem upholds_of_storesAtOnce {l : Lookup α} {may : CacheStep → Prop} (h : l.StoresAtOnce may)
    (hnames : ∀ names, may (.storeNames names) → (since answer old es).lists names)
    (hschemas : ∀ key schema, may (.publish key schema) → (since answer old es).files key schema) :
    l.Upholds (since answer old es).regime fun _ => True := by
  induction l generalizing may with
  | done a => trivial
  | fail e => trivial
  | cache step next ih =>
      intro r hr
      refine ⟨?_, ih _ (h.2 _) (fun _ => False.elim) fun _ _ => False.elim⟩
      cases step with
      | readPreferred => exact hr
      | readNames => exact hr
      | storeNames names => exact (Stock.Holds.storeNames hr (hnames names (h.1 trivial))).1
      | readSchema key => exact hr
      | publish key schema => exact (Stock.Holds.publish hr (hschemas key schema (h.1 trivial))).1
  | ask call next ih =>
      intro r x hr hx
      rcases hanswer : (answer call x).1 with e | a
      · simp only [Stock.regime, since, hanswer]
      · simp only [Stock.regime, since, hanswer]
        refine ⟨Stock.Holds.receive hr call a, ih _ (h _) ?_ ?_⟩
        · intro names hstored
          cases call with
          | listNames =>
              obtain rfl := CacheStep.storeNames.inj hstored
              exact (supplied_since answer old es).lists x a hx hanswer
          | defaultName => exact hstored.elim
          | load name =>
              cases a with
              | none => exact hstored.elim
              | some d => cases hstored
        · intro key schema hstored
          cases call with
          | listNames => cases hstored
          | defaultName => exact hstored.elim
          | load name =>
              cases a with
              | none => exact hstored.elim
              | some d =>
                  obtain ⟨-, rfl⟩ := CacheStep.publish.inj hstored
                  exact .inl (Stock.Holds.nextId hr)

variable (es) in
/-- After a refresh, callers uphold that there is nothing but `since` in the registry, and those who
have entered after it get nothing else. -/
theorem under_since (hprompt : old.Prompt) :
    (old.refreshed answer es).Under (since answer old es).regime fun i q a =>
      old.callers.length ≤ i → (since answer old es).Gives q a := by
  refine under_run (fun _ hr => Stock.Holds.refresh hr) ?_ ?_ ?_
  · intro i q
    exact Lookup.upholds_mono ((supplied_since answer old es).lookup (fun _ _ _ _ => trivial) q)
      fun a ha _ => ha
  · rintro es₁ es₂ rfl
    exact ⟨es₁, es₂, rfl, rfl⟩
  · refine ⟨⟨nofun, nofun, Nat.le_refl _⟩, ?_⟩
    intro i k hk
    have hi : i < old.callers.length := (List.getElem?_eq_some_iff.mp hk).1
    have hmem : k ∈ old.callers := List.mem_of_getElem? hk
    obtain ⟨may, hrest, -⟩ := hprompt k hmem
    have hheld : ∀ step, (∃ next, k.rest = .cache step next) → step.Stores → old.InHand step :=
      fun step hnext hstores => ⟨hstores, k, hmem, hnext⟩
    refine Lookup.upholds_mono (upholds_of_storesAtOnce hrest.next ?_ ?_) fun a _ hbeyond => ?_
    · exact fun names hnext => .inr (hheld _ hnext trivial)
    · exact fun key schema hnext => .inr ⟨key, hheld _ hnext trivial⟩
    · exact absurd hi (Nat.not_lt.mpr hbeyond)

/-! ## Coming back -/

variable (answer) in
/-- A caller who has a step in hand may take it right after the refresh. -/
theorem exists_advance_of_inHand {step : CacheStep} (h : old.InHand step) :
    ∃ i, ((old.step answer .refresh).step answer (.advance i)).site.registry =
        (old.site.registry.refresh.perform step).2 ∧
      ((old.step answer .refresh).step answer (.advance i)).callers.length =
        old.callers.length := by
  obtain ⟨-, k, hk, next, hrest⟩ := h
  obtain ⟨i, hi⟩ := List.getElem?_of_mem hk
  refine ⟨i, ?_, ?_⟩
  · simp only [Shared.step, hi, hrest, Lookup.advance]
  · simp only [Shared.step, hi, List.length_set]

/-- **Coming back**: a schema in hand may be the answer to someone who enters after the refresh and
asks for the name `key`. -/
theorem returned_of_publish {key : CacheKey} {schema : Schema}
    (h : old.InHand (.publish key schema)) :
    ∃ es i, old.callers.length ≤ i ∧
      (old.refreshed answer es).Returned i (.schema (some key)) (some schema) := by
  obtain ⟨j, hregistry, hlength⟩ := exists_advance_of_inHand answer h
  have hcached : ((old.step answer .refresh).step answer (.advance j)).site.registry.schema? key =
      some schema := by
    rw [hregistry, Registry.schema?_perform_publish, Registry.perform_publish_of_none rfl]
  obtain ⟨es, hes, -⟩ :=
    exists_returned (q := .schema (some key)) (Lookup.run_schemaByName?_of_some answer hcached)
  exact ⟨.advance j :: es, _, Nat.le_of_eq hlength.symm, hes⟩

/-- **Coming back**: a list of names that a caller has `InHand` may be the answer to someone who
enters after the refresh. -/
theorem returned_of_storeNames {names : List SchemaName} (h : old.InHand (.storeNames names)) :
    ∃ es i, old.callers.length ≤ i ∧ (old.refreshed answer es).Returned i .names names := by
  obtain ⟨j, hregistry, hlength⟩ := exists_advance_of_inHand answer h
  have hcached : ((old.step answer .refresh).step answer (.advance j)).site.registry.names =
      some names := by
    rw [hregistry]
    rfl
  obtain ⟨es, hes, -⟩ :=
    exists_returned (q := .names) (Lookup.run_schemaNames_of_some answer hcached)
  exact ⟨.advance j :: es, _, Nat.le_of_eq hlength.symm, hes⟩

end Shared

/-! ## The race -/

/-- Whether an answer is made of lists of names with `names` and schemas with `schema`. -/
def Request.MadeOf (names : List SchemaName → Prop) (schema : Schema → Prop) :
    (q : Request) → q.Answer → Prop
  | .names, listed => names listed
  | .schema _, s? => ∀ s, s? = some s → schema s
  | .schemas, ss => ∀ s ∈ ss, schema s
  | .default, s? => ∀ s, s? = some s → schema s
  | .table _, t? => ∀ t, t? = some t → ∃ s path, schema s ∧ s.tableByPath? path = some t
  | .column _, c? => ∀ c, c? = some c → ∃ s path, schema s ∧ s.columnByPath? path = some c

/-- An answer is also made of what more holds of: `MadeOf` is monotone. -/
theorem Request.MadeOf.imp {names names' : List SchemaName → Prop} {schema schema' : Schema → Prop}
    {q : Request} {a : q.Answer} (h : q.MadeOf names schema a)
    (hnames : ∀ listed, names listed → names' listed) (hschema : ∀ s, schema s → schema' s) :
    q.MadeOf names' schema' a := by
  cases q with
  | names => exact hnames a h
  | schema name => exact fun s hs => hschema s (h s hs)
  | schemas => exact fun s hs => hschema s (h s hs)
  | default => exact fun s hs => hschema s (h s hs)
  | table label =>
      intro t ht
      obtain ⟨s, path, hs, hfound⟩ := h t ht
      exact ⟨s, path, hschema s hs, hfound⟩
  | column label =>
      intro c hc
      obtain ⟨s, path, hs, hfound⟩ := h c hc
      exact ⟨s, path, hschema s hs, hfound⟩

/-- What `k` gives is made of lists in `k.lists` and schemas that `k.Offers`. -/
theorem Stock.Gives.madeOf {k : Stock σ} {q : Request} {a : q.Answer} (h : k.Gives q a) :
    q.MadeOf k.lists k.Offers a := by
  cases q with
  | names => exact h
  | schema name => exact fun s hs => offers_of_answers (hs ▸ h)
  | schemas =>
      obtain ⟨names, -, hall⟩ := h
      show ∀ s ∈ a, k.Offers s
      induction hall with
      | nil => exact nofun
      | cons hs _ ih => exact List.forall_mem_cons.mpr ⟨⟨_, hs⟩, ih⟩
  | default => exact h
  | table label => exact h
  | column label => exact h

/-- **The race**: let the registry be refreshed in a state `old` that has come of any events. What a
lookup comes to that begins after it is `MadeOf` lists that the source has answered since
(`ListedSince`) and schemas built since, but for what callers had in hand then (`InHand`). Each list
of names and each schema that someone had in hand may come back as an answer, and such a schema is
older than the refresh. -/
theorem refreshed_answers (answer : (call : SourceCall) → σ → Except Error call.Answer × σ)
    (preferred : Option String) (firstId : SchemaId) (source : σ) (before : List SharedEvent) :
    let old := (Shared.new preferred firstId source).run answer before
    (∀ es i q a, old.callers.length ≤ i → (old.refreshed answer es).Returned i q a →
        q.MadeOf (fun names => old.ListedSince answer es names ∨ old.InHand (.storeNames names))
          (fun schema => old.site.registry.nextId ≤ schema.id ∨
            ∃ key, old.InHand (.publish key schema)) a) ∧
      (∀ names, old.InHand (.storeNames names) →
        ∃ es i, old.callers.length ≤ i ∧ (old.refreshed answer es).Returned i .names names) ∧
      ∀ key schema, old.InHand (.publish key schema) → schema.id < old.site.registry.nextId ∧
        ∃ es i, old.callers.length ≤ i ∧
          (old.refreshed answer es).Returned i (.schema (some key)) (some schema) := by
  intro old
  have hprompt : old.Prompt := (Shared.prompt_new preferred firstId source).run before
  refine ⟨?_, fun _ => Shared.returned_of_storeNames, ?_⟩
  · intro es i q a hi ha
    have hgiven := (Shared.under_since es hprompt).post_of_returned ha hi
    exact (Stock.Gives.madeOf hgiven).imp (fun _ hlisted => hlisted) fun schema ⟨_, hschema⟩ =>
      hschema
  · intro key schema hhand
    exact ⟨Shared.id_lt_of_inHand hprompt hhand, Shared.returned_of_publish hhand⟩

/-- One caller looks for a schema and has it in hand when the registry is refreshed. -/
def caughtCaller : List SharedEvent :=
  .enter (.schema (some "A")) :: List.replicate 6 (.advance 0)

/-- **The race**: a schema with an identity from before the refresh may be the answer to someone who
enters after it. It was published in between, by `caughtCaller`. -/
theorem refresh_not_final :
    ¬ ∀ (before es : List SharedEvent) (i : Nat) (name : SchemaName) (schema : Schema),
      let catalog : FixedCatalog := { schemas := [⟨some "A", []⟩] }
      let old := (Shared.new none 0 catalog).run FixedCatalog.answer before
      old.callers.length ≤ i → (old.refreshed FixedCatalog.answer es).Returned i (.schema name)
        (some schema) →
        old.site.registry.nextId ≤ schema.id := by
  intro hfinal
  let es : List SharedEvent := [.advance 0, .enter (.schema (some "A")), .advance 1]
  have hreturned := hfinal caughtCaller es 1 (some "A") ⟨0, some "A", []⟩ (by decide +kernel)
    (Shared.returned_of_schema? (by decide +kernel) (by decide +kernel))
  exact absurd hreturned (by decide +kernel)

end DataAccess.Catalog
