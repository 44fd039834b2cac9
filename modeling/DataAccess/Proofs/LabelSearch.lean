import DataAccess.Proofs.LabelParts
import DataAccess.Proofs.NamedSchemas

/-!
# Label search: which schemas a label is read in

A label is read in the schemas of the listed names that it begins with, one after another. What that
comes to is said here in terms of the schemas that are cached in the end.

* **One name** (`Registry.Reads`, `reads_of_run`): what a label gives in the schema of a name.
* **Names, one after another** (`FirstHit`, `firstHit_of_run`): the first name that gives a result
  decides.
* **Both rules for case** (`Lookup.searchListed`, `searched_of_run`): names are tried under the
  exact rule, and then under the other one. Only if both give nothing the default schema is asked
  for (`resolve?_eq`).
* **Before and after** (`Stock.Supplied.at_run`, `Stock.Supplied.at_resolve?`): what is in the
  registry when a label is looked up.
-/

namespace DataAccess.Catalog

variable {σ α β : Type} {answer : (call : SourceCall) → σ → Except Error call.Answer × σ}

/-! ## One name -/

/-- What follows the schema name at the front of `label`, by `Label.stripName?`. The nameless schema
takes the whole label. -/
def Label.pathAfter? (case : Label.Case) (label : List Char) : SchemaName → Option (List Char)
  | none => some label
  | some name => Label.stripName? case name label

/-- Whether the label gives `a?` in the schema of `name`, as cached in `r`: `a? = find s path` for
the schema `s` under `cacheKey name` and the rest `path` of the label after the name, or `a? = none`
if the label does not begin with the name (`Label.pathAfter?`). -/
def Registry.Reads (r : Registry) (find : Schema → List Char → Option α) (case : Label.Case)
    (label : List Char) (name : SchemaName) (a? : Option α) : Prop :=
  match Label.pathAfter? case label name with
  | none => a? = none
  | some path => ∃ s, r.schema? (cacheKey name) = some s ∧ a? = find s path

/-- Whether the registry `r'` contains what `r` contains: the list of names, and every schema under
its key. -/
structure Registry.Within (r r' : Registry) : Prop where
  /-- The list of names. -/
  names : ∀ names, r.names = some names → r'.names = some names
  /-- The schemas. -/
  schemas : ∀ key s, r.schema? key = some s → r'.schema? key = some s

namespace Lookup

variable {name : SchemaName} {s : Schema} {w w' : Site σ} {names : List SchemaName}

/-- No `CacheStep` takes anything away: `r.Within (r.perform step).2`. -/
theorem within_perform (r : Registry) (step : CacheStep) : r.Within (r.perform step).2 := by
  refine ⟨fun names h => ?_, fun key s => Registry.schema?_perform_of_some step⟩
  cases step with
  | readPreferred => exact h
  | readNames => exact h
  | storeNames others => exact (r.grows_storeNames others).names_of names h
  | readSchema key => exact h
  | publish key s =>
      rcases hpresent : r.schema? key with _ | present
      · rw [Registry.perform_publish_of_none hpresent]
        exact h
      · rw [Registry.perform_publish_of_some hpresent]
        exact h

/-- Neither does a whole lookup, also if it fails. -/
theorem within_run (answer : (call : SourceCall) → σ → Except Error call.Answer × σ) (l : Lookup α)
    (w : Site σ) :
    w.registry.Within (l.run (.ofSource answer) w).2.registry := by
  have htrans : ∀ {r r' r'' : Registry}, r.Within r' → r'.Within r'' → r.Within r'' := fun h h' =>
    ⟨fun names hnames => h'.names names (h.names names hnames),
      fun key s hs => h'.schemas key s (h.schemas key s hs)⟩
  have hrefl : ∀ r : Registry, r.Within r := fun r => ⟨fun _ => id, fun _ _ => id⟩
  induction l generalizing w with
  | done a => exact hrefl w.registry
  | fail e => exact hrefl w.registry
  | cache step next ih =>
      rw [run]
      exact htrans (within_perform w.registry step) (ih _ ⟨_, w.source⟩)
  | ask call next ih =>
      unfold run Answering.ofSource
      rcases hanswer : answer call w.source with ⟨e | a, x⟩
      · exact hrefl w.registry
      · have hgrows := w.registry.grows_receive call a
        exact htrans ⟨hgrows.names_of, hgrows.schema_of⟩ (ih _ ⟨_, x⟩)

/-- What was in the registry of `w` is in that of `w'` when a lookup has led from `w` to `w'` with a
result. -/
theorem within_of_run {l : Lookup α} {a : α} (hrun : l.run (.ofSource answer) w = (.ok a, w')) :
    w.registry.Within w'.registry := by
  have hwithin := within_run answer l w
  rw [hrun] at hwithin
  exact hwithin

/-- The names that `schemaNames` answers are cached then. -/
theorem names_of_schemaNames (h : schemaNames.run (.ofSource answer) w = (.ok names, w')) :
    w'.registry.names = some names := by
  rcases hcached : w.registry.names with _ | present
  · unfold schemaNames at h
    rw [run_bind_of_ok (run_step answer _ w)] at h
    simp only [Registry.perform, hcached] at h
    obtain ⟨listed, w₁, -, hstore⟩ := exists_of_run_bind h
    cases hstore
    exact Registry.names_perform_storeNames _ _
  · cases (run_schemaNames_of_some answer hcached).symm.trans h
    exact hcached

/-- The schema that `listedSchema name` answers is cached under `cacheKey name` then. -/
theorem cached_of_listedSchema (h : (listedSchema name).run (.ofSource answer) w = (.ok s, w')) :
    w'.registry.schema? (cacheKey name) = some s := by
  unfold listedSchema at h
  rw [run_bind_of_ok (run_step answer _ w)] at h
  rcases hcached : w.registry.schema? (cacheKey name) with _ | present
  · simp only [Registry.perform, hcached] at h
    obtain ⟨loaded?, w₁, -, hpublish⟩ := exists_of_run_bind h
    cases loaded? with
    | none => cases hpublish
    | some loaded =>
        cases hpublish
        exact Registry.schema?_perform_publish _ _ _
  · simp only [Registry.perform, hcached] at h
    cases h
    exact hcached

/-- If `name` is among the cached names, `schemaByName? name` answers with the schema that is cached
under `cacheKey name` then. -/
theorem cached_of_schemaByName? (hnames : w.registry.names = some names) (hname : name ∈ names)
    {s? : Option Schema} (h : (schemaByName? name).run (.ofSource answer) w = (.ok s?, w')) :
    ∃ s, s? = some s ∧ w'.registry.schema? (cacheKey name) = some s := by
  rcases hcached : w.registry.schema? (cacheKey name) with _ | present
  · unfold schemaByName? at h
    rw [run_bind_of_ok (run_step answer _ w)] at h
    simp only [Registry.perform, hcached] at h
    rw [run_bind_of_ok (w := w) (run_schemaNames_of_some answer hnames)] at h
    rw [Registry.canonicalName?_of_mem hname] at h
    obtain ⟨s, w₁, hlisted, hresult⟩ := exists_of_run_bind h
    cases hresult
    exact ⟨s, rfl, cached_of_listedSchema hlisted⟩
  · cases (run_schemaByName?_of_some answer hcached).symm.trans h
    exact ⟨present, rfl, hcached⟩

/-- What `schemaByName?` finds is cached in the end, under the key of this or of another name. -/
theorem exists_cached_of_schemaByName?
    (h : (schemaByName? name).run (.ofSource answer) w = (.ok (some s), w')) :
    ∃ key, w'.registry.schema? key = some s := by
  rcases hcached : w.registry.schema? (cacheKey name) with _ | present
  · unfold schemaByName? at h
    rw [run_bind_of_ok (run_step answer _ w)] at h
    simp only [Registry.perform, hcached] at h
    obtain ⟨names, w₁, -, hrest⟩ := exists_of_run_bind h
    rcases hcanonical : canonicalName? names name with _ | canonical
    · simp only [hcanonical] at hrest
      cases hrest
    · simp only [hcanonical] at hrest
      obtain ⟨s', w₂, hlisted, hresult⟩ := exists_of_run_bind hrest
      cases hresult
      exact ⟨cacheKey canonical, cached_of_listedSchema hlisted⟩
  · cases (run_schemaByName?_of_some answer hcached).symm.trans h
    exact ⟨cacheKey name, hcached⟩

/-- So is what `schemaIfSet?` finds. -/
theorem exists_cached_of_schemaIfSet? {name? : Option String}
    (h : (schemaIfSet? name?).run (.ofSource answer) w = (.ok (some s), w')) :
    ∃ key, w'.registry.schema? key = some s := by
  cases name? with
  | none => cases h
  | some name => exact exists_cached_of_schemaByName? h

/-- So is what `fullestSchema?` finds, if the schema `best` with which it begins is. -/
theorem exists_cached_of_fullestSchema? {best : Option Schema}
    (hbest : ∀ s, best = some s → ∃ key, w.registry.schema? key = some s)
    (h : (fullestSchema? best names).run (.ofSource answer) w = (.ok (some s), w')) :
    ∃ key, w'.registry.schema? key = some s := by
  induction names generalizing best w with
  | nil =>
      cases h
      exact hbest s rfl
  | cons name rest ih =>
      unfold fullestSchema? at h
      split at h
      · exact ih hbest h
      · obtain ⟨found?, w₁, hfound, hrest⟩ := exists_of_run_bind h
        have hbest' : ∀ s, best = some s → ∃ key, w₁.registry.schema? key = some s := by
          intro s hs
          obtain ⟨key, hkey⟩ := hbest s hs
          exact ⟨key, (within_of_run hfound).schemas key s hkey⟩
        cases found? with
        | none => exact ih hbest' hrest
        | some found =>
            dsimp only at hrest
            split at hrest
            · refine ih ?_ hrest
              rintro _ ⟨rfl⟩
              exact exists_cached_of_schemaByName? hfound
            · exact ih hbest' hrest

/-- So is what `defaultSchema?` finds. -/
theorem exists_cached_of_defaultSchema?
    (h : defaultSchema?.run (.ofSource answer) w = (.ok (some s), w')) :
    ∃ key, w'.registry.schema? key = some s := by
  obtain ⟨preferred?, w₁, -, hrest⟩ := exists_of_run_bind h
  obtain ⟨first?, w₂, hfirst, hrest⟩ := exists_of_run_bind hrest
  cases first? with
  | some first =>
      cases hrest
      exact exists_cached_of_schemaIfSet? hfirst
  | none =>
      obtain ⟨own?, w₃, -, hrest⟩ := exists_of_run_bind hrest
      obtain ⟨second?, w₄, hsecond, hrest⟩ := exists_of_run_bind hrest
      cases second? with
      | some second =>
          cases hrest
          exact exists_cached_of_schemaIfSet? hsecond
      | none =>
          obtain ⟨names, w₅, -, hrest⟩ := exists_of_run_bind hrest
          split at hrest
          · exact exists_cached_of_schemaByName? hrest
          · refine exists_cached_of_fullestSchema? ?_ hrest
            exact nofun

end Lookup

/-! ## Names, one after another -/

/-- Whether `a?` is the result of the first of the elements `bs` that has one, where `P b a?` says
that `b` has the result `a?`. It is `none` if no element has a result. -/
inductive FirstHit (P : β → Option α → Prop) : List β → Option α → Prop where
  /-- There are no elements left. -/
  | nil : FirstHit P [] none
  /-- The first element has a result. -/
  | hit {b : β} {bs : List β} {a : α} (h : P b (some a)) : FirstHit P (b :: bs) (some a)
  /-- The first element has none. -/
  | miss {b : β} {bs : List β} {a? : Option α} (h : P b none) (hrest : FirstHit P bs a?) :
    FirstHit P (b :: bs) a?

namespace FirstHit

variable {P Q : β → Option α → Prop} {bs : List β} {a? : Option α} {a : α}

/-- Elements may have their results for other reasons: `FirstHit` is monotone in `P`. -/
theorem mono (h : FirstHit P bs a?) (himp : ∀ b a?, P b a? → Q b a?) : FirstHit Q bs a? := by
  induction h with
  | nil => exact .nil
  | hit h => exact .hit (himp _ _ h)
  | miss h _ ih => exact .miss (himp _ _ h) ih

/-- A result of `FirstHit` is that of some element. -/
theorem exists_of_some (h : FirstHit P bs (some a)) : ∃ b ∈ bs, P b (some a) := by
  induction bs with
  | nil => cases h
  | cons b bs ih =>
      cases h with
      | hit h => exact ⟨b, List.mem_cons_self, h⟩
      | miss _ hrest =>
          obtain ⟨b', hb', h⟩ := ih hrest
          exact ⟨b', List.mem_cons_of_mem _ hb', h⟩

/-- If `FirstHit P bs none`, then `P b none` for every element `b`. -/
theorem forall_of_none (h : FirstHit P bs none) : ∀ b ∈ bs, P b none := by
  induction bs with
  | nil => exact nofun
  | cons b bs ih =>
      cases h with
      | miss h hrest => exact List.forall_mem_cons.mpr ⟨h, ih hrest⟩

end FirstHit

/-- What a label gives in the schema of a name is the same in every registry `r'` with
`r.Within r'`. -/
theorem Registry.Reads.mono {r r' : Registry} {find : Schema → List Char → Option α}
    {case : Label.Case} {label : List Char} {name : SchemaName} {a? : Option α}
    (h : r.Reads find case label name a?) (hwithin : r.Within r') :
    r'.Reads find case label name a? := by
  unfold Reads at h ⊢
  split
  · rename_i hpath
    simpa only [hpath] using h
  · rename_i path hpath
    simp only [hpath] at h
    obtain ⟨s, hs, ha⟩ := h
    exact ⟨s, hwithin.schemas _ s hs, ha⟩

namespace Lookup

/-- The lookup of what a label gives in the schema of `name`: `inSchema?` for what follows the name
at its front, `none` if the label does not begin with it. It makes one of `inListed?` and
`afterSchema?`. -/
def readIn (find : Schema → List Char → Option α) (case : Label.Case) (label : List Char)
    (name : SchemaName) : Lookup (Option α) :=
  match Label.pathAfter? case label name with
  | some path => inSchema? find name path
  | none => return none

/-- The first part of `resolve?`: what a label gives in the listed schemas, under the rule
`.sensitive` for one after another, or else under `.insensitive` for those with a name. -/
def searchListed (find : Schema → List Char → Option α) (label : List Char) :
    Lookup (Option α) := do
  let names ← schemaNames
  match ← names.findSomeM? (readIn find .sensitive label) with
  | some a => return some a
  | none => (names.filterMap id).findSomeM? fun name => readIn find .insensitive label (some name)

variable {find : Schema → List Char → Option α}

/-- For a label that is not empty, `resolve?` is `searchListed` and then, if that finds nothing,
`defaultSchema?` with the whole label as the path. -/
theorem resolve?_eq (find : Schema → List Char → Option α) (label : String)
    (hlabel : (Label.normalize label).isEmpty = false) :
    resolve? find label = do
      match ← searchListed find (Label.normalize label) with
      | some a => return some a
      | none => return (← defaultSchema?).bind fun s => find s (Label.normalize label) := by
  have hlisted : ∀ path, inListed? find path = readIn find .sensitive path := by
    intro path
    funext name
    cases name <;> rfl
  unfold resolve? searchListed
  simp only [hlabel, hlisted]
  refine Eq.trans ?_ (bind_assoc _ _ _).symm
  refine congrArg (schemaNames >>= ·) (funext fun names => ?_)
  refine Eq.trans ?_ (bind_assoc _ _ _).symm
  refine congrArg (_ >>= ·) (funext fun a? => ?_)
  cases a? <;> rfl

end Lookup

/-! ## Both rules for case -/

/-- Whether the label gives `a?` in the schemas of `names`, as cached in `r` (`Registry.Reads`): the
first hit under `.sensitive`, or if there is none the first hit under `.insensitive` among the names
that are texts. -/
def Registry.Searched (r : Registry) (find : Schema → List Char → Option α) (label : List Char)
    (names : List SchemaName) (a? : Option α) : Prop :=
  FirstHit (r.Reads find .sensitive label) names a? ∧ a? ≠ none ∨
    FirstHit (r.Reads find .sensitive label) names none ∧
      FirstHit (fun name => r.Reads find .insensitive label (some name)) (names.filterMap id) a?

section Searching

open Lookup

variable {find : Schema → List Char → Option α} {case : Label.Case} {label : List Char}
    {a? : Option α}
variable {name : SchemaName} {names : List SchemaName} {w w' : Site σ}

/-- **One name**: if `readIn find case label name` comes to `a?` for a listed `name`, then the
registry that is left `Reads` it. -/
theorem reads_of_run (hnames : w.registry.names = some names) (hname : name ∈ names)
    (hrun : (readIn find case label name).run (.ofSource answer) w = (.ok a?, w')) :
    w'.registry.Reads find case label name a? := by
  unfold readIn at hrun
  unfold Registry.Reads
  rcases hpath : Label.pathAfter? case label name with _ | path
  · simp only [hpath] at hrun ⊢
    cases hrun
    rfl
  · simp only [hpath] at hrun ⊢
    obtain ⟨s?, w₁, hschema, hresult⟩ := exists_of_run_bind hrun
    obtain ⟨s, rfl, hcached⟩ := cached_of_schemaByName? hnames hname hschema
    cases hresult
    exact ⟨s, hcached, rfl⟩

/-- **Names, one after another**: `findSomeM?` over names comes to the `FirstHit` of what the
registry that is left `Reads`. -/
theorem firstHit_of_run {named : β → SchemaName} {bs : List β} (hbs : ∀ b ∈ bs, named b ∈ names)
    (hnames : w.registry.names = some names)
    (hrun : (bs.findSomeM? fun b => readIn find case label (named b)).run (.ofSource answer) w =
      (.ok a?, w')) :
    FirstHit (fun b => w'.registry.Reads find case label (named b)) bs a? := by
  induction bs generalizing w with
  | nil =>
      cases hrun
      exact .nil
  | cons b bs ih =>
      obtain ⟨hb, hbs⟩ := List.forall_mem_cons.mp hbs
      obtain ⟨first?, w₁, hfirst, hrest⟩ := exists_of_run_bind hrun
      have hreads := reads_of_run hnames hb hfirst
      cases first? with
      | some a =>
          cases hrest
          exact .hit hreads
      | none =>
          have hkept := (within_of_run hfirst).names names hnames
          exact .miss (hreads.mono (within_of_run hrest)) (ih hbs hkept hrest)

/-- **Both rules for case**: if `searchListed` comes to `a?`, then the registry that is left has
`Searched` the label in its cached names with the result `a?`. -/
theorem searched_of_run (hrun : (searchListed find label).run (.ofSource answer) w = (.ok a?, w')) :
    ∃ names, w'.registry.names = some names ∧ w'.registry.Searched find label names a? := by
  obtain ⟨names, w₁, hlist, hrest⟩ := exists_of_run_bind hrun
  have hnames := names_of_schemaNames hlist
  refine ⟨names, (within_of_run hrest).names names hnames, ?_⟩
  obtain ⟨first?, w₂, hexact, hrest⟩ := exists_of_run_bind hrest
  have hfirst := firstHit_of_run (fun _ => id) hnames hexact
  cases first? with
  | some a =>
      cases hrest
      exact .inl ⟨hfirst, nofun⟩
  | none =>
      have hnamed : ∀ name ∈ names.filterMap id, some name ∈ names := by
        intro name hname
        obtain ⟨_, hmem, rfl⟩ := List.mem_filterMap.mp hname
        exact hmem
      have hkept := (within_of_run hexact).names names hnames
      exact .inr ⟨hfirst.mono fun _ _ hreads => hreads.mono (within_of_run hrest),
        firstHit_of_run hnamed hkept hrest⟩

/-- A result of `Searched` is what the label gives in the schema of a listed name under one of the
rules (`Registry.Reads`). -/
theorem Registry.Searched.exists_of_some {r : Registry} {a : α}
    (h : r.Searched find label names (some a)) :
    ∃ name ∈ names, ∃ case, r.Reads find case label name (some a) := by
  rcases h with ⟨hexact, -⟩ | ⟨-, hother⟩
  · obtain ⟨name, hname, hreads⟩ := hexact.exists_of_some
    exact ⟨name, hname, .sensitive, hreads⟩
  · obtain ⟨name, hname, hreads⟩ := hother.exists_of_some
    obtain ⟨_, hmem, rfl⟩ := List.mem_filterMap.mp hname
    exact ⟨_, hmem, .insensitive, hreads⟩

variable {k : Stock σ} (hsupplied : k.Supplied)

include hsupplied

/-- The lookup `readIn` upholds the regime of `k`: it does nothing to the registry that lookups of
schemas do not do. -/
theorem upholds_readIn (find : Schema → List Char → Option α) (case : Label.Case)
    (label : List Char) (name : SchemaName) :
    (readIn find case label name).Upholds k.regime fun _ => True := by
  unfold readIn
  split
  · exact upholds_bind (hsupplied.schemaByName? name) fun _ _ => upholds_pure trivial
  · exact upholds_pure trivial

/-- So does `searchListed`. -/
theorem upholds_searchListed (find : Schema → List Char → Option α) (label : List Char) :
    (searchListed find label).Upholds k.regime fun _ => True := by
  refine upholds_bind hsupplied.schemaNames fun names _ => ?_
  have hread := fun case name => upholds_readIn hsupplied find case label name
  refine upholds_bind (upholds_findSomeM? fun name _ => hread .sensitive name) fun first? _ => ?_
  cases first? with
  | some a => exact upholds_pure trivial
  | none =>
      refine upholds_mono (upholds_findSomeM? fun name _ => hread .insensitive (some name))
        fun _ _ => ?_
      trivial

/-- **Both rules for case**: `searchListed` does come to a result `a?` with `Registry.Searched` if
the source does not fail. -/
theorem exists_run_searchListed (hstays : ∀ call x, k.inSource x → k.inSource (k.answer call x).2)
    (hfail : ¬ k.mayFail) (find : Schema → List Char → Option α) (label : List Char)
    (hw : k.regime.At w) :
    ∃ a? w' names, (searchListed find label).run (.ofSource k.answer) w = (.ok a?, w') ∧
      k.regime.At w' ∧
      k.lists names ∧ w'.registry.Searched find label names a? := by
  have hupholds := upholds_searchListed hsupplied find label
  obtain ⟨a?, w', hrun, hw', -⟩ :
      ∃ a? w', (searchListed find label).run (.ofSource k.answer) w = (.ok a?, w') ∧
        k.regime.At w' ∧ True :=
    exists_run hstays hupholds hfail hw
  obtain ⟨names, hnames, hfound⟩ := searched_of_run hrun
  exact ⟨a?, w', names, hrun, hw', hw'.1.names names hnames, hfound⟩

end Searching

/-! ## Before and after -/

section Registries

variable {k : Stock σ} (h : k.Supplied)
    (hstays : ∀ call x, k.inSource x → k.inSource (k.answer call x).2)
variable (hdefault : ∀ x e, k.inSource x → (k.answer .defaultName x).1 = .error e → k.mayFail)

include h hstays hdefault

/-- **Before**: after any run of `SharedEvent`s, the registry has nothing but what `k` allows, so a
lookup begins in the regime of `k`. -/
theorem Stock.Supplied.at_run (preferred : Option String) {firstId : SchemaId}
    (hfirst : k.base ≤ firstId) {source : σ} (hsource : k.inSource source) (es : List SharedEvent) :
    k.regime.At ((Shared.new preferred firstId source).run k.answer es).site :=
  ⟨(h.under_run hstays hdefault hfirst hsource es).inv,
    Shared.inSource_run k.answer hstays hsource es⟩

/-- **After**: `resolve? find label`, also if it fails, leaves nothing else behind. -/
theorem Stock.Supplied.at_resolve? {w : Site σ} (hw : k.regime.At w)
    (find : Schema → List Char → Option α) (label : String) :
    k.regime.At ((Lookup.resolve? find label).run (.ofSource k.answer) w).2 :=
  (Lookup.upholds_run hstays (h.resolve? hdefault find label) hw).1

end Registries

end DataAccess.Catalog
