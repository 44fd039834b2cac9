import DataAccess.Context
import DataAccess.Proofs.LookupRules
import DataAccess.Proofs.NameOrder
import DataAccess.Proofs.StoreConsistency
import DataAccess.Proofs.UpdateAtomicity

/-!
# Cache coherence: what is cached is what the store declares

A context on a store caches names and schemas. As long as the store is changed through the context
alone, what is cached is what the store would answer now (`Coherent`).

* **Lookups** (`sound_coherence`): a lookup finds the cache coherent, leaves it so, and does not
  fail.
* **Updates** (`coherent_executeUpdate`): an update that changes the shape of a schema leaves
  nothing cached, and one that does not leaves the declarations alone.
* **Coherence** (`cache_coherent`).
-/

namespace DataAccess

open Catalog Execution

namespace Memory.Store

/-! ## Coherence -/

variable {w w' : Site Store}

/-- Whether a schema is what the store would build now of the schema of its name, but for the
identity: `d.build schema.id` for the declaration `d` that it loads. -/
def Current (s : Store) (schema : Schema) : Prop :=
  ∃ d, (answer (.load schema.name) s).1 = .ok (some d) ∧ schema = d.build schema.id

/-- Whether what is cached is what the store would answer now: the names of its schemas, and schemas
that are `Store.Current`. -/
structure Coherent (w : Site Store) : Prop where
  /-- Schemas are cached under keys of listed names. -/
  filed : w.registry.Filed
  /-- The cached names are those of the declared schemas. -/
  names_eq : ∀ names, w.registry.names = some names →
    names = sortNames (w.source.schemas.map (·.name))
  /-- The cached schemas are current, under the keys of their names. -/
  schemas_current : ∀ key schema, (key, schema) ∈ w.registry.schemas →
    key = cacheKey schema.name ∧ w.source.Current schema

/-- Coherence is about the declarations `w.source.schemas` alone, not about rows. -/
theorem Coherent.of_schemas_eq (h : Coherent w) (hregistry : w'.registry = w.registry)
    (hschemas : w'.source.schemas = w.source.schemas) : Coherent w' := by
  obtain ⟨hfiled, hnames, hcurrent⟩ := h
  refine ⟨hregistry ▸ hfiled, ?_, ?_⟩
  · intro names hn
    rw [hregistry] at hn
    rw [hschemas]
    exact hnames names hn
  · intro key schema hmem
    rw [hregistry] at hmem
    obtain ⟨hkey, d, hload, hbuild⟩ := hcurrent key schema hmem
    refine ⟨hkey, d, ?_, hbuild⟩
    show Except.ok (findDecl? w'.source.schemas schema.name) = _
    rw [hschemas]
    exact hload

/-- A registry that is new or refreshed has nothing cached. -/
theorem coherent_of_empty (hnames : w.registry.names = none) (hschemas : w.registry.schemas = []) :
    Coherent w := by
  refine ⟨?_, ?_, ?_⟩
  · intro key s hs
    unfold Registry.schema? at hs
    rw [hschemas] at hs
    cases hs
  · intro names hn
    rw [hnames] at hn
    cases hn
  · intro key schema hmem
    rw [hschemas] at hmem
    cases hmem

/-- A listed name is that of a declared schema, which loads (`findDecl?`). -/
theorem Coherent.exists_decl {name : SchemaName} (h : Coherent w) (hname : w.registry.Lists name) :
    ∃ d, findDecl? w.source.schemas name = some d ∧ d.name = name := by
  obtain ⟨names, hnames, hmem⟩ := hname
  rw [h.names_eq names hnames, mem_sortNames] at hmem
  obtain ⟨d, hd, hdname⟩ := List.mem_map.mp hmem
  rcases hfound : findDecl? w.source.schemas name with _ | d'
  · have hnot := List.find?_eq_none.mp hfound d hd
    rw [hdname] at hnot
    exact absurd (beq_self_eq_true name) hnot
  · have hbeq := List.find?_some hfound
    exact ⟨d', rfl, beq_iff_eq.mp hbeq⟩

/-! ## Lookups -/

/-- Lookups in the store `s` leave the cache `Coherent` and do not fail. -/
def coherence (s : Store) : Upkeep (.alone answer) where
  inv w := w.source = s ∧ Coherent w
  mayFail := False
  filed h := h.2.filed
  stable h hsame := hsame ▸ h

/-- The step `.storeNames` with the names of the declared schemas keeps `Coherent`. -/
theorem Coherent.storeNames (h : Coherent w) (hfree : w.registry.names = none) :
    Coherent ⟨(w.registry.perform (.storeNames (sortNames (w.source.schemas.map (·.name))))).2,
      w.source⟩ := by
  have hgrows := w.registry.grows_storeNames (sortNames (w.source.schemas.map (·.name)))
  have hstored : (w.registry.perform (.storeNames (sortNames (w.source.schemas.map (·.name))))).2 =
      { w.registry with names := some (sortNames (w.source.schemas.map (·.name))) } := by
    unfold Registry.perform
    simp only [hfree]
  refine ⟨h.filed.grows hgrows, ?_, ?_⟩
  · intro names hnames
    rw [hstored] at hnames
    exact (Option.some.inj hnames).symm
  · intro key schema hmem
    rw [hstored] at hmem
    exact h.schemas_current key schema hmem

/-- A schema that is loaded and published is current, so `.publish` keeps `Coherent`. -/
theorem Coherent.publish {name : SchemaName} {d : SchemaDecl} (h : Coherent w)
    (hname : w.registry.Lists name) (hfree : w.registry.schema? (cacheKey name) = none)
    (hfound : findDecl? w.source.schemas name = some d) (hd : d.name = name) :
    Coherent ⟨((w.registry.build d).2.perform (.publish (cacheKey name) (w.registry.build d).1)).2,
      w.source⟩ := by
  have hbuilt : w.registry.Grows (w.registry.build d).2 :=
    Registry.grows_receive _ (.load name) (some d)
  have hgrows := hbuilt.trans (Registry.grows_publish (hname.grows hbuilt) (w.registry.build d).1)
  have hpublished := Registry.perform_publish_of_none (r := (w.registry.build d).2) hfree
    (w.registry.build d).1
  refine ⟨h.filed.grows hgrows, ?_, ?_⟩
  · intro names hnames
    rw [hpublished] at hnames
    exact h.names_eq names hnames
  · intro key schema hmem
    rw [hpublished] at hmem
    rcases List.mem_append.mp hmem with hold | hnew
    · exact h.schemas_current key schema hold
    · obtain ⟨rfl, rfl⟩ := Prod.mk.inj (List.mem_singleton.mp hnew)
      refine ⟨congrArg cacheKey hd.symm, d, ?_, rfl⟩
      show Except.ok (findDecl? w.source.schemas d.name) = _
      rw [hd, hfound]

/-- **Lookups**: all lookups leave the cache coherent and do not fail (`Upkeep.Sound`). -/
theorem sound_coherence (s : Store) : (coherence s).Sound := by
  apply Upkeep.sound_of_calls
  · rintro call w e s' - hanswer
    cases call <;> cases hanswer
  · rintro w _ listed s' ⟨rfl, hcoherent⟩ hfree rfl hanswer _ rfl
    obtain ⟨hlisted, rfl⟩ := Prod.mk.inj hanswer
    obtain rfl : w.source.schemas.map (·.name) = listed := Except.ok.inj hlisted
    exact ⟨rfl, hcoherent.storeNames hfree⟩
  · rintro name w s' ⟨rfl, hcoherent⟩ hname hanswer
    obtain ⟨d, hfound, -⟩ := hcoherent.exists_decl hname
    obtain ⟨hmissing, -⟩ := Prod.mk.inj hanswer
    cases hfound.symm.trans (Except.ok.inj hmissing)
  · rintro name w _ d s' ⟨rfl, hcoherent⟩ hname hfree rfl hanswer _ rfl
    obtain ⟨hloaded, rfl⟩ := Prod.mk.inj hanswer
    obtain ⟨d', hfound, hd⟩ := hcoherent.exists_decl hname
    obtain rfl : d' = d := Option.some.inj (hfound.symm.trans (Except.ok.inj hloaded))
    exact ⟨rfl, hcoherent.publish hname hfree hfound hd⟩
  · rintro w name? s' ⟨rfl, hcoherent⟩ hanswer
    obtain ⟨-, rfl⟩ := Prod.mk.inj hanswer
    exact ⟨rfl, hcoherent⟩

/-- A lookup succeeds, with an answer that `Stands` in a cache that is `Coherent`. -/
theorem coherent_lookup {ctx : Context Store} (hsource : ctx.source = source) (h : Coherent w)
    (q : Request) :
    ∃ a w', ctx.lookup q.lookup w = (.ok a, w') ∧ w'.source = w.source ∧
      w'.registry.preferred = w.registry.preferred ∧ Coherent w' ∧ q.Stands w'.registry a := by
  have hlasting : Registry.Lasting fun r => r.preferred = w.registry.preferred :=
    fun r r' hgrows hr => hgrows.preferred_eq.trans hr
  have hmeets := ((sound_coherence w.source).lookup q).frame hlasting
  have hrun := Lookup.ensures_run (hmeets w ⟨rfl, h⟩ ⟨trivial, rfl⟩)
  unfold Context.lookup
  rw [hsource]
  rcases hresult : q.lookup.run source.answer w with ⟨e | a, w'⟩
  · -- Lookups in a store do not fail.
    have hfailed : (coherence w.source).Kept _ (q.lookup.run source.answer w).1
      (q.lookup.run source.answer w).2 := hrun
    rw [hresult] at hfailed
    exact hfailed.2.elim
  · have hkept : (coherence w.source).Kept _ (q.lookup.run source.answer w).1
      (q.lookup.run source.answer w).2 := hrun
    rw [hresult] at hkept
    obtain ⟨⟨hsame, hcoherent⟩, hstands, hpreferred⟩ := hkept
    exact ⟨a, w', rfl, hsame, hpreferred, hcoherent, hstands⟩

/-! ## Updates -/

/-- An update without `isDdl` leaves `schemas` alone. -/
theorem schemas_of_change {s s' : Store} {u : Update} {count : Nat} (hu : u.isDdl = false)
    (h : s.change u = .ok (count, s')) : s'.schemas = s.schemas := by
  have hchange := change_eq_ok h
  cases u with
  | createTable schema table => cases hu
  | dropTable t => cases hu
  | insert t rows =>
      obtain ⟨-, rfl⟩ := insert_eq_ok hchange
      rfl
  | delete t filters =>
      obtain rfl | ⟨_, _, -, -, rfl⟩ := delete_eq_ok hchange
      · rfl
      · rfl

/-- The store after an update that is accepted. -/
theorem update_of_change {s s' : Store} {u : Update} {count : Nat}
    (h : s.change u = .ok (count, s')) : source.update u s = (.ok count, s') := by
  show updateInPlace u s = _
  rw [updateInPlace_eq_update, update, h]

/-- The site after an update that is accepted. -/
theorem executeUpdate_of_ok {ctx : Context Store} (hsource : ctx.source = source) {u : Update}
    {count : Nat} {s : Store} (h : w.source.change u = .ok (count, s)) :
    ctx.executeUpdate u w = (.ok count,
      ⟨if u.isDdl then w.registry.refresh else w.registry, s⟩) := by
  unfold Context.executeUpdate
  rw [hsource, update_of_change h]

/-- The site after an update that fails. -/
theorem executeUpdate_of_error {ctx : Context Store} (hsource : ctx.source = source) {u : Update}
    {e : Error} (h : w.source.change u = .error e) : ctx.executeUpdate u w = (.error e, w) := by
  have hupdate : source.update u w.source = (.error e, w.source) := by
    show updateInPlace u w.source = _
    rw [updateInPlace_eq_update, update, h]
  unfold Context.executeUpdate
  rw [hsource, hupdate]

/-- **Updates**: the cache stays `Coherent`. After a change of the shape of a schema nothing is
cached (`Registry.refresh`). -/
theorem coherent_executeUpdate {ctx : Context Store} (hsource : ctx.source = source)
    (h : Coherent w) (u : Update) :
    Coherent (ctx.executeUpdate u w).2 ∧
      (ctx.executeUpdate u w).2.registry.preferred = w.registry.preferred ∧
      ∀ count, u.isDdl = true → (ctx.executeUpdate u w).1 = .ok count →
        (ctx.executeUpdate u w).2.registry = w.registry.refresh := by
  rcases hchange : w.source.change u with e | ⟨count, s⟩
  · rw [executeUpdate_of_error hsource hchange]
    exact ⟨h, rfl, fun _ _ => nofun⟩
  · rw [executeUpdate_of_ok hsource hchange]
    rcases hu : u.isDdl with _ | _
    · exact ⟨h.of_schemas_eq rfl (schemas_of_change hu hchange), rfl, fun _ => nofun⟩
    · exact ⟨coherent_of_empty rfl rfl, rfl, fun _ _ _ => rfl⟩

/-! ## Coherence -/

/-- The sites that come of `start` through a context, by updates, lookups and refreshes in any
order. -/
inductive Visited (ctx : Context Store) (start : Site Store) : Site Store → Prop where
  /-- Nothing has happened. -/
  | start : Visited ctx start start
  /-- An update is accepted or fails. -/
  | update {w : Site Store} (h : Visited ctx start w) (u : Update) :
      Visited ctx start (ctx.executeUpdate u w).2
  /-- Something is looked up. -/
  | lookup {w : Site Store} (h : Visited ctx start w) (q : Request) :
      Visited ctx start (ctx.lookup q.lookup w).2
  /-- The cached schemas are forgotten. -/
  | refresh {w : Site Store} (h : Visited ctx start w) :
      Visited ctx start ⟨w.registry.refresh, w.source⟩

/-- The cache is `Coherent` at every site that is visited, and the configuration stays. -/
theorem Visited.coherent {ctx : Context Store} (hsource : ctx.source = source) {firstId : SchemaId}
    {s : Store} (h : Visited ctx (ctx.site firstId s) w) :
    Coherent w ∧ w.registry.preferred = ctx.config.defaultSchema := by
  induction h with
  | start => exact ⟨coherent_of_empty rfl rfl, rfl⟩
  | update _ u ih =>
      obtain ⟨hcoherent, hpreferred, -⟩ := coherent_executeUpdate hsource ih.1 u
      exact ⟨hcoherent, hpreferred.trans ih.2⟩
  | lookup _ q ih =>
      obtain ⟨a, w', hlookup, -, hpreferred, hcoherent, -⟩ := coherent_lookup hsource ih.1 q
      rw [hlookup]
      exact ⟨hcoherent, hpreferred.trans ih.2⟩
  | refresh _ ih => exact ⟨coherent_of_empty rfl rfl, ih.2⟩

/-- **Coherence**: in a context on a store that is changed through it alone (`Visited`), cached
schemas are what the store would build now (`Store.Current`), and cached names are those of its
schemas, in order and each once. All lookups succeed, with answers that stand in such a cache
(`Request.Stands`). After a change of the shape of a schema, the context is as it is for the store
`s'` that the update leaves, `ctx.site id s'`, so that lookups answer from the new shape. -/
theorem cache_coherent {ctx : Context Store} (hsource : ctx.source = source) {firstId : SchemaId}
    {s : Store} (h : Visited ctx (ctx.site firstId s) w) :
    (∀ key schema, (key, schema) ∈ w.registry.schemas →
        key = cacheKey schema.name ∧ w.source.Current schema) ∧
      (∀ names, w.registry.names = some names →
        names.Pairwise (fun a b => SchemaName.le a b = true ∧ a ≠ b) ∧
          ∀ name, name ∈ names ↔ ∃ d ∈ w.source.schemas, d.name = name) ∧
      (∀ q : Request, ∃ a w', ctx.lookup q.lookup w = (.ok a, w') ∧ w'.source = w.source ∧
        q.Stands w'.registry a ∧ Visited ctx (ctx.site firstId s) w') ∧
      ∀ u count, u.isDdl = true → (ctx.executeUpdate u w).1 = .ok count →
        ∃ id s', source.update u w.source = (.ok count, s') ∧
          (ctx.executeUpdate u w).2 = ctx.site id s' := by
  obtain ⟨hcoherent, hpreferred⟩ := h.coherent hsource
  refine ⟨hcoherent.schemas_current, ?_, ?_, ?_⟩
  · intro names hnames
    rw [hcoherent.names_eq names hnames]
    refine ⟨pairwise_sortNames _, ?_⟩
    intro name
    rw [mem_sortNames]
    exact List.mem_map
  · intro q
    obtain ⟨a, w', hlookup, hsame, -, -, hstands⟩ := coherent_lookup hsource hcoherent q
    refine ⟨a, w', hlookup, hsame, hstands, ?_⟩
    have hvisited := h.lookup q
    rw [hlookup] at hvisited
    exact hvisited
  · intro u count hu hok
    rcases hchange : w.source.change u with e | ⟨count', s'⟩
    · rw [executeUpdate_of_error hsource hchange] at hok
      cases hok
    · rw [executeUpdate_of_ok hsource hchange, hu] at hok ⊢
      obtain rfl := Except.ok.inj hok
      have hnew : w.registry.refresh =
          { preferred := ctx.config.defaultSchema, nextId := w.registry.nextId } := by
        rw [← hpreferred]
        rfl
      refine ⟨w.registry.nextId, s', update_of_change hchange, ?_⟩
      rw [if_pos rfl, hnew]
      rfl

/-- A context on the store with one table, after its schema has been looked up in other letters. -/
theorem cache_coherent_oneRow :
    let ctx := Context.ofSource source {} oneRow
    let w := (ctx.lookup (Request.schema (some "a")).lookup (ctx.site 0 oneRow)).2
    let u := Update.createTable (some "B") (narrow "U")
    Visited ctx (ctx.site 0 oneRow) w ∧ ("A", oneTable.build 0) ∈ w.registry.schemas ∧
      w.source.Current (oneTable.build 0) ∧ (ctx.executeUpdate u w).1 = .ok 0 ∧
      ∃ id s', source.update u w.source = (.ok 0, s') ∧
        (ctx.executeUpdate u w).2 = ctx.site id s' := by
  intro ctx w u
  have hvisited : Visited ctx (ctx.site 0 oneRow) w := Visited.start.lookup (.schema (some "a"))
  have hsource : ctx.source = source := rfl
  obtain ⟨hschemas, -, -, hnew⟩ := cache_coherent hsource hvisited
  have hcached : ("A", oneTable.build 0) ∈ w.registry.schemas := by decide +kernel
  have hok : (ctx.executeUpdate u w).1 = .ok 0 := by
    have hcount : (ctx.executeUpdate u w).1.toOption = some 0 := by decide +kernel
    rcases hresult : (ctx.executeUpdate u w).1 with e | count
    · rw [hresult] at hcount
      cases hcount
    · rw [hresult] at hcount
      exact congrArg Except.ok (Option.some.inj hcount)
  exact ⟨hvisited, hcached, (hschemas _ _ hcached).2, hok, hnew u 0 rfl hok⟩

end Memory.Store
end DataAccess
