import DataAccess.Catalog.Resolution
import Mathlib.Data.List.Forall2

/-!
# Lookup rules: what lookups ensure while others use the registry

A lookup takes its requests one by one, and between two of them others may use the same registry.
What a lookup ensures is stated for any others that do no more than a given relation allows
(`Surroundings`).

* **Growth** (`Registry.Grows`): as long as nobody refreshes it, a registry keeps its names and
  schemas, and a new schema comes under the key of a listed name.
* **Assurance** (`Lookup.Ensures`): with rules for composition (`ensures_bind`), for what others do
  meanwhile (`ensures_of_moves`), for one request (`ensures_advance`) and for a whole run
  (`ensures_run`).
* **Upkeep** (`Upkeep.Meets`): specifications of lookups that keep an invariant. Those of all
  lookups follow from those of the three that call the source (`Upkeep.Sound`).
* **Requests** (`Sound.lookup`): each answer is one that stands in the registry (`Request.Stands`).
-/

namespace DataAccess.Catalog

/-! ## Growth -/

namespace Registry

/-- Whether a name is in the cached list of names, `r.names`. -/
def Lists (r : Registry) (name : SchemaName) : Prop :=
  ∃ names, r.names = some names ∧ name ∈ names

/-- Whether all schemas are cached under keys of listed names: `cacheKey name = key` for some `name`
that `r.Lists`. -/
def Filed (r : Registry) : Prop :=
  ∀ key s, r.schema? key = some s → ∃ name, r.Lists name ∧ cacheKey name = key

/-- Whether the registry `r'` can come of `r` while nobody refreshes it: what is cached stays, and a
new schema is under the key of a listed name. -/
structure Grows (r r' : Registry) : Prop where
  /-- The configuration stays. -/
  preferred_eq : r'.preferred = r.preferred
  /-- A list of names stays. -/
  names_of : ∀ names, r.names = some names → r'.names = some names
  /-- A cached schema stays. -/
  schema_of : ∀ key s, r.schema? key = some s → r'.schema? key = some s
  /-- A schema is cached under the key of a listed name. -/
  filed_of : ∀ key s, r'.schema? key = some s →
    r.schema? key = some s ∨ ∃ name, r'.Lists name ∧ cacheKey name = key

variable {r r' r'' : Registry}

/-- `Lists` is kept while a registry `Grows`. -/
theorem Lists.grows {name : SchemaName} (h : r.Lists name) (hgrows : r.Grows r') :
    r'.Lists name := by
  obtain ⟨names, hnames, hname⟩ := h
  exact ⟨names, hgrows.names_of names hnames, hname⟩

/-- `Registry.Grows` is reflexive. -/
theorem Grows.refl (r : Registry) : r.Grows r :=
  ⟨rfl, fun _ h => h, fun _ _ h => h, fun _ _ h => .inl h⟩

/-- `Registry.Grows` is transitive. -/
theorem Grows.trans (h : r.Grows r') (h' : r'.Grows r'') : r.Grows r'' := by
  refine ⟨h'.preferred_eq.trans h.preferred_eq, ?_, ?_, ?_⟩
  · intro names hnames
    exact h'.names_of names (h.names_of names hnames)
  · intro key s hs
    exact h'.schema_of key s (h.schema_of key s hs)
  · intro key s hs
    rcases h'.filed_of key s hs with hold | hnew
    · rcases h.filed_of key s hold with holder | ⟨name, hname, hkey⟩
      · exact .inl holder
      · exact .inr ⟨name, hname.grows h', hkey⟩
    · exact .inr hnew

/-- `Filed` is kept while a registry `Grows`. -/
theorem Filed.grows (h : r.Filed) (hgrows : r.Grows r') : r'.Filed := by
  intro key s hs
  rcases hgrows.filed_of key s hs with hold | hnew
  · obtain ⟨name, hname, hkey⟩ := h key s hold
    exact ⟨name, hname.grows hgrows, hkey⟩
  · exact hnew

/-- A registry grows by `.storeNames names`. -/
theorem grows_storeNames (r : Registry) (names : List SchemaName) :
    r.Grows (r.perform (.storeNames names)).2 := by
  unfold perform
  cases hnames : r.names with
  | some present => exact .refl r
  | none =>
      refine ⟨rfl, ?_, fun _ _ h => h, fun _ _ h => .inl h⟩
      intro names' hnames'
      cases hnames.symm.trans hnames'

/-- The names that `.storeNames` answers are cached then. -/
theorem names_perform_storeNames (r : Registry) (names : List SchemaName) :
    (r.perform (.storeNames names)).2.names = some (r.perform (.storeNames names)).1 := by
  unfold perform
  cases hnames : r.names with
  | some present => exact hnames
  | none => rfl

/-- A schema that is published yields to the one that is there: `.publish key s` answers `present`
and changes nothing. -/
theorem perform_publish_of_some {key : CacheKey} {present : Schema}
    (h : r.schema? key = some present) (s : Schema) :
    r.perform (.publish key s) = (present, r) := by
  simp only [perform, h]

/-- `.publish` caches a schema under a key that is free, and answers with it. -/
theorem perform_publish_of_none {key : CacheKey} (h : r.schema? key = none) (s : Schema) :
    r.perform (.publish key s) = (s, { r with schemas := r.schemas ++ [(key, s)] }) := by
  simp only [perform, h]

/-- A registry grows by `.publish (cacheKey name) s`, if `name` is listed. -/
theorem grows_publish {name : SchemaName} (h : r.Lists name) (s : Schema) :
    r.Grows (r.perform (.publish (cacheKey name) s)).2 := by
  rcases hcached : r.schema? (cacheKey name) with _ | present
  · have hcases : ∀ key s', (r.perform (.publish (cacheKey name) s)).2.schema? key = some s' →
        key = cacheKey name ∨ r.schema? key = some s' := by
      intro key s' hs'
      by_cases hkey : key = cacheKey name
      · exact .inl hkey
      · rw [schema?_perform_publish_of_ne r s hkey] at hs'
        exact .inr hs'
    have hkept : ∀ key s', r.schema? key = some s' →
        (r.perform (.publish (cacheKey name) s)).2.schema? key = some s' := by
      intro key s' hs'
      have hkey : key ≠ cacheKey name := by
        rintro rfl
        cases hcached.symm.trans hs'
      rw [schema?_perform_publish_of_ne r s hkey]
      exact hs'
    rw [perform_publish_of_none hcached s] at hcases hkept ⊢
    refine ⟨rfl, fun _ hnames => hnames, hkept, ?_⟩
    intro key s' hs'
    rcases hcases key s' hs' with rfl | hold
    · exact .inr ⟨name, h, rfl⟩
    · exact .inl hold
  · rw [perform_publish_of_some hcached s]
    exact .refl r

/-- A registry grows when an answer of the source is received (`SourceCall.receive`). -/
theorem grows_receive (r : Registry) (call : SourceCall) (a : call.Answer) :
    r.Grows (call.receive a r).2 := by
  cases call with
  | listNames => exact .refl r
  | defaultName => exact .refl r
  | load name =>
      cases a with
      | none => exact .refl r
      | some d => exact ⟨rfl, fun _ h => h, fun _ _ h => h, fun _ _ h => .inl h⟩

end Registry

/-! ## Assurance -/

/-- What is around a lookup: who answers its calls, and what others may do between its requests, as
a relation `moves` on sites. -/
structure Surroundings (σ : Type) where
  /-- Answers a call to the source. -/
  answer : (call : SourceCall) → σ → Except Error call.Answer × σ
  /-- What others may do. -/
  moves : Site σ → Site σ → Prop
  /-- They may do nothing. -/
  refl : ∀ w, moves w w
  /-- What they may do one after another they may do. -/
  trans : ∀ {w w' w''}, moves w w' → moves w' w'' → moves w w''
  /-- They do not refresh the registry. -/
  grows : ∀ {w w'}, moves w w' → w.registry.Grows w'.registry

/-- Nobody else uses the registry: `moves` is equality. -/
def Surroundings.alone {σ : Type} (answer : (call : SourceCall) → σ →
    Except Error call.Answer × σ) :
    Surroundings σ where
  answer
  moves := Eq
  refl _ := rfl
  trans := Eq.trans
  grows h := h ▸ .refl _

/-- Others look up what they want: they may do whatever lets the registry grow, and to the source
whatever they like. -/
def Surroundings.shared {σ : Type} (answer : (call : SourceCall) → σ →
    Except Error call.Answer × σ) :
    Surroundings σ where
  answer
  moves w w' := w.registry.Grows w'.registry
  refl _ := .refl _
  trans := Registry.Grows.trans
  grows h := h

namespace Lookup

variable {σ α β : Type}

/-- Takes the next request of a lookup, on the cache or to the source, and leaves the rest. -/
def advance (answer : (call : SourceCall) → σ → Except Error call.Answer × σ) :
    Lookup α → Site σ → Lookup α × Site σ
  | .done a, w => (.done a, w)
  | .fail e, w => (.fail e, w)
  | .cache step next, w =>
      (next (w.registry.perform step).1, ⟨(w.registry.perform step).2, w.source⟩)
  | .ask call next, w => match answer call w.source with
      | (.error e, s) => (.fail e, ⟨w.registry, s⟩)
      | (.ok a, s) => (next (call.receive a w.registry).1, ⟨(call.receive a w.registry).2, s⟩)

/-- A lookup that runs by itself takes its next request first: `run` of the rest, from where
`advance` leads, is `run` of the whole. -/
theorem run_advance (answer : (call : SourceCall) → σ → Except Error call.Answer × σ) (l : Lookup α)
    (w : Site σ) : (l.advance answer w).1.run (.ofSource answer) (l.advance answer w).2 =
      l.run (.ofSource answer) w := by
  cases l with
  | done a => rfl
  | fail e => rfl
  | cache step next => rfl
  | ask call next =>
      rcases hanswer : answer call w.source with ⟨e | a, s⟩
      · simp only [advance, run, Answering.ofSource, hanswer]
      · simp only [advance, run, Answering.ofSource, hanswer]

/-- Whether a lookup only lets a registry grow and comes to an outcome of which `post` holds, then
and from then on, whatever others do meanwhile. -/
def Ensures (c : Surroundings σ) (post : Except Error α → Site σ → Prop) : Lookup α → Site σ → Prop
  | .done a, w => ∀ w', c.moves w w' → post (.ok a) w'
  | .fail e, w => ∀ w', c.moves w w' → post (.error e) w'
  | .cache step next, w => ∀ w', c.moves w w' →
      w'.registry.Grows (w'.registry.perform step).2 ∧
        Ensures c post (next (w'.registry.perform step).1) ⟨(w'.registry.perform step).2, w'.source⟩
  | .ask call next, w => ∀ w', c.moves w w' → match c.answer call w'.source with
      | (.error e, s) => ∀ w'', c.moves ⟨w'.registry, s⟩ w'' → post (.error e) w''
      | (.ok a, s) =>
          Ensures c post (next (call.receive a w'.registry).1) ⟨(call.receive a w'.registry).2, s⟩

variable {c : Surroundings σ} {post post' : Except Error α → Site σ → Prop} {l : Lookup α}
    {w w' : Site σ}

/-- What others do meanwhile makes no difference: `Ensures` holds after their `moves`, too. -/
theorem ensures_of_moves (h : l.Ensures c post w) (hmoves : c.moves w w') :
    l.Ensures c post w' := by
  cases l with
  | done a => exact fun w'' h' => h w'' (c.trans hmoves h')
  | fail e => exact fun w'' h' => h w'' (c.trans hmoves h')
  | cache step next => exact fun w'' h' => h w'' (c.trans hmoves h')
  | ask call next => exact fun w'' h' => h w'' (c.trans hmoves h')

/-- A lookup ensures what follows from what it ensures and from the growth of the registry since
`base`. -/
theorem ensures_mono {base : Registry} (h : l.Ensures c post w) (hgrows : base.Grows w.registry)
    (himp : ∀ x w', base.Grows w'.registry → post x w' → post' x w') : l.Ensures c post' w := by
  induction l generalizing w with
  | done a => exact fun w' hw => himp _ w' (hgrows.trans (c.grows hw)) (h w' hw)
  | fail e => exact fun w' hw => himp _ w' (hgrows.trans (c.grows hw)) (h w' hw)
  | cache step next ih =>
      intro w' hw
      obtain ⟨hstep, hnext⟩ := h w' hw
      exact ⟨hstep, ih _ hnext ((hgrows.trans (c.grows hw)).trans hstep)⟩
  | ask call next ih =>
      intro w' hw
      have hcall := h w' hw
      have hbase := hgrows.trans (c.grows hw)
      rcases hanswer : c.answer call w'.source with ⟨e | a, s⟩
      · rw [hanswer] at hcall
        intro w'' hw'
        have hgrows' := c.grows hw'
        exact himp _ w'' (hbase.trans hgrows') (hcall w'' hw')
      · rw [hanswer] at hcall
        exact ih _ hcall (hbase.trans (w'.registry.grows_receive call a))

/-- A composed lookup ensures what `f a` ensures wherever `l` may come to `a`. -/
theorem ensures_bind {f : α → Lookup β} {post' : Except Error β → Site σ → Prop}
    (h : l.Ensures c post w) (hok : ∀ a w', post (.ok a) w' → (f a).Ensures c post' w')
    (herror : ∀ e w', post (.error e) w' → post' (.error e) w') : (l.bind f).Ensures c post' w := by
  induction l generalizing w with
  | done a => exact hok a w (h w (c.refl w))
  | fail e => exact fun w' hw => herror e w' (h w' hw)
  | cache step next ih =>
      intro w' hw
      obtain ⟨hstep, hnext⟩ := h w' hw
      exact ⟨hstep, ih _ hnext⟩
  | ask call next ih =>
      intro w' hw
      have hcall := h w' hw
      rcases hanswer : c.answer call w'.source with ⟨e | a, s⟩
      · rw [hanswer] at hcall
        exact fun w'' hw' => herror e w'' (hcall w'' hw')
      · rw [hanswer] at hcall
        exact ih _ hcall

/-- **One request**: the registry `Grows` by it, and the rest of the lookup `Ensures` the same. -/
theorem ensures_advance (h : l.Ensures c post w) :
    w.registry.Grows (l.advance c.answer w).2.registry ∧
      (l.advance c.answer w).1.Ensures c post (l.advance c.answer w).2 := by
  cases l with
  | done a => exact ⟨.refl _, h⟩
  | fail e => exact ⟨.refl _, h⟩
  | cache step next => exact h w (c.refl w)
  | ask call next =>
      have hcall := h w (c.refl w)
      rcases hanswer : c.answer call w.source with ⟨e | a, s⟩
      · rw [hanswer] at hcall
        simp only [advance, hanswer]
        exact ⟨.refl _, hcall⟩
      · rw [hanswer] at hcall
        simp only [advance, hanswer]
        exact ⟨w.registry.grows_receive call a, hcall⟩

/-- **A whole run**: the outcome of a lookup that runs by itself is one that it `Ensures`. -/
theorem ensures_run (h : l.Ensures c post w) :
    post (l.run (.ofSource c.answer) w).1 (l.run (.ofSource c.answer) w).2 := by
  induction l generalizing w with
  | done a => exact h w (c.refl w)
  | fail e => exact h w (c.refl w)
  | cache step next ih => exact ih _ (h w (c.refl w)).2
  | ask call next ih =>
      have hcall := h w (c.refl w)
      unfold run Answering.ofSource
      rcases hanswer : c.answer call w.source with ⟨e | a, s⟩
      · rw [hanswer] at hcall
        exact hcall _ (c.refl _)
      · rw [hanswer] at hcall
        exact ih _ hcall

end Lookup

/-! ## Upkeep -/

/-- Whether a fact `P` about a registry stays true while that grows (`Registry.Grows`). -/
def Registry.Lasting (P : Registry → Prop) : Prop :=
  ∀ r r', r.Grows r' → P r → P r'

/-- What lookups keep up: an invariant of the site that others keep as well, and whether they may
fail. -/
structure Upkeep {σ : Type} (c : Surroundings σ) where
  /-- The invariant. -/
  inv : Site σ → Prop
  /-- Whether a lookup may end with an error. -/
  mayFail : Prop
  /-- Schemas are cached under keys of listed names. -/
  filed : ∀ {w}, inv w → w.registry.Filed
  /-- Others keep the invariant. -/
  stable : ∀ {w w'}, inv w → c.moves w w' → inv w'

namespace Upkeep

open Lookup

variable {σ α β : Type} {c : Surroundings σ} {U : Upkeep c} {pre pre' P : Registry → Prop}
variable {post post' : α → Registry → Prop} {l : Lookup α}

/-- The outcomes that keep up the invariant, with results of which `post` holds. -/
def Kept (U : Upkeep c) (post : α → Registry → Prop) : Except Error α → Site σ → Prop
  | .ok a, w => U.inv w ∧ post a w.registry
  | .error _, w => U.inv w ∧ U.mayFail

/-- The invariant `U.inv` holds after any outcome. -/
theorem Kept.inv {x : Except Error α} {w : Site σ} (h : U.Kept post x w) : U.inv w := by
  cases x with
  | ok a => exact h.1
  | error e => exact h.1

/-- Whether a lookup keeps up the invariant and has results of which `post` holds, in a registry of
which `pre` holds. -/
def Meets (U : Upkeep c) (pre : Registry → Prop) (l : Lookup α) (post : α → Registry → Prop) :
    Prop :=
  ∀ w, U.inv w → pre w.registry → l.Ensures c (U.Kept post) w

/-- A specification follows from one that asks for less and promises more: `Meets` with `pre` and
`post` weakened. -/
theorem Meets.mono (h : U.Meets pre l post) (hpre : ∀ r, pre' r → pre r)
    (hpost : ∀ a r, post a r → post' a r) : U.Meets pre' l post' := by
  intro w hinv hw
  refine ensures_mono (h w hinv (hpre _ hw)) (.refl _) ?_
  intro x w' _ hx
  cases x with
  | ok a => exact ⟨hx.1, hpost a _ hx.2⟩
  | error e => exact hx

/-- The invariant says where schemas are cached. -/
theorem Meets.of_filed (h : U.Meets (fun r => pre r ∧ r.Filed) l post) : U.Meets pre l post :=
  fun w hinv hw => h w hinv ⟨hw, U.filed hinv⟩

/-- What lasts is still true after a lookup: a `Lasting` fact may be added on both sides. -/
theorem Meets.frame (hP : Registry.Lasting P) (h : U.Meets pre l post) :
    U.Meets (fun r => pre r ∧ P r) l fun a r => post a r ∧ P r := by
  intro w hinv hw
  refine ensures_mono (h w hinv hw.1) (.refl _) ?_
  intro x w' hgrows hx
  cases x with
  | ok a => exact ⟨hx.1, hx.2, hP _ _ hgrows hw.2⟩
  | error e => exact hx

/-- `pure a` meets what holds of `a` at once and lasts. -/
theorem meets_pure {a : α} (hpost : Registry.Lasting (post a)) (h : ∀ r, pre r → post a r) :
    U.Meets pre (pure a) post :=
  fun _ hinv hw _ hmoves => ⟨U.stable hinv hmoves, hpost _ _ (c.grows hmoves) (h _ hw)⟩

/-- A composed lookup meets what its parts meet one after another, with `mid` in between. -/
theorem Meets.bind {mid : α → Registry → Prop} {post : β → Registry → Prop} {f : α → Lookup β}
    (h : U.Meets pre l mid) (hf : ∀ a, U.Meets (mid a) (f a) post) : U.Meets pre (l >>= f) post :=
  fun w hinv hw => ensures_bind (h w hinv hw) (fun a w' ha => hf a w' ha.1 ha.2) fun _ _ he => he

/-- A step that only reads meets what holds of what it reads. -/
theorem meets_step {s : CacheStep} {post : s.Reply → Registry → Prop}
    (hread : ∀ r : Registry, (r.perform s).2 = r)
    (h : ∀ r : Registry, pre r → post (r.perform s).1 r) (hpre : Registry.Lasting pre)
    (hpost : ∀ reply, Registry.Lasting (post reply)) :
    U.Meets pre (step s) post := by
  intro w hinv hw w' hmoves
  have hkept : (⟨(w'.registry.perform s).2, w'.source⟩ : Site σ) = w' := by
    rw [hread]
  refine ⟨by rw [hread]; exact .refl _, ?_⟩
  rw [hkept]
  intro w'' hmoves'
  have hhere := h w'.registry (hpre _ _ (c.grows hmoves) hw)
  exact ⟨U.stable (U.stable hinv hmoves) hmoves', hpost _ _ _ (c.grows hmoves') hhere⟩

/-- Whether what a search finds, if it finds something, has the property `Q`. -/
def Found (Q : α → Registry → Prop) (a? : Option α) (r : Registry) : Prop :=
  ∀ a, a? = some a → Q a r

/-- A search through a list finds something with `Q`, if its parts do. -/
theorem meets_findSomeM? {Q : α → Registry → Prop} {f : β → Lookup (Option α)}
    (hQ : ∀ a, Registry.Lasting (Q a)) (h : ∀ b, U.Meets (fun _ => True) (f b) (Found Q))
    (bs : List β) :
    U.Meets (fun _ => True) (bs.findSomeM? f) (Found Q) := by
  have hfound : ∀ a?, Registry.Lasting (Found Q a?) :=
    fun a? r r' hgrows hr a ha => hQ a r r' hgrows (hr a ha)
  induction bs with
  | nil => exact meets_pure (hfound _) (fun _ _ => nofun)
  | cons b rest ih =>
      refine (h b).bind fun a? => ?_
      cases a? with
      | some a => exact meets_pure (hfound _) fun _ hr => hr
      | none => exact ih.mono (fun _ _ => trivial) fun _ _ hr => hr

/-- A lookup for each element of a list meets the specifications of its parts, one for each
(`List.Forall₂`). -/
theorem meets_mapM {P : β → Registry → Prop} {Q : β → α → Registry → Prop} {f : β → Lookup α}
    (hP : ∀ b, Registry.Lasting (P b)) (hQ : ∀ b a, Registry.Lasting (Q b a))
    (h : ∀ b, U.Meets (P b) (f b) (Q b)) (bs : List β) :
    U.Meets (fun r => ∀ b ∈ bs, P b r) (bs.mapM f) fun as r =>
      List.Forall₂ (fun b a => Q b a r) bs as := by
  have hall : ∀ bs as, Registry.Lasting fun r => List.Forall₂ (fun b a => Q b a r) bs as :=
    fun bs as r r' hgrows hr => hr.imp fun b a ha => hQ b a r r' hgrows ha
  induction bs with
  | nil => exact meets_pure (hall _ _) fun _ _ => .nil
  | cons b rest ih =>
      have hrest : Registry.Lasting fun r => ∀ b ∈ rest, P b r :=
        fun r r' hgrows hr b hb => hP b r r' hgrows (hr b hb)
      rw [List.mapM_cons]
      have hfirst := (h b).frame hrest
      refine (hfirst.mono (fun r hr => ?_) fun _ _ hr => hr).bind fun a => ?_
      · exact ⟨hr b List.mem_cons_self, fun b' hb' => hr b' (List.mem_cons_of_mem _ hb')⟩
      · have hsecond := ih.frame (hQ b a)
        refine (hsecond.mono (fun r hr => hr.symm) fun _ _ hr => hr).bind fun as => ?_
        exact meets_pure (hall _ _) fun r hr => .cons hr.2 hr.1

end Upkeep

/-! ## Answers that stand -/

namespace Registry

variable {r r' : Registry}

/-- The keys under which the schema of a name may be cached: that of the canonical name, or that of
the name itself if it is the key of a listed name. The second is the first, except for a name that
is spelled like the key of the nameless schema. -/
def KeyOf (r : Registry) (name : SchemaName) (key : CacheKey) : Prop :=
  ∃ names, r.names = some names ∧ ∃ listed ∈ names, cacheKey listed = key ∧
    (canonicalName? names name = some listed ∨ cacheKey name = key)

/-- Whether a schema, or that there is none, is an answer for `name` that stands in the registry
`r`: the schema is cached under a key of the name (`KeyOf`), or no listed name is its canonical
one. -/
def Answers (r : Registry) (name : SchemaName) : Option Schema → Prop
  | some s => ∃ key, r.KeyOf name key ∧ r.schema? key = some s
  | none => ∃ names, r.names = some names ∧ canonicalName? names name = none

/-- Whether a schema is an answer for some name (`Answers`). -/
def Gives (r : Registry) (s : Schema) : Prop :=
  ∃ name, r.Answers name (some s)

/-- A list of names lasts. -/
theorem lasting_names (names : List SchemaName) : Lasting fun r => r.names = some names :=
  fun _ _ hgrows h => hgrows.names_of names h

/-- A listed name lasts. -/
theorem lasting_lists (name : SchemaName) : Lasting fun r => r.Lists name :=
  fun _ _ hgrows h => h.grows hgrows

/-- A cached schema lasts. -/
theorem lasting_schema (key : CacheKey) (s : Schema) : Lasting fun r => r.schema? key = some s :=
  fun _ _ hgrows h => hgrows.schema_of key s h

/-- An answer lasts. -/
theorem lasting_answers (name : SchemaName) (s? : Option Schema) :
    Lasting fun r => r.Answers name s? := by
  intro r r' hgrows h
  cases s? with
  | none =>
      obtain ⟨names, hnames, hnone⟩ := h
      exact ⟨names, hgrows.names_of names hnames, hnone⟩
  | some s =>
      obtain ⟨key, ⟨names, hnames, hkey⟩, hs⟩ := h
      exact ⟨key, ⟨names, hgrows.names_of names hnames, hkey⟩, hgrows.schema_of key s hs⟩

/-- A schema that is an answer lasts. -/
theorem lasting_gives (s : Schema) : Lasting fun r => r.Gives s := by
  rintro r r' hgrows ⟨name, h⟩
  exact ⟨name, lasting_answers name _ r r' hgrows h⟩

/-- A listed name is its own canonical name, by `canonicalName?`. -/
theorem canonicalName?_of_mem {names : List SchemaName} {name : SchemaName} (h : name ∈ names) :
    canonicalName? names name = some name := by
  cases name with
  | none =>
      unfold canonicalName?
      rw [if_pos (List.contains_iff_mem.mpr h)]
  | some n =>
      have hmem : n ∈ names.filterMap id := List.mem_filterMap.mpr ⟨some n, h, rfl⟩
      have hfound : (names.filterMap id).find? (· == n) = some n := by
        rcases hfind : (names.filterMap id).find? (· == n) with _ | m
        · have hnot := List.find?_eq_none.mp hfind n hmem
          exact absurd (beq_self_eq_true n) hnot
        · have hname := List.find?_some hfind
          rw [beq_iff_eq.mp hname]
      simp only [canonicalName?, hfound]
      rfl

/-- A canonical name is listed. -/
theorem mem_of_canonicalName? {names : List SchemaName} {name listed : SchemaName}
    (h : canonicalName? names name = some listed) : listed ∈ names := by
  cases name with
  | none =>
      unfold canonicalName? at h
      by_cases hmem : names.contains none = true
      · rw [if_pos hmem] at h
        obtain rfl := Option.some.inj h
        exact List.contains_iff_mem.mp hmem
      · rw [if_neg hmem] at h
        cases h
  | some n =>
      obtain ⟨m, hm, rfl⟩ := Option.map_eq_some_iff.mp h
      have hmem : m ∈ names.filterMap id := by
        rcases hexact : (names.filterMap id).find? (· == n) with _ | n'
        · rw [hexact] at hm
          exact List.mem_of_find?_eq_some hm
        · rw [hexact] at hm
          obtain rfl : n' = m := Option.some.inj hm
          exact List.mem_of_find?_eq_some hexact
      obtain ⟨listed, hlisted, hsome⟩ := List.mem_filterMap.mp hmem
      exact hsome ▸ hlisted

/-- The canonical name of `n` differs from it in case alone, and is `n` if that is listed. -/
theorem canonicalName?_some {names : List SchemaName} {n : String} {listed : SchemaName}
    (h : canonicalName? names (some n) = some listed) :
    ∃ m, listed = some m ∧ Text.equalIgnoringCase m n = true ∧ (some n ∈ names → m = n) := by
  have hkept : some n ∈ names → listed = some n :=
    fun hmem => Option.some.inj (h.symm.trans (canonicalName?_of_mem hmem))
  obtain ⟨m, hm, rfl⟩ := Option.map_eq_some_iff.mp h
  refine ⟨m, rfl, ?_, fun hmem => Option.some.inj (hkept hmem)⟩
  rcases hexact : (names.filterMap id).find? (· == n) with _ | m'
  · rw [hexact] at hm
    have hfound : (names.filterMap id).find? (fun k => Text.equalIgnoringCase k n) = some m := hm
    have hsame := List.find?_some hfound
    exact hsame
  · rw [hexact] at hm
    obtain rfl : m' = m := Option.some.inj hm
    have hname := List.find?_some hexact
    rw [beq_iff_eq.mp hname]
    exact Text.equalIgnoringCase_iff.mpr rfl

/-- The canonical name of the nameless schema is its own. -/
theorem canonicalName?_none {names : List SchemaName} {listed : SchemaName}
    (h : canonicalName? names none = some listed) : listed = none := by
  unfold canonicalName? at h
  by_cases hmem : names.contains none = true
  · rw [if_pos hmem] at h
    exact (Option.some.inj h).symm
  · rw [if_neg hmem] at h
    cases h

/-- A schema that is cached under `cacheKey name` is an answer for `name`, if schemas are
`Filed`. -/
theorem answers_of_schema? {name : SchemaName} {s : Schema} (hfiled : r.Filed)
    (h : r.schema? (cacheKey name) = some s) : r.Answers name (some s) := by
  obtain ⟨listed, ⟨names, hnames, hlisted⟩, hkey⟩ := hfiled _ s h
  exact ⟨cacheKey name, ⟨names, hnames, listed, hlisted, hkey, .inr rfl⟩, h⟩

/-- A schema that is cached under the key of a canonical name is an answer. -/
theorem answers_of_canonicalName? {names : List SchemaName} {name listed : SchemaName} {s : Schema}
    (hnames : r.names = some names) (hcanonical : canonicalName? names name = some listed)
    (h : r.schema? (cacheKey listed) = some s) : r.Answers name (some s) :=
  ⟨cacheKey listed,
    ⟨names, hnames, listed, mem_of_canonicalName? hcanonical, rfl, .inl hcanonical⟩, h⟩

end Registry

namespace Upkeep

open Lookup Registry

variable {σ α : Type} {c : Surroundings σ} {U : Upkeep c}

/-- The specifications of the lookups that call the source, from which those of all other lookups
follow. -/
structure Sound (U : Upkeep c) : Prop where
  /-- The names that are answered are cached. -/
  names : U.Meets (fun _ => True) schemaNames fun names r => r.names = some names
  /-- The schema of a listed name is cached under its key. -/
  schema : ∀ name, U.Meets (·.Lists name) (listedSchema name) fun s r =>
    r.schema? (cacheKey name) = some s
  /-- The source may be asked for its default. -/
  default : U.Meets (fun _ => True) (call .defaultName) fun _ _ => True

/-- **Calls to the source**: the specifications hold if the invariant is kept by a call that fails,
by the names that are listed and stored, by a schema that is missing or is loaded and published, and
by the default. Others may come in between. -/
theorem sound_of_calls
    (hfails : ∀ (call : SourceCall) w e s, U.inv w → c.answer call w.source = (.error e, s) →
      U.inv ⟨w.registry, s⟩ ∧ U.mayFail)
    (hlists : ∀ w w' listed s, U.inv w → w.registry.names = none → c.moves w w' →
      c.answer .listNames w'.source = (.ok listed, s) → ∀ w'', c.moves ⟨w'.registry, s⟩ w'' →
        U.inv ⟨(w''.registry.perform (.storeNames (sortNames listed))).2, w''.source⟩)
    (hmissing : ∀ name w s, U.inv w → w.registry.Lists name →
      c.answer (.load name) w.source = (.ok none, s) →
      U.inv ⟨w.registry, s⟩ ∧ U.mayFail)
    (hloads : ∀ name w w' d s, U.inv w → w.registry.Lists name →
      w.registry.schema? (cacheKey name) = none → c.moves w w' →
      c.answer (.load name) w'.source = (.ok (some d), s) →
        ∀ w'', c.moves ⟨(w'.registry.build d).2, s⟩ w'' →
        U.inv ⟨(w''.registry.perform (.publish (cacheKey name) (w'.registry.build d).1)).2,
          w''.source⟩)
    (hdefault : ∀ w name? s, U.inv w → c.answer .defaultName w.source = (.ok name?, s) →
      U.inv ⟨w.registry, s⟩) : U.Sound where
  names := by
    intro w hinv _ w₁ h₁
    refine ⟨.refl _, ?_⟩
    have hinv₁ := U.stable hinv h₁
    rcases hnames : (w₁.registry.perform .readNames).1 with _ | names
    · intro w₂ h₂
      rcases hanswer : c.answer .listNames w₂.source with ⟨e | listed, s⟩
      · obtain ⟨hinv₂, hfail⟩ := hfails _ w₂ e s (U.stable hinv₁ h₂) hanswer
        intro w₃ h₃
        exact ⟨U.stable hinv₂ h₃, hfail⟩
      · intro w₃ h₃
        refine ⟨grows_storeNames _ _, ?_⟩
        intro w₄ h₄
        have hinv₃ := hlists w₁ w₂ listed s hinv₁ hnames h₂ hanswer w₃ h₃
        exact ⟨U.stable hinv₃ h₄, (c.grows h₄).names_of _ (names_perform_storeNames _ _)⟩
    · intro w₂ h₂
      exact ⟨U.stable hinv₁ h₂, (c.grows h₂).names_of _ hnames⟩
  schema name := by
    intro w hinv hname w₁ h₁
    refine ⟨.refl _, ?_⟩
    have hinv₁ := U.stable hinv h₁
    have hname₁ := hname.grows (c.grows h₁)
    rcases hcached : (w₁.registry.perform (.readSchema (cacheKey name))).1 with _ | s
    · intro w₂ h₂
      have hinv₂ := U.stable hinv₁ h₂
      have hname₂ := hname₁.grows (c.grows h₂)
      rcases hanswer : c.answer (.load name) w₂.source with ⟨e | _ | d, s⟩
      · obtain ⟨hkept, hfail⟩ := hfails _ w₂ e s hinv₂ hanswer
        intro w₃ h₃
        exact ⟨U.stable hkept h₃, hfail⟩
      · obtain ⟨hkept, hfail⟩ := hmissing name w₂ s hinv₂ hname₂ hanswer
        intro w₃ h₃
        exact ⟨U.stable hkept h₃, hfail⟩
      · intro w₃ h₃
        have hbuilt : w₂.registry.Grows (w₂.registry.build d).2 :=
          grows_receive _ (.load name) (some d)
        have hname₃ := (hname₂.grows hbuilt).grows (c.grows h₃)
        refine ⟨grows_publish hname₃ _, ?_⟩
        intro w₄ h₄
        have hinv₃ := hloads name w₁ w₂ d s hinv₁ hname₁ hcached h₂ hanswer w₃ h₃
        exact ⟨U.stable hinv₃ h₄, (c.grows h₄).schema_of _ _ (schema?_perform_publish _ _ _)⟩
    · intro w₂ h₂
      exact ⟨U.stable hinv₁ h₂, (c.grows h₂).schema_of _ _ hcached⟩
  default := by
    intro w hinv _ w₁ h₁
    have hinv₁ := U.stable hinv h₁
    rcases hanswer : c.answer .defaultName w₁.source with ⟨e | name?, s⟩
    · obtain ⟨hkept, hfail⟩ := hfails _ w₁ e s hinv₁ hanswer
      intro w₂ h₂
      exact ⟨U.stable hkept h₂, hfail⟩
    · intro w₂ h₂
      exact ⟨U.stable (hdefault w₁ name? s hinv₁ hanswer) h₂, trivial⟩

/-- What is read under a key is cached there. -/
theorem meets_readSchema (key : CacheKey) :
    U.Meets (fun _ => True) (step (.readSchema key)) fun s? r => ∀ s, s? = some s →
      r.schema? key = some s :=
  meets_step (fun _ => rfl) (fun _ _ _ hs => hs) (fun _ _ _ _ => trivial)
    fun _ r r' hgrows h s hs => lasting_schema key s r r' hgrows (h s hs)

/-- What `schemaByName? name` gives `Answers` the name in the registry that is left. -/
theorem Sound.meets_schemaByName? (h : U.Sound) (name : SchemaName) :
    U.Meets (fun _ => True) (schemaByName? name) fun s? r => r.Answers name s? := by
  refine (meets_readSchema (cacheKey name)).bind fun s? => ?_
  cases s? with
  | some s =>
      refine Meets.of_filed (meets_pure (lasting_answers name _) ?_)
      rintro r ⟨hcached, hfiled⟩
      exact answers_of_schema? hfiled (hcached s rfl)
  | none =>
      refine (h.names.mono (fun _ _ => trivial) fun _ _ hr => hr).bind fun names => ?_
      rcases hcanonical : canonicalName? names name with _ | listed
      · simp only
        exact meets_pure (lasting_answers name _) fun r hr => ⟨names, hr, hcanonical⟩
      · simp only
        have hlisted := (h.schema listed).frame (lasting_names names)
        refine (hlisted.mono (fun r hr => ?_) fun _ _ hr => hr).bind fun s => ?_
        · exact ⟨⟨names, hr, mem_of_canonicalName? hcanonical⟩, hr⟩
        · exact meets_pure (lasting_answers name _) fun r hr =>
            answers_of_canonicalName? hr.2 hcanonical hr.1

/-- What `schemas` gives are the schemas that are cached under the keys of the listed names, in
their order. -/
theorem Sound.meets_schemas (h : U.Sound) :
    U.Meets (fun _ => True) schemas fun ss r => ∃ names, r.names = some names ∧
      List.Forall₂ (fun name s => r.schema? (cacheKey name) = some s) names ss := by
  refine h.names.bind fun names => ?_
  have hall := (meets_mapM lasting_lists (fun name s => lasting_schema (cacheKey name) s) h.schema
    names).frame (lasting_names names)
  refine hall.mono (fun r hr => ⟨fun name hname => ⟨names, hr, hname⟩, hr⟩) ?_
  intro ss r hr
  exact ⟨names, hr.2, hr.1⟩

/-- A schema that is found lasts. -/
theorem lasting_found_gives (s? : Option Schema) : Lasting (Found (fun s r => r.Gives s) s?) :=
  fun r r' hgrows h s hs => lasting_gives s r r' hgrows (h s hs)

/-- The schema of a name, whatever the name is. -/
theorem Sound.meets_gives (h : U.Sound) (name : SchemaName) :
    U.Meets (fun _ => True) (schemaByName? name) (Found fun s r => r.Gives s) := by
  refine (h.meets_schemaByName? name).mono (fun _ hr => hr) ?_
  rintro s? r hr s rfl
  exact ⟨name, hr⟩

/-- The schema of a name that may not be set. -/
theorem Sound.meets_schemaIfSet? (h : U.Sound) (name? : Option String) :
    U.Meets (fun _ => True) (schemaIfSet? name?) (Found fun s r => r.Gives s) := by
  cases name? with
  | none => exact meets_pure (lasting_found_gives _) fun _ _ => nofun
  | some name => exact h.meets_gives (some name)

/-- The schema with the most tables, or the best one so far. -/
theorem Sound.meets_fullestSchema? (h : U.Sound) (best : Option Schema) (names : List SchemaName) :
    U.Meets (Found (fun s r => r.Gives s) best) (fullestSchema? best names)
      (Found fun s r => r.Gives s) := by
  induction names generalizing best with
  | nil => exact meets_pure (lasting_found_gives _) fun _ hr => hr
  | cons name rest ih =>
      unfold Lookup.fullestSchema?
      split
      · exact ih best
      · have hname := (h.meets_gives name).frame (lasting_found_gives best)
        refine (hname.mono (fun r hr => ⟨trivial, hr⟩) fun _ _ hr => hr).bind fun s? => ?_
        cases s? with
        | none => exact (ih best).mono (fun _ hr => hr.2) fun _ _ hr => hr
        | some s =>
            dsimp only
            split
            · exact (ih (some s)).mono (fun _ hr => hr.1) fun _ _ hr => hr
            · exact (ih best).mono (fun _ hr => hr.2) fun _ _ hr => hr

/-- What `defaultSchema?` finds is an answer for some name (`Gives`). -/
theorem Sound.meets_defaultSchema? (h : U.Sound) :
    U.Meets (fun _ => True) defaultSchema? (Found fun s r => r.Gives s) := by
  have hpreferred : U.Meets (fun _ => True) (step .readPreferred) fun _ _ => True :=
    meets_step (fun _ => rfl) (fun _ _ => trivial) (fun _ _ _ _ => trivial) fun _ _ _ _ _ => trivial
  refine hpreferred.bind fun preferred => (h.meets_schemaIfSet? preferred).bind fun s? => ?_
  cases s? with
  | some s => exact meets_pure (lasting_found_gives _) fun _ hr => hr
  | none =>
      refine (h.default.mono (fun _ _ => trivial) fun _ _ hr => hr).bind fun name? => ?_
      refine (h.meets_schemaIfSet? name?).bind fun s? => ?_
      cases s? with
      | some s => exact meets_pure (lasting_found_gives _) fun _ hr => hr
      | none =>
          refine (h.names.mono (fun _ _ => trivial) fun _ _ hr => hr).bind fun names => ?_
          split
          · exact (h.meets_gives _).mono (fun _ _ => trivial) fun _ _ hr => hr
          · exact (h.meets_fullestSchema? none _).mono (fun _ _ => nofun) fun _ _ hr => hr

/-! ## Labels -/

/-- Whether `a` is what `find` gives in a schema that is an answer for some name. -/
def InGiven (find : Schema → List Char → Option α) (a : α) (r : Registry) : Prop :=
  ∃ s path, r.Gives s ∧ find s path = some a

/-- What is found in a schema lasts. -/
theorem lasting_inGiven (find : Schema → List Char → Option α) (a : α) :
    Lasting (InGiven find a) := by
  rintro r r' hgrows ⟨s, path, hs, hfound⟩
  exact ⟨s, path, lasting_gives s r r' hgrows hs, hfound⟩

variable {find : Schema → List Char → Option α}

/-- What is found in an optional schema lasts. -/
theorem lasting_found_inGiven (a? : Option α) : Lasting (Found (InGiven find) a?) :=
  fun r r' hgrows h a ha => lasting_inGiven find a r r' hgrows (h a ha)

/-- What a path names in a schema that was found. -/
theorem found_of_bind {r : Registry} {s? : Option Schema} (path : List Char)
    (h : Found (fun s r => r.Gives s) s? r) :
    Found (InGiven find) (s?.bind fun s => find s path) r := by
  intro a ha
  obtain ⟨s, hs, hfound⟩ := Option.bind_eq_some_iff.mp ha
  exact ⟨s, path, h s hs, hfound⟩

/-- What a path names in the schema of a name. -/
theorem Sound.meets_inSchema? (h : U.Sound) (name : SchemaName) (path : List Char) :
    U.Meets (fun _ => True) (inSchema? find name path) (Found (InGiven find)) :=
  (h.meets_gives name).bind fun _ => meets_pure (lasting_found_inGiven _) fun _ hr =>
    found_of_bind path hr

/-- What a label names whose front is a schema name. -/
theorem Sound.meets_afterSchema? (h : U.Sound) (case : Label.Case) (label : List Char)
    (name : String) :
    U.Meets (fun _ => True) (afterSchema? find case label name) (Found (InGiven find)) := by
  unfold afterSchema?
  split
  · exact h.meets_inSchema? _ _
  · exact meets_pure (lasting_found_inGiven _) fun _ _ => nofun

/-- What a label names in the schema of a listed name. -/
theorem Sound.meets_inListed? (h : U.Sound) (label : List Char) (name : SchemaName) :
    U.Meets (fun _ => True) (inListed? find label name) (Found (InGiven find)) := by
  cases name with
  | none => exact h.meets_inSchema? none label
  | some name => exact h.meets_afterSchema? .sensitive label name

/-- What `resolve? find label` finds is what `find` gives in such a schema. -/
theorem Sound.meets_resolve? (h : U.Sound) (label : String) :
    U.Meets (fun _ => True) (resolve? find label) (Found (InGiven find)) := by
  unfold resolve?
  dsimp only
  split
  · exact meets_pure (lasting_found_inGiven _) fun _ _ => nofun
  · refine h.names.bind fun names => ?_
    have hexact :=
      meets_findSomeM? (lasting_inGiven find) (h.meets_inListed? (Label.normalize label)) names
    refine (hexact.mono (fun _ _ => trivial) fun _ _ hr => hr).bind fun a? => ?_
    cases a? with
    | some a => exact meets_pure (lasting_found_inGiven _) fun _ hr => hr
    | none =>
        have hfolded := meets_findSomeM? (lasting_inGiven find)
          (h.meets_afterSchema? .insensitive (Label.normalize label)) (names.filterMap id)
        refine (hfolded.mono (fun _ _ => trivial) fun _ _ hr => hr).bind fun a? => ?_
        cases a? with
        | some a => exact meets_pure (lasting_found_inGiven _) fun _ hr => hr
        | none =>
            refine (h.meets_defaultSchema?.mono (fun _ _ => trivial) fun _ _ hr =>
              hr).bind fun s? => ?_
            exact meets_pure (lasting_found_inGiven _) fun _ hr => found_of_bind _ hr

end Upkeep

/-! ## Requests -/

/-- What can be looked up, with an `Answer` and a `lookup` for each. -/
inductive Request where
  /-- The names of the schemas. -/
  | names
  /-- The schema of a name. -/
  | schema (name : SchemaName)
  /-- All schemas. -/
  | schemas
  /-- The default schema. -/
  | default
  /-- The table that a label names. -/
  | table (label : String)
  /-- The column that a label names. -/
  | column (label : String)
deriving DecidableEq

namespace Request

/-- What is answered to a request. -/
abbrev Answer : Request → Type
  | names => List SchemaName
  | schema _ => Option Schema
  | schemas => List Schema
  | default => Option Schema
  | table _ => Option Table
  | column _ => Option Column

/-- How a request is looked up. -/
def lookup : (q : Request) → Lookup q.Answer
  | names => Lookup.schemaNames
  | schema name => Lookup.schemaByName? name
  | schemas => Lookup.schemas
  | default => Lookup.defaultSchema?
  | table label => Lookup.tableByLabel? label
  | column label => Lookup.columnByLabel? label

/-- Whether an answer stands in a registry: it is what is cached there, and what any other lookup
would give. -/
def Stands (r : Registry) : (q : Request) → q.Answer → Prop
  | names, listed => r.names = some listed
  | schema name, s? => r.Answers name s?
  | schemas, ss => ∃ names, r.names = some names ∧
      List.Forall₂ (fun name s => r.schema? (cacheKey name) = some s) names ss
  | default, s? => ∀ s, s? = some s → r.Gives s
  | table _, t? => ∀ t, t? = some t → ∃ s path, r.Gives s ∧ s.tableByPath? path = some t
  | column _, c? => ∀ c, c? = some c → ∃ s path, r.Gives s ∧ s.columnByPath? path = some c

end Request

/-- **Requests**: the answers of all lookups stand (`Stands`), under any upkeep that is `Sound`. -/
theorem Upkeep.Sound.lookup {σ : Type} {c : Surroundings σ} {U : Upkeep c} (h : U.Sound)
    (q : Request) :
    U.Meets (fun _ => True) q.lookup fun a r => q.Stands r a := by
  cases q with
  | names => exact h.names
  | schema name => exact h.meets_schemaByName? name
  | schemas => exact h.meets_schemas
  | default => exact h.meets_defaultSchema?
  | table label => exact h.meets_resolve? label
  | column label => exact h.meets_resolve? label

end DataAccess.Catalog
