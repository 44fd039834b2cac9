import DataAccess.Proofs.LookupRules
import Mathlib.Data.List.Basic
import Mathlib.Logic.Function.Basic

/-!
# Build history: the declaration behind an identity

Every build of a schema has an identity of its own, so whoever knows the identity of a table knows
the table, whether or not its schema is still cached. What has been built is not stored anywhere.
Here it is written down beside the registry, and followed through everything that a lookup may do
while others do what they want, refreshes included.

* **Builds** (`Builds.Made`): what has been built under each identity. Two tables with one identity
  are one table (`Builds.MadeTable.eq`).
* **Archives** (`Archive.Genuine`): a registry in which nothing is cached but what has been built.
* **Courses** (`Lookup.Comes`): what a lookup may come to, with others between any two requests.
* **Keeping** (`Lookup.Keeps`): a lookup publishes nothing but what has been built, and has results
  of which something holds at that point of the history. So has each course of it
  (`Lookup.Keeps.comes`), and running it is one (`Lookup.Keeps.comes_run`).
* **Labels** (`keeps_resolve?`): what a label names is found in a schema that has been built.
-/

namespace DataAccess.Catalog

/-! ## Builds -/

/-- The declarations that have been built, by the `SchemaId` that they were given. -/
abbrev Builds := SchemaId → Option SchemaDecl

namespace Builds

variable {b b' b'' : Builds} {s s' : Schema} {t t' : Table}

/-- Whether the schema `s` has been built: it is `d.build s.id` for the declaration `d` under its
identity. -/
def Made (b : Builds) (s : Schema) : Prop :=
  ∃ d, b s.id = some d ∧ s = d.build s.id

/-- Whether the table `t` has been built, as one of a schema that is `Made`. -/
def MadeTable (b : Builds) (t : Table) : Prop :=
  ∃ s, b.Made s ∧ t ∈ s.tables

/-- What has been built after one more build, of `d` under `id`. -/
def record (b : Builds) (id : SchemaId) (d : SchemaDecl) : Builds :=
  Function.update b id (some d)

/-- What has been built after an answer of the source, if that is the next identity. -/
def receive (b : Builds) : (call : SourceCall) → call.Answer → SchemaId → Builds
  | .load _, some d, id => b.record id d
  | .load _, none, _ | .listNames, _, _ | .defaultName, _, _ => b

/-- Whether all that has been built by `b` stays known in `b'`. -/
def Extends (b' b : Builds) : Prop :=
  ∀ id d, b id = some d → b' id = some d

/-- `Builds.Extends` is reflexive. -/
theorem Extends.refl (b : Builds) : b.Extends b :=
  fun _ _ h => h

/-- `Builds.Extends` is transitive. -/
theorem Extends.trans (h' : b''.Extends b') (h : b'.Extends b) : b''.Extends b :=
  fun id d hd => h' id d (h id d hd)

/-- `b.record id d` extends `b` if `id` is new. -/
theorem extends_record {id : SchemaId} (h : b id = none) (d : SchemaDecl) :
    (b.record id d).Extends b := by
  intro id' d' hd'
  have hid : id' ≠ id := by
    rintro rfl
    cases h.symm.trans hd'
  rw [record, Function.update_of_ne hid]
  exact hd'

/-- `Made` is kept by `Extends`. -/
theorem Made.mono (h : b.Made s) (hb : b'.Extends b) : b'.Made s := by
  obtain ⟨d, hd, hs⟩ := h
  exact ⟨d, hb _ d hd, hs⟩

/-- `MadeTable` is kept by `Extends`. -/
theorem MadeTable.mono (h : b.MadeTable t) (hb : b'.Extends b) : b'.MadeTable t := by
  obtain ⟨s, hs, ht⟩ := h
  exact ⟨s, hs.mono hb, ht⟩

/-- A table of `d.build id` is built from the declaration at its position in `d.tables`. -/
theorem exists_of_mem_tables {d : SchemaDecl} {id : SchemaId} (h : t ∈ (d.build id).tables) :
    t.ref.key.schema = id ∧ ∃ td, d.tables[t.ref.key.position]? = some td ∧
      t = td.build id d.name t.ref.key.position := by
  obtain ⟨⟨td, position⟩, hmem, rfl⟩ := List.mem_map.mp h
  exact ⟨rfl, td, List.mk_mem_zipIdx_iff_getElem?.mp hmem, rfl⟩

/-- **Identity**: two tables that have been built under one identity (`ref.key`) are one table. -/
theorem MadeTable.eq (h : b.MadeTable t) (h' : b.MadeTable t') (hkey : t.ref.key = t'.ref.key) :
    t = t' := by
  obtain ⟨s, ⟨d, hd, hs⟩, ht⟩ := h
  obtain ⟨s', ⟨d', hd', hs'⟩, ht'⟩ := h'
  rw [hs] at ht
  rw [hs'] at ht'
  obtain ⟨hid, td, htd, ht⟩ := exists_of_mem_tables ht
  obtain ⟨hid', td', htd', ht'⟩ := exists_of_mem_tables ht'
  rw [← hid] at hd
  rw [← hid', ← hkey, hd] at hd'
  obtain rfl := Option.some.inj hd'
  rw [← hkey, htd] at htd'
  obtain rfl := Option.some.inj htd'
  rw [ht, ht', ← hid, ← hid', hkey]

/-- Each column of a table that has been built knows the table: `c.owner = t.ref`. -/
theorem MadeTable.owner_eq (h : b.MadeTable t) {c : Column} (hc : c ∈ t.columns) :
    c.owner = t.ref := by
  obtain ⟨s, ⟨d, -, hs⟩, ht⟩ := h
  rw [hs] at ht
  obtain ⟨-, td, -, ht⟩ := exists_of_mem_tables ht
  rw [ht] at hc ⊢
  obtain ⟨_, -, rfl⟩ := List.mem_map.mp hc
  rfl

end Builds

/-! ## Archives -/

/-- A registry and what has been built (`Builds`), by whomever, so far. -/
structure Archive where
  /-- The registry. -/
  registry : Registry
  /-- What has been built. -/
  builds : Builds

namespace Archive

variable {w w' w'' : Archive}

/-- Whether nothing is cached but what has been built (`Made`), and the next identity has not been
given. -/
structure Genuine (w : Archive) : Prop where
  /-- The cached schemas. -/
  cached : ∀ key s, w.registry.schema? key = some s → w.builds.Made s
  /-- The identities that have not been given. -/
  unused : ∀ id, w.registry.nextId ≤ id → w.builds id = none

/-- Whether the archive `w'` may come of `w`, whoever uses its registry and whatever else is built:
it is `Genuine`, and nothing that was built is forgotten (`Extends`). -/
def Becomes (w w' : Archive) : Prop :=
  w'.Genuine ∧ w'.builds.Extends w.builds

/-- `Archive.Becomes` is transitive. -/
theorem Becomes.trans (h : w.Becomes w') (h' : w'.Becomes w'') : w.Becomes w'' :=
  ⟨h'.1, h'.2.trans h.2⟩

/-- An archive after a step on the cache. -/
def perform (w : Archive) (step : CacheStep) : Archive :=
  { w with registry := (w.registry.perform step).2 }

/-- An archive after an answer of the source, which is built if it is a declaration. -/
def receive (w : Archive) (call : SourceCall) (a : call.Answer) : Archive :=
  ⟨(call.receive a w.registry).2, w.builds.receive call a w.registry.nextId⟩

/-- A new registry. -/
theorem genuine_new (preferred : Option String) (firstId : SchemaId) :
    Genuine ⟨{ preferred, nextId := firstId }, fun _ => none⟩ :=
  ⟨nofun, fun _ _ => rfl⟩

/-- A refreshed registry. -/
theorem Genuine.refresh (h : w.Genuine) : w.Becomes { w with registry := w.registry.refresh } :=
  ⟨⟨nofun, h.unused⟩, .refl _⟩

/-- A step on the cache that publishes nothing but what has been built leads to an archive that
`w.Becomes`. -/
theorem Genuine.perform (h : w.Genuine) {step : CacheStep}
    (hstep : ∀ key s, step = .publish key s → w.builds.Made s) : w.Becomes (w.perform step) := by
  refine ⟨⟨?_, ?_⟩, .refl _⟩
  · intro key s hs
    cases step with
    | publish key' s' =>
        by_cases hkey : key = key'
        · subst hkey
          rcases hcached : w.registry.schema? key with _ | present
          · rw [Archive.perform, Registry.schema?_perform_publish,
              Registry.perform_publish_of_none hcached] at hs
            exact Option.some.inj hs ▸ hstep key s' rfl
          · rw [Archive.perform, Registry.perform_publish_of_some hcached] at hs
            exact h.cached key s hs
        · rw [Archive.perform, Registry.schema?_perform_publish_of_ne w.registry s' hkey] at hs
          exact h.cached key s hs
    | storeNames names =>
        refine h.cached key s ?_
        rw [← hs]
        unfold Archive.perform Registry.perform
        cases w.registry.names <;> rfl
    | _ => exact h.cached key s hs
  · have hnext : (w.registry.perform step).2.nextId = w.registry.nextId := by
      unfold Registry.perform
      split
      · rfl
      · rfl
      · split <;> rfl
      · rfl
      · split <;> rfl
    exact fun id hid => h.unused id (hnext ▸ hid)

/-- An answer that is received leads to an archive that `w.Becomes`: a declaration is built under an
identity that was not given. -/
theorem Genuine.receive (h : w.Genuine) (call : SourceCall) (a : call.Answer) :
    w.Becomes (w.receive call a) := by
  have hsame : w.Becomes w := ⟨h, .refl _⟩
  cases call with
  | listNames => exact hsame
  | defaultName => exact hsame
  | load name =>
      cases a with
      | none => exact hsame
      | some d =>
          have hextends : (w.builds.record w.registry.nextId d).Extends w.builds :=
            Builds.extends_record (h.unused _ (Nat.le_refl _)) d
          refine ⟨⟨fun key s hs => (h.cached key s hs).mono hextends, fun id hid => ?_⟩, hextends⟩
          have hlt : w.registry.nextId < id := hid
          have hother : (w.builds.record w.registry.nextId d) id = w.builds id :=
            Function.update_of_ne (Nat.ne_of_gt hlt) ..
          exact hother.trans (h.unused id (Nat.le_of_lt hlt))

/-- The schema that is answered to `.publish` has been built, be it this one or one that was there
before. -/
theorem Genuine.made_publish (h : w.Genuine) (key : CacheKey) {s : Schema} (hs : w.builds.Made s) :
    w.builds.Made (w.registry.perform (.publish key s)).1 := by
  have hpublished : w.Becomes (w.perform (.publish key s)) := by
    refine h.perform ?_
    rintro _ _ ⟨⟩
    exact hs
  exact hpublished.1.cached key _ (w.registry.schema?_perform_publish key s)

/-- A schema that is received has been built. -/
theorem made_receive (name : SchemaName) (d : SchemaDecl) (w : Archive) :
    (w.receive (.load name) (some d)).builds.Made (w.registry.build d).1 :=
  ⟨d, Function.update_self .., rfl⟩

end Archive

/-! ## Courses -/

namespace Lookup

variable {σ α β : Type}

/-- The outcomes of a lookup, and what has become of the archive by then. Between two requests, and
while the source works on its answer, others may do what they want (`Becomes`). -/
inductive Comes : Lookup α → Archive → Except Error α → Archive → Prop where
  /-- The lookup has ended with a result. -/
  | done (a : α) (w : Archive) : Comes (.done a) w (.ok a) w
  /-- The lookup has ended with an error. -/
  | fail (e : Error) (w : Archive) : Comes (.fail e) w (.error e) w
  /-- Others do something. -/
  | others {l : Lookup α} {w w' w'' : Archive} {x : Except Error α} (h : w.Becomes w')
      (hrest : Comes l w' x w'') : Comes l w x w''
  /-- The lookup takes a step on the cache. -/
  | cache {step : CacheStep} {next : step.Reply → Lookup α} {w w' : Archive} {x : Except Error α}
      (hrest : Comes (next (w.registry.perform step).1) (w.perform step) x w') :
      Comes (.cache step next) w x w'
  /-- The source answers. -/
  | answer {call : SourceCall} {next : call.Reply → Lookup α} {w w' : Archive} {x : Except Error α}
      (a : call.Answer)
        (hrest : Comes (next (call.receive a w.registry).1) (w.receive call a) x w') :
      Comes (.ask call next) w x w'
  /-- The source fails. -/
  | refuse {call : SourceCall} {next : call.Reply → Lookup α} (e : Error) (w : Archive) :
      Comes (.ask call next) w (.error e) w

/-! ## Keeping -/

/-- Whether a lookup publishes nothing but what has been built, and has results of which `post`
holds then. -/
def Keeps (post : Builds → α → Prop) (b : Builds) : Lookup α → Prop
  | .done a => post b a
  | .fail _ => True
  | .cache step next => (∀ key s, step = .publish key s → b.Made s) ∧
      ∀ w : Archive, w.Genuine → w.builds.Extends b →
        Keeps post w.builds (next (w.registry.perform step).1)
  | .ask call next => ∀ (w : Archive) (a : call.Answer), w.Genuine → w.builds.Extends b →
      Keeps post (w.receive call a).builds (next (call.receive a w.registry).1)

/-- Whether something that holds stays so, whatever else is built (`Builds.Extends`). -/
def Stays (post : Builds → α → Prop) : Prop :=
  ∀ ⦃b b'⦄ a, b'.Extends b → post b a → post b' a

variable {post post' : Builds → α → Prop} {b b' : Builds} {l : Lookup α}

/-- What else is built makes no difference to `Keeps`. -/
theorem Keeps.extends (hpost : Stays post) (h : l.Keeps post b) (hb : b'.Extends b) :
    l.Keeps post b' := by
  cases l with
  | done a => exact hpost a hb h
  | fail e => exact h
  | cache step next =>
      exact ⟨fun key s hs => (h.1 key s hs).mono hb, fun w hw hw' => h.2 w hw (hw'.trans hb)⟩
  | ask call next => exact fun w a hw hw' => h w a hw (hw'.trans hb)

/-- A composed lookup `l >>= f` keeps what `f a` keeps after each result `a` of `l`. -/
theorem Keeps.bind {f : α → Lookup β} {post' : Builds → β → Prop} (h : l.Keeps post b)
    (hf : ∀ b' a, b'.Extends b → post b' a → (f a).Keeps post' b') : (l >>= f).Keeps post' b := by
  show (l.bind f).Keeps post' b
  induction l generalizing b with
  | done a => exact hf b a (.refl b) h
  | fail e => exact h
  | cache step next ih =>
      refine ⟨h.1, fun w hw hb => ih _ (h.2 w hw hb) fun b' a hb' ha => ?_⟩
      exact hf b' a (hb'.trans hb) ha
  | ask call next ih =>
      refine fun w a hw hb => ih _ (h w a hw hb) fun b' a' hb' ha => ?_
      exact hf b' a' ((hb'.trans (hw.receive call a).2).trans hb) ha

/-- **Courses**: whatever a lookup comes to, nothing but what has been built is cached then, and its
result is one of which `post` holds. -/
theorem Keeps.comes (hpost : Stays post) {w w' : Archive} {x : Except Error α}
    (h : l.Keeps post w.builds) (hw : w.Genuine) (hcomes : l.Comes w x w') :
    w.Becomes w' ∧ ∀ a, x = .ok a → post w'.builds a := by
  induction hcomes with
  | done a w => exact ⟨⟨hw, .refl _⟩, fun a' ha => Except.ok.inj ha ▸ h⟩
  | fail e w => exact ⟨⟨hw, .refl _⟩, nofun⟩
  | others hothers _ ih =>
      obtain ⟨hrest, hok⟩ := ih (h.extends hpost hothers.2) hothers.1
      exact ⟨hothers.trans hrest, hok⟩
  | cache _ ih =>
      have hstep := hw.perform h.1
      obtain ⟨hrest, hok⟩ := ih (h.2 _ hw (.refl _)) hstep.1
      exact ⟨hstep.trans hrest, hok⟩
  | @answer call next w w' x a _ ih =>
      have hreceive := hw.receive call a
      obtain ⟨hrest, hok⟩ := ih (h w a hw (.refl _)) hreceive.1
      exact ⟨hreceive.trans hrest, hok⟩
  | refuse e w => exact ⟨⟨hw, .refl _⟩, nofun⟩

end Lookup

/-! ## Running -/

/-- Whether the archive is `Genuine` after whatever others do while the source works on an
answer. -/
def Answering.Genuine {σ : Type} (answer : Answering σ) : Prop :=
  ∀ call b (site : Site σ), Archive.Genuine ⟨site.registry, b⟩ →
    ∃ b', Archive.Becomes ⟨site.registry, b⟩ ⟨(answer call site).2.registry, b'⟩

/-- So it is if others do nothing (`Answering.ofSource`). -/
theorem genuine_ofSource {σ : Type}
    (answer : (call : SourceCall) → σ → Except Error call.Answer × σ) :
    (Answering.ofSource answer).Genuine :=
  fun _ b _ h => ⟨b, h, .refl b⟩

/-- **Runs**: to run a lookup is a course of it (`Comes`), with some builds `b'` in the end. -/
theorem Lookup.Keeps.comes_run {σ α : Type} {post : Builds → α → Prop} {answer : Answering σ}
    (hanswer : answer.Genuine) {l : Lookup α} {b : Builds} {site : Site σ} (h : l.Keeps post b)
    (hw : Archive.Genuine ⟨site.registry, b⟩) :
    ∃ b', l.Comes ⟨site.registry, b⟩ (l.run answer site).1
      ⟨(l.run answer site).2.registry, b'⟩ := by
  induction l generalizing b site with
  | done a => exact ⟨b, .done a _⟩
  | fail e => exact ⟨b, .fail e _⟩
  | cache step next ih =>
      have hstep := hw.perform h.1
      obtain ⟨b', hrest⟩ := @ih _ b ⟨_, site.source⟩ (h.2 _ hw (.refl b)) hstep.1
      exact ⟨b', .cache hrest⟩
  | ask call next ih =>
      obtain ⟨b₁, hothers⟩ := hanswer call b site hw
      unfold run
      rcases hreply : answer call site with ⟨e | a, site'⟩
      · rw [hreply] at hothers
        exact ⟨b₁, .others hothers (.refuse e _)⟩
      · rw [hreply] at hothers
        have hreceive := hothers.1.receive call a
        obtain ⟨b', hrest⟩ := @ih (call.receive a site'.registry).1 _
          ⟨(call.receive a site'.registry).2, site'.source⟩ (h _ a hothers.1 hothers.2) hreceive.1
        exact ⟨b', .others hothers (.answer a hrest)⟩

/-! ## Lookups -/

namespace Lookup

variable {α β : Type} {b : Builds}

/-- A result that is known. -/
theorem keeps_pure {post : Builds → α → Prop} {a : α} (h : post b a) :
    (pure a : Lookup α).Keeps post b :=
  h

/-- A step that publishes nothing keeps what it answers in every `Genuine` archive. -/
theorem keeps_step {step : CacheStep} {post : Builds → step.Reply → Prop}
    (hstep : ∀ key s, step ≠ .publish key s)
    (h : ∀ w : Archive, w.Genuine → post w.builds (w.registry.perform step).1) :
    (Lookup.step step).Keeps post b :=
  ⟨fun key s hs => absurd hs (hstep key s), fun w hw _ => h w hw⟩

/-- Any result. -/
def Anything (_ : Builds) (_ : α) : Prop :=
  True

/-- Whether a schema, if there is one, has been built (`Builds.Made`). -/
def MadeIfAny (b : Builds) (s? : Option Schema) : Prop :=
  ∀ s, s? = some s → b.Made s

/-- Whether something, if it is found, is found by `find` in a schema that has been built. -/
def FoundInMade (find : Schema → List Char → Option α) (b : Builds) (a? : Option α) : Prop :=
  ∀ a, a? = some a → ∃ s path, b.Made s ∧ find s path = some a

theorem stays_madeIfAny : Stays MadeIfAny :=
  fun _ _ _ hb h s hs => (h s hs).mono hb

/-- The names of the schemas. -/
theorem keeps_schemaNames : schemaNames.Keeps Anything b := by
  refine (keeps_step nofun fun _ _ => trivial : (step .readNames).Keeps Anything b).bind ?_
  intro b₁ names? _ _
  cases names? with
  | some names => exact keeps_pure trivial
  | none => exact fun _ _ _ _ => keeps_step nofun fun _ _ => trivial

/-- The schema under a key. -/
theorem keeps_readSchema (key : CacheKey) : (step (.readSchema key)).Keeps MadeIfAny b :=
  keeps_step nofun fun _ hw s hs => hw.cached key s hs

/-- The schema of a listed name. -/
theorem keeps_listedSchema (name : SchemaName) : (listedSchema name).Keeps Builds.Made b := by
  refine (keeps_readSchema (cacheKey name)).bind fun b₁ s? _ hs => ?_
  cases s? with
  | some s => exact keeps_pure (hs s rfl)
  | none =>
      intro w d? hw _
      cases d? with
      | none => trivial
      | some d =>
          have hmade := w.made_receive name d
          refine ⟨?_, fun w' hw' hb => hw'.made_publish _ (hmade.mono hb)⟩
          rintro _ _ ⟨⟩
          exact hmade

/-- `schemaByName?` answers with a schema that has been built, if with any. -/
theorem keeps_schemaByName? (name : SchemaName) : (schemaByName? name).Keeps MadeIfAny b := by
  refine (keeps_readSchema (cacheKey name)).bind fun b₁ s? _ hs => ?_
  cases s? with
  | some s => exact keeps_pure hs
  | none =>
      refine keeps_schemaNames.bind fun b₂ names _ _ => ?_
      cases canonicalName? names name with
      | none => exact keeps_pure nofun
      | some listed =>
          refine (keeps_listedSchema listed).bind fun b₃ s _ hs => keeps_pure ?_
          rintro _ ⟨⟩
          exact hs

/-- The schema of a name that may not be set. -/
theorem keeps_schemaIfSet? (name? : Option String) : (schemaIfSet? name?).Keeps MadeIfAny b := by
  cases name? with
  | none => exact keeps_pure nofun
  | some name => exact keeps_schemaByName? (some name)

/-- The schema with the most tables, or the best one so far. -/
theorem keeps_fullestSchema? {best : Option Schema} (hbest : MadeIfAny b best)
    (names : List SchemaName) :
    (fullestSchema? best names).Keeps MadeIfAny b := by
  induction names generalizing b best with
  | nil => exact keeps_pure hbest
  | cons name rest ih =>
      unfold fullestSchema?
      split
      · exact ih hbest
      · refine (keeps_schemaByName? name).bind fun b₁ s? hb hs => ?_
        have hbest₁ := stays_madeIfAny best hb hbest
        cases s? with
        | none => exact ih hbest₁
        | some s =>
            dsimp only
            split
            · exact ih hs
            · exact ih hbest₁

/-- The default schema. -/
theorem keeps_defaultSchema? : defaultSchema?.Keeps MadeIfAny b := by
  have hpreferred : (step .readPreferred).Keeps Anything b := keeps_step nofun fun _ _ => trivial
  refine hpreferred.bind fun b₁ name? _ _ => (keeps_schemaIfSet? name?).bind fun b₂ s? _ hs => ?_
  cases s? with
  | some s => exact keeps_pure hs
  | none =>
      have hdefault : (call .defaultName).Keeps Anything b₂ := fun _ _ _ _ => trivial
      refine hdefault.bind fun b₃ name? _ _ => (keeps_schemaIfSet? name?).bind fun b₄ s? _ hs => ?_
      cases s? with
      | some s => exact keeps_pure hs
      | none =>
          refine keeps_schemaNames.bind fun b₅ names _ _ => ?_
          split
          · exact keeps_schemaByName? _
          · have hnone : MadeIfAny b₅ none := nofun
            exact keeps_fullestSchema? hnone _

/-! ## Labels -/

variable {find : Schema → List Char → Option α}

/-- What a path names in a schema that has been built. -/
theorem foundInMade_bind {s? : Option Schema} (path : List Char) (h : MadeIfAny b s?) :
    FoundInMade find b (s?.bind fun s => find s path) := by
  intro a ha
  obtain ⟨s, hs, hfound⟩ := Option.bind_eq_some_iff.mp ha
  exact ⟨s, path, h s hs, hfound⟩

/-- What a path names in the schema of a name. -/
theorem keeps_inSchema? (name : SchemaName) (path : List Char) :
    (inSchema? find name path).Keeps (FoundInMade find) b :=
  (keeps_schemaByName? name).bind fun _ _ _ hs => keeps_pure (foundInMade_bind path hs)

/-- What a label names whose front is a schema name. -/
theorem keeps_afterSchema? (case : Label.Case) (label : List Char) (name : String) :
    (afterSchema? find case label name).Keeps (FoundInMade find) b := by
  unfold afterSchema?
  split
  · exact keeps_inSchema? _ _
  · exact keeps_pure nofun

/-- What a label names in the schema of a listed name. -/
theorem keeps_inListed? (label : List Char) (name : SchemaName) :
    (inListed? find label name).Keeps (FoundInMade find) b := by
  cases name with
  | none => exact keeps_inSchema? none label
  | some name => exact keeps_afterSchema? .sensitive label name

/-- A search through a list. -/
theorem keeps_findSomeM? {f : β → Lookup (Option α)} (bs : List β)
    (h : ∀ b bs', (f bs').Keeps (FoundInMade find) b) :
    (bs.findSomeM? f).Keeps (FoundInMade find) b := by
  induction bs generalizing b with
  | nil => exact keeps_pure nofun
  | cons first rest ih =>
      refine (h b first).bind fun b₁ a? _ ha => ?_
      cases a? with
      | none => exact ih
      | some a => exact keeps_pure ha

/-- **Labels**: what `resolve? find label` gives is found in a schema that has been built
(`FoundInMade`). -/
theorem keeps_resolve? (label : String) : (resolve? find label).Keeps (FoundInMade find) b := by
  unfold resolve?
  dsimp only
  split
  · exact keeps_pure nofun
  · refine keeps_schemaNames.bind fun b₁ names _ _ => ?_
    refine (keeps_findSomeM? names fun _ name => keeps_inListed? _ name).bind fun b₂ a? _ ha => ?_
    cases a? with
    | some a => exact keeps_pure ha
    | none =>
        refine (keeps_findSomeM? _ fun _ name => keeps_afterSchema? .insensitive _ name).bind ?_
        intro b₃ a? _ ha
        cases a? with
        | some a => exact keeps_pure ha
        | none => exact keeps_defaultSchema?.bind fun _ _ _ hs => keeps_pure (foundInMade_bind _ hs)

/-- `columnByLabel?` answers with a column that a path names in a schema that has been built. -/
theorem keeps_columnByLabel? (label : String) :
    (columnByLabel? label).Keeps (FoundInMade Schema.columnByPath?) b :=
  keeps_resolve? label

/-- `tableByLabel?` answers with a table that a path names in a schema that has been built. -/
theorem keeps_tableByLabel? (label : String) :
    (tableByLabel? label).Keeps (FoundInMade Schema.tableByPath?) b :=
  keeps_resolve? label

end Lookup

end DataAccess.Catalog
