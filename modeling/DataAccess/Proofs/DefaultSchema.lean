import DataAccess.Proofs.LabelSearch
import DataAccess.Proofs.SchemaSpellings
import Mathlib.Data.List.Sort

/-!
# Default schema: the schema for labels that name none

A source lists the same names whenever it is asked, in any order, and loads for each of them the
same contents (`FixedContents`). The default schema is then the schema of one listed name or none at
all, which depends on these and on the names that are configured and proposed, and not on what has
been looked up before.

* **Names** (`Resolves`, `canonicalName?_sortNames_iff`): the listed name for which a name stands.
* **The fullest schema** (`Fullest`, `fullest_fuller`, `fullest_foldl`): among names in order, the
  first one with the most tables.
* **The default name** (`DefaultName`, `defaultName_defaultName?`, `DefaultName.eq`): the four ways
  to a default name, one of which leads to it, and none to another one.
* **Lookups** (`Lookup.Reaches`, `reaches_schemaByName?`, `reaches_fullestSchema?`,
  `reaches_defaultSchema?`): under which names the schemas are cached that are given.
* **The default schema** (`defaultSchema?_follows_names`).
-/

namespace DataAccess.Catalog

variable {σ : Type} {listed names seen : List SchemaName} {name : SchemaName} {n m : String}

/-! ## Names -/

/-- Whether the name `n` stands for the listed name `m`: for itself if `some n ∈ listed`, and else
for the least listed name (in the order of `sortNames`) with `Text.equalIgnoringCase m n`. -/
structure Resolves (listed : List SchemaName) (n m : String) : Prop where
  /-- The name is listed. -/
  mem : some m ∈ listed
  /-- It differs in case alone. -/
  same : Text.equalIgnoringCase m n = true
  /-- It is the name itself if that is listed. -/
  exact : some n ∈ listed → m = n
  /-- It is the first such name if that is not listed. -/
  first : some n ∉ listed → ∀ other, some other ∈ listed →
    Text.equalIgnoringCase other n = true → m ≤ other

/-- A name stands for one listed name: `Resolves listed n m` determines `m`. -/
theorem Resolves.unique {m' : String} (h : Resolves listed n m) (h' : Resolves listed n m') :
    m = m' := by
  by_cases hn : some n ∈ listed
  · rw [h.exact hn, h'.exact hn]
  · exact String.le_antisymm (h.first hn _ h'.mem h'.same) (h'.first hn _ h.mem h.same)

/-- In a list that is `Pairwise R`, what `find? p` gives is `R`-before every other element with
`p`. -/
theorem eq_or_rel_of_find? {α : Type} {R : α → α → Prop} {p : α → Bool} {xs : List α} {a b : α}
    (h : xs.Pairwise R) (hfound : xs.find? p = some a) (hb : b ∈ xs) (hp : p b = true) :
    a = b ∨ R a b := by
  obtain ⟨-, front, rest, rfl, hfront⟩ := List.find?_eq_some_iff_append.mp hfound
  rcases List.mem_append.mp hb with hb | hb
  · have hnot := hfront b hb
    rw [hp] at hnot
    cases hnot
  · rcases List.mem_cons.mp hb with rfl | hb
    · exact .inl rfl
    · exact .inr ((List.pairwise_cons.mp (List.pairwise_append.mp h).2.1).1 b hb)

/-- The listed names that are texts, `(sortNames listed).filterMap id`, are in the order `≤` of
texts. -/
theorem pairwise_filterMap_sortNames (listed : List SchemaName) :
    ((sortNames listed).filterMap id).Pairwise (· ≤ ·) := by
  refine List.pairwise_filterMap.mpr ((pairwise_sortNames listed).imp ?_)
  rintro _ _ ⟨hle, -⟩ a rfl b rfl
  exact of_decide_eq_true hle

/-- **Names**: `canonicalName?` on the sorted names computes the relation `Resolves`. -/
theorem canonicalName?_sortNames_iff :
    canonicalName? (sortNames listed) (some n) = some name ↔ ∃ m, name = some m ∧
      Resolves listed n m := by
  have hresolves : ∀ {name}, canonicalName? (sortNames listed) (some n) = some name →
      ∃ m, name = some m ∧ Resolves listed n m := by
    intro name hname
    obtain ⟨m, rfl, hsame, hexact⟩ := Registry.canonicalName?_some hname
    refine ⟨m, rfl, mem_sortNames.mp (Registry.mem_of_canonicalName? hname), hsame,
      fun hn => hexact (mem_sortNames.mpr hn), fun hn other hother hsame' => ?_⟩
    have hmem : ∀ {k : String}, k ∈ (sortNames listed).filterMap id ↔ some k ∈ listed := by
      simp [List.mem_filterMap, mem_sortNames]
    have hnone : ((sortNames listed).filterMap id).find? (· == n) = none :=
      List.find?_eq_none.mpr fun k hk heq => hn (eq_of_beq heq ▸ hmem.mp hk)
    have hfound : ((sortNames listed).filterMap id).find? (fun k => Text.equalIgnoringCase k n) =
        some m := by
      obtain ⟨k, hk, hkm⟩ := Option.map_eq_some_iff.mp hname
      rw [hnone] at hk
      exact Option.some.inj hkm ▸ hk
    rcases eq_or_rel_of_find? (pairwise_filterMap_sortNames listed) hfound (hmem.mpr hother) hsame'
      with rfl | hle
    · exact String.le_refl m
    · exact hle
  refine ⟨hresolves, ?_⟩
  rintro ⟨m, rfl, hm⟩
  obtain ⟨name, hname⟩ := exists_canonicalName? (mem_sortNames.mpr hm.mem) hm.same
  obtain ⟨m', rfl, hm'⟩ := hresolves hname
  rw [hname, hm.unique hm']

/-- `sortNames` depends on the members of a list alone, not on their order or number. -/
theorem sortNames_congr (h : ∀ name, name ∈ names ↔ name ∈ listed) :
    sortNames names = sortNames listed := by
  have hnodup (names : List SchemaName) : (sortNames names).Nodup :=
    (pairwise_sortNames names).imp And.right
  have hperm : (sortNames names).Perm (sortNames listed) :=
    (List.perm_ext_iff_of_nodup (hnodup names) (hnodup listed)).mpr fun name =>
      mem_sortNames.trans ((h name).trans mem_sortNames.symm)
  exact hperm.eq_of_pairwise (fun a b _ _ hab hba => SchemaName.le_antisymm hab.1 hba.1)
    (pairwise_sortNames names)
    (pairwise_sortNames listed)

/-! ## The fullest schema -/

section Contents

variable {contents : SchemaName → SchemaDecl} {best? : Option SchemaName}

/-- Whether the schema of `name` may be the default because of its tables: it is nameless, or
`Text.lowercase` of its name does not both begin with "information" and end with "schema". -/
def Competes (name : SchemaName) : Prop :=
  ∀ n, name = some n →
    ¬ ("information".toList <+: (Text.lowercase n).toList ∧
      "schema".toList <:+ (Text.lowercase n).toList)

/-- `Competes` is what the test `isInformationSchema` leaves. -/
theorem competes_iff : Competes name ↔ name.any isInformationSchema = false := by
  cases name with
  | none => exact iff_of_true nofun rfl
  | some n =>
      rw [Option.any_some, isInformationSchema, Bool.eq_false_iff, ne_eq, Bool.and_eq_true,
        List.isPrefixOf_iff_prefix, List.isSuffixOf_iff_suffix]
      exact ⟨fun h => h n rfl, fun h n' hn => Option.some.inj hn ▸ h⟩

instance (name : SchemaName) : Decidable (Competes name) :=
  decidable_of_iff _ competes_iff.symm

/-- Whether `some m` is the name, of those in `names` with `Competes`, whose `contents` have the
most tables: `contents other` has at most as many for every other one, and fewer if
`SchemaName.le other m`. It is `none` if no name in `names` competes. -/
def Fullest (contents : SchemaName → SchemaDecl) (names : List SchemaName) :
    Option SchemaName → Prop
  | some m => m ∈ names ∧ Competes m ∧ ∀ other ∈ names, Competes other → other ≠ m →
      (contents other).tables.length ≤ (contents m).tables.length ∧
        (SchemaName.le other m = true → (contents other).tables.length < (contents m).tables.length)
  | none => ∀ name ∈ names, ¬ Competes name

/-- At most one `Option SchemaName` is `Fullest contents names`. -/
theorem Fullest.unique {a b : Option SchemaName} (ha : Fullest contents names a)
    (hb : Fullest contents names b) :
    a = b := by
  cases a with
  | none =>
      cases b with
      | none => rfl
      | some b => exact absurd hb.2.1 (ha b hb.1)
  | some a =>
      cases b with
      | none => exact absurd ha.2.1 (hb a ha.1)
      | some b =>
          by_contra hne
          have hab : a ≠ b := fun heq => hne (congrArg some heq)
          obtain ⟨hle, hlt⟩ := ha.2.2 b hb.1 hb.2.1 hab.symm
          obtain ⟨hle', hlt'⟩ := hb.2.2 a ha.1 ha.2.1 hab
          rcases Bool.or_eq_true_iff.mp (SchemaName.le_total a b) with hfirst | hfirst
          · have hless := hlt' hfirst
            omega
          · have hless := hlt hfirst
            omega

/-- One step of the search: the better one of the best name so far, `best?`, and the next one,
`name`. This is what `fullestSchema?` does to schemas, done to their names. -/
def fuller (contents : SchemaName → SchemaDecl) (best? : Option SchemaName) (name : SchemaName) :
    Option SchemaName :=
  if name.any isInformationSchema then best?
  else if best?.all fun b => (contents b).tables.length <
    (contents name).tables.length then some name
  else best?

/-- The best name of `seen` stays the best one of `seen ++ [name]` if `name` does not compete, or
comes later and has no more tables. -/
theorem Fullest.keep (h : Fullest contents seen best?) (hworse : Competes name → ∃ b,
      best? = some b ∧
        (contents name).tables.length ≤ (contents b).tables.length ∧ SchemaName.le name b = false) :
    Fullest contents (seen ++ [name]) best? := by
  cases best? with
  | none =>
      intro other hother hcompetes
      rcases List.mem_append.mp hother with hother | hother
      · exact h other hother hcompetes
      · obtain rfl := List.mem_singleton.mp hother
        obtain ⟨_, hnone, -⟩ := hworse hcompetes
        cases hnone
  | some b =>
      obtain ⟨hb, hcompetes, hmost⟩ := h
      refine ⟨List.mem_append_left _ hb, hcompetes, fun other hother hcompetes' hne => ?_⟩
      rcases List.mem_append.mp hother with hother | hother
      · exact hmost other hother hcompetes' hne
      · obtain rfl := List.mem_singleton.mp hother
        obtain ⟨_, hsame, hle, hlater⟩ := hworse hcompetes'
        obtain rfl := Option.some.inj hsame
        exact ⟨hle, fun hfirst => nomatch hlater.symm.trans hfirst⟩

/-- `name` is the best one of `seen ++ [name]` if it competes and has more tables than the best one
of `seen`. -/
theorem Fullest.take (h : Fullest contents seen best?) (hcompetes : Competes name)
    (hbetter : ∀ b, best? = some b → (contents b).tables.length < (contents name).tables.length) :
    Fullest contents (seen ++ [name]) (some name) := by
  refine ⟨List.mem_append_right _ (List.mem_singleton_self name), hcompetes,
    fun other hother hcompetes' hne => ?_⟩
  have hseen : other ∈ seen :=
    (List.mem_append.mp hother).resolve_right fun hlast => hne (List.mem_singleton.mp hlast)
  have hless : (contents other).tables.length < (contents name).tables.length := by
    cases best? with
    | none => exact absurd hcompetes' (h other hseen)
    | some b =>
        have hb := hbetter b rfl
        by_cases hsame : other = b
        · rwa [hsame]
        · exact Nat.lt_of_le_of_lt (h.2.2 other hseen hcompetes' hsame).1 hb
  exact ⟨hless.le, fun _ => hless⟩

/-- The step lemma: `fuller contents best?` keeps `Fullest` if `name` is behind all that have been
seen. -/
theorem fullest_fuller (hbehind : ∀ other ∈ seen, SchemaName.le other name = true ∧ other ≠ name)
    (h : Fullest contents seen best?) :
    Fullest contents (seen ++ [name]) (fuller contents best? name) := by
  unfold fuller
  split
  · rename_i hname
    refine h.keep fun hcompetes => ?_
    cases (competes_iff.mp hcompetes).symm.trans hname
  · rename_i hname
    split
    · rename_i hbetter
      refine h.take (competes_iff.mpr (Bool.eq_false_iff.mpr hname)) fun b hb => ?_
      rw [hb, Option.all_some] at hbetter
      exact of_decide_eq_true hbetter
    · rename_i hnot
      refine h.keep fun _ => ?_
      cases best? with
      | none => exact absurd rfl hnot
      | some b =>
          rw [Option.all_some, decide_eq_true_eq, Nat.not_lt] at hnot
          obtain ⟨hle, hdiffers⟩ := hbehind b h.1
          -- among names in order no later one comes before the best one
          exact ⟨b, rfl, hnot, Bool.eq_false_iff.mpr fun hfirst =>
            hdiffers (SchemaName.le_antisymm hle hfirst)⟩

/-- **The fullest schema**: the fold of `fuller` over names in order keeps `Fullest`. -/
theorem fullest_foldl
    (hnames : (seen ++ names).Pairwise fun a b => SchemaName.le a b = true ∧ a ≠ b)
    (h : Fullest contents seen best?) :
    Fullest contents (seen ++ names) (names.foldl (fuller contents) best?) := by
  -- the induction is on the names that are left, with the best of those that have been seen
  induction names generalizing seen best? with
  | nil => rwa [List.append_nil]
  | cons name names ih =>
      have hsplit : seen ++ name :: names = (seen ++ [name]) ++ names := by simp
      rw [hsplit] at hnames ⊢
      refine ih hnames (fullest_fuller (fun other hother => ?_) h)
      exact (List.pairwise_append.mp (List.pairwise_append.mp hnames).1).2.2 other hother name
        (List.mem_singleton_self name)

/-- From no names on, the fold over `sortNames listed` comes to the name that is `Fullest` among the
listed ones. -/
theorem fullest_sortNames (contents : SchemaName → SchemaDecl) (listed : List SchemaName) :
    Fullest contents listed ((sortNames listed).foldl (fuller contents) none) := by
  have hnone : Fullest contents [] none := nofun
  have hbest : Fullest contents (sortNames listed)
      ((sortNames listed).foldl (fuller contents) none) :=
    fullest_foldl (pairwise_sortNames listed) hnone
  cases hname : (sortNames listed).foldl (fuller contents) none with
  | none =>
      rw [hname] at hbest
      exact fun name hmem => hbest name (mem_sortNames.mpr hmem)
  | some m =>
      rw [hname] at hbest
      obtain ⟨hm, hcompetes, hmost⟩ := hbest
      exact ⟨mem_sortNames.mp hm, hcompetes,
        fun other hother => hmost other (mem_sortNames.mpr hother)⟩

/-! ## The default name -/

/-- Whether a name that may be set stands for no listed name: `¬ Resolves listed n m` for all `m`,
if `name? = some n`. -/
def Unresolved (listed : List SchemaName) (name? : Option String) : Prop :=
  ∀ n m, name? = some n → ¬ Resolves listed n m

/-- Whether `name?` is the name of the default schema, given the names that are `listed`, the
`contents` of their schemas, the configured name `preferred` and the name `proposed` by the source.
Each constructor is one of the four ways, and excludes those before it. -/
inductive DefaultName (listed : List SchemaName) (contents : SchemaName → SchemaDecl)
    (preferred proposed : Option String) : Option SchemaName → Prop where
  /-- The configured name stands for it. -/
  | configured {n m : String} (hname : preferred = some n) (h : Resolves listed n m) :
    DefaultName listed contents preferred proposed (some (some m))
  /-- Or else the name that the source proposes does. -/
  | proposed {n m : String} (hpreferred : Unresolved listed preferred) (hname : proposed = some n)
    (h : Resolves listed n m) : DefaultName listed contents preferred proposed (some (some m))
  /-- Or else it is the only one. -/
  | only {name : SchemaName} (hpreferred : Unresolved listed preferred)
    (hproposed : Unresolved listed proposed)
    (h : ∀ other, other ∈ listed ↔ other = name) : DefaultName listed contents preferred
      proposed (some name)
  /-- Or else it is the one with the most tables. -/
  | fullest {name? : Option SchemaName} (hpreferred : Unresolved listed preferred)
    (hproposed : Unresolved listed proposed) (hmany : ¬ ∃ name, ∀ other,
      other ∈ listed ↔ other = name)
    (h : Fullest contents listed name?) : DefaultName listed contents preferred proposed name?

/-- The listed name for which `name?` stands, if it is set and there is one (`Resolves`). -/
def resolved? (listed : List SchemaName) (name? : Option String) : Option SchemaName :=
  name?.bind fun n => canonicalName? (sortNames listed) (some n)

/-- The only name of a list, or else the result of the search for the most tables (`fuller`). -/
def onlyOrFullest? (contents : SchemaName → SchemaDecl) : List SchemaName → Option SchemaName
  | [name] => some name
  | names => names.foldl (fuller contents) none

/-- The name of the default schema, computed: `resolved?` for the configured name, or for the
proposed one, or `onlyOrFullest?` of the listed names in order. See `DefaultName.eq`. -/
def defaultName? (listed : List SchemaName) (contents : SchemaName → SchemaDecl)
    (preferred proposed : Option String) : Option SchemaName :=
  (resolved? listed preferred).or
    ((resolved? listed proposed).or (onlyOrFullest? contents (sortNames listed)))

variable {preferred proposed : Option String}

/-- `resolved?` gives a name iff the name that is set stands for it (`Resolves`). -/
theorem resolved?_eq_some_iff : resolved? listed preferred = some name ↔
    ∃ n m, preferred = some n ∧ name = some m ∧ Resolves listed n m := by
  rw [resolved?, Option.bind_eq_some_iff]
  refine exists_congr fun n => ?_
  rw [canonicalName?_sortNames_iff, exists_and_left]

/-- `resolved?` gives `none` iff the name is `Unresolved`. -/
theorem resolved?_eq_none_iff : resolved? listed preferred = none ↔
    Unresolved listed preferred := by
  rw [Option.eq_none_iff_forall_not_mem]
  constructor
  · intro h n m hn hm
    exact h (some m) (resolved?_eq_some_iff.mpr ⟨n, m, hn, rfl, hm⟩)
  · intro h name hname
    obtain ⟨n, m, hn, -, hm⟩ := resolved?_eq_some_iff.mp hname
    exact h n m hn hm

/-- `sortNames listed` has the one member `name` iff `listed` has no other one, however often it is
there. -/
theorem sortNames_eq_singleton_iff : sortNames listed = [name] ↔ ∀ other, other ∈ listed ↔
    other = name := by
  constructor
  · intro h other
    rw [← mem_sortNames, h, List.mem_singleton]
  · intro h
    have hsort : sortNames [name] = [name] := by rw [sortNames, List.mergeSort_singleton]; rfl
    rw [sortNames_congr fun other => (h other).trans List.mem_singleton.symm, hsort]

/-- One of the four ways of `DefaultName` leads to `defaultName?`. -/
theorem defaultName_defaultName? :
    DefaultName listed contents preferred proposed
      (defaultName? listed contents preferred proposed) := by
  unfold defaultName?
  cases hpreferred : resolved? listed preferred with
  | some name =>
      obtain ⟨n, m, hn, rfl, hm⟩ := resolved?_eq_some_iff.mp hpreferred
      exact .configured hn hm
  | none =>
      rw [resolved?_eq_none_iff] at hpreferred
      rw [Option.none_or]
      cases hproposed : resolved? listed proposed with
      | some name =>
          obtain ⟨n, m, hn, rfl, hm⟩ := resolved?_eq_some_iff.mp hproposed
          exact .proposed hpreferred hn hm
      | none =>
          rw [resolved?_eq_none_iff] at hproposed
          rw [Option.none_or]
          have hfullest := fullest_sortNames contents listed
          unfold onlyOrFullest?
          split
          · rename_i name hname
            exact .only hpreferred hproposed (sortNames_eq_singleton_iff.mp hname)
          · rename_i hmany
            refine .fullest hpreferred hproposed ?_ hfullest
            rintro ⟨name, hname⟩
            exact hmany name (sortNames_eq_singleton_iff.mpr hname)

/-- **The default name**: no way leads to another one, so `DefaultName` holds of `defaultName?`
alone. -/
theorem DefaultName.eq {name? : Option SchemaName}
    (h : DefaultName listed contents preferred proposed name?) :
    name? = defaultName? listed contents preferred proposed := by
  unfold defaultName?
  cases h with
  | configured hn hm =>
      rw [resolved?_eq_some_iff.mpr ⟨_, _, hn, rfl, hm⟩, Option.some_or]
  | proposed hpreferred hn hm =>
      rw [resolved?_eq_none_iff.mpr hpreferred, resolved?_eq_some_iff.mpr ⟨_, _, hn, rfl, hm⟩,
        Option.none_or,
        Option.some_or]
  | only hpreferred hproposed hname =>
      rw [resolved?_eq_none_iff.mpr hpreferred, resolved?_eq_none_iff.mpr hproposed, Option.none_or,
        Option.none_or,
        sortNames_eq_singleton_iff.mpr hname]
      rfl
  | fullest hpreferred hproposed hmany hfullest =>
      rw [resolved?_eq_none_iff.mpr hpreferred, resolved?_eq_none_iff.mpr hproposed, Option.none_or,
        Option.none_or]
      unfold onlyOrFullest?
      split
      · rename_i name hname
        exact absurd ⟨name, sortNames_eq_singleton_iff.mp hname⟩ hmany
      · exact hfullest.unique (fullest_sortNames contents listed)

/-- The default name, if there is one, is in `listed`. -/
theorem mem_of_defaultName (h : DefaultName listed contents preferred proposed (some name)) :
    name ∈ listed := by
  cases h with
  | configured _ hm => exact hm.mem
  | proposed _ _ hm => exact hm.mem
  | only _ _ hname => exact (hname name).mpr rfl
  | fullest _ _ _ hfullest => exact hfullest.1

end Contents

/-! ## Lookups -/

/-- Whether a source, in the states `inSource`, does not fail, and always lists the names `listed`,
in some order, loads for each of them the same contents and proposes the same default name. -/
structure FixedContents (answer : (call : SourceCall) → σ → Except Error call.Answer × σ)
    (inSource : σ → Prop)
    (listed : List SchemaName) (contents : SchemaName → SchemaDecl) (proposed : Option String) :
    Prop where
  /-- It stays in these states. -/
  stays : ∀ call x, inSource x → inSource (answer call x).2
  /-- It lists these names. -/
  lists : ∀ x, inSource x → ∃ names, (answer .listNames x).1 = .ok names ∧
    ∀ name, name ∈ names ↔ name ∈ listed
  /-- It proposes this name. -/
  proposes : ∀ x, inSource x → (answer .defaultName x).1 = .ok proposed
  /-- It loads these contents. -/
  loads : ∀ x name, inSource x → name ∈ listed →
    (answer (.load name) x).1 = .ok (some (contents name))

/-- The `Stock` of a source with `FixedContents`: the cached list of names is `sortNames listed`,
and what is cached under `cacheKey name`, for a listed `name`, is `(contents name).build id` for
some `id`. The source may not fail (`mayFail := False`), and identities count from `0`. -/
def fixedStock (answer : (call : SourceCall) → σ → Except Error call.Answer × σ)
    (inSource : σ → Prop) (listed : List SchemaName) (contents : SchemaName → SchemaDecl) :
    Stock σ where
  answer
  inSource
  mayFail := False
  lists names := names = sortNames listed
  files key s := ∃ name ∈ listed, key = cacheKey name ∧ ∃ id, s = (contents name).build id
  base := 0

/-- Whether `name?` and `s?` belong together in the registry `r`: both are `none`, or
`name? = some name` and `s? = some s` with `r.schema? (cacheKey name) = some s`. -/
def Registry.CachedAs (r : Registry) : Option SchemaName → Option Schema → Prop :=
  Option.Rel fun name s => r.schema? (cacheKey name) = some s

/-- Whether the lookup `l`, run on the site `w`, succeeds and comes to the schema that is cached
under `name?` in the registry `w'` that it leaves (`Registry.CachedAs`). The site is still one of
the regime of `k`. -/
def Lookup.Reaches (k : Stock σ) (l : Lookup (Option Schema)) (w : Site σ)
    (name? : Option SchemaName) : Prop :=
  ∃ s? w', l.run (.ofSource k.answer) w = (.ok s?, w') ∧ k.regime.At w' ∧
    w'.registry.CachedAs name? s?

section Lookups

variable {answer : (call : SourceCall) → σ → Except Error call.Answer × σ} {inSource : σ → Prop}
variable {contents : SchemaName → SchemaDecl} {proposed : Option String} {w w' : Site σ} {α : Type}

/-- What is cached under `name?` in `r` is so in every `r'` with `r.Within r'`. -/
theorem Registry.CachedAs.mono {r r' : Registry} {name? : Option SchemaName} {s? : Option Schema}
    (h : r.CachedAs name? s?) (hwithin : r.Within r') : r'.CachedAs name? s? := by
  cases h with
  | some hcached => exact .some (hwithin.schemas _ _ hcached)
  | none => exact .none

/-- A composed lookup `l >>= f` reaches what `f a` reaches from where `l` has come to `a`. -/
theorem reaches_bind {k : Stock σ} {l : Lookup α} {f : α → Lookup (Option Schema)}
    {name? : Option SchemaName} {a : α}
    (hrun : l.run (.ofSource k.answer) w = (.ok a, w')) (h : (f a).Reaches k w' name?) :
    (l >>= f).Reaches k w name? := by
  unfold Lookup.Reaches
  rwa [Lookup.run_bind_of_ok hrun]

/-- The lookup `pure s?` reaches `name?` if `w.registry.CachedAs name? s?`. -/
theorem reaches_pure {k : Stock σ} {name? : Option SchemaName} {s? : Option Schema}
    (hw : k.regime.At w) (h : w.registry.CachedAs name? s?) : Lookup.Reaches k (pure s?) w name? :=
  ⟨s?, w, rfl, hw, h⟩

variable (h : FixedContents answer inSource listed contents proposed)

include h

/-- A source with `FixedContents` delivers what its `fixedStock` allows in the registry. -/
theorem FixedContents.supplied : (fixedStock answer inSource listed contents).Supplied where
  lists x names hx hanswer := by
    obtain ⟨names', hnames', hsame⟩ := h.lists x hx
    obtain rfl := Except.ok.inj (hnames'.symm.trans hanswer)
    exact sortNames_congr hsame
  loads := by
    rintro x name d id hx ⟨_, rfl, hname⟩ hanswer -
    have hmem : name ∈ listed := mem_sortNames.mp hname
    obtain rfl := Option.some.inj (Except.ok.inj ((h.loads x name hx hmem).symm.trans hanswer))
    exact ⟨name, hmem, rfl, id, rfl⟩
  unlisted x e hx hanswer := by
    obtain ⟨names, hnames, -⟩ := h.lists x hx
    cases hnames.symm.trans hanswer
  unloaded := by
    rintro x name hx ⟨_, rfl, hname⟩ hnone
    exact hnone _ (h.loads x name hx (mem_sortNames.mp hname))

variable (hkey : some namelessKey ∉ listed)
    (hw : (fixedStock answer inSource listed contents).regime.At w)

include hw

/-- On such a source `schemaNames` answers `sortNames listed`. -/
theorem run_schemaNames_fixed :
    ∃ w', Lookup.schemaNames.run (.ofSource answer) w = (.ok (sortNames listed), w') ∧
    (fixedStock answer inSource listed contents).regime.At w' := by
  obtain ⟨names, w', hrun, hw', rfl⟩ := Lookup.exists_run h.stays h.supplied.schemaNames id hw
  exact ⟨w', hrun, hw'⟩

include hkey

/-- **Lookups**: `schemaByName? name` leads to the schema of
`canonicalName? (sortNames listed) name`, unless `name` is spelled like `namelessKey`. -/
theorem reaches_schemaByName? (hname : name ≠ some namelessKey) :
    (Lookup.schemaByName? name).Reaches
    (fixedStock answer inSource listed contents) w (canonicalName? (sortNames listed) name) := by
  have hread := Lookup.run_step answer (.readSchema (cacheKey name)) w
  unfold Lookup.schemaByName?
  refine reaches_bind hread ?_
  cases hcached : w.registry.schema? (cacheKey name) with
  | some s =>
      -- the schema is cached under the name itself, which is listed then
      obtain ⟨listedName, hlisted, hsame, -⟩ := hw.1.schemas _ s hcached
      obtain rfl := eq_of_cacheKey_of_ne hname (fun heq => hkey (heq ▸ hlisted)) hsame
      rw [Registry.canonicalName?_of_mem (mem_sortNames.mpr hlisted)]
      simp only [Registry.perform, hcached]
      exact reaches_pure hw (.some hcached)
  | none =>
      simp only [Registry.perform, hcached]
      obtain ⟨w₁, hnames, hw₁⟩ := run_schemaNames_fixed h hw
      refine reaches_bind hnames ?_
      cases hcanonical : canonicalName? (sortNames listed) name with
      | none => exact reaches_pure hw₁ .none
      | some canonical =>
          have hlisted : (fixedStock answer inSource listed contents).Listed canonical :=
            ⟨_, rfl, Registry.mem_of_canonicalName? hcanonical⟩
          obtain ⟨s, w₂, hrun, hw₂, -⟩ :=
            Lookup.exists_run h.stays (h.supplied.listedSchema hlisted) id hw₁
          refine reaches_bind hrun (reaches_pure hw₂ (.some (Lookup.cached_of_listedSchema hrun)))

omit h in
/-- A schema that is cached under `cacheKey name`, for a listed `name`, is
`(contents name).build id` for some `id`. -/
theorem contents_of_cached {s : Schema} (hlisted : name ∈ listed)
    (hcached : w.registry.schema? (cacheKey name) = some s) :
    ∃ id, s = (contents name).build id := by
  obtain ⟨other, hother, hsame, hcontents⟩ := hw.1.schemas _ s hcached
  have hne {name : SchemaName} (hmem : name ∈ listed) : name ≠ some namelessKey :=
    fun heq => hkey (heq ▸ hmem)
  obtain rfl := eq_of_cacheKey_of_ne (hne hlisted) (hne hother) hsame
  exact hcontents

omit h in
/-- It has as many tables as `contents name`. -/
theorem length_tables_of_cached {s : Schema} (hlisted : name ∈ listed)
    (hcached : w.registry.schema? (cacheKey name) = some s) :
    s.tables.length = (contents name).tables.length := by
  obtain ⟨id, rfl⟩ := contents_of_cached hkey hw hlisted hcached
  rw [SchemaDecl.build, List.length_map, List.length_zipIdx]

omit h in
/-- The comparison in `fullestSchema?` of the schemas `s?` and `s` is the one in `fuller` of their
names `best?` and `name`. -/
theorem all_fewer_tables {best? : Option SchemaName} {s? : Option Schema} {s : Schema}
    (hbest : ∀ b, best? = some b → b ∈ listed) (hcached : w.registry.CachedAs best? s?)
    (hlisted : name ∈ listed) (hs : w.registry.schema? (cacheKey name) = some s) :
    (s?.all fun b => b.tables.length < s.tables.length) =
      best?.all fun b => (contents b).tables.length < (contents name).tables.length := by
  rw [length_tables_of_cached hkey hw hlisted hs]
  cases hcached with
  | none => rfl
  | some hb =>
      rw [Option.all_some, Option.all_some, length_tables_of_cached hkey hw (hbest _ rfl) hb]

/-- The search `fullestSchema? s? names` reaches the schema of `names.foldl (fuller contents) best?`
if `s?` is the one of `best?`. -/
theorem reaches_fullestSchema? {best? : Option SchemaName} {s? : Option Schema}
    (hnames : ∀ name ∈ names, name ∈ listed) (hbest : ∀ b, best? = some b → b ∈ listed)
    (hcached : w.registry.CachedAs best? s?) :
    (Lookup.fullestSchema? s? names).Reaches (fixedStock answer inSource listed contents) w
      (names.foldl (fuller contents) best?) := by
  induction names generalizing w best? s? with
  | nil => exact reaches_pure hw hcached
  | cons name names ih =>
      obtain ⟨hname, hnames⟩ := List.forall_mem_cons.mp hnames
      unfold Lookup.fullestSchema?
      rw [List.foldl_cons]
      by_cases hinformation : name.any isInformationSchema = true
      · rw [if_pos hinformation, fuller, if_pos hinformation]
        exact ih hw hnames hbest hcached
      · rw [if_neg hinformation, fuller, if_neg hinformation]
        obtain ⟨found?, w₁, hrun, hw₁, hfound⟩ :=
          reaches_schemaByName? h hkey hw fun heq => hkey (heq ▸ hname)
        refine reaches_bind hrun ?_
        rw [Registry.canonicalName?_of_mem (mem_sortNames.mpr hname)] at hfound
        have hbetter := hcached.mono (Lookup.within_of_run hrun)
        cases hfound with
        | @some _ s hs =>
            have hsame := all_fewer_tables hkey hw₁ hbest hbetter hname hs
            dsimp only
            rw [hsame]
            split
            · refine ih hw₁ hnames (fun b hb => ?_) (.some hs)
              exact Option.some.inj hb ▸ hname
            · exact ih hw₁ hnames hbest hbetter

/-- The lookup `schemaIfSet? name?` leads to the schema of `resolved? listed name?`. -/
theorem reaches_schemaIfSet? {name? : Option String} (hname : name? ≠ some namelessKey) :
    (Lookup.schemaIfSet? name?).Reaches (fixedStock answer inSource listed contents) w
      (resolved? listed name?) := by
  cases name? with
  | none => exact reaches_pure hw .none
  | some n => exact reaches_schemaByName? h hkey hw hname

/-- The last part of `defaultSchema?` leads to the schema of `onlyOrFullest?` of the listed
names. -/
theorem reaches_onlyOrFullest? : Lookup.Reaches (fixedStock answer inSource listed contents)
    (match sortNames listed with
      | [name] => Lookup.schemaByName? name
      | names =>
          Lookup.fullestSchema? none names) w (onlyOrFullest? contents (sortNames listed)) := by
  have hnames : ∀ name ∈ sortNames listed, name ∈ listed := fun name hname => mem_sortNames.mp hname
  unfold onlyOrFullest?
  split
  · rename_i name hsingle
    have hlisted : name ∈ sortNames listed := hsingle ▸ List.mem_singleton_self name
    have hreaches := reaches_schemaByName? h hkey hw fun heq => hkey (heq ▸ hnames name hlisted)
    rwa [Registry.canonicalName?_of_mem hlisted] at hreaches
  · exact reaches_fullestSchema? h hkey hw hnames nofun .none

/-- **Lookups**: `defaultSchema?` leads to the schema of `defaultName?`. -/
theorem reaches_defaultSchema? (hpreferred : w.registry.preferred ≠ some namelessKey)
    (hproposed : proposed ≠ some namelessKey) : Lookup.defaultSchema?.Reaches
      (fixedStock answer inSource listed contents) w
      (defaultName? listed contents w.registry.preferred proposed) := by
  unfold Lookup.defaultSchema? defaultName?
  refine reaches_bind (Lookup.run_step answer .readPreferred w) ?_
  obtain ⟨s?, w₁, hrun, hw₁, hcached⟩ := reaches_schemaIfSet? h hkey hw hpreferred
  refine reaches_bind hrun ?_
  cases hresolved : resolved? listed w.registry.preferred with
  | some name =>
      rw [hresolved] at hcached
      cases hcached with
      | some hs => exact reaches_pure hw₁ (.some hs)
  | none =>
      rw [hresolved] at hcached
      cases hcached
      rw [Option.none_or]
      have hcall := Lookup.run_call_of_ok (w := w₁) (h.proposes w₁.source hw₁.2)
      have hw₂ : (fixedStock answer inSource listed contents).regime.At
          ⟨w₁.registry, (answer .defaultName w₁.source).2⟩ := ⟨hw₁.1, h.stays _ _ hw₁.2⟩
      refine reaches_bind hcall ?_
      obtain ⟨s?, w₃, hrun, hw₃, hcached⟩ := reaches_schemaIfSet? h hkey hw₂ hproposed
      refine reaches_bind hrun ?_
      cases hresolved : resolved? listed proposed with
      | some name =>
          rw [hresolved] at hcached
          cases hcached with
          | some hs => exact reaches_pure hw₃ (.some hs)
      | none =>
          rw [hresolved] at hcached
          cases hcached
          rw [Option.none_or]
          obtain ⟨w₄, hnames, hw₄⟩ := run_schemaNames_fixed h hw₃
          refine reaches_bind hnames ?_
          exact reaches_onlyOrFullest? h hkey hw₄

end Lookups

/-! ## The default schema -/

section Default

variable {answer : (call : SourceCall) → σ → Except Error call.Answer × σ} {inSource : σ → Prop}
variable {contents : SchemaName → SchemaDecl} {preferred proposed : Option String} {source : σ}

/-- No `CacheStep` changes the configured name `r.preferred`. -/
theorem Registry.preferred_perform (r : Registry) (step : CacheStep) :
    (r.perform step).2.preferred = r.preferred := by
  cases step with
  | readPreferred => rfl
  | readNames => rfl
  | storeNames names =>
      unfold perform
      cases r.names <;> rfl
  | readSchema key => rfl
  | publish key s =>
      rcases hpresent : r.schema? key with _ | present
      · rw [perform_publish_of_none hpresent]
      · rw [perform_publish_of_some hpresent]

/-- No request of a lookup changes it (`Lookup.advance`). -/
theorem Lookup.preferred_advance {α : Type}
    (answer : (call : SourceCall) → σ → Except Error call.Answer × σ) (l : Lookup α) (w : Site σ) :
    (l.advance answer w).2.registry.preferred = w.registry.preferred := by
  cases l with
  | done a => rfl
  | fail e => rfl
  | cache step next => exact w.registry.preferred_perform step
  | ask call next =>
      rcases hanswer : answer call w.source with ⟨e | a, x⟩
      · simp only [advance, hanswer]
      · simp only [advance, hanswer]
        cases call with
        | listNames => rfl
        | defaultName => rfl
        | load name => cases a <;> rfl

/-- The configured name stays in every run of `SharedEvent`s, whatever callers do. -/
theorem Shared.preferred_run (answer : (call : SourceCall) → σ → Except Error call.Answer × σ)
    (s : Shared σ) (es : List SharedEvent) :
    (s.run answer es).site.registry.preferred = s.site.registry.preferred := by
  induction es generalizing s with
  | nil => rfl
  | cons e es ih =>
      refine (ih (s.step answer e)).trans ?_
      cases e with
      | enter q => rfl
      | refresh => rfl
      | advance i =>
          unfold step
          dsimp only
          split
          · exact Lookup.preferred_advance answer _ _
          · rfl

/-- **The default schema.** Let a source that does not fail always list the same names, in any
order, load the same contents for each of them and propose the same default name or none, and
let neither a listed name nor the configured or the proposed one be spelled like the key of the
nameless schema. These alone decide which listed name is the default name, if any
(`DefaultName`). Whatever callers have looked up and whenever the registry was refreshed, the
lookup of the default schema answers with the schema of that name, or with none if there is no
such name. It is the schema that was cached under this name, if one was, and in any case the one
that is cached under it from now on. -/
theorem defaultSchema?_follows_names (h : FixedContents answer inSource listed contents proposed)
    (hkey : some namelessKey ∉ listed) (hpreferred : preferred ≠ some namelessKey)
    (hproposed : proposed ≠ some namelessKey) (firstId : SchemaId) (hsource : inSource source) :
    ∃ name?, DefaultName listed contents preferred proposed name? ∧
      (∀ other?, DefaultName listed contents preferred proposed other? → other? = name?) ∧
      ∀ es : List SharedEvent, let w := ((Shared.new preferred firstId source).run answer es).site
        ∃ s? w', Lookup.defaultSchema?.run (.ofSource answer) w = (.ok s?, w') ∧
          Option.Rel (fun name s => (∃ id, s = (contents name).build id) ∧
            w'.registry.schema? (cacheKey name) = some s ∧
            ∀ s', w.registry.schema? (cacheKey name) = some s' → s' = s) name? s? := by
  refine ⟨_, defaultName_defaultName?, fun _ hother => hother.eq, fun es => ?_⟩
  intro w
  have hw : (fixedStock answer inSource listed contents).regime.At w :=
    h.supplied.at_run h.stays (fun x e hx hanswer => nomatch (h.proposes x hx).symm.trans hanswer)
      preferred
      (Nat.zero_le firstId) hsource es
  have hconfigured : w.registry.preferred = preferred := Shared.preferred_run answer _ es
  obtain ⟨s?, w', hrun, hw', hcached⟩ :=
    reaches_defaultSchema? h hkey hw (hconfigured.symm ▸ hpreferred) hproposed
  rw [hconfigured] at hcached
  refine ⟨s?, w', hrun, ?_⟩
  generalize hname : defaultName? listed contents preferred proposed = name? at hcached ⊢
  cases hcached with
  | none => exact .none
  | @some name s hs =>
      refine .some ⟨?_, hs, fun s' hs' => ?_⟩
      · exact contents_of_cached hkey hw' (mem_of_defaultName (hname ▸ defaultName_defaultName?)) hs
      · exact Option.some.inj (((Lookup.within_of_run hrun).schemas _ _ hs').symm.trans hs)

/-- A `FixedCatalog` without phantoms has `FixedContents`: it lists the names of its declarations
and loads for each name the first declaration of that name. -/
theorem FixedCatalog.fixedContents (schemas : List SchemaDecl) (proposed : Option String) :
    FixedContents FixedCatalog.answer
      (fun c => c.schemas = schemas ∧ c.phantoms = [] ∧ c.defaultName = proposed)
      (schemas.map (·.name))
      (fun name => (findDecl? schemas name).getD default) proposed where
  stays call c hc := by
    cases call with
    | listNames => exact hc
    | defaultName => exact hc
    | load name => exact hc
  lists := by
    rintro c ⟨rfl, hphantoms, -⟩
    refine ⟨_, rfl, fun name => ?_⟩
    rw [hphantoms, List.map_nil, List.append_nil]
  proposes := by
    rintro c ⟨-, -, rfl⟩
    rfl
  loads := by
    rintro c name ⟨rfl, hphantoms, -⟩ hname
    obtain ⟨d, hd⟩ := (FixedCatalog.delivers c.schemas).loads c name ⟨rfl, hphantoms⟩ hname
    have hfound : findDecl? c.schemas name = some d := Except.ok.inj hd
    rw [hd, hfound]
    rfl

/-- Two schemas have as many tables, and one about the database itself has more. The first of the
two is the default, whether or not the other one has been looked up before. -/
theorem defaultSchema?_follows_names_tie :
    let tables : List TableDecl := [⟨"T", .table, []⟩, ⟨"U", .table, []⟩]
    let schemas : List SchemaDecl :=
      [⟨some "Information_Schema", ⟨"V", .view, []⟩ :: tables⟩, ⟨some "B", tables⟩,
      ⟨none, [⟨"T", .table, []⟩]⟩, ⟨some "A", tables⟩]
    let inSource :=
      fun c : FixedCatalog => c.schemas = schemas ∧ c.phantoms = [] ∧ c.defaultName = some "d"
    FixedContents FixedCatalog.answer inSource (schemas.map (·.name))
      (fun name => (findDecl? schemas name).getD default) (some "d") ∧
      some namelessKey ∉ schemas.map (·.name) ∧ inSource ⟨schemas, [], some "d", 0, 0⟩ ∧
      ∀ n,
        let w := ((Shared.new (some "c") 0 (⟨schemas, [], some "d", 0, 0⟩ : FixedCatalog)).run
          FixedCatalog.answer
          (.enter (.schema (some "b")) :: List.replicate n (.advance 0))).site
        ∃ id w', Lookup.defaultSchema?.run (.ofSource FixedCatalog.answer) w =
          (.ok (some (SchemaDecl.build ⟨some "A", tables⟩ id)), w') := by
  intro tables schemas inSource
  have hsource := FixedCatalog.fixedContents schemas (some "d")
  have hkey : some namelessKey ∉ schemas.map (·.name) := by decide
  refine ⟨hsource, hkey, ⟨rfl, rfl, rfl⟩, fun n => ?_⟩
  have hpreferred : some "c" ≠ some namelessKey := by decide
  have hstart : inSource ⟨schemas, [], some "d", 0, 0⟩ := ⟨rfl, rfl, rfl⟩
  obtain ⟨name?, -, hunique, hruns⟩ :=
    defaultSchema?_follows_names hsource hkey hpreferred (by decide) 0 hstart
  have hunresolved : ∀ n ∈ ["c", "d"], Unresolved (schemas.map (·.name)) (some n) := by
    have hdiffers : ∀ n ∈ ["c", "d"], ∀ name ∈ schemas.map (·.name), ∀ m ∈ name,
        Text.equalIgnoringCase m n = false := by decide +kernel
    rintro n hn _ m ⟨⟩ hm
    cases (hdiffers n hn _ hm.mem m rfl).symm.trans hm.same
  have hdefault : some (some "A") = name? := by
    refine hunique _ (.fullest (hunresolved _ (by decide)) (hunresolved _ (by decide)) ?_ ?_)
    · rintro ⟨name, hname⟩
      have hnone : none = name := (hname none).mp (by decide)
      exact nomatch ((hname (some "A")).mp (by decide)).trans hnone.symm
    · unfold Fullest
      decide +kernel
  obtain ⟨s?, w', hrun, hrel⟩ :=
    hruns (.enter (.schema (some "b")) :: List.replicate n (.advance 0))
  rw [← hdefault] at hrel
  cases hrel with
  | some hs =>
      obtain ⟨⟨id, rfl⟩, -⟩ := hs
      exact ⟨id, w', hrun⟩

end Default

end DataAccess.Catalog
