import DataAccess.Proofs.CacheCoherence
import DataAccess.Proofs.LabelParts
import Mathlib.Data.List.Induction

/-!
# Table names: apart when declared, apart when looked up

A table can be created unless there is one whose name differs at most in the case of ASCII letters.
A table is looked up by its exact name, and else by any name of the same lower-case form. So two
names may be apart for the first and alike for the second.

* **Case** (`equalIgnoringCase_of_ascii`): names that are alike when declared are alike when looked
  up.
* **Candidates** (`Schema.apart_iff_candidates`): the names of the tables of a schema are apart for
  lookups if and only if no lookup has more than one candidate.
* **Declarations** (`declareTable_eq_none_iff`, `declareTable_apart_iff`, `undeclareTable_apart`):
  when a table can be declared, and what becomes of the names.
* **Updates** (`apart_update_iff`, `apart_run_iff`): only the creation of a table brings names
  together, whatever rule says which names are alike.
* **All together** (`declared_names_apart`): the names of declared tables are apart for
  declarations, and for lookups as long as no twin (`Twin`) is created.
* **Twins are created** (`not_apart_twinRun`).
-/

namespace DataAccess

open Catalog

/-! ## Case -/

namespace Text

/-- `isCaseIgnorable` does not depend on the case of ASCII letters. -/
theorem isCaseIgnorable_toLower (c : Char) : isCaseIgnorable c.toLower = isCaseIgnorable c := by
  rcases toLower_cases c with hsame | ⟨hle, hge, hlower⟩
  · rw [hsame]
  · have hletters : ∀ n < 26, inRanges ignorableRanges (65 + n) = false ∧
        inRanges ignorableRanges (65 + n + 32) = false := by decide +kernel
    have hletter := hletters (c.toNat - 65) (by omega)
    rw [Nat.add_sub_cancel' hle] at hletter
    rw [isCaseIgnorable, isCaseIgnorable, hlower, hletter.1, hletter.2]

/-- `isCased` does not depend on the case of ASCII letters. -/
theorem isCased_toLower (c : Char) : isCased c.toLower = isCased c := by
  rcases toLower_cases c with hsame | ⟨hle, hge, hlower⟩
  · rw [hsame]
  · have hfirst : 97 ≤ c.toLower.toNat := by omega
    have hlast : c.toLower.toNat ≤ 122 := by omega
    have hcapital : c.isUpper = true := decide_eq_true ⟨hle, hge⟩
    have hsmall : c.toLower.isLower = true :=
      Bool.and_eq_true_iff.mpr ⟨decide_eq_true hfirst, decide_eq_true hlast⟩
    have hboth (d : Char) : d.isAlpha = (d.isUpper || d.isLower) := rfl
    rw [isCased, isCased, if_pos (by omega), if_pos (by omega), hboth, hboth, hcapital,
      hsmall, Bool.or_true,
      Bool.true_or]

/-- `reachesCased`, and with it the end of a word, does not depend on the case of ASCII letters. -/
theorem reachesCased_map_toLower (cs : List Char) :
    reachesCased (cs.map Char.toLower) = reachesCased cs := by
  unfold reachesCased
  have hpassed : isCaseIgnorable ∘ Char.toLower = isCaseIgnorable := funext isCaseIgnorable_toLower
  rw [List.dropWhile_map, hpassed]
  cases cs.dropWhile isCaseIgnorable with
  | nil => rfl
  | cons c rest => exact isCased_toLower c

/-- `lowerChar` does not depend on the case of ASCII letters. -/
theorem lowerChar_toLower (c : Char) : lowerChar c.toLower = lowerChar c := by
  rcases toLower_cases c with hsame | ⟨hle, hge, hlower⟩
  · rw [hsame]
  · have hascii : IsAscii c := by
      unfold IsAscii
      omega
    rw [lowerChar_of_isAscii hascii, lowerChar_of_isAscii (isAscii_toLower.mpr hascii)]
    rcases toLower_cases c.toLower with hsame | ⟨-, hge', -⟩
    · rw [hsame]
    · omega

/-- The capital `Σ` is no letter of ASCII, so `Char.toLower` neither gives it nor takes it away. -/
theorem toLower_eq_sigma_iff (c : Char) : c.toLower = 'Σ' ↔ c = 'Σ' := by
  rcases toLower_cases c with hsame | ⟨hle, hge, hlower⟩
  · rw [hsame]
  · constructor
    · intro h
      rw [h] at hlower
      have hsigma : 'Σ'.toNat = 931 := rfl
      omega
    · rintro rfl
      rfl

/-- `lowerFrom` does not depend on the case of ASCII letters. -/
theorem lowerFrom_map_toLower (before cs : List Char) :
    lowerFrom (before.map Char.toLower) (cs.map Char.toLower) = lowerFrom before cs := by
  induction cs generalizing before with
  | nil => rfl
  | cons c cs ih =>
      rw [List.map_cons, lowerFrom, lowerFrom, reachesCased_map_toLower, reachesCased_map_toLower,
        lowerChar_toLower, ← ih (c :: before), List.map_cons]
      simp only [toLower_eq_sigma_iff]

/-- `equalIgnoringCase` is symmetric. -/
theorem equalIgnoringCase_comm (a b : String) : equalIgnoringCase a b = equalIgnoringCase b a := by
  rw [Bool.eq_iff_iff, equalIgnoringCase_iff, equalIgnoringCase_iff]
  exact eq_comm

/-- **Case**: `equalIgnoringAsciiCase a b` implies `equalIgnoringCase a b`. -/
theorem equalIgnoringCase_of_ascii {a b : String} (h : equalIgnoringAsciiCase a b = true) :
    equalIgnoringCase a b = true := by
  rw [equalIgnoringAsciiCase_iff] at h
  rw [equalIgnoringCase_iff, lowercase, lowercase, lowerChars, lowerChars,
    ← lowerFrom_map_toLower [] a.toList,
    ← lowerFrom_map_toLower [] b.toList, h]

end Text

/-! ## Candidates -/

namespace Catalog

/-- Whether no two of some names are `alike`. -/
def Apart (alike : String → String → Bool) (names : List String) : Prop :=
  names.Pairwise fun a b => alike a b = false

/-- The tables among which a lookup chooses if none has exactly that name: those that are
`equalIgnoringCase` to it. It gives the first of them. -/
def Schema.candidates (s : Schema) (name : String) : List Table :=
  s.tables.filter fun t => Text.equalIgnoringCase t.name name

/-- `s.table? name` is the table of exactly that name, and else the first of `s.candidates name`. -/
theorem Schema.table?_eq (s : Schema) (name : String) :
    s.table? name = (s.tables.find? (·.name == name) <|> (s.candidates name).head?) := by
  rw [table?, candidates, List.head?_filter]

/-- Names are `Apart` for lookups exactly if each name is `equalIgnoringCase` to one of them at
most. -/
theorem apart_iff_countP_le (names : List String) :
    Apart Text.equalIgnoringCase names ↔
      ∀ name, names.countP (Text.equalIgnoringCase · name) ≤ 1 := by
  induction names with
  | nil => exact iff_of_true List.Pairwise.nil fun _ => Nat.zero_le 1
  | cons a names ih =>
      unfold Apart at ih ⊢
      rw [List.pairwise_cons, ih]
      constructor
      · rintro ⟨hfirst, hrest⟩ name
        rw [List.countP_cons]
        split
        case isTrue halike =>
          have hnone : names.countP (Text.equalIgnoringCase · name) = 0 := by
            rw [List.countP_eq_zero]
            intro b hb hb'
            have hsame : Text.equalIgnoringCase a b = true := by
              rw [Text.equalIgnoringCase_iff] at halike hb' ⊢
              exact halike.trans hb'.symm
            cases hsame.symm.trans (hfirst b hb)
          exact Nat.le_of_eq (congrArg (· + 1) hnone)
        case isFalse => exact hrest name
      · intro h
        refine ⟨fun b hb => ?_, fun name => ?_⟩
        · have hself : Text.equalIgnoringCase a a = true := Text.equalIgnoringCase_iff.mpr rfl
          have hone := h a
          rw [List.countP_cons, if_pos hself] at hone
          have hnone : names.countP (Text.equalIgnoringCase · a) = 0 := by omega
          rw [Text.equalIgnoringCase_comm, Bool.eq_false_iff]
          exact List.countP_eq_zero.mp hnone b hb
        · have hone := h name
          rw [List.countP_cons] at hone
          exact Nat.le_of_add_right_le hone

/-- **Candidates**: the names of the tables of a schema are `Apart` for lookups exactly if no lookup
has more than one of `s.candidates`. -/
theorem Schema.apart_iff_candidates (s : Schema) :
    Apart Text.equalIgnoringCase s.tableNames ↔ ∀ name, (s.candidates name).length ≤ 1 := by
  have hcandidates (name : String) :
      (s.candidates name).length = s.tableNames.countP (Text.equalIgnoringCase · name) := by
    rw [Schema.candidates, ← List.countP_eq_length_filter, Schema.tableNames, List.countP_map]
    rfl
  simp only [hcandidates]
  exact apart_iff_countP_le s.tableNames

end Catalog

/-! ## Declarations -/

/-- One more name is `Apart` from the others if it is `alike` to none of them. -/
theorem Catalog.SchemaDecl.apart_append_iff {alike : String → String → Bool} (d : SchemaDecl)
    (t : TableDecl) :
    Apart alike ((d.append t).tables.map (·.name)) ↔
      Apart alike (d.tables.map (·.name)) ∧ ∀ t' ∈ d.tables, alike t'.name t.name = false := by
  unfold Apart append
  rw [List.map_append, List.pairwise_append]
  simp

namespace Memory.Store

variable {schemas schemas' : List SchemaDecl} {schema : SchemaName} {alike : String → String → Bool}

/-- The tables that are declared in the schema of a name. -/
def tablesOf (schemas : List SchemaDecl) (schema : SchemaName) : List TableDecl :=
  ((findDecl? schemas schema).map (·.tables)).getD []

/-- The first schema of a name is the one that counts in `tablesOf`. -/
theorem tablesOf_cons (d : SchemaDecl) (rest : List SchemaDecl) (schema : SchemaName) :
    tablesOf (d :: rest) schema = if d.name = schema then d.tables else tablesOf rest schema := by
  unfold tablesOf findDecl?
  by_cases h : d.name = schema
  · rw [if_pos h, List.find?_cons_of_pos (by simp [h])]
    rfl
  · rw [if_neg h, List.find?_cons_of_neg (by simp [h])]

/-- Whether the names of the tables of each schema are `Apart`. -/
def NamesApart (alike : String → String → Bool) (schemas : List SchemaDecl) : Prop :=
  ∀ d ∈ schemas, Apart alike (d.tables.map (·.name))

/-- **Declarations**: `declareTable` refuses a table exactly if its schema has one whose name is
`equalIgnoringAsciiCase` to its own. -/
theorem declareTable_eq_none_iff (table : TableDecl) :
    declareTable schema table schemas = none ↔
      ∃ t ∈ tablesOf schemas schema, Text.equalIgnoringAsciiCase t.name table.name = true := by
  induction schemas with
  | nil => exact iff_of_false nofun nofun
  | cons d rest ih =>
      rw [declareTable, tablesOf_cons]
      split
      case isTrue =>
        rw [Option.map_eq_none_iff, SchemaDecl.insert?, ← List.any_eq_true]
        unfold SchemaDecl.contains
        split
        case isTrue hcontains => exact iff_of_true rfl hcontains
        case isFalse hcontains => exact iff_of_false nofun hcontains
      case isFalse => rw [Option.map_eq_none_iff, ih]

/-- **Declarations**: `declareTable` keeps `NamesApart` exactly if the new name is `alike` to none
in its schema. -/
theorem declareTable_apart_iff {table : TableDecl}
    (h : declareTable schema table schemas = some schemas') (hs : NamesApart alike schemas) :
    NamesApart alike schemas' ↔ ∀ t ∈ tablesOf schemas schema, alike t.name table.name = false := by
  unfold NamesApart at hs ⊢
  induction schemas generalizing schemas' with
  | nil =>
      obtain rfl := Option.some.inj h
      refine iff_of_true (fun d hd => ?_) nofun
      rw [List.mem_singleton.mp hd]
      exact List.pairwise_singleton _ _
  | cons d rest ih =>
      obtain ⟨hd, hrest⟩ := List.forall_mem_cons.mp hs
      rw [declareTable] at h
      rw [tablesOf_cons]
      split at h
      case isTrue hname =>
        obtain ⟨d', hinsert, rfl⟩ := Option.map_eq_some_iff.mp h
        unfold SchemaDecl.insert? at hinsert
        split at hinsert
        case isTrue => cases hinsert
        case isFalse =>
          obtain rfl := Option.some.inj hinsert
          rw [if_pos hname, List.forall_mem_cons, and_iff_left hrest, SchemaDecl.apart_append_iff,
            and_iff_right hd]
      case isFalse hname =>
        obtain ⟨rest', hrest', rfl⟩ := Option.map_eq_some_iff.mp h
        rw [if_neg hname, List.forall_mem_cons, and_iff_right hd]
        exact ih hrest' hrest

/-- **Declarations**: `undeclareTable` keeps `NamesApart`. -/
theorem undeclareTable_apart {table : String}
    (h : undeclareTable schema table schemas = some schemas') (hs : NamesApart alike schemas) :
    NamesApart alike schemas' := by
  unfold NamesApart at hs ⊢
  induction schemas generalizing schemas' with
  | nil => cases h
  | cons d rest ih =>
      obtain ⟨hd, hrest⟩ := List.forall_mem_cons.mp hs
      rw [undeclareTable] at h
      split at h
      case isTrue =>
        obtain ⟨d', herase, rfl⟩ := Option.map_eq_some_iff.mp h
        unfold SchemaDecl.erase? at herase
        split at herase
        case isFalse => cases herase
        case isTrue =>
          obtain rfl := Option.some.inj herase
          exact List.forall_mem_cons.mpr ⟨hd.sublist (List.filter_sublist.map _), hrest⟩
      case isFalse =>
        obtain ⟨rest', hrest', rfl⟩ := Option.map_eq_some_iff.mp h
        exact List.forall_mem_cons.mpr ⟨hd, ih hrest' hrest⟩

/-! ## Updates -/

variable {s : Store}

/-- The update `createTable` in terms of `declareTable`. -/
theorem update_createTable (s : Store) (schema : SchemaName) (table : TableDecl) :
    s.update (.createTable schema table) =
      match declareTable schema table s.schemas with
      | some schemas => (.ok 0, { s with schemas }.setRows (schema, table.name) [])
      | none => (.error (.illegalState s!"Table '{table.name}' already exists"), s) := by
  have hchange : s.change (.createTable schema table) =
      s.createTable schema table >>= fun s => .ok (0, s) := rfl
  rw [update, hchange, createTable]
  cases declareTable schema table s.schemas <;> rfl

/-- **Creating a table** is refused, without effect, exactly if its schema has one whose name is
`equalIgnoringAsciiCase` to its own, and is accepted else. -/
theorem update_createTable_iff (s : Store) (schema : SchemaName) (table : TableDecl) :
    let taken :=
      ∃ t ∈ tablesOf s.schemas schema, Text.equalIgnoringAsciiCase t.name table.name = true
    let answer := s.update (.createTable schema table)
    (answer = (.error (.illegalState s!"Table '{table.name}' already exists"), s) ↔ taken) ∧
      (answer.1 = .ok 0 ↔ ¬ taken) := by
  rw [← declareTable_eq_none_iff, update_createTable]
  cases declareTable schema table s.schemas with
  | none => exact ⟨iff_of_true rfl rfl, iff_of_false nofun fun h => h rfl⟩
  | some schemas => exact ⟨iff_of_false nofun nofun, iff_of_true rfl nofun⟩

/-- Whether an update creates a table although its schema has one whose name is `alike`. -/
def Clashes (alike : String → String → Bool) (s : Store) : Update → Prop
  | .createTable schema table => (s.update (.createTable schema table)).1 = .ok 0 ∧
      ∃ t ∈ tablesOf s.schemas schema, alike t.name table.name = true
  | _ => False

/-- An update that creates and drops no table (`u.isDdl = false`) leaves `s.schemas`. -/
theorem schemas_update {u : Update} (hu : u.isDdl = false) :
    (s.update u).2.schemas = s.schemas := by
  unfold update
  split
  case h_1 count s' h => exact schemas_of_change hu h
  case h_2 => rfl

/-- **One update** keeps `NamesApart` exactly if it is no clash, `¬ s.Clashes alike u`. -/
theorem apart_update_iff (hs : NamesApart alike s.schemas) (u : Update) :
    NamesApart alike (s.update u).2.schemas ↔ ¬ s.Clashes alike u := by
  cases u with
  | createTable schema table =>
      rw [Clashes, update_createTable]
      cases hdeclare : declareTable schema table s.schemas with
      | none => exact iff_of_true hs nofun
      | some schemas =>
          rw [and_iff_right rfl]
          refine (declareTable_apart_iff hdeclare hs).trans ?_
          simp only [not_exists, not_and, Bool.not_eq_true]
  | dropTable t =>
      refine iff_of_true ?_ id
      unfold update
      split
      case h_1 count s' h =>
        obtain ⟨schemas, hschemas, rfl⟩ := dropTable_eq_ok (change_eq_ok h)
        exact undeclareTable_apart hschemas hs
      case h_2 => exact hs
  | insert t rows =>
      rw [schemas_update (u := .insert t rows) rfl]
      exact iff_of_true hs id
  | delete t filters =>
      rw [schemas_update (u := .delete t filters) rfl]
      exact iff_of_true hs id

/-- What an update keeps exactly if it does not break it holds after each of the updates exactly if
none of them breaks it at its time. -/
theorem holds_run_iff {P : Store → Prop} {Breaks : Store → Update → Prop}
    (hstep : ∀ {s}, P s → ∀ u, P (s.update u).2 ↔ ¬ Breaks s u) (hs : P s) (us : List Update) :
    (∀ past, past <+: us → P (s.run past)) ↔ ∀ past u, past ++ [u] <+: us →
      ¬ Breaks (s.run past) u := by
  constructor
  · intro h past u hpast
    have hafter : P (s.run (past ++ [u])) := h _ hpast
    rw [run_append] at hafter
    exact (hstep (h past ((List.prefix_append past [u]).trans hpast)) u).mp hafter
  · intro h past hpast
    induction past using List.reverseRecOn with
    | nil => exact hs
    | append_singleton past u ih =>
        rw [run_append]
        exact (hstep (ih ((List.prefix_append past [u]).trans hpast)) u).mpr (h past u hpast)

/-- **All updates**: in a store that was empty at first, `NamesApart` holds after each of the
updates exactly if none of them is a clash at its time. -/
theorem apart_run_iff (alike : String → String → Bool) (us : List Update) :
    (∀ past, past <+: us → NamesApart alike (Store.run {} past).schemas) ↔
      ∀ past u, past ++ [u] <+: us → ¬ (Store.run {} past).Clashes alike u :=
  holds_run_iff (P := fun s => NamesApart alike s.schemas) apart_update_iff
    (fun _ h => absurd h List.not_mem_nil) us

/-- No update is a clash by the rule that declarations go by, `equalIgnoringAsciiCase`. -/
theorem not_clashes_ascii (s : Store) (u : Update) : ¬ s.Clashes Text.equalIgnoringAsciiCase u := by
  cases u with
  | createTable schema table =>
      rintro ⟨haccepted, htaken⟩
      exact (update_createTable_iff s schema table).2.mp haccepted htaken
  | dropTable t => exact id
  | insert t rows => exact id
  | delete t filters => exact id

/-- **All updates**: `NamesApart` holds all the time by that rule. -/
theorem apart_ascii_run (us : List Update) :
    NamesApart Text.equalIgnoringAsciiCase (Store.run {} us).schemas :=
  (apart_run_iff _ us).mpr (fun _ u _ => not_clashes_ascii _ u) us (List.prefix_refl us)

/-! ## Twins -/

/-- Whether an update creates a twin: a table although its schema has one that is
`equalIgnoringCase` to it. -/
def Twin (s : Store) (u : Update) : Prop := s.Clashes Text.equalIgnoringCase u

/-- A table is a `Twin` exactly if its schema has one that is `equalIgnoringCase` to it and none
that is `equalIgnoringAsciiCase`. -/
theorem twin_createTable_iff (s : Store) (schema : SchemaName) (table : TableDecl) :
    s.Twin (.createTable schema table) ↔
      (∃ t ∈ tablesOf s.schemas schema, Text.equalIgnoringCase t.name table.name = true) ∧
      ¬ ∃ t ∈ tablesOf s.schemas schema, Text.equalIgnoringAsciiCase t.name table.name = true := by
  rw [Twin, Clashes, (update_createTable_iff s schema table).2]
  exact and_comm

/-- A `Twin` or its partner has a letter beyond ASCII in its name, for on ASCII the two rules
agree. -/
theorem not_isAscii_of_twin {schema : SchemaName} {table : TableDecl}
    (h : s.Twin (.createTable schema table)) :
    ∃ t ∈ tablesOf s.schemas schema, ∃ c ∈ t.name.toList ++ table.name.toList,
      ¬ Text.IsAscii c := by
  obtain ⟨⟨t, ht, halike⟩, hfree⟩ := (twin_createTable_iff s schema table).mp h
  refine ⟨t, ht, ?_⟩
  by_contra hascii
  simp only [not_exists, not_and, not_not, List.mem_append] at hascii
  have hsame := (Text.equalIgnoringCase_iff_of_isAscii (fun c hc => hascii c (.inl hc))
    fun c hc => hascii c (.inr hc)).mp halike
  exact hfree ⟨t, ht, hsame⟩

/-- **Declared names are apart.** In every state that updates lead to from an empty store

* `NamesApart` holds by `equalIgnoringAsciiCase`;
* a creation is refused, for that reason and without effect, exactly if it would change this, and it
  is accepted else;
* names that are `equalIgnoringAsciiCase` are `equalIgnoringCase`, as lookups compare them;
* a lookup in a built schema gives the table of exactly that name, and else the first of
  `candidates`, and the names are `Apart` for lookups exactly if no lookup has more than one of
  them.

And `NamesApart` holds for lookups all the time exactly if no update creates a `Twin`. Of the two
names of a twin one is not in ASCII. -/
theorem declared_names_apart (us : List Update) :
    let s := Store.run {} us
    NamesApart Text.equalIgnoringAsciiCase s.schemas ∧
    (∀ schema table,
      let taken :=
        ∃ t ∈ tablesOf s.schemas schema, Text.equalIgnoringAsciiCase t.name table.name = true
      let answer := s.update (.createTable schema table)
      (answer = (.error (.illegalState s!"Table '{table.name}' already exists"), s) ↔ taken) ∧
        (answer.1 = .ok 0 ↔ ¬ taken)) ∧
    (∀ a b, Text.equalIgnoringAsciiCase a b = true → Text.equalIgnoringCase a b = true) ∧
    (∀ (built : Schema) name,
      built.table? name = (built.tables.find? (·.name == name) <|> (built.candidates name).head?)) ∧
    (NamesApart Text.equalIgnoringCase s.schemas ↔
      ∀ d ∈ s.schemas, ∀ id name, ((d.build id).candidates name).length ≤ 1) ∧
    ((∀ past, past <+: us → NamesApart Text.equalIgnoringCase (Store.run {} past).schemas) ↔
      ∀ past u, past ++ [u] <+: us → ¬ (Store.run {} past).Twin u) ∧
    ∀ schema table,
      (s.Twin (.createTable schema table) ↔
        (∃ t ∈ tablesOf s.schemas schema, Text.equalIgnoringCase t.name table.name = true) ∧
        ¬ ∃ t ∈ tablesOf s.schemas schema, Text.equalIgnoringAsciiCase t.name table.name = true) ∧
      (s.Twin (.createTable schema table) →
        ∃ t ∈ tablesOf s.schemas schema, ∃ c ∈ t.name.toList ++ table.name.toList,
          ¬ Text.IsAscii c) := by
  intro s
  refine ⟨apart_ascii_run us, update_createTable_iff s, fun _ _ => Text.equalIgnoringCase_of_ascii,
    Schema.table?_eq, ?_, apart_run_iff Text.equalIgnoringCase us,
    fun schema table => ⟨twin_createTable_iff s schema table, not_isAscii_of_twin⟩⟩
  refine forall₂_congr fun d _ => ?_
  have hbuilt (id : SchemaId) :
      Apart Text.equalIgnoringCase (d.tables.map (·.name)) ↔
        ∀ name, ((d.build id).candidates name).length ≤ 1 := by
    rw [← Schema.apart_iff_candidates, SchemaDecl.build_tableNames]
  exact ⟨fun h id => (hbuilt id).mp h, fun h => (hbuilt 0).mpr (h 0)⟩

/-- Two tables whose names, `TÉ` and `té`, differ in the case of a letter beyond ASCII. -/
def twinRun : List Update :=
  [.createTable (some "A") (narrow "TÉ"), .createTable (some "A") (narrow "té")]

/-- **Twins are created**: both tables of `twinRun` are there, and a lookup of `tÉ` has both of them
as `candidates`. -/
theorem not_apart_twinRun :
    let s := Store.run {} twinRun
    ((Store.run {} [.createTable (some "A") (narrow "TÉ")]).update
      (.createTable (some "A") (narrow "té"))).1 = .ok 0 ∧
    ¬ NamesApart Text.equalIgnoringCase s.schemas ∧
    ∃ d, findDecl? s.schemas (some "A") = some d ∧ d.table? "tÉ" = none ∧
      ((d.build 0).candidates "tÉ").length = 2 := by
  intro s
  have hfound : findDecl? s.schemas (some "A") = some ⟨some "A", [narrow "TÉ", narrow "té"]⟩ := rfl
  refine ⟨rfl, fun h => ?_, _, hfound, rfl, by decide +kernel⟩
  have hboth : Text.equalIgnoringCase "TÉ" "té" = true := by decide +kernel
  have hapart := h _ (List.mem_of_find?_eq_some hfound)
  cases hboth.symm.trans (List.rel_of_pairwise_cons hapart List.mem_cons_self)

end Memory.Store

end DataAccess
