import DataAccess.Proofs.LabelSearch
import Mathlib.Data.Option.Basic

/-!
# Label soundness: a label spells the column that it is read as

Whatever a label is made of, the column that it is read as is one whose names it spells: that of the
schema and that of the table, each with delimiters after it, and that of the column. The name of a
table may be missing if the schema has no other one. That of a schema may be missing if it has none,
or is the default schema.

* **Names at the front** (`Label.Leads`): a name and delimiters after it. It is not only the
  beginning of a longer part of the label (`Label.Leads.endsPart`).
* **One schema** (`exists_of_columnByPath?`): what a path spells in a schema.
* **All schemas** (`exists_of_resolve?`): what comes before the path.
* **Soundness** (`columnByLabel?_sound`), for a source that may fail and may list other names from
  time to time.
-/

namespace DataAccess.Catalog

open Text

variable {σ α : Type}

/-! ## Names at the front -/

namespace Label

variable {case : Case} {label front rest : List Char} {name : String}

/-- Whether `front` is `name` with delimiters after it: `front = text ++ delimiters`, where
`text` spells `name` in any case (`Spells .insensitive`) and `delimiters` are one or more dots
and quotes. -/
def Leads (front : List Char) (name : String) : Prop :=
  ∃ text delimiters, front = text ++ delimiters ∧ Spells .insensitive text name.toList ∧
    delimiters ≠ [] ∧ ∀ c ∈ delimiters, isDelimiter c = true

/-- Whether `name` ends where a part of `label` ends: if `label = text ++ rest` and `text` spells
`name`, then `rest` begins with a delimiter. So `AB` does not end a part of `ABC.X`. -/
def EndsPart (label : List Char) (name : String) : Prop :=
  ∀ text rest, label = text ++ rest → Spells .insensitive text name.toList →
    ∃ c ∈ rest.head?, isDelimiter c = true

/-- If `front` is `name` with delimiters after it (`Leads`), then `name` is not only the beginning
of a part of `front ++ rest` (`EndsPart`). -/
theorem Leads.endsPart (h : Leads front name) (rest : List Char) :
    EndsPart (front ++ rest) name := by
  obtain ⟨text, delimiters, rfl, hspells, hne, hdelimiters⟩ := h
  intro text' rest' hlabel hspells'
  rw [List.append_assoc] at hlabel
  have hlength : text.length = text'.length := hspells.length_eq.trans hspells'.length_eq.symm
  obtain ⟨-, rfl⟩ := List.append_inj hlabel hlength
  cases delimiters with
  | nil => exact absurd rfl hne
  | cons c delimiters => exact ⟨c, rfl, hdelimiters c List.mem_cons_self⟩

/-- What `stripName?` removes from the front of a label is the name with delimiters after it:
`label = front ++ rest` and `Leads front name`. -/
theorem exists_of_stripName? (h : stripName? case name label = some rest) :
    ∃ front, label = front ++ rest ∧ Leads front name := by
  obtain ⟨-, text, delimiters, rfl, hspells, hne, hdelimiters, -⟩ := stripToken?_eq_some_iff.mp h
  exact ⟨text ++ delimiters, (List.append_assoc _ _ _).symm, text, delimiters, rfl,
    hspells.ignoringCase, hne, hdelimiters⟩

end Label

/-! ## One schema -/

section Schema

open Label

variable {s : Schema} {t : Table} {c : Column} {path : List Char} {name : String}

/-- What `t.column? name` finds is a column of `t` whose name is `name` up to case. -/
theorem mem_of_column? (h : t.column? name = some c) : c ∈ t.columns ∧
    equalIgnoringCase c.name name = true := by
  rcases (Option.orElse_eq_some _ _ _).mp h with hexact | ⟨-, hother⟩
  · have hname : c.name = name := by simpa using List.find?_some hexact
    exact ⟨List.mem_of_find?_eq_some hexact, equalIgnoringCase_iff.mpr (congrArg lowercase hname)⟩
  · have hname := List.find?_some hother
    exact ⟨List.mem_of_find?_eq_some hother, hname⟩

/-- A column that `columnOfTables?` finds is one of a table `t`, and `path = front ++ last`, where
`front` is the name of `t` (`Leads`) and `last`, without quotes around it, is the name of the column
up to case. -/
theorem exists_of_columnOfTables? {case : Label.Case} {tables : List Table}
    (h : columnOfTables? case path tables = some c) :
    ∃ t ∈ tables, c ∈ t.columns ∧ ∃ front last, path = front ++ last ∧
      equalIgnoringCase c.name (unquote last) = true ∧
        (front = [] ∧ tables = [t] ∨ Leads front t.name) := by
  obtain ⟨t, ht, hfound⟩ := List.exists_of_findSome?_eq_some h
  obtain ⟨last, hstrip, hcolumn⟩ := Option.bind_eq_some_iff.mp hfound
  obtain ⟨front, rfl, hleads⟩ := exists_of_stripName? hstrip
  obtain ⟨hc, hname⟩ := mem_of_column? hcolumn
  exact ⟨t, ht, hc, front, last, rfl, hname, .inr hleads⟩

/-- **One schema**: so is a column that `s.columnByPath?` finds, except that `front` is empty if `t`
is the only table of `s`. -/
theorem exists_of_columnByPath? (h : s.columnByPath? path = some c) :
    ∃ t ∈ s.tables, c ∈ t.columns ∧ ∃ front last, path = front ++ last ∧
      equalIgnoringCase c.name (unquote last) = true ∧
        (front = [] ∧ s.tables = [t] ∨ Leads front t.name) := by
  rcases (Option.orElse_eq_some _ _ _).mp h with hexact | ⟨-, hrest⟩
  · exact exists_of_columnOfTables? hexact
  · rcases (Option.orElse_eq_some _ _ _).mp hrest with hother | ⟨-, hbare⟩
    · exact exists_of_columnOfTables? hother
    · split at hbare
      · rename_i t htables
        obtain ⟨hc, hname⟩ := mem_of_column? hbare
        exact ⟨t, htables ▸ List.mem_singleton_self t, hc, [], path, rfl, hname,
          .inl ⟨rfl, htables⟩⟩
      · cases hbare

end Schema

/-! ## All schemas -/

/-- Whether a source, in the states `inSource`, lists no names but those of which `listed` holds,
and loads for each of them a schema of that name. It may fail, and may list other names from time to
time. -/
structure Serves (answer : (call : SourceCall) → σ → Except Error call.Answer × σ)
    (inSource : σ → Prop) (listed : SchemaName → Prop) : Prop where
  /-- It stays in these states. -/
  stays : ∀ call x, inSource x → inSource (answer call x).2
  /-- It lists such names. -/
  lists : ∀ x names, inSource x → (answer .listNames x).1 = .ok names → ∀ name ∈ names, listed name
  /-- It loads a schema of the name. -/
  loads : ∀ x name d, inSource x → listed name →
    (answer (.load name) x).1 = .ok (some d) → d.name = name

section Serving

variable {answer : (call : SourceCall) → σ → Except Error call.Answer × σ} {inSource : σ → Prop}
variable {listed : SchemaName → Prop}

/-- A source that always lists the same names (`Provides`) is one that `Serves` them. -/
theorem Provides.serves {names : List SchemaName} {good : SchemaDecl → Prop}
    (h : Provides answer inSource names good) : Serves answer inSource (· ∈ names) where
  stays := h.stays
  lists x others hx hanswer _ hname := h.lists x others hx hanswer ▸ hname
  loads x name d hx hname hanswer := (h.loads x name d hx hname hanswer).1

/-- Whether `d` is a declaration that the source, in one of the states `inSource`, loads for
`d.name`. -/
def Loads (answer : (call : SourceCall) → σ → Except Error call.Answer × σ) (inSource : σ → Prop)
    (d : SchemaDecl) : Prop :=
  ∃ x, inSource x ∧ (answer (.load d.name) x).1 = .ok (some d)

/-- What may be in a registry on a source that `Serves`: lists of names that are `listed`, and under
`cacheKey d.name` what is built from a declaration `d` that it `Loads`. -/
def servedStock (answer : (call : SourceCall) → σ → Except Error call.Answer × σ)
    (inSource : σ → Prop) (listed : SchemaName → Prop) : Stock σ where
  answer
  inSource
  mayFail := True
  lists names := ∀ name ∈ names, listed name
  files key s := ∃ (d : SchemaDecl) (id : SchemaId),
    listed d.name ∧ Loads answer inSource d ∧ key = cacheKey d.name ∧ s = d.build id
  base := 0

variable (h : Serves answer inSource listed)

include h

/-- Such a source delivers what its `servedStock` allows in the registry. -/
theorem Serves.supplied : (servedStock answer inSource listed).Supplied where
  lists x names hx hanswer name hname := h.lists x names hx hanswer name (mem_sortNames.mp hname)
  loads := by
    rintro x name d id hx ⟨names, hnames, hname⟩ hanswer -
    have hlisted := hnames name hname
    obtain rfl := h.loads x name d hx hlisted hanswer
    exact ⟨d, id, hlisted, ⟨x, hx, hanswer⟩, rfl, rfl⟩
  unlisted _ _ _ _ := trivial
  unloaded _ _ _ _ _ := trivial

variable {find : Schema → List Char → Option α} {label : List Char} {a : α} {w w' : Site σ}
variable (hw : (servedStock answer inSource listed).regime.At w)

include hw

/-- What `defaultSchema?` finds is built from a declaration `d` that the source `Loads`, and is
cached under `cacheKey d.name` when the lookup has ended. -/
theorem exists_of_defaultSchema? {s : Schema}
    (hrun : Lookup.defaultSchema?.run (.ofSource answer) w = (.ok (some s), w')) :
    ∃ d id, listed d.name ∧ Loads answer inSource d ∧
      w'.registry.schema? (cacheKey d.name) = some (d.build id) ∧ s = d.build id := by
  have hdefault := h.supplied.defaultSchema? fun _ _ _ _ => trivial
  obtain ⟨hw', -⟩ := Lookup.upholds_of_run h.stays hdefault hw hrun
  obtain ⟨key, hcached⟩ := Lookup.exists_cached_of_defaultSchema? hrun
  obtain ⟨d, id, hlisted, hloads, rfl, rfl⟩ := hw'.1.schemas key s hcached
  exact ⟨d, id, hlisted, hloads, hcached, rfl⟩

/-- The search in the listed schemas leads to a cached schema `d.build id` with
`label = front ++ path`, where `front` is the name of `d` (`Label.Leads`), or is empty and `d` is
nameless. The result is what `find` makes of `path` in that schema. -/
theorem exists_of_searchListed (htoken : ¬ listed (some namelessKey))
    (hrun : (Lookup.searchListed find label).run (.ofSource answer) w = (.ok (some a), w')) :
    ∃ d id front path, listed d.name ∧ Loads answer inSource d ∧
      w'.registry.schema? (cacheKey d.name) = some (d.build id) ∧ label = front ++ path ∧
      find (d.build id) path = some a ∧
      (front = [] ∧ d.name = none ∨ ∃ name, d.name = some name ∧ Label.Leads front name) := by
  obtain ⟨names, hnames, hfound⟩ := searched_of_run hrun
  obtain ⟨name, hname, case, hreads⟩ := hfound.exists_of_some
  obtain ⟨hw', -⟩ :=
    Lookup.upholds_of_run h.stays (upholds_searchListed h.supplied find label) hw hrun
  have hlisted : listed name := hw'.1.names names hnames name hname
  unfold Registry.Reads at hreads
  rcases hpath : Label.pathAfter? case label name with _ | path
  · simp only [hpath] at hreads
    cases hreads
  · simp only [hpath] at hreads
    obtain ⟨s, hcached, ha⟩ := hreads
    obtain ⟨d, id, hd, hloads, hkey, rfl⟩ := hw'.1.schemas _ s hcached
    have hname : name = d.name :=
      eq_of_cacheKey_of_ne (fun hclash => htoken (hclash ▸ hlisted))
        (fun hclash => htoken (hclash ▸ hd)) hkey
    rw [hkey] at hcached
    rcases hd' : d.name with _ | named
    · rw [hname, hd'] at hpath
      obtain rfl : label = path := Option.some.inj hpath
      rw [hd'] at hd hcached
      exact ⟨d, id, [], label, hd'.symm ▸ hd, hloads, hd'.symm ▸ hcached, rfl, ha.symm,
        .inl ⟨rfl, hd'⟩⟩
    · rw [hname, hd'] at hpath
      obtain ⟨front, rfl, hleads⟩ := Label.exists_of_stripName? hpath
      exact ⟨d, id, front, path, hd, hloads, hcached, rfl, ha.symm, .inr ⟨named, hd', hleads⟩⟩

/-- **All schemas**: `resolve? find label` leads to a cached schema `d.build id` in the same way, or
else to the one that `defaultSchema?` comes to after `searchListed` has come to nothing. The result
is what `find` makes of the rest `path` of the label in that schema. -/
theorem exists_of_resolve? (htoken : ¬ listed (some namelessKey)) {label : String}
    (hrun : (Lookup.resolve? find label).run (.ofSource answer) w = (.ok (some a), w')) :
    ∃ d id front path, listed d.name ∧ Loads answer inSource d ∧
      w'.registry.schema? (cacheKey d.name) = some (d.build id) ∧
      Label.normalize label = front ++ path ∧ find (d.build id) path = some a ∧
      (front = [] ∧ (d.name = none ∨ ∃ w₁,
          (Lookup.searchListed find (Label.normalize label)).run (.ofSource answer) w =
              (.ok none, w₁) ∧
            Lookup.defaultSchema?.run (.ofSource answer) w₁ = (.ok (some (d.build id)), w')) ∨
        ∃ name, d.name = some name ∧ Label.Leads front name) := by
  rcases hempty : (Label.normalize label).isEmpty with _ | _
  · rw [Lookup.resolve?_eq find label hempty] at hrun
    obtain ⟨first?, w₁, hsearch, hrest⟩ := Lookup.exists_of_run_bind hrun
    cases first? with
    | some found =>
        cases hrest
        obtain ⟨d, id, front, path, hd, hloads, hcached, hlabel, ha, hfront⟩ :=
          exists_of_searchListed h hw htoken hsearch
        refine ⟨d, id, front, path, hd, hloads, hcached, hlabel, ha, hfront.imp_left ?_⟩
        rintro ⟨rfl, hnone⟩
        exact ⟨rfl, .inl hnone⟩
    | none =>
        obtain ⟨s?, w₂, hdefault, hresult⟩ := Lookup.exists_of_run_bind hrest
        obtain ⟨hfound, rfl⟩ := Prod.mk.inj hresult
        obtain ⟨s, rfl, ha⟩ := Option.bind_eq_some_iff.mp (Except.ok.inj hfound)
        obtain ⟨hw₁, -⟩ := Lookup.upholds_of_run h.stays
          (upholds_searchListed h.supplied find (Label.normalize label)) hw hsearch
        obtain ⟨d, id, hd, hloads, hcached, rfl⟩ := exists_of_defaultSchema? h hw₁ hdefault
        exact ⟨d, id, [], Label.normalize label, hd, hloads, hcached, rfl, ha,
          .inl ⟨rfl, .inr ⟨w₁, hsearch, hdefault⟩⟩⟩
  · unfold Lookup.resolve? at hrun
    simp only [hempty] at hrun
    cases hrun

end Serving

/-! ## Soundness -/

/-- **Soundness**: whatever has been looked up and refreshed (`es`), the column `c` that a `label`
is read as is one of a table `t` of a schema `d` that the source lists, that it `Loads`, and that is
cached under `cacheKey d.name` when the lookup has ended. Without blanks and leading quotes, the
label is `forSchema ++ forTable ++ forColumn`.

* `forColumn`, without quotes around it, is the name of `c` up to case.
* `forTable` spells the name of `t` and has delimiters after it (`Label.Leads`), or is empty, and
  then the cached schema has no other table.
* `forSchema` spells the name of `d` in the same way, or is empty, and then `d` is nameless, or no
  listed name has led to a column and `d` is what `defaultSchema?` has come to.

Neither name is only the beginning of a part of the label (`Label.EndsPart`). -/
theorem columnByLabel?_sound {answer : (call : SourceCall) → σ → Except Error call.Answer × σ}
    {inSource : σ → Prop} {listed : SchemaName → Prop} (h : Serves answer inSource listed)
    (htoken : ¬ listed (some namelessKey)) (preferred : Option String) (firstId : SchemaId)
    {source : σ} (hsource : inSource source) (es : List SharedEvent) {label : String} {c : Column}
    {w' : Site σ} (hrun : (Lookup.columnByLabel? label).run (.ofSource answer)
      ((Shared.new preferred firstId source).run answer es).site = (.ok (some c), w')) :
    ∃ (d : SchemaDecl) (id : SchemaId) (t : Table) (forSchema forTable forColumn : List Char),
      listed d.name ∧ Loads answer inSource d ∧
        w'.registry.schema? (cacheKey d.name) = some (d.build id) ∧
        t ∈ (d.build id).tables ∧ c ∈ t.columns ∧
        Label.normalize label = forSchema ++ forTable ++ forColumn ∧
        equalIgnoringCase c.name (Label.unquote forColumn) = true ∧
        (forTable = [] ∧ (d.build id).tables = [t] ∨
          Label.Leads forTable t.name ∧ Label.EndsPart (forTable ++ forColumn) t.name) ∧
        (forSchema = [] ∧ (d.name = none ∨ ∃ w₁,
            (Lookup.searchListed Schema.columnByPath? (Label.normalize label)).run
              (.ofSource answer)
                ((Shared.new preferred firstId source).run answer es).site = (.ok none, w₁) ∧
              Lookup.defaultSchema?.run (.ofSource answer) w₁ = (.ok (some (d.build id)), w')) ∨
          ∃ name, d.name = some name ∧ Label.Leads forSchema name ∧
            Label.EndsPart (forSchema ++ forTable ++ forColumn) name) := by
  have hw : (servedStock answer inSource listed).regime.At
      ((Shared.new preferred firstId source).run answer es).site :=
    h.supplied.at_run h.stays (fun _ _ _ _ => trivial) preferred (Nat.zero_le firstId) hsource es
  obtain ⟨d, id, forSchema, path, hd, hloads, hcached, hlabel, hfound, hschema⟩ :=
    exists_of_resolve? h hw htoken hrun
  obtain ⟨t, ht, hc, forTable, forColumn, rfl, hname, htable⟩ := exists_of_columnByPath? hfound
  rw [← List.append_assoc] at hlabel
  refine ⟨d, id, t, forSchema, forTable, forColumn, hd, hloads, hcached, ht, hc, hlabel, hname,
    ?_, ?_⟩
  · exact htable.imp_right fun hleads => ⟨hleads, hleads.endsPart forColumn⟩
  · refine hschema.imp_right ?_
    rintro ⟨name, hname, hleads⟩
    refine ⟨name, hname, hleads, ?_⟩
    rw [List.append_assoc]
    exact hleads.endsPart (forTable ++ forColumn)

/-- The label `s.."ta".b"` has more delimiters than are needed, in a catalog where the name of the
table `T` begins that of `TA`. Both tables are in the schema that is cached, so that the name of one
of them has to be in the label (`Label.Leads`). -/
theorem columnByLabel?_sound_strayDelimiters :
    let columns : List ColumnDecl :=
      [⟨"A", .integer, none, none, none⟩, ⟨"B", .integer, none, none, none⟩]
    let schema : SchemaDecl := ⟨some "S", [⟨"T", .table, columns⟩, ⟨"TA", .table, columns⟩]⟩
    let inSource := fun c : FixedCatalog => c.schemas = [schema] ∧ c.phantoms = []
    let label := " s..\"ta\".b\""
    let columnRead := (Lookup.columnByLabel? label).run (.ofSource FixedCatalog.answer)
      (Shared.new none 0 (⟨[schema], [], none, 0, 0⟩ : FixedCatalog)).site
    Serves FixedCatalog.answer inSource (· ∈ [some "S"]) ∧ some namelessKey ∉ [some "S"] ∧
      inSource ⟨[schema], [], none, 0, 0⟩ ∧ ∃ c w', columnRead = (.ok (some c), w') ∧
        c.owner.name = "TA" ∧
        ∃ (id : SchemaId) (t : Table) (forSchema forTable forColumn : List Char),
          w'.registry.schema? "S" = some (schema.build id) ∧ t ∈ (schema.build id).tables ∧
          c ∈ t.columns ∧ Label.normalize label = forSchema ++ forTable ++ forColumn ∧
          equalIgnoringCase c.name (Label.unquote forColumn) = true ∧
          Label.Leads forTable t.name ∧ (forSchema = [] ∨ Label.Leads forSchema "S") := by
  intro columns schema inSource label columnRead
  have hserves : Serves FixedCatalog.answer inSource (· ∈ [some "S"]) :=
    (FixedCatalog.provides fun _ _ => trivial :
      Provides _ _ ([schema].map (·.name)) fun _ => True).serves
  have htoken : some namelessKey ∉ [some "S"] := by decide
  have hread : columnRead.1.toOption = some (some (schema.build 0).tables[1].columns[1]) := by
    decide +kernel
  rcases hrun : columnRead with ⟨e | c?, w'⟩
  · rw [hrun] at hread
    cases hread
  · rw [hrun] at hread
    obtain rfl := Option.some.inj hread
    obtain ⟨d, id, t, forSchema, forTable, forColumn, hd, ⟨x, ⟨hx, hphantoms⟩, hloads⟩, hcached, ht,
      hc, hlabel, hname, htable, hschema⟩ :=
      columnByLabel?_sound hserves htoken none 0 ⟨rfl, rfl⟩ [] hrun
    have hS : d.name = some "S" := List.mem_singleton.mp hd
    have hfound : findDecl? x.schemas d.name = some d := Except.ok.inj hloads
    rw [hx, hS] at hfound
    obtain rfl : schema = d := Option.some.inj hfound
    refine ⟨hserves, htoken, ⟨rfl, rfl⟩, _, w', rfl, rfl, id, t, forSchema, forTable, forColumn,
      hcached, ht, hc, hlabel, hname, ?_, ?_⟩
    · rcases htable with ⟨-, honly⟩ | ⟨hleads, -⟩
      · cases honly
      · exact hleads
    · refine hschema.imp And.left ?_
      rintro ⟨name, hname, hleads, -⟩
      obtain rfl := Option.some.inj hname
      exact hleads

end DataAccess.Catalog
