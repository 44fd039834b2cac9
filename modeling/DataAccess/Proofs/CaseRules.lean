import DataAccess.Proofs.LabelParts

/-!
# Case rules: whole names and single letters

Names are compared by their whole lower-case forms where a schema, a table or a column is looked up
by its name, and letter by letter where a name is read from the front of a label. A letter is
lower-cased by itself and to one letter, but for two: a capital sigma at the end of a word, and a
capital I with a dot above (`Irregular`).

* **Lower case** (`lowerChar_of_mem`, `lowercase_lowercase`): a lower-case form is its own.
* **Letter by letter** (`map_lowerChar_iff`): texts without irregular letters are lower-cased letter
  by letter.
* **Labels** (`stripName?_dot_iff`): a name is read from the front of a label if its letters are.
* **Both rules** (`rules_agree_unless_irregular`): the rules agree on names without irregular
  letters, and no others are safe: each name with one is told apart from its own lower-case form by
  one rule and not by the other.
* **Twins** (`rules_differ`): a schema may be found by its name and not by a label.
-/

namespace DataAccess.Text

variable {c d : Char} {cs before : List Char} {n m : Nat} {r other : CaseRun}

/-! ## Lower case -/

/-- Whether the partners of the run `r` lie before the run `other`, behind it, or between its
letters, as even numbers lie between odd ones. -/
def CaseRun.misses (r other : CaseRun) : Bool :=
  (r.image + (r.last - r.first)).blt other.first || other.last.blt r.image ||
    other.step == 2 && (r.step == 2 || r.first == r.last) && r.image % 2 != other.first % 2

/-- A partner `m` that `r.misses other` puts out of the run has no partner there:
`other.image? m = none`. -/
theorem image?_eq_none_of_misses (h : r.misses other = true) (hm : r.image? n = some m) :
    other.image? m = none := by
  unfold CaseRun.image? at hm ⊢
  split at hm
  · rename_i hn
    obtain ⟨hfirst, hlast, hstep⟩ := hn
    obtain rfl := Option.some.inj hm
    rw [if_neg]
    rintro ⟨hfirst', hlast', hstep'⟩
    simp only [CaseRun.misses, Bool.or_eq_true, Bool.and_eq_true, Nat.blt_eq, beq_iff_eq,
      bne_iff_ne] at h
    rcases h with (hbefore | hbehind) | ⟨⟨htwo, heven⟩, hparity⟩
    · omega
    · omega
    · rw [htwo] at hstep'
      rcases heven with htwo | hsingle
      · rw [htwo] at hstep
        omega
      · omega
  · cases hm

/-- No letter of `lowerRuns` is the partner of another one and has itself a partner. The runs are
compared in pairs, by `CaseRun.misses`. -/
theorem findSome?_image?_image (h : lowerRuns.findSome? (·.image? n) = some m) :
    lowerRuns.findSome? (·.image? m) = none := by
  have hmisses : lowerRuns.all (fun r => lowerRuns.all r.misses) = true := by decide +kernel
  obtain ⟨r, hr, himage⟩ := List.exists_of_findSome?_eq_some h
  refine List.findSome?_eq_none_iff.mpr fun other hother => ?_
  exact image?_eq_none_of_misses
    (List.all_eq_true.mp (List.all_eq_true.mp hmisses r hr) other hother) himage

/-- The capital `İ`, which is lower-cased to two letters, is no partner of a letter. -/
theorem image?_ne_dotted (h : lowerRuns.findSome? (·.image? n) = some m) : m ≠ 0x130 := by
  have hruns : lowerRuns.all
      (fun r => r.image + (r.last - r.first) < 0x130 || 0x130 < r.image) = true := by
    decide +kernel
  obtain ⟨r, hr, himage⟩ := List.exists_of_findSome?_eq_some h
  have hrange := List.all_eq_true.mp hruns r hr
  rw [Bool.or_eq_true, decide_eq_true_eq, decide_eq_true_eq] at hrange
  unfold CaseRun.image? at himage
  split at himage
  · have hm := Option.some.inj himage
    omega
  · cases himage

/-- **Lower case**: the letters of `lowerChar c` are their own lower-case forms. -/
theorem lowerChar_of_mem (h : d ∈ lowerChar c) : lowerChar d = [d] := by
  unfold lowerChar at h
  split at h
  · rename_i hascii
    obtain rfl := List.mem_singleton.mp h
    rw [lowerChar_of_isAscii (isAscii_toLower.mpr hascii)]
    rcases toLower_cases c with hsame | ⟨hle, hge, hlower⟩
    · rw [hsame, hsame]
    · rcases toLower_cases c.toLower with hsame | ⟨-, hge', -⟩
      · rw [hsame]
      · omega
  · split at h
    · rcases List.mem_pair.mp h with rfl | rfl
      · decide
      · decide +kernel
    · split at h
      · rename_i m hm
        obtain rfl := List.mem_singleton.mp h
        have hle := le_of_image? hm
        rcases toNat_ofNat_cases m with hd | hd
        · unfold lowerChar
          rw [hd]
          split
          · rcases toLower_cases (Char.ofNat m) with hsame | ⟨-, hge, -⟩
            · rw [hsame]
            · omega
          · rw [if_neg (image?_ne_dotted hm), findSome?_image?_image hm]
        · exact lowerChar_of_lt (by omega)
      · rename_i hascii hdotted _ hnone
        obtain rfl := List.mem_singleton.mp h
        unfold lowerChar
        rw [if_neg hascii, if_neg hdotted, hnone]

/-- The letters of `lowerFrom before cs` are their own lower-case forms. -/
theorem lowerChar_of_mem_lowerFrom (h : d ∈ lowerFrom before cs) : lowerChar d = [d] := by
  induction cs generalizing before with
  | nil => cases h
  | cons c cs ih =>
      rw [lowerFrom, List.mem_append] at h
      rcases h with hfirst | hrest
      · split at hfirst
        · split at hfirst
          · obtain rfl := List.mem_singleton.mp hfirst
            decide +kernel
          · obtain rfl := List.mem_singleton.mp hfirst
            decide +kernel
        · exact lowerChar_of_mem hfirst
      · exact ih hrest

/-- A text of such letters is its own lower-case form: there is no capital sigma in it. -/
theorem lowerFrom_eq_self (h : ∀ d ∈ cs, lowerChar d = [d]) : lowerFrom before cs = cs := by
  induction cs generalizing before with
  | nil => rfl
  | cons c cs ih =>
      obtain ⟨hc, hcs⟩ := List.forall_mem_cons.mp h
      have hsigma : c ≠ 'Σ' := by
        rintro rfl
        exact absurd hc (by decide +kernel)
      rw [lowerFrom, if_neg hsigma, hc, ih hcs, List.singleton_append]

/-- `lowercase` is idempotent. -/
theorem lowercase_lowercase (s : String) : lowercase (lowercase s) = lowercase s := by
  rw [lowercase, lowercase, String.toList_ofList, lowerChars, lowerChars,
    lowerFrom_eq_self fun d hd => lowerChar_of_mem_lowerFrom hd]

/-- Only the empty text has the empty lower-case form. -/
theorem lowerChars_ne_nil (h : cs ≠ []) : lowerChars cs ≠ [] := by
  cases cs with
  | nil => exact absurd rfl h
  | cons c cs =>
      rw [lowerChars, lowerFrom]
      split
      · split <;> exact List.cons_ne_nil _ _
      · refine List.append_ne_nil_of_left_ne_nil ?_ _
        unfold lowerChar
        repeat' split
        all_goals exact List.cons_ne_nil _ _

/-! ## Letter by letter -/

/-- Whether a letter of a text is not lower-cased by itself to one letter: a capital `İ`, or a
capital `Σ` that ends a word, with a cased letter before it (`reachesCased front.reverse`) and none
behind it. -/
def Irregular (cs : List Char) : Prop :=
  'İ' ∈ cs ∨ ∃ front rest, cs = front ++ 'Σ' :: rest ∧ reachesCased front.reverse = true ∧
    reachesCased rest = false

/-- `lowerChar c` is a single letter, but for `İ`. -/
theorem exists_lowerChar_eq (h : c ≠ 'İ') : ∃ d, lowerChar c = [d] := by
  have hcode : c.toNat ≠ 0x130 := fun hcode => h (Char.toNat_inj.mp hcode)
  unfold lowerChar
  rw [if_neg hcode]
  split
  · exact ⟨_, rfl⟩
  · split
    · exact ⟨_, rfl⟩
    · exact ⟨_, rfl⟩

/-- The places `front ++ d :: rest` of a letter in `c :: cs` are the first place, if `c = d`, and
those in `cs`. -/
theorem forall_append_cons_iff {P : List Char → List Char → Prop} :
    (∀ front rest, c :: cs = front ++ d :: rest → P front rest) ↔
      (c = d → P [] cs) ∧ ∀ front rest, cs = front ++ d :: rest → P (c :: front) rest := by
  constructor
  · intro h
    refine ⟨?_, fun front rest hcs => h _ rest (congrArg (c :: ·) hcs)⟩
    rintro rfl
    exact h [] cs rfl
  · rintro ⟨hfirst, hothers⟩ front rest hcs
    cases front with
    | nil =>
        obtain ⟨rfl, rfl⟩ := List.cons.inj hcs
        exact hfirst rfl
    | cons e front =>
        obtain ⟨rfl, hbehind⟩ := List.cons.inj hcs
        exact hothers front rest hbehind

/-- What `map_lowerChar_iff` says for the lower-case form `lowerFrom before cs` of a text behind
what stands before it, in reverse. The induction is on the text, and moves its letters to
`before`. -/
theorem map_lowerChar_lowerFrom_iff :
    cs.map lowerChar = (lowerFrom before cs).map (fun d => [d]) ↔ 'İ' ∉ cs ∧ ∀ front rest,
      cs = front ++ 'Σ' :: rest → reachesCased (front.reverse ++ before) = true →
        reachesCased rest = true := by
  induction cs generalizing before with
  | nil => simp [lowerFrom]
  | cons c cs ih =>
      have hbehind : ∀ front : List Char,
          (c :: front).reverse ++ before = front.reverse ++ c :: before := by
        simp
      rw [forall_append_cons_iff, List.mem_cons, not_or, List.map_cons, lowerFrom]
      simp only [hbehind, List.reverse_nil, List.nil_append]
      by_cases hsigma : c = 'Σ'
      · subst hsigma
        have hletter : lowerChar 'Σ' = ['σ'] := by decide +kernel
        have hdotted : 'İ' ≠ 'Σ' := by decide
        have hfinal : 'σ' ≠ 'ς' := by decide
        rw [hletter, if_pos rfl]
        cases reachesCased before <;> cases reachesCased cs <;> simp [ih, hdotted, hfinal]
      · rw [if_neg hsigma]
        by_cases hdotted : c = 'İ'
        · subst hdotted
          have hletter : lowerChar 'İ' = ['i', Char.ofNat 0x307] := by decide
          simp [hletter]
        · obtain ⟨d, hd⟩ := exists_lowerChar_eq hdotted
          simp [hd, ih, hsigma, Ne.symm hdotted]

/-- **Letter by letter**: `lowerChars cs` is `lowerChar` on each letter of `cs` exactly if `cs` is
not `Irregular`. -/
theorem map_lowerChar_iff : cs.map lowerChar = (lowerChars cs).map (fun d => [d]) ↔
    ¬ Irregular cs := by
  rw [lowerChars, map_lowerChar_lowerFrom_iff, Irregular, not_or]
  refine and_congr_right fun _ => ?_
  simp only [List.append_nil, not_exists, not_and, Bool.not_eq_false]

/-- A mark, U+0897 here, neither parts a sigma from the letter before it nor ends a word. -/
example : lowercase "Α\u0897Σ" = "α\u0897ς" ∧ lowercase "ΑΣ\u0897Α" = "ασ\u0897α" := by
  decide +kernel

/-- For texts that are not `Irregular`, `lowerChars` are equal exactly if the texts are so under
`map lowerChar`. -/
theorem lowerChars_eq_iff {ds : List Char} (hcs : ¬ Irregular cs) (hds : ¬ Irregular ds) :
    lowerChars cs = lowerChars ds ↔ cs.map lowerChar = ds.map lowerChar := by
  rw [map_lowerChar_iff.mpr hcs, map_lowerChar_iff.mpr hds]
  exact (List.map_injective_iff.mpr fun _ _ => List.singleton_inj.mp).eq_iff.symm

/-- An `Irregular` text and its lower-case form differ under `map lowerChar`. -/
theorem map_lowerChar_ne (h : Irregular cs) : cs.map lowerChar ≠ (lowerChars cs).map lowerChar := by
  have hown : (lowerChars cs).map lowerChar = (lowerChars cs).map (fun d => [d]) :=
    List.map_congr_left fun d hd => lowerChar_of_mem_lowerFrom hd
  rw [hown]
  exact fun hletters => map_lowerChar_iff.mp hletters h

end DataAccess.Text

namespace DataAccess.Catalog.Label

open Text

variable {name spelling : String} {case : Case} {rest left : List Char}

/-! ## Labels -/

/-- Whether a name can be a part of a label: it is not empty, and no character of it is a dot or a
quote (`isDelimiter`). -/
def IsToken (name : String) : Prop :=
  name.toList ≠ [] ∧ ∀ c ∈ name.toList, isDelimiter c = false

theorem isToken_iff :
    IsToken name ↔ name.toList ≠ [] ∧ name.toList.all (fun c => !isDelimiter c) = true := by
  simp only [List.all_eq_true, Bool.not_eq_true']
  exact Iff.rfl

instance (name : String) : Decidable (IsToken name) :=
  decidable_of_iff _ isToken_iff.symm

/-- No dot and no quote is in a part of a label. -/
theorem IsToken.not_mem (h : IsToken name) {c : Char} (hc : isDelimiter c = true) :
    c ∉ name.toList :=
  fun hmem => nomatch (h.2 c hmem).symm.trans hc

/-- `Spells .insensitive` compares texts by `map lowerChar`, letter by letter. -/
theorem spells_insensitive_iff {text token : List Char} :
    Spells .insensitive text token ↔ text.map lowerChar = token.map lowerChar := by
  rw [Spells, ← List.forall₂_eq_eq_eq, List.forall₂_map_left_iff, List.forall₂_map_right_iff]
  refine iff_of_eq
    (congrArg (List.Forall₂ · text token) (funext fun a => funext fun e => propext ?_))
  rw [sameChar, equalCharIgnoringCase, Bool.or_eq_true, beq_iff_eq, beq_iff_eq,
    or_iff_right_iff_imp]
  rintro rfl
  rfl

/-- **Labels**: `stripName?` reads a name from the front of a label, before a dot, exactly if what
stands there `Spells` it. -/
theorem stripName?_dot_iff (hname : IsToken name) (hspelling : IsToken spelling)
    (hrest : ∀ c ∈ rest.head?, isDelimiter c = false) :
    stripName? case name (spelling.toList ++ '.' :: rest) = some left ↔
      Spells case spelling.toList name.toList ∧ left = rest := by
  have hdot : ∀ c ∈ ['.'], isDelimiter c = true := List.forall_mem_singleton.mpr rfl
  unfold stripName?
  rw [stripToken?_eq_some_iff]
  constructor
  · rintro ⟨-, text, delimiters, hlabel, hspells, hne, hdelimiters, hleft⟩
    have hafter := congrArg (List.dropWhile fun c => !isDelimiter c) hlabel
    rw [← List.singleton_append, dropWhile_name hspelling.2 (List.cons_ne_nil _ _) hdot,
      dropWhile_name (hspells.noDelimiter hname.2) hne hdelimiters] at hafter
    refine ⟨?_, ?_⟩
    · rw [← List.singleton_append, hafter] at hlabel
      rw [List.append_cancel_right hlabel]
      exact hspells
    · have hdrop := congrArg (List.dropWhile isDelimiter) hafter
      rw [dropWhile_append hdelimiters hleft, dropWhile_append hdot hrest] at hdrop
      exact hdrop.symm
  · rintro ⟨hspells, rfl⟩
    exact ⟨hname.1, spelling.toList, ['.'], rfl, hspells, List.cons_ne_nil _ _, hdot, hrest⟩

/-! ## Both rules -/

/-- Whether the rules for case agree on a name and a spelling of it:
`equalIgnoringCase spelling name`, by which schemas and tables are looked up, holds exactly if
`stripName? .insensitive name` reads the name from each label that begins with the spelling and a
dot. -/
def RulesAgree (name spelling : String) : Prop :=
  ∀ rest : List Char, rest ≠ [] → (∀ c ∈ rest.head?, isDelimiter c = false) →
    (equalIgnoringCase spelling name = true ↔
      stripName? .insensitive name (spelling.toList ++ '.' :: rest) = some rest)

/-- `RulesAgree` in terms of letters: the first rule compares `lowerChars` of the whole texts, and
the second one compares `map lowerChar`. -/
theorem rulesAgree_iff (hname : IsToken name) (hspelling : IsToken spelling) :
    RulesAgree name spelling ↔ (lowerChars spelling.toList = lowerChars name.toList ↔
      spelling.toList.map lowerChar = name.toList.map lowerChar) := by
  have hwhole : equalIgnoringCase spelling name = true ↔
      lowerChars spelling.toList = lowerChars name.toList := by
    rw [equalIgnoringCase_iff, lowercase, lowercase, String.ofList_inj]
  have hletters (rest : List Char) (hrest : ∀ c ∈ rest.head?, isDelimiter c = false) :
      stripName? .insensitive name (spelling.toList ++ '.' :: rest) = some rest ↔
        spelling.toList.map lowerChar = name.toList.map lowerChar := by
    rw [stripName?_dot_iff hname hspelling hrest, spells_insensitive_iff, and_iff_left rfl]
  constructor
  · intro h
    have hrest : ∀ c ∈ ['x'].head?, isDelimiter c = false := by
      rintro _ ⟨⟩
      rfl
    rw [← hwhole, ← hletters _ hrest]
    exact h ['x'] (List.cons_ne_nil _ _) hrest
  · intro h rest _ hrest
    rw [hwhole, hletters rest hrest]
    exact h

/-- A name and its lower-case form have the same `lowerChars`. -/
theorem lowerChars_lowercase (name : String) :
    lowerChars (lowercase name).toList = lowerChars name.toList :=
  String.ofList_injective (lowercase_lowercase name)

/-- The lower-case form of a part of a label is one. -/
theorem IsToken.lowercase (h : IsToken name) : IsToken (lowercase name) := by
  have hsame : equalIgnoringCase (Text.lowercase name) name = true :=
    equalIgnoringCase_iff.mpr (lowercase_lowercase name)
  refine ⟨?_, fun c hc => ?_⟩
  · rw [Text.lowercase, String.toList_ofList]
    exact lowerChars_ne_nil h.1
  · by_contra hdelimiter
    rw [Bool.not_eq_false] at hdelimiter
    have hsmall : 0 < c.toNat ∧ c.toNat < 65 := by
      rcases isDelimiter_iff.mp hdelimiter with rfl | rfl <;> decide
    have hmem := (mem_of_equalIgnoringCase hsmall.1 hsmall.2 hsame).mp hc
    cases (h.2 c hmem).symm.trans hdelimiter

/-- **Both rules.** A part of a label that is not `Irregular` has `RulesAgree name spelling` for
every spelling that is not `Irregular`. One that is `Irregular` has it neither for its own
lower-case form, `lowercase name`, nor that form for it. -/
theorem rules_agree_unless_irregular (hname : IsToken name) :
    (¬ Irregular name.toList → ∀ spelling, IsToken spelling → ¬ Irregular spelling.toList →
        RulesAgree name spelling) ∧
      (Irregular name.toList → IsToken (lowercase name) ∧ ¬ RulesAgree name (lowercase name) ∧
        ¬ RulesAgree (lowercase name) name) := by
  constructor
  · intro hregular spelling hspelling hregular'
    rw [rulesAgree_iff hname hspelling]
    exact lowerChars_eq_iff hregular' hregular
  · intro hirregular
    have hletters : (lowercase name).toList.map lowerChar ≠ name.toList.map lowerChar := by
      rw [lowercase, String.toList_ofList]
      exact (map_lowerChar_ne hirregular).symm
    refine ⟨hname.lowercase, ?_, ?_⟩
    · rw [rulesAgree_iff hname hname.lowercase]
      exact fun h => hletters (h.mp (lowerChars_lowercase name))
    · rw [rulesAgree_iff hname.lowercase hname]
      exact fun h => hletters (h.mp (lowerChars_lowercase name).symm).symm

/-- A capital sigma at the beginning of a word, as in `Σύρος`, does no harm, and one at its end
does, as in `ΣΎΡΟΣ`. -/
theorem rules_agree_unless_irregular_sigmas :
    IsToken "Σύρος" ∧ ¬ Irregular "Σύρος".toList ∧ RulesAgree "Σύρος" "ΣΎΡΟς" ∧
      IsToken "ΣΎΡΟΣ" ∧ Irregular "ΣΎΡΟΣ".toList ∧ ¬ RulesAgree "ΣΎΡΟΣ" "σύρος" ∧
        ¬ RulesAgree "σύρος" "ΣΎΡΟΣ" := by
  have hregular : ¬ Irregular "Σύρος".toList := map_lowerChar_iff.mp (by decide +kernel)
  have hregular' : ¬ Irregular "ΣΎΡΟς".toList := map_lowerChar_iff.mp (by decide +kernel)
  have hirregular : Irregular "ΣΎΡΟΣ".toList :=
    .inr ⟨"ΣΎΡΟ".toList, [], rfl, by decide +kernel, rfl⟩
  have hlower : lowercase "ΣΎΡΟΣ" = "σύρος" := by decide +kernel
  have hagree := (rules_agree_unless_irregular (by decide)).1 hregular _ (by decide) hregular'
  obtain ⟨-, hname, hspelling⟩ := (rules_agree_unless_irregular (by decide)).2 hirregular
  rw [hlower] at hname hspelling
  exact ⟨by decide, hregular, hagree, by decide, hirregular, hname, hspelling⟩

/-- **Twins**: `RulesAgree` fails for the name `οδος` and the spelling `ΟΔΟΣ` of it. The schema is
looked up by the spelling, and a label that begins with the spelling does not lead to it. -/
theorem rules_differ : ¬ ∀ name spelling, IsToken name → IsToken spelling →
    RulesAgree name spelling := by
  intro h
  have hrest : ∀ c ∈ ['t'].head?, isDelimiter c = false := by
    rintro _ ⟨⟩
    rfl
  have hagree := h "οδος" "ΟΔΟΣ" (by decide) (by decide) ['t'] (List.cons_ne_nil _ _) hrest
  have hfound : equalIgnoringCase "ΟΔΟΣ" "οδος" = true := by decide +kernel
  have hmissed : stripName? .insensitive "οδος" ("ΟΔΟΣ".toList ++ ['.', 't']) =
    none := by decide +kernel
  exact absurd ((hagree.mp hfound).symm.trans hmissed) nofun

end DataAccess.Catalog.Label
