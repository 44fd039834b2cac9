import DataAccess.Memory.Predicate
import Mathlib.Data.List.Forall2

/-!
# Pattern segments: the texts that a pattern matches

A pattern of `LIKE` is a language: each of its characters stands for some segments, and the pattern
for the texts that are put together of one segment for each character, in order.

* **Segments** (`StandsFor`, `Segmented`): what a character stands for, and what a pattern does.
* **Matching** (`like_iff_segmented`): a text is matched exactly if it is put together like this.
* **Opposites** (`compareValues_like`, `compareValues_notLike`): between two texts, `NOT LIKE` is
  whatever `LIKE` is not.
-/

namespace DataAccess.Memory

variable {c : Char} {segment text pattern : List Char} {accepts : List Char → Bool}

/-! ## Segments -/

/-- Whether a character of a pattern stands for a segment: `%` for any run of characters, `_` for
exactly one, and any other character for itself. -/
def StandsFor (c : Char) (segment : List Char) : Prop :=
  if c = '%' then True else if c = '_' then segment.length = 1 else segment = [c]

/-- Whether a text is put together of segments for which the characters of a pattern stand, one
after another. -/
def Segmented (pattern text : List Char) : Prop :=
  ∃ segments : List (List Char), List.Forall₂ StandsFor pattern segments ∧ segments.flatten = text

theorem standsFor_percent : StandsFor '%' segment := trivial

theorem standsFor_underscore : StandsFor '_' segment ↔ ∃ d, segment = [d] :=
  List.length_eq_one_iff

theorem standsFor_of_ne (hpercent : c ≠ '%') (hunderscore : c ≠ '_') : StandsFor c segment ↔
    segment = [c] := by
  rw [StandsFor, if_neg hpercent, if_neg hunderscore]

/-- The empty pattern is there for the empty text, `Segmented [] text ↔ text = []`. -/
theorem segmented_nil : Segmented [] text ↔ text = [] := by
  constructor
  · rintro ⟨segments, hstand, rfl⟩
    cases hstand
    rfl
  · rintro rfl
    exact ⟨[], .nil, rfl⟩

/-- The first character of a pattern `StandsFor` a segment at the front of the text. -/
theorem segmented_cons :
    Segmented (c :: pattern) text ↔
      ∃ front back, StandsFor c front ∧ Segmented pattern back ∧ front ++ back = text := by
  constructor
  · rintro ⟨segments, hstand, rfl⟩
    cases hstand with
    | cons hfirst hrest => exact ⟨_, _, hfirst, ⟨_, hrest, rfl⟩, rfl⟩
  · rintro ⟨front, back, hfirst, ⟨segments, hrest, rfl⟩, rfl⟩
    exact ⟨front :: segments, .cons hfirst hrest, rfl⟩

/-! ## Matching -/

/-- `like.anySuffix accepts text` tries each `back` with `front ++ back = text`. -/
theorem anySuffix_iff :
    like.anySuffix accepts text = true ↔ ∃ front back, accepts back = true ∧
      front ++ back = text := by
  induction text with
  | nil =>
      rw [like.anySuffix]
      constructor
      · exact fun h => ⟨[], [], h, rfl⟩
      · rintro ⟨front, back, h, hempty⟩
        obtain ⟨rfl, rfl⟩ := List.append_eq_nil_iff.mp hempty
        exact h
  | cons c text ih =>
      rw [like.anySuffix, Bool.or_eq_true, ih]
      constructor
      · rintro (h | ⟨front, back, h, rfl⟩)
        · exact ⟨[], c :: text, h, rfl⟩
        · exact ⟨c :: front, back, h, rfl⟩
      · rintro ⟨front, back, h, hsplit⟩
        cases front with
        | nil => exact .inl (hsplit ▸ h)
        | cons d front => exact .inr ⟨front, back, h, (List.cons.inj hsplit).2⟩

/-- A character of a pattern that is no wildcard is compared with the first one of the text. -/
theorem like_cons_of_ne (hpercent : c ≠ '%') (hunderscore : c ≠ '_') (d : Char) (rest : List Char) :
    like (c :: pattern) (d :: rest) = (d == c && like pattern rest) := by
  rw [like]
  · exact hpercent
  · exact hunderscore

/-- **Matching**: `like pattern text` holds exactly if `Segmented pattern text`. The induction
follows the recursion of `like`, on the pattern. -/
theorem like_iff_segmented (pattern text : List Char) : like pattern text = true ↔
    Segmented pattern text := by
  induction pattern generalizing text with
  | nil => rw [like, segmented_nil, List.isEmpty_iff]
  | cons c pattern ih =>
      rw [segmented_cons]
      by_cases hpercent : c = '%'
      · subst hpercent
        rw [like, anySuffix_iff]
        simp only [ih, standsFor_percent, true_and]
      · by_cases hunderscore : c = '_'
        · subst hunderscore
          simp only [standsFor_underscore]
          cases text with
          | nil => simp [like]
          | cons d rest => simp [like, ih]
        · simp only [standsFor_of_ne hpercent hunderscore]
          cases text with
          | nil => simp [like]
          | cons d rest =>
              rw [like_cons_of_ne hpercent hunderscore, Bool.and_eq_true, beq_iff_eq, ih]
              constructor
              · rintro ⟨rfl, hrest⟩
                exact ⟨[d], rest, rfl, hrest, rfl⟩
              · rintro ⟨front, back, rfl, hback, hsplit⟩
                obtain ⟨rfl, rfl⟩ := List.cons.inj hsplit
                exact ⟨rfl, hback⟩

/-! ## Opposites -/

/-- Between two texts, `LIKE` matches one with the other. -/
theorem compareValues_like (text pattern : String) :
    compareValues (.text text) .like (.text pattern) = like pattern.toList text.toList := by
  simp [compareValues, Value.isNull, matchesPattern, Value.asText?]

/-- Between two texts, `NOT LIKE` is whatever `LIKE` is not. -/
theorem compareValues_notLike (text pattern : String) :
    compareValues (.text text) .notLike (.text pattern) =
      !compareValues (.text text) .like (.text pattern) := by
  rw [compareValues_like]
  simp [compareValues, Value.isNull, matchesPattern, Value.asText?]

/-- **The pattern language.** A text is `LIKE` a pattern exactly if it is put together of
segments, one for each character of the pattern and in their order: any run of characters for
`%`, exactly one for `_`, and the character itself for any other. It is `NOT LIKE` the pattern
exactly if it is not. -/
theorem like_reads_segments (text pattern : String) :
    (like pattern.toList text.toList = true ↔ Segmented pattern.toList text.toList) ∧
      (compareValues (.text text) .like (.text pattern) = true ↔
        Segmented pattern.toList text.toList) ∧
      compareValues (.text text) .notLike (.text pattern) =
        !compareValues (.text text) .like (.text pattern) := by
  refine ⟨like_iff_segmented _ _, ?_, compareValues_notLike text pattern⟩
  rw [compareValues_like]
  exact like_iff_segmented _ _

end DataAccess.Memory
