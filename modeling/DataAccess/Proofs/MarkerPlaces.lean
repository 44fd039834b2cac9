import DataAccess.Dialect.Fragment
import Mathlib.Data.String.Basic

/-!
# Marker places: texts in place of parameter markers

A marker can be replaced by a text before a fragment is rendered or afterwards. `Fragment.fill` does
so before, in the sequence of pieces; `Rendered.fill` does so afterwards, in the text, at the byte
places that were recorded.

* **The places are those of question marks** (`length_markers`, `pairwise_markers`,
  `get?_of_mem_markers`): one for each marker, strictly increasing, each the byte offset of a `?`.
* **Filling commutes with rendering** (`fill_rendered`): whatever the texts contain, filling the
  places gives the text of the filled fragment.
-/

namespace DataAccess.Dialect

/-! ## Replacing text at byte places -/

/-- The characters of a text that begins at `offset`, with the character at each of the places
replaced by the text that goes with the place. -/
def fillPlaces : Nat → List Char → List (Nat × String) → List Char
  | offset, c :: rest, (place, t) :: fills =>
      if place = offset then t.toList ++ fillPlaces (offset + c.utf8Size) rest fills
      else c :: fillPlaces (offset + c.utf8Size) rest ((place, t) :: fills)
  | _, rest, [] => rest
  | _, [], _ => []

/-- The text `r.sql` with the characters at the places `r.markers` replaced by the texts `ts`, in
order. -/
def Rendered.fill (r : Rendered) (ts : List String) : String :=
  String.ofList (fillPlaces 0 r.sql.toList (r.markers.zip ts))

/-- With no places to fill the text stays. -/
@[simp] theorem fillPlaces_nil (offset : Nat) (cs : List Char) : fillPlaces offset cs [] = cs := by
  cases cs <;> rfl

/-- At the first place the character gives way to the text. -/
theorem fillPlaces_cons_self (offset : Nat) (c : Char) (rest : List Char) (t : String)
    (fills : List (Nat × String)) :
    fillPlaces offset (c :: rest) ((offset, t) :: fills) =
      t.toList ++ fillPlaces (offset + c.utf8Size) rest fills := by
  simp [fillPlaces]

/-- Nothing changes before the first place: a `front` that ends before it stays. -/
theorem fillPlaces_append (front : List Char) (offset : Nat) (rest : List Char)
    (fills : List (Nat × String)) (h : ∀ p ∈ fills, offset + String.utf8Len front ≤ p.1) :
    fillPlaces offset (front ++ rest) fills =
      front ++ fillPlaces (offset + String.utf8Len front) rest fills := by
  induction front generalizing offset with
  | nil => simp
  | cons c front ih =>
      rcases fills with _ | ⟨⟨place, t⟩, fills⟩
      · simp
      · have hplace : place ≠ offset := by
          have hle := h (place, t) List.mem_cons_self
          have hpos := c.utf8Size_pos
          simp only [String.utf8Len_cons] at hle
          omega
        have hrest : ∀ p ∈ (place, t) :: fills,
            offset + c.utf8Size + String.utf8Len front ≤ p.1 := by
          intro p hp
          have hle := h p hp
          simp only [String.utf8Len_cons] at hle
          omega
        rw [List.cons_append, fillPlaces, if_neg hplace, ih _ hrest, String.utf8Len_cons,
          Nat.add_assoc, Nat.add_comm c.utf8Size, List.cons_append]

namespace Fragment

/-! ## Places -/

/-- There is one place for each `.marker` of a fragment. -/
theorem length_markersFrom (offset : Nat) (f : Fragment) :
    (markersFrom offset f).length = f.count .marker := by
  induction f generalizing offset with
  | nil => rfl
  | cons piece rest ih =>
      cases piece with
      | text s => simp [markersFrom, ih]
      | marker => simp [markersFrom, ih]

/-- No place lies before the fragment. -/
theorem le_of_mem_markersFrom {offset m : Nat} {f : Fragment} (h : m ∈ markersFrom offset f) :
    offset ≤ m := by
  induction f generalizing offset with
  | nil => simp [markersFrom] at h
  | cons piece rest ih =>
      cases piece with
      | text s =>
          have := ih (by simpa [markersFrom] using h)
          omega
      | marker =>
          rcases List.mem_cons.mp h with rfl | h
          · exact Nat.le_refl m
          · have := ih h
            omega

/-- The places `markersFrom offset f` increase strictly. -/
theorem pairwise_markersFrom (offset : Nat) (f : Fragment) :
    (markersFrom offset f).Pairwise (· < ·) := by
  induction f generalizing offset with
  | nil => exact .nil
  | cons piece rest ih =>
      cases piece with
      | text s => exact ih _
      | marker => exact .cons (fun m hm => le_of_mem_markersFrom hm) (ih _)

/-- A place cuts the text in front of a question mark: `sql f` is `front`, a question mark and
`back`, and the place is behind `front`. -/
theorem exists_split_of_mem_markersFrom {offset m : Nat} {f : Fragment}
    (h : m ∈ markersFrom offset f) :
    ∃ front back, (sql f).toList = front ++ '?' :: back ∧ m = offset + String.utf8Len front := by
  induction f generalizing offset with
  | nil => simp [markersFrom] at h
  | cons piece rest ih =>
      cases piece with
      | text s =>
          obtain ⟨front, back, hsql, rfl⟩ := ih (by simpa [markersFrom] using h)
          refine ⟨s.toList ++ front, back, ?_, ?_⟩
          · simp [sql, pieceText, hsql]
          · rw [String.utf8Len_append, String.utf8Len_toList, Nat.add_assoc]
      | marker =>
          rcases List.mem_cons.mp h with rfl | h
          · exact ⟨[], (sql rest).toList, by simp [sql, pieceText], by simp⟩
          · obtain ⟨front, back, hsql, rfl⟩ := ih h
            refine ⟨'?' :: front, back, ?_, ?_⟩
            · simp [sql, pieceText, hsql]
            · have hsize : '?'.utf8Size = 1 := by decide
              rw [String.utf8Len_cons, hsize]
              omega

/-- There is one place for each marker. -/
theorem length_markers (f : Fragment) : (markers f).length = f.count .marker :=
  length_markersFrom 0 f

/-- The places increase strictly. -/
theorem pairwise_markers (f : Fragment) : (markers f).Pairwise (· < ·) :=
  pairwise_markersFrom 0 f

/-- **Each place is the byte offset of a question mark** in `sql f`. -/
theorem get?_of_mem_markers {f : Fragment} {m : Nat} (h : m ∈ markers f) :
    String.Pos.Raw.get? (sql f) ⟨m⟩ = some '?' := by
  obtain ⟨front, back, hsql, rfl⟩ := exists_split_of_mem_markersFrom h
  rw [Nat.zero_add, ← String.ofList_toList (s := sql f), hsql, String.get?_of_valid]
  rfl

/-! ## Filling -/

/-- The fragment with its markers replaced by the texts, in order. Markers for which there is no
text stay. -/
def fill : Fragment → List String → Fragment
  | .marker :: rest, t :: ts => .text t :: fill rest ts
  | piece :: rest, ts => piece :: fill rest ts
  | [], _ => []

@[simp] theorem fill_nil (ts : List String) : fill [] ts = [] := rfl

@[simp] theorem fill_text_cons (s : String) (rest : Fragment) (ts : List String) :
    fill (.text s :: rest) ts = .text s :: fill rest ts := by
  cases ts <;> rfl

@[simp] theorem fill_marker_cons (rest : Fragment) (t : String) (ts : List String) :
    fill (.marker :: rest) (t :: ts) = .text t :: fill rest ts := rfl

/-- With no texts to put in the fragment stays. -/
@[simp] theorem fill_texts_nil (f : Fragment) : fill f [] = f := by
  induction f with
  | nil => rfl
  | cons piece rest ih => cases piece <;> simp [fill, ih]

/-- **Filling commutes with rendering**, wherever the fragment begins: `fillPlaces` on the text is
`fill` on the fragment. -/
theorem fillPlaces_markersFrom (offset : Nat) (f : Fragment) (ts : List String) :
    fillPlaces offset (sql f).toList ((markersFrom offset f).zip ts) =
      (sql (fill f ts)).toList := by
  induction f generalizing offset ts with
  | nil => simp [sql, markersFrom]
  | cons piece rest ih =>
      cases piece with
      | text s =>
          have hafter : ∀ p ∈ (markersFrom (offset + s.utf8ByteSize) rest).zip ts,
              offset + String.utf8Len s.toList ≤ p.1 := by
            intro p hp
            rw [String.utf8Len_toList]
            exact le_of_mem_markersFrom (List.of_mem_zip hp).1
          rw [fill_text_cons, markersFrom, sql, sql, String.toList_append, pieceText,
            fillPlaces_append _ _ _ _ hafter, String.utf8Len_toList, ih, String.toList_append]
      | marker =>
          cases ts with
          | nil => simp
          | cons t ts =>
              have hsize : '?'.utf8Size = 1 := by decide
              have hsql : (sql (.marker :: rest)).toList = '?' :: (sql rest).toList := by
                simp [sql, pieceText]
              rw [hsql, markersFrom, List.zip_cons_cons, fillPlaces_cons_self, hsize, ih,
                fill_marker_cons, sql, pieceText, String.toList_append]

/-- **Filling commutes with rendering**: `f.rendered.fill ts = sql (fill f ts)`. -/
theorem fill_rendered (f : Fragment) (ts : List String) : f.rendered.fill ts = sql (fill f ts) := by
  rw [Rendered.fill, rendered, markers, fillPlaces_markersFrom, String.ofList_toList]

/-! ## Filling part by part -/

/-- The front `f` of a fragment takes as many texts as it has markers, and the back `g` the
others. -/
theorem fill_append (f g : Fragment) (ts : List String) :
    fill (f ++ g) ts = fill f ts ++ fill g (ts.drop (f.count .marker)) := by
  induction f generalizing ts with
  | nil => simp
  | cons piece rest ih =>
      cases piece with
      | text s => simp [ih]
      | marker =>
          cases ts with
          | nil => simp
          | cons t ts => simp [ih]

/-- A fragment without markers has nothing to fill. -/
theorem fill_of_count_eq_zero {f : Fragment} (h : f.count .marker = 0) (ts : List String) :
    fill f ts = f := by
  induction f with
  | nil => rfl
  | cons piece rest ih =>
      cases piece with
      | text s => rw [fill_text_cons, ih (by simpa using h)]
      | marker => simp at h

/-- Each text takes the place of one marker: `fill` leaves `f.count .marker - ts.length` markers. -/
theorem count_fill (f : Fragment) (ts : List String) :
    (fill f ts).count .marker = f.count .marker - ts.length := by
  induction f generalizing ts with
  | nil => simp
  | cons piece rest ih =>
      cases piece with
      | text s => simp [ih]
      | marker =>
          cases ts with
          | nil => simp
          | cons t ts => simp [ih]

/-- The number of markers of several fragments. -/
def totalMarkers : List Fragment → Nat
  | [] => 0
  | f :: rest => f.count .marker + totalMarkers rest

/-- Fragments filled one after another (`fill`), each with the texts that those before it leave. -/
def fillAll : List Fragment → List String → List Fragment
  | [], _ => []
  | f :: rest, ts => fill f ts :: fillAll rest (ts.drop (f.count .marker))

@[simp] theorem count_ofText (s : String) : (ofText s).count .marker = 0 := by
  simp [ofText]

@[simp] theorem fill_ofText (s : String) (ts : List String) : fill (ofText s) ts = ofText s :=
  fill_of_count_eq_zero (count_ofText s) ts

/-- The texts between fragments have no markers. -/
theorem count_separated (separator : String) (fs : List Fragment) :
    (separated separator fs).count .marker = totalMarkers fs := by
  fun_induction separated separator fs with
  | case1 => rfl
  | case2 f => rfl
  | case3 f rest hrest ih =>
      rw [List.count_append, List.count_append, count_ofText, ih, Nat.add_zero]
      rfl

/-- A clause has the markers of its fragments. -/
theorem count_clause (keyword separator : String) (fs : List Fragment) :
    (clause keyword separator fs).count .marker = totalMarkers fs := by
  unfold clause
  split_ifs with h
  · rw [List.isEmpty_iff.mp h]
    rfl
  · rw [List.count_append, count_ofText, count_separated, Nat.zero_add]

/-- Separated fragments are filled one by one (`fillAll`): there are no markers between them. -/
theorem fill_separated (separator : String) (fs : List Fragment) (ts : List String) :
    fill (separated separator fs) ts = separated separator (fillAll fs ts) := by
  fun_induction separated separator fs generalizing ts with
  | case1 => rfl
  | case2 f => rfl
  | case3 f rest hrest ih =>
      obtain ⟨g, gs, rfl⟩ := List.exists_cons_of_ne_nil hrest
      rw [fill_append, fill_append, fill_ofText, ih, List.count_append, count_ofText, Nat.add_zero]
      rfl

/-- The fragments of a clause are filled one by one. -/
theorem fill_clause (keyword separator : String) (fs : List Fragment) (ts : List String) :
    fill (clause keyword separator fs) ts = clause keyword separator (fillAll fs ts) := by
  cases fs with
  | nil => rfl
  | cons f rest =>
      simp only [clause, fillAll, List.isEmpty_cons, Bool.false_eq_true, if_false]
      rw [fill_append, fill_ofText, fill_separated, count_ofText]
      rfl

end Fragment

end DataAccess.Dialect
