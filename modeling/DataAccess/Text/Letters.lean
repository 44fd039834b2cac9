import DataAccess.Text.CaseTable

/-!
# Letters: lower case, upper case and equality of names

`lowercase` and `uppercase` map whole texts. Lower case depends on context in one place: a capital
sigma at the end of a word becomes a final sigma (`lowerFrom`). `lowerChar` maps one character on
its own and knows no context.

Names are compared in two ways: `equalIgnoringCase` by whole lower-case texts, and
`equalIgnoringAsciiCase` by the ASCII letters alone.
-/

namespace DataAccess.Text

/-! ## One character -/

/-- The lower-case form of one character, by `lowerRuns` above ASCII. Only the dotted capital I has
a form of two characters. -/
def lowerChar (c : Char) : List Char :=
  if c.toNat < 0x80 then [c.toLower]
  else if c.toNat = 0x130 then ['i', Char.ofNat 0x307]
  else match lowerRuns.findSome? (·.image? c.toNat) with
    | some n => [Char.ofNat n]
    | none => [c]

/-- The upper-case form of one character, by `upperStrings` and `upperRuns` above ASCII. It takes up
to three characters. -/
def upperChar (c : Char) : List Char :=
  if c.toNat < 0x80 then [c.toUpper]
  else match upperStrings.lookup c.toNat with
    | some ns => ns.map Char.ofNat
    | none => match upperRuns.findSome? (·.image? c.toNat) with
        | some n => [Char.ofNat n]
        | none => [c]

/-- Whether `c` is a letter that has a case. -/
def isCased (c : Char) : Bool :=
  if c.toNat < 0x80 then c.isAlpha else inRanges casedRanges c.toNat

/-- Whether `c` is passed over when the end of a word is looked for. -/
def isCaseIgnorable (c : Char) : Bool :=
  inRanges ignorableRanges c.toNat

/-! ## Texts -/

/-- Whether the first character of `cs` that is not passed over is a letter that has a case. -/
def reachesCased (cs : List Char) : Bool :=
  match cs.dropWhile isCaseIgnorable with
  | c :: _ => isCased c
  | [] => false

/-- The lower-case form of a text of which `before`, nearest character first, has been read. A
capital sigma that follows a letter and is followed by none ends a word. -/
def lowerFrom (before : List Char) : List Char → List Char
  | [] => []
  | c :: rest =>
      (if c = 'Σ' then
        if reachesCased before && !reachesCased rest then ['ς'] else ['σ']
      else
        lowerChar c) ++ lowerFrom (c :: before) rest

/-- The lower-case form of a list of characters. -/
def lowerChars (cs : List Char) : List Char :=
  lowerFrom [] cs

/-- The lower-case form of a text (`lowerFrom`): character by character, but for a capital sigma at
the end of a word. -/
def lowercase (s : String) : String :=
  String.ofList (lowerChars s.toList)

/-- The upper-case form of a text, character by character (`upperChar`). -/
def uppercase (s : String) : String :=
  String.ofList (s.toList.flatMap upperChar)

/-! ## Equality of names -/

/-- Whether two names have the same lower-case form: `lowercase a == lowercase b`. -/
def equalIgnoringCase (a b : String) : Bool :=
  a == b || lowercase a == lowercase b

/-- Whether two names differ at most in the case of their ASCII letters (`Char.toLower`). -/
def equalIgnoringAsciiCase (a b : String) : Bool :=
  a.toList.map Char.toLower == b.toList.map Char.toLower

/-- Whether two characters are equal or have the same lower-case form, each on its own
(`lowerChar`). -/
def equalCharIgnoringCase (a b : Char) : Bool :=
  a == b || lowerChar a == lowerChar b

theorem equalIgnoringCase_iff {a b : String} :
    equalIgnoringCase a b = true ↔ lowercase a = lowercase b := by
  constructor
  · intro h
    simp only [equalIgnoringCase, Bool.or_eq_true, beq_iff_eq] at h
    rcases h with rfl | h
    · rfl
    · exact h
  · intro h
    simp [equalIgnoringCase, h]

theorem equalIgnoringAsciiCase_iff {a b : String} :
    equalIgnoringAsciiCase a b = true ↔ a.toList.map Char.toLower = b.toList.map Char.toLower := by
  simp [equalIgnoringAsciiCase]

end DataAccess.Text
