import DataAccess.Text.Blank
import DataAccess.Text.Letters

/-!
# Labels: dotted names

A label such as `SCHEMA.TABLE.COLUMN` names a table or a column, with optional double quotes around
each part. Names may contain dots, so a label is not split at its dots: known names are removed from
its front, one after another, by `stripToken?`.
-/

namespace DataAccess.Catalog.Label

/-- Whether letters that differ in case count as equal. -/
inductive Case where
  /-- They differ. -/
  | sensitive
  /-- They are equal. -/
  | insensitive
deriving DecidableEq

/-- Whether a character ends a part of a label. -/
def isDelimiter (c : Char) : Bool :=
  c == '.' || c == '"'

/-- Whether a character is a double quote. -/
def isQuote (c : Char) : Bool :=
  c == '"'

/-- A label without the blanks around it (`Text.trimChars`) and the quotes before it. -/
def normalize (label : String) : List Char :=
  (Text.trimChars label.toList).dropWhile isQuote

/-- A part of a label without the quotes around it. -/
def unquote (part : List Char) : String :=
  String.ofList (Text.trimWith isQuote part)

/-- Whether two characters are equal under a rule for case, by `==` or
`Text.equalCharIgnoringCase`. -/
def sameChar : Case → Char → Char → Bool
  | .sensitive, a, b => a == b
  | .insensitive, a, b => Text.equalCharIgnoringCase a b

/-- What follows `token` at the front of `label`, compared character by character. -/
def afterToken? (case : Case) : (token label : List Char) → Option (List Char)
  | [], label => some label
  | _ :: _, [] => none
  | expected :: token, actual :: label =>
      if sameChar case actual expected then afterToken? case token label else none

/-- What follows `token` and the delimiters after it at the front of `label`. A token counts only if
it is not empty and a delimiter follows it, so `AB` is not a token of `ABC.X`. -/
def stripToken? (case : Case) (token label : List Char) : Option (List Char) :=
  if token.isEmpty then none
  else match afterToken? case token label with
    | some (c :: rest) =>
        if isDelimiter c then some ((c :: rest).dropWhile isDelimiter) else none
    | _ => none

/-- What follows the name `token` at the front of `label`. -/
def stripName? (case : Case) (token : String) (label : List Char) : Option (List Char) :=
  stripToken? case token.toList label

end DataAccess.Catalog.Label
