import DataAccess.Text.CaseTable
import DataAccess.Text.PrintTable

/-!
# Quotation: texts inside quotes

Two ways to set a text between quotes. In `doubled`, for SQL, a quote inside the text is written
twice. In `escaped`, for inspection, a quote or backslash follows a backslash, and a character that
leaves no mark is written by its number.
-/

namespace DataAccess.Text

/-! ## Doubled quotes -/

/-- The characters of a text with every `quote` written twice. -/
def doubleQuotes (quote : Char) : List Char → List Char
  | [] => []
  | c :: rest => if c = quote then quote :: quote :: doubleQuotes quote rest
      else c :: doubleQuotes quote rest

/-- A text between two of `quote`, with every `quote` inside it written twice (`doubleQuotes`). -/
def doubled (quote : Char) (s : String) : String :=
  String.ofList (quote :: (doubleQuotes quote s.toList ++ [quote]))

/-! ## Escapes -/

/-- How a character is written inside quotes. -/
def escapeChar (c : Char) : List Char :=
  if c = '"' ∨ c = '\\' then ['\\', c]
  else if c = '\n' then ['\\', 'n']
  else if c = '\r' then ['\\', 'r']
  else if c = '\t' then ['\\', 't']
  else if c.toNat = 0 then ['\\', '0']
  else if inRanges unprintableRanges c.toNat then
    '\\' :: 'u' :: '\x7b' :: (Nat.toDigits 16 c.toNat ++ ['\x7d'])
  else [c]

/-- A text between double quotes, as it is shown for inspection, each character by `escapeChar`. -/
def escaped (s : String) : String :=
  String.ofList ('"' :: (s.toList.flatMap escapeChar ++ ['"']))

end DataAccess.Text
