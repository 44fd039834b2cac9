import DataAccess.Text.Quotation
import DataAccess.Value

/-!
# Literals and identifiers

`literal` writes a value as SQL text and `identifier` a name. A name that is a plain word stands as
it is; any other is set between double quotes.
-/

namespace DataAccess.Dialect

/-- The text of a floating-point number, with ".0" behind `Text.floatText` if that has no decimal
point. -/
def floatLiteral (x : Float) : String :=
  let shown := Text.floatText x
  if x.isNaN || x.isInf || shown.toList.contains '.' then shown else shown ++ ".0"

/-- A value as SQL text: texts in doubled single quotes (`Text.doubled`), bytes as `X'..'` with
hexadecimal digits. -/
def literal : Value → String
  | .null => "NULL"
  | .boolean b => if b then "TRUE" else "FALSE"
  | .integer n => toString n.toInt
  | .float x => floatLiteral x
  | .text s => Text.doubled '\'' s
  | .blob bytes => "X'" ++ Text.hexBytes 'A' bytes ++ "'"

/-- A text as it stands inside single quotes: each of these is doubled (`Text.doubleQuotes`). -/
def escapeQuotes (s : String) : String :=
  String.ofList (Text.doubleQuotes '\'' s.toList)

/-- Whether a name is a plain word: ASCII letters, digits and underscores, with no digit in
front. -/
def isPlainName : List Char → Bool
  | [] => false
  | c :: rest => (c.isAlpha || c == '_') && rest.all fun d => d.isAlphanum || d == '_'

/-- A name as SQL text: as it is if `isPlainName`, and else in doubled double quotes
(`Text.doubled`). -/
def identifier (name : String) : String :=
  if isPlainName name.toList then name else Text.doubled '"' name

end DataAccess.Dialect
