/-!
# Blank: white space around a text

`isBlank` is the class of white space characters, in ASCII and beyond it. `trim` removes blanks from
both ends of a text, and `trimWith` does the same for any class of characters.
-/

namespace DataAccess.Text

/-- Whether `c` is white space: the ASCII controls from tab to carriage return, the space, the next
line control, and the spaces and separators of other blocks. -/
def isBlank (c : Char) : Bool :=
  let n := c.toNat
  (0x9 ≤ n && n ≤ 0xD) || n == 0x20 || n == 0x85 || n == 0xA0 || n == 0x1680 ||
    (0x2000 ≤ n && n ≤ 0x200A) || n == 0x2028 || n == 0x2029 || n == 0x202F || n == 0x205F ||
    n == 0x3000

/-- The characters of `cs` without those at either end that `strip` accepts. -/
def trimWith (strip : Char → Bool) (cs : List Char) : List Char :=
  ((cs.dropWhile strip).reverse.dropWhile strip).reverse

/-- The characters of `cs` without the blanks at either end. -/
def trimChars (cs : List Char) : List Char :=
  trimWith isBlank cs

/-- A text without the blanks at either end. -/
def trim (s : String) : String :=
  String.ofList (trimChars s.toList)

end DataAccess.Text
