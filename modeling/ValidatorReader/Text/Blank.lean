/-!
# Blank characters

Two classes of blank characters, and trimming of a text by a class. The wide class is the one
settings are trimmed by; the narrow one is what hexadecimal text may have between two bytes.
-/

namespace ValidatorReader.Text

/-- The white space of Unicode, with the four information separators. -/
def isBlank (c : Char) : Bool :=
  let n := c.toNat
  (0x09 ≤ n && n ≤ 0x0d) || (0x1c ≤ n && n ≤ 0x20) || n == 0x85 || n == 0xa0 || n == 0x1680 ||
    (0x2000 ≤ n && n ≤ 0x200a) || n == 0x2028 || n == 0x2029 || n == 0x202f || n == 0x205f ||
    n == 0x3000

/-- Space, tab, line feed, vertical tab, form feed and carriage return. -/
def isAsciiBlank (c : Char) : Bool :=
  let n := c.toNat
  n == 0x20 || (0x09 ≤ n && n ≤ 0x0d)

/-- A text without the characters of a class at either end. -/
def trimBy (p : Char → Bool) (cs : List Char) : List Char :=
  ((cs.dropWhile p).reverse.dropWhile p).reverse

/-- A text without the blanks at either end. -/
def trim (s : String) : String :=
  String.ofList (trimBy isBlank s.toList)

end ValidatorReader.Text
