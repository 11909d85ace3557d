/-!
Blank characters: the code points with the Unicode property White_Space, and trimming by them.
-/

namespace TeamSync.Text

/-- Unicode White_Space. -/
def isBlank (c : Char) : Bool :=
  let n := c.toNat
  (0x09 ≤ n && n ≤ 0x0D) || n == 0x20 || n == 0x85 || n == 0xA0 || n == 0x1680 ||
  (0x2000 ≤ n && n ≤ 0x200A) || n == 0x2028 || n == 0x2029 || n == 0x202F || n == 0x205F ||
  n == 0x3000

/-- The text without the matching characters at its end. -/
def dropEndWhile (p : Char → Bool) (cs : List Char) : List Char :=
  (cs.reverse.dropWhile p).reverse

/-- The text without blanks at either end. -/
def trimChars (cs : List Char) : List Char := dropEndWhile isBlank (cs.dropWhile isBlank)

/-- The string without blanks at either end. -/
def trim (s : String) : String := String.ofList (trimChars s.toList)

/-- Whether a string holds nothing but blanks. -/
def blank (s : String) : Bool := s.toList.all isBlank

/-- The string without the slashes at its end. -/
def dropTrailingSlashes (s : String) : String :=
  String.ofList (dropEndWhile (· == '/') s.toList)

end TeamSync.Text
