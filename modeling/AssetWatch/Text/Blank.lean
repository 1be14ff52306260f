/-!
# Blank text

White space is the Unicode property of that name: the 25 code points below. Text is blank
when nothing is left after white space is taken off both ends.
-/

namespace AssetWatch.Text

/-- The code points with the property White_Space. -/
def isWhite (c : Char) : Bool :=
  let n := c.toNat
  (9 ≤ n && n ≤ 13) || n == 0x20 || n == 0x85 || n == 0xA0 || n == 0x1680 ||
    (0x2000 ≤ n && n ≤ 0x200A) || n == 0x2028 || n == 0x2029 || n == 0x202F ||
    n == 0x205F || n == 0x3000

/-- Takes white space off both ends. -/
def trim (s : String) : String :=
  String.ofList ((s.toList.dropWhile isWhite).reverse.dropWhile isWhite).reverse

/-- Nothing but white space. -/
def isBlank (s : String) : Bool := s.toList.all isWhite

end AssetWatch.Text
