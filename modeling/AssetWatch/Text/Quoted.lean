import AssetWatch.Text.Printable

/-!
# Quoted text

Text between double quotes, as it is shown in messages: a quote, a backslash and the four
controls with a letter of their own are written with a backslash, and every other character
that does not print as itself as its code point in hexadecimal.
-/

namespace AssetWatch.Text

def quoteChar (c : Char) : String :=
  if c = '"' then "\\\""
  else if c = '\\' then "\\\\"
  else if c = '\n' then "\\n"
  else if c = '\t' then "\\t"
  else if c = '\r' then "\\r"
  else if c = '\x00' then "\\0"
  else if isPrintable c then c.toString
  else "\\u\x7b" ++ String.ofList (Nat.toDigits 16 c.toNat) ++ "\x7d"

/-- The text in double quotes, with escapes. -/
def quoted (s : String) : String :=
  "\"" ++ String.join (s.toList.map quoteChar) ++ "\""

end AssetWatch.Text
