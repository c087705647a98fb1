import TinyLisp.Text.Printable
import TinyLisp.Text.Surrogate

/-!
# Quoted texts
-/

namespace TinyLisp

namespace Text

/-- The hexadecimal digits of a number, padded with zeros to at least `width` digits. -/
def hexDigits (width n : Nat) : String :=
  let ds := Nat.toDigits 16 n
  String.ofList (List.replicate (width - ds.length) '0' ++ ds)

/-- The escaped form of a character inside a text quoted with `quote`. -/
def escapeChar (quote c : Char) : String :=
  let n := c.toNat
  if let some s := surrogate? c then "\\u" ++ hexDigits 4 s
  else if c == quote || c == '\\' then String.ofList ['\\', c]
  else if c == '\t' then "\\t"
  else if c == '\n' then "\\n"
  else if c == '\r' then "\\r"
  else if n < 0x20 || n == 0x7F then "\\x" ++ hexDigits 2 n
  else if n < 0x7F || isPrintable c then String.singleton c
  else if n ≤ 0xFF then "\\x" ++ hexDigits 2 n
  else if n ≤ 0xFFFF then "\\u" ++ hexDigits 4 n
  else "\\U" ++ hexDigits 8 n

def quote (s : String) : String :=
  let q := if s.contains '\'' && !s.contains '"' then '"' else '\''
  String.singleton q ++ String.join (s.toList.map (escapeChar q)) ++ String.singleton q

end Text

end TinyLisp
