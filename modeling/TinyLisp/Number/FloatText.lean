import TinyLisp.Number.Binary64
import TinyLisp.Text.Basic
import TinyLisp.Text.Digit

/-!
# Binary64 numbers as text

Shortest round-trip printing, and reading with rounding to nearest.
-/

namespace TinyLisp

namespace Binary64

def digitCount (n : Nat) : Nat := (Nat.toDigits 10 n).length

/-- `⌊log₁₀ (num / den)⌋` for positive `num` and `den`: the difference of the digit counts, or
one less. -/
def floorLog10 (num den : Nat) : Int :=
  let e : Int := (digitCount num : Int) - digitCount den
  let (a, b) := scale10 den 1 e
  if a ≤ num * b then e else e - 1

def readDecimal (d : Nat) (j : Int) : Option Binary64 :=
  let (a, b) := scale10 d 1 j
  ofRatio? false a b

/-- The `n`-digit decimal that reads back as `x = num / den`, if there is one, as its digits and
the exponent of its last digit. Only the two `n`-digit decimals around `x` can be such a decimal,
since any decimal between one of them and `x` would be nearer. When both read back, the nearer
wins, and of two equally near the one with an even last digit. `e10` is `⌊log₁₀ x⌋`. -/
def candidate (x : Binary64) (num den : Nat) (e10 : Int) (n : Nat) : Option (Nat × Int) :=
  let j := e10 - n + 1
  let (a, b) := scale10 num den (-j)
  let lo := a / b
  if a % b = 0 then some (lo, j)
  else
    let okLo := readDecimal lo j == some x
    let okHi := readDecimal (lo + 1) j == some x
    if okLo && okHi then
      let twice := 2 * (a - lo * b)
      if twice < b then some (lo, j)
      else if b < twice then some (lo + 1, j)
      else if lo % 2 = 0 then some (lo, j) else some (lo + 1, j)
    else if okLo then some (lo, j)
    else if okHi then some (lo + 1, j)
    else none

def trimZeros : Nat → Nat → Int → Nat × Int
  | 0, d, j => (d, j)
  | fuel + 1, d, j =>
    if d ≠ 0 && d % 10 = 0 then trimZeros fuel (d / 10) (j + 1) else (d, j)

/-- The shortest decimal `d * 10^j` that reads back as the positive finite number `sig * 2^exp`,
with no trailing zeros in `d`. Seventeen digits always suffice. -/
def shortest (sig : Nat) (exp : Int) : Nat × Int :=
  let x := Binary64.finite false sig exp
  let (num, den) := scale2 sig 1 exp
  let e10 := floorLog10 num den
  let (d, j) :=
    (((List.range 17).map (· + 1)).findSome? (candidate x num den e10)).getD
      (roundHalfEven (scale10 num den (16 - e10)).1 (scale10 num den (16 - e10)).2, e10 - 16)
  trimZeros (digitCount d) d j

def exponentDigits (n : Nat) : String :=
  if n < 10 then "0" ++ toString n else toString n

/-- The digits `ds` with the decimal point `decpt` places right of the first digit (left of it
when negative), in the notation the magnitude calls for. -/
def layout (ds : List Char) (decpt : Int) : String :=
  let n := ds.length
  if decpt ≤ -4 || 16 < decpt then
    let x := decpt - 1
    let mantissa := match ds with
      | [] => []
      | d :: [] => [d]
      | d :: rest => d :: '.' :: rest
    String.ofList mantissa ++ "e" ++ (if x < 0 then "-" else "+") ++ exponentDigits x.natAbs
  else if decpt ≤ 0 then
    "0." ++ String.ofList (List.replicate (-decpt).toNat '0') ++ String.ofList ds
  else if decpt < n then
    String.ofList (ds.take decpt.toNat) ++ "." ++ String.ofList (ds.drop decpt.toNat)
  else
    String.ofList ds ++ String.ofList (List.replicate (decpt.toNat - n) '0') ++ ".0"

def toText : Binary64 → String
  | .nan => "nan"
  | .inf neg => if neg then "-inf" else "inf"
  | .finite neg sig exp =>
    let sign := if neg then "-" else ""
    if sig = 0 then sign ++ "0.0"
    else
      let (d, j) := shortest sig exp
      let ds := Nat.toDigits 10 d
      sign ++ layout ds (ds.length + j)

def asciiValue (ds : List Char) : Nat :=
  ds.foldl (fun acc c => 10 * acc + (c.toNat - '0'.toNat)) 0

def asciiDigits (cs : List Char) : List Char × List Char :=
  (cs.takeWhile Char.isDigit, cs.dropWhile Char.isDigit)

def exponentPart? : List Char → Option Int
  | [] => some 0
  | c :: rest =>
    if c == 'e' || c == 'E' then
      let (neg, body) := match rest with
        | '-' :: r => (true, r)
        | '+' :: r => (false, r)
        | r => (false, r)
      let (ds, tail) := asciiDigits body
      if ds.isEmpty || !tail.isEmpty then none
      else some (if neg then -(asciiValue ds : Int) else asciiValue ds)
    else none

/-- The decimal `d * 10^j` rounded to the nearest number, ties to even. A nonzero `d` of `m`
digits lies in `[10^(m-1+j), 10^(m+j))`: below `10^-324`, under half the least subnormal number,
it rounds to zero, and from `10^309`, past the greatest finite number, to infinity, so neither
needs the exact ratio, whose size grows with `|j|`. -/
def decimalValue (neg : Bool) (d : Nat) (j : Int) : Binary64 :=
  let m : Int := digitCount d
  if d = 0 || m + j ≤ -324 then zero neg
  else if 309 ≤ m - 1 + j then .inf neg
  else
    let (a, b) := scale10 d 1 j
    ofRatio neg a b

def readUnsigned (neg : Bool) (cs : List Char) : Option Binary64 :=
  let word := String.ofList (cs.map Char.toLower)
  if word == "inf" || word == "infinity" then some (.inf neg)
  else if word == "nan" then some .nan
  else
    let (whole, rest) := asciiDigits cs
    let (frac, rest) := match rest with
      | '.' :: r => asciiDigits r
      | r => ([], r)
    if whole.isEmpty && frac.isEmpty then none
    else
      (exponentPart? rest).map fun e => decimalValue neg (asciiValue (whole ++ frac)) (e - frac.length)

/-- A text with its digit separators removed, if every underscore in it stands between two
ASCII digits; `prev` is the character before the text. -/
def dropSeparators (prev : Char) : List Char → Option (List Char)
  | [] => if prev == '_' then none else some []
  | '_' :: rest => if prev.isDigit then dropSeparators '_' rest else none
  | c :: rest =>
    if prev == '_' && !c.isDigit then none else (dropSeparators c rest).map (c :: ·)

/-- A decimal text read as the nearest number. Blanks around it are ignored, digits may be of
any script, and single underscores may separate digits. -/
def ofText? (s : String) : Option Binary64 :=
  match dropSeparators ' ' (Text.trimNumber (Text.asciiForm s.toList)) with
  | none => none
  | some ('-' :: r) => readUnsigned true r
  | some ('+' :: r) => readUnsigned false r
  | some r => readUnsigned false r

end Binary64

end TinyLisp
