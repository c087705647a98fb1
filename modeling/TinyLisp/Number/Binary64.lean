/-!
# Binary64 numbers

Quotients of integers, rounded to nearest with ties to even, kept in canonical form.
-/

namespace TinyLisp

/-- A binary64 number. A finite one has the value `(-1)^neg * sig * 2^exp`. -/
inductive Binary64 where
  | finite (neg : Bool) (sig : Nat) (exp : Int)
  | inf (neg : Bool)
  | nan
  deriving Repr, DecidableEq, Inhabited

namespace Binary64

/-- The exponent of the subnormal numbers and the least exponent of any significand. -/
def minExp : Int := -1074

def maxExp : Int := 971

def zero (neg : Bool) : Binary64 := .finite neg 0 minExp

def scale2 (num den : Nat) (e : Int) : Nat × Nat :=
  if 0 ≤ e then (num * Nat.pow 2 e.toNat, den) else (num, den * Nat.pow 2 (-e).toNat)

def scale10 (num den : Nat) (e : Int) : Nat × Nat :=
  if 0 ≤ e then (num * Nat.pow 10 e.toNat, den) else (num, den * Nat.pow 10 (-e).toNat)

/-- The quotient `num / den` rounded to the nearest natural number, ties to the even one. -/
def roundHalfEven (num den : Nat) : Nat :=
  let q := num / den
  let r := num % den
  if den < 2 * r || (2 * r == den && q % 2 == 1) then q + 1 else q

/-- `⌊log₂ (num / den)⌋` for positive `num` and `den`. Both logarithms of the terms are exact, so
the answer is their difference or one less. -/
def floorLog2 (num den : Nat) : Int :=
  let e : Int := (num.log2 : Int) - (den.log2 : Int)
  let (a, b) := scale2 den 1 e
  if a ≤ num * b then e else e - 1

/-- The significand and exponent nearest to a positive ratio, with the exponent not capped. -/
def roundPositive (num den : Nat) : Nat × Int :=
  let q := max (floorLog2 num den - 52) minExp
  let (a, b) := scale2 num den (-q)
  let m := roundHalfEven a b
  if m = Nat.pow 2 53 then (Nat.pow 2 52, q + 1) else (m, q)

/-- The ratio `num / den` (with `0 < den`) and sign `neg`, rounded to nearest with ties to even;
`none` when the rounded magnitude reaches `2^1024`. -/
def ofRatio? (neg : Bool) (num den : Nat) : Option Binary64 :=
  if num = 0 then some (zero neg)
  else
    let (m, q) := roundPositive num den
    if maxExp < q then none else some (.finite neg m q)

def ofRatio (neg : Bool) (num den : Nat) : Binary64 :=
  (ofRatio? neg num den).getD (.inf neg)

/-- The quotient of two integers, the divisor not zero. It is negative zero when the dividend is
zero and the divisor negative. -/
def quotient? (a b : Int) : Option Binary64 :=
  ofRatio? (decide (a < 0) != decide (b < 0)) a.natAbs b.natAbs

def isZero : Binary64 → Bool
  | .finite _ s _ => s == 0
  | _ => false

def eqInt : Binary64 → Int → Bool
  | .finite neg s e, n =>
    if s = 0 then n == 0
    else if n = 0 || neg != decide (n < 0) then false
    else
      let (a, b) := scale2 s 1 e
      a == n.natAbs * b
  | _, _ => false

/-- Whether two numbers are equal as real numbers: the two zeros are equal, and no number is
equal to a NaN. -/
def eqNum : Binary64 → Binary64 → Bool
  | .finite n₁ s₁ e₁, .finite n₂ s₂ e₂ =>
    if s₁ = 0 || s₂ = 0 then s₁ == 0 && s₂ == 0
    else
      let m := min e₁ e₂
      n₁ == n₂ && s₁ * Nat.pow 2 (e₁ - m).toNat == s₂ * Nat.pow 2 (e₂ - m).toNat
  | .inf a, .inf b => a == b
  | _, _ => false

def ofInt? (n : Int) : Option Binary64 := ofRatio? (decide (n < 0)) n.natAbs 1

/-- The sum of two numbers: their exact sum rounded to the nearest number, ties to even, and
infinite when that is too large. Infinities of opposite signs and NaN give NaN; an exact zero
is negative only as the sum of two negative zeros. -/
def add : Binary64 → Binary64 → Binary64
  | .nan, _ | _, .nan => .nan
  | .inf a, .inf b => if a == b then .inf a else .nan
  | .inf a, _ | _, .inf a => .inf a
  | .finite n₁ s₁ e₁, .finite n₂ s₂ e₂ =>
    let m := min e₁ e₂
    let signed (neg : Bool) (s : Nat) (e : Int) : Int :=
      if neg then -((s * Nat.pow 2 (e - m).toNat : Nat) : Int)
      else ((s * Nat.pow 2 (e - m).toNat : Nat) : Int)
    let t := signed n₁ s₁ e₁ + signed n₂ s₂ e₂
    if t = 0 then zero (s₁ == 0 && s₂ == 0 && n₁ && n₂)
    else
      let (num, den) := scale2 t.natAbs 1 m
      ofRatio (decide (t < 0)) num den

def wholeBounds (sig : Nat) (exp : Int) : Nat × Nat :=
  let (num, den) := scale2 sig 1 exp
  (num / den, (num + den - 1) / den)

/-- A finite number cut toward zero to an integer; the special values have none. -/
def truncate? : Binary64 → Option Int
  | .finite neg sig exp =>
    let m : Int := (wholeBounds sig exp).1
    some (if neg then -m else m)
  | _ => none

def floor? : Binary64 → Option Int
  | .finite neg sig exp =>
    let (lo, hi) := wholeBounds sig exp
    some (if neg then -(hi : Int) else lo)
  | _ => none

def ceil? : Binary64 → Option Int
  | .finite neg sig exp =>
    let (lo, hi) := wholeBounds sig exp
    some (if neg then -(lo : Int) else hi)
  | _ => none

end Binary64

end TinyLisp
