import TinyLisp.Fault
import TinyLisp.Text.Digit

/-!
# Integers as decimal text

No integer of more than `maxDigits` digits has a decimal text, printed or read.
-/

namespace TinyLisp

namespace Decimal

/-- The least natural number with more than `maxDigits` digits. -/
def limit : Nat := Nat.pow 10 maxDigits

/-- Whether an integer has a decimal text: at most `maxDigits` digits. -/
def hasText (n : Int) : Bool := n.natAbs < limit

def intText (n : Int) : Except Fault String :=
  if hasText n then .ok (toString n) else .error .textTooLong

def digitsValue (ds : List Char) : Nat :=
  ds.foldl (fun acc c => 10 * acc + (Text.digitValue? c).getD 0) 0

/-- A literal made of decimal digits read as an integer, if it has at most `maxDigits` digits. -/
def readDigits (ds : List Char) : Except Fault Int :=
  if maxDigits < ds.length then .error (.literalTooLong ds.length)
  else .ok (digitsValue ds)

end Decimal

end TinyLisp
