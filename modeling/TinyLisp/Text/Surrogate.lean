import TinyLisp.Fault

/-!
# Lone surrogates

A lone surrogate `s` is carried by the unassigned code point `s + 0xD0000`.
-/

namespace TinyLisp

namespace Text

def standInOffset : Nat := 0xD0000

def isSurrogate (s : Nat) : Bool := 0xD800 ≤ s && s < 0xE000

/-- The character that stands in for a lone surrogate `s`. -/
def standIn (s : Nat) : Char := Char.ofNat (s + standInOffset)

/-- The surrogate a character stands in for, if it is a stand-in. -/
def surrogate? (c : Char) : Option Nat :=
  if isSurrogate (c.toNat - standInOffset) && standInOffset ≤ c.toNat then
    some (c.toNat - standInOffset)
  else none

theorem standIn_toNat {s : Nat} (h : isSurrogate s = true) :
    (standIn s).toNat = s + standInOffset := by
  simp only [isSurrogate, Bool.and_eq_true, decide_eq_true_eq] at h
  have hv : (s + standInOffset).isValidChar := by
    unfold Nat.isValidChar standInOffset
    omega
  rw [standIn, Char.ofNat, dif_pos hv]
  rfl

theorem surrogate?_standIn {s : Nat} (h : isSurrogate s = true) :
    surrogate? (standIn s) = some s := by
  simp [surrogate?, standIn_toNat h, h]

/-- The first run of stand-ins in a text, as its position and the surrogates of the run. -/
def firstSurrogates (cs : List Char) : Option (Nat × List Nat) :=
  match cs.findIdx? fun c => (surrogate? c).isSome with
  | none => none
  | some i => some (i, ((cs.drop i).takeWhile fun c => (surrogate? c).isSome).filterMap surrogate?)

/-- A text as it is written to a file in UTF-8. A text holding a stand-in has no UTF-8 form and
fails at its first run of them. -/
def encoded (s : String) : Except Fault String :=
  match firstSurrogates s.toList with
  | none => .ok s
  | some (i, run) => .error (.unencodable i run)

end Text

end TinyLisp
