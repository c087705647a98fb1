import TinyLisp.Syntax.Split
import TinyLisp.Syntax.Value
import TinyLisp.Number.Decimal

/-!
# Reading source text
-/

namespace TinyLisp

namespace Reader

def inner (cs : List Char) : List Char := (cs.drop 1).dropLast

theorem inner_length (cs : List Char) : (inner cs).length = cs.length - 2 := by
  simp [inner]
  omega

/-- Read the text of one expression. Every nested read is of a shorter text: the text after a
quote, or an item inside parentheses. -/
def readChars (src : List Char) : Except Fault Value :=
  match _hc : Text.strip (Text.removeComments src) with
  | '\'' :: c :: rest => do
    let v ← readChars (c :: rest)
    return .list [.sym "quote", v]
  | ['#', c] =>
    if c = 't' then .ok (.bool true)
    else if c = 'f' then .ok (.bool false)
    else .error .expectedBoolean
  | code =>
    if !code.isEmpty && code.all Text.isDigit then
      .int <$> Decimal.readDigits code
    else if code.head? = some '"' then
      match Split.textLiteralEnd code with
      | some n =>
        if n = code.length then .ok (.str (.text (String.ofList (inner code))))
        else .error .expectedEnd
      | none => .error .unclosedText
    else if code = ['(', ')'] then .ok (.list [])
    else if _hpar : code.head? = some '(' ∧ 1 < code.length then
      match Split.matchingParen code 0 with
      | .error f => .error f
      | .ok closing =>
        if closing + 1 < code.length then .error .expectedEnd
        else match _hs : Split.splitExpressions (Text.removeComments (inner code)) with
          | .error f => .error f
          | .ok pieces => do
            let items ← pieces.attach.mapM fun ⟨p, _⟩ => readChars p
            return .list items
    else .ok (.sym (String.ofList code))
termination_by src.length
decreasing_by
  · have h₁ := Text.strip_length_le (Text.removeComments src)
    have h₂ := Text.removeComments_length_le src
    rw [_hc] at h₁
    simp only [List.length_cons] at h₁ ⊢
    omega
  · have h₁ := Text.strip_length_le (Text.removeComments src)
    have h₂ := Text.removeComments_length_le src
    have h₃ := Split.splitExpressions_length _hs p (by assumption)
    have h₄ := Text.removeComments_length_le (inner code)
    have h₅ := inner_length code
    rw [_hc] at h₁
    omega

def read (src : String) : Except Fault Value := readChars src.toList

/-- Read every expression of a source text, in order. The text is cut into expressions first,
so a text that cannot be cut fails before any of its expressions is read. -/
def readAll (src : String) : Except Fault (List Value) := do
  let pieces ← Split.splitExpressions (Text.removeComments src.toList)
  pieces.mapM readChars

end Reader

end TinyLisp
