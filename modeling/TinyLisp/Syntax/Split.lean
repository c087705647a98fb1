import TinyLisp.Text.Basic
import TinyLisp.Fault

/-!
# Splitting source into expressions

Parentheses are matched by counting, skipping text literals; a double quote after a
backslash is escaped.
-/

namespace TinyLisp

namespace Split

/-- Positions are machine-sized integers: from `-indexBound` up to, but not including,
`indexBound`. -/
def indexBound : Int := Int.pow 2 63

/-- The character at a position counted as the host does: a negative position counts from the
end, `-1` being the last character. -/
def charAt? (s : Array Char) (i : Int) : Option Char :=
  if 0 ≤ i then s[i.toNat]? else s[(s.size + i).toNat]?.filter fun _ => -(s.size : Int) ≤ i

/-- The characters from a position to the end, the position counted as by `charAt?`, and a
position before the start meaning the whole text. -/
def suffixFrom (s : Array Char) (i : Int) : List Char :=
  if 0 ≤ i then s.toList.drop i.toNat else s.toList.drop (s.size + i).toNat

/-- What the scan knows after looking at the character at `pos`: how many parentheses are
still open and whether it is inside a text literal. A quote with no backslash before it opens
or closes a literal; outside literals, parentheses are counted. -/
def scanStep (s : Array Char) (pos : Int) (depth : Nat) (inText : Bool) : Nat × Bool :=
  let c := (charAt? s pos).getD ' '
  let inText := if charAt? s (pos - 1) != some '\\' && c == '"' then !inText else inText
  let depth :=
    if inText then depth
    else if c == '(' then depth + 1
    else if c == ')' then depth - 1
    else depth
  (depth, inText)

/-- The scan for the matching parenthesis, one character further at each step: `pos` is the
position looked at last, `depth` the number of parentheses still open and `inText` whether the
scan is inside a text literal. `steps` is the number of positions left before the end. -/
def scanParens (s : Array Char) (start : Int) :
    (steps : Nat) → (pos : Int) → (depth : Nat) → (inText : Bool) → Except Fault Int
  | 0, _, _, _ => .error (.incomplete (String.ofList (suffixFrom s start)))
  | steps + 1, pos, depth, inText =>
    if pos + 1 = s.size then .error (.incomplete (String.ofList (suffixFrom s start)))
    else match scanStep s (pos + 1) depth inText with
      | (0, _) => .ok (pos + 1)
      | (d + 1, t) => scanParens s start steps (pos + 1) (d + 1) t

theorem scanParens_gt {s : Array Char} {start : Int} {steps : Nat} {pos : Int} {depth : Nat}
    {inText : Bool} {p : Int}
    (h : scanParens s start steps pos depth inText = .ok p) : pos < p := by
  induction steps generalizing pos depth inText with
  | zero => simp [scanParens] at h
  | succ n ih =>
    unfold scanParens at h
    split at h
    · simp at h
    · split at h
      · simp only [Except.ok.injEq] at h
        omega
      · have := ih h
        omega

/-- The position of the parenthesis that closes the one at `start`. The start must be a
machine-sized position and the character there an opening parenthesis; reaching the end first
is an incomplete expression. -/
def matchingParen (cs : List Char) (start : Int) : Except Fault Int :=
  let s := cs.toArray
  if start < -indexBound || indexBound ≤ start then .error .indexSize else
  match charAt? s start with
  | none => .error (.indexRange "string")
  | some c =>
    if c != '(' then .error .assertion
    else scanParens s start (s.size - start).toNat start 1 false

theorem matchingParen_gt {cs : List Char} {start p : Int}
    (h : matchingParen cs start = .ok p) : start < p := by
  simp only [matchingParen] at h
  split at h
  · simp at h
  · split at h
    · simp at h
    · split at h
      · simp at h
      · exact scanParens_gt h

/-- Where a text literal at the start of `cs` ends, the position after its closing quote. The
scan takes a backslash and a quote after it together and stops at the first other quote. If the
text ends first, the literal ends at the last quote taken with a backslash, if there was one.
`i` is the position of `cs`'s first character and `last` that end so far. -/
def literalEnd (i : Nat) (last : Option Nat) : List Char → Option Nat
  | [] => last
  | '\\' :: '"' :: rest => literalEnd (i + 2) (some (i + 2)) rest
  | c :: rest => if c = '"' then some (i + 1) else literalEnd (i + 1) last rest

theorem literalEnd_ge {i : Nat} {last : Option Nat} {cs : List Char} {n : Nat}
    (h : literalEnd i last cs = some n) : i + 1 ≤ n ∨ last = some n := by
  fun_induction literalEnd i last cs with
  | case1 => exact .inr h
  | case2 i last rest ih =>
    rcases ih h with h' | h'
    · exact .inl (by omega)
    · simp only [Option.some.injEq] at h'
      exact .inl (by omega)
  | case3 => simp_all
  | case4 i last c rest _ _ ih =>
    rcases ih h with h' | h'
    · exact .inl (by omega)
    · exact .inr h'

def textLiteralEnd : List Char → Option Nat
  | '"' :: rest => literalEnd 1 none rest
  | _ => none

theorem textLiteralEnd_ge {cs : List Char} {n : Nat} (h : textLiteralEnd cs = some n) :
    2 ≤ n := by
  unfold textLiteralEnd at h
  split at h
  · rcases literalEnd_ge h with h' | h'
    · omega
    · simp at h'
  · simp at h

def isAtomChar (c : Char) : Bool :=
  !(Text.isBlank c || c == ')' || c == '(' || c == '\'')

/-- Cut the first expression from the text, after trimming it: its text and the text after it. -/
def firstExpression (cs : List Char) : Except Fault (List Char × List Char) :=
  match h : Text.strip cs with
  | [] => .error (.indexRange "string")
  | '\'' :: rest => do
    let (e, r) ← firstExpression rest
    return ('\'' :: e, r)
  | '(' :: rest => do
    let last ← matchingParen ('(' :: rest) 0
    let n := (last + 1).toNat
    return ((('(' :: rest).take n), (('(' :: rest).drop n))
  | '"' :: rest =>
    match textLiteralEnd ('"' :: rest) with
    | none => .error .noMatch
    | some n => .ok (('"' :: rest).take n, ('"' :: rest).drop n)
  | c :: rest =>
    if ((c :: rest).takeWhile isAtomChar).isEmpty then .error .noMatch
    else .ok ((c :: rest).takeWhile isAtomChar, (c :: rest).dropWhile isAtomChar)
termination_by cs.length
decreasing_by
  have := Text.strip_length_le cs
  rw [h] at this
  simp at this
  omega

/-- The first expression is not empty, and it and the text after it together are no longer than
the text they were cut from. -/
theorem firstExpression_length {cs e r : List Char} (h : firstExpression cs = .ok (e, r)) :
    e ≠ [] ∧ e.length + r.length ≤ cs.length := by
  fun_induction firstExpression cs generalizing e r with
  | case1 => simp at h
  | case2 cs rest hs ih =>
    have hl := Text.strip_length_le cs
    rw [hs, List.length_cons] at hl
    cases hf : firstExpression rest with
    | error => simp [hf, bind, Except.bind] at h
    | ok p =>
      obtain ⟨e', r'⟩ := p
      simp only [hf, bind, Except.bind, pure, Except.pure, Except.ok.injEq, Prod.mk.injEq] at h
      obtain ⟨rfl, rfl⟩ := h
      have := (ih hf).2
      simp only [List.length_cons]
      exact ⟨List.cons_ne_nil _ _, by omega⟩
  | case3 cs rest hs =>
    have hl := Text.strip_length_le cs
    rw [hs] at hl
    cases hm : matchingParen ('(' :: rest) 0 with
    | error => simp [hm, bind, Except.bind] at h
    | ok last =>
      simp only [hm, bind, Except.bind, pure, Except.pure, Except.ok.injEq, Prod.mk.injEq] at h
      obtain ⟨rfl, rfl⟩ := h
      have hgt := matchingParen_gt hm
      have hn : (last + 1).toNat = ((last + 1).toNat - 1) + 1 := by omega
      have hlen := congrArg List.length (List.take_append_drop (last + 1).toNat ('(' :: rest))
      rw [List.length_append] at hlen
      refine ⟨?_, by omega⟩
      rw [hn, List.take_succ_cons]
      exact List.cons_ne_nil _ _
  | case4 => simp at h
  | case5 cs rest hs n hn =>
    have hl := Text.strip_length_le cs
    rw [hs] at hl
    simp only [Except.ok.injEq, Prod.mk.injEq] at h
    obtain ⟨rfl, rfl⟩ := h
    have hge := textLiteralEnd_ge hn
    have hn' : n = (n - 1) + 1 := by omega
    have hlen := congrArg List.length (List.take_append_drop n ('"' :: rest))
    rw [List.length_append] at hlen
    refine ⟨?_, by omega⟩
    rw [hn', List.take_succ_cons]
    exact List.cons_ne_nil _ _
  | case6 => simp at h
  | case7 cs c rest _ _ _ hs hne =>
    have hl := Text.strip_length_le cs
    rw [hs] at hl
    simp only [Except.ok.injEq, Prod.mk.injEq] at h
    obtain ⟨rfl, rfl⟩ := h
    have hlen := congrArg List.length (@List.takeWhile_append_dropWhile _ isAtomChar (c :: rest))
    rw [List.length_append] at hlen
    exact ⟨by simpa using hne, by omega⟩

def splitFrom (rest : List Char) : Except Fault (List (List Char)) :=
  if rest.isEmpty then .ok []
  else match _h : firstExpression rest with
    | .error f => .error f
    | .ok (e, r) => do
      let es ← splitFrom r
      return e :: es
termination_by rest.length
decreasing_by
  have := firstExpression_length _h
  have : e.length ≠ 0 := by simpa using this.1
  omega

theorem splitFrom_length {rest : List Char} {ps : List (List Char)}
    (h : splitFrom rest = .ok ps) : ∀ p ∈ ps, p.length ≤ rest.length := by
  fun_induction splitFrom rest generalizing ps with
  | case1 => simp at h; subst h; simp
  | case2 => simp at h
  | case3 rest _ e r hf ih =>
    cases hs : splitFrom r with
    | error => simp [hs, bind, Except.bind] at h
    | ok es =>
      simp [hs, bind, Except.bind, pure, Except.pure] at h
      subst h
      have hl := firstExpression_length hf
      intro p hp
      simp only [List.mem_cons] at hp
      rcases hp with rfl | hp
      · omega
      · have := ih hs p hp; omega

/-- The texts of the expressions of a source text, in order, after trimming it. -/
def splitExpressions (cs : List Char) : Except Fault (List (List Char)) :=
  splitFrom (Text.strip cs)

theorem splitExpressions_length {cs : List Char} {ps : List (List Char)}
    (h : splitExpressions cs = .ok ps) : ∀ p ∈ ps, p.length ≤ cs.length := by
  intro p hp
  have := splitFrom_length h p hp
  have := Text.strip_length_le cs
  omega

end Split

end TinyLisp
