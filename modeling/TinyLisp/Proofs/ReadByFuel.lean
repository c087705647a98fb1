import TinyLisp.Proofs.Scan
import TinyLisp.Syntax.Reader

/-!
# The reader by structural recursion

A fuel version of the reader that the kernel can evaluate, equal to it once the fuel
exceeds the text's length (`readAll_eq_byFuel`).
-/

namespace TinyLisp

theorem List.mapM_congr_mem {α β ε : Type} {f g : α → Except ε β} :
    ∀ (l : List α), (∀ a ∈ l, f a = g a) → l.mapM f = l.mapM g
  | [], _ => rfl
  | a :: l, h => by
    rw [List.mapM_cons, List.mapM_cons, h a List.mem_cons_self,
      List.mapM_congr_mem l fun b hb => h b (List.mem_cons_of_mem a hb)]

namespace Split

/-- The closing parenthesis by the list scan, for a text that starts with an opening one. -/
def closeOf (code : List Char) : Except Fault Int :=
  match code with
  | '(' :: rest =>
    match (Scan.mk '(' 1 false).close rest with
    | some k => .ok (k + 1)
    | none => .error (.incomplete (String.ofList ('(' :: rest)))
  | _ => matchingParen code 0

theorem closeOf_eq (code : List Char) : closeOf code = matchingParen code 0 := by
  unfold closeOf
  split
  · refine Eq.trans ?_ (matchingParen_eq_close _).symm
    cases (Scan.mk '(' 1 false).close _ <;> rfl
  · rfl

/-- One step of cutting the first expression from a text: `paren` finds the parenthesis that
closes an opening one, and `rec` cuts the expression after a quote. -/
def firstStep (paren : List Char → Except Fault Int)
    (rec : List Char → Except Fault (List Char × List Char)) (cs : List Char) :
    Except Fault (List Char × List Char) :=
  match _h : Text.strip cs with
  | [] => .error (.indexRange "string")
  | '\'' :: rest => do
    let (e, r) ← rec rest
    return ('\'' :: e, r)
  | '(' :: rest => do
    let last ← paren ('(' :: rest)
    let n := (last + 1).toNat
    return ((('(' :: rest).take n), (('(' :: rest).drop n))
  | '"' :: rest =>
    match textLiteralEnd ('"' :: rest) with
    | none => .error .noMatch
    | some n => .ok (('"' :: rest).take n, ('"' :: rest).drop n)
  | c :: rest =>
    if ((c :: rest).takeWhile isAtomChar).isEmpty then .error .noMatch
    else .ok ((c :: rest).takeWhile isAtomChar, (c :: rest).dropWhile isAtomChar)

theorem firstExpression_eq_step (cs : List Char) :
    firstExpression cs = firstStep (matchingParen · 0) firstExpression cs := by
  unfold firstExpression firstStep
  rfl

theorem firstStep_congr {paren : List Char → Except Fault Int}
    {r₁ r₂ : List Char → Except Fault (List Char × List Char)} {cs : List Char}
    (hr : ∀ q, q.length < cs.length → r₁ q = r₂ q) :
    firstStep paren r₁ cs = firstStep paren r₂ cs := by
  unfold firstStep
  congr 1
  funext rest h
  have hlen := Text.strip_length_le cs
  rw [h, List.length_cons] at hlen
  rw [hr rest (by omega)]

def firstByFuel : Nat → List Char → Except Fault (List Char × List Char)
  | 0, _ => .error .outOfFuel
  | n + 1, cs => firstStep closeOf (firstByFuel n) cs

theorem firstByFuel_eq : ∀ (n : Nat) (cs : List Char), cs.length < n →
    firstByFuel n cs = firstExpression cs
  | n + 1, cs, h => by
    rw [firstByFuel, firstExpression_eq_step, show closeOf = (matchingParen · 0) from
      funext closeOf_eq]
    exact firstStep_congr fun q hq => firstByFuel_eq n q (by omega)

/-- One step of cutting a text into expressions: `first` cuts the first one and `rec` the rest. -/
def splitStep (first : List Char → Except Fault (List Char × List Char))
    (rec : List Char → Except Fault (List (List Char))) (rest : List Char) :
    Except Fault (List (List Char)) :=
  if rest.isEmpty then .ok []
  else match _h : first rest with
    | .error f => .error f
    | .ok (e, r) => do
      let es ← rec r
      return e :: es

theorem splitFrom_eq_step (rest : List Char) :
    splitFrom rest = splitStep firstExpression splitFrom rest := by
  unfold splitFrom splitStep
  rfl

theorem splitStep_congr {first : List Char → Except Fault (List Char × List Char)}
    {r₁ r₂ : List Char → Except Fault (List (List Char))} {rest : List Char}
    (hr : ∀ e r, first rest = .ok (e, r) → r₁ r = r₂ r) :
    splitStep first r₁ rest = splitStep first r₂ rest := by
  unfold splitStep
  split
  · rfl
  · congr 1
    funext e r h
    rw [hr e r h]

def splitByFuel : Nat → List Char → Except Fault (List (List Char))
  | 0, _ => .error .outOfFuel
  | n + 1, rest => splitStep (fun cs => firstByFuel (cs.length + 1) cs) (splitByFuel n) rest

theorem splitByFuel_eq : ∀ (n : Nat) (rest : List Char), rest.length < n →
    splitByFuel n rest = splitFrom rest
  | n + 1, rest, h => by
    rw [splitByFuel, splitFrom_eq_step, show (fun cs => firstByFuel (cs.length + 1) cs) =
      firstExpression from funext fun cs => firstByFuel_eq _ cs (Nat.lt_succ_self _)]
    refine splitStep_congr fun e r he => splitByFuel_eq n r ?_
    obtain ⟨hne, hlen⟩ := firstExpression_length he
    have : e.length ≠ 0 := by simpa using hne
    omega

end Split

namespace Reader

/-- One step of reading an expression: `paren` finds the parenthesis that closes the opening one,
`split` cuts the inside of a list into its items, and `rec` reads a quoted expression and the
items. -/
def readStep (paren : List Char → Except Fault Int)
    (split : List Char → Except Fault (List (List Char))) (rec : List Char → Except Fault Value)
    (src : List Char) : Except Fault Value :=
  match _hc : Text.strip (Text.removeComments src) with
  | '\'' :: c :: rest => do
    let v ← rec (c :: rest)
    return .list [.sym "quote", v]
  | ['#', c] =>
    if c = 't' then .ok (.bool true)
    else if c = 'f' then .ok (.bool false)
    else .error .expectedBoolean
  | code =>
    if !code.isEmpty && code.all Text.isDigit then
      .int <$> Decimal.readDigits code
    else if code.head? = some '"' then
      match Split.textLiteralEnd code with
      | some n =>
        if n = code.length then .ok (.str (.text (String.ofList (inner code))))
        else .error .expectedEnd
      | none => .error .unclosedText
    else if code = ['(', ')'] then .ok (.list [])
    else if _hpar : code.head? = some '(' ∧ 1 < code.length then
      match paren code with
      | .error f => .error f
      | .ok closing =>
        if closing + 1 < code.length then .error .expectedEnd
        else match _hs : split (Text.removeComments (inner code)) with
          | .error f => .error f
          | .ok pieces => do
            let items ← pieces.mapM rec
            return .list items
    else .ok (.sym (String.ofList code))

theorem readChars_eq_step (src : List Char) :
    readChars src = readStep (Split.matchingParen · 0) Split.splitExpressions readChars src := by
  unfold readChars
  -- the items are read from the list itself, not from its attached version
  simp only [List.mapM_subtype, List.unattach_attach]
  rfl

theorem readStep_congr {paren : List Char → Except Fault Int} {r₁ r₂ : List Char → Except Fault Value}
    {src : List Char} (hr : ∀ q, q.length < src.length → r₁ q = r₂ q) :
    readStep paren Split.splitExpressions r₁ src = readStep paren Split.splitExpressions r₂ src := by
  have hlen := Text.strip_length_le (Text.removeComments src)
  have hcut := Text.removeComments_length_le src
  unfold readStep
  congr 1
  · funext c rest h
    rw [h, List.length_cons] at hlen
    rw [hr (c :: rest) (by omega)]
  · funext code h
    rw [h] at hlen
    congr 1; congr 1; congr 1; congr 1
    funext hpar
    congr 1
    funext closing
    congr 1
    congr 1
    funext pieces hs
    -- each item is no longer than the inside of the list, two characters shorter than the list
    have hitem := Split.splitExpressions_length hs
    have hin := Text.removeComments_length_le (inner code)
    have hinner := inner_length code
    rw [List.mapM_congr_mem pieces fun q hq => hr q (by have := hitem q hq; omega)]

def readByFuel : Nat → List Char → Except Fault Value
  | 0, _ => .error .outOfFuel
  | n + 1, src =>
    readStep Split.closeOf (fun cs => Split.splitByFuel (cs.length + 1) (Text.strip cs))
      (readByFuel n) src

theorem readByFuel_eq : ∀ (n : Nat) (src : List Char), src.length < n →
    readByFuel n src = readChars src
  | n + 1, src, h => by
    have hsplit : (fun cs => Split.splitByFuel (cs.length + 1) (Text.strip cs)) =
        Split.splitExpressions :=
      funext fun cs => Split.splitByFuel_eq _ _
        (Nat.lt_succ_of_le (Text.strip_length_le cs))
    rw [readByFuel, readChars_eq_step, show Split.closeOf = (Split.matchingParen · 0) from
      funext Split.closeOf_eq, hsplit]
    exact readStep_congr fun q hq => readByFuel_eq n q (by omega)

/-- Reading every expression of a text on fuel: as much as the text is long, and one more. -/
def readAllByFuel (cs : List Char) : Except Fault (List Value) := do
  let pieces ← Split.splitByFuel (cs.length + 1) (Text.strip (Text.removeComments cs))
  pieces.mapM (readByFuel (cs.length + 1))

/-- Reading on fuel reads every text as the reader does. -/
theorem readAll_eq_byFuel (src : String) : readAll src = readAllByFuel src.toList := by
  have hcut := Text.removeComments_length_le src.toList
  have hstrip := Text.strip_length_le (Text.removeComments src.toList)
  rw [readAll, readAllByFuel, Split.splitByFuel_eq _ _ (by omega)]
  show (Split.splitExpressions _ >>= _) = (Split.splitExpressions _ >>= _)
  cases hs : Split.splitExpressions (Text.removeComments src.toList) with
  | error e => rfl
  | ok pieces =>
    have hitem := Split.splitExpressions_length hs
    show pieces.mapM readChars = pieces.mapM (readByFuel _)
    exact List.mapM_congr_mem pieces fun q hq =>
      (readByFuel_eq _ q (by have := hitem q hq; omega)).symm

end Reader

end TinyLisp
