import TinyLisp.Syntax.Reader

/-!
# The reader, rule by rule
-/

namespace TinyLisp

namespace Reader

open Split

theorem inner_wrap (o e : Char) (cs : List Char) : inner (o :: cs ++ [e]) = cs := by
  simp [inner]

theorem readChars_quote {src rest : List Char} {c : Char}
    (h : Text.strip (Text.removeComments src) = '\'' :: c :: rest) :
    readChars src = (readChars (c :: rest)).bind fun v => .ok (.list [.sym "quote", v]) := by
  rw [readChars]
  split
  · rename_i heq
    rw [h] at heq
    injection heq with _ heq
    injection heq with h₁ h₂
    subst h₁ h₂
    rfl
  · simp_all
  · simp_all

theorem readChars_bool {src : List Char} {c : Char}
    (h : Text.strip (Text.removeComments src) = ['#', c]) :
    readChars src = if c = 't' then .ok (.bool true) else if c = 'f' then .ok (.bool false)
      else .error .expectedBoolean := by
  rw [readChars]
  split
  · simp_all
  · rename_i heq
    rw [h] at heq
    simp only [List.cons.injEq, and_true, true_and] at heq
    subst heq
    rfl
  · simp_all

theorem readChars_sym {src code : List Char} (h : Text.strip (Text.removeComments src) = code)
    (hq : ∀ c rest, code ≠ '\'' :: c :: rest) (hb : ∀ c, code ≠ ['#', c])
    (hd : (!code.isEmpty && code.all Text.isDigit) = false) (ht : code.head? ≠ some '"')
    (hn : code ≠ ['(', ')']) (hp : ¬(code.head? = some '(' ∧ 1 < code.length)) :
    readChars src = .ok (.sym (String.ofList code)) := by
  rw [readChars]
  split
  · exact absurd (h.symm.trans ‹_›) (hq _ _)
  · exact absurd (h.symm.trans ‹_›) (hb _)
  · subst h
    simp only [hd, Bool.false_eq_true, if_false, ht, hn, hp, dite_false]

theorem not_digits_of_head {code : List Char} {c : Char} (hc : code.head? = some c)
    (hd : Text.isDigit c = false) : (!code.isEmpty && code.all Text.isDigit) = false := by
  cases code with
  | nil => simp at hc
  | cons c' rest =>
    simp only [List.head?_cons, Option.some.injEq] at hc
    subst hc
    simp [hd]

theorem readChars_text {src code : List Char} (h : Text.strip (Text.removeComments src) = code)
    (hh : code.head? = some '"') (hn : textLiteralEnd code = some code.length) :
    readChars src = .ok (.str (.text (String.ofList (inner code)))) := by
  have hd := not_digits_of_head hh (by decide)
  rw [readChars]
  split
  · rename_i heq
    rw [h] at heq
    subst heq
    simp at hh
  · rename_i heq
    rw [h] at heq
    subst heq
    simp at hh
  · subst h
    simp only [hd, Bool.false_eq_true, if_false, hh, if_true, hn]

theorem readChars_nil {src : List Char} (h : Text.strip (Text.removeComments src) = ['(', ')']) :
    readChars src = .ok (.list []) := by
  have hd := @not_digits_of_head ['(', ')'] '(' rfl (by decide)
  rw [readChars]
  split
  · simp_all
  · simp_all
  · rw [h]
    have ht : (['(', ')'] : List Char).head? ≠ some '"' := by decide
    simp only [hd, Bool.false_eq_true, if_false, ht, if_true]

theorem readChars_list {src code : List Char} (h : Text.strip (Text.removeComments src) = code)
    (hh : code.head? = some '(') (hn : code ≠ ['(', ')']) (hl : 1 < code.length)
    (hm : matchingParen code 0 = .ok (code.length - 1 : Nat)) {pieces : List (List Char)}
    (hs : splitExpressions (Text.removeComments (inner code)) = .ok pieces) :
    readChars src = (pieces.mapM readChars).bind fun items => .ok (.list items) := by
  have hd := not_digits_of_head hh (by decide)
  rw [readChars]
  split
  · rename_i heq
    rw [h] at heq
    subst heq
    simp at hh
  · rename_i heq
    rw [h] at heq
    subst heq
    simp at hh
  · subst h
    have hlt : ¬(((Text.strip (Text.removeComments src)).length - 1 : Nat) : Int) + 1 <
        (Text.strip (Text.removeComments src)).length := by omega
    have hc : ('(' : Char) ≠ '"' := by decide
    simp only [hd, Bool.false_eq_true, if_false, hh, Option.some.injEq, hc, hn, hl, and_self,
      dite_true, hm, hlt]
    split
    · simp_all
    · rename_i heq
      rw [hs] at heq
      injection heq with heq
      subst heq
      simp [List.mapM_subtype, List.unattach_attach, bind, Except.bind, pure, Except.pure]

theorem readChars_unclosed {src code : List Char} (h : Text.strip (Text.removeComments src) = code)
    (hh : code.head? = some '(') (hn : code ≠ ['(', ')']) (hl : 1 < code.length) {f : Fault}
    (hm : matchingParen code 0 = .error f) : readChars src = .error f := by
  have hd := not_digits_of_head hh (by decide)
  rw [readChars]
  split
  · rename_i heq
    rw [h] at heq
    subst heq
    simp at hh
  · rename_i heq
    rw [h] at heq
    subst heq
    simp at hh
  · subst h
    have hc : ('(' : Char) ≠ '"' := by decide
    simp only [hd, Bool.false_eq_true, if_false, hh, Option.some.injEq, hc, hn, hl, and_self,
      dite_true, hm]

theorem readChars_int {src code : List Char} (h : Text.strip (Text.removeComments src) = code)
    (hne : code ≠ []) (hall : ∀ c ∈ code, Text.isDigit c = true) :
    readChars src = .int <$> Decimal.readDigits code := by
  have hd : (!code.isEmpty && code.all Text.isDigit) = true := by
    simpa [hne] using hall
  rw [readChars]
  split
  · rename_i heq
    rw [h] at heq
    subst heq
    exact absurd (hall '\'' List.mem_cons_self) (by decide)
  · rename_i heq
    rw [h] at heq
    subst heq
    exact absurd (hall '#' List.mem_cons_self) (by decide)
  · subst h
    simp only [hd, if_true]

mutual

/-- The rules of reading, one for each way the reader returns a value: `Reads src v` says that
the text `src` reads as `v`, with a derivation that follows the reader into quotes and lists. -/
inductive Reads : List Char → Value → Prop
  | quote {src : List Char} {c : Char} {rest : List Char} {v : Value} :
      Text.strip (Text.removeComments src) = '\'' :: c :: rest → Reads (c :: rest) v →
      Reads src (.list [.sym "quote", v])
  | bool {src : List Char} (b : Bool) :
      Text.strip (Text.removeComments src) = ['#', if b then 't' else 'f'] → Reads src (.bool b)
  | int {src code : List Char} : Text.strip (Text.removeComments src) = code →
      (!code.isEmpty && code.all Text.isDigit) = true → code.length ≤ maxDigits →
      Reads src (.int (Decimal.digitsValue code))
  | text {src code : List Char} : Text.strip (Text.removeComments src) = code →
      (!code.isEmpty && code.all Text.isDigit) = false → code.head? = some '"' →
      textLiteralEnd code = some code.length → Reads src (.str (.text (String.ofList (inner code))))
  | nil {src : List Char} : Text.strip (Text.removeComments src) = ['(', ')'] → Reads src (.list [])
  | list {src code : List Char} {closing : Int} {pieces : List (List Char)} {items : List Value} :
      Text.strip (Text.removeComments src) = code → code.head? = some '(' → code ≠ ['(', ')'] →
      1 < code.length → matchingParen code 0 = .ok closing → ¬closing + 1 < code.length →
      splitExpressions (Text.removeComments (inner code)) = .ok pieces → ReadsAll pieces items →
      Reads src (.list items)
  | sym {src code : List Char} : Text.strip (Text.removeComments src) = code →
      (∀ c rest, code ≠ '\'' :: c :: rest) → (∀ c, code ≠ ['#', c]) →
      (!code.isEmpty && code.all Text.isDigit) = false → code.head? ≠ some '"' →
      code ≠ ['(', ')'] → ¬(code.head? = some '(' ∧ 1 < code.length) →
      Reads src (.sym (String.ofList code))

inductive ReadsAll : List (List Char) → List Value → Prop
  | nil : ReadsAll [] []
  | cons {p : List Char} {ps : List (List Char)} {v : Value} {vs : List Value} :
      Reads p v → ReadsAll ps vs → ReadsAll (p :: ps) (v :: vs)

end

theorem ReadsAll.of_mapM {pieces : List (List Char)}
    (h : ∀ p ∈ pieces, ∀ v, readChars p = .ok v → Reads p v) :
    ∀ {items : List Value}, pieces.mapM readChars = .ok items → ReadsAll pieces items := by
  induction pieces with
  | nil =>
    intro items hm
    cases hm
    exact .nil
  | cons p ps ih =>
    intro items hm
    rw [List.mapM_cons] at hm
    cases hp : readChars p with
    | error e => simp [hp, bind, Except.bind] at hm
    | ok v =>
      cases hps : ps.mapM readChars with
      | error e => simp [hp, hps, bind, Except.bind] at hm
      | ok vs =>
        simp only [hp, hps, bind, Except.bind, pure, Except.pure, Except.ok.injEq] at hm
        subst hm
        exact .cons (h p List.mem_cons_self v hp)
          (ih (fun q hq => h q (List.mem_cons_of_mem p hq)) hps)

/-- Every text the reader reads has a derivation by the rules. -/
theorem Reads.of_readChars {src : List Char} {a : Value} (h : readChars src = .ok a) :
    Reads src a := by
  revert a
  fun_induction readChars src with
  | case1 x c rest hq ih =>
    intro a h
    cases hr : readChars (c :: rest) with
    | error e => simp [hr, bind, Except.bind] at h
    | ok v =>
      simp only [hr, bind, Except.bind, pure, Except.pure, Except.ok.injEq] at h
      subst h
      exact .quote hq (ih hr)
  | case2 x hq =>
    intro a h
    cases h
    exact .bool true hq
  | case3 x hq _ =>
    intro a h
    cases h
    exact .bool false hq
  | case4 => intro a h; cases h
  | case5 x hq hb hd =>
    intro a h
    simp only [Decimal.readDigits] at h
    split at h
    · cases h
    · rename_i hlen
      cases h
      exact .int rfl hd (by omega)
  | case6 x hq hb hd hh hn =>
    intro a h
    cases h
    exact .text rfl (by simpa using hd) hh hn
  | case7 => intro a h; cases h
  | case8 => intro a h; cases h
  | case9 x hq hb hd hh hnil =>
    intro a h
    cases h
    exact .nil hnil
  | case10 => intro a h; cases h
  | case11 => intro a h; cases h
  | case12 => intro a h; cases h
  | case13 x closing pieces hq hb hd hh hnil hpar hm hc hs ih =>
    intro a h
    simp only [List.mapM_subtype, List.unattach_attach] at h
    cases hi : pieces.mapM readChars with
    | error e => simp [hi, bind, Except.bind] at h
    | ok items =>
      simp only [hi, bind, Except.bind, pure, Except.pure, Except.ok.injEq] at h
      subst h
      exact .list rfl hpar.1 hnil hpar.2 hm hc hs
        (ReadsAll.of_mapM (fun p hp _ hv => ih p hp hv) hi)
  | case14 x hq hb hd hh hnil hpar =>
    intro a h
    cases h
    exact .sym rfl hq hb (by simpa using hd) hh hnil hpar

end Reader

namespace Split

theorem firstExpression_quote {cs rest : List Char} (h : Text.strip cs = '\'' :: rest) :
    firstExpression cs = (firstExpression rest).bind fun er => .ok ('\'' :: er.1, er.2) := by
  rw [firstExpression]
  split <;> rename_i heq <;> rw [h] at heq
  · simp at heq
  · injection heq with _ heq
    subst heq
    rfl
  · simp at heq
  · simp at heq
  · injection heq with hc
    exact absurd hc.symm ‹_›

theorem firstExpression_paren {cs rest : List Char} (h : Text.strip cs = '(' :: rest) :
    firstExpression cs = (matchingParen ('(' :: rest) 0).bind fun last =>
      .ok (('(' :: rest).take (last + 1).toNat, ('(' :: rest).drop (last + 1).toNat) := by
  rw [firstExpression]
  split <;> rename_i heq <;> rw [h] at heq
  · simp at heq
  · simp at heq
  · injection heq with _ heq
    subst heq
    rfl
  · simp at heq
  · injection heq with hc
    exact absurd hc.symm ‹_›

theorem firstExpression_text {cs rest : List Char} (h : Text.strip cs = '"' :: rest) :
    firstExpression cs = match textLiteralEnd ('"' :: rest) with
      | none => .error .noMatch
      | some n => .ok (('"' :: rest).take n, ('"' :: rest).drop n) := by
  rw [firstExpression]
  split <;> rename_i heq <;> rw [h] at heq
  · simp at heq
  · simp at heq
  · simp at heq
  · injection heq with _ heq
    subst heq
    rfl
  · injection heq with hc
    exact absurd hc.symm ‹_›

theorem firstExpression_atom {cs rest : List Char} {c : Char} (h : Text.strip cs = c :: rest)
    (hq : c ≠ '\'') (hp : c ≠ '(') (ht : c ≠ '"') :
    firstExpression cs =
      if ((c :: rest).takeWhile isAtomChar).isEmpty then .error .noMatch
      else .ok ((c :: rest).takeWhile isAtomChar, (c :: rest).dropWhile isAtomChar) := by
  rw [firstExpression]
  split <;> rename_i heq <;> rw [h] at heq
  · simp at heq
  · injection heq with hc
    exact absurd hc hq
  · injection heq with hc
    exact absurd hc hp
  · injection heq with hc
    exact absurd hc ht
  · injection heq with hc heq
    subst hc heq
    rfl

theorem splitFrom_nil : splitFrom [] = .ok [] := by
  rw [splitFrom]
  rfl

theorem splitFrom_cons {rest e r : List Char} (hne : rest ≠ [])
    (h : firstExpression rest = .ok (e, r)) :
    splitFrom rest = (splitFrom r).bind fun es => .ok (e :: es) := by
  rw [splitFrom]
  have : rest.isEmpty = false := by simpa using hne
  simp only [this, Bool.false_eq_true, if_false]
  split
  · simp_all
  · rename_i heq
    rw [h] at heq
    injection heq with heq
    injection heq with h₁ h₂
    subst h₁ h₂
    rfl

end Split

end TinyLisp
