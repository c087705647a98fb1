import TinyLisp.Syntax.Split

/-!
# The scanners of the reader, on lists of characters
-/

namespace TinyLisp

namespace Text

theorem removeComments_of_semicolon_not_mem {cs : List Char} (h : ';' ∉ cs) :
    removeComments cs = cs := by
  induction cs with
  | nil => simp [removeComments]
  | cons c rest ih =>
    have hc : c ≠ ';' := fun e => h (e ▸ List.mem_cons_self)
    simp [removeComments, hc, ih (fun e => h (List.mem_cons_of_mem _ e))]

/-- A text that trimming leaves alone: it neither starts nor ends with a blank. -/
def Trimmed (cs : List Char) : Prop :=
  (∀ c ∈ cs.head?, isBlank c = false) ∧ ∀ c ∈ cs.getLast?, isBlank c = false

theorem strip_eq_self {cs : List Char} (h : Trimmed cs) : strip cs = cs := by
  have h₁ : cs.dropWhile isBlank = cs := by
    cases cs with
    | nil => rfl
    | cons c rest => simp [h.1 c rfl]
  have h₂ : cs.reverse.dropWhile isBlank = cs.reverse := by
    cases hr : cs.reverse with
    | nil => rfl
    | cons c rest =>
      have : c ∈ cs.getLast? := by simp [← List.head?_reverse, hr]
      simp [h.2 c this]
  simp [strip, h₁, h₂]

theorem Trimmed.append {cs ds : List Char} (h₁ : Trimmed cs) (h₂ : Trimmed ds) (hc : cs ≠ [])
    (hd : ds ≠ []) (b : List Char) : Trimmed (cs ++ b ++ ds) := by
  constructor
  · intro c hc'
    apply h₁.1
    cases cs with
    | nil => exact absurd rfl hc
    | cons x xs => simpa using hc'
  · intro c hc'
    apply h₂.2
    cases ds with
    | nil => exact absurd rfl hd
    | cons x xs => simpa using hc'

theorem strip_blank_append {b : List Char} (hb : ∀ c ∈ b, isBlank c = true) (cs : List Char) :
    strip (b ++ cs) = strip cs := by
  simp [strip, List.dropWhile_append_of_pos hb]

theorem strip_around {b cs r : List Char} (hb : ∀ c ∈ b, isBlank c = true) (hcs : cs ≠ [])
    (h : Trimmed cs) (hr : ∀ c ∈ r.getLast?, isBlank c = false) :
    strip (b ++ cs ++ r) = cs ++ r := by
  rw [List.append_assoc, strip_blank_append hb]
  apply strip_eq_self
  refine ⟨fun c hc => h.1 c ?_, fun c hc => ?_⟩
  · cases cs with
    | nil => exact absurd rfl hcs
    | cons x xs => simpa using hc
  · rw [Option.mem_def, List.getLast?_append] at hc
    cases hl : r.getLast? with
    | none =>
      rw [hl] at hc
      exact h.2 c (by simpa using hc)
    | some z =>
      rw [hl] at hc
      simp only [Option.some_or, Option.some.injEq] at hc
      exact hr c (hc ▸ hl)

end Text

namespace Split

section Literal

/-- Every double quote of a text comes right after a backslash; `prev` is the character before
the text. -/
def quotesEscaped (prev : Char) : List Char → Bool
  | [] => true
  | c :: cs => (c != '"' || prev == '\\') && quotesEscaped c cs

theorem quotesEscaped_head {p : Char} {t : List Char} (h : quotesEscaped p t = true)
    (hp : p ≠ '\\') : t.head? ≠ some '"' := by
  cases t with
  | nil => simp
  | cons c t =>
    simp only [quotesEscaped, Bool.and_eq_true, Bool.or_eq_true, bne_iff_ne, ne_eq,
      beq_iff_eq] at h
    simp only [List.head?_cons, ne_eq, Option.some.injEq]
    rintro rfl
    exact hp (h.1.resolve_left (fun h' => h' rfl))

theorem getLast?_cons_of_ne_nil {c : Char} {t : List Char} (h : t ≠ []) :
    (c :: t).getLast? = t.getLast? := by
  cases t with
  | nil => exact absurd rfl h
  | cons d t => simp

theorem literalEnd_of_quote_not_mem {i : Nat} {last : Option Nat} {r : List Char}
    (h : '"' ∉ r) : literalEnd i last r = last := by
  fun_induction literalEnd i last r with
  | case1 => rfl
  | case2 => simp at h
  | case3 => simp at h
  | case4 i last c rest _ _ ih => exact ih (fun e => h (List.mem_cons_of_mem _ e))

theorem literalEnd_escaped {cs : List Char} {i : Nat} {last : Option Nat} :
    ∀ {t r : List Char} {p : Char}, cs = t ++ '"' :: r → quotesEscaped p t = true →
      t.head? ≠ some '"' → (t.getLast? = some '\\' → '"' ∉ r) →
      literalEnd i last cs = some (i + t.length + 1) := by
  fun_induction literalEnd i last cs with
  | case1 => intro t r p h; simp at h
  | case2 i last rest ih =>
    intro t r p h ht hh hl
    rcases t with _ | ⟨c, _ | ⟨d, t⟩⟩
    · simp at h
    · simp only [List.cons_append, List.nil_append, List.cons.injEq, true_and] at h
      obtain ⟨rfl, rfl⟩ := h
      simp [literalEnd_of_quote_not_mem (hl rfl)]
    · simp only [List.cons_append, List.cons.injEq] at h
      obtain ⟨rfl, rfl, rfl⟩ := h
      simp only [quotesEscaped, Bool.and_eq_true] at ht
      have hl' : t.getLast? = some '\\' → '"' ∉ r := fun e => by
        apply hl
        rw [getLast?_cons_of_ne_nil (by simp),
          getLast?_cons_of_ne_nil (by rintro rfl; simp at e)]
        exact e
      rw [ih rfl ht.2.2 (quotesEscaped_head ht.2.2 (by decide)) hl']
      simp only [List.length_cons, Option.some.injEq]
      omega
  | case3 i last rest =>
    intro t r p h ht hh hl
    cases t with
    | nil => rfl
    | cons c t =>
      simp only [List.cons_append, List.cons.injEq] at h
      obtain ⟨rfl, -⟩ := h
      simp at hh
  | case4 i last c rest hpair hc ih =>
    intro t r p h ht hh hl
    cases t with
    | nil =>
      simp only [List.nil_append, List.cons.injEq] at h
      exact absurd h.1 hc
    | cons d t =>
      simp only [List.cons_append, List.cons.injEq] at h
      obtain ⟨rfl, rfl⟩ := h
      simp only [quotesEscaped, Bool.and_eq_true] at ht
      have hh' : t.head? ≠ some '"' := by
        intro e
        obtain ⟨t', rfl⟩ : ∃ t', t = '"' :: t' := by
          cases t with
          | nil => simp at e
          | cons x t' => simp only [List.head?_cons, Option.some.injEq] at e; exact ⟨t', by rw [e]⟩
        have h₂ := ht.2
        simp only [quotesEscaped, bne_self_eq_false, Bool.false_or, Bool.and_eq_true,
          beq_iff_eq] at h₂
        exact hpair _ h₂.1 rfl
      have hl' : t.getLast? = some '\\' → '"' ∉ r := fun e =>
        hl (by rw [getLast?_cons_of_ne_nil (by rintro rfl; simp at e)]; exact e)
      rw [ih rfl ht.2 hh' hl']
      simp only [List.length_cons, Option.some.injEq]
      omega

end Literal

/-- What the scan for a matching parenthesis knows after a character: that character, the number
of parentheses still open and whether it is inside a text literal. -/
structure Scan where
  prev : Char
  depth : Nat
  inText : Bool

namespace Scan

def next (s : Scan) (c : Char) : Scan :=
  let inText := if s.prev != '\\' && c == '"' then !s.inText else s.inText
  let depth :=
    if inText then s.depth
    else if c == '(' then s.depth + 1
    else if c == ')' then s.depth - 1
    else s.depth
  ⟨c, depth, inText⟩

/-- The offset of the character at which the scan closes its last open parenthesis. -/
def close (s : Scan) : List Char → Option Nat
  | [] => none
  | c :: cs => if (s.next c).depth = 0 then some 0 else ((s.next c).close cs).map (· + 1)

/-- The scan over a text that closes no parenthesis on the way, and where it ends. -/
def pass (s : Scan) : List Char → Option Scan
  | [] => some s
  | c :: cs => if (s.next c).depth = 0 then none else (s.next c).pass cs

theorem pass_append (s : Scan) (cs ds : List Char) :
    s.pass (cs ++ ds) = (s.pass cs).bind (·.pass ds) := by
  induction cs generalizing s with
  | nil => rfl
  | cons c cs ih =>
    simp only [List.cons_append, pass]
    split <;> simp [ih]

theorem close_append_of_pass {s s' : Scan} {cs : List Char} (h : s.pass cs = some s')
    (rest : List Char) : s.close (cs ++ rest) = (s'.close rest).map (· + cs.length) := by
  induction cs generalizing s with
  | nil =>
    simp only [pass, Option.some.injEq] at h
    subst h
    simp
  | cons c cs ih =>
    simp only [pass] at h
    split at h
    · simp at h
    · rename_i hd
      simp only [List.cons_append, close, hd, if_false, ih h, Option.map_map]
      congr 1


theorem next_plain {c : Char} (hq : c ≠ '"') (ho : c ≠ '(') (hc : c ≠ ')') (p : Char) (d : Nat)
    (t : Bool) : (Scan.mk p d t).next c = ⟨c, d, t⟩ := by
  simp [next, hq, ho, hc]

theorem pass_plain {cs : List Char} (h : ∀ c ∈ cs, c ≠ '"' ∧ c ≠ '(' ∧ c ≠ ')') {d : Nat}
    (hd : d ≠ 0) (p : Char) (t : Bool) : ∃ q, (Scan.mk p d t).pass cs = some ⟨q, d, t⟩ := by
  induction cs generalizing p with
  | nil => exact ⟨p, rfl⟩
  | cons c cs ih =>
    obtain ⟨hq, ho, hc⟩ := h c List.mem_cons_self
    obtain ⟨q, hq'⟩ := ih (fun c' hc' => h c' (List.mem_cons_of_mem _ hc')) c
    refine ⟨q, ?_⟩
    simp only [pass, next_plain hq ho hc, hd, if_false]
    exact hq'

theorem pass_escaped {t : List Char} {p : Char} (h : quotesEscaped p t = true) {d : Nat}
    (hd : d ≠ 0) : ∃ q, (Scan.mk p d true).pass t = some ⟨q, d, true⟩ ∧ (p :: t).getLast? = some q := by
  induction t generalizing p with
  | nil => exact ⟨p, rfl, rfl⟩
  | cons c t ih =>
    simp only [quotesEscaped, Bool.and_eq_true, Bool.or_eq_true, bne_iff_ne, ne_eq,
      beq_iff_eq] at h
    have hn : (Scan.mk p d true).next c = ⟨c, d, true⟩ := by
      rcases h.1 with hc | hp
      · simp [next, hc]
      · simp [next, hp]
    obtain ⟨q, hq, hl⟩ := ih h.2
    refine ⟨q, ?_, ?_⟩
    · simp only [pass, hn, hd, if_false]
      exact hq
    · rw [getLast?_cons_of_ne_nil (List.cons_ne_nil c t)]
      exact hl

theorem pass_literal {t : List Char} (h : quotesEscaped '"' t = true)
    (hl : t.getLast? ≠ some '\\') {p : Char} (hp : p ≠ '\\') {d : Nat} (hd : d ≠ 0) :
    (Scan.mk p d false).pass ('"' :: t ++ ['"']) = some ⟨'"', d, false⟩ := by
  obtain ⟨q, hq, hql⟩ := pass_escaped h hd
  have hopen : (Scan.mk p d false).next '"' = ⟨'"', d, true⟩ := by simp [next, hp]
  have hq' : q ≠ '\\' := by
    rintro rfl
    cases t with
    | nil => simp at hql
    | cons c t => exact hl (by rw [← hql, getLast?_cons_of_ne_nil (List.cons_ne_nil c t)])
  have hclose : (Scan.mk q d true).next '"' = ⟨'"', d, false⟩ := by simp [next, hq']
  rw [List.cons_append, pass, hopen, if_neg hd, pass_append, hq]
  simp [pass, hclose, hd]

theorem pass_cons_plain {c : Char} (hq : c ≠ '"') (ho : c ≠ '(') (hc : c ≠ ')') {p : Char}
    {d : Nat} (hd : d ≠ 0) (t : Bool) (cs : List Char) :
    (Scan.mk p d t).pass (c :: cs) = (Scan.mk c d t).pass cs := by
  simp only [pass, next_plain hq ho hc, hd, if_false]

theorem pass_paren {cs : List Char} {q : Char} {d : Nat}
    (h : (Scan.mk '(' (d + 1) false).pass cs = some ⟨q, d + 1, false⟩) (hd : d ≠ 0) (p : Char) :
    (Scan.mk p d false).pass ('(' :: cs ++ [')']) = some ⟨')', d, false⟩ := by
  have hopen : (Scan.mk p d false).next '(' = ⟨'(', d + 1, false⟩ := by simp [next]
  have hclose : (Scan.mk q (d + 1) false).next ')' = ⟨')', d, false⟩ := by simp [next]
  rw [List.cons_append, pass, hopen, if_neg (Nat.succ_ne_zero d), pass_append, h]
  simp [pass, hclose, hd]

theorem close_paren {cs : List Char} {q : Char}
    (h : (Scan.mk '(' 1 false).pass cs = some ⟨q, 1, false⟩) (rest : List Char) :
    (Scan.mk '(' 1 false).close (cs ++ ')' :: rest) = some cs.length := by
  have hclose : (Scan.mk q 1 false).next ')' = ⟨')', 0, false⟩ := by simp [next]
  rw [close_append_of_pass h]
  simp [close, hclose]

theorem charAt?_natCast (s : Array Char) (n : Nat) : charAt? s n = s[n]? := by
  simp [charAt?]

theorem scanStep_eq_next {cs : List Char} {pos : Nat} {p c : Char} (hp : cs[pos]? = some p)
    (hc : cs[pos + 1]? = some c) (depth : Nat) (inText : Bool) :
    scanStep cs.toArray ((pos + 1 : Nat) : Int) depth inText =
      ((Scan.mk p depth inText).next c |>.depth, (Scan.mk p depth inText).next c |>.inText) := by
  have h₁ : charAt? cs.toArray ((pos + 1 : Nat) : Int) = some c := by
    simp only [charAt?_natCast, List.getElem?_toArray, hc]
  have h₂ : charAt? cs.toArray (((pos + 1 : Nat) : Int) - 1) = some p := by
    have : ((pos + 1 : Nat) : Int) - 1 = (pos : Int) := by omega
    simp only [this, charAt?_natCast, List.getElem?_toArray, hp]
  unfold scanStep
  rw [h₁, h₂]
  simp [next]

end Scan

theorem scanParens_eq_close {cs : List Char} {start : Int} :
    ∀ (steps pos depth : Nat) (inText : Bool) (p : Char), cs[pos]? = some p →
      cs.length ≤ pos + 1 + steps →
      scanParens cs.toArray start steps pos depth inText =
        match (Scan.mk p depth inText).close (cs.drop (pos + 1)) with
        | some k => .ok (pos + 1 + k)
        | none => .error (.incomplete (String.ofList (suffixFrom cs.toArray start)))
  | 0, pos, depth, inText, p, _, hlen => by
    have : cs.drop (pos + 1) = [] := List.drop_eq_nil_of_le (by omega)
    simp [scanParens, this, Scan.close]
  | steps + 1, pos, depth, inText, p, hp, hlen => by
    by_cases hend : pos + 1 = cs.length
    · have : cs.drop (pos + 1) = [] := List.drop_eq_nil_of_le (by omega)
      have hend' : (pos : Int) + 1 = cs.toArray.size := by simp; omega
      simp [scanParens, this, Scan.close, hend']
    · have hlt : pos + 1 < cs.length := by
        have := (List.getElem?_eq_some_iff.1 hp).1
        omega
      have hc : cs[pos + 1]? = some cs[pos + 1] := List.getElem?_eq_getElem hlt
      have hdrop : cs.drop (pos + 1) = cs[pos + 1] :: cs.drop (pos + 1 + 1) :=
        List.drop_eq_getElem_cons hlt
      have hend' : (pos : Int) + 1 ≠ cs.toArray.size := by simp; omega
      have hpos : (pos : Int) + 1 = ((pos + 1 : Nat) : Int) := by push_cast; rfl
      rw [scanParens, if_neg hend', hpos, Scan.scanStep_eq_next hp hc, hdrop, Scan.close]
      rcases hs : ((Scan.mk p depth inText).next cs[pos + 1]).depth with _ | d
      · simp
      · have ih := @scanParens_eq_close cs start steps (pos + 1) (d + 1)
          ((Scan.mk p depth inText).next cs[pos + 1]).inText cs[pos + 1] hc (by omega)
        have hs' : Scan.mk cs[pos + 1] (d + 1) ((Scan.mk p depth inText).next cs[pos + 1]).inText =
            (Scan.mk p depth inText).next cs[pos + 1] := by
          rw [← hs]
          rfl
        simp only [Nat.add_one_ne_zero, if_false]
        rw [ih, hs']
        cases ((Scan.mk p depth inText).next cs[pos + 1]).close (cs.drop (pos + 1 + 1)) with
        | none => simp
        | some k =>
          simp
          omega

theorem matchingParen_eq_close (cs : List Char) :
    matchingParen ('(' :: cs) 0 =
      match (Scan.mk '(' 1 false).close cs with
      | some k => .ok (k + 1)
      | none => .error (.incomplete (String.ofList ('(' :: cs))) := by
  have hb : ¬((0 : Int) < -indexBound || indexBound ≤ 0) := by decide
  have hc : charAt? ('(' :: cs).toArray 0 = some '(' := rfl
  have hs := @scanParens_eq_close ('(' :: cs) 0 (cs.length + 1) 0 1 false '(' rfl (by simp)
  simp only [List.drop_succ_cons, List.drop_zero] at hs
  simp only [matchingParen, hb, if_false, hc, bne_self_eq_false, Bool.false_eq_true]
  simp only [List.size_toArray, List.length_cons, Int.sub_zero, Int.toNat_natCast, Int.natCast_zero] at hs ⊢
  rw [hs]
  cases (Scan.mk '(' 1 false).close cs with
  | none => simp [suffixFrom]
  | some k =>
    simp
    omega

section Balanced

/-- A text that the scan passes over from outside a literal, after any character but a backslash
and at any open depth, coming back outside a literal at that depth. -/
def Balanced (cs : List Char) : Prop :=
  ∀ (p : Char) (d : Nat), p ≠ '\\' → d ≠ 0 →
    ∃ q, (Scan.mk p d false).pass cs = some ⟨q, d, false⟩

theorem balanced_nil : Balanced [] := fun p _ _ _ => ⟨p, rfl⟩

theorem balanced_plain {cs : List Char} (h : ∀ c ∈ cs, c ≠ '"' ∧ c ≠ '(' ∧ c ≠ ')') :
    Balanced cs :=
  fun p _ _ hd => Scan.pass_plain h hd p false

theorem balanced_literal {t : List Char} (h : quotesEscaped '"' t = true)
    (hl : t.getLast? ≠ some '\\') : Balanced ('"' :: t ++ ['"']) :=
  fun _ _ hp hd => ⟨'"', Scan.pass_literal h hl hp hd⟩

theorem Balanced.cons {c : Char} {cs : List Char} (h : Balanced cs) (hq : c ≠ '"') (ho : c ≠ '(')
    (hc : c ≠ ')') (hb : c ≠ '\\') : Balanced (c :: cs) := by
  intro p d _ hd
  rw [Scan.pass_cons_plain hq ho hc hd]
  exact h c d hb hd

theorem Balanced.sep {cs ds : List Char} (h₁ : Balanced cs) (h₂ : Balanced ds) :
    Balanced (cs ++ ' ' :: ds) := by
  intro p d hp hd
  obtain ⟨q, hq⟩ := h₁ p d hp hd
  rw [Scan.pass_append, hq, Option.bind_some,
    Scan.pass_cons_plain (by decide) (by decide) (by decide) hd]
  exact h₂ ' ' d (by decide) hd

theorem Balanced.paren {cs : List Char} (h : Balanced cs) : Balanced ('(' :: cs ++ [')']) := by
  intro p d _ hd
  obtain ⟨q, hq⟩ := h '(' (d + 1) (by decide) (Nat.succ_ne_zero d)
  exact ⟨')', Scan.pass_paren hq hd p⟩

/-- A balanced text in parentheses closes at its own closing parenthesis, whatever follows. -/
theorem Balanced.matchingParen {cs : List Char} (h : Balanced cs) (rest : List Char) :
    matchingParen ('(' :: (cs ++ ')' :: rest)) 0 = .ok ((cs.length + 1 : Nat) : Int) := by
  obtain ⟨q, hq⟩ := h '(' 1 (by decide) Nat.one_ne_zero
  rw [matchingParen_eq_close, Scan.close_paren hq rest]
  simp

end Balanced

end Split

end TinyLisp
