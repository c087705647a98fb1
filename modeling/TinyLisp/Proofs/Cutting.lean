import Mathlib.Data.List.DropRight
import TinyLisp.Proofs.ScanCompare
import TinyLisp.Proofs.PrintRead

/-!
# Cutting an expression from a text
-/

namespace TinyLisp

namespace Text

theorem strip_eq_rdropWhile (cs : List Char) :
    strip cs = (cs.dropWhile isBlank).rdropWhile isBlank := rfl

theorem trimmed_strip (cs : List Char) : Trimmed (strip cs) := by
  rw [strip_eq_rdropWhile]
  refine ⟨fun c hc => ?_, fun c hc => ?_⟩
  · obtain ⟨t, ht⟩ := List.rdropWhile_prefix isBlank (cs.dropWhile isBlank)
    have hd : (cs.dropWhile isBlank).head? = some c := by
      rw [← ht, List.head?_append, Option.mem_def.1 hc]
      rfl
    have := List.head?_dropWhile_not isBlank cs
    rw [hd] at this
    exact this
  · have hne : (cs.dropWhile isBlank).rdropWhile isBlank ≠ [] := by
      rintro h
      rw [h] at hc
      simp at hc
    have hl := List.rdropWhile_last_not isBlank _ hne
    rw [List.getLast?_eq_some_getLast hne, Option.mem_def, Option.some.injEq] at hc
    rw [hc] at hl
    simpa using hl

theorem strip_strip (cs : List Char) : strip (strip cs) = strip cs :=
  strip_eq_self (trimmed_strip cs)

theorem strip_sublist (cs : List Char) : List.Sublist (strip cs) cs :=
  (List.rdropWhile_prefix isBlank _).sublist.trans (List.dropWhile_suffix isBlank).sublist

theorem Trimmed.cons {c : Char} {cs : List Char} (hc : isBlank c = false) (h : Trimmed cs)
    (hne : cs ≠ []) : Trimmed (c :: cs) := by
  refine ⟨fun x hx => ?_, fun x hx => h.2 x ?_⟩
  · rw [List.head?_cons, Option.mem_def, Option.some.injEq] at hx
    exact hx ▸ hc
  · rwa [Split.getLast?_cons_of_ne_nil hne] at hx

theorem trimmed_wrap {o e : Char} (ho : isBlank o = false) (he : isBlank e = false)
    (cs : List Char) : Trimmed (o :: cs ++ [e]) := by
  refine ⟨fun x hx => ?_, fun x hx => ?_⟩
  · rw [List.cons_append, List.head?_cons, Option.mem_def, Option.some.injEq] at hx
    exact hx ▸ ho
  · rw [List.getLast?_concat, Option.mem_def, Option.some.injEq] at hx
    exact hx ▸ he

theorem Trimmed.right {cs r : List Char} (h : Trimmed (cs ++ r)) :
    ∀ c ∈ r.getLast?, isBlank c = false := by
  intro c hc
  apply h.2 c
  rw [List.getLast?_append, Option.mem_def.1 hc]
  rfl

theorem Trimmed.append_of_getLast {cs r : List Char} (h : Trimmed cs) (hne : cs ≠ [])
    (hr : ∀ c ∈ r.getLast?, isBlank c = false) : Trimmed (cs ++ r) := by
  obtain ⟨x, xs, rfl⟩ := List.exists_cons_of_ne_nil hne
  refine ⟨fun c hc => h.1 c (by simpa using hc), fun c hc => ?_⟩
  rw [List.getLast?_append, Option.mem_def] at hc
  cases hl : r.getLast? with
  | none =>
    rw [hl, Option.none_or] at hc
    exact h.2 c hc
  | some z =>
    rw [hl, Option.some_or, Option.some.injEq] at hc
    exact hr c (hc ▸ hl)

theorem strip_decomp (cs : List Char) : ∃ lead trail : List Char,
    (∀ c ∈ lead, isBlank c = true) ∧ (∀ c ∈ trail, isBlank c = true) ∧
      cs = lead ++ strip cs ++ trail := by
  refine ⟨cs.takeWhile isBlank, (cs.dropWhile isBlank).rtakeWhile isBlank,
    fun c hc => List.mem_takeWhile_imp hc, fun c hc => List.mem_rtakeWhile_imp hc, ?_⟩
  rw [strip_eq_rdropWhile, List.append_assoc, List.rdropWhile_append_rtakeWhile,
    List.takeWhile_append_dropWhile]

theorem strip_of_getLast {cs : List Char} (h : ∀ c ∈ cs.getLast?, isBlank c = false) :
    cs = cs.takeWhile isBlank ++ strip cs := by
  have hd : (cs.dropWhile isBlank).rdropWhile isBlank = cs.dropWhile isBlank := by
    rw [List.rdropWhile_eq_self_iff]
    intro hne hl
    obtain ⟨t, ht⟩ : List.IsSuffix (cs.dropWhile isBlank) cs := List.dropWhile_suffix isBlank
    have hlast : cs.getLast? = some ((cs.dropWhile isBlank).getLast hne) := by
      rw [← List.getLast?_eq_some_getLast hne]
      conv_lhs => rw [← ht]
      rw [List.getLast?_append, List.getLast?_eq_some_getLast hne]
      rfl
    rw [h _ hlast] at hl
    exact Bool.false_ne_true hl
  rw [strip_eq_rdropWhile, hd, List.takeWhile_append_dropWhile]

/-- A text has a comment exactly when a `;` comes somewhere before a line break. -/
def CommentFree (cs : List Char) : Prop :=
  ¬List.Sublist [';', '\n'] cs

/-- The characters whose places decide where comments and text literals run. -/
def isMark (c : Char) : Bool :=
  c == ';' || c == '\n' || c == '"'

theorem CommentFree.cons {c : Char} {cs : List Char} (hc : c ≠ ';') (h : CommentFree cs) :
    CommentFree (c :: cs) := by
  intro hs
  rcases List.sublist_cons_iff.1 hs with hs | ⟨r, hr, -⟩
  · exact h hs
  · exact hc (List.cons.inj hr).1.symm

theorem CommentFree.sublist {cs ds : List Char} (h : CommentFree cs) (hs : List.Sublist ds cs) :
    CommentFree ds :=
  fun hd => h (hd.trans hs)

theorem CommentFree.of_marks {cs ds : List Char} (h : CommentFree cs)
    (hs : List.Sublist (ds.filter isMark) cs) : CommentFree ds := by
  intro hd
  have hf := hd.filter isMark
  exact h (hf.trans hs)

theorem skipComment_of_newline_not_mem {cs : List Char} (h : '\n' ∉ cs) (acc : List Char) :
    skipComment acc cs = acc.reverse ++ cs := by
  induction cs generalizing acc with
  | nil => simp [skipComment]
  | cons c cs ih =>
    have hc : c ≠ '\n' := fun e => h (e ▸ List.mem_cons_self)
    rw [skipComment, if_neg hc, ih (fun e => h (List.mem_cons_of_mem _ e))]
    simp

theorem removeComments_of_commentFree {cs : List Char} (h : CommentFree cs) :
    removeComments cs = cs := by
  induction cs with
  | nil => simp [removeComments]
  | cons c cs ih =>
    by_cases hc : c = ';'
    · -- a `;` with no line break after it stays with the rest of the text
      subst hc
      have hn : '\n' ∉ cs := fun hn => h (List.cons_sublist_cons.2 (List.singleton_sublist.2 hn))
      rw [removeComments, if_pos rfl, skipComment_of_newline_not_mem hn]
      rfl
    · rw [removeComments, if_neg hc, ih (h.sublist (List.sublist_cons_self c cs))]

theorem commentFree_removeComments_and (cs : List Char) :
    CommentFree (removeComments cs) ∧
      ∀ acc, '\n' ∉ acc → CommentFree (skipComment acc cs) := by
  induction cs with
  | nil =>
    refine ⟨by simp [removeComments, CommentFree], fun acc hacc hs => hacc ?_⟩
    simp only [skipComment] at hs
    exact List.mem_reverse.1 (hs.subset (by simp))
  | cons c cs ih =>
    refine ⟨?_, fun acc hacc => ?_⟩
    · by_cases hc : c = ';'
      · rw [removeComments, if_pos hc]
        exact ih.2 [c] (by simp [hc])
      · rw [removeComments, if_neg hc]
        exact ih.1.cons hc
    · by_cases hc : c = '\n'
      · rw [skipComment, if_pos hc]
        exact ih.1.cons (by decide)
      · rw [skipComment, if_neg hc]
        exact ih.2 (c :: acc) (by simp [hacc, Ne.symm hc])

theorem commentFree_removeComments (cs : List Char) : CommentFree (removeComments cs) :=
  (commentFree_removeComments_and cs).1

theorem commentFree_code (src : List Char) : CommentFree (strip (removeComments src)) :=
  (commentFree_removeComments src).sublist (strip_sublist _)

theorem strip_removeComments_of_commentFree {cs : List Char} (h : CommentFree cs)
    (ht : Trimmed cs) : strip (removeComments cs) = cs := by
  rw [removeComments_of_commentFree h, strip_eq_self ht]

theorem strip_removeComments_idem (src : List Char) :
    strip (removeComments (strip (removeComments src))) = strip (removeComments src) :=
  strip_removeComments_of_commentFree (commentFree_code src) (trimmed_strip _)

/-- `seg` is the expression `e` as it stands in a text: each leading quote mark of `e` may have
blanks after it, and the rest is written as it is. -/
inductive QuoteSpaced : List Char → List Char → Prop
  | whole (e : List Char) : QuoteSpaced e e
  | quote {b seg e : List Char} : (∀ c ∈ b, isBlank c = true) → QuoteSpaced seg e →
      QuoteSpaced ('\'' :: (b ++ seg)) ('\'' :: e)

end Text

namespace Split

section Literal

theorem literalEnd_split {i : Nat} {last : Option Nat} {cs : List Char} {n : Nat}
    (h : literalEnd i last cs = some n) :
    last = some n ∨ ∃ u r, cs = u ++ '"' :: r ∧ n = i + u.length + 1 := by
  fun_induction literalEnd i last cs with
  | case1 => exact .inl h
  | case2 i last rest ih =>
    rcases ih h with h' | ⟨u, r, rfl, rfl⟩
    · rw [Option.some.injEq] at h'
      exact .inr ⟨['\\'], rest, rfl, by simp; omega⟩
    · exact .inr ⟨'\\' :: '"' :: u, r, rfl, by simp; omega⟩
  | case3 i last rest =>
    rw [Option.some.injEq] at h
    exact .inr ⟨[], rest, rfl, by simp; omega⟩
  | case4 i last c rest _ _ ih =>
    rcases ih h with h' | ⟨u, r, rfl, rfl⟩
    · exact .inl h'
    · exact .inr ⟨c :: u, r, rfl, by simp; omega⟩

theorem literalEnd_gt_of_quote_mem {i : Nat} {last : Option Nat} {cs : List Char} {n : Nat}
    (hq : '"' ∈ cs) (h : literalEnd i last cs = some n) : i < n := by
  fun_induction literalEnd i last cs with
  | case1 => simp at hq
  | case2 i last rest =>
    rcases literalEnd_ge h with h' | h'
    · omega
    · rw [Option.some.injEq] at h'
      omega
  | case3 =>
    rw [Option.some.injEq] at h
    omega
  | case4 i last c rest _ hc ih =>
    have := ih (List.mem_of_ne_of_mem (Ne.symm hc) hq) h
    omega

theorem literalEnd_cons_of_not_pair {c : Char} {cs : List Char} (hq : c ≠ '"')
    (hp : ¬(c = '\\' ∧ cs.head? = some '"')) (i : Nat) (last : Option Nat) :
    literalEnd i last (c :: cs) = literalEnd (i + 1) last cs := by
  conv_lhs => unfold literalEnd
  split
  · simp at *
  · rename_i heq
    obtain ⟨rfl, rfl⟩ := heq
    simp at hp
  · rename_i heq
    obtain ⟨rfl, rfl⟩ := List.cons.inj heq
    rw [if_neg hq]

theorem literalEnd_inside : ∀ (u : List Char) {r : List Char} {i : Nat} {last : Option Nat}
    (p : Char), literalEnd i last (u ++ '"' :: r) = some (i + u.length + 1) →
      quotesEscaped p u = true ∧ (u.getLast? = some '\\' → '"' ∉ r)
  | [], _, _, _, _, _ => ⟨rfl, by simp⟩
  | [c], r, i, last, p, h => by
    by_cases hc : c = '\\'
    · subst hc
      -- the backslash and the quote after it go together, so the scan runs on into the rest
      refine ⟨rfl, fun _ hq => ?_⟩
      simp only [List.singleton_append, literalEnd, List.length_singleton] at h
      have := literalEnd_gt_of_quote_mem hq h
      omega
    · by_cases hq : c = '"'
      · subst hq
        simp [literalEnd] at h
      · exact ⟨by simp [quotesEscaped, hq], by simp [hc]⟩
  | c :: d :: u, r, i, last, p, h => by
    have hl : (c :: d :: u).getLast? = (d :: u).getLast? := List.getLast?_cons_cons
    by_cases hpair : c = '\\' ∧ d = '"'
    · obtain ⟨rfl, rfl⟩ := hpair
      have h' : literalEnd (i + 2) (some (i + 2)) (u ++ '"' :: r) =
          some (i + 2 + u.length + 1) := by
        simp only [List.cons_append, literalEnd, List.length_cons] at h
        rw [h]
        congr 1
        omega
      obtain ⟨hu, hb⟩ := literalEnd_inside u '"' h'
      refine ⟨by simp [quotesEscaped, hu], fun hlast => hb ?_⟩
      cases u with
      | nil => simp at hlast
      | cons x u => rwa [hl, List.getLast?_cons_cons] at hlast
    · by_cases hq : c = '"'
      · subst hq
        simp [literalEnd] at h
      · have h' : literalEnd (i + 1) last ((d :: u) ++ '"' :: r) =
            some (i + 1 + (d :: u).length + 1) := by
          rw [List.cons_append, literalEnd_cons_of_not_pair hq (by simpa using hpair)] at h
          rw [h]
          simp only [List.length_cons]
          congr 1
          omega
        obtain ⟨hu, hb⟩ := literalEnd_inside (d :: u) c h'
        refine ⟨?_, fun hlast => hb (hl ▸ hlast)⟩
        rw [quotesEscaped, hu]
        simp [hq]

theorem textLiteralEnd_cut {rest : List Char} {n : Nat}
    (h : textLiteralEnd ('"' :: rest) = some n) : ∃ u r, rest = u ++ '"' :: r ∧ n = u.length + 2 ∧
      quotesEscaped '"' u = true ∧ (u.getLast? = some '\\' → '"' ∉ r) := by
  have h' : literalEnd 1 none rest = some n := h
  rcases literalEnd_split h' with h'' | ⟨u, r, rfl, rfl⟩
  · simp at h''
  · obtain ⟨hu, hb⟩ := literalEnd_inside u '"' h'
    exact ⟨u, r, rfl, by omega, hu, hb⟩

theorem textLiteralEnd_whole {code : List Char} (hh : code.head? = some '"')
    (hn : textLiteralEnd code = some code.length) :
    ∃ u, code = '"' :: u ++ ['"'] ∧ quotesEscaped '"' u = true := by
  obtain ⟨rest, rfl⟩ : ∃ rest, code = '"' :: rest := by
    cases code with
    | nil => simp at hh
    | cons c rest =>
      simp only [List.head?_cons, Option.some.injEq] at hh
      exact ⟨rest, by rw [hh]⟩
  obtain ⟨u, r, rfl, hlen, hu, -⟩ := textLiteralEnd_cut hn
  have hr : r = [] := by
    simp only [List.length_cons, List.length_append] at hlen
    exact List.eq_nil_of_length_eq_zero (by omega)
  subst hr
  exact ⟨u, by simp, hu⟩

end Literal

section Paren

theorem Scan.next_depth_eq_zero {s : Scan} {c : Char} (hd : s.depth ≠ 0)
    (h : (s.next c).depth = 0) : c = ')' ∧ s.depth = 1 ∧ s.inText = false := by
  obtain ⟨p, d, m⟩ := s
  simp only at hd ⊢
  by_cases hc : c = ')'
  · subst hc
    cases m <;> simp [Scan.next] at h ⊢ <;> omega
  · -- only a closing parenthesis outside a literal lowers the depth
    exfalso
    simp only [Scan.next, beq_iff_eq, hc, if_false] at h
    split_ifs at h <;> omega

theorem Scan.close_split {s : Scan} {cs : List Char} {k : Nat} (h : s.close cs = some k)
    (hd : s.depth ≠ 0) : ∃ J r q, cs = J ++ ')' :: r ∧ J.length = k ∧
      s.pass J = some ⟨q, 1, false⟩ := by
  induction cs generalizing s k with
  | nil => simp [Scan.close] at h
  | cons c cs ih =>
    simp only [Scan.close] at h
    split at h
    · rename_i hz
      obtain ⟨rfl, h₁, h₂⟩ := next_depth_eq_zero hd hz
      rw [Option.some.injEq] at h
      subst h
      refine ⟨[], cs, s.prev, rfl, rfl, ?_⟩
      obtain ⟨p, d, m⟩ := s
      simp only at h₁ h₂
      subst h₁ h₂
      rfl
    · rename_i hz
      obtain ⟨k', hk', rfl⟩ := Option.map_eq_some_iff.1 h
      obtain ⟨J, r, q, rfl, rfl, hp⟩ := ih hk' hz
      exact ⟨c :: J, r, q, rfl, rfl, by simp [Scan.pass, hz, hp]⟩

theorem matchingParen_split {cs : List Char} {k : Int} (h : matchingParen ('(' :: cs) 0 = .ok k) :
    ∃ J r q, cs = J ++ ')' :: r ∧ k = J.length + 1 ∧
      (Scan.mk '(' 1 false).pass J = some ⟨q, 1, false⟩ := by
  rw [matchingParen_eq_close] at h
  cases hc : (Scan.mk '(' 1 false).close cs with
  | none =>
    rw [hc] at h
    cases h
  | some j =>
    rw [hc] at h
    obtain ⟨J, r, q, rfl, rfl, hp⟩ := Scan.close_split hc Nat.one_ne_zero
    injection h with h
    exact ⟨J, r, q, rfl, h.symm, hp⟩

theorem matchingParen_of_pass {J : List Char} {q : Char}
    (h : (Scan.mk '(' 1 false).pass J = some ⟨q, 1, false⟩) (r : List Char) :
    matchingParen ('(' :: (J ++ ')' :: r)) 0 = .ok (J.length + 1) := by
  rw [matchingParen_eq_close, Scan.close_paren h]

theorem matchingParen_whole {code : List Char} {closing : Int} (hh : code.head? = some '(')
    (hm : matchingParen code 0 = .ok closing) (hc : ¬closing + 1 < code.length) :
    ∃ J q, code = '(' :: J ++ [')'] ∧ (Scan.mk '(' 1 false).pass J = some ⟨q, 1, false⟩ := by
  obtain ⟨cs, rfl⟩ : ∃ cs, code = '(' :: cs := by
    cases code with
    | nil => simp at hh
    | cons c cs =>
      simp only [List.head?_cons, Option.some.injEq] at hh
      exact ⟨cs, by rw [hh]⟩
  obtain ⟨J, r, q, rfl, rfl, hp⟩ := matchingParen_split hm
  have hr : r = [] := by
    simp only [List.length_cons, List.length_append] at hc
    exact List.eq_nil_of_length_eq_zero (by omega)
  subst hr
  exact ⟨J, q, by simp, hp⟩

end Paren

section Cut

theorem firstExpression_congr {cs ds : List Char} (h : Text.strip cs = Text.strip ds) :
    firstExpression cs = firstExpression ds := by
  rw [firstExpression.eq_1 cs, h, ← firstExpression.eq_1 ds]

theorem firstExpression_strip (cs : List Char) :
    firstExpression (Text.strip cs) = firstExpression cs :=
  firstExpression_congr (Text.strip_strip cs)

/-- What cutting an expression `e` with rest `r` from a text leaves: the trimmed text is `seg ++ r`,
and `e` is `seg` with the blanks after its quote marks left out. The scan over `e` ends as over
`seg`; a double quote after `seg` does not follow a backslash; and `e` is cut back whole, before
the same rest or alone. -/
structure CutOf (seg e r : List Char) : Prop where
  sublist : List.Sublist e seg
  scan : ScanLE seg e
  ne_nil : e ≠ []
  trimmed : Text.Trimmed e
  boundary : r.head? = some '"' → seg.getLast? ≠ some '\\'
  recut : firstExpression (e ++ r) = .ok (e, r)
  alone : firstExpression e = .ok (e, [])
  spaced : Text.QuoteSpaced seg e

theorem CutOf.whole {cs e r : List Char} (h : firstExpression cs = .ok (e, r))
    (hs : Text.strip cs = e ++ r) (hne : e ≠ []) (ht : Text.Trimmed e)
    (hb : r.head? = some '"' → e.getLast? ≠ some '\\') (ha : firstExpression e = .ok (e, [])) :
    CutOf e e r where
  sublist := List.Sublist.refl e
  scan := ScanLE.refl e
  ne_nil := hne
  trimmed := ht
  boundary := hb
  recut := by rw [← hs, firstExpression_strip, h]
  alone := ha
  spaced := .whole e

theorem CutOf.quote {seg e r lead : List Char} (h : CutOf seg e r)
    (hlead : ∀ c ∈ lead, Text.isBlank c = true) (hr : ∀ c ∈ r.getLast?, Text.isBlank c = false) :
    CutOf ('\'' :: (lead ++ seg)) ('\'' :: e) r := by
  have hq : Text.isBlank '\'' = false := by decide
  have hseg : seg ≠ [] := fun hs => h.ne_nil (List.eq_nil_of_sublist_nil (hs ▸ h.sublist))
  have ht : Text.Trimmed ('\'' :: e) := h.trimmed.cons hq h.ne_nil
  refine ⟨(h.sublist.trans (List.sublist_append_right lead seg)).cons_cons '\'',
    ScanLE.cons (by decide) (by decide) (ScanLE.blank_left hlead h.scan), List.cons_ne_nil _ _,
    ht, fun hh => ?_, ?_, ?_, .quote hlead h.spaced⟩
  · rw [getLast?_cons_of_ne_nil (by simp [hseg]), List.getLast?_append_of_ne_nil _ hseg]
    exact h.boundary hh
  · have hs : Text.strip ('\'' :: e ++ r) = '\'' :: (e ++ r) :=
      Text.strip_eq_self (ht.append_of_getLast (List.cons_ne_nil _ _) hr)
    rw [firstExpression_quote hs, h.recut]
    rfl
  · rw [firstExpression_quote (Text.strip_eq_self ht), h.alone]
    rfl

theorem CutOf.paren {J r : List Char} {q : Char}
    (hp : (Scan.mk '(' 1 false).pass J = some ⟨q, 1, false⟩)
    (h : firstExpression cs = .ok ('(' :: J ++ [')'], r))
    (hs : Text.strip cs = '(' :: J ++ [')'] ++ r) : CutOf ('(' :: J ++ [')']) ('(' :: J ++ [')']) r := by
  have ht : Text.Trimmed ('(' :: J ++ [')']) := Text.trimmed_wrap (by decide) (by decide) J
  refine CutOf.whole h hs (by simp) ht (fun _ => by rw [List.getLast?_concat]; decide) ?_
  have hs' : Text.strip ('(' :: J ++ [')']) = '(' :: (J ++ [')']) := Text.strip_eq_self ht
  rw [firstExpression_paren hs', matchingParen_of_pass hp []]
  simp only [Except.bind]
  rw [List.take_of_length_le
      (by simp only [List.length_cons, List.length_append, List.length_nil]; omega),
    List.drop_of_length_le
      (by simp only [List.length_cons, List.length_append, List.length_nil]; omega)]
  rfl

theorem CutOf.text {u r : List Char} (hu : quotesEscaped '"' u = true)
    (h : firstExpression cs = .ok ('"' :: u ++ ['"'], r))
    (hs : Text.strip cs = '"' :: u ++ ['"'] ++ r) : CutOf ('"' :: u ++ ['"']) ('"' :: u ++ ['"']) r := by
  have ht : Text.Trimmed ('"' :: u ++ ['"']) := Text.trimmed_wrap (by decide) (by decide) u
  refine CutOf.whole h hs (by simp) ht (fun _ => by rw [List.getLast?_concat]; decide) ?_
  have hs' : Text.strip ('"' :: u ++ ['"']) = '"' :: (u ++ ['"']) := Text.strip_eq_self ht
  have hend := textLiteralEnd_literal (r := []) hu fun _ => List.not_mem_nil
  rw [firstExpression_text hs', hend]
  dsimp only
  rw [List.take_of_length_le (by simp), List.drop_of_length_le (by simp)]
  rfl

theorem firstExpression_of_strip_nil {cs : List Char} (h : Text.strip cs = []) :
    firstExpression cs = .error (.indexRange "string") := by
  rw [firstExpression.eq_1 cs, h]

theorem firstExpression_quote_inv {cs rest e r : List Char} (hs : Text.strip cs = '\'' :: rest)
    (h : firstExpression cs = .ok ('\'' :: e, r)) : firstExpression rest = .ok (e, r) := by
  rw [firstExpression_quote hs] at h
  cases hf : firstExpression rest with
  | error f =>
    rw [hf] at h
    cases h
  | ok er =>
    rw [hf] at h
    simp only [Except.bind, Except.ok.injEq, Prod.mk.injEq, List.cons.injEq, true_and] at h
    rw [← h.1, ← h.2]

/-- Every expression the cutter returns is the trimmed text's start, up to the blanks after its
quote marks, with the properties `CutOf` lists. -/
theorem firstExpression_cut {cs e r : List Char} (h : firstExpression cs = .ok (e, r)) :
    ∃ seg, Text.strip cs = seg ++ r ∧ CutOf seg e r := by
  fun_induction firstExpression cs generalizing e r with
  | case1 => cases h
  | case2 cs rest hs ih =>
    cases hf : firstExpression rest with
    | error => simp [hf, bind, Except.bind] at h
    | ok er =>
      obtain ⟨e', r'⟩ := er
      simp only [hf, bind, Except.bind, pure, Except.pure, Except.ok.injEq, Prod.mk.injEq] at h
      obtain ⟨rfl, rfl⟩ := h
      obtain ⟨seg, hseg, hcut⟩ := ih hf
      have hne : rest ≠ [] := by
        rintro rfl
        rw [firstExpression_of_strip_nil rfl] at hf
        cases hf
      have hlast : ∀ c ∈ rest.getLast?, Text.isBlank c = false := by
        have := (Text.trimmed_strip cs).2
        rwa [hs, getLast?_cons_of_ne_nil hne] at this
      have hr : ∀ c ∈ r'.getLast?, Text.isBlank c = false := by
        have := Text.trimmed_strip rest
        rw [hseg] at this
        exact this.right
      refine ⟨'\'' :: (rest.takeWhile Text.isBlank ++ seg), ?_,
        hcut.quote (fun c hc => List.mem_takeWhile_imp hc) hr⟩
      calc Text.strip cs = '\'' :: rest := hs
        _ = '\'' :: (rest.takeWhile Text.isBlank ++ Text.strip rest) := by
          rw [← Text.strip_of_getLast hlast]
        _ = '\'' :: (rest.takeWhile Text.isBlank ++ seg) ++ r' := by
          rw [hseg, List.cons_append, List.append_assoc]
  | case3 cs rest hs =>
    have hfe : firstExpression cs = .ok (e, r) := by
      rw [firstExpression_paren hs]
      exact h
    cases hm : matchingParen ('(' :: rest) 0 with
    | error => simp [hm, bind, Except.bind] at h
    | ok last =>
      simp only [hm, bind, Except.bind, pure, Except.pure, Except.ok.injEq, Prod.mk.injEq] at h
      obtain ⟨J, r', q, rfl, rfl, hp⟩ := matchingParen_split hm
      have hn : ((J.length : Int) + 1 + 1).toNat = ('(' :: J ++ [')']).length := by simp; omega
      have hsplit : '(' :: (J ++ ')' :: r') = ('(' :: J ++ [')']) ++ r' := by simp
      rw [hn, hsplit, List.take_left, List.drop_left] at h
      obtain ⟨rfl, rfl⟩ := h
      rw [hsplit] at hs
      exact ⟨_, hs, CutOf.paren hp hfe hs⟩
  | case4 => cases h
  | case5 cs rest hs n hn =>
    have hfe : firstExpression cs = .ok (e, r) := by
      rw [firstExpression_text hs, hn]
      exact h
    obtain ⟨u, r', rfl, rfl, hu, -⟩ := textLiteralEnd_cut hn
    have hsplit : '"' :: (u ++ '"' :: r') = ('"' :: u ++ ['"']) ++ r' := by simp
    have hn' : u.length + 2 = ('"' :: u ++ ['"']).length := by simp
    rw [hn', hsplit, List.take_left, List.drop_left, Except.ok.injEq, Prod.mk.injEq] at h
    obtain ⟨rfl, rfl⟩ := h
    rw [hsplit] at hs
    exact ⟨_, hs, CutOf.text hu hfe hs⟩
  | case6 => cases h
  | case7 cs c rest hq hp ht hs hne =>
    have hfe : firstExpression cs = .ok (e, r) := by
      rw [firstExpression_atom hs hq hp ht, if_neg hne]
      exact h
    rw [Except.ok.injEq, Prod.mk.injEq] at h
    obtain ⟨rfl, rfl⟩ := h
    have hall : ∀ x ∈ (c :: rest).takeWhile isAtomChar, isAtomChar x = true :=
      fun x hx => List.mem_takeWhile_imp hx
    have hne' : (c :: rest).takeWhile isAtomChar ≠ [] := by simpa using hne
    have hhead : ((c :: rest).takeWhile isAtomChar).head? = some c := by
      cases hc : isAtomChar c
      · simp [hc] at hne'
      · simp [hc]
    have hs' : Text.strip cs = (c :: rest).takeWhile isAtomChar ++ (c :: rest).dropWhile isAtomChar := by
      rw [hs, List.takeWhile_append_dropWhile]
    refine ⟨_, hs', CutOf.whole hfe hs' hne' (trimmed_of_atomChars hall) (fun hq' => ?_) ?_⟩
    · -- what follows an atom starts with a character that cannot be in one, and `"` can
      have hnot := List.head?_dropWhile_not isAtomChar (c :: rest)
      rw [hq'] at hnot
      exact absurd hnot (by decide)
    · have := firstExpression_atoms hne' hall (by rw [hhead]; simpa using ht) (b := []) (r := [])
        ⟨by simp, by simp, by simp⟩
      simpa using this

theorem firstExpression_wrap {I : List Char} {q : Char}
    (hp : (Scan.mk '(' 1 false).pass I = some ⟨q, 1, false⟩) {b r : List Char}
    (hsr : Surround b r) : firstExpression (b ++ ('(' :: I ++ [')']) ++ r) = .ok ('(' :: I ++ [')'], r) := by
  have hpar : ('(' :: I ++ [')']) ++ r = '(' :: (I ++ ')' :: r) := by simp
  have hs := Text.strip_around hsr.before (by simp)
    (Text.trimmed_wrap (o := '(') (e := ')') (by decide) (by decide) I) hsr.last
  rw [hpar] at hs
  rw [firstExpression_paren hs, matchingParen_of_pass hp r, ← hpar]
  simp only [Except.bind]
  rw [List.take_left' (by simp; omega), List.drop_left' (by simp; omega)]

theorem firstExpression_literal {u : List Char} (hu : quotesEscaped '"' u = true) {b r : List Char}
    (hsr : Surround b r) (hl : u.getLast? = some '\\' → '"' ∉ r) :
    firstExpression (b ++ ('"' :: u ++ ['"']) ++ r) = .ok ('"' :: u ++ ['"'], r) := by
  have hlit : ('"' :: u ++ ['"']) ++ r = '"' :: (u ++ '"' :: r) := by simp
  have hs := Text.strip_around hsr.before (by simp)
    (Text.trimmed_wrap (o := '"') (e := '"') (by decide) (by decide) u) hsr.last
  rw [hlit] at hs
  rw [firstExpression_text hs, textLiteralEnd_literal hu hl, ← hlit]
  dsimp only
  rw [List.take_left' (by simp), List.drop_left' (by simp)]

theorem literal_rest {u r : List Char} (hr : ∀ c ∈ r.getLast?, Text.isBlank c = false)
    (h : firstExpression (('"' :: u ++ ['"']) ++ r) = .ok ('"' :: u ++ ['"'], r)) :
    u.getLast? = some '\\' → '"' ∉ r := by
  have ht := (Text.trimmed_wrap (o := '"') (e := '"') (by decide) (by decide) u).append_of_getLast
    (by simp) hr
  have hlit : ('"' :: u ++ ['"']) ++ r = '"' :: (u ++ '"' :: r) := by simp
  rw [hlit] at h ht
  rw [firstExpression_text (Text.strip_eq_self ht)] at h
  cases hn : textLiteralEnd ('"' :: (u ++ '"' :: r)) with
  | none => rw [hn] at h; cases h
  | some n =>
    rw [hn] at h
    simp only [Except.ok.injEq, Prod.mk.injEq] at h
    obtain ⟨u', r', heq, rfl, -, hb⟩ := textLiteralEnd_cut hn
    -- the cut took the literal `'"' :: u' ++ ['"']`, which must be the one written
    have hsplit : '"' :: (u ++ '"' :: r) = ('"' :: u' ++ ['"']) ++ r' := by rw [heq]; simp
    rw [hsplit, List.take_left' (by simp), List.drop_left' (by simp)] at h
    obtain ⟨hu', rfl⟩ := h
    have : u' = u := by simpa using hu'
    subst this
    exact hb

theorem firstExpression_lead_nil {cs lead e r : List Char}
    (hlead : ∀ c ∈ lead, Text.isBlank c = true) (h : firstExpression cs = .ok (lead ++ e, r)) :
    lead = [] := by
  obtain ⟨_, -, hcut⟩ := firstExpression_cut h
  cases lead with
  | nil => rfl
  | cons c lead =>
    have := hcut.trimmed.1 c rfl
    rw [hlead c List.mem_cons_self] at this
    cases this

theorem atoms_of_alone {cs : List Char} (ht : Text.Trimmed cs)
    (h : firstExpression cs = .ok (cs, [])) (hq : ∀ c rest, cs ≠ '\'' :: c :: rest)
    (hp : ¬(cs.head? = some '(' ∧ 1 < cs.length)) (hd : cs.head? ≠ some '"') :
    ∀ c ∈ cs, isAtomChar c = true := by
  have hs : Text.strip cs = cs := Text.strip_eq_self ht
  cases cs with
  | nil =>
    rw [firstExpression_of_strip_nil hs] at h
    cases h
  | cons c rest =>
    by_cases hc₁ : c = '\''
    · -- a lone quote mark has nothing to quote
      subst hc₁
      cases rest with
      | nil =>
        rw [firstExpression_quote hs, firstExpression_of_strip_nil rfl] at h
        cases h
      | cons c' rest' => exact absurd rfl (hq c' rest')
    by_cases hc₂ : c = '('
    · -- a lone opening parenthesis is never matched
      subst hc₂
      cases rest with
      | nil =>
        rw [firstExpression_paren hs, matchingParen_eq_close] at h
        cases h
      | cons c' rest' => exact absurd ⟨rfl, by simp⟩ hp
    have hc₃ : c ≠ '"' := fun e => hd (by rw [e]; rfl)
    rw [firstExpression_atom hs hc₁ hc₂ hc₃] at h
    split at h
    · cases h
    · rw [Except.ok.injEq, Prod.mk.injEq] at h
      exact List.dropWhile_eq_nil_iff.1 h.2

theorem splitFrom_eq_nil {rest : List Char} (h : splitFrom rest = .ok []) : rest = [] := by
  by_contra hne
  cases hf : firstExpression rest with
  | error f =>
    rw [splitFrom, if_neg (by simpa using hne)] at h
    split at h <;> simp_all
  | ok er =>
    rw [splitFrom_cons hne hf] at h
    cases hs : splitFrom er.2 <;> simp [hs, Except.bind] at h

theorem splitFrom_eq_cons {rest p : List Char} {ps : List (List Char)}
    (h : splitFrom rest = .ok (p :: ps)) :
    rest ≠ [] ∧ ∃ r, firstExpression rest = .ok (p, r) ∧ splitFrom r = .ok ps := by
  have hne : rest ≠ [] := by
    rintro rfl
    rw [splitFrom_nil] at h
    cases h
  refine ⟨hne, ?_⟩
  cases hf : firstExpression rest with
  | error f =>
    rw [splitFrom, if_neg (by simpa using hne)] at h
    split at h <;> simp_all
  | ok er =>
    obtain ⟨e, r⟩ := er
    rw [splitFrom_cons hne hf] at h
    cases hs : splitFrom r with
    | error f => simp [hs, Except.bind] at h
    | ok es =>
      simp only [hs, Except.bind, Except.ok.injEq, List.cons.injEq] at h
      obtain ⟨rfl, rfl⟩ := h
      exact ⟨r, rfl, hs⟩

end Cut

end Split

end TinyLisp
