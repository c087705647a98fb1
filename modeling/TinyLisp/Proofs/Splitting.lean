import TinyLisp.Proofs.Cutting
import TinyLisp.Proofs.ReadByFuel

/-!
# Cutting a text into its expressions
-/

namespace TinyLisp

namespace Text

/-- `cs` is the pieces `ps` as they stand in a text: blanks before, between and after them, and
each piece as `QuoteSpaced` writes it. -/
inductive Spaced : List Char → List (List Char) → Prop
  | nil {b : List Char} : (∀ c ∈ b, isBlank c = true) → Spaced b []
  | cons {b seg rest e : List Char} {es : List (List Char)} : (∀ c ∈ b, isBlank c = true) →
      QuoteSpaced seg e → Spaced rest es → Spaced (b ++ seg ++ rest) (e :: es)

namespace Spaced

theorem blanks_left {b : List Char} (hb : ∀ c ∈ b, isBlank c = true) {cs : List Char}
    {ps : List (List Char)} (h : Spaced cs ps) : Spaced (b ++ cs) ps := by
  have hall : ∀ {b'}, (∀ c ∈ b', isBlank c = true) → ∀ c ∈ b ++ b', isBlank c = true :=
    fun hb' c hc => (List.mem_append.1 hc).elim (hb c) (hb' c)
  cases h with
  | nil hb' => exact .nil (hall hb')
  | cons hb' hq hr =>
    rw [← List.append_assoc, ← List.append_assoc]
    exact .cons (hall hb') hq hr

theorem blanks_right {cs : List Char} {ps : List (List Char)} (h : Spaced cs ps) {t : List Char}
    (ht : ∀ c ∈ t, isBlank c = true) : Spaced (cs ++ t) ps := by
  induction h with
  | nil hb => exact .nil fun c hc => (List.mem_append.1 hc).elim (hb c) (ht c)
  | cons hb hq _ ih =>
    rw [List.append_assoc]
    exact .cons hb hq ih

end Spaced

end Text

namespace Split

theorem splitFrom_spaced {rest : List Char} {ps : List (List Char)}
    (h : splitFrom rest = .ok ps) : Text.Spaced rest ps := by
  induction ps generalizing rest with
  | nil =>
    rw [splitFrom_eq_nil h]
    exact .nil fun _ hc => absurd hc List.not_mem_nil
  | cons p ps ih =>
    obtain ⟨-, r, hf, hs⟩ := splitFrom_eq_cons h
    obtain ⟨seg, hseg, hcut⟩ := firstExpression_cut hf
    obtain ⟨lead, trail, hlead, htrail, hcs⟩ := Text.strip_decomp rest
    have hrest : rest = lead ++ seg ++ (r ++ trail) := by
      rw [hcs, hseg, List.append_assoc, List.append_assoc, List.append_assoc]
    rw [hrest]
    exact .cons hlead hcut.spaced ((ih hs).blanks_right htrail)

theorem splitFrom_pieces {rest : List Char} {ps : List (List Char)} (h : splitFrom rest = .ok ps) :
    ∀ p ∈ ps, p ≠ [] ∧ firstExpression p = .ok (p, []) := by
  induction ps generalizing rest with
  | nil => simp
  | cons p ps ih =>
    obtain ⟨-, r, hf, hs⟩ := splitFrom_eq_cons h
    obtain ⟨seg, -, hcut⟩ := firstExpression_cut hf
    intro q hq
    rcases List.mem_cons.1 hq with rfl | hq
    · exact ⟨hcut.ne_nil, hcut.alone⟩
    · exact ih hs q hq

/-- Cutting a text into expressions loses, repeats and moves nothing but blanks: every piece is
one whole expression, not empty and cut whole when cut on its own, and the text is the pieces in
order with blanks before, between and after them and after their leading quote marks. -/
theorem splitExpressions_whole {cs : List Char} {ps : List (List Char)}
    (h : splitExpressions cs = .ok ps) :
    (∀ p ∈ ps, p ≠ [] ∧ firstExpression p = .ok (p, [])) ∧ Text.Spaced cs ps := by
  obtain ⟨lead, trail, hlead, htrail, hcs⟩ := Text.strip_decomp cs
  refine ⟨splitFrom_pieces h, ?_⟩
  rw [hcs, List.append_assoc]
  exact ((splitFrom_spaced h).blanks_right htrail).blanks_left hlead

/-- A list with a parenthesis in a text literal, a quote mark before blanks, and a literal. -/
theorem splitExpressions_whole_literal_paren :
    splitExpressions " (a \"(\")  ' b \"c\" ".toList =
        .ok ["(a \"(\")".toList, "'b".toList, "\"c\"".toList] ∧
      (∀ p ∈ ["(a \"(\")".toList, "'b".toList, "\"c\"".toList],
        p ≠ [] ∧ firstExpression p = .ok (p, [])) ∧
      Text.Spaced " (a \"(\")  ' b \"c\" ".toList
        ["(a \"(\")".toList, "'b".toList, "\"c\"".toList] := by
  have hs : splitExpressions " (a \"(\")  ' b \"c\" ".toList =
      .ok ["(a \"(\")".toList, "'b".toList, "\"c\"".toList] := by
    rw [splitExpressions, ← splitByFuel_eq 30 _ (by decide)]
    rfl
  exact ⟨hs, splitExpressions_whole hs⟩

end Split

end TinyLisp
