import TinyLisp.Repl
import TinyLisp.Proofs.Scan

/-!
# Reading an expression line by line

The loop takes the shortest run of lines whose text, comments cut, is `Finished`.
-/

namespace TinyLisp

namespace Text

theorem removeComments_append_after_newline {cs : List Char} (h : cs.getLast? = some '\n')
    (ds : List Char) :
    removeComments (cs ++ ds) = removeComments cs ++ removeComments ds ∧
      ∀ acc, skipComment acc (cs ++ ds) = skipComment acc cs ++ removeComments ds := by
  induction cs with
  | nil => cases h
  | cons c cs ih =>
    by_cases hcs : cs = []
    · subst hcs
      have hc : c = '\n' := by simpa using h
      subst hc
      simp [removeComments, skipComment]
    · obtain ⟨ih₁, ih₂⟩ := ih (by rwa [Split.getLast?_cons_of_ne_nil hcs] at h)
      refine ⟨?_, fun acc => ?_⟩
      · by_cases hc : c = ';'
        · rw [List.cons_append, removeComments, if_pos hc, removeComments, if_pos hc, ih₂]
        · rw [List.cons_append, removeComments, if_neg hc, removeComments, if_neg hc, ih₁,
            List.cons_append]
      · by_cases hc : c = '\n'
        · rw [List.cons_append, skipComment, if_pos hc, skipComment, if_pos hc, ih₁,
            List.cons_append]
        · rw [List.cons_append, skipComment, if_neg hc, skipComment, if_neg hc, ih₂]

end Text

namespace Repl

/-- The lines as typed, each with the line break that ends it. -/
def linesText (ls : List String) : List Char := ls.flatMap fun l => l.toList ++ ['\n']

/-- A text that the reader takes as a whole expression: not blank, and with no more opening
than closing parentheses, all of them counted, inside text literals too. -/
def Finished (cs : List Char) : Prop :=
  Text.strip cs ≠ [] ∧ Text.countChar '(' cs ≤ Text.countChar ')' cs

instance : DecidablePred Finished := fun _ => inferInstanceAs (Decidable (_ ∧ _))

theorem removeComments_linesText (ls : List String) :
    Text.removeComments (linesText ls) = (ls.map prepareLine).flatten := by
  induction ls with
  | nil => rfl
  | cons l ls ih =>
    show Text.removeComments ((l.toList ++ ['\n']) ++ linesText ls) =
      prepareLine l ++ (ls.map prepareLine).flatten
    rw [(Text.removeComments_append_after_newline List.getLast?_concat _).1, ih, prepareLine]

theorem balance_append (cs ds : List Char) : balance (cs ++ ds) = balance cs + balance ds := by
  simp only [balance, Text.countChar, List.count_append]
  omega

theorem complete_iff (cs : List Char) : complete cs (balance cs) = true ↔ Finished cs := by
  simp only [complete, pending, balance, Finished, Bool.and_eq_true, Bool.not_eq_eq_eq_not,
    Bool.not_true, List.isEmpty_eq_false_iff]
  constructor
  · rintro ⟨hs, hd⟩
    exact ⟨hs, by have := of_decide_eq_true hd; omega⟩
  · rintro ⟨hs, hd⟩
    exact ⟨hs, decide_eq_true (by omega)⟩

theorem go_cons (l : String) (ls : List String) (exp : List Char) :
    readExpression.go ((l :: ls).map .ok) exp (balance exp) =
      if Finished (exp ++ prepareLine l) then
        .ok (String.ofList (Text.strip (exp ++ prepareLine l)), ls.length)
      else
        readExpression.go (ls.map .ok) (exp ++ prepareLine l) (balance (exp ++ prepareLine l)) := by
  rw [List.map_cons, readExpression.go, ← balance_append, List.length_map]
  by_cases hf : Finished (exp ++ prepareLine l)
  · rw [if_pos ((complete_iff _).2 hf), if_pos hf]
  · rw [if_neg (mt (complete_iff _).1 hf), if_neg hf]

theorem go_lines (ls : List String) {exp : List Char} (hexp : ¬ Finished exp) :
    (∃ pre post, ls = pre ++ post ∧ Finished (exp ++ (pre.map prepareLine).flatten) ∧
      (∀ pre' post', pre = pre' ++ post' → post' ≠ [] →
        ¬ Finished (exp ++ (pre'.map prepareLine).flatten)) ∧
      readExpression.go (ls.map .ok) exp (balance exp) =
        .ok (String.ofList (Text.strip (exp ++ (pre.map prepareLine).flatten)), post.length)) ∨
    ((∀ pre post, ls = pre ++ post → ¬ Finished (exp ++ (pre.map prepareLine).flatten)) ∧
      readExpression.go (ls.map .ok) exp (balance exp) = .error .endOfInput) := by
  induction ls generalizing exp with
  | nil =>
    refine .inr ⟨fun pre post h => ?_, rfl⟩
    obtain ⟨rfl, -⟩ := List.append_eq_nil_iff.1 h.symm
    simpa using hexp
  | cons l ls ih =>
    rw [go_cons]
    by_cases hf : Finished (exp ++ prepareLine l)
    · -- this line finishes the expression; before it, only the text `exp` was there
      refine .inl ⟨[l], ls, rfl, by simpa using hf, fun pre' post' h hne => ?_, ?_⟩
      · rcases List.cons_eq_append_iff.1 h with ⟨rfl, -⟩ | ⟨pre'', -, h'⟩
        · simpa using hexp
        · exact absurd (List.append_eq_nil_iff.1 h'.symm).2 hne
      · rw [if_pos hf]
        simp
    · rw [if_neg hf]
      rcases ih hf with ⟨pre, post, rfl, hfin, hfirst, hrun⟩ | ⟨hnone, hrun⟩
      · refine .inl ⟨l :: pre, post, rfl, by simpa using hfin, fun pre' post' h hne => ?_,
          by simpa using hrun⟩
        rcases List.cons_eq_append_iff.1 h with ⟨rfl, -⟩ | ⟨pre'', rfl, h'⟩
        · simpa using hexp
        · simpa using hfirst pre'' post' h' hne
      · refine .inr ⟨fun pre post h => ?_, hrun⟩
        rcases List.cons_eq_append_iff.1 h with ⟨rfl, -⟩ | ⟨pre', rfl, h'⟩
        · simpa using hexp
        · simpa using hnone pre' post h'

/-- The reader takes lines up to and including the first at which the text read so far, each
line with its line break and comments cut, is not blank and has no more opening than closing
parentheses, counted over the whole text, text literals included; it answers that text trimmed,
with the number of lines left. If the lines run out first, it fails with the end of the input. -/
theorem readExpression_lines (ls : List String) :
    (∃ pre post, ls = pre ++ post ∧ Finished (Text.removeComments (linesText pre)) ∧
      (∀ pre' post', pre = pre' ++ post' → post' ≠ [] →
        ¬ Finished (Text.removeComments (linesText pre'))) ∧
      readExpression (ls.map .ok) =
        .ok (String.ofList (Text.strip (Text.removeComments (linesText pre))), post.length)) ∨
    ((∀ pre post, ls = pre ++ post → ¬ Finished (Text.removeComments (linesText pre))) ∧
      readExpression (ls.map .ok) = .error .endOfInput) := by
  have hnil : ¬ Finished [] := fun h => h.1 rfl
  have h := go_lines ls hnil
  simp only [List.nil_append, ← removeComments_linesText] at h
  exact h

/-- A parenthesis inside a text literal counts: the line `(f "(")` holds a whole expression,
whose closing parenthesis the scan for it finds, but the reader asks for another line. -/
theorem readExpression_paren_in_literal :
    Split.matchingParen (linesText ["(f \"(\")"]) 0 = .ok 6 ∧
      readExpression [.ok "(f \"(\")"] = .error .endOfInput :=
  ⟨rfl, rfl⟩

end Repl

end TinyLisp
