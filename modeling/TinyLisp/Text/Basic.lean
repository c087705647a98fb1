import TinyLisp.Text.Blank

/-!
# Source text

Trimming blanks and cutting comments; a `;` on the last line, with no line break after it,
stays.
-/

namespace TinyLisp

namespace Text

def strip (cs : List Char) : List Char :=
  ((cs.dropWhile isBlank).reverse.dropWhile isBlank).reverse

theorem strip_length_le (cs : List Char) : (strip cs).length ≤ cs.length := by
  unfold strip
  rw [List.length_reverse]
  have h₁ := (@List.dropWhile_suffix _ cs isBlank).length_le
  have h₂ := (@List.dropWhile_suffix _ (cs.dropWhile isBlank).reverse isBlank).length_le
  rw [List.length_reverse] at h₂
  omega

mutual

/-- The text with every comment that ends in a line break replaced by that line break. -/
def removeComments : List Char → List Char
  | [] => []
  | c :: rest => if c = ';' then skipComment [c] rest else c :: removeComments rest

/-- Inside a comment whose text so far is `acc`, reversed: drop it at the line break that ends
it, or keep it if the text ends first. -/
def skipComment (acc : List Char) : List Char → List Char
  | [] => acc.reverse
  | c :: rest => if c = '\n' then '\n' :: removeComments rest else skipComment (c :: acc) rest

end

theorem removeComments_length_le_and (cs : List Char) :
    (removeComments cs).length ≤ cs.length ∧
      ∀ acc, (skipComment acc cs).length ≤ acc.length + cs.length := by
  induction cs with
  | nil => simp [removeComments, skipComment]
  | cons c rest ih =>
    refine ⟨?_, fun acc => ?_⟩
    · by_cases hc : c = ';'
      · simp only [removeComments, hc, if_true, List.length_cons]
        have := ih.2 [';']
        simp at this
        omega
      · simp only [removeComments, hc, if_false, List.length_cons]
        have := ih.1
        omega
    · by_cases hc : c = '\n'
      · simp only [skipComment, hc, if_true, List.length_cons]
        have := ih.1
        omega
      · simp only [skipComment, hc, if_false, List.length_cons]
        have := ih.2 (c :: acc)
        simp only [List.length_cons] at this
        omega

theorem removeComments_length_le (cs : List Char) : (removeComments cs).length ≤ cs.length :=
  (removeComments_length_le_and cs).1

def countChar (c : Char) (cs : List Char) : Nat := cs.count c

end Text

end TinyLisp
