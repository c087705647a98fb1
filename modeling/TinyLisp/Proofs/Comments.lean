import TinyLisp.Proofs.Cutting

/-!
# Comments

Comments are cut before reading, literal or not, so a text reads the same with them cut.
-/

namespace TinyLisp

namespace Text

theorem skipComment_line {l : List Char} (h : '\n' ∉ l) (acc rest : List Char) :
    skipComment acc (l ++ '\n' :: rest) = '\n' :: removeComments rest := by
  induction l generalizing acc with
  | nil => simp [skipComment]
  | cons c l ih =>
    have hc : c ≠ '\n' := fun e => h (e ▸ List.mem_cons_self)
    rw [List.cons_append, skipComment, if_neg hc, ih (fun e => h (List.mem_cons_of_mem _ e))]

theorem removeComments_line {l : List Char} (h : '\n' ∉ l) (rest : List Char) :
    removeComments (l ++ '\n' :: rest) =
      l.takeWhile (· != ';') ++ '\n' :: removeComments rest := by
  induction l with
  | nil => simp [removeComments]
  | cons c l ih =>
    by_cases hc : c = ';'
    · subst hc
      rw [List.cons_append, removeComments, if_pos rfl,
        skipComment_line (fun e => h (List.mem_cons_of_mem _ e))]
      rfl
    · have hl : '\n' ∉ l := fun e => h (List.mem_cons_of_mem _ e)
      rw [List.cons_append, removeComments, if_neg hc, ih hl, List.takeWhile_cons_of_pos
        (by simpa using hc), List.cons_append]

theorem removeComments_idem (cs : List Char) :
    removeComments (removeComments cs) = removeComments cs :=
  removeComments_of_commentFree (commentFree_removeComments cs)

end Text

namespace Reader

theorem readChars_removeComments (cs : List Char) :
    readChars (Text.removeComments cs) = readChars cs := by
  rw [readChars, readChars, Text.removeComments_idem]

theorem readAll_removeComments (s : String) :
    readAll (String.ofList (Text.removeComments s.toList)) = readAll s := by
  rw [readAll, readAll, String.toList_ofList, Text.removeComments_idem]

/-- A comment runs from the first `;` of a line, text literals included, to the line break, and
reading a text, as one expression or as a series, gives what reading it with its comments cut
gives. -/
theorem read_removeComments (s : String) :
    (∀ l rest : List Char, '\n' ∉ l →
      Text.removeComments (l ++ '\n' :: rest) =
        l.takeWhile (· != ';') ++ '\n' :: Text.removeComments rest) ∧
    read (String.ofList (Text.removeComments s.toList)) = read s ∧
    readAll (String.ofList (Text.removeComments s.toList)) = readAll s := by
  refine ⟨fun l rest h => Text.removeComments_line h rest, ?_, readAll_removeComments s⟩
  rw [read, read, String.toList_ofList, readChars_removeComments]

/-- A text literal with a `;` in it, on a line of its own: the comment cut takes the rest of the
line. -/
theorem removeComments_literal_line :
    '\n' ∉ "(f \"a;b\")".toList ∧
      Text.removeComments ("(f \"a;b\")".toList ++ '\n' :: "x".toList) =
        "(f \"a".toList ++ '\n' :: "x".toList :=
  ⟨by decide, (read_removeComments "").1 _ _ (by decide)⟩

/-- A `;` inside a text literal does not stay in the text: the literal `"a;b"` on a line of its
own is cut to `"a` and reads as an unclosed literal. -/
theorem read_semicolon_in_literal : read "\"a;b\"\n" = .error .unclosedText := by
  rw [read, readChars]
  rfl

end Reader

end TinyLisp
