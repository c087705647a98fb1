import TinyLisp.Proofs.ReadByFuel
import TinyLisp.Proofs.Failures

/-!
# The reader ends on every text
-/

namespace TinyLisp

namespace Split

/-- The loop of the scan for a matching parenthesis with no bound on its turns:
`ScanRun s start pos depth inText r` says that the loop, having last looked at `pos` with `depth`
parentheses open and the literal state `inText`, stops with `r`. A turn looks at the next
position. At the end of the text the loop stops with an incomplete expression; where the depth
falls to zero it stops at that position; otherwise it turns again from there. -/
inductive ScanRun (s : Array Char) (start : Int) : Int → Nat → Bool → Except Fault Int → Prop
  | atEnd {pos : Int} {depth : Nat} {inText : Bool} :
      pos + 1 = s.size →
      ScanRun s start pos depth inText (.error (.incomplete (String.ofList (suffixFrom s start))))
  | closes {pos : Int} {depth : Nat} {inText t : Bool} :
      pos + 1 ≠ s.size → scanStep s (pos + 1) depth inText = (0, t) →
      ScanRun s start pos depth inText (.ok (pos + 1))
  | turn {pos : Int} {depth d : Nat} {inText t : Bool} {r : Except Fault Int} :
      pos + 1 ≠ s.size → scanStep s (pos + 1) depth inText = (d + 1, t) →
      ScanRun s start (pos + 1) (d + 1) t r → ScanRun s start pos depth inText r

section ScanLoop

variable {s : Array Char} {start : Int}

theorem scanRun_scanParens (fuel : Nat) {pos : Int} (depth : Nat) (inText : Bool)
    (hlt : pos < s.size) (hle : s.size ≤ pos + fuel) :
    ScanRun s start pos depth inText (scanParens s start fuel pos depth inText) := by
  induction fuel generalizing pos depth inText with
  | zero => omega
  | succ fuel ih =>
    rw [scanParens]
    by_cases hend : pos + 1 = s.size
    · rw [if_pos hend]
      exact .atEnd hend
    · rw [if_neg hend]
      rcases hs : scanStep s (pos + 1) depth inText with ⟨_ | d, t⟩
      · exact .closes hend hs
      · exact .turn hend hs (ih (d + 1) t (by omega) (by omega))

theorem ScanRun.scanParens_eq {pos : Int} {depth : Nat} {inText : Bool} {r : Except Fault Int}
    (h : ScanRun s start pos depth inText r) {fuel : Nat} (hlt : pos < s.size)
    (hle : s.size ≤ pos + fuel) : scanParens s start fuel pos depth inText = r := by
  obtain ⟨k, rfl⟩ : ∃ k, fuel = k + 1 := Nat.exists_eq_add_one.2 (by omega)
  induction h generalizing k with
  | atEnd hend => rw [scanParens, if_pos hend]
  | closes hend hs => rw [scanParens, if_neg hend, hs]
  | turn hend hs _ ih =>
    rw [scanParens, if_neg hend, hs]
    -- the next position is before the end too, so a turn is left for it
    obtain ⟨j, rfl⟩ : ∃ j, k = j + 1 := Nat.exists_eq_add_one.2 (by omega)
    exact ih (by omega) j (by omega)

theorem ScanRun.lt_of_ok {pos p : Int} {depth : Nat} {inText : Bool}
    (h : ScanRun s start pos depth inText (.ok p)) (hlt : pos < s.size) : pos < p ∧ p < s.size := by
  generalize hr : (Except.ok p : Except Fault Int) = r at h
  induction h with
  | atEnd => cases hr
  | closes hend =>
    cases hr
    omega
  | turn hend _ _ ih =>
    have := ih (by omega) hr
    omega

end ScanLoop

theorem charAt?_bounds {s : Array Char} {i : Int} {c : Char} (h : charAt? s i = some c) :
    -(s.size : Int) ≤ i ∧ i < s.size := by
  unfold charAt? at h
  split at h
  · have := (Array.getElem?_eq_some_iff.1 h).1
    omega
  · obtain ⟨-, hi⟩ := Option.filter_eq_some_iff.1 h
    simp only [decide_eq_true_eq] at hi
    omega

theorem matchingParen_of_open {cs : List Char} {start : Int} (hlo : -indexBound ≤ start)
    (hhi : start < indexBound) (h : charAt? cs.toArray start = some '(') :
    matchingParen cs start =
      scanParens cs.toArray start (cs.toArray.size - start).toNat start 1 false := by
  have hb : (start < -indexBound || indexBound ≤ start) = false := by
    simp only [Bool.or_eq_false_iff, decide_eq_false_iff_not, Int.not_lt, Int.not_le]
    exact ⟨hlo, hhi⟩
  simp only [matchingParen, hb, Bool.false_eq_true, if_false, h, bne_self_eq_false]

/-- From a machine-sized start at an opening parenthesis, negative or not, the loop of the scan
has one run, and it ends with `matchingParen`'s answer. -/
theorem matchingParen_iff_scanRun {cs : List Char} {start : Int} (hlo : -indexBound ≤ start)
    (hhi : start < indexBound) (h : charAt? cs.toArray start = some '(') (r : Except Fault Int) :
    matchingParen cs start = r ↔ ScanRun cs.toArray start start 1 false r := by
  have hlt := (charAt?_bounds h).2
  rw [matchingParen_of_open hlo hhi h]
  constructor
  · rintro rfl
    exact scanRun_scanParens _ 1 false hlt (by omega)
  · intro hr
    exact hr.scanParens_eq hlt (by omega)

theorem matchingParen_of_not_open {cs : List Char} {start : Int}
    (h : ¬(-indexBound ≤ start ∧ start < indexBound ∧ charAt? cs.toArray start = some '(')) :
    matchingParen cs start = .error .indexSize ∨
      matchingParen cs start = .error (.indexRange "string") ∨
      matchingParen cs start = .error .assertion := by
  by_cases hb : start < -indexBound ∨ indexBound ≤ start
  · have : (start < -indexBound || indexBound ≤ start) = true := by simpa using hb
    simp [matchingParen, this]
  · have hb' : (start < -indexBound || indexBound ≤ start) = false := by simpa using hb
    rcases hc : charAt? cs.toArray start with _ | c
    · simp [matchingParen, hb', hc]
    · -- a character that is not an opening parenthesis fails the scan's assertion
      have hne : c ≠ '(' := fun e => h ⟨by omega, by omega, e ▸ hc⟩
      simp [matchingParen, hb', hc, hne]

theorem firstExpression_rest_lt {cs e r : List Char} (h : firstExpression cs = .ok (e, r)) :
    r.length < cs.length := by
  obtain ⟨hne, hlen⟩ := firstExpression_length h
  have : e.length ≠ 0 := by simpa using hne
  omega

end Split

/-- A step of a recursion on texts that consults its recursive call only on texts shorter than the
text it is given. -/
def RecursesShorter {α : Type} (step : (List Char → α) → List Char → α) : Prop :=
  ∀ (r₁ r₂ : List Char → α) (cs : List Char),
    (∀ q : List Char, q.length < cs.length → r₁ q = r₂ q) → step r₁ cs = step r₂ cs

namespace Split

theorem firstStep_recursesShorter (paren : List Char → Except Fault Int) :
    RecursesShorter (firstStep paren) :=
  fun _ _ _ h => firstStep_congr h

theorem splitStep_recursesShorter : RecursesShorter (splitStep firstExpression) :=
  fun _ _ _ h => splitStep_congr fun _ r he => h r (firstExpression_rest_lt he)

end Split

namespace Reader

theorem readStep_recursesShorter (paren : List Char → Except Fault Int) :
    RecursesShorter (readStep paren Split.splitExpressions) :=
  fun _ _ _ h => readStep_congr h

theorem ne_outOfFuel_of_outcome {α : Type} {Q : α → Prop} {x : Except Fault α}
    (hx : Outcome (·.ofReader) Q x) : x ≠ .error .outOfFuel := by
  intro h
  have := hx.of_error h
  exact absurd this (by decide)

/-- The reader's loops and recursions end on every text. The scan for a matching parenthesis,
from every machine-sized start at an opening parenthesis, negative ones included, is a loop with
a finished run that ends with its answer, and only that one; the answer, when it is a position,
lies after the start and before the end. From any other start it fails at once, before the loop.
Cutting an expression takes at least one character.
Cutting the first expression, cutting a text into expressions and reading an expression each call
themselves only on shorter texts, and run with more levels of nested calls than their text has
characters they do not run out and give the reader's answer; so does reading every expression of
a source text. -/
theorem reading_terminates :
    (∀ (cs : List Char) (start : Int),
      ((-Split.indexBound ≤ start ∧ start < Split.indexBound ∧
          Split.charAt? cs.toArray start = some '(') →
        (∀ r, Split.matchingParen cs start = r ↔ Split.ScanRun cs.toArray start start 1 false r) ∧
        ∀ p, Split.matchingParen cs start = .ok p → start < p ∧ p < cs.length) ∧
      (¬(-Split.indexBound ≤ start ∧ start < Split.indexBound ∧
          Split.charAt? cs.toArray start = some '(') →
        Split.matchingParen cs start = .error .indexSize ∨
          Split.matchingParen cs start = .error (.indexRange "string") ∨
          Split.matchingParen cs start = .error .assertion)) ∧
    (∀ cs e r : List Char, Split.firstExpression cs = .ok (e, r) → r.length < cs.length) ∧
    (Split.firstExpression = Split.firstStep (Split.matchingParen · 0) Split.firstExpression ∧
      RecursesShorter (Split.firstStep (Split.matchingParen · 0))) ∧
    (Split.splitFrom = Split.splitStep Split.firstExpression Split.splitFrom ∧
      RecursesShorter (Split.splitStep Split.firstExpression)) ∧
    (readChars = readStep (Split.matchingParen · 0) Split.splitExpressions readChars ∧
      RecursesShorter (readStep (Split.matchingParen · 0) Split.splitExpressions)) ∧
    (∀ (n : Nat) (cs : List Char), cs.length < n →
      Split.firstByFuel n cs = Split.firstExpression cs ∧
        Split.firstExpression cs ≠ .error .outOfFuel) ∧
    (∀ (n : Nat) (rest : List Char), rest.length < n →
      Split.splitByFuel n rest = Split.splitFrom rest ∧ Split.splitFrom rest ≠ .error .outOfFuel) ∧
    (∀ (n : Nat) (src : List Char), src.length < n →
      readByFuel n src = readChars src ∧ readChars src ≠ .error .outOfFuel) ∧
    (∀ src : String, readAll src = readAllByFuel src.toList ∧ readAll src ≠ .error .outOfFuel) := by
  refine ⟨fun cs start => ⟨fun hg => ⟨Split.matchingParen_iff_scanRun hg.1 hg.2.1 hg.2.2,
      fun p hp => ?_⟩, Split.matchingParen_of_not_open⟩,
    fun _ _ _ => Split.firstExpression_rest_lt,
    ⟨funext Split.firstExpression_eq_step, Split.firstStep_recursesShorter _⟩,
    ⟨funext Split.splitFrom_eq_step, Split.splitStep_recursesShorter⟩,
    ⟨funext readChars_eq_step, readStep_recursesShorter _⟩,
    fun n cs hn => ⟨Split.firstByFuel_eq n cs hn,
      ne_outOfFuel_of_outcome (Split.firstExpression_outcome cs)⟩,
    fun n rest hn => ⟨Split.splitByFuel_eq n rest hn,
      ne_outOfFuel_of_outcome (Split.splitFrom_outcome rest)⟩,
    fun n src hn => ⟨readByFuel_eq n src hn, ne_outOfFuel_of_outcome (readChars_outcome src)⟩,
    fun src => ⟨readAll_eq_byFuel src, ne_outOfFuel_of_outcome (readAll_outcome src)⟩⟩
  obtain ⟨hlo, hhi, h⟩ := hg
  have hrun := (Split.matchingParen_iff_scanRun hlo hhi h _).1 hp
  simpa using hrun.lt_of_ok (Split.charAt?_bounds h).2

/-- From the third character from the end of `(a)`, its opening parenthesis, the scan closes at
the last character. -/
theorem reading_terminates_negative_start :
    Split.charAt? "(a)".toList.toArray (-3) = some '(' ∧
      Split.ScanRun "(a)".toList.toArray (-3) (-3) 1 false (.ok (-1)) :=
  ⟨by decide, (((reading_terminates.1 "(a)".toList (-3)).1
    ⟨by decide, by decide, by decide⟩).1 (.ok (-1))).1 (by rfl)⟩

end Reader

end TinyLisp
