import TinyLisp.Proofs.Scan

/-!
# Comparing the paren scan over two texts
-/

namespace TinyLisp

namespace Split

namespace Scan

/-- Whether the quotes the scan takes in a text, after `p`, flip its literal state an odd
number of times. -/
def flips (p : Char) : List Char → Bool
  | [] => false
  | c :: cs => (p != '\\' && c == '"') ^^ flips c cs

theorem pass_inText {p : Char} {d : Nat} {m : Bool} {cs : List Char} {s : Scan}
    (h : (Scan.mk p d m).pass cs = some s) : s.inText = (m ^^ flips p cs) := by
  induction cs generalizing p d m with
  | nil =>
    simp only [pass, Option.some.injEq] at h
    subst h
    simp [flips]
  | cons c cs ih =>
    simp only [pass] at h
    split at h
    · cases h
    · rw [ih h]
      by_cases hq : (p != '\\' && c == '"') = true <;> simp [flips, hq]

theorem flips_cons_of_ne_quote {p c : Char} (hc : c ≠ '"') (cs : List Char) :
    flips p (c :: cs) = flips c cs := by
  rw [flips, beq_false_of_ne hc, Bool.and_false, Bool.false_xor]

theorem flips_prev_congr {p p' : Char} (hp : p ≠ '\\') (hp' : p' ≠ '\\') (cs : List Char) :
    flips p cs = flips p' cs := by
  cases cs with
  | nil => rfl
  | cons c cs => rw [flips, flips, bne_iff_ne.mpr hp, bne_iff_ne.mpr hp']

theorem flips_append_of_quote_not_mem {pre : List Char} (h : '"' ∉ pre) (p : Char)
    (cs : List Char) : flips p (pre ++ cs) = flips ((p :: pre).getLast (List.cons_ne_nil _ _)) cs := by
  induction pre generalizing p with
  | nil => rfl
  | cons c pre ih =>
    have hc : c ≠ '"' := fun e => h (e ▸ List.mem_cons_self)
    rw [List.cons_append, flips_cons_of_ne_quote hc, ih (fun e => h (List.mem_cons_of_mem _ e)),
      List.getLast_cons_cons]

theorem flips_closing {q : Char} {u : List Char} (h : quotesEscaped q u = true) :
    flips q (u ++ ['"']) = (u.getLast?.getD q != '\\') := by
  induction u generalizing q with
  | nil => simp [flips]
  | cons c u ih =>
    simp only [quotesEscaped, Bool.and_eq_true, Bool.or_eq_true, bne_iff_ne, ne_eq,
      beq_iff_eq] at h
    have hflip : (q != '\\' && c == '"') = false := by
      rcases h.1 with hc | hq
      · simp [hc]
      · simp [hq]
    rw [List.cons_append, flips, hflip, Bool.false_xor, ih h.2, List.getLast?_cons]
    rfl

theorem pass_prev {p : Char} {d : Nat} {m : Bool} {cs : List Char} {s : Scan}
    (h : (Scan.mk p d m).pass cs = some s) : (p :: cs).getLast? = some s.prev := by
  induction cs generalizing p d m with
  | nil =>
    simp only [pass, Option.some.injEq] at h
    subst h
    rfl
  | cons c cs ih =>
    simp only [pass] at h
    split at h
    · cases h
    · rw [getLast?_cons_of_ne_nil (List.cons_ne_nil c cs)]
      exact ih h

theorem pass_depth_ne_zero {p : Char} {d : Nat} {m : Bool} {cs : List Char} {s : Scan}
    (h : (Scan.mk p d m).pass cs = some s) (hd : d ≠ 0) : s.depth ≠ 0 := by
  induction cs generalizing p d m with
  | nil =>
    simp only [pass, Option.some.injEq] at h
    subst h
    exact hd
  | cons c cs ih =>
    simp only [pass] at h
    split at h
    · cases h
    · rename_i hne
      exact ih h hne

theorem next_prev_congr {p p' c : Char} (h : c = '"' → (p != '\\') = (p' != '\\')) (d : Nat)
    (m : Bool) : (Scan.mk p d m).next c = (Scan.mk p' d m).next c := by
  by_cases hc : c = '"'
  · simp [next, h hc]
  · simp [next, hc]

theorem pass_prev_congr {p p' : Char} {cs : List Char} (hne : cs ≠ [])
    (h : cs.head? = some '"' → (p != '\\') = (p' != '\\')) (d : Nat) (m : Bool) :
    (Scan.mk p d m).pass cs = (Scan.mk p' d m).pass cs := by
  obtain ⟨c, cs, rfl⟩ := List.exists_cons_of_ne_nil hne
  have hc : c = '"' → (p != '\\') = (p' != '\\') := fun hc => h (by rw [hc]; rfl)
  simp only [pass, next_prev_congr hc d m]

theorem next_shift {p c : Char} {d : Nat} {m : Bool} (h : ((Scan.mk p d m).next c).depth ≠ 0)
    (k : Nat) : (Scan.mk p (d + k) m).next c =
      ⟨c, ((Scan.mk p d m).next c).depth + k, ((Scan.mk p d m).next c).inText⟩ := by
  simp only [next] at h ⊢
  generalize (if (p != '\\' && c == '"') = true then !m else m) = t at h ⊢
  cases t
  · -- outside a literal only the parentheses move the depth
    by_cases ho : c = '('
    · simp [ho]
      omega
    · by_cases hc : c = ')'
      · simp [hc] at h ⊢
        omega
      · simp [ho, hc]
  · simp

theorem pass_shift {p q : Char} {d e : Nat} {m m' : Bool} {cs : List Char}
    (h : (Scan.mk p d m).pass cs = some ⟨q, e, m'⟩) (k : Nat) :
    (Scan.mk p (d + k) m).pass cs = some ⟨q, e + k, m'⟩ := by
  induction cs generalizing p d m with
  | nil =>
    simp only [pass, Option.some.injEq, Scan.mk.injEq] at h
    obtain ⟨rfl, rfl, rfl⟩ := h
    rfl
  | cons c cs ih =>
    simp only [pass] at h
    split at h
    · cases h
    · rename_i hne
      have hstep := next_shift hne k
      simp only [pass, hstep, Nat.add_eq_zero_iff, hne, false_and, if_false]
      exact ih h

end Scan

theorem blank_plain {c : Char} (h : Text.isBlank c = true) : c ≠ '"' ∧ c ≠ '(' ∧ c ≠ ')' := by
  refine ⟨?_, ?_, ?_⟩ <;> (rintro rfl; revert h; decide)

theorem blank_ne_backslash {c : Char} (h : Text.isBlank c = true) : c ≠ '\\' := by
  rintro rfl
  revert h
  decide

/-- Wherever the paren scan passes over `cs` inside a list, it passes over `ds` too, to the same
depth and literal state. The character before `ds` is never a backslash, and the one before
`cs` is not one when `cs` opens with a double quote. -/
def ScanLE (cs ds : List Char) : Prop :=
  ∀ (p p' : Char) (d : Nat) (m : Bool) (s : Scan), d ≠ 0 → p' ≠ '\\' →
    (cs.head? = some '"' → p ≠ '\\') → (Scan.mk p d m).pass cs = some s →
    ∃ q, (Scan.mk p' d m).pass ds = some ⟨q, s.depth, s.inText⟩

namespace ScanLE

theorem refl (cs : List Char) : ScanLE cs cs := by
  intro p p' d m s _ hp' hp h
  cases cs with
  | nil =>
    simp only [Scan.pass, Option.some.injEq] at h
    subst h
    exact ⟨p', rfl⟩
  | cons c cs =>
    have hcongr : (Scan.mk p d m).pass (c :: cs) = (Scan.mk p' d m).pass (c :: cs) := by
      apply Scan.pass_prev_congr (List.cons_ne_nil c cs)
      intro hc
      rw [bne_iff_ne.mpr (hp hc), bne_iff_ne.mpr hp']
    exact ⟨s.prev, by rw [← hcongr, h]⟩

theorem trans {cs ds es : List Char} (h₁ : ScanLE cs ds) (h₂ : ScanLE ds es) : ScanLE cs es := by
  intro p p' d m s hd hp' hp h
  obtain ⟨q, hq⟩ := h₁ p p' d m s hd hp' hp h
  exact h₂ p' p' d m ⟨q, s.depth, s.inText⟩ hd hp' (fun _ => hp') hq

theorem blank_left {b cs ds : List Char} (hb : ∀ c ∈ b, Text.isBlank c = true)
    (h : ScanLE cs ds) : ScanLE (b ++ cs) ds := by
  intro p p' d m s hd hp' hp hpass
  obtain ⟨q, hq⟩ := Scan.pass_plain (fun c hc => blank_plain (hb c hc)) hd p m
  rw [Scan.pass_append, hq, Option.bind_some] at hpass
  refine h q p' d m s hd hp' ?_ hpass
  intro hhead
  have hlast := Scan.pass_prev hq
  cases b with
  | nil =>
    simp only [List.getLast?_singleton, Option.some.injEq] at hlast
    subst hlast
    exact hp (by simpa using hhead)
  | cons c b =>
    rw [getLast?_cons_of_ne_nil (List.cons_ne_nil c b)] at hlast
    exact blank_ne_backslash (hb q (List.mem_of_getLast? hlast))

theorem blank_right {b cs ds : List Char} (hb : ∀ c ∈ b, Text.isBlank c = true)
    (h : ScanLE cs ds) : ScanLE (cs ++ b) ds := by
  intro p p' d m s hd hp' hp hpass
  rw [Scan.pass_append] at hpass
  cases hcs : (Scan.mk p d m).pass cs with
  | none => simp [hcs] at hpass
  | some s₁ =>
    obtain ⟨pr, d₁, m₁⟩ := s₁
    rw [hcs, Option.bind_some] at hpass
    have hd₁ : d₁ ≠ 0 := Scan.pass_depth_ne_zero hcs hd
    obtain ⟨q, hq⟩ := Scan.pass_plain (fun c hc => blank_plain (hb c hc)) hd₁ pr m₁
    rw [hq, Option.some.injEq] at hpass
    subst hpass
    have hhead : cs.head? = some '"' → p ≠ '\\' := fun hh => hp (by simp [List.head?_append, hh])
    exact h p p' d m ⟨pr, d₁, m₁⟩ hd hp' hhead hcs

theorem cons {c : Char} {cs ds : List Char} (hc : c ≠ '"' ∧ c ≠ '(' ∧ c ≠ ')') (hb : c ≠ '\\')
    (h : ScanLE cs ds) : ScanLE (c :: cs) (c :: ds) := by
  intro p p' d m s hd _ _ hpass
  rw [Scan.pass_cons_plain hc.1 hc.2.1 hc.2.2 hd] at hpass ⊢
  exact h c c d m s hd hb (fun _ => hb) hpass

theorem sep {cs ds cs' ds' : List Char} (h₁ : ScanLE cs ds) (h₂ : ScanLE cs' ds') (hne : cs ≠ [])
    (hb : cs'.head? = some '"' → cs.getLast? ≠ some '\\') :
    ScanLE (cs ++ cs') (ds ++ ' ' :: ds') := by
  intro p p' d m s hd hp' hp hpass
  rw [Scan.pass_append] at hpass
  cases hcs : (Scan.mk p d m).pass cs with
  | none => simp [hcs] at hpass
  | some s₁ =>
    obtain ⟨pr, d₁, m₁⟩ := s₁
    rw [hcs, Option.bind_some] at hpass
    have hd₁ : d₁ ≠ 0 := Scan.pass_depth_ne_zero hcs hd
    have hhead : cs.head? = some '"' → p ≠ '\\' := fun hh => hp (by simp [List.head?_append, hh])
    obtain ⟨q, hq⟩ := h₁ p p' d m _ hd hp' hhead hcs
    have hlast : cs.getLast? = some pr := by
      have := Scan.pass_prev hcs
      rwa [getLast?_cons_of_ne_nil hne] at this
    have hpr : cs'.head? = some '"' → pr ≠ '\\' := by
      intro hh e
      exact hb hh (by rw [hlast, e])
    obtain ⟨q', hq'⟩ := h₂ pr ' ' d₁ m₁ s hd₁ (by decide) hpr hpass
    refine ⟨q', ?_⟩
    rw [Scan.pass_append, hq, Option.bind_some,
      Scan.pass_cons_plain (by decide) (by decide) (by decide) hd₁]
    exact hq'

theorem plain {cs ds : List Char} (hcs : ∀ c ∈ cs, c ≠ '"' ∧ c ≠ '(' ∧ c ≠ ')')
    (hds : ∀ c ∈ ds, c ≠ '"' ∧ c ≠ '(' ∧ c ≠ ')') : ScanLE cs ds := by
  intro p p' d m s hd _ _ hpass
  obtain ⟨q, hq⟩ := Scan.pass_plain hcs hd p m
  rw [hq, Option.some.injEq] at hpass
  subst hpass
  exact Scan.pass_plain hds hd p' m

theorem next_open (p : Char) (d : Nat) (m : Bool) :
    (Scan.mk p d m).next '(' = ⟨'(', if m then d else d + 1, m⟩ := by
  cases m <;> simp [Scan.next]

theorem paren {cs ds : List Char} (h : ScanLE cs ds) :
    ScanLE ('(' :: cs ++ [')']) ('(' :: ds ++ [')']) := by
  intro p p' d m s hd _ _ hpass
  have hne : (if m then d else d + 1) ≠ 0 := by split <;> omega
  simp only [List.cons_append, Scan.pass, next_open, hne, if_false] at hpass ⊢
  rw [Scan.pass_append] at hpass ⊢
  cases hcs : (Scan.mk '(' (if m then d else d + 1) m).pass cs with
  | none => simp [hcs] at hpass
  | some s₁ =>
    obtain ⟨pr, d₁, m₁⟩ := s₁
    rw [hcs, Option.bind_some] at hpass
    obtain ⟨q, hq⟩ := h '(' '(' _ m _ hne (by decide) (fun _ => by decide) hcs
    rw [hq, Option.bind_some]
    have hclose : (Scan.mk q d₁ m₁).next ')' = (Scan.mk pr d₁ m₁).next ')' :=
      Scan.next_prev_congr (by intro h; cases h) d₁ m₁
    simp only [Scan.pass] at hpass ⊢
    rw [hclose]
    split at hpass
    · cases hpass
    · rename_i hz
      simp only [hz, if_false]
      simp only [Option.some.injEq] at hpass
      subst hpass
      exact ⟨')', rfl⟩

end ScanLE

/-- A list printed in full as `(quote x)`, or with the quote mark as `'x`: where the scan closes
the long form, it passes the short one alike. The long form's own scan comes back out of every
literal it enters, so its closing parenthesis counts exactly when its opening one does. -/
theorem scanLE_quoteForm {pre xs : List Char} {q : Char}
    (hpre : ∀ c ∈ pre, c ≠ '"' ∧ c ≠ '(' ∧ c ≠ ')') (hlast : pre.getLast? ≠ some '\\')
    (hown : (Scan.mk '(' 1 false).pass (pre ++ xs) = some ⟨q, 1, false⟩) :
    ScanLE ('(' :: pre ++ xs ++ [')']) ('\'' :: xs) := by
  intro p p' d m s hd _ _ hpass
  obtain ⟨r, hr⟩ := Scan.pass_plain hpre Nat.one_ne_zero '(' false
  rw [Scan.pass_append, hr, Option.bind_some] at hown
  have hr' : r ≠ '\\' := by
    have := Scan.pass_prev hr
    intro e
    subst e
    cases pre with
    | nil => simp at this
    | cons c pre => exact hlast (by rwa [getLast?_cons_of_ne_nil (List.cons_ne_nil c pre)] at this)
  have hflips : Scan.flips r xs = false := by
    have := Scan.pass_inText hown
    simpa using this.symm
  have hquote : (Scan.mk p' d m).pass ('\'' :: xs) = (Scan.mk '\'' d m).pass xs :=
    Scan.pass_cons_plain (by decide) (by decide) (by decide) hd m xs
  have hne : (if m then d else d + 1) ≠ 0 := by split <;> omega
  simp only [List.cons_append, Scan.pass, ScanLE.next_open, hne, if_false,
    List.append_assoc] at hpass
  rw [hquote]
  obtain ⟨r₂, hr₂⟩ := Scan.pass_plain hpre hne '(' m
  rw [Scan.pass_append, hr₂, Option.bind_some, Scan.pass_append] at hpass
  have hr₂' : r = r₂ := by
    have h₁ := Scan.pass_prev hr
    have h₂ := Scan.pass_prev hr₂
    rw [h₁] at h₂
    exact Option.some.inj h₂
  subst hr₂'
  cases m with
  | false =>
    -- outside a literal the long form opens one level and closes it again
    have hxs := Scan.pass_shift hown d
    rw [Nat.add_comm 1 d] at hxs
    simp only [Bool.false_eq_true, if_false] at hpass
    rw [hxs, Option.bind_some] at hpass
    have hc : (Scan.mk q (d + 1) false).next ')' = ⟨')', d, false⟩ := by simp [Scan.next]
    simp only [Scan.pass, hc, hd, if_false, Option.some.injEq] at hpass
    subst hpass
    have hxs' := Scan.pass_shift hown (d - 1)
    rw [show 1 + (d - 1) = d by omega] at hxs'
    exact ScanLE.refl xs r '\'' d false ⟨q, d, false⟩ hd (by decide) (fun _ => hr') hxs'
  | true =>
    -- inside a literal neither parenthesis counts, and the text comes back inside it
    simp only [if_true] at hpass
    cases hx : (Scan.mk r d true).pass xs with
    | none => simp [hx] at hpass
    | some sx =>
      obtain ⟨qx, dx, mx⟩ := sx
      rw [hx, Option.bind_some] at hpass
      have hmx : mx = true := by simpa [hflips] using Scan.pass_inText hx
      subst hmx
      have hc : (Scan.mk qx dx true).next ')' = ⟨')', dx, true⟩ := by simp [Scan.next]
      have hdx : dx ≠ 0 := Scan.pass_depth_ne_zero hx hd
      simp only [Scan.pass, hc, hdx, if_false, Option.some.injEq] at hpass
      subst hpass
      exact ScanLE.refl xs r '\'' d true ⟨qx, dx, true⟩ hd (by decide) (fun _ => hr') hx



end Split

end TinyLisp
