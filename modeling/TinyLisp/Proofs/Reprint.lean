import Mathlib.Algebra.Group.Nat.Defs
import TinyLisp.Proofs.Cutting

/-!
# Reading, printing and reading again
-/

namespace TinyLisp

namespace Text

theorem digitValue?_lt {c : Char} {v : Nat} (h : digitValue? c = some v) : v < 10 := by
  unfold digitValue? at h
  obtain ⟨z, hz, rfl⟩ := Option.map_eq_some_iff.1 h
  have hrange := List.find?_some hz
  simp only [Bool.and_eq_true, decide_eq_true_eq] at hrange
  omega

theorem isDigit_plain {c : Char} (h : isDigit c = true) : c ≠ '"' ∧ c ≠ '(' ∧ c ≠ ')' := by
  refine ⟨?_, ?_, ?_⟩ <;> (rintro rfl; revert h; decide)

end Text

namespace Decimal

theorem digitsValue_lt (ds : List Char) : digitsValue ds < 10 ^ ds.length := by
  suffices h : ∀ acc, ds.foldl (fun acc c => 10 * acc + (Text.digitValue? c).getD 0) acc <
      (acc + 1) * 10 ^ ds.length by
    simpa [digitsValue] using h 0
  induction ds with
  | nil => intro acc; simp
  | cons c ds ih =>
    intro acc
    have hd : (Text.digitValue? c).getD 0 < 10 := by
      cases h : Text.digitValue? c with
      | none => simp
      | some v => exact Text.digitValue?_lt h
    have hstep : 10 * acc + (Text.digitValue? c).getD 0 + 1 ≤ 10 * (acc + 1) := by omega
    rw [List.foldl_cons, List.length_cons]
    calc _ < (10 * acc + (Text.digitValue? c).getD 0 + 1) * 10 ^ ds.length := ih _
      _ ≤ 10 * (acc + 1) * 10 ^ ds.length := Nat.mul_le_mul_right _ hstep
      _ = (acc + 1) * 10 ^ (ds.length + 1) := by
        rw [Nat.pow_succ, Nat.mul_comm (10 ^ ds.length) 10, ← Nat.mul_assoc,
          Nat.mul_comm 10 (acc + 1)]

theorem hasText_digitsValue {ds : List Char} (h : ds.length ≤ maxDigits) :
    hasText (digitsValue ds) = true := by
  have hle : 10 ^ ds.length ≤ limit := Nat.pow_le_pow_right (by decide) h
  exact decide_eq_true (Nat.lt_of_lt_of_le (digitsValue_lt ds) hle)

end Decimal

theorem AtomSafe.not_mark {c : Char} (h : AtomSafe c) : Text.isMark c = false := by
  obtain ⟨hb, hc⟩ := h
  simp only [List.mem_cons, List.not_mem_nil, or_false, not_or] at hc
  have hn : c ≠ '\n' := by
    rintro rfl
    exact absurd hb (by decide)
  simp [Text.isMark, hc.2.2.2.1, hc.2.2.2.2.1, hn]

namespace Value

open Split

theorem sourceChars_bool (b : Bool) :
    (Value.bool b).sourceChars = ['#', if b then 't' else 'f'] := by
  cases b <;> rfl

mutual

/-- Every list headed by `quote` has exactly one item after it: the values whose source text
printing does not fail on a `quote`. -/
def QuoteForms : Value → Prop
  | .list [.sym "quote", v] => QuoteForms v
  | .list (.sym "quote" :: _) => False
  | .list xs => QuoteFormsItems xs
  | _ => True

def QuoteFormsItems : List Value → Prop
  | [] => True
  | x :: xs => QuoteForms x ∧ QuoteFormsItems xs

end

theorem quoteForms_quote (v : Value) : QuoteForms (.list [.sym "quote", v]) ↔ QuoteForms v := by
  rw [QuoteForms]

theorem quoteForms_list {xs : List Value} (h : xs.head? ≠ some (.sym "quote")) :
    QuoteForms (.list xs) ↔ QuoteFormsItems xs := by
  rw [QuoteForms]
  · rintro v rfl
    simp at h
  · rintro tail rfl
    simp at h

theorem quoteForms_cases {xs : List Value} (h : QuoteForms (.list xs)) :
    (∃ x, xs = [.sym "quote", x] ∧ QuoteForms x) ∨
      (xs.head? ≠ some (.sym "quote") ∧ QuoteFormsItems xs) := by
  by_cases hq : xs.head? = some (.sym "quote")
  · left
    match xs, hq, h with
    | [_, x], hq, h =>
      simp only [List.head?_cons, Option.some.injEq] at hq
      subst hq
      exact ⟨x, rfl, (quoteForms_quote x).1 h⟩
    | [], hq, _ => simp at hq
    | [_], hq, h | _ :: _ :: _ :: _, hq, h =>
      simp only [List.head?_cons, Option.some.injEq] at hq
      subst hq
      simp [QuoteForms] at h
  · exact .inr ⟨hq, (quoteForms_list hq).1 h⟩

theorem QuoteForms.items {xs : List Value} (h : QuoteForms (.list xs)) : QuoteFormsItems xs := by
  rcases quoteForms_cases h with ⟨x, rfl, hx⟩ | ⟨_, hxs⟩
  · exact ⟨trivial, hx, trivial⟩
  · exact hxs

/-- A text that ends in a backslash, alone or behind quote marks. Printed inside a list, such a
text swallows a double quote that follows it. -/
def EndsInBackslash : Value → Prop
  | .str (.text t) => t.toList.getLast? = some '\\'
  | .list [.sym "quote", v] => EndsInBackslash v
  | _ => False

theorem endsInBackslash_quote (v : Value) :
    EndsInBackslash (.list [.sym "quote", v]) ↔ EndsInBackslash v := by
  rw [EndsInBackslash]

theorem not_endsInBackslash_list {xs : List Value} (h : xs.head? ≠ some (.sym "quote")) :
    ¬EndsInBackslash (.list xs) := by
  rw [EndsInBackslash.eq_3 _ (fun _ e => by cases e) (fun v e => h (by cases e; rfl))]
  exact id

/-- The source text of `a` is cut whole from blanks, it, and a blank and more or nothing. A text
ending in a backslash is cut so only when no double quote follows. -/
def Cuts (a : Value) : Prop :=
  ∀ b r, Surround b r → (EndsInBackslash a → '"' ∉ r) →
    firstExpression (b ++ a.sourceChars ++ r) = .ok (a.sourceChars, r)

/-- What holds of a value's source text wherever the value was read from: it can be printed,
reads back, is trimmed, and if the value ends in a backslash its double quotes leave the paren
scan inside a literal. -/
structure Reprinted (a : Value) : Prop where
  source : HasSource a
  reads : Reader.readChars a.sourceChars = .ok a
  trimmed : Text.Trimmed a.sourceChars
  flips : EndsInBackslash a → Scan.flips ' ' a.sourceChars = true

/-- What the induction over reading carries for a value `a` read from a text whose trimmed,
comment-free form is `code`: besides `Reprinted a`, how the printed text compares with `code`. -/
structure Reprints (code : List Char) (a : Value) : Prop extends Reprinted a where
  nonempty : code ≠ [] → a.sourceChars ≠ []
  marks : List.Sublist (a.sourceChars.filter Text.isMark) code
  scan : ScanLE code a.sourceChars
  rest : EndsInBackslash a → ∀ r, (∀ c ∈ r.getLast?, Text.isBlank c = false) →
    firstExpression (code ++ r) = .ok (code, r) → '"' ∉ r
  cut : firstExpression code = .ok (code, []) → Cuts a

/-- What the induction carries for the items read from the text `rest` of a list's inside. -/
structure ReprintsAll (rest : List Char) (items : List Value) : Prop where
  each : ∀ x ∈ items, Reprinted x ∧ x.sourceChars ≠ [] ∧ Cuts x
  empty : items = [] → rest = []
  marks : List.Sublist ((itemsChars items).filter Text.isMark) rest
  scan : ScanLE rest (itemsChars items)
  trimmed : Text.Trimmed (itemsChars items)
  split : items ≠ [] → ∀ b, (∀ c ∈ b, Text.isBlank c = true) →
    splitFrom (b ++ itemsChars items) = .ok (items.map sourceChars)

section Rules

/-! One lemma for each rule of the reader: the value the rule returns carries `Reprints`, given
that what it read carries it. -/

variable {src : List Char}

theorem sublist_wrap {xs J : List Char} (h : List.Sublist xs J) :
    List.Sublist xs ('(' :: J ++ [')']) :=
  h.trans ((List.sublist_append_left J [')']).trans (List.sublist_cons_self _ _))

theorem ReprintsAll.itemsChars_ne_nil {rest : List Char} {items : List Value}
    (h : ReprintsAll rest items) (hne : items ≠ []) : itemsChars items ≠ [] :=
  itemsChars_of_sep (P := fun cs => cs ≠ []) (fun _ _ _ _ => by simp)
    (fun x hx => (h.each x hx).2.1) hne

theorem Reprints.of_self {code : List Char} {a : Value} (hp : a.sourceChars = code)
    (h : Reprinted a)
    (hrest : EndsInBackslash a → ∀ r, (∀ c ∈ r.getLast?, Text.isBlank c = false) →
      firstExpression (code ++ r) = .ok (code, r) → '"' ∉ r)
    (hcut : firstExpression code = .ok (code, []) → Cuts a) : Reprints code a where
  toReprinted := h
  nonempty := by rw [hp]; exact id
  marks := by rw [hp]; exact List.filter_sublist
  scan := by rw [hp]; exact ScanLE.refl code
  rest := hrest
  cut := hcut

theorem strip_removeComments_code {code : List Char}
    (hq : Text.strip (Text.removeComments src) = code) :
    Text.strip (Text.removeComments code) = code := by
  rw [← hq]
  exact Text.strip_removeComments_idem src

theorem Reprints.bool (b : Bool)
    (hq : Text.strip (Text.removeComments src) = ['#', if b then 't' else 'f']) :
    Reprints (Text.strip (Text.removeComments src)) (.bool b) := by
  have hread : Reader.readChars ['#', if b then 't' else 'f'] = .ok (.bool b) := by
    rw [Reader.readChars_bool (strip_removeComments_code hq)]
    cases b <;> rfl
  have ht : Text.Trimmed ['#', if b then 't' else 'f'] := hq ▸ Text.trimmed_strip _
  rw [hq]
  refine Reprints.of_self (sourceChars_bool b)
    ⟨trivial, by rw [sourceChars_bool]; exact hread, by rw [sourceChars_bool]; exact ht, nofun⟩
    nofun fun _ _ _ hs _ => ?_
  exact Printable.firstExpression (v := .bool b) trivial trivial hs

theorem Reprints.int {code : List Char} (hq : Text.strip (Text.removeComments src) = code)
    (hd : (!code.isEmpty && code.all Text.isDigit) = true) (hl : code.length ≤ maxDigits) :
    Reprints (Text.strip (Text.removeComments src)) (.int (Decimal.digitsValue code)) := by
  have hv : Printable (.int (Decimal.digitsValue code : Int)) :=
    ⟨Int.natCast_nonneg _, Decimal.hasText_digitsValue hl⟩
  have hsafe := sourceChars_int_atomSafe hv.1
  have hdig : ∀ c ∈ code, Text.isDigit c = true := by
    simp only [Bool.and_eq_true, List.all_eq_true] at hd
    exact hd.2
  have hmarks : (Value.int (Decimal.digitsValue code)).sourceChars.filter Text.isMark = [] :=
    List.filter_eq_nil_iff.2 fun c hc => by simp [(hsafe.2 c hc).not_mark]
  rw [hq]
  refine ⟨⟨hv.hasSource, hv.readChars (show TextsClosed true _ from trivial), trimmed_of_atomSafe hsafe.2,
    nofun⟩, fun _ => hsafe.1, ?_, ?_, nofun, fun _ _ _ hs _ => hv.firstExpression trivial hs⟩
  · rw [hmarks]
    exact List.nil_sublist code
  · exact ScanLE.plain (fun c hc => Text.isDigit_plain (hdig c hc))
      (fun c hc => (hsafe.2 c hc).plain)

theorem Reprints.text {code : List Char} (hq : Text.strip (Text.removeComments src) = code)
    (hh : code.head? = some '"') (hn : textLiteralEnd code = some code.length) :
    Reprints (Text.strip (Text.removeComments src))
      (.str (.text (String.ofList (Reader.inner code)))) := by
  have hread := Reader.readChars_text (strip_removeComments_code hq) hh hn
  obtain ⟨u, rfl, hu⟩ := textLiteralEnd_whole hh hn
  rw [Reader.inner_wrap] at hread ⊢
  have hp : (Value.str (.text (String.ofList u))).sourceChars = '"' :: u ++ ['"'] := by
    simp [sourceChars]
  have hend : EndsInBackslash (.str (.text (String.ofList u))) ↔ u.getLast? = some '\\' := by
    simp [EndsInBackslash]
  rw [hq]
  refine Reprints.of_self hp ⟨trivial, by rw [hp]; exact hread, by
    rw [hp]; exact Text.trimmed_wrap (by decide) (by decide) u, fun he => ?_⟩
    (fun he r hr h => literal_rest hr h (hend.1 he))
    (fun _ b r hs hl => by rw [hp]; exact firstExpression_literal hu hs fun he => hl (hend.2 he))
  -- the opening quote flips the scan into a literal, and the closing one, after a backslash,
  -- leaves it there
  rw [hp, List.cons_append, Scan.flips, Scan.flips_closing hu, hend.1 he]
  rfl

theorem Reprints.nil (hq : Text.strip (Text.removeComments src) = ['(', ')']) :
    Reprints (Text.strip (Text.removeComments src)) (.list []) := by
  have hp : (Value.list []).sourceChars = ['(', ')'] := rfl
  rw [hq]
  refine Reprints.of_self hp ⟨(hasSource_list (by simp)).2 trivial,
    by rw [hp]; exact Reader.readChars_nil (by decide),
    by rw [hp]; exact Text.trimmed_wrap (o := '(') (e := ')') (by decide) (by decide) [],
    fun he => absurd he (not_endsInBackslash_list (by simp))⟩
    (fun he => absurd he (not_endsInBackslash_list (by simp))) fun _ b r hs _ => ?_
  rw [hp]
  exact firstExpression_wrap (I := []) rfl hs

theorem Reprints.sym {code : List Char} (hq : Text.strip (Text.removeComments src) = code)
    (hquote : ∀ c rest, code ≠ '\'' :: c :: rest) (hb : ∀ c, code ≠ ['#', c])
    (hd : (!code.isEmpty && code.all Text.isDigit) = false) (hh : code.head? ≠ some '"')
    (hn : code ≠ ['(', ')']) (hpar : ¬(code.head? = some '(' ∧ 1 < code.length)) :
    Reprints (Text.strip (Text.removeComments src)) (.sym (String.ofList code)) := by
  have hp : (Value.sym (String.ofList code)).sourceChars = code := by simp [sourceChars]
  have ht : Text.Trimmed code := hq ▸ Text.trimmed_strip _
  rw [hq]
  refine Reprints.of_self hp ⟨trivial, by
    rw [hp]; exact Reader.readChars_sym (strip_removeComments_code hq) hquote hb hd hh hn hpar,
    by rw [hp]; exact ht, nofun⟩ nofun fun hs b r hsr _ => ?_
  -- a name that is cut whole on its own is an atom, and an atom is cut whole before a blank
  have hall := atoms_of_alone ht hs hquote hpar hh
  have hne : code ≠ [] := by
    rintro rfl
    rw [firstExpression_of_strip_nil rfl] at hs
    cases hs
  rw [hp]
  exact firstExpression_atoms hne hall hh hsr

theorem Reprinted.quote {x : Value} (h : Reprinted x) (hne : x.sourceChars ≠ [])
    (hcf : Text.CommentFree x.sourceChars) : Reprinted (.list [.sym "quote", x]) := by
  have hcode : Text.strip (Text.removeComments ('\'' :: x.sourceChars)) = '\'' :: x.sourceChars :=
    Text.strip_removeComments_of_commentFree (hcf.cons (by decide)) (h.trimmed.cons (by decide) hne)
  obtain ⟨c, rest, hcr⟩ := List.exists_cons_of_ne_nil hne
  refine ⟨(hasSource_quote x).2 h.source, ?_, ?_, fun he => ?_⟩
  · rw [hcr] at hcode
    rw [sourceChars_quote x [], hcr, Reader.readChars_quote hcode, ← hcr, h.reads]
    rfl
  · rw [sourceChars_quote x []]
    exact h.trimmed.cons (by decide) hne
  · rw [sourceChars_quote x [], Scan.flips_cons_of_ne_quote (by decide),
      Scan.flips_prev_congr (by decide) (show ' ' ≠ '\\' by decide)]
    exact h.flips ((endsInBackslash_quote x).1 he)

theorem Cuts.quote {x : Value} (h : Cuts x) (hne : x.sourceChars ≠ [])
    (ht : Text.Trimmed x.sourceChars) : Cuts (.list [.sym "quote", x]) := by
  intro b r hs hl
  have hst : Text.strip (b ++ ('\'' :: x.sourceChars) ++ r) = '\'' :: (x.sourceChars ++ r) :=
    Text.strip_around hs.before (by simp) (ht.cons (by decide) hne) hs.last
  have hin := h [] r ⟨by simp, hs.after, hs.last⟩ fun he => hl ((endsInBackslash_quote x).2 he)
  rw [List.nil_append] at hin
  rw [sourceChars_quote x [], firstExpression_quote hst, hin]
  rfl

theorem Reprints.quote {c : Char} {rest : List Char} {x : Value}
    (hq : Text.strip (Text.removeComments src) = '\'' :: c :: rest)
    (hx : Reprints (Text.strip (Text.removeComments (c :: rest))) x) :
    Reprints (Text.strip (Text.removeComments src)) (.list [.sym "quote", x]) := by
  have hcf : Text.CommentFree ('\'' :: c :: rest) := hq ▸ Text.commentFree_code src
  have ht : Text.Trimmed ('\'' :: c :: rest) := hq ▸ Text.trimmed_strip _
  have hcf' : Text.CommentFree (c :: rest) := hcf.sublist (List.sublist_cons_self _ _)
  rw [Text.removeComments_of_commentFree hcf'] at hx
  have hlast : ∀ d ∈ (c :: rest).getLast?, Text.isBlank d = false := by
    have := ht.2
    rwa [getLast?_cons_of_ne_nil (List.cons_ne_nil c rest)] at this
  have hsplit := Text.strip_of_getLast hlast
  have hlead : ∀ d ∈ (c :: rest).takeWhile Text.isBlank, Text.isBlank d = true :=
    fun d hd => List.mem_takeWhile_imp hd
  have hcne : Text.strip (c :: rest) ≠ [] := by
    intro he
    rw [he, List.append_nil] at hsplit
    have hblank : ∀ d ∈ c :: rest, Text.isBlank d = true := by
      rw [hsplit]
      exact hlead
    have := hlast _ (List.getLast_mem_getLast? (List.cons_ne_nil c rest))
    rw [hblank _ (List.getLast_mem _)] at this
    cases this
  have hPne := hx.nonempty hcne
  have hPcf : Text.CommentFree x.sourceChars :=
    (hcf'.sublist (Text.strip_sublist _)).of_marks hx.marks
  rw [hq]
  refine ⟨hx.toReprinted.quote hPne hPcf, fun _ => by simp [sourceChars_quote], ?_, ?_,
    fun he r hr h => ?_, fun hs => ?_⟩
  · rw [sourceChars_quote x [], List.filter_cons_of_neg (by decide)]
    exact (hx.marks.trans (Text.strip_sublist _)).trans (List.sublist_cons_self _ _)
  · rw [sourceChars_quote x [], hsplit]
    exact ScanLE.cons (by decide) (by decide) (ScanLE.blank_left hlead hx.scan)
  · -- cutting the quote form cuts the quoted text, which starts after no blank
    have hs : Text.strip ('\'' :: c :: rest ++ r) = '\'' :: (c :: rest ++ r) :=
      Text.strip_eq_self (ht.append_of_getLast (by simp) hr)
    have h₁ := firstExpression_quote_inv hs h
    rw [hsplit, List.append_assoc] at h₁
    have h₀ := firstExpression_lead_nil hlead h₁
    rw [h₀, List.nil_append, List.nil_append] at h₁
    exact hx.rest ((endsInBackslash_quote x).1 he) r hr h₁
  · have h₁ := firstExpression_quote_inv (Text.strip_eq_self ht) hs
    rw [hsplit] at h₁
    have h₀ := firstExpression_lead_nil hlead h₁
    rw [h₀, List.nil_append] at h₁
    exact (hx.cut h₁).quote hPne hx.trimmed

theorem Reprints.wrap {J : List Char} {q : Char} {items : List Value}
    (hcf : Text.CommentFree ('(' :: J ++ [')'])) (hJI : ScanLE J (itemsChars items))
    (hpI : (Scan.mk '(' 1 false).pass (itemsChars items) = some ⟨q, 1, false⟩)
    (hmarks : List.Sublist ((itemsChars items).filter Text.isMark) J)
    (hall : ReprintsAll (Text.strip J) items) (hq : items.head? ≠ some (.sym "quote")) :
    Reprints ('(' :: J ++ [')']) (.list items) := by
  have hp := sourceChars_list hq
  have ht : Text.Trimmed ('(' :: itemsChars items ++ [')']) :=
    Text.trimmed_wrap (by decide) (by decide) _
  have hmP : List.Sublist (('(' :: itemsChars items ++ [')']).filter Text.isMark)
      ('(' :: J ++ [')']) := by
    have hclose : [')'].filter Text.isMark = [] := by decide
    rw [List.cons_append, List.filter_cons_of_neg (by decide), List.filter_append, hclose,
      List.append_nil]
    exact sublist_wrap hmarks
  have hcfP := hcf.of_marks hmP
  have hnq := not_endsInBackslash_list hq
  refine ⟨⟨(hasSource_list hq).2 (hasSourceItems_iff.2 fun x hx => (hall.each x hx).1.source),
    ?_, by rw [hp]; exact ht, fun he => absurd he hnq⟩, fun _ => by simp [hp],
    by rw [hp]; exact hmP, by rw [hp]; exact ScanLE.paren hJI, fun he => absurd he hnq,
    fun _ b r hs _ => by rw [hp]; exact firstExpression_wrap hpI hs⟩
  rw [hp]
  cases items with
  | nil => exact Reader.readChars_nil (by decide)
  | cons x xs =>
    have hI : itemsChars (x :: xs) ≠ [] := hall.itemsChars_ne_nil (List.cons_ne_nil x xs)
    have hst := Text.strip_removeComments_of_commentFree hcfP ht
    have hn : '(' :: itemsChars (x :: xs) ++ [')'] ≠ ['(', ')'] := by simpa using hI
    have hm : matchingParen ('(' :: itemsChars (x :: xs) ++ [')']) 0 =
        .ok ((('(' :: itemsChars (x :: xs) ++ [')']).length - 1 : Nat) : Int) := by
      rw [List.cons_append, matchingParen_of_pass hpI []]
      simp
    have hsplit : splitExpressions (Text.removeComments (Reader.inner ('(' :: itemsChars (x :: xs) ++
        [')']))) = .ok ((x :: xs).map sourceChars) := by
      rw [Reader.inner_wrap, Text.removeComments_of_commentFree (hcfP.sublist (by simp)),
        splitExpressions, Text.strip_eq_self hall.trimmed, ← List.nil_append (itemsChars _)]
      exact hall.split (List.cons_ne_nil x xs) [] (by simp)
    rw [Reader.readChars_list hst rfl hn (by simp) hm hsplit,
      mapM_readChars fun y hy => (hall.each y hy).1.reads]
    rfl

theorem Reprints.wrapQuote {J : List Char} {q : Char} {x : Value}
    (hcf : Text.CommentFree ('(' :: J ++ [')'])) (hJI : ScanLE J (itemsChars [.sym "quote", x]))
    (hpI : (Scan.mk '(' 1 false).pass (itemsChars [.sym "quote", x]) = some ⟨q, 1, false⟩)
    (hmarks : List.Sublist ((itemsChars [.sym "quote", x]).filter Text.isMark) J)
    (hall : ReprintsAll (Text.strip J) [.sym "quote", x]) :
    Reprints ('(' :: J ++ [')']) (.list [.sym "quote", x]) := by
  obtain ⟨hx, hne, hcut⟩ := hall.each x (by simp)
  have hI : itemsChars [.sym "quote", x] = ['q', 'u', 'o', 't', 'e', ' '] ++ x.sourceChars := rfl
  have hfilt : (itemsChars [.sym "quote", x]).filter Text.isMark =
      x.sourceChars.filter Text.isMark := by
    rw [hI, List.filter_append]
    rfl
  have hmP : List.Sublist (('\'' :: x.sourceChars).filter Text.isMark) ('(' :: J ++ [')']) := by
    rw [List.filter_cons_of_neg (by decide), ← hfilt]
    exact sublist_wrap hmarks
  have hcfx : Text.CommentFree x.sourceChars :=
    (hcf.of_marks hmP).sublist (List.sublist_cons_self _ _)
  have hnx : ¬EndsInBackslash x := by
    intro he
    -- the long form comes back out of every literal, so the quoted text flips the scan evenly
    have hin := Scan.pass_inText hpI
    rw [hI, Scan.flips_append_of_quote_not_mem (by decide)] at hin
    simp only [List.getLast_cons_cons, List.getLast_singleton] at hin
    rw [hx.flips he] at hin
    cases hin
  have hscan : ScanLE ('(' :: J ++ [')']) ('\'' :: x.sourceChars) := by
    have hlong := ScanLE.paren hJI
    have hshort := @scanLE_quoteForm ['q', 'u', 'o', 't', 'e', ' '] x.sourceChars _
      (by simp) (by decide) (by rw [← hI]; exact hpI)
    rw [hI] at hlong
    exact hlong.trans hshort
  refine ⟨hx.quote hne hcfx, fun _ => by simp [sourceChars_quote], ?_, ?_,
    fun he => absurd ((endsInBackslash_quote x).1 he) hnx, fun _ => hcut.quote hne hx.trimmed⟩
  · rw [sourceChars_quote x []]
    exact hmP
  · rw [sourceChars_quote x []]
    exact hscan

theorem Reprints.list {code : List Char} {closing : Int} {items : List Value}
    (hq : Text.strip (Text.removeComments src) = code) (hh : code.head? = some '(')
    (hm : matchingParen code 0 = .ok closing) (hc : ¬closing + 1 < code.length)
    (hall : ReprintsAll (Text.strip (Text.removeComments (Reader.inner code))) items)
    (hf : QuoteForms (.list items)) :
    Reprints (Text.strip (Text.removeComments src)) (.list items) := by
  obtain ⟨J, q, rfl, hp⟩ := matchingParen_whole hh hm hc
  have hcf : Text.CommentFree ('(' :: J ++ [')']) := hq ▸ Text.commentFree_code src
  have hJcf : Text.CommentFree J := hcf.sublist (sublist_wrap (List.Sublist.refl J))
  rw [Reader.inner_wrap, Text.removeComments_of_commentFree hJcf] at hall
  have hJI : ScanLE J (itemsChars items) := by
    obtain ⟨lead, trail, hl, ht, hJ⟩ := Text.strip_decomp J
    rw [hJ]
    exact ScanLE.blank_right ht (ScanLE.blank_left hl hall.scan)
  obtain ⟨q', hq'⟩ := hJI '(' '(' 1 false ⟨q, 1, false⟩ Nat.one_ne_zero (by decide)
    (fun _ => by decide) hp
  have hmarks := hall.marks.trans (Text.strip_sublist J)
  rw [hq]
  rcases quoteForms_cases hf with ⟨x, rfl, -⟩ | ⟨hnq, -⟩
  · exact Reprints.wrapQuote hcf hJI hq' hmarks hall
  · exact Reprints.wrap hcf hJI hq' hmarks hall hnq

theorem ReprintsAll.nil {rest : List Char} (h : splitFrom rest = .ok []) : ReprintsAll rest [] := by
  obtain rfl := splitFrom_eq_nil h
  exact ⟨by simp, fun _ => rfl, List.Sublist.refl _, ScanLE.refl [], ⟨by simp [itemsChars],
    by simp [itemsChars]⟩, fun h => absurd rfl h⟩

theorem ReprintsAll.cons {rest p : List Char} {ps : List (List Char)} {x : Value}
    {xs : List Value} (hsplit : splitFrom rest = .ok (p :: ps)) (hcf : Text.CommentFree rest)
    (hx : Reprints (Text.strip (Text.removeComments p)) x)
    (hxs : ∀ r, splitFrom r = .ok ps → Text.CommentFree r → ReprintsAll r xs) :
    ReprintsAll rest (x :: xs) := by
  obtain ⟨-, r, hfe, hr⟩ := splitFrom_eq_cons hsplit
  obtain ⟨seg, hseg, hcut⟩ := firstExpression_cut hfe
  have hstrip : List.Sublist (seg ++ r) rest := hseg ▸ Text.strip_sublist rest
  have hpcf : Text.CommentFree p :=
    hcf.sublist (hcut.sublist.trans ((List.sublist_append_left seg r).trans hstrip))
  rw [Text.strip_removeComments_of_commentFree hpcf hcut.trimmed] at hx
  have hrlast : ∀ c ∈ r.getLast?, Text.isBlank c = false := by
    have := Text.trimmed_strip rest
    rw [hseg] at this
    exact this.right
  have ih := hxs r hr (hcf.sublist ((List.sublist_append_right seg r).trans hstrip))
  have hPne : x.sourceChars ≠ [] := hx.nonempty hcut.ne_nil
  have hxcut : Cuts x := hx.cut hcut.alone
  have hscan : ScanLE seg x.sourceChars := hcut.scan.trans hx.scan
  have hmx : List.Sublist (x.sourceChars.filter Text.isMark) seg := hx.marks.trans hcut.sublist
  have hseg_ne : seg ≠ [] := fun h => hcut.ne_nil (List.eq_nil_of_sublist_nil (h ▸ hcut.sublist))
  obtain ⟨lead, trail, hl, ht, hrest⟩ := Text.strip_decomp rest
  have heach : ∀ y ∈ x :: xs, Reprinted y ∧ y.sourceChars ≠ [] ∧ Cuts y := by
    intro y hy
    rcases List.mem_cons.1 hy with rfl | hy
    · exact ⟨hx.toReprinted, hPne, hxcut⟩
    · exact ih.each y hy
  cases xs with
  | nil =>
    obtain rfl : r = [] := ih.empty rfl
    rw [List.append_nil] at hseg hstrip
    refine ⟨heach, nofun, hmx.trans hstrip, ?_, hx.trimmed, fun _ b hb => ?_⟩
    · show ScanLE rest x.sourceChars
      rw [hrest, hseg]
      exact ScanLE.blank_right ht (ScanLE.blank_left hl hscan)
    · have hcutb := hxcut b [] ⟨hb, by simp, by simp⟩ fun _ => List.not_mem_nil
      rw [List.append_nil] at hcutb
      show splitFrom (b ++ x.sourceChars) = .ok [x.sourceChars]
      rw [splitFrom_cons (by simp [hPne]) hcutb, splitFrom_nil]
      rfl
  | cons y ys =>
    have hI : itemsChars (x :: y :: ys) = x.sourceChars ++ ' ' :: itemsChars (y :: ys) := rfl
    have hIne : itemsChars (y :: ys) ≠ [] := ih.itemsChars_ne_nil (List.cons_ne_nil y ys)
    refine ⟨heach, nofun, ?_, ?_, ?_, fun _ b hb => ?_⟩
    · rw [hI, List.filter_append, List.filter_cons_of_neg (by decide)]
      exact (hmx.append ih.marks).trans hstrip
    · rw [hI, hrest, hseg]
      exact ScanLE.blank_right ht
        (ScanLE.blank_left hl (ScanLE.sep hscan ih.scan hseg_ne hcut.boundary))
    · rw [hI]
      have := hx.trimmed.append ih.trimmed hPne hIne [' ']
      simpa using this
    · have hnoq : EndsInBackslash x → '"' ∉ ' ' :: itemsChars (y :: ys) := by
        intro he hq
        apply hx.rest he r hrlast hcut.recut
        have hq' : '"' ∈ itemsChars (y :: ys) := (List.mem_cons.1 hq).resolve_left (by decide)
        exact ih.marks.subset (List.mem_filter.2 ⟨hq', rfl⟩)
      have hlast : ∀ c ∈ (' ' :: itemsChars (y :: ys)).getLast?, Text.isBlank c = false := by
        rw [getLast?_cons_of_ne_nil hIne]
        exact ih.trimmed.2
      have hcutb := hxcut b (' ' :: itemsChars (y :: ys)) ⟨hb, by simp; decide, hlast⟩ hnoq
      rw [hI, ← List.append_assoc, splitFrom_cons (by simp [hPne]) hcutb, ← List.singleton_append,
        ih.split (List.cons_ne_nil y ys) [' '] (by simp; decide)]
      rfl

end Rules

end Value

namespace Reader

open Value Split

mutual

/-- Every value the reader returns, with its quotes in form, carries `Reprints` for the text it
was read from. -/
theorem Reads.reprints : ∀ {src : List Char} {a : Value}, Reads src a → QuoteForms a →
    Reprints (Text.strip (Text.removeComments src)) a
  | _, _, .quote hq h, hf => Reprints.quote hq (h.reprints ((quoteForms_quote _).1 hf))
  | _, _, .bool b hq, _ => Reprints.bool b hq
  | _, _, .int hq hd hl, _ => Reprints.int hq hd hl
  | _, _, .text hq _ hh hn, _ => Reprints.text hq hh hn
  | _, _, .nil hq, _ => Reprints.nil hq
  | _, _, .list hq hh _ _ hm hc hs hall, hf =>
    Reprints.list hq hh hm hc (hall.reprints hf.items _ hs (Text.commentFree_code _)) hf
  | _, _, .sym hq h₁ h₂ h₃ h₄ h₅ h₆, _ => Reprints.sym hq h₁ h₂ h₃ h₄ h₅ h₆

theorem ReadsAll.reprints : ∀ {pieces : List (List Char)} {items : List Value},
    ReadsAll pieces items → QuoteFormsItems items → ∀ rest, splitFrom rest = .ok pieces →
      Text.CommentFree rest → ReprintsAll rest items
  | _, _, .nil, _, _, h, _ => ReprintsAll.nil h
  | _, _, .cons h hs, hf, _, hsplit, hcf =>
    ReprintsAll.cons hsplit hcf (h.reprints hf.1) fun r hr hcf' => hs.reprints hf.2 r hr hcf'

end

theorem ReadsAll.reads_of_mem : ∀ {pieces : List (List Char)} {items : List Value},
    ReadsAll pieces items → ∀ a ∈ items, ∃ p, Reads p a
  | _, _, .nil, _, ha => absurd ha List.not_mem_nil
  | _, _, .cons h hs, a, ha => by
    rcases List.mem_cons.1 ha with rfl | ha
    · exact ⟨_, h⟩
    · exact hs.reads_of_mem a ha

end Reader

namespace Value

theorem toSource_read_of_reads {src : List Char} {a : Value} (h : Reader.Reads src a)
    (hf : QuoteForms a) : ∃ t, a.toSource = .ok t ∧ Reader.read t = .ok a := by
  have hr := (h.reprints hf).toReprinted
  refine ⟨String.ofList a.sourceChars, toSource_eq_sourceChars a hr.source, ?_⟩
  rw [Reader.read, String.toList_ofList]
  exact hr.reads

/-- Whatever the reader returns, with every quote list of two items, prints, and its printed text
reads back as the same value; so does every value read from a text of several expressions. -/
theorem read_toSource_of_read :
    (∀ (s : String) (a : Value), Reader.read s = .ok a → QuoteForms a →
      ∃ t, a.toSource = .ok t ∧ Reader.read t = .ok a) ∧
    (∀ (s : String) (as : List Value), Reader.readAll s = .ok as →
      ∀ a ∈ as, QuoteForms a → ∃ t, a.toSource = .ok t ∧ Reader.read t = .ok a) := by
  constructor
  · intro s a h hf
    exact toSource_read_of_reads (Reader.Reads.of_readChars h) hf
  · intro s as h a ha hf
    simp only [Reader.readAll, bind, Except.bind] at h
    split at h
    · cases h
    · have hall := Reader.ReadsAll.of_mapM (fun _ _ _ hv => Reader.Reads.of_readChars hv) h
      obtain ⟨p, hp⟩ := hall.reads_of_mem a ha
      exact toSource_read_of_reads hp hf

theorem read_toSource_of_read_quoted_item :
    ∃ t, (Value.list [.sym "f", .list [.sym "quote", .sym "x"]]).toSource = .ok t ∧
      Reader.read t = .ok (.list [.sym "f", .list [.sym "quote", .sym "x"]]) := by
  have hv : Printable (.list [.sym "f", .list [.sym "quote", .sym "x"]]) := by
    rw [printable_list (by simp), printableItems_iff]
    simp only [List.mem_cons, List.not_mem_nil, or_false, forall_eq_or_imp, forall_eq,
      printable_quote, Printable, PrintableName, show "f".toList = ['f'] from rfl,
      show "x".toList = ['x'] from rfl]
    decide
  have hc : TextsClosed false (.list [.sym "f", .list [.sym "quote", .sym "x"]]) :=
    (textsClosed_list (by simp)).2 ⟨trivial, trivial, trivial⟩
  have hf : QuoteForms (.list [.sym "f", .list [.sym "quote", .sym "x"]]) :=
    (quoteForms_list (by simp)).2 ⟨trivial, (quoteForms_quote _).2 trivial, trivial⟩
  exact read_toSource_of_read.1 "(f 'x)" _ (Printable.readChars hv hc) hf

end Value

end TinyLisp
