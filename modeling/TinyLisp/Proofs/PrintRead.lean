import TinyLisp.Proofs.Scan
import TinyLisp.Proofs.ReadRules
import TinyLisp.Proofs.SourceText

/-!
# Reading back what was printed
-/

namespace TinyLisp

open Split

/-- A character that can stand in a printed atom: not blank and none of `( ) ' " ; ,`. -/
def AtomSafe (c : Char) : Prop :=
  Text.isBlank c = false ∧ c ∉ ['(', ')', '\'', '"', ';', ',']

instance : DecidablePred AtomSafe := fun _ => inferInstanceAs (Decidable (_ ∧ _))

/-- A name whose source text reads back as that name: not empty, made of characters that can
stand in an atom, not made of decimal digits only and not two characters starting with `#`. -/
def PrintableName (cs : List Char) : Prop :=
  cs ≠ [] ∧ (∀ c ∈ cs, AtomSafe c) ∧ ¬(∀ c ∈ cs, Text.isDigit c = true) ∧
    ¬(cs.length = 2 ∧ cs.head? = some '#')

/-- What stands around an expression in the text of a list: blanks before it, and after it either
nothing or a blank and then a text that does not end in a blank. -/
structure Surround (b r : List Char) : Prop where
  before : ∀ c ∈ b, Text.isBlank c = true
  after : ∀ c ∈ r.head?, Text.isBlank c = true
  last : ∀ c ∈ r.getLast?, Text.isBlank c = false

section AtomText

variable {c : Char} {cs : List Char}

theorem AtomSafe.atomChar (h : AtomSafe c) : isAtomChar c = true := by
  obtain ⟨hb, hc⟩ := h
  simp only [List.mem_cons, List.not_mem_nil, or_false, not_or] at hc
  simp [isAtomChar, hb, hc.1, hc.2.1, hc.2.2.1]

theorem AtomSafe.plain (h : AtomSafe c) : c ≠ '"' ∧ c ≠ '(' ∧ c ≠ ')' := by
  obtain ⟨-, hc⟩ := h
  simp only [List.mem_cons, List.not_mem_nil, or_false, not_or] at hc
  exact ⟨hc.2.2.2.1, hc.1, hc.2.1⟩

theorem AtomSafe.ne_semicolon (h : AtomSafe c) : c ≠ ';' := by
  obtain ⟨-, hc⟩ := h
  simp only [List.mem_cons, List.not_mem_nil, or_false, not_or] at hc
  exact hc.2.2.2.2.1

theorem atomSafe_of_isDigit (h : c.isDigit = true) : AtomSafe c := by
  simp only [Char.isDigit, Bool.and_eq_true, decide_eq_true_eq] at h
  have h₁ : 48 ≤ c.toNat := h.1
  have h₂ : c.toNat ≤ 57 := h.2
  have hb : ∀ n < 58, 48 ≤ n → Text.blankCodes.contains n = false := by decide
  refine ⟨hb c.toNat (by omega) h₁, ?_⟩
  simp only [List.mem_cons, List.not_mem_nil, or_false]
  rintro (rfl | rfl | rfl | rfl | rfl | rfl) <;> simp at h₁ h₂

theorem isAtomChar_blank (h : isAtomChar c = true) : Text.isBlank c = false := by
  simp only [isAtomChar, Bool.not_eq_eq_eq_not, Bool.not_true, Bool.or_eq_false_iff] at h
  exact h.1.1.1

theorem trimmed_of_atomChars (h : ∀ c ∈ cs, isAtomChar c = true) : Text.Trimmed cs :=
  ⟨fun c hc => isAtomChar_blank (h c (List.mem_of_mem_head? hc)),
    fun c hc => isAtomChar_blank (h c (List.mem_of_mem_getLast? hc))⟩

theorem trimmed_of_atomSafe (h : ∀ c ∈ cs, AtomSafe c) : Text.Trimmed cs :=
  trimmed_of_atomChars fun c hc => (h c hc).atomChar

theorem firstExpression_atoms (hne : cs ≠ []) (hall : ∀ c ∈ cs, isAtomChar c = true)
    (hh : cs.head? ≠ some '"') {b r : List Char} (hsr : Surround b r) :
    firstExpression (b ++ cs ++ r) = .ok (cs, r) := by
  obtain ⟨c, cs', rfl⟩ := List.exists_cons_of_ne_nil hne
  have hc := hall c List.mem_cons_self
  have hs : Text.strip (b ++ (c :: cs') ++ r) = c :: (cs' ++ r) :=
    Text.strip_around hsr.before (List.cons_ne_nil c cs') (trimmed_of_atomChars hall) hsr.last
  have hq : c ≠ '\'' := by rintro rfl; simp [isAtomChar] at hc
  have ho : c ≠ '(' := by rintro rfl; simp [isAtomChar] at hc
  have hd : c ≠ '"' := fun e => hh (by rw [e]; rfl)
  have htake : (c :: cs' ++ r).takeWhile isAtomChar = c :: cs' := by
    rw [List.takeWhile_append_of_pos hall]
    cases r with
    | nil => simp
    | cons y r => simp [isAtomChar, hsr.after y rfl]
  have hdrop : (c :: cs' ++ r).dropWhile isAtomChar = r := by
    rw [List.dropWhile_append_of_pos hall]
    cases r with
    | nil => rfl
    | cons y r => simp [isAtomChar, hsr.after y rfl]
  rw [firstExpression_atom hs hq ho hd, ← List.cons_append, htake, hdrop]
  rfl

theorem firstExpression_atomSafe (hne : cs ≠ []) (h : ∀ c ∈ cs, AtomSafe c) {b r : List Char}
    (hsr : Surround b r) : firstExpression (b ++ cs ++ r) = .ok (cs, r) := by
  refine firstExpression_atoms hne (fun c hc => (h c hc).atomChar) (fun hd => ?_) hsr
  exact (h _ (List.mem_of_mem_head? hd)).plain.1 rfl

end AtomText

section CleanText

/-- A printed text that the reader takes as it is: not empty, trimmed, and with no `;`. -/
def Clean (cs : List Char) : Prop :=
  cs ≠ [] ∧ Text.Trimmed cs ∧ ';' ∉ cs

theorem clean_of_atomSafe {cs : List Char} (h : cs ≠ [] ∧ ∀ c ∈ cs, AtomSafe c) : Clean cs :=
  ⟨h.1, trimmed_of_atomSafe h.2, fun hc => (h.2 ';' hc).ne_semicolon rfl⟩

theorem clean_wrap {o e : Char} (ho : Text.isBlank o = false ∧ o ≠ ';')
    (he : Text.isBlank e = false ∧ e ≠ ';') {cs : List Char} (h : ';' ∉ cs) :
    Clean (o :: cs ++ [e]) := by
  refine ⟨by simp, ⟨?_, ?_⟩, ?_⟩
  · intro c hc
    simp only [List.cons_append, List.head?_cons, Option.mem_def, Option.some.injEq] at hc
    exact hc ▸ ho.1
  · intro c hc
    rw [Option.mem_def, List.getLast?_concat, Option.some.injEq] at hc
    exact hc ▸ he.1
  · simp [h, Ne.symm ho.2, Ne.symm he.2]

theorem Clean.quote {cs : List Char} (h : Clean cs) : Clean ('\'' :: cs) := by
  obtain ⟨hne, ⟨-, hl⟩, hs⟩ := h
  refine ⟨by simp, ⟨?_, ?_⟩, by simp [hs]⟩
  · intro c hc
    simp only [List.head?_cons, Option.mem_def, Option.some.injEq] at hc
    subst hc
    decide
  · intro c hc
    rw [getLast?_cons_of_ne_nil hne] at hc
    exact hl c hc

theorem Clean.sep {cs ds : List Char} (h₁ : Clean cs) (h₂ : Clean ds) : Clean (cs ++ ' ' :: ds) := by
  refine ⟨by simp, ?_, by simp [h₁.2.2, h₂.2.2]⟩
  have := h₁.2.1.append h₂.2.1 h₁.1 h₂.1 [' ']
  simpa using this

theorem Clean.strip_removeComments {cs : List Char} (h : Clean cs) :
    Text.strip (Text.removeComments cs) = cs := by
  rw [Text.removeComments_of_semicolon_not_mem h.2.2, Text.strip_eq_self h.2.1]

theorem Surround.strip {b r cs : List Char} (hs : Surround b r) (h : Clean cs) :
    Text.strip (b ++ cs ++ r) = cs ++ r :=
  Text.strip_around hs.before h.1 h.2.1 hs.last

theorem textLiteralEnd_literal {t r : List Char} (h : quotesEscaped '"' t = true)
    (hl : t.getLast? = some '\\' → '"' ∉ r) :
    textLiteralEnd ('"' :: (t ++ '"' :: r)) = some (t.length + 2) := by
  have hh := quotesEscaped_head h (by decide)
  have hend := @literalEnd_escaped (t ++ '"' :: r) 1 none t r '"' rfl h hh hl
  show literalEnd 1 none (t ++ '"' :: r) = _
  rw [hend]
  congr 1
  omega

end CleanText

/-! ## A list of atoms -/

section AtomList

variable {as : List (List Char)}

theorem intercalate_of_sep {P : List Char → Prop}
    (sep : ∀ cs ds, P cs → P ds → P (cs ++ ' ' :: ds)) (h : ∀ a ∈ as, P a) (hne : as ≠ []) : P ([' '].intercalate as) := by
  induction as with
  | nil => exact absurd rfl hne
  | cons a as ih =>
    cases as with
    | nil => simpa using h a List.mem_cons_self
    | cons b bs =>
      rw [List.intercalate_cons_cons, List.append_assoc, List.singleton_append]
      exact sep _ _ (h a List.mem_cons_self)
        (ih (fun x hx => h x (List.mem_cons_of_mem a hx)) (List.cons_ne_nil b bs))

theorem splitFrom_atoms (h : ∀ a ∈ as, a ≠ [] ∧ ∀ c ∈ a, AtomSafe c) (hne : as ≠ [])
    {b : List Char} (hb : ∀ c ∈ b, Text.isBlank c = true) :
    splitFrom (b ++ [' '].intercalate as) = .ok as := by
  induction as generalizing b with
  | nil => exact absurd rfl hne
  | cons a as ih =>
    have ha := h a List.mem_cons_self
    have hne' : b ++ a ≠ [] := by simp [ha.1]
    cases as with
    | nil =>
      have hcut := firstExpression_atomSafe ha.1 ha.2 (b := b) (r := []) ⟨hb, by simp, by simp⟩
      rw [List.append_nil] at hcut
      rw [List.intercalate_singleton, splitFrom_cons hne' hcut, splitFrom_nil]
      rfl
    | cons a' as =>
      have h' : ∀ x ∈ a' :: as, x ≠ [] ∧ ∀ c ∈ x, AtomSafe c :=
        fun x hx => h x (List.mem_cons_of_mem a hx)
      have hrest : Clean ([' '].intercalate (a' :: as)) :=
        intercalate_of_sep (fun _ _ => Clean.sep) (fun x hx => clean_of_atomSafe (h' x hx))
          (List.cons_ne_nil a' as)
      have hlast : ∀ c ∈ (' ' :: [' '].intercalate (a' :: as)).getLast?,
          Text.isBlank c = false := by
        rw [getLast?_cons_of_ne_nil hrest.1]
        exact hrest.2.1.2
      have hcut := firstExpression_atomSafe ha.1 ha.2 (b := b)
        (r := ' ' :: [' '].intercalate (a' :: as)) ⟨hb, by simp; decide, hlast⟩
      have htail := ih h' (List.cons_ne_nil a' as) (b := [' ']) (by simp; decide)
      rw [List.intercalate_cons_cons, List.append_assoc, List.singleton_append,
        ← List.append_assoc, splitFrom_cons (by simp [ha.1]) hcut, ← List.singleton_append,
        htail]
      rfl

theorem readChars_atoms (h : ∀ a ∈ as, a ≠ [] ∧ ∀ c ∈ a, AtomSafe c) (hne : as ≠ []) :
    Reader.readChars ('(' :: [' '].intercalate as ++ [')']) =
      (as.mapM Reader.readChars).bind fun items => .ok (.list items) := by
  have hclean : Clean ([' '].intercalate as) :=
    intercalate_of_sep (fun _ _ => Clean.sep) (fun a ha => clean_of_atomSafe (h a ha)) hne
  have hbal : Balanced ([' '].intercalate as) :=
    intercalate_of_sep (fun _ _ => Balanced.sep)
      (fun a ha => balanced_plain fun c hc => ((h a ha).2 c hc).plain) hne
  have hwrap := clean_wrap (o := '(') (e := ')') (by decide) (by decide) hclean.2.2
  have hm := hbal.matchingParen []
  rw [← List.cons_append] at hm
  refine Reader.readChars_list hwrap.strip_removeComments rfl
    (fun heq => hclean.1 (by simpa using heq)) (by simp) ?_ ?_
  · rw [hm]
    simp
  · rw [Reader.inner_wrap, splitExpressions, hclean.strip_removeComments]
    exact splitFrom_atoms h hne (b := []) (by simp)

theorem readChars_tooLong {ds : List Char} (hc : Clean ds) (hd : ∀ c ∈ ds, Text.isDigit c = true)
    (hlen : maxDigits < ds.length) :
    Reader.readChars ds = .error (.literalTooLong ds.length) := by
  rw [Reader.readChars_int hc.strip_removeComments hc.1 hd, Decimal.readDigits, if_pos hlen]
  rfl

end AtomList

namespace Decimal

theorem digitsValue_eq_ofDigitChars {ds : List Char} (h : ∀ c ∈ ds, c.isDigit = true) :
    digitsValue ds = Nat.ofDigitChars 10 ds 0 := by
  rw [digitsValue, Nat.ofDigitChars_eq_foldl]
  -- the two folds agree from every start, since every character is an ASCII digit
  suffices hfold : ∀ acc, ds.foldl (fun acc c => 10 * acc + (Text.digitValue? c).getD 0) acc =
      ds.foldl (fun sofar c => 10 * sofar + (c.toNat - '0'.toNat)) acc from hfold 0
  induction ds with
  | nil => exact fun _ => rfl
  | cons c ds ih =>
    intro acc
    simp only [List.foldl_cons, Text.digitValue?_of_isDigit (h c List.mem_cons_self),
      Option.getD_some]
    exact ih (fun c hc => h c (List.mem_cons_of_mem _ hc)) _

theorem readDigits_toDigits {m : Nat} (h : m < limit) : readDigits (Nat.toDigits 10 m) = .ok m := by
  have hlen : (Nat.toDigits 10 m).length ≤ maxDigits :=
    (Nat.length_toDigits_le_iff (by decide) (by decide)).2 h
  have hd : ∀ c ∈ Nat.toDigits 10 m, c.isDigit = true :=
    fun c hc => Nat.isDigit_of_mem_toDigits (by decide) (by decide) hc
  rw [readDigits, if_neg (by omega), digitsValue_eq_ofDigitChars hd, Nat.ofDigitChars_ten_toDigits]

end Decimal


namespace Value

mutual

/-- The values that printing and reading are meant to take back and forth. -/
def Printable : Value → Prop
  | .bool _ => True
  | .int n => 0 ≤ n ∧ Decimal.hasText n = true
  | .sym s => PrintableName s.toList
  | .str (.text t) => ';' ∉ t.toList ∧ quotesEscaped '"' t.toList = true
  | .list [.sym "quote", v] => Printable v
  | .list (.sym "quote" :: _) => False
  | .list xs => PrintableItems xs
  | _ => False

def PrintableItems : List Value → Prop
  | [] => True
  | x :: xs => Printable x ∧ PrintableItems xs

end

mutual

/-- No text printed inside a list ends with a backslash; `inList` says whether the value itself is
printed inside one. -/
def TextsClosed (inList : Bool) : Value → Prop
  | .str (.text t) => inList = true → t.toList.getLast? ≠ some '\\'
  | .list [.sym "quote", v] => TextsClosed inList v
  | .list xs => TextsClosedItems xs
  | _ => True

def TextsClosedItems : List Value → Prop
  | [] => True
  | x :: xs => TextsClosed true x ∧ TextsClosedItems xs

end

theorem printable_list {xs : List Value} (h : xs.head? ≠ some (.sym "quote")) :
    Printable (.list xs) ↔ PrintableItems xs := by
  rw [Printable]
  · rintro v rfl
    simp at h
  · rintro tail rfl
    simp at h

theorem printable_quote (v : Value) : Printable (.list [.sym "quote", v]) ↔ Printable v := by
  rw [Printable]

theorem printableItems_iff {xs : List Value} : PrintableItems xs ↔ ∀ x ∈ xs, Printable x := by
  induction xs with
  | nil => simp [PrintableItems]
  | cons x xs ih => simp [PrintableItems, ih]

theorem textsClosed_quote (inList : Bool) (v : Value) :
    TextsClosed inList (.list [.sym "quote", v]) ↔ TextsClosed inList v := by
  rw [TextsClosed]

theorem textsClosed_list {inList : Bool} {xs : List Value} (h : xs.head? ≠ some (.sym "quote")) :
    TextsClosed inList (.list xs) ↔ TextsClosedItems xs := by
  rw [TextsClosed]
  rintro v rfl
  simp at h

theorem textsClosedItems_iff {xs : List Value} :
    TextsClosedItems xs ↔ ∀ x ∈ xs, TextsClosed true x := by
  induction xs with
  | nil => simp [TextsClosedItems]
  | cons x xs ih => simp [TextsClosedItems, ih]

@[elab_as_elim]
theorem Printable.induction {motive : (v : Value) → Printable v → Prop}
    (bool : ∀ b, motive (.bool b) trivial)
    (int : ∀ n (h : 0 ≤ n ∧ Decimal.hasText n = true), motive (.int n) h)
    (sym : ∀ (s : String) (h : PrintableName s.toList), motive (.sym s) h)
    (text : ∀ (t : String) (h : ';' ∉ t.toList ∧ quotesEscaped '"' t.toList = true),
      motive (.str (.text t)) h)
    (quote : ∀ v (h : Printable v), motive v h →
      motive (.list [.sym "quote", v]) ((printable_quote v).2 h))
    (list : ∀ xs (hq : xs.head? ≠ some (.sym "quote")) (h : ∀ x ∈ xs, Printable x),
      (∀ x (hx : x ∈ xs), motive x (h x hx)) →
      motive (.list xs) ((printable_list hq).2 (printableItems_iff.2 h)))
    {v : Value} (hv : Printable v) : motive v hv :=
  match v, hv with
  | .bool b, _ => bool b
  | .int n, h => int n h
  | .sym s, h => sym s h
  | .str (.text t), h => text t h
  | .list [], _ => list [] (by simp) (by simp) (by simp)
  | .list (x :: rest), h => by
    by_cases hx : x = .sym "quote"
    · subst hx
      match hr : rest, h with
      | [v], h =>
        have hv := (printable_quote v).1 h
        exact quote v hv (Printable.induction bool int sym text quote list hv)
      | [], h | _ :: _ :: _, h => simp [Printable] at h
    · have hq : (x :: rest).head? ≠ some (.sym "quote") := by simpa using hx
      have hxs := printableItems_iff.1 ((printable_list hq).1 h)
      exact list _ hq hxs fun y hy => Printable.induction bool int sym text quote list (hxs y hy)
  | .float _, h | .closure .., h => by simp [Printable] at h
  | .str .null, h | .str (.bool _), h | .str (.int _), h | .str (.float _), h
  | .str (.list _), h | .str (.map _), h => by simp [Printable] at h
termination_by sizeOf v
decreasing_by
  · subst hr
    simp_wf
    omega
  · have := List.sizeOf_lt_of_mem hy
    simp at this
    simp_wf
    omega

theorem Printable.hasSource {v : Value} (hv : Printable v) : HasSource v := by
  induction hv using Printable.induction with
  | bool b => trivial
  | int n h => exact h.2
  | sym s _ => trivial
  | text t _ => trivial
  | quote v _ ih => exact (hasSource_quote v).2 ih
  | list xs hq _ ih => exact (hasSource_list hq).2 (hasSourceItems_iff.2 ih)

theorem toString_toList {n : Int} (h : 0 ≤ n) : (toString n).toList = Nat.toDigits 10 n.toNat := by
  rw [Int.toString_eq_repr, Int.repr_eq_if, if_pos h, Nat.toList_repr]

theorem sourceChars_int_atomSafe {n : Int} (h : 0 ≤ n) :
    (Value.int n).sourceChars ≠ [] ∧ ∀ c ∈ (Value.int n).sourceChars, AtomSafe c := by
  simp only [sourceChars, toString_toList h]
  exact ⟨Nat.toDigits_ne_nil, fun c hc =>
    atomSafe_of_isDigit (Nat.isDigit_of_mem_toDigits (by decide) (by decide) hc)⟩

theorem sourceChars_bool_atomSafe (b : Bool) :
    (Value.bool b).sourceChars ≠ [] ∧ ∀ c ∈ (Value.bool b).sourceChars, AtomSafe c := by
  have hsafe : ∀ c ∈ ['#', 't', 'f'], AtomSafe c := by
    intro c hc
    simp only [List.mem_cons, List.not_mem_nil, or_false] at hc
    rcases hc with rfl | rfl | rfl <;> decide
  refine ⟨by cases b <;> simp [sourceChars], fun c hc => hsafe c ?_⟩
  cases b <;> simp only [sourceChars, Bool.false_eq_true, if_false, if_true, List.mem_cons,
    List.not_mem_nil, or_false] at hc <;> rcases hc with rfl | rfl <;> simp

theorem clean_itemsChars {xs : List Value} (h : ∀ x ∈ xs, Clean x.sourceChars) (hne : xs ≠ []) :
    Clean (itemsChars xs) :=
  itemsChars_of_sep (fun _ _ => Clean.sep) h hne

theorem semicolon_not_mem_itemsChars {xs : List Value} (h : ∀ x ∈ xs, Clean x.sourceChars) :
    ';' ∉ itemsChars xs := by
  cases xs with
  | nil => simp [itemsChars]
  | cons x xs => exact (clean_itemsChars h (List.cons_ne_nil x xs)).2.2

theorem Printable.clean {v : Value} (hv : Printable v) : Clean v.sourceChars := by
  induction hv using Printable.induction with
  | bool b => exact clean_of_atomSafe (sourceChars_bool_atomSafe b)
  | int n h => exact clean_of_atomSafe (sourceChars_int_atomSafe h.1)
  | sym s h => exact clean_of_atomSafe ⟨h.1, h.2.1⟩
  | text t h => exact clean_wrap (by decide) (by decide) h.1
  | quote v _ ih =>
    rw [sourceChars_quote]
    exact ih.quote
  | list xs hq _ ih =>
    rw [sourceChars_list hq]
    exact clean_wrap (by decide) (by decide) (semicolon_not_mem_itemsChars ih)

theorem balanced_itemsChars {xs : List Value} (h : ∀ x ∈ xs, Balanced x.sourceChars) :
    Balanced (itemsChars xs) := by
  cases xs with
  | nil => exact balanced_nil
  | cons x xs => exact itemsChars_of_sep (fun _ _ => Balanced.sep) h (List.cons_ne_nil x xs)

theorem Printable.balanced {v : Value} (hv : Printable v) (hc : TextsClosed true v) :
    Balanced v.sourceChars := by
  induction hv using Printable.induction with
  | bool b => exact balanced_plain fun c hc => ((sourceChars_bool_atomSafe b).2 c hc).plain
  | int n h => exact balanced_plain fun c hc => ((sourceChars_int_atomSafe h.1).2 c hc).plain
  | sym s h => exact balanced_plain fun c hc => (h.2.1 c hc).plain
  | text t h => exact balanced_literal h.2 (hc rfl)
  | quote v _ ih =>
    rw [sourceChars_quote]
    exact (ih ((textsClosed_quote true v).1 hc)).cons (by decide) (by decide) (by decide)
      (by decide)
  | list xs hq _ ih =>
    have hcs := textsClosedItems_iff.1 ((textsClosed_list hq).1 hc)
    rw [sourceChars_list hq]
    exact (balanced_itemsChars fun x hx => ih x hx (hcs x hx)).paren


theorem Printable.firstExpression {v : Value} (hv : Printable v) (hc : TextsClosed true v)
    {b r : List Char} (hs : Surround b r) :
    firstExpression (b ++ v.sourceChars ++ r) = .ok (v.sourceChars, r) := by
  induction hv using Printable.induction generalizing b with
  | bool b' =>
    exact firstExpression_atomSafe (sourceChars_bool_atomSafe b').1
      (sourceChars_bool_atomSafe b').2 hs
  | int n h =>
    exact firstExpression_atomSafe (sourceChars_int_atomSafe h.1).1
      (sourceChars_int_atomSafe h.1).2 hs
  | sym s h => exact firstExpression_atomSafe h.1 h.2.1 hs
  | text t h =>
    have hlit : ('"' :: t.toList ++ ['"']) ++ r = '"' :: (t.toList ++ '"' :: r) := by simp
    have hst := hs.strip (clean_wrap (o := '"') (e := '"') (by decide) (by decide) h.1)
    have hend := textLiteralEnd_literal (r := r) h.2 fun hl => absurd hl (hc rfl)
    rw [hlit] at hst
    simp only [sourceChars]
    rw [firstExpression_text hst, hend, ← hlit]
    dsimp only
    rw [List.take_left' (by simp), List.drop_left' (by simp)]
  | quote v hv ih =>
    have hst := hs.strip hv.clean.quote
    have hin := ih ((textsClosed_quote true v).1 hc) (b := []) ⟨by simp, hs.after, hs.last⟩
    rw [List.cons_append] at hst
    rw [sourceChars_quote]
    rw [List.nil_append] at hin
    rw [firstExpression_quote hst, hin]
    rfl
  | list xs hq hx _ =>
    have hcs := textsClosedItems_iff.1 ((textsClosed_list hq).1 hc)
    have hbal := balanced_itemsChars fun x hx' => (hx x hx').balanced (hcs x hx')
    have hsemi := semicolon_not_mem_itemsChars fun x hx' => (hx x hx').clean
    have hpar : ('(' :: itemsChars xs ++ [')']) ++ r = '(' :: (itemsChars xs ++ ')' :: r) := by
      simp
    have hst := hs.strip (clean_wrap (o := '(') (e := ')') (by decide) (by decide) hsemi)
    rw [hpar] at hst
    rw [sourceChars_list hq, firstExpression_paren hst, hbal.matchingParen r, ← hpar]
    simp only [Except.bind]
    rw [List.take_left' (by simp; omega), List.drop_left' (by simp; omega)]

theorem splitFrom_itemsChars {xs : List Value} (hv : ∀ x ∈ xs, Printable x)
    (hc : ∀ x ∈ xs, TextsClosed true x) (hne : xs ≠ []) {b : List Char}
    (hb : ∀ c ∈ b, Text.isBlank c = true) :
    splitFrom (b ++ itemsChars xs) = .ok (xs.map sourceChars) := by
  induction xs generalizing b with
  | nil => exact absurd rfl hne
  | cons x xs ih =>
    have hpx := hv x List.mem_cons_self
    have hcx := hc x List.mem_cons_self
    have hne' : b ++ x.sourceChars ≠ [] := by simp [hpx.clean.1]
    cases xs with
    | nil =>
      have hcut := hpx.firstExpression hcx (b := b) (r := []) ⟨hb, by simp, by simp⟩
      rw [List.append_nil] at hcut
      rw [itemsChars, splitFrom_cons hne' hcut, splitFrom_nil]
      rfl
    | cons y ys =>
      have hv' : ∀ z ∈ y :: ys, Printable z := fun z hz => hv z (List.mem_cons_of_mem x hz)
      have hc' : ∀ z ∈ y :: ys, TextsClosed true z := fun z hz => hc z (List.mem_cons_of_mem x hz)
      have hrest := clean_itemsChars (fun z hz => (hv' z hz).clean) (List.cons_ne_nil y ys)
      have hlast : ∀ c ∈ (' ' :: itemsChars (y :: ys)).getLast?, Text.isBlank c = false := by
        rw [getLast?_cons_of_ne_nil hrest.1]
        exact hrest.2.1.2
      have hcut := hpx.firstExpression hcx (b := b) (r := ' ' :: itemsChars (y :: ys))
        ⟨hb, by simp; decide, hlast⟩
      have htail := ih hv' hc' (List.cons_ne_nil y ys) (b := [' ']) (by simp; decide)
      rw [itemsChars, ← List.append_assoc, splitFrom_cons (by simp) hcut, ← List.singleton_append,
        htail]
      rfl

theorem mapM_readChars {xs : List Value}
    (h : ∀ x ∈ xs, Reader.readChars x.sourceChars = .ok x) :
    (xs.map sourceChars).mapM Reader.readChars = .ok xs := by
  induction xs with
  | nil => rfl
  | cons x xs ih =>
    rw [List.map_cons, List.mapM_cons, h x List.mem_cons_self,
      ih fun y hy => h y (List.mem_cons_of_mem x hy)]
    rfl

/-- The reader takes the source text of a printable value back to the value, when no text inside
one of its lists ends in a backslash. -/
theorem Printable.readChars {v : Value} (hv : Printable v) {inList : Bool}
    (hc : TextsClosed inList v) : Reader.readChars v.sourceChars = .ok v := by
  induction hv using Printable.induction generalizing inList with
  | bool b =>
    have hst := (clean_of_atomSafe (sourceChars_bool_atomSafe b)).strip_removeComments
    cases b
    · exact (Reader.readChars_bool hst).trans (by simp)
    · exact (Reader.readChars_bool hst).trans (by simp)
  | int n h =>
    have hs := sourceChars_int_atomSafe h.1
    have hdig : ∀ c ∈ (Value.int n).sourceChars, Text.isDigit c = true := by
      intro c hc
      simp only [sourceChars, toString_toList h.1] at hc
      have hc' := Nat.isDigit_of_mem_toDigits (by decide) (by decide) hc
      simp [Text.isDigit, Text.digitValue?_of_isDigit hc']
    have hlim : n.toNat < Decimal.limit := by
      have := h.2
      simp only [Decimal.hasText, decide_eq_true_eq] at this
      omega
    rw [Reader.readChars_int (clean_of_atomSafe hs).strip_removeComments hs.1 hdig]
    simp only [sourceChars, toString_toList h.1]
    rw [Decimal.readDigits_toDigits hlim, Int.toNat_of_nonneg h.1]
    rfl
  | sym s h =>
    obtain ⟨hne, hsafe, hdig, hhash⟩ := h
    obtain ⟨c, cs, hcs⟩ := List.exists_cons_of_ne_nil hne
    have hc0 := hsafe c (by rw [hcs]; exact List.mem_cons_self)
    obtain ⟨hq, ho, -⟩ := hc0.plain
    have hq' : c ≠ '\'' := fun e => hc0.2 (by simp [e])
    have hall : (!s.toList.isEmpty && s.toList.all Text.isDigit) = false := by
      rcases hd : s.toList.all Text.isDigit
      · simp
      · exact absurd (List.all_eq_true.1 hd) hdig
    have hquote : ∀ c' rest, s.toList ≠ '\'' :: c' :: rest := by
      intro c' rest heq
      rw [hcs] at heq
      exact hq' (List.cons.inj heq).1
    have hbool : ∀ c', s.toList ≠ ['#', c'] := by
      intro c' heq
      exact hhash ⟨by rw [heq]; rfl, by rw [heq]; rfl⟩
    have hhead : s.toList.head? = some c := by rw [hcs]; rfl
    have hnil : s.toList ≠ ['(', ')'] := by
      intro heq
      rw [hcs] at heq
      exact ho (List.cons.inj heq).1
    simp only [sourceChars]
    rw [Reader.readChars_sym (clean_of_atomSafe ⟨hne, hsafe⟩).strip_removeComments hquote hbool
      hall (by simpa [hhead] using hq) hnil (by simp [hhead, ho])]
    simp
  | text t h =>
    have hend := textLiteralEnd_literal (r := []) h.2 fun _ => List.not_mem_nil
    have hst := (clean_wrap (o := '"') (e := '"') (by decide) (by decide) h.1).strip_removeComments
    simp only [sourceChars]
    rw [Reader.readChars_text hst rfl (by simpa using hend), Reader.inner_wrap]
    simp
  | quote v hv ih =>
    obtain ⟨c, rest, hcr⟩ := List.exists_cons_of_ne_nil hv.clean.1
    have hst := hv.clean.quote.strip_removeComments
    rw [hcr] at hst
    rw [sourceChars_quote, hcr, Reader.readChars_quote hst, ← hcr,
      ih ((textsClosed_quote inList v).1 hc)]
    rfl
  | list xs hq hx ih =>
    have hcs := textsClosedItems_iff.1 ((textsClosed_list hq).1 hc)
    rw [sourceChars_list hq]
    cases xs with
    | nil => exact Reader.readChars_nil (by decide)
    | cons x xs =>
      have hcl := clean_itemsChars (fun y hy => (hx y hy).clean) (List.cons_ne_nil x xs)
      have hbal := balanced_itemsChars fun y hy => (hx y hy).balanced (hcs y hy)
      have hst := (clean_wrap (o := '(') (e := ')') (by decide) (by decide) hcl.2.2).strip_removeComments
      have hn : '(' :: itemsChars (x :: xs) ++ [')'] ≠ ['(', ')'] := by simpa using hcl.1
      have hm : matchingParen ('(' :: itemsChars (x :: xs) ++ [')']) 0 =
          .ok ((('(' :: itemsChars (x :: xs) ++ [')']).length - 1 : Nat) : Int) := by
        rw [List.cons_append, hbal.matchingParen []]
        simp
      have hsplit : splitExpressions (Text.removeComments (Reader.inner ('(' :: itemsChars (x :: xs) ++
          [')']))) = .ok ((x :: xs).map sourceChars) := by
        rw [Reader.inner_wrap, Text.removeComments_of_semicolon_not_mem hcl.2.2, splitExpressions,
          Text.strip_eq_self hcl.2.1, ← List.nil_append (itemsChars _)]
        exact splitFrom_itemsChars hx hcs (List.cons_ne_nil x xs) (by simp)
      rw [Reader.readChars_list hst rfl hn (by simp) hm hsplit,
        mapM_readChars fun y hy => ih y hy (hcs y hy)]
      rfl

/-- Printing a printable value and reading the text back gives the value, when no text inside one
of its lists ends in a backslash. -/
theorem read_toSource {v : Value} (hv : Printable v) (hc : TextsClosed false v) :
    (v.toSource >>= Reader.read) = .ok v := by
  rw [toSource_eq_sourceChars v hv.hasSource]
  show Reader.read (String.ofList v.sourceChars) = .ok v
  rw [Reader.read, String.toList_ofList]
  exact hv.readChars hc

/-- A quoted text that ends in a backslash, printed on its own, reads back. -/
theorem read_toSource_quoted_backslash :
    ((Value.list [.sym "quote", .str (.text "a\\")]).toSource >>= Reader.read) =
      .ok (.list [.sym "quote", .str (.text "a\\")]) :=
  read_toSource ((printable_quote _).2 ⟨by decide, by decide⟩)
    ((textsClosed_quote false _).2 fun h => absurd h (by decide))

/-- The same text inside a list does not: the scan takes its backslash and closing quote for an
escaped quote, and the list never closes. -/
theorem read_toSource_listed_backslash :
    ((Value.list [.sym "f", .str (.text "a\\")]).toSource >>= Reader.read) =
      .error (.incomplete "(f \"a\\\")") := by
  have hsrc : (Value.list [.sym "f", .str (.text "a\\")]).toSource = .ok "(f \"a\\\")" := by
    rfl
  have hm : matchingParen ['(', 'f', ' ', '"', 'a', '\\', '"', ')'] 0 =
      .error (.incomplete "(f \"a\\\")") := by
    rw [matchingParen_eq_close]
    rfl
  rw [hsrc]
  exact Reader.readChars_unclosed (by decide) rfl (by decide) (by decide) hm

end Value


end TinyLisp
