import TinyLisp.Syntax.Printer

/-!
# Source text as characters
-/

namespace TinyLisp

namespace Value

mutual

/-- The source text of a value made of booleans, integers, names, texts and lists, as
characters; a list headed by `quote` prints as its second item behind `'`. -/
def sourceChars : Value → List Char
  | .bool b => if b then ['#', 't'] else ['#', 'f']
  | .int n => (toString n).toList
  | .sym s => s.toList
  | .str (.text t) => '"' :: t.toList ++ ['"']
  | .list (.sym "quote" :: v :: _) => '\'' :: sourceChars v
  | .list xs => '(' :: itemsChars xs ++ [')']
  | _ => []

def itemsChars : List Value → List Char
  | [] => []
  | [x] => sourceChars x
  | x :: y :: xs => sourceChars x ++ ' ' :: itemsChars (y :: xs)

end

mutual

/-- The values whose printing cannot fail: booleans, integers of at most `maxDigits` digits,
names, texts of characters, and lists in which every `quote` at the head has one item after
it. -/
def HasSource : Value → Prop
  | .bool _ | .sym _ | .str (.text _) => True
  | .int n => Decimal.hasText n = true
  | .list [.sym "quote", v] => HasSource v
  | .list (.sym "quote" :: _) => False
  | .list xs => HasSourceItems xs
  | _ => False

def HasSourceItems : List Value → Prop
  | [] => True
  | x :: xs => HasSource x ∧ HasSourceItems xs

end

theorem sourceChars_quote (v : Value) (rest : List Value) :
    sourceChars (.list (.sym "quote" :: v :: rest)) = '\'' :: sourceChars v := by
  rw [sourceChars]

theorem sourceChars_list {xs : List Value} (h : xs.head? ≠ some (.sym "quote")) :
    sourceChars (.list xs) = '(' :: itemsChars xs ++ [')'] := by
  rw [sourceChars]
  rintro v tail rfl
  simp at h

theorem hasSource_quote (v : Value) : HasSource (.list [.sym "quote", v]) ↔ HasSource v := by
  rw [HasSource]

theorem hasSourceItems_iff {xs : List Value} : HasSourceItems xs ↔ ∀ x ∈ xs, HasSource x := by
  induction xs with
  | nil => simp [HasSourceItems]
  | cons x xs ih => simp [HasSourceItems, ih]

theorem hasSource_list {xs : List Value} (h : xs.head? ≠ some (.sym "quote")) :
    HasSource (.list xs) ↔ HasSourceItems xs := by
  rw [HasSource]
  · rintro v rfl
    simp at h
  · rintro tail rfl
    simp at h

theorem itemsChars_eq_intercalate (xs : List Value) :
    itemsChars xs = [' '].intercalate (xs.map sourceChars) := by
  induction xs with
  | nil => rfl
  | cons x xs ih =>
    cases xs with
    | nil => simp [itemsChars]
    | cons y ys => simp [itemsChars, ih, List.intercalate_cons_cons]

theorem itemsChars_of_sep {P : List Char → Prop} (sep : ∀ cs ds, P cs → P ds → P (cs ++ ' ' :: ds))
    {xs : List Value} (h : ∀ x ∈ xs, P x.sourceChars) (hne : xs ≠ []) : P (itemsChars xs) := by
  induction xs with
  | nil => exact absurd rfl hne
  | cons x xs ih =>
    cases xs with
    | nil => exact h x List.mem_cons_self
    | cons y ys =>
      have hys := ih (fun z hz => h z (List.mem_cons_of_mem x hz)) (List.cons_ne_nil y ys)
      exact sep _ _ (h x List.mem_cons_self) hys

theorem toSource_quote (v : Value) (rest : List Value) :
    toSource (.list (.sym "quote" :: v :: rest)) = (toSource v).bind fun s => .ok ("'" ++ s) := by
  rw [toSource]
  rfl

theorem toSource_list {xs : List Value} (h : xs.head? ≠ some (.sym "quote")) :
    toSource (.list xs) =
      (sourceItems xs).bind fun items => .ok ("(" ++ " ".intercalate items ++ ")") := by
  rw [toSource]
  · rfl
  · rintro rest rfl
    simp at h

theorem ofList_sourceChars_list (xs : List Value) :
    String.ofList ('(' :: itemsChars xs ++ [')']) =
      "(" ++ " ".intercalate (xs.map fun x => String.ofList x.sourceChars) ++ ")" := by
  rw [← String.toList_inj]
  simp [itemsChars_eq_intercalate, Function.comp_def]

mutual

theorem toSource_eq_sourceChars : ∀ (v : Value), HasSource v →
    v.toSource = .ok (String.ofList v.sourceChars)
  | .bool b, _ => by cases b <;> rfl
  | .int n, h => by
    simp only [HasSource] at h
    simp [toSource, describe, describeItem, Decimal.intText, h, sourceChars]
  | .sym s, _ => by simp [toSource, describe, sourceChars]
  | .str (.text t), _ => by
    simp only [toSource, describe, Datum.display, sourceChars]
    simp [bind, Except.bind, pure, Except.pure, ← String.toList_inj]
  | .list [], _ => by
    rw [toSource_list (by simp), sourceChars_list (by simp)]
    rfl
  | .list (x :: rest), h => by
    by_cases hx : x = .sym "quote"
    · subst hx
      cases rest with
      | nil => simp [HasSource] at h
      | cons v r =>
        cases r with
        | nil =>
          rw [toSource_quote, toSource_eq_sourceChars v ((hasSource_quote v).1 h),
            sourceChars_quote]
          simp [Except.bind]
        | cons w r => simp [HasSource] at h
    · have hq : (x :: rest).head? ≠ some (.sym "quote") := by simpa using hx
      rw [toSource_list hq, sourceItems_eq_map (x :: rest) ((hasSource_list hq).1 h),
        sourceChars_list hq, ofList_sourceChars_list]
      rfl
  | .float _, h | .closure .., h => by simp [HasSource] at h
  | .str .null, h | .str (.bool _), h | .str (.int _), h | .str (.float _), h
  | .str (.list _), h | .str (.map _), h => by simp [HasSource] at h

theorem sourceItems_eq_map : ∀ (xs : List Value), HasSourceItems xs →
    sourceItems xs = .ok (xs.map fun x => String.ofList x.sourceChars)
  | [], _ => rfl
  | x :: xs, ⟨hx, hxs⟩ => by
    rw [sourceItems, toSource_eq_sourceChars x hx, sourceItems_eq_map xs hxs]
    rfl

end

end Value

end TinyLisp
