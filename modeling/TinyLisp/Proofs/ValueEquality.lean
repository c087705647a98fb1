import TinyLisp.Syntax.Value

/-!
# Deciding equality of values
-/

namespace TinyLisp

namespace Datum

mutual

/-- Whether two data are the same, constructor by constructor. -/
def same : Datum → Datum → Bool
  | .null, .null => true
  | .bool a, .bool b => a == b
  | .int a, .int b => a == b
  | .float a, .float b => a == b
  | .text a, .text b => a == b
  | .list xs, .list ys => sameItems xs ys
  | .map es, .map fs => sameEntries es fs
  | _, _ => false

def sameItems : List Datum → List Datum → Bool
  | [], [] => true
  | x :: xs, y :: ys => x.same y && sameItems xs ys
  | _, _ => false

def sameEntries : List (String × Datum) → List (String × Datum) → Bool
  | [], [] => true
  | (k, x) :: es, (l, y) :: fs => k == l && x.same y && sameEntries es fs
  | _, _ => false

end

mutual

theorem eq_of_same : ∀ {a b : Datum}, a.same b = true → a = b
  | .null, b, h | .bool _, b, h | .int _, b, h | .float _, b, h | .text _, b, h => by
    cases b <;> simp_all [same]
  | .list xs, b, h => by
    cases b <;> simp only [same, Bool.false_eq_true] at h
    rw [eq_of_sameItems h]
  | .map es, b, h => by
    cases b <;> simp only [same, Bool.false_eq_true] at h
    rw [eq_of_sameEntries h]

theorem eq_of_sameItems : ∀ {xs ys : List Datum}, sameItems xs ys = true → xs = ys
  | [], ys, h => by
    cases ys <;> simp_all [sameItems]
  | x :: xs, ys, h => by
    cases ys <;> simp only [sameItems, Bool.false_eq_true, Bool.and_eq_true] at h
    rw [eq_of_same h.1, eq_of_sameItems h.2]

theorem eq_of_sameEntries : ∀ {es fs : List (String × Datum)}, sameEntries es fs = true → es = fs
  | [], fs, h => by
    cases fs <;> simp_all [sameEntries]
  | (k, x) :: es, fs, h => by
    rcases fs with _ | ⟨⟨l, y⟩, fs⟩ <;>
      simp only [sameEntries, Bool.false_eq_true, Bool.and_eq_true, beq_iff_eq] at h
    rw [h.1.1, eq_of_same h.1.2, eq_of_sameEntries h.2]

end

mutual

theorem same_refl : ∀ a : Datum, a.same a = true
  | .null | .bool _ | .int _ | .float _ | .text _ => by simp [same]
  | .list xs => by simp only [same, sameItems_refl xs]
  | .map es => by simp only [same, sameEntries_refl es]

theorem sameItems_refl : ∀ xs : List Datum, sameItems xs xs = true
  | [] => rfl
  | x :: xs => by simp only [sameItems, same_refl x, sameItems_refl xs, Bool.and_self]

theorem sameEntries_refl : ∀ es : List (String × Datum), sameEntries es es = true
  | [] => rfl
  | (k, x) :: es => by
    simp only [sameEntries, beq_self_eq_true, same_refl x, sameEntries_refl es, Bool.and_self]

end

theorem same_iff {a b : Datum} : a.same b = true ↔ a = b :=
  ⟨eq_of_same, fun h => h ▸ same_refl a⟩

instance : DecidableEq Datum := fun _ _ => decidable_of_iff _ same_iff

end Datum

namespace Value

mutual

/-- Whether two values are the same, constructor by constructor. -/
def same : Value → Value → Bool
  | .bool a, .bool b => a == b
  | .int a, .int b => a == b
  | .float a, .float b => a == b
  | .sym a, .sym b => a == b
  | .str d, .str e => d.same e
  | .list xs, .list ys => sameItems xs ys
  | .closure n f p b, .closure m g q c => n == m && f == g && p.same q && b.same c
  | _, _ => false

def sameItems : List Value → List Value → Bool
  | [], [] => true
  | x :: xs, y :: ys => x.same y && sameItems xs ys
  | _, _ => false

end

mutual

theorem eq_of_same : ∀ {a b : Value}, a.same b = true → a = b
  | .bool _, b, h | .int _, b, h | .float _, b, h | .sym _, b, h => by
    cases b <;> simp_all [same]
  | .str d, b, h => by
    cases b <;> simp only [same, Bool.false_eq_true] at h
    rw [Datum.eq_of_same h]
  | .list xs, b, h => by
    cases b <;> simp only [same, Bool.false_eq_true] at h
    rw [eq_of_sameItems h]
  | .closure n f p body, b, h => by
    cases b <;> simp only [same, Bool.false_eq_true, Bool.and_eq_true, beq_iff_eq] at h
    obtain ⟨⟨⟨rfl, rfl⟩, hp⟩, hb⟩ := h
    rw [eq_of_same hp, eq_of_same hb]

theorem eq_of_sameItems : ∀ {xs ys : List Value}, sameItems xs ys = true → xs = ys
  | [], ys, h => by
    cases ys <;> simp_all [sameItems]
  | x :: xs, ys, h => by
    cases ys <;> simp only [sameItems, Bool.false_eq_true, Bool.and_eq_true] at h
    rw [eq_of_same h.1, eq_of_sameItems h.2]

end

mutual

theorem same_refl : ∀ a : Value, a.same a = true
  | .bool _ | .int _ | .float _ | .sym _ => by simp [same]
  | .str d => by simp only [same, Datum.same_refl d]
  | .list xs => by simp only [same, sameItems_refl xs]
  | .closure n f p b => by
    simp only [same, beq_self_eq_true, same_refl p, same_refl b, Bool.and_self]

theorem sameItems_refl : ∀ xs : List Value, sameItems xs xs = true
  | [] => rfl
  | x :: xs => by simp only [sameItems, same_refl x, sameItems_refl xs, Bool.and_self]

end

theorem same_iff {a b : Value} : a.same b = true ↔ a = b :=
  ⟨eq_of_same, fun h => h ▸ same_refl a⟩

instance : DecidableEq Value := fun _ _ => decidable_of_iff _ same_iff

example : (Value.list [.sym "quote", .list []] = .list [.sym "quote", .list []]) := by decide

end Value

end TinyLisp
