import Mathlib.Order.Basic
import Mathlib.Data.Option.Defs
import TinyLisp.Syntax.Printer
import TinyLisp.Proofs.StoreGrowth

/-!
# Runs that differ only in the serials of their closures
-/

namespace TinyLisp

/-- The serial numbers of the closures of one run, paired one to one with those of another. -/
structure Pairing where
  rel : Nat → Nat → Prop
  functional : ∀ {s t t'}, rel s t → rel s t' → t = t'
  injective : ∀ {s s' t}, rel s t → rel s' t → s = s'

namespace Pairing

instance : Preorder Pairing where
  le ρ ρ' := ∀ s t, ρ.rel s t → ρ'.rel s t
  le_refl _ _ _ h := h
  le_trans _ _ _ h₁ h₂ s t h := h₂ s t (h₁ s t h)

/-- Every serial below `c` paired with itself: the closures made before two runs start. -/
def below (c : Nat) : Pairing where
  rel s t := s = t ∧ s < c
  functional h h' := h.1.symm.trans h'.1
  injective h h' := h.1.trans h'.1.symm

/-- The pairing with one pair more, of two serials it leaves unpaired. -/
def add (ρ : Pairing) (s t : Nat) (hs : ∀ t', ¬ρ.rel s t') (ht : ∀ s', ¬ρ.rel s' t) :
    Pairing where
  rel a b := ρ.rel a b ∨ (a = s ∧ b = t)
  functional := by
    intro a b b' h h'
    rcases h with h | ⟨rfl, rfl⟩ <;> rcases h' with h' | ⟨he, rfl⟩
    · exact ρ.functional h h'
    · exact absurd (he ▸ h) (hs b)
    · exact absurd h' (hs b')
    · rfl
  injective := by
    intro a a' b h h'
    rcases h with h | ⟨rfl, rfl⟩ <;> rcases h' with h' | ⟨rfl, he⟩
    · exact ρ.injective h h'
    · exact absurd (he ▸ h) (ht a)
    · exact absurd h' (ht a')
    · rfl

theorem le_add (ρ : Pairing) (s t : Nat) (hs : ∀ t', ¬ρ.rel s t') (ht : ∀ s', ¬ρ.rel s' t) :
    ρ ≤ ρ.add s t hs ht :=
  fun _ _ h => .inl h

theorem add_rel (ρ : Pairing) (s t : Nat) (hs : ∀ t', ¬ρ.rel s t') (ht : ∀ s', ¬ρ.rel s' t) :
    (ρ.add s t hs ht).rel s t :=
  .inr ⟨rfl, rfl⟩

end Pairing

namespace Value

mutual

/-- Two values that are the same but for the serials of their closures, which `ρ` pairs. -/
inductive Alike (ρ : Pairing) : Value → Value → Prop
  | bool (b : Bool) : Alike ρ (.bool b) (.bool b)
  | int (n : Int) : Alike ρ (.int n) (.int n)
  | float (x : Binary64) : Alike ρ (.float x) (.float x)
  | sym (s : String) : Alike ρ (.sym s) (.sym s)
  | str (d : Datum) : Alike ρ (.str d) (.str d)
  | list {xs ys : List Value} : AlikeItems ρ xs ys → Alike ρ (.list xs) (.list ys)
  | closure {s t : Nat} {f : FrameId} {p q b c : Value} :
      ρ.rel s t → Alike ρ p q → Alike ρ b c → Alike ρ (.closure s f p b) (.closure t f q c)

inductive AlikeItems (ρ : Pairing) : List Value → List Value → Prop
  | nil : AlikeItems ρ [] []
  | cons {x y : Value} {xs ys : List Value} :
      Alike ρ x y → AlikeItems ρ xs ys → AlikeItems ρ (x :: xs) (y :: ys)

end

/-- A value whose closures all have serials below `c`, as every value a run starting at the
serial `c` can see. -/
def SerialsBelow (c : Nat) (v : Value) : Prop := Alike (Pairing.below c) v v

variable {ρ ρ' : Pairing}

mutual

theorem Alike.mono (hle : ρ ≤ ρ') : ∀ {v w : Value}, Alike ρ v w → Alike ρ' v w
  | _, _, .bool b => .bool b
  | _, _, .int n => .int n
  | _, _, .float x => .float x
  | _, _, .sym s => .sym s
  | _, _, .str d => .str d
  | _, _, .list h => .list (h.mono hle)
  | _, _, .closure hs hp hb => .closure (hle _ _ hs) (hp.mono hle) (hb.mono hle)

theorem AlikeItems.mono (hle : ρ ≤ ρ') : ∀ {xs ys : List Value}, AlikeItems ρ xs ys →
    AlikeItems ρ' xs ys
  | _, _, .nil => .nil
  | _, _, .cons h hs => .cons (h.mono hle) (hs.mono hle)

end

theorem AlikeItems.length_eq : ∀ {xs ys : List Value}, AlikeItems ρ xs ys →
    xs.length = ys.length
  | _, _, .nil => rfl
  | _, _, .cons _ h => congrArg (· + 1) h.length_eq

theorem AlikeItems.getD : ∀ {xs ys : List Value}, AlikeItems ρ xs ys → ∀ i : Nat,
    Alike ρ (xs.getD i default) (ys.getD i default)
  | _, _, .nil, _ => .bool false
  | _, _, .cons hx _, 0 => hx
  | _, _, .cons _ hs, i + 1 => hs.getD i

theorem AlikeItems.getElem? : ∀ {xs ys : List Value}, AlikeItems ρ xs ys → ∀ i : Nat,
    Option.Rel (Alike ρ) xs[i]? ys[i]?
  | _, _, .nil, _ => .none
  | _, _, .cons hx _, 0 => .some hx
  | _, _, .cons _ hs, i + 1 => hs.getElem? i

theorem AlikeItems.drop : ∀ {xs ys : List Value}, AlikeItems ρ xs ys → ∀ n : Nat,
    AlikeItems ρ (xs.drop n) (ys.drop n)
  | _, _, .nil, _ => by simpa using AlikeItems.nil
  | _, _, .cons hx hs, 0 => .cons hx hs
  | _, _, .cons _ hs, n + 1 => hs.drop n

theorem AlikeItems.all_eq {f : Value → Bool} (hf : ∀ v w, Alike ρ v w → f v = f w) :
    ∀ {xs ys : List Value}, AlikeItems ρ xs ys → xs.all f = ys.all f
  | _, _, .nil => rfl
  | _, _, .cons h hs => by rw [List.all_cons, List.all_cons, hf _ _ h, hs.all_eq hf]

theorem alikeItems_syms (names : List String) :
    AlikeItems ρ (names.map .sym) (names.map .sym) := by
  induction names with
  | nil => exact .nil
  | cons n names ih => exact .cons (.sym n) ih

theorem Alike.isAtom_eq {v w : Value} (h : Alike ρ v w) : v.isAtom = w.isAtom := by
  cases h <;> rfl

theorem Alike.truthy_eq {v w : Value} (h : Alike ρ v w) : v.truthy = w.truthy := by
  cases h with
  | list hs => cases hs <;> rfl
  | _ => rfl

theorem Alike.integer?_eq {v w : Value} (h : Alike ρ v w) : v.integer? = w.integer? := by
  cases h <;> rfl

theorem Alike.typeName_eq {v w : Value} (h : Alike ρ v w) : v.typeName = w.typeName := by
  cases h <;> rfl

theorem Alike.length?_eq {v w : Value} (h : Alike ρ v w) : v.length? = w.length? := by
  cases h with
  | list hs => simp only [length?, hs.length_eq]
  | _ => rfl

theorem Alike.elements? {v w : Value} (h : Alike ρ v w) :
    Option.Rel (AlikeItems ρ) v.elements? w.elements? := by
  cases h with
  | list hs => exact .some hs
  | sym s =>
    have h := alikeItems_syms (ρ := ρ) (s.toList.map String.singleton)
    rw [List.map_map] at h
    exact .some h
  | _ => exact .none

theorem Alike.item? {v w : Value} (h : Alike ρ v w) (i : Nat) :
    Option.Rel (Alike ρ) (v.item? i) (w.item? i) := by
  cases h with
  | list hs => exact hs.getElem? i
  | sym s =>
    show Option.Rel _ ((s.toList[i]?).map _) ((s.toList[i]?).map _)
    cases s.toList[i]? with
    | none => exact .none
    | some c => exact .some (.sym _)
  | _ => exact .none

theorem optionRel_getD {α β : Type} {r : α → β → Prop} {o₁ : Option α} {o₂ : Option β}
    (h : Option.Rel r o₁ o₂) {d₁ : α} {d₂ : β} (hd : r d₁ d₂) : r (o₁.getD d₁) (o₂.getD d₂) := by
  cases h with
  | some h => exact h
  | none => exact hd

/-- `eq` answers alike values alike: two closures are the same closure in one run exactly when
their paired serials are in the other. -/
theorem Alike.equal_eq {v v' w w' : Value} (hv : Alike ρ v v') (hw : Alike ρ w w') :
    v.equal w = v'.equal w' := by
  cases hv <;> cases hw
  case closure.closure s t _ _ _ _ _ hst _ _ s' t' _ _ _ _ _ hst' _ _ =>
    have key : s = s' ↔ t = t' :=
      ⟨fun h => ρ.functional hst (h ▸ hst'), fun h => ρ.injective hst (h ▸ hst')⟩
    simp only [equal]
    by_cases h : s = s'
    · simp [h, key.1 h]
    · simp [h, mt key.2 h]
  all_goals rfl

mutual

theorem Alike.describeItem_eq : ∀ {v w : Value}, Alike ρ v w → v.describeItem = w.describeItem
  | _, _, .bool _ | _, _, .int _ | _, _, .float _ | _, _, .sym _ | _, _, .str _ => rfl
  | _, _, .list hs => by rw [describeItem, describeItem, hs.describeItems_eq]
  | _, _, .closure _ hp _ => by rw [describeItem, describeItem, closureText, closureText, hp.length?_eq,
      hp.typeName_eq]

theorem AlikeItems.describeItems_eq : ∀ {xs ys : List Value}, AlikeItems ρ xs ys →
    describeItems xs = describeItems ys
  | _, _, .nil => rfl
  | _, _, .cons h hs => by rw [describeItems, describeItems, h.describeItem_eq, hs.describeItems_eq]

end

theorem Alike.describe_eq {v w : Value} (h : Alike ρ v w) : v.describe = w.describe := by
  have hi := h.describeItem_eq
  cases h with
  | list _ => exact hi
  | closure _ _ _ => exact hi
  | _ => rfl

end Value

namespace Store

variable {ρ ρ' : Pairing}

/-- Bindings alike pair by pair: the same names in the same order, bound to alike values. -/
def BindingsAlike (ρ : Pairing) (b₁ b₂ : Bindings) : Prop :=
  List.Forall₂ (fun p q => p.1 = q.1 ∧ Value.Alike ρ p.2 q.2) b₁ b₂

theorem BindingsAlike.mono {b₁ b₂ : Bindings} (hle : ρ ≤ ρ') (h : BindingsAlike ρ b₁ b₂) :
    BindingsAlike ρ' b₁ b₂ :=
  h.imp fun _ _ hpq => ⟨hpq.1, hpq.2.mono hle⟩

theorem bindingsAlike_pairs : ∀ {names : List String} {vs ws : List Value},
    Value.AlikeItems ρ vs ws → BindingsAlike ρ (names.zip vs) (names.zip ws)
  | [], _, _, _ => .nil
  | _ :: _, _, _, .nil => .nil
  | _ :: _, _, _, .cons hx hs => .cons ⟨rfl, hx⟩ (bindingsAlike_pairs hs)

theorem BindingsAlike.find? {b₁ b₂ : Bindings} (h : BindingsAlike ρ b₁ b₂) (name : String) :
    Option.Rel (Value.Alike ρ) ((b₁.find? (·.1 == name)).map (·.2))
      ((b₂.find? (·.1 == name)).map (·.2)) := by
  induction h with
  | nil => exact .none
  | cons hpq _ ih =>
    obtain ⟨hk, hv⟩ := hpq
    rw [List.find?_cons, List.find?_cons, hk]
    split
    · exact .some hv
    · exact ih

/-- Two stores alike under a pairing: the same frames, with alike bindings, and every serial the
pairing pairs given out in both. -/
structure Alike (ρ : Pairing) (st₁ st₂ : Store) : Prop where
  size : st₂.frames.size = st₁.frames.size
  frames : ∀ f, BindingsAlike ρ (st₁.bindings f) (st₂.bindings f)
  issued : ∀ {s t}, ρ.rel s t → s < st₁.closures ∧ t < st₂.closures

/-- A store whose closures all have serials below its count of closures. -/
def SerialsBelow (st : Store) : Prop := Alike (Pairing.below st.closures) st st

/-- The store a session starts from has no closure. -/
theorem serialsBelow_initial : initial.SerialsBelow :=
  ⟨rfl, fun f => by cases f <;> exact .nil, fun h => absurd h.2 (Nat.not_lt_zero _)⟩

theorem Alike.lookup {st₁ st₂ : Store} (h : Alike ρ st₁ st₂) (f : FrameId) (name : String) :
    Option.Rel (Value.Alike ρ) (st₁.lookup f name) (st₂.lookup f name) :=
  (h.frames f).find? name

theorem bindings_push (st : Store) (b : Bindings) (g : FrameId) :
    ({ st with frames := st.frames.push b } : Store).bindings g =
      if g < st.frames.size then st.bindings g else if g = st.frames.size then b else [] := by
  by_cases hg : g < st.frames.size
  · rw [if_pos hg, bindings_push_of_lt hg]
  · rw [if_neg hg]
    by_cases he : g = st.frames.size
    · rw [if_pos he, he, bindings_push_size]
    · rw [if_neg he]
      simp [bindings, Array.getElem?_push, he, hg]

theorem Alike.push {st₁ st₂ : Store} {b₁ b₂ : Bindings} (h : Alike ρ st₁ st₂)
    (hb : BindingsAlike ρ b₁ b₂) :
    Alike ρ { st₁ with frames := st₁.frames.push b₁ } { st₂ with frames := st₂.frames.push b₂ } := by
  refine ⟨by simp [h.size], fun g => ?_, h.issued⟩
  rw [bindings_push, bindings_push, h.size]
  split
  · exact h.frames g
  · split
    · exact hb
    · exact .nil

theorem bindings_bind_of_size_le {st : Store} {f : FrameId} {name : String} {v : Value}
    (h : st.frames.size ≤ f) : (st.bind f name v).bindings f = st.bindings f := by
  simp [bind, bindings, Array.getElem?_modify, Array.getElem?_eq_none h]

theorem Alike.bind {st₁ st₂ : Store} (h : Alike ρ st₁ st₂) (f : FrameId) (name : String)
    {v w : Value} (hv : Value.Alike ρ v w) : Alike ρ (st₁.bind f name v) (st₂.bind f name w) := by
  refine ⟨by rw [size_bind, size_bind, h.size], fun g => ?_, h.issued⟩
  by_cases hfg : f = g
  · subst hfg
    by_cases hlt : f < st₁.frames.size
    · rw [bindings_bind_self hlt, bindings_bind_self (h.size ▸ hlt)]
      exact .cons ⟨rfl, hv⟩ (h.frames f)
    · have hle := Nat.le_of_not_lt hlt
      rw [bindings_bind_of_size_le hle, bindings_bind_of_size_le (h.size ▸ hle)]
      exact h.frames f
  · rw [bindings_bind_of_ne hfg, bindings_bind_of_ne hfg]
    exact h.frames g

theorem Alike.serial_left {st₁ st₂ : Store} (h : Alike ρ st₁ st₂) :
    Alike ρ { st₁ with closures := st₁.closures + 1 } st₂ :=
  ⟨h.size, h.frames, fun hr => ⟨Nat.lt_succ_of_lt (h.issued hr).1, (h.issued hr).2⟩⟩

theorem Alike.serial_right {st₁ st₂ : Store} (h : Alike ρ st₁ st₂) :
    Alike ρ st₁ { st₂ with closures := st₂.closures + 1 } :=
  ⟨h.size, h.frames, fun hr => ⟨(h.issued hr).1, Nat.lt_succ_of_lt (h.issued hr).2⟩⟩

theorem Alike.fresh_left {st₁ st₂ : Store} (h : Alike ρ st₁ st₂) :
    ∀ t', ¬ρ.rel st₁.closures t' :=
  fun _ hr => Nat.lt_irrefl _ (h.issued hr).1

theorem Alike.fresh_right {st₁ st₂ : Store} (h : Alike ρ st₁ st₂) :
    ∀ s', ¬ρ.rel s' st₂.closures :=
  fun _ hr => Nat.lt_irrefl _ (h.issued hr).2

theorem Alike.serial_both {st₁ st₂ : Store} (h : Alike ρ st₁ st₂) :
    Alike (ρ.add st₁.closures st₂.closures h.fresh_left h.fresh_right)
      { st₁ with closures := st₁.closures + 1 } { st₂ with closures := st₂.closures + 1 } := by
  refine ⟨h.size, fun g => (h.frames g).mono (ρ.le_add _ _ _ _), fun hr => ?_⟩
  rcases hr with hr | ⟨rfl, rfl⟩
  · exact ⟨Nat.lt_succ_of_lt (h.issued hr).1, Nat.lt_succ_of_lt (h.issued hr).2⟩
  · exact ⟨Nat.lt_succ_self _, Nat.lt_succ_self _⟩

end Store

end TinyLisp
