import TinyLisp.Proofs.PreludeLoad

/-!
# Serial numbers below the count of closures
-/

namespace TinyLisp

theorem Pairing.below_mono {c c' : Nat} (hc : c ≤ c') : Pairing.below c ≤ Pairing.below c' :=
  fun _ _ hr => ⟨hr.1, Nat.lt_of_lt_of_le hr.2 hc⟩

theorem Pairing.below_issued {c s t : Nat} (hr : (Pairing.below c).rel s t) : s < c ∧ t < c :=
  ⟨hr.2, hr.1 ▸ hr.2⟩

namespace Value

mutual

/-- Whether every closure in a value has a serial below `c`. -/
def serialsUnder (c : Nat) : Value → Bool
  | .list xs => serialsUnderItems c xs
  | .closure s _ params body => decide (s < c) && serialsUnder c params && serialsUnder c body
  | _ => true

def serialsUnderItems (c : Nat) : List Value → Bool
  | [] => true
  | v :: vs => serialsUnder c v && serialsUnderItems c vs

end

variable {ρ : Pairing} {c : Nat}

mutual

theorem serialsBelow_of_serialsUnder : ∀ {v : Value}, serialsUnder c v = true → SerialsBelow c v
  | .bool b, _ => .bool b
  | .int n, _ => .int n
  | .float x, _ => .float x
  | .sym s, _ => .sym s
  | .str d, _ => .str d
  | .list _, h => .list (alikeItems_of_serialsUnderItems h)
  | .closure s _ _ _, h => by
    rw [serialsUnder, Bool.and_eq_true, Bool.and_eq_true, decide_eq_true_iff] at h
    exact .closure ⟨rfl, h.1.1⟩ (serialsBelow_of_serialsUnder h.1.2)
      (serialsBelow_of_serialsUnder h.2)

theorem alikeItems_of_serialsUnderItems : ∀ {xs : List Value}, serialsUnderItems c xs = true →
    AlikeItems (Pairing.below c) xs xs
  | [], _ => .nil
  | _ :: _, h => by
    rw [serialsUnderItems, Bool.and_eq_true] at h
    exact .cons (serialsBelow_of_serialsUnder h.1) (alikeItems_of_serialsUnderItems h.2)

end

mutual

theorem Alike.serialsBelow (hρ : ∀ {s t}, ρ.rel s t → s < c) :
    ∀ {v w : Value}, Alike ρ v w → SerialsBelow c v
  | _, _, .bool b => .bool b
  | _, _, .int n => .int n
  | _, _, .float x => .float x
  | _, _, .sym s => .sym s
  | _, _, .str d => .str d
  | _, _, .list h => .list (h.serialsBelow hρ)
  | _, _, .closure hs hp hb => .closure ⟨rfl, hρ hs⟩ (hp.serialsBelow hρ) (hb.serialsBelow hρ)

theorem AlikeItems.serialsBelow (hρ : ∀ {s t}, ρ.rel s t → s < c) :
    ∀ {xs ys : List Value}, AlikeItems ρ xs ys → AlikeItems (Pairing.below c) xs xs
  | _, _, .nil => .nil
  | _, _, .cons h hs => .cons (h.serialsBelow hρ) (hs.serialsBelow hρ)

end

theorem SerialsBelow.mono {c' : Nat} {v : Value} (hc : c ≤ c') (h : SerialsBelow c v) :
    SerialsBelow c' v :=
  Alike.mono (Pairing.below_mono hc) h

end Value

namespace Store

variable {ρ : Pairing}

theorem BindingsAlike.serialsBelow {c : Nat} (hρ : ∀ {s t}, ρ.rel s t → s < c)
    {b₁ b₂ : Bindings} (h : BindingsAlike ρ b₁ b₂) : BindingsAlike (Pairing.below c) b₁ b₁ := by
  induction h with
  | nil => exact .nil
  | cons hpq _ ih => exact .cons ⟨rfl, hpq.2.serialsBelow hρ⟩ ih

theorem Alike.serialsBelow {st₁ st₂ : Store} (h : Alike ρ st₁ st₂) : st₁.SerialsBelow :=
  ⟨rfl, fun f => (h.frames f).serialsBelow fun hr => (h.issued hr).1,
    Pairing.below_issued⟩

theorem SerialsBelow.serial {st : Store} (h : st.SerialsBelow) :
    ({ st with closures := st.closures + 1 } : Store).SerialsBelow :=
  ⟨rfl, fun f => (h.frames f).mono (Pairing.below_mono (Nat.le_succ _)),
    Pairing.below_issued⟩

theorem SerialsBelow.bind {st : Store} (h : st.SerialsBelow) (f : FrameId) (name : String)
    {v : Value} (hv : v.SerialsBelow st.closures) : (st.bind f name v).SerialsBelow :=
  Alike.bind h f name hv

end Store

namespace Eval

variable {fuel : Nat} {env : FrameId} {e v : Value} {st st' : Store}

theorem matches_self (fuel : Nat) (env : FrameId) (hst : st.SerialsBelow)
    (he : e.SerialsBelow st.closures) :
    Matches Value.Alike (Pairing.below st.closures) (eval fuel env e st) (eval fuel env e st) :=
  eval_matched (Nat.le_refl fuel) _ env e e he _ (le_refl _) st st hst

/-- A run of the evaluator that returns keeps every serial of the store below its count of
closures, and returns a value whose serials are below it too. -/
theorem SerialsBelow.eval_ok (hst : st.SerialsBelow) (he : e.SerialsBelow st.closures)
    (h : eval fuel env e st = .ok v st') : st'.SerialsBelow ∧ v.SerialsBelow st'.closures := by
  have hm := matches_self fuel env hst he
  rw [h] at hm
  rcases hm with hout | ⟨ρ, _, hv, hs⟩
  · exact absurd hout id
  · exact ⟨hs.serialsBelow, hv.serialsBelow fun hr => (hs.issued hr).1⟩

theorem SerialsBelow.eval_error {f : Fault} (hst : st.SerialsBelow)
    (he : e.SerialsBelow st.closures) (h : eval fuel env e st = .error f st') (hf : f ≠ .outOfFuel) :
    st'.SerialsBelow := by
  have hm := matches_self fuel env hst he
  rw [h] at hm
  rcases hm with hout | ⟨ρ, _, _, hs⟩
  · exact absurd (eq_outOfFuel_of_error hout) hf
  · exact hs.serialsBelow

end Eval

namespace Prelude

theorem serialsUnder_defs : ∀ d ∈ defs, (Value.list (d.params.map .sym)).serialsUnder 0 = true ∧
    d.body.serialsUnder 0 = true := by
  decide

theorem serialsBelow_load {st : Store} (hst : st.SerialsBelow) {d : Def}
    (hd : d ∈ defs) : (d.load st).SerialsBelow := by
  obtain ⟨hp, hb⟩ := serialsUnder_defs d hd
  have hc : Value.SerialsBelow (st.closures + 1) (d.closure st.closures) :=
    .closure ⟨rfl, Nat.lt_succ_self _⟩
      ((Value.serialsBelow_of_serialsUnder hp).mono (Nat.zero_le _))
      ((Value.serialsBelow_of_serialsUnder hb).mono (Nat.zero_le _))
  exact hst.serial.bind 0 d.name hc

theorem serialsBelow_store : store.SerialsBelow := by
  unfold store
  suffices h : ∀ ds : List Def, (∀ d ∈ ds, d ∈ defs) → ∀ st : Store, st.SerialsBelow →
      (ds.foldl (fun st d => d.load st) st).SerialsBelow from
    h defs (fun _ hd => hd) _ Store.serialsBelow_initial
  intro ds
  induction ds with
  | nil => exact fun _ _ hst => hst
  | cons d ds ih =>
    intro hds st hst
    exact ih (fun e he => hds e (List.mem_cons_of_mem d he)) _
      (serialsBelow_load hst (hds d List.mem_cons_self))

/-- A session starts from a store whose closures all have serials below its count of closures,
with or without the prelude. -/
theorem serialsBelow_start (withPrelude : Bool) : (Session.start withPrelude).SerialsBelow := by
  cases withPrelude with
  | false => exact Store.serialsBelow_initial
  | true =>
    rw [start_prelude]
    exact serialsBelow_store

end Prelude

end TinyLisp
