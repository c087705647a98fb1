import TinyLisp.Proofs.Renaming
import TinyLisp.Proofs.Application

/-!
# Alike runs of the evaluator

Runs on alike programs from alike stores end alike, or the one with less fuel runs out
(`eval_matched`).
-/

namespace TinyLisp

namespace Eval

/-- The end of a run that ran out of fuel. -/
def OutOfFuel {α : Type} : EStateM.Result Fault Store α → Prop
  | .error .outOfFuel _ => True
  | _ => False

/-- Two ends of runs that agree under `ρ`: both return, with values that `R` relates, or both
fail, with the same fault; and the stores they leave are alike. -/
def Ends {α β : Type} (R : Pairing → α → β → Prop) (ρ : Pairing) :
    EStateM.Result Fault Store α → EStateM.Result Fault Store β → Prop
  | .ok a s₁, .ok b s₂ => R ρ a b ∧ Store.Alike ρ s₁ s₂
  | .error e s₁, .error e' s₂ => e = e' ∧ Store.Alike ρ s₁ s₂
  | _, _ => False

/-- The first run runs out of fuel, or it ends as the second does under a pairing that extends
`ρ`. -/
def Matches {α β : Type} (R : Pairing → α → β → Prop) (ρ : Pairing)
    (r₁ : EStateM.Result Fault Store α) (r₂ : EStateM.Result Fault Store β) : Prop :=
  OutOfFuel r₁ ∨ ∃ ρ', ρ ≤ ρ' ∧ Ends R ρ' r₁ r₂

/-- Two computations that, from stores alike under any pairing that extends `ρ`, run to matching
ends. -/
def Matched {α β : Type} (ρ : Pairing) (R : Pairing → α → β → Prop) (m₁ : Eval α)
    (m₂ : Eval β) : Prop :=
  ∀ ρ', ρ ≤ ρ' → ∀ st₁ st₂, Store.Alike ρ' st₁ st₂ → Matches R ρ' (m₁ st₁) (m₂ st₂)

def EvMatched (ev₁ ev₂ : Evaluator) : Prop :=
  ∀ ρ env a b, Value.Alike ρ a b → Matched ρ Value.Alike (ev₁ env a) (ev₂ env b)

def Done {α β : Type} (_ : Pairing) (_ : α) (_ : β) : Prop := True

def Same {α : Type} (_ : Pairing) (a b : α) : Prop := a = b

def PairAlike (ρ : Pairing) (p q : Value × Value) : Prop :=
  Value.Alike ρ p.1 q.1 ∧ Value.Alike ρ p.2 q.2

section Combinators

variable {α β γ δ : Type} {ρ : Pairing} {R : Pairing → α → β → Prop}
  {R' : Pairing → γ → δ → Prop}

theorem Matches.ends {r₁ : EStateM.Result Fault Store α} {r₂ : EStateM.Result Fault Store β}
    (h : Ends R ρ r₁ r₂) : Matches R ρ r₁ r₂ :=
  .inr ⟨ρ, le_refl ρ, h⟩

theorem Matched.mono {ρ' : Pairing} {m₁ : Eval α} {m₂ : Eval β} (hle : ρ ≤ ρ')
    (h : Matched ρ R m₁ m₂) : Matched ρ' R m₁ m₂ :=
  fun ρ'' hle' => h ρ'' (le_trans hle hle')

theorem Matched.pure {a : α} {b : β} (h : ∀ ρ', ρ ≤ ρ' → R ρ' a b) :
    Matched ρ R (pure a) (pure b) :=
  fun ρ' hle _ _ hs => .ends ⟨h ρ' hle, hs⟩

theorem Matched.fail (e : Fault) : Matched ρ R (throw e : Eval α) (throw e : Eval β) :=
  fun _ _ _ _ hs => .ends ⟨rfl, hs⟩

theorem Matched.outOfFuel (m : Eval β) : Matched ρ R (throw .outOfFuel : Eval α) m :=
  fun _ _ _ _ _ => .inl trivial

theorem Matched.bind {x₁ : Eval α} {x₂ : Eval β} {f₁ : α → Eval γ} {f₂ : β → Eval δ}
    (hx : Matched ρ R x₁ x₂) (hf : ∀ ρ', ρ ≤ ρ' → ∀ a b, R ρ' a b → Matched ρ' R' (f₁ a) (f₂ b)) :
    Matched ρ R' (x₁ >>= f₁) (x₂ >>= f₂) := by
  intro ρ' hle st₁ st₂ hs
  rw [bind_apply, bind_apply]
  rcases hx ρ' hle st₁ st₂ hs with hout | ⟨ρ'', hle', hend⟩
  · -- running out of fuel in the first part stops the whole run there
    left
    revert hout
    cases x₁ st₁ with
    | ok => exact fun h => False.elim h
    | error e => cases e <;> exact fun h => h
  · cases h₁ : x₁ st₁ <;> cases h₂ : x₂ st₂ <;> rw [h₁, h₂] at hend
    case ok.ok a s₁ b s₂ =>
      rcases hf ρ'' (le_trans hle hle') a b hend.1 ρ'' (le_refl _) s₁ s₂ hend.2 with
        hout | ⟨ρ₃, hle₃, hend₃⟩
      · exact .inl hout
      · exact .inr ⟨ρ₃, le_trans hle' hle₃, hend₃⟩
    case error.error e s₁ e' s₂ =>
      obtain ⟨rfl, hs'⟩ := hend
      exact .inr ⟨ρ'', hle', rfl, hs'⟩
    all_goals exact absurd hend id

theorem Matched.ite {c : Prop} [Decidable c] {m₁ m₁' : Eval α} {m₂ m₂' : Eval β}
    (h : Matched ρ R m₁ m₂) (h' : Matched ρ R m₁' m₂') :
    Matched ρ R (if c then m₁ else m₁') (if c then m₂ else m₂') := by
  split
  · exact h
  · exact h'

theorem Matched.guard {c : Prop} [Decidable c] {e : Fault} {k₁ : PUnit → Eval α}
    {k₂ : PUnit → Eval β} (hk : Matched ρ R (k₁ ()) (k₂ ())) :
    Matched ρ R (if c then throw e >>= k₁ else k₁ ()) (if c then throw e >>= k₂ else k₂ ()) := by
  split
  · exact Matched.fail e
  · exact hk

theorem Matched.liftExcept_bind {x : Except Fault γ} {f₁ : γ → Eval α} {f₂ : γ → Eval β}
    (hf : ∀ a, Matched ρ R (f₁ a) (f₂ a)) :
    Matched ρ R (liftExcept x >>= f₁) (liftExcept x >>= f₂) := by
  cases x with
  | ok a => exact hf a
  | error e => exact Matched.fail e

end Combinators

section Store

variable {ρ : Pairing}

theorem matched_lookup (env : FrameId) (name : String) :
    Matched ρ Value.Alike (lookup env name) (lookup env name) := by
  intro ρ' _ st₁ st₂ hs
  have hl := hs.lookup env name
  rw [lookup_apply, lookup_apply]
  revert hl
  generalize st₁.lookup env name = o₁
  generalize st₂.lookup env name = o₂
  rintro (hv | _)
  · exact .ends ⟨hv, hs⟩
  · exact .ends ⟨rfl, hs⟩

theorem matched_define (env : FrameId) (name : String) {v w : Value} (hv : Value.Alike ρ v w) :
    Matched ρ Done (define env name v) (define env name w) := by
  intro ρ' hle st₁ st₂ hs
  have hsome : (st₁.lookup env name).isSome = (st₂.lookup env name).isSome := by
    have hl := hs.lookup env name
    revert hl
    generalize st₁.lookup env name = o₁
    generalize st₂.lookup env name = o₂
    rintro (_ | _) <;> rfl
  simp only [define, ← hsome]
  split
  · exact .ends ⟨rfl, hs⟩
  · exact .ends ⟨trivial, hs.bind env name (hv.mono hle)⟩

theorem matched_extend (f : FrameId) {kvs kvs' : List (String × Value)}
    (hkv : Store.BindingsAlike ρ kvs kvs') : Matched ρ Same (extend f kvs) (extend f kvs') := by
  intro ρ' hle st₁ st₂ hs
  rw [extend_apply, extend_apply, hs.size]
  refine .ends ⟨rfl, hs.push ?_⟩
  exact List.rel_append (List.forall₂_reverse_iff.2 (hkv.mono hle)) (hs.frames f)

theorem matched_makeClosure (env : FrameId) {params params' : List Value} {body body' : Value}
    (hp : Value.AlikeItems ρ params params') (hb : Value.Alike ρ body body') :
    Matched ρ Value.Alike (makeClosure env params body) (makeClosure env params' body') := by
  intro ρ' hle st₁ st₂ hs
  refine .inr ⟨_, ρ'.le_add _ _ hs.fresh_left hs.fresh_right, ?_, hs.serial_both⟩
  have hle' := le_trans hle (ρ'.le_add _ _ hs.fresh_left hs.fresh_right)
  exact .closure (ρ'.add_rel _ _ _ _) (.list (hp.mono hle')) (hb.mono hle')

theorem Matched.makeClosure_left {α β : Type} {R : Pairing → α → β → Prop} {m₁ : Eval α}
    {m₂ : Eval β} (h : Matched ρ R m₁ m₂) (env : FrameId) (params : List Value) (body : Value) :
    Matched ρ R (makeClosure env params body >>= fun _ => m₁) m₂ :=
  fun ρ' hle _ _ hs => h ρ' hle _ _ hs.serial_left

theorem Matched.makeClosure_right {α β : Type} {R : Pairing → α → β → Prop} {m₁ : Eval α}
    {m₂ : Eval β} (h : Matched ρ R m₁ m₂) (env : FrameId) (params : List Value) (body : Value) :
    Matched ρ R m₁ (makeClosure env params body >>= fun _ => m₂) :=
  fun ρ' hle _ _ hs => h ρ' hle _ _ hs.serial_right

end Store

section Helpers

variable {ρ : Pairing}

theorem matched_arity (form : String) (n : Nat) {args args' : List Value}
    (h : Value.AlikeItems ρ args args') :
    Matched ρ Done (arity form n args) (arity form n args') := by
  unfold arity
  rw [h.length_eq]
  exact Matched.ite (Matched.pure fun _ _ => trivial) (Matched.fail _)

theorem matched_failWith {α β : Type} {R : Pairing → α → β → Prop} (cause : String → Fault)
    {v w : Value} (h : Value.Alike ρ v w) :
    Matched ρ R (failWith cause v) (failWith cause w) := by
  unfold failWith
  rw [h.describe_eq]
  exact Matched.liftExcept_bind fun _ => Matched.fail _

theorem matched_keyBinding {key key' v w : Value} (hk : Value.Alike ρ key key')
    (hv : Value.Alike ρ v w) :
    Matched ρ Store.BindingsAlike (keyBinding key v) (keyBinding key' w) := by
  cases hk
  case sym s => exact Matched.pure fun _ hle => .cons ⟨rfl, hv.mono hle⟩ .nil
  case list | str => exact Matched.fail _
  all_goals exact Matched.pure fun _ _ => .nil

theorem matched_pairOf (form : String) {v w : Value} (h : Value.Alike ρ v w) :
    Matched ρ PairAlike (pairOf form v) (pairOf form w) := by
  unfold pairOf
  rw [h.length?_eq, h.typeName_eq]
  split
  · exact Matched.fail _
  · exact Matched.ite (Matched.pure fun _ hle =>
      ⟨(Value.optionRel_getD (h.item? 0) (.bool false)).mono hle,
        (Value.optionRel_getD (h.item? 1) (.bool false)).mono hle⟩) (Matched.fail _)

theorem matched_numbers {l l' r r' : Value} (hl : Value.Alike ρ l l') (hr : Value.Alike ρ r r') :
    Matched ρ Same (numbers l r) (numbers l' r') := by
  unfold numbers
  rw [hl.integer?_eq, hr.integer?_eq]
  split
  · exact Matched.pure fun _ _ => rfl
  · exact matched_failWith _ hl
  · exact matched_failWith _ hr

theorem matched_arith (op : String) (a b : Int) :
    Matched ρ Value.Alike (arith op a b) (arith op a b) := by
  unfold arith
  refine Matched.guard ?_
  dsimp only
  split
  · exact Matched.pure fun _ _ => .int _
  · exact Matched.pure fun _ _ => .int _
  · exact Matched.pure fun _ _ => .int _
  · exact Matched.pure fun _ _ => .bool _
  · refine Matched.ite (Matched.fail _) ?_
    split
    · exact Matched.pure fun _ _ => .float _
    · exact Matched.fail _

theorem matched_checkParams {ps ps' : List Value} (h : Value.AlikeItems ρ ps ps') :
    Matched ρ Done (checkParams ps) (checkParams ps') := by
  unfold checkParams
  rw [h.all_eq ?_]
  · exact Matched.ite (Matched.pure fun _ _ => trivial) (Matched.fail _)
  · intro v w hvw
    cases hvw <;> rfl

theorem matched_headOf {v w : Value} (h : Value.Alike ρ v w) :
    Matched ρ Value.Alike (headOf v) (headOf w) := by
  cases h with
  | list hs =>
    cases hs with
    | nil => exact Matched.fail _
    | cons hx _ => exact Matched.pure fun _ hle => hx.mono hle
  | str d =>
    exact Matched.liftExcept_bind fun _ => Matched.ite (Matched.fail _)
      (Matched.liftExcept_bind fun c => Matched.pure fun _ _ => .str c)
  | _ => exact Matched.fail _

theorem matched_tailOf {v w : Value} (h : Value.Alike ρ v w) :
    Matched ρ Value.Alike (tailOf v) (tailOf w) := by
  cases h with
  | list hs =>
    cases hs with
    | nil => exact Matched.fail _
    | cons _ hs => exact Matched.pure fun _ hle => .list (hs.mono hle)
  | str d =>
    exact Matched.liftExcept_bind fun _ => Matched.ite (Matched.fail _)
      (Matched.liftExcept_bind fun c => Matched.pure fun _ _ => .str c)
  | _ => exact Matched.fail _

theorem matched_emptyOf {v w : Value} (h : Value.Alike ρ v w) :
    Matched ρ Value.Alike (emptyOf v) (emptyOf w) := by
  cases h with
  | list hs => cases hs <;> exact Matched.pure fun _ _ => .bool _
  | str d => exact Matched.liftExcept_bind fun _ => Matched.pure fun _ _ => .bool _
  | _ => exact Matched.fail _

theorem matched_consOf {a a' b b' : Value} (ha : Value.Alike ρ a a') (hb : Value.Alike ρ b b') :
    Matched ρ Value.Alike (consOf a b) (consOf a' b') := by
  cases hb with
  | list hs => exact Matched.pure fun _ hle => .list (.cons (ha.mono hle) (hs.mono hle))
  | str t =>
    cases ha
    case str s => exact Matched.liftExcept_bind fun d => Matched.pure fun _ _ => .str d
    all_goals exact Matched.fail _
  | _ => cases ha <;> exact Matched.fail _

end Helpers

theorem pairAlike_zip {ρ : Pairing} : ∀ {xs ys as bs : List Value},
    Value.AlikeItems ρ xs ys → Value.AlikeItems ρ as bs →
      List.Forall₂ (PairAlike ρ) (xs.zip as) (ys.zip bs)
  | _, _, _, _, .nil, _ => .nil
  | _, _, _, _, .cons _ _, .nil => .nil
  | _, _, _, _, .cons hx hs, .cons ha has => .cons ⟨hx, ha⟩ (pairAlike_zip hs has)

section Evaluator

variable {ρ : Pairing} {ev₁ ev₂ : Evaluator}

theorem matched_bindArgs (hev : EvMatched ev₁ ev₂) (env : FrameId)
    {ps ps' : List (Value × Value)} (h : List.Forall₂ (PairAlike ρ) ps ps') :
    Matched ρ Store.BindingsAlike (bindArgs ev₁ env ps) (bindArgs ev₂ env ps') := by
  induction h with
  | nil => exact Matched.pure fun _ _ => .nil
  | @cons p q ps ps' hpq _ ih =>
    rcases p with ⟨k, a⟩
    rcases q with ⟨k', a'⟩
    refine (hev ρ env a a' hpq.2).bind fun ρ₁ h₁ v w hvw => ?_
    refine (matched_keyBinding (hpq.1.mono h₁) hvw).bind fun ρ₂ h₂ kv kw hk => ?_
    refine (ih.mono (le_trans h₁ h₂)).bind fun ρ₃ h₃ kvs kws hkvs => ?_
    exact Matched.pure fun _ h₄ => List.rel_append (hk.mono (le_trans h₃ h₄)) (hkvs.mono h₄)

theorem matched_bindLet (hev : EvMatched ev₁ ev₂) {bs bs' : List Value}
    (h : Value.AlikeItems ρ bs bs') (env : FrameId) :
    Matched ρ Same (bindLet ev₁ env bs) (bindLet ev₂ env bs') := by
  induction bs generalizing bs' env with
  | nil =>
    cases h
    exact Matched.pure fun _ _ => rfl
  | cons b bs ih =>
    cases h with
    | cons hb hbs =>
      rw [bindLet, bindLet]
      refine (matched_pairOf "let" hb).bind fun ρ₁ h₁ p q hpq => ?_
      rcases p with ⟨k, a⟩
      rcases q with ⟨k', a'⟩
      refine (hev ρ₁ env a a' hpq.2).bind fun ρ₂ h₂ v w hvw => ?_
      refine (matched_keyBinding (hpq.1.mono h₂) hvw).bind fun ρ₃ h₃ kvs kws hk => ?_
      refine (matched_extend env hk).bind fun ρ₄ h₄ g g' hg => ?_
      cases hg
      exact (ih hbs g).mono (le_trans h₁ (le_trans h₂ (le_trans h₃ h₄)))

theorem matched_evalCond (hev : EvMatched ev₁ ev₂) (env : FrameId) {cs cs' : List Value}
    (h : Value.AlikeItems ρ cs cs') :
    Matched ρ Value.Alike (evalCond ev₁ env cs) (evalCond ev₂ env cs') := by
  induction cs generalizing cs' with
  | nil =>
    cases h
    exact Matched.pure fun _ _ => .bool false
  | cons c cs ih =>
    cases h with
    | cons hc hcs =>
      rw [evalCond, evalCond]
      refine (matched_pairOf "cond" hc).bind fun ρ₁ h₁ p q hpq => ?_
      rcases p with ⟨t, r⟩
      rcases q with ⟨t', r'⟩
      refine (hev ρ₁ env t t' hpq.1).bind fun ρ₂ h₂ a b hab => ?_
      rw [hab.truthy_eq]
      exact Matched.ite (hev ρ₂ env r r' (hpq.2.mono h₂)) ((ih hcs).mono (le_trans h₁ h₂))

theorem matched_apply (hev : EvMatched ev₁ ev₂) (env frame : FrameId)
    {params params' body body' : Value} {args args' : List Value}
    (hp : Value.Alike ρ params params') (hb : Value.Alike ρ body body')
    (ha : Value.AlikeItems ρ args args') :
    Matched ρ Value.Alike (apply ev₁ env frame params body args)
      (apply ev₂ env frame params' body' args') := by
  unfold apply
  rw [hp.typeName_eq, ha.length_eq]
  have he := hp.elements?
  revert he
  generalize params.elements? = o₁
  generalize params'.elements? = o₂
  rintro (hn | _)
  · dsimp only
    rw [hn.length_eq]
    refine Matched.ite (Matched.fail _) ?_
    refine (matched_bindArgs hev env (pairAlike_zip hn ha)).bind fun ρ₁ h₁ kvs kws hk => ?_
    refine (matched_extend frame hk).bind fun ρ₂ h₂ g g' hg => ?_
    cases hg
    exact hev ρ₂ g body body' (hb.mono (le_trans h₁ h₂))
  · exact Matched.fail _

end Evaluator

theorem evalList_arith {ev : Evaluator} {env : FrameId} {name : String} (args : List Value)
    (h : arithOps.contains name) :
    evalList ev env (.sym name) args = (do
      arity name 3 args
      let l ← ev env (args.getD 0 default)
      let r ← ev env (args.getD 1 default)
      let (a, b) ← numbers l r
      arith name a b) := by
  rw [evalList]
  split
  case isTrue => rfl
  case isFalse hc => exact absurd h hc
  all_goals
    rintro rfl
    exact absurd h (by decide)

theorem alike_bool_of_eq {ρ : Pairing} {b b' : Bool} (h : b = b') :
    Value.Alike ρ (.bool b) (.bool b') :=
  h ▸ .bool b

/-! Each form, run alike: the arguments are alike, and the evaluator runs their parts alike. -/

section Forms

variable {ρ : Pairing} {ev₁ ev₂ : Evaluator} (env : FrameId) {args args' : List Value}
  (hev : EvMatched ev₁ ev₂) (ha : Value.AlikeItems ρ args args')
include hev ha

theorem matched_arg {ρ' : Pairing} (hle : ρ ≤ ρ') (i : Nat) :
    Matched ρ' Value.Alike (ev₁ env (args.getD i default)) (ev₂ env (args'.getD i default)) :=
  hev ρ' env _ _ ((ha.getD i).mono hle)

omit hev in
theorem matched_quoteForm :
    Matched ρ Value.Alike (evalList ev₁ env (.sym "quote") args)
      (evalList ev₂ env (.sym "quote") args') := by
  rw [evalList, evalList]
  exact (matched_arity _ _ ha).bind fun ρ₁ h₁ _ _ _ =>
    Matched.pure fun _ h₂ => (ha.getD 0).mono (le_trans h₁ h₂)

theorem matched_atomForm :
    Matched ρ Value.Alike (evalList ev₁ env (.sym "atom") args)
      (evalList ev₂ env (.sym "atom") args') := by
  rw [evalList, evalList]
  refine (matched_arity _ _ ha).bind fun ρ₁ h₁ _ _ _ =>
    (matched_arg env hev ha h₁ 0).bind fun _ _ v w hvw => ?_
  rw [hvw.isAtom_eq]
  exact Matched.pure fun _ _ => .bool _

theorem matched_eqForm :
    Matched ρ Value.Alike (evalList ev₁ env (.sym "eq") args)
      (evalList ev₂ env (.sym "eq") args') := by
  rw [evalList, evalList]
  refine (matched_arity _ _ ha).bind fun ρ₁ h₁ _ _ _ =>
    (matched_arg env hev ha h₁ 0).bind fun ρ₂ h₂ l l' hl =>
      (matched_arg env hev ha (le_trans h₁ h₂) 1).bind fun ρ₃ h₃ r r' hr => ?_
  -- a list is equal to nothing, so every pair of kinds answers alike
  have he := (hl.mono h₃).equal_eq hr
  cases hl <;> cases hr <;> exact Matched.pure fun _ _ => alike_bool_of_eq he

theorem matched_modForm :
    Matched ρ Value.Alike (evalList ev₁ env (.sym "mod") args)
      (evalList ev₂ env (.sym "mod") args') := by
  rw [evalList, evalList]
  refine (matched_arity _ _ ha).bind fun ρ₁ h₁ _ _ _ =>
    (matched_arg env hev ha h₁ 0).bind fun ρ₂ h₂ l l' hl =>
      (matched_arg env hev ha (le_trans h₁ h₂) 1).bind fun ρ₃ h₃ r r' hr =>
        (matched_numbers (hl.mono h₃) hr).bind fun _ _ p q hpq => ?_
  cases hpq
  exact Matched.ite (Matched.fail _) (Matched.pure fun _ _ => .int _)

theorem matched_ifForm :
    Matched ρ Value.Alike (evalList ev₁ env (.sym "if") args)
      (evalList ev₂ env (.sym "if") args') := by
  rw [evalList, evalList]
  refine (matched_arity _ _ ha).bind fun ρ₁ h₁ _ _ _ =>
    (matched_arg env hev ha h₁ 0).bind fun ρ₂ h₂ t t' ht => ?_
  rw [ht.truthy_eq]
  exact Matched.ite (matched_arg env hev ha (le_trans h₁ h₂) 1)
    (matched_arg env hev ha (le_trans h₁ h₂) 2)

theorem matched_defineForm :
    Matched ρ Value.Alike (evalList ev₁ env (.sym "define") args)
      (evalList ev₂ env (.sym "define") args') := by
  rw [evalList, evalList]
  refine (matched_arity _ _ ha).bind fun ρ₁ h₁ _ _ _ => ?_
  have h₀ : Value.Alike ρ₁ (args.getD 0 default) (args'.getD 0 default) := (ha.getD 0).mono h₁
  dsimp only
  generalize args.getD 0 default = a, args'.getD 0 default = a' at h₀ ⊢
  cases h₀
  case sym name =>
    refine (matched_arg env hev ha h₁ 1).bind fun ρ₂ _ v w hvw => ?_
    exact (matched_define env name hvw).bind fun _ h₃ _ _ _ =>
      Matched.pure fun _ h₄ => hvw.mono (le_trans h₃ h₄)
  all_goals exact Matched.fail _

theorem matched_letForm :
    Matched ρ Value.Alike (evalList ev₁ env (.sym "let") args)
      (evalList ev₂ env (.sym "let") args') := by
  rw [evalList, evalList]
  refine (matched_arity _ _ ha).bind fun ρ₁ h₁ _ _ _ => ?_
  have h₀ : Value.Alike ρ₁ (args.getD 0 default) (args'.getD 0 default) := (ha.getD 0).mono h₁
  dsimp only
  generalize args.getD 0 default = a, args'.getD 0 default = a' at h₀ ⊢
  cases h₀
  case list bs bs' hbs =>
    refine (matched_bindLet hev hbs env).bind fun ρ₂ h₂ g g' hg => ?_
    cases hg
    exact matched_arg g hev ha (le_trans h₁ h₂) 1
  all_goals exact Matched.fail _

theorem matched_defnForm :
    Matched ρ Value.Alike (evalList ev₁ env (.sym "defn") args)
      (evalList ev₂ env (.sym "defn") args') := by
  rw [evalList, evalList]
  refine (matched_arity _ _ ha).bind fun ρ₁ h₁ _ _ _ => ?_
  have h₀ : Value.Alike ρ₁ (args.getD 0 default) (args'.getD 0 default) := (ha.getD 0).mono h₁
  dsimp only
  generalize args.getD 0 default = a, args'.getD 0 default = a' at h₀ ⊢
  cases h₀
  case sym name =>
    have hl : Value.Alike ρ₁ (.list (.sym "lambda" :: args.drop 1))
        (.list (.sym "lambda" :: args'.drop 1)) :=
      .list (.cons (.sym _) ((ha.drop 1).mono h₁))
    refine (hev ρ₁ env _ _ hl).bind fun _ _ c c' hc => ?_
    exact (matched_define env name hc).bind fun _ _ _ _ _ => Matched.pure fun _ _ => .sym name
  all_goals exact Matched.fail _

omit hev in
theorem matched_lambdaForm :
    Matched ρ Value.Alike (evalList ev₁ env (.sym "lambda") args)
      (evalList ev₂ env (.sym "lambda") args') := by
  rw [evalList, evalList]
  refine (matched_arity _ _ ha).bind fun ρ₁ h₁ _ _ _ => ?_
  have h₀ : Value.Alike ρ₁ (args.getD 0 default) (args'.getD 0 default) := (ha.getD 0).mono h₁
  dsimp only
  generalize args.getD 0 default = a, args'.getD 0 default = a' at h₀ ⊢
  cases h₀
  case list ps ps' hps =>
    exact (matched_checkParams hps).bind fun _ h₂ _ _ _ =>
      matched_makeClosure env (hps.mono h₂) ((ha.getD 1).mono (le_trans h₁ h₂))
  all_goals exact Matched.fail _

theorem matched_consForm :
    Matched ρ Value.Alike (evalList ev₁ env (.sym "cons") args)
      (evalList ev₂ env (.sym "cons") args') := by
  rw [evalList, evalList]
  exact (matched_arity _ _ ha).bind fun ρ₁ h₁ _ _ _ =>
    (matched_arg env hev ha h₁ 0).bind fun ρ₂ h₂ a a' haa =>
      (matched_arg env hev ha (le_trans h₁ h₂) 1).bind fun _ h₃ b b' hbb =>
        matched_consOf (haa.mono h₃) hbb

theorem matched_headForm :
    Matched ρ Value.Alike (evalList ev₁ env (.sym "head") args)
      (evalList ev₂ env (.sym "head") args') := by
  rw [evalList, evalList]
  exact (matched_arity _ _ ha).bind fun _ h₁ _ _ _ =>
    (matched_arg env hev ha h₁ 0).bind fun _ _ _ _ hv => matched_headOf hv

theorem matched_tailForm :
    Matched ρ Value.Alike (evalList ev₁ env (.sym "tail") args)
      (evalList ev₂ env (.sym "tail") args') := by
  rw [evalList, evalList]
  exact (matched_arity _ _ ha).bind fun _ h₁ _ _ _ =>
    (matched_arg env hev ha h₁ 0).bind fun _ _ _ _ hv => matched_tailOf hv

theorem matched_emptyForm :
    Matched ρ Value.Alike (evalList ev₁ env (.sym "empty") args)
      (evalList ev₂ env (.sym "empty") args') := by
  rw [evalList, evalList]
  exact (matched_arity _ _ ha).bind fun _ h₁ _ _ _ =>
    (matched_arg env hev ha h₁ 0).bind fun _ _ _ _ hv => matched_emptyOf hv

theorem matched_condForm :
    Matched ρ Value.Alike (evalList ev₁ env (.sym "cond") args)
      (evalList ev₂ env (.sym "cond") args') := by
  rw [evalList, evalList]
  refine (matched_arity _ _ ha).bind fun ρ₁ h₁ _ _ _ => ?_
  have h₀ : Value.Alike ρ₁ (args.getD 0 default) (args'.getD 0 default) := (ha.getD 0).mono h₁
  dsimp only
  generalize args.getD 0 default = a, args'.getD 0 default = a' at h₀ ⊢
  cases h₀
  case list cs cs' hcs => exact matched_evalCond hev env hcs
  all_goals exact Matched.fail _

theorem matched_arithForm {name : String} (h : arithOps.contains name) :
    Matched ρ Value.Alike (evalList ev₁ env (.sym name) args)
      (evalList ev₂ env (.sym name) args') := by
  rw [evalList_arith args h, evalList_arith args' h]
  refine (matched_arity _ _ ha).bind fun ρ₁ h₁ _ _ _ =>
    (matched_arg env hev ha h₁ 0).bind fun ρ₂ h₂ l l' hl =>
      (matched_arg env hev ha (le_trans h₁ h₂) 1).bind fun ρ₃ h₃ r r' hr =>
        (matched_numbers (hl.mono h₃) hr).bind fun _ _ p q hpq => ?_
  cases hpq
  exact matched_arith name _ _

theorem matched_call {head head' : Value} (hh : Value.Alike ρ head head') :
    Matched ρ Value.Alike
      (do
        match ← ev₁ env head with
        | .closure _ frame params body => apply ev₁ env frame params body args
        | v => failWith .notAFunction v)
      (do
        match ← ev₂ env head' with
        | .closure _ frame params body => apply ev₂ env frame params body args'
        | v => failWith .notAFunction v) := by
  refine (hev ρ env _ _ hh).bind fun ρ₁ h₁ c c' hc => ?_
  have hc' := hc
  cases hc
  case closure hp hb => exact matched_apply hev env _ hp hb (ha.mono h₁)
  all_goals exact matched_failWith _ hc'

theorem matched_namedCall {name : String} (hs : name ∉ specialForms) :
    Matched ρ Value.Alike (evalList ev₁ env (.sym name) args)
      (evalList ev₂ env (.sym name) args') := by
  rw [evalList_sym args hs, evalList_sym args' hs]
  refine (matched_lookup env name).bind fun ρ₁ h₁ c c' hc => ?_
  cases hc
  case closure hp hb => exact matched_apply hev env _ hp hb (ha.mono h₁)
  all_goals exact Matched.fail _

end Forms

theorem matched_evalList {ρ : Pairing} {ev₁ ev₂ : Evaluator} (hev : EvMatched ev₁ ev₂)
    (env : FrameId) {head head' : Value} {args args' : List Value}
    (hh : Value.Alike ρ head head') (ha : Value.AlikeItems ρ args args') :
    Matched ρ Value.Alike (evalList ev₁ env head args) (evalList ev₂ env head' args') := by
  cases hh with
  | sym s =>
    by_cases hs : s ∈ specialForms
    · simp only [specialForms, List.mem_cons, List.not_mem_nil, or_false] at hs
      rcases hs with rfl | rfl | rfl | rfl | rfl | rfl | rfl | rfl | rfl | rfl | rfl | rfl | rfl |
        rfl | rfl | rfl | rfl | rfl | rfl
      exacts [matched_quoteForm env ha, matched_atomForm env hev ha, matched_eqForm env hev ha,
        matched_modForm env hev ha, matched_arithForm env hev ha (by decide),
        matched_arithForm env hev ha (by decide), matched_arithForm env hev ha (by decide),
        matched_arithForm env hev ha (by decide), matched_arithForm env hev ha (by decide),
        matched_ifForm env hev ha, matched_defineForm env hev ha, matched_letForm env hev ha,
        matched_defnForm env hev ha, matched_lambdaForm env ha, matched_consForm env hev ha,
        matched_headForm env hev ha, matched_tailForm env hev ha, matched_emptyForm env hev ha,
        matched_condForm env hev ha]
    · exact matched_namedCall env hev ha hs
  | closure _ hp hb => exact matched_apply hev env _ hp hb ha
  | bool b | int n | str d => exact Matched.fail _
  | float x => exact matched_call env hev ha (.float x)
  | list hs => exact matched_call env hev ha (.list hs)

/-- The evaluator's fundamental lemma: from alike stores, a run on a program ends as a run with at
least as much fuel on an alike program, unless the first runs out of fuel. -/
theorem eval_matched : ∀ {fuel₁ fuel₂ : Nat}, fuel₁ ≤ fuel₂ → EvMatched (eval fuel₁) (eval fuel₂)
  | 0, _, _ => fun _ _ _ _ _ => Matched.outOfFuel _
  | fuel₁ + 1, fuel₂ + 1, h => fun ρ env a b hab => by
    have ih : EvMatched (eval fuel₁) (eval fuel₂) := eval_matched (Nat.le_of_succ_le_succ h)
    cases hab with
    | bool b => exact Matched.pure fun _ _ => .bool b
    | int n => exact Matched.pure fun _ _ => .int n
    | str d => exact Matched.pure fun _ _ => .str d
    | sym s => exact matched_lookup env s
    | float x => exact matched_failWith _ (.float x)
    | closure hs hp hb => exact matched_failWith _ (.closure hs hp hb)
    | list hs =>
      cases hs with
      | nil => exact Matched.fail _
      | cons hh ha => exact matched_evalList ih env hh ha
  | _ + 1, 0, h => absurd h (Nat.not_succ_le_zero _)

end Eval

end TinyLisp
