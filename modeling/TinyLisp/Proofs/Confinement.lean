import TinyLisp.Eval.Eval
import TinyLisp.Proofs.StoreGrowth

/-!
# What a run of the evaluator may change

A run binds only fresh names, in its own frame or in frames it makes (`eval_confined`).
-/

namespace TinyLisp

namespace Eval

/-- The store a run ends with, whether it returned a value or failed. -/
def storeOf {α : Type} : EStateM.Result Fault Store α → Store
  | .ok _ st => st
  | .error _ st => st

def KeepsStore {α : Type} (m : Eval α) : Prop := ∀ st, storeOf (m st) = st

/-- A computation that, from any store, changes it only by the steps of `Store.Step`, binding
only in the frame `env` or in frames it makes. -/
def Confined {α : Type} (env : FrameId) (m : Eval α) : Prop :=
  ∀ st, Store.Steps (st.Local env) st (storeOf (m st))

/-- A computation whose result is the frame `env` or a frame it made. -/
def ReturnsLocal (env : FrameId) (m : Eval FrameId) : Prop :=
  ∀ st a st', m st = .ok a st' → st.Local env a

section Combinators

variable {α β : Type} {env : FrameId}

theorem bind_apply (x : Eval α) (f : α → Eval β) (st : Store) :
    (x >>= f) st = match x st with
      | .ok a s => f a s
      | .error e s => .error e s := by
  show EStateM.bind x f st = _
  unfold EStateM.bind
  cases x st <;> rfl

theorem keepsStore_pure (a : α) : KeepsStore (pure a : Eval α) := fun _ => rfl

theorem keepsStore_throw (e : Fault) : KeepsStore (throw e : Eval α) := fun _ => rfl

theorem keepsStore_get : KeepsStore (get : Eval Store) := fun _ => rfl

theorem KeepsStore.bind {x : Eval α} {f : α → Eval β} (hx : KeepsStore x)
    (hf : ∀ a, KeepsStore (f a)) : KeepsStore (x >>= f) := by
  intro st
  have h := hx st
  rw [bind_apply]
  cases hr : x st with
  | ok a s =>
    rw [hr, storeOf] at h
    rw [← h]
    exact hf a s
  | error e s =>
    rw [hr] at h
    exact h

theorem KeepsStore.confined {x : Eval α} (h : KeepsStore x) : Confined env x := by
  intro st
  rw [h st]

theorem Confined.size_le {x : Eval α} (hx : Confined env x) {st s : Store} {a : α}
    (h : x st = .ok a s) : st.frames.size ≤ s.frames.size := by
  have hs := hx st
  rw [h, storeOf] at hs
  exact hs.size_le

theorem Confined.bind_of {x : Eval α} {f : α → Eval β} (hx : Confined env x)
    (hf : ∀ st a s, x st = .ok a s → Store.Steps (st.Local env) s (storeOf (f a s))) :
    Confined env (x >>= f) := by
  intro st
  have h := hx st
  rw [bind_apply]
  cases hx' : x st with
  | ok a s =>
    rw [hx', storeOf] at h
    exact h.trans (hf st a s hx')
  | error e s =>
    rw [hx'] at h
    exact h

theorem Confined.bind {x : Eval α} {f : α → Eval β} (hx : Confined env x)
    (hf : ∀ a, Confined env (f a)) : Confined env (x >>= f) :=
  hx.bind_of fun _ a s h => (hf a s).mono fun _ => Store.Local.of_le (hx.size_le h)

theorem Confined.bind_frame {x : Eval FrameId} {f : FrameId → Eval β} (hx : Confined env x)
    (hr : ReturnsLocal env x) (hf : ∀ g, Confined g (f g)) : Confined env (x >>= f) :=
  hx.bind_of fun st g s h =>
    (hf g s).mono fun _ => Store.Local.of_local (hr st g s h) (hx.size_le h)

theorem ReturnsLocal.bind_of {x : Eval α} {f : α → Eval FrameId}
    (hf : ∀ st a s, x st = .ok a s → ∀ g st', f a s = .ok g st' → st.Local env g) :
    ReturnsLocal env (x >>= f) := by
  intro st g st' h
  rw [bind_apply] at h
  cases hx' : x st with
  | ok a s =>
    rw [hx'] at h
    exact hf st a s hx' g st' h
  | error e s =>
    rw [hx'] at h
    cases h

theorem ReturnsLocal.bind {x : Eval α} {f : α → Eval FrameId} (hx : Confined env x)
    (hf : ∀ a, ReturnsLocal env (f a)) : ReturnsLocal env (x >>= f) :=
  ReturnsLocal.bind_of fun _ a s h g st' h' => Store.Local.of_le (hx.size_le h) (hf a s g st' h')

theorem ReturnsLocal.bind_frame {x : Eval FrameId} {f : FrameId → Eval FrameId}
    (hx : Confined env x) (hr : ReturnsLocal env x) (hf : ∀ g, ReturnsLocal g (f g)) :
    ReturnsLocal env (x >>= f) :=
  ReturnsLocal.bind_of fun st a s h g st' h' =>
    Store.Local.of_local (hr st a s h) (hx.size_le h) (hf a s g st' h')

end Combinators

section Helpers

/-! The helpers of the evaluator that only read the store. -/

theorem keepsStore_liftExcept {α : Type} (x : Except Fault α) : KeepsStore (liftExcept x) := by
  cases x with
  | ok a => exact keepsStore_pure a
  | error e => exact keepsStore_throw e

theorem keepsStore_failWith {α : Type} (cause : String → Fault) (v : Value) :
    KeepsStore (failWith cause v : Eval α) :=
  (keepsStore_liftExcept _).bind fun _ => keepsStore_throw _

theorem keepsStore_arity (form : String) (n : Nat) (args : List Value) :
    KeepsStore (arity form n args) := by
  unfold arity
  split
  · exact keepsStore_pure _
  · exact keepsStore_throw _

theorem keepsStore_lookup (env : FrameId) (name : String) : KeepsStore (lookup env name) := by
  refine keepsStore_get.bind fun st => ?_
  split
  · exact keepsStore_pure _
  · exact keepsStore_throw _

theorem keepsStore_keyBinding (key v : Value) : KeepsStore (keyBinding key v) := by
  unfold keyBinding
  split
  · exact keepsStore_pure _
  · exact keepsStore_throw _
  · exact keepsStore_throw _
  · exact keepsStore_pure _

theorem keepsStore_pairOf (form : String) (v : Value) : KeepsStore (pairOf form v) := by
  unfold pairOf
  split
  · exact keepsStore_throw _
  · split
    · exact keepsStore_pure _
    · exact keepsStore_throw _

theorem keepsStore_numbers (l r : Value) : KeepsStore (numbers l r) := by
  unfold numbers
  split
  · exact keepsStore_pure _
  · exact keepsStore_failWith _ _
  · exact keepsStore_failWith _ _

theorem KeepsStore.guard {β : Type} {c : Prop} [Decidable c] {e : Fault} {k : PUnit → Eval β}
    (hk : ∀ u, KeepsStore (k u)) : KeepsStore (if c then throw e >>= k else k ()) := by
  split
  · exact (keepsStore_throw e).bind hk
  · exact hk ()

theorem keepsStore_arith (op : String) (a b : Int) : KeepsStore (arith op a b) := by
  unfold arith
  refine KeepsStore.guard fun _ => ?_
  split
  · exact keepsStore_pure _
  · exact keepsStore_pure _
  · exact keepsStore_pure _
  · exact keepsStore_pure _
  · split
    · exact keepsStore_throw _
    · split
      · exact keepsStore_pure _
      · exact keepsStore_throw _

theorem keepsStore_checkParams (params : List Value) : KeepsStore (checkParams params) := by
  unfold checkParams
  split
  · exact keepsStore_pure _
  · exact keepsStore_throw _

theorem keepsStore_headOf (v : Value) : KeepsStore (headOf v) := by
  unfold headOf
  split
  · exact keepsStore_throw _
  · exact keepsStore_pure _
  · refine (keepsStore_liftExcept _).bind fun n => ?_
    split
    · exact keepsStore_throw _
    · exact (keepsStore_liftExcept _).bind fun _ => keepsStore_pure _
  · exact keepsStore_throw _

theorem keepsStore_tailOf (v : Value) : KeepsStore (tailOf v) := by
  unfold tailOf
  split
  · exact keepsStore_throw _
  · exact keepsStore_pure _
  · refine (keepsStore_liftExcept _).bind fun n => ?_
    split
    · exact keepsStore_throw _
    · exact (keepsStore_liftExcept _).bind fun _ => keepsStore_pure _
  · exact keepsStore_throw _

theorem keepsStore_emptyOf (v : Value) : KeepsStore (emptyOf v) := by
  unfold emptyOf
  split
  · exact keepsStore_pure _
  · exact (keepsStore_liftExcept _).bind fun _ => keepsStore_pure _
  · exact keepsStore_throw _

theorem keepsStore_consOf (a b : Value) : KeepsStore (consOf a b) := by
  unfold consOf
  split
  · exact keepsStore_pure _
  · exact (keepsStore_liftExcept _).bind fun _ => keepsStore_pure _
  · exact keepsStore_throw _

end Helpers

section Effects

/-! The helpers that change the store, and the parts of the evaluator that take the evaluator of
the level below as `ev`. -/

variable {env : FrameId}

theorem define_of_bound {name : String} {v : Value} {st : Store} (h : (st.lookup env name).isSome) :
    define env name v st = .error (.redefined name) st := by
  simp [define, h]

theorem confined_define (name : String) (v : Value) : Confined env (define env name v) := by
  intro st
  by_cases h : (st.lookup env name).isSome
  · rw [define_of_bound h]
    exact Relation.ReflTransGen.refl
  · have hn : st.lookup env name = none := Option.not_isSome_iff_eq_none.1 h
    simp only [define, h]
    exact Relation.ReflTransGen.single (.bind v (.inl rfl) hn)

theorem extend_apply (f : FrameId) (kvs : List (String × Value)) (st : Store) :
    extend f kvs st = .ok st.frames.size
      { st with frames := st.frames.push (kvs.reverse ++ st.bindings f) } := by
  simp only [extend, Store.extend_eq]
  rfl

theorem confined_extend (f : FrameId) (kvs : List (String × Value)) : Confined env (extend f kvs) := by
  intro st
  rw [extend_apply]
  exact Relation.ReflTransGen.single (.push _)

theorem returnsLocal_extend (f : FrameId) (kvs : List (String × Value)) :
    ReturnsLocal env (extend f kvs) := by
  intro st g st' h
  rw [extend_apply] at h
  cases h
  exact .inr (Nat.le_refl _)

theorem confined_makeClosure (f : FrameId) (params : List Value) (body : Value) :
    Confined env (makeClosure f params body) := by
  intro st
  exact Relation.ReflTransGen.single .serial

variable {ev : Evaluator} (hev : ∀ g a, Confined g (ev g a))
include hev

theorem confined_bindArgs (ps : List (Value × Value)) : Confined env (bindArgs ev env ps) := by
  induction ps with
  | nil => exact (keepsStore_pure _).confined
  | cons p ps ih =>
    exact (hev env p.2).bind fun v => (keepsStore_keyBinding _ _).confined.bind fun _ =>
      ih.bind fun _ => (keepsStore_pure _).confined

theorem confined_evalCond (cs : List Value) : Confined env (evalCond ev env cs) := by
  induction cs with
  | nil => exact (keepsStore_pure _).confined
  | cons c cs ih =>
    refine (keepsStore_pairOf _ _).confined.bind fun p => ?_
    refine (hev env p.1).bind fun t => ?_
    split
    · exact hev env p.2
    · exact ih

theorem confined_bindLet (bs : List Value) :
    Confined env (bindLet ev env bs) ∧ ReturnsLocal env (bindLet ev env bs) := by
  induction bs generalizing env with
  | nil =>
    refine ⟨(keepsStore_pure _).confined, ?_⟩
    intro st g st' h
    cases h
    exact .inl rfl
  | cons b bs ih =>
    constructor
    · refine (keepsStore_pairOf _ _).confined.bind fun ⟨key, valueAst⟩ => ?_
      exact (hev env valueAst).bind fun v => (keepsStore_keyBinding _ _).confined.bind fun kvs =>
        (confined_extend env kvs).bind_frame (returnsLocal_extend env kvs) fun g => ih.1
    · refine ReturnsLocal.bind (keepsStore_pairOf _ _).confined fun ⟨key, valueAst⟩ => ?_
      exact ReturnsLocal.bind (hev env valueAst) fun v =>
        ReturnsLocal.bind (keepsStore_keyBinding _ _).confined fun kvs =>
          ReturnsLocal.bind_frame (confined_extend env kvs) (returnsLocal_extend env kvs)
            fun g => ih.2

theorem confined_apply_of {g frame : FrameId} {params body : Value} {args : List Value}
    (hargs : ∀ names : List Value, Confined g (bindArgs ev env (names.zip args))) :
    Confined g (apply ev env frame params body args) := by
  unfold apply
  split
  · exact (keepsStore_throw _).confined
  · rename_i names _
    split
    · exact (keepsStore_throw _).confined
    · exact (hargs names).bind fun kvs =>
        (confined_extend frame kvs).bind_frame (returnsLocal_extend frame kvs) fun g => hev g body

theorem confined_apply (frame : FrameId) (params body : Value) (args : List Value) :
    Confined env (apply ev env frame params body args) :=
  confined_apply_of hev fun _ => confined_bindArgs hev _

theorem confined_operand {β : Type} (form : String) (n : Nat) (args : List Value) (a : Value)
    {k : Value → Eval β} (hk : ∀ v, KeepsStore (k v)) :
    Confined env (arity form n args >>= fun _ => ev env a >>= k) :=
  (keepsStore_arity _ _ _).confined.bind fun _ => (hev env a).bind fun v => (hk v).confined

theorem confined_operands {β : Type} (form : String) (n : Nat) (args : List Value) (a b : Value)
    {k : Value → Value → Eval β} (hk : ∀ l r, KeepsStore (k l r)) :
    Confined env (arity form n args >>= fun _ => ev env a >>= fun l => ev env b >>= k l) :=
  (keepsStore_arity _ _ _).confined.bind fun _ =>
    (hev env a).bind fun l => (hev env b).bind fun r => (hk l r).confined

theorem confined_evalList (head : Value) (args : List Value) :
    Confined env (evalList ev env head args) := by
  unfold evalList
  split
  case h_1 => exact (keepsStore_arity _ _ _).bind (fun _ => keepsStore_pure _) |>.confined
  case h_2 => exact confined_operand hev _ _ _ _ fun _ => keepsStore_pure _
  case h_3 =>
    refine confined_operands hev _ _ _ _ _ fun l r => ?_
    split <;> exact keepsStore_pure _
  case h_4 =>
    refine confined_operands hev _ _ _ _ _ fun l r => (keepsStore_numbers l r).bind fun ⟨a, b⟩ => ?_
    dsimp only
    split
    · exact keepsStore_throw _
    · exact keepsStore_pure _
  case h_5 =>
    refine (keepsStore_arity _ _ _).confined.bind fun _ => (hev env _).bind fun t => ?_
    split
    · exact hev env _
    · exact hev env _
  case h_6 =>
    refine (keepsStore_arity _ _ _).confined.bind fun _ => ?_
    split
    · exact (hev env _).bind fun v => (confined_define _ v).bind fun _ => (keepsStore_pure v).confined
    · exact (keepsStore_throw _).confined
  case h_7 =>
    refine (keepsStore_arity _ _ _).confined.bind fun _ => ?_
    split
    · rename_i bindings _
      exact (confined_bindLet hev bindings).1.bind_frame (confined_bindLet hev bindings).2
        fun g => hev g _
    · exact (keepsStore_throw _).confined
  case h_8 =>
    refine (keepsStore_arity _ _ _).confined.bind fun _ => ?_
    split
    · exact (hev env _).bind fun c => (confined_define _ c).bind fun _ =>
        (keepsStore_pure _).confined
    · exact (keepsStore_throw _).confined
  case h_9 =>
    refine (keepsStore_arity _ _ _).confined.bind fun _ => ?_
    split
    · exact (keepsStore_checkParams _).confined.bind fun _ => confined_makeClosure _ _ _
    · exact (keepsStore_throw _).confined
  case h_10 => exact confined_apply hev _ _ _ _
  case h_11 => exact confined_operands hev _ _ _ _ _ fun l r => keepsStore_consOf l r
  case h_12 => exact confined_operand hev _ _ _ _ keepsStore_headOf
  case h_13 => exact confined_operand hev _ _ _ _ keepsStore_tailOf
  case h_14 => exact confined_operand hev _ _ _ _ keepsStore_emptyOf
  case h_15 =>
    refine (keepsStore_arity _ _ _).confined.bind fun _ => ?_
    split
    · exact confined_evalCond hev _
    · exact (keepsStore_throw _).confined
  case h_16 =>
    split
    · exact confined_operands hev _ _ _ _ _ fun l r =>
        (keepsStore_numbers l r).bind fun p => keepsStore_arith _ _ _
    · refine (keepsStore_lookup _ _).confined.bind fun f => ?_
      split
      · exact confined_apply hev _ _ _ _
      · exact (keepsStore_throw _).confined
  case h_17 | h_18 | h_19 => exact (keepsStore_throw _).confined
  case h_20 =>
    refine (hev env _).bind fun f => ?_
    split
    · exact confined_apply hev _ _ _ _
    · exact (keepsStore_failWith _ _).confined

end Effects

/-- The evaluator is confined to the frame it runs in, at every fuel. -/
theorem eval_confined (fuel : Nat) : ∀ env ast, Confined env (eval fuel env ast) := by
  induction fuel with
  | zero => exact fun _ _ => (keepsStore_throw _).confined
  | succ fuel ih =>
    intro env ast
    unfold eval
    split
    case h_1 | h_2 | h_3 => exact (keepsStore_pure _).confined
    case h_4 => exact (keepsStore_lookup _ _).confined
    case h_5 => exact (keepsStore_throw _).confined
    case h_6 => exact confined_evalList ih _ _
    case h_7 => exact (keepsStore_failWith _ _).confined

/-- A run of the evaluator, whether it returns or fails, changes the store only by binding names
not yet bound, in its own frame or in frames it made, and by making frames and closures. Of the
frames there before it, each keeps its bindings, and only the run's own frame gets new ones, in
front, each for a name not bound there before and bound once. -/
theorem eval_store_grows (fuel : Nat) (env : FrameId) (ast : Value) (st : Store) :
    Store.Steps (st.Local env) st (storeOf (eval fuel env ast st)) ∧
      Store.Grows (· = env) st (storeOf (eval fuel env ast st)) := by
  have h := eval_confined fuel env ast st
  exact ⟨h, h.grows.of_local⟩

end Eval

end TinyLisp
