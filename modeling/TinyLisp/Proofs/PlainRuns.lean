import TinyLisp.Proofs.Matching

/-!
# How a run of the evaluator can fail
-/

namespace TinyLisp

namespace Datum

def isText : Datum → Bool
  | .text _ => true
  | _ => false

theorem first_text {s : String} (h : s.length ≠ 0) :
    ∃ c, (Datum.text s).first = .ok (.text (String.singleton c)) := by
  rw [first]
  cases hs : s.toList with
  | nil => exact absurd (by rw [← String.length_toList, hs]; rfl) h
  | cons c _ => exact ⟨c, rfl⟩

theorem first_text_isText {s : String} {d : Datum} (h : (Datum.text s).first = .ok d) :
    d.isText = true := by
  rw [first] at h
  cases hs : s.toList with
  | nil =>
    rw [hs] at h
    cases h
  | cons c _ =>
    rw [hs] at h
    cases h
    rfl

end Datum

namespace Value

mutual

/-- Whether every text in a value holds characters. -/
def plain : Value → Bool
  | .str d => d.isText
  | .list xs => plainItems xs
  | .closure _ _ params body => plain params && plain body
  | _ => true

def plainItems : List Value → Bool
  | [] => true
  | v :: vs => plain v && plainItems vs

end

theorem plainItems_iff {xs : List Value} : plainItems xs = true ↔ ∀ v ∈ xs, v.plain = true := by
  induction xs with
  | nil => simp [plainItems]
  | cons v vs ih => simp [plainItems, ih]

theorem plain_list {xs : List Value} : (Value.list xs).plain = true ↔ ∀ v ∈ xs, v.plain = true := by
  rw [plain, plainItems_iff]

theorem plain_closure_body {serial : Nat} {frame : FrameId} {params body : Value}
    (h : (Value.closure serial frame params body).plain = true) : body.plain = true := by
  rw [plain, Bool.and_eq_true] at h
  exact h.2

theorem plain_item? {v w : Value} (hv : v.plain = true) {i : Nat} (h : v.item? i = some w) :
    w.plain = true := by
  cases v with
  | list xs => exact plain_list.1 hv w (List.mem_of_getElem? h)
  | sym s =>
    obtain ⟨c, -, rfl⟩ := Option.map_eq_some_iff.1 h
    rfl
  | _ => cases h

end Value

namespace Store

/-- A store whose every binding is to a plain value. -/
def Plain (st : Store) : Prop := ∀ f, ∀ p ∈ st.bindings f, p.2.plain = true

variable {st : Store}

theorem Plain.lookup (h : st.Plain) {f : FrameId} {name : String} {v : Value}
    (hl : st.lookup f name = some v) : v.plain = true := by
  obtain ⟨p, hp, rfl⟩ := Option.map_eq_some_iff.1 hl
  exact h f p (List.mem_of_find?_eq_some hp)

theorem Plain.bind (h : st.Plain) (f : FrameId) (name : String) {v : Value} (hv : v.plain = true) :
    (st.bind f name v).Plain := by
  intro g p hp
  by_cases hfg : f = g
  · subst hfg
    by_cases hlt : f < st.frames.size
    · rw [bindings_bind_self hlt, List.mem_cons] at hp
      rcases hp with rfl | hp
      · exact hv
      · exact h f p hp
    · rw [bindings_bind_of_size_le (Nat.le_of_not_lt hlt)] at hp
      exact h f p hp
  · rw [bindings_bind_of_ne hfg] at hp
    exact h g p hp

theorem Plain.push (h : st.Plain) {b : Bindings} (hb : ∀ p ∈ b, p.2.plain = true) :
    ({ st with frames := st.frames.push b } : Store).Plain := by
  intro g p hp
  rw [bindings_push] at hp
  split at hp
  · exact h g p hp
  · split at hp
    · exact hb p hp
    · cases hp

theorem initial_plain : initial.Plain := by
  intro f p hp
  cases f <;> cases hp

end Store

namespace Fault

/-- The failures of the evaluator on plain programs: the language's own errors, a length asked of
a value that has none, a value that cannot name a binding, a zero divisor, a quotient too large
for a binary64 number, an integer too long for decimal text, and running out of fuel. -/
def ofEval : Fault → Bool
  | .noLength _ | .unhashable _ | .divisionByZero | .moduloByZero | .quotientTooLarge
  | .textTooLong | .outOfFuel => true
  | e => e.isLanguage

end Fault

namespace Eval

/-- The end of a run from a store of plain values: a result of which `Q` holds or a failure of
which `P` holds, and a store of plain values. -/
inductive SafeEnd {α : Type} (P : Fault → Prop) (Q : α → Prop) : EStateM.Result Fault Store α → Prop
  | ok {a : α} {st : Store} : Q a → st.Plain → SafeEnd P Q (.ok a st)
  | error {e : Fault} {st : Store} : P e → st.Plain → SafeEnd P Q (.error e st)

/-- A computation that runs from every store of plain values to a `SafeEnd`. -/
def Safe {α : Type} (P : Fault → Prop) (Q : α → Prop) (m : Eval α) : Prop :=
  ∀ st, st.Plain → SafeEnd P Q (m st)

section Combinators

variable {α β γ : Type} {P : Fault → Prop} {Q : α → Prop} {R : β → Prop}

theorem Safe.pure {a : α} (h : Q a) : Safe P Q (pure a) :=
  fun _ hs => .ok h hs

theorem Safe.fail {e : Fault} (h : P e) : Safe P Q (throw e : Eval α) :=
  fun _ hs => .error h hs

theorem Safe.imp {P' : Fault → Prop} {Q' : α → Prop} {m : Eval α} (hm : Safe P Q m)
    (hP : ∀ e, P e → P' e) (hQ : ∀ a, Q a → Q' a) : Safe P' Q' m := by
  intro st hs
  have h := hm st hs
  generalize m st = r at h
  cases h with
  | ok hq hs' => exact .ok (hQ _ hq) hs'
  | error hp hs' => exact .error (hP _ hp) hs'

theorem Safe.bind {x : Eval α} {f : α → Eval β} (hx : Safe P Q x)
    (hf : ∀ a, Q a → Safe P R (f a)) : Safe P R (x >>= f) := by
  intro st hs
  have h := hx st hs
  rw [bind_apply]
  generalize x st = r at h ⊢
  cases h with
  | ok hq hs' => exact hf _ hq _ hs'
  | error hp hs' => exact .error hp hs'

theorem Safe.ite {c : Prop} [Decidable c] {m m' : Eval α} (h : c → Safe P Q m)
    (h' : ¬c → Safe P Q m') : Safe P Q (if c then m else m') := by
  split
  · exact h ‹c›
  · exact h' ‹¬c›

theorem Safe.guard {c : Prop} [Decidable c] {e : Fault} {k : PUnit → Eval α} (he : P e)
    (hk : ¬c → Safe P Q (k ())) : Safe P Q (if c then throw e >>= k else k ()) := by
  have hthrow : Safe P (fun _ : PUnit => False) (throw e) := Safe.fail he
  exact Safe.ite (fun _ => hthrow.bind fun _ h => h.elim) hk

theorem Safe.liftExcept_bind {x : Except Fault γ} {f : γ → Eval α}
    (hx : ∀ e, x = .error e → P e) (hf : ∀ a, x = .ok a → Safe P Q (f a)) :
    Safe P Q (liftExcept x >>= f) := by
  cases x with
  | ok a => exact hf a rfl
  | error e => exact Safe.fail (hx e rfl)

theorem Safe.mapM {f : β → Eval α} :
    ∀ {xs : List β}, (∀ x ∈ xs, Safe P Q (f x)) → Safe P (fun ys => ∀ y ∈ ys, Q y) (xs.mapM f)
  | [], _ => Safe.pure fun _ h => (List.not_mem_nil h).elim
  | x :: xs, h => by
    rw [List.mapM_cons]
    refine (h x List.mem_cons_self).bind fun y hy => ?_
    refine (Safe.mapM fun x' hx' => h x' (List.mem_cons_of_mem _ hx')).bind fun ys hys => ?_
    exact Safe.pure fun z hz => (List.mem_cons.1 hz).elim (· ▸ hy) (hys z)

end Combinators

theorem intText_fault {n : Int} {e : Fault} (h : Decimal.intText n = .error e) :
    e = .textTooLong := by
  unfold Decimal.intText at h
  by_cases hn : Decimal.hasText n = true
  · rw [if_pos hn] at h
    cases h
  · rw [if_neg hn] at h
    cases h
    rfl

mutual

theorem describeItem_fault (v : Value) {e : Fault} (h : v.describeItem = .error e) :
    e = .textTooLong ∨ ∃ t, e = .noLength t := by
  cases v with
  | int n =>
    rw [Value.describeItem] at h
    exact .inl (intText_fault h)
  | list xs =>
    rw [Value.describeItem] at h
    cases hd : Value.describeItems xs with
    | error e' =>
      rw [hd] at h
      cases h
      exact describeItems_fault xs hd
    | ok items =>
      rw [hd] at h
      cases h
  | closure _ _ ps _ =>
    rw [Value.describeItem, Value.closureText] at h
    split at h
    · cases h
    · cases h
      exact .inr ⟨_, rfl⟩
  | _ => cases h
termination_by structural v

theorem describeItems_fault (vs : List Value) {e : Fault} (h : Value.describeItems vs = .error e) :
    e = .textTooLong ∨ ∃ t, e = .noLength t := by
  cases vs with
  | nil => cases h
  | cons v vs =>
    rw [Value.describeItems] at h
    cases hv : v.describeItem with
    | error e' =>
      rw [hv] at h
      cases h
      exact describeItem_fault v hv
    | ok s =>
      rw [hv] at h
      cases hvs : Value.describeItems vs with
      | error e' =>
        rw [hvs] at h
        cases h
        exact describeItems_fault vs hvs
      | ok ss =>
        rw [hvs] at h
        cases h
termination_by structural vs

end

theorem describe_fault {v : Value} (hv : v.plain = true) {e : Fault} (h : v.describe = .error e) :
    e.ofEval = true := by
  have hkind : e = .textTooLong ∨ (∃ t, e = .noLength t) → e.ofEval = true := by
    rintro (rfl | ⟨t, rfl⟩) <;> rfl
  cases v with
  | bool => cases h
  | sym => cases h
  | str d =>
    cases d with
    | text s => cases h
    | _ => cases hv
  | _ => exact hkind (describeItem_fault _ h)

section Helpers

theorem safe_lookup (env : FrameId) (name : String) :
    Safe (·.ofEval) (·.plain) (lookup env name) := by
  intro st hs
  rw [lookup_apply]
  cases hl : st.lookup env name with
  | some v => exact .ok (hs.lookup hl) hs
  | none => exact .error rfl hs

theorem safe_define (env : FrameId) (name : String) {v : Value} (hv : v.plain = true) :
    Safe (·.ofEval) (fun _ => True) (define env name v) := by
  intro st hs
  unfold define
  split
  · exact .error rfl hs
  · exact .ok trivial (hs.bind env name hv)

theorem safe_extend (f : FrameId) {kvs : List (String × Value)}
    (hkv : ∀ p ∈ kvs, p.2.plain = true) : Safe (·.ofEval) (fun _ => True) (extend f kvs) := by
  intro st hs
  rw [extend_apply]
  refine .ok trivial (hs.push fun p hp => ?_)
  rcases List.mem_append.1 hp with hp | hp
  · exact hkv p (List.mem_reverse.1 hp)
  · exact hs f p hp

theorem safe_makeClosure (env : FrameId) {params : List Value} {body : Value}
    (hp : ∀ p ∈ params, p.plain = true) (hb : body.plain = true) :
    Safe (·.ofEval) (·.plain) (makeClosure env params body) := by
  intro st hs
  refine .ok ?_ hs
  show (Value.closure st.closures env (.list params) body).plain = true
  rw [Value.plain, Value.plain_list.2 hp, hb]
  rfl

theorem safe_arity (form : String) (n : Nat) (args : List Value) :
    Safe (·.ofEval) (fun _ => True) (arity form n args) := by
  unfold arity
  exact Safe.ite (fun _ => Safe.pure trivial) (fun _ => Safe.fail rfl)

theorem safe_failWith {α : Type} {Q : α → Prop} {cause : String → Fault}
    (hc : ∀ s, (cause s).ofEval = true) {v : Value} (hv : v.plain = true) :
    Safe (·.ofEval) Q (failWith cause v) := by
  unfold failWith
  exact Safe.liftExcept_bind (fun _ h => describe_fault hv h) fun s _ => Safe.fail (hc s)

theorem safe_keyBinding (key : Value) {v : Value} (hv : v.plain = true) :
    Safe (·.ofEval) (fun kvs => ∀ p ∈ kvs, p.2.plain = true) (keyBinding key v) := by
  cases key
  case sym s => exact Safe.pure fun p hp => by rw [List.mem_singleton] at hp; exact hp ▸ hv
  case list | str => exact Safe.fail rfl
  all_goals exact Safe.pure fun p hp => (List.not_mem_nil hp).elim

theorem plain_getD_item? {v : Value} (hv : v.plain = true) (i : Nat) :
    ((v.item? i).getD default).plain = true := by
  cases h : v.item? i with
  | some w => exact Value.plain_item? hv h
  | none => rfl

theorem safe_pairOf (form : String) {v : Value} (hv : v.plain = true) :
    Safe (·.ofEval) (fun p => p.1.plain = true ∧ p.2.plain = true) (pairOf form v) := by
  unfold pairOf
  split
  · exact Safe.fail rfl
  · exact Safe.ite (fun _ => Safe.pure ⟨plain_getD_item? hv 0, plain_getD_item? hv 1⟩)
      (fun _ => Safe.fail rfl)

theorem safe_numbers {l r : Value} (hl : l.plain = true) (hr : r.plain = true) :
    Safe (·.ofEval) (fun _ => True) (numbers l r) := by
  unfold numbers
  split
  · exact Safe.pure trivial
  · exact safe_failWith (fun _ => rfl) hl
  · exact safe_failWith (fun _ => rfl) hr

theorem safe_arith (op : String) (a b : Int) : Safe (·.ofEval) (·.plain) (arith op a b) := by
  unfold arith
  refine Safe.guard ?_ ?_
  · rfl
  intro _
  dsimp only
  split
  · exact Safe.pure rfl
  · exact Safe.pure rfl
  · exact Safe.pure rfl
  · exact Safe.pure rfl
  · refine Safe.ite (fun _ => Safe.fail rfl) fun _ => ?_
    split
    · exact Safe.pure rfl
    · exact Safe.fail rfl

theorem safe_checkParams (ps : List Value) :
    Safe (·.ofEval) (fun _ => True) (checkParams ps) := by
  unfold checkParams
  exact Safe.ite (fun _ => Safe.pure trivial) (fun _ => Safe.fail rfl)

theorem safe_textPart (s : String) (form : String) (part : Datum → Except Fault Datum)
    (hpart : ∀ e, s.length ≠ 0 → part (.text s) = .error e → False)
    (htext : ∀ d, part (.text s) = .ok d → d.isText = true) :
    Safe (·.ofEval) (·.plain) ((do
      if (← liftExcept (Datum.text s).length) = 0 then throw (.emptyText form)
      else pure (.str (← liftExcept (part (.text s))))) : Eval Value) := by
  refine Safe.liftExcept_bind (fun _ h => by cases h) fun n hn => ?_
  cases hn
  refine Safe.ite (fun _ => Safe.fail rfl) fun hne => ?_
  exact Safe.liftExcept_bind (fun e h => (hpart e hne h).elim) fun d hd => Safe.pure (htext d hd)

theorem safe_headOf {v : Value} (hv : v.plain = true) : Safe (·.ofEval) (·.plain) (headOf v) := by
  cases v with
  | list xs =>
    cases xs with
    | nil => exact Safe.fail rfl
    | cons x xs => exact Safe.pure (Value.plain_list.1 hv x List.mem_cons_self)
  | str d =>
    cases d with
    | text s =>
      refine safe_textPart s "head" Datum.first (fun e hne h => ?_) fun _ => Datum.first_text_isText
      obtain ⟨c, hc⟩ := Datum.first_text hne
      rw [hc] at h
      cases h
    | _ => cases hv
  | _ => exact Safe.fail rfl

theorem safe_tailOf {v : Value} (hv : v.plain = true) : Safe (·.ofEval) (·.plain) (tailOf v) := by
  cases v with
  | list xs =>
    cases xs with
    | nil => exact Safe.fail rfl
    | cons x xs =>
      exact Safe.pure (Value.plain_list.2 fun w hw =>
        Value.plain_list.1 hv w (List.mem_cons_of_mem x hw))
  | str d =>
    cases d with
    | text s =>
      exact safe_textPart s "tail" Datum.rest (fun _ _ h => by cases h) fun d hd => by
        cases hd
        rfl
    | _ => cases hv
  | _ => exact Safe.fail rfl

theorem safe_emptyOf {v : Value} (hv : v.plain = true) :
    Safe (·.ofEval) (·.plain) (emptyOf v) := by
  cases v with
  | list xs => exact Safe.pure rfl
  | str d =>
    cases d with
    | text s => exact Safe.liftExcept_bind (fun _ h => by cases h) fun _ _ => Safe.pure rfl
    | _ => cases hv
  | _ => exact Safe.fail rfl

theorem safe_consOf {a b : Value} (ha : a.plain = true) (hb : b.plain = true) :
    Safe (·.ofEval) (·.plain) (consOf a b) := by
  cases b with
  | list xs =>
    refine Safe.pure (Value.plain_list.2 fun w hw => ?_)
    rcases List.mem_cons.1 hw with rfl | hw
    · exact ha
    · exact Value.plain_list.1 hb w hw
  | str t =>
    cases a
    case str s =>
      cases s
      case text s =>
        cases t
        case text t =>
          exact Safe.liftExcept_bind (fun _ h => by cases h) fun d hd =>
            Safe.pure (by cases hd; rfl)
        all_goals cases hb
      all_goals cases ha
    all_goals exact Safe.fail rfl
  | _ => cases a <;> exact Safe.fail rfl

end Helpers

theorem plain_getD {args : List Value} (ha : ∀ a ∈ args, a.plain = true) (i : Nat) :
    (args.getD i default).plain = true := by
  rw [List.getD_eq_getElem?_getD]
  cases h : args[i]? with
  | some a => exact ha a (List.mem_of_getElem? h)
  | none => rfl

section Evaluator

variable {ev : Evaluator} (hev : ∀ env a, a.plain = true → Safe (·.ofEval) (·.plain) (ev env a))
include hev

theorem safe_bindArgs (env : FrameId) :
    ∀ {ps : List (Value × Value)}, (∀ p ∈ ps, p.2.plain = true) →
      Safe (·.ofEval) (fun kvs => ∀ p ∈ kvs, p.2.plain = true) (bindArgs ev env ps)
  | [], _ => Safe.pure fun _ h => (List.not_mem_nil h).elim
  | (k, a) :: ps, hps => by
    rw [bindArgs]
    refine (hev env a (hps (k, a) List.mem_cons_self)).bind fun v hv => ?_
    refine (safe_keyBinding k hv).bind fun kv hkv => ?_
    refine (safe_bindArgs env fun p hp => hps p (List.mem_cons_of_mem _ hp)).bind
      fun kvs hkvs => ?_
    exact Safe.pure fun p hp => (List.mem_append.1 hp).elim (hkv p) (hkvs p)

theorem safe_evalCond (env : FrameId) :
    ∀ {cs : List Value}, (∀ c ∈ cs, c.plain = true) →
      Safe (·.ofEval) (·.plain) (evalCond ev env cs)
  | [], _ => Safe.pure rfl
  | c :: cs, hcs => by
    rw [evalCond]
    refine (safe_pairOf "cond" (hcs c List.mem_cons_self)).bind fun clause hclause => ?_
    obtain ⟨t, r⟩ := clause
    obtain ⟨ht, hr⟩ := hclause
    refine (hev env t ht).bind fun _ _ => ?_
    exact Safe.ite (fun _ => hev env r hr)
      (fun _ => safe_evalCond env fun c' hc' => hcs c' (List.mem_cons_of_mem _ hc'))

theorem safe_bindLet :
    ∀ {bs : List Value}, (∀ b ∈ bs, b.plain = true) → ∀ env,
      Safe (·.ofEval) (fun _ => True) (bindLet ev env bs)
  | [], _, _ => Safe.pure trivial
  | b :: bs, hbs, env => by
    rw [bindLet]
    refine (safe_pairOf "let" (hbs b List.mem_cons_self)).bind fun binding hbinding => ?_
    obtain ⟨k, a⟩ := binding
    obtain ⟨-, ha⟩ := hbinding
    refine (hev env a ha).bind fun v hv => ?_
    refine (safe_keyBinding k hv).bind fun kvs hkvs => ?_
    refine (safe_extend env hkvs).bind fun next _ => ?_
    exact safe_bindLet (fun b' hb' => hbs b' (List.mem_cons_of_mem _ hb')) next

theorem safe_apply (env frame : FrameId) {params body : Value} {args : List Value}
    (hb : body.plain = true) (ha : ∀ a ∈ args, a.plain = true) :
    Safe (·.ofEval) (·.plain) (apply ev env frame params body args) := by
  unfold apply
  split
  · exact Safe.fail rfl
  · rename_i names _
    refine Safe.ite (fun _ => Safe.fail rfl) fun _ => ?_
    refine (safe_bindArgs hev env fun p hp => ha p.2 (List.of_mem_zip hp).2).bind
      fun kvs hkvs => ?_
    exact (safe_extend frame hkvs).bind fun g _ => hev g body hb

theorem safe_operand {form : String} {n : Nat} {args : List Value} {env : FrameId} {a : Value}
    (ha : a.plain = true) {k : Value → Eval Value}
    (hk : ∀ v, v.plain = true → Safe (·.ofEval) (·.plain) (k v)) :
    Safe (·.ofEval) (·.plain) (arity form n args >>= fun _ => ev env a >>= k) :=
  (safe_arity form n args).bind fun _ _ => (hev env a ha).bind hk

theorem safe_operands {form : String} {n : Nat} {args : List Value} {env : FrameId} {a b : Value}
    (ha : a.plain = true) (hb : b.plain = true) {k : Value → Value → Eval Value}
    (hk : ∀ l r, l.plain = true → r.plain = true → Safe (·.ofEval) (·.plain) (k l r)) :
    Safe (·.ofEval) (·.plain) (arity form n args >>= fun _ => ev env a >>= fun l => ev env b >>= k l) :=
  (safe_arity form n args).bind fun _ _ =>
    (hev env a ha).bind fun l hl => (hev env b hb).bind fun r hr => hk l r hl hr

theorem safe_evalList (env : FrameId) {head : Value} {args : List Value}
    (hh : head.plain = true) (ha : ∀ a ∈ args, a.plain = true) :
    Safe (·.ofEval) (·.plain) (evalList ev env head args) := by
  have harg := plain_getD ha
  unfold evalList
  split
  case h_1 => exact (safe_arity _ _ _).bind fun _ _ => Safe.pure (harg 0)
  case h_2 => exact safe_operand hev (harg 0) fun _ _ => Safe.pure rfl
  case h_3 =>
    refine safe_operands hev (harg 0) (harg 1) fun l r _ _ => ?_
    split <;> exact Safe.pure rfl
  case h_4 =>
    refine safe_operands hev (harg 0) (harg 1) fun l r hl hr => ?_
    refine (safe_numbers hl hr).bind fun ab _ => ?_
    obtain ⟨a, b⟩ := ab
    exact Safe.ite (fun _ => Safe.fail rfl) fun _ => Safe.pure rfl
  case h_5 =>
    refine (safe_arity _ _ _).bind fun _ _ => (hev env _ (harg 0)).bind fun _ _ => ?_
    exact Safe.ite (fun _ => hev env _ (harg 1)) fun _ => hev env _ (harg 2)
  case h_6 =>
    refine (safe_arity _ _ _).bind fun _ _ => ?_
    split
    · exact (hev env _ (harg 1)).bind fun v hv =>
        (safe_define env _ hv).bind fun _ _ => Safe.pure hv
    · exact Safe.fail rfl
  case h_7 =>
    refine (safe_arity _ _ _).bind fun _ _ => ?_
    split
    · rename_i bindings h0
      have hbs : ∀ b ∈ bindings, b.plain = true := Value.plain_list.1 (h0 ▸ harg 0)
      exact (safe_bindLet hev hbs env).bind fun g _ => hev g _ (harg 1)
    · exact Safe.fail rfl
  case h_8 =>
    refine (safe_arity _ _ _).bind fun _ _ => ?_
    split
    · have hl : (Value.list (.sym "lambda" :: args.drop 1)).plain = true :=
        Value.plain_list.2 fun w hw => (List.mem_cons.1 hw).elim (fun h => h ▸ rfl)
          fun hw => ha w (List.mem_of_mem_drop hw)
      exact (hev env _ hl).bind fun c hc => (safe_define env _ hc).bind fun _ _ => Safe.pure rfl
    · exact Safe.fail rfl
  case h_9 =>
    refine (safe_arity _ _ _).bind fun _ _ => ?_
    split
    · rename_i params h0
      have hps : ∀ p ∈ params, p.plain = true := Value.plain_list.1 (h0 ▸ harg 0)
      exact (safe_checkParams _).bind fun _ _ => safe_makeClosure env hps (harg 1)
    · exact Safe.fail rfl
  case h_10 =>
    exact safe_apply hev env _ (Value.plain_closure_body hh) ha
  case h_11 =>
    exact safe_operands hev (harg 0) (harg 1) fun l r hl hr => safe_consOf hl hr
  case h_12 => exact safe_operand hev (harg 0) fun _ hv => safe_headOf hv
  case h_13 => exact safe_operand hev (harg 0) fun _ hv => safe_tailOf hv
  case h_14 => exact safe_operand hev (harg 0) fun _ hv => safe_emptyOf hv
  case h_15 =>
    refine (safe_arity _ _ _).bind fun _ _ => ?_
    split
    · rename_i clauses h0
      exact safe_evalCond hev env (Value.plain_list.1 (h0 ▸ harg 0))
    · exact Safe.fail rfl
  case h_16 =>
    split
    · refine safe_operands hev (harg 0) (harg 1) fun l r hl hr => ?_
      refine (safe_numbers hl hr).bind fun ab _ => ?_
      obtain ⟨a, b⟩ := ab
      exact safe_arith _ a b
    · refine (safe_lookup env _).bind fun f hf => ?_
      split
      · exact safe_apply hev env _ (Value.plain_closure_body hf) ha
      · exact Safe.fail rfl
  case h_17 | h_18 | h_19 => exact Safe.fail rfl
  case h_20 =>
    refine (hev env _ hh).bind fun f hf => ?_
    split
    · exact safe_apply hev env _ (Value.plain_closure_body hf) ha
    · exact safe_failWith (fun _ => rfl) hf

end Evaluator

/-- On plain programs, from a store of plain values, a run of the evaluator leaves a store of
plain values and returns a plain value, or fails in one of the ways of `Fault.ofEval`. -/
theorem eval_safe (fuel : Nat) :
    ∀ env a, a.plain = true → Safe (·.ofEval) (·.plain) (eval fuel env a) := by
  induction fuel with
  | zero => exact fun _ _ _ => Safe.fail rfl
  | succ fuel ih =>
    intro env a ha
    unfold eval
    split
    case h_1 | h_2 | h_3 => exact Safe.pure ha
    case h_4 => exact safe_lookup env _
    case h_5 => exact Safe.fail rfl
    case h_6 head args =>
      have hall := Value.plain_list.1 ha
      exact safe_evalList ih env (hall head List.mem_cons_self)
        fun a' h' => hall a' (List.mem_cons_of_mem _ h')
    case h_7 => exact safe_failWith (fun _ => rfl) ha

end Eval

end TinyLisp
