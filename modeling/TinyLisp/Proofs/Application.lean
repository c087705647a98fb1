import TinyLisp.Proofs.Scoping

/-!
# Calling a closure

The head of a call gives the closure by a name, as itself, or as a list's value; the
arguments are counted, then evaluated left to right, and the body runs in a copy of the
closure's frame.
-/

namespace TinyLisp

namespace Store

theorem find?_map_eq_lookup (x : String) :
    ∀ kvs : List (String × Value), (kvs.find? (·.1 == x)).map (·.2) = kvs.lookup x
  | [] => rfl
  | (k, v) :: kvs => by
    by_cases h : k = x
    · subst h
      simp
    · have hx : (x == k) = false := by simpa using Ne.symm h
      rw [List.lookup_cons, hx, ← find?_map_eq_lookup x kvs]
      simp [h]

theorem lookup_extend (st : Store) (f : FrameId) (kvs : List (String × Value)) (x : String) :
    (st.extend f kvs).1.lookup (st.extend f kvs).2 x = (kvs.reverse.lookup x).or (st.lookup f x) := by
  rw [extend_eq, lookup, bindings_push_size, List.find?_append, Option.map_or,
    find?_map_eq_lookup, lookup]

end Store

namespace Eval

/-- The names of the special forms: a list headed by one of them is that form, not a call. -/
def specialForms : List String :=
  ["quote", "atom", "eq", "mod", "+", "-", "/", "*", ">", "if", "define", "let", "defn", "lambda",
    "cons", "head", "tail", "empty", "cond"]

theorem lookup_apply (env : FrameId) (name : String) (st : Store) :
    lookup env name st = match st.lookup env name with
      | some v => .ok v st
      | none => .error (.unbound name) st := by
  show (match st.lookup env name with
    | some v => (pure v : Eval Value)
    | none => throw (Fault.unbound name)) st = _
  cases st.lookup env name <;> rfl

theorem evalList_sym {ev : Evaluator} {env : FrameId} {name : String} (args : List Value)
    (h : name ∉ specialForms) :
    evalList ev env (.sym name) args = (do
      match ← lookup env name with
      | .closure _ frame params body => apply ev env frame params body args
      | _ => throw (.notAFunction name)) := by
  rw [evalList]
  split
  case isTrue hc =>
    simp only [arithOps, List.contains_iff_mem, List.mem_cons, List.not_mem_nil, or_false] at hc
    rcases hc with rfl | rfl | rfl | rfl | rfl <;> exact absurd (by decide) h
  case isFalse => rfl
  all_goals
    rintro rfl
    exact h (by decide)

theorem evalList_list {ev : Evaluator} {env : FrameId} (items args : List Value) :
    evalList ev env (.list items) args = (do
      match ← ev env (.list items) with
      | .closure _ frame params body => apply ev env frame params body args
      | v => failWith .notAFunction v) := by
  rfl

theorem bindArgs_names (ev : Evaluator) (env : FrameId) :
    ∀ (names : List String) (args : List Value), names.length = args.length →
      bindArgs ev env ((names.map .sym).zip args) = (names.zip ·) <$> args.mapM (ev env)
  | [], [], _ => by simp [bindArgs]
  | n :: names, a :: args, h => by
    have ih := bindArgs_names ev env names args (Nat.succ.inj h)
    simp only [List.map_cons, List.zip_cons_cons, bindArgs, keyBinding, ih, List.mapM_cons,
      map_bind, bind_pure_comp, Functor.map_map, pure_bind]
    rfl

theorem apply_names {ev : Evaluator} {env frame : FrameId} {params body : Value}
    {names : List String} (hp : params.elements? = some (names.map .sym)) (args : List Value) :
    apply ev env frame params body args =
      if names.length = args.length then do
        let vs ← args.mapM (ev env)
        let inner ← extend frame (names.zip vs)
        ev inner body
      else throw (.argumentCount names.length args.length) := by
  rw [apply, hp]
  simp only [List.length_map]
  by_cases h : names.length = args.length
  · rw [if_neg (not_not.2 h), if_pos h, bindArgs_names ev env names args h, bind_map_left]
  · rw [if_pos h, if_neg h]

/-- How the head of a call gives the closure it calls, and the store once the head is done: a
name that is not a special form, bound to the closure; the closure itself; or a list whose
value is the closure. -/
inductive Callee (fuel : Nat) (env : FrameId) (st : Store) : Value → Value → Store → Prop
  | named {name : String} {c : Value} :
      name ∉ specialForms → st.lookup env name = some c → Callee fuel env st (.sym name) c st
  | literal {serial : Nat} {frame : FrameId} {params body : Value} :
      Callee fuel env st (.closure serial frame params body) (.closure serial frame params body) st
  | computed {items : List Value} {c : Value} {st' : Store} :
      eval fuel env (.list items) st = .ok c st' → Callee fuel env st (.list items) c st'

theorem Callee.eval_call {fuel : Nat} {env : FrameId} {st st₀ : Store} {head : Value}
    {serial : Nat} {frame : FrameId} {params body : Value}
    (h : Callee fuel env st head (.closure serial frame params body) st₀) (args : List Value) :
    eval (fuel + 1) env (.list (head :: args)) st =
      apply (eval fuel) env frame params body args st₀ := by
  cases h with
  | named hn hl =>
    show evalList (eval fuel) env _ args st = _
    rw [evalList_sym args hn, bind_apply, lookup_apply, hl]
  | literal => rw [eval_closure]
  | @computed items c st' he =>
    show evalList (eval fuel) env (.list items) args st = _
    rw [evalList_list, bind_apply, he]

/-- Function application. Whichever way the head gives a closure with names for parameters, a
call with the wrong number of arguments fails once the head is done, before any argument is
evaluated; with the right number it evaluates the arguments once each, left to right, in the
frame of the call, and then the body in a copy of the closure's frame where a parameter means
the value of the last argument given for it. A name bound to anything but a closure, and a
boolean, an integer or a text at the head, fail at once with the language's error. -/
theorem eval_application (fuel : Nat) (env : FrameId) (args : List Value) (st : Store) :
    (∀ head serial frame params body (names : List String) st₀,
      Callee fuel env st head (.closure serial frame params body) st₀ →
      params.elements? = some (names.map .sym) →
      eval (fuel + 1) env (.list (head :: args)) st =
        if names.length = args.length then
          (do
            let vs ← args.mapM (eval fuel env)
            let inner ← extend frame (names.zip vs)
            eval fuel inner body) st₀
        else .error (.argumentCount names.length args.length) st₀) ∧
    (∀ (st' : Store) (frame : FrameId) (names : List String) (vs : List Value) (x : String),
      (st'.extend frame (names.zip vs)).1.lookup (st'.extend frame (names.zip vs)).2 x =
        ((names.zip vs).reverse.lookup x).or (st'.lookup frame x)) ∧
    (∀ name v, name ∉ specialForms → st.lookup env name = some v →
      (∀ serial frame params body, v ≠ .closure serial frame params body) →
      eval (fuel + 1) env (.list (.sym name :: args)) st = .error (.notAFunction name) st) ∧
    (∀ head, (∃ b, head = .bool b) ∨ (∃ n, head = .int n) ∨ (∃ d, head = .str d) →
      eval (fuel + 1) env (.list (head :: args)) st = .error .atomApplied st) ∧
    (∀ n m, (Fault.argumentCount n m).kind = "DiyLangError" ∧
      (Fault.argumentCount n m).message =
        "wrong number of arguments, expected " ++ toString n ++ " got " ++ toString m) ∧
    (∀ name, (Fault.notAFunction name).kind = "DiyLangError" ∧
      (Fault.notAFunction name).message = name ++ " not a function") ∧
    Fault.atomApplied.kind = "DiyLangError" ∧ Fault.atomApplied.message = "not a function" := by
  refine ⟨fun head serial frame params body names st₀ hc hp => ?_,
    fun st' frame names vs x => Store.lookup_extend st' frame _ x, fun name v hn hl hv => ?_,
    fun head hh => ?_, fun _ _ => ⟨rfl, rfl⟩, fun _ => ⟨rfl, rfl⟩, rfl, rfl⟩
  · rw [hc.eval_call, apply_names hp]
    split <;> rfl
  · show evalList (eval fuel) env _ args st = _
    rw [evalList_sym args hn, bind_apply, lookup_apply, hl]
    cases v with
    | closure serial frame params body => exact absurd rfl (hv serial frame params body)
    | _ => rfl
  · rcases hh with ⟨b, rfl⟩ | ⟨n, rfl⟩ | ⟨d, rfl⟩ <;> rfl

/-- A one-parameter closure called with one argument. -/
theorem eval_application_literal :
    Callee 1 0 ⟨#[[]], 1⟩ (.closure 0 0 (.list [.sym "x"]) (.sym "x"))
        (.closure 0 0 (.list [.sym "x"]) (.sym "x")) ⟨#[[]], 1⟩ ∧
      (Value.list [.sym "x"]).elements? = some (["x"].map .sym) ∧
      eval 2 0 (.list [.closure 0 0 (.list [.sym "x"]) (.sym "x"), .int 7]) ⟨#[[]], 1⟩ =
        (do
          let vs ← [Value.int 7].mapM (eval 1 0)
          let inner ← extend 0 (["x"].zip vs)
          eval 1 inner (.sym "x")) ⟨#[[]], 1⟩ :=
  ⟨.literal, rfl, (eval_application 1 0 [.int 7] ⟨#[[]], 1⟩).1 _ 0 0 _ _ ["x"] _ .literal rfl⟩

end Eval

end TinyLisp
