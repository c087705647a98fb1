import TinyLisp.Session
import TinyLisp.Proofs.Scan
import TinyLisp.Proofs.ReadRules
import TinyLisp.Proofs.PrintRead
import TinyLisp.Proofs.PlainRuns

/-!
# Which failures reach the caller

Reading, evaluating and printing fail only in the ways of `Fault.ofInterpreter`.
-/

namespace TinyLisp

namespace Fault

/-- The failures of reading: the language's own errors, an integer literal too long for text, and
the cutter's failures, a text that ends right after a quote and a token it cannot match. -/
def ofReader : Fault → Bool
  | .literalTooLong _ | .indexRange "string" | .noMatch => true
  | e => e.isLanguage

/-- The failures of running source text: those of reading it and of evaluating it, and an index
past the end of a list, from printing `(quote)` or from a file with no expressions. -/
def ofInterpreter (e : Fault) : Bool :=
  e.ofReader || e.ofEval || e == .indexRange "list"

theorem ofInterpreter_of_ofReader {e : Fault} (h : e.ofReader = true) : e.ofInterpreter = true := by
  simp [ofInterpreter, h]

theorem ofInterpreter_of_ofEval {e : Fault} (h : e.ofEval = true) : e.ofInterpreter = true := by
  simp [ofInterpreter, h]

end Fault

/-- A result of which `Q` holds, or a failure of which `P` holds. -/
inductive Outcome {α : Type} (P : Fault → Prop) (Q : α → Prop) : Except Fault α → Prop
  | ok {a : α} : Q a → Outcome P Q (.ok a)
  | error {e : Fault} : P e → Outcome P Q (.error e)

namespace Outcome

variable {α β : Type} {P : Fault → Prop} {Q : α → Prop} {R : β → Prop}

theorem imp {P' : Fault → Prop} {Q' : α → Prop} {x : Except Fault α} (hx : Outcome P Q x)
    (hP : ∀ e, P e → P' e) (hQ : ∀ a, Q a → Q' a) : Outcome P' Q' x := by
  cases hx with
  | ok hq => exact .ok (hQ _ hq)
  | error hp => exact .error (hP _ hp)

theorem of_error {x : Except Fault α} (hx : Outcome P Q x) {e : Fault} (h : x = .error e) : P e := by
  subst h
  cases hx with
  | error hp => exact hp

theorem of_ok {x : Except Fault α} (hx : Outcome P Q x) {a : α} (h : x = .ok a) : Q a := by
  subst h
  cases hx with
  | ok hq => exact hq

theorem bind {x : Except Fault α} {f : α → Except Fault β} (hx : Outcome P Q x)
    (hf : ∀ a, Q a → Outcome P R (f a)) : Outcome P R (x >>= f) := by
  cases hx with
  | ok hq => exact hf _ hq
  | error hp => exact .error hp

theorem mapM {f : β → Except Fault α} :
    ∀ {xs : List β}, (∀ x ∈ xs, Outcome P Q (f x)) →
      Outcome P (fun ys => ∀ y ∈ ys, Q y) (xs.mapM f)
  | [], _ => .ok fun _ h => (List.not_mem_nil h).elim
  | x :: xs, h => by
    rw [List.mapM_cons]
    refine (h x List.mem_cons_self).bind fun y hy => ?_
    refine (Outcome.mapM fun x' hx' => h x' (List.mem_cons_of_mem _ hx')).bind fun ys hys => ?_
    exact .ok fun z hz => (List.mem_cons.1 hz).elim (· ▸ hy) (hys z)

end Outcome

namespace Split

theorem matchingParen_open_fault {code : List Char} (hh : code.head? = some '(') {e : Fault}
    (h : matchingParen code 0 = .error e) : ∃ t, e = .incomplete t := by
  cases code with
  | nil => cases hh
  | cons c rest =>
    cases Option.some.inj hh
    rw [matchingParen_eq_close] at h
    split at h
    · cases h
    · cases h
      exact ⟨_, rfl⟩

theorem firstExpression_outcome (cs : List Char) :
    Outcome (·.ofReader) (fun _ => True) (firstExpression cs) := by
  fun_induction firstExpression cs with
  | case1 => exact .error rfl
  | case2 _ _ _ ih => exact ih.bind fun _ _ => .ok trivial
  | case3 _ rest _ =>
    cases h : matchingParen ('(' :: rest) 0 with
    | error e =>
      obtain ⟨t, rfl⟩ := matchingParen_open_fault rfl h
      exact .error rfl
    | ok _ => exact .ok trivial
  | case4 | case6 => exact .error rfl
  | case5 | case7 => exact .ok trivial

theorem splitFrom_outcome (rest : List Char) :
    Outcome (·.ofReader) (fun _ => True) (splitFrom rest) := by
  fun_induction splitFrom rest with
  | case1 => exact .ok trivial
  | case2 rest _ f hf => exact .error ((firstExpression_outcome rest).of_error hf)
  | case3 _ _ _ _ _ ih => exact ih.bind fun _ _ => .ok trivial

end Split

namespace Reader

theorem readChars_outcome (src : List Char) :
    Outcome (·.ofReader) (·.plain) (readChars src) := by
  fun_induction readChars src with
  | case1 _ _ _ _ ih =>
    refine ih.bind fun v hv => .ok (Value.plain_list.2 fun w hw => ?_)
    rcases List.mem_pair.1 hw with rfl | rfl
    · rfl
    · exact hv
  | case5 =>
    unfold Decimal.readDigits
    split
    · exact .error rfl
    · exact .ok rfl
  | case10 x f hq hb hd hh hnil hpar hm =>
    obtain ⟨t, rfl⟩ := Split.matchingParen_open_fault hpar.1 hm
    exact .error rfl
  | case12 x closing f hq hb hd hh hnil hpar hm hc hs =>
    exact .error ((Split.splitFrom_outcome _).of_error hs)
  | case13 x closing pieces hq hb hd hh hnil hpar hm hc hs ih =>
    simp only [List.mapM_subtype, List.unattach_attach]
    exact (Outcome.mapM ih).bind fun _ hitems => .ok (Value.plain_list.2 hitems)
  | case4 | case7 | case8 | case11 => exact .error rfl
  | case2 | case3 | case6 | case9 | case14 => exact .ok rfl

theorem readAll_outcome (src : String) :
    Outcome (·.ofReader) (fun vs => ∀ v ∈ vs, v.plain = true) (readAll src) :=
  (Split.splitFrom_outcome _).bind fun _ _ => Outcome.mapM fun p _ => readChars_outcome p

end Reader

namespace Value

theorem describe_outcome {v : Value} (hv : v.plain = true) :
    Outcome (·.ofEval) (fun _ => True) v.describe := by
  cases h : v.describe with
  | ok => exact .ok trivial
  | error e => exact .error (Eval.describe_fault hv h)

mutual

theorem toSource_outcome (v : Value) (hv : v.plain = true) :
    Outcome (fun e => e = .indexRange "list" ∨ e.ofEval) (fun _ => True) v.toSource := by
  cases v with
  | list xs =>
    have hxs := plain_list.1 hv
    cases xs with
    | nil => exact .ok trivial
    | cons x rest =>
      by_cases hx : x = .sym "quote"
      · subst hx
        cases rest with
        | nil => exact .error (.inl rfl)
        | cons w rest =>
          rw [toSource_quote]
          exact (toSource_outcome w (hxs w (by simp))).bind fun _ _ => .ok trivial
      · rw [toSource_list (by simpa using hx)]
        exact (sourceItems_outcome (x :: rest) hxs).bind fun _ _ => .ok trivial
  | bool => exact .ok trivial
  | _ => exact (describe_outcome hv).imp (fun _ h => .inr h) fun _ h => h
termination_by structural v

theorem sourceItems_outcome (vs : List Value) (hvs : ∀ v ∈ vs, v.plain = true) :
    Outcome (fun e => e = .indexRange "list" ∨ e.ofEval) (fun _ => True) (sourceItems vs) := by
  cases vs with
  | nil => exact .ok trivial
  | cons v vs =>
    rw [sourceItems]
    refine (toSource_outcome v (hvs v List.mem_cons_self)).bind fun _ _ => ?_
    exact (sourceItems_outcome vs fun w hw => hvs w (List.mem_cons_of_mem v hw)).bind
      fun _ _ => .ok trivial
termination_by structural vs

end

end Value

namespace Eval

variable {α β : Type} {P : Fault → Prop} {Q : α → Prop} {R : β → Prop}

theorem Safe.ofOutcome {x : Except Fault α} (hx : Outcome P Q x) : Safe P Q (liftExcept x) := by
  cases hx with
  | ok hq => exact Safe.pure hq
  | error hp => exact Safe.fail hp

theorem Safe.run {m : Eval α} (hm : Safe P Q m) {st : Store} (hs : st.Plain) :
    SafeEnd P Q (m.run st) :=
  hm st hs

theorem Safe.ofOutcome_bind {x : Except Fault α} {f : α → Eval β} (hx : Outcome P Q x)
    (hf : ∀ a, Q a → Safe P R (f a)) : Safe P R (liftExcept x >>= f) :=
  Safe.liftExcept_bind (fun _ h => hx.of_error h) fun a h => hf a (hx.of_ok h)

end Eval

namespace Session

open Eval

theorem safe_evalTop {ast : Value} (h : ast.plain = true) :
    Safe (·.ofInterpreter) (·.plain) (evalTop ast) :=
  (eval_safe fuel top ast h).imp (fun _ he => Fault.ofInterpreter_of_ofEval he) fun _ hv => hv

theorem safe_evalFile (src : String) :
    Safe (·.ofInterpreter) (fun vs => ∀ v ∈ vs, v.plain = true) (evalFile src) := by
  unfold evalFile
  refine Safe.ofOutcome_bind ((Reader.readAll_outcome _).imp
    (fun _ he => Fault.ofInterpreter_of_ofReader he) fun _ h => h) fun asts hasts => ?_
  exact Safe.mapM fun a ha => safe_evalTop (hasts a ha)

theorem safe_print {v : Value} (hv : v.plain = true) :
    Safe (·.ofInterpreter) (fun _ => True) (Eval.liftExcept v.toSource) := by
  refine Safe.ofOutcome ((Value.toSource_outcome v hv).imp (fun e he => ?_) fun _ h => h)
  rcases he with rfl | he
  · rfl
  · exact Fault.ofInterpreter_of_ofEval he

theorem start_plain (withPrelude : Bool) : (start withPrelude).Plain := by
  unfold start
  split
  · -- the run is generalized as it stands: unfolding it would make the kernel run the prelude
    have h := (safe_evalFile preludeSource).run Store.initial_plain
    generalize (evalFile preludeSource).run Store.initial = r at h ⊢
    cases h with
    | ok _ hs => exact hs
    | error _ hs => exact hs
  · exact Store.initial_plain

theorem runFresh_outcome {m : Eval α} {P : Fault → Prop} {Q : α → Prop} (hm : Safe P Q m)
    (withPrelude : Bool) : Outcome P Q (runFresh withPrelude m) := by
  have h := hm.run (start_plain withPrelude)
  unfold runFresh
  generalize m.run (start withPrelude) = r at h ⊢
  cases h with
  | ok hq _ => exact .ok hq
  | error hp _ => exact .error hp

theorem safe_interpretIn (src : String) :
    Safe (·.ofInterpreter) (fun _ => True) (interpretIn src) := by
  unfold interpretIn
  refine Safe.ofOutcome_bind ((Reader.readChars_outcome _).imp
    (fun _ he => Fault.ofInterpreter_of_ofReader he) fun _ h => h) fun ast hast => ?_
  exact (safe_evalTop hast).bind fun v hv => safe_print hv

theorem safe_runFile (src : String) : Safe (·.ofInterpreter) (fun _ => True) (runFile src) := by
  unfold runFile
  refine (safe_evalFile src).bind fun vs hvs => ?_
  split
  · rename_i v hl
    exact safe_print (hvs v (List.mem_of_getLast? hl))
  · exact Safe.fail rfl

/-- The failures of the interpreter. A program or a file run from a store of plain values, as
every session's store is, gives a text or fails in one of the ways of `Fault.ofInterpreter`, and
leaves a store of plain values; so do `interpret` and `interpretFile` in a new session. -/
theorem interpreter_failures (src : String) :
    Safe (·.ofInterpreter) (fun _ => True) (interpretIn src) ∧
    Safe (·.ofInterpreter) (fun _ => True) (runFile src) ∧
    ∀ withPrelude,
      Outcome (·.ofInterpreter) (fun _ => True) (interpret withPrelude src) ∧
      Outcome (·.ofInterpreter) (fun _ => True) (interpretFile withPrelude src) :=
  ⟨safe_interpretIn src, safe_runFile src, fun wp =>
    ⟨runFresh_outcome (safe_interpretIn src) wp, runFresh_outcome (safe_runFile src) wp⟩⟩

/-- A `let` binding that is an integer has no length, and the host's type error reaches the
caller: `let` checks only that its bindings are a list. -/
theorem interpret_let_binding_without_length :
    interpret false "(let (5) 1)" = .error (.noLength "int") ∧
      (Fault.noLength "int").kind = "TypeError" := by
  -- the name is checked character by character: deciding the whole list at once is slow
  have hlet : Value.Printable (.sym "let") := by
    show PrintableName ['l', 'e', 't']
    refine ⟨by simp, ?_, fun h => absurd (h 'l' (by simp)) (by decide), by simp⟩
    intro c hc
    simp only [List.mem_cons, List.not_mem_nil, or_false] at hc
    rcases hc with rfl | rfl | rfl <;> decide
  have hv : Value.Printable (.list [.sym "let", .list [.int 5], .int 1]) :=
    (Value.printable_list (by simp)).2
      ⟨hlet, (Value.printable_list (by simp)).2 ⟨⟨by decide, by decide +kernel⟩, trivial⟩,
        ⟨by decide, by decide +kernel⟩, trivial⟩
  have hc : Value.TextsClosed false (.list [.sym "let", .list [.int 5], .int 1]) :=
    ⟨trivial, ⟨trivial, trivial⟩, trivial, trivial⟩
  have hread : Reader.read "(let (5) 1)" = .ok (.list [.sym "let", .list [.int 5], .int 1]) :=
    hv.readChars hc
  refine ⟨?_, rfl⟩
  unfold interpret runFresh interpretIn
  rw [hread]
  rfl

end Session

end TinyLisp
