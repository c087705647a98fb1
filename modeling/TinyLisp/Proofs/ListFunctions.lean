import Mathlib
import TinyLisp.Proofs.PreludeLoad

/-!
# The list functions of the prelude
-/

namespace TinyLisp

namespace Prelude

open Eval

theorem hasText_iff {n : Int} : Decimal.hasText n = true ↔ n.natAbs < Decimal.limit := by
  simp [Decimal.hasText]

theorem hasText_one : Decimal.hasText 1 = true := by decide +kernel

variable {st : Store}

theorem returns_list (v : Value) :
    Returns listDef [v] st (.list [v]) (st.extend 0 (listDef.params.zip [v])).1 :=
  ⟨rfl, .cons (.lookup (lookup_param rfl)) (.quote _)⟩

theorem returns_append (ys : List Value) :
    ∀ (xs : List Value) (st : Store), Loaded st →
      ∃ st', Returns appendDef [.list xs, .list ys] st (.list (xs ++ ys)) st' := by
  intro xs
  induction xs with
  | nil =>
    exact fun _ _ => ⟨_, rfl, .ite_true (.empty (.lookup (lookup_param rfl))) rfl
      (.lookup (lookup_param rfl))⟩
  | cons x xs ih =>
    intro st hL
    set c := st.extend 0 (appendDef.params.zip [.list (x :: xs), .list ys])
    have ha : c.1.lookup c.2 "a" = some (.list (x :: xs)) := lookup_param rfl
    have hb : c.1.lookup c.2 "b" = some (.list ys) := lookup_param rfl
    obtain ⟨st', hrest⟩ := ih c.1 (hL.steps (steps_extend _))
    exact ⟨st', rfl, .ite_false (.empty (.lookup ha)) rfl
      (.cons (.head (.lookup ha))
        (hL.call_in_body appendDef _ appendDef (by simp [defs]) (by decide) .refl
          (.cons (.tail (.lookup ha)) (.cons (.lookup hb) .nil)) hrest))⟩

theorem returns_reverse :
    ∀ (xs : List Value) (st : Store), Loaded st →
      ∃ st', Returns reverseDef [.list xs] st (.list xs.reverse) st' := by
  intro xs
  induction xs with
  | nil => exact fun _ _ => ⟨_, rfl, .ite_true (.empty (.lookup (lookup_param rfl))) rfl (.quote _)⟩
  | cons x xs ih =>
    intro st hL
    set c := st.extend 0 (reverseDef.params.zip [.list (x :: xs)])
    have hc : Loaded c.1 := hL.steps (steps_extend _)
    have hl : c.1.lookup c.2 "l" = some (.list (x :: xs)) := lookup_param rfl
    obtain ⟨st₁, hr⟩ := ih c.1 hc
    have hrev₁ : Evaluates c.2 (.list [.sym "reverse", .list [.sym "tail", .sym "l"]]) c.1
        (.list xs.reverse) st₁ :=
      hL.call_in_body reverseDef _ reverseDef (by simp [defs]) (by decide) .refl
        (.cons (.tail (.lookup hl)) .nil) hr
    have hs₁ := hrev₁.steps
    have hlist₁ : Evaluates c.2 (.list [.sym "list", .list [.sym "head", .sym "l"]]) st₁
        (.list [x]) _ :=
      hL.call_in_body reverseDef _ listDef (by simp [defs]) (by decide) hs₁
        (.cons (.head (.lookup (steps_lookup_eq hs₁ hl))) .nil) (returns_list x)
    obtain ⟨st₂, happ₂⟩ := returns_append [x] xs.reverse _ (hc.steps (hs₁.trans hlist₁.steps))
    rw [List.reverse_cons]
    exact ⟨st₂, rfl, .ite_false (.empty (.lookup hl)) rfl
      (hL.call_in_body reverseDef _ appendDef (by simp [defs]) (by decide) .refl
        (.cons hrev₁ (.cons hlist₁ .nil)) happ₂)⟩

theorem returns_length :
    ∀ (xs : List Value) (st : Store), Loaded st → Decimal.hasText xs.length = true →
      ∃ st', Returns lengthDef [.list xs] st (.int xs.length) st' := by
  intro xs
  induction xs with
  | nil => exact fun _ _ _ => ⟨_, rfl, .ite_true (.empty (.lookup (lookup_param rfl))) rfl (.int 0)⟩
  | cons x xs ih =>
    intro st hL ht
    set c := st.extend 0 (lengthDef.params.zip [.list (x :: xs)])
    have hl : c.1.lookup c.2 "l" = some (.list (x :: xs)) := lookup_param rfl
    have ht' : Decimal.hasText xs.length = true := by
      rw [hasText_iff] at ht ⊢
      simp only [List.length_cons] at ht
      omega
    obtain ⟨st', hr⟩ := ih c.1 (hL.steps (steps_extend _)) ht'
    have hsum : ((x :: xs).length : Int) = 1 + xs.length := by
      rw [List.length_cons]
      omega
    rw [hsum]
    exact ⟨st', rfl, .ite_false (.empty (.lookup hl)) rfl
      (.add (.int 1) (hL.call_in_body lengthDef _ lengthDef (by simp [defs]) (by decide) .refl
        (.cons (.tail (.lookup hl)) .nil) hr) hasText_one ht')⟩

section Texts

theorem liftExcept_ok {α : Type} (a : α) : liftExcept (.ok a) = pure a := rfl

theorem tailOf_text (c : Char) (cs : List Char) :
    tailOf (.str (.text (String.ofList (c :: cs)))) st = .ok (.str (.text (String.ofList cs))) st := by
  have hlen : (String.ofList (c :: cs)).length ≠ 0 := by simp
  simp only [tailOf, Datum.length, Datum.rest, String.toList_ofList, List.tail_cons]
  rw [liftExcept_ok, pure_bind, if_neg hlen, liftExcept_ok, pure_bind]
  rfl

theorem returns_length_text :
    ∀ (cs : List Char) (st : Store), Loaded st → Decimal.hasText cs.length = true →
      ∃ st', Returns lengthDef [.str (.text (String.ofList cs))] st (.int cs.length) st' := by
  intro cs
  induction cs with
  | nil =>
    exact fun _ _ _ => ⟨_, rfl, .ite_true (.unary (eval_emptyForm · _ _) (.lookup (lookup_param rfl)) rfl)
      rfl (.int 0)⟩
  | cons c cs ih =>
    intro st hL ht
    set t := Value.str (.text (String.ofList (c :: cs)))
    set k := st.extend 0 (lengthDef.params.zip [t])
    have hl : k.1.lookup k.2 "l" = some t := lookup_param rfl
    have ht' : Decimal.hasText cs.length = true := by
      rw [hasText_iff] at ht ⊢
      simp only [List.length_cons] at ht
      omega
    obtain ⟨st', hr⟩ := ih k.1 (hL.steps (steps_extend _)) ht'
    have hne : decide ((String.ofList (c :: cs)).length = 0) = false := by simp
    have hsum : ((c :: cs).length : Int) = 1 + cs.length := by
      rw [List.length_cons]
      omega
    rw [hsum]
    exact ⟨st', rfl, .ite_false (.unary (eval_emptyForm · _ _) (.lookup hl) rfl) hne
      (.add (.int 1) (hL.call_in_body lengthDef _ lengthDef (by simp [defs]) (by decide) .refl
        (.cons (.unary (eval_tailForm · _ _) (.lookup hl) (tailOf_text c cs)) .nil) hr)
        hasText_one ht')⟩

end Texts

/-- The items of a list of integers, and the sum of the items after each, have decimal texts:
what the additions of `sum` need. -/
def SumsHaveText : List Int → Prop
  | [] => True
  | x :: xs => Decimal.hasText x = true ∧ Decimal.hasText xs.sum = true ∧ SumsHaveText xs

theorem returns_sum :
    ∀ (xs : List Int) (st : Store), Loaded st → SumsHaveText xs →
      ∃ st', Returns sumDef [.list (xs.map .int)] st (.int xs.sum) st' := by
  intro xs
  induction xs with
  | nil => exact fun _ _ _ => ⟨_, rfl, .ite_true (.empty (.lookup (lookup_param rfl))) rfl (.int 0)⟩
  | cons x xs ih =>
    intro st hL ⟨hx, hs, hxs⟩
    set c := st.extend 0 (sumDef.params.zip [.list ((x :: xs).map .int)])
    have hl : c.1.lookup c.2 "l" = some (.list (.int x :: xs.map .int)) := lookup_param rfl
    obtain ⟨st', hr⟩ := ih c.1 (hL.steps (steps_extend _)) hxs
    rw [List.sum_cons]
    exact ⟨st', rfl, .ite_false (.empty (.lookup hl)) rfl
      (.add (.head (.lookup hl))
        (hL.call_in_body sumDef _ sumDef (by simp [defs]) (by decide) .refl
          (.cons (.tail (.lookup hl)) .nil) hr) hx hs)⟩

/-- The integers from `a` to `b`, in order; none when `a > b`. -/
def intRange (a b : Int) : List Int := (List.range (b + 1 - a).toNat).map fun (i : Nat) => a + i

theorem intRange_of_lt {a b : Int} (h : b < a) : intRange a b = [] := by
  rw [intRange, show (b + 1 - a).toNat = 0 by omega, List.range_zero, List.map_nil]

theorem intRange_of_le {a b : Int} (h : a ≤ b) : intRange a b = a :: intRange (a + 1) b := by
  obtain ⟨n, hn⟩ : ∃ n, (b + 1 - a).toNat = n + 1 := ⟨(b - a).toNat, by omega⟩
  have hn' : (b + 1 - (a + 1)).toNat = n := by omega
  rw [intRange, intRange, hn, hn', List.range_succ_eq_map, List.map_cons, List.map_map]
  congr 1
  · omega
  · refine List.map_congr_left fun i _ => ?_
    simp only [Function.comp_apply]
    omega

theorem returns_range (b : Int) (hb : Decimal.hasText b = true)
    (hb' : Decimal.hasText (b + 1) = true) :
    ∀ (n : Nat) (a : Int) (st : Store), (b + 1 - a).toNat = n → Decimal.hasText a = true →
      Loaded st → ∃ st', Returns rangeDef [.int a, .int b] st (.list ((intRange a b).map .int)) st' := by
  intro n
  induction n with
  | zero =>
    intro a st hn ha _
    have hba : b < a := by omega
    rw [intRange_of_lt hba]
    exact ⟨_, rfl, .ite_true (.greater (.lookup (lookup_param rfl)) (.lookup (lookup_param rfl)) ha hb)
      (decide_eq_true hba) (.quote _)⟩
  | succ n ih =>
    intro a st hn ha hL
    have hab : a ≤ b := by omega
    set c := st.extend 0 (rangeDef.params.zip [.int a, .int b])
    have hfrom : c.1.lookup c.2 "from" = some (.int a) := lookup_param rfl
    have hto : c.1.lookup c.2 "to" = some (.int b) := lookup_param rfl
    have ha' : Decimal.hasText (a + 1) = true := by
      rw [hasText_iff] at ha hb' ⊢
      omega
    obtain ⟨st', hr⟩ := ih (a + 1) c.1 (by omega) ha' (hL.steps (steps_extend _))
    rw [intRange_of_le hab, List.map_cons]
    exact ⟨st', rfl, .ite_false (.greater (.lookup hfrom) (.lookup hto) ha hb)
      (decide_eq_false (Int.not_lt.2 hab))
      (.cons (.lookup hfrom)
        (hL.call_in_body rangeDef _ rangeDef (by simp [defs]) (by decide) .refl
          (.cons (.add (.lookup hfrom) (.int 1) ha hasText_one) (.cons (.lookup hto) .nil)) hr))⟩

section Closures

variable {s : Nat} {fr : FrameId} {ps fb : Value}

theorem returns_map (φ : Value → Value) :
    ∀ (xs : List Value) (st : Store), Loaded st →
      (∀ st', Store.Steps (fun _ => True) st st' → ∀ x ∈ xs,
        ∃ st'', Evaluates 0 (callOf (.closure s fr ps fb) [x]) st' (φ x) st'') →
      ∃ st', Returns mapDef [.closure s fr ps fb, .list xs] st (.list (xs.map φ)) st' := by
  intro xs
  induction xs with
  | nil => exact fun _ _ _ => ⟨_, rfl, .ite_true (.empty (.lookup (lookup_param rfl))) rfl (.quote _)⟩
  | cons x xs ih =>
    intro st hL hf
    set c := st.extend 0 (mapDef.params.zip [.closure s fr ps fb, .list (x :: xs)])
    have hs₀ : Store.Steps (fun _ => True) st c.1 := steps_extend _
    have hc : Loaded c.1 := hL.steps hs₀
    have hm : c.1.lookup c.2 "mapper" = some (.closure s fr ps fb) := lookup_param rfl
    have hl : c.1.lookup c.2 "l" = some (.list (x :: xs)) := lookup_param rfl
    obtain ⟨st₁, hx⟩ := hf c.1 hs₀ x List.mem_cons_self
    have hcall : Evaluates c.2 (.list [.sym "mapper", .list [.sym "head", .sym "l"]]) c.1 (φ x) st₁ :=
      .call (by decide) hm (.cons (.head (.lookup hl)) .nil) hx
    have hone : Evaluates c.2 (.list [.sym "list", .list [.sym "mapper", .list [.sym "head", .sym "l"]]])
        c.1 (.list [φ x]) _ :=
      hL.call_in_body mapDef _ listDef (by simp [defs]) (by decide) .refl (.cons hcall .nil)
        (returns_list (φ x))
    have hs₁ := hone.steps
    obtain ⟨st₂, hr⟩ := ih _ (hc.steps hs₁) fun st' h y hy =>
      hf st' (hs₀.trans (hs₁.trans h)) y (List.mem_cons_of_mem x hy)
    have hrest : Evaluates c.2 (.list [.sym "map", .sym "mapper", .list [.sym "tail", .sym "l"]]) _
        (.list (xs.map φ)) st₂ :=
      hL.call_in_body mapDef _ mapDef (by simp [defs]) (by decide) hs₁
        (.cons (.lookup (steps_lookup_eq hs₁ hm)) (.cons (.tail (.lookup (steps_lookup_eq hs₁ hl))) .nil))
        hr
    obtain ⟨st₃, hap⟩ := returns_append (xs.map φ) [φ x] st₂ (hc.steps (hs₁.trans hrest.steps))
    exact ⟨st₃, rfl, .ite_false (.empty (.lookup hl)) rfl
      (hL.call_in_body mapDef _ appendDef (by simp [defs]) (by decide) .refl
        (.cons hone (.cons hrest .nil)) hap)⟩

theorem returns_filter (φ : Value → Value) :
    ∀ (xs : List Value) (st : Store), Loaded st →
      (∀ st', Store.Steps (fun _ => True) st st' → ∀ x ∈ xs,
        ∃ st'', Evaluates 0 (callOf (.closure s fr ps fb) [x]) st' (φ x) st'') →
      ∃ st', Returns filterDef [.closure s fr ps fb, .list xs] st
        (.list (xs.filter fun x => (φ x).truthy)) st' := by
  intro xs
  induction xs with
  | nil => exact fun _ _ _ => ⟨_, rfl, .ite_true (.empty (.lookup (lookup_param rfl))) rfl (.quote _)⟩
  | cons x xs ih =>
    intro st hL hf
    set c := st.extend 0 (filterDef.params.zip [.closure s fr ps fb, .list (x :: xs)])
    have hs₀ : Store.Steps (fun _ => True) st c.1 := steps_extend _
    have hc : Loaded c.1 := hL.steps hs₀
    have hp : c.1.lookup c.2 "predicate" = some (.closure s fr ps fb) := lookup_param rfl
    have hl : c.1.lookup c.2 "l" = some (.list (x :: xs)) := lookup_param rfl
    obtain ⟨st₁, hx⟩ := hf c.1 hs₀ x List.mem_cons_self
    have htest : Evaluates c.2 (.list [.sym "predicate", .list [.sym "head", .sym "l"]]) c.1 (φ x)
        st₁ :=
      .call (by decide) hp (.cons (.head (.lookup hl)) .nil) hx
    have hs₁ := htest.steps
    obtain ⟨st₂, hkeep⟩ : ∃ st₂, Evaluates c.2
        (.list [.sym "if", .list [.sym "predicate", .list [.sym "head", .sym "l"]],
          .list [.sym "list", .list [.sym "head", .sym "l"]], .list [.sym "quote", .list []]])
        c.1 (.list (if (φ x).truthy then [x] else [])) st₂ := by
      cases ht : (φ x).truthy
      · exact ⟨_, .ite_false htest ht (.quote _)⟩
      · exact ⟨_, .ite_true htest ht (hL.call_in_body filterDef _ listDef (by simp [defs]) (by decide)
          hs₁ (.cons (.head (.lookup (steps_lookup_eq hs₁ hl))) .nil) (returns_list x))⟩
    have hs₂ := hkeep.steps
    obtain ⟨st₃, hr⟩ := ih _ (hc.steps hs₂) fun st' h y hy =>
      hf st' (hs₀.trans (hs₂.trans h)) y (List.mem_cons_of_mem x hy)
    have hrest : Evaluates c.2 (.list [.sym "filter", .sym "predicate", .list [.sym "tail", .sym "l"]])
        st₂ (.list (xs.filter fun x => (φ x).truthy)) st₃ :=
      hL.call_in_body filterDef _ filterDef (by simp [defs]) (by decide) hs₂
        (.cons (.lookup (steps_lookup_eq hs₂ hp)) (.cons (.tail (.lookup (steps_lookup_eq hs₂ hl))) .nil))
        hr
    obtain ⟨st₄, hap⟩ := returns_append (xs.filter fun x => (φ x).truthy)
      (if (φ x).truthy then [x] else []) st₃ (hc.steps (hs₂.trans hrest.steps))
    have hval : (if (φ x).truthy then [x] else []) ++ xs.filter (fun x => (φ x).truthy) =
        (x :: xs).filter fun x => (φ x).truthy := by
      cases ht : (φ x).truthy <;> simp [ht]
    rw [← hval]
    exact ⟨st₄, rfl, .ite_false (.empty (.lookup hl)) rfl
      (hL.call_in_body filterDef _ appendDef (by simp [defs]) (by decide) .refl
        (.cons hkeep (.cons hrest .nil)) hap)⟩

theorem returns_reduce (ψ : Value → Value → Value) :
    ∀ (xs : List Value) (i : Value) (st : Store), Loaded st →
      (∀ st', Store.Steps (fun _ => True) st st' → ∀ acc, ∀ x ∈ xs,
        ∃ st'', Evaluates 0 (callOf (.closure s fr ps fb) [acc, x]) st' (ψ acc x) st'') →
      ∃ st', Returns reduceDef [.closure s fr ps fb, i, .list xs] st (xs.foldl ψ i) st' := by
  intro xs
  induction xs with
  | nil =>
    intro i st hL _
    exact ⟨_, rfl, .ite_true (.empty (.lookup (lookup_param rfl))) rfl
      (.head (hL.call_in_body reduceDef _ listDef (by simp [defs]) (by decide) .refl
        (.cons (.lookup (lookup_param rfl)) .nil) (returns_list i)))⟩
  | cons x xs ih =>
    intro i st hL hr
    set c := st.extend 0 (reduceDef.params.zip [.closure s fr ps fb, i, .list (x :: xs)])
    have hs₀ : Store.Steps (fun _ => True) st c.1 := steps_extend _
    have hred : c.1.lookup c.2 "reducer" = some (.closure s fr ps fb) := lookup_param rfl
    have hi : c.1.lookup c.2 "initial" = some i := lookup_param rfl
    have hl : c.1.lookup c.2 "l" = some (.list (x :: xs)) := lookup_param rfl
    obtain ⟨st₁, hx⟩ := hr c.1 hs₀ i x List.mem_cons_self
    have hstep : Evaluates c.2 (.list [.sym "reducer", .sym "initial", .list [.sym "head", .sym "l"]])
        c.1 (ψ i x) st₁ :=
      .call (by decide) hred (.cons (.lookup hi) (.cons (.head (.lookup hl)) .nil)) hx
    have hs₁ := hstep.steps
    obtain ⟨st₂, hrest⟩ := ih (ψ i x) st₁ ((hL.steps hs₀).steps hs₁) fun st' h acc y hy =>
      hr st' (hs₀.trans (hs₁.trans h)) acc y (List.mem_cons_of_mem x hy)
    exact ⟨st₂, rfl, .ite_false (.empty (.lookup hl)) rfl
      (hL.call_in_body reduceDef _ reduceDef (by simp [defs]) (by decide) .refl
        (.cons (.lookup hred) (.cons hstep (.cons (.tail (.lookup (steps_lookup_eq hs₁ hl))) .nil)))
        hrest)⟩

end Closures

/-! ## The list functions called by name -/

/-- The list functions of the prelude, called by name in a frame where their names mean what they
mean in frame `0`, from a store whose frame `0` holds the prelude (the store of a session started
with it is one), compute their reference definitions. `length` counts the items of a list and the
characters of a text; `sum` adds a list of integers, when each item and each sum of the items
after an item has a decimal text; `range` lists the integers from `a` to `b`, none when `a > b`,
when `a`, `b` and `b + 1` have decimal texts; `append` joins two lists and `reverse` reverses
one; and for closures whose calls on the items return, from every store a run can reach, the
values `φ x` and `ψ acc x`, `map` lists the values, `filter` keeps the items on which the value
is true, and `reduce` folds the list from the left. -/
theorem evaluates_list_functions (st : Store) (env : FrameId) (hL : Loaded st)
    (henv : ∀ d ∈ defs, st.lookup env d.name = st.lookup 0 d.name) :
    Loaded (Session.start true) ∧
    (∀ xs : List Value, Decimal.hasText xs.length = true →
      ∃ st', Evaluates env (.list [.sym "length", quoteOf (.list xs)]) st (.int xs.length) st') ∧
    (∀ t : String, Decimal.hasText t.length = true →
      ∃ st', Evaluates env (.list [.sym "length", .str (.text t)]) st (.int t.length) st') ∧
    (∀ xs : List Int, SumsHaveText xs →
      ∃ st', Evaluates env (.list [.sym "sum", quoteOf (.list (xs.map .int))]) st (.int xs.sum) st') ∧
    (∀ a b : Int, Decimal.hasText a = true → Decimal.hasText b = true →
      Decimal.hasText (b + 1) = true →
      ∃ st', Evaluates env (.list [.sym "range", .int a, .int b]) st
        (.list ((intRange a b).map .int)) st') ∧
    (∀ xs ys : List Value, ∃ st', Evaluates env
      (.list [.sym "append", quoteOf (.list xs), quoteOf (.list ys)]) st (.list (xs ++ ys)) st') ∧
    (∀ xs : List Value,
      ∃ st', Evaluates env (.list [.sym "reverse", quoteOf (.list xs)]) st (.list xs.reverse) st') ∧
    (∀ (s : Nat) (fr : FrameId) (ps fb : Value) (φ : Value → Value) (xs : List Value),
      (∀ st', Store.Steps (fun _ => True) st st' → ∀ x ∈ xs,
        ∃ st'', Evaluates 0 (callOf (.closure s fr ps fb) [x]) st' (φ x) st'') →
      (∃ st', Evaluates env (.list [.sym "map", quoteOf (.closure s fr ps fb), quoteOf (.list xs)])
        st (.list (xs.map φ)) st') ∧
      ∃ st', Evaluates env (.list [.sym "filter", quoteOf (.closure s fr ps fb), quoteOf (.list xs)])
        st (.list (xs.filter fun x => (φ x).truthy)) st') ∧
    (∀ (s : Nat) (fr : FrameId) (ps fb : Value) (ψ : Value → Value → Value) (i : Value)
      (xs : List Value),
      (∀ st', Store.Steps (fun _ => True) st st' → ∀ acc, ∀ x ∈ xs,
        ∃ st'', Evaluates 0 (callOf (.closure s fr ps fb) [acc, x]) st' (ψ acc x) st'') →
      ∃ st', Evaluates env
        (.list [.sym "reduce", quoteOf (.closure s fr ps fb), quoteOf i, quoteOf (.list xs)])
        st (xs.foldl ψ i) st') := by
  have hcall : ∀ d ∈ defs, ∀ {args vs : List Value} {v : Value} {st₁ st₂ : Store},
      EvaluatesAll env args st vs st₁ → Returns d vs st₁ v st₂ →
      Evaluates env (.list (.sym d.name :: args)) st v st₂ := by
    intro d hd args vs v st₁ st₂ hargs hr
    obtain ⟨n, hn⟩ := hL d hd
    exact hr.call hd ((henv d hd).trans hn) hargs
  refine ⟨loaded_start, fun xs ht => ?_, fun t ht => ?_, fun xs ht => ?_, fun a b ha hb hb' => ?_,
    fun xs ys => ?_, fun xs => ?_, fun s fr ps fb φ xs hf => ⟨?_, ?_⟩, fun s fr ps fb ψ i xs hr => ?_⟩
  · obtain ⟨st', h⟩ := returns_length xs st hL ht
    exact ⟨st', hcall lengthDef (by simp [defs]) (.quoted [.list xs]) h⟩
  · obtain ⟨st', h⟩ := returns_length_text t.toList st hL (by rwa [String.length_toList])
    rw [String.ofList_toList, String.length_toList] at h
    exact ⟨st', hcall lengthDef (by simp [defs]) (.cons (.str _) .nil) h⟩
  · obtain ⟨st', h⟩ := returns_sum xs st hL ht
    exact ⟨st', hcall sumDef (by simp [defs]) (.quoted [.list (xs.map .int)]) h⟩
  · obtain ⟨st', h⟩ := returns_range b hb hb' _ a st rfl ha hL
    exact ⟨st', hcall rangeDef (by simp [defs]) (.cons (.int a) (.cons (.int b) .nil)) h⟩
  · obtain ⟨st', h⟩ := returns_append ys xs st hL
    exact ⟨st', hcall appendDef (by simp [defs]) (.quoted [.list xs, .list ys]) h⟩
  · obtain ⟨st', h⟩ := returns_reverse xs st hL
    exact ⟨st', hcall reverseDef (by simp [defs]) (.quoted [.list xs]) h⟩
  · obtain ⟨st', h⟩ := returns_map φ xs st hL hf
    exact ⟨st', hcall mapDef (by simp [defs]) (.quoted [.closure s fr ps fb, .list xs]) h⟩
  · obtain ⟨st', h⟩ := returns_filter φ xs st hL hf
    exact ⟨st', hcall filterDef (by simp [defs]) (.quoted [.closure s fr ps fb, .list xs]) h⟩
  · obtain ⟨st', h⟩ := returns_reduce ψ xs i st hL hr
    exact ⟨st', hcall reduceDef (by simp [defs]) (.quoted [.closure s fr ps fb, i, .list xs]) h⟩

/-- `append`, and `map`, `filter` and `reduce` called with closures that return one of their
parameters, in a session started with the prelude. -/
theorem evaluates_list_functions_calls :
    (∃ st', Evaluates 0 (.list [.sym "append", quoteOf (.list [.int 1]), quoteOf (.list [.int 2])])
      (Session.start true) (.list [.int 1, .int 2]) st') ∧
    (∃ st', Evaluates 0 (.list [.sym "map", quoteOf (.closure 0 0 (.list [.sym "x"]) (.sym "x")),
      quoteOf (.list [.int 1, .int 2])]) (Session.start true) (.list [.int 1, .int 2]) st') ∧
    (∃ st', Evaluates 0 (.list [.sym "filter", quoteOf (.closure 0 0 (.list [.sym "x"]) (.sym "x")),
      quoteOf (.list [.bool true, .bool false])]) (Session.start true) (.list [.bool true]) st') ∧
    (∃ st', Evaluates 0 (.list [.sym "reduce",
      quoteOf (.closure 0 0 (.list [.sym "a", .sym "b"]) (.sym "b")), quoteOf (.int 0),
      quoteOf (.list [.int 1, .int 2])]) (Session.start true) (.int 2) st') := by
  have h := evaluates_list_functions (Session.start true) 0 loaded_start (fun _ _ => rfl)
  have hmap := fun xs : List Value => h.2.2.2.2.2.2.2.1 0 0 (.list [.sym "x"]) (.sym "x")
    (fun x => x) xs fun _ _ x _ => ⟨_, Evaluates.callOf_param ["x"] rfl rfl⟩
  exact ⟨h.2.2.2.2.2.1 [.int 1] [.int 2], (hmap [.int 1, .int 2]).1,
    (hmap [.bool true, .bool false]).2,
    h.2.2.2.2.2.2.2.2 0 0 (.list [.sym "a", .sym "b"]) (.sym "b") (fun _ x => x) (.int 0)
      [.int 1, .int 2] fun _ _ acc x _ => ⟨_, Evaluates.callOf_param ["a", "b"] rfl rfl⟩⟩

/-- `(range N N)` for the largest integer `N` of `maxDigits` digits is no list of `N`: the step
past `N` has no decimal text, and comparing it fails. -/
theorem evaluate_range_past_limit :
    Session.evaluate true
      (.list [.sym "range", .int (Decimal.limit - 1), .int (Decimal.limit - 1)]) =
      .error .textTooLong := by
  rw [Session.evaluate, Session.runFresh, start_prelude]
  decide +kernel

end Prelude

end TinyLisp
