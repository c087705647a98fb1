import TinyLisp.Session
import TinyLisp.Proofs.ReadByFuel
import TinyLisp.Proofs.ValueEquality
import TinyLisp.Proofs.BigStep

/-!
# The prelude, loaded
-/

namespace TinyLisp

/-- Outcomes are equal when they are the same constructor over equal contents; `decide` compares
with it what a computation of the model gives and what it is expected to give. -/
instance decidableEqExcept {ε α : Type} [DecidableEq ε] [DecidableEq α] :
    DecidableEq (Except ε α)
  | .error e, .error f => decidable_of_iff (e = f) (by rw [Except.error.injEq])
  | .ok a, .ok b => decidable_of_iff (a = b) (by rw [Except.ok.injEq])
  | .error _, .ok _ => isFalse nofun
  | .ok _, .error _ => isFalse nofun

namespace Store

theorem lookup_bind {st : Store} {f : FrameId} (hf : f < st.frames.size) (name x : String)
    (v : Value) : (st.bind f name v).lookup f x = if name = x then some v else st.lookup f x := by
  rw [lookup, bindings_bind_self hf, List.find?_cons]
  by_cases h : name = x
  · simp [h]
  · have hne : (name == x) = false := by simpa using h
    simp [h, hne, lookup]

end Store

namespace Prelude

/-- A function of the prelude: its name, the names of its parameters, and its body. -/
structure Def where
  name : String
  params : List String
  body : Value

/-- `(define name (lambda (params) body))`. -/
def Def.form (d : Def) : Value :=
  .list [.sym "define", .sym d.name, .list [.sym "lambda", .list (d.params.map .sym), d.body]]

/-- The closure of `d` made in frame `0`, with its serial number. -/
def Def.closure (d : Def) (serial : Nat) : Value :=
  .closure serial 0 (.list (d.params.map .sym)) d.body

def notDef : Def where
  name := "not"
  params := ["b"]
  body :=
    .list [.sym "if", .sym "b", .bool false, .bool true]

def orDef : Def where
  name := "or"
  params := ["a", "b"]
  body :=
    .list [.sym "if", .sym "a", .bool true, .list [.sym "if", .sym "b", .bool true, .bool false]]

def andDef : Def where
  name := "and"
  params := ["a", "b"]
  body :=
    .list [.sym "if", .sym "a", .list [.sym "if", .sym "b", .bool true, .bool false], .bool false]

def xorDef : Def where
  name := "xor"
  params := ["a", "b"]
  body :=
    .list [.sym "if", .sym "a", .list [.sym "if", .sym "b", .bool false, .bool true],
      .list [.sym "if", .sym "b", .bool true, .bool false]]

def atLeastDef : Def where
  name := ">="
  params := ["a", "b"]
  body :=
    .list [.sym "or", .list [.sym ">", .sym "a", .sym "b"], .list [.sym "eq", .sym "a", .sym "b"]]

def atMostDef : Def where
  name := "<="
  params := ["a", "b"]
  body :=
    .list [.sym "not", .list [.sym ">", .sym "a", .sym "b"]]

def belowDef : Def where
  name := "<"
  params := ["a", "b"]
  body :=
    .list [.sym "not", .list [.sym ">=", .sym "a", .sym "b"]]

def lengthDef : Def where
  name := "length"
  params := ["l"]
  body :=
    .list [.sym "if", .list [.sym "empty", .sym "l"], .int 0,
      .list [.sym "+", .int 1, .list [.sym "length", .list [.sym "tail", .sym "l"]]]]

def sumDef : Def where
  name := "sum"
  params := ["l"]
  body :=
    .list [.sym "if", .list [.sym "empty", .sym "l"], .int 0,
      .list [.sym "+", .list [.sym "head", .sym "l"],
        .list [.sym "sum", .list [.sym "tail", .sym "l"]]]]

def rangeDef : Def where
  name := "range"
  params := ["from", "to"]
  body :=
    .list [.sym "if", .list [.sym ">", .sym "from", .sym "to"], .list [.sym "quote", .list []],
      .list [.sym "cons", .sym "from",
        .list [.sym "range", .list [.sym "+", .sym "from", .int 1], .sym "to"]]]

def appendDef : Def where
  name := "append"
  params := ["a", "b"]
  body :=
    .list [.sym "if", .list [.sym "empty", .sym "a"], .sym "b",
      .list [.sym "cons", .list [.sym "head", .sym "a"],
        .list [.sym "append", .list [.sym "tail", .sym "a"], .sym "b"]]]

def listDef : Def where
  name := "list"
  params := ["element"]
  body :=
    .list [.sym "cons", .sym "element", .list [.sym "quote", .list []]]

def reverseDef : Def where
  name := "reverse"
  params := ["l"]
  body :=
    .list [.sym "if", .list [.sym "empty", .sym "l"], .list [.sym "quote", .list []],
      .list [.sym "append", .list [.sym "reverse", .list [.sym "tail", .sym "l"]],
        .list [.sym "list", .list [.sym "head", .sym "l"]]]]

def filterDef : Def where
  name := "filter"
  params := ["predicate", "l"]
  body :=
    .list [.sym "if", .list [.sym "empty", .sym "l"], .list [.sym "quote", .list []],
      .list [.sym "append",
        .list [.sym "if", .list [.sym "predicate", .list [.sym "head", .sym "l"]],
          .list [.sym "list", .list [.sym "head", .sym "l"]], .list [.sym "quote", .list []]],
        .list [.sym "filter", .sym "predicate", .list [.sym "tail", .sym "l"]]]]

def mapDef : Def where
  name := "map"
  params := ["mapper", "l"]
  body :=
    .list [.sym "if", .list [.sym "empty", .sym "l"], .list [.sym "quote", .list []],
      .list [.sym "append",
        .list [.sym "list", .list [.sym "mapper", .list [.sym "head", .sym "l"]]],
        .list [.sym "map", .sym "mapper", .list [.sym "tail", .sym "l"]]]]

def reduceDef : Def where
  name := "reduce"
  params := ["reducer", "initial", "l"]
  body :=
    .list [.sym "if", .list [.sym "empty", .sym "l"],
      .list [.sym "head", .list [.sym "list", .sym "initial"]],
      .list [.sym "reduce", .sym "reducer",
        .list [.sym "reducer", .sym "initial", .list [.sym "head", .sym "l"]],
        .list [.sym "tail", .sym "l"]]]

def insertDef : Def where
  name := "_insert"
  params := ["element", "l"]
  body :=
    .list [.sym "if", .list [.sym "empty", .sym "l"], .list [.sym "list", .sym "element"],
      .list [.sym "if", .list [.sym "<=", .sym "element", .list [.sym "head", .sym "l"]],
        .list [.sym "cons", .sym "element", .sym "l"],
        .list [.sym "append", .list [.sym "list", .list [.sym "head", .sym "l"]],
          .list [.sym "_insert", .sym "element", .list [.sym "tail", .sym "l"]]]]]

def mergeDef : Def where
  name := "_merge"
  params := ["a", "b"]
  body :=
    .list [.sym "if", .list [.sym "empty", .sym "a"],
      .list [.sym "head", .list [.sym "list", .sym "b"]],
      .list [.sym "_merge", .list [.sym "tail", .sym "a"],
        .list [.sym "_insert", .list [.sym "head", .sym "a"], .sym "b"]]]

def sortDef : Def where
  name := "sort"
  params := ["l"]
  body :=
    .list [.sym "if", .list [.sym "empty", .sym "l"], .list [.sym "quote", .list []],
      .list [.sym "_merge", .sym "l", .list [.sym "quote", .list []]]]

def defs : List Def :=
  [notDef, orDef, andDef, xorDef, atLeastDef, atMostDef, belowDef, lengthDef, sumDef, rangeDef,
    appendDef, listDef, reverseDef, filterDef, mapDef, reduceDef, insertDef, mergeDef, sortDef]

set_option maxRecDepth 20000 in
/-- The prelude's text reads as its definitions. The reader is run on it through its structural
twin `Reader.readAllByFuel`, which the kernel evaluates. -/
theorem read_prelude :
    Reader.readAll (String.ofList (Session.normalizeNewlines preludeSource.toList)) =
      .ok (defs.map Def.form) := by
  have hL : preludeSource = String.ofList ?L := by unfold preludeSource; exact rfl
  rw [Reader.readAll_eq_byFuel, hL, String.toList_ofList, String.toList_ofList]
  decide +kernel

/-! ## Loading -/

open Eval

/-- The store once `d` is defined in frame `0`: its closure takes the next serial number, and its
name is bound to the closure. -/
def Def.load (d : Def) (st : Store) : Store :=
  ({ st with closures := st.closures + 1 } : Store).bind 0 d.name (d.closure st.closures)

/-- The store of a session started with the prelude: the definitions loaded in order into the
empty store. -/
def store : Store := defs.foldl (fun st d => d.load st) Store.initial

section Loading

variable {st : Store}

theorem checkParams_names (names : List String) : checkParams (names.map .sym) = pure () := by
  unfold checkParams
  rw [if_pos (by simp)]

theorem eval_lambdaForm (fuel : Nat) (env : FrameId) (names : List String) (body : Value) :
    eval (fuel + 1) env (.list [.sym "lambda", .list (names.map .sym), body]) st =
      .ok (.closure st.closures env (.list (names.map .sym)) body)
        { st with closures := st.closures + 1 } := by
  show evalList (eval fuel) env (.sym "lambda") [.list (names.map .sym), body] st = _
  rw [evalList]
  show (checkParams (names.map .sym) >>= fun _ => makeClosure env (names.map .sym) body) st = _
  rw [checkParams_names, pure_bind]
  rfl

theorem define_fresh {env : FrameId} {name : String} {v : Value} (h : st.lookup env name = none) :
    define env name v st = .ok () (st.bind env name v) := by
  rw [define, h]
  rfl

theorem eval_defForm (fuel : Nat) (d : Def) (h : st.lookup 0 d.name = none) :
    eval (fuel + 2) 0 d.form st = .ok (d.closure st.closures) (d.load st) := by
  show evalList (eval (fuel + 1)) 0 (.sym "define")
    [.sym d.name, .list [.sym "lambda", .list (d.params.map .sym), d.body]] st = _
  rw [evalList]
  show (eval (fuel + 1) 0 (.list [.sym "lambda", .list (d.params.map .sym), d.body]) >>= fun v =>
    define 0 d.name v >>= fun _ => pure v) st = _
  have h' : ({ st with closures := st.closures + 1 } : Store).lookup 0 d.name = none := h
  rw [bind_of_ok (eval_lambdaForm fuel 0 d.params d.body), bind_of_ok (define_fresh h')]
  rfl

theorem size_load (d : Def) : (d.load st).frames.size = st.frames.size :=
  Store.size_bind

theorem lookup_load (d : Def) (h0 : 0 < st.frames.size) (x : String) :
    (d.load st).lookup 0 x = if d.name = x then some (d.closure st.closures) else st.lookup 0 x :=
  Store.lookup_bind h0 _ x _

theorem mapM_defForms (fuel : Nat) : ∀ (ds : List Def) (st : Store), (ds.map Def.name).Nodup →
    (∀ d ∈ ds, st.lookup 0 d.name = none) → 0 < st.frames.size →
    ∃ vs, (ds.map Def.form).mapM (eval (fuel + 2) 0) st = .ok vs (ds.foldl (fun st d => d.load st) st)
  | [], _, _, _, _ => ⟨[], rfl⟩
  | d :: ds, st, hnd, hfresh, h0 => by
    rw [List.map_cons, List.nodup_cons] at hnd
    -- the later names differ from this one, so they are still not bound
    have hrest : ∀ e ∈ ds, (d.load st).lookup 0 e.name = none := by
      intro e he
      have hne : d.name ≠ e.name := fun h => hnd.1 (h ▸ List.mem_map_of_mem he)
      rw [lookup_load d h0, if_neg hne]
      exact hfresh e (List.mem_cons_of_mem d he)
    obtain ⟨vs, hvs⟩ := mapM_defForms fuel ds (d.load st) hnd.2 hrest (by rw [size_load]; exact h0)
    refine ⟨d.closure st.closures :: vs, ?_⟩
    rw [List.map_cons, List.mapM_cons,
      bind_of_ok (eval_defForm fuel d (hfresh d List.mem_cons_self)), bind_of_ok hvs]
    rfl

theorem lookup_foldl_load_of_not_mem (x : String) : ∀ (ds : List Def) (st : Store),
    x ∉ ds.map Def.name → 0 < st.frames.size →
    (ds.foldl (fun st d => d.load st) st).lookup 0 x = st.lookup 0 x
  | [], _, _, _ => rfl
  | d :: ds, st, hx, h0 => by
    rw [List.map_cons, List.mem_cons, not_or] at hx
    rw [List.foldl_cons, lookup_foldl_load_of_not_mem x ds (d.load st) hx.2
      (by rw [size_load]; exact h0), lookup_load d h0, if_neg (Ne.symm hx.1)]

theorem lookup_foldl_load : ∀ (ds : List Def) (st : Store), (ds.map Def.name).Nodup →
    0 < st.frames.size → ∀ d ∈ ds, ∃ n, (ds.foldl (fun st d => d.load st) st).lookup 0 d.name =
      some (d.closure n)
  | [], _, _, _, _, hd => absurd hd List.not_mem_nil
  | e :: ds, st, hnd, h0, d, hd => by
    rw [List.map_cons, List.nodup_cons] at hnd
    have h0' : 0 < (e.load st).frames.size := by rw [size_load]; exact h0
    rw [List.foldl_cons]
    rcases List.mem_cons.1 hd with rfl | hd
    · -- the name is bound here, and the later definitions are of other names
      refine ⟨st.closures, ?_⟩
      rw [lookup_foldl_load_of_not_mem _ ds _ hnd.1 h0', lookup_load _ h0, if_pos rfl]
    · exact lookup_foldl_load ds (e.load st) hnd.2 h0' d hd

end Loading

/-- Frame `0` binds every function of the prelude to its closure. -/
def Loaded (st : Store) : Prop := ∀ d ∈ defs, ∃ n, st.lookup 0 d.name = some (d.closure n)

theorem loaded_store : Loaded store :=
  lookup_foldl_load defs Store.initial (by decide) (by decide)

theorem evalFile_prelude : ∃ vs, Session.evalFile preludeSource Store.initial = .ok vs store := by
  obtain ⟨vs, hvs⟩ :=
    mapM_defForms 999998 defs Store.initial (by decide) (fun _ _ => rfl) (by decide)
  have htop : Session.evalTop = eval (999998 + 2) 0 := rfl
  have hlift : liftExcept (.ok (defs.map Def.form)) = pure (defs.map Def.form) := rfl
  refine ⟨vs, ?_⟩
  rw [Session.evalFile, read_prelude, hlift, pure_bind, htop]
  exact hvs

/-- A session started with the prelude has the store `store`. -/
theorem start_prelude : Session.start true = store := by
  obtain ⟨vs, hvs⟩ := evalFile_prelude
  unfold Session.start
  rw [if_pos rfl, EStateM.run, hvs]

theorem loaded_start : Loaded (Session.start true) := by
  rw [start_prelude]
  exact loaded_store

theorem defs_not_special : ∀ d ∈ defs, d.name ∉ specialForms := by decide

/-! ## Calls of the prelude's functions -/

section Calls

variable {st st' st₁ st₂ : Store} {env : FrameId} {d : Def} {vs : List Value} {v : Value}

def Defined (d : Def) (st : Store) : Prop := ∃ n, st.lookup 0 d.name = some (d.closure n)

theorem Defined.steps (h : Defined d st) (hs : Store.Steps (fun _ => True) st st') :
    Defined d st' :=
  h.imp fun _ hn => steps_lookup_eq hs hn

theorem Loaded.steps (h : Loaded st) (hs : Store.Steps (fun _ => True) st st') : Loaded st' :=
  fun d hd => Defined.steps (h d hd) hs

/-- The function `d`, called on the values `vs` from the store `st`, returns `v` and leaves `st'`:
it takes as many values as it has parameters, and its body, run in a new frame that copies frame
`0` and binds the parameters to the values, returns `v` and leaves `st'`. -/
def Returns (d : Def) (vs : List Value) (st : Store) (v : Value) (st' : Store) : Prop :=
  d.params.length = vs.length ∧
    Evaluates (st.extend 0 (d.params.zip vs)).2 d.body (st.extend 0 (d.params.zip vs)).1 v st'

theorem Returns.call {n : Nat} {args : List Value} (hd : d ∈ defs)
    (hl : st.lookup env d.name = some (d.closure n)) (hargs : EvaluatesAll env args st vs st₁)
    (hr : Returns d vs st₁ v st₂) : Evaluates env (.list (.sym d.name :: args)) st v st₂ :=
  .call (defs_not_special d hd) hl hargs (Evaluates.callOf_names hr.1 hr.2 : Evaluates env _ _ _ _)

theorem Returns.evaluates (hL : Loaded st) (hd : d ∈ defs)
    (henv : st.lookup env d.name = st.lookup 0 d.name) (hr : Returns d vs st v st') :
    Evaluates env (.list (.sym d.name :: vs.map quoteOf)) st v st' := by
  obtain ⟨n, hn⟩ := hL d hd
  exact hr.call hd (henv.trans hn) (.quoted vs)

theorem steps_extend (kvs : List (String × Value)) :
    Store.Steps (fun _ => True) st (st.extend 0 kvs).1 := by
  rw [Store.extend_eq]
  exact .single (.push _)

theorem lookup_param {kvs : List (String × Value)} {x : String} (h : kvs.reverse.lookup x = some v) :
    (st.extend 0 kvs).1.lookup (st.extend 0 kvs).2 x = some v := by
  rw [Store.lookup_extend, h, Option.some_or]

theorem Defined.lookup_call {e : Def} (h : Defined e st) (d : Def) (vs : List Value)
    (hp : e.name ∉ d.params) :
    ∃ n, (st.extend 0 (d.params.zip vs)).1.lookup (st.extend 0 (d.params.zip vs)).2 e.name =
      some (e.closure n) := by
  obtain ⟨n, hn⟩ := h
  refine ⟨n, ?_⟩
  have hnone : (d.params.zip vs).reverse.lookup e.name = none := by
    rw [List.lookup_eq_none_iff]
    intro p hp'
    have hk : p.1 ∈ d.params := List.of_mem_zip (List.mem_reverse.1 hp') |>.1
    simp only [bne_iff_ne, ne_eq]
    exact fun h => hp (h ▸ hk)
  rw [Store.lookup_extend, hnone, Option.none_or, hn]

theorem Loaded.lookup_call (hL : Loaded st) (d : Def) (vs : List Value) (e : Def) (he : e ∈ defs)
    (hp : e.name ∉ d.params) :
    ∃ n, (st.extend 0 (d.params.zip vs)).1.lookup (st.extend 0 (d.params.zip vs)).2 e.name =
      some (e.closure n) :=
  Defined.lookup_call (hL e he) d vs hp

/-- Inside the body of `d`, from any store a run reaches from the frame of the call, a function
`e` of the prelude whose name is no parameter of `d` is called by its name. -/
theorem Loaded.call_in_body {st₃ : Store} {args ws : List Value} (hL : Loaded st) (d : Def)
    (vs : List Value) (e : Def) (he : e ∈ defs) (hp : e.name ∉ d.params)
    (hs : Store.Steps (fun _ => True) (st.extend 0 (d.params.zip vs)).1 st₁)
    (hargs : EvaluatesAll (st.extend 0 (d.params.zip vs)).2 args st₁ ws st₂)
    (hr : Returns e ws st₂ v st₃) :
    Evaluates (st.extend 0 (d.params.zip vs)).2 (.list (.sym e.name :: args)) st₁ v st₃ := by
  obtain ⟨n, hn⟩ := hL.lookup_call d vs e he hp
  exact hr.call he (steps_lookup_eq hs hn) hargs

end Calls

end Prelude

end TinyLisp
