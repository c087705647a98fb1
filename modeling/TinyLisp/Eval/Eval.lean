import TinyLisp.Eval.Store
import TinyLisp.Syntax.Printer

/-!
# Evaluation

A program is evaluated in a frame of a store, to a depth bounded by `fuel`; the store
survives failures.
-/

namespace TinyLisp

/-- Computations over a store that can fail, keeping the store as it was at the failure. -/
abbrev Eval := EStateM Fault Store

namespace Eval

def liftExcept {α : Type} : Except Fault α → Eval α
  | .ok a => pure a
  | .error e => throw e

def failWith {α : Type} (cause : String → Fault) (v : Value) : Eval α := do
  throw (cause (← liftExcept v.describe))

/-- Check that a form has `n` items, counting its name. -/
def arity (form : String) (n : Nat) (args : List Value) : Eval Unit :=
  if args.length + 1 = n then pure () else throw (.arity form)

def lookup (env : FrameId) (name : String) : Eval Value := do
  match (← get).lookup env name with
  | some v => pure v
  | none => throw (.unbound name)

/-- Bind a name in a frame, in place. A name is bound at most once in a frame. -/
def define (env : FrameId) (name : String) (v : Value) : Eval Unit := fun st =>
  if (st.lookup env name).isSome then .error (.redefined name) st
  else .ok () (st.bind env name v)

def extend (env : FrameId) (kvs : List (String × Value)) : Eval FrameId :=
  modifyGet fun st => let (st', f) := st.extend env kvs; (f, st')

def makeClosure (env : FrameId) (params : List Value) (body : Value) : Eval Value :=
  modifyGet fun st => let (st', n) := st.nextSerial; (.closure n env (.list params) body, st')

/-- The binding a key makes with a value: a name binds itself, a list or a text cannot be a
key, and any other value is a key no name can reach. -/
def keyBinding (key v : Value) : Eval (List (String × Value)) :=
  match key with
  | .sym s => pure [(s, v)]
  | .list _ | .str _ => throw (.unhashable key.typeName)
  | _ => pure []

/-- The length of a value that has one; a binding or a clause must have two items. -/
def pairOf (form : String) (v : Value) : Eval (Value × Value) :=
  match v.length? with
  | none => throw (.noLength v.typeName)
  | some n =>
    if n = 2 then pure ((v.item? 0).getD default, (v.item? 1).getD default)
    else throw (.arity form)

/-- The integer values of the two operands of arithmetic, or the first one that is not an
integer or a boolean, described. -/
def numbers (l r : Value) : Eval (Int × Int) :=
  match l.integer?, r.integer? with
  | some a, some b => pure (a, b)
  | none, _ => failWith .notANumber l
  | _, none => failWith .notANumber r

/-- Apply an arithmetic operator to two integers. Operands of more than `maxDigits` digits have
no text and cannot take part. -/
def arith (op : String) (a b : Int) : Eval Value := do
  if !(Decimal.hasText a && Decimal.hasText b) then throw .textTooLong
  match op with
  | "+" => pure (.int (a + b))
  | "-" => pure (.int (a - b))
  | "*" => pure (.int (a * b))
  | ">" => pure (.bool (decide (b < a)))
  | _ =>
    if b = 0 then throw .divisionByZero
    else match Binary64.quotient? a b with
      | some x => pure (.float x)
      | none => throw .quotientTooLarge

def arithOps : List String := ["+", "-", "/", "*", ">"]

/-- The first item of a list, or of the datum of a text: its first character when it is text. -/
def headOf (v : Value) : Eval Value :=
  match v with
  | .list [] => throw (.emptyList "head")
  | .list (x :: _) => pure x
  | .str d => do
    if (← liftExcept d.length) = 0 then throw (.emptyText "head")
    else pure (.str (← liftExcept d.first))
  | _ => throw (.notASequence "head")

def tailOf (v : Value) : Eval Value :=
  match v with
  | .list [] => throw (.emptyList "tail")
  | .list (_ :: xs) => pure (.list xs)
  | .str d => do
    if (← liftExcept d.length) = 0 then throw (.emptyText "tail")
    else pure (.str (← liftExcept d.rest))
  | _ => throw (.notASequence "tail")

def emptyOf (v : Value) : Eval Value :=
  match v with
  | .list xs => pure (.bool xs.isEmpty)
  | .str d => do pure (.bool ((← liftExcept d.length) = 0))
  | _ => throw (.notASequence "empty")

/-- An item put in front of a list, or the data of two texts joined. -/
def consOf (a b : Value) : Eval Value :=
  match a, b with
  | _, .list xs => pure (.list (a :: xs))
  | .str s, .str t => do pure (.str (← liftExcept (s.add t)))
  | _, _ => throw (.notASequence "cons")

def checkParams (params : List Value) : Eval Unit :=
  if params.all fun p => match p with | .sym _ => true | _ => false then pure ()
  else throw .paramsNotNames

abbrev Evaluator := FrameId → Value → Eval Value

/-- Evaluate the bindings of a `let` in order, each in a copy of the frame made by those before
it, and give the last frame. -/
def bindLet (ev : Evaluator) (env : FrameId) : List Value → Eval FrameId
  | [] => pure env
  | b :: bs => do
    let (key, valueAst) ← pairOf "let" b
    let v ← ev env valueAst
    let kvs ← keyBinding key v
    let next ← extend env kvs
    bindLet ev next bs

/-- Try the clauses of a `cond` in order: the first whose test is true gives the value, and
`#f` is the value when none is. -/
def evalCond (ev : Evaluator) (env : FrameId) : List Value → Eval Value
  | [] => pure (.bool false)
  | c :: cs => do
    let (test, result) ← pairOf "cond" c
    if (← ev env test).truthy then ev env result else evalCond ev env cs

def bindArgs (ev : Evaluator) (env : FrameId) :
    List (Value × Value) → Eval (List (String × Value))
  | [] => pure []
  | (p, a) :: rest => do
    let v ← ev env a
    let kv ← keyBinding p v
    let kvs ← bindArgs ev env rest
    pure (kv ++ kvs)

/-- Apply a closure over `frame` to the arguments `args`, evaluated in `env`: the body is
evaluated in a copy of `frame` that binds the parameters. Parameters that have no length cannot
take arguments. -/
def apply (ev : Evaluator) (env frame : FrameId) (params : Value) (body : Value)
    (args : List Value) : Eval Value := do
  match params.elements? with
  | none => throw (.noLength params.typeName)
  | some names =>
    if names.length ≠ args.length then
      throw (.argumentCount names.length args.length)
    else
      let kvs ← bindArgs ev env (names.zip args)
      let inner ← extend frame kvs
      ev inner body

/-- Evaluate a list whose first item is `head`: a special form or an application. -/
def evalList (ev : Evaluator) (env : FrameId) (head : Value) (args : List Value) : Eval Value :=
  let arg (i : Nat) : Value := args.getD i default
  match head with
  | .sym "quote" => do
    arity "quote" 2 args
    pure (arg 0)
  | .sym "atom" => do
    arity "atom" 2 args
    let v ← ev env (arg 0)
    pure (.bool v.isAtom)
  | .sym "eq" => do
    arity "eq" 3 args
    let l ← ev env (arg 0)
    let r ← ev env (arg 1)
    match l, r with
    | .list _, _ | _, .list _ => pure (.bool false)
    | _, _ => pure (.bool (l.equal r))
  | .sym "mod" => do
    arity "mod" 3 args
    let l ← ev env (arg 0)
    let r ← ev env (arg 1)
    let (a, b) ← numbers l r
    if b = 0 then throw .moduloByZero else pure (.int (a.fmod b))
  | .sym "if" => do
    arity "if" 4 args
    let t ← ev env (arg 0)
    if t.truthy then ev env (arg 1) else ev env (arg 2)
  | .sym "define" => do
    arity "define" 3 args
    match arg 0 with
    | .sym name =>
      let v ← ev env (arg 1)
      define env name v
      pure v
    | _ => throw .defineName
  | .sym "let" => do
    arity "let" 3 args
    match arg 0 with
    | .list bindings =>
      let inner ← bindLet ev env bindings
      ev inner (arg 1)
    | _ => throw (.notAList "let")
  | .sym "defn" => do
    arity "defn" 4 args
    match arg 0 with
    | .sym name =>
      let c ← ev env (.list (.sym "lambda" :: args.drop 1))
      define env name c
      pure (.sym name)
    | _ => throw .defnName
  | .sym "lambda" => do
    arity "lambda" 3 args
    match arg 0 with
    | .list params =>
      checkParams params
      makeClosure env params (arg 1)
    | _ => throw (.notAList "lambda")
  | .closure _ frame params body => apply ev env frame params body args
  | .sym "cons" => do
    arity "cons" 3 args
    let a ← ev env (arg 0)
    let b ← ev env (arg 1)
    consOf a b
  | .sym "head" => do
    arity "head" 2 args
    headOf (← ev env (arg 0))
  | .sym "tail" => do
    arity "tail" 2 args
    tailOf (← ev env (arg 0))
  | .sym "empty" => do
    arity "empty" 2 args
    emptyOf (← ev env (arg 0))
  | .sym "cond" => do
    arity "cond" 2 args
    match arg 0 with
    | .list clauses => evalCond ev env clauses
    | _ => throw (.notAList "cond")
  | .sym name =>
    if arithOps.contains name then do
      arity name 3 args
      let l ← ev env (arg 0)
      let r ← ev env (arg 1)
      let (a, b) ← numbers l r
      arith name a b
    else do
      match ← lookup env name with
      | .closure _ frame params body => apply ev env frame params body args
      | _ => throw (.notAFunction name)
  | .bool _ | .int _ | .str _ => throw .atomApplied
  | _ => do
    match ← ev env head with
    | .closure _ frame params body => apply ev env frame params body args
    | v => failWith .notAFunction v

/-- Evaluate a program in a frame, at most `fuel` levels deep. -/
def eval : Nat → FrameId → Value → Eval Value
  | 0, _, _ => throw .outOfFuel
  | fuel + 1, env, ast =>
    match ast with
    | .bool _ | .int _ | .str _ => pure ast
    | .sym s => lookup env s
    | .list [] => throw (.notEvaluable "[]")
    | .list (head :: args) => evalList (eval fuel) env head args
    | v => failWith .notEvaluable v

end Eval

end TinyLisp
