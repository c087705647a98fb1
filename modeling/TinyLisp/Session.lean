import TinyLisp.Eval.Eval
import TinyLisp.Eval.Prelude
import TinyLisp.Syntax.Reader

/-!
# Sessions

Programs and files evaluated one after another in frame `0` of one store.
-/

namespace TinyLisp

namespace Session

/-- The deepest evaluation a session allows. -/
def fuel : Nat := 1000000

def top : FrameId := 0

def evalTop (ast : Value) : Eval Value := Eval.eval fuel top ast

/-- A value as it is handed back from outside: each closure in it gets a frame of its own with
no bindings, and a serial number of its own. -/
def adopt : Value → Eval Value
  | .list items => do
    let items ← adoptAll items
    pure (.list items)
  | .closure _ _ params body => do
    let params ← adopt params
    let body ← adopt body
    let frame ← modifyGet fun st => let (st', f) := st.fresh; (f, st')
    let serial ← modifyGet fun st => let (st', n) := st.nextSerial; (n, st')
    pure (.closure serial frame params body)
  | v => pure v
where
  adoptAll : List Value → Eval (List Value)
    | [] => pure []
    | v :: vs => do
      let v ← adopt v
      let vs ← adoptAll vs
      pure (v :: vs)

/-- A text read from a file: every line break, `\r\n` or a lone `\r`, becomes `\n`. -/
def normalizeNewlines : List Char → List Char
  | [] => []
  | '\r' :: '\n' :: rest => '\n' :: normalizeNewlines rest
  | '\r' :: rest => '\n' :: normalizeNewlines rest
  | c :: rest => c :: normalizeNewlines rest

def evalFile (src : String) : Eval (List Value) := do
  let asts ← Eval.liftExcept (Reader.readAll (String.ofList (normalizeNewlines src.toList)))
  asts.mapM evalTop

def runFile (src : String) : Eval String := do
  let vs ← evalFile src
  match vs.getLast? with
  | some v => Eval.liftExcept v.toSource
  | none => throw (.indexRange "list")

def interpretIn (src : String) : Eval String := do
  let ast ← Eval.liftExcept (Reader.read src)
  let v ← evalTop ast
  Eval.liftExcept v.toSource

/-- A new session: an empty top frame, with the prelude evaluated in it when asked. -/
def start (withPrelude : Bool) : Store :=
  if withPrelude then
    match (evalFile preludeSource).run Store.initial with
    | .ok _ st => st
    | .error _ st => st
  else Store.initial

def runFresh {α : Type} (withPrelude : Bool) (m : Eval α) : Except Fault α :=
  match m.run (start withPrelude) with
  | .ok a _ => .ok a
  | .error e _ => .error e

def interpret (withPrelude : Bool) (src : String) : Except Fault String :=
  runFresh withPrelude (interpretIn src)

def interpretFile (withPrelude : Bool) (src : String) : Except Fault String :=
  runFresh withPrelude (runFile src)

/-- Evaluate a value handed in from outside in a new session. -/
def evaluate (withPrelude : Bool) (ast : Value) : Except Fault Value :=
  runFresh withPrelude (do evalTop (← adopt ast))

/-- One step of a session: a program, a whole file, or a step that cannot be run. -/
inductive Step where
  | program (src : String)
  | file (src : String)
  /-- A step that cannot be run at all, with the failure it gives. -/
  | unusable (cause : Fault)

/-- The answer to one step of a session. -/
inductive Answer where
  | value (v : Value) (text : String)
  /-- A program's value, whose source text could not be made. -/
  | unprintable (v : Value) (fault : Fault)
  | text (text : String)
  | failed (fault : Fault)

/-- Run one step in the session, keeping the session's store whatever the answer. -/
def step : Step → Eval Answer
  | .program src => fun st =>
    match (do evalTop (← Eval.liftExcept (Reader.read src))).run st with
    | .ok v st' => match v.toSource with
      | .ok t => .ok (.value v t) st'
      | .error e => .ok (.unprintable v e) st'
    | .error e st' => .ok (.failed e) st'
  | .file src => fun st =>
    match (runFile src).run st with
    | .ok t st' => .ok (.text t) st'
    | .error e st' => .ok (.failed e) st'
  | .unusable f => pure (.failed f)

/-- Run the steps of a session in order, in one store. -/
def runSteps (withPrelude : Bool) (steps : List Step) : List Answer :=
  match (steps.mapM step).run (start withPrelude) with
  | .ok answers _ => answers
  | .error _ _ => []

end Session

end TinyLisp
