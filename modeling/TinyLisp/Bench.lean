import TinyLisp.Session
import TinyLisp.Repl

/-!
# Workloads

Named workloads that drive the interpreter through its entry points.
-/

namespace TinyLisp

namespace Bench

/-- The result of a workload. -/
inductive Output where
  | int (n : Int)
  | text (s : String)
  | value (v : Value)
  | list (items : List Output)

/-- The programs every reading and printing workload goes through, one per form of the
language. -/
def snippets : List String := [
  "42", "#t", "#f", "'foo", "'(1 2 3 4 5)", "(+ 1 2)", "'(a b c)", "(if #t 1 2)", "(if #f 1 2)",
  "(atom 'sym)", "(eq 1 1)", "(eq '(1) '(1))", "(mod 17 5)", "(- (* 3 4) (mod 10 3))", "(/ 10 2)",
  "(> 9 3)", "(lambda (x y) (+ x y))", "((lambda (x) (* x x)) 7)",
  "(let ((a 1) (b (+ a 1))) (+ a b))", "(cons 1 '(2 3 4))", "(cons \"foo\" \"bar\")",
  "(head '(9 8 7))", "(head \"hello\")", "(tail '(9 8 7))", "(tail \"hello\")", "(empty '())",
  "(empty '(1))", "(empty \"\")", "(empty \"x\")",
  "(cond (((eq 1 2) 'a) ((eq 1 1) 'b) (#t 'c)))", "(cond (((eq 1 2) 'a) ((eq 3 4) 'b)))",
  "\"a \\\"quoted\\\" string\"", "()"]

def deepSnippet : String :=
  String.ofList (List.replicate 24 '(') ++ "(+ 1 1)" ++ String.ofList (List.replicate 24 ')')

def corpus : List String := snippets ++ [deepSnippet, "; a comment line\n(foo bar)"]

def cycle {α : Type} [Inhabited α] (xs : List α) (i : Nat) : α := xs.getD (i % xs.length) default

/-- The first `n` items of the endless repetition of a list; none when `n` is not positive. -/
def cycled {α : Type} [Inhabited α] (xs : List α) (n : Int) : List α :=
  (List.range n.toNat).map (cycle xs)

def parseWorkload (n : Int) : Except Fault Output := do
  let one ← (cycled corpus n).mapM Reader.read
  let all ← Reader.readAll ("\n;; --\n".intercalate corpus)
  return .list ((one.map .value) ++ [.list (all.map .value)])

def treeItems : List Value :=
  [.bool true, .bool false, .int 7, .sym "sym", .str (.text "hi"),
    .closure 0 0 (.list [.sym "x", .sym "y"]) (.sym "x"),
    .list [.sym "quote", .list [.int 1, .int 2, .int 3]]]

def unparseWorkload (n : Int) : Except Fault Output := do
  let items := cycled treeItems n
  let tree := Value.list [.sym "begin", .list [.sym "quote", .list items], .list items,
    .list [.sym "quote", .list [.sym "a", .list [.sym "b", .list [.sym "c"]]]]]
  let big ← tree.toSource
  let each ← snippets.mapM fun s => do (← Reader.read s).toSource
  return .list ((big :: each).map .text)

def forms : List String :=
  snippets.dropLast ++
    ["(let ((x 9)) (* x x))", "(cons 0 (cons 1 (cons 2 '())))", "(eq (mod 10 4) 2)",
      "(if (> 3 2) 5 6)"]

def evaluateWorkload (n : Int) : Except Fault Output := do
  let texts ← Session.runFresh false ((cycled forms n).mapM Session.interpretIn)
  return .list (texts.map .text)

def listPrograms (n : Int) : List String :=
  let xs := "(range 1 " ++ toString n ++ ")"
  ["(sum " ++ xs ++ ")", "(length " ++ xs ++ ")", "(sort (reverse " ++ xs ++ "))",
    "(map (lambda (x) (* x x)) " ++ xs ++ ")",
    "(filter (lambda (x) (eq (mod x 2) 0)) " ++ xs ++ ")",
    "(reduce (lambda (a b) (+ a b)) 0 " ++ xs ++ ")"]

def stdlibWorkload (n : Int) : Except Fault Output := do
  let vs ← Session.runFresh true ((listPrograms n).mapM fun src => do
    Session.evalTop (← Eval.liftExcept (Reader.read src)))
  return .list (vs.map .value)

def statements : List String := [
  "(+ 1 2)", "(if (> 2 1) 'yes 'no)", "(head '(a b c))", "(tail \"hello\")",
  "(cons \"a\" \"b\")", "(cons 1 '(2 3))", "(eq 'x 'x)", "(atom 42)",
  "((lambda (n) (* n n)) 3)", "(let ((x 6)) (* x x))"]

def roundtripWorkload (n : Int) : Except Fault Output := do
  let texts ← (cycled statements n).mapM (Session.interpret false)
  return .list (texts.map .text)

def chainFile (n : Int) : String :=
  let defs := (List.range n.toNat).map fun i =>
    if i = 0 then "(define f0 10)"
    else "(define f" ++ toString i ++ " (+ f" ++ toString (i - 1) ++ " 1))"
  "\n".intercalate (defs ++ ["f" ++ toString (n - 1)])

def fileWorkload (n : Int) : Except Fault Output := do
  let a ← Session.interpretFile false (chainFile n)
  let b ← Session.interpretFile false (chainFile n)
  return .list [.text a, .text b]

def failingPrograms : List String := [
  "(head '())", "(tail '())", "(head \"\")", "(head 1)", "(cons 1 2)", "(quote)", "(eq 1)",
  "(+ 1)", "(if #t 1)", "(lambda x 1)", "(lambda (1) 1)", "(let x 1)", "(cond x)",
  "(define 1 2)", "(defn 1 (x) x)", "(1 2)", "('x 1)", "((lambda (x) x))", "(+ 'a 1)",
  "(* 2 '(1))", "#x", "\"abc", "(a) b", "(a", "(mod #t 'b)", "(/ '(x) 1)", "missing"]

/-- Interpret the failing programs, in rounds of all of them, at least one round and as many
whole rounds as `n` allows, and count the language errors and the length of their messages. -/
def errorWorkload (n : Int) : Except Fault Output :=
  let rounds := max 1 (n.toNat / failingPrograms.length)
  let programs := (List.replicate rounds failingPrograms).flatten
  let step (acc : Nat × Nat) (src : String) : Nat × Nat :=
    match Session.interpret false src with
    | .error f => if f.isLanguage then (acc.1 + 1, acc.2 + f.message.length) else acc
    | .ok _ => acc
  let (count, total) := programs.foldl step (0, 0)
  .ok (.list [.int count, .int total])

def atomCount : Value → Nat
  | .list items => atomCounts items
  | _ => 1
where
  atomCounts : List Value → Nat
    | [] => 0
    | v :: vs => atomCount v + atomCounts vs

def sampleValues : List Value :=
  [.bool true, .int 7, .sym "sym", .str (.text "s"), .closure 0 0 (.list [.sym "x"]) (.sym "x"),
    .float (Binary64.finite false (Nat.pow 2 52) (-53)), .list [.int 1, .int 2]]

def sampleProgram : String :=
  "(define sq (lambda (x) (* x x))) (define sum-sq (lambda (a b) (+ (sq a) (sq b)))) (sum-sq 3 4)"

def typesWorkload (n : Int) : Except Fault Output := do
  let program ← Reader.readAll sampleProgram
  let generated := atomCount.atomCounts (cycled sampleValues n)
  return .int (generated + atomCount.atomCounts program)

def replScript : List String := [
  "(define double (lambda (x) (* x 2)))", "(double 1 2)", "(+ 1", "   2)", "; a comment line",
  "(head '())", "(let (5) 1)", "(/ 1 0)", "undefined-thing"]

def replLine (i : Nat) : String :=
  let s := toString i
  match i % 3 with
  | 0 => "(define v" ++ s ++ " '(x y z " ++ s ++ "))"
  | 1 => "(cons " ++ s ++ " '(" ++ s ++ "))"
  | _ => "'(" ++ s ++ " " ++ s ++ ")"

def replLines (n : Int) : List String :=
  replScript ++ (List.range (n.toNat - replScript.length)).map replLine

/-- Run the loop on `n` lines, at least the first ones, with colours off and no prompts shown,
and give the length of what it prints, a text coloured with colours off and one coloured with
them on. -/
def replWorkload (n : Int) : Except Fault Output :=
  let out := Repl.transcriptWith false false (fun _ => "") ((replLines n).map .line)
  .ok (.list [.int out.length, .text (Repl.colored false "xy" .red none),
    .text (Repl.colored true "z" .blue (some .bold))])

/-- How a workload takes its argument to the count it works with. For an argument it accepts,
each gives the integer that, as the argument, gives the same work. -/
inductive Take where
  /-- As a number of steps: an integer, a boolean counting as `0` or `1`. -/
  | steps
  /-- As the size a collection grows to, an item at a time from `start` items, while it is
  smaller than the argument: any number. An infinite argument, which no size reaches, leaves it
  at `start`, as NaN does. -/
  | growth (start : Nat)
  /-- As the number of items beyond the first `start`: the argument less `start`, or none when
  that is not positive. A binary64 argument above `start` leaves a binary64 number of items,
  which cannot be a number of steps. -/
  | beyond (start : Nat)
  /-- As a decimal integer in the text of a program: a binary64 number cut toward zero, and
  nothing that is not a number. -/
  | formatted
  /-- As whole rounds of `size` items, at least one: the argument is divided by `size`, rounding
  down, and a quotient that is a binary64 number above one cannot be a number of rounds. -/
  | rounds (size : Nat)
  /-- As the length of a prefix of copies of a cycle, one more copy than the whole cycles in the
  length: a binary64 length makes a binary64 number of copies, which cannot be one. -/
  | copies

def Take.count : Take → Datum → Except Fault Int
  | .steps, .int n => .ok n
  | .steps, .bool b => .ok (if b then 1 else 0)
  | .steps, d => .error (.notAnInteger d.typeName)
  | .growth start, .float x => .ok (x.ceil?.getD start)
  | .growth _, d => match d.integer? with
    | some n => .ok n
    | none => .error (.unorderable "<" "int" d.typeName)
  | .beyond start, .float x => match x, x.ceil? with
    | .inf false, _ => .error (.notAnInteger "float")
    | _, some m => if (start : Int) < m then .error (.notAnInteger "float") else .ok 0
    | _, none => .ok 0
  | .beyond _, d => match d.integer? with
    | some n => .ok n
    | none => .error (.unsupportedOperand "-" d.typeName "int")
  | .formatted, .float x => match x, x.truncate? with
    | _, some n => .ok n
    | .nan, none => .error .nanInteger
    | _, none => .error .infiniteInteger
  | .formatted, d => match d.integer? with
    | some n => .ok n
    | none => .error (.formatNumber d.typeName)
  | .rounds size, .float x => match x.floor? with
    | some m => if 2 * (size : Int) ≤ m then .error (.notAnInteger "float") else .ok 0
    | none => .ok 0
  | .rounds _, d => match d.integer? with
    | some n => .ok n
    | none => .error (.unsupportedOperand "//" d.typeName "int")
  | .copies, .float _ => .error (.repeatCount "float")
  | .copies, d => match d.integer? with
    | some n => .ok n
    | none => .error (.unsupportedOperand "//" d.typeName "int")

/-- A workload: its name, its parameter's name and default, how it takes its argument, and what
it computes from the count. -/
structure Workload where
  name : String
  param : String
  default : Int
  take : Take
  body : Int → Except Fault Output

def all : List Workload := [
  ⟨"bench_parse", "n_exprs", 400, .copies, parseWorkload⟩,
  ⟨"bench_unparse", "n_nodes", 400, .growth 0, unparseWorkload⟩,
  ⟨"bench_evaluate_forms", "n_forms", 300, .copies, evaluateWorkload⟩,
  ⟨"bench_stdlib_programs", "list_len", 25, .formatted, stdlibWorkload⟩,
  ⟨"bench_interpret_roundtrip", "n_stmts", 150, .copies, roundtripWorkload⟩,
  ⟨"bench_interpret_file", "n_defs", 60, .steps, fileWorkload⟩,
  ⟨"bench_error_paths", "n_cases", 200, .rounds failingPrograms.length, errorWorkload⟩,
  ⟨"bench_types_and_ast", "n_items", 800, .copies, typesWorkload⟩,
  ⟨"bench_repl", "n_lines", 80, .beyond replScript.length, replWorkload⟩]

def find? (name : String) : Option Workload := all.find? (·.name == name)

/-- Run a workload with named arguments; its parameter is the only name it takes. -/
def Workload.run (w : Workload) (args : List (String × Datum)) : Except Fault Output :=
  match args.find? (·.1 != w.param) with
  | some (k, _) =>
    .error (.badArgument (w.name ++ "() got an unexpected keyword argument '" ++ k ++ "'"))
  | none => do w.body (← w.take.count ((args.lookup w.param).getD (.int w.default)))

end Bench

end TinyLisp
