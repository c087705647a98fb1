import TinyLisp.Repl
import TinyLisp.Session

/-!
# The command line
-/

namespace TinyLisp

namespace Main

def chomp (line : String) : String :=
  String.ofList (line.toList.reverse.dropWhile (fun c => c == '\n' || c == '\r')).reverse

/-- The interactive loop over standard input, with the session's store and the expression read
so far. -/
partial def interact (on : Bool) (stdin stdout : IO.FS.Stream) (st : Store) (exp : List Char)
    (depth : Int) : IO Unit := do
  stdout.putStr (Repl.prompt on (Repl.pending exp))
  stdout.flush
  let line ← stdin.getLine
  if line.isEmpty then
    stdout.putStr (Repl.byeText on)
    return
  let cs := Repl.prepareLine (chomp line)
  let exp := exp ++ cs
  let depth := depth + Repl.balance cs
  if Repl.complete exp depth then
    match (Session.interpretIn (String.ofList (Text.strip exp))).run st with
    | .ok t st' =>
      stdout.putStrLn t
      interact on stdin stdout st' [] 0
    | .error e st' =>
      stdout.putStr (Repl.faultText on e)
      interact on stdin stdout st' [] 0
  else interact on stdin stdout st exp depth

end Main

end TinyLisp

open TinyLisp in
/-- Run a file, or the interactive loop when no file is named. -/
def main (args : List String) : IO UInt32 := do
  match args with
  | path :: _ =>
    let src ← IO.FS.readFile path
    match (Session.runFile src).run (Session.start true) with
    | .ok t _ =>
      IO.println t
      return 0
    | .error e _ =>
      IO.eprintln (e.kind ++ ": " ++ e.message)
      return 1
  | [] =>
    let on := ((← IO.getEnv "ANSI_COLORS_DISABLED").getD "").isEmpty
    IO.print (Repl.banner on)
    Main.interact on (← IO.getStdin) (← IO.getStdout) (Session.start true) [] 0
    return 0
