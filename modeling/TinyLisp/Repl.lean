import TinyLisp.Session

/-!
# The interactive loop
-/

namespace TinyLisp

namespace Repl

inductive Color where
  | reset | red | blue

def Color.code : Color → Nat
  | .reset => 0
  | .red => 31
  | .blue => 34

inductive Attr where
  | bold | dark

def Attr.code : Attr → Nat
  | .bold => 1
  | .dark => 2

def escape (n : Nat) : String := String.singleton (Char.ofNat 27) ++ "[" ++ toString n ++ "m"

/-- A text in a colour and an attribute, back to plain after it; unchanged when colours are off. -/
def colored (on : Bool) (text : String) (c : Color) (a : Option Attr) : String :=
  if on then
    escape c.code ++ (match a with | some a => escape a.code | none => "") ++ text ++
      escape Color.reset.code
  else text

def faded (on : Bool) (text : String) : String := colored on text .reset (some .dark)

def banner (on : Bool) : String :=
  let art : List (String × String) := [
    ("                 ", "                             \\`.    T       "),
    ("    Welcome to   ", "   .--------------.___________) \\   |    T  "),
    ("   the DIY Lang  ", "   |//////////////|___________[ ]   !  T |  "),
    ("       REPL      ", "   `--------------'           ) (      | !  "),
    ("                 ", "                              '-'      !    ")]
  "\n" ++ String.join (art.map fun (l, r) => l ++ faded on r ++ "\n") ++
    faded on "  use ^D to exit" ++ "\n" ++ "\n"

def prompt (on : Bool) (more : Bool) : String :=
  colored on (if more then "…  " else ">  ") .reset (some .dark)

def pending (exp : List Char) : Bool := !(Text.strip exp).isEmpty

def faultText (on : Bool) (f : Fault) : String :=
  if f.isLanguage then
    colored on "!" .red none ++ "\n" ++ faded on (f.kind ++ ":") ++ "\n" ++ f.message ++ "\n"
  else
    colored on "! " .red none ++ faded on "The Python is showing through…" ++ "\n" ++
      faded on ("  " ++ f.kind ++ ":") ++ "\n" ++ f.message ++ "\n"

def interruptText (on : Bool) : String :=
  "\n" ++ colored on "! " .red none ++ "Interrupted. " ++ faded on "(Use ^D to exit)" ++ "\n"

def byeText (on : Bool) : String := faded on "\nBye! o/" ++ "\n"

/-- A line as it is added to an expression: with a line break, and the comment cut. -/
def prepareLine (line : String) : List Char := Text.removeComments (line.toList ++ ['\n'])

def balance (cs : List Char) : Int := (Text.countChar '(' cs : Int) - Text.countChar ')' cs

/-- Whether an expression read so far is complete. -/
def complete (exp : List Char) (depth : Int) : Bool := pending exp && depth ≤ 0

/-- Read one expression from the lines: its text, trimmed, and the number of lines left. The
input ending first is a failure, and so is a line that is not text, with its own failure. -/
def readExpression (lines : List (Except Fault String)) : Except Fault (String × Nat) :=
  go lines [] 0
where
  /-- Read on, with `exp` read so far and `depth` parentheses open. -/
  go : List (Except Fault String) → List Char → Int → Except Fault (String × Nat)
    | [], _, _ => .error .endOfInput
    | .error f :: _, _, _ => .error f
    | .ok l :: rest, exp, depth =>
      let cs := prepareLine l
      let exp := exp ++ cs
      let depth := depth + balance cs
      if complete exp depth then .ok (String.ofList (Text.strip exp), rest.length) else go rest exp depth

/-- An item of the loop's input: a line, an interrupt, or something that is not a line, with
the failure that reading it gives. -/
inductive Input where
  | line (text : String)
  | interrupt
  | unreadable (cause : Fault)

/-- Run the loop on its input, and give everything it prints after the banner. `ask` is the
text shown before an item is read, given whether an expression is under way; `exp` is the text
of the expression read so far. An interrupt or an unreadable item drops that expression. -/
def loop (on : Bool) (ask : Bool → String) : List Input → List Char → Int → Eval String
  | [], exp, _ => pure (ask (pending exp) ++ byeText on)
  | .interrupt :: rest, exp, _ => do
    let out ← loop on ask rest [] 0
    pure (ask (pending exp) ++ interruptText on ++ out)
  | .unreadable f :: rest, exp, _ => do
    let out ← loop on ask rest [] 0
    pure (ask (pending exp) ++ faultText on f ++ out)
  | .line l :: rest, exp, depth => do
    let p := ask (pending exp)
    let cs := prepareLine l
    let exp := exp ++ cs
    let depth := depth + balance cs
    if complete exp depth then
      let shown ← fun st => match (Session.interpretIn (String.ofList (Text.strip exp))).run st with
        | .ok t st' => .ok (t ++ "\n") st'
        | .error e st' => .ok (faultText on e) st'
      let out ← loop on ask rest [] 0
      pure (p ++ shown ++ out)
    else do
      let out ← loop on ask rest exp depth
      pure (p ++ out)

/-- Everything the loop prints, banner first, for the input lines, in a new session, with `ask`
shown before each line is read. -/
def transcriptWith (withPrelude on : Bool) (ask : Bool → String) (lines : List Input) :
    String :=
  match (loop on ask lines [] 0).run (Session.start withPrelude) with
  | .ok out _ => banner on ++ out
  | .error _ _ => banner on

def transcript (withPrelude on : Bool) (lines : List Input) : String :=
  transcriptWith withPrelude on (prompt on) lines

end Repl

end TinyLisp
