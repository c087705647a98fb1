import TinyLisp.Syntax.Value
import TinyLisp.Number.Decimal
import TinyLisp.Number.FloatText
import TinyLisp.Fault
import TinyLisp.Text.Quote

/-!
# Printing values

A value's source text, which the reader reads back, and its description in messages.
-/

namespace TinyLisp

namespace Value

/-- How a text shows among the items of a list: by its type alone. -/
def textItem : String := "<diylang.types.String object>"

/-- How a closure shows, by the number of its parameters; parameters with no length cannot
show. -/
def closureText (params : Value) : Except Fault String :=
  match params.length? with
  | some n => .ok ("<closure/" ++ toString n ++ ">")
  | none => .error (.noLength params.typeName)

mutual

def describeItem : Value → Except Fault String
  | .bool b => .ok (if b then "True" else "False")
  | .int n => Decimal.intText n
  | .float x => .ok x.toText
  | .sym s => .ok (Text.quote s)
  | .str _ => .ok textItem
  | .list xs => do
    let items ← describeItems xs
    return "[" ++ ", ".intercalate items ++ "]"
  | .closure _ _ ps _ => closureText ps

def describeItems : List Value → Except Fault (List String)
  | [] => .ok []
  | v :: vs => do
    let s ← describeItem v
    let ss ← describeItems vs
    return s :: ss

end

/-- The description of a value, as error messages show it. -/
def describe : Value → Except Fault String
  | .bool b => .ok (if b then "True" else "False")
  | .sym s => .ok s
  | .str d => do return "\"" ++ (← d.display) ++ "\""
  | v => describeItem v

mutual

def toSource : Value → Except Fault String
  | .bool b => .ok (if b then "#t" else "#f")
  | .list (.sym "quote" :: rest) => match rest with
    | [] => .error (.indexRange "list")
    | v :: _ => do return "'" ++ (← toSource v)
  | .list xs => do
    let items ← sourceItems xs
    return "(" ++ " ".intercalate items ++ ")"
  | v => describe v

def sourceItems : List Value → Except Fault (List String)
  | [] => .ok []
  | v :: vs => do
    let s ← toSource v
    let ss ← sourceItems vs
    return s :: ss

end

end Value

end TinyLisp
