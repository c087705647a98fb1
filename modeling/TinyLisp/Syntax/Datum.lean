import TinyLisp.Number.FloatText
import TinyLisp.Number.Decimal
import TinyLisp.Text.Quote

/-!
# Data

What a text value holds: a datum of the exchange format, with the list operations and
equality of the host.
-/

namespace TinyLisp

/-- A datum: the contents of a text value. -/
inductive Datum where
  | null
  | bool (b : Bool)
  | int (n : Int)
  | float (x : Binary64)
  | text (s : String)
  | list (items : List Datum)
  | map (entries : List (String × Datum))
  deriving Repr, Inhabited

namespace Datum

def typeName : Datum → String
  | .null => "NoneType"
  | .bool _ => "bool"
  | .int _ => "int"
  | .float _ => "float"
  | .text _ => "str"
  | .list _ => "list"
  | .map _ => "dict"

mutual

/-- The text of a datum as an item of a list or a map: texts in quotes. -/
def describe : Datum → Except Fault String
  | .null => .ok "None"
  | .bool b => .ok (if b then "True" else "False")
  | .int n => Decimal.intText n
  | .float x => .ok x.toText
  | .text s => .ok (Text.quote s)
  | .list xs => do return "[" ++ ", ".intercalate (← describeItems xs) ++ "]"
  | .map es => do return "\x7b" ++ ", ".intercalate (← describeEntries es) ++ "\x7d"

def describeItems : List Datum → Except Fault (List String)
  | [] => .ok []
  | d :: ds => do return (← describe d) :: (← describeItems ds)

def describeEntries : List (String × Datum) → Except Fault (List String)
  | [] => .ok []
  | (k, d) :: es => do return (Text.quote k ++ ": " ++ (← describe d)) :: (← describeEntries es)

end

/-- The text of a datum on its own: a text as it is, anything else as among items. -/
def display : Datum → Except Fault String
  | .text s => .ok s
  | d => d.describe

/-- The number of items of a datum that has a length: the characters of a text, the items of a
list, the entries of a map. -/
def length : Datum → Except Fault Nat
  | .text s => .ok s.length
  | .list xs => .ok xs.length
  | .map es => .ok es.length
  | d => .error (.noLength d.typeName)

/-- The first item of a datum that has items: the first character of a text, as a text, or the
first item of a list. A map has no item at `0`. -/
def first : Datum → Except Fault Datum
  | .text s => match s.toList with
    | c :: _ => .ok (.text (String.singleton c))
    | [] => .error (.indexRange "string")
  | .list (x :: _) => .ok x
  | .list [] => .error (.indexRange "list")
  | .map _ => .error (.missingKey "0")
  | d => .error (.notSubscriptable d.typeName)

/-- A datum without its first item: a text without its first character, a list without its
first item. A map cannot be cut. -/
def rest : Datum → Except Fault Datum
  | .text s => .ok (.text (String.ofList s.toList.tail))
  | .list xs => .ok (.list xs.tail)
  | .map _ => .error (.unhashable "slice")
  | d => .error (.notSubscriptable d.typeName)

/-- The integer a datum stands for in a sum, if any: booleans are `0` and `1`. -/
def integer? : Datum → Option Int
  | .bool b => some (if b then 1 else 0)
  | .int n => some n
  | _ => none

def toFloat (n : Int) : Except Fault Binary64 :=
  match Binary64.ofInt? n with
  | some x => .ok x
  | none => .error .floatRange

/-- Two data joined: texts and lists concatenated, numbers added. A text or a list joins only
with one of its own kind; numbers add as integers unless one is a binary64 number. -/
def add (a b : Datum) : Except Fault Datum :=
  match a, b with
  | .text s, .text t => .ok (.text (s ++ t))
  | .text _, d => .error (.concatenation "str" d.typeName)
  | .list xs, .list ys => .ok (.list (xs ++ ys))
  | .list _, d => .error (.concatenation "list" d.typeName)
  | .float x, .float y => .ok (.float (x.add y))
  | .float x, d => match d.integer? with
    | some n => do return .float (x.add (← toFloat n))
    | none => .error (.unsupportedOperand "+" "float" d.typeName)
  | d, .float y => match d.integer? with
    | some n => do return .float ((← toFloat n).add y)
    | none => .error (.unsupportedOperand "+" d.typeName "float")
  | d, e => match d.integer?, e.integer? with
    | some m, some n => .ok (.int (m + n))
    | _, _ => .error (.unsupportedOperand "+" d.typeName e.typeName)

def isNaN : Datum → Bool
  | .float .nan => true
  | _ => false

mutual

/-- Whether two data are equal: numbers by value, texts by their characters, lists item by item
and maps entry by entry, whatever the order of the entries. -/
def equal : Datum → Datum → Bool
  | .null, .null => true
  | .text s, .text t => s == t
  | .list xs, .list ys => equalItems xs ys
  | .map es, .map fs => es.length == fs.length && equalEntries es fs
  | .float x, .float y => x.eqNum y
  | .float x, d => match d.integer? with
    | some n => x.eqInt n
    | none => false
  | d, .float y => match d.integer? with
    | some n => y.eqInt n
    | none => false
  | d, e => match d.integer?, e.integer? with
    | some m, some n => m == n
    | _, _ => false

def equalItems : List Datum → List Datum → Bool
  | [], [] => true
  | d :: ds, e :: es => (d.isNaN && e.isNaN || equal d e) && equalItems ds es
  | _, _ => false

def equalEntries : List (String × Datum) → List (String × Datum) → Bool
  | [], _ => true
  | (k, d) :: es, fs => match fs.lookup k with
    | some e => (d.isNaN && e.isNaN || equal d e) && equalEntries es fs
    | none => false

end

end Datum

end TinyLisp
