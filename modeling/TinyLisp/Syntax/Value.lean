import TinyLisp.Syntax.Datum

/-!
# Values
-/

namespace TinyLisp

/-- The number of a frame of bindings in a store. -/
abbrev FrameId := Nat

/-- A program or a value. -/
inductive Value where
  | bool (b : Bool)
  | int (n : Int)
  | float (x : Binary64)
  | sym (name : String)
  | str (contents : Datum)
  | list (items : List Value)
  | closure (serial : Nat) (frame : FrameId) (params : Value) (body : Value)
  deriving Repr, Inhabited

namespace Value

def isAtom : Value → Bool
  | .list _ | .float _ => false
  | _ => true

/-- Whether a value counts as true in a test. False are `#f`, the zeros, the empty list and the
empty name; every text and every closure is true. -/
def truthy : Value → Bool
  | .bool b => b
  | .int n => n != 0
  | .float x => !x.isZero
  | .sym s => !s.isEmpty
  | .str _ => true
  | .list xs => !xs.isEmpty
  | .closure .. => true

/-- The number a value stands for in arithmetic and comparison, if any: booleans are `0` and `1`. -/
def integer? : Value → Option Int
  | .bool b => some (if b then 1 else 0)
  | .int n => some n
  | _ => none

/-- The equality that `eq` tests. Booleans, integers and binary64 numbers are equal when their
values are; names when their characters are; texts when their data are; closures when they are
the same closure. A list is equal to nothing. -/
def equal : Value → Value → Bool
  | .float x, .float y => x.eqNum y
  | .float x, v => match v.integer? with
    | some n => x.eqInt n
    | none => false
  | v, .float y => match v.integer? with
    | some n => y.eqInt n
    | none => false
  | .sym a, .sym b => a == b
  | .str a, .str b => a.equal b
  | .closure a .., .closure b .. => a == b
  | v, w => match v.integer?, w.integer? with
    | some m, some n => m == n
    | _, _ => false

def typeName : Value → String
  | .bool _ => "bool"
  | .int _ => "int"
  | .float _ => "float"
  | .sym _ => "str"
  | .str _ => "String"
  | .list _ => "list"
  | .closure .. => "Closure"

/-- The number of items of a value that has a length: a list, or a name by its characters. -/
def length? : Value → Option Nat
  | .list xs => some xs.length
  | .sym s => some s.length
  | _ => none

/-- The items of a value that has a length: a list's items, or a name's characters as names of
one character. -/
def elements? : Value → Option (List Value)
  | .list xs => some xs
  | .sym s => some (s.toList.map fun c => .sym (String.singleton c))
  | _ => none

/-- The item at a position of a value that has a length: a name's items are its characters, as
names of one character. -/
def item? (v : Value) (i : Nat) : Option Value :=
  match v with
  | .list xs => xs[i]?
  | .sym s => (s.toList[i]?).map fun c => .sym (String.singleton c)
  | _ => none

end Value

end TinyLisp
