import TinyLisp.Syntax.Value
import TinyLisp.Fault

/-!
# Frames and the store

Frames are extended by copying and defined into in place; the store also counts closures.
-/

namespace TinyLisp

/-- The bindings of a frame, newest first: a name means the first value paired with it. -/
abbrev Bindings := List (String × Value)

/-- All frames, by number, and the number of closures made so far. -/
structure Store where
  frames : Array Bindings
  closures : Nat
  deriving Inhabited

namespace Store

def initial : Store := ⟨#[[]], 0⟩

/-- The bindings of a frame; a frame that does not exist has none. -/
def bindings (st : Store) (f : FrameId) : Bindings := st.frames[f]?.getD []

def lookup (st : Store) (f : FrameId) (name : String) : Option Value :=
  ((st.bindings f).find? (·.1 == name)).map (·.2)

/-- Bind a name in a frame, in place, in front of any binding it has there. -/
def bind (st : Store) (f : FrameId) (name : String) (v : Value) : Store :=
  { st with frames := st.frames.modify f ((name, v) :: ·) }

/-- A new frame: a copy of frame `f` with the bindings `kvs` added in order, so that a later
pair of the same name wins. It returns the new frame's number. -/
def extend (st : Store) (f : FrameId) (kvs : List (String × Value)) : Store × FrameId :=
  let b := kvs.foldl (fun acc kv => kv :: acc) (st.bindings f)
  let n := st.frames.size
  ({ st with frames := st.frames.push b }, n)

def fresh (st : Store) : Store × FrameId :=
  let n := st.frames.size
  ({ st with frames := st.frames.push [] }, n)

def nextSerial (st : Store) : Store × Nat :=
  let n := st.closures
  ({ st with closures := n + 1 }, n)

end Store

end TinyLisp
