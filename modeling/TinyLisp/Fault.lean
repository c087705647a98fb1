/-!
# Failures

Every way reading, evaluating or printing can fail, with its class name and message.
-/

namespace TinyLisp

/-- The longest decimal text an integer may be read from or printed as. -/
def maxDigits : Nat := 4300

/-- A failure, by its cause. -/
inductive Fault where
  | unbound (name : String)
  | redefined (name : String)
  | arity (form : String)
  | argumentCount (expected given : Nat)
  | notAFunction (shown : String)
  | atomApplied
  | notANumber (shown : String)
  /-- A value that is not a program, described: the empty list, a binary64 number, a closure. -/
  | notEvaluable (shown : String)
  | defineName
  | defnName
  | notAList (form : String)
  | paramsNotNames
  | notASequence (form : String)
  | emptyList (form : String)
  | emptyText (form : String)
  | expectedBoolean
  | expectedEnd
  | unclosedText
  /-- A parenthesis that is never closed; the text is from it to the end. -/
  | incomplete (text : String)
  | noLength (typeName : String)
  | unhashable (typeName : String)
  /-- An index past the end of a text (`"string"`) or of a list (`"list"`). -/
  | indexRange (container : String)
  | indexSize
  | notSubscriptable (typeName : String)
  | concatenation (container other : String)
  | unsupportedOperand (op left right : String)
  | unorderable (op left right : String)
  | notAnInteger (typeName : String)
  | repeatCount (typeName : String)
  | formatNumber (typeName : String)
  | infiniteInteger
  | nanInteger
  /-- A text holding lone surrogates was written to a file: the position of the first of a run
  of them, and the surrogates of the run. -/
  | unencodable (position : Nat) (surrogates : List Nat)
  | floatRange
  /-- A pattern that had to match at the start of a text did not. -/
  | noMatch
  | divisionByZero
  | moduloByZero
  | quotientTooLarge
  | textTooLong
  | literalTooLong (digits : Nat)
  | badValue (message : String)
  | badArgument (message : String)
  | noAttribute (message : String)
  | missingKey (message : String)
  /-- A position that failed the precondition of a scan. -/
  | assertion
  | endOfInput
  | outOfFuel
  deriving Repr, DecidableEq, Inhabited

namespace Fault

/-- Whether a failure is an error of the language itself. -/
def isLanguage : Fault → Bool
  | .unbound _ | .redefined _ | .arity _ | .argumentCount .. | .notAFunction _ | .atomApplied
  | .notANumber _ | .notEvaluable _ | .defineName | .defnName | .notAList _ | .paramsNotNames
  | .notASequence _ | .emptyList _ | .emptyText _ | .expectedBoolean | .expectedEnd
  | .unclosedText | .incomplete _ => true
  | _ => false

/-- The class name a failure is reported under. -/
def kind (f : Fault) : String :=
  if f.isLanguage then "DiyLangError"
  else match f with
    | .noLength _ | .unhashable _ | .badArgument _ | .notSubscriptable _ | .concatenation ..
    | .unsupportedOperand .. | .unorderable .. | .notAnInteger _ | .repeatCount _
    | .formatNumber _ => "TypeError"
    | .indexRange _ | .indexSize => "IndexError"
    | .noMatch | .noAttribute _ => "AttributeError"
    | .divisionByZero | .moduloByZero => "ZeroDivisionError"
    | .quotientTooLarge | .floatRange | .infiniteInteger => "OverflowError"
    | .textTooLong | .literalTooLong _ | .badValue _ | .nanInteger => "ValueError"
    | .missingKey _ => "KeyError"
    | .assertion => "AssertionError"
    | .unencodable .. => "UnicodeEncodeError"
    | .endOfInput => "EOFError"
    | _ => "RecursionError"

/-- The message a failure is reported with. -/
def message : Fault → String
  | .unbound n => n ++ " not in environment"
  | .redefined n => n ++ " already defined"
  | .arity form => "Wrong number of arguments in " ++ form
  | .argumentCount e g =>
    "wrong number of arguments, expected " ++ toString e ++ " got " ++ toString g
  | .notAFunction s => s ++ " not a function"
  | .atomApplied => "not a function"
  | .notANumber s | .notEvaluable s => s
  | .defineName => "not a symbol"
  | .defnName => "defn argument must be symbol"
  | .notAList form => form ++ " arguments must be list"
  | .paramsNotNames => "lambda argument list must be symbols"
  | .notASequence form => form ++ " arguments must be list or string"
  | .emptyList form => form ++ " of empty list"
  | .emptyText form => form ++ " of empty string"
  | .expectedBoolean => "Expected boolean"
  | .expectedEnd => "Expected EOF"
  | .unclosedText => "Unclosed string"
  | .incomplete t => "Incomplete expression: " ++ t
  | .noLength t => "object of type '" ++ t ++ "' has no len()"
  | .unhashable t => "unhashable type: '" ++ t ++ "'"
  | .indexRange c => c ++ " index out of range"
  | .indexSize => "cannot fit 'int' into an index-sized integer"
  | .notSubscriptable t => "'" ++ t ++ "' object is not subscriptable"
  | .concatenation c o => "can only concatenate " ++ c ++ " (not \"" ++ o ++ "\") to " ++ c
  | .unsupportedOperand op l r =>
    "unsupported operand type(s) for " ++ op ++ ": '" ++ l ++ "' and '" ++ r ++ "'"
  | .unorderable op l r =>
    "'" ++ op ++ "' not supported between instances of '" ++ l ++ "' and '" ++ r ++ "'"
  | .notAnInteger t => "'" ++ t ++ "' object cannot be interpreted as an integer"
  | .repeatCount t => "can't multiply sequence by non-int of type '" ++ t ++ "'"
  | .formatNumber t => "%d format: a real number is required, not " ++ t
  | .infiniteInteger => "cannot convert float infinity to integer"
  | .nanInteger => "cannot convert float NaN to integer"
  | .unencodable i [s] =>
    "'utf-8' codec can't encode character '\\u" ++ String.ofList (Nat.toDigits 16 s) ++
      "' in position " ++ toString i ++ ": surrogates not allowed"
  | .unencodable i run =>
    "'utf-8' codec can't encode characters in position " ++ toString i ++ "-" ++
      toString (i + run.length - 1) ++ ": surrogates not allowed"
  | .floatRange => "int too large to convert to float"
  | .noMatch => "'NoneType' object has no attribute 'end'"
  | .divisionByZero => "division by zero"
  | .moduloByZero => "integer modulo by zero"
  | .quotientTooLarge => "integer division result too large for a float"
  | .textTooLong =>
    "Exceeds the limit (" ++ toString maxDigits ++
      " digits) for integer string conversion; use sys.set_int_max_str_digits() to increase the limit"
  | .literalTooLong n =>
    "Exceeds the limit (" ++ toString maxDigits ++
      " digits) for integer string conversion: value has " ++ toString n ++
      " digits; use sys.set_int_max_str_digits() to increase the limit"
  | .badValue m | .badArgument m | .noAttribute m | .missingKey m => m
  | .assertion | .endOfInput => ""
  | .outOfFuel => "maximum recursion depth exceeded"

end Fault

end TinyLisp
