import VisualNovel.Json.Value
import VisualNovel.Numeric.Numeral
import VisualNovel.Numeric.Range

/-!
# Numbers from values

Any value may stand where a number is wanted. Truth values count as zero and one,
numbers lose their fraction where an integer is wanted, and texts are read as
numerals. The rest has no number, for one of the reasons below. Where counts are
only compared with a value, it keeps its fraction, and texts do not count.
-/

set_option autoImplicit false

namespace VisualNovel.Json

open VisualNovel.Numeric VisualNovel.Text

inductive CoercionError where
  /-- A value of a kind without integers. -/
  | noInteger (kind : String)
  /-- A value of a kind without numbers. -/
  | noNumber (kind : String)
  /-- A value of a kind that is not compared with integers. -/
  | noOrder (kind : String)
  /-- A value of a kind by which integers are not multiplied. -/
  | noProduct (kind : String)
  | badInteger (text : String) (reason : NumeralError)
  | badNumber (text : String)
  | range (error : RangeError)
  deriving DecidableEq, Repr

def CoercionError.message : CoercionError → String
  | .noInteger kind =>
      s!"int() argument must be a string, a bytes-like object or a real number, not '{kind}'"
  | .noNumber kind => s!"float() argument must be a string or a real number, not '{kind}'"
  | .noOrder kind => s!"'<' not supported between instances of 'int' and '{kind}'"
  | .noProduct kind => s!"unsupported operand type(s) for *: 'int' and '{kind}'"
  | .badInteger text reason => reason.message text
  | .badNumber text => "could not convert string to float: " ++ quoted text
  | .range error => error.message

def Value.toInteger : Value → Except CoercionError Int
  | .bool value => .ok (if value then 1 else 0)
  | .integer value => .ok value
  | .number value => (integerPart value).mapError .range
  | .text value => (readInteger value).mapError (.badInteger value)
  | value => .error (.noInteger value.kind)

/-- The floating-point number that a value stands for. -/
def Value.toFloat : Value → Except CoercionError Float
  | .bool value => .ok (if value then 1.0 else 0.0)
  | .integer value => (floatOfInteger value).mapError .range
  | .number value => .ok value
  | .text value =>
      match readFloat? value with
      | some found => .ok found
      | none => .error (.badNumber value)
  | value => .error (.noNumber value.kind)

/-- The integer that the same counts are below as are below a value. -/
def Value.toLimit : Value → Except CoercionError Int
  | .bool value => .ok (if value then 1 else 0)
  | .integer value => .ok value
  | .number value => .ok (countBound value)
  | value => .error (.noOrder value.kind)

/-- The integer that a length times a value stands for. A text or a list is repeated. -/
def Value.times (length : Int) : Value → Except CoercionError Int
  | .bool value => .ok (if value then length else 0)
  | .integer value => .ok (length * value)
  | .number value => do
      (integerPart ((← (floatOfInteger length).mapError .range) * value)).mapError .range
  | .text value => (Value.text (String.join (List.replicate length.toNat value))).toInteger
  | .list value => (Value.list value).toInteger
  | value => .error (.noProduct value.kind)

/-- The range that a number was out of, none if there was no number. -/
def CoercionError.overflow? : CoercionError → Option RangeError
  | .range .notANumber => none
  | .range error => some error
  | _ => none

end VisualNovel.Json
