import ProseCheck.Config.Fault
import ProseCheck.Diagnostic
import ProseCheck.Json.Value
import ProseCheck.Text.Integer

/-!
# Fields of a configuration

Readers for the kinds of values that configurations have. An integer may also be given as a truth
value, as a number without a fraction or as a string.
-/

namespace ProseCheck.Config

open Json (Value Members)

/-- Reads the name of a severity. -/
def readSeverity : Value → Except Problem Severity
  | .string s =>
    match Severity.ofName? s with
    | some severity => .ok severity
    | none => .error .notSeverity
  | _ => .error .notSeverity

/-- Reads a string. -/
def readString : Value → Except Problem Str
  | .string s => .ok s
  | _ => .error .notString

/-- Reads the members of an object. -/
def readObject : Value → Except Problem Members
  | .object members => .ok members
  | _ => .error .notObject

/-- Whether a text is empty, or a decimal point with zeros after it. -/
def isZeroFraction : List Char → Bool
  | [] => true
  | '.' :: zeros => !zeros.isEmpty && zeros.all (· == '0')
  | _ => false

/-- The integer that a string writes: ASCII digits with a sign, single underscores between the
digits, and perhaps a fraction of zeros. -/
def decimal? (s : List Char) : Option Int :=
  let (negative, number) := Text.splitSign (Text.trimInteger s)
  let whole := number.takeWhile (· != '.')
  if isZeroFraction (number.dropWhile (· != '.')) then
    (Text.groupedDigits? Text.asciiDigit? whole).map fun ds =>
      Text.signed negative (Text.ofDigits ds)
  else none

/-- The bound of the integers that a floating point number is taken for, `2 ^ 63`. -/
def floatBound : Int := 9223372036854775808

/-- The integer that a floating point number is. It has to lie strictly between the bounds. -/
def integerOfFloat (x : Decimal.Binary64) : Except Problem Int :=
  match x with
  | .finite _ _ _ =>
    match x.toInt? with
    | none => .error .fractional
    | some n => if -floatBound < n ∧ n < floatBound then .ok n else .error .tooLarge
  | _ => .error .notFinite

/-- Reads an integer. -/
def readInteger : Value → Except Problem Int
  | .bool b => .ok (if b then 1 else 0)
  | .int n => .ok n
  | .float x => integerOfFloat x
  | .string s =>
    match s.chars? with
    | none => .error .notUnicode
    | some chars =>
      if Text.digitLimit < chars.length then .error .tooLarge
      else
        match decimal? chars with
        | some n => .ok n
        | none => .error .notDecimal
  | _ => .error .notInteger

/-- Reads a member of an object with the reader of its kind. -/
def readMember {α : Type} (read : Value → Except Problem α) (name : String) (value : Value) :
    Except FieldFault α :=
  (read value).mapError fun problem => ⟨[.field name], problem⟩

/-- Reads a member that has to be there. -/
def required {α : Type} (read : Value → Except Problem α) (members : Members) (name : String) :
    Except FieldFault α :=
  match members.lookup (Str.ofString name) with
  | some value => readMember read name value
  | none => .error ⟨[.field name], .absent⟩

/-- Reads a member that may be missing. -/
def optional {α : Type} (read : Value → Except Problem α) (members : Members) (name : String)
    (default : α) : Except FieldFault α :=
  match members.lookup (Str.ofString name) with
  | some value => readMember read name value
  | none => .ok default

/-- The fault of a reading, if it failed. -/
def faultOf {α : Type} : Except FieldFault α → List FieldFault
  | .ok _ => []
  | .error fault => [fault]

end ProseCheck.Config
