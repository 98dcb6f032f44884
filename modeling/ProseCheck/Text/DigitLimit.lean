/-!
# The limit on the digits of an integer

Integers in decimal notation are read only up to a number of digits, so that the time to read them
stays bounded.
-/

namespace ProseCheck.Text

/-- The greatest number of digits of an integer in a text; its sign does not count. -/
def digitLimit : Nat := 4300

/-- An integer in a text that has too many digits. -/
structure TooManyDigits where
  /-- The number of its digits. -/
  count : Nat
  deriving DecidableEq, Repr

/-- The wording for an integer with too many digits. -/
def TooManyDigits.message (t : TooManyDigits) : String :=
  "Exceeds the limit (4300 digits) for integer string conversion: value has " ++
    toString t.count ++ " digits; use sys.set_int_max_str_digits() to increase the limit"

end ProseCheck.Text
