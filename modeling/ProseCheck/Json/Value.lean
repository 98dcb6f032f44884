import ProseCheck.Decimal.Binary64
import ProseCheck.Text.Point

/-!
# JSON values

Integers have any size and are kept apart from floating point numbers. The members of an object are
in the order in which their names first appeared; a name that is repeated has its last value.
-/

namespace ProseCheck.Json

/-- A JSON value. -/
inductive Value where
  | null
  | bool (b : Bool)
  | int (n : Int)
  | float (x : Decimal.Binary64)
  | string (s : Str)
  | array (items : List Value)
  | object (members : List (Str × Value))
  deriving Repr, Inhabited

/-- The members of an object. -/
abbrev Members := List (Str × Value)

/-- Sets a member of an object: a name that is there keeps its place and gets the new value. -/
def setMember (name : Str) (value : Value) : Members → Members
  | [] => [(name, value)]
  | (other, old) :: members =>
    if other = name then (name, value) :: members else (other, old) :: setMember name value members

/-- The object with the given members, from first to last. -/
def ofMembers (members : Members) : Value :=
  .object (members.foldl (fun acc (name, value) => setMember name value acc) [])

end ProseCheck.Json
