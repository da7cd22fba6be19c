/-
# JSON values

A value is what a document says, without its spelling.  Two decisions are visible in it:

* a number written as an integer stays an integer while it fits sixty-four bits, and is a
  double otherwise, as is every number with a point or an exponent, and `-0`;
* an object is a list of members in ascending order of their names, each name once.
-/
import TokenTrust.Binary64.Basic

namespace TokenTrust
namespace Json

/-! ## 1. Numbers -/

/-- A number of a document.  The reader makes integers from `-2 ^ 63` to `2 ^ 64 - 1`. -/
inductive Number where
  | int (value : Int)
  | double (value : Binary64)
  deriving DecidableEq, Repr, Inhabited

/-- The integer, if it fits sixty-four bits with a sign. -/
def Number.int64? : Number → Option Int
  | .int n => if -0x8000000000000000 ≤ n ∧ n < 0x8000000000000000 then some n else none
  | .double _ => none

/-- The double nearest to the number. -/
def Number.toDouble? : Number → Option Binary64
  | .int n => (Binary64.ofNat? n.natAbs).map (Binary64.withSign (n < 0))
  | .double x => some x

/-- The number as a whole one between `-2 ^ 63` and `2 ^ 63`, without its fraction. -/
def Number.whole? (n : Number) : Option Int :=
  match n.int64? with
  | some i => some i
  | none => (n.toDouble?.filter (·.magnitudeBelow 0x8000000000000000)).map (·.truncate)

/-! ## 2. Values -/

inductive Value where
  | null
  | bool (value : Bool)
  | number (value : Number)
  | string (value : String)
  | array (items : List Value)
  | object (members : List (String × Value))
  deriving Repr, Inhabited

/-- The members of an object, in ascending order of their names. -/
abbrev Members := List (String × Value)

namespace Members

/-- The members with one more; it replaces one of the same name. -/
def insert (name : String) (value : Value) : Members → Members
  | [] => [(name, value)]
  | (n, v) :: rest =>
    if name < n then (name, value) :: (n, v) :: rest
    else if name = n then (name, value) :: rest
    else (n, v) :: insert name value rest

/-- The members read in some order; the last of a name counts. -/
def ofList (ms : List (String × Value)) : Members :=
  ms.foldl (fun out (name, value) => insert name value out) []

/-- The value of a name. -/
def get? (ms : Members) (name : String) : Option Value :=
  (ms.find? (·.1 == name)).map (·.2)

/-- Whether a name is there. -/
def has (ms : Members) (name : String) : Bool :=
  ms.any (·.1 == name)

end Members

namespace Value

/-- The text of a string value. -/
def string? : Value → Option String
  | .string s => some s
  | _ => none

/-- The number of a number value. -/
def number? : Value → Option Number
  | .number n => some n
  | _ => none

/-- The texts a value lists: a string lists itself, and an array its strings. -/
def strings : Value → List String
  | .string s => [s]
  | .array items => items.filterMap string?
  | _ => []

end Value
end Json
end TokenTrust
