/-
# Values in diagnostics

The text of a value in a diagnostic names the kind of every part, so that `1`, `1.0` and
`"1"` cannot be confused: `Number(1)`, `Number(1.0)`, `String("1")`.
-/
import TokenTrust.Binary64.Shortest
import TokenTrust.Json.Value
import TokenTrust.Text.Quoted

namespace TokenTrust
namespace Json

open Text (quote bracketed)

/-- The decimal text of a number. -/
def Number.text : Number → String
  | .int n => toString n
  | .double x => x.text

mutual

/-- The diagnostic text of a value. -/
def Value.debug : Value → String
  | .null => "Null"
  | .bool b => "Bool(" ++ toString b ++ ")"
  | .number n => "Number(" ++ n.text ++ ")"
  | .string s => "String(" ++ quote s ++ ")"
  | .array items => "Array " ++ bracketed (debugItems items)
  | .object ms => "Object \x7b" ++ ", ".intercalate (debugMembers ms) ++ "\x7d"

/-- The diagnostic texts of the items of an array. -/
def debugItems : List Value → List String
  | [] => []
  | v :: vs => v.debug :: debugItems vs

/-- The diagnostic texts of members, each after its quoted name. -/
def debugMembers : List (String × Value) → List String
  | [] => []
  | (name, v) :: ms => (quote name ++ ": " ++ v.debug) :: debugMembers ms

end

/-- The diagnostic text of the members of an object. -/
def Members.debug (ms : Members) : String :=
  "\x7b" ++ ", ".intercalate (debugMembers ms) ++ "\x7d"

end Json
end TokenTrust
