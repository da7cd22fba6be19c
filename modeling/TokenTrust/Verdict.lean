/-
# Verdicts

What a validator says about a token: valid, or invalid with the reason in words.
-/
import TokenTrust.Error

namespace TokenTrust

inductive Verdict where
  | valid
  | invalid (description : String)
  deriving DecidableEq, Repr

namespace Verdict

def isValid : Verdict → Bool
  | valid => true
  | invalid _ => false

def description? : Verdict → Option String
  | valid => none
  | invalid d => some d

/-- The verdict that an error stands for. -/
def ofError (e : Error) : Verdict := invalid e.message

/-- The verdict of a check: valid unless it failed. -/
def ofCheck : Except Error Unit → Verdict
  | .ok () => valid
  | .error e => ofError e

def text : Verdict → String
  | valid => "valid"
  | invalid d => "invalid: " ++ d

end Verdict
end TokenTrust
