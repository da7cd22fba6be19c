/-
# Validators

A validator looks at a token and gives a verdict.  It is an action, because some have to ask the
network.

`all` runs validators one after another up to the first refusal, and is a validator itself, so
chains can be nested.
-/
import TokenTrust.Action
import TokenTrust.Token
import TokenTrust.Verdict

namespace TokenTrust

/-- A check of tokens. -/
abbrev Validator := Token → Action Verdict

namespace Validator

open TokenTrust.Action

/-- The validator of a check that may ask the network. -/
def ofAction (check : Token → Action Unit) : Validator := fun t => do
  return Verdict.ofCheck (← attempt (check t))

/-- The validator of a check of the token alone. -/
def ofCheck (check : Token → Except Error Unit) : Validator := fun t =>
  return Verdict.ofCheck (check t)

/-- The validator of a check that depends on the date. -/
def ofDated (check : Int → Token → Except Error Unit) : Validator := fun t => do
  return Verdict.ofCheck (check (← today) t)

/-- The validator that calls a name first. -/
def named (name : String) (v : Validator) : Validator := fun t => do
  call name
  v t

/-- What is logged about a refusal. -/
def refusalLine (index : Nat) (description : String) : LogLine :=
  .debug ("jwt validation step " ++ toString index ++ " failed: " ++ description)

/-- Runs validators in order, counting from `index`, up to the first refusal. -/
def allFrom : Nat → List Validator → Validator
  | _, [], _ => return .valid
  | index, v :: vs, t => do
    match ← v t with
    | .valid => allFrom (index + 1) vs t
    | .invalid description =>
      log (refusalLine index description)
      return .invalid description

/-- Runs validators in order up to the first refusal. -/
def all (vs : List Validator) : Validator :=
  allFrom 0 vs

end Validator

/-! ## Chains -/

/-- Validators that run in order. -/
structure Chain where
  validators : List Validator

namespace Chain

def size (c : Chain) : Nat := c.validators.length

/-- The chain as one validator. -/
def validator (c : Chain) : Validator := Validator.all c.validators

/-- The verdict on a text, which has to be a token. -/
def validateText (c : Chain) (text : String) : Action Verdict :=
  match Token.parse text with
  | .ok t => c.validator t
  | .error e => return .ofError e

/-- The text of a chain in diagnostics. -/
def debug (c : Chain) : String :=
  Text.record "CombiningValidator" [("validators", toString c.size)]

end Chain
end TokenTrust
