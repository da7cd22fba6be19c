/-
# Errors

Everything that can go wrong has a kind and a wording.  Validators report the wording alone
(`Verdict`), so the wording is part of the contract of the library; it is written down in
`Error.message` and nowhere else.
-/
import TokenTrust.Json.Fault
import TokenTrust.Url.Host

namespace TokenTrust

inductive Error where
  /-- A URL that cannot be the base of an identity service. -/
  | invalidBaseUrl (url : String)
  | url (fault : Url.Fault)
  | json (fault : Json.Fault)
  | malformedToken (reason : String)
  | expiredToken (expiredAt now : String)
  | notYetValid (reason : String)
  | audienceMismatch (reason : String)
  | issuerMismatch (reason : String)
  | unsupportedAlgorithm (name : String)
  | noMatchingKey (reason : String)
  /-- Keys or a discovery document could not be had.  The URL is redacted. -/
  | keyRetrieval (url reason : String)
  | invalidSignature (reason : String)
  | crypto (reason : String)
  | configuration (reason : String)
  deriving DecidableEq, Repr

namespace Error

/-- The wording of an error. -/
def message : Error → String
  | .invalidBaseUrl address => "invalid base url: " ++ address
  | .url fault => "url parse error: " ++ fault.message
  | .json fault => "json error: " ++ fault.message
  | .malformedToken reason => "malformed jwt: " ++ reason
  | .expiredToken expiredAt now => "Jwt expired at " ++ expiredAt ++ ", time now: " ++ now
  | .notYetValid reason => reason
  | .audienceMismatch reason => reason
  | .issuerMismatch reason => reason
  | .unsupportedAlgorithm name =>
    "Jwt token with signature algorithm " ++ name ++ " is not supported"
  | .noMatchingKey reason => reason
  | .keyRetrieval address reason =>
    "Error retrieving Json Web Keys from Identity Service (" ++ address ++ "): " ++ reason
  | .invalidSignature reason => "Signature of Jwt Token is not valid: " ++ reason
  | .crypto reason => "crypto error: " ++ reason
  | .configuration reason => "invalid configuration: " ++ reason

end Error

/-! ## Results -/

section Results

variable {ε ε' α β : Type}

@[simp] theorem throw_eq_error (e : ε) : (throw e : Except ε α) = .error e := rfl

/-- A value stays as it is when its errors are changed. -/
@[simp] theorem mapError_ok (f : ε → ε') (a : α) : (Except.ok a).mapError f = .ok a := rfl

@[simp] theorem mapError_error (f : ε → ε') (e : ε) :
    (Except.error e : Except ε α).mapError f = .error (f e) := rfl

theorem mapError_eq_ok_iff {f : ε → ε'} {r : Except ε α} {a : α} :
    r.mapError f = .ok a ↔ r = .ok a := by
  cases r <;> simp

/-- Two steps have a value if both of them have one. -/
theorem bind_eq_ok_iff {r : Except ε α} {f : α → Except ε β} {b : β} :
    (r >>= f) = .ok b ↔ ∃ a, r = .ok a ∧ f a = .ok b := by
  cases r <;> simp [bind, Except.bind]

/-- They end in an error if the first one does, or it has a value and the second one does. -/
theorem bind_eq_error_iff {r : Except ε α} {f : α → Except ε β} {e : ε} :
    (r >>= f) = .error e ↔ r = .error e ∨ ∃ a, r = .ok a ∧ f a = .error e := by
  cases r <;> simp [bind, Except.bind]

theorem map_eq_ok_iff {r : Except ε α} {f : α → β} {b : β} :
    f <$> r = .ok b ↔ ∃ a, r = .ok a ∧ f a = b := by
  cases r <;> simp [Functor.map, Except.map]

theorem map_eq_error_iff {r : Except ε α} {f : α → β} {e : ε} :
    f <$> r = .error e ↔ r = .error e := by
  cases r <;> simp [Functor.map, Except.map]

/-- Behind a condition that ends in an error, there is a value only if it does not hold. -/
theorem guard_eq_ok_iff {p : Prop} [Decidable p] {e : ε} {r : Except ε α} {f : β → Except ε α}
    {a : α} : (if p then throw e >>= f else r) = .ok a ↔ ¬ p ∧ r = .ok a := by
  by_cases h : p
  · simp [h, bind, Except.bind]
  · simp [h]

end Results
end TokenTrust
