/-
# Discovery documents

The document in which an identity service says where its endpoints are: an object with known
members, or a list that gives them in their order.  Only the address of the keys is required.
-/
import TokenTrust.Error
import TokenTrust.Json.Document
import TokenTrust.Url.Parse

namespace TokenTrust

structure Discovery where
  issuer : Option String
  /-- The address of the keys, as it is written. -/
  keysAddress : String
  tokenEndpoint : Option String
  authorizationEndpoint : Option String
  deriving DecidableEq, Repr

namespace Discovery

/-- The URL of the keys. -/
def keysUrl (d : Discovery) : Except Error Url :=
  (Url.parse d.keysAddress).mapError .url

/-! ## 1. Reading -/

/-- Members that have been read so far.  Of a text that may be `null`, the outer option says
whether the member was there. -/
structure Members where
  issuer : Option (Option String) := none
  keysAddress : Option String := none
  tokenEndpoint : Option (Option String) := none
  authorizationEndpoint : Option (Option String) := none

open Json.Reader

/-- Reads a member. -/
def readMember (known : Members) (name : String) : Json.Reader Members := do
  if name = "issuer" then
    return { known with issuer := some (← once name known.issuer stringOrNull) }
  else if name = "jwks_uri" then
    return { known with keysAddress := some (← once name known.keysAddress stringOnly) }
  else if name = "token_endpoint" then
    return { known with tokenEndpoint := some (← once name known.tokenEndpoint stringOrNull) }
  else if name = "authorization_endpoint" then
    return { known with
      authorizationEndpoint := some (← once name known.authorizationEndpoint stringOrNull) }
  else
    ignoreMember
    return known

/-- The document of all members. -/
def ofMembers (known : Members) : Except Json.Fault Discovery :=
  match known.keysAddress with
  | none => .error (.missingField "jwks_uri")
  | some keysAddress => .ok {
      issuer := known.issuer.join
      keysAddress
      tokenEndpoint := known.tokenEndpoint.join
      authorizationEndpoint := known.authorizationEndpoint.join }

/-- The number of members of a list that is too short, and what was expected. -/
def tooShort : Json.Fault :=
  .tooShort 1 "struct OidcConfiguration with 4 elements"

/-- Reads the members of a list. -/
def readList : Json.Reader Discovery := do
  let some issuer ← field? true stringOrNull | throw tooShort
  let some keysAddress ← field? false stringOnly | throw tooShort
  let tokenEndpoint ← field? false stringOrNull
  let authorizationEndpoint ← field? false stringOrNull
  return ⟨issuer, keysAddress, tokenEndpoint.join, authorizationEndpoint.join⟩

/-- Reads a document. -/
def read : Json.Reader Discovery :=
  fields "struct OidcConfiguration" readList {} readMember ofMembers

/-- The document of some octets. -/
def parse (document : List UInt8) : Except Json.Fault Discovery :=
  run read document

end Discovery
end TokenTrust
