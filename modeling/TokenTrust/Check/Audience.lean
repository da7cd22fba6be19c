/-
# Whom a token is meant for

Two rules.  The general one (`ClientIds`) knows applications by their client ids: one of them has
to be among the audiences of the token, or, if the token names no audience, be the client it was
issued to.

The rule for XSUAA (`Identity`) knows an application by its id and its client id.  An audience
there may be the name of a scope, which starts with the name of the application and a dot, and
without an audience the scopes take its place.
-/
import TokenTrust.Text.Quoted
import TokenTrust.Token

namespace TokenTrust

/-! ## 1. Client ids -/

namespace ClientIds

/-- Whether a token is meant for one of some clients. -/
def accepts (ids : List String) (t : Token) : Bool :=
  t.audiences.any ids.contains || (t.audiences.isEmpty && t.clientId?.any ids.contains)

/-- Checks the audience of a token by client ids. -/
def check (ids : List String) (t : Token) : Except Error Unit :=
  if accepts ids t then .ok ()
  else .error (.audienceMismatch ("Jwt token with audience " ++ Text.quoteList t.audiences ++
    " is not issued for these clientIds: " ++ Text.quoteList ids ++ "."))

end ClientIds

/-! ## 2. Identities of XSUAA -/

/-- What an application is known by. -/
structure Identity where
  appId : String
  clientId : String
  deriving DecidableEq, Repr

namespace Identity

/-- What an audience or a scope names: what stands before the first dot, without blanks. -/
def nameOf (audience : String) : String :=
  Text.trim (Text.before '.' audience)

/-- The audiences of a token, or its scopes if it has none.  A scope without a dot names no
application. -/
def candidates (t : Token) : List String :=
  if t.audiences.isEmpty then t.scopes.filter fun s => s.toList.contains '.' else t.audiences

/-- The names of applications in a token, each once. -/
def audiences (t : Token) : List String :=
  Token.distinct (((candidates t).map nameOf).filter (· ≠ ""))

/-- The mark in the id of an application that is a broker. -/
def brokerMark : List Char := ['!', 'b']

/-- Whether a client is a clone of a broker: its id ends with the id of the broker. -/
def isCloneOf (appId client : String) : Bool :=
  Text.occurs brokerMark appId.toList && ('|' :: appId.toList).isSuffixOf client.toList

/-- Whether a token with this client and these audiences is meant for an application. -/
def accepts (i : Identity) (client : Option String) (audiences : List String) : Bool :=
  client == some i.clientId || client.any (isCloneOf i.appId) ||
    audiences.any fun a => a == i.appId || a == i.clientId || a == Text.before '!' i.clientId

/-- Checks the audience of a token by the identities of applications. -/
def check (identities : List Identity) (t : Token) : Except Error Unit :=
  let audiences := audiences t
  if identities.any fun i => i.accepts t.clientId? audiences then .ok ()
  else .error (.audienceMismatch ("Jwt token with audience " ++ Text.quoteList audiences ++
    " is not issued for these identifiers: " ++
    Text.quoteList (identities.flatMap fun i => [i.appId, i.clientId]) ++ "."))

end Identity
end TokenTrust
