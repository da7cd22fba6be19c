/-
# The signature of a token

The signature is checked with a key that the identity service publishes, and the token says which
one.  What a token may decide is limited:

* the algorithm has to be one of the known ones, and the key has to be made for it;
* with XSUAA, the token may name the place of the keys (`jku`), but only a place that ends in
  `token_keys` on a host that belongs to a trusted domain;
* with IAS, the place of the keys comes from the discovery document of the service, and the token
  only adds its zone as the tenant.

A token whose key id is unknown may be signed with a key that was published after the keys were
stored, so stored keys are refreshed once before such a token is refused.
-/
import TokenTrust.Config
import TokenTrust.Domain.Subdomain
import TokenTrust.Retrieval.Discovery
import TokenTrust.Token

namespace TokenTrust

/-- What the signatures of tokens are checked against. -/
structure SignatureCheck where
  service : Service
  /-- Where XSUAA publishes its keys. -/
  tokenKeysUrl : Url
  /-- Where the discovery document is. -/
  discoveryUrl : Url
  /-- The domains in which a token may name the place of its keys. -/
  trustedDomains : List String
  deriving DecidableEq, Repr

namespace SignatureCheck

open TokenTrust.Action TokenTrust.Retrieval

/-- The check for a configuration, which trusts the domain of the identity provider. -/
def ofConfig (c : Config) : Except Error SignatureCheck := do
  return {
    service := c.service
    tokenKeysUrl := ← c.tokenKeysUrl
    discoveryUrl := ← c.discoveryUrl
    trustedDomains := c.domain.toList }

/-- The text of a check in diagnostics. -/
def debug (c : SignatureCheck) : String :=
  Text.record "JwtSignatureValidator" [
    ("service", c.service.debug),
    ("token_keys_url", Text.quote c.tokenKeysUrl.text),
    ("discovery_url", Text.quote c.discoveryUrl.text),
    ("trusted_jku_domains", Text.quoteList c.trustedDomains)]

/-! ## 1. The place of the keys -/

/-- The last segment of every place that a token may name. -/
def lastSegment : String := "token_keys"

/-- Whether a URL is of the kind that a token may name. -/
def isTokenKeysUrl (u : Url) : Bool :=
  u.scheme == "https" && u.fragment.isNone && u.lastSegment? == some lastSegment

/-- Whether the host of a URL belongs to one of some domains. -/
def isWithin (domains : List String) (u : Url) : Bool :=
  u.hostText?.any fun host => domains.any (Domain.covers · host)

/-- The place that a token names, if it may be trusted.  The query does not count. -/
def trustedUrl? (domains : List String) (address : String) : Option Url :=
  match Url.parse address with
  | .error _ => none
  | .ok u =>
    if isTokenKeysUrl u && isWithin domains u.withoutQuery then some u.withoutQuery else none

/-- What is reported about a place that is not trusted. -/
def untrusted (domains : List String) (address : String) : Error :=
  .issuerMismatch ("Jwt token 'jku' " ++ address ++
    " is not trusted: it must name the token_keys endpoint of an identity provider domain " ++
    Text.quoteList domains ++ ".")

/-- The source of the keys of XSUAA. -/
def xsuaaSource (c : SignatureCheck) (t : Token) : Except Error KeySource :=
  match t.keySetUrl? with
  | none => .ok ⟨c.tokenKeysUrl, none⟩
  | some address =>
    match trustedUrl? c.trustedDomains address with
    | some url => .ok ⟨url, none⟩
    | none => .error (untrusted c.trustedDomains address)

/-- The URL of the keys in a discovery document. -/
def discoveredUrl (c : SignatureCheck) (d : Discovery) : Except Error Url :=
  d.keysUrl.mapError fun e =>
    .keyRetrieval c.discoveryUrl.text ("invalid jwks_uri: " ++ e.message)

/-- The source of the keys of IAS. -/
def iasSource (c : SignatureCheck) (t : Token) : Action KeySource := do
  let document ← getDiscovery c.discoveryUrl
  return ⟨← ofExcept (c.discoveredUrl document), t.zoneId?⟩

/-- The source of the keys of a token. -/
def source (c : SignatureCheck) (t : Token) : Action KeySource :=
  match c.service with
  | .xsuaa => ofExcept (c.xsuaaSource t)
  | .ias => c.iasSource t

/-! ## 2. The check -/

/-- The algorithm that a token names. -/
def algorithm (t : Token) : Except Error Algorithm :=
  match t.algorithm? with
  | some name => Algorithm.parse name
  | none => .error (.unsupportedAlgorithm "(missing)")

/-- What is reported about a token without a signature. -/
def unsigned : Error := .invalidSignature "Jwt token has no signature."

/-- What is checked before any keys are looked for. -/
def precheck (t : Token) : Except Error Algorithm := do
  let alg ← algorithm t
  if t.signature.isEmpty then throw unsigned
  return alg

/-- What is logged when a key id is unknown. -/
def unknownLine (source : KeySource) (id : String) : LogLine :=
  .debug ("kid " ++ id ++ " not in cached key set from " ++ source.text ++ "; refreshing")

/-- The set in which the key of a token is looked up. -/
def keysFor (source : KeySource) (alg : Algorithm) (id : Option String) : Action KeySet := do
  let (held, origin) ← getKeys source
  match held.keys.select alg id, origin, id with
  | .error e, .cache, some i => do
    log (unknownLine source i)
    let refreshed ← refreshKeys source
    if refreshed.serial = held.serial then fail e else return refreshed.keys
  | .error e, _, _ => fail e
  | .ok _, _, _ => return held.keys

/-- Checks the signature of a token. -/
def check (c : SignatureCheck) (t : Token) : Action Unit := do
  let alg ← ofExcept (precheck t)
  let source ← c.source t
  let keys ← keysFor source alg t.keyId?
  let key ← ofExcept (keys.select alg t.keyId?)
  ofExcept (key.verify alg t.signingInput t.signature)

end SignatureCheck
end TokenTrust
