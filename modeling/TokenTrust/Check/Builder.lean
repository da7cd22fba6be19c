/-
# The usual chain

The checks that belong to a configuration, in the order in which they run: the dates of the token,
its audience, with XSUAA its issuer, its signature, and then whatever is added.  The cheap ones come
first, so a token that they refuse costs no request.

A chain is put together by calls (`ChainDraft.Call`).  Of most kinds of calls the last one counts,
but validators that are added are all kept.  The check of the signature uses two caches, which
several chains may share; those that a draft is not told are made for its chain.
-/
import TokenTrust.Check.Audience
import TokenTrust.Check.Issuer
import TokenTrust.Check.Signature
import TokenTrust.Check.Timestamp
import TokenTrust.Check.Validator

namespace TokenTrust

/-! ## 1. Options -/

/-- What a chain is built from. -/
structure ChainOptions where
  config : Config
  /-- A second instance of the service, tokens of which are also accepted. -/
  other : Option Config := none
  /-- Takes the place of the audience check. -/
  audience : Option Validator := none
  skew : Option Duration := none
  trustedDomains : Option (List String) := none
  /-- Run after all others. -/
  added : List Validator := []

namespace ChainOptions

/-- What is reported about something that a configuration does not say. -/
def lacks (what : String) : Error :=
  .configuration (what ++ " requires an application id")

/-- What an application of XSUAA is known by. -/
def identity (what : String) (c : Config) : Except Error Identity :=
  match c.appId with
  | some appId => .ok ⟨appId, c.clientId⟩
  | none => .error (lacks what)

/-- The identities of the configurations. -/
def identities (o : ChainOptions) : Except Error (List Identity) := do
  let first ← identity "XSUAA configuration" o.config
  match o.other with
  | none => return [first]
  | some other => return [first, ← identity "second XSUAA configuration" other]

/-- The client ids of the configurations. -/
def clientIds (o : ChainOptions) : List String :=
  o.config.clientId :: (o.other.map (·.clientId)).toList

/-- The audience check that belongs to the service. -/
def defaultAudience (o : ChainOptions) : Except Error Validator :=
  match o.config.service with
  | .xsuaa => do return Validator.ofCheck (Identity.check (← o.identities))
  | .ias => .ok (Validator.ofCheck (ClientIds.check o.clientIds))

/-- The audience check. -/
def audienceCheck (o : ChainOptions) : Except Error Validator :=
  match o.audience with
  | some v => .ok v
  | none => o.defaultAudience

/-- The issuer check, which only XSUAA has. -/
def issuerChecks (o : ChainOptions) : Except Error (List Validator) :=
  match o.config.service, o.config.domain with
  | .ias, _ => .ok []
  | .xsuaa, some domain => .ok [Validator.ofCheck (Issuer.check domain)]
  | .xsuaa, none =>
    .error (.configuration "XSUAA configuration requires an identity provider domain")

/-- The signature check. -/
def signatureCheck (o : ChainOptions) : Except Error SignatureCheck := do
  let c ← SignatureCheck.ofConfig o.config
  match o.trustedDomains with
  | some trustedDomains => return { c with trustedDomains }
  | none => return c

/-- The chain, if nothing is missing. -/
def build (o : ChainOptions) : Except Error Chain := do
  let dates := Validator.ofDated (Timestamp.check (o.skew.getD Timestamp.defaultSkew))
  let audience ← o.audienceCheck
  let issuer ← o.issuerChecks
  let signature ← o.signatureCheck
  return ⟨dates :: audience :: (issuer ++ Validator.ofAction signature.check :: o.added)⟩

end ChainOptions

/-! ## 2. Drafts -/

/-- A chain that is being put together.  Caches are known by references, `κ` to caches of key sets
and `δ` to caches of discovery documents. -/
structure ChainDraft (κ δ : Type) extends ChainOptions where
  keyCache : Option κ := none
  discoveryCache : Option δ := none

/-- A chain, and the caches that its check of the signature uses. -/
structure CachedChain (κ δ : Type) where
  chain : Chain
  keyCache : κ
  discoveryCache : δ

namespace ChainDraft

variable {κ δ : Type}

/-- What a draft may be told. -/
inductive Call (κ δ : Type) where
  | add (v : Validator)
  | audience (v : Validator)
  | keyCache (cache : κ)
  | discoveryCache (cache : δ)
  | other (config : Option Config)
  | skew (skew : Duration)
  | trustedDomains (domains : List String)

/-- The draft of a chain for a configuration. -/
def new (config : Config) : ChainDraft κ δ := { config }

/-- The draft after a call.  A validator is added behind those before it, and anything else takes
the place of what was said before. -/
def tell (d : ChainDraft κ δ) : Call κ δ → ChainDraft κ δ
  | .add v => { d with added := d.added ++ [v] }
  | .audience v => { d with audience := some v }
  | .keyCache cache => { d with keyCache := some cache }
  | .discoveryCache cache => { d with discoveryCache := some cache }
  | .other config => { d with other := config }
  | .skew skew => { d with skew := some skew }
  | .trustedDomains domains => { d with trustedDomains := some domains }

/-- The draft after some calls. -/
def after (d : ChainDraft κ δ) (calls : List (Call κ δ)) : ChainDraft κ δ :=
  calls.foldl tell d

/-- The chain, if nothing is missing, given how caches are made.  What the configurations do not
say is reported before a cache is made. -/
def build (newKeyCache : Except Error κ) (newDiscoveryCache : Except Error δ)
    (d : ChainDraft κ δ) : Except Error (CachedChain κ δ) := do
  let _ ← d.audienceCheck
  let _ ← d.issuerChecks
  let keyCache ← d.keyCache.elim newKeyCache .ok
  let discoveryCache ← d.discoveryCache.elim newDiscoveryCache .ok
  return { chain := ← d.toChainOptions.build, keyCache, discoveryCache }

end ChainDraft
end TokenTrust
