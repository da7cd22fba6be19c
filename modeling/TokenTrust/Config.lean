/-
# Configuration of an identity service

What one application knows about the identity service that issues its tokens.  A `Draft` is
filled in step by step, the last value given for a field counts, and `Draft.build` turns it
into a `Config` or names the first thing that is missing.

A `Config` has a URL with a host, so the two places below it that the library asks for,
`tokenKeysUrl` and `discoveryUrl`, always exist.
-/
import TokenTrust.Error
import TokenTrust.Text.Quoted
import TokenTrust.Url.Parse

namespace TokenTrust

/-! ## 1. Services -/

/-- The two families of identity services. -/
inductive Service where
  | xsuaa
  | ias
  deriving DecidableEq, Repr

namespace Service

/-- The name of a service in messages. -/
def label : Service → String
  | .xsuaa => "XSUAA"
  | .ias => "IAS"

/-- The name of a service in diagnostics. -/
def debug : Service → String
  | .xsuaa => "Xsuaa"
  | .ias => "Ias"

end Service

/-! ## 2. Configurations -/

structure Config where
  service : Service
  clientId : String
  clientSecret : Option String
  url : Url
  /-- The domain of the identity provider, in lower case and without a final dot. -/
  domain : Option String
  appId : Option String
  /-- Further values by name, each name once. -/
  properties : List (String × String)
  deriving DecidableEq

namespace Config

/-- The segments of the place where XSUAA publishes its keys. -/
def tokenKeysSegments : List String := ["token_keys"]

/-- The segments of the place of a discovery document. -/
def discoverySegments : List String := [".well-known", "openid-configuration"]

/-- A place below a service URL. -/
def place (base : Url) (segments : List String) : Except Error Url :=
  match base.below? segments with
  | some u => .ok u
  | none => .error (.invalidBaseUrl base.text)

def tokenKeysUrl (c : Config) : Except Error Url :=
  place c.url tokenKeysSegments

def discoveryUrl (c : Config) : Except Error Url :=
  place c.url discoverySegments

/-- A further value. -/
def property? (c : Config) (name : String) : Option String :=
  (c.properties.find? (·.1 == name)).map (·.2)

def hasProperty (c : Config) (name : String) : Bool :=
  c.properties.any (·.1 == name)

/-- The text of a configuration in diagnostics.  It never holds the secret, and of further
values only the names. -/
def debug (c : Config) : String :=
  Text.record "OAuth2ServiceConfiguration" [
    ("service", c.service.debug),
    ("client_id", Text.quote c.clientId),
    ("client_secret", Text.quoteOption (c.clientSecret.map fun _ => "<redacted>")),
    ("url", Text.quote c.url.text),
    ("domain", Text.quoteOption c.domain),
    ("app_id", Text.quoteOption c.appId),
    ("properties", Text.quoteList (c.properties.map (·.1)))]

/-! ## 3. Drafts -/

/-- A configuration that is being put together. -/
structure Draft where
  service : Service
  clientId : Option String := none
  clientSecret : Option String := none
  url : Option String := none
  domain : Option String := none
  appId : Option String := none
  properties : List (String × String) := []

namespace Draft

/-- A draft without any values. -/
def new (service : Service) : Draft := { service }

/-- The draft with a further value; it replaces one of the same name. -/
def setProperty (d : Draft) (name value : String) : Draft :=
  { d with properties := (d.properties.filter (·.1 != name)) ++ [(name, value)] }

/-- The domain as it is compared: without blanks around it and dots at its end, in lower
case.  An empty one is none. -/
def normalDomain? (domain : String) : Option String :=
  let d := Text.lower (Text.trimEnd '.' (Text.trim domain))
  if d.isEmpty then none else some d

/-- The configuration, if nothing is missing. -/
def build (d : Draft) : Except Error Config := do
  let some clientId := d.clientId.filter Text.hasInk
    | throw (.configuration (d.service.label ++ " configuration requires a client id"))
  let some address := d.url
    | throw (.configuration (d.service.label ++ " configuration requires a url"))
  let url ← (Url.parse address).mapError .url
  if url.host?.isNone then throw (.invalidBaseUrl url.text)
  return {
    service := d.service
    clientId
    clientSecret := d.clientSecret
    url
    domain := d.domain.bind normalDomain?
    appId := d.appId.filter (· ≠ "")
    properties := d.properties }

end Draft
end Config
end TokenTrust
