/-
# Sources of keys

Keys are published at an address, and an identity service with many tenants may publish other
keys for each of them at the same address.  A source is both, and two sources are the same
only if both are: no tenant is another source than the empty one.
-/
import TokenTrust.Url.Basic

namespace TokenTrust

structure KeySource where
  url : Url
  tenant : Option String
  deriving DecidableEq, Repr

namespace KeySource

/-- A source as messages show it: the URL without its secrets, and the tenant. -/
def text (s : KeySource) : String :=
  match s.tenant with
  | none => s.url.redacted.text
  | some t => s.url.redacted.text ++ " (tenant " ++ t ++ ")"

end KeySource
end TokenTrust
