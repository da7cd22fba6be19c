/-
# Retrieval of discovery documents

A discovery document comes from the cache while its entry is live, and from the network
otherwise.  A document of which it cannot be told when it expires is not stored: the attempt crashes
and leaves the cache poisoned, and from then on nobody gets a document, live or not.
-/
import TokenTrust.Retrieval.Keys

namespace TokenTrust
namespace Retrieval

open TokenTrust.Action

/-- The document of an answer. -/
def readDiscovery (url : Url) (body : List UInt8) : Except Error Discovery :=
  (Discovery.parse body).mapError fun f =>
    .keyRetrieval url.redacted.text ("invalid discovery document: " ++ f.message)

/-- The cache of discovery documents, for somebody who wants to use it. -/
def usableDiscovery : Action DiscoveryCache := do
  let cache ← discoveryCache
  if cache.poisoned then fail DiscoveryCache.lockedError else return cache

/-- Stores a document, if it can be told when it expires. -/
def storeDiscovery (url : Url) (document : Discovery) : Action Unit := do
  let cache ← usableDiscovery
  let moment ← now
  if cache.expiryTold moment then
    setDiscoveryCache (cache.store url document moment)
  else
    setDiscoveryCache { cache with poisoned := true }
    crash

/-- Fetches the document of a URL and stores it. -/
def fetchDiscovery (url : Url) : Action Discovery := do
  log (.debug ("fetching oidc configuration from " ++ url.redacted.text))
  let body ← ofExcept ((← attempt (request ⟨url, none⟩)).mapError (failureAt url))
  let document ← ofExcept (readDiscovery url body)
  storeDiscovery url document
  return document

/-- The document of a URL. -/
def getDiscovery (url : Url) : Action Discovery := do
  let cache ← usableDiscovery
  match cache.live? url (← now) with
  | some document => return document
  | none => fetchDiscovery url

end Retrieval
end TokenTrust
