/-
# The cache of discovery documents

Discovery documents that were fetched before, by the URL they were fetched from, each for a limited
time.

The moment at which a document expires is asked for while the cache is being changed.  If it cannot
be told, the crash leaves the cache locked for good, and all who come later are told so.
-/
import TokenTrust.Discovery
import TokenTrust.Text.Quoted
import TokenTrust.Time.Duration

namespace TokenTrust
namespace DiscoveryCache

structure Entry where
  document : Discovery
  expiresAt : Instant
  deriving DecidableEq, Repr

/-- Whether an entry may be used. -/
def Entry.isLive (now : Instant) (e : Entry) : Bool :=
  now < e.expiresAt

end DiscoveryCache

structure DiscoveryCache where
  /-- How long an entry may be used. -/
  ttl : Duration := Duration.ofSeconds 600
  /-- The entries, each URL once. -/
  entries : List (Url × DiscoveryCache.Entry) := []
  /-- Whether somebody crashed while changing the cache. -/
  poisoned : Bool := false
  deriving DecidableEq, Repr

namespace DiscoveryCache

/-- The entry of a URL. -/
def find? (c : DiscoveryCache) (url : Url) : Option Entry :=
  (c.entries.find? (·.1 == url)).map (·.2)

/-- The document of a URL that may be used at some moment. -/
def live? (c : DiscoveryCache) (url : Url) (now : Instant) : Option Discovery :=
  ((c.find? url).filter (·.isLive now)).map (·.document)

/-- Whether the moment can be told at which something expires that is stored at some moment. -/
def expiryTold (c : DiscoveryCache) (now : Instant) : Bool :=
  now.reaches c.ttl

/-- What everybody is told who comes to a poisoned cache. -/
def lockedError : Error :=
  .crypto "oidc configuration cache lock poisoned"

/-- The cache after a document was stored at some moment. -/
def store (c : DiscoveryCache) (url : Url) (document : Discovery) (now : Instant) :
    DiscoveryCache :=
  { c with entries := c.entries.filter (·.1 ≠ url) ++ [(url, ⟨document, now + c.ttl⟩)] }

/-- The text of a cache in diagnostics. -/
def debug (c : DiscoveryCache) : String :=
  Text.record "OidcConfigurationCache" [("cache_ttl", Duration.text c.ttl)]

end DiscoveryCache
end TokenTrust
