/-
# Retrieval of key sets

Keys of a source come from the cache while its entry is live, and from the network otherwise.  A
refresh goes to the network although there is a live entry, unless that entry is younger than
the least interval between two refreshes.

Both happen in two stages.  First the cache is looked at.  If that does not help, the caller waits
until nobody else fetches from the source, looks again, since a set may have been stored while it
waited, and only then fetches.  A set is stored when it has been read completely, so a failure
changes nothing.

Whether an entry is too young is known only if the moment can be told until which it is, and a set
is stored only if the moment can be told at which it expires.
-/
import TokenTrust.Action
import TokenTrust.KeySet.Document

namespace TokenTrust
namespace Retrieval

open TokenTrust.Action

/-- Where a set came from. -/
inductive Origin where
  | cache
  | network
  deriving DecidableEq, Repr

/-! ## 1. Fetching -/

/-- An error as a failure to retrieve something from a URL.  What is one already stays as it
is. -/
def failureAt (url : Url) (e : Error) : Error :=
  match e with
  | .keyRetrieval _ _ => e
  | _ => .keyRetrieval url.redacted.text e.message

/-- What is logged about a failure. -/
def failureLine (source : KeySource) (e : Error) : LogLine :=
  .warn ("json web key retrieval from " ++ source.text ++ " failed: " ++ e.message)

/-- The value, or failure to retrieve something from a source, which is logged. -/
def orFailure {α : Type} (source : KeySource) : Except Error α → Action α
  | .ok a => pure a
  | .error e => do
    log (failureLine source e)
    fail (failureAt source.url e)

/-- The moment at which a set is stored, if it can be told when that expires. -/
def dateKeys : Action Instant := do
  let moment ← now
  insist ((← keyCache).expiryTold moment)
  return moment

/-- Stores a set. -/
def storeKeys (source : KeySource) (keys : KeySet) : Action HeldKeys := do
  let moment ← dateKeys
  let (held, cache) := (← keyCache).store source keys moment
  setKeyCache cache
  return held

/-- Fetches the keys of a source and stores them. -/
def fetchKeys (source : KeySource) : Action HeldKeys := do
  log (.debug ("fetching json web keys from " ++ source.text))
  let body ← orFailure source (← attempt (request source))
  let report ← orFailure source ((KeyDocument.parse body).mapError .json)
  logAll report.log
  if report.keys.isEmpty then
    log (.warn ("key set from " ++ source.text ++ " contains no usable keys"))
  storeKeys source report.keys

/-! ## 2. Getting -/

/-- Looks for a set that may be used. -/
def lookForKeys (source : KeySource) : Action (Option HeldKeys) := do
  let cache ← keyCache
  return cache.live? source (← now)

/-- The second stage of getting, when nobody else fetches from the source. -/
def getKeysExclusively (source : KeySource) : Action (HeldKeys × Origin) := do
  match ← lookForKeys source with
  | some held => return (held, .cache)
  | none => return (← fetchKeys source, .network)

/-- The keys of a source and where they came from. -/
def getKeys (source : KeySource) : Action (HeldKeys × Origin) := do
  match ← lookForKeys source with
  | some held => return (held, .cache)
  | none => getKeysExclusively source

/-! ## 3. Refreshing -/

/-- Looks for a set that may be used and is too young to be fetched again. -/
def lookForRecentKeys (source : KeySource) (requestedAt : Instant) : Action (Option HeldKeys) := do
  let cache ← keyCache
  insist (cache.intervalTold source)
  return cache.recent? source requestedAt (← now)

/-- What is logged about a refresh that does not go to the network. -/
def limitedLine (source : KeySource) : LogLine :=
  .debug ("key set refresh for " ++ source.text ++ " rate limited")

/-- The first stage of a refresh: when it was requested, and the set if there is no need to
fetch. -/
def beginRefresh (source : KeySource) : Action (Instant × Option HeldKeys) := do
  let requestedAt ← now
  let found ← lookForRecentKeys source requestedAt
  if found.isSome then log (limitedLine source)
  return (requestedAt, found)

/-- The second stage of a refresh, when nobody else fetches from the source. -/
def refreshKeysExclusively (source : KeySource) (requestedAt : Instant) : Action HeldKeys := do
  match ← lookForRecentKeys source requestedAt with
  | some held => return held
  | none => fetchKeys source

/-- The keys of a source, fetched again unless that has just been done. -/
def refreshKeys (source : KeySource) : Action HeldKeys := do
  match ← beginRefresh source with
  | (_, some held) => return held
  | (requestedAt, none) => refreshKeysExclusively source requestedAt

/-- Forgets all sets. -/
def clearKeys : Action Unit := do
  setKeyCache (← keyCache).clear

end Retrieval
end TokenTrust
