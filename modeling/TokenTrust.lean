import TokenTrust.Check.Builder
import TokenTrust.Http.Fetch
import TokenTrust.Number.Laws
import TokenTrust.Proofs.Action
import TokenTrust.Proofs.Cache
import TokenTrust.Proofs.Retrieval
import TokenTrust.Proofs.Signature
import TokenTrust.Proofs.Text
import TokenTrust.Proofs.Token
import TokenTrust.Proofs.Keys
import TokenTrust.Proofs.Acceptance
import TokenTrust.Proofs.Operation
import TokenTrust.Proofs.Transparency
import TokenTrust.Proofs.Provenance
import TokenTrust.Proofs.Confinement
import TokenTrust.Proofs.Curve
import TokenTrust.Proofs.Material
import TokenTrust.Proofs.Room
import TokenTrust.Proofs.RateLimit
import TokenTrust.Proofs.Callers
import TokenTrust.Proofs.Gates
import TokenTrust.Proofs.Exclusion
import TokenTrust.Proofs.Disguise
import TokenTrust.Proofs.Credentials
import TokenTrust.Proofs.Chain
import TokenTrust.Proofs.Progress
import TokenTrust.Proofs.Coalescing
import TokenTrust.Proofs.Locality
import TokenTrust.Proofs.Turns
import TokenTrust.Proofs.Failure
import TokenTrust.Proofs.Budget
import TokenTrust.Proofs.Endpoint
import TokenTrust.Proofs.Rediscovery
import TokenTrust.Proofs.Independence
import TokenTrust.Proofs.Binary64
import TokenTrust.Proofs.Dates
import TokenTrust.Proofs.Base64
import TokenTrust.Proofs.Compact
import TokenTrust.Proofs.Rotation
import TokenTrust.Proofs.Selection
import TokenTrust.Proofs.Entries
import TokenTrust.Proofs.Reading
import TokenTrust.Proofs.Writing
import TokenTrust.Proofs.KeyDocument
import TokenTrust.Proofs.Components
import TokenTrust.Proofs.Idle
import TokenTrust.Proofs.Armor
import TokenTrust.Proofs.Der
import TokenTrust.Proofs.Formats
import TokenTrust.Proofs.Primitive
import TokenTrust.Proofs.Validity
import TokenTrust.Proofs.Issuer
import TokenTrust.Proofs.Audience
import TokenTrust.Proofs.Lifetime
import TokenTrust.Proofs.Scopes
import TokenTrust.Proofs.Assembly
import TokenTrust.Proofs.Joining
import TokenTrust.Proofs.Deadlock
import TokenTrust.Proofs.Leftovers
import TokenTrust.Proofs.Eviction
import TokenTrust.Proofs.ErrorPages
import TokenTrust.Proofs.Moments
