/-
# Public keys

A public key is either a pair of RSA numbers or a point of a named curve, and an algorithm can be
used with it only if it is of that family and on that curve (`fits`).  Whether the octets of a
signature satisfy the scheme of the algorithm is `accepts`; `verify` puts both together and words
the refusals.
-/
import TokenTrust.Signature.Ecdsa
import TokenTrust.Signature.Rsa

namespace TokenTrust

inductive PublicKey where
  | rsa (numbers : Rsa.Numbers)
  | ec (curve : CurveName) (point : Point)
  deriving DecidableEq, Repr

namespace PublicKey

def keyType : PublicKey → KeyType
  | rsa _ => .rsa
  | ec _ _ => .ec

/-- The text of a public key in diagnostics.  It does not show the key. -/
def debug : PublicKey → String
  | rsa _ => "PublicKey(\"RSA\")"
  | ec curve _ => "PublicKey(\"EC " ++ curve.name ++ "\")"

/-- The hash function of the RSA algorithms. -/
def rsaHash? : Algorithm → Option Rsa.Hash
  | .rs256 => some .sha256
  | .rs384 => some .sha384
  | .rs512 => some .sha512
  | _ => none

/-- Whether an algorithm can be used with a public key. -/
def fits (key : PublicKey) (alg : Algorithm) : Bool :=
  match key with
  | rsa _ => alg.keyType = .rsa
  | ec curve _ => alg.curve? = some curve

/-- Whether octets are a signature of a message. -/
def accepts (key : PublicKey) (alg : Algorithm) (message signature : List UInt8) : Bool :=
  match key with
  | rsa numbers =>
    match rsaHash? alg with
    | some h => Rsa.accepts h numbers message signature
    | none => false
  | ec curve point => key.fits alg && Ecdsa.accepts curve point message signature

/-- What a signature of the wrong length is told. -/
def wrongLength (expected found : Nat) : Error :=
  .invalidSignature
    ("ecdsa signature must be " ++ toString expected ++ " bytes, got " ++ toString found)

/-- Checks a signature. -/
def verify (key : PublicKey) (alg : Algorithm) (message signature : List UInt8) :
    Except Error Unit := do
  if !key.fits alg then
    throw (.invalidSignature ("public key does not match algorithm " ++ alg.name))
  match key with
  | rsa _ =>
    if !key.accepts alg message signature then
      throw (.invalidSignature "signature error: verification error")
  | ec curve _ =>
    if signature.length ≠ 2 * curve.width then
      throw (wrongLength (2 * curve.width) signature.length)
    if !key.accepts alg message signature then
      throw (.invalidSignature "signature error")

end PublicKey
end TokenTrust
