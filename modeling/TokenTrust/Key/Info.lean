/-
# Public key information

The structure in which certificates and key files carry a public key: an algorithm with its
parameters, and the key itself as a bit string.

    SubjectPublicKeyInfo ::= SEQUENCE (AlgorithmIdentifier, BIT STRING)
    AlgorithmIdentifier  ::= SEQUENCE (OBJECT IDENTIFIER, parameters OPTIONAL)
    RSAPublicKey         ::= SEQUENCE (INTEGER, INTEGER)

For RSA the parameters are null and the bit string holds the structure with both numbers; on an
elliptic curve the parameters name the curve and the bit string holds a point.
-/
import TokenTrust.Asn1.ObjectId
import TokenTrust.Curve.Basic
import TokenTrust.Signature.Rsa

namespace TokenTrust

/-- An algorithm and a key in octets. -/
structure KeyInfo where
  algorithm : Asn1.ObjectId
  parameters : Option Asn1.Element
  key : Asn1.BitString
  deriving DecidableEq, Repr

namespace KeyInfo

open Asn1

/-! ## 1. Faults -/

/-- Why no key could be read. -/
inductive Fault where
  /-- The octets do not follow the rules of the encoding. -/
  | encoding
  | parametersMissing
  /-- Another algorithm, or another curve, than the expected one. -/
  | algorithm (expected : ObjectId)
  /-- The parts are there and make no key. -/
  | malformed
  deriving DecidableEq, Repr

/-- The wording of a fault. -/
def Fault.message : Fault → String
  | .encoding => "ASN.1 error"
  | .parametersMissing => "AlgorithmIdentifier parameters missing"
  | .algorithm expected => "unknown/unsupported algorithm OID: " ++ expected.text
  | .malformed => "SPKI cryptographic key data malformed"

/-- A value or the fault that the encoding is broken. -/
def encoded {α : Type} : Option α → Except Fault α
  | some a => .ok a
  | none => .error .encoding

/-! ## 2. Structures -/

/-- An algorithm and its parameters. -/
def readAlgorithm : Reader (ObjectId × Option Element) :=
  Asn1.sequence do
    let id ← ObjectId.read
    if (← get).isEmpty then return (id, none)
    return (id, some (← element))

/-- Public key information. -/
def read : Reader KeyInfo :=
  Asn1.sequence do
    let (algorithm, parameters) ← readAlgorithm
    return { algorithm, parameters, key := ← bitString }

/-- The public key information of octets. -/
def ofOctets (bs : List UInt8) : Except Fault KeyInfo :=
  encoded (whole read bs)

/-- The two numbers of an RSA key. -/
def readNumbers : Reader Rsa.Numbers :=
  Asn1.sequence do
    let modulus ← natural
    let exponent ← natural
    return { modulus, exponent }

/-! ## 3. Keys of RSA -/

/-- The element that stands for no parameters. -/
def nullElement : Element := ⟨Tag.null, []⟩

/-- An RSA key given by the structure of its two numbers. -/
def rsaOfOctets (bs : List UInt8) : Except Fault Rsa.Numbers := do
  let numbers ← encoded (whole readNumbers bs)
  numbers.check.mapError fun _ => .malformed

/-- The RSA key of public key information. -/
def rsaKey (info : KeyInfo) : Except Fault Rsa.Numbers := do
  if info.algorithm ≠ ObjectId.rsaEncryption then throw (.algorithm ObjectId.rsaEncryption)
  let some parameters := info.parameters | throw .parametersMissing
  if parameters ≠ nullElement then throw .malformed
  let some bs := info.key.octets? | throw .malformed
  rsaOfOctets bs

/-! ## 4. Keys on curves -/

/-- The identifier of a curve. -/
def curveId : CurveName → ObjectId
  | .p256 => ObjectId.ofArcs [1, 2, 840, 10045, 3, 1, 7]
  | .p384 => ObjectId.ofArcs [1, 3, 132, 0, 34]
  | .p521 => ObjectId.ofArcs [1, 3, 132, 0, 35]

/-- The curve of an identifier. -/
def curveOfId? (id : ObjectId) : Option CurveName :=
  [CurveName.p256, .p384, .p521].find? (curveId · == id)

/-- The identifier that the parameters consist of. -/
def namedCurve (info : KeyInfo) : Except Fault ObjectId := do
  let some parameters := info.parameters | throw .parametersMissing
  if parameters.tag ≠ Tag.objectId then throw .encoding
  encoded (ObjectId.ofContents? parameters.contents)

/-- The point of public key information whose parameters name this curve. -/
def ecKey (info : KeyInfo) (curve : CurveName) : Except Fault Point := do
  if info.algorithm ≠ ObjectId.ecPublicKey then throw (.algorithm ObjectId.ecPublicKey)
  let bs ← encoded info.key.octets?
  encoded (curve.point? bs)

end KeyInfo
end TokenTrust
