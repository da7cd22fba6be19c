/-
# Published keys

A key as an identity service publishes it: its id, its type, perhaps the one algorithm it is meant
for, and its material.  The material is looked at when the key is used, so a key that cannot be
used is still there under its id.

Two keys are the same key for a set if they have type and id in common (`sameSlot`), whatever
else they hold.
-/
import TokenTrust.Key.Material
import TokenTrust.Text.Quoted

namespace TokenTrust

structure Key where
  keyType : KeyType
  algorithm : Option Algorithm
  id : String
  material : Material
  /-- The material can be that of a key of this type. -/
  suited : material.suits keyType = true
  deriving DecidableEq, Repr

namespace Key

/-! ## 1. Making keys -/

/-- The id of keys that are published without one. -/
def defaultId : String := "default-kid"

/-- The id under which a key is kept.  An empty one is none. -/
def effectiveId (id : Option String) : String :=
  match id with
  | some i => if i.isEmpty then defaultId else i
  | none => defaultId

/-- A key of RSA components. -/
def rsa (algorithm : Option Algorithm) (id : Option String) (modulus exponent : String) : Key :=
  { keyType := .rsa, algorithm, id := effectiveId id, material := .rsa modulus exponent,
    suited := Material.suits_rsa modulus exponent }

/-- A key of the components of a point. -/
def ec (algorithm : Option Algorithm) (id : Option String) (curve x y : String) : Key :=
  { keyType := .ec, algorithm, id := effectiveId id, material := .ec curve x y,
    suited := Material.suits_ec curve x y }

/-- A key of a text. -/
def text (keyType : KeyType) (algorithm : Option Algorithm) (id : Option String)
    (text : String) : Key :=
  { keyType, algorithm, id := effectiveId id, material := .text text,
    suited := Material.suits_text text keyType }

/-! ## 2. Properties -/

/-- Whether two keys compete for one place in a set. -/
def sameSlot (k l : Key) : Bool :=
  k.keyType == l.keyType && k.id == l.id

/-- The curve, as far as it is known without reading a text. -/
def curveName? (k : Key) : Option String :=
  match k.material with
  | .ec curve _ _ => some curve
  | _ => none

/-- Whether the curve is the one the algorithm needs, as far as both are known. -/
def curveAgrees (k : Key) (alg : Algorithm) : Bool :=
  match k.curveName?, alg.curve? with
  | some own, some needed => own == needed.name
  | _, _ => true

/-- Whether a key may verify signatures of an algorithm, judged without reading its material. -/
def supports (k : Key) (alg : Algorithm) : Bool :=
  k.keyType == alg.keyType && k.algorithm.all (· == alg) && k.curveAgrees alg

/-- The text of a key in diagnostics.  It does not show the material. -/
def debug (k : Key) : String :=
  Text.record "JsonWebKey" [
    ("key_type", k.keyType.debug),
    ("algorithm", match k.algorithm with
      | some a => "Some(" ++ a.name ++ ")"
      | none => "None"),
    ("id", Text.quote k.id),
    ("format", Text.quote k.material.kind)]

/-! ## 3. Use -/

/-- What is reported when the material is no key. -/
def unusable (k : Key) (f : Material.Fault) : Error :=
  .crypto ("json web key '" ++ k.id ++ "' is unusable: " ++ (Error.crypto f.message).message)

/-- The public key that the material stands for, if it is of the type of the key. -/
def materialKey (k : Key) : Except Material.Fault PublicKey := do
  let key ← k.material.publicKey k.keyType
  if key.keyType = k.keyType then return key else throw (.otherType k.keyType)

/-- The public key. -/
def publicKey (k : Key) : Except Error PublicKey :=
  k.materialKey.mapError k.unusable

/-- What is reported when a key is asked to verify signatures that are not for it. -/
def cannotVerify (k : Key) (alg : Algorithm) : Error :=
  .invalidSignature
    ("key '" ++ k.id ++ "' of type " ++ k.keyType.name ++ " cannot verify " ++ alg.name)

/-- Checks a signature. -/
def verify (k : Key) (alg : Algorithm) (message signature : List UInt8) : Except Error Unit := do
  if !k.supports alg then throw (k.cannotVerify alg)
  (← k.publicKey).verify alg message signature

end Key
end TokenTrust
