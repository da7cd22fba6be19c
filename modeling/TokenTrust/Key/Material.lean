/-
# Key material

What a published key consists of, as it is written: a text that holds a whole key, or the
components of a key one by one.  `Material.publicKey` makes the public key of it.

A text is a PEM block or, without the markers of one, the bare base64 of public key information,
broken by blanks in any way.
-/
import TokenTrust.Key.Info
import TokenTrust.Key.PublicKey
import TokenTrust.Pem

namespace TokenTrust

inductive Material where
  /-- A whole key. -/
  | text (text : String)
  /-- Modulus and exponent. -/
  | rsa (modulus exponent : String)
  /-- A curve and the coordinates of a point. -/
  | ec (curve x y : String)
  deriving DecidableEq, Repr

namespace Material

/-- Whether material can be that of a key of some type.  A text may hold any key. -/
def suits : Material → KeyType → Bool
  | text _, _ => true
  | rsa _ _, keyType => keyType == .rsa
  | ec _ _ _, keyType => keyType == .ec

@[simp] theorem suits_text (t : String) (keyType : KeyType) : (text t).suits keyType = true := rfl

@[simp] theorem suits_rsa (n e : String) : (rsa n e).suits .rsa = true := rfl

@[simp] theorem suits_ec (curve x y : String) : (ec curve x y).suits .ec = true := rfl

/-! ## 1. Faults -/

/-- Why material is no public key. -/
inductive Fault where
  | pem (fault : Pem.Fault)
  | bare (fault : Base64.Fault)
  /-- A PEM block with a label under which such a key is not found. -/
  | label (label : String) (keyType : KeyType)
  | rsaStructure (fault : KeyInfo.Fault)
  | rsaInfo (fault : KeyInfo.Fault)
  | ecInfo (fault : KeyInfo.Fault)
  | noCurve (fault : KeyInfo.Fault)
  | ecKey (curve : CurveName) (fault : KeyInfo.Fault)
  | unsupportedCurve (curve : String)
  | component (name : String) (fault : Base64.Fault)
  | rsaNumbers (fault : Rsa.Fault)
  | coordinateTooLong
  /-- Coordinates of no point of the curve. -/
  | noPoint (curve : CurveName)
  /-- A key of another type than the one that was expected. -/
  | otherType (expected : KeyType)
  deriving DecidableEq, Repr

/-- The wording of a fault. -/
def Fault.message : Fault → String
  | .pem f => "pem parse error: " ++ f.message
  | .bare f => "public key base64 error: " ++ f.message
  | .label found keyType =>
    "pem block '" ++ found ++ "' cannot hold a " ++ keyType.name ++ " public key"
  | .rsaStructure f => "pkcs1 rsa public key error: public key error: " ++ f.message
  | .rsaInfo f => "rsa public key error: " ++ f.message
  | .ecInfo f => "public key info error: " ++ f.message
  | .noCurve f => "ec public key has no named curve: " ++ f.message
  | .ecKey curve f => curve.name ++ " public key error: " ++ f.message
  | .unsupportedCurve curve => "unsupported curve " ++ curve
  | .component name f => "jwk '" ++ name ++ "' is not valid base64url: " ++ f.message
  | .rsaNumbers f => "rsa public key error: " ++ f.message
  | .coordinateTooLong => "ec coordinate too long"
  | .noPoint curve => curve.name ++ " public key error: signature error"
  | .otherType expected => "key material is not of type " ++ expected.name

/-! ## 2. Whole keys -/

/-- The label of public key information. -/
def infoLabel : String := "PUBLIC KEY"

/-- The label of the two numbers of an RSA key. -/
def rsaLabel : String := "RSA PUBLIC KEY"

/-- The mark of a PEM block. -/
def pemMark : List Char := "-----BEGIN".toList

/-- The octets of a text and the label they are found under. -/
def block (text : String) : Except Fault Pem.Block :=
  let text := Text.trim text
  if Text.occurs pemMark text.toList then (Pem.parse text).mapError .pem
  else
    let compact := text.toList.filter fun c => !Text.isBlank c
    match Base64.decode .standard .none (Text.Utf8.encode (Text.dropEnd (· == '=') compact)) with
    | .ok octets => .ok ⟨infoLabel, octets⟩
    | .error f => .error (.bare f)

/-- The point of public key information, on the curve it names. -/
def ecOfInfo (octets : List UInt8) : Except Fault PublicKey := do
  let info ← (KeyInfo.ofOctets octets).mapError .ecInfo
  let id ← info.namedCurve.mapError .noCurve
  match KeyInfo.curveOfId? id with
  | some curve => return .ec curve (← (info.ecKey curve).mapError (.ecKey curve))
  | none => throw (.unsupportedCurve id.text)

/-- The RSA key of public key information. -/
def rsaOfInfo (octets : List UInt8) : Except KeyInfo.Fault Rsa.Numbers := do
  (← KeyInfo.ofOctets octets).rsaKey

/-- The key of a type in a block. -/
def keyOfBlock (keyType : KeyType) (b : Pem.Block) : Except Fault PublicKey :=
  match keyType with
  | .rsa =>
    if b.label = rsaLabel then .rsa <$> (KeyInfo.rsaOfOctets b.octets).mapError .rsaStructure
    else if b.label = infoLabel then .rsa <$> (rsaOfInfo b.octets).mapError .rsaInfo
    else .error (.label b.label .rsa)
  | .ec => if b.label = infoLabel then ecOfInfo b.octets else .error (.label b.label .ec)

/-! ## 3. Components -/

/-- The octets of a component.  Padding at its end is accepted and dropped. -/
def component (name text : String) : Except Fault (List UInt8) :=
  (Base64.decode .urlSafe .none (Text.Utf8.bytes (Text.trimEnd '=' text))).mapError
    (.component name)

/-- A coordinate in the width of its curve.  Zeros in front may be missing. -/
def coordinate (width : Nat) (text : String) : Except Fault (List UInt8) := do
  let octets ← component "coordinate" text
  if width < octets.length then throw .coordinateTooLong
  return Octets.padLeft width octets

/-- The octets of the point with these coordinates. -/
def pointOctets (curve : CurveName) (x y : String) : Except Fault (List UInt8) := do
  let x ← coordinate curve.width x
  let y ← coordinate curve.width y
  return 4 :: (x ++ y)

/-- The RSA key of two components. -/
def rsaOfComponents (modulus exponent : String) : Except Fault PublicKey := do
  let n ← component "n" modulus
  let e ← component "e" exponent
  let numbers : Rsa.Numbers := ⟨Octets.value n, Octets.value e⟩
  .rsa <$> numbers.check.mapError .rsaNumbers

/-- The point of a curve and two components. -/
def ecOfComponents (curve x y : String) : Except Fault PublicKey := do
  let some curve := CurveName.ofName? curve | throw (.unsupportedCurve curve)
  let octets ← pointOctets curve x y
  match curve.point? octets with
  | some p => return .ec curve p
  | none => throw (.noPoint curve)

/-! ## 4. Public keys -/

/-- The public key of a type that the material stands for. -/
def publicKey (keyType : KeyType) : Material → Except Fault PublicKey
  | text t => do keyOfBlock keyType (← block t)
  | rsa n e => rsaOfComponents n e
  | ec curve x y => ecOfComponents curve x y

/-- The name of the kind of material. -/
def kind : Material → String
  | text _ => "pem"
  | rsa _ _ => "rsa"
  | ec _ _ _ => "ec"

end Material
end TokenTrust
