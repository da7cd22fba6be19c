/-
# Signature algorithms

The six algorithms that a token may be signed with.  Each belongs to one type of key, and
those on elliptic curves to one curve; every other name is refused.
-/
import TokenTrust.Error

namespace TokenTrust

/-! ## 1. Key types -/

inductive KeyType where
  | rsa
  | ec
  deriving DecidableEq, Repr

namespace KeyType

def name : KeyType → String
  | .rsa => "RSA"
  | .ec => "EC"

/-- The type of a name. -/
def ofName? (name : String) : Option KeyType :=
  if name = "RSA" then some .rsa else if name = "EC" then some .ec else none

/-- The name of a type in diagnostics. -/
def debug : KeyType → String
  | .rsa => "Rsa"
  | .ec => "Ec"

end KeyType

/-! ## 2. Curves -/

/-- The curves of the algorithms. -/
inductive CurveName where
  | p256
  | p384
  | p521
  deriving DecidableEq, Repr

namespace CurveName

def name : CurveName → String
  | .p256 => "P-256"
  | .p384 => "P-384"
  | .p521 => "P-521"

/-- The curve of a name. -/
def ofName? (name : String) : Option CurveName :=
  if name = "P-256" then some .p256
  else if name = "P-384" then some .p384
  else if name = "P-521" then some .p521
  else none

/-- The number of octets of a coordinate. -/
def width : CurveName → Nat
  | .p256 => 32
  | .p384 => 48
  | .p521 => 66

end CurveName

/-! ## 3. Algorithms -/

inductive Algorithm where
  | rs256
  | rs384
  | rs512
  | es256
  | es384
  | es512
  deriving DecidableEq, Repr

namespace Algorithm

/-- All algorithms. -/
def all : List Algorithm := [.rs256, .rs384, .rs512, .es256, .es384, .es512]

def name : Algorithm → String
  | .rs256 => "RS256"
  | .rs384 => "RS384"
  | .rs512 => "RS512"
  | .es256 => "ES256"
  | .es384 => "ES384"
  | .es512 => "ES512"

/-- The algorithm of a name, which has to be spelled exactly. -/
def ofName? (name : String) : Option Algorithm :=
  all.find? (·.name == name)

/-- The algorithm of a name, or the error that there is none. -/
def parse (name : String) : Except Error Algorithm :=
  match ofName? name with
  | some a => .ok a
  | none => .error (.unsupportedAlgorithm name)

/-- The type of key that signs with it. -/
def keyType : Algorithm → KeyType
  | .rs256 | .rs384 | .rs512 => .rsa
  | .es256 | .es384 | .es512 => .ec

/-- The curve it needs. -/
def curve? : Algorithm → Option CurveName
  | .es256 => some .p256
  | .es384 => some .p384
  | .es512 => some .p521
  | _ => none

end Algorithm
end TokenTrust
