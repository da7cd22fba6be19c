/-
# Percent encoding

Octets that a part of a URL cannot hold are written as `%` and two hexadecimal digits in upper
case.  Which ASCII characters these are depends on the part; controls and everything outside
ASCII are always among them.  A `%` itself is kept, so text that is encoded already stays as
it is.
-/
import TokenTrust.Text.CodePoints
import TokenTrust.Text.Utf8

namespace TokenTrust
namespace Url

/-! ## 1. What each part encodes -/

/-- The ASCII characters, controls aside, that a part of a URL does not hold. -/
abbrev EncodeSet := List Char

/-- For an opaque path and an opaque host: only controls. -/
def controlSet : EncodeSet := []

def fragmentSet : EncodeSet := [' ', '"', '<', '>', '`']

def pathSet : EncodeSet := fragmentSet ++ ['#', '?', '{', '}']

def userinfoSet : EncodeSet := pathSet ++ ['/', ':', ';', '=', '@', '[', '\\', ']', '^', '|']

def querySet : EncodeSet := [' ', '"', '#', '<', '>']

/-- The query of a URL with a special scheme. -/
def specialQuerySet : EncodeSet := querySet ++ ['\'']

/-! ## 2. Encoding -/

/-- A hexadecimal digit in upper case. -/
def upperHex (v : Nat) : Char :=
  if v < 10 then Char.ofNat (48 + v) else Char.ofNat (55 + v)

/-- One octet as `%` and two digits. -/
def percentOctet (b : UInt8) : List Char :=
  ['%', upperHex (b.toNat / 16), upperHex (b.toNat % 16)]

/-- A character as a part of a URL holds it. -/
def encodeChar (set : EncodeSet) (c : Char) : List Char :=
  if c.toNat < 0x20 ∨ 0x7F ≤ c.toNat ∨ set.contains c then
    (Text.Utf8.encodeChar c).flatMap percentOctet
  else [c]

/-- A text as a part of a URL holds it. -/
def encode (set : EncodeSet) (cs : List Char) : List Char :=
  cs.flatMap (encodeChar set)

/-! ## 3. Decoding -/

/-- The octets of a text, each `%` with two hexadecimal digits read as one octet. -/
def percentDecode : List UInt8 → List UInt8
  | a :: b :: c :: rest =>
    if a = 37 then
      match Text.hexDigit? (Char.ofNat b.toNat), Text.hexDigit? (Char.ofNat c.toNat) with
      | some x, some y => (x * 16 + y).toUInt8 :: percentDecode rest
      | _, _ => a :: percentDecode (b :: c :: rest)
    else a :: percentDecode (b :: c :: rest)
  | bs => bs

end Url
end TokenTrust
