/-
# Object identifiers

An identifier is a path of numbers, its arcs.  Two identifiers are the same if their octets are,
and they are shown by their arcs.

The first octet holds the first two arcs.  Each further arc is written with seven bits in an
octet, and the high bit says that it goes on.  An arc has at most five octets, the last of which
then has to be small, and counts modulo `2 ^ 32`.
-/
import TokenTrust.Asn1.Der

namespace TokenTrust
namespace Asn1

structure ObjectId where
  octets : List UInt8
  deriving DecidableEq, Repr

namespace ObjectId

/-! ## 1. Writing -/

/-- The seven-bit groups of a number in front of those already written. -/
def arcBefore (n : Nat) (later : List UInt8) : List UInt8 :=
  if n < 128 then (n + 128).toUInt8 :: later
  else arcBefore (n / 128) ((n % 128 + 128).toUInt8 :: later)

/-- The octets of an arc. -/
def arcOctets (n : Nat) : List UInt8 :=
  if n < 128 then [n.toUInt8] else arcBefore (n / 128) [(n % 128).toUInt8]

/-- The identifier of some arcs. -/
def ofArcs : List Nat → ObjectId
  | first :: second :: rest => ⟨(first * 40 + second).toUInt8 :: rest.flatMap arcOctets⟩
  | _ => ⟨[]⟩

/-! ## 2. Reading -/

/-- The arc of an octet sequence, given the value and the number of the octets before. -/
def arc? : Nat → Nat → List UInt8 → Option (Nat × List UInt8)
  | _, _, [] => none
  | n, count, b :: rest =>
    if count ≥ 4 ∧ 0x10 ≤ b then none
    else
      let n' := (n * 128 + b.toNat % 128) % 0x100000000
      if b < 0x80 then some (n', rest) else arc? n' (count + 1) rest

theorem arc?_length {n count : Nat} {bs rest : List UInt8} {a : Nat}
    (h : arc? n count bs = some (a, rest)) : rest.length < bs.length := by
  induction bs generalizing n count with
  | nil => simp [arc?] at h
  | cons b bs ih =>
    simp only [arc?] at h
    split at h
    · simp at h
    · split at h
      · simp at h; simp [← h.2]
      · have := ih h; simp; omega

/-- The arcs after the first two. -/
def laterArcs? (bs : List UInt8) : Option (List Nat) :=
  if bs.isEmpty then some []
  else
    match _h : arc? 0 0 bs with
    | none => none
    | some (a, rest) => (laterArcs? rest).map (a :: ·)
  termination_by bs.length
  decreasing_by exact arc?_length ‹_›

/-- All arcs. -/
def arcs? (id : ObjectId) : Option (List Nat) :=
  match id.octets with
  | [] => none
  | b :: rest =>
    if b.toNat / 40 > 2 then none
    else (laterArcs? rest).map fun later => b.toNat / 40 :: b.toNat % 40 :: later

/-- The arcs with a dot between each two. -/
def text (id : ObjectId) : String :=
  ".".intercalate ((id.arcs?.getD []).map toString)

/-- The identifier of the contents of an element: three octets at least, 39 at most. -/
def ofContents? (bs : List UInt8) : Option ObjectId :=
  let id : ObjectId := ⟨bs⟩
  if 3 ≤ bs.length ∧ bs.length ≤ 39 ∧ id.arcs?.isSome then some id else none

/-- An identifier. -/
def read : Reader ObjectId := do
  let bs ← contents Tag.objectId
  ofContents? bs

/-! ## 3. Those of public keys -/

/-- Keys of RSA. -/
def rsaEncryption : ObjectId := ofArcs [1, 2, 840, 113549, 1, 1, 1]

/-- Keys on elliptic curves. -/
def ecPublicKey : ObjectId := ofArcs [1, 2, 840, 10045, 2, 1]

end ObjectId
end Asn1
end TokenTrust
