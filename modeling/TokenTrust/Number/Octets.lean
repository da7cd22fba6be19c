/-
# Numbers as octets

A natural number and its octets, most significant first.  There are two ways of writing: with
as few octets as possible (`minimal`), and with a given number of them (`fixed`).  Both are read
back by `value`.
-/

namespace TokenTrust
namespace Octets

/-- The number that octets stand for, the most significant first. -/
def value (bs : List UInt8) : Nat :=
  bs.foldl (fun n b => n * 256 + b.toNat) 0

/-- The last `width` octets of a number. -/
def fixed : Nat → Nat → List UInt8
  | 0, _ => []
  | width + 1, n => fixed width (n / 256) ++ [(n % 256).toUInt8]

/-- How many octets a number needs.  Zero needs none. -/
def size (n : Nat) : Nat :=
  if n = 0 then 0 else n.log2 / 8 + 1

/-- The octets of a number without leading zeros. -/
def minimal (n : Nat) : List UInt8 :=
  fixed (size n) n

/-- The octets with as many zeros in front as make `width` of them. -/
def padLeft (width : Nat) (bs : List UInt8) : List UInt8 :=
  List.replicate (width - bs.length) 0 ++ bs

end Octets
end TokenTrust
