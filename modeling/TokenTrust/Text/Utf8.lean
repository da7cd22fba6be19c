/-
# UTF-8

Characters to octets and back.  `decode?` accepts exactly the well-formed sequences: no
overlong form, no surrogate, nothing above U+10FFFF, no stray continuation octet.
-/

namespace TokenTrust
namespace Text
namespace Utf8

/-! ## 1. Writing -/

/-- The octets of one code point. -/
def encodeChar (c : Char) : List UInt8 :=
  let n := c.toNat
  if n < 0x80 then [n.toUInt8]
  else if n < 0x800 then [(0xC0 + n / 0x40).toUInt8, (0x80 + n % 0x40).toUInt8]
  else if n < 0x10000 then
    [(0xE0 + n / 0x1000).toUInt8, (0x80 + n / 0x40 % 0x40).toUInt8, (0x80 + n % 0x40).toUInt8]
  else
    [(0xF0 + n / 0x40000).toUInt8, (0x80 + n / 0x1000 % 0x40).toUInt8,
      (0x80 + n / 0x40 % 0x40).toUInt8, (0x80 + n % 0x40).toUInt8]

/-- The octets of a list of characters. -/
def encode (cs : List Char) : List UInt8 :=
  cs.flatMap encodeChar

/-- The octets of a text. -/
def bytes (s : String) : List UInt8 :=
  encode s.toList

/-! ## 2. Reading -/

/-- The six payload bits of a continuation octet. -/
def continuation? (b : UInt8) : Option Nat :=
  if 0x80 ≤ b.toNat ∧ b.toNat ≤ 0xBF then some (b.toNat - 0x80) else none

/-- The character of a code point that needs at least the value `least`. -/
def charFrom? (least n : Nat) : Option Char :=
  if least ≤ n ∧ n.isValidChar then some (Char.ofNat n) else none

/-- The first character of a sequence and what follows it. -/
def first? : List UInt8 → Option (Char × List UInt8)
  | [] => none
  | a :: rest =>
    let n := a.toNat
    if n < 0x80 then some (Char.ofNat n, rest)
    else if n < 0xC0 then none
    else if n < 0xE0 then
      match rest with
      | b :: rest => do
        let x ← continuation? b
        let c ← charFrom? 0x80 ((n - 0xC0) * 0x40 + x)
        return (c, rest)
      | _ => none
    else if n < 0xF0 then
      match rest with
      | b :: b' :: rest => do
        let x ← continuation? b
        let y ← continuation? b'
        let c ← charFrom? 0x800 ((n - 0xE0) * 0x1000 + x * 0x40 + y)
        return (c, rest)
      | _ => none
    else if n < 0xF8 then
      match rest with
      | b :: b' :: b'' :: rest => do
        let x ← continuation? b
        let y ← continuation? b'
        let z ← continuation? b''
        let c ← charFrom? 0x10000 ((n - 0xF0) * 0x40000 + x * 0x1000 + y * 0x40 + z)
        return (c, rest)
      | _ => none
    else none

theorem first?_length {bs rest : List UInt8} {c : Char} (h : first? bs = some (c, rest)) :
    rest.length < bs.length := by
  unfold first? at h
  split at h
  · simp at h
  · next a tail =>
    simp only at h
    split at h
    · simp at h; simp [← h.2]
    · split at h
      · simp at h
      · split at h
        · split at h
          · simp only [Option.bind_eq_bind, Option.bind_eq_some_iff, Option.pure_def,
              Option.some.injEq, Prod.mk.injEq] at h
            obtain ⟨_, _, _, _, _, hr⟩ := h
            subst hr; simp only [List.length_cons]; omega
          · simp at h
        · split at h
          · split at h
            · simp only [Option.bind_eq_bind, Option.bind_eq_some_iff, Option.pure_def,
                Option.some.injEq, Prod.mk.injEq] at h
              obtain ⟨_, _, _, _, _, _, _, hr⟩ := h
              subst hr; simp only [List.length_cons]; omega
            · simp at h
          · split at h
            · split at h
              · simp only [Option.bind_eq_bind, Option.bind_eq_some_iff, Option.pure_def,
                  Option.some.injEq, Prod.mk.injEq] at h
                obtain ⟨_, _, _, _, _, _, _, _, _, hr⟩ := h
                subst hr; simp only [List.length_cons]; omega
              · simp at h
            · simp at h

/-- The characters of a well-formed sequence. -/
def decode? (bs : List UInt8) : Option (List Char) :=
  if bs.isEmpty then some []
  else
    match _h : first? bs with
    | none => none
    | some (c, rest) => (decode? rest).map (c :: ·)
  termination_by bs.length
  decreasing_by exact first?_length ‹_›

/-- The text of a well-formed sequence. -/
def text? (bs : List UInt8) : Option String :=
  (decode? bs).map String.ofList

end Utf8
end Text
end TokenTrust
