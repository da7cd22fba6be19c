/-
# Canonical composition

Two spellings of one text, such as an accented letter and the letter followed by its accent,
have one normal form.  It is made in three steps: take every character apart, bring runs of
marks into the canonical order, and put together what composes with the starter before it.
-/
import TokenTrust.Domain.Property.CombiningClass
import TokenTrust.Domain.Property.Composition
import TokenTrust.Domain.Property.Decomposition

namespace TokenTrust
namespace Domain

/-! ## 1. Hangul syllables

A syllable is a leading consonant, a vowel and an optional trailing consonant, and its code
point is computed from theirs. -/

namespace Hangul

def syllableBase : Nat := 0xAC00
def leadBase : Nat := 0x1100
def vowelBase : Nat := 0x1161
def trailBase : Nat := 0x11A7
def leadCount : Nat := 19
def vowelCount : Nat := 21
def trailCount : Nat := 28
def syllableCount : Nat := leadCount * vowelCount * trailCount

/-- The consonants and the vowel of a syllable. -/
def decompose? (n : Nat) : Option (List Nat) :=
  if syllableBase ≤ n ∧ n < syllableBase + syllableCount then
    let i := n - syllableBase
    let lead := leadBase + i / (vowelCount * trailCount)
    let vowel := vowelBase + i % (vowelCount * trailCount) / trailCount
    let trail := trailBase + i % trailCount
    some (if trail = trailBase then [lead, vowel] else [lead, vowel, trail])
  else none

/-- A syllable from its parts, or from a shorter syllable and a trailing consonant. -/
def compose? (a b : Nat) : Option Nat :=
  if leadBase ≤ a ∧ a < leadBase + leadCount ∧ vowelBase ≤ b ∧ b < vowelBase + vowelCount then
    some (syllableBase + ((a - leadBase) * vowelCount + (b - vowelBase)) * trailCount)
  else if syllableBase ≤ a ∧ a < syllableBase + syllableCount ∧
      (a - syllableBase) % trailCount = 0 ∧ trailBase < b ∧ b < trailBase + trailCount then
    some (a + (b - trailBase))
  else none

end Hangul

/-! ## 2. Taking apart -/

/-- The characters that one is made of. -/
def decompose (c : Char) : List Char :=
  let n := c.toNat
  match Hangul.decompose? n with
  | some parts => parts.map Char.ofNat
  | none => match decompositions.find? n with
    | some parts => parts.map Char.ofNat
    | none => [c]

/-! ## 3. Ordering -/

/-- Puts a mark behind the marks whose class is not greater, at the end of a reversed text. -/
def insertMark (c : Char) (k : Nat) : List Char → List Char
  | [] => [c]
  | d :: ds => if k < combiningClass d then d :: insertMark c k ds else c :: d :: ds

/-- The text with every run of marks in ascending order of classes. -/
def sortMarks (cs : List Char) : List Char :=
  (cs.foldl (fun out c =>
    let k := combiningClass c
    if k = 0 then c :: out else insertMark c k out) []).reverse

/-! ## 4. Putting together -/

/-- What two characters compose to. -/
def compose? (a b : Char) : Option Char :=
  match Hangul.compose? a.toNat b.toNat with
  | some n => some (Char.ofNat n)
  | none => match compositions.find? a.toNat with
    | some pairs => (lookup b.toNat pairs).map Char.ofNat
    | none => none
where
  /-- The number after the given one, in a list of pairs written one after the other. -/
  lookup (key : Nat) : List Nat → Option Nat
    | k :: v :: rest => if k = key then some v else lookup key rest
    | _ => none

/-- A text under composition: what is finished, the last starter, and the marks that did not
compose with it, the last two reversed. -/
structure Composing where
  done : List Char
  starter : Option Char
  marks : List Char

/-- What has been composed so far, reversed. -/
def Composing.all (s : Composing) : List Char :=
  match s.starter with
  | none => s.marks ++ s.done
  | some c => s.marks ++ c :: s.done

/-- Takes in one character.  It composes with the last starter unless a mark of its own class
or of a higher one stands between them. -/
def Composing.push (s : Composing) (c : Char) : Composing :=
  let k := combiningClass c
  let blocked := match s.marks with
    | [] => false
    | m :: _ => k ≤ combiningClass m
  match s.starter with
  | some starter =>
    match if blocked then none else compose? starter c with
    | some composed => { s with starter := some composed }
    | none =>
      if k = 0 then ⟨s.all, some c, []⟩ else { s with marks := c :: s.marks }
  | none => if k = 0 then ⟨s.all, some c, []⟩ else { s with marks := c :: s.marks }

/-- The normal form of a text. -/
def normalize (cs : List Char) : List Char :=
  let parts := sortMarks (cs.flatMap decompose)
  (parts.foldl Composing.push ⟨[], none, []⟩).all.reverse

end Domain
end TokenTrust
