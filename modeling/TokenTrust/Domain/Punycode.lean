/-
# Punycode

A label with characters outside ASCII, written with ASCII alone: its ASCII characters in
order, a hyphen, and then digits that say which other characters stand where.  The
characters are inserted in ascending order of their code points, and one number tells, for
each of them, how many places are passed until it is inserted, counted over all code points
and places.
-/

namespace TokenTrust
namespace Domain
namespace Punycode

/-! ## 1. Digits and the bias -/

/-- The least and the greatest threshold, and the number of digits. -/
def tMin : Nat := 1
def tMax : Nat := 26
def base : Nat := 36

/-- The first bias and the first code point that is inserted. -/
def firstBias : Nat := 72
def firstCode : Nat := 128

/-- The value of a digit, of either case. -/
def digit? (c : Char) : Option Nat :=
  let n := c.toNat
  if 48 ≤ n ∧ n ≤ 57 then some (n - 48 + 26)
  else if 65 ≤ n ∧ n ≤ 90 then some (n - 65)
  else if 97 ≤ n ∧ n ≤ 122 then some (n - 97)
  else none

/-- The digit of a value. -/
def digit (v : Nat) : Char :=
  if v < 26 then Char.ofNat (97 + v) else Char.ofNat (48 + (v - 26))

/-- The threshold of the digit at position `k`. -/
def threshold (k bias : Nat) : Nat :=
  if k ≤ bias + tMin then tMin else if bias + tMax ≤ k then tMax else k - bias

/-- Divides until at most 455 is left, and counts the divisions. -/
def adaptLoop (delta k : Nat) : Nat × Nat :=
  if 455 < delta then adaptLoop (delta / 35) (k + base) else (delta, k)
  termination_by delta

theorem tMin_le_threshold (k bias : Nat) : tMin ≤ threshold k bias := by
  unfold threshold tMin tMax
  split
  · omega
  · split <;> omega

/-- The bias after a character that was `delta` places away. -/
def adapt (delta points : Nat) (first : Bool) : Nat :=
  let d := if first then delta / 700 else delta / 2
  let (d, k) := adaptLoop (d + d / points) 0
  k + 36 * d / (d + 38)

/-! ## 2. Reading -/

/-- The greatest number that is read, and the greatest weight of a digit. -/
def greatest : Nat := 0xFFFFFFFF

/-- Reads one number.  Its last digit is the one below the threshold. -/
def readNumber (bias : Nat) : Nat → Nat → Nat → List Char → Option (Nat × List Char)
  | _, _, _, [] => none
  | i, w, k, c :: cs => do
    let d ← digit? c
    let i := i + d * w
    let t := threshold k bias
    if greatest < i then none
    else if d < t then return (i, cs)
    else if greatest < w * (base - t) then none
    else readNumber bias i (w * (base - t)) (k + base) cs

/-- Reading consumes at least one digit. -/
theorem readNumber_length {bias : Nat} {cs rest : List Char} {i w k n : Nat}
    (h : readNumber bias i w k cs = some (n, rest)) : rest.length < cs.length := by
  induction cs generalizing i w k with
  | nil => simp [readNumber] at h
  | cons c cs ih =>
    simp only [readNumber, Option.bind_eq_bind, Option.bind_eq_some_iff] at h
    obtain ⟨d, _, h⟩ := h
    split at h
    · simp at h
    · split at h
      · simp at h; simp [← h.2]
      · split at h
        · simp at h
        · have := ih h; simp; omega

/-- Inserts the characters that the digits name into `out`. -/
def insertAll (n i bias : Nat) (first : Bool) (out digits : List Char) : Option (List Char) :=
  match _h : digits with
  | [] => some out
  | _ :: _ =>
    match _h' : readNumber bias i 1 base digits with
    | none => none
    | some (j, rest) =>
      let points := out.length + 1
      let code := n + j / points
      let place := j % points
      if code.isValidChar then
        insertAll code (place + 1) (adapt (j - i) points first) false
          (out.insertIdx place (Char.ofNat code)) rest
      else none
  termination_by digits.length
  decreasing_by
    subst _h
    exact readNumber_length ‹_›

/-- The label that a text stands for.  A hyphen at the very front ends no ASCII part, and is
no digit either. -/
def decode (cs : List Char) : Option (List Char) :=
  let reversed := cs.reverse
  let tail := (reversed.takeWhile (· != '-')).reverse
  let head := ((reversed.dropWhile (· != '-')).drop 1).reverse
  let (plain, digits) := if head.isEmpty then ([], cs) else (head, tail)
  insertAll firstCode 0 firstBias true plain digits

/-! ## 3. Writing -/

/-- The digits of one number. -/
def writeNumber (bias : Nat) (q k : Nat) : List Char :=
  let t := threshold k bias
  if _h : q < t ∨ base ≤ t + 1 then [digit q]
  else digit (t + (q - t) % (base - t)) :: writeNumber bias ((q - t) / (base - t)) (k + base)
  termination_by q
  decreasing_by
    have ht := tMin_le_threshold k bias
    show (q - threshold k bias) / (base - threshold k bias) < q
    replace _h : ¬ (q < threshold k bias ∨ base ≤ threshold k bias + 1) := _h
    generalize threshold k bias = t at *
    have hd : (q - t) / (base - t) ≤ (q - t) / 2 := Nat.div_le_div_left (by omega) (by omega)
    simp only [tMin] at ht
    omega

/-- The least code point that is at least `n`. -/
def nextCode? (n : Nat) (cs : List Char) : Option Nat :=
  cs.foldl (fun best c =>
    if n ≤ c.toNat then
      match best with
      | none => some c.toNat
      | some b => some (min b c.toNat)
    else best) none

/-- Where the writer is: places passed since the last insertion, the bias, how many
characters are placed, whether none has been written by number yet, and the digits. -/
structure Progress where
  delta : Nat
  bias : Nat
  placed : Nat
  first : Bool
  digits : List Char

/-- Passes one character of the label, and writes a number if it is the one to insert. -/
def Progress.pass (code : Nat) (p : Progress) (c : Char) : Progress :=
  if c.toNat < code then { p with delta := p.delta + 1 }
  else if c.toNat = code then
    ⟨0, adapt p.delta (p.placed + 1) p.first, p.placed + 1, false,
      p.digits ++ writeNumber p.bias p.delta base⟩
  else p

/-- Inserts the characters from code point `n` on, one code point in each step. -/
def writeAll (cs : List Char) : Nat → Nat → Progress → List Char
  | 0, _, p => p.digits
  | steps + 1, n, p =>
    match nextCode? n cs with
    | none => p.digits
    | some code =>
      let delta := p.delta + (code - n) * (p.placed + 1)
      let p := cs.foldl (Progress.pass code) { p with delta }
      writeAll cs steps (code + 1) { p with delta := p.delta + 1 }

/-- The text of a label. -/
def encode (cs : List Char) : List Char :=
  let plain := cs.filter fun c => c.toNat < 128
  let start := if plain.isEmpty then [] else plain ++ ['-']
  start ++ writeAll cs cs.length firstCode ⟨0, firstBias, plain.length, true, []⟩

end Punycode
end Domain
end TokenTrust
