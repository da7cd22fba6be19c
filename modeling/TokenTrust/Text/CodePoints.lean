/-
# Tables over code points

A property of code points is a table of ranges in ascending order.  It is written as a text of
hexadecimal ranges, `first-last` or a single code point, each with an optional value after a
colon, and separated by blanks or line breaks; `RangeMap.read` turns the text into rows once,
and `RangeMap.find?` looks a code point up by halving.
-/

namespace TokenTrust
namespace Text

/-! ## 1. Reading the written form -/

/-- The value of a hexadecimal digit, of either case. -/
def hexDigit? (c : Char) : Option Nat :=
  let n := c.toNat
  if 48 ≤ n ∧ n ≤ 57 then some (n - 48)
  else if 97 ≤ n ∧ n ≤ 102 then some (n - 87)
  else if 65 ≤ n ∧ n ≤ 70 then some (n - 55)
  else none

/-- The number written by hexadecimal digits; other characters count as zero. -/
def hexValue (cs : List Char) : Nat :=
  cs.foldl (fun n c => 16 * n + (hexDigit? c).getD 0) 0

/-- The numbers between the dots of a text. -/
def dotted (cs : List Char) : List Nat :=
  let (number, rest) := cs.foldr (fun c (number, rest) =>
    if c = '.' then ([], number :: rest) else (c :: number, rest)) ([], [])
  (number :: rest).map hexValue

/-- The words of a text, without the blanks and line breaks between them. -/
def words (cs : List Char) : List (List Char) :=
  let (word, rest) := cs.foldr (fun c (word, rest) =>
    if c = ' ' ∨ c = '\n' then ([], word :: rest) else (c :: word, rest)) ([], [])
  (word :: rest).filter (!·.isEmpty)

/-! ## 2. Rows and look-up -/

/-- Ranges of code points in ascending order, with a value each. -/
structure RangeMap (α : Type) where
  rows : Array (Nat × Nat × α)

namespace RangeMap

variable {α : Type}

/-- One row of the written form: `first-last:value`. -/
def readRow (value : List Char → α) (word : List Char) : Nat × Nat × α :=
  let range := word.takeWhile (· != ':')
  let rest := (word.dropWhile (· != ':')).drop 1
  let first := range.takeWhile (· != '-')
  let last := (range.dropWhile (· != '-')).drop 1
  (hexValue first, hexValue (if last.isEmpty then first else last), value rest)

/-- The table of a written form. -/
def read (value : List Char → α) (text : String) : RangeMap α :=
  ⟨((words text.toList).map (readRow value)).toArray⟩

/-- The row that holds `n` among those from `low` up to but not including `high`. -/
def search (rows : Array (Nat × Nat × α)) (n : Nat) : Nat → Nat → Nat → Option (Nat × α)
  | 0, _, _ => none
  | fuel + 1, low, high =>
    if high ≤ low then none
    else
      let middle := (low + high) / 2
      match rows[middle]? with
      | none => none
      | some (first, last, value) =>
        if n < first then search rows n fuel low middle
        else if last < n then search rows n fuel (middle + 1) high
        else some (n - first, value)

/-- How far a code point is into its range, and the value of the range. -/
def locate? (t : RangeMap α) (n : Nat) : Option (Nat × α) :=
  search t.rows n (t.rows.size + 1) 0 t.rows.size

/-- The value of a code point. -/
def find? (t : RangeMap α) (n : Nat) : Option α :=
  (t.locate? n).map (·.2)

/-- Whether a code point is in one of the ranges. -/
def contains (t : RangeMap α) (n : Nat) : Bool :=
  (t.locate? n).isSome

end RangeMap
end Text
end TokenTrust
