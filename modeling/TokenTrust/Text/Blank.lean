/-
# Blank characters and cuts

The one notion of "blank" of the library is the Unicode property White_Space, a closed list of
twenty-five code points.  Everything that strips a text strips these, at both ends.

The second half cuts a text at a separator.  `cut` never loses a character: `join_cut` puts
the pieces back together.
-/

namespace TokenTrust
namespace Text

/-! ## 1. Blank characters -/

/-- The code points with the property White_Space. -/
def isBlank (c : Char) : Bool :=
  let n := c.toNat
  (9 ≤ n && n ≤ 13) || n == 0x20 || n == 0x85 || n == 0xA0 || n == 0x1680 ||
    (0x2000 ≤ n && n ≤ 0x200A) || n == 0x2028 || n == 0x2029 || n == 0x202F || n == 0x205F ||
    n == 0x3000

/-- The characters left of the longest tail on which `p` holds throughout. -/
def dropEnd (p : Char → Bool) (cs : List Char) : List Char :=
  (cs.reverse.dropWhile p).reverse

/-- Strip the characters on which `p` holds from both ends. -/
def strip (p : Char → Bool) (cs : List Char) : List Char :=
  dropEnd p (cs.dropWhile p)

/-- Strip blanks from both ends. -/
def trim (s : String) : String :=
  String.ofList (strip isBlank s.toList)

/-- Remove every trailing occurrence of one character. -/
def trimEnd (c : Char) (s : String) : String :=
  String.ofList (dropEnd (· == c) s.toList)

/-- A text that holds something else than blanks. -/
def hasInk (s : String) : Bool :=
  s.toList.any fun c => !isBlank c

/-- Letters `A` to `Z` in lower case; every other character is kept. -/
def lower (s : String) : String :=
  String.ofList (s.toList.map Char.toLower)

/-! ## 2. Cutting at a separator -/

/-- The pieces between the occurrences of `sep`.  There is always at least one. -/
def cut (sep : Char) : List Char → List (List Char)
  | [] => [[]]
  | c :: cs =>
    if c = sep then [] :: cut sep cs
    else match cut sep cs with
      | [] => [[c]]
      | p :: ps => (c :: p) :: ps

/-- The pieces, with `sep` between each two. -/
def join (sep : Char) : List (List Char) → List Char
  | [] => []
  | [p] => p
  | p :: ps => p ++ sep :: join sep ps

/-- The pieces of a text between the occurrences of `sep`, as texts. -/
def pieces (sep : Char) (s : String) : List String :=
  (cut sep s.toList).map String.ofList

/-- What stands before the first `sep`, or the whole text. -/
def before (sep : Char) (s : String) : String :=
  String.ofList (s.toList.takeWhile (· != sep))

/-- Whether `needle` occurs somewhere in the text. -/
def occurs (needle : List Char) : List Char → Bool
  | [] => needle.isEmpty
  | c :: cs => needle.isPrefixOf (c :: cs) || occurs needle cs

theorem cut_ne_nil (sep : Char) (cs : List Char) : cut sep cs ≠ [] := by
  cases cs with
  | nil => simp [cut]
  | cons c cs =>
    simp only [cut]
    split
    · simp
    · split <;> simp

/-- **Nothing is lost.**  The pieces joined by the separator are the text again. -/
theorem join_cut (sep : Char) (cs : List Char) : join sep (cut sep cs) = cs := by
  induction cs with
  | nil => rfl
  | cons c cs ih =>
    simp only [cut]
    split
    · next h =>
      obtain ⟨p, ps, hp⟩ := List.exists_cons_of_ne_nil (cut_ne_nil sep cs)
      rw [hp] at ih
      simp [hp, join, ih, h]
    · split
      · next h => exact absurd h (cut_ne_nil sep cs)
      · next p ps h =>
        rw [h] at ih
        cases ps with
        | nil => simpa [join] using ih
        | cons q qs => simpa [join] using ih

end Text
end TokenTrust
