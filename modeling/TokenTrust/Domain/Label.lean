/-
# Labels of a domain name

A label outside ASCII is held to rules that keep it readable: it is in normal form, it starts
with no combining mark, an invisible joiner stands only where the script needs one, and in a
name with characters written from right to left every label has one direction.
-/
import TokenTrust.Domain.Normal
import TokenTrust.Domain.Property.BidiClass
import TokenTrust.Domain.Property.JoiningType
import TokenTrust.Domain.Property.Mapping
import TokenTrust.Domain.Property.Mark

namespace TokenTrust
namespace Domain

/-! ## 1. Characters -/

/-- The ASCII characters that no name may hold: controls, the blank, and those with a meaning
in a URL. -/
def isForbidden (c : Char) : Bool :=
  c.toNat ≤ 0x20 || c.toNat == 0x7F || "%#/:<>?@[\\]^|".toList.contains c

/-- The characters one is replaced by, or nothing if it is refused. -/
def mapChar? (c : Char) : Option (List Char) :=
  match fate c.toNat with
  | .keep => some [c]
  | .drop => some []
  | .refuse => none
  | .replace targets => some (targets.map Char.ofNat)

/-- Whether a character is kept as it is. -/
def isKept (c : Char) : Bool :=
  fate c.toNat == .keep

/-! ## 2. Joiners -/

/-- The two invisible joiners. -/
def nonJoiner : Char := Char.ofNat 0x200C
def joiner : Char := Char.ofNat 0x200D

/-- Whether a joiner after `before` (reversed) and in front of `after` has a use: after a
virama, or, for the non-joiner, between letters that would join. -/
def joinerHasUse (c : Char) (before after : List Char) : Bool :=
  let afterVirama := match before with
    | [] => false
    | b :: _ => combiningClass b == viramaClass
  let joining (cs : List Char) (types : List JoiningType) : Bool :=
    match cs.dropWhile (joiningType · == .transparent) with
    | [] => false
    | x :: _ => types.contains (joiningType x)
  afterVirama ||
    (c == nonJoiner && joining before [.left, .dual] && joining after [.right, .dual])

/-- Whether every joiner of a label has a use.  The first argument is what stands before,
reversed. -/
def joinersHaveUse : List Char → List Char → Bool
  | _, [] => true
  | before, c :: cs =>
    (if c == nonJoiner || c == joiner then joinerHasUse c before cs else true) &&
      joinersHaveUse (c :: before) cs

/-! ## 3. Labels outside ASCII -/

/-- Whether a label may stand in a name as it is. -/
def isValidLabel (cs : List Char) : Bool :=
  cs.all isKept && normalize cs == cs &&
    (match cs with
      | [] => true
      | c :: _ => !marks.contains c.toNat) &&
    joinersHaveUse [] cs

/-! ## 4. Direction -/

/-- Whether a character makes its name one with two directions. -/
def isRightToLeft (c : Char) : Bool :=
  match bidiClass c with
  | .R | .AL | .AN => true
  | _ => false

/-- The classes that a label from right to left may hold. -/
def rightToLeftClasses : List BidiClass :=
  [.R, .AL, .AN, .EN, .ES, .CS, .ET, .ON, .BN, .NSM]

/-- The classes that a label from left to right may hold. -/
def leftToRightClasses : List BidiClass :=
  [.L, .EN, .ES, .CS, .ET, .ON, .BN, .NSM]

/-- Whether a label has one direction.  Its first character tells which; marks at the end
are passed over to find the character that has to end it. -/
def hasOneDirection (cs : List Char) : Bool :=
  match cs.map bidiClass with
  | [] => true
  | first :: rest =>
    let classes := first :: rest
    let last := (classes.reverse.dropWhile (· == .NSM)).head?
    if first == .R || first == .AL then
      classes.all rightToLeftClasses.contains &&
        (match last with
          | some k => [BidiClass.R, .AL, .EN, .AN].contains k
          | none => false) &&
        !(classes.contains .EN && classes.contains .AN)
    else if first == .L then
      classes.all leftToRightClasses.contains &&
        (match last with
          | some k => [BidiClass.L, .EN].contains k
          | none => false)
    else false

end Domain
end TokenTrust
