/-
# Key-set documents

The document in which a place publishes its keys: an object whose member `keys` lists entries.
The document is refused only if it is no such object; an entry that cannot be used is passed over
and reported, so one bad entry does not take the others with it.

An entry is judged by its members in a fixed order, and the report names the first thing that is
wrong with it.
-/
import TokenTrust.Json.Document
import TokenTrust.KeySet.Basic

namespace TokenTrust
namespace KeyDocument

/-! ## 1. Entries -/

/-- The members of an entry.  Each is a text or missing. -/
structure Entry where
  keyType : Option String
  id : Option String
  algorithm : Option String
  use : Option String
  modulus : Option String
  exponent : Option String
  curve : Option String
  x : Option String
  y : Option String
  /-- A whole key. -/
  value : Option String
  deriving DecidableEq, Repr

/-- A text, or nothing for `null`. -/
def textOrNull? : Json.Value → Option (Option String)
  | .string s => some (some s)
  | .null => some none
  | _ => none

/-- A member that is a text, `null` or missing. -/
def member? (ms : Json.Members) (name : String) : Option (Option String) :=
  match ms.get? name with
  | some v => textOrNull? v
  | none => some none

/-- The names of the members, in the order in which a list gives them. -/
def memberNames : List String :=
  ["kty", "kid", "alg", "use", "n", "e", "crv", "x", "y", "value"]

/-- The entry of its members in order. -/
def Entry.ofList? : List (Option String) → Option Entry
  | [keyType, id, algorithm, use, modulus, exponent, curve, x, y, value] =>
    some ⟨keyType, id, algorithm, use, modulus, exponent, curve, x, y, value⟩
  | _ => none

/-- The entry that a value stands for.  A list has to give every member. -/
def Entry.ofValue? : Json.Value → Option Entry
  | .object ms => do Entry.ofList? (← memberNames.mapM (member? ms))
  | .array items => do Entry.ofList? (← items.mapM textOrNull?)
  | _ => none

/-! ## 2. Judgement -/

/-- Why an entry is passed over. -/
inductive Reason where
  /-- No entry at all. -/
  | malformed
  | unsupportedKeyType
  | unsupportedAlgorithm
  /-- The key is published for another purpose. -/
  | notForSignature
  | missingKeyMaterial
  /-- An earlier entry has the same type and id. -/
  | duplicate
  deriving DecidableEq, Repr

/-- The name of a reason. -/
def Reason.name : Reason → String
  | .malformed => "Malformed"
  | .unsupportedKeyType => "UnsupportedKeyType"
  | .unsupportedAlgorithm => "UnsupportedAlgorithm"
  | .notForSignature => "NotForSignature"
  | .missingKeyMaterial => "MissingKeyMaterial"
  | .duplicate => "Duplicate"

/-- The algorithm of an entry.  It has to be one of the key's type. -/
def Entry.algorithmFor (e : Entry) (keyType : KeyType) : Except Reason (Option Algorithm) :=
  match e.algorithm with
  | none => .ok none
  | some name =>
    match Algorithm.ofName? name with
    | some a => if a.keyType = keyType then .ok (some a) else .error .unsupportedAlgorithm
    | none => .error .unsupportedAlgorithm

/-- The material of an entry, for a key of its type.  A whole key comes before components. -/
def Entry.materialFor (e : Entry) (keyType : KeyType) :
    Except Reason { m : Material // m.suits keyType = true } :=
  match e.value.filter Text.hasInk with
  | some t => .ok ⟨.text t, Material.suits_text t keyType⟩
  | none =>
    match keyType with
    | .rsa =>
      match e.modulus, e.exponent with
      | some n, some e => .ok ⟨.rsa n e, Material.suits_rsa n e⟩
      | _, _ => .error .missingKeyMaterial
    | .ec =>
      match e.curve, e.x, e.y with
      | some curve, some x, some y => .ok ⟨.ec curve x y, Material.suits_ec curve x y⟩
      | _, _, _ => .error .missingKeyMaterial

/-- The key of an entry. -/
def Entry.key (e : Entry) : Except Reason Key := do
  let some keyType := e.keyType.bind KeyType.ofName? | throw .unsupportedKeyType
  if e.use.any (· ≠ "sig") then throw .notForSignature
  let algorithm ← e.algorithmFor keyType
  let material ← e.materialFor keyType
  return ⟨keyType, algorithm, Key.effectiveId e.id, material.1, material.2⟩

/-! ## 3. Reports -/

/-- An entry that was passed over. -/
structure Skipped where
  id : Option String
  keyType : Option String
  reason : Reason
  deriving DecidableEq, Repr

/-- What is logged about it. -/
def Skipped.line (s : Skipped) : LogLine :=
  .warn ("jwks key skipped; kid=" ++ s.id.getD "<none>" ++ ", kty=" ++ s.keyType.getD "<none>" ++
    ", reason=" ++ s.reason.name)

/-- The key of a value, or the report about it. -/
def judge (v : Json.Value) : Except Skipped Key :=
  match Entry.ofValue? v with
  | none => .error ⟨none, none, .malformed⟩
  | some e => e.key.mapError fun reason => ⟨e.id, e.keyType, reason⟩

/-- The keys of a document, what was passed over, and what was logged, each in the order of the
document. -/
structure Report where
  keys : KeySet
  skipped : List Skipped
  log : List LogLine
  deriving DecidableEq, Repr

def Report.empty : Report := ⟨.empty, [], []⟩

/-- The report with one more entry. -/
def Report.add (r : Report) (v : Json.Value) : Report :=
  match judge v with
  | .error s => { r with skipped := r.skipped ++ [s], log := r.log ++ [s.line] }
  | .ok k =>
    match r.keys.insert? k with
    | some keys => { r with keys }
    | none => { r with
        skipped := r.skipped ++ [⟨some k.id, some k.keyType.name, .duplicate⟩]
        log := r.log ++ [KeySet.duplicateLine k] }

/-- The report on some entries. -/
def report (entries : List Json.Value) : Report :=
  entries.foldl Report.add .empty

/-! ## 4. Documents -/

/-- How deep lists and objects of an entry may be nested: two fewer than in a document. -/
def entryDepth : Nat := Json.Reader.depthLimit - 2

/-- The entries of a document.  Without the member `keys` there are none. -/
def entries : Json.Reader (List Json.Value) :=
  Json.Reader.fields "struct RawJwks"
    (return (← Json.Reader.field? true (Json.Reader.listOnly entryDepth)).getD [])
    none
    (fun known name => do
      if name = "keys" then
        return some (← Json.Reader.once "keys" known (Json.Reader.listOnly entryDepth))
      else
        Json.Reader.ignoreMember
        return known)
    (fun known => .ok (known.getD []))

/-- The report on a document. -/
def parse (document : List UInt8) : Except Json.Fault Report :=
  (Json.Reader.run entries document).map report

end KeyDocument
end TokenTrust
