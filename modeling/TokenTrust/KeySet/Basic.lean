/-
# Sets of keys

The keys that one place publishes, in the order in which they were published.  Of several keys
with the same type and id the first is kept, so type and id name at most one key.

`select` picks the key for a token.  With a key id it is the key of that id and no other.  Without
one it is the key of the default id, or else the only key that may verify the algorithm; where
several may, none is picked.
-/
import TokenTrust.Key.Basic
import TokenTrust.Log

namespace TokenTrust

structure KeySet where
  keys : List Key
  deriving DecidableEq, Repr

namespace KeySet

/-! ## 1. Making sets -/

def empty : KeySet := ⟨[]⟩

/-- The set with one more key, unless its type and id are taken. -/
def insert? (s : KeySet) (k : Key) : Option KeySet :=
  if s.keys.any (k.sameSlot ·) then none else some ⟨s.keys ++ [k]⟩

/-- The set with one more key, or as it is. -/
def insert (s : KeySet) (k : Key) : KeySet :=
  (s.insert? k).getD s

/-- The set of some keys. -/
def ofList (ks : List Key) : KeySet :=
  ks.foldl insert empty

/-- What is logged about a key that is not inserted. -/
def duplicateLine (k : Key) : LogLine :=
  .warn ("duplicate json web key dropped; kid=" ++ k.id ++ ", kty=" ++ k.keyType.name)

/-- What is logged when some keys are inserted one after another. -/
def insertLog : KeySet → List Key → List LogLine
  | _, [] => []
  | s, k :: ks =>
    (if (s.insert? k).isNone then [duplicateLine k] else []) ++ insertLog (s.insert k) ks

/-! ## 2. Looking up -/

def isEmpty (s : KeySet) : Bool := s.keys.isEmpty

def size (s : KeySet) : Nat := s.keys.length

/-- The key of a type and an id.  No id is the default id. -/
def find? (s : KeySet) (keyType : KeyType) (id : Option String) : Option Key :=
  s.keys.find? fun k => k.keyType == keyType && k.id == id.getD Key.defaultId

/-- Whether there is a key of a type and an id. -/
def contains (s : KeySet) (keyType : KeyType) (id : Option String) : Bool :=
  (s.find? keyType id).isSome

/-- The keys that may verify signatures of an algorithm. -/
def candidates (s : KeySet) (alg : Algorithm) : List Key :=
  s.keys.filter (·.supports alg)

/-- The key of an id, if it may verify signatures of an algorithm. -/
def supporting? (s : KeySet) (alg : Algorithm) (id : Option String) : Option Key :=
  (s.find? alg.keyType id).filter (·.supports alg)

/-! ## 3. Picking a key -/

/-- Why no key is picked. -/
inductive NoKey where
  /-- No key has this id and may verify the algorithm. -/
  | unknown (id : String)
  /-- No key may verify the algorithm. -/
  | none
  /-- Several keys may. -/
  | ambiguous (count : Nat)
  deriving DecidableEq, Repr

/-- The wording, for a token signed with an algorithm. -/
def NoKey.message (alg : Algorithm) : NoKey → String
  | .unknown id =>
    "There is no Json Web Token Key with keyId '" ++ id ++ "' and type '" ++ alg.keyType.name ++
      "' to prove the identity of the Jwt."
  | .none =>
    "There is no Json Web Token Key of type '" ++ alg.keyType.name ++ "' compatible with " ++
      alg.name ++ " (kid missing)."
  | .ambiguous count =>
    "Jwt has no kid and " ++ toString count ++ " keys of type '" ++ alg.keyType.name ++
      "' are compatible with " ++ alg.name ++ "."

/-- The key for a token. -/
def pick (s : KeySet) (alg : Algorithm) : Option String → Except NoKey Key
  | some id =>
    match s.supporting? alg (some id) with
    | some k => .ok k
    | none => .error (.unknown id)
  | none =>
    match s.supporting? alg none with
    | some k => .ok k
    | none =>
      match s.candidates alg with
      | [k] => .ok k
      | [] => .error .none
      | several => .error (.ambiguous several.length)

/-- The key for a token, with the reason as an error. -/
def select (s : KeySet) (alg : Algorithm) (id : Option String) : Except Error Key :=
  (s.pick alg id).mapError fun why => .noMatchingKey (why.message alg)

end KeySet
end TokenTrust
