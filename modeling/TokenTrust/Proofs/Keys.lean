/-
# Which keys verify what

`Signed` says when octets are a signature of a message under a public key: a line for each
algorithm, with the family of the key or its curve, the length where there is one, and the scheme
with its hash function.  Verification decides it (`PublicKey.verify_eq_ok_iff`), and a key that was
picked from a set is fit for the algorithm it was picked for (`KeySet.supports_of_select`), so
nothing stands between picking a key and the scheme but the material of the key
(`Key.verify_eq_ok_iff`).
-/
import TokenTrust.KeySet.Basic

namespace TokenTrust

/-! ## 1. Algorithms -/

namespace Algorithm

/-- The algorithm of a name is the one that has this name. -/
theorem ofName?_eq_some_iff {name : String} {alg : Algorithm} :
    ofName? name = some alg ↔ alg.name = name := by
  constructor
  · intro h
    simpa using List.find?_some h
  · rintro rfl
    cases alg <;> decide

theorem parse_eq_ok_iff {name : String} {alg : Algorithm} :
    parse name = .ok alg ↔ alg.name = name := by
  rw [← ofName?_eq_some_iff, parse]
  cases ofName? name with
  | none => simp
  | some a => simp

end Algorithm

/-! ## 2. Signatures -/

/-- Whether octets are a signature of a message under a public key, for an algorithm. -/
inductive Signed : Algorithm → PublicKey → List UInt8 → List UInt8 → Prop
  | rs256 {n : Rsa.Numbers} {message signature : List UInt8}
    (h : Rsa.accepts .sha256 n message signature = true) :
    Signed .rs256 (.rsa n) message signature
  | rs384 {n : Rsa.Numbers} {message signature : List UInt8}
    (h : Rsa.accepts .sha384 n message signature = true) :
    Signed .rs384 (.rsa n) message signature
  | rs512 {n : Rsa.Numbers} {message signature : List UInt8}
    (h : Rsa.accepts .sha512 n message signature = true) :
    Signed .rs512 (.rsa n) message signature
  | es256 {q : Point} {message signature : List UInt8} (hl : signature.length = 2 * 32)
    (h : Ecdsa.accepts .p256 q message signature = true) :
    Signed .es256 (.ec .p256 q) message signature
  | es384 {q : Point} {message signature : List UInt8} (hl : signature.length = 2 * 48)
    (h : Ecdsa.accepts .p384 q message signature = true) :
    Signed .es384 (.ec .p384 q) message signature
  | es512 {q : Point} {message signature : List UInt8} (hl : signature.length = 2 * 66)
    (h : Ecdsa.accepts .p521 q message signature = true) :
    Signed .es512 (.ec .p521 q) message signature

namespace Signed

variable {alg : Algorithm} {key : PublicKey} {message signature : List UInt8}

/-- A signature is made with a key of the algorithm's family. -/
theorem keyType_eq (h : Signed alg key message signature) : key.keyType = alg.keyType := by
  cases h <;> rfl

/-- **On a curve, it is the curve of the algorithm**, and the signature is two numbers of its
width. -/
theorem of_curve {curve : CurveName} (h : Signed alg key message signature)
    (hc : alg.curve? = some curve) :
    (∃ q, key = .ec curve q) ∧ signature.length = 2 * curve.width := by
  cases h with
  | rs256 | rs384 | rs512 => exact nomatch hc
  | es256 hl => cases hc; exact ⟨⟨_, rfl⟩, hl⟩
  | es384 hl => cases hc; exact ⟨⟨_, rfl⟩, hl⟩
  | es512 hl => cases hc; exact ⟨⟨_, rfl⟩, hl⟩

end Signed

namespace PublicKey

/-- The algorithms of RSA are those that have a hash function with it. -/
theorem fits_rsa (n : Rsa.Numbers) (alg : Algorithm) :
    (rsa n).fits alg = (rsaHash? alg).isSome := by
  cases alg <;> rfl

/-- Verification under RSA numbers is the scheme, for the algorithms of RSA. -/
theorem verify_rsa_eq_ok_iff {n : Rsa.Numbers} {alg : Algorithm}
    {message signature : List UInt8} :
    (rsa n).verify alg message signature = .ok () ↔
      ∃ h, rsaHash? alg = some h ∧ Rsa.accepts h n message signature = true := by
  cases hh : rsaHash? alg with
  | none => simp [verify, fits_rsa, hh, bind, Except.bind]
  | some h =>
    have ha : (rsa n).accepts alg message signature = Rsa.accepts h n message signature := by
      simp only [accepts, hh]
    cases hs : Rsa.accepts h n message signature with
    | true => simp [verify, fits_rsa, hh, ha, hs, pure, Except.pure]
    | false => simp [verify, fits_rsa, hh, ha, hs]

/-- Verification under a point is the scheme of its curve, for the algorithm of that curve, and the
length is checked before. -/
theorem verify_ec_eq_ok_iff {curve : CurveName} {q : Point} {alg : Algorithm}
    {message signature : List UInt8} :
    (ec curve q).verify alg message signature = .ok () ↔
      alg.curve? = some curve ∧ signature.length = 2 * curve.width ∧
        Ecdsa.accepts curve q message signature = true := by
  by_cases hf : alg.curve? = some curve
  · by_cases hl : signature.length = 2 * curve.width
    · have ha : (ec curve q).accepts alg message signature =
          Ecdsa.accepts curve q message signature := by
        simp [accepts, fits, hf]
      cases hs : Ecdsa.accepts curve q message signature with
      | true => simp [verify, fits, ha, hf, hl, hs, pure, Except.pure]
      | false => simp [verify, fits, ha, hf, hl, hs]
    · simp [verify, fits, hf, hl, bind, Except.bind]
  · simp [verify, fits, hf, bind, Except.bind]

/-- **Verification decides what is signed.** -/
theorem verify_eq_ok_iff {key : PublicKey} {alg : Algorithm} {message signature : List UInt8} :
    key.verify alg message signature = .ok () ↔ Signed alg key message signature := by
  cases key with
  | rsa n =>
    rw [verify_rsa_eq_ok_iff]
    constructor
    · rintro ⟨h, ha, hs⟩
      cases alg with
      | rs256 => cases ha; exact .rs256 hs
      | rs384 => cases ha; exact .rs384 hs
      | rs512 => cases ha; exact .rs512 hs
      | es256 | es384 | es512 => exact nomatch ha
    · intro h
      cases h with
      | rs256 h => exact ⟨_, rfl, h⟩
      | rs384 h => exact ⟨_, rfl, h⟩
      | rs512 h => exact ⟨_, rfl, h⟩
  | ec curve q =>
    rw [verify_ec_eq_ok_iff]
    constructor
    · rintro ⟨hc, hl, hs⟩
      cases alg with
      | rs256 | rs384 | rs512 => exact nomatch hc
      | es256 => cases hc; exact .es256 hl hs
      | es384 => cases hc; exact .es384 hl hs
      | es512 => cases hc; exact .es512 hl hs
    · intro h
      cases h with
      | es256 hl h => exact ⟨rfl, hl, h⟩
      | es384 hl h => exact ⟨rfl, hl, h⟩
      | es512 hl h => exact ⟨rfl, hl, h⟩

end PublicKey

/-! ## 3. Keys of a set -/

namespace Key

/-- What it takes to be fit for an algorithm. -/
theorem supports_iff {k : Key} {alg : Algorithm} :
    k.supports alg = true ↔
      k.keyType = alg.keyType ∧ (∀ own, k.algorithm = some own → own = alg) ∧
        k.curveAgrees alg = true := by
  rw [supports, Bool.and_eq_true, Bool.and_eq_true, beq_iff_eq, and_assoc]
  cases k.algorithm with
  | none => simp
  | some own => simp

/-- A key that is fit verifies what its public key verifies. -/
theorem verify_eq_ok_iff {k : Key} {alg : Algorithm} {message signature : List UInt8}
    (hk : k.supports alg = true) :
    k.verify alg message signature = .ok () ↔
      ∃ key, k.publicKey = .ok key ∧ Signed alg key message signature := by
  simp only [verify, hk, Bool.not_true, Bool.false_eq_true, if_false]
  cases hp : k.publicKey with
  | error e => simp [bind, Except.bind]
  | ok key => simp [bind, Except.bind, PublicKey.verify_eq_ok_iff]

end Key

namespace KeySet

variable {s : KeySet} {alg : Algorithm} {id : Option String} {k : Key}

theorem select_eq_ok_iff : s.select alg id = .ok k ↔ s.pick alg id = .ok k := by
  cases h : s.pick alg id with
  | error e => simp [select, h]
  | ok k' => simp [select, h]

theorem mem_supports_of_supporting? (h : s.supporting? alg id = some k) :
    k ∈ s.keys ∧ k.supports alg = true := by
  obtain ⟨hf, hs⟩ := Option.filter_eq_some_iff.mp h
  exact ⟨List.mem_of_find?_eq_some hf, hs⟩

/-- **Only fit keys are picked**, and only keys of the set. -/
theorem mem_supports_of_select (h : s.select alg id = .ok k) :
    k ∈ s.keys ∧ k.supports alg = true := by
  rw [select_eq_ok_iff] at h
  cases id with
  | some i =>
    simp only [pick] at h
    split at h
    · next k' hk => cases h; exact mem_supports_of_supporting? hk
    · exact nomatch h
  | none =>
    simp only [pick] at h
    split at h
    · next k' hk => cases h; exact mem_supports_of_supporting? hk
    · split at h
      · next k' hk =>
        cases h
        have hm : k ∈ s.candidates alg := by simp [hk]
        exact List.mem_filter.mp hm
      · exact nomatch h
      · exact nomatch h

theorem supports_of_select (h : s.select alg id = .ok k) : k.supports alg = true :=
  (mem_supports_of_select h).2

end KeySet
end TokenTrust
