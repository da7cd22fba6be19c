/-
# One scheme for each algorithm

`Primitive.Of` is the table of the schemes: a line for each algorithm, with the family of the key
or its curve and the scheme that judges signatures, errors and the check of the length included.
Verification with a public key follows the table where it has a line
(`Primitive.Of.verify_eq`) and is refused where it has none, without a look at the signature
(`PublicKey.verify_of_not_fits`).

Picking a key goes by its type, the algorithm it declares and, for components, the name of the
curve; the table goes by what the material turns out to be.  For keys of components the two agree
(`Key.OfComponents.fits`), so nothing but the material stands between picking such a key and the
scheme.  A whole key in a text has its curve where picking does not look; if it is another one than
the algorithm needs, there is no line for it.
-/
import Mathlib
import TokenTrust.Proofs.Formats
import TokenTrust.Proofs.Idle
import TokenTrust.Proofs.Keys

namespace TokenTrust

/-! ## 1. Schemes -/

/-- What is said of a message and a signature. -/
abbrev Primitive := List UInt8 → List UInt8 → Except Error Unit

namespace Primitive

/-- The scheme of RSA with a hash function. -/
def rsa (h : Rsa.Hash) (numbers : Rsa.Numbers) : Primitive := fun message signature =>
  if Rsa.accepts h numbers message signature then .ok ()
  else .error (.invalidSignature "signature error: verification error")

/-- The scheme of a curve.  The length of the signature is checked first. -/
def ecdsa (curve : CurveName) (q : Point) : Primitive := fun message signature =>
  if signature.length ≠ 2 * curve.width then
    .error (PublicKey.wrongLength (2 * curve.width) signature.length)
  else if Ecdsa.accepts curve q message signature then .ok ()
  else .error (.invalidSignature "signature error")

/-- **The table of the schemes.** -/
inductive Of : Algorithm → PublicKey → Primitive → Prop
  | rs256 {n : Rsa.Numbers} : Of .rs256 (.rsa n) (rsa .sha256 n)
  | rs384 {n : Rsa.Numbers} : Of .rs384 (.rsa n) (rsa .sha384 n)
  | rs512 {n : Rsa.Numbers} : Of .rs512 (.rsa n) (rsa .sha512 n)
  | es256 {q : Point} : Of .es256 (.ec .p256 q) (ecdsa .p256 q)
  | es384 {q : Point} : Of .es384 (.ec .p384 q) (ecdsa .p384 q)
  | es512 {q : Point} : Of .es512 (.ec .p521 q) (ecdsa .p521 q)

end Primitive

namespace PublicKey

variable {alg : Algorithm} {message signature : List UInt8}

/-- What is reported when an algorithm cannot be used with a public key. -/
def mismatch (alg : Algorithm) : Error :=
  .invalidSignature ("public key does not match algorithm " ++ alg.name)

theorem verify_rsa {n : Rsa.Numbers} {h : Rsa.Hash} (hh : rsaHash? alg = some h) :
    (rsa n).verify alg message signature = Primitive.rsa h n message signature := by
  have hfits : (rsa n).fits alg = true := by rw [fits_rsa, hh]; rfl
  have haccepts : (rsa n).accepts alg message signature = Rsa.accepts h n message signature := by
    simp only [accepts, hh]
  simp only [verify, hfits, haccepts, Primitive.rsa, Bool.not_true, Bool.false_eq_true, if_false]
  cases Rsa.accepts h n message signature <;> rfl

theorem verify_ec {curve : CurveName} {q : Point} (hc : alg.curve? = some curve) :
    (ec curve q).verify alg message signature = Primitive.ecdsa curve q message signature := by
  have hfits : (ec curve q).fits alg = true := by simp only [fits, hc, decide_true]
  have haccepts : (ec curve q).accepts alg message signature =
      Ecdsa.accepts curve q message signature := by
    rw [accepts, hfits, Bool.true_and]
  simp only [verify, hfits, haccepts, Primitive.ecdsa, Bool.not_true, Bool.false_eq_true, if_false]
  by_cases hl : signature.length = 2 * curve.width
  · cases Ecdsa.accepts curve q message signature <;> simp [hl]
    rfl
  · simp only [hl, ne_eq, not_false_eq_true, if_true]
    rfl

/-- **Without a line in the table, everything is refused.** -/
theorem verify_of_not_fits {key : PublicKey} (h : key.fits alg = false) :
    key.verify alg message signature = .error (mismatch alg) := by
  simp only [verify, h]
  rfl

end PublicKey

namespace Primitive

variable {message signature : List UInt8} {e : Error}

/-- The words of a scheme.  They do not start as the refusals do that come before it. -/
def OwnWords (e : Error) : Prop := ∃ reason, e = .invalidSignature reason ∧
  (reason.toList.head? = some 's' ∨ reason.toList.head? = some 'e')

theorem ownWords_of_rsa {h : Rsa.Hash} {n : Rsa.Numbers}
    (he : rsa h n message signature = .error e) : OwnWords e := by
  unfold rsa at he
  split at he
  · cases he
  · cases he
    exact ⟨_, rfl, .inl (by decide)⟩

theorem ownWords_of_ecdsa {curve : CurveName} {q : Point}
    (he : ecdsa curve q message signature = .error e) : OwnWords e := by
  unfold ecdsa at he
  split at he
  · cases he
    refine ⟨_, rfl, .inr ?_⟩
    simp only [String.toList_append, List.append_assoc]
    rfl
  · split at he
    · cases he
    · cases he
      exact ⟨_, rfl, .inl (by decide)⟩

/-- Words with another first letter are not a scheme's. -/
theorem not_ownWords {reason : String} {c : Char} (h : reason.toList.head? = some c)
    (hc : c ≠ 's' ∧ c ≠ 'e') : ¬ OwnWords (.invalidSignature reason) := by
  rintro ⟨reason', heq, hhead⟩
  rw [← Error.invalidSignature.inj heq, h, Option.some_inj, Option.some_inj] at hhead
  exact hhead.elim hc.1 hc.2

theorem not_ownWords_mismatch (alg : Algorithm) : ¬ OwnWords (PublicKey.mismatch alg) := by
  refine not_ownWords (c := 'p') ?_ (by decide)
  rw [String.toList_append]
  rfl

theorem not_ownWords_cannotVerify (k : Key) (alg : Algorithm) :
    ¬ OwnWords (k.cannotVerify alg) := by
  refine not_ownWords (c := 'k') ?_ (by decide)
  simp only [String.toList_append, List.append_assoc]
  rfl

end Primitive

namespace Primitive.Of

variable {alg : Algorithm} {key : PublicKey} {p : Primitive} {message signature : List UInt8}

/-- **Verification follows the table.** -/
theorem verify_eq (h : Of alg key p) (message signature : List UInt8) :
    key.verify alg message signature = p message signature := by
  cases h with
  | rs256 => exact PublicKey.verify_rsa rfl
  | rs384 => exact PublicKey.verify_rsa rfl
  | rs512 => exact PublicKey.verify_rsa rfl
  | es256 => exact PublicKey.verify_ec rfl
  | es384 => exact PublicKey.verify_ec rfl
  | es512 => exact PublicKey.verify_ec rfl

theorem fits (h : Of alg key p) : key.fits alg = true := by
  cases h <;> rfl

/-- A line for each algorithm that can be used with a key. -/
theorem exists_of_fits (h : key.fits alg = true) : ∃ p, Of alg key p := by
  cases key with
  | rsa n =>
    cases alg with
    | rs256 => exact ⟨_, .rs256⟩
    | rs384 => exact ⟨_, .rs384⟩
    | rs512 => exact ⟨_, .rs512⟩
    | es256 => exact nomatch h
    | es384 => exact nomatch h
    | es512 => exact nomatch h
  | ec curve q =>
    cases alg with
    | rs256 => exact nomatch h
    | rs384 => exact nomatch h
    | rs512 => exact nomatch h
    | es256 => cases of_decide_eq_true h; exact ⟨_, .es256⟩
    | es384 => cases of_decide_eq_true h; exact ⟨_, .es384⟩
    | es512 => cases of_decide_eq_true h; exact ⟨_, .es512⟩

/-- **A scheme refuses in its own words.** -/
theorem ownWords (h : Of alg key p) {e : Error} (he : p message signature = .error e) :
    OwnWords e := by
  cases h with
  | rs256 => exact ownWords_of_rsa he
  | rs384 => exact ownWords_of_rsa he
  | rs512 => exact ownWords_of_rsa he
  | es256 => exact ownWords_of_ecdsa he
  | es384 => exact ownWords_of_ecdsa he
  | es512 => exact ownWords_of_ecdsa he

end Primitive.Of

/-! ## 2. Keys of components -/

namespace Key

variable {k : Key} {alg : Algorithm} {key : PublicKey}

/-- A key that is built from components. -/
inductive OfComponents : Key → Prop
  | rsa {algorithm id modulus exponent} : OfComponents (.rsa algorithm id modulus exponent)
  | ec {algorithm id curve x y} : OfComponents (.ec algorithm id curve x y)

/-- **What a key of components turns out to be can be used with what it was picked for.** -/
theorem OfComponents.fits (h : k.OfComponents) (hk : k.supports alg = true)
    (hkey : k.publicKey = .ok key) : key.fits alg = true := by
  obtain ⟨htype, -, hcurve⟩ := supports_iff.mp hk
  rw [publicKey_eq, mapError_eq_ok_iff] at hkey
  cases h with
  | rsa =>
    rw [Key.rsa, Material.publicKey, Material.rsaOfComponents] at hkey
    simp only [bind_eq_ok_iff, map_eq_ok_iff] at hkey
    obtain ⟨n, -, e, -, numbers, -, rfl⟩ := hkey
    exact decide_eq_true htype.symm
  | @ec algorithm id curve x y =>
    rw [Key.ec, Material.publicKey, Material.ecOfComponents] at hkey
    split at hkey
    · next c hc =>
      obtain ⟨octets, -, hpoint⟩ := bind_eq_ok_iff.mp hkey
      split at hpoint
      · next q hq =>
        obtain rfl := Except.ok.inj hpoint
        obtain ⟨needed, hneeded⟩ := Algorithm.exists_curve?_iff.mpr htype.symm
        -- the name that was picked by is the name that the point was read by
        have hname : curve = needed.name := curveAgrees_iff.mp hcurve _ _ rfl hneeded
        obtain rfl : needed = c := by
          rw [CurveName.ofName?_eq_some_iff.mpr hname] at hc
          exact Option.some.inj hc
        exact decide_eq_true hneeded
      · cases hpoint
    · cases hkey

theorem verify_of_supports (h : k.supports alg = true) (message signature : List UInt8) :
    k.verify alg message signature =
      k.publicKey >>= fun key => key.verify alg message signature := by
  simp only [verify, h, Bool.not_true, Bool.false_eq_true, if_false]

theorem verify_of_not_supports (h : k.supports alg = false) (message signature : List UInt8) :
    k.verify alg message signature = .error (k.cannotVerify alg) := by
  simp only [verify, h]
  rfl

/-- **A fit key of components ends in its material or in its scheme.** -/
theorem OfComponents.verify_cases (h : k.OfComponents) (hk : k.supports alg = true) :
    (∃ f, k.material.publicKey k.keyType = .error f ∧ k.publicKey = .error (k.unusable f) ∧
      ∀ message signature, k.verify alg message signature = .error (k.unusable f)) ∨
    ∃ key p, k.publicKey = .ok key ∧ Primitive.Of alg key p ∧
      ∀ message signature, k.verify alg message signature = p message signature := by
  cases hkey : k.publicKey with
  | error e =>
    cases hmaterial : k.material.publicKey k.keyType with
    | ok key =>
      rw [publicKey_eq, hmaterial] at hkey
      cases hkey
    | error f =>
      have he : k.publicKey = .error (k.unusable f) := by
        rw [publicKey_eq, hmaterial, mapError_error]
      refine .inl ⟨f, rfl, hkey.symm.trans he, fun message signature => ?_⟩
      rw [verify_of_supports hk, he]
      rfl
  | ok key =>
    obtain ⟨p, hp⟩ := Primitive.Of.exists_of_fits (h.fits hk hkey)
    refine .inr ⟨key, p, rfl, hp, fun message signature => ?_⟩
    rw [verify_of_supports hk, hkey]
    exact hp.verify_eq message signature

/-- **Nothing is said of a fit key of components but by its material or its scheme.** -/
theorem OfComponents.verify_ne (h : k.OfComponents) (hk : k.supports alg = true)
    (message signature : List UInt8) :
    k.verify alg message signature ≠ .error (k.cannotVerify alg) ∧
      k.verify alg message signature ≠ .error (PublicKey.mismatch alg) := by
  rcases h.verify_cases hk with ⟨f, -, -, hverify⟩ | ⟨key, p, -, hp, hverify⟩
  · rw [hverify]
    constructor
    · intro he
      cases he
    · intro he
      cases he
  · rw [hverify]
    constructor
    · intro he
      exact Primitive.not_ownWords_cannotVerify k alg (hp.ownWords he)
    · intro he
      exact Primitive.not_ownWords_mismatch alg (hp.ownWords he)

/-- **A public key on another curve meets no scheme**, and nothing is looked at before it is
refused. -/
theorem verify_of_other_curve {curve : CurveName} {q : Point}
    (hkey : k.publicKey = .ok (.ec curve q)) (hcurve : alg.curve? ≠ some curve) :
    ∃ reason, ∀ message signature,
      k.verify alg message signature = .error (.invalidSignature reason) := by
  have hfits : (PublicKey.ec curve q).fits alg = false := decide_eq_false hcurve
  cases hk : k.supports alg with
  | false => exact ⟨_, verify_of_not_supports hk⟩
  | true =>
    refine ⟨"public key does not match algorithm " ++ alg.name, fun message signature => ?_⟩
    rw [verify_of_supports hk, hkey]
    exact PublicKey.verify_of_not_fits hfits

/-- **Picking a key and verifying with it agree.**  A fit key of components ends in the fault of its
material or in the scheme of the algorithm, for all messages and signatures alike; it is neither
told that it cannot verify nor that its public key does not match.  A key of any text that turns out
to be on another curve than the algorithm's meets no scheme, and everything is refused. -/
theorem fit_key_meets_scheme :
    (∀ (k : Key) (alg : Algorithm), k.OfComponents → k.supports alg = true →
      ((∃ f, k.material.publicKey k.keyType = .error f ∧ k.publicKey = .error (k.unusable f) ∧
          ∀ message signature, k.verify alg message signature = .error (k.unusable f)) ∨
        ∃ key p, k.publicKey = .ok key ∧ Primitive.Of alg key p ∧
          ∀ message signature, k.verify alg message signature = p message signature) ∧
      ∀ message signature, k.verify alg message signature ≠ .error (k.cannotVerify alg) ∧
        k.verify alg message signature ≠ .error (PublicKey.mismatch alg)) ∧
    ∀ keyType algorithm id t (alg : Algorithm) curve q,
      (text keyType algorithm id t).publicKey = .ok (.ec curve q) → alg.curve? ≠ some curve →
      (∀ p, ¬ Primitive.Of alg (.ec curve q) p) ∧
        ∃ reason, ∀ message signature,
          (text keyType algorithm id t).verify alg message signature =
            .error (.invalidSignature reason) := by
  refine ⟨fun k alg h hk => ⟨h.verify_cases hk, h.verify_ne hk⟩, ?_⟩
  intro keyType algorithm id t alg curve q hkey hcurve
  refine ⟨fun p hp => ?_, verify_of_other_curve hkey hcurve⟩
  have hfits : (PublicKey.ec curve q).fits alg = true := hp.fits
  exact hcurve (of_decide_eq_true hfits)

/-- A key of components with a point and one with none, and a key of a text on a curve that the
algorithm does not need. -/
theorem fit_key_meets_scheme_generator :
    let generator : Point :=
      ⟨0x6B17D1F2E12C4247F8BCE6E563A440F277037D812DEB33A0F4A13945D898C296,
        0x4FE342E2FE1A7F9B8EE7EB4A7C0F9E162BCE33576B315ECECBB6406837BF51F5⟩
    let x := "axfR8uEsQkf4vOblY6RA8ncDfYEt6zOg9KE5RdiYwpY"
    let y := "T-NC4v4af5uO5-tKfA-eFivOM1drMV7Oy7ZAaDe_UfU"
    let bareText := "MFkwEwYHKoZIzj0CAQYIKoZIzj0DAQcDQgAEaxfR8uEsQkf4vOblY6RA8ncDfYEt\n" ++
      "6zOg9KE5RdiYwpZP40Li/hp/m47n60p8D54WK84zV2sxXs7LtkBoN79R9Q=="
    (ec none none "P-256" x y).supports .es256 = true ∧
      (∃ p, Primitive.Of .es256 (.ec .p256 generator) p ∧ ∀ message signature,
        (ec none none "P-256" x y).verify .es256 message signature = p message signature) ∧
      (∃ f, ∀ message signature, (ec none none "P-256" x x).verify .es256 message signature =
        .error ((ec none none "P-256" x x).unusable f)) ∧
      (text .ec none none bareText).publicKey = .ok (.ec .p256 generator) ∧
      (text .ec none none bareText).supports .es384 = true ∧
      ∃ reason, ∀ message signature, (text .ec none none bareText).verify .es384 message signature =
        .error (.invalidSignature reason) := by
  intro generator x y bareText
  obtain ⟨hcomponents, htext⟩ := fit_key_meets_scheme
  have hfit : (ec none none "P-256" x y).supports .es256 = true := by decide +kernel
  have hpoint : (ec none none "P-256" x y).publicKey = .ok (.ec .p256 generator) := by
    decide +kernel
  have hscheme : ∃ p, Primitive.Of .es256 (.ec .p256 generator) p ∧ ∀ message signature,
      (ec none none "P-256" x y).verify .es256 message signature = p message signature := by
    rcases (hcomponents _ .es256 .ec hfit).1 with ⟨f, -, hf, -⟩ | ⟨key, p, hkey, hp, hverify⟩
    · rw [hpoint] at hf
      exact nomatch hf
    · obtain rfl := Except.ok.inj (hpoint.symm.trans hkey)
      exact ⟨p, hp, hverify⟩
  have hnone : (ec none none "P-256" x x).publicKey.toOption = none := by decide +kernel
  have hfault : ∃ f, ∀ message signature,
      (ec none none "P-256" x x).verify .es256 message signature =
        .error ((ec none none "P-256" x x).unusable f) := by
    have hfit' : (ec none none "P-256" x x).supports .es256 = true := by decide +kernel
    rcases (hcomponents _ .es256 .ec hfit').1 with ⟨f, -, -, hverify⟩ | ⟨key, p, hkey, -⟩
    · exact ⟨f, hverify⟩
    · rw [hkey] at hnone
      exact nomatch hnone
  have hstates : StatesPoint .p256 generator (text .ec none none bareText) :=
    .bareInfo ⟨2, by decide +kernel⟩
  have hkey : (text .ec none none bareText).publicKey = .ok (.ec .p256 generator) := by
    have hoption := hstates.toOption_publicKey (by decide +kernel) (by decide +kernel)
    have hgenerator : PublicKey.ofPoint? .p256 generator = some (.ec .p256 generator) := by
      decide +kernel
    rw [hgenerator] at hoption
    cases hresult : (text .ec none none bareText).publicKey with
    | error e =>
      rw [hresult] at hoption
      exact nomatch hoption
    | ok key =>
      rw [hresult] at hoption
      rw [Option.some.inj hoption]
  exact ⟨hfit, hscheme, hfault, hkey, by decide +kernel,
    (htext .ec none none bareText .es384 .p256 generator hkey (by decide)).2⟩


end Key
end TokenTrust
