/-
# What public keys are made of

Material is read in several forms, and some of them name no curve before they are read.  Whatever
the form, what comes out is a public key that may be used (`PublicKey.Sound`): the numbers of an
RSA key are within their bounds, and a point is a point of the curve that the key is on.  So
nobody verifies with a point that somebody has made up.

It is also a key of the type that was asked for.  A key looks at that once more before it is used,
and never finds it otherwise (`Key.materialKey_eq`).
-/
import TokenTrust.Key.Basic
import TokenTrust.Proofs.Curve

namespace TokenTrust

/-! ## 1. Sound keys -/

/-- **A public key of a type that may be used**: numbers that pass the check of RSA keys, or a point
of the curve. -/
inductive PublicKey.Sound : KeyType → PublicKey → Prop
  | rsa {n : Rsa.Numbers} (h : n.check = .ok n) : Sound .rsa (.rsa n)
  | ec {curve : CurveName} {q : Point} (h : curve.curve.Contains q) : Sound .ec (.ec curve q)

theorem PublicKey.Sound.contains {keyType : KeyType} {curve : CurveName} {q : Point}
    (h : PublicKey.Sound keyType (.ec curve q)) : curve.curve.Contains q := by
  cases h with
  | ec h => exact h

theorem PublicKey.Sound.keyType_eq {keyType : KeyType} {key : PublicKey}
    (h : PublicKey.Sound keyType key) : key.keyType = keyType := by
  cases h <;> rfl

/-- The check of RSA keys changes nothing. -/
theorem Rsa.Numbers.eq_of_check {n m : Rsa.Numbers} (h : n.check = .ok m) : m = n := by
  simp only [check, guard_eq_ok_iff] at h
  obtain ⟨-, -, -, -, -, -, h⟩ := h
  exact (Except.ok.inj h).symm

theorem PublicKey.sound_of_check {n m : Rsa.Numbers} (h : n.check = .ok m) :
    PublicKey.Sound .rsa (.rsa m) := by
  obtain rfl := Rsa.Numbers.eq_of_check h
  exact .rsa h

/-! ## 2. Whole keys -/

namespace KeyInfo

theorem encoded_eq_ok_iff {α : Type} {o : Option α} {a : α} : encoded o = .ok a ↔ o = some a := by
  cases o <;> simp [encoded]

theorem sound_of_rsaOfOctets {octets : List UInt8} {n : Rsa.Numbers}
    (h : rsaOfOctets octets = .ok n) : PublicKey.Sound .rsa (.rsa n) := by
  simp only [rsaOfOctets, bind_eq_ok_iff, mapError_eq_ok_iff] at h
  obtain ⟨m, -, hm⟩ := h
  exact PublicKey.sound_of_check hm

theorem sound_of_rsaKey {info : KeyInfo} {n : Rsa.Numbers} (h : info.rsaKey = .ok n) :
    PublicKey.Sound .rsa (.rsa n) := by
  simp only [rsaKey, guard_eq_ok_iff] at h
  obtain ⟨-, h⟩ := h
  split at h
  · rw [guard_eq_ok_iff] at h
    obtain ⟨-, h⟩ := h
    split at h
    · exact sound_of_rsaOfOctets h
    · exact nomatch h
  · exact nomatch h

theorem contains_of_ecKey {info : KeyInfo} {curve : CurveName} {q : Point}
    (h : info.ecKey curve = .ok q) : curve.curve.Contains q := by
  simp only [ecKey, guard_eq_ok_iff, bind_eq_ok_iff, encoded_eq_ok_iff] at h
  obtain ⟨-, octets, -, hq⟩ := h
  exact CurveName.contains_of_point? hq

end KeyInfo

namespace Material

theorem sound_of_ecOfInfo {octets : List UInt8} {key : PublicKey}
    (h : ecOfInfo octets = .ok key) : PublicKey.Sound .ec key := by
  simp only [ecOfInfo, bind_eq_ok_iff, mapError_eq_ok_iff] at h
  obtain ⟨info, -, id, -, h⟩ := h
  split at h
  · next curve _ =>
    simp only [bind_eq_ok_iff, mapError_eq_ok_iff] at h
    obtain ⟨q, hq, hkey⟩ := h
    obtain rfl := Except.ok.inj hkey
    exact .ec (KeyInfo.contains_of_ecKey hq)
  · exact nomatch h

theorem sound_of_keyOfBlock {keyType : KeyType} {b : Pem.Block} {key : PublicKey}
    (h : keyOfBlock keyType b = .ok key) : PublicKey.Sound keyType key := by
  cases keyType with
  | rsa =>
    simp only [keyOfBlock] at h
    split at h
    · obtain ⟨n, hn, rfl⟩ := map_eq_ok_iff.mp h
      exact KeyInfo.sound_of_rsaOfOctets (mapError_eq_ok_iff.mp hn)
    · split at h
      · obtain ⟨n, hn, rfl⟩ := map_eq_ok_iff.mp h
        obtain ⟨info, -, hinfo⟩ := bind_eq_ok_iff.mp (mapError_eq_ok_iff.mp hn)
        exact KeyInfo.sound_of_rsaKey hinfo
      · exact nomatch h
  | ec =>
    simp only [keyOfBlock] at h
    split at h
    · exact sound_of_ecOfInfo h
    · exact nomatch h

/-! ## 3. Components -/

theorem sound_of_rsaOfComponents {modulus exponent : String} {key : PublicKey}
    (h : rsaOfComponents modulus exponent = .ok key) : PublicKey.Sound .rsa key := by
  simp only [rsaOfComponents, bind_eq_ok_iff, map_eq_ok_iff, mapError_eq_ok_iff] at h
  obtain ⟨n, -, e, -, m, hm, rfl⟩ := h
  exact PublicKey.sound_of_check hm

theorem sound_of_ecOfComponents {curve x y : String} {key : PublicKey}
    (h : ecOfComponents curve x y = .ok key) : PublicKey.Sound .ec key := by
  simp only [ecOfComponents] at h
  split at h
  · obtain ⟨octets, -, h⟩ := bind_eq_ok_iff.mp h
    split at h
    · next hq =>
      obtain rfl := Except.ok.inj h
      exact .ec (CurveName.contains_of_point? hq)
    · exact nomatch h
  · exact nomatch h

/-! ## 4. Material -/

/-- **Whatever the form, what comes out may be used**, as a key of the type that was asked for. -/
theorem sound_of_publicKey {keyType : KeyType} {m : Material} {key : PublicKey}
    (hs : m.suits keyType = true) (h : m.publicKey keyType = .ok key) :
    PublicKey.Sound keyType key := by
  cases m with
  | text t =>
    obtain ⟨b, -, hb⟩ := bind_eq_ok_iff.mp h
    exact sound_of_keyOfBlock hb
  | rsa n e =>
    obtain rfl : keyType = .rsa := beq_iff_eq.mp hs
    exact sound_of_rsaOfComponents h
  | ec curve x y =>
    obtain rfl : keyType = .ec := beq_iff_eq.mp hs
    exact sound_of_ecOfComponents h

end Material

namespace Key

/-- **The material of a key never turns out to be of another type.** -/
theorem materialKey_eq (k : Key) : k.materialKey = k.material.publicKey k.keyType := by
  rw [materialKey]
  cases h : k.material.publicKey k.keyType with
  | error f => rfl
  | ok key => exact if_pos (Material.sound_of_publicKey k.suited h).keyType_eq

/-- A key is its material, read as a key of its type. -/
theorem publicKey_eq (k : Key) :
    k.publicKey = (k.material.publicKey k.keyType).mapError k.unusable := by
  rw [publicKey, materialKey_eq]

theorem sound_of_publicKey {k : Key} {key : PublicKey} (h : k.publicKey = .ok key) :
    PublicKey.Sound k.keyType key := by
  rw [publicKey_eq, mapError_eq_ok_iff] at h
  exact Material.sound_of_publicKey k.suited h

end Key

end TokenTrust
