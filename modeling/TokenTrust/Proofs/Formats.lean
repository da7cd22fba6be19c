/-
# All formats of a key agree

The numbers of an RSA key can be published as components, in a structure of their own or in public
key information, and the structures in a PEM block or, public key information only, as bare base64
(`Key.StatesRsa`).  A point can be published by its coordinates or in public key information of
either kind (`Key.StatesPoint`).

The way through the structures goes by the equivalences for elements: what is written is read back
if the outermost sequence is not too long (`Rsa.Numbers.whole_octets`, `KeyInfo.whole_octets`).  A
structure that is too long holds numbers that no format accepts, since the bounds that are put on
the numbers are far below it (`Rsa.Numbers.length_pairOf_le`).  So the public key of each format is
what the numbers alone say, or the point (`Key.StatesRsa.toOption_publicKey`,
`Key.StatesPoint.toOption_publicKey`), and no two formats can differ.
-/
import Mathlib
import TokenTrust.Proofs.Armor
import TokenTrust.Proofs.Components
import TokenTrust.Proofs.Der

namespace TokenTrust

open Asn1

/-! ## 1. Structures -/

namespace Asn1

/-- The octets of two elements, one behind the other. -/
def pairOf (e f : Element) : List UInt8 := e.octets ++ f.octets

/-- A sequence of two elements. -/
def sequenceOf (e f : Element) : Element := ⟨Tag.sequence, pairOf e f⟩

/-- An element has its contents and a few octets in front. -/
theorem Element.length_octets_le {e : Element} (h : e.contents.length ≤ maxLength) :
    e.octets.length ≤ e.contents.length + 6 := by
  have hlength : (lengthOctets e.contents.length).length ≤ 5 := by
    by_cases hshort : e.contents.length < 0x80
    · rw [lengthOctets_of_lt hshort]
      exact Nat.le_add_left 1 4
    · rw [lengthOctets_of_le (Nat.le_of_not_lt hshort), List.length_cons]
      exact Nat.succ_le_succ (length_minimal_le h)
  rw [octets, List.length_append, List.length_cons]
  omega

theorem Element.length_contents_le (e : Element) : e.contents.length ≤ e.octets.length := by
  rw [octets, List.length_append]
  exact Nat.le_add_left _ _

theorem length_naturalOctets_le (n : Nat) : (naturalOctets n).length ≤ Octets.size n + 1 := by
  have hlength := Octets.length_minimal n
  unfold naturalOctets
  split
  · exact Nat.le_add_left 1 _
  · next b digits h =>
    rw [h] at hlength
    split
    · rw [hlength]
      exact Nat.le_succ _
    · rw [List.length_cons, hlength]

end Asn1

/-- The structure of the two numbers of an RSA key. -/
def Rsa.Numbers.octets (numbers : Rsa.Numbers) : List UInt8 :=
  (sequenceOf (integer numbers.modulus) (integer numbers.exponent)).octets

/-- Public key information of an algorithm, its parameters and a key in octets. -/
def KeyInfo.octets (algorithm : ObjectId) (parameters : Element) (key : List UInt8) : List UInt8 :=
  (sequenceOf (sequenceOf algorithm.element parameters) (bitsOf key)).octets

/-- The public key information of an RSA key. -/
def Rsa.Numbers.info (numbers : Rsa.Numbers) : List UInt8 :=
  KeyInfo.octets ObjectId.rsaEncryption KeyInfo.nullElement numbers.octets

/-- The public key information of a point. -/
def Point.info (c : CurveName) (p : Point) : List UInt8 :=
  KeyInfo.octets ObjectId.ecPublicKey (KeyInfo.curveId c).element (p.octets c.width)

/-! ## 2. What is read of them -/

/-- **Two numbers are read as they are written**, if they are not too long. -/
theorem Rsa.Numbers.whole_octets (numbers : Rsa.Numbers) :
    whole KeyInfo.readNumbers numbers.octets =
      if (pairOf (integer numbers.modulus) (integer numbers.exponent)).length ≤ maxLength
      then some numbers else none := by
  rw [octets, KeyInfo.readNumbers, sequenceOf, whole_sequence]
  split
  · next hmax =>
    rw [pairOf, List.length_append] at hmax
    have hmodulus := (integer numbers.modulus).length_contents_le
    have hexponent := (integer numbers.exponent).length_contents_le
    simp only [whole_eq_some_iff, run_bind_eq_some_iff, run_natural_eq_some_iff,
      run_pure_eq_some_iff]
    have hm : (naturalOctets numbers.modulus).length ≤ maxLength :=
      Nat.le_trans hmodulus (Nat.le_trans (Nat.le_add_right _ _) hmax)
    have he : (naturalOctets numbers.exponent).length ≤ maxLength :=
      Nat.le_trans hexponent (Nat.le_trans (Nat.le_add_left _ _) hmax)
    exact ⟨numbers.modulus, _, ⟨rfl, hm⟩, numbers.exponent, [], ⟨(List.append_nil _).symm, he⟩, rfl⟩
  · rfl

namespace KeyInfo

variable {algorithm : ObjectId} {parameters : Element} {key : List UInt8}

theorem run_readAlgorithm (halgorithm : ObjectId.ofContents? algorithm.octets = some algorithm)
    (hparameters : Tag.isKnown parameters.tag = true)
    (hmax : (pairOf algorithm.element parameters).length ≤ maxLength) (rest : List UInt8) :
    readAlgorithm.run ((sequenceOf algorithm.element parameters).octets ++ rest) =
      some ((algorithm, some parameters), rest) := by
  rw [readAlgorithm, run_sequence_eq_some_iff]
  refine ⟨_, rfl, hmax, ?_⟩
  rw [pairOf, run_bind_eq_some_iff]
  refine ⟨algorithm, parameters.octets, ObjectId.run_read halgorithm _, ?_⟩
  have hsome : ¬ parameters.octets.isEmpty = true := by
    rw [Element.octets]
    intro hnone
    cases hnone
  have helement : element.run parameters.octets = some (parameters, []) := by
    rw [run_element_eq_some_iff, List.append_nil]
    refine ⟨rfl, hparameters, ?_⟩
    rw [pairOf, List.length_append] at hmax
    have hcontents := parameters.length_contents_le
    omega
  rw [run_get_bind, if_neg hsome, run_bind_eq_some_iff]
  exact ⟨parameters, [], helement, rfl⟩

/-- **Public key information is read as it is written**, if it is not too long. -/
theorem whole_octets (halgorithm : ObjectId.ofContents? algorithm.octets = some algorithm)
    (hparameters : Tag.isKnown parameters.tag = true) :
    whole read (octets algorithm parameters key) =
      if (pairOf (sequenceOf algorithm.element parameters) (bitsOf key)).length ≤ maxLength
      then some ⟨algorithm, some parameters, ⟨0, key⟩⟩ else none := by
  rw [octets, read, sequenceOf, whole_sequence]
  split
  · next hmax =>
    rw [pairOf, List.length_append] at hmax
    have hpair := (sequenceOf algorithm.element parameters).length_contents_le
    have hbits := (bitsOf key).length_contents_le
    have halgorithm' := run_readAlgorithm halgorithm hparameters
      (Nat.le_trans hpair (Nat.le_trans (Nat.le_add_right _ _) hmax)) (bitsOf key).octets
    have hkey : bitString.run ((bitsOf key).octets ++ []) = some (⟨0, key⟩, []) :=
      run_bitString_bitsOf (Nat.le_trans hbits (Nat.le_trans (Nat.le_add_left _ _) hmax))
    rw [List.append_nil] at hkey
    rw [whole_eq_some_iff, pairOf, run_bind_eq_some_iff]
    refine ⟨_, _, halgorithm', ?_⟩
    rw [run_bind_eq_some_iff]
    exact ⟨_, _, hkey, rfl⟩
  · rfl

end KeyInfo

/-! ## 3. Nothing is too long -/

/-- The structure of numbers within the bounds is short. -/
theorem Rsa.Numbers.length_pairOf_le {numbers m : Rsa.Numbers} (h : numbers.check = .ok m) :
    (pairOf (integer numbers.modulus) (integer numbers.exponent)).length ≤ 600 := by
  simp only [check, guard_eq_ok_iff, Nat.not_le] at h
  obtain ⟨hmodulus, hexponent, -⟩ := h
  have hm : Octets.size numbers.modulus ≤ 512 := by
    refine Octets.size_le_of_lt ?_
    have hbits : maxModulusBits = 8 * 512 := rfl
    have hbase : 256 = 2 ^ 8 := rfl
    rw [hbase, ← Nat.pow_mul, ← hbits, ← Nat.one_shiftLeft]
    exact hmodulus
  have he : Octets.size numbers.exponent ≤ 8 := Octets.size_le_of_lt hexponent
  have hmodulus' := length_naturalOctets_le numbers.modulus
  have hexponent' := length_naturalOctets_le numbers.exponent
  have hmax : 600 ≤ maxLength := by decide
  have hm' : (integer numbers.modulus).octets.length ≤
      (naturalOctets numbers.modulus).length + 6 :=
    Element.length_octets_le (show (naturalOctets numbers.modulus).length ≤ maxLength by omega)
  have he' : (integer numbers.exponent).octets.length ≤
      (naturalOctets numbers.exponent).length + 6 :=
    Element.length_octets_le (show (naturalOctets numbers.exponent).length ≤ maxLength by omega)
  rw [pairOf, List.length_append]
  omega

/-! ## 4. Keys of structures -/

namespace KeyInfo

/-- **The structure of two numbers is the key of the numbers.**  If it is too long to be read, the
numbers are not within the bounds either. -/
theorem toOption_rsaOfOctets (numbers : Rsa.Numbers) :
    (rsaOfOctets numbers.octets).toOption = numbers.check.toOption := by
  rw [rsaOfOctets, Rsa.Numbers.whole_octets]
  split
  · exact toOption_mapError _ _
  · next hlong =>
    cases hcheck : numbers.check with
    | ok m => exact absurd (Nat.le_trans (Rsa.Numbers.length_pairOf_le hcheck) (by decide)) hlong
    | error f => rfl

/-- Public key information of a short key is short. -/
theorem length_pairOf_le {algorithm parameters : Element} {key : List UInt8}
    (hpair : (pairOf algorithm parameters).length ≤ 100) (hkey : key.length ≤ 1000) :
    (pairOf (sequenceOf algorithm parameters) (bitsOf key)).length ≤ maxLength := by
  have hmax : 10000 ≤ maxLength := by decide
  have hsequence : (sequenceOf algorithm parameters).octets.length ≤
      (pairOf algorithm parameters).length + 6 :=
    Element.length_octets_le (Nat.le_trans hpair (by decide))
  have hbits : (bitsOf key).octets.length ≤ (key.length + 1) + 6 :=
    Element.length_octets_le (show key.length + 1 ≤ maxLength by omega)
  rw [pairOf, List.length_append]
  omega

theorem rsaKey_eq (key : List UInt8) :
    rsaKey ⟨ObjectId.rsaEncryption, some nullElement, ⟨0, key⟩⟩ = rsaOfOctets key := by
  simp only [rsaKey, BitString.octets?, ne_eq, not_true_eq_false, if_false, if_true]

/-- **Public key information of two numbers is the key of the numbers.** -/
theorem toOption_rsaOfInfo (numbers : Rsa.Numbers) :
    (Material.rsaOfInfo numbers.info).toOption = numbers.check.toOption := by
  rw [Material.rsaOfInfo, ofOctets, Rsa.Numbers.info,
    whole_octets ObjectId.ofContents?_rsaEncryption (by decide)]
  split
  · rw [encoded]
    exact (congrArg Except.toOption (rsaKey_eq _)).trans (toOption_rsaOfOctets numbers)
  · next hlong =>
    cases hcheck : numbers.check with
    | ok m =>
      have hnumbers : numbers.octets.length ≤ 606 :=
        Nat.le_trans (Element.length_octets_le
          (Nat.le_trans (Rsa.Numbers.length_pairOf_le hcheck) (by decide)))
          (Nat.add_le_add_right (Rsa.Numbers.length_pairOf_le hcheck) 6)
      exact absurd (length_pairOf_le (by cbv) (Nat.le_trans hnumbers (by decide))) hlong
    | error f => rfl

theorem ofContents?_curveId (c : CurveName) :
    ObjectId.ofContents? (curveId c).octets = some (curveId c) := by
  cases c <;> cbv

/-- A curve has one identifier. -/
theorem curveOfId?_curveId (c : CurveName) : curveOfId? (curveId c) = some c := by
  cases c <;> cbv

theorem length_curve_le (c : CurveName) :
    (pairOf ObjectId.ecPublicKey.element (curveId c).element).length ≤ 100 := by
  cases c <;> cbv

theorem namedCurve_eq {algorithm : ObjectId} {c : CurveName} {key : BitString} :
    namedCurve ⟨algorithm, some (curveId c).element, key⟩ = .ok (curveId c) := by
  simp only [namedCurve, ObjectId.element, ne_eq, not_true_eq_false, if_false,
    ofContents?_curveId, encoded]

theorem ecKey_eq {parameters : Option Element} {c : CurveName} {key : List UInt8} :
    ecKey ⟨ObjectId.ecPublicKey, parameters, ⟨0, key⟩⟩ c = encoded (c.point? key) := by
  simp only [ecKey, BitString.octets?, ne_eq, not_true_eq_false, if_false, if_true]
  rfl

/-- **Public key information of a point is the key of the point.** -/
theorem toOption_ecOfInfo {c : CurveName} {p : Point} (hx : p.x < 256 ^ c.width)
    (hy : p.y < 256 ^ c.width) :
    (Material.ecOfInfo (p.info c)).toOption = PublicKey.ofPoint? c p := by
  have hkey : (p.octets c.width).length ≤ 1000 := by
    rw [Point.octets, List.length_cons, List.length_append, Octets.length_fixed,
      Octets.length_fixed]
    cases c <;> decide
  have htag : Tag.isKnown Tag.objectId = true := by decide
  have hread : whole read (p.info c) = some _ :=
    (whole_octets ObjectId.ofContents?_ecPublicKey htag).trans
      (if_pos (length_pairOf_le (length_curve_le c) hkey))
  rw [Material.ecOfInfo, ofOctets, hread, encoded, PublicKey.ofPoint?,
    ← CurveName.point?_octets hx hy]
  simp only [Except.mapError, bind, Except.bind, namedCurve_eq, curveOfId?_curveId, ecKey_eq]
  cases c.point? (p.octets c.width) <;> rfl

end KeyInfo

/-! ## 5. Formats -/

namespace Key

/-- **A key states two numbers** in one of the formats of RSA keys. -/
inductive StatesRsa (numbers : Rsa.Numbers) : Key → Prop
  | components {algorithm id modulus exponent}
      (hm : Material.Spells modulus numbers.modulus)
      (he : Material.Spells exponent numbers.exponent) :
      StatesRsa numbers (.rsa algorithm id modulus exponent)
  | numbersBlock {algorithm id text}
      (h : Pem.Armors Material.rsaLabel numbers.octets text) :
      StatesRsa numbers (.text .rsa algorithm id text)
  | infoBlock {algorithm id text}
      (h : Pem.Armors Material.infoLabel numbers.info text) :
      StatesRsa numbers (.text .rsa algorithm id text)
  | bareInfo {algorithm id text} (h : Material.Bare numbers.info text) :
      StatesRsa numbers (.text .rsa algorithm id text)

/-- **A key states a point** of a curve in one of the formats of such keys. -/
inductive StatesPoint (c : CurveName) (p : Point) : Key → Prop
  | components {algorithm id x y}
      (hx : Material.SpellsIn c.width x p.x) (hy : Material.SpellsIn c.width y p.y) :
      StatesPoint c p (.ec algorithm id c.name x y)
  | infoBlock {algorithm id text} (h : Pem.Armors Material.infoLabel (p.info c) text) :
      StatesPoint c p (.text .ec algorithm id text)
  | bareInfo {algorithm id text} (h : Material.Bare (p.info c) text) :
      StatesPoint c p (.text .ec algorithm id text)

/-- The key of a text is that of its block. -/
theorem toOption_publicKey_text {keyType : KeyType} {text : String} {b : Pem.Block}
    (algorithm : Option Algorithm) (id : Option String) (h : Material.block text = .ok b) :
    (Key.text keyType algorithm id text).publicKey.toOption =
      (Material.keyOfBlock keyType b).toOption := by
  rw [publicKey_eq, toOption_mapError, Key.text, Material.publicKey, h]
  rfl

/-- **A key that states two numbers is the key of the numbers.** -/
theorem StatesRsa.toOption_publicKey {numbers : Rsa.Numbers} {k : Key} (h : StatesRsa numbers k) :
    k.publicKey.toOption = PublicKey.ofNumbers? numbers := by
  have hlabels : Material.infoLabel ≠ Material.rsaLabel := by decide
  have hinfo : (Material.keyOfBlock .rsa ⟨Material.infoLabel, numbers.info⟩).toOption =
      PublicKey.ofNumbers? numbers := by
    rw [Material.keyOfBlock, if_neg hlabels, if_pos rfl, toOption_map, toOption_mapError,
      KeyInfo.toOption_rsaOfInfo]
    rfl
  cases h with
  | components hm he => exact toOption_publicKey_rsa _ _ hm he
  | numbersBlock h =>
    rw [toOption_publicKey_text _ _ (Material.block_of_armors (by decide) (by decide) h),
      Material.keyOfBlock, if_pos rfl, toOption_map, toOption_mapError,
      KeyInfo.toOption_rsaOfOctets]
    rfl
  | infoBlock h =>
    rw [toOption_publicKey_text _ _ (Material.block_of_armors (by decide) (by decide) h), hinfo]
  | bareInfo h => rw [toOption_publicKey_text _ _ (Material.block_of_bare h), hinfo]

/-- **A key that states a point is the key of the point.** -/
theorem StatesPoint.toOption_publicKey {c : CurveName} {p : Point} (hx : p.x < 256 ^ c.width)
    (hy : p.y < 256 ^ c.width) {k : Key} (h : StatesPoint c p k) :
    k.publicKey.toOption = PublicKey.ofPoint? c p := by
  cases h with
  | components hx hy => exact toOption_publicKey_ec _ _ hx hy
  | infoBlock h =>
    rw [toOption_publicKey_text _ _ (Material.block_of_armors (by decide) (by decide) h)]
    exact KeyInfo.toOption_ecOfInfo hx hy
  | bareInfo h =>
    rw [toOption_publicKey_text _ _ (Material.block_of_bare h)]
    exact KeyInfo.toOption_ecOfInfo hx hy

/-- **All formats of a key agree.**  Every number has a spelling, in any width that it fits into,
and all octets can be put into a block, for instance in lines of any length, or written bare.  Two
keys that state the same numbers have the same public key or both have none, whatever their
formats: the key is the one that the numbers alone say.  So it is with two keys that state the same
point. -/
theorem formats_agree :
    (∀ n, (∃ text, Material.Spells text n) ∧
      ∀ width, n < 256 ^ width → ∃ text, Material.SpellsIn width text n) ∧
    (∀ label octets, (∃ text, Pem.Armors label octets text) ∧
      (∃ text, Material.Bare octets text) ∧
      ∀ lineEnd lines, lineEnd = ['\n'] ∨ lineEnd = ['\r', '\n'] → [] ∉ lines →
        lines.flatten = Base64.standardText octets (Base64.fill octets) →
        Pem.Armors label octets (Pem.inLines label lineEnd lines)) ∧
    (∀ numbers k l, StatesRsa numbers k → StatesRsa numbers l →
      k.publicKey.toOption = l.publicKey.toOption ∧
        k.publicKey.toOption = PublicKey.ofNumbers? numbers) ∧
    ∀ (c : CurveName) (p : Point), p.x < 256 ^ c.width → p.y < 256 ^ c.width →
      ∀ k l, StatesPoint c p k → StatesPoint c p l →
        k.publicKey.toOption = l.publicKey.toOption ∧
          k.publicKey.toOption = PublicKey.ofPoint? c p := by
  refine ⟨fun n => ⟨?_, fun width h => ?_⟩, fun label octets => ⟨Pem.exists_armors label octets,
    Material.exists_bare octets, fun lineEnd lines hend hne => Pem.armors_inLines hend hne⟩, ?_, ?_⟩
  · have hspelled := Material.spells_spelled 0 0 (Octets.minimal n)
    rw [Octets.value_minimal] at hspelled
    exact ⟨_, hspelled⟩
  · have hfits : 0 + (Octets.fixed width n).length ≤ width := by
      rw [Octets.length_fixed, Nat.zero_add]
    have hspelled := Material.spellsIn_spelled hfits 0
    rw [Octets.value_fixed _ _ h] at hspelled
    exact ⟨_, hspelled⟩
  · intro numbers k l hk hl
    have hkey := hk.toOption_publicKey
    exact ⟨hkey.trans hl.toOption_publicKey.symm, hkey⟩
  · intro c p hx hy k l hk hl
    have hkey := hk.toOption_publicKey hx hy
    exact ⟨hkey.trans (hl.toOption_publicKey hx hy).symm, hkey⟩

/-- Five and three in all four formats, and the generator of a curve in three. -/
theorem formats_agree_generator :
    let numbers : Rsa.Numbers := ⟨5, 3⟩
    let numbersText := "-----BEGIN RSA PUBLIC KEY-----\nMAYCAQUCAQM=\n" ++
      "-----END RSA PUBLIC KEY-----\n"
    let infoText := "-----BEGIN PUBLIC KEY-----\r\nMBowDQYJKoZIhvcNAQEB\r\n" ++
      "BQADCQAwBgIBBQIBAw==\r\n-----END PUBLIC KEY-----\r\n"
    let bareText := " MBow DQYJ KoZIhvcNAQEB\nBQADCQAwBgIBBQIBAw\n"
    let generator : Point :=
      ⟨0x6B17D1F2E12C4247F8BCE6E563A440F277037D812DEB33A0F4A13945D898C296,
        0x4FE342E2FE1A7F9B8EE7EB4A7C0F9E162BCE33576B315ECECBB6406837BF51F5⟩
    let pointText := "-----BEGIN PUBLIC KEY-----\n" ++
      "MFkwEwYHKoZIzj0CAQYIKoZIzj0DAQcDQgAEaxfR8uEsQkf4vOblY6RA8ncDfYEt\n" ++
      "6zOg9KE5RdiYwpZP40Li/hp/m47n60p8D54WK84zV2sxXs7LtkBoN79R9Q==\n-----END PUBLIC KEY-----\n"
    let barePointText := "MFkwEwYHKoZIzj0CAQYIKoZIzj0DAQcDQgAEaxfR8uEsQkf4vOblY6RA8ncDfYEt\t" ++
      "6zOg9KE5RdiYwpZP40Li/hp/m47n60p8D54WK84zV2sxXs7LtkBoN79R9Q="
    let x := "axfR8uEsQkf4vOblY6RA8ncDfYEt6zOg9KE5RdiYwpY"
    let y := "T-NC4v4af5uO5-tKfA-eFivOM1drMV7Oy7ZAaDe_UfU"
    (rsa none none "BQ" "AAM=").publicKey.toOption =
        (text .rsa none none numbersText).publicKey.toOption ∧
      (rsa none none "BQ" "AAM=").publicKey.toOption =
        (text .rsa none none infoText).publicKey.toOption ∧
      (rsa none none "BQ" "AAM=").publicKey.toOption =
        (text .rsa none none bareText).publicKey.toOption ∧
      (rsa none none "BQ" "AAM=").publicKey.toOption = some (.rsa numbers) ∧
      generator.x < 256 ^ 32 ∧ generator.y < 256 ^ 32 ∧
      (ec none none "P-256" x y).publicKey.toOption =
        (text .ec none none pointText).publicKey.toOption ∧
      (ec none none "P-256" x y).publicKey.toOption =
        (text .ec none none barePointText).publicKey.toOption ∧
      (ec none none "P-256" x y).publicKey.toOption = some (.ec .p256 generator) := by
  intro numbers numbersText infoText bareText generator pointText barePointText x y
  obtain ⟨-, hwritten, hrsa, hpoint⟩ := formats_agree
  -- the texts are the structures, written in lines or bare
  have hnumbersText : Pem.Armors Material.rsaLabel numbers.octets numbersText := by
    have htext : Pem.inLines Material.rsaLabel ['\n'] ["MAYCAQUCAQM=".toList] = numbersText := by
      decide
    exact htext ▸ (hwritten _ _).2.2 _ _ (.inl rfl) (by decide) (by decide +kernel)
  have hinfoText : Pem.Armors Material.infoLabel numbers.info infoText := by
    have htext : Pem.inLines Material.infoLabel ['\r', '\n']
        ["MBowDQYJKoZIhvcNAQEB".toList, "BQADCQAwBgIBBQIBAw==".toList] = infoText := by
      decide
    exact htext ▸ (hwritten _ _).2.2 _ _ (.inr rfl) (by decide) (by decide +kernel)
  have hpointText : Pem.Armors Material.infoLabel (generator.info .p256) pointText := by
    have htext : Pem.inLines Material.infoLabel ['\n']
        ["MFkwEwYHKoZIzj0CAQYIKoZIzj0DAQcDQgAEaxfR8uEsQkf4vOblY6RA8ncDfYEt".toList,
          "6zOg9KE5RdiYwpZP40Li/hp/m47n60p8D54WK84zV2sxXs7LtkBoN79R9Q==".toList] = pointText := by
      decide +kernel
    exact htext ▸ (hwritten _ _).2.2 _ _ (.inl rfl) (by decide) (by decide +kernel)
  -- so the keys state what they should
  have hcomponents : StatesRsa numbers (rsa none none "BQ" "AAM=") :=
    .components ⟨[5], ⟨0, by decide⟩, rfl⟩ ⟨[0, 3], ⟨1, by decide⟩, rfl⟩
  have hnumbersBlock : StatesRsa numbers (text .rsa none none numbersText) :=
    .numbersBlock hnumbersText
  have hinfoBlock : StatesRsa numbers (text .rsa none none infoText) := .infoBlock hinfoText
  have hbareInfo : StatesRsa numbers (text .rsa none none bareText) :=
    .bareInfo ⟨0, by decide +kernel⟩
  have hx : generator.x < 256 ^ 32 := by decide +kernel
  have hy : generator.y < 256 ^ 32 := by decide +kernel
  have hcoordinates : StatesPoint .p256 generator (ec none none "P-256" x y) := .components
    ⟨Octets.fixed 32 generator.x, ⟨0, by decide +kernel⟩, by decide +kernel, by decide +kernel⟩
    ⟨Octets.fixed 32 generator.y, ⟨0, by decide +kernel⟩, by decide +kernel, by decide +kernel⟩
  have hpointBlock : StatesPoint .p256 generator (text .ec none none pointText) :=
    .infoBlock hpointText
  have hbarePoint : StatesPoint .p256 generator (text .ec none none barePointText) :=
    .bareInfo ⟨1, by decide +kernel⟩
  have hnumbers : PublicKey.ofNumbers? numbers = some (.rsa numbers) := by decide +kernel
  have hgenerator : PublicKey.ofPoint? .p256 generator = some (.ec .p256 generator) := by
    decide +kernel
  have hblock := hpoint .p256 generator hx hy _ _ hcoordinates hpointBlock
  have hbare := hpoint .p256 generator hx hy _ _ hcoordinates hbarePoint
  exact ⟨(hrsa numbers _ _ hcomponents hnumbersBlock).1,
    (hrsa numbers _ _ hcomponents hinfoBlock).1, (hrsa numbers _ _ hcomponents hbareInfo).1,
    (hrsa numbers _ _ hcomponents hbareInfo).2.trans hnumbers, hx, hy, hblock.1, hbare.1,
    hbare.2.trans hgenerator⟩

end Key
end TokenTrust
