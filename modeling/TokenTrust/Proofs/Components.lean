/-
# Only the numbers of components matter

A component spells a number if it stands for octets of that value (`Material.Spells`): zeros in
front of the octets and padding behind the text make other spellings of the same number.  For RSA
every spelling is accepted; a coordinate has to fit into the width of its curve
(`Material.SpellsIn`).

The public key that is made of components is made of their numbers alone
(`Key.toOption_publicKey_rsa`, `Key.toOption_publicKey_ec`): the check of the two RSA numbers, or
the point with the two coordinates.  On the way to a point, coordinates are filled up to the width
of the curve.  What does not fit is refused before anything is filled up
(`Material.coordinate_eq_ok_iff`), and a point that is assembled has one octet in front of two
widths, whatever the components were (`Material.length_of_pointOctets`).
-/
import Mathlib
import TokenTrust.Proofs.Compact
import TokenTrust.Proofs.Entries
import TokenTrust.Proofs.Material
import TokenTrust.Proofs.Octets

namespace TokenTrust

/-- The public key of two RSA numbers, if they pass the check. -/
def PublicKey.ofNumbers? (n : Rsa.Numbers) : Option PublicKey := n.check.toOption.map .rsa

/-- The public key of two coordinates, if they are those of a point of the curve. -/
def PublicKey.ofPoint? (c : CurveName) (p : Point) : Option PublicKey :=
  (c.curve.pointAt? p.x p.y).map (.ec c)

/-- A curve has one name. -/
theorem CurveName.ofName?_eq_some_iff {name : String} {c : CurveName} :
    CurveName.ofName? name = some c ↔ name = c.name := by
  constructor
  · intro h
    unfold ofName? at h
    split at h
    · next hn => cases h; exact hn
    · split at h
      · next hn => cases h; exact hn
      · split at h
        · next hn => cases h; exact hn
        · exact nomatch h
  · rintro rfl
    cases c <;> decide

/-- A segment stands for one byte string at most. -/
theorem Token.StandsFor.unique {segment : List Char} {xs ys : List UInt8}
    (hx : StandsFor segment xs) (hy : StandsFor segment ys) : xs = ys := by
  rw [← decodeSegment_eq_ok_iff] at hx hy
  exact Except.ok.inj (hx.symm.trans hy)

namespace Material

variable {name text x y : String} {octets : List UInt8} {c : CurveName} {width n : Nat}

/-! ## 1. Components -/

/-- **A component spells a number** if it stands for octets of that value. -/
def Spells (text : String) (n : Nat) : Prop :=
  ∃ octets, Token.StandsFor text.toList octets ∧ Octets.value octets = n

/-- A component spells a number in a width if the octets that it stands for fit into that. -/
def SpellsIn (width : Nat) (text : String) (n : Nat) : Prop :=
  ∃ octets, Token.StandsFor text.toList octets ∧ octets.length ≤ width ∧ Octets.value octets = n

/-- Octets as a component, with zeros in front of them and padding behind. -/
def spelled (zeros padding : Nat) (octets : List UInt8) : String :=
  String.ofList (Token.written (List.replicate zeros 0 ++ octets) padding)

/-- **Zeros in front and padding behind do not count.** -/
theorem spells_spelled (zeros padding : Nat) (octets : List UInt8) :
    Spells (spelled zeros padding octets) (Octets.value octets) := by
  refine ⟨List.replicate zeros 0 ++ octets, ⟨padding, ?_⟩, Octets.value_zeros_append zeros octets⟩
  rw [spelled, String.toList_ofList]

theorem spellsIn_spelled {zeros : Nat} (h : zeros + octets.length ≤ width) (padding : Nat) :
    SpellsIn width (spelled zeros padding octets) (Octets.value octets) := by
  refine ⟨List.replicate zeros 0 ++ octets, ⟨padding, ?_⟩, ?_,
    Octets.value_zeros_append zeros octets⟩
  · rw [spelled, String.toList_ofList]
  · rwa [List.length_append, List.length_replicate]

/-- A component is decoded to what it stands for. -/
theorem component_eq_ok_iff :
    component name text = .ok octets ↔ Token.StandsFor text.toList octets := by
  rw [component, mapError_eq_ok_iff, Text.trimEnd, Text.Utf8.bytes, String.toList_ofList,
    Base64.decode_eq_ok_iff]
  exact Token.unpadded_eq_iff

/-- What a number that is spelled in a width has room in. -/
theorem SpellsIn.lt (h : SpellsIn width text n) : n < 256 ^ width := by
  obtain ⟨octets, -, hlength, rfl⟩ := h
  exact Nat.lt_of_lt_of_le (Octets.value_lt octets) (Nat.pow_le_pow_right (by decide) hlength)

/-! ## 2. Coordinates -/

/-- **A coordinate is a number in the width of its curve**, and what is longer is none. -/
theorem coordinate_eq_ok_iff {bs : List UInt8} :
    coordinate width text = .ok bs ↔ ∃ n, SpellsIn width text n ∧ bs = Octets.fixed width n := by
  simp only [coordinate, bind_eq_ok_iff, component_eq_ok_iff, guard_eq_ok_iff]
  constructor
  · rintro ⟨octets, hstands, hlength, hend⟩
    have hfits : octets.length ≤ width := Nat.le_of_not_lt hlength
    refine ⟨_, ⟨octets, hstands, hfits, rfl⟩, ?_⟩
    rw [← Octets.padLeft_eq_fixed hfits]
    exact (Except.ok.inj hend).symm
  · rintro ⟨_, ⟨octets, hstands, hfits, rfl⟩, rfl⟩
    refine ⟨octets, hstands, Nat.not_lt.mpr hfits, ?_⟩
    rw [← Octets.padLeft_eq_fixed hfits]
    rfl

/-- The octets of a point are those of the two numbers that are spelled. -/
theorem pointOctets_eq_ok_iff {bs : List UInt8} :
    pointOctets c x y = .ok bs ↔ ∃ p : Point,
      SpellsIn c.width x p.x ∧ SpellsIn c.width y p.y ∧ bs = p.octets c.width := by
  simp only [pointOctets, bind_eq_ok_iff, coordinate_eq_ok_iff]
  constructor
  · rintro ⟨_, ⟨m, hm, rfl⟩, _, ⟨n, hn, rfl⟩, hend⟩
    exact ⟨⟨m, n⟩, hm, hn, (Except.ok.inj hend).symm⟩
  · rintro ⟨p, hx, hy, rfl⟩
    exact ⟨_, ⟨p.x, hx, rfl⟩, _, ⟨p.y, hy, rfl⟩, rfl⟩

/-- **A point has one octet in front of two widths.** -/
theorem length_of_pointOctets {bs : List UInt8} (h : pointOctets c x y = .ok bs) :
    bs.length = 1 + 2 * c.width := by
  obtain ⟨p, -, -, rfl⟩ := pointOctets_eq_ok_iff.mp h
  rw [Point.octets, List.length_cons, List.length_append, Octets.length_fixed, Octets.length_fixed]
  omega

end Material

/-- **A point is read from its octets.** -/
theorem CurveName.point?_octets {c : CurveName} {p : Point} (hx : p.x < 256 ^ c.width)
    (hy : p.y < 256 ^ c.width) : c.point? (p.octets c.width) = c.curve.pointAt? p.x p.y := by
  have hwidth : (Octets.fixed c.width p.x).length = c.width := Octets.length_fixed _ _
  have hlength : (Octets.fixed c.width p.x ++ Octets.fixed c.width p.y).length = 2 * c.width := by
    rw [List.length_append, Octets.length_fixed, Octets.length_fixed]
    omega
  have htake : (Octets.fixed c.width p.x ++ Octets.fixed c.width p.y).take c.width =
      Octets.fixed c.width p.x := List.take_left' hwidth
  have hdrop : (Octets.fixed c.width p.x ++ Octets.fixed c.width p.y).drop c.width =
      Octets.fixed c.width p.y := List.drop_left' hwidth
  rw [Point.octets, point?, if_pos rfl, if_pos hlength, htake, hdrop, Octets.value_fixed _ _ hx,
    Octets.value_fixed _ _ hy]

/-! ## 3. Public keys -/

/-- A fault in other words is the same refusal. -/
theorem toOption_mapError {ε ε' α : Type} (r : Except ε α) (f : ε → ε') :
    (r.mapError f).toOption = r.toOption := by
  cases r <;> rfl

theorem toOption_map {ε α β : Type} (r : Except ε α) (f : α → β) :
    (f <$> r).toOption = r.toOption.map f := by
  cases r <;> rfl

namespace Key

variable (algorithm : Option Algorithm) (id : Option String)

/-- **The key of two RSA components is that of their numbers.** -/
theorem toOption_publicKey_rsa {modulus exponent : String} {m e : Nat}
    (hm : Material.Spells modulus m) (he : Material.Spells exponent e) :
    (rsa algorithm id modulus exponent).publicKey.toOption =
      PublicKey.ofNumbers? ⟨m, e⟩ := by
  obtain ⟨ms, hms, rfl⟩ := hm
  obtain ⟨es, hes, rfl⟩ := he
  have hrun : (Material.rsa modulus exponent).publicKey .rsa =
      PublicKey.rsa <$> (Rsa.Numbers.check ⟨Octets.value ms, Octets.value es⟩).mapError
        .rsaNumbers := by
    rw [Material.publicKey, Material.rsaOfComponents, Material.component_eq_ok_iff.mpr hms,
      Material.component_eq_ok_iff.mpr hes]
    rfl
  rw [publicKey_eq, rsa, hrun, toOption_mapError, toOption_map, toOption_mapError]
  rfl

/-- **The key of two coordinates is that of the point**, if they are in the width of the curve. -/
theorem toOption_publicKey_ec {c : CurveName} {x y : String} {p : Point}
    (hx : Material.SpellsIn c.width x p.x) (hy : Material.SpellsIn c.width y p.y) :
    (ec algorithm id c.name x y).publicKey.toOption =
      PublicKey.ofPoint? c p := by
  have hoctets := Material.pointOctets_eq_ok_iff.mpr ⟨p, hx, hy, rfl⟩
  have hpoint := CurveName.point?_octets hx.lt hy.lt
  rw [publicKey_eq, toOption_mapError, ec, Material.publicKey, Material.ecOfComponents,
    CurveName.ofName?_eq_some_iff.mpr rfl, PublicKey.ofPoint?]
  simp only [hoctets]
  rw [← hpoint]
  simp only [bind, Except.bind]
  cases c.point? (p.octets c.width) <;> rfl

/-- A coordinate that does not fit makes no key. -/
theorem publicKey_ne_ok_of_long {c : CurveName} {x y : String} {octets : List UInt8}
    (h : Token.StandsFor x.toList octets ∨ Token.StandsFor y.toList octets)
    (hlong : c.width < octets.length) (key : PublicKey) :
    (ec algorithm id c.name x y).publicKey ≠ .ok key := by
  intro hkey
  rw [publicKey_eq, mapError_eq_ok_iff, ec, Material.publicKey, Material.ecOfComponents,
    CurveName.ofName?_eq_some_iff.mpr rfl] at hkey
  obtain ⟨bs, hbs, -⟩ := bind_eq_ok_iff.mp hkey
  obtain ⟨p, ⟨xs, hxs, hxfits, -⟩, ⟨ys, hys, hyfits, -⟩, -⟩ :=
    Material.pointOctets_eq_ok_iff.mp hbs
  rcases h with h | h
  · rw [h.unique hxs] at hlong
    exact Nat.not_lt.mpr hxfits hlong
  · rw [h.unique hys] at hlong
    exact Nat.not_lt.mpr hyfits hlong

/-- **Only the numbers matter.**  A number has a spelling with any zeros in front of its octets and
any padding behind.  Two RSA keys whose components spell the same two numbers have the same public
key, which is that of the numbers, or both have none; so have two keys on one curve whose
coordinates spell the same numbers in the width of the curve.  A coordinate that is longer makes no
key, and a point that is assembled has exactly one octet and two widths. -/
theorem only_numbers_matter :
    (∀ zeros padding octets,
      Material.Spells (Material.spelled zeros padding octets) (Octets.value octets) ∧
      ∀ width, zeros + octets.length ≤ width →
        Material.SpellsIn width (Material.spelled zeros padding octets) (Octets.value octets)) ∧
    (∀ algorithm algorithm' id id' modulus modulus' exponent exponent' m e,
      Material.Spells modulus m → Material.Spells modulus' m →
      Material.Spells exponent e → Material.Spells exponent' e →
      (rsa algorithm id modulus exponent).publicKey.toOption =
          (rsa algorithm' id' modulus' exponent').publicKey.toOption ∧
        (rsa algorithm id modulus exponent).publicKey.toOption =
          PublicKey.ofNumbers? ⟨m, e⟩) ∧
    (∀ (c : CurveName) algorithm algorithm' id id' x x' y y' p,
      Material.SpellsIn c.width x p.x → Material.SpellsIn c.width x' p.x →
      Material.SpellsIn c.width y p.y → Material.SpellsIn c.width y' p.y →
      (ec algorithm id c.name x y).publicKey.toOption =
          (ec algorithm' id' c.name x' y').publicKey.toOption ∧
        (ec algorithm id c.name x y).publicKey.toOption = PublicKey.ofPoint? c p) ∧
    (∀ (c : CurveName) algorithm id x y octets,
      Token.StandsFor x.toList octets ∨ Token.StandsFor y.toList octets →
      c.width < octets.length → ∀ key, (ec algorithm id c.name x y).publicKey ≠ .ok key) ∧
    ∀ (c : CurveName) x y octets, Material.pointOctets c x y = .ok octets →
      octets.length = 1 + 2 * c.width := by
  refine ⟨fun zeros padding octets => ⟨Material.spells_spelled zeros padding octets,
      fun width h => Material.spellsIn_spelled h padding⟩, ?_, ?_,
    fun c algorithm id x y octets h hlong key => publicKey_ne_ok_of_long algorithm id h hlong key,
    fun c x y octets h => Material.length_of_pointOctets h⟩
  · intro algorithm algorithm' id id' modulus modulus' exponent exponent' m e hm hm' he he'
    have hkey := toOption_publicKey_rsa algorithm id hm he
    have hkey' := toOption_publicKey_rsa algorithm' id' hm' he'
    exact ⟨hkey.trans hkey'.symm, hkey⟩
  · intro c algorithm algorithm' id id' x x' y y' p hx hx' hy hy'
    have hkey := toOption_publicKey_ec algorithm id hx hy
    have hkey' := toOption_publicKey_ec algorithm' id' hx' hy'
    exact ⟨hkey.trans hkey'.symm, hkey⟩

/-- Five and three with zeros and padding and without, and the two coordinates of a point whose
second one needs an octet less than the width. -/
theorem only_numbers_matter_short :
    let p : Point := ⟨60, 0x732D1E92B60907D7EFAB40DEF9181CD32F7348A1840C161A286911B17C3EDB⟩
    let y := "cy0ekrYJB9fvq0De-Rgc0y9zSKGEDBYaKGkRsXw-2w"
    let y' := "AHMtHpK2CQfX76tA3vkYHNMvc0ihhAwWGihpEbF8Pts="
    let long := Material.spelled 32 0 [60]
    Material.Spells "BQ" 5 ∧ Material.Spells "AAAF=" 5 ∧
      Material.Spells "Aw" 3 ∧ Material.Spells "AAM==" 3 ∧
      (rsa none none "BQ" "Aw").publicKey.toOption =
        (rsa (some .rs256) (some "a") "AAAF=" "AAM==").publicKey.toOption ∧
      (rsa none none "BQ" "Aw").publicKey.toOption = some (.rsa ⟨5, 3⟩) ∧
      Material.SpellsIn 32 "PA" p.x ∧ Material.SpellsIn 32 "AAA8" p.x ∧
      Material.SpellsIn 32 y p.y ∧ Material.SpellsIn 32 y' p.y ∧
      (ec none none "P-256" "PA" y).publicKey.toOption =
        (ec none (some "a") "P-256" "AAA8" y').publicKey.toOption ∧
      (ec none none "P-256" "PA" y).publicKey.toOption = some (.ec .p256 p) ∧
      Material.SpellsIn 33 long 60 ∧ 32 < (List.replicate 32 (0 : UInt8) ++ [60]).length ∧
      (∀ key, (ec none none "P-256" long y).publicKey ≠ .ok key) ∧
      ∃ octets, Material.pointOctets .p256 "PA" y = .ok octets ∧ octets.length = 65 := by
  intro p y y' long
  obtain ⟨hspelled, hrsa, hec, hlong, hlength⟩ := only_numbers_matter
  have hn : Material.Spells "BQ" 5 := ⟨[5], ⟨0, by decide⟩, rfl⟩
  have hn' : Material.Spells "AAAF=" 5 := ⟨[0, 0, 5], ⟨1, by decide⟩, rfl⟩
  have he : Material.Spells "Aw" 3 := ⟨[3], ⟨0, by decide⟩, rfl⟩
  have he' : Material.Spells "AAM==" 3 := ⟨[0, 3], ⟨2, by decide⟩, rfl⟩
  have hx : Material.SpellsIn 32 "PA" p.x := ⟨[60], ⟨0, by decide⟩, by decide, rfl⟩
  have hx' : Material.SpellsIn 32 "AAA8" p.x := ⟨[0, 0, 60], ⟨0, by decide⟩, by decide, rfl⟩
  have hy : Material.SpellsIn 32 y p.y :=
    ⟨Octets.fixed 31 p.y, ⟨0, by decide +kernel⟩, by decide +kernel, by decide +kernel⟩
  have hy' : Material.SpellsIn 32 y' p.y :=
    ⟨Octets.fixed 32 p.y, ⟨1, by decide +kernel⟩, by decide +kernel, by decide +kernel⟩
  have hnumbers := hrsa none (some .rs256) none (some "a") _ _ _ _ _ _ hn hn' he he'
  have hpoint := hec .p256 none none none (some "a") _ _ _ _ p hx hx' hy hy'
  have hfits : 32 < (List.replicate 32 (0 : UInt8) ++ [60]).length := by decide
  have hstands : Token.StandsFor long.toList (List.replicate 32 0 ++ [60]) :=
    ⟨0, String.toList_ofList⟩
  have hassembled : Material.pointOctets .p256 "PA" y = .ok (p.octets CurveName.p256.width) :=
    Material.pointOctets_eq_ok_iff.mpr ⟨p, hx, hy, rfl⟩
  exact ⟨hn, hn', he, he', hnumbers.1, hnumbers.2.trans (by decide +kernel), hx, hx', hy, hy',
    hpoint.1, hpoint.2.trans (by decide +kernel), (hspelled 32 0 [60]).2 33 (by decide), hfits,
    hlong .p256 none none _ y _ (.inl hstands) hfits, _, hassembled,
    hlength .p256 "PA" y _ hassembled⟩

end Key
end TokenTrust
