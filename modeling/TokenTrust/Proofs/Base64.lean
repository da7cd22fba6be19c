/-
# What is read is what is written

Reading base64 without padding accepts exactly what writing produces (`decode_eq_ok_iff`), so a byte
string has one written form and no text stands for two byte strings.  What is written is the bits of
the octets, cut into sixes (`spells_encode`).

Octets and symbols meet in six-bit values.  A symbol of the alphabet has one value and a value one
symbol (`symbol_of_value?`), so both directions come down to what four, three or two values amount
to (`encode_of_decodeLast`, `decodeLast_eq_ok_iff`).  A group of four with something behind it is
read like the last one, and the rest by induction (`decodeFrom_of_last`).  The padding that fills
the last group changes nothing but the reading of that group (`decode_padded`).

What a text has to look like can be said without writing anything (`Canonical`): symbols of the
alphabet only, no symbol left over, and no bits in the last one that belong to no octet.  Those
texts are the written ones (`canonical_iff`).
-/
import Mathlib
import TokenTrust.Base64
import TokenTrust.Error

namespace TokenTrust
namespace Base64

variable {a : Alphabet}

/-! ## 1. Symbols -/

namespace Alphabet

/-- Every six-bit value has a symbol, and it is read back. -/
theorem value?_symbol (a : Alphabet) {v : Nat} (hv : v < 64) : a.value? (a.symbol v) = some v := by
  have h : ∀ n : Fin 64, a.value? (a.symbol n.val) = some n.val := by
    cases a <;> decide
  exact h ⟨v, hv⟩

/-- **An octet that has a value is the symbol of that value**, and the value has six bits. -/
theorem symbol_of_value? {b : UInt8} {v : Nat} (h : a.value? b = some v) :
    v < 64 ∧ a.symbol v = b := by
  have hall : ∀ n : Fin 256, (a.value? (UInt8.ofFin n)).all
      (fun v => v < 64 ∧ a.symbol v = UInt8.ofFin n) = true := by
    cases a <;> decide +kernel
  have hb := hall b.toFin
  rw [show UInt8.ofFin b.toFin = b from rfl, h] at hb
  simpa using hb

/-- The octets that have a value are the symbols. -/
theorem isSome_value?_iff {b : UInt8} : (a.value? b).isSome ↔ ∃ v < 64, a.symbol v = b := by
  rw [Option.isSome_iff_exists]
  constructor
  · rintro ⟨v, hv⟩
    exact ⟨v, symbol_of_value? hv⟩
  · rintro ⟨v, hv, rfl⟩
    exact ⟨v, a.value?_symbol hv⟩

theorem value?_padOctet (a : Alphabet) : a.value? padOctet = none := by
  cases a <;> decide

/-- Symbols are octets of ASCII. -/
theorem symbol_lt (a : Alphabet) {v : Nat} (hv : v < 64) : (a.symbol v).toNat < 0x80 := by
  have h : ∀ n : Fin 64, (a.symbol n.val).toNat < 0x80 := by
    cases a <;> decide
  exact h ⟨v, hv⟩

end Alphabet

/-- Padding is no symbol. -/
theorem symbol_ne_padOctet {v : Nat} (hv : v < 64) : a.symbol v ≠ padOctet := fun h => by
  have hvalue := a.value?_symbol hv
  rw [h, a.value?_padOctet] at hvalue
  exact nomatch hvalue

theorem symbolAt_eq_ok_iff {offset : Nat} {b : UInt8} {v : Nat} :
    symbolAt a offset b = .ok v ↔ a.value? b = some v := by
  rw [symbolAt]
  cases a.value? b with
  | none => simp
  | some w => simp

/-- **Octets that have values are the symbols of these values.** -/
theorem symbolsFrom_eq_ok_iff {offset : Nat} {bs : List UInt8} {vs : List Nat} :
    symbolsFrom a offset bs = .ok vs ↔ vs.map a.symbol = bs ∧ ∀ v ∈ vs, v < 64 := by
  induction bs generalizing offset vs with
  | nil =>
    rw [symbolsFrom, Except.ok.injEq, List.map_eq_nil_iff]
    constructor
    · rintro rfl
      exact ⟨rfl, fun v hv => absurd hv List.not_mem_nil⟩
    · rintro ⟨rfl, -⟩
      rfl
  | cons b bs ih =>
    simp only [symbolsFrom, bind_eq_ok_iff, symbolAt_eq_ok_iff, ih]
    constructor
    · rintro ⟨v, hv, ws, ⟨hws, hbound⟩, hend⟩
      obtain rfl := Except.ok.inj hend
      obtain ⟨hlt, hsymbol⟩ := Alphabet.symbol_of_value? hv
      exact ⟨by rw [List.map_cons, hsymbol, hws], List.forall_mem_cons.mpr ⟨hlt, hbound⟩⟩
    · rintro ⟨hmap, hbound⟩
      obtain ⟨v, ws, rfl, hsymbol, hws⟩ := List.map_eq_cons_iff.mp hmap
      obtain ⟨hlt, hbound⟩ := List.forall_mem_cons.mp hbound
      exact ⟨v, hsymbol ▸ a.value?_symbol hlt, ws, ⟨hws, hbound⟩, rfl⟩

/-! ## 2. Bits -/

/-- The lowest `width` bits of a number, the highest of them first. -/
def bits : Nat → Nat → List Bool
  | 0, _ => []
  | width + 1, n => bits width (n / 2) ++ [decide (n % 2 = 1)]

/-- Bits in front of others are those of the number without its lower bits. -/
theorem bits_add (m k n : Nat) : bits (m + k) n = bits m (n / 2 ^ k) ++ bits k n := by
  induction k generalizing n with
  | zero => rw [Nat.add_zero, Nat.pow_zero, Nat.div_one, bits, List.append_nil]
  | succ k ih =>
    rw [← Nat.add_assoc, bits, ih, bits, Nat.div_div_eq_div_mul, ← Nat.pow_succ', List.append_assoc]

/-- The higher bits do not matter. -/
theorem bits_mod (k n : Nat) : bits k (n % 2 ^ k) = bits k n := by
  induction k generalizing n with
  | zero => rfl
  | succ k ih =>
    rw [bits, bits, Nat.pow_succ', Nat.mod_mul_right_mod, Nat.mod_mul_right_div_self, ih]

theorem bits_six_mod (n : Nat) : bits 6 (n % 64) = bits 6 n := bits_mod 6 n

theorem bits_eight_mod (n : Nat) : bits 8 (n % 256) = bits 8 n := bits_mod 8 n

/-- Zeros at the end fill up. -/
theorem bits_eq_replicate {k n : Nat} (h : n % 2 ^ k = 0) :
    bits k n = List.replicate k false := by
  rw [← bits_mod, h]
  clear h
  induction k with
  | zero => rfl
  | succ k ih => rw [bits, Nat.zero_div, ih, List.replicate_succ']; rfl

/-- Four values have the bits of three octets. -/
theorem bits_four (x y z : UInt8) :
    let n := x.toNat * 65536 + y.toNat * 256 + z.toNat
    [n / 262144, n / 4096 % 64, n / 64 % 64, n % 64].flatMap (bits 6) =
      [x, y, z].flatMap fun x => bits 8 x.toNat := by
  intro n
  have hy := y.toNat_lt
  have hz := z.toNat_lt
  have hfirst : n / 65536 = x.toNat := by omega
  have hsecond : n / 256 % 256 = y.toNat := by omega
  have hthird : n % 256 = z.toNat := by omega
  calc [n / 262144, n / 4096 % 64, n / 64 % 64, n % 64].flatMap (bits 6)
      = bits 6 (n / 2 ^ 18) ++ (bits 6 (n / 2 ^ 12) ++ (bits 6 (n / 2 ^ 6) ++ bits 6 n)) := by
        simp [bits_six_mod]
    _ = bits 24 n := by rw [← bits_add, ← bits_add, ← bits_add]
    _ = bits 8 (n / 2 ^ 16) ++ (bits 8 (n / 2 ^ 8) ++ bits 8 n) := by
        rw [← bits_add, ← bits_add]
    _ = [x, y, z].flatMap fun x => bits 8 x.toNat := by
        simp [← hfirst, ← hsecond, ← hthird, bits_eight_mod]

/-- Three values have the bits of two octets and two more. -/
theorem bits_three (x y : UInt8) :
    let n := x.toNat * 1024 + y.toNat * 4
    [n / 4096, n / 64 % 64, n % 64].flatMap (bits 6) =
      ([x, y].flatMap fun x => bits 8 x.toNat) ++ List.replicate 2 false := by
  intro n
  have hy := y.toNat_lt
  have hfirst : n / 1024 = x.toNat := by omega
  have hsecond : n / 4 % 256 = y.toNat := by omega
  have hfill : n % 4 = 0 := by omega
  have htwo : bits 2 n = List.replicate 2 false := bits_eq_replicate hfill
  calc [n / 4096, n / 64 % 64, n % 64].flatMap (bits 6)
      = bits 6 (n / 2 ^ 12) ++ (bits 6 (n / 2 ^ 6) ++ bits 6 n) := by simp [bits_six_mod]
    _ = bits 18 n := by rw [← bits_add, ← bits_add]
    _ = bits 8 (n / 2 ^ 10) ++ (bits 8 (n / 2 ^ 2) ++ bits 2 n) := by
        rw [← bits_add, ← bits_add]
    _ = ([x, y].flatMap fun x => bits 8 x.toNat) ++ List.replicate 2 false := by
        simp [← hfirst, ← hsecond, htwo, bits_eight_mod]

/-- Two values have the bits of one octet and four more. -/
theorem bits_two (x : UInt8) :
    [x.toNat / 4, x.toNat % 4 * 16].flatMap (bits 6) =
      ([x].flatMap fun x => bits 8 x.toNat) ++ List.replicate 4 false := by
  have hfirst : x.toNat / 4 = x.toNat * 16 / 2 ^ 6 := by omega
  have hsecond : x.toNat % 4 * 16 = x.toNat * 16 % 64 := by omega
  have hfill : x.toNat * 16 % 16 = 0 := by omega
  have hfour : bits 4 (x.toNat * 16) = List.replicate 4 false := bits_eq_replicate hfill
  calc [x.toNat / 4, x.toNat % 4 * 16].flatMap (bits 6)
      = bits 6 (x.toNat * 16 / 2 ^ 6) ++ bits 6 (x.toNat * 16) := by
        simp [hfirst, hsecond, bits_six_mod]
    _ = bits 12 (x.toNat * 16) := by rw [← bits_add]
    _ = bits 8 (x.toNat * 16 / 2 ^ 4) ++ bits 4 (x.toNat * 16) := by rw [← bits_add]
    _ = ([x].flatMap fun x => bits 8 x.toNat) ++ List.replicate 4 false := by
        simp [hfour]

/-! ## 3. Writing -/

/-- Four values are three octets, and these are written with their symbols. -/
theorem encode_four {v w x y : Nat} (hv : v < 64) (hw : w < 64) (hx : x < 64) (hy : y < 64)
    (rest : List UInt8) :
    encode a ((lastOctets [v, w, x, y]).1 ++ rest) =
      [v, w, x, y].map a.symbol ++ encode a rest := by
  have hjoin (n : Nat) (hn : n < 16777216) : (n / 65536).toUInt8.toNat * 65536 +
      (n / 256 % 256).toUInt8.toNat * 256 + (n % 256).toUInt8.toNat = n := by
    simp only [Nat.toUInt8_eq, UInt8.toNat_ofNat']
    omega
  have h₁ : (v * 262144 + w * 4096 + x * 64 + y) / 262144 = v := by omega
  have h₂ : (v * 262144 + w * 4096 + x * 64 + y) / 4096 % 64 = w := by omega
  have h₃ : (v * 262144 + w * 4096 + x * 64 + y) / 64 % 64 = x := by omega
  have h₄ : (v * 262144 + w * 4096 + x * 64 + y) % 64 = y := by omega
  simp only [lastOctets, List.cons_append, List.nil_append, encode,
    hjoin (v * 262144 + w * 4096 + x * 64 + y) (by omega), h₁, h₂, h₃, h₄, List.map_cons,
    List.map_nil]

/-- Three values are two octets, unless bits are left over. -/
theorem encode_three {v w x : Nat} (hv : v < 64) (hw : w < 64) (hx : x < 64)
    (h : (lastOctets [v, w, x]).2 = 0) :
    encode a (lastOctets [v, w, x]).1 = [v, w, x].map a.symbol := by
  simp only [lastOctets] at h
  have hjoin (n : Nat) (hn : n < 262144) (hleft : n % 4 = 0) :
      (n / 1024).toUInt8.toNat * 1024 + (n / 4 % 256).toUInt8.toNat * 4 = n := by
    simp only [Nat.toUInt8_eq, UInt8.toNat_ofNat']
    omega
  have h₁ : (v * 4096 + w * 64 + x) / 4096 = v := by omega
  have h₂ : (v * 4096 + w * 64 + x) / 64 % 64 = w := by omega
  have h₃ : (v * 4096 + w * 64 + x) % 64 = x := by omega
  simp only [lastOctets, encode, hjoin (v * 4096 + w * 64 + x) (by omega) h, h₁, h₂, h₃,
    List.map_cons, List.map_nil]

/-- Two values are one octet, unless bits are left over. -/
theorem encode_two {v w : Nat} (hv : v < 64) (hw : w < 64) (h : (lastOctets [v, w]).2 = 0) :
    encode a (lastOctets [v, w]).1 = [v, w].map a.symbol := by
  simp only [lastOctets] at h
  have hbyte : ((v * 64 + w) / 16).toUInt8.toNat = (v * 64 + w) / 16 := by
    simp only [Nat.toUInt8_eq, UInt8.toNat_ofNat']
    omega
  have h₁ : (v * 64 + w) / 16 / 4 = v := by omega
  have h₂ : (v * 64 + w) / 16 % 4 * 16 = w := by omega
  simp only [lastOctets, encode, hbyte, h₁, h₂, List.map_cons, List.map_nil]

/-- **The symbols of three octets** amount to these octets. -/
theorem exists_four (x y z : UInt8) : ∃ v w u t, (v < 64 ∧ w < 64 ∧ u < 64 ∧ t < 64) ∧
    lastOctets [v, w, u, t] = ([x, y, z], 0) ∧
      ([v, w, u, t].flatMap (bits 6) = [x, y, z].flatMap fun x => bits 8 x.toNat) ∧
        ∀ a rest, encode a (x :: y :: z :: rest) = [v, w, u, t].map a.symbol ++ encode a rest := by
  have hjoin (n : Nat) :
      n / 262144 * 262144 + n / 4096 % 64 * 4096 + n / 64 % 64 * 64 + n % 64 = n := by omega
  have hx := x.toNat_lt
  have hy := y.toNat_lt
  have hz := z.toNat_lt
  have hbits := bits_four x y z
  generalize hn : x.toNat * 65536 + y.toNat * 256 + z.toNat = n at hbits
  have h₁ : n / 65536 = x.toNat := by omega
  have h₂ : n / 256 % 256 = y.toNat := by omega
  have h₃ : n % 256 = z.toNat := by omega
  refine ⟨n / 262144, n / 4096 % 64, n / 64 % 64, n % 64, by omega, ?_, hbits, fun a rest => ?_⟩
  · simp only [lastOctets, hjoin, h₁, h₂, h₃, Nat.toUInt8_eq, UInt8.ofNat_toNat]
  · simp only [encode, hn, List.map_cons, List.map_nil, List.cons_append, List.nil_append]

/-- The symbols of two octets amount to these octets. -/
theorem exists_three (x y : UInt8) : ∃ v w u, (v < 64 ∧ w < 64 ∧ u < 64) ∧
    lastOctets [v, w, u] = ([x, y], 0) ∧
      ([v, w, u].flatMap (bits 6) =
        ([x, y].flatMap fun x => bits 8 x.toNat) ++ List.replicate 2 false) ∧
        ∀ a, encode a [x, y] = [v, w, u].map a.symbol := by
  have hjoin (n : Nat) : n / 4096 * 4096 + n / 64 % 64 * 64 + n % 64 = n := by omega
  have hx := x.toNat_lt
  have hy := y.toNat_lt
  have hbits := bits_three x y
  generalize hn : x.toNat * 1024 + y.toNat * 4 = n at hbits
  have h₁ : n / 1024 = x.toNat := by omega
  have h₂ : n / 4 % 256 = y.toNat := by omega
  have h₃ : n % 4 = 0 := by omega
  refine ⟨n / 4096, n / 64 % 64, n % 64, by omega, ?_, hbits, fun a => ?_⟩
  · simp only [lastOctets, hjoin, h₁, h₂, h₃, Nat.toUInt8_eq, UInt8.ofNat_toNat]
  · simp only [encode, hn, List.map_cons, List.map_nil]

/-- The symbols of one octet amount to this octet. -/
theorem exists_two (x : UInt8) : ∃ v w, (v < 64 ∧ w < 64) ∧
    lastOctets [v, w] = ([x], 0) ∧
      ([v, w].flatMap (bits 6) =
        ([x].flatMap fun x => bits 8 x.toNat) ++ List.replicate 4 false) ∧
        ∀ a, encode a [x] = [v, w].map a.symbol := by
  have hx := x.toNat_lt
  have h₁ : (x.toNat / 4 * 64 + x.toNat % 4 * 16) / 16 = x.toNat := by omega
  have h₂ : (x.toNat / 4 * 64 + x.toNat % 4 * 16) % 16 = 0 := by omega
  refine ⟨x.toNat / 4, x.toNat % 4 * 16, by omega, ?_, bits_two x, fun a => rfl⟩
  simp only [lastOctets, h₁, h₂, Nat.toUInt8_eq, UInt8.ofNat_toNat]

/-- **The rule of base64.**  Symbols spell octets if they stand for the bits of the octets, six bits
each, where zeros fill up what the last symbol has to spare. -/
def Spells (a : Alphabet) (octets symbols : List UInt8) : Prop :=
  ∃ (values : List Nat) (fill : Nat), symbols = values.map a.symbol ∧ (∀ v ∈ values, v < 64) ∧
    fill < 6 ∧ values.flatMap (bits 6) =
      octets.flatMap (fun x => bits 8 x.toNat) ++ List.replicate fill false

/-- **What is written follows the rule.** -/
theorem spells_encode (a : Alphabet) (octets : List UInt8) :
    Spells a octets (encode a octets) := by
  induction octets using encode.induct with
  | case1 x y z rest ih =>
    obtain ⟨values, fill, hvalues, hbound, hfill, hrest⟩ := ih
    obtain ⟨v, w, u, t, ⟨hv, hw, hu, ht⟩, -, hbits, hencode⟩ := exists_four x y z
    refine ⟨[v, w, u, t] ++ values, fill, ?_, ?_, hfill, ?_⟩
    · rw [hencode, hvalues, List.map_append]
    · simpa [hv, hw, hu, ht] using hbound
    · rw [List.flatMap_append, hbits, hrest, ← List.append_assoc, ← List.flatMap_append]
      rfl
  | case2 x y =>
    obtain ⟨v, w, u, ⟨hv, hw, hu⟩, -, hbits, hencode⟩ := exists_three x y
    exact ⟨[v, w, u], 2, hencode a, by simp [hv, hw, hu], by decide, hbits⟩
  | case3 x =>
    obtain ⟨v, w, ⟨hv, hw⟩, -, hbits, hencode⟩ := exists_two x
    exact ⟨[v, w], 4, hencode a, by simp [hv, hw], by decide, hbits⟩
  | case4 => exact ⟨[], 0, rfl, by simp, by decide, rfl⟩

/-! ## 4. Canonical texts -/

/-- What a text in base64 looks like without padding: symbols of the alphabet, of which none is left
over, and the bits of the last one that belong to no octet are zero. -/
structure Canonical (a : Alphabet) (bs : List UInt8) : Prop where
  symbols : ∀ b ∈ bs, (a.value? b).isSome
  whole : bs.length % 4 ≠ 1
  unused : ∀ last ∈ bs.getLast?, ∀ v ∈ a.value? last,
    (bs.length % 4 = 2 → v % 16 = 0) ∧ (bs.length % 4 = 3 → v % 4 = 0)

/-- A group of four in front has no bits to spare. -/
theorem canonical_group_append {group rest : List UInt8} (hgroup : group.length = 4) :
    Canonical a (group ++ rest) ↔ (∀ b ∈ group, (a.value? b).isSome) ∧ Canonical a rest := by
  have hlength : (group ++ rest).length % 4 = rest.length % 4 := by
    rw [List.length_append, hgroup, Nat.add_mod_left]
  constructor
  · intro h
    refine ⟨fun b hb => h.symbols b (List.mem_append_left rest hb),
      fun b hb => h.symbols b (List.mem_append_right group hb), hlength ▸ h.whole,
      fun last hlast v hv => ?_⟩
    have hend : last ∈ (group ++ rest).getLast? := by
      rw [Option.mem_def] at hlast ⊢
      rw [List.getLast?_append, hlast, Option.some_or]
    exact hlength ▸ h.unused last hend v hv
  · rintro ⟨hsymbols, h⟩
    refine ⟨fun b hb => (List.mem_append.mp hb).elim (hsymbols b) (h.symbols b), hlength ▸ h.whole,
      fun last hlast v hv => ?_⟩
    rw [hlength]
    cases hrest : rest.getLast? with
    | none =>
      obtain rfl := List.getLast?_eq_none_iff.mp hrest
      exact ⟨fun h₂ => absurd h₂ (by decide), fun h₃ => absurd h₃ (by decide)⟩
    | some b =>
      rw [Option.mem_def, List.getLast?_append, hrest, Option.some_or, Option.some.injEq] at hlast
      exact h.unused last (hlast ▸ hrest) v hv

/-- What looks like base64 was written. -/
theorem Canonical.exists_encode : ∀ {bs : List UInt8}, Canonical a bs → ∃ out, bs = encode a out
  | [], _ => ⟨[], rfl⟩
  | [b], h => absurd rfl h.whole
  | [b, c], h => by
    obtain ⟨⟨v, hv, rfl⟩, ⟨w, hw, rfl⟩⟩ := by
      simpa [Alphabet.isSome_value?_iff] using h.symbols
    have hunused : w % 16 = 0 := (h.unused _ rfl w (a.value?_symbol hw)).1 rfl
    exact ⟨_, (encode_two hv hw (by simp only [lastOctets]; omega)).symm⟩
  | [b, c, d], h => by
    obtain ⟨⟨v, hv, rfl⟩, ⟨w, hw, rfl⟩, ⟨x, hx, rfl⟩⟩ := by
      simpa [Alphabet.isSome_value?_iff] using h.symbols
    have hunused : x % 4 = 0 := (h.unused _ rfl x (a.value?_symbol hx)).2 rfl
    exact ⟨_, (encode_three hv hw hx (by simp only [lastOctets]; omega)).symm⟩
  | b :: c :: d :: e :: rest, h => by
    have hgroup : [b, c, d, e].length = 4 := rfl
    obtain ⟨hsymbols, hrest⟩ := (canonical_group_append hgroup).mp h
    obtain ⟨⟨v, hv, rfl⟩, ⟨w, hw, rfl⟩, ⟨x, hx, rfl⟩, ⟨y, hy, rfl⟩⟩ := by
      simpa [Alphabet.isSome_value?_iff] using hsymbols
    obtain ⟨out, rfl⟩ := hrest.exists_encode
    exact ⟨_, (encode_four hv hw hx hy out).symm⟩

/-- The bits of the last symbol that belong to no octet were written as zeros. -/
theorem canonical_encode (a : Alphabet) (out : List UInt8) : Canonical a (encode a out) := by
  induction out using encode.induct with
  | case1 x y z rest ih =>
    obtain ⟨v, w, u, t, ⟨hv, hw, hu, ht⟩, -, -, hencode⟩ := exists_four x y z
    rw [hencode, canonical_group_append rfl]
    exact ⟨by simp [a.value?_symbol, hv, hw, hu, ht], ih⟩
  | case2 x y =>
    obtain ⟨v, w, u, ⟨hv, hw, hu⟩, hoctets, -, hencode⟩ := exists_three x y
    have hleft : (v * 4096 + w * 64 + u) % 4 = 0 := congrArg Prod.snd hoctets
    have hunused : u % 4 = 0 := by omega
    rw [hencode]
    exact ⟨by simp [a.value?_symbol, hv, hw, hu], by simp, by simp [a.value?_symbol, hu, hunused]⟩
  | case3 x =>
    obtain ⟨v, w, ⟨hv, hw⟩, hoctets, -, hencode⟩ := exists_two x
    have hleft : (v * 64 + w) % 16 = 0 := congrArg Prod.snd hoctets
    have hunused : w % 16 = 0 := by omega
    rw [hencode]
    exact ⟨by simp [a.value?_symbol, hv, hw], by simp, by simp [a.value?_symbol, hw, hunused]⟩
  | case4 => exact ⟨by simp [encode], by simp [encode], by simp [encode]⟩

/-- **The texts that look like base64 are the written ones.** -/
theorem canonical_iff {bs : List UInt8} : Canonical a bs ↔ ∃ out, bs = encode a out := by
  constructor
  · exact Canonical.exists_encode
  · rintro ⟨out, rfl⟩
    exact canonical_encode a out

/-! ## 5. The last group -/

/-- The last group is judged by what is left over, unless there is nothing in it. -/
theorem leftover_eq_ok_iff {vs : List Nat} {i : Nat} {out : List UInt8} :
    (match (vs.map a.symbol).getLast? with
      | some last =>
        if (lastOctets vs).2 ≠ 0 then do
          throw (Fault.lastSymbol last i)
          pure (lastOctets vs).1
        else pure (lastOctets vs).1
      | none => pure (lastOctets vs).1 : Except Fault (List UInt8)) = .ok out ↔
      lastOctets vs = (out, 0) := by
  cases hlast : (vs.map a.symbol).getLast? with
  | none =>
    obtain rfl : vs = [] := by simpa using hlast
    simp [lastOctets, pure, Except.pure]
  | some last =>
    rw [guard_eq_ok_iff]
    simp [Prod.ext_iff, pure, Except.pure, and_comm]

/-- A group that is not empty and has fewer than two symbols has one. -/
theorem lone_iff {bs : List UInt8} :
    (!bs.isEmpty && decide (bs.length < 2)) = true ↔ bs.length = 1 := by
  cases bs with
  | nil => simp
  | cons b bs =>
    simp only [List.isEmpty_cons, Bool.not_false, Bool.true_and, decide_eq_true_iff,
      List.length_cons]
    omega

/-- **What the last group amounts to.**  It is read if it consists of symbols, not of a single one,
and no bits are left over. -/
theorem decodeLast_eq_ok_iff {offset : Nat} {bs out : List UInt8} :
    decodeLast a .none offset bs = .ok out ↔
      ∃ vs, vs.map a.symbol = bs ∧ (∀ v ∈ vs, v < 64) ∧ vs.length ≠ 1 ∧
        lastOctets vs = (out, 0) := by
  simp only [decodeLast, bind_eq_ok_iff, symbolsFrom_eq_ok_iff, guard_eq_ok_iff]
  constructor
  · rintro ⟨vs, ⟨hmap, hbound⟩, -, hlone, hpadding, hend⟩
    -- there is no padding, so the symbols are the whole group
    have hnone : bs.dropWhile (· != padOctet) = [] := by
      rwa [Bool.not_eq_true', Bool.not_eq_false, List.isEmpty_iff] at hpadding
    have hwhole : bs.takeWhile (· != padOctet) = bs := by
      have happend := List.takeWhile_append_dropWhile (p := (· != padOctet)) (l := bs)
      rwa [hnone, List.append_nil] at happend
    rw [hwhole] at hmap hlone hend
    subst hmap
    rw [lone_iff, List.length_map] at hlone
    exact ⟨vs, rfl, hbound, hlone, leftover_eq_ok_iff.mp hend⟩
  · rintro ⟨vs, rfl, hbound, hlone, hvs⟩
    have hsymbols : ∀ b ∈ vs.map a.symbol, (b != padOctet) = true := by
      intro b hb
      obtain ⟨v, hv, rfl⟩ := List.mem_map.mp hb
      simpa using symbol_ne_padOctet (hbound v hv)
    have hwhole := List.takeWhile_eq_self_iff.mpr hsymbols
    have hnone := List.dropWhile_eq_nil_iff.mpr hsymbols
    refine ⟨vs, ⟨hwhole.symm, hbound⟩, ?_⟩
    rw [hwhole, hnone]
    exact ⟨by simp, by rwa [lone_iff, List.length_map], by simp, leftover_eq_ok_iff.mpr hvs⟩

/-! ## 6. Reading -/

/-- **The last group is what its octets are written as.** -/
theorem encode_of_decodeLast {offset : Nat} {bs out : List UInt8} (hlength : bs.length ≤ 4)
    (h : decodeLast a .none offset bs = .ok out) : encode a out = bs := by
  obtain ⟨vs, rfl, hbound, hlone, hvs⟩ := decodeLast_eq_ok_iff.mp h
  obtain ⟨rfl, hleft⟩ : (lastOctets vs).1 = out ∧ (lastOctets vs).2 = 0 := by simp [hvs]
  rw [List.length_map] at hlength
  -- by the number of symbols
  rcases vs with _ | ⟨v, _ | ⟨w, _ | ⟨x, _ | ⟨y, _ | ⟨z, vs⟩⟩⟩⟩⟩
  · rfl
  · exact absurd rfl hlone
  · obtain ⟨hv, hw, -⟩ : v < 64 ∧ w < 64 ∧ True := by simpa using hbound
    exact encode_two hv hw hleft
  · obtain ⟨hv, hw, hx⟩ : v < 64 ∧ w < 64 ∧ x < 64 := by simpa using hbound
    exact encode_three hv hw hx hleft
  · obtain ⟨hv, hw, hx, hy⟩ : v < 64 ∧ w < 64 ∧ x < 64 ∧ y < 64 := by simpa using hbound
    exact encode_four hv hw hx hy []
  · simp only [List.length_cons] at hlength
    omega

/-- What was read is written as it was. -/
theorem encode_of_decodeFrom {offset : Nat} {bs out : List UInt8}
    (h : decodeFrom a .none offset bs = .ok out) : encode a out = bs := by
  fun_induction decodeFrom a .none offset bs generalizing out with
  | case1 offset b c d e f rest ih =>
    simp only [bind_eq_ok_iff, symbolAt_eq_ok_iff] at h
    obtain ⟨v, hv, w, hw, x, hx, y, hy, octets, hoctets, hend⟩ := h
    obtain rfl := Except.ok.inj hend
    obtain ⟨hv64, rfl⟩ := Alphabet.symbol_of_value? hv
    obtain ⟨hw64, rfl⟩ := Alphabet.symbol_of_value? hw
    obtain ⟨hx64, rfl⟩ := Alphabet.symbol_of_value? hx
    obtain ⟨hy64, rfl⟩ := Alphabet.symbol_of_value? hy
    rw [encode_four hv64 hw64 hx64 hy64, ih hoctets]
    rfl
  | case2 offset bs hshort =>
    refine encode_of_decodeLast (Nat.not_lt.mp fun hlong => ?_) h
    rcases bs with _ | ⟨b, _ | ⟨c, _ | ⟨d, _ | ⟨e, _ | ⟨f, rest⟩⟩⟩⟩⟩
    case cons.cons.cons.cons.cons => exact hshort b c d e f rest rfl
    all_goals simp at hlong

/-- Four octets at most are the last group. -/
theorem decodeFrom_short {pad : Padding} {offset : Nat} {bs : List UInt8} (h : bs.length ≤ 4) :
    decodeFrom a pad offset bs = decodeLast a pad offset bs := by
  rcases bs with _ | ⟨b, _ | ⟨c, _ | ⟨d, _ | ⟨e, _ | ⟨f, rest⟩⟩⟩⟩⟩
  case cons.cons.cons.cons.cons =>
    simp only [List.length_cons] at h
    omega
  all_goals rfl

/-- **What was written is read group by group.**  Its end may be finished in some way that leaves a
whole group as it is, if the last group is read with it. -/
theorem decodeFrom_of_last {pad : Padding} {finish : List UInt8 → List UInt8}
    (hnil : finish [] = [])
    (hgroup : ∀ group rest, group.length = 4 → finish (group ++ rest) = group ++ finish rest)
    (hlast : ∀ offset vs out, (∀ v ∈ vs, v < 64) → vs.length ≠ 1 → vs.length ≤ 4 →
      lastOctets vs = (out, 0) → (finish (vs.map a.symbol)).length ≤ 4 ∧
        decodeLast a pad offset (finish (vs.map a.symbol)) = .ok out)
    (offset : Nat) (out : List UInt8) :
    decodeFrom a pad offset (finish (encode a out)) = .ok out := by
  have hshort (offset vs out) (hbound : ∀ v ∈ vs, v < 64) (hlone : vs.length ≠ 1)
      (hfour : vs.length ≤ 4) (h : lastOctets vs = (out, 0)) :
      decodeFrom a pad offset (finish (vs.map a.symbol)) = .ok out := by
    obtain ⟨hlength, hread⟩ := hlast offset vs out hbound hlone hfour h
    rw [decodeFrom_short hlength, hread]
  induction out using encode.induct generalizing offset with
  | case1 x y z rest ih =>
    obtain ⟨v, w, u, t, ⟨hv, hw, hu, ht⟩, hoctets, -, hencode⟩ := exists_four x y z
    rw [hencode, hgroup _ _ rfl]
    cases hrest : finish (encode a rest) with
    | nil =>
      have hempty : decodeFrom a pad offset [] = .ok [] := by cases pad <;> rfl
      obtain rfl : [] = rest := Except.ok.inj (hempty.symm.trans (hrest ▸ ih offset))
      have hwhole := hgroup ([v, w, u, t].map a.symbol) [] rfl
      rw [List.append_nil, hnil] at hwhole
      rw [← hwhole]
      exact hshort _ _ _ (by simp [hv, hw, hu, ht]) (by simp) (by simp) hoctets
    | cons f tail =>
      have hread (i : Nat) {s : Nat} (hs : s < 64) : symbolAt a i (a.symbol s) = .ok s :=
        symbolAt_eq_ok_iff.mpr (a.value?_symbol hs)
      have htail : decodeFrom a pad (offset + 4) (f :: tail) = .ok rest := hrest ▸ ih (offset + 4)
      simp only [List.map_cons, List.map_nil, List.cons_append, List.nil_append, decodeFrom,
        bind_eq_ok_iff]
      exact ⟨v, hread _ hv, w, hread _ hw, u, hread _ hu, t, hread _ ht, rest, htail,
        by rw [hoctets]; rfl⟩
  | case2 x y =>
    obtain ⟨v, w, u, ⟨hv, hw, hu⟩, hoctets, -, hencode⟩ := exists_three x y
    rw [hencode]
    exact hshort _ _ _ (by simp [hv, hw, hu]) (by simp) (by simp) hoctets
  | case3 x =>
    obtain ⟨v, w, ⟨hv, hw⟩, hoctets, -, hencode⟩ := exists_two x
    rw [hencode]
    exact hshort _ _ _ (by simp [hv, hw]) (by simp) (by simp) hoctets
  | case4 => exact hshort _ [] _ (by simp) (by simp) (by simp) rfl

/-- **What was written is read.** -/
theorem decodeFrom_encode (offset : Nat) (out : List UInt8) :
    decodeFrom a .none offset (encode a out) = .ok out := by
  refine @decodeFrom_of_last a .none id rfl (fun _ _ _ => rfl) ?_ offset out
  intro offset vs out hbound hlone hfour h
  rw [id, List.length_map]
  exact ⟨hfour, decodeLast_eq_ok_iff.mpr ⟨vs, rfl, hbound, hlone, h⟩⟩

/-- **Reading accepts exactly what writing produces.** -/
theorem decode_eq_ok_iff {bs out : List UInt8} :
    decode a .none bs = .ok out ↔ bs = encode a out := by
  constructor
  · intro h
    rw [decode] at h
    split at h
    · split at h
      · exact nomatch h
      · exact (encode_of_decodeFrom h).symm
    · exact (encode_of_decodeFrom h).symm
  · rintro rfl
    rw [decode]
    split
    · rw [if_neg fun hlone => (canonical_encode a out).whole hlone.1, decodeFrom_encode]
    · exact decodeFrom_encode 0 out

/-- Different octets are written differently. -/
theorem encode_inj {xs ys : List UInt8} : encode a xs = encode a ys ↔ xs = ys := by
  constructor
  · intro h
    have hx : decode a .none (encode a xs) = .ok xs := decode_eq_ok_iff.mpr rfl
    have hy : decode a .none (encode a xs) = .ok ys := decode_eq_ok_iff.mpr h
    exact Except.ok.inj (hx.symm.trans hy)
  · exact congrArg (encode a)

/-! ## 7. Padding -/

/-- Symbols and the padding that fills the last group are read as the symbols alone. -/
theorem decodeLast_padded {offset : Nat} {vs : List Nat} {out : List UInt8} (fill : Nat)
    (hbound : ∀ v ∈ vs, v < 64) (htwo : 2 ≤ vs.length) (hwhole : (vs.length + fill) % 4 = 0)
    (h : lastOctets vs = (out, 0)) :
    decodeLast a .canonical offset (vs.map a.symbol ++ List.replicate fill padOctet) = .ok out := by
  have hsymbols : ∀ b ∈ vs.map a.symbol, (b != padOctet) = true := by
    intro b hb
    obtain ⟨v, hv, rfl⟩ := List.mem_map.mp hb
    simpa using symbol_ne_padOctet (hbound v hv)
  have hhead : (vs.map a.symbol ++ List.replicate fill padOctet).takeWhile (· != padOctet) =
      vs.map a.symbol := by
    rw [List.takeWhile_append_of_pos hsymbols, List.takeWhile_replicate]
    simp
  have hrest : (vs.map a.symbol ++ List.replicate fill padOctet).dropWhile (· != padOctet) =
      List.replicate fill padOctet := by
    rw [List.dropWhile_append_of_pos hsymbols, List.dropWhile_replicate]
    simp
  have hmany : ¬ vs.length < 2 := Nat.not_lt.mpr htwo
  have hfill : (List.replicate fill padOctet).any (· != padOctet) = false := by
    rw [List.any_replicate]
    simp
  simp only [decodeLast, bind_eq_ok_iff, symbolsFrom_eq_ok_iff, guard_eq_ok_iff, hhead, hrest]
  refine ⟨vs, ⟨rfl, hbound⟩, ?_, ?_, ?_, leftover_eq_ok_iff.mpr h⟩
  · simp only [List.length_map, hmany, hfill, decide_false, Bool.false_or, Bool.and_false,
      Bool.false_eq_true, not_false_eq_true]
  · simp only [List.length_map, hmany, decide_false, Bool.and_false, Bool.false_eq_true,
      not_false_eq_true]
  · simp only [List.length_append, List.length_map, List.length_replicate, hwhole, ne_eq,
      not_true_eq_false, not_false_eq_true]

theorem padded_append (group rest : List UInt8) (h : group.length = 4) :
    padded (group ++ rest) = group ++ padded rest := by
  rw [padded, padded, List.length_append, h, Nat.add_mod_left, List.append_assoc]

theorem length_padded (bs : List UInt8) : (padded bs).length % 4 = 0 := by
  rw [padded, List.length_append, List.length_replicate]
  omega

theorem decodeFrom_padded (offset : Nat) (out : List UInt8) :
    decodeFrom a .canonical offset (padded (encode a out)) = .ok out := by
  refine decodeFrom_of_last rfl padded_append ?_ offset out
  intro offset vs out hbound hlone hfour h
  have hlength : (padded (vs.map a.symbol)).length = vs.length + (4 - vs.length % 4) % 4 := by
    rw [padded, List.length_append, List.length_replicate, List.length_map]
  refine ⟨by omega, ?_⟩
  cases vs with
  | nil =>
    rw [(Prod.mk.inj h).1.symm]
    cbv
  | cons v vs =>
    rw [List.length_cons] at hlone hfour
    rw [padded, List.length_map]
    exact decodeLast_padded _ hbound (by rw [List.length_cons]; omega) (by omega) h

/-- **What is written and padded is read.** -/
theorem decode_padded (a : Alphabet) (out : List UInt8) :
    decode a .canonical (padded (encode a out)) = .ok out := by
  have hwhole := length_padded (encode a out)
  rw [decode]
  split
  · rw [if_neg fun h => by omega, decodeFrom_padded]
  · exact decodeFrom_padded 0 out

end Base64
end TokenTrust
