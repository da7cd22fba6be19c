/-
# What a token says and what is signed of it

The octets that a signature has to cover are those of the token before its last dot
(`Token.signedOctets`).  A token that was decoded counts exactly them
(`signingInput_eq_signedOctets`), because the third segment holds no dot.

Of its header, only parameters that are strings say anything.  A claim may be a text, or it may list
several (`Token.Lists`), and then what is no text says nothing.
-/
import TokenTrust.Proofs.Text
import TokenTrust.Token

namespace TokenTrust

/-! ## 1. What is signed -/

namespace Token

/-- What is signed of a token: the octets before its last dot. -/
def signedOctets (t : Token) : List UInt8 :=
  beforeLast 0x2E (Text.Utf8.bytes t.raw)

/-- Three segments are the text, and there is no dot in the last one. -/
theorem eq_of_segments {cs h p g : List Char} (hs : segments cs = .ok (h, p, g)) :
    cs = (h ++ '.' :: p) ++ '.' :: g ∧ '.' ∉ g := by
  unfold segments at hs
  split at hs
  · next h' p' g' hc =>
    split at hs
    · exact absurd hs (by simp)
    · obtain ⟨rfl, rfl, rfl⟩ : h' = h ∧ p' = p ∧ g' = g := by simpa using hs
      have hg : g' ∈ Text.cut '.' cs := by simp [hc]
      refine ⟨?_, Text.not_mem_of_mem_cut hg⟩
      rw [← Text.join_cut '.' cs, hc]
      simp [Text.join]
  · exact absurd hs (by simp)

/-- The octets of three segments with dots between them. -/
theorem encode_segments (h p g : List Char) : Text.Utf8.encode ((h ++ '.' :: p) ++ '.' :: g) =
    (Text.Utf8.encode h ++ 0x2E :: Text.Utf8.encode p) ++ 0x2E :: Text.Utf8.encode g := by
  rw [Text.Utf8.encode_append, Text.Utf8.encode_append, Text.Utf8.encode_cons,
    Text.Utf8.encode_cons]
  rfl

/-- The length that is counted is that of the first two segments with the dot between them. -/
theorem signedLength_eq (h p : List Char) :
    (Text.Utf8.encode h).length + 1 + (Text.Utf8.encode p).length =
      (Text.Utf8.encode h ++ 0x2E :: Text.Utf8.encode p).length := by
  simp only [List.length_append, List.length_cons]
  omega

/-- The octets of a token are those that are signed, a dot, and a segment without a dot. -/
theorem raw_eq_of_parse {text : String} {t : Token} (ht : parse text = .ok t) :
    ∃ g : List Char,
      Text.Utf8.bytes t.raw = t.signingInput ++ 0x2E :: Text.Utf8.encode g ∧ '.' ∉ g := by
  have hp : parse? text = .ok t := mapError_eq_ok_iff.mp ht
  simp only [parse?, bind_eq_ok_iff] at hp
  obtain ⟨⟨h, p, g⟩, hs, header, -, claims, -, signature, -, hend⟩ := hp
  obtain rfl := Except.ok.inj hend
  obtain ⟨hraw, hg⟩ := eq_of_segments hs
  refine ⟨g, ?_, hg⟩
  simp only [signingInput, Text.Utf8.bytes]
  rw [hraw, encode_segments, signedLength_eq, List.take_left]

/-- **The signature covers what stands before the last dot**, octet for octet. -/
theorem signingInput_eq_signedOctets {text : String} {t : Token} (h : parse text = .ok t) :
    t.signingInput = t.signedOctets := by
  obtain ⟨g, hraw, hg⟩ := raw_eq_of_parse h
  have hdot : (0x2E : UInt8) ∉ Text.Utf8.encode g := fun hm =>
    hg ((Text.Utf8.mem_encode_iff (a := '.') (by decide)).mp hm)
  rw [signedOctets, hraw, beforeLast_append_cons hdot]

end Token

/-! ## 2. Texts -/

namespace Json.Value

theorem string?_eq_some_iff {v : Value} {s : String} : v.string? = some s ↔ v = .string s := by
  cases v <;> simp [string?]

/-- **A value lists a text**: it is that text, or an array with the text in it. -/
theorem mem_strings_iff {v : Value} {s : String} :
    s ∈ v.strings ↔ v = .string s ∨ ∃ items, v = .array items ∧ .string s ∈ items := by
  cases v with
  | string => simp [strings, eq_comm]
  | array => simp [strings, string?_eq_some_iff]
  | _ => simp [strings]

end Json.Value

namespace Token

variable {t : Token} {name text client : String}

/-- A header parameter counts only if it is a string. -/
theorem headerString?_eq_some_iff {value : String} :
    t.headerString? name = some value ↔ t.header.get? name = some (.string value) := by
  simp [headerString?, Option.bind_eq_some_iff, Json.Value.string?_eq_some_iff]

/-- So does a claim that is asked for as a text. -/
theorem claimString?_eq_some_iff {value : String} :
    t.claimString? name = some value ↔ t.claim? name = some (.string value) := by
  simp [claimString?, Option.bind_eq_some_iff, Json.Value.string?_eq_some_iff]

/-- **A claim lists a text**: it is that text, or it is an array and the text is in it. -/
inductive Lists (t : Token) (name text : String) : Prop
  | alone (h : t.claim? name = some (.string text))
  | among {items : List Json.Value} (h : t.claim? name = some (.array items))
    (hmem : .string text ∈ items)

theorem mem_claimStrings_iff : text ∈ t.claimStrings name ↔ t.Lists name text := by
  rw [claimStrings]
  constructor
  · intro h
    cases hc : t.claim? name with
    | none => simp [hc] at h
    | some v =>
      rw [hc] at h
      rcases Json.Value.mem_strings_iff.mp h with rfl | ⟨items, rfl, hmem⟩
      · exact .alone hc
      · exact .among hc hmem
  · intro h
    cases h with
    | alone hc =>
      rw [hc]
      exact Json.Value.mem_strings_iff.mpr (Or.inl rfl)
    | among hc hmem =>
      rw [hc]
      exact Json.Value.mem_strings_iff.mpr (Or.inr ⟨_, rfl, hmem⟩)

/-- The first occurrences are occurrences, and there is one for each element. -/
theorem mem_distinct_iff {xs : List String} {x : String} : x ∈ distinct xs ↔ x ∈ xs := by
  induction xs using List.reverseRecOn with
  | nil => simp [distinct]
  | append_singleton xs y ih =>
    have hlast : distinct (xs ++ [y]) =
        if (distinct xs).contains y then distinct xs else distinct xs ++ [y] := by
      rw [distinct, List.foldl_append]
      rfl
    rw [hlast, List.mem_append, List.mem_singleton, ← ih]
    split
    · next hseen =>
      constructor
      · exact Or.inl
      · rintro (h | rfl)
        · exact h
        · exact List.contains_iff_mem.mp hseen
    · rw [List.mem_append, List.mem_singleton]

theorem mem_audiences_iff : text ∈ t.audiences ↔ t.Lists "aud" text := by
  rw [audiences, mem_distinct_iff, mem_claimStrings_iff]

theorem isEmpty_audiences_iff : t.audiences.isEmpty = true ↔ ∀ text, ¬ t.Lists "aud" text := by
  simp only [List.isEmpty_iff, List.eq_nil_iff_forall_not_mem, mem_audiences_iff]

/-- **The client that a token was issued to.**  Another claim says it where `cid` is no text. -/
inductive IssuedTo (t : Token) (client : String) : Prop
  | cid (h : t.claim? "cid" = some (.string client))
  | azp (hcid : ∀ other, t.claim? "cid" ≠ some (.string other))
    (h : t.claim? "azp" = some (.string client))

theorem clientId?_eq_some_iff : t.clientId? = some client ↔ t.IssuedTo client := by
  rw [clientId?]
  cases hcid : t.claimString? "cid" with
  | some c =>
    have hclaim := claimString?_eq_some_iff.mp hcid
    constructor
    · intro h
      obtain rfl : c = client := by simpa using h
      exact .cid hclaim
    · intro h
      cases h with
      | cid h => simpa [hcid] using claimString?_eq_some_iff.mpr h
      | azp hnone => exact absurd hclaim (hnone c)
  | none =>
    have hnone : ∀ other, t.claim? "cid" ≠ some (.string other) := fun other h => by
      simp [claimString?_eq_some_iff.mpr h] at hcid
    constructor
    · intro h
      exact .azp hnone (claimString?_eq_some_iff.mp (by simpa using h))
    · intro h
      cases h with
      | cid h => exact absurd h (hnone client)
      | azp _ h => simpa using claimString?_eq_some_iff.mpr h

end Token
end TokenTrust
