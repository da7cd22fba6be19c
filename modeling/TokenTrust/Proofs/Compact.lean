/-
# The compact form

A text in the compact form is three segments with two dots between them, and the first two hold
something (`Compact`).  A segment stands for octets if it is what they are written as in the
URL-safe alphabet, with any amount of padding behind (`StandsFor`).  This is what decoding a segment
accepts, in both directions (`decodeSegment_eq_ok_iff`): there is one text for a byte string, up to
the padding, and none of it can be changed without being noticed.

A text is a token if it is in the compact form, without blanks around it, its segments look like
base64 and the first two of them are JSON objects (`parses_iff_compact`).  The token then keeps
every octet of the text and counts those that are signed, which are a slice of it.  What was written
is decoded to what it was written from, and two tokens that are signed alike differ in padding only
(`segments_round_trip`).
-/
import Mathlib
import TokenTrust.Proofs.Base64
import TokenTrust.Proofs.Subdomain
import TokenTrust.Proofs.Token

namespace TokenTrust

/-! ## 1. Segments -/

namespace Base64

/-- What octets are written as in the URL-safe alphabet. -/
def text (octets : List UInt8) : List Char :=
  Text.Utf8.ascii (encode .urlSafe octets)

/-- What is written is symbols. -/
theorem exists_symbol_of_mem_encode {a : Alphabet} {octets : List UInt8} {b : UInt8}
    (h : b ∈ encode a octets) : ∃ v < 64, a.symbol v = b :=
  Alphabet.isSome_value?_iff.mp ((canonical_encode a octets).symbols b h)

theorem lt_of_mem_encode {a : Alphabet} {octets : List UInt8} :
    ∀ b ∈ encode a octets, b.toNat < 0x80 := by
  intro b hb
  obtain ⟨v, hv, rfl⟩ := exists_symbol_of_mem_encode hb
  exact a.symbol_lt hv

/-- A text is as long in octets as in characters. -/
theorem encode_text (octets : List UInt8) :
    Text.Utf8.encode (text octets) = encode .urlSafe octets :=
  (Text.Utf8.encode_eq_iff lt_of_mem_encode).mpr rfl

/-- Different octets are written as different texts. -/
theorem text_inj {xs ys : List UInt8} : text xs = text ys ↔ xs = ys := by
  refine ⟨fun h => ?_, congrArg text⟩
  rw [← encode_inj (a := .urlSafe), ← encode_text, h, encode_text]

/-- A symbol is ASCII, and no dot, padding or blank. -/
theorem of_mem_text {octets : List UInt8} {c : Char} (h : c ∈ text octets) :
    c ≠ '.' ∧ c ≠ '=' ∧ Text.isBlank c = false ∧ c.toNat < 0x80 := by
  obtain ⟨b, hb, rfl⟩ := List.mem_map.mp h
  obtain ⟨v, hv, rfl⟩ := exists_symbol_of_mem_encode hb
  have hall : ∀ n : Fin 64, let c := Char.ofNat (Alphabet.urlSafe.symbol n).toNat
      c ≠ '.' ∧ c ≠ '=' ∧ Text.isBlank c = false ∧ c.toNat < 0x80 := by decide
  exact hall ⟨v, hv⟩

end Base64

namespace Token

/-- Octets as a segment, with some padding behind. -/
def written (octets : List UInt8) (padding : Nat) : List Char :=
  Base64.text octets ++ List.replicate padding '='

/-- **A segment stands for octets** if they are written so, up to padding at its end. -/
def StandsFor (segment : List Char) (octets : List UInt8) : Prop :=
  ∃ padding, segment = written octets padding

/-- What is left of a segment without its padding. -/
def unpadded (segment : List Char) : List UInt8 :=
  Text.Utf8.encode (Text.dropEnd (· == '=') segment)

theorem unpadded_eq_iff {segment : List Char} {octets : List UInt8} :
    unpadded segment = Base64.encode .urlSafe octets ↔ StandsFor segment octets := by
  rw [unpadded, Text.Utf8.encode_eq_iff Base64.lt_of_mem_encode]
  constructor
  · intro h
    obtain ⟨n, hn⟩ := Text.exists_eq_dropEnd_append '=' segment
    exact ⟨n, by rwa [h] at hn⟩
  · rintro ⟨n, rfl⟩
    refine Text.dropEnd_append (fun c hc => ?_) fun c hc => ?_
    · simpa using (Base64.of_mem_text hc).2.1
    · simpa using List.eq_of_mem_replicate hc

/-- **Decoding is the inverse of writing**, up to padding at the end. -/
theorem decodeSegment_eq_ok_iff {segment : List Char} {octets : List UInt8} :
    decodeSegment segment = .ok octets ↔ StandsFor segment octets := by
  rw [← unpadded_eq_iff, decodeSegment, Base64.decode_eq_ok_iff]
  rfl

/-- The segments that stand for something are those that look like base64. -/
theorem canonical_unpadded_iff {segment : List Char} :
    Base64.Canonical .urlSafe (unpadded segment) ↔ ∃ octets, StandsFor segment octets := by
  simp only [Base64.canonical_iff, unpadded_eq_iff]

/-- A segment that stands for something is ASCII, and no dot and no blank is part of it. -/
theorem StandsFor.of_mem {segment : List Char} {octets : List UInt8} (h : StandsFor segment octets)
    {c : Char} (hc : c ∈ segment) : c ≠ '.' ∧ Text.isBlank c = false ∧ c.toNat < 0x80 := by
  obtain ⟨n, rfl⟩ := h
  rcases List.mem_append.mp hc with hc | hc
  · obtain ⟨hdot, -, hink⟩ := Base64.of_mem_text hc
    exact ⟨hdot, hink⟩
  · rw [List.eq_of_mem_replicate hc]
    decide

/-- A segment says an object if it stands for the JSON text of one. -/
def SaysObject (segment : List Char) (members : Json.Members) : Prop :=
  ∃ octets, StandsFor segment octets ∧ Json.parse octets = .ok (.object members)

theorem SaysObject.exists_standsFor {segment : List Char} {members : Json.Members}
    (h : SaysObject segment members) : ∃ octets, StandsFor segment octets := by
  obtain ⟨octets, hoctets, -⟩ := h
  exact ⟨octets, hoctets⟩

theorem decodeObject_eq_ok_iff {name : Segment} {segment : List Char} {members : Json.Members} :
    decodeObject name segment = .ok members ↔ SaysObject segment members := by
  simp only [decodeObject, bind_eq_ok_iff, mapError_eq_ok_iff, decodeSegment_eq_ok_iff]
  constructor
  · rintro ⟨octets, hoctets, value, hvalue, hobject⟩
    refine ⟨octets, hoctets, ?_⟩
    split at hobject
    · next found =>
      obtain rfl : found = members := Except.ok.inj hobject
      exact hvalue
    · exact absurd hobject (by simp)
  · rintro ⟨octets, hoctets, hvalue⟩
    exact ⟨octets, hoctets, _, hvalue, rfl⟩

/-! ## 2. Texts -/

/-- **The compact form**: three segments with two dots between them, the first two not empty. -/
structure Compact (text header payload signature : List Char) : Prop where
  text_eq : text = header ++ '.' :: payload ++ '.' :: signature
  dotless : ∀ segment ∈ [header, payload, signature], '.' ∉ segment
  header_ne : header ≠ []
  payload_ne : payload ≠ []

theorem segments_eq_ok_iff {cs h p g : List Char} :
    segments cs = .ok (h, p, g) ↔ Compact cs h p g := by
  constructor
  · intro hs
    rw [segments] at hs
    split at hs
    · next h' p' g' hpieces =>
      split at hs
      · exact absurd hs (by simp)
      · next hne =>
        obtain ⟨rfl, rfl, rfl⟩ : h' = h ∧ p' = p ∧ g' = g := by simpa using hs
        have hjoin := Text.join_cut '.' cs
        rw [hpieces] at hjoin
        have hboth : h' ≠ [] ∧ p' ≠ [] := by simpa using hne
        exact ⟨by rw [← hjoin]; simp [Text.join],
          fun segment hmem => Text.not_mem_of_mem_cut (hpieces ▸ hmem), hboth.1, hboth.2⟩
    · exact absurd hs (by simp)
  · rintro ⟨rfl, hdotless, hh, hp⟩
    obtain ⟨hdot, hdot', hdot''⟩ : '.' ∉ h ∧ '.' ∉ p ∧ '.' ∉ g := by simpa using hdotless
    have hcut : Text.cut '.' (h ++ '.' :: p ++ '.' :: g) = [h, p, g] := by
      rw [Text.cut_append_cons, Text.cut_append_cons, Text.cut_of_not_mem hdot,
        Text.cut_of_not_mem hdot', Text.cut_of_not_mem hdot'']
      rfl
    rw [segments, hcut]
    simp [hh, hp]

/-- What is decoded of a text in the compact form. -/
structure Decoded (header payload signature : List Char) (t : Token) : Prop where
  raw : t.raw = String.ofList (header ++ '.' :: payload ++ '.' :: signature)
  signed : t.signedLength = (Text.Utf8.encode header).length + 1 + (Text.Utf8.encode payload).length
  header : SaysObject header t.header
  claims : SaysObject payload t.claims
  signature : StandsFor signature t.signature

/-- **A token is a text in the compact form, decoded.** -/
theorem parse_eq_ok_iff {text : String} {t : Token} :
    parse text = .ok t ↔
      ∃ h p g, Compact (Text.trim text).toList h p g ∧ Decoded h p g t := by
  simp only [parse, mapError_eq_ok_iff, parse?, bind_eq_ok_iff]
  constructor
  · rintro ⟨⟨h, p, g⟩, hs, header, hheader, claims, hclaims, signature, hsignature, hend⟩
    obtain rfl := Except.ok.inj hend
    have hcompact := segments_eq_ok_iff.mp hs
    refine ⟨h, p, g, hcompact, ?_, rfl, decodeObject_eq_ok_iff.mp hheader,
      decodeObject_eq_ok_iff.mp hclaims, decodeSegment_eq_ok_iff.mp hsignature⟩
    rw [← hcompact.text_eq, String.ofList_toList]
  · rintro ⟨h, p, g, hcompact, ⟨hraw, hsigned, hheader, hclaims, hsignature⟩⟩
    refine ⟨(h, p, g), segments_eq_ok_iff.mpr hcompact, t.header,
      decodeObject_eq_ok_iff.mpr hheader, t.claims, decodeObject_eq_ok_iff.mpr hclaims,
      t.signature, decodeSegment_eq_ok_iff.mpr hsignature, ?_⟩
    have htrim : Text.trim text = t.raw := by
      rw [hraw, ← hcompact.text_eq, String.ofList_toList]
    rw [htrim, ← hsigned]
    rfl

/-! ## 3. What is accepted and what is kept -/

/-- A text can be decoded if it is in the compact form and its segments can. -/
theorem exists_parse_iff {text : String} :
    (∃ t, parse text = .ok t) ↔ ∃ h p g, Compact (Text.trim text).toList h p g ∧
      (∃ members, SaysObject h members) ∧ (∃ members, SaysObject p members) ∧
        ∃ octets, StandsFor g octets := by
  constructor
  · rintro ⟨t, ht⟩
    obtain ⟨h, p, g, hcompact, hdecoded⟩ := parse_eq_ok_iff.mp ht
    exact ⟨h, p, g, hcompact, ⟨_, hdecoded.header⟩, ⟨_, hdecoded.claims⟩, _, hdecoded.signature⟩
  · rintro ⟨h, p, g, hcompact, ⟨header, hheader⟩, ⟨claims, hclaims⟩, signature, hsignature⟩
    exact ⟨⟨_, _, header, claims, signature⟩,
      parse_eq_ok_iff.mpr ⟨h, p, g, hcompact, rfl, rfl, hheader, hclaims, hsignature⟩⟩

namespace Decoded

variable {h p g : List Char} {t : Token}

/-- The octets of the text are its segments and two dots. -/
theorem bytes_raw (hd : Decoded h p g t) : Text.Utf8.bytes t.raw =
    (Text.Utf8.encode h ++ 0x2E :: Text.Utf8.encode p) ++ 0x2E :: Text.Utf8.encode g := by
  rw [hd.raw, Text.Utf8.bytes, String.toList_ofList, encode_segments]

/-- **The slice that is signed is the first two segments** with the dot between them. -/
theorem signingInput_eq (hd : Decoded h p g t) :
    t.signingInput = Text.Utf8.encode h ++ 0x2E :: Text.Utf8.encode p := by
  rw [signingInput, hd.signed, hd.bytes_raw, signedLength_eq, List.take_left]

/-- The octets of the slice tell which characters the segments are. -/
theorem eq_of_signingInput_eq {h' p' g' : List Char} {t' : Token} (hd : Decoded h p g t)
    (hd' : Decoded h' p' g' t') (hsigned : t.signingInput = t'.signingInput) :
    h ++ '.' :: p = h' ++ '.' :: p' := by
  obtain ⟨_, hh⟩ := hd'.header.exists_standsFor
  obtain ⟨_, hp⟩ := hd'.claims.exists_standsFor
  refine Text.Utf8.eq_of_encode_eq (fun c hc => ?_) ?_
  · rcases List.mem_append.mp hc with hc | hc
    · exact (hh.of_mem hc).2.2
    · rcases List.mem_cons.mp hc with rfl | hc
      · decide
      · exact (hp.of_mem hc).2.2
  · rw [hd.signingInput_eq, hd'.signingInput_eq] at hsigned
    rw [Text.Utf8.encode_append, Text.Utf8.encode_append, Text.Utf8.encode_cons,
      Text.Utf8.encode_cons]
    exact hsigned

/-- The slice does not reach beyond the text. -/
theorem signedLength_le (hd : Decoded h p g t) :
    t.signedLength ≤ (Text.Utf8.bytes t.raw).length := by
  rw [hd.signed, hd.bytes_raw, signedLength_eq]
  exact (List.prefix_append _ _).length_le

end Decoded

/-- **Exactly the compact form is accepted, and every octet of it is kept.**  The text is a token if
without blanks around it it is in the compact form, its segments look like base64 without their
padding, and the first two of them are objects.

The token then keeps the text without the blanks.  What is signed is the first two segments with the
dot between them, and the token knows how long that is, which is no longer than the text, and takes
the slice of this length; its other parts are what the segments say; and the text it keeps is a text
of the same token. -/
theorem parses_iff_compact (text : String) :
    ((∃ t, parse text = .ok t) ↔ ∃ h p g, Compact (Text.trim text).toList h p g ∧
      (∀ segment ∈ [h, p, g], Base64.Canonical .urlSafe (unpadded segment)) ∧
      (∃ members, SaysObject h members) ∧ ∃ members, SaysObject p members) ∧
    ∀ t, parse text = .ok t → t.raw = Text.trim text ∧ parse t.raw = .ok t ∧
      ∃ h p g, Compact t.raw.toList h p g ∧
        SaysObject h t.header ∧ SaysObject p t.claims ∧ StandsFor g t.signature ∧
        Text.Utf8.bytes t.raw = t.signingInput ++ 0x2E :: Text.Utf8.encode g ∧
        t.signingInput = Text.Utf8.encode h ++ 0x2E :: Text.Utf8.encode p ∧
        let signed := (Text.Utf8.encode h).length + 1 + (Text.Utf8.encode p).length
        t.signedLength = signed ∧ signed ≤ (Text.Utf8.bytes t.raw).length ∧
          t.signingInput = (Text.Utf8.bytes t.raw).take signed := by
  constructor
  · simp only [exists_parse_iff, List.forall_mem_cons, canonical_unpadded_iff]
    constructor
    · rintro ⟨h, p, g, hcompact, ⟨header, hheader⟩, ⟨claims, hclaims⟩, hsignature⟩
      exact ⟨h, p, g, hcompact,
        ⟨hheader.exists_standsFor, hclaims.exists_standsFor, hsignature, by simp⟩,
        ⟨header, hheader⟩, claims, hclaims⟩
    · rintro ⟨h, p, g, hcompact, ⟨-, -, hsignature, -⟩, hheader, hclaims⟩
      exact ⟨h, p, g, hcompact, hheader, hclaims, hsignature⟩
  · intro t ht
    obtain ⟨h, p, g, hcompact, hd⟩ := parse_eq_ok_iff.mp ht
    have hraw : t.raw = Text.trim text := by
      rw [hd.raw, ← hcompact.text_eq, String.ofList_toList]
    have hagain : parse t.raw = .ok t := by
      refine parse_eq_ok_iff.mpr ⟨h, p, g, ?_, hd⟩
      rwa [hraw, Text.trim_trim]
    rw [← hraw] at hcompact
    refine ⟨hraw, hagain, h, p, g, hcompact, hd.header, hd.claims, hd.signature, ?_,
      hd.signingInput_eq, hd.signed, hd.signed ▸ hd.signedLength_le, ?_⟩
    · rw [hd.signingInput_eq, hd.bytes_raw]
    · rw [signingInput, hd.signed]

/-- A token with padding in two segments and blanks of several kinds around it. -/
theorem parses_iff_compact_padded :
    let text := "\u3000eyJhbGciOiJSUzI1NiJ9.e30=.c2ln==\n"
    let t : Token := ⟨"eyJhbGciOiJSUzI1NiJ9.e30=.c2ln==", 25, [("alg", .string "RS256")], [],
      [115, 105, 103]⟩
    parse text = .ok t ∧ t.raw = Text.trim text ∧ parse t.raw = .ok t ∧
      ∃ h p g, Compact t.raw.toList h p g ∧ SaysObject h t.header ∧ SaysObject p t.claims ∧
        StandsFor g t.signature := by
  intro text t
  have hparse : parse text = .ok t := by cbv
  obtain ⟨hraw, hagain, h, p, g, hcompact, hheader, hclaims, hsignature, -⟩ :=
    (parses_iff_compact text).2 t hparse
  exact ⟨hparse, hraw, hagain, h, p, g, hcompact, hheader, hclaims, hsignature⟩

/-! ## 4. Round trips -/

/-- No JSON text is empty, so no segment that says an object is. -/
theorem SaysObject.ne_nil {segment : List Char} {members : Json.Members}
    (h : SaysObject segment members) : segment ≠ [] := by
  rintro rfl
  obtain ⟨octets, ⟨n, hsegment⟩, hparse⟩ := h
  have htext : Base64.text octets = Base64.text [] := (List.append_eq_nil_iff.mp hsegment.symm).1
  obtain rfl := Base64.text_inj.mp htext
  have hempty : (Json.parse []).toOption = none := rfl
  rw [hparse] at hempty
  exact nomatch hempty

/-- Segments that stand for something are a token, whatever blanks stand around it. -/
theorem parse_of_standsFor {h p g before behind : List Char} {header claims : Json.Members}
    {signature : List UInt8} (hheader : SaysObject h header) (hclaims : SaysObject p claims)
    (hsignature : StandsFor g signature) (hbefore : ∀ c ∈ before, Text.isBlank c)
    (hbehind : ∀ c ∈ behind, Text.isBlank c) :
    parse (String.ofList (before ++ (h ++ '.' :: p ++ '.' :: g) ++ behind)) =
      .ok ⟨String.ofList (h ++ '.' :: p ++ '.' :: g),
        (Text.Utf8.encode h).length + 1 + (Text.Utf8.encode p).length, header, claims,
        signature⟩ := by
  obtain ⟨_, hh⟩ := hheader.exists_standsFor
  obtain ⟨_, hp⟩ := hclaims.exists_standsFor
  have hink : ∀ c ∈ h ++ '.' :: p ++ '.' :: g, Text.isBlank c = false := by
    have hdot : Text.isBlank '.' = false := by decide
    simp only [List.forall_mem_append, List.forall_mem_cons, hdot, true_and]
    exact ⟨⟨fun c hc => (hh.of_mem hc).2.1, fun c hc => (hp.of_mem hc).2.1⟩,
      fun c hc => (hsignature.of_mem hc).2.1⟩
  have htrim : Text.trim (String.ofList (before ++ (h ++ '.' :: p ++ '.' :: g) ++ behind)) =
      String.ofList (h ++ '.' :: p ++ '.' :: g) := by
    rw [Text.trim, String.toList_ofList, Text.strip_append hink hbefore hbehind]
  refine parse_eq_ok_iff.mpr ⟨h, p, g, ?_, rfl, rfl, hheader, hclaims, hsignature⟩
  rw [htrim, String.toList_ofList]
  refine ⟨rfl, ?_, hheader.ne_nil, hclaims.ne_nil⟩
  simp only [List.forall_mem_cons]
  exact ⟨fun hc => (hh.of_mem hc).1 rfl, fun hc => (hp.of_mem hc).1 rfl,
    fun hc => (hsignature.of_mem hc).1 rfl, by simp⟩

/-- **Tokens that are signed alike are alike**, up to padding at the end. -/
theorem Decoded.alike {h p g h' p' g' : List Char} {t t' : Token} (hd : Decoded h p g t)
    (hd' : Decoded h' p' g' t') (hsigned : t.signingInput = t'.signingInput)
    (hsame : t.signature = t'.signature) :
    ∃ common m n, t.raw = String.ofList (common ++ List.replicate m '=') ∧
      t'.raw = String.ofList (common ++ List.replicate n '=') := by
  have hinput := hd.eq_of_signingInput_eq hd' hsigned
  obtain ⟨m, rfl⟩ := hd.signature
  obtain ⟨n, rfl⟩ := hd'.signature
  have hend (n : Nat) : h ++ '.' :: p ++ '.' :: written t.signature n =
      (h ++ '.' :: p ++ '.' :: Base64.text t.signature) ++ List.replicate n '=' := by
    simp [written]
  refine ⟨h ++ '.' :: p ++ '.' :: Base64.text t.signature, m, n, ?_, ?_⟩
  · rw [hd.raw, hend]
  · rw [hd'.raw, ← hinput, ← hsame, hend]

/-- **Writing and decoding are inverse to each other**, up to padding at the end of a segment.

* The text of some octets is their bits, six to a symbol of the URL-safe alphabet.  A segment is
  decoded to the octets whose text it is, with any amount of padding, and no other segment is.
* So two tokens with the same signed text and the same signature are the same text, up to padding at
  its end.
* And what is written from two JSON objects and a signature, with any padding and any blanks around
  it, is a token of these objects and this signature. -/
theorem segments_round_trip :
    (∀ octets, Base64.Spells .urlSafe octets (Text.Utf8.encode (Base64.text octets))) ∧
    (∀ segment octets, decodeSegment segment = .ok octets ↔
      ∃ n, segment = Base64.text octets ++ List.replicate n '=') ∧
    (∀ text text' t t', parse text = .ok t → parse text' = .ok t' →
      t.signingInput = t'.signingInput → t.signature = t'.signature →
        ∃ common m n, t.raw = String.ofList (common ++ List.replicate m '=') ∧
          t'.raw = String.ofList (common ++ List.replicate n '=')) ∧
    ∀ header payload signature members claims,
      Json.parse header = .ok (.object members) → Json.parse payload = .ok (.object claims) →
      ∀ i j k before behind, (∀ c ∈ before, Text.isBlank c) → (∀ c ∈ behind, Text.isBlank c) →
        ∃ t, parse (String.ofList (before ++
            (written header i ++ '.' :: written payload j ++ '.' :: written signature k) ++
              behind)) = .ok t ∧
          t.header = members ∧ t.claims = claims ∧ t.signature = signature := by
  refine ⟨?_, ?_, ?_, ?_⟩
  · intro octets
    rw [Base64.encode_text]
    exact Base64.spells_encode _ octets
  · intro segment octets
    exact decodeSegment_eq_ok_iff
  · intro text text' t t' ht ht' hsigned hsame
    obtain ⟨h, p, g, -, hd⟩ := parse_eq_ok_iff.mp ht
    obtain ⟨h', p', g', -, hd'⟩ := parse_eq_ok_iff.mp ht'
    exact hd.alike hd' hsigned hsame
  · intro header payload signature members claims hheader hpayload i j k before behind hbefore
      hbehind
    exact ⟨_, parse_of_standsFor ⟨header, ⟨i, rfl⟩, hheader⟩ ⟨payload, ⟨j, rfl⟩, hpayload⟩
      ⟨k, rfl⟩ hbefore hbehind, rfl, rfl, rfl⟩

/-- Two texts of a token, with and without padding, and a third one written from its parts. -/
theorem segments_round_trip_padded :
    let t : Token := ⟨"e30.eyJzdWIiOiJhIn0.c2ln", 19, [], [("sub", .string "a")], [115, 105, 103]⟩
    let t' : Token :=
      ⟨"e30.eyJzdWIiOiJhIn0.c2ln==", 19, [], [("sub", .string "a")], [115, 105, 103]⟩
    let header : List UInt8 := [0x7B, 0x7D]
    let payload : List UInt8 := [0x7B, 0x22, 0x73, 0x75, 0x62, 0x22, 0x3A, 0x22, 0x61, 0x22, 0x7D]
    parse "e30.eyJzdWIiOiJhIn0.c2ln" = .ok t ∧ parse " e30.eyJzdWIiOiJhIn0.c2ln==\n" = .ok t' ∧
      (∃ common m n, t.raw = String.ofList (common ++ List.replicate m '=') ∧
        t'.raw = String.ofList (common ++ List.replicate n '=')) ∧
      Json.parse header = .ok (.object t.header) ∧ Json.parse payload = .ok (.object t.claims) ∧
      ∃ t'', parse (String.ofList ([' '] ++ (written header 0 ++ '.' :: written payload 1 ++
          '.' :: written t.signature 2) ++ ['\n'])) = .ok t'' ∧
        t''.header = t.header ∧ t''.claims = t.claims ∧ t''.signature = t.signature := by
  intro t t' header payload
  have ht : parse "e30.eyJzdWIiOiJhIn0.c2ln" = .ok t := by cbv
  have ht' : parse " e30.eyJzdWIiOiJhIn0.c2ln==\n" = .ok t' := by cbv
  have hheader : Json.parse header = .ok (.object t.header) := by cbv
  have hpayload : Json.parse payload = .ok (.object t.claims) := by cbv
  obtain ⟨-, -, halike, hround⟩ := segments_round_trip
  exact ⟨ht, ht', halike _ _ t t' ht ht' (by decide +kernel) rfl, hheader, hpayload,
    hround header payload t.signature t.header t.claims hheader hpayload 0 1 2 [' '] ['\n']
      (List.forall_mem_singleton.mpr rfl) (List.forall_mem_singleton.mpr rfl)⟩

end Token
end TokenTrust
