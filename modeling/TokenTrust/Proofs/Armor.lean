/-
# Octets in texts

The same octets can be found in a text in two ways: between the markers of a PEM block, or bare.

A block is found whatever stands around it, if no dash stands in front, and its data may be broken
into lines in any way, as long as no line is empty (`Pem.Armors`): an empty line would end headers.
What is found is the label and the octets (`Pem.parse_of_armors`).  That a search for a marker finds
the first one is due to the dash that it starts with; that there are no headers is due to a search
not finding what is not there (`Pem.eq_of_splitAt?`).

Bare octets may have blanks anywhere and any padding (`Material.block_of_bare`), while a block has
the padding that fills its last group.
-/
import Mathlib
import TokenTrust.Key.Material
import TokenTrust.Proofs.Compact

namespace TokenTrust

/-! ## 1. The standard alphabet -/

namespace Base64

variable {octets : List UInt8} {padding : Nat}

/-- What octets are written as in the standard alphabet, with some padding behind. -/
def standardText (octets : List UInt8) (padding : Nat) : List Char :=
  Text.Utf8.ascii (encode .standard octets) ++ List.replicate padding '='

/-- How much padding fills the last group. -/
def fill (octets : List UInt8) : Nat := (4 - (encode .standard octets).length % 4) % 4

theorem encode_standardText (octets : List UInt8) (padding : Nat) :
    Text.Utf8.encode (standardText octets padding) =
      encode .standard octets ++ List.replicate padding padOctet := by
  have hpadding : List.replicate padding '=' =
      Text.Utf8.ascii (List.replicate padding padOctet) := by
    rw [Text.Utf8.ascii, List.map_replicate]
    rfl
  have hascii : ∀ b ∈ encode .standard octets ++ List.replicate padding padOctet,
      b.toNat < 0x80 := by
    intro b hb
    rcases List.mem_append.mp hb with hb | hb
    · exact lt_of_mem_encode b hb
    · rw [List.eq_of_mem_replicate hb]
      decide
  rw [Text.Utf8.encode_eq_iff hascii, standardText, hpadding, Text.Utf8.ascii, Text.Utf8.ascii,
    Text.Utf8.ascii, List.map_append]

/-- No symbol is a dash, padding or blank. -/
theorem of_mem_standard {c : Char} (h : c ∈ Text.Utf8.ascii (encode .standard octets)) :
    c ≠ '-' ∧ c ≠ '=' ∧ Text.isBlank c = false := by
  obtain ⟨b, hb, rfl⟩ := List.mem_map.mp h
  obtain ⟨v, hv, rfl⟩ := exists_symbol_of_mem_encode hb
  have hall : ∀ n : Fin 64, let c := Char.ofNat (Alphabet.standard.symbol n).toNat
      c ≠ '-' ∧ c ≠ '=' ∧ Text.isBlank c = false := by decide
  exact hall ⟨v, hv⟩

theorem dash_not_mem_standardText : '-' ∉ standardText octets padding := by
  intro h
  rcases List.mem_append.mp h with h | h
  · exact (of_mem_standard h).1 rfl
  · exact absurd (List.eq_of_mem_replicate h) (by decide)

theorem isBlank_of_mem_standardText {c : Char} (h : c ∈ standardText octets padding) :
    Text.isBlank c = false := by
  rcases List.mem_append.mp h with h | h
  · exact (of_mem_standard h).2.2
  · rw [List.eq_of_mem_replicate h]
    decide

end Base64

/-! ## 2. Blanks -/

namespace Text

variable {p : Char → Bool} {c : Char}

/-- What is dropped from the front ends before a character that is kept. -/
theorem dropWhile_append_cons (h : p c = false) (cs ds : List Char) :
    (cs ++ c :: ds).dropWhile p = cs.dropWhile p ++ c :: ds := by
  induction cs with
  | nil => rw [List.nil_append, List.dropWhile_cons_of_neg (by simp [h])]; rfl
  | cons d cs ih =>
    rw [List.cons_append]
    by_cases hd : p d
    · rw [List.dropWhile_cons_of_pos hd, List.dropWhile_cons_of_pos hd, ih]
    · rw [List.dropWhile_cons_of_neg hd, List.dropWhile_cons_of_neg hd, List.cons_append]

theorem dropEnd_append_cons (h : p c = false) (cs ds : List Char) :
    dropEnd p (cs ++ c :: ds) = cs ++ c :: dropEnd p ds := by
  have hreverse : (cs ++ c :: ds).reverse = ds.reverse ++ c :: cs.reverse := by simp
  rw [dropEnd, hreverse, dropWhile_append_cons h, dropEnd]
  simp

/-- **Stripping stops at what is kept.** -/
theorem strip_append_cons (h : p c = false) {d : Char} (hd : p d = false) (before cs behind) :
    strip p (before ++ c :: (cs ++ d :: behind)) =
      before.dropWhile p ++ c :: (cs ++ d :: dropEnd p behind) := by
  have hassoc : before.dropWhile p ++ c :: (cs ++ d :: behind) =
      (before.dropWhile p ++ c :: cs) ++ d :: behind := by simp
  rw [strip, dropWhile_append_cons h, hassoc, dropEnd_append_cons hd]
  simp

/-- What is dropped from the front is not kept anyway. -/
theorem filter_dropWhile {q : Char → Bool} (h : ∀ c, p c = true → q c = false) (cs : List Char) :
    (cs.dropWhile p).filter q = cs.filter q := by
  induction cs with
  | nil => rfl
  | cons c cs ih =>
    by_cases hc : p c
    · rw [List.dropWhile_cons_of_pos hc, ih, List.filter_cons_of_neg (by simp [h c hc])]
    · rw [List.dropWhile_cons_of_neg hc]

theorem filter_strip {q : Char → Bool} (h : ∀ c, p c = true → q c = false) (cs : List Char) :
    (strip p cs).filter q = cs.filter q := by
  rw [strip, dropEnd, List.filter_reverse, filter_dropWhile h, List.filter_reverse,
    List.reverse_reverse, filter_dropWhile h]

end Text

/-! ## 3. Markers -/

namespace Pem

theorem scan?_left (marker left rest : List Char) :
    scan? marker left (left ++ rest) = some (left, rest) := by
  induction left with
  | nil => cases rest <;> rfl
  | cons m left ih => rw [List.cons_append, scan?, if_pos rfl, ih]; rfl

/-- **A marker is found behind what does not have its first character.** -/
theorem splitAt?_append {m : Char} {marker before : List Char} (hm : marker.head? = some m)
    (h : m ∉ before) (rest : List Char) :
    splitAt? marker (before ++ (marker ++ rest)) = some (before, rest) := by
  obtain ⟨left, rfl⟩ := List.head?_eq_some_iff.mp hm
  have hscan : scan? (m :: left) (m :: left) (before ++ (m :: left ++ rest)) =
      some (before ++ m :: left, rest) := by
    induction before with
    | nil => exact scan?_left _ _ _
    | cons c before ih =>
      have hc : c ≠ m := fun hc => h (hc ▸ List.mem_cons_self)
      rw [List.cons_append, scan?, if_neg hc, ih fun hm => h (List.mem_cons_of_mem c hm)]
      rfl
  rw [splitAt?, hscan, Option.map_some]
  dsimp only
  rw [List.length_append, Nat.add_sub_cancel, List.take_left]

/-- What was read ends with the marker, if what was read before is the part of it that is not
left. -/
theorem of_scan? {marker left cs read rest : List Char}
    (h : scan? marker left cs = some (read, rest)) {matched : List Char}
    (hmatched : matched ++ left = marker) :
    cs = read ++ rest ∧ ∃ before, matched ++ read = before ++ marker := by
  induction cs generalizing left read matched with
  | nil =>
    cases left with
    | nil =>
      cases h
      exact ⟨rfl, [], hmatched⟩
    | cons m left => exact nomatch h
  | cons c cs ih =>
    cases left with
    | nil =>
      cases h
      exact ⟨rfl, [], hmatched⟩
    | cons m left =>
      rw [scan?, Option.map_eq_some_iff] at h
      obtain ⟨⟨read', rest'⟩, h, heq⟩ := h
      obtain ⟨rfl, rfl⟩ := Prod.mk.inj heq
      split at h
      · next hc =>
        subst hc
        have hmatched' : matched ++ [c] ++ left = marker := by simpa using hmatched
        obtain ⟨rfl, before, hbefore⟩ := ih h hmatched'
        exact ⟨rfl, before, by simpa using hbefore⟩
      · obtain ⟨rfl, before, hbefore⟩ := ih h (List.nil_append marker)
        refine ⟨rfl, matched ++ c :: before, ?_⟩
        rw [List.nil_append] at hbefore
        rw [hbefore]
        simp

/-- **A search finds what is there.** -/
theorem eq_of_splitAt? {marker cs before behind : List Char}
    (h : splitAt? marker cs = some (before, behind)) : cs = before ++ marker ++ behind := by
  rw [splitAt?, Option.map_eq_some_iff] at h
  obtain ⟨⟨read, rest⟩, hscan, heq⟩ := h
  obtain ⟨rfl, rfl⟩ := Prod.mk.inj heq
  obtain ⟨rfl, before, hbefore⟩ := of_scan? hscan (List.nil_append marker)
  rw [List.nil_append] at hbefore
  rw [hbefore, List.length_append, Nat.add_sub_cancel, List.take_left]

/-! ## 4. Blocks -/

/-- No line is empty: what follows a line feed is no line break. -/
def NoEmptyLine (cs : List Char) : Prop :=
  cs.IsChain fun c d => c = '\n' → d ≠ '\n' ∧ d ≠ '\r'

/-- A body between its markers, and what stands around them. -/
def between (before label body behind : List Char) : List Char :=
  before ++ (beginMarker ++ (label ++ (dashes ++ (body ++ (endMarker ++ (label ++
    (dashes ++ behind)))))))

/-- **A text armors octets** under a label if they stand between the two markers, in the standard
alphabet and padded, with blanks and line breaks that leave no line empty.  There is no dash in
front of the block. -/
def Armors (label : String) (octets : List UInt8) (text : String) : Prop :=
  ∃ before body behind, '-' ∉ before ∧ NoEmptyLine body ∧
    compact body = Base64.standardText octets (Base64.fill octets) ∧
    text.toList = between before label.toList body behind

variable {label text : String} {octets : List UInt8}

/-- A body without empty lines has no headers. -/
theorem splitBody_of_noEmptyLine {body : List Char} (h : NoEmptyLine body) :
    splitBody body = ([], body) := by
  have hnone : ∀ before behind rest : List Char, ∀ c, c = '\n' ∨ c = '\r' →
      body ≠ before ++ ('\n' :: c :: rest) ++ behind := by
    rintro before behind rest c hc rfl
    rw [NoEmptyLine, List.append_assoc] at h
    have hpair := (List.isChain_cons_cons.mp (List.isChain_append.mp h).2.1).1 rfl
    rcases hc with rfl | rfl
    · exact hpair.1 rfl
    · exact hpair.2 rfl
  unfold splitBody
  split
  · next parts hparts => exact absurd (eq_of_splitAt? hparts) (hnone _ _ [] _ (.inl rfl))
  · split
    · next parts hparts =>
      have heq := eq_of_splitAt? hparts
      refine absurd ?_ (hnone (parts.1 ++ ['\r']) parts.2 ['\n'] '\r' (.inr rfl))
      simpa using heq
    · rfl

theorem isBlank_of_isGap {c : Char} (h : isGap c = true) : Text.isBlank c = true := by
  simp only [isGap, Bool.or_eq_true, decide_eq_true_eq] at h
  rcases h with ((rfl | rfl) | rfl) | rfl <;> decide

theorem compact_dropWhile_isGap (cs : List Char) : compact (cs.dropWhile isGap) = compact cs :=
  Text.filter_dropWhile (fun c hc => by rw [isBlank_of_isGap hc]; rfl) cs

theorem frame?_eq_some {label before body behind : List Char} (hbefore : '-' ∉ before)
    (hlabel : '-' ∉ label) (hbody : '-' ∉ body.dropWhile isGap) :
    frame? (between before label body behind) = some ⟨label, body.dropWhile isGap, label⟩ := by
  have hgap (rest : List Char) : (body ++ (endMarker ++ rest)).dropWhile isGap =
      body.dropWhile isGap ++ (endMarker ++ rest) :=
    Text.dropWhile_append_cons (by decide) body _
  have hbegin : ∀ rest, splitAt? beginMarker (before ++ (beginMarker ++ rest)) =
      some (before, rest) := splitAt?_append rfl hbefore
  have hdashes : ∀ rest, splitAt? dashes (label ++ (dashes ++ rest)) = some (label, rest) :=
    splitAt?_append rfl hlabel
  have hend : ∀ rest, splitAt? endMarker (body.dropWhile isGap ++ (endMarker ++ rest)) =
      some (body.dropWhile isGap, rest) := splitAt?_append rfl hbody
  simp only [frame?, between, hbegin, hdashes, hgap, hend, Option.bind_eq_bind, Option.bind_some,
    Option.pure_def]

/-- **The block of a text is what it armors.** -/
theorem parse_of_armors (hlabel : '-' ∉ label.toList) (hne : label.toList ≠ [])
    (h : Armors label octets text) : parse text = .ok ⟨label, octets⟩ := by
  obtain ⟨before, body, behind, hbefore, hlines, hcompact, htext⟩ := h
  have hbody : '-' ∉ body.dropWhile isGap := by
    intro hdash
    have hdata : '-' ∈ compact body :=
      List.mem_filter.mpr ⟨(List.dropWhile_suffix isGap).subset hdash, by decide⟩
    rw [hcompact] at hdata
    exact Base64.dash_not_mem_standardText hdata
  have hlines' : NoEmptyLine (body.dropWhile isGap) := hlines.suffix (List.dropWhile_suffix isGap)
  have hdata : Base64.decode .standard .canonical
      (Text.Utf8.encode (compact (body.dropWhile isGap))) = .ok octets := by
    rw [compact_dropWhile_isGap, hcompact, Base64.encode_standardText]
    exact Base64.decode_padded .standard octets
  have hempty : label.toList.isEmpty = false := by simpa using hne
  rw [parse, htext, frame?_eq_some hbefore hlabel hbody]
  simp only [Frame.block, hempty, Bool.false_eq_true, if_false, ne_eq, not_true_eq_false,
    splitBody_of_noEmptyLine hlines', hdata]
  simp only [bind, Except.bind, Except.mapError, String.ofList_toList]
  rfl

/-- Blanks around a text do not count. -/
theorem Armors.trim (h : Armors label octets text) : Armors label octets (Text.trim text) := by
  obtain ⟨before, body, behind, hbefore, hlines, hcompact, htext⟩ := h
  refine ⟨before.dropWhile Text.isBlank, body, Text.dropEnd Text.isBlank behind,
    fun hdash => hbefore ((List.dropWhile_suffix _).subset hdash), hlines, hcompact, ?_⟩
  have hbegin : beginMarker = '-' :: "----BEGIN ".toList := by decide
  have hdashes : dashes = "----".toList ++ ['-'] := by decide
  have hstrip := Text.strip_append_cons (p := Text.isBlank) (c := '-') (d := '-') (by decide)
    (by decide) before ("----BEGIN ".toList ++ (label.toList ++ (dashes ++ (body ++
      (endMarker ++ (label.toList ++ "----".toList)))))) behind
  rw [Text.trim, String.toList_ofList, htext, between, between, hbegin]
  simpa [hdashes] using hstrip

/-- A block as it is usually written, with its data in lines. -/
def inLines (label : String) (lineEnd : List Char) (lines : List (List Char)) : String :=
  String.ofList (between [] label.toList (lineEnd ++ lines.flatMap (· ++ lineEnd)) lineEnd)

theorem NoEmptyLine.ink_append {line cs : List Char} (h : NoEmptyLine cs)
    (hink : ∀ c ∈ line, Text.isBlank c = false) : NoEmptyLine (line ++ cs) := by
  induction line with
  | nil => exact h
  | cons c line ih =>
    obtain ⟨hc, hline⟩ := List.forall_mem_cons.mp hink
    refine (ih hline).cons fun d _ hfeed => ?_
    rw [hfeed] at hc
    exact absurd hc (by decide)

/-- **Lines that hold something** are none of them empty. -/
theorem NoEmptyLine.lines {lineEnd : List Char} (hend : lineEnd = ['\n'] ∨ lineEnd = ['\r', '\n'])
    {lines : List (List Char)} (hne : [] ∉ lines)
    (hink : ∀ line ∈ lines, ∀ c ∈ line, Text.isBlank c = false) :
    NoEmptyLine (lineEnd ++ lines.flatMap (· ++ lineEnd)) := by
  induction lines with
  | nil =>
    rcases hend with rfl | rfl
    · exact .singleton _
    · exact .cons_cons (fun h => absurd h (by decide)) (.singleton _)
  | cons line lines ih =>
    rw [List.mem_cons, not_or] at hne
    obtain ⟨hline, hlines⟩ := List.forall_mem_cons.mp hink
    have htail : NoEmptyLine (line ++ (lineEnd ++ lines.flatMap (· ++ lineEnd))) :=
      (ih hne.2 hlines).ink_append hline
    rw [List.flatMap_cons, List.append_assoc]
    -- the end of the line before is followed by a character of the line
    cases line with
    | nil => exact absurd rfl hne.1
    | cons c line =>
      have hc : c ≠ '\n' ∧ c ≠ '\r' := by
        have hblank := hline c List.mem_cons_self
        constructor <;> rintro rfl <;> exact absurd hblank (by decide)
      rcases hend with rfl | rfl
      · exact .cons_cons (fun _ => hc) htail
      · exact .cons_cons (fun h => absurd h (by decide)) (.cons_cons (fun _ => hc) htail)

/-- All octets can be armored. -/
theorem exists_armors (label : String) (octets : List UInt8) :
    ∃ text, Armors label octets text := by
  have hink : ∀ c ∈ Base64.standardText octets (Base64.fill octets), Text.isBlank c = false :=
    fun _ => Base64.isBlank_of_mem_standardText
  refine ⟨_, [], Base64.standardText octets (Base64.fill octets), [], List.not_mem_nil, ?_, ?_,
    String.toList_ofList⟩
  · have hlines : NoEmptyLine (Base64.standardText octets (Base64.fill octets) ++ []) :=
      NoEmptyLine.ink_append .nil hink
    rwa [List.append_nil] at hlines
  · exact List.filter_eq_self.mpr fun c hc => by rw [hink c hc]; rfl

theorem compact_append (cs ds : List Char) : compact (cs ++ ds) = compact cs ++ compact ds :=
  List.filter_append cs ds

/-- The data of lines is what they hold. -/
theorem compact_lines {lineEnd : List Char} (hblank : compact lineEnd = [])
    {lines : List (List Char)} (hink : ∀ line ∈ lines, ∀ c ∈ line, Text.isBlank c = false) :
    compact (lines.flatMap (· ++ lineEnd)) = lines.flatten := by
  induction lines with
  | nil => rfl
  | cons line lines ih =>
    obtain ⟨hline, hlines⟩ := List.forall_mem_cons.mp hink
    have hkept : compact line = line :=
      List.filter_eq_self.mpr fun c hc => by rw [hline c hc]; rfl
    rw [List.flatMap_cons, compact_append, compact_append, hblank, List.append_nil, hkept,
      ih hlines, List.flatten_cons]

/-- **The usual way of writing a block armors its octets**, whatever the lines are. -/
theorem armors_inLines {lineEnd : List Char} (hend : lineEnd = ['\n'] ∨ lineEnd = ['\r', '\n'])
    {lines : List (List Char)} (hne : [] ∉ lines)
    (hdata : lines.flatten = Base64.standardText octets (Base64.fill octets)) :
    Armors label octets (inLines label lineEnd lines) := by
  have hink : ∀ line ∈ lines, ∀ c ∈ line, Text.isBlank c = false := by
    intro line hline c hc
    have hmem : c ∈ Base64.standardText octets (Base64.fill octets) :=
      hdata ▸ List.mem_flatten.mpr ⟨line, hline, hc⟩
    exact Base64.isBlank_of_mem_standardText hmem
  have hblank : compact lineEnd = [] := by
    rcases hend with rfl | rfl <;> decide
  have hcompact : compact (lineEnd ++ lines.flatMap (· ++ lineEnd)) = lines.flatten := by
    rw [compact_append, hblank, compact_lines hblank hink, List.nil_append]
  exact ⟨[], lineEnd ++ lines.flatMap (· ++ lineEnd), lineEnd, List.not_mem_nil,
    .lines hend hne hink, hcompact.trans hdata, String.toList_ofList⟩

end Pem

/-! ## 5. Material -/

namespace Material

variable {label text : String} {octets : List UInt8}

/-- **A text that armors octets is a block of them.** -/
theorem block_of_armors (hlabel : '-' ∉ label.toList) (hne : label.toList ≠ [])
    (h : Pem.Armors label octets text) : block text = .ok ⟨label, octets⟩ := by
  have htrim := h.trim
  have hmark : Text.occurs pemMark (Text.trim text).toList = true := by
    obtain ⟨before, body, behind, -, -, -, htext⟩ := htrim
    have hbegin : Pem.beginMarker = pemMark ++ [' '] := by decide
    rw [htext, Pem.between, hbegin, List.append_assoc, ← List.append_assoc]
    exact Text.occurs_iff_infix.mpr ⟨_, _, rfl⟩
  rw [block, if_pos hmark, Pem.parse_of_armors hlabel hne htrim]
  rfl

/-- **A text is bare base64 of octets** if it is that without its blanks, with any padding. -/
def Bare (octets : List UInt8) (text : String) : Prop :=
  ∃ padding, text.toList.filter (fun c => !Text.isBlank c) = Base64.standardText octets padding

theorem exists_bare (octets : List UInt8) : ∃ text, Bare octets text := by
  refine ⟨String.ofList (Base64.standardText octets 0), 0, ?_⟩
  rw [String.toList_ofList, List.filter_eq_self]
  intro c hc
  rw [Base64.isBlank_of_mem_standardText hc]
  rfl

/-- **Bare base64 is a block of public key information.** -/
theorem block_of_bare (h : Bare octets text) : block text = .ok ⟨infoLabel, octets⟩ := by
  obtain ⟨padding, hink⟩ := h
  have hmark : Text.occurs pemMark (Text.trim text).toList = false := by
    by_contra hoccurs
    rw [Bool.not_eq_false] at hoccurs
    have hdash : '-' ∈ (Text.trim text).toList :=
      (Text.occurs_iff_infix.mp hoccurs).subset (by decide)
    rw [Text.trim, String.toList_ofList] at hdash
    have hdata : '-' ∈ text.toList.filter (fun c => !Text.isBlank c) :=
      List.mem_filter.mpr ⟨Text.mem_of_mem_strip hdash, by decide⟩
    rw [hink] at hdata
    exact Base64.dash_not_mem_standardText hdata
  have hcompact : (Text.trim text).toList.filter (fun c => !Text.isBlank c) =
      Base64.standardText octets padding := by
    rw [Text.trim, String.toList_ofList, Text.filter_strip (fun c hc => by rw [hc]; rfl), hink]
  have hdecode : Base64.decode .standard .none (Text.Utf8.encode
      (Text.dropEnd (· == '=') (Base64.standardText octets padding))) = .ok octets := by
    rw [Base64.decode_eq_ok_iff, Text.Utf8.encode_eq_iff Base64.lt_of_mem_encode]
    refine Text.dropEnd_append (fun c hc => ?_) fun c hc => ?_
    · simpa using (Base64.of_mem_standard hc).2.1
    · simpa using List.eq_of_mem_replicate hc
  rw [block, if_neg (by simp [hmark])]
  dsimp only
  rw [hcompact, hdecode]

end Material
end TokenTrust
