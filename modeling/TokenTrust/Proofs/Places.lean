/-
# Places below a service

The library asks a service at two places below its URL.  Only a path without structure has nothing
below it, and a URL that has a host does not have such a path: where an authority is read, or the
scheme is `file`, a path of segments is read behind it, and no segment holds a slash
(`segmented_of_parse`).  A configuration is built of a URL with a host only, so its two places are
there (`Config.exists_places`).
-/
import TokenTrust.Config
import TokenTrust.Proofs.Segments

namespace TokenTrust

/-! ## 1. Paths behind a host -/

namespace Url

variable {u : Url} {cs : List Char}

theorem segmented_readPathStart (special : Bool) (cs : List Char) :
    (readPathStart special cs).Segmented := by
  cases cs with
  | nil =>
    cases special
    · exact Slashless.nil.segmented_pathOf
    · exact (Slashless.singleton List.not_mem_nil).segmented_pathOf
  | cons c cs => exact (slashless_readPath _ _ _).segmented_pathOf

theorem segmented_filePath {ss : List (List Char)} (h : Slashless ss) :
    (filePath ss).Segmented := by
  unfold filePath
  split
  · exact (Slashless.singleton List.not_mem_nil).segmented_pathOf
  · exact (h.subset fun _ hs => (List.dropWhile_suffix _).subset hs).segmented_pathOf

theorem segmented_of_parseWithAuthority {scheme : String}
    (h : parseWithAuthority scheme cs = .ok u) : u.path.Segmented := by
  unfold parseWithAuthority at h
  obtain ⟨⟨authority, rest⟩, -, hend⟩ := bind_eq_ok_iff.mp h
  obtain rfl := Except.ok.inj hend
  exact segmented_readPathStart _ _

theorem slashless_of_parseFileHost {found : Option Host × List (List Char) × Bool}
    (h : parseFileHost cs = .ok found) : Slashless found.2.1 := by
  unfold parseFileHost at h
  dsimp only at h
  split at h
  · obtain rfl := Except.ok.inj h
    exact slashless_readPath _ _ _
  · split at h <;>
    · obtain ⟨host, -, hend⟩ := bind_eq_ok_iff.mp h
      split at hend <;>
      · obtain rfl := Except.ok.inj hend
        exact slashless_readPath _ _ _

theorem segmented_of_parseFile (h : parseFile cs = .ok u) : u.path.Segmented := by
  unfold parseFile at h
  cases hfirst : afterSlash? (splitTail cs).1 with
  | none =>
    simp only [hfirst] at h
    obtain rfl := Except.ok.inj h
    exact segmented_filePath (slashless_readPath _ _ _)
  | some rest =>
    cases hsecond : afterSlash? rest with
    | none =>
      simp only [hfirst, hsecond] at h
      obtain rfl := Except.ok.inj h
      exact segmented_filePath (slashless_readPath _ _ _)
    | some rest =>
      simp only [hfirst, hsecond] at h
      obtain ⟨found, hfound, hend⟩ := bind_eq_ok_iff.mp h
      obtain rfl := Except.ok.inj hend
      exact segmented_filePath (slashless_of_parseFileHost hfound)

/-- Where no authority is read, there is no host. -/
theorem host?_parsePlain (scheme : String) (cs : List Char) :
    (parsePlain scheme cs).host? = none := by
  unfold parsePlain
  obtain ⟨path, tail⟩ := splitTail cs
  obtain ⟨query, fragment⟩ := readTail false tail
  dsimp only
  split <;> rfl

/-- **A URL that was read and has a host has a path of segments.** -/
theorem segmented_of_parse {text : String} (h : parse text = .ok u) (hhost : u.host? ≠ none) :
    u.path.Segmented := by
  unfold parse at h
  cases hscheme : scheme? (withoutBreaks (trimmed text.toList)) with
  | none => simp [hscheme] at h
  | some found =>
    obtain ⟨scheme, rest⟩ := found
    simp only [hscheme] at h
    by_cases hfile : scheme = "file"
    · rw [if_pos hfile] at h
      exact segmented_of_parseFile h
    by_cases hspecial : isSpecial scheme
    · rw [if_neg hfile, if_pos hspecial] at h
      exact segmented_of_parseWithAuthority h
    rw [if_neg hfile, if_neg hspecial] at h
    split at h
    · exact segmented_of_parseWithAuthority h
    · obtain rfl := Except.ok.inj h
      exact absurd (host?_parsePlain scheme rest) hhost

end Url

/-! ## 2. Configurations -/

namespace Config

namespace Draft

/-- The configuration of a draft, if the client id and the URL are these. -/
def configuration (d : Draft) (clientId : String) (url : Url) : Config where
  service := d.service
  clientId
  clientSecret := d.clientSecret
  url
  domain := d.domain.bind normalDomain?
  appId := d.appId.filter (· ≠ "")
  properties := d.properties

/-- **What a configuration is built of.** -/
theorem build_eq_ok_iff {d : Draft} {c : Config} :
    d.build = .ok c ↔ ∃ clientId address url, d.clientId.filter Text.hasInk = some clientId ∧
      d.url = some address ∧ Url.parse address = .ok url ∧ url.host? ≠ none ∧
      d.configuration clientId url = c := by
  unfold build
  cases hclient : d.clientId.filter Text.hasInk with
  | none => simp
  | some clientId =>
    cases haddress : d.url with
    | none => simp
    | some address =>
      simp only [bind_eq_ok_iff, guard_eq_ok_iff, mapError_eq_ok_iff, Option.isNone_iff_eq_none]
      constructor
      · rintro ⟨url, hparse, hhost, hend⟩
        exact ⟨clientId, address, url, rfl, rfl, hparse, hhost, Except.ok.inj hend⟩
      · rintro ⟨_, _, url, hclient', haddress', hparse, hhost, hend⟩
        obtain rfl := Option.some.inj hclient'
        obtain rfl := Option.some.inj haddress'
        exact ⟨url, hparse, hhost, congrArg Except.ok hend⟩

end Draft

/-! ## 3. Places -/

theorem place_eq_ok_iff {base u : Url} {segments : List String} :
    place base segments = .ok u ↔ base.below? segments = some u := by
  rw [place]
  cases base.below? segments with
  | none => simp
  | some u' => simp

/-- There is a place below every URL with a host that was read. -/
theorem exists_place_of_parse {address : String} {base : Url} (h : Url.parse address = .ok base)
    (hhost : base.host? ≠ none) (segments : List String) : ∃ u, place base segments = .ok u := by
  obtain ⟨ss, -, hpath⟩ := Url.segmented_of_parse h hhost
  have hbelow : ∃ u, base.below? segments = some u := by
    rw [Url.below?, hpath]
    exact ⟨_, rfl⟩
  obtain ⟨u, hu⟩ := hbelow
  exact ⟨u, place_eq_ok_iff.mpr hu⟩

/-- **A configuration that was built has its two places.** -/
theorem exists_places {d : Draft} {c : Config} (h : d.build = .ok c) :
    (∃ u, c.tokenKeysUrl = .ok u) ∧ ∃ u, c.discoveryUrl = .ok u := by
  obtain ⟨clientId, address, url, -, -, hparse, hhost, rfl⟩ := Draft.build_eq_ok_iff.mp h
  exact ⟨exists_place_of_parse hparse hhost _, exists_place_of_parse hparse hhost _⟩

end Config
end TokenTrust
