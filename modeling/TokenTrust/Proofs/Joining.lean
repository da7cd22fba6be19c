/-
# Where a place joins the path of a service

The two places of a service stand below its URL whether or not a slash ends the path there.  The
segments of a place come behind the segments of the path, an empty one at the end left out
(`foldl_pushSegment_dropFinalSlash`), so scheme, user name, password, host and port are those of
the service, and in the path that is written only a final slash is missing in front of the place
(`IsPlaceBelow`).  URLs that differ in nothing but query, fragment and such a slash have the same
places.

One path is joined otherwise.  If it is two slashes and nothing else, the second one is left out as
the end of the path, and then the place fills what looks like the empty path of a host, so the
first one goes too (`two_slashes_are_lost`).
-/
import TokenTrust.Proofs.Places

namespace TokenTrust
namespace Url

variable {u v base : Url} {ss ts segments : List String}

/-! ## 1. Segments behind segments -/

/-- The segments that a place comes behind. -/
def trunk (ss : List String) : List String :=
  if ss.getLast? = some "" then ss.dropLast else ss

@[simp] theorem trunk_concat_empty (ss : List String) : trunk (ss ++ [""]) = ss := by
  simp [trunk]

theorem trunk_eq_self (h : ss.getLast? ≠ some "") : trunk ss = ss :=
  if_neg h

/-- Segments are put behind any path but a single slash. -/
theorem foldl_pushSegment (hss : ss ≠ [""]) (hink : "" ∉ segments) :
    segments.foldl pushSegment ss = ss ++ segments := by
  induction segments generalizing ss with
  | nil => exact (List.append_nil ss).symm
  | cons s segments ih =>
    obtain ⟨hs, hrest⟩ := List.ne_and_not_mem_of_not_mem_cons hink
    -- the path has `s` at its end now, so it is not a single slash
    have hnext : ss ++ [s] ≠ [""] := by
      intro heq
      have hlast := congrArg List.getLast? heq
      rw [List.getLast?_concat, List.getLast?_singleton] at hlast
      exact hs (Option.some.inj hlast).symm
    rw [List.foldl_cons, pushSegment, if_neg hss, ih hnext hrest, List.append_assoc,
      List.singleton_append]

/-- A single slash is filled. -/
theorem foldl_pushSegment_slash (hne : segments ≠ []) (hink : "" ∉ segments) :
    segments.foldl pushSegment [""] = segments := by
  cases segments with
  | nil => exact absurd rfl hne
  | cons s segments =>
    obtain ⟨hs, hrest⟩ := List.ne_and_not_mem_of_not_mem_cons hink
    have hfilled : [s] ≠ [""] := fun heq => hs (List.singleton_inj.mp heq).symm
    rw [List.foldl_cons, pushSegment, if_pos rfl, foldl_pushSegment hfilled hrest,
      List.singleton_append]

/-- **A place comes behind the segments of the path**, an empty one at their end left out, if the
path is not two slashes. -/
theorem foldl_pushSegment_dropFinalSlash (hne : segments ≠ []) (hink : "" ∉ segments)
    (hss : ss ≠ ["", ""]) :
    segments.foldl pushSegment (dropFinalSlash ss) = trunk ss ++ segments := by
  by_cases hslash : ss = [""]
  · subst hslash
    exact foldl_pushSegment_slash hne hink
  by_cases hlast : ss.getLast? = some ""
  · obtain ⟨front, rfl⟩ : ∃ front, ss = front ++ [""] := List.getLast?_eq_some_iff.mp hlast
    have hfront : front ≠ [] := by
      rintro rfl
      exact hslash rfl
    have hfilled : front ≠ [""] := by
      rintro rfl
      exact hss rfl
    have hdrop : dropFinalSlash (front ++ [""]) = front := by
      rw [dropFinalSlash, if_pos ⟨by simpa using List.length_pos_iff.mpr hfront, hlast⟩,
        List.dropLast_concat]
    rw [hdrop, trunk_concat_empty, foldl_pushSegment hfilled hink]
  · rw [dropFinalSlash, if_neg fun h => hlast h.2, trunk_eq_self hlast,
      foldl_pushSegment hslash hink]

theorem below?_eq_some_iff : base.below? segments = some u ↔ ∃ ss, base.path = .segments ss ∧
    u = { base with
      path := .segments (segments.foldl pushSegment (dropFinalSlash ss))
      query := none
      fragment := none } := by
  rw [below?]
  cases base.path with
  | plain s => simp
  | segments ss => simp [eq_comm]

/-! ## 2. The slash at the end of a text -/

/-- A path without the slash it ends in, if it ends in one. -/
def withoutFinalSlash (path : String) : String :=
  if path.toList.getLast? = some '/' then String.ofList path.toList.dropLast else path

@[simp] theorem withoutFinalSlash_append (path : String) :
    withoutFinalSlash (path ++ "/") = path := by
  simp [withoutFinalSlash]

theorem withoutFinalSlash_eq_self {path : String} (h : path.toList.getLast? ≠ some '/') :
    withoutFinalSlash path = path :=
  if_neg h

theorem text_segments_append (ss ts : List String) :
    (Path.segments (ss ++ ts)).text = (Path.segments ss).text ++ (Path.segments ts).text := by
  rw [← String.toList_inj, String.toList_append]
  simp only [toList_text_segments, List.map_append, slashed_append]

/-- A path ends in a slash if its last segment is empty, and then only. -/
theorem getLast?_text_segments_iff (h : Slashless (ss.map String.toList)) :
    (Path.segments ss).text.toList.getLast? = some '/' ↔ ss.getLast? = some "" := by
  rw [toList_text_segments, getLast?_slashed_iff h]
  simp

/-- The slash that a path ends in is the one in front of its last, empty segment. -/
theorem withoutFinalSlash_text (h : Slashless (ss.map String.toList)) :
    withoutFinalSlash (Path.segments ss).text = (Path.segments (trunk ss)).text := by
  by_cases hlast : ss.getLast? = some ""
  · obtain ⟨front, rfl⟩ := List.getLast?_eq_some_iff.mp hlast
    have hslash : (Path.segments [""]).text = "/" := rfl
    rw [trunk_concat_empty, text_segments_append, hslash, withoutFinalSlash_append]
  · rw [withoutFinalSlash_eq_self (mt (getLast?_text_segments_iff h).mp hlast),
      trunk_eq_self hlast]

theorem text_segments_inj (hs : Slashless (ss.map String.toList))
    (ht : Slashless (ts.map String.toList)) :
    (Path.segments ss).text = (Path.segments ts).text ↔ ss = ts := by
  rw [← String.toList_inj, toList_text_segments, toList_text_segments, slashed_inj hs ht]
  exact (List.map_injective_iff.mpr fun _ _ => String.toList_inj.mp).eq_iff

theorem text_eq_two_slashes_iff (h : Slashless (ss.map String.toList)) :
    (Path.segments ss).text = "//" ↔ ss = ["", ""] := by
  have htext : (Path.segments ["", ""]).text = "//" := rfl
  rw [← htext, text_segments_inj h (by simp [Slashless])]

/-! ## 3. Places below a URL -/

/-- **A URL is the place at `ending` below another one**: on the same service, behind its path. -/
structure IsPlaceBelow (base : Url) (ending : String) (u : Url) : Prop where
  scheme : u.scheme = base.scheme
  /-- User name, password, host and port. -/
  authority : u.authority = base.authority
  query : u.query = none
  fragment : u.fragment = none
  path : u.path.text = withoutFinalSlash base.path.text ++ ending

/-- **The segments found below a URL are a place there**, if its path is not two slashes. -/
theorem isPlaceBelow_of_below? (hbase : base.path.Segmented) (hne : segments ≠ [])
    (hink : "" ∉ segments) (htext : base.path.text ≠ "//") (h : base.below? segments = some u) :
    base.IsPlaceBelow (Path.segments segments).text u := by
  obtain ⟨ss, hslashless, hpath⟩ := hbase
  obtain ⟨ss', hpath', rfl⟩ := below?_eq_some_iff.mp h
  obtain rfl : ss = ss' := Path.segments.inj (hpath.symm.trans hpath')
  have hss : ss ≠ ["", ""] := mt (text_eq_two_slashes_iff hslashless).mpr (hpath ▸ htext)
  refine ⟨rfl, rfl, rfl, rfl, ?_⟩
  calc (Path.segments (segments.foldl pushSegment (dropFinalSlash ss))).text
      = (Path.segments (trunk ss ++ segments)).text := by
        rw [foldl_pushSegment_dropFinalSlash hne hink hss]
    _ = withoutFinalSlash base.path.text ++ (Path.segments segments).text := by
        rw [hpath, withoutFinalSlash_text hslashless, text_segments_append]

/-- The URL with a single slash for a path. -/
def atRoot (u : Url) : Url :=
  { u with path := .segments [""] }

/-- **Two slashes are taken for one.** -/
theorem below?_of_two_slashes (hbase : base.path.Segmented) (htext : base.path.text = "//") :
    base.below? segments = base.atRoot.below? segments := by
  obtain ⟨ss, hslashless, hpath⟩ := hbase
  obtain rfl := (text_eq_two_slashes_iff hslashless).mp (hpath ▸ htext)
  rw [below?, hpath]
  rfl

/-! ## 4. URLs with the same places -/

/-- One path is the other one with a slash behind it, where that does not end in a slash. -/
def AddsSlash (p q : String) : Prop :=
  p.toList.getLast? ≠ some '/' ∧ q = p ++ "/"

/-- **Two URLs differ at most in query, fragment and one slash** behind the path. -/
structure AlikeBases (u v : Url) : Prop where
  scheme : u.scheme = v.scheme
  /-- User name, password, host and port. -/
  authority : u.authority = v.authority
  path : u.path.text = v.path.text ∨ AddsSlash u.path.text v.path.text ∨
    AddsSlash v.path.text u.path.text

/-- A slash behind the path does not move a place, where it does not stand behind another one. -/
theorem foldl_pushSegment_concat_empty (hne : segments ≠ []) (hink : "" ∉ segments)
    (hlast : ss.getLast? ≠ some "") :
    segments.foldl pushSegment (dropFinalSlash (ss ++ [""])) =
      segments.foldl pushSegment (dropFinalSlash ss) := by
  have hss : ss ≠ ["", ""] := by
    rintro rfl
    exact hlast rfl
  have hconcat : ss ++ [""] ≠ ["", ""] := by
    intro heq
    obtain rfl : ss = [""] := List.append_cancel_right heq
    exact hlast rfl
  rw [foldl_pushSegment_dropFinalSlash hne hink hconcat,
    foldl_pushSegment_dropFinalSlash hne hink hss, trunk_concat_empty, trunk_eq_self hlast]

theorem eq_concat_of_addsSlash (hs : Slashless (ss.map String.toList))
    (ht : Slashless (ts.map String.toList))
    (h : AddsSlash (Path.segments ss).text (Path.segments ts).text) :
    ss.getLast? ≠ some "" ∧ ts = ss ++ [""] := by
  obtain ⟨hends, htext⟩ := h
  refine ⟨mt (getLast?_text_segments_iff hs).mpr hends, ?_⟩
  have hempty : Slashless ((ss ++ [""]).map String.toList) := by
    rw [List.map_append]
    exact hs.append (.singleton List.not_mem_nil)
  rw [← text_segments_inj ht hempty, htext, text_segments_append]
  rfl

/-- **Alike URLs have the same places.** -/
theorem AlikeBases.below?_eq (h : u.AlikeBases v) (hu : u.path.Segmented)
    (hv : v.path.Segmented) (hne : segments ≠ []) (hink : "" ∉ segments) :
    u.below? segments = v.below? segments := by
  obtain ⟨ss, hs, hpath⟩ := hu
  obtain ⟨ts, ht, hpath'⟩ := hv
  have hjoined : segments.foldl pushSegment (dropFinalSlash ss) =
      segments.foldl pushSegment (dropFinalSlash ts) := by
    have htexts := h.path
    rw [hpath, hpath'] at htexts
    rcases htexts with hsame | hadds | hadds
    · rw [(text_segments_inj hs ht).mp hsame]
    · obtain ⟨hlast, rfl⟩ := eq_concat_of_addsSlash hs ht hadds
      exact (foldl_pushSegment_concat_empty hne hink hlast).symm
    · obtain ⟨hlast, rfl⟩ := eq_concat_of_addsSlash ht hs hadds
      exact foldl_pushSegment_concat_empty hne hink hlast
  simp only [below?, hpath, hpath', hjoined, h.scheme, h.authority]

end Url

/-! ## 5. Configurations -/

namespace Config

variable {d : Draft} {c : Config}

theorem segmented_of_build (h : d.build = .ok c) : c.url.path.Segmented := by
  obtain ⟨clientId, address, url, -, -, hparse, hhost, rfl⟩ := Draft.build_eq_ok_iff.mp h
  exact Url.segmented_of_parse hparse hhost

/-- What is true of one place. -/
theorem place_joined {base u : Url} {segments : List String} (hbase : base.path.Segmented)
    (hne : segments ≠ []) (hink : "" ∉ segments) (h : place base segments = .ok u) :
    (base.path.text ≠ "//" → base.IsPlaceBelow (Url.Path.segments segments).text u) ∧
      (base.path.text = "//" → base.atRoot.IsPlaceBelow (Url.Path.segments segments).text u) ∧
      ∀ base' : Url, base'.path.Segmented → base.AlikeBases base' →
        place base' segments = .ok u := by
  have hbelow : base.below? segments = some u := place_eq_ok_iff.mp h
  refine ⟨fun htext => Url.isPlaceBelow_of_below? hbase hne hink htext hbelow, fun htext => ?_,
    fun base' hbase' halike => ?_⟩
  · have hroot : base.atRoot.path.Segmented := ⟨[""], by simp [Url.Slashless], rfl⟩
    have hone : base.atRoot.path.text = "/" := rfl
    rw [Url.below?_of_two_slashes hbase htext] at hbelow
    exact Url.isPlaceBelow_of_below? hroot hne hink (by rw [hone]; decide) hbelow
  · rw [place_eq_ok_iff, ← halike.below?_eq hbase hbase' hne hink]
    exact hbelow

/-- **The two places of a configuration that was built are there and stand below its URL**, and
configurations with alike URLs have the same ones.  A path of two slashes is taken for one. -/
theorem places_joined (h : d.build = .ok c) :
    ∃ keys discovery, c.tokenKeysUrl = .ok keys ∧ c.discoveryUrl = .ok discovery ∧
      (c.url.path.text ≠ "//" → c.url.IsPlaceBelow "/token_keys" keys ∧
        c.url.IsPlaceBelow "/.well-known/openid-configuration" discovery) ∧
      (c.url.path.text = "//" → c.url.atRoot.IsPlaceBelow "/token_keys" keys ∧
        c.url.atRoot.IsPlaceBelow "/.well-known/openid-configuration" discovery) ∧
      ∀ (d' : Draft) (c' : Config), d'.build = .ok c' → c.url.AlikeBases c'.url →
        c'.tokenKeysUrl = .ok keys ∧ c'.discoveryUrl = .ok discovery := by
  have hbase : c.url.path.Segmented := segmented_of_build h
  obtain ⟨⟨keys, hkeys⟩, ⟨discovery, hdiscovery⟩⟩ := exists_places h
  obtain ⟨hbelow, hroot, halike⟩ := place_joined hbase (by decide) (by decide) hkeys
  obtain ⟨hbelow', hroot', halike'⟩ := place_joined hbase (by decide) (by decide) hdiscovery
  refine ⟨keys, discovery, hkeys, hdiscovery, fun htext => ⟨hbelow htext, hbelow' htext⟩,
    fun htext => ⟨hroot htext, hroot' htext⟩, fun d' c' h' hurls => ?_⟩
  exact ⟨halike _ (segmented_of_build h') hurls, halike' _ (segmented_of_build h') hurls⟩

/-- The URL has a user name, a port, a path with a slash behind it, a query and a fragment.  Without
the last three the places are the same. -/
theorem places_joined_base :
    let draft (address : String) : Draft :=
      { service := .ias, clientId := some "client", url := some address }
    let url (path : List String) (query fragment : Option String) : Url :=
      ⟨"https", some ⟨"a", none, some (.domain "my.auth.com"), some 8443⟩, .segments path, query,
        fragment⟩
    let config (url : Url) : Config := ⟨.ias, "client", none, url, none, none, []⟩
    let long := config (url ["base", ""] (some "q") (some "f"))
    let short := config (url ["base"] none none)
    (draft "https://a@my.auth.com:8443/base/?q#f").build = .ok long ∧
      (draft "https://a@my.auth.com:8443/base").build = .ok short ∧
      long.url.AlikeBases short.url ∧
      ∃ keys discovery, long.tokenKeysUrl = .ok keys ∧ short.tokenKeysUrl = .ok keys ∧
        long.discoveryUrl = .ok discovery ∧ short.discoveryUrl = .ok discovery ∧
        keys.authority = long.url.authority ∧ keys.path.text = "/base/token_keys" ∧
        discovery.path.text = "/base/.well-known/openid-configuration" := by
  intro draft url config long short
  have hlong : (draft "https://a@my.auth.com:8443/base/?q#f").build = .ok long := by decide +kernel
  have hshort : (draft "https://a@my.auth.com:8443/base").build = .ok short := by decide +kernel
  have halike : long.url.AlikeBases short.url :=
    ⟨rfl, rfl, Or.inr (Or.inr ⟨by decide +kernel, by decide +kernel⟩)⟩
  obtain ⟨keys, discovery, hkeys, hdiscovery, hbelow, -, hsame⟩ := places_joined hlong
  obtain ⟨hk, hd⟩ := hbelow (by decide +kernel)
  obtain ⟨hkeys', hdiscovery'⟩ := hsame _ _ hshort halike
  have hstem : Url.withoutFinalSlash long.url.path.text = "/base" := by decide +kernel
  have hkeysPath : keys.path.text = "/base/token_keys" := by
    rw [hk.path, hstem]
    decide
  have hdiscoveryPath : discovery.path.text = "/base/.well-known/openid-configuration" := by
    rw [hd.path, hstem]
    decide
  exact ⟨hlong, hshort, halike, keys, discovery, hkeys, hkeys', hdiscovery, hdiscovery',
    hk.authority, hkeysPath, hdiscoveryPath⟩

/-- **Two slashes are lost.**  The places below a path of two slashes are those of the host. -/
theorem two_slashes_are_lost :
    let draft : Draft :=
      { service := .xsuaa, clientId := some "client", url := some "https://my.auth.com//" }
    let url (path : List String) : Url :=
      ⟨"https", some ⟨"", none, some (.domain "my.auth.com"), none⟩, .segments path, none, none⟩
    let config : Config := ⟨.xsuaa, "client", none, url ["", ""], none, none, []⟩
    draft.build = .ok config ∧ config.url.text = "https://my.auth.com//" ∧
      ∃ keys discovery, config.tokenKeysUrl = .ok keys ∧ config.discoveryUrl = .ok discovery ∧
        keys.text = "https://my.auth.com/token_keys" ∧
        discovery.text = "https://my.auth.com/.well-known/openid-configuration" ∧
        ¬ config.url.IsPlaceBelow "/token_keys" keys ∧
        ¬ config.url.IsPlaceBelow "/.well-known/openid-configuration" discovery := by
  intro draft url config
  refine ⟨by decide +kernel, by decide +kernel, url ["token_keys"],
    url [".well-known", "openid-configuration"], rfl, rfl, by decide +kernel, by decide +kernel,
    fun h => ?_, fun h => ?_⟩
  · exact absurd h.path (by decide +kernel)
  · exact absurd h.path (by decide +kernel)

end Config
end TokenTrust
