/-
# What a page that reports an error can say

Whoever answers a fetch decides what a page that reports an error says, and the error that the
caller gets shows the start of it.  That part is a preview: printable ASCII
(`isPrintable_of_mem_preview`), short (`length_preview_le`), and the same for any two pages that
begin alike and of which both go on or neither does (`preview_congr`).  It shows an octet by a
character or two, the first 128 octets of a page, and then three dots.

The rest of the report is the status and how much of the page was read, which is never more than the
limit.  So two pages that both reach the limit are reported alike if they begin alike
(`Response.report_congr`), and the error that the caller gets is the same
(`error_page_confined`).  A page that breaks off before the limit is not shown at all.

All of this is about the page that a client gets in the end (`Client.Gets`), after it has gone
wherever it was sent, no matter how the transport makes that out.  The client goes on a limited
number of times (`Client.length_follow_le`).  A server can have it get any page it likes with any
status that has one (`Client.ends_page`).
-/
import Mathlib
import TokenTrust.Http.Fetch
import TokenTrust.Url.Parse

namespace TokenTrust
namespace Http

/-! ## 1. Previews -/

/-- A character of printable ASCII. -/
def IsPrintable (c : Char) : Prop := 0x20 ≤ c.toNat ∧ c.toNat ≤ 0x7E

/-- An octet is shown by one or two characters, and they are printable. -/
theorem previewOctet_bounds (b : UInt8) : 1 ≤ (previewOctet b).length ∧
    (previewOctet b).length ≤ 2 ∧ ∀ c ∈ previewOctet b, IsPrintable c := by
  unfold previewOctet IsPrintable
  split
  · simp
  split
  · simp
  split
  · simp
  split
  · next hprintable =>
    have hlow : 32 ≤ b.toNat := UInt8.le_iff_toNat_le.mp hprintable.1
    have hhigh : b.toNat < 127 := UInt8.lt_iff_toNat_lt.mp hprintable.2
    have hnat : (Char.ofNat b.toNat).toNat = b.toNat := by
      rw [Char.toNat_ofNat, if_pos (Or.inl (by omega))]
    simp only [List.length_singleton, List.mem_singleton, forall_eq, hnat]
    omega
  · simp

/-- **A preview is printable.** -/
theorem isPrintable_of_mem_preview {body : List UInt8} {c : Char} (h : c ∈ (preview body).toList) :
    IsPrintable c := by
  rw [preview, String.toList_ofList, List.mem_append, List.mem_flatMap] at h
  rcases h with ⟨b, -, hc⟩ | hdots
  · exact (previewOctet_bounds b).2.2 c hc
  · split at hdots
    · obtain rfl : c = '.' := by simpa using hdots
      unfold IsPrintable
      simp
    · exact absurd hdots List.not_mem_nil

theorem length_flatMap_previewOctet (bs : List UInt8) :
    bs.length ≤ (bs.flatMap previewOctet).length ∧
      (bs.flatMap previewOctet).length ≤ 2 * bs.length := by
  induction bs with
  | nil => exact ⟨le_rfl, le_rfl⟩
  | cons b bs ih =>
    have hb := previewOctet_bounds b
    rw [List.flatMap_cons, List.length_append, List.length_cons]
    omega

/-- **A preview is short.** -/
theorem length_preview_le (body : List UInt8) : (preview body).length ≤ 259 := by
  have hshown := (length_flatMap_previewOctet (body.take previewLimit)).2
  have htake : (body.take previewLimit).length ≤ 128 := List.length_take_le ..
  have hmore : (if previewLimit < body.length then ['.', '.', '.'] else []).length ≤ 3 := by
    split <;> simp
  rw [preview, String.length_ofList, List.length_append]
  omega

/-- Nothing is shown only of nothing. -/
theorem preview_isEmpty (body : List UInt8) : (preview body).isEmpty = body.isEmpty := by
  rw [Bool.eq_iff_iff, String.isEmpty_iff, List.isEmpty_iff, ← String.toList_eq_nil_iff]
  constructor
  · intro h
    rw [preview, String.toList_ofList, List.append_eq_nil_iff] at h
    have hlength := (length_flatMap_previewOctet (body.take previewLimit)).1
    rw [h.1, List.length_take, previewLimit, List.length_nil] at hlength
    exact List.eq_nil_of_length_eq_zero (by omega)
  · rintro rfl
    rfl

/-- **A preview depends on no more than the start of a page** and on whether there is more. -/
theorem preview_congr {body body' : List UInt8}
    (hstart : body.take previewLimit = body'.take previewLimit)
    (hmore : previewLimit < body.length ↔ previewLimit < body'.length) :
    preview body = preview body' := by
  simp only [preview, hstart, hmore]

/-- What is read of a page is enough for its preview. -/
theorem preview_take (body : List UInt8) : preview (body.take errorBodyLimit) = preview body := by
  refine preview_congr ?_ ?_
  · rw [List.take_take]
    rfl
  · rw [List.length_take, errorBodyLimit, previewLimit]
    omega

/-! ## 2. Reports -/

/-- How a report begins, by the status and by how much of the page was read. -/
def reportStart (status length : ℕ) : String :=
  "status " ++ statusText status ++ " body_read_len " ++ toString length

/-- The report of a page that breaks off before the limit. -/
def brokenOff : String :=
  "crypto error: response body read error: request or response body error"

namespace Response

variable {r r' : Response}

/-- A page breaks off before the limit. -/
def BreaksOff (r : Response) : Prop := r.isCut = true ∧ r.body.length < errorBodyLimit

instance (r : Response) : Decidable r.BreaksOff := inferInstanceAs (Decidable (_ ∧ _))

/-- **What is reported of a page**: nothing that it says but its preview. -/
theorem report_eq (r : Response) : r.report =
    if r.BreaksOff then brokenOff
    else reportStart r.status (min r.body.length errorBodyLimit) ++
      if r.body.isEmpty then "" else " body_preview " ++ preview r.body := by
  have hlength : (r.body.take errorBodyLimit).length = min errorBodyLimit r.body.length :=
    List.length_take
  rw [report, errorBody]
  by_cases hcut : r.BreaksOff
  · rw [if_pos hcut, if_pos ⟨hcut.1, by rw [hlength]; exact min_lt_of_right_lt hcut.2⟩]
    rfl
  · rw [if_neg hcut, if_neg (fun h => hcut ⟨h.1, by rw [hlength] at h; omega⟩)]
    simp only [preview_take, preview_isEmpty, hlength, min_comm errorBodyLimit, reportStart]

/-- Two pages that reach the limit are reported alike if they begin alike. -/
theorem report_congr (hstatus : r.status = r'.status)
    (hstart : r.body.take previewLimit = r'.body.take previewLimit)
    (h : errorBodyLimit ≤ r.body.length) (h' : errorBodyLimit ≤ r'.body.length) :
    r.report = r'.report := by
  have hlimits : 0 < previewLimit ∧ previewLimit < errorBodyLimit := by decide
  have hpreview : preview r.body = preview r'.body := preview_congr hstart (by omega)
  have hwhole {r : Response} (h : errorBodyLimit ≤ r.body.length) :
      ¬ r.BreaksOff ∧ r.body.isEmpty = false := by
    refine ⟨fun hcut => absurd hcut.2 (by omega), ?_⟩
    rw [List.isEmpty_eq_false_iff, ← List.length_pos_iff]
    omega
  rw [report_eq, report_eq, if_neg (hwhole h).1, if_neg (hwhole h').1, min_eq_right h,
    min_eq_right h', (hwhole h).2, (hwhole h').2, hstatus, hpreview]

end Response

/-! ## 3. Pages that a client gets -/

namespace Client

variable {c : Client} {redirection : Redirection} {serve : Request → Reply} {request : Request}

/-- An exchange is over with an answer that does not send the client on. -/
theorem follow_of_ending {ending : Ending} (room : ℕ)
    (h : c.react redirection request (serve request) = .inr ending) :
    (c.follow redirection serve room request).2 = ending := by
  cases room <;> simp only [follow, h]

/-- An answer that sends the client on leaves it to the other request how the exchange ends. -/
theorem follow_of_next {next : Request} (room : ℕ)
    (h : c.react redirection request (serve request) = .inl next) :
    (c.follow redirection serve (room + 1) request).2 =
      (c.follow redirection serve room next).2 := by
  rw [follow, h]

/-- **A client goes on a limited number of times.** -/
theorem length_follow_le (room : ℕ) (request : Request) :
    (c.follow redirection serve room request).1.length ≤ room + 1 := by
  have hsent (request : Request) :
      (if serve request = .refused then [] else [request] : List Request).length ≤ 1 := by
    split <;> simp
  induction room generalizing request with
  | zero =>
    cases h : c.react redirection request (serve request) <;> simpa only [follow, h] using hsent _
  | succ room ih =>
    cases h : c.react redirection request (serve request) with
    | inr ending =>
      simpa only [follow, h] using (hsent request).trans (by omega)
    | inl next =>
      have hfirst := hsent request
      have hothers := ih next
      rw [follow, h]
      simp only [List.length_append]
      omega

/-- **A client gets a response**: the request for a source can be made and sent, and the response is
how the exchange ends. -/
def Gets (c : Client) (redirection : Redirection) (source : KeySource) (serve : Request → Reply)
    (r : Response) : Prop :=
  ∃ request, c.prepare source = some request ∧ isSpoken request.url.scheme = true ∧
    (c.follow redirection serve c.redirects request).2 = .response r

theorem Gets.result_eq {source : KeySource} {r : Response}
    (h : c.Gets redirection source serve r) : (c.fetch redirection source serve).result =
      some (r.document.mapError (.keyRetrieval source.url.redacted.text)) := by
  obtain ⟨request, hrequest, hspoken, hend⟩ := h
  simp [fetch, hrequest, hspoken, hend, Ending.document?]

end Client

/-- An ASCII digit. -/
def digitOctet (n : ℕ) : UInt8 := UInt8.ofNat (48 + n)

theorem digitOctet_spec {n : ℕ} (h : n < 10) :
    (Char.ofNat (digitOctet n).toNat).isDigit = true ∧
      (Char.ofNat (digitOctet n).toNat).toNat - 48 = n ∧
      digitOctet n ≠ 10 ∧ digitOctet n ≠ 13 := by
  have hall : ∀ n < 10, (Char.ofNat (digitOctet n).toNat).isDigit = true ∧
      (Char.ofNat (digitOctet n).toNat).toNat - 48 = n ∧
      digitOctet n ≠ 10 ∧ digitOctet n ≠ 13 := by decide +kernel
  exact hall n h

/-- A first line: the version, which is 1.1, and a status of three digits. -/
def firstLine (status : ℕ) : List UInt8 :=
  [72, 84, 84, 80, 47, 49, 46, 49, 32, digitOctet (status / 100), digitOctet (status / 10 % 10),
    digitOctet (status % 10)]

/-- A page with a status as a server can send it: without header fields, and as long as it likes. -/
def page (status : ℕ) (body : List UInt8) : List UInt8 :=
  firstLine status ++ 13 :: 10 :: 13 :: 10 :: body

theorem line?_append {line : List UInt8} (h : ∀ b ∈ line, b ≠ 10 ∧ b ≠ 13) (rest : List UInt8) :
    line? (line ++ 13 :: 10 :: rest) = some (line, rest) := by
  induction line with
  | nil => rfl
  | cons b line ih =>
    obtain ⟨⟨hfeed, hreturn⟩, hline⟩ := List.forall_mem_cons.mp h
    rw [List.cons_append, line?, ih hline]
    · rfl
    · exact hfeed
    · rintro rest rfl
      exact absurd rfl hreturn
    · exact hreturn

section Pages

variable {status : ℕ} (hlow : 200 ≤ status) (hhigh : status < 1000)
include hhigh

theorem line?_page (body : List UInt8) :
    line? (page status body) = some (firstLine status, 13 :: 10 :: body) := by
  have h₁ := digitOctet_spec (show status / 100 < 10 by omega)
  have h₂ := digitOctet_spec (show status / 10 % 10 < 10 by omega)
  have h₃ := digitOctet_spec (show status % 10 < 10 by omega)
  refine line?_append ?_ _
  simp [firstLine, h₁.2.2, h₂.2.2, h₃.2.2]

include hlow

theorem ofLine?_firstLine :
    Head.ofLine? [] (characters (firstLine status)) = some ⟨1, status, []⟩ := by
  have hshape (a b c : UInt8) :
      Head.ofLine? [] (characters [72, 84, 84, 80, 47, 49, 46, 49, 32, a, b, c]) =
        (Head.status? (Char.ofNat a.toNat) (Char.ofNat b.toNat) (Char.ofNat c.toNat)).bind
          fun status => some ⟨1, status, []⟩ := rfl
  have h₁ := digitOctet_spec (show status / 100 < 10 by omega)
  have h₂ := digitOctet_spec (show status / 10 % 10 < 10 by omega)
  have h₃ := digitOctet_spec (show status % 10 < 10 by omega)
  have hvalue : 100 * (status / 100) + 10 * (status / 10 % 10) + status % 10 = status := by omega
  have hstatus : 100 ≤ status := by omega
  rw [firstLine, hshape, Head.status?]
  simp [h₁.1, h₂.1, h₃.1, h₁.2.1, h₂.2.1, h₃.2.1, hvalue, hstatus]

theorem final?_page (body : List UInt8) :
    Head.final? (page status body) = some (⟨1, status, []⟩, body) := by
  have hline := line?_page hhigh body
  have hhead : Head.read? (page status body) = some (⟨1, status, []⟩, body) := by
    have hfields : fields? maxFields (13 :: 10 :: body) = some ([], body) := rfl
    rw [Head.read?]
    split
    · next hnone => simp [hline] at hnone
    · next rest hempty => simp [hline, firstLine] at hempty
    · next line rest _ hsome =>
      obtain ⟨rfl, rfl⟩ : firstLine status = line ∧ 13 :: 10 :: body = rest := by
        simpa [hline] using hsome
      simp [hfields, ofLine?_firstLine hlow hhigh]
  rw [Head.final?]
  split
  · next hnone => simp [hhead] at hnone
  · next head rest hsome =>
    obtain ⟨rfl, rfl⟩ : (⟨1, status, []⟩ : Head) = head ∧ body = rest := by
      simpa [hhead] using hsome
    rw [if_pos (by simp [isFinal, hlow])]

/-- **A server can have a client get any page**, unless its status sends the client elsewhere. -/
theorem Client.ends_page {c : Client} {redirection : Redirection} {request : Request}
    (hstays : redirection.next? request ⟨1, status, []⟩ = none)
    (hbody : mayHaveBody status = true) (body : List UInt8) :
    c.react redirection request (.octets (page status body)) =
      .inr (.response ⟨status, body, false⟩) := by
  have hresponse : (⟨1, status, []⟩ : Head).response? body = some ⟨status, body, false⟩ := by
    simp [Head.response?, Head.framing?, hbody, Head.values, Framing.response]
  simp only [react, final?_page hlow hhigh, hresponse, hstays]

end Pages

/-! ## 4. What the caller is told -/

/-- **A page that reports an error cannot slip text into the error.**  The caller is told the status
and how much of the page was read, which is the lesser of its length and 4096, and behind that the
preview of the page unless it is empty.  The preview is printable ASCII of no more than 259
characters, and it depends only on the first 128 octets and on whether there are more.

Whoever fetches from the same URL and gets a page with the same status and the same first 128 octets
gets the same error, if both pages have at least 4096 octets.  If a page breaks off before that, the
error shows nothing of it. -/
theorem error_page_confined {c : Client} {redirection : Redirection} {source : KeySource}
    {serve : Request → Reply} {r : Response} (h : c.Gets redirection source serve r)
    (hstatus : isSuccess r.status = false) :
    (c.fetch redirection source serve).result = some (.error (.keyRetrieval source.url.redacted.text
      (if r.BreaksOff then brokenOff
      else reportStart r.status (min r.body.length 4096) ++
        if r.body.isEmpty then "" else " body_preview " ++ preview r.body))) ∧
    (∀ ch ∈ (preview r.body).toList, IsPrintable ch) ∧
    (preview r.body).length ≤ 259 ∧
    (∀ body : List UInt8, body.take 128 = r.body.take 128 →
      (128 < body.length ↔ 128 < r.body.length) → preview body = preview r.body) ∧
    ∀ (c' : Client) (redirection' : Redirection) (source' : KeySource)
      (serve' : Request → Reply) (r' : Response), c'.Gets redirection' source' serve' r' →
      source'.url = source.url → r'.status = r.status → r'.body.take 128 = r.body.take 128 →
      4096 ≤ r'.body.length → 4096 ≤ r.body.length →
      (c'.fetch redirection' source' serve').result =
        (c.fetch redirection source serve).result := by
  have htold {c : Client} {redirection : Redirection} {source : KeySource}
      {serve : Request → Reply} {r : Response} (h : c.Gets redirection source serve r)
      (hstatus : isSuccess r.status = false) : (c.fetch redirection source serve).result =
        some (.error (.keyRetrieval source.url.redacted.text r.report)) := by
    rw [h.result_eq, Response.document, hstatus]
    rfl
  refine ⟨?_, fun ch => isPrintable_of_mem_preview, length_preview_le _,
    fun body => preview_congr, ?_⟩
  · rw [htold h hstatus, Response.report_eq]
    rfl
  · intro c' redirection' source' serve' r' h' hurl hsame hstart hlong' hlong
    rw [htold h' (hsame ▸ hstatus), htold h hstatus, hurl,
      Response.report_congr hsame hstart hlong' hlong]

/-- The servers send the client elsewhere, to two pages that begin with line feeds alone, which are
shown by two characters each, and go on differently behind them. -/
theorem error_page_confined_line_feeds :
    let source : KeySource := ⟨⟨"https", some ⟨"", none, some (.domain "my.auth.com"), none⟩,
      .segments ["token_keys"], none, none⟩, none⟩
    let body (more : List UInt8) : List UInt8 := List.replicate 128 10 ++ more
    let found : List UInt8 := Text.Utf8.bytes
      ("HTTP/1.1 302 Found\x0d\x0alocation: https://keys.auth.com/\x0d\x0acontent-length: 0" ++
        "\x0d\x0a\x0d\x0a")
    let serve (more : List UInt8) : Request → Reply := fun request =>
      .octets (if request.url = source.url then found else page 503 (body more))
    let redirection : Redirection :=
      { next? := fun request head =>
          if head.status ∈ [301, 302, 303, 307, 308] then
            (head.values "location").head?.bind fun place =>
              (Url.parse place).toOption.map fun url => { request with url }
          else none
        exhausted := fun request =>
          "error following redirect for url (" ++ request.url.text ++ ")" }
    let letters : List UInt8 := List.replicate 5000 65
    let zeros : List UInt8 := List.replicate 6000 0
    isSuccess 503 = false ∧
      Client.Gets {} redirection source (serve letters) ⟨503, body letters, false⟩ ∧
      Client.Gets {} redirection source (serve zeros) ⟨503, body zeros, false⟩ ∧
      (preview (body letters)).length = 259 ∧
      (Client.fetch {} redirection source (serve letters)).result =
        some (.error (.keyRetrieval "https://my.auth.com/token_keys"
          ("status 503 Service Unavailable body_read_len 4096" ++
            (" body_preview " ++ preview (body letters))))) ∧
      (Client.fetch {} redirection source (serve zeros)).result =
        (Client.fetch {} redirection source (serve letters)).result := by
  intro source body found serve redirection letters zeros
  have hrequest : Client.prepare {} source = some ⟨source.url, none, none, none⟩ := by
    decide +kernel
  have hgets (more : List UInt8) :
      Client.Gets {} redirection source (serve more) ⟨503, body more, false⟩ := by
    let elsewhere : Request := ⟨⟨"https", some ⟨"", none, some (.domain "keys.auth.com"), none⟩,
      .segments [""], none, none⟩, none, none, none⟩
    have hfirst : Client.react {} redirection ⟨source.url, none, none, none⟩ (.octets found) =
        .inl elsewhere := by decide +kernel
    have hsecond : Client.react {} redirection elsewhere (serve more elsewhere) =
        .inr (.response ⟨503, body more, false⟩) :=
      Client.ends_page (by decide) (by decide) rfl rfl (body more)
    refine ⟨_, hrequest, rfl, ?_⟩
    exact (Client.follow_of_next 9 hfirst).trans (Client.follow_of_ending 9 hsecond)
  have hlong : 4096 ≤ (body letters).length ∧ 4096 ≤ (body zeros).length := by
    simp only [body, letters, zeros, List.length_append, List.length_replicate]
    omega
  have hstart (more : List UInt8) : (body more).take 128 = List.replicate 128 10 :=
    List.take_left' List.length_replicate
  obtain ⟨htold, -, -, hpreview, hsame⟩ := error_page_confined (hgets letters) rfl
  refine ⟨rfl, hgets letters, hgets zeros, ?_, ?_, ?_⟩
  · have hmore : preview (List.replicate 129 10) = preview (body letters) := by
      refine hpreview _ ?_ ?_
      · rw [hstart]
        rfl
      · rw [List.length_replicate]
        exact iff_of_true (by decide) (Nat.lt_of_lt_of_le (by decide) hlong.1)
    rw [← hmore, preview, String.length_ofList]
    decide +kernel
  · have haddress : source.url.redacted.text = "https://my.auth.com/token_keys" := by decide +kernel
    have hreport : reportStart 503 4096 = "status 503 Service Unavailable body_read_len 4096" := by
      decide +kernel
    have hwhole : ¬ Response.BreaksOff ⟨503, body letters, false⟩ :=
      fun hcut => Bool.false_ne_true hcut.1
    have hsome : (body letters).isEmpty = false := rfl
    rw [htold, if_neg hwhole, haddress, min_eq_right hlong.1, hreport, hsome]
    rfl
  · exact hsame {} redirection source (serve zeros) _ (hgets zeros) rfl rfl
      ((hstart zeros).trans (hstart letters).symm) hlong.2 hlong.1

end Http
end TokenTrust
