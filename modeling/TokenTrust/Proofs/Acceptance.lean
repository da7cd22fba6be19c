/-
# Which tokens are accepted

The check of a signature passes through five layers (the header, the source of the keys, the caches,
the choice of a key, the scheme), and several of them look at whether key and algorithm belong
together.  This file says what all of them amount to: a token is valid exactly if there is
evidence for it (`Evidence`), whatever is in the caches and whatever the network answers.

The evidence is a key of a set that was *obtained in this call* (`Obtained`): the set was in the
cache and could still be used, or a request of this call was answered with it.  Which of the
two it is does not matter, and there are never two sets that speak against each other, because a
stored set is given up only if it holds no key for the token.
-/
import TokenTrust.Proofs.Keys
import TokenTrust.Proofs.Material
import TokenTrust.Proofs.Signature
import TokenTrust.Proofs.Token

namespace TokenTrust
namespace SignatureCheck

open TokenTrust.Action TokenTrust.Retrieval

variable {out : Surroundings} {c : SignatureCheck} {t : Token} {s s' : State}
variable {source : KeySource} {alg : Algorithm} {id : Option String}

/-! ## 1. Before any keys are looked for -/

/-- **The header names one of the six algorithms, and there is a signature.** -/
theorem precheck_eq_ok_iff :
    precheck t = .ok alg ↔
      t.header.get? "alg" = some (.string alg.name) ∧ t.signature ≠ [] := by
  have halg : algorithm t = .ok alg ↔ t.header.get? "alg" = some (.string alg.name) := by
    rw [← Token.headerString?_eq_some_iff]
    simp only [algorithm, Token.algorithm?]
    cases t.headerString? "alg" with
    | none => simp
    | some name => simpa using Algorithm.parse_eq_ok_iff.trans eq_comm
  rw [← halg]
  simp only [precheck, bind_eq_ok_iff, guard_eq_ok_iff, List.isEmpty_iff]
  constructor
  · rintro ⟨a, ha, hs, hend⟩
    obtain rfl := Except.ok.inj hend
    exact ⟨ha, hs⟩
  · rintro ⟨ha, hs⟩
    exact ⟨alg, ha, hs, rfl⟩

/-! ## 2. The set of keys -/

/-- **A set of keys that was obtained for a source** between two states: it was stored when the
call looked for it, at its first look or its second, and could still be used, or it was fetched and
stored.  Whatever is stored gets the next number, even if there is no room for it; a set gets none
if it cannot be told when it expires, and then the call crashes. -/
inductive Obtained (out : Surroundings) (s s' : State) (source : KeySource) : KeySet → Prop
  | stored {held : HeldKeys}
    (h : s.keys.live? source (out.clock s.readings) = some held ∨
      s.keys.live? source (out.clock (s.readings + 1)) = some held) :
    Obtained out s s' source held.keys
  | fetched {keys : KeySet} (h : Fetched out s s' source keys)
    (hn : s'.keys.nextSerial ≠ s.keys.nextSerial) : Obtained out s s' source keys

/-- A fetch that ends with a set has stored it. -/
theorem nextSerial_ne_of_fetching {held : HeldKeys} (h : Fetching out source s (.ok held) s') :
    s'.keys.nextSerial ≠ s.keys.nextSerial := by
  cases h with
  | stored => exact Nat.succ_ne_self _

/-- What getting ends with was obtained. -/
theorem obtained_of_getting {held : HeldKeys} {origin : Origin}
    (h : Getting out source s (.ok (held, origin)) s') :
    Obtained out s s' source held.keys := by
  cases h with
  | first h => exact .stored (Or.inl h)
  | second _ h => exact .stored (Or.inr h)
  | fetched _ _ hf =>
    have hn := nextSerial_ne_of_fetching hf
    exact .fetched (hf.fetched.mono ⟨List.prefix_refl _, Nat.le_add_right _ _⟩ (.refl _)) hn

/-- What a refresh ends with is the set that was stored, or it was fetched. -/
theorem obtained_of_refreshing {held : HeldKeys}
    (h : Refreshing out source s (.ok held) s') :
    (∃ n, s.keys.live? source (out.clock n) = some held) ∨
      Fetched out s s' source held.keys ∧ s'.keys.nextSerial ≠ s.keys.nextSerial := by
  cases h with
  | limited h => exact Or.inl ⟨_, KeyCache.live?_of_recent? h⟩
  | waited _ h => exact Or.inl ⟨_, KeyCache.live?_of_recent? h⟩
  | fetched _ _ hf =>
    have hn := nextSerial_ne_of_fetching hf
    exact Or.inr ⟨hf.fetched.mono ⟨List.prefix_refl _, Nat.le_add_right _ _⟩ (.refl _), hn⟩

/-- **Getting obtains one set**, the one it ends with. -/
theorem keys_eq_of_getting {held : HeldKeys} {origin : Origin} {keys : KeySet}
    (h : Getting out source s (.ok (held, origin)) s')
    (ho : Obtained out s s' source keys) : held.keys = keys := by
  cases ho with
  | stored hl =>
    obtain ⟨seen, hseen⟩ := KeyCache.exists_live? hl
    cases h with
    | first h => rw [KeyCache.live?_unique h hseen]
    | second _ h => rw [KeyCache.live?_unique h hseen]
    | fetched h₁ h₂ => simp [h₁, h₂] at hl
  | fetched hf =>
    cases h with
    | first => exact absurd hf (Fetched.not_of_requests_eq rfl)
    | second => exact absurd hf (Fetched.not_of_requests_eq rfl)
    | fetched _ _ h => rw [(h.eq_of_fetched (hf.congr_left rfl)).2]

/-- Where getting fails, no set was obtained. -/
theorem not_obtained_of_getting {f : Failure} {keys : KeySet}
    (h : Getting out source s (.error f) s') : ¬ Obtained out s s' source keys := by
  intro ho
  cases h with
  | failed h₁ h₂ h =>
    cases ho with
    | stored hl => simp [h₁, h₂] at hl
    | fetched _ hn => exact hn (by rw [h.keys_eq_of_error, State.advance_keys])

/-- **The set in which the key is looked up was obtained.** -/
theorem Finding.obtained {r : Except Failure KeySet} {keys : KeySet}
    (h : Finding out source alg id s r s') (hr : r = .ok keys) :
    Obtained out s s' source keys := by
  cases h with
  | ungot => exact nomatch hr
  | missing => exact nomatch hr
  | found hg =>
    cases hr
    exact obtained_of_getting (getting_of_run hg)
  | @refreshed held e i q s₁ s' hg _ _ hq =>
    obtain ⟨hl, n, rfl⟩ := (getting_of_run hg).of_cache
    obtain ⟨seen, hseen⟩ := KeyCache.exists_live? hl
    have hrefresh := refreshing_of_run hq
    cases q with
    | error f => exact nomatch hr
    | ok refreshed =>
      simp only [exchanged, Except.bind] at hr
      split at hr
      · exact nomatch hr
      · next hne =>
        cases hr
        rcases obtained_of_refreshing hrefresh with ⟨m, hm⟩ | ⟨hf, hn⟩
        · have hsame : held = refreshed := KeyCache.live?_unique hseen hm
          exact absurd (by rw [hsame]) hne
        · exact .fetched (hf.congr_left (by simp)) hn

/-- **A set that was obtained and holds the key is the one in which it is looked up.** -/
theorem Finding.eq_ok {r : Except Failure KeySet} {keys : KeySet} {k : Key}
    (h : Finding out source alg id s r s') (ho : Obtained out s s' source keys)
    (hk : keys.select alg id = .ok k) : r = .ok keys := by
  cases h with
  | ungot hg => exact absurd ho (not_obtained_of_getting (getting_of_run hg))
  | found hg => rw [keys_eq_of_getting (getting_of_run hg) ho]
  | missing hg hm =>
    rw [keys_eq_of_getting (getting_of_run hg) ho, hk] at hm
    exact nomatch hm
  | @refreshed held e i q s₁ s' hg hm _ hq =>
    obtain ⟨hl, n, rfl⟩ := (getting_of_run hg).of_cache
    obtain ⟨seen, hseen⟩ := KeyCache.exists_live? hl
    cases ho with
    | @stored held' hl' =>
      obtain ⟨seen', hseen'⟩ := KeyCache.exists_live? hl'
      have hsame : held = held' := KeyCache.live?_unique hseen hseen'
      rw [hsame, hk] at hm
      exact nomatch hm
    | fetched hf hn =>
      have hlt : held.serial < s.keys.nextSerial := KeyCache.serial_lt_of_live? hseen
      cases refreshing_of_run hq with
      | untold => exact absurd hf (Fetched.not_of_requests_eq (by simp))
      | limited => exact absurd hf (Fetched.not_of_requests_eq (by simp))
      | waited => exact absurd hf (Fetched.not_of_requests_eq (by simp))
      | @fetched q s' _ _ h =>
        cases q with
        | error f => exact absurd (congrArg KeyCache.nextSerial h.keys_eq_of_error) hn
        | ok got =>
          have hgot : got = ⟨s.keys.nextSerial, keys⟩ :=
            (h.eq_of_fetched (hf.congr_left (by simp))).2
          have hne : s.keys.nextSerial ≠ held.serial := Nat.ne_of_gt hlt
          simp [hgot, exchanged, Except.bind, hne]

/-! ## 3. The evidence -/

/-- **The evidence for a token.**  The check starts in a state `s` and comes to a key `k` whose
public key is `key`. -/
structure Evidence (out : Surroundings) (c : SignatureCheck) (s : State) (t : Token)
    (alg : Algorithm) (k : Key) (key : PublicKey) : Prop where
  /-- The header names the algorithm. -/
  named : t.header.get? "alg" = some (.string alg.name)
  /-- There is a signature. -/
  present : t.signature ≠ []
  /-- There is a source of keys, a set was obtained for it, and the key is picked from that set. -/
  picked : ∃ source s₁ keys, (c.source t).run out s = (.ok source, s₁) ∧
    Obtained out s₁ ((c.check t).run out s).2 source keys ∧ keys.select alg t.keyId? = .ok k
  /-- The key has a public key. -/
  usable : k.publicKey = .ok key
  /-- The public key is of the algorithm's family and on its curve, and the signature has the
  length and satisfies the scheme of the algorithm, for what stands before the last dot. -/
  accepted : Signed alg key t.signedOctets t.signature

/-- The judgement on a token with a set of keys. -/
theorem judge_eq_ok_iff {keys : KeySet} {message : List UInt8}
    (hm : t.signingInput = message) :
    judge keys alg t = .ok () ↔ ∃ k key, keys.select alg t.keyId? = .ok k ∧
      k.publicKey = .ok key ∧ Signed alg key message t.signature := by
  subst hm
  cases hs : keys.select alg t.keyId? with
  | error e => simp [judge, hs, Except.bind]
  | ok k =>
    simp [judge, hs, Except.bind, Key.verify_eq_ok_iff (KeySet.supports_of_select hs)]

/-- A check that succeeds has found evidence. -/
theorem exists_evidence_of_run {text : String} (ht : Token.parse text = .ok t)
    (h : (c.check t).run out s = (.ok (), s')) : ∃ alg k key, Evidence out c s t alg k key := by
  have hcheck := checking_of_run h
  generalize hr : (Except.ok () : Except Failure Unit) = r at hcheck
  cases hcheck with
  | refused => exact nomatch hr
  | sourceless => exact nomatch hr
  | keyless => exact nomatch hr
  | @judged alg source keys s₁ _ hp hs hk =>
    have hj : judge keys alg t = .ok () := by
      cases hj : judge keys alg t with
      | error e => rw [hj] at hr; exact nomatch hr
      | ok u => rfl
    obtain ⟨k, key, hsel, hpub, hsig⟩ :=
      (judge_eq_ok_iff (Token.signingInput_eq_signedOctets ht)).mp hj
    obtain ⟨hname, hsome⟩ := precheck_eq_ok_iff.mp hp
    have ho : Obtained out s₁ ((c.check t).run out s).2 source keys := by
      rw [h]
      exact (finding_of_run hk).obtained rfl
    exact ⟨alg, k, key, hname, hsome, ⟨source, s₁, keys, hs, ho, hsel⟩, hpub, hsig⟩

/-- Where there is evidence, the check succeeds. -/
theorem run_eq_ok_of_evidence {text : String} (ht : Token.parse text = .ok t) {k : Key}
    {key : PublicKey} (he : Evidence out c s t alg k key) :
    ((c.check t).run out s).1 = .ok () := by
  obtain ⟨source, s₁, keys, hs, ho, hsel⟩ := he.picked
  have hp : precheck t = .ok alg := precheck_eq_ok_iff.mpr ⟨he.named, he.present⟩
  have hj := (judge_eq_ok_iff (Token.signingInput_eq_signedOctets ht)).mpr
    ⟨k, key, hsel, he.usable, he.accepted⟩
  cases hk : (keysFor source alg t.keyId?).run out s₁ with
  | mk r s' =>
    have hend : ((c.check t).run out s).2 = s' := by
      rw [run_check hp hs, hk]
      cases r <;> rfl
    rw [hend] at ho
    have hr : r = .ok keys := (finding_of_run hk).eq_ok ho hsel
    rw [run_check hp hs, hk, hr]
    simp only [hj, mapError_ok]

/-- **A token is valid exactly if there is evidence for it**, and the evidence leaves no room for a
confusion of algorithms: the key is of the family of the algorithm, by its type and by its public
key, it is not meant for another algorithm, and on a curve it is a point that satisfies the
equation of the one curve of the algorithm, and the signature is two numbers of the width of that
curve. -/
theorem valid_iff_evidence (out : Surroundings) (c : SignatureCheck) (s : State) {text : String}
    {t : Token} (ht : Token.parse text = .ok t) :
    (((Validator.ofAction c.check t).run out s).1 = .ok .valid ↔
      ∃ alg k key, Evidence out c s t alg k key) ∧
    ∀ alg k key, Evidence out c s t alg k key →
      k.keyType = alg.keyType ∧ (∀ own, k.algorithm = some own → own = alg) ∧
      key.keyType = alg.keyType ∧
      ∀ curve, alg.curve? = some curve →
        (∃ q, key = .ec curve q ∧ curve.curve.Contains q) ∧
          t.signature.length = 2 * curve.width := by
  constructor
  · rw [run_validator, verdictOf_eq_valid_iff]
    constructor
    · intro hr
      exact exists_evidence_of_run ht (Prod.ext hr rfl)
    · rintro ⟨alg, k, key, he⟩
      exact run_eq_ok_of_evidence ht he
  · intro alg k key he
    obtain ⟨source, s₁, keys, -, -, hsel⟩ := he.picked
    obtain ⟨hfamily, hown, -⟩ := Key.supports_iff.mp (KeySet.supports_of_select hsel)
    refine ⟨hfamily, hown, he.accepted.keyType_eq, fun curve hc => ?_⟩
    obtain ⟨⟨q, rfl⟩, hlength⟩ := he.accepted.of_curve hc
    exact ⟨⟨q, rfl, (Key.sound_of_publicKey he.usable).contains⟩, hlength⟩

/-- A token was signed with a key of RSA.  It is valid where a set with the public half of this key
is stored, and there is evidence for it; there is none where nothing is stored and the network
crashes. -/
theorem valid_iff_evidence_rs256 :
    let place : Url := ⟨"https", some ⟨"", none, some (.domain "my.auth.com"), none⟩,
      .segments ["token_keys"], none, none⟩
    let source : KeySource := ⟨place, none⟩
    let c : SignatureCheck := ⟨.xsuaa, place, place, []⟩
    let k : Key := .rsa none none
      "122flpMj9WmUDYZZ9tYK825NU0I203Yk-hHUeoNn6PX14Wl943LIB5TG0H_NR3VJUK3M1joa0TMKqR880Pc" "Aw"
    let modulus := 172163256872384254713648486928664513244764105529288241505358376135709494742247 *
      10 ^ 72 + 859239167262282384103029073824249116883533913752452961962358199809790199
    let key : PublicKey := .rsa ⟨modulus, 3⟩
    let out : Surroundings := ⟨fun _ => 0, 0, fun _ _ => .crash⟩
    let s : State := { keys := (KeyCache.store {} source ⟨[k]⟩ 0).2 }
    ∃ t, Token.parse ("eyJhbGciOiJSUzI1NiJ9.e30.G6p8K4h3G0f111-BKoNqgkMiSYAeetRDW-hbT3WK_P9pUJe" ++
        "mI4Yg07VWv7eiASXPeJwYGfKUlBcQiNgDu_o") = .ok t ∧
      Evidence out c s t .rs256 k key ∧
      ((Validator.ofAction c.check t).run out s).1 = .ok .valid ∧
      k.keyType = .rsa ∧ key.keyType = .rsa ∧
      ((Validator.ofAction c.check t).run out {}).1 = .error .crash ∧
      ¬ ∃ alg k key, Evidence out c {} t alg k key := by
  intro place source c k modulus key out s
  set text := "eyJhbGciOiJSUzI1NiJ9.e30.G6p8K4h3G0f111-BKoNqgkMiSYAeetRDW-hbT3WK_P9pUJe" ++
    "mI4Yg07VWv7eiASXPeJwYGfKUlBcQiNgDu_o"
  let octets : List UInt8 := [27, 170, 124, 43, 136, 119, 27, 71, 245, 215, 95, 129, 42, 131, 106,
    130, 67, 34, 73, 128, 30, 122, 212, 67, 91, 232, 91, 79, 117, 138, 252, 255, 105, 80, 151, 166,
    35, 134, 32, 211, 181, 86, 191, 183, 162, 1, 37, 207, 120, 156, 24, 25, 242, 148, 148, 23, 16,
    136, 216, 3, 187, 250]
  let input : List UInt8 := Text.Utf8.bytes "eyJhbGciOiJSUzI1NiJ9.e30"
  have hread : (Token.parse text).toOption.map (fun t =>
      (t.algorithm?, t.keyId?, t.keySetUrl?, t.signedOctets, t.signature)) =
        some (some "RS256", none, none, input, octets) := by decide +kernel
  cases ht : Token.parse text with
  | error e =>
    rw [ht] at hread
    cases hread
  | ok t =>
    rw [ht] at hread
    obtain ⟨halg, hid, hjku, hinput, hsignature⟩ : t.algorithm? = some "RS256" ∧ t.keyId? = none ∧
        t.keySetUrl? = none ∧ t.signedOctets = input ∧ t.signature = octets := by
      simpa [Except.toOption] using hread
    have hsource (s : State) : (c.source t).run out s = (.ok source, s) := by
      simp [c, SignatureCheck.source, xsuaaSource, hjku]
      rfl
    have hstored : s.keys.live? source (out.clock s.readings) = some ⟨0, ⟨[k]⟩⟩ := by
      decide +kernel
    have hverifies : Rsa.accepts .sha256 ⟨modulus, 3⟩ input octets = true := by decide +kernel
    have he : Evidence out c s t .rs256 k key :=
      { named := Token.headerString?_eq_some_iff.mp halg
        present := by rw [hsignature]; exact List.cons_ne_nil _ _
        picked := by
          refine ⟨source, s, ⟨[k]⟩, hsource s, .stored (Or.inl hstored), ?_⟩
          rw [hid]
          decide +kernel
        usable := by decide +kernel
        accepted := by rw [hinput, hsignature]; exact .rs256 hverifies }
    obtain ⟨hiff, hfamily⟩ := valid_iff_evidence out c s ht
    obtain ⟨htype, -, hkey, -⟩ := hfamily _ _ _ he
    have hempty : ((Validator.ofAction c.check t).run out {}).1 = .error .crash := by
      have hp : precheck t = .ok .rs256 := precheck_eq_ok_iff.mpr ⟨he.named, he.present⟩
      rw [run_validator, run_check hp (hsource {}), hid]
      rfl
    refine ⟨t, rfl, he, hiff.mpr ⟨_, _, _, he⟩, htype, hkey, hempty, fun hsome => ?_⟩
    have hvalid := (valid_iff_evidence out c {} ht).1.mpr hsome
    rw [hempty] at hvalid
    cases hvalid

end SignatureCheck
end TokenTrust
