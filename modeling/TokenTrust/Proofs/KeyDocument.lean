/-
# No entry is lost

What becomes of an entry depends on itself and on the entries before it (`KeyDocument.fate`): the
key of an acceptable one is kept if it is the first at its place, and any other entry gets one
report.  The report on a document is made up of the fates of its entries, in their order
(`KeyDocument.report_eq_told`), so keys and reports are as many as entries.

An entry that is passed over claims no place that was free, so it changes the fate of no other
(`KeyDocument.fates_insert`): with it and without it the keys are the same, and its report stands
between those on the entries before it and those on the entries behind it.

The entries of a document are read whatever they say and whatever blanks stand between the parts
(`KeyDocument.Layout.run_document`), as long as each of them is a value of its own; and there is a
document for any values that are not nested too deep.
-/
import Mathlib
import TokenTrust.Proofs.Entries
import TokenTrust.Proofs.Selection
import TokenTrust.Proofs.Writing

namespace TokenTrust
namespace KeyDocument

open Json (Says)
open Json.Reader (Blank listed octet)

variable {before vs ws : List Json.Value} {v : Json.Value} {k : Key} {s : Skipped}

/-! ## 1. Fates -/

/-- The keys of the entries that are acceptable, each on its own. -/
def accepted (vs : List Json.Value) : List Key := vs.filterMap fun v => (judge v).toOption

/-- The places that they claim. -/
def claimed (vs : List Json.Value) : List (KeyType × String) := (accepted vs).map Key.slot

/-- **What becomes of an entry** behind some others: its key is kept, or there is a report. -/
def fate (before : List Json.Value) (v : Json.Value) : Except Skipped Key :=
  match judge v with
  | .error s => .error s
  | .ok k =>
    if k.slot ∈ claimed before then .error ⟨some k.id, some k.keyType.name, .duplicate⟩ else .ok k

/-- What becomes of some entries behind some others. -/
def fates (before : List Json.Value) : List Json.Value → List (Except Skipped Key)
  | [] => []
  | v :: vs => fate before v :: fates (before ++ [v]) vs

theorem accepted_append (vs ws : List Json.Value) :
    accepted (vs ++ ws) = accepted vs ++ accepted ws :=
  List.filterMap_append

theorem claimed_append (vs ws : List Json.Value) :
    claimed (vs ++ ws) = claimed vs ++ claimed ws := by
  rw [claimed, accepted_append, List.map_append, claimed, claimed]

theorem accepted_of_ok (h : judge v = .ok k) : accepted [v] = [k] := by
  simp [accepted, h, Except.toOption]

theorem accepted_of_error (h : judge v = .error s) : accepted [v] = [] := by
  simp [accepted, h, Except.toOption]

/-- An entry that is refused is passed over, whatever stands before it. -/
theorem fate_of_error (h : judge v = .error s) (before : List Json.Value) :
    fate before v = .error s := by
  rw [fate, h]

theorem length_fates (before vs : List Json.Value) : (fates before vs).length = vs.length := by
  induction vs generalizing before with
  | nil => rfl
  | cons v vs ih => rw [fates, List.length_cons, ih, List.length_cons]

theorem fates_append (before vs ws : List Json.Value) :
    fates before (vs ++ ws) = fates before vs ++ fates (before ++ vs) ws := by
  induction vs generalizing before with
  | nil => rw [List.nil_append, List.append_nil]; rfl
  | cons v vs ih =>
    rw [List.cons_append, fates, fates, ih, List.append_assoc, List.singleton_append,
      List.cons_append]

/-- Of the entries before, only the places count that they claim. -/
theorem fates_congr {before before' : List Json.Value}
    (h : ∀ place, place ∈ claimed before ↔ place ∈ claimed before') (vs : List Json.Value) :
    fates before vs = fates before' vs := by
  induction vs generalizing before before' with
  | nil => rfl
  | cons v vs ih =>
    have hnext : ∀ place, place ∈ claimed (before ++ [v]) ↔ place ∈ claimed (before' ++ [v]) :=
      fun place => by rw [claimed_append, claimed_append, List.mem_append, List.mem_append, h]
    have hfate : fate before v = fate before' v := by
      simp only [fate, h]
    rw [fates, fates, ih hnext, hfate]

/-- An entry that is passed over claims no place that was free. -/
theorem mem_claimed_of_fate (h : fate before v = .error s) (place : KeyType × String) :
    place ∈ claimed (before ++ [v]) ↔ place ∈ claimed before := by
  rw [claimed_append, List.mem_append, or_iff_left_iff_imp]
  intro hplace
  cases hv : judge v with
  | error s' =>
    rw [claimed, accepted_of_error hv] at hplace
    exact absurd hplace List.not_mem_nil
  | ok k =>
    rw [claimed, accepted_of_ok hv, List.map_singleton, List.mem_singleton] at hplace
    subst hplace
    rw [fate, hv] at h
    dsimp only at h
    split at h
    · next hmem => exact hmem
    · exact nomatch h

/-- **An entry that is passed over changes the fate of no other.** -/
theorem fates_insert (h : fate vs v = .error s) (ws : List Json.Value) :
    fates [] (vs ++ v :: ws) = fates [] vs ++ .error s :: fates vs ws := by
  rw [fates_append, List.nil_append, fates, h, fates_congr (mem_claimed_of_fate h)]

/-! ## 2. The report on fates -/

/-- The keys that are kept. -/
def kept (fs : List (Except Skipped Key)) : List Key := fs.filterMap Except.toOption

/-- The report that an entry gets, if it is passed over. -/
def passedOver? : Except Skipped Key → Option Skipped
  | .ok _ => none
  | .error s => some s

/-- The reports on what is passed over. -/
def reports (fs : List (Except Skipped Key)) : List Skipped := fs.filterMap passedOver?

section Kept

variable (fs gs : List (Except Skipped Key))

@[simp] theorem kept_nil : kept [] = [] := rfl

@[simp] theorem reports_nil : reports [] = [] := rfl

@[simp] theorem kept_append : kept (fs ++ gs) = kept fs ++ kept gs := List.filterMap_append

@[simp] theorem reports_append : reports (fs ++ gs) = reports fs ++ reports gs :=
  List.filterMap_append

@[simp] theorem kept_cons_ok (k : Key) : kept (.ok k :: fs) = k :: kept fs := rfl

@[simp] theorem kept_cons_error (s : Skipped) : kept (.error s :: fs) = kept fs := rfl

@[simp] theorem reports_cons_ok (k : Key) : reports (.ok k :: fs) = reports fs := rfl

@[simp] theorem reports_cons_error (s : Skipped) :
    reports (.error s :: fs) = s :: reports fs := rfl

/-- A fate is a key or a report. -/
theorem length_kept_add_length_reports : (kept fs).length + (reports fs).length = fs.length := by
  induction fs with
  | nil => rfl
  | cons f fs ih =>
    cases f with
    | ok k =>
      rw [kept_cons_ok, reports_cons_ok, List.length_cons, List.length_cons, ← ih]
      omega
    | error s =>
      rw [kept_cons_error, reports_cons_error, List.length_cons, List.length_cons, ← ih]
      omega

end Kept

/-- The line that is logged about an entry that is passed over.  Keys that come too late have their
own wording. -/
def Skipped.warning (s : Skipped) : LogLine :=
  if s.reason = .duplicate then
    .warn ("duplicate json web key dropped; kid=" ++ s.id.getD "<none>" ++ ", kty=" ++
      s.keyType.getD "<none>")
  else s.line

theorem Skipped.level_warning (s : Skipped) : s.warning.level = .warn := by
  rw [warning]
  split
  · rfl
  · rfl

/-- The report that fates make up. -/
def told (fs : List (Except Skipped Key)) : Report :=
  ⟨⟨kept fs⟩, reports fs, (reports fs).map Skipped.warning⟩

theorem told_concat_ok (fs : List (Except Skipped Key)) (k : Key) :
    told (fs ++ [.ok k]) = { told fs with keys := ⟨(told fs).keys.keys ++ [k]⟩ } := by
  simp [told]

theorem told_concat_error (fs : List (Except Skipped Key)) (s : Skipped) :
    told (fs ++ [.error s]) = { told fs with
      skipped := (told fs).skipped ++ [s]
      log := (told fs).log ++ [s.warning] } := by
  simp [told]

/-- No entry is refused for another one. -/
theorem reason_ne_duplicate (h : judge v = .error s) : s.reason ≠ .duplicate := by
  intro hdup
  cases judge_eq_error_iff.mp h with
  | malformed _ => exact nomatch hdup
  | entry _ hf =>
    obtain rfl : _ = Reason.duplicate := hdup
    exact nomatch hf

/-! ## 3. The report on entries -/

theorem report_concat (vs : List Json.Value) (v : Json.Value) :
    report (vs ++ [v]) = (report vs).add v := by
  rw [report, List.foldl_append]
  rfl

/-- The keys of a report are those of one entry more. -/
theorem Report.keys_add (r : Report) (v : Json.Value) :
    (r.add v).keys = (accepted [v]).foldl KeySet.insert r.keys := by
  rw [add]
  cases hv : judge v with
  | error s => rw [accepted_of_error hv]; rfl
  | ok k =>
    rw [accepted_of_ok hv, List.foldl_cons, List.foldl_nil, KeySet.insert]
    dsimp only
    cases r.keys.insert? k with
    | none => rfl
    | some keys => rfl

/-- **The keys of a report are the set of what its entries describe.** -/
theorem keys_report (vs : List Json.Value) : (report vs).keys = .ofList (accepted vs) := by
  induction vs using List.reverseRecOn with
  | nil => rfl
  | append_singleton vs v ih =>
    rw [report_concat, Report.keys_add, ih, KeySet.ofList, KeySet.ofList, accepted_append,
      List.foldl_append]

/-- The places of a report are those that its entries claim. -/
theorem mem_slots_report {place : KeyType × String} :
    place ∈ (report vs).keys.slots ↔ place ∈ claimed vs := by
  rw [← not_iff_not, keys_report, KeySet.slots, ← KeySet.firstAt_eq_none_iff,
    KeySet.firstAt_ofList, KeySet.firstAt_eq_none_iff, claimed]

/-- **The report on entries is made up of their fates.** -/
theorem report_eq_told (vs : List Json.Value) : report vs = told (fates [] vs) := by
  induction vs using List.reverseRecOn with
  | nil => rfl
  | append_singleton vs v ih =>
    rw [report_concat, fates_append, List.nil_append, fates, fates, Report.add]
    cases hv : judge v with
    | error s =>
      have hwarning : s.warning = s.line := if_neg (reason_ne_duplicate hv)
      rw [fate_of_error hv, told_concat_error, ← ih, hwarning]
    | ok k =>
      dsimp only
      by_cases hk : k.slot ∈ claimed vs
      · have hfate : fate vs v = .error ⟨some k.id, some k.keyType.name, .duplicate⟩ := by
          rw [fate, hv]
          exact if_pos hk
        rw [KeySet.insert?_of_mem (mem_slots_report.mpr hk), hfate, told_concat_error, ← ih]
        rfl
      · have hfate : fate vs v = .ok k := by
          rw [fate, hv]
          exact if_neg hk
        rw [KeySet.insert?_of_notMem (mt mem_slots_report.mp hk), hfate, told_concat_ok, ← ih]

/-- **A report accounts for some entries.** -/
structure Accounts (vs : List Json.Value) (r : Report) : Prop where
  /-- There is a key or a report for each. -/
  count : r.keys.size + r.skipped.length = vs.length
  /-- The keys are the set of those that entries describe. -/
  keys : r.keys = .ofList (accepted vs)
  /-- They are in the order of the entries. -/
  order : r.keys.keys.Sublist (accepted vs)
  /-- No two of them have one place. -/
  distinct : r.keys.slots.Nodup
  /-- The first one at a place is kept. -/
  first : ∀ place, KeySet.firstAt place r.keys.keys = KeySet.firstAt place (accepted vs)
  /-- They are what is kept of the entries, and the reports are those on the others, both in the
  order of the entries. -/
  kept : r.keys.keys = kept (fates [] vs)
  skipped : r.skipped = reports (fates [] vs)
  /-- One line is logged for each report, in the same order. -/
  log : r.log = r.skipped.map Skipped.warning
  /-- It is a warning. -/
  level : ∀ line ∈ r.log, line.level = .warn

theorem accounts_report (vs : List Json.Value) : Accounts vs (report vs) where
  count := by
    rw [report_eq_told, ← length_fates [] vs, ← length_kept_add_length_reports]
    rfl
  keys := keys_report vs
  order := by
    rw [keys_report]
    exact KeySet.sublist_ofList _
  distinct := by
    rw [keys_report]
    exact KeySet.nodup_ofList _
  first place := by rw [keys_report, KeySet.firstAt_ofList]
  kept := by rw [report_eq_told]; rfl
  skipped := by rw [report_eq_told]; rfl
  log := by rw [report_eq_told]; rfl
  level line hline := by
    rw [report_eq_told] at hline
    obtain ⟨s, -, rfl⟩ := List.mem_map.mp hline
    exact s.level_warning

/-- **An entry that is passed over leaves the keys as they are**, and its report comes behind those
on the entries before it. -/
theorem report_insert (h : fate vs v = .error s) (ws : List Json.Value) :
    (report (vs ++ v :: ws)).keys = (report (vs ++ ws)).keys ∧
      ∃ later, (report (vs ++ ws)).skipped = (report vs).skipped ++ later ∧
        (report (vs ++ v :: ws)).skipped = (report vs).skipped ++ s :: later := by
  have hkept : kept (fates [] (vs ++ v :: ws)) = kept (fates [] (vs ++ ws)) := by
    rw [fates_insert h, fates_append, kept_append, kept_append, kept_cons_error, List.nil_append]
  refine ⟨?_, reports (fates vs ws), ?_, ?_⟩
  · rw [report_eq_told, report_eq_told]
    exact congrArg KeySet.mk hkept
  · rw [report_eq_told, report_eq_told, fates_append, List.nil_append]
    exact reports_append _ _
  · rw [report_eq_told, report_eq_told, fates_insert h]
    exact reports_append _ _

/-! ## 4. Documents -/

/-- A document of some entries is accounted for, whatever else stands in it. -/
theorem parse_of_run_entries {document : List UInt8}
    (h : Json.Reader.run entries document = .ok vs) : parse document = .ok (report vs) := by
  rw [parse, h]
  rfl

/-- Blanks between two parts of a document. -/
abbrev Blanks := {bs : List UInt8 // Blank bs}

/-- The blanks of a document, apart from those around its entries. -/
structure Layout where
  front : Blanks
  inside : Blanks
  behindName : Blanks
  beforeList : Blanks
  close : Blanks
  behindList : Blanks
  back : Blanks

namespace Layout

/-- The name of the list, from its opening quote to the closing one. -/
def name : List UInt8 := ['"', 'k', 'e', 'y', 's', '"'].map octet

/-- The document that lists some texts, with commas between them. -/
def document (l : Layout) (texts : List (List UInt8)) : List UInt8 :=
  l.front ++ octet '{' :: (l.inside ++ (name ++ (l.behindName ++ octet ':' :: (l.beforeList ++
    octet '[' :: listed texts (l.close ++ octet ']' :: (l.behindList ++ octet '}' :: l.back))))))

variable (l : Layout) {texts texts' : List (List UInt8)} {text : List UInt8}

/-- **The entries of a document are what its texts say.** -/
theorem run_document (h : List.Forall₂ (Says entryDepth) texts vs) :
    Json.Reader.run entries (l.document texts) = .ok vs := by
  have hname : StateT.run Json.Reader.memberName
      (octet '"' :: ['k', 'e', 'y', 's', '"'].map octet) = .ok ("keys", []) := by cbv
  have hlist : StateT.run (Json.Reader.once "keys" (none : Option (List Json.Value))
      (Json.Reader.listOnly entryDepth))
      (l.behindName ++ octet ':' :: (l.beforeList ++ octet '[' ::
        listed texts (l.close ++ octet ']' :: (l.behindList ++ octet '}' :: l.back)))) =
        .ok (vs, l.behindList ++ octet '}' :: l.back) := by
    rw [Json.Reader.once, Option.isSome_none, if_neg Bool.false_ne_true, Json.Reader.run_bind_ok
      (Json.Reader.run_colon l.behindName.property _)]
    exact Json.Reader.run_listOnly h l.beforeList.property l.close.property _
  rw [Json.Reader.run_eq_ok_iff]
  refine ⟨l.back, l.back.property, Json.Reader.run_fields_one l.front.property l.inside.property
    l.behindList.property hname ?_ (show Except.ok ((some vs).getD []) = .ok vs from rfl)⟩
  rw [if_pos rfl, Json.Reader.run_bind_ok hlist]
  rfl

theorem parse_document (h : List.Forall₂ (Says entryDepth) texts vs) :
    parse (l.document texts) = .ok (report vs) :=
  parse_of_run_entries (l.run_document h)

end Layout

/-- **No entry is lost.**  Any values that are not nested too deep can be listed in a document.  A
document that lists values is read, and its report accounts for all of them: there is a key or a
report for each, both in the order of the document, and the first acceptable entry at a place wins.
An entry that is not acceptable may stand anywhere: without it the keys are the same, and of the
reports only its own is missing.  What else stands in a document does not matter for the report on
its entries. -/
theorem no_entry_is_lost :
    (∀ vs : List Json.Value, (∀ v ∈ vs, v.Proper entryDepth) →
      ∃ texts, List.Forall₂ (Says entryDepth) texts vs) ∧
    (∀ (l : Layout) texts vs, List.Forall₂ (Says entryDepth) texts vs →
      ∃ r, parse (l.document texts) = .ok r ∧ Accounts vs r) ∧
    (∀ (l : Layout) texts vs text v texts' vs' s, List.Forall₂ (Says entryDepth) texts vs →
      Says entryDepth text v → List.Forall₂ (Says entryDepth) texts' vs' → judge v = .error s →
      ∃ r₀ r r', parse (l.document texts) = .ok r₀ ∧
        parse (l.document (texts ++ texts')) = .ok r ∧
        parse (l.document (texts ++ text :: texts')) = .ok r' ∧ r'.keys = r.keys ∧
        ∃ later, r.skipped = r₀.skipped ++ later ∧ r'.skipped = r₀.skipped ++ s :: later) ∧
    ∀ document vs, Json.Reader.run entries document = .ok vs →
      ∃ r, parse document = .ok r ∧ Accounts vs r := by
  refine ⟨fun vs hproper => Json.exists_forall₂ fun v hv => (hproper v hv).exists_text,
    fun l texts vs h => ⟨_, l.parse_document h, accounts_report vs⟩, ?_,
    fun document vs h => ⟨_, parse_of_run_entries h, accounts_report vs⟩⟩
  intro l texts vs text v texts' vs' s htexts htext htexts' hs
  exact ⟨_, _, _, l.parse_document htexts, l.parse_document (List.rel_append htexts htexts'),
    l.parse_document (List.rel_append htexts (.cons htext htexts')),
    report_insert (fate_of_error hs vs) vs'⟩

/-- A number stands between two entries of one key.  Another document has a member that is not
asked for. -/
theorem no_entry_is_lost_three :
    let l : Layout :=
      let none : Blanks := ⟨[], Json.Reader.blank_nil⟩
      let space : Blanks := ⟨[octet ' '], fun _ hb => List.mem_singleton.mp hb ▸ rfl⟩
      ⟨none, none, none, space, none, none, none⟩
    let rsa := Text.Utf8.bytes
      "\x7b\x22kty\x22:\x22RSA\x22,\x22n\x22:\x22AQAB\x22,\x22e\x22:\x22Aw\x22\x7d"
    let seven := Text.Utf8.bytes " 7"
    let v : Json.Value :=
      .object [("e", .string "Aw"), ("kty", .string "RSA"), ("n", .string "AQAB")]
    let w : Json.Value := .number (.int 7)
    let other := Text.Utf8.bytes "\x7b\x22x\x22:[],\x22keys\x22:[7]\x7d"
    (∀ u ∈ [v, w], u.Proper entryDepth) ∧
      (∃ texts, List.Forall₂ (Says entryDepth) texts [v, w]) ∧
      Says entryDepth rsa v ∧ Says entryDepth seven w ∧
      judge w = .error ⟨none, none, .malformed⟩ ∧
      (∃ r, parse (l.document [rsa, seven, rsa]) = .ok r ∧ Accounts [v, w, v] r) ∧
      (∃ r₀ r r', parse (l.document [rsa]) = .ok r₀ ∧ parse (l.document [rsa, rsa]) = .ok r ∧
        parse (l.document [rsa, seven, rsa]) = .ok r' ∧ r'.keys = r.keys ∧
        ∃ later, r.skipped = r₀.skipped ++ later ∧
          r'.skipped = r₀.skipped ++ ⟨none, none, .malformed⟩ :: later) ∧
      ∃ r, parse other = .ok r ∧ Accounts [w] r := by
  have hrsa : Says entryDepth (Text.Utf8.bytes
      "\x7b\x22kty\x22:\x22RSA\x22,\x22n\x22:\x22AQAB\x22,\x22e\x22:\x22Aw\x22\x7d")
      (.object [("e", .string "Aw"), ("kty", .string "RSA"), ("n", .string "AQAB")]) := by
    unfold Says
    cbv
  have hseven : Says entryDepth (Text.Utf8.bytes " 7") (.number (.int 7)) := by
    unfold Says
    cbv
  have hother : Json.Reader.run entries
      (Text.Utf8.bytes "\x7b\x22x\x22:[],\x22keys\x22:[7]\x7d") = .ok [.number (.int 7)] := by cbv
  intro l rsa seven v w other
  have hone : List.Forall₂ (Says entryDepth) [rsa] [v] := .cons hrsa .nil
  have hv : v.Proper entryDepth := by
    refine .object (by decide) fun m hm => ?_
    simp only [List.mem_cons, List.not_mem_nil, or_false] at hm
    rcases hm with rfl | rfl | rfl <;> exact .string _
  have hw : w.Proper entryDepth := .number (Json.Reader.spelled_int (by decide) (by decide))
  have hproper : ∀ u ∈ [v, w], u.Proper entryDepth :=
    List.forall_mem_cons.mpr ⟨hv, List.forall_mem_singleton.mpr hw⟩
  exact ⟨hproper, no_entry_is_lost.1 _ hproper, hrsa, hseven, rfl,
    no_entry_is_lost.2.1 l _ _ (.cons hrsa (.cons hseven hone)),
    no_entry_is_lost.2.2.1 l _ _ _ _ _ _ _ hone hseven hone rfl,
    no_entry_is_lost.2.2.2 _ _ hother⟩

end KeyDocument
end TokenTrust
