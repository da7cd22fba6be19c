/-
# Readers and what follows

A reader that has read a value of a text reads the same value of a longer text, and leaves the
rest of it as it is (`Json.Reader.prolongs_value`).  Nothing that follows disturbs it, except
where a number ends: there the text must not go on as the number could (`Json.Reader.Stops`).

So texts that say values can be put together: with commas between them and brackets around them
they are read as the list of these values (`Json.Reader.run_items`).
-/
import Mathlib
import TokenTrust.Error
import TokenTrust.Json.Document

namespace TokenTrust
namespace Json
namespace Reader

variable {α β σ : Type} {after input rest : List UInt8}

/-! ## 1. Readers that agree -/

/-- **One reader does on a longer input what another does on the input**: it reads the same, and
leaves what the other leaves and what follows. -/
def Prolongs (after : List UInt8) (r r' : Reader α) (input : List UInt8) : Prop :=
  ∀ a rest, StateT.run r input = .ok (a, rest) →
    StateT.run r' (input ++ after) = .ok (a, rest ++ after)

/-- A reader is not disturbed by what follows the input. -/
abbrev Undisturbed (after : List UInt8) (r : Reader α) (input : List UInt8) : Prop :=
  Prolongs after r r input

theorem run_next (input : List UInt8) :
    StateT.run next input = .ok ((input.dropWhile isSpace).head?, input.dropWhile isSpace) := rfl

theorem run_get (input : List UInt8) : StateT.run (get : Reader _) input = .ok (input, input) := rfl

theorem run_peek (input : List UInt8) : StateT.run peek input = .ok (input.head?, input) := rfl

theorem run_digits (input : List UInt8) :
    StateT.run digits input = .ok (input.takeWhile isDigit, input.dropWhile isDigit) := rfl

theorem run_bind_ok {x : Reader α} {f : α → Reader β} {a : α}
    (h : StateT.run x input = .ok (a, rest)) :
    StateT.run (x >>= f) input = StateT.run (f a) rest := by
  rw [StateT.run_bind, h]
  rfl

theorem run_bind_eq_ok_iff {x : Reader α} {f : α → Reader β} {b : β} :
    StateT.run (x >>= f) input = .ok (b, rest) ↔
      ∃ a mid, StateT.run x input = .ok (a, mid) ∧ StateT.run (f a) mid = .ok (b, rest) := by
  rw [StateT.run_bind, bind_eq_ok_iff, Prod.exists]

namespace Prolongs

variable {r r' x x' : Reader α} {f f' : α → Reader β}

theorem bind (hx : Prolongs after x x' input)
    (hf : ∀ a rest, StateT.run x input = .ok (a, rest) → Prolongs after (f a) (f' a) rest) :
    Prolongs after (x >>= f) (x' >>= f') input := by
  intro b rest h
  obtain ⟨a, mid, ha, hb⟩ := run_bind_eq_ok_iff.mp h
  rw [run_bind_ok (hx a mid ha)]
  exact hf a mid ha b rest hb

theorem of_pure (a : α) : Undisturbed after (pure a) input := by
  rintro _ _ ⟨⟩
  rfl

/-- A reader that fails is prolonged by any. -/
theorem of_throw (e : Fault) : Prolongs after (throw e) r' input :=
  fun _ _ h => nomatch h

/-- A value or a fault, whatever the input is. -/
theorem of_lift (e : Except Fault α) : Undisturbed after (liftM e : Reader α) input := by
  intro a rest h
  cases e with
  | error f => exact nomatch h
  | ok v => cases h; rfl

theorem of_ite {p : Prop} [Decidable p] {y y' : Reader α} (h : p → Prolongs after x x' input)
    (hnot : ¬ p → Prolongs after y y' input) :
    Prolongs after (if p then x else y) (if p then x' else y') input := by
  split
  · next hp => exact h hp
  · next hp => exact hnot hp

/-- Behind a condition that ends in a fault, only the other case matters. -/
theorem of_guard {p : Prop} [Decidable p] {e : Fault} {g g' : β → Reader α}
    (h : ¬ p → Prolongs after x x' input) :
    Prolongs after (if p then throw e >>= g else x) (if p then throw e >>= g' else x') input :=
  of_ite (fun _ _ _ hrun => nomatch hrun) h

/-- The octet that stands next is the same in the longer input, if there is one. -/
theorem of_peek {f f' : Option UInt8 → Reader β}
    (hend : ∀ b rest, StateT.run (f none) [] ≠ .ok (b, rest))
    (hsome : ∀ b tail, input = b :: tail → Prolongs after (f (some b)) (f' (some b)) (b :: tail)) :
    Prolongs after (peek >>= f) (peek >>= f') input := by
  intro a rest h
  cases input with
  | nil => exact absurd h (hend a rest)
  | cons b tail => exact hsome b tail rfl a rest h

/-- Where the end of the input is no fault, it has to be decided as what follows is. -/
theorem of_peek_or_end {f f' : Option UInt8 → Reader β} (hend : f' after.head? = f' none)
    (h : Prolongs after (f input.head?) (f' input.head?) input) :
    Prolongs after (peek >>= f) (peek >>= f') input := by
  intro a rest hrun
  have hthis := h a rest hrun
  cases input with
  | nil =>
    rw [run_bind_ok (run_peek _), List.nil_append, hend]
    exact hthis
  | cons b tail => exact hthis

theorem of_next {f f' : Option UInt8 → Reader β}
    (hend : ∀ b rest, StateT.run (f none) [] ≠ .ok (b, rest))
    (hsome : ∀ b tail, Prolongs after (f (some b)) (f' (some b)) (b :: tail)) :
    Prolongs after (next >>= f) (next >>= f') input := by
  intro a rest h
  rw [run_bind_ok (run_next _)] at h ⊢
  rw [List.dropWhile_append]
  cases hd : input.dropWhile isSpace with
  | nil =>
    rw [hd] at h
    exact absurd h (hend a rest)
  | cons b tail =>
    rw [hd] at h
    exact hsome b tail a rest h

theorem of_skip {f f' : Unit → Reader β} {b : UInt8} (h : Prolongs after (f ()) (f' ()) input) :
    Prolongs after (skip >>= f) (skip >>= f') (b :: input) := h

theorem of_get {f f' : List UInt8 → Reader β}
    (h : Prolongs after (f input) (f' (input ++ after)) input) :
    Prolongs after (get >>= f) (get >>= f') input := h

theorem of_set {f f' : PUnit → Reader β} {mid : List UInt8}
    (h : Prolongs after (f ⟨⟩) (f' ⟨⟩) mid) :
    Prolongs after (set mid >>= f) (set (mid ++ after) >>= f') input := h

end Prolongs

/-- Where some octets stop within the input, they stop there in the longer one. -/
theorem while_append {p : UInt8 → Bool} {b : UInt8} {tail : List UInt8}
    (h : input.dropWhile p = b :: tail) (after : List UInt8) :
    (input ++ after).takeWhile p = input.takeWhile p ∧
      (input ++ after).dropWhile p = b :: tail ++ after := by
  have hlength : (input.takeWhile p).length ≠ input.length := fun hl => by
    have hsplit := congrArg List.length (List.takeWhile_append_dropWhile (p := p) (l := input))
    rw [List.length_append, h, List.length_cons] at hsplit
    omega
  rw [List.takeWhile_append, if_neg hlength, List.dropWhile_append, h]
  exact ⟨rfl, rfl⟩

/-! ## 2. Words and strings -/

open Prolongs

theorem undisturbed_word (cs : List Char) : Undisturbed after (word cs) input := by
  induction cs generalizing input with
  | nil => exact of_pure ()
  | cons c cs ih =>
    exact of_peek (fun _ _ => nofun) fun b tail _ => of_ite (fun _ => of_skip ih) fun _ =>
      of_throw _

theorem undisturbed_hex4 : Undisturbed after hex4 input := by
  unfold hex4
  refine of_get ?_
  match input with
  | a :: b :: c :: d :: tail =>
    refine of_set ?_
    dsimp only
    split
    · exact of_pure _
    · exact of_throw _
  | [] => exact of_throw _
  | [_] => exact of_throw _
  | [_, _] => exact of_throw _
  | [_, _, _] => exact of_throw _

theorem undisturbed_pairOctet (c : Char) : Undisturbed after (pairOctet c) input :=
  of_peek (fun _ _ => nofun) fun _ _ _ => of_ite (fun _ => of_skip (of_pure ())) fun _ => of_throw _

theorem undisturbed_unicodeEscape : Undisturbed after unicodeEscape input := by
  unfold unicodeEscape
  refine bind undisturbed_hex4 fun unit _ _ => of_guard fun _ => ?_
  refine of_ite (fun _ => of_pure _) fun _ => ?_
  refine bind (undisturbed_pairOctet _) fun _ _ _ => bind (undisturbed_pairOctet _) fun _ _ _ => ?_
  exact bind undisturbed_hex4 fun second _ _ => of_guard fun _ => of_pure _

theorem undisturbed_escape : Undisturbed after escape input := by
  unfold escape
  refine of_peek (fun _ _ => nofun) fun b tail _ => of_skip ?_
  cases shortEscape? b with
  | some c => exact of_pure _
  | none =>
    exact of_ite (fun _ => bind undisturbed_unicodeEscape fun _ _ _ => of_pure _) fun _ =>
      of_throw _

/-- The bound on the escapes of a string does not matter once it suffices. -/
theorem prolongs_stringOctets {m n : Nat} (hmn : m ≤ n) :
    Prolongs after (stringOctets m) (stringOctets n) input := by
  induction m generalizing n input with
  | zero => exact of_throw _
  | succ m ih =>
    obtain ⟨n, rfl⟩ : ∃ n', n = n' + 1 := ⟨n - 1, by omega⟩
    unfold stringOctets
    refine of_get ?_
    cases hd : input.dropWhile isPlain with
    | nil =>
      intro octets rest h
      exact nomatch h
    | cons b tail =>
      obtain ⟨htake, hdrop⟩ := while_append hd after
      rw [htake, hdrop]
      refine of_set (of_peek (fun _ _ => nofun) fun c _ hc => ?_)
      obtain ⟨rfl, rfl⟩ := List.cons.inj hc
      refine of_skip (of_ite (fun _ => of_pure _) fun _ => of_ite (fun _ => ?_) fun _ => of_throw _)
      exact bind undisturbed_escape fun _ _ _ => bind (ih (by omega)) fun _ _ _ => of_pure _

theorem undisturbed_string : Undisturbed after string input := by
  unfold string
  refine of_get (bind (prolongs_stringOctets ?_) fun octets _ _ => ?_)
  · rw [List.length_append]
    omega
  · cases Text.Utf8.text? octets with
    | some s => exact of_pure s
    | none => exact of_throw _

/-! ## 3. Numbers -/

/-- What follows does not go on a number. -/
def Stops (after : List UInt8) : Prop :=
  ∀ b ∈ after.head?, isDigit b = false ∧ b ≠ octet '.' ∧ b ≠ octet 'e' ∧ b ≠ octet 'E'

section Numbers

variable (hstops : Stops after) (negative : Bool) (significand : Nat) (power : Int)
include hstops

theorem undisturbed_digits : Undisturbed after digits input := by
  intro ds rest h
  rw [run_digits] at h ⊢
  cases h
  cases hd : input.dropWhile isDigit with
  | cons b tail =>
    obtain ⟨htake, hdrop⟩ := while_append hd after
    rw [htake, hdrop]
  | nil =>
    have hall : input.takeWhile isDigit = input := by
      have hsplit := List.takeWhile_append_dropWhile (p := isDigit) (l := input)
      rwa [hd, List.append_nil] at hsplit
    have hafter : after.takeWhile isDigit = [] ∧ after.dropWhile isDigit = after := by
      cases after with
      | nil => exact ⟨rfl, rfl⟩
      | cons b tail =>
        have hb := (hstops b rfl).1
        exact ⟨List.takeWhile_cons_of_neg (by simp [hb]), List.dropWhile_cons_of_neg (by simp [hb])⟩
    rw [List.takeWhile_append, hall, if_pos rfl, hafter.1, List.dropWhile_append, hd, hafter.2]
    simp

/-- Digits that have to be there. -/
theorem undisturbed_someDigits {g : List UInt8 → Reader α}
    (hg : ∀ ds rest, Undisturbed after (g ds) rest) :
    Undisturbed after (do
      match ← peek with
      | none => throw .endInValue
      | some b => if !isDigit b then throw .invalidNumber
      let ds ← digits
      g ds) input :=
  of_peek (fun _ _ => nofun) fun _ _ _ => of_guard fun _ =>
    bind (undisturbed_digits hstops) fun ds _ _ => hg ds _

theorem undisturbed_exponent {b : UInt8} :
    Undisturbed after (exponent negative significand power) (b :: input) := by
  unfold exponent
  refine of_skip (of_peek (fun _ _ => nofun) fun sign _ _ => ?_)
  exact of_ite (fun _ => of_skip (undisturbed_someDigits hstops fun ds _ =>
      of_ite (fun _ => of_guard fun _ => of_pure _) fun _ => of_lift _))
    fun _ => undisturbed_someDigits hstops fun ds _ =>
      of_ite (fun _ => of_guard fun _ => of_pure _) fun _ => of_lift _

theorem undisturbed_orExponent (otherwise : Except Fault Number) :
    Undisturbed after (orExponent negative significand power otherwise) input := by
  unfold orExponent
  refine of_peek_or_end ?_ ?_
  · cases after with
    | nil => rfl
    | cons b tail =>
      obtain ⟨-, -, he, hE⟩ := hstops b rfl
      simp [he, hE]
  · cases input with
    | nil => exact of_lift _
    | cons b tail =>
      exact of_ite (fun _ => undisturbed_exponent hstops negative significand power) fun _ =>
        of_lift _

theorem undisturbed_fraction {b : UInt8} :
    Undisturbed after (fraction negative significand power) (b :: input) := by
  unfold fraction
  refine of_skip (bind (undisturbed_digits hstops) fun ds rest _ =>
    of_ite (fun _ => ?_) fun _ => ?_)
  · intro _ _ h
    cases rest with
    | nil => exact nomatch h
    | cons c tail => exact nomatch h
  · exact undisturbed_orExponent hstops _ _ _ _

theorem undisturbed_number : Undisturbed after (number negative) input := by
  unfold number
  refine undisturbed_someDigits hstops fun ds rest => of_guard fun _ => of_peek_or_end ?_ ?_
  · cases after with
    | nil => rfl
    | cons b tail => simp [(hstops b rfl).2.1]
  · cases rest with
    | nil => exact undisturbed_orExponent hstops _ _ _ _
    | cons b tail =>
      exact of_ite (fun _ => undisturbed_fraction hstops _ _ _) fun _ =>
        undisturbed_orExponent hstops _ _ _ _

end Numbers

/-! ## 4. Lists and objects -/

theorem undisturbed_moreItems (first : Bool) : Undisturbed after (moreItems first) input := by
  unfold moreItems
  refine of_next (fun _ _ => nofun) fun b tail => of_ite (fun _ => of_pure _) fun _ =>
    of_ite (fun _ => of_pure _) fun _ => of_ite (fun _ => of_skip ?_) fun _ => of_throw _
  exact of_next (fun _ _ => nofun) fun b tail => of_ite (fun _ => of_throw _) fun _ => of_pure _

theorem undisturbed_moreMembers (first : Bool) : Undisturbed after (moreMembers first) input := by
  unfold moreMembers
  refine of_next (fun _ _ => nofun) fun b tail => of_ite (fun _ => of_pure _) fun _ =>
    of_ite (fun _ => of_ite (fun _ => of_pure _) fun _ => of_throw _) fun _ =>
      of_ite (fun _ => of_skip ?_) fun _ => of_throw _
  exact of_next (fun _ _ => nofun) fun b tail => of_ite (fun _ => of_pure _) fun _ =>
    of_ite (fun _ => of_throw _) fun _ => of_throw _

theorem undisturbed_endList : Undisturbed after endList input := by
  unfold endList
  refine of_next (fun _ _ => nofun) fun b tail => of_ite (fun _ => of_skip (of_pure ())) fun _ =>
    of_ite (fun _ => ?_) fun _ => of_throw _
  -- a comma before the end is a fault, whatever follows it
  intro _ _ h
  obtain ⟨_, _, -, h⟩ := run_bind_eq_ok_iff.mp h
  obtain ⟨_, _, -, h⟩ := run_bind_eq_ok_iff.mp h
  split at h
  · exact nomatch h
  · exact nomatch h

theorem undisturbed_endObject : Undisturbed after endObject input := by
  unfold endObject
  exact of_next (fun _ _ => nofun) fun b tail => of_ite (fun _ => of_skip (of_pure ())) fun _ =>
    of_ite (fun _ => of_throw _) fun _ => of_throw _

theorem undisturbed_colon : Undisturbed after colon input := by
  unfold colon
  exact of_next (fun _ _ => nofun) fun b tail => of_ite (fun _ => of_skip (of_pure ())) fun _ =>
    of_throw _

theorem undisturbed_memberName : Undisturbed after memberName input := by
  unfold memberName
  cases input with
  | nil => exact fun _ _ h => nomatch h
  | cons b tail => exact of_skip undisturbed_string

/-- The bound on the items of a list does not matter once it suffices. -/
theorem prolongs_foldItems {step step' : σ → Reader σ} {m n : Nat} (hmn : m ≤ n)
    (hstep : ∀ s rest, Prolongs after (step s) (step' s) rest) (first : Bool) (s : σ) :
    Prolongs after (foldItems step m first s) (foldItems step' n first s) input := by
  induction m generalizing n first s input with
  | zero => exact of_throw _
  | succ m ih =>
    obtain ⟨n, rfl⟩ : ∃ n', n = n' + 1 := ⟨n - 1, by omega⟩
    unfold foldItems
    refine bind (undisturbed_moreItems first) fun _ _ _ => of_ite (fun _ => ?_) fun _ => of_pure s
    exact bind (hstep s _) fun s' _ _ => ih (by omega) false s'

theorem prolongs_foldMembers {step step' : σ → String → Reader σ} {m n : Nat} (hmn : m ≤ n)
    (hstep : ∀ s name rest, Prolongs after (step s name) (step' s name) rest) (first : Bool)
    (s : σ) : Prolongs after (foldMembers step m first s) (foldMembers step' n first s) input := by
  induction m generalizing n first s input with
  | zero => exact of_throw _
  | succ m ih =>
    obtain ⟨n, rfl⟩ : ∃ n', n = n' + 1 := ⟨n - 1, by omega⟩
    unfold foldMembers
    refine bind (undisturbed_moreMembers first) fun _ _ _ => of_ite (fun _ => ?_) fun _ => of_pure s
    exact bind undisturbed_memberName fun name _ _ => bind (hstep s name _) fun s' _ _ =>
      ih (by omega) false s'

theorem prolongs_items {item item' : Reader α} (hitem : ∀ rest, Prolongs after item item' rest) :
    Prolongs after (items item) (items item') input := by
  unfold items
  refine of_get (bind (prolongs_foldItems ?_ (fun _ _ => ?_) _ _) fun _ _ _ => ?_)
  · rw [List.length_append]
    omega
  · exact bind (hitem _) fun _ _ _ => of_pure _
  · exact bind undisturbed_endList fun _ _ _ => of_pure _

theorem prolongs_members {value value' : Reader Value}
    (hvalue : ∀ rest, Prolongs after value value' rest) :
    Prolongs after (members value) (members value') input := by
  unfold members
  refine of_get (bind (prolongs_foldMembers ?_ (fun _ _ _ => ?_) _ _) fun _ _ _ => ?_)
  · rw [List.length_append]
    omega
  · exact bind undisturbed_colon fun _ _ _ => bind (hvalue _) fun _ _ _ => of_pure _
  · exact bind undisturbed_endObject fun _ _ _ => of_pure _

/-! ## 5. Values -/

theorem prolongs_valueBy (hstops : Stops after) {list list' object object' : Reader Value}
    (hlist : ∀ b rest, Prolongs after list list' (b :: rest))
    (hobject : ∀ b rest, Prolongs after object object' (b :: rest)) :
    Prolongs after (valueBy list object) (valueBy list' object') input := by
  unfold valueBy
  refine of_next (fun _ _ => nofun) fun b tail => ?_
  have hword : ∀ cs (v : Value), Undisturbed after (do skip; word cs; return v) (b :: tail) :=
    fun cs v => of_skip (bind (undisturbed_word cs) fun _ _ _ => of_pure v)
  refine of_ite (fun _ => hword _ _) fun _ => of_ite (fun _ => hword _ _) fun _ =>
    of_ite (fun _ => hword _ _) fun _ => of_ite (fun _ => ?_) fun _ => of_ite (fun _ => ?_) fun _ =>
    of_ite (fun _ => ?_) fun _ => of_ite (fun _ => hlist b tail) fun _ =>
    of_ite (fun _ => hobject b tail) fun _ => of_throw _
  · exact of_skip (bind (undisturbed_number hstops true) fun _ _ _ => of_pure _)
  · exact bind (undisturbed_number hstops false) fun _ _ _ => of_pure _
  · exact of_skip (bind undisturbed_string fun _ _ _ => of_pure _)

/-- **What follows a value does not disturb reading it**, and neither does a greater depth that
would be allowed. -/
theorem prolongs_value (hstops : Stops after) {depth depth' : Nat} (hdepth : depth ≤ depth') :
    Prolongs after (value depth) (value depth') input := by
  induction depth generalizing depth' input with
  | zero =>
    cases depth' with
    | zero => exact prolongs_valueBy hstops (fun _ _ => of_throw _) fun _ _ => of_throw _
    | succ depth' => exact prolongs_valueBy hstops (fun _ _ => of_throw _) fun _ _ => of_throw _
  | succ depth ih =>
    obtain ⟨depth', rfl⟩ : ∃ n, depth' = n + 1 := ⟨depth' - 1, by omega⟩
    refine prolongs_valueBy hstops (fun b rest => of_skip ?_) fun b rest => of_skip ?_
    · exact bind (prolongs_items fun _ => ih (by omega)) fun _ _ _ => of_pure _
    · exact bind (prolongs_members fun _ => ih (by omega)) fun _ _ _ => of_pure _

/-! ## 6. Texts in a list -/

/-- Octets that stand between the parts of a document. -/
def Blank (bs : List UInt8) : Prop := ∀ b ∈ bs, isSpace b = true

theorem blank_nil : Blank [] := fun _ hb => absurd hb List.not_mem_nil

theorem dropWhile_blank {bs : List UInt8} (h : Blank bs) (input : List UInt8) :
    (bs ++ input).dropWhile isSpace = input.dropWhile isSpace :=
  List.dropWhile_append_of_pos h

theorem run_eq_ok_iff {r : Reader α} {document : List UInt8} {a : α} :
    r.run document = .ok a ↔ ∃ blank, Blank blank ∧ StateT.run r document = .ok (a, blank) := by
  rw [run, bind_eq_ok_iff, Prod.exists]
  constructor
  · rintro ⟨value, blank, hrun, hend⟩
    dsimp only at hend
    split at hend
    · next hempty =>
      obtain rfl := Except.ok.inj hend
      exact ⟨blank, List.dropWhile_eq_nil_iff.mp (List.isEmpty_iff.mp hempty), hrun⟩
    · exact nomatch hend
  · rintro ⟨blank, hblank, hrun⟩
    refine ⟨a, blank, hrun, ?_⟩
    have hempty : (blank.dropWhile isSpace).isEmpty = true :=
      List.isEmpty_iff.mpr (List.dropWhile_eq_nil_iff.mpr hblank)
    dsimp only
    rw [if_pos hempty]
    rfl

/-- Blanks in front of a value are skipped. -/
theorem run_value_dropWhile (depth : Nat) (input : List UInt8) :
    StateT.run (value depth) (input.dropWhile isSpace) = StateT.run (value depth) input := by
  have hnext : StateT.run next (input.dropWhile isSpace) = StateT.run next input := by
    rw [run_next, run_next, List.dropWhile_idempotent]
  cases depth with
  | zero => rw [value, valueBy, StateT.run_bind, hnext, StateT.run_bind]
  | succ depth => rw [value, valueBy, StateT.run_bind, hnext, StateT.run_bind]

end Reader

/-- **A text says a value** in which at most some lists and objects are inside one another. -/
def Says (depth : Nat) (text : List UInt8) (v : Value) : Prop :=
  (Reader.value depth).run text = .ok v

/-- To allow more depth does not change what a text says. -/
theorem Says.mono {depth depth' : Nat} {text : List UInt8} {v : Value} (h : Says depth text v)
    (hdepth : depth ≤ depth') : Says depth' text v := by
  obtain ⟨blank, hblank, hrun⟩ := Reader.run_eq_ok_iff.mp h
  have hend : Reader.Stops [] := fun _ hb => nomatch hb
  have hdeeper := Reader.prolongs_value hend hdepth v blank hrun
  rw [List.append_nil, List.append_nil] at hdeeper
  exact Reader.run_eq_ok_iff.mpr ⟨blank, hblank, hdeeper⟩

namespace Reader

variable {depth : Nat} {text : List UInt8} {v : Value}

/-- Something stands next that is not the end of a list. -/
def GoesOn (input : List UInt8) : Prop :=
  ∃ b tail, input.dropWhile isSpace = b :: tail ∧ b ≠ octet ']'

theorem GoesOn.append (h : GoesOn input) (after : List UInt8) : GoesOn (input ++ after) := by
  obtain ⟨b, tail, hd, hb⟩ := h
  exact ⟨b, tail ++ after, (while_append hd after).2, hb⟩

theorem goesOn_of_said (h : Says depth text v) : GoesOn text := by
  obtain ⟨blank, -, hrun⟩ := run_eq_ok_iff.mp h
  rw [← run_value_dropWhile] at hrun
  cases hd : text.dropWhile isSpace with
  | nil =>
    rw [hd] at hrun
    cases depth with
    | zero => exact nomatch hrun
    | succ depth => exact nomatch hrun
  | cons b tail =>
    refine ⟨b, tail, hd, ?_⟩
    rintro rfl
    rw [hd] at hrun
    cases depth with
    | zero => exact nomatch hrun
    | succ depth => exact nomatch hrun

/-- The first item of a list needs no comma. -/
theorem run_moreItems_first (h : GoesOn input) :
    StateT.run (moreItems true) input = .ok (true, input.dropWhile isSpace) := by
  obtain ⟨b, tail, hd, hb⟩ := h
  rw [moreItems, run_bind_ok (run_next _), hd]
  dsimp only [List.head?_cons]
  rw [if_neg (by simpa using hb)]
  rfl

/-- Any other stands behind one. -/
theorem run_moreItems_comma {blank : List UInt8} (hblank : Blank blank) (h : GoesOn input) :
    StateT.run (moreItems false) (blank ++ octet ',' :: input) =
      .ok (true, input.dropWhile isSpace) := by
  obtain ⟨b, tail, hd, hb⟩ := h
  have hcomma : (octet ',' :: input).dropWhile isSpace = octet ',' :: input := rfl
  have hmore : StateT.run (moreItems false) (blank ++ octet ',' :: input) =
      StateT.run (do
        match ← next with
        | none => throw .endInValue
        | some b => if b == octet ']' then throw .trailingComma else return true) input := by
    rw [moreItems, run_bind_ok (run_next _), dropWhile_blank hblank, hcomma]
    rfl
  rw [hmore, run_bind_ok (run_next _), hd]
  dsimp only [List.head?_cons]
  rw [if_neg (by simpa using hb)]
  rfl

/-- Behind the last one stands the bracket that ends the list. -/
theorem run_moreItems_end {blank : List UInt8} (hblank : Blank blank) (first : Bool)
    (rest : List UInt8) :
    StateT.run (moreItems first) (blank ++ octet ']' :: rest) =
      .ok (false, octet ']' :: rest) := by
  rw [moreItems, run_bind_ok (run_next _), dropWhile_blank hblank]
  rfl

/-- What a list does with its items: the last one comes first. -/
def push (item : Reader α) (before : List α) : Reader (List α) := do return (← item) :: before

/-- A text that says a value is one more item, where a list goes on behind it. -/
theorem run_push (h : Says depth text v) (hstops : Stops after) (before : List Value) :
    ∃ blank, Blank blank ∧
      StateT.run (push (value depth) before) ((text ++ after).dropWhile isSpace) =
        .ok (v :: before, blank ++ after) := by
  obtain ⟨blank, hblank, hrun⟩ := run_eq_ok_iff.mp h
  refine ⟨blank, hblank, ?_⟩
  have hvalue := prolongs_value hstops (Nat.le_refl depth) _ _ hrun
  rw [← run_value_dropWhile] at hvalue
  rw [push, run_bind_ok hvalue]
  rfl

/-- Texts, each behind a comma, and what stands behind them. -/
def closing (texts : List (List UInt8)) (tail : List UInt8) : List UInt8 :=
  texts.flatMap (octet ',' :: ·) ++ tail

theorem closing_cons (texts : List (List UInt8)) (tail : List UInt8) :
    closing (text :: texts) tail = octet ',' :: (text ++ closing texts tail) := by
  simp [closing]

/-- No number goes on at a comma. -/
theorem stops_closing {tail : List UInt8} (htail : Stops tail) (texts : List (List UInt8)) :
    Stops (closing texts tail) := by
  cases texts with
  | nil => exact htail
  | cons text texts => rintro _ ⟨⟩; decide

/-- Nor does one at the end of a list or of an object. -/
theorem stops_close {close : List UInt8} (hclose : Blank close) {b : UInt8}
    (hb : b = octet ']' ∨ b = octet '}') (rest : List UInt8) : Stops (close ++ b :: rest) := by
  cases close with
  | nil =>
    rintro _ ⟨⟩
    rcases hb with rfl | rfl
    · decide
    · decide
  | cons c close =>
    rintro _ ⟨⟩
    have hc : isSpace c = true := hclose c List.mem_cons_self
    simp only [isSpace, Bool.or_eq_true, beq_iff_eq] at hc
    rcases hc with ((rfl | rfl) | rfl) | rfl <;> decide

/-- The rest of a list, behind an item of it. -/
theorem run_foldItems_closing {texts : List (List UInt8)} {vs : List Value}
    (h : List.Forall₂ (Says depth) texts vs) {blank close : List UInt8} (hblank : Blank blank)
    (hclose : Blank close) {bound : Nat} (hbound : texts.length < bound) (before : List Value)
    (rest : List UInt8) :
    StateT.run (foldItems (push (value depth)) bound false before)
        (blank ++ closing texts (close ++ octet ']' :: rest)) =
      .ok (vs.reverse ++ before, octet ']' :: rest) := by
  induction h generalizing blank bound before with
  | nil =>
    obtain ⟨bound, rfl⟩ : ∃ n, bound = n + 1 := ⟨bound - 1, by omega⟩
    have hend : Blank (blank ++ close) := fun b hb =>
      (List.mem_append.mp hb).elim (hblank b) (hclose b)
    rw [closing, List.flatMap_nil, List.nil_append, ← List.append_assoc, foldItems,
      run_bind_ok (run_moreItems_end hend false rest)]
    rfl
  | @cons text v texts vs hsays _ ih =>
    obtain ⟨bound, rfl⟩ : ∃ n, bound = n + 1 := ⟨bound - 1, by omega⟩
    have hstops := stops_closing (stops_close hclose (.inl rfl) rest) texts
    obtain ⟨blank', hblank', hpush⟩ := run_push hsays hstops before
    have hgoes := (goesOn_of_said hsays).append (closing texts (close ++ octet ']' :: rest))
    have hmore := run_moreItems_comma hblank hgoes
    rw [closing_cons, foldItems, run_bind_ok hmore, if_pos rfl, run_bind_ok hpush,
      ih hblank' (by simpa using hbound), List.reverse_cons, List.append_assoc]
    rfl

/-- Texts with commas between them, and what stands behind them. -/
def listed (texts : List (List UInt8)) (tail : List UInt8) : List UInt8 :=
  match texts with
  | [] => tail
  | text :: texts => text ++ closing texts tail

/-- A comma, or what stands behind them, makes room for each of the texts. -/
theorem length_lt_length_listed (texts : List (List UInt8)) {tail : List UInt8}
    (htail : tail ≠ []) : texts.length < (listed texts tail).length + 1 := by
  have hpos : 0 < tail.length := List.length_pos_iff.mpr htail
  have hclosing : ∀ ts : List (List UInt8), ts.length < (closing ts tail).length := by
    intro ts
    induction ts with
    | nil => simpa [closing] using hpos
    | cons t ts ih =>
      rw [closing_cons, List.length_cons, List.length_cons, List.length_append]
      omega
  cases texts with
  | nil => exact Nat.succ_pos _
  | cons text texts =>
    have hrest := hclosing texts
    rw [listed, List.length_append, List.length_cons]
    omega

theorem run_foldItems_listed {texts : List (List UInt8)} {vs : List Value}
    (h : List.Forall₂ (Says depth) texts vs) {close : List UInt8} (hclose : Blank close)
    {bound : Nat} (hbound : texts.length < bound) (rest : List UInt8) :
    StateT.run (foldItems (push (value depth)) bound true [])
        (listed texts (close ++ octet ']' :: rest)) = .ok (vs.reverse, octet ']' :: rest) := by
  obtain ⟨bound, rfl⟩ : ∃ n, bound = n + 1 := ⟨bound - 1, by omega⟩
  cases h with
  | nil =>
    rw [listed, foldItems, run_bind_ok (run_moreItems_end hclose true rest)]
    rfl
  | @cons text v texts vs hsays hrest =>
    have hstops := stops_closing (stops_close hclose (.inl rfl) rest) texts
    obtain ⟨blank, hblank, hpush⟩ := run_push hsays hstops []
    have hgoes := (goesOn_of_said hsays).append (closing texts (close ++ octet ']' :: rest))
    rw [listed, foldItems, run_bind_ok (run_moreItems_first hgoes), if_pos rfl, run_bind_ok hpush,
      run_foldItems_closing hrest hblank hclose (by simpa using hbound), List.reverse_cons]

theorem run_items_eq (item : Reader α) (input : List UInt8) :
    StateT.run (items item) input = StateT.run (do
      let reversed ← foldItems (push item) (input.length + 1) true []
      endList
      return reversed.reverse) input := rfl

/-- **A list of texts is read as the list of what they say.** -/
theorem run_items {texts : List (List UInt8)} {vs : List Value}
    (h : List.Forall₂ (Says depth) texts vs) {close : List UInt8} (hclose : Blank close)
    (rest : List UInt8) :
    StateT.run (items (value depth)) (listed texts (close ++ octet ']' :: rest)) =
      .ok (vs, rest) := by
  have hbound := length_lt_length_listed texts (List.append_ne_nil_of_right_ne_nil close
    (List.cons_ne_nil (octet ']') rest))
  have hend : StateT.run endList (octet ']' :: rest) = .ok ((), rest) := rfl
  rw [run_items_eq, run_bind_ok (run_foldItems_listed h hclose hbound rest), run_bind_ok hend,
    List.reverse_reverse]
  rfl

/-- Where a list is asked for and stands, it is read. -/
theorem run_listOnly {texts : List (List UInt8)} {vs : List Value}
    (h : List.Forall₂ (Says depth) texts vs) {blank close : List UInt8} (hblank : Blank blank)
    (hclose : Blank close) (rest : List UInt8) :
    StateT.run (listOnly depth)
        (blank ++ octet '[' :: listed texts (close ++ octet ']' :: rest)) = .ok (vs, rest) := by
  have hbracket : (octet '[' :: listed texts (close ++ octet ']' :: rest)).dropWhile isSpace =
      octet '[' :: listed texts (close ++ octet ']' :: rest) := rfl
  rw [listOnly, run_bind_ok (run_next _), dropWhile_blank hblank, hbracket]
  exact run_items h hclose rest

/-! ## 7. Members -/

section Members

variable {blank : List UInt8} (hblank : Blank blank) (rest : List UInt8)
include hblank

/-- The first member of an object needs no comma. -/
theorem run_moreMembers_first :
    StateT.run (moreMembers true) (blank ++ octet '"' :: rest) = .ok (true, octet '"' :: rest) := by
  rw [moreMembers, run_bind_ok (run_next _), dropWhile_blank hblank]
  rfl

/-- Any other stands behind one. -/
theorem run_moreMembers_comma :
    StateT.run (moreMembers false) (blank ++ octet ',' :: octet '"' :: rest) =
      .ok (true, octet '"' :: rest) := by
  rw [moreMembers, run_bind_ok (run_next _), dropWhile_blank hblank]
  rfl

/-- Behind the last one stands the brace that ends the object. -/
theorem run_moreMembers_end (first : Bool) :
    StateT.run (moreMembers first) (blank ++ octet '}' :: rest) =
      .ok (false, octet '}' :: rest) := by
  rw [moreMembers, run_bind_ok (run_next _), dropWhile_blank hblank]
  rfl

theorem run_colon : StateT.run colon (blank ++ octet ':' :: rest) = .ok ((), rest) := by
  rw [colon, run_bind_ok (run_next _), dropWhile_blank hblank]
  rfl

end Members

/-- An object with one member: its name is read, and what the member is for. -/
theorem run_foldMembers_one {step : σ → String → Reader σ} {s s' : σ} {name : String}
    {quoted blank blank' : List UInt8} (hblank : Blank blank) (hblank' : Blank blank')
    (hname : StateT.run memberName (octet '"' :: quoted) = .ok (name, []))
    (hstep : StateT.run (step s name) input = .ok (s', blank' ++ octet '}' :: rest))
    {bound : Nat} (hbound : 2 ≤ bound) :
    StateT.run (foldMembers step bound true s) (blank ++ octet '"' :: (quoted ++ input)) =
      .ok (s', octet '}' :: rest) := by
  obtain ⟨bound, rfl⟩ : ∃ n, bound = n + 2 := ⟨bound - 2, by omega⟩
  rw [foldMembers, run_bind_ok (run_moreMembers_first hblank _), if_pos rfl, ← List.cons_append,
    run_bind_ok (undisturbed_memberName _ _ hname), List.nil_append, run_bind_ok hstep, foldMembers,
    run_bind_ok (run_moreMembers_end hblank' _ false)]
  rfl

/-- A record that is written as an object with one member. -/
theorem run_fields_one {expected : String} {ofList : Reader α} {step : σ → String → Reader σ}
    {ofMembers : σ → Except Fault α} {s s' : σ} {a : α} {name : String}
    {quoted front blank blank' : List UInt8} (hfront : Blank front) (hblank : Blank blank)
    (hblank' : Blank blank')
    (hname : StateT.run memberName (octet '"' :: quoted) = .ok (name, []))
    (hstep : StateT.run (step s name) input = .ok (s', blank' ++ octet '}' :: rest))
    (hdone : ofMembers s' = .ok a) :
    StateT.run (fields expected ofList s step ofMembers)
        (front ++ octet '{' :: (blank ++ octet '"' :: (quoted ++ input))) = .ok (a, rest) := by
  have hbound : 2 ≤ (blank ++ octet '"' :: (quoted ++ input)).length + 1 := by
    rw [List.length_append, List.length_cons]
    omega
  have hfold := run_foldMembers_one hblank hblank' hname hstep hbound
  have hbrace : (octet '{' :: (blank ++ octet '"' :: (quoted ++ input))).dropWhile isSpace =
      octet '{' :: (blank ++ octet '"' :: (quoted ++ input)) := rfl
  have hopen : StateT.run (fields expected ofList s step ofMembers)
      (front ++ octet '{' :: (blank ++ octet '"' :: (quoted ++ input))) =
      StateT.run (do
        let s ← foldMembers step ((blank ++ octet '"' :: (quoted ++ input)).length + 1) true s
        let a ← ofMembers s
        endObject
        return a) (blank ++ octet '"' :: (quoted ++ input)) := by
    rw [fields, run_bind_ok (run_next _), dropWhile_blank hfront, hbrace]
    rfl
  rw [hopen, run_bind_ok hfold, hdone]
  rfl

end Reader
end Json
end TokenTrust
