/-
# Runs

What an application does with the library over time: it sets the caches up, gets and refreshes
keys, forgets them, gets discovery documents and checks tokens, in any order and as often as it
likes.  One such thing is an `Operation`, and a run is a list of them (`State.after`).

An operation that fails, even by a crash, does not end the run: what it had done before stays
done, and the next one starts from there.  Only setting something up is different: if that crashes
(`KeyCache.configure?`), there is no cache any more, and no run.

What holds along runs is shown in two steps: what one operation keeps (`Kept.next`), and then
the whole run by induction on its last operation.
-/
import Mathlib.Data.List.Induction
import TokenTrust.Proofs.Signature

namespace TokenTrust

open TokenTrust.Action TokenTrust.Retrieval

/-! ## 1. Operations -/

/-- What an application can do. -/
inductive Operation where
  /-- Sets the cache of key sets up. -/
  | configure (setting : KeyCache.Setting)
  /-- Sets how long discovery documents may be used. -/
  | configureDiscovery (ttl : Duration)
  /-- Gets the keys of a source. -/
  | get (source : KeySource)
  | refresh (source : KeySource)
  | clear
  /-- Gets a discovery document. -/
  | discover (url : Url)
  /-- Checks the signature of a token. -/
  | validate (check : SignatureCheck) (token : Token)

namespace State

variable {out : Surroundings} {s : State}

/-- The state after an operation.  What is set up is supposed to be admitted
(`KeyCache.admits`). -/
def next (out : Surroundings) (s : State) : Operation → State
  | .configure x =>
    { s with keys := s.keys.configure (out.clock s.readings) x, readings := s.readings + 1 }
  | .configureDiscovery ttl => { s with discovery := { s.discovery with ttl } }
  | .get source => ((Retrieval.getKeys source).run out s).2
  | .refresh source => ((Retrieval.refreshKeys source).run out s).2
  | .clear => (Retrieval.clearKeys.run out s).2
  | .discover url => ((Retrieval.getDiscovery url).run out s).2
  | .validate c t => ((Validator.ofAction c.check t).run out s).2

/-- The state after a run. -/
def after (out : Surroundings) (s : State) (ops : List Operation) : State :=
  ops.foldl (next out) s

theorem after_append (ops ops' : List Operation) :
    s.after out (ops ++ ops') = (s.after out ops).after out ops' :=
  List.foldl_append

theorem after_concat (ops : List Operation) (op : Operation) :
    s.after out (ops ++ [op]) = (s.after out ops).next out op :=
  after_append ops [op]

theorem next_validate (c : SignatureCheck) (t : Token) :
    s.next out (.validate c t) = ((c.check t).run out s).2 := by
  rw [next, SignatureCheck.run_validator]

end State

/-! ## 2. What operations keep -/

namespace Operation

/-- Whether an operation sets something up, or forgets the keys; the others retrieve. -/
def retrieves : Operation → Bool
  | configure _ | configureDiscovery _ | clear => false
  | get _ | refresh _ | discover _ | validate _ _ => true

end Operation

variable {out : Surroundings} {R : State → State → Prop}

/-- **An operation that retrieves keeps what retrievals keep.** -/
theorem Retrieval.Kept.next (k : Kept out (fun _ => True) R) (s : State) {op : Operation}
    (h : op.retrieves = true) : R s (s.next out op) := by
  cases op with
  | configure => exact nomatch h
  | configureDiscovery => exact nomatch h
  | clear => exact nomatch h
  | get source => exact k.getting trivial (getting_of_run rfl)
  | refresh source => exact k.refreshing trivial (refreshing_of_run rfl)
  | discover url => exact k.discovering trivial (discovering_of_run rfl)
  | validate c t =>
    rw [State.next_validate]
    exact SignatureCheck.kept_checking k (fun _ => trivial) (fun _ _ _ => trivial)
      (SignatureCheck.checking_run out c t s)

namespace State

/-- **An operation only adds to what happened.** -/
theorem precedes_next (out : Surroundings) (s : State) (op : Operation) :
    s.Precedes (s.next out op) := by
  cases op with
  | configure => exact ⟨List.prefix_refl _, Nat.le_succ _⟩
  | configureDiscovery => exact ⟨List.prefix_refl _, Nat.le_refl _⟩
  | clear => exact ⟨List.prefix_refl _, Nat.le_refl _⟩
  | _ => exact (kept_precedes out).next s rfl

theorem precedes_after (out : Surroundings) (s : State) (ops : List Operation) :
    s.Precedes (s.after out ops) := by
  induction ops using List.reverseRecOn with
  | nil => exact Precedes.refl s
  | append_singleton ops op ih =>
    rw [after_concat]
    exact ih.trans (precedes_next out _ op)

/-- What happened up to some operation of a run happened in the run. -/
theorem precedes_after_of_split (out : Surroundings) (s : State) (before rest : List Operation)
    (op : Operation) :
    ((s.after out before).next out op).Precedes (s.after out (before ++ op :: rest)) := by
  rw [after_append]
  exact precedes_after out _ rest

end State
end TokenTrust
