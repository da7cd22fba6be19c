/-
# Spans of time

A span is a number of nanoseconds, and so is an instant of the clock that measures spans.  That
clock starts with the machine and counts seconds in 63 bits, so there is a last moment that it can
tell (`Instant.last`).  A span may be longer than all that, up to `Duration.longest`: what comes so
much later than some moment need not be a moment any more, and to ask for it is a crash.
-/

namespace TokenTrust

/-- A span of time, in nanoseconds. -/
abbrev Duration := Nat

/-- A moment on the clock that measures spans, in nanoseconds. -/
abbrev Instant := Nat

namespace Duration

def ofSeconds (n : Nat) : Duration := n * 1000000000

def ofMilliseconds (n : Nat) : Duration := n * 1000000

/-- The whole seconds of a span. -/
def seconds (d : Duration) : Nat := d / 1000000000

/-- A number of units of `10 ^ places`, without zeros at the end of its fraction. -/
def decimal (places n : Nat) : String :=
  let unit := Nat.pow 10 places
  let digits := Nat.toDigits 10 (n % unit)
  let padded := List.replicate (places - digits.length) '0' ++ digits
  let fraction := (padded.reverse.dropWhile (· == '0')).reverse
  toString (n / unit) ++ if n % unit = 0 then "" else "." ++ String.ofList fraction

/-- The longest span: its seconds have 64 bits. -/
def longest : Duration := 18446744073709551616 * 1000000000 - 1

/-- A span in the greatest unit of which it is at least one. -/
def text (d : Duration) : String :=
  if 1000000000 ≤ d then decimal 9 d ++ "s"
  else if 1000000 ≤ d then decimal 6 d ++ "ms"
  else if 1000 ≤ d then decimal 3 d ++ "µs"
  else toString d ++ "ns"

end Duration

namespace Instant

/-- The last moment that can be told. -/
def last : Instant := 9223372036854775808 * 1000000000 - 1

/-- Whether the moment can be told that comes some time after another one. -/
def reaches (i : Instant) (d : Duration) : Bool :=
  i + d ≤ last

theorem reaches_iff {i : Instant} {d : Duration} : i.reaches d = true ↔ i + d ≤ last := by
  simp [reaches]

/-- From an earlier moment one comes as far. -/
theorem reaches_of_le {i j : Instant} {d : Duration} (h : j.reaches d = true) (hij : i ≤ j) :
    i.reaches d = true :=
  reaches_iff.mpr (Nat.le_trans (Nat.add_le_add_right hij d) (reaches_iff.mp h))

end Instant
end TokenTrust
