/-
# Dates of a token

A token says until when it is valid, and may say from when and when it was issued.  All three are
compared with the present, with some allowance for clocks that differ.

Dates are whole seconds that fit sixty-four bits, and so are sums of a date and the allowance:
where the exact sum does not fit, the nearest number that does is taken.
-/
import TokenTrust.Time.Calendar
import TokenTrust.Time.Duration
import TokenTrust.Token

namespace TokenTrust
namespace Timestamp

/-- The greatest number of seconds. -/
def greatest : Int := 0x7FFFFFFFFFFFFFFF

/-- The least number of seconds. -/
def least : Int := -0x8000000000000000

/-- The nearest number of seconds that fits. -/
def clamp (n : Int) : Int :=
  if n < least then least else if greatest < n then greatest else n

/-- The allowance that is made unless another one is set. -/
def defaultSkew : Duration := Duration.ofSeconds 60

/-- An allowance in whole seconds. -/
def skewSeconds (skew : Duration) : Int :=
  clamp skew.seconds

/-- What is reported about a token that does not say until when it is valid. -/
def noExpiration : Error :=
  .malformedToken "Jwt token does not contain 'exp' (Expiration) claim."

/-- Whether a date has not come yet, even with the allowance. -/
def isFuture (skew now date : Int) : Bool :=
  now < clamp (date - skew)

/-- Checks the dates of a token. -/
def check (skew : Duration) (now : Int) (t : Token) : Except Error Unit := do
  let skew := skewSeconds skew
  let some expiration := t.expiration? | throw noExpiration
  if clamp (expiration + skew) < now then
    throw (.expiredToken (Calendar.text expiration) (Calendar.text now))
  if let some start := t.notBefore? then
    if isFuture skew now start then
      throw (.notYetValid ("Jwt token is not valid before " ++ Calendar.text start ++
        ", time now: " ++ Calendar.text now))
  if let some issued := t.issuedAt? then
    if isFuture skew now issued then
      throw (.notYetValid ("Jwt token was issued in the future at " ++ Calendar.text issued ++
        ", time now: " ++ Calendar.text now))

end Timestamp
end TokenTrust
