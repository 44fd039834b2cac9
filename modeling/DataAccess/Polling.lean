/-!
# Polling: waiting for a condition

`Polling.run` checks a condition again and again until it holds or the time is over. Time is counted
in microseconds from the first check; each check is one interval later than the one before.
`durationText` writes a time in its largest unit.
-/

namespace DataAccess.Polling

/-- The time after which waiting ends when none is given, five seconds. -/
def defaultTimeout : Nat := 5000000

/-- The time between two checks when none is given, one millisecond. -/
def defaultInterval : Nat := 1000

/-- The digits of `rest / unit` after the point, without zeros at the end. -/
def fractionText (unit rest : Nat) : String :=
  let width := (Nat.toDigits 10 unit).length - 1
  let digits := Nat.toDigits 10 rest
  let padded := List.replicate (width - digits.length) '0' ++ digits
  let shown := (padded.reverse.dropWhile (· == '0')).reverse
  if rest = 0 ∨ shown.isEmpty then "" else String.ofList ('.' :: shown)

/-- A time in microseconds, in seconds, milliseconds or microseconds. -/
def durationText (micros : Nat) : String :=
  if micros = 0 then "0ns"
  else if 1000000 ≤ micros then
    toString (micros / 1000000) ++ fractionText 1000000 (micros % 1000000) ++ "s"
  else if 1000 ≤ micros then
    toString (micros / 1000) ++ fractionText 1000 (micros % 1000) ++ "ms"
  else
    toString micros ++ "µs"

/-- The wording of a timeout, with its length as a `durationText`. -/
def timeoutMessage (timeout : Nat) (message : String) : String :=
  "Timeout after " ++ durationText timeout ++ ": " ++ message

/-- Checks a condition from its check number `done + 1` on, and gives the number of checks,
`none` if the time is over first. A check that fails ends the waiting if `done` intervals take
up the time. -/
def checkFrom (holds : Nat → Bool) (timeout interval : Nat) : Nat → Nat → Option Nat
  | 0, _ => none
  | fuel + 1, done =>
      if holds (done + 1) then some (done + 1)
      else if timeout ≤ done * interval then none
      else checkFrom holds timeout interval fuel (done + 1)

/-- Checks a condition until it holds, and gives the number of checks, `none` if the time is over
first. -/
def run (holds : Nat → Bool) (timeout interval : Nat) : Option Nat :=
  checkFrom holds timeout interval (timeout / interval + 2) 0

end DataAccess.Polling
