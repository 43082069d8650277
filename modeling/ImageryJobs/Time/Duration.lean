/-!
Spans of time in milliseconds.
-/

namespace ImageryJobs

/-- A span of time in whole milliseconds. -/
abbrev Millis := Nat

namespace Millis

/-- The decimals of thousandths without trailing zeros, with a point. -/
def fractionText (thousandths : Nat) : String :=
  if thousandths = 0 then ""
  else if thousandths % 100 = 0 then s!".{thousandths / 100}"
  else if thousandths % 10 = 0 then s!".{thousandths / 100}{thousandths / 10 % 10}"
  else s!".{thousandths / 100}{thousandths / 10 % 10}{thousandths % 10}"

/-- A span as messages show it: in seconds from one second on, else in milliseconds; no time at
all is shown in nanoseconds. -/
def text (t : Millis) : String :=
  if 1000 ≤ t then s!"{t / 1000}{fractionText (t % 1000)}s"
  else if t = 0 then "0ns"
  else s!"{t}ms"

end Millis
end ImageryJobs
