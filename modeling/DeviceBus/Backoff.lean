/-!
# Waiting between attempts

The waits double from one attempt to the next and never exceed a limit.  They are counted in binary
fractions of a second with twenty-four digits, so that the doubled waits are a little shorter than the
whole numbers of milliseconds they stand for, and each is cut down to milliseconds.
-/

namespace DeviceBus.Backoff

/-- The nearest binary fraction of twenty-four digits to a hundredth of a second, in units of
`2 ^ (-30)` seconds. -/
def firstWait : Nat := 10737418

/-- The wait before the retry with this number, in whole nanoseconds. -/
def nanoseconds (retry : Nat) : Nat :=
  (2 * firstWait * Nat.pow 2 retry * 1000000000 + 0x40000000) / 0x80000000

/-- The longest wait of a tool that gives up quickly, in milliseconds. -/
def quickLimit : Nat := 100

/-- The wait before the retry with this number, in milliseconds. -/
def quickWait (retry : Nat) : Nat :=
  -- after a few doublings the limit is reached for good
  if 5 ≤ retry then quickLimit else min (nanoseconds retry / 1000000) quickLimit

/-- The waits of a tool that gives up quickly. -/
def quickWaits (retries : Nat) : List Nat := (List.range retries).map quickWait

/-- How often an endpoint tries again to reach the proxy at startup. -/
def dialRetries : Nat := 30

end DeviceBus.Backoff
