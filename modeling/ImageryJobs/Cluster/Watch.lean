import ImageryJobs.Cluster.Call

/-!
Watching: looking again and again until a look decides, the deadline passes or the work is
cancelled. Cancellation goes before the deadline, and the deadline before a look due at the same
moment.
-/

namespace ImageryJobs

/-- How to watch: the time between two looks, and how long. -/
structure Watch where
  interval : Millis
  timeout : Millis
  deriving DecidableEq

namespace Watch

/-- The number of looks within the deadline. Without an interval they are limited instead. -/
def looks (w : Watch) : Nat :=
  if w.interval = 0 then 18446744073709551616 else w.timeout / w.interval + 1

variable {m : Type → Type} [Monad m] [MonadLiftT ClusterScript m] {α : Type}

/-- Looks now, and after every look that decides nothing waits for the next. -/
def poll (interval : Millis) (look : m (Option α)) (cancelled expired : m α) :
    (looks : Nat) → (left : Millis) → m α
  | 0, _ => expired
  | looks + 1, left => do
      match ← look with
      | some value => return value
      | none =>
          if ← (ClusterScript.pause (min interval left) : ClusterScript Bool) then cancelled
          else if left ≤ interval then expired
          else poll interval look cancelled expired looks (left - interval)

/-- Looks at once, and again until a look decides. -/
def untilDecided (w : Watch) (look : m (Option α)) (cancelled expired : m α) : m α :=
  poll w.interval look cancelled expired w.looks w.timeout

/-- Looks like `untilDecided`, unless the work is cancelled before or there is no time at all. -/
def guarded (w : Watch) (look : m (Option α)) (cancelled expired : m α) : m α := do
  if ← (ClusterScript.pause 0 : ClusterScript Bool) then cancelled
  else if w.timeout = 0 then expired
  else w.untilDecided look cancelled expired

end Watch
end ImageryJobs
