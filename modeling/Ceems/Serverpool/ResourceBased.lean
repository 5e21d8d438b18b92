import Ceems.Go.Map

/-!
# The retention-based server pool

`pkg/lb/serverpool/resource.go`: the load balancer's `resourceBased` strategy.
The pool maps a cluster id to the TSDB backends registered for it, in
registration order (`add`), and `target` picks the backend a query reaching
`d` into the past is sent to:

* the eligibility loop keeps every alive backend whose retention period is
  strictly longer than `d`, in two parallel slices `targetBackends` and
  `retentionPeriods` (`eligibleStep`);
* with no eligible backend there is no target, with one it is the target;
* otherwise the least-connections loop scans the eligible backends whose
  retention is the minimum `slicesMin retentionPeriods`, starting from the
  sentinel `maxInt32` and keeping a backend whenever its connection count is
  strictly below the running minimum (`leastConnStep`).

A `backend.Server` is read through its accessors `IsAlive`,
`RetentionPeriod` and `ActiveConnections`; `Backend` is the snapshot of
those three values that one call of `target` observes. Durations
(`time.Duration`, nanoseconds) and connection counts (`int`) are integers;
`target` only compares them, so no overflow arises.
-/

namespace Ceems
namespace Serverpool

/-- A TSDB backend as `resourceBased` reads it through `backend.Server`. -/
structure Backend where
  /-- The backend's URL, what `String()` prints. -/
  url : String
  /-- `IsAlive()`, kept current by the health probe. -/
  isAlive : Bool
  /-- `RetentionPeriod()`, in nanoseconds. -/
  retentionPeriod : Int
  /-- `ActiveConnections()`. -/
  activeConnections : Int
  deriving DecidableEq, Repr

/-- `resourceBased`: the backends of each cluster id, in registration order. -/
structure ResourceBased where
  backends : GoMap (List Backend)

namespace ResourceBased

/-- The pool the load balancer starts from, before any `add`. -/
def empty : ResourceBased := ⟨∅⟩

/-- `Add`: append `b` to the backends of cluster `id`. -/
def add (s : ResourceBased) (id : String) (b : Backend) : ResourceBased :=
  ⟨s.backends.append id [b]⟩

/-- `Size`: the number of backends of cluster `id`. -/
def size (s : ResourceBased) (id : String) : Nat :=
  (s.backends.getD id []).length

/-- The largest 32-bit integer, `math.MaxInt32`: the least-connections loop's
starting value. -/
def maxInt32 : Int := 2147483647

/-- One iteration of the eligibility loop: an alive backend whose retention
period exceeds `d` is appended to `targetBackends`, and its retention period to
`retentionPeriods`. -/
def eligibleStep (d : Int) (acc : List Backend × List Int) (b : Backend) :
    List Backend × List Int :=
  if !b.isAlive then acc
  else if d < b.retentionPeriod then (acc.1 ++ [b], acc.2 ++ [b.retentionPeriod])
  else acc

/-- `slices.Min` on a non-empty slice. -/
def slicesMin : List Int → Int
  | [] => 0
  | r :: rs => rs.foldl min r

/-- One iteration of the least-connections loop over the pairs
`(targetBackends[i], retentionPeriods[i])`: an alive backend of the minimum
retention whose connection count is strictly below the running minimum becomes
the target. -/
def leastConnStep (minRetentionPeriod : Int) (acc : Option Backend × Int)
    (p : Backend × Int) : Option Backend × Int :=
  if !p.1.isAlive then acc
  else if p.2 = minRetentionPeriod then
    if acc.2 > p.1.activeConnections then (some p.1, p.1.activeConnections) else acc
  else acc

/-- `Target`: the backend a query reaching `d` into the past is sent to, or
`none` (Go's `nil`). -/
def target (s : ResourceBased) (id : String) (d : Int) : Option Backend :=
  match s.backends.lookup id with
  | none => none
  | some bs =>
    let (targetBackends, retentionPeriods) := bs.foldl (eligibleStep d) ([], [])
    match targetBackends with
    | [] => none
    | [b] => some b
    | _ :: _ :: _ =>
      let minRetentionPeriod := slicesMin retentionPeriods
      ((targetBackends.zip retentionPeriods).foldl (leastConnStep minRetentionPeriod)
        (none, maxInt32)).1

end ResourceBased

end Serverpool
end Ceems
