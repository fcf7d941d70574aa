import LineShell.Child.Table

/-!
# Tracked children

Some children are left to run on their own. Their pids are tracked, and from time to time the
tracked children that have ended are collected. Nothing else is ever asked for, so a child that is
not tracked is left to whoever waits for it.
-/

namespace LineShell

/-- The children of a process, and the pids of those it tracks. -/
structure Roster where
  /-- The children that have not been collected. -/
  table : ChildTable
  /-- The tracked pids, in the order in which they were given. -/
  tracked : List Pid
deriving DecidableEq, Repr

/-- What going once through tracked pids comes to. -/
structure Sweep where
  /-- The children left. -/
  table : ChildTable
  /-- The pids whose child still runs. -/
  running : List Pid
  /-- The pids whose child is gone. -/
  gone : List Pid
  /-- The children that were collected on the way. -/
  collected : List Child
deriving DecidableEq, Repr

/-- Asks for each pid in turn. A pid is gone when its child was collected, now or before. -/
def ChildTable.sweep (t : ChildTable) : List Pid → Sweep
  | [] => { table := t, running := [], gone := [], collected := [] }
  | p :: ps =>
    match t.poll p with
    | (.running, t) =>
      let rest := sweep t ps
      { rest with running := p :: rest.running }
    | (.collected c, t) =>
      let rest := sweep t ps
      { rest with gone := p :: rest.gone, collected := c :: rest.collected }
    | (.absent, t) =>
      let rest := sweep t ps
      { rest with gone := p :: rest.gone }

namespace Roster

/-- No children. -/
def empty : Roster where
  table := []
  tracked := []

/-- Tracks a pid, once more if it is tracked already. -/
def track (r : Roster) (p : Pid) : Roster :=
  { r with tracked := r.tracked ++ [p] }

/-- The number of pids that are tracked. -/
def outstanding (r : Roster) : Nat :=
  r.tracked.length

/-- Goes once through the tracked pids. -/
def sweep (r : Roster) : Sweep :=
  ChildTable.sweep r.table r.tracked

/-- Collects the tracked children that have ended. Those that run stay tracked. -/
def collect (r : Roster) : Roster where
  table := r.sweep.table
  tracked := r.sweep.running

/-- What can happen to a roster. -/
inductive Event where
  /-- A child is created under a pid. -/
  | start (pid : Pid) (serial : Nat)
  /-- A pid is tracked. -/
  | track (pid : Pid)
  /-- A child ends. -/
  | finish (pid : Pid)
  /-- A child is waited for by somebody who does not track it. -/
  | await (pid : Pid)
  /-- The tracked children that have ended are collected. -/
  | collect
deriving DecidableEq, Repr

/-- The roster after an event, and the number of pids that are tracked no longer. -/
def after (r : Roster) : Event → Roster × Nat
  | .start p serial => ({ r with table := r.table.start p serial }, 0)
  | .track p => (r.track p, 0)
  | .finish p => ({ r with table := r.table.finish p }, 0)
  | .await p => ({ r with table := (r.table.await p).2 }, 0)
  | .collect => (r.collect, r.sweep.gone.length)

end Roster

end LineShell
