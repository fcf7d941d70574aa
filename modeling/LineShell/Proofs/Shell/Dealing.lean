import LineShell.Proofs.Child.Sweep
import LineShell.Proofs.Shell.Service
import LineShell.Proofs.Shell.Storing

/-!
# How a request deals with children

Where a new child gets a pid that no other one has, there are only a few ways in which a request can
change the children of a shell: it creates one that is tracked, or one that is waited for at once;
it lets one end; or it collects those that have ended. Main statement: `Request.deals_action`.
-/

namespace LineShell

open LineShell.Action

/-- A new child gets a pid that no child has which is not collected. -/
def Host.GivesFreePids (host : Host) : Prop :=
  ∀ attempts table pid, host.fork attempts table = .ok pid → ∀ c ∈ table, c.pid ≠ pid

namespace Trace

/-- The children that are collected, in their order. -/
def collected (t : Trace) : List Child :=
  t.filterMap fun
    | .collected child => some child
    | _ => none

@[simp] theorem collected_append (t u : Trace) :
    Trace.collected (t ++ u) = t.collected ++ u.collected :=
  List.filterMap_append

theorem collected_collected (children : List Child) :
    Trace.collected (children.map .collected) = children := by
  simp [collected, List.filterMap_map]

/-- No child is created or collected. -/
structure Childless (t : Trace) : Prop where
  launches : t.launches = []
  collected : t.collected = []

theorem Childless.append {t u : Trace} (ht : t.Childless) (hu : u.Childless) :
    Childless (t ++ u) where
  launches := by rw [launches_append, ht.launches, hu.launches, List.append_nil]
  collected := by rw [collected_append, ht.collected, hu.collected, List.append_nil]

theorem childless_nil : Childless [] := ⟨rfl, rfl⟩

theorem childless_noted (ds : List Diagnostic) : Childless (ds.map .noted) where
  launches := launches_noted ds
  collected := by simp [Trace.collected]

end Trace

/-- The ways to deal with children: from a roster and a number of attempts to create a child, to a
roster and a number of attempts, with a trace. -/
inductive Deals (r : Roster) (n : Nat) : Roster → Nat → Trace → Prop where
  | leave {t : Trace} (ht : t.Childless) : Deals r n r n t
  | refuse {t : Trace} (ht : t.Childless) : Deals r n r (n + 1) t
  | track {pid : Pid} {argv : List String} {t u : Trace} (hpid : ∀ c ∈ r.table, c.pid ≠ pid)
      (hargv : IsPassable argv) (ht : t.Childless) (hu : u.Childless) :
      Deals r n (Roster.track { r with table := r.table.start pid n } pid) (n + 1)
        (t ++ .launched ⟨pid, n, argv, true⟩ :: u)
  | await {pid : Pid} {argv : List String} {writing : Writing} {t u : Trace}
      (hpid : ∀ c ∈ r.table, c.pid ≠ pid) (hargv : IsPassable argv) (ht : t.Childless)
      (hu : u.Childless) :
      Deals r n r (n + 1)
        (t ++ .launched ⟨pid, n, argv, false⟩ :: .childWrote n writing ::
          .collected ⟨pid, n, true⟩ :: u)
  | finish {pid : Pid} {t : Trace} (ht : t.Childless) :
      Deals r n { r with table := r.table.finish pid } n t
  | collect {table : ChildTable} {t : Trace}
      (htable : table = r.table ∨ table = r.table.finishAll) (hlaunches : t.launches = [])
      (hcollected : t.collected = (table.sweep r.tracked).collected) :
      Deals r n (Roster.collect { r with table }) n t

namespace Deals

variable {r r' : Roster} {n n' : Nat} {t u : Trace}

theorem prepend (hu : u.Childless) (h : Deals r n r' n' t) : Deals r n r' n' (u ++ t) := by
  cases h with
  | leave ht => exact .leave (hu.append ht)
  | refuse ht => exact .refuse (hu.append ht)
  | track hpid hargv ht hv =>
      rw [← List.append_assoc]
      exact .track hpid hargv (hu.append ht) hv
  | await hpid hargv ht hv =>
      rw [← List.append_assoc]
      exact .await hpid hargv (hu.append ht) hv
  | finish ht => exact .finish (hu.append ht)
  | collect htable hlaunches hcollected =>
      refine .collect htable ?_ ?_
      · rw [Trace.launches_append, hu.launches, hlaunches, List.append_nil]
      · rw [Trace.collected_append, hu.collected, hcollected, List.nil_append]

theorem append (h : Deals r n r' n' t) (hu : u.Childless) : Deals r n r' n' (t ++ u) := by
  cases h with
  | leave ht => exact .leave (ht.append hu)
  | refuse ht => exact .refuse (ht.append hu)
  | track hpid hargv ht hv =>
      rw [List.append_assoc]
      exact .track hpid hargv ht (hv.append hu)
  | await hpid hargv ht hv =>
      rw [List.append_assoc]
      exact .await hpid hargv ht (hv.append hu)
  | finish ht => exact .finish (ht.append hu)
  | collect htable hlaunches hcollected =>
      refine .collect htable ?_ ?_
      · rw [Trace.launches_append, hu.launches, hlaunches, List.append_nil]
      · rw [Trace.collected_append, hu.collected, hcollected, List.append_nil]

end Deals

variable {σ α β : Type}

namespace Action

/-! ## Actions that leave children alone -/

/-- The children are those of before, and none is created or collected. -/
def LeavesChildren (x : Action σ α) : Prop :=
  ∀ s, (x.run s).shell.roster = s.roster ∧ (x.run s).shell.forks = s.forks ∧
    (x.run s).trace.Childless

theorem LeavesChildren.bind {x : Action σ α} {f : α → Action σ β} (hx : LeavesChildren x)
    (hf : ∀ a, LeavesChildren (f a)) : LeavesChildren (x >>= f) := by
  intro s
  obtain ⟨hroster, hforks, ht⟩ := hx s
  rw [run_bind]
  generalize x.run s = o at hroster hforks ht
  obtain ⟨s', t, e | a⟩ := o
  · exact ⟨hroster, hforks, ht⟩
  · obtain ⟨hroster', hforks', hu⟩ := hf a s'
    exact ⟨hroster'.trans hroster, hforks'.trans hforks, ht.append hu⟩

theorem leavesChildren_pure (a : α) : LeavesChildren (pure a : Action σ α) :=
  fun _ => ⟨rfl, rfl, Trace.childless_nil⟩

theorem leavesChildren_reports (ds : List Diagnostic) :
    LeavesChildren (tell (ds.map .noted) : Action σ Unit) :=
  fun _ => ⟨rfl, rfl, Trace.childless_noted ds⟩

theorem leavesChildren_emit (f : σ → Emission σ Unit) : LeavesChildren (emit f) := by
  intro s
  refine ⟨rfl, rfl, ?_⟩
  change Trace.Childless (if (f s.stream).emitted = [] then [] else _)
  split
  · exact Trace.childless_nil
  · exact ⟨rfl, rfl⟩

theorem leavesChildren_record (text : String) :
    LeavesChildren (Shell.record text : Action σ Nat) :=
  fun _ => ⟨rfl, rfl, rfl, rfl⟩

/-! ## Actions that deal with children -/

/-- The children are dealt with in one of the ways. -/
def DealsWithChildren (x : Action σ α) : Prop :=
  ∀ s, Deals s.roster s.forks (x.run s).shell.roster (x.run s).shell.forks (x.run s).trace

theorem LeavesChildren.deals {x : Action σ α} (h : LeavesChildren x) : DealsWithChildren x := by
  intro s
  obtain ⟨hroster, hforks, ht⟩ := h s
  rw [hroster, hforks]
  exact .leave ht

theorem LeavesChildren.bind_deals {x : Action σ α} {f : α → Action σ β} (hx : LeavesChildren x)
    (hf : ∀ a, DealsWithChildren (f a)) : DealsWithChildren (x >>= f) := by
  intro s
  obtain ⟨hroster, hforks, ht⟩ := hx s
  rw [run_bind]
  generalize x.run s = o at hroster hforks ht
  obtain ⟨s', t, e | a⟩ := o
  · change s'.roster = s.roster at hroster
    change s'.forks = s.forks at hforks
    rw [← hroster, ← hforks]
    exact .leave ht
  · change s'.roster = s.roster at hroster
    change s'.forks = s.forks at hforks
    rw [← hroster, ← hforks]
    exact (hf a s').prepend ht

theorem DealsWithChildren.bind {x : Action σ α} {f : α → Action σ β} (hx : DealsWithChildren x)
    (hf : ∀ a, LeavesChildren (f a)) : DealsWithChildren (x >>= f) := by
  intro s
  have hs := hx s
  rw [run_bind]
  generalize x.run s = o at hs
  obtain ⟨s', t, e | a⟩ := o
  · exact hs
  · obtain ⟨hroster, hforks, hu⟩ := hf a s'
    change Deals _ _ ((f a).run s').shell.roster ((f a).run s').shell.forks _
    rw [hroster, hforks]
    exact hs.append hu

end Action

theorem ChildTable.finish_of_absent {t : ChildTable} {pid : Pid} (h : ∀ c ∈ t, c.pid ≠ pid) :
    t.finish pid = t := by
  refine (List.map_congr_left fun c hc => ?_).trans t.map_id
  rw [if_neg (h c hc)]
  rfl

/-- A child that is waited for as soon as it is created leaves nothing behind. -/
theorem ChildTable.await_start {t : ChildTable} {pid : Pid} (h : ∀ c ∈ t, c.pid ≠ pid)
    (serial : Nat) : (t.start pid serial).await pid = (.collected ⟨pid, serial, true⟩, t) := by
  have hfinish : (t.start pid serial).finish pid = t ++ [⟨pid, serial, true⟩] := by
    rw [start, finish, List.map_append]
    exact congrArg₂ (· ++ ·) (finish_of_absent h) (by simp)
  have hfind : find? (t ++ [⟨pid, serial, true⟩]) pid = some ⟨pid, serial, true⟩ := by
    rw [find?, List.find?_append, ← find?.eq_1 t pid, find?_eq_none_iff.mpr h]
    simp
  have hrest : (t ++ [(⟨pid, serial, true⟩ : Child)]).filter (·.pid ≠ pid) = t := by
    rw [List.filter_append, List.filter_eq_self.mpr (by simpa using h)]
    simp
  rw [await, hfinish, poll, hfind]
  simp only [if_true, hrest]

variable {host : Host}

namespace Shell

theorem deals_launch (hhost : host.GivesFreePids) (argv : List String) (line : String)
    (background : Bool) :
    DealsWithChildren (launch host argv line background : Action σ Unit) := by
  intro s
  by_cases hargv : IsPassable argv
  · cases hfork : host.fork s.forks s.roster.table with
    | error cause =>
        rw [run_launch_of_error hfork hargv]
        exact .refuse ⟨rfl, rfl⟩
    | ok pid =>
        have hpid := hhost _ _ pid hfork
        cases background with
        | true =>
            rw [run_launch_background hfork hargv]
            exact .track (t := []) hpid hargv Trace.childless_nil ⟨rfl, rfl⟩
        | false =>
            have hawait := ChildTable.await_start hpid s.forks
            have hroster : ((s.forked pid).awaited pid).roster = s.roster := by
              change { s.roster with table := ((s.roster.table.start pid s.forks).await pid).2 } = _
              rw [hawait]
            have hreaped : (s.forked pid).reaped pid = [⟨pid, s.forks, true⟩] := by
              have htable : (s.forked pid).roster.table.await pid =
                  (.collected ⟨pid, s.forks, true⟩, s.roster.table) := hawait
              rw [reaped, htable]
            rw [run_launch_foreground hfork hargv, hreaped]
            change Deals _ _ ((s.forked pid).awaited pid).roster _ _
            rw [hroster]
            exact .await (t := []) hpid hargv Trace.childless_nil Trace.childless_nil
  · rw [run_launch_of_not_isPassable hargv]
    exact .leave ⟨rfl, rfl⟩

theorem deals_collect : DealsWithChildren (collect : Action σ Nat) := by
  intro s
  rw [run_collect]
  exact .collect (.inl rfl) (Trace.launches_collected _) (Trace.collected_collected _)

end Shell

variable [OutputStream σ]

theorem Shell.leavesChildren_writeEntries :
    LeavesChildren (Shell.writeEntries : Action σ Unit) := by
  intro s
  rw [run_writeEntries]
  exact LeavesChildren.bind (leavesChildren_reports [_]) (fun _ =>
    .bind (forM_induction (leavesChildren_pure _) (fun hx hy => .bind hx fun _ => hy)
      (fun _ => leavesChildren_emit _) _) fun _ => leavesChildren_emit _) s

theorem Task.deals_action (hhost : host.GivesFreePids) (t : Task) :
    DealsWithChildren (t.action host : Action σ Unit) := by
  cases t with
  | rest => exact (leavesChildren_pure ()).deals
  | say text =>
      exact (LeavesChildren.bind (leavesChildren_emit _) fun _ => leavesChildren_emit _).deals
  | list =>
      exact (LeavesChildren.bind (.bind (leavesChildren_record _) fun _ => leavesChildren_pure _)
        fun _ => Shell.leavesChildren_writeEntries).deals
  | run argv line background =>
      exact (leavesChildren_emit _).bind_deals fun _ =>
        (Shell.deals_launch hhost argv line background).bind fun _ =>
          .bind (leavesChildren_record line) fun _ => leavesChildren_pure _

theorem Plan.deals_action (hhost : host.GivesFreePids) (p : Plan) :
    DealsWithChildren (p.action host : Action σ Unit) :=
  (leavesChildren_reports p.reports).bind_deals fun _ => p.task.deals_action hhost

/-- Whatever is asked of a shell, it deals with its children in one of the ways. -/
theorem Request.deals_action (hhost : host.GivesFreePids) (limit : Nat) (r : Request) :
    DealsWithChildren (r.action host limit : Action σ Reply) := by
  intro s
  obtain ⟨p, reply, -, hrun⟩ | ⟨text, rfl⟩ | rfl | ⟨pid, rfl⟩ | rfl := r.exists_plan host limit s
  · rw [hrun]
    exact (Plan.deals_action hhost p).bind (fun _ => leavesChildren_pure _) s
  · exact (LeavesChildren.bind (leavesChildren_record text) fun _ => leavesChildren_pure _).deals s
  · exact Shell.deals_collect.bind (fun _ => leavesChildren_pure _) s
  · exact .finish Trace.childless_nil
  · -- All children end before those in the background are collected.
    have hrun : (Request.action host limit .settle).run s =
        (Shell.collect >>= fun n => pure (.number n)).run
          { s with roster := { s.roster with table := s.roster.table.finishAll } } := rfl
    rw [hrun, run_bind_of_ok (Shell.run_collect _)]
    refine .collect (.inr rfl) ?_ ?_
    · rw [run_pure, List.append_nil]
      exact Trace.launches_collected _
    · rw [run_pure, List.append_nil]
      exact Trace.collected_collected _

end LineShell
