import Mathlib.Data.List.Nodup
import LineShell.Proofs.Shell.Dealing

/-!
# Whose children the tracked pids are

A shell collects each of its children once, and knows at any time which ones are left: between two
requests they are those in the background, and their pids are the tracked ones. So a tracked pid
never addresses another child than the one for which it is tracked, although pids may be given
again.
-/

namespace LineShell

open LineShell.Action

/-- The children that have been created and not collected. -/
def Launch.outstanding (launches : List Launch) (collected : List Child) : List Launch :=
  launches.filter fun l => l.serial ∉ collected.map Child.serial

/-- A roster, after so many attempts to create a child, holds those of the children that have not
been collected. -/
structure Roster.Accounts (r : Roster) (n : Nat) (launches : List Launch)
    (collected : List Child) : Prop where
  serial_lt : ∀ l ∈ launches, l.serial < n
  serials : (launches.map Launch.serial).Nodup
  once : (collected.map Child.serial).Nodup
  launched : ∀ c ∈ collected, c.ended = true ∧ ∃ l ∈ launches, l.pid = c.pid ∧ l.serial = c.serial
  table : r.table.map (fun c => (c.pid, c.serial)) =
    (Launch.outstanding launches collected).map fun l => (l.pid, l.serial)
  tracked : r.tracked = r.table.map Child.pid
  pids : (r.table.map Child.pid).Nodup
  background : ∀ l ∈ Launch.outstanding launches collected, l.background = true

namespace Roster.Accounts

variable {r r' : Roster} {n n' : Nat} {launches : List Launch} {collected : List Child}

theorem empty : Roster.empty.Accounts 0 [] [] where
  serial_lt := nofun
  serials := List.nodup_nil
  once := List.nodup_nil
  launched := nofun
  table := rfl
  tracked := rfl
  pids := List.nodup_nil
  background := nofun

theorem mem_outstanding {l : Launch} :
    l ∈ Launch.outstanding launches collected ↔
      l ∈ launches ∧ l.serial ∉ collected.map Child.serial := by
  rw [Launch.outstanding, List.mem_filter, decide_eq_true_iff]

/-- An attempt that creates no child counts for nothing. -/
theorem attempt (h : r.Accounts n launches collected) : r.Accounts (n + 1) launches collected :=
  { h with serial_lt := fun l hl => Nat.lt_succ_of_lt (h.serial_lt l hl) }

/-- Whether children have ended does not count. -/
theorem with_table (h : r.Accounts n launches collected) {table : ChildTable}
    (htable : table.map (fun c => (c.pid, c.serial)) = r.table.map fun c => (c.pid, c.serial)) :
    Accounts { r with table } n launches collected := by
  have hpids : table.map Child.pid = r.table.map Child.pid := by
    have hfst := congrArg (List.map Prod.fst) htable
    simpa only [List.map_map, Function.comp_def] using hfst
  exact { h with
    table := htable.trans h.table
    tracked := h.tracked.trans hpids.symm
    pids := hpids ▸ h.pids }

theorem outstanding_append (launches : List Launch) (collected collected' : List Child) :
    Launch.outstanding launches (collected ++ collected') =
      (Launch.outstanding launches collected).filter fun l =>
        l.serial ∉ collected'.map Child.serial := by
  rw [Launch.outstanding, Launch.outstanding, List.filter_filter]
  refine List.filter_congr fun l _ => ?_
  rw [List.map_append, ← Bool.decide_and, decide_eq_decide, List.mem_append, not_or, and_comm]

theorem serial_ne_of_collected (h : r.Accounts n launches collected) :
    ∀ c ∈ collected, c.serial ≠ n := by
  intro c hc hn
  obtain ⟨-, l, hl, -, hserial⟩ := h.launched c hc
  have := h.serial_lt l hl
  omega

theorem serial_lt_concat (h : r.Accounts n launches collected) {l : Launch} (hl : l.serial = n) :
    ∀ l' ∈ launches ++ [l], l'.serial < n + 1 := by
  intro l' hl'
  rcases List.mem_append.mp hl' with hl' | hl'
  · exact Nat.lt_succ_of_lt (h.serial_lt l' hl')
  · rw [List.mem_singleton.mp hl', hl]
    exact Nat.lt_succ_self n

theorem serials_concat (h : r.Accounts n launches collected) {l : Launch} (hl : l.serial = n) :
    ((launches ++ [l]).map Launch.serial).Nodup := by
  rw [List.map_append, List.nodup_append]
  refine ⟨h.serials, List.nodup_singleton _, ?_⟩
  intro serial hserial m hm
  obtain ⟨l', hl', rfl⟩ := List.mem_map.mp hserial
  rw [List.mem_singleton.mp hm, hl]
  exact Nat.ne_of_lt (h.serial_lt l' hl')

theorem launched_concat (h : r.Accounts n launches collected) (l : Launch) :
    ∀ c ∈ collected, c.ended = true ∧
      ∃ l' ∈ launches ++ [l], l'.pid = c.pid ∧ l'.serial = c.serial := by
  intro c hc
  obtain ⟨hended, l', hl', hkey⟩ := h.launched c hc
  exact ⟨hended, l', List.mem_append_left _ hl', hkey⟩

theorem outstanding_concat (h : r.Accounts n launches collected) {l : Launch} (hl : l.serial = n) :
    Launch.outstanding (launches ++ [l]) collected =
      Launch.outstanding launches collected ++ [l] := by
  rw [Launch.outstanding, List.filter_append, ← Launch.outstanding]
  simpa [hl] using h.serial_ne_of_collected

/-- A child that is created for the background is outstanding, and tracked. -/
theorem track (h : r.Accounts n launches collected) {l : Launch}
    (hpid : ∀ c ∈ r.table, c.pid ≠ l.pid) (hserial : l.serial = n) (hl : l.background = true) :
    Accounts (Roster.track { r with table := r.table.start l.pid n } l.pid) (n + 1)
      (launches ++ [l]) collected := by
  have houtstanding := h.outstanding_concat hserial
  refine ⟨h.serial_lt_concat hserial, h.serials_concat hserial, h.once, h.launched_concat l,
    ?_, ?_, ?_, ?_⟩
  · rw [houtstanding, List.map_append, ← h.table]
    change (r.table ++ _).map _ = _
    rw [List.map_append]
    simp [hserial]
  · change r.tracked ++ [l.pid] = (r.table ++ _).map _
    rw [List.map_append, h.tracked]
    rfl
  · change ((r.table ++ _).map _).Nodup
    rw [List.map_append, List.nodup_append]
    refine ⟨h.pids, List.nodup_singleton _, ?_⟩
    intro p hp q hq
    obtain ⟨c, hc, rfl⟩ := List.mem_map.mp hp
    rw [List.mem_singleton.mp hq]
    exact hpid c hc
  · rw [houtstanding]
    intro l' hl'
    rcases List.mem_append.mp hl' with hl' | hl'
    · exact h.background l' hl'
    · rw [List.mem_singleton.mp hl', hl]

/-- A child that is created and collected at once is not outstanding. -/
theorem await (h : r.Accounts n launches collected) {l : Launch} (hserial : l.serial = n) :
    r.Accounts (n + 1) (launches ++ [l]) (collected ++ [⟨l.pid, n, true⟩]) := by
  have houtstanding : Launch.outstanding (launches ++ [l]) (collected ++ [⟨l.pid, n, true⟩]) =
      Launch.outstanding launches collected := by
    have hne : ∀ l' ∈ Launch.outstanding launches collected, l'.serial ≠ n := fun l' hl' =>
      Nat.ne_of_lt (h.serial_lt l' (mem_outstanding.mp hl').1)
    rw [outstanding_append, h.outstanding_concat hserial, List.filter_append,
      List.filter_eq_self.mpr (by simpa using hne)]
    simp [hserial]
  refine ⟨h.serial_lt_concat hserial, h.serials_concat hserial, ?_, ?_, ?_, h.tracked, h.pids, ?_⟩
  · rw [List.map_append, List.nodup_append]
    refine ⟨h.once, List.nodup_singleton _, ?_⟩
    intro serial hcollected m hm
    obtain ⟨c, hc, rfl⟩ := List.mem_map.mp hcollected
    rw [List.mem_singleton.mp hm]
    exact h.serial_ne_of_collected c hc
  · intro c hc
    rcases List.mem_append.mp hc with hc | hc
    · exact h.launched_concat l c hc
    · rw [List.mem_singleton.mp hc]
      exact ⟨rfl, l, List.mem_append_right _ (List.mem_singleton_self l), rfl, hserial⟩
  · rw [houtstanding]
    exact h.table
  · rw [houtstanding]
    exact h.background

theorem outstanding_serials (h : r.Accounts n launches collected) :
    r.table.map Child.serial = (Launch.outstanding launches collected).map Launch.serial := by
  have hsnd := congrArg (List.map Prod.snd) h.table
  simpa only [List.map_map, Function.comp_def] using hsnd

theorem table_serials (h : r.Accounts n launches collected) :
    (r.table.map Child.serial).Nodup := by
  rw [h.outstanding_serials]
  exact h.serials.sublist (List.filter_sublist.map _)

/-- The children that have ended are collected, and the others are left. -/
theorem sweep_eq (h : r.Accounts n launches collected) :
    r.collect = ⟨r.table.filter (fun c => !c.ended),
      (r.table.filter fun c => !c.ended).map Child.pid⟩ ∧
    r.sweep.collected = r.table.filter (·.ended) := by
  obtain ⟨htable, hrunning, hcollected⟩ := ChildTable.sweep_all h.pids
  rw [← h.tracked] at htable hrunning hcollected
  exact ⟨congrArg₂ Roster.mk htable hrunning, hcollected⟩

/-- Those that are collected are outstanding no longer. -/
theorem collect (h : r.Accounts n launches collected) :
    r.collect.Accounts n launches (collected ++ r.sweep.collected) := by
  obtain ⟨hcollect, hswept⟩ := h.sweep_eq
  have hkeys : ∀ c ∈ r.table, ∃ l ∈ Launch.outstanding launches collected,
      l.pid = c.pid ∧ l.serial = c.serial := by
    intro c hc
    have hkey : (c.pid, c.serial) ∈ r.table.map fun c => (c.pid, c.serial) :=
      List.mem_map_of_mem hc
    rw [h.table] at hkey
    obtain ⟨l, hl, hlc⟩ := List.mem_map.mp hkey
    exact ⟨l, hl, Prod.mk.inj hlc⟩
  -- No two children share a serial number, so what is collected can be told by the numbers.
  have hended : ∀ c ∈ r.table,
      (!c.ended) = decide (c.serial ∉ (r.table.filter (·.ended)).map Child.serial) := by
    intro c hc
    have hmem : c.serial ∈ (r.table.filter (·.ended)).map Child.serial ↔ c.ended = true := by
      constructor
      · intro hserial
        obtain ⟨c', hc', heq⟩ := List.mem_map.mp hserial
        obtain ⟨hc', hended⟩ := List.mem_filter.mp hc'
        rwa [← List.inj_on_of_nodup_map h.table_serials hc' hc heq]
      · intro hended
        exact List.mem_map_of_mem (List.mem_filter.mpr ⟨hc, hended⟩)
    cases hce : c.ended <;> simp [hmem, hce]
  rw [hcollect, hswept]
  refine ⟨h.serial_lt, h.serials, ?_, ?_, ?_, rfl, ?_, ?_⟩
  · rw [List.map_append, List.nodup_append]
    refine ⟨h.once, h.table_serials.sublist (List.filter_sublist.map _), ?_⟩
    intro serial hserial m hm
    obtain ⟨c, hc, rfl⟩ := List.mem_map.mp hm
    obtain ⟨l, hl, -, hlc⟩ := hkeys c (List.mem_filter.mp hc).1
    rintro rfl
    exact (mem_outstanding.mp hl).2 (hlc ▸ hserial)
  · intro c hc
    rcases List.mem_append.mp hc with hc | hc
    · exact h.launched c hc
    · obtain ⟨hc, hcended⟩ := List.mem_filter.mp hc
      obtain ⟨l, hl, hkey⟩ := hkeys c hc
      exact ⟨hcended, l, (mem_outstanding.mp hl).1, hkey⟩
  · let left : Pid × Nat → Bool := fun key =>
      decide (key.2 ∉ (r.table.filter (·.ended)).map Child.serial)
    calc (r.table.filter fun c => !c.ended).map (fun c => (c.pid, c.serial))
        = (r.table.map fun c => (c.pid, c.serial)).filter left := by
          rw [List.filter_map, List.filter_congr hended]
          rfl
      _ = ((Launch.outstanding launches collected).map fun l => (l.pid, l.serial)).filter left := by
          rw [h.table]
      _ = (Launch.outstanding launches (collected ++ r.table.filter (·.ended))).map
            fun l => (l.pid, l.serial) := by
          rw [List.filter_map, outstanding_append]
          rfl
  · exact h.pids.sublist (List.filter_sublist.map _)
  · intro l hl
    rw [outstanding_append] at hl
    exact h.background l (List.mem_filter.mp hl).1

/-- Whatever is done with the children, the roster goes on accounting for them. -/
theorem after {t u : Trace} (h : r.Accounts n t.launches t.collected) (hd : Deals r n r' n' u) :
    r'.Accounts n' (Trace.launches (t ++ u)) (Trace.collected (t ++ u)) := by
  rw [Trace.launches_append, Trace.collected_append]
  cases hd with
  | leave hu =>
      rw [hu.launches, hu.collected, List.append_nil, List.append_nil]
      exact h
  | refuse hu =>
      rw [hu.launches, hu.collected, List.append_nil, List.append_nil]
      exact h.attempt
  | @track pid argv v w hpid hargv hv hw =>
      have hlaunches : Trace.launches (v ++ .launched ⟨pid, n, argv, true⟩ :: w) =
          [⟨pid, n, argv, true⟩] := by
        rw [Trace.launches_append, hv.launches]
        exact congrArg (_ :: ·) hw.launches
      have hcollected : Trace.collected (v ++ .launched ⟨pid, n, argv, true⟩ :: w) = [] := by
        rw [Trace.collected_append, hv.collected]
        exact hw.collected
      rw [hlaunches, hcollected, List.append_nil]
      exact h.track (l := ⟨pid, n, argv, true⟩) hpid rfl rfl
  | @await pid argv writing v w hpid hargv hv hw =>
      have hlaunches : Trace.launches (v ++ .launched ⟨pid, n, argv, false⟩ ::
          .childWrote n writing :: .collected ⟨pid, n, true⟩ :: w) = [⟨pid, n, argv, false⟩] := by
        rw [Trace.launches_append, hv.launches]
        exact congrArg (_ :: ·) hw.launches
      have hcollected : Trace.collected (v ++ .launched ⟨pid, n, argv, false⟩ ::
          .childWrote n writing :: .collected ⟨pid, n, true⟩ :: w) = [⟨pid, n, true⟩] := by
        rw [Trace.collected_append, hv.collected]
        exact congrArg (_ :: ·) hw.collected
      rw [hlaunches, hcollected]
      exact h.await (l := ⟨pid, n, argv, false⟩) rfl
  | @finish pid _ hu =>
      rw [hu.launches, hu.collected, List.append_nil, List.append_nil]
      refine h.with_table ?_
      rw [ChildTable.finish, List.map_map]
      refine List.map_congr_left fun c _ => ?_
      simp only [Function.comp_apply]
      split <;> rfl
  | @collect table _ htable hlaunches hcollected =>
      rw [hlaunches, hcollected, List.append_nil]
      have hkeys : table.map (fun c => (c.pid, c.serial)) =
          r.table.map fun c => (c.pid, c.serial) := by
        rcases htable with rfl | rfl
        · rfl
        · rw [ChildTable.finishAll, List.map_map]
          rfl
      exact (h.with_table hkeys).collect

end Roster.Accounts

variable {σ α : Type} {r r' : Roster} {n n' : Nat} {launches : List Launch}
  {collected : List Child} {t u : Trace}

/-- Words are passed to every child that is created. One that is waited for is collected next, and
its pid is not tracked then. -/
theorem Deals.of_mem_launches (h : r.Accounts n launches collected) (hd : Deals r n r' n' u)
    {l : Launch} (hl : l ∈ u.launches) :
    IsPassable l.argv ∧ (l.background = false → l.pid ∉ r.tracked ∧ r' = r ∧ ∃ writing,
      [.launched l, .childWrote l.serial writing, .collected ⟨l.pid, l.serial, true⟩] <:+: u) := by
  cases hd with
  | leave hu | refuse hu | finish hu =>
      rw [hu.launches] at hl
      cases hl
  | collect htable hlaunches hcollected =>
      rw [hlaunches] at hl
      cases hl
  | track hpid hargv hv hw =>
      rw [Trace.launches_append, hv.launches] at hl
      rcases List.mem_cons.mp hl with rfl | hl
      · exact ⟨hargv, nofun⟩
      · rw [← Trace.launches, hw.launches] at hl
        cases hl
  | @await pid argv writing v w hpid hargv hv hw =>
      rw [Trace.launches_append, hv.launches] at hl
      rcases List.mem_cons.mp hl with rfl | hl
      · refine ⟨hargv, fun _ => ⟨?_, rfl, writing, ?_⟩⟩
        · rw [h.tracked]
          intro hmem
          obtain ⟨c, hc, hcp⟩ := List.mem_map.mp hmem
          exact hpid c hc hcp
        · exact ⟨v, w, by simp⟩
      · change l ∈ Trace.launches w at hl
        rw [hw.launches] at hl
        cases hl

/-! ## Commands that create no child -/

variable {host : Host}

namespace Shell

theorem leavesChildren_launch {argv : List String} (hargv : ¬ IsPassable argv) (line : String)
    (background : Bool) : LeavesChildren (launch host argv line background : Action σ Unit) := by
  intro s
  rw [run_launch_of_not_isPassable hargv]
  exact ⟨rfl, rfl, rfl, rfl⟩

end Shell

variable [OutputStream σ]

theorem Task.leavesChildren_ofWords {argv : List String} (hargv : ¬ IsPassable argv)
    (line : String) (background : Bool) :
    LeavesChildren ((ofWords argv line background).action host : Action σ Unit) := by
  unfold ofWords
  split
  · exact .bind (.bind (leavesChildren_record _) fun _ => leavesChildren_pure _)
      fun _ => Shell.leavesChildren_writeEntries
  · exact .bind (leavesChildren_emit _) fun _ =>
      .bind (Shell.leavesChildren_launch hargv line background) fun _ =>
        .bind (leavesChildren_record line) fun _ => leavesChildren_pure _

theorem Task.leavesChildren_ofText {text : String}
    (hargv : ¬ IsPassable (Command.ofLine text).argv) :
    LeavesChildren ((ofText text).action host : Action σ Unit) := by
  unfold ofText
  split
  · exact leavesChildren_pure ()
  · exact leavesChildren_ofWords hargv text _

/-- A host of eight pids, which gives a new child the first one that is free. -/
def Host.reusing : Host where
  fork _ table :=
    match (List.range' 1 8).find? fun pid => table.all (·.pid ≠ pid) with
    | some pid => .ok pid
    | none => .error ⟨11⟩
  exec argv := some { output := Text.utf8 (" ".intercalate argv) }

theorem Host.givesFreePids_reusing : Host.reusing.GivesFreePids := by
  intro _ table pid hfork c hc
  simp only [Host.reusing] at hfork
  split at hfork
  · rename_i hfree
    cases hfork
    have hall := List.find?_some hfree
    simpa using List.all_eq_true.mp hall c hc
  · cases hfork

namespace Shell

variable {settings : Settings} {stream : σ} {s : Shell σ}

theorem roster_evaluate_of_not_isPassable {limit : Nat} {line text : String}
    (htext : s.Stores limit line text) (hargv : ¬ IsPassable (Command.ofLine text).argv) :
    ((evaluate host limit line).run s).shell.roster = s.roster := by
  obtain ⟨hshell, -⟩ := launches_evaluate host limit line s
  rw [hshell, Plan.task_eq_of_stores (stores_iff.mp htext)]
  exact (Task.leavesChildren_ofText hargv s).1

/-- Whatever a shell serves, its roster accounts for the children. -/
theorem Serves.accounts (h : Serves Host.GivesFreePids (ofSettings settings stream) s t) :
    s.roster.Accounts s.forks t.launches t.collected := by
  induction h with
  | refl => exact .empty
  | step hhost limit r _ ih => exact ih.after (r.deals_action hhost limit _)

/-- Between two requests the tracked pids are those of the children that have been created and not
collected, each once. These are all in the background, and each pid addresses the child for which it
is tracked. No child is collected twice. The next one that is waited for has a pid that is not
tracked, and is itself the one that is collected. Collecting takes all children that have ended.
Words that cannot be handed to a program add nothing. -/
theorem Serves.tracked_eq (h : Serves Host.GivesFreePids (ofSettings settings stream) s t) :
    let left := Launch.outstanding t.launches t.collected
    (s.roster.tracked.Nodup ∧ s.roster.tracked = left.map Launch.pid) ∧
    (∀ l ∈ left, l.background = true ∧
      (s.roster.table.find? l.pid).map Child.serial = some l.serial) ∧
    (∀ l ∈ t.launches, l.background = false → l.serial ∈ t.collected.map Child.serial) ∧
    (t.launches.map Launch.serial).Nodup ∧ (t.collected.map Child.serial).Nodup ∧
    (∀ c ∈ t.collected, c.ended = true ∧
      ∃ l ∈ t.launches, l.pid = c.pid ∧ l.serial = c.serial) ∧
    (∀ (host : Host) (limit : Nat) (r : Request), host.GivesFreePids →
      let o := (r.action host limit).run s
      ∀ l ∈ o.trace.launches, IsPassable l.argv ∧ (l.background = false →
        l.pid ∉ s.roster.tracked ∧ o.shell.roster = s.roster ∧ ∃ writing,
          [.launched l, .childWrote l.serial writing, .collected ⟨l.pid, l.serial, true⟩] <:+:
            o.trace)) ∧
    ((collect.run s).trace.collected = s.roster.table.filter Child.ended ∧
      (collect.run s).shell.roster.table = s.roster.table.filter fun c => !c.ended) ∧
    (∀ (host : Host) (argv : List String) (line : String) (background : Bool),
      ¬ IsPassable argv → ((execute host argv line background).run s).shell.roster = s.roster) ∧
    ∀ (host : Host) (limit : Nat) (line text : String), s.Stores limit line text →
      ¬ IsPassable (Command.ofLine text).argv →
        ((evaluate host limit line).run s).shell.roster = s.roster := by
  intro left
  have ha := h.accounts
  have hpids : left.map Launch.pid = s.roster.table.map Child.pid := by
    have hfst := congrArg (List.map Prod.fst) ha.table
    simpa only [List.map_map, Function.comp_def] using hfst.symm
  refine ⟨⟨?_, ?_⟩, ?_, ?_, ha.serials, ha.once, ha.launched, ?_, ?_, ?_, ?_⟩
  · rw [ha.tracked]
    exact ha.pids
  · rw [ha.tracked, hpids]
  · intro l hl
    refine ⟨ha.background l hl, ?_⟩
    have hkey : (l.pid, l.serial) ∈ left.map fun l => (l.pid, l.serial) := List.mem_map_of_mem hl
    rw [← ha.table] at hkey
    obtain ⟨c, hc, hcl⟩ := List.mem_map.mp hkey
    obtain ⟨hpid, hserial⟩ := Prod.mk.inj hcl
    rw [← hpid, ChildTable.find?_of_mem ha.pids hc, Option.map_some, hserial]
  · intro l hl hforeground
    by_contra hserial
    have hbackground := ha.background l (Roster.Accounts.mem_outstanding.mpr ⟨hl, hserial⟩)
    rw [hforeground] at hbackground
    cases hbackground
  · intro host limit r hhost o l hl
    exact (r.deals_action hhost limit s).of_mem_launches ha hl
  · obtain ⟨hcollect, hswept⟩ := ha.sweep_eq
    rw [run_collect]
    refine ⟨?_, ?_⟩
    · rw [← hswept]
      exact Trace.collected_collected _
    · exact congrArg Roster.table hcollect
  · intro host argv line background hargv
    rw [execute_eq]
    exact (Task.leavesChildren_ofWords hargv line background s).1
  · intro host limit line text htext hargv
    exact roster_evaluate_of_not_isPassable htext hargv

/-- The pid of a child that is collected is given to the next one. A tracked child ends, and is
collected while another one runs on. -/
theorem Serves.tracked_eq_reused :
    ∃ (s : Shell Limited) (t : Trace),
      Serves Host.GivesFreePids (ofSettings {} Limited.unlimited) s t ∧
      t.launches.map (fun l => (l.pid, l.serial, l.background)) =
        [(1, 0, true), (2, 1, true), (1, 2, false), (1, 3, true)] ∧
      s.roster.tracked = [2, 1] ∧ s.roster.tracked.Nodup ∧
      s.roster.tracked = (Launch.outstanding t.launches t.collected).map Launch.pid ∧
      t.collected.map Child.serial = [0, 2] := by
  have hhost : Host.reusing.GivesFreePids := Host.givesFreePids_reusing
  have hnew := Serves.refl (P := Host.GivesFreePids) (s := ofSettings {} Limited.unlimited)
  have hs := (((((hnew.step hhost 64 (.evaluate "sleep 1 &")).step hhost 64
    (.evaluate "sleep 2 &")).step hhost 64 (.finish 1)).step hhost 64 .collect).step hhost 64
    (.evaluate "true")).step hhost 64 (.evaluate "sleep 3 &")
  obtain ⟨⟨hnodup, htracked⟩, -⟩ := hs.tracked_eq
  exact ⟨_, _, hs, by decide +kernel, by decide +kernel, hnodup, htracked, by decide +kernel⟩

end Shell

end LineShell
