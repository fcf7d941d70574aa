import Mathlib.Algebra.GroupWithZero.Nat
import Mathlib.Data.List.Induction
import LineShell.Proofs.Child.Sweep

/-!
# Nothing that is tracked is lost

Children start, end, and are waited for by others, and pids are tracked, once or more often, in any
order. What has happened to a child says whether it still runs; collecting forgets a tracked pid
just if its child does not, and answers how many it has forgotten.
-/

namespace LineShell.Roster

open ChildTable (runs)

/-! ## Runs of events -/

/-- The roster after events in turn. -/
def afterAll (r : Roster) (events : List Event) : Roster :=
  events.foldl (fun r e => (r.after e).1) r

/-- What the collections among some events answer. -/
def yields (r : Roster) : List Event → List Nat
  | [] => []
  | .collect :: es => (r.after .collect).2 :: yields (r.after .collect).1 es
  | e :: es => yields (r.after e).1 es

namespace Event

/-- The pid that is tracked. -/
def tracked? : Event → Option Pid
  | track p => some p
  | _ => none

/-- The pid under which a child is created. -/
def started? : Event → Option Pid
  | start p _ => some p
  | _ => none

/-- Whether something happens to the child of a pid. -/
def concerns (p : Pid) : Event → Bool
  | start q _ | finish q | await q => q = p
  | track _ | collect => false

end Event

/-- Whether the child of a pid still runs: its start is the last that has happened to it. -/
def stillRuns (events : List Event) (p : Pid) : Bool :=
  match events.reverse.find? (Event.concerns p) with
  | some (.start _ _) => true
  | _ => false

theorem afterAll_append (r : Roster) (es es' : List Event) :
    r.afterAll (es ++ es') = (r.afterAll es).afterAll es' :=
  List.foldl_append

theorem afterAll_concat (r : Roster) (es : List Event) (e : Event) :
    r.afterAll (es ++ [e]) = ((r.afterAll es).after e).1 :=
  afterAll_append r es [e]

/-! ## What still runs -/

theorem stillRuns_concat (es : List Event) (e : Event) (p : Pid) :
    stillRuns (es ++ [e]) p = if e.concerns p then e.started?.isSome else stillRuns es p := by
  rw [stillRuns, List.reverse_concat, List.find?_cons]
  cases e.concerns p with
  | false => rfl
  | true => cases e <;> rfl

/-- An event changes whether the child of a pid runs only if it happens to that child. -/
theorem runs_after {r : Roster} {e : Event} (h : ∀ q, e.started? = some q → r.table.find? q = none)
    (p : Pid) :
    (r.after e).1.table.runs p = if e.concerns p then e.started?.isSome else r.table.runs p := by
  cases e with
  | start q serial =>
      rw [after, ChildTable.runs_start _ _ _ _ (h q rfl)]
      by_cases hq : q = p <;> simp [Event.concerns, Event.started?, hq]
  | finish q =>
      rw [after, ChildTable.runs_finish]
      by_cases hq : q = p <;> simp [Event.concerns, Event.started?, hq]
  | await q =>
      rw [after, ChildTable.runs_await]
      by_cases hq : q = p <;> simp [Event.concerns, Event.started?, hq]
  | track q => rfl
  | collect => exact ChildTable.runs_sweep r.table r.tracked p

/-- A child after an event is one from before, maybe ended meanwhile, or has just been created. -/
theorem pid_of_mem_after {r : Roster} {e : Event} {c : Child} (h : c ∈ (r.after e).1.table) :
    (∃ c' ∈ r.table, c'.pid = c.pid) ∨ e.started? = some c.pid := by
  cases e with
  | start q serial =>
      rcases List.mem_append.mp h with h | h
      · exact .inl ⟨c, h, rfl⟩
      · rw [List.mem_singleton.mp h]
        exact .inr rfl
  | finish q => exact .inl (ChildTable.pid_of_mem_finish h)
  | await q =>
      rw [after, ChildTable.await, ChildTable.table_poll] at h
      split at h
      · exact .inl (ChildTable.pid_of_mem_finish h)
      · exact .inl (ChildTable.pid_of_mem_finish (List.mem_filter.mp h).1)
  | track q => exact .inl ⟨c, h, rfl⟩
  | collect =>
      rw [after, collect, sweep, ChildTable.table_sweep] at h
      exact .inl ⟨c, (List.mem_filter.mp h).1, rfl⟩

/-- The table agrees with what has happened to the children. -/
structure Reflects (r : Roster) (events : List Event) : Prop where
  runs : ∀ p, r.table.runs p = stillRuns events p
  started : ∀ c ∈ r.table, c.pid ∈ events.filterMap Event.started?

theorem Reflects.after {r : Roster} {events : List Event} (h : Reflects r events) (e : Event)
    (hpid : ∀ p, e.started? = some p → p ∉ events.filterMap Event.started?) :
    Reflects (r.after e).1 (events ++ [e]) := by
  have hfresh : ∀ p, e.started? = some p → r.table.find? p = none := by
    intro p hp
    refine ChildTable.find?_eq_none_iff.mpr fun c hc hcp => hpid p hp ?_
    rw [← hcp]
    exact h.started c hc
  constructor
  · intro p
    rw [runs_after hfresh, stillRuns_concat, h.runs]
  · intro c hc
    rw [List.filterMap_append, List.mem_append]
    rcases pid_of_mem_after hc with ⟨c', hc', hpid'⟩ | hstarted
    · rw [← hpid']
      exact .inl (h.started c' hc')
    · exact .inr (List.mem_filterMap.mpr ⟨e, List.mem_singleton_self e, hstarted⟩)

/-- If no pid is given twice, the table agrees with all that has happened. -/
theorem reflects_afterAll {events : List Event} (h : (events.filterMap Event.started?).Nodup) :
    Reflects (empty.afterAll events) events := by
  induction events using List.reverseRecOn with
  | nil => exact ⟨fun _ => rfl, nofun⟩
  | append_singleton es e ih =>
      rw [List.filterMap_append, List.nodup_append] at h
      obtain ⟨hes, -, hdisjoint⟩ := h
      rw [afterAll_concat]
      refine (ih hes).after e fun p hp hmem => hdisjoint p hmem p ?_ rfl
      exact List.mem_filterMap.mpr ⟨e, List.mem_singleton_self e, hp⟩

/-! ## The balance -/

/-- What a collection forgets and what it leaves are all that was tracked before. -/
theorem length_gone_add_length_running (r : Roster) :
    r.sweep.gone.length + r.sweep.running.length = r.tracked.length := by
  rw [sweep, ChildTable.gone_sweep, ChildTable.running_sweep, ← List.countP_eq_length_filter,
    ← List.countP_eq_length_filter, Nat.add_comm,
    List.length_eq_countP_add_countP r.table.runs (l := r.tracked)]
  simp only [Bool.not_eq_true, Bool.decide_eq_false]

/-- What has been forgotten and what is left are all that has been tracked. -/
theorem sum_yields_add_outstanding (r : Roster) (events : List Event) :
    (r.yields events).sum + (r.afterAll events).outstanding =
      r.outstanding + (events.filterMap Event.tracked?).length := by
  induction events generalizing r with
  | nil => simp [yields, afterAll]
  | cons e es ih =>
      have hrest := ih (r.after e).1
      cases e with
      | collect =>
          change (yields r.collect es).sum + (r.collect.afterAll es).outstanding =
            r.sweep.running.length + (es.filterMap Event.tracked?).length at hrest
          change (r.sweep.gone.length :: yields r.collect es).sum +
            (r.collect.afterAll es).outstanding =
              r.tracked.length + (es.filterMap Event.tracked?).length
          rw [List.sum_cons, Nat.add_assoc, hrest, ← r.length_gone_add_length_running,
            Nat.add_assoc]
      | track p =>
          change _ = (r.tracked ++ [p]).length + _ at hrest
          change _ = r.tracked.length + (p :: es.filterMap Event.tracked?).length
          rw [List.length_append, List.length_singleton] at hrest
          rw [List.length_cons, Nat.add_comm _ 1, ← Nat.add_assoc]
          exact hrest
      | start p serial => exact hrest
      | finish p => exact hrest
      | await p => exact hrest

/-- Only events that track a pid put one on the list. -/
theorem mem_tracked_afterAll {r : Roster} {events : List Event} {p : Pid}
    (h : p ∈ (r.afterAll events).tracked) :
    p ∈ r.tracked ∨ p ∈ events.filterMap Event.tracked? := by
  induction events generalizing r with
  | nil => exact .inl h
  | cons e es ih =>
      rcases ih h with h | h
      · cases e with
        | track q =>
            rcases List.mem_append.mp h with h | h
            · exact .inl h
            · exact .inr (List.mem_singleton.mp h ▸ List.mem_cons_self)
        | collect =>
            change p ∈ (ChildTable.sweep r.table r.tracked).running at h
            rw [ChildTable.running_sweep] at h
            exact .inl (List.mem_filter.mp h).1
        | start q serial => exact .inl h
        | finish q => exact .inl h
        | await q => exact .inl h
      · refine .inr ?_
        rw [List.filterMap_cons]
        split
        · exact h
        · exact List.mem_cons_of_mem _ h

/-- Whatever happens to children, and whichever of their pids are tracked, once or more often: what
the collections answer, and what is tracked still, add up to all that has been tracked. A collection
keeps the tracked pids whose child still runs, in their order, and answers how many others there
were. Another one finds nothing to do if no child has ended since, and no pid of one that had ended
before has been tracked since. Only children that are tracked and have ended are taken out of the
table. -/
theorem collect_keeps_running (events : List Event)
    (hpids : (events.filterMap Event.started?).Nodup) :
    let r := empty.afterAll events
    let o := r.after .collect
    (empty.yields events).sum + r.outstanding = (events.filterMap Event.tracked?).length ∧
    o.1.tracked = r.tracked.filter (stillRuns events) ∧
    o.2 = r.tracked.countP (fun p => !stillRuns events p) ∧
    (∀ later, ((events ++ later).filterMap Event.started?).Nodup →
      (∀ p, stillRuns events p → stillRuns (events ++ .collect :: later) p) →
      (∀ p, .track p ∈ later → stillRuns (events ++ .collect :: later) p) →
      (o.1.afterAll later).after .collect = (o.1.afterAll later, 0)) ∧
    (∀ c ∈ r.sweep.collected, c ∈ r.table ∧ c.pid ∈ r.tracked ∧ stillRuns events c.pid = false) ∧
    o.1.table = r.table.filter fun c => decide (c.pid ∉ r.tracked) || stillRuns events c.pid := by
  intro r o
  have hruns : r.table.runs = stillRuns events := funext (reflects_afterAll hpids).runs
  have htracked : o.1.tracked = r.tracked.filter (stillRuns events) := by
    rw [← hruns]
    exact ChildTable.running_sweep r.table r.tracked
  refine ⟨?_, htracked, ?_, ?_, ?_, ?_⟩
  · rw [sum_yields_add_outstanding]
    exact Nat.zero_add _
  · change r.sweep.gone.length = _
    rw [sweep, ChildTable.gone_sweep, hruns, List.countP_eq_length_filter]
  · intro later hpids' hrunning htracking
    have hlater : o.1.afterAll later = empty.afterAll (events ++ .collect :: later) := by
      rw [afterAll_append]
      rfl
    have hreflects : Reflects (o.1.afterAll later) (events ++ .collect :: later) := by
      rw [hlater]
      refine reflects_afterAll ?_
      rw [List.filterMap_append] at hpids' ⊢
      exact hpids'
    -- Each tracked pid is left from the first collection or tracked since, so its child runs.
    have hall : ∀ p ∈ (o.1.afterAll later).tracked, (o.1.afterAll later).table.runs p = true := by
      intro p hp
      rw [hreflects.runs]
      rcases mem_tracked_afterAll hp with hp | hp
      · rw [htracked] at hp
        exact hrunning p (List.mem_filter.mp hp).2
      · obtain ⟨e, he, hep⟩ := List.mem_filterMap.mp hp
        cases e <;> cases hep
        exact htracking p he
    have hsweep := ChildTable.sweep_of_runs hall
    rw [after, collect, sweep, hsweep]
    rfl
  · intro c hc
    obtain ⟨hmem, hpid, hended⟩ := ChildTable.of_mem_collected_sweep hc
    exact ⟨hmem, hpid, hruns ▸ hended⟩
  · rw [← hruns]
    exact ChildTable.table_sweep r.table r.tracked

/-- Of three children one is tracked twice, and ends, and so does one that is not tracked at all. -/
theorem collect_keeps_running_tracked_twice :
    let events : List Event :=
      [.start 7 0, .start 8 1, .start 9 2, .track 8, .track 7, .track 8, .finish 8, .finish 9]
    let o := (empty.afterAll events).after .collect
    (events.filterMap Event.started?).Nodup ∧ o.1.tracked = [7] ∧ o.2 = 2 ∧
      o.1.table = [⟨7, 0, false⟩, ⟨9, 2, true⟩] ∧ o.1.after .collect = (o.1, 0) := by
  intro events o
  have hpids : (events.filterMap Event.started?).Nodup := by decide
  obtain ⟨-, htracked, hcount, hagain, -, htable⟩ := collect_keeps_running events hpids
  exact ⟨hpids, htracked, hcount, htable,
    hagain [] (by simpa using hpids) (fun p hp => by simpa) nofun⟩

end LineShell.Roster
