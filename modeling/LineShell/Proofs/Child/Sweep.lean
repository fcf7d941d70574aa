import Mathlib.Data.List.Basic
import LineShell.Child.Roster

/-!
# Going through tracked pids

Asking for a child changes nothing for the others. So a sweep sorts the pids that it is given by
whether their child runs at the beginning, wherever in the list they stand and however often, and
takes out of the table the children that have ended.
-/

namespace LineShell.ChildTable

variable {t : ChildTable} {p q : Pid}

/-- Whether the child of a pid still runs. -/
def runs (t : ChildTable) (p : Pid) : Bool :=
  (t.find? p).any fun c => !c.ended

/-! ## Single operations -/

theorem pid_of_find? {c : Child} (h : t.find? p = some c) : c.pid = p := by
  simpa [find?] using List.find?_some h

theorem mem_of_find? {c : Child} (h : t.find? p = some c) : c ∈ t :=
  List.mem_of_find?_eq_some h

theorem find?_eq_none_iff : t.find? p = none ↔ ∀ c ∈ t, c.pid ≠ p := by
  simp [find?]

theorem find?_start (t : ChildTable) (q : Pid) (serial : Nat) (p : Pid) :
    (t.start q serial).find? p =
      (t.find? p).or (if q = p then some ⟨q, serial, false⟩ else none) := by
  rw [start, find?, List.find?_append]
  by_cases h : q = p <;> simp [h, find?]

theorem find?_finish (t : ChildTable) (q p : Pid) :
    (t.finish q).find? p =
      (t.find? p).map fun c => if c.pid = q then { c with ended := true } else c := by
  rw [finish, find?, List.find?_map]
  have hpid : ((fun c : Child => decide (c.pid = p)) ∘ fun c =>
      if c.pid = q then { c with ended := true } else c) = fun c => decide (c.pid = p) := by
    funext c
    simp only [Function.comp_apply]
    split <;> rfl
  rw [hpid]
  rfl

theorem find?_filter_ne (t : ChildTable) (q p : Pid) :
    find? (t.filter (·.pid ≠ q)) p = if p = q then none else t.find? p := by
  rw [find?, List.find?_filter]
  split
  · rename_i h
    subst h
    simp
  · rename_i h
    rw [find?]
    congr 1
    funext c
    by_cases hc : c.pid = p
    · simp [hc, h]
    · simp [hc]

theorem runs_start (t : ChildTable) (q : Pid) (serial : Nat) (p : Pid) (h : t.find? q = none) :
    (t.start q serial).runs p = (decide (q = p) || t.runs p) := by
  rw [runs, find?_start, runs]
  by_cases hq : q = p
  · subst hq
    simp [h]
  · simp [hq]

theorem runs_finish (t : ChildTable) (q p : Pid) :
    (t.finish q).runs p = (!decide (q = p) && t.runs p) := by
  rw [runs, find?_finish, runs]
  cases h : t.find? p with
  | none => simp
  | some c =>
      have hc := pid_of_find? h
      by_cases hq : q = p
      · simp [hc, hq]
      · simp [hc, hq, Ne.symm hq]

theorem pid_of_mem_finish {c : Child} (h : c ∈ t.finish q) : ∃ c' ∈ t, c'.pid = c.pid := by
  obtain ⟨c', hc', rfl⟩ := List.mem_map.mp h
  refine ⟨c', hc', ?_⟩
  split <;> rfl

/-! ## Asking for a child -/

/-- A child that runs is left alone. Else there is no child of the pid left. -/
theorem table_poll (t : ChildTable) (p : Pid) :
    (t.poll p).2 = if t.runs p then t else t.filter (·.pid ≠ p) := by
  rw [poll, runs]
  cases h : t.find? p with
  | none =>
      have hall := find?_eq_none_iff.mp h
      have hself : t.filter (·.pid ≠ p) = t := List.filter_eq_self.mpr (by simpa using hall)
      simpa using hself.symm
  | some c =>
      cases hended : c.ended <;> simp [hended]

/-- Nothing starts or ends because a child is asked for. -/
theorem runs_poll (t : ChildTable) (p q : Pid) : (t.poll p).2.runs q = t.runs q := by
  rw [table_poll]
  split
  · rfl
  · rename_i hp
    by_cases hq : q = p
    · subst hq
      rw [runs, find?_filter_ne, if_pos rfl]
      simpa using hp
    · rw [runs, find?_filter_ne, if_neg hq, runs]

theorem runs_await (t : ChildTable) (q p : Pid) :
    (t.await q).2.runs p = (!decide (q = p) && t.runs p) := by
  rw [await, runs_poll, runs_finish]

/-! ## Sweeps -/

/-- The first pid is asked for, and then the others. -/
theorem sweep_cons (t : ChildTable) (p : Pid) (ps : List Pid) :
    t.sweep (p :: ps) =
      let rest := (t.poll p).2.sweep ps
      { table := rest.table
        running := if t.runs p then p :: rest.running else rest.running
        gone := if t.runs p then rest.gone else p :: rest.gone
        collected := ((t.find? p).filter (·.ended)).toList ++ rest.collected } := by
  rw [sweep, poll, runs]
  cases t.find? p with
  | none => rfl
  | some c => cases hended : c.ended <;> simp [hended, Option.filter]

theorem running_sweep (t : ChildTable) (ps : List Pid) :
    (t.sweep ps).running = ps.filter t.runs := by
  induction ps generalizing t with
  | nil => rfl
  | cons p ps ih =>
      have hruns : (t.poll p).2.runs = t.runs := funext (runs_poll t p)
      rw [sweep_cons, List.filter_cons]
      simp only [ih, hruns]

theorem gone_sweep (t : ChildTable) (ps : List Pid) :
    (t.sweep ps).gone = ps.filter fun p => !t.runs p := by
  induction ps generalizing t with
  | nil => rfl
  | cons p ps ih =>
      have hruns : (t.poll p).2.runs = t.runs := funext (runs_poll t p)
      rw [sweep_cons, List.filter_cons]
      simp only [ih, hruns]
      cases t.runs p <;> rfl

/-- Of the children that are asked for, those that run are left. -/
theorem table_sweep (t : ChildTable) (ps : List Pid) :
    (t.sweep ps).table = t.filter fun c => decide (c.pid ∉ ps) || t.runs c.pid := by
  induction ps generalizing t with
  | nil => exact (List.filter_eq_self.mpr fun c _ => by simp).symm
  | cons p ps ih =>
      have hruns : (t.poll p).2.runs = t.runs := funext (runs_poll t p)
      rw [sweep_cons]
      simp only [ih, hruns]
      rw [table_poll]
      split
      · rename_i hp
        refine List.filter_congr fun c _ => ?_
        by_cases hc : c.pid = p
        · simp [hc, hp]
        · simp [hc]
      · rename_i hp
        rw [List.filter_filter]
        refine List.filter_congr fun c _ => ?_
        by_cases hc : c.pid = p
        · simp [hc, hp]
        · simp [hc]

theorem runs_sweep (t : ChildTable) (ps : List Pid) (q : Pid) :
    (t.sweep ps).table.runs q = t.runs q := by
  induction ps generalizing t with
  | nil => rfl
  | cons p ps ih =>
      rw [sweep_cons]
      exact (ih _).trans (runs_poll t p q)

/-- Only children that have ended, and that are asked for, are collected. -/
theorem of_mem_collected_sweep {ps : List Pid} {c : Child} (h : c ∈ (t.sweep ps).collected) :
    c ∈ t ∧ c.pid ∈ ps ∧ t.runs c.pid = false := by
  induction ps generalizing t with
  | nil => cases h
  | cons p ps ih =>
      rw [sweep_cons] at h
      rcases List.mem_append.mp h with h | h
      · obtain ⟨hfind, hended⟩ : t.find? p = some c ∧ c.ended = true := by simpa using h
        obtain rfl := pid_of_find? hfind
        refine ⟨mem_of_find? hfind, List.mem_cons_self, ?_⟩
        rw [runs, hfind, Option.any_some, hended]
        rfl
      · obtain ⟨hmem, hpid, hended⟩ := ih h
        rw [runs_poll] at hended
        refine ⟨?_, List.mem_cons_of_mem p hpid, hended⟩
        rw [table_poll] at hmem
        split at hmem
        · exact hmem
        · exact (List.mem_filter.mp hmem).1

/-- A sweep of pids whose children all run finds them so. -/
theorem sweep_of_runs {ps : List Pid} (h : ∀ p ∈ ps, t.runs p = true) :
    t.sweep ps = { table := t, running := ps, gone := [], collected := [] } := by
  induction ps with
  | nil => rfl
  | cons p ps ih =>
      have hp : t.runs p = true := h p List.mem_cons_self
      have hended : ((t.find? p).filter (·.ended)) = none := by
        rw [runs] at hp
        cases hfind : t.find? p with
        | none => rfl
        | some c => simp_all
      rw [sweep_cons, table_poll, if_pos hp, ih fun q hq => h q (List.mem_cons_of_mem p hq)]
      simp only [hp, hended, if_true]
      rfl

/-! ## Sweeps of a whole table -/

theorem find?_of_mem (h : (t.map Child.pid).Nodup) {c : Child} (hc : c ∈ t) :
    t.find? c.pid = some c := by
  induction t with
  | nil => cases hc
  | cons d t ih =>
      rw [List.map_cons, List.nodup_cons] at h
      rcases List.mem_cons.mp hc with rfl | hc
      · simp [find?]
      · have hne : d.pid ≠ c.pid := fun hd => h.1 (hd ▸ List.mem_map_of_mem hc)
        rw [find?, List.find?_cons_of_neg (by simpa using hne)]
        exact ih h.2 hc

theorem runs_of_mem (h : (t.map Child.pid).Nodup) {c : Child} (hc : c ∈ t) :
    t.runs c.pid = !c.ended := by
  rw [runs, find?_of_mem h hc, Option.any_some]

/-- A pid that is asked for twice is answered only once. -/
theorem collected_sweep {ps : List Pid} (h : ps.Nodup) :
    (t.sweep ps).collected = ps.filterMap fun p => (t.find? p).filter (·.ended) := by
  induction ps generalizing t with
  | nil => rfl
  | cons p ps ih =>
      obtain ⟨hp, hps⟩ := List.nodup_cons.mp h
      have hrest : ∀ q ∈ ps, (t.poll p).2.find? q = t.find? q := by
        intro q hq
        rw [table_poll]
        split
        · rfl
        · rw [find?_filter_ne, if_neg (ne_of_mem_of_not_mem hq hp)]
      have hcollected : ((t.poll p).2.sweep ps).collected =
          ps.filterMap fun q => (t.find? q).filter (·.ended) := by
        rw [ih hps]
        exact List.filterMap_congr fun q hq => by rw [hrest q hq]
      rw [sweep_cons, List.filterMap_cons]
      simp only [hcollected]
      cases (t.find? p).filter (·.ended) <;> rfl

/-- If all pids of a table are asked for, the children that have ended are collected, and the others
are left. -/
theorem sweep_all (h : (t.map Child.pid).Nodup) :
    (t.sweep (t.map Child.pid)).table = t.filter (fun c => !c.ended) ∧
    (t.sweep (t.map Child.pid)).running = (t.filter fun c => !c.ended).map Child.pid ∧
    (t.sweep (t.map Child.pid)).collected = t.filter (·.ended) := by
  refine ⟨?_, ?_, ?_⟩
  · rw [table_sweep]
    refine List.filter_congr fun c hc => ?_
    have hpid : c.pid ∈ t.map Child.pid := List.mem_map_of_mem hc
    simp [hpid, runs_of_mem h hc]
  · rw [running_sweep, List.filter_map]
    exact congrArg _ (List.filter_congr fun c hc => runs_of_mem h hc)
  · rw [collected_sweep h, List.filterMap_map, ← List.filterMap_eq_filter]
    refine List.filterMap_congr fun c hc => ?_
    rw [Function.comp_apply, find?_of_mem h hc]
    cases hended : c.ended <;> simp [hended, Option.filter, Option.guard]

end LineShell.ChildTable
