import LineShell.Proofs.Dialogue.Recital
import LineShell.Proofs.Shell.Faults
import LineShell.Proofs.Shell.Reachable

/-!
# Dialogues over inputs of the same lines

Two inputs of the same lines can differ in their bytes, and so in the portions that are taken of
them. A dialogue does not see the difference if the shell alone reads the input: because it has
taken all of it, or because no line runs a program that reads. Then every turn is the same, whatever
the stream is and whether children can be created or not.
-/

namespace LineShell

open LineShell.Action

variable {σ α β : Type} {P : String → Prop}

theorem Trace.taken_append_eq_zero {t u : Trace} (ht : t.taken = 0) (hu : u.taken = 0) :
    Trace.taken (t ++ u) = 0 := by
  rw [taken_append, ht, hu]

/-! ## Inputs that have been taken -/

namespace Dialogue

variable [OutputStream σ]

end Dialogue

/-! ## Actions that are the same -/

namespace Action

/-- On shells that hold such texts the two actions come to the same. They take nothing of the input,
and what is held are such texts again. -/
def SameOn (P : String → Prop) (x y : Action σ α) : Prop :=
  ∀ s : Shell σ, s.Stocks P →
    x.run s = y.run s ∧ (x.run s).trace.taken = 0 ∧ (x.run s).shell.Stocks P

theorem SameOn.bind {x y : Action σ α} {f g : α → Action σ β} (hxy : SameOn P x y)
    (hfg : ∀ a, SameOn P (f a) (g a)) : SameOn P (x >>= f) (y >>= g) := by
  intro s hs
  obtain ⟨hrun, htaken, hstocks⟩ := hxy s hs
  rw [run_bind, run_bind, ← hrun]
  generalize x.run s = o at htaken hstocks
  obtain ⟨s', t, e | a⟩ := o
  · exact ⟨rfl, htaken, hstocks⟩
  · obtain ⟨hrun', htaken', hstocks'⟩ := hfg a s' hstocks
    refine ⟨?_, Trace.taken_append_eq_zero htaken htaken', hstocks'⟩
    dsimp only
    rw [hrun']

theorem SameOn.attempt {x y : Action σ α} (h : SameOn P x y) :
    SameOn P (attempt x) (attempt y) := by
  intro s hs
  obtain ⟨hrun, htaken, hstocks⟩ := h s hs
  refine ⟨?_, htaken, hstocks⟩
  rw [run_attempt, run_attempt, hrun]

/-- Whatever the action answers has a property. -/
def Answers (Q : α → Prop) (x : Action σ α) : Prop :=
  ∀ s a, (x.run s).answer = .ok a → Q a

theorem Answers.bind {Q : β → Prop} {x : Action σ α} {f : α → Action σ β}
    (hf : ∀ a, Answers Q (f a)) : Answers Q (x >>= f) := by
  intro s b hb
  rw [run_bind] at hb
  generalize x.run s = o at hb
  obtain ⟨s', t, e | a⟩ := o
  · cases hb
  · exact hf a s' b hb

/-- What is observed of the first step is what it answers, and that it takes nothing. -/
theorem SameOn.observe_bind {x y : Action σ α} {f g : α × Trace → Action σ β} {Q : α → Prop}
    (hxy : SameOn P x y) (hx : Answers Q x)
    (hfg : ∀ a t, Q a → Trace.taken t = 0 → SameOn P (f (a, t)) (g (a, t))) :
    SameOn P (observe x >>= f) (observe y >>= g) := by
  intro s hs
  obtain ⟨hrun, htaken, hstocks⟩ := hxy s hs
  have hanswer := hx s
  rw [run_bind, run_bind, run_observe, run_observe, ← hrun]
  generalize x.run s = o at htaken hstocks hanswer
  obtain ⟨s', t, e | a⟩ := o
  · exact ⟨rfl, htaken, hstocks⟩
  · obtain ⟨hrun', htaken', hstocks'⟩ := hfg a t (hanswer a rfl) htaken s' hstocks
    refine ⟨?_, Trace.taken_append_eq_zero htaken htaken', hstocks'⟩
    dsimp only [Except.map]
    rw [hrun']

end Action

/-! ## Lines whose programs do not read -/

namespace Shell

variable {host : Octets → Host} {line : String}

end Shell

variable [OutputStream σ] {host : Octets → Host}

namespace Task

end Task

namespace Dialogue

variable {settings : Settings}

end Dialogue

end LineShell
