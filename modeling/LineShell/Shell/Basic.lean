import LineShell.Child.Roster
import LineShell.Diagnostic
import LineShell.Fault
import LineShell.History.Ring
import LineShell.Host
import LineShell.Output.Stream
import LineShell.Settings

/-!
# The shell and its actions

A shell holds its history, its children and the stream of its own output. An action of the shell
changes it, has effects in some order, and ends in an answer or in a fault; a fault undoes nothing
that went before it.
-/

namespace LineShell

/-- The state of a shell that writes to a stream of type `σ`. -/
structure Shell (σ : Type) where
  /-- The latest lines that were run. -/
  history : History
  /-- The children, and the pids of those that run in the background. -/
  roster : Roster
  /-- How many times the shell has tried to create a child. -/
  forks : Nat
  /-- The stream of the shell's own output. -/
  stream : σ

/-- A shell that has done nothing yet. -/
def Shell.ofSettings {σ : Type} (settings : Settings) (stream : σ) : Shell σ where
  history := Ring.empty settings.historyCapacity
  roster := Roster.empty
  forks := 0
  stream := stream

/-- A child that the shell has created. -/
structure Launch where
  /-- The pid of the child. -/
  pid : Pid
  /-- How many attempts to create a child went before. -/
  serial : Nat
  /-- The program and its arguments. -/
  argv : List String
  /-- Whether the shell goes on without waiting for the child. -/
  background : Bool
deriving DecidableEq, Repr

/-- Something that happens while the shell acts. -/
inductive Effect where
  /-- Bytes of the shell's stream reach descriptor 1. -/
  | streamed (bytes : List UInt8)
  /-- The shell writes bytes to descriptor 1 past its stream. -/
  | printed (bytes : List UInt8)
  /-- A child is created. -/
  | launched (launch : Launch)
  /-- The child of a serial number writes. -/
  | childWrote (serial : Nat) (writing : Writing)
  /-- A child is collected. -/
  | collected (child : Child)
  /-- The shell reports on the side. -/
  | noted (diagnostic : Diagnostic)
  /-- The shell breaks off, since it could not print a line. -/
  | brokeOff (cause : Fault)
deriving DecidableEq, Repr

/-- The bytes that reach descriptor 1 in an effect. -/
def Effect.output : Effect → List UInt8
  | streamed bytes => bytes
  | printed bytes => bytes
  | childWrote _ writing => writing.output
  | _ => []

/-- The bytes that reach descriptor 2 in an effect, given what is written for a report. A shell that
breaks off says why; where in the program that is, which it says as well, is left out. -/
def Effect.errors (log : Diagnostic → List UInt8) : Effect → List UInt8
  | noted d => log d
  | childWrote _ writing => writing.errors
  | brokeOff cause => Text.utf8 ("failed printing to stdout: " ++ cause.source ++ "\n")
  | _ => []

/-- Whether the shell breaks off in an effect. -/
def Effect.isBreak : Effect → Bool
  | brokeOff _ => true
  | _ => false

/-- Effects in the order in which they happened. -/
abbrev Trace := List Effect

/-- The bytes that reach descriptor 1. -/
def Trace.output (t : Trace) : List UInt8 :=
  t.flatMap Effect.output

/-- The bytes that reach descriptor 2, given what is written for a report. -/
def Trace.errors (log : Diagnostic → List UInt8) (t : Trace) : List UInt8 :=
  t.flatMap (Effect.errors log)

/-- Whether the shell has broken off. -/
def Trace.breaks (t : Trace) : Bool :=
  t.any Effect.isBreak

/-- How many bytes children have taken from what they can read. -/
def Trace.taken (t : Trace) : Nat :=
  t.foldr (fun e n =>
    match e with
    | .childWrote _ writing => writing.taken + n
    | _ => n) 0

/-- What an action comes to. -/
structure Outcome (σ α : Type) where
  /-- The shell after the action. -/
  shell : Shell σ
  /-- What happened meanwhile. -/
  trace : Trace
  /-- The answer, or the fault that ended the action. -/
  answer : Except Fault α

/-- Something that a shell can do. -/
structure Action (σ α : Type) where
  /-- What doing it comes to. -/
  run : Shell σ → Outcome σ α

namespace Action

variable {σ α β : Type}

/-- Answers at once. -/
protected def pure (a : α) : Action σ α where
  run s := ⟨s, [], .ok a⟩

/-- Goes on after an answer; a fault ends both. -/
protected def bind (x : Action σ α) (f : α → Action σ β) : Action σ β where
  run s :=
    match x.run s with
    | ⟨s, t, .error e⟩ => ⟨s, t, .error e⟩
    | ⟨s, t, .ok a⟩ =>
      let rest := (f a).run s
      { rest with trace := t ++ rest.trace }

instance : Monad (Action σ) where
  pure := Action.pure
  bind := Action.bind

/-- The shell as it is. -/
def state : Action σ (Shell σ) where
  run s := ⟨s, [], .ok s⟩

/-- Ends in a fault. -/
def fail (e : Fault) : Action σ α where
  run s := ⟨s, [], .error e⟩

/-- Answers what an action comes to, be it a fault. -/
def attempt (x : Action σ α) : Action σ (Except Fault α) where
  run s :=
    let o := x.run s
    ⟨o.shell, o.trace, .ok o.answer⟩

/-- Answers as well what happens. -/
def observe (x : Action σ α) : Action σ (α × Trace) where
  run s :=
    let o := x.run s
    ⟨o.shell, o.trace, o.answer.map (·, o.trace)⟩

/-- Changes the shell. -/
def modify (f : Shell σ → Shell σ) : Action σ Unit where
  run s := ⟨f s, [], .ok ()⟩

/-- Has effects. -/
def tell (t : Trace) : Action σ Unit where
  run s := ⟨s, t, .ok ()⟩

/-- Reports on the side. -/
def note (d : Diagnostic) : Action σ Unit :=
  tell [.noted d]

/-- Uses the stream. What goes wrong there is a fault of the shell's output. -/
def emit (f : σ → Emission σ Unit) : Action σ Unit where
  run s :=
    let e := f s.stream
    ⟨{ s with stream := e.stream }, if e.emitted = [] then [] else [.streamed e.emitted],
      match e.answer with
      | .ok () => .ok ()
      | .error f => .error (.output f)⟩

variable [OutputStream σ]

/-- Writes a line to the stream. -/
def say (text : String) : Action σ Unit :=
  emit (OutputStream.writeLine · text)

/-- Flushes the stream. -/
def flush : Action σ Unit :=
  emit OutputStream.flush

/-- Prints a line. If that does not go through for whatever reason, the shell breaks off. -/
def print (text : String) : Action σ Unit := do
  match ← attempt (emit (OutputStream.printLine · text)) with
  | .ok () => return ()
  | .error fault =>
    tell [.brokeOff fault]
    fail fault

@[simp] theorem run_pure {σ α : Type} (a : α) (s : Shell σ) :
    (pure a : Action σ α).run s = ⟨s, [], .ok a⟩ := rfl

theorem run_bind_of_ok {σ α β : Type} {x : Action σ α} {f : α → Action σ β} {s s' : Shell σ}
    {t : Trace} {a : α} (h : x.run s = ⟨s', t, .ok a⟩) :
    (x >>= f).run s = { (f a).run s' with trace := t ++ ((f a).run s').trace } := by
  change (Action.bind x f).run s = _
  simp only [Action.bind, h]

theorem run_bind_of_error {σ α β : Type} {x : Action σ α} {f : α → Action σ β} {s s' : Shell σ}
    {t : Trace} {e : Fault} (h : x.run s = ⟨s', t, .error e⟩) :
    (x >>= f).run s = ⟨s', t, .error e⟩ := by
  change (Action.bind x f).run s = _
  simp only [Action.bind, h]

end Action

end LineShell
