/-!
# Failures of an output stream

Why a write or a flush did not go through, and the texts that report it.
-/

namespace LineShell

/-- Why an output stream refused a write or a flush. -/
inductive Failure where
  /-- Nobody reads the stream any more. -/
  | brokenPipe
  /-- The stream may not be written. -/
  | permissionDenied
  /-- The stream cannot take bytes without waiting. -/
  | wouldBlock
  /-- The stream takes no more bytes. -/
  | writeZero
  /-- The stream did not take the bytes in time. -/
  | timedOut
  /-- Any other reason. -/
  | other
  /-- A write took no byte although some were left. -/
  | incomplete
deriving DecidableEq, Repr

/-- The text of a failure. -/
def Failure.message : Failure → String
  | .brokenPipe => "broken pipe"
  | .permissionDenied => "permission denied"
  | .wouldBlock => "operation would block"
  | .writeZero => "write zero"
  | .timedOut => "timed out"
  | .other => "other error"
  | .incomplete => "failed to write whole buffer"

/-- A failure as it is shown to those who look into it. -/
def Failure.detail : Failure → String
  | .brokenPipe => "Kind(BrokenPipe)"
  | .permissionDenied => "Kind(PermissionDenied)"
  | .wouldBlock => "Kind(WouldBlock)"
  | .writeZero => "Kind(WriteZero)"
  | .timedOut => "Kind(TimedOut)"
  | .other => "Kind(Other)"
  | .incomplete =>
    "Error \x7b kind: WriteZero, message: \"failed to write whole buffer\" \x7d"

end LineShell
