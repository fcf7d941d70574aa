import LineShell.Shell.Evaluate

/-!
# Sessions

A session is a list of requests to one shell, answered in order. A request that ends in a fault, or
in leaving, does not keep the later ones from being answered.
-/

namespace LineShell

/-- Something asked of a shell, or something that happens to its children meanwhile. -/
inductive Request where
  /-- To evaluate a line. -/
  | evaluate (line : String)
  /-- To run the words of a line. -/
  | execute (argv : List String) (line : String) (background : Bool)
  /-- To run the line of a number once more, for a line that asked for it. -/
  | replay (id : Nat) (line : String)
  /-- To list the history. -/
  | list
  /-- To keep a text in the history without running it. -/
  | record (text : String)
  /-- To collect the children in the background that have ended. -/
  | collect
  /-- A child ends. -/
  | finish (pid : Pid)
  /-- Every child ends, and those in the background are collected. -/
  | settle
deriving DecidableEq, Repr

/-- The answer to a request. -/
inductive Reply where
  /-- It is done. -/
  | done
  /-- It is done, and the shell goes on or ends. -/
  | flow (flow : Flow)
  /-- It is done, and this is the number of it. -/
  | number (n : Nat)
deriving DecidableEq, Repr

variable {σ : Type} [OutputStream σ]

/-- What a request makes the shell do, if its lines may have so many bytes. -/
def Request.action (host : Host) (limit : Nat) : Request → Action σ Reply
  | evaluate line => return .flow (← Shell.evaluate host limit line)
  | execute argv line background => do
    Shell.execute host argv line background
    return .done
  | replay id line => do
    Shell.replay host id line
    return .done
  | list => do
    Shell.list
    return .done
  | record text => return .number (← Shell.record text)
  | collect => return .number (← Shell.collect)
  | finish pid => do
    Shell.idle (ChildTable.finish · pid)
    return .done
  | settle => do
    Shell.idle ChildTable.finishAll
    return .number (← Shell.collect)

/-- What each of the requests comes to. -/
def Session.run (host : Host) (limit : Nat) (s : Shell σ) : List Request → List (Outcome σ Reply)
  | [] => []
  | r :: rs =>
    let o := (r.action host limit).run s
    o :: run host limit o.shell rs

end LineShell
