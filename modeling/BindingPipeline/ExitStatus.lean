/-
BindingPipeline/ExitStatus.lean

How a program ended: with an exit code, or by a signal.
-/
namespace BindingPipeline

/-- The end of a program. -/
inductive ExitStatus
  | code (n : Nat)
  | signal (n : Nat)
  deriving DecidableEq, Repr

namespace ExitStatus

/-- The names of the signals, from the first on. -/
def signalNames : List String :=
  ["SIGHUP", "SIGINT", "SIGQUIT", "SIGILL", "SIGTRAP", "SIGABRT", "SIGBUS", "SIGFPE", "SIGKILL",
   "SIGUSR1", "SIGSEGV", "SIGUSR2", "SIGPIPE", "SIGALRM", "SIGTERM", "SIGSTKFLT", "SIGCHLD", "SIGCONT",
   "SIGSTOP", "SIGTSTP", "SIGTTIN", "SIGTTOU", "SIGURG", "SIGXCPU", "SIGXFSZ", "SIGVTALRM", "SIGPROF",
   "SIGWINCH", "SIGIO", "SIGPWR", "SIGSYS"]

/-- The name of a signal, if it has one. -/
def signalName? (n : Nat) : Option String := if n = 0 then none else signalNames[n - 1]?

/-- Only the exit code zero is a success. -/
def isSuccess (s : ExitStatus) : Bool := s == code 0

/-- The wording of an end. -/
def message : ExitStatus → String
  | code n => "exit status: " ++ toString n
  | signal n =>
    "signal: " ++ toString n ++
      (match signalName? n with
        | some name => " (" ++ name ++ ")"
        | none => "")

end ExitStatus

end BindingPipeline
