import GoalLexer.Diagnostic.Basic

/-!
# Diagnostic logs

The diagnostics recorded so far, in the order of their emission.
-/

set_option autoImplicit false

namespace GoalLexer

structure DiagnosticLog where
  entries : Array Diagnostic := #[]
  deriving DecidableEq

namespace DiagnosticLog

def toList (log : DiagnosticLog) : List Diagnostic := log.entries.toList

def size (log : DiagnosticLog) : Nat := log.entries.size

def isEmpty (log : DiagnosticLog) : Bool := log.entries.isEmpty

def emit (log : DiagnosticLog) (d : Diagnostic) : DiagnosticLog := ⟨log.entries.push d⟩

/-- Keeps the first `n` diagnostics, or all of them if there are fewer. -/
def truncate (log : DiagnosticLog) (n : Nat) : DiagnosticLog := ⟨log.entries.take n⟩

def clear (_ : DiagnosticLog) : DiagnosticLog := {}

def errorCount (log : DiagnosticLog) : Nat :=
  log.toList.countP (·.severity == .error)

def hasErrors (log : DiagnosticLog) : Bool :=
  log.toList.any (·.severity == .error)

/-- The form shown to programmers. -/
def debugText (log : DiagnosticLog) : String :=
  "Handler \x7b diagnostics: " ++ toString log.size ++ " \x7d"

@[simp] theorem toList_emit (log : DiagnosticLog) (d : Diagnostic) :
    (log.emit d).toList = log.toList ++ [d] := by
  simp [emit, toList]

@[simp] theorem toList_truncate (log : DiagnosticLog) (n : Nat) :
    (log.truncate n).toList = log.toList.take n := by
  simp [truncate, toList]

@[simp] theorem toList_clear (log : DiagnosticLog) : log.clear.toList = [] := rfl

end DiagnosticLog

end GoalLexer
