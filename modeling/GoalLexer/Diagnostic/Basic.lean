import GoalLexer.Diagnostic.Code
import GoalLexer.Diagnostic.Snippet

/-!
# Diagnostics

A message about a source text with its severity, its place, and what helps to
understand it. `Diagnostic.render` writes it out: the headline, then every
snippet, note and help, each ended by a line feed.
-/

set_option autoImplicit false

namespace GoalLexer

inductive Severity where
  | error
  | warning
  | note
  | help
  deriving DecidableEq, Repr

def Severity.name : Severity → String
  | error => "error"
  | warning => "warning"
  | note => "note"
  | help => "help"

structure Diagnostic where
  severity : Severity
  message : String
  span : Span := .nowhere
  code : Option DiagnosticCode := none
  notes : List String := []
  helps : List String := []
  snippets : List Snippet := []
  deriving DecidableEq

namespace Diagnostic

def withSpan (d : Diagnostic) (span : Span) : Diagnostic := { d with span }

def withCode (d : Diagnostic) (code : DiagnosticCode) : Diagnostic := { d with code := some code }

def withNote (d : Diagnostic) (note : String) : Diagnostic := { d with notes := d.notes ++ [note] }

def withHelp (d : Diagnostic) (help : String) : Diagnostic := { d with helps := d.helps ++ [help] }

def withSnippet (d : Diagnostic) (snippet : Snippet) : Diagnostic :=
  { d with snippets := d.snippets ++ [snippet] }

/-- Severity, code and message. -/
def headline (d : Diagnostic) : String :=
  match d.code with
  | some code => d.severity.name ++ "[" ++ code.text ++ "]: " ++ d.message
  | none => d.severity.name ++ ": " ++ d.message

def lines (d : Diagnostic) : List String :=
  d.headline :: (d.snippets.map (·.format) ++ d.notes.map ("  = note: " ++ ·) ++
    d.helps.map ("  = help: " ++ ·))

def render (d : Diagnostic) : String :=
  String.join (d.lines.map (· ++ "\n"))

end Diagnostic

end GoalLexer
