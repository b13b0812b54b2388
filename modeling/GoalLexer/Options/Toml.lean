import GoalLexer.Options
import GoalLexer.Toml.Document

/-!
# Options as a TOML document

The three switches are truth values of the top level, each under its own key. A
key that is missing leaves the default; what stands under any other key is
ignored.
-/

set_option autoImplicit false

namespace GoalLexer.Options

/-- The truth value under a name, or the default where there is none. Anything
else under the name is refused. -/
def switch (table : Toml.Table) (name : String) (default : Bool) : Option Bool :=
  match table.get? name with
  | none => some default
  | some (.leaf (.boolean b)) => some b
  | some _ => none

/-- The options that a document gives. -/
def ofToml? (document : String) : Option Options := do
  let table ← Toml.Table.ofText? document
  let defaults : Options := {}
  return {
    strictMode := ← switch table "strict_mode" defaults.strictMode
    captureTrivia := ← switch table "capture_trivia" defaults.captureTrivia
    signedNumericLiterals :=
      ← switch table "signed_numeric_literals" defaults.signedNumericLiterals }

/-- One line of a document. -/
def switchLine (name : String) (b : Bool) : String :=
  name ++ " = " ++ (if b then "true" else "false") ++ "\n"

/-- The document that gives these options. -/
def toToml (o : Options) : String :=
  switchLine "strict_mode" o.strictMode ++ switchLine "capture_trivia" o.captureTrivia ++
    switchLine "signed_numeric_literals" o.signedNumericLiterals

end GoalLexer.Options
