import CrateUsage.Reference
import CrateUsage.Tree.Kind
import CrateUsage.Text.Quoted

namespace CrateUsage.Log

inductive Event where
  | declared (name : String) (depth : Nat)
  | shadowed (name : String)
  | recorded (r : Record)
  | analyzed (file : String) (normal testOnly : Nat) (hints : Hints)
  | skipped (path error : String)
  | debugging
  deriving DecidableEq, Repr

namespace Event

def logger : Event → String
  | declared .. => "rust_imports.scope_tracker"
  | shadowed .. | recorded .. => "rust_imports.import_classifier"
  | analyzed .. | skipped .. => "rust_imports.analyzer"
  | debugging => "rust_imports.cli"

def level : Event → String
  | skipped .. => "WARNING"
  | _ => "DEBUG"

def truth (b : Bool) : String := if b then "True" else "False"

def message : Event → String
  | declared name depth => s!"Declared local name {Text.quoted name} at depth {depth}"
  | shadowed name => s!"Ignoring {Text.quoted name}: shadowed by a local declaration"
  | recorded r =>
    let line := match r.line with
      | some n => toString n
      | none => "None"
    s!"Recorded {r.build.name} reference to {Text.quoted r.name} (line {line})"
  | analyzed file normal testOnly hints =>
    s!"{file}: {normal} import(s), {testOnly} test import(s), "
      ++ s!"Hints(has_main={truth hints.hasMain}, has_test={truth hints.hasTest}, "
      ++ s!"has_proc_macro={truth hints.hasProcMacro})"
  | skipped path error => s!"Skipping {path}: {error}"
  | debugging => "Debug logging enabled"

def line (e : Event) : String := s!"{e.logger} - {e.level} - {e.message}"

end Event
end CrateUsage.Log
