import CrateUsage.Rust.Parse
import CrateUsage.Store
import CrateUsage.Usage

namespace CrateUsage

/-- A place where a text is not valid Rust. Lines and columns count from one. -/
structure SyntaxError where
  line : Nat
  column : Nat
  detail : String
  deriving DecidableEq, Repr

namespace SyntaxError

def message (e : SyntaxError) (file : String) : String :=
  s!"{file}:{e.line}:{e.column}: {e.detail}"

/-- A missing node says what is missing; any other faulty node says no more than that. -/
def ofNode (n : Node) : SyntaxError :=
  { line := n.label.row + 1, column := n.label.col + 1,
    detail := if n.label.isMissing then s!"missing {n.kind.name}" else "syntax error" }

end SyntaxError

def Node.syntaxError? (root : Node) : Option SyntaxError := root.firstFault.map .ofNode

inductive TreeFailure where
  | malformed (e : SyntaxError)
  | survey (f : Fault)
  deriving DecidableEq, Repr

namespace Analysis

/-- The usage of a tree, and the log of how it was found. A faulty tree is not read at all. -/
def ofTree (file : String) (root : Node) : Except TreeFailure Usage × List Log.Event :=
  match root.syntaxError? with
  | some e => (.error (.malformed e), [])
  | none =>
    match root.survey with
    | (some fault, s) => (.error (.survey fault), s.log)
    | (none, s) =>
      let usage := Usage.ofDiscovery (.ofSurvey s)
      (.ok usage, s.log ++ [usage.logEvent file])

end Analysis

structure FileAnalysis where
  path : FilePath
  outcome : Except (Option String) Usage

def FileAnalysis.succeeded (a : FileAnalysis) : Bool := a.outcome.isOk

inductive FileFault where
  | read (f : ReadFault)
  | malformed (e : SyntaxError)
  deriving DecidableEq, Repr

def FileFault.message (path : FilePath) : FileFault → String
  | read f => f.message path
  | malformed e => e.message path.text

/-- Why the analysis of files ends before the last of them. -/
inductive Abort where
  | nullInPath
  | survey (f : Fault)
  deriving DecidableEq, Repr

def Abort.message : Abort → String
  | nullInPath => "embedded null byte"
  | survey f => f.message

/-- The tree of each text, with faulty nodes where the text is not Rust. -/
abbrev Parser := String → Node

namespace Batch

def usage (store : Store) (path : FilePath) (parse : Parser := Rust.parse) :
    Except Abort (Except FileFault Usage) × List Log.Event :=
  if path.hasNull then (.error .nullInPath, [])
  else
    match store.read path with
    | .error f => (.ok (.error (.read f)), [])
    | .ok text =>
      match Analysis.ofTree path.text (parse text) with
      | (.ok usage, log) => (.ok (.ok usage), log)
      | (.error (.malformed e), log) => (.ok (.error (.malformed e)), log)
      | (.error (.survey f), log) => (.error (.survey f), log)

def analysis (store : Store) (path : FilePath) (parse : Parser := Rust.parse) :
    Except Abort FileAnalysis × List Log.Event :=
  match usage store path parse with
  | (.error abort, log) => (.error abort, log)
  | (.ok (.ok usage), log) => (.ok ⟨path, .ok usage⟩, log)
  | (.ok (.error f), log) =>
    (.ok ⟨path, .error (f.message path)⟩, log ++ [.skipped path.text (f.message path)])

def analyses (store : Store) (paths : List FilePath) (parse : Parser := Rust.parse) :
    Except Abort (List FileAnalysis) × List Log.Event :=
  match paths with
  | [] => (.ok [], [])
  | path :: paths =>
    match analysis store path parse with
    | (.error abort, log) => (.error abort, log)
    | (.ok a, log) =>
      let (rest, more) := analyses store paths parse
      (rest.map (a :: ·), log ++ more)

end Batch
end CrateUsage
