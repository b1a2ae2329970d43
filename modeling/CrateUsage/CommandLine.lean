import CrateUsage.CommandLine.Arguments
import CrateUsage.Report

namespace CrateUsage

namespace Target

inductive Rejection where
  | missing
  | notFile
  | notRust
  | unknown (f : OpenFault)
  deriving DecidableEq, Repr

def Rejection.message (path : FilePath) : Rejection → String
  | missing => s!"File {path.text} does not exist"
  | notFile => s!"{path.text} is not a file"
  | notRust => s!"{path.text} is not a Rust file"
  | unknown f => f.message path

/-- A target is a file with the ending of a Rust file. Whether it may be read is not asked here. -/
def rejection? (store : Store) (path : FilePath) : Option Rejection :=
  if path.hasNull then some .missing
  else
    match store.entry path with
    | .error f => some (if f.leadsNowhere then .missing else .unknown f)
    | .ok .file => if path.extension? = some ".rs" then none else some .notRust
    | .ok _ => some .notFile

end Target

namespace CommandLine

def usage : String := "usage: rust-imports [-h] [--json] [--debug] targets [targets ...]\n"

def help : String :=
  usage ++ "\nList the external crates a Rust source file depends on\n"
    ++ "\npositional arguments:\n"
    ++ "  targets     Rust files to analyze\n"
    ++ "\noptions:\n"
    ++ "  -h, --help  show this help message and exit\n"
    ++ "  --json      Print results as JSON instead of tables\n"
    ++ "  --debug     Enable debug logging output\n"

structure Output where
  status : Nat
  stdout : String := ""
  stderr : String := ""
  deriving DecidableEq, Repr

inductive Failure where
  | markup (f : Console.Markup.Fault)
  | opening (path : FilePath) (f : OpenFault)
  | abort (a : Abort)
  deriving DecidableEq, Repr

def Failure.message : Failure → String
  | markup f => f.message
  | opening path f => f.message path
  | abort a => a.message

def columns : Nat := 80

def linesText (lines : List String) : String := String.join (lines.map (· ++ "\n"))

def printed (markup : String) (screen : Console.Screen := Console.screen) :
    Except Failure String :=
  match screen.print columns markup with
  | .ok lines => .ok (linesText lines)
  | .error f => .error (.markup f)

def displayed (analyses : List FileAnalysis) (screen : Console.Screen := Console.screen) :
    Except Failure String :=
  match Report.display columns analyses screen with
  | .ok lines => .ok (linesText lines)
  | .error f => .error (.markup f)

/-- What is written to the log: with debugging all there is, without it the warnings alone, and of
those only what they say. -/
def logText (debug : Bool) (log : List Log.Event) : String :=
  linesText <|
    if debug then log.map (·.line)
    else (log.filter (·.level = "WARNING")).map (·.message)

def firstRejection? (store : Store) (targets : List FilePath) :
    Option (FilePath × Target.Rejection) :=
  targets.findSome? fun path => (Target.rejection? store path).map (path, ·)

def reportText (json : Bool) (analyses : List FileAnalysis)
    (screen : Console.Screen := Console.screen) : Except Failure String :=
  if json then .ok ((Report.document analyses).render ++ "\n") else displayed analyses screen

/-- Nothing is analyzed if one target is not worth it. The status tells whether all files were
analyzed. -/
def runRequest (store : Store) (r : Request) (parse : Parser := Rust.parse)
    (screen : Console.Screen := Console.screen) : Except Failure Output × List Log.Event :=
  let started : List Log.Event := if r.debug then [.debugging] else []
  match firstRejection? store r.targets with
  | some (path, .unknown f) => (.error (.opening path f), started)
  | some (path, rejection) =>
    let text := printed s!"[red]Error: {rejection.message path}[/red]" screen
    (text.map fun stdout => { status := 1, stdout, stderr := logText r.debug started }, started)
  | none =>
    match Batch.analyses store r.targets parse with
    | (.error a, log) => (.error (.abort a), started ++ log)
    | (.ok analyses, log) =>
      let log := started ++ log
      let status := if analyses.all (·.succeeded) then 0 else 1
      ((reportText r.json analyses screen).map fun stdout =>
        { status, stdout, stderr := logText r.debug log }, log)

def run (store : Store) (args : List String) (parse : Parser := Rust.parse)
    (screen : Console.Screen := Console.screen) : Except Failure Output × List Log.Event :=
  match Command.ofArguments args with
  | .error c =>
    (.ok { status := 2, stderr := usage ++ s!"rust-imports: error: {c.message}\n" }, [])
  | .ok .help => (.ok { status := 0, stdout := help }, [])
  | .ok (.run r) => runRequest store r parse screen

end CommandLine
end CrateUsage
