import CrateUsage.Analysis
import CrateUsage.Console.Table
import CrateUsage.Json.Value

namespace CrateUsage.Report

def usageValue (u : Usage) : Json.Value :=
  .object [
    ("hints", .object [
      ("has_main", .bool u.hints.hasMain),
      ("has_proc_macro", .bool u.hints.hasProcMacro),
      ("has_test", .bool u.hints.hasTest)]),
    ("imports", .array (u.normal.map .text)),
    ("test_imports", .array (u.testOnly.map .text))]

def outcomeValue : Except (Option String) Usage → Json.Value
  | .ok usage => usageValue usage
  | .error error? => .object [("error", (error?.map .text).getD .null)]

def lastOutcome? (analyses : List FileAnalysis) (path : String) :
    Option (Except (Option String) Usage) :=
  (analyses.reverse.find? (·.path.text = path)).map (·.outcome)

/-- A document of all analyses, one member for each path, in ascending order. -/
def document (analyses : List FileAnalysis) : Json.Value :=
  .object <| (Text.sorted (analyses.map (·.path.text)).eraseDups).filterMap fun path =>
    (lastOutcome? analyses path).map fun outcome => (path, outcomeValue outcome)

def lineText : Option Int → String
  | some n => s!"line {n}"
  | none => "-"

def hintsText (h : Hints) : String :=
  let flags := [("main", h.hasMain), ("tests", h.hasTest), ("proc-macro", h.hasProcMacro)]
  "Hints: " ++ ", ".intercalate (flags.map fun (label, holds) =>
    if holds then s!"[green]{label}[/green]" else s!"[dim]no {label}[/dim]")

def table (title : String) (u : Usage) : Console.Table :=
  let row (name : String) (build : Build) (need style : String) : List Console.Cell :=
    [.markup name, .styled need style, .markup (lineText (u.firstLine name build))]
  { title
    columns := [
      { header := "Crate", style := "cyan", wraps := false },
      { header := "Needed for", style := "magenta" },
      { header := "First seen", alignment := .right }]
    rows := u.normal.map (row · .normal "all builds" "green")
      ++ u.testOnly.map (row · .testOnly "tests only" "yellow") }

inductive Notice where
  | markup (text : String)
  | table (t : Console.Table)
  deriving Repr

def analysisNotices (a : FileAnalysis) : List Notice :=
  match a.outcome with
  | .error error? =>
    let error := error?.getD "None"
    [.markup s!"[red]Error: {error}[/red]"]
  | .ok u =>
    let crates :=
      if u.normal.isEmpty && u.testOnly.isEmpty then
        Notice.markup s!"[yellow]No external crates found in {a.path.text}.[/yellow]"
      else .table (table a.path.text u)
    [crates, .markup (hintsText u.hints)]

/-- What a reader is shown of analyses, and at the end how many failed. -/
def notices (analyses : List FileAnalysis) : List Notice :=
  let failed := (analyses.filter (!·.succeeded)).length
  if analyses.isEmpty then [.markup "[yellow]No files analyzed.[/yellow]"]
  else
    analyses.flatMap analysisNotices
      ++ if failed = 0 then []
        else [.markup (s!"\n[yellow]Warning: {failed} of {analyses.length} file(s) "
          ++ "could not be analyzed[/yellow]")]

def Notice.lines (columns : Nat) (n : Notice) (screen : Console.Screen := Console.screen) :
    Except Console.Markup.Fault (List String) :=
  match n with
  | markup text => screen.print columns text
  | table t => screen.draw columns t

def display (columns : Nat) (analyses : List FileAnalysis)
    (screen : Console.Screen := Console.screen) : Except Console.Markup.Fault (List String) :=
  List.flatten <$> (notices analyses).mapM (Notice.lines columns · screen)

end CrateUsage.Report
