import CrateUsage.FilePath
import CrateUsage.Text.Ranges
import CrateUsage.Text.Quoted

namespace CrateUsage.CommandLine

inductive Switch where
  | help
  | json
  | debug
  deriving DecidableEq, Repr

namespace Switch

def spellings : List (String × Switch) :=
  [("-h", help), ("--help", help), ("--json", json), ("--debug", debug)]

def title : Switch → String
  | help => "-h/--help"
  | json => "--json"
  | debug => "--debug"

end Switch

inductive Complaint where
  | ambiguous (argument : String) (spellings : List String)
  | unwantedValue (s : Switch) (value : String)
  | targetsMissing
  | unrecognized (arguments : List String)
  deriving DecidableEq, Repr

def Complaint.message : Complaint → String
  | ambiguous argument spellings =>
    s!"ambiguous option: {argument} could match " ++ ", ".intercalate spellings
  | unwantedValue s value =>
    s!"argument {s.title}: ignored explicit argument {Text.quoted value}"
  | targetsMissing => "the following arguments are required: targets"
  | unrecognized arguments => "unrecognized arguments: " ++ " ".intercalate arguments

/-- What an argument is taken for. A switch may come with its spelling and a value. -/
inductive Role where
  | target
  | separator
  | switch (s : Switch) (spelling : String) (value : Option String)
  | unknown
  deriving DecidableEq, Repr

/-- A number below zero is not a switch: digits, or digits after a point with or without others
before it. A line feed at the end does not count. -/
def isNegativeNumber (argument : String) : Bool :=
  let cs := argument.toList
  let cs := if cs.getLast? = some '\n' then cs.dropLast else cs
  match cs with
  | '-' :: number =>
    match number.dropWhile Text.isDigit with
    | [] => !number.isEmpty
    | '.' :: rest => !rest.isEmpty && rest.all Text.isDigit
    | _ => false
  | _ => false

def cutAtEquals (argument : String) : String × Option String :=
  let cs := argument.toList
  match cs.dropWhile (· ≠ '=') with
  | _ :: value => (String.ofList (cs.takeWhile (· ≠ '=')), some (String.ofList value))
  | [] => (argument, none)

/-- The switches that an argument may mean which spells none out: after two dashes every switch
that begins so, after one dash the switch of the letter, with the rest as its value. -/
def guesses (argument : String) : List (Switch × String × Option String) :=
  match argument.toList with
  | '-' :: '-' :: _ =>
    let (start, value) := cutAtEquals argument
    Switch.spellings.filterMap fun (spelling, s) =>
      if start.toList.isPrefixOf spelling.toList then some (s, spelling, value) else none
  | '-' :: letter :: rest =>
    Switch.spellings.filterMap fun (spelling, s) =>
      if spelling.toList = ['-', letter] then some (s, spelling, some (String.ofList rest))
      else none
  | _ => []

def Role.of (argument : String) : Except Complaint Role :=
  if !(['-'].isPrefixOf argument.toList) || argument = "-" then .ok .target
  else if argument = "--" then .ok .separator
  else
    match Switch.spellings.lookup argument with
    | some s => .ok (.switch s argument none)
    | none =>
      match cutAtEquals argument with
      | (start, some value) =>
        match Switch.spellings.lookup start with
        | some s => .ok (.switch s start (some value))
        | none => guess
      | _ => guess
where
  guess : Except Complaint Role :=
    match guesses argument with
    | [(s, spelling, value)] => .ok (.switch s spelling value)
    | [] =>
      if isNegativeNumber argument || argument.toList.contains ' ' then .ok .target
      else .ok .unknown
    | several => .error (.ambiguous argument (several.map (·.2.1)))

def roles : List String → Except Complaint (List (String × Role))
  | [] => .ok []
  | a :: as => do
    match ← Role.of a with
    | .separator => return (a, .separator) :: as.map (·, .target)
    | role => return (a, role) :: (← roles as)

structure Request where
  targets : List FilePath
  json : Bool := false
  debug : Bool := false
  deriving DecidableEq, Repr

inductive Command where
  | help
  | run (r : Request)
  deriving DecidableEq, Repr

def lettersAfter (s : Switch) : List Char → Except Complaint (List Switch)
  | [] => .ok [s]
  | letter :: letters =>
    match Switch.spellings.lookup (String.ofList ['-', letter]) with
    | some next => (s :: ·) <$> lettersAfter next letters
    | none => .error (.unwantedValue s (String.ofList (letter :: letters)))

/-- The switches that one argument names. No switch takes a value, but after a single dash the
value is read as letters. -/
def switches (s : Switch) (spelling : String) (value : Option String) :
    Except Complaint (List Switch) :=
  match value with
  | none => .ok [s]
  | some value =>
    if ['-', '-'].isPrefixOf spelling.toList || value.isEmpty then .error (.unwantedValue s value)
    else lettersAfter s value.toList

def Role.isPositional : Role → Bool
  | target | separator => true
  | _ => false

/-- Arguments that are read together: each switch alone, and what stands between two switches. -/
def groups (args : List (String × Role)) : List (List (String × Role)) :=
  args.splitBy fun a b => a.2.isPositional && b.2.isPositional

structure Reading where
  targets : Option (List String) := none
  json : Bool := false
  debug : Bool := false
  extras : List String := []
  deriving DecidableEq, Repr

namespace Reading

def turnOn (r : Reading) : Switch → Reading
  | .json => { r with json := true }
  | .debug => { r with debug := true }
  | .help => r

/-- Only the first group with a target gives targets, and the separator in it is none of them. A
wish for help ends the reading. -/
def addGroup (r : Reading) : List (String × Role) → Except Complaint (Option Reading)
  | [(_, .switch s spelling value)] => do
    let named ← switches s spelling value
    return if named.contains .help then none else some (named.foldl turnOn r)
  | group =>
    if r.targets.isNone && group.any (·.2 = .target) then
      .ok (some { r with targets := some ((group.filter (·.2 = .target)).map (·.1)) })
    else .ok (some { r with extras := r.extras ++ group.map (·.1) })

def addGroups (r : Reading) : List (List (String × Role)) → Except Complaint (Option Reading)
  | [] => .ok (some r)
  | group :: rest => do
    match ← r.addGroup group with
    | none => return none
    | some r => r.addGroups rest

def request (r : Reading) : Except Complaint Request :=
  match r.targets with
  | none => .error .targetsMissing
  | some targets =>
    if r.extras.isEmpty then
      .ok { targets := targets.map FilePath.ofString, json := r.json, debug := r.debug }
    else .error (.unrecognized r.extras)

end Reading

def Command.ofArguments (args : List String) : Except Complaint Command := do
  match ← Reading.addGroups {} (groups (← roles args)) with
  | none => return .help
  | some r => return .run (← r.request)

end CrateUsage.CommandLine
