import CrateUsage.Text.IdentifierChar

namespace CrateUsage.Rust

/-- A place in a text. Rows and columns count from zero, columns in bytes. -/
structure Position where
  row : Nat := 0
  col : Nat := 0
  deriving DecidableEq, Repr, Inhabited

namespace Position

def after (p : Position) (c : Char) : Position :=
  if c = '\n' then ⟨p.row + 1, 0⟩ else ⟨p.row, p.col + c.utf8Size⟩

def afterAll (p : Position) (cs : List Char) : Position := cs.foldl after p

end Position

structure Lexeme where
  text : String
  start : Position
  deriving DecidableEq, Repr, Inhabited

def Lexeme.stop (x : Lexeme) : Position := x.start.afterAll x.text.toList

/-- What a lexeme can be. A mark is a single character of punctuation: which of them belong
together is for the grammar to say. -/
inductive Shape where
  | word
  | metavariable
  | integer
  | float
  | character
  | string
  | rawString
  | shebang
  | lineComment
  | blockComment
  | mark
  | stray
  deriving DecidableEq, Repr

namespace Scan

def run (test : Char → Bool) (cs : List Char) : Nat := (cs.takeWhile test).length

def isDigitOrBar (c : Char) : Bool := c.isDigit || c == '_'

def isHexDigit (c : Char) : Bool :=
  c.isDigit || ('a' ≤ c && c ≤ 'f') || ('A' ≤ c && c ≤ 'F')

def isBlank (c : Char) : Bool :=
  c == ' ' || c == '\t' || c == '\n' || c == '\r' || c == '\x0b' || c == '\x0c'

def startsWith (s : String) (cs : List Char) : Bool := s.toList.isPrefixOf cs

def numericTypes : List String :=
  ["u8", "i8", "u16", "i16", "u32", "i32", "u64", "i64", "u128", "i128", "isize", "usize", "f32",
    "f64"]

def suffix (cs : List Char) : Nat :=
  ((numericTypes.filter (startsWith · cs)).map String.length).foldl max 0

def inBase (test : Char → Bool) (cs : List Char) : Nat :=
  match run (fun c => test c || c == '_') cs with
  | 0 => 1
  | n => n + 2

def integer (cs : List Char) : Nat :=
  let body := match cs with
    | '0' :: 'x' :: rest => inBase isHexDigit rest
    | '0' :: 'b' :: rest => inBase (fun c => c == '0' || c == '1') rest
    | '0' :: 'o' :: rest => inBase (fun c => '0' ≤ c && c ≤ '7') rest
    | _ => 0
  let body := if body ≤ 1 then run isDigitOrBar cs else body
  body + suffix (cs.drop body)

/-- The length of a point and the digits after it. A point before a letter is a field access, and
one before another point is a range. -/
def fraction (cs : List Char) : Option Nat :=
  match cs with
  | '.' :: rest =>
    match rest.head? with
    | some '.' => none
    | some c =>
      if Text.isIdentifierStart c && c != '_' then none else some (1 + run isDigitOrBar rest)
    | none => some 1
  | _ => some 0

def exponent (cs : List Char) : Nat × Bool :=
  match cs with
  | e :: rest =>
    if e = 'e' ∨ e = 'E' then
      let sign := match rest with
        | '+' :: _ | '-' :: _ => 1
        | _ => 0
      match run isDigitOrBar (rest.drop sign) with
      | 0 => (0, true)
      | n => (1 + sign + n, true)
    else (0, false)
  | [] => (0, false)

def floatSuffix (cs : List Char) : Nat :=
  match cs with
  | c :: rest =>
    if c = 'u' ∨ c = 'i' ∨ c = 'f' then
      match run Char.isDigit rest with
      | 0 => 0
      | n => n + 1
    else 0
  | [] => 0

def float (cs : List Char) : Option Nat :=
  let whole := run isDigitOrBar cs
  match fraction (cs.drop whole) with
  | none => none
  | some point =>
    let n := whole + point
    match exponent (cs.drop n) with
    | (0, true) => some n
    | (0, false) => if point = 0 then none else some (n + floatSuffix (cs.drop n))
    | (e, _) => some (n + e + floatSuffix (cs.drop (n + e)))

def escape (cs : List Char) : Option Nat :=
  match cs with
  | 'x' :: a :: b :: _ => if isHexDigit a && isHexDigit b then some 3 else none
  | 'u' :: '\x7b' :: rest =>
    let n := run isHexDigit rest
    if n > 0 && (rest.drop n).head? == some '\x7d' then some (n + 3) else none
  | 'u' :: rest => if run isHexDigit (rest.take 4) = 4 then some 5 else none
  | 'x' :: _ => none
  | _ :: _ => some 1
  | [] => none

def character (cs : List Char) : Option Nat :=
  match cs with
  | '\'' :: '\'' :: _ => some 2
  | '\'' :: '\\' :: rest =>
    match escape rest with
    | some n => if (rest.drop n).head? = some '\'' then some (n + 3) else none
    | none => none
  | '\'' :: _ :: '\'' :: _ => some 3
  | _ => none

/-- The length of the rest of a string, its closing quote included. As many characters as the first
argument says are part of an escape. -/
def stringRest : Nat → List Char → Option Nat
  | _, [] => none
  | n + 1, _ :: rest => (· + 1) <$> stringRest n rest
  | 0, '"' :: _ => some 1
  | 0, '\\' :: rest => do return 1 + (← stringRest (← escape rest) rest)
  | 0, _ :: rest => (· + 1) <$> stringRest 0 rest

def string (cs : List Char) : Option Nat :=
  match cs with
  | '"' :: rest => (· + 1) <$> stringRest 0 rest
  | _ => none

/-- The length of the rest of a raw string that as many hashes close as opened it. -/
def rawRest (hashes : Nat) : List Char → Option Nat
  | [] => none
  | c :: rest =>
    if c = '"' && run (· == '#') (rest.take hashes) = hashes then some (1 + hashes)
    else do return 1 + (← rawRest hashes rest)

def rawString (cs : List Char) : Option Nat :=
  match cs with
  | 'r' :: rest =>
    let hashes := run (· == '#') rest
    match rest.drop hashes with
    | '"' :: body => do return 2 + hashes + (← rawRest hashes body)
    | _ => none
  | _ => none

def word (cs : List Char) : Nat :=
  match cs with
  | 'r' :: '#' :: c :: _ =>
    if Text.isIdentifierStart c then 2 + run Text.isIdentifierContinue (cs.drop 2)
    else run Text.isIdentifierContinue cs
  | _ => run Text.isIdentifierContinue cs

def blockRest : Nat → List Char → Option Nat
  | depth, '/' :: '*' :: rest => do return 2 + (← blockRest (depth + 1) rest)
  | 0, '*' :: '/' :: _ => some 2
  | depth + 1, '*' :: '/' :: rest => do return 2 + (← blockRest depth rest)
  | depth, _ :: rest => do return 1 + (← blockRest depth rest)
  | _, [] => none

def isLineDoc (cs : List Char) : Bool :=
  startsWith "//!" cs || (startsWith "///" cs && !startsWith "////" cs)

def lineComment (cs : List Char) : Nat :=
  let n := run (· != '\n') cs
  if isLineDoc cs && !(cs.drop n).isEmpty then n + 1 else n

def isMark (c : Char) : Bool := "+-*/%^!&|=<>@.,;:#?()[]\x7b\x7d$'".toList.contains c

/-- What stands at the front of a text that begins with no blank, and how long it is. A literal
that is not closed is stray. -/
def lexeme (cs : List Char) : Shape × Nat :=
  match cs with
  | [] => (.stray, 0)
  | c :: rest =>
    if startsWith "//" cs then (.lineComment, lineComment cs)
    else if startsWith "/*" cs then
      match blockRest 0 (cs.drop 2) with
      | some n => (.blockComment, n + 2)
      | none => (.stray, 1)
    else if c.isDigit then
      match float cs with
      | some n => (.float, n)
      | none => (.integer, integer cs)
    else if c = '"' then
      match string cs with
      | some n => (.string, n)
      | none => (.stray, 1)
    else if c = '\'' then
      match character cs with
      | some n => (.character, n)
      | none => (.mark, 1)
    else
      match (if c = 'b' ∨ c = 'c' then string rest else none),
        (if c = 'b' ∨ c = 'c' then rawString rest else none),
        (if c = 'b' then character rest else none), rawString cs with
      | some n, _, _, _ => (.string, n + 1)
      | none, some n, _, _ => (.rawString, n + 1)
      | none, none, some n, _ => (.character, n + 1)
      | none, none, none, some n => (.rawString, n)
      | none, none, none, none =>
        if Text.isIdentifierStart c then (.word, word cs)
        else if c = '$' && rest.head?.any (fun d => d.isAlpha || d == '_') then
          (.metavariable, 1 + run Text.isIdentifierContinue rest)
        else if isMark c then (.mark, 1)
        else (.stray, 1)

end Scan
end CrateUsage.Rust
