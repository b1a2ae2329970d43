import CrateUsage.Rust.Grammar.Route

namespace CrateUsage.Rust.Grammar

open Rule

def stringParts : Nat → Position → List Char → Pieces
  | 0, _, _ => []
  | fuel + 1, at_, cs =>
    let leaf (kind : Kind) (named : Bool) (n : Nat) : Pieces :=
      .leaf kind named none {} ⟨String.ofList (cs.take n), at_⟩
        :: stringParts fuel (at_.afterAll (cs.take n)) (cs.drop n)
    match cs with
    | [] => []
    | '"' :: _ => leaf (.other "\"") false 1
    | '\\' :: rest => leaf (.other "escape_sequence") true (1 + (Scan.escape rest).getD 1)
    | _ => leaf (.other "string_content") true (Scan.run (fun c => c != '"' && c != '\\') cs)

def stringLiteral (t : Token) : Piece :=
  let cs := t.text.toList
  let n := Scan.run (· != '"') cs + 1
  let (opening, _) := t.lexeme.splitAt n
  .group (.other "string_literal") none
    (.leaf (.other "\"") false none t.trivia opening
      :: stringParts cs.length (opening.start.afterAll (cs.take n)) (cs.drop n))

def rawStringLiteral (t : Token) : Piece :=
  let cs := t.text.toList
  let hashes := (cs.takeWhile (· != '"')).count '#'
  let (opening, rest) := t.lexeme.splitAt (Scan.run (· != '"') cs + 1)
  let (content, close) := rest.splitAt (rest.text.length - 1 - hashes)
  .group (.other "raw_string_literal") none
    [.hidden t.trivia opening, .leaf (.other "string_content") true none {} content,
      .hidden {} close]

def literalOf (t : Token) : Option Piece :=
  match t.shape with
  | some .integer => some (t.as (.other "integer_literal"))
  | some .float => some (t.as (.other "float_literal"))
  | some .character => some (t.as (.other "char_literal"))
  | some .string => some (stringLiteral t)
  | some .rawString => some (rawStringLiteral t)
  | some .word =>
    if t.text = "true" ∨ t.text = "false" then
      some (.group (.other "boolean_literal") none
        [.leaf (.other t.text) false none t.trivia t.lexeme])
    else none
  | _ => none

def isLiteral (t : Token) : Bool := (literalOf t).isSome

def literal : Rule Pieces := do
  match literalOf (← look (·.next)) with
  | some p => do
    let _ ← next
    return [p]
  | none => reject

def treeWords : List String :=
  ["as", "async", "await", "break", "const", "continue", "default", "enum", "fn", "for", "gen", "if",
    "impl", "let", "loop", "match", "mod", "pub", "return", "static", "struct", "trait", "type",
    "union", "unsafe", "use", "where", "while", "_"]

def treeWord (t : Token) : Piece :=
  match literalOf t, leadKind t with
  | some p, _ => p
  | none, some kind => t.as kind
  | none, none =>
    if t.text = "mut" then t.as (.other "mutable_specifier")
    else if primitiveTypes.contains t.text then t.as .primitiveType
    else if treeWords.contains t.text then .leaf (.other t.text) false none t.trivia t.lexeme
    else t.as .identifier

def treeMarks : List String :=
  ["<<=", ">>=", "...", "..=", "&&", "||", "<<", ">>", "+=", "-=", "*=", "/=", "%=", "^=", "&=",
    "|=", "==", "!=", ">=", "<=", "..", "::", "->", "=>", "+", "-", "*", "/", "%", "^", "!", "&",
    "|", "=", ">", "<", "@", ".", ",", ";", ":", "#", "?", "'"]

/-- Any token of a tree but a delimiter, a dollar sign or a metavariable. -/
def treeToken : Rule Pieces := do
  let c ← get
  if isLiteral c.next || c.atAnyWord then return [treeWord (← next)]
  else
    match treeMarks.find? c.spells with
    | some s => mark s
    | none => reject

def delimiters : List (String × String) := [("(", ")"), ("[", "]"), ("\x7b", "\x7d")]

def atOpening (c : Cursor) : Bool := delimiters.any fun (opening, _) => c.at_ opening

def delimited (kind : String) (inner : Rule Pieces) : Rule Pieces := do
  let c ← get
  match delimiters.find? fun (opening, _) => c.at_ opening with
  | some (opening, close) =>
    node kind [mark opening, many (fun c => !c.at_ close && !c.next.isEnd) inner, closing close]
  | none => reject

/-- In the arguments of a macro or an attribute, a dollar sign is a token of its own. -/
def dollarAndWord (t : Token) : Pieces :=
  let (dollar, word) := t.lexeme.splitAt 1
  [.leaf (.other "$") false none t.trivia dollar, treeWord { trivia := {}, shape := some .word, lexeme := word }]

def tokenTree (r : Rules) : Rule Pieces := delimited "token_tree" do
  let c ← get
  if atOpening c then r.tokenTree
  else if c.next.shape == some .metavariable then return dollarAndWord (← next)
  else if c.at_ "$" then mark "$"
  else treeToken

def repetitionEnd : Rule Pieces := do
  let separator ← many (fun c => !c.at_ "+" && !c.at_ "*" && !c.at_ "?" && !c.next.isEnd) do
    let t ← next
    return [.hidden t.trivia t.lexeme]
  let c ← get
  let often ← if c.at_ "+" then mark "+" else if c.at_ "*" then mark "*" else mark "?"
  return separator ++ often

def repetition (kind : String) (inner : Rule Pieces) : Rule Pieces :=
  node kind [mark "$", mark "(", many (fun c => !c.at_ ")" && !c.next.isEnd) inner, mark ")",
    repetitionEnd]

def metavariable : Rule Pieces := do
  if (← look (·.next.shape)) == some .metavariable then leaf .metavariable true else reject

/-- What one rule of a macro definition expands to. -/
def macroTree (r : Rules) : Rule Pieces :=
  let inner : Rule Pieces := do
    let c ← get
    if atOpening c then r.macroTree
    else if c.next.shape == some .metavariable then metavariable
    else if c.at_ "$" then r.macroTree
    else treeToken
  do if ← atMark "$" then repetition "token_repetition" inner else delimited "token_tree" inner

def fragments : List String :=
  ["block", "expr", "expr_2021", "ident", "item", "lifetime", "literal", "meta", "pat", "pat_param",
    "path", "stmt", "tt", "ty", "vis"]

def fragment : Rule Pieces := do
  let t ← next
  return [.group (.other "fragment_specifier") (some "type")
    [.leaf (.other t.text) false none t.trivia t.lexeme]]

def macroPattern (r : Rules) : Rule Pieces :=
  let inner : Rule Pieces := do
    let c ← get
    if atOpening c || c.at_ "$" then r.macroPattern
    else if c.next.shape == some .metavariable then
      if (c.token 1).isMark ':' && fragments.contains (c.word 2) then
        node "token_binding_pattern" [field "name" metavariable, mark ":", fragment]
      else metavariable
    else treeToken
  do
    if ← atMark "$" then repetition "token_repetition_pattern" inner
    else delimited "token_tree_pattern" inner

def macroInvocation (r : Rules) (path : Pieces) : Rule Pieces :=
  node "macro_invocation" [pure (Route.inField "macro" path), mark "!", r.tokenTree]

end CrateUsage.Rust.Grammar
