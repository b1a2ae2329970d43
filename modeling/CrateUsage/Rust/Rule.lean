import CrateUsage.Rust.Piece

namespace CrateUsage.Rust

/-- Where a text stops being Rust. A missing token is missing behind the last thing read. -/
structure Trouble where
  position : Position
  missing : Option String := none
  deriving DecidableEq, Repr

/-- The token to be read next, those after it and how many they are, and where the last one read
ends. -/
structure Cursor where
  next : Token
  rest : List Token
  ahead : Nat
  last : Position := {}
  deriving Inhabited

namespace Cursor

def ofTokens : List Token → Cursor
  | [] => { next := default, rest := [], ahead := 0 }
  | t :: ts => { next := t, rest := ts, ahead := ts.length }

def token (c : Cursor) : Nat → Token
  | 0 => c.next
  | n + 1 =>
    match c.rest[n]? with
    | some t => t
    | none => c.rest.getLastD c.next

def advance (c : Cursor) : Cursor :=
  match c.rest with
  | [] => c
  | t :: ts => { next := t, rest := ts, ahead := c.ahead - 1, last := c.next.lexeme.stop }

def behind (c : Cursor) : Position :=
  match c.next.trivia.comments.getLast? with
  | some comment => comment.lexeme.stop
  | none => c.last

def spellsFrom (c : Cursor) (n : Nat) : List Char → Bool
  | [] => true
  | m :: ms => (c.token n).isMark m && (n == 0 || (c.token n).isAdjacent) && c.spellsFrom (n + 1) ms

def spells (c : Cursor) (s : String) : Bool := c.spellsFrom 0 s.toList

/-- Whether a mark follows, and not a longer one that begins with it. -/
def at_ (c : Cursor) (s : String) : Bool :=
  c.spells s &&
    match s with
    | ":" => !c.spells "::"
    | "=" => !c.spells "==" && !c.spells "=>"
    | "." => !c.spells ".."
    | "!" => !c.spells "!="
    | "+" => !c.spells "+="
    | _ => true

def atWord (c : Cursor) (s : String) : Bool := c.next.isWord s

def word (c : Cursor) (n : Nat) : String :=
  if (c.token n).shape == some .word then (c.token n).text else ""

def atAnyWord (c : Cursor) : Bool := c.next.shape == some .word

end Cursor

abbrev Rule := StateT Cursor (Except Trouble)

namespace Rule

def reject {α : Type} : Rule α := fun c => .error { position := c.next.lexeme.start }

/-- What must follow is not there: where the text or the group around it ends, it is missing. -/
def lack {α : Type} (what : String) : Rule α := fun c =>
  if c.next.isEnd || (c.next.isMark '\x7d' && what ≠ "\x7d") then
    .error { position := c.behind, missing := some what }
  else .error { position := c.next.lexeme.start }

def look {α : Type} (f : Cursor → α) : Rule α := f <$> get

def atMark (s : String) : Rule Bool := look (·.at_ s)

def atWord (s : String) : Rule Bool := look (·.atWord s)

def atAnyWordOf (ss : List String) : Rule Bool := look fun c => ss.any c.atWord

def next : Rule Token := fun c => .ok (c.next, c.advance)

def leaf (kind : Kind) (named : Bool) : Rule Pieces := do
  let t ← next
  return [.leaf kind named none t.trivia t.lexeme]

def nothing : Rule Pieces := pure []

def mark (s : String) : Rule Pieces := do
  if ← atMark s then
    let first ← next
    for _ in s.toList.tail do
      let _ ← next
    return [.leaf (.ofName s) false none first.trivia ⟨s, first.lexeme.start⟩]
  else reject

def closing (s : String) : Rule Pieces := do
  if ← atMark s then mark s else lack s

def semicolon : Rule Pieces := closing ";"

def keyword (s : String) : Rule Pieces := do
  if ← atWord s then leaf (.ofName s) false else reject

/-- Any word at all: where only a name can stand, no word is reserved. -/
def name (kind : Kind) : Rule Pieces := do
  if ← look (·.atAnyWord) then leaf kind true else reject

def identifier : Rule Pieces := name .identifier

def typeIdentifier : Rule Pieces := name .typeIdentifier

def fieldIdentifier : Rule Pieces := name (.other "field_identifier")

def parts : List (Rule Pieces) → Rule Pieces
  | [] => pure []
  | r :: rs => return (← r) ++ (← parts rs)

def node (kind : String) (rs : List (Rule Pieces)) : Rule Pieces := do
  return [.group (.ofName kind) none (← parts rs)]

def field (name : String) (r : Rule Pieces) : Rule Pieces := do
  return (← r).map (·.inField name)

def when_ (test : Cursor → Bool) (r : Rule Pieces) : Rule Pieces := do
  if ← look test then r else nothing

def ifMark (s : String) (r : Rule Pieces) : Rule Pieces := when_ (·.at_ s) r

def ifWord (s : String) (r : Rule Pieces) : Rule Pieces := when_ (·.atWord s) r

def optMark (s : String) : Rule Pieces := ifMark s (mark s)

def optWord (s : String) : Rule Pieces := ifWord s (keyword s)

/-- The first rule's answer, or the second's from the same place if the first has none. -/
def orElse {α : Type} (a b : Rule α) : Rule α := fun c =>
  match a c with
  | .ok r => .ok r
  | .error _ => b c

def bounded {α : Type} (r : Nat → Rule α) : Rule α := do r ((← look (·.ahead)) + 2)

def repeatUpTo (test : Cursor → Bool) (r : Rule Pieces) : Nat → Rule Pieces
  | 0 => reject
  | n + 1 => do
    if ← look test then return (← r) ++ (← repeatUpTo test r n) else nothing

def many (test : Cursor → Bool) (r : Rule Pieces) : Rule Pieces := bounded (repeatUpTo test r)

def listUpTo (close : String) (r : Rule Pieces) : Nat → Rule Pieces
  | 0 => reject
  | n + 1 => do
    let element ← r
    if ← atMark "," then
      let comma ← mark ","
      if ← atMark close then return element ++ comma
      else return element ++ comma ++ (← listUpTo close r n)
    else return element

def commaList1 (close : String) (r : Rule Pieces) : Rule Pieces := bounded (listUpTo close r)

/-- Any number of elements. A comma may stand for none. -/
def commaList (close : String) (r : Rule Pieces) : Rule Pieces := do
  if ← atMark close then nothing
  else if ← look fun c => c.at_ "," && (c.token 1).isMark (close.toList.headD ' ') then mark ","
  else commaList1 close r

end Rule
end CrateUsage.Rust
