import CrateUsage.Rust.Lexeme

namespace CrateUsage.Rust

structure Comment where
  gap : String
  lexeme : Lexeme
  isBlock : Bool
  deriving DecidableEq, Repr

/-- What stands before a token that the grammar does not look at: comments, then blanks. -/
structure Trivia where
  comments : List Comment := []
  gap : String := ""
  deriving DecidableEq, Repr, Inhabited

def Trivia.isEmpty (t : Trivia) : Bool := t.comments.isEmpty && t.gap.isEmpty

/-- The last token of a text has no shape. -/
structure Token where
  trivia : Trivia
  shape : Option Shape
  lexeme : Lexeme
  deriving DecidableEq, Repr, Inhabited

namespace Token

def text (t : Token) : String := t.lexeme.text

def isEnd (t : Token) : Bool := t.shape.isNone

def isAdjacent (t : Token) : Bool := t.trivia.isEmpty

def isWord (t : Token) (s : String) : Bool := t.shape == some .word && t.text == s

def isMark (t : Token) (c : Char) : Bool := t.shape == some .mark && t.text == String.singleton c

def shebang (cs : List Char) : Option Nat :=
  match cs with
  | '#' :: '!' :: rest =>
    let n := Scan.run (· != '\n') rest
    if rest.head? == some '[' || (rest.drop n).isEmpty then none else some (n + 3)
  | _ => none

def readFrom (isFirst : Bool) (at_ : Position) (comments : List Comment) (gap : List Char)
    (cs : List Char) : List Token :=
  match cs with
  | [] => [{ trivia := ⟨comments, String.ofList gap⟩, shape := none, lexeme := ⟨"", at_⟩ }]
  | c :: rest =>
    if Scan.isBlank c then readFrom isFirst (at_.after c) comments (gap ++ [c]) rest
    else
      let (shape, n) :=
        match if isFirst then shebang (c :: rest) else none with
        | some n => (Shape.shebang, n)
        | none => Scan.lexeme (c :: rest)
      let body := c :: rest.take (n - 1)
      let lexeme : Lexeme := ⟨String.ofList body, at_⟩
      let later := rest.drop (n - 1)
      match shape with
      | .lineComment =>
        readFrom isFirst (at_.afterAll body) (comments ++ [⟨String.ofList gap, lexeme, false⟩]) [] later
      | .blockComment =>
        readFrom isFirst (at_.afterAll body) (comments ++ [⟨String.ofList gap, lexeme, true⟩]) [] later
      | shape =>
        { trivia := ⟨comments, String.ofList gap⟩, shape := some shape, lexeme }
          :: readFrom false (at_.afterAll body) [] [] later
termination_by cs.length
decreasing_by all_goals simp; try omega

/-- The tokens of a text. One byte order mark at its head counts as a blank. -/
def ofText (s : String) : List Token :=
  match s.toList with
  | '\ufeff' :: cs => readFrom true (Position.after {} '\ufeff') [] ['\ufeff'] cs
  | cs => readFrom true {} [] [] cs

end Token
end CrateUsage.Rust
