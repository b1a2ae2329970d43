import CrateUsage.Rust.Token
import CrateUsage.Tree

namespace CrateUsage.Rust

/-- A part of a parsed text. Comments are no parts: each stands in the trivia of the part it
precedes, and finds its node when the parts are laid out. -/
inductive Piece where
  | leaf (kind : Kind) (named : Bool) (field : Option String) (trivia : Trivia) (lexeme : Lexeme)
  /-- A part that has a text but no node. -/
  | hidden (trivia : Trivia) (lexeme : Lexeme)
  | group (kind : Kind) (field : Option String) (parts : List Piece)
  deriving Repr, Inhabited

abbrev Pieces := List Piece

namespace Lexeme

def node (x : Lexeme) (kind : Kind) (named : Bool) (field : Option String) (children : List Node) :
    Node :=
  .mk { kind, named, field, row := x.start.row, col := x.start.col, text := some x.text } children

def splitAt (x : Lexeme) (n : Nat) : Lexeme × Lexeme :=
  let front := x.text.toList.take n
  (⟨String.ofList front, x.start⟩,
    ⟨String.ofList (x.text.toList.drop n), x.start.afterAll front⟩)

end Lexeme

namespace Comment

def docKind (isInner : Bool) : Kind :=
  .other (if isInner then "inner_doc_comment_marker" else "outer_doc_comment_marker")

def docNodes (x : Lexeme) (opening : String) (isInner : Bool) (ofMarker : Lexeme → List Node) :
    List Node :=
  let (start, rest) := x.splitAt 2
  let (marker, content) := rest.splitAt 1
  [start.node (.other opening) false none [],
    marker.node (docKind isInner) true (some (if isInner then "inner" else "outer"))
      (ofMarker marker),
    content.node (.other "doc_comment") true (some "doc") []]

def lineParts (x : Lexeme) : List Node :=
  if Scan.isLineDoc x.text.toList then docNodes x "//" (Scan.startsWith "//!" x.text.toList)
    fun marker => [marker.node (.other marker.text) false none []]
  else [(x.splitAt 2).1.node (.other "//") false none []]

def blockParts (x : Lexeme) : List Node :=
  let cs := x.text.toList
  let (body, close) := x.splitAt (cs.length - 2)
  let isInner := Scan.startsWith "/*!" cs
  let isDoc := isInner ||
    (Scan.startsWith "/**" cs && !Scan.startsWith "/***" cs && !Scan.startsWith "/**/" cs)
  let opening :=
    if isDoc then (docNodes body "/*" isInner fun _ => []).filter (·.text != some "")
    else [(x.splitAt 2).1.node (.other "/*") false none []]
  opening ++ [close.node (.other "*/") false none []]

def node (c : Comment) : Node :=
  if c.isBlock then c.lexeme.node .blockComment true none (blockParts c.lexeme)
  else c.lexeme.node .lineComment true none (lineParts c.lexeme)

end Comment

def Trivia.text (t : Trivia) : String :=
  String.join (t.comments.map fun c => c.gap ++ c.lexeme.text) ++ t.gap

/-- A part in its place: the comments before it and the text of all that precedes it since the
part before, its own start and text, and its node if it has one. -/
structure Laid where
  comments : List Node
  lead : String
  start : Position
  text : String
  node : Option Node
  deriving Inhabited

namespace Piece

/-- The nodes of parts that stand in one group. Comments between two of them stand in it too; those
before the first stand before the group. -/
def nodesOf : List Laid → List Node
  | [] => []
  | first :: rest => first.node.toList ++ rest.flatMap fun l => l.comments ++ l.node.toList

def textOf : List Laid → String
  | [] => ""
  | first :: rest => first.text ++ String.join (rest.map fun l => l.lead ++ l.text)

mutual
def lay : Piece → Laid
  | leaf kind named field trivia x =>
    ⟨trivia.comments.map Comment.node, trivia.text, x.start, x.text,
      some (x.node kind named field [])⟩
  | hidden trivia x => ⟨trivia.comments.map Comment.node, trivia.text, x.start, x.text, none⟩
  | group kind field parts =>
    let laid := layAll parts
    let first : Laid := laid.headD ⟨[], "", {}, "", none⟩
    ⟨first.comments, first.lead, first.start, textOf laid,
      some ((Lexeme.mk (textOf laid) first.start).node kind true field (nodesOf laid))⟩

def layAll : List Piece → List Laid
  | [] => []
  | p :: ps => lay p :: layAll ps
end

def inField (name : String) : Piece → Piece
  | leaf kind named _ trivia x => leaf kind named (some name) trivia x
  | hidden trivia x => hidden trivia x
  | group kind _ parts => group kind (some name) parts

def kind? : Piece → Option Kind
  | leaf kind .. => some kind
  | hidden .. => none
  | group kind .. => some kind

def file (parts : Pieces) (finish : Token) : Node :=
  let laid := layAll (parts ++ [hidden finish.trivia finish.lexeme])
  let first := laid.headD ⟨[], "", {}, "", none⟩
  let start := match first.comments with
    | n :: _ => ⟨n.label.row, n.label.col⟩
    | [] => first.start
  (Lexeme.mk (String.join (laid.map fun l => l.lead ++ l.text)) start).node .sourceFile true none
    (laid.flatMap fun l => l.comments ++ l.node.toList)

end Piece
end CrateUsage.Rust
