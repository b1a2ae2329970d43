import CrateUsage.Rust.Grammar.Item

namespace CrateUsage.Rust

open Grammar in
/-- The rules for a text, each calling the others on what is left of it. The number bounds how
deep they call each other. -/
def rules : Nat → Rules
  | 0 => .none
  | n + 1 =>
    let r := rules n
    { type := type r
      plainType := plainType r
      typeArguments := typeArguments r
      pattern := pattern r
      plainPattern := plainPattern r
      expression := expression r
      primary := primary r
      ifExpression := ifExpression r
      block := block r
      tokenTree := tokenTree r
      macroTree := macroTree r
      macroPattern := macroPattern r
      declaration := declaration r
      useTree := useTree r }

def Trouble.node (t : Trouble) : Node :=
  .mk { kind := .ofName (t.missing.getD "ERROR"), named := t.missing.isNone,
        row := t.position.row, col := t.position.col, text := some "",
        isError := t.missing.isNone, isMissing := t.missing.isSome, hasError := true } []

/-- The syntax tree of a text. A text that is not Rust has a tree that holds what is wrong with it
and nothing else. -/
def parse (s : String) : Node :=
  let tokens := Token.ofText s
  match (Grammar.file (rules (8 * tokens.length + 16))).run (.ofTokens tokens) with
  | .ok (parts, c) => Piece.file parts c.next
  | .error t => .withErrorsOfParts { kind := .sourceFile, text := some "" } [t.node]

end CrateUsage.Rust
