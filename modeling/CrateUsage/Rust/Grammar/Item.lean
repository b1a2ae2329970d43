import CrateUsage.Rust.Grammar.Expression

namespace CrateUsage.Rust.Grammar

open Rule

def whereUpTo (predicate : Rule Pieces) : Nat → Rule Pieces
  | 0 => reject
  | n + 1 => do
    if ← look fun c => c.at_ "\x7b" || c.at_ ";" || c.at_ "=" then nothing
    else
      let one ← predicate
      if ← atMark "," then return one ++ (← mark ",") ++ (← whereUpTo predicate n) else return one

def optWhere (r : Rules) : Rule Pieces :=
  let predicate := node "where_predicate" [field "left" do
      let c ← get
      if atLifetime c then lifetime
      else if c.atWord "for" then higherRanked r (traitBounds r)
      else
        typeOfKinds r (namedKinds ++ ["reference_type", "pointer_type", "tuple_type", "array_type",
          "primitive_type"]),
    field "bounds" (traitBounds r)]
  ifWord "where" (node "where_clause" [keyword "where", bounded (whereUpTo predicate)])

def optBounds (r : Rules) : Rule Pieces := ifMark ":" (field "bounds" (traitBounds r))

def startsDeclaration (c : Cursor) : Bool :=
  if c.at_ ";" || c.at_ "#" then true
  else
    let second := c.word 1
    let secondIsWord := (c.token 1).shape == some .word
    match c.word 0 with
    | "mod" | "struct" | "enum" | "fn" | "type" | "trait" | "use" | "impl" | "extern" | "let"
    | "pub" => true
    | "union" => secondIsWord && second ≠ "as"
    | "static" => secondIsWord && second ≠ "move" && second ≠ "async"
    | "const" => secondIsWord
    | "unsafe" => secondIsWord
    | "async" => second = "fn" || modifierWords.contains second
    | "default" => second = "fn" || modifierWords.contains second
    | "crate" => secondIsWord && second ≠ "as"
    | "macro_rules" => (c.token 1).isMark '!' && (c.token 1).isAdjacent
    | _ => false

def declarationList (r : Rules) : Rule Pieces :=
  node "declaration_list" [mark "\x7b",
    many (fun c => !c.at_ "\x7d" && !c.next.isEnd) (do
      if ← look startsDeclaration then r.declaration
      else
        let route ← route r
        if route.isName then macroInvocation r route.path else reject),
    closing "\x7d"]

def bodyOrSemicolon (body : Rule Pieces) : Rule Pieces := do
  if ← atMark "\x7b" then field "body" body else semicolon

/-- The first members of a use tree, up to what hangs on its last `::`. -/
def useTree (r : Rules) : Rule Pieces := do
  let c ← get
  if c.at_ "\x7b" then node "use_list" [mark "\x7b", commaList "\x7d" r.useTree, mark "\x7d"]
  else if c.at_ "*" then node "use_wildcard" [mark "*"]
  else if c.at_ "::" && (c.token 2).isMark '\x7b' then
    node "scoped_use_list" [mark "::", field "list" r.useTree]
  else if c.at_ "::" && (c.token 2).isMark '*' then node "use_wildcard" [mark "::", mark "*"]
  else
    let path ← simplePath r
    let c ← get
    if c.at_ "::" && (c.token 2).isMark '\x7b' then
      node "scoped_use_list" [pure (Route.inField "path" path), mark "::", field "list" r.useTree]
    else if c.at_ "::" then node "use_wildcard" [pure path, mark "::", mark "*"]
    else if c.atWord "as" then
      node "use_as_clause" [pure (Route.inField "path" path), keyword "as", field "alias" identifier]
    else return path

def fieldDeclarations (r : Rules) : Rule Pieces :=
  node "field_declaration_list" [mark "\x7b", commaList "\x7d" (parts [attributeItems r,
    node "field_declaration" [visibility r, field "name" fieldIdentifier, mark ":",
      field "type" r.type]]), mark "\x7d"]

def orderedFields (r : Rules) : Rule Pieces :=
  node "ordered_field_declaration_list" [mark "(", commaList ")" (parts [attributeItems r,
    visibility r, field "type" r.type]), mark ")"]

def enumVariants (r : Rules) : Rule Pieces :=
  node "enum_variant_list" [mark "\x7b", commaList "\x7d" (parts [attributeItems r,
    node "enum_variant" [visibility r, field "name" identifier,
      ifMark "\x7b" (field "body" (fieldDeclarations r)), ifMark "(" (field "body" (orderedFields r)),
      ifMark "=" (parts [mark "=", field "value" (r.expression false 0)])]]), mark "\x7d"]

def structItem (r : Rules) (vis : Pieces) : Rule Pieces :=
  node "struct_item" [pure vis, keyword "struct", field "name" typeIdentifier, optTypeParameters r, do
    let c ← get
    if c.at_ "(" then parts [field "body" (orderedFields r), optWhere r, semicolon]
    else if c.at_ "\x7b" || c.atWord "where" then
      parts [optWhere r, field "body" (fieldDeclarations r)]
    else semicolon]

def function (r : Rules) (vis : Pieces) : Rule Pieces := do
  let head ← parts [pure vis, functionModifiers, keyword "fn",
    field "name" (do
      if (← look (·.next.shape)) == some .metavariable then metavariable else identifier),
    optTypeParameters r, field "parameters" (parameters r), returnType r.type, optWhere r]
  if ← atMark "\x7b" then node "function_item" [pure head, field "body" r.block]
  else node "function_signature_item" [pure head, semicolon]

def typeItem (r : Rules) (vis : Pieces) : Rule Pieces := do
  let head ← parts [pure vis, keyword "type", field "name" typeIdentifier, optTypeParameters r]
  if ← atMark ":" then node "associated_type" [pure head, optBounds r, optWhere r, semicolon]
  else
    let head := head ++ (← optWhere r)
    if ← atMark "=" then
      node "type_item" [pure head, mark "=", field "type" r.type, optWhere r, semicolon]
    else node "associated_type" [pure head, semicolon]

def constItem (r : Rules) (vis : Pieces) : Rule Pieces :=
  node "const_item" [pure vis, keyword "const", field "name" identifier, mark ":", field "type" r.type,
    ifMark "=" (parts [mark "=", field "value" (r.expression false 0)]), semicolon]

def staticItem (r : Rules) (vis : Pieces) : Rule Pieces :=
  node "static_item" [pure vis, keyword "static", optWord "ref", optMut, field "name" identifier,
    mark ":", field "type" r.type,
    ifMark "=" (parts [mark "=", field "value" (r.expression false 0)]), semicolon]

def isTrait (ps : Pieces) : Bool :=
  match ps with
  | [p] => p.kind? = some .typeIdentifier || p.kind? = some .scopedTypeIdentifier
      || p.kind? = some .genericType
  | _ => false

def implItem (r : Rules) : Rule Pieces := do
  let head ← parts [optWord "unsafe", keyword "impl", optTypeParameters r]
  let negation ← optMark "!"
  let first ← r.type
  let whom ←
    if ← atWord "for" then
      if isTrait first then
        parts [pure (Route.inField "trait" first), keyword "for", field "type" r.type]
      else reject
    else if negation.isEmpty then pure (Route.inField "type" first)
    else reject
  node "impl_item" [pure head, pure negation, pure whom, optWhere r,
    bodyOrSemicolon (declarationList r)]

def traitItem (r : Rules) (vis : Pieces) : Rule Pieces :=
  node "trait_item" [pure vis, optWord "unsafe", keyword "trait", field "name" typeIdentifier,
    optTypeParameters r, optBounds r, optWhere r, field "body" (declarationList r)]

def externCrate (vis : Pieces) : Rule Pieces :=
  node "extern_crate_declaration" [pure vis, keyword "extern", leaf .crateWord true,
    field "name" identifier, ifWord "as" (parts [keyword "as", field "alias" identifier]), semicolon]

def startsForeign (c : Cursor) (n : Nat) : Bool :=
  let behind := c.token (if (c.token (n + 1)).shape == some .string then n + 2 else n + 1)
  c.word n = "extern" && (behind.isMark '\x7b' || behind.isMark ';')

def foreignItem (r : Rules) (vis : Pieces) : Rule Pieces :=
  node "foreign_mod_item" [pure vis, optWord "unsafe", externModifier,
    bodyOrSemicolon (declarationList r)]

def macroRules (r : Rules) (close : String) : Rule Pieces :=
  many (fun c => !c.at_ close && !c.next.isEnd) (parts [
    node "macro_rule" [field "left" r.macroPattern, mark "=>", field "right" r.macroTree],
    do
      let c ← get
      if c.at_ close then nothing else mark ";"])

def macroDefinition (r : Rules) : Rule Pieces := do
  let first ← next
  let bang ← next
  let word : Lexeme := ⟨first.text ++ bang.text, first.lexeme.start⟩
  let head : Pieces := [.leaf (.other word.text) false none first.trivia word]
  let named ← field "name" identifier
  let c ← get
  match delimiters.find? fun (opening, _) => c.at_ opening with
  | some (opening, close) =>
    node "macro_definition" [pure head, pure named, mark opening, macroRules r close, closing close,
      if close = "\x7d" then nothing else semicolon]
  | none => reject

def letDeclaration (r : Rules) : Rule Pieces :=
  node "let_declaration" [keyword "let", optMut, field "pattern" r.pattern,
    ifMark ":" (parts [mark ":", field "type" r.type]),
    ifMark "=" (parts [mark "=", field "value" (r.expression false 0)]),
    ifWord "else" (parts [keyword "else", field "alternative" r.block]), semicolon]

def declaration (r : Rules) : Rule Pieces := do
  let c ← get
  if c.at_ ";" then node "empty_statement" [mark ";"]
  else if isInnerAttribute c then innerAttributeItem r
  else if c.at_ "#" then attributeItem r
  else
    match c.word 0 with
    | "let" => letDeclaration r
    | "impl" => implItem r
    | "macro_rules" => macroDefinition r
    | _ =>
      let vis ← visibility r
      let c ← get
      match c.word 0 with
      | "use" => node "use_declaration" [pure vis, keyword "use", field "argument" r.useTree, semicolon]
      | "mod" =>
        node "mod_item" [pure vis, keyword "mod", field "name" identifier,
          bodyOrSemicolon (declarationList r)]
      | "struct" => structItem r vis
      | "union" =>
        node "union_item" [pure vis, keyword "union", field "name" typeIdentifier,
          optTypeParameters r, optWhere r, field "body" (fieldDeclarations r)]
      | "enum" =>
        node "enum_item" [pure vis, keyword "enum", field "name" typeIdentifier, optTypeParameters r,
          optWhere r, field "body" (enumVariants r)]
      | "type" => typeItem r vis
      | "trait" => traitItem r vis
      | "static" => staticItem r vis
      | "extern" =>
        if c.word 1 = "crate" then externCrate vis
        else if startsForeign c 0 then foreignItem r vis
        else function r vis
      | "const" =>
        if c.word 1 = "fn" || modifierWords.contains (c.word 1) then function r vis
        else constItem r vis
      | "unsafe" =>
        if c.word 1 = "trait" then traitItem r vis
        else if c.word 1 = "impl" && vis.isEmpty then implItem r
        else if startsForeign c 1 then foreignItem r vis
        else function r vis
      | _ => function r vis

/-- A statement. The last expression of a block needs no semicolon, and so does a macro call that
no operator follows. -/
def statement (r : Rules) (inBlock : Bool) : Rule Pieces := do
  if ← look startsDeclaration then declaration r
  else
    let first ← r.primary false
    if ← look fun c => endsWithBlock first && !continues [] c then
      node "expression_statement" [pure first]
    else
      let e ← climb r false 0 first
      let c ← get
      if c.at_ ";" then node "expression_statement" [pure e, mark ";"]
      else if (inBlock && c.at_ "\x7d") || isMacro e then return e
      else if inBlock && c.next.isEnd then lack "\x7d"
      else lack ";"

def block (r : Rules) : Rule Pieces :=
  node "block" [labelled, mark "\x7b",
    many (fun c => !c.at_ "\x7d" && !c.next.isEnd) (statement r true), closing "\x7d"]

def file (r : Rules) : Rule Pieces :=
  parts [when_ (·.next.shape == some .shebang) (leaf (.other "shebang") true),
    many (!·.next.isEnd) (statement r false)]

end CrateUsage.Rust.Grammar
