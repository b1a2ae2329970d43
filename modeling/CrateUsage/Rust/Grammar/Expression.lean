import CrateUsage.Rust.Grammar.Pattern

namespace CrateUsage.Rust.Grammar

open Rule

def operators : List String :=
  ["<<=", ">>=", "...", "..=", "&&", "||", "==", "!=", "<=", ">=", "<<", ">>", "+=", "-=", "*=", "/=",
    "%=", "&=", "|=", "^=", "=>", "->", "..", "<", ">", "+", "-", "*", "/", "%", "&", "|", "^", "=",
    "?", ".", "(", "["]

def operatorAt (c : Cursor) : Option String := operators.find? c.spells

def binaryLevel : String → Option Nat
  | "*" | "/" | "%" => some 10
  | "+" | "-" => some 9
  | "<<" | ">>" => some 8
  | "&" => some 7
  | "^" => some 6
  | "|" => some 5
  | "==" | "!=" | "<" | "<=" | ">" | ">=" => some 4
  | "&&" => some 3
  | "||" => some 2
  | _ => none

def isCompoundAssignment (s : String) : Bool :=
  ["+=", "-=", "*=", "/=", "%=", "&=", "|=", "^=", "<<=", ">>="].contains s

def unaryLevel : Nat := 12

def castLevel : Nat := 11

def rangeLevel : Nat := 1

/-- Whether an operand of an operator may follow that can also do without one. A mark that could
continue an expression continues it rather than beginning another. -/
def operandFollows (beforeBody : Bool) (c : Cursor) : Bool :=
  if c.atAnyWord then !c.atWord "as" && !c.atWord "else"
  else isLiteral c.next || c.next.shape == some .metavariable || c.at_ "(" || c.at_ "::"
    || c.at_ "!" || c.at_ "'" || (c.at_ "\x7b" && !beforeBody)

def valueFollows (c : Cursor) : Bool :=
  operandFollows false c
    || ["[", "|", "-", "*", "&", "<", ".."].any c.spells

def label : Rule Pieces := node "label" [mark "'", identifier]

def optLabel : Rule Pieces := when_ atLifetime label

def labelled : Rule Pieces := when_ atLifetime (parts [label, mark ":"])

def ofArguments (r : Rules) : Rule Pieces :=
  node "arguments" [mark "(", commaList ")" (parts [attributeItems r, r.expression false 0]), mark ")"]

def fieldInitializer (r : Rules) : Rule Pieces := do
  if ← look atDots then node "base_field_initializer" [mark "..", r.expression false 0]
  else
    let attributes ← attributeItems r
    let c ← get
    if (c.token 1).isMark ':' then
      node "field_initializer" [pure attributes,
        field "field" (if isLiteral c.next then literal else fieldIdentifier), mark ":",
        field "value" (r.expression false 0)]
    else node "shorthand_field_initializer" [pure attributes, identifier]

def structBody (r : Rules) : Rule Pieces :=
  field "body" (node "field_initializer_list" [mark "\x7b", commaList "\x7d" (fieldInitializer r),
    mark "\x7d"])

def structName : Route → Option Pieces
  | .word t =>
    if primitiveTypes.contains t.text || reservedNames.contains t.text then none
    else some [t.as .typeIdentifier]
  | .member [.group (.other "bracketed_type") _ _, _] _ => none
  | .member path t => some (Route.type (.member path t))
  | .applied base arguments =>
    let type := match base with
      | .word t => [t.as .typeIdentifier]
      | base => base.path
    some [.group (.other "generic_type_with_turbofish") none (Route.inField "type" type ++ arguments)]
  | _ => none

def pathExpression (r : Rules) (beforeBody : Bool) : Rule Pieces := do
  let route ← route r
  let c ← get
  if c.at_ "!" && route.isName then macroInvocation r route.path
  else
    match if c.at_ "\x7b" && !beforeBody then structName route else none with
    | some type =>
      node "struct_expression" [pure (Route.inField "name" type), structBody r]
    | none =>
      match route with
      | .bracketed _ | .generic _ | .belowGeneric .. => reject
      | .lead _ .superWord | .lead _ .crateWord => reject
      | .applied base arguments =>
        return [.group (.other "generic_function") none (Route.inField "function" base.path ++ arguments)]
      | route => return route.path

def parenthesized (r : Rules) : Rule Pieces := do
  let opening ← mark "("
  if ← atMark ")" then return [.group (.other "unit_expression") none (opening ++ (← mark ")"))]
  else
    let attributes ← attributeItems r
    let first ← r.expression false 0
    if ← atMark "," then
      node "tuple_expression" [pure opening, pure attributes, pure first, mark ",",
        commaList ")" (r.expression false 0), mark ")"]
    else if attributes.isEmpty then
      node "parenthesized_expression" [pure opening, pure first, mark ")"]
    else reject

def arrayExpression (r : Rules) : Rule Pieces := do
  let opening ← mark "["
  let element := parts [attributeItems r, r.expression false 0]
  if ← look fun c => c.at_ "]" || c.at_ "," then
    node "array_expression" [pure opening, commaList "]" element, mark "]"]
  else
    let first ← element
    if ← atMark ";" then
      node "array_expression" [pure opening, pure first, mark ";", field "length" (r.expression false 0),
        mark "]"]
    else
      node "array_expression" [pure opening, pure first,
        ifMark "," (parts [mark ",", commaList "]" element]), mark "]"]

def closureParameter (r : Rules) : Rule Pieces := do
  match ← parameterHead r.plainPattern with
  | some head => node "parameter" [pure head, field "type" r.type]
  | none => r.plainPattern

def closure (r : Rules) (beforeBody : Bool) : Rule Pieces :=
  node "closure_expression" [optWord "static", optWord "async", optWord "move",
    field "parameters" (node "closure_parameters" [mark "|", commaList "|" (closureParameter r),
      mark "|"]), do
    if ← look (·.spells "->") then
      parts [mark "->", field "return_type" r.type, field "body" r.block]
    else field "body" (r.expression beforeBody 0)]

/-- The kinds of expressions that a semicolon need not follow. -/
def blockKinds : List String :=
  ["unsafe_block", "async_block", "gen_block", "try_block", "block", "if_expression",
    "match_expression", "while_expression", "loop_expression", "for_expression", "const_block"]

def endsWithBlock (ps : Pieces) : Bool :=
  match ps with
  | [p] => p.kind?.any fun k => blockKinds.contains k.name
  | _ => false

def isMacro (ps : Pieces) : Bool :=
  match ps with
  | [p] => p.kind? = some (.other "macro_invocation")
  | _ => false

/-- The marks that can only continue an expression, never begin a statement. -/
def continuing : List String :=
  ["<<=", ">>=", "...", "..=", "&&", "||", "==", "!=", "<=", ">=", "<<", ">>", "+=", "-=", "*=", "/=",
    "%=", "&=", "|=", "^=", ">", "+", "/", "%", "^", "=", "?", "."]

def continues (extra : List String) (c : Cursor) : Bool :=
  c.atWord "as" || (operatorAt c).any fun s => continuing.contains s || extra.contains s

/-- `.await`, `.name`, `.0`, and `.name::<T>`. Two numbers with a point between them are read as
one before they are known to be fields. -/
def member (r : Rules) (left : Pieces) : Rule Pieces := do
  let inValue := Route.inField "value" left
  if (← look (·.token 1)).isWord "await" then
    node "await_expression" [pure left, mark ".", keyword "await"]
  else
    let dot ← mark "."
    let t ← next
    match t.shape with
    | some .word =>
      let access := Route.group (.other "field_expression")
        (inValue ++ dot ++ Route.inField "field" [t.as (.other "field_identifier")])
      if ← look fun c => c.spells "::" && (c.token 2).isMark '<' then
        node "generic_function" [pure (Route.inField "function" access), turbofish r]
      else return access
    | some .integer =>
      return Route.group (.other "field_expression")
        (inValue ++ dot ++ Route.inField "field" [t.as (.other "integer_literal")])
    | some .float =>
      let cs := t.text.toList
      let n := Scan.run (· != '.') cs
      let (first, rest) := t.lexeme.splitAt n
      let (point, second) := rest.splitAt 1
      if n + 1 < cs.length && first.text.all Char.isDigit && second.text.all Char.isDigit then
        let inner := Route.group (.other "field_expression") (inValue ++ dot ++
          [.leaf (.other "integer_literal") true (some "field") t.trivia first])
        return Route.group (.other "field_expression") (Route.inField "value" inner ++
          [.leaf (.other ".") false none {} point,
            .leaf (.other "integer_literal") true (some "field") {} second])
      else reject
    | _ => reject

/-- The expression up to the operand after an operator, or none if the operator ends it. A binding
in a condition ends before `&&`, and so does any expression before a binding. -/
def step (r : Rules) (beforeBody noAnd : Bool) (min : Nat) (c : Cursor) (s : String) (left : Pieces) :
    Rule (Option Pieces) := do
  let inLeft := Route.inField "left" left
  match s with
  | "?" => some <$> node "try_expression" [pure left, mark "?"]
  | "(" =>
    some <$> node "call_expression" [pure (Route.inField "function" left),
      field "arguments" (ofArguments r)]
  | "[" =>
    some <$> node "index_expression" [pure left, mark "[", r.expression false 0, mark "]"]
  | "." => some <$> member r left
  | ".." | "..." | "..=" =>
    if min ≤ rangeLevel then
      some <$> node "range_expression" [pure left, mark s,
        when_ (fun c => s ≠ ".." || operandFollows beforeBody c) (r.expression beforeBody (rangeLevel + 1))]
    else return none
  | "=" =>
    if min = 0 then
      some <$> node "assignment_expression" [pure inLeft, mark s,
        field "right" (r.expression beforeBody 1)]
    else return none
  | s =>
    if isCompoundAssignment s then
      if min = 0 then
        some <$> node "compound_assignment_expr" [pure inLeft, field "operator" (mark s),
          field "right" (r.expression beforeBody 1)]
      else return none
    else
      match binaryLevel s with
      | some level =>
        if level < min || (s = "&&" && (noAnd || (c.token 2).isWord "let")) then return none
        else
          some <$> node "binary_expression" [pure inLeft, field "operator" (mark s),
            field "right" (r.expression beforeBody (level + 1))]
      | none => return none

/-- Takes operators and their operands for as long as they bind at least as tightly as asked. -/
def climbUpTo (r : Rules) (beforeBody noAnd : Bool) (min : Nat) : Nat → Pieces → Rule Pieces
  | 0, _ => reject
  | n + 1, left => do
    let c ← get
    if c.atWord "as" then
      if min ≤ castLevel then
        climbUpTo r beforeBody noAnd min n
          (← node "type_cast_expression" [pure (Route.inField "value" left), keyword "as",
            field "type" r.plainType])
      else return left
    else
      match operatorAt c with
      | none => return left
      | some s =>
        match ← step r beforeBody noAnd min c s left with
        | some longer => climbUpTo r beforeBody noAnd min n longer
        | none => return left

def climb (r : Rules) (beforeBody : Bool) (min : Nat) (left : Pieces) : Rule Pieces :=
  bounded fun n => climbUpTo r beforeBody false min n left

def letCondition (r : Rules) (beforeBody : Bool) : Rule Pieces :=
  node "let_condition" [keyword "let", field "pattern" r.pattern, mark "=", field "value" do
    let first ← r.primary beforeBody
    bounded fun n => climbUpTo r beforeBody true 0 n first]

def andMoreUpTo (one : Rule Pieces) : Nat → Rule Pieces
  | 0 => reject
  | n + 1 => do
    if ← look (·.spells "&&") then
      return (← mark "&&") ++ (← one) ++ (← andMoreUpTo one n)
    else nothing

def condition (r : Rules) (beforeBody : Bool) : Rule Pieces := do
  let part (min : Nat) : Rule Pieces := do
    if ← atWord "let" then letCondition r beforeBody else r.expression beforeBody min
  let first ← part 0
  if ← look (·.spells "&&") then
    let more ← bounded (andMoreUpTo (part 4))
    return [.group (.other "let_chain") none (first ++ more)]
  else return first

def elseClause (r : Rules) : Rule Pieces :=
  node "else_clause" [keyword "else", do if ← atWord "if" then r.ifExpression else r.block]

def ifExpression (r : Rules) : Rule Pieces :=
  node "if_expression" [keyword "if", field "condition" (condition r true), field "consequence" r.block,
    ifWord "else" (field "alternative" (elseClause r))]

def matchPattern (r : Rules) : Rule Pieces :=
  node "match_pattern" [r.pattern,
    ifWord "if" (parts [keyword "if", field "condition" (condition r false)])]

def loopExpression (r : Rules) (labels : Pieces) : Rule Pieces := do
  let c ← get
  if c.atWord "while" then
    node "while_expression" [pure labels, keyword "while", field "condition" (condition r true),
      field "body" r.block]
  else if c.atWord "loop" then
    node "loop_expression" [pure labels, keyword "loop", field "body" r.block]
  else if c.atWord "for" then
    node "for_expression" [pure labels, keyword "for", field "pattern" r.pattern, keyword "in",
      field "value" (r.expression true 0), field "body" r.block]
  else reject

/-- One arm. After a block its comma may be left out, and after the last arm. -/
def matchArm (r : Rules) : Rule Pieces :=
  node "match_arm" [
    many (·.at_ "#") do
      if ← look isInnerAttribute then innerAttributeItem r else attributeItem r,
    field "pattern" (matchPattern r), mark "=>", do
      let first ← r.primary false
      let isWhole ← look fun c => endsWithBlock first && !continues ["*"] c
      let value ← if isWhole then pure first else climb r false 0 first
      let c ← get
      let inField := Route.inField "value" value
      if c.at_ "," then return inField ++ (← mark ",")
      else if endsWithBlock value || c.at_ "\x7d" then return inField
      else reject]

def matchBlock (r : Rules) : Rule Pieces :=
  node "match_block" [mark "\x7b", many (fun c => !c.at_ "\x7d" && !c.next.isEnd) (matchArm r),
    closing "\x7d"]

def primary (r : Rules) (beforeBody : Bool) : Rule Pieces := do
  let c ← get
  if isLiteral c.next then literal
  else if c.at_ "(" then parenthesized r
  else if c.at_ "[" then arrayExpression r
  else if c.at_ "\x7b" then r.block
  else if c.at_ "|" then closure r beforeBody
  else if c.at_ "-" then node "unary_expression" [mark "-", r.expression beforeBody unaryLevel]
  else if c.at_ "*" then node "unary_expression" [mark "*", r.expression beforeBody unaryLevel]
  else if c.at_ "!" then node "unary_expression" [mark "!", r.expression beforeBody unaryLevel]
  else if c.at_ "&" then
    node "reference_expression" [mark "&",
      if c.word 1 = "raw" && (c.word 2 = "const" || c.word 2 = "mut") then
        parts [keyword "raw", if c.word 2 = "const" then keyword "const" else mutSpecifier]
      else optMut,
      field "value" (r.expression beforeBody unaryLevel)]
  else if atDots c then
    node "range_expression" [mark "..",
      when_ (operandFollows beforeBody) (r.expression beforeBody (rangeLevel + 1))]
  else if atLifetime c then
    if (c.token 3).isMark '\x7b' then r.block else loopExpression r (← labelled)
  else
    match c.word 0 with
    | "if" => ifExpression r
    | "match" =>
      node "match_expression" [keyword "match", field "value" (r.expression true 0),
        field "body" (matchBlock r)]
    | "while" | "loop" | "for" => loopExpression r []
    | "unsafe" => node "unsafe_block" [keyword "unsafe", r.block]
    | "try" => node "try_block" [keyword "try", r.block]
    | "const" => constBlock r
    | "async" =>
      if (c.token 1).isMark '|' || (c.word 1 = "move" && (c.token 2).isMark '|') then
        closure r beforeBody
      else node "async_block" [keyword "async", optWord "move", r.block]
    | "gen" =>
      if (c.token 1).isMark '\x7b' || (c.word 1 = "move" && (c.token 2).isMark '\x7b') then
        node "gen_block" [keyword "gen", optWord "move", r.block]
      else pathExpression r beforeBody
    | "static" | "move" => closure r beforeBody
    | "return" =>
      node "return_expression" [keyword "return", when_ valueFollows (r.expression beforeBody 1)]
    | "yield" =>
      node "yield_expression" [keyword "yield", when_ valueFollows (r.expression beforeBody 1)]
    | "break" =>
      node "break_expression" [keyword "break", optLabel,
        when_ (fun c => operandFollows beforeBody c && !c.at_ "(") (r.expression beforeBody 1)]
    | "continue" => node "continue_expression" [keyword "continue", optLabel]
    | _ => pathExpression r beforeBody

def expression (r : Rules) (beforeBody : Bool) (min : Nat) : Rule Pieces := do
  climb r beforeBody min (← r.primary beforeBody)

end CrateUsage.Rust.Grammar
