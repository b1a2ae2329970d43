namespace CrateUsage

/-- What a syntax node is. The kinds that decide which crates a file uses have constructors of
their own; every other kind keeps its name. -/
inductive Kind where
  | sourceFile
  | useDeclaration
  | useList
  | scopedUseList
  | useWildcard
  | useAsClause
  | externCrateDeclaration
  | modItem
  | functionItem
  | implItem
  | traitItem
  | declarationList
  | block
  | attributeItem
  | attributeBody
  | tokenTree
  | lineComment
  | blockComment
  | identifier
  | typeIdentifier
  | primitiveType
  | metavariable
  | crateWord
  | selfWord
  | superWord
  | scopedIdentifier
  | scopedTypeIdentifier
  | genericType
  | typeArguments
  | openParen
  | closeParen
  | other (name : String)
  deriving DecidableEq, Repr, Inhabited

namespace Kind

def name : Kind → String
  | sourceFile => "source_file"
  | useDeclaration => "use_declaration"
  | useList => "use_list"
  | scopedUseList => "scoped_use_list"
  | useWildcard => "use_wildcard"
  | useAsClause => "use_as_clause"
  | externCrateDeclaration => "extern_crate_declaration"
  | modItem => "mod_item"
  | functionItem => "function_item"
  | implItem => "impl_item"
  | traitItem => "trait_item"
  | declarationList => "declaration_list"
  | block => "block"
  | attributeItem => "attribute_item"
  | attributeBody => "attribute"
  | tokenTree => "token_tree"
  | lineComment => "line_comment"
  | blockComment => "block_comment"
  | identifier => "identifier"
  | typeIdentifier => "type_identifier"
  | primitiveType => "primitive_type"
  | metavariable => "metavariable"
  | crateWord => "crate"
  | selfWord => "self"
  | superWord => "super"
  | scopedIdentifier => "scoped_identifier"
  | scopedTypeIdentifier => "scoped_type_identifier"
  | genericType => "generic_type"
  | typeArguments => "type_arguments"
  | openParen => "("
  | closeParen => ")"
  | other name => name

def known : List Kind :=
  [sourceFile, useDeclaration, useList, scopedUseList, useWildcard, useAsClause,
    externCrateDeclaration, modItem, functionItem, implItem, traitItem, declarationList, block,
    attributeItem, attributeBody, tokenTree, lineComment, blockComment, identifier, typeIdentifier,
    primitiveType, metavariable, crateWord, selfWord, superWord, scopedIdentifier,
    scopedTypeIdentifier, genericType, typeArguments, openParen, closeParen]

def ofName (name : String) : Kind :=
  (known.find? (·.name == name)).getD (.other name)

theorem name_ofName (s : String) : (ofName s).name = s := by
  unfold ofName
  cases h : known.find? (·.name == s) with
  | none => rfl
  | some k => simpa using List.find?_some h

def isComment : Kind → Bool
  | lineComment | blockComment => true
  | _ => false

def isScopedPath : Kind → Bool
  | scopedIdentifier | scopedTypeIdentifier => true
  | _ => false

def isSegment : Kind → Bool
  | identifier | typeIdentifier | primitiveType | crateWord | selfWord | superWord
  | metavariable => true
  | _ => false

end Kind
end CrateUsage
