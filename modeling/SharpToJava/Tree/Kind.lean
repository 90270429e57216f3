import SharpToJava.Text.Quoted

/-!
Kinds of the syntax tree: node kinds, token kinds and the kinds of symbol a name can stand for.
Every kind has one name in a syntax dump; operators and literals have further names there, and a
name that nobody knows is an unknown kind, never an error.
-/

namespace SharpToJava

/-- The shape of a node. Operators and literals have one shape each, whatever the operator. -/
inductive NodeKind where
  | compilationUnit | namespaceDecl | fileScopedNamespaceDecl | classDecl | enumDecl
  | enumMember | methodDecl | fieldDecl | propertyDecl | accessorList | getAccessor
  | setAccessor | arrowClause | baseList | simpleBaseType | parameterList | parameter
  | variableDecl | variableDeclarator | equalsValueClause
  | block | expressionStatement | forStatement | ifStatement | elseClause | returnStatement
  | continueStatement | breakStatement | localDeclStatement
  | elementAccess | bracketedArgumentList | memberAccess | invocation | argumentList | argument
  | cast | objectCreation | objectInitializer | binary | assignment | postfixUnary | prefixUnary
  | literal | await | declarationExpression | variableDesignation | parenthesized
  | thisReference | arrayCreation | omittedArraySize
  | identifierName | genericName | typeArgumentList | predefinedType | qualifiedName | arrayType
  | arrayRank | nullableType
  | unknown
  deriving DecidableEq, Repr, Inhabited

namespace NodeKind

def name : NodeKind → String
  | .compilationUnit => "CompilationUnit"
  | .namespaceDecl => "NamespaceDeclaration"
  | .fileScopedNamespaceDecl => "FileScopedNamespaceDeclaration"
  | .classDecl => "ClassDeclaration"
  | .enumDecl => "EnumDeclaration"
  | .enumMember => "EnumMemberDeclaration"
  | .methodDecl => "MethodDeclaration"
  | .fieldDecl => "FieldDeclaration"
  | .propertyDecl => "PropertyDeclaration"
  | .accessorList => "AccessorList"
  | .getAccessor => "GetAccessorDeclaration"
  | .setAccessor => "SetAccessorDeclaration"
  | .arrowClause => "ArrowExpressionClause"
  | .baseList => "BaseList"
  | .simpleBaseType => "SimpleBaseType"
  | .parameterList => "ParameterList"
  | .parameter => "Parameter"
  | .variableDecl => "VariableDeclaration"
  | .variableDeclarator => "VariableDeclarator"
  | .equalsValueClause => "EqualsValueClause"
  | .block => "Block"
  | .expressionStatement => "ExpressionStatement"
  | .forStatement => "ForStatement"
  | .ifStatement => "IfStatement"
  | .elseClause => "ElseClause"
  | .returnStatement => "ReturnStatement"
  | .continueStatement => "ContinueStatement"
  | .breakStatement => "BreakStatement"
  | .localDeclStatement => "LocalDeclarationStatement"
  | .elementAccess => "ElementAccessExpression"
  | .bracketedArgumentList => "BracketedArgumentList"
  | .memberAccess => "SimpleMemberAccessExpression"
  | .invocation => "InvocationExpression"
  | .argumentList => "ArgumentList"
  | .argument => "Argument"
  | .cast => "CastExpression"
  | .objectCreation => "ObjectCreationExpression"
  | .objectInitializer => "ObjectInitializerExpression"
  | .binary => "BinaryExpression"
  | .assignment => "AssignmentExpression"
  | .postfixUnary => "PostfixUnaryExpression"
  | .prefixUnary => "PrefixUnaryExpression"
  | .literal => "LiteralExpression"
  | .await => "AwaitExpression"
  | .declarationExpression => "DeclarationExpression"
  | .variableDesignation => "SingleVariableDesignation"
  | .parenthesized => "ParenthesizedExpression"
  | .thisReference => "ThisExpression"
  | .arrayCreation => "ArrayCreationExpression"
  | .omittedArraySize => "OmittedArraySizeExpression"
  | .identifierName => "IdentifierName"
  | .genericName => "GenericName"
  | .typeArgumentList => "TypeArgumentList"
  | .predefinedType => "PredefinedType"
  | .qualifiedName => "QualifiedName"
  | .arrayType => "ArrayType"
  | .arrayRank => "ArrayRankSpecifier"
  | .nullableType => "NullableType"
  | .unknown => "Unknown"

/-- Every kind, in the order of its declaration. -/
def all : List NodeKind :=
  [.compilationUnit, .namespaceDecl, .fileScopedNamespaceDecl, .classDecl, .enumDecl,
   .enumMember, .methodDecl, .fieldDecl, .propertyDecl, .accessorList, .getAccessor,
   .setAccessor, .arrowClause, .baseList, .simpleBaseType, .parameterList, .parameter,
   .variableDecl, .variableDeclarator, .equalsValueClause, .block, .expressionStatement,
   .forStatement, .ifStatement, .elseClause, .returnStatement, .continueStatement,
   .breakStatement, .localDeclStatement, .elementAccess, .bracketedArgumentList, .memberAccess,
   .invocation, .argumentList, .argument, .cast, .objectCreation, .objectInitializer, .binary,
   .assignment, .postfixUnary, .prefixUnary, .literal, .await, .declarationExpression,
   .variableDesignation, .parenthesized, .thisReference, .arrayCreation, .omittedArraySize,
   .identifierName, .genericName, .typeArgumentList, .predefinedType, .qualifiedName,
   .arrayType, .arrayRank, .nullableType, .unknown]

/-- Operators and literals come with one name per operator; only the shape matters here. -/
def aliases : List (String × NodeKind) :=
  ["AddExpression", "SubtractExpression", "MultiplyExpression", "DivideExpression",
    "ModuloExpression", "LessThanExpression", "GreaterThanExpression",
    "LessThanOrEqualExpression", "GreaterThanOrEqualExpression", "EqualsExpression",
    "NotEqualsExpression", "LogicalAndExpression", "LogicalOrExpression", "BitwiseAndExpression",
    "BitwiseOrExpression", "LeftShiftExpression", "RightShiftExpression"].map (·, binary) ++
  ["SimpleAssignmentExpression", "AddAssignmentExpression", "SubtractAssignmentExpression",
    "MultiplyAssignmentExpression", "DivideAssignmentExpression",
    "ModuloAssignmentExpression"].map (·, assignment) ++
  ["PostIncrementExpression", "PostDecrementExpression"].map (·, postfixUnary) ++
  ["PreIncrementExpression", "PreDecrementExpression", "LogicalNotExpression",
    "UnaryMinusExpression"].map (·, prefixUnary) ++
  ["NumericLiteralExpression", "StringLiteralExpression", "CharacterLiteralExpression",
    "TrueLiteralExpression", "FalseLiteralExpression", "NullLiteralExpression"].map (·, literal)

/-- The kind a dump names, directly or by an alias; `unknown` for every other name. -/
def ofName (name : String) : NodeKind :=
  match all.find? (·.name == name) with
  | some kind => kind
  | none => (aliases.lookup name).getD unknown

/-- Kinds a statement rule renders, or a variable declaration inside a statement. -/
def isStatement : NodeKind → Bool
  | .block | .expressionStatement | .forStatement | .ifStatement | .elseClause
  | .returnStatement | .continueStatement | .breakStatement | .localDeclStatement
  | .variableDecl => true
  | _ => false

/-- Kinds that count as an expression inside a statement without a rule of its own. -/
def isExpression : NodeKind → Bool
  | .elementAccess | .memberAccess | .invocation | .cast | .objectCreation | .binary
  | .assignment | .postfixUnary | .prefixUnary | .literal | .await | .declarationExpression
  | .parenthesized | .thisReference | .arrayCreation | .identifierName | .genericName
  | .predefinedType | .qualifiedName | .arrayType => true
  | _ => false

end NodeKind

/-- The kind of a token; the text rides on the token itself. -/
inductive TokenKind where
  | identifier
  | publicKeyword | privateKeyword | protectedKeyword | internalKeyword | staticKeyword
  | abstractKeyword | sealedKeyword | readOnlyKeyword | constKeyword | virtualKeyword
  | overrideKeyword | asyncKeyword | partialKeyword
  | newKeyword | classKeyword | enumKeyword | namespaceKeyword | returnKeyword | ifKeyword
  | elseKeyword | forKeyword | continueKeyword | breakKeyword | thisKeyword | awaitKeyword
  | getKeyword | setKeyword | trueKeyword | falseKeyword | nullKeyword | predefinedTypeKeyword
  | openBrace | closeBrace | openParen | closeParen | openBracket | closeBracket | lessThan
  | greaterThan | semicolon | comma | dot | colon | equals | arrow | plus | minus | asterisk
  | slash | backslash | doubleQuote | singleQuote | question | operator
  | numericLiteral | stringLiteral | characterLiteral
  | unknown
  deriving DecidableEq, Repr, Inhabited

namespace TokenKind

def name : TokenKind → String
  | .identifier => "IdentifierToken"
  | .publicKeyword => "PublicKeyword"
  | .privateKeyword => "PrivateKeyword"
  | .protectedKeyword => "ProtectedKeyword"
  | .internalKeyword => "InternalKeyword"
  | .staticKeyword => "StaticKeyword"
  | .abstractKeyword => "AbstractKeyword"
  | .sealedKeyword => "SealedKeyword"
  | .readOnlyKeyword => "ReadOnlyKeyword"
  | .constKeyword => "ConstKeyword"
  | .virtualKeyword => "VirtualKeyword"
  | .overrideKeyword => "OverrideKeyword"
  | .asyncKeyword => "AsyncKeyword"
  | .partialKeyword => "PartialKeyword"
  | .newKeyword => "NewKeyword"
  | .classKeyword => "ClassKeyword"
  | .enumKeyword => "EnumKeyword"
  | .namespaceKeyword => "NamespaceKeyword"
  | .returnKeyword => "ReturnKeyword"
  | .ifKeyword => "IfKeyword"
  | .elseKeyword => "ElseKeyword"
  | .forKeyword => "ForKeyword"
  | .continueKeyword => "ContinueKeyword"
  | .breakKeyword => "BreakKeyword"
  | .thisKeyword => "ThisKeyword"
  | .awaitKeyword => "AwaitKeyword"
  | .getKeyword => "GetKeyword"
  | .setKeyword => "SetKeyword"
  | .trueKeyword => "TrueKeyword"
  | .falseKeyword => "FalseKeyword"
  | .nullKeyword => "NullKeyword"
  | .predefinedTypeKeyword => "PredefinedTypeKeyword"
  | .openBrace => "OpenBraceToken"
  | .closeBrace => "CloseBraceToken"
  | .openParen => "OpenParenToken"
  | .closeParen => "CloseParenToken"
  | .openBracket => "OpenBracketToken"
  | .closeBracket => "CloseBracketToken"
  | .lessThan => "LessThanToken"
  | .greaterThan => "GreaterThanToken"
  | .semicolon => "SemicolonToken"
  | .comma => "CommaToken"
  | .dot => "DotToken"
  | .colon => "ColonToken"
  | .equals => "EqualsToken"
  | .arrow => "EqualsGreaterThanToken"
  | .plus => "PlusToken"
  | .minus => "MinusToken"
  | .asterisk => "AsteriskToken"
  | .slash => "SlashToken"
  | .backslash => "BackslashToken"
  | .doubleQuote => "DoubleQuoteToken"
  | .singleQuote => "SingleQuoteToken"
  | .question => "QuestionToken"
  | .operator => "OperatorToken"
  | .numericLiteral => "NumericLiteralToken"
  | .stringLiteral => "StringLiteralToken"
  | .characterLiteral => "CharacterLiteralToken"
  | .unknown => "Unknown"

/-- Every kind, in the order of its declaration. -/
def all : List TokenKind :=
  [.identifier, .publicKeyword, .privateKeyword, .protectedKeyword, .internalKeyword,
   .staticKeyword, .abstractKeyword, .sealedKeyword, .readOnlyKeyword, .constKeyword,
   .virtualKeyword, .overrideKeyword, .asyncKeyword, .partialKeyword, .newKeyword,
   .classKeyword, .enumKeyword, .namespaceKeyword, .returnKeyword, .ifKeyword, .elseKeyword,
   .forKeyword, .continueKeyword, .breakKeyword, .thisKeyword, .awaitKeyword, .getKeyword,
   .setKeyword, .trueKeyword, .falseKeyword, .nullKeyword, .predefinedTypeKeyword, .openBrace,
   .closeBrace, .openParen, .closeParen, .openBracket, .closeBracket, .lessThan, .greaterThan,
   .semicolon, .comma, .dot, .colon, .equals, .arrow, .plus, .minus, .asterisk, .slash,
   .backslash, .doubleQuote, .singleQuote, .question, .operator, .numericLiteral,
   .stringLiteral, .characterLiteral, .unknown]

/-- Keywords that name a built-in type. -/
def predefinedTypeKeywords : List String :=
  ["StringKeyword", "IntKeyword", "BoolKeyword", "FloatKeyword", "DoubleKeyword", "VoidKeyword",
    "ObjectKeyword", "CharKeyword", "LongKeyword", "ByteKeyword", "ShortKeyword",
    "DecimalKeyword", "UIntKeyword", "ULongKeyword"]

/-- The kind a dump names; the keyword of any built-in type is one kind. -/
def ofName (name : String) : TokenKind :=
  match all.find? (·.name == name) with
  | some kind => kind
  | none => if predefinedTypeKeywords.contains name then predefinedTypeKeyword else unknown

/-- Keywords that can stand in front of a declaration. -/
def isModifier : TokenKind → Bool
  | .publicKeyword | .privateKeyword | .protectedKeyword | .internalKeyword | .staticKeyword
  | .abstractKeyword | .sealedKeyword | .readOnlyKeyword | .constKeyword | .virtualKeyword
  | .overrideKeyword | .asyncKeyword | .partialKeyword => true
  | _ => false

end TokenKind

/-- What a name in the source stands for. -/
inductive SymbolKind where
  | field | property | method | namedType | alias | localVariable | parameter
  deriving DecidableEq, Repr, Inhabited

namespace SymbolKind

def name : SymbolKind → String
  | .field => "Field"
  | .property => "Property"
  | .method => "Method"
  | .namedType => "Type"
  | .alias => "Alias"
  | .localVariable => "Local"
  | .parameter => "Parameter"

def all : List SymbolKind :=
  [.field, .property, .method, .namedType, .alias, .localVariable, .parameter]

def ofName? (name : String) : Option SymbolKind :=
  all.find? (·.name == name)

/-- Says that a name is no kind of symbol. -/
def rejection (name : String) : String := Text.quote name ++ " is not a valid SymbolKind"

/-- The kind of a symbol in a dump, where types go by further names. -/
def ofDumpName? (name : String) : Option SymbolKind :=
  if ["NamedType", "TypeParameter", "ArrayType"].contains name then some namedType
  else ofName? name

end SymbolKind

end SharpToJava
