import SharpToJava.Phrase.Basic
import SharpToJava.Phrase.Member
import SharpToJava.Tree.Place
import SharpToJava.Tree.TypeText

/-!
The phrase of an expression, one rule per kind of node. A kind without a rule is descended: what
has a rule below it is kept, a few punctuation tokens are copied, and the rest is dropped with a
note.
-/

namespace SharpToJava

/-- Drops the mark of a verbatim literal and escapes its backslashes. -/
def unverbatim (literal : String) : String :=
  match literal.toList with
  | '@' :: rest => String.ofList (rest.flatMap fun c => if c = '\\' then ['\\', '\\'] else [c])
  | _ => literal

/-- What a token leaves behind where its node is descended. -/
def Token.descentText (token : Token) : String :=
  match token.kind with
  | .identifier => token.text
  | .asterisk => " * "
  | .openParen => "("
  | .closeParen => ")"
  | .minus => " - "
  | .plus => " + "
  | .equals => " = "
  | .backslash => "\\"
  | .doubleQuote => "\""
  | .singleQuote => "'"
  | .comma => ", "
  | .newKeyword => "new "
  | _ => ""

/-- The kinds kept where their parent is descended: those with a rule, and the unknown ones. -/
def NodeKind.survivesDescent : NodeKind → Bool
  | .elementAccess | .memberAccess | .invocation | .cast | .objectCreation | .binary
  | .assignment | .postfixUnary | .prefixUnary | .literal | .await | .argument | .argumentList
  | .declarationExpression | .variableDesignation | .parenthesized | .thisReference | .arrayType
  | .arrayCreation | .identifierName | .genericName | .predefinedType | .qualifiedName
  | .nullableType | .unknown => true
  | _ => false

namespace Node

def literalText (node : Node) : String :=
  match node.firstToken? with
  | some token => if token.kind = .stringLiteral then unverbatim token.text else token.text
  | none => ""

/-- The name of the list that an element access reads, if its base is a variable of list type. -/
def listVariable? (node : Node) : Option String :=
  match node.pick? .expression with
  | some base =>
    if base.kind = .identifierName ∧ base.typeName = some "List" then some base.identifier
    else none
  | none => none

/-- Whether the source text of a callee is `Enum.Parse`. -/
def callsEnumParse (node : Node) : Bool :=
  node.kind == .invocation && node.slotTypeText .expression == "Enum.Parse"

/-- Whether an argument is known to be a text. -/
def isTextArgument (node : Node) : Bool :=
  (node.pick? .expression).any (·.typeName == some "String")

end Node

namespace Phrase

def member (base : Phrase) (name : Node) : Phrase :=
  match MemberRule.find? name.identifier name.symbol with
  | none => .join [base, .text ("." ++ name.identifier)]
  | some rule =>
    match rule.form with
    | .suffix ending => .join [base, .text ending]
    | .emptyText => .join [.text "new ", .unimportedType "string", .text "()"]

/-- Access to an element: by `get` for a list, of which the first index counts, else by brackets. -/
def element (listVariable : Option String) (base : Phrase) (indexes : List Phrase) : Phrase :=
  match listVariable, indexes with
  | some list, index :: _ => .join [.text (list ++ ".get("), index, .text ")"]
  | _, _ => .join (base :: indexes.map fun index => .join [.text "[", index, .text "]"])

/-- Without conventions only the type of a cast is written. -/
def cast (type : String) (operand : Phrase) : Phrase :=
  .join [.text "(", .type type, .text ")", .byConvention (.join [.text " ", operand]) empty]

/-- Reading an enum from a text is `valueOf`; without conventions the bare form `T(text` stays. -/
def enumParse (type : String) (argument : Option Phrase) : Phrase :=
  .join [.type type, .byConvention (.text ".valueOf(") (.text "("),
    match argument with
    | some found => .join [found, .byConvention (.text ")") empty]
    | none => .note (.noTextArgument type)]

/-- A new object. An initializer becomes one statement per member on the variable that holds the
object; without such a variable it is dropped. -/
def creation (type : String) (holder : Option String) (arguments : List Phrase)
    (initializer : Option (List Phrase)) : Phrase :=
  .join [.text "new ", .type type,
    match initializer, holder with
    | none, _ => parenthesized arguments
    | some [], _ => .text "()"
    | some _, none => .join [.text "()", .note (.droppedInitializer type)]
    | some members, some holder =>
      .join (.text "()" :: members.map fun member =>
        .join [.text ";", .newline, .text (holder ++ "."), member])]

end Phrase

namespace Place

/-- The phrase of the expression at a place. -/
def phrase (place : Place) : Phrase :=
  let node := place.node
  match node.kind with
  | .elementAccess =>
    Phrase.element node.listVariable?
      (Phrase.ofOption (place.mapSlot .expression fun base _ => base.phrase))
      (place.mapArguments .indexArguments fun index _ => index.phrase)
  | .memberAccess =>
    match node.pick? .memberName with
    | some name =>
      Phrase.member (Phrase.ofOption (place.mapSlot .expression fun base _ => base.phrase)) name
    | none => .memberWithoutName
  | .invocation =>
    .call (Phrase.ofOption (place.mapSlot .expression fun callee _ => callee.phrase))
      (place.mapArguments .callArguments fun argument _ => argument.phrase)
  | .cast =>
    let type := node.slotTypeText .statedType
    (place.mapSlot .castOperand fun operand smaller =>
      if operand.node.callsEnumParse then
        Phrase.enumParse type ((operand.mapArguments .callArguments fun argument deeper =>
          have := Nat.lt_trans deeper smaller
          if argument.node.isTextArgument then some argument.phrase else none).findSome? id)
      else Phrase.cast type operand.phrase).getD (Phrase.cast type Phrase.empty)
  | .objectCreation =>
    Phrase.creation (node.slotTypeText .statedType) place.declaredVariable?
      (place.mapArguments .callArguments fun argument _ => argument.phrase)
      (place.mapSlot .initializer fun list smaller => list.mapNodes fun member deeper =>
        have := Nat.lt_trans deeper smaller
        member.phrase)
  | .binary | .assignment =>
    .join [Phrase.ofOption (place.mapSlot .left fun operand _ => operand.phrase),
      .text (" " ++ node.operator ++ " "),
      Phrase.ofOption (place.mapSlot .right fun operand _ => operand.phrase)]
  | .postfixUnary =>
    .join [Phrase.ofOption (place.mapSlot .operand fun operand _ => operand.phrase),
      .text node.operator]
  | .prefixUnary =>
    .join [.text node.operator,
      Phrase.ofOption (place.mapSlot .operand fun operand _ => operand.phrase)]
  | .literal => .text node.literalText
  | .await | .argument =>
    Phrase.ofOption (place.mapSlot .expression fun inner _ => inner.phrase)
  | .argumentList =>
    Phrase.parenthesized (place.mapKind .argument fun argument _ => argument.phrase)
  | .declarationExpression =>
    match node.find? .variableDesignation with
    | some designation => .text designation.identifier
    | none => Phrase.empty
  | .variableDesignation => .text node.identifier
  | .parenthesized =>
    .join [.text "(", Phrase.ofOption (place.mapSlot .expression fun inner _ => inner.phrase),
      .text ")"]
  | .thisReference =>
    match node.firstToken? with
    | some token => .text token.text
    | none => .text "this"
  | .arrayType =>
    .join (.type (node.slotTypeText .type) ::
      place.mapKind .arrayRank fun rank smaller =>
        .join [.text "[",
          .join (rank.mapNodes fun size deeper =>
            have := Nat.lt_trans deeper smaller
            if size.kind = .omittedArraySize then Phrase.empty else size.phrase),
          .text "]"])
  | .arrayCreation => .join (.text "new " :: place.mapNodes fun part _ => part.phrase)
  | .identifierName => if node.identifier = "_" then .discard else .text node.identifier
  | .genericName | .predefinedType | .qualifiedName => .type node.typeText
  | .nullableType =>
    match node.firstNode? with
    | some inner => .type inner.typeText
    | none => Phrase.empty
  | kind =>
    .join [if kind = .unknown then .note (.noExpressionRule node.kindName) else Phrase.empty,
      .join (place.mapChildren (fun token => .text token.descentText) fun inner _ =>
        if inner.kind.survivesDescent then inner.phrase
        else .note (.dropped inner.node.kindName node.kindName))]
termination_by place.size

end Place

/-- The Java text of the expression at a place, on a line of the given depth. -/
def Place.expression (place : Place) (profile : Profile) (depth : Int) : RunM String :=
  place.phrase.render profile depth

end SharpToJava
