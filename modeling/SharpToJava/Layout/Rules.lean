import SharpToJava.Layout.Basic
import SharpToJava.Phrase.Rules
import SharpToJava.Tree.ForParts

/-!
The layout of a statement, one rule per kind of node. A kind without a rule is descended with a
note: statements and expressions below it are kept, its braces change the depth, and the rest is
dropped with a note.
-/

namespace SharpToJava

/-- What a token leaves behind where its node is descended as a statement. -/
def Token.descentLayout (token : Token) : Layout :=
  match token.kind with
  | .openBrace => .join [Layout.text " \x7b\n", .shift 1]
  | .closeBrace => .join [.shift (-1), Layout.finishLine, .indent, Layout.text "\x7d\n"]
  | .semicolon => Layout.text ";\n"
  | _ => Layout.text token.descentText

namespace Place

/-- The phrase of the expression in a slot, empty if the slot is. -/
def slotPhrase (place : Place) (slot : Slot) : Phrase :=
  match place.node.pick? slot with
  | some child => (place.enter child).phrase
  | none => Phrase.empty

/-- One variable of a declaration, with its value if it has one. -/
def declaratorPhrase (place : Place) : Phrase :=
  match place.node.childOfKind? .equalsValueClause with
  | some clause =>
    .join [.text (place.node.identifier ++ " = "), (place.enter clause).slotPhrase .value]
  | none => .text place.node.identifier

/-- `Type a = 1, b`. -/
def declarationPhrase (place : Place) : Phrase :=
  .join [.type (place.node.slotTypeText .type), .text " ",
    Phrase.separated ", " ((place.node.childrenOfKind .variableDeclarator).map fun declarator =>
      (place.enter declarator).declaratorPhrase)]

def forInitializerPhrase (place : Place) : Phrase :=
  if place.kind = .variableDecl then place.declarationPhrase else place.phrase

/-- `for (initializers; condition; incrementors)`. -/
def forHeaderPhrase (place : Place) : Phrase :=
  .join [.text "for (",
    Phrase.separated ", " (place.node.forInitializers.map fun part =>
      (place.enter part).forInitializerPhrase),
    .text "; ",
    Phrase.ofOption (place.node.forCondition?.map fun part => (place.enter part).phrase),
    .text "; ",
    Phrase.separated ", " (place.node.forIncrementors.map fun part => (place.enter part).phrase),
    .text ")"]

/-- The body of a loop, reached through the punctuation of its header. -/
def mapForStatement {α : Type} (place : Place)
    (f : (inner : Place) → inner.size < place.size → α) : Option α :=
  match found : place.node.forStatement? with
  | some statement => some (f (place.enter statement) (Node.size_lt_of_forStatement? found))
  | none => none

mutual
/-- The layout of the statement at a place. -/
def layout (place : Place) : Layout :=
  match place.kind with
  | .block =>
    let statements := place.mapNodes fun statement _ => statement.layout
    if place.isInside .block then .join [Layout.block false statements, Layout.newline]
    else Layout.block true statements
  | .expressionStatement => Layout.statement (place.slotPhrase .expression)
  | .forStatement =>
    .join [.indent, .phrase place.forHeaderPhrase,
      (place.mapForStatement fun body _ => body.bodyLayout).getD (Layout.text ";\n")]
  | .ifStatement => place.ifLayout
  | .elseClause => place.elseLayout
  | .returnStatement =>
    Layout.statement (.join [.text "return", .ledBy " " (place.slotPhrase .expression)])
  | .continueStatement => Layout.statement (.text "continue")
  | .breakStatement => Layout.statement (.text "break")
  | .localDeclStatement =>
    match place.node.pick? .declaration with
    | some declaration => Layout.statement (place.enter declaration).declarationPhrase
    | none => Layout.empty
  | .variableDecl => .phrase place.declarationPhrase
  | .arrayType => .phrase place.phrase
  | _ =>
    .join [Layout.note (.noStatementRule place.node.kindName), .indent, place.descentLayout,
      Layout.finishLine]
termination_by 3 * place.size + 1

/-- The statement after the header of a loop or branch: a block stays on the line of the header,
anything else goes below it. -/
def bodyLayout (place : Place) : Layout :=
  if place.kind = .block then
    .join [Layout.block true (place.mapNodes fun statement _ => statement.layout), Layout.newline]
  else .join [Layout.newline, Layout.deeper place.layout]
termination_by 3 * place.size + 2

/-- A branch; directly inside an `else` it goes on with that line. -/
def ifLayout (place : Place) : Layout :=
  .join [if place.isInside .elseClause then Layout.empty else .indent,
    .phrase (.join [.text "if (", place.slotPhrase .condition, .text ")"]),
    (place.mapSlot .branch fun body _ => body.bodyLayout).getD (Layout.text ";\n"),
    Layout.ofOption (place.mapSlot .elseBranch fun other _ => other.elseLayout)]
termination_by 3 * place.size

def elseLayout (place : Place) : Layout :=
  Layout.ofOption (place.mapSlot .elseStatement fun statement smaller =>
    match statement.kind with
    | .ifStatement => .join [.indent, Layout.text "else ", statement.ifLayout]
    | .block =>
      .join [.indent, Layout.text "else",
        Layout.block true (statement.mapNodes fun inner deeper =>
          have := Nat.lt_trans deeper smaller
          inner.layout),
        Layout.newline]
    | _ => .join [.indent, Layout.text "else\n", Layout.deeper statement.layout])
termination_by 3 * place.size

/-- The children of a node without a rule, in order. -/
def descentLayout (place : Place) : Layout :=
  .join (place.mapChildren Token.descentLayout fun inner _ =>
    if inner.kind = .variableDecl then .phrase inner.declarationPhrase
    else if inner.kind.isStatement then
      .byLineStart fun fresh => if fresh then inner.layout else inner.bodyLayout
    else if inner.kind.isExpression then .phrase inner.phrase
    else if inner.kind = .unknown then
      .join [Layout.note (.noStatementRule inner.node.kindName),
        .byLineStart fun fresh =>
          if fresh then .join [.indent, inner.descentLayout, Layout.finishLine]
          else inner.descentLayout]
    else Layout.note (.dropped inner.node.kindName place.node.kindName))
termination_by 3 * place.size
end

/-- The body of a member whose header stands at `depth`. -/
def block (place : Place) (profile : Profile) (depth : Int) : RunM String :=
  (Layout.block true (place.node.childNodes.map fun statement =>
    (place.enter statement).layout)).render profile depth

/-- The body of a member that is given by one expression. -/
def arrowBody (place : Place) (profile : Profile) (depth : Int) (returnsValue : Bool) :
    RunM String :=
  (Layout.block true [Layout.statement
    (.join [.text (if returnsValue then "return " else ""), place.phrase])]).render profile depth

/-- Writes the statement at a place at the end of a fragment. -/
def writeStatement (place : Place) (profile : Profile) (fragment : Fragment) : RunM Fragment :=
  place.layout.write profile fragment

end Place

end SharpToJava
