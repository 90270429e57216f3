import SharpToJava.Proofs.ArrayBrackets
import SharpToJava.Proofs.Layout.Position

/-!
The header of a loop. The parts of a loop are told apart by the punctuation among its own children
alone: whatever the parts are and whichever of them are missing, each comes back in its place, since
punctuation further down is not looked at. The header is written from these parts, with a semicolon
between the sections and a comma between the items of a section.
-/

namespace SharpToJava

/-- What tells the parts of a loop apart: of a token its kind, of a node all there is. -/
def Child.mark : Child → TokenKind ⊕ Node
  | .token found => .inl found.kind
  | .node found => .inr found

namespace Node

def isMarkOf (kind : TokenKind) : TokenKind ⊕ Node → Bool
  | .inl found => found == kind
  | .inr _ => false

theorem isTokenOf_eq (kind : TokenKind) (child : Child) :
    isTokenOf kind child = isMarkOf kind child.mark := by
  cases child <;> rfl

theorem filterMap_node? (children : List Child) :
    children.filterMap Child.node? = (children.map Child.mark).filterMap Sum.getRight? := by
  rw [List.filterMap_map]
  congr 1
  funext child
  cases child <;> rfl

/-- Children are cut where a kind of token first occurs. -/
theorem marks_of_cut {kind : TokenKind} {children : List Child}
    {before after : List (TokenKind ⊕ Node)}
    (free : ∀ mark ∈ before, isMarkOf kind mark = false)
    (marks : children.map Child.mark = before ++ .inl kind :: after) :
    (upTo kind children).map Child.mark = before ∧ (past kind children).map Child.mark = after := by
  have other : (fun child => !isTokenOf kind child) =
      (fun mark => !isMarkOf kind mark) ∘ Child.mark := by
    funext child
    rw [isTokenOf_eq, Function.comp_apply]
  have passed : ∀ mark ∈ before, (!isMarkOf kind mark) = true := by
    intro mark member
    rw [free mark member, Bool.not_false]
  have stopped : (!isMarkOf kind (.inl kind)) = false := by simp [isMarkOf]
  constructor
  · rw [upTo, other, ← List.takeWhile_map, marks, List.takeWhile_append_of_pos passed,
      List.takeWhile_cons, stopped]
    simp
  · rw [past, other, List.map_tail, ← List.dropWhile_map, marks, List.dropWhile_append_of_pos passed,
      List.dropWhile_cons, stopped]
    rfl

/-- Nodes with commas between them. -/
def listed (nodes : List Node) : List (TokenKind ⊕ Node) :=
  (nodes.map .inr).intersperse (.inl .comma)

theorem isMarkOf_listed {kind : TokenKind} (noComma : kind ≠ .comma) (nodes : List Node) :
    ∀ mark ∈ listed nodes, isMarkOf kind mark = false := by
  intro mark member
  rcases mem_of_mem_intersperse member with isNode | isComma
  · obtain ⟨node, -, rfl⟩ := List.mem_map.mp isNode
    rfl
  · rw [isComma]
    exact beq_false_of_ne (Ne.symm noComma)

theorem filterMap_listed (nodes : List Node) : (listed nodes).filterMap Sum.getRight? = nodes := by
  unfold listed
  induction nodes with
  | nil => rfl
  | cons first rest ih =>
      cases rest with
      | nil => rfl
      | cons second rest =>
          rw [List.map_cons] at ih
          rw [List.map_cons, List.map_cons, List.intersperse_cons_cons, List.filterMap_cons,
            List.filterMap_cons, ih]
          rfl

/-- `for ( initializers ; condition ; incrementors ) statement` -/
def loopMarks (initializers : List Node) (condition : Option Node) (incrementors : List Node)
    (statement : Option Node) : List (TokenKind ⊕ Node) :=
  .inl .forKeyword :: .inl .openParen :: listed initializers ++
    .inl .semicolon :: condition.toList.map .inr ++
    .inl .semicolon :: listed incrementors ++
    .inl .closeParen :: statement.toList.map .inr

theorem filterMap_optional (part : Option Node) :
    ((part.toList.map Sum.inr : List (TokenKind ⊕ Node)).filterMap Sum.getRight?).getLast? =
      part := by
  cases part <;> rfl

theorem isMarkOf_optional (kind : TokenKind) (part : Option Node) :
    ∀ mark ∈ (part.toList.map Sum.inr : List (TokenKind ⊕ Node)), isMarkOf kind mark = false := by
  intro mark member
  obtain ⟨node, -, rfl⟩ := List.mem_map.mp member
  rfl

/-- A loop gives back the parts that it was put together from. -/
theorem forParts_of_marks {node : Node} {initializers incrementors : List Node}
    {condition statement : Option Node}
    (marks : node.children.map Child.mark =
      loopMarks initializers condition incrementors statement) :
    node.forInitializers = initializers ∧ node.forCondition? = condition ∧
      node.forIncrementors = incrementors ∧ node.forStatement? = statement := by
  have noParen : ∀ mark ∈ .inl .forKeyword :: .inl .openParen :: listed initializers ++
      .inl .semicolon :: condition.toList.map .inr ++ .inl .semicolon :: listed incrementors,
      isMarkOf .closeParen mark = false := by
    simp only [List.forall_mem_append, List.forall_mem_cons]
    exact ⟨⟨⟨rfl, rfl, isMarkOf_listed (by decide) _⟩, rfl, isMarkOf_optional _ _⟩, rfl,
      isMarkOf_listed (by decide) _⟩
  have noSemicolon : ∀ mark ∈ .inl .forKeyword :: .inl .openParen :: listed initializers,
      isMarkOf .semicolon mark = false := by
    simp only [List.forall_mem_cons]
    exact ⟨rfl, rfl, isMarkOf_listed (by decide) _⟩
  -- the closing parenthesis is cut at first, then the two semicolons before it
  obtain ⟨header, body⟩ := marks_of_cut noParen marks
  rw [List.append_assoc] at header
  obtain ⟨first, others⟩ := marks_of_cut noSemicolon header
  obtain ⟨second, third⟩ := marks_of_cut (isMarkOf_optional .semicolon condition) others
  refine ⟨?_, ?_, ?_, ?_⟩
  · rw [forInitializers, forHeader, filterMap_node?, first]
    exact filterMap_listed initializers
  · rw [forCondition?, forHeader, filterMap_node?, second]
    exact filterMap_optional condition
  · rw [forIncrementors, forHeader, filterMap_node?, third]
    exact filterMap_listed incrementors
  · rw [forStatement?, filterMap_node?, body]
    exact filterMap_optional statement

end Node

namespace Phrase

theorem render_separated (profile : Profile) (depth : Int) (separator : String)
    (parts : List Phrase) :
    (separated separator parts).render profile depth =
      separator.intercalate <$> parts.mapM (·.render profile depth) := by
  unfold separated
  induction parts with
  | nil => simp
  | cons first rest ih =>
      cases rest with
      | nil => simp [render_join_cons]
      | cons second rest =>
          rw [List.intersperse_cons_cons, render_join_cons, render_join_cons, ih, List.mapM_cons,
            List.mapM_cons]
          simp [String.append_assoc]

end Phrase

namespace Place

variable (place : Place) (profile : Profile)

/-- The text of a part that need not be there. -/
def optionalExpression (depth : Int) : Option Node → RunM String
  | some part => (place.enter part).expression profile depth
  | none => return ""

/-- The header of a loop with these parts, each part written apart. -/
def loopHeader (depth : Int) (initializers : List Node) (condition : Option Node)
    (incrementors : List Node) : RunM String := do
  let first ← initializers.mapM fun part =>
    if part.kind = .variableDecl then (place.enter part).declarationPhrase.render profile depth
    else (place.enter part).expression profile depth
  let second ← place.optionalExpression profile depth condition
  let third ← incrementors.mapM fun part => (place.enter part).expression profile depth
  return "for (" ++ "; ".intercalate [", ".intercalate first, second, ", ".intercalate third] ++ ")"

theorem render_forHeaderPhrase (depth : Int) :
    place.forHeaderPhrase.render profile depth =
      place.loopHeader profile depth place.node.forInitializers place.node.forCondition?
        place.node.forIncrementors := by
  have initializer : ∀ part : Node, (place.enter part).forInitializerPhrase.render profile depth =
      if part.kind = .variableDecl then (place.enter part).declarationPhrase.render profile depth
      else (place.enter part).expression profile depth := by
    intro part
    unfold forInitializerPhrase
    split
    case isTrue kind => exact (if_pos kind).symm
    case isFalse kind => exact (if_neg kind).symm
  have condition : (Phrase.ofOption (place.node.forCondition?.map fun part =>
      (place.enter part).phrase)).render profile depth =
        place.optionalExpression profile depth place.node.forCondition? := by
    cases place.node.forCondition? with
    | none => exact Phrase.render_join_nil profile depth
    | some part => rfl
  unfold forHeaderPhrase loopHeader
  simp only [Phrase.render_join_cons, Phrase.render_text, Phrase.render_separated, List.mapM_map,
    Function.comp_def, initializer, condition, Phrase.render_join_nil]
  -- both sides run the parts in the same order; what is left is how their texts are joined
  simp only [bind_pure_comp, map_pure, String.append_empty, bind_pure, Functor.map_map, pure_bind,
    map_bind, bind_map_left, String.intercalate_cons_cons, String.intercalate_singleton,
    String.append_assoc]
  rfl

theorem writeStatement_forStatement (kind : place.kind = .forStatement) (fragment : Fragment) :
    place.writeStatement profile fragment = (do
      let header ← place.forHeaderPhrase.render profile fragment.depth
      ((place.node.forStatement?.map fun body => (place.enter body).bodyLayout).getD
        (Layout.text ";\n")).write profile ((fragment.append fragment.indent).append header)) := by
  unfold writeStatement layout
  simp only [kind, mapForStatement_eq_map, Layout.write, Layout.writeAll]
  simp

end Place

/-- Where the children of a loop are its parts with the punctuation between them, the loop gives back
exactly these parts, whatever nodes they are. Its header is their texts, the sections joined by
semicolons and the items of a section by commas, and the loop is written as this header followed by
its body. -/
theorem loop_parts_and_header (place : Place) (initializers : List Node) (condition : Option Node)
    (incrementors : List Node) (statement : Option Node)
    (marks : place.node.children.map Child.mark =
      Node.loopMarks initializers condition incrementors statement) :
    place.node.forInitializers = initializers ∧ place.node.forCondition? = condition ∧
      place.node.forIncrementors = incrementors ∧ place.node.forStatement? = statement ∧
      ∀ profile,
        (∀ depth, place.forHeaderPhrase.render profile depth =
          place.loopHeader profile depth initializers condition incrementors) ∧
        (place.kind = .forStatement → ∀ fragment, place.writeStatement profile fragment = (do
          let header ← place.loopHeader profile fragment.depth initializers condition incrementors
          ((statement.map fun body => (place.enter body).bodyLayout).getD
            (Layout.text ";\n")).write profile
              ((fragment.append fragment.indent).append header))) := by
  obtain ⟨first, second, third, last⟩ := Node.forParts_of_marks marks
  have header : ∀ profile depth, place.forHeaderPhrase.render profile depth =
      place.loopHeader profile depth initializers condition incrementors := by
    intro profile depth
    rw [place.render_forHeaderPhrase, first, second, third]
  refine ⟨first, second, third, last, fun profile => ⟨header profile, ?_⟩⟩
  intro kind fragment
  rw [place.writeStatement_forStatement profile kind, header, last]

namespace Node

/-- `f(x)`, with parentheses of its own. -/
def callOfX : Node :=
  .mk { kind := .invocation } [
    .node (.mk { kind := .identifierName } [.token { kind := .identifier, text := "f" }]),
    .node (.mk { kind := .argumentList } [
      .token { kind := .openParen, text := "(" },
      .node (.mk { kind := .argument } [
        .node (.mk { kind := .identifierName } [.token { kind := .identifier, text := "x" }])]),
      .token { kind := .closeParen, text := ")" }])]

/-- `for (f(x), i; ; f(x)) break;` -/
def loopOfCalls : Node :=
  .mk { kind := .forStatement } [
    .token { kind := .forKeyword, text := "for" },
    .token { kind := .openParen, text := "(" },
    .node callOfX,
    .token { kind := .comma, text := "," },
    .node (.mk { kind := .identifierName, role := some "condition" }
      [.token { kind := .identifier, text := "i" }]),
    .token { kind := .semicolon, text := ";" },
    .token { kind := .semicolon, text := ";" },
    .node callOfX,
    .token { kind := .closeParen, text := ")" },
    .node (.mk { kind := .breakStatement } [
      .token { kind := .breakKeyword, text := "break" },
      .token { kind := .semicolon, text := ";" }])]

end Node

theorem loop_parts_and_header_calls :
    Node.loopOfCalls.forInitializers.length = 2 ∧ Node.loopOfCalls.forCondition?.isNone ∧
      Node.loopOfCalls.forIncrementors.length = 1 ∧
      ∃ after, (Fragment.text <$> (⟨Node.loopOfCalls, []⟩ : Place).writeStatement
        (Profile.java true) {}).run Journal.java =
          .ok "for (f(x), i; ; f(x))\n\tbreak;\n" after := by
  obtain ⟨initializers, condition, incrementors, -, written⟩ :=
    loop_parts_and_header ⟨Node.loopOfCalls, []⟩
      [Node.callOfX, .mk { kind := .identifierName, role := some "condition" }
        [.token { kind := .identifier, text := "i" }]]
      none [Node.callOfX]
      (some (.mk { kind := .breakStatement } [
        .token { kind := .breakKeyword, text := "break" },
        .token { kind := .semicolon, text := ";" }])) rfl
  refine ⟨congrArg List.length initializers, congrArg Option.isNone condition,
    congrArg List.length incrementors, ?_⟩
  rw [(written (Profile.java true)).2 rfl]
  exact RunM.exists_of_result? (by decide +kernel)

end SharpToJava
