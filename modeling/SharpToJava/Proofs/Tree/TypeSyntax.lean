import SharpToJava.Proofs.Tree.Below

/-!
The text of a type beside its tokens. A rule puts the text of a type together from a few children
of its node and supplies the punctuation itself. For a node that is a type by the grammar nothing is
left out or taken twice that way: the text is that of all tokens in source order, with a blank after
each comma.
-/

namespace SharpToJava

namespace Token

/-- The token has this kind and text, in whatever role. -/
def Is (kind : TokenKind) (text : String) (token : Token) : Prop :=
  token.kind = kind ∧ token.text = text

/-- The text of a token in a type: a comma has a blank behind it. -/
def spaced (token : Token) : String :=
  if token.kind = .comma then token.text ++ " " else token.text

theorem spaced_of_ne {token : Token} (noComma : token.kind ≠ .comma) : token.spaced = token.text :=
  if_neg noComma

theorem Is.spaced {kind : TokenKind} {text : String} {token : Token} (is : token.Is kind text)
    (noComma : kind ≠ .comma) : token.spaced = text := by
  rw [spaced_of_ne (is.1 ▸ noComma), is.2]

theorem Is.spaced_comma {token : Token} (is : token.Is .comma ",") : token.spaced = ", " := by
  rw [Token.spaced, if_pos is.1, is.2]
  rfl

/-- The text of tokens in a row. -/
def spelled (tokens : List Token) : String := String.join (tokens.map spaced)

@[simp] theorem spelled_nil : spelled [] = "" := rfl

@[simp] theorem spelled_cons (token : Token) (rest : List Token) :
    spelled (token :: rest) = token.spaced ++ spelled rest := by
  simp [spelled]

@[simp] theorem spelled_append (first second : List Token) :
    spelled (first ++ second) = spelled first ++ spelled second := by
  simp [spelled]

end Token

namespace Node

/-- Nodes with commas between them. -/
inductive CommaRow : List Node → List Child → Prop where
  | last (node : Node) : CommaRow [node] [.node node]
  | cons {comma : Token} {others : List Node} {children : List Child} (node : Node)
      (separator : comma.Is .comma ",") (rest : CommaRow others children) :
      CommaRow (node :: others) (.node node :: .token comma :: children)

/-- `[]`, which plays no other part. -/
structure IsRank (rank : Node) : Prop where
  kind : rank.kind = .arrayRank
  role : rank.role ≠ some "type"
  brackets : ∃ opening closing : Token, opening.Is .openBracket "[" ∧
    closing.Is .closeBracket "]" ∧ rank.children = [.token opening, .token closing]

/-- The node is a type, with all its tokens. Its parts may say which part they are, but none may say
that it is another one. -/
inductive IsTypeSyntax : Node → Prop where
  | identifierName {label : Label} {name : Token} (kind : label.kind = .identifierName)
      (isName : name.kind = .identifier) : IsTypeSyntax (.mk label [.token name])
  | predefinedType {label : Label} {keyword : Token} (kind : label.kind = .predefinedType)
      (isKeyword : keyword.kind ≠ .comma) : IsTypeSyntax (.mk label [.token keyword])
  | genericName {label listLabel : Label} {name opening closing : Token} {arguments : List Node}
      {row : List Child} (kind : label.kind = .genericName) (isName : name.kind = .identifier)
      (listKind : listLabel.kind = .typeArgumentList) (opens : opening.Is .lessThan "<")
      (closes : closing.Is .greaterThan ">") (separated : CommaRow arguments row)
      (each : ∀ argument ∈ arguments, IsTypeSyntax argument) :
      IsTypeSyntax (.mk label [.token name,
        .node (.mk listLabel (.token opening :: row ++ [.token closing]))])
  | qualifiedName {label : Label} {left right : Node} {dot : Token}
      (kind : label.kind = .qualifiedName) (isDot : dot.Is .dot ".")
      (leftRole : left.role ≠ some "right") (rightRole : right.role ≠ some "left")
      (isLeft : IsTypeSyntax left) (isRight : IsTypeSyntax right) :
      IsTypeSyntax (.mk label [.node left, .token dot, .node right])
  | arrayType {label : Label} {element : Node} {ranks : List Node} (kind : label.kind = .arrayType)
      (ranked : ranks ≠ []) (each : ∀ rank ∈ ranks, IsRank rank)
      (isElement : IsTypeSyntax element) :
      IsTypeSyntax (.mk label (.node element :: ranks.map .node))
  | nullableType {label : Label} {inner : Node} {mark : Token} (kind : label.kind = .nullableType)
      (isMark : mark.Is .question "?") (isInner : IsTypeSyntax inner) :
      IsTypeSyntax (.mk label [.node inner, .token mark])

theorem IsTypeSyntax.kind_ne_arrayRank {node : Node} (type : node.IsTypeSyntax) :
    node.kind ≠ .arrayRank := by
  intro rank
  cases type <;> simp_all [Node.kind, Node.label]

theorem tokensAmong_append (first second : List Child) :
    tokensAmong (first ++ second) = tokensAmong first ++ tokensAmong second := by
  induction first with
  | nil => simp [tokensAmong]
  | cons child rest ih => cases child <;> simp [tokensAmong, ih]

theorem CommaRow.filterMap_node? {nodes : List Node} {children : List Child}
    (row : CommaRow nodes children) : children.filterMap Child.node? = nodes := by
  induction row with
  | last node => rfl
  | cons node separator rest ih => exact congrArg (node :: ·) ih

theorem CommaRow.ne_nil {nodes : List Node} {children : List Child}
    (row : CommaRow nodes children) : nodes ≠ [] := by
  cases row <;> exact List.cons_ne_nil _ _

/-- A row of types is their texts with commas and blanks between them. -/
theorem CommaRow.intercalate_typeText {nodes : List Node} {children : List Child}
    (row : CommaRow nodes children)
    (each : ∀ node ∈ nodes, node.typeText = Token.spelled node.tokens) :
    ", ".intercalate (nodes.map typeText) = Token.spelled (tokensAmong children) := by
  induction row with
  | last node =>
      have only := each node List.mem_cons_self
      simp [tokensAmong, only]
  | @cons comma rest children node separator row ih =>
      obtain ⟨first, later⟩ := List.forall_mem_cons.mp each
      have more : rest.map typeText ≠ [] := fun none => row.ne_nil (List.map_eq_nil_iff.mp none)
      rw [List.map_cons, String.intercalate_cons_of_ne_nil more, ih later, first]
      simp [tokensAmong, separator.spaced_comma, String.append_assoc]

theorem IsRank.spelled_tokens {rank : Node} (isRank : rank.IsRank) :
    Token.spelled rank.tokens = "[]" := by
  obtain ⟨opening, closing, opens, closes, children⟩ := isRank.brackets
  cases rank with
  | mk label below =>
      simp only [Node.children] at children
      rw [tokens, children]
      simp [tokensAmong, opens.spaced, closes.spaced]

theorem spelled_ranks {ranks : List Node} (each : ∀ rank ∈ ranks, IsRank rank) :
    Token.spelled (tokensAmong (ranks.map .node)) =
      String.join (List.replicate ranks.length "[]") := by
  induction ranks with
  | nil => rfl
  | cons rank rest ih =>
      obtain ⟨first, later⟩ := List.forall_mem_cons.mp each
      simp [tokensAmong, first.spelled_tokens, ih later, List.replicate_succ]

theorem identifier_of_first {label : Label} {name : Token} (rest : List Child)
    (isName : name.kind = .identifier) :
    (mk label (.token name :: rest)).identifier = name.text := by
  simp [identifier, token?, childTokens, Node.children, Child.token?, isName]

theorem typeArguments_of_list {label : Label} {name : Token} {list : Node}
    (kind : list.kind = .typeArgumentList) :
    (mk label [.token name, .node list]).typeArguments = list.childNodes := by
  -- the list itself is looked at before the arguments in it, which may have lists of their own
  have found : (mk label [.token name, .node list]).find? .typeArgumentList = some list := by
    rw [find?, findAmong?, findAmong?, if_pos kind]
  rw [typeArguments, found]

theorem CommaRow.childNodes_enclosed {label : Label} {opening closing : Token} {nodes : List Node}
    {row : List Child} (separated : CommaRow nodes row) :
    (mk label (.token opening :: row ++ [.token closing])).childNodes = nodes := by
  change (row ++ [Child.token closing]).filterMap Child.node? = nodes
  rw [List.filterMap_append, separated.filterMap_node?]
  exact List.append_nil nodes

theorem pick?_qualified (label : Label) (dot : Token) {left right : Node}
    (leftRole : left.role ≠ some "right") (rightRole : right.role ≠ some "left") :
    (mk label [.node left, .token dot, .node right]).pick? .left = some left ∧
      (mk label [.node left, .token dot, .node right]).pick? .lastPart = some right := by
  have nodes : (mk label [.node left, .token dot, .node right]).childNodes = [left, right] := rfl
  simp only [pick?, slot?, at?, nodes, Slot.left, Slot.lastPart]
  constructor
  · by_cases said : left.role = some "left" <;> simp [said, rightRole]
  · by_cases said : right.role = some "right" <;> simp [said, leftRole]

theorem parts_of_array (label : Label) {element : Node} {ranks : List Node}
    (notRank : element.kind ≠ .arrayRank) (ranked : ranks ≠ [])
    (each : ∀ rank ∈ ranks, IsRank rank) :
    (mk label (.node element :: ranks.map .node)).pick? .elementType = some element ∧
      (mk label (.node element :: ranks.map .node)).rankCount = ranks.length := by
  have nodes : (mk label (.node element :: ranks.map .node)).childNodes = element :: ranks := by
    simp [childNodes, Node.children, Child.node?, List.filterMap_map, Function.comp_def]
  have noType : ranks.find? (·.role == some "type") = none := by
    simp only [List.find?_eq_none, beq_iff_eq]
    exact fun rank member => (each rank member).role
  have kept : ranks.filter (·.kind == .arrayRank) = ranks := by
    simp only [List.filter_eq_self, beq_iff_eq]
    exact fun rank member => (each rank member).kind
  constructor
  · simp only [pick?, slot?, at?, nodes, Slot.elementType]
    by_cases said : element.role = some "type" <;> simp [said, noType, notRank]
  · have positive := List.length_pos_iff.mpr ranked
    simp [rankCount, childrenOfKind, nodes, notRank, kept]
    omega

end Node

open Node

/-- The text of a type is that of its tokens in source order, with a blank after each comma. -/
theorem typeText_eq_spelled_tokens (node : Node) (type : node.IsTypeSyntax) :
    node.typeText = Token.spelled node.tokens := by
  induction type with
  | @identifierName label name kind isName =>
      have noComma : name.kind ≠ .comma := by simp [isName]
      rw [typeText, show (mk label [.token name]).kind = _ from kind]
      simp [identifier_of_first, isName, tokens, tokensAmong, Token.spaced_of_ne noComma]
  | @predefinedType label keyword kind isKeyword =>
      rw [typeText, show (mk label [.token keyword]).kind = _ from kind]
      simp [firstText, firstToken?, tokens, tokensAmong, Token.spaced_of_ne isKeyword]
  | @genericName label listLabel name opening closing arguments row kind isName listKind opens
      closes separated each ih =>
      have noComma : name.kind ≠ .comma := by simp [isName]
      have inside := separated.intercalate_typeText ih
      have list : (mk listLabel (.token opening :: row ++ [.token closing])).kind =
          .typeArgumentList := listKind
      rw [typeText, show (mk label _).kind = _ from kind]
      simp only [List.attach_map_val, identifier_of_first _ isName]
      rw [typeArguments_of_list list, separated.childNodes_enclosed, inside]
      simp [tokens, tokensAmong, tokensAmong_append, Token.spaced_of_ne noComma, opens.spaced,
        closes.spaced, String.append_assoc]
  | @qualifiedName label left right dot kind isDot leftRole rightRole isLeft isRight leftText
      rightText =>
      have parts := pick?_qualified label dot leftRole rightRole
      rw [typeText, show (mk label _).kind = _ from kind]
      simp only [mapSlot_eq_map, parts.1, parts.2, Option.map_some, Option.getD_some, leftText,
        rightText]
      simp [tokens, tokensAmong, isDot.spaced, String.append_assoc]
  | @arrayType label element ranks kind ranked each isElement ih =>
      have parts := parts_of_array label isElement.kind_ne_arrayRank ranked each
      rw [typeText, show (mk label _).kind = _ from kind]
      simp only [mapSlot_eq_map, parts.1, parts.2, Option.map_some, Option.getD_some, ih]
      simp [tokens, tokensAmong, spelled_ranks each]
  | @nullableType label inner mark kind isMark isInner ih =>
      rw [typeText, show (mk label [.node inner, .token mark]).kind = _ from kind]
      simp [childNodes, Node.children, Child.node?, tokens, tokensAmong, ih, isMark.spaced]

namespace Node

/-- `System.Uri`, where only the first part says which one it is. -/
def systemUri : Node :=
  .mk { kind := .qualifiedName } [
    .node (.mk { kind := .identifierName, role := some "left" }
      [.token { kind := .identifier, text := "System" }]),
    .token { kind := .dot, text := "." },
    .node (.mk { kind := .identifierName } [.token { kind := .identifier, text := "Uri" }])]

def setOfOptionalInts : Node :=
  .mk { kind := .genericName, role := some "type" } [
    .token { kind := .identifier, text := "Set" },
    .node (.mk { kind := .typeArgumentList } [
      .token { kind := .lessThan, text := "<" },
      .node (.mk { kind := .nullableType } [
        .node (.mk { kind := .predefinedType }
          [.token { kind := .predefinedTypeKeyword, text := "int" }]),
        .token { kind := .question, text := "?" }]),
      .token { kind := .greaterThan, text := ">" }])]

def emptyRank : Node :=
  .mk { kind := .arrayRank } [
    .token { kind := .openBracket, text := "[" }, .token { kind := .closeBracket, text := "]" }]

def gridOfSets : Node :=
  .mk { kind := .arrayType } [.node setOfOptionalInts, .node emptyRank, .node emptyRank]

/-- `Map<System.Uri, Set<int?>[][]>` -/
def mapOfGrids : Node :=
  .mk { kind := .genericName } [
    .token { kind := .identifier, text := "Map" },
    .node (.mk { kind := .typeArgumentList } [
      .token { kind := .lessThan, text := "<" },
      .node systemUri, .token { kind := .comma, text := "," }, .node gridOfSets,
      .token { kind := .greaterThan, text := ">" }])]

theorem isTypeSyntax_systemUri : systemUri.IsTypeSyntax :=
  .qualifiedName rfl ⟨rfl, rfl⟩ (by decide) (by decide) (.identifierName rfl rfl)
    (.identifierName rfl rfl)

theorem isTypeSyntax_setOfOptionalInts : setOfOptionalInts.IsTypeSyntax := by
  apply IsTypeSyntax.genericName rfl rfl rfl ⟨rfl, rfl⟩ ⟨rfl, rfl⟩ (.last _)
  rw [List.forall_mem_singleton]
  exact .nullableType rfl ⟨rfl, rfl⟩ (.predefinedType rfl (by decide))

theorem isTypeSyntax_gridOfSets : gridOfSets.IsTypeSyntax := by
  have rank : emptyRank.IsRank := ⟨rfl, by decide, _, _, ⟨rfl, rfl⟩, ⟨rfl, rfl⟩, rfl⟩
  have ranks : ∀ inner ∈ [emptyRank, emptyRank], IsRank inner := by simp [rank]
  exact .arrayType rfl (List.cons_ne_nil _ _) ranks isTypeSyntax_setOfOptionalInts

theorem isTypeSyntax_mapOfGrids : mapOfGrids.IsTypeSyntax := by
  apply IsTypeSyntax.genericName rfl rfl rfl ⟨rfl, rfl⟩ ⟨rfl, rfl⟩
    (.cons systemUri ⟨rfl, rfl⟩ (.last gridOfSets))
  rw [List.forall_mem_cons, List.forall_mem_singleton]
  exact ⟨isTypeSyntax_systemUri, isTypeSyntax_gridOfSets⟩

end Node

theorem typeText_eq_spelled_tokens_mapOfGrids :
    Node.mapOfGrids.IsTypeSyntax ∧
      Node.mapOfGrids.typeText = "Map<System.Uri, Set<int?>[][]>" := by
  refine ⟨Node.isTypeSyntax_mapOfGrids, ?_⟩
  rw [typeText_eq_spelled_tokens _ Node.isTypeSyntax_mapOfGrids]
  rfl

end SharpToJava
