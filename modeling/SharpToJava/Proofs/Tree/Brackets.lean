import SharpToJava.Proofs.Phrase.Wording
import SharpToJava.Proofs.Text.Nesting

/-!
Bracket tokens of a tree. Where bracket tokens are what they are called and are nested among the
children of each node, and no other token has a bracket in its text, every text that is read off the
tree as a whole has nested brackets. Rules that copy a single token are given none.
-/

namespace SharpToJava

/-- Brackets that are tokens of the source. -/
structure TokenBrackets where
  brackets : Brackets
  opening : TokenKind
  closing : TokenKind

namespace TokenBrackets

def braces : TokenBrackets := ⟨.braces, .openBrace, .closeBrace⟩

def parentheses : TokenBrackets := ⟨.parentheses, .openParen, .closeParen⟩

/-- The bracket that a token stands for. -/
def char? (pair : TokenBrackets) (token : Token) : Option Char :=
  if token.kind = pair.opening then some pair.brackets.opening
  else if token.kind = pair.closing then some pair.brackets.closing
  else none

theorem char?_eq_none {pair : TokenBrackets} {token : Token}
    (notOpening : token.kind ≠ pair.opening) (notClosing : token.kind ≠ pair.closing) :
    pair.char? token = none := by
  rw [char?, if_neg notOpening, if_neg notClosing]

end TokenBrackets

/-- Bracket tokens are what they are called, they are nested and they stand where no rule copies a
single token; other tokens have no brackets. -/
structure Node.BracketClean (pair : TokenBrackets) (node : Node) : Prop where
  opening : ∀ token ∈ node.childTokens, token.kind = pair.opening →
    token.text.toList = [pair.brackets.opening]
  closing : ∀ token ∈ node.childTokens, token.kind = pair.closing →
    token.text.toList = [pair.brackets.closing]
  others : ∀ token ∈ node.childTokens, pair.char? token = none →
    pair.brackets.Free token.text.toList
  nested : pair.brackets.Nested (node.childTokens.filterMap pair.char?)
  copied : node.kind = .literal ∨ node.kind = .thisReference ∨ node.kind = .predefinedType ∨
    node.kind = .simpleBaseType → ∀ token ∈ node.tokens, pair.char? token = none
  operators : node.kind = .binary ∨ node.kind = .assignment ∨ node.kind = .prefixUnary ∨
    node.kind = .postfixUnary → ∀ token ∈ node.childTokens, pair.char? token = none

namespace Node

variable {pair : TokenBrackets} {node : Node}

theorem bracketClean_iff :
    node.BracketClean pair ↔
      (∀ token ∈ node.childTokens,
        (token.kind = pair.opening → token.text.toList = [pair.brackets.opening]) ∧
        (token.kind = pair.closing → token.text.toList = [pair.brackets.closing]) ∧
        (pair.char? token = none → pair.brackets.Free token.text.toList)) ∧
      pair.brackets.Nested (node.childTokens.filterMap pair.char?) ∧
      (node.kind = .literal ∨ node.kind = .thisReference ∨ node.kind = .predefinedType ∨
        node.kind = .simpleBaseType → ∀ token ∈ node.tokens, pair.char? token = none) ∧
      (node.kind = .binary ∨ node.kind = .assignment ∨ node.kind = .prefixUnary ∨
        node.kind = .postfixUnary → ∀ token ∈ node.childTokens, pair.char? token = none) := by
  constructor
  · intro clean
    exact ⟨fun token member => ⟨clean.opening token member, clean.closing token member,
      clean.others token member⟩, clean.nested, clean.copied, clean.operators⟩
  · rintro ⟨tokens, nested, copied, operators⟩
    exact ⟨fun token member => (tokens token member).1,
      fun token member => (tokens token member).2.1,
      fun token member => (tokens token member).2.2, nested, copied, operators⟩

instance (pair : TokenBrackets) : DecidablePred (BracketClean pair) := fun _ =>
  decidable_of_iff _ bracketClean_iff.symm

/-- The text of a token has the bracket that the token stands for, and no other. -/
theorem BracketClean.same_text (clean : node.BracketClean pair) {token : Token}
    (member : token ∈ node.childTokens) :
    pair.brackets.Same token.text.toList (pair.char? token).toList := by
  unfold TokenBrackets.char?
  split
  case isTrue opens => exact clean.opening token member opens ▸ .refl _
  case isFalse notOpening =>
    split
    case isTrue closes => exact clean.closing token member closes ▸ .refl _
    case isFalse notClosing =>
      have noBracket := TokenBrackets.char?_eq_none notOpening notClosing
      exact Brackets.same_nil (clean.others token member noBracket)

theorem BracketClean.free_identifier (clean : node.BracketClean pair)
    (opening : pair.opening ≠ .identifier) (closing : pair.closing ≠ .identifier) :
    pair.brackets.Free node.identifier.toList := by
  unfold identifier token?
  split
  case h_1 token found =>
    have kind : token.kind = .identifier := by simpa using List.find?_some found
    refine clean.others token (List.mem_of_find?_eq_some found) (TokenBrackets.char?_eq_none ?_ ?_)
    · exact kind ▸ opening.symm
    · exact kind ▸ closing.symm
  case h_2 => exact ⟨List.not_mem_nil, List.not_mem_nil⟩

/-- Tokens in a row have the brackets of their own children, if what is below is nested. -/
theorem same_tokensAmong {children : List Child}
    (tokens : ∀ token, .token token ∈ children →
      pair.brackets.Same token.text.toList (pair.char? token).toList)
    (nodes : ∀ node, .node node ∈ children → pair.brackets.Nested node.tokenText.toList) :
    pair.brackets.Same (String.join ((tokensAmong children).map (·.text))).toList
      ((children.filterMap Child.token?).filterMap pair.char?) := by
  induction children with
  | nil => exact .refl _
  | cons child rest ih =>
      have later := ih (fun token member => tokens token (List.mem_cons_of_mem _ member))
        (fun node member => nodes node (List.mem_cons_of_mem _ member))
      cases child with
      | token token =>
          have here := (tokens token List.mem_cons_self).append later
          rw [tokensAmong, List.map_cons, String.join_cons, String.toList_append]
          simp only [List.filterMap_cons, Child.token?]
          cases bracket : pair.char? token <;> simpa [bracket] using here
      | node node =>
          have here := (Brackets.nested_iff_same.mp (nodes node List.mem_cons_self)).append later
          rwa [tokensAmong, List.map_append, String.join_append, String.toList_append]

/-- The tokens of a clean tree are nested as a text. -/
theorem nested_tokenText {node : Node} (clean : node.Every (BracketClean pair)) :
    pair.brackets.Nested node.tokenText.toList := by
  have here := clean.here
  refine Brackets.nested_iff_same.mpr (.trans ?_ (Brackets.nested_iff_same.mp here.nested))
  cases node with
  | mk label children =>
      refine same_tokensAmong (fun token member => here.same_text (mem_childTokens.mpr member)) ?_
      intro child member
      have smaller : child.size < size (.mk label children) := size_lt_of_mem_children member
      exact nested_tokenText (clean.of_child (mem_childNodes.mpr member))
termination_by node.size

/-- The token whose text a rule copies has no bracket. -/
theorem free_firstToken (clean : node.Every (BracketClean pair))
    (copied : node.kind = .literal ∨ node.kind = .thisReference ∨ node.kind = .predefinedType ∨
      node.kind = .simpleBaseType) {token : Token} (first : node.firstToken? = some token) :
    pair.brackets.Free token.text.toList := by
  have member := mem_tokens_of_firstToken? first
  have noBracket := clean.here.copied copied token member
  obtain ⟨inner, below, direct⟩ := mem_tokens.mp member
  exact (clean inner below).others token direct noBracket

theorem free_literalText (clean : node.Every (BracketClean pair)) (kind : node.kind = .literal) :
    pair.brackets.Free node.literalText.toList := by
  unfold literalText
  split
  case h_1 token first =>
    have free := free_firstToken clean (.inl kind) first
    split
    · exact ⟨not_mem_unverbatim free.1, not_mem_unverbatim free.2⟩
    · exact free
  case h_2 => exact ⟨List.not_mem_nil, List.not_mem_nil⟩

theorem free_firstText (clean : node.Every (BracketClean pair))
    (shows : node.kind.showsFirstToken) : pair.brackets.Free node.firstText.toList := by
  have copied : node.kind = .literal ∨ node.kind = .thisReference ∨ node.kind = .predefinedType ∨
      node.kind = .simpleBaseType := by
    cases kind : node.kind <;> simp_all [NodeKind.showsFirstToken]
  unfold firstText
  split
  case h_1 token first => exact free_firstToken clean copied first
  case h_2 => exact ⟨List.not_mem_nil, List.not_mem_nil⟩

theorem free_operator (clean : node.BracketClean pair) (has : node.kind.hasOperator) :
    pair.brackets.Free node.operator.toList := by
  have operators : node.kind = .binary ∨ node.kind = .assignment ∨ node.kind = .prefixUnary ∨
      node.kind = .postfixUnary := by
    cases kind : node.kind <;> simp_all [NodeKind.hasOperator]
  have direct : ∀ token ∈ node.childTokens, pair.brackets.Free token.text.toList :=
    fun token member => clean.others token member (clean.operators operators token member)
  unfold operator
  split
  case h_1 token found => exact direct token (List.mem_of_find?_eq_some found)
  case h_2 =>
    split
    case h_1 token first => exact direct token (List.mem_of_head? first)
    case h_2 => exact ⟨List.not_mem_nil, List.not_mem_nil⟩

end Node

end SharpToJava
