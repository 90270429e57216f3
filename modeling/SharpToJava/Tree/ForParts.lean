import SharpToJava.Tree.Node

/-!
The parts of a `for` statement, told apart by its punctuation: what stands before the first
semicolon, between the first two, after the second, and after the closing parenthesis.
-/

namespace SharpToJava.Node

def isTokenOf (kind : TokenKind) (child : Child) : Bool :=
  match child with
  | .token token => token.kind == kind
  | .node _ => false

/-- The children before the first token of a kind. -/
def upTo (kind : TokenKind) (children : List Child) : List Child :=
  children.takeWhile fun child => !isTokenOf kind child

/-- The children after the first token of a kind. -/
def past (kind : TokenKind) (children : List Child) : List Child :=
  (children.dropWhile fun child => !isTokenOf kind child).tail

def forHeader (node : Node) : List Child := upTo .closeParen node.children

def forInitializers (node : Node) : List Node :=
  (upTo .semicolon node.forHeader).filterMap Child.node?

/-- The condition; of several nodes in its section the last one. -/
def forCondition? (node : Node) : Option Node :=
  ((upTo .semicolon (past .semicolon node.forHeader)).filterMap Child.node?).getLast?

def forIncrementors (node : Node) : List Node :=
  (past .semicolon (past .semicolon node.forHeader)).filterMap Child.node?

/-- The statement; of several nodes after the header the last one. -/
def forStatement? (node : Node) : Option Node :=
  ((past .closeParen node.children).filterMap Child.node?).getLast?

theorem size_lt_of_forStatement? {node statement : Node}
    (found : node.forStatement? = some statement) : statement.size < node.size := by
  have listed := List.mem_of_getLast? found
  obtain ⟨child, member, isNode⟩ := List.mem_filterMap.mp listed
  have present : child ∈ node.children :=
    (List.dropWhile_suffix _).subset (List.mem_of_mem_tail member)
  cases child with
  | token token => simp [Child.node?] at isNode
  | node inner =>
      simp only [Child.node?, Option.some.injEq] at isNode
      subst isNode
      exact size_lt_of_mem_children present

end SharpToJava.Node
