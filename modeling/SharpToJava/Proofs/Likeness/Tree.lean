import SharpToJava.Decl.Harvest
import SharpToJava.Proofs.Layout.Wording
import SharpToJava.Proofs.Pointwise

/-!
Trees that no rule can tell apart. A `Likeness` is a relation between nodes that keeps everything a
rule can ask of a node: its kind, what is known of it, its children in order and what stands in
the slots that the rules for its kind ask for. Nothing is said of names and roles beyond that.
Whatever is read off a tree is then the same for related nodes.
-/

namespace SharpToJava

namespace NodeKind

/-- The slots that the rules for a kind of node ask for. -/
def slots : NodeKind → List Slot
  | .elementAccess => [.expression, .indexArguments]
  | .memberAccess => [.expression, .memberName]
  | .invocation => [.expression, .callArguments]
  | .cast => [.statedType, .castOperand]
  | .objectCreation => [.statedType, .callArguments, .initializer]
  | .binary | .assignment => [.left, .right]
  | .postfixUnary | .prefixUnary => [.operand]
  | .await | .argument | .parenthesized => [.expression]
  | .arrayType => [.type, .elementType]
  | .qualifiedName => [.left, .lastPart]
  | .expressionStatement | .returnStatement | .arrowClause => [.expression]
  | .ifStatement => [.condition, .branch, .elseBranch]
  | .elseClause => [.elseStatement]
  | .localDeclStatement => [.declaration]
  | .variableDecl | .propertyDecl | .methodDecl | .parameter => [.type]
  | .equalsValueClause => [.value]
  | .namespaceDecl | .fileScopedNamespaceDecl => [.namespaceName]
  | _ => []

def isNamespace : NodeKind → Bool
  | .namespaceDecl | .fileScopedNamespaceDecl => true
  | _ => false

end NodeKind

/-- Tokens that differ at most in the part they play. -/
structure Token.Like (first second : Token) : Prop where
  kind : first.kind = second.kind
  text : first.text = second.text

inductive Child.Like (like : Node → Node → Prop) : Child → Child → Prop where
  | token {first second : Token} (alike : first.Like second) :
      Child.Like like (.token first) (.token second)
  | node {first second : Node} (alike : like first second) :
      Child.Like like (.node first) (.node second)

structure Likeness (like : Node → Node → Prop) : Prop where
  kind {first second : Node} (alike : like first second) : first.kind = second.kind
  kindName {first second : Node} (alike : like first second) : first.kindName = second.kindName
  typeName {first second : Node} (alike : like first second) : first.typeName = second.typeName
  symbol {first second : Node} (alike : like first second) : first.symbol = second.symbol
  operator {first second : Node} (alike : like first second)
    (written : first.kind.hasOperator = true) : first.operator = second.operator
  namePosition {first second : Node} (alike : like first second)
    (around : first.kind.isNamespace = true) : first.namePosition = second.namePosition
  children {first second : Node} (alike : like first second) :
    List.Forall₂ (Child.Like like) first.children second.children
  pick? {first second : Node} (alike : like first second) {slot : Slot}
    (asked : slot ∈ first.kind.slots) : Option.Rel like (first.pick? slot) (second.pick? slot)
  /-- What a statement declares is asked for its type, whatever its kind. -/
  declaredType {first second declaration other : Node} (alike : like first second)
    (statement : first.kind = .localDeclStatement)
    (filled : first.pick? .declaration = some declaration) (inside : like declaration other) :
    Option.Rel like (declaration.pick? .type) (other.pick? .type)
  /-- What a branch has as `else` is asked for its statement, whatever its kind. -/
  elseStatement {first second clause other : Node} (alike : like first second)
    (branch : first.kind = .ifStatement) (filled : first.pick? .elseBranch = some clause)
    (inside : like clause other) :
    Option.Rel like (clause.pick? .elseStatement) (other.pick? .elseStatement)

namespace Likeness

variable {like : Node → Node → Prop} (likeness : Likeness like) {first second : Node}
  (alike : like first second)

theorem nodesAmong {children others : List Child}
    (related : List.Forall₂ (Child.Like like) children others) :
    List.Forall₂ like (children.filterMap Child.node?) (others.filterMap Child.node?) := by
  refine List.rel_filterMap (fun child other both => ?_) related
  cases both with
  | token => exact .none
  | node alike => exact .some alike

theorem tokensAmong {children others : List Child}
    (related : List.Forall₂ (Child.Like like) children others)
    (below : ∀ node, .node node ∈ children → ∀ other, like node other →
      List.Forall₂ Token.Like node.tokens other.tokens) :
    List.Forall₂ Token.Like (Node.tokensAmong children) (Node.tokensAmong others) := by
  induction related with
  | nil => exact .nil
  | @cons child other rest others both _ ih =>
      have later := ih fun node member => below node (List.mem_cons_of_mem _ member)
      cases both with
      | token alike => exact .cons alike later
      | @node node other alike =>
          exact List.rel_append (below node List.mem_cons_self other alike) later

include likeness

theorem sameKind (kind : NodeKind) :
    ∀ a b, like a b → (a.kind == kind) = (b.kind == kind) := by
  intro a b alike
  rw [likeness.kind alike]

theorem findAmong? {kind : NodeKind} {children others : List Child}
    (related : List.Forall₂ (Child.Like like) children others)
    (below : ∀ node, .node node ∈ children → ∀ other, like node other →
      Option.Rel like (node.find? kind) (other.find? kind)) :
    Option.Rel like (Node.findAmong? kind children) (Node.findAmong? kind others) := by
  induction related with
  | nil => exact .none
  | @cons child other rest others both _ ih =>
      have later := ih fun node member => below node (List.mem_cons_of_mem _ member)
      cases both with
      | token => simpa only [Node.findAmong?] using later
      | @node node other alike =>
          simp only [Node.findAmong?, ← likeness.kind alike]
          split
          · exact .some alike
          · have deeper := below node List.mem_cons_self other alike
            generalize node.find? kind = found, other.find? kind = otherFound at deeper ⊢
            cases deeper with
            | none => exact later
            | some both => exact .some both

theorem find? (kind : NodeKind) {first second : Node} (alike : like first second) :
    Option.Rel like (first.find? kind) (second.find? kind) := by
  have children := likeness.children alike
  cases first with
  | mk label firstChildren =>
      cases second with
      | mk otherLabel secondChildren =>
          refine likeness.findAmong? children fun node member other alike => ?_
          have smaller : node.size < (Node.mk label firstChildren).size :=
            Node.size_lt_of_mem_children member
          exact find? kind alike
termination_by first.size

theorem tokens {first second : Node} (alike : like first second) :
    List.Forall₂ Token.Like first.tokens second.tokens := by
  have children := likeness.children alike
  cases first with
  | mk label firstChildren =>
      cases second with
      | mk otherLabel secondChildren =>
          refine tokensAmong children fun node member other alike => ?_
          have smaller : node.size < (Node.mk label firstChildren).size :=
            Node.size_lt_of_mem_children member
          exact tokens alike
termination_by first.size

include alike

theorem childNodes : List.Forall₂ like first.childNodes second.childNodes :=
  nodesAmong (likeness.children alike)

theorem childOfKind? (kind : NodeKind) :
    Option.Rel like (first.childOfKind? kind) (second.childOfKind? kind) :=
  find?_rel (likeness.childNodes alike) (likeness.sameKind kind)

theorem childrenOfKind (kind : NodeKind) :
    List.Forall₂ like (first.childrenOfKind kind) (second.childrenOfKind kind) :=
  filter_rel (likeness.childNodes alike) (likeness.sameKind kind)

theorem typeArguments : List.Forall₂ like first.typeArguments second.typeArguments := by
  have lists := likeness.find? .typeArgumentList alike
  unfold Node.typeArguments
  cases found : first.find? .typeArgumentList <;> cases other : second.find? .typeArgumentList <;>
    rw [found, other] at lists <;> cases lists
  · exact .nil
  · rename_i both
    exact likeness.childNodes both

theorem childTokens : List.Forall₂ Token.Like first.childTokens second.childTokens := by
  refine List.rel_filterMap (fun child other both => ?_) (likeness.children alike)
  cases both with
  | token alike => exact .some alike
  | node => exact .none

theorem identifier : first.identifier = second.identifier := by
  have found : Option.Rel Token.Like (first.token? .identifier) (second.token? .identifier) :=
    find?_rel (likeness.childTokens alike) fun a b both => by rw [both.kind]
  unfold Node.identifier
  generalize first.token? .identifier = token, second.token? .identifier = other at found ⊢
  cases found with
  | none => rfl
  | some both => exact both.text

theorem modifiers : List.Forall₂ Token.Like first.modifiers second.modifiers :=
  filter_rel (likeness.childTokens alike) fun a b both => by rw [both.kind]

theorem firstToken? : Option.Rel Token.Like first.firstToken? second.firstToken? :=
  head?_rel (likeness.tokens alike)

theorem firstText : first.firstText = second.firstText := by
  have found := likeness.firstToken? alike
  unfold Node.firstText
  generalize first.firstToken? = token, second.firstToken? = other at found ⊢
  cases found with
  | none => rfl
  | some both => exact both.text

theorem tokenText : first.tokenText = second.tokenText := by
  unfold Node.tokenText
  rw [map_eq_of_forall₂ (likeness.tokens alike) fun a _ b both => both.text]

omit alike in
theorem typeText {first second : Node} (alike : like first second) :
    first.typeText = second.typeText := by
  fun_induction Node.typeText first generalizing second with
  | case1 node kind =>
      rw [Node.typeText, ← likeness.kind alike, kind]
      exact likeness.identifier alike
  | case2 node kind arguments =>
      rename_i ih
      have listed : arguments = second.typeArguments.map Node.typeText := by
        simp only [arguments, List.map_attach_eq_pmap, List.pmap_eq_map]
        refine map_eq_of_forall₂ (likeness.typeArguments alike) fun argument member other both => ?_
        exact ih ⟨argument, member⟩ both
      rw [Node.typeText, ← likeness.kind alike, kind, listed]
      simp only [List.map_attach_eq_pmap, List.pmap_eq_map, likeness.identifier alike]
  | case3 node kind =>
      rw [Node.typeText, ← likeness.kind alike, kind]
      exact likeness.firstText alike
  | case4 node kind =>
      rw [Node.typeText, ← likeness.kind alike, kind]
      exact likeness.firstText alike
  | case5 node kind ih =>
      have sides : ∀ slot ∈ node.kind.slots, (node.pick? slot).map Node.typeText =
          (second.pick? slot).map Node.typeText := by
        intro slot asked
        refine map_eq_of_rel (likeness.pick? alike asked) fun part filled other both => ?_
        exact ih part (Node.size_lt_of_pick? filled) both
      rw [kind] at sides
      rw [Node.typeText, ← likeness.kind alike, kind]
      simp only [Node.mapSlot_eq_map, sides .left (by decide), sides .lastPart (by decide)]
  | case6 node kind ih =>
      have element : (node.pick? .elementType).map Node.typeText =
          (second.pick? .elementType).map Node.typeText :=
        map_eq_of_rel (likeness.pick? alike (by rw [kind]; decide)) fun part filled other both =>
          ih part (Node.size_lt_of_pick? filled) both
      have ranks := (likeness.childrenOfKind alike .arrayRank).length_eq
      rw [Node.typeText, ← likeness.kind alike, kind]
      simp only [Node.mapSlot_eq_map, element, Node.rankCount, ranks]
  | case7 node kind ih =>
      have inner : node.childNodes.map Node.typeText = second.childNodes.map Node.typeText :=
        map_eq_of_forall₂ (likeness.childNodes alike) fun part member other both =>
          ih part (Node.size_lt_of_mem member) both
      rw [Node.typeText, ← likeness.kind alike, kind]
      simp only [Node.mapNodes_eq_map, inner]
  | case8 node =>
      rw [Node.typeText, ← likeness.kind alike]
      split <;> first | contradiction | exact likeness.tokenText alike

omit alike in
theorem slotTypeText {slot : Slot}
    (filled : Option.Rel like (first.pick? slot) (second.pick? slot)) :
    first.slotTypeText slot = second.slotTypeText slot := by
  unfold Node.slotTypeText
  generalize first.pick? slot = type, second.pick? slot = other at filled ⊢
  cases filled with
  | none => rfl
  | some both => exact likeness.typeText both

omit likeness alike in
theorem sameToken (kind : TokenKind) : ∀ child other, Child.Like like child other →
    (!Node.isTokenOf kind child) = !Node.isTokenOf kind other := by
  intro child other both
  cases both with
  | token alike => simp only [Node.isTokenOf, alike.kind]
  | node => rfl

omit likeness alike in
theorem upTo (kind : TokenKind) {children others : List Child}
    (related : List.Forall₂ (Child.Like like) children others) :
    List.Forall₂ (Child.Like like) (Node.upTo kind children) (Node.upTo kind others) :=
  takeWhile_rel related (sameToken kind)

omit likeness alike in
theorem past (kind : TokenKind) {children others : List Child}
    (related : List.Forall₂ (Child.Like like) children others) :
    List.Forall₂ (Child.Like like) (Node.past kind children) (Node.past kind others) :=
  tail_rel (dropWhile_rel related (sameToken kind))

theorem forHeader : List.Forall₂ (Child.Like like) first.forHeader second.forHeader :=
  upTo .closeParen (likeness.children alike)

theorem forInitializers : List.Forall₂ like first.forInitializers second.forInitializers :=
  nodesAmong (upTo .semicolon (likeness.forHeader alike))

theorem forCondition? : Option.Rel like first.forCondition? second.forCondition? :=
  getLast?_rel (nodesAmong (upTo .semicolon (past .semicolon (likeness.forHeader alike))))

theorem forIncrementors : List.Forall₂ like first.forIncrementors second.forIncrementors :=
  nodesAmong (past .semicolon (past .semicolon (likeness.forHeader alike)))

theorem forStatement? : Option.Rel like first.forStatement? second.forStatement? :=
  getLast?_rel (nodesAmong (past .closeParen (likeness.children alike)))

end Likeness

theorem rel_eq_self {α : Type} (found : Option α) : Option.Rel Eq found found := by
  cases found with
  | none => exact .none
  | some item => exact .some rfl

theorem Likeness.refl : Likeness Eq where
  kind alike := alike ▸ rfl
  kindName alike := alike ▸ rfl
  typeName alike := alike ▸ rfl
  symbol alike := alike ▸ rfl
  operator alike _ := alike ▸ rfl
  namePosition alike _ := alike ▸ rfl
  children alike := alike ▸ List.forall₂_same.mpr fun child _ => by
    cases child with
    | node inner => exact .node rfl
    | token token => exact .token ⟨rfl, rfl⟩
  pick? alike _ _ := alike ▸ rel_eq_self _
  declaredType _ _ _ same := same ▸ rel_eq_self _
  elseStatement _ _ _ same := same ▸ rel_eq_self _

end SharpToJava
