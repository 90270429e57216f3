import SharpToJava.Compiler
import SharpToJava.Proofs.Likeness.Rules

/-!
Related trees compile alike: each declaration is read off by the same run, so the outcome of a
compilation is the same, its text, its debug lines and its declarations.
-/

namespace SharpToJava

theorem RunM.collect_eq {α β γ : Type} {r : α → β → Prop} {f : α → RunM (Option γ)}
    {g : β → RunM (Option γ)} {items : List α} {others : List β}
    (related : List.Forall₂ r items others) (same : ∀ a b, r a b → f a = g b) :
    RunM.collect f items = RunM.collect g others := by
  induction related with
  | nil => rfl
  | @cons a b _ _ both _ ih => rw [RunM.collect, RunM.collect, same a b both, ih]

theorem zipIdx_rel {α β : Type} {r : α → β → Prop} {items : List α} {others : List β}
    (related : List.Forall₂ r items others) (start : Nat) :
    List.Forall₂ (fun a b => r a.1 b.1 ∧ a.2 = b.2) (items.zipIdx start) (others.zipIdx start) := by
  induction related generalizing start with
  | nil => exact .nil
  | cons first _ ih =>
      rw [List.zipIdx_cons, List.zipIdx_cons]
      exact .cons ⟨first, rfl⟩ (ih (start + 1))

theorem Node.kind_of_namespace? {root inner : Node} (found : root.namespace? = some inner) :
    inner.kind = .namespaceDecl ∨ inner.kind = .fileScopedNamespaceDecl := by
  unfold namespace? at found
  split at found
  case h_1 block blockFound =>
    cases found
    exact .inl (kind_of_find? blockFound)
  case h_2 => exact .inr (kind_of_find? found)

namespace Likeness

variable {like : Node → Node → Prop} (likeness : Likeness like)
include likeness

section

variable {first second : Node} (alike : like first second)
include alike

theorem modifierTexts : first.modifiers.map (·.text) = second.modifiers.map (·.text) :=
  map_eq_of_forall₂ (likeness.modifiers alike) fun _ _ _ both => both.text

theorem modifiersBy (table : ModifierTable) : first.modifiersBy table = second.modifiersBy table := by
  unfold Node.modifiersBy
  rw [likeness.modifierTexts alike]

theorem toEnumDecl : first.toEnumDecl = second.toEnumDecl := by
  have members := map_eq_of_forall₂ (likeness.childrenOfKind alike .enumMember)
    fun _ _ _ inside => likeness.identifier inside
  unfold Node.toEnumDecl
  rw [likeness.identifier alike, likeness.modifiersBy alike, members]

theorem accessorModifiers {property other : Node} (around : like property other) :
    first.accessorModifiers property = second.accessorModifiers other := by
  have empty : first.modifiers.isEmpty = second.modifiers.isEmpty := by
    rw [← List.isEmpty_map (f := Token.text), likeness.modifierTexts alike, List.isEmpty_map]
  unfold Node.accessorModifiers
  rw [empty, likeness.modifiersBy alike, likeness.modifiersBy around]

theorem getter? : first.getter? = second.getter? := by
  have lists := likeness.childOfKind? alike .accessorList
  have arrows := likeness.childOfKind? alike .arrowClause
  unfold Node.getter?
  generalize first.childOfKind? .accessorList = list,
    second.childOfKind? .accessorList = other at lists ⊢
  cases lists with
  | none => exact map_eq_of_rel arrows fun _ _ _ _ => likeness.modifiersBy alike _
  | some both =>
      exact map_eq_of_rel (likeness.childOfKind? both _) fun _ _ _ inside =>
        likeness.accessorModifiers inside alike

theorem setter? : first.setter? = second.setter? := by
  have lists := likeness.childOfKind? alike .accessorList
  unfold Node.setter?
  generalize first.childOfKind? .accessorList = list,
    second.childOfKind? .accessorList = other at lists ⊢
  cases lists with
  | none => rfl
  | some both =>
      exact map_eq_of_rel (likeness.childOfKind? both _) fun _ _ _ inside =>
        likeness.accessorModifiers inside alike

theorem parameterDecl (profile : Profile) (parameter : first.kind = .parameter) :
    Place.parameterDecl profile first = Place.parameterDecl profile second := by
  have asked : Slot.type ∈ first.kind.slots := by rw [parameter]; decide
  have types := likeness.pick? alike asked
  unfold Place.parameterDecl
  generalize first.pick? .type = type, second.pick? .type = other at types ⊢
  cases types with
  | none => rfl
  | some both => simp only [likeness.typeText both, likeness.identifier alike]

theorem parameterNodes :
    List.Forall₂ (fun a b => like a b ∧ a.kind = .parameter) (Place.parameterNodes first)
      (Place.parameterNodes second) := by
  have lists := likeness.childOfKind? alike .parameterList
  unfold Place.parameterNodes
  generalize first.childOfKind? .parameterList = list,
    second.childOfKind? .parameterList = other at lists ⊢
  cases lists with
  | none => exact .nil
  | some both =>
      refine forall₂_and (likeness.childrenOfKind both _) fun child member => ?_
      simpa using (List.mem_filter.mp member).2

theorem baseNodes : List.Forall₂ like (Place.baseNodes first) (Place.baseNodes second) := by
  have lists := likeness.childOfKind? alike .baseList
  unfold Place.baseNodes
  generalize first.childOfKind? .baseList = list, second.childOfKind? .baseList = other at lists ⊢
  cases lists with
  | none => exact .nil
  | some both => exact likeness.childNodes both

theorem namespace? : Option.Rel like first.namespace? second.namespace? := by
  have blocks := likeness.find? .namespaceDecl alike
  unfold Node.namespace?
  generalize first.find? .namespaceDecl = block, second.find? .namespaceDecl = other at blocks ⊢
  cases blocks with
  | none => exact likeness.find? _ alike
  | some both => exact .some both

end

theorem bases (profile : Profile) (owner : String) (found : Bases) {entries others : List Node}
    (related : List.Forall₂ like entries others) :
    Place.bases profile owner found entries = Place.bases profile owner found others := by
  induction related generalizing found with
  | nil => rfl
  | cons both _ ih =>
      rw [Place.bases, Place.bases, likeness.typeText both]
      simp only [ih]

section

variable {first second : Place} (alike : first.Like like second) (profile : Profile)
include alike

theorem initializer : first.initializer profile = second.initializer profile := by
  have clauses := rel_and (likeness.childOfKind? alike.node .equalsValueClause) fun _ =>
    Node.kind_of_childOfKind?
  unfold Place.initializer
  generalize first.node.childOfKind? .equalsValueClause = clause,
    second.node.childOfKind? .equalsValueClause = other at clauses ⊢
  cases clauses with
  | none => rfl
  | @some clause other both =>
      have asked : Slot.value ∈ clause.kind.slots := by rw [both.2]; decide
      have values := likeness.pick? both.1 asked
      simp only
      generalize clause.pick? .value = value, other.pick? .value = otherValue at values ⊢
      cases values with
      | none => rfl
      | some inside =>
          simp only [Place.expression, likeness.phrase ((alike.enter both.1).enter inside)]

theorem declarators {nodes others : List Node} (related : List.Forall₂ like nodes others) :
    first.declarators profile nodes = second.declarators profile others := by
  induction related with
  | nil => rfl
  | cons both _ ih =>
      rw [Place.declarators, Place.declarators, likeness.initializer (alike.enter both),
        likeness.identifier both, ih]

theorem fieldDecl : first.fieldDecl profile = second.fieldDecl profile := by
  have found := rel_and (likeness.find? .variableDecl alike.node) fun _ => Node.kind_of_find?
  unfold Place.fieldDecl
  generalize first.node.find? .variableDecl = declaration,
    second.node.find? .variableDecl = other at found ⊢
  cases found with
  | none => rfl
  | @some declaration other both =>
      have asked : Slot.type ∈ declaration.kind.slots := by rw [both.2]; decide
      simp only [likeness.slotTypeText (likeness.pick? both.1 asked), likeness.modifiersBy alike.node,
        likeness.declarators (alike.enter both.1) profile (likeness.childrenOfKind both.1 _)]

theorem propertyDecl (property : first.node.kind = .propertyDecl) :
    first.propertyDecl profile = second.propertyDecl profile := by
  have asked : Slot.type ∈ first.node.kind.slots := by rw [property]; decide
  unfold Place.propertyDecl
  simp only [likeness.slotTypeText (likeness.pick? alike.node asked), likeness.initializer alike,
    likeness.identifier alike.node, likeness.modifiersBy alike.node, likeness.getter? alike.node,
    likeness.setter? alike.node]

theorem block (depth : Int) : first.block profile depth = second.block profile depth := by
  have statements := likeness.nodeLayouts alike fun _ _ _ => likeness.layout
  unfold Place.block
  rw [statements]

theorem methodBody (returnsValue : Bool) :
    first.methodBody profile returnsValue = second.methodBody profile returnsValue := by
  have blocks := likeness.childOfKind? alike.node .block
  have arrows := rel_and (likeness.childOfKind? alike.node .arrowClause) fun _ =>
    Node.kind_of_childOfKind?
  unfold Place.methodBody
  generalize first.node.childOfKind? .block = block, second.node.childOfKind? .block = other,
    first.node.childOfKind? .arrowClause = arrow,
    second.node.childOfKind? .arrowClause = otherArrow at blocks arrows ⊢
  cases blocks with
  | some both => simp only [likeness.block (alike.enter both)]
  | none =>
      cases arrows with
      | none => rfl
      | @some arrow other both =>
          have asked : Slot.expression ∈ arrow.kind.slots := by rw [both.2]; decide
          have expressions := likeness.pick? both.1 asked
          simp only
          generalize arrow.pick? .expression = expression,
            other.pick? .expression = otherExpression at expressions ⊢
          cases expressions with
          | none => rfl
          | some inside =>
              simp only [Place.arrowBody, likeness.phrase ((alike.enter both.1).enter inside)]

theorem methodDecl (method : first.node.kind = .methodDecl) :
    first.methodDecl profile = second.methodDecl profile := by
  have asked : Slot.type ∈ first.node.kind.slots := by rw [method]; decide
  have parameters := RunM.collect_eq (likeness.parameterNodes alike.node)
    fun _ _ both => likeness.parameterDecl both.1 profile both.2
  unfold Place.methodDecl
  simp only [likeness.slotTypeText (likeness.pick? alike.node asked), parameters, likeness.methodBody alike,
    likeness.identifier alike.node, likeness.modifiersBy alike.node]

theorem memberDecl (owner : String) :
    first.memberDecl profile owner = second.memberDecl profile owner := by
  unfold Place.memberDecl
  rw [← likeness.placeKind alike, likeness.fieldDecl alike, likeness.toEnumDecl alike.node,
    likeness.kindName alike.node]
  split
  case h_1 method => rw [likeness.methodDecl alike profile method]
  case h_4 property => rw [likeness.propertyDecl alike profile property]
  all_goals rfl

theorem classDecl : first.classDecl profile = second.classDecl profile := by
  have members := RunM.collect_eq (likeness.childNodes alike.node) fun _ _ both =>
    likeness.memberDecl (alike.enter both) profile second.node.identifier
  have marked : first.node.modifiers.any (·.text == "static") =
      second.node.modifiers.any (·.text == "static") := by
    have texts := congrArg (List.any · (· == "static")) (likeness.modifierTexts alike.node)
    simpa only [List.any_map, Function.comp_def] using texts
  unfold Place.classDecl
  simp only [likeness.identifier alike.node, likeness.bases profile _ _ (likeness.baseNodes alike.node),
    members, likeness.modifiersBy alike.node, marked]

theorem topDecl (isName : Bool) : first.topDecl profile isName = second.topDecl profile isName := by
  unfold Place.topDecl
  rw [likeness.placeKind alike, likeness.classDecl alike, likeness.toEnumDecl alike.node,
    likeness.kindName alike.node]

/-- Related places declare the same unit. -/
theorem unitDecl : first.unitDecl profile = second.unitDecl profile := by
  have tops : ∀ {outline other : Place}, outline.Like like other → ∀ name : Option Nat,
      RunM.collect (fun child => (outline.enter child.1).topDecl profile (name == some child.2))
          outline.node.childNodes.zipIdx =
        RunM.collect (fun child => (other.enter child.1).topDecl profile (name == some child.2))
          other.node.childNodes.zipIdx := by
    intro outline other inside name
    refine RunM.collect_eq (zipIdx_rel (likeness.childNodes inside.node) 0) fun child other both => ?_
    rw [likeness.topDecl (inside.enter both.1), both.2]
  have namespaces := rel_and (likeness.namespace? alike.node) fun _ => Node.kind_of_namespace?
  unfold Place.unitDecl
  generalize first.node.namespace? = found, second.node.namespace? = other at namespaces ⊢
  cases namespaces with
  | none => simp only [Option.map_none, tops alike]
  | @some inner other both =>
      have around : inner.kind.isNamespace = true ∧ Slot.namespaceName ∈ inner.kind.slots := by
        rcases both.2 with kind | kind <;> rw [kind] <;> decide
      simp only [Option.map_some, likeness.namePosition both.1 around.1,
        likeness.slotTypeText (likeness.pick? both.1 around.2), tops (alike.enter both.1)]

end

/-- Related trees compile alike, for every target. -/
theorem compile_eq {first second : Node} (alike : like first second) (target : Option Target)
    (enforce : Bool) : compile first target enforce = compile second target enforce := by
  have place : Place.Like like ⟨first, []⟩ ⟨second, []⟩ := ⟨alike, .none, fun _ => .none⟩
  cases target with
  | none => rfl
  | some target =>
      cases target with
      | kotlin => rfl
      | java =>
          simp only [compile, Compiler.run, likeness.unitDecl place]
          cases (Place.unitDecl ⟨second, []⟩ (Profile.java enforce)).run Journal.java with
          | ok => rfl
          | error => rfl

end Likeness

end SharpToJava
