import SharpToJava.Proofs.Outline
import SharpToJava.Proofs.Run.Notes
import SharpToJava.Proofs.Run.Outcome

/-!
What becomes of every declaration. Methods, properties, enums and fields of a class are sorted into
lists of their own, each in the order of the tree, and the values of the fields are written as they
are met. What finds no place in the lists is noted as skipped, once, and nothing else is: the
writing of bodies and values in between does not say so.
-/

namespace SharpToJava

open RunM

namespace Node

/-- What is said of a child of a class, if it is skipped. -/
def skippedMember (owner : String) (child : Node) : List Note :=
  if child.kind = .fieldDecl then
    if (child.find? .variableDecl).isSome then [] else [.fieldWithoutDeclaration]
  else if child.kind ∈ [.methodDecl, .propertyDecl, .enumDecl, .baseList] then []
  else [.skippedMember owner child.kindName]

theorem skippedMember_of_kind {owner : String} {child : Node}
    (gathered : child.kind ∈ [.methodDecl, .propertyDecl, .enumDecl, .baseList]) :
    child.skippedMember owner = [] := by
  have noField : child.kind ≠ .fieldDecl := fun same => by simp [same] at gathered
  rw [skippedMember, if_neg noField, if_pos gathered]

def skippedMembers (node : Node) : List Note :=
  node.childNodes.flatMap (skippedMember node.identifier)

theorem isSkip_of_mem_skippedMember {owner : String} {child : Node} {entry : Note}
    (member : entry ∈ child.skippedMember owner) : entry.isSkip = true := by
  unfold skippedMember at member
  split at member
  · split at member
    · cases member
    · rw [List.mem_singleton.mp member]
      rfl
  · split at member
    · cases member
    · rw [List.mem_singleton.mp member]
      rfl

theorem isSkip_of_mem_skippedMembers {node : Node} {entry : Note}
    (member : entry ∈ node.skippedMembers) : entry.isSkip = true := by
  obtain ⟨child, _, among⟩ := List.mem_flatMap.mp member
  exact isSkip_of_mem_skippedMember among

/-- What is said of a child of the outline, if it is skipped, and of the children of a class. -/
def skippedTop (isName : Bool) (child : Node) : List Note :=
  if child.kind = .classDecl then child.skippedMembers
  else if child.kind = .enumDecl ∨ isName then []
  else [.skippedTopLevel child.kindName]

end Node

namespace Place

section

variable {sort : NoteSort} (place : Place) (profile : Profile)

theorem holes_declNote_phrase : place.phrase.holes .declNote = 0 :=
  Nat.le_zero.mp (phrase_holes_le .ofDeclNotes fun _ _ => trivial)

theorem notes_expression (depth : Int) : Notes sort profile [] (place.expression profile depth) :=
  Phrase.notes_render profile place.holes_declNote_phrase depth

theorem notes_block (depth : Int) : Notes sort profile [] (place.block profile depth) := by
  apply Layout.notes_render
  rw [Layout.holes_block]
  exact Nat.le_zero.mp (nodeLayouts_holes_le .ofDeclNotes (fun _ _ => trivial) fun inner _ =>
    inner.layout_holes_le .ofDeclNotes)

theorem notes_arrowBody (depth : Int) (returnsValue : Bool) :
    Notes sort profile [] (place.arrowBody profile depth returnsValue) := by
  apply Layout.notes_render
  simp [place.holes_declNote_phrase]

theorem notes_initializer : Notes sort profile [] (place.initializer profile) := by
  unfold initializer
  split
  · split
    · exact (notes_expression _ profile 1).map some
    · exact notes_pure none
  · exact notes_pure none

theorem notes_declarators (nodes : List Node) :
    Notes sort profile [] (place.declarators profile nodes) := by
  induction nodes with
  | nil => exact notes_pure []
  | cons node rest ih => exact ((place.enter node).notes_initializer profile).bind fun _ => ih.map _

theorem notes_propertyDecl : Notes sort profile [] (place.propertyDecl profile) :=
  (notes_mapType .body _).bind fun _ => (place.notes_initializer profile).map _

theorem notes_parameterDecl (node : Node) : Notes sort profile [] (parameterDecl profile node) := by
  unfold parameterDecl
  split
  · exact (notes_mapType .body _).bind fun _ => notes_pure _
  · exact notes_pure none

theorem notes_methodBody (returnsValue : Bool) :
    Notes sort profile [] (place.methodBody profile returnsValue) := by
  unfold methodBody
  split
  · exact (notes_block _ profile 1).map some
  · split
    · exact (notes_arrowBody _ profile 1 returnsValue).map some
    · exact notes_pure none
  · exact notes_pure none

theorem notes_methodDecl : Notes sort profile [] (place.methodDecl profile) := by
  have parameters : Notes sort profile []
      (collect (parameterDecl profile) (parameterNodes place.node)) := by
    have none : (parameterNodes place.node).flatMap (fun _ => ([] : List Note)) = [] := by simp
    rw [← none]
    exact notes_collect fun node _ => notes_parameterDecl profile node
  exact (notes_mapType .returned _).bind fun _ =>
    parameters.bind fun _ => (place.notes_methodBody profile _).map _

theorem notes_fieldDecl :
    Notes sort profile
      ((if (place.node.find? .variableDecl).isSome then []
        else [.fieldWithoutDeclaration]).filter sort.holds)
      (place.fieldDecl profile) := by
  unfold fieldDecl
  cases place.node.find? .variableDecl with
  | none =>
      rw [← List.append_nil (List.filter _ _)]
      exact (notes_note .fieldWithoutDeclaration).bind fun _ => notes_pure none
  | some declaration =>
      exact (notes_mapType .body _).bind fun _ => (notes_declarators _ profile _).map _

/-- A child of a class is noted as skipped or not at all. -/
theorem notes_memberDecl (owner : String) :
    Notes sort profile ((place.node.skippedMember owner).filter sort.holds)
      (place.memberDecl profile owner) := by
  unfold memberDecl Place.kind
  split
  case h_1 kind =>
    rw [Node.skippedMember_of_kind (by simp [kind])]
    exact (place.notes_methodDecl profile).map _
  case h_2 kind =>
    rw [Node.skippedMember, if_pos kind]
    exact (place.notes_fieldDecl profile).map _
  case h_3 kind =>
    rw [Node.skippedMember_of_kind (by simp [kind])]
    exact notes_pure _
  case h_4 kind =>
    rw [Node.skippedMember_of_kind (by simp [kind])]
    exact (place.notes_propertyDecl profile).map _
  case h_5 kind =>
    rw [Node.skippedMember_of_kind (by simp [kind])]
    exact notes_pure none
  case h_6 noMethod noField noEnum noProperty noBases =>
    have other : place.node.kind ∉ [.methodDecl, .propertyDecl, .enumDecl, .baseList] := by
      simpa using ⟨noMethod, noProperty, noEnum, noBases⟩
    rw [Node.skippedMember, if_neg noField, if_neg other, ← List.append_nil (List.filter _ _)]
    exact (notes_note (.skippedMember owner place.node.kindName)).bind fun _ => notes_pure none

theorem notes_members (owner : String) (children : List Node) :
    Notes sort profile ((children.flatMap (Node.skippedMember owner)).filter sort.holds)
      (collect (fun child => (place.enter child).memberDecl profile owner) children) := by
  rw [List.filter_flatMap]
  exact notes_collect fun child _ => (place.enter child).notes_memberDecl profile owner

end

variable (place : Place) (profile : Profile)

/-- A base type that replaces another is noted, but it is not skipped. -/
theorem skips_bases (owner : String) (found : Bases) (entries : List Node) :
    Notes .skips profile [] (bases profile owner found entries) := by
  induction entries generalizing found with
  | nil => exact notes_pure found
  | cons entry rest ih =>
      apply (notes_mapType .body entry.typeText).bind
      intro mapped
      split
      · exact ih _
      · split
        · exact (notes_note (.replacedBase owner mapped _)).bind fun _ => ih _
        · exact ih _

theorem skips_classDecl :
    Notes .skips profile place.node.skippedMembers (place.classDecl profile) := by
  have every : place.node.skippedMembers.filter Note.isSkip = place.node.skippedMembers :=
    List.filter_eq_self.mpr fun _ member => Node.isSkip_of_mem_skippedMembers member
  rw [← every]
  exact (skips_bases profile _ {} _).bind fun _ => (place.notes_members profile _ _).map _

theorem skips_topDecl (isName : Bool) :
    Notes .skips profile (place.node.skippedTop isName) (place.topDecl profile isName) := by
  unfold topDecl Place.kind
  split
  case h_1 kind =>
    rw [Node.skippedTop, if_pos kind]
    exact (place.skips_classDecl profile).map _
  case h_2 kind =>
    have noClass : place.node.kind ≠ .classDecl := fun same => by simp [same] at kind
    rw [Node.skippedTop, if_neg noClass, if_pos (.inl kind)]
    exact notes_pure _
  case h_3 noClass noEnum =>
    rw [Node.skippedTop, if_neg noClass]
    cases isName with
    | true =>
        rw [if_pos (.inr rfl)]
        exact notes_pure none
    | false =>
        rw [if_neg (by simpa using noEnum)]
        exact (notes_note (.skippedTopLevel place.node.kindName)).bind fun _ => notes_pure none

/-- The children of the outline that are skipped, and those of its classes. -/
def skipped : List Note :=
  place.outline.node.childNodes.zipIdx.flatMap fun child =>
    child.1.skippedTop (place.node.namespace?.map Node.namePosition == some child.2)

theorem skips_unitDecl (before : Journal) (unit : UnitDecl) (after : Journal)
    (ran : (place.unitDecl profile).run before = .ok unit after) :
    ∃ notes : List Note, after.notes = before.notes ++ notes.map (·.message profile.types) ∧
      notes.filter Note.isSkip = place.skipped := by
  have skips : Notes .skips profile place.skipped (place.unitDecl profile) := by
    rw [unitDecl_eq]
    exact (notes_collect fun child _ =>
      (place.outline.enter child.1).skips_topDecl profile _).map _
  exact skips.of_ok ran

end Place

namespace Node

/-- The clause that gives a variable its value, and the value in it. -/
def value? (node : Node) : Option (Node × Node) :=
  (node.childOfKind? .equalsValueClause).bind fun clause =>
    (clause.pick? .value).map fun value => (clause, value)

/-- The variables that a field declares. -/
def declaredVariables (node : Node) : List Node :=
  match node.find? .variableDecl with
  | some declaration => declaration.childrenOfKind .variableDeclarator
  | none => []

end Node

namespace Place

variable {place : Place} {profile : Profile} {start stop : Journal}

/-- Variables with their values. A variable has a value exactly if the tree has one for it: the text
that is written for it from the journal that the variables before it left. -/
inductive Declares (place : Place) (profile : Profile) :
    List Node → Journal → List (String × Option String) → Journal → Prop
  | nil {journal : Journal} : Declares place profile [] journal [] journal
  | bare {declarator : Node} {rest : List Node} {start stop : Journal}
    {pairs : List (String × Option String)} (valueless : declarator.value? = none)
    (others : Declares place profile rest start pairs stop) :
    Declares place profile (declarator :: rest) start ((declarator.identifier, none) :: pairs) stop
  | valued {declarator clause value : Node} {rest : List Node} {start between stop : Journal}
    {text : String} {pairs : List (String × Option String)}
    (found : declarator.value? = some (clause, value))
    (written : ((((place.enter declarator).enter clause).enter value).expression profile 1).run
      start = .ok text between)
    (others : Declares place profile rest between pairs stop) :
    Declares place profile (declarator :: rest) start
      ((declarator.identifier, some text) :: pairs) stop

theorem initializer_eq_ok {out : Option String}
    (ran : (place.initializer profile).run start = .ok out stop) :
    (place.node.value? = none ∧ out = none ∧ stop = start) ∨
      ∃ clause value text, place.node.value? = some (clause, value) ∧ out = some text ∧
        (((place.enter clause).enter value).expression profile 1).run start = .ok text stop := by
  unfold initializer at ran
  split at ran
  case h_1 clause found =>
    split at ran
    case h_1 value picked =>
      obtain ⟨text, _, written, ended⟩ := RunM.bind_eq_ok ran
      cases ended
      exact .inr ⟨clause, value, text, by simp [Node.value?, found, picked], rfl, written⟩
    case h_2 missing =>
      cases ran
      exact .inl ⟨by simp [Node.value?, found, missing], rfl, rfl⟩
  case h_2 absent =>
    cases ran
    exact .inl ⟨by simp [Node.value?, absent], rfl, rfl⟩

theorem declares_of_declarators {nodes : List Node} {pairs : List (String × Option String)}
    (ran : (place.declarators profile nodes).run start = .ok pairs stop) :
    place.Declares profile nodes start pairs stop := by
  induction nodes generalizing start pairs with
  | nil =>
      cases ran
      exact .nil
  | cons node rest ih =>
      obtain ⟨value, between, first, others⟩ := RunM.bind_eq_ok ran
      obtain ⟨later, last, remaining, ended⟩ := RunM.bind_eq_ok others
      cases ended
      rcases initializer_eq_ok first with ⟨valueless, rfl, rfl⟩ | ⟨_, _, _, found, rfl, written⟩
      · exact .bare valueless (ih remaining)
      · exact .valued found written (ih remaining)

theorem Declares.map_eq {nodes : List Node} {pairs : List (String × Option String)}
    (declares : place.Declares profile nodes start pairs stop) :
    (pairs.map fun pair => (pair.1, pair.2.isSome)) =
      nodes.map fun node => (node.identifier, node.value?.isSome) := by
  induction declares with
  | nil => rfl
  | bare valueless others ih => simp [valueless, ih]
  | valued found written others ih => simp [found, ih]

theorem name_of_methodDecl {decl : MethodDecl}
    (ran : (place.methodDecl profile).run start = .ok decl stop) :
    decl.name = place.node.identifier := by
  obtain ⟨returnType, _, _, rest⟩ := RunM.bind_eq_ok ran
  obtain ⟨parameters, _, _, last⟩ := RunM.bind_eq_ok rest
  obtain ⟨block, _, _, ended⟩ := RunM.bind_eq_ok last
  cases ended
  rfl

theorem name_of_propertyDecl {decl : PropertyDecl}
    (ran : (place.propertyDecl profile).run start = .ok decl stop) :
    decl.name = place.node.identifier := by
  obtain ⟨type, _, _, rest⟩ := RunM.bind_eq_ok ran
  obtain ⟨value, _, _, ended⟩ := RunM.bind_eq_ok rest
  cases ended
  rfl

/-- A declaration of variables, from its node: the type is mapped before the values are written. -/
inductive Fields (place : Place) (profile : Profile) (start : Journal) :
    Option FieldDecl → Journal → Prop
  | some {declaration : Node} {type : String} {typed stop : Journal}
    {declarators : List (String × Option String)}
    (found : place.node.find? .variableDecl = some declaration)
    (mapped : (RunM.mapType profile .body (declaration.slotTypeText .type)).run start =
      .ok type typed)
    (declares : (place.enter declaration).Declares profile
      (declaration.childrenOfKind .variableDeclarator) typed declarators stop) :
    Fields place profile start
      (some { type, modifiers := place.node.modifiersBy .fields, declarators }) stop
  | none {stop : Journal} (absent : place.node.find? .variableDecl = none)
    (noted : (RunM.note profile .fieldWithoutDeclaration).run start = .ok () stop) :
    Fields place profile start none stop

theorem fields_of_fieldDecl {out : Option FieldDecl}
    (ran : (place.fieldDecl profile).run start = .ok out stop) :
    place.Fields profile start out stop := by
  unfold fieldDecl at ran
  split at ran
  case h_1 absent =>
    obtain ⟨_, _, noted, ended⟩ := RunM.bind_eq_ok ran
    cases ended
    exact .none absent noted
  case h_2 declaration found =>
    obtain ⟨type, typed, mapped, rest⟩ := RunM.bind_eq_ok ran
    obtain ⟨pairs, _, inner, ended⟩ := RunM.bind_eq_ok rest
    cases ended
    exact .some found mapped (declares_of_declarators inner)

/-- What a child of a class becomes. -/
inductive Becomes (place : Place) (profile : Profile) (child : Node) (start : Journal) :
    Option MemberDecl → Journal → Prop where
  | method {decl : MethodDecl} {stop : Journal} (kind : child.kind = .methodDecl)
    (name : decl.name = child.identifier) :
    Becomes place profile child start (some (.method decl)) stop
  | property {decl : PropertyDecl} {stop : Journal} (kind : child.kind = .propertyDecl)
    (name : decl.name = child.identifier) :
    Becomes place profile child start (some (.property decl)) stop
  | enum {stop : Journal} (kind : child.kind = .enumDecl) :
    Becomes place profile child start (some (.enum child.toEnumDecl)) stop
  | field {out : Option FieldDecl} {stop : Journal} (kind : child.kind = .fieldDecl)
    (fields : (place.enter child).Fields profile start out stop) :
    Becomes place profile child start (out.map .field) stop
  | other {stop : Journal}
    (kind : child.kind ∉ [.methodDecl, .propertyDecl, .enumDecl, .fieldDecl]) :
    Becomes place profile child start none stop

theorem becomes_of_memberDecl {child : Node} {owner : String} {out : Option MemberDecl}
    (ran : ((place.enter child).memberDecl profile owner).run start = .ok out stop) :
    place.Becomes profile child start out stop := by
  unfold memberDecl Place.kind at ran
  split at ran
  case h_1 kind =>
    obtain ⟨decl, _, inner, ended⟩ := RunM.bind_eq_ok ran
    cases ended
    exact .method kind (name_of_methodDecl inner)
  case h_2 kind =>
    obtain ⟨found, _, inner, ended⟩ := RunM.bind_eq_ok ran
    cases ended
    exact .field kind (fields_of_fieldDecl inner)
  case h_3 kind =>
    cases ran
    exact .enum kind
  case h_4 kind =>
    obtain ⟨decl, _, inner, ended⟩ := RunM.bind_eq_ok ran
    cases ended
    exact .property kind (name_of_propertyDecl inner)
  case h_5 kind =>
    cases ran
    exact .other (by simp [show child.kind = .baseList from kind])
  case h_6 noMethod noField noEnum noProperty noBases =>
    cases ran
    exact .other (by simpa using ⟨noMethod, noProperty, noEnum, noField⟩)

/-- What a child of a class adds to the fields. -/
inductive FieldStep (place : Place) (profile : Profile) (child : Node) (start : Journal) :
    Option FieldDecl → Journal → Prop
  | field {out : Option FieldDecl} {stop : Journal} (kind : child.kind = .fieldDecl)
    (fields : (place.enter child).Fields profile start out stop) :
    FieldStep place profile child start out stop
  | other {out : Option MemberDecl} {stop : Journal} (kind : child.kind ≠ .fieldDecl)
    (passed : ((place.enter child).memberDecl profile place.node.identifier).run start =
      .ok out stop) :
    FieldStep place profile child start none stop

theorem fieldStep_of_memberDecl {child : Node} {out : Option MemberDecl}
    (ran : ((place.enter child).memberDecl profile place.node.identifier).run start =
      .ok out stop) :
    place.FieldStep profile child start (out.bind MemberDecl.field?) stop := by
  cases becomes_of_memberDecl ran with
  | method kind name => exact .other (by simp [kind]) ran
  | property kind name => exact .other (by simp [kind]) ran
  | enum kind => exact .other (by simp [kind]) ran
  | @field out stop kind fields =>
      have same : (out.map MemberDecl.field).bind MemberDecl.field? = out := by cases out <;> rfl
      rw [same]
      exact .field kind fields
  | other kind => exact .other (fun same => by simp [same] at kind) ran

/-- A class has what its node has, each list in the order of the tree. Its fields are made one after
the other from the journals reached there, after the base types and between the other members. -/
structure Gathers (place : Place) (profile : Profile) (start : Journal) (decl : ClassDecl)
    (stop : Journal) : Prop where
  name : decl.name = place.node.identifier
  methods : decl.methods.map (·.name) =
    (place.node.childrenOfKind .methodDecl).map Node.identifier
  properties : decl.properties.map (·.name) =
    (place.node.childrenOfKind .propertyDecl).map Node.identifier
  enums : decl.enums.map (·.name) = (place.node.childrenOfKind .enumDecl).map Node.identifier
  pairs : (decl.fields.map fun field =>
      field.declarators.map fun pair => (pair.1, pair.2.isSome)) =
    ((place.node.childrenOfKind .fieldDecl).filter fun node =>
      (node.find? .variableDecl).isSome).map fun node =>
        node.declaredVariables.map fun declarator =>
          (declarator.identifier, declarator.value?.isSome)
  fields : ∃ bases reached,
    (Place.bases profile place.node.identifier {} (baseNodes place.node)).run start =
        .ok bases reached ∧
      Threads (place.FieldStep profile) place.node.childNodes reached decl.fields stop

section

variable {members : List MemberDecl} {reached : Journal}
  (becomes : Threads (place.Becomes profile) place.node.childNodes reached members stop)
include becomes

/-- The declarations of one sort are named by the nodes of one kind. -/
theorem names_of_becomes {β : Type} {sort : MemberDecl → Option β} {name : β → String}
    {kind : NodeKind}
    (each : ∀ child before out after, place.Becomes profile child before out after →
      (out.bind sort).map name = if child.kind = kind then some child.identifier else none) :
    (members.filterMap sort).map name = (place.node.childrenOfKind kind).map Node.identifier := by
  have sorted : Threads (fun child _ out _ =>
      out.map name = if child.kind = kind then some child.identifier else none)
        place.node.childNodes reached (members.filterMap sort) stop :=
    becomes.filterMap each
  apply sorted.map_eq
  intro child before out after named
  simpa using named

theorem methods_of_becomes :
    (members.filterMap MemberDecl.method?).map (·.name) =
      (place.node.childrenOfKind .methodDecl).map Node.identifier := by
  apply names_of_becomes becomes
  intro child before out after member
  cases member <;> simp_all [MemberDecl.method?]

theorem properties_of_becomes :
    (members.filterMap MemberDecl.property?).map (·.name) =
      (place.node.childrenOfKind .propertyDecl).map Node.identifier := by
  apply names_of_becomes becomes
  intro child before out after member
  cases member <;> simp_all [MemberDecl.property?]

theorem enums_of_becomes :
    (members.filterMap MemberDecl.enum?).map (·.name) =
      (place.node.childrenOfKind .enumDecl).map Node.identifier := by
  apply names_of_becomes becomes
  intro child before out after member
  cases member <;> simp_all [MemberDecl.enum?, Node.toEnumDecl]

end

theorem pairs_of_fieldSteps {fields : List FieldDecl}
    (threads : Threads (place.FieldStep profile) place.node.childNodes start fields stop) :
    (fields.map fun field => field.declarators.map fun pair => (pair.1, pair.2.isSome)) =
      ((place.node.childrenOfKind .fieldDecl).filter fun node =>
        (node.find? .variableDecl).isSome).map fun node =>
          node.declaredVariables.map fun declarator =>
            (declarator.identifier, declarator.value?.isSome) := by
  rw [Node.childrenOfKind, List.filter_filter]
  apply threads.map_eq
  intro child before out after step
  cases step with
  | other kind passed => simp [kind]
  | field kind fields =>
      cases fields with
      | none absent noted => simp [show child.find? .variableDecl = none from absent]
      | @some declaration type typed stop declarators found mapped declares =>
          have present : child.find? .variableDecl = some declaration := found
          simp [present, kind, Node.declaredVariables, declares.map_eq]

theorem gathers_of_classDecl {decl : ClassDecl}
    (ran : (place.classDecl profile).run start = .ok decl stop) :
    place.Gathers profile start decl stop := by
  obtain ⟨bases, reached, based, rest⟩ := RunM.bind_eq_ok ran
  obtain ⟨members, _, collected, ended⟩ := RunM.bind_eq_ok rest
  cases ended
  have threads := threads_of_collect collected
  have fields : Threads (place.FieldStep profile) place.node.childNodes reached
      (members.filterMap MemberDecl.field?) stop :=
    threads.filterMap fun child _ _ _ inner => fieldStep_of_memberDecl inner
  have becomes : Threads (place.Becomes profile) place.node.childNodes reached members stop :=
    threads.mono fun child _ _ _ inner => becomes_of_memberDecl inner
  exact ⟨rfl, methods_of_becomes becomes, properties_of_becomes becomes, enums_of_becomes becomes,
    pairs_of_fieldSteps fields, bases, reached, based, fields⟩

/-- What a child of the outline adds to the classes. -/
inductive ClassStep (place : Place) (profile : Profile) (name : Option Nat) (child : Node × Nat)
    (start : Journal) : Option ClassDecl → Journal → Prop
  | classDecl {decl : ClassDecl} {stop : Journal} (kind : child.1.kind = .classDecl)
    (gathers : (place.enter child.1).Gathers profile start decl stop) :
    ClassStep place profile name child start (some decl) stop
  | other {out : Option TopDecl} {stop : Journal} (kind : child.1.kind ≠ .classDecl)
    (passed : ((place.enter child.1).topDecl profile (name == some child.2)).run start =
      .ok out stop) :
    ClassStep place profile name child start none stop

section

variable {name : Option Nat} {child : Node × Nat} {out : Option TopDecl}
  (ran : ((place.enter child.1).topDecl profile (name == some child.2)).run start = .ok out stop)
include ran

theorem classStep_of_topDecl :
    place.ClassStep profile name child start (out.bind TopDecl.class?) stop := by
  have passed := ran
  unfold topDecl Place.kind at ran
  split at ran
  case h_1 kind =>
    obtain ⟨decl, _, inner, ended⟩ := RunM.bind_eq_ok ran
    cases ended
    exact .classDecl kind (gathers_of_classDecl inner)
  case h_2 kind =>
    cases ran
    exact .other (by simp [show child.1.kind = .enumDecl from kind]) passed
  case h_3 noClass noEnum =>
    cases tops_of_topDecl passed (.refl _) with
    | classDecl kind => exact absurd kind noClass
    | enum kind => exact absurd kind noEnum
    | skipped => exact .other noClass passed

theorem enum_of_topDecl :
    (out.bind TopDecl.enum?).map (·.name) =
      if child.1.kind = .enumDecl then some child.1.identifier else none := by
  cases tops_of_topDecl ran (.refl _) with
  | classDecl kind => simp [show child.1.kind = .classDecl from kind, TopDecl.enum?]
  | enum kind => simp [show child.1.kind = .enumDecl from kind, TopDecl.enum?, Node.toEnumDecl]
  | skipped noClass noEnum => simp [show child.1.kind ≠ .enumDecl from noEnum]

end

/-- The names of the declarations of one sort at the top. -/
theorem names_at_top {β : Type} {step : Node × Nat → Journal → Option β → Journal → Prop}
    {results : List β} {name : β → String} {kind : NodeKind}
    (threads : Threads step place.node.childNodes.zipIdx start results stop)
    (each : ∀ child before out after, step child before out after →
      out.map name = if child.1.kind = kind then some child.1.identifier else none) :
    results.map name = (place.node.childrenOfKind kind).map Node.identifier := by
  have named := threads.map_eq (p := fun child => child.1.kind == kind) (f := name)
    (g := fun child => child.1.identifier) fun child before out after step => by
      simpa using each child before out after step
  rw [named, Node.childrenOfKind, ← List.zipIdx_map_fst 0 place.node.childNodes, List.filter_map,
    List.map_map, List.zipIdx_map_fst]
  rfl

end Place

/-- Nothing of the outline gets lost, comes twice or changes its place: classes and enums, and in
each class methods, properties, enums and fields, are those of the tree, in order, and so are the
variables of each field with their values, which are written as the walk comes to them. Everything
else is noted as skipped once, in the order of the tree, the name of the namespace and the base
types of a class apart. -/
theorem declarations_accounted (root : Node) (profile : Profile) (before after : Journal)
    (unit : UnitDecl) (ran : (Place.unitDecl ⟨root, []⟩ profile).run before = .ok unit after) :
    let outline := Place.outline ⟨root, []⟩
    unit.classes.map (·.name) = (outline.node.childrenOfKind .classDecl).map Node.identifier ∧
      unit.enums.map (·.name) = (outline.node.childrenOfKind .enumDecl).map Node.identifier ∧
      RunM.Threads (outline.ClassStep profile (root.namespace?.map Node.namePosition))
        outline.node.childNodes.zipIdx before unit.classes after ∧
      ∃ notes : List Note, after.notes = before.notes ++ notes.map (·.message profile.types) ∧
        notes.filter Note.isSkip = Place.skipped ⟨root, []⟩ := by
  intro outline
  have skips := Place.skips_unitDecl _ profile _ _ _ ran
  obtain ⟨decls, _, collected, ended⟩ := RunM.bind_eq_ok ran
  cases ended
  have threads := RunM.threads_of_collect collected
  have classes : RunM.Threads (outline.ClassStep profile (root.namespace?.map Node.namePosition))
      outline.node.childNodes.zipIdx before (decls.filterMap TopDecl.class?) after :=
    threads.filterMap fun child _ _ _ topped => Place.classStep_of_topDecl topped
  have enums : RunM.Threads (fun child _ out _ => out.map (·.name) =
        if child.1.kind = .enumDecl then some child.1.identifier else none)
      outline.node.childNodes.zipIdx before (decls.filterMap TopDecl.enum?) after :=
    threads.filterMap fun child _ _ _ topped => Place.enum_of_topDecl topped
  refine ⟨Place.names_at_top classes ?_, Place.names_at_top enums fun _ _ _ _ named => named,
    classes, skips⟩
  intro child start out stop step
  cases step with
  | classDecl kind gathers => simp [kind, gathers.name, Place.enter]
  | other kind passed => simp [kind]

/-- `namespace N { delegate …; enum Color { } class Order { int a = 1, b, c =; … } }`: the class
has a field without variables, a constructor, an enum, a property and a method besides. -/
def Node.mixedMembers : Node :=
  .mk { kind := .compilationUnit } [.node (.mk { kind := .namespaceDecl } [
    .node (.mk { kind := .identifierName, role := some "name" }
      [.token { kind := .identifier, text := "N" }]),
    .node (.mk { kind := .unknown, rawName := some "DelegateDeclaration" } []),
    .node (.mk { kind := .enumDecl } [.token { kind := .identifier, text := "Color" }]),
    .node (.mk { kind := .classDecl } [
      .token { kind := .identifier, text := "Order" },
      .node (.mk { kind := .fieldDecl } [.node (.mk { kind := .variableDecl } [
        .node (.mk { kind := .predefinedType } [.token { kind := .identifier, text := "int" }]),
        .node (.mk { kind := .variableDeclarator } [
          .token { kind := .identifier, text := "a" },
          .node (.mk { kind := .equalsValueClause } [
            .node (.mk { kind := .literal } [.token { kind := .identifier, text := "1" }])])]),
        .node (.mk { kind := .variableDeclarator } [
          .token { kind := .identifier, text := "b" }]),
        .node (.mk { kind := .variableDeclarator } [
          .token { kind := .identifier, text := "c" },
          .node (.mk { kind := .equalsValueClause } [])])])]),
      .node (.mk { kind := .fieldDecl } []),
      .node (.mk { kind := .unknown, rawName := some "ConstructorDeclaration" } []),
      .node (.mk { kind := .enumDecl } [.token { kind := .identifier, text := "Kind" }]),
      .node (.mk { kind := .propertyDecl } [
        .node (.mk { kind := .predefinedType } [.token { kind := .identifier, text := "double" }]),
        .token { kind := .identifier, text := "Total" }]),
      .node (.mk { kind := .methodDecl } [
        .node (.mk { kind := .predefinedType } [.token { kind := .identifier, text := "void" }]),
        .token { kind := .identifier, text := "Add" }])])])]

/-- What the tree declares. -/
def UnitDecl.mixedMembers : UnitDecl where
  package := some "N"
  enums := [{ name := "Color" }]
  classes := [{
    name := "Order"
    enums := [{ name := "Kind" }]
    fields := [{
      type := "Integer"
      declarators := [("a", some "1"), ("b", none), ("c", none)] }]
    properties := [{ name := "Total", type := "Double" }]
    methods := [{ name := "Add", returnType := "void" }] }]

theorem declarations_accounted_mixedMembers :
    ∃ after,
      (Place.unitDecl ⟨Node.mixedMembers, []⟩ (Profile.java true)).run Journal.java =
        .ok UnitDecl.mixedMembers after ∧
      RunM.Threads ((Place.outline ⟨Node.mixedMembers, []⟩).ClassStep (Profile.java true) (some 0))
        (Place.outline ⟨Node.mixedMembers, []⟩).node.childNodes.zipIdx Journal.java
        UnitDecl.mixedMembers.classes after ∧
      ∃ notes : List Note, after.notes = notes.map (·.message TypeMap.java) ∧
        notes.filter Note.isSkip = [.skippedTopLevel "DelegateDeclaration",
          .fieldWithoutDeclaration, .skippedMember "Order" "ConstructorDeclaration"] := by
  have found : (Place.unitDecl ⟨Node.mixedMembers, []⟩ (Profile.java true)).result? Journal.java =
      some UnitDecl.mixedMembers := by decide +kernel
  obtain ⟨after, ran⟩ := RunM.exists_of_result? found
  have expected : Place.skipped ⟨Node.mixedMembers, []⟩ = [.skippedTopLevel "DelegateDeclaration",
      .fieldWithoutDeclaration, .skippedMember "Order" "ConstructorDeclaration"] := by decide
  obtain ⟨-, -, threads, notes, added, skipped⟩ :=
    declarations_accounted Node.mixedMembers (Profile.java true) Journal.java after
      UnitDecl.mixedMembers ran
  exact ⟨after, ran, threads, notes, added, skipped.trans expected⟩

end SharpToJava
