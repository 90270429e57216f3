import SharpToJava.Proofs.Likeness.Output
import SharpToJava.Proofs.Totality

/-!
What becomes of the nodes at the top. The outline of a tree is its first namespace, or its root if
there is none. Within the outline nothing gets lost: classes and enums are declared in order, and
what else is there leaves a note, the name apart. Outside the outline everything gets lost, without
a note.
-/

namespace SharpToJava

/-- If a run over a list ends well, so does the run of each item, and nothing recorded by it is lost
later. -/
theorem RunM.collect_eq_ok {α β : Type} {fails : Fault → Prop} {f : α → RunM (Option β)}
    {items : List α} (each : ∀ item ∈ items, Meets fails (f item) fun _ => True)
    {before after : Journal} {results : List β}
    (done : (collect f items).run before = .ok results after) :
    ∃ found, List.Forall₂ (fun item out => ∃ start stop,
      (f item).run start = .ok out stop ∧ stop.Extends after) items found ∧
        results = found.filterMap id := by
  induction items generalizing before results with
  | nil =>
      cases done
      exact ⟨[], .nil, rfl⟩
  | cons item rest ih =>
      have later : ∀ item ∈ rest, Meets fails (f item) fun _ => True :=
        fun other member => each other (List.mem_cons_of_mem _ member)
      have grows : Meets fails (collect f rest) _ :=
        meets_collect fun other member => (later other member).weaken fun _ _ _ _ => trivial
      obtain ⟨out, between, first, others⟩ := bind_eq_ok done
      cases out with
      | none =>
          obtain ⟨found, related, rfl⟩ := ih later others
          exact ⟨none :: found, .cons ⟨before, between, first, (grows.of_ok others).1⟩ related, rfl⟩
      | some result =>
          obtain ⟨tail, last, ran, ended⟩ := bind_eq_ok others
          cases ended
          obtain ⟨found, related, rfl⟩ := ih later ran
          exact ⟨some result :: found,
            .cons ⟨before, between, first, (grows.of_ok ran).1⟩ related, rfl⟩

namespace Place

/-- What a run that leaves the journal `after` makes of a node at the top. -/
inductive Tops (place : Place) (profile : Profile) (isName : Bool) (after : Journal) :
    Option TopDecl → Prop where
  | classDecl {decl : ClassDecl} (kind : place.kind = .classDecl)
      (ran : ∃ start stop, (place.classDecl profile).run start = .ok decl stop) :
      Tops place profile isName after (some (.classDecl decl))
  | enum (kind : place.kind = .enumDecl) :
      Tops place profile isName after (some (.enum place.node.toEnumDecl))
  | skipped (noClass : place.kind ≠ .classDecl) (noEnum : place.kind ≠ .enumDecl)
      (noted : isName = false →
        (Note.skippedTopLevel place.node.kindName).message profile.types ∈ after.notes) :
      Tops place profile isName after none

theorem tops_of_topDecl {place : Place} {profile : Profile} {isName : Bool}
    {start stop after : Journal} {out : Option TopDecl}
    (ran : (place.topDecl profile isName).run start = .ok out stop) (grown : stop.Extends after) :
    place.Tops profile isName after out := by
  unfold topDecl at ran
  split at ran
  case h_1 kind =>
    obtain ⟨decl, between, inner, ended⟩ := RunM.bind_eq_ok ran
    cases ended
    exact .classDecl kind ⟨start, _, inner⟩
  case h_2 kind =>
    cases ran
    exact .enum kind
  case h_3 noClass noEnum =>
    have skipped : isName = false →
        (Note.skippedTopLevel place.node.kindName).message profile.types ∈ stop.notes := by
      intro unnamed
      subst unnamed
      cases ran
      exact List.mem_append_right _ (List.mem_singleton.mpr rfl)
    have nothing : out = none := by
      cases isName <;> cases ran <;> rfl
    subst nothing
    exact .skipped noClass noEnum fun unnamed => grown.notes.subset (skipped unnamed)

section

variable {place : Place} {profile : Profile} {name : Option Nat} {after : Journal}
  {found : List (Option TopDecl)}
  (related : List.Forall₂ (fun child out =>
    (place.enter child.1).Tops profile (name == some child.2) after out)
      place.node.childNodes.zipIdx found)
include related

/-- The declarations of one sort stand for the nodes of one kind, in order. -/
theorem forall₂_sort {β : Type} {like : Node → β → Prop} {sort : TopDecl → Option β}
    {kind : NodeKind}
    (hit : ∀ child isName out, (place.enter child).Tops profile isName after out →
      child.kind = kind → ∃ decl, out.bind sort = some decl ∧ like child decl)
    (miss : ∀ child isName out, (place.enter child).Tops profile isName after out →
      child.kind ≠ kind → out.bind sort = none) :
    List.Forall₂ like (place.node.childrenOfKind kind) ((found.filterMap id).filterMap sort) := by
  -- the nodes of the kind as a `filterMap` over the same list that the declarations come from
  have nodes : place.node.childNodes.zipIdx.filterMap (Option.guard (·.kind == kind) ∘ Prod.fst) =
      place.node.childrenOfKind kind := by
    rw [← List.filterMap_map, List.zipIdx_map_fst, List.filterMap_eq_filter]
    rfl
  rw [← nodes, List.filterMap_filterMap]
  refine List.rel_filterMap (fun child out tops => ?_) related
  by_cases same : child.1.kind = kind
  · obtain ⟨decl, sorted, alike⟩ := hit child.1 _ out tops same
    simpa [Option.guard, same, sorted] using alike
  · simp [Option.guard, same, miss child.1 _ out tops same]

theorem enums_eq :
    (found.filterMap id).filterMap TopDecl.enum? =
      (place.node.childrenOfKind .enumDecl).map Node.toEnumDecl := by
  have sorted : List.Forall₂ (fun node decl => node.toEnumDecl = decl)
      (place.node.childrenOfKind .enumDecl) ((found.filterMap id).filterMap TopDecl.enum?) := by
    apply forall₂_sort related
    · intro child isName out tops kind
      cases tops with
      | classDecl isClass ran => exact absurd (kind.symm.trans isClass) (by decide)
      | enum isEnum => exact ⟨_, rfl, rfl⟩
      | skipped noClass noEnum noted => exact absurd kind noEnum
    · intro child isName out tops other
      cases tops with
      | classDecl isClass ran => rfl
      | enum isEnum => exact absurd isEnum other
      | skipped noClass noEnum noted => rfl
  rw [← List.forall₂_map_left_iff, List.forall₂_eq_eq_eq] at sorted
  exact sorted.symm

theorem classes_forall₂ :
    List.Forall₂ (fun node decl => ∃ start stop,
      ((place.enter node).classDecl profile).run start = .ok decl stop)
        (place.node.childrenOfKind .classDecl)
        ((found.filterMap id).filterMap TopDecl.class?) := by
  apply forall₂_sort related
  · intro child isName out tops kind
    cases tops with
    | classDecl isClass ran => exact ⟨_, rfl, ran⟩
    | enum isEnum => exact absurd (kind.symm.trans isEnum) (by decide)
    | skipped noClass noEnum noted => exact absurd kind noClass
  · intro child isName out tops other
    cases tops with
    | classDecl isClass ran => exact absurd isClass other
    | enum isEnum => rfl
    | skipped noClass noEnum noted => rfl

theorem noted_of_skipped {child : Node × Nat} (member : child ∈ place.node.childNodes.zipIdx)
    (noClass : child.1.kind ≠ .classDecl) (noEnum : child.1.kind ≠ .enumDecl)
    (unnamed : name ≠ some child.2) :
    (Note.skippedTopLevel child.1.kindName).message profile.types ∈ after.notes := by
  obtain ⟨out, -, tops⟩ := exists_of_forall₂ related member
  cases tops with
  | classDecl isClass ran => exact absurd isClass noClass
  | enum isEnum => exact absurd isEnum noEnum
  | skipped _ _ noted => exact noted (beq_false_of_ne unnamed)

end

theorem unitDecl_eq_ok {place : Place} {profile : Profile} {promise : Promise profile.types}
    (every : place.Every promise.Admits) {before after : Journal} {unit : UnitDecl}
    (ran : (place.unitDecl profile).run before = .ok unit after) :
    ∃ found : List (Option TopDecl),
      List.Forall₂ (fun child out => (place.outline.enter child.1).Tops profile
        (place.node.namespace?.map Node.namePosition == some child.2) after out)
          place.outline.node.childNodes.zipIdx found ∧
      unit.enums = (found.filterMap id).filterMap TopDecl.enum? ∧
      unit.classes = (found.filterMap id).filterMap TopDecl.class? := by
  obtain ⟨decls, _, collected, ended⟩ := RunM.bind_eq_ok ran
  cases ended
  have each : ∀ child ∈ place.outline.node.childNodes.zipIdx, RunM.Meets promise.fails
      ((place.outline.enter child.1).topDecl profile
        (place.node.namespace?.map Node.namePosition == some child.2)) fun _ => True := by
    intro child member
    have inside := every.outline.enter_child (List.fst_mem_of_mem_zipIdx member)
    exact (meets_topDecl inside _).weaken fun _ _ => trivial
  obtain ⟨found, related, rfl⟩ := RunM.collect_eq_ok each collected
  refine ⟨found, related.imp ?_, rfl, rfl⟩
  rintro child out ⟨start, stop, topped, grown⟩
  exact tops_of_topDecl topped grown

end Place

/-- Only the namespace counts, whatever stands around it. -/
theorem Place.unitDecl_eq_of_namespace {root other inner : Node}
    (found : root.namespace? = some inner) (same : other.namespace? = some inner)
    (profile : Profile) :
    Place.unitDecl ⟨root, []⟩ profile = Place.unitDecl ⟨other, []⟩ profile := by
  have alike : ∀ child, Place.Like Eq ((Place.enter ⟨root, []⟩ inner).enter child)
      ((Place.enter ⟨other, []⟩ inner).enter child) := by
    intro child
    refine ⟨rfl, .some rfl, fun value => ?_⟩
    -- a namespace is no clause, so nobody asks what is around it
    rcases Node.kind_of_namespace? found with kind | kind <;>
      simp [isInside, kind] at value
  have tops : ∀ child isName,
      ((Place.enter ⟨root, []⟩ inner).enter child).topDecl profile isName =
        ((Place.enter ⟨other, []⟩ inner).enter child).topDecl profile isName :=
    fun child isName => Likeness.refl.topDecl (alike child) profile isName
  unfold unitDecl
  simp only [found, same, tops]
  rfl

/-- In the outline every class and every enum is declared, in order, and every other node but the
name of the namespace is noted. Around a namespace nothing makes a difference, neither to the
declarations nor to the notes: a class beside it gets lost without a trace. -/
theorem outline_declared (root : Node) (profile : Profile) (before after : Journal)
    (unit : UnitDecl) (ran : (Place.unitDecl ⟨root, []⟩ profile).run before = .ok unit after) :
    let outline := Place.outline ⟨root, []⟩
    unit.enums = (outline.node.childrenOfKind .enumDecl).map Node.toEnumDecl ∧
      List.Forall₂ (fun node decl => ∃ start stop,
        ((outline.enter node).classDecl profile).run start = .ok decl stop)
          (outline.node.childrenOfKind .classDecl) unit.classes ∧
      (∀ child ∈ outline.node.childNodes.zipIdx, child.1.kind ≠ .classDecl →
        child.1.kind ≠ .enumDecl → root.namespace?.map Node.namePosition ≠ some child.2 →
          (Note.skippedTopLevel child.1.kindName).message profile.types ∈ after.notes) ∧
      ∀ inner other, root.namespace? = some inner → other.namespace? = some inner →
        (Place.unitDecl ⟨other, []⟩ profile).run before = .ok unit after := by
  have every : Place.Every (Promise.faultsOf profile.types root).Admits ⟨root, []⟩ :=
    ⟨Promise.faultsOf_admits _ root, by simp⟩
  obtain ⟨found, related, enums, classes⟩ := Place.unitDecl_eq_ok every ran
  refine ⟨enums.trans (Place.enums_eq related), classes ▸ Place.classes_forall₂ related, ?_, ?_⟩
  · intro child member noClass noEnum unnamed
    exact Place.noted_of_skipped related member noClass noEnum unnamed
  · intro inner other here there
    rw [← Place.unitDecl_eq_of_namespace here there]
    exact ran

/-- `namespace N { class B { } }` -/
def Node.namespaceWithClass : Node :=
  .mk { kind := .namespaceDecl } [
    .node (.mk { kind := .identifierName, role := some "name" }
      [.token { kind := .identifier, text := "N" }]),
    .node (.mk { kind := .classDecl } [.token { kind := .identifier, text := "B" }])]

/-- `class A { } namespace N { class B { } }` -/
def Node.classBesideNamespace : Node :=
  .mk { kind := .unknown } [
    .node (.mk { kind := .classDecl } [.token { kind := .identifier, text := "A" }]),
    .node Node.namespaceWithClass]

theorem outline_declared_classBesideNamespace :
    ∃ unit after,
      (Place.unitDecl ⟨Node.classBesideNamespace, []⟩ (Profile.java true)).run Journal.java =
        .ok unit after ∧
      unit.classes.map (·.name) = ["B"] ∧ unit.enums = [] ∧ after.notes = [] ∧
      (Place.unitDecl ⟨.mk { kind := .unknown } [.node Node.namespaceWithClass], []⟩
        (Profile.java true)).run Journal.java = .ok unit after := by
  obtain ⟨unit, after, ran, names, notes⟩ : ∃ unit after,
      (Place.unitDecl ⟨Node.classBesideNamespace, []⟩ (Profile.java true)).run Journal.java =
        .ok unit after ∧
      unit.classes.map (·.name) = ["B"] ∧ after.notes = [] := ⟨_, _, rfl, rfl, rfl⟩
  obtain ⟨enums, -, -, alone⟩ := outline_declared Node.classBesideNamespace (Profile.java true)
    Journal.java after unit ran
  exact ⟨unit, after, ran, names, enums, notes, alone Node.namespaceWithClass _ rfl rfl⟩

end SharpToJava
