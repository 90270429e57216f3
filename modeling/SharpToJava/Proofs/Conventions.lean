import SharpToJava.Proofs.Decl.Promise
import SharpToJava.Proofs.Holes.Layout
import SharpToJava.Proofs.Likeness.Output

/-!
Two runs over one tree, of which only one enforces conventions. Casts are the only expressions that
ask which run it is, so without them the two are one run, and the Java texts differ by the names of
methods and properties at most.
-/

namespace SharpToJava

/-- Without casts nothing is left to conventions. -/
def Allowance.castFree : Allowance .convention fun node => node.kind ≠ .cast where
  amount _ := 0
  covers node free := by simp [Node.brings, free]
  apart node _ := by simp

variable {types : TypeMap}

namespace Phrase

mutual
theorem writeTo_eq_of_holes : ∀ (phrase : Phrase) (fragment : Fragment),
    phrase.holes .convention = 0 →
      phrase.writeTo ⟨true, types⟩ fragment = phrase.writeTo ⟨false, types⟩ fragment
  | .text written, fragment, _ => by rw [writeTo, writeTo]
  | .type source, fragment, _ => by
    rw [writeTo, writeTo]
    rfl
  | .unimportedType source, fragment, _ => by rw [writeTo, writeTo]
  | .discard, fragment, _ => by rw [writeTo, writeTo]
  | .note entry, fragment, _ => by
    rw [writeTo, writeTo]
    rfl
  | .newline, fragment, _ => by rw [writeTo, writeTo]
  | .join parts, fragment, free => by
    rw [holes] at free
    rw [writeTo, writeTo, writeAllTo_eq_of_holes parts fragment free]
  | .ledBy lead body, fragment, free => by
    rw [holes] at free
    rw [writeTo, writeTo, writeTo_eq_of_holes body _ free]
  | .byConvention enforced otherwise, fragment, free => by simp [holes] at free
  | .call callee arguments, fragment, free => by
    simp only [holes, Nat.add_eq_zero_iff] at free
    -- the note of a call with too few arguments depends on the type map only
    have head := writeTo_eq_of_holes callee { depth := fragment.depth } free.1.2
    have rest := writeApart_eq_of_holes arguments fragment.depth free.2
    rw [writeTo, writeTo, head, rest]
    rfl
  | .memberWithoutName, fragment, _ => by rw [writeTo, writeTo]

theorem writeAllTo_eq_of_holes : ∀ (phrases : List Phrase) (fragment : Fragment),
    holesAmong .convention phrases = 0 →
      writeAllTo ⟨true, types⟩ phrases fragment = writeAllTo ⟨false, types⟩ phrases fragment
  | [], fragment, _ => by rw [writeAllTo, writeAllTo]
  | phrase :: rest, fragment, free => by
    simp only [holesAmong, Nat.add_eq_zero_iff] at free
    have later : ∀ written, writeAllTo ⟨true, types⟩ rest written =
        writeAllTo ⟨false, types⟩ rest written :=
      fun written => writeAllTo_eq_of_holes rest written free.2
    rw [writeAllTo, writeAllTo, writeTo_eq_of_holes phrase fragment free.1, funext later]

theorem writeApart_eq_of_holes : ∀ (phrases : List Phrase) (depth : Int),
    holesAmong .convention phrases = 0 →
      writeApart ⟨true, types⟩ depth phrases = writeApart ⟨false, types⟩ depth phrases
  | [], depth, _ => by rw [writeApart, writeApart]
  | phrase :: rest, depth, free => by
    simp only [holesAmong, Nat.add_eq_zero_iff] at free
    rw [writeApart, writeApart, writeTo_eq_of_holes phrase _ free.1,
      writeApart_eq_of_holes rest depth free.2]
end

theorem render_eq_of_holes {phrase : Phrase} (free : phrase.holes .convention = 0) (depth : Int) :
    phrase.render ⟨true, types⟩ depth = phrase.render ⟨false, types⟩ depth := by
  rw [render, render, writeTo_eq_of_holes phrase _ free]

end Phrase

namespace Layout

mutual
theorem write_eq_of_holes : ∀ (layout : Layout) (fragment : Fragment),
    layout.holes .convention = 0 →
      layout.write ⟨true, types⟩ fragment = layout.write ⟨false, types⟩ fragment
  | .phrase content, fragment, free => by
    rw [holes] at free
    rw [write, write, content.render_eq_of_holes free]
  | .indent, fragment, _ => by rw [write, write]
  | .shift levels, fragment, _ => by rw [write, write]
  | .join parts, fragment, free => by
    rw [holes] at free
    rw [write, write, writeAll_eq_of_holes parts fragment free]
  | .byLineStart choose, fragment, free => by
    rw [holes, Nat.max_eq_zero_iff] at free
    have chosen : (choose fragment.atLineStart).holes .convention = 0 := by
      cases fragment.atLineStart with
      | true => exact free.1
      | false => exact free.2
    rw [write, write, write_eq_of_holes (choose fragment.atLineStart) fragment chosen]

theorem writeAll_eq_of_holes : ∀ (layouts : List Layout) (fragment : Fragment),
    holesAmong .convention layouts = 0 →
      writeAll ⟨true, types⟩ layouts fragment = writeAll ⟨false, types⟩ layouts fragment
  | [], fragment, _ => by rw [writeAll, writeAll]
  | layout :: rest, fragment, free => by
    simp only [holesAmong, Nat.add_eq_zero_iff] at free
    have later : ∀ written, writeAll ⟨true, types⟩ rest written =
        writeAll ⟨false, types⟩ rest written :=
      fun written => writeAll_eq_of_holes rest written free.2
    rw [writeAll, writeAll, write_eq_of_holes layout fragment free.1, funext later]
end

theorem render_eq_of_holes {layout : Layout} (free : layout.holes .convention = 0) (depth : Int) :
    layout.render ⟨true, types⟩ depth = layout.render ⟨false, types⟩ depth := by
  rw [render, render, write_eq_of_holes layout _ free]

end Layout

namespace Place

variable {place : Place} (free : place.node.Every fun node => node.kind ≠ .cast)
include free

theorem expression_castFree (depth : Int) :
    place.expression ⟨true, types⟩ depth = place.expression ⟨false, types⟩ depth :=
  Phrase.render_eq_of_holes (Nat.le_zero.mp (phrase_holes_le .castFree free)) depth

theorem block_castFree (depth : Int) :
    place.block ⟨true, types⟩ depth = place.block ⟨false, types⟩ depth := by
  have statements := nodeLayouts_holes_le .castFree free fun inner _ =>
    layout_holes_le .castFree inner
  apply Layout.render_eq_of_holes
  rw [Layout.holes_block]
  exact Nat.le_zero.mp statements

theorem arrowBody_castFree (depth : Int) (returnsValue : Bool) :
    place.arrowBody ⟨true, types⟩ depth returnsValue =
      place.arrowBody ⟨false, types⟩ depth returnsValue := by
  have written : place.phrase.holes .convention = 0 :=
    Nat.le_zero.mp (phrase_holes_le .castFree free)
  apply Layout.render_eq_of_holes
  simp [written]

theorem methodBody_castFree (returnsValue : Bool) :
    place.methodBody ⟨true, types⟩ returnsValue =
      place.methodBody ⟨false, types⟩ returnsValue := by
  unfold methodBody
  cases found : place.node.childOfKind? .block with
  | some block =>
      have inside : (place.enter block).node.Every _ :=
        free.of_child (List.mem_of_find?_eq_some found)
      simp only [block_castFree inside 1]
  | none =>
      cases arrowed : place.node.childOfKind? .arrowClause with
      | none => rfl
      | some arrow =>
          have inside := free.of_child (List.mem_of_find?_eq_some arrowed)
          cases filled : arrow.pick? .expression with
          | none => simp only [filled]
          | some expression =>
              have within : ((place.enter arrow).enter expression).node.Every _ :=
                inside.of_pick? filled
              simp only [filled, arrowBody_castFree within 1]

theorem initializer_castFree :
    place.initializer ⟨true, types⟩ = place.initializer ⟨false, types⟩ := by
  unfold initializer
  cases found : place.node.childOfKind? .equalsValueClause with
  | none => rfl
  | some clause =>
      have inside := free.of_child (List.mem_of_find?_eq_some found)
      cases filled : clause.pick? .value with
      | none => simp only [filled]
      | some value =>
          have within : ((place.enter clause).enter value).node.Every _ := inside.of_pick? filled
          simp only [filled, expression_castFree within 1]

omit free in
theorem declarators_castFree {nodes : List Node}
    (each : ∀ node ∈ nodes, node.Every fun inner => inner.kind ≠ .cast) :
    place.declarators ⟨true, types⟩ nodes = place.declarators ⟨false, types⟩ nodes := by
  induction nodes with
  | nil => rfl
  | cons node rest ih =>
      have inside : (place.enter node).node.Every _ := each node List.mem_cons_self
      have others := ih fun later member => each later (List.mem_cons_of_mem _ member)
      rw [declarators, declarators, initializer_castFree inside, others]

theorem fieldDecl_castFree : place.fieldDecl ⟨true, types⟩ = place.fieldDecl ⟨false, types⟩ := by
  unfold fieldDecl
  cases found : place.node.find? .variableDecl with
  | none => rfl
  | some declaration =>
      have inside := free.of_mem (Node.mem_nodes_of_find? found)
      have declared : ∀ node ∈ declaration.childrenOfKind .variableDeclarator,
          node.Every fun inner => inner.kind ≠ .cast :=
        fun node listed => inside.of_child (List.mem_filter.mp listed).1
      simp only [declarators_castFree declared]
      rfl

theorem propertyDecl_castFree :
    place.propertyDecl ⟨true, types⟩ = place.propertyDecl ⟨false, types⟩ := by
  unfold propertyDecl
  simp only [initializer_castFree free]
  rfl

theorem methodDecl_castFree :
    place.methodDecl ⟨true, types⟩ = place.methodDecl ⟨false, types⟩ := by
  unfold methodDecl
  simp only [methodBody_castFree free]
  rfl

omit free in
theorem bases_eq (owner : String) (found : Bases) (entries : List Node) :
    bases ⟨true, types⟩ owner found entries = bases ⟨false, types⟩ owner found entries := by
  induction entries generalizing found with
  | nil => rfl
  | cons entry rest ih =>
      rw [bases, bases]
      simp only [ih]
      rfl

theorem memberDecl_castFree (owner : String) :
    place.memberDecl ⟨true, types⟩ owner = place.memberDecl ⟨false, types⟩ owner := by
  unfold memberDecl
  rw [methodDecl_castFree free, fieldDecl_castFree free, propertyDecl_castFree free]
  rfl

theorem classDecl_castFree : place.classDecl ⟨true, types⟩ = place.classDecl ⟨false, types⟩ := by
  have each : List.Forall₂ (fun child other => (place.enter child).memberDecl ⟨true, types⟩
      place.node.identifier = (place.enter other).memberDecl ⟨false, types⟩ place.node.identifier)
        place.node.childNodes place.node.childNodes := by
    apply List.forall₂_same.mpr
    intro child member
    have inside : (place.enter child).node.Every _ := free.of_child member
    exact memberDecl_castFree inside place.node.identifier
  have members := RunM.collect_eq each fun _ _ same => same
  unfold classDecl
  simp only [bases_eq, members]

theorem topDecl_castFree (isName : Bool) :
    place.topDecl ⟨true, types⟩ isName = place.topDecl ⟨false, types⟩ isName := by
  unfold topDecl
  rw [classDecl_castFree free]
  rfl

theorem unitDecl_castFree : place.unitDecl ⟨true, types⟩ = place.unitDecl ⟨false, types⟩ := by
  have tops : place.topDecls ⟨true, types⟩ = place.topDecls ⟨false, types⟩ := by
    apply RunM.collect_eq (List.forall₂_same.mpr _) fun _ _ same => same
    intro child member
    have inside : (place.outline.enter child.1).node.Every _ :=
      (free.of_mem place.mem_nodes_outline).of_child (List.fst_mem_of_mem_zipIdx member)
    exact topDecl_castFree inside _
  rw [unitDecl_eq, unitDecl_eq, tops]

end Place

/-- No method and no property has another name under conventions. -/
structure UnitDecl.KeepsNames (decl : UnitDecl) : Prop where
  methods : ∀ owner ∈ decl.classes, ∀ method ∈ owner.methods, camel true method.name = method.name
  properties : ∀ owner ∈ decl.classes, ∀ property ∈ owner.properties,
    camel true property.name = property.name

theorem camel_false (name : String) : camel false name = name := by simp [camel]

theorem MethodDecl.source_eq {decl : MethodDecl} (kept : camel true decl.name = decl.name) :
    decl.source true = decl.source false := by
  rw [source, source, kept, camel_false]

theorem PropertyDecl.source_eq {decl : PropertyDecl} (kept : camel true decl.name = decl.name) :
    decl.source true = decl.source false := by
  have getter : ∀ modifiers,
      decl.getterSource true modifiers = decl.getterSource false modifiers := by
    intro modifiers
    unfold getterSource
    rw [kept, camel_false]
  have setter : ∀ modifiers,
      decl.setterSource true modifiers = decl.setterSource false modifiers := by
    intro modifiers
    unfold setterSource
    rw [kept, camel_false]
  rw [source, source, funext getter, funext setter, fieldSource, fieldSource, kept, camel_false]

theorem ClassDecl.source_eq {decl : ClassDecl}
    (methods : ∀ method ∈ decl.methods, camel true method.name = method.name)
    (properties : ∀ property ∈ decl.properties, camel true property.name = property.name) :
    decl.source true = decl.source false := by
  have methodTexts : decl.methods.map (·.source true) = decl.methods.map (·.source false) :=
    List.map_congr_left fun method member => MethodDecl.source_eq (methods method member)
  have propertyTexts :
      decl.properties.map (·.source true) = decl.properties.map (·.source false) :=
    List.map_congr_left fun property member => PropertyDecl.source_eq (properties property member)
  rw [source, source, methodTexts, propertyTexts]

theorem UnitDecl.KeepsNames.source_eq {decl : UnitDecl} (kept : decl.KeepsNames)
    (imports : List String) : decl.source true imports = decl.source false imports := by
  have classTexts : decl.classes.map (·.source true) = decl.classes.map (·.source false) :=
    List.map_congr_left fun owner member =>
      ClassDecl.source_eq (kept.methods owner member) (kept.properties owner member)
  rw [source, source, classTexts]

/-- Conventions matter to a run only where there are casts. Without them both runs end alike, with
the same declarations and the same journal, and unless a method or a property is renamed also with
the same Java text. -/
theorem castFree_conventions (root : Node) (free : root.Every fun node => node.kind ≠ .cast) :
    (∀ (types : TypeMap) (before : Journal),
      (Place.unitDecl ⟨root, []⟩ ⟨true, types⟩).run before =
        (Place.unitDecl ⟨root, []⟩ ⟨false, types⟩).run before) ∧
      ∀ output, compile root (some .java) true = .ok output →
        (∀ unit ∈ output.unit, unit.KeepsNames) →
          compile root (some .java) false = .ok output := by
  have whole : (⟨root, []⟩ : Place).node.Every fun node => node.kind ≠ .cast := free
  constructor
  · intro types before
    rw [Place.unitDecl_castFree whole]
  · intro output compiled kept
    have same : Place.unitDecl ⟨root, []⟩ ⟨true, TypeMap.java⟩ =
        Place.unitDecl ⟨root, []⟩ ⟨false, TypeMap.java⟩ := Place.unitDecl_castFree whole
    simp only [compile, Compiler.run, Profile.java, same] at compiled ⊢
    cases ran : (Place.unitDecl ⟨root, []⟩ ⟨false, TypeMap.java⟩).run Journal.java with
    | error fault journal => simp [ran] at compiled
    | ok unit journal =>
        simp only [ran, Except.ok.injEq] at compiled ⊢
        subst compiled
        simp only [(kept unit rfl).source_eq]

/-- `class A { int size { get; } void run() { } }` -/
def Node.lowercaseMembers : Node :=
  .mk { kind := .unknown } [.node (.mk { kind := .classDecl } [
    .token { kind := .identifier, text := "A" },
    .node (.mk { kind := .propertyDecl } [
      .node (.mk { kind := .predefinedType } [.token { kind := .identifier, text := "int" }]),
      .token { kind := .identifier, text := "size" },
      .node (.mk { kind := .accessorList } [.node (.mk { kind := .getAccessor } [])])]),
    .node (.mk { kind := .methodDecl } [
      .node (.mk { kind := .predefinedType } [.token { kind := .identifier, text := "void" }]),
      .token { kind := .identifier, text := "run" },
      .node (.mk { kind := .block } [])])])]

theorem castFree_conventions_lowercaseMembers :
    ∃ output, compile Node.lowercaseMembers (some .java) true = .ok output ∧
      compile Node.lowercaseMembers (some .java) false = .ok output := by
  obtain ⟨output, compiled, kept⟩ : ∃ output,
      compile Node.lowercaseMembers (some .java) true = .ok output ∧
        ∀ unit ∈ output.unit, unit.KeepsNames := by
    refine ⟨_, rfl, ?_⟩
    rintro unit ⟨⟩
    exact ⟨by decide, by decide⟩
  exact ⟨output, compiled,
    (castFree_conventions Node.lowercaseMembers (by decide)).2 output compiled kept⟩

end SharpToJava
