import SharpToJava.Proofs.Counters
import SharpToJava.Proofs.Run.Steps

/-!
What a run has written it never reads. Writing an expression or a body and gathering the
declarations of a unit are runs made of steps, whatever the tree is like. So neither debug lines nor
touched types nor tables of imports have a say in the result or in what is written next.
-/

namespace SharpToJava

open RunM

namespace Phrase

variable (profile : Profile)

theorem ofSteps_callText (depth : Int) (callee : String) (count : Nat)
    {arguments : RunM (List String)} (given : OfSteps arguments) :
    OfSteps (callText profile depth callee count arguments) := by
  have plain := given.map fun texts => callee ++ "(" ++ ", ".intercalate texts ++ ")"
  cases found : Idiom.find? callee with
  | none =>
      simp only [callText, found]
      exact plain
  | some idiom =>
      simp only [callText, found]
      split
      · exact (OfSteps.touch idiom.helper).bind fun _ =>
          (OfSteps.nextTemp idiom.tag).bind fun holder => given.map _
      · exact (ofSteps_note profile _).bind fun _ => plain

mutual
theorem ofSteps_writeTo : ∀ (phrase : Phrase) (fragment : Fragment),
    OfSteps (phrase.writeTo profile fragment)
  | .text written, fragment => by
    rw [writeTo]
    exact .pure _
  | .type source, fragment => by
    rw [writeTo]
    exact (ofSteps_mapType profile .body source).map _
  | .unimportedType source, fragment => by
    rw [writeTo]
    exact .pure _
  | .discard, fragment => by
    rw [writeTo]
    exact OfSteps.nextDiscard.map _
  | .note entry, fragment => by
    rw [writeTo]
    exact (ofSteps_note profile entry).bind fun _ => .pure _
  | .newline, fragment => by
    rw [writeTo]
    exact .pure _
  | .join parts, fragment => by
    rw [writeTo]
    exact ofSteps_writeAllTo parts fragment
  | .ledBy lead body, fragment => by
    rw [writeTo]
    exact (ofSteps_writeTo body _).map _
  | .byConvention enforced otherwise, fragment => by
    rw [writeTo]
    split
    · exact ofSteps_writeTo enforced fragment
    · exact ofSteps_writeTo otherwise fragment
  | .call callee arguments, fragment => by
    rw [writeTo]
    have given := ofSteps_writeApart arguments fragment.depth
    exact (ofSteps_writeTo callee _).bind fun written =>
      (ofSteps_callText profile _ _ _ given).map _
  | .memberWithoutName, fragment => by
    rw [writeTo]
    exact .throw _

theorem ofSteps_writeAllTo : ∀ (phrases : List Phrase) (fragment : Fragment),
    OfSteps (writeAllTo profile phrases fragment)
  | [], fragment => by
    rw [writeAllTo]
    exact .pure _
  | phrase :: rest, fragment => by
    rw [writeAllTo]
    exact (ofSteps_writeTo phrase fragment).bind fun written => ofSteps_writeAllTo rest written

theorem ofSteps_writeApart : ∀ (phrases : List Phrase) (depth : Int),
    OfSteps (writeApart profile depth phrases)
  | [], depth => by
    rw [writeApart]
    exact .pure _
  | phrase :: rest, depth => by
    rw [writeApart]
    exact (ofSteps_writeTo phrase _).bind fun written => (ofSteps_writeApart rest depth).map _
end

theorem ofSteps_render (phrase : Phrase) (depth : Int) : OfSteps (phrase.render profile depth) :=
  (ofSteps_writeTo profile phrase { depth }).map _

end Phrase

namespace Layout

variable (profile : Profile)

mutual
theorem ofSteps_write : ∀ (layout : Layout) (fragment : Fragment),
    OfSteps (layout.write profile fragment)
  | .phrase content, fragment => by
    rw [write]
    exact (content.ofSteps_render profile fragment.depth).map _
  | .indent, fragment => by
    rw [write]
    exact .pure _
  | .shift levels, fragment => by
    rw [write]
    exact .pure _
  | .join parts, fragment => by
    rw [write]
    exact ofSteps_writeAll parts fragment
  | .byLineStart choose, fragment => by
    rw [write]
    exact ofSteps_write (choose fragment.atLineStart) fragment

theorem ofSteps_writeAll : ∀ (layouts : List Layout) (fragment : Fragment),
    OfSteps (writeAll profile layouts fragment)
  | [], fragment => by
    rw [writeAll]
    exact .pure _
  | layout :: rest, fragment => by
    rw [writeAll]
    exact (ofSteps_write layout fragment).bind fun written => ofSteps_writeAll rest written
end

theorem ofSteps_render (layout : Layout) (depth : Int) : OfSteps (layout.render profile depth) :=
  (ofSteps_write profile layout { depth }).map _

end Layout

namespace Place

variable (place : Place) (profile : Profile)

theorem ofSteps_expression (depth : Int) : OfSteps (place.expression profile depth) :=
  place.phrase.ofSteps_render profile depth

theorem ofSteps_block (depth : Int) : OfSteps (place.block profile depth) :=
  Layout.ofSteps_render profile _ depth

theorem ofSteps_arrowBody (depth : Int) (returnsValue : Bool) :
    OfSteps (place.arrowBody profile depth returnsValue) :=
  Layout.ofSteps_render profile _ depth

theorem ofSteps_initializer : OfSteps (place.initializer profile) := by
  unfold initializer
  split
  · split
    · exact (ofSteps_expression _ profile 1).map some
    · exact .pure none
  · exact .pure none

theorem ofSteps_declarators (nodes : List Node) : OfSteps (place.declarators profile nodes) := by
  induction nodes with
  | nil => exact .pure []
  | cons node rest ih => exact ((place.enter node).ofSteps_initializer profile).bind fun _ => ih.map _

theorem ofSteps_fieldDecl : OfSteps (place.fieldDecl profile) := by
  unfold fieldDecl
  split
  · exact (ofSteps_note profile _).bind fun _ => .pure none
  · exact (ofSteps_mapType profile .body _).bind fun _ => (ofSteps_declarators _ profile _).map _

theorem ofSteps_propertyDecl : OfSteps (place.propertyDecl profile) :=
  (ofSteps_mapType profile .body _).bind fun _ => (place.ofSteps_initializer profile).map _

theorem ofSteps_parameterDecl (node : Node) : OfSteps (parameterDecl profile node) := by
  unfold parameterDecl
  split
  · exact (ofSteps_mapType profile .body _).bind fun _ => .pure _
  · exact .pure none

theorem ofSteps_methodBody (returnsValue : Bool) :
    OfSteps (place.methodBody profile returnsValue) := by
  unfold methodBody
  split
  · exact (ofSteps_block _ profile 1).map some
  · split
    · exact (ofSteps_arrowBody _ profile 1 returnsValue).map some
    · exact .pure none
  · exact .pure none

theorem ofSteps_methodDecl : OfSteps (place.methodDecl profile) :=
  (ofSteps_mapType profile .returned _).bind fun _ =>
    (ofSteps_collect fun node _ => ofSteps_parameterDecl profile node).bind fun _ =>
      (place.ofSteps_methodBody profile _).map _

theorem ofSteps_bases (owner : String) (found : Bases) (entries : List Node) :
    OfSteps (bases profile owner found entries) := by
  induction entries generalizing found with
  | nil => exact .pure found
  | cons entry rest ih =>
      apply (ofSteps_mapType profile .body entry.typeText).bind
      intro mapped
      split
      · exact ih _
      · split
        · exact (ofSteps_note profile _).bind fun _ => ih _
        · exact ih _

theorem ofSteps_memberDecl (owner : String) : OfSteps (place.memberDecl profile owner) := by
  unfold memberDecl
  split
  · exact (place.ofSteps_methodDecl profile).map _
  · exact (place.ofSteps_fieldDecl profile).map _
  · exact .pure _
  · exact (place.ofSteps_propertyDecl profile).map _
  · exact .pure none
  · exact (ofSteps_note profile _).bind fun _ => .pure none

theorem ofSteps_classDecl : OfSteps (place.classDecl profile) :=
  (ofSteps_bases profile _ {} _).bind fun _ =>
    (ofSteps_collect fun child _ => (place.enter child).ofSteps_memberDecl profile _).map _

theorem ofSteps_topDecl (isName : Bool) : OfSteps (place.topDecl profile isName) := by
  unfold topDecl
  split
  · exact (place.ofSteps_classDecl profile).map _
  · exact .pure _
  · cases isName with
    | true => exact .pure none
    | false => exact (ofSteps_note profile _).bind fun _ => .pure none

theorem ofSteps_unitDecl : OfSteps (place.unitDecl profile) := by
  rw [unitDecl_eq]
  exact (ofSteps_collect fun child _ => ofSteps_topDecl _ profile _).map _

end Place

/-- A list with the items after it that it does not have yet, in the order of their first
occurrence. -/
def Imports.followedBy (items added : List String) : List String :=
  items ++ (added.filter fun item => !items.contains item).eraseDups

theorem Imports.foldl_addNew_eq (items added : List String) :
    added.foldl addNew items = followedBy items added := by
  unfold followedBy
  induction added generalizing items with
  | nil => simp
  | cons item rest ih =>
      rw [List.foldl_cons, ih, addNew]
      by_cases present : items.contains item = true
      · rw [if_pos present, List.filter_cons_of_neg (by rw [present]; decide)]
      · have absent : items.contains item = false := by simpa using present
        rw [if_neg present, List.filter_cons_of_pos (by rw [absent]; rfl), List.eraseDups_cons,
          List.filter_filter, List.append_assoc, List.singleton_append]
        congr 4
        funext other
        simp [Bool.and_comm, beq_eq_decide, eq_comm]

namespace RunM

variable {α : Type}

/-- How a run ends, its journal apart. -/
def outcome (run : RunM α) (before : Journal) : Except Fault α :=
  match run.run before with
  | .ok result _ => .ok result
  | .error fault _ => .error fault

/-- The run does from one journal what it does from the other: it ends alike, appends the same debug
lines, touches the same names in the same order and makes up the same names. -/
structure SameFrom (run : RunM α) (first second : Journal) : Prop where
  outcome : run.outcome first = run.outcome second
  notes : ∃ lines, (run.after first).notes = first.notes ++ lines ∧
    (run.after second).notes = second.notes ++ lines
  touched : ∃ names,
    (run.after first).imports.touched = Imports.followedBy first.imports.touched names ∧
      (run.after second).imports.touched = Imports.followedBy second.imports.touched names
  counters : (run.after first).SameCounters (run.after second)
  grown : first.Extends (run.after first) ∧ second.Extends (run.after second)

theorem after_of_run_eq {run : RunM α} {before after : Journal} {outcome : Except Fault α}
    (ran : run.run before = ending outcome after) : run.after before = after := by
  rw [RunM.after, ran]
  cases outcome <;> rfl

theorem outcome_of_run_eq {run : RunM α} {before after : Journal} {outcome : Except Fault α}
    (ran : run.run before = ending outcome after) : run.outcome before = outcome := by
  rw [RunM.outcome, ran]
  cases outcome <;> rfl

theorem OfSteps.sameFrom {run : RunM α} (steps : OfSteps run) {first second : Journal}
    (counters : first.SameCounters second) : run.SameFrom first second := by
  obtain ⟨outcome, entries, one, two⟩ := steps.same_entries counters
  have firstEnd := after_of_run_eq one
  have secondEnd := after_of_run_eq two
  constructor
  · rw [outcome_of_run_eq one, outcome_of_run_eq two]
  · exact ⟨entries.lines, by rw [firstEnd]; rfl, by rw [secondEnd]; rfl⟩
  · refine ⟨entries.touched, ?_, ?_⟩
    · rw [firstEnd, ← Imports.foldl_addNew_eq]
      rfl
    · rw [secondEnd, ← Imports.foldl_addNew_eq]
      rfl
  · rw [firstEnd, secondEnd]
    exact counters.record entries
  · rw [firstEnd, secondEnd]
    exact ⟨first.extends_record entries, second.extends_record entries⟩

end RunM

/-- Debug lines, touched types and import tables are only ever added to: whatever two journals hold
of them, if their counters agree, an expression, a body and a whole unit come out the same from
both, with the same additions. -/
theorem journal_write_only (place : Place) (profile : Profile) (first second : Journal)
    (counters : first.SameCounters second) :
    (∀ depth, (place.expression profile depth).SameFrom first second) ∧
      (∀ depth, (place.block profile depth).SameFrom first second) ∧
      (∀ depth returnsValue,
        (place.arrowBody profile depth returnsValue).SameFrom first second) ∧
      (place.unitDecl profile).SameFrom first second :=
  ⟨fun depth => (place.ofSteps_expression profile depth).sameFrom counters,
    fun depth => (place.ofSteps_block profile depth).sameFrom counters,
    fun depth returnsValue => (place.ofSteps_arrowBody profile depth returnsValue).sameFrom counters,
    (place.ofSteps_unitDecl profile).sameFrom counters⟩

/-- A journal that has seen other units before, without a name made up for them. -/
def Journal.used : Journal where
  imports := { paths := [("void", "java.lang.Void")], touched := ["PrintWriter", "void"] }
  notes := ["top-level ClassDeclaration skipped"]

theorem journal_write_only_discardedWrite :
    Journal.java.SameCounters Journal.used ∧
      (Place.unitDecl ⟨Node.discardedWrite, []⟩ (Profile.java true)).SameFrom
        Journal.java Journal.used := by
  have counters : Journal.java.SameCounters Journal.used := ⟨rfl, fun _ => rfl⟩
  exact ⟨counters, (journal_write_only ⟨Node.discardedWrite, []⟩ (Profile.java true)
    Journal.java Journal.used counters).2.2.2⟩

end SharpToJava
