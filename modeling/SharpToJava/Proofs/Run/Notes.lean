import SharpToJava.Proofs.Holes.Layout
import SharpToJava.Proofs.Run.Meets

/-!
What a run says of declarations. Of the notes that a run adds to its journal, some say what became
of a declaration; `RunM.Notes` tells which ones of a sort there are, in order. Expressions and
statements leave other remarks only.
-/

namespace SharpToJava

/-- Whether the note says that a declaration was skipped. -/
def Note.isSkip : Note → Bool
  | .skippedTopLevel _ | .skippedMember _ _ | .fieldWithoutDeclaration => true
  | _ => false

/-- Whether the note says that a base class took the place of another. -/
def Note.isReplacement : Note → Bool
  | .replacedBase _ _ _ => true
  | _ => false

/-- Some of the notes on declarations. -/
structure NoteSort where
  holds : Note → Bool
  ofDeclaration : ∀ entry, holds entry = true → entry.isOfDeclaration = true

namespace NoteSort

def skips : NoteSort where
  holds := Note.isSkip
  ofDeclaration entry skip := by cases entry <;> first | rfl | cases skip

def replacedBases : NoteSort where
  holds := Note.isReplacement
  ofDeclaration entry replacement := by cases entry <;> first | rfl | cases replacement

/-- A remark on an expression or a statement is of no such sort. -/
theorem holds_eq_false (sort : NoteSort) {entry : Note} (remark : entry.isOfDeclaration = false) :
    sort.holds entry = false := by
  apply Bool.eq_false_iff.mpr
  intro holds
  rw [sort.ofDeclaration entry holds] at remark
  cases remark

end NoteSort

namespace RunM

variable {α β : Type} {profile : Profile} {sort : NoteSort}

/-- The run adds notes to its journal, and these are the ones of this sort; a run that fails may
have come to the first of them only. -/
def Notes (sort : NoteSort) (profile : Profile) (noted : List Note) (run : RunM α) : Prop :=
  ∀ before,
    match run.run before with
    | .ok _ after => ∃ notes : List Note,
        after.notes = before.notes ++ notes.map (·.message profile.types) ∧
          notes.filter sort.holds = noted
    | .error _ after => ∃ notes : List Note,
        after.notes = before.notes ++ notes.map (·.message profile.types) ∧
          notes.filter sort.holds <+: noted

theorem Notes.of_ok {run : RunM α} {noted : List Note} (notes : Notes sort profile noted run)
    {before after : Journal} {result : α} (done : run.run before = .ok result after) :
    ∃ notes : List Note, after.notes = before.notes ++ notes.map (·.message profile.types) ∧
      notes.filter sort.holds = noted := by
  have outcome := notes before
  rwa [done] at outcome

theorem notes_pure (result : α) : Notes sort profile [] (pure result : RunM α) :=
  fun before => ⟨[], (List.append_nil before.notes).symm, rfl⟩

theorem notes_throw (fault : Fault) : Notes sort profile [] (throw fault : RunM α) :=
  fun before => ⟨[], (List.append_nil before.notes).symm, List.prefix_rfl⟩

theorem notes_touch (type : String) : Notes sort profile [] (touch type) :=
  fun before => ⟨[], (List.append_nil before.notes).symm, rfl⟩

theorem notes_nextDiscard : Notes sort profile [] nextDiscard :=
  fun before => ⟨[], (List.append_nil before.notes).symm, rfl⟩

theorem notes_nextTemp (tag : String) : Notes sort profile [] (nextTemp tag) :=
  fun before => ⟨[], (List.append_nil before.notes).symm, rfl⟩

theorem notes_note (entry : Note) :
    Notes sort profile ([entry].filter sort.holds) (note profile entry) :=
  fun _ => ⟨[entry], rfl, rfl⟩

theorem notes_remark {entry : Note} (remark : entry.isOfDeclaration = false) :
    Notes sort profile [] (note profile entry) := by
  have noted : Notes sort profile _ (note profile entry) := notes_note entry
  rwa [List.filter_singleton, sort.holds_eq_false remark] at noted

theorem Notes.bind {run : RunM α} {rest : α → RunM β} {first second : List Note}
    (one : Notes sort profile first run) (two : ∀ result, Notes sort profile second (rest result)) :
    Notes sort profile (first ++ second) (run >>= rest) := by
  intro before
  have start := one before
  rw [EStateM.run_bind]
  cases ran : run.run before with
  | error fault stopped =>
      rw [ran] at start
      obtain ⟨notes, added, sorted⟩ := start
      exact ⟨notes, added, sorted.trans (List.prefix_append first second)⟩
  | ok value between =>
      rw [ran] at start
      obtain ⟨notes, added, sorted⟩ := start
      have later := two value between
      have together (more : List Note) : before.notes ++ (notes ++ more).map
          (·.message profile.types) = between.notes ++ more.map (·.message profile.types) := by
        rw [added, List.map_append, List.append_assoc]
      dsimp only
      cases ended : (rest value).run between with
      | ok result after =>
          rw [ended] at later
          obtain ⟨more, addedMore, sortedMore⟩ := later
          refine ⟨notes ++ more, addedMore.trans (together more).symm, ?_⟩
          rw [List.filter_append, sorted, sortedMore]
      | error fault after =>
          rw [ended] at later
          obtain ⟨more, addedMore, sortedMore⟩ := later
          refine ⟨notes ++ more, addedMore.trans (together more).symm, ?_⟩
          rw [List.filter_append, sorted]
          exact (List.prefix_append_right_inj first).mpr sortedMore

theorem Notes.map {run : RunM α} {noted : List Note} (notes : Notes sort profile noted run)
    (f : α → β) : Notes sort profile noted (f <$> run) := by
  rw [map_eq_pure_bind, ← List.append_nil noted]
  exact notes.bind fun result => notes_pure (f result)

theorem notes_mapType (use : TypeUse) (type : String) :
    Notes sort profile [] (mapType profile use type) :=
  (notes_touch _).bind fun _ => notes_pure _

theorem notes_collect {f : α → RunM (Option β)} {noted : α → List Note} {items : List α}
    (each : ∀ item ∈ items, Notes sort profile (noted item) (f item)) :
    Notes sort profile (items.flatMap noted) (collect f items) := by
  induction items with
  | nil => exact notes_pure []
  | cons item rest ih =>
      have others := ih fun later member => each later (List.mem_cons_of_mem _ member)
      rw [List.flatMap_cons]
      apply (each item List.mem_cons_self).bind
      intro found
      cases found with
      | none => exact others
      | some result => exact others.map (result :: ·)

end RunM

/-- No rule of an expression or a statement says what became of a declaration. -/
def Allowance.ofDeclNotes : Allowance .declNote fun _ => True where
  amount _ := 0
  covers node _ := by simp [Node.brings]
  apart node _ := by simp

namespace Phrase

open RunM

variable {sort : NoteSort} (profile : Profile)

theorem notes_callText (depth : Int) (callee : String) (count : Nat)
    {arguments : RunM (List String)} (given : Notes sort profile [] arguments) :
    Notes sort profile [] (callText profile depth callee count arguments) := by
  have plain := given.map fun texts => callee ++ "(" ++ ", ".intercalate texts ++ ")"
  cases found : Idiom.find? callee with
  | none =>
      simp only [callText, found]
      exact plain
  | some idiom =>
      simp only [callText, found]
      split
      · exact (notes_touch idiom.helper).bind fun _ =>
          (notes_nextTemp idiom.tag).bind fun holder => given.map _
      · exact (notes_remark rfl).bind fun _ => plain

mutual
theorem notes_writeTo : ∀ (phrase : Phrase) (fragment : Fragment), phrase.holes .declNote = 0 →
    Notes sort profile [] (phrase.writeTo profile fragment)
  | .text written, fragment, _ => by
    rw [writeTo]
    exact notes_pure _
  | .type source, fragment, _ => by
    rw [writeTo]
    exact (notes_mapType .body source).map _
  | .unimportedType source, fragment, _ => by
    rw [writeTo]
    exact notes_pure _
  | .discard, fragment, _ => by
    rw [writeTo]
    exact notes_nextDiscard.map _
  | .note entry, fragment, free => by
    have remark : entry.isOfDeclaration = false := by simpa [holes] using free
    rw [writeTo]
    exact (notes_remark remark).bind fun _ => notes_pure _
  | .newline, fragment, _ => by
    rw [writeTo]
    exact notes_pure _
  | .join parts, fragment, free => by
    rw [holes] at free
    rw [writeTo]
    exact notes_writeAllTo parts fragment free
  | .ledBy lead body, fragment, free => by
    rw [holes] at free
    rw [writeTo]
    exact (notes_writeTo body _ free).map _
  | .byConvention enforced otherwise, fragment, free => by
    simp only [holes, Nat.add_eq_zero_iff] at free
    rw [writeTo]
    split
    · exact notes_writeTo enforced fragment free.1.2
    · exact notes_writeTo otherwise fragment free.2
  | .call callee arguments, fragment, free => by
    simp only [holes, Nat.add_eq_zero_iff] at free
    rw [writeTo]
    have given := notes_writeApart arguments fragment.depth free.2
    exact (notes_writeTo callee _ free.1.2).bind fun written =>
      (notes_callText profile _ _ _ given).map _
  | .memberWithoutName, fragment, _ => by
    rw [writeTo]
    exact notes_throw _

theorem notes_writeAllTo : ∀ (phrases : List Phrase) (fragment : Fragment),
    holesAmong .declNote phrases = 0 → Notes sort profile [] (writeAllTo profile phrases fragment)
  | [], fragment, _ => by
    rw [writeAllTo]
    exact notes_pure _
  | phrase :: rest, fragment, free => by
    simp only [holesAmong, Nat.add_eq_zero_iff] at free
    rw [writeAllTo]
    exact (notes_writeTo phrase fragment free.1).bind fun written =>
      notes_writeAllTo rest written free.2

theorem notes_writeApart : ∀ (phrases : List Phrase) (depth : Int),
    holesAmong .declNote phrases = 0 → Notes sort profile [] (writeApart profile depth phrases)
  | [], depth, _ => by
    rw [writeApart]
    exact notes_pure _
  | phrase :: rest, depth, free => by
    simp only [holesAmong, Nat.add_eq_zero_iff] at free
    rw [writeApart]
    exact (notes_writeTo phrase _ free.1).bind fun written =>
      (notes_writeApart rest depth free.2).map _
end

theorem notes_render {phrase : Phrase} (free : phrase.holes .declNote = 0) (depth : Int) :
    Notes sort profile [] (phrase.render profile depth) :=
  (notes_writeTo profile phrase { depth } free).map _

end Phrase

namespace Layout

open RunM

variable {sort : NoteSort} (profile : Profile)

mutual
theorem notes_write : ∀ (layout : Layout) (fragment : Fragment), layout.holes .declNote = 0 →
    Notes sort profile [] (layout.write profile fragment)
  | .phrase content, fragment, free => by
    rw [holes] at free
    rw [write]
    exact (Phrase.notes_render profile free fragment.depth).map _
  | .indent, fragment, _ => by
    rw [write]
    exact notes_pure _
  | .shift levels, fragment, _ => by
    rw [write]
    exact notes_pure _
  | .join parts, fragment, free => by
    rw [holes] at free
    rw [write]
    exact notes_writeAll parts fragment free
  | .byLineStart choose, fragment, free => by
    rw [holes, Nat.max_eq_zero_iff] at free
    have chosen : (choose fragment.atLineStart).holes .declNote = 0 := by
      cases fragment.atLineStart with
      | true => exact free.1
      | false => exact free.2
    rw [write]
    exact notes_write (choose fragment.atLineStart) fragment chosen

theorem notes_writeAll : ∀ (layouts : List Layout) (fragment : Fragment),
    holesAmong .declNote layouts = 0 → Notes sort profile [] (writeAll profile layouts fragment)
  | [], fragment, _ => by
    rw [writeAll]
    exact notes_pure _
  | layout :: rest, fragment, free => by
    simp only [holesAmong, Nat.add_eq_zero_iff] at free
    rw [writeAll]
    exact (notes_write layout fragment free.1).bind fun written =>
      notes_writeAll rest written free.2
end

theorem notes_render {layout : Layout} (free : layout.holes .declNote = 0) (depth : Int) :
    Notes sort profile [] (layout.render profile depth) :=
  (notes_write profile layout { depth } free).map _

end Layout

end SharpToJava
