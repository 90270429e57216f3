import SharpToJava.Proofs.Holes.Layout
import SharpToJava.Proofs.Run.Meets

/-!
How far a run raises its counters. Each fresh name fills a hole, so writing a phrase or a layout
raises a counter by no more than the holes of its kind, also if the run fails on the way.
-/

namespace SharpToJava

/-- The counter of the names that go into a hole; only these two have one. -/
def Journal.reading (hole : Hole) (journal : Journal) : Nat :=
  match hole with
  | .discard => journal.discards
  | .call => journal.tempCount "writer"
  | .convention | .declNote => 0

namespace RunM

variable {α β : Type} {hole : Hole}

/-- The journal at the end of a run, whether it fails or not. -/
def after (run : RunM α) (before : Journal) : Journal :=
  match run.run before with
  | .ok _ journal => journal
  | .error _ journal => journal

/-- The run adds at most so much to the counter. -/
def Raises (hole : Hole) (bound : Nat) (run : RunM α) : Prop :=
  ∀ before, (run.after before).reading hole ≤ before.reading hole + bound

theorem raises_pure {bound : Nat} (result : α) : Raises hole bound (pure result : RunM α) :=
  fun _ => Nat.le_add_right _ _

theorem raises_throw {bound : Nat} (fault : Fault) : Raises hole bound (throw fault : RunM α) :=
  fun _ => Nat.le_add_right _ _

theorem Raises.bind {run : RunM α} {rest : α → RunM β} {first second : Nat}
    (one : Raises hole first run) (two : ∀ result, Raises hole second (rest result)) :
    Raises hole (first + second) (run >>= rest) := by
  intro before
  have start := one before
  unfold after at start ⊢
  rw [EStateM.run_bind]
  cases ran : run.run before with
  | error fault journal =>
      rw [ran] at start
      simp only at start ⊢
      omega
  | ok result between =>
      rw [ran] at start
      have rest := two result between
      unfold after at rest
      simp only at start ⊢
      omega

theorem Raises.weaken {run : RunM α} {bound looser : Nat} (raises : Raises hole bound run)
    (le : bound ≤ looser) : Raises hole looser run :=
  fun before => Nat.le_trans (raises before) (Nat.add_le_add_left le _)

/-- A first step that takes no names. -/
theorem Raises.bind_quiet {run : RunM α} {rest : α → RunM β} {bound : Nat}
    (quiet : Raises hole 0 run) (two : ∀ result, Raises hole bound (rest result)) :
    Raises hole bound (run >>= rest) :=
  (quiet.bind two).weaken (Nat.le_of_eq (Nat.zero_add _))

theorem Raises.map {run : RunM α} {bound : Nat} (f : α → β) (raises : Raises hole bound run) :
    Raises hole bound (f <$> run) := by
  rw [map_eq_pure_bind]
  have last : ∀ result, Raises hole 0 (pure (f result)) := fun result => raises_pure (f result)
  exact raises.bind last

theorem raises_touch (type : String) : Raises hole 0 (touch type) := by
  intro before
  cases hole <;> exact Nat.le_refl _

theorem raises_note (profile : Profile) (entry : Note) : Raises hole 0 (note profile entry) := by
  intro before
  cases hole <;> exact Nat.le_refl _

theorem raises_mapType (profile : Profile) (use : TypeUse) (type : String) :
    Raises hole 0 (mapType profile use type) :=
  (raises_touch _).bind_quiet fun _ => raises_pure _

theorem raises_nextDiscard : Raises hole (if hole = .discard then 1 else 0) nextDiscard := by
  intro before
  cases hole <;> exact Nat.le_refl _

theorem raises_nextTemp (tag : String) :
    Raises hole (if hole = .call then 1 else 0) (nextTemp tag) := by
  intro before
  cases hole with
  | discard | convention | declNote => exact Nat.le_refl _
  | call =>
      have counted := before.tempCount_countTemp tag "writer"
      change { before with temps := _ }.tempCount "writer" ≤ before.tempCount "writer" + 1
      rw [counted]
      split <;> omega

theorem raises_collect {f : α → RunM (Option β)} {bound : α → Nat} {items : List α}
    (each : ∀ item ∈ items, Raises hole (bound item) (f item)) :
    Raises hole (weigh bound items) (collect f items) := by
  induction items with
  | nil => exact raises_pure []
  | cons item rest ih =>
      have others := ih fun later member => each later (List.mem_cons_of_mem _ member)
      rw [weigh_cons]
      apply (each item List.mem_cons_self).bind
      intro found
      cases found with
      | none => exact others
      | some result => exact others.map (result :: ·)

end RunM

namespace Phrase

open RunM

variable {hole : Hole} (profile : Profile)

theorem raises_callText (depth : Int) (callee : String) (count : Nat) {bound : Nat}
    {arguments : RunM (List String)} (given : Raises hole bound arguments) :
    Raises hole ((if hole = .call then 1 else 0) + bound)
      (callText profile depth callee count arguments) := by
  have plain := given.map fun texts => callee ++ "(" ++ ", ".intercalate texts ++ ")"
  cases found : Idiom.find? callee with
  | none =>
      simp only [callText, found]
      exact plain.weaken (Nat.le_add_left _ _)
  | some idiom =>
      simp only [callText, found]
      by_cases enough : idiom.arity ≤ count
      · rw [if_pos enough]
        -- one name for the helper variable, before the arguments take theirs
        exact (raises_touch idiom.helper).bind_quiet fun _ =>
          (raises_nextTemp idiom.tag).bind fun holder =>
            given.map (idiom.expand (indentation depth) holder)
      · rw [if_neg enough]
        have noted := (raises_note profile (.tooFewArguments callee idiom.arity count)).bind_quiet
          fun _ => plain
        exact noted.weaken (Nat.le_add_left _ _)

mutual
/-- Writing a phrase takes no more names than it has holes for them. -/
theorem raises_writeTo : ∀ (phrase : Phrase) (fragment : Fragment),
    Raises hole (phrase.holes hole) (phrase.writeTo profile fragment)
  | .text written, fragment => by
    simp only [writeTo, holes]
    exact raises_pure _
  | .type source, fragment => by
    simp only [writeTo, holes]
    exact (raises_mapType _ _ _).map _
  | .unimportedType source, fragment => by
    simp only [writeTo, holes]
    exact raises_pure _
  | .discard, fragment => by
    simp only [writeTo, holes]
    exact raises_nextDiscard.map _
  | .note entry, fragment => by
    simp only [writeTo, holes]
    exact (raises_note _ _).bind_quiet fun _ => raises_pure _
  | .newline, fragment => by
    simp only [writeTo, holes]
    exact raises_pure _
  | .join parts, fragment => by
    simp only [writeTo, holes]
    exact raises_writeAllTo parts fragment
  | .ledBy lead body, fragment => by
    simp only [writeTo, holes]
    exact (raises_writeTo body _).map _
  | .byConvention enforced otherwise, fragment => by
    simp only [writeTo, holes]
    have first := raises_writeTo enforced fragment
    have second := raises_writeTo otherwise fragment
    cases profile.enforce with
    | true => exact first.weaken (Nat.le_trans (Nat.le_add_left _ _) (Nat.le_add_right _ _))
    | false => exact second.weaken (Nat.le_add_left _ _)
  | .call callee arguments, fragment => by
    simp only [writeTo, holes]
    apply ((raises_writeTo callee _).bind fun written =>
      (raises_callText profile _ _ _ (raises_writeApart arguments fragment.depth)).map _).weaken
    omega
  | .memberWithoutName, fragment => by
    simp only [writeTo, holes]
    exact raises_throw _

theorem raises_writeAllTo : ∀ (phrases : List Phrase) (fragment : Fragment),
    Raises hole (holesAmong hole phrases) (writeAllTo profile phrases fragment)
  | [], fragment => by
    simp only [writeAllTo, holesAmong]
    exact raises_pure _
  | phrase :: rest, fragment => by
    simp only [writeAllTo, holesAmong]
    exact (raises_writeTo phrase fragment).bind fun written => raises_writeAllTo rest written

theorem raises_writeApart : ∀ (phrases : List Phrase) (depth : Int),
    Raises hole (holesAmong hole phrases) (writeApart profile depth phrases)
  | [], depth => by
    simp only [writeApart, holesAmong]
    exact raises_pure _
  | phrase :: rest, depth => by
    simp only [writeApart, holesAmong]
    exact (raises_writeTo phrase _).bind fun written => (raises_writeApart rest depth).map _
end

theorem raises_render (phrase : Phrase) (depth : Int) :
    Raises hole (phrase.holes hole) (phrase.render profile depth) :=
  (raises_writeTo profile phrase { depth }).map _

end Phrase

namespace Layout

open RunM

variable {hole : Hole} (profile : Profile)

mutual
theorem raises_write : ∀ (layout : Layout) (fragment : Fragment),
    Raises hole (layout.holes hole) (layout.write profile fragment)
  | .phrase content, fragment => by
    simp only [write, holes]
    exact (content.raises_render profile fragment.depth).map _
  | .indent, fragment => by
    simp only [write, holes]
    exact raises_pure _
  | .shift levels, fragment => by
    simp only [write, holes]
    exact raises_pure _
  | .join parts, fragment => by
    simp only [write, holes]
    exact raises_writeAll parts fragment
  | .byLineStart choose, fragment => by
    simp only [write, holes]
    have chosen := raises_write (choose fragment.atLineStart) fragment
    cases fresh : fragment.atLineStart with
    | true =>
        rw [fresh] at chosen
        exact chosen.weaken (Nat.le_max_left _ _)
    | false =>
        rw [fresh] at chosen
        exact chosen.weaken (Nat.le_max_right _ _)

theorem raises_writeAll : ∀ (layouts : List Layout) (fragment : Fragment),
    Raises hole (holesAmong hole layouts) (writeAll profile layouts fragment)
  | [], fragment => by
    simp only [writeAll, holesAmong]
    exact raises_pure _
  | layout :: rest, fragment => by
    simp only [writeAll, holesAmong]
    exact (raises_write layout fragment).bind fun written => raises_writeAll rest written
end

theorem raises_render (layout : Layout) (depth : Int) :
    Raises hole (layout.holes hole) (layout.render profile depth) :=
  (layout.raises_write profile { depth }).map _

end Layout

end SharpToJava
