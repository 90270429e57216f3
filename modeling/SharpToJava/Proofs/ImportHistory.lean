import Mathlib.Data.List.Induction
import SharpToJava.Proofs.ImportList
import SharpToJava.Proofs.WriteOnly
import SharpToJava.Session

/-!
The imports after any session. A session adds and drops names, in an order that its history keeps:
the touched names are those that were added since they were last dropped, in the order in which
that happened. The import list says for what is touched, and nothing else, which paths are needed;
touching a type adds to the end of both lists.
-/

namespace SharpToJava

namespace Imports

/-- What happens to touched names. -/
inductive Event where
  | added (name : String)
  | removed (name : String)
  | cleared

namespace Event

/-- Whether the event makes the name go, if it was there. -/
def Drops (name : String) : Event → Prop
  | added _ => False
  | removed other => other = name
  | cleared => True

/-- The touched names after an event. -/
def apply (touched : List String) : Event → List String
  | added name => addNew touched name
  | removed name => touched.filter (· != name)
  | cleared => []

end Event

/-- The events of a call: every component of a touched type is added, from left to right. -/
def Call.events : Call → List Event
  | .touch type => (TypeName.components type).map .added
  | .remove name => [.removed name]
  | .clear => [.cleared]
  | .setDefaults _ => []

/-- The name was added at this position of the history and not dropped afterwards. -/
structure Stays (history : List Event) (name : String) (position : Nat) : Prop where
  added : history[position]? = some (.added name)
  kept : ∀ later event, position < later → history[later]? = some event → ¬event.Drops name

/-- The name was added at this position of the history, for the first time since it was last
dropped. -/
structure FirstAdded (history : List Event) (name : String) (position : Nat) : Prop
    extends Stays history name position where
  first : ∀ earlier, earlier < position → history[earlier]? = some (.added name) →
    ∃ between event, earlier < between ∧ between < position ∧
      history[between]? = some event ∧ event.Drops name

variable {history : List Event} {name : String} {position : Nat}

theorem Stays.position_lt (stays : Stays history name position) : position < history.length :=
  (List.getElem?_eq_some_iff.mp stays.added).1

/-- The first addition since the last drop is the first one that stays. -/
theorem firstAdded_iff :
    FirstAdded history name position ↔
      Stays history name position ∧ ∀ earlier < position, ¬Stays history name earlier := by
  constructor
  · intro found
    refine ⟨found.toStays, fun earlier before stays => ?_⟩
    obtain ⟨between, event, after, -, happened, drops⟩ := found.first earlier before stays.added
    exact stays.kept between event after happened drops
  · rintro ⟨stays, none⟩
    refine ⟨stays, fun earlier before there => ?_⟩
    -- the earlier addition does not stay, so that the name is dropped after it
    by_contra never
    refine none earlier before ⟨there, fun later event beyond happened drops => ?_⟩
    rcases Nat.lt_trichotomy later position with inside | same | after
    · exact never ⟨later, event, beyond, inside, happened, drops⟩
    · rw [same, stays.added] at happened
      cases happened
      exact drops
    · exact stays.kept later event after happened drops

theorem Stays.exists_firstAdded (stays : Stays history name position) :
    ∃ first, FirstAdded history name first := by
  induction position using Nat.strongRecOn with
  | ind position ih =>
      by_cases sooner : ∃ index < position, Stays history name index
      · obtain ⟨index, before, staysToo⟩ := sooner
        exact ih index before staysToo
      · exact ⟨position, firstAdded_iff.mpr
          ⟨stays, fun index before staysToo => sooner ⟨index, before, staysToo⟩⟩⟩

variable {event : Event}

theorem happened_concat {other : Event} :
    (history ++ [event])[position]? = some other ↔
      history[position]? = some other ∨ position = history.length ∧ event = other := by
  by_cases last : position = history.length
  · simp [last]
  · have same : (history ++ [event])[position]? = history[position]? := by
      rcases Nat.lt_or_gt_of_ne last with inside | beyond
      · exact List.getElem?_append_left inside
      · rw [List.getElem?_eq_none (Nat.le_of_lt beyond), List.getElem?_eq_none]
        rw [List.length_append, List.length_singleton]
        exact beyond
    rw [same]
    exact ⟨.inl, fun either => either.resolve_right fun new => last new.1⟩

theorem stays_concat :
    Stays (history ++ [event]) name position ↔
      Stays history name position ∧ ¬event.Drops name ∨
        position = history.length ∧ event = .added name := by
  have last : (history ++ [event])[history.length]? = some event :=
    happened_concat.mpr (.inr ⟨rfl, rfl⟩)
  constructor
  · rintro ⟨added, kept⟩
    rcases happened_concat.mp added with old | new
    · have inside := (List.getElem?_eq_some_iff.mp old).1
      refine .inl ⟨⟨old, fun later other beyond happened => ?_⟩, kept _ event inside last⟩
      exact kept later other beyond (happened_concat.mpr (.inl happened))
    · exact .inr new
  · rintro (⟨stays, keeps⟩ | ⟨rfl, rfl⟩)
    · refine ⟨happened_concat.mpr (.inl stays.added), fun later other beyond happened => ?_⟩
      rcases happened_concat.mp happened with old | ⟨-, rfl⟩
      · exact stays.kept later other beyond old
      · exact keeps
    · refine ⟨last, fun later other beyond happened => ?_⟩
      have within := (List.getElem?_eq_some_iff.mp happened).1
      rw [List.length_append, List.length_singleton] at within
      omega

/-- One more event: it keeps the first addition of every name that it does not drop, and is one
itself for a name that has none. -/
theorem firstAdded_concat :
    FirstAdded (history ++ [event]) name position ↔
      FirstAdded history name position ∧ ¬event.Drops name ∨
        position = history.length ∧ event = .added name ∧
          ∀ index, ¬FirstAdded history name index := by
  rw [firstAdded_iff]
  constructor
  · rintro ⟨stays, none⟩
    rcases stays_concat.mp stays with ⟨old, keeps⟩ | ⟨rfl, rfl⟩
    · refine .inl ⟨firstAdded_iff.mpr ⟨old, fun earlier before sooner => ?_⟩, keeps⟩
      exact none earlier before (stays_concat.mpr (.inl ⟨sooner, keeps⟩))
    · refine .inr ⟨rfl, rfl, fun index found => ?_⟩
      exact none index found.position_lt (stays_concat.mpr (.inl ⟨found.toStays, id⟩))
  · rintro (⟨found, keeps⟩ | ⟨rfl, rfl, none⟩)
    · obtain ⟨stays, first⟩ := firstAdded_iff.mp found
      refine ⟨stays_concat.mpr (.inl ⟨stays, keeps⟩), fun earlier before sooner => ?_⟩
      rcases stays_concat.mp sooner with ⟨old, -⟩ | ⟨last, -⟩
      · exact first earlier before old
      · have inside := stays.position_lt
        omega
    · refine ⟨stays_concat.mpr (.inr ⟨rfl, rfl⟩), fun earlier before sooner => ?_⟩
      rcases stays_concat.mp sooner with ⟨old, -⟩ | ⟨last, -⟩
      · obtain ⟨index, found⟩ := old.exists_firstAdded
        exact none index found
      · omega

/-- The names are those that the history added and did not drop since, in the order of their first
addition. -/
structure ListsHistory (touched : List String) (history : List Event) : Prop where
  distinct : touched.Nodup
  mem_iff : ∀ name, name ∈ touched ↔ ∃ position, FirstAdded history name position
  ordered : touched.Pairwise fun one other => ∀ first second,
    FirstAdded history one first → FirstAdded history other second → first < second

theorem listsHistory_nil : ListsHistory [] [] where
  distinct := List.nodup_nil
  mem_iff name := by
    refine ⟨fun member => (List.not_mem_nil member).elim, fun ⟨position, found⟩ => ?_⟩
    exact absurd found.position_lt (Nat.not_lt_zero position)
  ordered := List.Pairwise.nil

namespace ListsHistory

variable {touched : List String}

theorem added (lists : ListsHistory touched history) (name : String) :
    ListsHistory (addNew touched name) (history ++ [.added name]) := by
  unfold addNew
  split
  case isTrue present =>
    -- the name has its first addition already, so that nothing changes
    have before := (lists.mem_iff name).mp (List.contains_iff_mem.mp present)
    have same : ∀ other position, FirstAdded (history ++ [.added name]) other position ↔
        FirstAdded history other position := by
      intro other position
      rw [firstAdded_concat]
      refine ⟨?_, fun found => .inl ⟨found, id⟩⟩
      rintro (⟨found, -⟩ | ⟨-, same, none⟩)
      · exact found
      · cases same
        obtain ⟨index, found⟩ := before
        exact (none index found).elim
    exact ⟨lists.distinct, by simpa only [same] using lists.mem_iff,
      by simpa only [same] using lists.ordered⟩
  case isFalse absent =>
    have new : name ∉ touched := fun member => absent (List.contains_iff_mem.mpr member)
    have none : ∀ index, ¬FirstAdded history name index :=
      fun index found => new ((lists.mem_iff name).mpr ⟨index, found⟩)
    have either : ∀ other position, FirstAdded (history ++ [.added name]) other position ↔
        FirstAdded history other position ∨ position = history.length ∧ other = name := by
      intro other position
      rw [firstAdded_concat]
      constructor
      · rintro (⟨found, -⟩ | ⟨last, same, -⟩)
        · exact .inl found
        · cases same
          exact .inr ⟨last, rfl⟩
      · rintro (found | ⟨last, rfl⟩)
        · exact .inl ⟨found, id⟩
        · exact .inr ⟨last, rfl, none⟩
    have old : ∀ other ∈ touched, ∀ position,
        FirstAdded (history ++ [.added name]) other position →
          FirstAdded history other position := by
      intro other member position found
      rcases (either other position).mp found with found | ⟨-, rfl⟩
      · exact found
      · exact (new member).elim
    refine ⟨?_, ?_, ?_⟩
    · rw [← List.concat_eq_append]
      exact lists.distinct.concat new
    · intro other
      simp only [List.mem_append, List.mem_singleton, either, lists.mem_iff other, exists_or,
        exists_eq_left]
    · refine List.pairwise_append.mpr ⟨?_, List.pairwise_singleton _ _, ?_⟩
      · refine lists.ordered.imp_of_mem ?_
        intro one other here there before first second firstFound secondFound
        exact before first second (old one here first firstFound)
          (old other there second secondFound)
      · intro one here other single first second firstFound secondFound
        cases List.mem_singleton.mp single
        have earlier := (old one here first firstFound).position_lt
        rcases (either name second).mp secondFound with found | ⟨last, -⟩
        · exact (none second found).elim
        · rwa [last]

theorem removed (lists : ListsHistory touched history) (name : String) :
    ListsHistory (touched.filter (· != name)) (history ++ [.removed name]) := by
  have kept : ∀ other position, FirstAdded (history ++ [.removed name]) other position ↔
      FirstAdded history other position ∧ other ≠ name := by
    intro other position
    rw [firstAdded_concat]
    simp only [Event.Drops, reduceCtorEq, false_and, and_false, or_false, ne_comm, ne_eq]
  refine ⟨lists.distinct.filter _, ?_, ?_⟩
  · intro other
    simp only [List.mem_filter, bne_iff_ne, kept, lists.mem_iff other, exists_and_right]
  · refine (lists.ordered.imp ?_).filter _
    intro one other before first second firstFound secondFound
    exact before first second ((kept one first).mp firstFound).1
      ((kept other second).mp secondFound).1

theorem cleared : ListsHistory [] (history ++ [.cleared]) where
  distinct := List.nodup_nil
  mem_iff name := by
    simp [firstAdded_concat, Event.Drops]
  ordered := List.Pairwise.nil

theorem apply (lists : ListsHistory touched history) (event : Event) :
    ListsHistory (event.apply touched) (history ++ [event]) := by
  cases event with
  | added name => exact lists.added name
  | removed name => exact lists.removed name
  | cleared => exact cleared

end ListsHistory

theorem listsHistory_foldl (history : List Event) :
    ListsHistory (history.foldl Event.apply []) history := by
  -- from the end, since an event looks back on the history before it
  induction history using List.reverseRecOn with
  | nil => exact listsHistory_nil
  | append_singleton history event ih =>
      rw [List.foldl_append]
      exact ih.apply event

/-- The default imports after a call. -/
def Call.defaults (current : List String) : Call → List String
  | .setDefaults paths => paths
  | _ => current

/-- What a session makes of the imports it starts from. -/
structure After (start : Imports) (calls : List Call) (imports : Imports) : Prop where
  paths : imports.paths = start.paths
  defaults : imports.defaults = calls.foldl Call.defaults start.defaults
  touched : imports.touched = (calls.flatMap Call.events).foldl Event.apply start.touched

theorem after_call (imports : Imports) (call : Call) :
    After imports [call] (imports.call call).2 := by
  cases call with
  | touch type =>
      refine ⟨rfl, rfl, ?_⟩
      rw [List.flatMap_singleton, Call.events, List.foldl_map]
      rfl
  | remove name => exact ⟨rfl, rfl, rfl⟩
  | clear => exact ⟨rfl, rfl, rfl⟩
  | setDefaults paths => exact ⟨rfl, rfl, rfl⟩

theorem after_session (start : Imports) (calls : List Call) :
    After start calls (session Imports.call start calls).2 := by
  rw [session_snd]
  induction calls generalizing start with
  | nil => exact ⟨rfl, rfl, rfl⟩
  | cons call rest ih =>
      have once := start.after_call call
      have more := ih (start.call call).2
      rw [List.foldl_cons]
      refine ⟨more.paths.trans once.paths, ?_, ?_⟩
      · rw [more.defaults, once.defaults]
        rfl
      · rw [more.touched, once.touched, List.flatMap_singleton, List.flatMap_cons,
          List.foldl_append]

/-- The path that a table has for a name; of several the last one counts. -/
def tablePath? (table : List (String × String)) (name : String) : Option String :=
  (table.filter (·.1 == name)).getLast?.map Prod.snd

theorem path?_ofTable (table : List (String × String)) (defaults : List String) (name : String) :
    (ofTable table defaults).path? name = tablePath? table name := by
  have found : ∀ rows : List (String × String),
      rows.lookup name = (rows.find? (·.1 == name)).map Prod.snd := by
    intro rows
    induction rows with
    | nil => rfl
    | cons row rest ih =>
        obtain ⟨type, path⟩ := row
        rw [List.lookup_cons, List.find?_cons, ih, Bool.beq_comm]
        cases type == name <;> rfl
  rw [path?, ofTable, found, tablePath?, ← List.head?_reverse, ← List.filter_reverse,
    List.head?_filter]

theorem list_eq_eraseDups (imports : Imports) :
    imports.list = (imports.defaults ++ imports.touched.filterMap imports.path?).eraseDups := by
  rw [list, foldl_addNew_eq, followedBy]
  simp

theorem touched_prefix_touch (imports : Imports) (type : String) :
    imports.touched <+: (imports.touch type).touched :=
  prefix_foldl_addNew _ _

theorem list_prefix_touch (imports : Imports) (type : String) :
    imports.list <+: (imports.touch type).list := by
  obtain ⟨added, same⟩ := imports.touched_prefix_touch type
  have paths : (imports.touch type).path? = imports.path? := rfl
  have defaults : (imports.touch type).defaults = imports.defaults := rfl
  have longer : (imports.touch type).list =
      (added.filterMap imports.path?).foldl addNew imports.list := by
    rw [list, list, paths, defaults, ← same, List.filterMap_append, ← List.append_assoc]
    exact List.foldl_append
  rw [longer]
  exact prefix_foldl_addNew _ _

theorem touch_of_covers {imports : Imports} {type : String} (covers : imports.Covers type) :
    imports.touch type = imports := by
  have present : ∀ names : List String, (∀ name ∈ names, name ∈ imports.touched) →
      names.foldl addNew imports.touched = imports.touched := by
    intro names here
    induction names with
    | nil => rfl
    | cons name rest ih =>
        rw [List.foldl_cons, addNew,
          if_pos (List.contains_iff_mem.mpr (here name List.mem_cons_self))]
        exact ih fun other member => here other (List.mem_cons_of_mem _ member)
  rw [touch, present _ covers]

end Imports

/-- After any session the touched names are those that were added since they were last dropped, in
the order of these additions. The imports are the defaults set last and the paths of the touched
names, each path once, where it first occurs. Touching a type adds to the end of both lists, and
touching it again adds nothing. -/
theorem imports_list_history (table : List (String × String)) (defaults : List String)
    (calls : List Imports.Call) :
    let imports := (session Imports.call (.ofTable table defaults) calls).2
    Imports.ListsHistory imports.touched (calls.flatMap Imports.Call.events) ∧
      imports.list.Nodup ∧
      imports.list = (calls.foldl Imports.Call.defaults defaults ++
        imports.touched.filterMap (Imports.tablePath? table)).eraseDups ∧
      ∀ type,
        let more := (imports.call (.touch type)).2
        imports.touched <+: more.touched ∧ imports.list <+: more.list ∧
          (more.call (.touch type)).2 = more := by
  intro imports
  have after := Imports.after_session (.ofTable table defaults) calls
  have paths : imports.path? = Imports.tablePath? table := by
    funext name
    rw [← Imports.path?_ofTable table defaults, Imports.path?, after.paths, Imports.path?]
  refine ⟨?_, imports.nodup_list, ?_, fun type => ⟨?_, ?_, ?_⟩⟩
  · rw [after.touched]
    exact Imports.listsHistory_foldl _
  · rw [← paths, imports.list_eq_eraseDups, after.defaults]
    rfl
  · exact imports.touched_prefix_touch type
  · exact imports.list_prefix_touch type
  · exact Imports.touch_of_covers (Imports.covers_touch type)

/-- A name that was removed and touched again comes last. -/
example : (session Imports.call (.ofTable [("A", "x"), ("B", "y"), ("C", "x")] ["y"])
    [.touch "A<B>", .touch "C", .remove "A", .touch "B<A>"]).2.touched = ["B", "C", "A"] := by
  decide

end SharpToJava
