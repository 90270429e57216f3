/-!
Properly nested brackets. A text is nested if no beginning of it closes more brackets than it
opens and the whole closes as many; equivalently, a scan that counts open brackets never goes
below zero and ends where it began (`Brackets.nested_iff`). The scan is how nesting is shown and
decided.
-/

namespace SharpToJava

structure Brackets where
  opening : Char
  closing : Char
  distinct : opening ≠ closing

namespace Brackets

def braces : Brackets := ⟨'\x7b', '\x7d', by decide⟩

def parentheses : Brackets := ⟨'(', ')', by decide⟩

variable (brackets : Brackets)

def contains (c : Char) : Bool := c == brackets.opening || c == brackets.closing

/-- The text has no brackets. -/
def Free (text : List Char) : Prop := brackets.opening ∉ text ∧ brackets.closing ∉ text

instance : DecidablePred brackets.Free := fun _ => inferInstanceAs (Decidable (_ ∧ _))

structure Nested (text : List Char) : Prop where
  starts : ∀ start, start <+: text →
    start.count brackets.closing ≤ start.count brackets.opening
  total : text.count brackets.closing = text.count brackets.opening

/-- How many brackets are open after a text, if `level` are open before it; none if a bracket is
closed where none is open. -/
def after? : List Char → Nat → Option Nat
  | [], level => some level
  | c :: rest, level =>
    if c = brackets.opening then after? rest (level + 1)
    else if c = brackets.closing then
      match level with
      | 0 => none
      | outer + 1 => after? rest outer
    else after? rest level

variable {brackets}

@[simp] theorem after?_nil (level : Nat) : brackets.after? [] level = some level := rfl

@[simp] theorem after?_opening (rest : List Char) (level : Nat) :
    brackets.after? (brackets.opening :: rest) level = brackets.after? rest (level + 1) := by
  simp [after?]

@[simp] theorem after?_closing_zero (rest : List Char) :
    brackets.after? (brackets.closing :: rest) 0 = none := by
  simp [after?, brackets.distinct.symm]

@[simp] theorem after?_closing_succ (rest : List Char) (level : Nat) :
    brackets.after? (brackets.closing :: rest) (level + 1) = brackets.after? rest level := by
  simp [after?, brackets.distinct.symm]

theorem after?_other {c : Char} (other : brackets.contains c = false) (rest : List Char)
    (level : Nat) : brackets.after? (c :: rest) level = brackets.after? rest level := by
  simp only [contains, Bool.or_eq_false_iff, beq_eq_false_iff_ne] at other
  simp [after?, other]

/-- A character is the opening bracket, the closing one or none of them. -/
theorem cases_char (brackets : Brackets) (c : Char) :
    c = brackets.opening ∨ c = brackets.closing ∨ brackets.contains c = false := by
  by_cases opened : c = brackets.opening
  · exact .inl opened
  by_cases closed : c = brackets.closing
  · exact .inr (.inl closed)
  · exact .inr (.inr (by simp [contains, opened, closed]))

theorem contains_iff {c : Char} :
    brackets.contains c = true ↔ c = brackets.opening ∨ c = brackets.closing := by
  simp [contains]

theorem contains_eq_false {p : Char → Bool} (noOpening : p brackets.opening = false)
    (noClosing : p brackets.closing = false) {c : Char} (holds : p c = true) :
    brackets.contains c = false := by
  rw [Bool.eq_false_iff]
  intro bracket
  rcases contains_iff.mp bracket with rfl | rfl
  · simp [holds] at noOpening
  · simp [holds] at noClosing

theorem filter_eq_nil_iff {text : List Char} :
    text.filter brackets.contains = [] ↔ brackets.Free text := by
  rw [List.filter_eq_nil_iff]
  constructor
  · intro none
    exact ⟨fun member => none _ member (contains_iff.mpr (.inl rfl)),
      fun member => none _ member (contains_iff.mpr (.inr rfl))⟩
  · rintro ⟨noOpening, noClosing⟩ c member bracket
    rcases contains_iff.mp bracket with rfl | rfl
    · exact noOpening member
    · exact noClosing member

theorem Free.append {first second : List Char} (before : brackets.Free first)
    (later : brackets.Free second) : brackets.Free (first ++ second) := by
  simp only [Free, List.mem_append, not_or]
  exact ⟨⟨before.1, later.1⟩, ⟨before.2, later.2⟩⟩

theorem after?_append (first second : List Char) (level : Nat) :
    brackets.after? (first ++ second) level =
      (brackets.after? first level).bind (brackets.after? second) := by
  induction first generalizing level with
  | nil => rfl
  | cons c rest ih =>
      rw [List.cons_append]
      rcases brackets.cases_char c with rfl | rfl | other
      · simp [ih]
      · cases level with
        | zero => simp
        | succ level => simp [ih]
      · rw [after?_other other, after?_other other, ih]

/-- More open brackets around a text change nothing inside it. -/
theorem after?_add {text : List Char} {level reached : Nat}
    (scanned : brackets.after? text level = some reached) (more : Nat) :
    brackets.after? text (level + more) = some (reached + more) := by
  induction text generalizing level with
  | nil => simp_all
  | cons c rest ih =>
      rcases brackets.cases_char c with rfl | rfl | other
      · rw [after?_opening] at scanned ⊢
        rw [Nat.add_right_comm]
        exact ih scanned
      · cases level with
        | zero => simp at scanned
        | succ level =>
            rw [after?_closing_succ] at scanned
            rw [Nat.add_right_comm, after?_closing_succ]
            exact ih scanned
      · rw [after?_other other] at scanned ⊢
        exact ih scanned

/-- Only the brackets of a text matter. -/
theorem after?_filter (text : List Char) (level : Nat) :
    brackets.after? (text.filter brackets.contains) level = brackets.after? text level := by
  induction text generalizing level with
  | nil => rfl
  | cons c rest ih =>
      rcases brackets.cases_char c with rfl | rfl | other
      · rw [List.filter_cons_of_pos (by simp [contains])]
        simp [ih]
      · rw [List.filter_cons_of_pos (by simp [contains])]
        cases level with
        | zero => simp
        | succ level => simp [ih]
      · rw [List.filter_cons_of_neg (by simp [other]), after?_other other, ih]

theorem forall_start_cons {p : List Char → Prop} {c : Char} {rest : List Char} :
    (∀ start, start <+: c :: rest → p start) ↔
      p [] ∧ ∀ start, start <+: rest → p (c :: start) := by
  constructor
  · intro each
    exact ⟨each [] List.nil_prefix, fun start begins =>
      each _ (List.cons_prefix_cons.mpr ⟨rfl, begins⟩)⟩
  · rintro ⟨atNone, later⟩ start begins
    rcases List.prefix_cons_iff.mp begins with rfl | ⟨tail, rfl, below⟩
    · exact atNone
    · exact later tail below

/-- The scan counts: it succeeds if no start of the text closes too many brackets, and the level it
reaches makes up the difference. -/
theorem after?_eq_some_iff {text : List Char} {level reached : Nat} :
    brackets.after? text level = some reached ↔
      (∀ start, start <+: text →
        start.count brackets.closing ≤ start.count brackets.opening + level) ∧
      text.count brackets.closing + reached = text.count brackets.opening + level := by
  have distinct := brackets.distinct
  -- a bracket at the front passes from the counts of the text into the level
  induction text generalizing level with
  | nil => simp [eq_comm]
  | cons c rest ih =>
      rw [forall_start_cons]
      rcases brackets.cases_char c with rfl | rfl | other
      · rw [after?_opening]
        refine ih.trans ?_
        simp only [List.count_cons_self, List.count_cons_of_ne distinct, List.count_nil]
        constructor
        · rintro ⟨starts, total⟩
          exact ⟨⟨by omega, fun start begins => by have := starts start begins; omega⟩, by omega⟩
        · rintro ⟨⟨-, starts⟩, total⟩
          exact ⟨fun start begins => by have := starts start begins; omega, by omega⟩
      · simp only [List.count_cons_self, List.count_cons_of_ne distinct.symm, List.count_nil]
        cases level with
        | zero =>
            simp only [after?_closing_zero, reduceCtorEq, false_iff]
            rintro ⟨⟨-, starts⟩, -⟩
            exact absurd (starts [] List.nil_prefix) (by simp)
        | succ level =>
            rw [after?_closing_succ]
            refine ih.trans ?_
            constructor
            · rintro ⟨starts, total⟩
              exact ⟨⟨by omega, fun start begins => by have := starts start begins; omega⟩, by omega⟩
            · rintro ⟨⟨-, starts⟩, total⟩
              exact ⟨fun start begins => by have := starts start begins; omega, by omega⟩
      · rw [after?_other other]
        refine ih.trans ?_
        simp only [contains, Bool.or_eq_false_iff, beq_eq_false_iff_ne] at other
        simp only [List.count_cons_of_ne other.1, List.count_cons_of_ne other.2, List.count_nil]
        constructor
        · rintro ⟨starts, total⟩
          exact ⟨⟨by omega, starts⟩, total⟩
        · rintro ⟨⟨-, starts⟩, total⟩
          exact ⟨starts, total⟩

theorem nested_iff {text : List Char} :
    brackets.Nested text ↔ brackets.after? text 0 = some 0 := by
  rw [after?_eq_some_iff]
  constructor
  · rintro ⟨starts, total⟩
    exact ⟨starts, by rw [total]⟩
  · rintro ⟨starts, total⟩
    exact ⟨starts, by simpa using total⟩

instance (text : List Char) : Decidable (brackets.Nested text) :=
  decidable_of_iff _ nested_iff.symm

namespace Nested

variable {first second text other : List Char}

theorem after? (nested : brackets.Nested text) (level : Nat) :
    brackets.after? text level = some level := by
  simpa using after?_add (nested_iff.mp nested) level

/-- A nested text in front of another is passed over. -/
theorem after?_append (nested : brackets.Nested text) (rest : List Char) (level : Nat) :
    brackets.after? (text ++ rest) level = brackets.after? rest level := by
  rw [Brackets.after?_append, nested.after?, Option.bind_some]

theorem append (before : brackets.Nested first) (later : brackets.Nested second) :
    brackets.Nested (first ++ second) := by
  rw [nested_iff, before.after?_append]
  exact later.after? 0

theorem wrap (inside : brackets.Nested text) :
    brackets.Nested (brackets.opening :: text ++ [brackets.closing]) := by
  rw [nested_iff, List.cons_append, after?_opening, inside.after?_append]
  simp

/-- Texts with the same brackets are nested alike. -/
theorem of_filter_eq (nested : brackets.Nested text)
    (same : other.filter brackets.contains = text.filter brackets.contains) :
    brackets.Nested other := by
  rw [nested_iff, ← after?_filter, same, after?_filter]
  exact nested_iff.mp nested

theorem of_free (free : brackets.Free text) : brackets.Nested text := by
  have nothing : brackets.Nested [] := nested_iff.mpr rfl
  exact nothing.of_filter_eq (filter_eq_nil_iff.mpr free)

end Nested

variable (brackets) in
/-- Whatever is open before them, the texts leave the same open after them. -/
def Same (first second : List Char) : Prop :=
  ∀ level, brackets.after? first level = brackets.after? second level

namespace Same

variable {first second third fourth : List Char}

theorem refl (text : List Char) : brackets.Same text text := fun _ => rfl

theorem trans (one : brackets.Same first second) (two : brackets.Same second third) :
    brackets.Same first third :=
  fun level => (one level).trans (two level)

theorem append (one : brackets.Same first second) (two : brackets.Same third fourth) :
    brackets.Same (first ++ third) (second ++ fourth) := by
  intro level
  rw [after?_append, after?_append, one level]
  exact congrArg _ (funext two)

end Same

theorem same_join {α : Type} {items : List α} {text : α → String} {shape : α → List Char}
    (each : ∀ item ∈ items, brackets.Same (text item).toList (shape item)) :
    brackets.Same (String.join (items.map text)).toList (items.flatMap shape) := by
  induction items with
  | nil => exact .refl _
  | cons item rest ih =>
      rw [List.map_cons, String.join_cons, String.toList_append, List.flatMap_cons]
      exact (each item List.mem_cons_self).append
        (ih fun later member => each later (List.mem_cons_of_mem _ member))

theorem nested_iff_same {text : List Char} : brackets.Nested text ↔ brackets.Same text [] := by
  constructor
  · exact fun nested level => nested.after? level
  · exact fun same => nested_iff.mpr (same 0)

theorem same_nil {text : List Char} (free : brackets.Free text) : brackets.Same text [] :=
  nested_iff_same.mp (.of_free free)

end Brackets

end SharpToJava
