import SharpToJava.Compiler
import SharpToJava.Proofs.Phrase.Promise
import SharpToJava.Proofs.Run.Outcome
import SharpToJava.Proofs.Text.Nesting
import SharpToJava.Proofs.TypeMap.Characters

/-!
Parentheses of a phrase, with conventions enforced. A phrase has the shape of a text if whatever a
run writes for it opens and closes parentheses as that text does; shapes are put together like the
phrases. A phrase is balanced if it has the shape of nothing. Phrases that open a parenthesis in one
part and close it in another are balanced as a whole, whatever balanced phrases stand between.
-/

namespace SharpToJava

theorem TypeMap.java_spares_parentheses :
    TypeMap.java.Spares Brackets.parentheses.contains := by
  refine .of_entries (fun c => ?_) (fun c => ?_) (by decide) (fun use => by cases use <;> rfl)
  · exact Brackets.contains_eq_false (by decide) (by decide)
  · exact Brackets.contains_eq_false (by decide) (by decide)

namespace Brackets

theorem nested_intercalate {brackets : Brackets} {separator : String} {texts : List String}
    (between : brackets.Nested separator.toList)
    (each : ∀ text ∈ texts, brackets.Nested text.toList) :
    brackets.Nested (separator.intercalate texts).toList := by
  refine @Text.holds_intercalate (fun text => brackets.Nested text.toList) ?_ ?_ separator texts
    between each
  · exact nested_iff.mpr rfl
  · intro first second before later
    rw [String.toList_append]
    exact before.append later

theorem parentheses_free_number (count : Nat) : parentheses.Free (toString count).toList := by
  constructor
  · exact fun member => absurd (Text.isDigit_of_mem_number member) (by decide)
  · exact fun member => absurd (Text.isDigit_of_mem_number member) (by decide)

theorem parentheses_free_indentation (depth : Int) :
    parentheses.Free (indentation depth).toList := by
  rw [indentation, String.toList_ofList]
  constructor
  · exact fun member => absurd (List.eq_of_mem_replicate member) (by decide)
  · exact fun member => absurd (List.eq_of_mem_replicate member) (by decide)

end Brackets

theorem MemberRule.nested_suffix {rule : MemberRule} {ending : String}
    (listed : rule ∈ MemberRule.all) (form : rule.form = .suffix ending) :
    Brackets.parentheses.Nested ending.toList := by
  have table : ∀ rule ∈ MemberRule.all,
      Brackets.parentheses.Nested rule.form.template.toList := by decide
  have entry := table rule listed
  rwa [form] at entry

/-- What a piece brings by itself. -/
def IdiomPiece.word : IdiomPiece → String
  | .text word => word
  | .helper | .holder | .argument _ => ""

namespace Idiom

variable {idiom : Idiom} {holder : String} {arguments : List String}

theorem parentheses_of_mem (listed : idiom ∈ all) :
    Brackets.parentheses.Free idiom.tag.toList ∧ Brackets.parentheses.Free idiom.helper.toList ∧
      ∀ step ∈ idiom.steps, Brackets.parentheses.Nested (step.flatMap (·.word.toList)) := by
  have table : ∀ idiom ∈ all, Brackets.parentheses.Free idiom.tag.toList ∧
      Brackets.parentheses.Free idiom.helper.toList ∧
      ∀ step ∈ idiom.steps, Brackets.parentheses.Nested (step.flatMap (·.word.toList)) := by decide
  exact table idiom listed

/-- Only the words of a piece open and close parentheses for others. -/
theorem same_pieceText (listed : idiom ∈ all) (held : Brackets.parentheses.Free holder.toList)
    (given : ∀ argument ∈ arguments, Brackets.parentheses.Nested argument.toList)
    (piece : IdiomPiece) :
    Brackets.parentheses.Same (idiom.pieceText holder arguments piece).toList
      piece.word.toList := by
  cases piece with
  | text word => exact .refl _
  | helper => exact Brackets.same_nil (parentheses_of_mem listed).2.1
  | holder => exact Brackets.same_nil held
  | argument index =>
      refine Brackets.nested_iff_same.mp ?_
      rw [pieceText]
      cases found : arguments[index]? with
      | none => rw [Option.getD_none]; decide
      | some argument => exact given argument (List.mem_of_getElem? found)

theorem nested_expand (listed : idiom ∈ all) (held : Brackets.parentheses.Free holder.toList)
    (given : ∀ argument ∈ arguments, Brackets.parentheses.Nested argument.toList) (depth : Int) :
    Brackets.parentheses.Nested (idiom.expand (indentation depth) holder arguments).toList := by
  have ended : Brackets.parentheses.Nested (";\n" ++ indentation depth).toList := by
    rw [String.toList_append]
    exact .append (by decide) (.of_free (Brackets.parentheses_free_indentation depth))
  refine Brackets.nested_intercalate ended fun text member => ?_
  obtain ⟨step, stepListed, rfl⟩ := List.mem_map.mp member
  refine Brackets.nested_iff_same.mpr (.trans (Brackets.same_join fun piece _ =>
    same_pieceText listed held given piece) ?_)
  exact Brackets.nested_iff_same.mp ((parentheses_of_mem listed).2.2 step stepListed)

end Idiom

namespace Phrase

variable {depth : Int}

theorem gives_callText {callee : String} {count : Nat}
    {arguments : RunM (List String)} {profile : Profile}
    (called : Brackets.parentheses.Nested callee.toList)
    (given : arguments.Gives fun texts =>
      ∀ text ∈ texts, Brackets.parentheses.Nested text.toList) :
    (callText profile depth callee count arguments).Gives fun text =>
      Brackets.parentheses.Nested text.toList := by
  have plain : ∀ texts : List String,
      (∀ text ∈ texts, Brackets.parentheses.Nested text.toList) →
      Brackets.parentheses.Nested (callee ++ "(" ++ ", ".intercalate texts ++ ")").toList := by
    intro texts each
    have comma : Brackets.parentheses.Nested (", " : String).toList := by decide
    rw [String.toList_append, String.toList_append, String.toList_append, List.append_assoc,
      List.append_assoc]
    exact called.append (Brackets.nested_intercalate comma each).wrap
  unfold callText
  split
  case h_1 => exact given.bind fun texts each => RunM.gives_pure (plain texts each)
  case h_2 idiom found =>
    have listed : idiom ∈ Idiom.all := List.mem_of_find?_eq_some found
    split
    case isTrue =>
      refine RunM.gives_bind fun _ => ?_
      refine (RunM.meets_nextTemp idiom.tag).gives.bind fun holder named => ?_
      obtain ⟨number, rfl⟩ := named
      have held : Brackets.parentheses.Free (idiom.tag ++ "_" ++ toString number).toList := by
        rw [String.toList_append, String.toList_append]
        exact ((Idiom.parentheses_of_mem listed).1.append (by decide)).append
          (Brackets.parentheses_free_number number)
      exact given.bind fun texts each =>
        RunM.gives_pure (Idiom.nested_expand listed held each depth)
    case isFalse =>
      refine RunM.gives_bind fun _ => ?_
      exact given.bind fun texts each => RunM.gives_pure (plain texts each)

/-- Whatever a run writes for the phrase opens and closes parentheses as the shape does. -/
def Shaped (shape : List Char) (phrase : Phrase) : Prop :=
  ∀ depth, (phrase.render (Profile.java true) depth).Gives fun text =>
    Brackets.parentheses.Same text.toList shape

def Balanced (phrase : Phrase) : Prop := phrase.Shaped []

variable {phrase callee body : Phrase} {parts arguments : List Phrase} {shape others : List Char}

theorem Shaped.alike (shaped : phrase.Shaped shape)
    (same : Brackets.parentheses.Same shape others) : phrase.Shaped others :=
  fun depth => (shaped depth).weaken fun _ written => written.trans same

theorem Shaped.balanced (shaped : phrase.Shaped shape)
    (nested : Brackets.parentheses.Nested shape) : phrase.Balanced :=
  shaped.alike (Brackets.nested_iff_same.mp nested)

theorem shaped_text (written : String) : (text written).Shaped written.toList := by
  intro depth
  rw [render_text]
  exact RunM.gives_pure (.refl _)

theorem balanced_text {written : String} (nested : Brackets.parentheses.Nested written.toList) :
    (text written).Balanced :=
  (shaped_text written).balanced nested

theorem balanced_empty : Phrase.empty.Balanced := by
  intro depth
  rw [Phrase.empty, render_join_nil]
  exact RunM.gives_pure (.refl _)

theorem Shaped.cons (here : phrase.Shaped shape) (later : (join parts).Shaped others) :
    (join (phrase :: parts)).Shaped (shape ++ others) := by
  intro depth
  rw [render_join_cons]
  refine (here depth).bind fun first same => ?_
  refine (later depth).bind fun rest alike => RunM.gives_pure ?_
  rw [String.toList_append]
  exact same.append alike

theorem shaped_join_map {α : Type} {items : List α} {phraseOf : α → Phrase}
    {shapeOf : α → List Char} (each : ∀ item ∈ items, (phraseOf item).Shaped (shapeOf item)) :
    (join (items.map phraseOf)).Shaped (items.flatMap shapeOf) := by
  induction items with
  | nil => exact balanced_empty
  | cons item rest ih =>
      exact (each item List.mem_cons_self).cons
        (ih fun later member => each later (List.mem_cons_of_mem _ member))

theorem balanced_join (each : ∀ part ∈ parts, part.Balanced) : (join parts).Balanced := by
  induction parts with
  | nil => exact balanced_empty
  | cons part rest ih =>
      exact Shaped.cons (each part List.mem_cons_self)
        (ih fun later member => each later (List.mem_cons_of_mem _ member))

theorem Balanced.pair {first second : Phrase} (left : first.Balanced) (right : second.Balanced) :
    (join [first, second]).Balanced :=
  balanced_join (by simp [left, right])

theorem Balanced.triple {first second third : Phrase} (left : first.Balanced)
    (middle : second.Balanced) (right : third.Balanced) :
    (join [first, second, third]).Balanced :=
  balanced_join (by simp [left, middle, right])

/-- Words that belong together may stand on both sides of a phrase. -/
theorem Balanced.between {lead trail : String} (inside : body.Balanced)
    (pairs : Brackets.parentheses.Nested (lead.toList ++ trail.toList)) :
    (join [text lead, body, text trail]).Balanced := by
  have shaped := (shaped_text lead).cons (inside.cons ((shaped_text trail).cons balanced_empty))
  refine shaped.balanced ?_
  rwa [List.nil_append, List.append_nil]

theorem Shaped.enforced (shaped : phrase.Shaped shape) (otherwise : Phrase) :
    (byConvention phrase otherwise).Shaped shape := by
  intro depth
  rw [render_byConvention]
  exact shaped depth

theorem nested_mapped (use : TypeUse) {source : String}
    (nested : Brackets.parentheses.Nested source.toList) :
    Brackets.parentheses.Nested (TypeMap.java.map use source).toList :=
  nested.of_filter_eq (TypeMap.java_spares_parentheses.map use source)

theorem balanced_type {source : String} (nested : Brackets.parentheses.Nested source.toList) :
    (type source).Balanced := by
  intro depth
  rw [render_type]
  refine (RunM.meets_mapType _ _ _).gives.weaken fun text same => ?_
  rw [same]
  exact Brackets.nested_iff_same.mp (nested_mapped .body nested)

theorem balanced_unimportedType {source : String}
    (nested : Brackets.parentheses.Nested source.toList) : (unimportedType source).Balanced := by
  intro depth
  rw [render_unimportedType]
  exact RunM.gives_pure (Brackets.nested_iff_same.mp (nested_mapped .body nested))

theorem balanced_discard : discard.Balanced := by
  intro depth
  rw [render_discard]
  refine RunM.meets_nextDiscard.gives.weaken fun name named => ?_
  obtain ⟨count, rfl⟩ := named
  rw [String.toList_append]
  exact Brackets.nested_iff_same.mp
    (.append (by decide) (.of_free (Brackets.parentheses_free_number count)))

theorem balanced_note (entry : Note) : (note entry).Balanced := by
  intro depth
  rw [render_note]
  exact (RunM.meets_note _ _).gives.map fun _ _ => .refl _

theorem balanced_newline : newline.Balanced := by
  intro depth
  rw [render_newline]
  refine RunM.gives_pure ?_
  rw [String.toList_append]
  exact Brackets.nested_iff_same.mp
    (.append (by decide) (.of_free (Brackets.parentheses_free_indentation depth)))

theorem balanced_memberWithoutName : memberWithoutName.Balanced := by
  intro depth
  rw [render_memberWithoutName]
  exact RunM.gives_throw _

theorem gives_writeApart (each : ∀ part ∈ parts, part.Balanced) :
    (writeApart (Profile.java true) depth parts).Gives fun texts =>
      ∀ text ∈ texts, Brackets.parentheses.Nested text.toList := by
  induction parts with
  | nil => exact RunM.gives_pure (by simp)
  | cons part rest ih =>
      rw [writeApart_cons]
      refine (each part List.mem_cons_self depth).bind fun first same => ?_
      refine (ih fun later member => each later (List.mem_cons_of_mem _ member)).bind ?_
      intro others nested
      exact RunM.gives_pure (List.forall_mem_cons.mpr ⟨Brackets.nested_iff_same.mpr same, nested⟩)

theorem Balanced.call (called : callee.Balanced)
    (each : ∀ argument ∈ arguments, argument.Balanced) : (call callee arguments).Balanced := by
  intro depth
  rw [render_call]
  refine (called depth).bind fun text same => ?_
  refine (gives_callText (Brackets.nested_iff_same.mpr same) (gives_writeApart each)).weaken ?_
  exact fun _ nested => Brackets.nested_iff_same.mp nested

theorem balanced_ofOption {found : Option Phrase} (each : ∀ phrase ∈ found, phrase.Balanced) :
    (ofOption found).Balanced := by
  cases found with
  | none => exact balanced_empty
  | some phrase => exact each phrase rfl

theorem balanced_separated {separator : String}
    (between : Brackets.parentheses.Nested separator.toList)
    (each : ∀ part ∈ parts, part.Balanced) : (separated separator parts).Balanced := by
  refine balanced_join fun part member => ?_
  rcases mem_of_mem_intersperse member with listed | rfl
  · exact each part listed
  · exact balanced_text between

theorem balanced_parenthesized (each : ∀ part ∈ parts, part.Balanced) :
    (parenthesized parts).Balanced :=
  (balanced_separated (by decide) each).between (by decide)

theorem Balanced.member {base : Phrase} {name : Node} (before : base.Balanced)
    (free : Brackets.parentheses.Free name.identifier.toList) : (member base name).Balanced := by
  unfold Phrase.member
  split
  case h_1 =>
    have named : (text ("." ++ name.identifier)).Balanced := by
      refine balanced_text ?_
      rw [String.toList_append]
      exact .append (by decide) (.of_free free)
    exact before.pair named
  case h_2 rule found =>
    split
    case h_1 ending form =>
      have suffix := balanced_text
        (MemberRule.nested_suffix (List.mem_of_find?_eq_some found) form)
      exact before.pair suffix
    case h_2 =>
      exact ((shaped_text "new ").cons ((balanced_unimportedType (by decide)).cons
        ((shaped_text "()").cons balanced_empty))).balanced (by decide)

theorem Balanced.element {list : Option String} {base : Phrase} {indexes : List Phrase}
    (named : ∀ name ∈ list, Brackets.parentheses.Free name.toList) (before : base.Balanced)
    (each : ∀ index ∈ indexes, index.Balanced) : (element list base indexes).Balanced := by
  unfold Phrase.element
  split
  case h_1 name index rest =>
    refine (each index List.mem_cons_self).between ?_
    rw [String.toList_append, List.append_assoc]
    exact (Brackets.Nested.of_free (named name rfl)).append (by decide)
  case h_2 =>
    refine balanced_join fun part member => ?_
    rcases List.mem_cons.mp member with rfl | later
    · exact before
    · obtain ⟨index, present, rfl⟩ := List.mem_map.mp later
      exact (each index present).between (by decide)

theorem Balanced.cast {source : String} {operand : Phrase}
    (stated : Brackets.parentheses.Nested source.toList) (inner : operand.Balanced) :
    (cast source operand).Balanced := by
  have spaced : (join [text " ", operand]).Balanced := .pair (balanced_text (by decide)) inner
  exact ((shaped_text "(").cons ((balanced_type stated).cons ((shaped_text ")").cons
    ((Shaped.enforced spaced empty).cons balanced_empty)))).balanced (by decide)

theorem Balanced.enumParse {source : String} {argument : Phrase}
    (stated : Brackets.parentheses.Nested source.toList) (inner : argument.Balanced) :
    (enumParse source (some argument)).Balanced := by
  have closed := Shaped.cons inner (((shaped_text ")").enforced empty).cons balanced_empty)
  exact ((balanced_type stated).cons (((shaped_text ".valueOf(").enforced (text "(")).cons
    (closed.cons balanced_empty))).balanced (by decide)

theorem balanced_creation {source : String} {holder : Option String}
    {initializer : Option (List Phrase)} (stated : Brackets.parentheses.Nested source.toList)
    (held : ∀ name ∈ holder, Brackets.parentheses.Free name.toList)
    (given : ∀ argument ∈ arguments, argument.Balanced)
    (members : ∀ list ∈ initializer, ∀ member ∈ list, member.Balanced) :
    (creation source holder arguments initializer).Balanced := by
  have pair : (text "()").Balanced := balanced_text (by decide)
  refine .triple (balanced_text (by decide)) (balanced_type stated) ?_
  split
  case h_1 => exact balanced_parenthesized given
  case h_2 => exact pair
  case h_3 => exact .pair pair (balanced_note _)
  case h_4 list name _ =>
    refine balanced_join fun part member => ?_
    rcases List.mem_cons.mp member with rfl | later
    · exact pair
    · obtain ⟨inner, present, rfl⟩ := List.mem_map.mp later
      have dotted : (text (name ++ ".")).Balanced := by
        refine balanced_text ?_
        rw [String.toList_append]
        exact (Brackets.Nested.of_free (held name rfl)).append (by decide)
      have ended : (text ";").Balanced := balanced_text (by decide)
      refine balanced_join ?_
      simp only [List.forall_mem_cons]
      exact ⟨ended, balanced_newline, dotted, members list rfl inner present, by simp⟩

end Phrase

end SharpToJava
