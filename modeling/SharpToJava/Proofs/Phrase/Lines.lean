import SharpToJava.Proofs.Phrase.Promise
import SharpToJava.Proofs.TypeMap.Characters

/-!
Where the text of a phrase goes over more than one line. Words bring no new line of their own if the
tokens of the tree have none, so a line can end in two ways only: a phrase starts a new one, or it
is a call that stands for several statements. The second depends on the text of the callee, which
no run can change where it matters (`Phrase.fixedText?`). So the tree alone decides
(`Phrase.breaksLine`).
-/

namespace SharpToJava

namespace Phrase

mutual
/-- The text of a phrase, if a run has no say in it. -/
def fixedText? (profile : Profile) : Phrase → Option String
  | .text written => some written
  | .type source | .unimportedType source => some (profile.types.map .body source)
  | .note _ => some ""
  | .join parts => fixedTexts? profile parts
  | .ledBy lead body =>
    (body.fixedText? profile).map fun text => if text.isEmpty then "" else lead ++ text
  | .byConvention enforced otherwise =>
    if profile.enforce then enforced.fixedText? profile else otherwise.fixedText? profile
  | .discard | .newline | .call _ _ | .memberWithoutName => none

def fixedTexts? (profile : Profile) : List Phrase → Option String
  | [] => some ""
  | phrase :: rest =>
    (phrase.fixedText? profile).bind fun first =>
      (fixedTexts? profile rest).map fun others => first ++ others
end

/-- The statements that a call of so many arguments stands for. -/
def idiom? (profile : Profile) (callee : Phrase) (count : Nat) : Option Idiom :=
  ((callee.fixedText? profile).bind Idiom.find?).filter (·.arity ≤ count)

mutual
/-- Whether the text of a phrase goes over more than one line. -/
def breaksLine (profile : Profile) : Phrase → Bool
  | .newline => true
  | .join parts => anyBreaksLine profile parts
  | .ledBy _ body => body.breaksLine profile
  | .byConvention enforced otherwise =>
    if profile.enforce then enforced.breaksLine profile else otherwise.breaksLine profile
  | .call callee arguments =>
    (idiom? profile callee arguments.length).isSome || callee.breaksLine profile ||
      anyBreaksLine profile arguments
  | .text _ | .type _ | .unimportedType _ | .discard | .note _ | .memberWithoutName => false

def anyBreaksLine (profile : Profile) : List Phrase → Bool
  | [] => false
  | phrase :: rest => phrase.breaksLine profile || anyBreaksLine profile rest
end

end Phrase

/-- Texts without a new line. -/
def Wording.oneLine : Wording where
  holds text := '\n' ∉ text.toList
  fails _ := True
  plain text plain member := absurd (List.all_eq_true.mp plain _ member) (by decide)
  append before after member := by
    rw [String.toList_append, List.mem_append] at member
    exact member.elim before after

theorem newline_not_mem_indentation (depth : Int) : '\n' ∉ (indentation depth).toList := by
  rw [indentation, String.toList_ofList]
  intro member
  exact absurd (List.eq_of_mem_replicate member) (by decide)

/-- No token of the tree has a new line. -/
def Node.OnOneLine (node : Node) : Prop := ∀ token ∈ node.tokens, '\n' ∉ token.text.toList

instance : DecidablePred Node.OnOneLine := fun node =>
  inferInstanceAs (Decidable (∀ token ∈ node.tokens, '\n' ∉ token.text.toList))

namespace Node

variable {node : Node}

theorem OnOneLine.of_mem {inner : Node} (clean : node.OnOneLine) (member : inner ∈ node.nodes) :
    inner.OnOneLine := by
  intro token listed
  obtain ⟨holder, below, direct⟩ := mem_tokens.mp listed
  exact clean token (mem_tokens.mpr ⟨holder, nodes_subset_of_mem member below, direct⟩)

theorem OnOneLine.childToken {token : Token} (clean : node.OnOneLine)
    (member : token ∈ node.childTokens) : '\n' ∉ token.text.toList :=
  clean token (mem_tokens.mpr ⟨node, mem_nodes_self node, member⟩)

theorem OnOneLine.accepts (clean : node.OnOneLine) : Wording.oneLine.Accepts node where
  word token member _ := clean.childToken member
  operator _ := by
    unfold operator
    split
    case h_1 token found => exact clean.childToken (List.mem_of_find?_eq_some found)
    case h_2 =>
      split
      case h_1 token first => exact clean.childToken (List.mem_of_head? first)
      case h_2 => exact Wording.oneLine.empty
  literal _ := by
    unfold literalText
    split
    case h_1 token first =>
      have absent := clean token (mem_tokens_of_firstToken? first)
      split
      · exact not_mem_unverbatim absent
      · exact absent
    case h_2 => exact Wording.oneLine.empty
  first _ := by
    unfold firstText
    split
    case h_1 token first => exact clean token (mem_tokens_of_firstToken? first)
    case h_2 => exact Wording.oneLine.empty
  tokens := by
    refine Wording.oneLine.join fun text member => ?_
    obtain ⟨token, listed, rfl⟩ := List.mem_map.mp member
    exact clean token listed
  named _ _ := trivial

end Node

theorem Place.every_accepts_oneLine {place : Place}
    (clean : ∀ node ∈ place.node :: place.above, node.OnOneLine) :
    place.Every Wording.oneLine.Accepts := by
  refine ⟨fun node member => ?_, fun node member => ?_⟩
  · exact ((clean _ List.mem_cons_self).of_mem member).accepts
  · exact (clean node (List.mem_cons_of_mem _ member)).accepts

theorem TypeMap.java_brings_no_newline : TypeMap.java.Brings (· ≠ '\n') where
  opening := by decide
  closing := by decide
  images := by
    have table : ∀ entry ∈ TypeMap.java.entries, entry.2.all (· != '\n') = true := by decide
    intro entry listed image mapped c member
    have free := table entry listed
    rw [mapped] at free
    simpa using List.all_eq_true.mp free c member
  fallbacks use := by
    have free : (TypeMap.java.fallbacks.get use).toList.all (· != '\n') = true := by
      cases use <;> decide
    intro c member
    simpa using List.all_eq_true.mp free c member

namespace Idiom

/-- A text with one of these characters is not the callee of an idiom. -/
def marks : List Char := ['_', '\n', '(']

theorem find?_eq_none_of_mark {callee : String} {c : Char} (mark : c ∈ marks)
    (member : c ∈ callee.toList) : find? callee = none := by
  have table : ∀ idiom ∈ all, marks.all (!idiom.callee.toList.contains ·) = true := by decide
  rw [find?, List.find?_eq_none]
  intro idiom listed same
  rw [← eq_of_beq same] at member
  have absent := List.all_eq_true.mp (table idiom listed) c mark
  simp [member] at absent

/-- An idiom takes more than one statement. -/
theorem newline_mem_expand {idiom : Idiom} (listed : idiom ∈ all) (indent holder : String)
    (arguments : List String) : '\n' ∈ (idiom.expand indent holder arguments).toList := by
  have table : ∀ idiom ∈ all, 2 ≤ idiom.steps.length := by decide
  have several := table idiom listed
  unfold expand
  match steps : idiom.steps with
  | [] => simp [steps] at several
  | [_] => simp [steps] at several
  | first :: second :: rest =>
      rw [List.map_cons, List.map_cons, String.intercalate_cons_cons]
      simp [String.toList_append]

end Idiom

theorem mem_intercalate {c : Char} {separator : String} (absent : c ∉ separator.toList)
    (texts : List String) :
    c ∈ (separator.intercalate texts).toList ↔ ∃ text ∈ texts, c ∈ text.toList := by
  induction texts with
  | nil => simp
  | cons text rest ih =>
      cases rest with
      | nil => simp
      | cons second rest =>
          rw [String.intercalate_cons_cons, String.toList_append, String.toList_append,
            List.mem_append, List.mem_append, ih]
          simp [absent]

namespace Phrase

variable {profile : Profile}

/-- The text is one that a run may write for the phrase: the fixed text if there is one, else a
text that no idiom goes by, and one with a new line just if the phrase breaks its line. -/
structure Renders (profile : Profile) (phrase : Phrase) (text : String) : Prop where
  fixed : ∀ written, phrase.fixedText? profile = some written → text = written
  marked : phrase.fixedText? profile = none → ∃ c ∈ Idiom.marks, c ∈ text.toList
  lines : '\n' ∈ text.toList ↔ phrase.breaksLine profile = true

theorem Renders.of_fixed {phrase : Phrase} {text : String}
    (fixed : phrase.fixedText? profile = some text) (breaks : phrase.breaksLine profile = false)
    (absent : '\n' ∉ text.toList) : phrase.Renders profile text where
  fixed written same := by simpa [fixed] using same
  marked none := by simp [fixed] at none
  lines := by simp [absent, breaks]

theorem Renders.of_mark {phrase : Phrase} {text : String} {c : Char}
    (unfixed : phrase.fixedText? profile = none) (mark : c ∈ Idiom.marks) (member : c ∈ text.toList)
    (lines : '\n' ∈ text.toList ↔ phrase.breaksLine profile = true) :
    phrase.Renders profile text where
  fixed written same := by simp [unfixed] at same
  marked _ := ⟨c, mark, member⟩
  lines := lines

theorem Renders.cons {phrase : Phrase} {rest : List Phrase} {first others : String}
    (here : phrase.Renders profile first) (later : (join rest).Renders profile others) :
    (join (phrase :: rest)).Renders profile (first ++ others) where
  fixed written same := by
    simp only [fixedText?, fixedTexts?] at same
    obtain ⟨head, headFixed, more⟩ := Option.bind_eq_some_iff.mp same
    obtain ⟨tail, tailFixed, rfl⟩ := Option.map_eq_some_iff.mp more
    rw [here.fixed head headFixed, later.fixed tail (by simpa only [fixedText?] using tailFixed)]
  marked none := by
    simp only [fixedText?, fixedTexts?] at none
    cases headFixed : phrase.fixedText? profile with
    | none =>
        obtain ⟨c, mark, member⟩ := here.marked headFixed
        exact ⟨c, mark, by simp [String.toList_append, member]⟩
    | some head =>
        have tailOpen : (join rest).fixedText? profile = .none := by
          simpa [headFixed, fixedText?] using none
        obtain ⟨c, mark, member⟩ := later.marked tailOpen
        exact ⟨c, mark, by simp [String.toList_append, member]⟩
  lines := by
    rw [String.toList_append, List.mem_append, here.lines, later.lines]
    simp [breaksLine, anyBreaksLine]

theorem Renders.ledBy {lead text : String} {body : Phrase} (absent : '\n' ∉ lead.toList)
    (inner : body.Renders profile text) :
    (ledBy lead body).Renders profile (if text.isEmpty then "" else lead ++ text) where
  fixed written same := by
    simp only [fixedText?] at same
    obtain ⟨bodyText, bodyFixed, rfl⟩ := Option.map_eq_some_iff.mp same
    rw [inner.fixed bodyText bodyFixed]
  marked none := by
    have bodyOpen : body.fixedText? profile = .none := by simpa [fixedText?] using none
    obtain ⟨c, mark, member⟩ := inner.marked bodyOpen
    refine ⟨c, mark, ?_⟩
    split
    case isTrue blank =>
      rw [String.isEmpty_iff.mp blank] at member
      exact absurd member List.not_mem_nil
    case isFalse => simp [String.toList_append, member]
  lines := by
    rw [breaksLine, ← inner.lines]
    split
    case isTrue blank => simp [String.isEmpty_iff.mp blank]
    case isFalse => simp [String.toList_append, absent]

theorem Renders.byConvention {enforced otherwise : Phrase} {text : String}
    (inner : (if profile.enforce then enforced else otherwise).Renders profile text) :
    (byConvention enforced otherwise).Renders profile text := by
  have sameText : (Phrase.byConvention enforced otherwise).fixedText? profile =
      (if profile.enforce then enforced else otherwise).fixedText? profile := by
    rw [fixedText?]
    split <;> rfl
  have sameLines : (Phrase.byConvention enforced otherwise).breaksLine profile =
      (if profile.enforce then enforced else otherwise).breaksLine profile := by
    rw [breaksLine]
    split <;> rfl
  exact ⟨by rw [sameText]; exact inner.fixed, by rw [sameText]; exact inner.marked,
    by rw [sameLines]; exact inner.lines⟩

/-- The idiom that a run finds for the callee is the one that the tree says. -/
theorem Renders.idiom? {callee : Phrase} {text : String} (called : callee.Renders profile text)
    (count : Nat) : callee.idiom? profile count = (Idiom.find? text).filter (·.arity ≤ count) := by
  unfold Phrase.idiom?
  cases fixed : callee.fixedText? profile with
  | none =>
      -- whatever the run wrote has a character that no callee of an idiom has
      obtain ⟨c, mark, member⟩ := called.marked fixed
      rw [Idiom.find?_eq_none_of_mark mark member]
      rfl
  | some written =>
      rw [called.fixed written fixed]
      rfl

theorem meets_callText_lines {depth : Int} {callee : Phrase} {parts : List Phrase} {text : String}
    {arguments : RunM (List String)} (called : callee.Renders profile text)
    (given : RunM.Meets (fun _ => True) arguments fun texts =>
      (∃ argument ∈ texts, '\n' ∈ argument.toList) ↔ anyBreaksLine profile parts = true) :
    RunM.Meets (fun _ => True) (callText profile depth text parts.length arguments)
      ((call callee parts).Renders profile) := by
  have agreed := called.idiom? parts.length
  -- a call that stays a call has the lines of its callee and of its arguments
  have plain : callee.idiom? profile parts.length = none → ∀ texts : List String,
      ((∃ argument ∈ texts, '\n' ∈ argument.toList) ↔ anyBreaksLine profile parts = true) →
      (call callee parts).Renders profile (text ++ "(" ++ ", ".intercalate texts ++ ")") := by
    intro noIdiom texts lines
    refine .of_mark (c := '(') rfl (by decide) (by simp [String.toList_append]) ?_
    have listed : '\n' ∈ (", ".intercalate texts).toList ↔ anyBreaksLine profile parts = true :=
      (mem_intercalate (by decide) texts).trans lines
    have opening : '\n' ∉ ("(" : String).toList := by decide
    have closing : '\n' ∉ (")" : String).toList := by decide
    simp only [String.toList_append, List.mem_append, listed, called.lines, opening, closing,
      or_false, breaksLine, noIdiom, Option.isSome_none, Bool.false_or, Bool.or_eq_true]
  unfold callText
  split
  case h_1 absent =>
    rw [absent] at agreed
    exact given.bind fun texts lines => RunM.meets_pure (plain agreed texts lines)
  case h_2 idiom found =>
    rw [found] at agreed
    have listed : idiom ∈ Idiom.all := List.mem_of_find?_eq_some found
    split
    case isTrue enough =>
      refine (RunM.meets_touch _).bind fun _ _ => ?_
      refine (RunM.meets_nextTemp _).bind fun holder _ => ?_
      refine given.bind fun texts _ => RunM.meets_pure ?_
      have broken := Idiom.newline_mem_expand listed (indentation depth) holder texts
      refine .of_mark rfl (by decide) broken ?_
      rw [breaksLine, agreed]
      simp [broken, enough]
    case isFalse few =>
      have noIdiom : callee.idiom? profile parts.length = none := by
        rw [agreed]
        simpa using few
      refine (RunM.meets_note _ _).bind fun _ _ => ?_
      exact given.bind fun texts lines => RunM.meets_pure (plain noIdiom texts lines)

theorem meets_join_lines {depth : Int} {parts : List Phrase}
    (each : ∀ part ∈ parts, RunM.Meets (fun _ => True) (part.render profile depth)
      (part.Renders profile)) :
    RunM.Meets (fun _ => True) ((join parts).render profile depth)
      ((join parts).Renders profile) := by
  induction parts with
  | nil =>
      rw [render_join_nil]
      exact RunM.meets_pure (.of_fixed rfl rfl (by decide))
  | cons part rest ih =>
      rw [render_join_cons]
      refine (each part List.mem_cons_self).bind fun first here => ?_
      refine (ih fun other member => each other (List.mem_cons_of_mem _ member)).bind ?_
      exact fun others later => RunM.meets_pure (here.cons later)

theorem meets_writeApart_lines {depth : Int} {parts : List Phrase}
    (each : ∀ part ∈ parts, RunM.Meets (fun _ => True) (part.render profile depth)
      (part.Renders profile)) :
    RunM.Meets (fun _ => True) (writeApart profile depth parts) fun texts =>
      (∃ text ∈ texts, '\n' ∈ text.toList) ↔ anyBreaksLine profile parts = true := by
  induction parts with
  | nil => exact RunM.meets_pure (by simp [anyBreaksLine])
  | cons part rest ih =>
      rw [writeApart_cons]
      refine (each part List.mem_cons_self).bind fun first here => ?_
      refine (ih fun other member => each other (List.mem_cons_of_mem _ member)).bind ?_
      intro others later
      refine RunM.meets_pure ?_
      rw [anyBreaksLine, Bool.or_eq_true, ← here.lines, ← later]
      simp

/-- What a run writes for a phrase has a new line just if the phrase breaks its line, provided that
neither its words nor the map of types bring one. -/
theorem Within.render_lines {phrase : Phrase} (within : phrase.Within Wording.oneLine)
    (brings : profile.types.Brings (· ≠ '\n')) (depth : Int) :
    RunM.Meets (fun _ => True) (phrase.render profile depth) (phrase.Renders profile) := by
  have mapped : ∀ {source : String}, Wording.oneLine.holds source →
      '\n' ∉ (profile.types.map .body source).toList := by
    intro source absent member
    exact brings.map (fun c present same => absent (same ▸ present)) _ member rfl
  induction within with
  | text holds =>
      rw [render_text]
      exact RunM.meets_pure (.of_fixed rfl rfl holds)
  | type holds =>
      rw [render_type]
      refine (RunM.meets_mapType _ _ _).weaken fun text same => ?_
      rw [same]
      exact .of_fixed rfl rfl (mapped holds)
  | unimportedType holds =>
      rw [render_unimportedType]
      exact RunM.meets_pure (.of_fixed rfl rfl (mapped holds))
  | discard =>
      rw [render_discard]
      refine RunM.meets_nextDiscard.weaken fun name named => ?_
      obtain ⟨count, rfl⟩ := named
      have absent : '\n' ∉ ("_dummy_" ++ toString count).toList :=
        Wording.oneLine.numbered (by decide) count
      exact .of_mark (c := '_') rfl (by decide) (by simp [String.toList_append])
        (iff_of_false absent Bool.false_ne_true)
  | note entry =>
      rw [render_note]
      exact (RunM.meets_note _ _).map fun _ _ => .of_fixed rfl rfl (by decide)
  | newline =>
      rw [render_newline]
      have broken : '\n' ∈ ("\n" ++ indentation depth).toList := by simp [String.toList_append]
      exact RunM.meets_pure (.of_mark rfl (by decide) broken (iff_of_true broken rfl))
  | join each ih => exact meets_join_lines ih
  | ledBy holds inner ih =>
      rw [render_ledBy]
      exact ih.map fun text renders => renders.ledBy holds
  | byConvention first second ihFirst ihSecond =>
      rw [render_byConvention]
      split
      case isTrue enforced =>
        exact ihFirst.weaken fun text renders => .byConvention (by rwa [if_pos enforced])
      case isFalse free =>
        exact ihSecond.weaken fun text renders => .byConvention (by rwa [if_neg free])
  | call called each ihCallee ihArguments =>
      rw [render_call]
      exact ihCallee.bind fun text renders =>
        meets_callText_lines renders (meets_writeApart_lines ihArguments)
  | memberWithoutName =>
      rw [render_memberWithoutName]
      exact RunM.meets_throw trivial

end Phrase

end SharpToJava
