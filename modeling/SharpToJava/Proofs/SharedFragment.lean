import SharpToJava.Proofs.Layout.Position

/-!
An expression in a fragment that others write to as well. Some rules hand their fragment on to the
parts of an expression, others write the parts apart and append what comes out. Both come to the
same: the fragment keeps its depth and what it holds, and gets the text of the expression behind it.

Whether a line has just begun is read off the last piece of a fragment. That is enough because no
empty piece is ever appended.
-/

namespace SharpToJava

namespace Fragment

/-- How a fragment comes about: it starts empty, and then texts are appended and its depth moves. -/
inductive Built : Fragment → Prop
  | new (depth : Int) : Built { depth }
  | append {fragment : Fragment} (built : fragment.Built) (text : String) :
      Built (fragment.append text)
  | shift {fragment : Fragment} (built : fragment.Built) (levels : Int) :
      Built (fragment.shift levels)

/-- The end of a text is that of its last part, if that part is not empty. -/
theorem endsLine_append_of_ne_empty (first : String) {second : String} (filled : second ≠ "") :
    endsLine (first ++ second) = endsLine second := by
  obtain ⟨c, last⟩ := Option.ne_none_iff_exists'.mp
    (mt List.getLast?_eq_none_iff.mp (mt String.toList_eq_nil_iff.mp filled))
  rw [endsLine, endsLine, String.toList_append, List.getLast?_append, last]
  rfl

/-- The last piece tells whether the text is at the start of a line. -/
def ShowsLineStart (fragment : Fragment) : Prop :=
  fragment.atLineStart = true ↔ fragment.text = "" ∨ endsLine fragment.text = true

theorem showsLineStart_append (fragment : Fragment) {text : String} (filled : text ≠ "") :
    (fragment.append text).ShowsLineStart := by
  have stored : ¬ text.isEmpty = true := fun empty => filled (String.isEmpty_iff.mp empty)
  have last : (fragment.append text).atLineStart = endsLine text := by
    rw [append, if_neg stored, atLineStart, Array.back?_push]
  have grown : fragment.text ++ text ≠ "" := by simp [filled]
  rw [ShowsLineStart, last, text_append, endsLine_append_of_ne_empty _ filled, or_iff_right grown]

namespace Built

variable {fragment other : Fragment}

theorem showsLineStart (built : fragment.Built) : fragment.ShowsLineStart := by
  induction built with
  | new depth => exact ⟨fun _ => .inl rfl, fun _ => rfl⟩
  | append _ text ih =>
      by_cases empty : text = ""
      · subst empty
        exact ih
      · exact showsLineStart_append _ empty
  | shift _ levels ih => exact ih

theorem absorb (built : fragment.Built) (more : other.Built) : (fragment.absorb other).Built := by
  induction more with
  | new depth => rwa [absorb_empty]
  | append _ text ih =>
      rw [← absorb_append]
      exact ih.append text
  | shift _ levels ih => exact ih

/-- Once something is written, it no longer matters what the fragment held before. -/
theorem showsLineStart_absorb (more : other.Built) (filled : other.text ≠ "") :
    (fragment.absorb other).ShowsLineStart := by
  induction more with
  | new depth => exact absurd rfl filled
  | @append other _ text ih =>
      by_cases empty : text = ""
      · subst empty
        exact ih filled
      · rw [← absorb_append]
        exact showsLineStart_append _ empty
  | shift _ levels ih => exact ih filled

end Built

end Fragment

namespace Phrase

variable (profile : Profile)

mutual
/-- Writing a phrase goes on building the fragment. -/
theorem built_writeTo : ∀ (phrase : Phrase) {fragment : Fragment}, fragment.Built →
    (phrase.writeTo profile fragment).Gives Fragment.Built
  | .text written, fragment, built => by
    simp only [writeTo]
    exact RunM.gives_pure (built.append written)
  | .type source, fragment, built => by
    simp only [writeTo]
    exact RunM.gives_bind fun name => RunM.gives_pure (built.append name)
  | .unimportedType source, fragment, built => by
    simp only [writeTo]
    exact RunM.gives_pure (built.append _)
  | .discard, fragment, built => by
    simp only [writeTo]
    exact RunM.gives_bind fun name => RunM.gives_pure (built.append name)
  | .note entry, fragment, built => by
    simp only [writeTo]
    exact RunM.gives_bind fun _ => RunM.gives_pure built
  | .newline, fragment, built => by
    simp only [writeTo]
    exact RunM.gives_pure ((built.append "\n").append fragment.indent)
  | .join parts, fragment, built => by
    simp only [writeTo]
    exact built_writeAllTo parts built
  | .ledBy lead body, fragment, built => by
    simp only [writeTo]
    refine RunM.gives_bind fun written => RunM.gives_pure ?_
    split
    · exact built
    · exact built.append _
  | .byConvention enforced otherwise, fragment, built => by
    simp only [writeTo]
    split
    · exact built_writeTo enforced built
    · exact built_writeTo otherwise built
  | .call callee arguments, fragment, built => by
    simp only [writeTo]
    exact RunM.gives_bind fun _ => RunM.gives_bind fun text => RunM.gives_pure (built.append text)
  | .memberWithoutName, fragment, built => by
    simp only [writeTo]
    exact RunM.gives_throw _

theorem built_writeAllTo : ∀ (phrases : List Phrase) {fragment : Fragment}, fragment.Built →
    (writeAllTo profile phrases fragment).Gives Fragment.Built
  | [], fragment, built => by
    simp only [writeAllTo]
    exact RunM.gives_pure built
  | phrase :: rest, fragment, built => by
    simp only [writeAllTo]
    exact (built_writeTo phrase built).bind fun between more => built_writeAllTo rest more
end

end Phrase

/-- Writing an expression into a fragment is rendering it apart and putting the text behind what is
there: both runs fail with the same fault or leave the same journal. The fragment keeps its depth,
and it is still built as fragments are. Its last piece tells where its text ends, even if that was
not so before, unless nothing is written. -/
theorem expression_into_fragment (place : Place) (profile : Profile) (fragment : Fragment) :
    RunM.InStep
      (fun text written =>
        written.depth = fragment.depth ∧ written.text = fragment.text ++ text ∧
        (fragment.Built → written.Built) ∧ (fragment.Built ∨ text ≠ "" → written.ShowsLineStart))
      (place.expression profile fragment.depth) (place.phrase.writeTo profile fragment) := by
  have apart := Phrase.built_writeTo profile place.phrase (.new fragment.depth)
  rw [Place.expression, Phrase.render_eq_map, Phrase.writeTo_eq_absorb profile _ fragment]
  refine apart.inStep_map fun written more =>
    ⟨rfl, Fragment.text_absorb _ _, fun built => built.absorb more, fun known => ?_⟩
  cases known with
  | inl built => exact (built.absorb more).showsLineStart
  | inr filled => exact more.showsLineStart_absorb filled

/-- `new Point { x = Next(_) }`, the value of a variable `p`. -/
def Place.pointWithMember : Place where
  node := .mk { kind := .objectCreation } [
    .node (.mk { kind := .identifierName, role := some "type" }
      [.token { kind := .identifier, text := "Point" }]),
    .node (.mk { kind := .objectInitializer } [
      .node (.mk { kind := .assignment } [
        .node (.mk { kind := .identifierName } [.token { kind := .identifier, text := "x" }]),
        .token { kind := .equals, text := "=" },
        .node (.mk { kind := .invocation } [
          .node (.mk { kind := .identifierName } [.token { kind := .identifier, text := "Next" }]),
          .node (.mk { kind := .argumentList } [
            .node (.mk { kind := .argument } [.node (.mk { kind := .identifierName }
              [.token { kind := .identifier, text := "_" }])])])])])])]
  above := [
    .mk { kind := .equalsValueClause } [],
    .mk { kind := .variableDeclarator } [.token { kind := .identifier, text := "p" }]]

theorem expression_into_fragment_pointWithMember :
    ∃ written after,
      (Place.pointWithMember.expression (Profile.java true) 1).run Journal.java =
        .ok "new Point();\n\tp.x = Next(_dummy_0)" after ∧
      (Place.pointWithMember.phrase.writeTo (Profile.java true)
        (({ depth := 1 } : Fragment).append "\tPoint p = ")).run Journal.java = .ok written after ∧
      written.text = "\tPoint p = new Point();\n\tp.x = Next(_dummy_0)" ∧
      written.atLineStart = false := by
  have started : (({ depth := 1 } : Fragment).append "\tPoint p = ").Built := .append (.new 1) _
  obtain ⟨after, apart⟩ : ∃ after, (Place.pointWithMember.expression (Profile.java true) 1).run
      Journal.java = .ok "new Point();\n\tp.x = Next(_dummy_0)" after :=
    RunM.exists_of_result? (by decide +kernel)
  obtain ⟨written, wrote, -, whole, -, shown⟩ := (expression_into_fragment Place.pointWithMember
    (Profile.java true) (({ depth := 1 } : Fragment).append "\tPoint p = ")).of_ok apart
  have spelled : written.text = "\tPoint p = new Point();\n\tp.x = Next(_dummy_0)" := whole
  refine ⟨written, after, apart, wrote, spelled, ?_⟩
  have ends := shown (.inl started)
  rw [Fragment.ShowsLineStart, spelled] at ends
  rw [Bool.eq_false_iff, Ne, ends]
  decide

end SharpToJava
