import SharpToJava.Phrase.Basic

/-!
Writing a phrase at the end of a fragment is rendering it apart and appending the pieces. So the
text of a phrase can be computed from the texts of its parts, one equation per form, and nothing
else needs to look into a fragment.
-/

namespace SharpToJava

namespace Fragment

/-- The fragment with the pieces of another one behind its own. -/
def absorb (fragment other : Fragment) : Fragment :=
  { fragment with parts := fragment.parts ++ other.parts }

@[simp] theorem text_empty (depth : Int) : ({ depth } : Fragment).text = "" := rfl

@[simp] theorem text_absorb (fragment other : Fragment) :
    (fragment.absorb other).text = fragment.text ++ other.text := by
  simp [absorb, text]

@[simp] theorem text_append (fragment : Fragment) (added : String) :
    (fragment.append added).text = fragment.text ++ added := by
  unfold append
  split
  · rename_i blank
    rw [String.isEmpty_iff.mp blank, String.append_empty]
  · simp [text]

@[simp] theorem text_shift (fragment : Fragment) (levels : Int) :
    (fragment.shift levels).text = fragment.text := rfl

theorem append_eq_absorb (fragment : Fragment) (text : String) :
    fragment.append text = fragment.absorb (({ depth := fragment.depth } : Fragment).append text) := by
  unfold append
  split <;> simp [absorb]

theorem absorb_append (fragment other : Fragment) (text : String) :
    (fragment.absorb other).append text = fragment.absorb (other.append text) := by
  unfold append
  split <;> simp [absorb]

theorem absorb_absorb (first second third : Fragment) :
    (first.absorb second).absorb third = first.absorb (second.absorb third) := by
  simp [absorb]

@[simp] theorem absorb_empty (fragment : Fragment) (depth : Int) :
    fragment.absorb { depth } = fragment := by
  simp [absorb]

end Fragment

namespace Phrase

variable (profile : Profile)

mutual
theorem writeTo_eq_absorb : ∀ (phrase : Phrase) (fragment : Fragment),
    phrase.writeTo profile fragment =
      fragment.absorb <$> phrase.writeTo profile { depth := fragment.depth }
  | .text written, fragment => by
    simp only [writeTo, map_pure]
    rw [← Fragment.append_eq_absorb]
  | .type source, fragment => by
    simp only [writeTo, map_bind, map_pure, ← Fragment.append_eq_absorb]
  | .unimportedType source, fragment => by
    simp only [writeTo, map_pure, ← Fragment.append_eq_absorb]
  | .discard, fragment => by
    simp only [writeTo, map_bind, map_pure, ← Fragment.append_eq_absorb]
  | .note entry, fragment => by
    simp only [writeTo, map_bind, map_pure, Fragment.absorb_empty]
  | .newline, fragment => by
    simp only [writeTo, map_pure, ← Fragment.absorb_append, Fragment.absorb_empty, Fragment.indent]
  | .join parts, fragment => by
    simpa only [writeTo] using writeAllTo_eq_absorb parts fragment
  | .ledBy lead body, fragment => by
    simp only [writeTo, map_bind, map_pure]
    congr 1
    funext written
    split
    · simp
    · rw [← Fragment.append_eq_absorb]
  | .byConvention enforced otherwise, fragment => by
    simp only [writeTo]
    split
    · exact writeTo_eq_absorb enforced fragment
    · exact writeTo_eq_absorb otherwise fragment
  | .call callee arguments, fragment => by
    simp only [writeTo, map_bind, map_pure, ← Fragment.append_eq_absorb]
  | .memberWithoutName, fragment => by
    simp only [writeTo]
    rfl

theorem writeAllTo_eq_absorb : ∀ (phrases : List Phrase) (fragment : Fragment),
    writeAllTo profile phrases fragment =
      fragment.absorb <$> writeAllTo profile phrases { depth := fragment.depth }
  | [], fragment => by simp [writeAllTo]
  | phrase :: rest, fragment => by
    -- both sides write the first phrase apart and then the rest behind it
    have later : ∀ written : Fragment, writeAllTo profile rest (fragment.absorb written) =
        (fragment.absorb written).absorb <$>
          writeAllTo profile rest { depth := fragment.depth } :=
      fun written => writeAllTo_eq_absorb rest (fragment.absorb written)
    have apart : ∀ written : Fragment,
        writeAllTo profile rest (({ depth := fragment.depth } : Fragment).absorb written) =
          (({ depth := fragment.depth } : Fragment).absorb written).absorb <$>
            writeAllTo profile rest { depth := fragment.depth } :=
      fun written => writeAllTo_eq_absorb rest (Fragment.absorb { depth := fragment.depth } written)
    simp only [writeAllTo]
    rw [writeTo_eq_absorb phrase fragment, writeTo_eq_absorb phrase { depth := fragment.depth }]
    simp only [bind_map_left, map_bind, later, apart, Functor.map_map]
    congr 1
    funext written
    congr 1
    funext more
    exact Fragment.absorb_absorb _ _ _
end

variable (depth : Int)

theorem render_eq_map (phrase : Phrase) :
    phrase.render profile depth = Fragment.text <$> phrase.writeTo profile { depth } := by
  simp only [render, map_eq_pure_bind]

@[simp] theorem render_text (written : String) :
    (text written).render profile depth = pure written := by
  simp [render_eq_map, writeTo]

@[simp] theorem render_type (source : String) :
    (type source).render profile depth = RunM.mapType profile .body source := by
  simp [render_eq_map, writeTo]

@[simp] theorem render_unimportedType (source : String) :
    (unimportedType source).render profile depth = pure (profile.types.map .body source) := by
  simp [render_eq_map, writeTo]

@[simp] theorem render_discard : discard.render profile depth = RunM.nextDiscard := by
  simp [render_eq_map, writeTo]

@[simp] theorem render_note (entry : Note) :
    (note entry).render profile depth = (fun _ => "") <$> RunM.note profile entry := by
  simp [render_eq_map, writeTo]

@[simp] theorem render_newline :
    newline.render profile depth = pure ("\n" ++ indentation depth) := by
  simp [render_eq_map, writeTo, Fragment.indent]

@[simp] theorem render_join_nil : (join []).render profile depth = pure "" := by
  simp [render_eq_map, writeTo, writeAllTo]

theorem render_join_cons (phrase : Phrase) (rest : List Phrase) :
    (join (phrase :: rest)).render profile depth = (do
      let first ← phrase.render profile depth
      let others ← (join rest).render profile depth
      return first ++ others) := by
  have behind : ∀ written : Fragment,
      writeAllTo profile rest (Fragment.absorb { depth } written) =
        (Fragment.absorb { depth } written).absorb <$> writeAllTo profile rest { depth } :=
    fun written => writeAllTo_eq_absorb profile rest (Fragment.absorb { depth } written)
  simp only [render_eq_map, writeTo, writeAllTo]
  rw [writeTo_eq_absorb profile phrase { depth }]
  simp [behind]

theorem render_ledBy (lead : String) (body : Phrase) :
    (ledBy lead body).render profile depth =
      (fun text => if text.isEmpty then "" else lead ++ text) <$> body.render profile depth := by
  simp only [render_eq_map, writeTo, map_bind, map_pure, Functor.map_map]
  rw [map_eq_pure_bind]
  refine bind_congr fun written => ?_
  split <;> simp

theorem render_byConvention (enforced otherwise : Phrase) :
    (byConvention enforced otherwise).render profile depth =
      if profile.enforce then enforced.render profile depth
      else otherwise.render profile depth := by
  simp only [render_eq_map, writeTo]
  split <;> rfl

theorem render_call (callee : Phrase) (arguments : List Phrase) :
    (call callee arguments).render profile depth = (do
      let text ← callee.render profile depth
      callText profile depth text arguments.length (writeApart profile depth arguments)) := by
  simp [render_eq_map, writeTo]

@[simp] theorem render_memberWithoutName :
    memberWithoutName.render profile depth = throw .memberWithoutName := rfl

theorem writeApart_cons (phrase : Phrase) (rest : List Phrase) :
    writeApart profile depth (phrase :: rest) = (do
      let text ← phrase.render profile depth
      let others ← writeApart profile depth rest
      return text :: others) := by
  simp [render_eq_map, writeApart]

end Phrase

end SharpToJava
