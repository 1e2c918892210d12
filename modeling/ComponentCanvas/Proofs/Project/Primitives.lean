import ComponentCanvas.Project.Primitives

/-!
# Exported Primitives

The primitives module exports a function for each atom, those that are known by name and all others
alike: every implementation opens with its parameters.
-/

namespace ComponentCanvas.Project

/-- Whether a text has a line that opens with the export of a function of a name. -/
def ExportsFunction (text name : String) : Prop :=
  ∃ before after, text = before ++ ("export function " ++ name ++ "(" ++ after) ∧
    (before = "" ∨ ∃ above, before = above ++ "\n")

variable {text name atom : String}

theorem ExportsFunction.append_right (h : ExportsFunction text name) (more : String) :
    ExportsFunction (text ++ more) name := by
  obtain ⟨before, after, rfl, hbefore⟩ := h
  exact ⟨before, after ++ more, by simp only [String.append_assoc], hbefore⟩

theorem ExportsFunction.append_left (h : ExportsFunction text name) (above : String) :
    ExportsFunction (above ++ "\n\n" ++ text) name := by
  obtain ⟨before, after, rfl, hbefore⟩ := h
  refine ⟨above ++ "\n\n" ++ before, after, by simp only [String.append_assoc], .inr ?_⟩
  rcases hbefore with rfl | ⟨rest, rfl⟩
  · exact ⟨above ++ "\n", by simp only [String.append_empty, String.append_assoc]; rfl⟩
  · exact ⟨above ++ "\n\n" ++ rest, by simp only [String.append_assoc]⟩

/-- The implementation of an atom is one of those that are listed. -/
theorem atomBody_mem (atom : String) : atomBody atom ∈ plainAtom :: knownAtoms.map Prod.snd := by
  rw [atomBody]
  cases hknown : knownAtoms.lookup atom with
  | none => exact List.mem_cons_self ..
  | some body =>
    obtain ⟨front, back, heq, -⟩ := List.lookup_eq_some_iff.mp hknown
    exact List.mem_cons_of_mem _ (List.mem_map.mpr ⟨(atom, body), by simp [heq], rfl⟩)

/-- Every implementation opens with its parameters. -/
theorem exists_atomBody (atom : String) :
    ∃ params body, atomBody atom = ("(" ++ params) :: body := by
  -- the bodies of all primitive elements open with the list of parameters
  have hall : (plainAtom :: knownAtoms.map Prod.snd).all
      (fun body => (body.head?.bind (·.toList.head?)) == some '(') = true := by decide +kernel
  have hbody := eq_of_beq (List.all_eq_true.mp hall _ (atomBody_mem atom))
  obtain ⟨first, hfirst, hopen⟩ := Option.bind_eq_some_iff.mp hbody
  obtain ⟨body, hbody⟩ := List.head?_eq_some_iff.mp hfirst
  obtain ⟨params, hparams⟩ := List.head?_eq_some_iff.mp hopen
  have hfirst : first = "(" ++ String.ofList params :=
    String.toList_inj.mp (by simp [hparams])
  exact ⟨String.ofList params, body, hfirst ▸ hbody⟩

theorem exportsFunction_atomText (atom : String) : ExportsFunction (atomText atom) atom := by
  obtain ⟨params, body, hbody⟩ := exists_atomBody atom
  refine ⟨"", "\n".intercalate (params :: body), ?_, .inl rfl⟩
  show "export function " ++ atom ++ "\n".intercalate (atomBody atom) = _
  simp only [hbody, String.intercalate_cons_append, String.empty_append, String.append_assoc]

/-- The primitives module exports a function for each atom. -/
theorem exportsFunction_primitivesModule {atoms : List String} (h : atom ∈ atoms) :
    ExportsFunction (primitivesModule atoms) atom := by
  refine ExportsFunction.append_right ?_ "\n"
  induction atoms with
  | nil => cases h
  | cons first rest ih =>
    -- the functions stand one behind the other, with a blank line between them
    cases rest with
    | nil =>
      obtain rfl := List.mem_singleton.mp h
      simpa using exportsFunction_atomText atom
    | cons second rest =>
      rw [List.map_cons, List.map_cons, String.intercalate_cons_cons]
      rcases List.mem_cons.mp h with rfl | h
      · rw [String.append_assoc]
        exact (exportsFunction_atomText atom).append_right _
      · exact (ih h).append_left (atomText first)

end ComponentCanvas.Project
