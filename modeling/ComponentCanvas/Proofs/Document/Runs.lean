import ComponentCanvas.Proofs.Document
import ComponentCanvas.Proofs.Project.Instances

/-!
# Runs of Edits

What holds of a document that a run of edits has made from an empty one, of the identifiers that
were given out on the way, of what is done with it next, and of its export.
-/

namespace ComponentCanvas.Document

/-- Whether an export fails with the path of a null that stands inside a property of an instance,
which is not null itself. -/
def NamesInnerNull (document : Document) (e : ExportError) (path : String) : Prop :=
  ∃ placed key value inner, (e.id, placed) ∈ document.instances ∧
    (key, value) ∈ placed.properties ∧ value ≠ .null ∧
    Property.writeAt "" value = .error (.nullValue inner) ∧ path = Property.pathBelow key inner

/-- Where no property is null, an export that fails for a null names one inside a property. -/
theorem Sound.namesInnerNull {document : Document} (h : document.Sound) {catalog : Catalog}
    {registry : Registry} {config : Config} {e : ExportError} {path : String}
    (hexport : Project.synthesize document catalog registry config = .error e)
    (hcause : e.cause = .nullValue path) : document.NamesInnerNull e path := by
  rw [Project.synthesize_eq_error] at hexport
  obtain ⟨before, placed, after, hinstances, -, -, component, -, hmarkup⟩ := hexport
  have hmem : (e.id, placed) ∈ document.instances := by simp [hinstances]
  rw [hcause, Property.markup_eq_error] at hmarkup
  -- the line of the instance fails at a name or in a value, and only a value can hold a null
  rcases Property.exists_of_attributesChars_eq_error hmarkup with
    ⟨_, -, -, hname⟩ | ⟨⟨key, value⟩, hproperty, cause, hwrite, hbelow⟩
  · cases hname
  · cases cause with
    | invalidAttributeName name => cases hbelow
    | nullValue inner =>
      exact ⟨placed, key, value, inner, hmem, hproperty, h.noneNull _ hmem _ hproperty, hwrite,
        Property.WriteError.nullValue.inj hbelow⟩

/-- What holds of a document that edits have made from an empty one, and of what they gave back. -/
structure Consistent (edits : List Edit) (document : Document) (returned : List Returned) :
    Prop where
  /-- The identifiers that are listed ascend. -/
  ascending : (document.ids.map (·.number)).Pairwise (· < ·)
  /-- The identifiers that were given out are numbered from one on, so none is given out twice. -/
  given : addedIds returned = (List.range' 1 (edits.countP Edit.isAdd)).map InstanceId.mk
  nodup : (addedIds returned).Nodup
  /-- The instances are the additions in their order without those that are ended later, each with
  the changes that were made to it and no others. -/
  listing : document.instances = survivors 0 edits
  noneNull : ∀ entry ∈ document.instances, NoneNull entry.2.properties
  /-- An identifier that was given out is unknown for good once its instance is ended. -/
  spent : ∀ id ∈ addedIds returned, ∀ ending : Edit, ending.ends id = true → ∀ later,
    ((document.edit ending).1.run later).1.get? id = none
  /-- An edit fails exactly if it is about an instance that is unknown, and then changes nothing. -/
  failed : ∀ e error, (document.edit e).2 = .failed error ↔
    ∃ id, e.target? = some id ∧ document.get? id = none ∧
      document.edit e = (document, .failed (.unknownInstance id)) ∧ error = .unknownInstance id
  /-- An edit of one instance changes no other one. -/
  others : ∀ e id, e.target? = some id →
    (document.edit e).1.instances.filter (·.1 != id) = document.instances.filter (·.1 != id)
  /-- An edit keeps the order of the identifiers that it does not end. -/
  order : ∀ e id, e.target? = some id →
    (document.edit e).1.ids = document.ids.filter fun other => !e.ends other
  /-- An export that fails for a null names one inside a property that is not null itself. -/
  exported : ∀ catalog registry config e path,
    Project.synthesize document catalog registry config = .error e → e.cause = .nullValue path →
      document.NamesInnerNull e path

/-- Whatever edits are made to an empty document, it stays consistent. -/
theorem run_consistent (edits : List Edit) :
    Consistent edits (run {} edits).1 (run {} edits).2 := by
  have hsound : (run {} edits).1.Sound := sound_empty.run edits
  have hgiven : addedIds (run {} edits).2 =
      (List.range' 1 (edits.countP Edit.isAdd)).map InstanceId.mk := addedIds_run {} edits
  exact {
    ascending := hsound.ascending
    given := hgiven
    nodup := by
      rw [hgiven]
      exact (List.nodup_range' ..).map fun _ _ => InstanceId.mk.inj
    -- what stays of the instances and what is added are told edit by edit
    listing := instances_run {} edits
    noneNull := hsound.noneNull
    spent := by
      intro id hid ending hends later
      rw [hgiven, List.mem_map] at hid
      -- the ids that were given are numbered up to the last one
      obtain ⟨n, hn, rfl⟩ := hid
      have hlast : n ≤ (run {} edits).1.lastNumber := by
        rw [lastNumber_run]
        have := List.mem_range'_1.mp hn
        show n ≤ 0 + _
        omega
      exact get?_eq_none.mpr ((spent_of_ends hends hlast).run later).2
    failed := by
      intro e error
      -- a failing edit leaves the document as it was
      rw [edit_failed_iff]
      refine exists_congr fun id => and_congr_right fun htarget => and_congr_right fun hget => ?_
      exact (and_iff_right (edit_of_unknown htarget hget)).symm
    others := fun e id htarget => filter_ne_edit htarget
    order := by
      intro e id htarget
      rw [ids_edit, Edit.additions_of_target htarget, List.map_nil, List.append_nil]
    exported := fun _ _ _ _ _ => hsound.namesInnerNull }

end ComponentCanvas.Document
