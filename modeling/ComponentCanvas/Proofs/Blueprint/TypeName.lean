import ComponentCanvas.Proofs.Blueprint.Compilation
import ComponentCanvas.Proofs.Script.Names
import ComponentCanvas.Proofs.TypeId
import ComponentCanvas.Proofs.Validation

/-!
# Names of Compiled Types

A source is compiled under a type only if it declares a factory with the name of the type, as it is
written or in canonical form.  A declared name is a word, so the type of a compiled component holds
no slash: it names a file and no directory.
-/

namespace ComponentCanvas

open Script (IsWord Program)

/-- A factory has a name that the script declares. -/
theorem Factory.isWord_of_mem {program : Program} {factory : Factory}
    (hprogram : ∀ s ∈ program.body, s.Proper) (h : factory ∈ Factory.ofProgram program) :
    IsWord factory.name := by
  -- a candidate has the name of the function it comes from
  have hname : ∀ {n span f}, factory ∈ ofFunction? n span f → factory.name = n := by
    intro n span f hf
    rw [ofFunction?] at hf
    split at hf
    · obtain rfl := Option.some.inj hf
      rfl
    · cases hf
  -- the name stands in the statement that declares the function, where the parser has read it
  obtain ⟨s, hs, hfactory⟩ := List.mem_flatMap.mp h
  refine hprogram s hs _ ?_
  cases s with
  | function f =>
    obtain ⟨span, n, types, params, returns, hasBody, body⟩ := f
    cases n with
    | none => cases hfactory
    | some n =>
      rw [hname (Option.mem_toList.mp hfactory)]
      exact List.mem_singleton_self n
  | vars reach binders =>
    obtain ⟨b, hb, hfactory⟩ := List.mem_filterMap.mp hfactory
    refine List.mem_filterMap.mpr ⟨b, hb, ?_⟩
    unfold ofBinder? at hfactory
    split at hfactory
    · next span rest decorators n types e =>
      obtain ⟨f, -, hf⟩ := Option.bind_eq_some_iff.mp hfactory
      rw [hname hf]
      rfl
    · cases hfactory
  | _ => cases hfactory

namespace Blueprint

variable {typeId source : String} {scope : Scope} {b : Blueprint}

/-- A word holds no slash. -/
theorem slash_notMem_of_isWord {name : String} (h : IsWord name) : '/' ∉ name.toList :=
  fun hslash => absurd (h _ hslash) (by decide +kernel)

/-- The type of a compiled component holds no slash. -/
theorem slash_notMem_typeId (h : compile typeId source scope = .ok b) : '/' ∉ b.typeId.toList := by
  rw [typeId_of_compile h]
  obtain ⟨-, -, program, validated, hread, hvalidated, -⟩ := compile_eq_ok.mp h
  obtain ⟨factory, hfactory, -⟩ := exists_factory_of_validate hvalidated
  have hlocated : factory ∈ (Factory.ofProgram program).filter (Validation.hasNameOf typeId) :=
    Validation.filter_hasNameOf hfactory ▸ List.mem_singleton_self factory
  obtain ⟨hmem, hname⟩ := List.mem_filter.mp hlocated
  have hslash := slash_notMem_of_isWord (Factory.isWord_of_mem (Program.proper_of_read hread) hmem)
  -- the factory is named like the type as it is written or like its canonical form
  rw [Validation.hasNameOf, Bool.or_eq_true, beq_iff_eq, beq_iff_eq] at hname
  rcases hname with heq | heq
  · -- the name is that of the type as it is written, so its canonical form is made of it
    rw [heq, Text.trimmed, String.toList_ofList] at hslash
    rw [TypeId.canonical, String.toList_ofList]
    exact TypeId.slash_notMem_canonicalChars hslash
  · rwa [heq] at hslash

end Blueprint

end ComponentCanvas
