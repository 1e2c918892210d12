import ComponentCanvas.Proofs.Text.Pieces
import ComponentCanvas.Proofs.Text.UpperCase
import ComponentCanvas.TypeId

/-!
# Canonical Types

The canonical form is its own canonical form: it holds no separator, so it is one word, and it
opens with a letter that is in upper case already.
-/

namespace ComponentCanvas.TypeId

open Text (isBlank upperChar trim splitBy)

/-! ## Separators -/

/-- The code points of the separators. -/
def separators : List Nat :=
  0x2D :: 0x5F :: Text.blankRanges.flatMap fun r => (⟨r.1, r.2, 1⟩ : Text.Stride).codes

/-- The tables raise no letter to a separator. -/
theorem separators_disjoint :
    Text.bits (Text.raisedHeads ++ Text.raisedTails) &&& Text.bits separators = 0 := by
  decide +kernel

/-- A separator has its code point in the list. -/
theorem mem_separators {c : Char} (h : isSeparator c = true) : c.toNat ∈ separators := by
  simp only [isSeparator, isBlank, Text.inRanges, Bool.or_eq_true, beq_iff_eq, List.any_eq_true,
    Bool.and_eq_true, decide_eq_true_eq] at h
  rcases h with (rfl | rfl) | ⟨r, hr, hlow, hhigh⟩
  · exact List.mem_cons_self ..
  · exact List.mem_cons_of_mem _ (List.mem_cons_self ..)
  · refine List.mem_cons_of_mem _ (List.mem_cons_of_mem _ (List.mem_flatMap.mpr ⟨r, hr, ?_⟩))
    exact Text.Stride.mem_codes (by simp [Text.Stride.covers, hlow, hhigh, Nat.mod_one])

theorem isBlank_eq_false {c : Char} (h : isSeparator c = false) : isBlank c = false := by
  simp only [isSeparator, Bool.or_eq_false_iff] at h
  exact h.2

/-- No letter becomes a separator in upper case. -/
theorem isSeparator_upperChar {c : Char} (h : isSeparator c = false) :
    ∀ d ∈ upperChar c, isSeparator d = false := by
  -- the tables are compared with the separators as sets of code points, once for all letters
  have hcode : ∀ n ∈ Text.raisedHeads ++ Text.raisedTails, isSeparator (Char.ofNat n) = false := by
    intro n hn
    have hvalid : n.isValidChar := by
      rcases List.mem_append.mp hn with hn | hn
      · exact Text.isValidChar_raisedHeads n hn
      · exact Text.isValidChar_raisedTails n hn
    rw [← Bool.not_eq_true]
    -- a separator would be in both tables
    intro hseparator
    have hmem := mem_separators hseparator
    rw [Char.toNat_ofNat, if_pos hvalid] at hmem
    exact Text.notMem_of_bits separators_disjoint hn hmem
  rcases Text.upperChar_cases c with heq | ⟨n, ns, hn, hns, heq⟩
  · simpa [heq] using h
  · rw [heq, List.forall_mem_cons]
    refine ⟨hcode n (List.mem_append_left _ hn), fun d hd => ?_⟩
    obtain ⟨m, hm, rfl⟩ := List.mem_map.mp hd
    exact hcode m (List.mem_append_right _ (hns m hm))

/-! ## Words -/

theorem mem_words {s word : List Char} (h : word ∈ words s) :
    word ≠ [] ∧ ∀ c ∈ word, isSeparator c = false := by
  obtain ⟨hpiece, hne⟩ := List.mem_filter.mp h
  exact ⟨by simpa using hne, Text.eq_false_of_mem_splitBy hpiece⟩

/-- A capital letter is no separator. -/
theorem isSeparator_capitalize {word : List Char} (h : ∀ c ∈ word, isSeparator c = false) :
    ∀ c ∈ capitalize word, isSeparator c = false := by
  cases word with
  | nil => simp [capitalize]
  | cons c rest =>
    rw [List.forall_mem_cons] at h
    rw [capitalize, List.forall_mem_append]
    exact ⟨isSeparator_upperChar h.1, h.2⟩

theorem isSeparator_canonicalChars (s : List Char) :
    ∀ c ∈ canonicalChars s, isSeparator c = false := by
  intro c hc
  obtain ⟨word, hword, hc⟩ := List.mem_flatMap.mp hc
  exact isSeparator_capitalize (mem_words hword).2 c hc

/-- A canonical form opens with a letter in upper case. -/
theorem upperChar_head_canonicalChars (s : List Char) :
    ∀ c ∈ (canonicalChars s).head?, upperChar c = [c] := by
  intro c hc
  rw [canonicalChars] at hc
  cases hwords : words s with
  | nil => simp [hwords] at hc
  -- the first letter is one that has been raised
  | cons word rest =>
    have hword : word ∈ words s := by simp [hwords]
    obtain ⟨hne, -⟩ := mem_words hword
    obtain ⟨first, letters, rfl⟩ := List.exists_cons_of_ne_nil hne
    obtain ⟨d, ds, hupper, hd⟩ := Text.upperChar_head first
    obtain rfl : d = c := by simpa [hwords, capitalize, hupper] using hc
    exact hd

/-! ## The canonical form -/

/-- A word that opens in upper case is its own canonical form. -/
theorem canonicalChars_eq_self {s : List Char} (h : ∀ c ∈ s, isSeparator c = false)
    (hhead : ∀ c ∈ s.head?, upperChar c = [c]) : canonicalChars s = s := by
  cases s with
  | nil => rfl
  -- without separators there is one word, and its first letter stays
  | cons c rest =>
    have htrim : trim (c :: rest) = c :: rest :=
      Text.trim_of_forall fun d hd => isBlank_eq_false (h d hd)
    have hwords : words (c :: rest) = [c :: rest] := by
      rw [words, htrim, Text.splitBy_eq_singleton h]
      rfl
    rw [canonicalChars, hwords, List.flatMap_singleton, capitalize, hhead c rfl,
      List.singleton_append]

/-- A name is in canonical form exactly if it is one word that opens with a letter in upper case. -/
theorem canonical_eq_self_iff {name : String} :
    canonical name = name ↔
      (∀ c ∈ name.toList, isSeparator c = false) ∧ ∀ c ∈ name.toList.head?, upperChar c = [c] := by
  constructor
  · intro h
    rw [← h, canonical, String.toList_ofList]
    exact ⟨isSeparator_canonicalChars _, upperChar_head_canonicalChars _⟩
  · rintro ⟨hword, hhead⟩
    rw [canonical, canonicalChars_eq_self hword hhead, String.ofList_toList]

/-- The canonical form is its own canonical form. -/
@[simp] theorem canonical_canonical (name : String) :
    canonical (canonical name) = canonical name := by
  rw [canonical_eq_self_iff, canonical, String.toList_ofList]
  exact ⟨isSeparator_canonicalChars _, upperChar_head_canonicalChars _⟩

/-- A canonical form is made of the characters of the trimmed name and of their upper case. -/
theorem exists_mem_of_mem_canonicalChars {s : List Char} {c : Char} (h : c ∈ canonicalChars s) :
    ∃ d ∈ trim s, c = d ∨ c ∈ upperChar d := by
  obtain ⟨word, hword, hc⟩ := List.mem_flatMap.mp h
  have hmem := Text.mem_of_mem_splitBy (List.mem_of_mem_filter hword)
  cases word with
  | nil => cases hc
  | cons first rest =>
    rcases List.mem_append.mp hc with hc | hc
    · exact ⟨first, hmem first (by simp), .inr hc⟩
    · exact ⟨c, hmem c (by simp [hc]), .inl rfl⟩

/-- The tables of the upper case have no slash. -/
theorem slash_notMem_raised : '/'.toNat ∉ Text.raisedHeads ++ Text.raisedTails := by
  decide +kernel

/-- The canonical form of a name without a slash has none. -/
theorem slash_notMem_canonicalChars {s : List Char} (h : '/' ∉ trim s) :
    '/' ∉ canonicalChars s := by
  intro hmem
  obtain ⟨d, hd, heq | hupper⟩ := exists_mem_of_mem_canonicalChars hmem
  · exact h (heq ▸ hd)
  · refine Text.notMem_upperChar slash_notMem_raised ?_ hupper
    rintro rfl
    exact h hd

/-- A type in canonical form has no blanks around it. -/
theorem trimmed_of_canonical {typeId : String} (h : canonical typeId = typeId) :
    Text.trimmed typeId = typeId := by
  have hword := (canonical_eq_self_iff.mp h).1
  rw [Text.trimmed, Text.trim_of_forall fun c hc => isBlank_eq_false (hword c hc),
    String.ofList_toList]

/-- The canonical form of any name is its own canonical form and holds no blank, hyphen or
underscore; and every name of one word that opens with a letter in upper case is the canonical form
of some name, namely its own. -/
theorem canonical_fixed_point (name : String) :
    canonical (canonical name) = canonical name ∧
    (∀ c ∈ (canonical name).toList, isBlank c = false ∧ c ≠ '-' ∧ c ≠ '_') ∧
    (canonical name = name ↔
      (∀ c ∈ name.toList, isBlank c = false ∧ c ≠ '-' ∧ c ≠ '_') ∧
        ∀ c ∈ name.toList.head?, upperChar c = [c]) := by
  have hplain {c : Char} :
      isSeparator c = false ↔ isBlank c = false ∧ c ≠ '-' ∧ c ≠ '_' := by
    simp only [isSeparator, Bool.or_eq_false_iff, beq_eq_false_iff_ne]
    tauto
  refine ⟨canonical_canonical name, fun c hc => ?_, ?_⟩
  · rw [canonical, String.toList_ofList] at hc
    exact hplain.mp (isSeparator_canonicalChars _ c hc)
  · simp only [canonical_eq_self_iff, hplain]

end ComponentCanvas.TypeId
