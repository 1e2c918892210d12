import ComponentCanvas.Proofs.Catalog.Discovery

/-!
# Hyphenated Forms

The hyphenated form parts a type in front of its capitals and puts them in lower case; the canonical
form raises the first letter of every part again.  So a type comes back from its hyphenated form if
each of its capitals comes back from lower case, as those of ASCII do.  Types that come back have
different hyphenated forms, and so have the entries of a directory that are named after them.
-/

namespace ComponentCanvas

namespace TypeId

open Text (isBlank isUpper lowerChar upperChar trim splitBy)

/-! ## Capitals that come back -/

/-- Whether a character is no capital, or else the upper case of the one letter that it is in lower
case. -/
def ComesBack (c : Char) : Prop :=
  isUpper c = true → ∃ d, lowerChar c = [d] ∧ isSeparator d = false ∧ upperChar d = [c]

/-- Whether a name is made of ASCII characters. -/
def IsAscii (name : String) : Prop := ∀ c ∈ name.toList, c.toNat < 0x80

instance (name : String) : Decidable (IsAscii name) :=
  decidable_of_iff (name.toList.all fun c => c.toNat < 0x80) (by simp [IsAscii])

/-- What holds of the first code points holds of the characters of ASCII. -/
theorem forall_ascii {P : Char → Prop} (h : ∀ n < 0x80, P (Char.ofNat n)) {c : Char}
    (hc : c.toNat < 0x80) : P c := by
  rw [← Char.ofNat_toNat c]
  exact h c.toNat hc

/-- The capitals of ASCII come back. -/
theorem comesBack_of_ascii {c : Char} (h : c.toNat < 0x80) : ComesBack c := by
  have hletter := forall_ascii (P := fun c => isUpper c = true →
    lowerChar c = [c.toLower] ∧ isSeparator c.toLower = false ∧ upperChar c.toLower = [c])
    (by decide) h
  exact fun hupper => ⟨_, hletter hupper⟩

/-- The canonical form of an ASCII name is an ASCII name. -/
theorem isAscii_canonical {name : String} (h : IsAscii name) : IsAscii (canonical name) := by
  -- the letters of a canonical form are letters of the name, the first of each word raised
  intro c hc
  rw [canonical, String.toList_ofList] at hc
  obtain ⟨d, hd, rfl | hupper⟩ := exists_mem_of_mem_canonicalChars hc
  · exact h _ (Text.mem_of_mem_trim hd)
  · have hd := h d (Text.mem_of_mem_trim hd)
    rw [upperChar, if_pos hd, List.mem_singleton] at hupper
    rw [hupper]
    exact forall_ascii (P := fun d => d.toUpper.toNat < 0x80) (by decide) hd

/-! ## Parts of a hyphenated form -/

/-- Parts that are empty have nothing to raise. -/
theorem canonicalChars_eq_flatMap (s : List Char) :
    canonicalChars s = (splitBy isSeparator (trim s)).flatMap capitalize := by
  rw [canonicalChars, words]
  induction splitBy isSeparator (trim s) with
  | nil => rfl
  | cons part parts ih =>
    cases part with
    | nil => simpa [capitalize] using ih
    | cons c rest => simpa using ih

variable {s : List Char}

/-- What is no capital stays. -/
theorem hyphenateChar_of_not_isUpper {c : Char} (hc : isSeparator c = false)
    (hupper : ¬ isUpper c = true) (first : Bool) : hyphenateChar first c = [c] := by
  simp only [isSeparator, Bool.or_eq_false_iff] at hc
  simp [hyphenateChar, hupper, hc]

/-- Behind a part that has begun, the characters of a word come back one by one: a capital opens a
part of its own, and any other character goes on with the last one. -/
theorem flatMap_capitalize_hyphenated {part : List Char} (hne : part ≠ [])
    (hpart : ∀ c ∈ part, isSeparator c = false) (hs : ∀ c ∈ s, isSeparator c = false)
    (hback : ∀ c ∈ s, ComesBack c) :
    (splitBy isSeparator (part ++ s.flatMap (hyphenateChar false))).flatMap capitalize =
      capitalize part ++ s := by
  induction s generalizing part with
  | nil => simp [Text.splitBy_eq_singleton hpart]
  | cons c rest ih =>
    rw [List.forall_mem_cons] at hs hback
    rw [List.flatMap_cons]
    by_cases hupper : isUpper c = true
    -- a capital starts a word of its own, in which it comes back
    · obtain ⟨d, hlower, hd, hraised⟩ := hback.1 hupper
      have hletter : hyphenateChar false c = ['-', d] := by simp [hyphenateChar, hupper, hlower]
      have hhyphen : isSeparator '-' = true := by decide
      have hrest := ih (List.cons_ne_nil d []) (by simpa using hd) hs.2 hback.2
      rw [hletter, List.cons_append, Text.splitBy_append_cons hhyphen, List.flatMap_append, hrest,
        Text.splitBy_eq_singleton hpart, List.flatMap_singleton, capitalize, hraised]
      simp
    -- any other character joins the word in front of it
    · obtain ⟨first, letters, rfl⟩ := List.exists_cons_of_ne_nil hne
      have hjoined : ∀ d ∈ first :: letters ++ [c], isSeparator d = false :=
        List.forall_mem_append.mpr ⟨hpart, by simpa using hs.1⟩
      have hrest := ih (by simp) hjoined hs.2 hback.2
      rw [hyphenateChar_of_not_isUpper hs.1 hupper, ← List.append_assoc, hrest]
      simp [capitalize]

/-- A hyphenated form holds no blank. -/
theorem isBlank_hyphenateChar {c : Char} (hc : isSeparator c = false) (hback : ComesBack c)
    (first : Bool) : ∀ d ∈ hyphenateChar first c, isBlank d = false := by
  rw [hyphenateChar]
  split
  -- the small letter of a capital is a letter too
  · next hupper =>
    obtain ⟨d, hlower, hd, -⟩ := hback hupper
    have hblank := isBlank_eq_false hd
    have hhyphen : isBlank '-' = false := by decide
    cases first <;> simp [hlower, hblank, hhyphen]
  · have hhyphen : isBlank '-' = false := by decide
    split
    · simpa using hhyphen
    · simpa using isBlank_eq_false hc

/-- A word that opens in upper case comes back from its hyphenated form if its capitals come back
from lower case. -/
theorem canonicalChars_hyphenatedChars (hs : ∀ c ∈ s, isSeparator c = false)
    (hhead : ∀ c ∈ s.head?, upperChar c = [c]) (hback : ∀ c ∈ s, ComesBack c) :
    canonicalChars (hyphenatedChars s) = s := by
  cases s with
  | nil => rfl
  | cons c rest =>
    have htrim : trim (c :: rest) = c :: rest :=
      Text.trim_of_forall fun d hd => isBlank_eq_false (hs d hd)
    rw [List.forall_mem_cons] at hs hback
    have hform : hyphenatedChars (c :: rest) =
        hyphenateChar true c ++ rest.flatMap (hyphenateChar false) := by
      rw [hyphenatedChars, htrim]
    -- no part has blanks, so nothing is trimmed
    have hblank : trim (hyphenatedChars (c :: rest)) = hyphenatedChars (c :: rest) := by
      refine Text.trim_of_forall ?_
      rw [hform, List.forall_mem_append]
      refine ⟨isBlank_hyphenateChar hs.1 hback.1 true, fun d hd => ?_⟩
      obtain ⟨letter, hletter, hd⟩ := List.mem_flatMap.mp hd
      exact isBlank_hyphenateChar (hs.2 _ hletter) (hback.2 _ hletter) false d hd
    -- the first character opens the first part, with no hyphen in front of it
    obtain ⟨d, hfirst, hd, hraised⟩ :
        ∃ d, hyphenateChar true c = [d] ∧ isSeparator d = false ∧ upperChar d = [c] := by
      by_cases hupper : isUpper c = true
      · obtain ⟨d, hlower, hd, hraised⟩ := hback.1 hupper
        exact ⟨d, by simp [hyphenateChar, hupper, hlower], hd, hraised⟩
      -- a character that is no capital is its own first part
      · exact ⟨c, hyphenateChar_of_not_isUpper hs.1 hupper true, hs.1, hhead c rfl⟩
    rw [canonicalChars_eq_flatMap, hblank, hform, hfirst,
      flatMap_capitalize_hyphenated (List.cons_ne_nil d []) (by simpa using hd) hs.2 hback.2,
      capitalize, hraised]
    rfl

/-- A type in canonical form comes back from its hyphenated form if its capitals come back from
lower case. -/
theorem canonical_hyphenated {typeId : String} (h : canonical typeId = typeId)
    (hback : ∀ c ∈ typeId.toList, ComesBack c) : canonical (hyphenated typeId) = typeId := by
  obtain ⟨hword, hhead⟩ := canonical_eq_self_iff.mp h
  rw [canonical, hyphenated, String.toList_ofList,
    canonicalChars_hyphenatedChars hword hhead hback, String.ofList_toList]

theorem canonical_hyphenated_of_isAscii {typeId : String} (h : canonical typeId = typeId)
    (hascii : IsAscii typeId) : canonical (hyphenated typeId) = typeId :=
  canonical_hyphenated h fun c hc => comesBack_of_ascii (hascii c hc)

end TypeId

namespace Catalog

/-! ## Entries named after their types -/

/-- Whether an entry comes from a file that gives it no identifier. -/
def NamedAfterType (files : FileTree) (entry : Entry) : Prop :=
  ∃ file ∈ files, Describes files file entry ∧
    ((Json.Raw.read? file.2).bind Metadata.ofJson?).bind (·.id) = none

/-- An entry without an identifier of its own is named by the hyphenated form of its type. -/
theorem NamedAfterType.id_eq {files : FileTree} {entry : Entry} (h : NamedAfterType files entry) :
    entry.id = TypeId.hyphenated entry.typeId := by
  obtain ⟨file, -, ⟨directory, stem, data, template, -, -, hdata, -, -, rfl⟩, hnone⟩ := h
  rw [hdata] at hnone
  have hid : data.id = none := hnone
  show data.id.getD _ = _
  rw [hid]
  rfl

/-- An ASCII type comes back from its hyphenated form: the canonical form of any ASCII name is the
canonical form of its own hyphenated form.  So different ASCII types have different hyphenated
forms, and different entries of a directory that are named after ASCII types have different
identifiers. -/
theorem hyphenation_undone :
    (∀ name, TypeId.IsAscii name →
      TypeId.canonical (TypeId.hyphenated (TypeId.canonical name)) = TypeId.canonical name) ∧
    Set.InjOn TypeId.hyphenated
      {typeId | TypeId.canonical typeId = typeId ∧ TypeId.IsAscii typeId} ∧
    ∀ version files, ∃ catalog, discover version (some files) = .ok catalog ∧
      catalog.entries.Pairwise fun entry other =>
        NamedAfterType files entry → NamedAfterType files other →
          TypeId.IsAscii entry.typeId → TypeId.IsAscii other.typeId → entry.id ≠ other.id := by
  have hback : Set.LeftInvOn TypeId.canonical TypeId.hyphenated
      {typeId | TypeId.canonical typeId = typeId ∧ TypeId.IsAscii typeId} :=
    fun _ h => TypeId.canonical_hyphenated_of_isAscii h.1 h.2
  refine ⟨fun name h => ?form, hback.injOn, fun version files => ?entries⟩
  case form => exact hback ⟨TypeId.canonical_canonical name, TypeId.isAscii_canonical h⟩
  case entries =>
    have hvalid := (lists_entriesOfFiles files).valid version
    refine ⟨_, hvalid.ofEntries, ?_⟩
    -- the types are distinct already, so no two of them share a hyphenated form
    refine (List.pairwise_map.mp hvalid.nodup).imp_of_mem ?_
    intro entry other hentry hother hne hnamed hnamed' hascii hascii' hsame
    rw [hnamed.id_eq, hnamed'.id_eq] at hsame
    exact hne (hback.injOn ⟨hvalid.canonical entry hentry, hascii⟩
      ⟨hvalid.canonical other hother, hascii'⟩ hsame)

/-- A directory with two cards, the types of which differ in the case of letters only. -/
def cardFiles : FileTree :=
  [(["HTTPCard.json"], "{}"), (["HTTPCard.jsx"], "one"), (["more", "http-card.json"], "{}"),
   (["more", "http-card.jsx"], "two")]

/-- The names of the two cards, with runs of capitals and of separators. -/
theorem hyphenation_undone_of_cards :
    (TypeId.IsAscii " 2nd__HTTP-card" ∧
      TypeId.canonical (TypeId.hyphenated (TypeId.canonical " 2nd__HTTP-card")) = "2ndHTTPCard") ∧
    TypeId.hyphenated "HTTPCard" ≠ TypeId.hyphenated "HttpCard" ∧
    ∃ catalog entry other, discover "1" (some cardFiles) = .ok catalog ∧
      catalog.entries = [entry, other] ∧ NamedAfterType cardFiles entry ∧
      NamedAfterType cardFiles other ∧ TypeId.IsAscii entry.typeId ∧
      TypeId.IsAscii other.typeId ∧ entry.id ≠ other.id := by
  obtain ⟨hform, hinj, hentries⟩ := hyphenation_undone
  have hascii : TypeId.IsAscii " 2nd__HTTP-card" ∧ TypeId.IsAscii "HTTPCard" ∧
      TypeId.IsAscii "HttpCard" := by decide +kernel
  refine ⟨⟨hascii.1, ?form⟩, ?distinct, ?entries⟩
  case form =>
    rw [hform _ hascii.1]
    decide +kernel
  case distinct =>
    have hcanonical : TypeId.canonical "HTTPCard" = "HTTPCard" ∧
        TypeId.canonical "HttpCard" = "HttpCard" := by decide +kernel
    exact fun hsame => absurd (hinj ⟨hcanonical.1, hascii.2.1⟩ ⟨hcanonical.2, hascii.2.2⟩ hsame)
      (by decide +kernel)
  case entries =>
    obtain ⟨catalog, hcatalog, hpairs⟩ := hentries "1" cardFiles
    have hfirst : (entryOfFile? cardFiles ["HTTPCard.json"] "{}").map (·.typeId) =
        some "HTTPCard" := by decide +kernel
    have hsecond : (entryOfFile? cardFiles ["more", "http-card.json"] "{}").map (·.typeId) =
        some "HttpCard" := by decide +kernel
    obtain ⟨entry, hentry, htype⟩ := Option.map_eq_some_iff.mp hfirst
    obtain ⟨other, hother, htype'⟩ := Option.map_eq_some_iff.mp hsecond
    -- the files are listed in the order of the walk
    have hwalk : cardFiles.walk = cardFiles := List.mergeSort_of_pairwise (by decide)
    have hlist : catalog.entries = [entry, other] := by
      obtain ⟨-, rfl⟩ := ofEntries_eq_ok.mp hcatalog
      show entriesOfFiles cardFiles = _
      rw [entriesOfFiles, hwalk]
      -- the templates are no metadata, and the types of the two others differ
      have htemplates : entryOfFile? cardFiles ["HTTPCard.jsx"] "one" = none ∧
          entryOfFile? cardFiles ["more", "http-card.jsx"] "two" = none := by
        simp only [← Option.isNone_iff_eq_none]
        decide +kernel
      show firstOfEachType [] (List.filterMap _ [_, _, _, _]) = _
      simp [hentry, hother, htemplates, firstOfEachType, htype, htype']
    -- neither entry gives an id, so both are named after their files
    have hnamed : NamedAfterType cardFiles entry ∧ NamedAfterType cardFiles other := by
      have hnone : ((Json.Raw.read? "{}").bind Metadata.ofJson?).bind (·.id) = none := by
        decide +kernel
      exact ⟨⟨(["HTTPCard.json"], "{}"), by simp [cardFiles],
          entryOfFile?_eq_some.mp hentry, hnone⟩,
        ⟨(["more", "http-card.json"], "{}"), by simp [cardFiles], entryOfFile?_eq_some.mp hother,
          hnone⟩⟩
    have hascii' : TypeId.IsAscii entry.typeId ∧ TypeId.IsAscii other.typeId := by
      rw [htype, htype']
      exact hascii.2
    rw [hlist, List.pairwise_pair] at hpairs
    exact ⟨catalog, entry, other, hcatalog, hlist, hnamed.1, hnamed.2, hascii'.1, hascii'.2,
      hpairs hnamed.1 hnamed.2 hascii'.1 hascii'.2⟩

end Catalog

end ComponentCanvas
