import ComponentCanvas.Proofs.Except
import ComponentCanvas.Proofs.Property.Domain
import ComponentCanvas.Proofs.Property.Literals
import ComponentCanvas.Property.Writing

/-!
# Written Values

The written form of a value is read as an expression with that value, in front of any text that
closes it.  The keys of an object are written in three forms, each of which is read as the key; the
lists and the objects follow by induction on the value.  The depth that the grammar is closed to is
bounded by the length of the text.
-/

namespace ComponentCanvas.Property

open Script Script.Parser
open Text (byteSize)

/-! ## Meanings -/

/-- Whether an item of a list literal is an expression with a value. -/
def ItemMeans (item : Item) (value : Json) : Prop := ∃ e, item = .value e ∧ Means e value

/-- Whether a member of an object literal has a name and an expression with a value. -/
def MemberMeans (member : Member) (entry : String × Json) : Prop :=
  ∃ computed key e, member = .field computed key e ∧ keyOf? computed key = some entry.1 ∧
    Means e entry.2

/-- The values of the items of a list are those that its items mean. -/
theorem itemValues_of_means {items : List Item} {values : List Json}
    (h : List.Forall₂ ItemMeans items values) (source : List Char) (span : Text.Span) :
    itemValues source span items = .ok values := by
  induction h with
  | nil => rfl
  | cons hitem hrest ih =>
    obtain ⟨e, rfl, he⟩ := hitem
    rw [itemValues, he source, ih]
    rfl

/-- The entries of an object are those that its members mean, behind the ones before them. -/
theorem memberValues_of_means {members : List Member} {entries : Bag}
    (h : List.Forall₂ MemberMeans members entries) (source : List Char) (span : Text.Span)
    {bag : Bag} (hnodup : (Fields.keys (bag ++ entries)).Nodup) :
    memberValues source span members bag = .ok (bag ++ entries) := by
  -- the names before are distinct from those to come, so an entry never replaces another one
  induction h generalizing bag with
  | nil => simp [memberValues, pure, Except.pure]
  | @cons member entry members entries hmember hrest ih =>
    obtain ⟨computed, key, e, rfl, hkey, he⟩ := hmember
    obtain ⟨name, value⟩ := entry
    have hnew : name ∉ Fields.keys bag := by
      rw [Fields.keys_append, List.nodup_append] at hnodup
      intro hmem
      exact hnodup.2.2 name hmem name (by simp) rfl
    have hrun : memberValues source span members (bag ++ [(name, value)]) =
        .ok (bag ++ [(name, value)] ++ entries) := ih (by simpa using hnodup)
    rw [memberValues, hkey]
    dsimp only at he ⊢
    rw [he source]
    -- inserting under a new name is appending
    show memberValues source span members (Fields.insert bag name value) = _
    rw [Fields.insert_of_notMem hnew, hrun]
    simp

/-! ## Keys -/

/-- The tokens that open the written form of a key. -/
inductive OpensKeyText : Token → Prop
  | computed : OpensKeyText (.punct "[")
  | bare (name : String) : OpensKeyText (.word name false)
  | quoted (name : String) : OpensKeyText (.string name)

/-- The first token of a key opens an item. -/
private theorem OpensKeyText.opensItem {t : Token} (h : OpensKeyText t) : OpensItem t := by
  constructor
  · intro hclose
    cases h with
    | computed => exact absurd (hclose.isPunct "[" (by decide)) (by decide)
    | bare name => cases hclose
    | quoted name => cases hclose
  · cases h <;> rfl

/-- A written key opens with a token, whatever delimits it. -/
theorem scanToken_keyText (name : String) {r : List Char} (hr : IsDelimited r) :
    Starts (keyText name ++ r) ∧ OpensKeyText (scanToken (keyText name ++ r)).token := by
  rw [keyText]
  split
  -- the key that would set a prototype is written in brackets
  · exact ⟨starts_cons (by decide) rfl, .computed⟩
  · split
    -- a name is written as it is
    · next hbare =>
      have hscan := scanToken_bareKey name hbare hr
      refine ⟨⟨?_, by rw [hscan]⟩, by rw [hscan]; exact .bare name⟩
      intro c hc
      rw [isBareKey, isNameOf.eq_def] at hbare
      cases hname : name.toList with
      | nil => simp [hname] at hbare
      | cons d ds =>
        simp only [hname, Bool.and_eq_true] at hbare
        obtain rfl : d = c := by simpa [hname] using hc
        exact isVisible_of_isNameStart hbare.1
    -- any other key is quoted
    · have hscan := scanToken_quoted name r
      exact ⟨⟨by simp only [quoted, List.cons_append, List.head?_cons, Option.mem_some_iff,
        forall_eq']; decide, by rw [hscan]⟩, by rw [hscan]; exact .quoted name⟩

/-- Whether a key is read where a cursor stands, in front of a colon that ends a word. -/
structure ReadsKey (g : Grammar) (name : String) (c : Cursor) (rest : List Char) : Prop where
  reads : ∃ computed k c₁, Parser.key g c = .ok ((computed, k), c₁) ∧
    keyOf? computed k = some name ∧ At c₁ (':' :: rest)
  ends : ∀ word, c.token.isWord word = true → c.advance.token = .punct ":"

private theorem starts_colon (rest : List Char) : Starts (':' :: rest) :=
  starts_cons (by decide) rfl

/-- The one name that means something else without brackets is read in brackets. -/
private theorem readsKey_computed {d : Nat} (hd : 4 ≤ d) {rest : List Char} {c : Cursor}
    (hc : At c ('[' :: quoted protoKey ++ [']'] ++ ':' :: rest)) :
    ReadsKey (grammar d) protoKey c rest := by
  obtain ⟨d, rfl⟩ : ∃ n, d = n + 4 := ⟨d - 4, by omega⟩
  have hquoted := readable_fullAssignment (readable_quoted protoKey d)
  have hbracket : IsDelimited (']' :: ':' :: rest) := by simp [IsDelimited]
  have htext : '[' :: quoted protoKey ++ [']'] ++ ':' :: rest =
      ['['] ++ (quoted protoKey ++ ']' :: ':' :: rest) := by simp
  rw [htext] at hc
  -- behind the opening bracket stands a text, and behind it the closing bracket
  have hadvance : At c.advance (quoted protoKey ++ ']' :: ':' :: rest) :=
    At.advance (t := ['[']) hc rfl (Or.inl rfl) (hquoted.starts _ hbracket)
  obtain ⟨k, c₁, hrun, ⟨span, rfl⟩, hc₁⟩ :=
    hquoted.reads _ _ ⟨Or.inl rfl, .bracket (':' :: rest)⟩ _ hadvance
  have hnext : At c₁.advance (':' :: rest) :=
    At.advance (t := [']']) hc₁ rfl (Or.inl rfl) (starts_colon rest)
  have htoken : c.token = .punct "[" := hc.token
  have hopen : (Token.punct "[").isPunct "[" = true := rfl
  have hclose : c₁.token.isPunct "]" = true := by rw [hc₁.token]; rfl
  -- so the key is a computed one, and its expression is a text
  have hkey : Parser.key (grammar (d + 4)) c =
      .ok ((true, .mk span (.string protoKey)), c₁.advance) := by
    simp [Parser.key, bind_apply, htoken, hopen, hrun, hclose]
  exact ⟨⟨_, _, _, hkey, by simp [keyOf?], hnext⟩, by simp [htoken, Token.isWord]⟩

/-- Any other name is read as the token it is written as. -/
private theorem readsKey_token {g : Grammar} {name : String} (hname : (name == protoKey) = false)
    {text rest : List Char} {tok : Token}
    (hscan : scanToken (text ++ ':' :: rest) = ⟨tok, byteSize text, ':' :: rest, none⟩)
    (htok : tok = .word name false ∨ tok = .string name) {c : Cursor}
    (hc : At c (text ++ ':' :: rest)) : ReadsKey g name c rest := by
  have hnext := hc.advance hscan (Or.inl rfl) (starts_colon rest)
  have htoken : c.token = tok := by rw [hc.token, hscan]
  have hkey : Parser.key g c =
      .ok ((false, .mk ⟨c.start, c.advance.previous⟩ (.string name)), c.advance) := by
    rcases htok with rfl | rfl <;> simp [Parser.key, bind_apply, htoken]
  -- `get`, `set` and `async` stand here as well, and then the colon behind them counts
  exact ⟨⟨_, _, _, hkey, by simp [keyOf?, hname], hnext⟩, fun _ _ => hnext.token⟩

/-- A key of an object is read in front of its colon, in each of the three forms. -/
theorem readsKey_keyText (name : String) {d : Nat} (hd : 4 ≤ d) {rest : List Char} {c : Cursor}
    (hc : At c (keyText name ++ ':' :: rest)) : ReadsKey (grammar d) name c rest := by
  have hdelimited : IsDelimited (':' :: rest) := by simp [IsDelimited]
  rw [keyText] at hc
  split at hc
  -- the three forms in which a key is written
  · next hproto =>
    obtain rfl : name = protoKey := eq_of_beq hproto
    exact readsKey_computed hd hc
  · next hproto =>
    rw [Bool.not_eq_true] at hproto
    split at hc
    · next hbare =>
      exact readsKey_token hproto (scanToken_bareKey name hbare hdelimited) (Or.inl rfl) hc
    · exact readsKey_token hproto (scanToken_quoted name (':' :: rest)) (Or.inr rfl) hc

/-- A key with a value behind its colon is a member of an object. -/
theorem readable_member (name : String) {d : Nat} (hd : 4 ≤ d) {text : List Char} {value : Json}
    (h : Readable (grammar d (.assignment true)) Means text value) :
    Readable (objectMember (grammar d)) MemberMeans (keyText name ++ ':' :: ' ' :: text)
      (name, value) := by
  have hsplit : ∀ rest, keyText name ++ ':' :: ' ' :: text ++ rest =
      keyText name ++ ':' :: (' ' :: (text ++ rest)) := by simp
  have hdelimited : ∀ r, IsDelimited (':' :: r) := by simp [IsDelimited]
  refine ⟨by simp, ?starts, ?opens, ?reads⟩
  case starts =>
    intro rest _
    rw [hsplit]
    exact (scanToken_keyText name (hdelimited _)).1
  case opens =>
    intro rest _
    rw [hsplit]
    exact (scanToken_keyText name (hdelimited _)).2.opensItem
  case reads =>
    intro rest next hgap c hc
    rw [hsplit] at hc
    obtain ⟨⟨computed, k, c₁, hkey, hname, hc₁⟩, hword⟩ := readsKey_keyText name hd hc
    -- the key is a word or a text, so neither a spread nor a generator begins here
    have hopen : OpensKeyText c.token := by
      rw [hc.token]
      exact (scanToken_keyText name (hdelimited _)).2
    have hadvance : At c₁.advance (text ++ rest) :=
      At.advance (t := [':']) hc₁ rfl (Or.inr rfl) (h.starts _ hgap.isDelimited)
    obtain ⟨e, c', hvalue, hmeans, hc'⟩ :=
      (readable_fullAssignment h).reads rest next hgap _ hadvance
    have hspread : c.token.isPunct "..." = false := hopen.opensItem.2
    have hstar : c.token.isPunct "*" = false := by
      generalize c.token = t at hopen
      cases hopen <;> rfl
    -- no word in front of a colon makes an accessor or an asynchronous method of the member
    refine ⟨_, _, objectMember_of_key hspread hstar ?_ ?_ hkey hc₁.token hvalue,
      ⟨computed, k, e, rfl, hname, hmeans⟩, hc'⟩
    · rintro (hw | hw) <;> rw [hword _ hw] <;> rfl
    · intro hw
      rw [hword _ hw]
      rfl

/-! ## What writing gives -/

theorem writeAt_arr {path : String} {items : List Json} {text : List Char}
    (h : writeAt path (.arr items) = .ok text) :
    ∃ texts, writeItems path 0 items = .ok texts ∧ text = bracketed '[' [] texts ']' := by
  rw [writeAt] at h
  obtain ⟨texts, htexts, h⟩ := bind_eq_ok.mp h
  refine ⟨texts, htexts, ?_⟩
  simp [← pure_eq_ok.mp h, bracketed]

/-- What is written of items, the first one in front. -/
theorem writeItems_cons {path : String} {index : Nat} {item : Json} {rest : List Json}
    {texts : List (List Char)} (h : writeItems path index (item :: rest) = .ok texts) :
    ∃ text texts', writeAt (itemPath path index) item = .ok text ∧
      writeItems path (index + 1) rest = .ok texts' ∧ texts = text :: texts' := by
  rw [writeItems] at h
  obtain ⟨text, htext, h⟩ := bind_eq_ok.mp h
  obtain ⟨texts', hrest, h⟩ := bind_eq_ok.mp h
  exact ⟨text, texts', htext, hrest, (pure_eq_ok.mp h).symm⟩

/-- What is written of members, the first one in front. -/
theorem writeMembers_cons {path key : String} {value : Json} {rest : Bag}
    {texts : List (List Char)} (h : writeMembers path ((key, value) :: rest) = .ok texts) :
    ∃ text texts', writeAt (memberPath path key) value = .ok text ∧
      writeMembers path rest = .ok texts' ∧
      texts = (keyText key ++ ':' :: ' ' :: text) :: texts' := by
  rw [writeMembers] at h
  obtain ⟨text, htext, h⟩ := bind_eq_ok.mp h
  obtain ⟨texts', hrest, h⟩ := bind_eq_ok.mp h
  exact ⟨text, texts', htext, hrest, (pure_eq_ok.mp h).symm⟩

/-- An object is written as its members are, with blanks inside the braces if it has any. -/
theorem writeAt_obj {path : String} {members : Bag} {text : List Char}
    (h : writeAt path (.obj members) = .ok text) :
    ∃ texts, writeMembers path members = .ok texts ∧
      text = bracketed '\x7b' (if texts = [] then [] else [' ']) texts '\x7d' := by
  cases members with
  -- an empty object has no blanks between its brackets
  | nil =>
    rw [writeAt] at h
    exact ⟨[], rfl, (pure_eq_ok.mp h).symm⟩
  | cons member rest =>
    obtain ⟨key, value⟩ := member
    rw [writeAt] at h
    obtain ⟨texts, htexts, h⟩ := bind_eq_ok.mp h
    obtain ⟨text, others, -, -, hcons⟩ := writeMembers_cons htexts
    refine ⟨texts, htexts, ?_⟩
    simp [← pure_eq_ok.mp h, bracketed, hcons]

/-! ## Reading what is written -/

/-- Helper: a list is as long as each of its items. -/
private theorem length_le_separated {texts : List (List Char)} {text : List Char}
    (h : text ∈ texts) : text.length ≤ (Json.separated comma texts).length := by
  induction texts with
  | nil => cases h
  | cons t ts ih =>
    -- the last text, or one with a comma behind it
    cases ts with
    | nil =>
      obtain rfl : text = t := by simpa using h
      simp [Json.separated]
    | cons t' ts' =>
      simp only [Json.separated, List.length_append]
      rcases List.mem_cons.mp h with rfl | h
      · omega
      · have := ih h
        omega

private theorem length_lt_bracketed (opener : Char) (gap : List Char) (closer : Char)
    {texts : List (List Char)} {text : List Char} (h : text ∈ texts) :
    text.length + 2 ≤ (bracketed opener gap texts closer).length := by
  have := length_le_separated h
  simp only [bracketed, List.length_cons, List.length_append]
  omega

mutual

/-- The written form of a value is read as an expression with that value.  A character of it opens
at most four rules of the grammar. -/
theorem readable_writeAt : ∀ (v : Json), v.WellFormed → ∀ {path : String} {text : List Char},
    writeAt path v = .ok text → ∀ {d : Nat}, 4 * text.length + 1 ≤ d →
      Readable (grammar d (.assignment true)) Means text v
  | .null, _, path, text, ht, d, hd => by
    simp [writeAt, throw, throwThe, MonadExceptOf.throw] at ht
  | .bool b, _, path, text, ht, d, hd => by
    rw [writeAt, pure_eq_ok] at ht
    subst ht
    obtain ⟨d, rfl⟩ : ∃ n, d = n + 4 := by
      have : 4 ≤ (Json.compactChars (.bool b)).length := by
        cases b <;> simp [Json.compactChars]
      exact ⟨d - 4, by omega⟩
    refine (readable_bool b d).imp ?_
    rintro e ⟨span, rfl⟩ source
    rw [valueOf]
    rfl
  -- a text that is not empty is long enough to pay for the levels of the grammar
  | .int n, hv, path, text, ht, d, hd => by
    rw [writeAt, pure_eq_ok] at ht
    subst ht
    have hne := List.length_pos_iff.mpr (readable_int hv 0).nonempty
    obtain ⟨d, rfl⟩ : ∃ n, d = n + 5 := ⟨d - 5, by omega⟩
    exact readable_int hv d
  | .float x, hv, path, text, ht, d, hd => by
    rw [writeAt, pure_eq_ok] at ht
    subst ht
    have hne := List.length_pos_iff.mpr (readable_float hv 0).nonempty
    obtain ⟨d, rfl⟩ : ∃ n, d = n + 5 := ⟨d - 5, by omega⟩
    exact readable_float hv d
  | .str s, _, path, text, ht, d, hd => by
    rw [writeAt, pure_eq_ok] at ht
    subst ht
    obtain ⟨d, rfl⟩ : ∃ n, d = n + 4 := by
      have : 1 ≤ (quoted s).length := by simp [quoted]
      exact ⟨d - 4, by omega⟩
    refine (readable_quoted s d).imp ?_
    rintro e ⟨span, rfl⟩ source
    rw [valueOf]
    rfl
  | .arr items, hv, path, text, ht, d, hd => by
    obtain ⟨texts, htexts, rfl⟩ := writeAt_arr ht
    -- the brackets are the two characters that pay for the level the items stand on
    have hlength : 2 ≤ (bracketed '[' [] texts ']').length := by simp [bracketed]
    obtain ⟨d, rfl⟩ : ∃ n, d = n + 4 := ⟨d - 4, by omega⟩
    have hall := readable_writeItems items hv htexts (d := d) fun t hmem => by
      have := length_lt_bracketed '[' [] ']' hmem
      omega
    refine (readable_array hall).imp ?_
    rintro e ⟨span, list, rfl, hlist⟩ source
    rw [valueOf, itemValues_of_means hlist]
    rfl
  | .obj members, hv, path, text, ht, d, hd => by
    obtain ⟨texts, htexts, rfl⟩ := writeAt_obj ht
    set gap : List Char := if texts = [] then [] else [' '] with hgap
    have hlength : 2 ≤ (bracketed '\x7b' gap texts '\x7d').length := by
      simp only [bracketed, List.length_cons, List.length_append]
      omega
    obtain ⟨d, rfl⟩ : ∃ n, d = n + 4 := ⟨d - 4, by omega⟩
    have hall := readable_writeMembers members hv.2 htexts (d := d) fun t hmem => by
      have := length_lt_bracketed '\x7b' gap '\x7d' hmem
      omega
    refine (readable_object hall).imp ?_
    rintro e ⟨span, list, rfl, hlist⟩ source
    -- the keys are distinct, so no member replaces another one
    have hnodup : (Fields.keys ([] ++ members)).Nodup := hv.1
    rw [valueOf, memberValues_of_means hlist source span hnodup]
    rfl

/-- Helper: the items of a list are read one after the other. -/
private theorem readable_writeItems : ∀ (items : List Json), Json.WellFormedItems items →
    ∀ {path : String} {index : Nat} {texts : List (List Char)},
      writeItems path index items = .ok texts → ∀ {d : Nat},
        (∀ text ∈ texts, 4 * text.length + 1 ≤ d) →
          List.Forall₂ (Readable (listItem (grammar d)) ItemMeans) texts items
  | [], _, path, index, texts, ht, d, hd => by
    rw [writeItems, pure_eq_ok] at ht
    exact ht ▸ .nil
  | item :: rest, hv, path, index, texts, ht, d, hd => by
    obtain ⟨text, texts', htext, hrest, rfl⟩ := writeItems_cons ht
    -- every item is shorter than the list, so the depth is enough for each
    have hitem := readable_writeAt item hv.1 htext (hd text (by simp))
    exact .cons (readable_listItem hitem)
      (readable_writeItems rest hv.2 hrest fun t hmem => hd t (by simp [hmem]))

/-- Helper: the members of an object are read one after the other. -/
private theorem readable_writeMembers : ∀ (members : Bag), Json.WellFormedMembers members →
    ∀ {path : String} {texts : List (List Char)}, writeMembers path members = .ok texts →
      ∀ {d : Nat}, (∀ text ∈ texts, 4 * text.length + 1 ≤ d) →
        List.Forall₂ (Readable (objectMember (grammar d)) MemberMeans) texts members
  | [], _, path, texts, ht, d, hd => by
    rw [writeMembers, pure_eq_ok] at ht
    exact ht ▸ .nil
  | (key, value) :: rest, hv, path, texts, ht, d, hd => by
    obtain ⟨text, texts', htext, hrest, rfl⟩ := writeMembers_cons ht
    -- the depth that is allowed for a member is enough for its value
    have hroom := hd (keyText key ++ ':' :: ' ' :: text) (by simp)
    simp only [List.length_append, List.length_cons] at hroom
    have hvalue := readable_writeAt value hv.1 htext (d := d) (by omega)
    exact .cons (readable_member key (by omega) hvalue)
      (readable_writeMembers rest hv.2 hrest fun t hmem => hd t (by simp [hmem]))

end

end ComponentCanvas.Property
