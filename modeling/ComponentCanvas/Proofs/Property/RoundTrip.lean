import ComponentCanvas.Proofs.Property.Values

/-!
# Round Trips of Property Values

A value is written if and only if null stands nowhere in it, and a written value is read back as
it was.  What is read from any text is such a value in turn.
-/

namespace ComponentCanvas.Property

open Script Script.Parser

/-! ## What can be written -/

mutual

/-- A value is written exactly if null stands nowhere in it. -/
theorem isOk_writeAt : ∀ (v : Json) (path : String), (writeAt path v).isOk = true ↔ v.NullFree
  | .null, path => by simp [writeAt, Json.NullFree, throw, throwThe, MonadExceptOf.throw,
      Except.isOk, Except.toBool]
  | .bool _, path | .int _, path | .float _, path | .str _, path => by
    simp [writeAt, Json.NullFree, pure, Except.pure, Except.isOk, Except.toBool]
  -- a list and an object can be written if all their parts can
  | .arr items, path => by
    rw [Json.NullFree, ← isOk_writeItems items path 0, writeAt]
    cases writeItems path 0 items <;> rfl
  | .obj [], path => by
    simp [writeAt, Json.NullFree, Json.NullFreeMembers, pure, Except.pure, Except.isOk,
      Except.toBool]
  | .obj (member :: rest), path => by
    rw [Json.NullFree, ← isOk_writeMembers (member :: rest) path, writeAt]
    cases writeMembers path (member :: rest) <;> rfl

private theorem isOk_writeItems : ∀ (items : List Json) (path : String) (index : Nat),
    (writeItems path index items).isOk = true ↔ Json.NullFreeItems items
  | [], path, index => by
    simp [writeItems, Json.NullFreeItems, pure, Except.pure, Except.isOk, Except.toBool]
  | item :: rest, path, index => by
    rw [Json.NullFreeItems, ← isOk_writeAt item (itemPath path index),
      ← isOk_writeItems rest path (index + 1), writeItems]
    cases writeAt (itemPath path index) item <;> cases writeItems path (index + 1) rest <;>
      simp [bind, Except.bind, pure, Except.pure, Except.isOk, Except.toBool]

private theorem isOk_writeMembers : ∀ (members : Bag) (path : String),
    (writeMembers path members).isOk = true ↔ Json.NullFreeMembers members
  | [], path => by
    simp [writeMembers, Json.NullFreeMembers, pure, Except.pure, Except.isOk, Except.toBool]
  | (key, value) :: rest, path => by
    rw [Json.NullFreeMembers, ← isOk_writeAt value (memberPath path key),
      ← isOk_writeMembers rest path, writeMembers]
    cases writeAt (memberPath path key) value <;> cases writeMembers path rest <;>
      simp [bind, Except.bind, pure, Except.pure, Except.isOk, Except.toBool]

end

/-! ## Reading what was written -/

/-- The expression that a text opens with is the one the text is read as. -/
theorem read_of_readable {text : List Char} {value : Json}
    (h : Readable (grammarFor text (.assignment true)) Means text value) :
    read (String.ofList text) = .ok value := by
  have hstarts := h.starts [] (by simp [IsDelimited])
  rw [List.append_nil] at hstarts
  have hstart := at_atStart hstarts
  obtain ⟨e, c', hrun, hmeans, hc'⟩ :=
    h.reads [] [] ⟨Or.inl rfl, .eof⟩ (Cursor.atStart false text) (by simpa using hstart)
  -- a sequence of expressions of one member, with the end of the text behind it
  have hend : c'.token.isPunct "," = false := by
    rw [hc'.token]
    rfl
  have hstep : ∀ acc : List Expr, (do
      if ← eatPunct "," then return .inl ((← grammarFor text (.assignment true)) :: acc)
      else return .inr acc.reverse : Parser (List Expr ⊕ List Expr)) c' =
        .ok (.inr acc.reverse, c') := by
    intro acc
    simp [bind_apply, hend]
  -- one round is enough, and the text has room for it
  have hroom := hc'.start_le_size
  have hlist : separatedBy1 "," (grammarFor text (.assignment true)) (Cursor.atStart false text) =
      .ok ([e], c') := by
    rw [separatedBy1, bind_of_ok hrun, repeating, bind_of_ok (bound_apply c')]
    exact iterate_of_inr (hstep [e]) (by omega)
  have hexpr : Expr.read (String.ofList text) = .ok e := by
    rw [Expr.read, String.toList_ofList, run, expression, bind_of_ok (position_apply _),
      bind_of_ok hlist]
    simp [hc'.faults, hc'.pending]
  rw [read, hexpr]
  exact hmeans _

/-- A written value is read back. -/
theorem read_writeAt {v : Json} (hv : v.WellFormed) {path : String} {text : List Char}
    (h : writeAt path v = .ok text) : read (String.ofList text) = .ok v := by
  refine read_of_readable (readable_writeAt v hv h ?_)
  omega

/-! ## What reading gives -/

/-- A number that has a value has one that can be written. -/
theorem numberValue?_eq_some {raw : String} {x : Float} {negative : Bool} {v : Json}
    (h : numberValue? raw x negative = some v) : v.WellFormed ∧ v.NullFree := by
  unfold numberValue? at h
  extract_lets digits value integer fits y at h
  -- the two ranges of a word are told apart by the sign
  have hword : fits = true → Json.fitsWord integer = true := by
    intro hfits
    rw [Json.fitsWord, Bool.or_eq_true]
    cases negative
    · exact Or.inr hfits
    · exact Or.inl hfits
  by_cases hint : (!digits.isEmpty && digits.all Text.isAsciiDigit && fits) = true
  -- digits alone that fit a word are an integer, and any other finite number is a float
  · rw [if_pos hint] at h
    obtain rfl := Option.some.inj h
    exact ⟨hword (Bool.and_eq_true _ _ ▸ hint).2, trivial⟩
  · rw [if_neg hint] at h
    by_cases hfinite : Decimal.isFinite y = true
    · rw [if_pos hfinite] at h
      obtain rfl := Option.some.inj h
      exact ⟨hfinite, trivial⟩
    · rw [if_neg hfinite] at h
      cases h

/-- The entries of an object that is being read: their names are distinct, and each value can be
written. -/
structure IsReadBag (bag : Bag) : Prop where
  nodup : (Fields.keys bag).Nodup
  values : ∀ entry ∈ bag, entry.2.WellFormed ∧ entry.2.NullFree

/-- Another entry is written over those before it. -/
theorem IsReadBag.insert {bag : Bag} (h : IsReadBag bag) (name : String) {value : Json}
    (hvalue : value.WellFormed ∧ value.NullFree) : IsReadBag (Fields.insert bag name value) where
  nodup := Fields.nodup_keys_insert h.nodup
  values entry hmem := by
    rcases Fields.mem_of_mem_insert hmem with rfl | hmem
    · exact hvalue
    · exact h.values entry hmem

/-- The value of an expression can be written. -/
theorem valueOf_eq_ok (source : List Char) (e : Expr) :
    ∀ {v : Json}, valueOf source e = .ok v → v.WellFormed ∧ v.NullFree := by
  -- over expressions, members and items at once; members keep the invariant of their bag
  refine valueOf.induct (fun e => ∀ {v : Json}, valueOf source e = .ok v →
      v.WellFormed ∧ v.NullFree)
    (fun span members bag => IsReadBag bag → ∀ {bag' : Bag},
      memberValues source span members bag = .ok bag' → IsReadBag bag')
    (fun span items => ∀ {values : List Json}, itemValues source span items = .ok values →
      ∀ v ∈ values, v.WellFormed ∧ v.NullFree)
    ?string ?bool ?number ?noNumber ?minus ?noMinus ?template ?paren ?array ?object ?other
    ?noItems ?item ?otherItem ?noMembers ?noKey ?member ?otherMember e
  case string =>
    intro span s v h
    rw [valueOf, pure_eq_ok] at h
    exact h ▸ ⟨trivial, trivial⟩
  case bool =>
    intro span b v h
    rw [valueOf, pure_eq_ok] at h
    exact h ▸ ⟨trivial, trivial⟩
  case number =>
    intro span raw x value hvalue v h
    rw [valueOf, hvalue] at h
    exact pure_eq_ok.mp h ▸ numberValue?_eq_some hvalue
  case minus =>
    intro span span' raw x value hvalue v h
    rw [valueOf, hvalue] at h
    exact pure_eq_ok.mp h ▸ numberValue?_eq_some hvalue
  case template =>
    intro span quasis v h
    rw [valueOf, pure_eq_ok] at h
    exact h ▸ ⟨trivial, trivial⟩
  case paren =>
    intro span e ih v h
    rw [valueOf] at h
    exact ih h
  case array =>
    intro span items ih v h
    rw [valueOf] at h
    obtain ⟨values, hitems, h⟩ := bind_eq_ok.mp h
    rw [← pure_eq_ok.mp h]
    exact ⟨Json.wellFormedItems_iff.mpr fun v hv => (ih hitems v hv).1,
      Json.nullFreeItems_iff.mpr fun v hv => (ih hitems v hv).2⟩
  case object =>
    intro span members ih v h
    rw [valueOf] at h
    -- the bag begins empty, and each member is put under its own key
    obtain ⟨bag, hmembers, h⟩ := bind_eq_ok.mp h
    have hbag := ih ⟨by simp, by simp⟩ hmembers
    rw [← pure_eq_ok.mp h]
    exact ⟨⟨hbag.nodup, Json.wellFormedMembers_iff.mpr fun entry hv => (hbag.values entry hv).1⟩,
      Json.nullFreeMembers_iff.mpr fun entry hv => (hbag.values entry hv).2⟩
  case noItems =>
    intro span values h v hv
    rw [itemValues, pure_eq_ok] at h
    subst h
    cases hv
  case item =>
    intro span e rest ihe ihrest values h
    rw [itemValues] at h
    obtain ⟨value, he, h⟩ := bind_eq_ok.mp h
    obtain ⟨values', hrest, h⟩ := bind_eq_ok.mp h
    rw [← pure_eq_ok.mp h]
    exact List.forall_mem_cons.mpr ⟨ihe he, ihrest hrest⟩
  case noMembers =>
    intro span bag hbag bag' h
    rw [memberValues, pure_eq_ok] at h
    exact h ▸ hbag
  case member =>
    intro span computed key e rest bag name hkey ihe ihrest hbag bag' h
    rw [memberValues, hkey] at h
    obtain ⟨value, he, h⟩ := bind_eq_ok.mp h
    -- the rest of the members goes on from the bag with this one in it
    exact ihrest value (hbag.insert name (ihe he)) h
  -- every other form is an error
  case noNumber =>
    intro span raw x hvalue v h
    simp [valueOf, hvalue, throw, throwThe, MonadExceptOf.throw] at h
  case noMinus =>
    intro span span' raw x hvalue v h
    simp [valueOf, hvalue, throw, throwThe, MonadExceptOf.throw] at h
  case other =>
    intro span form h1 h2 h3 h4 h5 h6 h7 h8 v h
    simp [valueOf, *, throw, throwThe, MonadExceptOf.throw] at h
  case otherItem =>
    intro items span h1 h2 values h
    simp [itemValues, *, throw, throwThe, MonadExceptOf.throw] at h
  case noKey =>
    intro span computed key e rest bag hkey hbag bag' h
    simp [memberValues, hkey, throw, throwThe, MonadExceptOf.throw] at h
  case otherMember =>
    intro members span bag h1 h2 hbag bag' h
    simp [memberValues, *, throw, throwThe, MonadExceptOf.throw] at h

/-- What is read from any text can be written. -/
theorem read_eq_ok {text : String} {v : Json} (h : read text = .ok v) :
    v.WellFormed ∧ v.NullFree := by
  rw [read] at h
  split at h
  · exact valueOf_eq_ok _ _ h
  · cases h

/-! ## The round trip -/

/-- A value without null is written, and its text is read back as the value. -/
theorem exists_write_read {v : Json} (hv : v.WellFormed) (hnull : v.NullFree) :
    ∃ text, write v = .ok text ∧ read text = .ok v := by
  cases htext : writeAt "" v with
  -- a value without null cannot fail
  | error e =>
    have := (isOk_writeAt v "").mpr hnull
    rw [htext] at this
    cases this
  | ok text =>
    refine ⟨String.ofList text, ?_, read_writeAt hv htext⟩
    rw [write, htext]
    rfl

/-- A value is not written exactly if null stands somewhere in it. -/
theorem exists_write_error_iff {v : Json} : (∃ e, write v = .error e) ↔ ¬ v.NullFree := by
  rw [← isOk_writeAt v "", write]
  cases writeAt "" v <;>
    simp [bind, Except.bind, pure, Except.pure, Except.isOk, Except.toBool]

/-- Property values make the round trip through their source: every value without null is written
and read back as it was, with the order of items and members and with integers apart from floats;
writing fails on the values with a null and on no others; and whatever is read from a text can be
written and read again. -/
theorem write_read_round_trip :
    (∀ v : Json, v.WellFormed → v.NullFree → ∃ text, write v = .ok text ∧ read text = .ok v) ∧
    (∀ v : Json, (∃ e, write v = .error e) ↔ ¬ v.NullFree) ∧
    (∀ (text : String) (v : Json), read text = .ok v →
      v.NullFree ∧ ∃ text', write v = .ok text' ∧ read text' = .ok v) := by
  refine ⟨fun v hv hnull => exists_write_read hv hnull, fun v => exists_write_error_iff, ?_⟩
  intro text v h
  obtain ⟨hv, hnull⟩ := read_eq_ok h
  exact ⟨hnull, exists_write_read hv hnull⟩

/-- An object whose keys are written in all three forms, with numbers at the bounds of a word, a
zero with a sign, and characters that are escaped. -/
theorem write_read_round_trip_of_extremes :
    let v : Json := .obj [("__proto__", .arr [.int 0xFFFFFFFFFFFFFFFF, .int (-0x8000000000000000)]),
      ("", .float (Float.ofBits 0x8000000000000000)), ("a", .str "\"\\\n\u2028"), ("b", .obj [])]
    v.WellFormed ∧ v.NullFree ∧ ∃ text, write v = .ok text ∧ read text = .ok v := by
  intro v
  have hv : v.WellFormed := by decide +kernel
  have hnull : v.NullFree := by decide
  exact ⟨hv, hnull, write_read_round_trip.1 v hv hnull⟩

end ComponentCanvas.Property
