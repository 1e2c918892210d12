import ComponentCanvas.Proofs.Property.Markup

/-!
# Paths of Nulls

A value with a null in it has no source, and the error names the path of the first null.  The path
is built on the way down: the steps to the null are put behind the path of the value.  An attribute
is written from the empty path, and the key of the attribute is put in front of what comes out.
Where the first step inside an attribute is to a member, the two ways of naming a null agree exactly
if the key of that member neither is empty nor opens with a bracket.
-/

namespace ComponentCanvas.Property

/-! ## Steps and paths -/

/-- A step from a value to a value in it. -/
inductive PathStep where
  | item (index : ℕ)
  | member (key : String)
deriving DecidableEq

/-- The path of what steps lead to from a value at a path. -/
def pathFrom (path : String) : List PathStep → String
  | [] => path
  | .item index :: rest => pathFrom (itemPath path index) rest
  | .member key :: rest => pathFrom (memberPath path key) rest

/-- Steps as they stand behind a path that is not empty. -/
def stepsText : List PathStep → String
  | [] => ""
  | .item index :: rest => "[" ++ toString index ++ "]" ++ stepsText rest
  | .member key :: rest => "." ++ key ++ stepsText rest

theorem itemPath_ne_empty (path : String) (index : ℕ) : itemPath path index ≠ "" := by
  simp [itemPath]

theorem itemPath_append (path : String) (index : ℕ) (text : String) :
    itemPath path index ++ text = path ++ ("[" ++ toString index ++ "]" ++ text) := by
  simp only [itemPath, String.append_assoc]

theorem memberPath_of_ne_empty {path : String} (h : path ≠ "") (key : String) :
    memberPath path key = path ++ "." ++ key :=
  if_neg (by simpa using h)

@[simp] theorem memberPath_empty (key : String) : memberPath "" key = key := rfl

/-- Behind a path that is not empty, the path of a value shows each step. -/
theorem pathFrom_of_ne_empty {path : String} (h : path ≠ "") (steps : List PathStep) :
    pathFrom path steps = path ++ stepsText steps := by
  induction steps generalizing path with
  | nil => simp [pathFrom, stepsText]
  | cons step rest ih =>
    cases step with
    | item index =>
      rw [pathFrom, ih (itemPath_ne_empty path index), itemPath_append, stepsText]
    | member key =>
      -- a path that is not empty stays so on the way, even at an empty key
      have hkey : memberPath path key ≠ "" := by simp [memberPath_of_ne_empty h]
      rw [pathFrom, ih hkey, memberPath_of_ne_empty h, stepsText]
      simp only [String.append_assoc]

/-- From the empty path, a step to an item shows as it does behind any path. -/
theorem pathFrom_empty_item (index : ℕ) (rest : List PathStep) :
    pathFrom "" (.item index :: rest) = stepsText (.item index :: rest) := by
  rw [pathFrom, pathFrom_of_ne_empty (itemPath_ne_empty "" index), itemPath_append, stepsText,
    String.empty_append]

/-! ## The first null -/

/-- The first null in a value, in the order in which the value is written, is where the steps
lead. -/
inductive FirstNull : Json → List PathStep → Prop
  | here : FirstNull .null []
  | item {earlier later : List Json} {v : Json} {steps : List PathStep}
      (hearlier : Json.NullFreeItems earlier) (hv : FirstNull v steps) :
      FirstNull (.arr (earlier ++ v :: later)) (.item earlier.length :: steps)
  | member {earlier later : Bag} {key : String} {v : Json} {steps : List PathStep}
      (hearlier : Json.NullFreeMembers earlier) (hv : FirstNull v steps) :
      FirstNull (.obj (earlier ++ (key, v) :: later)) (.member key :: steps)

mutual

/-- A value that is not free of null has a first one. -/
theorem exists_firstNull : ∀ (v : Json), ¬ v.NullFree → ∃ steps, FirstNull v steps
  | .null, _ => ⟨[], .here⟩
  | .bool _, h | .int _, h | .float _, h | .str _, h => absurd trivial h
  | .arr items, h => by
    obtain ⟨earlier, v, later, steps, rfl, hearlier, hv⟩ := exists_firstNull_items items h
    exact ⟨_, .item hearlier hv⟩
  | .obj members, h => by
    obtain ⟨earlier, key, v, later, steps, rfl, hearlier, hv⟩ := exists_firstNull_members members h
    exact ⟨_, .member hearlier hv⟩

/-- Items that are not free of null have a first one that is not. -/
private theorem exists_firstNull_items : ∀ (items : List Json), ¬ Json.NullFreeItems items →
    ∃ earlier v later steps, items = earlier ++ v :: later ∧ Json.NullFreeItems earlier ∧
      FirstNull v steps
  | [], h => absurd trivial h
  | item :: rest, h => by
    by_cases hitem : item.NullFree
    · obtain ⟨earlier, v, later, steps, rfl, hearlier, hv⟩ :=
        exists_firstNull_items rest fun hrest => h ⟨hitem, hrest⟩
      exact ⟨item :: earlier, v, later, steps, rfl, ⟨hitem, hearlier⟩, hv⟩
    · obtain ⟨steps, hsteps⟩ := exists_firstNull item hitem
      exact ⟨[], item, rest, steps, rfl, trivial, hsteps⟩

/-- Members that are not free of null have a first one that is not. -/
private theorem exists_firstNull_members : ∀ (members : Bag), ¬ Json.NullFreeMembers members →
    ∃ earlier key v later steps, members = earlier ++ (key, v) :: later ∧
      Json.NullFreeMembers earlier ∧ FirstNull v steps
  | [], h => absurd trivial h
  | (key, value) :: rest, h => by
    by_cases hvalue : value.NullFree
    · obtain ⟨earlier, key', v, later, steps, rfl, hearlier, hv⟩ :=
        exists_firstNull_members rest fun hrest => h ⟨hvalue, hrest⟩
      exact ⟨(key, value) :: earlier, key', v, later, steps, rfl, ⟨hvalue, hearlier⟩, hv⟩
    · obtain ⟨steps, hsteps⟩ := exists_firstNull value hvalue
      exact ⟨[], key, value, rest, steps, rfl, trivial, hsteps⟩

end

/-! ## The path in an error -/

variable {v : Json} {path : String} {e : WriteError}

/-- Items are written up to the first that has no source. -/
theorem writeItems_eq_error {earlier later : List Json} {index : ℕ}
    (hearlier : Json.NullFreeItems earlier)
    (hv : writeAt (itemPath path (index + earlier.length)) v = .error e) :
    writeItems path index (earlier ++ v :: later) = .error e := by
  induction earlier generalizing index with
  | nil =>
    rw [List.nil_append, writeItems]
    exact bind_eq_error.mpr (.inl hv)
  | cons item rest ih =>
    -- an item without null is written, and the null is one place nearer
    obtain ⟨text, htext⟩ := isOk_iff.mp ((isOk_writeAt item (itemPath path index)).mpr hearlier.1)
    have hrest : writeItems path (index + 1) (rest ++ v :: later) = .error e := by
      refine ih hearlier.2 ?_
      rwa [List.length_cons, Nat.add_comm rest.length, ← Nat.add_assoc] at hv
    rw [List.cons_append, writeItems]
    exact bind_eq_error.mpr (.inr ⟨text, htext, bind_eq_error.mpr (.inl hrest)⟩)

/-- Members are written up to the first that has no source. -/
theorem writeMembers_eq_error {earlier later : Bag} {key : String}
    (hearlier : Json.NullFreeMembers earlier)
    (hv : writeAt (memberPath path key) v = .error e) :
    writeMembers path (earlier ++ (key, v) :: later) = .error e := by
  induction earlier with
  | nil =>
    rw [List.nil_append, writeMembers]
    exact bind_eq_error.mpr (.inl hv)
  -- the members in front of the null can be written
  | cons member rest ih =>
    obtain ⟨key', value⟩ := member
    obtain ⟨text, htext⟩ :=
      isOk_iff.mp ((isOk_writeAt value (memberPath path key')).mpr hearlier.1)
    rw [List.cons_append, writeMembers]
    exact bind_eq_error.mpr
      (.inr ⟨text, htext, bind_eq_error.mpr (.inl (ih hearlier.2))⟩)

theorem writeAt_arr_eq_error {items : List Json} (h : writeItems path 0 items = .error e) :
    writeAt path (.arr items) = .error e := by
  rw [writeAt]
  exact bind_eq_error.mpr (.inl h)

theorem writeAt_obj_eq_error {members : Bag} (h : writeMembers path members = .error e) :
    writeAt path (.obj members) = .error e := by
  cases members with
  | nil => cases h
  | cons member rest =>
    rw [writeAt]
    exact bind_eq_error.mpr (.inl h)

/-- The error of a value at a path names the path of its first null. -/
theorem writeAt_of_firstNull {steps : List PathStep} (h : FirstNull v steps) (path : String) :
    writeAt path v = .error (.nullValue (pathFrom path steps)) := by
  induction h generalizing path with
  | here => rfl
  | item hearlier _ ih =>
    exact writeAt_arr_eq_error (writeItems_eq_error hearlier (by rw [ih, Nat.zero_add]; rfl))
  | member hearlier _ ih =>
    exact writeAt_obj_eq_error (writeMembers_eq_error hearlier (ih _))

/-! ## The path in an error of an attribute -/

/-- An attribute fails as its value does, in whichever form it is written. -/
theorem attributeChars_eq_error : attributeChars v = .error e ↔ writeAt "" v = .error e := by
  refine ⟨writeAt_of_attributeChars_eq_error, fun h => ?_⟩
  cases hchars : attributeChars v with
  | error e' =>
    -- the attribute fails for the reason that the value has
    rw [writeAt_of_attributeChars_eq_error hchars] at h
    exact h
  | ok text =>
    have hok := (isOk_writeAt v "").mpr ((isOk_attributeChars v).mp (by rw [hchars]; rfl))
    rw [h] at hok
    cases hok

/-- Attributes are written up to the first that has no text. -/
theorem attributesChars_eq_error {earlier later : Bag} {key : String}
    (hnames : ∀ entry ∈ earlier ++ (key, v) :: later, isAttributeName entry.1 = true)
    (hearlier : Json.NullFreeMembers earlier) (hv : attributeChars v = .error e) :
    attributesChars (earlier ++ (key, v) :: later) = .error (e.below key) := by
  induction earlier with
  | nil =>
    rw [List.nil_append, attributesChars, if_pos (hnames _ (List.mem_cons_self ..)), hv]
    rfl
  -- the attributes in front of the null can be written
  | cons entry rest ih =>
    obtain ⟨key', value⟩ := entry
    rw [List.cons_append, List.forall_mem_cons] at hnames
    obtain ⟨text, htext⟩ := isOk_iff.mp ((isOk_attributeChars value).mpr hearlier.1)
    rw [List.cons_append, attributesChars, if_pos hnames.1, htext, ih hnames.2 hearlier.2]
    rfl

/-! ## The key in front of a path -/

/-- Each step adds at most what shows behind a path that is not empty. -/
theorem length_pathFrom_le (path : String) (steps : List PathStep) :
    (pathFrom path steps).length ≤ path.length + (stepsText steps).length := by
  induction steps generalizing path with
  | nil => simp [pathFrom]
  | cons step rest ih =>
    cases step with
    | item index =>
      -- the index stands in its brackets either way
      refine (ih _).trans_eq ?_
      simp only [itemPath, stepsText, String.length_append]
      omega
    | member key =>
      -- the dot may be missing in front of a member
      have hmember : (memberPath path key).length ≤ path.length + ".".length + key.length := by
        rw [memberPath]
        split
        · omega
        · simp only [String.length_append, Nat.le_refl]
      refine (ih _).trans ?_
      simp only [stepsText, String.length_append]
      omega

/-- The dot in front of a member does not show from the empty path. -/
theorem length_pathFrom_empty_lt (key : String) (rest : List PathStep) :
    (pathFrom "" (.member key :: rest)).length < (stepsText (.member key :: rest)).length := by
  have hrest := length_pathFrom_le key rest
  have hdot : ".".length = 1 := rfl
  rw [pathFrom, memberPath_empty, stepsText, String.length_append, String.length_append]
  omega

/-- Whether a path from the empty path looks like one of the value itself or of an item of it. -/
def OpensLikeItem (path : String) : Prop := path = "" ∨ path.toList.head? = some '['

/-- A path that opens like an item is put right behind the key. -/
theorem pathBelow_of_opensLikeItem {path : String} (h : OpensLikeItem path) (key : String) :
    pathBelow key path = key ++ path := by
  rcases h with rfl | h
  · simp [pathBelow]
  · have hne : path ≠ "" := by
      rintro rfl
      cases h
    rw [pathBelow, if_neg (by simpa using hne), h]
    rfl

theorem pathBelow_of_not_opensLikeItem {path : String} (h : ¬ OpensLikeItem path) (key : String) :
    pathBelow key path = key ++ "." ++ path := by
  obtain ⟨hempty, hbracket⟩ := not_or.mp h
  rw [pathBelow, if_neg (by simpa using hempty), if_neg (by simpa using hbracket)]

theorem opensLikeItem_append {path : String} (h : path ≠ "") (text : String) :
    OpensLikeItem (path ++ text) ↔ OpensLikeItem path := by
  obtain ⟨c, rest, hpath⟩ := List.exists_cons_of_ne_nil (mt String.toList_eq_nil_iff.mp h)
  simp [OpensLikeItem, h, hpath]

/-- Behind the key of an attribute shows at most what shows behind a path that is not empty. -/
theorem length_pathBelow_le (key : String) (steps : List PathStep) :
    (pathBelow key (pathFrom "" steps)).length ≤ key.length + (stepsText steps).length := by
  by_cases hopens : OpensLikeItem (pathFrom "" steps)
  · rw [pathBelow_of_opensLikeItem hopens, String.length_append]
    exact Nat.add_le_add_left ((length_pathFrom_le "" steps).trans_eq (Nat.zero_add _)) _
  · -- only a step to a member comes to this, and the dot was missing in front of it
    rcases steps with _ | ⟨index | inner, rest⟩
    · exact absurd (.inl rfl) hopens
    · exact absurd (.inr (by rw [pathFrom_empty_item]; simp [stepsText])) hopens
    · have hlt := length_pathFrom_empty_lt inner rest
      have hdot : ".".length = 1 := rfl
      rw [pathBelow_of_not_opensLikeItem hopens, String.length_append, String.length_append]
      omega

/-- Whether the first step is to a member whose key looks like no step or like a step to an item. -/
def Misread : List PathStep → Prop
  | .member key :: _ => OpensLikeItem key
  | _ => False

/-- The path behind the key of an attribute is the path from that key on exactly if it is not
misread. -/
theorem pathBelow_eq_iff {key : String} (h : key ≠ "") (steps : List PathStep) :
    pathBelow key (pathFrom "" steps) = pathFrom key steps ↔ ¬ Misread steps := by
  have hdot : ".".length = 1 := rfl
  rw [pathFrom_of_ne_empty h]
  -- the null itself, an item, or a member below the attribute
  rcases steps with _ | ⟨index | inner, rest⟩
  · refine iff_of_true ?_ id
    rw [pathFrom, pathBelow_of_opensLikeItem (.inl rfl), stepsText]
  · refine iff_of_true ?_ id
    rw [pathFrom_empty_item, pathBelow_of_opensLikeItem (.inr (by simp [stepsText]))]
  rw [pathFrom, memberPath_empty, stepsText]
  by_cases hempty : inner = ""
  · -- the step leaves no trace in the path
    subst hempty
    refine iff_of_false (fun heq => ?_) (not_not.mpr (.inl rfl))
    have hlength := length_pathBelow_le key rest
    rw [heq] at hlength
    simp only [String.length_append] at hlength
    omega
  rw [pathFrom_of_ne_empty hempty]
  by_cases hopens : OpensLikeItem inner
  · -- no dot is put in front of the member
    refine iff_of_false (fun heq => ?_) (not_not.mpr hopens)
    have hlength := congrArg String.length heq
    rw [pathBelow_of_opensLikeItem ((opensLikeItem_append hempty _).mpr hopens)] at hlength
    simp only [String.length_append] at hlength
    omega
  · refine iff_of_true ?_ hopens
    rw [pathBelow_of_not_opensLikeItem (mt (opensLikeItem_append hempty _).mp hopens)]
    simp only [String.append_assoc]

/-! ## The two errors -/

theorem write_eq_error {v : Json} {e : WriteError} :
    write v = .error e ↔ writeAt "" v = .error e :=
  bind_pure_eq_error

/-- The source of an object names the path of the first null in it. -/
theorem write_of_firstNull {bag : Bag} {key : String} {steps : List PathStep}
    (h : FirstNull (.obj bag) (.member key :: steps)) :
    write (.obj bag) = .error (.nullValue (pathFrom key steps)) :=
  write_eq_error.mpr (writeAt_of_firstNull h "")

/-- Markup puts the key of the attribute in front of the path of the first null inside it. -/
theorem markup_of_firstNull {bag : Bag} (hnames : ∀ entry ∈ bag, isAttributeName entry.1 = true)
    {key : String} {steps : List PathStep} (h : FirstNull (.obj bag) (.member key :: steps))
    (typeId : String) :
    markup typeId bag = .error (.nullValue (pathBelow key (pathFrom "" steps))) := by
  cases h with
  | member hearlier hv =>
    have hattribute := attributeChars_eq_error.mpr (writeAt_of_firstNull hv "")
    exact markup_eq_error.mpr (attributesChars_eq_error hnames hearlier hattribute)

/-- Markup and source of a bag whose keys can all name attributes.  Both fail exactly if there is a
null in the bag, and then because of the first one: the source names the path of that null, and the
markup puts the key in front of the path inside its attribute.  The two are the same path exactly if
the latter is not misread. -/
theorem null_paths (typeId : String) (bag : Bag)
    (hnames : ∀ entry ∈ bag, isAttributeName entry.1 = true) :
    ((∃ e, markup typeId bag = .error e) ↔ ∃ e, write (.obj bag) = .error e) ∧
    (∀ e e', markup typeId bag = .error e → write (.obj bag) = .error e' →
      ∃ key steps, FirstNull (.obj bag) (.member key :: steps) ∧
        e = .nullValue (pathBelow key (pathFrom "" steps)) ∧
        e' = .nullValue (pathFrom key steps) ∧
        (e = e' ↔ ¬ Misread steps)) := by
  by_cases hfree : Json.NullFreeMembers bag
  · -- neither fails
    have hmarkup : ∀ e, markup typeId bag ≠ .error e := by
      intro e he
      obtain ⟨text, htext⟩ := isOk_iff.mp ((isOk_attributesChars bag).mpr fun entry hentry =>
        ⟨hnames entry hentry, Json.nullFreeMembers_iff.mp hfree entry hentry⟩)
      cases htext.symm.trans (markup_eq_error.mp he)
    have hwrite : ∀ e, write (.obj bag) ≠ .error e := by
      intro e he
      obtain ⟨text, htext⟩ := isOk_iff.mp ((isOk_writeAt (.obj bag) "").mpr hfree)
      cases htext.symm.trans (write_eq_error.mp he)
    exact ⟨iff_of_false (not_exists.mpr hmarkup) (not_exists.mpr hwrite),
      fun e _ he => absurd he (hmarkup e)⟩
  · obtain ⟨earlier, key, v, later, steps, rfl, hearlier, hv⟩ :=
      exists_firstNull_members bag hfree
    -- the first null of the bag, which both ways of writing come to
    have hfirst : FirstNull (.obj (earlier ++ (key, v) :: later)) (.member key :: steps) :=
      .member hearlier hv
    have hmarkup := markup_of_firstNull hnames hfirst typeId
    have hwrite := write_of_firstNull hfirst
    -- a name of an attribute is not empty, so the paths differ by the dot alone
    have hkey : key ≠ "" := by
      rintro rfl
      exact absurd (hnames ("", v) (by simp)) (show ¬ isAttributeName "" = true by decide)
    refine ⟨iff_of_true ⟨_, hmarkup⟩ ⟨_, hwrite⟩, fun e e' he he' => ?_⟩
    obtain rfl := Except.error.inj (hmarkup.symm.trans he)
    obtain rfl := Except.error.inj (hwrite.symm.trans he')
    exact ⟨key, steps, hfirst, rfl, rfl,
      by rw [WriteError.nullValue.injEq, pathBelow_eq_iff hkey]⟩

/-- The null in a list of a list of an attribute. -/
theorem null_paths_of_items :
    let bag : Bag := [("size", .int 3), ("rows", .arr [.arr [], .arr [.bool true, .null]])]
    let e := WriteError.nullValue "rows[1][1]"
    (∀ entry ∈ bag, isAttributeName entry.1 = true) ∧
    markup "Grid" bag = .error e ∧ write (.obj bag) = .error e ∧
      ((∃ e, markup "Grid" bag = .error e) ↔ ∃ e, write (.obj bag) = .error e) ∧
      ∃ key steps, FirstNull (.obj bag) (.member key :: steps) ∧
        e = .nullValue (pathBelow key (pathFrom "" steps)) ∧
        e = .nullValue (pathFrom key steps) ∧ (e = e ↔ ¬ Misread steps) := by
  intro bag e
  have hnames : ∀ entry ∈ bag, isAttributeName entry.1 = true := by decide
  have hmarkup : markup "Grid" bag = .error e := by decide +kernel
  have hwrite : write (.obj bag) = .error e := by decide +kernel
  obtain ⟨hfails, hpaths⟩ := null_paths "Grid" bag hnames
  exact ⟨hnames, hmarkup, hwrite, hfails, hpaths e e hmarkup hwrite⟩

/-- The key of a null inside an attribute is empty: markup names the attribute. -/
theorem null_path_misread :
    let bag : Bag := [("k", .obj [("", .null)])]
    (∀ entry ∈ bag, isAttributeName entry.1 = true) ∧
    markup "Card" bag = .error (.nullValue "k") ∧
      write (.obj bag) = .error (.nullValue "k.") ∧
      WriteError.nullValue "k" ≠ .nullValue "k." := by
  decide +kernel

end ComponentCanvas.Property
