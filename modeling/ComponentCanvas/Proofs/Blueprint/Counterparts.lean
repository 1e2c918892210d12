import ComponentCanvas.Blueprint.Compilation
import ComponentCanvas.Blueprint.Rendering
import ComponentCanvas.Proofs.Script.Names
import ComponentCanvas.Proofs.Text.Pieces
import ComponentCanvas.Proofs.Validation.Scoping

/-!
# Counterparts

What lowering makes of the parts of a form.  Every item of an array and every argument of a call
has a counterpart, in its place.  Members of an object, attributes and children have one each or
none, in the order in which they stand.  The attributes that the grammar gives all have one, and so
has every child but empty braces and blank text.

Computed keys have no counterpart, though a form that is not understood would be kept as its text:
a member of an object with such a key is left out, and so is what a pattern takes from under one,
with all the names that it binds there.  The rest that an array pattern takes apart and the rest of
the parameters get lost in the same way.
-/

namespace ComponentCanvas.Blueprint

open Text (isBlank isBlankText trimStart trimEnd)
open Script.Parser (Gives)

/-! ## Counterparts of parts -/

section Parts

variable (env : Surroundings)

/-- The counterpart of an item of an array. -/
def lowerItem : Script.Item → Item
  | .value e | .markup e => .value (lowerExpr env e)
  | .spread _ e => .spread (lowerExpr env e)
  | .hole | .text _ => .value .undefined

/-- The counterpart of an argument. -/
def lowerArgument : Script.Item → Expr
  | .value e | .markup e => lowerExpr env e
  | .spread span _ => .unmodelled (env.slice span)
  | .hole | .text _ => .undefined

/-- The counterpart of a member of an object, if it has one. -/
def lowerMember? : Script.Member → Option Entry
  | .field false key value => (keyName? key).map fun name => .field name (lowerExpr env value)
  | .method false key f =>
    (keyName? key).map fun name => .field name (.function (lowerFunction env f))
  | .spread e => some (.spread (lowerExpr env e))
  | .field true _ _ | .method true _ _ | .hollow _ | .defaulted _ _ => none

/-- The counterpart of an attribute, if it has one. -/
def lowerAttribute? : Script.Member → Option Entry
  | .field _ key value => (keyName? key).map fun name => .field name (lowerExpr env value)
  | .spread e => some (.spread (lowerExpr env e))
  | .hollow name => some (.field name .undefined)
  | .method _ _ _ | .defaulted _ _ => none

/-- The counterpart of a child, if it has one. -/
def lowerChild? : Script.Item → Option Node
  | .value e | .spread _ e => some (.expr (lowerExpr env e))
  | .markup e => some (lowerExpr env e).toNode
  | .hole => none
  | .text raw => (markupText? raw).map .text

/-- `lowerItems` is `List.map lowerItem`. -/
theorem lowerItems_eq_map (items : List Script.Item) :
    lowerItems env items = items.map (lowerItem env) := by
  induction items with
  | nil => rfl
  | cons item rest ih => cases item <;> rw [lowerItems, List.map_cons, lowerItem, ih]

/-- `lowerArguments` is `List.map lowerArgument`. -/
theorem lowerArguments_eq_map (args : List Script.Item) :
    lowerArguments env args = args.map (lowerArgument env) := by
  induction args with
  | nil => rfl
  | cons arg rest ih => cases arg <;> rw [lowerArguments, List.map_cons, lowerArgument, ih]

/-- A function that makes at most one thing of each item, and goes on with the rest, is a filter. -/
theorem eq_filterMap {α β : Type} {f : List α → List β} {part? : α → Option β} (hnil : f [] = [])
    (hcons : ∀ a rest, f (a :: rest) = (part? a).toList ++ f rest) (as : List α) :
    f as = as.filterMap part? := by
  induction as with
  | nil => exact hnil
  | cons a rest ih =>
    rw [hcons, ih, List.filterMap_cons]
    cases part? a <;> rfl

/-- `lowerMembers` is `List.filterMap lowerMember?`. -/
theorem lowerMembers_eq_filterMap (members : List Script.Member) :
    lowerMembers env members = members.filterMap (lowerMember? env) := by
  refine eq_filterMap rfl (fun member rest => ?_) members
  cases member with
  | field computed key value | method computed key value =>
    -- the entry is there if the key is not computed and has a name
    cases computed <;> cases hkey : keyName? key <;> simp [lowerMembers, lowerMember?, hkey]
  | spread e => rw [lowerMembers, lowerMember?, Option.toList_some, List.singleton_append]
  | hollow name => rw [lowerMembers, lowerMember?, Option.toList_none, List.nil_append]
  | defaulted name value => rw [lowerMembers, lowerMember?, Option.toList_none, List.nil_append]

/-- `lowerAttributes` is `List.filterMap lowerAttribute?`. -/
theorem lowerAttributes_eq_filterMap (members : List Script.Member) :
    lowerAttributes env members = members.filterMap (lowerAttribute? env) := by
  refine eq_filterMap rfl (fun member rest => ?_) members
  cases member with
  | field computed key value =>
    cases hkey : keyName? key <;> simp [lowerAttributes, lowerAttribute?, hkey]
  | _ => simp [lowerAttributes, lowerAttribute?]

/-- `lowerChildren` is `List.filterMap lowerChild?`. -/
theorem lowerChildren_eq_filterMap (children : List Script.Item) :
    lowerChildren env children = children.filterMap (lowerChild? env) := by
  refine eq_filterMap rfl (fun child rest => ?_) children
  cases child with
  | text raw => cases htext : markupText? raw <;> simp [lowerChildren, lowerChild?, htext]
  | _ => simp [lowerChildren, lowerChild?]

end Parts

/-! ## Names of patterns -/

mutual

/-- The names that a pattern binds. -/
def Pattern.names : Pattern → List String
  | .name name => [name]
  | .object slots rest | .array slots rest => Slot.listNames slots ++ rest.toList
  | .withDefault pattern _ => pattern.names

/-- The names that items of a pattern bind. -/
def Slot.listNames : List Slot → List String
  | [] => []
  | .field _ pattern :: more | .element pattern :: more => pattern.names ++ Slot.listNames more
  | .hole :: more => Slot.listNames more

end

mutual

/-- The names that a scripted pattern binds, but its counterpart does not. -/
def lostNames : Script.Pattern → List String
  | .name _ => []
  | .object items | .array items =>
    -- the first name for the rest is the one that is kept
    lostBelow items ++ (items.filterMap restName?).drop 1
  | .withDefault pattern _ => lostNames pattern

/-- The names that get lost in the items of a pattern: all those under a key that is computed, and
all those of a rest that is taken apart. -/
def lostBelow : List Script.PatternItem → List String
  | [] => []
  | .field key value :: more =>
    (if (keyName? key).isSome then lostNames value else value.names) ++ lostBelow more
  | .element value :: more => lostNames value ++ lostBelow more
  | .hole :: more => lostBelow more
  | .rest value :: more =>
    (if (restName? (.rest value)).isSome then [] else value.names) ++ lostBelow more

end

section Names

variable (env : Surroundings) (n : String)

/-- The first name for the rest and the further ones are all of them. -/
theorem count_restNames (items : List Script.PatternItem) :
    (items.filterMap restName?).count n =
      (items.findSome? restName?).toList.count n +
        ((items.filterMap restName?).drop 1).count n := by
  rw [← List.head?_filterMap]
  cases items.filterMap restName? with
  | nil => rfl
  | cons first more =>
    rw [List.head?_cons, Option.toList_some, List.drop_one, List.tail_cons, ← List.count_append,
      List.singleton_append]

mutual

/-- A pattern binds a name as often as its counterpart does, and as often as it gets lost. -/
theorem count_names : (p : Script.Pattern) →
    p.names.count n = (lowerPattern env p).names.count n + (lostNames p).count n
  | .name name => by simp [Script.Pattern.names, lowerPattern, Pattern.names, lostNames]
  -- every name stands in an item that is kept, in one that is lost, or behind the dots
  | .object items | .array items => by
    have hitems := count_listNames items
    have hrests := count_restNames n items
    simp only [Script.Pattern.names, lowerPattern, Pattern.names, lostNames, List.count_append]
    omega
  | .withDefault pattern _ => by
    rw [Script.Pattern.names, lowerPattern, Pattern.names, lostNames]
    exact count_names pattern

theorem count_listNames : (items : List Script.PatternItem) →
    (Script.PatternItem.listNames items).count n =
      (Slot.listNames (lowerSlots env items)).count n + (items.filterMap restName?).count n +
        (lostBelow items).count n
  | [] => rfl
  | .field key value :: more => by
    have hvalue := count_names value
    have hmore := count_listNames more
    simp only [Script.PatternItem.listNames, Script.PatternItem.names, lowerSlots, lostBelow,
      List.filterMap_cons, restName?, List.count_append]
    -- under a known key the names of the value are shared out, under no key all of them get lost
    cases keyName? key <;> simp [Slot.listNames] <;> omega
  | .element value :: more => by
    have hvalue := count_names value
    have hmore := count_listNames more
    simp only [Script.PatternItem.listNames, Script.PatternItem.names, lowerSlots, Slot.listNames,
      lostBelow, List.filterMap_cons, restName?, List.count_append]
    omega
  | .hole :: more => by
    have hmore := count_listNames more
    simpa [Script.PatternItem.listNames, Script.PatternItem.names, lowerSlots, Slot.listNames,
      lostBelow, List.filterMap_cons, restName?] using hmore
  | .rest value :: more => by
    have hmore := count_listNames more
    -- a name for the rest is kept, a pattern for it is not
    cases value <;>
      simp [Script.PatternItem.listNames, Script.PatternItem.names, Script.Pattern.names,
        lowerSlots, lostBelow, List.filterMap_cons, restName?, List.count_cons] <;> omega

end

end Names

section Params

variable (env : Surroundings)

/-- The names of a parameter that get lost: all those of the one that takes the rest. -/
def lostOfParam : Script.Binder → List String
  | .mk _ rest _ pattern _ _ => if rest then pattern.names else lostNames pattern

/-- Parameters bind a name as often as their counterparts do, and as often as it gets lost. -/
theorem count_paramNames (n : String) (params : List Script.Binder) :
    (params.flatMap Script.Binder.names).count n =
      ((lowerParams env params).flatMap Pattern.names).count n +
        (params.flatMap lostOfParam).count n := by
  induction params with
  | nil => rfl
  | cons binder params ih =>
    obtain ⟨span, rest, decorators, pattern, types, init⟩ := binder
    have hpattern := count_names env n pattern
    -- the parameter that takes the rest has no counterpart
    rw [lowerParams]
    cases rest <;> simp [Script.Binder.names, lostOfParam] <;> omega

end Params

/-! ## Text between tags -/

/-- A character of a later line is shown, unless it is blank. -/
theorem mem_laterLines {lines : List (List Char)} {line : List Char} {c : Char}
    (hline : line ∈ lines) (hc : c ∈ line) :
    isBlank c = true ∨ ∃ shown ∈ laterLines lines, c ∈ shown := by
  fun_induction laterLines lines with
  | case1 => cases hline
  | case2 last =>
    obtain rfl := List.mem_singleton.mp hline
    exact (Text.mem_trimStart hc).imp_right fun hc => ⟨_, List.mem_cons_self .., hc⟩
  -- a line between two breaks is trimmed at both ends, the last one only at its start
  | case3 first others hothers ih =>
    rcases List.mem_cons.mp hline with rfl | hline
    · rcases Text.mem_trimStart hc with hc | hc
      · exact .inl hc
      · exact (Text.mem_trimEnd hc).imp_right fun hc => ⟨_, List.mem_cons_self .., hc⟩
    rcases ih hline with hc | ⟨shown, hshown, hc⟩
    · exact .inl hc
    · exact .inr ⟨shown, List.mem_cons_of_mem _ hshown, hc⟩

/-- Blanks are all that is taken from lines at their ends. -/
theorem mem_trimmedLines {lines : List (List Char)} {line : List Char} {c : Char}
    (hline : line ∈ lines) (hc : c ∈ line) :
    isBlank c = true ∨ ∃ shown ∈ trimmedLines lines, c ∈ shown := by
  fun_cases trimmedLines lines with
  | case1 => cases hline
  | case2 only => exact .inr ⟨line, hline, hc⟩
  -- the first line keeps its start, and the others are later lines
  | case3 first others hothers =>
    rcases List.mem_cons.mp hline with rfl | hline
    · exact (Text.mem_trimEnd hc).imp_right fun hc => ⟨_, List.mem_cons_self .., hc⟩
    rcases mem_laterLines hline hc with hc | ⟨shown, hshown, hc⟩
    · exact .inl hc
    · exact .inr ⟨shown, List.mem_cons_of_mem _ hshown, hc⟩

/-- Only blank text is not shown. -/
theorem isBlankText_of_markupText? {raw : String} (h : markupText? raw = none) :
    isBlankText raw = true := by
  rw [isBlankText, List.all_eq_true]
  intro c hc
  unfold markupText? at h
  dsimp only at h
  split at h
  · split at h
    · next hparts =>
      -- every character stands in a line or ends one, and every line is empty once it is trimmed
      rcases Text.mem_lines hc with rfl | rfl | ⟨line, hline, hc⟩
      · decide
      · decide
      · rcases mem_trimmedLines hline hc with hblank | ⟨shown, hshown, hc⟩
        · exact hblank
        · have hempty : shown = [] := by simpa using List.filter_eq_nil_iff.mp hparts shown hshown
          rw [hempty] at hc
          cases hc
    · cases h
  · split at h
    · next hempty =>
      rw [List.isEmpty_iff.mp hempty] at hc
      cases hc
    · cases h

/-! ## What has no counterpart -/

section Dropped

variable {env : Surroundings}

/-- Whether an object leaves a member out: one under a key that is computed, or that is no string
and no number.  Neither empty braces nor a name with a default are members of an object. -/
def isLeftOut : Script.Member → Bool
  | .field computed key _ | .method computed key _ => computed || (keyName? key).isNone
  | .spread _ => false
  | .hollow _ | .defaulted _ _ => true

theorem lowerMember?_eq_none {member : Script.Member} :
    lowerMember? env member = none ↔ isLeftOut member = true := by
  cases member with
  | field computed key value | method computed key value =>
    cases computed <;> simp [lowerMember?, isLeftOut]
  | _ => simp [lowerMember?, isLeftOut]

/-- A child that has no counterpart is a pair of empty braces or blank text. -/
theorem lowerChild?_eq_none {child : Script.Item} (h : lowerChild? env child = none) :
    child = .hole ∨ ∃ raw, child = .text raw ∧ isBlankText raw = true := by
  cases child with
  | hole => exact .inl rfl
  | text raw => exact .inr ⟨raw, rfl, isBlankText_of_markupText? (Option.map_eq_none_iff.mp h)⟩
  | _ => cases h

/-! ## Attributes -/

/-- Whether all attributes of an element have counterparts. -/
def KeepsAttributes (env : Surroundings) : Script.Expr → Prop
  | .mk _ (.element _ _ attributes _) => ∀ member ∈ attributes, (lowerAttribute? env member).isSome
  | _ => True

open Script Script.Parser

variable {g : Grammar}

theorem gives_finish {start : Nat} {form : ExprForm} :
    Gives (finish start form) fun e => ∃ span, e = .mk span form :=
  gives_bind fun span => gives_pure ⟨span, rfl⟩

theorem gives_finishMarkup {start : Nat} {form : ExprForm} :
    Gives (finishMarkup start form) fun e => ∃ span, e = .mk span form :=
  gives_bind fun c => gives_pure ⟨⟨start, c.stop⟩, rfl⟩

/-- A step before which a value is read or stands already. -/
theorem gives_joined {α β γ : Type} {b : Prop} [Decidable b] {p : Parser α} {make : α → β} {a : β}
    {f : β → Parser γ} {R : γ → Prop} (hf : ∀ a, Gives (f a) R) :
    Gives (if b then p >>= fun x => pure (make x) >>= f else pure a >>= f) R := by
  split
  · exact gives_bind fun _ => gives_bind hf
  · exact gives_bind hf

/-- The key of an attribute is its name. -/
theorem gives_markupAttribute :
    Gives (markupAttribute g) fun member => (lowerAttribute? env member).isSome := by
  refine gives_bind fun start => gives_bind fun opens => ?_
  split
  · exact gives_bind fun _ => gives_bind fun e => gives_bind fun _ => gives_pure rfl
  -- a name of one word or of two goes on alike
  refine gives_bind fun first => gives_bind fun more => gives_joined fun name => ?_
  refine gives_finish.bind ?_
  rintro _ ⟨span, rfl⟩
  refine gives_bind fun hasValue => ?_
  split
  · refine gives_bind fun value => ?_
    split <;> exact gives_pure rfl
  · exact gives_bind fun e => gives_pure rfl

/-- Markup is read with attributes that all have a counterpart. -/
theorem gives_attributes :
    Gives (repeating [] fun acc => do
      if (← atPunct ">") || (← atPunct "/") then return .inr acc.reverse
      else return .inl ((← markupAttribute g) :: acc))
      fun attributes => ∀ member ∈ attributes, (lowerAttribute? env member).isSome := by
  refine gives_repeating (fun acc => ∀ member ∈ acc, (lowerAttribute? env member).isSome)
    (by simp) fun acc hacc => ?_
  refine gives_bind fun _ => gives_bind fun _ => ?_
  split
  · exact gives_pure fun member hmember => hacc member (List.mem_reverse.mp hmember)
  · exact gives_markupAttribute.bind fun member hmember =>
      gives_pure (List.forall_mem_cons.mpr ⟨hmember, hacc⟩)

/-- The grammar gives no element with an attribute that lowering leaves out. -/
theorem gives_markupStep : Gives (markupStep g) (KeepsAttributes env) := by
  refine gives_bind fun start => gives_bind fun _ => gives_bind fun isFragment => ?_
  split
  · refine gives_bind fun items => gives_bind fun _ => gives_bind fun _ => gives_bind fun _ =>
      gives_finishMarkup.imp ?_
    rintro _ ⟨span, rfl⟩
    trivial
  refine gives_bind fun tag => gives_bind fun _ => gives_bind fun _ => gives_either fun types => ?_
  refine (@gives_attributes env g).bind fun attributes hattributes => ?_
  -- with children or without them, the element has these attributes
  have hend (start : Nat) (items : List Script.Item) :
      Gives (finishMarkup start (.element tag types attributes items)) (KeepsAttributes env) := by
    refine gives_finishMarkup.imp ?_
    rintro _ ⟨span, rfl⟩
    exact hattributes
  refine gives_bind fun closes => ?_
  split
  · exact gives_bind fun _ => hend start []
  refine gives_bind fun items => gives_bind fun _ => gives_bind fun _ => gives_bind fun _ =>
    gives_when fun _ => gives_bind fun close => ?_
  dsimp only
  split
  · exact gives_bind fun _ => hend start items
  · exact gives_bind fun _ => gives_bind fun _ => hend start items

/-! ## Rests -/

/-- The names that take the rest in a pattern, without the first one. -/
def furtherRests : Script.Pattern → List String
  | .object items | .array items => (items.filterMap restName?).drop 1
  | .name _ | .withDefault _ _ => []

/-- Nothing stands behind the item that takes the rest. -/
theorem gives_separatedWithRest {α : Type} {close : String} {item rest : Parser α} {Q : α → Prop}
    (hitem : Gives item Q) :
    Gives (separatedWithRest close item rest) fun items => ∀ i ∈ items.dropLast, Q i := by
  have hreverse {acc : List α} (hacc : ∀ i ∈ acc, Q i) : ∀ i ∈ acc.reverse.dropLast, Q i :=
    fun i hi => hacc i (List.mem_reverse.mp (List.mem_of_mem_dropLast hi))
  -- the items read so far are no rest; the list ends, takes the rest and ends, or goes on
  refine gives_repeating (fun acc => ∀ i ∈ acc, Q i) (by simp) fun acc hacc => ?_
  refine gives_bind fun closes => ?_
  split
  · exact gives_pure (hreverse hacc)
  refine gives_bind fun dots => ?_
  split
  · refine gives_bind fun last => gives_bind fun _ => ?_
    -- the rest is the last of the items, which nothing is said of
    have hfront : ∀ i ∈ (last :: acc).reverse.dropLast, Q i := by
      rw [List.reverse_cons, List.dropLast_concat]
      exact fun i hi => hacc i (List.mem_reverse.mp hi)
    dsimp only
    split
    · exact gives_pure hfront
    · exact gives_bind fun _ => gives_pure hfront
  · refine hitem.bind fun a ha => gives_bind fun _ => ?_
    have hmore : ∀ i ∈ a :: acc, Q i := List.forall_mem_cons.mpr ⟨ha, hacc⟩
    split
    · exact gives_pure hmore
    refine gives_bind fun _ => ?_
    split
    · exact gives_pure (hreverse hmore)
    · exact gives_fail

/-- An item of a pattern of fields that is read as such is no rest. -/
theorem gives_objectPatternItem :
    Gives (objectPatternItem g) fun item => restName? item = none := by
  refine gives_bind fun first => gives_bind ?_
  rintro ⟨computed, key⟩
  refine gives_bind fun colon => ?_
  split
  · exact gives_bind fun _ => gives_pure rfl
  -- a name alone, perhaps with a default, is an item too
  split
  · split
    · exact gives_unexpected
    · refine gives_bind fun default => ?_
      split <;> exact gives_pure rfl
  · exact gives_unexpected

theorem gives_arrayPatternItem :
    Gives (arrayPatternItem g) fun item => restName? item = none := by
  refine gives_bind fun isHole => ?_
  split
  · exact gives_pure rfl
  · exact gives_bind fun _ => gives_pure rfl

/-- If only the last item can take the rest, at most one does. -/
theorem drop_restNames {items : List Script.PatternItem}
    (h : ∀ item ∈ items.dropLast, restName? item = none) :
    (items.filterMap restName?).drop 1 = [] := by
  obtain rfl | ⟨front, last, rfl⟩ := List.eq_nil_or_concat' items
  · rfl
  rw [List.dropLast_concat] at h
  rw [List.filterMap_append, List.filterMap_eq_nil_iff.mpr h, List.nil_append]
  cases hlast : restName? last <;> simp [hlast]

/-- The grammar gives no pattern that takes the rest twice. -/
theorem gives_patternStep_furtherRests : Gives (patternStep g) fun p => furtherRests p = [] := by
  -- a pattern of fields has its rest behind all other items, and so has a pattern of elements
  refine gives_bind fun opens => ?_
  split
  · exact (gives_separatedWithRest gives_objectPatternItem).bind fun items hitems =>
      gives_bind fun _ => gives_pure (drop_restNames hitems)
  refine gives_bind fun opens => ?_
  split
  · exact (gives_separatedWithRest gives_arrayPatternItem).bind fun items hitems =>
      gives_bind fun _ => gives_pure (drop_restNames hitems)
  · exact gives_bind fun _ => gives_pure rfl

end Dropped

/-! ## What lowering keeps -/

/-- What lowering keeps of the parts of patterns, functions and expressions, and what it drops. -/
structure KeepsParts (env : Surroundings) : Prop where
  /-- The names of a pattern are those of its counterpart and those that get lost. -/
  patterns (p : Script.Pattern) :
    p.names.Perm ((lowerPattern env p).names ++ lostNames p)
  /-- A pattern of the grammar takes the rest at most once, so that this is no loss. -/
  rests (g : Script.Grammar) :
    Gives (Script.Parser.patternStep g) fun p => furtherRests p = []
  /-- The names of parameters are those of their counterparts and those that get lost. -/
  functions (span : Text.Span) (name : Option String) (types returns : Script.TypeNote)
    (params : List Script.Binder) (hasBody : Bool) (body : List Script.Stmt) :
    (params.flatMap Script.Binder.names).Perm
      ((lowerFunction env (.mk span name types params returns hasBody body)).params.flatMap
        Pattern.names ++ params.flatMap lostOfParam)
  /-- Each item of an array has its counterpart in its place. -/
  arrays (span : Text.Span) (items : List Script.Item) :
    lowerExpr env (.mk span (.array items)) = .array (items.map (lowerItem env))
  /-- Each argument has its counterpart in its place. -/
  calls (span : Text.Span) (callee : Script.Expr) (types : Script.TypeNote)
    (args : List Script.Item) :
    lowerExpr env (.mk span (.call callee types args)) =
      .call (lowerExpr env callee) (args.map (lowerArgument env))
  /-- The members of an object that have counterparts keep their order. -/
  objects (span : Text.Span) (members : List Script.Member) :
    lowerExpr env (.mk span (.object members)) =
      .object (members.filterMap (lowerMember? env))
  /-- The members that have none are those under keys that are not known. -/
  members (m : Script.Member) : lowerMember? env m = none ↔ isLeftOut m = true
  /-- The attributes and the children of an element that have counterparts keep their order. -/
  elements (span : Text.Span) (tag : Script.TagName) (types : Script.TypeNote)
    (attributes : List Script.Member) (children : List Script.Item) :
    tagText tag ≠ "Fragment" → tagText tag ≠ "React.Fragment" →
    lowerExpr env (.mk span (.element tag types attributes children)) =
      .markup (.element (tagText tag) (env.tagKind (tagText tag))
        (attributes.filterMap (lowerAttribute? env)) (children.filterMap (lowerChild? env)))
  /-- All attributes that the grammar gives have counterparts. -/
  attributes (g : Script.Grammar) : Gives (Script.Parser.markupStep g) (KeepsAttributes env)
  /-- Of an element that is a fragment by its name, the children are kept. -/
  namedFragments (span : Text.Span) (tag : Script.TagName) (types : Script.TypeNote)
    (attributes : List Script.Member) (children : List Script.Item) :
    tagText tag = "Fragment" ∨ tagText tag = "React.Fragment" →
    lowerExpr env (.mk span (.element tag types attributes children)) =
      .markup (.fragment (children.filterMap (lowerChild? env)))
  /-- The children of a fragment that have counterparts keep their order. -/
  fragments (span : Text.Span) (children : List Script.Item) :
    lowerExpr env (.mk span (.fragment children)) =
      .markup (.fragment (children.filterMap (lowerChild? env)))
  /-- A child without a counterpart is a pair of empty braces or blank text. -/
  children (item : Script.Item) : lowerChild? env item = none →
    item = .hole ∨ ∃ raw, item = .text raw ∧ isBlankText raw = true

/-- Whatever the script, lowering keeps the names and the parts of all its forms, but for what
stands under computed keys, and for the rests that are taken apart. -/
theorem parts_kept (env : Surroundings) : KeepsParts env where
  -- names are compared by their counts, since those that are lost stand anywhere among the others
  patterns p := by
    rw [List.perm_iff_count]
    intro n
    rw [List.count_append]
    exact count_names env n p
  rests _ := gives_patternStep_furtherRests
  functions span name types returns params hasBody body := by
    rw [List.perm_iff_count]
    intro n
    rw [List.count_append, lowerFunction]
    exact count_paramNames env n params
  arrays span items := by rw [lowerExpr, lowerItems_eq_map]
  calls span callee types args := by rw [lowerExpr, lowerArguments_eq_map]
  objects span members := by rw [lowerExpr, lowerMembers_eq_filterMap]
  members _ := lowerMember?_eq_none
  elements span tag types attributes children hfragment hreact := by
    rw [lowerExpr, lowerAttributes_eq_filterMap, lowerChildren_eq_filterMap]
    simp [hfragment, hreact]
  attributes _ := gives_markupStep
  namedFragments span tag types attributes children hname := by
    rw [lowerExpr, lowerChildren_eq_filterMap]
    simp [hname]
  fragments span children := by rw [lowerExpr, lowerChildren_eq_filterMap]
  children _ := lowerChild?_eq_none

/-! ## A name under a computed key -/

/-- A component that takes its label from under the key that a property gives. -/
def keyedSource : String :=
  "const label = \"outer\"; function Card(props) \x7b " ++
  "const \x7b [props.field]: label \x7d = props; return <b>\x7blabel\x7d</b>; \x7d"

/-- The names that a statement of a blueprint binds. -/
def Stmt.bound : Stmt → List String
  | .bind pattern _ => pattern.names
  | _ => []

/-- The names that the functions of a script bind in their own statements. -/
def namesWithin (program : Script.Program) : List String :=
  program.body.flatMap fun
    | .function f => Script.Stmt.listNames .block f.body
    | _ => []

/-- The text of an element that shows one. -/
def shown? : List RenderNode → Option String
  | [.element _ _ _ [.text text]] => some text
  | _ => none

/-- The script binds a label in its function and the blueprint binds none, so that it shows the
constant that the label would hide. -/
theorem keyed_label_unbound :
    ∃ program b nodes, Script.Program.read keyedSource = .ok program ∧
      namesWithin program = ["label"] ∧
      compile "Card" keyedSource (Scope.ofConfig {}) = .ok b ∧
      b.factory.body.flatMap Stmt.bound = [] ∧
      b.instantiate [("field", .str "none")] {} = .ok nodes ∧ shown? nodes = some "outer" := by
  -- one evaluation of all of it, from which the steps are read off
  have hrun : ((Script.Program.read keyedSource).mapError (fun _ => ()) >>= fun program =>
      (compile "Card" keyedSource (Scope.ofConfig {})).mapError (fun _ => ()) >>= fun b =>
        (b.instantiate [("field", .str "none")] {}).mapError (fun _ => ()) >>= fun nodes =>
          pure (namesWithin program, b.factory.body.flatMap Stmt.bound, shown? nodes)) =
      .ok (["label"], [], some "outer") := by decide +kernel
  obtain ⟨program, hread, hrun⟩ := bind_eq_ok.mp hrun
  obtain ⟨b, hcompile, hrun⟩ := bind_eq_ok.mp hrun
  obtain ⟨nodes, hnodes, hrun⟩ := bind_eq_ok.mp hrun
  rw [mapError_eq_ok] at hread hcompile hnodes
  obtain ⟨hnames, hparts⟩ := Prod.mk.inj (pure_eq_ok.mp hrun)
  obtain ⟨hbound, hshown⟩ := Prod.mk.inj hparts
  exact ⟨program, b, nodes, hread, hnames, hcompile, hbound, hnodes, hshown⟩

end ComponentCanvas.Blueprint
