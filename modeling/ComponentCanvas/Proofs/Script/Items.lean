import ComponentCanvas.Proofs.Script.Operands

/-!
# Lists of Items

A text is `Readable` by a parser as an item if the parser reads it, and nothing more, in front of
whatever closes it.  A list of readable texts between commas is then read item by item up to its
closing bracket, and a readable literal is a readable expression.
-/

namespace ComponentCanvas.Script.Parser

open Text (byteSize)
open Property (comma)

/-! ## Closing texts -/

/-- What stands behind a value: a token that ends it, or the end of the text. -/
inductive Closing : List Char → Prop
  | eof : Closing []
  | comma (r : List Char) : Closing (',' :: r)
  | bracket (r : List Char) : Closing (']' :: r)
  | brace (r : List Char) : Closing ('\x7d' :: r)

/-- What stands behind a value, maybe with a blank in front. -/
def ClosedBy (rest next : List Char) : Prop := (rest = next ∨ rest = ' ' :: next) ∧ Closing next

theorem Closing.starts {next : List Char} (h : Closing next) : Starts next := by
  cases h with
  | eof => exact ⟨by simp, rfl⟩
  | comma r => exact starts_cons (by decide) rfl
  | bracket r => exact starts_cons (by decide) rfl
  | brace r => exact starts_cons (by decide) rfl

theorem Closing.closes {next : List Char} (h : Closing next) : Closes (scanToken next).token := by
  cases h with
  | eof => exact .eof
  | comma r => exact .comma
  | bracket r => exact .bracket
  | brace r => exact .brace

theorem ClosedBy.isDelimited {rest next : List Char} (h : ClosedBy rest next) :
    IsDelimited rest := by
  obtain ⟨rfl | rfl, h⟩ := h
  · cases h <;> simp [IsDelimited]
  · simp [IsDelimited]

/-! ## Repeated items -/

section Items

variable {α β : Type}

/-- A token that opens an item of a list: it neither ends one nor spreads one. -/
def OpensItem (t : Token) : Prop := ¬ Closes t ∧ t.isPunct "..." = false

/-- A text that a parser reads as one item of a list, whatever closes it. -/
structure Readable (item : Parser α) (means : α → β → Prop) (text : List Char) (b : β) :
    Prop where
  nonempty : text ≠ []
  starts : ∀ rest, IsDelimited rest → Starts (text ++ rest)
  opens : ∀ rest, IsDelimited rest → OpensItem (scanToken (text ++ rest)).token
  reads : ∀ rest next, ClosedBy rest next → ∀ c, At c (text ++ rest) →
    ∃ a c', item c = .ok (a, c') ∧ means a b ∧ At c' next

variable {item : Parser α} {means : α → β → Prop}

/-- What is read as an item of one meaning is read as one of another. -/
theorem Readable.imp {γ : Type} {means' : α → γ → Prop} {text : List Char} {b : β} {b' : γ}
    (h : Readable item means text b) (himp : ∀ a, means a b → means' a b') :
    Readable item means' text b' where
  nonempty := h.nonempty
  starts := h.starts
  opens := h.opens
  reads rest next hgap c hc := by
    obtain ⟨a, c', hitem, hmeans, hc'⟩ := h.reads rest next hgap c hc
    exact ⟨a, c', hitem, himp a hmeans, hc'⟩

/-- The brackets that close a list and an object. -/
inductive IsCloser : String → Char → Prop
  | bracket : IsCloser "]" ']'
  | brace : IsCloser "\x7d" '\x7d'

theorem IsCloser.scan {close : String} {ch : Char} (h : IsCloser close ch) (r : List Char) :
    scanToken (ch :: r) = ⟨.punct close, 1, r, none⟩ := by
  cases h <;> rfl

theorem IsCloser.utf8Size {close : String} {ch : Char} (h : IsCloser close ch) :
    ch.utf8Size = 1 := by
  cases h <;> rfl

theorem IsCloser.closing {close : String} {ch : Char} (h : IsCloser close ch) (r : List Char) :
    Closing (ch :: r) := by
  cases h
  · exact .bracket r
  · exact .brace r

/-- A closing bracket closes a value. -/
theorem IsCloser.closes {close : String} {ch : Char} (h : IsCloser close ch) {t : Token}
    (ht : t.isPunct close = true) : Closes t := by
  cases t with
  | punct p =>
    obtain rfl : p = close := by simpa [Token.isPunct] using ht
    cases h
    · exact .bracket
    · exact .brace
  | _ => simp [Token.isPunct] at ht

/-- Helper: what stands behind the first of some texts in a list. -/
private def behind (tail : List Char) : List (List Char) → List Char
  | [] => tail
  | text :: texts => ',' :: ' ' :: (Json.separated comma (text :: texts) ++ tail)

private theorem separated_cons (text : List Char) (texts : List (List Char)) (tail : List Char) :
    Json.separated comma (text :: texts) ++ tail = text ++ behind tail texts := by
  cases texts with
  | nil => rfl
  | cons t ts => simp [Json.separated, behind, comma]

private theorem behind_isDelimited {tail : List Char} (h : IsDelimited tail)
    (texts : List (List Char)) : IsDelimited (behind tail texts) := by
  cases texts with
  | nil => exact h
  | cons t ts => simp [IsDelimited, behind]

/-- One step of a list: an item, and what separates it from the next one. -/
def listStep (close : String) (item : Parser α) (acc : List α) : Parser (List α ⊕ List α) := do
  if ← atPunct close then return .inr acc.reverse
  else
    let acc := (← item) :: acc
    if ← eatPunct "," then return .inl acc
    else if ← atPunct close then return .inr acc.reverse
    else fail (.expected ",")

theorem separatedUntil_eq (close : String) (item : Parser α) :
    separatedUntil close item = repeating [] (listStep close item) := rfl

private theorem isPunct_of_opens {close : String} {ch : Char} (hclose : IsCloser close ch)
    {text rest : List Char} {b : β} (hread : Readable item means text b)
    (hrest : IsDelimited rest) {c : Cursor} (hc : At c (text ++ rest)) :
    c.token.isPunct close = false := by
  rw [hc.token, ← Bool.not_eq_true]
  exact fun h => (hread.opens _ hrest).1 (hclose.closes h)

/-- The last item stands in front of the closing bracket, and the loop ends behind it. -/
private theorem listStep_last {close : String} {ch : Char} (hclose : IsCloser close ch)
    {text tail rest : List Char} {b : β} (hread : Readable item means text b)
    (htail : ClosedBy tail (ch :: rest)) (acc : List α) {c : Cursor} (hc : At c (text ++ tail)) :
    ∃ a c', listStep close item acc c = .ok (.inr (acc.reverse ++ [a]), c') ∧ means a b ∧
      At c' (ch :: rest) := by
  have hopen := isPunct_of_opens hclose hread htail.isDelimited hc
  obtain ⟨a, c', hitem, hmeans, hc'⟩ := hread.reads _ _ htail c hc
  -- behind the last item stands the bracket and no comma
  have hcomma : c'.token.isPunct "," = false := by
    rw [hc'.token, hclose.scan]
    cases hclose <;> rfl
  have hat : c'.token.isPunct close = true := by
    rw [hc'.token, hclose.scan]
    simp [Token.isPunct]
  refine ⟨a, c', ?_, hmeans, hc'⟩
  simp [listStep, bind_apply, hopen, hitem, hcomma, hat]

/-- An item with another one behind it is closed by its comma, and the loop goes on. -/
private theorem listStep_next {close : String} {ch : Char} (hclose : IsCloser close ch)
    {text next : List Char} {b : β} (hread : Readable item means text b) (hnext : Starts next)
    (acc : List α) {c : Cursor} (hc : At c (text ++ ',' :: ' ' :: next)) :
    ∃ a c', listStep close item acc c = .ok (.inl (a :: acc), c') ∧ means a b ∧ At c' next := by
  have hopen := isPunct_of_opens hclose hread (by simp [IsDelimited]) hc
  obtain ⟨a, c', hitem, hmeans, hc'⟩ := hread.reads _ _ ⟨Or.inl rfl, .comma _⟩ c hc
  have hcomma : c'.token.isPunct "," = true := by
    rw [hc'.token]
    rfl
  refine ⟨a, c'.advance, ?_, hmeans, At.advance (t := [',']) hc' rfl (Or.inr rfl) hnext⟩
  simp [listStep, bind_apply, hopen, hitem, hcomma]

/-- The items of a list are read one after the other up to the bracket that closes it. -/
theorem iterate_items {close : String} {ch : Char} (hclose : IsCloser close ch)
    {texts : List (List Char)} {bs : List β} (h : List.Forall₂ (Readable item means) texts bs)
    {gap rest : List Char} (hgap : gap = [] ∨ gap = [' ']) (hempty : texts = [] → gap = [])
    (acc : List α) {n : Nat} (hn : texts.length < n) {c : Cursor}
    (hc : At c (Json.separated comma texts ++ (gap ++ ch :: rest))) :
    ∃ as c', iterate (listStep close item) n acc c = .ok (acc.reverse ++ as, c') ∧
      List.Forall₂ means as bs ∧ At c' (ch :: rest) := by
  have hend : ClosedBy (gap ++ ch :: rest) (ch :: rest) := by
    refine ⟨?_, hclose.closing rest⟩
    rcases hgap with rfl | rfl
    · exact Or.inl rfl
    · exact Or.inr rfl
  -- on the items left to read; the accumulator, the rounds left and the cursor go along
  induction h generalizing acc n c with
  | nil =>
    obtain rfl : gap = [] := hempty rfl
    have hat : c.token.isPunct close = true := by
      rw [hc.token]
      simp [Json.separated, hclose.scan, Token.isPunct]
    refine ⟨[], c, ?_, .nil, by simpa [Json.separated] using hc⟩
    apply iterate_of_inr _ (by omega)
    simp [listStep, bind_apply, hat]
  | @cons text b texts bs hread hrest ih =>
    obtain ⟨n, rfl⟩ := Nat.exists_eq_succ_of_ne_zero (by omega : n ≠ 0)
    rw [separated_cons] at hc
    cases hrest with
    | nil =>
      -- behind the last item stands the closing mark
      obtain ⟨a, c', hstep, hmeans, hc'⟩ := listStep_last hclose hread hend acc hc
      exact ⟨[a], c', iterate_of_inr hstep (by omega), .cons hmeans .nil, hc'⟩
    | @cons text' b' texts' bs' hread' hrest' =>
      -- a further item begins behind the comma
      have hstarts : Starts (Json.separated comma (text' :: texts') ++ (gap ++ ch :: rest)) := by
        rw [separated_cons]
        exact hread'.starts _ (behind_isDelimited hend.isDelimited texts')
      obtain ⟨a, c', hstep, hmeans, hc'⟩ := listStep_next hclose hread hstarts acc hc
      obtain ⟨as, c'', hrun, hall, hc''⟩ := ih (fun h => by cases h) (a :: acc)
        (n := n) (by simp at hn ⊢; omega) hc'
      refine ⟨a :: as, c'', ?_, .cons hmeans hall, hc''⟩
      rw [iterate, bind_of_ok hstep]
      simpa using hrun

/-- Helper: a list is at least as long as it has items. -/
private theorem length_le_byteSize {texts : List (List Char)} {bs : List β}
    (h : List.Forall₂ (Readable item means) texts bs) (tail : List Char) :
    texts.length ≤ byteSize (Json.separated comma texts ++ tail) := by
  induction h generalizing tail with
  | nil => simp
  -- every text holds a character, and every character takes a byte
  | @cons text b texts bs hread hrest ih =>
    have htext : 1 ≤ byteSize text := by
      obtain ⟨ch, r, rfl⟩ := List.exists_cons_of_ne_nil hread.nonempty
      have := ch.utf8Size_pos
      rw [byteSize]
      omega
    -- the other texts stand behind the first one
    have hbehind : texts.length ≤ byteSize (behind tail texts) := by
      cases texts with
      | nil => simp
      | cons t ts =>
        have := ih tail
        simp only [behind, byteSize]
        omega
    rw [separated_cons, byteSize_append, List.length_cons]
    omega

/-- The items of a list up to the bracket that closes it. -/
theorem separatedUntil_items {close : String} {ch : Char} (hclose : IsCloser close ch)
    {texts : List (List Char)} {bs : List β} (h : List.Forall₂ (Readable item means) texts bs)
    {gap rest : List Char} (hgap : gap = [] ∨ gap = [' ']) (hempty : texts = [] → gap = [])
    {c : Cursor} (hc : At c (Json.separated comma texts ++ (gap ++ ch :: rest))) :
    ∃ as c', separatedUntil close item c = .ok (as, c') ∧ List.Forall₂ means as bs ∧
      At c' (ch :: rest) := by
  -- the rounds of the loop are bounded by the text that is left, which has a byte for each item
  have hlength := length_le_byteSize h (gap ++ ch :: rest)
  have hroom := hc.room
  obtain ⟨as, c', hrun, hall, hc'⟩ :=
    iterate_items hclose h hgap hempty [] (n := c.size + 2 - c.start) (by omega) hc
  refine ⟨as, c', ?_, hall, hc'⟩
  rw [separatedUntil_eq, repeating, bind_of_ok (bound_apply c)]
  exact hrun

/-- A list opens with a token that is no blank. -/
theorem starts_items {close : String} {ch : Char} (hclose : IsCloser close ch)
    {texts : List (List Char)} {bs : List β} (h : List.Forall₂ (Readable item means) texts bs)
    {gap rest : List Char} (hgap : gap = [] ∨ gap = [' ']) (hempty : texts = [] → gap = []) :
    Starts (Json.separated comma texts ++ (gap ++ ch :: rest)) := by
  cases h with
  | nil =>
    obtain rfl : gap = [] := hempty rfl
    exact (hclose.closing rest).starts
  | @cons text b texts bs hread hrest =>
    rw [separated_cons]
    refine hread.starts _ (behind_isDelimited ?_ texts)
    -- the bracket stands right behind the items or after a blank
    rcases hgap with rfl | rfl
    · exact ClosedBy.isDelimited ⟨Or.inl rfl, hclose.closing rest⟩
    · exact (show ClosedBy (' ' :: ch :: rest) (ch :: rest) from
        ⟨Or.inr rfl, hclose.closing rest⟩).isDelimited

end Items

/-! ## Literals as expressions -/

@[simp] theorem expectPunct_apply (text : String) (c : Cursor) :
    expectPunct text c =
      if c.token.isPunct text then .ok ((), c.advance)
      else .error ⟨.expected text, c.start⟩ := by
  rw [expectPunct, bind_apply, eatPunct_apply]
  cases c.token.isPunct text <;> rfl

/-- What opens a value opens an item. -/
theorem OpensValue.opensItem {t : Token} (h : OpensValue t) : OpensItem t := by
  refine ⟨fun hclose => ?_, h.isPunct "..." (by decide)⟩
  -- a token that closes is none of those that open a value
  have hpunct : t = .eof ∨ t.isPunct "," = true ∨ t.isPunct "]" = true ∨
      t.isPunct "\x7d" = true := by
    cases hclose <;> simp [Token.isPunct]
  rcases hpunct with rfl | hp | hp | hp
  · cases h with
    | literal h => cases h
  · simp [h.isPunct "," (by decide)] at hp
  · simp [h.isPunct "]" (by decide)] at hp
  · simp [h.isPunct "\x7d" (by decide)] at hp

section Literals

variable {β : Type} {d : Nat} {means : Expr → β → Prop} {text : List Char} {b : β}

/-- What is read as a literal is read as an expression. -/
theorem readable_of_primary (hnonempty : text ≠ [])
    (hstarts : ∀ rest, IsDelimited rest → Starts (text ++ rest))
    (hopens : ∀ rest, IsDelimited rest → OpensLiteral (scanToken (text ++ rest)).token)
    (hreads : ∀ rest next, ClosedBy rest next → ∀ c, At c (text ++ rest) →
      ∃ e c', primary (grammar d) c = .ok (e, c') ∧ means e b ∧ At c' next) :
    Readable (grammar (d + 4) (.assignment true)) means text b where
  nonempty := hnonempty
  starts := hstarts
  opens rest hrest := (OpensValue.literal (hopens rest hrest)).opensItem
  reads rest next hgap c hc := by
    obtain ⟨e, c', hprimary, hmeans, hc'⟩ := hreads rest next hgap c hc
    have hopen : OpensLiteral c.token := by
      rw [hc.token]
      exact hopens rest hgap.isDelimited
    have hclose : Closes c'.token := by
      rw [hc'.token]
      exact hgap.2.closes
    -- a literal that is followed by a closing token is all that each level of the grammar reads
    have hunary := unary_of_primary hopen hprimary hclose hc'.start_le_size
    exact ⟨e, c', assignment_of_unary (.literal hopen) hunary hclose hc'.start_le_size true,
      hmeans, hc'⟩

end Literals

/-! ## Items and members -/

section Members

variable {β : Type} {g : Grammar} {means : Expr → β → Prop} {text : List Char} {b : β}

/-- What is read as an expression is read as one inside brackets. -/
theorem readable_fullAssignment (h : Readable (g (.assignment true)) means text b) :
    Readable (fullAssignment g) means text b where
  nonempty := h.nonempty
  starts := h.starts
  opens := h.opens
  reads rest next hgap c hc := by
    -- the change of context for the brackets is undone behind the item
    have hc0 : At { c with context := { c.context with allowIn := true, decorator := false } }
        (text ++ rest) := { hc with }
    obtain ⟨e, c', hrun, hmeans, hc'⟩ := h.reads rest next hgap _ hc0
    refine ⟨e, { c' with context := c.context }, ?_, hmeans, { hc' with untyped := hc.untyped }⟩
    rw [fullAssignment, allowingIn, Parser.within, hrun]

/-- What is read as an expression is read as an item of a list literal. -/
theorem readable_listItem (h : Readable (g (.assignment true)) means text b) :
    Readable (listItem g) (fun item b => ∃ e, item = .value e ∧ means e b) text b where
  nonempty := h.nonempty
  starts := h.starts
  opens := h.opens
  reads rest next hgap c hc := by
    obtain ⟨hcloses, hspread⟩ := h.opens rest hgap.isDelimited
    rw [← hc.token] at hcloses hspread
    -- a comma here would be a hole, and three points would spread what follows
    have hcomma : c.token.isPunct "," = false := by
      rw [← Bool.not_eq_true]
      intro hp
      cases ht : c.token <;> simp_all [Token.isPunct]
      exact hcloses .comma
    obtain ⟨e, c', hrun, hmeans, hc'⟩ := (readable_fullAssignment h).reads rest next hgap c hc
    refine ⟨.value e, c', ?_, ⟨e, rfl, hmeans⟩, hc'⟩
    simp [listItem, bind_apply, hcomma, hspread, hrun]

/-- A member whose key is read, with a colon and a value behind it. -/
theorem objectMember_of_key {c c₁ c' : Cursor} {computed : Bool} {k e : Expr}
    (hspread : c.token.isPunct "..." = false) (hstar : c.token.isPunct "*" = false)
    (haccessor : c.token.isWord "get" = true ∨ c.token.isWord "set" = true →
      opensKey c.advance.token = false)
    (hasync : c.token.isWord "async" = true → opensMember c.advance.token = false)
    (hkey : key g c = .ok ((computed, k), c₁)) (hcolon : c₁.token = .punct ":")
    (hvalue : fullAssignment g c₁.advance = .ok (e, c')) :
    objectMember g c = .ok (.field computed k e, c') := by
  -- `get`, `set` and `async` are keys like any other here, for a colon follows them
  have hget : ¬((c.token.isWord "get" = true ∨ c.token.isWord "set" = true) ∧
      opensKey c.advance.token = true) := by
    rintro ⟨hword, hopens⟩
    simp [haccessor hword] at hopens
  have hnone : ¬(c.token.isWord "async" = true ∧
      Option.any opensMember (if c.advance.newline = true then none else some c.advance.token) =
        true) := by
    rintro ⟨hword, hopens⟩
    cases hn : c.advance.newline <;> simp [hn, hasync hword] at hopens
  have hparen : c₁.token.isPunct "(" = false := by rw [hcolon]; rfl
  have hangle : c₁.token.isPunct "<" = false := by rw [hcolon]; rfl
  have hat : c₁.token.isPunct ":" = true := by rw [hcolon]; rfl
  simp [objectMember, peek, peekOnLine, bind_apply, hspread, hstar, hget, hnone, hkey, hparen,
    hangle, hat, hvalue]

end Members

/-! ## Brackets -/

section Brackets

variable {α β : Type} {d : Nat} {item : Parser α} {means : α → β → Prop}
  {texts : List (List Char)} {bs : List β}

/-- The text of a list in brackets, with a blank inside each bracket or none. -/
def bracketed (opener : Char) (gap : List Char) (texts : List (List Char)) (closer : Char) :
    List Char :=
  opener :: (gap ++ (Json.separated comma texts ++ (gap ++ [closer])))

/-- Items in brackets are an expression. -/
private theorem readable_brackets {opener ch : Char} {opening close : String}
    {form : List α → ExprForm} (hclose : IsCloser close ch) (hopens : OpensLiteral (.punct opening))
    (hvisible : IsVisible opener)
    (hscan : ∀ r, scanToken (opener :: r) = ⟨.punct opening, 1, r, none⟩)
    (hsize : opener.utf8Size = 1)
    (hprimary : ∀ (c c₁ : Cursor) (items : List α), c.token = .punct opening →
      separatedUntil close item c.advance = .ok (items, c₁) → c₁.token.isPunct close = true →
      primary (grammar d) c = .ok (.mk ⟨c.start, c₁.advance.previous⟩ (form items), c₁.advance))
    {gap : List Char} (hgap : gap = [] ∨ gap = [' ']) (hempty : texts = [] → gap = [])
    (h : List.Forall₂ (Readable item means) texts bs) :
    Readable (grammar (d + 4) (.assignment true))
      (fun e bs => ∃ span items, e = .mk span (form items) ∧ List.Forall₂ means items bs)
      (bracketed opener gap texts ch) bs := by
  refine readable_of_primary (by simp [bracketed]) ?starts ?opens ?reads
  case starts =>
    intro rest _
    exact starts_cons hvisible (congrArg Scan.fault (hscan _))
  case opens =>
    intro rest _
    rw [bracketed, List.cons_append, hscan]
    exact hopens
  case reads =>
    intro rest next hclosed c hc
    -- three cursors: at the opening bracket, at the first item, and at the closing bracket
    set inner := Json.separated comma texts ++ (gap ++ ch :: rest) with hinner
    have htext : bracketed opener gap texts ch ++ rest = [opener] ++ (gap ++ inner) := by
      simp [bracketed, hinner]
    rw [htext] at hc
    have htoken : c.token = .punct opening := by rw [hc.token, List.singleton_append, hscan]
    have hopening : scanToken ([opener] ++ (gap ++ inner)) =
        ⟨.punct opening, byteSize [opener], gap ++ inner, none⟩ := by
      rw [List.singleton_append, hscan]
      simp [byteSize, hsize]
    have hblank : gap ++ inner = inner ∨ gap ++ inner = ' ' :: inner := by
      rcases hgap with rfl | rfl
      · exact Or.inl rfl
      · exact Or.inr rfl
    have hadvance : At c.advance inner :=
      hc.advance hopening hblank (starts_items hclose h hgap hempty)
    obtain ⟨items, c₁, hrun, hall, hc₁⟩ := separatedUntil_items hclose h hgap hempty hadvance
    have hat : c₁.token.isPunct close = true := by
      rw [hc₁.token, hclose.scan]
      simp [Token.isPunct]
    -- the closing bracket ends the value
    have hclosing : scanToken ([ch] ++ rest) = ⟨.punct close, byteSize [ch], rest, none⟩ := by
      rw [List.singleton_append, hclose.scan]
      simp [byteSize, hclose.utf8Size]
    have hnext : At c₁.advance next :=
      At.advance (t := [ch]) hc₁ hclosing hclosed.1 hclosed.2.starts
    exact ⟨_, _, hprimary c c₁ items htoken hrun hat, ⟨_, items, rfl, hall⟩, hnext⟩

/-- Items in square brackets are a list. -/
theorem readable_array {means : Item → β → Prop}
    (h : List.Forall₂ (Readable (listItem (grammar d)) means) texts bs) :
    Readable (grammar (d + 4) (.assignment true))
      (fun e bs => ∃ span items, e = .mk span (.array items) ∧ List.Forall₂ means items bs)
      (bracketed '[' [] texts ']') bs := by
  refine readable_brackets .bracket .bracket (by decide) (fun _ => rfl) rfl ?_ (Or.inl rfl)
    (fun _ => rfl) h
  intro c c₁ items htoken hrun hclose
  simp [primary, bind_apply, htoken, hrun, hclose]

/-- Members in braces are an object, with blanks inside the braces if there are any members. -/
theorem readable_object {means : Member → β → Prop}
    (h : List.Forall₂ (Readable (objectMember (grammar d)) means) texts bs) :
    Readable (grammar (d + 4) (.assignment true))
      (fun e bs => ∃ span members, e = .mk span (.object members) ∧ List.Forall₂ means members bs)
      (bracketed '\x7b' (if texts = [] then [] else [' ']) texts '\x7d') bs := by
  refine readable_brackets .brace .brace (by decide) (fun _ => rfl) rfl ?_ ?_ ?_ h
  · intro c c₁ members htoken hrun hclose
    simp [primary, bind_apply, htoken, hrun, hclose]
  · split
    · exact Or.inl rfl
    · exact Or.inr rfl
  · intro hempty
    rw [if_pos hempty]

end Brackets

end ComponentCanvas.Script.Parser
