import ComponentCanvas.Proofs.Script.Items
import ComponentCanvas.Property.Reading

/-!
# Written Literals

The written forms of strings, truth values and numbers are expressions by themselves, and the
numbers among them have the values that they were written from: digits alone are integers, a point
or an exponent mark makes a float.
-/

namespace ComponentCanvas.Property

open Script Script.Parser
open Text (byteSize isAsciiDigit)
open Decimal (Spelling signText isSignSet)

/-! ## Literals -/

/-- Whether an expression has a value, in whatever source it stands. -/
def Means (e : Expr) (value : Json) : Prop := ∀ source, valueOf source e = .ok value

/-- Whether an expression is of a form, wherever it stands. -/
def HasForm (e : Expr) (form : ExprForm) : Prop := ∃ span, e = .mk span form

/-- Helper: a token that is a literal by itself is an expression by itself. -/
private theorem readable_of_token {text : List Char} {tok : Token} {form : ExprForm} (d : Nat)
    (hnonempty : text ≠ []) (hhead : ∀ c ∈ text.head?, IsVisible c) (hopens : OpensLiteral tok)
    (hscan : ∀ rest, IsDelimited rest →
      scanToken (text ++ rest) = ⟨tok, byteSize text, rest, none⟩)
    (hprimary : ∀ (g : Grammar) (c : Cursor), c.token = tok →
      primary g c = .ok (.mk ⟨c.start, c.advance.previous⟩ form, c.advance)) :
    Readable (grammar (d + 4) (.assignment true)) HasForm text form := by
  refine readable_of_primary hnonempty ?starts ?opens ?reads
  case starts =>
    intro rest hrest
    exact ⟨by rwa [List.head?_append_of_ne_nil _ hnonempty], by rw [hscan rest hrest]⟩
  case opens =>
    intro rest hrest
    rwa [hscan rest hrest]
  -- the literal is one token, and the cursor stands behind it afterwards
  case reads =>
    intro rest next hgap c hc
    have hscan := hscan rest hgap.isDelimited
    have htoken : c.token = tok := by rw [hc.token, hscan]
    exact ⟨_, _, hprimary _ c htoken, ⟨_, rfl⟩, hc.advance hscan hgap.1 hgap.2.starts⟩

/-- A string in quotes is an expression. -/
theorem readable_quoted (s : String) (d : Nat) :
    Readable (grammar (d + 4) (.assignment true)) HasForm (quoted s) (.string s) := by
  refine readable_of_token d (by simp [quoted]) ?_ (.string s)
    (fun rest _ => scanToken_quoted s rest) fun g c hc => by simp [primary, bind_apply, hc]
  simp only [quoted, List.cons_append, List.head?_cons, Option.mem_some_iff, forall_eq']
  decide

/-- A spelled number is an expression. -/
theorem readable_spelling (s : Spelling) (d : Nat) :
    Readable (grammar (d + 4) (.assignment true)) HasForm s.text
      (.number (String.ofList s.text) s.decimal.toFloat) := by
  have hnonempty : s.text ≠ [] := by simp [Spelling.text, s.whole_ne]
  refine readable_of_token d hnonempty ?_ (.number _ _) (fun rest => scanToken_spelling s)
    fun g c hc => by simp [primary, bind_apply, hc]
  intro c hc
  rw [Spelling.text, List.head?_append_of_ne_nil _ s.whole_ne] at hc
  exact isVisible_of_isAsciiDigit (s.isDigit c (by simp [List.mem_of_mem_head? hc]))

/-- The two truth values are expressions. -/
theorem readable_bool (b : Bool) (d : Nat) :
    Readable (grammar (d + 4) (.assignment true)) HasForm (Json.compactChars (.bool b))
      (.bool b) := by
  -- each truth value is a word
  cases b with
  | true =>
    refine readable_of_token d (by simp [Json.compactChars]) ?_ .yes
      (fun rest => scanToken_bareKey "true" (by decide)) fun g c hc => ?_
    · simp only [Json.compactChars, List.head?_cons, Option.mem_some_iff, forall_eq']
      decide
    · simp [primary, wordExpression, bind_apply, hc]
  | false =>
    refine readable_of_token d (by simp [Json.compactChars]) ?_ .no
      (fun rest => scanToken_bareKey "false" (by decide)) fun g c hc => ?_
    · simp only [Json.compactChars, List.head?_cons, Option.mem_some_iff, forall_eq']
      decide
    · simp [primary, wordExpression, bind_apply, hc]

/-- Whether an expression is the number of a spelling with a minus in front of it. -/
def HasMinus (e : Expr) (s : Spelling) : Prop :=
  ∃ span inner, e = .mk span (.unary .minus inner) ∧
    HasForm inner (.number (String.ofList s.text) s.decimal.toFloat)

/-- A spelled number with a minus in front of it is an expression. -/
theorem readable_minus (s : Spelling) (d : Nat) :
    Readable (grammar (d + 5) (.assignment true)) HasMinus ('-' :: s.text) s where
  nonempty := by simp
  starts rest _ := starts_cons (by decide) (congrArg Scan.fault (scanToken_minus s rest))
  opens rest _ := by
    rw [List.cons_append, scanToken_minus]
    exact OpensValue.minus.opensItem
  reads rest next hgap c hc := by
    -- the minus and the number are two tokens, and the number has no item of its own
    have hnumber := readable_spelling s 0
    have htoken : c.token = .punct "-" := by rw [hc.token, List.cons_append, scanToken_minus]
    have hadvance : At c.advance (s.text ++ rest) :=
      At.advance (t := ['-']) hc (scanToken_minus s rest) (Or.inl rfl)
        (hnumber.starts rest hgap.isDelimited)
    have hscan := scanToken_spelling s hgap.isDelimited
    have htoken' : c.advance.token = .number (String.ofList s.text) s.decimal.toFloat := by
      rw [hadvance.token, hscan]
    have hc' : At c.advance.advance next := hadvance.advance hscan hgap.1 hgap.2.starts
    -- behind the minus the number is read as on its own
    have hprimary : primary (grammar d) c.advance =
        .ok (.mk ⟨c.advance.start, c.advance.advance.previous⟩
          (.number (String.ofList s.text) s.decimal.toFloat), c.advance.advance) := by
      simp [primary, bind_apply, htoken']
    have hclose : Closes c.advance.advance.token := by
      rw [hc'.token]
      exact hgap.2.closes
    have hopen : OpensLiteral c.advance.token := by
      rw [htoken']
      exact .number _ _
    have hunary := unary_of_minus htoken
      (unary_of_primary hopen hprimary hclose hc'.start_le_size)
    -- no operator follows, so the minus with its number is all there is
    have hvalue : OpensValue c.token := by
      rw [htoken]
      exact .minus
    exact ⟨_, _, assignment_of_unary hvalue hunary hclose hc'.start_le_size true,
      ⟨_, _, rfl, _, rfl⟩, hc'⟩

/-! ## Numbers -/

private theorem mem_mark {mark : List Char} {exponent : ℤ} (h : Decimal.IsMark mark exponent)
    (hne : mark ≠ []) : 'e' ∈ mark := by
  cases h with
  | none => exact absurd rfl hne
  | up n => simp
  | down n => simp

/-- The digits of a natural number are read as the integer they spell. -/
theorem numberValue?_ofNat (n : Nat) (negative : Bool) (x : Float)
    (h : (if negative then Decimal.isSignedWord (-n) else Decimal.isUnsignedWord n) = true) :
    numberValue? (String.ofList (Spelling.ofNat n).text) x negative =
      some (.int (if negative then -n else n)) := by
  have hdigits : ∀ c ∈ Decimal.digitsOf n, isAsciiDigit c = true :=
    fun c => Decimal.isAsciiDigit_of_mem_digitsOf
  have hfilter : (Decimal.digitsOf n).filter (· != '_') = Decimal.digitsOf n :=
    filter_underscore hdigits
  have hne : Decimal.digitsOf n ≠ [] := Nat.toDigits_ne_nil
  rw [numberValue?, Spelling.text_ofNat, String.toList_ofList, hfilter,
    Decimal.digitsValue_digitsOf]
  cases negative <;> simp_all

/-- A number with a point or an exponent mark is read as a float. -/
theorem numberValue?_fractional {s : Spelling} (hs : s.IsFractional) (x : Float) (negative : Bool)
    (h : Decimal.isFinite (if negative then -x else x) = true) :
    numberValue? (String.ofList s.text) x negative =
      some (.float (if negative then -x else x)) := by
  -- one character that is no digit is enough, and the underscores are dropped before the check
  have hmark : ∃ c ∈ s.text, c ≠ '_' ∧ isAsciiDigit c = false := by
    rcases hs with hpoint | hmark
    · exact ⟨'.', by simp [Spelling.text, Spelling.tail, hpoint], by decide⟩
    · refine ⟨'e', ?_, by decide⟩
      have : 'e' ∈ s.mark := mem_mark s.isMark hmark
      simp [Spelling.text, Spelling.tail, this]
  obtain ⟨c, hc, hne, hdigit⟩ := hmark
  have hall : (s.text.filter (· != '_')).all isAsciiDigit = false := by
    rw [List.all_eq_false]
    exact ⟨c, by simp [hc, hne], by simp [hdigit]⟩
  rw [numberValue?, String.toList_ofList]
  simp [hall, h]

/-- An integer that fits a word is read back. -/
theorem readable_int {n : Int} (h : Json.fitsWord n = true) (d : Nat) :
    Readable (grammar (d + 5) (.assignment true)) Means (Json.intText n) (.int n) := by
  rw [Decimal.fitsWord_iff] at h
  set s := Spelling.ofNat n.natAbs with hs
  rw [Decimal.intText_eq, ← hs]
  by_cases hn : n < 0
  -- below zero the magnitude is negated before it is compared with the bounds of a word
  · have htext : signText (decide (n < 0)) ++ s.text = '-' :: s.text := by simp [signText, hn]
    have hneg : -(n.natAbs : Int) = n := by omega
    have hfits : Decimal.isSignedWord (-(n.natAbs : Int)) = true := by
      rw [Decimal.isSignedWord_iff]
      omega
    have hvalue : numberValue? (String.ofList s.text) s.decimal.toFloat true = some (.int n) := by
      have := numberValue?_ofNat n.natAbs true s.decimal.toFloat hfits
      rwa [if_pos rfl, hneg] at this
    rw [htext]
    refine (readable_minus s d).imp ?_
    rintro e ⟨span, inner, rfl, ⟨span', rfl⟩⟩ source
    rw [valueOf, hvalue]
    rfl
  -- from zero on the text is that of the magnitude
  · have htext : signText (decide (n < 0)) ++ s.text = s.text := by simp [signText, hn]
    have hpos : (n.natAbs : Int) = n := by omega
    have hfits : Decimal.isUnsignedWord (n.natAbs : Int) = true := by
      rw [Decimal.isUnsignedWord_iff]
      omega
    have hvalue : numberValue? (String.ofList s.text) s.decimal.toFloat false = some (.int n) := by
      have := numberValue?_ofNat n.natAbs false s.decimal.toFloat hfits
      rwa [if_neg (by decide), hpos] at this
    rw [htext]
    refine (readable_spelling s (d + 1)).imp ?_
    rintro e ⟨span, rfl⟩ source
    rw [valueOf, hvalue]
    rfl

/-- A finite float is read back. -/
theorem readable_float {x : Float} (h : Decimal.isFinite x = true) (d : Nat) :
    Readable (grammar (d + 5) (.assignment true)) Means (Json.floatText x) (.float x) := by
  obtain ⟨s, htext, hfractional, hvalue⟩ := Decimal.exists_spelling_floatText h
  have hx := Decimal.eq_abs_with_sign h
  rw [← hvalue] at hx
  rw [htext]
  -- the sign is that of the bits, so a negative zero has its minus as well
  by_cases hsign : isSignSet x = true
  · rw [if_pos hsign] at hx
    have hnumber : numberValue? (String.ofList s.text) s.decimal.toFloat true =
        some (.float x) := by
      have := numberValue?_fractional hfractional s.decimal.toFloat true (by rwa [if_pos rfl, ← hx])
      rwa [if_pos rfl, ← hx] at this
    have hminus : signText (isSignSet x) ++ s.text = '-' :: s.text := by simp [signText, hsign]
    rw [hminus]
    refine (readable_minus s d).imp ?_
    rintro e ⟨span, inner, rfl, ⟨span', rfl⟩⟩ source
    rw [valueOf, hnumber]
    rfl
  -- without a sign the text is that of the magnitude
  · rw [if_neg hsign] at hx
    have hnumber : numberValue? (String.ofList s.text) s.decimal.toFloat false =
        some (.float x) := by
      have := numberValue?_fractional hfractional s.decimal.toFloat false
        (by rwa [if_neg (by decide), ← hx])
      rw [this, if_neg (by decide), ← hx]
    have hplain : signText (isSignSet x) ++ s.text = s.text := by simp [signText, hsign]
    rw [hplain]
    refine (readable_spelling s (d + 1)).imp ?_
    rintro e ⟨span, rfl⟩ source
    rw [valueOf, hnumber]
    rfl

end ComponentCanvas.Property
