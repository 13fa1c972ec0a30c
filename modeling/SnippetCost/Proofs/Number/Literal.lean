import Mathlib.Algebra.Order.Field.Rat
import SnippetCost.Proofs.Number.Underscore

/-!
# How decimals are written

The grammar of decimals, said without the reader: digits of any script with single underscores between them, a point
among or beside them, an exponent, or one of the words for unusual numbers; a sign in front, and white space around.

* **`readDecimal?_eq_some_iff`**: the reader takes the texts of this grammar and no others, and each for what it says.

The reader drops the underscores before it looks at anything else.  What that does not spoil is seen on the text with
the underscores, which falls into runs of digits and what stands between them (`exists_run`).
-/

namespace SnippetCost.Number

open SnippetCost.Text

/-! ## The grammar -/

/-- A sign, which may be missing: is it a minus? -/
inductive IsSign : Bool → List Char → Prop where
  | missing : IsSign false []
  | plus : IsSign false ['+']
  | minus : IsSign true ['-']

/-- Digits with a point among or beside them, by the digits in front of it and behind it. -/
inductive IsMantissa : List Char → List Char → List Char → Prop where
  | whole {w : List Char} (run : IsRun w) : IsMantissa (joined w) [] w
  | pointed {w f : List Char} (whole : w = [] ∨ IsRun w) (fraction : f = [] ∨ IsRun f)
      (digits : ¬(w = [] ∧ f = [])) : IsMantissa (joined w) (joined f) (w ++ '.' :: f)

/-- An exponent, which may be missing. -/
inductive IsExponent : Int → List Char → Prop where
  | missing : IsExponent 0 []
  | marked {mark : Char} {negative : Bool} {sign ds : List Char} (letter : mark = 'e' ∨ mark = 'E')
      (signed : IsSign negative sign) (run : IsRun ds) :
      IsExponent (if negative then -(digitsValue (joined ds) : Int) else digitsValue (joined ds))
        (mark :: (sign ++ ds))

/-- A number without its sign: digits in front of a point and behind it, and a power of ten to multiply it with. -/
structure Numeral where
  whole : List Char
  fraction : List Char
  exponent : Int

namespace Numeral

/-- The number that a numeral writes. -/
def amount (n : Numeral) : ℚ :=
  digitsValue (n.whole ++ n.fraction) * 10 ^ (n.exponent - n.fraction.length)

/-- The number of the format that a numeral stands for. -/
def nearest (n : Numeral) (negative : Bool) : Binary64 :=
  ofScientific negative (digitsValue (n.whole ++ n.fraction)) (n.whole ++ n.fraction).length
    (n.exponent - n.fraction.length)

/-- The numeral is written like this. -/
def IsWritten (n : Numeral) (cs : List Char) : Prop :=
  ∃ mantissa exponent, IsMantissa n.whole n.fraction mantissa ∧ IsExponent n.exponent exponent ∧
    cs = mantissa ++ exponent

end Numeral

/-- What a decimal says behind its sign. -/
inductive Decimal where
  | undefined
  | infinite
  | numeral (n : Numeral)

namespace Decimal

/-- The number of the format that a decimal stands for. -/
def nearest (negative : Bool) : Decimal → Binary64
  | .undefined => .nan
  | .infinite => .infinite negative
  | .numeral n => n.nearest negative

/-- The decimal is written like this; words in any case. -/
inductive IsWritten : Decimal → List Char → Prop where
  | undefined {cs : List Char} (word : cs.map Char.toLower = "nan".toList) : IsWritten .undefined cs
  | infinite {cs : List Char}
      (word : cs.map Char.toLower = "inf".toList ∨ cs.map Char.toLower = "infinity".toList) :
      IsWritten .infinite cs
  | numeral {n : Numeral} {cs : List Char} (written : n.IsWritten cs) : IsWritten (.numeral n) cs

end Decimal

/-- The text spells a decimal behind a sign, with white space around. -/
def Spells (cs : List Char) (negative : Bool) (d : Decimal) : Prop :=
  ∃ before sign body after, cs = before ++ ((sign ++ body) ++ after) ∧
    (∀ c ∈ before, isWhiteSpace c = true) ∧ (∀ c ∈ after, isWhiteSpace c = true) ∧
    IsSign negative sign ∧ d.IsWritten body

/-! ## The parts of a decimal -/

section Parts

variable {cs sign body w f rest : List Char} {negative : Bool} {e : Int} {n : Numeral} {x : Binary64}

/-- A digit is not taken for a sign. -/
theorem takeSign_digit {d : Char} (h : isDigit d = true) (rest : List Char) :
    takeSign (d :: rest) = (false, d :: rest) := by
  rw [takeSign.eq_3]
  · rintro _ heq
    obtain rfl := (List.cons.inj heq).1
    exact absurd h (by decide)
  · rintro _ heq
    obtain rfl := (List.cons.inj heq).1
    exact absurd h (by decide)

/-- The text goes on with something other than a sign or an underscore. -/
def Unsigned (cs : List Char) : Prop :=
  ∀ c ∈ cs.head?, c ≠ '-' ∧ c ≠ '+' ∧ c ≠ '_'

theorem IsRun.unsigned (h : IsRun w) (rest : List Char) : Unsigned (w ++ rest) := by
  obtain ⟨d, ds, rfl, hd⟩ := h.exists_cons
  rintro _ ⟨⟩
  refine ⟨?_, ?_, ne_underscore_of_isDigit hd⟩
  · rintro rfl
    exact absurd hd (by decide)
  · rintro rfl
    exact absurd hd (by decide)

/-- A sign is taken off, and the rest is left as it is. -/
theorem takeSign_joined (signed : IsSign negative sign) (unsigned : sign = [] → Unsigned body) :
    takeSign (joined (sign ++ body)) = (negative, joined body) := by
  cases signed with
  | missing =>
      rw [List.nil_append]
      cases body with
      | nil => rfl
      | cons c body =>
          obtain ⟨hminus, hplus, hscore⟩ := unsigned rfl c rfl
          rw [joined_cons hscore, takeSign.eq_3]
          · exact fun _ heq => hminus (List.cons.inj heq).1
          · exact fun _ heq => hplus (List.cons.inj heq).1
  | plus => rfl
  | minus => rfl

/-- A text whose underscores are in place is cut behind the sign that it may begin with. -/
theorem exists_sign (h : underscoresSeparate false cs = true) : ∃ negative sign body, cs = sign ++ body ∧
    IsSign negative sign ∧ (sign = [] → Unsigned body) ∧ underscoresSeparate false body = true := by
  cases cs with
  | nil => exact ⟨false, [], [], rfl, .missing, nofun, rfl⟩
  | cons c cs =>
      by_cases hminus : c = '-'
      · subst hminus
        rw [underscoresSeparate_cons (by decide)] at h
        exact ⟨true, ['-'], cs, rfl, .minus, nofun, h⟩
      by_cases hplus : c = '+'
      · subst hplus
        rw [underscoresSeparate_cons (by decide)] at h
        exact ⟨false, ['+'], cs, rfl, .plus, nofun, h⟩
      · refine ⟨false, [], c :: cs, rfl, .missing, ?_, h⟩
        rintro - _ ⟨⟩
        exact ⟨hminus, hplus, ne_underscore_of_separate h⟩

/-- In front of a sign and behind it underscores are judged apart. -/
theorem IsSign.underscoresSeparate_append (signed : IsSign negative sign) (body : List Char) :
    underscoresSeparate false (sign ++ body) = underscoresSeparate false body := by
  cases signed with
  | missing => rfl
  | plus => exact underscoresSeparate_cons (by decide) false body
  | minus => exact underscoresSeparate_cons (by decide) false body

/-! ### Exponents -/

theorem IsExponent.stops (h : IsExponent e cs) : Stops cs := by
  cases h with
  | missing => exact nofun
  | marked hletter _ _ =>
      rintro _ ⟨⟩
      rcases hletter with rfl | rfl <;> decide

theorem IsExponent.ne_point (h : IsExponent e cs) : ∀ c ∈ cs.head?, c ≠ '.' := by
  cases h with
  | missing => exact nofun
  | marked hletter _ _ =>
      rintro _ ⟨⟩
      rcases hletter with rfl | rfl <;> decide

theorem IsExponent.underscoresSeparate (h : IsExponent e cs) : underscoresSeparate false cs = true := by
  cases h with
  | missing => rfl
  | @marked mark negative sign ds hletter hsigned hrun =>
      have hmark : mark ≠ '_' ∧ isDigit mark = false := by
        rcases hletter with rfl | rfl <;> decide
      have hds := hrun.underscoresSeparate_append false []
      rw [List.append_nil] at hds
      rw [underscoresSeparate_cons hmark.1, hmark.2, hsigned.underscoresSeparate_append, hds]
      rfl

theorem readExponent?_marked {mark : Char} (hletter : mark = 'e' ∨ mark = 'E') (cs : List Char) :
    readExponent? (mark :: cs) =
      if (takeSign cs).2.isEmpty || !(takeSign cs).2.all isDigit then none
      else some (if (takeSign cs).1 then -(digitsValue (takeSign cs).2 : Int) else digitsValue (takeSign cs).2) := by
  rw [readExponent?, if_pos hletter]

/-- **Exponents** are read where the grammar has them. -/
theorem readExponent?_eq_some_iff (h : underscoresSeparate false cs = true) :
    readExponent? (joined cs) = some e ↔ IsExponent e cs := by
  constructor
  · intro hread
    cases cs with
    | nil =>
        cases hread
        exact .missing
    | cons mark cs =>
        have hmark := ne_underscore_of_separate h
        rw [joined_cons hmark] at hread
        by_cases hletter : mark = 'e' ∨ mark = 'E'
        · have hdigit : isDigit mark = false := by
            rcases hletter with rfl | rfl <;> decide
          rw [underscoresSeparate_cons hmark, hdigit] at h
          obtain ⟨negative, sign, ds, rfl, hsigned, hunsigned, hds⟩ := exists_sign h
          rw [readExponent?_marked hletter, takeSign_joined hsigned hunsigned] at hread
          dsimp only at hread
          split at hread
          · cases hread
          · rename_i hdigits
            rw [Bool.not_eq_true, Bool.or_eq_false_iff, List.isEmpty_eq_false_iff, Bool.not_eq_false',
              List.all_eq_true] at hdigits
            obtain rfl := Option.some.inj hread
            exact .marked hletter hsigned (isRun_of_joined hds hdigits.1 hdigits.2)
        · rw [readExponent?, if_neg hletter] at hread
          cases hread
  · intro hwritten
    cases hwritten with
    | missing => rfl
    | @marked mark negative sign ds hletter hsigned hrun =>
        have hmark : mark ≠ '_' := by
          rcases hletter with rfl | rfl <;> decide
        have hunsigned : Unsigned ds := by
          have := hrun.unsigned []
          rwa [List.append_nil] at this
        have hempty : (joined ds).isEmpty = false := by
          rw [List.isEmpty_eq_false_iff]
          exact mt (joined_eq_nil_iff (.inr hrun)).mp hrun.ne_nil
        have hall : (joined ds).all isDigit = true := List.all_eq_true.mpr (isDigit_of_mem_joined (.inr hrun))
        rw [joined_cons hmark, readExponent?_marked hletter, takeSign_joined hsigned fun _ => hunsigned]
        dsimp only
        rw [hempty, hall]
        rfl

/-! ### Numerals -/

theorem readMagnitude?_pointed (hw : w = [] ∨ IsRun w) (hf : f = [] ∨ IsRun f) (hrest : Stops rest)
    (negative : Bool) : readMagnitude? negative (joined (w ++ '.' :: (f ++ rest))) =
      if w = [] ∧ f = [] then none
      else (readExponent? (joined rest)).map fun e => (Numeral.mk (joined w) (joined f) e).nearest negative := by
  have hpoint : Stops ('.' :: (f ++ rest)) := by
    rintro _ ⟨⟩
    decide
  have hempty : (joined w ++ joined f).isEmpty = decide (w = [] ∧ f = []) := by
    rw [Bool.eq_iff_iff, List.isEmpty_iff, List.append_eq_nil_iff, decide_eq_true_eq, joined_eq_nil_iff hw,
      joined_eq_nil_iff hf]
  unfold readMagnitude?
  simp only [takeWhile_joined hw hpoint, dropWhile_joined hw hpoint, joined_cons (show '.' ≠ '_' by decide),
    takeWhile_joined hf hrest, dropWhile_joined hf hrest, hempty, decide_eq_true_eq]
  split
  · rfl
  · cases readExponent? (joined rest) with
    | none => rfl
    | some e => rfl

theorem readMagnitude?_whole (hw : w = [] ∨ IsRun w) (hrest : Stops rest) (noPoint : ∀ c ∈ rest.head?, c ≠ '.')
    (negative : Bool) : readMagnitude? negative (joined (w ++ rest)) =
      if w = [] then none
      else (readExponent? (joined rest)).map fun e => (Numeral.mk (joined w) [] e).nearest negative := by
  have hempty : (joined w ++ []).isEmpty = decide (w = []) := by
    rw [List.append_nil, Bool.eq_iff_iff, List.isEmpty_iff, decide_eq_true_eq, joined_eq_nil_iff hw]
  unfold readMagnitude?
  simp only [takeWhile_joined hw hrest, dropWhile_joined hw hrest]
  split
  · rename_i behind hbehind
    have hhead := hrest.head?_joined
    rw [hbehind] at hhead
    exact absurd rfl (noPoint '.' hhead.symm)
  · simp only [hempty, decide_eq_true_eq]
    split
    · rfl
    · cases readExponent? (joined rest) with
      | none => rfl
      | some e => rfl

/-- **Numerals** are read where the grammar has them. -/
theorem readMagnitude?_eq_some_iff (h : underscoresSeparate false cs = true) :
    readMagnitude? negative (joined cs) = some x ↔ ∃ n : Numeral, n.IsWritten cs ∧ n.nearest negative = x := by
  constructor
  · intro hread
    obtain ⟨w, rest, rfl, hw, hrest, hbehind⟩ := exists_run h
    by_cases hpoint : '.' ∈ rest.head?
    · obtain ⟨cs, rfl⟩ : ∃ cs, rest = '.' :: cs := ⟨rest.tail, (List.cons_head?_tail hpoint).symm⟩
      rw [underscoresSeparate_cons (by decide)] at hbehind
      obtain ⟨f, rest, rfl, hf, hrest, hbehind⟩ := exists_run hbehind
      rw [readMagnitude?_pointed hw hf hrest] at hread
      split at hread
      · cases hread
      · rename_i digits
        obtain ⟨e, hexponent, hx⟩ := Option.map_eq_some_iff.mp hread
        have hwritten := (readExponent?_eq_some_iff hbehind).mp hexponent
        refine ⟨⟨joined w, joined f, e⟩, ⟨_, rest, .pointed hw hf digits, hwritten, ?_⟩, hx⟩
        rw [List.append_assoc, List.cons_append]
    · have noPoint : ∀ c ∈ rest.head?, c ≠ '.' := by
        rintro c hc rfl
        exact hpoint hc
      rw [readMagnitude?_whole hw hrest noPoint] at hread
      split at hread
      · cases hread
      · rename_i digits
        obtain ⟨e, hexponent, hx⟩ := Option.map_eq_some_iff.mp hread
        have hwritten := (readExponent?_eq_some_iff hbehind).mp hexponent
        exact ⟨⟨joined w, [], e⟩, ⟨w, rest, .whole (hw.resolve_left digits), hwritten, rfl⟩, hx⟩
  · rintro ⟨⟨whole, fraction, e⟩, ⟨mantissa, rest, hmantissa, hexponent, rfl⟩, rfl⟩
    have hread : readExponent? (joined rest) = some e :=
      (readExponent?_eq_some_iff hexponent.underscoresSeparate).mpr hexponent
    cases hmantissa with
    | whole hrun =>
        rw [readMagnitude?_whole (.inr hrun) hexponent.stops hexponent.ne_point, if_neg hrun.ne_nil, hread]
        rfl
    | pointed hw hf digits =>
        rw [List.append_assoc, List.cons_append, readMagnitude?_pointed hw hf hexponent.stops, if_neg digits, hread]
        rfl

/-! ### Words -/

/-- What is read behind the sign of a decimal. -/
def readUnsigned? (negative : Bool) (cs : List Char) : Option Binary64 :=
  let word := String.ofList (cs.map Char.toLower)
  if word == "nan" then some .nan
  else if word == "inf" || word == "infinity" then some (.infinite negative)
  else readMagnitude? negative cs

theorem readDecimal?_eq (s : String) : readDecimal? s =
    (numeralText? s.toList).bind fun cs => readUnsigned? (takeSign cs).1 (takeSign cs).2 := by
  unfold readDecimal?
  cases numeralText? s.toList with
  | none => rfl
  | some cs => rfl

theorem ofList_beq_iff {word : String} : (String.ofList cs == word) = true ↔ cs = word.toList := by
  rw [beq_iff_eq]
  constructor
  · rintro rfl
    rw [String.toList_ofList]
  · rintro rfl
    rw [String.ofList_toList]

/-- The words for unusual numbers. -/
def unusualWords : List (List Char) :=
  ["nan".toList, "inf".toList, "infinity".toList]

theorem readUnsigned?_eq (negative : Bool) (cs : List Char) : readUnsigned? negative cs =
    if cs.map Char.toLower = "nan".toList then some .nan
    else if cs.map Char.toLower = "inf".toList ∨ cs.map Char.toLower = "infinity".toList then
      some (.infinite negative)
    else readMagnitude? negative cs := by
  unfold readUnsigned?
  simp only [Bool.or_eq_true, ofList_beq_iff]

/-- A word is spelled with letters. -/
theorem isAlpha_of_unusual (h : cs.map Char.toLower ∈ unusualWords) : ∀ c ∈ cs, c.isAlpha = true := by
  have letters : ∀ word ∈ unusualWords, ∀ c ∈ word, c.isAlpha = true := by
    unfold unusualWords
    simp
  exact fun c hc => isAlpha_of_isAlpha_toLower (letters _ h c.toLower (List.mem_map_of_mem hc))

/-- A word has no underscores. -/
theorem joined_of_isAlpha (h : ∀ c ∈ cs, c.isAlpha = true) : joined cs = cs := by
  refine joined_eq_self fun hmem => ?_
  exact absurd (h '_' hmem) (by decide)

/-- No underscores are dropped from a word. -/
theorem joined_of_joined_isAlpha (h : underscoresSeparate false cs = true)
    (letters : ∀ c ∈ joined cs, c.isAlpha = true) : joined cs = cs := by
  induction cs with
  | nil => rfl
  | cons c cs ih =>
      have hc := ne_underscore_of_separate h
      rw [joined_cons hc, List.forall_mem_cons] at letters
      rw [underscoresSeparate_cons hc, isDigit_of_isAlpha letters.1] at h
      rw [joined_cons hc, ih h letters.2]

/-- A numeral begins with a digit or a point. -/
theorem IsMantissa.exists_cons {whole fraction : List Char} (h : IsMantissa whole fraction cs) :
    ∃ c rest, cs = c :: rest ∧ (isDigit c = true ∨ c = '.') := by
  cases h with
  | whole hrun =>
      obtain ⟨d, ds, hd, hdigit⟩ := hrun.exists_cons
      exact ⟨d, ds, hd, .inl hdigit⟩
  | pointed hw _ _ =>
      rcases hw with rfl | hw
      · exact ⟨'.', _, rfl, .inr rfl⟩
      · obtain ⟨d, ds, rfl, hdigit⟩ := hw.exists_cons
        exact ⟨d, _, rfl, .inl hdigit⟩

theorem Numeral.IsWritten.exists_cons (h : n.IsWritten cs) :
    ∃ c rest, cs = c :: rest ∧ (isDigit c = true ∨ c = '.') := by
  obtain ⟨mantissa, exponent, hmantissa, -, rfl⟩ := h
  obtain ⟨c, rest, rfl, hc⟩ := hmantissa.exists_cons
  exact ⟨c, rest ++ exponent, rfl, hc⟩

/-- So it is no word. -/
theorem Numeral.IsWritten.not_unusual (h : n.IsWritten cs) : (joined cs).map Char.toLower ∉ unusualWords := by
  intro hword
  obtain ⟨c, rest, rfl, hc⟩ := h.exists_cons
  have hscore : c ≠ '_' := by
    rcases hc with hdigit | rfl
    · exact ne_underscore_of_isDigit hdigit
    · decide
  have halpha : c.isAlpha = true := by
    refine isAlpha_of_unusual hword c ?_
    rw [joined_cons hscore]
    exact List.mem_cons_self
  rcases hc with hdigit | rfl
  · rw [isDigit_of_isAlpha halpha] at hdigit
    cases hdigit
  · exact absurd halpha (by decide)

/-- A decimal is a word or a numeral. -/
theorem Decimal.IsWritten.word_or_numeral {d : Decimal} (h : d.IsWritten cs) :
    (∀ c ∈ cs, c.isAlpha = true) ∨ ∃ n : Numeral, n.IsWritten cs := by
  cases h with
  | undefined hword => exact .inl (isAlpha_of_unusual (by simp [unusualWords, hword]))
  | infinite hword =>
      exact .inl (isAlpha_of_unusual (by rcases hword with hword | hword <;> simp [unusualWords, hword]))
  | numeral hn => exact .inr ⟨_, hn⟩

/-- A decimal does not begin with a sign, besides the one in front of it. -/
theorem Decimal.IsWritten.unsigned {d : Decimal} (h : d.IsWritten cs) : Unsigned cs := by
  rcases h.word_or_numeral with letters | ⟨n, hn⟩
  · intro c hc
    have halpha := letters c (List.mem_of_mem_head? hc)
    refine ⟨?_, ?_, ?_⟩ <;> rintro rfl <;> exact absurd halpha (by decide)
  · obtain ⟨c, rest, rfl, hc⟩ := hn.exists_cons
    rintro _ ⟨⟩
    rcases hc with hdigit | rfl
    · refine ⟨?_, ?_, ne_underscore_of_isDigit hdigit⟩ <;> rintro rfl <;> exact absurd hdigit (by decide)
    · decide

/-- **What stands behind a sign** is read where the grammar has it. -/
theorem readUnsigned?_eq_some_iff (h : underscoresSeparate false cs = true) :
    readUnsigned? negative (joined cs) = some x ↔ ∃ d : Decimal, d.IsWritten cs ∧ d.nearest negative = x := by
  rw [readUnsigned?_eq]
  constructor
  · intro hread
    have spelled : (joined cs).map Char.toLower ∈ unusualWords → joined cs = cs := fun hword =>
      joined_of_joined_isAlpha h (isAlpha_of_unusual hword)
    split at hread
    · rename_i hword
      rw [spelled (by simp [unusualWords, hword])] at hword
      exact ⟨.undefined, .undefined hword, Option.some.inj hread⟩
    split at hread
    · rename_i hword
      rw [spelled (by rcases hword with hword | hword <;> simp [unusualWords, hword])] at hword
      exact ⟨.infinite, .infinite hword, Option.some.inj hread⟩
    · obtain ⟨n, hn, hx⟩ := (readMagnitude?_eq_some_iff h).mp hread
      exact ⟨.numeral n, .numeral hn, hx⟩
  · rintro ⟨d, hd, rfl⟩
    have plain : ∀ {word}, word ∈ unusualWords → cs.map Char.toLower = word → joined cs = cs := by
      rintro _ hmem rfl
      exact joined_of_isAlpha (isAlpha_of_unusual hmem)
    cases hd with
    | undefined hword =>
        rw [plain (by simp [unusualWords]) hword, if_pos hword]
        rfl
    | infinite hword =>
        have hjoined : joined cs = cs := by
          rcases hword with hword | hword
          · exact plain (by simp [unusualWords]) hword
          · exact plain (by simp [unusualWords]) hword
        rw [hjoined, if_neg, if_pos hword]
        · rfl
        · intro hnan
          rcases hword with hword | hword <;> simp [hnan] at hword
    | @numeral n _ hn =>
        have hunusual := hn.not_unusual
        simp only [unusualWords, List.mem_cons, List.not_mem_nil, or_false, not_or] at hunusual
        rw [if_neg hunusual.1, if_neg (not_or.mpr hunusual.2)]
        exact (readMagnitude?_eq_some_iff h).mpr ⟨n, hn, rfl⟩

/-- The underscores of a decimal are in place. -/
theorem Decimal.IsWritten.underscoresSeparate {d : Decimal} (h : d.IsWritten cs) :
    underscoresSeparate false cs = true := by
  have optional : ∀ {w rest}, (w = [] ∨ IsRun w) → Stops rest → Number.underscoresSeparate false rest = true →
      Number.underscoresSeparate false (w ++ rest) = true := by
    rintro w rest (rfl | hw) hstops hrest
    · exact hrest
    · rwa [hw.underscoresSeparate_append, hstops.underscoresSeparate]
  rcases h.word_or_numeral with letters | ⟨⟨whole, fraction, e⟩, mantissa, exponent, hmantissa, hexponent, rfl⟩
  · exact underscoresSeparate_of_not_mem (fun hmem => absurd (letters '_' hmem) (by decide)) false
  · have hend := hexponent.underscoresSeparate
    cases hmantissa with
    | whole hrun => exact optional (.inr hrun) hexponent.stops hend
    | @pointed w f hw hf _ =>
        have hpoint : Stops ('.' :: (f ++ exponent)) := by
          rintro _ ⟨⟩
          decide
        rw [List.append_assoc, List.cons_append]
        refine optional hw hpoint ?_
        rw [underscoresSeparate_cons (by decide)]
        exact optional hf hexponent.stops hend

/-! ### White space -/

theorem IsRun.dark (h : IsRun w) : ∀ c ∈ w, isWhiteSpace c = false := by
  intro c hc
  rcases h.isDigit_or_eq c hc with hdigit | rfl
  · exact isWhiteSpace_of_not_isBlank (isBlank_of_isDigit hdigit)
  · decide

theorem IsSign.dark (h : IsSign negative sign) : ∀ c ∈ sign, isWhiteSpace c = false := by
  cases h with
  | missing => exact List.forall_mem_nil _
  | plus => exact List.forall_mem_singleton.mpr rfl
  | minus => exact List.forall_mem_singleton.mpr rfl

theorem IsExponent.dark (h : IsExponent e cs) : ∀ c ∈ cs, isWhiteSpace c = false := by
  cases h with
  | missing => exact List.forall_mem_nil _
  | marked hletter hsigned hrun =>
      rw [List.forall_mem_cons, List.forall_mem_append]
      refine ⟨?_, hsigned.dark, hrun.dark⟩
      rcases hletter with rfl | rfl <;> decide

/-- There is no white space in a decimal. -/
theorem Decimal.IsWritten.dark {d : Decimal} (h : d.IsWritten cs) : ∀ c ∈ cs, isWhiteSpace c = false := by
  have optional : ∀ {w}, (w = [] ∨ IsRun w) → ∀ c ∈ w, isWhiteSpace c = false := by
    rintro w (rfl | hw)
    · exact List.forall_mem_nil _
    · exact hw.dark
  rcases h.word_or_numeral with letters | ⟨⟨whole, fraction, e⟩, mantissa, exponent, hmantissa, hexponent, rfl⟩
  · exact fun c hc => isWhiteSpace_of_not_isBlank (isBlank_of_isAlpha (letters c hc))
  · rw [List.forall_mem_append]
    refine ⟨?_, hexponent.dark⟩
    cases hmantissa with
    | whole hrun => exact hrun.dark
    | pointed hw hf _ =>
        rw [List.forall_mem_append, List.forall_mem_cons]
        exact ⟨optional hw, rfl, optional hf⟩

/-- What is left of a text behind the white space around it and the underscores. -/
theorem numeralText?_eq (cs : List Char) : numeralText? cs =
    if underscoresSeparate false (trimWhere isWhiteSpace cs) then some (joined (trimWhere isWhiteSpace cs))
    else none := rfl

end Parts

/-! ## Reading -/

/-- **The reader takes the texts of the grammar and no others**, and reads each as the number it stands for. -/
theorem readDecimal?_eq_some_iff {s : String} {x : Binary64} :
    readDecimal? s = some x ↔ ∃ negative d, Spells s.toList negative d ∧ d.nearest negative = x := by
  rw [readDecimal?_eq, Option.bind_eq_some_iff]
  constructor
  · rintro ⟨text, htext, hread⟩
    rw [numeralText?_eq] at htext
    split at htext
    · rename_i hseparate
      obtain rfl := Option.some.inj htext
      obtain ⟨before, after, hsplit, hbefore, hafter⟩ := exists_trimWhere_append isWhiteSpace s.toList
      obtain ⟨negative, sign, body, hcore, hsigned, hunsigned, hbody⟩ := exists_sign hseparate
      rw [hcore, takeSign_joined hsigned hunsigned] at hread
      obtain ⟨d, hd, hx⟩ := (readUnsigned?_eq_some_iff hbody).mp hread
      rw [hcore] at hsplit
      exact ⟨negative, d, ⟨before, sign, body, after, hsplit, hbefore, hafter, hsigned, hd⟩, hx⟩
    · cases htext
  · rintro ⟨negative, d, ⟨before, sign, body, after, hsplit, hbefore, hafter, hsigned, hd⟩, rfl⟩
    have hdark : ∀ c ∈ sign ++ body, isWhiteSpace c = false :=
      List.forall_mem_append.mpr ⟨hsigned.dark, hd.dark⟩
    have hseparate : underscoresSeparate false (sign ++ body) = true := by
      rw [hsigned.underscoresSeparate_append, hd.underscoresSeparate]
    refine ⟨joined (sign ++ body), ?_, ?_⟩
    · rw [numeralText?_eq, hsplit, trimWhere_append hbefore hafter hdark, if_pos hseparate]
    · rw [takeSign_joined hsigned fun _ => hd.unsigned]
      exact (readUnsigned?_eq_some_iff hd.underscoresSeparate).mpr ⟨d, hd, rfl⟩

theorem readDecimal?_eq_none_iff {s : String} :
    readDecimal? s = none ↔ ¬∃ negative d, Spells s.toList negative d := by
  rw [← Option.not_isSome_iff_eq_none, Option.isSome_iff_exists]
  refine not_congr ⟨?_, ?_⟩
  · rintro ⟨x, hx⟩
    obtain ⟨negative, d, hspells, -⟩ := readDecimal?_eq_some_iff.mp hx
    exact ⟨negative, d, hspells⟩
  · rintro ⟨negative, d, hspells⟩
    exact ⟨_, readDecimal?_eq_some_iff.mpr ⟨negative, d, hspells, rfl⟩⟩

end SnippetCost.Number
