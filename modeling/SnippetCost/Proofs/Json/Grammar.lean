import Mathlib.Data.Bool.AllAny
import Mathlib.Data.List.Basic

/-!
# The grammar of JSON texts

The standard's grammar as a predicate on texts, written without any printer or reader in mind: white space,
numbers, strings, and the three parts that refer to one another (`Derives`).  A text of the grammar is white space
around a value (`IsDocument`).

What the grammar leaves out is the matter here.  The words `NaN` and `Infinity` are not in it, and that is to be
seen without deriving anything: outside of strings no text of the grammar has a capital `I` or `N`.  What stands
outside of strings is found by a scan from left to right (`bare`).

* **`Derives.plain`**: what the grammar derives opens and closes its strings, and is free of these two letters
  outside of them.
-/

namespace SnippetCost.Json

/-! ## Numbers -/

/-- One digit or more. -/
def IsDigitRun (cs : List Char) : Prop :=
  cs ≠ [] ∧ ∀ c ∈ cs, c.isDigit = true

/-- The whole part of a number, without zeros in front. -/
inductive IsWhole : List Char → Prop where
  | zero : IsWhole ['0']
  | lead {d : Char} {ds : List Char} (first : d.isDigit = true) (nonzero : d ≠ '0')
      (digits : ∀ c ∈ ds, c.isDigit = true) : IsWhole (d :: ds)

/-- The fraction of a number, which may be missing. -/
inductive IsFraction : List Char → Prop where
  | absent : IsFraction []
  | point {ds : List Char} (digits : IsDigitRun ds) : IsFraction ('.' :: ds)

/-- The exponent of a number, which may be missing. -/
inductive IsExponent : List Char → Prop where
  | absent : IsExponent []
  | mark {e : Char} {sign ds : List Char} (letter : e = 'e' ∨ e = 'E')
      (signed : sign = [] ∨ sign = ['+'] ∨ sign = ['-']) (digits : IsDigitRun ds) :
      IsExponent (e :: (sign ++ ds))

/-- A number without its sign. -/
def IsUnsigned (cs : List Char) : Prop :=
  ∃ whole fraction exponent, IsWhole whole ∧ IsFraction fraction ∧ IsExponent exponent ∧
    cs = whole ++ (fraction ++ exponent)

/-- A number. -/
def IsNumeral (cs : List Char) : Prop :=
  IsUnsigned cs ∨ ∃ ds, IsUnsigned ds ∧ cs = '-' :: ds

/-- A character that numbers are written with. -/
def IsNumberChar (c : Char) : Prop :=
  c.isDigit = true ∨ c ∈ ['.', 'e', 'E', '+', '-']

/-- Whether a character is one of them is decided by looking at it. -/
instance (c : Char) : Decidable (IsNumberChar c) :=
  inferInstanceAs (Decidable (c.isDigit = true ∨ c ∈ ['.', 'e', 'E', '+', '-']))

/-- The whole part has digits only. -/
theorem IsWhole.isNumberChar {cs : List Char} (h : IsWhole cs) : ∀ c ∈ cs, IsNumberChar c := by
  cases h with
  | zero => exact List.forall_mem_singleton.mpr (.inl rfl)
  | lead hfirst _ hdigits =>
      rw [List.forall_mem_cons]
      exact ⟨.inl hfirst, fun c hc => .inl (hdigits c hc)⟩

/-- The fraction has a point and digits. -/
theorem IsFraction.isNumberChar {cs : List Char} (h : IsFraction cs) : ∀ c ∈ cs, IsNumberChar c := by
  cases h with
  | absent => exact List.forall_mem_nil _
  | point hdigits =>
      rw [List.forall_mem_cons]
      exact ⟨by decide, fun c hc => .inl (hdigits.2 c hc)⟩

/-- The exponent has its letter, a sign perhaps, and digits. -/
theorem IsExponent.isNumberChar {cs : List Char} (h : IsExponent cs) : ∀ c ∈ cs, IsNumberChar c := by
  cases h with
  | absent => exact List.forall_mem_nil _
  | @mark e sign ds hletter hsigned hdigits =>
      have hsign : ∀ c ∈ sign, IsNumberChar c := by
        rcases hsigned with rfl | rfl | rfl <;> exact List.all_iff_forall_prop.mp (by decide)
      rw [List.forall_mem_cons, List.forall_mem_append]
      refine ⟨?_, hsign, fun c hc => .inl (hdigits.2 c hc)⟩
      rcases hletter with rfl | rfl <;> decide

/-- All three parts are of these characters. -/
theorem IsUnsigned.isNumberChar {cs : List Char} (h : IsUnsigned cs) : ∀ c ∈ cs, IsNumberChar c := by
  obtain ⟨whole, fraction, exponent, hwhole, hfraction, hexponent, rfl⟩ := h
  rw [List.forall_mem_append, List.forall_mem_append]
  exact ⟨hwhole.isNumberChar, hfraction.isNumberChar, hexponent.isNumberChar⟩

/-- **A number has digits, a point, a letter for its exponent and signs, and nothing else.** -/
theorem IsNumeral.isNumberChar {cs : List Char} (h : IsNumeral cs) : ∀ c ∈ cs, IsNumberChar c := by
  rcases h with h | ⟨ds, h, rfl⟩
  · exact h.isNumberChar
  · rw [List.forall_mem_cons]
    exact ⟨by decide, h.isNumberChar⟩

/-- There is a whole part, and it is not empty. -/
theorem IsUnsigned.ne_nil {cs : List Char} (h : IsUnsigned cs) : cs ≠ [] := by
  obtain ⟨whole, fraction, exponent, hwhole, -, -, rfl⟩ := h
  cases hwhole with
  | zero => exact List.cons_ne_nil _ _
  | lead => exact List.cons_ne_nil _ _

/-- No number is the empty text. -/
theorem IsNumeral.ne_nil {cs : List Char} (h : IsNumeral cs) : cs ≠ [] := by
  rcases h with h | ⟨ds, -, rfl⟩
  · exact h.ne_nil
  · exact List.cons_ne_nil _ _

/-! ## Strings -/

/-- A hexadecimal digit of either case. -/
def IsHexDigit (c : Char) : Prop :=
  c.isDigit = true ∨ ('a' ≤ c ∧ c ≤ 'f') ∨ ('A' ≤ c ∧ c ≤ 'F')

/-- What stands for one character, or for half of one, in a string. -/
inductive IsPiece : List Char → Prop where
  | plain {c : Char} (printable : 0x20 ≤ c.toNat) (noQuote : c ≠ '"') (noEscape : c ≠ '\\') : IsPiece [c]
  | letter {c : Char} (known : c ∈ ['"', '\\', '/', 'b', 'f', 'n', 'r', 't']) : IsPiece ['\\', c]
  | unit {ds : List Char} (four : ds.length = 4) (digits : ∀ c ∈ ds, IsHexDigit c) :
      IsPiece ('\\' :: 'u' :: ds)

/-- What stands between the quotation marks of a string. -/
inductive IsBody : List Char → Prop where
  | nil : IsBody []
  | cons {piece body : List Char} (first : IsPiece piece) (rest : IsBody body) : IsBody (piece ++ body)

/-- A string. -/
def IsText (cs : List Char) : Prop :=
  ∃ body, IsBody body ∧ cs = '"' :: (body ++ ['"'])

/-! ## Values -/

/-- White space of the grammar. -/
def IsSpace (cs : List Char) : Prop :=
  ∀ c ∈ cs, c = ' ' ∨ c = '\t' ∨ c = '\n' ∨ c = '\r'

/-- The parts of the grammar that refer to one another: values, and what stands in the brackets of a list or
a record that is not empty. -/
inductive Part where
  | value
  | items
  | members

/-- What the grammar derives. -/
inductive Derives : Part → List Char → Prop where
  | word {w : List Char} (known : w ∈ ["true".toList, "false".toList, "null".toList]) : Derives .value w
  | numeral {cs : List Char} (number : IsNumeral cs) : Derives .value cs
  | text {cs : List Char} (string : IsText cs) : Derives .value cs
  | emptyList {a : List Char} (space : IsSpace a) : Derives .value ('[' :: (a ++ [']']))
  | list {cs : List Char} (inner : Derives .items cs) : Derives .value ('[' :: (cs ++ [']']))
  | emptyRecord {a : List Char} (space : IsSpace a) : Derives .value ('\x7b' :: (a ++ ['\x7d']))
  | record {cs : List Char} (inner : Derives .members cs) : Derives .value ('\x7b' :: (cs ++ ['\x7d']))
  | lastItem {a v b : List Char} (front : IsSpace a) (value : Derives .value v) (back : IsSpace b) :
      Derives .items (a ++ (v ++ b))
  | item {a v b rest : List Char} (front : IsSpace a) (value : Derives .value v) (back : IsSpace b)
      (others : Derives .items rest) : Derives .items (a ++ (v ++ (b ++ ',' :: rest)))
  | lastMember {a name b c v d : List Char} (front : IsSpace a) (key : IsText name) (behindKey : IsSpace b)
      (behindColon : IsSpace c) (value : Derives .value v) (back : IsSpace d) :
      Derives .members (a ++ (name ++ (b ++ ':' :: (c ++ (v ++ d)))))
  | member {a name b c v d rest : List Char} (front : IsSpace a) (key : IsText name) (behindKey : IsSpace b)
      (behindColon : IsSpace c) (value : Derives .value v) (back : IsSpace d) (others : Derives .members rest) :
      Derives .members (a ++ (name ++ (b ++ ':' :: (c ++ (v ++ (d ++ ',' :: rest))))))

/-- A text of the grammar. -/
def IsDocument (cs : List Char) : Prop :=
  ∃ a v b, IsSpace a ∧ Derives .value v ∧ IsSpace b ∧ cs = a ++ (v ++ b)

/-! ## What stands outside of strings -/

/-- Where a scan from left to right is: outside of strings, in one, or behind a backslash in one. -/
inductive Where where
  | outside
  | inside
  | escaped
  deriving DecidableEq

/-- The characters outside of strings; the quotation marks belong to the strings. -/
def bare : Where → List Char → List Char
  | _, [] => []
  | .outside, c :: cs => if c = '"' then bare .inside cs else c :: bare .outside cs
  | .inside, c :: cs =>
    if c = '"' then bare .outside cs else if c = '\\' then bare .escaped cs else bare .inside cs
  | .escaped, _ :: cs => bare .inside cs

/-- The scan comes out of the text where it went in, outside of strings, and these characters of the text are
not in strings. -/
def Bares (cs bits : List Char) : Prop :=
  ∀ rest, bare .outside (cs ++ rest) = bits ++ bare .outside rest

/-- The empty text has nothing outside of strings. -/
theorem Bares.nil : Bares [] [] := by
  intro rest
  rfl

/-- Scans are put together as the texts are. -/
theorem Bares.append {cs ds xs ys : List Char} (h : Bares cs xs) (h' : Bares ds ys) :
    Bares (cs ++ ds) (xs ++ ys) := by
  intro rest
  rw [List.append_assoc, h, h', List.append_assoc]

/-- A character that opens no string stands outside of them. -/
theorem Bares.cons {c : Char} {cs xs : List Char} (hc : c ≠ '"') (h : Bares cs xs) :
    Bares (c :: cs) (c :: xs) := by
  intro rest
  rw [List.cons_append, bare, if_neg hc, h]
  rfl

/-- Without quotation marks nothing is in a string. -/
theorem bares_self {cs : List Char} (h : '"' ∉ cs) : Bares cs cs := by
  induction cs with
  | nil => exact .nil
  | cons c cs ih =>
      rw [List.mem_cons, not_or] at h
      exact .cons (Ne.symm h.1) (ih h.2)

/-- What is found outside of strings is determined by the text. -/
theorem Bares.eq {cs xs ys : List Char} (h : Bares cs xs) (h' : Bares cs ys) : xs = ys := by
  have hxs := h []
  have hys := h' []
  rw [hxs] at hys
  simpa [bare] using hys

/-- The digits of an escaped code unit neither end the string nor escape anything. -/
theorem ne_of_isHexDigit {c : Char} (h : IsHexDigit c) : c ≠ '"' ∧ c ≠ '\\' := by
  constructor
  · rintro rfl
    revert h
    unfold IsHexDigit
    decide
  · rintro rfl
    revert h
    unfold IsHexDigit
    decide

/-- A piece of a string does not end it. -/
theorem IsPiece.bare_inside {piece : List Char} (h : IsPiece piece) (rest : List Char) :
    bare .inside (piece ++ rest) = bare .inside rest := by
  cases h with
  | plain _ hquote hescape => simp [bare, hquote, hescape]
  | letter hknown => simp [bare]
  | @unit ds hfour hdigits =>
      have skip : ∀ ds : List Char, (∀ c ∈ ds, IsHexDigit c) →
          bare .inside (ds ++ rest) = bare .inside rest := by
        intro ds
        induction ds with
        | nil => exact fun _ => rfl
        | cons d ds ih =>
            intro hds
            rw [List.forall_mem_cons] at hds
            obtain ⟨hquote, hescape⟩ := ne_of_isHexDigit hds.1
            rw [List.cons_append, bare, if_neg hquote, if_neg hescape, ih hds.2]
      have hbehind : bare .inside (('\\' :: 'u' :: ds) ++ rest) = bare .inside (ds ++ rest) := by
        simp [bare]
      rw [hbehind, skip ds hdigits]

/-- Nor do any number of pieces. -/
theorem IsBody.bare_inside {body : List Char} (h : IsBody body) (rest : List Char) :
    bare .inside (body ++ rest) = bare .inside rest := by
  induction h with
  | nil => rfl
  | cons hfirst _ ih => rw [List.append_assoc, hfirst.bare_inside, ih]

/-- A string leaves nothing outside. -/
theorem IsText.bares {cs : List Char} (h : IsText cs) : Bares cs [] := by
  obtain ⟨body, hbody, rfl⟩ := h
  intro rest
  rw [List.cons_append, bare, if_pos rfl, List.append_assoc, hbody.bare_inside]
  simp [bare]

/-! ## The letters of the words for unusual numbers -/

/-- A capital that begins the word `NaN` or the word `Infinity`. -/
def IsWordLetter (c : Char) : Prop :=
  c = 'N' ∨ c = 'I'

/-- Whether a character is one of the two is decided by looking at it. -/
instance (c : Char) : Decidable (IsWordLetter c) :=
  inferInstanceAs (Decidable (c = 'N' ∨ c = 'I'))

/-- The text opens and closes its strings, and neither word is outside of them. -/
def Plain (cs : List Char) : Prop :=
  ∃ bits, Bares cs bits ∧ ∀ c ∈ bits, ¬IsWordLetter c

/-- The empty text has neither word. -/
theorem plain_nil : Plain [] :=
  ⟨[], .nil, List.forall_mem_nil _⟩

/-- Plain texts put together are plain. -/
theorem Plain.append {cs ds : List Char} (h : Plain cs) (h' : Plain ds) : Plain (cs ++ ds) := by
  obtain ⟨xs, hxs, hplain⟩ := h
  obtain ⟨ys, hys, hplain'⟩ := h'
  refine ⟨xs ++ ys, hxs.append hys, ?_⟩
  rw [List.forall_mem_append]
  exact ⟨hplain, hplain'⟩

/-- A character in front that opens no string and begins neither word changes nothing. -/
theorem Plain.cons {c : Char} {cs : List Char} (hc : c ≠ '"' ∧ ¬IsWordLetter c) (h : Plain cs) :
    Plain (c :: cs) := by
  obtain ⟨xs, hxs, hplain⟩ := h
  refine ⟨c :: xs, hxs.cons hc.1, ?_⟩
  rw [List.forall_mem_cons]
  exact ⟨hc.2, hplain⟩

/-- A text without quotation marks and without the two letters is plain. -/
theorem plain_of_forall {cs : List Char} (h : ∀ c ∈ cs, c ≠ '"' ∧ ¬IsWordLetter c) : Plain cs := by
  induction cs with
  | nil => exact plain_nil
  | cons c cs ih =>
      rw [List.forall_mem_cons] at h
      exact .cons h.1 (ih h.2)

/-- The same for a text that is written out, by evaluation. -/
theorem plain_of_all {cs : List Char} (h : cs.all (fun c => decide (c ≠ '"' ∧ ¬IsWordLetter c)) = true) :
    Plain cs := by
  refine plain_of_forall ?_
  intro c hc
  exact of_decide_eq_true (List.all_eq_true.mp h c hc)

/-- A string is plain, whatever it says. -/
theorem IsText.plain {cs : List Char} (h : IsText cs) : Plain cs :=
  ⟨[], h.bares, List.forall_mem_nil _⟩

/-- White space is plain. -/
theorem IsSpace.plain {cs : List Char} (h : IsSpace cs) : Plain cs := by
  refine plain_of_forall ?_
  intro c hc
  rcases h c hc with rfl | rfl | rfl | rfl <;> exact ⟨by decide, by decide⟩

/-- A number is plain: its one possible letter is an `e` of either case. -/
theorem IsNumeral.plain {cs : List Char} (h : IsNumeral cs) : Plain cs := by
  refine plain_of_forall ?_
  intro c hc
  have hnumber := h.isNumberChar c hc
  constructor
  · rintro rfl
    exact absurd hnumber (by decide)
  · rintro (rfl | rfl)
    · exact absurd hnumber (by decide)
    · exact absurd hnumber (by decide)

/-- **Nothing derived has one of the words outside of its strings.** -/
theorem Derives.plain {part : Part} {cs : List Char} (h : Derives part cs) : Plain cs := by
  -- What stands behind the opening bracket ends with the closing one.
  have bracketed : ∀ {cs : List Char} {c : Char}, c ≠ '"' ∧ ¬IsWordLetter c → Plain cs → Plain (cs ++ [c]) := by
    intro cs c hc hcs
    exact hcs.append (.cons hc plain_nil)
  induction h with
  | word hknown =>
      refine plain_of_all ?_
      revert hknown
      simp only [List.mem_cons, List.not_mem_nil, or_false]
      rintro (rfl | rfl | rfl) <;> decide
  | numeral hnumber => exact hnumber.plain
  | text hstring => exact hstring.plain
  | emptyList hspace => exact .cons (by decide) (bracketed (by decide) hspace.plain)
  | list _ ih => exact .cons (by decide) (bracketed (by decide) ih)
  | emptyRecord hspace => exact .cons (by decide) (bracketed (by decide) hspace.plain)
  | record _ ih => exact .cons (by decide) (bracketed (by decide) ih)
  | lastItem hfront _ hback ih => exact hfront.plain.append (ih.append hback.plain)
  | item hfront _ hback _ ih ihOthers =>
      exact hfront.plain.append (ih.append (hback.plain.append (.cons (by decide) ihOthers)))
  | lastMember hfront hkey hbehindKey hbehindColon _ hback ih =>
      have hvalue := hbehindColon.plain.append (ih.append hback.plain)
      exact hfront.plain.append (hkey.plain.append (hbehindKey.plain.append (.cons (by decide) hvalue)))
  | member hfront hkey hbehindKey hbehindColon _ hback _ ih ihOthers =>
      have hrest := hback.plain.append (.cons (c := ',') (by decide) ihOthers)
      have hvalue := hbehindColon.plain.append (ih.append hrest)
      exact hfront.plain.append (hkey.plain.append (hbehindKey.plain.append (.cons (by decide) hvalue)))

/-- Nor has a text of the grammar. -/
theorem IsDocument.plain {cs : List Char} (h : IsDocument cs) : Plain cs := by
  obtain ⟨a, v, b, ha, hv, hb, rfl⟩ := h
  exact ha.plain.append (hv.plain.append hb.plain)

end SnippetCost.Json
