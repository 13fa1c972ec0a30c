import SnippetCost.Proofs.Number.Literal
import SnippetCost.Proofs.Number.Range
import SnippetCost.Proofs.Report.Column
import SnippetCost.Report.Parser

/-!
# Columns as numerals

The numbers of a report are written plainly: no sign, no blanks, no underscores, no exponent.  So they are
numerals for the readers of integers and of decimals, whatever else these readers accept.

* **`readInt?_digits`**, **`natOfDigits?_digits`**: a run of digits reads as the integer it writes, and only
  the bound on the number of digits keeps one from being read;
* **`readDecimal?_decimal_eq`**, **`readDecimal?_eq_infinite_iff`**: a decimal number always reads, not as an
  undefined or negative number, and as infinity exactly if it reaches the end of the range;
* **`Metric.extract_eq`**: so the measures of a report are what these readers make of its numbers, and no
  conversion fails.
-/

namespace SnippetCost

open SnippetCost.Text SnippetCost.Number

/-! ## Plain numerals -/

/-- A character of a decimal number is a digit or a point. -/
theorem IsDecimal.isDigit_or_eq_point {cs : List Char} (h : IsDecimal cs) :
    ∀ c ∈ cs, isDigit c = true ∨ c = '.' := by
  rcases h with h | ⟨whole, fraction, hwhole, hfraction, rfl⟩
  · exact fun c hc => .inl (h.2 c hc)
  · intro c hc
    rcases List.mem_append.mp hc with hc | hc
    · exact .inl (hwhole.2 c hc)
    · rcases List.mem_cons.mp hc with rfl | hc
      · exact .inr rfl
      · exact .inl (hfraction.2 c hc)

/-- A decimal number begins with a digit. -/
theorem IsDecimal.exists_digit_cons {cs : List Char} (h : IsDecimal cs) :
    ∃ d rest, cs = d :: rest ∧ isDigit d = true := by
  rcases h with h | ⟨whole, fraction, hwhole, -, rfl⟩
  · obtain ⟨d, rest, rfl⟩ := List.exists_cons_of_ne_nil h.1
    exact ⟨d, rest, rfl, h.2 d List.mem_cons_self⟩
  · obtain ⟨d, rest, rfl⟩ := List.exists_cons_of_ne_nil hwhole.1
    exact ⟨d, rest ++ '.' :: fraction, rfl, hwhole.2 d List.mem_cons_self⟩

/-- A decimal number is a numeral as it stands. -/
theorem numeralText?_decimal {cs : List Char} (h : IsDecimal cs) : numeralText? cs = some cs := by
  have hspace : ∀ c ∈ cs, isWhiteSpace c = false := fun c hc =>
    isWhiteSpace_of_not_isBlank (h.isBlank_eq_false c hc)
  have hunderscore : ∀ c ∈ cs, c ≠ '_' := by
    rintro c hc rfl
    rcases h.isDigit_or_eq_point '_' hc with hdigit | hpoint
    · exact absurd hdigit (by decide)
    · exact absurd hpoint (by decide)
  have hfilter : cs.filter (· != '_') = cs :=
    List.filter_eq_self.mpr fun c hc => bne_iff_ne.mpr (hunderscore c hc)
  unfold numeralText?
  simp only [trimWhere_eq_self hspace]
  rw [underscoresSeparate_of_not_mem (fun hmem => hunderscore '_' hmem rfl), if_pos rfl, hfilter]

/-! ## Integers -/

/-- A run of digits reads as the integer it writes. -/
theorem readInt?_digits {cs : List Char} (h : IsDigits cs) :
    readInt? (String.ofList cs) = (natOfDigits? cs).map fun n => (n : Int) := by
  obtain ⟨d, rest, rfl, hd⟩ := IsDecimal.exists_digit_cons (.inl h)
  unfold readInt?
  rw [String.toList_ofList, numeralText?_decimal (.inl h)]
  simp only [Option.bind_eq_bind, Option.bind_some, takeSign_digit hd]
  cases natOfDigits? (d :: rest) <;> rfl

/-- Only a run of too many digits is not read. -/
theorem natOfDigits?_digits {cs : List Char} (h : IsDigits cs) :
    natOfDigits? cs = if maxIntegerDigits < cs.length then none else some (digitsValue cs) := by
  have hempty : cs.isEmpty = false := by simpa using h.1
  have hall : cs.all isDigit = true := List.all_eq_true.mpr h.2
  simp [natOfDigits?, hempty, hall]

/-! ## Decimals -/

/-- The words for unusual numbers begin with letters. -/
theorem ofList_toLower_ne {d : Char} (h : isDigit d = true) (rest : List Char) (word : String) (l : Char)
    (hword : word.toList.head? = some l) (hl : l.isAlpha = true) :
    (String.ofList ((d :: rest).map Char.toLower) == word) = false := by
  rw [beq_eq_false_iff_ne]
  rintro rfl
  rw [String.toList_ofList, List.map_cons, List.head?_cons, Option.some.injEq, toLower_digit h] at hword
  rw [hword, isDigit_of_isAlpha hl] at h
  cases h

/-- A decimal number is no word for an unusual number, so it is read for its digits. -/
theorem readDecimal?_decimal {cs : List Char} (h : IsDecimal cs) :
    readDecimal? (String.ofList cs) = readMagnitude? false cs := by
  obtain ⟨d, rest, rfl, hd⟩ := h.exists_digit_cons
  unfold readDecimal?
  rw [String.toList_ofList, numeralText?_decimal h]
  simp only [Option.bind_eq_bind, Option.bind_some, takeSign_digit hd]
  rw [ofList_toLower_ne hd rest "nan" 'n' rfl (by decide)]
  rw [ofList_toLower_ne hd rest "inf" 'i' rfl (by decide)]
  rw [ofList_toLower_ne hd rest "infinity" 'i' rfl (by decide)]
  simp

/-- A point is no digit. -/
theorem IsDigits.point_not_mem {cs : List Char} (h : IsDigits cs) : '.' ∉ cs := by
  intro hmem
  exact absurd (h.2 '.' hmem) (by decide)

/-- A decimal number is read for its magnitude: that of its digits, less the places behind the point. -/
theorem readMagnitude?_decimal {cs : List Char} (h : IsDecimal cs) : ∃ digits places,
    places ≤ digits.length ∧ magnitude cs = digitsValue digits / 10 ^ places ∧
      readMagnitude? false cs = some (ofScientific false (digitsValue digits) digits.length
        ((0 : Int) - (places : Nat))) := by
  rcases h with h | ⟨whole, fraction, hwhole, hfraction, rfl⟩
  · have htake : cs.takeWhile isDigit = cs := List.takeWhile_eq_self_iff.mpr h.2
    have hdrop : cs.dropWhile isDigit = [] := List.dropWhile_eq_nil_iff.mpr h.2
    have hempty : cs.isEmpty = false := by simpa using h.1
    refine ⟨cs, 0, Nat.zero_le _, ?_, ?_⟩
    · rw [magnitude_of_pointless h.point_not_mem]
      simp
    · simp [readMagnitude?, readExponent?, htake, hdrop, hempty]
  · have point : ∀ c ∈ ('.' :: fraction).head?, isDigit c = false := by
      intro c hc
      obtain rfl : '.' = c := by simpa using hc
      decide
    have htake : fraction.takeWhile isDigit = fraction := List.takeWhile_eq_self_iff.mpr hfraction.2
    have hdrop : fraction.dropWhile isDigit = [] := List.dropWhile_eq_nil_iff.mpr hfraction.2
    have hempty : (whole ++ fraction).isEmpty = false := by simpa using fun h => absurd h hwhole.1
    refine ⟨whole ++ fraction, fraction.length, ?_, ?_, ?_⟩
    · rw [List.length_append]
      omega
    · exact magnitude_point hwhole.point_not_mem fraction
    · simp only [readMagnitude?, takeWhile_run hwhole.2 point, dropWhile_run hwhole.2 point, htake, hdrop, hempty]
      simp [readExponent?]

/-- Without a minus sign the number written by digits and an exponent is finite or too large. -/
theorem ofScientific_eq (digits count : Nat) (exponent : Int) :
    (∃ units, ofScientific false digits count exponent = .finite false units) ∨
      ofScientific false digits count exponent = .infinite false := by
  unfold ofScientific
  split
  · exact .inl ⟨0, rfl⟩
  · split
    · exact .inr rfl
    · exact Binary64.ofQuotient_finite_or_infinite _ _

/-- A decimal number always reads, as a finite number or one that is too large. -/
theorem readDecimal?_decimal_eq {cs : List Char} (h : IsDecimal cs) :
    (∃ units, readDecimal? (String.ofList cs) = some (.finite false units)) ∨
      readDecimal? (String.ofList cs) = some (.infinite false) := by
  obtain ⟨digits, places, -, -, hread⟩ := readMagnitude?_decimal h
  rw [readDecimal?_decimal h, hread]
  rcases ofScientific_eq (digitsValue digits) digits.length (0 - (places : Nat)) with ⟨units, heq⟩ | heq
  · exact .inl ⟨units, congrArg some heq⟩
  · exact .inr (congrArg some heq)

/-- **Numerals out of range**: a decimal number reads as infinity exactly if it reaches the end of the range. -/
theorem readDecimal?_eq_infinite_iff {cs : List Char} (h : IsDecimal cs) :
    readDecimal? (String.ofList cs) = some (.infinite false) ↔ (rangeEnd : ℚ) ≤ magnitude cs := by
  obtain ⟨digits, places, hplaces, hmagnitude, hread⟩ := readMagnitude?_decimal h
  rw [readDecimal?_decimal h, hread, Option.some.injEq, ofScientific_eq_infinite_iff hplaces, hmagnitude]

theorem exists_readDecimal?_decimal {cs : List Char} (h : IsDecimal cs) :
    ∃ x, readDecimal? (String.ofList cs) = some x := by
  rcases readDecimal?_decimal_eq h with ⟨units, hread⟩ | hread
  · exact ⟨_, hread⟩
  · exact ⟨_, hread⟩

/-- A column with a decimal number reads as a defined number. -/
theorem exists_defined_of_isDecimal {column : String} (h : IsDecimal column.toList) :
    ∃ x, readDecimal? column = some x ∧ x ≠ .nan := by
  have hread := readDecimal?_decimal_eq h
  rw [String.ofList_toList] at hread
  rcases hread with ⟨units, hread⟩ | hread
  · exact ⟨_, hread, nofun⟩
  · exact ⟨_, hread, nofun⟩

/-! ## Measures -/

/-- The measure of a summary by its name. -/
def Summary.measure (s : Summary) : Metric → Measure
  | .iterations => s.iterations
  | .instructionCount => s.instructionCount
  | .totalCycles => s.totalCycles
  | .totalUops => s.totalUops
  | .dispatchWidth => s.dispatchWidth
  | .uopsPerCycle => s.uopsPerCycle
  | .ipc => s.ipc
  | .blockThroughput => s.blockThroughput

/-- What the reader of integers, or of decimals, makes of a numeral; nothing, if it refuses it. -/
def Metric.reading? (m : Metric) (numeral : String) : Option Measure :=
  if m.isRatio then (readDecimal? numeral).map .ratio else (readInt? numeral).map .count

/-- A count is missing only if it has too many digits. -/
theorem Metric.getD_reading?_count {m : Metric} (count : m.isRatio = false) {number : List Char}
    (h : IsDigits number) : (m.reading? (String.ofList number)).getD .unavailable =
      if maxIntegerDigits < number.length then .unavailable else .count (digitsValue number : Nat) := by
  rw [reading?, count, readInt?_digits h, natOfDigits?_digits h]
  by_cases hlong : maxIntegerDigits < number.length
  · rw [if_pos hlong, if_pos hlong]
    rfl
  · rw [if_neg hlong, if_neg hlong]
    rfl

theorem measure_extract (text : List Char) (m : Metric) :
    (Summary.extract text).measure m = m.extract text := by
  cases m <;> rfl

theorem measure_readReport (text : String) (m : Metric) :
    (readReport text).value.summary.measure m = m.extract text.toList :=
  measure_extract text.toList m

theorem isNumber_of_numberBehindBlanks? {withFraction : Bool} {cs number : List Char}
    (h : numberBehindBlanks? withFraction cs = some number) : IsNumber withFraction number := by
  unfold numberBehindBlanks? at h
  simp only [Bool.or_eq_true, List.isEmpty_iff] at h
  split at h
  · cases h
  · rename_i hne
    rw [not_or] at hne
    obtain rfl := Option.some.inj h
    exact isNumber_takeNumber hne.2

/-- What is found behind a label is a number of the measure's kind. -/
theorem Metric.isNumber_of_findNumber? {m : Metric} {atLineStart : Bool} {text number : List Char}
    (h : m.findNumber? atLineStart text = some number) : IsNumber m.isRatio number := by
  induction text generalizing atLineStart with
  | nil => cases h
  | cons c cs ih =>
      rw [findNumber?] at h
      split at h
      · rename_i found hhere
        obtain rfl := Option.some.inj h
        split at hhere
        · obtain ⟨rest, -, hnumber⟩ := Option.bind_eq_some_iff.mp hhere
          exact isNumber_of_numberBehindBlanks? hnumber
        · cases hhere
      · exact ih h

/-- A number of the measure's kind is converted as its reader reads it. -/
theorem Metric.convert_eq {m : Metric} {number : List Char} (h : IsNumber m.isRatio number) :
    m.convert number = (m.reading? (String.ofList number)).getD .unavailable := by
  unfold convert reading?
  cases hratio : m.isRatio with
  | false =>
      rw [hratio] at h
      rw [readInt?_digits h, Option.map_map]
      rfl
  | true =>
      rw [hratio] at h
      rw [readDecimal?_decimal h]
      rfl

/-- **No conversion fails.**  A measure is what the reader of its numbers makes of the first number behind its
label, and missing if there is none or the reader refuses it. -/
theorem Metric.extract_eq (m : Metric) (text : List Char) :
    m.extract text =
      ((m.findNumber? true text).bind fun number => m.reading? (String.ofList number)).getD
        .unavailable := by
  unfold extract
  cases hfind : m.findNumber? true text with
  | none => rfl
  | some number => exact m.convert_eq (m.isNumber_of_findNumber? hfind)

end SnippetCost
