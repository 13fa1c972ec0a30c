import SnippetCost.Proofs.Report.Numeral
import SnippetCost.Proofs.Report.Section

/-!
# Labelled numbers

Where the number of a measure stands in a text, said without the search for it.  A label counts if blanks and then a
digit stand behind it (`Metric.Labels`), and the number is as long as it can be (`IsWholeNumber`).

* **`Metric.findNumber?_eq_some_iff`**: the number that is found is the one behind the first label that counts
  (`Metric.FirstNumber`);
* **`Metric.findNumber?_eq_none_iff`**: none is found exactly if no label counts.

The blanks may hold line feeds, so the number need not stand on the line of its label.
-/

namespace SnippetCost

open SnippetCost.Text

/-! ## Numbers as long as they can be -/

/-- A text that begins with a digit. -/
def StartsWithDigit (cs : List Char) : Prop :=
  ∃ d ∈ cs.head?, isDigit d = true

/-- A number in front of a text, no longer piece of which makes a number with it. -/
def IsWholeNumber (withFraction : Bool) (number after : List Char) : Prop :=
  IsNumber withFraction number ∧
    ∀ more, more <+: after → IsNumber withFraction (number ++ more) → more = []

theorem IsNumber.isDecimal {withFraction : Bool} {number : List Char} (h : IsNumber withFraction number) :
    IsDecimal number := by
  cases withFraction with
  | false => exact .inl h
  | true => exact h

theorem IsNumber.startsWithDigit {withFraction : Bool} {number : List Char} (h : IsNumber withFraction number)
    (after : List Char) : StartsWithDigit (number ++ after) := by
  obtain ⟨d, rest, rfl, hd⟩ := h.isDecimal.exists_digit_cons
  exact ⟨d, rfl, hd⟩

theorem StartsWithDigit.startsDark {cs : List Char} (h : StartsWithDigit cs) : StartsDark cs := by
  obtain ⟨d, hhead, hd⟩ := h
  intro c hc
  obtain rfl := Option.mem_unique hhead hc
  exact isBlank_of_isDigit hd

/-- What is taken of a text that begins with a number has that number at its start. -/
theorem isPrefix_takeNumber {withFraction : Bool} {number : List Char} (h : IsNumber withFraction number)
    (after : List Char) : number <+: takeNumber withFraction (number ++ after) := by
  have digits : ∀ {run : List Char}, IsDigits run →
      (run ++ after).takeWhile isDigit = run ++ after.takeWhile isDigit := fun hrun =>
    List.takeWhile_append_of_pos hrun.2
  cases withFraction with
  | false =>
      simp only [takeNumber, Bool.false_and, Bool.false_eq_true, if_false]
      rw [digits h]
      exact List.prefix_append _ _
  | true =>
      rcases h with h | ⟨whole, fraction, hwhole, hfraction, rfl⟩
      · simp only [takeNumber, digits h]
        split
        · exact (List.prefix_append _ _).trans (List.prefix_append _ _)
        · exact List.prefix_append _ _
      · have point : ∀ c ∈ ('.' :: (fraction ++ after)).head?, isDigit c = false := by
          rintro c ⟨⟩
          decide
        have hwholeEmpty : whole.isEmpty = false := by simpa using hwhole.1
        have hfractionEmpty : (fraction ++ after.takeWhile isDigit).isEmpty = false := by
          simpa using fun h => absurd h hfraction.1
        rw [List.append_assoc, List.cons_append]
        simp only [takeNumber, takeWhile_run hwhole.2 point, dropWhile_run hwhole.2 point, takeFraction,
          digits hfraction, hwholeEmpty, hfractionEmpty, Bool.not_false, Bool.and_self, if_true,
          Bool.false_eq_true, if_false]
        exact ⟨after.takeWhile isDigit, by simp⟩

/-- The reader takes a number as long as it can be. -/
theorem isWholeNumber_iff {withFraction : Bool} {number after : List Char} :
    IsWholeNumber withFraction number after ↔
      number ≠ [] ∧ takeNumber withFraction (number ++ after) = number := by
  constructor
  · rintro ⟨hnumber, hmaximal⟩
    refine ⟨hnumber.ne_nil, ?_⟩
    obtain ⟨more, hmore⟩ := isPrefix_takeNumber hnumber after
    have htaken : number ++ more <+: number ++ after := by
      rw [hmore]
      exact takeNumber_isPrefix withFraction _
    have hne : takeNumber withFraction (number ++ after) ≠ [] := by
      rw [← hmore]
      exact List.append_ne_nil_of_left_ne_nil hnumber.ne_nil more
    have hnil : more = [] := by
      refine hmaximal more ((List.prefix_append_right_inj number).mp htaken) ?_
      rw [hmore]
      exact isNumber_takeNumber hne
    rw [← hmore, hnil, List.append_nil]
  · rintro ⟨hne, htake⟩
    have hnumber : IsNumber withFraction (takeNumber withFraction (number ++ after)) :=
      isNumber_takeNumber (by rwa [htake])
    rw [htake] at hnumber
    refine ⟨hnumber, ?_⟩
    rintro more ⟨rest, rfl⟩ hlonger
    have hprefix := isPrefix_takeNumber hlonger rest
    rw [List.append_assoc, htake] at hprefix
    simpa using hprefix.length_le

/-- Where a digit stands, a number does. -/
theorem StartsWithDigit.exists_isWholeNumber {cs : List Char} (h : StartsWithDigit cs) (withFraction : Bool) :
    ∃ number after, cs = number ++ after ∧ IsWholeNumber withFraction number after := by
  obtain ⟨after, hafter⟩ := takeNumber_isPrefix withFraction cs
  refine ⟨_, after, hafter.symm, isWholeNumber_iff.mpr ⟨?_, by rw [hafter]⟩⟩
  obtain ⟨d, hhead, hd⟩ := h
  obtain ⟨ds, rfl⟩ : ∃ ds, cs = d :: ds := by
    cases cs with
    | nil => cases hhead
    | cons c ds =>
        cases hhead
        exact ⟨ds, rfl⟩
  have hdigits : IsNumber withFraction [d] := by
    cases withFraction with
    | false => exact ⟨List.cons_ne_nil d [], List.forall_mem_singleton.mpr hd⟩
    | true => exact .inl ⟨List.cons_ne_nil d [], List.forall_mem_singleton.mpr hd⟩
  intro hnil
  have hprefix := isPrefix_takeNumber hdigits ds
  rw [List.singleton_append, hnil] at hprefix
  simpa using hprefix.length_le

/-! ## Labels -/

namespace Metric

/-- A label of a measure that counts, between what stands in front of it and the blanks behind it, which end in front
of a digit. -/
structure Labels (m : Metric) (text before gap rest : List Char) : Prop where
  text_eq : text = before ++ (m.label.toList ++ (gap ++ rest))
  before_endsLine : m.startsLine = true → EndsLine before
  gap_blank : IsGap gap
  rest_digit : StartsWithDigit rest

/-- The number behind the first label that counts. -/
structure FirstNumber (m : Metric) (text before gap number after : List Char) : Prop where
  labels : m.Labels text before gap (number ++ after)
  whole : IsWholeNumber m.isRatio number after
  first : ∀ before' gap' rest', m.Labels text before' gap' rest' → before.length ≤ before'.length

theorem label_ne_nil (m : Metric) : m.label.toList ≠ [] := by
  cases m <;> exact List.cons_ne_nil _ _

theorem lineFeed_not_mem_label (m : Metric) : '\n' ∉ m.label.toList := by
  cases m <;> decide

/-- A label ends in a colon and holds no other. -/
theorem exists_label_eq (m : Metric) : ∃ name, m.label.toList = name ++ [':'] ∧ ':' ∉ name := by
  refine ⟨m.label.toList.dropLast, ?_, ?_⟩
  · cases m <;> rfl
  · cases m <;> decide

theorem numberBehindBlanks?_eq_some_iff {withFraction : Bool} {cs number : List Char} :
    numberBehindBlanks? withFraction cs = some number ↔
      ∃ gap after, cs = gap ++ (number ++ after) ∧ IsGap gap ∧ IsWholeNumber withFraction number after := by
  unfold numberBehindBlanks?
  simp only [Bool.or_eq_true, List.isEmpty_iff]
  constructor
  · intro h
    split at h
    · cases h
    · rename_i hne
      rw [not_or] at hne
      obtain rfl := Option.some.inj h
      obtain ⟨after, hafter⟩ := takeNumber_isPrefix withFraction (cs.dropWhile isBlank)
      refine ⟨cs.takeWhile isBlank, after, ?_, ⟨hne.1, fun c hc => List.mem_takeWhile_imp hc⟩,
        isWholeNumber_iff.mpr ⟨hne.2, by rw [hafter]⟩⟩
      rw [hafter, List.takeWhile_append_dropWhile]
  · rintro ⟨gap, after, rfl, hgap, hwhole⟩
    have hdark := (hwhole.1.startsWithDigit after).startsDark
    obtain ⟨hne, htake⟩ := isWholeNumber_iff.mp hwhole
    rw [takeWhile_run hgap.2 hdark, dropWhile_run hgap.2 hdark, htake]
    simp [hgap.1, hne]

/-- What is found where the search stands. -/
theorem here_eq_some_iff {m : Metric} {passed left number : List Char} {atLineStart : Bool}
    (start : atLineStart = true ↔ EndsLine passed) :
    (if atLineStart || !m.startsLine then m.numberHere? left else none) = some number ↔
      ∃ gap after, m.Labels (passed ++ left) passed gap (number ++ after) ∧
        IsWholeNumber m.isRatio number after := by
  unfold numberHere?
  constructor
  · intro h
    split at h
    · rename_i hcounts
      obtain ⟨rest, hlabel, hnumber⟩ := Option.bind_eq_some_iff.mp h
      obtain ⟨gap, after, rfl, hgap, hwhole⟩ := numberBehindBlanks?_eq_some_iff.mp hnumber
      refine ⟨gap, after, ⟨by rw [afterText?_eq_some_iff.mp hlabel], ?_, hgap,
        hwhole.1.startsWithDigit after⟩, hwhole⟩
      intro hstarts
      rw [← start]
      simpa [hstarts] using hcounts
    · cases h
  · rintro ⟨gap, after, hlabels, hwhole⟩
    have hcounts : (atLineStart || !m.startsLine) = true := by
      cases hstarts : m.startsLine with
      | false => simp
      | true => simpa using start.mpr (hlabels.before_endsLine hstarts)
    rw [if_pos hcounts, Option.bind_eq_some_iff]
    refine ⟨gap ++ (number ++ after), afterText?_eq_some_iff.mpr (List.append_cancel_left hlabels.text_eq), ?_⟩
    exact numberBehindBlanks?_eq_some_iff.mpr ⟨gap, after, rfl, hlabels.gap_blank, hwhole⟩

/-- Where the search finds nothing, no label counts. -/
theorem not_labels_of_here_eq_none {m : Metric} {passed left : List Char} {atLineStart : Bool}
    (start : atLineStart = true ↔ EndsLine passed)
    (h : (if atLineStart || !m.startsLine then m.numberHere? left else none) = none) (gap rest : List Char) :
    ¬m.Labels (passed ++ left) passed gap rest := by
  intro hlabels
  obtain ⟨number, after, rfl, hwhole⟩ := hlabels.rest_digit.exists_isWholeNumber m.isRatio
  rw [(here_eq_some_iff start).mpr ⟨gap, after, hlabels, hwhole⟩] at h
  cases h

/-- A search that finds nothing has passed no label that counts. -/
theorem not_labels_of_findNumber?_eq_none {m : Metric} {left passed : List Char} {atLineStart : Bool}
    (start : atLineStart = true ↔ EndsLine passed) (h : m.findNumber? atLineStart left = none)
    (middle gap rest : List Char) : ¬m.Labels (passed ++ left) (passed ++ middle) gap rest := by
  induction left generalizing passed atLineStart middle with
  | nil =>
      intro hlabels
      have hnil := hlabels.text_eq
      rw [List.append_assoc] at hnil
      have hlabel := List.append_cancel_left hnil
      rw [List.nil_eq_append_iff, List.append_eq_nil_iff] at hlabel
      exact m.label_ne_nil hlabel.2.1
  | cons c left ih =>
      intro hlabels
      rw [findNumber?] at h
      split at h
      · cases h
      · rename_i hhere
        cases middle with
        | nil =>
            rw [List.append_nil] at hlabels
            exact not_labels_of_here_eq_none start hhere gap rest hlabels
        | cons d middle =>
            have heq := hlabels.text_eq
            rw [List.append_assoc] at heq
            obtain ⟨rfl, -⟩ := List.cons.inj (List.append_cancel_left heq)
            have hnext : (c == '\n') = true ↔ EndsLine (passed ++ [c]) := by
              rw [endsLine_concat, beq_iff_eq]
            refine ih hnext h middle ?_
            simpa using hlabels

/-- What a search finds is behind the first label that counts of those it passes. -/
theorem exists_of_findNumber?_eq_some {m : Metric} {left passed number : List Char} {atLineStart : Bool}
    (start : atLineStart = true ↔ EndsLine passed) (h : m.findNumber? atLineStart left = some number) :
    ∃ middle gap after, m.Labels (passed ++ left) (passed ++ middle) gap (number ++ after) ∧
      IsWholeNumber m.isRatio number after ∧
      ∀ middle' gap' rest', m.Labels (passed ++ left) (passed ++ middle') gap' rest' →
        middle.length ≤ middle'.length := by
  induction left generalizing passed atLineStart with
  | nil => cases h
  | cons c left ih =>
      rw [findNumber?] at h
      split at h
      · rename_i found hhere
        obtain rfl := Option.some.inj h
        obtain ⟨gap, after, hlabels, hwhole⟩ := (here_eq_some_iff start).mp hhere
        exact ⟨[], gap, after, by rwa [List.append_nil], hwhole, fun _ _ _ _ => Nat.zero_le _⟩
      · rename_i hhere
        have hnext : (c == '\n') = true ↔ EndsLine (passed ++ [c]) := by
          rw [endsLine_concat, beq_iff_eq]
        obtain ⟨middle, gap, after, hlabels, hwhole, hfirst⟩ := ih hnext h
        refine ⟨c :: middle, gap, after, by simpa using hlabels, hwhole, ?_⟩
        intro middle' gap' rest' hlabels'
        cases middle' with
        | nil =>
            rw [List.append_nil] at hlabels'
            exact absurd hlabels' (not_labels_of_here_eq_none start hhere gap' rest')
        | cons d middle' =>
            have heq := hlabels'.text_eq
            rw [List.append_assoc] at heq
            obtain ⟨rfl, -⟩ := List.cons.inj (List.append_cancel_left heq)
            exact Nat.succ_le_succ (hfirst middle' gap' rest' (by simpa using hlabels'))

/-- **None is found exactly if no label counts.** -/
theorem findNumber?_eq_none_iff {m : Metric} {text : List Char} :
    m.findNumber? true text = none ↔ ∀ before gap rest, ¬m.Labels text before gap rest := by
  have start : true = true ↔ EndsLine [] := iff_of_true rfl (.inl rfl)
  constructor
  · intro h before gap rest
    exact not_labels_of_findNumber?_eq_none start h before gap rest
  · intro h
    rw [Option.eq_none_iff_forall_ne_some]
    intro number hfound
    obtain ⟨before, gap, after, hlabels, -⟩ := exists_of_findNumber?_eq_some start hfound
    exact h before gap _ hlabels

theorem exists_firstNumber_of_findNumber? {m : Metric} {text number : List Char}
    (h : m.findNumber? true text = some number) :
    ∃ before gap after, m.FirstNumber text before gap number after := by
  have start : true = true ↔ EndsLine [] := iff_of_true rfl (.inl rfl)
  obtain ⟨before, gap, after, hlabels, hwhole, hfirst⟩ := exists_of_findNumber?_eq_some start h
  exact ⟨before, gap, after, hlabels, hwhole, hfirst⟩

/-- Where labels count there is a first one. -/
theorem Labels.exists_firstNumber {m : Metric} {text before gap rest : List Char}
    (h : m.Labels text before gap rest) :
    ∃ before gap number after, m.FirstNumber text before gap number after := by
  cases hfound : m.findNumber? true text with
  | none => exact absurd h (findNumber?_eq_none_iff.mp hfound before gap rest)
  | some number =>
      obtain ⟨before, gap, after, hfirst⟩ := exists_firstNumber_of_findNumber? hfound
      exact ⟨before, gap, number, after, hfirst⟩

/-- There is one first label and one number behind it. -/
theorem FirstNumber.unique {m : Metric} {text before gap number after before' gap' number' after' : List Char}
    (h : m.FirstNumber text before gap number after) (h' : m.FirstNumber text before' gap' number' after') :
    before = before' ∧ gap = gap' ∧ number = number' := by
  have hlength : before.length = before'.length :=
    Nat.le_antisymm (h.first _ _ _ h'.labels) (h'.first _ _ _ h.labels)
  have heq := h.labels.text_eq.symm.trans h'.labels.text_eq
  obtain ⟨rfl, hbehind⟩ := List.append_inj heq hlength
  have hblanks := List.append_cancel_left hbehind
  have hgap : gap = gap' := by
    rw [← takeWhile_run h.labels.gap_blank.2 h.labels.rest_digit.startsDark, hblanks,
      takeWhile_run h'.labels.gap_blank.2 h'.labels.rest_digit.startsDark]
  subst hgap
  refine ⟨rfl, rfl, ?_⟩
  rw [← (isWholeNumber_iff.mp h.whole).2, List.append_cancel_left hblanks, (isWholeNumber_iff.mp h'.whole).2]

/-- **What is found is the number behind the first label that counts.** -/
theorem findNumber?_eq_some_iff {m : Metric} {text number : List Char} :
    m.findNumber? true text = some number ↔ ∃ before gap after, m.FirstNumber text before gap number after := by
  constructor
  · exact exists_firstNumber_of_findNumber?
  · rintro ⟨before, gap, after, hfirst⟩
    cases hfound : m.findNumber? true text with
    | none => exact absurd hfirst.labels (findNumber?_eq_none_iff.mp hfound before gap _)
    | some number' =>
        obtain ⟨before', gap', after', hfirst'⟩ := exists_firstNumber_of_findNumber? hfound
        rw [(hfirst.unique hfirst').2.2]

/-! ## Measures -/

/-- What a measure is for the number behind its label.  A count of more than 4300 digits is not read. -/
inductive Converts (m : Metric) (number : List Char) : Measure → Prop where
  | count (count : m.isRatio = false) (short : number.length ≤ 4300) :
      m.Converts number (.count (digitsValue number))
  | overlong (count : m.isRatio = false) (long : 4300 < number.length) : m.Converts number .unavailable
  | ratio {x : Number.Binary64} (ratio : m.isRatio = true)
      (read : Number.readDecimal? (String.ofList number) = some x) : m.Converts number (.ratio x)

/-- A measure is what becomes of the number behind its first label. -/
theorem FirstNumber.converts {m : Metric} {text before gap number after : List Char}
    (h : m.FirstNumber text before gap number after) : m.Converts number (m.extract text) := by
  rw [m.extract_eq, findNumber?_eq_some_iff.mpr ⟨before, gap, after, h⟩, Option.bind_some]
  cases hratio : m.isRatio with
  | false =>
      have hdigits : IsDigits number := by
        have hnumber := h.whole.1
        rwa [hratio] at hnumber
      rw [getD_reading?_count hratio hdigits]
      by_cases hlong : Number.maxIntegerDigits < number.length
      · rw [if_pos hlong]
        exact .overlong hratio hlong
      · rw [if_neg hlong]
        exact .count hratio (Nat.not_lt.mp hlong)
  | true =>
      obtain ⟨x, hx⟩ := exists_readDecimal?_decimal h.whole.1.isDecimal
      rw [reading?, hratio, hx]
      exact .ratio hratio hx

/-- Without a label that counts a measure is missing. -/
theorem extract_of_not_labels {m : Metric} {text : List Char}
    (h : ∀ before gap rest, ¬m.Labels text before gap rest) :
    m.extract text = .unavailable := by
  rw [m.extract_eq, findNumber?_eq_none_iff.mpr h]
  rfl

/-- A measure that is not missing was read for a label. -/
theorem exists_firstNumber_of_extract_ne {m : Metric} {text : List Char} (h : m.extract text ≠ .unavailable) :
    ∃ before gap number after, m.FirstNumber text before gap number after := by
  by_contra hnone
  refine h (extract_of_not_labels ?_)
  intro before gap rest hlabels
  exact hnone hlabels.exists_firstNumber

end Metric

end SnippetCost
