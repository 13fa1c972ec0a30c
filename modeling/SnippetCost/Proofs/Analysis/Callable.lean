import SnippetCost.Proofs.Analysis.Course
import SnippetCost.Proofs.Number.Magnitude

/-!
# Analyses that do not break off

An analysis breaks off over a call that is none (`Analyzer.BreaksOff`).  Whether it comes to such a call is seen in what it
is given: the name for its workspace, the words of its command lines and its time limit.

* **`Seconds.fault?_of_waitable`**, **`Seconds.exists_fault?_of_overlong`**: up to 2147483 seconds can be waited for, and
  from 2147484 seconds on they cannot.  Between the two it is a matter of milliseconds, which is left open here.
* **`Analyzer.Callable.ends`**: with such a limit and without NUL characters, every analysis of an accepted source has a
  result or a failed stage, whatever the world does.
* **`Analyzer.exists_breaksOff_of_overlong`**: with a longer one it breaks off as soon as its workspace is prepared.

A limit below zero is one that can be waited for: the tool is at work and is stopped at once.
-/

namespace SnippetCost

open Number Number.Binary64

/-! ## Time limits in milliseconds -/

/-- The units of a second in milliseconds. -/
theorem ofInt_thousand : ofInt 1000 = .finite false (1000 * unitsPerOne) :=
  ofInt_natCast (n := 1000) (by decide)

/-- The units of the longest wait. -/
theorem longestWait_eq : longestWait = .finite false (2147483647 * unitsPerOne) :=
  ofInt_natCast (n := 2147483647) (by decide)

/-- The units of all that the clock counts. -/
theorem clockRange_eq : clockRange = .finite false (9223372036854 * unitsPerOne) :=
  ofInt_natCast (n := 9223372036854) (by decide)

/-- The clock counts further than anybody can wait. -/
theorem longestWait_lt_of_clockRange_lt {x : Binary64} (h : clockRange.lt x = true) : longestWait.lt x = true := by
  rw [clockRange_eq] at h
  rw [longestWait_eq]
  cases x with
  | nan => cases h
  | infinite negative => rwa [lt_infinite] at h ⊢
  | finite negative units =>
      cases negative with
      | true =>
          rw [lt_negative] at h
          cases h
      | false =>
          rw [lt_finite, decide_eq_true_iff] at h ⊢
          exact (Nat.mul_le_mul_right _ (by decide)).trans_lt h

/-- The milliseconds of a limit below zero, which are below zero. -/
theorem mul_thousand_negative (units : Nat) :
    (Binary64.finite true units).mul (.ofInt 1000) ≠ .nan ∧
      longestWait.lt ((Binary64.finite true units).mul (.ofInt 1000)) = false := by
  rw [ofInt_thousand, longestWait_eq, mul, Bool.bne_false, ofQuotient, ofUnits]
  split
  · exact ⟨finite_ne_nan _ _, lt_negative _ _⟩
  · exact ⟨infinite_ne_nan _, lt_infinite _ _ _⟩

/-- The milliseconds of a limit without end, which have none either. -/
theorem mul_thousand_infinite (negative : Bool) :
    (Binary64.infinite negative).mul (.ofInt 1000) = .infinite negative := by
  rw [ofInt_thousand, mul, if_neg (Nat.mul_pos (by decide) unitsPerOne_pos).ne', Bool.bne_false]

/-- Up to 2147483 seconds the milliseconds are a number that is not too large. -/
theorem milliseconds_of_le {x : Binary64} (defined : x ≠ .nan) (short : (ofInt 2147483).lt x = false) :
    x.mul (.ofInt 1000) ≠ .nan ∧ longestWait.lt (x.mul (.ofInt 1000)) = false := by
  have limit : ofInt 2147483 = .finite false (2147483 * unitsPerOne) := ofInt_natCast (n := 2147483) (by decide)
  rw [limit] at short
  cases x with
  | nan => exact absurd rfl defined
  | infinite negative =>
      cases negative with
      | true =>
          rw [mul_thousand_infinite, longestWait_eq, lt_infinite]
          exact ⟨infinite_ne_nan _, rfl⟩
      | false =>
          rw [lt_infinite] at short
          cases short
  | finite negative units =>
      cases negative with
      | true => exact mul_thousand_negative units
      | false =>
          rw [lt_finite, decide_eq_false_iff_not, Nat.not_lt] at short
          have bound : units * (1000 * unitsPerOne) ≤ 2147483000 * unitsPerOne * unitsPerOne := by
            calc units * (1000 * unitsPerOne) ≤ 2147483 * unitsPerOne * (1000 * unitsPerOne) :=
                  Nat.mul_le_mul_right _ short
              _ = 2147483000 * unitsPerOne * unitsPerOne := by ring
          have inRange := roundUnits_lt_unitsLimit (by decide) unitsPerOne_pos bound
          rw [ofInt_thousand, longestWait_eq, mul, Bool.bne_false, ofQuotient_eq _ inRange, lt_finite,
            decide_eq_false_iff_not, Nat.not_lt]
          refine ⟨finite_ne_nan _ _, ?_⟩
          calc roundUnits (units * (1000 * unitsPerOne)) unitsPerOne ≤ 2147483000 * unitsPerOne :=
                roundUnits_le (by decide) unitsPerOne_pos bound
            _ ≤ 2147483647 * unitsPerOne := Nat.mul_le_mul_right _ (by decide)

/-- From 2147484 seconds on they are too many, or no number. -/
theorem milliseconds_of_ge {x : Binary64} (long : x.lt (ofInt 2147484) = false) :
    x.mul (.ofInt 1000) = .nan ∨ longestWait.lt (x.mul (.ofInt 1000)) = true := by
  have limit : ofInt 2147484 = .finite false (2147484 * unitsPerOne) := ofInt_natCast (n := 2147484) (by decide)
  have endless : longestWait.lt (.infinite false) = true := by
    rw [longestWait_eq, lt_infinite]
    rfl
  rw [limit] at long
  cases x with
  | nan => exact .inl rfl
  | infinite negative =>
      cases negative with
      | true =>
          rw [infinite_lt] at long
          cases long
      | false =>
          rw [mul_thousand_infinite]
          exact .inr endless
  | finite negative units =>
      cases negative with
      | true =>
          rw [negative_lt, decide_eq_false_iff_not] at long
          exact absurd (Nat.add_pos_right _ (Nat.mul_pos (by decide) unitsPerOne_pos)) long
      | false =>
          rw [lt_finite, decide_eq_false_iff_not, Nat.not_lt] at long
          have hexact : 2147484000 * unitsPerOne * unitsPerOne = 2147484 * unitsPerOne * (1000 * unitsPerOne) := by ring
          have rounded : 2147484000 * unitsPerOne ≤ roundUnits (units * (1000 * unitsPerOne)) unitsPerOne := by
            calc 2147484000 * unitsPerOne
                = roundUnits (2147484000 * unitsPerOne * unitsPerOne) unitsPerOne :=
                  (roundUnits_mul unitsPerOne_pos (gridStep_dvd_ones (by decide))).symm
              _ = roundUnits (2147484 * unitsPerOne * (1000 * unitsPerOne)) unitsPerOne := by rw [hexact]
              _ ≤ roundUnits (units * (1000 * unitsPerOne)) unitsPerOne :=
                  roundUnits_mono unitsPerOne_pos (Nat.mul_le_mul_right _ long)
          rw [ofInt_thousand, mul, Bool.bne_false, ofQuotient, ofUnits]
          right
          split
          · rw [longestWait_eq, lt_finite, decide_eq_true_iff]
            calc 2147483647 * unitsPerOne < 2147484000 * unitsPerOne :=
                  Nat.mul_lt_mul_of_pos_right (by decide) unitsPerOne_pos
              _ ≤ roundUnits (units * (1000 * unitsPerOne)) unitsPerOne := rounded
          · exact endless

namespace Seconds

variable {limit : Seconds}

/-- A limit is refused exactly if its milliseconds are no number, or more than can be waited for. -/
theorem fault?_eq_none_iff : limit.fault? = none ↔
    limit.number.mul (.ofInt 1000) ≠ .nan ∧ longestWait.lt (limit.number.mul (.ofInt 1000)) = false := by
  unfold fault?
  split
  · rename_i undefined
    exact iff_of_false nofun fun h => h.1 undefined
  · rename_i endless
    refine iff_of_false nofun fun h => ?_
    rw [endless, longestWait_eq] at h
    cases h.2
  · rename_i defined _
    split
    · rename_i beyond
      refine iff_of_false nofun fun h => ?_
      rw [longestWait_lt_of_clockRange_lt beyond] at h
      cases h.2
    · split
      · rename_i long
        exact iff_of_false nofun fun h => Bool.false_ne_true (h.2.symm.trans long)
      · rename_i short
        exact iff_of_true rfl ⟨defined, Bool.not_eq_true _ ▸ short⟩

/-- A limit is a number, and not above 2147483 seconds. -/
def Waitable (limit : Seconds) : Prop :=
  limit.number ≠ .nan ∧ (ofInt 2147483).lt limit.number = false

instance (limit : Seconds) : Decidable limit.Waitable :=
  inferInstanceAs (Decidable (_ ∧ _))

/-- **Such a limit can be waited for.** -/
theorem fault?_of_waitable (h : limit.Waitable) : limit.fault? = none :=
  fault?_eq_none_iff.mpr (milliseconds_of_le h.1 h.2)

/-- **A limit that is no number, or not below 2147484 seconds, is refused.** -/
theorem exists_fault?_of_overlong (h : limit.number.lt (ofInt 2147484) = false) :
    ∃ fault, limit.fault? = some fault := by
  rw [← Option.ne_none_iff_exists', Ne, fault?_eq_none_iff]
  rintro ⟨defined, short⟩
  rcases milliseconds_of_ge h with undefined | long
  · exact defined undefined
  · exact Bool.false_ne_true (short.symm.trans long)

end Seconds

/-! ## Calls -/

/-- **A call is one** if no word of its command line has a NUL character and its limit is not refused. -/
theorem CallFault.of?_eq_none_iff {argv : List String} {limit : Seconds} :
    CallFault.of? argv limit = none ↔ (∀ word ∈ argv, '\x00' ∉ word.toList) ∧ limit.fault? = none := by
  have nul_iff : argv.any (·.toList.contains '\x00') = true ↔ ∃ word ∈ argv, '\x00' ∈ word.toList := by
    simp [List.any_eq_true]
  unfold of?
  split
  · rename_i nul
    obtain ⟨word, hword, hnul⟩ := nul_iff.mp nul
    exact iff_of_false nofun fun h => h.1 word hword hnul
  · rename_i clean
    rw [nul_iff] at clean
    push Not at clean
    exact (and_iff_right clean).symm

/-- The world refuses calls over what is wrong with them, and over nothing else. -/
structure World.Candid (w : World) : Prop where
  callFault_eq : w.callFault = CallFault.of?
  run_ne : ∀ argv ws fault, (w.run argv ws).1 ≠ .refused fault

/-- In such a world calls that are one are made. -/
theorem World.Candid.refuses_iff {w : World} (h : w.Candid) {argv : List String} {limit : Seconds} {ws : Workspace}
    {fault : CallFault} : w.Refuses argv limit ws fault ↔ CallFault.of? argv limit = some fault := by
  unfold Refuses
  rw [h.callFault_eq]
  exact or_iff_left fun refused => h.run_ne argv ws fault refused.2

/-- A world in which every tool does what it is called for is one. -/
theorem World.candid_obliging : World.obliging.Candid where
  callFault_eq := rfl
  run_ne _ _ _ := nofun

/-! ## Runs -/

namespace Analyzer

/-- All that an analyzer hands over for a target can be handed over. -/
structure Callable (a : Analyzer) (t : Target) : Prop where
  stem_clean : '\x00' ∉ a.config.workspaceStem.toList
  words_clean : ∀ word ∈ a.compileCommand t ++ a.simulateCommand t, '\x00' ∉ word.toList
  waitable : a.limit.Waitable

instance (a : Analyzer) (t : Target) : Decidable (a.Callable t) :=
  decidable_of_iff ('\x00' ∉ a.config.workspaceStem.toList ∧
    (∀ word ∈ a.compileCommand t ++ a.simulateCommand t, '\x00' ∉ word.toList) ∧ a.limit.Waitable)
    ⟨fun ⟨stem, words, waitable⟩ => ⟨stem, words, waitable⟩, fun ⟨stem, words, waitable⟩ => ⟨stem, words, waitable⟩⟩

variable {a : Analyzer} {w : World} {t : Target} {code : String}

/-- **Such an analysis does not break off.** -/
theorem Callable.not_breaksOff (h : a.Callable t) (candid : w.Candid) {fault : CallFault} :
    ¬a.BreaksOff w t code fault := by
  have called : ∀ argv, (∀ word ∈ argv, word ∈ a.compileCommand t ++ a.simulateCommand t) →
      ∀ ws, ¬w.Refuses argv a.limit ws fault := by
    intro argv sub ws refuses
    have none_eq := CallFault.of?_eq_none_iff.mpr
      ⟨fun word hword => h.words_clean word (sub word hword), Seconds.fault?_of_waitable h.waitable⟩
    rw [candid.refuses_iff, none_eq] at refuses
    cases refuses
  rintro (⟨-, nul⟩ | ⟨-, refuses⟩ | ⟨-, refuses⟩)
  · exact h.stem_clean nul
  · exact called _ (fun word hword => List.mem_append_left _ hword) _ refuses
  · exact called _ (fun word hword => List.mem_append_right _ hword) _ refuses

/-- **It has a result or a failed stage**, whatever the world does. -/
theorem Callable.ends {request : Request} (h : a.Callable request.target) (candid : w.Candid)
    (accepted : acceptSource request.source = .ok code) :
    (∃ result, (a.run w request).value.outcome = .ok result) ∨
      ∃ fault, (a.run w request).value.outcome = .error (.failed fault) := by
  have contract := (course_run (a := a) (w := w) accepted).contract
  rcases contract.ends with result | failed | ⟨fault, broken⟩
  · exact .inl result
  · exact .inr failed
  · exact absurd ((contract.broken_iff fault).mp broken) (h.not_breaksOff candid)

/-- With a limit that nobody can wait for, every analysis breaks off that gets as far as its compiler. -/
theorem exists_breaksOff_of_overlong (candid : w.Candid) {ws : Workspace} (prepared : a.Prepared w t code ws)
    (overlong : a.config.timeLimit.lt (ofInt 2147484) = false) : ∃ fault, a.BreaksOff w t code fault := by
  have long : a.limit.number.lt (ofInt 2147484) = false := overlong
  obtain ⟨fault, hfault⟩ := Seconds.exists_fault?_of_overlong long
  have refused : CallFault.of? (a.compileCommand t) a.limit ≠ none := by
    rw [Ne, CallFault.of?_eq_none_iff, hfault]
    exact fun h => nomatch h.2
  obtain ⟨fault', hfault'⟩ := Option.ne_none_iff_exists'.mp refused
  exact ⟨fault', .compiler prepared (candid.refuses_iff.mpr hfault')⟩

/-- The sample analyzer, with the configuration as it comes. -/
example : Analyzer.generic.Callable .generic := by
  decide +kernel

end Analyzer

end SnippetCost
