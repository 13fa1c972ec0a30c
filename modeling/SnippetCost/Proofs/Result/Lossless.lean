import SnippetCost.Proofs.Json.Ascii
import SnippetCost.Proofs.Json.Reading
import SnippetCost.Proofs.Report.Numeral
import SnippetCost.Result.Basic

/-!
# What the JSON text of a result keeps

Two results have one JSON text, laid out with the same indentation, exactly if they agree
(`AnalysisResult.jsonText_eq_iff`): in both names of the target, in the two texts, in the records and all their
columns, and in the measures.  A measure that is missing is written as a text and a number never is, so these are
not taken for one another; counts are kept as they are, and ratios as far as they are written differently.

Nothing is asked of the results: their texts can have any characters, and their ratios need not be finite.
-/

namespace SnippetCost

open SnippetCost.Number

/-- Measures that are both missing, the same count, or ratios that are written in the same way. -/
inductive Measure.Alike : Measure → Measure → Prop where
  | unavailable : Alike .unavailable .unavailable
  | count (n : Int) : Alike (.count n) (.count n)
  | ratio {x y : Binary64} (written : Json.decimalChars x = Json.decimalChars y) : Alike (.ratio x) (.ratio y)

/-- Results that agree in all that is written of them. -/
structure AnalysisResult.Agree (a b : AnalysisResult) : Prop where
  targetId : a.targetId = b.targetId
  targetLabel : a.targetLabel = b.targetLabel
  assembly : a.assembly = b.assembly
  report : a.report = b.report
  instructions : a.instructions = b.instructions
  measures : ∀ m : Metric, (a.summary.measure m).Alike (b.summary.measure m)

/-! ## Parts of a result -/

/-- The JSON form of a measure says which kind it is. -/
theorem Measure.alike_json_iff (m m' : Measure) : Json.Alike m.json m'.json ↔ m.Alike m' := by
  constructor
  · intro h
    cases m with
    | unavailable =>
        cases m' with
        | unavailable => exact .unavailable
        | count | ratio => cases h
    | count n =>
        cases m' with
        | count n' =>
            obtain rfl : n = n' := h
            exact .count n
        | unavailable | ratio => cases h
    | ratio x =>
        cases m' with
        | ratio y => exact .ratio h
        | unavailable | count => cases h
  · rintro (_ | _ | hwritten)
    · exact rfl
    · exact rfl
    · exact hwritten

/-- Two summaries are written alike exactly if all their measures are. -/
theorem Summary.alike_json_iff (s t : Summary) :
    Json.Alike s.json t.json ↔ ∀ m, (s.measure m).Alike (t.measure m) := by
  simp only [Summary.json, Json.Alike, Json.AlikeFields, Measure.alike_json_iff, true_and, and_true]
  constructor
  · rintro ⟨_, _, _, _, _, _, _, _⟩ m
    cases m <;> assumption
  · intro h
    exact ⟨h .totalCycles, h .blockThroughput, h .iterations, h .instructionCount, h .totalUops,
      h .dispatchWidth, h .uopsPerCycle, h .ipc⟩

/-- A record is written with all it has. -/
theorem InstructionRecord.alike_json_iff (r s : InstructionRecord) : Json.Alike r.json s.json ↔ r = s := by
  simp only [InstructionRecord.json, Json.Alike, Json.AlikeFields, true_and, and_true]
  constructor
  · rintro ⟨horder, huops, hlatency, hthroughput, hinstruction⟩
    cases r
    cases s
    simp_all
  · rintro rfl
    exact ⟨rfl, rfl, rfl, rfl, rfl⟩

/-- Records are written alike only if they are the same. -/
theorem alikeItems_records_iff (rs ss : List InstructionRecord) :
    Json.AlikeItems (rs.map InstructionRecord.json) (ss.map InstructionRecord.json) ↔ rs = ss := by
  induction rs generalizing ss with
  | nil =>
      cases ss with
      | nil => exact iff_of_true trivial rfl
      | cons s ss => exact iff_of_false id nofun
  | cons r rs ih =>
      cases ss with
      | nil => exact iff_of_false id nofun
      | cons s ss =>
          rw [List.map_cons, List.map_cons, Json.AlikeItems, InstructionRecord.alike_json_iff, ih,
            List.cons.injEq]

/-! ## Results -/

/-- Two results are written alike exactly if they agree. -/
theorem AnalysisResult.alike_json_iff (a b : AnalysisResult) : Json.Alike a.json b.json ↔ a.Agree b := by
  simp only [AnalysisResult.json, Json.Alike, Json.AlikeFields, Measure.alike_json_iff, Summary.alike_json_iff,
    alikeItems_records_iff, true_and, and_true]
  constructor
  · rintro ⟨targetId, targetLabel, -, -, measures, instructions, assembly, report⟩
    exact ⟨targetId, targetLabel, assembly, report, instructions, measures⟩
  · intro h
    exact ⟨h.targetId, h.targetLabel, h.measures .totalCycles, h.measures .blockThroughput, h.measures,
      h.instructions, h.assembly, h.report⟩

/-- **The JSON text of a result** is that of the results that agree with it and of no others, and it is ASCII. -/
theorem AnalysisResult.jsonText_eq_iff (a b : AnalysisResult) (indent : Option Nat) :
    (a.jsonText indent = b.jsonText indent ↔ a.Agree b) ∧ Json.IsAscii (a.jsonText indent).toList := by
  refine ⟨?_, Json.isAscii_render indent a.json⟩
  rw [jsonText, jsonText, Json.render_eq_iff, alike_json_iff]

end SnippetCost
