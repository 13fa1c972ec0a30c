import SnippetCost.Proofs.CommandLine.Gate
import SnippetCost.Proofs.Display.Showing

/-!
# How the command ends

The command has five exit codes, and a run of it that does not end with one of them has broken down.  What it
can break down over is said by `Session.Breaks`: what it has no answer to from the start (`Session.Stranded`), a number of
workers that is none, a call of a tool, or for a workspace, that is refused over a time limit or a NUL character
(`Analyzer.BreaksOff`), a file that cannot be written, and a table for numbers that are too large for it.

Main statements:

- **`AnalyzeSettings.unshowable_iff`**: such a table is all that cannot be shown;
- **`exited_or_breaks`**: no run ends in any other way;
- **`exited_zero_iff`**: where there is a result, the run ends with the code of success exactly if the output can
  be written and its numbers can be shown;
- **`broken_over_folder`**, **`broken_over_timeLimit`**: a folder where the output should go does break a run down, and
  so does a time limit that nobody can wait for.
-/

namespace SnippetCost

open Traced Event

/-! ## What a result has to show -/

/-- The records of a result are records of lines. -/
theorem Analyzer.wellFormed_of_analyze {a : Analyzer} {w : World} {source : SourceText} {id : String}
    {result : AnalysisResult} (h : (a.analyze w source id).value.outcome = .ok result) :
    ∀ r ∈ result.instructions, ∃ line, r.WellFormed line := by
  cases hrequest : a.request source id with
  | error rejection =>
      rw [analyze_of_request_error w hrequest] at h
      cases h
  | ok request =>
      obtain ⟨⟨code, accepted⟩, -⟩ := parts_of_request hrequest
      rw [analyze_eq_run hrequest] at h
      obtain ⟨assembly, report, -, rfl⟩ := ((course_run accepted).contract.result_iff result).mp h
      intro r hr
      obtain ⟨line, -, hline⟩ := exists_wellFormed_of_mem_readReport hr
      exact ⟨line, hline⟩

/-- An analysis that breaks off is one of an accepted source for a known target, and meets a call that is none. -/
theorem Analyzer.breaksOff_of_analyze {a : Analyzer} {w : World} {source : SourceText} {id : String}
    {fault : CallFault} (h : (a.analyze w source id).value.outcome = .broken fault) :
    ∃ t code, a.catalog.get? id = some t ∧ acceptSource source = .ok code ∧ a.BreaksOff w t code fault := by
  cases hrequest : a.request source id with
  | error rejection =>
      rw [analyze_of_request_error w hrequest] at h
      cases h
  | ok request =>
      obtain ⟨⟨code, accepted⟩, known⟩ := parts_of_request hrequest
      rw [analyze_eq_run hrequest] at h
      have hsource := source_of_request hrequest
      exact ⟨request.target, code, known, hsource ▸ accepted, (course_run accepted).breaksOff h⟩

/-- Numbers of a result are too large for what the settings ask for. -/
def AnalyzeSettings.Exceeded (settings : AnalyzeSettings) (result : AnalysisResult) : Prop :=
  (∃ r ∈ result.instructions, r.Overflows) ∨
    settings.sortColumn = some .order ∧ ∃ r ∈ result.instructions, r.Unplaced

section Showing

variable (settings : AnalyzeSettings) {result : AnalysisResult}
  (wellFormed : ∀ r ∈ result.instructions, ∃ line, r.WellFormed line)

include wellFormed

/-- The records to be shown are there, unless they are to be sorted by numbers that are too large. -/
theorem AnalyzeSettings.records_or_unplaced :
    (∃ records, settings.records result = .ok records ∧ records.Perm result.instructions) ∧
        ¬(settings.sortColumn = some .order ∧ ∃ r ∈ result.instructions, r.Unplaced) ∨
      (∃ fault, settings.records result = .error fault) ∧
        settings.sortColumn = some .order ∧ ∃ r ∈ result.instructions, r.Unplaced := by
  by_cases unplaced : settings.sortColumn = some .order ∧ ∃ r ∈ result.instructions, r.Unplaced
  · refine .inr ⟨?_, unplaced⟩
    unfold AnalyzeSettings.records
    rw [unplaced.1]
    exact exists_sortRecords_order_error unplaced.2 settings.descending
  · refine .inl ⟨?_, unplaced⟩
    unfold AnalyzeSettings.records
    cases hcolumn : settings.sortColumn with
    | none => exact ⟨_, rfl, inIssueOrder_perm _⟩
    | some column =>
        refine exists_sortRecords_of_wellFormed wellFormed (fun horder r hr hplace => ?_) settings.descending
        exact unplaced ⟨horder ▸ hcolumn, r, hr, hplace⟩

/-- **What cannot be shown**: a result with numbers that are too large, and nothing else. -/
theorem AnalyzeSettings.unshowable_iff :
    (∃ fault, settings.records result >>= instructionsTable = .error fault) ↔
      settings.Exceeded result := by
  rcases settings.records_or_unplaced wellFormed with
    ⟨⟨records, heq, hperm⟩, placed⟩ | ⟨⟨fault, heq⟩, unplaced⟩
  · have htable := table_of_wellFormed fun r hr => wellFormed r (hperm.mem_iff.mp hr)
    rw [heq, Exceeded, or_iff_left placed]
    change (∃ fault, instructionsTable records = .error fault) ↔ _
    constructor
    · rintro ⟨fault, hfault⟩
      by_contra bounded
      obtain ⟨table, hok⟩ := htable.1 fun r hr hover => bounded ⟨r, hperm.mem_iff.mp hr, hover⟩
      rw [hok] at hfault
      cases hfault
    · rintro ⟨r, hr, hover⟩
      exact ⟨noBar, htable.2 ⟨r, hperm.mem_iff.mpr hr, hover⟩⟩
  · rw [heq]
    exact ⟨fun _ => .inr unplaced, fun _ => ⟨fault, rfl⟩⟩

end Showing

namespace Session

/-! ## Endings -/

/-- What a run of the command breaks down over. -/
inductive Breaks (s : Session) (input : String) (settings : AnalyzeSettings) : Breakdown → Prop where
  | stranded {breakdown : Breakdown} (stranded : s.Stranded input settings breakdown) :
      Breaks s input settings breakdown
  | workersLeftOut (left : settings.workers = none) : Breaks s input settings .workersLeftOut
  | unwritten {fault : PathFault} (unwritable : s.Unwritable settings fault) :
      Breaks s input settings (.file fault)
  /-- The analysis for one of the ids, in the world that it meets, comes to a call that is none. -/
  | brokenOff {source : SourceText} {config : Config} {ids : List String} {i : Nat} {id : String} {t : Target}
      {code : String} {fault : CallFault} (passed : s.Passed input settings source config ids)
      (asked : ids[i]? = some id) (known : Catalog.curated.get? id = some t)
      (accepted : acceptSource source = .ok code)
      (breach : (⟨.curated, config, s.host⟩ : Analyzer).BreaksOff (s.worlds i) t code fault) :
      Breaks s input settings (.call fault)
  /-- The result is that of the only target, and it is to be shown as tables. -/
  | unshowable {source : SourceText} {config : Config} {id : String} {result : AnalysisResult}
      {fault : ValueFault} (passed : s.Passed input settings source config [id])
      (outcome : ((⟨.curated, config, s.host⟩ : Analyzer).analyze (s.worlds 0) source id).value.outcome = .ok result)
      (tables : settings.asJson = false) (exceeded : settings.Exceeded result) :
      Breaks s input settings (.unshowable fault)

/-- **How the command ends**: with one of its five codes, or broken down over something that is told. -/
theorem exited_or_breaks (s : Session) (input : String) (settings : AnalyzeSettings) :
    (∃ code ∈ [0, 2, 3, 4, 5], (s.analyze input settings).value.ending = .exited code) ∨
      ∃ breakdown, (s.analyze input settings).value.ending = .broken breakdown ∧
        s.Breaks input settings breakdown := by
  cases s.passage_analyze input settings with
  | stopped refused stopped =>
      refine .inl ⟨rejectedCode, by decide, ?_⟩
      rw [stopped.value_eq]
  | @stranded breakdown stranded =>
      refine .inr ⟨breakdown, ?_, .stranded stranded⟩
      rw [(stopped_of_stranded stranded).value_eq]
  | @passed source config ids passed =>
      have accepted : ¬∃ r, Rejected (⟨.curated, config, s.host⟩ : Analyzer).catalog source ids r :=
        passed.accepted
      have delivered : s.Delivered settings _ _ :=
        delivered_analyzeWith (AnalyzeSettings.ids_ne_nil passed.ids_eq) accepted
      rw [← passed.value_analyze] at delivered
      generalize (s.analyze input settings).value.ending = ending at delivered
      have codes_subset : [0, 3, 4, 5] ⊆ [0, 2, 3, 4, 5] := by decide
      cases delivered with
      | @exited code code_mem => exact .inl ⟨code, codes_subset code_mem, rfl⟩
      | unwritten unwritable => exact .inr ⟨_, rfl, .unwritten unwritable⟩
      | workersLeftOut left => exact .inr ⟨_, rfl, .workersLeftOut left⟩
      | brokenOff first =>
          obtain ⟨i, id, asked, outcome⟩ := Analyzer.exists_analyze_of_brokenFirst first
          obtain ⟨t, code, known, accepted, breach⟩ := Analyzer.breaksOff_of_analyze outcome
          exact .inr ⟨_, rfl, .brokenOff passed asked known accepted breach⟩
      | @unshowable id result fault only tables failure =>
          obtain ⟨rfl, outcome⟩ := Analyzer.singles_eq_singleton only
          have wellFormed := Analyzer.wellFormed_of_analyze outcome
          exact .inr ⟨_, rfl, .unshowable passed outcome tables
            ((settings.unshowable_iff wellFormed).mp ⟨fault, failure⟩)⟩

/-! ## A result that is delivered -/

section Result

variable {s : Session} {input : String} {settings : AnalyzeSettings} {result : AnalysisResult}

/-- A document is saved if there is no file to save it to, or if it can be written. -/
theorem save_eq_ok_iff {document : String} : (s.save settings.output document).value.2 = .ok () ↔
    ∀ name, given? settings.output = some name →
      (s.files.writeWithFolders (.ofString name) (Text.encode document.toList)).2 = .ok () := by
  rw [value_save]
  cases given? settings.output with
  | none => exact ⟨fun _ _ => nofun, fun _ => rfl⟩
  | some name => simp only [Option.some.injEq, forall_eq']

/-- A result is delivered if it is saved and, where it is to be, shown as tables. -/
theorem deliver_exited_iff {left : Nat} : (s.deliver settings result left).value.ending = .exited 0 ↔
    (s.save settings.output (result.jsonText jsonIndent)).value.2 = .ok () ∧
      (settings.asJson = false → ¬∃ fault, settings.records result >>= instructionsTable = .error fault) := by
  rw [ending_deliver]
  cases (s.save settings.output (result.jsonText jsonIndent)).value.2 with
  | error fault => exact ⟨nofun, fun h => nomatch h.1⟩
  | ok _ =>
      dsimp only
      cases settings.asJson with
      | true => exact ⟨fun _ => ⟨rfl, nofun⟩, fun _ => rfl⟩
      | false =>
          rw [if_neg Bool.false_ne_true]
          cases settings.records result >>= instructionsTable with
          | error fault => exact ⟨nofun, fun h => absurd ⟨fault, rfl⟩ (h.2 rfl)⟩
          | ok table => exact ⟨fun _ => ⟨rfl, fun _ => nofun⟩, fun _ => rfl⟩

/-- **When a result is delivered**: if the file for it can be written and, unless it is asked for as JSON, its
numbers can be shown.  Otherwise the run breaks down although the analysis went well. -/
theorem exited_zero_iff {source : SourceText} {config : Config} {id : String}
    (passed : s.Passed input settings source config [id])
    (outcome : ((⟨.curated, config, s.host⟩ : Analyzer).analyze (s.worlds 0) source id).value.outcome = .ok result) :
    (s.analyze input settings).value.ending = .exited 0 ↔
      (∀ name, given? settings.output = some name →
        (s.files.writeWithFolders (.ofString name)
          (Text.encode (result.jsonText jsonIndent).toList)).2 = .ok ()) ∧
      (settings.asJson = false → ¬settings.Exceeded result) := by
  have hdeliver : ∃ left,
      (s.analyze input settings).value.ending = (s.deliver settings result left).value.ending := by
    rw [passed.value_analyze, analyzeWith, analyzeOne, value_bind, value_bind]
    dsimp only
    rw [outcome]
    exact ⟨_, rfl⟩
  obtain ⟨left, hdeliver⟩ := hdeliver
  rw [hdeliver, deliver_exited_iff, save_eq_ok_iff,
    settings.unshowable_iff (Analyzer.wellFormed_of_analyze outcome)]

end Result

/-- The output is to go where a folder is, or into a folder that is a file. -/
theorem broken_over_folder :
    (onX86.analyze "k.c" { output := some "." }).value.ending =
        .broken (.file (.refused (.isDirectory "."))) ∧
      (onX86.analyze "k.c" { output := some "k.c/x/y.json" }).value.ending =
        .broken (.file (.refused (.notDirectory "k.c/x"))) := by
  constructor
  · decide +kernel
  · decide +kernel

/-- A time limit from the environment is no number, has no end, or is a month. -/
theorem broken_over_timeLimit :
    (["nan", "inf", "3000000"].map fun limit =>
      ({ onX86 with
          surroundings := { onX86.surroundings with
            environment := fun name => if name = "SIMDMCA_TIMEOUT" then some limit else none } }.analyze
        "k.c" {}).value.ending) =
      [.broken (.call .undefinedLimit), .broken (.call .endlessLimit), .broken (.call .limitTooLong)] := by
  decide +kernel

end Session

end SnippetCost
