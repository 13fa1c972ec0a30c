import SnippetCost.Proofs.CommandLine.Outcome

/-!
# What stands on the console for results

A run that was asked for JSON and ends well sends its document to the console for results, and all it tells of its
progress to the other one.  There is one exception: the note that the document was saved to a file goes to the
console for results as well, in front of the document.  So with JSON on the console and a file there is more than
one document's text on that console (`not_only_document_of_exited`).

* **`results_of_exited`**: the console holds the document of the outcomes, and in front of it that note exactly if
  a file was asked for; for one target and for several, and on a minimal display as on any other.
-/

namespace SnippetCost

open Traced Event

/-! ## The console for results -/

/-- What a trace sends to the console for results. -/
def Event.results (events : List Event) : List Output :=
  events.filterMap fun
    | .shown .out output => some output
    | _ => none

@[simp] theorem Event.results_append (xs ys : List Event) : results (xs ++ ys) = results xs ++ results ys :=
  List.filterMap_append

/-- Nothing offstage is on it. -/
theorem Event.results_of_isOffstage {events : List Event} (h : ∀ e ∈ events, e.IsOffstage) :
    results events = [] := by
  rw [results, List.filterMap_eq_nil_iff]
  intro e he
  cases e with
  | shown stream output =>
      cases stream with
      | out => exact (h _ he).elim
      | err => rfl
  | _ => rfl

/-- A computation leaves on it what the computation it comes to leaves. -/
theorem Traced.LeadsTo.results_eq {α : Type} {x y : Traced α} (h : x.LeadsTo y) :
    results x.events = results y.events := by
  obtain ⟨front, hfront, hevents⟩ := h.events_eq
  rw [hevents, results_append, results_of_isOffstage hfront, List.nil_append]

namespace Session

/-! ## Delivery -/

/-- The note that a document was saved. -/
def savedNote (s : Session) (name : String) : Output :=
  let message := "Results written to: " ++ name
  if s.minimal then Console.plain ("[OK] " ++ message)
  else Console.marked ("[green]Success:[/green] " ++ Text.escapeMarkup message)

/-- A JSON document on the console, behind the note that it was saved if it was to be. -/
def shownWith (s : Session) (settings : AnalyzeSettings) (document : String) : List Output :=
  ((given? settings.output).map s.savedNote).toList ++ [.json document]

variable {s : Session} {a : Analyzer} {source : SourceText} {settings : AnalyzeSettings} {code : Nat}

theorem events_success (name : String) :
    (Console.success s.minimal ("Results written to: " ++ name)).events = [.shown .out (s.savedNote name)] := by
  unfold Console.success Console.tagged savedNote
  cases s.minimal with
  | true => rfl
  | false => simp [display]

/-- A document that is saved is noted. -/
theorem results_save {output : Option String} {document : String}
    (h : (s.save output document).value.2 = .ok ()) :
    results (s.save output document).events = ((given? output).map s.savedNote).toList := by
  rw [value_save] at h
  unfold save
  cases hname : given? output with
  | none => rfl
  | some name =>
      rw [hname] at h
      dsimp only at h ⊢
      generalize s.files.writeWithFolders (.ofString name) (Text.encode document.toList) = answer at h ⊢
      obtain ⟨files, answer⟩ := answer
      cases answer with
      | error fault => cases h
      | ok written =>
          dsimp only
          rw [events_bind, events_bind, events_success]
          rfl

/-- **One result** as its JSON text. -/
theorem results_deliver {r : AnalysisResult} {left : Nat} (json : settings.asJson = true)
    (exited : (s.deliver settings r left).value.ending = .exited code) :
    results (s.deliver settings r left).events = s.shownWith settings (r.jsonText jsonIndent) := by
  unfold deliver shownWith at *
  rw [value_bind] at exited
  rw [events_bind, results_append]
  rcases hsave : (s.save settings.output (r.jsonText jsonIndent)).value with ⟨files, fault | ⟨⟩⟩
  · rw [hsave] at exited
    cases exited
  · rw [results_save (by rw [hsave])]
    dsimp only
    rw [json]
    rfl

/-- **Several outcomes** as one JSON text. -/
theorem results_deliverAll {label? : String → Option String} {run : MatrixRun} (json : settings.asJson = true)
    (exited : (s.deliverAll settings label? run).value.ending = .exited code) :
    results (s.deliverAll settings label? run).events = s.shownWith settings (outcomesText run.outcomes) := by
  unfold deliverAll shownWith at *
  dsimp only at exited ⊢
  rw [json, Bool.true_or, if_pos rfl] at exited ⊢
  rw [value_bind] at exited
  rw [events_bind, results_append]
  rcases hsave : (s.save settings.output (outcomesText run.outcomes)).value with ⟨files, fault | ⟨⟩⟩
  · rw [hsave] at exited
    cases exited
  · rw [results_save (by rw [hsave])]
    rfl

/-! ## The command -/

/-- A request that is let through and ends well. -/
theorem results_analyzeWith {ids : List String} {requests : List Request} (json : settings.asJson = true)
    (h : a.requests source ids = .ok requests)
    (exited : (s.analyzeWith a source ids settings).value.ending = .exited successCode) :
    ∃ outcomes document, outcomes.map MatrixOutcome.entry = a.singles s.worlds source ids ∧
      (∀ o ∈ outcomes, ∃ r, o.outcome = .ok r) ∧ document? outcomes = some document ∧
      results (s.analyzeWith a source ids settings).events = s.shownWith settings document := by
  obtain ⟨outcomes, entries, report⟩ := report_analyzeWith h exited
  have succeeded := report.zero_iff.mp rfl
  unfold analyzeWith at exited ⊢
  split at exited
  · rename_i id
    obtain ⟨o, rfl, hentry⟩ := List.map_eq_singleton_iff.mp entries
    obtain ⟨r, hr⟩ := succeeded o List.mem_cons_self
    have hresult : (a.analyze (s.worlds 0) source id).value.outcome = .ok r := by
      have hsecond := congrArg Prod.snd hentry
      rw [MatrixOutcome.entry, hr] at hsecond
      exact hsecond.symm
    obtain ⟨left, leads⟩ : ∃ left, (s.analyzeOne a source id settings).LeadsTo (s.deliver settings r left) :=
      leadsTo_analyzeOne hresult
    rw [leads.value_eq] at exited
    refine ⟨[o], r.jsonText jsonIndent, entries, succeeded, ?_, ?_⟩
    · obtain ⟨id', outcome⟩ := o
      obtain rfl : outcome = .ok r := hr
      rfl
    · rw [leads.results_eq]
      exact results_deliver json exited
  · rename_i several
    obtain ⟨label?, run, entries', leads⟩ := leadsTo_analyzeSeveral h exited
    obtain rfl : outcomes = run.outcomes :=
      MatrixOutcome.entry_injective.list_map (entries.trans entries'.symm)
    rw [leads.value_eq] at exited
    refine ⟨run.outcomes, outcomesText run.outcomes, entries, succeeded, document?_of_several ?_, ?_⟩
    · have hlength := congrArg List.length entries
      rw [List.length_map, Analyzer.length_singles] at hlength
      rw [hlength]
      intro hone
      obtain ⟨id, rfl⟩ := List.length_eq_one_iff.mp hone
      exact several id rfl
    · rw [leads.results_eq]
      exact results_deliverAll json exited

/-- **The console for results** of a run that was asked for JSON and ends well: the document of the outcomes of the
targets, all of which are results, and in front of it no more than the note that it was saved. -/
theorem results_of_exited (s : Session) (input : String) (settings : AnalyzeSettings)
    (json : settings.asJson = true) (exited : (s.analyze input settings).value.ending = .exited 0) :
    ∃ source config ids, s.Passed input settings source config ids ∧ ∃ outcomes document,
      outcomes.map MatrixOutcome.entry = (ids.mapIdx fun i id =>
        (id, ((⟨.curated, config, s.host⟩ : Analyzer).analyze (s.worlds i) source id).value.outcome)) ∧
      (∀ o ∈ outcomes, ∃ r, o.outcome = .ok r) ∧ document? outcomes = some document ∧
      results (s.analyze input settings).events = s.shownWith settings document := by
  cases s.passage_analyze input settings with
  | stopped refused stopped =>
      rw [stopped.value_eq] at exited
      cases exited
  | stranded stranded => exact absurd exited stranded.not_exited
  | @passed source config ids passed =>
      have leads := passed.leadsTo_analyze
      rw [leads.value_eq] at exited
      obtain ⟨requests, hrequests⟩ := passed.exists_requests
      obtain ⟨outcomes, document, entries, succeeded, hdocument, hresults⟩ :=
        results_analyzeWith json hrequests exited
      exact ⟨source, config, ids, passed, outcomes, document, entries, succeeded, hdocument,
        leads.results_eq.trans hresults⟩

/-- A session that asks for a minimal display. -/
def withMinimalDisplay : Session :=
  { onX86 with
    surroundings := { onX86.surroundings with
      environment := fun name => if name = "SIMDMCA_MINIMAL_UI" then some "1" else none } }

/-- Two targets on a minimal display, with a file. -/
theorem results_of_exited_minimal :
    let settings : AnalyzeSettings :=
      { targetIds := [some "native", some "x86-haswell"]
        asJson := true
        output := some "out.json" }
    settings.asJson = true ∧ (withMinimalDisplay.analyze "k.c" settings).value.ending = .exited 0 ∧
      ∃ document, results (withMinimalDisplay.analyze "k.c" settings).events =
        [Console.plain "[OK] Results written to: out.json", .json document] := by
  intro settings
  have exited : (withMinimalDisplay.analyze "k.c" settings).value.ending = .exited 0 := by
    decide +kernel
  obtain ⟨source, config, ids, -, outcomes, document, -, -, -, hresults⟩ :=
    results_of_exited withMinimalDisplay "k.c" settings rfl exited
  have hnote : withMinimalDisplay.savedNote "out.json" = Console.plain "[OK] Results written to: out.json" := by
    decide +kernel
  refine ⟨rfl, exited, document, ?_⟩
  rw [hresults, ← hnote]
  rfl

/-- With a file the document is not all that stands on the console for results. -/
theorem not_only_document_of_exited : ¬∀ (s : Session) (input : String) (settings : AnalyzeSettings),
    settings.asJson = true → (s.analyze input settings).value.ending = .exited 0 →
      ∃ document, results (s.analyze input settings).events = [.json document] := by
  intro h
  have exited : (onX86.analyze "k.c" { asJson := true, output := some "out.json" }).value.ending = .exited 0 := by
    decide +kernel
  obtain ⟨document, hresults⟩ := h onX86 "k.c" { asJson := true, output := some "out.json" } rfl exited
  have htwo : (results (onX86.analyze "k.c" { asJson := true, output := some "out.json" }).events).length = 2 := by
    decide +kernel
  rw [hresults] at htwo
  cases htwo

end Session

end SnippetCost
