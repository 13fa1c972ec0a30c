import SnippetCost.Proofs.Analysis.Rejection

/-!
# Whom processes are started for

The processes of an analysis are the compiler and the simulator at work for its target.  Those of a matrix run
are at work for the targets of its ids, whatever order the pool works in
(`exists_worksFor_of_mem_calls_analyzeMatrixAmid`).
-/

namespace SnippetCost

namespace Event

theorem mem_calls_iff {events : List Event} {call : Call} : call ∈ calls events ↔ started call ∈ events := by
  rw [calls, List.mem_filterMap]
  constructor
  · rintro ⟨e, he, hcall⟩
    cases e with
    | started call' =>
        cases hcall
        exact he
    | _ => cases hcall
  · intro h
    exact ⟨_, h, rfl⟩

end Event

/-- An answer of a pool is that to one of the requests. -/
theorem Pool.mem_map_of_mem_answers {α β : Type} {workers : Nat} (hworkers : 0 < workers)
    {schedule : List Nat} {job : α → β} {requests : List α} {answer : Nat × β}
    (h : answer ∈ answers workers schedule job requests) : answer.2 ∈ requests.map job := by
  rw [(answers_perm workers schedule job hworkers requests).mem_iff, List.mem_mapIdx] at h
  obtain ⟨i, hi, rfl⟩ := h
  exact List.getElem_mem hi

namespace Analyzer

open Event

variable {a : Analyzer} {source : SourceText}

/-- A process that is the compiler or the simulator at work for a target. -/
def WorksFor (a : Analyzer) (call : Call) (t : Target) : Prop :=
  call.argv = a.compileCommand t ∨ call.argv = a.simulateCommand t

theorem worksFor_of_mem_calls_run (w : World) (request : Request) :
    ∀ call ∈ calls (a.run w request).events, a.WorksFor call request.target := by
  intro call hcall
  cases accepted : acceptSource request.source with
  | error r =>
      rw [run_of_acceptSource_error w accepted] at hcall
      cases hcall
  | ok code =>
      have hcommand : call.argv ∈ (calls (a.run w request).events).map Call.argv :=
        List.mem_map_of_mem hcall
      rcases (course_run (a := a) (w := w) accepted).contract.commands_eq with h | h | h
      · rw [h] at hcommand
        cases hcommand
      · rw [h, List.mem_singleton] at hcommand
        exact .inl hcommand
      · rw [h, List.mem_pair] at hcommand
        exact hcommand

/-- That a failure is logged starts nothing. -/
theorem calls_runLogged (w : World) (request : Request) :
    calls (a.runLogged w request).events = calls (a.run w request).events := by
  unfold runLogged
  rw [Traced.events_bind, calls_append, List.append_right_eq_self]
  split
  · rfl
  · rfl
  · rfl

theorem exists_worksFor_of_mem_calls_analyze (w : World) (id : String) :
    ∀ call ∈ calls (a.analyze w source id).events,
      ∃ t, a.catalog.get? id = some t ∧ a.WorksFor call t := by
  intro call hcall
  cases hrequest : a.request source id with
  | error r =>
      rw [analyze_of_request_error w hrequest] at hcall
      cases hcall
  | ok request =>
      rw [analyze_eq_run hrequest] at hcall
      exact ⟨request.target, (parts_of_request hrequest).2, worksFor_of_mem_calls_run w request call hcall⟩

/-- The target of a request has the id it was asked for by. -/
theorem id_of_request {id : String} {request : Request} (h : a.request source id = .ok request) :
    request.target.id = id :=
  (Catalog.mem_of_get?_eq_some (parts_of_request h).2).2

theorem source_of_request {id : String} {request : Request} (h : a.request source id = .ok request) :
    request.source = source := by
  cases haccept : acceptSource source with
  | error r =>
      rw [request_of_acceptSource_error haccept] at h
      cases h
  | ok code =>
      rw [request_of_acceptSource_ok haccept] at h
      split at h
      · cases h
        rfl
      · cases h

/-- The requests of a matrix run are made for its ids, each for its own. -/
theorem forall₂_of_requests {ids : List String} {requests : List Request}
    (h : a.requests source ids = .ok requests) :
    List.Forall₂ (fun id request => a.request source id = .ok request) ids requests := by
  induction ids generalizing requests with
  | nil =>
      cases h
      exact .nil
  | cons id ids ih =>
      cases hrequest : a.request source id with
      | error r =>
          rw [requests_cons_of_error hrequest] at h
          cases h
      | ok request =>
          rw [Analyzer.requests, hrequest] at h
          cases hrest : a.requests source ids with
          | error r =>
              rw [hrest] at h
              cases h
          | ok rest =>
              rw [hrest] at h
              cases h
              exact .cons hrequest (ih hrest)

/-- A request of a matrix run is made for one of its ids. -/
theorem exists_request_of_mem_requests {ids : List String} {requests : List Request}
    (h : a.requests source ids = .ok requests) :
    ∀ request ∈ requests, ∃ id ∈ ids, a.request source id = .ok request := by
  obtain ⟨hlength, hall⟩ := List.forall₂_iff_get.mp (forall₂_of_requests h)
  intro request hrequest
  obtain ⟨i, hi, rfl⟩ := List.getElem_of_mem hrequest
  have hid : i < ids.length := hlength ▸ hi
  exact ⟨ids[i], List.getElem_mem hid, hall i hid hi⟩

/-- What happens in a matrix run happens in one of its analyses, also if some of them are given up. -/
theorem exists_runLogged_of_mem_events {ids : List String} {requests : List Request}
    (h : a.requests source ids = .ok requests) {worlds : Nat → World} {wanted : Int} {schedule : List Nat}
    {takenUp : Nat} {e : Event}
    (he : e ∈ (a.analyzeMatrixAmid worlds source ids wanted schedule takenUp).events) :
    ∃ w, ∃ request ∈ requests, e ∈ (a.runLogged w request).events := by
  have job : ∀ answer ∈ Pool.answers (Pool.workers wanted requests.length) schedule
      (fun attempt => a.runLogged attempt.1 attempt.2) (requests.mapIdx fun i request => (worlds i, request)),
      e ∈ answer.2.events → ∃ w, ∃ request ∈ requests, e ∈ (a.runLogged w request).events := by
    intro answer hanswer happens
    have hjob := Pool.mem_map_of_mem_answers (Pool.workers_pos wanted requests.length) hanswer
    obtain ⟨⟨w, request⟩, hmem, hrun⟩ := List.mem_map.mp hjob
    obtain ⟨i, hi, heq⟩ := List.mem_mapIdx.mp hmem
    cases heq
    rw [← hrun] at happens
    exact ⟨_, _, List.getElem_mem hi, happens⟩
  unfold analyzeMatrixAmid at he
  rw [h] at he
  dsimp only at he
  split at he
  · obtain ⟨answer, hanswer, happens⟩ := List.mem_flatMap.mp he
    exact job answer hanswer happens
  · obtain ⟨answer, hanswer, happens⟩ := List.mem_flatMap.mp he
    exact job answer (List.mem_of_mem_filter hanswer) happens

/-- The processes of a matrix run are at work for the targets of its ids. -/
theorem exists_worksFor_of_mem_calls_analyzeMatrixAmid (worlds : Nat → World) (ids : List String)
    (wanted : Int) (schedule : List Nat) (takenUp : Nat) :
    ∀ call ∈ calls (a.analyzeMatrixAmid worlds source ids wanted schedule takenUp).events,
      ∃ id ∈ ids, ∃ t, a.catalog.get? id = some t ∧ a.WorksFor call t := by
  intro call hcall
  cases hrequests : a.requests source ids with
  | error r =>
      rw [analyzeMatrixAmid_of_requests_error hrequests] at hcall
      cases hcall
  | ok requests =>
      obtain ⟨w, request, hmem, hstarted⟩ := exists_runLogged_of_mem_events hrequests (mem_calls_iff.mp hcall)
      rw [← mem_calls_iff, calls_runLogged] at hstarted
      obtain ⟨id, hid, hmade⟩ := exists_request_of_mem_requests hrequests _ hmem
      exact ⟨id, hid, _, (parts_of_request hmade).2, worksFor_of_mem_calls_run _ _ call hstarted⟩

end Analyzer

end SnippetCost
