import SnippetCost.Analysis.Matrix
import SnippetCost.Proofs.Analysis.Course
import SnippetCost.Proofs.Analysis.Pool
import SnippetCost.Proofs.Target.Admission

/-!
# A matrix run is its single runs

A matrix run puts its requests through a pool.  The pool answers each once and the answers come back in the
order of the requests (`Pool.inOrder_answers`), so what a matrix run says of a target is what the analysis
of that target alone says, in the world that analysis meets.  That is so unless one of the analyses breaks off: then
the first one that does, in the order of the ids, breaks off the whole run, and all outcomes are lost (`Several`).

The worlds are a parameter, one for each request: each analysis has a workspace of its own, and what the tools
do in it is its own affair.  That the outcome with the number `i` depends on the world with the number `i`
only is what keeps the failure of one target from the outcomes of the others.

* **`several_analyzeMatrixAmid`**: the two ways in which a matrix run ends, and when it ends in which.
* **`broken_analyzeMatrixAmid_configured`**: the second one is taken in worlds that refuse nothing.
-/

namespace SnippetCost

/-! ## What can be told of several analyses -/

/-- What comes of an analysis that does not break off. -/
def Outcome.of : Except AnalysisError AnalysisResult → Outcome
  | .ok result => .ok result
  | .error e => .error e

/-- An outcome is broken, or something can be told of it. -/
theorem Outcome.broken_or_of (o : Outcome) : (∃ fault, o = .broken fault) ∨ ∃ told, o = .of told := by
  cases o with
  | ok result => exact .inr ⟨.ok result, rfl⟩
  | error e => exact .inr ⟨.error e, rfl⟩
  | broken fault => exact .inl ⟨fault, rfl⟩

/-- What can be told of an outcome is what it is made of. -/
@[simp] theorem Outcome.told_of (told : Except AnalysisError AnalysisResult) : (Outcome.of told).told = .ok told := by
  cases told <;> rfl

/-- Such an outcome is not broken. -/
theorem Outcome.of_ne_broken (told : Except AnalysisError AnalysisResult) (fault : CallFault) :
    Outcome.of told ≠ .broken fault := by
  cases told <;> nofun

/-- Either something can be told of all outcomes, or there is a first one that is broken. -/
theorem Outcome.told_cases {α : Type} (outcome : α → Outcome) (l : List α) :
    (∃ told, l.mapM (fun x => (outcome x).told) = .ok told ∧ l.map outcome = told.map .of) ∨
      ∃ fault front rest, l.mapM (fun x => (outcome x).told) = .error fault ∧
        l.map outcome = front ++ .broken fault :: rest ∧ ∀ o ∈ front, ∀ f, o ≠ .broken f := by
  induction l with
  | nil => exact .inl ⟨[], rfl, rfl⟩
  | cons x l ih =>
      rw [List.mapM_cons, List.map_cons]
      rcases (outcome x).broken_or_of with ⟨fault, hx⟩ | ⟨first, hx⟩
      · rw [hx]
        exact .inr ⟨fault, [], l.map outcome, rfl, rfl, List.forall_mem_nil _⟩
      · rw [hx, told_of]
        rcases ih with ⟨told, hm, hmap⟩ | ⟨fault, front, rest, hm, hmap, whole⟩
        · exact .inl ⟨first :: told, by rw [hm]; rfl, by rw [hmap]; rfl⟩
        · refine .inr ⟨fault, .of first :: front, rest, by rw [hm]; rfl, by rw [hmap]; rfl, ?_⟩
          exact List.forall_mem_cons.mpr ⟨of_ne_broken first, whole⟩

/-- The id of an outcome, and what came of its analysis. -/
def MatrixOutcome.entry (o : MatrixOutcome) : String × Outcome :=
  (o.targetId, .of o.outcome)

/-- An outcome is told by its entry. -/
theorem MatrixOutcome.entry_injective : Function.Injective MatrixOutcome.entry := by
  rintro ⟨id, outcome⟩ ⟨id', outcome'⟩ h
  obtain ⟨rfl, h⟩ := Prod.mk.inj h
  cases outcome <;> cases outcome' <;> cases h
  · rfl
  · rfl

/-- The first of some analyses that breaks off does so over this. -/
def BrokenFirst (singles : List (String × Outcome)) (fault : CallFault) : Prop :=
  ∃ front id rest, singles = front ++ (id, .broken fault) :: rest ∧
    ∀ single ∈ front, ∀ f, single.2 ≠ .broken f

/-- What a matrix run comes to whose analyses, each alone, come to this. -/
inductive Several (singles : List (String × Outcome)) : Except MatrixFault MatrixRun → Prop where
  /-- Its outcomes are those of the analyses. -/
  | delivered {run : MatrixRun} (entries : run.outcomes.map MatrixOutcome.entry = singles) :
      Several singles (.ok run)
  /-- An analysis breaks off, and so does the run. -/
  | broken {fault : CallFault} {left : Nat} (first : BrokenFirst singles fault) :
      Several singles (.error (.broken fault left))

namespace Analyzer

variable {a : Analyzer} {source : SourceText} {code : String}

/-! ## The requests -/

/-- A source that is accepted makes a request for every target of the catalog. -/
theorem exists_request (accepted : acceptSource source = .ok code) {id : String}
    (known : a.catalog.contains id = true) : ∃ t, a.request source id = .ok ⟨source, t⟩ ∧ t.id = id := by
  obtain ⟨t, hget⟩ := Option.isSome_iff_exists.mp known
  refine ⟨t, ?_, (Catalog.mem_of_get?_eq_some hget).2⟩
  unfold request
  rw [accepted, Catalog.lookup_of_get?_eq_some hget]
  rfl

/-- The requests of a matrix run are those of the single runs. -/
theorem exists_requests (accepted : acceptSource source = .ok code) {ids : List String}
    (known : ∀ id ∈ ids, a.catalog.contains id = true) : ∃ requests,
      a.requests source ids = .ok requests ∧
      List.Forall₂ (fun id r => a.request source id = .ok r ∧ r.source = source ∧ r.target.id = id)
        ids requests := by
  induction ids with
  | nil => exact ⟨[], rfl, .nil⟩
  | cons id ids ih =>
      rw [List.forall_mem_cons] at known
      obtain ⟨t, hrequest, hid⟩ := exists_request accepted known.1
      obtain ⟨requests, hrequests, hall⟩ := ih known.2
      refine ⟨⟨source, t⟩ :: requests, ?_, .cons ⟨hrequest, rfl, hid⟩ hall⟩
      rw [Analyzer.requests, hrequest, hrequests]
      rfl

/-! ## One run of many -/

/-- That a failure is logged changes nothing about it. -/
theorem value_runLogged (a : Analyzer) (w : World) (request : Request) :
    (a.runLogged w request).value = (a.run w request).value := by
  unfold runLogged
  rw [Traced.value_bind]
  cases (a.run w request).value.outcome <;> rfl

/-- A single run is that of its request. -/
theorem analyze_eq_run {w : World} {id : String} {request : Request}
    (h : a.request source id = .ok request) : a.analyze w source id = a.run w request := by
  unfold analyze
  rw [h]

/-! ## All of them -/

/-- Once its requests are made, a matrix run is not rejected any more. -/
theorem value_analyzeMatrixAmid_ne_rejected {ids : List String} {requests : List Request}
    (h : a.requests source ids = .ok requests) (worlds : Nat → World) (wanted : Int) (schedule : List Nat)
    (takenUp : Nat) (r : Rejection) :
    (a.analyzeMatrixAmid worlds source ids wanted schedule takenUp).value ≠ .error (.rejected r) := by
  unfold analyzeMatrixAmid
  rw [h]
  dsimp only
  split <;> nofun

/-- What the analyses for some ids come to, each of them alone and in its own world. -/
def singles (a : Analyzer) (worlds : Nat → World) (source : SourceText) (ids : List String) :
    List (String × Outcome) :=
  ids.mapIdx fun i id => (id, (a.analyze (worlds i) source id).value.outcome)

theorem length_singles (worlds : Nat → World) (ids : List String) :
    (a.singles worlds source ids).length = ids.length :=
  List.length_mapIdx

/-- Where there is one analysis, there is one id. -/
theorem singles_eq_singleton {worlds : Nat → World} {ids : List String} {id : String} {outcome : Outcome}
    (h : a.singles worlds source ids = [(id, outcome)]) :
    ids = [id] ∧ (a.analyze (worlds 0) source id).value.outcome = outcome := by
  have hlength := congrArg List.length h
  rw [length_singles] at hlength
  obtain ⟨id', rfl⟩ := List.length_eq_one_iff.mp hlength
  cases h
  exact ⟨rfl, rfl⟩

/-- The first analysis that breaks off is one of an id, in the world that it meets. -/
theorem exists_analyze_of_brokenFirst {worlds : Nat → World} {ids : List String} {fault : CallFault}
    (h : BrokenFirst (a.singles worlds source ids) fault) :
    ∃ i id, ids[i]? = some id ∧ (a.analyze (worlds i) source id).value.outcome = .broken fault := by
  obtain ⟨front, id, rest, hsplit, -⟩ := h
  have hget : (a.singles worlds source ids)[front.length]? = some (id, .broken fault) := by
    rw [hsplit, List.getElem?_append_right (Nat.le_refl _), Nat.sub_self]
    rfl
  unfold singles at hget
  rw [List.getElem?_mapIdx, Option.map_eq_some_iff] at hget
  obtain ⟨id', hid, heq⟩ := hget
  exact ⟨_, id', hid, congrArg Prod.snd heq⟩

section Requests

variable {ids : List String} {requests : List Request}
  (hall : List.Forall₂ (fun id r => a.request source id = .ok r ∧ r.target.id = id) ids requests)
  (worlds : Nat → World)

include hall

/-- The analyses are those for the targets of the requests, in their order. -/
theorem ids_singles : (a.singles worlds source ids).map Prod.fst = requests.map fun r => r.target.id := by
  obtain ⟨hlength, hall⟩ := List.forall₂_iff_get.mp hall
  unfold singles
  refine List.ext_getElem (by simp [hlength]) ?_
  intro i hi hi'
  rw [List.length_map, List.length_mapIdx] at hi
  rw [List.length_map] at hi'
  obtain ⟨-, hid⟩ := hall i hi hi'
  simp only [List.getElem_map, List.getElem_mapIdx]
  exact hid.symm

/-- What they come to is what the runs of the requests come to. -/
theorem outcomes_singles : (a.singles worlds source ids).map Prod.snd =
    requests.mapIdx fun i r => (a.run (worlds i) r).value.outcome := by
  obtain ⟨hlength, hall⟩ := List.forall₂_iff_get.mp hall
  unfold singles
  refine List.ext_getElem (by simp [hlength]) ?_
  intro i hi hi'
  rw [List.length_map, List.length_mapIdx] at hi
  rw [List.length_mapIdx] at hi'
  obtain ⟨hrequest, -⟩ := hall i hi hi'
  simp only [List.getElem_map, List.getElem_mapIdx, List.get_eq_getElem] at hrequest ⊢
  rw [analyze_eq_run hrequest]

/-- Once its requests are made, a matrix run comes to what the analyses come to. -/
theorem several_of_requests (h : a.requests source ids = .ok requests) (wanted : Int) (schedule : List Nat)
    (takenUp : Nat) : Several (a.singles worlds source ids)
      (a.analyzeMatrixAmid worlds source ids wanted schedule takenUp).value := by
  have hids := ids_singles hall worlds
  have houtcomes := outcomes_singles hall worlds
  unfold analyzeMatrixAmid
  rw [h]
  dsimp only
  rw [Pool.inOrder_answers (Pool.workers_pos wanted requests.length) List.length_mapIdx]
  generalize hconclusions : List.map (fun x : Traced Conclusion => x.value) _ = conclusions
  have hconclusions : conclusions.map (fun c => c.outcome) = (a.singles worlds source ids).map Prod.snd := by
    rw [houtcomes, ← hconclusions]
    refine List.ext_getElem (by simp) ?_
    intro i hi hi'
    simp [value_runLogged]
  rcases Outcome.told_cases (fun c : Conclusion => c.outcome) conclusions with
    ⟨told, hm, htold⟩ | ⟨fault, front, rest, hm, hsplit, whole⟩
  · rw [hm]
    refine .delivered ?_
    rw [hconclusions] at htold
    rw [List.zip_of_prod hids htold, List.zip_eq_zipWith, List.zipWith_map, List.map_zipWith]
    rfl
  · rw [hm]
    rw [hconclusions] at hsplit
    obtain ⟨front', back, hback, rfl, hmore⟩ := List.map_eq_append_iff.mp hsplit
    obtain ⟨⟨id, outcome⟩, rest', rfl, rfl, -⟩ := List.map_eq_cons_iff.mp hmore
    exact .broken ⟨front', id, rest', hback, fun single hsingle => whole _ (List.mem_map_of_mem hsingle)⟩

end Requests

/-- An accepted request is not rejected any more. -/
theorem ends_of_run (a : Analyzer) (w : World) {request : Request}
    (accepted : acceptSource request.source = .ok code) :
    (∃ result, (a.run w request).value.outcome = .ok result) ∨
      (∃ fault, (a.run w request).value.outcome = .error (.failed fault)) ∨
        ∃ fault, (a.run w request).value.outcome = .broken fault :=
  (course_run accepted).ends

/-- Nor is any of several. -/
theorem ends_of_mem_singles (accepted : acceptSource source = .ok code) {ids : List String}
    (known : ∀ id ∈ ids, a.catalog.contains id = true) {worlds : Nat → World} {single : String × Outcome}
    (h : single ∈ a.singles worlds source ids) :
    (∃ result, single.2 = .ok result) ∨ (∃ fault, single.2 = .error (.failed fault)) ∨
      ∃ fault, single.2 = .broken fault := by
  obtain ⟨i, hi, rfl⟩ := List.mem_mapIdx.mp h
  obtain ⟨t, hrequest, -⟩ := exists_request accepted (known _ (List.getElem_mem hi))
  dsimp only
  rw [analyze_eq_run hrequest]
  exact ends_of_run a (worlds i) accepted

/-- **A matrix run is its single runs.**  For a source that is accepted and targets that are known it comes to what the
analyses for these ids come to, each of them alone, in the order of the ids: either it has their outcomes, each a result or
a failed stage, or the first of them that breaks off breaks it off. -/
theorem several_analyzeMatrixAmid (a : Analyzer) (accepted : acceptSource source = .ok code)
    {ids : List String} (known : ∀ id ∈ ids, a.catalog.contains id = true) (worlds : Nat → World)
    (wanted : Int) (schedule : List Nat) (takenUp : Nat) :
    Several (a.singles worlds source ids)
      (a.analyzeMatrixAmid worlds source ids wanted schedule takenUp).value ∧
    ∀ run, (a.analyzeMatrixAmid worlds source ids wanted schedule takenUp).value = .ok run →
      ∀ o ∈ run.outcomes, (∃ result, o.outcome = .ok result) ∨
        ∃ fault, o.outcome = .error (.failed fault) := by
  obtain ⟨requests, hrequests, hall⟩ := exists_requests accepted known
  have several := several_of_requests (hall.imp fun _ _ h => ⟨h.1, h.2.2⟩) worlds hrequests wanted schedule takenUp
  refine ⟨several, ?_⟩
  intro run hrun o ho
  rw [hrun] at several
  obtain ⟨entries⟩ := several
  have hmem : o.entry ∈ a.singles worlds source ids := by
    rw [← entries]
    exact List.mem_map_of_mem ho
  have ends := ends_of_mem_singles accepted known hmem
  unfold MatrixOutcome.entry at ends
  cases houtcome : o.outcome with
  | ok result => exact .inl ⟨result, rfl⟩
  | error e =>
      rw [houtcome] at ends
      rcases ends with ⟨result, h⟩ | ⟨fault, h⟩ | ⟨fault, h⟩ <;> cases h
      exact .inr ⟨fault, rfl⟩

/-- One target twice, and a world that has no room for the second workspace; two workers are asked for, and
the second is done first. -/
theorem several_analyzeMatrixAmid_generic :
    let worlds : Nat → World := fun i =>
      if i = 1 then { World.talkative with creation := .error (.plain "full") } else .talkative
    let value := (Analyzer.generic.analyzeMatrixAmid worlds Request.generic.source ["generic", "generic"] 2 [1] 0).value
    acceptSource Request.generic.source = .ok "f();" ∧
      (∀ id ∈ ["generic", "generic"], Analyzer.generic.catalog.contains id = true) ∧
      Several
        [("generic", .ok (resultOf .generic (Text.encode "\tnop\n".toList) (Text.encode "Total Cycles: 5\n".toList))),
          ("generic", .error (.failed (.workspaceRefused (.plain "full"))))] value ∧
      value.toBool = true := by
  intro worlds value
  have known : ∀ id ∈ ["generic", "generic"], Analyzer.generic.catalog.contains id = true := by decide
  have hsingles : Analyzer.generic.singles worlds Request.generic.source ["generic", "generic"] =
      [("generic", .ok (resultOf .generic (Text.encode "\tnop\n".toList) (Text.encode "Total Cycles: 5\n".toList))),
        ("generic", .error (.failed (.workspaceRefused (.plain "full"))))] := by
    decide +kernel
  refine ⟨acceptSource_generic, known, ?_, by decide +kernel⟩
  rw [← hsingles]
  exact (several_analyzeMatrixAmid .generic acceptSource_generic known worlds 2 [1] 0).1

/-- **A failure of one target can escape.**  In worlds that refuse nothing a matrix run has no outcomes if its workspaces are
to have a name that is none, or if its time limit is no number, or one that nobody can wait for. -/
theorem broken_analyzeMatrixAmid_configured :
    (¬∀ (a : Analyzer) (source : SourceText) (code : String) (ids : List String) (worlds : Nat → World) (wanted : Int)
      (schedule : List Nat) (takenUp : Nat), acceptSource source = .ok code →
      (∀ id ∈ ids, a.catalog.contains id = true) →
        ∃ run, (a.analyzeMatrixAmid worlds source ids wanted schedule takenUp).value = .ok run) ∧
    ([{ workspaceStem := "a\x00b" }, { timeLimit := .nan }, { timeLimit := .infinite false },
        { timeLimit := .ofInt 3000000 }].map fun config =>
      ((Analyzer.configured config).analyzeMatrixAmid (fun _ => .obliging) Request.generic.source
        ["generic", "generic"] 4 [] 2).value.toBool) = [false, false, false, false] := by
  refine ⟨fun always => ?_, by decide +kernel⟩
  have nameless : ((Analyzer.configured { workspaceStem := "a\x00b" }).analyzeMatrixAmid (fun _ => .obliging)
      Request.generic.source ["generic", "generic"] 4 [] 2).value.toBool = false := by
    decide +kernel
  obtain ⟨run, h⟩ := always (.configured { workspaceStem := "a\x00b" }) Request.generic.source "f();"
    ["generic", "generic"] (fun _ => .obliging) 4 [] 2 acceptSource_generic (by decide)
  rw [h] at nameless
  cases nameless

end Analyzer

end SnippetCost
