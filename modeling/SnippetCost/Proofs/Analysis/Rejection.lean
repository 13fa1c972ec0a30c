import SnippetCost.Analysis.Matrix
import SnippetCost.Proofs.Analysis.Course
import SnippetCost.Proofs.Analysis.Matrix
import SnippetCost.Proofs.Target.Admission

/-!
# Requests that are rejected

What is wrong with a request is said here by its source and its ids alone (`Rejected`): the source is blank;
else it has a surrogate, and the first one counts; else an id is not in the catalog, and the first one counts.

Main statements:

- **`requests_eq_error_iff`**: checking the requests of a matrix run comes to the same;
- **`rejected_iff`**: the three ways to ask for an analysis reject what is `Rejected`, for that reason, and
  before anything is done.

A request made by hand names its target and not an id, so it is checked like a request for no ids at all.
-/

namespace SnippetCost

open SnippetCost.Text

/-! ## What is wrong with a request -/

/-- Nothing but blank characters; a surrogate is none. -/
def SourceText.IsBlank (source : SourceText) : Prop :=
  ∀ p ∈ source, ∃ c, p = .scalar c ∧ isBlank c = true

/-- Characters only stand before the surrogate at `position`. -/
def SourceText.FirstSurrogate (source : SourceText) (position : Nat) : Prop :=
  ∃ (front : List Char) (offset : Fin 2048) (rest : SourceText),
    source = front.map .scalar ++ .surrogate offset :: rest ∧ front.length = position

/-- Why a source is rejected together with the ids of its targets. -/
inductive Rejected (catalog : Catalog) (source : SourceText) (ids : List String) : Rejection → Prop where
  | blank (blank : source.IsBlank) : Rejected catalog source ids .blankSource
  | surrogate {position : Nat} (visible : ¬source.IsBlank) (first : source.FirstSurrogate position) :
      Rejected catalog source ids (.loneSurrogate position)
  /-- The ids before the unknown one are known. -/
  | unknown {front rest : List String} {id : String} (visible : ¬source.IsBlank)
      (whole : ∀ position, ¬source.FirstSurrogate position) (split : ids = front ++ id :: rest)
      (known : ∀ i ∈ front, i ∈ catalog.ids) (stranger : id ∉ catalog.ids) :
      Rejected catalog source ids (.unknownTarget id)

/-! ## The source -/

namespace SourceText

theorem all_isBlankPoint_iff (source : SourceText) :
    source.all isBlankPoint = true ↔ source.IsBlank := by
  rw [List.all_eq_true]
  refine forall₂_congr fun p _ => ?_
  cases p with
  | scalar c => simp [isBlankPoint]
  | surrogate offset => simp [isBlankPoint]

/-- Before a text with a surrogate a character moves the position on by one. -/
theorem chars_scalar_cons (position : Nat) (c : Char) (rest : SourceText) :
    chars position (.scalar c :: rest) = (chars (position + 1) rest).map (c :: ·) := rfl

/-- Characters are read as they are, whatever number is counted from. -/
theorem chars_scalars (cs : List Char) (position : Nat) : chars position (cs.map .scalar) = .ok cs := by
  induction cs generalizing position with
  | nil => rfl
  | cons c cs ih =>
      rw [List.map_cons, chars_scalar_cons, ih]
      rfl

/-- The position of a surrogate is the number of the characters before it. -/
theorem chars_surrogate (front : List Char) (offset : Fin 2048) (rest : SourceText) (position : Nat) :
    chars position (front.map .scalar ++ .surrogate offset :: rest) = .error (position + front.length) := by
  induction front generalizing position with
  | nil => rfl
  | cons c front ih =>
      rw [List.map_cons, List.cons_append, chars_scalar_cons, ih, List.length_cons, Nat.add_right_comm,
        Nat.add_assoc]
      rfl

/-- A text is characters only, or there is a first surrogate in it. -/
theorem scalars_or_surrogate (source : SourceText) :
    (∃ cs : List Char, source = cs.map .scalar) ∨ ∃ position, source.FirstSurrogate position := by
  induction source with
  | nil => exact .inl ⟨[], rfl⟩
  | cons p source ih =>
      cases p with
      | surrogate offset => exact .inr ⟨0, [], offset, source, rfl, rfl⟩
      | scalar c =>
          rcases ih with ⟨cs, rfl⟩ | ⟨-, front, offset, rest, rfl, -⟩
          · exact .inl ⟨c :: cs, rfl⟩
          · exact .inr ⟨_, c :: front, offset, rest, rfl, rfl⟩

theorem FirstSurrogate.chars_eq {source : SourceText} {position : Nat}
    (h : source.FirstSurrogate position) : source.chars 0 = .error position := by
  obtain ⟨front, offset, rest, rfl, rfl⟩ := h
  rw [chars_surrogate, Nat.zero_add]

theorem FirstSurrogate.unique {source : SourceText} {position position' : Nat}
    (h : source.FirstSurrogate position) (h' : source.FirstSurrogate position') : position = position' :=
  Except.error.inj (h.chars_eq.symm.trans h'.chars_eq)

/-- There is a first surrogate if there is any. -/
theorem exists_firstSurrogate_iff (source : SourceText) :
    (∃ position, source.FirstSurrogate position) ↔ ∃ offset, CodePoint.surrogate offset ∈ source := by
  constructor
  · rintro ⟨-, front, offset, rest, rfl, -⟩
    exact ⟨offset, List.mem_append_right _ List.mem_cons_self⟩
  · rintro ⟨offset, hoffset⟩
    rcases source.scalars_or_surrogate with ⟨cs, rfl⟩ | h
    · obtain ⟨c, -, hc⟩ := List.mem_map.mp hoffset
      cases hc
    · exact h

end SourceText

/-- A source is accepted, or there is a reason why not, whatever the ids. -/
theorem acceptSource_or_rejected (catalog : Catalog) (source : SourceText) (ids : List String) :
    (∃ code, acceptSource source = .ok code ∧ ¬source.IsBlank ∧
        ∀ position, ¬source.FirstSurrogate position) ∨
      ∃ r, acceptSource source = .error r ∧ Rejected catalog source ids r := by
  unfold acceptSource
  by_cases blank : source.IsBlank
  · rw [if_pos (source.all_isBlankPoint_iff.mpr blank)]
    exact .inr ⟨_, rfl, .blank blank⟩
  rw [if_neg (mt source.all_isBlankPoint_iff.mp blank)]
  rcases source.scalars_or_surrogate with ⟨cs, rfl⟩ | ⟨position, first⟩
  · rw [SourceText.chars_scalars]
    refine .inl ⟨_, rfl, blank, fun position first => ?_⟩
    have h := first.chars_eq
    rw [SourceText.chars_scalars] at h
    cases h
  · rw [first.chars_eq]
    exact .inr ⟨_, rfl, .surrogate blank first⟩

/-! ## The reason -/

namespace Catalog

/-- The first unknown id of a list stands behind known ones. -/
theorem find?_unknown_eq_some_iff (c : Catalog) {ids : List String} {id : String} :
    ids.find? (· ∉ c.ids) = some id ↔
      id ∉ c.ids ∧ ∃ front rest, ids = front ++ id :: rest ∧ ∀ i ∈ front, i ∈ c.ids := by
  rw [List.find?_eq_some_iff_append]
  simp only [decide_eq_true_eq, Bool.not_eq_true', decide_eq_false_iff_not, not_not]

end Catalog

section Reason

variable {catalog : Catalog} {source : SourceText} {ids : List String} {r r' : Rejection}

/-- No request has two reasons. -/
theorem Rejected.unique (h : Rejected catalog source ids r) (h' : Rejected catalog source ids r') :
    r = r' := by
  cases h with
  | blank blank =>
      cases h' with
      | blank => rfl
      | surrogate visible => exact absurd blank visible
      | unknown visible => exact absurd blank visible
  | surrogate visible first =>
      cases h' with
      | blank blank => exact absurd blank visible
      | surrogate _ first' => rw [first.unique first']
      | unknown _ whole => exact absurd first (whole _)
  | unknown visible whole split known stranger =>
      cases h' with
      | blank blank => exact absurd blank visible
      | surrogate _ first => exact absurd first (whole _)
      | unknown _ _ split' known' stranger' =>
          have hfirst := catalog.find?_unknown_eq_some_iff.mpr ⟨stranger, _, _, split, known⟩
          have hfirst' := catalog.find?_unknown_eq_some_iff.mpr ⟨stranger', _, _, split', known'⟩
          rw [Option.some.inj (hfirst.symm.trans hfirst')]

/-- There is a reason exactly if the source is blank or has a surrogate, or some id is not in the catalog. -/
theorem exists_rejected_iff : (∃ r, Rejected catalog source ids r) ↔
    source.IsBlank ∨ (∃ offset, CodePoint.surrogate offset ∈ source) ∨ ∃ id ∈ ids, id ∉ catalog.ids := by
  rw [← source.exists_firstSurrogate_iff]
  constructor
  · rintro ⟨-, blank | ⟨-, first⟩ | @⟨front, rest, id, -, -, rfl, -, stranger⟩⟩
    · exact .inl blank
    · exact .inr (.inl ⟨_, first⟩)
    · exact .inr (.inr ⟨id, List.mem_append_right _ List.mem_cons_self, stranger⟩)
  · intro h
    by_cases blank : source.IsBlank
    · exact ⟨_, .blank blank⟩
    by_cases whole : ∃ position, source.FirstSurrogate position
    · obtain ⟨position, first⟩ := whole
      exact ⟨_, .surrogate blank first⟩
    obtain ⟨id, hid, stranger⟩ := (h.resolve_left blank).resolve_left whole
    have hsome : (ids.find? (· ∉ catalog.ids)).isSome = true :=
      List.find?_isSome.mpr ⟨id, hid, decide_eq_true stranger⟩
    obtain ⟨first, hfirst⟩ := Option.isSome_iff_exists.mp hsome
    obtain ⟨hstranger, front, rest, split, known⟩ := catalog.find?_unknown_eq_some_iff.mp hfirst
    exact ⟨_, .unknown blank (not_exists.mp whole) split known hstranger⟩

/-- Without ids a request is rejected for its source only. -/
theorem rejected_nil_iff : Rejected catalog source [] r ↔ acceptSource source = .error r := by
  rcases acceptSource_or_rejected catalog source [] with ⟨code, haccept, visible, whole⟩ | ⟨r', haccept, h⟩
  · rw [haccept]
    constructor
    · rintro (blank | ⟨-, first⟩ | ⟨-, -, split, -, -⟩)
      · exact absurd blank visible
      · exact absurd first (whole _)
      · exact absurd split.symm (List.append_ne_nil_of_right_ne_nil _ (List.cons_ne_nil _ _))
    · intro h
      cases h
  · rw [haccept, Except.error.injEq]
    constructor
    · intro h'
      exact h.unique h'
    · rintro rfl
      exact h

end Reason

/-! ## Checking requests -/

namespace Analyzer

variable {a : Analyzer} {source : SourceText} {code : String} {r : Rejection}

theorem request_of_acceptSource_error (h : acceptSource source = .error r) (id : String) :
    a.request source id = .error r := by
  unfold request
  rw [h]
  rfl

theorem request_of_acceptSource_ok (h : acceptSource source = .ok code) (id : String) :
    a.request source id =
      match a.catalog.get? id with
      | some t => .ok ⟨source, t⟩
      | none => .error (.unknownTarget id) := by
  unfold request Catalog.lookup
  rw [h]
  cases a.catalog.get? id <;> rfl

/-- A target that the catalog does not have is told by its id. -/
theorem request_of_unknown (accepted : acceptSource source = .ok code) {id : String}
    (stranger : id ∉ a.catalog.ids) : a.request source id = .error (.unknownTarget id) := by
  rw [request_of_acceptSource_ok accepted, Catalog.get?_eq_none_iff.mpr stranger]

theorem requests_cons_of_error {id : String} (h : a.request source id = .error r) (ids : List String) :
    a.requests source (id :: ids) = .error r := by
  unfold requests
  rw [h]
  rfl

/-- Ids before the first unknown one do not matter. -/
theorem requests_of_unknown (accepted : acceptSource source = .ok code) {front : List String}
    (known : ∀ i ∈ front, i ∈ a.catalog.ids) {id : String} (stranger : id ∉ a.catalog.ids)
    (rest : List String) : a.requests source (front ++ id :: rest) = .error (.unknownTarget id) := by
  induction front with
  | nil => exact requests_cons_of_error (request_of_unknown accepted stranger) rest
  | cons i front ih =>
      rw [List.forall_mem_cons] at known
      obtain ⟨t, hrequest, -⟩ :=
        exists_request (a := a) accepted (a.catalog.contains_iff i |>.mpr known.1)
      rw [List.cons_append, requests, hrequest, ih known.2]
      rfl

/-- The requests for a list of ids are made, or there is a reason why not. -/
theorem requests_or_rejected (a : Analyzer) (source : SourceText) (id : String) (more : List String) :
    (∃ requests, a.requests source (id :: more) = .ok requests ∧
        ¬∃ r, Rejected a.catalog source (id :: more) r) ∨
      ∃ r, a.requests source (id :: more) = .error r ∧ Rejected a.catalog source (id :: more) r := by
  rcases acceptSource_or_rejected a.catalog source (id :: more) with
    ⟨code, accepted, visible, whole⟩ | ⟨r, refused, h⟩
  · by_cases known : ∀ i ∈ id :: more, i ∈ a.catalog.ids
    · obtain ⟨requests, hrequests, -⟩ := exists_requests (a := a) accepted
        fun i hi => (a.catalog.contains_iff i).mpr (known i hi)
      refine .inl ⟨requests, hrequests, ?_⟩
      rintro ⟨-, blank | ⟨-, first⟩ | @⟨front, rest, i, -, -, split, -, stranger⟩⟩
      · exact visible blank
      · exact whole _ first
      · exact stranger (known i (split ▸ List.mem_append_right _ List.mem_cons_self))
    · push Not at known
      obtain ⟨r, h⟩ := exists_rejected_iff.mpr (.inr (.inr known))
      refine .inr ⟨r, ?_, h⟩
      cases h with
      | blank blank => exact absurd blank visible
      | surrogate _ first => exact absurd first (whole _)
      | @unknown front rest i _ _ split known stranger =>
          rw [split]
          exact requests_of_unknown accepted known stranger rest
  · exact .inr ⟨r, requests_cons_of_error (request_of_acceptSource_error refused id) more, h⟩

/-- **Checking requests.**  The requests of a matrix run are refused exactly for the reason that they are
rejected. -/
theorem requests_eq_error_iff {id : String} {more : List String} :
    a.requests source (id :: more) = .error r ↔ Rejected a.catalog source (id :: more) r := by
  rcases a.requests_or_rejected source id more with ⟨requests, hrequests, none⟩ | ⟨r', hrequests, h⟩
  · rw [hrequests]
    constructor
    · intro h
      cases h
    · intro h
      exact absurd ⟨r, h⟩ none
  · rw [hrequests, Except.error.injEq]
    constructor
    · rintro rfl
      exact h
    · intro h'
      exact h.unique h'

theorem request_eq_error_iff {id : String} :
    a.request source id = .error r ↔ Rejected a.catalog source [id] r := by
  rw [← requests_eq_error_iff, requests]
  cases a.request source id with
  | error r' =>
      change _ ↔ Except.error r' = _
      rw [Except.error.injEq, Except.error.injEq]
  | ok request =>
      constructor
      · intro h
        cases h
      · intro h
        cases h

/-- A request is made from a source that is accepted, for the target with the id. -/
theorem parts_of_request {id : String} {request : Request} (h : a.request source id = .ok request) :
    (∃ code, acceptSource request.source = .ok code) ∧ a.catalog.get? id = some request.target := by
  cases haccept : acceptSource source with
  | error r =>
      rw [request_of_acceptSource_error haccept] at h
      cases h
  | ok code =>
      rw [request_of_acceptSource_ok haccept] at h
      cases hget : a.catalog.get? id with
      | none =>
          rw [hget] at h
          cases h
      | some t =>
          rw [hget] at h
          cases h
          exact ⟨⟨code, haccept⟩, rfl⟩

/-! ## The three ways to ask -/

theorem run_of_acceptSource_error (w : World) {request : Request}
    (h : acceptSource request.source = .error r) :
    a.run w request = ⟨⟨.error (.rejected r), none⟩, []⟩ := by
  unfold run
  rw [h]
  rfl

/-- A run is rejected exactly if its source is not accepted. -/
theorem outcome_run_eq_rejected_iff (w : World) {request : Request} :
    (a.run w request).value.outcome = .error (.rejected r) ↔ acceptSource request.source = .error r := by
  cases haccept : acceptSource request.source with
  | error r' =>
      rw [run_of_acceptSource_error w haccept]
      simp only [Outcome.error.injEq, AnalysisError.rejected.injEq, Except.error.injEq]
  | ok code =>
      rcases ends_of_run a w haccept with ⟨result, h⟩ | ⟨fault, h⟩ | ⟨fault, h⟩
      · simp [h]
      · simp [h]
      · simp [h]

theorem analyze_of_request_error (w : World) {id : String} (h : a.request source id = .error r) :
    a.analyze w source id = ⟨⟨.error (.rejected r), none⟩, []⟩ := by
  unfold analyze
  rw [h]
  rfl

/-- An analysis is rejected exactly if its request is not made. -/
theorem outcome_analyze_eq_rejected_iff (w : World) {id : String} :
    (a.analyze w source id).value.outcome = .error (.rejected r) ↔ a.request source id = .error r := by
  cases hrequest : a.request source id with
  | error r' =>
      rw [analyze_of_request_error w hrequest]
      simp only [Outcome.error.injEq, AnalysisError.rejected.injEq, Except.error.injEq]
  | ok request =>
      obtain ⟨⟨code, accepted⟩, -⟩ := parts_of_request hrequest
      rw [analyze_eq_run hrequest, outcome_run_eq_rejected_iff, accepted]
      simp only [reduceCtorEq]

theorem analyzeMatrixAmid_of_requests_error {ids : List String} (h : a.requests source ids = .error r)
    (worlds : Nat → World) (wanted : Int) (schedule : List Nat) (takenUp : Nat) :
    a.analyzeMatrixAmid worlds source ids wanted schedule takenUp = ⟨.error (.rejected r), []⟩ := by
  unfold analyzeMatrixAmid
  rw [h]
  rfl

/-- A matrix run is rejected exactly if its requests are not made. -/
theorem value_analyzeMatrixAmid_eq_error_iff {ids : List String} (worlds : Nat → World) (wanted : Int)
    (schedule : List Nat) (takenUp : Nat) :
    (a.analyzeMatrixAmid worlds source ids wanted schedule takenUp).value = .error (.rejected r) ↔
      a.requests source ids = .error r := by
  cases hrequests : a.requests source ids with
  | error r' =>
      rw [analyzeMatrixAmid_of_requests_error hrequests]
      simp only [Except.error.injEq, MatrixFault.rejected.injEq]
  | ok requests =>
      have h := value_analyzeMatrixAmid_ne_rejected hrequests worlds wanted schedule takenUp r
      simp only [h, reduceCtorEq]

/-- **Rejected requests leave no trace.**  An analysis for one id, a matrix run for a list of ids, and a run
of a request made by hand reject what is `Rejected`, each for that reason, and then that is all that happens:
there is no event, and no workspace that could be left.  What is rejected is a source that is blank or has a
surrogate, and an id that is not in the catalog. -/
theorem rejected_iff (a : Analyzer) (w : World) (worlds : Nat → World) (source : SourceText) (id : String)
    (more : List String) (t : Target) (wanted : Int) (schedule : List Nat) (takenUp : Nat) :
    (∀ r,
      ((a.analyze w source id).value.outcome = .error (.rejected r) ↔
        Rejected a.catalog source [id] r) ∧
      (Rejected a.catalog source [id] r →
        a.analyze w source id = ⟨⟨.error (.rejected r), none⟩, []⟩)) ∧
    (∀ r,
      ((a.analyzeMatrixAmid worlds source (id :: more) wanted schedule takenUp).value = .error (.rejected r) ↔
        Rejected a.catalog source (id :: more) r) ∧
      (Rejected a.catalog source (id :: more) r →
        a.analyzeMatrixAmid worlds source (id :: more) wanted schedule takenUp =
          ⟨.error (.rejected r), []⟩)) ∧
    (∀ r,
      ((a.run w ⟨source, t⟩).value.outcome = .error (.rejected r) ↔ Rejected a.catalog source [] r) ∧
      (Rejected a.catalog source [] r → a.run w ⟨source, t⟩ = ⟨⟨.error (.rejected r), none⟩, []⟩)) ∧
    ∀ ids, (∃ r, Rejected a.catalog source ids r) ↔
      source.IsBlank ∨ (∃ offset, CodePoint.surrogate offset ∈ source) ∨
        ∃ id ∈ ids, id ∉ a.catalog.ids := by
  refine ⟨fun r => ⟨?_, ?_⟩, fun r => ⟨?_, ?_⟩, fun r => ⟨?_, ?_⟩, fun ids => exists_rejected_iff⟩
  · rw [outcome_analyze_eq_rejected_iff, request_eq_error_iff]
  · intro h
    exact analyze_of_request_error w (request_eq_error_iff.mpr h)
  · rw [value_analyzeMatrixAmid_eq_error_iff, requests_eq_error_iff]
  · intro h
    exact analyzeMatrixAmid_of_requests_error (requests_eq_error_iff.mpr h) worlds wanted schedule takenUp
  · rw [outcome_run_eq_rejected_iff, rejected_nil_iff]
  · intro h
    exact run_of_acceptSource_error w (rejected_nil_iff.mp h)

end Analyzer

end SnippetCost
