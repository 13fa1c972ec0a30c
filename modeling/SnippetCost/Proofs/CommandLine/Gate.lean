import SnippetCost.Proofs.CommandLine.Delivery
import SnippetCost.Proofs.Text.PathName
import SnippetCost.Proofs.Toolchain.TimeLimit

/-!
# What the command lets through

Before the command does anything, the source has to be read, the targets have to fit the host, the environment
has to make sense, and the request has to be one that can be analysed.  `Session.Refused` says what can be wrong
with them by what the command is given alone, in no order.

For some of what it is given the command has no answer at all, and breaks down: a name with a NUL character in it, a
standard input that is not there, and an id that is left out (`Session.Stranded`).

Main statements:

- **`passage_analyze`**: every run of the command is refused, breaks down at once, or is let through to its analysis;
- **`exited_two_iff_refused`**: the command ends with the code of a rejection exactly if it is refused and does not
  break down, and then it has done nothing but say so; and what it starts is for targets that fit;
- **`broken_over_closedInput`**: a source that cannot be read need not end the command with that code.
-/

namespace SnippetCost

open Traced Event

/-! ## Reading -/

/-- Where there is a NUL character in its name, no file is read. -/
theorem FileSystem.read_of_nul {files : FileSystem} {name : Text.PathName} (nul : '\x00' ∈ name.text.toList) :
    files.read name = .error .nulInName := by
  unfold FileSystem.read locate
  rw [if_pos (List.contains_iff_mem.mpr nul)]
  rfl

/-- The system refuses to read a file, or there is a NUL character in its name. -/
theorem FileSystem.refused_or_nul_of_read {files : FileSystem} {name : Text.PathName} {fault : PathFault}
    (h : files.read name = .error fault) :
    (∃ e, fault = .refused e) ∨ '\x00' ∈ name.text.toList ∧ fault = .nulInName := by
  unfold FileSystem.read locate at h
  by_cases nul : name.text.toList.contains '\x00' = true
  · rw [if_pos nul] at h
    cases h
    exact .inr ⟨List.contains_iff_mem.mp nul, rfl⟩
  · rw [if_neg nul] at h
    refine .inl ?_
    cases hplace : files.resolve name with
    | error obstacle =>
        rw [hplace] at h
        cases h
        exact ⟨_, rfl⟩
    | ok place =>
        rw [hplace] at h
        cases place with
        | file path content => cases h
        | folder =>
            cases h
            exact ⟨_, rfl⟩
        | vacant path =>
            cases h
            exact ⟨_, rfl⟩

/-! ## Admission -/

/-- A target that is known fits the host. -/
def Catalog.Fits (catalog : Catalog) (host : Host) (id : String) : Prop :=
  ∀ t, catalog.get? id = some t → host.isCompatible t = true

namespace Session

variable (s : Session)

/-- What an admission says of the ids that were asked for. -/
inductive Admitted (catalog : Catalog) (host : Host) (force : Bool) (asked : List (Option String)) :
    Admission → Prop where
  | admitted {ids : List String} (asked_eq : asked = ids.map some)
      (fits : force = false → ∀ id ∈ ids, catalog.Fits host id) :
      Admitted catalog host force asked (.admitted ids)
  | refused {id : String} {t : Target} (forced : force = false) (mem : some id ∈ asked)
      (known : catalog.get? id = some t) (unfit : host.isCompatible t = false) :
      Admitted catalog host force asked .refused
  | idLeftOut {front : List String} {rest : List (Option String)} (asked_eq : asked = front.map some ++ none :: rest)
      (fits : force = false → ∀ id ∈ front, catalog.Fits host id) :
      Admitted catalog host force asked .idLeftOut

/-- One more id in front, of a target that is fit or forced. -/
theorem Admitted.cons {catalog : Catalog} {host : Host} {force : Bool} {asked : List (Option String)}
    {admission : Admission} (h : Admitted catalog host force asked admission) {id : String}
    (fit : force = false → catalog.Fits host id) :
    Admitted catalog host force (some id :: asked) (admission.cons id) := by
  cases h with
  | admitted asked_eq fits =>
      refine .admitted (by rw [asked_eq, List.map_cons]) fun forced => ?_
      rw [List.forall_mem_cons]
      exact ⟨fit forced, fits forced⟩
  | refused forced mem known unfit => exact .refused forced (List.mem_cons_of_mem _ mem) known unfit
  | idLeftOut asked_eq fits =>
      refine .idLeftOut (by rw [asked_eq, List.map_cons, List.cons_append]) fun forced => ?_
      rw [List.forall_mem_cons]
      exact ⟨fit forced, fits forced⟩

theorem admitted_admits (catalog : Catalog) (host : Host) (force : Bool) (asked : List (Option String)) :
    Admitted catalog host force asked (s.admits catalog host force asked).value := by
  induction asked with
  | nil => exact .admitted rfl fun _ => List.forall_mem_nil _
  | cons id asked ih =>
      cases id with
      | none =>
          have hasked : none :: asked = ([] : List String).map some ++ none :: asked := rfl
          exact .idLeftOut hasked fun _ => List.forall_mem_nil _
      | some id =>
          unfold admits
          split
          · rename_i hfilter
            refine ih.cons fun _ t known => ?_
            rw [Option.filter_eq_none_iff] at hfilter
            simpa using hfilter t known
          · rename_i t hfilter
            obtain ⟨known, unfit⟩ := Option.filter_eq_some_iff.mp hfilter
            split
            · rename_i forced
              exact ih.cons fun h => absurd (h.symm.trans forced) Bool.false_ne_true
            · rename_i unforced
              exact .refused (Bool.not_eq_true _ ▸ unforced) List.mem_cons_self known (by simpa using unfit)

/-! ## What is refused -/

/-- The profile of the machine the command runs on. -/
def host : Host :=
  (Host.detect s.surroundings.machine).value

/-- Why the command stops before anything is done. -/
inductive Refused (input : String) (settings : AnalyzeSettings) : Prop where
  | unread {fault : ReadFault} (read : s.readSource input = .error fault)
  | unfit {id : String} {t : Target} (forced : settings.force = false)
      (asked : some id ∈ settings.targetIds) (known : Catalog.curated.get? id = some t)
      (unfit : s.host.isCompatible t = false)
  | badTimeLimit {text : String} (set : s.surroundings.environment "SIMDMCA_TIMEOUT" = some text)
      (nonempty : text ≠ "") (noNumber : Number.readDecimal? text = none)
  | blank {source : SourceText} (read : s.readSource input = .ok source) (blank : source.IsBlank)
  | surrogate {source : SourceText} {offset : Fin 2048} (read : s.readSource input = .ok source)
      (mem : .surrogate offset ∈ source)
  | unknown {id : String} (asked : some id ∈ settings.targetIds) (stranger : id ∉ Catalog.curated.ids)

/-- What the command breaks down over before anything is done. -/
inductive Stranded (input : String) (settings : AnalyzeSettings) : Breakdown → Prop where
  /-- The name of the input is none. -/
  | nameless (nul : '\x00' ∈ input.toList) : Stranded input settings (.file .nulInName)
  /-- The input is the standard input, and the run has none. -/
  | inputClosed (dash : input = "-") (closed : s.standardInput = .error .closed) :
      Stranded input settings .inputClosed
  /-- An id is left out, and no target in front of it keeps the command from getting there. -/
  | idLeftOut {source : SourceText} {front : List String} {rest : List (Option String)}
      (read : s.readSource input = .ok source) (ids_eq : settings.ids = front.map some ++ none :: rest)
      (fits : settings.force = false → ∀ id ∈ front, Catalog.curated.Fits s.host id) :
      Stranded input settings .idLeftOut

/-- What the command goes on with when it is let through. -/
structure Passed (input : String) (settings : AnalyzeSettings) (source : SourceText) (config : Config)
    (ids : List String) : Prop where
  read : s.readSource input = .ok source
  ids_eq : settings.ids = ids.map some
  fits : settings.force = false → ∀ id ∈ ids, Catalog.curated.Fits s.host id
  config_eq : Config.ofEnvironment s.surroundings.environment s.surroundings.lookUp = .ok config
  accepted : ¬∃ r, Rejected .curated source ids r

end Session

theorem nativeId_mem_ids_curated : nativeId ∈ Catalog.curated.ids :=
  List.mem_cons_self

theorem Catalog.fits_native (host : Host) : Catalog.curated.Fits host nativeId := by
  intro t known
  have hget : Catalog.curated.get? nativeId = some nativeTarget := rfl
  rw [hget] at known
  cases known
  rfl

/-- The ids to analyse for are those that are asked for, or the native one. -/
theorem AnalyzeSettings.mem_targetIds_or_eq {settings : AnalyzeSettings} {ids : List String}
    (h : settings.ids = ids.map some) {id : String} (hid : id ∈ ids) :
    some id ∈ settings.targetIds ∨ id = nativeId := by
  have hmem : some id ∈ settings.ids := h ▸ List.mem_map_of_mem hid
  unfold AnalyzeSettings.ids at hmem
  split at hmem
  · exact .inr (Option.some.inj (List.mem_singleton.mp hmem))
  · exact .inl hmem

/-- An id that is asked for is one to analyse for. -/
theorem AnalyzeSettings.mem_of_mem_targetIds {settings : AnalyzeSettings} {ids : List String}
    (h : settings.ids = ids.map some) {id : String} (hid : some id ∈ settings.targetIds) : id ∈ ids := by
  have hmem : some id ∈ settings.ids := by
    unfold AnalyzeSettings.ids
    split
    · rename_i hempty
      rw [List.isEmpty_iff.mp hempty] at hid
      cases hid
    · exact hid
  rw [h] at hmem
  obtain ⟨i, hi, heq⟩ := List.mem_map.mp hmem
  cases heq
  exact hi

theorem AnalyzeSettings.ids_ne_nil {settings : AnalyzeSettings} {ids : List String}
    (h : settings.ids = ids.map some) : ids ≠ [] := by
  rintro rfl
  unfold AnalyzeSettings.ids at h
  split at h
  · cases h
  · rename_i hempty
    exact hempty (List.isEmpty_iff.mpr h)

namespace Session

variable {s : Session} {input : String} {settings : AnalyzeSettings}

/-- What is let through is not refused. -/
theorem Passed.not_refused {source : SourceText} {config : Config} {ids : List String}
    (h : s.Passed input settings source config ids) : ¬s.Refused input settings := by
  rintro (read | @⟨id, t, forced, asked, known, unfit⟩ | ⟨set, nonempty, noNumber⟩ | ⟨read, blank⟩ |
    ⟨read, mem⟩ | ⟨asked, stranger⟩)
  · rw [h.read] at read
    cases read
  · have hid := AnalyzeSettings.mem_of_mem_targetIds h.ids_eq asked
    rw [h.fits forced id hid t known] at unfit
    cases unfit
  · obtain ⟨e, he⟩ := (Config.exists_ofEnvironment_error_iff _ s.surroundings.lookUp).mpr
      ⟨_, set, nonempty, noNumber⟩
    rw [h.config_eq] at he
    cases he
  · rw [h.read] at read
    cases read
    exact h.accepted (exists_rejected_iff.mpr (.inl blank))
  · rw [h.read] at read
    cases read
    exact h.accepted (exists_rejected_iff.mpr (.inr (.inl ⟨_, mem⟩)))
  · have hid := AnalyzeSettings.mem_of_mem_targetIds h.ids_eq asked
    exact h.accepted (exists_rejected_iff.mpr (.inr (.inr ⟨_, hid, stranger⟩)))

/-- A request that is rejected is refused. -/
theorem refused_of_rejected {source : SourceText} {ids : List String}
    (read : s.readSource input = .ok source) (ids_eq : settings.ids = ids.map some) {r : Rejection}
    (h : Rejected .curated source ids r) : s.Refused input settings := by
  rcases exists_rejected_iff.mp ⟨r, h⟩ with blank | ⟨offset, mem⟩ | ⟨id, hid, stranger⟩
  · exact .blank read blank
  · exact .surrogate read mem
  · rcases AnalyzeSettings.mem_targetIds_or_eq ids_eq hid with asked | rfl
    · exact .unknown asked stranger
    · exact absurd nativeId_mem_ids_curated stranger

/-- What is wrong with an admission was asked for. -/
theorem refused_of_admission {id : String} {t : Target} (forced : settings.force = false)
    (mem : some id ∈ settings.ids) (known : Catalog.curated.get? id = some t)
    (unfit : s.host.isCompatible t = false) : s.Refused input settings := by
  unfold AnalyzeSettings.ids at mem
  split at mem
  · cases Option.some.inj (List.mem_singleton.mp mem)
    rw [Catalog.fits_native s.host t known] at unfit
    cases unfit
  · exact .unfit forced mem known unfit

/-! ## The ways of the command -/

/-- What becomes of a run of the command. -/
inductive Passage (s : Session) (input : String) (settings : AnalyzeSettings) : Prop where
  | stopped (refused : s.Refused input settings)
      (stopped : s.Stopped (.exited rejectedCode) (s.analyze input settings))
  | stranded {breakdown : Breakdown} (stranded : s.Stranded input settings breakdown)
  | passed {source : SourceText} {config : Config} {ids : List String}
      (passed : s.Passed input settings source config ids)

theorem stopped_tellUnread (reason : String) : s.Stopped (.exited rejectedCode) (s.tellUnread input reason) :=
  ⟨(s.only_tellUnread input reason).said, rfl⟩

/-- Where there is a NUL character in its name, the source is not read. -/
theorem readSource_of_nul (nul : '\x00' ∈ input.toList) :
    s.readSource input = .error (.unreadable .nulInName) := by
  have named : input ≠ "-" := by
    rintro rfl
    exact absurd nul (by decide)
  unfold readSource
  rw [if_neg named,
    FileSystem.read_of_nul ((Text.PathName.mem_text_ofString_iff (by decide) (by decide)).mpr nul)]

/-- What is on the standard input can be malformed, but it is there. -/
theorem readInput_cases {fault : ReadFault} (h : s.readInput = .error fault) :
    (∃ e, fault = .unreadable (.refused e)) ∨ (∃ e, fault = .malformed e) ∨
      fault = .inputClosed ∧ s.standardInput = .error .closed := by
  unfold readInput at h
  split at h
  · cases h
    exact .inl ⟨_, rfl⟩
  · rename_i closed
    cases h
    exact .inr (.inr ⟨rfl, closed⟩)
  · rename_i bytes _
    split at h
    · cases hsource : sourceOfFile bytes with
      | error e =>
          rw [hsource] at h
          cases h
          exact .inr (.inl ⟨e, rfl⟩)
      | ok source =>
          rw [hsource] at h
          cases h
    · cases h

/-- A source that is not read is refused by the system or malformed, unless its name is none or there is no standard
input. -/
theorem readSource_cases {fault : ReadFault} (h : s.readSource input = .error fault) :
    (∃ e, fault = .unreadable (.refused e)) ∨ (∃ e, fault = .malformed e) ∨
      (fault = .inputClosed ∧ input = "-" ∧ s.standardInput = .error .closed) ∨
        (fault = .unreadable .nulInName ∧ '\x00' ∈ input.toList) := by
  unfold readSource at h
  split at h
  · rename_i dash
    rcases readInput_cases h with refused | malformed | ⟨hfault, closed⟩
    · exact .inl refused
    · exact .inr (.inl malformed)
    · exact .inr (.inr (.inl ⟨hfault, dash, closed⟩))
  · cases hread : s.files.read (.ofString input) with
    | error fault' =>
        rw [hread] at h
        cases h
        rcases FileSystem.refused_or_nul_of_read hread with ⟨e, rfl⟩ | ⟨nul, rfl⟩
        · exact .inl ⟨e, rfl⟩
        · exact .inr (.inr (.inr ⟨rfl, (Text.PathName.mem_text_ofString_iff (by decide) (by decide)).mp nul⟩))
    | ok bytes =>
        rw [hread] at h
        dsimp only at h
        cases hsource : sourceOfFile bytes with
        | error e =>
            rw [hsource] at h
            cases h
            exact .inr (.inl ⟨e, rfl⟩)
        | ok source =>
            rw [hsource] at h
            cases h

/-- Without a source the command is stopped, or breaks down over what there is instead. -/
theorem passage_of_unread {fault : ReadFault} (read : s.readSource input = .error fault) :
    s.Passage input settings := by
  rcases readSource_cases read with ⟨e, rfl⟩ | ⟨e, rfl⟩ | ⟨rfl, dash, closed⟩ | ⟨rfl, nul⟩
  · refine .stopped (.unread read) ?_
    unfold analyze
    rw [read]
    exact stopped_tellUnread e.text
  · refine .stopped (.unread read) ?_
    unfold analyze
    rw [read]
    exact stopped_tellUnread e.message
  · exact .stranded (.inputClosed dash closed)
  · exact .stranded (.nameless nul)

/-- The analysis of a source with the tools that the environment leads to. -/
theorem analyzeAdmitted_of_config {source : SourceText} {ids : List String} {config : Config}
    (h : Config.ofEnvironment s.surroundings.environment s.surroundings.lookUp = .ok config) :
    s.analyzeAdmitted s.host source ids settings = (do
      Console.info s.minimal ("Using " ++ config.compiler ++ " and " ++ config.simulator)
      s.analyzeWith ⟨.curated, config, s.host⟩ source ids settings) := by
  unfold analyzeAdmitted
  rw [h]
  rfl

variable (s settings) in
/-- The check of the targets that are asked for. -/
def checkTargets : Traced Admission := do
  let host ← Host.detect s.surroundings.machine
  s.admits .curated host settings.force settings.ids

variable (s settings) in
/-- What follows the check of the targets. -/
def afterAdmission (source : SourceText) : Admission → Traced Aftermath
  | .refused => return s.exit rejectedCode
  | .idLeftOut => return s.fail .idLeftOut
  | .admitted ids => s.analyzeAdmitted s.host source ids settings

variable (s settings) in
theorem aside_checkTargets : (s.checkTargets settings).Only IsAside :=
  (Host.aside_detect _).bind (s.aside_admits ..)

variable (s settings) in
theorem only_checkTargets : (s.checkTargets settings).Only IsTalk :=
  (s.aside_checkTargets settings).talk

/-- Once the source is read the targets are checked. -/
theorem analyze_of_read {source : SourceText} (read : s.readSource input = .ok source) :
    s.analyze input settings = s.checkTargets settings >>= s.afterAdmission settings source := by
  unfold analyze checkTargets
  rw [read, bind_bind]
  refine bind_eq_of_value (bind_eq_of_value ?_)
  cases (s.admits .curated (Host.detect s.surroundings.machine).value settings.force settings.ids).value with
  | admitted ids => rfl
  | refused => rfl
  | idLeftOut => rfl

section Passed

variable {source : SourceText} {config : Config} {ids : List String}

/-- What is let through is admitted with all its ids. -/
theorem Passed.admission_eq (h : s.Passed input settings source config ids) :
    (s.checkTargets settings).value = .admitted ids := by
  have hadmitted : Admitted .curated s.host settings.force settings.ids (s.checkTargets settings).value :=
    s.admitted_admits .curated s.host settings.force settings.ids
  rw [h.ids_eq] at hadmitted
  generalize (s.checkTargets settings).value = admission at hadmitted ⊢
  cases hadmitted with
  | admitted asked_eq fits => rw [(List.map_inj_right fun _ _ => Option.some.inj).mp asked_eq]
  | @refused id t forced mem known unfit =>
      have hid : id ∈ ids := by simpa using mem
      rw [h.fits forced id hid t known] at unfit
      cases unfit
  | @idLeftOut front rest asked_eq fits =>
      have mem : none ∈ ids.map some := asked_eq ▸ List.mem_append_right _ List.mem_cons_self
      simp at mem

/-- What is let through is analysed, with a word on the targets and the tools first. -/
theorem Passed.analyze_eq (h : s.Passed input settings source config ids) :
    s.analyze input settings = (do
      let _ ← s.checkTargets settings
      Console.info s.minimal ("Using " ++ config.compiler ++ " and " ++ config.simulator)
      s.analyzeWith ⟨.curated, config, s.host⟩ source ids settings) := by
  rw [analyze_of_read h.read]
  refine bind_eq_of_value ?_
  rw [h.admission_eq, afterAdmission, analyzeAdmitted_of_config h.config_eq]

theorem Passed.value_analyze (h : s.Passed input settings source config ids) :
    (s.analyze input settings).value =
      (s.analyzeWith ⟨.curated, config, s.host⟩ source ids settings).value := by
  rw [h.analyze_eq, value_bind, value_bind]

/-- What is said before the analysis starts nothing. -/
theorem Passed.calls_analyze (h : s.Passed input settings source config ids) :
    calls (s.analyze input settings).events =
      calls (s.analyzeWith ⟨.curated, config, s.host⟩ source ids settings).events := by
  rw [h.analyze_eq, calls_bind_of_only_left (s.only_checkTargets settings),
    calls_bind_of_only_left (Console.only_info ..)]

end Passed

/-- For targets that are let through, the environment and the request decide. -/
theorem passage_of_admitted {source : SourceText} (read : s.readSource input = .ok source)
    {ids : List String} (hadmission : (s.checkTargets settings).value = .admitted ids)
    (ids_eq : settings.ids = ids.map some)
    (fits : settings.force = false → ∀ id ∈ ids, Catalog.curated.Fits s.host id) :
    s.Passage input settings := by
  have said := s.only_checkTargets settings
  cases hconfig : Config.ofEnvironment s.surroundings.environment s.surroundings.lookUp with
  | error e =>
      obtain ⟨text, set, nonempty, noNumber⟩ :=
        (Config.exists_ofEnvironment_error_iff _ s.surroundings.lookUp).mp ⟨e, hconfig⟩
      refine .stopped (.badTimeLimit set nonempty noNumber) ?_
      rw [analyze_of_read read]
      refine Stopped.bind said ?_
      rw [hadmission, afterAdmission, analyzeAdmitted, hconfig]
      exact Stopped.bind (Console.only_tagged ..) ⟨only_pure _, rfl⟩
  | ok config =>
      by_cases rejected : ∃ r, Rejected .curated source ids r
      · obtain ⟨r, rejected⟩ := rejected
        refine .stopped (refused_of_rejected read ids_eq rejected) ?_
        rw [analyze_of_read read]
        refine Stopped.bind said ?_
        rw [hadmission, afterAdmission, analyzeAdmitted_of_config hconfig]
        exact Stopped.bind (Console.only_info ..)
          (stopped_analyzeWith (AnalyzeSettings.ids_ne_nil ids_eq) rejected)
      · exact .passed ⟨read, ids_eq, fits, hconfig, rejected⟩

/-- A source that is read is followed by the check of the targets. -/
theorem passage_of_read {source : SourceText} (read : s.readSource input = .ok source) :
    s.Passage input settings := by
  have hadmitted : Admitted .curated s.host settings.force settings.ids (s.checkTargets settings).value :=
    s.admitted_admits .curated s.host settings.force settings.ids
  cases hadmission : (s.checkTargets settings).value with
  | admitted ids =>
      rw [hadmission] at hadmitted
      cases hadmitted with
      | admitted ids_eq fits => exact passage_of_admitted read hadmission ids_eq fits
  | refused =>
      rw [hadmission] at hadmitted
      cases hadmitted with
      | refused forced mem known unfit =>
          refine .stopped (refused_of_admission forced mem known unfit) ?_
          rw [analyze_of_read read]
          refine Stopped.bind (s.only_checkTargets settings) ?_
          rw [hadmission]
          exact ⟨only_pure _, rfl⟩
  | idLeftOut =>
      rw [hadmission] at hadmitted
      cases hadmitted with
      | idLeftOut ids_eq fits => exact .stranded (.idLeftOut read ids_eq fits)

variable (s input settings) in
/-- **What the command lets through.**  Every run of it is refused, breaks down, or is let through. -/
theorem passage_analyze : s.Passage input settings := by
  cases read : s.readSource input with
  | error fault => exact passage_of_unread read
  | ok source => exact passage_of_read read

/-! ## Breaking down at once -/

/-- An admission comes to an id that is left out, if the targets in front of it are let through. -/
theorem admits_of_leftOut (catalog : Catalog) (host : Host) {force : Bool} {front : List String}
    (fits : force = false → ∀ id ∈ front, catalog.Fits host id) (rest : List (Option String)) :
    (s.admits catalog host force (front.map some ++ none :: rest)).value = .idLeftOut := by
  induction front with
  | nil => rfl
  | cons id front ih =>
      have fits' : force = false → ∀ id ∈ front, catalog.Fits host id := fun forced =>
        (List.forall_mem_cons.mp (fits forced)).2
      have next : ((s.admits catalog host force (front.map some ++ none :: rest)).value.cons id) = .idLeftOut := by
        rw [ih fits']
        rfl
      rw [List.map_cons, List.cons_append]
      unfold admits
      split
      · exact next
      · rename_i t hfilter
        obtain ⟨known, unfit⟩ := Option.filter_eq_some_iff.mp hfilter
        split
        · exact next
        · rename_i unforced
          have hfit := fits (Bool.not_eq_true _ ▸ unforced) id List.mem_cons_self t known
          rw [hfit] at unfit
          cases unfit

/-- **What the command breaks down over at once**, it does break down over, and all it did before was to say
something. -/
theorem stopped_of_stranded {breakdown : Breakdown} (h : s.Stranded input settings breakdown) :
    s.Stopped (.broken breakdown) (s.analyze input settings) := by
  cases h with
  | nameless nul =>
      unfold analyze
      rw [readSource_of_nul nul]
      exact ⟨only_pure _, rfl⟩
  | inputClosed dash closed =>
      have read : s.readSource input = .error .inputClosed := by
        unfold readSource readInput
        rw [if_pos dash, closed]
      unfold analyze
      rw [read]
      exact ⟨only_pure _, rfl⟩
  | idLeftOut read ids_eq fits =>
      have hadmission : (s.checkTargets settings).value = .idLeftOut := by
        change (s.admits .curated s.host settings.force settings.ids).value = _
        rw [ids_eq]
        exact admits_of_leftOut .curated s.host fits _
      rw [analyze_of_read read]
      refine Stopped.bind (s.only_checkTargets settings) ?_
      rw [hadmission]
      exact ⟨only_pure _, rfl⟩

/-- So it does not end with a code. -/
theorem Stranded.not_exited {breakdown : Breakdown} (h : s.Stranded input settings breakdown) {code : Nat} :
    (s.analyze input settings).value.ending ≠ .exited code := by
  rw [(stopped_of_stranded h).value_eq]
  nofun

/-- What is let through does not break down at once. -/
theorem Passed.not_stranded {source : SourceText} {config : Config} {ids : List String}
    (h : s.Passed input settings source config ids) {breakdown : Breakdown} :
    ¬s.Stranded input settings breakdown := by
  rintro (nul | ⟨dash, closed⟩ | ⟨read, ids_eq, fits⟩)
  · have read := h.read
    rw [readSource_of_nul nul] at read
    cases read
  · have read := h.read
    unfold readSource readInput at read
    rw [if_pos dash, closed] at read
    cases read
  · rw [h.ids_eq] at ids_eq
    have mem : none ∈ ids.map some := ids_eq ▸ List.mem_append_right _ List.mem_cons_self
    simp at mem

/-! ## The gate -/

/-- The processes of an analysis that was let through are at work for the targets of its ids. -/
theorem exists_worksFor_of_mem_calls_analyzeWith {a : Analyzer} {source : SourceText} {ids : List String} :
    ∀ call ∈ calls (s.analyzeWith a source ids settings).events,
      ∃ id ∈ ids, ∃ t, a.catalog.get? id = some t ∧ a.WorksFor call t := by
  intro call hcall
  unfold analyzeWith at hcall
  split at hcall
  · rename_i id
    rw [calls_analyzeOne] at hcall
    exact ⟨id, List.mem_singleton_self id,
      Analyzer.exists_worksFor_of_mem_calls_analyze (s.worlds 0) id call hcall⟩
  · rw [calls_analyzeSeveral] at hcall
    split at hcall
    · cases hcall
    · exact Analyzer.exists_worksFor_of_mem_calls_analyzeMatrixAmid _ ids _ _ _ call hcall

/-- **The gate.**  The command ends with the code 2 exactly if it is refused and does not break down at once; and it does break
down over all that strands it.  In either case it only says so: it starts nothing, creates no workspace and leaves the
files as they are.  And every process it ever starts is at work for a target that was asked for and, unless it is forced,
fits the host. -/
theorem exited_two_iff_refused (s : Session) (input : String) (settings : AnalyzeSettings) :
    ((s.analyze input settings).value.ending = .exited 2 ↔
      s.Refused input settings ∧ ¬∃ breakdown, s.Stranded input settings breakdown) ∧
    (∀ breakdown, s.Stranded input settings breakdown →
      (s.analyze input settings).value.ending = .broken breakdown) ∧
    (s.Refused input settings ∨ (∃ breakdown, s.Stranded input settings breakdown) →
      (∀ e ∈ (s.analyze input settings).events, e.IsSaid) ∧
        (s.analyze input settings).value.files = s.files) ∧
    ∀ call ∈ calls (s.analyze input settings).events, ∃ config id t,
      Config.ofEnvironment s.surroundings.environment s.surroundings.lookUp = .ok config ∧
      some id ∈ settings.ids ∧ Catalog.curated.get? id = some t ∧
      (settings.force = false → s.host.isCompatible t = true) ∧
      (⟨.curated, config, s.host⟩ : Analyzer).WorksFor call t := by
  have breaks : ∀ breakdown, s.Stranded input settings breakdown →
      (s.analyze input settings).value.ending = .broken breakdown := by
    intro breakdown stranded
    rw [(stopped_of_stranded stranded).value_eq]
  -- A run that is stopped at once, with whatever ending, has done nothing.
  have idle : ∀ ending, s.Stopped ending (s.analyze input settings) →
      ((∀ e ∈ (s.analyze input settings).events, e.IsSaid) ∧
        (s.analyze input settings).value.files = s.files) ∧ calls (s.analyze input settings).events = [] := by
    intro ending stopped
    refine ⟨⟨stopped.only.of_mem, ?_⟩, calls_of_isDelivery fun e he => (stopped.only.of_mem e he).isDelivery⟩
    rw [stopped.value_eq]
  cases s.passage_analyze input settings with
  | stopped refused stopped =>
      obtain ⟨nothing, uncalled⟩ := idle _ stopped
      have hending : (s.analyze input settings).value.ending = .exited 2 := by
        rw [stopped.value_eq]
        rfl
      refine ⟨iff_of_true hending ⟨refused, ?_⟩, breaks, fun _ => nothing, fun call hcall => ?_⟩
      · rintro ⟨breakdown, stranded⟩
        rw [breaks breakdown stranded] at hending
        cases hending
      · rw [uncalled] at hcall
        cases hcall
  | @stranded breakdown stranded =>
      obtain ⟨nothing, uncalled⟩ := idle _ (stopped_of_stranded stranded)
      refine ⟨iff_of_false ?_ fun h => h.2 ⟨breakdown, stranded⟩, breaks, fun _ => nothing, fun call hcall => ?_⟩
      · rw [breaks breakdown stranded]
        nofun
      · rw [uncalled] at hcall
        cases hcall
  | @passed source config ids passed =>
      refine ⟨iff_of_false ?_ fun h => passed.not_refused h.1, breaks, ?_, fun call hcall => ?_⟩
      · have accepted : ¬∃ r, Rejected (⟨.curated, config, s.host⟩ : Analyzer).catalog source ids r :=
          passed.accepted
        have delivered : s.Delivered settings _ _ :=
          delivered_analyzeWith (AnalyzeSettings.ids_ne_nil passed.ids_eq) accepted
        rw [← passed.value_analyze] at delivered
        intro ending
        rw [ending] at delivered
        cases delivered with
        | exited code_mem => exact absurd code_mem (by decide)
      · rintro (refused | ⟨breakdown, stranded⟩)
        · exact absurd refused passed.not_refused
        · exact absurd stranded passed.not_stranded
      · rw [passed.calls_analyze] at hcall
        obtain ⟨id, hid, t, known, works⟩ := exists_worksFor_of_mem_calls_analyzeWith call hcall
        refine ⟨config, id, t, passed.config_eq, ?_, known, fun forced => passed.fits forced id hid t known, works⟩
        rw [passed.ids_eq]
        exact List.mem_map_of_mem hid

/-- A session on an x86 machine, with one file and nothing in the environment, in a world that refuses
nothing. -/
def onX86 : Session where
  surroundings :=
    { world := .obliging
      machine := .ok "x86_64"
      environment := fun _ => none
      lookUp := fun _ => none }
  files := ⟨.file "k.c" (Text.encode "f();".toList) .empty, []⟩
  standardInput := .ok []

/-- Two targets, the second of which does not fit: nothing is started for the first one either. -/
theorem exited_two_iff_refused_onX86 :
    let settings : AnalyzeSettings := { targetIds := [some "x86-haswell", some "arm-cortex-a53"] }
    onX86.Refused "k.c" settings ∧ (onX86.analyze "k.c" settings).value.ending = .exited 2 ∧
      ∀ e ∈ (onX86.analyze "k.c" settings).events, e.IsSaid := by
  intro settings
  have refused : onX86.Refused "k.c" settings := by
    refine .unfit rfl (List.mem_cons_of_mem _ List.mem_cons_self) (t := armTarget "A32" "cortex-a53") ?_ ?_
    · decide +kernel
    · decide +kernel
  have ends : (onX86.analyze "k.c" settings).value.ending = .exited 2 := by decide +kernel
  exact ⟨refused, ends, ((exited_two_iff_refused onX86 "k.c" settings).2.2.1 (.inl refused)).1⟩

/-- **Not all that is refused ends with a code.**  A blank source breaks the command down if an id is left out with it, and
so does a standard input that is not there, although there is no source then. -/
theorem broken_over_closedInput :
    (¬∀ (s : Session) (input : String) (settings : AnalyzeSettings), '\x00' ∉ input.toList →
      s.Refused input settings → (s.analyze input settings).value.ending = .exited 2) ∧
    ({ onX86 with standardInput := .error .closed }.analyze "-" {}).value.ending = .broken .inputClosed ∧
    ({ onX86 with standardInput := .ok [] }.analyze "-" { targetIds := [none] }).value.ending =
      .broken .idLeftOut := by
  have closed : ({ onX86 with standardInput := .error .closed }.analyze "-" {}).value.ending =
      .broken .inputClosed := rfl
  refine ⟨fun always => ?_, closed, by decide +kernel⟩
  have refused : { onX86 with standardInput := .error .closed }.Refused "-" {} := .unread rfl
  have ends := always _ "-" {} (by decide) refused
  rw [closed] at ends
  cases ends

end Session

end SnippetCost
