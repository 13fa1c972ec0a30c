import SnippetCost.Proofs.Analysis.Diagnosis

/-!
# What a tool said before it failed

The diagnostic of a failed tool is one of the two streams it wrote.  A process that exited is represented by the stream
with something to see on it, so nothing visible is lost.  A process that was stopped is represented by the stream for
errors as soon as there is a byte on it: if that is all blank, what stands on the other stream is lost.

* **`dropped_iff_hides`**: for every failed run with a process, that this is the one case.
* **`not_visible_stalling`**: and there is such a run.
-/

namespace SnippetCost

open Event SnippetCost.Text

/-- What a process that was stopped had written on a stream, if it had one. -/
def keptText (bytes : Option (List UInt8)) : String :=
  String.ofList (decodeReplacing (bytes.getD []))

namespace Ending

/-- The two streams of a process that was started, the one for errors last. -/
def streams? : Ending → Option (String × String)
  | .refused _ | .unstarted _ => none
  | .expired out err => some (keptText out, keptText err)
  | .exited _ out err => some (capturedText out, capturedText err)

/-- A process was stopped that had written something visible on one stream, and on the one for errors only blanks. -/
def Hides : Ending → Prop
  | .expired out err => IsVisible (keptText out) ∧ err.getD [] ≠ [] ∧ ¬IsVisible (keptText err)
  | _ => False

/-- What is told of a process that exited is one of its streams, and visible if one of them is. -/
theorem output_ofOutput (o : ToolOutput) :
    ((ExitInfo.ofOutput o).output = o.out ∨ (ExitInfo.ofOutput o).output = o.err) ∧
      (IsVisible (ExitInfo.ofOutput o).output ↔ IsVisible o.out ∨ IsVisible o.err) := by
  unfold ExitInfo.ofOutput
  by_cases visible : IsVisible o.err
  · have hblank : isBlankText o.err = false := isBlankText_eq_false_iff.mpr visible
    simp [hblank, visible]
  · have hblank : isBlankText o.err = true := isBlankText_iff.mpr visible
    simp [hblank, visible]

/-- There is nothing to see in an empty stream. -/
theorem not_isVisible_of_empty {bytes : Option (List UInt8)} (h : bytes.getD [] = []) :
    ¬IsVisible (keptText bytes) := by
  unfold keptText
  rw [h]
  rintro ⟨c, hc, -⟩
  rw [String.toList_ofList] at hc
  cases hc

/-- What is told of a process that was stopped is the stream for errors, or the other one if that is empty. -/
theorem capturedBeforeExpiry_eq (out err : Option (List UInt8)) :
    capturedBeforeExpiry out err = if err.getD [] = [] then keptText out else keptText err := by
  unfold capturedBeforeExpiry keptText
  simp only [List.isEmpty_iff]
  split
  · rfl
  · rfl

/-- So it is one of its streams, and of two of which one is visible it is the blank one in one case. -/
theorem capturedBeforeExpiry_cases (out err : Option (List UInt8)) :
    (capturedBeforeExpiry out err = keptText out ∨ capturedBeforeExpiry out err = keptText err) ∧
      ((IsVisible (keptText out) ∨ IsVisible (keptText err)) ∧ ¬IsVisible (capturedBeforeExpiry out err) ↔
        (Ending.expired out err).Hides) := by
  rw [capturedBeforeExpiry_eq]
  by_cases empty : err.getD [] = []
  · have hidden := not_isVisible_of_empty empty
    simp [Hides, empty, hidden]
  · rw [if_neg empty]
    refine ⟨.inr rfl, ?_⟩
    constructor
    · rintro ⟨visible, hidden⟩
      exact ⟨visible.resolve_right hidden, empty, hidden⟩
    · rintro ⟨visible, -, hidden⟩
      exact ⟨.inl visible, hidden⟩

variable {ending : Ending} {argv : List String} {out err : String}

/-- **What is told of a process that was started** is one of its streams; a visible one is lost in one case. -/
theorem output_exitInfo (h : ending.streams? = some (out, err)) :
    ((ending.exitInfo argv).output = out ∨ (ending.exitInfo argv).output = err) ∧
      ((IsVisible out ∨ IsVisible err) ∧ ¬IsVisible (ending.exitInfo argv).output ↔ ending.Hides) := by
  cases ending with
  | refused fault => cases h
  | unstarted e => cases h
  | expired before beforeErr =>
      cases h
      exact capturedBeforeExpiry_cases before beforeErr
  | exited status bytes bytesErr =>
      cases h
      obtain ⟨hcases, hvisible⟩ := output_ofOutput ⟨argv, status, capturedText bytes, capturedText bytesErr⟩
      refine ⟨hcases, iff_of_false ?_ id⟩
      rintro ⟨visible, hidden⟩
      exact hidden (hvisible.mpr visible)

end Ending

namespace Analyzer

variable {code : String}

/-- **Of a tool that was started and failed, one stream is told as it was captured.**  Something visible is lost exactly if
the tool was stopped with only blanks on the stream for errors, and with something visible on the other one. -/
theorem dropped_iff_hides {a : Analyzer} {w : World} {request : Request}
    (accepted : acceptSource request.source = .ok code) {fault : Fault}
    (failed : (a.run w request).value.outcome = .error (.failed fault)) {call : Call}
    (last : (calls (a.run w request).events).getLast? = some call) {out err : String}
    (streams : (w.ending call).streams? = some (out, err)) :
    (fault.failure.diagnostic = out ∨ fault.failure.diagnostic = err) ∧
      ((IsVisible out ∨ IsVisible err) ∧ ¬IsVisible fault.failure.diagnostic ↔ (w.ending call).Hides) := by
  rw [diagnostic_eq_output ((failed_run accepted failed).exitInfo_eq last)]
  exact Ending.output_exitInfo streams

/-- The failure of a compiler that is stopped with these streams. -/
def stalled (out err : Option (List UInt8)) : Fault :=
  .expired .compile Analyzer.generic.limit (Analyzer.generic.compileCommand .generic) (capturedBeforeExpiry out err)

/-- A compiler that is stopped with nothing on the stream for errors tells what it said on the other one. -/
theorem dropped_iff_hides_silent :
    let w := World.uniform (.expired (some (encode "no".toList)) none)
    acceptSource Request.generic.source = .ok "f();" ∧
      ∃ fault, (Analyzer.generic.run w .generic).value.outcome = .error (.failed fault) ∧
        ∃ call, (calls (Analyzer.generic.run w .generic).events).getLast? = some call ∧
          (w.ending call).streams? = some ("no", "") ∧ IsVisible fault.failure.diagnostic := by
  intro w
  have failed : (Analyzer.generic.run w .generic).value.outcome =
      .error (.failed (stalled (some (encode "no".toList)) none)) := by
    decide +kernel
  have last : ∃ call ∈ (calls (Analyzer.generic.run w .generic).events).getLast?,
      w.ending call = .expired (some (encode "no".toList)) none := by
    decide +kernel
  obtain ⟨call, last, ending⟩ := last
  have streams : (w.ending call).streams? = some ("no", "") := by
    rw [ending]
    decide
  have hides := (dropped_iff_hides acceptSource_generic failed last streams).2
  have visible : IsVisible "no" := ⟨'n', by decide, by decide⟩
  refine ⟨acceptSource_generic, _, failed, call, last, streams, ?_⟩
  refine Classical.byContradiction fun hidden => ?_
  rw [ending] at hides
  obtain ⟨-, nonempty, -⟩ := hides.mp ⟨.inl visible, hidden⟩
  exact nonempty rfl

/-- **An empty line on the stream for errors hides what a stopped compiler said on the other one.** -/
theorem not_visible_stalling :
    let w := World.uniform (.expired (some (encode "no".toList)) (some (encode "\n".toList)))
    acceptSource Request.generic.source = .ok "f();" ∧
      ∃ fault, (Analyzer.generic.run w .generic).value.outcome = .error (.failed fault) ∧
        fault.failure.stage = .compile ∧
        ∃ call, (calls (Analyzer.generic.run w .generic).events).getLast? = some call ∧
          (w.ending call).streams? = some ("no", "\n") ∧ IsVisible "no" ∧
          fault.failure.diagnostic = "\n" ∧ ¬IsVisible fault.failure.diagnostic := by
  intro w
  have failed : (Analyzer.generic.run w .generic).value.outcome =
      .error (.failed (stalled (some (encode "no".toList)) (some (encode "\n".toList)))) := by
    decide +kernel
  have last : ∃ call ∈ (calls (Analyzer.generic.run w .generic).events).getLast?,
      (w.ending call).streams? = some ("no", "\n") := by
    decide +kernel
  obtain ⟨call, last, streams⟩ := last
  refine ⟨acceptSource_generic, _, failed, rfl, call, last, streams, ⟨'n', by decide, by decide⟩, by decide, ?_⟩
  rw [← isBlankText_eq_false_iff]
  decide

end Analyzer

end SnippetCost
