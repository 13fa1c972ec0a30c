import SnippetCost.Proofs.Analysis.Rejection
import SnippetCost.Proofs.Snippet.Preamble
import SnippetCost.Proofs.Text.Utf8

/-!
# What the compiler is given

When the compiler is started, the file it is to compile holds the preamble of the target and then the source as it was
handed in, in every world and whatever the target.

* **`Analyzer.content?_of_compile`**: the bytes of the file.
* **`Analyzer.compiled_verbatim`**: they give the preamble and the source back, so different sources make different
  files.

What the compiler makes of the file is for the world to say.
-/

namespace SnippetCost

open Event SnippetCost.Text

/-! ## The source -/

/-- A source that is accepted is taken character by character. -/
theorem source_eq_of_acceptSource {source : SourceText} {code : String} (h : acceptSource source = .ok code) :
    source = code.toList.map .scalar := by
  unfold acceptSource at h
  split at h
  · cases h
  rcases source.scalars_or_surrogate with ⟨cs, rfl⟩ | ⟨position, first⟩
  · rw [SourceText.chars_scalars] at h
    obtain rfl := Except.ok.inj h
    rw [String.toList_ofList]
  · rw [first.chars_eq] at h
    cases h

/-! ## The file -/

/-- A file that was written holds what was written. -/
theorem World.content?_of_writeFile {w : World} {ws ws' : Workspace} {location name : String} {content : List UInt8}
    (h : w.writeFile ws location name content = .ok ws') : ws'.content? name = some content := by
  unfold writeFile Workspace.write at h
  split at h
  · cases h
  split at h
  · cases h
  split at h
  · cases h
  · obtain rfl := Except.ok.inj h
    simp [Workspace.content?]

namespace Analyzer

variable {a : Analyzer} {w : World} {t : Target} {code : String}

/-- A workspace that is set up holds the compilation unit. -/
theorem Prepared.content? {ws : Workspace} (h : a.Prepared w t code ws) :
    ws.content? sourceName = some (encode (t.compose a.host.family code).toList) := by
  obtain ⟨fresh, -, hwrite⟩ := h
  exact World.content?_of_writeFile hwrite

/-- The compiler is started in a workspace that is set up. -/
theorem Course.prepared_of_compile {started : List Call} {outcome : Outcome}
    (h : a.Course w t code started outcome) {call : Call} (hcall : call ∈ started)
    (compiles : call.argv = a.compileCommand t) : a.Prepared w t code call.workspace := by
  have of_mem : ∀ {ws₁ ws₂ : Workspace}, a.Prepared w t code ws₁ →
      call ∈ [a.compileCall t ws₁, a.simulateCall t ws₂] → a.Prepared w t code call.workspace := by
    intro ws₁ ws₂ prepared hmem
    rcases List.mem_pair.mp hmem with rfl | rfl
    · exact prepared
    · exact absurd compiles simulateCommand_ne_compileCommand
  cases h with
  | nameless | unprepared => cases hcall
  | withoutCompiler prepared | uncompiled prepared =>
      obtain rfl := List.mem_singleton.mp hcall
      exact prepared
  | withoutSimulator prepared | unsimulated prepared | finished prepared => exact of_mem prepared hcall

/-- What the file holds when the compiler is started. -/
theorem content?_of_compile {request : Request} (accepted : acceptSource request.source = .ok code) {call : Call}
    (started : call ∈ calls (a.run w request).events) (compiles : call.argv = a.compileCommand request.target) :
    call.workspace.content? sourceName = some (encode (request.target.compose a.host.family code).toList) :=
  ((course_run accepted).prepared_of_compile started compiles).content?

/-- A target is for another platform if it names one. -/
theorem isCross_iff : t.isCross = true ↔ ∃ triple, t.crossTriple = some triple ∧ triple ≠ "" := by
  unfold Target.isCross given?
  rw [Option.isSome_filter, Option.any_eq_true]
  simp

/-- **The compiler sees the source as it is.**  A source that is accepted is characters only.  Whenever the compiler
is started, its file holds the UTF-8 form of the preamble and these characters, and is read back as just them.  The
preamble depends on the platform and the architecture alone, ends a line, and includes the headers of the one and of
the other.  So on one host and for one target, no two sources make the same file. -/
theorem compiled_verbatim {request : Request} (accepted : acceptSource request.source = .ok code) (a : Analyzer)
    (w : World) :
    let arch := if request.target.nativeAuto then a.host.family else request.target.arch
    let front := preamble request.target.isCross arch
    request.source = code.toList.map .scalar ∧
    front.toList.getLast? = some '\n' ∧
    (request.target.isCross = true ↔ ∃ triple, request.target.crossTriple = some triple ∧ triple ≠ "") ∧
    HeaderLines request.target.isCross arch (includeLines front) ∧
    ∀ call ∈ calls (a.run w request).events, call.argv = a.compileCommand request.target →
      (∃ bytes, call.workspace.content? "input.cpp" = some bytes ∧
        bytes = (front.toList ++ code.toList).flatMap String.utf8EncodeChar ∧
        decodeStrict bytes = .ok (front.toList ++ code.toList)) ∧
      ∀ (a' : Analyzer) (w' : World) (request' : Request) (code' : String),
        acceptSource request'.source = .ok code' → a'.host.family = a.host.family →
        request'.target = request.target → request'.source ≠ request.source →
        ∀ call' ∈ calls (a'.run w' request').events, call'.argv = a'.compileCommand request'.target →
          call'.workspace.content? "input.cpp" ≠ call.workspace.content? "input.cpp" := by
  intro arch front
  refine ⟨source_eq_of_acceptSource accepted, getLast?_preamble _ _, isCross_iff, headerLines_preamble _ _, ?_⟩
  intro call started compiles
  have hcontent := content?_of_compile accepted started compiles
  constructor
  · -- The architecture of the statement is the effective one.
    change call.workspace.content? "input.cpp" = some (encode (front ++ code).toList) at hcontent
    refine ⟨_, hcontent, ?_, ?_⟩
    · rw [encode_eq_flatMap_utf8EncodeChar, String.toList_append]
    · rw [decodeStrict_encode, String.toList_append]
  · intro a' w' request' code' accepted' hhost htarget hsource call' started' compiles' hsame
    have hcontent' := content?_of_compile accepted' started' compiles'
    have hbytes := Option.some.inj ((hcontent'.symm.trans hsame).trans hcontent)
    have htext := encode_injective hbytes
    rw [hhost, htarget, Target.compose, Target.compose, String.toList_append, String.toList_append] at htext
    apply hsource
    rw [source_eq_of_acceptSource accepted', source_eq_of_acceptSource accepted, List.append_cancel_left htext]

/-- What the compiler sees of a source of one call, on a host of the x86 family. -/
theorem compiled_verbatim_generic :
    acceptSource Request.generic.source = .ok "f();" ∧
      includeLines (preamble false .x86) =
        ["#include <stddef.h>", "#include <stdint.h>", "#include <immintrin.h>"] ∧
      ∃ call ∈ calls (Analyzer.generic.run .talkative .generic).events,
        call.argv = Analyzer.generic.compileCommand .generic ∧
          ∃ bytes, call.workspace.content? "input.cpp" = some bytes ∧
            decodeStrict bytes = .ok ((preamble false .x86).toList ++ "f();".toList) := by
  obtain ⟨-, -, -, headers, hfile⟩ := compiled_verbatim acceptSource_generic .generic .talkative
  obtain ⟨call, started, compiles⟩ : ∃ call ∈ calls (Analyzer.generic.run .talkative .generic).events,
      call.argv = Analyzer.generic.compileCommand .generic := by
    decide +kernel
  obtain ⟨⟨bytes, hbytes, -, hread⟩, -⟩ := hfile call started compiles
  exact ⟨acceptSource_generic, headers.unique (.hosted .x86), call, started, compiles, bytes, hbytes, hread⟩

end Analyzer

end SnippetCost
