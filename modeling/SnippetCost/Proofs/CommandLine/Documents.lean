import SnippetCost.Proofs.CommandLine.Staging

/-!
# What the command leaves for other programs

Most of what the command says is meant for people.  For programs there are the documents: a file that is written,
and JSON on the console for results (`Event.documents`).  What is offstage is none, so the documents of a command
are those of its delivery:

* **`documents_deliver`** and **`documents_deliverAll`**: if the command gets as far as to end with a code, the
  document is in the file that was asked for, and on the console if it was asked for there.
-/

namespace SnippetCost

open Traced

/-! ## Documents -/

namespace Event

/-- Is something left for other programs? -/
def isDocument : Event → Bool
  | .shown _ (.json _) | .fileWritten _ _ => true
  | _ => false

/-- What a trace leaves for other programs. -/
def documents (events : List Event) : List Event :=
  events.filter isDocument

@[simp] theorem documents_append (xs ys : List Event) :
    documents (xs ++ ys) = documents xs ++ documents ys :=
  List.filter_append xs ys

/-- Nothing is left for other programs. -/
def IsSilent (e : Event) : Prop :=
  e.isDocument = false

theorem IsTalk.isSilent {e : Event} (h : e.IsTalk) : e.IsSilent := by
  cases e with
  | logged => rfl
  | shown stream output =>
      cases output with
      | json => exact h.elim
      | _ => rfl
  | _ => exact h.elim

theorem IsOffstage.isSilent {e : Event} (h : e.IsOffstage) : e.IsSilent := by
  cases e with
  | shown stream output =>
      cases output with
      | json => cases stream <;> exact h.elim
      | _ => rfl
  | fileWritten => exact h.elim
  | _ => rfl

theorem documents_of_isSilent {events : List Event} (h : ∀ e ∈ events, e.IsSilent) : documents events = [] := by
  rw [documents, List.filter_eq_nil_iff]
  intro e he hdocument
  rw [h e he] at hdocument
  cases hdocument

end Event

open Event

/-- Talk leaves nothing. -/
theorem Traced.Only.silent {α : Type} {x : Traced α} (h : x.Only IsTalk) : x.Only IsSilent :=
  h.mono fun _ => IsTalk.isSilent

/-- What leaves nothing may come in front. -/
theorem documents_bind_of_silent {α β : Type} {x : Traced α} {f : α → Traced β} (hx : x.Only IsSilent) :
    documents (x >>= f).events = documents (f x.value).events := by
  rw [events_bind, documents_append, documents_of_isSilent hx.of_mem, List.nil_append]

/-- A computation leaves what it comes to. -/
theorem Traced.LeadsTo.documents_eq {α : Type} {x y : Traced α} (h : x.LeadsTo y) :
    documents x.events = documents y.events := by
  obtain ⟨front, hfront, hevents⟩ := h.events_eq
  rw [hevents, documents_append, documents_of_isSilent fun e he => (hfront e he).isSilent, List.nil_append]

/-! ## Delivery -/

/-- How a document is left: in the file that is asked for, and on the console if it is asked for there. -/
def AnalyzeSettings.delivery (settings : AnalyzeSettings) (document : String) : List Event :=
  ((given? settings.output).map fun name => Event.fileWritten name (Text.encode document.toList)).toList ++
    if settings.asJson then [.shown .out (.json document)] else []

namespace Session

variable {s : Session} {settings : AnalyzeSettings} {code : Nat}

/-- A document that is saved is in the file. -/
theorem documents_save {output : Option String} {document : String}
    (h : (s.save output document).value.2 = .ok ()) : documents (s.save output document).events =
      ((given? output).map fun name => Event.fileWritten name (Text.encode document.toList)).toList := by
  rw [value_save] at h
  unfold save
  cases hname : given? output with
  | none => rfl
  | some name =>
      rw [hname] at h
      dsimp only at h ⊢
      generalize s.files.writeWithFolders (.ofString name) (Text.encode document.toList) = answer at h ⊢
      obtain ⟨files, answer⟩ := answer
      cases answer with
      | error fault => cases h
      | ok written =>
          have hsuccess : (Console.success s.minimal ("Results written to: " ++ name)).Only IsSilent :=
            (Console.only_tagged ..).silent
          dsimp only
          rw [events_bind, documents_append, documents_bind_of_silent hsuccess]
          rfl

/-- **One result is left** as its JSON text. -/
theorem documents_deliver {r : AnalysisResult} {left : Nat}
    (exited : (s.deliver settings r left).value.ending = .exited code) :
    documents (s.deliver settings r left).events = settings.delivery (r.jsonText jsonIndent) ∧
      code = successCode := by
  unfold deliver AnalyzeSettings.delivery at *
  rw [value_bind] at exited
  rw [events_bind, documents_append]
  rcases hsave : (s.save settings.output (r.jsonText jsonIndent)).value with ⟨files, fault | ⟨⟩⟩
  · rw [hsave] at exited
    cases exited
  · rw [hsave] at exited
    rw [documents_save (by rw [hsave])]
    dsimp only at exited ⊢
    cases hjson : settings.asJson with
    | true =>
        rw [hjson] at exited
        cases exited
        exact ⟨rfl, rfl⟩
    | false =>
        rw [hjson, if_neg Bool.false_ne_true, value_bind] at exited
        -- A result on the console for people is no document.
        rw [if_neg Bool.false_ne_true, if_neg Bool.false_ne_true,
          documents_bind_of_silent (s.only_showResult settings r).silent]
        cases hshown : (s.showResult settings r).value with
        | error fault =>
            rw [hshown] at exited
            cases exited
        | ok shown =>
            rw [hshown] at exited
            cases exited
            exact ⟨rfl, rfl⟩

/-- **Several outcomes are left** as one JSON text. -/
theorem documents_deliverAll {label? : String → Option String} {run : MatrixRun}
    (exited : (s.deliverAll settings label? run).value.ending = .exited code) :
    documents (s.deliverAll settings label? run).events = settings.delivery (outcomesText run.outcomes) ∧
      code = exitCodeOf run.outcomes := by
  unfold deliverAll at exited ⊢
  dsimp only at exited ⊢
  by_cases hasked : (settings.asJson || (given? settings.output).isSome) = true
  · rw [if_pos hasked] at exited ⊢
    rw [value_bind] at exited
    rw [events_bind, documents_append]
    rcases hsave : (s.save settings.output (outcomesText run.outcomes)).value with ⟨files, fault | ⟨⟩⟩
    · rw [hsave] at exited
      cases exited
    · rw [hsave] at exited
      rw [documents_save (by rw [hsave])]
      unfold AnalyzeSettings.delivery
      cases hjson : settings.asJson with
      | false =>
          rw [hjson] at exited
          cases exited
          exact ⟨rfl, rfl⟩
      | true =>
          rw [hjson] at exited
          cases exited
          exact ⟨rfl, rfl⟩
  · rw [if_neg hasked] at exited ⊢
    rw [Bool.or_eq_true, not_or] at hasked
    obtain ⟨hjson, houtput⟩ := hasked
    rw [Option.not_isSome_iff_eq_none] at houtput
    cases exited
    refine ⟨?_, rfl⟩
    unfold AnalyzeSettings.delivery
    rw [houtput, if_neg hjson]
    rfl

end Session

end SnippetCost
