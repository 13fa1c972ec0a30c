import SnippetCost.Host

/-!
# Computations that do only what is allowed

What a computation may do to the outside is said by a predicate on events.  `Traced.Only` is proved along the
computation: what is allowed of all parts is allowed of the whole.
-/

namespace SnippetCost

namespace Traced

variable {α β : Type} {allowed : Event → Prop}

/-- Nothing happens but what is allowed. -/
structure Only (allowed : Event → Prop) (x : Traced α) : Prop where
  of_mem : ∀ e ∈ x.events, allowed e

/-- What is allowed can be widened. -/
theorem Only.mono {other : Event → Prop} {x : Traced α} (h : x.Only allowed)
    (sub : ∀ e, allowed e → other e) : x.Only other :=
  ⟨fun e he => sub e (h.of_mem e he)⟩

/-- Nothing happens without an event. -/
theorem only_pure (x : α) : (pure x : Traced α).Only allowed :=
  ⟨fun _ he => absurd he List.not_mem_nil⟩

/-- A single event is allowed or it is not. -/
theorem only_event {e : Event} (h : allowed e) : (event e).Only allowed := by
  refine ⟨fun e' he' => ?_⟩
  rw [List.mem_singleton.mp he']
  exact h

/-- Messages are logged one by one, so that it is enough to allow each. -/
theorem only_logAll {level : LogLevel} (h : ∀ message, allowed (.logged level message))
    (messages : List String) : (logAll level messages).Only allowed := by
  refine ⟨fun e he => ?_⟩
  obtain ⟨message, -, rfl⟩ := List.mem_map.mp he
  exact h message

/-- What is allowed of both parts is allowed of the whole. -/
theorem Only.bind {x : Traced α} {f : α → Traced β} (hx : x.Only allowed)
    (hf : (f x.value).Only allowed) : (x >>= f).Only allowed := by
  refine ⟨fun e he => ?_⟩
  rcases List.mem_append.mp he with he | he
  · exact hx.of_mem e he
  · exact hf.of_mem e he

/-- A part that may be left out does not matter to what comes behind it. -/
theorem Only.bindIf {c : Prop} [Decidable c] {x : Traced Unit} {f : Unit → Traced β}
    (hx : x.Only allowed) (hf : (f ()).Only allowed) : (if c then x >>= f else f ()).Only allowed := by
  split
  · exact hx.bind hf
  · exact hf

end Traced

/-- To ask the host what it is makes log messages only. -/
theorem Host.only_detect {allowed : Event → Prop} (h : ∀ level message, allowed (.logged level message))
    (answer : Except OsError String) : (Host.detect answer).Only allowed := by
  have only_log : ∀ level message, (Traced.log level message).Only allowed :=
    fun level message => Traced.only_event (h level message)
  unfold Host.detect ofMachine
  split
  · exact (only_log _ _).bind (Traced.only_pure _)
  · exact (only_log _ _).bind ((only_log _ _).bind (Traced.only_pure _))

end SnippetCost
