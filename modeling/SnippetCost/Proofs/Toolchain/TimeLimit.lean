import SnippetCost.Proofs.Number.Border
import SnippetCost.Proofs.Target.Admission
import SnippetCost.Toolchain.Config

/-!
# The time limit that an environment sets

A text for the time limit that is no decimal is refused.  Every decimal is taken, and it is not asked whether a process
can be given so many seconds.

* **`Config.limited_ofEnvironment`**: what becomes of the setting, for every environment and lookup, and when a limit
  that was taken can be used;
* **`Config.ofEnvironment_unusable`**: an undefined number, an infinite one, one that is too large, one below zero and
  zero are all taken.

What becomes of a call with a limit that cannot be used is not said here (`Seconds.exists_fault?_of_overlong`).
-/

namespace SnippetCost

open Number

/-- The environment, or a lookup, has something for the name, and not the empty text. -/
def Gives (answers : String → Option String) (name text : String) : Prop :=
  answers name = some text ∧ text ≠ ""

/-- What is left when empty texts are dropped is what is given. -/
theorem filter_eq_some_iff_gives {answers : String → Option String} {name text : String} :
    (answers name).filter (· != "") = some text ↔ Gives answers name text :=
  given?_eq_some_iff

/-- Nothing is left exactly if nothing is given. -/
theorem filter_eq_none_iff_gives {answers : String → Option String} {name : String} :
    (answers name).filter (· != "") = none ↔ ∀ text, ¬Gives answers name text := by
  rw [Option.eq_none_iff_forall_ne_some]
  exact forall_congr' fun text => not_congr filter_eq_some_iff_gives

namespace Config

/-! ## How an environment is read -/

/-- The configuration of an environment with this time limit. -/
def limitedTo (environment lookUp : String → Option String) (seconds : Binary64) : Config where
  compiler := executable (environment "SIMDMCA_CLANG") lookUp .compiler
  simulator := executable (environment "SIMDMCA_LLVM_MCA") lookUp .simulator
  timeLimit := seconds

/-- Its time limit is the one that was asked for. -/
@[simp] theorem timeLimit_limitedTo (environment lookUp : String → Option String) (seconds : Binary64) :
    (limitedTo environment lookUp seconds).timeLimit = seconds := rfl

/-- The usual limit can be used. -/
theorem isFinite_and_isPositive_thirtySeconds :
    thirtySeconds.isFinite = true ∧ thirtySeconds.isPositive = true := by
  decide +kernel

/-- The ways in which an environment is read. -/
inductive Read (environment lookUp : String → Option String) : Except BadTimeLimit Config → Prop where
  | unset (unset : ∀ text, ¬Gives environment "SIMDMCA_TIMEOUT" text) :
      Read environment lookUp (.ok (limitedTo environment lookUp thirtySeconds))
  | number {text : String} {seconds : Binary64} (set : Gives environment "SIMDMCA_TIMEOUT" text)
      (number : readDecimal? text = some seconds) :
      Read environment lookUp (.ok (limitedTo environment lookUp seconds))
  | strange {text : String} (set : Gives environment "SIMDMCA_TIMEOUT" text)
      (strange : readDecimal? text = none) : Read environment lookUp (.error ⟨text⟩)

/-- Every environment is read in one of these ways. -/
theorem read_ofEnvironment (environment lookUp : String → Option String) :
    Read environment lookUp (ofEnvironment environment lookUp) := by
  unfold ofEnvironment
  dsimp only
  cases hset : (environment "SIMDMCA_TIMEOUT").filter (· != "") with
  | none => exact .unset (filter_eq_none_iff_gives.mp hset)
  | some text =>
      have set := filter_eq_some_iff_gives.mp hset
      dsimp only
      cases hread : readDecimal? text with
      | none => exact .strange set hread
      | some seconds => exact .number set hread

/-- A configuration cannot be read off an environment exactly if the time limit is there and no number. -/
theorem exists_ofEnvironment_error_iff (environment lookUp : String → Option String) :
    (∃ e, ofEnvironment environment lookUp = .error e) ↔
      ∃ text, environment "SIMDMCA_TIMEOUT" = some text ∧ text ≠ "" ∧ readDecimal? text = none := by
  cases read : ofEnvironment environment lookUp with
  | error e =>
      cases read ▸ read_ofEnvironment environment lookUp with
      | strange set strange => exact iff_of_true ⟨_, rfl⟩ ⟨_, set.1, set.2, strange⟩
  | ok config =>
      refine iff_of_false nofun ?_
      rintro ⟨text, there, nonempty, strange⟩
      cases read ▸ read_ofEnvironment environment lookUp with
      | unset unset => exact unset text ⟨there, nonempty⟩
      | number set number =>
          cases set.1.symm.trans there
          cases strange.symm.trans number

/-! ## Limits that can be used -/

/-- The time limit is a finite number above zero. -/
def Usable (c : Config) : Prop :=
  c.timeLimit.isFinite = true ∧ c.timeLimit.isPositive = true

/-- Both parts are tests. -/
instance (c : Config) : Decidable c.Usable :=
  inferInstanceAs (Decidable (_ ∧ _))

/-- What becomes of the setting of the time limit. -/
inductive Limited (environment : String → Option String) : Except BadTimeLimit Config → Prop where
  /-- Nothing is set: the limit is the usual one. -/
  | unset {config : Config} (unset : ∀ text, ¬Gives environment "SIMDMCA_TIMEOUT" text)
      (usual : config.timeLimit = thirtySeconds) (usable : config.Usable) : Limited environment (.ok config)
  /-- A decimal is set: its number is the limit, and can be used if it is in range and has no minus sign. -/
  | taken {config : Config} {text : String} {negative : Bool} {d : Decimal}
      (set : Gives environment "SIMDMCA_TIMEOUT" text) (spelled : Spells text.toList negative d)
      (limit : config.timeLimit = d.nearest negative)
      (usable_iff : config.Usable ↔ negative = false ∧ ∃ n : Numeral, d = .numeral n ∧ n.InRange) :
      Limited environment (.ok config)
  /-- Something else is set: it is refused, and told. -/
  | refused {text : String} (set : Gives environment "SIMDMCA_TIMEOUT" text)
      (strange : ¬∃ negative d, Spells text.toList negative d) : Limited environment (.error ⟨text⟩)

/-- Each way of reading leaves the setting in one of these states. -/
theorem Read.limited {environment lookUp : String → Option String} {outcome : Except BadTimeLimit Config}
    (h : Read environment lookUp outcome) : Limited environment outcome := by
  cases h with
  | unset unset =>
      refine .unset unset (timeLimit_limitedTo _ _ _) ?_
      rw [Usable, timeLimit_limitedTo]
      exact isFinite_and_isPositive_thirtySeconds
  | number set number =>
      obtain ⟨negative, d, spelled, rfl⟩ := readDecimal?_eq_some_iff.mp number
      exact .taken set spelled (timeLimit_limitedTo _ _ _) (Decimal.isFinite_and_isPositive_nearest_iff negative d)
  | strange set strange => exact .refused set (readDecimal?_eq_none_iff.mp strange)

/-- **What becomes of the time limit**, for every environment and lookup. -/
theorem limited_ofEnvironment (environment lookUp : String → Option String) :
    Limited environment (ofEnvironment environment lookUp) :=
  (read_ofEnvironment environment lookUp).limited

/-- An environment in which the time limit is set and nothing else. -/
def limitSet (text name : String) : Option String :=
  if name = "SIMDMCA_TIMEOUT" then some text else none

/-- **Decimals that are no time limits are taken.** -/
theorem ofEnvironment_unusable :
    (["nan", "inf", "1e999", "-1", "0"].map fun text =>
        (ofEnvironment (limitSet text) fun _ => none).map fun config => decide config.Usable) =
      List.replicate 5 (.ok false) := by
  decide +kernel

end Config

end SnippetCost
