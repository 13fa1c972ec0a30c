import SnippetCost.Proofs.Target.Admission
import SnippetCost.Snippet.Composition

/-!
# What the tools are told of a target

The compiler is told of a target's CPU by one option with a value, the simulator by a value.  Both follow from which of
its names the target gives (`Target.Told`); an admissible target gives one, or is the native one.

* **`Target.Admissible.exists_told`**: so every admissible target is told to both tools.
* **`Catalog.wellTold_of_mem`**: what that means for the command lines of the targets of a catalog.

That a tool knows the CPU it is told is not said here.
-/

namespace SnippetCost

/-- Nothing is given if there is no text, or an empty one. -/
theorem given?_eq_none_iff {text : Option String} : given? text = none ↔ ∀ s, s ≠ "" → text ≠ some s := by
  rw [Option.eq_none_iff_forall_ne_some]
  refine forall_congr' fun s => ?_
  rw [Ne, given?_eq_some_iff, not_and']

/-! ## Options that choose a CPU -/

/-- Does an argument choose a CPU for the compiler? -/
def choosesCpu (argument : String) : Bool :=
  "-march=".toList.isPrefixOf argument.toList || "-mcpu=".toList.isPrefixOf argument.toList

/-- The option for an architecture chooses a CPU. -/
theorem choosesCpu_march (value : String) : choosesCpu ("-march=" ++ value) = true := by
  simp [choosesCpu]

/-- So does the option for a CPU. -/
theorem choosesCpu_mcpu (value : String) : choosesCpu ("-mcpu=" ++ value) = true := by
  simp [choosesCpu]

/-- A triple does not. -/
theorem choosesCpu_target (triple : String) : choosesCpu ("--target=" ++ triple) = false := by
  simp [choosesCpu, List.isPrefixOf]

/-- Nor does any of the options for a unit that stands on its own. -/
theorem not_choosesCpu_of_mem_freestandingFlags {flag : String} (h : flag ∈ Target.freestandingFlags) :
    choosesCpu flag = false := by
  rcases List.mem_pair.mp h with rfl | rfl <;> decide

/-- An option that chooses a CPU does not choose a platform. -/
theorem not_target_of_choosesCpu {flag : String} (h : choosesCpu flag = true) : ¬"--target=".toList <+: flag.toList := by
  rintro ⟨rest, hflag⟩
  rw [choosesCpu, ← hflag] at h
  simp at h

namespace Target

/-! ## Names and options -/

/-- By which option and value the compiler is told of a target, and by which value the simulator. -/
inductive Told (t : Target) (host : ArchFamily) : (option value cpu : String) → Prop where
  | native (native : t.nativeAuto = true) :
      Told t host (if host = .x86 then "-march=" else "-mcpu=") nativeCpu nativeCpu
  | both {arch cpu : String} (explicit : t.nativeAuto = false) (harch : given? t.compileArch = some arch)
      (hcpu : given? t.simulatorCpu = some cpu) : Told t host "-march=" arch cpu
  | archOnly {arch : String} (explicit : t.nativeAuto = false) (harch : given? t.compileArch = some arch)
      (hcpu : given? t.simulatorCpu = none) : Told t host "-march=" arch arch
  | cpuOnly {cpu : String} (explicit : t.nativeAuto = false) (harch : given? t.compileArch = none)
      (hcpu : given? t.simulatorCpu = some cpu) : Told t host "-mcpu=" cpu cpu

variable {t : Target} {host : ArchFamily} {option value cpu : String}

/-- **Every admissible target is told to both tools.** -/
theorem Admissible.exists_told (h : t.Admissible) (host : ArchFamily) :
    ∃ option value cpu, t.Told host option value cpu := by
  cases native : t.nativeAuto with
  | true => exact ⟨_, _, _, .native native⟩
  | false =>
      cases harch : given? t.compileArch with
      | some arch =>
          cases hcpu : given? t.simulatorCpu with
          | some cpu => exact ⟨_, _, _, .both native harch hcpu⟩
          | none => exact ⟨_, _, _, .archOnly native harch hcpu⟩
      | none =>
          -- Without the one name there is the other, or the target would not be admissible.
          obtain ⟨cpu, hne, hname | hname⟩ := h.explicit_iff.mpr native
          · exact absurd hname (given?_eq_none_iff.mp harch cpu hne)
          · exact ⟨_, _, _, .cpuOnly native harch (given?_eq_some_iff.mpr ⟨hname, hne⟩)⟩

namespace Told

/-- The option for the compiler is the one that was told. -/
theorem archFlag_eq (h : t.Told host option value cpu) : t.archFlag host = option ++ value := by
  unfold archFlag
  cases h with
  | native native => rw [if_pos native]
  | both explicit harch | archOnly explicit harch => simp [explicit, harch]
  | cpuOnly explicit harch hcpu => simp [explicit, harch, (given?_eq_some_iff.mp hcpu).1, cpuText]

/-- The CPU for the simulator is the one that was told. -/
theorem simulatedCpu_eq (h : t.Told host option value cpu) : t.simulatedCpu = some cpu := by
  unfold simulatedCpu
  cases h with
  | native native => rw [if_pos native]
  | both explicit _ hcpu | cpuOnly explicit _ hcpu => simp [explicit, hcpu]
  | archOnly explicit harch hcpu => simp [explicit, hcpu, (given?_eq_some_iff.mp harch).1]

/-- There are two ways to name a CPU to the compiler. -/
theorem option_eq (h : t.Told host option value cpu) : option = "-march=" ∨ option = "-mcpu=" := by
  cases h with
  | native => exact ite_eq_or_eq ..
  | both | archOnly => exact .inl rfl
  | cpuOnly => exact .inr rfl

/-- Both of them choose it. -/
theorem choosesCpu_eq (h : t.Told host option value cpu) : choosesCpu (option ++ value) = true := by
  rcases h.option_eq with rfl | rfl
  · exact choosesCpu_march value
  · exact choosesCpu_mcpu value

/-- The values are not empty, and there is no other source of them than the target and the name of the native CPU. -/
theorem value_and_cpu (h : t.Told host option value cpu) :
    (value ≠ "" ∧ (t.nativeAuto = true ∧ value = nativeCpu ∨ t.compileArch = some value ∨ t.simulatorCpu = some value)) ∧
      cpu ≠ "" ∧ (t.nativeAuto = true ∧ cpu = nativeCpu ∨ t.compileArch = some cpu ∨ t.simulatorCpu = some cpu) := by
  cases h with
  | native native => exact ⟨⟨by decide, .inl ⟨native, rfl⟩⟩, by decide, .inl ⟨native, rfl⟩⟩
  | both _ harch hcpu =>
      obtain ⟨harch, arch_ne⟩ := given?_eq_some_iff.mp harch
      obtain ⟨hcpu, cpu_ne⟩ := given?_eq_some_iff.mp hcpu
      exact ⟨⟨arch_ne, .inr (.inl harch)⟩, cpu_ne, .inr (.inr hcpu)⟩
  | archOnly _ harch =>
      obtain ⟨harch, arch_ne⟩ := given?_eq_some_iff.mp harch
      exact ⟨⟨arch_ne, .inr (.inl harch)⟩, arch_ne, .inr (.inl harch)⟩
  | cpuOnly _ _ hcpu =>
      obtain ⟨hcpu, cpu_ne⟩ := given?_eq_some_iff.mp hcpu
      exact ⟨⟨cpu_ne, .inr (.inr hcpu)⟩, cpu_ne, .inr (.inr hcpu)⟩

/-- For the native CPU both tools are told the same word, and the host says in which way. -/
theorem of_native (h : t.Told host option value cpu) (native : t.nativeAuto = true) :
    value = nativeCpu ∧ cpu = nativeCpu ∧ (option = "-march=" ↔ host = .x86) := by
  cases h with
  | native =>
      refine ⟨rfl, rfl, ?_⟩
      split
      · next x86 => exact iff_of_true rfl x86
      · next other => exact iff_of_false (by decide) other
  | both explicit | archOnly explicit | cpuOnly explicit =>
      rw [explicit] at native
      cases native

/-- Unless the target gives two names that differ, both tools are told the same. -/
theorem cpu_eq_value (h : t.Told host option value cpu)
    (same : ∀ arch name, arch ≠ "" → name ≠ "" → t.compileArch = some arch → t.simulatorCpu = some name → arch = name) :
    cpu = value := by
  cases h with
  | native | archOnly | cpuOnly => rfl
  | both _ harch hcpu =>
      obtain ⟨harch, arch_ne⟩ := given?_eq_some_iff.mp harch
      obtain ⟨hcpu, cpu_ne⟩ := given?_eq_some_iff.mp hcpu
      exact (same _ _ arch_ne cpu_ne harch hcpu).symm

end Told

/-! ## Command lines -/

/-- For another machine the triple comes first, and the options of a unit on its own come last. -/
theorem compileFlags_of_cross {triple : String} (cross : given? t.crossTriple = some triple) (host : ArchFamily) :
    t.compileFlags host = ("--target=" ++ triple) :: t.archFlag host :: freestandingFlags := by
  unfold compileFlags
  rw [cross]

/-- On the machine itself the one option is all. -/
theorem compileFlags_of_hosted (hosted : given? t.crossTriple = none) (host : ArchFamily) :
    t.compileFlags host = [t.archFlag host] := by
  unfold compileFlags
  rw [hosted]

/-- Of the compiler's options one chooses a CPU. -/
theorem filter_choosesCpu_compileFlags (chooses : choosesCpu (t.archFlag host) = true) :
    (t.compileFlags host).filter choosesCpu = [t.archFlag host] := by
  cases hcross : given? t.crossTriple with
  | none => rw [compileFlags_of_hosted hcross, List.filter_cons_of_pos chooses, List.filter_nil]
  | some triple =>
      have others : freestandingFlags.filter choosesCpu = [] := by
        rw [List.filter_eq_nil_iff]
        intro flag hflag
        rw [not_choosesCpu_of_mem_freestandingFlags hflag]
        exact Bool.false_ne_true
      rw [compileFlags_of_cross hcross, List.filter_cons_of_neg (by rw [choosesCpu_target]; exact Bool.false_ne_true),
        List.filter_cons_of_pos chooses, others]

/-- The command lines of a target choose its CPU once each, by an option and a value for the compiler and by a value for
the simulator, and there is nothing else in them but what belongs to another platform. -/
structure WellTold (t : Target) (host : ArchFamily) (option value cpu : String) : Prop where
  option_eq : option = "-march=" ∨ option = "-mcpu="
  value_ne : value ≠ ""
  value_from : t.nativeAuto = true ∧ value = "native" ∨ t.compileArch = some value ∨ t.simulatorCpu = some value
  chosen_once : (t.compileFlags host).filter choosesCpu = [option ++ value]
  cross_eq : ∀ triple, triple ≠ "" → t.crossTriple = some triple →
    t.compileFlags host = ["--target=" ++ triple, option ++ value, "-ffreestanding", "-nostdlibinc"]
  hosted_eq : (∀ triple, triple ≠ "" → t.crossTriple ≠ some triple) →
    t.compileFlags host = [option ++ value] ∧
      ∀ flag ∈ t.compileFlags host, ¬"--target=".toList <+: flag.toList ∧ flag ∉ ["-ffreestanding", "-nostdlibinc"]
  cpu_ne : cpu ≠ ""
  cpu_from : t.nativeAuto = true ∧ cpu = "native" ∨ t.compileArch = some cpu ∨ t.simulatorCpu = some cpu
  simulate_eq : t.simulatedCpu = some cpu ∧ ∀ (config : Config) (assembly : String),
    config.simulateCommand assembly t.simulatedCpu = [config.simulator, "-mcpu=" ++ cpu, assembly]
  native_eq : t.nativeAuto = true → value = "native" ∧ cpu = "native" ∧ (option = "-march=" ↔ host = .x86)
  cpu_eq_value : (∀ arch name, arch ≠ "" → name ≠ "" → t.compileArch = some arch → t.simulatorCpu = some name →
    arch = name) → cpu = value

/-- Whatever is told is told well. -/
theorem Told.wellTold (h : t.Told host option value cpu) : t.WellTold host option value cpu := by
  have chooses := h.choosesCpu_eq
  have flags : (t.compileFlags host).filter choosesCpu = [option ++ value] := by
    rw [← h.archFlag_eq]
    exact filter_choosesCpu_compileFlags (by rw [h.archFlag_eq]; exact chooses)
  obtain ⟨⟨value_ne, value_from⟩, cpu_ne, cpu_from⟩ := h.value_and_cpu
  refine ⟨h.option_eq, value_ne, value_from, flags, ?_, ?_, cpu_ne, cpu_from, ⟨h.simulatedCpu_eq, ?_⟩, h.of_native,
    h.cpu_eq_value⟩
  · intro triple triple_ne cross
    rw [compileFlags_of_cross (given?_eq_some_iff.mpr ⟨cross, triple_ne⟩), h.archFlag_eq]
    rfl
  · intro hosted
    have hflags := compileFlags_of_hosted (given?_eq_none_iff.mpr hosted) host
    rw [h.archFlag_eq] at hflags
    refine ⟨hflags, fun flag hflag => ?_⟩
    rw [hflags, List.mem_singleton] at hflag
    rw [hflag]
    refine ⟨not_target_of_choosesCpu chooses, fun freestanding => ?_⟩
    rw [not_choosesCpu_of_mem_freestandingFlags freestanding] at chooses
    cases chooses
  · intro config assembly
    rw [h.simulatedCpu_eq]
    rfl

end Target

namespace Catalog

/-- **The command lines for every target of a catalog are well formed**, whatever the host. -/
theorem wellTold_of_mem (c : Catalog) {t : Target} (ht : t ∈ c.targets) (host : ArchFamily) :
    ∃ option value cpu, t.WellTold host option value cpu := by
  obtain ⟨option, value, cpu, told⟩ := (c.fitTogether.2 t ht).exists_told host
  exact ⟨option, value, cpu, told.wellTold⟩

end Catalog

/-- A CPU for another platform of which the compiler's own name is there, but empty. -/
def Target.halfNamed : Target where
  id := "n1"
  label := "N1"
  family := "ARM"
  arch := .arm
  crossTriple := some "aarch64-linux-gnu"
  compileArch := some ""
  simulatorCpu := some "neoverse-n1"

/-- An empty name is passed over: both tools are told the other one. -/
theorem Catalog.wellTold_of_mem_halfNamed :
    let c : Catalog := ⟨[.halfNamed], by decide⟩
    Target.halfNamed ∈ c.targets ∧ ∃ option value, Target.halfNamed.WellTold .arm option value value ∧
      Target.halfNamed.compileFlags .arm =
        ["--target=aarch64-linux-gnu", option ++ value, "-ffreestanding", "-nostdlibinc"] := by
  intro c
  have ht : Target.halfNamed ∈ c.targets := List.mem_singleton_self _
  obtain ⟨option, value, cpu, told⟩ := c.wellTold_of_mem ht .arm
  have same : cpu = value := told.cpu_eq_value (by
    intro arch name arch_ne _ harch _
    exact absurd (Option.some.inj harch).symm arch_ne)
  subst same
  exact ⟨ht, option, cpu, told, told.cross_eq _ (by decide) rfl⟩

end SnippetCost
