import SnippetCost.Proofs.Host.Offer
import SnippetCost.Proofs.Snippet.Options
import SnippetCost.Proofs.Snippet.Preamble
import SnippetCost.Target.Curated

/-!
# The architecture of a target

Three fields say something about the architecture of a target: its architecture by name, the platform it is
cross-compiled for, and which of the tools it names its CPU to.  A host goes by the platform, the header of the vector
functions by the architecture, and the compiler's option by the name; a catalog does not ask whether they agree.

* **`Target.agreement_of_mem`**: for a target of a catalog and a host that suits it, exactly when each of them is that of
  the host's family.  On the curated catalog they always are.
* **`Catalog.misfits_disagree`**: a catalog may hold targets for which they are not.
-/

namespace SnippetCost

namespace Target

variable {t : Target} {h : Host} {host family : ArchFamily} {option value cpu : String}

/-! ## Agreement with a family -/

/-- The compiler's option is spelled as it is for a family: as an architecture for x86, and as a processor otherwise. -/
def Spelled (t : Target) (family : ArchFamily) : Prop :=
  ("-march=".toList <+: (t.archFlag family).toList ↔ family = .x86) ∧
    ("-mcpu=".toList <+: (t.archFlag family).toList ↔ family ≠ .x86)

/-- The last header in front of a snippet, that of the vector functions, is the one of a family. -/
def Headed (t : Target) (family : ArchFamily) : Prop :=
  (includeLines (preamble t.isCross (t.effectiveArch family))).getLast? = some (includeLine (intrinsicsHeader family))

/-- The target gives the compiler a name of its own for the CPU. -/
def NamesArch (t : Target) : Prop :=
  ∃ arch, arch ≠ "" ∧ t.compileArch = some arch

/-- A target for another machine belongs to the family of its triple. -/
theorem ownFamily_of_cross {triple : String} (cross : given? t.crossTriple = some triple) :
    t.ownFamily = tripleFamily triple := by
  unfold ownFamily
  rw [cross]

/-! ## The architecture -/

/-- The native target takes the architecture of the host. -/
theorem effectiveArch_of_native (native : t.nativeAuto = true) (host : ArchFamily) : t.effectiveArch host = host := by
  unfold effectiveArch
  rw [if_pos native]

/-- Any other one has its own. -/
theorem effectiveArch_of_explicit (explicit : t.nativeAuto = false) (host : ArchFamily) :
    t.effectiveArch host = t.arch := by
  unfold effectiveArch
  rw [explicit]
  rfl

/-- On a host that it suits, a target has the architecture of the host exactly if it is native or of the
architecture of its own family. -/
theorem effectiveArch_eq_iff (suits : h.Suits t) :
    t.effectiveArch h.family = h.family ↔ t.nativeAuto = true ∨ t.arch = t.ownFamily := by
  cases native : t.nativeAuto with
  | true => exact iff_of_true (effectiveArch_of_native native _) (.inl rfl)
  | false =>
      rw [effectiveArch_of_explicit native, suits.ownFamily_eq native]
      simp

/-! ## The header -/

/-- It gets the header of the family exactly if both name the same one. -/
theorem headed_iff : t.Headed family ↔ intrinsicsHeader (t.effectiveArch family) = intrinsicsHeader family := by
  unfold Headed
  rw [includeLines_preamble, List.getLast?_concat, Option.some_inj]
  constructor
  · intro hline
    -- The three headers there are differ as lines as well.
    generalize t.effectiveArch family = arch at hline ⊢
    revert hline
    cases arch <;> cases family <;> decide
  · intro hheader
    rw [hheader]

/-! ## The option -/

/-- The option for an architecture is known by its beginning. -/
theorem march_prefix_iff (option_eq : option = "-march=" ∨ option = "-mcpu=") :
    "-march=".toList <+: (option ++ value).toList ↔ option = "-march=" := by
  rcases option_eq with rfl | rfl <;> simp [List.cons_prefix_cons]

/-- So is the option for a CPU, since neither begins as the other does. -/
theorem mcpu_prefix_iff (option_eq : option = "-march=" ∨ option = "-mcpu=") :
    "-mcpu=".toList <+: (option ++ value).toList ↔ option ≠ "-march=" := by
  rcases option_eq with rfl | rfl <;> simp [List.cons_prefix_cons]

/-- One of the two spellings is used, so it is enough to look at the first. -/
theorem Told.spelled_iff (told : t.Told family option value cpu) :
    t.Spelled family ↔ (option = "-march=" ↔ family = .x86) := by
  unfold Spelled
  rw [told.archFlag_eq, march_prefix_iff told.option_eq, mcpu_prefix_iff told.option_eq, Ne, Ne, not_iff_not, and_self]

/-- The option for an architecture is used exactly by the targets that name one. -/
theorem Told.march_iff (told : t.Told host option value cpu) (explicit : t.nativeAuto = false) :
    option = "-march=" ↔ t.NamesArch := by
  unfold NamesArch
  rw [← isSome_given?_iff]
  cases told with
  | native native =>
      rw [explicit] at native
      cases native
  | both _ harch | archOnly _ harch => simp [harch]
  | cpuOnly _ harch => simp [harch]

/-- On a host that it suits, a target is spelled as its family has it exactly if it is native, or names an
architecture just where its family is x86. -/
theorem spelled_iff (admissible : t.Admissible) (suits : h.Suits t) :
    t.Spelled h.family ↔ t.nativeAuto = true ∨ (t.NamesArch ↔ t.ownFamily = .x86) := by
  obtain ⟨option, value, cpu, told⟩ := admissible.exists_told h.family
  rw [told.spelled_iff]
  cases native : t.nativeAuto with
  | true => exact iff_of_true (told.of_native native).2.2 (.inl rfl)
  | false =>
      rw [told.march_iff native, suits.ownFamily_eq native]
      simp

/-! ## The curated catalog -/

/-- A target for another platform that gives the compiler no name of its own is at one with itself, off x86. -/
theorem coherent_of_cross {triple : String} (cross : given? t.crossTriple = some triple)
    (own : tripleFamily triple = t.arch) (unnamed : t.compileArch = none) (other : t.arch ≠ .x86) :
    t.arch = t.ownFamily ∧ (t.NamesArch ↔ t.ownFamily = .x86) := by
  rw [ownFamily_of_cross cross, own]
  refine ⟨rfl, iff_of_false ?_ other⟩
  rintro ⟨arch, -, harch⟩
  rw [unnamed] at harch
  cases harch

/-- **A target of the curated catalog is the native one, or its fields agree.** -/
theorem coherent_of_mem_curated (ht : t ∈ Catalog.curated.targets) :
    t.nativeAuto = true ∨ t.arch = t.ownFamily ∧ (t.NamesArch ↔ t.ownFamily = .x86) := by
  have label_ne : t.label ≠ "" := (Catalog.curated.fitTogether.2 t ht).label_ne
  have arm : tripleFamily "aarch64-linux-gnu" = .arm := by decide
  have power : tripleFamily "powerpc64le-linux-gnu" = .powerpc := by decide
  have split : t ∈ curatedTargets := ht
  rw [curatedTargets, List.mem_append, List.mem_append, List.mem_cons, List.mem_flatMap, List.mem_flatMap] at split
  rcases split with ((rfl | ⟨⟨category, cpus⟩, -, hcpu⟩) | ⟨⟨category, cpus⟩, -, hcpu⟩) | hcpu
  · exact .inl rfl
  · obtain ⟨cpu, -, rfl⟩ := List.mem_map.mp hcpu
    -- The label of such a target is its name for both tools.
    exact .inr ⟨rfl, iff_of_true ⟨cpu, label_ne, rfl⟩ rfl⟩
  · obtain ⟨cpu, -, rfl⟩ := List.mem_map.mp hcpu
    exact .inr (coherent_of_cross rfl arm rfl nofun)
  · obtain ⟨cpu, -, rfl⟩ := List.mem_map.mp hcpu
    exact .inr (coherent_of_cross rfl power rfl nofun)

/-- **When a target's architecture, header and option are those of a host it suits.**  Always for the native target.  For
another one the architecture is if it is that of the target's own family, the header if these two have one header, and
the option if the target names an architecture to the compiler exactly where it is of the x86 family.  Every target of
the curated catalog meets all three. -/
theorem agreement_of_mem (c : Catalog) (ht : t ∈ c.targets) (compatible : h.isCompatible t = true) :
    (t.effectiveArch h.family = h.family ↔ t.nativeAuto = true ∨ t.arch = t.ownFamily) ∧
      (t.Headed h.family ↔ t.nativeAuto = true ∨ intrinsicsHeader t.arch = intrinsicsHeader t.ownFamily) ∧
      (t.Spelled h.family ↔ t.nativeAuto = true ∨ (t.NamesArch ↔ t.ownFamily = .x86)) ∧
      (t ∈ Catalog.curated.targets →
        t.effectiveArch h.family = h.family ∧ t.Headed h.family ∧ t.Spelled h.family) := by
  have suits : h.Suits t := Host.isCompatible_iff.mp compatible
  have effective := effectiveArch_eq_iff suits
  have spelled := spelled_iff (c.fitTogether.2 t ht) suits
  refine ⟨effective, ?_, spelled, ?_⟩
  · rw [headed_iff]
    cases native : t.nativeAuto with
    | true => simp [effectiveArch_of_native native]
    | false => simp [effectiveArch_of_explicit native, suits.ownFamily_eq native]
  · intro curated
    rcases coherent_of_mem_curated curated with native | ⟨harch, hnames⟩
    · exact ⟨effective.mpr (.inl native), headed_iff.mpr (by rw [effectiveArch_of_native native]),
        spelled.mpr (.inl native)⟩
    · have heffective := effective.mpr (.inr harch)
      exact ⟨heffective, headed_iff.mpr (by rw [heffective]), spelled.mpr (.inr hnames)⟩

end Target

/-- The names of an ARM CPU agree, though the compiler's own is empty. -/
theorem Target.agreement_of_mem_halfNamed :
    let c : Catalog := ⟨[.halfNamed], by decide⟩
    let h : Host := ⟨.arm, "aarch64"⟩
    Target.halfNamed ∈ c.targets ∧ h.isCompatible .halfNamed = true ∧
      Target.halfNamed.effectiveArch .arm = .arm ∧ Target.halfNamed.Headed .arm ∧ Target.halfNamed.Spelled .arm := by
  intro c h
  have ht : Target.halfNamed ∈ c.targets := List.mem_singleton_self _
  have compatible : h.isCompatible .halfNamed = true := by decide
  have own : Target.halfNamed.arch = Target.halfNamed.ownFamily := by decide
  have unnamed : ¬Target.halfNamed.NamesArch := by
    rintro ⟨arch, arch_ne, harch⟩
    exact arch_ne (Option.some.inj harch).symm
  obtain ⟨effective, headed, spelled, -⟩ := Target.agreement_of_mem c ht compatible
  exact ⟨ht, compatible, effective.mpr (.inr own), headed.mpr (.inr (congrArg _ own)),
    spelled.mpr (.inr (iff_of_false unnamed (by decide)))⟩

/-! ## Targets that disagree with themselves -/

/-- An x86 CPU of which the simulator's name is given alone. -/
def Target.simulatorOnly : Target where
  id := "sky"
  label := "Skylake"
  family := "x86"
  arch := .x86
  simulatorCpu := some "skylake"

/-- A CPU that is of the x86 family by name, and of the ARM family by platform. -/
def Target.astray : Target where
  id := "a55"
  label := "Cortex-A55"
  family := "ARM"
  arch := .x86
  crossTriple := some "aarch64-linux-gnu"
  simulatorCpu := some "cortex-a55"

/-- A catalog lets both of them in. -/
def Catalog.misfits : Catalog where
  targets := [.simulatorOnly, .astray]
  admitted := by decide

/-- **What a catalog admits may disagree with itself.**  On the hosts these targets suit, the one is given to the
compiler by the option for a processor, though the host is of the x86 family, and the other has the header of the x86
family in front of its snippets, though its host is not. -/
theorem Catalog.misfits_disagree :
    let x86 : Host := ⟨.x86, "x86_64"⟩
    let arm : Host := ⟨.arm, "aarch64"⟩
    (Target.simulatorOnly ∈ Catalog.misfits.targets ∧ x86.isCompatible .simulatorOnly = true ∧
      Target.simulatorOnly.archFlag x86.family = "-mcpu=skylake" ∧ ¬Target.simulatorOnly.Spelled x86.family) ∧
    (Target.astray ∈ Catalog.misfits.targets ∧ arm.isCompatible .astray = true ∧
      Target.astray.effectiveArch arm.family = .x86 ∧ ¬Target.astray.Headed arm.family) := by
  intro x86 arm
  refine ⟨⟨by decide, by decide, by decide, ?_⟩, by decide, by decide, by decide, ?_⟩
  · intro spelled
    exact absurd (spelled.1.mpr rfl) (by decide)
  · intro headed
    exact absurd (Target.headed_iff.mp headed) (by decide)

end SnippetCost
