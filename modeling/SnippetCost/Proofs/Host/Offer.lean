import Mathlib.Data.Prod.Lex
import Mathlib.Data.String.Basic
import SnippetCost.Host
import SnippetCost.Proofs.Order.Stable

/-!
# What a host is offered

The targets a host can analyse are those that suit it (`Host.Suits`): the native one, and those of its own family if
that is known.  On display targets go by family and then by label, and targets that agree in both stay as they came.

* **`tripleOf_iff`**: the family of a platform triple, told by the word that it starts with.
* **`Host.isCompatible_iff`**: what suits a host; no other host of a known family is suited by the same target, unless it
  is the native one (`Host.Suits.family_eq`).
* **`sortForDisplay_compatible`**: it is the same to choose the targets before putting them into display order or after.
* **`offer_displayed`**: these together, for any list of targets, admitted to a catalog or not.

Texts are ordered by code points.  How another language than the default one orders them is not said here.
-/

namespace SnippetCost

/-! ## The family of a platform triple -/

/-- A platform triple starts with one of some words, in letters of whatever case. -/
def StartsWith (triple : String) (words : List String) : Prop :=
  ∃ word ∈ words, word.toList <+: triple.toList.map Char.toLower

instance (triple : String) (words : List String) : Decidable (StartsWith triple words) :=
  inferInstanceAs (Decidable (∃ word ∈ words, _))

/-- The family of a platform triple, by the word that it starts with. -/
inductive TripleOf (triple : String) : ArchFamily → Prop where
  | arm (starts : StartsWith triple ["aarch64", "arm"]) : TripleOf triple .arm
  | powerpc (starts : StartsWith triple ["powerpc", "ppc"]) : TripleOf triple .powerpc
  | x86 (starts : StartsWith triple ["x86_64", "i386", "i486", "i586", "i686"]) : TripleOf triple .x86
  | unknown (arm : ¬StartsWith triple ["aarch64", "arm"]) (powerpc : ¬StartsWith triple ["powerpc", "ppc"])
      (x86 : ¬StartsWith triple ["x86_64", "i386", "i486", "i586", "i686"]) : TripleOf triple .unknown

/-- The words are tried one family after the other. -/
theorem tripleFamily_eq (triple : String) : tripleFamily triple =
    if StartsWith triple ["aarch64", "arm"] then .arm
    else if StartsWith triple ["powerpc", "ppc"] then .powerpc
    else if StartsWith triple ["x86_64", "i386", "i486", "i586", "i686"] then .x86
    else .unknown := by
  have any_iff : ∀ words : List String,
      (words.any fun word => word.toList.isPrefixOf (lowerCase triple)) = decide (StartsWith triple words) := by
    intro words
    rw [Bool.eq_iff_iff, List.any_eq_true, decide_eq_true_iff]
    simp only [List.isPrefixOf_iff_prefix]
    exact Iff.rfl
  unfold tripleFamily familyBy triplePatterns
  simp only [List.find?_cons, any_iff]
  by_cases arm : StartsWith triple ["aarch64", "arm"]
  · simp [arm]
  by_cases powerpc : StartsWith triple ["powerpc", "ppc"]
  · simp [arm, powerpc]
  by_cases x86 : StartsWith triple ["x86_64", "i386", "i486", "i586", "i686"]
  · simp [arm, powerpc, x86]
  · simp [arm, powerpc, x86]

/-- A triple does not start with two words neither of which starts with the other. -/
theorem StartsWith.apart {triple : String} {words words' : List String} (h : StartsWith triple words)
    (apart : ∀ word ∈ words, ∀ word' ∈ words',
      ¬word.toList <+: word'.toList ∧ ¬word'.toList <+: word.toList) : ¬StartsWith triple words' := by
  obtain ⟨word, hword, starts⟩ := h
  rintro ⟨word', hword', starts'⟩
  rcases List.prefix_or_prefix_of_prefix starts starts' with h | h
  · exact (apart word hword word' hword').1 h
  · exact (apart word hword word' hword').2 h

/-- **The family of a platform triple.** -/
theorem tripleOf_iff {triple : String} {family : ArchFamily} :
    TripleOf triple family ↔ tripleFamily triple = family := by
  rw [tripleFamily_eq]
  constructor
  · rintro (arm | powerpc | x86 | ⟨arm, powerpc, x86⟩)
    · rw [if_pos arm]
    · rw [if_neg (powerpc.apart (by decide)), if_pos powerpc]
    · rw [if_neg (x86.apart (by decide)), if_neg (x86.apart (by decide)), if_pos x86]
    · rw [if_neg arm, if_neg powerpc, if_neg x86]
  · rintro rfl
    by_cases arm : StartsWith triple ["aarch64", "arm"]
    · rw [if_pos arm]
      exact .arm arm
    by_cases powerpc : StartsWith triple ["powerpc", "ppc"]
    · rw [if_neg arm, if_pos powerpc]
      exact .powerpc powerpc
    by_cases x86 : StartsWith triple ["x86_64", "i386", "i486", "i586", "i686"]
    · rw [if_neg arm, if_neg powerpc, if_pos x86]
      exact .x86 x86
    · rw [if_neg arm, if_neg powerpc, if_neg x86]
      exact .unknown arm powerpc x86

/-! ## Targets that suit a host -/

/-- The family of a target: that of the platform it is cross-compiled for, if there is one. -/
def Target.ownFamily (t : Target) : ArchFamily :=
  match given? t.crossTriple with
  | some triple => tripleFamily triple
  | none => t.arch

/-- A target is of a family: by the platform it is cross-compiled for, or for want of that by its architecture. -/
inductive Target.IsOf (t : Target) (family : ArchFamily) : Prop where
  | cross {triple : String} (named : t.crossTriple = some triple) (nonempty : triple ≠ "")
      (of : TripleOf triple family)
  | own (bare : t.crossTriple = none ∨ t.crossTriple = some "") (arch_eq : t.arch = family)

theorem Target.isOf_iff {t : Target} {family : ArchFamily} : t.IsOf family ↔ t.ownFamily = family := by
  unfold ownFamily
  cases htriple : t.crossTriple with
  | none =>
      constructor
      · rintro (⟨named, -, -⟩ | ⟨-, arch_eq⟩)
        · rw [htriple] at named
          cases named
        · exact arch_eq
      · exact .own (.inl htriple)
  | some triple =>
      by_cases hempty : triple = ""
      · subst hempty
        constructor
        · rintro (⟨named, nonempty, -⟩ | ⟨-, arch_eq⟩)
          · rw [htriple] at named
            exact absurd (Option.some.inj named).symm nonempty
          · exact arch_eq
        · exact .own (.inr htriple)
      · have hgiven : given? (some triple) = some triple := by simp [given?, hempty]
        rw [hgiven]
        constructor
        · rintro (⟨named, -, of⟩ | ⟨bare, -⟩)
          · rw [htriple] at named
            cases named
            exact tripleOf_iff.mp of
          · rw [htriple] at bare
            simp [hempty] at bare
        · exact fun of => .cross htriple hempty (tripleOf_iff.mpr of)

namespace Host

variable {h h' : Host} {t : Target} {ts : List Target}

/-- The target is the native one, or it is of the host's family and that is known. -/
def Suits (h : Host) (t : Target) : Prop :=
  t.nativeAuto = true ∨ h.family ≠ .unknown ∧ t.IsOf h.family

/-- **A target can be analysed from the hosts it suits.** -/
theorem isCompatible_iff : h.isCompatible t = true ↔ h.Suits t := by
  unfold isCompatible Suits
  rw [Target.isOf_iff]
  by_cases native : t.nativeAuto = true
  · simp [native]
  by_cases known : h.family = .unknown
  · simp [native, known, isKnown]
  unfold Target.ownFamily
  cases given? t.crossTriple with
  | some triple => simp [native, known, isKnown]
  | none => simp [native, known, isKnown]

instance (h : Host) (t : Target) : Decidable (h.Suits t) :=
  decidable_of_iff _ isCompatible_iff

/-- An unknown host is suited by native targets only. -/
theorem Suits.nativeAuto (suits : h.Suits t) (unknown : h.family = .unknown) : t.nativeAuto = true := by
  rcases suits with native | ⟨known, -⟩
  · exact native
  · exact absurd unknown known

/-- A host that an explicit target suits is of the target's own family. -/
theorem Suits.ownFamily_eq (suits : h.Suits t) (explicit : t.nativeAuto = false) : t.ownFamily = h.family := by
  rcases suits with native | ⟨-, own⟩
  · rw [explicit] at native
    cases native
  · exact Target.isOf_iff.mp own

/-- Hosts that a target suits are of one family, unless it is a native one. -/
theorem Suits.family_eq (suits : h.Suits t) (suits' : h'.Suits t) (explicit : t.nativeAuto = false) :
    h.family = h'.family :=
  (suits.ownFamily_eq explicit).symm.trans (suits'.ownFamily_eq explicit)

theorem suits_of_mem_compatible (ht : t ∈ h.compatible ts) : h.Suits t :=
  isCompatible_iff.mp (List.mem_filter.mp ht).2

/-- A target that suits the host is kept as often as it is there, and any other one is not. -/
theorem count_compatible (h : Host) (ts : List Target) (t : Target) :
    (h.compatible ts).count t = if h.Suits t then ts.count t else 0 := by
  split
  · next suits => exact List.count_filter (isCompatible_iff.mpr suits)
  · next unsuited => exact List.count_eq_zero.mpr fun ht => unsuited (suits_of_mem_compatible ht)

end Host

/-! ## Display order -/

/-- The place of a target on display. -/
def Target.displayRank (t : Target) : String ×ₗ String :=
  toLex (t.family, t.label)

theorem Target.displayBefore_eq_rank (s t : Target) :
    s.displayBefore t = decide (s.displayRank < t.displayRank) := by
  unfold displayRank
  rw [Bool.eq_iff_iff, decide_eq_true_eq, Prod.Lex.toLex_lt_toLex]
  simp only [displayBefore, Bool.or_eq_true, Bool.and_eq_true, decide_eq_true_eq, beq_iff_eq]

theorem Target.displayRank_eq_iff {t : Target} {family label : String} :
    t.displayRank = toLex (family, label) ↔ t.family = family ∧ t.label = label := by
  unfold displayRank
  rw [toLex_inj, Prod.mk.injEq]

section Display

variable (ts : List Target)

theorem sortForDisplay_perm : (sortForDisplay ts).Perm ts :=
  List.mergeSort_perm _ _

/-- Sorted targets go by family, and in one family by label. -/
theorem pairwise_sortForDisplay : (sortForDisplay ts).Pairwise fun s t =>
    s.family < t.family ∨ s.family = t.family ∧ s.label ≤ t.label := by
  have hsorted : (sortForDisplay ts).Pairwise fun s t => s.displayRank ≤ t.displayRank ∧
      (s.displayRank = t.displayRank → True) :=
    pairwise_sortBy (fun s _ t _ => s.displayBefore_eq_rank t) (List.pairwise_of_forall fun _ _ => trivial)
  exact hsorted.imp fun {s t} hle => Prod.Lex.toLex_le_toLex.mp hle.1

/-- Targets that agree in family and label stay as they came. -/
theorem filter_sortForDisplay (family label : String) :
    (sortForDisplay ts).filter (fun t => decide (t.family = family ∧ t.label = label)) =
      ts.filter fun t => decide (t.family = family ∧ t.label = label) := by
  have agree : ∀ s ∈ ts, ∀ t ∈ ts, s.displayBefore t = decide (s.displayRank < t.displayRank) :=
    fun s _ t _ => s.displayBefore_eq_rank t
  have hrank := filter_sortBy agree (toLex (family, label))
  simp only [Target.displayRank_eq_iff] at hrank
  exact hrank

theorem sortForDisplay_sortForDisplay : sortForDisplay (sortForDisplay ts) = sortForDisplay ts :=
  sortBy_sortBy fun s _ t _ => s.displayBefore_eq_rank t

/-- **Choosing targets commutes with putting them into display order.** -/
theorem sortForDisplay_compatible (h : Host) :
    sortForDisplay (h.compatible ts) = h.compatible (sortForDisplay ts) :=
  sortBy_filter (fun s _ t _ => s.displayBefore_eq_rank t) h.isCompatible

end Display

/-! ## Texts with a place in the order -/

theorem Target.hasPlace_iff {t : Target} :
    t.hasPlace = true ↔ '\x00' ∉ t.family.toList ∧ '\x00' ∉ t.label.toList := by
  simp [hasPlace]

theorem displayOrder_eq_ok {ts : List Target}
    (placed : ∀ t ∈ ts, '\x00' ∉ t.family.toList ∧ '\x00' ∉ t.label.toList) :
    displayOrder ts = .ok (sortForDisplay ts) := by
  unfold displayOrder
  rw [if_pos (List.all_eq_true.mpr fun t ht => Target.hasPlace_iff.mpr (placed t ht))]

/-- **What a host is offered, and how it is displayed.**  Of any list of targets those that suit the host are kept, in
order and as often as they are there.  An unknown host keeps native targets only, and any other target is kept by hosts
of one family at most.  Display order is a rearrangement by family and label that leaves ties as they came and is not
changed by a second round, and to choose targets before it or after it is the same. -/
theorem offer_displayed (ts : List Target) :
    (∀ h : Host, (h.compatible ts).Sublist ts ∧
      (∀ t, (h.compatible ts).count t = if h.Suits t then ts.count t else 0) ∧
      (h.family = .unknown → ∀ t ∈ h.compatible ts, t.nativeAuto = true)) ∧
    (∀ t, t.nativeAuto = false → ∀ h h' : Host, t ∈ h.compatible ts → t ∈ h'.compatible ts →
      h.family = h'.family) ∧
    ((∀ t ∈ ts, '\x00' ∉ t.family.toList ∧ '\x00' ∉ t.label.toList) →
      ∃ sorted, displayOrder ts = .ok sorted ∧ sorted.Perm ts ∧
        (sorted.Pairwise fun s t => s.family < t.family ∨ s.family = t.family ∧ s.label ≤ t.label) ∧
        (∀ family label : String,
          sorted.filter (fun t => decide (t.family = family ∧ t.label = label)) =
            ts.filter fun t => decide (t.family = family ∧ t.label = label)) ∧
        displayOrder sorted = .ok sorted ∧
        ∀ h : Host, displayOrder (h.compatible ts) = .ok (h.compatible sorted)) := by
  refine ⟨?_, ?_, ?_⟩
  · intro h
    refine ⟨List.filter_sublist, h.count_compatible ts, ?_⟩
    intro unknown t ht
    exact (Host.suits_of_mem_compatible ht).nativeAuto unknown
  · intro t explicit h h' ht ht'
    exact (Host.suits_of_mem_compatible ht).family_eq (Host.suits_of_mem_compatible ht') explicit
  · intro placed
    have hperm := sortForDisplay_perm ts
    refine ⟨sortForDisplay ts, displayOrder_eq_ok placed, hperm, pairwise_sortForDisplay ts,
      filter_sortForDisplay ts, ?_, ?_⟩
    · rw [displayOrder_eq_ok fun t ht => placed t (hperm.mem_iff.mp ht), sortForDisplay_sortForDisplay]
    · intro h
      have placed' : ∀ t ∈ h.compatible ts, '\x00' ∉ t.family.toList ∧ '\x00' ∉ t.label.toList := fun t ht =>
        placed t (List.mem_of_mem_filter ht)
      rw [displayOrder_eq_ok placed', sortForDisplay_compatible]

/-- A list that is in no order: a target twice, one that ties with it, one for another platform, and the native one. -/
def Target.mixed : List Target :=
  let zen : Target := { id := "zen", label := "Zen", family := "x86", arch := .x86, compileArch := some "znver4" }
  [zen, { zen with id := "zen4" }, zen,
    { id := "n1", label := "N1", family := "ARM", arch := .arm, crossTriple := some "aarch64-linux-gnu",
      simulatorCpu := some "neoverse-n1" },
    { id := "native", label := "Native", family := "Native", arch := .unknown, nativeAuto := true }]

/-- A mixed list on display: the ties are as they came, and a host may choose before or after. -/
theorem offer_displayed_mixed :
    (∀ t ∈ Target.mixed, '\x00' ∉ t.family.toList ∧ '\x00' ∉ t.label.toList) ∧
      ∃ sorted, displayOrder Target.mixed = .ok sorted ∧
        (sorted.filter fun t => decide (t.family = "x86" ∧ t.label = "Zen")).map Target.id = ["zen", "zen4", "zen"] ∧
        ∀ h : Host, displayOrder (h.compatible Target.mixed) = .ok (h.compatible sorted) := by
  have placed : ∀ t ∈ Target.mixed, '\x00' ∉ t.family.toList ∧ '\x00' ∉ t.label.toList := by decide
  obtain ⟨sorted, hsorted, -, -, ties, -, commutes⟩ := (offer_displayed Target.mixed).2.2 placed
  refine ⟨placed, sorted, hsorted, ?_, commutes⟩
  rw [ties]
  decide

end SnippetCost
