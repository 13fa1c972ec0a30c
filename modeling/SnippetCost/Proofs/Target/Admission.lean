import Mathlib.Data.List.Nodup
import SnippetCost.Analysis.Run

/-!
# Catalogs and what they answer

A list of targets makes a catalog if they fit together (`FitTogether`): each is admissible on its own, and no two share
an id.  Otherwise the first one that does not fit behind those before it is told of (`Target.Unfit`).

* **`Catalog.ofList_eq_ok_iff`**, **`Catalog.ofList_eq_error_iff`**: what comes of a list.
* **`Catalog.serves`**: every catalog has its targets in order, finds each of them by its id and nothing by any other
  text, and lists their families by where they come first.
* **`Catalog.ofList_serves_or_unfit`**: these together, for any list of targets.
-/

namespace SnippetCost

/-! ## Texts that are given -/

/-- A text is given if it is there and not empty. -/
theorem given?_eq_some_iff {text : Option String} {s : String} : given? text = some s ↔ text = some s ∧ s ≠ "" := by
  unfold given?
  rw [Option.filter_eq_some_iff, bne_iff_ne]

/-- Something is given exactly if a text other than the empty one is there. -/
theorem isSome_given?_iff {text : Option String} : (given? text).isSome = true ↔ ∃ s, s ≠ "" ∧ text = some s := by
  rw [Option.isSome_iff_exists]
  refine exists_congr fun s => ?_
  rw [given?_eq_some_iff, and_comm]

/-! ## Targets on their own -/

namespace Target

variable {t : Target} {seen seen' : List String} {fault : AdmissionFault}

/-- Names a CPU to one of the tools; an empty text is no name. -/
def Explicit (t : Target) : Prop :=
  ∃ cpu, cpu ≠ "" ∧ (t.compileArch = some cpu ∨ t.simulatorCpu = some cpu)

/-- Fit for a catalog, as far as it can be told from the target alone. -/
structure Admissible (t : Target) : Prop where
  id_ne : t.id ≠ ""
  label_ne : t.label ≠ ""
  family_ne : t.family ≠ ""
  /-- It names a CPU or stands for the native one, and not both. -/
  explicit_iff : t.Explicit ↔ t.nativeAuto = false

/-- What is wrong with a target on its own; of several things the first counts. -/
inductive Flawed (t : Target) : AdmissionFault → Prop where
  | emptyId (id_eq : t.id = "") : Flawed t .emptyId
  | noLabel (id_ne : t.id ≠ "") (label_eq : t.label = "") : Flawed t (.noLabel t.id)
  | noFamily (id_ne : t.id ≠ "") (label_ne : t.label ≠ "") (family_eq : t.family = "") : Flawed t (.noFamily t.id)
  | cpuChoice (id_ne : t.id ≠ "") (label_ne : t.label ≠ "") (family_ne : t.family ≠ "")
      (explicit_iff : t.Explicit ↔ t.nativeAuto = true) : Flawed t (.cpuChoice t.id)

/-- What is wrong with a target behind others with the ids `seen`. -/
def Unfit (t : Target) (seen : List String) (fault : AdmissionFault) : Prop :=
  t.Flawed fault ∨ t.Admissible ∧ t.id ∈ seen ∧ fault = .duplicateId t.id

/-- The test for a named CPU says what `Explicit` does. -/
theorem namesCpu_iff : t.namesCpu = true ↔ t.Explicit := by
  unfold namesCpu Explicit
  rw [Bool.or_eq_true, isSome_given?_iff, isSome_given?_iff, ← exists_or]
  refine exists_congr fun cpu => ?_
  rw [and_or_left]

/-- The two are the same exactly if the target names a CPU and stands for the native one, or does neither. -/
theorem namesCpu_eq_nativeAuto_iff : t.namesCpu = t.nativeAuto ↔ (t.Explicit ↔ t.nativeAuto = true) := by
  rw [← namesCpu_iff, Bool.eq_iff_iff]

/-- **A target is without fault exactly if it is admissible.** -/
theorem fault?_eq_none_iff : t.fault? = none ↔ t.Admissible := by
  have choice : ¬t.namesCpu = t.nativeAuto ↔ (t.Explicit ↔ t.nativeAuto = false) := by
    rw [← namesCpu_iff]
    cases t.namesCpu <;> cases t.nativeAuto <;> decide
  unfold fault?
  constructor
  · intro h
    split_ifs at h with hid hlabel hfamily hchoice
    exact ⟨hid, hlabel, hfamily, choice.mp hchoice⟩
  · intro h
    rw [if_neg h.id_ne, if_neg h.label_ne, if_neg h.family_ne, if_neg (choice.mpr h.explicit_iff)]

/-- **The fault that is told is the first that the target has.** -/
theorem fault?_eq_some_iff : t.fault? = some fault ↔ t.Flawed fault := by
  unfold fault?
  constructor
  · intro h
    split_ifs at h with hid hlabel hfamily hchoice
    · exact Option.some.inj h ▸ .emptyId hid
    · exact Option.some.inj h ▸ .noLabel hid hlabel
    · exact Option.some.inj h ▸ .noFamily hid hlabel hfamily
    · exact Option.some.inj h ▸ .cpuChoice hid hlabel hfamily (namesCpu_eq_nativeAuto_iff.mp hchoice)
  · rintro (hid | ⟨hid, hlabel⟩ | ⟨hid, hlabel, hfamily⟩ | ⟨hid, hlabel, hfamily, hchoice⟩)
    · rw [if_pos hid]
    · rw [if_neg hid, if_pos hlabel]
    · rw [if_neg hid, if_neg hlabel, if_pos hfamily]
    · rw [if_neg hid, if_neg hlabel, if_neg hfamily, if_pos (namesCpu_eq_nativeAuto_iff.mpr hchoice)]

/-- Of the ids before a target only its own matters. -/
theorem Unfit.congr (h : t.Unfit seen fault) (same : t.id ∈ seen ↔ t.id ∈ seen') : t.Unfit seen' fault := by
  rcases h with flawed | ⟨admissible, hid, hfault⟩
  · exact .inl flawed
  · exact .inr ⟨admissible, same.mp hid, hfault⟩

end Target

/-! ## Targets together -/

/-- Every target is fit for a catalog, and no two share an id. -/
def FitTogether (ts : List Target) : Prop :=
  (ts.map Target.id).Nodup ∧ ∀ t ∈ ts, t.Admissible

/-- The targets fit together, and behind others with the ids `seen`. -/
def FitBehind (seen : List String) (ts : List Target) : Prop :=
  FitTogether ts ∧ ∀ t ∈ ts, t.id ∉ seen

section FirstFault

variable {seen : List String} {t : Target} {ts : List Target} {fault : AdmissionFault}

/-- Behind no others, fitting is fitting together. -/
theorem fitBehind_nil_iff : FitBehind [] ts ↔ FitTogether ts := by
  unfold FitBehind
  simp only [List.not_mem_nil, not_false_eq_true, implies_true, and_true]

/-- No targets at all fit behind any. -/
theorem fitBehind_nil_right (seen : List String) : FitBehind seen [] :=
  ⟨⟨.nil, fun _ h => absurd h List.not_mem_nil⟩, fun _ h => absurd h List.not_mem_nil⟩

/-- Targets fit if the first does, and the others do behind it as well. -/
theorem fitBehind_cons_iff :
    FitBehind seen (t :: ts) ↔ (t.Admissible ∧ t.id ∉ seen) ∧ FitBehind (t.id :: seen) ts := by
  have apart : t.id ∉ ts.map Target.id ↔ ∀ s ∈ ts, s.id ≠ t.id := by
    rw [List.mem_map]
    push Not
    rfl
  unfold FitBehind FitTogether
  rw [List.map_cons, List.nodup_cons, List.forall_mem_cons, List.forall_mem_cons, apart]
  simp only [List.mem_cons, not_or, forall_and]
  constructor
  · rintro ⟨⟨⟨apart, nodup⟩, admissible, rest⟩, unseen, others⟩
    exact ⟨⟨admissible, unseen⟩, ⟨nodup, rest⟩, apart, others⟩
  · rintro ⟨⟨admissible, unseen⟩, ⟨nodup, rest⟩, apart, others⟩
    exact ⟨⟨⟨apart, nodup⟩, admissible, rest⟩, unseen, others⟩

/-- The first target is looked at first, on its own and then among those before it. -/
theorem firstFault?_cons (seen : List String) (t : Target) (ts : List Target) : firstFault? seen (t :: ts) =
    match t.fault? with
    | some fault => some fault
    | none => if t.id ∈ seen then some (.duplicateId t.id) else firstFault? (t.id :: seen) ts := rfl

/-- A target is not fit, or it is and the fault is behind it. -/
theorem firstFault?_cons_eq_some_iff : firstFault? seen (t :: ts) = some fault ↔
    t.Unfit seen fault ∨ (t.Admissible ∧ t.id ∉ seen) ∧ firstFault? (t.id :: seen) ts = some fault := by
  unfold Target.Unfit
  rw [firstFault?_cons, ← Target.fault?_eq_some_iff, ← Target.fault?_eq_none_iff]
  cases t.fault? with
  | some own => simp
  | none =>
      by_cases hseen : t.id ∈ seen
      · simp [hseen, eq_comm]
      · simp [hseen]

/-- There is no fault if the first target has none, and there is none behind it. -/
theorem firstFault?_cons_eq_none_iff : firstFault? seen (t :: ts) = none ↔
    (t.Admissible ∧ t.id ∉ seen) ∧ firstFault? (t.id :: seen) ts = none := by
  rw [firstFault?_cons, ← Target.fault?_eq_none_iff]
  cases t.fault? with
  | some own => simp
  | none =>
      by_cases hseen : t.id ∈ seen
      · simp [hseen]
      · simp [hseen]

/-- There is no first fault exactly if the targets fit. -/
theorem firstFault?_eq_none_iff : firstFault? seen ts = none ↔ FitBehind seen ts := by
  induction ts generalizing seen with
  | nil => exact iff_of_true rfl (fitBehind_nil_right seen)
  | cons t ts ih => rw [firstFault?_cons_eq_none_iff, fitBehind_cons_iff, ih]

/-- The first fault is that of the first target that does not fit behind those before it. -/
theorem firstFault?_eq_some_iff : firstFault? seen ts = some fault ↔
    ∃ front t rest, ts = front ++ t :: rest ∧ FitBehind seen front ∧ t.Unfit (front.map Target.id ++ seen) fault := by
  induction ts generalizing seen with
  | nil => simp [firstFault?]
  | cons t ts ih =>
      rw [firstFault?_cons_eq_some_iff, ih]
      constructor
      · rintro (unfit | ⟨fit, front, u, rest, rfl, hfront, unfit⟩)
        · exact ⟨[], t, ts, rfl, fitBehind_nil_right seen, unfit⟩
        · refine ⟨t :: front, u, rest, rfl, fitBehind_cons_iff.mpr ⟨fit, hfront⟩, unfit.congr ?_⟩
          rw [List.map_cons, List.cons_append, List.perm_middle.mem_iff]
      · rintro ⟨front, u, rest, split, hfront, unfit⟩
        cases front with
        | nil =>
            cases split
            exact .inl unfit
        | cons s front =>
            cases split
            obtain ⟨fit, hfront⟩ := fitBehind_cons_iff.mp hfront
            refine .inr ⟨fit, front, u, rest, rfl, hfront, unfit.congr ?_⟩
            rw [List.map_cons, List.cons_append, List.perm_middle.mem_iff]

end FirstFault

/-! ## Texts by where they come first -/

/-- The texts that occur in a list, each once, by where it occurs first. -/
structure ListsOnce (once texts : List String) : Prop where
  mem_iff : ∀ s, s ∈ once ↔ s ∈ texts
  pairwise_idxOf : once.Pairwise fun s s' => texts.idxOf s < texts.idxOf s'

/-- One more text is listed behind the others, unless it is there already. -/
theorem ListsOnce.concat {once texts : List String} (h : ListsOnce once texts) (s : String) :
    ListsOnce (if s ∈ once then once else once ++ [s]) (texts ++ [s]) := by
  have hkept : once.Pairwise fun a b => (texts ++ [s]).idxOf a < (texts ++ [s]).idxOf b := by
    refine h.pairwise_idxOf.imp_of_mem fun {a b} ha hb hlt => ?_
    rw [List.idxOf_append_of_mem ((h.mem_iff a).mp ha), List.idxOf_append_of_mem ((h.mem_iff b).mp hb)]
    exact hlt
  split
  · next hs =>
      refine ⟨fun a => ?_, hkept⟩
      rw [List.mem_append, List.mem_singleton, ← h.mem_iff]
      constructor
      · exact .inl
      · rintro (ha | rfl)
        · exact ha
        · exact hs
  · next hs =>
      refine ⟨fun a => by rw [List.mem_append, List.mem_append, h.mem_iff], ?_⟩
      rw [List.pairwise_append]
      refine ⟨hkept, List.pairwise_singleton _ _, fun a ha b hb => ?_⟩
      have hlt := List.idxOf_lt_length_of_mem ((h.mem_iff a).mp ha)
      rw [List.mem_singleton.mp hb, List.idxOf_append_of_mem ((h.mem_iff a).mp ha),
        List.idxOf_append_of_notMem (mt (h.mem_iff s).mpr hs)]
      exact Nat.lt_add_right _ hlt

/-- Listed one after the other, texts are listed once. -/
theorem ListsOnce.foldl {once texts : List String} (h : ListsOnce once texts) (ts : List Target) :
    ListsOnce (ts.foldl (fun once t => if t.family ∈ once then once else once ++ [t.family]) once)
      (texts ++ ts.map Target.family) := by
  induction ts generalizing once texts with
  | nil =>
      rw [List.map_nil, List.append_nil]
      exact h
  | cons t ts ih =>
      rw [List.map_cons, List.append_cons]
      exact ih (h.concat t.family)

/-! ## Catalogs -/

namespace Catalog

variable {c : Catalog} {ts : List Target} {id : String} {fault : AdmissionFault}

/-- A catalog that comes of a list has the targets of the list, and such a catalog does come of it. -/
theorem ofList_eq_ok_iff : ofList ts = .ok c ↔ c.targets = ts := by
  unfold ofList
  constructor
  · intro h
    split at h
    · cases h
    · cases h
      rfl
  · rintro rfl
    split
    · next hfault =>
        rw [c.admitted] at hfault
        cases hfault
    · rfl

/-- A list is turned down with the first fault in it. -/
theorem ofList_eq_error_iff : ofList ts = .error fault ↔ firstFault? [] ts = some fault := by
  unfold ofList
  constructor
  · intro h
    split at h
    · next hfault =>
        cases h
        exact hfault
    · cases h
  · intro h
    split
    · next hfault => rw [Option.some.inj (hfault.symm.trans h)]
    · next hnone =>
        rw [h] at hnone
        cases hnone

/-- The targets of a catalog fit together, since none was built otherwise. -/
theorem fitTogether (c : Catalog) : FitTogether c.targets :=
  fitBehind_nil_iff.mp (firstFault?_eq_none_iff.mp c.admitted)

/-- A catalog has an id if one of its targets does. -/
theorem contains_iff (c : Catalog) (id : String) : c.contains id = true ↔ id ∈ c.ids := by
  rw [contains, get?, List.find?_isSome, ids, List.mem_map]
  simp only [beq_iff_eq]

/-- Nothing is found exactly for the ids it does not have. -/
theorem get?_eq_none_iff : c.get? id = none ↔ id ∉ c.ids := by
  rw [← contains_iff, contains, Bool.not_eq_true, Option.isSome_eq_false_iff, Option.isNone_iff_eq_none]

/-- Such an id is not that of any target. -/
theorem not_mem_ids_iff : id ∉ c.ids ↔ ∀ t ∈ c.targets, t.id ≠ id := by
  rw [ids, List.mem_map]
  push Not
  rfl

/-- What is found is in the catalog, and has the id. -/
theorem mem_of_get?_eq_some {t : Target} (h : c.get? id = some t) : t ∈ c.targets ∧ t.id = id := by
  have hid := List.find?_some h
  exact ⟨List.mem_of_find?_eq_some h, beq_iff_eq.mp hid⟩

/-- **Every target of a catalog is found by its id.** -/
theorem get?_of_mem {t : Target} (ht : t ∈ c.targets) : c.get? t.id = some t := by
  have known : c.contains t.id = true := (c.contains_iff t.id).mpr (List.mem_map_of_mem ht)
  obtain ⟨found, hfound⟩ := Option.isSome_iff_exists.mp known
  obtain ⟨hmem, hid⟩ := mem_of_get?_eq_some hfound
  rw [hfound, List.inj_on_of_nodup_map c.fitTogether.1 hmem ht hid]

/-- What is found is what a lookup returns. -/
theorem lookup_of_get?_eq_some {t : Target} (h : c.get? id = some t) : c.lookup id = .ok t := by
  unfold lookup
  rw [h]

/-- Where nothing is found, the lookup fails and tells the id. -/
theorem lookup_of_get?_eq_none (h : c.get? id = none) : c.lookup id = .error (.unknownTarget id) := by
  unfold lookup
  rw [h]

/-- The families are listed once each, by where they come first. -/
theorem listsOnce_families (c : Catalog) : ListsOnce c.families (c.targets.map Target.family) :=
  ListsOnce.foldl ⟨fun _ => .rfl, .nil⟩ c.targets

/-- What a catalog of some targets answers. -/
structure Serves (c : Catalog) (ts : List Target) : Prop where
  targets_eq : c.targets = ts
  size_eq : c.size = ts.length
  known : ∀ t ∈ ts, c.lookup t.id = .ok t ∧ c.get? t.id = some t ∧ (∀ standIn, c.getD t.id standIn = t) ∧
    c.contains t.id = true
  unknown : ∀ id, (∀ t ∈ ts, t.id ≠ id) → c.lookup id = .error (.unknownTarget id) ∧ c.get? id = none ∧
    (∀ standIn, c.getD id standIn = standIn) ∧ c.contains id = false
  families_once : ListsOnce c.families (ts.map Target.family)

/-- **A catalog serves its targets.** -/
theorem serves (c : Catalog) : c.Serves c.targets where
  targets_eq := rfl
  size_eq := rfl
  known := by
    intro t ht
    have hget := get?_of_mem ht
    refine ⟨lookup_of_get?_eq_some hget, hget, fun standIn => ?_, (c.contains_iff t.id).mpr (List.mem_map_of_mem ht)⟩
    rw [getD, hget, Option.getD_some]
  unknown := by
    intro id stranger
    have hget : c.get? id = none := get?_eq_none_iff.mpr (not_mem_ids_iff.mpr stranger)
    refine ⟨lookup_of_get?_eq_none hget, hget, fun standIn => ?_, ?_⟩
    · rw [getD, hget, Option.getD_none]
    · rw [contains, hget, Option.isSome_none]
  families_once := c.listsOnce_families

/-- **Targets that fit together make a catalog that serves them; otherwise the first one that does not fit is told of.** -/
theorem ofList_serves_or_unfit (ts : List Target) :
    (FitTogether ts ∧ ∃ c, ofList ts = .ok c ∧ c.Serves ts) ∨
      ¬FitTogether ts ∧ ∃ fault, ofList ts = .error fault ∧
        ∃ front t rest, ts = front ++ t :: rest ∧ FitTogether front ∧ t.Unfit (front.map Target.id) fault := by
  cases hfault : firstFault? [] ts with
  | none =>
      left
      have hfit := fitBehind_nil_iff.mp (firstFault?_eq_none_iff.mp hfault)
      let c : Catalog := ⟨ts, hfault⟩
      exact ⟨hfit, c, ofList_eq_ok_iff.mpr rfl, c.serves⟩
  | some fault =>
      right
      refine ⟨?_, fault, ofList_eq_error_iff.mpr hfault, ?_⟩
      · rw [← fitBehind_nil_iff, ← firstFault?_eq_none_iff, hfault]
        exact Option.some_ne_none fault
      · obtain ⟨front, t, rest, split, hfront, unfit⟩ := firstFault?_eq_some_iff.mp hfault
        rw [List.append_nil] at unfit
        exact ⟨front, t, rest, split, fitBehind_nil_iff.mp hfront, unfit⟩

end Catalog

end SnippetCost
