import Mathlib.Data.List.Basic
import SnippetCost.Snippet.Composition

/-!
# What stands in front of a snippet

A preamble is told by whether its target is for another platform, and by the architecture.

* **`headerLines_preamble`**: the lines of it that include a header, all of them and in order.
* **`getLast?_preamble`**: it ends a line, so the snippet begins one.
-/

namespace SnippetCost

/-- A text of lines that end in line feeds is cut into these lines, and an empty one behind the last. -/
theorem splitOn_join {ls : List String} (h : ∀ l ∈ ls, '\n' ∉ l.toList) :
    ((String.join (ls.map (· ++ "\n"))).toList.splitOn '\n').map String.ofList = ls ++ [""] := by
  induction ls with
  | nil => rfl
  | cons l ls ih =>
      have htext : (String.join ((l :: ls).map (· ++ "\n"))).toList =
          l.toList ++ '\n' :: (String.join (ls.map (· ++ "\n"))).toList := by
        simp [String.toList_join]
      have hl := h l List.mem_cons_self
      rw [htext, List.splitOn_append_cons_self_of_not_mem hl, List.map_cons, String.ofList_toList,
        ih fun k hk => h k (List.mem_cons_of_mem l hk), List.cons_append]

/-- The lines of a preamble hold no line feeds. -/
theorem lineFeed_not_mem_preambleLines (isCross : Bool) (arch : ArchFamily) :
    ∀ l ∈ preambleLines isCross arch, '\n' ∉ l.toList := by
  cases isCross <;> cases arch <;> decide

/-- The lines of a text that include a header. -/
def includeLines (text : String) : List String :=
  ((text.toList.splitOn '\n').map String.ofList).filter fun line => "#include".toList <+: line.toList

theorem isInclude_includeLine (header : String) : "#include".toList <+: (includeLine header).toList := by
  refine ⟨" <".toList ++ (header.toList ++ ">".toList), ?_⟩
  simp [includeLine]

/-- The lines that make a type name include nothing. -/
theorem not_isInclude_of_mem_aliasLines {entry : String × String} {line : String} (h : line ∈ aliasLines entry) :
    ¬"#include".toList <+: line.toList := by
  rcases List.mem_cons.mp h with rfl | h
  · simp [List.cons_prefix_cons]
  rcases List.mem_pair.mp h with rfl | rfl
  · simp [List.cons_prefix_cons]
  · decide

/-- The headers of a preamble: the two of the host's platform, unless it is for another one, and that of the vector
functions of its architecture. -/
theorem includeLines_preamble (isCross : Bool) (arch : ArchFamily) :
    includeLines (preamble isCross arch) =
      (if isCross then [] else hostedHeaders.map includeLine) ++ [includeLine (intrinsicsHeader arch)] := by
  have included : ∀ headers : List String,
      (headers.map includeLine).filter (fun line => "#include".toList <+: line.toList) = headers.map includeLine := by
    intro headers
    rw [List.filter_eq_self]
    intro line hline
    obtain ⟨header, -, rfl⟩ := List.mem_map.mp hline
    exact decide_eq_true (isInclude_includeLine header)
  have others : ("" :: typeAliases.flatMap aliasLines ++ [""]).filter
      (fun line => "#include".toList <+: line.toList) = [] := by
    rw [List.filter_eq_nil_iff]
    intro line hline
    rw [List.mem_append, List.mem_cons, List.mem_flatMap, List.mem_singleton] at hline
    rcases hline with (rfl | ⟨entry, -, hentry⟩) | rfl
    · decide
    · exact fun hincludes => not_isInclude_of_mem_aliasLines hentry (of_decide_eq_true hincludes)
    · decide
  have headers : preambleLines isCross arch ++ [""] =
      ((if isCross then [] else hostedHeaders) ++ [intrinsicsHeader arch]).map includeLine ++
        ("" :: typeAliases.flatMap aliasLines ++ [""]) := by
    cases isCross <;> simp [preambleLines]
  rw [includeLines, preamble, splitOn_join (lineFeed_not_mem_preambleLines isCross arch), headers, List.filter_append,
    included, others, List.append_nil, List.map_append]
  cases isCross <;> rfl

/-- The line by which a text has the vector functions of an architecture. -/
inductive VectorLine : ArchFamily → String → Prop where
  | arm : VectorLine .arm "#include <arm_neon.h>"
  | powerpc : VectorLine .powerpc "#include <altivec.h>"
  | x86 : VectorLine .x86 "#include <immintrin.h>"
  /-- Of an architecture that is not known those of x86 are tried. -/
  | unknown : VectorLine .unknown "#include <immintrin.h>"

/-- The lines that include a header in front of a snippet, for a platform and an architecture. -/
inductive HeaderLines : Bool → ArchFamily → List String → Prop where
  | hosted {arch : ArchFamily} {line : String} (vectors : VectorLine arch line) :
      HeaderLines false arch ["#include <stddef.h>", "#include <stdint.h>", line]
  | freestanding {arch : ArchFamily} {line : String} (vectors : VectorLine arch line) : HeaderLines true arch [line]

/-- An architecture has one such line. -/
theorem VectorLine.unique {arch : ArchFamily} {line line' : String} (h : VectorLine arch line)
    (h' : VectorLine arch line') : line = line' := by
  cases h <;> cases h' <;> rfl

/-- A platform and an architecture settle these lines. -/
theorem HeaderLines.unique {isCross : Bool} {arch : ArchFamily} {lines lines' : List String}
    (h : HeaderLines isCross arch lines) (h' : HeaderLines isCross arch lines') : lines = lines' := by
  cases h with
  | hosted vectors =>
      cases h' with
      | hosted vectors' => rw [vectors.unique vectors']
  | freestanding vectors =>
      cases h' with
      | freestanding vectors' => rw [vectors.unique vectors']

/-- The header that is chosen for an architecture is included by its line. -/
theorem vectorLine_intrinsicsHeader (arch : ArchFamily) : VectorLine arch (includeLine (intrinsicsHeader arch)) := by
  cases arch with
  | arm => exact .arm
  | powerpc => exact .powerpc
  | x86 => exact .x86
  | unknown => exact .unknown

/-- **The headers of a preamble, line by line.** -/
theorem headerLines_preamble (isCross : Bool) (arch : ArchFamily) :
    HeaderLines isCross arch (includeLines (preamble isCross arch)) := by
  have vectors := vectorLine_intrinsicsHeader arch
  rw [includeLines_preamble]
  cases isCross with
  | false => exact .hosted vectors
  | true => exact .freestanding vectors

/-- A preamble ends a line, so what follows it begins one. -/
theorem getLast?_preamble (isCross : Bool) (arch : ArchFamily) :
    (preamble isCross arch).toList.getLast? = some '\n' := by
  have hne : preambleLines isCross arch ≠ [] :=
    List.append_ne_nil_of_right_ne_nil _ (List.cons_ne_nil _ _)
  obtain ⟨front, last, hlines⟩ := (List.eq_nil_or_concat (preambleLines isCross arch)).resolve_left hne
  simp [preamble, hlines, String.toList_join]

end SnippetCost
