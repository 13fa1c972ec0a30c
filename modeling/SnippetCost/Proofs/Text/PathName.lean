import Mathlib.Data.List.Basic
import SnippetCost.Text.PathName

/-!
# Path names in normal form

A path name is written as the slashes it starts with and pieces between slashes.  Its normal form has the same slashes
at the start, and of the pieces those that say something: the empty piece and the single dot do not.

* **`normalPath_written`**: the normal form of a name that is written in this way;
* **`normalPath_of_speaking`**: so a name all of whose pieces say something is in normal form as it is;
* **`mem_text_ofString_iff`**: apart from dots and slashes, a name and its normal form are made of the same characters.

Everything follows from one equation: the pieces of a name are what `List.splitOn` makes of it (`pieces_eq_splitOn`).
-/

namespace SnippetCost.Text

namespace PathName

/-! ## Pieces -/

/-- The pieces of a name are what stands between its slashes; the one being read goes on in the first. -/
theorem pieces_eq_splitOn (current cs : List Char) :
    pieces current cs = (cs.splitOn '/').modifyHead (current.reverse ++ ·) := by
  induction cs generalizing current with
  | nil => simp [pieces]
  | cons c cs ih =>
      rw [pieces, List.splitOn_eq_splitOnP, List.splitOnP_cons_eq_if_modifyHead, ← List.splitOn_eq_splitOnP]
      by_cases hc : c = '/'
      · rw [if_pos hc, if_pos (beq_iff_eq.mpr hc), ih, List.modifyHead_cons, List.append_nil]
        cases cs.splitOn '/' <;> rfl
      · rw [if_neg hc, if_neg (mt beq_iff_eq.mp hc), ih]
        cases cs.splitOn '/' <;> simp

theorem pieces_nil (cs : List Char) : pieces [] cs = cs.splitOn '/' := by
  rw [pieces_eq_splitOn]
  cases cs.splitOn '/' <;> rfl

/-- What stands between slashes, and no slash itself, stands in a piece. -/
theorem mem_intercalate_iff {c : Char} (hc : c ≠ '/') {ls : List (List Char)} :
    c ∈ ['/'].intercalate ls ↔ ∃ l ∈ ls, c ∈ l := by
  induction ls with
  | nil => simp
  | cons l ls ih =>
      cases ls with
      | nil => simp
      | cons m ms =>
          rw [List.intercalate_cons_cons, List.mem_append, List.mem_append, ih]
          simp [hc]

/-- The pieces are made of the characters of the name, apart from its slashes. -/
theorem mem_pieces_iff {c : Char} (hc : c ≠ '/') {cs : List Char} :
    (∃ piece ∈ pieces [] cs, c ∈ piece) ↔ c ∈ cs := by
  rw [pieces_nil, ← mem_intercalate_iff hc, List.intercalate_splitOn]

/-! ## Slashes at the start -/

theorem eq_slash_of_mem_anchorOf {c : Char} {cs : List Char} (h : c ∈ (anchorOf cs).toList) : c = '/' := by
  unfold anchorOf at h
  split at h
  · exact List.mem_singleton.mp h
  · rcases List.mem_pair.mp h with h | h
    · exact h
    · exact h
  · exact List.mem_singleton.mp h
  · cases h

/-- No slash, one, or two, with something else behind them. -/
theorem anchorOf_append {anchor : String} (hanchor : anchor ∈ ["", "/", "//"]) {c : Char} (hc : c ≠ '/')
    (cs : List Char) : anchorOf (anchor.toList ++ c :: cs) = anchor := by
  rw [List.mem_cons, List.mem_pair] at hanchor
  rcases hanchor with rfl | rfl | rfl
  · change anchorOf (c :: cs) = ""
    unfold anchorOf
    split <;> grind
  · change anchorOf ('/' :: c :: cs) = "/"
    unfold anchorOf
    split <;> grind
  · change anchorOf ('/' :: '/' :: c :: cs) = "//"
    unfold anchorOf
    split <;> grind

/-- Slashes at the start make empty pieces. -/
theorem exists_pieces_append {anchor : String} (hanchor : anchor ∈ ["", "/", "//"]) (cs : List Char) :
    ∃ empty, (∀ piece ∈ empty, piece = []) ∧ pieces [] (anchor.toList ++ cs) = empty ++ cs.splitOn '/' := by
  have slash : ∀ cs : List Char, ('/' :: cs).splitOn '/' = [] :: cs.splitOn '/' :=
    List.splitOn_append_cons_self_of_not_mem List.not_mem_nil
  rw [List.mem_cons, List.mem_pair] at hanchor
  rw [pieces_nil]
  rcases hanchor with rfl | rfl | rfl
  · exact ⟨[], List.forall_mem_nil _, rfl⟩
  · exact ⟨[[]], List.forall_mem_singleton.mpr rfl, slash cs⟩
  · refine ⟨[[], []], by simp, ?_⟩
    change ('/' :: '/' :: cs).splitOn '/' = _
    rw [slash, slash]
    rfl

/-! ## The normal form -/

/-- A piece of a name that says something. -/
def Speaks (piece : String) : Prop :=
  piece ≠ "" ∧ piece ≠ "."

instance (piece : String) : Decidable (Speaks piece) :=
  inferInstanceAs (Decidable (_ ∧ _))

/-- Of the pieces those are kept that say something. -/
theorem map_filter_pieces (ps : List String) :
    ((ps.map String.toList).filter fun p => p != [] && p != ['.']).map String.ofList =
      ps.filter fun p => Speaks p := by
  have same : ∀ p : String, (p.toList != [] && p.toList != ['.']) = decide (Speaks p) := by
    intro p
    rw [Bool.eq_iff_iff, Bool.and_eq_true, bne_iff_ne, bne_iff_ne, decide_eq_true_iff, Speaks]
    have dotted : p.toList = ".".toList ↔ p = "." := String.toList_inj
    exact and_congr (not_congr String.toList_eq_nil_iff) (not_congr dotted)
  rw [List.filter_map, List.map_map]
  simp [Function.comp_def, same]

/-- A name is read as its slashes and those of its pieces that say something. -/
theorem ofString_written {anchor first : String} {more : List String} (hanchor : anchor ∈ ["", "/", "//"])
    (named : first ≠ "") (unslashed : ∀ p ∈ first :: more, '/' ∉ p.toList) :
    ofString (anchor ++ "/".intercalate (first :: more)) =
      ⟨anchor, (first :: more).filter fun p => Speaks p⟩ := by
  have hbody : ("/".intercalate (first :: more)).toList =
      ['/'].intercalate ((first :: more).map String.toList) := String.toList_intercalate
  have unslashed' : ∀ l ∈ (first :: more).map String.toList, '/' ∉ l := List.forall_mem_map.mpr unslashed
  have hsplit : (['/'].intercalate ((first :: more).map String.toList)).splitOn '/' =
      (first :: more).map String.toList := List.splitOn_intercalate '/' unslashed' (List.cons_ne_nil _ _)
  unfold ofString
  rw [String.toList_append, hbody, mk.injEq]
  constructor
  · -- The first piece keeps the slashes at the start apart from those between the pieces.
    obtain ⟨c, cs, hfirst⟩ := List.exists_cons_of_ne_nil (mt String.toList_eq_nil_iff.mp named)
    have hc : c ≠ '/' := by
      rintro rfl
      exact unslashed first List.mem_cons_self (hfirst ▸ List.mem_cons_self)
    obtain ⟨rest, hrest⟩ : ∃ rest, ['/'].intercalate ((first :: more).map String.toList) = c :: rest := by
      cases more with
      | nil => exact ⟨cs, by simp [hfirst]⟩
      | cons next more => exact ⟨_, by rw [List.map_cons, List.map_cons, List.intercalate_cons_cons, hfirst]; rfl⟩
    rw [hrest]
    exact anchorOf_append hanchor hc rest
  · obtain ⟨empty, hempty, hpieces⟩ := exists_pieces_append hanchor
      (['/'].intercalate ((first :: more).map String.toList))
    have hdropped : (empty.filter fun p => p != [] && p != ['.']) = [] := by
      rw [List.filter_eq_nil_iff]
      intro p hp
      rw [hempty p hp]
      decide
    rw [hpieces, hsplit, List.filter_append, hdropped, List.nil_append, map_filter_pieces]

/-- Apart from dots and slashes, a name and its normal form are made of the same characters. -/
theorem mem_text_ofString_iff {c : Char} {s : String} (hdot : c ≠ '.') (hslash : c ≠ '/') :
    c ∈ (ofString s).text.toList ↔ c ∈ s.toList := by
  have hparts : (∃ part ∈ (ofString s).parts, c ∈ part.toList) ↔ c ∈ s.toList := by
    rw [← mem_pieces_iff hslash]
    constructor
    · rintro ⟨part, hpart, hc⟩
      obtain ⟨piece, hpiece, rfl⟩ := List.mem_map.mp hpart
      rw [String.toList_ofList] at hc
      exact ⟨piece, List.mem_of_mem_filter hpiece, hc⟩
    · rintro ⟨piece, hpiece, hc⟩
      have kept : (piece != [] && piece != ['.']) = true := by
        rw [Bool.and_eq_true, bne_iff_ne, bne_iff_ne]
        refine ⟨List.ne_nil_of_mem hc, ?_⟩
        rintro rfl
        exact hdot (List.mem_singleton.mp hc)
      refine ⟨String.ofList piece, List.mem_map_of_mem (List.mem_filter.mpr ⟨hpiece, kept⟩), ?_⟩
      rwa [String.toList_ofList]
  have hbody : c ∈ ("/".intercalate (ofString s).parts).toList ↔ ∃ part ∈ (ofString s).parts, c ∈ part.toList := by
    rw [String.toList_intercalate]
    change c ∈ ['/'].intercalate _ ↔ _
    simp [mem_intercalate_iff hslash]
  rw [← hparts, ← hbody]
  unfold text
  split
  · rename_i blank
    rw [Bool.and_eq_true, List.isEmpty_iff] at blank
    rw [blank.2]
    exact iff_of_false (fun h => hdot (List.mem_singleton.mp h)) List.not_mem_nil
  · rw [String.toList_append, List.mem_append, or_iff_right]
    exact fun h => hslash (eq_slash_of_mem_anchorOf h)

end PathName

open PathName

variable {anchor first : String} {more : List String}

/-- **The normal form of a name**, written as slashes and pieces, has these slashes and the pieces that say
something. -/
theorem normalPath_written (hanchor : anchor ∈ ["", "/", "//"]) (named : first ≠ "")
    (unslashed : ∀ p ∈ first :: more, '/' ∉ p.toList) (speaks : ∃ p ∈ first :: more, Speaks p) :
    normalPath (anchor ++ "/".intercalate (first :: more)) =
      anchor ++ "/".intercalate ((first :: more).filter fun p => Speaks p) := by
  obtain ⟨p, hp, hspeaks⟩ := speaks
  have hne : (first :: more).filter (fun p => Speaks p) ≠ [] :=
    List.ne_nil_of_mem (List.mem_filter.mpr ⟨hp, decide_eq_true hspeaks⟩)
  unfold normalPath
  rw [ofString_written hanchor named unslashed, text, if_neg]
  rw [Bool.and_eq_true, List.isEmpty_iff]
  exact fun h => hne h.2

/-- **A name all of whose pieces say something** is in normal form. -/
theorem normalPath_of_speaking (hanchor : anchor ∈ ["", "/", "//"])
    (unslashed : ∀ p ∈ first :: more, '/' ∉ p.toList) (speaks : ∀ p ∈ first :: more, Speaks p) :
    normalPath (anchor ++ "/".intercalate (first :: more)) = anchor ++ "/".intercalate (first :: more) := by
  have hfirst := speaks first List.mem_cons_self
  rw [normalPath_written hanchor hfirst.1 unslashed ⟨first, List.mem_cons_self, hfirst⟩,
    List.filter_eq_self.mpr fun p hp => decide_eq_true (speaks p hp)]

example : normalPath "//opt/./llvm//bin/../clang/" = "//opt/llvm/bin/../clang" := by decide

end SnippetCost.Text
