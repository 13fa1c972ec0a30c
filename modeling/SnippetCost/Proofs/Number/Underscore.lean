import SnippetCost.Number.Literal
import SnippetCost.Proofs.Text.Runs

/-!
# Digits and underscores

In a numeral one underscore may stand between two digits.  So its digits come in runs (`IsRun`), and a text all of
whose underscores are in place falls into such runs and what stands between them.

* **`exists_run`**: the run that a text begins with is cut off, and the underscores behind it are in place again.
* **`takeWhile_joined`**, **`dropWhile_joined`**: this is also where the cut falls once the underscores are dropped.
-/

namespace SnippetCost.Number

open SnippetCost.Text

variable {c : Char} {cs w rest : List Char} {b : Bool}

/-- Digits of any script, with one underscore between neighbours at most. -/
inductive IsRun : List Char → Prop where
  | digit {d : Char} (digit : isDigit d = true) : IsRun [d]
  | next {d : Char} {cs : List Char} (digit : isDigit d = true) (rest : IsRun cs) : IsRun (d :: cs)
  | apart {d : Char} {cs : List Char} (digit : isDigit d = true) (rest : IsRun cs) : IsRun (d :: '_' :: cs)

/-- A text without its underscores. -/
def joined (cs : List Char) : List Char :=
  cs.filter (· != '_')

/-- An underscore is no digit. -/
theorem ne_underscore_of_isDigit (h : isDigit c = true) : c ≠ '_' := by
  rintro rfl
  exact absurd h (by decide)

/-! ## Underscores in place -/


/-- Any other character only says whether an underscore may follow. -/
theorem underscoresSeparate_cons (h : c ≠ '_') (b : Bool) (cs : List Char) :
    underscoresSeparate b (c :: cs) = underscoresSeparate (isDigit c) cs := by
  rw [underscoresSeparate.eq_4]
  · exact fun _ _ heq => absurd heq h
  · exact fun heq => absurd heq h

/-- Without underscores none of them is out of place. -/
theorem underscoresSeparate_of_not_mem (h : '_' ∉ cs) (b : Bool) : underscoresSeparate b cs = true := by
  induction cs generalizing b with
  | nil => rfl
  | cons c cs ih =>
      rw [List.mem_cons, not_or] at h
      rw [underscoresSeparate_cons (Ne.symm h.1)]
      exact ih h.2 (isDigit c)

/-- In front of a text whose underscores are in place stands no underscore, unless a digit stands before it. -/
theorem ne_underscore_of_separate (h : underscoresSeparate false (c :: cs) = true) : c ≠ '_' := by
  rintro rfl
  cases cs with
  | nil => cases h
  | cons d cs => cases h

/-- Between two digits an underscore does not matter. -/
theorem underscoresSeparate_apart {d : Char} (hd : isDigit d = true) (cs : List Char) :
    underscoresSeparate true ('_' :: d :: cs) = underscoresSeparate true (d :: cs) := by
  rw [underscoresSeparate.eq_2, underscoresSeparate_cons (ne_underscore_of_isDigit hd), hd, Bool.and_self,
    Bool.true_and]

/-- The text goes on with something that belongs to no run. -/
def Stops (rest : List Char) : Prop :=
  ∀ c ∈ rest.head?, isDigit c = false ∧ c ≠ '_'

/-- A run begins with a digit. -/
theorem IsRun.exists_cons (h : IsRun w) : ∃ d ds, w = d :: ds ∧ isDigit d = true := by
  cases h with
  | digit hd => exact ⟨_, _, rfl, hd⟩
  | next hd => exact ⟨_, _, rfl, hd⟩
  | apart hd => exact ⟨_, _, rfl, hd⟩

/-- So it is not empty. -/
theorem IsRun.ne_nil (h : IsRun w) : w ≠ [] := by
  obtain ⟨d, ds, rfl, -⟩ := h.exists_cons
  exact List.cons_ne_nil d ds

/-- A run is written with digits and underscores. -/
theorem IsRun.isDigit_or_eq (h : IsRun w) : ∀ c ∈ w, isDigit c = true ∨ c = '_' := by
  induction h with
  | digit hd => exact List.forall_mem_singleton.mpr (.inl hd)
  | next hd _ ih => exact List.forall_mem_cons.mpr ⟨.inl hd, ih⟩
  | apart hd _ ih => exact List.forall_mem_cons.mpr ⟨.inl hd, List.forall_mem_cons.mpr ⟨.inr rfl, ih⟩⟩

/-- The underscores of a run are in place. -/
theorem IsRun.underscoresSeparate_append (h : IsRun w) (b : Bool) (rest : List Char) :
    underscoresSeparate b (w ++ rest) = underscoresSeparate true rest := by
  induction h generalizing b with
  | digit hd => rw [List.singleton_append, underscoresSeparate_cons (ne_underscore_of_isDigit hd), hd]
  | next hd _ ih => rw [List.cons_append, underscoresSeparate_cons (ne_underscore_of_isDigit hd), ih]
  | apart hd hrun ih =>
      obtain ⟨e, es, rfl, he⟩ := hrun.exists_cons
      rw [List.cons_append, List.cons_append, underscoresSeparate_cons (ne_underscore_of_isDigit hd), hd,
        List.cons_append, underscoresSeparate_apart he, ← List.cons_append, ih]

/-- What follows a run or a stop is judged by itself. -/
theorem Stops.underscoresSeparate (h : Stops rest) (b : Bool) :
    underscoresSeparate b rest = underscoresSeparate false rest := by
  cases rest with
  | nil => rfl
  | cons c rest =>
      have hc : c ≠ '_' := (h c rfl).2
      rw [underscoresSeparate_cons hc, underscoresSeparate_cons hc]

/-- A text whose underscores are in place begins with a run, or the one that a digit before it has begun goes on. -/
theorem exists_run_behind (h : underscoresSeparate b cs = true) : ∃ w rest, cs = w ++ rest ∧
    (b = true → ∀ d, isDigit d = true → IsRun (d :: w)) ∧ (b = false → w = [] ∨ IsRun w) ∧ Stops rest ∧
      underscoresSeparate false rest = true := by
  fun_induction underscoresSeparate b cs with
  | case1 b => exact ⟨[], [], rfl, fun _ _ hd => .digit hd, fun _ => .inl rfl, nofun, rfl⟩
  | case2 b c cs ih =>
      rw [Bool.and_eq_true, Bool.and_eq_true] at h
      obtain ⟨⟨rfl, hc⟩, hcs⟩ := h
      obtain ⟨w, rest, rfl, begun, -, hrest⟩ := ih hcs
      exact ⟨'_' :: c :: w, rest, rfl, fun _ d hd => .apart hd (begun rfl c hc), nofun, hrest⟩
  | case3 b => cases h
  | case4 b c cs notFollowed notLast ih =>
      have hc : c ≠ '_' := by
        rintro rfl
        cases cs with
        | nil => exact notLast rfl rfl
        | cons d cs => exact notFollowed d cs rfl rfl
      obtain ⟨w, rest, hsplit, begun, afresh, hrest⟩ := ih h
      cases hdigit : isDigit c with
      | true => 
          refine ⟨c :: w, rest, by rw [hsplit, List.cons_append], fun _ d hd => .next hd (begun hdigit c hdigit),
            fun _ => .inr (begun hdigit c hdigit), hrest⟩
      | false =>
          refine ⟨[], c :: cs, rfl, fun _ d hd => .digit hd, fun _ => .inl rfl, ?_, ?_⟩
          · rintro _ ⟨⟩
            exact ⟨hdigit, hc⟩
          · rwa [underscoresSeparate_cons hc]

/-- A text whose underscores are in place is cut behind the run that it may begin with. -/
theorem exists_run (h : underscoresSeparate false cs = true) : ∃ w rest, cs = w ++ rest ∧ (w = [] ∨ IsRun w) ∧
    Stops rest ∧ underscoresSeparate false rest = true := by
  obtain ⟨w, rest, hsplit, -, afresh, hrest⟩ := exists_run_behind h
  exact ⟨w, rest, hsplit, afresh rfl, hrest⟩

/-! ## Without underscores -/

/-- Underscores are dropped one by one. -/
theorem joined_append (cs ds : List Char) : joined (cs ++ ds) = joined cs ++ joined ds :=
  List.filter_append cs ds

/-- Any other character is kept. -/
theorem joined_cons (h : c ≠ '_') (cs : List Char) : joined (c :: cs) = c :: joined cs :=
  List.filter_cons_of_pos (bne_iff_ne.mpr h)

/-- Without underscores nothing is dropped. -/
theorem joined_eq_self (h : '_' ∉ cs) : joined cs = cs :=
  List.filter_eq_self.mpr (forall_bne_of_not_mem h)

/-- Digits are what a run leaves. -/
theorem isDigit_of_mem_joined (h : w = [] ∨ IsRun w) : ∀ c ∈ joined w, isDigit c = true := by
  intro c hc
  obtain ⟨hmem, hne⟩ := List.mem_filter.mp hc
  rcases h with rfl | h
  · cases hmem
  · exact (h.isDigit_or_eq c hmem).resolve_right (bne_iff_ne.mp hne)

/-- A run leaves something. -/
theorem joined_eq_nil_iff (h : w = [] ∨ IsRun w) : joined w = [] ↔ w = [] := by
  rcases h with rfl | h
  · exact Iff.rfl
  · obtain ⟨d, ds, rfl, hd⟩ := h.exists_cons
    rw [joined_cons (ne_underscore_of_isDigit hd)]
    exact iff_of_false (List.cons_ne_nil _ _) (List.cons_ne_nil _ _)

/-- What stops a run does so without its underscores, too. -/
theorem Stops.head?_joined (h : Stops rest) : (joined rest).head? = rest.head? := by
  cases rest with
  | nil => rfl
  | cons c rest => rw [joined_cons (h c rfl).2, List.head?_cons, List.head?_cons]

/-- Where digits and underscores stop there is no digit without the underscores either. -/
theorem Stops.not_isDigit (h : Stops rest) : ∀ c ∈ (joined rest).head?, isDigit c = false := by
  rw [h.head?_joined]
  exact fun c hc => (h c hc).1

/-- A run is cut off as its digits. -/
theorem takeWhile_joined (hw : w = [] ∨ IsRun w) (hrest : Stops rest) :
    (joined (w ++ rest)).takeWhile isDigit = joined w := by
  rw [joined_append]
  exact takeWhile_run (isDigit_of_mem_joined hw) hrest.not_isDigit

/-- So the digits in front of it are the same, with underscores or without. -/
theorem dropWhile_joined (hw : w = [] ∨ IsRun w) (hrest : Stops rest) :
    (joined (w ++ rest)).dropWhile isDigit = joined rest := by
  rw [joined_append]
  exact dropWhile_run (isDigit_of_mem_joined hw) hrest.not_isDigit

/-- A text of digits whose underscores are in place is a run. -/
theorem isRun_of_joined (h : underscoresSeparate false cs = true) (hne : joined cs ≠ [])
    (digits : ∀ c ∈ joined cs, isDigit c = true) : IsRun cs := by
  obtain ⟨w, rest, rfl, hw, hrest, -⟩ := exists_run h
  cases rest with
  | nil =>
      rw [List.append_nil] at hne ⊢
      rcases hw with rfl | hw
      · exact absurd rfl hne
      · exact hw
  | cons c rest =>
      obtain ⟨hdigit, hc⟩ := hrest c rfl
      have hmem : c ∈ joined (w ++ c :: rest) := by
        rw [joined_append, joined_cons hc]
        exact List.mem_append_right _ List.mem_cons_self
      rw [digits c hmem] at hdigit
      cases hdigit

end SnippetCost.Number
