import SnippetCost.Proofs.Json.Numeral

/-!
# ASCII

Whatever characters the texts of a value have, the text it is written as is ASCII (`isAscii_render`).
-/

namespace SnippetCost.Json

open SnippetCost.Number

/-- All characters are ASCII. -/
def IsAscii (cs : List Char) : Prop :=
  ∀ c ∈ cs, c.toNat < 0x80

/-- The empty text is ASCII. -/
theorem isAscii_nil : IsAscii [] :=
  List.forall_mem_nil _

/-- Two texts together are ASCII if both of them are. -/
theorem isAscii_append {cs ds : List Char} : IsAscii (cs ++ ds) ↔ IsAscii cs ∧ IsAscii ds :=
  List.forall_mem_append

/-- One more character counts for itself. -/
theorem isAscii_cons {c : Char} {cs : List Char} : IsAscii (c :: cs) ↔ c.toNat < 0x80 ∧ IsAscii cs :=
  List.forall_mem_cons

/-- The same for a text that is written out, by evaluation. -/
theorem isAscii_of_all {cs : List Char} (h : cs.all (fun c => decide (c.toNat < 0x80)) = true) : IsAscii cs :=
  fun c hc => of_decide_eq_true (List.all_eq_true.mp h c hc)

/-! ## Texts -/

/-- An escaped code unit: a backslash, a letter and hexadecimal digits. -/
theorem isAscii_unitEscape (unit : Nat) : IsAscii (unitEscape unit) := by
  have digit : ∀ m < 16, m.digitChar.toNat < 0x80 := by decide
  have digits : ∀ width n, IsAscii (Text.hexDigitsRev width n) := by
    intro width
    induction width with
    | zero => exact fun n => isAscii_nil
    | succ width ih => exact fun n => isAscii_cons.mpr ⟨digit (n % 16) (Nat.mod_lt n (by decide)), ih (n / 16)⟩
  refine isAscii_cons.mpr ⟨by decide, isAscii_cons.mpr ⟨by decide, ?_⟩⟩
  exact fun c hc => digits 4 unit c (List.mem_reverse.mp hc)

/-- A character stands for itself only if it is ASCII; otherwise one or two code units stand for it. -/
theorem isAscii_escapedChar (c : Char) : IsAscii (escapedChar c) := by
  have letter : ∀ {l : Char}, l.toNat < 0x80 → IsAscii ['\\', l] := fun hl =>
    isAscii_cons.mpr ⟨by decide, isAscii_cons.mpr ⟨hl, isAscii_nil⟩⟩
  unfold escapedChar
  dsimp only
  split_ifs with hquoted hfeed hreturn htab hback hform hrange hunit
  · rcases hquoted with rfl | rfl
    · exact letter (by decide)
    · exact letter (by decide)
  · exact letter (by decide)
  · exact letter (by decide)
  · exact letter (by decide)
  · exact letter (by decide)
  · exact letter (by decide)
  · exact isAscii_cons.mpr ⟨by omega, isAscii_nil⟩
  · exact isAscii_unitEscape _
  · exact isAscii_append.mpr ⟨isAscii_unitEscape _, isAscii_unitEscape _⟩

/-- Every text is written in ASCII. -/
theorem isAscii_textChars (s : String) : IsAscii (textChars s) := by
  have hbody : IsAscii (s.toList.flatMap escapedChar) := by
    intro c hc
    obtain ⟨d, -, hc⟩ := List.mem_flatMap.mp hc
    exact isAscii_escapedChar d c hc
  exact isAscii_cons.mpr ⟨by decide, isAscii_append.mpr ⟨hbody, isAscii_cons.mpr ⟨by decide, isAscii_nil⟩⟩⟩

/-! ## Numbers -/

/-- A number has digits and five other characters, no others. -/
theorem IsNumeral.isAscii {cs : List Char} (h : IsNumeral cs) : IsAscii cs := by
  intro c hc
  rcases h.isNumberChar c hc with hdigit | hmark
  · have hrange := (Bool.and_eq_true _ _).mp hdigit
    have hupper : c.toNat ≤ 57 := of_decide_eq_true hrange.2
    omega
  · have hmarks : ∀ m ∈ ['.', 'e', 'E', '+', '-'], m.toNat < 0x80 := List.all_iff_forall_prop.mp (by decide)
    exact hmarks c hmark

/-- Whole numbers are numbers of the grammar. -/
theorem isAscii_integer (n : Int) : IsAscii (toString n).toList :=
  (isNumeral_toString n).isAscii

/-- So are the finite ones; the words for the others are ASCII as well. -/
theorem isAscii_decimal (x : Binary64) : IsAscii (decimalChars x) := by
  cases hfinite : x.isFinite with
  | true => exact (isNumeral_decimalChars hfinite).isAscii
  | false =>
      cases x with
      | nan => exact isAscii_of_all (by decide)
      | infinite negative => cases negative <;> exact isAscii_of_all (by decide)
      | finite negative units => cases hfinite

/-! ## Values -/

/-- A line feed and blanks, or nothing. -/
theorem isAscii_lineStart (indent : Option Nat) (depth : Nat) : IsAscii (lineStart indent depth) := by
  cases indent with
  | none => exact isAscii_nil
  | some width =>
      refine isAscii_cons.mpr ⟨by decide, ?_⟩
      intro c hc
      rw [(List.mem_replicate.mp hc).2]
      decide

/-- What stands between two items, with and without indentation. -/
theorem isAscii_separator (indent : Option Nat) (depth : Nat) : IsAscii (separator indent depth) := by
  have hblank : IsAscii [',', ' '] := isAscii_of_all (by decide)
  cases indent with
  | none => exact hblank
  | some width => exact isAscii_cons.mpr ⟨by decide, isAscii_lineStart (some width) depth⟩

mutual

/-- A value within others, by recursion on it: its names and texts are the only parts that are chosen from outside. -/
theorem isAscii_print (indent : Option Nat) : (v : Json) → (depth : Nat) → IsAscii (print indent depth v)
  | .text s, _ => isAscii_textChars s
  | .integer n, _ => isAscii_integer n
  | .decimal x, _ => isAscii_decimal x
  | .list [], _ => by
      have hempty : IsAscii ['[', ']'] := isAscii_of_all (by decide)
      exact hempty
  | .list (item :: items), depth => by
      have hitem := isAscii_print indent item (depth + 1)
      have hitems := isAscii_printItems indent items (depth + 1)
      simp [print, isAscii_append, isAscii_cons, isAscii_nil, isAscii_lineStart, hitem, hitems]
  | .record [], _ => by
      have hempty : IsAscii ['\x7b', '\x7d'] := isAscii_of_all (by decide)
      exact hempty
  | .record ((name, value) :: fields), depth => by
      have hvalue := isAscii_print indent value (depth + 1)
      have hfields := isAscii_printFields indent fields (depth + 1)
      simp [print, isAscii_append, isAscii_cons, isAscii_nil, isAscii_lineStart, isAscii_textChars, hvalue, hfields]

/-- The items of a list behind the first. -/
theorem isAscii_printItems (indent : Option Nat) : (items : List Json) → (depth : Nat) →
    IsAscii (printItems indent depth items)
  | [], _ => isAscii_nil
  | item :: items, depth => by
      have hitem := isAscii_print indent item depth
      have hitems := isAscii_printItems indent items depth
      simp [printItems, isAscii_append, isAscii_separator, hitem, hitems]

/-- The fields of a record behind the first. -/
theorem isAscii_printFields (indent : Option Nat) : (fields : List (String × Json)) → (depth : Nat) →
    IsAscii (printFields indent depth fields)
  | [], _ => isAscii_nil
  | (name, value) :: fields, depth => by
      have hvalue := isAscii_print indent value depth
      have hfields := isAscii_printFields indent fields depth
      simp [printFields, isAscii_append, isAscii_cons, isAscii_separator, isAscii_textChars, hvalue, hfields]

end

/-- **The text of a value is ASCII**, with any indentation. -/
theorem isAscii_render (indent : Option Nat) (v : Json) : IsAscii (v.render indent).toList := by
  rw [render, String.toList_ofList]
  exact isAscii_print indent v 0

end SnippetCost.Json
