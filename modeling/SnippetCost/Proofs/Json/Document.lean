import SnippetCost.Proofs.Json.Numeral

/-!
# Values as JSON texts

The text of a value is one of the grammar exactly if all decimals in the value are finite, whatever the
indentation is.

* **`isDocument_render_iff`**: in one direction the grammar is followed from the value down (`derives_print`); in the
  other a decimal that is not finite leaves a letter outside of strings that the grammar does not have
  (`betrays_print`).

Both go along the recursion of the printer: a value, the items behind the first one of a list, and the fields
behind the first one of a record.
-/

namespace SnippetCost.Json

open SnippetCost.Number

/-! ## Decimals in values -/

mutual

/-- Are all decimals in the value finite? -/
def isFinite : Json → Bool
  | .text _ => true
  | .integer _ => true
  | .decimal x => x.isFinite
  | .list items => itemsFinite items
  | .record fields => fieldsFinite fields

/-- Are all decimals in the items finite? -/
def itemsFinite : List Json → Bool
  | [] => true
  | item :: items => item.isFinite && itemsFinite items

/-- Are all decimals in the fields finite? -/
def fieldsFinite : List (String × Json) → Bool
  | [] => true
  | (_, value) :: fields => value.isFinite && fieldsFinite fields

end

/-- A list is finite if all its items are. -/
theorem itemsFinite_eq_all (items : List Json) : itemsFinite items = items.all isFinite := by
  induction items with
  | nil => rfl
  | cons item items ih => rw [itemsFinite, List.all_cons, ih]

/-! ## Texts -/

/-- Pieces behind pieces make a longer string. -/
theorem IsBody.append {body body' : List Char} (h : IsBody body) (h' : IsBody body') :
    IsBody (body ++ body') := by
  induction h with
  | nil => exact h'
  | cons hfirst _ ih =>
      rw [List.append_assoc]
      exact .cons hfirst ih

/-- A piece alone makes one. -/
theorem IsPiece.isBody {piece : List Char} (h : IsPiece piece) : IsBody piece := by
  have hbody : IsBody (piece ++ []) := .cons h .nil
  rwa [List.append_nil] at hbody

/-- An escaped code unit is a piece. -/
theorem isPiece_unitEscape (unit : Nat) : IsPiece (unitEscape unit) := by
  have digit : ∀ m < 16, IsHexDigit m.digitChar := by
    unfold IsHexDigit
    decide
  have digits : ∀ width n, (Text.hexDigitsRev width n).length = width ∧
      ∀ c ∈ Text.hexDigitsRev width n, IsHexDigit c := by
    intro width
    induction width with
    | zero => exact fun n => ⟨rfl, List.forall_mem_nil _⟩
    | succ width ih =>
        intro n
        obtain ⟨hlength, hall⟩ := ih (n / 16)
        rw [Text.hexDigitsRev, List.length_cons, List.forall_mem_cons, hlength]
        exact ⟨rfl, digit (n % 16) (Nat.mod_lt n (by decide)), hall⟩
  obtain ⟨hlength, hall⟩ := digits 4 unit
  refine .unit ?_ ?_
  · rw [Text.hexDigits, List.length_reverse, hlength]
  · intro c hc
    exact hall c (List.mem_reverse.mp hc)

/-- A character is written as one piece of a string, or as two if it needs two units. -/
theorem isBody_escapedChar (c : Char) : IsBody (escapedChar c) := by
  have letter : ∀ {l : Char}, l ∈ ['"', '\\', '/', 'b', 'f', 'n', 'r', 't'] → IsBody ['\\', l] :=
    fun hknown => (IsPiece.letter hknown).isBody
  unfold escapedChar
  dsimp only
  split_ifs with hquoted hfeed hreturn htab hback hform hrange hunit
  · rcases hquoted with rfl | rfl
    · exact letter (by decide)
    · exact letter (by decide)
  · exact letter (by decide)
  · exact letter (by decide)
  · exact letter (by decide)
  · exact letter (by decide)
  · exact letter (by decide)
  · rw [not_or] at hquoted
    exact (IsPiece.plain hrange.1 hquoted.1 hquoted.2).isBody
  · exact (isPiece_unitEscape _).isBody
  · exact (isPiece_unitEscape _).isBody.append (isPiece_unitEscape _).isBody

/-- Every text is written as a string of the grammar. -/
theorem isText_textChars (s : String) : IsText (textChars s) := by
  have hbody : ∀ cs : List Char, IsBody (cs.flatMap escapedChar) := by
    intro cs
    induction cs with
    | nil => exact .nil
    | cons c cs ih =>
        rw [List.flatMap_cons]
        exact (isBody_escapedChar c).append ih
  exact ⟨s.toList.flatMap escapedChar, hbody s.toList, rfl⟩

/-! ## Layout -/

/-- White space may be missing. -/
theorem isSpace_nil : IsSpace [] :=
  List.forall_mem_nil _

theorem isSpace_blank : IsSpace [' '] :=
  List.forall_mem_singleton.mpr (.inl rfl)

/-- What starts a line is white space. -/
theorem isSpace_lineStart (indent : Option Nat) (depth : Nat) : IsSpace (lineStart indent depth) := by
  cases indent with
  | none => exact isSpace_nil
  | some width =>
      unfold IsSpace lineStart
      rw [List.forall_mem_cons]
      refine ⟨.inr (.inr (.inl rfl)), ?_⟩
      intro c hc
      exact .inl (List.mem_replicate.mp hc).2

/-- A separator is a comma and white space. -/
theorem exists_separator_eq (indent : Option Nat) (depth : Nat) :
    ∃ space, IsSpace space ∧ separator indent depth = ',' :: space := by
  cases indent with
  | none => exact ⟨[' '], isSpace_blank, rfl⟩
  | some width => exact ⟨lineStart (some width) depth, isSpace_lineStart _ _, rfl⟩

/-! ## The texts of finite values -/

mutual

/-- The text of a value with finite decimals is a value of the grammar. -/
theorem derives_print (indent : Option Nat) : (v : Json) → (depth : Nat) → v.isFinite = true →
    Derives .value (print indent depth v)
  | .text s, _, _ => .text (isText_textChars s)
  | .integer n, _, _ => .numeral (isNumeral_toString n)
  | .decimal _, _, h => .numeral (isNumeral_decimalChars h)
  | .list [], _, _ => .emptyList isSpace_nil
  | .list (item :: items), depth, h => by
      rw [isFinite, itemsFinite, Bool.and_eq_true] at h
      have hlist := derives_printItems indent items (depth + 1) h.2 (isSpace_lineStart indent (depth + 1))
        (derives_print indent item (depth + 1) h.1) (isSpace_lineStart indent depth)
      have heq : print indent depth (.list (item :: items)) = '[' :: ((lineStart indent (depth + 1) ++
          (print indent (depth + 1) item ++ (printItems indent (depth + 1) items ++
            lineStart indent depth))) ++ [']']) := by
        simp [print]
      rw [heq]
      exact .list hlist
  | .record [], _, _ => .emptyRecord isSpace_nil
  | .record ((name, value) :: fields), depth, h => by
      rw [isFinite, fieldsFinite, Bool.and_eq_true] at h
      have hrecord := derives_printFields indent fields (depth + 1) h.2 (isSpace_lineStart indent (depth + 1))
        (isText_textChars name) (derives_print indent value (depth + 1) h.1) (isSpace_lineStart indent depth)
      have heq : print indent depth (.record ((name, value) :: fields)) = '\x7b' ::
          ((lineStart indent (depth + 1) ++ (textChars name ++ ([] ++ ':' :: ([' '] ++
            (print indent (depth + 1) value ++ (printFields indent (depth + 1) fields ++
              lineStart indent depth)))))) ++ ['\x7d']) := by
        simp [print]
      rw [heq]
      exact .record hrecord

/-- An item, the further items behind it, and the space around them. -/
theorem derives_printItems (indent : Option Nat) : (items : List Json) → (depth : Nat) →
    itemsFinite items = true → ∀ {a v b : List Char}, IsSpace a → Derives .value v → IsSpace b →
    Derives .items (a ++ (v ++ (printItems indent depth items ++ b)))
  | [], _, _, _, _, _, ha, hv, hb => .lastItem ha hv hb
  | item :: items, depth, h, a, v, b, ha, hv, hb => by
      rw [itemsFinite, Bool.and_eq_true] at h
      obtain ⟨space, hspace, hseparator⟩ := exists_separator_eq indent depth
      have hrest := derives_printItems indent items depth h.2 hspace (derives_print indent item depth h.1) hb
      have heq : printItems indent depth (item :: items) ++ b =
          [] ++ ',' :: (space ++ (print indent depth item ++ (printItems indent depth items ++ b))) := by
        simp [printItems, hseparator]
      rw [heq]
      exact .item ha hv isSpace_nil hrest

/-- A field, the further fields behind it, and the space around them. -/
theorem derives_printFields (indent : Option Nat) : (fields : List (String × Json)) → (depth : Nat) →
    fieldsFinite fields = true → ∀ {a name v b : List Char}, IsSpace a → IsText name → Derives .value v →
    IsSpace b → Derives .members
      (a ++ (name ++ ([] ++ ':' :: ([' '] ++ (v ++ (printFields indent depth fields ++ b))))))
  | [], _, _, _, _, _, _, ha, hname, hv, hb => .lastMember ha hname isSpace_nil isSpace_blank hv hb
  | (key, value) :: fields, depth, h, a, name, v, b, ha, hname, hv, hb => by
      rw [fieldsFinite, Bool.and_eq_true] at h
      obtain ⟨space, hspace, hseparator⟩ := exists_separator_eq indent depth
      have hrest := derives_printFields indent fields depth h.2 hspace (isText_textChars key)
        (derives_print indent value depth h.1) hb
      have heq : printFields indent depth ((key, value) :: fields) ++ b =
          [] ++ ',' :: (space ++ (textChars key ++ ([] ++ ':' :: ([' '] ++
            (print indent depth value ++ (printFields indent depth fields ++ b)))))) := by
        simp [printFields, hseparator]
      rw [heq]
      exact .member ha hname isSpace_nil isSpace_blank hv isSpace_nil hrest

end

/-! ## The texts of other values -/

/-- The text opens and closes its strings, and if not all of it is finite, a letter outside of them shows it. -/
def Betrays (finite : Bool) (cs : List Char) : Prop :=
  ∃ bits, Bares cs bits ∧ (finite = false → ∃ c ∈ bits, IsWordLetter c)

/-- A plain text betrays nothing. -/
theorem Plain.betrays {cs : List Char} (h : Plain cs) : Betrays true cs := by
  obtain ⟨bits, hbits, -⟩ := h
  exact ⟨bits, hbits, nofun⟩

/-- Of two texts together each betrays what it did alone. -/
theorem Betrays.append {finite finite' : Bool} {cs ds : List Char} (h : Betrays finite cs)
    (h' : Betrays finite' ds) : Betrays (finite && finite') (cs ++ ds) := by
  obtain ⟨xs, hxs, hshown⟩ := h
  obtain ⟨ys, hys, hshown'⟩ := h'
  refine ⟨xs ++ ys, hxs.append hys, ?_⟩
  intro hfinite
  rcases Bool.and_eq_false_iff.mp hfinite with hfinite | hfinite
  · obtain ⟨c, hc, hletter⟩ := hshown hfinite
    exact ⟨c, List.mem_append_left ys hc, hletter⟩
  · obtain ⟨c, hc, hletter⟩ := hshown' hfinite
    exact ⟨c, List.mem_append_right xs hc, hletter⟩

/-- Around a text that betrays itself nothing hides that. -/
theorem Betrays.between {finite : Bool} {front cs back : List Char} (h : Betrays finite cs)
    (hfront : Plain front) (hback : Plain back) : Betrays finite (front ++ (cs ++ back)) := by
  have := hfront.betrays.append (h.append hback.betrays)
  rwa [Bool.and_true, Bool.true_and] at this

/-- A number that is not finite is betrayed by its word. -/
theorem betrays_decimalChars (x : Binary64) : Betrays x.isFinite (decimalChars x) := by
  cases hfinite : x.isFinite with
  | true => exact (isNumeral_decimalChars hfinite).plain.betrays
  | false =>
      obtain ⟨hquote, hletter⟩ := exists_wordLetter_decimalChars hfinite
      exact ⟨decimalChars x, bares_self hquote, fun _ => hletter⟩

/-- What stands between two items is plain. -/
theorem plain_separator (indent : Option Nat) (depth : Nat) : Plain (separator indent depth) := by
  obtain ⟨space, hspace, heq⟩ := exists_separator_eq indent depth
  rw [heq]
  exact .cons (by decide) hspace.plain

/-- The name of a field, and what stands in front of its value. -/
theorem plain_name (front : List Char) (h : Plain front) (name : String) :
    Plain (front ++ (textChars name ++ [':', ' '])) :=
  h.append ((isText_textChars name).plain.append (plain_of_all (by decide)))

mutual

/-- The text of a value betrays a decimal in it that is not finite. -/
theorem betrays_print (indent : Option Nat) : (v : Json) → (depth : Nat) →
    Betrays v.isFinite (print indent depth v)
  | .text s, _ => (isText_textChars s).plain.betrays
  | .integer n, _ => (isNumeral_toString n).plain.betrays
  | .decimal x, _ => betrays_decimalChars x
  | .list [], _ => by
      have hplain : Plain ['[', ']'] := plain_of_all (by decide)
      exact hplain.betrays
  | .list (item :: items), depth => by
      have hinner := (betrays_print indent item (depth + 1)).append (betrays_printItems indent items (depth + 1))
      have hopen : Plain ('[' :: lineStart indent (depth + 1)) :=
        .cons (by decide) (isSpace_lineStart indent (depth + 1)).plain
      have hclose : Plain (lineStart indent depth ++ [']']) :=
        (isSpace_lineStart indent depth).plain.append (plain_of_all (by decide))
      have heq : print indent depth (.list (item :: items)) = ('[' :: lineStart indent (depth + 1)) ++
          ((print indent (depth + 1) item ++ printItems indent (depth + 1) items) ++
            (lineStart indent depth ++ [']'])) := by
        simp [print]
      rw [heq, isFinite, itemsFinite]
      exact hinner.between hopen hclose
  | .record [], _ => by
      have hplain : Plain ['\x7b', '\x7d'] := plain_of_all (by decide)
      exact hplain.betrays
  | .record ((name, value) :: fields), depth => by
      have hinner := (betrays_print indent value (depth + 1)).append
        (betrays_printFields indent fields (depth + 1))
      have hopen : Plain (('\x7b' :: lineStart indent (depth + 1)) ++ (textChars name ++ [':', ' '])) :=
        plain_name _ (.cons (by decide) (isSpace_lineStart indent (depth + 1)).plain) name
      have hclose : Plain (lineStart indent depth ++ ['\x7d']) :=
        (isSpace_lineStart indent depth).plain.append (plain_of_all (by decide))
      have heq : print indent depth (.record ((name, value) :: fields)) =
          (('\x7b' :: lineStart indent (depth + 1)) ++ (textChars name ++ [':', ' '])) ++
            ((print indent (depth + 1) value ++ printFields indent (depth + 1) fields) ++
              (lineStart indent depth ++ ['\x7d'])) := by
        simp [print]
      rw [heq, isFinite, fieldsFinite]
      exact hinner.between hopen hclose

/-- The items of a list behind the first. -/
theorem betrays_printItems (indent : Option Nat) : (items : List Json) → (depth : Nat) →
    Betrays (itemsFinite items) (printItems indent depth items)
  | [], _ => plain_nil.betrays
  | item :: items, depth => by
      have hitem := (betrays_print indent item depth).append (betrays_printItems indent items depth)
      have hinner := (plain_separator indent depth).betrays.append hitem
      rw [printItems, itemsFinite, List.append_assoc]
      rwa [Bool.true_and] at hinner

/-- The fields of a record behind the first. -/
theorem betrays_printFields (indent : Option Nat) : (fields : List (String × Json)) → (depth : Nat) →
    Betrays (fieldsFinite fields) (printFields indent depth fields)
  | [], _ => plain_nil.betrays
  | (name, value) :: fields, depth => by
      have hvalue := (betrays_print indent value depth).append (betrays_printFields indent fields depth)
      have hinner := (plain_name _ (plain_separator indent depth) name).betrays.append hvalue
      have heq : printFields indent depth ((name, value) :: fields) =
          (separator indent depth ++ (textChars name ++ [':', ' '])) ++
            (print indent depth value ++ printFields indent depth fields) := by
        simp [printFields]
      rw [heq, fieldsFinite]
      rwa [Bool.true_and] at hinner

end

/-- **Which values are written as JSON**: those with finite decimals only, with any indentation. -/
theorem isDocument_render_iff (indent : Option Nat) (v : Json) :
    IsDocument (v.render indent).toList ↔ v.isFinite = true := by
  rw [render, String.toList_ofList]
  constructor
  · intro h
    obtain ⟨bits, hbits, hplain⟩ := h.plain
    obtain ⟨bits', hbits', hshown⟩ := betrays_print indent v 0
    obtain rfl := hbits.eq hbits'
    by_contra hfinite
    obtain ⟨c, hc, hletter⟩ := hshown (Bool.eq_false_of_not_eq_true hfinite)
    exact hplain c hc hletter
  · intro h
    exact ⟨[], print indent 0 v, [], isSpace_nil, derives_print indent v 0 h, isSpace_nil, by simp⟩

end SnippetCost.Json
