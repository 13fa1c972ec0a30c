import SnippetCost.Proofs.Json.Text
import SnippetCost.Proofs.Json.Token

/-!
# Values read back

The text of a value says what the value is, and where it ends if something follows that a value can be followed
by: a comma, a line feed or a closing bracket.  So two values with one text, laid out with the same indentation,
are *alike*: the same but for decimals, which are alike if they are written alike.

**`render_eq_iff`**: alike values are those with the same text.

What kind of value a text begins with is seen from its first character, and whether a number is an integer or a
decimal from one that integers do not have.  Behind that both go along the recursion of the printer.
-/

namespace SnippetCost.Json

open SnippetCost.Number

/-! ## Values that are alike -/

mutual

/-- The values are the same, decimals that are written in the same way being taken for the same. -/
def Alike : Json → Json → Prop
  | .text s, .text t => s = t
  | .integer m, .integer n => m = n
  | .decimal x, .decimal y => decimalChars x = decimalChars y
  | .list items, .list items' => AlikeItems items items'
  | .record fields, .record fields' => AlikeFields fields fields'
  | _, _ => False

/-- The items are alike, one by one. -/
def AlikeItems : List Json → List Json → Prop
  | [], [] => True
  | item :: items, item' :: items' => Alike item item' ∧ AlikeItems items items'
  | _, _ => False

/-- The fields have the same names and alike values, one by one. -/
def AlikeFields : List (String × Json) → List (String × Json) → Prop
  | [], [] => True
  | (name, value) :: fields, (name', value') :: fields' =>
    name = name' ∧ Alike value value' ∧ AlikeFields fields fields'
  | _, _ => False

end

/-! ## What is written, with something behind it -/

section Written

variable (indent : Option Nat) (depth : Nat) (rest : List Char)

/-- A list that is not empty, with what stands behind it. -/
theorem print_list_cons (item : Json) (items : List Json) :
    print indent depth (.list (item :: items)) ++ rest = '[' :: (lineStart indent (depth + 1) ++
      (print indent (depth + 1) item ++ (printItems indent (depth + 1) items ++
        (lineStart indent depth ++ ']' :: rest)))) := by
  simp [print]

/-- A record that is not empty, with what stands behind it. -/
theorem print_record_cons (name : String) (value : Json) (fields : List (String × Json)) :
    print indent depth (.record ((name, value) :: fields)) ++ rest = '\x7b' :: (lineStart indent (depth + 1) ++
      (textChars name ++ (':' :: ' ' :: (print indent (depth + 1) value ++
        (printFields indent (depth + 1) fields ++ (lineStart indent depth ++ '\x7d' :: rest)))))) := by
  simp [print]

/-- One more item behind the first. -/
theorem printItems_cons (item : Json) (items : List Json) :
    printItems indent depth (item :: items) ++ rest =
      separator indent depth ++ (print indent depth item ++ (printItems indent depth items ++ rest)) := by
  simp [printItems]

/-- One more field behind the first. -/
theorem printFields_cons (name : String) (value : Json) (fields : List (String × Json)) :
    printFields indent depth ((name, value) :: fields) ++ rest = separator indent depth ++ (textChars name ++
      (':' :: ' ' :: (print indent depth value ++ (printFields indent depth fields ++ rest)))) := by
  simp [printFields]

end Written

/-! ## Kinds of values -/

/-- The kinds of values that are told apart by the first character. -/
inductive Kind where
  | text
  | number
  | list
  | record
  deriving DecidableEq

/-- The kind of a value. -/
def kind : Json → Kind
  | .text _ => .text
  | .integer _ => .number
  | .decimal _ => .number
  | .list _ => .list
  | .record _ => .record

/-- The kind of the value that begins with a character. -/
def kindOf (c : Char) : Kind :=
  if c = '"' then .text else if c = '[' then .list else if c = '\x7b' then .record else .number

/-- The first character of a token tells that it is one. -/
theorem IsToken.exists_cons {cs : List Char} (h : IsToken cs) :
    ∃ c rest, cs = c :: rest ∧ kindOf c = .number ∧ c ≠ ']' := by
  obtain ⟨c, rest, rfl⟩ := List.exists_cons_of_ne_nil h.ne_nil
  have hmark : c ∉ marks := h.unmarked c List.mem_cons_self
  simp only [marks, List.mem_cons, List.not_mem_nil, or_false, not_or] at hmark
  obtain ⟨-, -, hclose, -, hquote, hlist, hrecord⟩ := hmark
  refine ⟨c, rest, rfl, ?_, hclose⟩
  rw [kindOf, if_neg hquote, if_neg hlist, if_neg hrecord]

/-- The first character of a value shows its kind, and is not the end of a list. -/
theorem exists_print_eq_cons (indent : Option Nat) (depth : Nat) (v : Json) :
    ∃ c cs, print indent depth v = c :: cs ∧ kindOf c = v.kind ∧ c ≠ ']' := by
  cases v with
  | text s => exact ⟨'"', _, rfl, rfl, by decide⟩
  | integer n => exact (isToken_integer n).exists_cons
  | decimal x => exact (isToken_decimal x).exists_cons
  | list items =>
      cases items with
      | nil => exact ⟨'[', _, rfl, rfl, by decide⟩
      | cons item items =>
          have hprint := print_list_cons indent depth [] item items
          rw [List.append_nil] at hprint
          exact ⟨'[', _, hprint, rfl, by decide⟩
  | record fields =>
      cases fields with
      | nil => exact ⟨'\x7b', _, rfl, rfl, by decide⟩
      | cons field fields =>
          have hprint := print_record_cons indent depth [] field.1 field.2 fields
          rw [List.append_nil] at hprint
          exact ⟨'\x7b', _, hprint, rfl, by decide⟩

/-- Values that are written in the same way are of one kind. -/
theorem kind_eq_of_print {indent : Option Nat} {depth : Nat} {v w : Json} {rest rest' : List Char}
    (h : print indent depth v ++ rest = print indent depth w ++ rest') : v.kind = w.kind := by
  obtain ⟨c, cs, hv, hkind, -⟩ := exists_print_eq_cons indent depth v
  obtain ⟨d, ds, hw, hkind', -⟩ := exists_print_eq_cons indent depth w
  rw [hv, hw, List.cons_append, List.cons_append] at h
  rw [← hkind, ← hkind', (List.cons.inj h).1]

/-! ## What follows a value -/

/-- What follows the last item of a list or the last field of a record: a line feed, or the bracket. -/
def Closes (tail : List Char) : Prop :=
  ∀ c ∈ tail.head?, c ∈ ['\n', ']', '\x7d']

/-- What closes a list or a record also ends a token. -/
theorem Closes.stops {tail : List Char} (h : Closes tail) : Stops tail :=
  fun c hc => List.mem_cons_of_mem _ (h c hc)

/-- It is not taken for what stands between two items. -/
theorem Closes.ne_separator {tail : List Char} (h : Closes tail) (indent : Option Nat) (depth : Nat)
    (rest : List Char) : tail ≠ separator indent depth ++ rest := by
  have hcomma : (separator indent depth ++ rest).head? = some ',' := by
    cases indent <;> rfl
  rintro rfl
  exact absurd (h ',' hcomma) (by decide)

/-- A closing bracket closes, at the start of a line as well. -/
theorem closes_lineStart (indent : Option Nat) (depth : Nat) {bracket : Char} (h : bracket ∈ [']', '\x7d'])
    (rest : List Char) : Closes (lineStart indent depth ++ bracket :: rest) := by
  cases indent with
  | none =>
      rintro c ⟨⟩
      exact List.mem_cons_of_mem _ h
  | some width =>
      rintro c ⟨⟩
      decide

/-- A separator ends a token. -/
theorem stops_separator (indent : Option Nat) (depth : Nat) (rest : List Char) :
    Stops (separator indent depth ++ rest) := by
  have hcomma : (separator indent depth ++ rest).head? = some ',' := by
    cases indent <;> rfl
  intro c hc
  rw [hcomma] at hc
  cases hc
  decide

/-- Further items end a token, if there are any; otherwise what closes the list does. -/
theorem stops_printItems (indent : Option Nat) (depth : Nat) (items : List Json) {tail : List Char}
    (h : Closes tail) : Stops (printItems indent depth items ++ tail) := by
  cases items with
  | nil => exact h.stops
  | cons item items =>
      rw [printItems_cons]
      exact stops_separator _ _ _

/-- The same for the fields of a record. -/
theorem stops_printFields (indent : Option Nat) (depth : Nat) (fields : List (String × Json)) {tail : List Char}
    (h : Closes tail) : Stops (printFields indent depth fields ++ tail) := by
  cases fields with
  | nil => exact h.stops
  | cons field fields =>
      rw [printFields_cons]
      exact stops_separator _ _ _

/-- A list that is not empty is not written as an empty one. -/
theorem emptyList_ne (indent : Option Nat) (depth : Nat) (item : Json) (rest cs : List Char) :
    ']' :: cs ≠ lineStart indent depth ++ (print indent depth item ++ rest) := by
  intro heq
  cases indent with
  | none =>
      obtain ⟨c, ds, hprint, -, hc⟩ := exists_print_eq_cons none depth item
      rw [hprint] at heq
      exact hc (List.cons.inj heq).1.symm
  | some width => cases heq

/-- Nor is a record. -/
theorem emptyRecord_ne (indent : Option Nat) (depth : Nat) (name : String) (rest cs : List Char) :
    '\x7d' :: cs ≠ lineStart indent depth ++ (textChars name ++ rest) := by
  intro heq
  cases indent with
  | none => cases heq
  | some width => cases heq

/-! ## Reading -/

/-- Numbers that are written in the same way are alike. -/
theorem number_append_inj {indent : Option Nat} {depth : Nat} {v w : Json} {rest rest' : List Char}
    (hv : v.kind = .number) (hw : w.kind = .number) (hrest : Stops rest) (hrest' : Stops rest')
    (h : print indent depth v ++ rest = print indent depth w ++ rest') : Alike v w ∧ rest = rest' := by
  have token : ∀ {v : Json}, v.kind = .number → IsToken (print indent depth v) := by
    intro v hv
    cases v with
    | integer n => exact isToken_integer n
    | decimal x => exact isToken_decimal x
    | text | list | record => cases hv
  obtain ⟨hchars, hbehind⟩ := (token hv).append_inj (token hw) hrest hrest' h
  refine ⟨?_, hbehind⟩
  cases v with
  | integer m =>
      cases w with
      | integer n => exact toString_int_inj hchars
      | decimal y => exact absurd hchars (toString_ne_decimalChars m y)
      | text | list | record => cases hw
  | decimal x =>
      cases w with
      | integer n => exact absurd hchars.symm (toString_ne_decimalChars n x)
      | decimal y => exact hchars
      | text | list | record => cases hw
  | text | list | record => cases hv

mutual

/-- **Values with one text are alike**, and the same follows them. -/
theorem print_append_inj (indent : Option Nat) : (v : Json) → (depth : Nat) → (w : Json) →
    ∀ {rest rest' : List Char}, Stops rest → Stops rest' →
    print indent depth v ++ rest = print indent depth w ++ rest' → Alike v w ∧ rest = rest'
  | .text s, depth, w, rest, rest', _, _, h => by
      have hkind := kind_eq_of_print h
      cases w with
      | text t => exact textChars_append_inj h
      | integer | decimal | list | record => cases hkind
  | .integer n, depth, w, rest, rest', hrest, hrest', h =>
      number_append_inj rfl (kind_eq_of_print h).symm hrest hrest' h
  | .decimal x, depth, w, rest, rest', hrest, hrest', h =>
      number_append_inj rfl (kind_eq_of_print h).symm hrest hrest' h
  | .list [], depth, w, rest, rest', _, _, h => by
      have hkind := kind_eq_of_print h
      cases w with
      | list items =>
          cases items with
          | nil => exact ⟨trivial, (List.cons.inj (List.cons.inj h).2).2⟩
          | cons item items =>
              rw [print_list_cons] at h
              exact absurd (List.cons.inj h).2 (emptyList_ne _ _ _ _ _)
      | text | integer | decimal | record => cases hkind
  | .list (item :: items), depth, w, rest, rest', _, _, h => by
      have hkind := kind_eq_of_print h
      cases w with
      | list items' =>
          rw [print_list_cons] at h
          cases items' with
          | nil => exact absurd (List.cons.inj h).2.symm (emptyList_ne _ _ _ _ _)
          | cons item' items' =>
              rw [print_list_cons] at h
              have hinner := List.append_cancel_left (List.cons.inj h).2
              have hclose : ∀ rest, Closes (lineStart indent depth ++ ']' :: rest) :=
                closes_lineStart indent depth (by decide)
              obtain ⟨halike, hbehind⟩ := print_append_inj indent item (depth + 1) item'
                (stops_printItems indent (depth + 1) items (hclose rest))
                (stops_printItems indent (depth + 1) items' (hclose rest')) hinner
              obtain ⟨halikes, htail⟩ := printItems_append_inj indent items (depth + 1) items'
                (hclose rest) (hclose rest') hbehind
              exact ⟨⟨halike, halikes⟩, (List.cons.inj (List.append_cancel_left htail)).2⟩
      | text | integer | decimal | record => cases hkind
  | .record [], depth, w, rest, rest', _, _, h => by
      have hkind := kind_eq_of_print h
      cases w with
      | record fields =>
          cases fields with
          | nil => exact ⟨trivial, (List.cons.inj (List.cons.inj h).2).2⟩
          | cons field fields =>
              rw [print_record_cons] at h
              exact absurd (List.cons.inj h).2 (emptyRecord_ne _ _ _ _ _)
      | text | integer | decimal | list => cases hkind
  | .record ((name, value) :: fields), depth, w, rest, rest', _, _, h => by
      have hkind := kind_eq_of_print h
      cases w with
      | record fields' =>
          rw [print_record_cons] at h
          cases fields' with
          | nil => exact absurd (List.cons.inj h).2.symm (emptyRecord_ne _ _ _ _ _)
          | cons field' fields' =>
              obtain ⟨name', value'⟩ := field'
              rw [print_record_cons] at h
              obtain ⟨hname, hvalue⟩ := textChars_append_inj (List.append_cancel_left (List.cons.inj h).2)
              have hinner := (List.cons.inj (List.cons.inj hvalue).2).2
              have hclose : ∀ rest, Closes (lineStart indent depth ++ '\x7d' :: rest) :=
                closes_lineStart indent depth (by decide)
              obtain ⟨halike, hbehind⟩ := print_append_inj indent value (depth + 1) value'
                (stops_printFields indent (depth + 1) fields (hclose rest))
                (stops_printFields indent (depth + 1) fields' (hclose rest')) hinner
              obtain ⟨halikes, htail⟩ := printFields_append_inj indent fields (depth + 1) fields'
                (hclose rest) (hclose rest') hbehind
              exact ⟨⟨hname, halike, halikes⟩, (List.cons.inj (List.append_cancel_left htail)).2⟩
      | text | integer | decimal | list => cases hkind

/-- Further items with one text are alike. -/
theorem printItems_append_inj (indent : Option Nat) : (items : List Json) → (depth : Nat) →
    (items' : List Json) → ∀ {tail tail' : List Char}, Closes tail → Closes tail' →
    printItems indent depth items ++ tail = printItems indent depth items' ++ tail' →
    AlikeItems items items' ∧ tail = tail'
  | [], depth, items', tail, tail', htail, _, h => by
      cases items' with
      | nil => exact ⟨trivial, h⟩
      | cons item' items' =>
          rw [printItems_cons] at h
          exact absurd h (htail.ne_separator _ _ _)
  | item :: items, depth, items', tail, tail', htail, htail', h => by
      rw [printItems_cons] at h
      cases items' with
      | nil => exact absurd h.symm (htail'.ne_separator _ _ _)
      | cons item' items' =>
          rw [printItems_cons] at h
          obtain ⟨halike, hbehind⟩ := print_append_inj indent item depth item'
            (stops_printItems indent depth items htail) (stops_printItems indent depth items' htail')
            (List.append_cancel_left h)
          obtain ⟨halikes, heq⟩ := printItems_append_inj indent items depth items' htail htail' hbehind
          exact ⟨⟨halike, halikes⟩, heq⟩

/-- Further fields with one text have the same names and alike values. -/
theorem printFields_append_inj (indent : Option Nat) : (fields : List (String × Json)) → (depth : Nat) →
    (fields' : List (String × Json)) → ∀ {tail tail' : List Char}, Closes tail → Closes tail' →
    printFields indent depth fields ++ tail = printFields indent depth fields' ++ tail' →
    AlikeFields fields fields' ∧ tail = tail'
  | [], depth, fields', tail, tail', htail, _, h => by
      cases fields' with
      | nil => exact ⟨trivial, h⟩
      | cons field' fields' =>
          rw [printFields_cons] at h
          exact absurd h (htail.ne_separator _ _ _)
  | (name, value) :: fields, depth, fields', tail, tail', htail, htail', h => by
      rw [printFields_cons] at h
      cases fields' with
      | nil => exact absurd h.symm (htail'.ne_separator _ _ _)
      | cons field' fields' =>
          obtain ⟨name', value'⟩ := field'
          rw [printFields_cons] at h
          obtain ⟨hname, hvalue⟩ := textChars_append_inj (List.append_cancel_left h)
          obtain ⟨halike, hbehind⟩ := print_append_inj indent value depth value'
            (stops_printFields indent depth fields htail) (stops_printFields indent depth fields' htail')
            (List.cons.inj (List.cons.inj hvalue).2).2
          obtain ⟨halikes, heq⟩ := printFields_append_inj indent fields depth fields' htail htail' hbehind
          exact ⟨⟨hname, halike, halikes⟩, heq⟩

end

/-! ## Alike values are written alike -/

mutual

/-- Values that are alike are written alike: the converse of what reading shows. -/
theorem Alike.print_eq (indent : Option Nat) : {v : Json} → (depth : Nat) → {w : Json} → Alike v w →
    print indent depth v = print indent depth w
  | .text s, _, .text t, h => congrArg textChars h
  | .integer m, _, .integer n, h => congrArg (fun n : Int => (toString n).toList) h
  | .decimal x, _, .decimal y, h => h
  | .list [], _, .list [], _ => rfl
  | .list (item :: items), depth, .list (item' :: items'), h => by
      rw [print, print, h.1.print_eq indent (depth + 1), h.2.printItems_eq indent (depth + 1)]
  | .record [], _, .record [], _ => rfl
  | .record ((name, value) :: fields), depth, .record ((name', value') :: fields'), h => by
      rw [print, print, h.1, h.2.1.print_eq indent (depth + 1), h.2.2.printFields_eq indent (depth + 1)]

theorem AlikeItems.printItems_eq (indent : Option Nat) : {items : List Json} → (depth : Nat) →
    {items' : List Json} → AlikeItems items items' →
    printItems indent depth items = printItems indent depth items'
  | [], _, [], _ => rfl
  | item :: items, depth, item' :: items', h => by
      rw [printItems, printItems, h.1.print_eq indent depth, h.2.printItems_eq indent depth]

theorem AlikeFields.printFields_eq (indent : Option Nat) : {fields : List (String × Json)} → (depth : Nat) →
    {fields' : List (String × Json)} → AlikeFields fields fields' →
    printFields indent depth fields = printFields indent depth fields'
  | [], _, [], _ => rfl
  | (name, value) :: fields, depth, (name', value') :: fields', h => by
      rw [printFields, printFields, h.1, h.2.1.print_eq indent depth, h.2.2.printFields_eq indent depth]

end

/-- **The text of a value** is that of the values that are alike, and of no others. -/
theorem render_eq_iff (indent : Option Nat) (v w : Json) : v.render indent = w.render indent ↔ Alike v w := by
  constructor
  · intro h
    have hchars : print indent 0 v ++ [] = print indent 0 w ++ [] :=
      congrArg (· ++ []) (String.ofList_injective h)
    exact (print_append_inj indent v 0 w (by rintro c ⟨⟩) (by rintro c ⟨⟩) hchars).1
  · intro h
    exact congrArg String.ofList (h.print_eq indent 0)

end SnippetCost.Json
