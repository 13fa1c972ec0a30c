import Mathlib.Data.List.Basic
import SnippetCost.Json.Printer

/-!
# Texts read back

A text between quotation marks is read back character by character.  What is written for a character tells by
itself where it ends and which character it is, whatever follows it (`readPiece?_escapedChar`): a unit that stands
for a character alone is never one of those that stand for half of one, because no character has such a number.

So two written texts with something behind them are the same only if the texts are (`textChars_append_inj`).
-/

namespace SnippetCost.Json

/-! ## Reading one character -/

/-- The value of a hexadecimal digit in lower case. -/
def hexDigitValue (c : Char) : Nat :=
  if c.isDigit then c.toNat - '0'.toNat else c.toNat - 'a'.toNat + 10

/-- The unit that four digits write. -/
def unitValue (a b c d : Char) : Nat :=
  ((hexDigitValue a * 16 + hexDigitValue b) * 16 + hexDigitValue c) * 16 + hexDigitValue d

/-- The character that is written behind a backslash by a letter. -/
def lettered (l : Char) : Char :=
  if l = 'n' then '\n'
  else if l = 'r' then '\r'
  else if l = 't' then '\t'
  else if l = 'b' then Char.ofNat 0x08
  else if l = 'f' then Char.ofNat 0x0C
  else l

/-- The character whose first unit has been read.  If it is a leading half the other half follows. -/
def readBehindUnit? (unit : Nat) (cs : List Char) : Option (Char × List Char) :=
  if 0xD800 ≤ unit ∧ unit < 0xDC00 then
    match cs with
    | _ :: _ :: a :: b :: c :: d :: rest =>
      some (Char.ofNat (0x10000 + (unit - 0xD800) * 0x400 + (unitValue a b c d - 0xDC00)), rest)
    | _ => none
  else some (Char.ofNat unit, cs)

/-- The first character of a text inside quotation marks, and what follows. -/
def readPiece? : List Char → Option (Char × List Char)
  | [] => none
  | c :: cs =>
    if c = '\\' then
      match cs with
      | [] => none
      | l :: cs =>
        if l = 'u' then
          match cs with
          | a :: b :: c :: d :: rest => readBehindUnit? (unitValue a b c d) rest
          | _ => none
        else some (lettered l, cs)
    else some (c, cs)

theorem hexDigitValue_digitChar {n : Nat} (h : n < 16) : hexDigitValue n.digitChar = n := by
  revert n
  decide

/-- Four digits write back what they were made from. -/
theorem exists_hexDigits_eq {n : Nat} (h : n < 0x10000) :
    ∃ a b c d, Text.hexDigits 4 n = [a, b, c, d] ∧ unitValue a b c d = n := by
  refine ⟨_, _, _, _, rfl, ?_⟩
  have digit : ∀ m, hexDigitValue (m % 16).digitChar = m % 16 := fun m =>
    hexDigitValue_digitChar (Nat.mod_lt m (by decide))
  unfold unitValue
  rw [digit, digit, digit, digit]
  omega

theorem readPiece?_unitEscape {n : Nat} (h : n < 0x10000) (rest : List Char) :
    readPiece? (unitEscape n ++ rest) = readBehindUnit? n rest := by
  obtain ⟨a, b, c, d, hdigits, hvalue⟩ := exists_hexDigits_eq h
  rw [unitEscape, hdigits]
  simp [readPiece?, hvalue]

/-- A unit that is no leading half is a character. -/
theorem readBehindUnit?_whole {unit : Nat} (h : ¬(0xD800 ≤ unit ∧ unit < 0xDC00)) (rest : List Char) :
    readBehindUnit? unit rest = some (Char.ofNat unit, rest) :=
  if_neg h

/-- Two halves are a character. -/
theorem readBehindUnit?_halves {high low : Nat} (hhigh : 0xD800 ≤ high ∧ high < 0xDC00) (hlow : low < 0x10000)
    (rest : List Char) : readBehindUnit? high (unitEscape low ++ rest) =
      some (Char.ofNat (0x10000 + (high - 0xD800) * 0x400 + (low - 0xDC00)), rest) := by
  obtain ⟨a, b, c, d, hdigits, hvalue⟩ := exists_hexDigits_eq hlow
  unfold readBehindUnit?
  rw [if_pos hhigh, unitEscape, hdigits]
  simp [hvalue]

/-- **What is written for a character reads back.** -/
theorem readPiece?_escapedChar (c : Char) (rest : List Char) :
    readPiece? (escapedChar c ++ rest) = some (c, rest) := by
  have hvalid : c.toNat < 0xD800 ∨ 0xDFFF < c.toNat ∧ c.toNat < 0x110000 := c.valid
  have hchar : ∀ {n}, n = c.toNat → Char.ofNat n = c := by
    rintro _ rfl
    exact Char.ofNat_toNat c
  unfold escapedChar
  dsimp only
  split_ifs with hquoted hfeed hreturn htab hback hform hrange hunit
  · rcases hquoted with rfl | rfl
    · rfl
    · rfl
  · subst hfeed
    rfl
  · subst hreturn
    rfl
  · subst htab
    rfl
  · rw [← hchar hback.symm]
    rfl
  · rw [← hchar hform.symm]
    rfl
  · rw [not_or] at hquoted
    simp [readPiece?, hquoted.2]
  · rw [readPiece?_unitEscape hunit, readBehindUnit?_whole (by omega), hchar rfl]
  · rw [List.append_assoc, readPiece?_unitEscape (by omega), readBehindUnit?_halves (by omega) (by omega),
      hchar (by omega)]

/-! ## Reading a text -/

/-- What is written for a character does not look like the end of the text. -/
theorem escapedChar_ne_quote (c : Char) (rest after : List Char) : escapedChar c ++ rest ≠ '"' :: after := by
  intro heq
  have hread := readPiece?_escapedChar c rest
  rw [heq] at hread
  obtain rfl : '"' = c := congrArg Prod.fst (Option.some.inj hread)
  cases heq

theorem flatMap_escapedChar_append_inj {cs ds rest rest' : List Char}
    (h : cs.flatMap escapedChar ++ '"' :: rest = ds.flatMap escapedChar ++ '"' :: rest') :
    cs = ds ∧ rest = rest' := by
  induction cs generalizing ds with
  | nil =>
      cases ds with
      | nil => exact ⟨rfl, (List.cons.inj h).2⟩
      | cons d ds =>
          rw [List.flatMap_cons, List.append_assoc] at h
          exact absurd h.symm (escapedChar_ne_quote d _ _)
  | cons c cs ih =>
      rw [List.flatMap_cons, List.append_assoc] at h
      cases ds with
      | nil => exact absurd h (escapedChar_ne_quote c _ _)
      | cons d ds =>
          rw [List.flatMap_cons, List.append_assoc] at h
          have hread := congrArg readPiece? h
          rw [readPiece?_escapedChar, readPiece?_escapedChar] at hread
          obtain ⟨rfl, hbehind⟩ := Prod.mk.inj (Option.some.inj hread)
          obtain ⟨rfl, hrest⟩ := ih hbehind
          exact ⟨rfl, hrest⟩

/-- **A written text tells where it ends and which text it is.** -/
theorem textChars_append_inj {s t : String} {rest rest' : List Char}
    (h : textChars s ++ rest = textChars t ++ rest') : s = t ∧ rest = rest' := by
  simp only [textChars, List.cons_append, List.append_assoc, List.nil_append, List.cons.injEq, true_and] at h
  obtain ⟨hchars, hrest⟩ := flatMap_escapedChar_append_inj h
  exact ⟨String.toList_injective hchars, hrest⟩

end SnippetCost.Json
