import Mathlib.Data.List.Basic
import Screenwright.Text.Quoted

/-! The forms of a character in a quoted literal: one lemma for each kind of literal lists them, with
what is known of a character that has the form. -/
namespace Screenwright.Text

/-- The characters with an escape of two characters, each with the second of them. -/
def shortEscapes : List (Char × Char) :=
  [('"', '"'), ('\\', '\\'), ('\n', 'n'), ('\r', 'r'), ('\t', 't'), (Char.ofNat 0x08, 'b'),
    (Char.ofNat 0x0c, 'f')]

/-- The escapes of a character in a double-quoted literal. -/
inductive EscapeForm (c : Char) : Option (List Char) → Prop
  | short {d : Char} (h : (c, d) ∈ shortEscapes) : EscapeForm c (some ['\\', d])
  | code (h : c.toNat < 0x20) : EscapeForm c (some ('\\' :: 'u' :: hexDigits 4 c.toNat))
  | none (hlong : ∀ e ∈ shortEscapes, c ≠ e.1) (h : 0x20 ≤ c.toNat) : EscapeForm c none

/-- The forms of a character in a literal of printable ASCII. -/
inductive AsciiForm (c : Char) : List Char → Prop
  | short {d : Char} (h : (c, d) ∈ shortEscapes) : AsciiForm c ['\\', d]
  | code (h : c.toNat < 0x10000) : AsciiForm c ('\\' :: 'u' :: hexDigits 4 c.toNat)
  | plain (hlong : ∀ e ∈ shortEscapes, c ≠ e.1) (h : 0x20 ≤ c.toNat) (hascii : c.toNat < 0x7f) :
    AsciiForm c [c]
  | surrogates (h : 0x10000 ≤ c.toNat) :
    AsciiForm c ('\\' :: 'u' :: (hexDigits 4 (0xd800 + (c.toNat - 0x10000) / 0x400) ++
      '\\' :: 'u' :: hexDigits 4 (0xdc00 + (c.toNat - 0x10000) % 0x400)))

lemma escape?_form (c : Char) : EscapeForm c (escape? c) := by
  by_cases hshort : ∃ d, (c, d) ∈ shortEscapes
  · obtain ⟨d, hd⟩ := hshort
    have hescape : ∀ e ∈ shortEscapes, escape? e.1 = some ['\\', e.2] := by decide
    rw [hescape _ hd]
    exact .short hd
  · have hlong : ∀ e ∈ shortEscapes, c ≠ e.1 := by
      rintro e he rfl
      exact hshort ⟨e.2, he⟩
    have hescape : escape? c =
        if c.toNat < 0x20 then some ('\\' :: 'u' :: hexDigits 4 c.toNat) else none := by
      have hcode : ∀ n, c ≠ Char.ofNat n → c.toNat ≠ n := fun n hne heq =>
        hne (by rw [← heq, Char.ofNat_toNat])
      have hne := hlong
      simp only [shortEscapes, List.forall_mem_cons] at hne
      obtain ⟨h1, h2, h3, h4, h5, h6, h7, -⟩ := hne
      rw [escape?, if_neg h1, if_neg h2, if_neg h3, if_neg h4, if_neg h5, if_neg (hcode _ h6),
        if_neg (hcode _ h7)]
    rw [hescape]
    split
    · next h => exact .code h
    · next h => exact .none hlong (Nat.le_of_not_lt h)

lemma asciiChar_form (c : Char) : AsciiForm c (asciiChar c) := by
  have hform := escape?_form c
  unfold asciiChar
  generalize escape? c = e at hform
  cases hform with
  | short h => exact .short h
  | code h => exact .code (Nat.lt_trans h (by decide))
  | none hlong h =>
    dsimp only
    split
    · next hascii => exact .plain hlong h hascii
    · split
      · next hcode => exact .code hcode
      · next hcode => exact .surrogates (Nat.le_of_not_lt hcode)

end Screenwright.Text
