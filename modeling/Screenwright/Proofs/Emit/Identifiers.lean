import Screenwright.Proofs.Emit.ComponentNames
import Screenwright.Proofs.Text.Squeezing

/-! Names that are made from routes, ids and states. Whatever the text, a script can declare them:
they are identifiers, and the variables and their setters are no reserved words. -/
namespace Screenwright.Emit

/-- A capital letter, and after it letters and digits. -/
structure IsComponentName (s : String) : Prop where
  first : ∃ c, s.toList.head? = some c ∧ c.isUpper = true
  chars : ∀ c ∈ s.toList, c.isAlphanum = true

def IsNameChar (c : Char) : Prop := c.isAlphanum = true ∨ c = '_' ∨ c = '$'
  deriving Decidable

/-- Letters, digits, low lines and dollar signs, a digit not being the first of them. -/
structure IsIdentifier (s : String) : Prop where
  first : ∃ c, s.toList.head? = some c ∧ c.isDigit = false
  chars : ∀ c ∈ s.toList, IsNameChar c

/-- The words that are no names in strict code. -/
def reservedWords : List String :=
  ["await", "break", "case", "catch", "class", "const", "continue", "debugger", "default",
    "delete", "do", "else", "enum", "export", "extends", "false", "finally", "for", "function",
    "if", "import", "in", "instanceof", "new", "null", "return", "super", "switch", "this", "throw",
    "true", "try", "typeof", "var", "void", "while", "with", "yield", "implements", "interface",
    "let", "package", "private", "protected", "public", "static", "arguments", "eval"]

/-- An identifier that a script can declare. -/
structure IsVariableName (s : String) : Prop extends IsIdentifier s where
  free : s ∉ reservedWords

/-! ### Characters of names -/

section
variable {c : Char}

lemma isNameChar_iff : IsNameChar c ↔ isIdentifierChar c = true := by
  simp [IsNameChar, isIdentifierChar, or_assoc]

lemma forall_isNameChar {t : String} (h : t.toList.all isIdentifierChar = true) :
    ∀ c ∈ t.toList, IsNameChar c :=
  fun c hc => isNameChar_iff.2 (List.all_eq_true.1 h c hc)

lemma toNat_lt_of_isNameChar (h : IsNameChar c) : c.toNat < 128 := by
  rcases h with h | rfl | rfl
  · have hbounds : ∀ a b : Char, b.toNat < 128 → a.val ≤ c.val ∧ c.val ≤ b.val → c.toNat < 128 :=
      fun _ _ hb hc => Nat.lt_of_le_of_lt (UInt32.le_iff_toNat_le.1 hc.2) hb
    simp only [Char.isAlphanum, Char.isAlpha, Char.isUpper, Char.isLower, Char.isDigit,
      Bool.or_eq_true, Bool.and_eq_true, decide_eq_true_eq] at h
    rcases h with (h | h) | h
    · exact hbounds 'A' 'Z' (by decide) h
    · exact hbounds 'a' 'z' (by decide) h
    · exact hbounds '0' '9' (by decide) h
  · decide
  · decide

lemma IsNameChar.toUpper (h : IsNameChar c) : IsNameChar c.toUpper := by
  rcases h with h | rfl | rfl
  · exact .inl (isAlphanum_toUpper h)
  · decide
  · decide

lemma isUpper_toUpper_of_isAlphanum (h : c.isAlphanum = true) (hdigit : c.toUpper.isDigit = false) :
    c.toUpper.isUpper = true := by
  rw [Char.isUpper_toUpper_eq_isAlpha]
  rcases Bool.or_eq_true_iff.1 h with h | h
  · exact h
  · have hlower : ¬ c.isLower = true := fun hlower => by simp [isDigit_of_isLower hlower] at h
    rw [Char.toUpper_eq_of_not_isLower hlower, h] at hdigit
    cases hdigit

end

/-! ### Components -/

/-- The first letter of some words is that of one of them. -/
lemma exists_of_head?_flatMap_capitalize {ws : List (List Char)} {c : Char}
    (h : (ws.flatMap capitalize).head? = some c) : ∃ w ∈ ws, ∃ d ∈ w, c = d.toUpper := by
  induction ws with
  | nil => cases h
  | cons w ws ih =>
    cases w with
    | nil =>
      obtain ⟨w, hw, hd⟩ := ih h
      exact ⟨w, List.mem_cons_of_mem _ hw, hd⟩
    | cons d w =>
      exact ⟨d :: w, List.mem_cons_self, d, List.mem_cons_self, (Option.some.inj h).symm⟩

lemma isComponentName_componentName (route : String) : IsComponentName (componentName route) := by
  refine ⟨?_, fun _ => isAlphanum_of_mem_componentName⟩
  unfold componentName
  cases hname : (words route).flatMap capitalize with
  | nil => exact ⟨'H', rfl, rfl⟩
  | cons c rest =>
    simp only [String.toList_ofList]
    split
    · exact ⟨'S', rfl, rfl⟩
    · next hdigit =>
      obtain ⟨w, hw, d, hd, rfl⟩ := exists_of_head?_flatMap_capitalize (by rw [hname]; rfl)
      exact ⟨_, rfl, isUpper_toUpper_of_isAlphanum (isAlphanum_of_mem_words hw hd)
        (Bool.not_eq_true _ ▸ hdigit)⟩

/-! ### Identifiers -/

namespace IsIdentifier
variable {s t : String}

/-- What stands behind an identifier may start with a digit. -/
lemma append (hs : IsIdentifier s) (ht : ∀ c ∈ t.toList, IsNameChar c) : IsIdentifier (s ++ t) := by
  obtain ⟨c, hc, hdigit⟩ := hs.first
  refine ⟨⟨c, by simp [String.toList_append, List.head?_append, hc], hdigit⟩, fun d hd => ?_⟩
  rw [String.toList_append, List.mem_append] at hd
  exact hd.elim (hs.chars d) (ht d)

lemma capitalize (h : IsIdentifier s) : ∀ c ∈ Emit.capitalize s.toList, IsNameChar c := by
  intro c hc
  cases hs : s.toList with
  | nil => simp [hs, Emit.capitalize] at hc
  | cons d rest =>
    rw [hs, Emit.capitalize, List.mem_cons] at hc
    rcases hc with rfl | hc
    · exact (h.chars d (by simp [hs])).toUpper
    · exact h.chars c (by simp [hs, hc])

/-- In an identifier the upper case of a character is one character. -/
lemma setterName?_eq (h : IsIdentifier s) :
    setterName? s = some ("set" ++ String.ofList (Emit.capitalize s.toList)) := by
  obtain ⟨c, hc, -⟩ := h.first
  obtain ⟨rest, hrest⟩ := List.head?_eq_some_iff.1 hc
  have hascii := toNat_lt_of_isNameChar (h.chars c (by simp [hrest]))
  simp [setterName?, hrest, Text.capitalizeFirst, Emit.capitalize, Text.upperChar, hascii]

end IsIdentifier

lemma isIdentifier_identifier (s : String) : IsIdentifier (identifier s) := by
  have hsqueezed : ∀ c ∈ Text.squeeze (!isIdentifierChar ·) '_' s.toList, IsNameChar c :=
    fun c hc => isNameChar_iff.2 (by simpa using Text.of_mem_squeeze (by decide) hc)
  have hchars : ∀ c ∈ Text.trimWhile (· == '_')
      (Text.squeeze (!isIdentifierChar ·) '_' s.toList), IsNameChar c :=
    fun c hc => hsqueezed c (Text.trimWhile_subset _ _ hc)
  unfold identifier
  split
  · exact ⟨⟨'s', rfl, rfl⟩, forall_isNameChar (by decide)⟩
  · next c rest hkept =>
    rw [hkept] at hchars
    split
    · refine ⟨⟨'_', by simp, rfl⟩, ?_⟩
      rw [String.toList_ofList, List.forall_mem_cons]
      exact ⟨by decide, hchars⟩
    · next hdigit => exact ⟨⟨c, by simp, by simpa using hdigit⟩, by simpa using hchars⟩

/-! ### Variables and setters -/

lemma notMem_reservedWords_of_prefix {front s : String} (hfront : front ∈ ["state", "set"]) :
    front ++ s ∉ reservedWords := by
  have hnone : ∀ front ∈ ["state", "set"], ∀ w ∈ reservedWords, ¬ front.toList <+: w.toList := by
    decide
  intro hmem
  exact hnone front hfront _ hmem ⟨s.toList, by rw [String.toList_append]⟩

lemma notMem_reservedWords_of_suffix {back s : String} (hback : back ∈ ["Visible", "Rows"]) :
    s ++ back ∉ reservedWords := by
  have hnone : ∀ back ∈ ["Visible", "Rows"], ∀ w ∈ reservedWords, ¬ back.toList <:+ w.toList := by
    decide
  intro hmem
  exact hnone back hback _ hmem ⟨s.toList, by rw [String.toList_append]⟩

lemma isVariableName_visibilityVar (id : String) : IsVariableName (visibilityVar id) :=
  ⟨(isIdentifier_identifier id).append (forall_isNameChar (by decide)),
    notMem_reservedWords_of_suffix (by decide)⟩

lemma isVariableName_rowsVar (id : String) : IsVariableName (rowsVar id) :=
  ⟨(isIdentifier_identifier id).append (forall_isNameChar (by decide)),
    notMem_reservedWords_of_suffix (by decide)⟩

lemma isVariableName_stateVar (name : String) : IsVariableName (stateVar name) := by
  refine ⟨IsIdentifier.append ⟨⟨'s', rfl, rfl⟩, forall_isNameChar (by decide)⟩ ?_,
    notMem_reservedWords_of_prefix (by decide)⟩
  rw [String.toList_ofList]
  exact (isIdentifier_identifier name).capitalize

/-- An identifier has a setter, whose name is a variable's. -/
lemma IsIdentifier.setter {s : String} (h : IsIdentifier s) :
    setterName? s = some (setterName s) ∧ IsVariableName (setterName s) := by
  have hset : setterName s = "set" ++ String.ofList (Emit.capitalize s.toList) := by
    rw [setterName, h.setterName?_eq, Option.getD_some]
  refine ⟨by rw [h.setterName?_eq, hset], hset ▸ ⟨?_, notMem_reservedWords_of_prefix (by decide)⟩⟩
  refine IsIdentifier.append ⟨⟨'s', rfl, rfl⟩, forall_isNameChar (by decide)⟩ ?_
  rw [String.toList_ofList]
  exact h.capitalize

/-- Every route gives the name of a component, every text gives an identifier, and the variables of
every text are identifiers and no reserved words; each of them has a setter of the same kind. -/
theorem names_areIdentifiers (route s : String) :
    IsComponentName (componentName route) ∧
      (IsIdentifier (identifier s) ∧ setterName? (identifier s) = some (setterName (identifier s)) ∧
        IsIdentifier (setterName (identifier s))) ∧
      ∀ name ∈ [visibilityVar s, stateVar s, rowsVar s],
        IsVariableName name ∧ setterName? name = some (setterName name) ∧
          IsVariableName (setterName name) := by
  have hidentifier := isIdentifier_identifier s
  refine ⟨isComponentName_componentName route, ⟨hidentifier, hidentifier.setter.1,
    hidentifier.setter.2.toIsIdentifier⟩, fun name hname => ?_⟩
  have hvariable : IsVariableName name := by
    simp only [List.mem_cons, List.not_mem_nil, or_false] at hname
    rcases hname with rfl | rfl | rfl
    · exact isVariableName_visibilityVar s
    · exact isVariableName_stateVar s
    · exact isVariableName_rowsVar s
  exact ⟨hvariable, hvariable.toIsIdentifier.setter⟩

example : setterName (stateVar "  9 lives ") = "setState_9_lives" := by decide

end Screenwright.Emit
