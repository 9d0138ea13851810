import Screenwright.Proofs.Text.Replacing
import Screenwright.Text.Entity

/-! Escaped texts: nothing in them has a meaning for markup, and when the entities are taken for the
characters that they stand for, each of them is the text that was escaped. -/
namespace Screenwright.Text

/-- Entities with the characters that they stand for. None of them begins another one, and an
ampersand only begins them. -/
structure EntityTable where
  entries : List (List Char × Char)
  starts : ∀ e ∈ entries, e.1.head? = some '&' ∧ '&' ∉ e.1.tail
  prefixFree : ∀ e ∈ entries, ∀ e' ∈ entries, e.1 <+: e'.1 → e = e'

namespace EntityTable

def markup : EntityTable where
  entries := [("&amp;".toList, '&'), ("&lt;".toList, '<'), ("&gt;".toList, '>'),
    ("&quot;".toList, '"')]
  starts := by decide
  prefixFree := by decide

/-- The entities of markup, and those of single braces. -/
def braced : EntityTable where
  entries := markup.entries ++ [("&#123;".toList, '\x7b'), ("&#125;".toList, '\x7d')]
  starts := by decide
  prefixFree := by decide

/-- The entities of markup, and that of a brace which stands with another one. -/
def mustache : EntityTable where
  entries := markup.entries ++ [("&#123;".toList, '\x7b')]
  starts := by decide
  prefixFree := by decide

variable (t : EntityTable)

/-- The text in which each entity, found from left to right, is the character that it stands for;
`skip` counts the characters of a found entity that are still to be passed. -/
def decodeFrom : Nat → List Char → List Char
  | _, [] => []
  | skip + 1, _ :: rest => decodeFrom skip rest
  | 0, c :: rest =>
    match t.entries.find? fun e => e.1.isPrefixOf (c :: rest) with
    | some e => e.2 :: decodeFrom (e.1.length - 1) rest
    | none => c :: decodeFrom 0 rest

def decode (s : String) : String := String.ofList (t.decodeFrom 0 s.toList)

variable {t} {e front rest : List Char} {c : Char}

lemma decodeFrom_length (front rest : List Char) :
    t.decodeFrom front.length (front ++ rest) = t.decodeFrom 0 rest := by
  induction front with
  | nil => rfl
  | cons c front ih => rw [List.length_cons, List.cons_append, decodeFrom, ih]

/-- Where an entity stands, no other one is found. -/
lemma find?_entity (he : (e, c) ∈ t.entries) (rest : List Char) :
    t.entries.find? (fun e' => e'.1.isPrefixOf (e ++ rest)) = some (e, c) := by
  cases hfind : t.entries.find? fun e' => e'.1.isPrefixOf (e ++ rest) with
  | none =>
    have hnone := List.find?_eq_none.1 hfind (e, c) he
    exact absurd (List.isPrefixOf_iff_prefix.2 (List.prefix_append e rest)) hnone
  | some e' =>
    have hmem := List.mem_of_find?_eq_some hfind
    obtain ⟨hfound, -⟩ := List.find?_eq_some_iff_append.1 hfind
    rcases List.prefix_or_prefix_of_prefix (List.isPrefixOf_iff_prefix.1 hfound)
      (List.prefix_append e rest) with h | h
    · rw [t.prefixFree e' hmem (e, c) he h]
    · rw [t.prefixFree (e, c) he e' hmem h]

lemma decodeFrom_entity (he : (e, c) ∈ t.entries) (rest : List Char) :
    t.decodeFrom 0 (e ++ rest) = c :: t.decodeFrom 0 rest := by
  obtain ⟨name, rfl⟩ := List.head?_eq_some_iff.1 (t.starts _ he).1
  have hfound := find?_entity he rest
  rw [List.cons_append] at hfound ⊢
  rw [decodeFrom, hfound]
  simp only [List.length_cons, Nat.add_sub_cancel, decodeFrom_length]

lemma decodeFrom_cons_of_ne (h : c ≠ '&') (rest : List Char) :
    t.decodeFrom 0 (c :: rest) = c :: t.decodeFrom 0 rest := by
  have hnone : t.entries.find? (fun e => e.1.isPrefixOf (c :: rest)) = none := by
    refine List.find?_eq_none.2 fun e he hfound => ?_
    obtain ⟨name, hname⟩ := List.head?_eq_some_iff.1 (t.starts e he).1
    rw [hname] at hfound
    exact h (List.cons_prefix_cons.1 (List.isPrefixOf_iff_prefix.1 hfound)).1.symm
  rw [decodeFrom, hnone]

end EntityTable

/-! ### Texts that are spelled with entities -/

/-- Texts that spell others: a character is spelled by an entity, or by itself if it is none of the
given ones. -/
inductive Spells (t : EntityTable) (specials : List Char) : List Char → List Char → Prop
  | nil : Spells t specials [] []
  | entity {e c text s} (he : (e, c) ∈ t.entries) (rest : Spells t specials text s) :
    Spells t specials (e ++ text) (c :: s)
  | plain {c text s} (hc : c ∉ specials) (rest : Spells t specials text s) :
    Spells t specials (c :: text) (c :: s)

namespace Spells
variable {t : EntityTable} {specials text s : List Char} {c : Char}

lemma decodeFrom (h : Spells t specials text s) (hamp : '&' ∈ specials) :
    t.decodeFrom 0 text = s := by
  induction h with
  | nil => rfl
  | entity he _ ih => rw [EntityTable.decodeFrom_entity he, ih]
  | plain hc _ ih =>
    have hne := ne_of_mem_of_not_mem hamp hc
    rw [EntityTable.decodeFrom_cons_of_ne hne.symm, ih]

/-- Every character of the text is of the spelled one or of an entity. -/
lemma mem (h : Spells t specials text s) (hc : c ∈ text) : c ∈ s ∨ ∃ e ∈ t.entries, c ∈ e.1 := by
  induction h with
  | nil => exact .inl hc
  | entity he _ ih =>
    rcases List.mem_append.1 hc with hc | hc
    · exact .inr ⟨_, he, hc⟩
    · exact (ih hc).imp_left (List.mem_cons_of_mem _)
  | plain _ _ ih =>
    rcases List.mem_cons.1 hc with rfl | hc
    · exact .inl List.mem_cons_self
    · exact (ih hc).imp_left (List.mem_cons_of_mem _)

lemma ne_nil (h : Spells t specials text s) (hs : s ≠ []) : text ≠ [] := by
  cases h with
  | nil => exact absurd rfl hs
  | entity he _ =>
    obtain ⟨name, rfl⟩ := List.head?_eq_some_iff.1 (t.starts _ he).1
    exact List.cons_ne_nil _ _
  | plain _ _ => exact List.cons_ne_nil _ _

/-- A special character that no entity has does not stand in the text. -/
lemma notMem (h : Spells t specials text s) (hc : c ∈ specials)
    (hentities : ∀ e ∈ t.entries, c ∉ e.1) : c ∉ text := by
  induction h with
  | nil => exact List.not_mem_nil
  | entity he _ ih => exact fun hmem => (List.mem_append.1 hmem).elim (hentities _ he) ih
  | plain hd _ ih =>
    exact fun hmem => (List.mem_cons.1 hmem).elim (fun heq => hd (heq ▸ hc)) ih

/-- Behind a list without some element, the element begins the same suffixes as in all. -/
lemma suffix_of_notMem {a : Char} {xs ys rest : List Char} (h : a ∉ xs)
    (hrest : a :: rest <:+ xs ++ ys) : a :: rest <:+ ys := by
  induction xs with
  | nil => exact hrest
  | cons x xs ih =>
    obtain ⟨hx, hxs⟩ := not_or.1 (List.mem_cons.not.1 h)
    refine ih hxs ((List.suffix_cons_iff.1 hrest).resolve_left fun heq => ?_)
    exact hx (List.cons.inj heq).1

/-- Every ampersand begins an entity. -/
lemma exists_entity (h : Spells t specials text s) (hamp : '&' ∈ specials) {rest : List Char}
    (hrest : '&' :: rest <:+ text) : ∃ e ∈ t.entries, e.1 <+: '&' :: rest := by
  induction h with
  | nil => cases List.suffix_nil.1 hrest
  | @entity e c text s he _ ih =>
    obtain ⟨hhead, htail⟩ := t.starts _ he
    obtain ⟨name, rfl⟩ := List.head?_eq_some_iff.1 hhead
    rcases List.suffix_cons_iff.1 hrest with heq | hrest
    · exact ⟨_, he, heq ▸ List.prefix_append ('&' :: name) text⟩
    · exact ih (suffix_of_notMem htail hrest)
  | plain hd _ ih =>
    rcases List.suffix_cons_iff.1 hrest with heq | hrest
    · exact absurd ((List.cons.inj heq).1 ▸ hamp) hd
    · exact ih hrest

/-- A character that is spelled in either way. -/
lemma cons {piece : List Char} (hc : (piece, c) ∈ t.entries ∨ piece = [c] ∧ c ∉ specials)
    (h : Spells t specials text s) : Spells t specials (piece ++ text) (c :: s) := by
  rcases hc with he | ⟨rfl, hc⟩
  · exact .entity he h
  · exact .plain hc h

lemma flatMap {f : Char → List Char}
    (hf : ∀ c, (f c, c) ∈ t.entries ∨ f c = [c] ∧ c ∉ specials) (s : List Char) :
    Spells t specials (s.flatMap f) s := by
  induction s with
  | nil => exact .nil
  | cons c s ih => exact cons (hf c) ih

end Spells

/-! ### The three ways of escaping -/

/-- The characters that markup gives a meaning. -/
def markupSpecials : List Char := ['&', '<', '>', '"']

lemma markupChar_cases (c : Char) :
    (markupChar c, c) ∈ EntityTable.markup.entries ∨ markupChar c = [c] ∧ c ∉ markupSpecials := by
  unfold markupChar
  split_ifs with hamp hlt hgt hquote
  · exact .inl (hamp ▸ by decide)
  · exact .inl (hlt ▸ by decide)
  · exact .inl (hgt ▸ by decide)
  · exact .inl (hquote ▸ by decide)
  · exact .inr ⟨rfl, by simp [markupSpecials, hamp, hlt, hgt, hquote]⟩

def bracedSpecials : List Char := markupSpecials ++ ['\x7b', '\x7d']

lemma bracedChar_cases (c : Char) :
    (bracedChar c, c) ∈ EntityTable.braced.entries ∨ bracedChar c = [c] ∧ c ∉ bracedSpecials := by
  unfold bracedChar
  split_ifs with hopen hclose
  · exact .inl (hopen ▸ by decide)
  · exact .inl (hclose ▸ by decide)
  · refine (markupChar_cases c).imp (List.mem_append_left _) fun h => ⟨h.1, ?_⟩
    simp [bracedSpecials, h.2, hopen, hclose]

lemma spells_escapeMarkup (s : String) :
    Spells .markup markupSpecials (escapeMarkup s).toList s.toList := by
  rw [escapeMarkup, String.toList_ofList]
  exact .flatMap markupChar_cases s.toList

lemma spells_escapeBraced (s : String) :
    Spells .braced bracedSpecials (escapeBraced s).toList s.toList := by
  rw [escapeBraced, String.toList_ofList]
  exact .flatMap bracedChar_cases s.toList

lemma spells_escapeMustache (s : String) :
    Spells .mustache markupSpecials (escapeMustache s).toList s.toList := by
  have hchar : ∀ c, (markupChar c, c) ∈ EntityTable.mustache.entries ∨
      markupChar c = [c] ∧ c ∉ markupSpecials :=
    fun c => (markupChar_cases c).imp_left (List.mem_append_left _)
  rw [escapeMustache, String.toList_ofList]
  induction s.toList using mustacheChars.induct with
  | case1 => exact .nil
  | case2 c =>
    have hsingle := Spells.cons (hchar c) .nil
    rwa [List.append_nil] at hsingle
  | case3 c d rest hbraces ih =>
    obtain ⟨rfl, rfl⟩ := hbraces
    have hbrace : ("&#123;".toList, '\x7b') ∈ EntityTable.mustache.entries := by decide
    rw [mustacheChars, if_pos ⟨rfl, rfl⟩]
    change Spells _ _ ("&#123;".toList ++ ("&#123;".toList ++ mustacheChars rest)) _
    exact .entity hbrace (.entity hbrace ih)
  | case4 c d rest hbraces ih =>
    rw [mustacheChars, if_neg hbraces]
    exact Spells.cons (hchar c) ih

/-! ### Escaping as replacements in the whole text -/

/-- The ampersands are replaced first, so that those of entities stay. -/
theorem escapeMarkup_eq_replaceAll (s : String) :
    escapeMarkup s = replaceAll "\"" "&quot;" (replaceAll ">" "&gt;"
      (replaceAll "<" "&lt;" (replaceAll "&" "&amp;" s))) := by
  apply String.toList_inj.1
  simp only [escapeMarkup, toList_replaceAll, String.toList_ofList]
  change _ = replaceFrom ['"'] _ 0 (replaceFrom ['>'] _ 0 (replaceFrom ['<'] _ 0
    (replaceFrom ['&'] _ 0 _)))
  simp only [replaceFrom_singleton, List.flatMap_assoc]
  refine List.flatMap_congr fun c _ => ?_
  unfold markupChar
  split_ifs with hamp hlt hgt hquote
  · subst hamp; rfl
  · subst hlt; rfl
  · subst hgt; rfl
  · subst hquote; rfl
  · simp only [hlt, hgt, hquote, if_false, List.flatMap_cons, List.flatMap_nil, List.append_nil]

theorem escapeBraced_eq_replaceAll (s : String) :
    escapeBraced s = replaceAll "\x7d" "&#125;" (replaceAll "\x7b" "&#123;" (escapeMarkup s)) := by
  apply String.toList_inj.1
  simp only [escapeBraced, escapeMarkup, toList_replaceAll, String.toList_ofList]
  change _ = replaceFrom ['\x7d'] _ 0 (replaceFrom ['\x7b'] _ 0 _)
  simp only [replaceFrom_singleton, List.flatMap_assoc]
  refine List.flatMap_congr fun c _ => ?_
  by_cases hopen : c = '\x7b'
  · subst hopen; rfl
  by_cases hclose : c = '\x7d'
  · subst hclose; rfl
  rw [bracedChar, if_neg hopen, if_neg hclose, markupChar]
  split_ifs
  iterate 4 rfl
  simp only [hopen, hclose, if_false, List.flatMap_cons, List.flatMap_nil, List.append_nil]

lemma markupChar_ne_nil (c : Char) : markupChar c ≠ [] := by
  rcases markupChar_cases c with h | ⟨h, -⟩
  · exact (by decide : ∀ e ∈ EntityTable.markup.entries, e.1 ≠ []) _ h
  · rw [h]
    exact List.cons_ne_nil c []

/-- Markup escapes no brace and no entity of it has one. -/
lemma mem_markupChar_brace {c : Char} (h : '\x7b' ∈ markupChar c) : c = '\x7b' := by
  rcases markupChar_cases c with hc | ⟨hc, -⟩
  · exact absurd h ((by decide : ∀ e ∈ EntityTable.markup.entries, '\x7b' ∉ e.1) _ hc)
  · exact (List.mem_singleton.1 (hc ▸ h)).symm

/-- A character whose brace is not followed by another one stays as markup has it. -/
lemma replaceFrom_markupChar {by_ rest : List Char} {c : Char}
    (h : c = '\x7b' → ∀ d ∈ rest.head?, d ≠ '\x7b') :
    replaceFrom ['\x7b', '\x7b'] by_ 0 (markupChar c ++ rest) =
      markupChar c ++ replaceFrom ['\x7b', '\x7b'] by_ 0 rest := by
  by_cases hc : c = '\x7b'
  · subst hc
    refine replaceFrom_cons_of_not fun hpair => ?_
    obtain ⟨back, hback⟩ := (List.cons_prefix_cons.1 hpair).2
    have hhead : rest.head? = some '\x7b' := congrArg List.head? hback.symm
    exact h rfl '\x7b' hhead rfl
  · exact replaceFrom_append_of_notMem (mt mem_markupChar_brace hc) rest

theorem escapeMustache_eq_replaceAll (s : String) :
    escapeMustache s = replaceAll "\x7b\x7b" "&#123;&#123;" (escapeMarkup s) := by
  apply String.toList_inj.1
  simp only [escapeMustache, escapeMarkup, toList_replaceAll, String.toList_ofList]
  change _ = replaceFrom ['\x7b', '\x7b'] _ 0 _
  induction s.toList using mustacheChars.induct with
  | case1 => rfl
  | case2 c =>
    rw [mustacheChars, List.flatMap_cons, List.flatMap_nil, replaceFrom_markupChar (by simp)]
    exact (List.append_nil _).symm
  | case3 c d rest hbraces ih =>
    obtain ⟨rfl, rfl⟩ := hbraces
    rw [mustacheChars, if_pos ⟨rfl, rfl⟩, ih]
    exact (replaceFrom_append (List.cons_ne_nil '\x7b' ['\x7b']) _).symm
  | case4 c d rest hbraces ih =>
    rw [mustacheChars, if_neg hbraces, ih]
    refine (replaceFrom_markupChar fun hc b hb heq => hbraces ⟨hc, mem_markupChar_brace ?_⟩).symm
    rw [List.flatMap_cons, List.head?_append_of_ne_nil _ (markupChar_ne_nil d)] at hb
    exact heq ▸ List.mem_of_head? hb

/-! ### Safety, and what the entities stand for -/

/-- A text that is another one, escaped: nothing in it but the entities of a table has a meaning for
markup, and with the entities taken for their characters it is the other one. -/
structure IsEscapeOf (t : EntityTable) (s escaped : String) : Prop where
  no_angle : '<' ∉ escaped.toList ∧ '>' ∉ escaped.toList
  no_quote : '"' ∉ escaped.toList
  entity : ∀ rest, '&' :: rest <:+ escaped.toList → ∃ e ∈ t.entries, e.1 <+: '&' :: rest
  decode : t.decode escaped = s

section
variable {t : EntityTable} {specials : List Char} {s s' escaped : String}

lemma Spells.isEscapeOf (h : Spells t specials escaped.toList s.toList)
    (hspecials : markupSpecials ⊆ specials)
    (hentities : ∀ e ∈ t.entries, '<' ∉ e.1 ∧ '>' ∉ e.1 ∧ '"' ∉ e.1) :
    IsEscapeOf t s escaped := by
  have hamp : '&' ∈ specials := hspecials (by decide)
  constructor
  case no_angle =>
    exact ⟨h.notMem (hspecials (by decide)) fun e he => (hentities e he).1,
      h.notMem (hspecials (by decide)) fun e he => (hentities e he).2.1⟩
  case no_quote => exact h.notMem (hspecials (by decide)) fun e he => (hentities e he).2.2
  case entity => exact fun rest hrest => h.exists_entity hamp hrest
  case decode => rw [EntityTable.decode, h.decodeFrom hamp, String.ofList_toList]

/-- Distinct texts stay distinct. -/
lemma escape_inj {escape : String → String} (h : ∀ s, IsEscapeOf t s (escape s)) :
    escape s = escape s' ↔ s = s' := by
  refine ⟨fun heq => ?_, congrArg escape⟩
  rw [← (h s).decode, heq, (h s').decode]

end

/-- What is escaped for markup, for templates with expressions in braces and for those with
expressions in double braces is safe there and can be told from everything else that is escaped: it
has entities where the text has characters with a meaning, and they stand for these characters. -/
theorem escapes_safe_and_lossless (s s' : String) :
    (IsEscapeOf .markup s (escapeMarkup s) ∧ (escapeMarkup s = escapeMarkup s' ↔ s = s')) ∧
    (IsEscapeOf .braced s (escapeBraced s) ∧ (escapeBraced s = escapeBraced s' ↔ s = s') ∧
      '\x7b' ∉ (escapeBraced s).toList ∧ '\x7d' ∉ (escapeBraced s).toList) ∧
    IsEscapeOf .mustache s (escapeMustache s) ∧ (escapeMustache s = escapeMustache s' ↔ s = s') ∧
      ¬ ['\x7b', '\x7b'] <:+: (escapeMustache s).toList := by
  have hmarkup : ∀ s, IsEscapeOf .markup s (escapeMarkup s) := fun s =>
    (spells_escapeMarkup s).isEscapeOf (List.Subset.refl markupSpecials) (by decide)
  have hbraced : ∀ s, IsEscapeOf .braced s (escapeBraced s) := fun s =>
    (spells_escapeBraced s).isEscapeOf (List.subset_append_left _ _) (by decide)
  have hmustache : ∀ s, IsEscapeOf .mustache s (escapeMustache s) := fun s =>
    (spells_escapeMustache s).isEscapeOf (List.Subset.refl markupSpecials) (by decide)
  refine ⟨⟨hmarkup s, escape_inj hmarkup⟩, ⟨hbraced s, escape_inj hbraced, ?_, ?_⟩,
    hmustache s, escape_inj hmustache, ?_⟩
  · exact (spells_escapeBraced s).notMem (by decide) (by decide)
  · exact (spells_escapeBraced s).notMem (by decide) (by decide)
  · rw [escapeMustache_eq_replaceAll, toList_replaceAll]
    exact not_infix_replaceFrom_pair (by decide) _

end Screenwright.Text
