import Mathlib.Algebra.GroupWithZero.Nat
import Mathlib.Data.List.Induction
import Screenwright.Proofs.Text.Entities
import Screenwright.Proofs.Text.Escapes
import Screenwright.Proofs.Text.Pieces

/-! How often the tags of a script begin in a text. The counts of two texts add up where no tag
stands across their border, and what is escaped has none. -/
namespace Screenwright

/-- The tags at the start and the stop of a script, each up to the end of its name. -/
inductive ScriptTag where
  | start
  | stop
  deriving DecidableEq, Repr

namespace ScriptTag

/-- What follows the angle bracket of a tag. -/
def name : ScriptTag → List Char
  | start => "script".toList
  | stop => "/script".toList

/-- How often a tag begins in a list of characters. -/
def countIn (m : ScriptTag) (cs : List Char) : Nat :=
  cs.tails.countP ('<' :: m.name).isPrefixOf

/-- How often a tag begins in a text. -/
def count (m : ScriptTag) (s : String) : Nat := m.countIn s.toList

/-! ### Lists of characters -/

section
variable {m : ScriptTag} {c : Char} {xs ys : List Char}

@[simp] lemma countIn_nil : m.countIn [] = 0 := by
  cases m <;> rfl

lemma countIn_cons : m.countIn (c :: xs) =
    m.countIn xs + if '<' = c ∧ m.name <+: xs then 1 else 0 := by
  have htails : (c :: xs).tails = (c :: xs) :: xs.tails := rfl
  rw [countIn, htails, List.countP_cons, countIn]
  simp [List.cons_prefix_cons]

lemma countIn_cons_of_ne (h : c ≠ '<') : m.countIn (c :: xs) = m.countIn xs := by
  rw [countIn_cons, if_neg fun hc => h hc.1.symm, Nat.add_zero]

lemma countIn_append_of_notMem (h : '<' ∉ xs) : m.countIn (xs ++ ys) = m.countIn ys := by
  induction xs with
  | nil => rfl
  | cons x xs ih =>
    obtain ⟨hx, hxs⟩ := not_or.1 (List.mem_cons.not.1 h)
    rw [List.cons_append, countIn_cons_of_ne (Ne.symm hx), ih hxs]

lemma countIn_of_notMem (h : '<' ∉ xs) : m.countIn xs = 0 := by
  have happend : m.countIn (xs ++ []) = m.countIn [] := countIn_append_of_notMem h
  rwa [List.append_nil, countIn_nil] at happend

/-- A piece does not reach into a list that begins with none of its characters. -/
lemma prefix_append_iff {piece : List Char} (h : ∀ c ∈ ys.head?, c ∉ piece) :
    piece <+: xs ++ ys ↔ piece <+: xs := by
  induction piece generalizing xs with
  | nil => simp
  | cons p piece ih =>
    cases xs with
    | nil =>
      cases ys with
      | nil => simp
      | cons y ys =>
        have hne : p ≠ y := fun heq => h y rfl (heq ▸ List.mem_cons_self)
        simp [List.cons_prefix_cons, hne]
    | cons x xs =>
      have hpiece : ∀ c ∈ ys.head?, c ∉ piece := fun c hc hmem =>
        h c hc (List.mem_cons_of_mem _ hmem)
      rw [List.cons_append, List.cons_prefix_cons, List.cons_prefix_cons, ih hpiece]

lemma countIn_append_of_head (h : ∀ c ∈ ys.head?, c ∉ m.name) :
    m.countIn (xs ++ ys) = m.countIn xs + m.countIn ys := by
  induction xs with
  | nil => simp
  | cons x xs ih =>
    rw [List.cons_append, countIn_cons, countIn_cons, ih]
    simp only [prefix_append_iff h]
    omega

lemma countIn_append_of_getLast (h : ∀ c ∈ xs.getLast?, c ≠ '<' ∧ c ∉ m.name) :
    m.countIn (xs ++ ys) = m.countIn xs + m.countIn ys := by
  induction xs using List.reverseRecOn with
  | nil => simp
  | append_singleton xs c _ =>
    obtain ⟨hc, hname⟩ := h c (by simp)
    have hhead : ∀ zs, ∀ d ∈ (c :: zs).head?, d ∉ m.name := by
      rintro zs d ⟨rfl⟩
      exact hname
    rw [List.append_assoc, List.singleton_append, countIn_append_of_head (hhead ys),
      countIn_append_of_head (hhead []), countIn_cons_of_ne hc, countIn_cons_of_ne hc, countIn_nil,
      Nat.add_zero]

end

/-! ### Texts -/

/-- The text does not go on with a tag that has begun before it. -/
def BeginsApart (s : String) : Prop := ∀ c ∈ s.toList.head?, c ∉ "/script".toList

/-- No tag that has begun in the text goes on after it. -/
def EndsApart (s : String) : Prop := ∀ c ∈ s.toList.getLast?, c ∉ "</script".toList

lemma all_notMem_iff {edge : Option Char} {piece : List Char} :
    edge.all (fun c => !piece.contains c) = true ↔ ∀ c ∈ edge, c ∉ piece := by
  cases edge <;> simp

instance (s : String) : Decidable (BeginsApart s) := decidable_of_iff _ all_notMem_iff

instance (s : String) : Decidable (EndsApart s) := decidable_of_iff _ all_notMem_iff

section
variable {m : ScriptTag} {a b s : String}

lemma name_subset (m : ScriptTag) : m.name ⊆ "/script".toList := by
  cases m <;> decide

lemma count_append (h : EndsApart a ∨ BeginsApart b) :
    m.count (a ++ b) = m.count a + m.count b := by
  rw [count, String.toList_append]
  rcases h with ha | hb
  · refine countIn_append_of_getLast fun c hc => ?_
    have hmem := ha c hc
    refine ⟨fun heq => hmem (by simp [heq]), fun hname => hmem ?_⟩
    exact List.mem_cons_of_mem _ (m.name_subset hname)
  · exact countIn_append_of_head fun c hc hname => hb c hc (m.name_subset hname)

lemma count_of_notMem (h : '<' ∉ s.toList) : m.count s = 0 := countIn_of_notMem h

/-- A text before another one that adds nothing to its count. -/
lemma count_append_left (hends : EndsApart a) (hnone : '<' ∉ a.toList) :
    m.count (a ++ b) = m.count b := by
  rw [count_append (.inl hends), count_of_notMem hnone, Nat.zero_add]

/-- A text behind another one that adds nothing to its count. -/
lemma count_append_right (hbegins : BeginsApart b) (hnone : '<' ∉ b.toList) :
    m.count (a ++ b) = m.count a := by
  rw [count_append (.inr hbegins), count_of_notMem hnone, Nat.add_zero]

/-- What separates texts, so that their counts add up. -/
structure Separates (between : String) : Prop where
  begins : BeginsApart between
  ends : EndsApart between
  none : '<' ∉ between.toList
  filled : between ≠ ""

lemma beginsApart_append (h : BeginsApart a) (hne : a ≠ "") : BeginsApart (a ++ b) := by
  intro c hc
  obtain ⟨d, ds, hd⟩ := List.exists_cons_of_ne_nil (String.toList_eq_nil_iff.not.2 hne)
  rw [String.toList_append, hd] at hc
  exact h c (by rw [hd]; exact hc)

lemma endsApart_append (h : EndsApart b) (hne : b ≠ "") : EndsApart (a ++ b) := by
  intro c hc
  have hb : b.toList ≠ [] := String.toList_eq_nil_iff.not.2 hne
  rw [String.toList_append, List.getLast?_append_of_ne_nil _ hb] at hc
  exact h c hc

lemma count_intercalate {between : String} (h : Separates between) (xs : List String) :
    m.count (between.intercalate xs) = (xs.map m.count).sum := by
  induction xs with
  | nil => exact count_of_notMem (by simp)
  | cons x xs ih =>
    cases xs with
    | nil => simp
    | cons y xs =>
      rw [String.intercalate_cons_cons, count_append (.inl (endsApart_append h.ends h.filled)),
        count_append (.inr h.begins), ih, count_of_notMem h.none, List.map_cons, List.sum_cons]
      rfl

lemma separates_newline : Separates "\n" := ⟨by decide, by decide, by decide, by decide⟩
lemma separates_blank : Separates " " := ⟨by decide, by decide, by decide, by decide⟩
lemma separates_comma : Separates ", " := ⟨by decide, by decide, by decide, by decide⟩

/-- Moving lines to the right changes no count. -/
lemma count_indent (width : Nat) (s : String) : m.count (Text.indent width s) = m.count s := by
  have hlines : "\n".intercalate (Text.lines s) = s := by
    apply String.toList_inj.1
    rw [String.toList_intercalate, Text.lines, List.map_map, Function.comp_def]
    simp only [String.toList_ofList, List.map_id']
    exact List.intercalate_splitOn '\n'
  rw [Text.indent, Text.unlines, count_intercalate separates_newline, List.map_map,
    ← congrArg m.count hlines, count_intercalate separates_newline]
  congr 1
  refine List.map_congr_left fun l _ => ?_
  rw [Function.comp_apply]
  split
  · rw [count, String.toList_append, countIn_append_of_notMem]
    · rfl
    · simp [Text.spaces]
  · rfl

/-! ### Escaped texts -/

lemma notMem_escapeMarkup (s : String) : '<' ∉ (Text.escapeMarkup s).toList :=
  (Text.spells_escapeMarkup s).notMem (by decide) (by decide)

lemma notMem_hexDigits (width n : Nat) : '<' ∉ Text.hexDigits width n := by
  have hdigit : ∀ k < 16, Nat.digitChar k ≠ '<' := by decide
  induction width generalizing n with
  | zero => simp [Text.hexDigits]
  | succ width ih =>
    have hlast := hdigit (n % 16) (Nat.mod_lt n (by decide))
    simp [Text.hexDigits, ih, Text.hexDigit, hlast.symm]

/-- An escape begins with a backslash and holds no angle bracket. -/
lemma of_escape? {c : Char} {e : List Char} (h : Text.escape? c = some e) :
    '<' ∉ e ∧ e.head? = some '\\' := by
  have hform := Text.escape?_form c
  rw [h] at hform
  cases hform with
  | short hshort =>
    have hsecond : ∀ e ∈ Text.shortEscapes, '<' ∉ ['\\', e.2] := by decide
    exact ⟨hsecond _ hshort, rfl⟩
  | code _ => exact ⟨by simp [notMem_hexDigits], rfl⟩

/-- A piece of characters that stand for themselves begins a literal when it begins the text. -/
lemma prefix_flatMap_escapeChar {piece cs : List Char}
    (h : ∀ c ∈ piece, Text.escape? c = none) :
    piece <+: cs.flatMap Text.escapeChar ↔ piece <+: cs := by
  induction piece generalizing cs with
  | nil => simp
  | cons p piece ih =>
    obtain ⟨hp, hpiece⟩ := List.forall_mem_cons.1 h
    cases cs with
    | nil => simp
    | cons c cs =>
      rw [List.flatMap_cons, Text.escapeChar, List.cons_prefix_cons]
      cases hc : Text.escape? c with
      | none => simp [List.cons_prefix_cons, ih hpiece]
      | some e =>
        obtain ⟨-, hhead⟩ := of_escape? hc
        obtain ⟨rest, rfl⟩ := List.head?_eq_some_iff.1 hhead
        have hback : p ≠ '\\' := fun heq => by simp [heq, Text.escape?] at hp
        have hself : p ≠ c := fun heq => by simp [heq, hc] at hp
        simp [List.cons_prefix_cons, hback, hself]

/-- A literal has the tags of its text. -/
lemma count_quoteDouble (s : String) : m.count (Text.quoteDouble s) = m.count s := by
  have hname : ∀ c ∈ m.name, Text.escape? c = none := by
    have hall : m.name.all (fun c => (Text.escape? c).isNone) = true := by
      cases m <;> decide
    simpa using hall
  have hquote : ∀ c ∈ ['"'].head?, c ∉ m.name := by
    rintro _ ⟨rfl⟩
    cases m <;> decide
  have hchars : ∀ cs : List Char, m.countIn (cs.flatMap Text.escapeChar) = m.countIn cs := by
    intro cs
    induction cs with
    | nil => rfl
    | cons c cs ih =>
      -- A tag begins only at a character that stands for itself, and escapes do not cut its name.
      cases hc : Text.escape? c with
      | none =>
        have hself : Text.escapeChar c = [c] := by simp [Text.escapeChar, hc]
        rw [List.flatMap_cons, hself, List.singleton_append, countIn_cons, countIn_cons, ih]
        simp only [prefix_flatMap_escapeChar hname]
      | some e =>
        have hescape : Text.escapeChar c = e := by simp [Text.escapeChar, hc]
        have hne : c ≠ '<' := fun heq => by simp [heq, Text.escape?] at hc
        rw [List.flatMap_cons, hescape, countIn_append_of_notMem (of_escape? hc).1, ih,
          countIn_cons_of_ne hne]
  have hlast : m.countIn ['"'] = 0 := countIn_of_notMem (by decide)
  rw [count, Text.quoteDouble, String.toList_ofList, countIn_cons_of_ne (by decide),
    countIn_append_of_head hquote, hchars, hlast, Nat.add_zero]
  rfl

end

end ScriptTag
end Screenwright
