import Mathlib.Data.List.Basic
import Screenwright.Emit.Name
import Screenwright.Json.Reader
import Screenwright.Proofs.Text.Escapes
import Screenwright.Proofs.Text.Tidying

/-! Scripts as lists of tokens. What stands between quotes is read by the rules for literals in
strict code; a script with other tokens than these, or with a literal that continues on another line
or names a character by its code in braces or by half a pair, is not read. -/
namespace Screenwright.Script

/-- The marks between names and texts. -/
inductive Mark where
  | dot | ellipsis | comma | colon | arrow
  | parenOpen | parenClose | bracketOpen | bracketClose | braceOpen | braceClose
  deriving DecidableEq, Repr

namespace Mark

/-- All marks, a longer one before those it starts with. -/
@[simp] def all : List Mark :=
  [ellipsis, dot, comma, colon, arrow, parenOpen, parenClose, bracketOpen, bracketClose, braceOpen,
    braceClose]

/-- The spelling of a mark. -/
@[simp] def chars : Mark → List Char
  | dot => ['.']
  | ellipsis => ['.', '.', '.']
  | comma => [',']
  | colon => [':']
  | arrow => ['=', '>']
  | parenOpen => ['(']
  | parenClose => [')']
  | bracketOpen => ['[']
  | bracketClose => [']']
  | braceOpen => ['\x7b']
  | braceClose => ['\x7d']

lemma chars_ne_nil (m : Mark) : m.chars ≠ [] := by
  cases m <;> simp [chars]

end Mark

inductive Token where
  | name (s : String)
  | text (s : String)
  | mark (m : Mark)
  deriving DecidableEq, Repr

/-- The character with a code that is written in hexadecimal. -/
def codeChar? (digits : List Char) : Option Char := do
  let ds ← digits.mapM Json.Reader.hexValue?
  let code := ds.foldl (fun n d => n * 16 + d) 0
  if code.isValidChar then some (Char.ofNat code) else none

/-- What a character stands for after a backslash, other than the start of a code; `next` follows
it. -/
def escaped? (c : Char) (next : Option Char) : Option Char :=
  if c = 'b' then some (Char.ofNat 0x08)
  else if c = 't' then some '\t'
  else if c = 'n' then some '\n'
  else if c = 'v' then some (Char.ofNat 0x0b)
  else if c = 'f' then some (Char.ofNat 0x0c)
  else if c = 'r' then some '\r'
  else if c = '0' then if next.any Char.isDigit then none else some (Char.ofNat 0)
  else if c.isDigit ∨ c = 'x' ∨ c = 'u' then none
  else if c = '\n' ∨ c = '\r' ∨ c = '\u2028' ∨ c = '\u2029' then none
  else some c

/-- A character in front of the text of a literal. -/
def prepend (c : Option Char) (read : Option (List Char × List Char)) :
    Option (List Char × List Char) :=
  c.bind fun c => read.map fun r => (c :: r.1, r.2)

/-- The text of a literal up to its closing quote, and what follows it. -/
def readText (quote : Char) : List Char → Option (List Char × List Char)
  | [] => none
  | '\\' :: 'x' :: a :: b :: cs => prepend (codeChar? [a, b]) (readText quote cs)
  | '\\' :: 'u' :: a :: b :: c :: d :: cs => prepend (codeChar? [a, b, c, d]) (readText quote cs)
  | '\\' :: e :: cs => prepend (escaped? e cs.head?) (readText quote cs)
  | c :: cs =>
    if c = quote then some ([], cs)
    else if c = '\\' ∨ c = '\n' ∨ c = '\r' then none
    else prepend (some c) (readText quote cs)

/-- The mark at the head of a text, and what follows it. -/
@[simp] def mark? (cs : List Char) : Option (Mark × List Char) :=
  Mark.all.findSome? fun m => (cs.dropPrefix? m.chars).map fun rest => (m, rest)

/-- The token at the head of a text, and what follows it. -/
@[simp] def next? : List Char → Option (Token × List Char)
  | [] => none
  | c :: cs =>
    if c = '"' ∨ c = '\'' then (readText c cs).map fun r => (.text (String.ofList r.1), r.2)
    else if Emit.isIdentifierChar c ∧ ¬ c.isDigit then
      some (.name (String.ofList (c :: cs.takeWhile Emit.isIdentifierChar)),
        cs.dropWhile Emit.isIdentifierChar)
    else (mark? (c :: cs)).map fun r => (.mark r.1, r.2)

lemma length_of_prepend {c : Option Char} {read : Option (List Char × List Char)} {m n : ℕ}
    {text rest : List Char} (hread : ∀ text, read = some (text, rest) → rest.length < m)
    (h : prepend c read = some (text, rest)) (hle : m ≤ n) : rest.length < n := by
  obtain ⟨_, -, h⟩ := Option.bind_eq_some_iff.1 h
  obtain ⟨⟨text', rest'⟩, hr, heq⟩ := Option.map_eq_some_iff.1 h
  cases heq
  exact Nat.lt_of_lt_of_le (hread text' hr) hle

/-- A literal ends before the text does. -/
lemma length_of_readText {quote : Char} {cs text rest : List Char}
    (h : readText quote cs = some (text, rest)) : rest.length < cs.length := by
  fun_induction readText quote cs generalizing text with
  | case1 => cases h
  | case2 a b cs ih => exact length_of_prepend (fun _ => ih) h (by simp; omega)
  | case3 a b c d cs ih => exact length_of_prepend (fun _ => ih) h (by simp; omega)
  | case4 e cs _ _ ih => exact length_of_prepend (fun _ => ih) h (by simp; omega)
  | case5 cs =>
    cases h
    simp
  | case6 => cases h
  | case7 c cs _ _ _ _ _ ih => exact length_of_prepend (fun _ => ih) h (by simp)

lemma length_of_mark? {cs rest : List Char} {m : Mark} (h : mark? cs = some (m, rest)) :
    rest.length < cs.length := by
  obtain ⟨m', -, hm⟩ := List.exists_of_findSome?_eq_some h
  obtain ⟨rest', hrest, heq⟩ := Option.map_eq_some_iff.1 hm
  cases heq
  obtain ⟨spelling, rfl, hspelling⟩ := List.dropPrefix?_eq_some_iff.1 hrest
  obtain rfl : spelling = m.chars := eq_of_beq hspelling
  rw [List.length_append]
  exact Nat.lt_add_of_pos_left (List.length_pos_iff.2 m.chars_ne_nil)

lemma length_of_next? {cs rest : List Char} {t : Token} (h : next? cs = some (t, rest)) :
    rest.length < cs.length := by
  cases cs with
  | nil => cases h
  | cons c cs =>
    rw [next?] at h
    split_ifs at h
    · obtain ⟨⟨text, rest'⟩, hread, heq⟩ := Option.map_eq_some_iff.1 h
      cases heq
      exact Nat.lt_succ_of_lt (length_of_readText hread)
    · cases h
      exact Nat.lt_succ_of_le (List.dropWhile_sublist _).length_le
    · obtain ⟨⟨m, rest'⟩, hmark, heq⟩ := Option.map_eq_some_iff.1 h
      cases heq
      exact length_of_mark? hmark

/-- The tokens of a script, between which there may be spaces. -/
def tokens : List Char → Option (List Token)
  | [] => some []
  | c :: cs =>
    if c = ' ' then tokens cs
    else
      match _h : next? (c :: cs) with
      | none => none
      | some (t, rest) => (tokens rest).map (t :: ·)
termination_by cs => cs.length
decreasing_by
  · exact Nat.lt_succ_self _
  · exact length_of_next? _h

/-! ### Reading what has been written -/

@[simp] lemma tokens_nil : tokens [] = some [] := by
  rw [tokens]

@[simp] lemma tokens_cons (c : Char) (cs : List Char) :
    tokens (c :: cs) =
      if c = ' ' then tokens cs
      else (next? (c :: cs)).bind fun r => (tokens r.2).map (r.1 :: ·) := by
  rw [tokens]
  split
  · rfl
  · split
    · next hnone => rw [hnone, Option.bind_none]
    · next hsome => rw [hsome, Option.bind_some]

lemma codeChar?_hexDigits : ∀ n < 0x20, codeChar? (Text.hexDigits 4 n) = some (Char.ofNat n) := by
  decide

lemma readText_escapeChar (c : Char) (cs : List Char) :
    readText '"' (Text.escapeChar c ++ cs) = prepend (some c) (readText '"' cs) := by
  have hform := Text.escape?_form c
  unfold Text.escapeChar
  generalize Text.escape? c = e at hform
  cases hform with
  | short h =>
    have hshort : ∀ e ∈ Text.shortEscapes,
        readText '"' ('\\' :: e.2 :: cs) = prepend (some e.1) (readText '"' cs) := by
      unfold Text.shortEscapes
      repeat refine List.forall_mem_cons.2 ⟨rfl, ?_⟩
      exact List.forall_mem_nil _
    exact hshort _ h
  | code h =>
    have hcode := codeChar?_hexDigits c.toNat h
    rw [Char.ofNat_toNat] at hcode
    rw [← hcode]
    rfl
  | none hlong _ =>
    have hback : c ≠ '\\' := hlong ('\\', '\\') (by decide)
    have hquote : c ≠ '"' := hlong ('"', '"') (by decide)
    have hline : c ≠ '\n' ∧ c ≠ '\r' :=
      ⟨hlong ('\n', 'n') (by decide), hlong ('\r', 'r') (by decide)⟩
    change readText '"' (c :: cs) = _
    rw [readText, if_neg hquote, if_neg (by simp [hback, hline])]
    all_goals
      intros
      exact absurd ‹c = '\\'› hback

lemma readText_quoted (s cs : List Char) :
    readText '"' (s.flatMap Text.escapeChar ++ '"' :: cs) = some (s, cs) := by
  induction s with
  | nil => rfl
  | cons c s ih =>
    rw [List.flatMap_cons, List.append_assoc, readText_escapeChar, ih]
    rfl

/-- A quoted text is read as that text. -/
theorem tokens_quoteDouble (s : String) (rest : List Char) :
    tokens ((Text.quoteDouble s).toList ++ rest) = (tokens rest).map (.text s :: ·) := by
  have hlist : (Text.quoteDouble s).toList ++ rest =
      '"' :: (s.toList.flatMap Text.escapeChar ++ '"' :: rest) := by
    simp [Text.quoteDouble]
  rw [hlist, tokens_cons, if_neg (by decide), next?, if_pos (.inl rfl), readText_quoted,
    Option.map_some, Option.bind_some, String.ofList_toList]

lemma readText_singleChar {c : Char} (hbreak : c ≠ '\n' ∧ c ≠ '\r') (cs : List Char) :
    readText '\'' (Text.singleChar c ++ cs) = prepend (some c) (readText '\'' cs) := by
  rw [Text.singleChar]
  split_ifs with hc
  · rcases hc with rfl | rfl <;> rfl
  · obtain ⟨hback, hquote⟩ := not_or.1 hc
    change readText '\'' (c :: cs) = _
    rw [readText, if_neg hquote, if_neg (by simp [hback, hbreak])]
    all_goals
      intros
      exact absurd ‹c = '\\'› hback

/-- In single quotes a text is read again unless it has a line break, which is not escaped. -/
lemma readText_single (s cs : List Char) :
    readText '\'' (s.flatMap Text.singleChar ++ '\'' :: cs) =
      if Text.IsUnbroken s then some (s, cs) else none := by
  induction s with
  | nil => rfl
  | cons c s ih =>
    have hcons : Text.IsUnbroken (c :: s) ↔ (c ≠ '\n' ∧ c ≠ '\r') ∧ Text.IsUnbroken s := by
      rw [← List.singleton_append, Text.isUnbroken_append]
      simp [Text.IsUnbroken, eq_comm]
    rw [List.flatMap_cons, List.append_assoc]
    by_cases hbreak : c ≠ '\n' ∧ c ≠ '\r'
    · simp only [readText_singleChar hbreak, ih, hcons.trans (and_iff_right hbreak)]
      split <;> rfl
    · rw [if_neg fun h => hbreak (hcons.1 h).1]
      obtain rfl | rfl : c = '\n' ∨ c = '\r' := by tauto
      · rfl
      · rfl

theorem tokens_quoteSingle (s : String) (rest : List Char) :
    tokens ((Text.quoteSingle s).toList ++ rest) =
      if Text.IsUnbroken s.toList then (tokens rest).map (.text s :: ·) else none := by
  have hlist : (Text.quoteSingle s).toList ++ rest =
      '\'' :: (s.toList.flatMap Text.singleChar ++ '\'' :: rest) := by
    simp [Text.quoteSingle]
  rw [hlist, tokens_cons, if_neg (by decide), next?, if_pos (.inr rfl), readText_single]
  split
  · rw [Option.map_some, Option.bind_some, String.ofList_toList]
  · rfl

end Screenwright.Script
