import Mathlib.Data.List.Basic
import Screenwright.Json.Reader
import Screenwright.Json.Text
import Screenwright.Proofs.Text.Escapes

/-! What the reader makes of a text or an integer that was written: the text and the integer,
whatever comes after it. -/
namespace Screenwright.Json.Reader

/-! ### Texts -/

lemma length_hexDigits (width n : Nat) : (Text.hexDigits width n).length = width := by
  induction width generalizing n with
  | zero => rfl
  | succ width ih => rw [Text.hexDigits, List.length_append, ih, List.length_singleton]

lemma hexValue?_digitChar : ∀ d < 16, hexValue? (Nat.digitChar d) = some d := by decide

lemma hexQuad?_hexDigits {n : Nat} (h : n < 0x10000) :
    hexQuad? (Text.hexDigits 4 n) = some n := by
  have hdigit (m : Nat) : hexValue? (Text.hexDigit m) = some (m % 16) :=
    hexValue?_digitChar _ (Nat.mod_lt _ (by decide))
  have hvalue : ((n / 16 / 16 / 16 % 16 * 16 + n / 16 / 16 % 16) * 16 + n / 16 % 16) * 16 +
      n % 16 = n := by omega
  simp [Text.hexDigits, hexQuad?, hdigit, hvalue]

lemma not_length_le {n : Nat} {cs : List Char} (hcs : cs ≠ []) :
    ¬ (Text.hexDigits 4 n ++ cs).length ≤ 4 := by
  have hpos := List.length_pos_iff.2 hcs
  rw [List.length_append, length_hexDigits]
  omega

/-- A character of the first plane is read from its code. -/
lemma unicodeEscape_hexDigits {c : Char} (hc : c.toNat < 0x10000) {cs : List Char}
    (hcs : cs ≠ []) : unicodeEscape (Text.hexDigits 4 c.toNat ++ cs) = .ok (c, cs) := by
  have hvalid : c.toNat < 0xd800 ∨ 0xdfff < c.toNat := c.valid.imp_right And.left
  rw [unicodeEscape, if_neg (not_length_le hcs), List.take_left' (length_hexDigits 4 _),
    hexQuad?_hexDigits hc, List.drop_left' (length_hexDigits 4 _)]
  dsimp only
  rw [if_neg (by omega), if_neg (by omega), Char.ofNat_toNat]

/-- A character beyond the first plane is read from its two surrogates. -/
lemma unicodeEscape_surrogates {c : Char} (hc : 0x10000 ≤ c.toNat) {cs : List Char}
    (hcs : cs ≠ []) :
    unicodeEscape (Text.hexDigits 4 (0xd800 + (c.toNat - 0x10000) / 0x400) ++
      '\\' :: 'u' :: (Text.hexDigits 4 (0xdc00 + (c.toNat - 0x10000) % 0x400) ++ cs)) =
        .ok (c, cs) := by
  have hvalid : c.toNat < 0x110000 := by
    rcases c.valid with h | h
    · exact Nat.lt_trans h (by decide)
    · exact h.2
  have hlow : lowSurrogate? ('\\' :: 'u' ::
      (Text.hexDigits 4 (0xdc00 + (c.toNat - 0x10000) % 0x400) ++ cs)) =
        .ok (some (0xdc00 + (c.toNat - 0x10000) % 0x400)) := by
    rw [lowSurrogate?, if_neg (not_length_le hcs), List.take_left' (length_hexDigits 4 _),
      hexQuad?_hexDigits (by omega)]
    dsimp only
    rw [if_pos (by omega)]
  have hcode : 0x10000 + (0xd800 + (c.toNat - 0x10000) / 0x400 - 0xd800) * 0x400 +
      (0xdc00 + (c.toNat - 0x10000) % 0x400 - 0xdc00) = c.toNat := by omega
  rw [unicodeEscape, if_neg (not_length_le (List.cons_ne_nil _ _)),
    List.take_left' (length_hexDigits 4 _), hexQuad?_hexDigits (by omega),
    List.drop_left' (length_hexDigits 4 _)]
  dsimp only
  rw [if_pos (by omega), hlow]
  dsimp only
  rw [hcode, Char.ofNat_toNat]
  simp [length_hexDigits]

lemma stringBody_cons (opening : List Char) (fuel : Nat) (acc : List Char) {c : Char}
    (hquote : c ≠ '"') (hescape : c ≠ '\\') (hcontrol : ¬ c.toNat < 0x20) (cs : List Char) :
    stringBody opening (fuel + 1) acc (c :: cs) = stringBody opening fuel (c :: acc) cs := by
  rw [stringBody, if_neg hcontrol]
  · exact hquote
  all_goals
    intros
    exact absurd ‹c = '\\'› hescape

/-- A character is read from what is written for it. -/
lemma stringBody_asciiChar (opening : List Char) (fuel : Nat) (acc : List Char) (c : Char)
    {cs : List Char} (hcs : cs ≠ []) :
    stringBody opening (fuel + 1) acc (Text.asciiChar c ++ cs) =
      stringBody opening fuel (c :: acc) cs := by
  have hescape (cs' after : List Char) (h : unicodeEscape cs' = .ok (c, after)) :
      stringBody opening (fuel + 1) acc ('\\' :: 'u' :: cs') =
        stringBody opening fuel (c :: acc) after := by
    rw [stringBody, h]
  have hform := Text.asciiChar_form c
  generalize Text.asciiChar c = e at hform
  cases hform with
  | short h =>
    have hshort : ∀ e ∈ Text.shortEscapes,
        stringBody opening (fuel + 1) acc ('\\' :: e.2 :: cs) =
          stringBody opening fuel (e.1 :: acc) cs := by
      unfold Text.shortEscapes
      repeat refine List.forall_mem_cons.2 ⟨rfl, ?_⟩
      exact List.forall_mem_nil _
    exact hshort _ h
  | code h => exact hescape _ _ (unicodeEscape_hexDigits h hcs)
  | plain hlong h _ =>
    exact stringBody_cons opening fuel acc (hlong ('"', '"') (by decide))
      (hlong ('\\', '\\') (by decide)) (Nat.not_lt.2 h) cs
  | surrogates h =>
    rw [List.cons_append, List.cons_append, List.append_assoc]
    exact hescape _ _ (unicodeEscape_surrogates h hcs)

/-- A text is read up to its closing quote from what is written for it. -/
lemma stringBody_asciiChars (opening rest s : List Char) {fuel : Nat} (hfuel : s.length < fuel)
    (acc : List Char) : stringBody opening fuel acc (s.flatMap Text.asciiChar ++ '"' :: rest) =
      .ok (String.ofList (acc.reverse ++ s), rest) := by
  induction s generalizing fuel acc with
  | nil =>
    obtain ⟨fuel, rfl⟩ := Nat.exists_eq_succ_of_ne_zero (Nat.ne_zero_of_lt hfuel)
    simp [stringBody]
  | cons c s ih =>
    obtain ⟨fuel, rfl⟩ := Nat.exists_eq_succ_of_ne_zero (Nat.ne_zero_of_lt hfuel)
    rw [List.flatMap_cons, List.append_assoc, stringBody_asciiChar _ _ _ _ (by simp),
      ih (Nat.lt_of_succ_lt_succ hfuel), List.reverse_cons, List.append_assoc,
      List.singleton_append]

lemma length_le_flatMap_asciiChar (s : List Char) :
    s.length ≤ (s.flatMap Text.asciiChar).length := by
  have hpos (c : Char) : 1 ≤ (Text.asciiChar c).length := by
    have hform := Text.asciiChar_form c
    generalize Text.asciiChar c = e at hform
    cases hform <;> simp
  induction s with
  | nil => exact Nat.le_refl 0
  | cons c s ih =>
    have hc := hpos c
    rw [List.flatMap_cons, List.length_append, List.length_cons]
    omega

lemma quoteAscii_append (s : String) (rest : List Char) : (Text.quoteAscii s).toList ++ rest =
    '"' :: (s.toList.flatMap Text.asciiChar ++ '"' :: rest) := by
  simp [Text.quoteAscii]

lemma stringAfterQuote_asciiChars (s : String) (rest : List Char) :
    stringAfterQuote (s.toList.flatMap Text.asciiChar ++ '"' :: rest) = .ok (s, rest) := by
  have hlength := length_le_flatMap_asciiChar s.toList
  rw [stringAfterQuote, stringBody_asciiChars, List.reverse_nil, List.nil_append,
    String.ofList_toList]
  simp only [List.length_append, List.length_cons]
  omega

/-! ### Numbers -/

/-- What follows a value: nothing, a comma or a line break. -/
def EndsValue (rest : List Char) : Prop := ∀ c ∈ rest.head?, c = ',' ∨ c = '\n'

lemma EndsValue.cases {rest : List Char} (h : EndsValue rest) :
    rest = [] ∨ (∃ after, rest = ',' :: after) ∨ ∃ after, rest = '\n' :: after := by
  cases rest with
  | nil => exact .inl rfl
  | cons c after =>
    obtain rfl | rfl := h c rfl
    · exact .inr (.inl ⟨after, rfl⟩)
    · exact .inr (.inr ⟨after, rfl⟩)

lemma digitsValue_toDigits (n : Nat) : digitsValue (Nat.toDigits 10 n) = n := by
  have hvalue := Nat.ofDigitChars_ten_toDigits (n := n)
  rw [Nat.ofDigitChars_eq_foldl] at hvalue
  simp only [Nat.mul_comm 10] at hvalue
  exact hvalue

/-- Only zero is written with a zero in front. -/
lemma eq_zero_of_head?_toDigits {n : Nat} (h : (Nat.toDigits 10 n).head? = some '0') : n = 0 := by
  induction n using Nat.strongRecOn with
  | _ n ih =>
    rw [Nat.toDigits_eq_if (by decide)] at h
    split_ifs at h with hn
    · simpa using h
    · have hpos := Nat.length_toDigits_pos (b := 10) (n := n / 10)
      obtain ⟨c, hc⟩ := Option.isSome_iff_exists.1
        (List.isSome_head?.2 (List.length_pos_iff.1 hpos))
      rw [List.head?_append, hc, Option.some_or] at h
      have hzero := ih (n / 10) (by omega) (hc.trans h)
      omega

lemma wholePart_toDigits (n : Nat) {rest : List Char} (hrest : EndsValue rest) :
    wholePart (Nat.toDigits 10 n ++ rest) = some (Nat.toDigits 10 n, rest) := by
  have htake : rest.takeWhile Char.isDigit = [] ∧ rest.dropWhile Char.isDigit = rest := by
    obtain rfl | ⟨after, rfl⟩ | ⟨after, rfl⟩ := hrest.cases <;> simp
  have hdigits : ∀ c ∈ Nat.toDigits 10 n, c.isDigit = true := fun c hc =>
    Nat.isDigit_of_mem_toDigits (by decide) (by decide) hc
  have hzero := eq_zero_of_head?_toDigits (n := n)
  have hpos := Nat.length_toDigits_pos (b := 10) (n := n)
  cases hn : Nat.toDigits 10 n with
  | nil => simp [hn] at hpos
  | cons c ds =>
    rw [hn] at hdigits hzero
    by_cases hc : c = '0'
    · subst hc
      obtain rfl := hzero rfl
      obtain rfl : ds = [] := by simpa using hn.symm
      rfl
    · have hds : ∀ d ∈ ds, d.isDigit = true := fun d hd => hdigits d (List.mem_cons_of_mem _ hd)
      rw [List.cons_append, wholePart, if_pos (hdigits c List.mem_cons_self),
        List.takeWhile_append_of_pos hds, List.dropWhile_append_of_pos hds, htake.1, htake.2,
        List.append_nil]
      exact hc

lemma number_toDigits (start : List Char) (negative : Bool) {n : Nat}
    (hn : (Nat.toDigits 10 n).length ≤ maxIntegerDigits) {rest : List Char}
    (hrest : EndsValue rest) : number start negative (Nat.toDigits 10 n ++ rest) =
      .ok (.int (if negative then -n else n), rest) := by
  have hpoint : fractionPart rest = ([], rest) ∧ exponentPart rest = (none, rest) := by
    obtain rfl | ⟨after, rfl⟩ | ⟨after, rfl⟩ := hrest.cases <;> exact ⟨rfl, rfl⟩
  rw [number, wholePart_toDigits n hrest]
  simp only [hpoint, integer, if_neg (Nat.not_lt.2 hn), digitsValue_toDigits]
  rfl

lemma exists_toDigits (n : Nat) :
    ∃ c ds, Nat.toDigits 10 n = c :: ds ∧ c.isDigit = true := by
  have hpos := Nat.length_toDigits_pos (b := 10) (n := n)
  cases hn : Nat.toDigits 10 n with
  | nil => simp [hn] at hpos
  | cons c ds =>
    refine ⟨c, ds, rfl, Nat.isDigit_of_mem_toDigits (b := 10) (n := n) (by decide) (by decide) ?_⟩
    rw [hn]
    exact List.mem_cons_self

lemma scalar_digit {c : Char} (hc : c.isDigit = true) (cs : List Char) :
    scalar (c :: cs) = number (c :: cs) false (c :: cs) := by
  rw [scalar.eq_def]
  split <;> first | rfl | (cases ‹c :: cs = _›; cases hc)

lemma scalar_minus {c : Char} (hc : c.isDigit = true) (cs : List Char) :
    scalar ('-' :: c :: cs) = number ('-' :: c :: cs) true (c :: cs) := by
  rw [scalar]
  intro rest h
  cases h
  cases hc

lemma toList_toString_int (n : Int) : (toString n).toList =
    (if n < 0 then ['-'] else []) ++ Nat.toDigits 10 n.natAbs := by
  cases n with
  | ofNat n => simp [ToString.toString, Int.repr, Nat.repr]
  | negSucc n => simp [ToString.toString, Int.repr, Nat.repr, Int.negSucc_lt_zero]

lemma scalar_int {n : Int} (hn : (Nat.toDigits 10 n.natAbs).length ≤ maxIntegerDigits)
    {rest : List Char} (hrest : EndsValue rest) :
    scalar ((toString n).toList ++ rest) = .ok (.int n, rest) := by
  obtain ⟨c, ds, hdigits, hc⟩ := exists_toDigits n.natAbs
  have hnumber (start : List Char) (negative : Bool) :=
    number_toDigits start negative hn hrest
  rw [hdigits, List.cons_append] at hnumber
  rw [toList_toString_int, hdigits]
  split_ifs with hneg
  · have habs : -(n.natAbs : Int) = n := by omega
    rw [List.append_assoc, List.singleton_append, List.cons_append, scalar_minus hc, hnumber,
      if_pos rfl, habs]
  · have habs : (n.natAbs : Int) = n := by omega
    rw [List.nil_append, List.cons_append, scalar_digit hc, hnumber, if_neg (by decide), habs]

end Screenwright.Json.Reader
