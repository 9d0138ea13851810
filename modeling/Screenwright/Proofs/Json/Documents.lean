import Mathlib.Data.List.Forall2
import Screenwright.Proofs.Computation
import Screenwright.Proofs.Json.Spelling
import Screenwright.Proofs.Record.Merging

/-! Documents of values are read again. What is written of a value without floating-point numbers is
printable, and the reader makes the value of it again, whatever the texts in it are. -/
namespace Screenwright.Json

/-- Values that a document gives back: their integers are not too long to be read, their objects
have distinct keys, and they have no floating-point numbers. -/
inductive IsRestorable : Json → Prop where
  | null : IsRestorable .null
  | bool (b : Bool) : IsRestorable (.bool b)
  | int (n : Int) (short : (Nat.toDigits 10 n.natAbs).length ≤ maxIntegerDigits) :
      IsRestorable (.int n)
  | str (s : String) : IsRestorable (.str s)
  | arr (xs : List Json) (items : ∀ x ∈ xs, IsRestorable x) : IsRestorable (.arr xs)
  | obj (fs : Fields Json) (distinct : fs.keys.Nodup) (values : ∀ e ∈ fs, IsRestorable e.2) :
      IsRestorable (.obj fs)

namespace IsRestorable

@[simp] lemma int_iff {n : Int} :
    IsRestorable (.int n) ↔ (Nat.toDigits 10 n.natAbs).length ≤ maxIntegerDigits :=
  ⟨fun h => by cases h; assumption, .int n⟩

@[simp] lemma str_iff {s : String} : IsRestorable (.str s) ↔ True := iff_true_intro (.str s)

@[simp] lemma arr_iff {xs : List Json} :
    IsRestorable (.arr xs) ↔ ∀ x ∈ xs, IsRestorable x :=
  ⟨fun h => by cases h; assumption, .arr xs⟩

@[simp] lemma obj_iff {fs : Fields Json} :
    IsRestorable (.obj fs) ↔ fs.keys.Nodup ∧ ∀ e ∈ fs, IsRestorable e.2 :=
  ⟨fun h => by cases h; exact ⟨‹_›, ‹_›⟩, fun h => .obj fs h.1 h.2⟩

end IsRestorable

lemma documentItems_eq (depth : Nat) (xs : List Json) :
    documentItems depth xs = xs.map (document depth) := by
  induction xs with
  | nil => rfl
  | cons x xs ih => rw [documentItems, ih, List.map_cons]

/-- A key in front of the text of its value. -/
def keyed (k : String) (text : String) : String := Text.quoteAscii k ++ ": " ++ text

lemma documentFields_eq (depth : Nat) (fs : Fields Json) :
    documentFields depth fs = fs.map fun e => keyed e.1 (document depth e.2) := by
  induction fs with
  | nil => rfl
  | cons e fs ih => rw [documentFields, ih, List.map_cons, keyed]

/-- A line break, and the spaces at the start of the next line. -/
def lineStart (depth : Nat) : List Char := '\n' :: List.replicate (2 * depth) ' '

/-- The entries of a list or object after its first one, and the bracket that closes it. -/
def furtherEntries (depth : Nat) (last : Char) (es : List String) : List Char :=
  es.flatMap (fun e => ',' :: (lineStart (depth + 1) ++ e.toList)) ++ (lineStart depth ++ [last])

lemma furtherEntries_nil (depth : Nat) (last : Char) :
    furtherEntries depth last [] = lineStart depth ++ [last] := rfl

lemma furtherEntries_cons (depth : Nat) (last : Char) (e : String) (es : List String) :
    furtherEntries depth last (e :: es) =
      ',' :: (lineStart (depth + 1) ++ (e.toList ++ furtherEntries depth last es)) := by
  simp [furtherEntries]

lemma toList_intercalate_cons (between e : String) (es : List String) :
    (between.intercalate (e :: es)).toList =
      e.toList ++ es.flatMap fun e => between.toList ++ e.toList := by
  induction es generalizing e with
  | nil => simp
  | cons e' es ih =>
    rw [String.intercalate_cons_cons, String.toList_append, String.toList_append, ih]
    simp

lemma block_cons {last : String} {c : Char} (hlast : last.toList = [c]) (first : String)
    (depth : Nat) (e : String) (es : List String) : (block first last depth (e :: es)).toList =
      first.toList ++ (lineStart (depth + 1) ++ (e.toList ++ furtherEntries depth c es)) := by
  simp [block, toList_intercalate_cons, furtherEntries, lineStart, hlast, Nat.mul_add,
    -String.toList_intercalate]

namespace Reader

/-! ### Values -/

/-- A text that is read as a value, whatever comes after it. -/
def Spells (text : List Char) (j : Json) : Prop :=
  ∀ fuel rest, text.length ≤ fuel → EndsValue rest → value fuel (text ++ rest) = .ok (j, rest)

lemma skipSpace_cons {c : Char} (hc : isJsonSpace c = false) (cs : List Char) :
    skipSpace (c :: cs) = c :: cs := List.dropWhile_cons_of_neg (by simp [hc])

lemma skipSpace_lineStart (depth : Nat) (cs : List Char) :
    skipSpace (lineStart depth ++ cs) = skipSpace cs := by
  refine List.dropWhile_append_of_pos fun c hc => ?_
  rcases List.mem_cons.1 hc with rfl | hc
  · rfl
  · rw [List.eq_of_mem_replicate hc]
    rfl

lemma Spells.exists_cons {text : List Char} {j : Json} (h : Spells text j) :
    ∃ c cs, text = c :: cs ∧ isJsonSpace c = false ∧ c ≠ ']' ∧ c ≠ '\ufeff' := by
  have hread := h text.length [] (Nat.le_refl _) (by simp [EndsValue])
  rw [List.append_nil] at hread
  cases text with
  | nil => cases hread
  | cons c cs =>
    refine ⟨c, cs, rfl, ?_, ?_, ?_⟩
    · rw [isJsonSpace, Bool.eq_false_iff]
      intro hspace
      simp only [Bool.or_eq_true, beq_iff_eq] at hspace
      obtain ((rfl | rfl) | rfl) | rfl := hspace <;> cases hread
    · rintro rfl
      cases hread
    · rintro rfl
      cases hread

/-! ### Lists and objects -/

lemma endsValue_furtherEntries (depth : Nat) (last : Char) (es : List String)
    (rest : List Char) : EndsValue (furtherEntries depth last es ++ rest) := by
  cases es with
  | nil => simp [furtherEntries_nil, EndsValue, lineStart]
  | cons e es => simp [furtherEntries_cons, EndsValue]

lemma length_furtherEntries_pos (depth : Nat) (last : Char) (es : List String) :
    0 < (furtherEntries depth last es).length :=
  List.length_pos_iff.2 (by simp [furtherEntries, lineStart])

lemma skipSpace_furtherEntries_nil (depth : Nat) {last : Char} (hlast : isJsonSpace last = false)
    (rest : List Char) : skipSpace (furtherEntries depth last [] ++ rest) = last :: rest := by
  rw [furtherEntries_nil, List.append_assoc, skipSpace_lineStart, List.singleton_append,
    skipSpace_cons hlast]

lemma skipSpace_furtherEntries_cons (depth : Nat) (last : Char) (e : String) (es : List String)
    (rest : List Char) : skipSpace (furtherEntries depth last (e :: es) ++ rest) =
      ',' :: (lineStart (depth + 1) ++ (e.toList ++ (furtherEntries depth last es ++ rest))) := by
  rw [furtherEntries_cons, List.cons_append, skipSpace_cons rfl, List.append_assoc,
    List.append_assoc]

/-- What a text spells is read in front of further entries. -/
lemma Spells.value_eq {text : List Char} {j : Json} (h : Spells text j) {depth : Nat}
    {last : Char} {es : List String} {fuel : Nat}
    (hfuel : (text ++ furtherEntries depth last es).length ≤ fuel + 1) (rest : List Char) :
    value fuel (text ++ (furtherEntries depth last es ++ rest)) =
      .ok (j, furtherEntries depth last es ++ rest) := by
  have hpos := length_furtherEntries_pos depth last es
  rw [List.length_append] at hfuel
  exact h fuel _ (by omega) (endsValue_furtherEntries depth last es rest)

lemma Spells.skipSpace_eq {text : List Char} {j : Json} (h : Spells text j) (depth : Nat)
    (rest : List Char) : skipSpace (lineStart depth ++ (text ++ rest)) = text ++ rest := by
  obtain ⟨c, cs, rfl, hc, -⟩ := h.exists_cons
  rw [skipSpace_lineStart, List.cons_append, skipSpace_cons hc]

/-- The items of a list are read one after the other, up to the bracket that closes it. -/
lemma items_spelled {e : String} {x : Json} {es : List String} {xs : List Json}
    (hx : Spells e.toList x) (hxs : List.Forall₂ (fun e x => Spells e.toList x) es xs)
    {depth fuel : Nat} (hfuel : (e.toList ++ furtherEntries depth ']' es).length ≤ fuel)
    (acc : List Json) (rest : List Char) :
    items fuel acc (e.toList ++ (furtherEntries depth ']' es ++ rest)) =
      .ok (.arr (acc.reverse ++ x :: xs), rest) := by
  induction hxs generalizing e x fuel acc with
  | nil =>
    obtain ⟨fuel, rfl⟩ : ∃ n, fuel = n + 1 := Nat.exists_eq_succ_of_ne_zero fun h => by
      simp [h, furtherEntries_nil] at hfuel
    rw [items, hx.value_eq hfuel]
    simp only [skipSpace_furtherEntries_nil depth (by decide : isJsonSpace ']' = false),
      List.reverse_cons]
  | @cons e' x' es xs hx' _ ih =>
    obtain ⟨fuel, rfl⟩ : ∃ n, fuel = n + 1 := Nat.exists_eq_succ_of_ne_zero fun h => by
      simp [h, furtherEntries_cons] at hfuel
    rw [items, hx.value_eq hfuel]
    simp only [skipSpace_furtherEntries_cons, hx'.skipSpace_eq]
    rw [ih hx', List.reverse_cons, List.append_assoc, List.singleton_append]
    rw [furtherEntries_cons] at hfuel
    simp only [List.length_append, List.length_cons] at hfuel ⊢
    omega

lemma keyed_append (k text : String) (rest : List Char) : (keyed k text).toList ++ rest =
    '"' :: (k.toList.flatMap Text.asciiChar ++ '"' :: ':' :: ' ' :: (text.toList ++ rest)) := by
  simp [keyed, Text.quoteAscii]

lemma skipSpace_keyed (depth : Nat) (k text : String) (rest : List Char) :
    skipSpace (lineStart depth ++ ((keyed k text).toList ++ rest)) =
      (keyed k text).toList ++ rest := by
  rw [skipSpace_lineStart, keyed_append, skipSpace_cons rfl]

/-- A member of an object is read up to what comes after its value. -/
lemma members_keyed {text : String} {v : Json} (hv : Spells text.toList v) {k : String}
    {depth fuel : Nat} {es : List String}
    (hfuel : ((keyed k text).toList ++ furtherEntries depth '\x7d' es).length ≤ fuel + 1)
    (acc : List (String × Json)) (rest : List Char) :
    members (fuel + 1) acc ((keyed k text).toList ++ (furtherEntries depth '\x7d' es ++ rest)) =
      match skipSpace (furtherEntries depth '\x7d' es ++ rest) with
      | '\x7d' :: rest => .ok (.obj (Fields.ofEntries ((k, v) :: acc).reverse), rest)
      | ',' :: rest => members fuel ((k, v) :: acc) (skipSpace rest)
      | rest => .error (.fault .comma rest) := by
  obtain ⟨c, cs, htext, hc, -⟩ := hv.exists_cons
  have hspace : skipSpace (' ' :: (text.toList ++ (furtherEntries depth '\x7d' es ++ rest))) =
      text.toList ++ (furtherEntries depth '\x7d' es ++ rest) := by
    rw [htext, List.cons_append]
    exact skipSpace_cons hc _
  have hlength : (text.toList ++ furtherEntries depth '\x7d' es).length ≤ fuel + 1 := by
    rw [keyed_append] at hfuel
    simp only [List.length_append, List.length_cons] at hfuel ⊢
    omega
  rw [keyed_append, members, stringAfterQuote_asciiChars]
  simp only [skipSpace_cons (c := ':') rfl, hspace, hv.value_eq hlength]
  all_goals rfl

/-- The members of an object are read one after the other, up to the bracket that closes it. -/
lemma members_spelled {k text : String} {v : Json} {es : List String} {fs : Fields Json}
    (hv : Spells text.toList v)
    (hfs : List.Forall₂ (fun e f => ∃ text, e = keyed f.1 text ∧ Spells text.toList f.2) es fs)
    {depth fuel : Nat}
    (hfuel : ((keyed k text).toList ++ furtherEntries depth '\x7d' es).length ≤ fuel)
    (acc : List (String × Json)) (rest : List Char) :
    members fuel acc ((keyed k text).toList ++ (furtherEntries depth '\x7d' es ++ rest)) =
      .ok (.obj (Fields.ofEntries (acc.reverse ++ (k, v) :: fs)), rest) := by
  induction hfs generalizing k text v fuel acc with
  | nil =>
    obtain ⟨fuel, rfl⟩ : ∃ n, fuel = n + 1 := Nat.exists_eq_succ_of_ne_zero fun h => by
      simp [h, furtherEntries_nil] at hfuel
    rw [members_keyed hv hfuel]
    simp only [skipSpace_furtherEntries_nil depth (by decide : isJsonSpace '\x7d' = false),
      List.reverse_cons]
  | @cons e f es fs hf _ ih =>
    obtain ⟨k', v'⟩ := f
    obtain ⟨text', rfl, hv'⟩ := hf
    obtain ⟨fuel, rfl⟩ : ∃ n, fuel = n + 1 := Nat.exists_eq_succ_of_ne_zero fun h => by
      simp [h, furtherEntries_cons] at hfuel
    rw [members_keyed hv hfuel]
    simp only [skipSpace_furtherEntries_cons, skipSpace_keyed]
    rw [ih hv', List.reverse_cons, List.append_assoc, List.singleton_append]
    rw [furtherEntries_cons] at hfuel
    simp only [List.length_append, List.length_cons] at hfuel ⊢
    omega

/-! ### Documents -/

lemma value_scalar {c : Char} (hquote : c ≠ '"') (hlist : c ≠ '[') (hobject : c ≠ '\x7b')
    (fuel : Nat) (cs : List Char) : value (fuel + 1) (c :: cs) = scalar (c :: cs) := by
  rw [value]
  all_goals
    intros
    simp_all

lemma spells_cons {c : Char} {cs : List Char} {j : Json}
    (h : ∀ fuel rest, cs.length ≤ fuel → EndsValue rest →
      value (fuel + 1) (c :: (cs ++ rest)) = .ok (j, rest)) : Spells (c :: cs) j := by
  intro fuel rest hfuel hrest
  cases fuel with
  | zero => cases hfuel
  | succ fuel => exact h fuel rest (Nat.le_of_succ_le_succ hfuel) hrest

lemma spells_list {e : String} {x : Json} {es : List String} {xs : List Json}
    (hx : Spells e.toList x) (hxs : List.Forall₂ (fun e x => Spells e.toList x) es xs)
    {depth : Nat} : Spells ('[' ::
      (lineStart (depth + 1) ++ (e.toList ++ furtherEntries depth ']' es))) (.arr (x :: xs)) := by
  refine spells_cons fun fuel rest hfuel _ => ?_
  obtain ⟨c, cs, htext, -, hclose, -⟩ := hx.exists_cons
  have hlength : (e.toList ++ furtherEntries depth ']' es).length ≤ fuel := by
    rw [List.length_append] at hfuel
    omega
  have hitems := items_spelled hx hxs hlength [] rest
  rw [value, List.append_assoc, List.append_assoc, hx.skipSpace_eq]
  rw [htext, List.cons_append] at hitems ⊢
  split
  · next heq => exact absurd (List.cons.inj heq).1 hclose
  · exact hitems

lemma spells_object {k text : String} {v : Json} {es : List String} {fs : Fields Json}
    (hv : Spells text.toList v)
    (hfs : List.Forall₂ (fun e f => ∃ text, e = keyed f.1 text ∧ Spells text.toList f.2) es fs)
    {depth : Nat} : Spells ('\x7b' :: (lineStart (depth + 1) ++
      ((keyed k text).toList ++ furtherEntries depth '\x7d' es)))
        (.obj (Fields.ofEntries ((k, v) :: fs))) := by
  refine spells_cons fun fuel rest hfuel _ => ?_
  have hlength : ((keyed k text).toList ++ furtherEntries depth '\x7d' es).length ≤ fuel := by
    rw [List.length_append] at hfuel
    omega
  have hmembers := members_spelled hv hfs hlength [] rest
  rw [value, List.append_assoc, List.append_assoc, skipSpace_keyed]
  rw [keyed_append] at hmembers ⊢
  exact hmembers

lemma spells_int {n : Int} (hn : (Nat.toDigits 10 n.natAbs).length ≤ maxIntegerDigits) :
    Spells (toString n).toList (.int n) := by
  have hscalar (rest : List Char) (hrest : EndsValue rest) := scalar_int hn hrest
  obtain ⟨c, cs, htext, hquote, hlist, hobject⟩ : ∃ c cs, (toString n).toList = c :: cs ∧
      c ≠ '"' ∧ c ≠ '[' ∧ c ≠ '\x7b' := by
    obtain ⟨c, ds, hdigits, hc⟩ := exists_toDigits n.natAbs
    rw [toList_toString_int, hdigits]
    split_ifs
    · exact ⟨'-', c :: ds, rfl, by decide⟩
    · refine ⟨c, ds, rfl, ?_, ?_, ?_⟩ <;> (rintro rfl; cases hc)
  rw [htext] at hscalar ⊢
  refine spells_cons fun fuel rest _ hrest => ?_
  rw [value_scalar hquote hlist hobject]
  exact hscalar rest hrest

/-- The document of a value spells it. -/
lemma spells_document {j : Json} (h : j.IsRestorable) (depth : Nat) :
    Spells (j.document depth).toList j := by
  induction h generalizing depth with
  | null =>
    rw [document]
    change Spells ['n', 'u', 'l', 'l'] _
    exact spells_cons fun _ _ _ _ => rfl
  | bool b =>
    cases b with
    | false =>
      rw [document]
      change Spells ['f', 'a', 'l', 's', 'e'] _
      exact spells_cons fun _ _ _ _ => rfl
    | true =>
      rw [document]
      change Spells ['t', 'r', 'u', 'e'] _
      exact spells_cons fun _ _ _ _ => rfl
  | int n short => exact spells_int short
  | str s =>
    rw [document, Text.quoteAscii, String.toList_ofList]
    refine spells_cons fun fuel rest _ _ => ?_
    rw [value, List.append_assoc, List.singleton_append, stringAfterQuote_asciiChars]
  | arr xs _ ih =>
    rw [document, documentItems_eq]
    cases xs with
    | nil =>
      rw [List.map_nil, block, String.toList_append]
      change Spells ['[', ']'] _
      exact spells_cons fun _ _ _ _ => rfl
    | cons x xs =>
      have hx := ih x List.mem_cons_self (depth + 1)
      have hxs : List.Forall₂ (fun (e : String) x => Spells e.toList x)
          (xs.map (document (depth + 1))) xs :=
        List.forall₂_map_left_iff.2 (List.forall₂_same.2 fun y hy =>
          ih y (List.mem_cons_of_mem _ hy) (depth + 1))
      rw [List.map_cons, block_cons (c := ']') rfl]
      exact spells_list hx hxs
  | obj fs distinct _ ih =>
    rw [document, documentFields_eq]
    cases fs with
    | nil =>
      rw [List.map_nil, block, String.toList_append]
      change Spells ['\x7b', '\x7d'] _
      exact spells_cons fun _ _ _ _ => rfl
    | cons f fs =>
      have hf := ih f List.mem_cons_self (depth + 1)
      have hfs : List.Forall₂ (fun e f => ∃ text, e = keyed f.1 text ∧ Spells text.toList f.2)
          (fs.map fun e => keyed e.1 (document (depth + 1) e.2)) fs :=
        List.forall₂_map_left_iff.2 (List.forall₂_same.2 fun e he =>
          ⟨_, rfl, ih e (List.mem_cons_of_mem _ he) (depth + 1)⟩)
      rw [List.map_cons, block_cons (c := '\x7d') rfl, ← Fields.ofEntries_of_nodup distinct]
      exact spells_object hf hfs

end Reader

/-- A document is read again as the value that it was made of. -/
theorem ofText_document {j : Json} (h : j.IsRestorable) :
    ofText (j.document 0 ++ "\n") = .ok j := by
  have hspells := Reader.spells_document h 0
  obtain ⟨c, cs, htext, hspace, -, hmark⟩ := hspells.exists_cons
  have hvalue := hspells (((j.document 0).toList ++ ['\n']).length + 1) ['\n']
    (by rw [List.length_append]; omega) (by simp [Reader.EndsValue])
  have hread : Reader.read ((j.document 0).toList ++ ['\n']) = .ok j := by
    rw [htext, List.cons_append] at hvalue ⊢
    unfold Reader.read
    split
    · next heq => exact absurd (List.cons.inj heq).1 hmark
    · rw [Reader.skipSpace_cons hspace, hvalue]
      rfl
  rw [ofText, String.toList_append]
  exact mapError_eq_ok_iff.2 hread

/-! ### The characters of documents -/

/-- The characters that documents are written with: those that print in ASCII, and line feeds. -/
def IsDocumentChar (c : Char) : Prop := c = '\n' ∨ 0x20 ≤ c.toNat ∧ c.toNat < 0x7f

instance : DecidablePred IsDocumentChar := fun _ => inferInstanceAs (Decidable (_ ∨ _))

lemma isDocumentChar_of_all {cs : List Char} (h : cs.all (decide <| IsDocumentChar ·) = true) :
    ∀ c ∈ cs, IsDocumentChar c := fun c hc => of_decide_eq_true (List.all_eq_true.1 h c hc)

lemma isDocumentChar_of_isDigit {c : Char} (h : c.isDigit = true) : IsDocumentChar c := by
  simp only [Char.isDigit, Bool.and_eq_true, decide_eq_true_eq] at h
  exact .inr ⟨Nat.le_trans (by decide) h.1, Nat.lt_of_le_of_lt h.2 (by decide)⟩

lemma isDocumentChar_hexDigits (width n : Nat) :
    ∀ c ∈ Text.hexDigits width n, IsDocumentChar c := by
  have hdigit : ∀ d < 16, IsDocumentChar (Nat.digitChar d) := by decide
  induction width generalizing n with
  | zero => simp [Text.hexDigits]
  | succ width ih =>
    rw [Text.hexDigits, List.forall_mem_append, List.forall_mem_singleton]
    exact ⟨ih _, hdigit _ (Nat.mod_lt _ (by decide))⟩

lemma isDocumentChar_asciiChar (c : Char) : ∀ d ∈ Text.asciiChar c, IsDocumentChar d := by
  have hcode (n : Nat) : ∀ d ∈ '\\' :: 'u' :: Text.hexDigits 4 n, IsDocumentChar d := by
    simp only [List.forall_mem_cons]
    exact ⟨by decide, by decide, isDocumentChar_hexDigits 4 n⟩
  have hform := Text.asciiChar_form c
  generalize Text.asciiChar c = e at hform
  cases hform with
  | short h =>
    have hshort : ∀ e ∈ Text.shortEscapes, IsDocumentChar e.2 := by decide
    exact List.forall_mem_cons.2 ⟨by decide, List.forall_mem_singleton.2 (hshort _ h)⟩
  | code _ => exact hcode _
  | plain _ h hascii => exact List.forall_mem_singleton.2 (.inr ⟨h, hascii⟩)
  | surrogates _ =>
    rw [← List.cons_append, ← List.cons_append, List.forall_mem_append]
    exact ⟨hcode _, hcode _⟩

lemma isDocumentChar_quoteAscii (s : String) :
    ∀ c ∈ (Text.quoteAscii s).toList, IsDocumentChar c := by
  have hquote : IsDocumentChar '"' := by decide
  simp only [Text.quoteAscii, String.toList_ofList, List.forall_mem_cons, List.forall_mem_append,
    List.forall_mem_flatMap]
  exact ⟨hquote, fun c _ => isDocumentChar_asciiChar c, hquote, by simp⟩

lemma isDocumentChar_lineStart (depth : Nat) : ∀ c ∈ lineStart depth, IsDocumentChar c := by
  rw [lineStart, List.forall_mem_cons]
  refine ⟨by decide, fun c hc => ?_⟩
  rw [List.eq_of_mem_replicate hc]
  decide

lemma isDocumentChar_block {first last : String} {b : Char}
    (hfirst : ∀ c ∈ first.toList, IsDocumentChar c) (hlast : last.toList = [b])
    (hb : IsDocumentChar b) (depth : Nat) {es : List String}
    (hes : ∀ e ∈ es, ∀ c ∈ e.toList, IsDocumentChar c) :
    ∀ c ∈ (block first last depth es).toList, IsDocumentChar c := by
  cases es with
  | nil =>
    rw [block, String.toList_append, hlast, List.forall_mem_append]
    exact ⟨hfirst, List.forall_mem_singleton.2 hb⟩
  | cons e es =>
    rw [List.forall_mem_cons] at hes
    simp only [block_cons hlast, furtherEntries, List.forall_mem_append, List.forall_mem_flatMap,
      List.forall_mem_cons]
    exact ⟨hfirst, isDocumentChar_lineStart _, hes.1,
      fun e he => ⟨by decide, isDocumentChar_lineStart _, hes.2 e he⟩,
      isDocumentChar_lineStart _, hb, by simp⟩

lemma isDocumentChar_int (n : Int) : ∀ c ∈ (toString n).toList, IsDocumentChar c := by
  have hdigits (n : Nat) : ∀ c ∈ Nat.toDigits 10 n, IsDocumentChar c := fun c hc =>
    isDocumentChar_of_isDigit (Nat.isDigit_of_mem_toDigits (by decide) (by decide) hc)
  rw [Reader.toList_toString_int, List.forall_mem_append]
  refine ⟨?_, hdigits _⟩
  split_ifs <;> exact isDocumentChar_of_all (by decide)

/-- Documents are written with the characters for them. -/
lemma isDocumentChar_document {j : Json} (h : j.IsRestorable) (depth : Nat) :
    ∀ c ∈ (j.document depth).toList, IsDocumentChar c := by
  induction h generalizing depth with
  | null =>
    rw [document]
    exact isDocumentChar_of_all (by decide)
  | bool b => cases b <;> (rw [document]; exact isDocumentChar_of_all (by decide))
  | int n => exact isDocumentChar_int n
  | str s => exact isDocumentChar_quoteAscii s
  | arr xs _ ih =>
    rw [document, documentItems_eq]
    refine isDocumentChar_block (isDocumentChar_of_all (by decide)) rfl (by decide) depth ?_
    rw [List.forall_mem_map]
    exact fun x hx => ih x hx (depth + 1)
  | obj fs _ _ ih =>
    rw [document, documentFields_eq]
    refine isDocumentChar_block (isDocumentChar_of_all (by decide)) rfl (by decide) depth ?_
    rw [List.forall_mem_map]
    intro e he
    rw [keyed, String.toList_append, String.toList_append, List.forall_mem_append,
      List.forall_mem_append]
    exact ⟨⟨isDocumentChar_quoteAscii e.1, isDocumentChar_of_all (by decide)⟩, ih e he (depth + 1)⟩

lemma cr_notMem_document {j : Json} (h : j.IsRestorable) (depth : Nat) :
    '\r' ∉ (j.document depth).toList := fun hmem =>
  absurd (isDocumentChar_document h depth _ hmem) (by decide)

end Screenwright.Json
