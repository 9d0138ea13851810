import Mathlib.Data.List.Basic
import Screenwright.Editor.FreshId
import Screenwright.Proofs.Document.Contents

/-! New ids: those of one source never meet, since each one ends with the number of its request. The
time before that number can be read again. -/
namespace Screenwright
open scoped List

/-! ### Times -/

namespace Text

/-- The digits in the order of their values. -/
def base36Digits : List Char := "0123456789abcdefghijklmnopqrstuvwxyz".toList

/-- A number with one more digit at its end. -/
def addBase36Digit (n : Nat) (c : Char) : Nat := 36 * n + base36Digits.idxOf c

/-- The number that a text of digits stands for. -/
def ofBase36 (s : String) : Nat := s.toList.foldl addBase36Digit 0

variable {n : Nat} {c : Char}

lemma idxOf_base36Digit (h : n < 36) : base36Digits.idxOf (base36Digit n) = n := by
  have hall : ∀ k < 36, base36Digits.idxOf (base36Digit k) = k := by decide
  exact hall n h

lemma base36Digit_mem (h : n < 36) : base36Digit n ∈ base36Digits := by
  rw [← List.idxOf_lt_length_iff, idxOf_base36Digit h]
  exact h

lemma base36Digit_ne_zero (hn : n ≠ 0) (h : n < 36) : base36Digit n ≠ '0' := by
  intro hzero
  have hvalue := idxOf_base36Digit h
  rw [hzero] at hvalue
  exact hn hvalue.symm

/-- The digits of a number put it in front of what the others stand for. -/
lemma foldl_base36Onto (n : Nat) (acc : List Char) :
    (base36Onto n acc).foldl addBase36Digit 0 = acc.foldl addBase36Digit n := by
  induction n, acc using base36Onto.induct with
  | case1 acc => rw [base36Onto, if_pos rfl]
  | case2 n acc hn ih =>
    have hlast : addBase36Digit (n / 36) (base36Digit (n % 36)) = n := by
      rw [addBase36Digit, idxOf_base36Digit (Nat.mod_lt _ (by omega)), Nat.div_add_mod]
    rw [base36Onto, if_neg hn, ih, List.foldl_cons, hlast]

lemma mem_base36Onto (n : Nat) (acc : List Char) (h : c ∈ base36Onto n acc) :
    c ∈ base36Digits ∨ c ∈ acc := by
  induction n, acc using base36Onto.induct with
  | case1 acc =>
    rw [base36Onto, if_pos rfl] at h
    exact .inr h
  | case2 n acc hn ih =>
    rw [base36Onto, if_neg hn] at h
    rcases ih h with hdigit | hmem
    · exact .inl hdigit
    · rcases List.mem_cons.1 hmem with rfl | hmem
      · exact .inl (base36Digit_mem (Nat.mod_lt _ (by omega)))
      · exact .inr hmem

/-- The first digit of a number is not zero. -/
lemma base36Onto_eq_cons (n : Nat) (acc : List Char) (hn : n ≠ 0) :
    ∃ c rest, base36Onto n acc = c :: rest ∧ c ≠ '0' := by
  induction n, acc using base36Onto.induct with
  | case1 acc => exact absurd rfl hn
  | case2 n acc _ ih =>
    rw [base36Onto, if_neg hn]
    by_cases hmore : n / 36 = 0
    · have hlt : n < 36 := by omega
      refine ⟨base36Digit (n % 36), acc, ?_, ?_⟩
      · rw [hmore, base36Onto, if_pos rfl]
      · rw [Nat.mod_eq_of_lt hlt]
        exact base36Digit_ne_zero hn hlt
    · exact ih hmore

lemma toList_base36 (h : n ≠ 0) : (base36 n).toList = base36Onto n [] := by
  rw [base36, if_neg h, String.toList_ofList]

theorem ofBase36_base36 (n : Nat) : ofBase36 (base36 n) = n := by
  by_cases h : n = 0
  · subst h
    rfl
  · rw [ofBase36, toList_base36 h, foldl_base36Onto]
    rfl

theorem mem_digits_of_mem_base36 (h : c ∈ (base36 n).toList) : c ∈ base36Digits := by
  by_cases hn : n = 0
  · subst hn
    obtain rfl := List.mem_singleton.1 (show c ∈ ['0'] from h)
    decide
  · rw [toList_base36 hn] at h
    exact (mem_base36Onto n [] h).resolve_right List.not_mem_nil

/-- Only the text of zero starts with a zero. -/
theorem head?_base36_eq_zero (n : Nat) : (base36 n).toList.head? = some '0' ↔ n = 0 := by
  constructor
  · intro h
    by_contra hn
    obtain ⟨c, rest, hcons, hc⟩ := base36Onto_eq_cons n [] hn
    rw [toList_base36 hn, hcons] at h
    exact hc (Option.some.inj h)
  · rintro rfl
    rfl

end Text

/-! ### Ids -/

lemma toDigits_injective {m n : Nat} (h : Nat.toDigits 10 m = Nat.toDigits 10 n) : m = n := by
  rw [← Nat.ofDigitChars_ten_toDigits (n := m), h, Nat.ofDigitChars_ten_toDigits]

lemma toList_stampedId (kind : String) (millis count : Nat) :
    (stampedId kind millis count).toList =
      (kind.toList ++ '_' :: (Text.base36 millis).toList) ++ '_' :: Nat.toDigits 10 count := by
  have h : (toString "_").toList = ['_'] := rfl
  simp [stampedId, String.toList_append, h]

/-- The digits at the end of an id are those of the number of its request. -/
lemma digits_of_stampedId (kind : String) (millis count : Nat) :
    ((stampedId kind millis count).toList.reverse.takeWhile (· != '_')).reverse =
      Nat.toDigits 10 count := by
  have hdigits : ∀ c ∈ (Nat.toDigits 10 count).reverse, (c != '_') = true := by
    intro c hc
    have hne : c ≠ '_' := fun h => Nat.underscore_not_in_toDigits (h ▸ List.mem_reverse.1 hc)
    simpa using hne
  rw [toList_stampedId, List.reverse_append, List.reverse_cons, List.append_assoc,
    List.takeWhile_append_of_pos hdigits]
  simp

/-- The number of the request can be read off an id. -/
theorem count_eq_of_stampedId_eq {kind kind' : String} {millis millis' count count' : Nat}
    (h : stampedId kind millis count = stampedId kind' millis' count') : count = count' := by
  apply toDigits_injective
  rw [← digits_of_stampedId kind millis count, h, digits_of_stampedId]

namespace IdSource

/-- Ids of different requests differ, whatever kinds they are for. -/
def Injective (source : IdSource) : Prop :=
  ∀ count count' kind kind', source count kind = source count' kind' → count = count'

/-- A clock may stand still or go back. -/
theorem clocked_injective (millis : Nat → Nat) : (clocked millis).Injective :=
  fun _ _ _ _ h => count_eq_of_stampedId_eq h

/-- The ids for a list of kinds, asked for one after another. -/
def idsFor (source : IdSource) (issued : Nat) : List String → List String
  | [] => []
  | kind :: kinds => source (issued + 1) kind :: idsFor source (issued + 1) kinds

lemma idsFor_append (source : IdSource) (issued : Nat) (ks ls : List String) :
    source.idsFor issued (ks ++ ls) =
      source.idsFor issued ks ++ source.idsFor (issued + ks.length) ls := by
  induction ks generalizing issued with
  | nil => rfl
  | cons k ks ih => simp [idsFor, ih, Nat.add_assoc, Nat.add_comm 1]

lemma mem_idsFor {source : IdSource} {issued : Nat} {kinds : List String} {id : String}
    (h : id ∈ source.idsFor issued kinds) :
    ∃ count kind, issued < count ∧ count ≤ issued + kinds.length ∧ id = source count kind := by
  induction kinds generalizing issued with
  | nil => simp [idsFor] at h
  | cons k ks ih =>
    rcases List.mem_cons.1 h with rfl | h
    · exact ⟨issued + 1, k, by omega, by simp, rfl⟩
    · obtain ⟨count, kind, hlt, hle, rfl⟩ := ih h
      refine ⟨count, kind, by omega, ?_, rfl⟩
      simp only [List.length_cons]
      omega

theorem idsFor_nodup {source : IdSource} (hs : source.Injective) (issued : Nat)
    (kinds : List String) : (source.idsFor issued kinds).Nodup := by
  induction kinds generalizing issued with
  | nil => simp [idsFor]
  | cons k ks ih =>
    refine List.nodup_cons.2 ⟨fun hmem => ?_, ih (issued + 1)⟩
    obtain ⟨count, kind, hlt, -, heq⟩ := mem_idsFor hmem
    have := hs _ _ _ _ heq
    omega

/-- Ids that are asked for one after another differ, whatever kinds they are for and whatever the
clock says at each request. The time in an id is a number of base thirty-six: it has the digits of
that base only, starts with a zero only if it is zero, and is read again as the same number. -/
theorem clocked_ids_distinct_and_read :
    (∀ (millis : Nat → Nat) (issued : Nat) (kinds : List String),
      ((clocked millis).idsFor issued kinds).Nodup) ∧
    ∀ n, (∀ c ∈ (Text.base36 n).toList, c ∈ Text.base36Digits) ∧
      ((Text.base36 n).toList.head? = some '0' ↔ n = 0) ∧ Text.ofBase36 (Text.base36 n) = n :=
  ⟨fun millis issued kinds => idsFor_nodup (clocked_injective millis) issued kinds, fun n =>
    ⟨fun _ hc => Text.mem_digits_of_mem_base36 hc, Text.head?_base36_eq_zero n,
      Text.ofBase36_base36 n⟩⟩

/-- While the clock stands still, for kinds that look like parts of ids. -/
theorem clocked_ids_distinct_and_read_standing :
    (clocked fun _ => 37).idsFor 0 ["a_11_1", "a", "a_11"] =
      ["a_11_1_11_1", "a_11_2", "a_11_11_3"] ∧
    ((clocked fun _ => 37).idsFor 0 ["a_11_1", "a", "a_11"]).Nodup ∧
    Text.base36 37 = "11" ∧ '1' ∈ Text.base36Digits ∧ Text.ofBase36 (Text.base36 37) = 37 := by
  obtain ⟨hdistinct, hread⟩ := clocked_ids_distinct_and_read
  obtain ⟨hdigits, -, hvalue⟩ := hread 37
  have htext : Text.base36 37 = "11" := by
    have honto : Text.base36Onto 37 [] = ['1', '1'] := by
      simp [Text.base36Onto, Text.base36Digit]
    rw [Text.base36, if_neg (by decide), honto]
  refine ⟨?_, hdistinct _ _ _, htext, hdigits '1' (by rw [htext]; decide), hvalue⟩
  simp only [idsFor, clocked, stampedId, htext]
  rfl

end IdSource

namespace Node

/-- The kinds of the nodes of a tree, in the order in which a copy asks for ids. -/
def idKinds (n : Node) : List String := n.elements.map Element.idKind

mutual

/-- A copy has the ids of one request for each node, and changes nothing else. -/
theorem withFreshIds_spec (source : IdSource) (issued : Nat) : (n : Node) →
    (n.withFreshIds source issued).1.ids = source.idsFor issued n.idKinds ∧
      (n.withFreshIds source issued).2 = issued + n.idKinds.length
  | leaf e => ⟨rfl, rfl⟩
  | branch e cs => by
    obtain ⟨hids, hcount⟩ := withFreshIdsOf_spec source (issued + 1) cs
    constructor
    · simp [withFreshIds, idKinds, IdSource.idsFor, hids]
    · simp [withFreshIds, idKinds, hcount, Nat.add_assoc, Nat.add_comm 1]

theorem withFreshIdsOf_spec (source : IdSource) (issued : Nat) : (cs : List Node) →
    (withFreshIdsOf source issued cs).1.flatMap ids =
        source.idsFor issued ((cs.flatMap elements).map Element.idKind) ∧
      (withFreshIdsOf source issued cs).2 = issued + (cs.flatMap elements).length
  | [] => ⟨rfl, rfl⟩
  | c :: cs => by
    obtain ⟨hids, hcount⟩ := withFreshIds_spec source issued c
    rw [idKinds, List.length_map] at hcount
    obtain ⟨hids', hcount'⟩ := withFreshIdsOf_spec source (issued + c.elements.length) cs
    constructor
    · simp only [withFreshIdsOf, List.flatMap_cons, hids, hcount, hids', idKinds, List.map_append,
        IdSource.idsFor_append, List.length_map]
    · simp only [withFreshIdsOf, hcount, hcount', List.flatMap_cons, List.length_append,
        Nat.add_assoc]

end

/-- A tree with its ids left out. -/
def withoutIds (n : Node) : Node := n.mapElements fun e => { e with id := "" }

mutual

/-- A copy is what it is a copy of in everything but its ids. -/
theorem withoutIds_withFreshIds (source : IdSource) (issued : Nat) : (n : Node) →
    (n.withFreshIds source issued).1.withoutIds = n.withoutIds
  | leaf e => rfl
  | branch e cs => by
    have hchildren := mapElementsOf_withFreshIdsOf source (issued + 1) cs
    rw [withFreshIds, withoutIds, mapElements, hchildren]
    rfl

lemma mapElementsOf_withFreshIdsOf (source : IdSource) (issued : Nat) : (cs : List Node) →
    mapElementsOf (fun e => { e with id := "" }) (withFreshIdsOf source issued cs).1 =
      mapElementsOf (fun e => { e with id := "" }) cs
  | [] => rfl
  | c :: cs => by
    have hfirst := withoutIds_withFreshIds source issued c
    have hrest := mapElementsOf_withFreshIdsOf source (c.withFreshIds source issued).2 cs
    rw [withoutIds, withoutIds] at hfirst
    rw [withFreshIdsOf, mapElementsOf, mapElementsOf, hfirst, hrest]

end

end Node
end Screenwright
