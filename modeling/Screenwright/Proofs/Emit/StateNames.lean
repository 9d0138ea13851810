import Screenwright.Emit.Analysis
import Screenwright.Proofs.Document.Trail
import Screenwright.Proofs.Emit.ComponentNames
import Screenwright.Proofs.Text.Squeezing
import Screenwright.Proofs.Text.Tidying

/-! Names of state variables. They are made from ids and states by leaving characters out and adding
letters, and it is told when two of them are the same. -/
namespace Screenwright.Emit

lemma nodup_eraseDups {α : Type} [BEq α] [LawfulBEq α] (l : List α) : l.eraseDups.Nodup := by
  induction hn : l.length using Nat.strongRecOn generalizing l with
  | ind n ih =>
    cases l with
    | nil => simp
    | cons a l =>
      rw [List.eraseDups_cons, List.nodup_cons, List.mem_eraseDups]
      refine ⟨by simp, ih _ ?_ _ rfl⟩
      rw [← hn]
      exact Nat.lt_succ_of_le (List.length_filter_le _ l)

/-! ### Equal names -/

section
variable {a b name name' : String}

/-- What the variable of a state has behind its first letters. -/
def stateStem (name : String) : String := String.ofList (capitalize (identifier name).toList)

lemma visibilityVar_inj : visibilityVar a = visibilityVar b ↔ identifier a = identifier b :=
  String.append_left_inj "Visible"

lemma rowsVar_inj : rowsVar a = rowsVar b ↔ identifier a = identifier b :=
  String.append_left_inj "Rows"

lemma stateVar_inj : stateVar name = stateVar name' ↔ stateStem name = stateStem name' :=
  String.append_right_inj "state"

/-- The last letters tell a variable for a node's visibility from one for its rows. -/
lemma visibilityVar_ne_rowsVar : visibilityVar a ≠ rowsVar b := by
  intro h
  have hlast := congrArg (fun s : String => s.toList.getLast?) h
  simp [visibilityVar, rowsVar, String.toList_append] at hlast

/-- A text with letters behind it and a text with other letters before it can only be the same when
each is within the other. -/
lemma append_eq_state_append_iff {x y tail : String}
    (h : ∀ c ∈ tail.toList.head?, c ∉ "state".toList) :
    x ++ tail = "state" ++ y ↔ ∃ z, x = "state" ++ z ∧ y = z ++ tail := by
  constructor
  · intro heq
    have hlists := congrArg String.toList heq
    rw [String.toList_append, String.toList_append, List.append_eq_append_iff] at hlists
    rcases hlists with ⟨rest, hstate, htail⟩ | ⟨rest, hx, hy⟩
    · cases rest with
      | nil =>
        refine ⟨"", ?_, ?_⟩ <;> apply String.toList_inj.1 <;> simp_all
      | cons c rest =>
        refine absurd ?_ (h c (by simp [htail]))
        rw [hstate]
        simp
    · refine ⟨String.ofList rest, ?_, ?_⟩ <;> apply String.toList_inj.1 <;>
        simp [String.toList_append, hx, hy]
  · rintro ⟨z, rfl, rfl⟩
    exact String.append_assoc

lemma visibilityVar_eq_stateVar :
    visibilityVar a = stateVar name ↔
      ∃ x, identifier a = "state" ++ x ∧ stateStem name = x ++ "Visible" := by
  have hapart : ∀ c ∈ "Visible".toList.head?, c ∉ "state".toList := by simp
  exact append_eq_state_append_iff hapart

lemma rowsVar_eq_stateVar :
    rowsVar a = stateVar name ↔
      ∃ x, identifier a = "state" ++ x ∧ stateStem name = x ++ "Rows" := by
  have hapart : ∀ c ∈ "Rows".toList.head?, c ∉ "state".toList := by simp
  exact append_eq_state_append_iff hapart

end

/-! ### The names of a screen -/

namespace ScreenState
variable {s : ScreenState}

def fetchedIds (s : ScreenState) : List String := s.fetches.map DataFetch.nodeId

/-- The names of the state variables of a screen, in the order in which scripts declare them. -/
def declaredNames (s : ScreenState) : List String :=
  s.toggled.map visibilityVar ++ s.values.map stateVar ++ s.fetches.map DataFetch.rows

/-- Ids and states that are not taken for one another in names. -/
structure NamesApart (s : ScreenState) : Prop where
  toggled : ∀ a ∈ s.toggled, ∀ b ∈ s.toggled, identifier a = identifier b → a = b
  values : ∀ m ∈ s.values, ∀ n ∈ s.values, stateStem m = stateStem n → m = n
  fetched : ∀ a ∈ s.fetchedIds, ∀ b ∈ s.fetchedIds, identifier a = identifier b → a = b
  visible : ∀ a ∈ s.toggled, ∀ n ∈ s.values, ∀ x, identifier a = "state" ++ x →
    stateStem n ≠ x ++ "Visible"
  rows : ∀ a ∈ s.fetchedIds, ∀ n ∈ s.values, ∀ x, identifier a = "state" ++ x →
    stateStem n ≠ x ++ "Rows"

/-- No name is declared twice exactly when ids and states are apart. -/
lemma nodup_declaredNames_iff (htoggled : s.toggled.Nodup) (hvalues : s.values.Nodup)
    (hfetched : s.fetchedIds.Nodup) : s.declaredNames.Nodup ↔ s.NamesApart := by
  have hrows : s.fetches.map DataFetch.rows = s.fetchedIds.map rowsVar := by
    rw [fetchedIds, List.map_map]
    rfl
  rw [declaredNames, hrows, List.nodup_append, List.nodup_append,
    List.nodup_map_iff_inj_on htoggled, List.nodup_map_iff_inj_on hvalues,
    List.nodup_map_iff_inj_on hfetched]
  simp only [visibilityVar_inj, stateVar_inj, rowsVar_inj, List.forall_mem_append,
    List.forall_mem_map]
  constructor
  · rintro ⟨⟨htoggled, hvalues, hvisible⟩, hfetched, -, hrows⟩
    refine ⟨htoggled, hvalues, hfetched, fun a ha n hn x hx hstem => ?_,
      fun a ha n hn x hx hstem => ?_⟩
    · exact hvisible a ha n hn (visibilityVar_eq_stateVar.2 ⟨x, hx, hstem⟩)
    · exact hrows n hn a ha (rowsVar_eq_stateVar.2 ⟨x, hx, hstem⟩).symm
  · rintro ⟨htoggled, hvalues, hfetched, hvisible, hrows⟩
    refine ⟨⟨htoggled, hvalues, fun a ha n hn heq => ?_⟩, hfetched,
      fun a _ b _ => visibilityVar_ne_rowsVar, fun n hn a ha heq => ?_⟩
    · obtain ⟨x, hx, hstem⟩ := visibilityVar_eq_stateVar.1 heq
      exact hvisible a ha n hn x hx hstem
    · obtain ⟨x, hx, hstem⟩ := rowsVar_eq_stateVar.1 heq.symm
      exact hrows a ha n hn x hx hstem

/-- Each fetch is that of one node. -/
lemma fetchedIds_sublist (tree : Node) : (ofTree tree).fetchedIds.Sublist tree.ids := by
  have hfetch : ∀ (e : Element) f, fetch? e = some f → f.nodeId = e.id := by
    intro e f h
    simp only [fetch?, Option.bind_eq_bind, Option.bind_eq_some_iff] at h
    obtain ⟨source, -, url, -, h⟩ := h
    split_ifs at h
    rw [← Option.some.inj h]
  rw [Node.ids_eq_map, fetchedIds, ofTree]
  generalize tree.elements = es
  induction es with
  | nil => exact .slnil
  | cons e es ih =>
    cases h : fetch? e with
    | none =>
      rw [List.filterMap_cons_none h]
      exact ih.cons e.id
    | some f =>
      rw [List.filterMap_cons_some h, List.map_cons, hfetch e f h]
      exact ih.cons_cons e.id

/-- Where no id is repeated, the names of a tree are declared once exactly when its ids and states
are apart. -/
lemma nodup_declaredNames_ofTree {tree : Node} (hids : tree.ids.Nodup) :
    (ofTree tree).declaredNames.Nodup ↔ (ofTree tree).NamesApart :=
  nodup_declaredNames_iff (nodup_eraseDups _) (nodup_eraseDups _)
    ((fetchedIds_sublist tree).nodup hids)

end ScreenState

/-! ### Plain names -/

/-- A name that is an identifier as it is: it starts with a small letter and does not end with a
low line. -/
structure IsPlainName (s : String) : Prop where
  chars : ∀ c ∈ s.toList, isIdentifierChar c = true
  first : ∃ c, s.toList.head? = some c ∧ c.isLower = true
  last : s.toList.getLast? ≠ some '_'

namespace IsPlainName
variable {s s' : String}

lemma identifier_eq (h : IsPlainName s) : identifier s = s := by
  obtain ⟨c, hc, hlower⟩ := h.first
  obtain ⟨rest, hrest⟩ := List.head?_eq_some_iff.1 hc
  have hne : c ≠ '_' := by
    rintro rfl
    exact absurd hlower (by decide)
  have hdigit := isDigit_of_isLower hlower
  have hsqueeze : Text.squeeze (!isIdentifierChar ·) '_' s.toList = s.toList :=
    Text.squeeze_eq_self fun d hd => by simp [h.chars d hd]
  have htrim : Text.trimWhile (· == '_') s.toList = s.toList := by
    have hstart : s.toList.dropWhile (· == '_') = s.toList := by
      rw [hrest]
      simp [hne]
    rw [Text.trimWhile, hstart]
    refine Text.dropEndWhile_eq_self fun d hlast => ?_
    have hd : d ≠ '_' := fun heq => h.last (heq ▸ hlast)
    simpa using hd
  rw [identifier, hsqueeze, htrim, hrest]
  dsimp only
  rw [if_neg (by simp [hdigit]), ← hrest, String.ofList_toList]

lemma eq_of_stateStem (h : IsPlainName s) (h' : IsPlainName s')
    (hstem : stateStem s = stateStem s') : s = s' := by
  obtain ⟨c, hc, hlower⟩ := h.first
  obtain ⟨c', hc', hlower'⟩ := h'.first
  obtain ⟨rest, hrest⟩ := List.head?_eq_some_iff.1 hc
  obtain ⟨rest', hrest'⟩ := List.head?_eq_some_iff.1 hc'
  have hlists := String.ofList_injective hstem
  rw [h.identifier_eq, h'.identifier_eq, hrest, hrest', capitalize, capitalize, List.cons.injEq]
    at hlists
  apply String.toList_inj.1
  rw [hrest, hrest', toUpper_inj hlower hlower' hlists.1, hlists.2]

end IsPlainName

/-- Plain ids and states are apart when no id starts like the variable of a state. -/
lemma ScreenState.namesApart_of_plain {s : ScreenState}
    (hids : ∀ id ∈ s.toggled ++ s.fetchedIds, IsPlainName id ∧ ¬ "state".toList <+: id.toList)
    (hvalues : ∀ name ∈ s.values, IsPlainName name) : s.NamesApart := by
  rw [List.forall_mem_append] at hids
  obtain ⟨htoggled, hfetched⟩ := hids
  have hnostate : ∀ {id x : String}, IsPlainName id ∧ ¬ "state".toList <+: id.toList →
      identifier id ≠ "state" ++ x := by
    intro id x h heq
    rw [h.1.identifier_eq] at heq
    exact h.2 ⟨x.toList, by rw [heq, String.toList_append]⟩
  constructor
  case toggled =>
    intro a ha b hb h
    rwa [(htoggled a ha).1.identifier_eq, (htoggled b hb).1.identifier_eq] at h
  case values => exact fun m hm n hn => (hvalues m hm).eq_of_stateStem (hvalues n hn)
  case fetched =>
    intro a ha b hb h
    rwa [(hfetched a ha).1.identifier_eq, (hfetched b hb).1.identifier_eq] at h
  case visible => exact fun a ha n _ x hx => absurd hx (hnostate (htoggled a ha))
  case rows => exact fun a ha n _ x hx => absurd hx (hnostate (hfetched a ha))

end Screenwright.Emit
