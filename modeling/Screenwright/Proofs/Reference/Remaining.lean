import Mathlib.Logic.ExistsUnique
import Screenwright.Proofs.Document.Trail
import Screenwright.Reference.Resolution

/-! The references that resolution leaves: each one says why it stays, and a tree in which only
unknown components are left has nothing more to resolve. -/
namespace Screenwright

namespace Fields
variable {α : Type _}

/-- Setting a key to the value that it has changes nothing. -/
lemma set_eq_self {fs : Fields α} {k : String} {v : α} (h : fs.get? k = some v) :
    fs.set k v = fs := by
  induction fs with
  | nil => simp at h
  | cons e fs ih =>
    obtain ⟨k', v'⟩ := e
    by_cases hk : k' = k
    · have hv : v' = v := by simpa [hk] using h
      simp [set, hk, hv]
    · have hget : get? fs k = some v := by simpa [Ne.symm hk] using h
      simp [set, hk, ih hget]

end Fields

namespace Node

/-- A reference of a tree that lies in no other reference. -/
def IsOutermostReference (n ref : Node) : Prop :=
  ref.type = referenceType ∧
    ∃ t : Trail, n = t.plug ref ∧ ∀ turn ∈ t, turn.head.type ≠ referenceType

lemma isOutermostReference_self {n ref : Node} (hn : n.type = referenceType) :
    n.IsOutermostReference ref ↔ ref = n := by
  constructor
  · rintro ⟨-, t, rfl, ht⟩
    cases t with
    | nil => rfl
    | cons c t => exact absurd hn (ht c List.mem_cons_self)
  · rintro rfl
    exact ⟨hn, [], rfl, by simp⟩

lemma isOutermostReference_leaf {e : Element} {ref : Node} (he : e.type ≠ referenceType) :
    ¬ (leaf e).IsOutermostReference ref := by
  rintro ⟨href, t, heq, -⟩
  cases t with
  | nil =>
    rw [← show leaf e = ref from heq] at href
    exact he href
  | cons c t => cases heq

lemma isOutermostReference_branch {e : Element} {cs : List Node} {ref : Node}
    (he : e.type ≠ referenceType) :
    (branch e cs).IsOutermostReference ref ↔ ∃ c ∈ cs, c.IsOutermostReference ref := by
  constructor
  · rintro ⟨href, t, heq, ht⟩
    cases t with
    | nil =>
      rw [← show branch e cs = ref from heq] at href
      exact absurd href he
    | cons turn t =>
      cases heq
      exact ⟨Trail.plug t ref, by simp, href, t, rfl, fun c hc => ht c (List.mem_cons_of_mem _ hc)⟩
  · rintro ⟨c, hc, href, t, rfl, ht⟩
    obtain ⟨before, after, rfl⟩ := List.append_of_mem hc
    refine ⟨href, ⟨e, before, after⟩ :: t, rfl, fun turn hturn => ?_⟩
    rcases List.mem_cons.1 hturn with rfl | hturn
    · exact he
    · exact ht turn hturn

/-! ### Replacing references -/

lemma mapReferencesOf_eq_map (f : Node → Node) (cs : List Node) :
    mapReferencesOf f cs = cs.map (mapReferences f) := by
  induction cs with
  | nil => rfl
  | cons c cs ih => simp [mapReferencesOf, ih]

lemma mapReferences_of_reference (f : Node → Node) {n : Node} (hn : n.type = referenceType) :
    mapReferences f n = f n := by
  cases n with
  | leaf e => exact if_pos hn
  | branch e cs => exact if_pos hn

lemma mapReferences_leaf (f : Node → Node) {e : Element} (he : e.type ≠ referenceType) :
    mapReferences f (leaf e) = leaf e := if_neg he

lemma mapReferences_branch (f : Node → Node) {e : Element} (cs : List Node)
    (he : e.type ≠ referenceType) :
    mapReferences f (branch e cs) = branch e (cs.map (mapReferences f)) := by
  rw [mapReferences, if_neg he, mapReferencesOf_eq_map]

/-- Induction over the part of a tree that lies outside its references. -/
lemma induction_outside {motive : Node → Prop}
    (reference : ∀ n, n.type = referenceType → motive n)
    (leaf : ∀ e, e.type ≠ referenceType → motive (.leaf e))
    (branch : ∀ e cs, e.type ≠ referenceType → (∀ c ∈ cs, motive c) → motive (.branch e cs))
    (n : Node) : motive n := by
  induction n using Node.induction with
  | leaf e =>
    by_cases he : e.type = referenceType
    · exact reference _ he
    · exact leaf e he
  | branch e cs ih =>
    by_cases he : e.type = referenceType
    · exact reference _ he
    · exact branch e cs he ih

/-- What is outermost after a replacement comes from what replaced an outermost reference. -/
theorem exists_replaced {f : Node → Node} {n ref : Node}
    (h : (mapReferences f n).IsOutermostReference ref) :
    ∃ old, n.IsOutermostReference old ∧ (f old).IsOutermostReference ref := by
  induction n using induction_outside with
  | reference n hn =>
    rw [mapReferences_of_reference f hn] at h
    exact ⟨n, (isOutermostReference_self hn).2 rfl, h⟩
  | leaf e he =>
    rw [mapReferences_leaf f he] at h
    exact absurd h (isOutermostReference_leaf he)
  | branch e cs he ih =>
    rw [mapReferences_branch f cs he, isOutermostReference_branch he] at h
    obtain ⟨c', hc', hout⟩ := h
    obtain ⟨c, hc, rfl⟩ := List.mem_map.1 hc'
    obtain ⟨old, hold, hnew⟩ := ih c hc hout
    exact ⟨old, (isOutermostReference_branch he).2 ⟨c, hc, hold⟩, hnew⟩

/-- A replacement that keeps each outermost reference keeps the tree. -/
theorem mapReferences_eq_self {f : Node → Node} {n : Node}
    (h : ∀ ref, n.IsOutermostReference ref → f ref = ref) : mapReferences f n = n := by
  induction n using induction_outside with
  | reference n hn =>
    rw [mapReferences_of_reference f hn]
    exact h n ((isOutermostReference_self hn).2 rfl)
  | leaf e he => exact mapReferences_leaf f he
  | branch e cs he ih =>
    have hcs : ∀ c ∈ cs, mapReferences f c = c := fun c hc =>
      ih c hc fun ref href => h ref ((isOutermostReference_branch he).2 ⟨c, hc, href⟩)
    rw [mapReferences_branch f cs he, List.map_congr_left hcs, List.map_id']

/-! ### Why a reference stays -/

/-- The mark that a reference carries. -/
def HasMark (ref : Node) (o : Obstacle) : Prop :=
  Fields.get? ref.props "unresolved" = some (.str o.name)

/-- The text of a reference is a key of the registry. -/
def NamesKey (registry : Registry) (ref : Node) : Prop :=
  ∃ id, Fields.get? ref.props "ref" = some (.str id) ∧ registry.has id = true

/-- A reason for which a reference stays, as its props and the registry alone tell it; without a
reason the reference has no usable target. -/
def MarkedFor (registry : Registry) (ref : Node) : Option Obstacle → Prop
  | none => referenceTarget? ref.props = none
  | some .missing => ref.HasMark .missing ∧ ¬ ref.NamesKey registry
  | some .circular => ref.HasMark .circular ∧ ref.NamesKey registry
  | some .invalid => ref.HasMark .invalid ∧ ref.NamesKey registry

/-- A reason for which a reference stays; a mark is one only where there is a usable target. -/
def StaysFor (registry : Registry) (ref : Node) (o : Option Obstacle) : Prop :=
  ref.MarkedFor registry o ∧ (o ≠ none → referenceTarget? ref.props ≠ none)

lemma get?_ref_of_target {ps : Fields Json} {id : String} (h : referenceTarget? ps = some id) :
    Fields.get? ps "ref" = some (.str id) := by
  obtain ⟨v, hv, hid⟩ := Option.bind_eq_some_iff.1 h
  rw [hv]
  cases v <;> simp_all [Json.nonEmptyText?]

/-- For a usable target the text names a key exactly when the target is one. -/
lemma namesKey_iff {registry : Registry} {ref : Node} {id : String}
    (h : referenceTarget? ref.props = some id) :
    ref.NamesKey registry ↔ registry.has id = true := by
  have hget := get?_ref_of_target h
  constructor
  · rintro ⟨id', hget', hkey⟩
    rw [hget] at hget'
    cases hget'
    exact hkey
  · intro hkey
    exact ⟨id, hget, hkey⟩

lemma props_marked (ref : Node) (o : Obstacle) :
    (ref.marked o).props = Fields.set ref.props "unresolved" (.str o.name) := by
  cases ref <;> rfl

lemma type_marked (ref : Node) (o : Obstacle) : (ref.marked o).type = ref.type := by
  cases ref <;> rfl

lemma hasMark_marked (ref : Node) (o : Obstacle) : (ref.marked o).HasMark o := by
  rw [HasMark, props_marked, Fields.get?_set, if_pos rfl]

/-- A mark leaves the target alone. -/
lemma referenceTarget?_marked (ref : Node) (o : Obstacle) :
    referenceTarget? (ref.marked o).props = referenceTarget? ref.props := by
  rw [props_marked, referenceTarget?, Fields.get?_set, if_neg (by decide), referenceTarget?]

lemma marked_eq_self {ref : Node} {o : Obstacle} (h : ref.HasMark o) : ref.marked o = ref := by
  have hset := Fields.set_eq_self h
  cases ref with
  | leaf e => exact congrArg (fun ps => leaf { e with props := ps }) hset
  | branch e cs => exact congrArg (fun ps => branch { e with props := ps } cs) hset

/-- A reference carries one mark at most. -/
lemma hasMark_unique {ref : Node} {o o' : Obstacle} (h : ref.HasMark o) (h' : ref.HasMark o') :
    o = o' := by
  have hname : o.name = o'.name := by
    simpa using h.symm.trans h'
  cases o <;> cases o' <;> first | rfl | exact absurd hname (by decide)

lemma MarkedFor.hasMark {registry : Registry} {ref : Node} {o : Obstacle}
    (h : ref.MarkedFor registry (some o)) : ref.HasMark o := by
  cases o <;> exact h.1

/-- A reference stays for one reason at most. -/
lemma staysFor_unique {registry : Registry} {ref : Node} {o o' : Option Obstacle}
    (h : ref.StaysFor registry o) (h' : ref.StaysFor registry o') : o = o' := by
  cases o with
  | none =>
    cases o' with
    | none => rfl
    | some o' => exact absurd h.1 (h'.2 (by simp))
  | some o =>
    cases o' with
    | none => exact absurd h'.1 (h.2 (by simp))
    | some o' => rw [hasMark_unique h.1.hasMark h'.1.hasMark]

/-- A reference with a usable target stays once it is marked, for the reason in its mark. -/
lemma staysFor_marked {registry : Registry} {ref : Node} {id : String} {o : Obstacle}
    (hid : referenceTarget? ref.props = some id) (ho : o = .missing ↔ registry.has id = false) :
    (ref.marked o).StaysFor registry (some o) := by
  have hid' : referenceTarget? (ref.marked o).props = some id := by
    rw [referenceTarget?_marked, hid]
  have hmark := hasMark_marked ref o
  refine ⟨?_, fun _ => by simp [hid']⟩
  cases o with
  | missing => exact ⟨hmark, by simp [namesKey_iff hid', ho.1 rfl]⟩
  | circular => exact ⟨hmark, by simpa [namesKey_iff hid'] using ho⟩
  | invalid => exact ⟨hmark, by simpa [namesKey_iff hid'] using ho⟩

/-- What replaces a reference is the reference, which stays for a reason, or a resolved
expansion. -/
lemma replacement_cases (registry : Registry) (active : List String)
    (next : Option (List String → Node → Node)) (ref : Node) (href : ref.type = referenceType) :
    (∃ o, (replacement registry active next ref).type = referenceType ∧
      (replacement registry active next ref).StaysFor registry o) ∨
    ∃ resolveNext id tree, next = some resolveNext ∧
      replacement registry active next ref = resolveNext (id :: active) tree := by
  cases hid : referenceTarget? ref.props with
  | none => exact .inl ⟨none, by simpa only [replacement, hid] using ⟨href, hid, by simp⟩⟩
  | some id =>
    have hstays : ∀ o, (o = .missing ↔ registry.has id = false) →
        (ref.marked o).type = referenceType ∧ (ref.marked o).StaysFor registry (some o) :=
      fun o ho => ⟨by rw [type_marked, href], staysFor_marked hid ho⟩
    cases hd : registry.get? id with
    | none =>
      simp only [replacement, hid, hd]
      exact .inl ⟨_, hstays .missing (by simp [Fields.has, hd])⟩
    | some d =>
      have hhas : registry.has id = true := by simp [Fields.has, hd]
      simp only [replacement, hid, hd]
      split
      · exact .inl ⟨_, hstays .circular (by simp [hhas])⟩
      · cases next with
        | none => exact .inl ⟨_, hstays .circular (by simp [hhas])⟩
        | some resolveNext =>
          cases ref.expansion? d with
          | none => exact .inl ⟨_, hstays .invalid (by simp [hhas])⟩
          | some tree => exact .inr ⟨resolveNext, id, tree, rfl, rfl⟩

/-- At every depth of expansion, what resolution leaves stays for a reason. -/
theorem resolveWithin_staysFor (registry : Registry) (depth : Nat) (active : List String)
    (n ref : Node) (h : (resolveWithin registry depth active n).IsOutermostReference ref) :
    ∃ o, ref.StaysFor registry o := by
  -- on the depth: what replaces a reference may be any tree, resolved with one level less
  induction depth generalizing active n with
  | zero =>
    obtain ⟨old, hold, hnew⟩ := exists_replaced h
    obtain ⟨o, htype, hstays⟩ | ⟨_, _, _, hnext, -⟩ :=
      replacement_cases registry active none old hold.1
    · rw [isOutermostReference_self htype] at hnew
      exact ⟨o, hnew ▸ hstays⟩
    · cases hnext
  | succ depth ih =>
    obtain ⟨old, hold, hnew⟩ := exists_replaced h
    obtain ⟨o, htype, hstays⟩ | ⟨resolveNext, id, tree, hnext, hexp⟩ :=
      replacement_cases registry active (some (resolveWithin registry depth)) old hold.1
    · rw [isOutermostReference_self htype] at hnew
      exact ⟨o, hnew ▸ hstays⟩
    · cases hnext
      rw [hexp] at hnew
      exact ih _ _ hnew

/-- Resolution keeps a reference that stays because it has no usable target or a missing one. -/
lemma replacement_eq_self {registry : Registry} {active : List String}
    {next : Option (List String → Node → Node)} {ref : Node} {o : Option Obstacle}
    (h : ref.StaysFor registry o) (hcircular : o ≠ some .circular) (hinvalid : o ≠ some .invalid) :
    replacement registry active next ref = ref := by
  cases hid : referenceTarget? ref.props with
  | none => simp only [replacement, hid]
  | some id =>
    obtain rfl : o = some .missing := by
      cases o with
      | none => exact absurd h.1 (by simp [MarkedFor, hid])
      | some o => cases o <;> simp_all
    have hnot : registry.has id = false := by
      simpa [namesKey_iff hid] using h.1.2
    have hget : registry.get? id = none := by
      simpa [Fields.has] using hnot
    simp only [replacement, hid, hget]
    exact marked_eq_self h.1.hasMark

/-- Each reference that resolution leaves outermost stays for exactly one reason, and where no
reason is a circle or malformed props, there is nothing more to resolve. -/
theorem resolve_settles (registry : Registry) (tree : Node) :
    let resolved := tree.resolve registry
    (∀ ref, resolved.IsOutermostReference ref → ∃! o, ref.StaysFor registry o) ∧
      ((∀ ref, resolved.IsOutermostReference ref →
          ¬ ref.HasMark .circular ∧ ¬ ref.HasMark .invalid) →
        resolved.resolve registry = resolved) := by
  intro resolved
  have hstays : ∀ ref, resolved.IsOutermostReference ref → ∃ o, ref.StaysFor registry o :=
    resolveWithin_staysFor registry maxExpansionDepth [] tree
  refine ⟨fun ref href => ?_, fun hunmarked => mapReferences_eq_self fun ref href => ?_⟩
  · obtain ⟨o, ho⟩ := hstays ref href
    exact ⟨o, ho, fun o' ho' => staysFor_unique ho' ho⟩
  · obtain ⟨o, ho⟩ := hstays ref href
    obtain ⟨hcircular, hinvalid⟩ := hunmarked ref href
    refine replacement_eq_self ho ?_ ?_
    · rintro rfl
      exact hcircular ho.1.hasMark
    · rintro rfl
      exact hinvalid ho.1.hasMark

/-- A reference without a usable target keeps a mark that it came with, so that the marks alone do
not tell one reason. -/
theorem not_existsUnique_markedFor :
    ¬ ∀ (registry : Registry) (tree ref : Node),
      (tree.resolve registry).IsOutermostReference ref → ∃! o, ref.MarkedFor registry o := by
  intro h
  let ref := leaf
    { id := "card", type := referenceType,
      props := [("ref", .str ""), ("unresolved", .str "missing")] }
  have hresolve : ref.resolve [] = ref := rfl
  obtain ⟨o, -, hunique⟩ := h [] ref ref (by
    rw [hresolve]
    exact (isOutermostReference_self rfl).2 rfl)
  have hnone : none = o := hunique none rfl
  have hmissing : some .missing = o := by
    refine hunique _ ⟨rfl, ?_⟩
    rintro ⟨id, -, hkey⟩
    cases hkey
  rw [← hnone] at hmissing
  cases hmissing

end Node
end Screenwright
