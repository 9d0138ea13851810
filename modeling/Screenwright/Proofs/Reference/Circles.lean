import Screenwright.Proofs.Reference.Replacement

/-! Which references are marked as circular where no definition has references. Definitions then
have no cycles, and still a reference is marked when it is content for a slot of a reference, near
or far, to the same definition. -/
namespace Screenwright
namespace Node
variable {registry : Registry} {tree : Node} {outer : List Node}

/-- The nodes that a tree is given with, each with the references for whose slots it is content,
the innermost first. -/
inductive IsGiven (tree : Node) : List Node → Node → Prop
  | inTree {m : Node} (h : m ∈ tree.nodes) : IsGiven tree [] m
  | inSlot {outer : List Node} {ref c m : Node} {r : ReferenceProps} {slot : String}
      {ns : List Node} (around : IsGiven tree outer ref) (reference : ref.type = referenceType)
      (props : ReferenceProps.ofFields ref.props = .ok r) (content : (slot, ns) ∈ r.slotContent)
      (root : c ∈ ns) (h : m ∈ c.nodes) : IsGiven tree (ref :: outer) m

/-- An element that a given reference shows of its definition. -/
def IsShown (registry : Registry) (tree : Node) (e' : Element) : Prop :=
  ∃ outer ref r d e, tree.IsGiven outer ref ∧ ref.IsInstanceOf registry r d ∧
    e ∈ d.tree.elements ∧ e.ShownAs r e'

/-- Where the nodes of a resolved tree come from. -/
inductive Origin (registry : Registry) (tree : Node) : Node → Prop
  | given {outer : List Node} {old m : Node} (h : tree.IsGiven outer old)
      (same : m.head = old.head) : Origin registry tree m
  | shown {m : Node} (h : IsShown registry tree m.head) : Origin registry tree m
  | stopped {outer : List Node} {ref : Node} {o : Obstacle} (h : tree.IsGiven outer ref)
      (target : referenceTarget? ref.props ≠ none)
      (cause : o = .circular →
        ∃ around ∈ outer, referenceTarget? around.props = referenceTarget? ref.props) :
      Origin registry tree (ref.marked o)

/-- What a node is before it is resolved: given within references, or shown from a definition. -/
def IsOpen (registry : Registry) (tree : Node) (outer : List Node) (m : Node) : Prop :=
  tree.IsGiven outer m ∨ m.type ≠ referenceType ∧ IsShown registry tree m.head

/-- What is not replaced keeps its origin. -/
lemma IsOpen.origin {old m : Node} (h : IsOpen registry tree outer old)
    (hsame : m.head = old.head) : Origin registry tree m := by
  rcases h with h | ⟨-, h⟩
  · exact .given h hsame
  · exact .shown (hsame ▸ h)

/-- Without references in a definition, its expansion has none but those that it is given. -/
lemma isOpen_of_expansion? {ref next m : Node} {r : ReferenceProps} {d : ComponentDef}
    (hdef : ∀ m ∈ d.tree.nodes, m.type ≠ referenceType) (href : tree.IsGiven outer ref)
    (hinst : ref.IsInstanceOf registry r d) (hnext : ref.expansion? d = some next)
    (hm : m ∈ next.nodes) : IsOpen registry tree (ref :: outer) m := by
  obtain ⟨e, he, hshows⟩ | ⟨slot, ns, c, hns, hc, hm⟩ :=
    mem_nodes_of_expansion? hnext hinst.props hm
  · obtain ⟨old, hold, rfl⟩ := List.mem_map.1 he
    refine .inr ⟨?_, outer, ref, r, d, old.head, href, hinst, he, hshows⟩
    rw [type, hshows.1]
    exact hdef old hold
  · exact .inl (.inSlot href hinst.reference hinst.props hns hc hm)

/-- Every node of a resolved tree is given, or shown from a definition, or it is a given reference
that is marked, as circular only within a reference to the same definition. -/
theorem origin_of_mem_resolveWithin
    (hdefs : ∀ id d, registry.get? id = some d → ∀ m ∈ d.tree.nodes, m.type ≠ referenceType)
    (hnest : ∀ outer ref, tree.IsGiven outer ref → ref.type = referenceType →
      outer.length < maxExpansionDepth)
    {depth : Nat} {active : List String} {n m : Node}
    (hdepth : depth + outer.length = maxExpansionDepth)
    (hactive : ∀ id ∈ active, ∃ around ∈ outer, referenceTarget? around.props = some id)
    (hopen : ∀ k ∈ n.nodes, IsOpen registry tree outer k)
    (hm : m ∈ (resolveWithin registry depth active n).nodes) : Origin registry tree m := by
  -- on the depth: an expansion is resolved with one level less and one more reference around it
  induction depth using Nat.strongRecOn generalizing active outer n with
  | ind depth ih =>
    rw [resolveWithin_eq] at hm
    obtain ⟨old, hold, -, hsame⟩ | ⟨ref, href, htype, hm⟩ := mem_nodes_mapReferences hm
    · exact (hopen old hold).origin hsame
    have hgiven : tree.IsGiven outer ref := (hopen ref href).resolve_right fun h => h.1 htype
    have hbelow : ∀ k ∈ ref.nodes, Origin registry tree k := fun k hk =>
      (hopen k (nodes_trans href hk)).origin rfl
    have hreplaced : Replaced registry active (nextWithin registry depth) ref _ :=
      replaced _ htype
    generalize replacement registry active (nextWithin registry depth) ref = t at hm hreplaced
    cases hreplaced with
    | untargeted => exact hbelow m hm
    | missing id target definition =>
      rcases eq_or_mem_nodes_of_marked hm with rfl | hm
      · exact .stopped hgiven (by simp [target]) nofun
      · exact hbelow m hm
    | invalid id d target definition malformed =>
      rcases eq_or_mem_nodes_of_marked hm with rfl | hm
      · exact .stopped hgiven (by simp [target]) nofun
      · exact hbelow m hm
    | circular id target stopped =>
      rcases eq_or_mem_nodes_of_marked hm with rfl | hm
      · refine .stopped hgiven (by simp [target]) fun _ => ?_
        rcases stopped with hid | hnone
        · rw [target]
          exact hactive id hid
        · -- so many expansions are never inside one another
          have := hnest outer ref hgiven htype
          have := nextWithin_eq_none hnone
          omega
      · exact hbelow m hm
    | expanded r d resolveNext next target hinst further hnext =>
      obtain ⟨rest, rfl, rfl⟩ := nextWithin_eq_some further
      have haround : ∀ id ∈ r.ref :: active,
          ∃ around ∈ ref :: outer, referenceTarget? around.props = some id := by
        intro id hid
        rcases List.mem_cons.1 hid with rfl | hid
        · exact ⟨ref, List.mem_cons_self, target⟩
        · obtain ⟨around, haround, hid⟩ := hactive id hid
          exact ⟨around, List.mem_cons_of_mem _ haround, hid⟩
      have hnextOpen : ∀ k ∈ next.nodes, IsOpen registry tree (ref :: outer) k := fun k hk =>
        isOpen_of_expansion? (hdefs _ _ hinst.definition) hgiven hinst hnext hk
      refine ih rest (Nat.lt_succ_self rest) ?_ haround hnextOpen hm
      rw [List.length_cons]
      omega

/-- Where no definition has references, a node of a resolved tree that is marked as circular was
given with the mark or shows an element with it, or else it is a reference within another reference
to the same definition. -/
theorem resolve_circular (registry : Registry) (tree : Node)
    (hdefs : ∀ id d, registry.get? id = some d → ∀ m ∈ d.tree.nodes, m.type ≠ referenceType)
    (hnest : ∀ outer ref, tree.IsGiven outer ref → ref.type = referenceType →
      outer.length < maxExpansionDepth)
    {m : Node} (hm : m ∈ (tree.resolve registry).nodes) (hmark : m.HasMark .circular) :
    (∃ outer old, tree.IsGiven outer old ∧ old.HasMark .circular ∧ m.head = old.head) ∨
      (∃ outer ref r d e, tree.IsGiven outer ref ∧ ref.IsInstanceOf registry r d ∧
        e ∈ d.tree.elements ∧ m.type = e.type ∧
          (Fields.get? e.props "unresolved" = some (.str Obstacle.circular.name) ∨
            r.Sets "unresolved" (.str Obstacle.circular.name))) ∨
      ∃ outer ref around, tree.IsGiven outer ref ∧ m = ref.marked .circular ∧ around ∈ outer ∧
        referenceTarget? ref.props ≠ none ∧
        referenceTarget? around.props = referenceTarget? ref.props := by
  have horigin : Origin registry tree m :=
    origin_of_mem_resolveWithin hdefs hnest (Nat.add_zero _) (by simp)
      (fun k hk => .inl (.inTree hk)) hm
  cases horigin with
  | @given outer old _ h same =>
    refine .inl ⟨outer, old, h, ?_, same⟩
    rwa [HasMark, props, same] at hmark
  | shown h =>
    obtain ⟨outer, ref, r, d, e, hgiven, hinst, he, htype, hprops⟩ := h
    exact .inr (.inl ⟨outer, ref, r, d, e, hgiven, hinst, he, htype, hprops _ _ hmark⟩)
  | @stopped outer ref o h target cause =>
    have ho : o = .circular := hasMark_unique (hasMark_marked ref o) hmark
    obtain ⟨around, haround, hsame⟩ := cause ho
    exact .inr (.inr ⟨outer, ref, around, h, by rw [ho], haround, target, hsame⟩)

def cardRegistry : Registry :=
  [("card", ⟨"card", "Card",
    leaf { id := "card_root", type := "Card", props := [("slot", .str "content")] }, none⟩)]

def innerCard : Node :=
  leaf { id := "inner", type := referenceType, props := [("ref", .str "card")] }

/-- A card with a card in its slot. -/
def outerCard : Node :=
  leaf
    { id := "outer", type := referenceType,
      props := [("ref", .str "card"),
        ("slotContent", .obj [("content", .arr [innerCard.toJson])])] }

lemma ofFields_outerCard : ReferenceProps.ofFields outerCard.props =
    .ok ⟨"card", [], [], [], [("content", [innerCard])], none⟩ := rfl

lemma ofFields_innerCard : ReferenceProps.ofFields innerCard.props =
    .ok ⟨"card", [], [], [], [], none⟩ := rfl

lemma isGiven_outerCard {m : Node} (h : outerCard.IsGiven outer m) :
    outer = [] ∧ m = outerCard ∨ outer = [outerCard] ∧ m = innerCard := by
  induction h with
  | inTree h => exact .inl ⟨rfl, by simpa [outerCard, nodes_leaf] using h⟩
  | inSlot around reference props content root h ih =>
    rcases ih with ⟨rfl, rfl⟩ | ⟨rfl, rfl⟩
    · cases ofFields_outerCard.symm.trans props
      obtain ⟨-, rfl⟩ : _ ∧ _ = [innerCard] := by simpa using content
      obtain rfl := List.mem_singleton.1 root
      exact .inr ⟨rfl, by simpa [innerCard, nodes_leaf] using h⟩
    · cases ofFields_innerCard.symm.trans props
      simp at content

/-- The inner one of two cards is marked, without a cycle of definitions. -/
theorem resolve_circular_card :
    innerCard.marked .circular ∈ (outerCard.resolve cardRegistry).nodes ∧
      ∃ outer ref around, outerCard.IsGiven outer ref ∧
        innerCard.marked .circular = ref.marked .circular ∧ around ∈ outer ∧
        referenceTarget? ref.props ≠ none ∧
        referenceTarget? around.props = referenceTarget? ref.props := by
  have hdefs : ∀ id d, cardRegistry.get? id = some d →
      ∀ m ∈ d.tree.nodes, m.type ≠ referenceType := by
    intro id d hd m hm
    obtain ⟨-, rfl⟩ : _ ∧ _ = d := by simpa [cardRegistry] using hd
    obtain rfl := List.mem_singleton.1 hm
    decide
  have hnest : ∀ outer ref, outerCard.IsGiven outer ref → ref.type = referenceType →
      outer.length < maxExpansionDepth := by
    intro outer ref href _
    rcases isGiven_outerCard href with ⟨rfl, -⟩ | ⟨rfl, -⟩ <;> decide
  have hmem : innerCard.marked .circular ∈ (outerCard.resolve cardRegistry).nodes :=
    .tail _ (.head _)
  refine ⟨hmem, ?_⟩
  obtain ⟨_, old, hold, hmark, -⟩ | ⟨_, _, _, d, e, -, hinst, he, htype, -⟩ | hcircle :=
    resolve_circular cardRegistry outerCard hdefs hnest hmem (hasMark_marked _ _)
  · rcases isGiven_outerCard hold with ⟨-, rfl⟩ | ⟨-, rfl⟩ <;> cases hmark
  · obtain ⟨n, hn, rfl⟩ := List.mem_map.1 he
    exact absurd htype.symm (hdefs _ _ hinst.definition n hn)
  · exact hcircle

end Node
end Screenwright
