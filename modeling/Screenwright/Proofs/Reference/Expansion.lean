import Screenwright.Proofs.Computation
import Screenwright.Proofs.Document.Trail
import Screenwright.Proofs.Record.Merging
import Screenwright.Reference.Expansion

/-! What the expansion of a reference is made of: elements of the definition with fields laid over
them, and the content that the reference gives to slots. -/
namespace Screenwright

/-- The props that overrides by ids give the element of an id. -/
def DescendantOverride.propsFor (overrides : Fields DescendantOverride) (id : String) :
    Fields Json :=
  ((overrides.get? id).bind (·.props)).getD []

namespace ReferenceProps
variable {ps : Fields Json} {r : ReferenceProps}

/-- The props of a reference name its definition. -/
lemma get?_ref_of_ofFields (h : ofFields ps = .ok r) : ps.get? "ref" = some (.str r.ref) := by
  have hkey : Decode.keyOf ps "ref" = "ref" := Decode.keyOf_of_snakeName ps (by decide)
  simp only [ofFields, Decoded.seq_eq_ok, Decoded.map_eq_ok, Decode.required, hkey] at h
  obtain ⟨_, _, ⟨_, _, ⟨_, _, ⟨_, _, ⟨_, _, ⟨ref, href, rfl⟩, -, rfl⟩, -, rfl⟩, -, rfl⟩, -, rfl⟩,
    -, rfl⟩ := h
  cases hv : ps.get? "ref" with
  | none => simp [hv] at href
  | some v => cases v <;> simp_all [Decoded.under_eq_ok, Decode.text, Decoded.fault]

/-- The entries by which a reference sets a prop, at the root or at the node of an id. -/
def Sets (r : ReferenceProps) (k : String) (v : Json) : Prop :=
  (k, v) ∈ r.overrides ∨ ∃ id, (k, v) ∈ DescendantOverride.propsFor r.descendants id

end ReferenceProps

namespace Element
variable {e e' : Element}

/-- Fields laid over an element leave its id and its type. -/
lemma overlay?_eq_some {props style : Fields Json} (h : e.overlay? props style = some e') :
    e'.id = e.id ∧ e'.type = e.type ∧ e'.props = Fields.merge e.props props := by
  obtain ⟨s, -, rfl⟩ := Option.map_eq_some_iff.1 h
  exact ⟨rfl, rfl, rfl⟩

lemma overlayFor?_eq_some {overrides : Fields DescendantOverride}
    (h : e.overlayFor? overrides = some e') :
    e'.id = e.id ∧ e'.type = e.type ∧
      e'.props = Fields.merge e.props (DescendantOverride.propsFor overrides e.id) := by
  unfold overlayFor? at h
  split at h
  · next hnone =>
    cases h
    simp [DescendantOverride.propsFor, hnone]
  · next o ho => simpa [DescendantOverride.propsFor, ho] using overlay?_eq_some h

/-- What fills a slot is content that was given. -/
lemma mem_of_filling? {content : Fields (List Node)} {ns : List Node}
    (h : e.filling? content = some ns) : ∃ slot, (slot, ns) ∈ content := by
  simp only [filling?, Option.bind_eq_bind, Option.bind_eq_some_iff] at h
  obtain ⟨v, -, slot, -, ms, hms, hns⟩ := h
  cases ms with
  | nil => simp at hns
  | cons m ms =>
    cases hns
    exact ⟨slot, Fields.mem_of_get? hms⟩

/-- An element as a reference shows it: of the same type, with the props that the reference sets. -/
def ShownAs (r : ReferenceProps) (e e' : Element) : Prop :=
  e'.type = e.type ∧
    ∀ k v, Fields.get? e'.props k = some v → Fields.get? e.props k = some v ∨ r.Sets k v

lemma ShownAs.trans {r : ReferenceProps} {e₁ e₂ e₃ : Element} (h : ShownAs r e₁ e₂)
    (h' : ShownAs r e₂ e₃) : ShownAs r e₁ e₃ := by
  refine ⟨h'.1.trans h.1, fun k v hk => ?_⟩
  rcases h'.2 k v hk with hk | hsets
  · exact h.2 k v hk
  · exact .inr hsets

lemma shownAs_of_overlay? {r : ReferenceProps} {style : Fields Json}
    (h : e.overlay? r.overrides style = some e') : ShownAs r e e' := by
  obtain ⟨-, htype, hprops⟩ := overlay?_eq_some h
  refine ⟨htype, fun k v hk => ?_⟩
  rw [hprops] at hk
  exact (Fields.mem_or_get?_of_get?_merge hk).symm.imp_right .inl

lemma shownAs_of_overlayFor? {r : ReferenceProps} (h : e.overlayFor? r.descendants = some e') :
    ShownAs r e e' := by
  obtain ⟨-, htype, hprops⟩ := overlayFor?_eq_some h
  refine ⟨htype, fun k v hk => ?_⟩
  rw [hprops] at hk
  exact (Fields.mem_or_get?_of_get?_merge hk).symm.imp_right fun hset => .inr ⟨e.id, hset⟩

end Element

namespace Node
variable {n n' : Node}

/-! ### Elements changed in place -/

lemma mapHead?_eq_some {f : Element → Option Element} (h : n.mapHead? f = some n') :
    f n.head = some n'.head ∧ n'.children = n.children := by
  cases n <;> obtain ⟨e, he, rfl⟩ := Option.map_eq_some_iff.1 h <;> exact ⟨he, rfl⟩

/-- Where every element is changed, each child is changed as a tree of its own. -/
lemma forall₂_of_mapElementsOf? {f : Element → Option Element} {cs cs' : List Node}
    (h : mapElementsOf? f cs = some cs') :
    List.Forall₂ (fun c c' => c.mapElements? f = some c') cs cs' := by
  induction cs generalizing cs' with
  | nil =>
    cases h
    exact .nil
  | cons c cs ih =>
    rw [mapElementsOf?] at h
    split at h
    · next d ds hd hds =>
      cases h
      exact .cons hd (ih hds)
    · cases h

/-- Each element of the changed tree is the change of one, the root that of the root. -/
theorem mapElements?_eq_some {f : Element → Option Element} (h : n.mapElements? f = some n') :
    f n.head = some n'.head ∧ ∀ e' ∈ n'.elements, ∃ e ∈ n.elements, f e = some e' := by
  induction n using Node.induction generalizing n' with
  | leaf e =>
    obtain ⟨e', he', rfl⟩ := Option.map_eq_some_iff.1 h
    simpa using he'
  | branch e cs ih =>
    rw [mapElements?] at h
    split at h
    · next e' cs' he' hcs' =>
      cases h
      refine ⟨he', fun x hx => ?_⟩
      rw [elements_branch, List.mem_cons] at hx
      rcases hx with rfl | hx
      · exact ⟨e, by simp, he'⟩
      · obtain ⟨c', hc', hx⟩ := List.mem_flatMap.1 hx
        obtain ⟨c, hc, hmap⟩ := exists_left_of_forall₂ (forall₂_of_mapElementsOf? hcs') hc'
        obtain ⟨y, hy, hfy⟩ := (ih c hc hmap).2 x hx
        exact ⟨y, elements_subset_of_mem_children (n := branch e cs) hc hy, hfy⟩
    · cases h

/-! ### Slots -/

variable {content : Fields (List Node)}

lemma fillSlotsOf_eq_map (content : Fields (List Node)) (cs : List Node) :
    fillSlotsOf content cs = cs.map (fillSlots content) := by
  induction cs with
  | nil => rfl
  | cons c cs ih => simp [fillSlotsOf, ih]

@[simp] lemma head_fillSlots (content : Fields (List Node)) (n : Node) :
    (n.fillSlots content).head = n.head := by
  cases n <;> rw [fillSlots] <;> split <;> rfl

/-- A node below the root of a tree with filled slots is content, or below it in the tree there is
one with its element. -/
theorem mem_nodes_fillSlots {m : Node} (h : m ∈ (n.fillSlots content).nodes) :
    m.head ∈ n.elements ∨ ∃ slot ns c, (slot, ns) ∈ content ∧ c ∈ ns ∧ m ∈ c.nodes := by
  induction n using Node.induction with
  | leaf e =>
    rw [fillSlots] at h
    split at h
    · next ns hns =>
      obtain ⟨slot, hslot⟩ := Element.mem_of_filling? hns
      rw [nodes_branch, List.mem_cons, List.mem_flatMap] at h
      rcases h with rfl | ⟨c, hc, hm⟩
      · exact .inl (by simp)
      · exact .inr ⟨slot, ns, c, hslot, hc, hm⟩
    · obtain rfl : m = leaf e := by simpa [nodes_leaf] using h
      exact .inl (by simp)
  | branch e cs ih =>
    rw [fillSlots] at h
    split at h
    · next ns hns =>
      obtain ⟨slot, hslot⟩ := Element.mem_of_filling? hns
      rw [nodes_branch, List.mem_cons, List.mem_flatMap] at h
      rcases h with rfl | ⟨c, hc, hm⟩
      · exact .inl (by simp)
      · exact .inr ⟨slot, ns, c, hslot, hc, hm⟩
    · rw [nodes_branch, fillSlotsOf_eq_map, List.mem_cons, List.mem_flatMap] at h
      rcases h with rfl | ⟨c', hc', hm⟩
      · exact .inl (by simp)
      · obtain ⟨c, hc, rfl⟩ := List.mem_map.1 hc'
        refine (ih c hc hm).imp_left fun hhead => ?_
        exact elements_subset_of_mem_children (n := branch e cs) hc hhead

/-! ### The expansion -/

variable {ref t : Node} {d : ComponentDef}

/-- An expansion takes three steps: the root is overlaid, then every element, then slots are
filled. -/
lemma expansion?_eq_some (h : ref.expansion? d = some t) :
    ∃ r rooted overlaid, ReferenceProps.ofFields ref.props = .ok r ∧
      d.tree.mapHead? (Element.overlay? r.overrides r.styleOverrides) = some rooted ∧
      rooted.mapElements? (Element.overlayFor? r.descendants) = some overlaid ∧
      t = (overlaid.fillSlots r.slotContent).setId ref.id := by
  simp only [expansion?, Option.bind_eq_bind, Option.bind_eq_some_iff, Option.pure_def,
    Option.some.injEq] at h
  obtain ⟨r, hr, rooted, hrooted, overlaid, hoverlaid, rfl⟩ := h
  exact ⟨r, rooted, overlaid, Decoded.toOption_eq_some.1 hr, hrooted, hoverlaid, rfl⟩

/-- An expansion takes the id of its reference. -/
lemma id_of_expansion? (h : ref.expansion? d = some t) : t.id = ref.id := by
  obtain ⟨_, _, _, -, -, -, rfl⟩ := expansion?_eq_some h
  rw [Node.id, setId, head_mapHead]

/-- The root of an expansion: the type of the definition's root, and its props with those of the
overrides over them. -/
theorem head_of_expansion? {r : ReferenceProps} (h : ref.expansion? d = some t)
    (hr : ReferenceProps.ofFields ref.props = .ok r) :
    t.type = d.tree.type ∧ t.props = Fields.merge (Fields.merge d.tree.props r.overrides)
      (DescendantOverride.propsFor r.descendants d.tree.id) := by
  obtain ⟨r', rooted, overlaid, hr', hrooted, hoverlaid, rfl⟩ := expansion?_eq_some h
  cases hr.symm.trans hr'
  obtain ⟨hid, htype, hprops⟩ := Element.overlay?_eq_some (mapHead?_eq_some hrooted).1
  obtain ⟨-, htype', hprops'⟩ := Element.overlayFor?_eq_some (mapElements?_eq_some hoverlaid).1
  have hhead : ((overlaid.fillSlots r.slotContent).setId ref.id).head =
      { overlaid.head with id := ref.id } := by simp [setId]
  rw [type, props, hhead]
  exact ⟨htype'.trans htype, by rw [hprops', hprops, hid]⟩

/-- Every node of an expansion shows an element of the definition, or is content for a slot. -/
theorem mem_nodes_of_expansion? {r : ReferenceProps} {m : Node} (h : ref.expansion? d = some t)
    (hr : ReferenceProps.ofFields ref.props = .ok r) (hm : m ∈ t.nodes) :
    (∃ e ∈ d.tree.elements, e.ShownAs r m.head) ∨
      ∃ slot ns c, (slot, ns) ∈ r.slotContent ∧ c ∈ ns ∧ m ∈ c.nodes := by
  obtain ⟨r', rooted, overlaid, hr', hrooted, hoverlaid, rfl⟩ := expansion?_eq_some h
  cases hr.symm.trans hr'
  obtain ⟨hhead, hchildren⟩ := mapHead?_eq_some hrooted
  -- an element of the overlaid tree shows one of the definition
  have hshown : ∀ e' ∈ overlaid.elements, ∃ e ∈ d.tree.elements, e.ShownAs r e' := by
    intro e' he'
    obtain ⟨e, he, hover⟩ := (mapElements?_eq_some hoverlaid).2 e' he'
    rw [elements_eq_cons, hchildren, List.mem_cons] at he
    rcases he with rfl | he
    · exact ⟨d.tree.head, by rw [elements_eq_cons]; exact List.mem_cons_self,
        (Element.shownAs_of_overlay? hhead).trans (Element.shownAs_of_overlayFor? hover)⟩
    · refine ⟨e, ?_, Element.shownAs_of_overlayFor? hover⟩
      rw [elements_eq_cons]
      exact List.mem_cons_of_mem _ he
  have hfilled : ∀ x ∈ (overlaid.fillSlots r.slotContent).nodes,
      (∃ e ∈ d.tree.elements, e.ShownAs r x.head) ∨
        ∃ slot ns c, (slot, ns) ∈ r.slotContent ∧ c ∈ ns ∧ x ∈ c.nodes :=
    fun x hx => (mem_nodes_fillSlots hx).imp_left (hshown x.head)
  rw [nodes_eq_cons, setId, children_mapHead, List.mem_cons] at hm
  rcases hm with rfl | hm
  · -- the new id of the root leaves its type and its props
    left
    obtain ⟨e, he, hes⟩ := hshown overlaid.head (by rw [elements_eq_cons]; exact List.mem_cons_self)
    exact ⟨e, he, by simpa [Element.ShownAs] using hes⟩
  · refine hfilled m ?_
    rw [nodes_eq_cons]
    exact List.mem_cons_of_mem _ hm

end Node
end Screenwright
