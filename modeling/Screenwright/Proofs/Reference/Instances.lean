import Screenwright.Proofs.Document.Trail
import Screenwright.Proofs.Reference.Expansion
import Screenwright.Proofs.Reference.Overlays

/-! What one reference shows of its definition, position by position: every node outside filled
slots is there, under the overrides for its position and for its id. -/
namespace Screenwright

/-- The style fields that overrides by ids give the element of an id. -/
def DescendantOverride.styleFor (overrides : Fields DescendantOverride) (id : String) :
    Fields Json :=
  ((overrides.get? id).bind (·.style)).getD []

namespace ReferenceProps
variable (r : ReferenceProps) (path : List Nat)

/-- The props laid over the node at a position of the definition because it is there: only the root
has some. -/
def overridesAt : Fields Json := if path = [] then r.overrides else []

/-- The style fields laid over the node at a position: only the root has some. -/
def styleOverridesAt : Fields Json := if path = [] then r.styleOverrides else []

/-- The props that a node at a position of the definition has in the instance. -/
def propsAt (n : Node) : Fields Json :=
  Fields.merge (Fields.merge n.props (r.overridesAt path))
    (DescendantOverride.propsFor r.descendants n.id)

/-- The node at a position becomes a slot that the reference has content for. -/
def Fills (n : Node) (content : List Node) : Prop :=
  content ≠ [] ∧ ∃ slot, Fields.get? (r.propsAt path n) "slot" = some (.str slot) ∧
    r.slotContent.get? slot = some content

/-- No node above a position of the definition is a slot that is filled. -/
abbrev Keeps (tree : Node) : Prop :=
  tree.HoldsAbove (fun above n => ∀ content, ¬ r.Fills above n content) path

/-- The node `m` of an instance shows the node `n` that stands at a position of the definition. -/
structure Shows (n m : Node) : Prop where
  type : m.type = n.type
  responsive : m.head.responsive = n.head.responsive
  interactions : m.head.interactions = n.head.interactions
  dataSource : m.head.dataSource = n.head.dataSource
  props : m.props = r.propsAt path n
  plain : r.styleOverridesAt path = [] → DescendantOverride.styleFor r.descendants n.id = [] →
    m.head.style = n.head.style
  styled : r.styleOverridesAt path ≠ [] ∨ DescendantOverride.styleFor r.descendants n.id ≠ [] →
    m.head.style.isSome = true
  style : ∀ p, ∃ v w, NodeStyle.said (r.styleOverridesAt path) p = .ok v ∧
    NodeStyle.said (DescendantOverride.styleFor r.descendants n.id) p = .ok w ∧
    NodeStyle.valueIn m.head.style p = (w <|> v).getD (NodeStyle.valueIn n.head.style p)
  filled : ∀ content, r.Fills path n content → m.children? = some content
  unfilled : (∀ content, ¬ r.Fills path n content) → m.arity? = n.arity?

end ReferenceProps

namespace Element
variable {e e' : Element} {content : Fields (List Node)} {ns : List Node}

/-- The overrides for an id are laid over an element like any others. -/
lemma overlayFor?_eq (overrides : Fields DescendantOverride) (e : Element) :
    e.overlayFor? overrides = e.overlay? (DescendantOverride.propsFor overrides e.id)
      (DescendantOverride.styleFor overrides e.id) := by
  rw [overlayFor?, DescendantOverride.propsFor, DescendantOverride.styleFor]
  cases overrides.get? e.id <;> rfl

/-- Laying fields over an element changes its props and its style only. -/
lemma overlay?_eq_some_iff {props style : Fields Json} : e.overlay? props style = some e' ↔
    ∃ s, overlaidStyle? e.style style = some s ∧
      { e with props := Fields.merge e.props props, style := s } = e' :=
  Option.map_eq_some_iff

lemma filling?_eq_some_iff : e.filling? content = some ns ↔
    ns ≠ [] ∧ ∃ slot, Fields.get? e.props "slot" = some (.str slot) ∧
      content.get? slot = some ns := by
  have htext : ∀ v : Json, ∀ slot, v.asString? = some slot ↔ v = .str slot := by
    intro v slot
    cases v <;> simp [Json.asString?]
  simp only [filling?, Option.bind_eq_bind, Option.bind_eq_some_iff, htext]
  grind

end Element

namespace Node
variable {n n' m tree : Node} {path : List Nat} {f : Element → Option Element}

/-! ### The passes, position by position -/

lemma at?_cons_congr (h : n'.children = n.children) (i : Nat) (path : List Nat) :
    n'.at? (i :: path) = n.at? (i :: path) := by
  rw [at?, at?, h]

lemma children?_mapHead (f : Element → Element) (n : Node) :
    (n.mapHead f).children? = n.children? := by
  cases n <;> rfl

lemma arity?_of_mapHead? (h : n.mapHead? f = some n') : n'.arity? = n.arity? := by
  cases n <;> obtain ⟨e, -, rfl⟩ := Option.map_eq_some_iff.1 h <;> rfl

/-- Where every element is changed, there are as many children, each of them changed. -/
lemma forall₂_of_mapElements? (h : n.mapElements? f = some n') : n'.arity? = n.arity? ∧
    List.Forall₂ (fun c c' => c.mapElements? f = some c') n.children n'.children := by
  cases n with
  | leaf e =>
    obtain ⟨e', -, rfl⟩ := Option.map_eq_some_iff.1 h
    exact ⟨rfl, .nil⟩
  | branch e cs =>
    rw [mapElements?] at h
    split at h
    · next e' cs' he' hcs' =>
      cases h
      have hchildren := forall₂_of_mapElementsOf? hcs'
      exact ⟨congrArg some hchildren.length_eq.symm, hchildren⟩
    · cases h

/-- What stands at a position is changed as a tree of its own. -/
lemma at?_of_mapElements? (h : n.mapElements? f = some n') (hm : n.at? path = some m) :
    ∃ m', n'.at? path = some m' ∧ m.mapElements? f = some m' := by
  induction path generalizing n n' with
  | nil =>
    cases hm
    exact ⟨n', rfl, h⟩
  | cons i path ih =>
    obtain ⟨c, hc, hm⟩ := at?_cons_eq_some.1 hm
    obtain ⟨hlength, hchange⟩ := List.forall₂_iff_get.1 (forall₂_of_mapElements? h).2
    obtain ⟨hi, rfl⟩ := List.getElem?_eq_some_iff.1 hc
    obtain ⟨m', hm', hmap⟩ := ih (hchange i hi (hlength ▸ hi)) hm
    exact ⟨m', at?_cons_eq_some.2 ⟨_, List.getElem?_eq_getElem (hlength ▸ hi), hm'⟩, hmap⟩

section
variable {content : Fields (List Node)} {ns : List Node}

/-- Outside filled slots, the slots of what stands at a position are filled there. -/
lemma at?_fillSlots (hpath : n.HoldsAbove (fun _ a => a.head.filling? content = none) path)
    (hm : n.at? path = some m) :
    (n.fillSlots content).at? path = some (m.fillSlots content) := by
  induction path generalizing n with
  | nil =>
    cases hm
    rfl
  | cons i path ih =>
    obtain ⟨c, hc, hcm⟩ := at?_cons_eq_some.1 hm
    obtain ⟨hroot, hbelow⟩ := holdsAbove_cons.1 hpath
    cases n with
    | leaf e => simp at hc
    | branch e cs =>
      have hfill : (branch e cs).fillSlots content = branch e (cs.map (fillSlots content)) := by
        rw [fillSlots, show e.filling? content = none from hroot, fillSlotsOf_eq_map]
      rw [hfill, at?_cons_eq_some]
      have hc : cs[i]? = some c := hc
      exact ⟨c.fillSlots content, by simp [hc], ih (hbelow c hc) hcm⟩

lemma children?_fillSlots_of_filling? (h : n.head.filling? content = some ns) :
    (n.fillSlots content).children? = some ns := by
  cases n with
  | leaf e =>
    rw [fillSlots, show e.filling? content = some ns from h]
    rfl
  | branch e cs =>
    rw [fillSlots, show e.filling? content = some ns from h]
    rfl

lemma arity?_fillSlots (h : n.head.filling? content = none) :
    (n.fillSlots content).arity? = n.arity? := by
  cases n with
  | leaf e => rw [fillSlots, show e.filling? content = none from h]
  | branch e cs =>
    rw [fillSlots, show e.filling? content = none from h, fillSlotsOf_eq_map]
    simp [arity?, children?]

end

/-! ### The overlaid definition -/

variable {ref t : Node} {d : ComponentDef} {r : ReferenceProps}

/-- An element under the overrides for its position and then those for its id. -/
def overlaidAt? (r : ReferenceProps) (path : List Nat) (e : Element) : Option Element :=
  (e.overlay? (r.overridesAt path) (r.styleOverridesAt path)).bind
    (Element.overlayFor? r.descendants)

/-- Both overlays together leave each node at its position, its element under the overrides. -/
lemma at?_overlaid {rooted overlaid : Node}
    (hrooted : tree.mapHead? (Element.overlay? r.overrides r.styleOverrides) = some rooted)
    (hoverlaid : rooted.mapElements? (Element.overlayFor? r.descendants) = some overlaid)
    (hn : tree.at? path = some n) :
    ∃ m, overlaid.at? path = some m ∧ overlaidAt? r path n.head = some m.head ∧
      m.arity? = n.arity? := by
  obtain ⟨hhead, hchildren⟩ := mapHead?_eq_some hrooted
  cases path with
  | nil =>
    cases hn
    refine ⟨overlaid, rfl, ?_, ?_⟩
    · exact Option.bind_eq_some_iff.2 ⟨rooted.head, hhead, (mapElements?_eq_some hoverlaid).1⟩
    · rw [(forall₂_of_mapElements? hoverlaid).1, arity?_of_mapHead? hrooted]
  | cons i path =>
    rw [← at?_cons_congr hchildren] at hn
    obtain ⟨m, hm, hmap⟩ := at?_of_mapElements? hoverlaid hn
    exact ⟨m, hm, (mapElements?_eq_some hmap).1, (forall₂_of_mapElements? hmap).1⟩

/-- An element under both overlays has other props, and a style under two layers of fields. -/
lemma exists_of_overlaidAt? {e : Element} (h : overlaidAt? r path n.head = some e) :
    ∃ below above, overlaidStyle? n.head.style (r.styleOverridesAt path) = some below ∧
      overlaidStyle? below (DescendantOverride.styleFor r.descendants n.id) = some above ∧
      { n.head with props := r.propsAt path n, style := above } = e := by
  obtain ⟨e₁, hbelow, habove⟩ := Option.bind_eq_some_iff.1 h
  obtain ⟨below, hs₁, rfl⟩ := Element.overlay?_eq_some_iff.1 hbelow
  rw [Element.overlayFor?_eq] at habove
  obtain ⟨above, hs₂, rfl⟩ := Element.overlay?_eq_some_iff.1 habove
  exact ⟨below, above, hs₁, hs₂, rfl⟩

/-- A node that has the element under both overlays, up to its id, shows the node that it comes
from. -/
lemma shows_of_overlaidAt? {e : Element} (id : String)
    (hread : ∀ s, n.head.style = some s → s.IsRead)
    (hoverlaid : overlaidAt? r path n.head = some e) (hhead : m.head = { e with id := id })
    (hfilled : ∀ content, r.Fills path n content → m.children? = some content)
    (hunfilled : (∀ content, ¬ r.Fills path n content) → m.arity? = n.arity?) :
    r.Shows path n m := by
  obtain ⟨below, above, hbelow, habove, rfl⟩ := exists_of_overlaidAt? hoverlaid
  obtain ⟨hplain, hstyled, hstyle⟩ :=
    NodeStyle.valueIn_of_overlaidStyle?_of_overlaidStyle? hread hbelow habove
  constructor
  case type => rw [type, hhead]
  case responsive => rw [hhead]
  case interactions => rw [hhead]
  case dataSource => rw [hhead]
  case props => rw [props, hhead]
  case plain => rw [hhead]; exact hplain
  case styled => rw [hhead]; exact hstyled
  case style => rw [hhead]; exact hstyle
  case filled => exact hfilled
  case unfilled => exact hunfilled

/-- A slot is filled with what the reference gives for it. -/
lemma filling?_of_overlaidAt? {e : Element} (h : overlaidAt? r path n.head = some e)
    (content : List Node) :
    e.filling? r.slotContent = some content ↔ r.Fills path n content := by
  obtain ⟨_, _, -, -, rfl⟩ := exists_of_overlaidAt? h
  exact Element.filling?_eq_some_iff

/-- Where no node above a position becomes a filled slot, the overlaid tree has no such slot above
it either. -/
lemma holdsAbove_overlaid {rooted overlaid : Node}
    (hrooted : tree.mapHead? (Element.overlay? r.overrides r.styleOverrides) = some rooted)
    (hoverlaid : rooted.mapElements? (Element.overlayFor? r.descendants) = some overlaid)
    (hn : tree.at? path = some n) (hkeeps : r.Keeps path tree) :
    overlaid.HoldsAbove (fun _ a => a.head.filling? r.slotContent = none) path := by
  rintro above i below a rfl ha
  obtain ⟨b, hb⟩ := exists_at?_of_at?_append hn
  obtain ⟨a', ha', hhead, -⟩ := at?_overlaid hrooted hoverlaid hb
  cases ha.symm.trans ha'
  by_contra hfilled
  obtain ⟨content, hcontent⟩ := Option.ne_none_iff_exists'.1 hfilled
  exact hkeeps above i below b rfl hb content ((filling?_of_overlaidAt? hhead content).1 hcontent)

/-! ### The instance -/

/-- In the expansion of a reference the root has the id of the reference, and every node of the
definition that does not stand below a filled slot is at its position: with its id unless it is the
root, and with its attributes under the overrides for its position and for its id. A slot that the
reference has content for has exactly that content as its children, every other node its own. -/
theorem expansion_shows (ref : Node) (d : ComponentDef) (t : Node)
    (hread : ∀ e ∈ d.tree.elements, ∀ s, e.style = some s → s.IsRead)
    (h : ref.expansion? d = some t) :
    t.id = ref.id ∧ ∃ r, ReferenceProps.ofFields ref.props = .ok r ∧
      ∀ path n, d.tree.at? path = some n → r.Keeps path d.tree →
        ∃ m, t.at? path = some m ∧ (path ≠ [] → m.id = n.id) ∧ r.Shows path n m := by
  refine ⟨id_of_expansion? h, ?_⟩
  obtain ⟨r, rooted, overlaid, hr, hrooted, hoverlaid, rfl⟩ := expansion?_eq_some h
  refine ⟨r, hr, fun path n hn hkeeps => ?_⟩
  have hreadn : ∀ s, n.head.style = some s → s.IsRead := hread _ (head_mem_elements_of_at? hn)
  obtain ⟨a, ha, hhead, harity⟩ := at?_overlaid hrooted hoverlaid hn
  have hfill : (overlaid.fillSlots r.slotContent).at? path = some (a.fillSlots r.slotContent) :=
    at?_fillSlots (holdsAbove_overlaid hrooted hoverlaid hn hkeeps) ha
  have hfilled : ∀ content, r.Fills path n content →
      (a.fillSlots r.slotContent).children? = some content := fun content hcontent =>
    children?_fillSlots_of_filling? ((filling?_of_overlaidAt? hhead content).2 hcontent)
  have hunfilled : (∀ content, ¬ r.Fills path n content) →
      (a.fillSlots r.slotContent).arity? = n.arity? := by
    intro hnot
    rw [arity?_fillSlots (Option.eq_none_iff_forall_ne_some.2 fun content hcontent =>
      hnot content ((filling?_of_overlaidAt? hhead content).1 hcontent)), harity]
  -- at the root the id is replaced in the end, below it the filled tree is what it is
  cases path with
  | nil =>
    obtain rfl : overlaid = a := Option.some.inj ha
    have hchildren : ((overlaid.fillSlots r.slotContent).setId ref.id).children? =
        (overlaid.fillSlots r.slotContent).children? := children?_mapHead _ _
    refine ⟨_, at?_nil _, by simp, shows_of_overlaidAt? ref.id hreadn hhead ?_ ?_ ?_⟩
    · rw [setId, head_mapHead, head_fillSlots]
    · exact fun content hcontent => hchildren.trans (hfilled content hcontent)
    · exact fun hnot => (congrArg _ hchildren).trans (hunfilled hnot)
  | cons i path =>
    refine ⟨a.fillSlots r.slotContent, ?_, fun _ => ?_,
      shows_of_overlaidAt? a.id hreadn hhead (head_fillSlots _ _) hfilled hunfilled⟩
    · rw [setId, at?_cons_congr (children_mapHead _ _), hfill]
    · obtain ⟨_, _, -, -, hoverlaid⟩ := exists_of_overlaidAt? hhead
      rw [Node.id, head_fillSlots, ← hoverlaid]

/-- A note in red with a body. -/
def noteDefinition : ComponentDef :=
  ⟨"note", "Note",
    branch
      { id := "note", type := "Stack",
        style := some ⟨[(.color, .text "red"), (.gap, .int 3)]⟩ }
      [branch { id := "body", type := "Box" } [leaf { id := "blank", type := "Text" }]], none⟩

/-- A note without its color, of which the body becomes a slot with a text in it. -/
def noteReference : Node :=
  leaf
    { id := "todo", type := referenceType,
      props := [("ref", .str "note"), ("styleOverrides", .obj [("color", .null)]),
        ("descendants", .obj [("body", .obj [("props", .obj [("slot", .str "main")])])]),
        ("slotContent", .obj [("main",
          .arr [.obj [("id", .str "milk"), ("type", .str "Text")]])])] }

def noteProps : ReferenceProps :=
  { ref := "note", overrides := [], styleOverrides := [("color", .null)],
    descendants := [("body", ⟨some [("slot", .str "main")], none⟩)],
    slotContent := [("main", [leaf { id := "milk", type := "Text" }])], unresolved := none }

/-- The color is gone and the gap has stayed, and the text stands in the body. -/
theorem expansion_shows_note : ∃ t, noteReference.expansion? noteDefinition = some t ∧
    t.id = "todo" ∧ NodeStyle.valueIn t.head.style .color = none ∧
      NodeStyle.valueIn t.head.style .gap = some (.int 3) ∧
        ∃ body, t.at? [0] = some body ∧ body.id = "body" ∧
          body.children? = some [leaf { id := "milk", type := "Text" }] := by
  have hstyle : NodeStyle.IsRead ⟨[(.color, .text "red"), (.gap, .int 3)]⟩ := by
    refine NodeStyle.isRead_of_restores rfl fun e he => ?_
    fin_cases he <;> exact ⟨rfl, nofun⟩
  have hread : ∀ e ∈ noteDefinition.tree.elements, ∀ s, e.style = some s → s.IsRead := by
    simp only [noteDefinition, elements_branch, elements_leaf, List.flatMap_cons, List.flatMap_nil,
      List.append_nil, List.forall_mem_cons, Option.some.injEq]
    refine ⟨?_, by simp, by simp, by simp⟩
    rintro s rfl
    exact hstyle
  have hexpands : (noteReference.expansion? noteDefinition).isSome = true := by decide +kernel
  obtain ⟨t, ht⟩ := Option.isSome_iff_exists.1 hexpands
  obtain ⟨hid, r, hr, hshows⟩ := expansion_shows noteReference noteDefinition t hread ht
  have hprops : ReferenceProps.ofFields noteReference.props = .ok noteProps := rfl
  obtain rfl : r = noteProps := Decoded.ok.inj (hr.symm.trans hprops)
  obtain ⟨root, hroot, -, hshown⟩ := hshows [] _ rfl holdsAbove_nil
  obtain rfl : t = root := Option.some.inj hroot
  have hkeeps : noteProps.Keeps [0] noteDefinition.tree := by
    refine holdsAbove_cons.2 ⟨?_, fun _ _ => holdsAbove_nil⟩
    rintro content ⟨-, slot, hslot, -⟩
    have hnone : Fields.get? (noteProps.propsAt [] noteDefinition.tree) "slot" = none := by decide
    cases hnone.symm.trans hslot
  obtain ⟨body, hbody, hbodyId, hbodyShown⟩ := hshows [0] _ rfl hkeeps
  refine ⟨t, ht, hid, ?_, ?_, body, hbody, hbodyId (by simp), hbodyShown.filled _ ?_⟩
  · obtain ⟨v, w, hv, hw, hcolor⟩ := hshown.style .color
    obtain rfl : v = some none := Decoded.ok.inj (hv.symm.trans rfl)
    obtain rfl : w = none := Decoded.ok.inj (hw.symm.trans rfl)
    exact hcolor
  · obtain ⟨v, w, hv, hw, hgap⟩ := hshown.style .gap
    obtain rfl : v = none := Decoded.ok.inj (hv.symm.trans rfl)
    obtain rfl : w = none := Decoded.ok.inj (hw.symm.trans rfl)
    exact hgap
  · exact ⟨by simp, "main", rfl, rfl⟩

end Node
end Screenwright
