import Screenwright.Proofs.Reference.Instances
import Screenwright.Reference.Instance

/-! References that have been reset: their own changes are gone, apart from those under the second
spelling of a name. -/
namespace Screenwright

namespace Decode
variable {α : Type} {fs : Fields Json} {name : String} {default a : α}
  {decode : Json → Decoded α}

/-- The value of a field that stands under its second spelling. -/
def underSecond (fs : Fields Json) (name : String) (default : α) (decode : Json → Decoded α) :
    Option α :=
  match fs.get? (snakeName name) with
  | some v => (decode v).toOption
  | none => some default

/-- A field whose name is left out is read under its second spelling. -/
lemma fieldOr_eraseAll_eq_ok {ks : List String} (hname : name ∈ ks) (hsnake : snakeName name ∉ ks) :
    fieldOr (fs.eraseAll ks) name default decode = .ok a ↔
      underSecond fs name default decode = some a := by
  have hkey : keyOf (fs.eraseAll ks) name = snakeName name := by
    rw [keyOf, Fields.has, Fields.get?_eraseAll, if_pos hname]
    rfl
  rw [fieldOr, underSecond, hkey, Fields.get?_eraseAll, if_neg hsnake]
  cases fs.get? (snakeName name) with
  | none => simp
  | some v => exact Decoded.under_eq_ok.trans Decoded.toOption_eq_some.symm

/-- A field that is left out and has no second spelling has its default. -/
lemma fieldOr_eraseAll (name : String) {ks : List String} (hname : name ∈ ks)
    (hsnake : snakeName name = name) :
    fieldOr (fs.eraseAll ks) name default decode = .ok default := by
  rw [fieldOr, keyOf_of_snakeName _ hsnake, Fields.get?_eraseAll, if_pos hname]

lemma underSecond_of_not_has (h : fs.has (snakeName name) = false) :
    underSecond fs name default decode = some default := by
  have hnone : fs.get? (snakeName name) = none := by simpa [Fields.has] using h
  rw [underSecond, hnone]

end Decode

namespace Node
variable {ref t : Node} {d : ComponentDef} {r : ReferenceProps}

lemma props_reset (h : ref.isReference = true) :
    ref.reset.props = Fields.eraseAll ref.props changeKeys := by
  rw [reset, if_pos h, props, head_mapHead]

/-- The style fields of a reference under the second spelling of their name. -/
def secondStyle? (ref : Node) : Option (Fields Json) :=
  Decode.underSecond ref.props "styleOverrides" [] Decode.object

/-- The content of slots that a reference gives under the second spelling of the name. -/
def secondContent? (ref : Node) : Option (Fields (List Node)) :=
  Decode.underSecond ref.props "slotContent" [] (Decode.dictOf (Decode.listOf Node.decodeInside))

/-- After a reset the props of a reference say what stands under second spellings and no more. -/
lemma ofFields_reset_eq_ok (href : ref.isReference = true)
    (hr : ReferenceProps.ofFields ref.props = .ok r) {r' : ReferenceProps} :
    ReferenceProps.ofFields ref.reset.props = .ok r' ↔
      ∃ style content, ref.secondStyle? = some style ∧ ref.secondContent? = some content ∧
        r' = ⟨r.ref, [], style, [], content, none⟩ := by
  have htarget : Decode.required (Fields.eraseAll ref.props changeKeys) "ref" Decode.text =
      .ok r.ref := by
    rw [Decode.required, Decode.keyOf_of_snakeName _ (by decide), Fields.get?_eraseAll,
      if_neg (by decide), ReferenceProps.get?_ref_of_ofFields hr]
    rfl
  rw [props_reset href, ReferenceProps.ofFields, htarget,
    Decode.fieldOr_eraseAll "overrides" (by decide) (by decide),
    Decode.fieldOr_eraseAll "descendants" (by decide) (by decide), Decode.optional,
    Decode.fieldOr_eraseAll "unresolved" (by decide) (by decide)]
  simp only [Decoded.seq_eq_ok, Decoded.map_eq_ok]
  constructor
  · rintro ⟨_, _, ⟨_, content, ⟨_, _, ⟨_, style, ⟨_, _, ⟨_, hname, rfl⟩, hover, rfl⟩, hstyle, rfl⟩,
      hdesc, rfl⟩, hcontent, rfl⟩, hmark, rfl⟩
    cases hname
    cases hover
    cases hdesc
    cases hmark
    exact ⟨style, content, (Decode.fieldOr_eraseAll_eq_ok (by decide) (by decide)).1 hstyle,
      (Decode.fieldOr_eraseAll_eq_ok (by decide) (by decide)).1 hcontent, rfl⟩
  · rintro ⟨style, content, hstyle, hcontent, rfl⟩
    exact ⟨_, none, ⟨_, content, ⟨_, [], ⟨_, style, ⟨_, [], ⟨r.ref, rfl, rfl⟩, rfl, rfl⟩,
      (Decode.fieldOr_eraseAll_eq_ok (by decide) (by decide)).2 hstyle, rfl⟩, rfl, rfl⟩,
      (Decode.fieldOr_eraseAll_eq_ok (by decide) (by decide)).2 hcontent, rfl⟩, rfl, rfl⟩

/-! ### The expansion without changes -/

lemma mapElementsOf?_some (cs : List Node) (h : ∀ c ∈ cs, c.mapElements? some = some c) :
    mapElementsOf? some cs = some cs := by
  induction cs with
  | nil => rfl
  | cons c cs ih =>
    rw [mapElementsOf?, h c List.mem_cons_self, ih fun c hc => h c (List.mem_cons_of_mem _ hc)]

lemma mapElements?_some (n : Node) : n.mapElements? some = some n := by
  induction n using Node.induction with
  | leaf e => rfl
  | branch e cs ih => rw [mapElements?, mapElementsOf?_some cs ih]

/-- Only a style is laid over the root. -/
lemma mapHead?_overlay?_nil (n : Node) (style : Fields Json) :
    n.mapHead? (Element.overlay? [] style) =
      (overlaidStyle? n.head.style style).map fun s => n.mapHead fun e => { e with style := s } := by
  cases n <;> simp [mapHead?, Element.overlay?, mapHead, Function.comp_def]

lemma mapHead_style_self (n : Node) : (n.mapHead fun e => { e with style := n.head.style }) = n := by
  cases n <;> rfl

/-- Trees that are the same but for their ids, which they get from the same element. -/
lemma eq_of_setId_eq_setId {n' : Node} {id : String} (hhead : n.head = n'.head)
    (h : n.setId id = n'.setId id) : n = n' := by
  cases n <;> cases n' <;> simp_all [setId, mapHead]

/-- The expansion of a reference that has been reset. -/
lemma expansion?_reset_eq_some (href : ref.isReference = true)
    (hr : ReferenceProps.ofFields ref.props = .ok r) :
    ref.reset.expansion? d = some t ↔
      ∃ style content s, ref.secondStyle? = some style ∧ ref.secondContent? = some content ∧
        overlaidStyle? d.tree.head.style style = some s ∧
        ((d.tree.mapHead fun e => { e with style := s }).fillSlots content).setId ref.id = t := by
  have hid : ref.reset.id = ref.id := by
    rw [reset, if_pos href, Node.id, head_mapHead]
  have hnone : Element.overlayFor? [] = some := rfl
  simp only [expansion?, Option.bind_eq_bind, Option.bind_eq_some_iff, Option.pure_def,
    Decoded.toOption_eq_some, ofFields_reset_eq_ok href hr, Option.some.injEq, hid]
  constructor
  · rintro ⟨_, ⟨style, content, hstyle, hcontent, rfl⟩, rooted, hrooted, overlaid, hoverlaid, rfl⟩
    rw [mapHead?_overlay?_nil, Option.map_eq_some_iff] at hrooted
    obtain ⟨s, hs, rfl⟩ := hrooted
    rw [hnone, mapElements?_some, Option.some.injEq] at hoverlaid
    subst hoverlaid
    exact ⟨style, content, s, hstyle, hcontent, hs, rfl⟩
  · rintro ⟨style, content, s, hstyle, hcontent, hs, rfl⟩
    refine ⟨_, ⟨style, content, hstyle, hcontent, rfl⟩,
      d.tree.mapHead fun e => { e with style := s }, ?_, _, ?_, rfl⟩
    · rw [mapHead?_overlay?_nil, hs, Option.map_some]
    · rw [hnone, mapElements?_some]

lemma fillSlots_nil (n : Node) : n.fillSlots [] = n := by
  have hnone : ∀ e : Element, e.filling? [] = none := by
    intro e
    rw [Option.eq_none_iff_forall_ne_some]
    intro ns hns
    obtain ⟨slot, hslot⟩ := Element.mem_of_filling? hns
    cases hslot
  induction n using Node.induction with
  | leaf e => rw [fillSlots, hnone]
  | branch e cs ih =>
    rw [fillSlots, hnone, fillSlotsOf_eq_map, List.map_congr_left ih, List.map_id']

/-- What stands under second spellings in a reference changes nothing of a definition. -/
structure LeavesAlone (ref : Node) (d : ComponentDef) : Prop where
  style : ∃ style, ref.secondStyle? = some style ∧
    overlaidStyle? d.tree.head.style style = some d.tree.head.style
  content : ∃ content, ref.secondContent? = some content ∧ d.tree.fillSlots content = d.tree

/-- A reference that has been reset has its id and its target, and gives no prop another value than
its definition does. It shows its definition, under its own id, exactly if nothing that stands under
second spellings changes the definition; so it does when nothing stands there. -/
theorem reset_shows_iff (ref : Node) (d : ComponentDef) (r : ReferenceProps)
    (href : ref.isReference = true) (hr : ReferenceProps.ofFields ref.props = .ok r) :
    ref.reset.id = ref.id ∧ ref.reset.isReference = true ∧
      Fields.get? ref.reset.props "ref" = Fields.get? ref.props "ref" ∧
      ref.reset.overriddenProps d = .ok [] ∧
      (ref.reset.expansion? d = some (d.tree.setId ref.id) ↔ ref.LeavesAlone d) ∧
      (Fields.has ref.props "style_overrides" = false →
        Fields.has ref.props "slot_content" = false →
          ref.reset.expansion? d = some (d.tree.setId ref.id)) := by
  have hexpansion : ref.reset.expansion? d = some (d.tree.setId ref.id) ↔ ref.LeavesAlone d := by
    rw [expansion?_reset_eq_some href hr]
    constructor
    · rintro ⟨style, content, s, hstyle, hcontent, hs, htree⟩
      -- the roots agree in all but the id, so that the style has stayed
      have hhead := congrArg head htree
      simp only [setId, head_mapHead, head_fillSlots, Element.mk.injEq] at hhead
      obtain rfl : s = d.tree.head.style := hhead.2.2.2.1
      rw [mapHead_style_self] at htree
      exact ⟨⟨style, hstyle, hs⟩, content, hcontent,
        eq_of_setId_eq_setId (head_fillSlots content d.tree) htree⟩
    · rintro ⟨⟨style, hstyle, hs⟩, content, hcontent, hfill⟩
      exact ⟨style, content, _, hstyle, hcontent, hs, by rw [mapHead_style_self, hfill]⟩
  refine ⟨?_, ?_, ?_, ?_, hexpansion, fun hstyle hcontent => hexpansion.2 ⟨?_, ?_⟩⟩
  · rw [reset, if_pos href, Node.id, head_mapHead]
  · rw [reset, if_pos href, isReference, type, head_mapHead]
    exact href
  · rw [props_reset href, Fields.get?_eraseAll, if_neg (by decide)]
  · have hoverrides : ref.reset.overrides = .ok [] := by
      rw [overrides, props_reset href, Fields.get?_eraseAll, if_pos (by decide)]
    rw [overriddenProps, hoverrides, Except.map, List.filter_nil, Fields.keys, List.map_nil,
      Text.sorted, List.mergeSort_nil]
  · exact ⟨[], Decode.underSecond_of_not_has hstyle, rfl⟩
  · exact ⟨[], Decode.underSecond_of_not_has hcontent, fillSlots_nil d.tree⟩

/-- A note that has been reset shows its definition, but one that says under a second spelling that
it has no color stays without. -/
theorem reset_shows_iff_note :
    let pale : Node :=
      leaf
        { id := "todo", type := referenceType,
          props := [("ref", .str "note"), ("style_overrides", .obj [("color", .null)])] }
    noteReference.isReference = true ∧
      noteReference.reset.expansion? noteDefinition = some (noteDefinition.tree.setId "todo") ∧
      pale.isReference = true ∧
      pale.reset.expansion? noteDefinition ≠ some (noteDefinition.tree.setId "todo") := by
  intro pale
  have hnote := reset_shows_iff noteReference noteDefinition noteProps rfl rfl
  have hpale := reset_shows_iff pale noteDefinition ⟨"note", [], [("color", .null)], [], [], none⟩
    rfl rfl
  obtain ⟨-, -, -, -, -, hshows⟩ := hnote
  obtain ⟨-, -, -, -, hiff, -⟩ := hpale
  refine ⟨rfl, hshows rfl rfl, rfl, fun h => ?_⟩
  obtain ⟨style, hstyle, hs⟩ := (hiff.1 h).style
  obtain rfl : [("color", Json.null)] = style := Option.some.inj hstyle
  exact absurd hs (by decide +kernel)

end Node
end Screenwright
