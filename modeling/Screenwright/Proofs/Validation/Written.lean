import Screenwright.Proofs.Document.Trail
import Screenwright.Proofs.Document.Restoring
import Screenwright.Proofs.Validation.Documents

/-! Trees that are written again. The walk finds nothing wrong with the document of a tree when it
finds nothing wrong with any of its elements, as is the case for a tree that was read from a walked
document. -/
namespace Screenwright
open Decode

/-- A field that is written from an optional value can be read when such values can. -/
lemma reads_of_map {α β : Type} {read : Json → Decoded β} {write : α → Json} {a : Option α}
    (hread : ∀ x, a = some x → Reads read (write x)) {w : Json} (hw : a.map write = some w) :
    Reads read w := by
  obtain ⟨x, hx, rfl⟩ := Option.map_eq_some_iff.1 hw
  exact hread x hx

/-! ### Styles -/

lemma eq_of_required_text {fs : Fields Json} {name s a : String} (hname : snakeName name = name)
    (hget : fs.get? name = some (.str s)) (h : Decode.required fs name Decode.text = .ok a) :
    a = s := by
  rw [required, keyOf_of_snakeName fs hname, hget] at h
  exact (Decoded.ok.inj (Decoded.under_eq_ok.1 h)).symm

namespace NodeStyle
variable {s : NodeStyle}

/-- A style of which each value has the kind of its property. -/
def Typed (s : NodeStyle) : Prop := ∀ e ∈ s.declared, ∃ w, e.1.kind.decode w = .ok e.2

lemma typed_of_ofFields {fs : Fields Json} (h : ofFields fs = .ok s) : s.Typed := by
  obtain ⟨f, rfl, hf⟩ := exists_of_ofFields_eq_ok h
  intro e he
  obtain ⟨p, -, hp⟩ := List.mem_filterMap.1 he
  obtain ⟨v, hv, rfl⟩ := Option.map_eq_some_iff.1 hp
  exact exists_of_optional_eq_ok (hv ▸ hf p)

lemma typed_of_decode {v : Json} (h : NodeStyle.decode v = .ok s) : s.Typed := by
  cases v with
  | obj fs => exact typed_of_ofFields h
  | _ => cases h

/-- A typed style can be read again. -/
theorem Typed.reads_toJson (h : s.Typed) : Reads NodeStyle.decode s.toJson := by
  have hnames : ∀ e ∈ s.toFields, e.1 ∈ names := by
    intro e he
    obtain ⟨entry, -, rfl⟩ := List.mem_map.1 he
    exact name_mem_names entry.1
  obtain ⟨hkeys, hspelled⟩ := (keys_iff_spelled apart_names).1 hnames
  refine reads_decode.2 ⟨s.toFields, rfl, hkeys, fun p w hw => .inr ?_⟩
  rw [get?_keyOf_of_spelled hspelled (name_mem_names p)] at hw
  obtain ⟨⟨q, v⟩, he, heq⟩ := List.mem_map.1 (Fields.mem_of_get? hw)
  obtain ⟨hname, rfl⟩ := Prod.mk.inj heq
  obtain rfl := StyleProperty.name_injective hname
  obtain ⟨w, hw⟩ := h _ he
  exact (StyleKind.stable _ w v hw).reads

end NodeStyle

namespace ResponsiveStyle
variable {r : ResponsiveStyle}

/-- Overrides of which each style is typed. -/
structure Typed (r : ResponsiveStyle) : Prop where
  tablet : ∀ s, r.tablet = some s → s.Typed
  mobile : ∀ s, r.mobile = some s → s.Typed

lemma typed_of_decodeWithin {room : Nat} {v : Json} (h : decodeWithin room v = .ok r) :
    r.Typed := by
  cases v with
  | obj fs =>
    obtain ⟨g, mobile, hfirst, hmobile, rfl⟩ := Decoded.seq_eq_ok.1 (eq_ok_of_closed h)
    obtain ⟨tablet, htablet, rfl⟩ := Decoded.map_eq_ok.1 hfirst
    constructor
    · rintro s rfl
      obtain ⟨w, hw⟩ := exists_of_optional_eq_ok htablet
      exact NodeStyle.typed_of_decode (of_within_eq_ok hw).2
    · rintro s rfl
      obtain ⟨w, hw⟩ := exists_of_optional_eq_ok hmobile
      exact NodeStyle.typed_of_decode (of_within_eq_ok hw).2
  | _ => cases h

/-- Typed overrides can be read again. -/
theorem Typed.reads_toJson (h : r.Typed) : Reads ResponsiveStyle.decode r.toJson := by
  refine reads_decodeWithin.2 ⟨_, rfl, fun _ he => fst_mem_of_mem_presentFields he, ?_⟩
  have hstyle : ∀ {s : Option NodeStyle}, (∀ s', s = some s' → s'.Typed) → ∀ w,
      s.map NodeStyle.toJson = some w → w = .null ∨ 0 < maxDepth ∧ Reads NodeStyle.decode w := by
    intro s hs w hw
    exact .inr ⟨by decide, reads_of_map (fun s' hs' => (hs s' hs').reads_toJson) hw⟩
  intro name hname w hw
  simp only [names, List.mem_cons, List.not_mem_nil, or_false] at hname
  rcases hname with rfl | rfl
  · exact hstyle h.tablet w (by simpa using hw)
  · exact hstyle h.mobile w (by simpa using hw)

end ResponsiveStyle

/-! ### Elements -/

/-- An element whose document the walk finds nothing wrong with. -/
structure Element.Passes (e : Element) : Prop where
  id : Text.hasInk e.id = true
  type : Text.hasInk e.type = true
  table : ∀ t : BuiltinType, e.type = t.name → (PropTable.allowed t).Admits e.props
  reference : e.type = referenceType →
    Walk.isInkText (e.props.get? "ref") = true ∧ (ReferenceProps.ofFields e.props).faults = []
  style : ∀ s, e.style = some s → s.Typed
  responsive : ∀ r, e.responsive = some r → r.Typed

namespace Element
variable {e : Element}

/-- Another id does not matter as long as it has ink. -/
lemma Passes.withId (h : e.Passes) {id : String} (hid : Text.hasInk id = true) :
    Element.Passes { e with id := id } :=
  ⟨hid, h.type, h.table, h.reference, h.style, h.responsive⟩

/-- The fields of an element that passes are those of a node that does. -/
lemma Passes.toFields (h : e.Passes) {children : Option Json}
    (hchildren : ∀ v, children = some v → ∃ cs, v = .arr cs) :
    RawNode.Passes (e.toFields children) := by
  have hprops : Walk.propsOf (e.toFields children) = e.props :=
    RawNode.propsOf_eq get?_toFields_props
  have htag : RawNode.tag? (e.toFields children) = some e.type := by
    rw [RawNode.tag?, get?_toFields_type]
    rfl
  constructor
  case toHasShape =>
    constructor
    case known => exact fun _ he => fst_mem_of_mem_presentFields he
    case id => rw [get?_toFields_id]; exact h.id
    case type => rw [get?_toFields_type]; exact h.type
    case props =>
      intro v hv
      rw [get?_toFields_props] at hv
      exact ⟨_, (Option.some.inj hv).symm⟩
    case children => rwa [get?_toFields_children]
    case dataSource =>
      rw [get?_toFields_dataSource]
      exact fun v => reads_of_map fun d _ => d.restores.reads
  case table => simpa only [hprops, htag, Option.some.injEq] using h.table
  case reference => simpa only [hprops, htag, Option.some.injEq] using h.reference
  case style =>
    rw [get?_toFields_style]
    exact fun v => reads_of_map fun s hs => (h.style s hs).reads_toJson
  case responsive =>
    rw [get?_toFields_responsive]
    exact fun v => reads_of_map fun r hr => (h.responsive r hr).reads_toJson
  case interactions =>
    rw [get?_toFields_interactions]
    exact fun v => reads_of_map fun i _ => i.restores.reads

end Element

/-! ### Trees -/

namespace Node

/-- A tree all of whose elements pass. -/
def Passes (n : Node) : Prop := ∀ e ∈ n.elements, e.Passes

/-- The walk finds nothing wrong with the document of a tree that passes. -/
theorem Passes.walked {n : Node} (h : n.Passes) : Walked n.toJson := by
  induction n using Node.induction with
  | leaf e =>
    refine .node ((h e (by simp)).toFields (by simp)) ?_
    simp [RawNode.children]
  | branch e cs ih =>
    refine .node ((h e (by simp)).toFields (by simp)) ?_
    have hchildren : RawNode.children (e.toFields (some (.arr (toJsonList cs)))) =
        cs.map toJson := by
      rw [RawNode.children, Element.get?_toFields_children, toJsonList_eq_map]
    rw [hchildren]
    intro c hc
    obtain ⟨n, hn, rfl⟩ := List.mem_map.1 hc
    refine ih n hn fun e' he' => h e' ?_
    rw [elements_branch]
    exact List.mem_cons_of_mem _ (List.mem_flatMap.2 ⟨n, hn, he'⟩)

/-! ### Trees that are read -/

section
variable {room : Nat} {fs : Fields Json}

/-- The props that are read are those that the walk checks. -/
lemma eq_propsOf {ps : Fields Json}
    (h : Decode.fieldOr fs "props" [] Decode.object = .ok ps) : ps = Walk.propsOf fs := by
  rw [fieldOr, keyOf_of_snakeName fs (by decide)] at h
  cases hprops : fs.get? "props" with
  | none =>
    simp only [hprops] at h
    cases h
    simp [Walk.propsOf, hprops]
  | some v =>
    simp only [hprops, Decoded.under_eq_ok] at h
    cases v with
    | obj gs =>
      cases h
      exact (RawNode.propsOf_eq hprops).symm
    | _ => cases h

/-- What is read from the fields of a node that passes is an element that passes. -/
lemma passes_of_readFrom {e : Element} (hpasses : RawNode.Passes fs) (h : e.ReadFrom room fs) :
    e.Passes := by
  obtain ⟨id, hid, hidInk⟩ := Walk.isInkText_iff.1 hpasses.id
  obtain ⟨type, htype, htypeInk⟩ := Walk.isInkText_iff.1 hpasses.type
  have hsameId : e.id = id := eq_of_required_text (by decide) hid h.id
  have hsameType : e.type = type := eq_of_required_text (by decide) htype h.type
  have hprops : e.props = Walk.propsOf fs := eq_propsOf h.props
  have htag : RawNode.tag? fs = some e.type := by
    rw [RawNode.tag?, htype, hsameType]
    rfl
  constructor
  case id => rwa [hsameId]
  case type => rwa [hsameType]
  case table => exact fun t ht => hprops ▸ hpasses.table t (htag.trans (congrArg some ht))
  case reference => exact fun ht => hprops ▸ hpasses.reference (htag.trans (congrArg some ht))
  case style =>
    intro s hs
    obtain ⟨w, hw⟩ := exists_of_optional_eq_ok (hs ▸ h.style)
    exact NodeStyle.typed_of_decode (of_within_eq_ok hw).2
  case responsive =>
    intro r hr
    obtain ⟨w, hw⟩ := exists_of_optional_eq_ok (hr ▸ h.responsive)
    exact ResponsiveStyle.typed_of_decodeWithin hw

end

/-- A tree that is read from a walked document passes. -/
theorem passes_of_decodeWithin {v : Json} (h : Walked v) {room : Nat} {n : Node}
    (hn : decodeWithin room v = .ok n) : n.Passes := by
  induction h generalizing room n with
  | @node fs head _ ih =>
    rw [decodeWithin] at hn
    obtain ⟨hread, hchildren⟩ := of_ofFields_eq_ok (of_within_eq_ok hn).2
    intro e he
    rw [elements_eq_cons, children_eq_getD] at he
    rcases List.mem_cons.1 he with rfl | he
    · exact passes_of_readFrom head hread
    · obtain ⟨m, hm, he⟩ := List.mem_flatMap.1 he
      obtain ⟨c, hc, hdecode⟩ := exists_of_decodeChildren hchildren m hm
      exact ih c hc hdecode e he

end Node

/-! ### Screens -/

namespace ScreenSpec
variable {s : ScreenSpec}

/-- A screen whose document the walk accepts. -/
structure Passes (s : ScreenSpec) : Prop where
  version : s.version = 1
  route : s.route.toList.head? = some '/'
  tree : s.tree.Passes

/-- The walk accepts the document of a screen that passes. -/
theorem Passes.accepts (h : s.Passes) : Validator.walk.Accepts s.toJson := by
  refine RawScreen.walk_accepts.2 ⟨_, rfl, ⟨?_, ?_, ?_, ?_⟩, ?_, ?_⟩
  · exact fun _ he => fst_mem_of_mem_presentFields he
  · exact RawScreen.isRoute_iff.2 ⟨s.route, by simp, h.route⟩
  · intro v hv
    obtain ⟨m, -, rfl⟩ : ∃ m, s.metadata = some m ∧ m.toJson = v := by simpa using hv
    exact ⟨_, rfl⟩
  · exact Fields.has_of_get? (v := s.tree.toJson) (by simp)
  · simp [h.version]
  · intro tree htree
    obtain rfl : s.tree.toJson = tree := by simpa using htree
    exact h.tree.walked

/-- A screen that is read from an accepted document passes. -/
theorem passes_of_decode {doc : Json} (haccepts : Validator.walk.Accepts doc)
    (h : ScreenSpec.decode doc = .ok s) : s.Passes := by
  obtain ⟨fs, rfl, hshape, hone, hwalked⟩ := RawScreen.walk_accepts.1 haccepts
  obtain ⟨g₃, tree, h₃, htree, rfl⟩ := Decoded.seq_eq_ok.1 (eq_ok_of_closed h)
  obtain ⟨g₂, metadata, h₂, -, rfl⟩ := Decoded.seq_eq_ok.1 h₃
  obtain ⟨g₁, route, h₁, hroute, rfl⟩ := Decoded.seq_eq_ok.1 h₂
  obtain ⟨version, hversion, rfl⟩ := Decoded.map_eq_ok.1 h₁
  obtain ⟨text, htext, hslash⟩ := RawScreen.isRoute_iff.1 hshape.route
  constructor
  case version =>
    rw [fieldOr, keyOf_of_snakeName fs (by decide), hone] at hversion
    exact (Decoded.ok.inj (Decoded.under_eq_ok.1 hversion)).symm
  case route =>
    obtain rfl := eq_of_required_text (by decide) htext hroute
    exact hslash
  case tree =>
    obtain ⟨v, hv⟩ := Option.isSome_iff_exists.1 hshape.tree
    rw [required, keyOf_of_snakeName fs (by decide), hv] at htree
    exact Node.passes_of_decodeWithin (hwalked v hv) (Decoded.under_eq_ok.1 htree)

end ScreenSpec
end Screenwright
