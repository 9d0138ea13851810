import Screenwright.Document.Component
import Screenwright.Document.Screen
import Screenwright.Proofs.Record.Restoring
import Screenwright.Proofs.Validation.Readable
import Screenwright.Proofs.Validation.Styles

/-! Documents that are read again from what is written for them. -/
namespace Screenwright
open Decode

/-! ### Interactions and data sources -/

lemma ClickInteraction.restores (c : ClickInteraction) : Restores decode toJson c := by
  refine ⟨?_, by simp [toJson]⟩
  rw [decode, toJson]
  refine record_eq_ok rfl (by decide) fun hspelled => ?_
  rw [required_eq_ok (a := c.action) (by simp) (restores_named (by cases c.action <;> rfl)),
    optional_eq_ok (a := c.target) hspelled (by simp) (by simp) fun s _ => restores_text s,
    optional_eq_ok (a := c.code) hspelled (by simp) (by simp) fun s _ => restores_text s]
  rfl

lemma ChangeInteraction.restores (c : ChangeInteraction) : Restores decode toJson c := by
  refine ⟨?_, by simp [toJson]⟩
  rw [decode, toJson]
  refine record_eq_ok rfl (by decide) fun hspelled => ?_
  rw [required_eq_ok (a := c.action) (by simp) (restores_named (by cases c.action <;> rfl)),
    optional_eq_ok (a := c.target) hspelled (by simp) (by simp) fun s _ => restores_text s,
    optional_eq_ok (a := c.code) hspelled (by simp) (by simp) fun s _ => restores_text s]
  rfl

lemma VisibilityRule.restores (r : VisibilityRule) : Restores decode toJson r := by
  refine ⟨?_, by simp [toJson]⟩
  rw [decode, toJson]
  refine record_eq_ok rfl (by decide) fun hspelled => ?_
  rw [required_eq_ok (a := r.state) (by simp) (restores_text _),
    required_eq_ok (a := r.operator) (by simp) (restores_named (by cases r.operator <;> rfl)),
    optional_eq_ok (a := r.value) hspelled (by simp) (by simp) fun s _ => restores_text s]
  rfl

theorem Interactions.restores (i : Interactions) : Restores decode toJson i := by
  refine ⟨?_, by simp [toJson]⟩
  rw [decode, toJson]
  refine record_eq_ok rfl (by decide) fun hspelled => ?_
  rw [optional_eq_ok (a := i.onClick) hspelled (by simp) (by simp) fun c _ => c.restores,
    optional_eq_ok (a := i.onChange) hspelled (by simp) (by simp) fun c _ => c.restores,
    optional_eq_ok (a := i.visibleWhen) hspelled (by simp) (by simp) fun r _ => r.restores]
  rfl

theorem DataSource.restores (d : DataSource) : Restores decode toJson d := by
  refine ⟨?_, by simp [toJson]⟩
  rw [decode, toJson]
  refine record_eq_ok rfl (by decide) fun hspelled => ?_
  have hmapping : ∀ m : Fields String,
      Restores (dictOf text) (fun m => .obj (m.mapValues .str)) m := fun m =>
    restores_dict fun _ _ => rfl
  rw [required_eq_ok (a := d.type) (by simp) (restores_named (by cases d.type <;> rfl)),
    optional_eq_ok (a := d.url) hspelled (by simp) (by simp) fun s _ => restores_text s,
    optional_eq_ok (a := d.data) hspelled (by simp) (by simp) fun rows _ => restores_rows rows,
    optional_eq_ok (a := d.mapping) hspelled (by simp) (by simp) fun m _ => hmapping m]
  rfl

/-! ### Styles -/

lemma StyleProperty.name_injective : Function.Injective StyleProperty.name := by
  have hnames : (all.map name).Nodup := by decide +kernel
  exact fun p q h => List.inj_on_of_nodup_map hnames (mem_all p) (mem_all q) h

/-- A value as it is kept is read again. -/
lemma StyleKind.stable (k : StyleKind) : Stable k.decode StyleValue.toJson := by
  intro w v h
  refine ⟨?_, by cases v <;> simp [StyleValue.toJson]⟩
  cases k with
  | value => cases v <;> rfl
  | keyword allowed =>
    obtain ⟨s, hs, rfl⟩ := Decoded.map_eq_ok.1 h
    exact Decoded.map_eq_ok.2 ⟨s, if_pos (mem_of_oneOf_eq_ok hs), rfl⟩
  | text =>
    obtain ⟨s, -, rfl⟩ := Decoded.map_eq_ok.1 h
    rfl
  | number =>
    obtain ⟨x, -, rfl⟩ := Decoded.map_eq_ok.1 h
    rfl
  | integer =>
    obtain ⟨n, -, rfl⟩ := Decoded.map_eq_ok.1 h
    rfl

namespace NodeStyle
variable {f : StyleProperty → Option StyleValue} {fs : Fields Json}

lemma toFields_ofFunction : (ofFunction f).toFields =
    presentFields (StyleProperty.all.map fun p => (p.name, (f p).map StyleValue.toJson)) := by
  rw [toFields, ofFunction, presentFields, List.map_filterMap, List.filterMap_map]
  simp [Function.comp_def]

lemma get?_presentFields_properties {g : StyleProperty → Option Json} (p : StyleProperty)
    (ps : List StyleProperty) :
    (presentFields (ps.map fun q => (q.name, g q))).get? p.name = if p ∈ ps then g p else none := by
  induction ps with
  | nil => rfl
  | cons q ps ih =>
    rw [List.map_cons, get?_presentFields_cons, ih]
    by_cases hp : p = q
    · subst hp
      cases g p <;> simp
    · simp [hp, StyleProperty.name_injective.ne hp]

lemma decodeProperties_eq_ok {ps : List StyleProperty}
    (h : ∀ p ∈ ps, optional fs p.name p.kind.decode = .ok (f p)) :
    decodeProperties fs ps = .ok (ps.filterMap fun p => (f p).map (p, ·)) := by
  induction ps with
  | nil => rfl
  | cons p ps ih =>
    obtain ⟨hp, hps⟩ := List.forall_mem_cons.1 h
    rw [decodeProperties, hp, ih hps]
    cases hfp : f p <;> simp [hfp] <;> rfl

lemma exists_of_decodeProperties {ps : List StyleProperty}
    {declared : List (StyleProperty × StyleValue)} (h : decodeProperties fs ps = .ok declared) :
    ∀ p ∈ ps, ∃ v, optional fs p.name p.kind.decode = .ok v := by
  induction ps generalizing declared with
  | nil => simp
  | cons p ps ih =>
    obtain ⟨g, rest, hfirst, hrest, -⟩ := Decoded.seq_eq_ok.1 h
    obtain ⟨v, hv, -⟩ := Decoded.map_eq_ok.1 hfirst
    exact List.forall_mem_cons.2 ⟨⟨v, hv⟩, ih hrest⟩

/-- A style that is read has the values that are read for its properties. -/
lemma exists_of_ofFields_eq_ok {s : NodeStyle} (h : ofFields fs = .ok s) :
    ∃ f, s = ofFunction f ∧ ∀ p : StyleProperty, optional fs p.name p.kind.decode = .ok (f p) := by
  obtain ⟨declared, hdeclared, rfl⟩ := Decoded.map_eq_ok.1 (eq_ok_of_closed h)
  choose f hf using fun p => exists_of_decodeProperties hdeclared p p.mem_all
  refine ⟨f, ?_, hf⟩
  rw [decodeProperties_eq_ok fun p _ => hf p] at hdeclared
  rw [ofFunction, Decoded.ok.inj hdeclared]

/-- A style is read from its own fields when each of its values is. -/
lemma ofFields_toFields (h : ∀ p v, f p = some v → Restores p.kind.decode StyleValue.toJson v) :
    ofFields (ofFunction f).toFields = .ok (ofFunction f) := by
  have hrecord : decode (ofFunction f).toJson = .ok (ofFunction f) := by
    rw [decode, toJson, toFields_ofFunction]
    refine record_eq_ok (by simp)
      (List.forall_mem_map.2 fun p _ => p.lowLine_notMem_name) fun hspelled => ?_
    rw [decodeProperties_eq_ok fun p _ => optional_eq_ok hspelled (name_mem_names p)
      (by rw [get?_presentFields_properties, if_pos p.mem_all]) (h p)]
    rfl
  exact hrecord

theorem stable : Stable decode toJson := by
  intro v s h
  refine ⟨?_, by simp [toJson]⟩
  cases v with
  | obj fs =>
    obtain ⟨f, rfl, hf⟩ := exists_of_ofFields_eq_ok h
    refine ofFields_toFields fun p v hv => ?_
    obtain ⟨w, hw⟩ := exists_of_optional_eq_ok (hv ▸ hf p)
    exact p.kind.stable w v hw
  | _ => cases h

end NodeStyle

theorem ResponsiveStyle.stable (room : Nat) : Stable (decodeWithin room) toJson := by
  intro v r h
  refine ⟨?_, by simp [toJson]⟩
  cases v with
  | obj fs =>
    obtain ⟨g, mobile, hfirst, hmobile, rfl⟩ := Decoded.seq_eq_ok.1 (eq_ok_of_closed h)
    obtain ⟨tablet, htablet, rfl⟩ := Decoded.map_eq_ok.1 hfirst
    rw [decodeWithin, toJson]
    refine record_eq_ok rfl (by decide) fun hspelled => ?_
    rw [NodeStyle.stable.within.optional_eq_ok htablet hspelled (by simp) (by simp),
      NodeStyle.stable.within.optional_eq_ok hmobile hspelled (by simp) (by simp)]
    rfl
  | _ => cases h

/-! ### Nodes -/

namespace Element
variable {e : Element} {children : Option Json}

@[simp] lemma get?_toFields_id : (e.toFields children).get? "id" = some (.str e.id) := by
  simp [toFields]

@[simp] lemma get?_toFields_type : (e.toFields children).get? "type" = some (.str e.type) := by
  simp [toFields]

@[simp] lemma get?_toFields_props : (e.toFields children).get? "props" = some (.obj e.props) := by
  simp [toFields]

@[simp] lemma get?_toFields_children : (e.toFields children).get? "children" = children := by
  simp [toFields]

@[simp] lemma get?_toFields_style :
    (e.toFields children).get? "style" = e.style.map NodeStyle.toJson := by
  simp [toFields]

@[simp] lemma get?_toFields_responsive :
    (e.toFields children).get? "responsive" = e.responsive.map ResponsiveStyle.toJson := by
  simp [toFields]

@[simp] lemma get?_toFields_interactions :
    (e.toFields children).get? "interactions" = e.interactions.map Interactions.toJson := by
  simp [toFields]

@[simp] lemma get?_toFields_dataSource :
    (e.toFields children).get? "dataSource" = e.dataSource.map DataSource.toJson := by
  simp [toFields]

/-- The attributes of an element are what is read from the fields. -/
structure ReadFrom (room : Nat) (fs : Fields Json) (e : Element) : Prop where
  id : required fs "id" text = .ok e.id
  type : required fs "type" text = .ok e.type
  props : fieldOr fs "props" [] object = .ok e.props
  style : optional fs "style" (within room NodeStyle.decode) = .ok e.style
  responsive : optional fs "responsive" (ResponsiveStyle.decodeWithin room) = .ok e.responsive
  interactions : optional fs "interactions" Interactions.decode = .ok e.interactions
  dataSource : optional fs "dataSource" DataSource.decode = .ok e.dataSource

/-- The attributes that are read from some fields are read from those that are written for them. -/
lemma ReadFrom.toFields {room : Nat} {fs : Fields Json} (h : e.ReadFrom room fs)
    (children : Option Json) : e.ReadFrom room (e.toFields children) := by
  have hspelled : Spelled Node.fieldNames (e.toFields children) :=
    spelled_presentFields rfl (by decide)
  constructor
  case id => exact required_eq_ok (by simp) (restores_text _)
  case type => exact required_eq_ok (by simp) (restores_text _)
  case props => exact fieldOr_eq_ok (by simp) (restores_object _)
  case style => exact NodeStyle.stable.within.optional_eq_ok h.style hspelled (by decide) (by simp)
  case responsive =>
    exact (ResponsiveStyle.stable room).optional_eq_ok h.responsive hspelled (by decide) (by simp)
  case interactions => exact optional_eq_ok hspelled (by decide) (by simp) fun i _ => i.restores
  case dataSource => exact optional_eq_ok hspelled (by decide) (by simp) fun d _ => d.restores

end Element

namespace Node
variable {room : Nat} {fs : Fields Json} {n : Node} {children : Decoded (Option (List Node))}

/-- What is read from fields has its attributes from them and its children from their reading. -/
lemma of_ofFields_eq_ok (h : ofFields room fs children = .ok n) :
    n.head.ReadFrom room fs ∧ children = .ok n.children? := by
  obtain ⟨g₇, dataSource, h₇, hdataSource, rfl⟩ := Decoded.seq_eq_ok.1 (eq_ok_of_closed h)
  obtain ⟨g₆, interactions, h₆, hinteractions, rfl⟩ := Decoded.seq_eq_ok.1 h₇
  obtain ⟨g₅, responsive, h₅, hresponsive, rfl⟩ := Decoded.seq_eq_ok.1 h₆
  obtain ⟨g₄, style, h₄, hstyle, rfl⟩ := Decoded.seq_eq_ok.1 h₅
  obtain ⟨g₃, ns, h₃, hns, rfl⟩ := Decoded.seq_eq_ok.1 h₄
  obtain ⟨g₂, props, h₂, hprops, rfl⟩ := Decoded.seq_eq_ok.1 h₃
  obtain ⟨g₁, type, h₁, htype, rfl⟩ := Decoded.seq_eq_ok.1 h₂
  obtain ⟨id, hid, rfl⟩ := Decoded.map_eq_ok.1 h₁
  have hns := Decoded.under_eq_ok.1 hns
  cases ns with
  | none => exact ⟨⟨hid, htype, hprops, hstyle, hresponsive, hinteractions, hdataSource⟩, hns⟩
  | some cs => exact ⟨⟨hid, htype, hprops, hstyle, hresponsive, hinteractions, hdataSource⟩, hns⟩

lemma ofFields_eq_ok (hkeys : ∀ e ∈ fs, e.1 ∈ fieldNames) (h : n.head.ReadFrom room fs)
    (hchildren : children = .ok n.children?) : ofFields room fs children = .ok n := by
  rw [ofFields, closed_eq_self hkeys, h.id, h.type, h.props, h.style, h.responsive,
    h.interactions, h.dataSource, hchildren]
  cases n <;> rfl

lemma children_eq_getD (n : Node) : n.children = n.children?.getD [] := by
  cases n <;> rfl

lemma toJson_eq_obj (n : Node) :
    n.toJson = .obj (n.head.toFields (n.children?.map fun cs => .arr (cs.map Node.toJson))) := by
  cases n with
  | leaf e => rfl
  | branch e cs => rw [toJson, toJsonList_eq_map]; rfl

/-! ### Children -/

lemma exists_of_decodeItems {i : Nat} {xs : List Json} {ns : List Node}
    (h : decodeItems room i xs = .ok ns) :
    ∀ n ∈ ns, ∃ x ∈ xs, decodeWithin room x = .ok n := by
  induction xs generalizing i ns with
  | nil =>
    cases h
    simp
  | cons x xs ih =>
    obtain ⟨g, rest, hfirst, hrest, rfl⟩ := Decoded.seq_eq_ok.1 h
    obtain ⟨n, hn, rfl⟩ := Decoded.map_eq_ok.1 hfirst
    refine List.forall_mem_cons.2 ⟨⟨x, List.mem_cons_self, Decoded.under_eq_ok.1 hn⟩, ?_⟩
    exact fun m hm => (ih hrest m hm).imp fun _ hx => ⟨List.mem_cons_of_mem _ hx.1, hx.2⟩

/-- The children that are read are those among the fields. -/
lemma exists_of_decodeChildren {ns : Option (List Node)} (h : decodeChildren room fs = .ok ns) :
    ∀ n ∈ ns.getD [], ∃ c ∈ RawNode.children fs, decodeWithin room c = .ok n := by
  rw [RawNode.decodeChildren_eq] at h
  rw [RawNode.children]
  cases hchildren : Fields.get? fs "children" with
  | none =>
    simp only [hchildren] at h
    cases h
    simp
  | some v =>
    simp only [hchildren] at h
    cases v with
    | null =>
      cases h
      simp
    | arr cs =>
      obtain ⟨items, hitems, rfl⟩ := Decoded.map_eq_ok.1 h
      exact exists_of_decodeItems hitems
    | _ => cases h

lemma decodeItems_map_eq_ok {cs : List Node}
    (h : ∀ c ∈ cs, decodeWithin room c.toJson = .ok c) (i : Nat) :
    decodeItems room i (cs.map toJson) = .ok cs := by
  induction cs generalizing i with
  | nil => rfl
  | cons c cs ih =>
    obtain ⟨hc, hcs⟩ := List.forall_mem_cons.1 h
    rw [List.map_cons, decodeItems, hc, ih hcs]
    rfl

lemma decodeChildren_toFields_eq_ok (h : ∀ c ∈ n.children, decodeWithin room c.toJson = .ok c) :
    decodeChildren room (n.head.toFields (n.children?.map fun cs => .arr (cs.map toJson))) =
      .ok n.children? := by
  rw [RawNode.decodeChildren_eq, Element.get?_toFields_children]
  cases n with
  | leaf e => rfl
  | branch e cs =>
    exact Decoded.map_eq_ok.2 ⟨cs, decodeItems_map_eq_ok h 0, rfl⟩

/-- A node that is read is read again when its children are. -/
lemma decodeWithin_toJson_of_children {v : Json} (h : decodeWithin room v = .ok n)
    (hchildren : ∀ c ∈ n.children, ∀ w, decodeWithin (room - 1) w = .ok c →
      decodeWithin (room - 1) c.toJson = .ok c) :
    decodeWithin room n.toJson = .ok n := by
  cases v with
  | obj fs =>
    rw [decodeWithin] at h
    obtain ⟨hroom, hfields⟩ := of_within_eq_ok h
    obtain ⟨hhead, hns⟩ := of_ofFields_eq_ok hfields
    have hread : ∀ c ∈ n.children, decodeWithin (room - 1) c.toJson = .ok c := by
      intro c hc
      obtain ⟨w, -, hw⟩ := exists_of_decodeChildren hns c (children_eq_getD n ▸ hc)
      exact hchildren c hc w hw
    rw [toJson_eq_obj, decodeWithin, within, if_neg hroom]
    exact ofFields_eq_ok (fun _ he => fst_mem_of_mem_presentFields he) (hhead.toFields _)
      (decodeChildren_toFields_eq_ok hread)
  | _ =>
    simp only [decodeWithin] at h
    cases (of_within_eq_ok h).2

theorem stable (room : Nat) : Stable (decodeWithin room) toJson := by
  intro v n h
  refine ⟨?_, by simp [toJson_eq_obj]⟩
  induction n using Node.induction generalizing room v with
  | leaf e => exact decodeWithin_toJson_of_children h (by simp)
  | branch e cs ih => exact decodeWithin_toJson_of_children h fun c hc w hw => ih c hc _ w hw

theorem stable_inside : Stable decodeInside toJson := stable _

end Node

/-! ### Components -/

theorem ComponentDef.stable : Stable decode toJson := by
  intro v d h
  refine ⟨?_, by simp [toJson]⟩
  cases v with
  | obj fs =>
    obtain ⟨g₃, slots, h₃, -, rfl⟩ := Decoded.seq_eq_ok.1 (eq_ok_of_closed h)
    obtain ⟨g₂, tree, h₂, htree, rfl⟩ := Decoded.seq_eq_ok.1 h₃
    obtain ⟨g₁, name, h₁, -, rfl⟩ := Decoded.seq_eq_ok.1 h₂
    obtain ⟨id, -, rfl⟩ := Decoded.map_eq_ok.1 h₁
    have hslots : ∀ texts : List String,
        Restores (listOf text) (fun texts => .arr (texts.map .str)) texts := fun texts =>
      restores_list fun _ _ => rfl
    rw [decode, toJson]
    refine record_eq_ok rfl (by decide) fun hspelled => ?_
    rw [required_eq_ok (a := id) (by simp) (restores_text _),
      required_eq_ok (a := name) (by simp) (restores_text _),
      Node.stable_inside.required_eq_ok htree (by simp),
      optional_eq_ok (a := slots) hspelled (by simp) (by simp) fun texts _ => hslots texts]
    rfl
  | _ => cases h

lemma DescendantOverride.restores (d : DescendantOverride) : Restores decode toJson d := by
  refine ⟨?_, by simp [toJson]⟩
  rw [decode, toJson]
  refine record_eq_ok rfl (by decide) fun hspelled => ?_
  rw [optional_eq_ok (a := d.props) hspelled (by simp) (by simp) fun fs _ => restores_object fs,
    optional_eq_ok (a := d.style) hspelled (by simp) (by simp) fun fs _ => restores_object fs]
  rfl

namespace ReferenceProps

lemma stable_slotContent : Stable (dictOf (listOf Node.decodeInside))
    fun slots => .obj (slots.mapValues fun ns => .arr (ns.map Node.toJson)) :=
  Node.stable_inside.listOf.dictOf

theorem stable : Stable decode toJson := by
  intro v r h
  refine ⟨?_, by simp [toJson]⟩
  cases v with
  | obj fs =>
    obtain ⟨g₅, unresolved, h₅, -, rfl⟩ := Decoded.seq_eq_ok.1 h
    obtain ⟨g₄, slotContent, h₄, hslotContent, rfl⟩ := Decoded.seq_eq_ok.1 h₅
    obtain ⟨g₃, descendants, h₃, -, rfl⟩ := Decoded.seq_eq_ok.1 h₄
    obtain ⟨g₂, styleOverrides, h₂, -, rfl⟩ := Decoded.seq_eq_ok.1 h₃
    obtain ⟨g₁, overrides, h₁, -, rfl⟩ := Decoded.seq_eq_ok.1 h₂
    obtain ⟨ref, -, rfl⟩ := Decoded.map_eq_ok.1 h₁
    have hdescendants : Restores (dictOf DescendantOverride.decode)
        (fun ds => .obj (ds.mapValues DescendantOverride.toJson)) descendants :=
      restores_dict fun e _ => e.2.restores.read
    have hspelled : ∀ {gs}, Spelled ["unresolved"] gs := spelled_of_snakeName (by decide)
    rw [decode, toJson, record, ofFields, required_eq_ok (a := ref) (by simp) (restores_text _),
      fieldOr_eq_ok (a := overrides) (by simp) (restores_object _),
      fieldOr_eq_ok (a := styleOverrides) (by simp) (restores_object _),
      fieldOr_eq_ok (a := descendants) (by simp) hdescendants,
      stable_slotContent.fieldOr_eq_ok (restores_dict (by simp)) hslotContent (by simp),
      optional_eq_ok (a := unresolved) hspelled (by simp) (by simp) fun s _ => restores_text s]
    rfl
  | _ => cases h

end ReferenceProps

end Screenwright
