import Mathlib.Data.List.Basic
import Screenwright.Proofs.Validation.Nodes

/-! The node schema accepts exactly the trees of its grammar, as long as it may pass through enough
schemas at each place. -/
namespace Screenwright
open Decode Schema

lemma BuiltinType.mem_all (t : BuiltinType) : t ∈ BuiltinType.all := by
  cases t <;> decide

namespace ScreenSchema
variable {defs : List (String × Schema)} {fuel : Nat} {fs : Fields Json} {v : Json}

lemma lookup_node : definitions.lookup "node" = some node := rfl

lemma lookup_props (t : BuiltinType) :
    definitions.lookup (propsName t) = some (props (PropTable.allowed t)) := by
  cases t <;> rfl

lemma accepts_inkText :
    Accepts defs (fuel + 2) inkText v ↔ ∃ s, v = .str s ∧ Text.hasInk s = true := by
  rw [inkText, accepts_rules, List.forall_mem_cons, List.forall_mem_singleton, holds_typed,
    SchemaType.admits_string]
  constructor
  · rintro ⟨⟨s, rfl⟩, hmatch⟩
    exact ⟨s, rfl, by simpa [matchesPattern] using hmatch⟩
  · rintro ⟨s, rfl, hink⟩
    exact ⟨⟨s, rfl⟩, by simpa [matchesPattern] using hink⟩

/-- The rule of a type binds the nodes of that type. -/
lemma accepts_typeRule (type : String) (consequence : List Rule) :
    Accepts defs (fuel + 5) (typeRule type consequence) (.obj fs) ↔
      (RawNode.tag? fs = some type → Accepts defs (fuel + 4) (.rules consequence) (.obj fs)) := by
  have htest : Accepts defs (fuel + 4) (.rules [.properties [("type", .rules [.const (.str type)])],
      .required ["type"]]) (.obj fs) ↔ RawNode.tag? fs = some type := by
    rw [accepts_rules]
    cases htag : Fields.get? fs "type" with
    | none => simp [RawNode.tag?, Fields.has, htag]
    | some w => cases w <;> simp [accepts_rules, RawNode.tag?, Fields.has, htag, Json.asString?]
  rw [typeRule, accepts_rules]
  simp [htest, consequence?]

/-- The rule of a built-in type binds the props of its nodes to the table of the type. -/
lemma accepts_builtinRule (t : BuiltinType) (hkeys : (Json.obj fs).hasDistinctKeys = true)
    (hprops : MayBeObject (Fields.get? fs "props")) :
    Accepts definitions (fuel + 6) (builtinRule t) (.obj fs) ↔
      (RawNode.tag? fs = some t.name → ∀ ps, Fields.get? fs "props" = some (.obj ps) →
        (PropTable.allowed t).Admits ps) := by
  rw [builtinRule, accepts_typeRule, accepts_rules, List.forall_mem_singleton]
  simp only [holds_properties, List.forall_mem_singleton, Json.obj.injEq, forall_eq']
  refine imp_congr_right fun _ => ?_
  have htable : ∀ ps, Fields.get? fs "props" = some (.obj ps) →
      (Accepts definitions (fuel + 4) (.rules [.ref (propsName t)]) (.obj ps) ↔
        (PropTable.allowed t).Admits ps) := by
    intro ps hps
    rw [accepts_ref (lookup_props t)]
    refine PropTable.accepts_props (PropTable.nodup_keys_allowed t)
      (PropTable.isPlain_of_mem_allowed t) ?_
    exact (Json.hasDistinctKeys_obj.1 (Json.hasDistinctKeys_of_get? hkeys hps)).1
  constructor
  · intro h ps hps
    exact (htable ps hps).1 (h _ hps)
  · intro h w hw
    obtain ⟨ps, rfl⟩ := hprops w hw
    exact (htable ps hw).2 (h ps hw)

/-- The rule of references binds their props. -/
lemma accepts_referenceRule :
    Accepts definitions (fuel + 10) referenceRule (.obj fs) ↔
      (RawNode.tag? fs = some referenceType → ∃ ps, Fields.get? fs "props" = some (.obj ps) ∧
        ReferenceProps.Conforms ps ∧
          ∀ c ∈ ReferenceProps.slotItems ps, Accepts definitions (fuel + 4) node c) := by
  have hrule : referenceRule = typeRule referenceType
    [.required ["props"], .properties [("props", ReferenceProps.schema)]] := rfl
  rw [hrule, accepts_typeRule, accepts_rules]
  refine imp_congr_right fun _ => ?_
  cases hprops : Fields.get? fs "props" with
  | none => simp [Fields.has, hprops]
  | some w => simp [Fields.has, hprops, ReferenceProps.accepts_schema lookup_node]

/-- What the schema of nodes asks of the fields of a node, rule by rule. -/
lemma accepts_node_iff :
    Accepts definitions (fuel + 11) node (.obj fs) ↔
      ((fs.has "id" = true ∧ fs.has "type" = true) ∧
        (∀ w, fs.get? "id" = some w → ∃ s, w = .str s ∧ Text.hasInk s = true) ∧
        (∀ w, fs.get? "type" = some w → ∃ s, w = .str s ∧ Text.hasInk s = true) ∧
        MayBeObject (fs.get? "props") ∧
        (∀ w, fs.get? "children" = some w →
          ∃ items, w = .arr items ∧ ∀ c ∈ items, Accepts definitions (fuel + 8) node c) ∧
        (∀ w, fs.get? "style" = some w → NodeStyle.Conforms w) ∧
        (∀ w, fs.get? "responsive" = some w → ResponsiveStyle.Conforms w) ∧
        (∀ w, fs.get? "interactions" = some w → Interactions.Conforms w) ∧
        (∀ w, fs.get? "dataSource" = some w → Reads DataSource.decode w)) ∧
      (∀ e ∈ fs, e.1 ∈ Node.fieldNames) ∧
      (∀ t, Accepts definitions (fuel + 10) (builtinRule t) (.obj fs)) ∧
      Accepts definitions (fuel + 10) referenceRule (.obj fs) := by
  have hobject : ∀ w, Accepts definitions (fuel + 10) (ofType .object) w ↔ ∃ gs, w = .obj gs :=
    fun w => by rw [accepts_ofType, SchemaType.admits_object]
  have hlist : ∀ w, Accepts definitions (fuel + 10) nodeList w ↔
      ∃ items, w = .arr items ∧ ∀ c ∈ items, Accepts definitions (fuel + 8) node c :=
    fun w => ReferenceProps.accepts_nodeList lookup_node
  have hstyle : ∀ w, Accepts definitions (fuel + 10) (.rules [.ref "NodeStyle"]) w ↔
      NodeStyle.Conforms w :=
    fun w => (accepts_ref rfl).trans NodeStyle.accepts_nodeStyle
  have hresponsive : ∀ w, Accepts definitions (fuel + 10) (.rules [.ref "ResponsiveStyle"]) w ↔
      ResponsiveStyle.Conforms w :=
    fun w => (accepts_ref rfl).trans ResponsiveStyle.accepts_responsiveStyle
  have hinteractions : ∀ w, Accepts definitions (fuel + 10) (.rules [.ref "Interactions"]) w ↔
      Interactions.Conforms w :=
    fun w => (accepts_ref rfl).trans Interactions.accepts_interactions
  have hdata : ∀ w, Accepts definitions (fuel + 10) (.rules [.ref "DataSource"]) w ↔
      Reads DataSource.decode w :=
    fun w => (accepts_ref rfl).trans accepts_dataSource
  have hobjectType : SchemaType.object.admits (.obj fs) = true := rfl
  nth_rewrite 1 [node]
  rw [accepts_rules]
  simp only [List.forall_mem_cons, List.not_mem_nil, false_implies, implies_true, and_true,
    List.forall_mem_append, List.forall_mem_map, holds_typed, holds_required, holds_properties,
    holds_noOthers, holds_allOf, Json.obj.injEq, forall_eq', accepts_inkText, hobject, hlist,
    hstyle, hresponsive, hinteractions, hdata, hobjectType, true_and, MayBeObject, and_assoc,
    BuiltinType.mem_all, forall_true_left]
  rfl

/-- The schema of nodes accepts a node that conforms, with such nodes below and in its slots. -/
theorem accepts_node_obj (hkeys : (Json.obj fs).hasDistinctKeys = true) :
    Accepts definitions (fuel + 11) node (.obj fs) ↔ RawNode.Conforms fs ∧
      (∀ c ∈ RawNode.children fs, Accepts definitions (fuel + 8) node c) ∧
        ∀ c ∈ RawNode.slotItems fs, Accepts definitions (fuel + 4) node c := by
  have hink : ∀ key, (fs.has key = true ∧ ∀ w, fs.get? key = some w →
      ∃ s, w = .str s ∧ Text.hasInk s = true) ↔ Walk.isInkText (fs.get? key) = true := by
    intro key
    rw [Fields.has]
    cases fs.get? key with
    | none => simp [Walk.isInkText]
    | some w => cases w <;> simp [Walk.isInkText]
  rw [accepts_node_iff, accepts_referenceRule, RawNode.children_iff, RawNode.slots_iff]
  constructor
  · rintro ⟨⟨⟨hid, htype⟩, hidText, htypeText, hprops, ⟨hlist, hchildren⟩, hs, hr, hi, hd⟩, hknown,
      htable, href, hslots⟩
    have hallowed := fun t => (accepts_builtinRule t hkeys hprops).1 (htable t)
    exact ⟨⟨⟨hknown, (hink "id").1 ⟨hid, hidText⟩, (hink "type").1 ⟨htype, htypeText⟩, hprops,
      hlist, hd⟩, hallowed, href, hs, hr, hi⟩, hchildren, hslots⟩
  · rintro ⟨⟨⟨hknown, hid, htype, hprops, hlist, hd⟩, hallowed, href, hs, hr, hi⟩, hchildren,
      hslots⟩
    obtain ⟨hid, hidText⟩ := (hink "id").2 hid
    obtain ⟨htype, htypeText⟩ := (hink "type").2 htype
    have htable : ∀ t, Accepts definitions (fuel + 10) (builtinRule t) (.obj fs) :=
      fun t => (accepts_builtinRule t hkeys hprops).2 (hallowed t)
    exact ⟨⟨⟨hid, htype⟩, hidText, htypeText, hprops, ⟨hlist, hchildren⟩, hs, hr, hi, hd⟩, hknown,
      htable, href, hslots⟩

lemma object_of_accepts_node (h : Accepts definitions (fuel + 2) node v) : ∃ fs, v = .obj fs := by
  rw [node, accepts_rules] at h
  exact SchemaType.admits_object.1 (holds_typed.1 (h _ List.mem_cons_self))

/-- With enough schemas to pass through, the schema of nodes accepts exactly the admitted trees. -/
theorem accepts_node {v : Json} {fuel : Nat} (hkeys : v.hasDistinctKeys = true)
    (hfuel : stepsPerPlace * depth v ≤ fuel) : Accepts definitions fuel node v ↔ Admitted v := by
  induction hn : depth v using Nat.strongRecOn generalizing v fuel with
  | ind n ih =>
    subst hn
    have hpos : 1 ≤ depth v := by cases v <;> simp [depth]
    obtain ⟨k, rfl⟩ : ∃ k, fuel = k + 11 := ⟨fuel - 11, by rw [stepsPerPlace] at hfuel; omega⟩
    cases v with
    | obj fs =>
      rw [stepsPerPlace] at hfuel
      have hchildren : ∀ c ∈ RawNode.children fs,
          (Accepts definitions (k + 8) node c ↔ Admitted c) := by
        intro c hc
        have hdepth := RawNode.depth_lt_of_mem_children hc
        exact ih _ hdepth (RawNode.hasDistinctKeys_of_mem_children hkeys hc)
          (by rw [stepsPerPlace]; omega) rfl
      have hslots : ∀ c ∈ RawNode.slotItems fs,
          (Accepts definitions (k + 4) node c ↔ Admitted c) := by
        intro c hc
        have hdepth := RawNode.depth_lt_of_mem_slotItems hc
        exact ih _ hdepth (RawNode.hasDistinctKeys_of_mem_slotItems hkeys hc)
          (by rw [stepsPerPlace]; omega) rfl
      rw [accepts_node_obj hkeys, admitted_obj, forall₂_congr hchildren, forall₂_congr hslots]
    | _ =>
      refine iff_of_false (fun h => ?_) (by rintro ⟨⟩)
      obtain ⟨fs, hfs⟩ := object_of_accepts_node h
      cases hfs

end ScreenSchema
end Screenwright
