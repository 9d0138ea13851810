import Screenwright.Proofs.Document.Trail
import Screenwright.Proofs.Editor.Endings
import Screenwright.Proofs.Reference.Overlays

/-! Updates: what stands under each key of a node's props and style after fields have been laid over
them and the unset ones left out. -/
namespace Screenwright

/-- Whether a value is one that leaves a field out, null or the empty text. -/
def Json.isUnset : Json → Bool
  | .null => true
  | .str s => s == ""
  | _ => false

namespace Editor
open Decode NodeStyle
variable {below above fs : Fields Json} {k : String} {v : Json} {style after : Option NodeStyle}
  {p : StyleProperty}

/-! ### Fields -/

/-- Fields that have been laid over others: what they set is set, what they unset is absent, and
under other keys is what was there before unless it was unset itself. -/
structure LaidOver (below above after : Fields Json) : Prop where
  named : ∀ k v, above.get? k = some v → after.get? k = if v.isUnset then none else some v
  kept : ∀ k ∉ above.keys, after.get? k = (below.get? k).filter (!·.isUnset)

lemma withoutEmpty_eq (fs : Fields Json) : withoutEmpty fs = fs.filter (!·.2.isUnset) := by
  refine List.filter_congr fun e _ => ?_
  obtain ⟨k, v⟩ := e
  cases v <;> rfl

lemma get?_withoutEmpty (h : fs.keys.Nodup) (k : String) :
    (withoutEmpty fs).get? k = (fs.get? k).filter (!·.isUnset) := by
  rw [withoutEmpty_eq]
  induction fs with
  | nil => rfl
  | cons e fs ih =>
    obtain ⟨k', v⟩ := e
    obtain ⟨hnot, hrest⟩ := List.nodup_cons.1 h
    rw [Fields.get?_cons]
    cases hv : v.isUnset with
    | true =>
      rw [List.filter_cons_of_neg (by simp [hv]), ih hrest]
      by_cases hk : k = k'
      · rw [if_pos hk, hk, Fields.get?_eq_none hnot]
        simp [Option.filter, hv]
      · rw [if_neg hk]
    | false =>
      rw [List.filter_cons_of_pos (by simp [hv]), Fields.get?_cons, ih hrest]
      by_cases hk : k = k' <;> simp [hk, Option.filter, hv]

/-- What is under a key of fields laid over others. -/
lemma get?_changed (hbelow : below.keys.Nodup) (habove : above.keys.Nodup) (k : String) :
    (withoutEmpty (Fields.merge below above)).get? k =
      ((above.get? k).or (below.get? k)).filter (!·.isUnset) := by
  rw [get?_withoutEmpty (Fields.nodup_keys_merge hbelow)]
  cases hget : above.get? k with
  | some v => rw [Fields.get?_merge_of_get? habove hget, Option.some_or]
  | none => rw [Fields.get?_merge_of_notMem (Fields.notMem_keys hget), Option.none_or]

theorem laidOver_withoutEmpty (hbelow : below.keys.Nodup) (habove : above.keys.Nodup) :
    LaidOver below above (withoutEmpty (Fields.merge below above)) where
  named k v hget := by
    rw [get?_changed hbelow habove, hget, Option.some_or]
    cases hv : v.isUnset <;> simp [Option.filter, hv]
  kept k hk := by rw [get?_changed hbelow habove, Fields.get?_eq_none hk, Option.none_or]

/-! ### Styles -/

/-- What fields set a property to, under its name or else under the second spelling. -/
def setTo (above : Fields Json) (p : StyleProperty) : Option Json :=
  (withoutEmpty above).get? (keyOf (withoutEmpty above) p.name)

/-- A style over which fields have been laid: a property has the value that is read from what the
fields set it to, none if they unset it, and else what it had before unless that is the empty
text. -/
structure StyleLaidOver (below : Option NodeStyle) (above : Fields Json)
    (after : Option NodeStyle) : Prop where
  named : ∀ p v, setTo above p = some v →
    ∃ value, p.kind.decode v = .ok value ∧ valueIn after p = some value
  unset : ∀ p, setTo above p = none → p.name ∈ above.keys → valueIn after p = none
  kept : ∀ p, setTo above p = none → p.name ∉ above.keys →
    valueIn after p = (valueIn below p).filter (· != .text "")

lemma get?_of_setTo (h : setTo above p = none) :
    (withoutEmpty above).get? p.name = none ∧
      (withoutEmpty above).get? (snakeName p.name) = none := by
  rw [setTo, keyOf] at h
  split_ifs at h with hhas
  · rw [Fields.has, h] at hhas
    cases hhas
  · exact ⟨Option.not_isSome_iff_eq_none.1 hhas, h⟩

/-- What is read from a style's fields under others. -/
lemma optional_of_changedStyle {m : Fields Json} (h : changedStyle style above = .ok after)
    (hm : withoutEmpty (Fields.merge ((style.map NodeStyle.toFields).getD []) above) = m) :
    (∀ e ∈ m, ∃ name ∈ StyleProperty.all.map StyleProperty.name, keyOf m name = e.1) ∧
      ∀ p : StyleProperty, optional m p.name p.kind.decode = .ok (valueIn after p) := by
  rw [changedStyle, hm] at h
  cases m with
  | nil =>
    cases h
    exact ⟨by simp, fun _ => rfl⟩
  | cons e m =>
    obtain ⟨s, hs, rfl⟩ := Decoded.map_eq_ok.1 h
    obtain ⟨f, rfl, hf⟩ := NodeStyle.exists_of_ofFields_eq_ok hs
    refine ⟨(faults_closed_eq_nil.1 (by rw [← ofFields, hs, Decoded.faults_ok])).2, fun p => ?_⟩
    rw [hf, valueIn, Option.bind_some, get?_ofFunction]

section
variable {declared : Fields Json} {g : StyleProperty → Option StyleValue}
  (hdeclared : declared =
    presentFields (StyleProperty.all.map fun p => (p.name, (g p).map StyleValue.toJson)))
  (habove : above.keys.Nodup)
include hdeclared

lemma nodup_keys_declared : declared.keys.Nodup := by
  rw [hdeclared]
  apply nodup_keys_presentFields
  rw [List.map_map]
  have hall : StyleProperty.all.Nodup := by decide
  exact hall.map StyleProperty.name_injective

include habove

/-- What fields set a property to is under its key in the result. -/
lemma get?_keyOf_of_setTo (hset : setTo above p = some v)
    (hkeys : ∀ e ∈ withoutEmpty (Fields.merge declared above),
      ∃ name ∈ StyleProperty.all.map StyleProperty.name,
        keyOf (withoutEmpty (Fields.merge declared above)) name = e.1) :
    v.isUnset = false ∧ (withoutEmpty (Fields.merge declared above)).get?
      (keyOf (withoutEmpty (Fields.merge declared above)) p.name) = some v := by
  rw [setTo, get?_withoutEmpty habove, Option.filter_eq_some_iff] at hset
  have hchanged : (withoutEmpty (Fields.merge declared above)).get?
      (keyOf (withoutEmpty above) p.name) = some v := by
    rw [get?_changed (nodup_keys_declared hdeclared) habove, hset.1, Option.some_or]
    exact Option.filter_eq_some_iff.2 ⟨rfl, hset.2⟩
  rw [keyOf_eq_keyOf hkeys hchanged]
  exact ⟨by simpa using hset.2, hchanged⟩

/-- Of a property that fields do not set, the result has what was declared, unless they unset it. -/
lemma get?_name_of_setTo (hset : setTo above p = none) :
    (withoutEmpty (Fields.merge declared above)).get? p.name =
      (if p.name ∈ above.keys then none else (g p).filter (· != .text "")).map
        StyleValue.toJson := by
  have hown := (get?_of_setTo hset).1
  rw [get?_withoutEmpty habove] at hown
  rw [get?_changed (nodup_keys_declared hdeclared) habove]
  split_ifs with hnamed
  · obtain ⟨v, hv⟩ := Option.ne_none_iff_exists'.1 fun hnone => Fields.notMem_keys hnone hnamed
    rw [hv] at hown ⊢
    exact hown
  · have hunset : (fun v : Json => !v.isUnset) ∘ StyleValue.toJson = (· != .text "") := by
      funext value
      cases value <;> simp [StyleValue.toJson, Json.isUnset, bne]
    rw [Fields.get?_eq_none hnamed, Option.none_or, get?_declared hdeclared, Option.filter_map,
      hunset]

/-- A property that fields do not set does not stand under its second spelling in the result. -/
lemma spelled_of_setTo (hset : setTo above p = none) :
    Spelled [p.name] (withoutEmpty (Fields.merge declared above)) := by
  refine spelled_of_get?_snakeName fun hsnake => ?_
  rw [get?_changed (nodup_keys_declared hdeclared) habove,
    get?_declared_snakeName hdeclared hsnake, Option.or_none, ← get?_withoutEmpty habove,
    (get?_of_setTo hset).2]

end

/-- Fields that are read as a style over the fields of another one have been laid over it. -/
theorem styleLaidOver_of_changedStyle (hread : ∀ s, style = some s → s.IsRead)
    (habove : above.keys.Nodup) (h : changedStyle style above = .ok after) :
    StyleLaidOver style above after := by
  obtain ⟨g, hvalues, hg, hdeclared⟩ := exists_values style hread
  obtain ⟨hkeys, hoptional⟩ := optional_of_changedStyle h rfl
  have hrest : ∀ p, setTo above p = none → valueIn after p =
      if p.name ∈ above.keys then none else (g p).filter (· != .text "") := by
    intro p hset
    refine (Decoded.ok.inj ((hoptional p).symm.trans ?_))
    refine optional_eq_ok (spelled_of_setTo hdeclared habove hset) (by simp)
      (get?_name_of_setTo hdeclared habove hset) fun value hvalue => hg p value ?_
    split_ifs at hvalue
    exact (Option.filter_eq_some_iff.1 hvalue).1
  constructor
  case named =>
    intro p v hset
    obtain ⟨hv, hget⟩ := get?_keyOf_of_setTo hdeclared habove hset hkeys
    have hp := hoptional p
    rw [Decode.optional, fieldOr, hget] at hp
    have hnull : v ≠ .null := by
      rintro rfl
      cases hv
    have hnullable := Decoded.under_eq_ok.1 hp
    rw [nullable_of_ne_null hnull] at hnullable
    obtain ⟨value, hvalue, hafter⟩ := Decoded.map_eq_ok.1 hnullable
    exact ⟨value, hvalue, hafter.symm⟩
  case unset =>
    intro p hset hnamed
    rw [hrest p hset, if_pos hnamed]
  case kept =>
    intro p hset hnamed
    rw [hrest p hset, if_neg hnamed, hvalues]

/-! ### Updates of a node -/

lemma updateStyle_of_changedStyle {ed : Editor} {id : String} {n : Node}
    (hnode : ed.tree.find? id = some n) (hunlocked : ed.isLocked id = false)
    (h : changedStyle n.head.style fs = .ok after) : ed.updateStyle id fs =
      (ed.edit (Node.updateFirst id (Node.mapHead fun e => { e with style := after }))).apply := by
  rw [updateStyle, if_neg (by simp [hunlocked]), find?, hnode]
  simp only [h]

/-- An update lays its fields over the props or the style of the first node of the id; nothing else
of that node and no other node is changed. Props can always be updated, and a style where a style is
read from what the update makes of it. -/
theorem updates_laidOver (ed : Editor) (id : String) {n : Node} (fs : Fields Json)
    (hnode : ed.tree.find? id = some n) (hunlocked : ed.isLocked id = false)
    (hfs : fs.keys.Nodup) (hprops : n.head.props.keys.Nodup)
    (hread : ∀ s, n.head.style = some s → s.IsRead) :
    ∃ t : Trail, ed.tree = t.plug n ∧
      ((ed.updateProps id fs).2 = .applied ∧ ∃ props,
        (ed.updateProps id fs).1.tree = t.plug (n.mapHead fun e => { e with props := props }) ∧
          LaidOver n.head.props fs props) ∧
      ((ed.updateStyle id fs).2 = .applied ↔ ∃ style, changedStyle n.head.style fs = .ok style) ∧
      ((ed.updateStyle id fs).2 = .applied → ∃ style,
        (ed.updateStyle id fs).1.tree = t.plug (n.mapHead fun e => { e with style := style }) ∧
          StyleLaidOver n.head.style fs style) := by
  obtain ⟨t, htree, hupdate⟩ := Node.exists_trail_of_find? hnode
  have hstyle : (ed.updateStyle id fs).2 = .applied →
      ∃ style, changedStyle n.head.style fs = .ok style := by
    intro h
    rcases ed.updateStyle_cases id fs with ⟨r, heq⟩ | ⟨node, style, -, hnode', hstyle, -⟩
    · rw [heq] at h
      cases h
    · obtain rfl : n = node := Option.some.inj (hnode.symm.trans hnode')
      exact ⟨style, hstyle⟩
  refine ⟨t, htree, ?_, ⟨hstyle, fun ⟨style, h⟩ => ?_⟩, fun happlied => ?_⟩
  · have hpresent : ed.tree.hasId id = true := Option.isSome_iff_exists.2 ⟨n, hnode⟩
    have happlied : ed.updateProps id fs =
        (ed.edit (Node.updateFirst id (Node.mapHead fun e =>
          { e with props := withoutEmpty (Fields.merge e.props fs) }))).apply := by
      rw [updateProps, if_neg (by simp [hunlocked]), if_neg (by simp [hpresent])]
    rw [happlied]
    refine ⟨rfl, _, ?_, laidOver_withoutEmpty hprops hfs⟩
    change ed.tree.updateFirst id _ = _
    rw [hupdate]
    cases n <;> rfl
  · rw [updateStyle_of_changedStyle hnode hunlocked h]
    rfl
  · obtain ⟨style, h⟩ := hstyle happlied
    refine ⟨style, ?_, styleLaidOver_of_changedStyle hread hfs h⟩
    rw [updateStyle_of_changedStyle hnode hunlocked h]
    exact hupdate _

/-- An image without a text for it, in a style of which one field is empty. -/
def gallery : Editor where
  spec :=
    { route := "/"
      tree := .leaf
        { id := "hero"
          type := "Image"
          props := [("src", .str "a.png"), ("alt", .str "")]
          style := some ⟨[(.color, .text ""), (.width, .int 16)]⟩ } }
  history := .empty 1

/-- The image of a gallery gets another source and width, and loses what was empty. -/
theorem updates_laidOver_gallery :
    (∃ props, (gallery.updateProps "hero" [("src", .str "b.png")]).1.tree =
      gallery.tree.mapHead (fun e => { e with props := props }) ∧
        props.get? "src" = some (.str "b.png") ∧ props.get? "alt" = none) ∧
    ∃ style, (gallery.updateStyle "hero" [("width", .int 20)]).1.tree =
      gallery.tree.mapHead (fun e => { e with style := style }) ∧
        valueIn style .width = some (.int 20) ∧ valueIn style .color = none := by
  have hnode : gallery.tree.find? "hero" = some gallery.tree := rfl
  have hprops : gallery.tree.head.props.keys.Nodup := by decide
  have hread : ∀ s, gallery.tree.head.style = some s → s.IsRead := by
    rintro _ ⟨rfl⟩
    refine NodeStyle.isRead_of_restores rfl fun e he => ?_
    fin_cases he <;> exact ⟨rfl, nofun⟩
  have htrail : ∀ t : Trail, gallery.tree = t.plug gallery.tree → t = [] := by
    intro t ht
    cases t with
    | nil => rfl
    | cons turn t => cases ht
  constructor
  · obtain ⟨t, htree, ⟨-, props, hafter, hlaid⟩, -⟩ :=
      updates_laidOver gallery "hero" [("src", .str "b.png")] hnode rfl (by decide) hprops hread
    rw [htrail t htree] at hafter
    exact ⟨props, hafter, hlaid.named "src" _ rfl, hlaid.kept "alt" (by decide)⟩
  · obtain ⟨t, htree, -, -, hstyle⟩ :=
      updates_laidOver gallery "hero" [("width", .int 20)] hnode rfl (by decide) hprops hread
    obtain ⟨style, hafter, hlaid⟩ := hstyle rfl
    rw [htrail t htree] at hafter
    obtain ⟨value, hvalue, hwidth⟩ := hlaid.named .width (.int 20) rfl
    cases hvalue
    exact ⟨style, hafter, hwidth, hlaid.kept .color rfl (by decide)⟩

end Editor
end Screenwright
