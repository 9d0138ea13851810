import Mathlib
import Screenwright.Proofs.Document.Restoring
import Screenwright.Proofs.Record.Merging
import Screenwright.Reference.Expansion

/-! Styles under fields: each property is as the fields say, or as it was. -/
namespace Screenwright
open Decode

namespace NodeStyle
variable {s : NodeStyle} {p : StyleProperty}

/-- A style that has been read from fields. -/
def IsRead (s : NodeStyle) : Prop := ∃ fs, ofFields fs = .ok s

/-- What fields say of a property: nothing, or that it is unset, or its value. Of two fields with
one key the later counts. -/
def said (fs : Fields Json) (p : StyleProperty) : Decoded (Option (Option StyleValue)) :=
  fieldOr (Fields.ofEntries fs) p.name none fun v => some <$> nullable p.kind.decode v

lemma said_nil (p : StyleProperty) : said [] p = .ok none := rfl

/-! ### Names of properties -/

lemma toLower_inj {c d : Char} (hc : c.isUpper = true) (hd : d.isUpper = true)
    (h : c.toLower = d.toLower) : c = d := by
  have hback : ∀ {c : Char}, c.isUpper = true → c.toLower.toUpper = c := fun hc => by
    rw [Char.toUpper_toLower_eq_toUpper]
    exact Char.toUpper_eq_of_not_isLower (Char.not_isLower_of_isUpper hc)
  rw [← hback hc, h, hback hd]

/-- A name without low lines is told by its second spelling. -/
lemma eq_of_snakeName_eq {a b : String} (ha : '_' ∉ a.toList) (hb : '_' ∉ b.toList)
    (h : snakeName a = snakeName b) : a = b := by
  have hchars : ∀ cs ds : List Char, '_' ∉ cs → '_' ∉ ds →
      (cs.flatMap fun c => if c.isUpper then ['_', c.toLower] else [c]) =
        (ds.flatMap fun c => if c.isUpper then ['_', c.toLower] else [c]) → cs = ds := by
    intro cs
    induction cs with
    | nil =>
      intro ds _ _ heq
      cases ds with
      | nil => rfl
      | cons d ds => cases hd : d.isUpper <;> simp [hd] at heq
    | cons c cs ih =>
      intro ds hcs hds heq
      cases ds with
      | nil => cases hc : c.isUpper <;> simp [hc] at heq
      | cons d ds =>
        rw [List.mem_cons, not_or] at hcs hds
        cases hc : c.isUpper <;> cases hd : d.isUpper <;>
          simp only [List.flatMap_cons, hc, hd, if_true, Bool.false_eq_true, if_false,
            List.cons_append, List.nil_append, List.cons.injEq, true_and] at heq
        · rw [heq.1, ih ds hcs.2 hds.2 heq.2]
        · exact absurd heq.1.symm hcs.1
        · exact absurd heq.1 hds.1
        · rw [toLower_inj hc hd heq.1, ih ds hcs.2 hds.2 heq.2]
  exact String.toList_inj.1 (hchars _ _ ha hb (String.ofList_inj.1 h))

lemma snakeName_injective : Function.Injective fun p : StyleProperty => snakeName p.name :=
  fun p q h => StyleProperty.name_injective
    (eq_of_snakeName_eq p.lowLine_notMem_name q.lowLine_notMem_name h)

/-- No property has for its name the second spelling of another. -/
lemma snakeName_ne_name (q : StyleProperty) (h : snakeName p.name ≠ p.name) :
    snakeName p.name ≠ q.name := by
  intro hq
  have hlow := (snakeName_eq_self_or p.name).resolve_left h
  rw [hq] at hlow
  exact q.lowLine_notMem_name hlow

/-! ### Values by property -/

lemma get?_ofFunction (f : StyleProperty → Option StyleValue) (p : StyleProperty) :
    (ofFunction f).get? p = f p := by
  have hlookup : ∀ ps : List StyleProperty,
      (ps.filterMap fun q => (f q).map (q, ·)).lookup p = if p ∈ ps then f p else none := by
    intro ps
    induction ps with
    | nil => rfl
    | cons q ps ih =>
      by_cases hp : p = q
      · subst hp
        cases hf : f p <;> simp [hf, ih]
      · cases hf : f q <;> simp [hf, ih, hp, List.lookup_cons, beq_eq_false_iff_ne.2 hp]
  rw [get?, ofFunction, hlookup, if_pos p.mem_all]

/-- A style whose properties stand in their order, with values that are read again, is one that has
been read. -/
lemma isRead_of_restores (horder : ofFunction s.get? = s)
    (h : ∀ e ∈ s.declared, Restores e.1.kind.decode StyleValue.toJson e.2) : s.IsRead := by
  refine ⟨(ofFunction s.get?).toFields, ?_⟩
  rw [ofFields_toFields fun p v hv => ?_, horder]
  obtain ⟨front, back, hdeclared, -⟩ := List.lookup_eq_some_iff.1 hv
  exact h (p, v) (hdeclared ▸ List.mem_append_cons_self)

/-- The value of a property in the style of a node, if the node has a style. -/
def valueIn (style : Option NodeStyle) (p : StyleProperty) : Option StyleValue :=
  style.bind (·.get? p)

/-- The declared fields of a style that has been read: one for each property that has a value, from
which that value is read again. -/
lemma exists_values (style : Option NodeStyle) (hread : ∀ s, style = some s → s.IsRead) :
    ∃ g : StyleProperty → Option StyleValue, (∀ p, valueIn style p = g p) ∧
      (∀ p v, g p = some v → Restores p.kind.decode StyleValue.toJson v) ∧
      (style.map toFields).getD [] =
        presentFields (StyleProperty.all.map fun p => (p.name, (g p).map StyleValue.toJson)) := by
  cases style with
  | none =>
    refine ⟨fun _ => none, fun _ => rfl, fun _ _ hv => ?_, rfl⟩
    exact absurd hv.symm (Option.some_ne_none _)
  | some s =>
    obtain ⟨fs, hfs⟩ := hread s rfl
    obtain ⟨g, rfl, hg⟩ := exists_of_ofFields_eq_ok hfs
    refine ⟨g, fun p => get?_ofFunction g p, fun p v hv => ?_, toFields_ofFunction⟩
    obtain ⟨w, hw⟩ := exists_of_optional_eq_ok (hv ▸ hg p)
    exact p.kind.stable w v hw

/-! ### Fields over a style -/

section
variable {declared fs : Fields Json}

/-- In an object without foreign keys, a property that stands under its second spelling does not
stand under its name as well. -/
lemma keyOf_of_get?_snakeName {w : Json}
    (hkeys : ∀ e ∈ fs, ∃ name ∈ StyleProperty.all.map StyleProperty.name, keyOf fs name = e.1)
    (hget : fs.get? (snakeName p.name) = some w) : keyOf fs p.name = snakeName p.name := by
  by_cases hsnake : snakeName p.name = p.name
  · rw [keyOf_of_snakeName fs hsnake, hsnake]
  · obtain ⟨name, hname, hkey⟩ := hkeys _ (Fields.mem_of_get? hget)
    obtain ⟨q, -, rfl⟩ := List.mem_map.1 hname
    -- the key is no name, so that it is the second spelling of `q`, and `q` is the property
    have hkeyOf : keyOf fs q.name = snakeName q.name := by
      rw [keyOf]
      exact if_neg fun hhas => snakeName_ne_name q hsnake (hkey.symm.trans (keyOf_of_has hhas))
    have hq : q = p := snakeName_injective (hkeyOf.symm.trans hkey)
    rw [← hq, hkeyOf]

/-- A property has the key under which some fields read it in every object that has this key. -/
lemma keyOf_eq_keyOf {above : Fields Json} {w : Json}
    (hkeys : ∀ e ∈ fs, ∃ name ∈ StyleProperty.all.map StyleProperty.name, keyOf fs name = e.1)
    (hget : fs.get? (keyOf above p.name) = some w) : keyOf fs p.name = keyOf above p.name := by
  by_cases hhas : above.has p.name = true
  · rw [keyOf_of_has hhas] at hget ⊢
    exact keyOf_of_has (Fields.has_of_get? hget)
  · have hsecond : keyOf above p.name = snakeName p.name := if_neg hhas
    rw [hsecond] at hget ⊢
    exact keyOf_of_get?_snakeName hkeys hget

/-- A property that does not stand under its second spelling. -/
lemma spelled_of_get?_snakeName
    (h : snakeName p.name ≠ p.name → fs.get? (snakeName p.name) = none) : Spelled [p.name] fs := by
  intro name hmem hhas
  obtain rfl := List.mem_singleton.1 hmem
  by_cases hown : fs.has p.name = true
  · exact keyOf_of_has hown
  by_cases hsnake : snakeName p.name = p.name
  · exact keyOf_of_snakeName _ hsnake
  have hkey : keyOf fs p.name = snakeName p.name := if_neg hown
  rw [hkey, Fields.has, h hsnake] at hhas
  cases hhas

section
variable {g : StyleProperty → Option StyleValue}
  (hdeclared : declared =
    presentFields (StyleProperty.all.map fun p => (p.name, (g p).map StyleValue.toJson)))
include hdeclared

lemma get?_declared (p : StyleProperty) :
    declared.get? p.name = (g p).map StyleValue.toJson := by
  rw [hdeclared, get?_presentFields_properties, if_pos p.mem_all]

/-- What stands under a second spelling would be a declared field, and those have names. -/
lemma get?_declared_snakeName (h : snakeName p.name ≠ p.name) :
    declared.get? (snakeName p.name) = none := by
  by_contra hsome
  obtain ⟨v, hv⟩ := Option.ne_none_iff_exists'.1 hsome
  have hkey := fst_mem_of_mem_presentFields (hdeclared ▸ Fields.mem_of_get? hv)
  rw [List.map_map] at hkey
  obtain ⟨q, -, hq⟩ := List.mem_map.1 hkey
  exact snakeName_ne_name q h hq.symm

end

/-- A property about which the fields say something has under them the key that it has by
itself. -/
lemma keyOf_merge {w : Json}
    (hkeys : ∀ e ∈ Fields.merge declared fs, ∃ name ∈ StyleProperty.all.map StyleProperty.name,
      keyOf (Fields.merge declared fs) name = e.1)
    (hget : (Fields.ofEntries fs).get? (keyOf (Fields.ofEntries fs) p.name) = some w) :
    keyOf (Fields.merge declared fs) p.name = keyOf (Fields.ofEntries fs) p.name := by
  refine keyOf_eq_keyOf hkeys (?_ : _ = some w)
  rw [Fields.get?_merge_ofEntries, hget, Option.some_or]

/-- A property about which the fields say nothing keeps its value. -/
lemma optional_merge_eq_ok {g : StyleProperty → Option StyleValue}
    (hg : ∀ v, g p = some v → Restores p.kind.decode StyleValue.toJson v)
    (hdeclared : declared =
      presentFields (StyleProperty.all.map fun p => (p.name, (g p).map StyleValue.toJson)))
    (hget : (Fields.ofEntries fs).get? (keyOf (Fields.ofEntries fs) p.name) = none) :
    optional (Fields.merge declared fs) p.name p.kind.decode = .ok (g p) := by
  have hname : (Fields.ofEntries fs).get? p.name = none := by
    by_contra hsome
    rw [keyOf_of_has (Option.isSome_iff_ne_none.2 hsome)] at hget
    exact hsome hget
  have hspelled : Spelled [p.name] (Fields.merge declared fs) := by
    refine spelled_of_get?_snakeName fun hsnake => ?_
    have hlast : keyOf (Fields.ofEntries fs) p.name = snakeName p.name :=
      if_neg (by rw [Fields.has, hname]; simp)
    rw [hlast] at hget
    rw [Fields.get?_merge_ofEntries, hget, Option.none_or, get?_declared_snakeName hdeclared hsnake]
  refine optional_eq_ok hspelled (by simp) ?_ hg
  rw [Fields.get?_merge_ofEntries, hname, Option.none_or, get?_declared hdeclared]

end

/-- A style under fields has for each property what the fields say of it, and else the value that it
had. -/
theorem valueIn_of_overlaidStyle? {style style' : Option NodeStyle} {fs : Fields Json}
    (hread : ∀ s, style = some s → s.IsRead) (h : overlaidStyle? style fs = some style') :
    (∀ s, style' = some s → s.IsRead) ∧
      ∀ p, ∃ v, said fs p = .ok v ∧ valueIn style' p = v.getD (valueIn style p) := by
  by_cases hfs : fs = []
  · subst hfs
    cases h
    exact ⟨hread, fun p => ⟨none, said_nil p, rfl⟩⟩
  rw [overlaidStyle?, if_neg (by simpa using hfs), Option.map_eq_map, Option.map_eq_some_iff] at h
  obtain ⟨s, hs, rfl⟩ := h
  obtain ⟨g, hvalues, hg, hdeclared⟩ := exists_values style hread
  rw [Decoded.toOption_eq_some] at hs
  obtain ⟨f, rfl, hf⟩ := exists_of_ofFields_eq_ok hs
  have hkeys := (faults_closed_eq_nil.1 (by rw [← ofFields, hs, Decoded.faults_ok])).2
  refine ⟨fun s' hs' => ⟨_, Option.some.inj hs' ▸ hs⟩, fun p => ?_⟩
  rw [hvalues, valueIn, Option.bind_some, get?_ofFunction]
  cases hget : (Fields.ofEntries fs).get? (keyOf (Fields.ofEntries fs) p.name) with
  | none =>
    refine ⟨none, by rw [said, fieldOr, hget], ?_⟩
    have hkept := optional_merge_eq_ok (hg p) hdeclared hget
    exact Decoded.ok.inj ((hf p).symm.trans hkept)
  | some w =>
    have hnullable : nullable p.kind.decode w = .ok (f p) := by
      have hp := hf p
      rw [Decode.optional, fieldOr, keyOf_merge hkeys hget, Fields.get?_merge_ofEntries, hget] at hp
      exact Decoded.under_eq_ok.1 hp
    refine ⟨some (f p), ?_, rfl⟩
    rw [said, fieldOr, hget]
    exact Decoded.under_eq_ok.2 (Decoded.map_eq_ok.2 ⟨_, hnullable, rfl⟩)

/-- Fields make a style where there was none. -/
lemma isSome_of_overlaidStyle? {style style' : Option NodeStyle} {fs : Fields Json} (hfs : fs ≠ [])
    (h : overlaidStyle? style fs = some style') : style'.isSome = true := by
  rw [overlaidStyle?, if_neg (by simpa using hfs), Option.map_eq_map, Option.map_eq_some_iff] at h
  obtain ⟨s, -, rfl⟩ := h
  rfl

/-- A style under two layers of fields: for each property the upper layer decides, then the lower
one. -/
theorem valueIn_of_overlaidStyle?_of_overlaidStyle? {style below above : Option NodeStyle}
    {fs gs : Fields Json} (hread : ∀ s, style = some s → s.IsRead)
    (hbelow : overlaidStyle? style fs = some below)
    (habove : overlaidStyle? below gs = some above) :
    (fs = [] → gs = [] → above = style) ∧ (fs ≠ [] ∨ gs ≠ [] → above.isSome = true) ∧
      ∀ p, ∃ v w, said fs p = .ok v ∧ said gs p = .ok w ∧
        valueIn above p = (w <|> v).getD (valueIn style p) := by
  refine ⟨fun hfs hgs => ?_, fun hor => ?_, fun p => ?_⟩
  · subst hfs hgs
    cases hbelow
    cases habove
    rfl
  · by_cases hgs : gs = []
    · subst hgs
      cases habove
      exact isSome_of_overlaidStyle? (hor.resolve_right (not_not_intro rfl)) hbelow
    · exact isSome_of_overlaidStyle? hgs habove
  · obtain ⟨hread', hlower⟩ := valueIn_of_overlaidStyle? hread hbelow
    obtain ⟨v, hv, hvalue⟩ := hlower p
    obtain ⟨w, hw, hvalue'⟩ := (valueIn_of_overlaidStyle? hread' habove).2 p
    refine ⟨v, w, hv, hw, ?_⟩
    rw [hvalue', hvalue]
    cases w <;> rfl

end NodeStyle
end Screenwright
