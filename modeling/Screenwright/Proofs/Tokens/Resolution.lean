import Screenwright.Proofs.Reference.Overlays
import Screenwright.Tokens

/-! Styles with their references replaced: which properties are listed with which values, and which
of these values refer to tokens again. -/
namespace Screenwright

namespace StyleValue

/-- A text that refers to a path: a dollar sign and at least one character after it. -/
def RefersTo (v : StyleValue) (path : String) : Prop := path ≠ "" ∧ v = .text ("$" ++ path)

def IsReference (v : StyleValue) : Prop := ∃ path, v.RefersTo path

/-- A reference to a path without a value. -/
def IsUnresolved (v : StyleValue) (tokens : Option Tokens) : Prop :=
  ∃ path, v.RefersTo path ∧ lookupToken path tokens = none

end StyleValue

namespace Tokens

/-- A document holds a value at the end of a path, by itself or as the value of a token. -/
def Holds (t : Tokens) (path : String) (v : StyleValue) : Prop :=
  ∃ j, descend (.obj t.raw) (segments path) = some j ∧
    (j = v.toJson ∨ ∃ fs, j = .obj fs ∧ Fields.get? fs "value" = some v.toJson)

lemma reference?_eq_some_iff {s path : String} :
    reference? s = some path ↔ path ≠ "" ∧ s = "$" ++ path := by
  constructor
  · intro h
    rw [reference?] at h
    split at h
    · next c rest hs =>
      cases h
      refine ⟨by simp, ?_⟩
      rw [← String.toList_inj, hs]
      simp
    · cases h
  · rintro ⟨hpath, rfl⟩
    have hlist : path.toList ≠ [] := by simpa using hpath
    obtain ⟨c, rest, hcons⟩ := List.exists_cons_of_ne_nil hlist
    have hs : ("$" ++ path).toList = '$' :: c :: rest := by
      rw [String.toList_append, hcons]
      rfl
    rw [reference?, hs]
    change some (String.ofList (c :: rest)) = some path
    rw [← hcons, String.ofList_toList]

lemma toJson_of_plainValue? {j : Json} {v : StyleValue} (h : plainValue? j = some v) :
    j = v.toJson := by
  cases j <;> cases h <;> rfl

/-- A value that is found is held by the document. -/
lemma holds_of_lookup {t : Tokens} {path : String} {v : StyleValue} (h : t.lookup path = some v) :
    t.Holds path v := by
  obtain ⟨j, hj, hleaf⟩ := Option.bind_eq_some_iff.1 h
  refine ⟨j, hj, ?_⟩
  cases j with
  | obj fs =>
    obtain ⟨w, hw, hplain⟩ := Option.bind_eq_some_iff.1 hleaf
    exact .inr ⟨fs, rfl, toJson_of_plainValue? hplain ▸ hw⟩
  | _ => exact .inl (toJson_of_plainValue? hleaf)

end Tokens

namespace StyleValue
variable {v : StyleValue} {path : String} {tokens : Option Tokens}

lemma refersTo_text {s : String} : (text s).RefersTo path ↔ Tokens.reference? s = some path := by
  rw [RefersTo, Tokens.reference?_eq_some_iff, text.injEq]

/-- A value is kept, or it refers to a path and is replaced by what the path gives. -/
lemma resolveValue_cases (v : StyleValue) (tokens : Option Tokens) :
    (¬ v.IsReference ∧ resolveValue? v tokens = some v ∧ resolveValue v tokens = v) ∨
      ∃ path, v.RefersTo path ∧ resolveValue? v tokens = lookupToken path tokens ∧
        resolveValue v tokens = (lookupToken path tokens).getD v := by
  cases v with
  | text s =>
    cases hs : Tokens.reference? s with
    | none =>
      refine .inl ⟨?_, by rw [resolveValue?, hs], by rw [resolveValue, hs]⟩
      rintro ⟨path, hpath⟩
      rw [refersTo_text, hs] at hpath
      cases hpath
    | some path =>
      exact .inr ⟨path, refersTo_text.2 hs, by rw [resolveValue?, hs], by rw [resolveValue, hs]⟩
  | int n => exact .inl ⟨by simp [IsReference, RefersTo], rfl, rfl⟩
  | float x => exact .inl ⟨by simp [IsReference, RefersTo], rfl, rfl⟩

lemma RefersTo.unique {path' : String} (h : v.RefersTo path) (h' : v.RefersTo path') :
    path = path' := by
  obtain ⟨-, rfl⟩ := h
  obtain ⟨-, h'⟩ := h'
  simpa using h'

/-- The two ways of replacing a reference differ only on those without a value: one drops them. -/
lemma resolveValue?_eq (v : StyleValue) (tokens : Option Tokens) :
    (v.IsUnresolved tokens ∧ resolveValue? v tokens = none) ∨
      (¬ v.IsUnresolved tokens ∧ resolveValue? v tokens = some (resolveValue v tokens)) := by
  rcases v.resolveValue_cases tokens with ⟨hplain, hdrop, hkeep⟩ | ⟨path, hpath, hdrop, hkeep⟩
  · refine .inr ⟨fun ⟨path, hpath, _⟩ => hplain ⟨path, hpath⟩, ?_⟩
    rw [hdrop, hkeep]
  · rw [hdrop, hkeep]
    cases hlookup : lookupToken path tokens with
    | none => exact .inl ⟨⟨path, hpath, hlookup⟩, rfl⟩
    | some w =>
      refine .inr ⟨?_, rfl⟩
      rintro ⟨path', hpath', hnone⟩
      rw [hpath.unique hpath', hnone] at hlookup
      cases hlookup

instance (v : StyleValue) (tokens : Option Tokens) : Decidable (v.IsUnresolved tokens) :=
  decidable_of_iff (resolveValue? v tokens = none) (by
    rcases v.resolveValue?_eq tokens with ⟨h, hdrop⟩ | ⟨h, hdrop⟩ <;> simp [h, hdrop])

end StyleValue

lemma filterMap_resolveValue? (declared : List (StyleProperty × StyleValue))
    (tokens : Option Tokens) :
    (declared.filterMap fun e => (resolveValue? e.2 tokens).map (e.1, ·)) =
      (declared.filter fun e => ¬ e.2.IsUnresolved tokens).map fun e =>
        (e.1, resolveValue e.2 tokens) := by
  induction declared with
  | nil => rfl
  | cons e declared ih =>
    rcases e.2.resolveValue?_eq tokens with ⟨h, hdrop⟩ | ⟨h, hdrop⟩ <;> simp [h, hdrop, ih]

/-- The properties of a style that has been read stand in their order. -/
lemma sublist_of_isRead {s : NodeStyle} (h : s.IsRead) :
    (s.declared.map Prod.fst).Sublist StyleProperty.all := by
  obtain ⟨fs, hfs⟩ := h
  obtain ⟨f, rfl, -⟩ := NodeStyle.exists_of_ofFields_eq_ok hfs
  have hsub : ∀ ps : List StyleProperty,
      ((ps.filterMap fun p => (f p).map (p, ·)).map Prod.fst).Sublist ps := by
    intro ps
    induction ps with
    | nil => exact List.Sublist.refl _
    | cons p ps ih =>
      cases hp : f p with
      | none => simpa [hp] using ih.cons p
      | some v => simpa [hp] using ih.cons_cons p
  exact hsub StyleProperty.all

/-- A resolved style lists the declared properties whose value is not a reference without a value,
in their order, each with the value that resolution by itself gives. A value in it that is a
reference is one that the document holds at the end of the path of a declared reference. -/
theorem resolveStyle_literal (style : Option NodeStyle) (tokens : Option Tokens) :
    resolveStyle style tokens =
        (((style.map (·.declared)).getD []).filter fun e => ¬ e.2.IsUnresolved tokens).map
          (fun e => (e.1, resolveValue e.2 tokens)) ∧
      (∀ s, style = some s → s.IsRead →
        ((resolveStyle style tokens).map Prod.fst).Sublist StyleProperty.all) ∧
      ∀ p v, (p, v) ∈ resolveStyle style tokens → v.IsReference →
        ∃ s w path t, style = some s ∧ (p, w) ∈ s.declared ∧ w.RefersTo path ∧
          tokens = some t ∧ t.Holds path v := by
  cases style with
  | none => exact ⟨rfl, nofun, fun _ _ hmem => absurd hmem List.not_mem_nil⟩
  | some s =>
    have hlist : resolveStyle (some s) tokens =
        (s.declared.filter fun e => ¬ e.2.IsUnresolved tokens).map
          fun e => (e.1, resolveValue e.2 tokens) := filterMap_resolveValue? s.declared tokens
    refine ⟨hlist, ?_, fun p v hmem hv => ?_⟩
    · rintro _ ⟨⟩ hread
      rw [hlist, List.map_map]
      exact (List.filter_sublist.map Prod.fst).trans (sublist_of_isRead hread)
    · rw [hlist] at hmem
      obtain ⟨⟨_, w⟩, hw, heq⟩ := List.mem_map.1 hmem
      obtain ⟨hdeclared, hresolved⟩ := List.mem_filter.1 hw
      cases heq
      rcases w.resolveValue_cases tokens with ⟨hplain, -, hkeep⟩ | ⟨path, hpath, -, hkeep⟩
      · rw [hkeep] at hv
        exact absurd hv hplain
      · have hresolved : ¬ w.IsUnresolved tokens := by simpa using hresolved
        obtain ⟨u, hu⟩ := Option.ne_none_iff_exists'.1 fun hnone => hresolved ⟨path, hpath, hnone⟩
        obtain ⟨t, rfl, ht⟩ := Option.bind_eq_some_iff.1 hu
        refine ⟨s, w, path, t, rfl, hdeclared, hpath, rfl, ?_⟩
        rw [hkeep, hu]
        exact Tokens.holds_of_lookup ht

/-- A color that stands for another one. -/
def linkDocument : Fields Json :=
  [("color", .obj [("link", .obj [("value", .str "$color.brand")]),
    ("brand", .obj [("value", .str "#06c")])])]

/-- A style with that color, a width of its own and a gap that no document has. -/
def linkStyle : NodeStyle :=
  ⟨[(.color, .text "$color.link"), (.width, .int 4), (.gap, .text "$spacing.wide")]⟩

lemma linkStyle_isRead : linkStyle.IsRead := by
  refine NodeStyle.isRead_of_restores rfl fun e he => ?_
  fin_cases he <;> exact ⟨rfl, nofun⟩

/-- The color and the width are listed; the color is the reference that the document holds. -/
theorem resolveStyle_literal_link : ∃ t, Tokens.ofDocument linkDocument = .ok t ∧
    linkStyle.IsRead ∧
    resolveStyle (some linkStyle) (some t) = [(.color, .text "$color.brand"), (.width, .int 4)] ∧
    ((resolveStyle (some linkStyle) (some t)).map Prod.fst).Sublist StyleProperty.all ∧
    ∃ path, (StyleValue.text "$color.link").RefersTo path ∧
      t.Holds path (.text "$color.brand") := by
  obtain ⟨t, ht⟩ : ∃ t, Tokens.ofDocument linkDocument = .ok t := ⟨_, rfl⟩
  obtain ⟨-, hsub, hheld⟩ := resolveStyle_literal (some linkStyle) (some t)
  have hlist : resolveStyle (some linkStyle) (some t) =
      [(.color, .text "$color.brand"), (.width, .int 4)] := by
    cases ht
    decide +kernel
  refine ⟨t, ht, linkStyle_isRead, hlist, hsub _ rfl linkStyle_isRead, ?_⟩
  obtain ⟨_, w, path, _, ⟨⟩, hw, hpath, ⟨⟩, hholds⟩ := hheld .color (.text "$color.brand")
    (by rw [hlist]; exact List.mem_cons_self) ⟨"color.brand", by decide, rfl⟩
  obtain rfl : w = .text "$color.link" := by simpa [linkStyle] using hw
  exact ⟨path, hpath, hholds⟩

/-- A resolved style may still have references. -/
theorem not_resolveStyle_plain : ¬ ∀ (doc : Fields Json) (t : Tokens) (s : NodeStyle),
    Tokens.ofDocument doc = .ok t → s.IsRead →
      ∀ e ∈ resolveStyle (some s) (some t), ¬ e.2.IsReference := by
  intro h
  obtain ⟨t, ht⟩ : ∃ t, Tokens.ofDocument linkDocument = .ok t := ⟨_, rfl⟩
  have hmem : (StyleProperty.color, StyleValue.text "$color.brand") ∈
      resolveStyle (some linkStyle) (some t) := by
    cases ht
    decide +kernel
  exact h linkDocument t linkStyle ht linkStyle_isRead _ hmem ⟨"color.brand", by decide, rfl⟩

end Screenwright
