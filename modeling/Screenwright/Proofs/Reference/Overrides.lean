import Mathlib.Logic.Relation
import Screenwright.Proofs.Reference.Replacement

/-! Which overrides a resolved reference shows. They win over the props of a definition, but where
the root of the definition is a reference in turn, they win over the props of that reference, and
what is seen in the end is what the last reference of the chain says. -/
namespace Screenwright

/-- The overrides of a reference hold at the root of a tree, except for keys that the reference
also gives by the id of its definition's root. -/
def ReferenceProps.WinsIn (r : ReferenceProps) (d : ComponentDef) (n : Node) : Prop :=
  ∀ k v, r.overrides.get? k = some v →
    k ∉ (DescendantOverride.propsFor r.descendants d.tree.id).keys →
    Fields.get? n.props k = some v

namespace Node
variable {registry : Registry} {ref next : Node} {r : ReferenceProps} {d : ComponentDef}

/-- A reference and its expansion. -/
def ExpandsTo (registry : Registry) (ref next : Node) : Prop :=
  ∃ r d, ref.IsInstanceOf registry r d ∧ ref.expansion? d = some next

/-- Overrides win in the expansion. -/
lemma winsIn_of_expansion? (hr : ReferenceProps.ofFields ref.props = .ok r)
    (hkeys : r.overrides.keys.Nodup) (h : ref.expansion? d = some next) : r.WinsIn d next := by
  intro k v hv hk
  rw [(head_of_expansion? h hr).2, Fields.get?_merge_of_notMem hk]
  exact Fields.get?_merge_of_get? hkeys hv

/-! ### The root of a resolved tree -/

/-- A reference of which something else became has been expanded. -/
lemma expanded_of_type_ne {active : List String} {depth : Nat} (href : ref.type = referenceType)
    (h : (resolveWithin registry depth active ref).type ≠ referenceType) :
    ∃ r d next rest, ref.IsInstanceOf registry r d ∧ ref.expansion? d = some next ∧
      depth = rest + 1 ∧ resolveWithin registry depth active ref =
        resolveWithin registry rest (r.ref :: active) next := by
  have hreplaced : Replaced registry active _ ref (resolveWithin registry depth active ref) :=
    resolveWithin_of_reference depth href
  generalize resolveWithin registry depth active ref = n at h hreplaced
  cases hreplaced with
  | untargeted => exact absurd href h
  | missing | circular | invalid => exact absurd ((type_marked ref _).trans href) h
  | expanded r d resolveNext next _ hinst hfurther hnext =>
    obtain ⟨rest, hdepth, rfl⟩ := nextWithin_eq_some hfurther
    exact ⟨r, d, next, rest, hinst, hnext, hdepth, rfl⟩

/-- Where something else became of a reference, a chain of expansions ends with a reference to a
definition that is none, and that last one alone determines the props of the root. -/
theorem exists_last_reference {active : List String} {depth : Nat}
    (href : ref.type = referenceType)
    (h : (resolveWithin registry depth active ref).type ≠ referenceType) :
    ∃ last r d, Relation.ReflTransGen (ExpandsTo registry) ref last ∧
      last.IsInstanceOf registry r d ∧ d.tree.type ≠ referenceType ∧
      (resolveWithin registry depth active ref).props =
        Fields.merge (Fields.merge d.tree.props r.overrides)
          (DescendantOverride.propsFor r.descendants d.tree.id) := by
  -- on the depth, of which each link of the chain takes one level
  induction depth generalizing active ref with
  | zero =>
    obtain ⟨_, _, _, _, -, -, hdepth, -⟩ := expanded_of_type_ne href h
    cases hdepth
  | succ depth ih =>
    obtain ⟨r, d, next, rest, hinst, hnext, hdepth, hrest⟩ := expanded_of_type_ne href h
    cases hdepth
    obtain ⟨htype, hprops⟩ := head_of_expansion? hnext hinst.props
    rw [hrest] at h ⊢
    by_cases href : next.type = referenceType
    · obtain ⟨last, rl, dl, hchain, hlast⟩ := ih href h
      exact ⟨last, rl, dl, hchain.head ⟨r, d, hinst, hnext⟩, hlast⟩
    · refine ⟨ref, r, d, .refl, hinst, htype ▸ href, ?_⟩
      rw [props, head_resolveWithin _ href]
      exact hprops

/-- Of a reference that does not stay: its overrides win at the root of what it is resolved to,
unless the root of its definition is a reference too. Then they win in that reference, and the root
of the resolution is as the last reference of the chain has it. -/
theorem resolve_shows_overrides (registry : Registry) (ref : Node) (r : ReferenceProps)
    (href : ref.type = referenceType) (hr : ReferenceProps.ofFields ref.props = .ok r)
    (hkeys : r.overrides.keys.Nodup) (hres : (ref.resolve registry).type ≠ referenceType) :
    ∃ d, registry.get? r.ref = some d ∧
      (d.tree.type ≠ referenceType → r.WinsIn d (ref.resolve registry)) ∧
      (d.tree.type = referenceType →
        ∃ next last rl dl, ref.expansion? d = some next ∧ r.WinsIn d next ∧
          Relation.ReflTransGen (ExpandsTo registry) next last ∧
          last.IsInstanceOf registry rl dl ∧ dl.tree.type ≠ referenceType ∧
          (ref.resolve registry).props =
            Fields.merge (Fields.merge dl.tree.props rl.overrides)
              (DescendantOverride.propsFor rl.descendants dl.tree.id)) := by
  obtain ⟨r', d, next, rest, hinst, hnext, -, hrest⟩ := expanded_of_type_ne href hres
  cases hr.symm.trans hinst.props
  have hwins : r.WinsIn d next := winsIn_of_expansion? hr hkeys hnext
  have htype : next.type = d.tree.type := (head_of_expansion? hnext hr).1
  refine ⟨d, hinst.definition, fun hd => ?_, fun hd => ?_⟩
  · have hhead : (ref.resolve registry).head = next.head := by
      rw [resolve, hrest]
      exact head_resolveWithin _ (htype ▸ hd)
    intro k v hv hk
    rw [props, hhead]
    exact hwins k v hv hk
  · rw [resolve, hrest] at hres ⊢
    obtain ⟨last, rl, dl, hchain, hlast, hplain, hprops⟩ :=
      exists_last_reference (htype.trans hd) hres
    exact ⟨next, last, rl, dl, hnext, hwins, hchain, hlast, hplain, hprops⟩

/-- A text, and a panel that is a reference to it. -/
def panelRegistry : Registry :=
  [("label", ⟨"label", "Label",
      leaf { id := "label_root", type := "Text", props := [("text", .str "hi")] }, none⟩),
    ("panel", ⟨"panel", "Panel",
      leaf { id := "panel_root", type := referenceType, props := [("ref", .str "label")] }, none⟩)]

/-- A reference that overrides a text. -/
def greeting (target : String) : Node :=
  leaf
    { id := "greet", type := referenceType,
      props := [("ref", .str target), ("overrides", .obj [("text", .str "bye")])] }

def greetingProps (target : String) : ReferenceProps :=
  ⟨target, [("text", .str "bye")], [], [], [], none⟩

/-- The text of a greeting is seen on the label. On the panel it is given to the reference to the
label, where it is not seen. -/
theorem resolve_shows_overrides_greeting :
    Fields.get? ((greeting "label").resolve panelRegistry).props "text" = some (.str "bye") ∧
      ∃ d next, panelRegistry.get? "panel" = some d ∧ (greeting "panel").expansion? d = some next ∧
        Fields.get? next.props "text" = some (.str "bye") ∧
        Fields.get? ((greeting "panel").resolve panelRegistry).props "text" =
          some (.str "hi") := by
  obtain ⟨label, hlabel, hplain, -⟩ := resolve_shows_overrides panelRegistry (greeting "label")
    (greetingProps "label") rfl rfl (by decide) (by decide)
  obtain ⟨panel, hpanel, -, hchained⟩ := resolve_shows_overrides panelRegistry (greeting "panel")
    (greetingProps "panel") rfl rfl (by decide) (by decide)
  cases hlabel
  cases hpanel
  obtain ⟨next, _, _, _, hnext, hwins, -⟩ := hchained rfl
  exact ⟨hplain (by decide) _ _ rfl (by decide), _, next, rfl, hnext,
    hwins _ _ rfl (by decide), rfl⟩

end Node
end Screenwright
