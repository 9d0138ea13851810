import Screenwright.Proofs.Emit.ScreenContents
import Screenwright.Proofs.Validation.Written

/-! Why a valid screen cannot be rendered. Only Expo refuses an element, one that shares the id of
an element with overrides and has none; only tables have rows that cannot be read. -/
namespace Screenwright.Emit

/-! ### Elements -/

section
variable {e : Element}

/-- A row that is a text with an integer of too many digits. -/
def HasOversizedRow (e : Element) : Prop :=
  ∃ row ∈ (sourceRows? e).getD (propItems e "rows"), (∀ fs, row ≠ .obj fs) ∧
    ∃ o, Json.ofText row.text = .error (.oversized o)

lemma breaks_parseRow {row : Json} : Breaks (parseRow row) ↔ (∀ fs, row ≠ .obj fs) ∧
    ∃ o, Json.ofText row.text = .error (.oversized o) := by
  unfold parseRow
  split
  · next fs => simp
  · next row hrow =>
    rw [and_iff_right hrow]
    split
    · next h => simp [h]
    · next h => simp [h]
    · next h => simp [h]
    · next o h => simp [h]

lemma breaks_tableRows : Breaks (tableRows e) ↔ HasOversizedRow e := by
  rw [tableRows, breaks_mapM, HasOversizedRow]
  simp only [breaks_parseRow]

lemma breaks_initialRows :
    Breaks (initialRows e) ↔ e.type = BuiltinType.dataTable.name ∧ HasOversizedRow e := by
  unfold initialRows
  split_ifs with htype
  · rw [breaks_map, breaks_tableRows, and_iff_right htype]
  · exact iff_of_false (breaks_ok _) fun h => htype h.1

/-- The level of a heading that passes is one of those that its table lists. -/
lemma not_breaks_headingLevel (h : e.Passes) (htype : e.type = BuiltinType.heading.name) :
    ¬ Breaks (headingLevel e) := by
  have hfinite : ∀ x, e.props.get? "level" = some (.float x) → ∃ s m q, x = .finite s m q := by
    intro x hx
    have hcheck := (h.table .heading htype).2 _ (Fields.mem_of_get? hx)
    cases x with
    | finite s m q => exact ⟨s, m, q, rfl⟩
    | nan => exact absurd hcheck (by decide)
    | infinite s => exact absurd hcheck (by cases s <;> decide)
  unfold headingLevel propNumber propNumber? prop?
  cases hlevel : e.props.get? "level" with
  | none => exact breaks_ok _
  | some v =>
    cases v with
    | float x =>
      obtain ⟨s, m, q, rfl⟩ := hfinite x hlevel
      exact breaks_ok _
    | _ => exact breaks_ok _

end

/-! ### Screens -/

/-- Why the tree of a valid screen cannot be rendered without plugins. -/
inductive Unrenderable (f : Framework) (tree : Node) : Prop
  | overrides (hf : f = .expo) {n : Node} (hn : Shown f .empty tree n)
      (hnone : n.head.responsive = none) {e : Element} (he : e ∈ tree.elements)
      (hid : e.id = n.head.id) (hresponsive : isResponsive e = true)
  | rows {n : Node} (hn : Shown f .empty tree n)
      (htype : n.head.type = BuiltinType.dataTable.name) (hrows : HasOversizedRow n.head)
      (hfetch : f ≠ .html → ∀ e ∈ tree.elements, e.id = n.head.id → fetch? e = none)
  | fetch (hf : f ≠ .html) {e : Element} (he : e ∈ tree.elements) (hfetch : fetch? e ≠ none)
      {n : Node} (hn : tree.find? e.id = some n)
      (htype : n.head.type = BuiltinType.dataTable.name) (hrows : HasOversizedRow n.head)

section
variable {f : Framework} {c : Context} {name : String} {tree : Node} {e : Element}

lemma pluginOf?_eq_none (h : c.plugins.get? e.type = none) : pluginOf? c.plugins e = none := by
  unfold pluginOf?
  split
  · exact h
  · rfl

lemma nodeId_of_fetch? {fetch : DataFetch} (h : fetch? e = some fetch) : fetch.nodeId = e.id := by
  obtain ⟨source, -, h⟩ := Option.bind_eq_some_iff.1 h
  obtain ⟨url, -, h⟩ := Option.bind_eq_some_iff.1 h
  split_ifs at h
  rw [← Option.some.inj h]

lemma isResponsiveId_iff {id : String} : (Screen.on f c tree).state.isResponsiveId id = true ↔
    ∃ e ∈ tree.elements, e.id = id ∧ isResponsive e = true := by
  have hstate : (Screen.on f c tree).state.responsive = tree.elements.filter isResponsive := by
    unfold Screen.on
    dsimp only
    split_ifs <;> rfl
  simp [ScreenState.isResponsiveId, hstate, List.any_eq_true, and_assoc, and_comm]

lemma mem_fetches_iff {fetch : DataFetch} : fetch ∈ (Screen.on f c tree).state.fetches ↔
    f ≠ .html ∧ ∃ e ∈ tree.elements, fetch? e = some fetch := by
  unfold Screen.on
  dsimp only
  split_ifs with hf
  · simp [hf, ScreenState.withoutFetches]
  · simp [hf, ScreenState.ofTree]

lemma fetchFor?_eq_none_iff {id : String} : (Screen.on f c tree).state.fetchFor? id = none ↔
    (f ≠ .html → ∀ e ∈ tree.elements, e.id = id → fetch? e = none) := by
  rw [ScreenState.fetchFor?, List.find?_eq_none]
  simp only [mem_fetches_iff, beq_iff_eq]
  constructor
  · intro h hf e he hid
    by_contra hfetch
    obtain ⟨fetch, hfetch⟩ := Option.ne_none_iff_exists'.1 hfetch
    exact h fetch ⟨hf, e, he, hfetch⟩ ((nodeId_of_fetch? hfetch).trans hid)
  · rintro h fetch ⟨hf, e, he, hfetch⟩ hid
    rw [h hf e he ((nodeId_of_fetch? hfetch).symm.trans hid)] at hfetch
    cases hfetch

lemma breaks_rowsBefore {fetch : DataFetch} :
    Breaks ((Screen.on f c tree).rowsBefore fetch) ↔ ∃ n, tree.find? fetch.nodeId = some n ∧
      n.head.type = BuiltinType.dataTable.name ∧ HasOversizedRow n.head := by
  rw [Screen.rowsBefore, show (Screen.on f c tree).tree = tree from rfl]
  cases tree.find? fetch.nodeId with
  | none => simp
  | some n => simp [breaks_initialRows]

lemma hasUnreadableFetch_iff : HasUnreadableFetch (Screen.on f c tree) ↔ f ≠ .html ∧
    ∃ e ∈ tree.elements, fetch? e ≠ none ∧ ∃ n, tree.find? e.id = some n ∧
      n.head.type = BuiltinType.dataTable.name ∧ HasOversizedRow n.head := by
  unfold HasUnreadableFetch
  simp only [mem_fetches_iff, breaks_rowsBefore]
  constructor
  · rintro ⟨fetch, ⟨hf, e, he, hfetch⟩, hrows⟩
    rw [nodeId_of_fetch? hfetch] at hrows
    exact ⟨hf, e, he, by simp [hfetch], hrows⟩
  · rintro ⟨hf, e, he, hfetch, hrows⟩
    obtain ⟨fetch, hfetch⟩ := Option.ne_none_iff_exists'.1 hfetch
    rw [← nodeId_of_fetch? hfetch] at hrows
    exact ⟨fetch, ⟨hf, e, he, hfetch⟩, hrows⟩

/-- The contents of a valid screen without nodes of plugins fail for one of these reasons alone. -/
theorem breaks_screenContents_iff (hown : ∀ e ∈ tree.elements, c.plugins.get? e.type = none)
    (h : tree.Passes) : Breaks (screenContents f c name tree) ↔ Unrenderable f tree := by
  rw [breaks_screenContents, hasUnreadableFetch_iff]
  simp only [shown_iff_of_own hown]
  constructor
  · rintro (⟨n, hn, hfault⟩ | ⟨hf, e, he, hfetch, n, hn, htype, hrows⟩)
    · cases hfault with
      | overrides _ hlacks =>
        obtain ⟨hf, hresponsive, hnone⟩ := hlacks
        obtain ⟨e, he, hid, hresponsive⟩ := isResponsiveId_iff.1 hresponsive
        exact .overrides hf hn hnone he hid hresponsive
      | level htype hbreaks =>
        exact absurd hbreaks (not_breaks_headingLevel (h _ hn.head_mem_elements)
          (classify_eq_builtin_iff.1 htype))
      | rows htype hfetch hbreaks =>
        exact .rows hn (classify_eq_builtin_iff.1 htype) (breaks_tableRows.1 hbreaks)
          (fetchFor?_eq_none_iff.1 hfetch)
      | plugin hsome =>
        have hnone := pluginOf?_eq_none (hown _ hn.head_mem_elements)
        exact absurd (hnone.symm.trans hsome) (by simp)
    · exact .fetch hf he hfetch hn htype hrows
  · rintro (⟨hf, hn, hnone, he, hid, hresponsive⟩ | ⟨hn, htype, hrows, hfetch⟩ |
      ⟨hf, he, hfetch, hn, htype, hrows⟩)
    · have hplugin := pluginOf?_eq_none (hown _ hn.head_mem_elements)
      refine .inl ⟨_, hn, .overrides hplugin ⟨hf, ?_, hnone⟩⟩
      exact isResponsiveId_iff.2 ⟨_, he, hid, hresponsive⟩
    · exact .inl ⟨_, hn, .rows (classify_eq_builtin_iff.2 htype)
        (fetchFor?_eq_none_iff.2 hfetch) (breaks_tableRows.2 hrows)⟩
    · exact .inr ⟨hf, _, he, hfetch, _, hn, htype, hrows⟩

/-- A tree of distinct ids whose tables can be read can be rendered. -/
theorem not_unrenderable (hids : tree.ids.Nodup)
    (hrows : ∀ e ∈ tree.elements, e.type = BuiltinType.dataTable.name → ¬ HasOversizedRow e) :
    ¬ Unrenderable f tree := by
  rintro (⟨-, hn, hnone, he, hid, hresponsive⟩ | ⟨hn, htype, hoversized, -⟩ |
    ⟨-, -, -, hn, htype, hoversized⟩)
  · obtain ⟨m, hm, rfl⟩ := List.mem_map.1 he
    obtain rfl := List.inj_on_of_nodup_map hids hm hn.mem_nodes hid
    simp [isResponsive, hnone] at hresponsive
  · exact hrows _ hn.head_mem_elements htype hoversized
  · exact hrows _ (List.mem_map_of_mem (Node.mem_nodes_of_find? hn)) htype hoversized

end
end Screenwright.Emit
