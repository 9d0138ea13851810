import Screenwright.Proofs.Document.Trail
import Screenwright.Proofs.Reference.Replacement
import Screenwright.Reference.Sharing

/-! What resolution leaves alone: every node outside references stays at its position as it is, and
a tree is handed back without being built again exactly when it has no reference to replace. -/
namespace Screenwright.Node
variable {registry : Registry} {n m tree : Node} {path : List Nat}

/-- A position that does not lie below a reference. -/
abbrev OutsideReferences (tree : Node) (path : List Nat) : Prop :=
  tree.HoldsAbove (fun _ above => above.type ≠ referenceType) path

/-! ### Positions -/

/-- What stands at a position outside references is replaced there. -/
theorem at?_mapReferences (f : Node → Node) (hpath : tree.OutsideReferences path)
    (h : tree.at? path = some n) :
    (mapReferences f tree).at? path = some (mapReferences f n) := by
  induction path generalizing tree with
  | nil =>
    cases h
    rfl
  | cons i path ih =>
    obtain ⟨c, hc, hn⟩ := at?_cons_eq_some.1 h
    obtain ⟨hroot, hbelow⟩ := holdsAbove_cons.1 hpath
    cases tree with
    | leaf e => simp at hc
    | branch e cs =>
      have hc : cs[i]? = some c := hc
      rw [mapReferences_branch (e := e) f cs hroot, at?_cons_eq_some]
      exact ⟨mapReferences f c, by simp [hc], ih (hbelow c hc) hn⟩

lemma arity?_mapReferences (f : Node → Node) (hn : n.type ≠ referenceType) :
    (mapReferences f n).arity? = n.arity? := by
  cases n with
  | leaf e => rw [mapReferences_leaf (e := e) f hn]
  | branch e cs =>
    rw [mapReferences_branch (e := e) f cs hn]
    simp [arity?, children?]

lemma id_marked (ref : Node) (o : Obstacle) : (ref.marked o).id = ref.id := by
  rw [Node.id, marked, head_mapHead]

/-- However many expansions it takes, a node keeps its id. -/
theorem id_resolveWithin (depth : Nat) (active : List String) (n : Node) :
    (resolveWithin registry depth active n).id = n.id := by
  -- on the depth, of which each expansion takes one level
  induction depth using Nat.strongRecOn generalizing active n with
  | ind depth ih =>
    by_cases hn : n.type = referenceType
    · have hreplaced : Replaced registry active _ n (resolveWithin registry depth active n) :=
        resolveWithin_of_reference depth hn
      generalize resolveWithin registry depth active n = t at hreplaced
      cases hreplaced with
      | untargeted => rfl
      | missing | circular | invalid => exact id_marked n _
      | expanded r d resolveNext next _ _ hfurther hnext =>
        obtain ⟨rest, rfl, rfl⟩ := nextWithin_eq_some hfurther
        rw [ih rest (Nat.lt_succ_self rest), id_of_expansion? hnext]
    · rw [Node.id, head_resolveWithin depth hn]

/-- Outside references the resolved tree has the resolved nodes at the same positions. -/
lemma at?_resolve (hpath : tree.OutsideReferences path) (h : tree.at? path = some n) :
    (tree.resolve registry).at? path = some (n.resolve registry) := by
  rw [resolve, resolve, resolveWithin_eq]
  exact at?_mapReferences _ hpath h

lemma arity?_resolve (hn : n.type ≠ referenceType) : (n.resolve registry).arity? = n.arity? := by
  rw [resolve, resolveWithin_eq]
  exact arity?_mapReferences _ hn

/-! ### What is built -/

lemma rebuilt?_of_reference (f : Node → Option Node) (hn : n.type = referenceType) :
    rebuilt? f n = f n := by
  cases n <;> exact if_pos hn

/-- Whatever is built for references, the tree that comes out has them replaced. -/
lemma getD_rebuilt? {built : Node → Option Node} {f : Node → Node}
    (h : ∀ ref, ref.type = referenceType → (built ref).getD ref = f ref) (n : Node) :
    (rebuilt? built n).getD n = mapReferences f n := by
  induction n using induction_outside with
  | reference n hn =>
    rw [mapReferences_of_reference f hn, rebuilt?_of_reference built hn, h n hn]
  | leaf e he =>
    rw [mapReferences_leaf f he, rebuilt?, if_neg he]
    rfl
  | branch e cs he ih =>
    have hcs : (rebuiltOf? built cs).getD cs = cs.map (mapReferences f) := by
      clear he
      induction cs with
      | nil => rfl
      | cons c cs ihs =>
        obtain ⟨hc, hcs⟩ := List.forall_mem_cons.1 ih
        rw [List.map_cons, ← hc, ← ihs hcs, rebuiltOf?]
        cases rebuilt? built c <;> cases rebuiltOf? built cs <;> rfl
    rw [mapReferences_branch f cs he, rebuilt?, if_neg he, ← hcs]
    cases rebuiltOf? built cs <;> rfl

/-- What may build the expansions at a depth. -/
def builtNextWithin? (registry : Registry) : Nat → Option (List String → Node → Option Node)
  | 0 => none
  | depth + 1 => some (builtWithin? registry depth)

lemma builtWithin?_eq (depth : Nat) (active : List String) : builtWithin? registry depth active =
    rebuilt? (builtReplacement? registry active (builtNextWithin? registry depth)) := by
  cases depth <;> rfl

/-- What is built, or else handed back, is the resolved tree. -/
theorem getD_builtWithin? (depth : Nat) (active : List String) (n : Node) :
    (builtWithin? registry depth active n).getD n = resolveWithin registry depth active n := by
  induction depth generalizing active n with
  | zero =>
    refine getD_rebuilt? (fun ref _ => ?_) n
    unfold builtReplacement? replacement
    cases referenceTarget? ref.props with
    | none => rfl
    | some id =>
      dsimp only
      cases registry.get? id with
      | none => rfl
      | some d => dsimp only; split <;> rfl
  | succ depth ih =>
    refine getD_rebuilt? (fun ref _ => ?_) n
    unfold builtReplacement? replacement
    cases referenceTarget? ref.props with
    | none => rfl
    | some id =>
      dsimp only
      cases registry.get? id with
      | none => rfl
      | some d =>
        dsimp only
        split
        · rfl
        · cases ref.expansion? d with
          | none => rfl
          | some tree => exact ih (id :: active) tree

/-- Nothing is built exactly for the references without a usable target. -/
lemma builtReplacement?_eq_none_iff {active : List String}
    {next : Option (List String → Node → Option Node)} {ref : Node} :
    builtReplacement? registry active next ref = none ↔ referenceTarget? ref.props = none := by
  unfold builtReplacement?
  split
  · next h => simp [h]
  · next id h =>
    rw [h]
    grind

/-- Nothing is built for a tree when nothing is built for its outermost references. -/
theorem rebuilt?_eq_none_iff {f : Node → Option Node} {n : Node} :
    rebuilt? f n = none ↔ ∀ ref, n.IsOutermostReference ref → f ref = none := by
  induction n using induction_outside with
  | reference n hn =>
    simp [rebuilt?_of_reference f hn, isOutermostReference_self hn]
  | leaf e he => simp [rebuilt?, he, isOutermostReference_leaf he]
  | branch e cs he ih =>
    have hcs : rebuiltOf? f cs = none ↔ ∀ c ∈ cs, rebuilt? f c = none := by
      clear ih
      induction cs with
      | nil => simp [rebuiltOf?]
      | cons c cs ihs =>
        rw [List.forall_mem_cons, ← ihs, rebuiltOf?]
        cases rebuilt? f c <;> cases rebuiltOf? f cs <;> simp
    rw [rebuilt?, if_neg he, Option.map_eq_none_iff, hcs]
    simp only [isOutermostReference_branch he]
    grind

/-- The outermost references are the references at positions outside references. -/
lemma isOutermostReference_iff {ref : Node} : tree.IsOutermostReference ref ↔
    ref.type = referenceType ∧ ∃ path, tree.OutsideReferences path ∧ tree.at? path = some ref := by
  induction tree using induction_outside generalizing ref with
  | reference n hn =>
    rw [isOutermostReference_self hn]
    constructor
    · rintro rfl
      exact ⟨hn, [], holdsAbove_nil, rfl⟩
    · rintro ⟨-, path, hpath, h⟩
      cases path with
      | nil => exact (Option.some.inj h).symm
      | cons i path => exact absurd hn (holdsAbove_cons.1 hpath).1
  | leaf e he =>
    refine iff_of_false (isOutermostReference_leaf he) ?_
    rintro ⟨href, path, -, h⟩
    cases path with
    | nil =>
      cases h
      exact he href
    | cons i path => simp [at?] at h
  | branch e cs he ih =>
    rw [isOutermostReference_branch he]
    constructor
    · rintro ⟨c, hc, hout⟩
      obtain ⟨i, hi⟩ := List.mem_iff_getElem?.1 hc
      obtain ⟨href, path, hpath, h⟩ := (ih c hc).1 hout
      refine ⟨href, i :: path, holdsAbove_cons.2 ⟨he, fun c' hc' => ?_⟩,
        at?_cons_eq_some.2 ⟨c, hi, h⟩⟩
      cases hi.symm.trans hc'
      exact hpath
    · rintro ⟨href, path, hpath, h⟩
      cases path with
      | nil =>
        cases h
        exact absurd href he
      | cons i path =>
        obtain ⟨c, hi, h⟩ := at?_cons_eq_some.1 h
        have hc : c ∈ cs := List.mem_iff_getElem?.2 ⟨i, hi⟩
        exact ⟨c, hc, (ih c hc).2 ⟨href, path, (holdsAbove_cons.1 hpath).2 c hi, h⟩⟩

lemma target?_of_reference (hn : n.type = referenceType) :
    n.target? = referenceTarget? n.props := by
  simp [target?, isReference, hn]

lemma target?_of_type_ne (hn : n.type ≠ referenceType) : n.target? = none := by
  simp [target?, isReference, hn]

lemma allSettled_eq_true (cs : List Node) :
    allSettled cs = true ↔ ∀ c ∈ cs, c.isSettled = true := by
  induction cs with
  | nil => simp [allSettled]
  | cons c cs ih => simp [allSettled, ih]

/-- A tree is settled when no outermost reference has a usable target. -/
lemma isSettled_iff : n.isSettled = true ↔
    ∀ ref, n.IsOutermostReference ref → referenceTarget? ref.props = none := by
  induction n using induction_outside with
  | reference n hn =>
    have hsettled : n.isSettled = n.target?.isNone := by
      cases n with
      | leaf e => rfl
      | branch e cs => simp [isSettled, show e.type = referenceType from hn]
    simp [hsettled, target?_of_reference hn, isOutermostReference_self hn]
  | leaf e he =>
    simp [isSettled, target?_of_type_ne (n := leaf e) he, isOutermostReference_leaf he]
  | branch e cs he ih =>
    have hsettled : (branch e cs).isSettled = allSettled cs := by
      simp [isSettled, target?_of_type_ne (n := branch e cs) he, he]
    rw [hsettled, allSettled_eq_true]
    simp only [isOutermostReference_branch he]
    grind

/-! ### Resolution as a whole -/

lemma referenceTarget?_eq_none_iff {ps : Fields Json} : referenceTarget? ps = none ↔
    ∀ id, ps.get? "ref" = some (.str id) → id = "" := by
  rw [referenceTarget?]
  cases ps.get? "ref" with
  | none => simp
  | some v => cases v <;> simp [Json.nonEmptyText?]

/-- Every node outside references stays at its position, with its id, and if it is no reference
with all of its element and with as many children or none at all. What is handed back is the very
tree, and nothing is built, exactly when no reference there names a component. -/
theorem resolve_outside_references (registry : Registry) (tree : Node) :
    (∀ path n, tree.OutsideReferences path → tree.at? path = some n →
      ∃ m, (tree.resolve registry).at? path = some m ∧ m.id = n.id ∧
        (n.type ≠ referenceType → m.head = n.head ∧ m.arity? = n.arity?)) ∧
    (tree.built? registry).getD tree = tree.resolve registry ∧
    (tree.built? registry = none ↔ tree.isSettled = true) ∧
    (tree.built? registry = none ↔
      ∀ path ref, tree.OutsideReferences path → tree.at? path = some ref →
        ref.type = referenceType →
          ∀ id, Fields.get? ref.props "ref" = some (.str id) → id = "") := by
  have hbuilt : tree.built? registry = none ↔
      ∀ ref, tree.IsOutermostReference ref → referenceTarget? ref.props = none := by
    rw [built?, builtWithin?_eq, rebuilt?_eq_none_iff]
    simp only [builtReplacement?_eq_none_iff]
  refine ⟨fun path n hpath hn => ⟨n.resolve registry, at?_resolve hpath hn, ?_, fun htype => ?_⟩,
    getD_builtWithin? _ _ _, hbuilt.trans isSettled_iff.symm, hbuilt.trans ⟨?_, ?_⟩⟩
  · exact id_resolveWithin _ _ n
  · exact ⟨head_resolveWithin _ htype, arity?_resolve htype⟩
  · intro h path ref hpath href htype
    have hout : tree.IsOutermostReference ref :=
      isOutermostReference_iff.2 ⟨htype, path, hpath, href⟩
    exact referenceTarget?_eq_none_iff.1 (h ref hout)
  · intro h ref hout
    obtain ⟨htype, path, hpath, href⟩ := isOutermostReference_iff.1 hout
    exact referenceTarget?_eq_none_iff.2 (h path ref hpath href htype)

/-- A text beside a reference to an unknown component. -/
def shelf : Node :=
  branch { id := "shelf", type := "Stack" }
    [leaf { id := "label", type := "Text" },
      leaf { id := "card", type := referenceType, props := [("ref", .str "card")] }]

theorem resolve_outside_references_shelf :
    (∃ m, (shelf.resolve []).at? [0] = some m ∧ m.head = { id := "label", type := "Text" }) ∧
      (∃ m, (shelf.resolve []).at? [1] = some m ∧ m.id = "card") ∧ shelf.built? [] ≠ none := by
  obtain ⟨hkept, -, -, hbuilt⟩ := resolve_outside_references [] shelf
  have hpath : ∀ i, shelf.OutsideReferences [i] := fun i =>
    holdsAbove_cons.2 ⟨by decide, fun _ _ => holdsAbove_nil⟩
  obtain ⟨label, hlabel, -, hsame⟩ := hkept [0] _ (hpath 0) rfl
  obtain ⟨card, hcard, hid, -⟩ := hkept [1] _ (hpath 1) rfl
  refine ⟨⟨label, hlabel, (hsame (by decide)).1⟩, ⟨card, hcard, hid⟩, fun hnone => ?_⟩
  exact absurd (hbuilt.1 hnone [1] _ (hpath 1) rfl rfl "card" rfl) (by decide)

end Screenwright.Node
