import Screenwright.Proofs.Validation.Nodes

/-! The walk finds nothing wrong with exactly the trees of its grammar. -/
namespace Screenwright
open Decode Schema

namespace Walk
variable {fs ps : Fields Json} {path : String}

lemma sortedUnknown_eq_nil {known : List String} :
    sortedUnknown known fs = [] ↔ ∀ e ∈ fs, e.1 ∈ known := by
  rw [sortedUnknown, ← List.length_eq_zero_iff, (Text.sorted_perm _).length_eq,
    List.length_eq_zero_iff]
  simp [Fields.keys, List.filter_eq_nil_iff]

lemma expect_eq_nil {holds : Bool} {message : String} :
    expect holds path message = [] ↔ holds = true := by
  cases holds <;> simp [expect]

lemma isObject_getD_iff {v : Option Json} :
    (v.map Json.isObject).getD true = true ↔ MayBeObject v := by
  rw [MayBeObject]
  cases v with
  | none => simp
  | some v => cases v <;> simp [Json.isObject]

lemma faultIssues_eq_nil {α : Type} {x : Decoded α} : faultIssues path x = [] ↔ x.faults = [] := by
  simp [faultIssues]

/-- A record field is without issues when it is read, as only objects are. -/
lemma recordIssues_eq_nil {α : Type} (fs : Fields Json) (path key : String)
    (decode : Json → Decoded α) (hobject : ∀ v, Reads decode v → ∃ gs, v = .obj gs) :
    recordIssues fs path key decode = [] ↔ ∀ v, fs.get? key = some v → Reads decode v := by
  rw [recordIssues]
  cases fs.get? key with
  | none => simp
  | some v =>
    cases v with
    | obj gs => simp [Json.isObject, faultIssues_eq_nil, Reads]
    | _ =>
      simp only [Json.isObject, Option.some.injEq, forall_eq']
      refine iff_of_false (by simp) fun h => ?_
      obtain ⟨gs, hgs⟩ := hobject _ h
      cases hgs

lemma name_of_ofName? {tag : String} {t : BuiltinType} (h : BuiltinType.ofName? tag = some t) :
    t.name = tag := by
  simpa using List.find?_some h

lemma propIssues_text {tag : String} :
    propIssues (some (.str tag)) ps path = .ok [] ↔
      (∀ t : BuiltinType, tag = t.name → (PropTable.allowed t).Admits ps) ∧
        (tag = referenceType →
          isInkText (ps.get? "ref") = true ∧ (ReferenceProps.ofFields ps).faults = []) := by
  rw [propIssues]
  cases ht : BuiltinType.ofName? tag with
  | some t =>
    have hne : tag ≠ referenceType := by
      rintro rfl
      have hnone : BuiltinType.ofName? referenceType = none := by decide
      rw [hnone] at ht
      cases ht
    have huniq : ∀ t', tag = BuiltinType.name t' → t' = t := by
      rintro t' rfl
      simpa using ht
    simp only [Except.ok.injEq, PropTable.check_eq_nil]
    constructor
    · intro h
      exact ⟨fun t' ht' => huniq t' ht' ▸ h, fun htag => absurd htag hne⟩
    · rintro ⟨h, -⟩
      exact h t (name_of_ofName? ht).symm
  | none =>
    have hnone : ∀ t : BuiltinType, tag ≠ t.name := by
      rintro t rfl
      simp at ht
    by_cases htag : tag = referenceType
    · subst htag
      by_cases hink : isInkText (ps.get? "ref") = true <;> simp [hink, hnone, faultIssues_eq_nil]
    · simp [htag, hnone]

lemma object_of_reads_record {α : Type} {name : String} {read : Fields Json → Decoded α} (v : Json)
    (h : Reads (record name read) v) : ∃ gs, v = .obj gs :=
  (reads_record.1 h).imp fun _ hgs => hgs.1

section Outcome
variable {ε α : Type}

lemma bind_eq_ok_nil {x : Except ε (List α)} {f : List α → List α} (h : ∀ a, f a = [] → a = []) :
    (x >>= fun a => pure (f a)) = .ok [] ↔ x = .ok [] ∧ f [] = [] := by
  cases x with
  | error e => simp [bind, Except.bind]
  | ok a =>
    simp only [bind, Except.bind, pure, Except.pure, Except.ok.injEq]
    constructor
    · intro hf
      obtain rfl := h a hf
      exact ⟨rfl, hf⟩
    · rintro ⟨rfl, hf⟩
      exact hf

lemma append_eq_ok_nil {x y : Except ε (List α)} :
    (x >>= fun a => y >>= fun b => pure (a ++ b)) = .ok [] ↔ x = .ok [] ∧ y = .ok [] := by
  cases x <;> cases y <;> simp [bind, Except.bind, pure, Except.pure]

end Outcome

/-- The walk finds nothing wrong with the nodes that pass. -/
theorem headIssues_eq_nil (path : String) :
    headIssues fs path = .ok [] ∧ (∀ v, fs.get? "children" = some v → ∃ cs, v = .arr cs) ↔
      RawNode.Passes fs := by
  have hstyle := recordIssues_eq_nil fs path "style" NodeStyle.decode object_of_reads_record
  have hresponsive := recordIssues_eq_nil fs path "responsive" ResponsiveStyle.decode
    object_of_reads_record
  have hinteractions := recordIssues_eq_nil fs path "interactions" Interactions.decode
    object_of_reads_record
  have hdata := recordIssues_eq_nil fs path "dataSource" DataSource.decode
    object_of_reads_record
  have htable : ∀ tag, fs.get? "type" = some (.str tag) →
      (propIssues (fs.get? "type") (propsOf fs) path = .ok [] ↔
        (∀ t : BuiltinType, RawNode.tag? fs = some t.name →
          (PropTable.allowed t).Admits (propsOf fs)) ∧
        (RawNode.tag? fs = some referenceType → isInkText ((propsOf fs).get? "ref") = true ∧
          (ReferenceProps.ofFields (propsOf fs)).faults = [])) := by
    intro tag htag
    simp only [htag, propIssues_text, RawNode.tag?, Option.bind_some, Json.asString?,
      Option.some.injEq]
  rw [headIssues, bind_eq_ok_nil (by simp +contextual)]
  simp only [List.append_eq_nil_iff, List.map_eq_nil_iff, sortedUnknown_eq_nil,
    expect_eq_nil, isObject_getD_iff, hstyle, hresponsive, hinteractions, hdata, and_true,
    and_assoc]
  constructor
  · rintro ⟨hissues, hknown, hid, htype, hobject, hs, hr, hi, hd, hchildren⟩
    obtain ⟨tag, htag, -⟩ := isInkText_iff.1 htype
    obtain ⟨hallowed, href⟩ := (htable tag htag).1 hissues
    exact ⟨⟨hknown, hid, htype, hobject, hchildren, hd⟩, hallowed, href, hs, hr, hi⟩
  · rintro ⟨⟨hknown, hid, htype, hobject, hchildren, hd⟩, hallowed, href, hs, hr, hi⟩
    obtain ⟨tag, htag, -⟩ := isInkText_iff.1 htype
    exact ⟨(htable tag htag).2 ⟨hallowed, href⟩, hknown, hid, htype, hobject, hs, hr, hi, hd,
      hchildren⟩

lemma childIssues_eq :
    childIssues path fs = match fs.get? "children" with
      | some v => listIssues path v
      | none => .ok [] := by
  induction fs with
  | nil => rfl
  | cons e fs ih =>
    obtain ⟨k, v⟩ := e
    rw [childIssues]
    by_cases hk : k = "children"
    · simp [hk]
    · simp [hk, ih, Ne.symm hk]

lemma itemIssues_eq_nil {cs : List Json} {good : Json → Prop}
    (h : ∀ c ∈ cs, ∀ path, nodeIssues path c = .ok [] ↔ good c) (i : Nat) :
    itemIssues path i cs = .ok [] ↔ ∀ c ∈ cs, good c := by
  induction cs generalizing i with
  | nil => simp [itemIssues]
  | cons c cs ih =>
    rw [itemIssues, append_eq_ok_nil, h c List.mem_cons_self,
      ih (fun c hc => h c (List.mem_cons_of_mem _ hc)), List.forall_mem_cons]

/-- The walk finds nothing wrong with exactly the walked trees, wherever they stand. -/
theorem nodeIssues_eq_nil (v : Json) (path : String) : nodeIssues path v = .ok [] ↔ Walked v := by
  induction hn : depth v using Nat.strongRecOn generalizing v path with
  | ind n ih =>
    cases v with
    | obj fs =>
      have hbelow : (∀ v, Fields.get? fs "children" = some v → ∃ cs, v = .arr cs) →
          (childIssues path fs = .ok [] ↔ ∀ c ∈ RawNode.children fs, Walked c) := by
        intro hlist
        rw [childIssues_eq]
        cases hchildren : Fields.get? fs "children" with
        | none => simp [RawNode.children, hchildren]
        | some w =>
          obtain ⟨cs, rfl⟩ := hlist w hchildren
          have hcs : RawNode.children fs = cs := by simp [RawNode.children, hchildren]
          rw [hcs]
          refine itemIssues_eq_nil (fun c hc path => ih _ ?_ c path rfl) 0
          rw [← hn]
          exact RawNode.depth_lt_of_mem_children (by rwa [hcs])
      have hlist : childIssues path fs = .ok [] →
          ∀ v, Fields.get? fs "children" = some v → ∃ cs, v = .arr cs := by
        intro h w hw
        rw [childIssues_eq, hw] at h
        cases w <;> simp_all [listIssues]
      rw [nodeIssues, append_eq_ok_nil, walked_obj, ← headIssues_eq_nil path]
      constructor
      · rintro ⟨hhead, hchildren⟩
        have hshape := hlist hchildren
        exact ⟨⟨hhead, hshape⟩, (hbelow hshape).1 hchildren⟩
      · rintro ⟨⟨hhead, hshape⟩, hchildren⟩
        exact ⟨hhead, (hbelow hshape).2 hchildren⟩
    | _ =>
      refine iff_of_false (by simp [nodeIssues]) ?_
      rintro ⟨⟩

end Walk
end Screenwright
