import Screenwright.Lint
import Screenwright.Proofs.Compilation.Totality
import Screenwright.Proofs.Record.Merging

/-! When lint finds no error: every screen is valid and free of the errors within screens, and no
two of them have one route. -/
namespace Screenwright

namespace Lint
variable {es : List (String × String)} {file : String} {is : List LintIssue}

/-! ### Groups -/

lemma grouped_concat (es : List (String × String)) (e : String × String) :
    grouped (es ++ [e]) =
      Fields.set (grouped es) e.1 ((Fields.get? (grouped es) e.1).getD [] ++ [e.2]) := by
  rw [grouped, List.foldl_append, ← grouped]
  rfl

lemma nodup_keys_grouped (es : List (String × String)) : (Fields.keys (grouped es)).Nodup := by
  induction es using List.reverseRecOn with
  | nil => exact List.nodup_nil
  | append_singleton es e ih =>
    rw [grouped_concat]
    exact Fields.nodup_keys_set ih

/-- The group of a key has the values of its entries in order; a key without entries has none. -/
lemma getD_get?_grouped (es : List (String × String)) (key : String) :
    (Fields.get? (grouped es) key).getD [] = (es.filter (·.1 == key)).map Prod.snd := by
  induction es using List.reverseRecOn with
  | nil => rfl
  | append_singleton es e ih =>
    rw [grouped_concat, Fields.get?_set, List.filter_append, List.map_append, ← ih]
    by_cases h : key = e.1
    · simp [h]
    · simp [h, Ne.symm h]

lemma length_of_mem_grouped {g : String × List String} (h : g ∈ grouped es) :
    g.2.length = (es.map Prod.fst).count g.1 := by
  have hgroup := getD_get?_grouped es g.1
  rw [Fields.get?_of_mem (nodup_keys_grouped es) h, Option.getD_some] at hgroup
  rw [hgroup, List.length_map, List.count, List.countP_map, List.countP_eq_length_filter]
  rfl

lemma exists_mem_grouped {e : String × String} (h : e ∈ es) : ∃ g ∈ grouped es, g.1 = e.1 := by
  cases hgroup : Fields.get? (grouped es) e.1 with
  | some values => exact ⟨_, Fields.mem_of_get? hgroup, rfl⟩
  | none =>
    have hvalues := getD_get?_grouped es e.1
    rw [hgroup, Option.getD_none] at hvalues
    have hmem : e.2 ∈ (es.filter (·.1 == e.1)).map Prod.snd :=
      List.mem_map_of_mem (List.mem_filter.2 ⟨h, by simp⟩)
    rw [← hvalues] at hmem
    cases hmem

/-- No group has several values exactly when no key has several entries. -/
lemma forall_grouped_iff :
    (∀ g ∈ grouped es, ¬ 1 < g.2.length) ↔ (es.map Prod.fst).Nodup := by
  rw [List.nodup_iff_count_le_one]
  constructor
  · intro h key
    by_cases hkey : key ∈ es.map Prod.fst
    · obtain ⟨e, he, rfl⟩ := List.mem_map.1 hkey
      obtain ⟨g, hg, hge⟩ := exists_mem_grouped he
      have hgroup := h g hg
      rw [length_of_mem_grouped hg, hge] at hgroup
      exact Nat.le_of_not_lt hgroup
    · rw [List.count_eq_zero_of_not_mem hkey]
      exact Nat.zero_le 1
  · intro h g hg
    rw [length_of_mem_grouped hg]
    exact Nat.not_lt.2 (h g.1)

/-! ### Errors -/

lemma hasErrors_eq_false : hasErrors is = false ↔ ∀ i ∈ is, i.rule.severity = .warn := by
  have hwarn : ∀ s : Severity, s ≠ .error ↔ s = .warn := by
    intro s
    cases s <;> simp
  simp [hasErrors, LintIssue.severity, hwarn]

@[simp] lemma hasErrors_nil : hasErrors [] = false := rfl

lemma hasErrors_append {js : List LintIssue} :
    hasErrors (is ++ js) = false ↔ hasErrors is = false ∧ hasErrors js = false := by
  simp [hasErrors]

/-- The mistakes of groups with several values are errors where their rule is an error. -/
lemma hasErrors_groups (rule : LintRule) (hrule : rule.severity = .error)
    {issue : String × List String → LintIssue} (hissue : ∀ g, (issue g).rule = rule) :
    hasErrors ((grouped es).filterMap fun g => if 1 < g.2.length then some (issue g) else none) =
      false ↔ (es.map Prod.fst).Nodup := by
  rw [hasErrors_eq_false, ← forall_grouped_iff]
  constructor
  · intro h g hg hlong
    have hwarn := h (issue g) (List.mem_filterMap.2 ⟨g, hg, if_pos hlong⟩)
    rw [hissue, hrule] at hwarn
    cases hwarn
  · intro h i hi
    obtain ⟨g, hg, hsome⟩ := List.mem_filterMap.1 hi
    rw [if_neg (h g hg)] at hsome
    cases hsome

lemma hasErrors_groups_warn (rule : LintRule) (hrule : rule.severity = .warn)
    {issue : String × List String → LintIssue} (hissue : ∀ g, (issue g).rule = rule) :
    hasErrors ((grouped es).filterMap fun g => if 1 < g.2.length then some (issue g) else none) =
      false := by
  rw [hasErrors_eq_false]
  intro i hi
  obtain ⟨g, -, hsome⟩ := List.mem_filterMap.1 hi
  split at hsome
  · rw [← Option.some.inj hsome, hissue, hrule]
  · cases hsome

/-! ### One screen -/

lemma hasErrors_duplicateIds (file : String) (tree : Node) :
    hasErrors (duplicateIds file tree) = false ↔ tree.ids.Nodup := by
  rw [duplicateIds, hasErrors_groups .duplicateId rfl fun _ => rfl]
  rw [List.map_map, Node.ids, ← Node.map_fst_walk tree "tree", List.map_map]
  rfl

/-- An image says in a text what it shows. -/
def IsDescribed (n : Node) : Prop :=
  n.type = BuiltinType.image.name →
    ∃ alt, Fields.get? n.props "alt" = some (.str alt) ∧ Text.hasInk alt = true

lemma hasText_iff {n : Node} {prop : String} : hasText n prop = true ↔
    ∃ text, Fields.get? n.props prop = some (.str text) ∧ Text.hasInk text = true := by
  unfold hasText
  split
  · next text htext => simp [htext]
  · next hnone =>
    refine iff_of_false (by simp) ?_
    rintro ⟨text, htext, -⟩
    exact hnone text htext

lemma rule_of_mem_childrenIssues {i : LintIssue} {path : String} {n : Node}
    (h : i ∈ childrenIssues file path n) : i.rule = .emptyChildren := by
  unfold childrenIssues at h
  split at h
  · rw [List.mem_singleton.1 h]
  · cases h

lemma hasErrors_childrenIssues (file path : String) (n : Node) :
    hasErrors (childrenIssues file path n) = false :=
  hasErrors_eq_false.2 fun _ hi => congrArg LintRule.severity (rule_of_mem_childrenIssues hi)

/-- Of the mistakes of one node only an image without a text is an error. -/
lemma hasErrors_nodeIssues (file path : String) (n : Node) :
    hasErrors (nodeIssues file path n) = false ↔ IsDescribed n := by
  have hother : BuiltinType.ofName? n.type ≠ some .image → IsDescribed n := by
    intro hne htype
    rw [htype] at hne
    exact absurd (BuiltinType.ofName?_name .image) hne
  unfold nodeIssues
  split
  · next himage =>
    have hdescribed : IsDescribed n ↔ hasText n "alt" = true := by
      rw [hasText_iff]
      exact ⟨fun h => h (Walk.name_of_ofName? himage).symm, fun h _ => h⟩
    rw [hdescribed]
    cases hasText n "alt" <;> simp [hasErrors, LintIssue.severity, LintRule.severity]
  · next hbutton =>
    refine iff_of_true ?_ (hother (by simp [hbutton]))
    cases hasText n "label" <;> rfl
  · next hlink =>
    refine iff_of_true ?_ (hother (by simp [hlink]))
    cases hasText n "text" <;> rfl
  · next hnone _ _ => exact iff_of_true rfl (hother hnone)

section
variable {seen : List Json} {level : Json} {path : String} {heading : Option LintIssue}

lemma rule_of_headingIssue {i : LintIssue} (h : headingIssue? file path seen level = .ok heading)
    (hi : i ∈ heading.toList) : i.rule = .headingHierarchy := by
  obtain ⟨above, -, rfl⟩ := map_eq_ok_iff.1 h
  cases above with
  | none => cases hi
  | some above =>
    simp only [Option.bind_eq_bind, Option.bind_some] at hi
    split at hi
    · cases hi
    · rw [List.mem_singleton.1 hi]

lemma hasErrors_headingIssue (h : headingIssue? file path seen level = .ok heading) :
    hasErrors heading.toList = false :=
  hasErrors_eq_false.2 fun _ hi => congrArg LintRule.severity (rule_of_headingIssue h hi)

end

/-- Lint of nodes in order finds an error exactly at the images without a text. -/
lemma hasErrors_nodesIssues {seen : List Json} {walked : List (Node × String)}
    (h : nodesIssues file seen walked = .ok is) :
    hasErrors is = false ↔ ∀ n ∈ walked.map Prod.fst, IsDescribed n := by
  induction walked generalizing seen is with
  | nil =>
    cases h
    simp
  | cons e walked ih =>
    obtain ⟨n, path⟩ := e
    have hown : hasErrors (childrenIssues file path n ++ nodeIssues file path n) = false ↔
        IsDescribed n := by
      rw [hasErrors_append, hasErrors_nodeIssues]
      exact and_iff_right (hasErrors_childrenIssues file path n)
    rw [List.map_cons, List.forall_mem_cons]
    unfold nodesIssues at h
    split at h
    · obtain ⟨heading, hheading, h⟩ := bind_eq_ok_iff.1 h
      obtain ⟨rest, hrest, h⟩ := bind_eq_ok_iff.1 h
      cases h
      rw [hasErrors_append, hasErrors_append, hown, ih hrest]
      simp [hasErrors_headingIssue hheading]
    · obtain ⟨rest, hrest, h⟩ := bind_eq_ok_iff.1 h
      cases h
      rw [hasErrors_append, hown, ih hrest]

/-- A screen without the mistakes within one screen that are errors. -/
structure IsFaultless (spec : ScreenSpec) : Prop where
  ids : spec.tree.ids.Nodup
  images : ∀ n ∈ spec.tree.nodes, IsDescribed n

lemma hasErrors_treeIssues {spec : ScreenSpec} (h : treeIssues file spec.tree = .ok is) :
    hasErrors is = false ↔ IsFaultless spec := by
  obtain ⟨own, hown, rfl⟩ := map_eq_ok_iff.1 h
  rw [hasErrors_append, hasErrors_duplicateIds, hasErrors_nodesIssues hown, Node.map_fst_walk]
  exact ⟨fun h => ⟨h.1, h.2⟩, fun h => ⟨h.ids, h.images⟩⟩

variable {v : Validator} {s : Subject} {spec : ScreenSpec}
  {r : List LintIssue × Option (String × ScreenSpec)}

/-- The document of a valid and faultless screen. -/
def Holds (v : Validator) (s : Subject) (spec : ScreenSpec) : Prop :=
  v.screen s.name s.document = .ok spec ∧ IsFaultless spec

/-- Lint of one screen finds no error exactly when the screen is valid and faultless. -/
lemma hasErrors_screenIssues (h : screenIssues v s = .ok r) :
    hasErrors r.1 = false ↔ ∃ spec, Holds v s spec := by
  unfold screenIssues at h
  split at h
  · cases h
  · next e he =>
    cases h
    simp [Holds, he, hasErrors, LintIssue.severity, LintRule.severity]
  · next spec hspec =>
    obtain ⟨own, hown, rfl⟩ := map_eq_ok_iff.1 h
    simp [Holds, hspec, hasErrors_treeIssues hown]

/-- What is looked at across screens are the valid ones. -/
lemma snd_of_screenIssues (h : screenIssues v s = .ok r)
    (hspec : v.screen s.name s.document = .ok spec) : r.2 = some (s.file, spec) := by
  rw [screenIssues, hspec] at h
  obtain ⟨own, -, rfl⟩ := map_eq_ok_iff.1 h
  rfl

/-! ### All screens -/

lemma hasErrors_crossIssues (screens : List (String × ScreenSpec)) :
    hasErrors (crossIssues screens) = false ↔ (screens.map fun e => e.2.route).Nodup := by
  rw [crossIssues, hasErrors_append, hasErrors_groups .duplicateRoute rfl fun _ => rfl,
    List.map_map]
  exact and_iff_left (hasErrors_groups_warn .sharedId rfl fun _ => rfl)

variable {subjects : List Subject} {results : List (List LintIssue × Option (String × ScreenSpec))}

lemma hasErrors_flatMap (h : List.Forall₂ (fun s r => screenIssues v s = .ok r) subjects results) :
    hasErrors (results.flatMap Prod.fst) = false ↔
      ∃ specs, List.Forall₂ (Holds v) subjects specs := by
  induction h with
  | nil => exact iff_of_true rfl ⟨[], .nil⟩
  | cons hs _ ih =>
    rw [List.flatMap_cons, hasErrors_append, hasErrors_screenIssues hs, ih]
    constructor
    · rintro ⟨⟨spec, hspec⟩, specs, hspecs⟩
      exact ⟨spec :: specs, .cons hspec hspecs⟩
    · rintro ⟨_, hspecs⟩
      obtain ⟨spec, specs, hspec, hspecs, -⟩ := List.forall₂_cons_left_iff.1 hspecs
      exact ⟨⟨spec, hspec⟩, specs, hspecs⟩

lemma filterMap_snd (h : List.Forall₂ (fun s r => screenIssues v s = .ok r) subjects results)
    {specs : List ScreenSpec} (hspecs : List.Forall₂ (Holds v) subjects specs) :
    (results.filterMap Prod.snd).map Prod.snd = specs := by
  induction hspecs generalizing results with
  | nil =>
    cases h
    rfl
  | @cons s spec _ _ hspec _ ih =>
    obtain ⟨r, results, hs, hresults, rfl⟩ := List.forall₂_cons_left_iff.1 h
    rw [List.filterMap_cons_some (snd_of_screenIssues hs hspec.1), List.map_cons, ih hresults]

/-- Where lint gives an answer, it finds no error exactly when every screen is valid, has each id
once and describes its images, and no two screens have one route. -/
theorem hasErrors_issues_eq_false_iff (h : issues v subjects = .ok is) :
    hasErrors is = false ↔
      ∃ specs, List.Forall₂ (Holds v) subjects specs ∧ (specs.map (·.route)).Nodup := by
  obtain ⟨results, hresults, rfl⟩ := map_eq_ok_iff.1 h
  rw [mapM_eq_ok_iff] at hresults
  rw [hasErrors_append, hasErrors_flatMap hresults, hasErrors_crossIssues, exists_and_right.symm]
  refine exists_congr fun specs => and_congr_right fun hspecs => ?_
  rw [← filterMap_snd hresults hspecs, List.map_map]
  rfl

/-- A screen with a heading that has no level above it, an image, and a box with an id. -/
def gallery (file route alt id : String) : Subject where
  file := file
  name := file
  document := .obj [("version", .int 1), ("route", .str route), ("tree", .obj [
    ("id", .str "root"), ("type", .str "Stack"), ("children", .arr [
      .obj [("id", .str "title"), ("type", .str "Heading"),
        ("props", .obj [("text", .str "Pictures"), ("level", .int 3)])],
      .obj [("id", .str "picture"), ("type", .str "Image"),
        ("props", .obj [("src", .str "a.png"), ("alt", .str alt)])],
      .obj [("id", .str id), ("type", .str "Box"), ("children", .arr [])]])])]

/-- Lint finds only warnings in two screens, and errors when the second has an id twice, an image
with a blank text, or the route of the first. -/
theorem hasErrors_issues_eq_false_iff_gallery :
    (∃ is, issues .walk [gallery "a" "/a" "A hill" "box", gallery "b" "/b" "A lake" "box"] = .ok is ∧
      is ≠ [] ∧ ∃ specs, List.Forall₂ (Holds .walk)
        [gallery "a" "/a" "A hill" "box", gallery "b" "/b" "A lake" "box"] specs ∧
        (specs.map (·.route)).Nodup) ∧
    ∀ second ∈ [gallery "b" "/b" "A lake" "root", gallery "b" "/b" "\t" "box",
        gallery "b" "/a" "A lake" "box"],
      ¬ ∃ specs, List.Forall₂ (Holds .walk) [gallery "a" "/a" "A hill" "box", second] specs ∧
        (specs.map (·.route)).Nodup := by
  constructor
  · obtain ⟨is, his, heq⟩ := exists_ok_of_toOption (b := (8, false))
      (x := issues .walk [gallery "a" "/a" "A hill" "box", gallery "b" "/b" "A lake" "box"])
      (f := fun is => (is.length, hasErrors is)) (by decide +kernel)
    obtain ⟨hcount, herrors⟩ := Prod.mk.inj heq
    have hne : is ≠ [] := by
      rintro rfl
      cases hcount
    exact ⟨is, his, hne, (hasErrors_issues_eq_false_iff his).1 herrors⟩
  · intro second hsecond
    have herror : ∀ second ∈ [gallery "b" "/b" "A lake" "root", gallery "b" "/b" "\t" "box",
        gallery "b" "/a" "A lake" "box"],
        (issues .walk [gallery "a" "/a" "A hill" "box", second]).toOption.map hasErrors =
          some true := by decide +kernel
    obtain ⟨is, his, herrors⟩ := exists_ok_of_toOption (herror second hsecond)
    rw [← hasErrors_issues_eq_false_iff his, herrors]
    decide

end Lint
end Screenwright
