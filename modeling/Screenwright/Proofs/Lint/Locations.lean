import Screenwright.Plugin
import Screenwright.Proofs.Document.Paths
import Screenwright.Proofs.Lint.Verdict

/-! Where lint finds an id twice, and where plugins find something wrong. The paths that are
reported are paths of nodes, and the nodes they name are those with the mistake. -/
namespace Screenwright
open NodePath

/-! ### Repeated ids -/

/-- The paths of the nodes of an id, in the order of a walk. -/
def Node.pathsOf (tree : Node) (id : String) : List String :=
  ((tree.walk root).filter (·.1.id == id)).map Prod.snd

namespace Lint
variable {file path id : String} {tree : Node} {is : List LintIssue} {i : LintIssue}

/-- What lint says of a repeated id. -/
def repeatedId (file : String) (tree : Node) (id : String) : LintIssue :=
  ⟨file, .duplicateId,
    s!"Node ID '{id}' is used {(tree.pathsOf id).length} times: " ++ commaList (tree.pathsOf id)⟩

/-- The paths of the nodes of an id name nodes of that id. -/
lemma exists_locate?_of_mem_pathsOf (h : path ∈ tree.pathsOf id) :
    ∃ m, (m, path) ∈ tree.walk root ∧ m.id = id ∧
      locate? tree.toJson path = some (m.toJson, "") := by
  obtain ⟨⟨m, path⟩, hm, rfl⟩ := List.mem_map.1 h
  obtain ⟨hmem, hid⟩ := List.mem_filter.1 hm
  have hlocate := locate?_of_mem_walk hmem readStep?_empty
  rw [String.append_empty] at hlocate
  exact ⟨m, hmem, beq_iff_eq.1 hid, hlocate⟩

/-- The group of an id has the paths of its nodes. -/
lemma mem_grouped_walk {g : String × List String}
    (h : g ∈ grouped ((tree.walk root).map fun e => (e.1.id, e.2))) : g.2 = tree.pathsOf g.1 := by
  have hgroup := getD_get?_grouped ((tree.walk root).map fun e => (e.1.id, e.2)) g.1
  rw [Fields.get?_of_mem (nodup_keys_grouped _) h, Option.getD_some, List.filter_map,
    List.map_map] at hgroup
  exact hgroup

lemma mem_duplicateIds (h : i ∈ duplicateIds file tree) :
    ∃ id, 1 < (tree.pathsOf id).length ∧ i = repeatedId file tree id := by
  obtain ⟨g, hg, hi⟩ := List.mem_filterMap.1 h
  rw [mem_grouped_walk hg] at hi
  split at hi
  · next hlong => exact ⟨g.1, hlong, (Option.some.inj hi).symm⟩
  · cases hi

lemma rule_of_mem_nodeIssues {n : Node} (h : i ∈ nodeIssues file path n) :
    i.rule ≠ .duplicateId := by
  have hone : ∀ {wrong : Bool} {rule message}, rule ≠ LintRule.duplicateId →
      i ∈ (if wrong then [LintIssue.mk file rule message] else []) → i.rule ≠ .duplicateId := by
    intro wrong rule message hrule hi
    cases wrong with
    | false => cases hi
    | true =>
      obtain rfl := List.mem_singleton.1 hi
      exact hrule
  unfold nodeIssues at h
  split at h
  · exact hone (by decide) h
  · exact hone (by decide) h
  · exact hone (by decide) h
  · cases h

/-- Looking at one node after another finds no repeated id. -/
lemma rule_of_nodesIssues {seen : List Json} {walked : List (Node × String)}
    (h : nodesIssues file seen walked = .ok is) : ∀ i ∈ is, i.rule ≠ .duplicateId := by
  induction walked generalizing seen is with
  | nil =>
    cases h
    exact nofun
  | cons e walked ih =>
    obtain ⟨n, path⟩ := e
    have hown : ∀ i ∈ childrenIssues file path n ++ nodeIssues file path n,
        i.rule ≠ .duplicateId := fun i hi =>
      (List.mem_append.1 hi).elim (fun h => by simp [rule_of_mem_childrenIssues h])
        rule_of_mem_nodeIssues
    unfold nodesIssues at h
    split at h
    · obtain ⟨heading, hheading, h⟩ := bind_eq_ok_iff.1 h
      obtain ⟨rest, hrest, h⟩ := bind_eq_ok_iff.1 h
      cases h
      rw [List.forall_mem_append, List.forall_mem_append]
      exact ⟨⟨hown, fun i hi => by simp [rule_of_headingIssue hheading hi]⟩, ih hrest⟩
    · obtain ⟨rest, hrest, h⟩ := bind_eq_ok_iff.1 h
      cases h
      exact List.forall_mem_append.2 ⟨hown, ih hrest⟩

lemma rule_of_mem_crossIssues {screens : List (String × ScreenSpec)}
    (h : i ∈ crossIssues screens) : i.rule ≠ .duplicateId := by
  rcases List.mem_append.1 h with h | h
  all_goals
    obtain ⟨g, -, hi⟩ := List.mem_filterMap.1 h
    split at hi
    · rw [← Option.some.inj hi]
      exact nofun
    · cases hi

/-- Lint says that an id is repeated where a valid screen has it more than once. -/
theorem exists_repeatedId {v : Validator} {subjects : List Subject}
    (h : issues v subjects = .ok is) (hi : i ∈ is) (hrule : i.rule = .duplicateId) :
    ∃ s ∈ subjects, ∃ spec, v.screen s.name s.document = .ok spec ∧
      ∃ id, 1 < (spec.tree.pathsOf id).length ∧ i = repeatedId s.file spec.tree id := by
  obtain ⟨results, hresults, rfl⟩ := map_eq_ok_iff.1 h
  rcases List.mem_append.1 hi with hi | hi
  · obtain ⟨r, hr, hi⟩ := List.mem_flatMap.1 hi
    obtain ⟨s, hs, hscreen⟩ := exists_of_mem_mapM hresults hr
    refine ⟨s, hs, ?_⟩
    unfold screenIssues at hscreen
    split at hscreen
    · cases hscreen
    · cases hscreen
      obtain rfl := List.mem_singleton.1 hi
      cases hrule
    · next spec hspec =>
      obtain ⟨own, hown, rfl⟩ := map_eq_ok_iff.1 hscreen
      obtain ⟨nodes, hnodes, rfl⟩ := map_eq_ok_iff.1 hown
      rcases List.mem_append.1 hi with hi | hi
      · exact ⟨spec, hspec, mem_duplicateIds hi⟩
      · exact absurd hrule (rule_of_nodesIssues hnodes i hi)
  · exact absurd hrule (rule_of_mem_crossIssues hi)

end Lint

/-! ### Plugins -/

namespace PluginRegistry
variable {r : PluginRegistry} {n : Node} {path suffix : String} {i : Issue}

/-- What is wrong with a node under its plugin: the part of the node, as it ends a path, and what is
said of it. -/
inductive IsFault (r : PluginRegistry) (n : Node) : String → String → Prop where
  | missing {p : NodePlugin} {name : String} (hp : r.get? n.type = some p)
      (hname : name ∈ p.props.missing n.props) :
      IsFault r n ".props" s!"missing required prop '{name}'"
  | prop {p : NodePlugin} {name message : String} {value : Json} (hp : r.get? n.type = some p)
      (hvalue : (name, value) ∈ n.props) (hmessage : p.props.checkEntry name value = some message) :
      IsFault r n (".props." ++ name) message
  | children {p : NodePlugin} (hp : r.get? n.type = some p) (hchildren : n.children ≠ [])
      (haccepts : p.acceptsChildren = false) :
      IsFault r n ".children" (n.type ++ " does not accept children")

lemma IsFault.readStep?_eq_none {message : String} (h : r.IsFault n suffix message) :
    readStep? suffix.toList = none := by
  cases h with
  | missing => exact readStep?_eq_none rfl
  | prop =>
    rw [String.toList_append]
    exact readStep?_eq_none rfl
  | children => exact readStep?_eq_none rfl

/-- The issues of a node are its faults, at its path. -/
lemma exists_isFault (h : i ∈ r.nodeIssues n path) :
    ∃ suffix, i.path = path ++ suffix ∧ r.IsFault n suffix i.message := by
  unfold nodeIssues at h
  split at h
  · cases h
  next p hp =>
  rcases List.mem_append.1 h with h | h
  · rcases List.mem_append.1 h with h | h
    · obtain ⟨name, hname, rfl⟩ := List.mem_map.1 h
      exact ⟨".props", rfl, .missing hp hname⟩
    · obtain ⟨⟨name, value⟩, hvalue, h⟩ := List.mem_filterMap.1 h
      obtain ⟨message, hmessage, rfl⟩ := Option.map_eq_some_iff.1 h
      exact ⟨".props." ++ name, String.append_assoc .., .prop hp hvalue hmessage⟩
  · split at h
    · next hrefused =>
      obtain rfl := List.mem_singleton.1 h
      rw [Bool.and_eq_true, Bool.not_eq_true', Bool.not_eq_true', List.isEmpty_eq_false_iff]
        at hrefused
      exact ⟨".children", rfl, .children hp hrefused.1 hrefused.2⟩
    · cases h

end PluginRegistry

/-- A walk meets every node of a tree once, parents first and siblings in order, each at a path of
its own that leads to the document of the node in the document of the tree. What lint says of a
repeated id lists the paths of the nodes that have it, and what plugins say of a tree is said at the
path of the node that is at fault. -/
theorem reports_locate :
    (∀ tree : Node,
      (∃ ps, tree.IsWalkOrder ps ∧ (tree.walk "tree").map (fun e => (some e.1, e.2)) =
        ps.map fun p => (tree.at? p, ofPosition p)) ∧
      ((tree.walk "tree").map Prod.snd).Nodup ∧
      ∀ e ∈ tree.walk "tree", locate? tree.toJson e.2 = some (e.1.toJson, "")) ∧
    (∀ (v : Validator) (subjects : List Lint.Subject) (is : List LintIssue),
      Lint.issues v subjects = .ok is → ∀ i ∈ is, i.rule = .duplicateId →
        ∃ s ∈ subjects, ∃ spec, v.screen s.name s.document = .ok spec ∧
          ∃ id, i = Lint.repeatedId s.file spec.tree id ∧ 1 < (spec.tree.pathsOf id).length ∧
            ∀ path ∈ spec.tree.pathsOf id, ∃ m, (m, path) ∈ spec.tree.walk "tree" ∧ m.id = id ∧
              locate? spec.tree.toJson path = some (m.toJson, "")) ∧
    ∀ (r : PluginRegistry) (tree : Node), ∀ i ∈ r.treeIssues tree,
      ∃ m path suffix, (m, path) ∈ tree.walk "tree" ∧ r.IsFault m suffix i.message ∧
        i.path = path ++ suffix ∧ locate? tree.toJson i.path = some (m.toJson, suffix) := by
  refine ⟨fun tree => ⟨⟨tree.positions, tree.isWalkOrder_positions, tree.walk_eq_positions root⟩,
    nodup_walk tree, fun e he => ?_⟩, fun v subjects is h i hi hrule => ?_, fun r tree i hi => ?_⟩
  · have hlocate := locate?_of_mem_walk he readStep?_empty
    rwa [String.append_empty] at hlocate
  · obtain ⟨s, hs, spec, hspec, id, hlong, hrepeated⟩ := Lint.exists_repeatedId h hi hrule
    exact ⟨s, hs, spec, hspec, id, hrepeated, hlong,
      fun path hpath => Lint.exists_locate?_of_mem_pathsOf hpath⟩
  · obtain ⟨⟨m, path⟩, hm, hi⟩ := List.mem_flatMap.1 hi
    obtain ⟨suffix, hpath, hfault⟩ := PluginRegistry.exists_isFault hi
    refine ⟨m, path, suffix, hm, hfault, hpath, ?_⟩
    rw [hpath]
    exact locate?_of_mem_walk hm hfault.readStep?_eq_none

/-- Charts, which have a title and no children. -/
def charts : PluginRegistry :=
  ⟨[{ type := "Chart", label := "Chart",
      props := [("title", { type := .string, required := true })],
      markup := .template "", targets := [], acceptsChildren := false }]⟩

/-- A page with a chart that has a note below it, but no title. -/
def chartPage : Node :=
  .branch { id := "page", type := "Stack" }
    [.leaf { id := "name", type := "Text" },
      .branch { id := "chart", type := "Chart" } [.leaf { id := "note", type := "Text" }]]

/-- Lint finds the id of the root again at its third child, and a chart is at fault for its props
and for its children. -/
theorem reports_locate_pictures :
    (∃ is, Lint.issues .walk [Lint.gallery "a" "/a" "A hill" "root"] = .ok is ∧ ∃ i ∈ is,
      i.message = "Node ID 'root' is used 2 times: tree, tree.children[2]" ∧
      ∃ spec : ScreenSpec, ∃ id, 1 < (spec.tree.pathsOf id).length ∧
        ∀ path ∈ spec.tree.pathsOf id, ∃ m : Node, m.id = id ∧
          locate? spec.tree.toJson path = some (m.toJson, "")) ∧
    ∀ part ∈ [".props", ".children"], ∃ i ∈ charts.treeIssues chartPage,
      i.path = "tree.children[1]" ++ part ∧ ∃ m suffix, charts.IsFault m suffix i.message ∧
        locate? chartPage.toJson i.path = some (m.toJson, suffix) := by
  obtain ⟨-, hlint, hplugins⟩ := reports_locate
  constructor
  · obtain ⟨is, his, heq⟩ := exists_ok_of_toOption
      (b := some "Node ID 'root' is used 2 times: tree, tree.children[2]")
      (x := Lint.issues .walk [Lint.gallery "a" "/a" "A hill" "root"])
      (f := fun is => (is.find? (·.rule = .duplicateId)).map (·.message)) (by decide +kernel)
    obtain ⟨i, hi, hmessage⟩ := Option.map_eq_some_iff.1 heq
    have hrule : i.rule = .duplicateId := by simpa using List.find?_some hi
    obtain ⟨-, -, spec, -, id, -, hlong, hpaths⟩ :=
      hlint _ _ is his i (List.mem_of_find?_eq_some hi) hrule
    refine ⟨is, his, i, List.mem_of_find?_eq_some hi, hmessage, spec, id, hlong, ?_⟩
    intro path hpath
    obtain ⟨m, -, hm⟩ := hpaths path hpath
    exact ⟨m, hm⟩
  · intro part hpart
    have hissue : ∀ part ∈ [".props", ".children"], ∃ i ∈ charts.treeIssues chartPage,
        i.path = "tree.children[1]" ++ part := by decide +kernel
    obtain ⟨i, hi, hpath⟩ := hissue part hpart
    obtain ⟨m, -, suffix, -, hfault, -, hlocate⟩ := hplugins charts chartPage i hi
    exact ⟨i, hi, hpath, m, suffix, hfault, hlocate⟩

end Screenwright
