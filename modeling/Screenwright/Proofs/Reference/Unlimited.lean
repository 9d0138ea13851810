import Mathlib.Data.Finset.Card
import Screenwright.Proofs.Reference.Replacement

/-! Resolution without a limit on nested expansions. It ends for every registry, since each nested
expansion is one of a further definition, and the limit decides nothing where it is not smaller than
the number of definitions. -/
namespace Screenwright

/-- The ids that a registry defines and that are not being expanded. -/
def Registry.unexpanded (registry : Registry) (active : List String) : Finset String :=
  registry.keys.toFinset \ active.toFinset

namespace Node
variable {registry : Registry} {active : List String} {tree : Node}

/-- A further definition leaves fewer of them. -/
lemma card_unexpanded_lt {id : String} {d : ComponentDef} (hd : registry.get? id = some d)
    (hid : id ∉ active) :
    (registry.unexpanded (id :: active)).card < (registry.unexpanded active).card := by
  have hkey : id ∈ registry.keys := Fields.mem_keys_of_get? hd
  refine Finset.card_lt_card ((Finset.ssubset_iff_of_subset fun k hk => ?_).2 ⟨id, ?_, ?_⟩)
  · simp only [Registry.unexpanded, Finset.mem_sdiff, List.mem_toFinset, List.mem_cons,
      not_or] at hk ⊢
    exact ⟨hk.1, hk.2.2⟩
  · simpa [Registry.unexpanded] using ⟨hkey, hid⟩
  · simp [Registry.unexpanded]

/-- Resolution with no limit on the expansions inside one another. -/
def resolveFreely (registry : Registry) (active : List String) (tree : Node) : Node :=
  mapReferences
    (fun ref =>
      match referenceTarget? ref.props with
      | none => ref
      | some id =>
        match _ : registry.get? id with
        | none => ref.marked .missing
        | some d =>
          if _ : active.contains id then ref.marked .circular
          else match ref.expansion? d with
            | none => ref.marked .invalid
            | some next => resolveFreely registry (id :: active) next)
    tree
termination_by (registry.unexpanded active).card
decreasing_by
  have hid : ¬ active.contains id = true := ‹_›
  exact card_unexpanded_lt ‹_› (by simpa using hid)

/-- It is the same recursion as resolution within a depth, never stopped for its depth. -/
lemma resolveFreely_eq (registry : Registry) (active : List String) (tree : Node) :
    resolveFreely registry active tree =
      mapReferences (replacement registry active (some (resolveFreely registry))) tree := by
  rw [resolveFreely]
  congr 1
  funext ref
  unfold replacement
  cases referenceTarget? ref.props with
  | none => rfl
  | some id =>
    dsimp only
    split
    · next hd => rw [hd]
    · next d hd =>
      rw [hd]
      rfl

/-! ### Nested expansions -/

/-- The expansions that the recursion comes to at once from a tree: those of its outermost
references, each with the id of its definition added to those that are being expanded. -/
inductive Nests (registry : Registry) : List String × Node → List String × Node → Prop
  | expansion {active : List String} {tree ref next : Node} {id : String} {d : ComponentDef}
      (outermost : tree.IsOutermostReference ref) (target : referenceTarget? ref.props = some id)
      (definition : registry.get? id = some d) (inactive : id ∉ active)
      (expands : ref.expansion? d = some next) :
      Nests registry (active, tree) (id :: active, next)

/-- Each nested expansion adds a key of the registry. -/
lemma Nests.exists_new_key {active' : List String} {next : Node}
    (h : Nests registry (active, tree) (active', next)) :
    ∃ id d, registry.get? id = some d ∧ id ∉ active ∧ active' = id :: active := by
  cases h with
  | expansion _ _ definition inactive _ => exact ⟨_, _, definition, inactive, rfl⟩

lemma Nests.card_unexpanded_lt {state next : List String × Node} (h : Nests registry state next) :
    (registry.unexpanded next.1).card < (registry.unexpanded state.1).card := by
  obtain ⟨id, d, hd, hid, hactive⟩ := h.exists_new_key
  rw [hactive]
  exact Node.card_unexpanded_lt hd hid

/-- There is no endless chain of nested expansions. -/
theorem nests_wellFounded (registry : Registry) :
    WellFounded fun next state => Nests registry state next :=
  Subrelation.wf (fun h => h.card_unexpanded_lt)
    (InvImage.wf (fun state : List String × Node => (registry.unexpanded state.1).card)
      Nat.lt_wfRel.wf)

/-! ### The recursion hangs on nested expansions only -/

lemma mapReferences_congr {f g : Node → Node}
    (h : ∀ ref, tree.IsOutermostReference ref → f ref = g ref) :
    mapReferences f tree = mapReferences g tree := by
  induction tree using induction_outside with
  | reference n hn =>
    rw [mapReferences_of_reference f hn, mapReferences_of_reference g hn]
    exact h n ((isOutermostReference_self hn).2 rfl)
  | leaf e he => rw [mapReferences_leaf f he, mapReferences_leaf g he]
  | branch e cs he ih =>
    rw [mapReferences_branch f cs he, mapReferences_branch g cs he]
    congr 1
    exact List.map_congr_left fun c hc =>
      ih c hc fun ref href => h ref ((isOutermostReference_branch he).2 ⟨c, hc, href⟩)

/-- Whatever resolves the nested expansions alike resolves the tree alike. -/
theorem mapReferences_replacement_congr {f g : List String → Node → Node}
    (h : ∀ active' next, Nests registry (active, tree) (active', next) →
      f active' next = g active' next) :
    mapReferences (replacement registry active (some f)) tree =
      mapReferences (replacement registry active (some g)) tree := by
  refine mapReferences_congr fun ref href => ?_
  unfold replacement
  cases htarget : referenceTarget? ref.props with
  | none => rfl
  | some id =>
    dsimp only
    cases hd : registry.get? id with
    | none => rfl
    | some d =>
      dsimp only
      split_ifs with hactive
      · rfl
      · cases hnext : ref.expansion? d with
        | none => rfl
        | some next => exact h _ _ (.expansion href htarget hd (by simpa using hactive) hnext)

/-- Where every definition is being expanded, the depth does not matter. -/
lemma replacement_of_unexpanded_eq_empty (h : registry.unexpanded active = ∅)
    (next next' : Option (List String → Node → Node)) (ref : Node) :
    replacement registry active next ref = replacement registry active next' ref := by
  have hall : ∀ id d, registry.get? id = some d → active.contains id = true := by
    intro id d hd
    have hkey : id ∈ registry.keys := Fields.mem_keys_of_get? hd
    have hsub := Finset.sdiff_eq_empty_iff_subset.1 h
    simpa using hsub (List.mem_toFinset.2 hkey)
  unfold replacement
  cases referenceTarget? ref.props with
  | none => rfl
  | some id =>
    dsimp only
    cases hd : registry.get? id with
    | none => rfl
    | some d => dsimp only; rw [if_pos (hall id d hd), if_pos (hall id d hd)]

/-- A depth at which every definition has its turn is no limit. -/
theorem resolveWithin_eq_resolveFreely {depth : Nat}
    (h : (registry.unexpanded active).card ≤ depth) (tree : Node) :
    resolveWithin registry depth active tree = resolveFreely registry active tree := by
  -- on the depth: a nested expansion has one level less and one definition less
  induction depth generalizing active tree with
  | zero =>
    have hempty : registry.unexpanded active = ∅ := Finset.card_eq_zero.1 (Nat.le_zero.1 h)
    rw [resolveFreely_eq, resolveWithin_eq]
    exact mapReferences_congr fun ref _ => replacement_of_unexpanded_eq_empty hempty _ _ ref
  | succ depth ih =>
    rw [resolveFreely_eq, resolveWithin_eq]
    refine mapReferences_replacement_congr fun active' next hnests => ih ?_ next
    have hlt := hnests.card_unexpanded_lt
    dsimp only at hlt
    omega

/-- Resolution without a limit is the recursion that hangs, for each tree, on the expansions nested
in it. Each of these adds a key of the registry to those that are being expanded, so there is no
endless chain of them. With at most as many definitions as expansions may be inside one another, the
limit decides nothing. -/
theorem resolve_eq_resolveFreely (registry : Registry) :
    (∀ active tree (f : List String → Node → Node),
      (∀ active' next, Nests registry (active, tree) (active', next) →
        f active' next = resolveFreely registry active' next) →
      mapReferences (replacement registry active (some f)) tree =
        resolveFreely registry active tree) ∧
    (∀ active tree active' next, Nests registry (active, tree) (active', next) →
      ∃ id ∈ registry.keys, id ∉ active ∧ active' = id :: active) ∧
    WellFounded (fun next state => Nests registry state next) ∧
    (registry.keys.toFinset.card ≤ maxExpansionDepth →
      ∀ tree, tree.resolve registry = resolveFreely registry [] tree) := by
  refine ⟨fun active tree f hf => ?_, fun active tree active' next hnests => ?_,
    nests_wellFounded registry, fun hkeys tree => resolveWithin_eq_resolveFreely ?_ tree⟩
  · rw [resolveFreely_eq]
    exact mapReferences_replacement_congr hf
  · obtain ⟨id, d, hd, hid, hactive⟩ := hnests.exists_new_key
    exact ⟨id, Fields.mem_keys_of_get? hd, hid, hactive⟩
  · simpa [Registry.unexpanded] using hkeys

/-- Two components, each of which shows the other. -/
def mirrorRegistry : Registry :=
  [("left", ⟨"left", "Left",
      leaf { id := "left_root", type := referenceType, props := [("ref", .str "right")] }, none⟩),
    ("right", ⟨"right", "Right",
      leaf { id := "right_root", type := referenceType, props := [("ref", .str "left")] }, none⟩)]

def mirror : Node :=
  leaf { id := "mirror", type := referenceType, props := [("ref", .str "left")] }

/-- In a circle of two the recursion ends, as the limited one does, with the mark of a circle. -/
theorem resolve_eq_resolveFreely_mirror :
    mirror.resolve mirrorRegistry = resolveFreely mirrorRegistry [] mirror ∧
      (resolveFreely mirrorRegistry [] mirror).HasMark .circular := by
  have hfree : mirror.resolve mirrorRegistry = resolveFreely mirrorRegistry [] mirror :=
    (resolve_eq_resolveFreely mirrorRegistry).2.2.2 (by decide) mirror
  refine ⟨hfree, ?_⟩
  rw [← hfree]
  rfl

end Node
end Screenwright
