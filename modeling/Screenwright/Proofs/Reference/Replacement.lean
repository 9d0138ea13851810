import Screenwright.Proofs.Reference.Expansion
import Screenwright.Proofs.Reference.Remaining

/-! What can replace a reference, each case with its condition, and what resolution leaves alone. -/
namespace Screenwright
namespace Node
variable {registry : Registry} {active : List String} {ref : Node}

/-- A reference whose props can be read and name a definition. -/
structure IsInstanceOf (registry : Registry) (ref : Node) (r : ReferenceProps)
    (d : ComponentDef) : Prop where
  reference : ref.type = referenceType
  props : ReferenceProps.ofFields ref.props = .ok r
  definition : registry.get? r.ref = some d

/-- The outcomes of a replacement. -/
inductive Replaced (registry : Registry) (active : List String)
    (next : Option (List String → Node → Node)) (ref : Node) : Node → Prop
  | untargeted (target : referenceTarget? ref.props = none) : Replaced registry active next ref ref
  | missing (id : String) (target : referenceTarget? ref.props = some id)
      (definition : registry.get? id = none) :
      Replaced registry active next ref (ref.marked .missing)
  | circular (id : String) (target : referenceTarget? ref.props = some id)
      (stopped : id ∈ active ∨ next = none) :
      Replaced registry active next ref (ref.marked .circular)
  | invalid (id : String) (d : ComponentDef) (target : referenceTarget? ref.props = some id)
      (definition : registry.get? id = some d) (malformed : ref.expansion? d = none) :
      Replaced registry active next ref (ref.marked .invalid)
  | expanded (r : ReferenceProps) (d : ComponentDef) (resolveNext : List String → Node → Node)
      (tree : Node) (target : referenceTarget? ref.props = some r.ref)
      (instantiates : ref.IsInstanceOf registry r d) (further : next = some resolveNext)
      (expansion : ref.expansion? d = some tree) :
      Replaced registry active next ref (resolveNext (r.ref :: active) tree)

/-- A reference is kept, marked or expanded. -/
theorem replaced (next : Option (List String → Node → Node)) (href : ref.type = referenceType) :
    Replaced registry active next ref (replacement registry active next ref) := by
  unfold replacement
  cases hid : referenceTarget? ref.props with
  | none => exact .untargeted hid
  | some id =>
    dsimp only
    cases hd : registry.get? id with
    | none => exact .missing id hid hd
    | some d =>
      dsimp only
      split
      case isTrue hactive => exact .circular id hid (.inl (by simpa using hactive))
      case isFalse =>
        cases next with
        | none => exact .circular id hid (.inr rfl)
        | some resolveNext =>
          cases htree : ref.expansion? d with
          | none => exact .invalid id d hid hd htree
          | some tree =>
            obtain ⟨r, _, _, hr, -⟩ := expansion?_eq_some htree
            have hget := ReferenceProps.get?_ref_of_ofFields hr
            rw [get?_ref_of_target hid] at hget
            cases hget
            exact .expanded r d resolveNext tree hid ⟨href, hr, hd⟩ rfl htree

/-- What may resolve the expansions at a depth. -/
def nextWithin (registry : Registry) : Nat → Option (List String → Node → Node)
  | 0 => none
  | depth + 1 => some (resolveWithin registry depth)

lemma resolveWithin_eq (registry : Registry) (depth : Nat) (active : List String) :
    resolveWithin registry depth active =
      mapReferences (replacement registry active (nextWithin registry depth)) := by
  cases depth <;> rfl

lemma nextWithin_eq_some {depth : Nat} {resolveNext : List String → Node → Node}
    (h : nextWithin registry depth = some resolveNext) :
    ∃ rest, depth = rest + 1 ∧ resolveNext = resolveWithin registry rest := by
  cases depth with
  | zero => cases h
  | succ rest => exact ⟨rest, rfl, (Option.some.inj h).symm⟩

lemma nextWithin_eq_none {depth : Nat} (h : nextWithin registry depth = none) : depth = 0 := by
  cases depth with
  | zero => rfl
  | succ rest => cases h

/-- Resolution replaces the root of a reference. -/
lemma resolveWithin_of_reference (depth : Nat) (href : ref.type = referenceType) :
    Replaced registry active (nextWithin registry depth) ref
      (resolveWithin registry depth active ref) := by
  rw [resolveWithin_eq, mapReferences_of_reference _ href]
  exact replaced _ href

/-- Resolution changes no other root. -/
lemma head_resolveWithin (depth : Nat) {n : Node} (hn : n.type ≠ referenceType) :
    (resolveWithin registry depth active n).head = n.head := by
  rw [resolveWithin_eq]
  cases n with
  | leaf e => rw [mapReferences_leaf (e := e) _ hn]
  | branch e cs => rw [mapReferences_branch (e := e) _ cs hn, head_branch, head_branch]

/-- A node below the root of a marked reference was there before. -/
lemma eq_or_mem_nodes_of_marked {m : Node} {o : Obstacle} (h : m ∈ (ref.marked o).nodes) :
    m = ref.marked o ∨ m ∈ ref.nodes := by
  rw [nodes_eq_cons, List.mem_cons, marked, children_mapHead] at h
  refine h.imp_right fun hm => ?_
  rw [nodes_eq_cons]
  exact List.mem_cons_of_mem _ hm

lemma nodes_trans {n m k : Node} (hm : m ∈ n.nodes) (hk : k ∈ m.nodes) : k ∈ n.nodes := by
  induction n using Node.induction with
  | leaf e =>
    obtain rfl : m = leaf e := by simpa [nodes_leaf] using hm
    exact hk
  | branch e cs ih =>
    rw [nodes_branch, List.mem_cons, List.mem_flatMap] at hm
    rcases hm with rfl | ⟨c, hc, hm⟩
    · exact hk
    · rw [nodes_branch]
      exact List.mem_cons_of_mem _ (List.mem_flatMap.2 ⟨c, hc, ih c hc hm⟩)

/-- A node of a tree with replaced references stands where one with its element was, or it belongs
to what replaced one of the references. -/
theorem mem_nodes_mapReferences {f : Node → Node} {n m : Node}
    (h : m ∈ (mapReferences f n).nodes) :
    (∃ old ∈ n.nodes, old.type ≠ referenceType ∧ m.head = old.head) ∨
      ∃ ref ∈ n.nodes, ref.type = referenceType ∧ m ∈ (f ref).nodes := by
  induction n using induction_outside with
  | reference n hn =>
    rw [mapReferences_of_reference f hn] at h
    exact .inr ⟨n, self_mem_nodes n, hn, h⟩
  | leaf e he =>
    rw [mapReferences_leaf f he, nodes_leaf, List.mem_singleton] at h
    exact .inl ⟨leaf e, self_mem_nodes _, he, by rw [h]⟩
  | branch e cs he ih =>
    rw [mapReferences_branch f cs he, nodes_branch, List.mem_cons, List.mem_flatMap] at h
    rcases h with rfl | ⟨c', hc', hm⟩
    · exact .inl ⟨branch e cs, self_mem_nodes _, he, rfl⟩
    · obtain ⟨c, hc, rfl⟩ := List.mem_map.1 hc'
      have hbelow : c.nodes ⊆ (branch e cs).nodes := fun k hk => by
        rw [nodes_branch]
        exact List.mem_cons_of_mem _ (List.mem_flatMap.2 ⟨c, hc, hk⟩)
      rcases ih c hc hm with ⟨old, hold, hrest⟩ | ⟨ref, href, hrest⟩
      · exact .inl ⟨old, hbelow hold, hrest⟩
      · exact .inr ⟨ref, hbelow href, hrest⟩

end Node
end Screenwright
