import Screenwright.Proofs.Computation
import Screenwright.Proofs.Validation.Walked
import Screenwright.Validation.Validator

/-! The documents that the walk has an answer for: those without a node whose type is a list or an
object. -/
namespace Screenwright

/-- A value with parts of its own. -/
def Json.isCompound : Json → Bool
  | .arr _ | .obj _ => true
  | _ => false

/-- A node whose type is a list or an object. -/
def RawNode.HasCompoundType (fs : Fields Json) : Prop :=
  (fs.get? "type").any Json.isCompound = true

instance (fs : Fields Json) : Decidable (RawNode.HasCompoundType fs) :=
  inferInstanceAs (Decidable (_ = true))

/-- A document with such a node in its tree. -/
def RawScreen.HasCompoundType (doc : Json) : Prop :=
  ∃ tree fs, doc.get? "tree" = some tree ∧ RawNode.IsIn fs tree ∧ RawNode.HasCompoundType fs

namespace RawNode
variable {fs : Fields Json}

lemma exists_isIn_obj {p : Fields Json → Prop} :
    (∃ gs, IsIn gs (.obj fs) ∧ p gs) ↔ p fs ∨ ∃ c ∈ children fs, ∃ gs, IsIn gs c ∧ p gs := by
  constructor
  · rintro ⟨gs, hgs, hp⟩
    cases hgs with
    | root => exact .inl hp
    | inside hc h => exact .inr ⟨_, hc, gs, h, hp⟩
  · rintro (hp | ⟨c, hc, gs, hgs, hp⟩)
    · exact ⟨fs, .root fs, hp⟩
    · exact ⟨gs, .inside hc hgs, hp⟩

end RawNode

namespace Walk
variable {fs : Fields Json}

lemma breaks_propIssues (type : Option Json) (props : Fields Json) (path : String) :
    Breaks (propIssues type props path) ↔ type.any Json.isCompound = true := by
  cases type with
  | none => simp [propIssues]
  | some v =>
    cases v with
    | arr xs => simp [propIssues, Json.isCompound]
    | obj gs => simp [propIssues, Json.isCompound]
    | str tag =>
      simp only [propIssues, Option.any_some, Json.isCompound, Bool.false_eq_true, iff_false]
      cases BuiltinType.ofName? tag with
      | some t => exact breaks_ok _
      | none => split_ifs <;> exact breaks_ok _
    | _ => simp [propIssues, Json.isCompound]

lemma breaks_headIssues (path : String) :
    Breaks (headIssues fs path) ↔ RawNode.HasCompoundType fs := by
  rw [headIssues, breaks_bind_pure, breaks_propIssues, RawNode.HasCompoundType]

lemma breaks_itemIssues {path : String} {cs : List Json} {bad : Json → Prop}
    (h : ∀ c ∈ cs, ∀ path, Breaks (nodeIssues path c) ↔ bad c) (i : Nat) :
    Breaks (itemIssues path i cs) ↔ ∃ c ∈ cs, bad c := by
  induction cs generalizing i with
  | nil => simp [itemIssues]
  | cons c cs ih =>
    rw [itemIssues, breaks_bind_bind_pure, h c List.mem_cons_self,
      ih (fun c hc => h c (List.mem_cons_of_mem _ hc)), List.exists_mem_cons_iff]

/-- The walk of a node ends without an answer exactly when it meets a compound type. -/
theorem breaks_nodeIssues (v : Json) (path : String) :
    Breaks (nodeIssues path v) ↔ ∃ fs, RawNode.IsIn fs v ∧ RawNode.HasCompoundType fs := by
  induction hn : Schema.depth v using Nat.strongRecOn generalizing v path with
  | ind n ih =>
    cases v with
    | obj fs =>
      have hbelow : Breaks (childIssues path fs) ↔
          ∃ c ∈ RawNode.children fs, ∃ gs, RawNode.IsIn gs c ∧ RawNode.HasCompoundType gs := by
        rw [childIssues_eq, RawNode.children]
        cases hchildren : Fields.get? fs "children" with
        | none => simp
        | some w =>
          cases w with
          | arr cs =>
            refine breaks_itemIssues (fun c hc path => ih _ ?_ c path rfl) 0
            rw [← hn]
            exact RawNode.depth_lt_of_mem_children (by rwa [RawNode.children, hchildren])
          | _ => simp [listIssues]
      rw [nodeIssues, breaks_bind_bind_pure, breaks_headIssues, hbelow, RawNode.exists_isIn_obj]
    | _ =>
      refine iff_of_false (by simp [nodeIssues]) ?_
      rintro ⟨fs, ⟨⟩, -⟩

/-- The walk has no answer for exactly the documents with a node of compound type. -/
theorem breaks_documentIssues (doc : Json) :
    Breaks (documentIssues doc) ↔ RawScreen.HasCompoundType doc := by
  cases doc with
  | obj fs =>
    rw [documentIssues, RawScreen.HasCompoundType, Json.get?]
    cases Fields.get? fs "tree" with
    | none => simp [pure, Except.pure, bind, Except.bind]
    | some tree =>
      dsimp only
      rw [breaks_bind_pure, breaks_nodeIssues]
      simp
  | _ => simp [documentIssues, RawScreen.HasCompoundType, Json.get?]

end Walk

/-- A document checked by the walk has issues, or none, unless it has a node of compound type. -/
theorem Validator.breaks_issues_walk (doc : Json) :
    Breaks (Validator.walk.issues doc) ↔ RawScreen.HasCompoundType doc := by
  rw [Validator.issues, breaks_mapError, Walk.breaks_documentIssues]

end Screenwright
