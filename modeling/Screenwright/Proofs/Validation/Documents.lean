import Screenwright.Proofs.Validation.Agreement
import Screenwright.Validation.Validator

/-! The documents on which the walk and the screen schema agree. -/
namespace Screenwright
open Decode Schema

/-- A document without issues. -/
def Validator.Accepts (v : Validator) (doc : Json) : Prop := v.issues doc = .ok []

/-- The screen of an accepted document is the one that is read from it. -/
lemma Validator.screen_eq_ok_iff {v : Validator} {name : String} {doc : Json} {s : ScreenSpec} :
    v.screen name doc = .ok s ↔ v.Accepts doc ∧ ScreenSpec.decode doc = .ok s := by
  rw [screen, Accepts]
  cases v.issues doc with
  | error f => simp
  | ok is =>
    cases is with
    | cons i is => simp
    | nil => cases ScreenSpec.decode doc <;> simp

/-- The validator that checks documents against the screen schema. -/
def Validator.screenSchema : Validator := .schema ScreenSchema.document

namespace RawScreen
variable {fs : Fields Json} {doc : Json}

def fieldNames : List String := ["version", "route", "meta", "tree"]

/-- What every document has to be, whichever way it is checked, its version and tree aside. -/
structure HasShape (fs : Fields Json) : Prop where
  known : ∀ e ∈ fs, e.1 ∈ fieldNames
  route : Walk.isRoute (fs.get? "route") = true
  metadata : MayBeObject (fs.get? "meta")
  tree : fs.has "tree" = true

lemma isVersion_iff {v : Option Json} : Walk.isVersion v = true ↔ v = some (.int 1) := by
  rcases v with _ | v
  · simp [Walk.isVersion]
  · cases v <;> simp [Walk.isVersion]

/-- The walk accepts documents of version one with a tree that it passes. -/
theorem walk_accepts : Validator.walk.Accepts doc ↔ ∃ fs : Fields Json, doc = .obj fs ∧
    HasShape fs ∧ fs.get? "version" = some (.int 1) ∧
      ∀ tree, fs.get? "tree" = some tree → Walked tree := by
  have hissues : Validator.walk.Accepts doc ↔ Walk.documentIssues doc = .ok [] := by
    rw [Validator.Accepts, Validator.issues]
    cases Walk.documentIssues doc <;> simp [Except.mapError]
  rw [hissues]
  cases doc with
  | obj fs =>
    rw [Walk.documentIssues]
    cases htree : Fields.get? fs "tree" with
    | none =>
      refine iff_of_false (by simp [pure, Except.pure, bind, Except.bind]) ?_
      rintro ⟨_, ⟨rfl⟩, hshape, -⟩
      simpa [Fields.has, htree] using hshape.tree
    | some tree =>
      dsimp only
      rw [Walk.bind_eq_ok_nil (by simp +contextual), Walk.nodeIssues_eq_nil]
      simp only [List.append_eq_nil_iff, List.map_eq_nil_iff, Walk.sortedUnknown_eq_nil,
        Walk.expect_eq_nil, Walk.isObject_getD_iff, isVersion_iff, and_true, and_assoc]
      constructor
      · rintro ⟨hwalked, hknown, hversion, hroute, hmeta⟩
        refine ⟨fs, rfl, ⟨hknown, hroute, hmeta, Fields.has_of_get? htree⟩, hversion, ?_⟩
        rintro _ h
        cases htree.symm.trans h
        exact hwalked
      · rintro ⟨_, ⟨rfl⟩, ⟨hknown, hroute, hmeta, -⟩, hversion, hwalked⟩
        exact ⟨hwalked tree htree, hknown, hversion, hroute, hmeta⟩
  | _ => simp [Walk.documentIssues]

lemma isRoute_iff {v : Option Json} :
    Walk.isRoute v = true ↔ ∃ s, v = some (.str s) ∧ s.toList.head? = some '/' := by
  rcases v with _ | v
  · simp [Walk.isRoute]
  · cases v <;> simp [Walk.isRoute]

lemma accepts_route {defs : List (String × Schema)} {fuel : Nat} {v : Json} :
    Schema.Accepts defs (fuel + 2) (.rules [ScreenSchema.typed .string, .pattern "^/"]) v ↔
      ∃ s, v = .str s ∧ s.toList.head? = some '/' := by
  rw [accepts_rules, List.forall_mem_cons, List.forall_mem_singleton, ScreenSchema.holds_typed,
    SchemaType.admits_string]
  constructor
  · rintro ⟨⟨s, rfl⟩, hmatch⟩
    exact ⟨s, rfl, by simpa [matchesPattern] using hmatch⟩
  · rintro ⟨s, rfl, hs⟩
    exact ⟨⟨s, rfl⟩, by simpa [matchesPattern] using hs⟩

/-- What the screen schema asks of the fields of a document. -/
lemma accepts_document {fuel : Nat} :
    Schema.Accepts ScreenSchema.definitions (fuel + 3) ScreenSchema.document doc ↔
      ∃ fs : Fields Json, doc = .obj fs ∧ HasShape fs ∧
        (∃ v, fs.get? "version" = some v ∧ Json.schemaEq v (.int 1) = true) ∧
          ∀ tree, fs.get? "tree" = some tree →
            Schema.Accepts ScreenSchema.definitions (fuel + 1) ScreenSchema.node tree := by
  have hversion : ∀ w,
      Schema.Accepts ScreenSchema.definitions (fuel + 2) (.rules [.const (.int 1)]) w ↔
      Json.schemaEq w (.int 1) = true := fun w => by
    simp [accepts_rules]
  have hmeta : ∀ w,
      Schema.Accepts ScreenSchema.definitions (fuel + 2) (ScreenSchema.ofType .object) w ↔
      ∃ gs, w = .obj gs := fun w => by
    rw [ScreenSchema.accepts_ofType, SchemaType.admits_object]
  have htree : ∀ w, Schema.Accepts ScreenSchema.definitions (fuel + 2) (.rules [.ref "node"]) w ↔
      Schema.Accepts ScreenSchema.definitions (fuel + 1) ScreenSchema.node w :=
    fun w => accepts_ref ScreenSchema.lookup_node
  rw [ScreenSchema.document]
  refine (ScreenSchema.accepts_closed ["version", "route", "tree"]
    [("version", .rules [.const (.int 1)]),
      ("route", .rules [ScreenSchema.typed .string, .pattern "^/"]),
      ("meta", ScreenSchema.ofType .object), ("tree", .rules [.ref "node"])]
    ⟨by simp, by simp, by simp, by simp, rfl, by simp⟩).trans ?_
  refine exists_congr fun fs => and_congr_right fun _ => ?_
  simp only [List.forall_mem_cons, List.not_mem_nil, false_implies, implies_true, and_true,
    hversion, accepts_route, hmeta, htree]
  constructor
  · rintro ⟨hknown, ⟨hhasVersion, hhasRoute, hhasTree⟩, hone, hroute, hobject, hnode⟩
    obtain ⟨v, hv⟩ := Option.isSome_iff_exists.1 hhasVersion
    obtain ⟨r, hr⟩ := Option.isSome_iff_exists.1 hhasRoute
    obtain ⟨s, rfl, hs⟩ := hroute r hr
    exact ⟨⟨hknown, isRoute_iff.2 ⟨s, hr, hs⟩, hobject, hhasTree⟩, ⟨v, hv, hone v hv⟩, hnode⟩
  · rintro ⟨⟨hknown, hroute, hobject, hhasTree⟩, ⟨v, hv, hone⟩, hnode⟩
    obtain ⟨s, hr, hs⟩ := isRoute_iff.1 hroute
    refine ⟨hknown, ⟨Fields.has_of_get? hv, Fields.has_of_get? hr, hhasTree⟩, ?_, ?_, hobject,
      hnode⟩
    · intro w hw
      cases hv.symm.trans hw
      exact hone
    · intro w hw
      cases hr.symm.trans hw
      exact ⟨s, rfl, hs⟩

/-- The schema accepts documents with a number equal to one for the version and an admitted tree. -/
theorem screenSchema_accepts (hkeys : doc.hasDistinctKeys = true) :
    Validator.screenSchema.Accepts doc ↔ ∃ fs : Fields Json, doc = .obj fs ∧ HasShape fs ∧
      (∃ v, fs.get? "version" = some v ∧ Json.schemaEq v (.int 1) = true) ∧
        ∀ tree, fs.get? "tree" = some tree → Admitted tree := by
  have hissues : Validator.screenSchema.Accepts doc ↔
      Schema.Accepts ScreenSchema.definitions (stepsPerPlace * depth doc) ScreenSchema.document
        doc := by
    rw [Validator.Accepts, Validator.screenSchema, Validator.issues, Except.ok.injEq,
      List.map_eq_nil_iff, Schema.sorted, ← List.length_eq_zero_iff, List.length_mergeSort,
      List.length_eq_zero_iff]
    rfl
  have hpos : 1 ≤ depth doc := by cases doc <;> simp [depth]
  obtain ⟨k, hk⟩ : ∃ k, stepsPerPlace * depth doc = k + 3 :=
    ⟨stepsPerPlace * depth doc - 3, by rw [stepsPerPlace]; omega⟩
  rw [hissues, hk, accepts_document]
  refine exists_congr fun fs => and_congr_right ?_
  rintro rfl
  refine and_congr_right fun _ => and_congr_right fun _ => forall₂_congr fun tree htree => ?_
  have hdepth := depth_lt_of_get? htree
  refine ScreenSchema.accepts_node (Json.hasDistinctKeys_of_get? hkeys htree) ?_
  rw [stepsPerPlace] at hk ⊢
  omega

/-- A document all of whose nodes are plain. -/
def IsPlain (doc : Json) : Prop :=
  ∀ tree fs, doc.get? "tree" = some tree → RawNode.IsIn fs tree → RawNode.IsPlain fs

/-- A document with an integer for its version and readable nodes. -/
structure IsReadable (doc : Json) : Prop where
  version : ∀ x, doc.get? "version" ≠ some (.float x)
  nodes : ∀ tree fs, doc.get? "tree" = some tree → RawNode.IsIn fs tree → RawNode.IsReadable fs

/-- A document that the walk accepts is accepted by the schema exactly when it is plain, and one
that the schema accepts is accepted by the walk exactly when it is readable. -/
theorem accepts_alike (doc : Json) (hkeys : doc.hasDistinctKeys = true) :
    (Validator.walk.Accepts doc → (Validator.screenSchema.Accepts doc ↔ IsPlain doc)) ∧
      (Validator.screenSchema.Accepts doc → (Validator.walk.Accepts doc ↔ IsReadable doc)) := by
  rw [walk_accepts, screenSchema_accepts hkeys]
  constructor
  · rintro ⟨fs, rfl, hshape, hversion, hwalked⟩
    constructor
    · rintro ⟨_, ⟨rfl⟩, -, -, hadmitted⟩ tree gs htree hgs
      exact (admitted_of_walked (hwalked tree htree)).1 (hadmitted tree htree) gs hgs
    · intro hplain
      refine ⟨fs, rfl, hshape, ⟨_, hversion, by decide⟩, fun tree htree => ?_⟩
      exact (admitted_of_walked (hwalked tree htree)).2 fun gs hgs => hplain tree gs htree hgs
  · rintro ⟨fs, rfl, hshape, ⟨v, hversion, hone⟩, hadmitted⟩
    constructor
    · rintro ⟨_, ⟨rfl⟩, -, hint, hwalked⟩
      refine ⟨fun x hx => ?_, fun tree gs htree hgs => ?_⟩
      · cases hint.symm.trans hx
      · exact (walked_of_admitted (hadmitted tree htree)).1 (hwalked tree htree) gs hgs
    · rintro ⟨hfloat, hnodes⟩
      refine ⟨fs, rfl, hshape, ?_, fun tree htree => ?_⟩
      · cases v with
        | float x => exact absurd hversion (hfloat x)
        | _ =>
          simp_all [Json.schemaEq, Json.equal, Json.equalNumber, Json.numericEq, Json.asNumber?]
      · exact (walked_of_admitted (hadmitted tree htree)).2 fun gs hgs => hnodes tree gs htree hgs

/-- A document that writes its version as `1.0`. -/
def floatVersion : Json :=
  .obj [("version", .float (.ofInt 1)), ("route", .str "/"),
    ("tree", .obj [("id", .str "root"), ("type", .str "Box")])]

/-- A document that writes a number of its style as a text. -/
def textOpacity : Json :=
  .obj [("version", .int 1), ("route", .str "/"),
    ("tree", .obj [("id", .str "root"), ("type", .str "Box"),
      ("style", .obj [("opacity", .str "0.5")])])]

/-- The schema alone accepts one of the documents, and the walk alone accepts the other. -/
theorem accepts_alike_floatVersion_textOpacity :
    (floatVersion.hasDistinctKeys = true ∧ Validator.screenSchema.Accepts floatVersion ∧
      ¬ Validator.walk.Accepts floatVersion) ∧
    textOpacity.hasDistinctKeys = true ∧ Validator.walk.Accepts textOpacity ∧
      ¬ Validator.screenSchema.Accepts textOpacity := by
  have hschema : Validator.screenSchema.Accepts floatVersion := by
    rw [Validator.Accepts]
    decide +kernel
  have hwalk : Validator.walk.Accepts textOpacity := by
    rw [Validator.Accepts]
    decide +kernel
  refine ⟨⟨by decide, hschema, fun h => ?_⟩, by decide, hwalk, fun h => ?_⟩
  · exact (((accepts_alike floatVersion (by decide)).2 hschema).1 h).version _ rfl
  · have hplain := ((accepts_alike textOpacity (by decide)).1 hwalk).1 h _ _ rfl (.root _)
    exact absurd ((hplain.style _ rfl).unconverted .opacity _ rfl) (by decide)

end RawScreen
end Screenwright
