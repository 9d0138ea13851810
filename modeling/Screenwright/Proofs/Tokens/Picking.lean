import Screenwright.Proofs.Json.Parts
import Screenwright.Proofs.Record.Merging
import Screenwright.Proofs.Record.Restoring
import Screenwright.Tokens

/-! Tokens that are picked by name and referred to by path: the groups of a table are made from the
tokens of a document, and a path is walked through the document itself. -/
namespace Screenwright

namespace Decode
variable {α : Type} {decode : Json → Decoded α} {fs : Fields Json} {gs : Fields α}

lemma keys_of_entries_eq_ok (h : Decoded.entries decode fs = .ok gs) : gs.keys = fs.keys := by
  induction fs generalizing gs with
  | nil =>
    cases h
    rfl
  | cons e fs ih =>
    obtain ⟨g, rest, hfirst, hrest, rfl⟩ := Decoded.seq_eq_ok.1 h
    obtain ⟨x, -, rfl⟩ := Decoded.map_eq_ok.1 hfirst
    exact congrArg (e.1 :: ·) (ih hrest)

/-- Each value of an object is read where it stands. -/
lemma get?_of_entries_eq_ok (h : Decoded.entries decode fs = .ok gs) {k : String} {v : Json}
    (hv : fs.get? k = some v) : ∃ a, gs.get? k = some a ∧ decode v = .ok a := by
  induction fs generalizing gs with
  | nil => cases hv
  | cons e fs ih =>
    obtain ⟨k', w⟩ := e
    obtain ⟨g, rest, hfirst, hrest, rfl⟩ := Decoded.seq_eq_ok.1 h
    obtain ⟨x, hx, rfl⟩ := Decoded.map_eq_ok.1 hfirst
    simp only [Fields.get?_cons] at hv ⊢
    by_cases hk : k = k'
    · rw [if_pos hk] at hv ⊢
      cases hv
      exact ⟨x, rfl, Decoded.under_eq_ok.1 hx⟩
    · rw [if_neg hk] at hv ⊢
      exact ih hrest hv

end Decode

namespace Tokens
variable {doc : Fields Json} {t : Tokens} {j : Json}

/-! ### Paths -/

lemma descend_append (j : Json) (ks ls : List String) :
    descend j (ks ++ ls) = (descend j ks).bind (descend · ls) := by
  induction ks generalizing j with
  | nil => rfl
  | cons k ks ih =>
    rw [List.cons_append, descend, descend, Option.bind_assoc]
    exact congrArg _ (funext ih)

lemma descend_singleton (j : Json) (k : String) : descend j [k] = j.get? k := by
  rw [descend]
  cases j.get? k <;> rfl

lemma segments_append (front back : String) :
    segments (front ++ "." ++ back) = segments front ++ segments back := by
  have hlist : (front ++ "." ++ back).toList = front.toList ++ '.' :: back.toList := by
    simp
  rw [segments, hlist, List.splitOn_append_cons_self, List.map_append, segments, segments]

lemma segments_eq_singleton {name : String} (h : '.' ∉ name.toList) : segments name = [name] := by
  rw [segments, List.splitOn_eq_singleton h, List.map_singleton, String.ofList_toList]

lemma hasDistinctKeys_of_descend {j v : Json} {ks : List String} (hj : j.hasDistinctKeys = true)
    (hv : descend j ks = some v) : v.hasDistinctKeys = true := by
  induction ks generalizing j with
  | nil =>
    cases hv
    exact hj
  | cons k ks ih =>
    obtain ⟨w, hw, hrest⟩ := Option.bind_eq_some_iff.1 hv
    cases j with
    | obj fs => exact ih (Json.hasDistinctKeys_of_get? hj hw) hrest
    | _ => cases hw

/-! ### Tokens of a group -/

/-- A token of a group stands in the object of the group under its name. -/
lemma exists_of_mem_keys_leaves {group : Option Json} {name : String}
    (hgroup : ∀ j, group = some j → j.hasDistinctKeys = true) (hname : name ∈ (leaves group).keys) :
    ∃ j leaf, group = some j ∧ j.get? name = some leaf ∧
      Fields.get? (leaves group) name = some leaf := by
  obtain ⟨⟨_, leaf⟩, hmem, rfl⟩ := List.mem_map.1 hname
  cases group with
  | none => cases hmem
  | some j =>
    cases j with
    | obj fs =>
      have hkeys : (Fields.keys fs).Nodup := (Json.hasDistinctKeys_obj.1 (hgroup _ rfl)).1
      have hleaves : (Fields.keys (leaves (some (.obj fs)))).Nodup :=
        hkeys.sublist (List.filter_sublist.map Prod.fst)
      exact ⟨_, leaf, rfl, Fields.get?_of_mem hkeys (List.mem_of_mem_filter hmem),
        Fields.get?_of_mem hleaves hmem⟩
    | _ => cases hmem

lemma entries_of_decodeGroup {k : String} {group : TokenGroup}
    (h : decodeGroup doc k = .ok group) :
    Decoded.entries TokenValue.decode (leaves (descend (.obj doc) [k])) = .ok group := by
  rw [descend_singleton]
  exact Decoded.under_eq_ok.1 h

/-- What is read as a token is an object with a value. -/
lemma exists_of_decode_eq_ok {j : Json} {token : TokenValue} (h : TokenValue.decode j = .ok token) :
    ∃ fs v, j = .obj fs ∧ Fields.get? fs "value" = some v ∧ StyleValue.decode v = .ok token.value := by
  cases j with
  | obj fs =>
    obtain ⟨g, type, hvalue, -, rfl⟩ := Decoded.seq_eq_ok.1 h
    obtain ⟨v, hv, rfl⟩ := Decoded.map_eq_ok.1 hvalue
    rw [Decode.required, Decode.keyOf_of_snakeName _ (by decide)] at hv
    split at hv
    · next w hw => exact ⟨fs, w, rfl, hw, Decoded.under_eq_ok.1 hv⟩
    · cases hv
  | _ => cases h

/-- At the end of a path a value counts as the table reads it, unless it is a boolean. -/
lemma plainValue?_eq_some_iff {j : Json} {v : StyleValue} (h : StyleValue.decode j = .ok v) :
    plainValue? j = some v ↔ ∀ b, j ≠ .bool b := by
  cases j <;> cases h <;> simp [plainValue?]

end Tokens

namespace TokenCategory
variable {doc : Fields Json} {t : Tokens} {name : String}

/-- The path of the group of a category. -/
def groupPath : TokenCategory → String
  | fontSize => "typography.fontSize"
  | c => c.name

/-- The path by which a style refers to a token of a category. -/
def path (c : TokenCategory) (name : String) : String := c.groupPath ++ "." ++ name

/-- The keys under which the group of a category stands in a document. -/
def groupKeys : TokenCategory → List String
  | fontSize => ["typography", "fontSize"]
  | c => [c.name]

lemma segments_groupPath (c : TokenCategory) : Tokens.segments c.groupPath = c.groupKeys := by
  cases c <;> decide

/-- The groups of a table are read from the tokens directly in the groups of its document. -/
lemma entries_group (c : TokenCategory) (h : Tokens.ofDocument doc = .ok t) :
    t.raw = doc ∧ Decoded.entries TokenValue.decode
      (Tokens.leaves (Tokens.descend (.obj doc) c.groupKeys)) = .ok (c.group t) := by
  simp only [Tokens.ofDocument, Decoded.seq_eq_ok, Decoded.map_eq_ok] at h
  obtain ⟨_, shadow, ⟨_, radius, ⟨_, typography, ⟨_, color, ⟨_, size, ⟨spacing, hspacing, rfl⟩,
    hsize, rfl⟩, hcolor, rfl⟩, htypography, rfl⟩, hradius, rfl⟩, hshadow, rfl⟩ := h
  refine ⟨rfl, ?_⟩
  cases c with
  | fontSize =>
    split at htypography
    · next gs hgs =>
      have hgroups := Decoded.under_eq_ok.1 htypography
      simp only [Tokens.decodeTypography, Decoded.seq_eq_ok, Decoded.map_eq_ok] at hgroups
      obtain ⟨_, _, ⟨_, _, ⟨_, _, ⟨_, fontSize, ⟨_, -, rfl⟩, hsize, rfl⟩, -, rfl⟩, -, rfl⟩, -,
        rfl⟩ := hgroups
      have hdescend : Tokens.descend (.obj doc) ["typography", "fontSize"] =
          Tokens.descend (.obj gs) ["fontSize"] := by
        rw [Tokens.descend, Json.get?, hgs, Option.bind_some]
      rw [groupKeys, hdescend]
      exact Tokens.entries_of_decodeGroup hsize
    · next hnone =>
      cases htypography
      have hdescend : Tokens.descend (.obj doc) ["typography", "fontSize"] = none := by
        rw [Tokens.descend, Option.bind_eq_none_iff]
        intro v hv
        cases v with
        | obj gs => exact (hnone gs hv).elim
        | _ => rfl
      rw [groupKeys, hdescend]
      rfl
  | spacing => exact Tokens.entries_of_decodeGroup hspacing
  | size => exact Tokens.entries_of_decodeGroup hsize
  | color => exact Tokens.entries_of_decodeGroup hcolor
  | borderRadius => exact Tokens.entries_of_decodeGroup hradius
  | shadow => exact Tokens.entries_of_decodeGroup hshadow

/-- The document gives a token a boolean for its value. -/
def IsFlag (c : TokenCategory) (doc : Fields Json) (name : String) : Prop :=
  ∃ b, Tokens.descend (.obj doc) (c.groupKeys ++ [name, "value"]) = some (.bool b)

/-- What a document holds below nested groups that are named like the pieces of a name. -/
def nestedValue? (c : TokenCategory) (doc : Fields Json) (name : String) : Option StyleValue :=
  (Tokens.descend (.obj doc) (c.groupKeys ++ Tokens.segments name)).bind Tokens.leafValue?

lemma lookupToken_path (c : TokenCategory) (h : t.raw = doc) :
    lookupToken (c.path name) (some t) = c.nestedValue? doc name := by
  rw [lookupToken, Option.bind_some, Tokens.lookup, h, path, Tokens.segments_append,
    segments_groupPath, nestedValue?]

/-- A token that can be picked is found by the path of its name exactly if the name has no dot and
its value is not a boolean, or else if the pieces of the name lead through nested groups to an equal
value. -/
theorem lookupToken_picked_iff (doc : Fields Json) (t : Tokens) (c : TokenCategory) (name : String)
    (hdoc : (Json.obj doc).hasDistinctKeys = true) (ht : Tokens.ofDocument doc = .ok t)
    (hname : name ∈ c.names (some t)) :
    ∃ token, (c.group t).get? name = some token ∧
      (lookupToken (c.path name) (some t) = some token.value ↔
        if '.' ∈ name.toList then c.nestedValue? doc name = some token.value
        else ¬ c.IsFlag doc name) := by
  obtain ⟨hraw, hgroup⟩ := c.entries_group ht
  have hkeys : name ∈ (Tokens.leaves (Tokens.descend (.obj doc) c.groupKeys)).keys := by
    rw [← Decode.keys_of_entries_eq_ok hgroup]
    exact hname
  obtain ⟨group, leaf, hdescend, hleaf, hget⟩ := Tokens.exists_of_mem_keys_leaves
    (fun j hj => Tokens.hasDistinctKeys_of_descend hdoc hj) hkeys
  obtain ⟨token, htoken, hdecode⟩ := Decode.get?_of_entries_eq_ok hgroup hget
  refine ⟨token, htoken, ?_⟩
  rw [c.lookupToken_path hraw]
  split
  · rfl
  · next hdot =>
    obtain ⟨fs, v, rfl, hv, hvalue⟩ := Tokens.exists_of_decode_eq_ok hdecode
    have hfound : c.nestedValue? doc name = Tokens.plainValue? v := by
      rw [nestedValue?, Tokens.segments_eq_singleton hdot, Tokens.descend_append, hdescend,
        Option.bind_some, Tokens.descend_singleton, hleaf, Option.bind_some, Tokens.leafValue?, hv,
        Option.bind_some]
    have hflag : c.IsFlag doc name ↔ ∃ b, v = .bool b := by
      rw [IsFlag, Tokens.descend_append, hdescend, Option.bind_some, Tokens.descend, hleaf,
        Option.bind_some, Tokens.descend_singleton, Json.get?, hv]
      simp
    rw [hfound, Tokens.plainValue?_eq_some_iff hvalue, hflag, not_exists]

/-- A scale with a common step, a step between two others, and a step that is switched on. -/
def scaleDocument : Fields Json :=
  [("spacing", .obj [("md", .obj [("value", .str "5")]), ("1.5", .obj [("value", .str "6px")]),
    ("on", .obj [("value", .bool true)])])]

/-- All three steps can be picked, and only the common one is found by its path. -/
theorem lookupToken_picked_iff_scale : ∃ t, Tokens.ofDocument scaleDocument = .ok t ∧
    spacing.names (some t) = ["md", "1.5", "on"] ∧
    lookupToken "spacing.md" (some t) = some (.text "5") ∧
    lookupToken "spacing.1.5" (some t) ≠ some (.text "6px") ∧
    lookupToken "spacing.on" (some t) ≠ some (.int 1) := by
  have hdoc : (Json.obj scaleDocument).hasDistinctKeys = true := by decide
  obtain ⟨t, ht⟩ : ∃ t, Tokens.ofDocument scaleDocument = .ok t := ⟨_, rfl⟩
  have hnames : spacing.names (some t) = ["md", "1.5", "on"] := by
    cases ht
    decide
  have hfound := fun name hname => lookupToken_picked_iff scaleDocument t spacing name hdoc ht hname
  refine ⟨t, ht, hnames, ?_, ?_, ?_⟩
  · obtain ⟨token, htoken, hiff⟩ := hfound "md" (by rw [hnames]; decide)
    cases ht
    cases htoken
    refine hiff.2 ?_
    rw [if_neg (by decide)]
    rintro ⟨b, hb⟩
    cases hb
  · obtain ⟨token, htoken, hiff⟩ := hfound "1.5" (by rw [hnames]; decide)
    cases ht
    cases htoken
    intro h
    have hnested := hiff.1 h
    rw [if_pos (by decide)] at hnested
    cases hnested
  · obtain ⟨token, htoken, hiff⟩ := hfound "on" (by rw [hnames]; decide)
    cases ht
    cases htoken
    intro h
    have hflag := hiff.1 h
    rw [if_neg (by decide)] at hflag
    exact hflag ⟨true, rfl⟩

end TokenCategory
end Screenwright
