import Screenwright.Proofs.Document.Restoring

/-! Normal forms of documents: what is written for a record that has been read is read again, and
the same is written for it. -/
namespace Screenwright
open Decode

/-! ### Screens -/

namespace ScreenMeta
variable {m : ScreenMeta} {v : Json}

def names : List String := ["layout", "auth"]

/-- Metadata without the extra keys that have no value. -/
def dense (m : ScreenMeta) : ScreenMeta := { m with extras := m.extras.filter fun e => !e.2.isNull }

@[simp] lemma toJson_dense (m : ScreenMeta) : m.dense.toJson = m.toJson := by
  simp [dense, toJson, List.filter_filter]

lemma unknown_names (fs : Fields Json) : unknown names fs = fs.filter (·.1 ∉ names) :=
  unknown_of_snakeName (by decide) fs

/-- The extra keys of metadata that is read are none of the known ones. -/
lemma extras_of_decode (h : decode v = .ok m) : ∀ e ∈ m.extras, e.1 ∉ names := by
  cases v with
  | obj fs =>
    obtain ⟨g, auth, h₁, -, rfl⟩ := Decoded.seq_eq_ok.1 h
    obtain ⟨layout, -, rfl⟩ := Decoded.map_eq_ok.1 h₁
    intro e he
    change e ∈ unknown names fs at he
    rw [unknown_names] at he
    simpa using (List.mem_filter.1 he).2
  | _ => cases h

/-- The known keys of metadata with their values. -/
def known (m : ScreenMeta) : Fields Json :=
  presentFields [("layout", m.layout.map .str), ("auth", m.auth.map .str)]

lemma toJson_eq (m : ScreenMeta) : m.toJson = .obj (m.known ++ m.dense.extras) := rfl

section
variable (h : ∀ e ∈ m.extras, e.1 ∉ names)
include h

lemma extras_dense : ∀ e ∈ m.dense.extras, e.1 ∉ names := fun e he => h e (List.mem_filter.1 he).1

lemma get?_written {name : String} (hname : name ∈ names) :
    (m.known ++ m.dense.extras).get? name = m.known.get? name := by
  have hnone : m.dense.extras.get? name = none := by
    refine List.lookup_eq_none_iff.2 fun e he => ?_
    simpa using fun heq : name = e.1 => extras_dense h e he (heq ▸ hname)
  rw [Fields.get?, List.lookup_append, ← Fields.get?, ← Fields.get?, hnone, Option.or_none]

lemma unknown_written : unknown names (m.known ++ m.dense.extras) = m.dense.extras := by
  have hkeys : ∀ e ∈ m.known, e.1 ∈ names := fun e he => fst_mem_of_mem_presentFields he
  rw [unknown_names, List.filter_append, List.filter_eq_nil_iff.2 (by simpa using hkeys),
    List.filter_eq_self.2 (by simpa using extras_dense h), List.nil_append]

/-- Metadata is read again without the extra keys that have no value. -/
lemma decode_toJson : decode m.toJson = .ok m.dense := by
  have hspelled : Spelled names (m.known ++ m.dense.extras) := spelled_of_snakeName (by decide)
  have hlayout : optional (m.known ++ m.dense.extras) "layout" text = .ok m.layout :=
    optional_eq_ok hspelled (by decide) (by rw [get?_written h (by decide)]; simp [known])
      fun s _ => restores_text s
  have hauth : optional (m.known ++ m.dense.extras) "auth" text = .ok m.auth :=
    optional_eq_ok hspelled (by decide) (by rw [get?_written h (by decide)]; simp [known])
      fun s _ => restores_text s
  rw [toJson_eq, decode, record, hlayout, hauth, ← names, unknown_written h]
  rfl

end

end ScreenMeta

namespace ScreenSpec
variable {s : ScreenSpec} {v : Json}

/-- A screen without the extra keys of its metadata that have no value. -/
def dense (s : ScreenSpec) : ScreenSpec := { s with metadata := s.metadata.map ScreenMeta.dense }

@[simp] lemma toJson_dense (s : ScreenSpec) : s.dense.toJson = s.toJson := by
  simp [dense, toJson, Function.comp_def]

/-- A screen that has been read is read again without the keys that have no value. -/
theorem decode_toJson (h : decode v = .ok s) : decode s.toJson = .ok s.dense := by
  cases v with
  | obj fs =>
    obtain ⟨g₃, tree, h₃, htree, rfl⟩ := Decoded.seq_eq_ok.1 (eq_ok_of_closed h)
    obtain ⟨g₂, metadata, h₂, hmetadata, rfl⟩ := Decoded.seq_eq_ok.1 h₃
    obtain ⟨g₁, route, h₁, -, rfl⟩ := Decoded.seq_eq_ok.1 h₂
    obtain ⟨version, -, rfl⟩ := Decoded.map_eq_ok.1 h₁
    have hversion : Restores integer .int version := ⟨rfl, by simp⟩
    have hdense : ∀ m, metadata.map ScreenMeta.dense = some m →
        Restores ScreenMeta.decode ScreenMeta.toJson m := by
      intro m hm
      obtain ⟨m, rfl, rfl⟩ := Option.map_eq_some_iff.1 hm
      obtain ⟨w, hw⟩ := exists_of_optional_eq_ok hmetadata
      refine ⟨?_, by simp [ScreenMeta.toJson]⟩
      rw [ScreenMeta.toJson_dense, ScreenMeta.decode_toJson (ScreenMeta.extras_of_decode hw)]
    rw [decode, toJson]
    refine record_eq_ok rfl (by decide) fun hspelled => ?_
    rw [fieldOr_eq_ok (a := version) (by simp) hversion,
      required_eq_ok (a := route) (by simp) (restores_text _),
      optional_eq_ok (a := metadata.map ScreenMeta.dense) hspelled (by simp)
        (by simp [Function.comp_def]) hdense,
      Node.stable_inside.required_eq_ok htree (by simp)]
    rfl
  | _ => cases h

end ScreenSpec

/-! ### Normal forms -/

/-- The records that stand in documents of their own. -/
inductive DocumentRecord where
  | screen | node | style | component | reference | interactions | dataSource | responsive
  deriving DecidableEq, Repr

namespace DocumentRecord
variable {v d : Json}

/-- What is written for a document once it is read as the record. -/
def normalized : DocumentRecord → Json → Decoded Json
  | screen, v => ScreenSpec.toJson <$> ScreenSpec.decode v
  | node, v => Node.toJson <$> Node.decode v
  | style, v => NodeStyle.toJson <$> NodeStyle.decode v
  | component, v => ComponentDef.toJson <$> ComponentDef.decode v
  | reference, v => ReferenceProps.toJson <$> ReferenceProps.decode v
  | interactions, v => Interactions.toJson <$> Interactions.decode v
  | dataSource, v => DataSource.toJson <$> DataSource.decode v
  | responsive, v => ResponsiveStyle.toJson <$> ResponsiveStyle.decode v

/-- A normal form is read again, and it is its own normal form. -/
theorem normalized_normalized {r : DocumentRecord} (h : r.normalized v = .ok d) :
    r.normalized d = .ok d := by
  cases r with
  | screen =>
    obtain ⟨s, hs, rfl⟩ := Decoded.map_eq_ok.1 h
    exact Decoded.map_eq_ok.2 ⟨s.dense, ScreenSpec.decode_toJson hs, s.toJson_dense⟩
  | node => exact (Node.stable _).written_again h
  | style => exact NodeStyle.stable.written_again h
  | component => exact ComponentDef.stable.written_again h
  | reference => exact ReferenceProps.stable.written_again h
  | interactions => exact (stable_of_restores Interactions.restores).written_again h
  | dataSource => exact (stable_of_restores DataSource.restores).written_again h
  | responsive => exact (ResponsiveStyle.stable _).written_again h

/-- A screen with second spellings, values that are converted, and nulls at every level. -/
def draft : Json := .obj [("version", .bool true), ("route", .str "/a"),
  ("meta", .obj [("owner", .null), ("layout", .null), ("tags", .arr [.null])]),
  ("tree", .obj [("type", .str "Box"), ("id", .str "a"),
    ("style", .obj [("z_index", .str " +07.0 "), ("font_size", .bool true), ("opacity", .int 1)]),
    ("children", .arr [.obj [("id", .str "b"), ("type", .str "List"), ("children", .null),
      ("props", .obj [("items", .null)]),
      ("data_source", .obj [("type", .str "static"), ("url", .null), ("data", .arr [.null])])]])])]

/-- The same screen as it is written. -/
def fair : Json := .obj [("version", .int 1), ("route", .str "/a"),
  ("meta", .obj [("tags", .arr [.null])]),
  ("tree", .obj [("id", .str "a"), ("type", .str "Box"), ("props", .obj []),
    ("children", .arr [.obj [("id", .str "b"), ("type", .str "List"),
      ("props", .obj [("items", .null)]),
      ("dataSource", .obj [("type", .str "static"), ("data", .arr [.null])])]]),
    ("style", .obj [("fontSize", .int 1), ("opacity", .float (.ofInt 1)), ("zIndex", .int 7)])])]

theorem normalized_normalized_draft :
    screen.normalized draft = .ok fair ∧ screen.normalized fair = .ok fair := by
  have hdraft : screen.normalized draft = .ok fair := by rfl
  exact ⟨hdraft, normalized_normalized hdraft⟩

end DocumentRecord
end Screenwright
