import Screenwright.Proofs.Record.Refusals
import Screenwright.Proofs.Validation.Documents

/-! Accepted documents and their screens: the walk leaves open only the texts of the metadata and
how deep records are nested. -/
namespace Screenwright
open Decode

namespace RawNode
variable {fs : Fields Json} {v : Json} {room : Nat}

/-- A node with a style, its own or one for narrower screens. -/
inductive IsStyled (fs : Fields Json) : Prop
  | own {gs : Fields Json} (h : fs.get? "style" = some (.obj gs))
  | narrower {gs hs : Fields Json} {name : String} (h : fs.get? "responsive" = some (.obj gs))
    (hname : name ∈ ResponsiveStyle.names) (hstyle : gs.get? name = some (.obj hs))

/-- The depths at which a raw tree has records that count towards the limit: a node is one, its
styles are one level below it, and so are its children. -/
inductive HasRecordAt : Nat → Json → Prop
  | node (fs : Fields Json) : HasRecordAt 1 (.obj fs)
  | style {fs : Fields Json} (h : IsStyled fs) : HasRecordAt 2 (.obj fs)
  | child {fs : Fields Json} {c : Json} {d : Nat} (hc : c ∈ children fs) (h : HasRecordAt d c) :
    HasRecordAt (d + 1) (.obj fs)

/-- A tree with no record deeper than `room`. -/
def NestsWithin (room : Nat) (v : Json) : Prop := ∀ d, HasRecordAt d v → d ≤ room

lemma nestsWithin_obj : NestsWithin (room + 1) (.obj fs) ↔
    (IsStyled fs → 0 < room) ∧ ∀ c ∈ children fs, NestsWithin room c := by
  constructor
  · intro h
    refine ⟨fun hstyled => ?_, fun c hc d hd => ?_⟩
    · have := h 2 (.style hstyled)
      omega
    · have := h (d + 1) (.child hc hd)
      omega
  · rintro ⟨hstyled, hchildren⟩ d hd
    cases hd with
    | node => omega
    | style h =>
      have := hstyled h
      omega
    | child hc h =>
      have := hchildren _ hc _ h
      omega

lemma not_nestsWithin_zero : ¬ NestsWithin 0 (.obj fs) := fun h =>
  absurd (h 1 (.node fs)) (by decide)

/-- A node that passes is read when there is room for its styles. -/
lemma isRead_of_passes (h : Passes fs) : IsRead room fs ↔ (IsStyled fs → 0 < room) := by
  obtain ⟨hkeys, hspelled⟩ := (keys_iff_spelled apart_fieldNames).1 h.known
  constructor
  · rintro hread (@⟨gs, hgs⟩ | @⟨gs, hs, name, hgs, hname, hhs⟩)
    · have hstyle : 0 < room ∧ Reads NodeStyle.decode (.obj gs) := by
        simpa using hread.style _ hgs
      exact hstyle.1
    · have hresponsive : Reads (ResponsiveStyle.decodeWithin room) (.obj gs) := by
        simpa using hread.responsive _ hgs
      obtain ⟨_, ⟨rfl⟩, -, hstyles⟩ := ResponsiveStyle.reads_decodeWithin.1 hresponsive
      have hstyle : 0 < room ∧ Reads NodeStyle.decode (.obj hs) := by
        simpa using hstyles name hname _ hhs
      exact hstyle.1
  · intro hroom
    have htext : ∀ key, Walk.isInkText (fs.get? key) = true → fs.HasText key := fun key hkey =>
      (Walk.isInkText_iff.1 hkey).imp fun _ hs => hs.1
    refine ⟨hkeys, htext _ h.id, htext _ h.type, h.props, fun v hv => .inr (h.children v hv),
      fun v hv => ?_, fun v hv => ?_, fun v hv => .inr (h.interactions v hv), fun v hv => ?_⟩
    · obtain ⟨gs, rfl, -⟩ := NodeStyle.reads_decode.1 (h.style v hv)
      exact .inr ⟨hroom (.own hv), h.style _ hv⟩
    · obtain ⟨gs, rfl, hnames, hstyles⟩ :=
        ResponsiveStyle.reads_decodeWithin.1 (h.responsive v hv)
      refine .inr (ResponsiveStyle.reads_decodeWithin.2 ⟨gs, rfl, hnames, ?_⟩)
      intro name hname w hw
      -- a style for narrower screens that is no object can only be null
      rcases hstyles name hname w hw with rfl | ⟨-, hstyle⟩
      · exact .inl rfl
      · obtain ⟨hs, rfl, -⟩ := NodeStyle.reads_decode.1 hstyle
        exact .inr ⟨hroom (.narrower hv hname hw), hstyle⟩
    · rw [get?_keyOf_of_spelled hspelled (by decide)] at hv
      exact .inr (h.dataSource v hv)

/-- A tree that the walk passes is read exactly when it nests within the room there is. -/
theorem reads_of_walked (h : Walked v) (room : Nat) :
    Reads (Node.decodeWithin room) v ↔ NestsWithin room v := by
  induction h generalizing room with
  | @node fs head _ ih =>
    cases room with
    | zero => exact iff_of_false (not_reads_decodeWithin_zero _) not_nestsWithin_zero
    | succ room =>
      rw [reads_decodeWithin_obj, isRead_of_passes head, nestsWithin_obj,
        forall₂_congr fun c hc => ih c hc room]

end RawNode

namespace RawScreen
variable {fs : Fields Json} {doc : Json}

/-- Metadata whose modeled fields are texts where they are given. -/
def HasPlainMeta (doc : Json) : Prop :=
  ∀ m, doc.get? "meta" = some m → ∀ name ∈ ["layout", "auth"], ∀ v, m.get? name = some v →
    v = .null ∨ ∃ s, v = .str s

lemma reads_screenMeta : Reads ScreenMeta.decode (.obj fs) ↔
    ∀ name ∈ ["layout", "auth"], ∀ v, fs.get? name = some v → v = .null ∨ ∃ s, v = .str s := by
  rw [ScreenMeta.decode, reads_record]
  simp (disch := decide) [keyOf_of_snakeName]

/-- The documents that are read. -/
lemma reads_screenSpec : Reads ScreenSpec.decode (.obj fs) ↔ (∀ e ∈ fs, e.1 ∈ fieldNames) ∧
    (∀ v, fs.get? "version" = some v → Reads integer v) ∧ fs.HasText "route" ∧
    (∀ m, fs.get? "meta" = some m → m = .null ∨ Reads ScreenMeta.decode m) ∧
      ∃ tree, fs.get? "tree" = some tree ∧ Reads Node.decodeInside tree := by
  have hnames : ∀ name ∈ fieldNames, snakeName name = name := by decide
  rw [ScreenSpec.decode, reads_record]
  simp only [Json.obj.injEq, exists_eq_left']
  rw [← fieldNames, faults_closed_of_snakeName hnames]
  refine and_congr_right fun _ => ?_
  simp (disch := decide) only [Decoded.faults_seq, Decoded.faults_map, List.append_eq_nil_iff,
    faults_fieldOr_eq_nil, faults_required_eq_nil, faults_optional_eq_nil, keyOf_of_snakeName,
    and_assoc]
  simp [Fields.HasText]

/-- A document that the walk accepts gives a screen exactly when its metadata is plain and its tree
nests within what the record of the document leaves. -/
theorem exists_screen_iff (doc : Json) (h : Validator.walk.Accepts doc) :
    (∃ spec, ScreenSpec.decode doc = .ok spec) ↔ HasPlainMeta doc ∧
      ∀ tree, doc.get? "tree" = some tree → RawNode.NestsWithin (maxDepth - 1) tree := by
  obtain ⟨fs, rfl, hshape, hversion, hwalked⟩ := walk_accepts.1 h
  obtain ⟨tree, htree⟩ := Option.isSome_iff_exists.1 hshape.tree
  obtain ⟨route, hroute, -⟩ := isRoute_iff.1 hshape.route
  have hnode : Reads Node.decodeInside tree ↔ RawNode.NestsWithin (maxDepth - 1) tree :=
    RawNode.reads_of_walked (hwalked tree htree) _
  have hmeta : (∀ m, fs.get? "meta" = some m → m = .null ∨ Reads ScreenMeta.decode m) ↔
      HasPlainMeta (.obj fs) := by
    refine forall₂_congr fun m hm => ?_
    obtain ⟨gs, rfl⟩ := hshape.metadata m hm
    rw [reads_screenMeta]
    exact or_iff_right nofun
  rw [← ScreenSpec.decides_decode.reads_iff, reads_screenSpec, hmeta]
  constructor
  · rintro ⟨-, -, -, hplain, _, htree', hread⟩
    cases htree.symm.trans htree'
    exact ⟨hplain, fun _ htree'' => Option.some.inj (htree.symm.trans htree'') ▸ hnode.1 hread⟩
  · rintro ⟨hplain, hnests⟩
    refine ⟨hshape.known, fun v hv => ?_, ⟨route, hroute⟩, hplain, tree, htree,
      hnode.2 (hnests tree htree)⟩
    cases hversion.symm.trans hv
    rfl

/-- A screen with a layout and a box of fixed height in its tree. -/
def framedBox : Json :=
  .obj [("version", .int 1), ("route", .str "/"), ("meta", .obj [("layout", .str "wide")]),
    ("tree", .obj [("id", .str "frame"), ("type", .str "Stack"),
      ("children", .arr [.obj [("id", .str "box"), ("type", .str "Box"),
        ("style", .obj [("height", .int 8)])]])])]

/-- The box lies two levels below the record of the document, and its style three. -/
theorem exists_screen_iff_framedBox : Validator.walk.Accepts framedBox ∧
    ∃ spec, ScreenSpec.decode framedBox = .ok spec := by
  have haccepts : Validator.walk.Accepts framedBox := by
    rw [Validator.Accepts]
    decide +kernel
  refine ⟨haccepts, (exists_screen_iff framedBox haccepts).2 ⟨fun m hm => ?_, fun tree htree => ?_⟩⟩
  · cases hm
    exact reads_screenMeta.1 rfl
  · cases htree
    refine RawNode.nestsWithin_obj.2 ⟨fun _ => by decide, fun c hc => ?_⟩
    obtain rfl := List.mem_singleton.1 hc
    exact RawNode.nestsWithin_obj.2 ⟨fun _ => by decide, fun c hc => absurd hc List.not_mem_nil⟩

/-- So many boxes, each in the one before. -/
def boxes : Nat → Json
  | 0 => .obj [("id", .str "box"), ("type", .str "Box")]
  | n + 1 => .obj [("id", .str "box"), ("type", .str "Box"), ("children", .arr [boxes n])]

lemma walked_boxes (n : Nat) : Walked (boxes n) := by
  have walked_box : Walked (boxes 0) := by
    rw [← Walk.nodeIssues_eq_nil _ ""]
    decide +kernel
  induction n with
  | zero => exact walked_box
  | succ n ih =>
    obtain ⟨hbox, -⟩ := walked_obj.1 walked_box
    refine .node ⟨⟨by simp [Node.fieldNames], hbox.id, hbox.type, hbox.props, ?_, hbox.dataSource⟩,
      hbox.table, hbox.reference, hbox.style, hbox.responsive, hbox.interactions⟩ ?_
    · rintro v hv
      cases hv
      exact ⟨_, rfl⟩
    · simpa [RawNode.children] using ih

lemma hasRecordAt_boxes (n : Nat) : RawNode.HasRecordAt (n + 1) (boxes n) := by
  induction n with
  | zero => exact .node _
  | succ n ih => exact .child (c := boxes n) (by simp [RawNode.children]) ih

/-- A screen of as many boxes as may be nested, but for the record of the document. -/
def deepBoxes : Json :=
  .obj [("version", .int 1), ("route", .str "/"), ("tree", boxes (maxDepth - 1))]

/-- The walk accepts the boxes and there is no metadata, but they are too deep to be read. -/
theorem deepBoxes_accepted_unread : Validator.walk.Accepts deepBoxes ∧ HasPlainMeta deepBoxes ∧
    ¬ ∃ spec, ScreenSpec.decode deepBoxes = .ok spec := by
  have haccepts : Validator.walk.Accepts deepBoxes := by
    refine walk_accepts.2 ⟨_, rfl, ⟨by decide, by decide, nofun, rfl⟩, rfl, ?_⟩
    rintro tree htree
    cases htree
    exact walked_boxes _
  refine ⟨haccepts, nofun, fun hread => ?_⟩
  rw [← ScreenSpec.decides_decode.reads_iff, deepBoxes, reads_screenSpec] at hread
  obtain ⟨-, -, -, -, tree, htree, htreeRead⟩ := hread
  cases htree
  rw [Node.decodeInside, RawNode.reads_of_walked (walked_boxes _)] at htreeRead
  exact absurd (htreeRead _ (hasRecordAt_boxes _)) (by decide)

end RawScreen
end Screenwright
