import Screenwright.Document.Style
import Screenwright.Proofs.Record.Reading

/-! Values that are read again from what is written for them, field by field. -/
namespace Screenwright
open Decode

/-! ### Records with absent fields -/

section
variable {fs : List (String × Option Json)} {e : String × Json}

@[simp] lemma get?_presentFields_nil (k : String) : (presentFields []).get? k = none := rfl

lemma presentFields_cons (k : String) (v : Option Json) :
    presentFields ((k, v) :: fs) = (v.map (k, ·)).toList ++ presentFields fs := by
  cases v <;> rfl

@[simp] lemma get?_presentFields_cons (k k' : String) (v : Option Json) :
    (presentFields ((k', v) :: fs)).get? k =
      if k = k' then v.or ((presentFields fs).get? k) else (presentFields fs).get? k := by
  rw [presentFields_cons]
  cases v with
  | none => simp
  | some v => simp

/-- The keys of a record are among those of its fields. -/
lemma fst_mem_of_mem_presentFields (h : e ∈ presentFields fs) : e.1 ∈ fs.map Prod.fst := by
  obtain ⟨⟨k, v⟩, hfield, hsome⟩ := List.mem_filterMap.1 h
  obtain ⟨w, -, rfl⟩ := Option.map_eq_some_iff.1 hsome
  exact List.mem_map_of_mem hfield

/-- A record whose fields have different names has no key twice. -/
lemma nodup_keys_presentFields (h : (fs.map Prod.fst).Nodup) : (presentFields fs).keys.Nodup := by
  have hsub : (presentFields fs).keys.Sublist (fs.map Prod.fst) := by
    induction fs with
    | nil => exact List.Sublist.refl _
    | cons e fs ih =>
      obtain ⟨k, v⟩ := e
      have hrest := ih (List.nodup_cons.1 h).2
      cases v with
      | none => exact hrest.cons k
      | some v => exact hrest.cons_cons k
  exact hsub.nodup h

end

namespace Decode
variable {α : Type} {decode : Json → Decoded α} {write : α → Json} {a : α}

/-! ### What is read -/

section
variable {fs : Fields Json} {names : List String}

lemma eq_ok_of_keepUnless {x : Decoded α} {more : List RecordFault} {a : α}
    (h : x.keepUnless more = .ok a) : x = .ok a := by
  cases x <;> cases more <;> simp_all [Decoded.keepUnless]

lemma eq_ok_of_closed {x : Decoded α} {a : α} (h : closed names fs x = .ok a) : x = .ok a :=
  eq_ok_of_keepUnless h

lemma mem_of_oneOf_eq_ok {allowed : List String} {v : Json} {s : String}
    (h : oneOf allowed v = .ok s) : s ∈ allowed := by
  cases v with
  | str t =>
    rw [oneOf] at h
    split_ifs at h with ht
    · exact Decoded.ok.inj h ▸ ht
    · cases h
  | _ => cases h

lemma exists_of_required_eq_ok {name : String} (h : required fs name decode = .ok a) :
    ∃ w, decode w = .ok a := by
  rw [required] at h
  cases hget : fs.get? (keyOf fs name) with
  | none => simp [hget] at h
  | some w =>
    simp only [hget, Decoded.under_eq_ok] at h
    exact ⟨w, h⟩

lemma nullable_of_ne_null {v : Json} (h : v ≠ .null) :
    nullable decode v = some <$> decode v := by
  cases v with
  | null => exact absurd rfl h
  | _ => rfl

lemma exists_of_optional_eq_ok {name : String}
    (h : optional fs name decode = .ok (some a)) : ∃ w, decode w = .ok a := by
  rw [optional, fieldOr] at h
  cases hget : fs.get? (keyOf fs name) with
  | none => simp [hget] at h
  | some w =>
    simp only [hget, Decoded.under_eq_ok] at h
    refine ⟨w, ?_⟩
    cases w with
    | null => simp [nullable] at h
    | _ =>
      obtain ⟨a', ha, heq⟩ := Decoded.map_eq_ok.1 h
      rw [ha, Option.some.inj heq]

lemma exists_of_list_eq_ok {i : Nat} {vs : List Json} {xs : List α}
    (h : Decoded.list decode i vs = .ok xs) : ∀ x ∈ xs, ∃ v, decode v = .ok x := by
  induction vs generalizing i xs with
  | nil =>
    cases h
    simp
  | cons v vs ih =>
    obtain ⟨g, rest, hfirst, hrest, rfl⟩ := Decoded.seq_eq_ok.1 h
    obtain ⟨x, hx, rfl⟩ := Decoded.map_eq_ok.1 hfirst
    exact List.forall_mem_cons.2 ⟨⟨v, Decoded.under_eq_ok.1 hx⟩, ih hrest⟩

lemma exists_of_entries_eq_ok {gs : Fields α} (h : Decoded.entries decode fs = .ok gs) :
    ∀ e ∈ gs, ∃ v, decode v = .ok e.2 := by
  induction fs generalizing gs with
  | nil =>
    cases h
    simp
  | cons e fs ih =>
    obtain ⟨g, rest, hfirst, hrest, rfl⟩ := Decoded.seq_eq_ok.1 h
    obtain ⟨x, hx, rfl⟩ := Decoded.map_eq_ok.1 hfirst
    exact List.forall_mem_cons.2 ⟨⟨e.2, Decoded.under_eq_ok.1 hx⟩, ih hrest⟩

lemma of_within_eq_ok {room : Nat} {v : Json} (h : within room decode v = .ok a) :
    room ≠ 0 ∧ decode v = .ok a := by
  rw [within] at h
  split_ifs at h with hroom
  · cases h
  · exact ⟨hroom, h⟩

end

/-! ### What is read again -/

/-- A value is read again from what is written for it, which is not null. -/
structure Restores (decode : Json → Decoded α) (write : α → Json) (a : α) : Prop where
  read : decode (write a) = .ok a
  present : write a ≠ .null

lemma Restores.reads (h : Restores decode write a) : Reads decode (write a) := by
  rw [Reads, h.read, Decoded.faults_ok]

lemma restores_text (s : String) : Restores text .str s := ⟨rfl, by simp⟩

lemma restores_object (fs : Fields Json) : Restores object .obj fs := ⟨rfl, by simp⟩

/-- A value of an enumeration is restored when it is the first of its name. -/
lemma restores_named {all : List α} {name : α → String}
    (h : all.find? (name · == name a) = some a) :
    Restores (named all name) (fun a => .str (name a)) a := by
  refine ⟨?_, by simp⟩
  rw [named, h]

lemma list_map_eq_ok {xs : List α} (h : ∀ x ∈ xs, decode (write x) = .ok x) (i : Nat) :
    Decoded.list decode i (xs.map write) = .ok xs := by
  induction xs generalizing i with
  | nil => rfl
  | cons x xs ih =>
    obtain ⟨hx, hxs⟩ := List.forall_mem_cons.1 h
    rw [List.map_cons, Decoded.list, hx, ih hxs]
    rfl

lemma restores_list {xs : List α} (h : ∀ x ∈ xs, decode (write x) = .ok x) :
    Restores (listOf decode) (fun xs => .arr (xs.map write)) xs :=
  ⟨list_map_eq_ok h 0, by simp⟩

lemma restores_rows (rows : List Json) : Restores (listOf any) .arr rows := by
  have hread : Decoded.list any 0 (rows.map id) = .ok rows := list_map_eq_ok (fun _ _ => rfl) 0
  rw [List.map_id] at hread
  exact ⟨hread, by simp⟩

lemma entries_mapValues_eq_ok {fs : Fields α} (h : ∀ e ∈ fs, decode (write e.2) = .ok e.2) :
    Decoded.entries decode (fs.mapValues write) = .ok fs := by
  induction fs with
  | nil => rfl
  | cons e fs ih =>
    obtain ⟨k, a⟩ := e
    obtain ⟨ha, hfs⟩ := List.forall_mem_cons.1 h
    rw [Fields.mapValues, List.map_cons, ← Fields.mapValues, Decoded.entries, ha, ih hfs]
    rfl

lemma restores_dict {fs : Fields α} (h : ∀ e ∈ fs, decode (write e.2) = .ok e.2) :
    Restores (dictOf decode) (fun fs => .obj (fs.mapValues write)) fs :=
  ⟨entries_mapValues_eq_ok h, by simp⟩

lemma Restores.within {room : Nat} (hroom : room ≠ 0) (h : Restores decode write a) :
    Restores (Decode.within room decode) write a := by
  refine ⟨?_, h.present⟩
  rw [Decode.within, if_neg hroom]
  exact h.read

/-! ### Fields that are read again -/

section
variable {fs : Fields Json} {names : List String} {name : String}

/-- An object with no other keys than the names is closed. -/
lemma closed_eq_self (h : ∀ e ∈ fs, e.1 ∈ names) (x : Decoded α) : closed names fs x = x := by
  have hunknown : unknown names fs = [] := by
    refine List.filter_eq_nil_iff.2 fun e he => ?_
    have hkey : keyOf fs e.1 = e.1 := keyOf_of_has (Fields.has_eq_true_iff.2 ⟨e, he, rfl⟩)
    simpa using ⟨e.1, h e he, hkey⟩
  rw [closed, hunknown]
  rfl

/-- The keys beyond names with one spelling. -/
lemma unknown_of_snakeName (h : ∀ name ∈ names, snakeName name = name) (fs : Fields Json) :
    unknown names fs = fs.filter (·.1 ∉ names) := by
  refine List.filter_congr fun e _ => ?_
  have hany : (names.any fun name => keyOf fs name == e.1) = true ↔ e.1 ∈ names := by
    rw [List.any_eq_true]
    constructor
    · rintro ⟨name, hname, hkey⟩
      rw [keyOf_of_snakeName fs (h name hname), beq_iff_eq] at hkey
      exact hkey ▸ hname
    · exact fun he => ⟨e.1, he, by rw [keyOf_of_snakeName fs (h _ he), beq_self_eq_true]⟩
  by_cases he : e.1 ∈ names
  · simp [he, hany.2 he]
  · simp [he, Bool.eq_false_iff.2 (mt hany.1 he)]

lemma required_eq_ok (hget : fs.get? name = some (write a)) (h : Restores decode write a) :
    required fs name decode = .ok a := by
  rw [required, keyOf_of_has (Fields.has_of_get? hget), hget]
  exact Decoded.under_eq_ok.2 h.read

lemma fieldOr_eq_ok {default : α} (hget : fs.get? name = some (write a))
    (h : Restores decode write a) : fieldOr fs name default decode = .ok a := by
  rw [fieldOr, keyOf_of_has (Fields.has_of_get? hget), hget]
  exact Decoded.under_eq_ok.2 h.read

/-- An optional field is read again where no field stands under its second spelling. -/
lemma optional_eq_ok {a : Option α} (hspelled : Spelled names fs) (hname : name ∈ names)
    (hget : fs.get? name = a.map write) (h : ∀ x, a = some x → Restores decode write x) :
    optional fs name decode = .ok a := by
  rw [optional, fieldOr, get?_keyOf_of_spelled hspelled hname, hget]
  cases a with
  | none => rfl
  | some x =>
    obtain ⟨hread, hpresent⟩ := h x rfl
    rw [Option.map_some]
    simp only [nullable_of_ne_null hpresent, hread]
    rfl

lemma spelled_of_snakeName (h : ∀ name ∈ names, snakeName name = name) : Spelled names fs :=
  fun name hname _ => keyOf_of_snakeName fs (h name hname)

lemma spelled_presentFields {fields : List (String × Option Json)}
    (hnames : fields.map Prod.fst = names) (h : ∀ name ∈ names, '_' ∉ name.toList) :
    Spelled names (presentFields fields) := by
  subst hnames
  exact ((keys_iff_spelled (apart_of_noLowLine h)).1 fun _ he => fst_mem_of_mem_presentFields he).2

/-- A record is read again when its fields are, none of them under a second spelling. -/
lemma record_eq_ok {fields : List (String × Option Json)} {recordName : String}
    {read : Fields Json → Decoded α} (hnames : fields.map Prod.fst = names)
    (hlow : ∀ name ∈ names, '_' ∉ name.toList)
    (h : Spelled names (presentFields fields) → read (presentFields fields) = .ok a) :
    record recordName (fun fs => closed names fs (read fs)) (.obj (presentFields fields)) =
      .ok a := by
  have hkeys : ∀ e ∈ presentFields fields, e.1 ∈ names :=
    fun e he => hnames ▸ fst_mem_of_mem_presentFields he
  rw [record, closed_eq_self hkeys]
  exact h (spelled_presentFields hnames hlow)

end

/-! ### Readers of which everything is read again -/

/-- Whatever is read is read again from what is written for it. -/
def Stable (decode : Json → Decoded α) (write : α → Json) : Prop :=
  ∀ v a, decode v = .ok a → Restores decode write a

lemma stable_of_restores (h : ∀ a, Restores decode write a) : Stable decode write :=
  fun _ a _ => h a

/-- What is written for a value that has been read is written again once it is read. -/
lemma Stable.written_again (h : Stable decode write) {v d : Json}
    (hd : write <$> decode v = .ok d) : write <$> decode d = .ok d := by
  obtain ⟨a, ha, rfl⟩ := Decoded.map_eq_ok.1 hd
  exact Decoded.map_eq_ok.2 ⟨a, (h v a ha).read, rfl⟩

lemma Stable.listOf (h : Stable decode write) :
    Stable (listOf decode) fun xs => .arr (xs.map write) := by
  intro v xs hread
  cases v with
  | arr vs =>
    refine restores_list fun x hx => ?_
    obtain ⟨w, hw⟩ := exists_of_list_eq_ok hread x hx
    exact (h w x hw).read
  | _ => cases hread

lemma Stable.dictOf (h : Stable decode write) :
    Stable (dictOf decode) fun fs => .obj (fs.mapValues write) := by
  intro v gs hread
  cases v with
  | obj fs =>
    refine restores_dict fun e he => ?_
    obtain ⟨w, hw⟩ := exists_of_entries_eq_ok hread e he
    exact (h w e.2 hw).read
  | _ => cases hread

lemma Stable.within {room : Nat} (h : Stable decode write) :
    Stable (Decode.within room decode) write := by
  intro v a hread
  obtain ⟨hroom, hread⟩ := of_within_eq_ok hread
  exact (h v a hread).within hroom

section
variable {fs gs : Fields Json} {names : List String} {name : String}

lemma Stable.required_eq_ok (h : Stable decode write) (hread : required fs name decode = .ok a)
    (hget : gs.get? name = some (write a)) : required gs name decode = .ok a := by
  obtain ⟨w, hw⟩ := exists_of_required_eq_ok hread
  exact Decode.required_eq_ok hget (h w a hw)

lemma Stable.fieldOr_eq_ok {default : α} (h : Stable decode write)
    (hdefault : Restores decode write default) (hread : fieldOr fs name default decode = .ok a)
    (hget : gs.get? name = some (write a)) : fieldOr gs name default decode = .ok a := by
  refine Decode.fieldOr_eq_ok hget ?_
  rw [fieldOr] at hread
  cases hfield : fs.get? (keyOf fs name) with
  | none =>
    simp only [hfield, Decoded.ok.injEq] at hread
    exact hread ▸ hdefault
  | some w =>
    simp only [hfield, Decoded.under_eq_ok] at hread
    exact h w a hread

lemma Stable.optional_eq_ok {a : Option α} (h : Stable decode write)
    (hread : optional fs name decode = .ok a) (hspelled : Spelled names gs) (hname : name ∈ names)
    (hget : gs.get? name = a.map write) : optional gs name decode = .ok a := by
  refine Decode.optional_eq_ok hspelled hname hget fun x hx => ?_
  obtain ⟨w, hw⟩ := exists_of_optional_eq_ok (hx ▸ hread)
  exact h w x hw

end

end Decode
end Screenwright
