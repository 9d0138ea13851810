import Mathlib.Data.List.Induction
import Mathlib.Data.List.Infix
import Screenwright.Files.Tree
import Screenwright.Proofs.Computation

/-! Places in a tree of files: the entries at them, the paths that lead to them, and trees in which
every entry stands in a directory. In trees that agree, with the same directories and the same files
wherever it matters, the same paths lead somewhere and the same is read there. The last name of a
path written as a text ends as the text does. -/
namespace Screenwright

namespace Path
variable {place parts : List String}

/-- The path leads through a place before it ends. -/
def LeadsThrough (p : Path) (place : List String) : Prop :=
  ∃ n < p.parts.length, place = follow [] (p.parts.take n)

lemma follow_append (xs ys : List String) :
    follow place (xs ++ ys) = follow (follow place xs) ys := List.foldl_append

lemma follow_child {name : String} (h : name ≠ "..") :
    follow place (parts ++ [name]) = follow place parts ++ [name] := by
  rw [follow_append]
  simp [follow, h]

/-- Without double dots a path is its own place. -/
lemma follow_eq_append (h : ".." ∉ parts) : follow place parts = place ++ parts := by
  induction parts generalizing place with
  | nil => simp [follow]
  | cons part parts ih =>
    obtain ⟨hpart, hparts⟩ := not_or.1 (List.mem_cons.not.1 h)
    have hstep : follow place (part :: parts) = follow (place ++ [part]) parts := by
      simp [follow, Ne.symm hpart]
    rw [hstep, ih hparts, List.append_assoc, List.singleton_append]

lemma dots_notMem_follow (h : ".." ∉ place) : ".." ∉ follow place parts := by
  induction parts generalizing place with
  | nil => exact h
  | cons part parts ih =>
    apply ih
    by_cases hpart : part = ".."
    · simpa [hpart] using fun hmem => h (List.dropLast_subset _ hmem)
    · simp [h, hpart, Ne.symm hpart]

lemma leadsThrough_child {p : Path} {name : String} {q : List String} :
    (p.child name).LeadsThrough q ↔ p.LeadsThrough q ∨ q = follow [] p.parts := by
  have htake : ∀ n ≤ p.parts.length, (p.child name).parts.take n = p.parts.take n := fun n hn =>
    List.take_append_of_le_length hn
  have hlength : (p.child name).parts.length = p.parts.length + 1 := List.length_append
  constructor
  · rintro ⟨n, hn, rfl⟩
    rw [hlength] at hn
    rw [htake n (Nat.le_of_lt_succ hn)]
    rcases Nat.lt_succ_iff_lt_or_eq.1 hn with hn | rfl
    · exact .inl ⟨n, hn, rfl⟩
    · exact .inr (by rw [List.take_length])
  · rintro (⟨n, hn, rfl⟩ | rfl)
    · exact ⟨n, by omega, by rw [htake n (Nat.le_of_lt hn)]⟩
    · exact ⟨p.parts.length, by omega, by rw [htake _ (Nat.le_refl _), List.take_length]⟩

end Path

namespace FileTree
variable {t : FileTree} {place q : List String} {e : FileEntry} {p : Path}

/-! ### Entries -/

lemma lookup_setEntry (entries : List (List String × FileEntry)) :
    (setEntry place e entries).lookup q = if q = place then some e else entries.lookup q := by
  induction entries with
  | nil =>
    by_cases h : q = place
    · simp [setEntry, h]
    · simp [setEntry, h, List.lookup_cons, beq_false_of_ne h]
  | cons x entries ih =>
    obtain ⟨r, x⟩ := x
    rw [setEntry]
    split
    · next hr =>
      subst hr
      by_cases h : q = r
      · simp [h]
      · simp [h, List.lookup_cons, beq_false_of_ne h]
    · next hr =>
      by_cases h : q = r
      · subst h
        simp [hr]
      · rw [List.lookup_cons, beq_false_of_ne h, List.lookup_cons, beq_false_of_ne h]
        exact ih

lemma get?_set (h : place ≠ []) :
    (t.set place e).get? q = if q = place then some e else t.get? q := by
  cases q with
  | nil => simp [get?, Ne.symm h]
  | cons name q => exact lookup_setEntry t.entries

lemma isSome_get?_iff (h : place ≠ []) :
    (t.get? place).isSome ↔ place ∈ t.entries.map (·.1) := by
  have hlookup : t.get? place = t.entries.lookup place := by simp [get?, h]
  rw [hlookup, List.lookup_isSome_iff, List.mem_map]
  simp only [beq_iff_eq, eq_comm (a := place)]

/-- Every entry stands in a directory. -/
def WellFormed (t : FileTree) : Prop :=
  ∀ e ∈ t.entries, t.get? e.1.dropLast = some .directory

instance : Decidable t.WellFormed :=
  inferInstanceAs (Decidable (∀ e ∈ t.entries, t.get? e.1.dropLast = some .directory))

lemma WellFormed.parent (h : t.WellFormed) (he : t.get? place = some e) :
    t.get? place.dropLast = some .directory := by
  by_cases hplace : place = []
  · subst hplace
    rfl
  · have hsome : (t.get? place).isSome := by simp [he]
    obtain ⟨x, hx, rfl⟩ := List.mem_map.1 ((isSome_get?_iff hplace).1 hsome)
    exact h x hx

lemma wellFormed_iff : t.WellFormed ↔
    ∀ place e, t.get? place = some e → t.get? place.dropLast = some .directory := by
  refine ⟨fun h place e he => h.parent he, fun h x hx => ?_⟩
  by_cases hplace : x.1 = []
  · rw [hplace]
    rfl
  · have hsome := (isSome_get?_iff (t := t) hplace).2 (List.mem_map_of_mem hx)
    obtain ⟨e, he⟩ := Option.isSome_iff_exists.1 hsome
    exact h _ e he

/-- What is above an entry is a directory. -/
lemma WellFormed.above (h : t.WellFormed) {below : List String} (hbelow : below ≠ [])
    (he : t.get? (place ++ below) = some e) : t.get? place = some .directory := by
  induction below using List.reverseRecOn generalizing e with
  | nil => exact absurd rfl hbelow
  | append_singleton below name ih =>
    have hparent := h.parent he
    rw [← List.append_assoc, List.dropLast_concat] at hparent
    cases below with
    | nil => simpa using hparent
    | cons => exact ih (List.cons_ne_nil _ _) hparent

/-! ### Paths -/

lemma walkFrom_eq_ok_iff {parts : List String} : t.walkFrom q parts = .ok place ↔
    place = Path.follow q parts ∧
      ∀ n < parts.length, t.get? (Path.follow q (parts.take n)) = some .directory := by
  induction parts generalizing q with
  | nil => simp [walkFrom, Path.follow, eq_comm]
  | cons part parts ih =>
    have hstep : ∀ xs, Path.follow q (part :: xs) =
        Path.follow (if part = ".." then q.dropLast else q ++ [part]) xs := fun xs => rfl
    -- the walk passes the first place and goes on as from the second
    have hplaces : (∀ n < (part :: parts).length,
        t.get? (Path.follow q ((part :: parts).take n)) = some .directory) ↔
        t.get? q = some .directory ∧ ∀ n < parts.length,
          t.get? (Path.follow q (part :: parts.take n)) = some .directory := by
      constructor
      · exact fun h => ⟨h 0 (Nat.succ_pos _), fun n hn => h (n + 1) (Nat.succ_lt_succ hn)⟩
      · rintro ⟨hfirst, hrest⟩ (_ | n) hn
        · exact hfirst
        · exact hrest n (Nat.lt_of_succ_lt_succ hn)
    rw [walkFrom, hplaces]
    simp only [hstep]
    cases hentry : t.get? q with
    | none => simp
    | some e =>
      cases e with
      | file s => simp
      | directory => simpa using ih

lemma locate_eq_ok_iff : t.locate p = .ok place ↔
    place = Path.follow [] p.parts ∧ ∀ q, p.LeadsThrough q → t.get? q = some .directory := by
  rw [locate, walkFrom_eq_ok_iff]
  refine and_congr_right fun _ => ⟨?_, fun h n hn => h _ ⟨n, hn, rfl⟩⟩
  rintro h q ⟨n, hn, rfl⟩
  exact h n hn

/-- An entry is found at the names that lead to it. -/
lemma locate_of_get? (h : t.WellFormed) (hdots : ".." ∉ p.parts)
    (he : t.get? p.parts = some e) : t.locate p = .ok p.parts := by
  refine locate_eq_ok_iff.2 ⟨by simp [Path.follow_eq_append hdots], ?_⟩
  rintro q ⟨n, hn, rfl⟩
  have htake : ".." ∉ p.parts.take n := fun hmem => hdots (List.mem_of_mem_take hmem)
  rw [Path.follow_eq_append htake, List.nil_append]
  have hbelow : p.parts.drop n ≠ [] := by simpa using hn
  rw [← List.take_append_drop n p.parts] at he
  exact h.above hbelow he

lemma locate_child_iff {name : String} (hname : name ≠ "..") :
    t.locate (p.child name) = .ok place ↔
      ∃ above, t.locate p = .ok above ∧ t.get? above = some .directory ∧
        place = above ++ [name] := by
  have hfollow : Path.follow [] (p.child name).parts = Path.follow [] p.parts ++ [name] :=
    Path.follow_child hname
  simp only [locate_eq_ok_iff, Path.leadsThrough_child, hfollow]
  constructor
  · rintro ⟨rfl, hdirectories⟩
    exact ⟨_, ⟨rfl, fun q hq => hdirectories q (.inl hq)⟩, hdirectories _ (.inr rfl), rfl⟩
  · rintro ⟨_, ⟨rfl, hdirectories⟩, habove, rfl⟩
    exact ⟨rfl, fun q hq => hq.elim (hdirectories q) fun heq => heq ▸ habove⟩

lemma entry?_eq_some_iff :
    t.entry? p = some e ↔ ∃ place, t.locate p = .ok place ∧ t.get? place = some e := by
  unfold entry?
  cases t.locate p <;> simp

lemma contents?_eq_some_iff {s : String} :
    t.contents? p = some s ↔ ∃ place, t.locate p = .ok place ∧ t.get? place = some (.file s) := by
  rw [← entry?_eq_some_iff, contents?]
  cases t.entry? p with
  | none => simp
  | some e => cases e <;> simp

lemma isDirectory_iff : t.isDirectory p = true ↔
    ∃ place, t.locate p = .ok place ∧ t.get? place = some .directory := by
  rw [← entry?_eq_some_iff, isDirectory]
  cases t.entry? p with
  | none => simp
  | some e => cases e <;> simp

/-- The text of a file is read with line feeds. -/
lemma readText_eq_ok_iff {text : String} : t.readText p = .ok text ↔
    ∃ place s, t.locate p = .ok place ∧ t.get? place = some (.file s) ∧
      text = String.ofList (Text.unixLineEnds s.toList) := by
  unfold readText
  cases t.locate p with
  | error kind => simp
  | ok place =>
    cases hentry : t.get? place with
    | none => simp [hentry]
    | some e => cases e <;> simp [hentry, eq_comm]

/-- Where every entry stands in a directory, the files at names that lead down are those read. -/
lemma readText_eq_ok_iff_get? (h : t.WellFormed) (hdots : ".." ∉ p.parts) {text : String} :
    t.readText p = .ok text ↔ ∃ s, t.get? p.parts = some (.file s) ∧
      text = String.ofList (Text.unixLineEnds s.toList) := by
  rw [readText_eq_ok_iff]
  constructor
  · rintro ⟨place, s, hplace, hs, htext⟩
    obtain ⟨rfl, -⟩ := locate_eq_ok_iff.1 hplace
    rw [Path.follow_eq_append hdots] at hs
    exact ⟨s, hs, htext⟩
  · rintro ⟨s, hs, htext⟩
    exact ⟨p.parts, s, locate_of_get? h hdots hs, hs, htext⟩

/-- The name of a place in a directory. -/
def nameIn (directory place : List String) : Option String :=
  if place.dropLast = directory ∧ place ≠ [] then place.getLast? else none

lemma nameIn_eq_some_iff {directory : List String} {name : String} :
    nameIn directory place = some name ↔ place = directory ++ [name] := by
  unfold nameIn
  constructor
  · intro h
    split at h
    · next hplace =>
      obtain ⟨above, rfl⟩ := List.getLast?_eq_some_iff.1 h
      rw [← hplace.1, List.dropLast_concat]
    · cases h
  · rintro rfl
    simp

lemma namesIn_eq {directory : List String} (h : t.locate p = .ok directory) :
    t.namesIn p = (t.entries.map (·.1)).filterMap (nameIn directory) := by
  rw [namesIn, h, List.filterMap_map]
  rfl

/-- In a tree in which every entry stands in a directory, the names in a directory are those of all
places in it, even if it is not there. -/
lemma namesIn_eq_of_wellFormed (h : t.WellFormed) (hdots : ".." ∉ p.parts) :
    t.namesIn p = (t.entries.map (·.1)).filterMap (nameIn p.parts) := by
  cases hp : t.locate p with
  | ok place =>
    obtain ⟨rfl, -⟩ := locate_eq_ok_iff.1 hp
    rw [namesIn_eq hp, Path.follow_eq_append hdots, List.nil_append]
  | error kind =>
    have hnone : (t.entries.map (·.1)).filterMap (nameIn p.parts) = [] := by
      refine List.filterMap_eq_nil_iff.2 fun place hplace => ?_
      cases hname : nameIn p.parts place with
      | none => rfl
      | some name =>
        obtain rfl := nameIn_eq_some_iff.1 hname
        obtain ⟨e, he⟩ := Option.isSome_iff_exists.1 ((isSome_get?_iff (by simp)).2 hplace)
        rw [locate_of_get? h hdots (h.above (List.cons_ne_nil _ _) he)] at hp
        cases hp
    rw [namesIn, hp, hnone]

lemma isSome_of_mem_namesIn (h : t.WellFormed) (hdots : ".." ∉ p.parts) {name : String}
    (hname : name ∈ t.namesIn p) : (t.get? (p.parts ++ [name])).isSome := by
  rw [namesIn_eq_of_wellFormed h hdots] at hname
  obtain ⟨place, hplace, hin⟩ := List.mem_filterMap.1 hname
  obtain rfl := nameIn_eq_some_iff.1 hin
  exact (isSome_get?_iff (by simp)).2 hplace

lemma mem_namesIn_iff {directory : List String} {name : String}
    (h : t.locate p = .ok directory) :
    name ∈ t.namesIn p ↔ (t.get? (directory ++ [name])).isSome := by
  rw [namesIn_eq h, isSome_get?_iff (by simp)]
  simp only [List.mem_filterMap, nameIn_eq_some_iff, exists_eq_right]

/-! ### Trees that agree -/

section
variable {t' : FileTree} {kept : List String → Prop}

/-- Trees with the same directories, and with the same files at the places that are kept. -/
structure Agree (kept : List String → Prop) (t t' : FileTree) : Prop where
  directory : ∀ place, t'.get? place = some .directory ↔ t.get? place = some .directory
  file : ∀ place, kept place → ∀ s,
    t'.get? place = some (.file s) ↔ t.get? place = some (.file s)

namespace Agree

lemma locate_iff (h : Agree kept t t') : t'.locate p = .ok place ↔ t.locate p = .ok place := by
  simp only [locate_eq_ok_iff, h.directory]

lemma isDirectory_eq (h : Agree kept t t') (p : Path) : t'.isDirectory p = t.isDirectory p := by
  rw [Bool.eq_iff_iff, isDirectory_iff, isDirectory_iff]
  simp only [h.locate_iff, h.directory]

/-- The same text is read at a path to a place that is kept. -/
lemma readText_iff (h : Agree kept t t') (hkept : kept (Path.follow [] p.parts)) {text : String} :
    t'.readText p = .ok text ↔ t.readText p = .ok text := by
  rw [readText_eq_ok_iff, readText_eq_ok_iff]
  refine exists_congr fun place => exists_congr fun s => ?_
  rw [h.locate_iff]
  refine and_congr_right fun hplace => ?_
  obtain rfl := (locate_eq_ok_iff.1 hplace).1
  rw [h.file _ hkept]

lemma readText_toOption (h : Agree kept t t') (hkept : kept (Path.follow [] p.parts)) :
    (t'.readText p).toOption = (t.readText p).toOption := by
  apply Option.ext
  intro text
  rw [toOption_eq_some_iff, toOption_eq_some_iff, h.readText_iff hkept]

end Agree

end

end FileTree

/-! ### Names -/

lemma endsWith_iff {s ending : String} :
    s.endsWith ending = true ↔ ending.toList <:+ s.toList := by
  rw [← String.endsWith_toSlice, String.Slice.endsWith_string_iff, String.copy_toSlice]

/-- A text with one ending does not have another, unless one of the two ends in the other. -/
lemma endsWith_eq_false {s ending other : String} (h : s.endsWith ending = true)
    (hending : ending.endsWith other = false) (hother : other.endsWith ending = false) :
    s.endsWith other = false := by
  rw [Bool.eq_false_iff, ne_eq, endsWith_iff] at hending hother ⊢
  intro hs
  rcases List.suffix_or_suffix_of_suffix (endsWith_iff.1 h) hs with hsuffix | hsuffix
  · exact hother hsuffix
  · exact hending hsuffix

namespace Path

lemma partsOf_append_slash (xs ys : List Char) :
    partsOf (xs ++ '/' :: ys) = partsOf xs ++ partsOf ys := by
  rw [partsOf, List.splitOn_append_cons_self, List.map_append, List.filter_append, partsOf, partsOf]

lemma partsOf_of_notMem {xs : List Char} (hslash : '/' ∉ xs) (hlength : 2 ≤ xs.length) :
    partsOf xs = [String.ofList xs] := by
  have hne : ∀ s : String, s.toList.length < 2 → String.ofList xs ≠ s := by
    rintro s hs rfl
    rw [String.toList_ofList] at hs
    omega
  have hempty := hne "" (by decide)
  have hdot := hne "." (by decide)
  rw [partsOf, List.splitOn_eq_singleton hslash]
  simp [hempty, hdot]

/-- What a text may end in for its path to end in a name of that ending, and not in double dots. -/
def IsEnding (ending : String) : Prop := '/' ∉ ending.toList ∧ 3 ≤ ending.toList.length

instance (ending : String) : Decidable (IsEnding ending) :=
  inferInstanceAs (Decidable ('/' ∉ ending.toList ∧ 3 ≤ ending.toList.length))

variable {ending s : String}

lemma exists_name_of_endsWith (hending : IsEnding ending) (h : s.endsWith ending = true) :
    ∃ above name, (ofText s).parts = above ++ [name] ∧ name.endsWith ending = true := by
  obtain ⟨hslash, hlength⟩ := hending
  obtain ⟨start, hstart⟩ := endsWith_iff.1 h
  have hparts : (ofText s).parts = partsOf (start ++ ending.toList) := by
    rw [hstart]
    rfl
  have hname : ∀ first : List Char, '/' ∉ first →
      partsOf (first ++ ending.toList) = [String.ofList (first ++ ending.toList)] ∧
        (String.ofList (first ++ ending.toList)).endsWith ending = true := by
    intro first hfirst
    refine ⟨partsOf_of_notMem (by simp [hfirst, hslash]) ?_, ?_⟩
    · rw [List.length_append]
      omega
    · rw [endsWith_iff, String.toList_ofList]
      exact List.suffix_append _ _
  by_cases hmem : '/' ∈ start
  · -- the name begins after the last slash, the first one from behind
    obtain ⟨last, rest, hreverse, hlast⟩ :=
      List.eq_append_cons_of_mem (List.mem_reverse.2 hmem)
    have hsplit : start = rest.reverse ++ '/' :: last.reverse := by
      rw [← List.reverse_reverse start, hreverse]
      simp
    obtain ⟨hpiece, hends⟩ := hname last.reverse (by simpa using hlast)
    refine ⟨partsOf rest.reverse, _, ?_, hends⟩
    rw [hparts, hsplit, List.append_assoc, List.cons_append, partsOf_append_slash, hpiece]
  · obtain ⟨hpiece, hends⟩ := hname start hmem
    exact ⟨[], _, by rw [hparts, hpiece]; rfl, hends⟩

lemma ne_dots_of_endsWith {name : String} (hending : IsEnding ending)
    (h : name.endsWith ending = true) : name ≠ ".." := by
  rintro rfl
  have hlength := (endsWith_iff.1 h).length_le
  have hdots : "..".toList.length = 2 := by decide
  have := hending.2
  omega

/-- The place of a path ends as the path is written. -/
lemma exists_name_resolve (place : Path) (hending : IsEnding ending)
    (h : s.endsWith ending = true) :
    ∃ above name, (resolve place (ofText s)).parts = above ++ [name] ∧
      name.endsWith ending = true := by
  obtain ⟨above, name, hparts, hname⟩ := exists_name_of_endsWith hending h
  have hjoin : ∃ above, (place.join (ofText s)).parts = above ++ [name] := by
    rw [join]
    split
    · exact ⟨above, hparts⟩
    · exact ⟨place.parts ++ above, by rw [hparts, List.append_assoc]⟩
  obtain ⟨above', hjoin⟩ := hjoin
  refine ⟨follow [] above', name, ?_, hname⟩
  rw [resolve, hjoin, follow_child (ne_dots_of_endsWith hending hname)]

lemma dots_notMem_resolve (place p : Path) : ".." ∉ (resolve place p).parts :=
  dots_notMem_follow List.not_mem_nil

end Path

end Screenwright
