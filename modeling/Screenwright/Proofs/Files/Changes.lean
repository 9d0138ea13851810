import Screenwright.Proofs.Computation
import Screenwright.Proofs.Files.Places

/-! What writing does to a tree: directories are added on the way, and contents are set at the end.
Whatever is not written stays as it was. -/
namespace Screenwright.FileTree
variable {t t' : FileTree} {place q : List String} {e : FileEntry} {p : Path} {s : String}
  {es : List (List String × FileEntry)}

/-- One change of a tree, in a directory that is there: a directory where there was nothing, or
the contents of a file. -/
inductive Change (t : FileTree) (place : List String) : FileEntry → Prop where
  | directory (absent : t.get? place = none)
      (parent : t.get? place.dropLast = some .directory) : Change t place .directory
  | file (s : String) (free : t.get? place ≠ some .directory)
      (parent : t.get? place.dropLast = some .directory) : Change t place (.file s)

namespace Change

lemma ne_nil (h : t.Change place e) : place ≠ [] := by
  rintro rfl
  cases h with
  | directory absent => cases absent
  | file s free => exact free rfl

lemma parent (h : t.Change place e) : t.get? place.dropLast = some .directory := by
  cases h <;> assumption

lemma get?_self (h : t.Change place e) : (t.set place e).get? place = some e := by
  rw [get?_set h.ne_nil, if_pos rfl]

lemma get?_of_ne (h : t.Change place e) (hq : q ≠ place) : (t.set place e).get? q = t.get? q := by
  rw [get?_set h.ne_nil, if_neg hq]

lemma keeps_directory (h : t.Change place e) (hq : t.get? q = some .directory) :
    (t.set place e).get? q = some .directory := by
  by_cases hplace : q = place
  · subst hplace
    cases h with
    | directory => rw [get?_self (.directory ‹_› ‹_›)]
    | file s free => exact absurd hq free
  · rw [h.get?_of_ne hplace, hq]

lemma wellFormed (h : t.Change place e) (hwf : t.WellFormed) : (t.set place e).WellFormed := by
  rw [wellFormed_iff] at hwf ⊢
  intro q x hx
  apply h.keeps_directory
  by_cases hplace : q = place
  · rw [hplace]
    exact h.parent
  · rw [h.get?_of_ne hplace] at hx
    exact hwf q x hx

end Change

/-- A tree after changes at some places, one after the other. -/
inductive Changes : FileTree → List (List String × FileEntry) → FileTree → Prop where
  | nil (t : FileTree) : Changes t [] t
  | cons {t t' : FileTree} {place : List String} {e : FileEntry}
      {es : List (List String × FileEntry)} (first : t.Change place e)
      (rest : Changes (t.set place e) es t') : Changes t ((place, e) :: es) t'

namespace Changes

lemma single (h : t.Change place e) : t.Changes [(place, e)] (t.set place e) := .cons h (.nil _)

lemma trans {es' : List (List String × FileEntry)} {t'' : FileTree} (h : t.Changes es t')
    (h' : t'.Changes es' t'') : t.Changes (es ++ es') t'' := by
  induction h with
  | nil => exact h'
  | cons first _ ih => exact .cons first (ih h')

lemma wellFormed (h : t.Changes es t') (hwf : t.WellFormed) : t'.WellFormed := by
  induction h with
  | nil => exact hwf
  | cons first _ ih => exact ih (first.wellFormed hwf)

lemma keeps_directory (h : t.Changes es t') (hq : t.get? q = some .directory) :
    t'.get? q = some .directory := by
  induction h with
  | nil => exact hq
  | cons first _ ih => exact ih (first.keeps_directory hq)

lemma keeps_locate (h : t.Changes es t') (hp : t.locate p = .ok place) :
    t'.locate p = .ok place := by
  rw [locate_eq_ok_iff] at hp ⊢
  exact ⟨hp.1, fun q hq => h.keeps_directory (hp.2 q hq)⟩

/-- Where no file is written there is what was there, or a directory where nothing was. -/
lemma get?_cases (h : t.Changes es t') (hq : ∀ s, (q, .file s) ∉ es) :
    t'.get? q = t.get? q ∨ t.get? q = none ∧ t'.get? q = some .directory := by
  induction h with
  | nil => exact .inl rfl
  | @cons t t' place e es first rest ih =>
    simp only [List.mem_cons, not_or] at hq
    by_cases hplace : q = place
    · subst hplace
      cases first with
      | directory absent parent =>
        have hself := (Change.directory absent parent).get?_self
        exact .inr ⟨absent, rest.keeps_directory hself⟩
      | file s => exact absurd rfl (hq s).1
    · rw [← first.get?_of_ne hplace]
      exact ih fun s => (hq s).2

/-- A file that is not written is there before and after. -/
lemma get?_eq_file_iff (h : t.Changes es t') (hq : ∀ s, (q, .file s) ∉ es) :
    t'.get? q = some (.file s) ↔ t.get? q = some (.file s) := by
  rcases h.get?_cases hq with hsame | ⟨habsent, hdirectory⟩
  · rw [hsame]
  · simp [habsent, hdirectory]

/-- A file that is not written is read as before. -/
lemma keeps_readText (h : t.Changes es t') {text : String}
    (hp : ∀ s, (Path.follow [] p.parts, .file s) ∉ es) (htext : t.readText p = .ok text) :
    t'.readText p = .ok text := by
  obtain ⟨place, s, hplace, hs, rfl⟩ := readText_eq_ok_iff.1 htext
  obtain rfl := (locate_eq_ok_iff.1 hplace).1
  exact readText_eq_ok_iff.2 ⟨_, s, h.keeps_locate hplace, (h.get?_eq_file_iff hp).2 hs, rfl⟩

/-- What is not written is unreadable afterwards if it was before. -/
lemma readText_toOption (h : t.Changes es t') (hwf : t.WellFormed) (hdots : ".." ∉ p.parts)
    (hp : ∀ s, (p.parts, .file s) ∉ es) :
    (t'.readText p).toOption = (t.readText p).toOption := by
  apply Option.ext
  intro text
  rw [toOption_eq_some_iff, toOption_eq_some_iff, readText_eq_ok_iff_get? hwf hdots,
    readText_eq_ok_iff_get? (h.wellFormed hwf) hdots]
  simp only [h.get?_eq_file_iff hp]

lemma setEntry_places (place : List String) (e : FileEntry)
    (entries : List (List String × FileEntry)) :
    (setEntry place e entries).map (·.1) = entries.map (·.1) ∨
      place ∉ entries.map (·.1) ∧
        (setEntry place e entries).map (·.1) = entries.map (·.1) ++ [place] := by
  induction entries with
  | nil => exact .inr ⟨List.not_mem_nil, rfl⟩
  | cons x entries ih =>
    rw [setEntry]
    split
    · exact .inl rfl
    · next hne => simpa [Ne.symm hne] using ih

/-- New places stand after the old ones, each of them once. -/
lemma exists_places (h : t.Changes es t') :
    ∃ new, t'.entries.map (·.1) = t.entries.map (·.1) ++ new ∧ new.Nodup ∧
      ∀ place ∈ new, place ∉ t.entries.map (·.1) ∧ ∃ e, (place, e) ∈ es := by
  induction h with
  | nil => exact ⟨[], by simp⟩
  | @cons t t' place e es _ _ ih =>
    obtain ⟨new, hnew, hnodup, hes⟩ := ih
    have hes' : ∀ q ∈ new, ∃ x, (q, x) ∈ (place, e) :: es := fun q hq =>
      (hes q hq).2.imp fun _ => List.mem_cons_of_mem _
    rcases setEntry_places place e t.entries with hset | ⟨habsent, hset⟩
    · refine ⟨new, by rw [hnew, ← hset]; rfl, hnodup, fun q hq => ⟨?_, hes' q hq⟩⟩
      rw [← hset]
      exact (hes q hq).1
    · have hold : ∀ q ∈ new, q ∉ t.entries.map (·.1) ++ [place] := fun q hq => by
        rw [← hset]
        exact (hes q hq).1
      have hfresh : place ∉ new := fun hplace => hold place hplace (by simp)
      refine ⟨place :: new, ?_, List.nodup_cons.2 ⟨hfresh, hnodup⟩, ?_⟩
      · rw [hnew, List.append_cons, ← hset]
        rfl
      · exact List.forall_mem_cons.2 ⟨⟨habsent, e, List.mem_cons_self⟩, fun q hq =>
          ⟨fun hmem => hold q hq (List.mem_append_left _ hmem), hes' q hq⟩⟩

/-- The names of a directory that pass a test stay the same where no change is at such a name. -/
lemma filter_namesIn (h : t.Changes es t') (hp : t.locate p = .ok place) {test : String → Bool}
    (htest : ∀ name e, (place ++ [name], e) ∈ es → test name = false) :
    (t'.namesIn p).filter test = (t.namesIn p).filter test := by
  obtain ⟨new, hplaces, -, hnew⟩ := h.exists_places
  rw [namesIn_eq (h.keeps_locate hp), namesIn_eq hp, hplaces, List.filterMap_append,
    List.filter_append]
  rw [List.append_right_eq_self, List.filter_eq_nil_iff]
  intro name hname
  obtain ⟨q, hq, hqname⟩ := List.mem_filterMap.1 hname
  obtain rfl := nameIn_eq_some_iff.1 hqname
  obtain ⟨-, e, he⟩ := hnew _ hq
  simp [htest name e he]

/-- One name that passes a test has come into a directory, where every other change is at a name
that does not pass it. -/
lemma filter_namesIn_concat (h : t.Changes es t') (hwf : t.WellFormed) (hdots : ".." ∉ p.parts)
    {name : String} {test : String → Bool} (hname : test name = true)
    (habsent : t.get? (p.parts ++ [name]) = none)
    (hpresent : (t'.get? (p.parts ++ [name])).isSome)
    (htest : ∀ other e, (p.parts ++ [other], e) ∈ es → other = name ∨ test other = false) :
    (t'.namesIn p).filter test = (t.namesIn p).filter test ++ [name] := by
  obtain ⟨new, hplaces, hnodup, hnew⟩ := h.exists_places
  have hmem : p.parts ++ [name] ∈ new := by
    rw [isSome_get?_iff (by simp), hplaces, List.mem_append] at hpresent
    refine hpresent.resolve_left fun hold => ?_
    rw [← isSome_get?_iff (by simp), habsent] at hold
    cases hold
  obtain ⟨first, last, rfl⟩ := List.append_of_mem hmem
  have hnone : ∀ places ⊆ first ++ last, (places.filterMap (nameIn p.parts)).filter test = [] := by
    intro places hsub
    refine List.filter_eq_nil_iff.2 fun other hother => ?_
    obtain ⟨q, hq, hqname⟩ := List.mem_filterMap.1 hother
    obtain rfl := nameIn_eq_some_iff.1 hqname
    have hmem := List.perm_middle.symm.subset (List.mem_cons_of_mem (p.parts ++ [name]) (hsub hq))
    obtain ⟨-, e, he⟩ := hnew _ hmem
    obtain rfl | hfails := htest other e he
    · exact absurd (hsub hq) (List.nodup_cons.1 (List.perm_middle.nodup_iff.1 hnodup)).1
    · simp [hfails]
  have hself : nameIn p.parts (p.parts ++ [name]) = some name := nameIn_eq_some_iff.2 rfl
  rw [namesIn_eq_of_wellFormed (h.wellFormed hwf) hdots, namesIn_eq_of_wellFormed hwf hdots,
    hplaces, List.filterMap_append, List.filterMap_append, List.filterMap_cons_some hself,
    List.filter_append, List.filter_append, List.filter_cons_of_pos hname,
    hnone first (List.subset_append_left _ _), hnone last (List.subset_append_right _ _),
    List.nil_append]

end Changes

/-! ### Writing -/

lemma change_of_makeDirectory (h : t.makeDirectory p = .ok t') :
    t.Change (Path.follow [] p.parts) .directory ∧
      t' = t.set (Path.follow [] p.parts) .directory := by
  unfold makeDirectory at h
  split at h
  · cases h
  · next place hplace =>
    obtain ⟨rfl, -⟩ := locate_eq_ok_iff.1 hplace
    split at h <;> cases h
    next habsent hparent => exact ⟨.directory habsent hparent, rfl⟩

lemma changes_of_ensureDirectory (h : t.ensureDirectory p = .ok t') :
    ∃ es, t.Changes es t' ∧ ∀ x ∈ es, x = (Path.follow [] p.parts, .directory) := by
  unfold ensureDirectory at h
  split at h
  · next hmake =>
    obtain ⟨hchange, rfl⟩ := change_of_makeDirectory hmake
    cases h
    exact ⟨_, .single hchange, by simp⟩
  · split at h <;> cases h
    exact ⟨[], .nil _, by simp⟩

lemma changes_of_foldlM {ps : List Path} (h : ps.foldlM ensureDirectory t = .ok t') :
    ∃ es, t.Changes es t' ∧ ∀ x ∈ es, ∃ p ∈ ps, x = (Path.follow [] p.parts, .directory) := by
  induction ps generalizing t with
  | nil =>
    cases h
    exact ⟨[], .nil _, by simp⟩
  | cons p ps ih =>
    rw [List.foldlM_cons] at h
    cases hfirst : t.ensureDirectory p with
    | error err => simp [hfirst, bind, Except.bind] at h
    | ok t₁ =>
      rw [hfirst] at h
      obtain ⟨es, hchanges, hes⟩ := changes_of_ensureDirectory hfirst
      obtain ⟨es', hchanges', hes'⟩ := ih h
      refine ⟨es ++ es', hchanges.trans hchanges', fun x hx => ?_⟩
      rcases List.mem_append.1 hx with hx | hx
      · exact ⟨p, List.mem_cons_self, hes x hx⟩
      · obtain ⟨p', hp', hxp⟩ := hes' x hx
        exact ⟨p', List.mem_cons_of_mem _ hp', hxp⟩

lemma changes_of_makeDirectories (h : t.makeDirectories p = .ok t') :
    ∃ es, t.Changes es t' ∧ ∀ x ∈ es, ∃ n ≤ p.parts.length,
      x = (Path.follow [] (p.parts.take n), .directory) := by
  unfold makeDirectories at h
  split at h
  · obtain ⟨es, hchanges, hes⟩ := changes_of_foldlM h
    refine ⟨es, hchanges, fun x hx => ?_⟩
    obtain ⟨p', hp', rfl⟩ := hes x hx
    obtain ⟨n, hn, rfl⟩ := List.mem_map.1 hp'
    exact ⟨n + 1, List.mem_range.1 hn, rfl⟩
  · obtain ⟨es, hchanges, hes⟩ := changes_of_ensureDirectory h
    refine ⟨es, hchanges, fun x hx => ⟨p.parts.length, Nat.le_refl _, ?_⟩⟩
    rw [hes x hx, List.take_length]

lemma change_of_writeFile (hwf : t.WellFormed) (h : t.writeFile p s = .ok t') :
    t.locate p = .ok (Path.follow [] p.parts) ∧ t.Change (Path.follow [] p.parts) (.file s) ∧
      t' = t.set (Path.follow [] p.parts) (.file s) := by
  unfold writeFile at h
  split at h
  · cases h
  · next place hplace =>
    obtain ⟨rfl, -⟩ := locate_eq_ok_iff.1 hplace
    split at h
    · cases h
    · next hfile =>
      cases h
      exact ⟨hplace, .file s (by simp [hfile]) (hwf.parent hfile), rfl⟩
    · next habsent =>
      split at h <;> cases h
      next hparent => exact ⟨hplace, .file s (by simp [habsent]) hparent, rfl⟩

/-- A change that writing a text at a path makes: the text at the place of the path, or a directory
on the way to it. -/
def PartOfWriting (p : Path) (s : String) (x : List String × FileEntry) : Prop :=
  x = (Path.follow [] p.parts, .file s) ∨ ∃ place, p.LeadsThrough place ∧ x = (place, .directory)

lemma PartOfWriting.place_eq {s' : String} (h : PartOfWriting p s (place, .file s')) :
    place = Path.follow [] p.parts := by
  rcases h with heq | ⟨q, -, heq⟩
  · exact congrArg Prod.fst heq
  · cases heq

lemma PartOfWriting.leadsThrough (h : PartOfWriting p s (place, .directory)) :
    p.LeadsThrough place := by
  rcases h with heq | ⟨q, hleads, heq⟩
  · cases congrArg Prod.snd heq
  · obtain rfl : place = q := congrArg Prod.fst heq
    exact hleads

lemma changes_of_writeWithDirectory (hwf : t.WellFormed)
    (h : t.writeWithDirectory p s = (t', .ok ())) :
    t'.contents? p = some s ∧ ∃ es, t.Changes es t' ∧ ∀ x ∈ es, PartOfWriting p s x := by
  unfold writeWithDirectory at h
  split at h
  · cases h
  · next t₁ hdirectories =>
    split at h
    · cases h
    · next hwrite =>
      cases h
      obtain ⟨es, hchanges, hes⟩ := changes_of_makeDirectories hdirectories
      obtain ⟨hlocate, hchange, rfl⟩ := change_of_writeFile (hchanges.wellFormed hwf) hwrite
      refine ⟨?_, es ++ [_], hchanges.trans (.single hchange), fun x hx => ?_⟩
      · exact contents?_eq_some_iff.2
          ⟨_, (Changes.single hchange).keeps_locate hlocate, hchange.get?_self⟩
      · rcases List.mem_append.1 hx with hx | hx
        · obtain ⟨n, hn, rfl⟩ := hes x hx
          have hparts : p.parts ≠ [] := fun hnil => hchange.ne_nil (by rw [hnil]; rfl)
          have hlength : p.parent.parts.length < p.parts.length := by
            have hpos := List.length_pos_iff.2 hparts
            rw [Path.parent, List.length_dropLast]
            omega
          refine .inr ⟨_, ⟨n, by omega, ?_⟩, rfl⟩
          rw [Path.parent, List.dropLast_eq_take, List.take_take, Nat.min_eq_left]
          rwa [← List.length_dropLast]
        · exact .inl (List.mem_singleton.1 hx)

end Screenwright.FileTree
