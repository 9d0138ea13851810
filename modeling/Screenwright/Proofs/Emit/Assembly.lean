import Screenwright.Proofs.Emit.Imports
import Screenwright.Proofs.Text.Pieces

/-! Renderings put together from others. Such a rendering fails when one of its parts does or on a
fault of its own, and its text keeps the pieces of the texts of its parts. -/
namespace Screenwright.Emit

/-! ### Values of renderings -/

namespace Emission
variable {α β : Type}

/-- What a rendering comes out as, its imports left aside. -/
def value (x : Emission α) : Except EmitError α := x.run.map Prod.fst

@[simp] lemma value_pure (a : α) : (pure a : Emission α).value = .ok a := rfl

@[simp] lemma value_bind (x : Emission α) (f : α → Emission β) :
    (x >>= f).value = x.value >>= fun a => (f a).value := by
  unfold value
  rw [run_bind]
  cases x.run with
  | error e => rfl
  | ok r => cases h : (f r.1).run <;> simp [Except.bind, Except.map, bind, h]

@[simp] lemma value_map (f : α → β) (x : Emission α) : (f <$> x).value = x.value.map f := by
  rw [map_eq_pure_bind, value_bind]
  cases x.value <;> rfl

@[simp] lemma value_discard (x : Emission α) : (discard x).value = x.value.map fun _ => () :=
  value_map (fun _ => ()) x

@[simp] lemma value_use (source name : String) : (use source name).value = .ok name := rfl

@[simp] lemma value_useDefault (source name : String) :
    (useDefault source name).value = .ok name := rfl

@[simp] lemma value_ofExcept (x : Except EmitError α) : (ofExcept x).value = x := by
  cases x <;> rfl

@[simp] lemma value_mapM (xs : List (Emission α)) :
    (xs.mapM id).value = (xs.map value).mapM id := by
  induction xs with
  | nil => rfl
  | cons x xs ih =>
    rw [List.mapM_cons, List.map_cons, List.mapM_cons, value_bind]
    simp only [id, value_bind, value_pure, ih]
    rfl

@[simp] lemma value_join (xs : List (Emission String)) :
    (join xs).value = joinRendered (xs.map value) := by
  rw [join, value_bind, value_mapM]
  rfl

lemma value_bind_eq_ok_iff {x : Emission α} {f : α → Emission β} {b : β} :
    (x >>= f).value = .ok b ↔ ∃ a, x.value = .ok a ∧ (f a).value = .ok b := by
  rw [value_bind, bind_eq_ok_iff]

lemma value_bind_of_ok {x : Emission α} {a : α} (h : x.value = .ok a) (f : α → Emission β) :
    (x >>= f).value = (f a).value := by
  rw [value_bind, h]
  rfl

/-- A step that does not fail leaves the faults of the rest. -/
lemma breaks_value_bind {x : Emission α} {f : α → Emission β} {fault : Prop}
    (hx : ¬ Breaks x.value) (hf : ∀ a, Breaks (f a).value ↔ fault) :
    Breaks (x >>= f).value ↔ fault := by
  obtain ⟨a, ha⟩ := exists_ok_of_not_breaks hx
  rw [value_bind_of_ok ha]
  exact hf a

lemma not_breaks_value_bind {x : Emission α} {f : α → Emission β} (hx : ¬ Breaks x.value)
    (hf : ∀ a, ¬ Breaks (f a).value) : ¬ Breaks (x >>= f).value :=
  (breaks_value_bind hx fun a => iff_false_intro (hf a)).1

end Emission

/-! ### Closing tags -/

/-- The body of an element is followed by its closing tag. -/
lemma keeps_closed {front body tag : String} :
    Text.Keeps (body ++ "<") (front ++ body ++ s!"</{tag}>") := by
  have hclosing : s!"</{tag}>" = "<" ++ ("/" ++ tag ++ ">") := by
    rw [← String.append_assoc, ← String.append_assoc]
    rfl
  have hwhole : front ++ body ++ s!"</{tag}>" =
      front ++ (body ++ "<") ++ ("/" ++ tag ++ ">") := by
    rw [hclosing]
    simp only [String.append_assoc]
  rw [hwhole]
  exact ((Text.Keeps.refl _).append_left _).append_right _

/-! ### Faults -/

/-- An element that shares the id of one with overrides but has none itself. -/
def LacksOverrides (f : Framework) (s : Screen) (e : Element) : Prop :=
  f = .expo ∧ s.state.isResponsiveId e.id = true ∧ e.responsive = none

/-- Why the rendering of an element fails by itself. -/
inductive Faulty (f : Framework) (s : Screen) (e : Element) : Prop
  | overrides (hplugin : pluginOf? s.plugins e = none) (h : LacksOverrides f s e)
  | level (htype : NodeKind.classify e.type e.props = .builtin .heading)
      (h : Breaks (headingLevel e))
  | rows (htype : NodeKind.classify e.type e.props = .builtin .dataTable)
      (hfetch : s.state.fetchFor? e.id = none) (h : Breaks (tableRows e))
  | plugin {p : NodePlugin} (hplugin : pluginOf? s.plugins e = some p)
      (h : Breaks (p.render f.name e))

section
variable {f : Framework} {s : Screen} {e : Element}

lemma faulty_reference {ref : Option String}
    (h : NodeKind.classify e.type e.props = .reference ref) :
    Faulty f s e ↔ LacksOverrides f s e := by
  have hplugin : pluginOf? s.plugins e = none := by simp [pluginOf?, h]
  constructor
  · rintro (⟨-, h'⟩ | ⟨h', -⟩ | ⟨h', -, -⟩ | ⟨h', -⟩)
    · exact h'
    · simp [h] at h'
    · simp [h] at h'
    · simp [hplugin] at h'
  · exact .overrides hplugin

/-- The faults of an element of a built-in type. -/
def BuiltinFaulty (f : Framework) (s : Screen) (t : BuiltinType) (e : Element) : Prop :=
  LacksOverrides f s e ∨ t = .heading ∧ Breaks (headingLevel e) ∨
    t = .dataTable ∧ s.state.fetchFor? e.id = none ∧ Breaks (tableRows e)

lemma not_lacksOverrides (hf : f ≠ .expo) : ¬ LacksOverrides f s e := fun h => hf h.1

lemma builtinFaulty_of_container {t : BuiltinType} (ht : t.isContainer = true) :
    BuiltinFaulty f s t e ↔ LacksOverrides f s e := by
  have hheading : t ≠ .heading := by
    rintro rfl
    cases ht
  have htable : t ≠ .dataTable := by
    rintro rfl
    cases ht
  simp [BuiltinFaulty, hheading, htable]

lemma faulty_builtin {t : BuiltinType} (h : NodeKind.classify e.type e.props = .builtin t) :
    Faulty f s e ↔ BuiltinFaulty f s t e := by
  have hplugin : pluginOf? s.plugins e = none := by simp [pluginOf?, h]
  constructor
  · rintro (⟨-, h'⟩ | ⟨ht, h'⟩ | ⟨ht, hfetch, h'⟩ | ⟨h', -⟩)
    · exact .inl h'
    · exact .inr (.inl ⟨NodeKind.builtin.inj (h.symm.trans ht), h'⟩)
    · exact .inr (.inr ⟨NodeKind.builtin.inj (h.symm.trans ht), hfetch, h'⟩)
    · simp [hplugin] at h'
  · rintro (h' | ⟨rfl, h'⟩ | ⟨rfl, hfetch, h'⟩)
    · exact .overrides hplugin h'
    · exact .level h h'
    · exact .rows h hfetch h'

lemma faulty_other {tag : String} (h : NodeKind.classify e.type e.props = .other tag)
    (hplugin : s.plugins.get? e.type = none) : Faulty f s e ↔ LacksOverrides f s e := by
  have hplugin : pluginOf? s.plugins e = none := by simp [pluginOf?, h, hplugin]
  constructor
  · rintro (⟨-, h'⟩ | ⟨h', -⟩ | ⟨h', -, -⟩ | ⟨h', -⟩)
    · exact h'
    · simp [h] at h'
    · simp [h] at h'
    · simp [hplugin] at h'
  · exact .overrides hplugin

lemma faulty_plugin {p : NodePlugin} {tag : String}
    (h : NodeKind.classify e.type e.props = .other tag) (hp : s.plugins.get? e.type = some p) :
    Faulty f s e ↔ Breaks (renderPlugin p f e) := by
  have hplugin : pluginOf? s.plugins e = some p := by simp [pluginOf?, h, hp]
  rw [renderPlugin, breaks_mapError]
  constructor
  · rintro (⟨h', -⟩ | ⟨h', -⟩ | ⟨h', -, -⟩ | ⟨h', hbreaks⟩)
    · simp [hplugin] at h'
    · simp [h] at h'
    · simp [h] at h'
    · rwa [← Option.some.inj (hplugin.symm.trans h')] at hbreaks
  · exact .plugin hplugin

end

/-! ### Parts -/

/-- A rendering put together from parts, which may fail on a fault of its own. -/
structure Assembles (fault : Prop) (parts : List (Except EmitError String))
    (x : Except EmitError String) : Prop where
  breaks : Breaks x ↔ fault ∨ ∃ part ∈ parts, Breaks part
  keeps : ∀ text, x = .ok text → ∀ part ∈ parts, ∃ t, part = .ok t ∧ Text.Keeps t text

section
variable {fault : Prop} {parts : List (Except EmitError String)} {x : Except EmitError String}

lemma Assembles.congr {fault' : Prop} (h : Assembles fault parts x) (hfault : fault ↔ fault') :
    Assembles fault' parts x :=
  ⟨by rw [h.breaks, hfault], h.keeps⟩

/-- A rendering without parts. -/
lemma assembles_alone (h : Breaks x ↔ fault) : Assembles fault [] x := by
  constructor
  · simpa using h
  · simp

lemma assembles_mapM {g : List String → Except EmitError String}
    (hbreaks : ∀ ts, Breaks (g ts) ↔ fault)
    (hkeeps : ∀ ts text, g ts = .ok text → ∀ t ∈ ts, Text.Keeps t text) :
    Assembles fault parts (parts.mapM id >>= g) := by
  constructor
  · have hparts : Breaks (parts.mapM id) ↔ ∃ part ∈ parts, Breaks part := breaks_mapM
    cases hmapM : parts.mapM id with
    | error e =>
      rw [hmapM] at hparts
      simpa [bind, Except.bind] using .inr (hparts.1 (breaks_error e))
    | ok ts =>
      rw [hmapM] at hparts
      have hnone : ¬ ∃ part ∈ parts, Breaks part := fun h => absurd (hparts.2 h) (breaks_ok ts)
      simpa [bind, Except.bind, hnone] using hbreaks ts
  · intro text h part hpart
    obtain ⟨ts, hts, h⟩ := bind_eq_ok_iff.1 h
    obtain ⟨t, ht, hpart⟩ := exists_ok_of_mapM hts hpart
    exact ⟨t, hpart, hkeeps ts text h t ht⟩

lemma assembles_join {g : String → Except EmitError String}
    (hbreaks : ∀ t, Breaks (g t) ↔ fault) (hkeeps : ∀ t text, g t = .ok text → Text.Keeps t text) :
    Assembles fault parts (joinRendered parts >>= g) := by
  have heq : joinRendered parts >>= g =
      parts.mapM id >>= fun ts => g ("\n".intercalate ts) := by
    rw [joinRendered, bind_assoc]
    rfl
  rw [heq]
  exact assembles_mapM (fun ts => hbreaks _) fun ts text h t ht =>
    ((Text.Keeps.refl t).intercalate "\n" ht).trans (hkeeps _ text h)

lemma assembles_one {part : Except EmitError String} {g : String → Except EmitError String}
    (hbreaks : ∀ t, Breaks (g t) ↔ fault) (hkeeps : ∀ t text, g t = .ok text → Text.Keeps t text) :
    Assembles fault [part] (part >>= g) := by
  constructor
  · cases part with
    | error e => simp [bind, Except.bind]
    | ok t => simpa [bind, Except.bind] using hbreaks t
  · intro text h part' hpart
    rw [List.mem_singleton.1 hpart]
    obtain ⟨t, ht, h⟩ := bind_eq_ok_iff.1 h
    exact ⟨t, ht, hkeeps t text h⟩

/-- A text put around the joined parts. -/
lemma assembles_around {g : String → String} (hkeeps : ∀ t, Text.Keeps t (g t)) :
    Assembles False parts (joinRendered parts >>= fun t => pure (g t)) := by
  refine assembles_join (fun t => by simp [pure, Except.pure]) fun t text h => ?_
  rw [← Except.ok.inj h]
  exact hkeeps t

/-- What is put around a rendering as a whole. -/
lemma Assembles.around {g : String → String} (h : Assembles fault parts x)
    (hkeeps : ∀ t, Text.Keeps t (g t)) : Assembles fault parts (x >>= fun t => pure (g t)) := by
  constructor
  · rw [breaks_bind_pure]
    exact h.breaks
  · intro text htext part hpart
    obtain ⟨t, ht, htext⟩ := bind_eq_ok_iff.1 htext
    rw [← Except.ok.inj htext]
    obtain ⟨t', ht', hkept⟩ := h.keeps t ht part hpart
    exact ⟨t', ht', hkept.trans (hkeeps t)⟩

end

/-! ### Trees -/

/-- A way to render nodes in which each node is put together from the children shown. -/
def Draws (f : Framework) (s : Screen) (draw : Node → Except EmitError String) : Prop :=
  ∀ n, Assembles (Faulty f s n.head) ((shownChildren f s.plugins n.head n.children).map draw)
    (draw n)

namespace Draws
variable {f : Framework} {s : Screen} {draw : Node → Except EmitError String}

/-- A tree cannot be rendered exactly when a node that is shown has a fault. -/
theorem breaks_iff (h : Draws f s draw) (n : Node) :
    Breaks (draw n) ↔ ∃ m, Shown f s.plugins n m ∧ Faulty f s m.head := by
  have hstep : ∀ n, (∀ c ∈ n.children,
      (Breaks (draw c) ↔ ∃ m, Shown f s.plugins c m ∧ Faulty f s m.head)) →
      (Breaks (draw n) ↔ ∃ m, Shown f s.plugins n m ∧ Faulty f s m.head) := by
    intro n ih
    rw [(h n).breaks]
    constructor
    · rintro (hfault | ⟨part, hpart, hbreaks⟩)
      · exact ⟨n, .refl n, hfault⟩
      · obtain ⟨c, hc, rfl⟩ := List.mem_map.1 hpart
        obtain ⟨m, hm, hfault⟩ := (ih c ((shownChildren_sublist _).subset hc)).1 hbreaks
        exact ⟨m, shown_iff.2 (.inr ⟨c, hc, hm⟩), hfault⟩
    · rintro ⟨m, hm, hfault⟩
      rcases shown_iff.1 hm with rfl | ⟨c, hc, hm⟩
      · exact .inl hfault
      · exact .inr ⟨draw c, List.mem_map_of_mem hc,
          (ih c ((shownChildren_sublist _).subset hc)).2 ⟨m, hm, hfault⟩⟩
  induction n using Node.induction with
  | leaf e => exact hstep (.leaf e) (by simp)
  | branch e cs ih => exact hstep (.branch e cs) ih

/-- The text of a tree keeps the pieces of the text of each node that is shown. -/
theorem keeps (h : Draws f s draw) {n m : Node} (hm : Shown f s.plugins n m) {text : String}
    (htext : draw n = .ok text) : ∃ t, draw m = .ok t ∧ Text.Keeps t text := by
  induction hm generalizing text with
  | refl n => exact ⟨text, htext, .refl text⟩
  | @inside e cs c m hc _ ih =>
    obtain ⟨t, ht, hkept⟩ := (h (.branch e cs)).keeps text htext (draw c) (List.mem_map_of_mem hc)
    obtain ⟨t', ht', hkept'⟩ := ih ht
    exact ⟨t', ht', hkept'.trans hkept⟩

end Draws
end Screenwright.Emit
