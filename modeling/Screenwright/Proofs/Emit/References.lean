import Screenwright.Proofs.Emit.Imports

/-! What generated code refers to. The handlers, conditions and bodies of the elements that a target
renders name variables, setters and the router, and all that they name is listed in the state of the
screen. -/
namespace Screenwright.Emit

/-- What a piece of generated code refers to: whether a node is shown, the value of a state, the
rows of a node, the router, or the script of a document. -/
inductive Reference where
  | visibility (id : String)
  | value (name : String)
  | rows (id : String)
  | router
  | script

/-- The state variable of a reference; it comes with a setter on the React targets. -/
def Reference.variableName? : Reference → Option String
  | visibility id => some (visibilityVar id)
  | value name => some (stateVar name)
  | rows id => some (rowsVar id)
  | router | script => none

/-! ### Code -/

/-- The code of an element's click on a React target. -/
def reactClick (d : ReactDialect) (e : Element) : List String :=
  match (Jsx.clickHandler? d e).run with
  | .ok (some handler, _) => [handler]
  | _ => []

def clickCode (f : Framework) (e : Element) : List String :=
  match f with
  | .nextjs => reactClick Nextjs.dialect e
  | .expo => reactClick Expo.dialect e
  | .vue => Markup.clickAttr Vue.dialect e
  | .svelte => Markup.clickAttr Svelte.dialect e
  | .html => Markup.clickAttr Html.dialect e

def changeCode (f : Framework) (e : Element) : List String :=
  match f with
  | .nextjs => Jsx.changeAttrs Nextjs.dialect e
  | .expo => Jsx.changeAttrs Expo.dialect e
  | .vue => Markup.changeAttr Vue.dialect e
  | .svelte => Markup.changeAttr Svelte.dialect e
  | .html => Markup.changeAttr Html.dialect e

/-- The tests around an element's markup; in a document they are attributes of a box. -/
def conditionCode (f : Framework) (s : ScreenState) (e : Element) : List String :=
  match f with
  | .nextjs | .expo => conditions Text.quoteDouble s e
  | .vue => conditions Vue.dialect.quote s e
  | .svelte => conditions Svelte.dialect.quote s e
  | .html => if (conditions Html.dialect.quote s e).isEmpty then [] else Html.conditionAttrs s e

/-- A piece of code that the rendering of an element writes, but for the code that the document
itself brings. -/
inductive Writes (f : Framework) (plugins : PluginRegistry) (s : ScreenState) (e : Element) :
    String → Prop
  | click {code : String} (hplugin : pluginOf? plugins e = none)
      (hcustom : ∀ c ∈ e.interactions.bind (·.onClick), c.action ≠ .custom)
      (h : code ∈ clickCode f e) : Writes f plugins s e code
  | change {code : String}
      (hcustom : ∀ c ∈ e.interactions.bind (·.onChange), c.action ≠ .custom)
      (h : code ∈ changeCode f e) : Writes f plugins s e code
  | condition {code : String} (h : code ∈ conditionCode f s e) : Writes f plugins s e code
  | body {fetch : DataFetch} (h : s.fetchFor? e.id = some fetch) : Writes f plugins s e fetch.rows

/-- The forms of generated code, each with all that it refers to. -/
inductive Uses : Framework → String → List Reference → Prop
  | reactToggle {f : Framework} (hf : f = .nextjs ∨ f = .expo) (id : String) :
    Uses f s!"() => {setterName (visibilityVar id)}((visible) => !visible)" [.visibility id]
  | reactGo {f : Framework} (hf : f = .nextjs ∨ f = .expo) (route : String) :
    Uses f ("() => " ++ s!"router.push({Text.quoteDouble route})") [.router]
  | nextjsSet (name : String) :
    Uses .nextjs ("onChange=" ++ braced s!"(e) => {setterName (stateVar name)}(e.target.value)")
      [.value name]
  | expoSet (name : String) :
    Uses .expo ("onChangeText=" ++ braced (setterName (stateVar name))) [.value name]
  | vueToggle (id : String) :
    Uses .vue ("@click=\"" ++ Vue.escape (visibilityVar id ++ " = !" ++ visibilityVar id) ++ "\"")
      [.visibility id]
  | vueGo (route : String) :
    Uses .vue ("@click=\"" ++ Vue.escape s!"router.push({Text.quoteSingle route})" ++ "\"")
      [.router]
  | vueSet (name : String) :
    Uses .vue ("@input=\"" ++
      Vue.escape (stateVar name ++ " = ($event.target as HTMLInputElement).value") ++ "\"")
      [.value name]
  | svelteToggle (id : String) :
    Uses .svelte
      ("on:click=" ++ Svelte.inBraces s!"() => ({visibilityVar id} = !{visibilityVar id})")
      [.visibility id]
  | svelteGo (route : String) :
    Uses .svelte ("on:click=" ++ Svelte.inBraces s!"() => goto({Text.quoteDouble route})")
      [.router]
  | svelteSet (name : String) :
    Uses .svelte
      ("on:input=" ++ Svelte.inBraces s!"(e) => ({stateVar name} = e.currentTarget.value)")
      [.value name]
  | htmlToggle (id : String) :
    Uses .html ("onclick=\"" ++ Html.escape s!"ssToggle({Text.quoteSingle id})" ++ "\"")
      [.script, .visibility id]
  | htmlGo (route : String) :
    Uses .html
      ("onclick=\"" ++ Html.escape ("window.location.href = " ++ Text.quoteSingle route) ++ "\"") []
  | htmlSet (name : String) :
    Uses .html ("oninput=\"" ++ Html.escape s!"ssSet({Text.quoteSingle name}, this.value)" ++ "\"")
      [.script, .value name]
  | isShown {f : Framework} (hf : f ≠ .html) (id : String) :
    Uses f (visibilityVar id) [.visibility id]
  | holds {f : Framework} (hf : f ≠ .html) (name : String) :
    Uses f ("!!" ++ stateVar name) [.value name]
  | equals {f : Framework} (hf : f ≠ .html) (name literal : String) :
    Uses f (s!"String({stateVar name}) === " ++ literal) [.value name]
  | differs {f : Framework} (hf : f ≠ .html) (name literal : String) :
    Uses f (s!"String({stateVar name}) !== " ++ literal) [.value name]
  | htmlMark : Uses .html "data-ss-when" [.script]
  | htmlIsShown (id : String) :
    Uses .html ("data-ss-toggle=\"" ++ Html.escape id ++ "\"") [.script, .visibility id]
  | htmlState (name : String) :
    Uses .html ("data-ss-state=\"" ++ Html.escape name ++ "\"") [.script, .value name]
  | htmlOperator (name : String) : Uses .html s!"data-ss-op=\"{name}\"" [.script]
  | htmlOperand (value : String) :
    Uses .html ("data-ss-value=\"" ++ Html.escape value ++ "\"") [.script]
  | rows {f : Framework} (hf : f ≠ .html) (id : String) : Uses f (rowsVar id) [.rows id]

/-! ### What a screen knows -/

/-- References to something that the state of a screen lists. -/
def ScreenState.Knows (s : ScreenState) : Reference → Prop
  | .visibility id => id ∈ s.toggled
  | .value name => name ∈ s.values
  | .rows id => id ∈ s.fetchedIds
  | .router => s.navigates = true
  | .script => s.toggled ≠ [] ∨ s.values ≠ []

/-- The state of a screen lists what the interactions of an element name. -/
structure ScreenState.Covers (s : ScreenState) (e : Element) : Prop where
  toggled : ∀ id, toggleTarget? e = some id → id ∈ s.toggled
  changed : ∀ name, changedState? e = some name → name ∈ s.values
  read : ∀ name, readState? e = some name → name ∈ s.values
  navigates : Emit.navigates e = true → s.navigates = true

lemma covers_on (f : Framework) (c : Context) {tree : Node} {e : Element}
    (he : e ∈ tree.elements) : (Screen.on f c tree).state.Covers e := by
  have htree : (ScreenState.ofTree tree).Covers e := by
    constructor
    case toggled =>
      intro id h
      exact List.mem_eraseDups.2 (List.mem_filterMap.2 ⟨e, he, h⟩)
    case changed =>
      intro name h
      exact List.mem_eraseDups.2 (List.mem_flatMap.2 ⟨e, he, by simp [h]⟩)
    case read =>
      intro name h
      exact List.mem_eraseDups.2 (List.mem_flatMap.2 ⟨e, he, by simp [h]⟩)
    case navigates =>
      intro h
      exact List.any_eq_true.2 ⟨e, he, h⟩
  unfold Screen.on
  dsimp only
  split_ifs
  · exact ⟨htree.toggled, htree.changed, htree.read, htree.navigates⟩
  · exact htree

section
variable {f : Framework} {plugins : PluginRegistry} {s : ScreenState} {e : Element}
  {d : Dialect} {code : String}

lemma mem_clickAttr : code ∈ Markup.clickAttr d e ↔
    ∃ c, e.interactions.bind (·.onClick) = some c ∧ d.click c = some code := by
  rw [Markup.clickAttr, Option.mem_toList, Option.bind_eq_some_iff]

lemma mem_changeAttr : code ∈ Markup.changeAttr d e ↔
    ∃ c, e.interactions.bind (·.onChange) = some c ∧ d.change c = some code := by
  rw [Markup.changeAttr, Option.mem_toList, Option.bind_eq_some_iff]

lemma toggleTarget?_eq {target code? : Option String}
    (h : e.interactions.bind (·.onClick) = some ⟨.toggleVisibility, target, code?⟩) :
    toggleTarget? e = nonEmpty target := by
  obtain ⟨i, hi, hclick⟩ := Option.bind_eq_some_iff.1 h
  simp [toggleTarget?, hi, hclick]

lemma navigates_eq {target code? : Option String}
    (h : e.interactions.bind (·.onClick) = some ⟨.navigate, target, code?⟩) :
    navigates e = (nonEmpty target).isSome := by
  simp [navigates, h]

lemma changedState?_eq {target code? : Option String}
    (h : e.interactions.bind (·.onChange) = some ⟨.setState, target, code?⟩) :
    changedState? e = nonEmpty target := by
  obtain ⟨i, hi, hchange⟩ := Option.bind_eq_some_iff.1 h
  simp [changedState?, hi, hchange]

lemma readState?_eq {rule : VisibilityRule}
    (h : e.interactions.bind (·.visibleWhen) = some rule) : readState? e = some rule.state := by
  obtain ⟨i, hi, hrule⟩ := Option.bind_eq_some_iff.1 h
  simp [readState?, hi, hrule]

/-- The click of a React target goes to a route, shows or hides a node, or runs the code given. -/
lemma click_of_mem_reactClick {d : ReactDialect} (h : code ∈ reactClick d e) :
    (∃ route call, navigates e = true ∧ (d.navigate route).Gives call ∧ code = "() => " ++ call) ∨
    (∃ id, toggleTarget? e = some id ∧
      code = s!"() => {setterName (visibilityVar id)}((visible) => !visible)") ∨
    ∃ c, e.interactions.bind (·.onClick) = some c ∧ c.action = .custom := by
  have hgives : (Jsx.clickHandler? d e).Gives (some code) := by
    unfold reactClick at h
    split at h
    · next handler imports hrun =>
      rw [List.mem_singleton] at h
      subst h
      exact ⟨imports, hrun⟩
    · simp at h
  unfold Jsx.clickHandler? at hgives
  split at hgives
  · simp [Emission.gives_pure] at hgives
  · next c hc =>
    obtain ⟨action, target, given⟩ := c
    split at hgives
    · next route haction htarget =>
      obtain ⟨call, hcall, hgives⟩ := Emission.gives_bind.1 hgives
      dsimp only at haction htarget
      subst haction
      refine .inl ⟨route, call, by rw [navigates_eq hc, htarget]; rfl, hcall, ?_⟩
      exact (Option.some.inj (Emission.gives_pure.1 hgives)).symm
    · next id haction htarget =>
      dsimp only at haction htarget
      subst haction
      refine .inr (.inl ⟨id, by rw [toggleTarget?_eq hc, htarget], ?_⟩)
      exact (Option.some.inj (Emission.gives_pure.1 hgives)).symm
    · next haction _ => exact .inr (.inr ⟨_, hc, haction⟩)
    · simp [Emission.gives_pure] at hgives

/-- The click of a markup target, by what the target writes for routes and for nodes. -/
lemma click_of_mem_clickAttr {go toggle : String → String}
    (hgo : ∀ target given, d.click ⟨.navigate, target, given⟩ = (nonEmpty target).map go)
    (htoggle : ∀ target given,
      d.click ⟨.toggleVisibility, target, given⟩ = (nonEmpty target).map toggle)
    (h : code ∈ Markup.clickAttr d e) :
    (∃ route, navigates e = true ∧ code = go route) ∨
    (∃ id, toggleTarget? e = some id ∧ code = toggle id) ∨
    ∃ c, e.interactions.bind (·.onClick) = some c ∧ c.action = .custom := by
  obtain ⟨⟨action, target, given⟩, hc, hcode⟩ := mem_clickAttr.1 h
  cases action with
  | navigate =>
    rw [hgo] at hcode
    obtain ⟨route, htarget, rfl⟩ := Option.map_eq_some_iff.1 hcode
    exact .inl ⟨route, by rw [navigates_eq hc, htarget]; rfl, rfl⟩
  | toggleVisibility =>
    rw [htoggle] at hcode
    obtain ⟨id, htarget, rfl⟩ := Option.map_eq_some_iff.1 hcode
    exact .inr (.inl ⟨id, by rw [toggleTarget?_eq hc, htarget], rfl⟩)
  | custom => exact .inr (.inr ⟨_, hc, rfl⟩)

/-- A click that is not custom goes to a route, or shows or hides a node. -/
lemma uses_of_clickCode (hcustom : ∀ c ∈ e.interactions.bind (·.onClick), c.action ≠ .custom)
    (h : code ∈ clickCode f e) :
    (navigates e = true ∧ Uses f code (if f = .html then [] else [.router])) ∨
    ∃ id, toggleTarget? e = some id ∧
      Uses f code (if f = .html then [.script, .visibility id] else [.visibility id]) := by
  cases f with
  | nextjs =>
    rcases click_of_mem_reactClick h with ⟨route, call, hgo, hcall, rfl⟩ | ⟨id, hid, rfl⟩ |
      ⟨c, hc, haction⟩
    · rw [← Emission.gives_pure.1 hcall]
      exact .inl ⟨hgo, .reactGo (.inl rfl) route⟩
    · exact .inr ⟨id, hid, .reactToggle (.inl rfl) id⟩
    · exact absurd haction (hcustom c hc)
  | expo =>
    rcases click_of_mem_reactClick h with ⟨route, call, hgo, hcall, rfl⟩ | ⟨id, hid, rfl⟩ |
      ⟨c, hc, haction⟩
    · obtain ⟨-, -, hcall⟩ := Emission.gives_bind.1 hcall
      rw [← Emission.gives_pure.1 hcall]
      exact .inl ⟨hgo, .reactGo (.inr rfl) route⟩
    · exact .inr ⟨id, hid, .reactToggle (.inr rfl) id⟩
    · exact absurd haction (hcustom c hc)
  | vue =>
    rcases click_of_mem_clickAttr (fun _ _ => Option.map_map ..) (fun _ _ => Option.map_map ..) h
      with ⟨route, hgo, rfl⟩ | ⟨id, hid, rfl⟩ | ⟨c, hc, haction⟩
    · exact .inl ⟨hgo, .vueGo route⟩
    · exact .inr ⟨id, hid, .vueToggle id⟩
    · exact absurd haction (hcustom c hc)
  | svelte =>
    rcases click_of_mem_clickAttr (fun _ _ => Option.map_map ..) (fun _ _ => Option.map_map ..) h
      with ⟨route, hgo, rfl⟩ | ⟨id, hid, rfl⟩ | ⟨c, hc, haction⟩
    · exact .inl ⟨hgo, .svelteGo route⟩
    · exact .inr ⟨id, hid, .svelteToggle id⟩
    · exact absurd haction (hcustom c hc)
  | html =>
    rcases click_of_mem_clickAttr (fun _ _ => Option.map_map ..) (fun _ _ => Option.map_map ..) h
      with ⟨route, hgo, rfl⟩ | ⟨id, hid, rfl⟩ | ⟨c, hc, haction⟩
    · exact .inl ⟨hgo, .htmlGo route⟩
    · exact .inr ⟨id, hid, .htmlToggle id⟩
    · exact absurd haction (hcustom c hc)

/-- The change of a React target sets a state or runs the code given. -/
lemma change_of_mem_changeAttrs {d : ReactDialect} (h : code ∈ Jsx.changeAttrs d e) :
    (∃ name, changedState? e = some name ∧ code = d.setterAttr (setterName (stateVar name))) ∨
    ∃ c, e.interactions.bind (·.onChange) = some c ∧ c.action = .custom := by
  unfold Jsx.changeAttrs at h
  split at h
  · simp at h
  · next c hc =>
    obtain ⟨action, target, given⟩ := c
    split at h
    · next name haction htarget =>
      dsimp only at haction htarget
      subst haction
      exact .inl ⟨name, by rw [changedState?_eq hc, htarget], List.mem_singleton.1 h⟩
    · next haction _ => exact .inr ⟨_, hc, haction⟩
    · simp at h

lemma change_of_mem_changeAttr {set : String → String}
    (hset : ∀ target given, d.change ⟨.setState, target, given⟩ = (nonEmpty target).map set)
    (h : code ∈ Markup.changeAttr d e) :
    (∃ name, changedState? e = some name ∧ code = set name) ∨
    ∃ c, e.interactions.bind (·.onChange) = some c ∧ c.action = .custom := by
  obtain ⟨⟨action, target, given⟩, hc, hcode⟩ := mem_changeAttr.1 h
  cases action with
  | setState =>
    rw [hset] at hcode
    obtain ⟨name, htarget, rfl⟩ := Option.map_eq_some_iff.1 hcode
    exact .inl ⟨name, by rw [changedState?_eq hc, htarget], rfl⟩
  | custom => exact .inr ⟨_, hc, rfl⟩

/-- A change that is not custom sets a state. -/
lemma uses_of_changeCode (hcustom : ∀ c ∈ e.interactions.bind (·.onChange), c.action ≠ .custom)
    (h : code ∈ changeCode f e) :
    ∃ name, changedState? e = some name ∧
      Uses f code (if f = .html then [.script, .value name] else [.value name]) := by
  cases f with
  | nextjs =>
    rcases change_of_mem_changeAttrs h with ⟨name, hname, rfl⟩ | ⟨c, hc, haction⟩
    · exact ⟨name, hname, .nextjsSet name⟩
    · exact absurd haction (hcustom c hc)
  | expo =>
    rcases change_of_mem_changeAttrs h with ⟨name, hname, rfl⟩ | ⟨c, hc, haction⟩
    · exact ⟨name, hname, .expoSet name⟩
    · exact absurd haction (hcustom c hc)
  | vue =>
    rcases change_of_mem_changeAttr (fun _ _ => Option.map_map ..) h with
      ⟨name, hname, rfl⟩ | ⟨c, hc, haction⟩
    · exact ⟨name, hname, .vueSet name⟩
    · exact absurd haction (hcustom c hc)
  | svelte =>
    rcases change_of_mem_changeAttr (fun _ _ => Option.map_map ..) h with
      ⟨name, hname, rfl⟩ | ⟨c, hc, haction⟩
    · exact ⟨name, hname, .svelteSet name⟩
    · exact absurd haction (hcustom c hc)
  | html =>
    rcases change_of_mem_changeAttr (fun _ _ => Option.map_map ..) h with
      ⟨name, hname, rfl⟩ | ⟨c, hc, haction⟩
    · exact ⟨name, hname, .htmlSet name⟩
    · exact absurd haction (hcustom c hc)

/-- A condition asks whether a node is shown or what value a state has. -/
lemma uses_of_conditions (hf : f ≠ .html) {quote : String → String}
    (h : code ∈ conditions quote s e) :
    (∃ id ∈ s.toggled, Uses f code [.visibility id]) ∨
    ∃ name, readState? e = some name ∧ Uses f code [.value name] := by
  rcases List.mem_append.1 h with h | h
  · split_ifs at h with htoggled
    · rw [List.mem_singleton.1 h]
      exact .inl ⟨e.id, by simpa using htoggled, .isShown hf e.id⟩
    · simp at h
  · obtain ⟨rule, hrule, rfl⟩ := Option.map_eq_some_iff.1 (Option.mem_toList.1 h)
    refine .inr ⟨rule.state, readState?_eq hrule, ?_⟩
    unfold conditionText
    cases rule.operator with
    | truthy => exact .holds hf rule.state
    | eq => exact .equals hf rule.state _
    | neq => exact .differs hf rule.state _

/-- The attributes of a condition name what the script looks up. -/
lemma uses_of_conditionAttrs (hs : s.Covers e) (h : code ∈ conditionCode .html s e) :
    ∃ rs, Uses .html code rs ∧ ∀ r ∈ rs, s.Knows r ∧ r ≠ .router := by
  unfold conditionCode at h
  dsimp only at h
  split_ifs at h with hconditions
  · simp at h
  have hscript : s.Knows .script := by
    by_contra hnone
    obtain ⟨htoggled, hvalues⟩ := not_or.1 hnone
    rw [ne_eq, not_not] at htoggled hvalues
    have hread : e.interactions.bind (·.visibleWhen) = none := by
      cases hrule : e.interactions.bind (·.visibleWhen) with
      | none => rfl
      | some rule => simpa [hvalues] using hs.read _ (readState?_eq hrule)
    simp [conditions, htoggled, hread] at hconditions
  have hof : ∀ {r : Reference}, r ≠ .router → s.Knows r →
      ∀ r' ∈ [Reference.script, r], s.Knows r' ∧ r' ≠ .router := by
    intro r hr hknown
    simp [hscript, hr, hknown]
  have hscripts : ∀ r ∈ [Reference.script], s.Knows r ∧ r ≠ .router := by simp [hscript]
  unfold Html.conditionAttrs at h
  rcases List.mem_append.1 h with h | h
  · rcases List.mem_append.1 h with h | h
    · rw [List.mem_singleton.1 h]
      exact ⟨_, .htmlMark, hscripts⟩
    · split_ifs at h with htoggled
      · rw [List.mem_singleton.1 h]
        exact ⟨_, .htmlIsShown e.id, hof nofun (List.contains_iff_mem.1 htoggled)⟩
      · simp at h
  · split at h
    · simp at h
    · next rule hrule =>
      simp only [List.cons_append, List.nil_append, List.mem_cons] at h
      rcases h with rfl | rfl | h
      · exact ⟨_, .htmlState rule.state, hof nofun (hs.read _ (readState?_eq hrule))⟩
      · exact ⟨_, .htmlOperator rule.operator.name, hscripts⟩
      · split_ifs at h
        · simp at h
        · rw [List.mem_singleton.1 h]
          exact ⟨_, .htmlOperand (rule.value.getD ""), hscripts⟩

/-- All that the code of an element refers to is known to the screen, and the router is referred to
only by elements that navigate. -/
lemma Writes.exists_uses (hs : s.Covers e) (hfetches : f = .html → s.fetches = [])
    (h : Writes f plugins s e code) :
    ∃ rs, Uses f code rs ∧ ∀ r ∈ rs,
      s.Knows r ∧ (r = .router → navigates e = true ∧ pluginOf? plugins e = none) := by
  cases h with
  | click hplugin hcustom h =>
    rcases uses_of_clickCode hcustom h with ⟨hgo, huses⟩ | ⟨id, hid, huses⟩
    · refine ⟨_, huses, ?_⟩
      split_ifs
      · simp
      · simpa [ScreenState.Knows] using ⟨hs.navigates hgo, hgo, hplugin⟩
    · have hid := hs.toggled id hid
      refine ⟨_, huses, ?_⟩
      split_ifs
      · simpa [ScreenState.Knows] using ⟨.inl (List.ne_nil_of_mem hid), hid⟩
      · simpa [ScreenState.Knows] using hid
  | change hcustom h =>
    obtain ⟨name, hname, huses⟩ := uses_of_changeCode hcustom h
    have hname := hs.changed name hname
    refine ⟨_, huses, ?_⟩
    split_ifs
    · simpa [ScreenState.Knows] using ⟨.inr (List.ne_nil_of_mem hname), hname⟩
    · simpa [ScreenState.Knows] using hname
  | condition h =>
    by_cases hf : f = .html
    · subst hf
      obtain ⟨rs, huses, hrs⟩ := uses_of_conditionAttrs hs h
      exact ⟨rs, huses, fun r hr => ⟨(hrs r hr).1, fun heq => absurd heq (hrs r hr).2⟩⟩
    · have hconditions : ∃ quote, code ∈ conditions quote s e := by
        cases f with
        | html => exact absurd rfl hf
        | _ => exact ⟨_, h⟩
      obtain ⟨quote, h⟩ := hconditions
      rcases uses_of_conditions hf h with ⟨id, hid, huses⟩ | ⟨name, hname, huses⟩
      · exact ⟨_, huses, by simpa [ScreenState.Knows] using hid⟩
      · exact ⟨_, huses, by simpa [ScreenState.Knows] using hs.read name hname⟩
  | @body fetch h =>
    have hmem : fetch ∈ s.fetches := List.mem_of_find?_eq_some h
    have hf : f ≠ .html := by
      rintro rfl
      simp [hfetches rfl] at hmem
    refine ⟨_, .rows hf fetch.nodeId, ?_⟩
    simpa [ScreenState.Knows, ScreenState.fetchedIds] using ⟨fetch, hmem, rfl⟩

end

end Screenwright.Emit
