import Screenwright.Proofs.Emit.MarkupParts
import Screenwright.Proofs.Text.ScriptTags

/-! The script tags of an HTML document. What a screen says is escaped but for names of props,
styles for narrower screens and names of states: beside those of its own script, a document has the
tags that stand in these texts. -/
namespace Screenwright.Emit.Markup
open Html (dialect)
open ScriptTag

/-- The tags of an element are no tags of a script. -/
structure IsElement (tag : String) : Prop where
  opens : ∀ m : ScriptTag, m.count ("<" ++ tag) = 0
  closes : ∀ m : ScriptTag, m.count ("</" ++ tag ++ ">") = 0

lemma isElement_iff {tag : String} : IsElement tag ↔ ∀ m ∈ [start, stop],
    m.count ("<" ++ tag) = 0 ∧ m.count ("</" ++ tag ++ ">") = 0 := by
  have hall : ∀ m : ScriptTag, m ∈ [start, stop] := fun m => by cases m <;> decide
  exact ⟨fun h m _ => ⟨h.opens m, h.closes m⟩,
    fun h => ⟨fun m => (h m (hall m)).1, fun m => (h m (hall m)).2⟩⟩

instance (tag : String) : Decidable (IsElement tag) := decidable_of_iff _ isElement_iff.symm

/-- The elements that documents are made of. -/
def elementTags : List String := [
  "div", "section", "h1", "h2", "h3", "h4", "h5", "h6", "p", "img", "input", "a", "hr", "ol", "ul",
  "li", "span", "button", "label", "form", "dialog", "nav", "table", "thead", "tbody", "tr", "th",
  "td"]

lemma isElement_of_mem {tag : String} (h : tag ∈ elementTags) : IsElement tag := by
  have hall : ∀ tag ∈ elementTags, IsElement tag := by decide +kernel
  exact hall tag h

section
variable {m : ScriptTag} {s : Screen} {e : Element} {tag body : String} {x : Extras}
  {css : Fields String} {attrs : List String}

/-! ### Attributes -/

lemma notMem_escape (t : String) : '<' ∉ (dialect.escape t).toList := notMem_escapeMarkup t

lemma attr_eq (name value : String) :
    attr dialect name value = name ++ ("=\"" ++ dialect.escape value ++ "\"") := by
  rw [attr, ← String.append_assoc, ← String.append_assoc]
  rfl

lemma notMem_attr {name : String} (h : '<' ∉ name.toList) (value : String) :
    '<' ∉ (attr dialect name value).toList := by
  simp [attr_eq, h, notMem_escape value]

lemma count_attr (name value : String) : m.count (attr dialect name value) = m.count name := by
  have hvalue : '<' ∉ ("=\"" ++ dialect.escape value ++ "\"").toList := by
    simp [notMem_escape value]
  have hbegins : BeginsApart ("=\"" ++ dialect.escape value ++ "\"") := by
    rw [String.append_assoc]
    exact beginsApart_append (by decide) (by decide)
  rw [attr_eq, count_append_right hbegins hvalue]

lemma sum_count_eq_zero {ts : List String} (h : ∀ t ∈ ts, '<' ∉ t.toList) :
    (ts.map m.count).sum = 0 := by
  refine List.sum_eq_zero fun n hn => ?_
  obtain ⟨t, ht, rfl⟩ := List.mem_map.1 hn
  exact count_of_notMem (h t ht)

lemma notMem_styleAttr : ∀ a ∈ styleAttr dialect css, '<' ∉ a.toList := by
  unfold styleAttr
  split
  · simp
  · simpa using notMem_attr (by decide) _

lemma notMem_eventAttr {name : String} (h : '<' ∉ name.toList) (t : String) :
    '<' ∉ (name ++ Html.escape t ++ "\"").toList := by
  have ht : '<' ∉ (Html.escape t).toList := notMem_escapeMarkup t
  simp [h, ht]

lemma notMem_clickAttr : ∀ a ∈ clickAttr dialect e, '<' ∉ a.toList := by
  intro a ha
  obtain ⟨c, -, hc⟩ := Option.bind_eq_some_iff.1 (Option.mem_toList.1 ha)
  obtain ⟨t, -, rfl⟩ := Option.map_eq_some_iff.1 hc
  exact notMem_eventAttr (by decide) t

lemma notMem_changeAttr : ∀ a ∈ changeAttr dialect e, '<' ∉ a.toList := by
  intro a ha
  obtain ⟨c, -, hc⟩ := Option.bind_eq_some_iff.1 (Option.mem_toList.1 ha)
  obtain ⟨t, -, rfl⟩ := Option.map_eq_some_iff.1 hc
  exact notMem_eventAttr (by decide) t

/-! ### Elements -/

/-- An opening tag has the script tags of its attributes. -/
lemma count_tag (htag : IsElement tag) (attrs : List String) :
    m.count ("<" ++ " ".intercalate (tag :: attrs)) = (attrs.map m.count).sum := by
  have hjoined : "<" ++ " ".intercalate (tag :: attrs) =
      " ".intercalate (("<" ++ tag) :: attrs) := by
    cases attrs with
    | nil => simp
    | cons a attrs =>
      rw [String.intercalate_cons_cons, String.intercalate_cons_cons]
      simp only [String.append_assoc]
  rw [hjoined, count_intercalate separates_blank, List.map_cons, List.sum_cons, htag.opens,
    Nat.zero_add]

lemma count_tag_cons (htag : IsElement tag) (hattrs : attrs ≠ []) :
    m.count ("<" ++ tag ++ " " ++ " ".intercalate attrs) = (attrs.map m.count).sum := by
  obtain ⟨a, attrs, rfl⟩ := List.exists_cons_of_ne_nil hattrs
  rw [← count_tag htag, String.intercalate_cons_cons]
  simp only [String.append_assoc]

/-- Of the attributes of an element only those of its type may hold script tags. -/
lemma count_opening (htag : IsElement tag) :
    m.count (opening dialect s e tag x) = (x.attrs.map m.count).sum := by
  have heither : ∀ {c : Prop} [Decidable c] {xs ys : List String}, (∀ a ∈ xs, '<' ∉ a.toList) →
      (∀ a ∈ ys, '<' ∉ a.toList) → ((if c then xs else ys).map m.count).sum = 0 := by
    intro c _ xs ys hxs hys
    split
    · exact sum_count_eq_zero hxs
    · exact sum_count_eq_zero hys
  have hnames : ∀ name ∈ [nodeAttribute, "class"], '<' ∉ name.toList := by decide
  have hattr : ∀ name ∈ [nodeAttribute, "class"], ∀ value,
      ∀ a ∈ [attr dialect name value], '<' ∉ a.toList := by
    intro name hname value a ha
    rw [List.mem_singleton.1 ha]
    exact notMem_attr (hnames name hname) value
  unfold opening
  dsimp only
  rw [count_tag htag]
  simp only [List.map_append, List.sum_append, sum_count_eq_zero notMem_styleAttr]
  rw [heither (hattr _ (by simp) _) (by simp), heither (by simp) (hattr _ (by simp) _),
    heither notMem_clickAttr (by simp), heither notMem_changeAttr (by simp)]
  simp

lemma count_void (htag : IsElement tag) :
    m.count (void dialect s e tag x) = (x.attrs.map m.count).sum := by
  rw [void, count_append_right (by decide) (by decide), count_opening htag]

/-- Text between two tags keeps its count. -/
lemma count_closed (htag : IsElement tag) (front : String) (body : String) :
    m.count (front ++ ">" ++ body ++ s!"</{tag}>") = m.count front + m.count body := by
  have hclosing : s!"</{tag}>" = "</" ++ tag ++ ">" := rfl
  have hbegins : BeginsApart ("</" ++ tag ++ ">") := by
    rw [String.append_assoc]
    exact beginsApart_append (by decide) (by decide)
  rw [hclosing, count_append (.inr hbegins), htag.closes, Nat.add_zero,
    count_append (.inl (endsApart_append (by decide) (by decide))),
    count_append_right (by decide) (by decide)]

lemma count_closedLines (htag : IsElement tag) (front : String) (body : String) :
    m.count (front ++ ">\n" ++ Text.indent 2 body ++ s!"\n</{tag}>") =
      m.count front + m.count body := by
  have hlines : front ++ ">\n" ++ Text.indent 2 body ++ s!"\n</{tag}>" =
      front ++ ">" ++ ("\n" ++ Text.indent 2 body ++ "\n") ++ s!"</{tag}>" := by
    have hfirst : ">\n" = ">" ++ "\n" := by decide
    have hlast : s!"\n</{tag}>" = "\n" ++ s!"</{tag}>" := by
      have h : "\n</" = "\n" ++ "</" := by decide
      change "\n</" ++ tag ++ ">" = "\n" ++ ("</" ++ tag ++ ">")
      rw [h]
      simp only [String.append_assoc]
    rw [hfirst, hlast]
    simp only [String.append_assoc]
  rw [hlines, count_closed htag, count_append_right (by decide) (by decide),
    count_append_left (by decide) (by decide), count_indent]

lemma count_inline (htag : IsElement tag) :
    m.count (inline dialect s e tag x body) = (x.attrs.map m.count).sum + m.count body := by
  rw [inline, count_closed htag, count_opening htag]

lemma count_block (htag : IsElement tag) :
    m.count (block dialect s e tag x body) = (x.attrs.map m.count).sum + m.count body := by
  unfold block
  split
  · exact count_inline htag
  · rw [count_closedLines htag, count_opening htag]

lemma count_part (htag : IsElement tag) :
    m.count (part dialect tag css attrs body) = (attrs.map m.count).sum + m.count body := by
  have hopening : m.count ("<" ++ " ".intercalate (tag :: (attrs ++ styleAttr dialect css))) =
      (attrs.map m.count).sum := by
    rw [count_tag htag, List.map_append, List.sum_append, sum_count_eq_zero notMem_styleAttr,
      Nat.add_zero]
  unfold part
  dsimp only
  split
  · have hline : ∀ front : String, front ++ ">" ++ "\n" = front ++ ">\n" := fun front => by
      rw [String.append_assoc]
      rfl
    rw [hline, count_closedLines htag, hopening]
  · rw [count_closed htag, hopening]

/-! ### Elements of built-in types -/

/-- A rendering that has the script tags of its parts, and some of its own. -/
def Adds (m : ScriptTag) (own : Nat) (parts : List (Except EmitError String))
    (x : Except EmitError String) : Prop :=
  ∀ text, x = .ok text →
    ∃ ts, parts.mapM id = .ok ts ∧ m.count text = own + (ts.map m.count).sum

section
variable {own : Nat} {parts : List (Except EmitError String)}

lemma adds_alone {text : String} (h : m.count text = own) : Adds m own [] (.ok text) := by
  rintro _ ⟨rfl⟩
  exact ⟨[], rfl, h⟩

lemma adds_mapM {g : List String → String}
    (h : ∀ ts, m.count (g ts) = own + (ts.map m.count).sum) :
    Adds m own parts (parts.mapM id >>= fun ts => pure (g ts)) := by
  intro text htext
  obtain ⟨ts, hts, hg⟩ := bind_eq_ok_iff.1 htext
  cases hg
  exact ⟨ts, hts, h ts⟩

lemma adds_join {g : String → String} (h : ∀ body, m.count (g body) = own + m.count body) :
    Adds m own parts (joinRendered parts >>= fun body => pure (g body)) := by
  have heq : joinRendered parts >>= (fun body => pure (g body)) =
      parts.mapM id >>= fun ts => pure (g ("\n".intercalate ts)) := by
    rw [joinRendered, bind_assoc]
    rfl
  rw [heq]
  exact adds_mapM fun ts => by rw [h, count_intercalate separates_newline]

end

lemma count_escape (t : String) : m.count (dialect.escape t) = 0 :=
  count_of_notMem (notMem_escape t)

lemma count_joinPresent (ts : List String) :
    m.count (joinPresent ts) = (ts.map m.count).sum := by
  rw [joinPresent, count_intercalate separates_newline]
  induction ts with
  | nil => rfl
  | cons t ts ih =>
    by_cases ht : t = ""
    · subst ht
      simpa [count_of_notMem] using ih
    · simp [ht, ih]

lemma notMem_singleton_attr {name : String} (h : '<' ∉ name.toList) (value : String) :
    ∀ a ∈ [attr dialect name value], '<' ∉ a.toList := by
  simpa using notMem_attr h value

lemma sum_eq_zero {α : Type} {g : α → String} (h : ∀ a, m.count (g a) = 0) (xs : List α) :
    (xs.map (m.count ∘ g)).sum = 0 := by
  refine List.sum_eq_zero fun n hn => ?_
  obtain ⟨a, -, rfl⟩ := List.mem_map.1 hn
  exact h a

lemma count_modal (children : String) :
    m.count (modal dialect s e children) = m.count children := by
  have hattrs : ∀ a ∈ (if isOpen e then ["open"] else []), '<' ∉ a.toList := by
    split <;> decide
  unfold modal
  dsimp only
  rw [count_block (isElement_of_mem (by decide)), sum_count_eq_zero hattrs, count_joinPresent]
  have hheading : IsElement "h3" := isElement_of_mem (by decide)
  simp [count_part hheading, count_escape]

/-- A part without tags of its own. -/
lemma count_part_of_notMem (htag : IsElement tag) (hattrs : ∀ a ∈ attrs, '<' ∉ a.toList) :
    m.count (part dialect tag css attrs body) = m.count body := by
  rw [count_part htag, sum_count_eq_zero hattrs, Nat.zero_add]

lemma count_tabs (children : List String) :
    m.count (tabs dialect s e children) = (children.map m.count).sum := by
  have hselected : ∀ selected ∈ ["true", "false"],
      '<' ∉ (s!"aria-selected=\"{selected}\"").toList := by
    decide
  have hbutton : ∀ label : String, ∀ selected ∈ ["true", "false"], m.count (part dialect "button" []
      ["type=\"button\"", "role=\"tab\"", s!"aria-selected=\"{selected}\""]
        (dialect.escape label)) = 0 := by
    intro label selected h
    rw [count_part_of_notMem (isElement_of_mem (by decide)), count_escape]
    simpa using hselected selected h
  have hpanel : ∀ c : String × Nat, m.count (part dialect "div" []
      ("role=\"tabpanel\"" :: if c.2 = 0 then [] else ["hidden"]) c.1) = m.count c.1 := by
    intro c
    refine count_part_of_notMem (isElement_of_mem (by decide)) ?_
    split <;> decide
  unfold tabs
  dsimp only
  rw [count_block (isElement_of_mem (by decide)), count_intercalate separates_newline,
    List.map_cons, List.sum_cons, count_part_of_notMem (isElement_of_mem (by decide)) (by decide),
    count_intercalate separates_newline, List.map_map, sum_eq_zero fun l : String × Nat => hbutton l.1 _ (by split <;> decide), List.map_map]
  have hpanels : m.count ∘ (fun c : String × Nat => part dialect "div" []
      ("role=\"tabpanel\"" :: if c.2 = 0 then [] else ["hidden"]) c.1) = m.count ∘ Prod.fst := by
    funext c
    exact hpanel c
  rw [hpanels, ← List.map_map, List.zipIdx_map_fst]
  simp

lemma count_nav (children : String) :
    m.count (nav dialect s e children) = m.count children := by
  have hlink : ∀ l : String × String,
      m.count (part dialect "a" [] [attr dialect "href" l.2] (dialect.escape l.1)) = 0 := by
    intro l
    rw [count_part_of_notMem (isElement_of_mem (by decide)) (notMem_singleton_attr (by decide) _),
      count_escape]
  unfold nav
  dsimp only
  rw [count_block (isElement_of_mem (by decide)), count_intercalate separates_newline]
  by_cases hnone : children = ""
  · simp [sum_eq_zero hlink, hnone, count_of_notMem]
  · simp [sum_eq_zero hlink, hnone]

lemma notMem_toDigits (n : Nat) : '<' ∉ Nat.toDigits 10 n := fun h =>
  absurd (Nat.isDigit_of_mem_toDigits (by decide) (by decide) h) (by decide)

lemma notMem_toString (n : Nat) : '<' ∉ (toString n).toList := by
  simpa [ToString.toString, Nat.repr] using notMem_toDigits n

lemma notMem_toString_int (n : Int) : '<' ∉ (toString n).toList := by
  cases n with
  | ofNat n => exact notMem_toString n
  | negSucc n =>
    have htext : toString (Int.negSucc n) = "-" ++ toString (n + 1) := rfl
    simp [htext, notMem_toDigits]

lemma notMem_exponentText (n : Int) : '<' ∉ NumberLayout.exponentText n := by
  unfold NumberLayout.exponentText
  dsimp only
  split <;> simp [NumberLayout.zeros, notMem_toDigits]

lemma notMem_magnitudeText (l : NumberLayout) (d : Decimal) : '<' ∉ l.magnitudeText d := by
  have hdigits := notMem_toDigits d.coefficient
  unfold NumberLayout.magnitudeText
  dsimp only
  generalize Nat.toDigits 10 d.coefficient = digits at hdigits ⊢
  generalize (if d.coefficient = 0 then 0 else d.exponent + Int.ofNat digits.length - 1) = lead
  have htake : ∀ k, '<' ∉ digits.take k := fun k h => hdigits (List.mem_of_mem_take h)
  have hdrop : ∀ k, '<' ∉ digits.drop k := fun k h => hdigits (List.mem_of_mem_drop h)
  split
  · split
    · split <;> simp [hdigits, NumberLayout.zeros]
    · split
      · simp [htake, hdrop]
      · simp [hdigits, NumberLayout.zeros]
  · split
    · simp
    · simpa [notMem_exponentText] using hdigits
    · simpa [notMem_exponentText] using hdigits

lemma notMem_toText (x : Binary64) : '<' ∉ x.toText.toList := by
  cases x with
  | nan => decide
  | infinite negative => cases negative <;> decide
  | finite negative k q =>
    cases negative <;> simp [Binary64.toText, NumberLayout.render, notMem_magnitudeText]

/-- The text of a number prop. -/
lemma notMem_propNumber {name : String} {v : Json} (h : propNumber? e name = some v) :
    '<' ∉ v.text.toList := by
  unfold propNumber? at h
  split at h
  · cases h
    exact notMem_toString_int _
  · cases h
    exact notMem_toText _
  · cases h

lemma count_placeholder : m.count (placeholder dialect s e) = 0 := by
  rw [placeholder, count_inline (isElement_of_mem (by decide)),
    sum_count_eq_zero (notMem_singleton_attr (by decide) _), count_escape]

/-- An element without a body, or with an escaped one. -/
lemma count_inline_escape (htag : IsElement tag) (hattrs : ∀ a ∈ x.attrs, '<' ∉ a.toList)
    (t : String) : m.count (inline dialect s e tag x (dialect.escape t)) = 0 := by
  rw [count_inline htag, sum_count_eq_zero hattrs, count_escape]

lemma count_block_of_notMem (htag : IsElement tag) (hattrs : ∀ a ∈ x.attrs, '<' ∉ a.toList) :
    m.count (block dialect s e tag x body) = m.count body := by
  rw [count_block htag, sum_count_eq_zero hattrs, Nat.zero_add]

lemma isElement_heading {level : Nat} (h : headingLevel e = .ok level) :
    IsElement s!"h{level}" := by
  have hlevels : ∀ k ≤ 6, 1 ≤ k → s!"h{k}" ∈ elementTags := by decide
  have hclamp : ∀ n, clampLevel n ≤ 6 ∧ 1 ≤ clampLevel n := by
    intro n
    unfold clampLevel
    omega
  suffices hrange : level ≤ 6 ∧ 1 ≤ level from isElement_of_mem (hlevels level hrange.1 hrange.2)
  unfold headingLevel at h
  split at h
  · cases h
    exact hclamp _
  · cases h
  · split at h <;> cases h
    exact hclamp _
  · cases h
    decide

lemma count_image : m.count (image dialect s e) = 0 := by
  unfold image
  dsimp only
  rw [count_void (isElement_of_mem (by decide))]
  refine sum_count_eq_zero fun a ha => ?_
  rcases List.mem_append.1 ha with ha | ha
  · rcases List.mem_cons.1 ha with rfl | ha
    · exact notMem_attr (by decide) _
    · exact notMem_singleton_attr (by decide) _ a ha
  · obtain ⟨name, hname, ha⟩ := List.mem_filterMap.1 ha
    obtain ⟨v, hv, rfl⟩ := Option.map_eq_some_iff.1 ha
    have hnames : ∀ name ∈ ["width", "height"], '<' ∉ name.toList := by decide
    have htext : s!"{name}=\"{v.text}\"" = name ++ "=\"" ++ v.text ++ "\"" := rfl
    simp [htext, hnames name hname, notMem_propNumber hv]

lemma count_input : m.count (input dialect s e) = 0 := by
  have hattrs : ∀ a ∈ attr dialect "type" (propText e "type" "text") ::
      (if propText e "placeholder" = "" then []
        else [attr dialect "placeholder" (propText e "placeholder")]), '<' ∉ a.toList := by
    refine List.forall_mem_cons.2 ⟨notMem_attr (by decide) _, ?_⟩
    split
    · simp
    · exact notMem_singleton_attr (by decide) _
  unfold input
  dsimp only
  split
  · rw [count_void (isElement_of_mem (by decide)), sum_count_eq_zero hattrs]
  · have hcontrol : ∀ a ∈ (attr dialect "type" (propText e "type" "text") ::
        if propText e "placeholder" = "" then []
        else [attr dialect "placeholder" (propText e "placeholder")]) ++
          [attr dialect "id" (e.id ++ "-input")] ++ styleAttr dialect inputCss ++
            changeAttr dialect e, '<' ∉ a.toList := by
      simp only [List.forall_mem_append]
      exact ⟨⟨⟨hattrs, notMem_singleton_attr (by decide) _⟩, notMem_styleAttr⟩, notMem_changeAttr⟩
    have hinput : "<input " = "<" ++ "input" ++ " " := by decide
    have hlabel : ∀ a, "<label " ++ a = "<" ++ " ".intercalate ["label", a] := fun a => by
      have hfirst : "<label " = "<" ++ ("label" ++ " ") := by decide
      rw [hfirst, String.append_assoc]
      simp
    have hclosing : ∀ tag : String, tag = "label" → "</label>" = s!"</{tag}>" := by
      rintro _ rfl
      decide
    have htag : IsElement "label" := isElement_of_mem (by decide)
    rw [count_block_of_notMem (isElement_of_mem (by decide)) (by simp),
      count_append (.inl (endsApart_append (by decide) (by decide))),
      count_append (.inr (by decide)), hlabel, hclosing _ rfl,
      count_closed htag, count_tag htag, sum_count_eq_zero (notMem_singleton_attr (by decide) _),
      count_escape, count_append (.inr (by decide)), hinput,
      count_tag_cons (isElement_of_mem (by decide)) (by simp), sum_count_eq_zero hcontrol,
      count_of_notMem (s := "\n") (by decide), count_of_notMem (s := " />") (by decide)]

lemma count_link : m.count (link dialect s e) = 0 :=
  count_inline_escape (isElement_of_mem (by decide)) (notMem_singleton_attr (by decide) _) _

lemma count_icon : m.count (icon dialect s e) = 0 := by
  have hname : '<' ∉ "data-icon".toList := by decide
  exact count_inline_escape (isElement_of_mem (by decide)) (by simp [notMem_attr hname]) _

lemma count_button : m.count (button dialect s e) = 0 :=
  count_inline_escape (isElement_of_mem (by decide)) (by simp) _

lemma count_form (children : String) : m.count (form dialect s e children) = m.count children := by
  refine count_block_of_notMem (isElement_of_mem (by decide)) fun a ha => ?_
  rcases List.mem_append.1 ha with ha | ha
  · split at ha
    · cases ha
    · exact notMem_singleton_attr (by decide) _ a ha
  · exact notMem_singleton_attr (by decide) _ a ha

lemma count_list (hfetch : s.state.fetchFor? e.id = none) : m.count (list dialect s e) = 0 := by
  have hitem : ∀ i, m.count (part dialect "li" [] [] (dialect.escape i)) = 0 := fun i => by
    rw [count_part_of_notMem (isElement_of_mem (by decide)) (by simp), count_escape]
  have htag : IsElement (if propIsTrue e "ordered" then "ol" else "ul") := by
    split <;> exact isElement_of_mem (by decide)
  unfold list
  rw [hfetch]
  dsimp only
  rw [count_block_of_notMem htag (by simp), count_intercalate separates_newline, List.map_map,
    sum_eq_zero hitem]

lemma count_emptyRow (span : Nat) : m.count (emptyRow dialect span) = 0 := by
  have hspan : ∀ n : Nat, ∀ a ∈ [s!"colspan=\"{n}\""], '<' ∉ a.toList := by
    intro n a ha
    have htext : s!"colspan=\"{n}\"" = "colspan=\"" ++ toString n ++ "\"" := rfl
    rw [List.mem_singleton.1 ha, htext]
    simp [notMem_toDigits]
  have hnone : m.count "No data" = 0 := count_of_notMem (by decide)
  rw [emptyRow, count_part_of_notMem (isElement_of_mem (by decide)) (by simp),
    count_part_of_notMem (isElement_of_mem (by decide)) (hspan _), hnone]

/-- A row of escaped cells. -/
lemma count_tableRow {α : Type} (htag : IsElement tag) (text : α → String) (cells : List α) :
    m.count (tableRow dialect (cells.map fun c =>
      part dialect tag cellCss [] (dialect.escape (text c)))) = 0 := by
  have hcell : ∀ c, m.count (part dialect tag cellCss [] (dialect.escape (text c))) = 0 := by
    intro c
    rw [count_part_of_notMem htag (by simp), count_escape]
  rw [tableRow, count_part_of_notMem (isElement_of_mem (by decide)) (by simp),
    count_intercalate separates_newline, List.map_map, sum_eq_zero hcell]

lemma adds_table (hfetch : s.state.fetchFor? e.id = none) : Adds m 0 [] (table dialect s e) := by
  intro text htext
  refine ⟨[], rfl, ?_⟩
  unfold table at htext
  rw [hfetch] at htext
  obtain ⟨found, -, hfound⟩ := bind_eq_ok_iff.1 htext
  have hheader : m.count (tableRow dialect ((tableColumns e).map fun c =>
      part dialect "th" cellCss [] (dialect.escape c.2))) = 0 :=
    count_tableRow (isElement_of_mem (by decide)) Prod.snd _
  have hwhole : ∀ css rows, m.count rows = 0 → m.count (block dialect s e "table" { css := css }
      (part dialect "thead" [] [] (tableRow dialect ((tableColumns e).map fun c =>
        part dialect "th" cellCss [] (dialect.escape c.2))) ++ "\n" ++
          part dialect "tbody" [] [] rows)) = 0 := by
    intro css rows hrows
    rw [count_block_of_notMem (isElement_of_mem (by decide)) (by simp),
      count_append (.inl (endsApart_append (by decide) (by decide))),
      count_append_right (by decide) (by decide),
      count_part_of_notMem (isElement_of_mem (by decide)) (by simp),
      count_part_of_notMem (isElement_of_mem (by decide)) (by simp), hrows, hheader]
  split at hfound
  · rw [← Except.ok.inj hfound]
    exact hwhole _ _ (count_emptyRow _)
  · rw [← Except.ok.inj hfound]
    refine hwhole _ _ ?_
    rw [count_intercalate separates_newline, List.map_map]
    exact sum_eq_zero (fun row => count_tableRow (isElement_of_mem (by decide)) _ _) _

lemma adds_heading :
    Adds m 0 [] (headingLevel e >>= fun level => pure (heading dialect s e level)) := by
  intro text htext
  obtain ⟨level, hlevel, hheading⟩ := bind_eq_ok_iff.1 htext
  rw [← Except.ok.inj hheading]
  exact ⟨[], rfl, count_inline_escape (isElement_heading hlevel) (by simp) _⟩

/-- An element of a built-in type has the script tags of the children that it holds. -/
lemma adds_builtin (hfetch : s.state.fetchFor? e.id = none) (t : BuiltinType)
    (children : List (Except EmitError String)) :
    Adds m 0 (heldChildren .html t children) (builtin dialect s t e children) := by
  have hblock : ∀ {tag : String} {css : Fields String}, tag ∈ elementTags →
      Adds m 0 children (joinRendered children >>= fun body =>
        pure (block dialect s e tag { css := css } body)) := fun htag =>
    adds_join fun body => by
      rw [count_block_of_notMem (isElement_of_mem htag) (by simp), Nat.zero_add]
  cases ht : t.isContainer with
  | true =>
    rw [heldChildren_of_container ht (.inl (by decide))]
    cases t with
    | stack | grid | sectionBox | scrollArea | box | card => exact hblock (by decide)
    | form => exact adds_join fun body => by rw [count_form, Nat.zero_add]
    | modal => exact adds_join fun body => by rw [count_modal, Nat.zero_add]
    | nav => exact adds_join fun body => by rw [count_nav, Nat.zero_add]
    | tabs => exact adds_mapM fun ts => by rw [count_tabs, Nat.zero_add]
    | _ => cases ht
  | false =>
    rw [heldChildren_of_not_container ht]
    cases t with
    | spacer =>
      refine adds_alone ?_
      rw [count_block_of_notMem (isElement_of_mem (by decide)) (by simp)]
      exact count_of_notMem (by decide)
    | heading => exact adds_heading
    | text => exact adds_alone (count_inline_escape (isElement_of_mem (by decide)) (by simp) _)
    | image => exact adds_alone count_image
    | input => exact adds_alone count_input
    | link => exact adds_alone count_link
    | divider =>
      refine adds_alone ?_
      rw [count_void (isElement_of_mem (by decide))]
      rfl
    | list => exact adds_alone (count_list hfetch)
    | icon => exact adds_alone count_icon
    | button => exact adds_alone count_button
    | dataTable => exact adds_table hfetch
    | _ => cases ht

/-! ### Elements and trees -/

/-- The names of the props that an element of another type has as names of attributes. -/
def dataNames (e : Element) : List String :=
  match NodeKind.classify e.type e.props with
  | .other _ => (e.props.filter (·.1 != "className")).map Prod.fst
  | _ => []

mutual

/-- The names of props that stand in the markup of a tree. -/
def shownNames : Node → List String
  | .leaf e => dataNames e
  | .branch e cs => dataNames e ++ (shownChildren .html .empty e (shownNamesAll cs)).flatten

def shownNamesAll : List Node → List (List String)
  | [] => []
  | c :: cs => shownNames c :: shownNamesAll cs

end

lemma shownNamesAll_eq_map (cs : List Node) : shownNamesAll cs = cs.map shownNames := by
  induction cs with
  | nil => rfl
  | cons c cs ih => rw [shownNamesAll, ih, List.map_cons]

lemma count_other (children : String) : m.count (other dialect s e children) =
    (((e.props.filter (·.1 != "className")).map Prod.fst).map m.count).sum + m.count children := by
  have hdata : ∀ (name : String), m.count ("data-" ++ name) = m.count name := fun name =>
    count_append_left (by decide) (by decide)
  have hcomponent : m.count "data-component" = 0 := count_of_notMem (by decide)
  rw [other, count_block (isElement_of_mem (by decide))]
  simp [count_attr, hcomponent, hdata, Function.comp_def]

lemma adds_unconditional (hfetch : s.state.fetchFor? e.id = none)
    (hown : s.plugins.get? e.type = none) (children : List (Except EmitError String)) :
    Adds m ((dataNames e).map m.count).sum (shownChildren .html .empty e children)
      (unconditional dialect s e children) := by
  unfold unconditional shownChildren dataNames
  cases hkind : NodeKind.classify e.type e.props with
  | reference ref => exact adds_alone count_placeholder
  | builtin t => exact adds_builtin hfetch t children
  | other tag =>
    rw [hown]
    exact adds_join fun body => count_other body

lemma notMem_conditionAttrs : ∀ a ∈ Html.conditionAttrs s.state e, '<' ∉ a.toList := by
  have hnames : ∀ name ∈ ["data-ss-toggle", "data-ss-state", "data-ss-value"],
      '<' ∉ name.toList := by decide
  have hoperator : ∀ o : VisibilityOperator, '<' ∉ (s!"data-ss-op=\"{o.name}\"").toList := by
    intro o
    cases o <;> decide
  unfold Html.conditionAttrs
  simp only [List.forall_mem_append]
  refine ⟨⟨by decide, ?_⟩, ?_⟩
  · split
    · exact notMem_singleton_attr (hnames "data-ss-toggle" (by simp)) e.id
    · simp
  · split
    · simp
    · next r _ =>
      simp only [List.forall_mem_append, List.forall_mem_cons]
      refine ⟨⟨notMem_attr (hnames "data-ss-state" (by simp)) r.state, hoperator _, by simp⟩,
        ?_⟩
      split
      · simp
      · exact notMem_singleton_attr (hnames "data-ss-value" (by simp)) _

/-- The box around an element with conditions adds no tags. -/
lemma count_conditional (cs : List String) (markup : String) :
    m.count (dialect.conditional s.state e cs markup) = m.count markup := by
  have hopening : m.count ("<div " ++ " ".intercalate (Html.conditionAttrs s.state e)) = 0 := by
    have hdiv : "<div " = "<" ++ "div" ++ " " := by decide
    rw [hdiv, count_tag_cons (isElement_of_mem (by decide)) (by simp [Html.conditionAttrs]),
      sum_count_eq_zero notMem_conditionAttrs]
  have hclosing : m.count "\n</div>" = 0 := by
    cases m <;> decide +kernel
  change m.count ("<div " ++ " ".intercalate (Html.conditionAttrs s.state e) ++
    " style=\"display: contents\">\n" ++ Text.indent 2 markup ++ "\n</div>") = m.count markup
  rw [count_append (.inr (by decide)), hclosing, Nat.add_zero,
    count_append (.inl (endsApart_append (by decide) (by decide))),
    count_append_right (by decide) (by decide), hopening, count_indent, Nat.zero_add]

lemma adds_element (hfetch : s.state.fetchFor? e.id = none)
    (hown : s.plugins.get? e.type = none) (children : List (Except EmitError String)) :
    Adds m ((dataNames e).map m.count).sum (shownChildren .html .empty e children)
      (element dialect s e children) := by
  rw [element_eq]
  intro text htext
  obtain ⟨markup, hmarkup, htext⟩ := bind_eq_ok_iff.1 htext
  obtain ⟨ts, hts, hcount⟩ := adds_unconditional hfetch hown children markup hmarkup
  refine ⟨ts, hts, ?_⟩
  rw [← Except.ok.inj htext, ← hcount]
  split
  · rfl
  · exact count_conditional _ _

end

section
variable {m : ScriptTag} {s : Screen}

lemma sum_of_forall₂ {cs : List Node} {ts : List String}
    (h : List.Forall₂ (fun c t => render dialect s c = .ok t) cs ts)
    (hcount : ∀ c ∈ cs, ∀ t, render dialect s c = .ok t →
      m.count t = ((shownNames c).map m.count).sum) :
    (ts.map m.count).sum = (((cs.map shownNames).flatten).map m.count).sum := by
  induction h with
  | nil => rfl
  | @cons c t cs ts hc _ ih =>
    obtain ⟨hfirst, hrest⟩ := List.forall_mem_cons.1 hcount
    simp [hfirst t hc, ih hrest]

/-- The markup of a tree has the script tags of the names of its props, and no others. -/
theorem count_render (hfetches : s.state.fetches = []) {n : Node}
    (hown : ∀ e ∈ n.elements, s.plugins.get? e.type = none) {text : String}
    (htext : render dialect s n = .ok text) :
    m.count text = ((shownNames n).map m.count).sum := by
  have hfetch : ∀ id, s.state.fetchFor? id = none := fun id => by
    simp [ScreenState.fetchFor?, hfetches]
  -- An element adds the names of its own props, and only the children that it shows count below it.
  induction n using Node.induction generalizing text with
  | leaf e =>
    obtain ⟨ts, hts, hcount⟩ := adds_element (hfetch _) (hown e (by simp)) [] text htext
    rw [shownChildren_nil] at hts
    cases hts
    exact hcount
  | branch e cs ih =>
    rw [render, renderAll_eq_map] at htext
    obtain ⟨ts, hts, hcount⟩ := adds_element (hfetch _) (hown e (by simp)) _ text htext
    rw [shownChildren_map, mapM_eq_ok_iff, List.forall₂_map_left_iff] at hts
    have hchildren := sum_of_forall₂ hts fun c hc t ht => by
      have hmem : c ∈ cs := (shownChildren_sublist _).subset hc
      exact ih c hmem (fun x hx => hown x (Node.elements_subset_of_mem_children hmem hx)) ht
    rw [hcount, hchildren, shownNames, shownNamesAll_eq_map, shownChildren_map, List.map_append,
      List.sum_append]

end
end Screenwright.Emit.Markup
