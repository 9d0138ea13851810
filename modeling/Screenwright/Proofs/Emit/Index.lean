import Mathlib.Data.List.Count
import Screenwright.Emit.Backend
import Screenwright.Proofs.Emit.ComponentNames
import Screenwright.Proofs.Text.Tidying

/-! The index of components: it is tidy as it is emitted, and among its lines each component has as
many as there are screens of its name. -/
namespace Screenwright.Emit

/-- The line of an index for a component. -/
def indexLine (f : Framework) (name : String) : String :=
  match f with
  | .html => s!"      <li><a href=\"./{name}.generated.html\">{Html.escape name}</a></li>"
  | f => exportLine f name

/-- The lines above the components. -/
def indexHeader : Framework → List String
  | .html => ["<!DOCTYPE html>", "<!-- " ++ generatedMarker ++ " -->", "<html lang=\"en\">",
      "<head>", "  <meta charset=\"UTF-8\" />", "  <title>Screens</title>", "</head>", "<body>",
      "  <nav>", "    <ul>"]
  | _ => ["// " ++ generatedMarker]

/-- The lines below the components. -/
def indexFooter : Framework → List String
  | .html => ["    </ul>", "  </nav>", "</body>", "</html>"]
  | _ => []

def indexRows (f : Framework) (names : List String) : List String :=
  indexHeader f ++ (Text.sorted names).map (indexLine f) ++ indexFooter f

lemma contents_emitIndex (f : Framework) (config : Config) (names : List String) :
    (emitIndex f config names).contents = Text.unlines (indexRows f names) ++ "\n" := by
  cases f with
  | html =>
    rw [emitIndex, Html.index, Html.document, indexRows, Text.unlines]
    simp only [indexHeader, indexFooter, List.append_assoc, List.cons_append, List.nil_append]
    rfl
  | nextjs | vue | svelte | expo =>
    simp only [indexRows, indexFooter, List.append_nil]
    rfl

/-! ### Lines of components -/

/-- What stands before the name of a component. -/
def lineStart : Framework → String
  | .html => "      <li><a href=\"./"
  | .nextjs | .expo => "export \x7b "
  | .vue | .svelte => "export \x7b default as "

/-- What stands between the name of a component and its second mention. -/
def lineMiddle : Framework → String
  | .html => ".generated.html\">"
  | _ => " \x7d from \"./"

def lineEnd : Framework → String
  | .html => "</a></li>"
  | .nextjs | .expo => ".generated\";"
  | .vue => ".generated" ++ extension .vue ++ "\";"
  | .svelte => ".generated" ++ extension .svelte ++ "\";"

/-- A text of letters and digits, as the names of components are. -/
def IsAlphanumeric (name : String) : Prop := ∀ c ∈ name.toList, c.isAlphanum = true

lemma isAlphanumeric_componentName (route : String) : IsAlphanumeric (componentName route) :=
  fun _ => isAlphanum_of_mem_componentName

lemma markupChar_of_isAlphanum {c : Char} (h : c.isAlphanum = true) : Text.markupChar c = [c] := by
  have hne : ∀ d : Char, d.isAlphanum = false → c ≠ d := by
    rintro d hd rfl
    exact absurd (h.symm.trans hd) (by decide)
  rw [Text.markupChar, if_neg (hne _ rfl), if_neg (hne _ rfl), if_neg (hne _ rfl),
    if_neg (hne _ rfl)]

lemma escape_eq_self {name : String} (h : IsAlphanumeric name) : Html.escape name = name := by
  have hchars : name.toList.flatMap Text.markupChar = name.toList.flatMap fun c => [c] :=
    List.flatMap_congr fun c hc => markupChar_of_isAlphanum (h c hc)
  rw [Html.escape, Text.escapeMarkup, hchars, List.flatMap_singleton', String.ofList_toList]

lemma indexLine_eq (f : Framework) {name : String} (h : IsAlphanumeric name) :
    indexLine f name = lineStart f ++ (name ++ (lineMiddle f ++ (name ++ lineEnd f))) := by
  cases f with
  | html =>
    have hline : indexLine .html name =
        lineStart .html ++ name ++ lineMiddle .html ++ Html.escape name ++ lineEnd .html := rfl
    rw [hline, escape_eq_self h]
    simp only [String.append_assoc]
  | nextjs | expo =>
    have hline : ∀ f, f = .nextjs ∨ f = .expo → indexLine f name =
        lineStart f ++ name ++ (lineMiddle f ++ name ++ lineEnd f) := by
      rintro f (rfl | rfl) <;> rfl
    rw [hline _ (by simp)]
    simp only [String.append_assoc]
  | vue | svelte =>
    have hline : ∀ f, f = .vue ∨ f = .svelte → indexLine f name =
        lineStart f ++ name ++ (lineMiddle f ++ name ++ ".generated" ++ extension f ++ "\";") := by
      rintro f (rfl | rfl) <;> rfl
    have hend : ∀ f, f = .vue ∨ f = .svelte → lineEnd f =
        ".generated" ++ extension f ++ "\";" := by
      rintro f (rfl | rfl) <;> rfl
    rw [hline _ (by simp), hend _ (by simp)]
    simp only [String.append_assoc]

lemma toList_indexLine (f : Framework) {name : String} (h : IsAlphanumeric name) :
    (indexLine f name).toList = (lineStart f).toList ++ (name.toList ++
      ((lineMiddle f).toList ++ (name.toList ++ (lineEnd f).toList))) := by
  simp only [indexLine_eq f h, String.toList_append]

/-- A line tells the name of its component. -/
lemma indexLine_inj {f : Framework} {name name' : String} (h : IsAlphanumeric name)
    (h' : IsAlphanumeric name') (hline : indexLine f name = indexLine f name') : name = name' := by
  have hmiddle : ∀ more : List Char, ∀ c ∈ ((lineMiddle f).toList ++ more).head?,
      c.isAlphanum = false := by
    intro more c hc
    cases f <;> cases hc <;> decide
  have hlists := congrArg String.toList hline
  rw [toList_indexLine f h, toList_indexLine f h'] at hlists
  have hsame := append_inj_of_run h h' (hmiddle _) (hmiddle _) (List.append_cancel_left hlists)
  exact String.toList_inj.1 hsame.1

lemma isFullLine_indexLine (f : Framework) {name : String} (h : IsAlphanumeric name) :
    Text.IsFullLine (indexLine f name).toList := by
  have hname : Text.IsUnbroken name.toList :=
    ⟨fun hc => absurd (h _ hc) (by decide), fun hc => absurd (h _ hc) (by decide)⟩
  have hstart : Text.IsUnbroken (lineStart f).toList := by
    cases f <;> (rw [lineStart, String.toList_ofList]; decide)
  have hmiddle : Text.IsUnbroken (lineMiddle f).toList := by cases f <;> decide
  have hend : Text.IsFullLine (lineEnd f).toList := by cases f <;> decide
  rw [toList_indexLine f h]
  exact .append hstart (.append hname (.append hmiddle (.append hname hend)))

lemma isFullLine_marker : Text.IsFullLine ("// " ++ generatedMarker).toList := by
  rw [generatedMarker, String.toList_append, String.toList_ofList, String.toList_ofList]
  decide

/-- The characters of a notice in a document. -/
lemma toList_notice : ("<!-- " ++ generatedMarker ++ " -->").toList =
    "<!-- ".toList ++ generatedMarker.toList ++ " -->".toList := by
  rw [String.toList_append, String.toList_append]

lemma isFullLine_of_mem_indexHeader {f : Framework} {row : String} (hrow : row ∈ indexHeader f) :
    Text.IsFullLine row.toList := by
  have hhtml : ∀ row ∈ indexHeader .html, Text.IsFullLine row.toList := by
    refine List.forall_mem_cons.2 ⟨?_, List.forall_mem_cons.2 ⟨?_, ?_⟩⟩
    · rw [String.toList_ofList]
      decide
    · rw [toList_notice, generatedMarker, String.toList_ofList, String.toList_ofList,
        String.toList_ofList]
      decide
    · repeat refine List.forall_mem_cons.2 ⟨by rw [String.toList_ofList]; decide, ?_⟩
      exact List.forall_mem_nil _
  cases f with
  | html => exact hhtml row hrow
  | nextjs | vue | svelte | expo =>
    obtain rfl := List.mem_singleton.1 hrow
    exact isFullLine_marker

lemma isFullLine_of_mem_indexRows {f : Framework} {names : List String}
    (h : ∀ name ∈ names, IsAlphanumeric name) {row : String} (hrow : row ∈ indexRows f names) :
    Text.IsFullLine row.toList := by
  have hfooter : ∀ row ∈ indexFooter f, Text.IsFullLine row.toList := by
    unfold indexFooter
    split
    · repeat refine List.forall_mem_cons.2 ⟨by rw [String.toList_ofList]; decide, ?_⟩
      exact List.forall_mem_nil _
    · exact List.forall_mem_nil _
  rw [indexRows, List.mem_append, List.mem_append] at hrow
  rcases hrow with (hrow | hrow) | hrow
  · exact isFullLine_of_mem_indexHeader hrow
  · obtain ⟨name, hname, rfl⟩ := List.mem_map.1 hrow
    exact isFullLine_indexLine f (h name ((Text.sorted_perm names).mem_iff.1 hname))
  · exact hfooter row hrow

lemma indexRows_ne_nil (f : Framework) (names : List String) : indexRows f names ≠ [] := by
  cases f <;> simp [indexRows, indexHeader]

/-- The index is tidy as it is. -/
theorem tidy_emitIndex (f : Framework) (config : Config) {names : List String}
    (h : ∀ name ∈ names, IsAlphanumeric name) (path : String) :
    Text.tidy (emitIndex f config names).contents path = (emitIndex f config names).contents := by
  rw [contents_emitIndex]
  exact Text.tidy_unlines (fun _ hrow => isFullLine_of_mem_indexRows h hrow) path

/-- No line around the components is like one of theirs. -/
lemma indexLine_notMem (f : Framework) {name : String} (h : IsAlphanumeric name) :
    indexLine f name ∉ indexHeader f ∧ indexLine f name ∉ indexFooter f := by
  have hstart : (indexLine f name).toList.take 6 = (lineStart f).toList.take 6 := by
    rw [toList_indexLine f h]
    cases f <;> rfl
  have hheader : ∀ row ∈ indexHeader f, row.toList.take 6 ≠ (lineStart f).toList.take 6 := by
    cases f with
    | html =>
      rw [lineStart, String.toList_ofList]
      refine List.forall_mem_cons.2 ⟨?_, List.forall_mem_cons.2 ⟨?_, ?_⟩⟩
      · rw [String.toList_ofList]
        decide
      · rw [toList_notice, String.toList_ofList]
        simp
      · repeat refine List.forall_mem_cons.2 ⟨by rw [String.toList_ofList]; decide, ?_⟩
        exact List.forall_mem_nil _
    | nextjs | vue | svelte | expo =>
      refine List.forall_mem_singleton.2 ?_
      rw [lineStart, String.toList_append, String.toList_ofList, String.toList_ofList]
      simp
  have hfooter : ∀ row ∈ indexFooter f, row.toList.take 6 ≠ (lineStart f).toList.take 6 := by
    cases f with
    | html =>
      rw [lineStart, String.toList_ofList]
      repeat refine List.forall_mem_cons.2 ⟨by rw [String.toList_ofList]; decide, ?_⟩
      exact List.forall_mem_nil _
    | nextjs | vue | svelte | expo => exact List.forall_mem_nil _
  exact ⟨fun hmem => hheader _ hmem hstart, fun hmem => hfooter _ hmem hstart⟩

/-- Among the lines of the index are as many for a component as there are screens of its name. -/
theorem count_lines_emitIndex (f : Framework) (config : Config) {names : List String}
    (h : ∀ name ∈ names, IsAlphanumeric name) {name : String} (hname : IsAlphanumeric name) :
    (Text.lines (emitIndex f config names).contents).count (indexLine f name) =
      names.count name := by
  have hempty : indexLine f name ≠ "" := fun heq =>
    (isFullLine_indexLine f hname).ne_nil (by rw [heq]; rfl)
  have hcomponents : ((Text.sorted names).map (indexLine f)).count (indexLine f name) =
      names.count name := by
    rw [← (Text.sorted_perm names).count_eq, List.count_eq_countP, List.countP_map,
      List.count_eq_countP]
    refine List.countP_congr fun name' hname' => ?_
    have halnum := h name' ((Text.sorted_perm names).mem_iff.1 hname')
    simp only [Function.comp_apply, beq_iff_eq]
    exact ⟨indexLine_inj halnum hname, congrArg _⟩
  obtain ⟨hheader, hfooter⟩ := indexLine_notMem f hname
  have hunbroken : ∀ row ∈ indexRows f names, '\n' ∉ row.toList := fun _ hrow =>
    (isFullLine_of_mem_indexRows h hrow).1.1
  rw [contents_emitIndex, Text.lines_unlines (indexRows_ne_nil f names) hunbroken, indexRows]
  simp only [List.count_append, hcomponents, List.count_eq_zero_of_not_mem hheader,
    List.count_eq_zero_of_not_mem hfooter, List.count_singleton]
  simp [hempty.symm]

end Screenwright.Emit
