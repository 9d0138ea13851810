import Mathlib.Data.List.Lex
import Screenwright.Proofs.Document.Trail
import Screenwright.Proofs.Record.Restoring

/-! Paths of nodes. A walk meets the nodes of a tree in the order of their positions, each at the
path that is made from its position. The position can be read again from the path, and in the
document of the tree the path leads to the document of the node. -/
namespace Screenwright

/-! ### Positions in order -/

namespace Node
variable {n m : Node} {path : String}

mutual

/-- The positions of the nodes of a tree, parents first and siblings in order. -/
def positions : Node → List (List Nat)
  | leaf _ => [[]]
  | branch _ cs => [] :: positionsOf 0 cs

def positionsOf (i : Nat) : List Node → List (List Nat)
  | [] => []
  | c :: cs => (positions c).map (i :: ·) ++ positionsOf (i + 1) cs

end

/-- Positions listed as a walk goes: each position of a node once, before those below it, and those
below one child before those below the next. -/
structure IsWalkOrder (n : Node) (ps : List (List Nat)) : Prop where
  mem_iff : ∀ p, p ∈ ps ↔ (n.at? p).isSome
  sorted : ps.Pairwise (· < ·)

lemma mem_positionsOf {i : Nat} {cs : List Node} {p : List Nat} :
    p ∈ positionsOf i cs ↔ ∃ j c q, cs[j]? = some c ∧ q ∈ c.positions ∧ p = (i + j) :: q := by
  induction cs generalizing i with
  | nil => simp [positionsOf]
  | cons c cs ih =>
    rw [positionsOf, List.mem_append, List.mem_map, ih]
    constructor
    · rintro (⟨q, hq, rfl⟩ | ⟨j, d, q, hd, hq, rfl⟩)
      · exact ⟨0, c, q, rfl, hq, rfl⟩
      · exact ⟨j + 1, d, q, by simpa using hd, hq, by rw [Nat.add_assoc, Nat.add_comm 1]⟩
    · rintro ⟨j, d, q, hd, hq, rfl⟩
      cases j with
      | zero =>
        obtain rfl : c = d := by simpa using hd
        exact .inl ⟨q, hq, rfl⟩
      | succ j =>
        exact .inr ⟨j, d, q, by simpa using hd, hq, by rw [Nat.add_assoc, Nat.add_comm 1]⟩

lemma mem_positions {p : List Nat} : p ∈ n.positions ↔ (n.at? p).isSome := by
  induction n using Node.induction generalizing p with
  | leaf e => cases p <;> simp [positions, at?]
  | branch e cs ih =>
    rw [positions, List.mem_cons, mem_positionsOf]
    cases p with
    | nil => simp [at?]
    | cons i p =>
      have hchild : (∃ j c q, cs[j]? = some c ∧ q ∈ c.positions ∧ i :: p = (0 + j) :: q) ↔
          ∃ c, cs[i]? = some c ∧ p ∈ c.positions := by
        constructor
        · rintro ⟨j, c, q, hc, hq, heq⟩
          obtain ⟨rfl, rfl⟩ : i = j ∧ p = q := by simpa using heq
          exact ⟨c, hc, hq⟩
        · rintro ⟨c, hc, hp⟩
          exact ⟨i, c, p, hc, hp, by rw [Nat.zero_add]⟩
      rw [hchild, at?, children_branch, Option.isSome_bind, Option.any_eq_true]
      simp only [reduceCtorEq, false_or]
      refine exists_congr fun c => and_congr_right fun hc => ?_
      exact ih c (List.mem_of_getElem? hc)

lemma pairwise_positionsOf {i : Nat} {cs : List Node}
    (h : ∀ c ∈ cs, c.positions.Pairwise (· < ·)) : (positionsOf i cs).Pairwise (· < ·) := by
  induction cs generalizing i with
  | nil => exact .nil
  | cons c cs ih =>
    rw [List.forall_mem_cons] at h
    rw [positionsOf, List.pairwise_append, List.pairwise_map]
    refine ⟨h.1.imp List.cons_lt_cons_self.2, ih h.2, fun p hp q hq => ?_⟩
    obtain ⟨p, -, rfl⟩ := List.mem_map.1 hp
    obtain ⟨j, d, q, -, -, rfl⟩ := mem_positionsOf.1 hq
    exact List.cons_lt_cons_iff.2 (.inl (by omega))

theorem isWalkOrder_positions (n : Node) : n.IsWalkOrder n.positions := by
  refine ⟨fun p => mem_positions, ?_⟩
  induction n using Node.induction with
  | leaf e => exact List.pairwise_singleton _ _
  | branch e cs ih =>
    refine List.pairwise_cons.2 ⟨fun p hp => ?_, pairwise_positionsOf ih⟩
    obtain ⟨j, c, q, -, -, rfl⟩ := mem_positionsOf.1 hp
    exact List.nil_lt_cons _ _

/-- A walk meets what stands at each position in order, at the path made from the position. -/
theorem walk_eq_positions (n : Node) (path : String) :
    (n.walk path).map (fun e => (some e.1, e.2)) =
      n.positions.map fun p => (n.at? p, p.foldl childPath path) := by
  induction n using Node.induction generalizing path with
  | leaf e => rfl
  | branch e cs ih =>
    -- the children that are still to be walked, after those before them
    have hchildren : ∀ after before : List Node, cs = before ++ after →
        (walkChildren path before.length after).map (fun e => (some e.1, e.2)) =
          (positionsOf before.length after).map fun p =>
            ((branch e cs).at? p, p.foldl childPath path) := by
      intro after
      induction after with
      | nil => exact fun before _ => rfl
      | cons c after iha =>
        intro before hcs
        have hc : cs[before.length]? = some c := by simp [hcs]
        have hrest := iha (before ++ [c]) (by simp [hcs])
        rw [List.length_append, List.length_singleton] at hrest
        rw [walkChildren, positionsOf, List.map_append, List.map_append, hrest,
          ih c (List.mem_of_getElem? hc), List.map_map]
        refine congrArg (· ++ _) (List.map_congr_left fun p _ => ?_)
        simp [at?, hc]
    rw [walk, positions, List.map_cons, List.map_cons]
    exact congrArg _ (hchildren cs [] rfl)

end Node

/-! ### Reading paths -/

/-- The document of a child in the document of a node. -/
def Json.child? (document : Json) (i : Nat) : Option Json := do
  let children ← (← document.get? "children").asArray?
  children[i]?

namespace NodePath
variable {i : Nat} {p : List Nat} {s rest : List Char}

/-- What every path starts with: the root of a tree. -/
def root : String := "tree"

/-- The text that goes to a child. -/
def opening : List Char := ".children[".toList

/-- Reads how a text goes to a child: the index, and what is left of the text. -/
def readStep? (s : List Char) : Option (Nat × List Char) := do
  let inside ← opening.isPrefixOf? s
  let digits := inside.takeWhile Char.isDigit
  let rest ← [']'].isPrefixOf? (inside.dropWhile Char.isDigit)
  if digits = [] then none else some (Nat.ofDigitChars 10 digits 0, rest)

lemma length_lt_of_readStep? (h : readStep? s = some (i, rest)) : rest.length < s.length := by
  obtain ⟨inside, hinside, h⟩ := Option.bind_eq_some_iff.1 h
  obtain ⟨left, hleft, h⟩ := Option.bind_eq_some_iff.1 h
  split at h
  · cases h
  cases h
  have hs := congrArg List.length (List.append_eq_of_isPrefixOf?_eq_some hinside)
  have hrest := congrArg List.length (List.append_eq_of_isPrefixOf?_eq_some hleft)
  have hle : (inside.dropWhile Char.isDigit).length ≤ inside.length :=
    (List.dropWhile_suffix _).length_le
  simp only [List.length_append, List.length_singleton] at hs hrest
  omega

lemma readStep?_eq_none (h : opening.isPrefixOf? s = none) : readStep? s = none := by
  rw [readStep?, h]
  rfl

/-- Reads the way from a node to one below it as far as a text goes, and what is left of the text. -/
def readSteps (s : List Char) : List Nat × List Char :=
  match h : readStep? s with
  | none => ([], s)
  | some (i, rest) =>
    have := length_lt_of_readStep? h
    let below := readSteps rest
    (i :: below.1, below.2)
termination_by s.length

/-- What a path names in the document of a tree, and the part of the path that follows, such as
`.props.level`. -/
def locate? (document : Json) (path : String) : Option (Json × String) := do
  let way := readSteps (← root.toList.isPrefixOf? path.toList)
  let named ← way.1.foldlM Json.child? document
  pure (named, String.ofList way.2)

/-- The text of one step. -/
def step (i : Nat) : List Char := opening ++ (Nat.toDigits 10 i ++ [']'])

lemma readStep?_step (i : Nat) (rest : List Char) :
    readStep? (step i ++ rest) = some (i, rest) := by
  have hdigits : ∀ c ∈ Nat.toDigits 10 i, c.isDigit = true := fun c hc =>
    Nat.isDigit_of_mem_toDigits (by omega) (by omega) hc
  have hopening : opening.isPrefixOf? (step i ++ rest) =
      some (Nat.toDigits 10 i ++ ']' :: rest) := by
    rw [step, List.append_assoc, List.isPrefixOf?_eq_some_iff_append_eq]
    simp
  have htake : (Nat.toDigits 10 i ++ ']' :: rest).takeWhile Char.isDigit = Nat.toDigits 10 i := by
    rw [List.takeWhile_append_of_pos hdigits]
    simp
  have hdrop : (Nat.toDigits 10 i ++ ']' :: rest).dropWhile Char.isDigit = ']' :: rest := by
    rw [List.dropWhile_append_of_pos hdigits]
    simp
  have hclosing : [']'].isPrefixOf? (']' :: rest) = some rest := by
    rw [List.isPrefixOf?_eq_some_iff_append_eq, List.singleton_append]
  have hne : Nat.toDigits 10 i ≠ [] := Nat.toDigits_ne_nil
  rw [readStep?, hopening]
  simp only [Option.bind_eq_bind, Option.bind_some, htake, hdrop, hclosing, if_neg hne,
    Nat.ofDigitChars_ten_toDigits]

/-- The way is read from its steps, up to where the text goes to no child. -/
lemma readSteps_append (h : readStep? rest = none) (p : List Nat) :
    readSteps (p.flatMap step ++ rest) = (p, rest) := by
  induction p with
  | nil =>
    rw [List.flatMap_nil, List.nil_append, readSteps]
    split
    · rfl
    · next hstep => simp [h] at hstep
  | cons i p ih =>
    have hstep := readStep?_step i (p.flatMap step ++ rest)
    rw [List.flatMap_cons, List.append_assoc, readSteps]
    split
    · next hnone => simp [hstep] at hnone
    · next j left hsome =>
      rw [hstep] at hsome
      cases hsome
      rw [ih]

/-- The path of a position. -/
def ofPosition (p : List Nat) : String := p.foldl Node.childPath root

lemma toList_foldl_childPath (p : List Nat) (path : String) :
    (p.foldl Node.childPath path).toList = path.toList ++ p.flatMap step := by
  induction p generalizing path with
  | nil => simp
  | cons i p ih =>
    have hchild : (Node.childPath path i).toList = path.toList ++ step i := by
      have hpath : (toString path).toList = path.toList := rfl
      have hopening : (toString ".children[").toList = opening := rfl
      have hclosing : (toString "]").toList = [']'] := rfl
      simp [Node.childPath, String.toList_append, hpath, hopening, hclosing, step]
    rw [List.foldl_cons, ih, hchild, List.flatMap_cons, List.append_assoc]

/-- The position can be read from a path and what follows it. -/
lemma readSteps_ofPosition (p : List Nat) (suffix : String) (h : readStep? suffix.toList = none) :
    (root.toList.isPrefixOf? (ofPosition p ++ suffix).toList).map readSteps =
      some (p, suffix.toList) := by
  have hstart : root.toList.isPrefixOf? (ofPosition p ++ suffix).toList =
      some (p.flatMap step ++ suffix.toList) := by
    rw [List.isPrefixOf?_eq_some_iff_append_eq, String.toList_append, ofPosition,
      toList_foldl_childPath, List.append_assoc]
  rw [hstart, Option.map_some, readSteps_append h]

lemma readStep?_empty : readStep? "".toList = none := readStep?_eq_none rfl

lemma ofPosition_injective : Function.Injective ofPosition := by
  intro p q h
  have hp := readSteps_ofPosition p "" readStep?_empty
  rw [h, readSteps_ofPosition q "" readStep?_empty] at hp
  simpa using hp.symm

end NodePath

namespace Node
variable {n m : Node} {p : List Nat}

lemma child?_toJson (n : Node) (i : Nat) : n.toJson.child? i = n.children[i]?.map toJson := by
  cases n with
  | leaf e => simp [Json.child?, toJson, Json.get?, Element.toFields]
  | branch e cs =>
    simp [Json.child?, toJson, Json.get?, Element.toFields, toJsonList_eq_map, Json.asArray?]

/-- The way to a position leads to the document of the node that stands there. -/
lemma foldlM_child?_toJson (n : Node) (p : List Nat) :
    p.foldlM Json.child? n.toJson = (n.at? p).map toJson := by
  induction p generalizing n with
  | nil => rfl
  | cons i p ih =>
    rw [List.foldlM_cons, child?_toJson, at?, Option.bind_eq_bind, Option.bind_map,
      Option.map_bind]
    exact congrArg _ (funext ih)

end Node

namespace NodePath
variable {n m : Node} {p : List Nat} {path suffix : String}

/-- The path of a position names the node that stands there, and what follows is left. -/
theorem locate?_ofPosition (hm : n.at? p = some m) (h : readStep? suffix.toList = none) :
    locate? n.toJson (ofPosition p ++ suffix) = some (m.toJson, suffix) := by
  obtain ⟨s, hs, hsteps⟩ := Option.map_eq_some_iff.1 (readSteps_ofPosition p suffix h)
  rw [locate?, hs]
  simp [hsteps, Node.foldlM_child?_toJson, hm]

lemma exists_position_of_mem_walk (h : (m, path) ∈ n.walk root) :
    ∃ p, n.at? p = some m ∧ path = ofPosition p := by
  have hmem := List.mem_map_of_mem (f := fun e : Node × String => (some e.1, e.2)) h
  rw [Node.walk_eq_positions] at hmem
  obtain ⟨p, -, heq⟩ := List.mem_map.1 hmem
  obtain ⟨hm, hpath⟩ := Prod.mk.inj heq
  exact ⟨p, hm, hpath.symm⟩

theorem nodup_walk (n : Node) : ((n.walk root).map Prod.snd).Nodup := by
  have hpaths : (n.walk root).map Prod.snd = n.positions.map ofPosition := by
    have h := congrArg (List.map Prod.snd) (n.walk_eq_positions root)
    rw [List.map_map, List.map_map] at h
    exact h
  have hpositions : n.positions.Nodup :=
    n.isWalkOrder_positions.sorted.imp fun hlt => ne_of_lt hlt
  rw [hpaths]
  exact hpositions.map ofPosition_injective

/-- The path of a node names it, with what follows left. -/
theorem locate?_of_mem_walk (hm : (m, path) ∈ n.walk root) (h : readStep? suffix.toList = none) :
    locate? n.toJson (path ++ suffix) = some (m.toJson, suffix) := by
  obtain ⟨p, hp, rfl⟩ := exists_position_of_mem_walk hm
  exact locate?_ofPosition hp h

end NodePath
end Screenwright
