import Mathlib.Data.List.Chain
import Mathlib.Data.List.Induction
import Screenwright.Text.Lines
import Screenwright.Text.Replace

/-! Replacements in whole texts, and line ends as what two of them make of those of other
systems. -/
namespace Screenwright.Text

section
variable {pattern by_ : List Char}

lemma replaceFrom_length (front rest : List Char) :
    replaceFrom pattern by_ front.length (front ++ rest) = replaceFrom pattern by_ 0 rest := by
  induction front with
  | nil => rfl
  | cons c front ih => rw [List.length_cons, List.cons_append, replaceFrom, ih]

lemma replaceFrom_append (h : pattern ≠ []) (rest : List Char) :
    replaceFrom pattern by_ 0 (pattern ++ rest) = by_ ++ replaceFrom pattern by_ 0 rest := by
  cases pattern with
  | nil => exact absurd rfl h
  | cons p pattern =>
    have hfound : (p :: pattern).isPrefixOf (p :: (pattern ++ rest)) = true :=
      List.isPrefixOf_iff_prefix.2 (List.prefix_append (p :: pattern) rest)
    rw [List.cons_append, replaceFrom, if_pos ⟨h, hfound⟩, List.length_cons, Nat.add_sub_cancel,
      replaceFrom_length]

lemma replaceFrom_cons_of_not {c : Char} {rest : List Char} (h : ¬ pattern <+: c :: rest) :
    replaceFrom pattern by_ 0 (c :: rest) = c :: replaceFrom pattern by_ 0 rest := by
  rw [replaceFrom, if_neg fun hfound => h (List.isPrefixOf_iff_prefix.1 hfound.2)]

/-- A piece that has not the first character of the pattern stays as it is. -/
lemma replaceFrom_append_of_notMem {p : Char} {piece : List Char} (h : p ∉ piece)
    (rest : List Char) : replaceFrom (p :: pattern) by_ 0 (piece ++ rest) =
      piece ++ replaceFrom (p :: pattern) by_ 0 rest := by
  induction piece with
  | nil => rfl
  | cons c piece ih =>
    obtain ⟨hc, hpiece⟩ := not_or.1 (List.mem_cons.not.1 h)
    rw [List.cons_append, replaceFrom_cons_of_not fun hp => hc (List.cons_prefix_cons.1 hp).1,
      ih hpiece, List.cons_append]

lemma replaceFrom_singleton (p : Char) (cs : List Char) :
    replaceFrom [p] by_ 0 cs = cs.flatMap fun c => if c = p then by_ else [c] := by
  induction cs with
  | nil => rfl
  | cons c cs ih =>
    rw [List.flatMap_cons, ← ih]
    split
    · next heq =>
      subst heq
      exact replaceFrom_append (List.cons_ne_nil c []) cs
    · next hne =>
      exact replaceFrom_cons_of_not fun hp => hne (List.cons_prefix_cons.1 hp).1.symm

end

/-- No two characters in a row are left to be replaced. -/
lemma not_infix_replaceFrom_pair {p : Char} {by_ : List Char} (hby : p ∉ by_) (cs : List Char) :
    ¬ [p, p] <:+: replaceFrom [p, p] by_ 0 cs := by
  have hchain : (replaceFrom [p, p] by_ 0 cs).IsChain fun a b => ¬ (a = p ∧ b = p) := by
    induction cs using List.twoStepInduction with
    | nil => exact .nil
    | singleton c =>
      rw [replaceFrom_cons_of_not (by simp)]
      exact .singleton c
    | cons_cons c d rest ih ih' =>
      by_cases hpair : c = p ∧ d = p
      · have hfound : replaceFrom [p, p] by_ 0 (c :: d :: rest) =
            by_ ++ replaceFrom [p, p] by_ 0 rest := by
          rw [hpair.1, hpair.2]
          exact replaceFrom_append (List.cons_ne_nil p [p]) rest
        have hnone : by_.IsChain fun a b => ¬ (a = p ∧ b = p) := by
          refine (List.pairwise_of_forall_mem_list fun a ha b _ => ?_).isChain
          exact fun h => hby (h.1 ▸ ha)
        rw [hfound, List.isChain_append]
        exact ⟨hnone, ih, fun a ha _ _ h => hby (h.1 ▸ List.mem_of_getLast? ha)⟩
      · rw [replaceFrom_cons_of_not (by simpa [List.cons_prefix_cons, eq_comm] using hpair),
          List.isChain_cons]
        refine ⟨fun e he ⟨hc, heq⟩ => ?_, ih' d⟩
        have hd : d ≠ p := fun hd => hpair ⟨hc, hd⟩
        rw [replaceFrom_cons_of_not fun hp => hd (List.cons_prefix_cons.1 hp).1.symm] at he
        exact hd ((Option.some.inj he).trans heq)
  intro hpair
  have hfound : [p, p].IsChain fun a b => ¬ (a = p ∧ b = p) := List.IsChain.infix hchain hpair
  exact (List.isChain_cons_cons.1 hfound).1 ⟨rfl, rfl⟩

@[simp] lemma toList_replaceAll (pattern by_ s : String) :
    (replaceAll pattern by_ s).toList = replaceFrom pattern.toList by_.toList 0 s.toList :=
  String.toList_ofList

/-! ### Line ends -/

/-- Line ends of two characters are replaced first, so that no line is added. -/
theorem unixLineEnds_eq_replaceAll (s : String) :
    String.ofList (unixLineEnds s.toList) = replaceAll "\r" "\n" (replaceAll "\r\n" "\n" s) := by
  have hlist : ∀ cs : List Char, unixLineEnds cs =
      (replaceFrom ['\r', '\n'] ['\n'] 0 cs).flatMap fun c => if c = '\r' then ['\n'] else [c] := by
    intro cs
    induction cs using unixLineEnds.induct with
    | case1 => rfl
    | case2 rest ih =>
      have hend : replaceFrom ['\r', '\n'] ['\n'] 0 ('\r' :: '\n' :: rest) =
          '\n' :: replaceFrom ['\r', '\n'] ['\n'] 0 rest :=
        replaceFrom_append (List.cons_ne_nil '\r' ['\n']) rest
      rw [unixLineEnds, hend, List.flatMap_cons, ← ih]
      rfl
    | case3 rest hrest ih =>
      have hkept : ¬ ['\r', '\n'] <+: '\r' :: rest := by
        rintro ⟨back, hback⟩
        exact hrest back (List.cons.inj hback).2.symm
      rw [unixLineEnds, replaceFrom_cons_of_not hkept, List.flatMap_cons, ← ih]
      · rfl
      · exact hrest
    | case4 c rest hc hc' ih =>
      have hne : c ≠ '\r' := hc'
      have hkept : ¬ ['\r', '\n'] <+: c :: rest := fun hp => hne (List.cons_prefix_cons.1 hp).1.symm
      rw [unixLineEnds, replaceFrom_cons_of_not hkept, List.flatMap_cons, ← ih, if_neg hne]
      · rfl
      · exact hc
      · exact hc'
  apply String.toList_inj.1
  simp [hlist, replaceFrom_singleton]

end Screenwright.Text
