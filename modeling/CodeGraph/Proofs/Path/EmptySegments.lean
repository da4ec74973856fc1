import CodeGraph.Proofs.Registry.Endings

/-! Empty segments, between doubled slashes and behind a last one. Those of the folder that a walk
starts from do not count; those of the relative path are kept as if they were names. -/
namespace CodeGraph

namespace Path

/-- The path without its empty segments. -/
def withoutEmpty (path : Text) : Text :=
  ofNames (parts path)

/-- How often segments lead up from the top, where nothing is left to leave. -/
def wasted : (at_ segments : List Text) → Nat
  | _, [] => 0
  | at_, s :: segments =>
    (if s = ['.', '.'] ∧ at_ = [] then 1 else 0) + wasted (step at_ s) segments

theorem parts_withoutEmpty (path : Text) : parts (withoutEmpty path) = parts path := by
  unfold withoutEmpty
  by_cases hne : parts path = []
  · rw [hne]
    rfl
  · rw [parts, split_ofNames_eq hne fun _ => no_slash_of_mem_parts, dropEmpty, List.filter_eq_self]
    intro s hs
    simpa using (mem_parts.mp hs).2

theorem ofNames_eq_nil_iff {segments : List Text} :
    ofNames segments = [] ↔ segments = [] ∨ segments = [[]] := by
  cases segments with
  | nil => simp [ofNames, Text.join]
  | cons s segments =>
    cases segments with
    | nil => simp [ofNames, Text.join]
    | cons t segments => simp [ofNames, Text.join]

/-! The walk with and without the empty segments, step by step. -/

theorem step_sublist {a b : List Text} (h : a.Sublist b) (s : Text) :
    (step a s).Sublist (step b s) := by
  unfold step
  split_ifs
  · rw [← List.reverse_sublist, ← List.tail_reverse, ← List.tail_reverse]
    exact h.reverse.tail
  · exact h
  · exact h.append_right [s]

theorem step_empty (at_ : List Text) : step at_ [] = at_ ++ [[]] := rfl

theorem length_step (at_ : List Text) (s : Text) :
    (step at_ s).length + (if s = ['.', '.'] then 1 else 0) =
      at_.length + (if s = ['.', '.'] ∧ at_ = [] then 1 else 0) +
        if s = ['.', '.'] ∨ s = ['.'] then 0 else 1 := by
  by_cases hup : s = ['.', '.']
  · cases at_ <;> simp [step, hup]
  · by_cases hhere : s = ['.'] <;> simp [step, hup, hhere]

theorem foldl_step_sublist {a b : List Text} (h : a.Sublist b) (segments : List Text) :
    ((dropEmpty segments).foldl step a).Sublist (segments.foldl step b) := by
  induction segments generalizing a b with
  | nil => exact h
  | cons s segments ih =>
    cases s with
    | nil => exact ih (h.trans (List.sublist_append_left b [[]]))
    | cons c s => exact ih (step_sublist h (c :: s))

theorem wasted_nil (at_ : List Text) : wasted at_ [] = 0 := rfl

theorem wasted_cons (at_ segments : List Text) (s : Text) : wasted at_ (s :: segments) =
    (if s = ['.', '.'] ∧ at_ = [] then 1 else 0) + wasted (step at_ s) segments := rfl

/-- Each empty segment makes the walk one segment longer, unless that spares it a step up from the
top. -/
theorem length_foldl_step (a b segments : List Text) :
    (segments.foldl step b).length + wasted a (dropEmpty segments) + a.length =
      ((dropEmpty segments).foldl step a).length + segments.count [] +
        wasted b segments + b.length := by
  induction segments generalizing a b with
  | nil =>
    simp only [dropEmpty_nil, List.foldl_nil, List.count_nil, wasted_nil]
    omega
  | cons s segments ih =>
    cases s with
    | nil =>
      -- Only the walk with the empty segments takes this step.
      have hrest := ih a (step b [])
      have hb : (step b []).length = b.length + 1 := by
        rw [step_empty, List.length_append, List.length_singleton]
      have hwasted : wasted b ([] :: segments) = wasted (step b []) segments := by
        rw [wasted_cons, if_neg (by simp), Nat.zero_add]
      rw [dropEmpty_empty, hwasted, List.foldl_cons, List.count_cons_self]
      omega
    | cons c s =>
      have hrest := ih (step a (c :: s)) (step b (c :: s))
      have ha := length_step a (c :: s)
      have hb := length_step b (c :: s)
      rw [dropEmpty_cons, List.foldl_cons, List.foldl_cons, wasted_cons, wasted_cons,
        List.count_cons_of_ne (List.cons_ne_nil c s)]
      omega

/-! What a walk reaches with and without the empty segments of the relative path. -/

section

variable (folder : Text) {relative : Text} (h : parts relative ≠ [])
include h

theorem reached_withoutEmpty :
    reached folder (withoutEmpty relative) = (parts relative).foldl step (parts folder) := by
  rw [reached, withoutEmpty, split_ofNames_eq h fun _ => no_slash_of_mem_parts]

theorem length_reached :
    (reached folder relative).length + wasted (parts folder) (parts relative) =
      (reached folder (withoutEmpty relative)).length + (Text.split '/' relative).count [] +
        wasted (parts folder) (Text.split '/' relative) := by
  rw [reached_withoutEmpty folder h]
  exact Nat.add_right_cancel (length_foldl_step (parts folder) (parts folder) _)

/-- Without its empty segments a relative path reaches no other segments, but maybe fewer. -/
theorem reached_withoutEmpty_sublist :
    (reached folder (withoutEmpty relative)).Sublist (reached folder relative) := by
  rw [reached_withoutEmpty folder h]
  exact foldl_step_sublist (List.Sublist.refl _) _

theorem empty_notMem_reached_withoutEmpty : [] ∉ reached folder (withoutEmpty relative) := by
  rw [reached_withoutEmpty folder h]
  intro hmem
  rcases mem_foldl_step hmem with hfolder | hrelative
  · exact (mem_parts.mp hfolder).2 rfl
  · exact (mem_parts.mp hrelative).2 rfl

/-- The walk reaches the same segments if each empty segment spares it a step up from the top. -/
theorem reached_withoutEmpty_eq_iff :
    reached folder (withoutEmpty relative) = reached folder relative ↔
      (Text.split '/' relative).count [] + wasted (parts folder) (Text.split '/' relative) =
        wasted (parts folder) (parts relative) := by
  have hlength := length_reached folder h
  constructor
  · intro heq
    rw [heq] at hlength
    omega
  · intro hcount
    exact (reached_withoutEmpty_sublist folder h).eq_of_length (by omega)

/-- At the top alone, an empty segment more does not show. -/
theorem walk_withoutEmpty_eq_iff :
    walk folder (withoutEmpty relative) = walk folder relative ↔
      reached folder (withoutEmpty relative) = reached folder relative ∨
        walk folder relative = [] := by
  have hfull := empty_notMem_reached_withoutEmpty folder h
  rw [walk_eq, walk_eq]
  constructor
  · intro heq
    by_cases hnil : ofNames (reached folder relative) = []
    · exact Or.inr hnil
    · left
      have hclean : ofNames (reached folder (withoutEmpty relative)) ≠ [] := heq ▸ hnil
      rw [ofNames_eq_nil_iff, not_or] at hnil
      rw [ne_eq, ofNames_eq_nil_iff, not_or] at hclean
      have hsplit := congrArg (Text.split '/') heq
      rwa [split_ofNames_eq hclean.1 fun _ => no_slash_of_mem_reached,
        split_ofNames_eq hnil.1 fun _ => no_slash_of_mem_reached] at hsplit
  · rintro (heq | hnil)
    · rw [heq]
    · have hsublist : (reached folder (withoutEmpty relative)).Sublist [[]] := by
        refine (reached_withoutEmpty_sublist folder h).trans ?_
        rcases ofNames_eq_nil_iff.mp hnil with hempty | hempty
        · rw [hempty]
          exact List.nil_sublist _
        · rw [hempty]
      have hclean : reached folder (withoutEmpty relative) = [] := by
        refine (List.sublist_singleton.mp hsublist).resolve_right fun heq => ?_
        rw [heq] at hfull
        exact hfull List.mem_cons_self
      rw [hclean, hnil]
      rfl

end

end Path

theorem Specifier.parts_ne_nil {path : Text} (h : isRelative path = true) :
    Path.parts path ≠ [] := by
  cases path with
  | nil => exact absurd h (by decide)
  | cons c path =>
    have hc : '.' = c := by simpa [isRelative, Text.startsWith] using h
    have hslash : c ≠ '/' := hc ▸ by decide
    obtain ⟨p, ps, -, hsplit⟩ := Text.split_cons_of_ne hslash path
    rw [Path.parts, hsplit]
    exact List.cons_ne_nil _ _

namespace Registry

/-- What empty segments do. Those of the folder do not count. Those of a relative path do not count
either just if it leads to the top, or each of them spares a step up that would be lost there.
Behind a last slash one more segment is reached, and `..` behind an empty segment takes only that
one back. -/
structure KeepsEmpty (folder relative : Text) : Prop where
  folder_neutral : ∀ r : Registry,
    r.resolvePath (Path.withoutEmpty folder) relative = r.resolvePath folder relative
  relative_neutral_iff : (∀ r : Registry,
      r.resolvePath folder (Path.withoutEmpty relative) = r.resolvePath folder relative) ↔
    (Text.split '/' relative).count [] +
        Path.wasted (Path.parts folder) (Text.split '/' relative) =
      Path.wasted (Path.parts folder) (Path.parts relative) ∨ Path.walk folder relative = []
  trailing : Path.reached folder (relative ++ "/") = Path.reached folder relative ++ [[]]
  taken_back : Path.reached folder (relative ++ "//..") = Path.reached folder relative

/-- Where nothing is indexed, a relative path stands for the path that it leads to. -/
theorem resolvePath_empty (folder relative : Text) :
    ({} : Registry).resolvePath folder relative = Path.walk folder relative := by
  by_cases hdot : '.' ∈ Path.walk folder relative
  · exact resolvePath_of_dot hdot
  · have hnone : Path.suffixes.find? (fun e =>
        ({} : Registry).isIndexed (Path.walk folder relative ++ e)) = none :=
      List.find?_eq_none.mpr fun _ _ => Bool.false_ne_true
    rw [resolvePath_of_no_dot hdot, hnone]
    exact List.append_nil _

theorem resolvePath_keepsEmpty (folder : Text) {relative : Text}
    (h : Specifier.isRelative relative = true) : KeepsEmpty folder relative where
  folder_neutral := by
    refine resolvePath_of_walk_eq ?_
    rw [Path.walk_eq, Path.walk_eq, Path.reached, Path.parts_withoutEmpty, Path.reached]
  relative_neutral_iff := by
    have hparts := Specifier.parts_ne_nil h
    rw [← Path.reached_withoutEmpty_eq_iff folder hparts,
      ← Path.walk_withoutEmpty_eq_iff folder hparts]
    constructor
    · intro hneutral
      have hempty := hneutral {}
      rwa [resolvePath_empty, resolvePath_empty] at hempty
    · exact resolvePath_of_walk_eq
  trailing := by
    have hsplit : Text.split '/' (relative ++ "/") = Text.split '/' relative ++ [[]] :=
      Text.split_append '/' relative []
    rw [Path.reached, hsplit, List.foldl_append]
    rfl
  taken_back := by
    have hsplit : Text.split '/' (relative ++ "//..") =
        Text.split '/' relative ++ [[], ['.', '.']] := Text.split_append '/' relative "/.."
    rw [Path.reached, hsplit, List.foldl_append]
    exact List.dropLast_concat

/-- A folder with an index file, which an import with a slash at its end does not find. -/
theorem not_resolvePath_withoutEmpty :
    ¬ ∀ (r : Registry) (folder relative : Text), Specifier.isRelative relative = true →
      r.resolvePath folder (Path.withoutEmpty relative) = r.resolvePath folder relative := by
  intro h
  have hsame := h (ofPaths ["src/lib/index.js"]) "src" "./lib/" (by decide)
  have hdiffers : (ofPaths ["src/lib/index.js"]).resolvePath "src" (Path.withoutEmpty "./lib/") ≠
      (ofPaths ["src/lib/index.js"]).resolvePath "src" "./lib/" := by decide +kernel
  exact hdiffers hsame

theorem resolvePath_keepsEmpty_parent :
    Specifier.isRelative ".//.." = true ∧ KeepsEmpty "src" ".//.." ∧
    (¬ ∀ r : Registry,
      r.resolvePath "src" (Path.withoutEmpty ".//..") = r.resolvePath "src" ".//..") ∧
    ∀ r : Registry, r.resolvePath [] (Path.withoutEmpty ".//..") = r.resolvePath [] ".//.." := by
  have hrelative : Specifier.isRelative ".//.." = true := by decide
  have hsrc := resolvePath_keepsEmpty "src" hrelative
  have htop := resolvePath_keepsEmpty [] hrelative
  refine ⟨hrelative, hsrc, ?_, ?_⟩
  · rw [hsrc.relative_neutral_iff]
    decide
  · rw [htop.relative_neutral_iff]
    decide

end Registry
end CodeGraph
