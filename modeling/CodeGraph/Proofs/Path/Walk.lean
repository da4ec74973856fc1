import CodeGraph.Scan.Resolution
import Mathlib.Data.List.TakeWhile

/-! Paths as lists of segments: the walk along the relative path between two files arrives. -/
namespace CodeGraph

namespace Text

theorem split_of_notMem {c : Char} {t : Text} (h : c ∉ t) : split c t = [t] := by
  induction t with
  | nil => rfl
  | cons x t ih =>
    rw [List.mem_cons, not_or] at h
    rw [split, if_neg (Ne.symm h.1), ih h.2]

theorem split_append_cons {c : Char} {t : Text} (h : c ∉ t) (rest : Text) :
    split c (t ++ c :: rest) = t :: split c rest := by
  induction t with
  | nil => rw [List.nil_append, split, if_pos rfl]
  | cons x t ih =>
    rw [List.mem_cons, not_or] at h
    rw [List.cons_append, split, if_neg (Ne.symm h.1), ih h.2]

theorem join_cons {sep p : Text} {ps : List Text} (h : ps ≠ []) :
    join sep (p :: ps) = p ++ sep ++ join sep ps := by
  cases ps with
  | nil => exact absurd rfl h
  | cons q qs => rfl

theorem join_concat {sep : Text} {ps : List Text} (h : ps ≠ []) (p : Text) :
    join sep (ps ++ [p]) = join sep ps ++ sep ++ p := by
  induction ps with
  | nil => exact absurd rfl h
  | cons q qs ih =>
    cases qs with
    | nil => rfl
    | cons r qs =>
      rw [List.cons_append, join_cons (by simp), ih (by simp), join_cons (List.cons_ne_nil r qs)]
      simp only [List.append_assoc]

theorem split_join {c : Char} {ps : List Text} (hne : ps ≠ []) (h : ∀ p ∈ ps, c ∉ p) :
    split c (join [c] ps) = ps := by
  induction ps with
  | nil => exact absurd rfl hne
  | cons p ps ih =>
    have hp : c ∉ p := h p List.mem_cons_self
    cases ps with
    | nil => exact split_of_notMem hp
    | cons q qs =>
      rw [join_cons (by simp), List.append_assoc, List.singleton_append, split_append_cons hp,
        ih (by simp) fun r hr => h r (List.mem_cons_of_mem p hr)]

theorem beforeLast?_append_cons {c : Char} {rest : Text} (t : Text) (h : c ∉ rest) :
    beforeLast? c (t ++ c :: rest) = some t := by
  unfold beforeLast?
  have hdrop : (t ++ c :: rest).reverse.dropWhile (· ≠ c) = c :: t.reverse := by
    rw [List.reverse_append, List.reverse_cons, List.append_assoc, List.singleton_append,
      List.dropWhile_append_of_pos]
    · simp
    · intro x hx
      rw [List.mem_reverse] at hx
      simp only [ne_eq, decide_not, Bool.not_eq_true', decide_eq_false_iff_not]
      rintro rfl
      exact h hx
  rw [hdrop]
  simp

theorem beforeLast?_of_notMem {c : Char} {t : Text} (h : c ∉ t) : beforeLast? c t = none := by
  unfold beforeLast?
  have hdrop : t.reverse.dropWhile (· ≠ c) = [] := by
    rw [List.dropWhile_eq_nil_iff]
    intro x hx
    rw [List.mem_reverse] at hx
    simp only [ne_eq, decide_not, Bool.not_eq_true', decide_eq_false_iff_not]
    rintro rfl
    exact h hx
  rw [hdrop]

theorem notMem_afterLast (c : Char) (t : Text) : c ∉ afterLast c t := by
  unfold afterLast
  rw [List.mem_reverse]
  intro h
  simpa using List.mem_takeWhile_imp h

theorem afterLast_cases (c : Char) (t : Text) :
    t = afterLast c t ∨ ∃ before, t = before ++ c :: afterLast c t := by
  have hparts : t = (t.reverse.dropWhile (· ≠ c)).reverse ++ afterLast c t := by
    unfold afterLast
    rw [← List.reverse_append, List.takeWhile_append_dropWhile, List.reverse_reverse]
  cases hdrop : t.reverse.dropWhile (· ≠ c) with
  | nil =>
    left
    rwa [hdrop] at hparts
  | cons x before =>
    have hx : x = c := by
      have hhead := List.head?_dropWhile_not (fun x => decide (x ≠ c)) t.reverse
      rw [hdrop] at hhead
      simpa using hhead
    right
    refine ⟨before.reverse, ?_⟩
    rwa [hdrop, hx, List.reverse_cons, List.append_assoc] at hparts

end Text

namespace Path

/-- A segment that leads into a folder or to a file. -/
structure IsName (segment : Text) : Prop where
  nonempty : segment ≠ []
  no_slash : '/' ∉ segment
  not_here : segment ≠ ['.']
  not_up : segment ≠ ['.', '.']

instance (segment : Text) : Decidable (IsName segment) :=
  decidable_of_iff
    (segment ≠ [] ∧ '/' ∉ segment ∧ segment ≠ ['.'] ∧ segment ≠ ['.', '.'])
    ⟨fun ⟨h₁, h₂, h₃, h₄⟩ => ⟨h₁, h₂, h₃, h₄⟩, fun ⟨h₁, h₂, h₃, h₄⟩ => ⟨h₁, h₂, h₃, h₄⟩⟩

/-- The path of the segments. -/
def ofNames (segments : List Text) : Text :=
  Text.join "/" segments

/-- The start of a relative path that leads up the given number of folders. -/
def climb : Nat → Text
  | 0 => "./"
  | n + 1 => (List.replicate (n + 1) "../".toList).flatten

theorem folder_ofNames {folders : List Text} {name : Text} (hname : IsName name) :
    folder (ofNames (folders ++ [name])) = ofNames folders := by
  unfold folder ofNames
  by_cases h : folders = []
  · subst h
    rw [List.nil_append]
    change (Text.beforeLast? '/' name).getD [] = []
    rw [Text.beforeLast?_of_notMem hname.no_slash]
    rfl
  · rw [Text.join_concat h, List.append_assoc]
    change (Text.beforeLast? '/' (Text.join "/" folders ++ '/' :: name)).getD [] = _
    rw [Text.beforeLast?_append_cons _ hname.no_slash]
    rfl

theorem split_ofNames {segments : List Text} (h : ∀ s ∈ segments, IsName s) :
    (Text.split '/' (ofNames segments)).filter (!·.isEmpty) = segments := by
  by_cases hne : segments = []
  · subst hne
    rfl
  · have hsplit : Text.split '/' (ofNames segments) = segments :=
      Text.split_join hne fun s hs => (h s hs).no_slash
    rw [hsplit, List.filter_eq_self]
    intro s hs
    simpa using (h s hs).nonempty

theorem foldl_step_names {segments : List Text} (h : ∀ s ∈ segments, IsName s)
    (folders : List Text) : segments.foldl step folders = folders ++ segments := by
  induction segments generalizing folders with
  | nil => simp
  | cons s segments ih =>
    have hs := h s List.mem_cons_self
    rw [List.foldl_cons, step, if_neg hs.not_up, if_neg hs.not_here,
      ih fun t ht => h t (List.mem_cons_of_mem s ht)]
    simp

theorem foldl_step_up (folders : List Text) (n : Nat) (down : List Text) (h : down.length = n) :
    (List.replicate n ['.', '.']).foldl step (folders ++ down) = folders := by
  induction n generalizing down with
  | zero => simp [List.length_eq_zero_iff.mp h]
  | succ n ih =>
    have hne : down ≠ [] := by
      rintro rfl
      simp at h
    rw [List.replicate_succ, List.foldl_cons, step, if_pos rfl,
      List.dropLast_append_of_ne_nil hne]
    exact ih down.dropLast (by rw [List.length_dropLast, h]; rfl)

theorem split_climb (n : Nat) (rest : Text) :
    Text.split '/' (climb n ++ rest) =
      (if n = 0 then [['.']] else List.replicate n ['.', '.']) ++ Text.split '/' rest := by
  have hup : ∀ k, Text.split '/' ((List.replicate k "../".toList).flatten ++ rest) =
      List.replicate k ['.', '.'] ++ Text.split '/' rest := by
    intro k
    induction k with
    | zero => rfl
    | succ k ih =>
      rw [List.replicate_succ, List.flatten_cons, List.append_assoc, List.replicate_succ,
        List.cons_append, ← ih]
      have hdots : '/' ∉ ['.', '.'] := by decide
      exact Text.split_append_cons hdots _
  cases n with
  | zero =>
    have hdot : '/' ∉ ['.'] := by decide
    exact Text.split_append_cons hdot rest
  | succ n => exact hup (n + 1)

/-- From the folder of a file, up to a folder above it and down again to another file. -/
theorem walk_climb {common down rest : List Text} (hcommon : ∀ s ∈ common, IsName s)
    (hdown : ∀ s ∈ down, IsName s) (hrest : ∀ s ∈ rest, IsName s) (hne : rest ≠ []) :
    walk (ofNames (common ++ down)) (climb down.length ++ ofNames rest) =
      ofNames (common ++ rest) := by
  have hfolder : ∀ s ∈ common ++ down, IsName s := by
    intro s hs
    rcases List.mem_append.mp hs with hs | hs
    · exact hcommon s hs
    · exact hdown s hs
  have hsplit : Text.split '/' (ofNames rest) = rest :=
    Text.split_join hne fun s hs => (hrest s hs).no_slash
  have hclimb : (if down.length = 0 then [['.']] else
      List.replicate down.length ['.', '.']).foldl step (common ++ down) = common := by
    split_ifs with h
    · rw [List.length_eq_zero_iff.mp h]
      simp [step]
    · exact foldl_step_up common _ down rfl
  unfold walk
  simp only
  rw [split_ofNames hfolder, split_climb, List.foldl_append, hclimb, hsplit,
    foldl_step_names hrest]
  rfl

/-- A relative path from one file to another: from the folder of the first up to a folder that holds
both, then down to the second. -/
inductive Leads : (source relative target : Text) → Prop
  | mk (common down rest : List Text) (name : Text) (common_names : ∀ s ∈ common, IsName s)
      (down_names : ∀ s ∈ down, IsName s) (is_name : IsName name)
      (rest_names : ∀ s ∈ rest, IsName s) (arrives : rest ≠ []) :
      Leads (ofNames (common ++ down ++ [name])) (climb down.length ++ ofNames rest)
        (ofNames (common ++ rest))

theorem Leads.walk_folder {source relative target : Text} (h : Leads source relative target) :
    walk (folder source) relative = target := by
  cases h with
  | mk common down rest name hcommon hdown hname hrest hne =>
    rw [folder_ofNames hname]
    exact walk_climb hcommon hdown hrest hne

theorem Leads.starts {source relative target : Text} (h : Leads source relative target) :
    ∃ behind, relative = '.' :: behind := by
  cases h with
  | mk common down rest name =>
    cases down with
    | nil => exact ⟨_, rfl⟩
    | cons s down => exact ⟨_, rfl⟩

end Path
end CodeGraph
