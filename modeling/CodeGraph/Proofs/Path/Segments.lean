import CodeGraph.Proofs.Path.Walk
import Mathlib.Data.List.Basic

/-! Paths by their segments: splitting and joining undo each other, normal paths, and the segments
that a walk reaches. -/
namespace CodeGraph

namespace Text

theorem split_cons_self (c : Char) (t : Text) : split c (c :: t) = [] :: split c t := by
  rw [split, if_pos rfl]

theorem split_cons_of_ne {c x : Char} (h : x ≠ c) (t : Text) :
    ∃ p ps, split c t = p :: ps ∧ split c (x :: t) = (x :: p) :: ps := by
  rw [split, if_neg h]
  induction t with
  | nil => exact ⟨[], [], rfl, rfl⟩
  | cons y t ih =>
    by_cases hy : y = c
    · rw [hy, split_cons_self]
      exact ⟨[], split c t, rfl, rfl⟩
    · obtain ⟨p, ps, hsplit, -⟩ := ih
      rw [split, if_neg hy, hsplit]
      exact ⟨y :: p, ps, rfl, rfl⟩

theorem split_ne_nil (c : Char) (t : Text) : split c t ≠ [] := by
  cases t with
  | nil => exact List.cons_ne_nil _ _
  | cons x t =>
    by_cases hx : x = c
    · rw [hx, split_cons_self]
      exact List.cons_ne_nil _ _
    · obtain ⟨p, ps, -, hcons⟩ := split_cons_of_ne hx t
      rw [hcons]
      exact List.cons_ne_nil _ _

theorem join_split (c : Char) (t : Text) : join [c] (split c t) = t := by
  induction t with
  | nil => rfl
  | cons x t ih =>
    by_cases hx : x = c
    · rw [hx, split_cons_self, join_cons (split_ne_nil c t), ih]
      rfl
    · obtain ⟨p, ps, hsplit, hcons⟩ := split_cons_of_ne hx t
      rw [hsplit] at ih
      rw [hcons, ← ih]
      cases ps <;> rfl

theorem split_append (c : Char) (t rest : Text) :
    split c (t ++ c :: rest) = split c t ++ split c rest := by
  induction t with
  | nil => exact split_cons_self c rest
  | cons x t ih =>
    by_cases hx : x = c
    · rw [hx, List.cons_append, split_cons_self, split_cons_self, ih]
      rfl
    · obtain ⟨p, ps, hsplit, hcons⟩ := split_cons_of_ne hx t
      rw [hsplit, List.cons_append] at ih
      rw [hcons, List.cons_append, List.cons_append, split, if_neg hx, ih]

theorem notMem_of_mem_split {c : Char} {t p : Text} (h : p ∈ split c t) : c ∉ p := by
  induction t generalizing p with
  | nil =>
    rw [List.mem_singleton.mp h]
    exact List.not_mem_nil
  | cons x t ih =>
    by_cases hx : x = c
    · rw [hx, split_cons_self] at h
      rcases List.mem_cons.mp h with rfl | h
      · exact List.not_mem_nil
      · exact ih h
    · obtain ⟨q, ps, hsplit, hcons⟩ := split_cons_of_ne hx t
      rw [hsplit] at ih
      rw [hcons] at h
      rcases List.mem_cons.mp h with rfl | h
      · rw [List.mem_cons, not_or]
        exact ⟨Ne.symm hx, ih List.mem_cons_self⟩
      · exact ih (List.mem_cons_of_mem q h)

theorem mem_join {sep : Text} {ps : List Text} {x : Char} (h : x ∈ join sep ps) :
    x ∈ sep ∨ ∃ p ∈ ps, x ∈ p := by
  induction ps with
  | nil => exact absurd h List.not_mem_nil
  | cons p ps ih =>
    cases ps with
    | nil => exact Or.inr ⟨p, List.mem_cons_self, h⟩
    | cons q qs =>
      rw [join_cons (List.cons_ne_nil q qs), List.mem_append, List.mem_append] at h
      rcases h with (h | h) | h
      · exact Or.inr ⟨p, List.mem_cons_self, h⟩
      · exact Or.inl h
      · exact (ih h).imp_right fun ⟨r, hr, hx⟩ => ⟨r, List.mem_cons_of_mem p hr, hx⟩

theorem mem_join_of_mem {sep p : Text} {ps : List Text} {x : Char} (hp : p ∈ ps) (hx : x ∈ p) :
    x ∈ join sep ps := by
  induction ps with
  | nil => exact absurd hp List.not_mem_nil
  | cons q qs ih =>
    cases qs with
    | nil => rwa [← List.mem_singleton.mp hp]
    | cons r rs =>
      rw [join_cons (List.cons_ne_nil r rs), List.mem_append, List.mem_append]
      rcases List.mem_cons.mp hp with rfl | hp
      · exact Or.inl (Or.inl hx)
      · exact Or.inr (ih hp)

theorem afterLast_append_cons {c : Char} {rest : Text} (t : Text) (h : c ∉ rest) :
    afterLast c (t ++ c :: rest) = rest := by
  unfold afterLast
  rw [List.reverse_append, List.reverse_cons, List.append_assoc, List.singleton_append,
    List.takeWhile_append_of_pos]
  · simp
  · intro x hx
    rw [List.mem_reverse] at hx
    simp only [ne_eq, decide_not, Bool.not_eq_true', decide_eq_false_iff_not]
    rintro rfl
    exact h hx

theorem exists_eq_append_afterLast {c : Char} {t : Text} (h : c ∈ t) :
    ∃ before, t = before ++ c :: afterLast c t :=
  (afterLast_cases c t).resolve_left fun hwhole => notMem_afterLast c t (hwhole ▸ h)

theorem afterLast_append {c : Char} {t : Text} (s : Text) (h : c ∈ t) :
    afterLast c (s ++ t) = afterLast c t := by
  obtain ⟨before, ht⟩ := exists_eq_append_afterLast h
  conv_lhs => rw [ht, ← List.append_assoc]
  exact afterLast_append_cons _ (notMem_afterLast c t)

end Text

namespace Path

theorem split_ofNames_eq {segments : List Text} (hne : segments ≠ [])
    (h : ∀ s ∈ segments, '/' ∉ s) : Text.split '/' (ofNames segments) = segments :=
  Text.split_join hne h

/-- A path is a file name, alone or behind its folder and a slash. -/
theorem folder_fileName_cases (path : Text) :
    folder path = [] ∧ fileName path = path ∨ path = folder path ++ '/' :: fileName path := by
  have hname : '/' ∉ fileName path := Text.notMem_afterLast '/' path
  rcases Text.afterLast_cases '/' path with hwhole | ⟨before, hpath⟩
  · left
    have hfile : fileName path = path := hwhole.symm
    rw [hfile] at hname
    refine ⟨?_, hfile⟩
    rw [folder, Text.beforeLast?_of_notMem hname]
    rfl
  · right
    have hfolder : folder path = before := by
      rw [folder, hpath, Text.beforeLast?_append_cons before (Text.notMem_afterLast '/' path)]
      rfl
    rw [hfolder]
    exact hpath

theorem mem_iff_folder_or_fileName {path : Text} {c : Char} (hc : c ≠ '/') :
    c ∈ path ↔ c ∈ folder path ∨ c ∈ fileName path := by
  rcases folder_fileName_cases path with ⟨hfolder, hfile⟩ | hpath
  · rw [hfolder, hfile]
    simp
  · conv_lhs => rw [hpath]
    rw [List.mem_append, List.mem_cons, or_iff_right hc]

/-- A path of names, as that of a file from the top. -/
def IsNormal (path : Text) : Prop :=
  ∃ segments, segments ≠ [] ∧ (∀ s ∈ segments, IsName s) ∧ path = ofNames segments

theorem isNormal_iff {path : Text} : IsNormal path ↔ ∀ s ∈ Text.split '/' path, IsName s := by
  constructor
  · rintro ⟨segments, hne, hnames, rfl⟩
    rwa [split_ofNames_eq hne fun s hs => (hnames s hs).no_slash]
  · intro hnames
    exact ⟨_, Text.split_ne_nil '/' path, hnames, (Text.join_split '/' path).symm⟩

instance (path : Text) : Decidable (IsNormal path) :=
  decidable_of_iff _ isNormal_iff.symm

def dropEmpty (segments : List Text) : List Text :=
  segments.filter (!·.isEmpty)

@[simp] theorem dropEmpty_nil : dropEmpty [] = [] := rfl

@[simp] theorem dropEmpty_empty (segments : List Text) :
    dropEmpty ([] :: segments) = dropEmpty segments := rfl

@[simp] theorem dropEmpty_cons (c : Char) (s : Text) (segments : List Text) :
    dropEmpty ((c :: s) :: segments) = (c :: s) :: dropEmpty segments := rfl

/-- The segments of a path that are not empty. -/
def parts (path : Text) : List Text :=
  dropEmpty (Text.split '/' path)

/-- The segments of the path that is reached from a folder. -/
def reached (folder relative : Text) : List Text :=
  (Text.split '/' relative).foldl step (parts folder)

theorem walk_eq (folder relative : Text) :
    walk folder relative = ofNames (reached folder relative) := rfl

theorem mem_parts {path s : Text} : s ∈ parts path ↔ s ∈ Text.split '/' path ∧ s ≠ [] := by
  simp [parts, dropEmpty]

theorem no_slash_of_mem_parts {path s : Text} (h : s ∈ parts path) : '/' ∉ s :=
  Text.notMem_of_mem_split (mem_parts.mp h).1

/-- A walk makes up no segments. -/
theorem mem_foldl_step {at_ segments : List Text} {s : Text} (h : s ∈ segments.foldl step at_) :
    s ∈ at_ ∨ s ∈ segments := by
  induction segments generalizing at_ with
  | nil => exact Or.inl h
  | cons t segments ih =>
    rcases ih h with hstep | hmem
    · unfold step at hstep
      split_ifs at hstep
      · exact Or.inl (at_.dropLast_subset hstep)
      · exact Or.inl hstep
      · rcases List.mem_append.mp hstep with hat | hnew
        · exact Or.inl hat
        · exact Or.inr (List.mem_singleton.mp hnew ▸ List.mem_cons_self)
    · exact Or.inr (List.mem_cons_of_mem t hmem)

theorem no_slash_of_mem_reached {folder relative s : Text} (h : s ∈ reached folder relative) :
    '/' ∉ s := by
  rcases mem_foldl_step h with hfolder | hrelative
  · exact no_slash_of_mem_parts hfolder
  · exact Text.notMem_of_mem_split hrelative

end Path
end CodeGraph
