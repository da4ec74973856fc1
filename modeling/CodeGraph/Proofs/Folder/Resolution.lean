import CodeGraph.Proofs.Folder.Writing

/-! What paths lead to, as a relation with one rule for each kind of segment. -/
namespace CodeGraph
namespace Lookup

/-- What the segments lead to from the folder `here`: a place at which there is an entry, or a
fault. Only the last segment can name a file. A link stands for its target, and at most `links` of
them are followed. -/
inductive Leads (top : Entry) : (links : Nat) → (here : Location) → (segments : List Text) →
    (goal : Except PathFault Location) → Prop
  | arrive {links here} : Leads top links here [] (.ok here)
  | stay {links here s rest goal} (hs : s = [] ∨ s = ['.']) (h : Leads top links here rest goal) :
    Leads top links here (s :: rest) goal
  | up {links here rest goal} (h : Leads top links here.dropLast rest goal) :
    Leads top links here (['.', '.'] :: rest) goal
  | long {links here s rest} (hs : nameLimit < byteSize s) :
    Leads top links here (s :: rest) (.error .tooLong)
  | missing {links here s rest} (hs : IsLookedUp s) (hfound : top.at? (here ++ [s]) = none) :
    Leads top links here (s :: rest) (.error .missing)
  | folder {links here s rest goal items} (hs : IsLookedUp s)
    (hfound : top.at? (here ++ [s]) = some (.folder items))
    (h : Leads top links (here ++ [s]) rest goal) : Leads top links here (s :: rest) goal
  | file {links here s content} (hs : IsLookedUp s)
    (hfound : top.at? (here ++ [s]) = some (.file content)) :
    Leads top links here [s] (.ok (here ++ [s]))
  | blocked {links here s rest content} (hs : IsLookedUp s)
    (hfound : top.at? (here ++ [s]) = some (.file content)) (hrest : rest ≠ []) :
    Leads top links here (s :: rest) (.error .notAFolder)
  | link {links here s rest goal target} (hs : IsLookedUp s)
    (hfound : top.at? (here ++ [s]) = some (.link target))
    (h : Leads top links (start here target) (Text.split '/' target ++ rest) goal) :
    Leads top (links + 1) here (s :: rest) goal
  | exhausted {here s rest target} (hs : IsLookedUp s)
    (hfound : top.at? (here ++ [s]) = some (.link target)) :
    Leads top 0 here (s :: rest) (.error .tooManyLinks)

/-- A free name at the end of a path is missing. -/
def existing : Except PathFault (Location × Bool) → Except PathFault Location
  | .ok (place, true) => .ok place
  | .ok (_, false) => .error .missing
  | .error fault => .error fault

variable {top : Entry} {here place : Location} {segments : List Text} {links : Nat}
  {goal : Except PathFault Location}

theorem walk_of_long {s : Text} (hs : nameLimit < byteSize s) (top : Entry) (here : Location)
    (rest : List Text) : walk top here (s :: rest) = .failed .tooLong := by
  obtain ⟨rfl | rfl, -⟩ | ⟨rfl, -⟩ | ⟨-, hlong⟩ | hshort := walk_cons_cases s rest
  · exact absurd hs (by decide)
  · exact absurd hs (by decide)
  · exact absurd hs (by decide)
  · exact hlong top here
  · exact absurd hs (Nat.not_lt.mpr hshort.short)

theorem Leads.existing_eq (h : Leads top links here segments goal) :
    existing (follow top links (walk top here segments)) = goal := by
  induction h with
  | arrive => rw [walk, follow_taken, existing]
  | stay hs _ ih => rwa [walk, if_pos hs]
  | up _ ih =>
    rw [walk, if_neg (by decide), if_pos rfl]
    exact ih
  | long hs => rw [walk_of_long hs, follow_failed, existing]
  | missing hs hfound =>
    rw [(hs.walk_eq ..).1 hfound]
    split_ifs
    · rw [follow_vacant, existing]
    · rw [follow_failed, existing]
  | folder hs hfound _ ih => rwa [(hs.walk_eq ..).2.2.2 _ hfound]
  | file hs hfound =>
    rw [(hs.walk_eq ..).2.1 _ hfound, if_pos List.isEmpty_nil, follow_taken, existing]
  | blocked hs hfound hrest =>
    rw [(hs.walk_eq ..).2.1 _ hfound, if_neg (by simpa using hrest), follow_failed, existing]
  | link hs hfound _ ih => rwa [(hs.walk_eq ..).2.2.1 _ hfound, follow]
  | exhausted hs hfound => rw [(hs.walk_eq ..).2.2.1 _ hfound, follow, existing]

/-- Every link that is followed leaves fewer to follow, and up to the next one every segment leaves
fewer segments. -/
theorem exists_leads (top : Entry) (links : Nat) (here : Location) (segments : List Text) :
    ∃ goal, Leads top links here segments goal := by
  induction links using Nat.strongRecOn generalizing here segments with
  | ind links ihlinks =>
    induction segments generalizing here with
    | nil => exact ⟨_, .arrive⟩
    | cons s rest ih =>
      obtain ⟨hs, -⟩ | ⟨rfl, -⟩ | ⟨hlong, -⟩ | hs := walk_cons_cases s rest
      · obtain ⟨goal, h⟩ := ih here
        exact ⟨goal, .stay hs h⟩
      · obtain ⟨goal, h⟩ := ih here.dropLast
        exact ⟨goal, .up h⟩
      · exact ⟨_, .long hlong⟩
      · cases hfound : top.at? (here ++ [s]) with
        | none => exact ⟨_, .missing hs hfound⟩
        | some e =>
          cases e with
          | folder items =>
            obtain ⟨goal, h⟩ := ih (here ++ [s])
            exact ⟨goal, .folder hs hfound h⟩
          | file content =>
            by_cases hrest : rest = []
            · subst hrest
              exact ⟨_, .file hs hfound⟩
            · exact ⟨_, .blocked hs hfound hrest⟩
          | link target =>
            cases links with
            | zero => exact ⟨_, .exhausted hs hfound⟩
            | succ links =>
              obtain ⟨goal, h⟩ := ihlinks links links.lt_succ_self (start here target)
                (Text.split '/' target ++ rest)
              exact ⟨goal, .link hs hfound h⟩

theorem leads_iff : Leads top links here segments goal ↔
    existing (follow top links (walk top here segments)) = goal := by
  refine ⟨Leads.existing_eq, fun h => ?_⟩
  obtain ⟨goal', h'⟩ := exists_leads top links here segments
  rwa [← h, h'.existing_eq]

theorem Leads.unique {goal' : Except PathFault Location} (h : Leads top links here segments goal)
    (h' : Leads top links here segments goal') : goal = goal' :=
  h.existing_eq.symm.trans h'.existing_eq

/-- Names of folders lead down from one to the next. -/
theorem walk_names {names : List Text} (hnames : ∀ s ∈ names, IsLookedUp s)
    (hfolder : top.HasFolder (here ++ names)) (rest : List Text) :
    walk top here (names ++ rest) = walk top (here ++ names) rest := by
  induction names generalizing here with
  | nil => rw [List.append_nil, List.nil_append]
  | cons s names ih =>
    obtain ⟨hs, hnames⟩ := List.forall_mem_cons.mp hnames
    rw [List.append_cons] at hfolder ⊢
    have hnext : top.HasFolder (here ++ [s]) := by
      obtain ⟨items, hitems⟩ := hfolder
      rcases names with _ | ⟨name, names⟩
      · exact ⟨items, by rwa [List.append_nil] at hitems⟩
      · exact .of_append hitems (List.cons_ne_nil _ _)
    obtain ⟨items, hitems⟩ := hnext
    rw [List.cons_append, (hs.walk_eq ..).2.2.2 items hitems, ih hnames hfolder]

section

variable {path : Text} {bytes : Bytes}

theorem locate_eq_follow (hzero : '\x00' ∉ path) (hempty : path ≠ [])
    (hsize : byteSize path ≤ pathLimit) : locate top here path =
      follow top linkLimit (walk top (start here path) (Text.split '/' path)) := by
  rw [locate, if_neg (by simpa using hzero), if_neg (by simpa using hempty),
    if_neg (Nat.not_lt.mpr hsize)]

variable {folder : Location}
  (h : locate top here path = follow top linkLimit (walk top folder segments))
include h

/-- The content at a path is that of the file to which it leads. -/
theorem content_eq_ok_iff : content top here path = .ok bytes ↔
    ∃ place, Leads top linkLimit folder segments (.ok place) ∧
      top.at? place = some (.file bytes) := by
  simp only [leads_iff]
  rw [content, h]
  have hvacant : ∀ place, follow top linkLimit (walk top folder segments) = .ok (place, false) →
      top.at? place = none := fun _ => follow_eq_vacant fun _ => walk_vacant
  generalize follow top linkLimit (walk top folder segments) = spot at hvacant
  rcases spot with fault | ⟨place, _ | _⟩
  · exact iff_of_false nofun (by simp [existing])
  · have hnone := hvacant place rfl
    simp [existing, bind, Except.bind, hnone]
  · simp only [existing, bind, Except.bind, Except.ok.injEq, exists_eq_left']
    split <;> simp_all

/-- Of all faults in reading a file, a name that is too long is one of the way. -/
theorem content_eq_tooLong_iff : content top here path = .error .tooLong ↔
    Leads top linkLimit folder segments (.error .tooLong) := by
  rw [leads_iff, content, h]
  rcases follow top linkLimit (walk top folder segments) with fault | ⟨place, _ | _⟩
  · simp [existing, bind, Except.bind]
  all_goals
    simp only [existing, bind, Except.bind, reduceCtorEq, iff_false]
    split <;> simp

end

end Lookup
end CodeGraph
