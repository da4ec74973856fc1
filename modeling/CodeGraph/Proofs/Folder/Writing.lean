import CodeGraph.Folder.Lookup
import CodeGraph.Proofs.Faults

/-! A file that is written at a path is what the path leads to afterwards. The path may lead over
links and through parents: none of the entries on its way changes, since each of them is a folder or
a link, and the place of the file is neither. -/
namespace CodeGraph
namespace Entry

theorem lookup_setItem (name : Text) (e : Entry) (items : List (Text × Entry)) :
    (setItem name e items).lookup name = some e := by
  induction items with
  | nil => exact List.lookup_cons_self
  | cons item items ih =>
    obtain ⟨n, x⟩ := item
    rw [setItem]
    split_ifs with h
    · exact List.lookup_cons_self
    · rw [List.lookup_cons, beq_false_of_ne (Ne.symm h)]
      exact ih

theorem lookup_setItem_of_ne {n name : Text} (h : n ≠ name) (e : Entry)
    (items : List (Text × Entry)) : (setItem name e items).lookup n = items.lookup n := by
  induction items with
  | nil => rw [setItem, List.lookup_cons, beq_false_of_ne h]
  | cons item items ih =>
    obtain ⟨m, x⟩ := item
    rw [setItem]
    split_ifs with hm
    · subst hm
      rw [List.lookup_cons, List.lookup_cons, beq_false_of_ne h]
    · rw [List.lookup_cons, List.lookup_cons, ih]

theorem at?_cons (name : Text) (rest : Location) (e : Entry) :
    e.at? (name :: rest) = (e.items.lookup name).bind (at? rest) := rfl

theorem at?_append (place rest : Location) (e : Entry) :
    e.at? (place ++ rest) = (e.at? place).bind (at? rest) := by
  induction place generalizing e with
  | nil => rfl
  | cons name place ih =>
    rw [List.cons_append, at?_cons, at?_cons, Option.bind_assoc]
    exact Option.bind_congr fun e' _ => ih e'

def HasFolder (top : Entry) (place : Location) : Prop :=
  ∃ items, top.at? place = some (.folder items)

theorem HasFolder.of_append {top : Entry} {place rest : Location} {e : Entry}
    (h : top.at? (place ++ rest) = some e) (hrest : rest ≠ []) : top.HasFolder place := by
  obtain ⟨name, rest, rfl⟩ := List.exists_cons_of_ne_nil hrest
  rw [at?_append] at h
  obtain ⟨e', he', h⟩ := Option.bind_eq_some_iff.mp h
  cases e' with
  | folder items => exact ⟨items, he'⟩
  | file content => cases h
  | link target => cases h

theorem HasFolder.dropLast {top : Entry} {place : Location} (h : top.HasFolder place) :
    top.HasFolder place.dropLast := by
  rcases List.eq_nil_or_concat' place with rfl | ⟨place, name, rfl⟩
  · exact h
  · obtain ⟨items, hitems⟩ := h
    rw [List.dropLast_concat]
    exact .of_append hitems (List.cons_ne_nil _ _)

@[simp] theorem at?_put (place : Location) (top new : Entry) :
    (top.put place new).at? place = some new := by
  induction place generalizing top with
  | nil => rfl
  | cons name place ih =>
    rw [put, at?_cons, items, lookup_setItem, Option.bind_some, ih]

/-- Below what has no items there is nothing. -/
theorem at?_eq_none {e : Entry} (he : e.items = []) {rest : Location} (hrest : rest ≠ []) :
    e.at? rest = none := by
  obtain ⟨name, rest, rfl⟩ := List.exists_cons_of_ne_nil hrest
  rw [at?_cons, he]
  rfl

theorem at?_put_apart {place q : Location} (hq : ¬q <+: place) (hplace : ¬place <+: q)
    (top new : Entry) : (top.put place new).at? q = top.at? q := by
  induction place generalizing top q with
  | nil => exact absurd List.nil_prefix hplace
  | cons name place ih =>
    cases q with
    | nil => exact absurd List.nil_prefix hq
    | cons n q =>
      rw [put, at?_cons, at?_cons, items]
      by_cases hn : n = name
      · subst hn
        rw [List.prefix_cons_inj] at hq hplace
        rw [lookup_setItem, Option.bind_some, ih hq hplace]
        cases top.items.lookup n with
        | some child => rfl
        | none => exact at?_eq_none rfl fun h => hq (h ▸ List.nil_prefix)
      · rw [lookup_setItem_of_ne hn]

/-- A folder at a free place leaves every folder a folder. -/
theorem HasFolder.put_folder {top : Entry} {place q : Location} (hfree : top.at? place = none)
    (h : top.HasFolder q) : (top.put place (.folder [])).HasFolder q := by
  obtain ⟨items, hitems⟩ := h
  by_cases habove : q <+: place
  · obtain ⟨rest, rfl⟩ := habove
    refine .of_append (at?_put _ top (.folder [])) ?_
    rintro rfl
    rw [List.append_nil, hitems] at hfree
    cases hfree
  by_cases hbelow : place <+: q
  · obtain ⟨rest, rfl⟩ := hbelow
    rw [at?_append, hfree] at hitems
    cases hitems
  · exact ⟨items, by rw [at?_put_apart habove hbelow, hitems]⟩

/-- A place for a file: a name in a folder, under which there is no folder and no link. -/
structure IsSpot (top : Entry) (place : Location) : Prop where
  parent : ∃ folder name, place = folder ++ [name] ∧ top.HasFolder folder
  free : ∀ e, top.at? place = some e → e.isFile = true

variable {top : Entry} {place : Location}

theorem IsSpot.hasFolder_above (h : top.IsSpot place) {q : Location} (hq : q <+: place)
    (hne : q ≠ place) : top.HasFolder q := by
  obtain ⟨folder, name, rfl, items, hitems⟩ := h.parent
  obtain ⟨rest, rfl⟩ := (List.prefix_concat_iff.mp hq).resolve_left hne
  by_cases hrest : rest = []
  · subst hrest
    rw [List.append_nil] at hitems
    exact ⟨items, hitems⟩
  · exact .of_append hitems hrest

/-- A file that is put into its place leaves every folder a folder and all else as it was. -/
theorem IsSpot.at?_put_of_ne (h : top.IsSpot place) (content : Bytes) {q : Location}
    (hq : q ≠ place) : (top.put place (.file content)).at? q = top.at? q ∨
      top.HasFolder q ∧ (top.put place (.file content)).HasFolder q := by
  have hput := at?_put place top (.file content)
  by_cases hbelow : place <+: q
  · obtain ⟨rest, rfl⟩ := hbelow
    have hrest : rest ≠ [] := by
      rintro rfl
      exact hq (List.append_nil place)
    left
    rw [at?_append, at?_append, hput, Option.bind_some, at?_eq_none rfl hrest]
    cases hplace : top.at? place with
    | none => rfl
    | some e =>
      have hitems : e.items = [] := by
        cases e with
        | file old => rfl
        | link target => rfl
        | folder items => cases h.free _ hplace
      rw [Option.bind_some, at?_eq_none hitems hrest]
  by_cases habove : q <+: place
  · right
    refine ⟨h.hasFolder_above habove hq, ?_⟩
    obtain ⟨rest, rfl⟩ := habove
    refine .of_append hput ?_
    rintro rfl
    exact hq (List.append_nil q).symm
  · exact .inl (at?_put_apart habove hbelow top _)

end Entry

namespace Lookup

variable {top : Entry} {here place : Location} {segments : List Text}

namespace Stop

/-- Every walk from a folder stops at a folder, at a place for a file, or at a link in a folder. -/
def IsSound (top : Entry) : Stop → Prop
  | .taken place => top.HasFolder place ∨ top.IsSpot place
  | .vacant place => top.IsSpot place
  | .link folder _ _ => top.HasFolder folder
  | .failed _ => True

/-- Where the walk stops when there is a file at a place. -/
def filled (place : Location) : Stop → Stop
  | .vacant p => if p = place then .taken p else .vacant p
  | stop => stop

end Stop

/-- A segment that is looked up in a folder, and that is not too long for a name. -/
structure IsLookedUp (segment : Text) : Prop where
  nonempty : segment ≠ []
  not_here : segment ≠ ['.']
  not_up : segment ≠ ['.', '.']
  short : byteSize segment ≤ nameLimit

/-- What is found decides how a walk goes on. -/
theorem IsLookedUp.walk_eq {s : Text} (hs : IsLookedUp s) (segments : List Text) (top : Entry)
    (here : Location) :
    (top.at? (here ++ [s]) = none →
      walk top here (s :: segments) =
        if segments.isEmpty then .vacant (here ++ [s]) else .failed .missing) ∧
    (∀ content, top.at? (here ++ [s]) = some (.file content) →
      walk top here (s :: segments) =
        if segments.isEmpty then .taken (here ++ [s]) else .failed .notAFolder) ∧
    (∀ target, top.at? (here ++ [s]) = some (.link target) →
      walk top here (s :: segments) = .link here target segments) ∧
    ∀ items, top.at? (here ++ [s]) = some (.folder items) →
      walk top here (s :: segments) = walk top (here ++ [s]) segments := by
  rw [walk, if_neg (not_or_intro hs.nonempty hs.not_here), if_neg hs.not_up,
    if_neg (Nat.not_lt.mpr hs.short)]
  refine ⟨?_, ?_, ?_, ?_⟩ <;> intros <;> simp only [*]

/-- Every segment stays, climbs, or names what is looked up. -/
theorem walk_cons_cases (s : Text) (segments : List Text) :
    ((s = [] ∨ s = ['.']) ∧ ∀ top here, walk top here (s :: segments) = walk top here segments) ∨
    (s = ['.', '.'] ∧
      ∀ top here, walk top here (s :: segments) = walk top here.dropLast segments) ∨
    (nameLimit < byteSize s ∧ ∀ top here, walk top here (s :: segments) = .failed .tooLong) ∨
    IsLookedUp s := by
  by_cases hstay : s = [] ∨ s = ['.']
  · exact .inl ⟨hstay, fun top here => by rw [walk, if_pos hstay]⟩
  by_cases hup : s = ['.', '.']
  · exact .inr (.inl ⟨hup, fun top here => by rw [walk, if_neg hstay, if_pos hup]⟩)
  by_cases hsize : nameLimit < byteSize s
  · refine .inr (.inr (.inl ⟨hsize, fun top here => ?_⟩))
    rw [walk, if_neg hstay, if_neg hup, if_pos hsize]
  · obtain ⟨hnonempty, hhere⟩ := not_or.mp hstay
    exact .inr (.inr (.inr ⟨hnonempty, hhere, hup, Nat.not_lt.mp hsize⟩))

theorem walk_isSound (hhere : top.HasFolder here) : (walk top here segments).IsSound top := by
  induction segments generalizing here with
  | nil => exact .inl hhere
  | cons s segments ih =>
    obtain ⟨-, hstay⟩ | ⟨-, hup⟩ | ⟨-, hlong⟩ | hs := walk_cons_cases s segments
    · rw [hstay]
      exact ih hhere
    · rw [hup]
      exact ih hhere.dropLast
    · rw [hlong]
      trivial
    · obtain ⟨hnone, hfile, hlink, hfolder⟩ := hs.walk_eq segments top here
      cases hfound : top.at? (here ++ [s]) with
      | none =>
        rw [hnone hfound]
        split_ifs
        · exact ⟨⟨here, s, rfl, hhere⟩, by simp [hfound]⟩
        · trivial
      | some e =>
        cases e with
        | file content =>
          rw [hfile content hfound]
          split_ifs
          · exact .inr ⟨⟨here, s, rfl, hhere⟩, by simp [hfound, Entry.isFile]⟩
          · trivial
        | link target =>
          rw [hlink target hfound]
          exact hhere
        | folder items =>
          rw [hfolder items hfound]
          exact ih ⟨items, hfound⟩

/-- A walk that does not fail goes the same way when a file is put into a place. -/
theorem walk_put (hspot : top.IsSpot place) (content : Bytes) (hhere : top.HasFolder here)
    (hgoes : ∀ fault, walk top here segments ≠ .failed fault) :
    walk (top.put place (.file content)) here segments =
      (walk top here segments).filled place := by
  induction segments generalizing here with
  | nil => rfl
  | cons s segments ih =>
    obtain ⟨-, hstay⟩ | ⟨-, hup⟩ | ⟨-, hlong⟩ | hs := walk_cons_cases s segments
    · rw [hstay] at hgoes ⊢
      rw [hstay]
      exact ih hhere hgoes
    · rw [hup] at hgoes ⊢
      rw [hup]
      exact ih hhere.dropLast hgoes
    · exact absurd (hlong top here) (hgoes _)
    · obtain ⟨hnone, hfile, hlink, hfolder⟩ := hs.walk_eq segments top here
      obtain ⟨hnone', hfile', hlink', hfolder'⟩ :=
        hs.walk_eq segments (top.put place (.file content)) here
      -- A walk that goes on behind the place would have failed.
      by_cases hplace : here ++ [s] = place
      · have hput : (top.put place (.file content)).at? (here ++ [s]) = some (.file content) := by
          rw [hplace]
          exact Entry.at?_put ..
        rw [hfile' content hput]
        cases hfound : top.at? (here ++ [s]) with
        | none =>
          rw [hnone hfound] at hgoes ⊢
          split_ifs at hgoes ⊢ with hlast
          · rw [Stop.filled, if_pos hplace]
          · exact absurd rfl (hgoes _)
        | some e =>
          have he : e.isFile = true := hspot.free e (hplace ▸ hfound)
          cases e with
          | file old =>
            rw [hfile old hfound] at hgoes ⊢
            split_ifs at hgoes ⊢ with hlast
            · rfl
            · exact absurd rfl (hgoes _)
          | link target => cases he
          | folder items => cases he
      · rcases hspot.at?_put_of_ne content hplace with hsame | ⟨⟨items, hfound⟩, items', hput⟩
        · cases hfound : top.at? (here ++ [s]) with
          | none =>
            rw [hnone hfound, hnone' (hsame.trans hfound)]
            split_ifs
            · rw [Stop.filled, if_neg hplace]
            · rfl
          | some e =>
            cases e with
            | file old =>
              rw [hfile old hfound, hfile' old (hsame.trans hfound)]
              split_ifs <;> rfl
            | link target =>
              rw [hlink target hfound, hlink' target (hsame.trans hfound)]
              rfl
            | folder items =>
              rw [hfolder items hfound] at hgoes ⊢
              rw [hfolder' items (hsame.trans hfound)]
              exact ih ⟨items, hfound⟩ hgoes
        · rw [hfolder items hfound] at hgoes ⊢
          rw [hfolder' items' hput]
          exact ih ⟨items, hfound⟩ hgoes

theorem start_hasFolder (hhere : top.HasFolder here) (path : Text) :
    top.HasFolder (start here path) := by
  unfold start
  split_ifs
  · cases here with
    | nil => exact hhere
    | cons name here =>
      obtain ⟨items, hitems⟩ := hhere
      rw [← List.nil_append (name :: here)] at hitems
      exact .of_append hitems (List.cons_ne_nil _ _)
  · exact hhere

theorem follow_taken (links : Nat) (place : Location) :
    follow top links (.taken place) = .ok (place, true) := by
  cases links <;> rfl

theorem follow_vacant (links : Nat) (place : Location) :
    follow top links (.vacant place) = .ok (place, false) := by
  cases links <;> rfl

theorem follow_failed (links : Nat) (fault : PathFault) :
    follow top links (.failed fault) = .error fault := by
  cases links <;> rfl

theorem follow_isSound {links : Nat} {stop : Stop} {found : Bool} (hstop : stop.IsSound top)
    (h : follow top links stop = .ok (place, found)) :
    top.HasFolder place ∨ top.IsSpot place := by
  induction links generalizing stop with
  | zero =>
    cases stop with
    | taken p => cases h; exact hstop
    | vacant p => cases h; exact .inr hstop
    | link folder target rest => cases h
    | failed fault => cases h
  | succ links ih =>
    cases stop with
    | taken p => cases h; exact hstop
    | vacant p => cases h; exact .inr hstop
    | link folder target rest => exact ih (walk_isSound (start_hasFolder hstop target)) h
    | failed fault => cases h

theorem follow_put (hspot : top.IsSpot place) (content : Bytes) {links : Nat} {stop : Stop}
    {found : Bool} (hstop : stop.IsSound top) (h : follow top links stop = .ok (place, found)) :
    follow (top.put place (.file content)) links (stop.filled place) = .ok (place, true) := by
  induction links generalizing stop with
  | zero =>
    cases stop with
    | taken p => cases h; rfl
    | vacant p => cases h; rw [Stop.filled, if_pos rfl, follow_taken]
    | link folder target rest => cases h
    | failed fault => cases h
  | succ links ih =>
    cases stop with
    | taken p => cases h; rfl
    | vacant p => cases h; rw [Stop.filled, if_pos rfl, follow_taken]
    | link folder target rest =>
      have hstart := start_hasFolder hstop target
      change follow _ links (walk _ (start folder target) _) = _
      rw [walk_put hspot content hstart]
      · exact ih (walk_isSound hstart) h
      · intro fault hfailed
        rw [follow, hfailed, follow_failed] at h
        cases h
    | failed fault => cases h

theorem locate_eq_ok_iff {path : Text} {spot : Location × Bool} :
    locate top here path = .ok spot ↔ path.contains '\x00' = false ∧ path.isEmpty = false ∧
      byteSize path ≤ pathLimit ∧
      follow top linkLimit (walk top (start here path) (Text.split '/' path)) = .ok spot := by
  unfold locate
  split_ifs with hzero hempty hsize
  · simp_all
  · simp_all
  · exact iff_of_false nofun fun h => absurd hsize (Nat.not_lt.mpr h.2.2.1)
  · simp_all

section

variable {path : Text} {found : Bool}

theorem locate_put_of_hasFolder (hstart : top.HasFolder (start here path))
    (h : locate top here path = .ok (place, found)) (hfree : ¬top.HasFolder place)
    (content : Bytes) : locate (top.put place (.file content)) here path = .ok (place, true) := by
  obtain ⟨hzero, hempty, hsize, hfollow⟩ := locate_eq_ok_iff.mp h
  have hspot := (follow_isSound (walk_isSound hstart) hfollow).resolve_left hfree
  refine locate_eq_ok_iff.mpr ⟨hzero, hempty, hsize, ?_⟩
  rw [walk_put hspot content hstart]
  · exact follow_put hspot content (walk_isSound hstart) hfollow
  · intro fault hfailed
    rw [hfailed, follow_failed] at hfollow
    cases hfollow

theorem find?_of_putContent (hstart : top.HasFolder (start here path)) {top' : Entry}
    {bytes : Bytes} (h : putContent top here path bytes = .ok top') :
    ∃ place, find? top' here path = some (place, .file bytes) := by
  obtain ⟨⟨place, found⟩, hlocate, h⟩ := bind_eq_ok_iff.mp h
  have hfree : ¬top.HasFolder place := by
    rintro ⟨items, hitems⟩
    simp [hitems] at h
  have htop : top.put place (.file bytes) = top' := by
    dsimp only at h
    split at h
    · cases h
    · exact Except.ok.inj h
  refine ⟨place, ?_⟩
  rw [← htop, find?, locate_put_of_hasFolder hstart hlocate hfree bytes]
  simp only [Entry.at?_put, Option.map_some]

/-- Without a folder to start from, a path of one name leads to a free name, or not by its name. -/
theorem locate_put_of_name {name : Text} (hname : Text.split '/' path = [name])
    (h : locate top here path = .ok (place, found)) (hfree : ¬top.HasFolder place)
    (content : Bytes) : locate (top.put place (.file content)) here path = .ok (place, true) := by
  by_cases hstart : top.HasFolder (start here path)
  · exact locate_put_of_hasFolder hstart h hfree content
  obtain ⟨hzero, hempty, hsize, hfollow⟩ := locate_eq_ok_iff.mp h
  refine locate_eq_ok_iff.mpr ⟨hzero, hempty, hsize, ?_⟩
  rw [hname] at hfollow ⊢
  obtain ⟨-, hstay⟩ | ⟨-, hup⟩ | ⟨-, hlong⟩ | hs := walk_cons_cases name []
  · rw [hstay, walk, follow_taken] at hfollow ⊢
    cases hfollow
    rfl
  · rw [hup, walk, follow_taken] at hfollow ⊢
    cases hfollow
    rfl
  · rw [hlong, follow_failed] at hfollow
    cases hfollow
  · have hnone : top.at? (start here path ++ [name]) = none := by
      cases hfound : top.at? (start here path ++ [name]) with
      | none => rfl
      | some e => exact absurd (.of_append hfound (List.cons_ne_nil _ _)) hstart
    rw [(hs.walk_eq ..).1 hnone, if_pos List.isEmpty_nil, follow_vacant] at hfollow
    cases hfollow
    rw [(hs.walk_eq ..).2.1 content (Entry.at?_put ..), if_pos List.isEmpty_nil, follow_taken]

theorem walk_vacant (h : walk top here segments = .vacant place) : top.at? place = none := by
  induction segments generalizing here with
  | nil => cases h
  | cons s segments ih =>
    obtain ⟨-, hstay⟩ | ⟨-, hup⟩ | ⟨-, hlong⟩ | hs := walk_cons_cases s segments
    · exact ih ((hstay top here).symm.trans h)
    · exact ih ((hup top here).symm.trans h)
    · rw [hlong] at h
      cases h
    · obtain ⟨hnone, hfile, hlink, hfolder⟩ := hs.walk_eq segments top here
      cases hfound : top.at? (here ++ [s]) with
      | none =>
        rw [hnone hfound] at h
        split_ifs at h
        cases h
        exact hfound
      | some e =>
        cases e with
        | file content =>
          rw [hfile content hfound] at h
          split_ifs at h
        | link target =>
          rw [hlink target hfound] at h
          cases h
        | folder items => exact ih ((hfolder items hfound).symm.trans h)

theorem follow_eq_vacant {links : Nat} {stop : Stop}
    (hstop : ∀ p, stop = .vacant p → top.at? p = none)
    (h : follow top links stop = .ok (place, false)) : top.at? place = none := by
  induction links generalizing stop with
  | zero =>
    cases stop with
    | vacant p => cases h; exact hstop _ rfl
    | taken p => cases h
    | link folder target rest => cases h
    | failed fault => cases h
  | succ links ih =>
    cases stop with
    | vacant p => cases h; exact hstop _ rfl
    | taken p => cases h
    | link folder target rest => exact ih (fun _ => walk_vacant) h
    | failed fault => cases h

theorem find?_of_hasFolder (h : locate top here path = .ok (place, found))
    (hfolder : top.HasFolder place) :
    ∃ items, find? top here path = some (place, .folder items) := by
  obtain ⟨items, hitems⟩ := hfolder
  cases found with
  | true => exact ⟨items, by rw [find?, h]; simp only [hitems, Option.map_some]⟩
  | false =>
    have hnone := follow_eq_vacant (fun _ => walk_vacant) (locate_eq_ok_iff.mp h).2.2.2
    rw [hnone] at hitems
    cases hitems

/-- What is written at a path of one name is found there. -/
theorem putContent_of_name {name : Text} (hname : Text.split '/' path = [name])
    (h : locate top here path = .ok (place, found)) (hfree : ¬top.HasFolder place)
    (bytes : Bytes) : ∃ top', putContent top here path bytes = .ok top' ∧
      find? top' here path = some (place, .file bytes) ∧ content top' here path = .ok bytes := by
  have hput := locate_put_of_name hname h hfree bytes
  have hat := Entry.at?_put place top (.file bytes)
  refine ⟨top.put place (.file bytes), ?_, ?_, ?_⟩
  · refine bind_eq_ok_iff.mpr ⟨_, h, ?_⟩
    dsimp only
    split
    · exact absurd ⟨_, ‹_›⟩ hfree
    · rfl
  · rw [find?, hput]
    simp only [hat, Option.map_some]
  · refine bind_eq_ok_iff.mpr ⟨_, hput, ?_⟩
    simp only [hat]

end

/-! Folders that are made on the way. -/

theorem makeFolder_hasFolder {top' : Entry} {above : List Text} {name : Text} {q : Location}
    (h : makeFolder here top above name = .ok top') (hq : top.HasFolder q) : top'.HasFolder q := by
  unfold makeFolder at h
  split at h
  · split_ifs at h
    cases h
    exact hq
  · cases h
  · split at h
    · next hfree =>
      split_ifs at h
      cases h
      exact hq.put_folder hfree
    all_goals cases h

theorem makeFolders_hasFolder {top' : Entry} {names : List Text} {q : Location}
    (h : makeFolders here top names = .ok top') (hq : top.HasFolder q) : top'.HasFolder q := by
  induction names generalizing top' with
  | nil =>
    obtain rfl := Except.ok.inj h
    exact hq
  | cons name above ih =>
    rw [makeFolders] at h
    split at h
    · obtain ⟨middle, hmiddle, h⟩ := bind_eq_ok_iff.mp h
      exact makeFolder_hasFolder h (ih hmiddle)
    · exact makeFolder_hasFolder h hq

/-- Making a folder leaves every folder a folder. -/
theorem putFolder_hasFolder {top' : Entry} {path : Text} {q : Location}
    (h : putFolder top here path = .ok top') (hq : top.HasFolder q) : top'.HasFolder q := by
  unfold putFolder at h
  split_ifs at h
  exact makeFolders_hasFolder h hq

end Lookup
end CodeGraph
