import CodeGraph.Folder.Discovery
import CodeGraph.Proofs.Folder.Resolution
import CodeGraph.Proofs.Path.Segments
import CodeGraph.Proofs.Text.SortDistinct
import Mathlib.Data.List.Nodup
import Mathlib.Data.List.ReduceOption
import Mathlib.Data.List.Sort

/-! The search below a folder finds every file that it should, and nothing else: the entries that it
meets are those outside skipped folders, a name counts as a file if it leads to one, and the order
is that of the parts. -/
namespace CodeGraph

/-- Where a key has one value only, that value is found. -/
theorem lookup_eq_some_iff_mem {α β : Type} [BEq α] [LawfulBEq α] {pairs : List (α × β)} {key : α}
    (hunique : ∀ value value', (key, value) ∈ pairs → (key, value') ∈ pairs → value = value')
    {value : β} : pairs.lookup key = some value ↔ (key, value) ∈ pairs := by
  have hmem (value' : β) (h : pairs.lookup key = some value') : (key, value') ∈ pairs := by
    obtain ⟨before, after, rfl, -⟩ := List.lookup_eq_some_iff.mp h
    exact List.mem_append_right before List.mem_cons_self
  refine ⟨hmem value, fun h => ?_⟩
  cases hfound : pairs.lookup key with
  | none => simpa using List.lookup_eq_none_iff.mp hfound _ h
  | some value' => rw [hunique value' value (hmem value' hfound) h]

/-- A name that an entry of a folder can have. -/
structure IsEntryName (name : Text) : Prop extends Path.IsName name, Lookup.IsLookedUp name where
  no_zero : '\x00' ∉ name

instance (name : Text) : Decidable (IsEntryName name) :=
  decidable_of_iff
    (Path.IsName name ∧ Lookup.byteSize name ≤ Lookup.nameLimit ∧ '\x00' ∉ name)
    ⟨fun ⟨h₁, h₂, h₃⟩ => ⟨h₁, h₂, h₃⟩, fun ⟨h₁, h₂, h₃⟩ => ⟨h₁, h₂, h₃⟩⟩

namespace Entry

/-- In every folder the names are distinct and such that entries can have them. -/
inductive IsTree : Entry → Prop
  | file (content : Bytes) : (Entry.file content).IsTree
  | link (target : Text) : (Entry.link target).IsTree
  | folder {items : List (Text × Entry)} (nodup : (items.map (·.1)).Nodup)
    (names : ∀ item ∈ items, IsEntryName item.1) (below : ∀ item ∈ items, item.2.IsTree) :
    (Entry.folder items).IsTree

namespace IsTree

variable {e x : Entry} {name : Text} {rest place : Location}

theorem lookup_items (h : e.IsTree) : e.items.lookup name = some x ↔ (name, x) ∈ e.items := by
  refine lookup_eq_some_iff_mem fun y y' hy hy' => ?_
  cases h with
  | file content => cases hy
  | link target => cases hy
  | folder nodup names below =>
    exact congrArg Prod.snd (List.inj_on_of_nodup_map nodup hy hy' rfl)

theorem at?_cons (h : e.IsTree) :
    e.at? (name :: rest) = some x ↔ ∃ y, (name, y) ∈ e.items ∧ y.at? rest = some x := by
  rw [Entry.at?_cons, Option.bind_eq_some_iff]
  exact exists_congr fun y => and_congr_left' h.lookup_items

theorem of_mem (h : e.IsTree) (hx : (name, x) ∈ e.items) : IsEntryName name ∧ x.IsTree := by
  cases h with
  | file content => cases hx
  | link target => cases hx
  | folder nodup names below => exact ⟨names _ hx, below _ hx⟩

theorem at? (h : e.IsTree) (hx : e.at? place = some x) :
    (∀ s ∈ place, IsEntryName s) ∧ x.IsTree := by
  induction place generalizing e with
  | nil =>
    obtain rfl := Option.some.inj hx
    exact ⟨List.forall_mem_nil _, h⟩
  | cons name place ih =>
    obtain ⟨y, hy, hx⟩ := h.at?_cons.mp hx
    obtain ⟨hname, hy⟩ := h.of_mem hy
    obtain ⟨hnames, hx⟩ := ih hy hx
    exact ⟨List.forall_mem_cons.mpr ⟨hname, hnames⟩, hx⟩

end IsTree
end Entry

namespace Discovery

open Lookup (Leads linkLimit pathLimit byteSize)

variable {top e x : Entry} {base folder here p : Location} {skips : List Text} {name : Text}
  {bytes : Bytes}

/-- The items of a folder, and what is below them. -/
theorem mem_belowItems {items : List (Text × Entry)} : (p, x) ∈ belowItems here items ↔
    ∃ item ∈ items, (p = here ++ [item.1] ∧ x = item.2) ∨
      (p, x) ∈ below (here ++ [item.1]) item.2 := by
  induction items with
  | nil => simp [belowItems]
  | cons item items ih =>
    obtain ⟨name, e⟩ := item
    rw [List.exists_mem_cons_iff, ← ih, belowItems, List.mem_cons, List.mem_append, Prod.mk.injEq,
      or_assoc]

/-- The search goes down to everything below a folder. -/
theorem mem_below_iff (h : e.IsTree) : (p, x) ∈ below here e ↔
    ∃ rest, rest ≠ [] ∧ p = here ++ rest ∧ e.at? rest = some x := by
  induction h generalizing here with
  | file content =>
    refine iff_of_false (by simp [below]) ?_
    rintro ⟨rest, hrest, -, hx⟩
    rw [Entry.at?_eq_none rfl hrest] at hx
    cases hx
  | link target =>
    refine iff_of_false (by simp [below]) ?_
    rintro ⟨rest, hrest, -, hx⟩
    rw [Entry.at?_eq_none rfl hrest] at hx
    cases hx
  | @folder items nodup names below ih =>
    have htree : (Entry.folder items).IsTree := .folder nodup names below
    rw [Discovery.below, mem_belowItems]
    constructor
    · rintro ⟨⟨name, y⟩, hy, ⟨rfl, rfl⟩ | hmem⟩
      · exact ⟨[name], List.cons_ne_nil _ _, rfl, htree.at?_cons.mpr ⟨_, hy, rfl⟩⟩
      · obtain ⟨rest, -, rfl, hx⟩ := (ih _ hy).mp hmem
        exact ⟨name :: rest, List.cons_ne_nil _ _, by simp, htree.at?_cons.mpr ⟨y, hy, hx⟩⟩
    · rintro ⟨rest, hrest, rfl, hx⟩
      obtain ⟨name, rest, rfl⟩ := List.exists_cons_of_ne_nil hrest
      obtain ⟨y, hy, hx⟩ := htree.at?_cons.mp hx
      refine ⟨(name, y), hy, ?_⟩
      by_cases hlast : rest = []
      · subst hlast
        exact .inl ⟨rfl, (Option.some.inj hx).symm⟩
      · exact .inr ((ih _ hy).mpr ⟨rest, hlast, by simp, hx⟩)

/-- What the search meets below the folder at `base`. -/
theorem mem_met_iff (htop : top.IsTree) :
    (p, x) ∈ below [] ((top.at? base).getD (.file [])) ↔
      ∃ folder name, p = folder ++ [name] ∧ top.at? (base ++ folder ++ [name]) = some x := by
  cases hbase : top.at? base with
  | none =>
    refine iff_of_false (by simp [below]) ?_
    rintro ⟨folder, name, -, hx⟩
    rw [List.append_assoc, Entry.at?_append, hbase] at hx
    cases hx
  | some e =>
    have hat (rest : Location) : top.at? (base ++ rest) = e.at? rest := by
      rw [Entry.at?_append, hbase, Option.bind_some]
    rw [Option.getD_some, mem_below_iff (htop.at? hbase).2]
    constructor
    · rintro ⟨rest, hrest, rfl, hx⟩
      obtain ⟨folder, name, rfl⟩ := (List.eq_nil_or_concat' _).resolve_left hrest
      exact ⟨folder, name, rfl, by rwa [List.append_assoc, hat]⟩
    · rintro ⟨folder, name, rfl, hx⟩
      rw [List.append_assoc, hat] at hx
      exact ⟨folder ++ [name], by simp, rfl, hx⟩

theorem no_zero_fullPath (hnames : ∀ s ∈ p, IsEntryName s) : '\x00' ∉ fullPath p := by
  rw [fullPath, List.mem_cons, not_or]
  refine ⟨by decide, fun hmem => ?_⟩
  rcases Text.mem_join hmem with hslash | ⟨s, hs, hzero⟩
  · exact absurd hslash (by decide)
  · exact (hnames s hs).no_zero hzero

/-- The path of an entry from the top leads to it as its name does in its folder. -/
theorem locate_fullPath (htop : top.IsTree) (hx : top.at? (folder ++ [name]) = some x)
    (hsize : byteSize (fullPath (folder ++ [name])) ≤ pathLimit) :
    Lookup.locate top [] (fullPath (folder ++ [name])) =
      Lookup.follow top linkLimit (Lookup.walk top folder [name]) := by
  have hnames := (htop.at? hx).1
  have hstart : Lookup.start [] (fullPath (folder ++ [name])) = [] := ite_self _
  have hsplit : Text.split '/' (fullPath (folder ++ [name])) = [] :: (folder ++ [name]) := by
    rw [fullPath, Text.split, if_pos rfl]
    exact congrArg _ (Text.split_join (by simp) fun s hs => (hnames s hs).no_slash)
  have hfolder : top.HasFolder folder := .of_append hx (List.cons_ne_nil _ _)
  rw [Lookup.locate_eq_follow (no_zero_fullPath hnames) (List.cons_ne_nil _ _) hsize, hstart,
    hsplit, Lookup.walk, if_pos (.inl rfl), Lookup.walk_names _ hfolder, List.nil_append]
  exact fun s hs => (hnames s (List.mem_append_left _ hs)).toIsLookedUp

/-- What is read at a name in a folder: the file of that name, or the one that a link of that name
leads to. -/
def Reads (top : Entry) (folder : Location) (name : Text) (bytes : Bytes) : Prop :=
  top.at? (folder ++ [name]) = some (.file bytes) ∨
    (∃ target, top.at? (folder ++ [name]) = some (.link target)) ∧
      ∃ place, Leads top linkLimit folder [name] (.ok place) ∧ top.at? place = some (.file bytes)

/-- A name in a folder with a path that is too long, or which leads over links to a name that is. -/
def IsOverlong (top : Entry) (folder : Location) (name : Text) : Prop :=
  pathLimit < byteSize (fullPath (folder ++ [name])) ∨
    Leads top linkLimit folder [name] (.error .tooLong)

theorem Reads.exists_entry (h : Reads top folder name bytes) :
    ∃ x, top.at? (folder ++ [name]) = some x := by
  obtain hfile | ⟨⟨target, hlink⟩, -⟩ := h
  · exact ⟨_, hfile⟩
  · exact ⟨_, hlink⟩

theorem reads_iff (htop : top.IsTree) : Reads top folder name bytes ↔
    (∃ x, top.at? (folder ++ [name]) = some x) ∧
      ∃ place, Leads top linkLimit folder [name] (.ok place) ∧
        top.at? place = some (.file bytes) := by
  constructor
  · intro h
    refine ⟨h.exists_entry, ?_⟩
    obtain hfile | ⟨-, hleads⟩ := h
    · have hname := ((htop.at? hfile).1 name (by simp)).toIsLookedUp
      exact ⟨_, .file hname hfile, hfile⟩
    · exact hleads
  · rintro ⟨⟨x, hx⟩, place, hleads, hplace⟩
    have hname := ((htop.at? hx).1 name (by simp)).toIsLookedUp
    cases x with
    | file content =>
      cases hleads.unique (.file hname hx)
      exact .inl hplace
    | folder items =>
      cases hleads.unique (.folder hname hx .arrive)
      cases hx.symm.trans hplace
    | link target => exact .inr ⟨⟨target, hx⟩, place, hleads, hplace⟩

theorem Reads.unique (htop : top.IsTree) {bytes' : Bytes} (h : Reads top folder name bytes)
    (h' : Reads top folder name bytes') : bytes = bytes' := by
  obtain ⟨-, place, hleads, hplace⟩ := (reads_iff htop).mp h
  obtain ⟨-, place', hleads', hplace'⟩ := (reads_iff htop).mp h'
  obtain rfl := Except.ok.inj (hleads.unique hleads')
  cases hplace.symm.trans hplace'
  rfl

theorem content?_eq_some_iff :
    content? top p = .ok (some bytes) ↔ Lookup.content top [] (fullPath p) = .ok bytes := by
  unfold content?
  rcases Lookup.content top [] (fullPath p) with (_ | _ | _ | _ | _ | _ | _) | content <;> simp

/-- What the search looks at breaks it off for one reason only. -/
theorem content?_eq_error_iff {fault : PathFault} : content? top p = .error fault ↔
    fault = .tooLong ∧ Lookup.content top [] (fullPath p) = .error .tooLong := by
  unfold content?
  rcases Lookup.content top [] (fullPath p) with (_ | _ | _ | _ | _ | _ | _) | content <;>
    simp [eq_comm]

theorem content?_of_isOverlong (htop : top.IsTree) (hx : top.at? (folder ++ [name]) = some x)
    (h : IsOverlong top folder name) : content? top (folder ++ [name]) = .error .tooLong := by
  refine content?_eq_error_iff.mpr ⟨rfl, ?_⟩
  by_cases hsize : byteSize (fullPath (folder ++ [name])) ≤ pathLimit
  · rw [Lookup.content_eq_tooLong_iff (locate_fullPath htop hx hsize)]
    exact h.resolve_left (Nat.not_lt.mpr hsize)
  · have hzero : (fullPath (folder ++ [name])).contains '\x00' = false := by
      simpa using no_zero_fullPath (htop.at? hx).1
    have hlocate : Lookup.locate top [] (fullPath (folder ++ [name])) = .error .tooLong := by
      rw [Lookup.locate, if_neg (by rw [hzero]; simp), if_neg (by simp [fullPath]),
        if_pos (Nat.not_le.mp hsize)]
    rw [Lookup.content, hlocate]
    rfl

/-- Apart from what is overlong, the search reads what it should. -/
theorem content?_of_not_isOverlong (htop : top.IsTree) (hx : top.at? (folder ++ [name]) = some x)
    (h : ¬IsOverlong top folder name) : ∃ found, content? top (folder ++ [name]) = .ok found ∧
      ∀ bytes, found = some bytes ↔ Reads top folder name bytes := by
  obtain ⟨hsize, hleads⟩ := not_or.mp h
  have hlocate := locate_fullPath htop hx (Nat.not_lt.mp hsize)
  cases hfound : content? top (folder ++ [name]) with
  | error fault =>
    have hlong := (content?_eq_error_iff.mp hfound).2
    exact absurd ((Lookup.content_eq_tooLong_iff hlocate).mp hlong) hleads
  | ok found =>
    refine ⟨found, rfl, fun bytes => ?_⟩
    rw [← Except.ok.injEq (ε := PathFault), ← hfound, content?_eq_some_iff,
      Lookup.content_eq_ok_iff hlocate, reads_iff htop]
    exact (and_iff_right ⟨x, hx⟩).symm

/-- Limits of the system break the search off: a folder has a path that is too long to list it, or
a name that is not below a skipped one is overlong. -/
def IsBeyondLimits (top : Entry) (base : Location) (skips : List Text) : Prop :=
  (∃ folder, top.HasFolder (base ++ folder) ∧ pathLimit < byteSize (fullPath (base ++ folder))) ∨
    ∃ folder name, (∀ s ∈ folder, s ∉ skips) ∧
      (∃ x, top.at? (base ++ folder ++ [name]) = some x) ∧ IsOverlong top (base ++ folder) name

theorem IsBeyondLimits.mono {skips' : List Text} (h : IsBeyondLimits top base skips')
    (hskips : skips ⊆ skips') : IsBeyondLimits top base skips :=
  h.imp_right fun ⟨folder, name, hkept, hlong⟩ =>
    ⟨folder, name, fun s hs hskip => hkept s hs (hskips hskip), hlong⟩

theorem isKept_concat : isKept skips (folder ++ [name]) = true ↔ ∀ s ∈ folder, s ∉ skips := by
  simp [isKept]

theorem isFolder_iff : e.isFolder = true ↔ ∃ items, e = .folder items := by
  cases e <;> simp [Entry.isFolder]

theorem any_isUnlisted_iff (htop : top.IsTree) {root : Entry}
    (hroot : (top.at? base).getD (.file []) = root) :
    ((([], root) :: below [] root).any fun (p, e) => isUnlisted (base ++ p) e) = true ↔
      ∃ folder, top.HasFolder (base ++ folder) ∧
        pathLimit < byteSize (fullPath (base ++ folder)) := by
  subst hroot
  simp only [List.any_cons, Bool.or_eq_true, List.any_eq_true, isUnlisted, Bool.and_eq_true,
    decide_eq_true_eq, isFolder_iff]
  constructor
  · rintro (⟨⟨items, hitems⟩, hlong⟩ | ⟨⟨p, e⟩, hmem, ⟨items, rfl⟩, hlong⟩)
    · refine ⟨[], ⟨items, ?_⟩, hlong⟩
      rw [List.append_nil]
      cases hbase : top.at? base with
      | none =>
        rw [hbase] at hitems
        cases hitems
      | some e =>
        rw [hbase] at hitems
        exact congrArg some hitems
    · obtain ⟨folder, name, rfl, hx⟩ := (mem_met_iff htop).mp hmem
      exact ⟨folder ++ [name], ⟨items, by rwa [← List.append_assoc]⟩, hlong⟩
  · rintro ⟨folder, ⟨items, hitems⟩, hlong⟩
    rcases List.eq_nil_or_concat' folder with rfl | ⟨folder, name, rfl⟩
    · rw [List.append_nil] at hitems
      exact .inl ⟨⟨items, by rw [hitems, Option.getD_some]⟩, hlong⟩
    · rw [← List.append_assoc] at hitems
      exact .inr ⟨_, (mem_met_iff htop).mpr ⟨folder, name, rfl, hitems⟩, ⟨items, rfl⟩, hlong⟩

theorem mem_inOrder_iff {found : List (Location × Bytes)}
    (hunique : ∀ p bytes bytes', (p, bytes) ∈ found → (p, bytes') ∈ found → bytes = bytes') :
    (p, bytes) ∈ inOrder found ↔ (p, bytes) ∈ found := by
  have hlookup : found.lookup p = some bytes ↔ (p, bytes) ∈ found :=
    lookup_eq_some_iff_mem (hunique p)
  rw [← hlookup, inOrder, List.mem_filterMap]
  constructor
  · rintro ⟨q, -, hq⟩
    obtain ⟨content, hcontent, hpair⟩ := Option.map_eq_some_iff.mp hq
    cases hpair
    exact hcontent
  · intro h
    exact ⟨p, Text.mem_sortDistinct.mpr (List.mem_map_of_mem (hlookup.mp h)), by rw [h]; rfl⟩

theorem pairwise_inOrder (found : List (Location × Bytes)) :
    ((inOrder found).map (·.1)).Pairwise (· < ·) := by
  rw [inOrder, List.pairwise_map, List.pairwise_filterMap]
  refine (Text.pairwise_sortDistinct _).imp ?_
  intro p q hlt file hfile file' hfile'
  obtain ⟨bytes, -, rfl⟩ := Option.map_eq_some_iff.mp hfile
  obtain ⟨bytes', -, rfl⟩ := Option.map_eq_some_iff.mp hfile'
  exact hlt

/-- The places that are looked at. -/
def kept (top : Entry) (base : Location) (skips : List Text) : List Location :=
  ((below [] ((top.at? base).getD (.file []))).map (·.1)).filter (isKept skips)

theorem mem_kept_iff (htop : top.IsTree) : p ∈ kept top base skips ↔
    ∃ folder name, p = folder ++ [name] ∧ (∀ s ∈ folder, s ∉ skips) ∧
      ∃ x, top.at? (base ++ folder ++ [name]) = some x := by
  rw [kept, List.mem_filter, List.mem_map]
  constructor
  · rintro ⟨⟨⟨q, x⟩, hmem, rfl⟩, hkept⟩
    obtain ⟨folder, name, rfl, hx⟩ := (mem_met_iff htop).mp hmem
    exact ⟨folder, name, rfl, isKept_concat.mp hkept, x, hx⟩
  · rintro ⟨folder, name, rfl, hkept, x, hx⟩
    exact ⟨⟨_, (mem_met_iff htop).mpr ⟨folder, name, rfl, hx⟩, rfl⟩, isKept_concat.mpr hkept⟩

theorem files_eq (top : Entry) (base : Location) (skips : List Text) {root : Entry}
    (hroot : (top.at? base).getD (.file []) = root) : files top base skips =
      if ((([], root) :: below [] root).any fun (p, e) => isUnlisted (base ++ p) e)
      then .error .tooLong
      else (kept top base skips).mapM (look top base) >>=
        fun found => .ok (inOrder found.reduceOption) := by
  subst hroot
  rfl

theorem look_of_isOverlong (htop : top.IsTree)
    (hx : top.at? (base ++ folder ++ [name]) = some x)
    (h : IsOverlong top (base ++ folder) name) :
    look top base (folder ++ [name]) = .error .tooLong := by
  rw [look, ← List.append_assoc, content?_of_isOverlong htop hx h]
  rfl

theorem look_of_not_isOverlong (htop : top.IsTree)
    (hx : top.at? (base ++ folder ++ [name]) = some x)
    (h : ¬IsOverlong top (base ++ folder) name) :
    ∃ found, look top base (folder ++ [name]) = .ok found ∧ ∀ file, found = some file ↔
      file.1 = folder ++ [name] ∧ Reads top (base ++ folder) name file.2 := by
  obtain ⟨found, hfound, hreads⟩ := content?_of_not_isOverlong htop hx h
  refine ⟨found.map (folder ++ [name], ·), ?_, fun file => ?_⟩
  · rw [look, ← List.append_assoc, hfound]
    rfl
  · obtain ⟨p, bytes⟩ := file
    rw [← hreads, Option.map_eq_some_iff]
    constructor
    · rintro ⟨bytes', rfl, hpair⟩
      cases hpair
      exact ⟨rfl, rfl⟩
    · rintro ⟨rfl, rfl⟩
      exact ⟨bytes, rfl, rfl⟩

theorem fault_of_look {fault : PathFault} (h : look top base p = .error fault) :
    fault = .tooLong := by
  cases hfound : content? top (base ++ p) with
  | ok found =>
    rw [look, hfound] at h
    cases h
  | error fault' =>
    rw [look, hfound] at h
    obtain rfl : fault' = fault := Except.error.inj h
    exact (content?_eq_error_iff.mp hfound).1

/-- A search that is broken off. -/
theorem files_of_isBeyondLimits (htop : top.IsTree) (h : IsBeyondLimits top base skips) :
    files top base skips = .error .tooLong := by
  rw [files_eq top base skips rfl]
  split_ifs with hlisted
  · rfl
  obtain ⟨folder, name, hkept, ⟨x, hx⟩, hlong⟩ :=
    h.resolve_left (mt (any_isUnlisted_iff htop rfl).mpr hlisted)
  have hmem := (mem_kept_iff htop).mpr ⟨folder, name, rfl, hkept, x, hx⟩
  cases hfound : (kept top base skips).mapM (look top base) with
  | ok found =>
    obtain ⟨y, hy⟩ := ok_of_mapM_eq_ok hfound _ hmem
    rw [look_of_isOverlong htop hx hlong] at hy
    cases hy
  | error fault =>
    obtain ⟨p, -, hfault⟩ := exists_of_mapM_eq_error hfound
    obtain rfl := fault_of_look hfault
    rfl

/-- Within the limits every look tells whether there is a file. -/
theorem exists_look (htop : top.IsTree) (h : ¬IsBeyondLimits top base skips)
    (hp : p ∈ kept top base skips) : ∃ found, look top base p = .ok found ∧
      ∀ file, found = some file ↔ file.1 = p ∧ ∃ folder name, p = folder ++ [name] ∧
        Reads top (base ++ folder) name file.2 := by
  obtain ⟨folder, name, rfl, hkept, x, hx⟩ := (mem_kept_iff htop).mp hp
  have hshort : ¬IsOverlong top (base ++ folder) name :=
    fun hlong => h (.inr ⟨folder, name, hkept, ⟨x, hx⟩, hlong⟩)
  obtain ⟨found, hfound, hreads⟩ := look_of_not_isOverlong htop hx hshort
  refine ⟨found, hfound, fun file => (hreads file).trans (and_congr_right fun _ => ?_)⟩
  constructor
  · exact fun hread => ⟨folder, name, rfl, hread⟩
  · rintro ⟨folder', name', hsame, hread⟩
    obtain ⟨rfl, hname⟩ := List.append_inj' hsame rfl
    obtain rfl := List.singleton_inj.mp hname
    exact hread

theorem mem_looked_iff (htop : top.IsTree) (h : ¬IsBeyondLimits top base skips)
    {looked : List (Option (Location × Bytes))} {file : Location × Bytes}
    (hlooked : (kept top base skips).mapM (look top base) = .ok looked) :
    file ∈ looked.reduceOption ↔ ∃ folder name, file.1 = folder ++ [name] ∧
      (∀ s ∈ folder, s ∉ skips) ∧ Reads top (base ++ folder) name file.2 := by
  rw [List.reduceOption_mem_iff]
  constructor
  · intro hfile
    obtain ⟨p, hp, hlook⟩ := exists_of_mapM_eq_ok hlooked _ hfile
    obtain ⟨found, hok, hreads⟩ := exists_look htop h hp
    obtain rfl := Except.ok.inj (hlook.symm.trans hok)
    obtain ⟨rfl, folder, name, hfolder, hread⟩ := (hreads file).mp rfl
    obtain ⟨folder', name', hsame, hkept, -⟩ := (mem_kept_iff htop).mp hp
    obtain ⟨rfl, -⟩ := List.append_inj' (hfolder.symm.trans hsame) rfl
    exact ⟨folder, name, hfolder, hkept, hread⟩
  · rintro ⟨folder, name, hfolder, hkept, hread⟩
    have hp := (mem_kept_iff htop).mpr ⟨folder, name, hfolder, hkept, hread.exists_entry⟩
    obtain ⟨found, hok, hreads⟩ := exists_look htop h hp
    obtain rfl := (hreads file).mpr ⟨rfl, folder, name, hfolder, hread⟩
    exact mem_of_mapM_eq_ok hlooked hp hok

/-- Within the limits the search finds the files that it should, in order. -/
theorem exists_files (htop : top.IsTree) (h : ¬IsBeyondLimits top base skips) :
    ∃ found, files top base skips = .ok found ∧ (found.map (·.1)).Pairwise (· < ·) ∧
      ∀ file, file ∈ found ↔ ∃ folder name, file.1 = folder ++ [name] ∧
        (∀ s ∈ folder, s ∉ skips) ∧ Reads top (base ++ folder) name file.2 := by
  have hlisted := mt (any_isUnlisted_iff htop rfl).mp (not_or.mp h).1
  rw [files_eq top base skips rfl, if_neg hlisted]
  cases hlooked : (kept top base skips).mapM (look top base) with
  | error fault =>
    obtain ⟨p, hp, hfault⟩ := exists_of_mapM_eq_error hlooked
    obtain ⟨found, hok, -⟩ := exists_look htop h hp
    rw [hfault] at hok
    cases hok
  | ok looked =>
    refine ⟨_, rfl, pairwise_inOrder _, fun file => ?_⟩
    rw [← mem_looked_iff htop h hlooked]
    refine mem_inOrder_iff fun p bytes bytes' hfile hfile' => ?_
    obtain ⟨folder, name, rfl, -, hread⟩ := (mem_looked_iff htop h hlooked).mp hfile
    obtain ⟨folder', name', hsame, -, hread'⟩ := (mem_looked_iff htop h hlooked).mp hfile'
    obtain ⟨rfl, hname⟩ := List.append_inj' hsame rfl
    obtain rfl := List.singleton_inj.mp hname
    exact hread.unique htop hread'

/-- A file that the search should find: a name in `folder` that stands for a file. No folder on the
way is a link or is skipped. The folder at `base` and the name itself may have skipped names. -/
structure IsDiscovered (top : Entry) (base : Location) (skips : List Text) (folder : Location)
    (name : Text) : Prop where
  way : ∀ q, q <+: folder → top.HasFolder (base ++ q)
  kept : ∀ s ∈ folder, s ∉ skips
  reads : ∃ bytes, Reads top (base ++ folder) name bytes

theorem IsDiscovered.mono {skips' : List Text} (h : IsDiscovered top base skips' folder name)
    (hskips : skips ⊆ skips') : IsDiscovered top base skips folder name :=
  { h with kept := fun s hs hskip => h.kept s hs (hskips hskip) }

theorem isDiscovered_iff : IsDiscovered top base skips folder name ↔
    (∀ s ∈ folder, s ∉ skips) ∧ ∃ bytes, Reads top (base ++ folder) name bytes := by
  refine ⟨fun h => ⟨h.kept, h.reads⟩, fun ⟨hkept, bytes, hread⟩ => ⟨fun q hq => ?_, hkept, bytes,
    hread⟩⟩
  obtain ⟨x, hx⟩ := hread.exists_entry
  obtain ⟨rest, rfl⟩ := hq
  rw [← List.append_assoc, List.append_assoc] at hx
  exact .of_append hx (by simp)

theorem IsDiscovered.split_path (htop : top.IsTree)
    (h : IsDiscovered top base skips folder name) :
    Text.split '/' (path (folder ++ [name])) = folder ++ [name] := by
  obtain ⟨bytes, hread⟩ := h.reads
  obtain ⟨x, hx⟩ := hread.exists_entry
  have hnames := (htop.at? hx).1
  refine Text.split_join (by simp) fun s hs => (hnames s ?_).no_slash
  rw [List.append_assoc]
  exact List.mem_append_right base hs

/-- Within the limits the paths are those of the files that the search should find. -/
theorem exists_paths (htop : top.IsTree) (h : ¬IsBeyondLimits top base skips) :
    ∃ found, paths top base skips = .ok found ∧
      (found.map (Text.split '/')).Pairwise (· < ·) ∧
      ∀ path, path ∈ found ↔ ∃ folder name, Text.split '/' path = folder ++ [name] ∧
        IsDiscovered top base skips folder name := by
  obtain ⟨files, hfiles, hascending, hmem⟩ := exists_files htop h
  have hlocation (p : Location) : p ∈ files.map (·.1) ↔
      ∃ folder name, p = folder ++ [name] ∧ IsDiscovered top base skips folder name := by
    simp only [List.mem_map, hmem, isDiscovered_iff]
    constructor
    · rintro ⟨⟨q, bytes⟩, ⟨folder, name, hq, hkept, hread⟩, rfl⟩
      exact ⟨folder, name, hq, hkept, bytes, hread⟩
    · rintro ⟨folder, name, rfl, hkept, bytes, hread⟩
      exact ⟨(_, bytes), ⟨folder, name, rfl, hkept, hread⟩, rfl⟩
  have hsplit : ∀ p ∈ files.map (·.1), Text.split '/' (path p) = p := by
    intro p hp
    obtain ⟨folder, name, rfl, hfound⟩ := (hlocation p).mp hp
    exact hfound.split_path htop
  have hparts : ((files.map (·.1)).map path).map (Text.split '/') = files.map (·.1) := by
    rw [List.map_map]
    exact (List.map_congr_left hsplit).trans (List.map_id _)
  refine ⟨(files.map (·.1)).map path, ?_, ?_, fun path' => ?_⟩
  · rw [paths, hfiles, List.map_map]
    rfl
  · rw [hparts]
    exact hascending
  · rw [← hlocation, List.mem_map]
    constructor
    · rintro ⟨p, hp, rfl⟩
      rwa [hsplit p hp]
    · exact fun h => ⟨_, h, Text.join_split '/' path'⟩

/-- The search below a folder is broken off exactly at the limits of the system. Otherwise it finds
the files that it should, ascending by the parts of their paths, and fewer if more names are
skipped. -/
theorem paths_exact (htop : top.IsTree) (base : Location) (skips : List Text) :
    (IsBeyondLimits top base skips → paths top base skips = .error .tooLong) ∧
    (¬IsBeyondLimits top base skips → ∃ found, paths top base skips = .ok found ∧
      (found.map (Text.split '/')).Pairwise (· < ·) ∧ found.Nodup ∧
      (∀ path, path ∈ found ↔ ∃ folder name, Text.split '/' path = folder ++ [name] ∧
        IsDiscovered top base skips folder name) ∧
      ∀ skips', skips ⊆ skips' →
        ∃ fewer, paths top base skips' = .ok fewer ∧ fewer.Sublist found) := by
  constructor
  · intro h
    rw [paths, files_of_isBeyondLimits htop h]
    rfl
  · intro h
    obtain ⟨found, hfound, hascending, hmem⟩ := exists_paths htop h
    refine ⟨found, hfound, hascending, hascending.nodup.of_map _, hmem, fun skips' hskips => ?_⟩
    obtain ⟨fewer, hfewer, hascending', hmem'⟩ :=
      exists_paths htop fun hbeyond => h (IsBeyondLimits.mono hbeyond hskips)
    refine ⟨fewer, hfewer, ?_⟩
    -- Paths are told apart by their parts, so the order of the parts decides.
    have hsub : fewer ⊆ found := fun path hpath => by
      obtain ⟨folder, name, hparts, hdiscovered⟩ := (hmem' path).mp hpath
      exact (hmem path).mpr ⟨folder, name, hparts, hdiscovered.mono hskips⟩
    exact List.sublist_of_subperm_of_pairwise
      (List.subperm_of_subset (hascending'.nodup.of_map _) hsub)
      (List.pairwise_map.mp hascending') (List.pairwise_map.mp hascending)

/-- A folder below one with a skipped name. Its names are skipped in part, its links lead to a file,
to a link, to a folder and nowhere. -/
def linkedItems : List (Text × Entry) :=
  [("first.js", .link "second.js"), ("a-b.js", .file []),
    ("a", .folder [("dist", .file []), ("b.js", .file [])]), ("dist", .folder [("c.js", .file [])]),
    ("linked", .link "a"), ("dead.js", .link "gone.js"), ("second.js", .link "a/b.js")]

def linkedTree : Entry :=
  .folder [("dist", .folder linkedItems)]

theorem paths_linkedTree : paths linkedTree ["dist".toList] ["dist".toList] =
    .ok ["a/b.js".toList, "a/dist".toList, "a-b.js".toList, "first.js".toList,
      "second.js".toList] := by
  decide +kernel

theorem isTree_linkedTree : linkedTree.IsTree := by
  have hdist : (Entry.folder [("c.js".toList, .file [])]).IsTree :=
    .folder (by decide +kernel) (by decide +kernel) (by simp [Entry.IsTree.file])
  have ha : (Entry.folder [("dist".toList, .file []), ("b.js".toList, .file [])]).IsTree :=
    .folder (by decide +kernel) (by decide +kernel) (by simp [Entry.IsTree.file])
  have hitems : (Entry.folder linkedItems).IsTree := by
    refine .folder (by decide +kernel) (by decide +kernel) ?_
    simp only [linkedItems, List.forall_mem_cons]
    exact ⟨.link _, .file _, ha, hdist, .link _, .link _, .link _, List.forall_mem_nil _⟩
  refine .folder (by decide +kernel) (by decide +kernel) ?_
  exact List.forall_mem_singleton.mpr hitems

theorem paths_exact_linkedTree : linkedTree.IsTree ∧
    ¬IsBeyondLimits linkedTree ["dist".toList] ["dist".toList] ∧
    ∃ found, paths linkedTree ["dist".toList] ["dist".toList] = .ok found ∧
      found = ["a/b.js".toList, "a/dist".toList, "a-b.js".toList, "first.js".toList,
        "second.js".toList] ∧
      (∀ path, path ∈ found ↔ ∃ folder name, Text.split '/' path = folder ++ [name] ∧
        IsDiscovered linkedTree ["dist".toList] ["dist".toList] folder name) ∧
      ∃ fewer, paths linkedTree ["dist".toList] ["dist".toList, "a".toList] = .ok fewer ∧
        fewer.Sublist found := by
  obtain ⟨hbroken, hfinds⟩ := paths_exact isTree_linkedTree ["dist".toList] ["dist".toList]
  have hlimits : ¬IsBeyondLimits linkedTree ["dist".toList] ["dist".toList] := by
    intro h
    cases (hbroken h).symm.trans paths_linkedTree
  obtain ⟨found, hfound, -, -, hmem, hfewer⟩ := hfinds hlimits
  refine ⟨isTree_linkedTree, hlimits, found, hfound, ?_, hmem, hfewer _ (by simp)⟩
  exact Except.ok.inj (hfound.symm.trans paths_linkedTree)

/-- A file, and a link to a name that no file can have. -/
def longLinkTree : Entry :=
  .folder [("a.js", .file []), ("dead.js", .link (List.replicate 300 'a'))]

/-- One dead link hides the file beside it. -/
theorem paths_longLinkTree : longLinkTree.IsTree ∧ IsDiscovered longLinkTree [] [] [] "a.js" ∧
    ∀ found, paths longLinkTree [] [] ≠ .ok found := by
  have htree : longLinkTree.IsTree := by
    refine .folder (by decide +kernel) (by decide +kernel) ?_
    simp only [List.forall_mem_cons]
    exact ⟨.file _, .link _, List.forall_mem_nil _⟩
  have hread : Reads longLinkTree ([] ++ []) "a.js" [] := .inl rfl
  have hpaths : paths longLinkTree [] [] = .error .tooLong := by decide +kernel
  refine ⟨htree, isDiscovered_iff.mpr ⟨List.forall_mem_nil _, [], hread⟩, fun found h => ?_⟩
  cases hpaths.symm.trans h

end Discovery
end CodeGraph
