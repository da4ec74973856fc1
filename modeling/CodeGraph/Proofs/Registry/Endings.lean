import CodeGraph.Proofs.Path.Segments
import CodeGraph.Proofs.Registry.Calls

/-! The endings that an import may leave out. They are tried where the path that it leads to holds
no dot, be it in the name or in a folder, and the first that makes it an indexed path is taken. -/
namespace CodeGraph

namespace Path

/-- A path with a dot in its folder and none in its name is not the end of itself with an ending
behind it: what stands after the last dot tells them apart. -/
theorem not_suffix_append_ending {path ending : Text} (hdot : '.' ∈ folder path)
    (hname : '.' ∉ fileName path) (hending : ending ∈ suffixes) : ¬ path <:+ path ++ ending := by
  rintro ⟨front, hfront⟩
  have hendings : ∀ e ∈ suffixes, '.' ∈ e ∧ '/' ∉ Text.afterLast '.' e := by decide
  obtain ⟨hmem, hslash⟩ := hendings ending hending
  have hpath : path = folder path ++ '/' :: fileName path := by
    refine (folder_fileName_cases path).resolve_left fun hnone => ?_
    rw [hnone.1] at hdot
    exact absurd hdot List.not_mem_nil
  have hlast : '/' ∈ Text.afterLast '.' path := by
    obtain ⟨before, hfolder⟩ := Text.exists_eq_append_afterLast hdot
    have hrest : '.' ∉ Text.afterLast '.' (folder path) ++ '/' :: fileName path := by
      rw [List.mem_append, List.mem_cons, not_or, not_or]
      exact ⟨Text.notMem_afterLast _ _, by decide, hname⟩
    have hsplit : path =
        before ++ '.' :: (Text.afterLast '.' (folder path) ++ '/' :: fileName path) := by
      rw [← List.cons_append, ← List.append_assoc, ← hfolder]
      exact hpath
    rw [hsplit, Text.afterLast_append_cons _ hrest]
    exact List.mem_append_right _ List.mem_cons_self
  have hsame := congrArg (Text.afterLast '.') hfront
  rw [Text.afterLast_append front ((mem_iff_folder_or_fileName (by decide)).mpr (Or.inl hdot)),
    Text.afterLast_append path hmem] at hsame
  exact hslash (hsame ▸ hlast)

end Path

namespace Registry

variable {r : Registry}

theorem resolve_javascript (r : Registry) (source raw : Text) :
    r.resolve source ⟨.javascript, raw⟩ =
      r.findByPath (r.resolvePath (Path.folder source) raw) := rfl

theorem resolvePath_of_walk_eq {folder folder' relative relative' : Text}
    (h : Path.walk folder relative = Path.walk folder' relative') (r : Registry) :
    r.resolvePath folder relative = r.resolvePath folder' relative' := by
  unfold resolvePath
  rw [h]

theorem resolvePath_of_dot {folder relative : Text} (h : '.' ∈ Path.walk folder relative) :
    r.resolvePath folder relative = Path.walk folder relative := by
  have hcontains : (Path.walk folder relative).contains '.' = true := List.contains_iff_mem.mpr h
  unfold resolvePath
  rw [if_pos hcontains]

/-- Without a dot, the first ending that makes an indexed path is added. -/
theorem resolvePath_of_no_dot {folder relative : Text} (h : '.' ∉ Path.walk folder relative) :
    r.resolvePath folder relative =
      Path.walk folder relative ++ (Path.suffixes.find? fun e =>
        r.isIndexed (Path.walk folder relative ++ e)).getD [] := by
  have hcontains : ¬ (Path.walk folder relative).contains '.' = true :=
    fun hmem => h (List.contains_iff_mem.mp hmem)
  unfold resolvePath
  simp only
  rw [if_neg hcontains, List.find?_map]
  change ((Path.suffixes.find? fun e =>
    r.isIndexed (Path.walk folder relative ++ e)).map _).getD _ = _
  cases Path.suffixes.find? fun e => r.isIndexed (Path.walk folder relative ++ e) with
  | none => simp
  | some ending => simp

theorem lookup_of_isIndexed {path : Text} (h : r.isIndexed path = true) :
    ∃ n, r.lookup path = some n :=
  Option.isSome_iff_exists.mp h

theorem withoutDot_of_isNormal {path rest : Text} (h : Path.IsNormal (path ++ rest)) :
    withoutDot path = path := by
  unfold withoutDot
  cases hdrop : Text.dropPrefix? "./" path with
  | none => rfl
  | some behind =>
    obtain rfl := Text.dropPrefix?_eq_some_iff.mp hdrop
    have hhere := Path.isNormal_iff.mp h ['.'] List.mem_cons_self
    exact absurd rfl hhere.not_here

/-- A path without a dot in its name, and an ending that makes it an indexed path: an import that
leads to the path finds the node of the first such ending, unless a folder has a dot in its name.
Then no ending is tried, and the import is answered as a search for the path as it stands. -/
theorem resolve_extensionless (hnormal : ∀ key ∈ r.keys, Path.IsNormal key)
    {source raw path ending : Text} (hwalk : Path.walk (Path.folder source) raw = path)
    (hname : '.' ∉ Path.fileName path)
    (hending : Path.suffixes.find? (fun e => r.isIndexed (path ++ e)) = some ending) :
    ∃ n, r.lookup (path ++ ending) = some n ∧
      ('.' ∉ Path.folder path → r.resolve source ⟨.javascript, raw⟩ = some n) ∧
      ('.' ∈ Path.folder path → r.resolve source ⟨.javascript, raw⟩ = r.findByPath path ∧
        findKey r.keys path ≠ some (path ++ ending)) := by
  have hindexed : r.isIndexed (path ++ ending) = true :=
    List.find?_some (p := fun e => r.isIndexed (path ++ e)) hending
  obtain ⟨n, hn⟩ := lookup_of_isIndexed hindexed
  have hdots : '.' ∈ path ↔ '.' ∈ Path.folder path ∨ '.' ∈ Path.fileName path :=
    Path.mem_iff_folder_or_fileName (by decide)
  subst hwalk
  refine ⟨n, hn, fun hfolder => ?_, fun hfolder => ⟨?_, fun hkey => ?_⟩⟩
  · have hdot : '.' ∉ Path.walk (Path.folder source) raw := fun hmem =>
      (hdots.mp hmem).elim hfolder hname
    rw [resolve_javascript, resolvePath_of_no_dot hdot, hending, Option.getD_some]
    exact findByPath_of_lookup hn
  · rw [resolve_javascript, resolvePath_of_dot (hdots.mpr (Or.inl hfolder))]
  · have hmem := List.mem_of_find?_eq_some hending
    have hsuffix := Path.not_suffix_append_ending hfolder hname hmem
    rcases findKey_eq_some hkey with heq | ⟨-, hend, -⟩
    · rw [heq] at hsuffix
      exact hsuffix (List.suffix_refl _)
    · rw [withoutDot_of_isNormal (hnormal _ ((isIndexed_iff r _).mp hindexed))] at hend
      exact hsuffix hend

/-- A registry of files. -/
def ofPaths (paths : List Text) : Registry :=
  (Usage.run {} (paths.map fun path => .register path (Scan.fileNode path))).registry

/-- A file in a folder that is named for a version, and two in one that is not. -/
def versioned : Registry :=
  ofPaths ["v1.2/b.js", "lib/b.ts", "lib/b.js"]

theorem isNormal_versioned : ∀ key ∈ versioned.keys, Path.IsNormal key := by
  have hkeys : versioned.keys = ["v1.2/b.js", "lib/b.ts", "lib/b.js"] := by decide +kernel
  rw [hkeys]
  decide

/-- Whatever the folders are named, the first ending would be added. -/
theorem not_resolve_extensionless_versioned :
    ¬ ∀ (r : Registry) (source raw path ending : Text), (∀ key ∈ r.keys, Path.IsNormal key) →
      [] ∉ Text.split '/' raw → Path.walk (Path.folder source) raw = path → path ≠ [] →
      '.' ∉ Path.fileName path →
      Path.suffixes.find? (fun e => r.isIndexed (path ++ e)) = some ending →
      r.resolve source ⟨.javascript, raw⟩ = r.lookup (path ++ ending) := by
  intro h
  have hfound := h versioned "v1.2/a.js" "./b" "v1.2/b" ".js" isNormal_versioned (by decide)
    (by decide) (by decide) (by decide) (by decide +kernel)
  have hmissed : versioned.resolve "v1.2/a.js" ⟨.javascript, "./b"⟩ ≠
      versioned.lookup "v1.2/b.js" := by decide +kernel
  exact hmissed hfound

theorem resolve_extensionless_versioned :
    (∀ key ∈ versioned.keys, Path.IsNormal key) ∧
    Path.walk (Path.folder "lib/a.js") "./b" = "lib/b" ∧ '.' ∉ Path.fileName "lib/b" ∧
    Path.suffixes.find? (fun e => versioned.isIndexed ("lib/b" ++ e)) = some (".js" : Text) ∧
    (∃ n, versioned.lookup ("lib/b" ++ ".js" : Text) = some n ∧
      versioned.resolve "lib/a.js" ⟨.javascript, "./b"⟩ = some n) ∧
    versioned.resolve "v1.2/a.js" ⟨.javascript, "./b"⟩ = versioned.findByPath "v1.2/b" ∧
    findKey versioned.keys "v1.2/b" ≠ some ("v1.2/b" ++ ".js" : Text) := by
  have hwalk : Path.walk (Path.folder "lib/a.js") "./b" = "lib/b" := by decide
  have hname : '.' ∉ Path.fileName "lib/b" := by decide
  have hending : Path.suffixes.find? (fun e => versioned.isIndexed ("lib/b" ++ e)) =
      some (".js" : Text) := by decide +kernel
  obtain ⟨n, hn, hfound, -⟩ := resolve_extensionless isNormal_versioned hwalk hname hending
  have hwalk' : Path.walk (Path.folder "v1.2/a.js") "./b" = "v1.2/b" := by decide
  have hending' : Path.suffixes.find? (fun e => versioned.isIndexed ("v1.2/b" ++ e)) =
      some (".js" : Text) := by decide +kernel
  obtain ⟨-, -, -, hmissed⟩ :=
    resolve_extensionless isNormal_versioned hwalk' (by decide) hending'
  exact ⟨isNormal_versioned, hwalk, hname, hending, ⟨n, hn, hfound (by decide)⟩,
    hmissed (by decide)⟩

end Registry
end CodeGraph
