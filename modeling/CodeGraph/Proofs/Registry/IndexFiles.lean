import CodeGraph.Proofs.Registry.Endings

/-! Imports of whole folders. One that leads up from the folder of a file finds the index file of
the folder that it names, unless that is the top: there the ending of an index file starts with a
slash, which no path of a file does. -/
namespace CodeGraph

namespace Path

/-- The endings of script files. -/
def scriptSuffixes : List Text :=
  [".js", ".ts", ".jsx", ".tsx"]

/-- The endings of the index files of a folder. -/
def indexSuffixes : List Text :=
  ["/index.js", "/index.ts"]

theorem suffixes_eq : suffixes = scriptSuffixes ++ indexSuffixes := rfl

/-- The relative path that leads up the given number of folders. -/
def upward : Nat → Text
  | 0 => "."
  | n + 1 => ofNames (List.replicate (n + 1) ['.', '.'])

/-- The segments of the folder that lies the given number of folders above. -/
def above (folder : Text) (n : Nat) : List Text :=
  (parts folder).take ((parts folder).length - n)

/-- The path of the index file in a folder. -/
def indexFile (folders : List Text) : Text :=
  ofNames (folders ++ [("index.js" : Text)])

theorem indexFile_eq {folders : List Text} (h : folders ≠ []) :
    indexFile folders = ofNames folders ++ "/index.js" := by
  rw [indexFile, ofNames, Text.join_concat h, List.append_assoc]
  rfl

theorem reached_upward {folder : Text} {n : Nat} (h : n ≤ (parts folder).length) :
    reached folder (upward n) = above folder n := by
  cases n with
  | zero =>
    have hall : above folder 0 = parts folder := List.take_length
    rw [hall]
    rfl
  | succ n =>
    have hsplit : Text.split '/' (upward (n + 1)) = List.replicate (n + 1) ['.', '.'] := by
      refine split_ofNames_eq (List.cons_ne_nil _ _) fun s hs => ?_
      rw [List.eq_of_mem_replicate hs]
      decide
    have hparts : parts folder =
        above folder (n + 1) ++ (parts folder).drop ((parts folder).length - (n + 1)) :=
      (List.take_append_drop _ _).symm
    rw [reached, hsplit, hparts]
    exact foldl_step_up _ (n + 1) _ (by rw [List.length_drop]; omega)

/-- The folders above hold no characters that the folder does not hold. -/
theorem notMem_above {folder : Text} {c : Char} (hc : c ≠ '/') (h : c ∉ folder) (n : Nat) :
    c ∉ ofNames (above folder n) := by
  intro hmem
  rcases Text.mem_join hmem with hslash | ⟨s, hs, hcs⟩
  · exact hc (List.mem_singleton.mp hslash)
  · have hpart : s ∈ Text.split '/' folder := (mem_parts.mp (List.mem_of_mem_take hs)).1
    rw [← Text.join_split '/' folder] at h
    exact h (Text.mem_join_of_mem hpart hcs)

theorem above_eq_nil_iff {folder : Text} {n : Nat} (h : n ≤ (parts folder).length) :
    above folder n = [] ↔ n = (parts folder).length := by
  rw [above, List.take_eq_nil_iff]
  constructor
  · rintro (hzero | hnil)
    · omega
    · rw [hnil] at h ⊢
      exact Nat.le_zero.mp h
  · intro heq
    left
    omega

end Path

namespace Registry

variable {r : Registry}

theorem findByPath_empty (h : r.isIndexed [] = false) : r.findByPath [] = none := by
  have hnone : r.lookup [] = none := by simpa [isIndexed] using h
  unfold findByPath
  rw [hnone]
  rfl

theorem isIndexed_eq_false (hnormal : ∀ key ∈ r.keys, Path.IsNormal key) {path : Text}
    (h : ¬ Path.IsNormal path) : r.isIndexed path = false := by
  rw [Bool.eq_false_iff, ne_eq, isIndexed_iff]
  exact fun hmem => h (hnormal path hmem)

/-- Where no script file has the path, the index files of the folder are next. -/
theorem find?_suffixes {path : Text}
    (hfree : ∀ e ∈ Path.scriptSuffixes, r.isIndexed (path ++ e) = false) :
    Path.suffixes.find? (fun e => r.isIndexed (path ++ e)) =
      Path.indexSuffixes.find? fun e => r.isIndexed (path ++ e) := by
  have hnone : Path.scriptSuffixes.find? (fun e => r.isIndexed (path ++ e)) = none := by
    rw [List.find?_eq_none]
    intro e he
    simp [hfree e he]
  rw [Path.suffixes_eq, List.find?_append, hnone, Option.none_or]

/-- At the top the endings of index files make no path of a file. -/
theorem find?_suffixes_top (hnormal : ∀ key ∈ r.keys, Path.IsNormal key)
    (hfree : ∀ e ∈ Path.scriptSuffixes, r.isIndexed ([] ++ e) = false) :
    Path.suffixes.find? (fun e => r.isIndexed ([] ++ e)) = none := by
  have hrooted : ∀ e ∈ Path.indexSuffixes, ¬ Path.IsNormal ([] ++ e) := by decide
  rw [find?_suffixes hfree, List.find?_eq_none]
  intro e he
  rw [isIndexed_eq_false hnormal (hrooted e he)]
  exact Bool.false_ne_true

theorem find?_suffixes_indexFile {folders : List Text} (hne : folders ≠ [])
    (hfree : ∀ e ∈ Path.scriptSuffixes, r.isIndexed (Path.ofNames folders ++ e) = false)
    (hindex : r.isIndexed (Path.indexFile folders) = true) :
    Path.suffixes.find? (fun e => r.isIndexed (Path.ofNames folders ++ e)) =
      some ("/index.js" : Text) := by
  rw [Path.indexFile_eq hne] at hindex
  rw [find?_suffixes hfree]
  exact List.find?_cons_of_pos hindex

/-- An import of a folder above finds the index file of that folder, if no script file has the path
of the folder. At the top it finds nothing. -/
theorem resolve_upward (hnormal : ∀ key ∈ r.keys, Path.IsNormal key) {source : Text}
    (hdot : '.' ∉ Path.folder source) {k : Nat}
    (hk : k ≤ (Path.parts (Path.folder source)).length)
    (hfree : ∀ e ∈ Path.scriptSuffixes,
      r.isIndexed (Path.ofNames (Path.above (Path.folder source) k) ++ e) = false) {n : Node}
    (hindex : r.lookup (Path.indexFile (Path.above (Path.folder source) k)) = some n) :
    r.resolve source ⟨.javascript, Path.upward k⟩ =
      if k = (Path.parts (Path.folder source)).length then none else some n := by
  have hwalk : Path.walk (Path.folder source) (Path.upward k) =
      Path.ofNames (Path.above (Path.folder source) k) := by
    rw [Path.walk_eq, Path.reached_upward hk]
  have hpath : '.' ∉ Path.walk (Path.folder source) (Path.upward k) := by
    rw [hwalk]
    exact Path.notMem_above (by decide) hdot k
  rw [resolve_javascript, resolvePath_of_no_dot hpath, hwalk]
  have htop := Path.above_eq_nil_iff hk
  by_cases hnil : Path.above (Path.folder source) k = []
  · rw [if_pos (htop.mp hnil)]
    rw [hnil] at hfree ⊢
    change r.findByPath ([] ++ (Path.suffixes.find? fun e => r.isIndexed ([] ++ e)).getD []) = none
    rw [find?_suffixes_top hnormal hfree]
    exact findByPath_empty (isIndexed_eq_false hnormal (by decide))
  · have hindexed : r.isIndexed (Path.indexFile (Path.above (Path.folder source) k)) = true := by
      rw [isIndexed, hindex]
      rfl
    rw [if_neg fun heq => hnil (htop.mpr heq), find?_suffixes_indexFile hnil hfree hindexed,
      Option.getD_some, ← Path.indexFile_eq hnil]
    exact findByPath_of_lookup hindex

/-- Two files in a folder of the top, each folder with its index file. -/
def indexed : Registry :=
  ofPaths ["index.js", "src/index.js", "src/db/pool.js"]

theorem isNormal_indexed : ∀ key ∈ indexed.keys, Path.IsNormal key := by
  have hkeys : indexed.keys = ["index.js", "src/index.js", "src/db/pool.js"] := by decide +kernel
  rw [hkeys]
  decide

/-- The index file at the top is not found. -/
theorem not_resolve_upward_indexed :
    ¬ ∀ (r : Registry) (source : Text) (k : Nat) (n : Node), (∀ key ∈ r.keys, Path.IsNormal key) →
      '.' ∉ Path.folder source → k ≤ (Path.parts (Path.folder source)).length →
      (∀ e ∈ Path.scriptSuffixes,
        r.isIndexed (Path.ofNames (Path.above (Path.folder source) k) ++ e) = false) →
      r.lookup (Path.indexFile (Path.above (Path.folder source) k)) = some n →
      r.resolve source ⟨.javascript, Path.upward k⟩ = some n := by
  intro h
  have hindex : (indexed.lookup "index.js").isSome = true := by decide +kernel
  obtain ⟨n, hn⟩ := Option.isSome_iff_exists.mp hindex
  have hfound := h indexed "src/db/pool.js" 2 n isNormal_indexed (by decide) (by decide)
    (by decide +kernel) hn
  have hmissed : indexed.resolve "src/db/pool.js" ⟨.javascript, Path.upward 2⟩ = none := by
    decide +kernel
  rw [hmissed] at hfound
  cases hfound

theorem resolve_upward_indexed :
    (∀ key ∈ indexed.keys, Path.IsNormal key) ∧ '.' ∉ Path.folder "src/db/pool.js" ∧
    1 ≤ (Path.parts (Path.folder "src/db/pool.js")).length ∧
    (∀ e ∈ Path.scriptSuffixes, indexed.isIndexed ("src" ++ e) = false) ∧
    ∃ n, indexed.lookup "src/index.js" = some n ∧
      indexed.resolve "src/db/pool.js" ⟨.javascript, ".."⟩ = some n := by
  have hindex : (indexed.lookup "src/index.js").isSome = true := by decide +kernel
  obtain ⟨n, hn⟩ := Option.isSome_iff_exists.mp hindex
  have hdot : '.' ∉ Path.folder "src/db/pool.js" := by decide
  have hdepth : 1 ≤ (Path.parts (Path.folder "src/db/pool.js")).length := by decide
  have hfree : ∀ e ∈ Path.scriptSuffixes, indexed.isIndexed ("src" ++ e) = false := by
    decide +kernel
  have hfound := resolve_upward isNormal_indexed hdot hdepth hfree hn
  rw [if_neg (by decide)] at hfound
  exact ⟨isNormal_indexed, hdot, hdepth, hfree, n, hn, hfound⟩

end Registry
end CodeGraph
