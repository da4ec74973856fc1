import CodeGraph.Proofs.Registry.Endings

/-! Relative paths between files. From the folder of a file up to any folder that it shares with
another file and down again, an import finds that other file, whatever else is registered. -/
namespace CodeGraph

namespace Path

/-- The segments in front of the name. -/
def folders (path : Text) : List Text :=
  (Text.split '/' path).dropLast

/-- How many segments two lists begin with in common. -/
def shared : List Text → List Text → Nat
  | a :: as, b :: bs => if a = b then shared as bs + 1 else 0
  | _, _ => 0

/-- The relative path from one file to another by way of the first `m` folders of both. -/
def relative (m : Nat) (source target : Text) : Text :=
  climb ((folders source).length - m) ++ ofNames ((Text.split '/' target).drop m)

theorem folders_concat (path : Text) : ∃ name, Text.split '/' path = folders path ++ [name] :=
  ⟨_, (List.dropLast_append_getLast (Text.split_ne_nil '/' path)).symm⟩

theorem take_eq_of_le_shared {as bs : List Text} {m : Nat} (h : m ≤ shared as bs) :
    as.take m = bs.take m := by
  induction as generalizing bs m with
  | nil => rw [Nat.le_zero.mp h, List.take_zero, List.take_zero]
  | cons a as ih =>
    cases bs with
    | nil => rw [Nat.le_zero.mp h, List.take_zero, List.take_zero]
    | cons b bs =>
      unfold shared at h
      split_ifs at h with heq
      · cases m with
        | zero => rfl
        | succ m =>
          rw [List.take_succ_cons, List.take_succ_cons, heq, ih (Nat.le_of_succ_le_succ h)]
      · rw [Nat.le_zero.mp h, List.take_zero, List.take_zero]

theorem shared_le (as bs : List Text) : shared as bs ≤ bs.length := by
  induction as generalizing bs with
  | nil => exact Nat.zero_le _
  | cons a as ih =>
    cases bs with
    | nil => exact Nat.le_refl _
    | cons b bs =>
      unfold shared
      split_ifs
      · exact Nat.succ_le_succ (ih bs)
      · exact Nat.zero_le _

theorem leads_relative {source target : Text} (hsource : IsNormal source)
    (htarget : IsNormal target) {m : Nat} (hm : m ≤ shared (folders source) (folders target)) :
    Leads source (relative m source target) target := by
  obtain ⟨name, hname⟩ := folders_concat source
  obtain ⟨last, hlast⟩ := folders_concat target
  have hsources := isNormal_iff.mp hsource
  have htargets := isNormal_iff.mp htarget
  rw [hname, List.forall_mem_append, List.forall_mem_singleton] at hsources
  have hlength : m ≤ (folders target).length := hm.trans (shared_le _ _)
  have hcommon : (Text.split '/' target).take m = (folders source).take m := by
    rw [hlast, List.take_append_of_le_length hlength, take_eq_of_le_shared hm]
  have hpath : source = ofNames ((folders source).take m ++ (folders source).drop m ++ [name]) := by
    rw [List.take_append_drop, ← hname]
    exact (Text.join_split '/' source).symm
  have hdown : (folders source).length - m = ((folders source).drop m).length :=
    List.length_drop.symm
  have hrest : target = ofNames ((folders source).take m ++ (Text.split '/' target).drop m) := by
    rw [← hcommon, List.take_append_drop]
    exact (Text.join_split '/' target).symm
  have hleads := Leads.mk ((folders source).take m) ((folders source).drop m)
    ((Text.split '/' target).drop m) name
    (fun s hs => hsources.1 s (List.mem_of_mem_take hs))
    (fun s hs => hsources.1 s (List.mem_of_mem_drop hs)) hsources.2
    (fun s hs => htargets s (List.mem_of_mem_drop hs))
    (by rw [hlast, List.drop_append_of_le_length hlength]; simp)
  rw [← hpath, ← hrest, ← hdown] at hleads
  exact hleads

end Path

namespace Registry

theorem resolve_of_leads {r : Registry} {source raw target : Text}
    (hleads : Path.Leads source raw target) (hdot : '.' ∈ target) {n : Node}
    (hn : r.lookup target = some n) : r.resolve source ⟨.javascript, raw⟩ = some n := by
  have hwalk : Path.walk (Path.folder source) raw = target := hleads.walk_folder
  rw [resolve_javascript, resolvePath_of_dot (hwalk.symm ▸ hdot), hwalk]
  exact findByPath_of_lookup hn

namespace Usage

/-- However a registry was called and will be called, an import by the relative path to a registered
file finds that file, by way of any folder that the two share. -/
theorem resolve_relative (digits : DigitStream) (calls later : List Call) {source target : Text}
    (hsource : Path.IsNormal source) (htarget : Path.IsNormal target) (hdot : '.' ∈ target)
    {m : Nat} (hm : m ≤ Path.shared (Path.folders source) (Path.folders target)) {n : Node}
    (hn : (run digits calls).registry.lookup target = some n) :
    (run digits calls).registry.resolve source ⟨.javascript, Path.relative m source target⟩ =
        some n ∧
      ∃ n', (run digits (calls ++ later)).registry.resolve source
          ⟨.javascript, Path.relative m source target⟩ = some n' ∧
        n'.id = n.id ∧ n'.bare = n.bare := by
  have hleads := Path.leads_relative hsource htarget hm
  have hextends := extends_foldl_call (run digits calls) later
  rw [← run_append] at hextends
  obtain ⟨n', hn', hid, hbare⟩ := hextends.lookup hn
  exact ⟨resolve_of_leads hleads hdot hn, n', resolve_of_leads hleads hdot hn', hid, hbare⟩

/-- A registry in which an endpoint and a file end with the path of another file. -/
def crowded : List Call :=
  [.add { id := [], name := "/app/users.js", kind := .endpoint, path := "/app/users.js" },
    .register "lib/app/users.js" (Scan.fileNode "lib/app/users.js"),
    .register "app/users.js" (Scan.fileNode "app/users.js")]

theorem resolve_relative_crowded :
    Path.IsNormal "app/web/main.js" ∧ Path.IsNormal "app/users.js" ∧
    1 ≤ Path.shared (Path.folders "app/web/main.js") (Path.folders "app/users.js") ∧
    Path.relative 1 "app/web/main.js" "app/users.js" = "../users.js" ∧
    ∃ n, (run {} crowded).registry.lookup "app/users.js" = some n ∧
      (run {} crowded).registry.resolve "app/web/main.js" ⟨.javascript, "../users.js"⟩ = some n ∧
      ∃ n', (run {} (crowded ++ [.newId, .detect "app.get('users.js')" n])).registry.resolve
          "app/web/main.js" ⟨.javascript, "../users.js"⟩ = some n' ∧
        n'.id = n.id ∧ n'.bare = n.bare := by
  have hsource : Path.IsNormal "app/web/main.js" := by decide
  have htarget : Path.IsNormal "app/users.js" := by decide
  have hshared :
      1 ≤ Path.shared (Path.folders "app/web/main.js") (Path.folders "app/users.js") := by decide
  have hregistered : ((run {} crowded).registry.lookup "app/users.js").isSome = true := by
    decide +kernel
  obtain ⟨n, hn⟩ := Option.isSome_iff_exists.mp hregistered
  exact ⟨hsource, htarget, hshared, by decide, n, hn,
    resolve_relative {} crowded [.newId, .detect "app.get('users.js')" n] hsource htarget
      (by decide) hshared hn⟩

end Usage
end Registry
end CodeGraph
