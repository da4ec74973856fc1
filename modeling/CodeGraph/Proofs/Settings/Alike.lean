import CodeGraph.Proofs.Json.Fields
import CodeGraph.Toml.Value
import Mathlib.Data.Option.Basic

/-! Values of settings that agree but for the order of the keys in their tables. -/
namespace CodeGraph

inductive Toml.Value.Alike : Value → Value → Prop
  | refl (v : Value) : Alike v v
  | arr {vs ws : List Value} (length_eq : vs.length = ws.length)
      (items : ∀ (i : Nat) v w, vs[i]? = some v → ws[i]? = some w → Alike v w) :
      Alike (.arr vs) (.arr ws)
  | obj {fs gs : Toml.Table} (missing : ∀ key, fs.get? key = none ↔ gs.get? key = none)
      (values : ∀ key v w, fs.get? key = some v → gs.get? key = some w → Alike v w) :
      Alike (.obj fs) (.obj gs)

/-- The same keys, with values that agree. -/
def Fields.Alike (fs gs : Toml.Table) : Prop :=
  ∀ key, Option.Rel Toml.Value.Alike (fs.get? key) (gs.get? key)

namespace Toml.Value

variable {v w x : Value} {fs gs : Table}

theorem Alike.trans (h : Alike v w) (h' : Alike w x) : Alike v x := by
  induction h generalizing x with
  | refl => exact h'
  | arr length_eq items ih =>
    cases h' with
    | refl => exact .arr length_eq items
    | arr length_eq' items' =>
      refine .arr (length_eq.trans length_eq') fun i v x hv hx => ?_
      obtain ⟨hi, -⟩ := List.getElem?_eq_some_iff.mp hv
      have hw := List.getElem?_eq_getElem (length_eq ▸ hi)
      exact ih i v _ hv hw (items' i _ x hw hx)
  | @obj fs gs missing values ih =>
    cases h' with
    | refl => exact .obj missing values
    | obj missing' values' =>
      refine .obj (fun key => (missing key).trans (missing' key)) fun key v x hv hx => ?_
      -- The object in the middle has the key too, since the first one has it.
      obtain ⟨w, hw⟩ : ∃ w, gs.get? key = some w := by
        refine Option.ne_none_iff_exists'.mp fun hnone => ?_
        rw [(missing key).mpr hnone] at hv
        cases hv
      exact ih key v w hv hw (values' key w x hw hx)

theorem alike_obj_iff : Alike (.obj fs) (.obj gs) ↔ fs.Alike gs := by
  constructor
  · intro h key
    cases h with
    | refl =>
      cases fs.get? key with
      | none => exact .none
      | some v => exact .some (.refl v)
    | obj missing values =>
      cases hf : fs.get? key with
      | none => rw [(missing key).mp hf]; exact .none
      | some v =>
        cases hg : gs.get? key with
        | none => rw [(missing key).mpr hg] at hf; cases hf
        | some w => exact .some (values key v w hf hg)
  · intro h
    refine .obj (fun key => ?_) fun key v w hv hw => ?_
    · have hrel := h key
      generalize fs.get? key = a at hrel
      generalize gs.get? key = b at hrel
      cases hrel <;> simp
    · have hrel := h key
      rw [hv, hw] at hrel
      cases hrel with
      | some hvw => exact hvw

end Toml.Value

namespace Fields.Alike

variable {fs gs hs : Toml.Table} {v w : Toml.Value}

theorem refl (fs : Toml.Table) : fs.Alike fs :=
  Toml.Value.alike_obj_iff.mp (.refl _)

theorem trans (h : fs.Alike gs) (h' : gs.Alike hs) : fs.Alike hs :=
  Toml.Value.alike_obj_iff.mp
    ((Toml.Value.alike_obj_iff.mpr h).trans (Toml.Value.alike_obj_iff.mpr h'))

theorem set (h : fs.Alike gs) (hvw : v.Alike w) (key : Text) :
    (fs.set key v).Alike (gs.set key w) := by
  intro key'
  rw [get?_set, get?_set]
  split_ifs
  · exact .some hvw
  · exact h key'

theorem erase (h : fs.Alike gs) (key : Text) : (fs.erase key).Alike (gs.erase key) := by
  intro key'
  rw [get?_erase, get?_erase]
  split_ifs
  · exact .none
  · exact h key'

theorem update (h : fs.Alike gs) (new : Toml.Table) : (fs.update new).Alike (gs.update new) := by
  intro key
  rw [get?_update, get?_update]
  cases get? key new.reverse with
  | none => exact h key
  | some v => exact .some (.refl v)

end Fields.Alike
end CodeGraph
