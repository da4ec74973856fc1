import Mathlib.Data.List.Perm.Basic
import Mathlib.Logic.Relation

/-! Readings on a pool of workers. However many workers there are, every order of completion is
possible, and every reading completes once. -/
namespace CodeGraph

/-- The numbers of the readings that wait for a worker, that are in progress, that are done, and
that were taken in, the last in that order. -/
structure Pool where
  waiting : List Nat
  running : List Nat
  done : List Nat
  taken : List Nat
deriving DecidableEq, Repr

namespace Pool

def start (count : Nat) : Pool :=
  ⟨List.range count, [], [], []⟩

def finished (order : List Nat) : Pool :=
  ⟨[], [], [], order⟩

/-- Readings begin in order while there is a free worker. They end in any order, and are taken in
in any order among those that ended. -/
inductive Step (workers : Nat) : Pool → Pool → Prop
  | begins {i : Nat} {waiting running done taken : List Nat} (h : running.length < workers) :
    Step workers ⟨i :: waiting, running, done, taken⟩ ⟨waiting, i :: running, done, taken⟩
  | ends {i : Nat} {waiting before after done taken : List Nat} :
    Step workers ⟨waiting, before ++ i :: after, done, taken⟩
      ⟨waiting, before ++ after, i :: done, taken⟩
  | takes {i : Nat} {waiting running before after taken : List Nat} :
    Step workers ⟨waiting, running, before ++ i :: after, taken⟩
      ⟨waiting, running, before ++ after, taken ++ [i]⟩

abbrev Steps (workers : Nat) : Pool → Pool → Prop :=
  Relation.ReflTransGen (Step workers)

/-- A pool can take in its readings in this order. -/
def Yields (workers count : Nat) (order : List Nat) : Prop :=
  Steps workers (start count) (finished order)

def all (p : Pool) : List Nat :=
  p.waiting ++ p.running ++ p.done ++ p.taken

variable {workers : Nat}

theorem Step.perm {p q : Pool} (h : Step workers p q) : q.all.Perm p.all := by
  unfold all
  cases h with
  | @begins i waiting running done taken _ =>
    simp only [List.append_assoc, List.cons_append]
    exact List.perm_middle
  | @ends i waiting before after done taken =>
    simp only [List.append_assoc, List.cons_append]
    refine List.Perm.append_left waiting (List.Perm.append_left before ?_)
    exact List.perm_middle
  | @takes i waiting running before after taken =>
    simp only [List.append_assoc, List.cons_append]
    refine List.Perm.append_left waiting (List.Perm.append_left running
      (List.Perm.append_left before ?_))
    rw [← List.append_assoc]
    exact List.perm_append_singleton i (after ++ taken)

theorem Steps.perm {p q : Pool} (h : Steps workers p q) : q.all.Perm p.all := by
  induction h with
  | refl => exact List.Perm.refl _
  | tail _ hstep ih => exact hstep.perm.trans ih

theorem Yields.perm {count : Nat} {order : List Nat} (h : Yields workers count order) :
    order.Perm (List.range count) := by
  have hall := Steps.perm h
  simpa [all, start, finished] using hall

theorem steps_end (waiting running done taken : List Nat) :
    Steps workers ⟨waiting, running, done, taken⟩ ⟨waiting, [], running.reverse ++ done, taken⟩ := by
  induction running generalizing done with
  | nil => exact .refl
  | cons i running ih =>
    have hstep : Step workers ⟨waiting, i :: running, done, taken⟩
        ⟨waiting, running, i :: done, taken⟩ := @Step.ends workers i waiting [] running done taken
    rw [List.reverse_cons, List.append_assoc]
    exact .head hstep (ih (i :: done))

/-- A single worker is enough to begin and end all readings that wait. -/
theorem steps_begin (hworkers : 0 < workers) (waiting done taken : List Nat) :
    Steps workers ⟨waiting, [], done, taken⟩ ⟨[], [], waiting.reverse ++ done, taken⟩ := by
  induction waiting generalizing done with
  | nil => exact .refl
  | cons i waiting ih =>
    have hbegin : Step workers ⟨i :: waiting, [], done, taken⟩ ⟨waiting, [i], done, taken⟩ :=
      Step.begins hworkers
    rw [List.reverse_cons, List.append_assoc]
    exact .head hbegin ((steps_end waiting [i] done taken).trans (ih (i :: done)))

/-- Readings that ended can be taken in in every order. -/
theorem steps_take {order done : List Nat} (h : order.Perm done) (taken : List Nat) :
    Steps workers ⟨[], [], done, taken⟩ (finished (taken ++ order)) := by
  induction order generalizing done taken with
  | nil =>
    rw [List.nil_perm.mp h, List.append_nil]
    exact .refl
  | cons i order ih =>
    obtain ⟨before, after, rfl⟩ := List.append_of_mem (h.subset List.mem_cons_self)
    have hrest : order.Perm (before ++ after) := (h.trans List.perm_middle).cons_inv
    have hfinish := ih hrest (taken ++ [i])
    rw [List.append_assoc, List.singleton_append] at hfinish
    exact .head Step.takes hfinish

/-- A pool with a worker is never stuck: it can always go on until everything is taken in. -/
theorem exists_steps_finished (hworkers : 0 < workers) (p : Pool) :
    ∃ order, Steps workers p (finished order) := by
  obtain ⟨waiting, running, done, taken⟩ := p
  exact ⟨_, (steps_end waiting running done taken).trans
    ((steps_begin hworkers waiting _ taken).trans (steps_take (List.Perm.refl _) taken))⟩

theorem yields_of_perm (hworkers : 0 < workers) {count : Nat} {order : List Nat}
    (h : order.Perm (List.range count)) : Yields workers count order := by
  have hended : order.Perm ((List.range count).reverse ++ []) := by
    rw [List.append_nil]
    exact h.trans (List.reverse_perm _).symm
  exact (steps_begin hworkers (List.range count) [] []).trans (steps_take hended [])

/-- The workers that a scan has unless others are asked for. -/
def usualWorkers : Int := 8

/-- The workers of a pool for `count` readings. Where none are asked for it has the usual ones, and
no more than there are readings. -/
def size (asked : Option Int) (count : Nat) : Nat :=
  let wanted := asked.getD 0
  min (max 1 (if wanted = 0 then usualWorkers else wanted)).toNat count

theorem size_pos (asked : Option Int) {count : Nat} (h : 0 < count) : 0 < size asked count := by
  unfold size
  simp only
  omega

theorem yields_size (asked : Option Int) {count : Nat} {order : List Nat}
    (h : order.Perm (List.range count)) : Yields (size asked count) count order := by
  rcases Nat.eq_zero_or_pos count with rfl | hcount
  · rw [List.range_zero] at h
    rw [List.perm_nil.mp h]
    exact .refl
  · exact yields_of_perm (size_pos asked hcount) h

/-- Whatever the pool has done so far, it can go on until everything is taken in. -/
theorem exists_steps_finished_of_start (asked : Option Int) {count : Nat} {p : Pool}
    (h : Steps (size asked count) (start count) p) :
    ∃ order, Steps (size asked count) p (finished order) := by
  rcases Nat.eq_zero_or_pos count with rfl | hcount
  · have hall : p.all = [] := List.perm_nil.mp (Steps.perm h)
    obtain ⟨waiting, running, done, taken⟩ := p
    unfold all at hall
    simp only [List.append_eq_nil_iff] at hall
    obtain ⟨⟨⟨rfl, rfl⟩, rfl⟩, rfl⟩ := hall
    exact ⟨[], .refl⟩
  · exact exists_steps_finished (size_pos asked hcount) p

end Pool
end CodeGraph
