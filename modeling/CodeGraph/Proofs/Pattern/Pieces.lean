import CodeGraph.Source.Route
import Mathlib.Data.List.TakeWhile
import Mathlib.Tactic.SplitIfs

/-! What the pieces of patterns read: fixed words, blanks before a character, quoted texts. -/
namespace CodeGraph

namespace Text

theorem dropPrefix?_eq_some_iff {p t rest : Text} :
    dropPrefix? p t = some rest ↔ t = p ++ rest := by
  induction p generalizing t with
  | nil => simp [dropPrefix?]
  | cons a p ih =>
    cases t with
    | nil => simp [dropPrefix?]
    | cons c t =>
      rw [dropPrefix?]
      split_ifs with h
      · rw [ih, h, List.cons_append, List.cons.injEq, and_iff_right rfl]
      · refine iff_of_false (by simp) fun heq => h ?_
        exact (List.cons.inj heq).1.symm

/-- What stands behind blanks and is none itself. -/
theorem stripLeft_eq_cons_iff {t rest : Text} {c : Char} (hc : isBlank c = false) :
    stripLeft t = c :: rest ↔
      ∃ blanks : Text, (∀ x ∈ blanks, isBlank x = true) ∧ t = blanks ++ c :: rest := by
  constructor
  · intro h
    refine ⟨t.takeWhile isBlank, fun x hx => List.mem_takeWhile_imp hx, ?_⟩
    rw [← h]
    exact (List.takeWhile_append_dropWhile).symm
  · rintro ⟨blanks, hblanks, rfl⟩
    unfold stripLeft
    rw [List.dropWhile_append_of_pos hblanks, List.dropWhile_cons_of_neg (by simp [hc])]

end Text

theorem guard_bind {α : Type} {b : Bool} {f : Unit → Option α} (h : b = true) :
    ((guard (b = true) : Option Unit) >>= f) = f () := by
  subst h
  rfl

theorem guard_bind_eq_some_iff {α : Type} {b : Bool} {f : Unit → Option α} {a : α} :
    ((guard (b = true) : Option Unit) >>= f) = some a ↔ b = true ∧ f () = some a := by
  cases b with
  | false =>
    refine iff_of_false ?_ (by simp)
    change none ≠ some a
    simp
  | true => exact (and_iff_right rfl).symm

theorem isBlank_of_isQuote {c : Char} (h : isQuote c = true) : Text.isBlank c = false := by
  unfold isQuote at h
  rw [Bool.or_eq_true, beq_iff_eq, beq_iff_eq] at h
  rcases h with rfl | rfl <;> decide

theorem char?_eq_some_iff {c : Char} {t rest : Text} : char? c t = some rest ↔ t = c :: rest := by
  cases t with
  | nil => simp [char?]
  | cons x t =>
    rw [char?]
    split_ifs with h
    · rw [Option.some_inj, h, List.cons.injEq, and_iff_right rfl]
    · refine iff_of_false (by simp) fun heq => h ?_
      exact (List.cons.inj heq).1

theorem dropIgnoringCase?_eq_some_iff {word t rest : Text} :
    dropIgnoringCase? word t = some rest ↔
      ∃ start : Text, t = start ++ rest ∧ start.map foldLetter = word := by
  induction word generalizing t with
  | nil => simp [dropIgnoringCase?]
  | cons a word ih =>
    cases t with
    | nil => simp [dropIgnoringCase?]
    | cons c t =>
      rw [dropIgnoringCase?]
      constructor
      · intro h
        split_ifs at h with hc
        obtain ⟨start, rfl, hword⟩ := ih.mp h
        exact ⟨c :: start, rfl, by rw [List.map_cons, hc, hword]⟩
      · rintro ⟨start, ht, hword⟩
        cases start with
        | nil => exact absurd hword (by simp)
        | cons d start =>
          obtain ⟨rfl, rfl⟩ := List.cons.inj ht
          obtain ⟨hc, hrest⟩ := List.cons.inj hword
          rw [if_pos hc]
          exact ih.mpr ⟨start, rfl, hrest⟩

/-- A text has one part before its first character of a sort and one behind. -/
theorem Text.append_mark_inj (sort : Char → Bool) {x y rest rest' : Text} {q q' : Char}
    (hx : ∀ c ∈ x, sort c = false) (hy : ∀ c ∈ y, sort c = false) (hq : sort q = true)
    (hq' : sort q' = true) (h : x ++ q :: rest = y ++ q' :: rest') :
    x = y ∧ q = q' ∧ rest = rest' := by
  induction x generalizing y with
  | nil =>
    cases y with
    | nil => exact ⟨rfl, List.cons.inj h⟩
    | cons c y =>
      have hc := hy c List.mem_cons_self
      rw [← (List.cons.inj h).1, hq] at hc
      exact absurd hc (by decide)
  | cons a x ih =>
    cases y with
    | nil =>
      have ha := hx a List.mem_cons_self
      rw [(List.cons.inj h).1, hq'] at ha
      exact absurd ha (by decide)
    | cons c y =>
      obtain ⟨rfl, htail⟩ := List.cons.inj h
      obtain ⟨rfl, hrest⟩ := ih (fun c hc => hx c (List.mem_cons_of_mem a hc))
        (fun c hc => hy c (List.mem_cons_of_mem a hc)) htail
      exact ⟨rfl, hrest⟩

theorem append_quote_inj {x y rest rest' : Text} {q q' : Char} (hx : ∀ c ∈ x, isQuote c = false)
    (hy : ∀ c ∈ y, isQuote c = false) (hq : isQuote q = true) (hq' : isQuote q' = true)
    (h : x ++ q :: rest = y ++ q' :: rest') : x = y ∧ q = q' ∧ rest = rest' :=
  Text.append_mark_inj isQuote hx hy hq hq' h

theorem quotedText?_eq_some_iff {t path rest : Text} :
    quotedText? t = some (path, rest) ↔ ∃ q q', isQuote q = true ∧ isQuote q' = true ∧
      path ≠ [] ∧ (∀ c ∈ path, isQuote c = false) ∧ t = q :: (path ++ q' :: rest) := by
  constructor
  · intro h
    cases t with
    | nil => simp [quotedText?] at h
    | cons q t =>
      rw [quotedText?] at h
      split_ifs at h with hq
      split at h
      · next c cs q' rest' htake hdrop =>
        obtain ⟨rfl, rfl⟩ := Prod.mk.inj (Option.some.inj h)
        have hq' : isQuote q' = true := by
          have hhead := List.head_dropWhile_not (fun x => !isQuote x) (l := t) (by simp [hdrop])
          simpa [hdrop] using hhead
        refine ⟨q, q', hq, hq', by simp, fun x hx => ?_, ?_⟩
        · rw [← htake] at hx
          simpa using List.mem_takeWhile_imp hx
        · rw [← htake, ← hdrop, List.takeWhile_append_dropWhile]
      · exact absurd h (by simp)
  · rintro ⟨q, q', hq, hq', hne, hpath, rfl⟩
    have hpath' : ∀ c ∈ path, (!isQuote c) = true := fun c hc => by simp [hpath c hc]
    have htake : (path ++ q' :: rest).takeWhile (!isQuote ·) = path := by
      rw [List.takeWhile_append_of_pos hpath', List.takeWhile_cons_of_neg (by simp [hq']),
        List.append_nil]
    have hdrop : (path ++ q' :: rest).dropWhile (!isQuote ·) = q' :: rest := by
      rw [List.dropWhile_append_of_pos hpath', List.dropWhile_cons_of_neg (by simp [hq'])]
    rw [quotedText?, if_pos hq, htake, hdrop]
    cases path with
    | nil => exact absurd rfl hne
    | cons c cs => rfl

end CodeGraph
