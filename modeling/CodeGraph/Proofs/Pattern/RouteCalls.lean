import CodeGraph.Proofs.Pattern.Passing
import CodeGraph.Proofs.Pattern.Pieces
import Mathlib.Data.Bool.AllAny
import Mathlib.Data.List.Nodup

/-! Calls that register routes: each is found once and under the verb that stands in the text. Calls
with plain text around them are found as they were written. -/
namespace CodeGraph

namespace Verb

/-- The small letters of the verbs. -/
def letters : Text :=
  "acdeghlopstu"

theorem word_subset (v : Verb) : v.word ⊆ letters := by
  cases v <;> decide

theorem map_toUpper_word (v : Verb) : v.word.map Char.toUpper = v.method := by
  cases v <;> decide

theorem word_ne_nil (v : Verb) : v.word ≠ [] := by
  cases v <;> decide

theorem mem_all (v : Verb) : v ∈ all := by
  cases v <;> decide

/-- No verb begins with another. -/
theorem eq_of_prefix {v w : Verb} (h : v.word <+: w.word) : v = w := by
  revert h
  cases v <;> cases w <;> decide

theorem eq_of_prefixes {v w : Verb} {t : Text} (hv : v.word <+: t) (hw : w.word <+: t) :
    v = w := by
  rcases List.prefix_or_prefix_of_prefix hv hw with h | h
  · exact eq_of_prefix h
  · exact (Verb.eq_of_prefix h).symm

/-- No verb ends with another. -/
theorem eq_of_suffix {v w : Verb} (h : v.word <:+ w.word) : v = w := by
  revert h
  cases v <;> cases w <;> decide

theorem eq_of_suffixes {v w : Verb} {t : Text} (hv : v.word <:+ t) (hw : w.word <:+ t) :
    v = w := by
  rcases List.suffix_or_suffix_of_suffix hv hw with h | h
  · exact eq_of_suffix h
  · exact (eq_of_suffix h).symm

end Verb

/-- The capital of a letter that may stand in a verb, where the long s is a small `s`. -/
def capital (c : Char) : Char :=
  if c = 'ſ' then 'S' else c.toUpper

/-- A letter counts as a letter of a verb as it is, as a capital, or as the long s. -/
theorem eq_of_foldLetter {c a : Char} (h : foldLetter c = a) (ha : a ∈ Verb.letters) :
    c = a ∨ c = a.toUpper ∨ c = 'ſ' ∧ a = 's' := by
  unfold foldLetter at h
  split_ifs at h with hs hi hk
  · exact Or.inr (Or.inr ⟨hs, h.symm⟩)
  · exact absurd ha (h ▸ by decide)
  · exact absurd ha (h ▸ by decide)
  · unfold Char.toLower at h
    split_ifs at h with hupper
    · have hshift : ∀ a ∈ Verb.letters, a.toUpper.val = a.val - ('a'.val - 'A'.val) :=
        List.all_iff_forall_prop.mp (by decide)
      refine Or.inr (Or.inl (Char.ext ?_))
      rw [hshift a ha, ← h]
      exact (UInt32.add_sub_cancel _ _).symm
    · exact Or.inl h

theorem capital_of_foldLetter {c a : Char} (h : foldLetter c = a) (ha : a ∈ Verb.letters) :
    capital c = a.toUpper ∧ Text.isBlank c = false := by
  have hletters : ∀ a ∈ Verb.letters, (capital a = a.toUpper ∧ Text.isBlank a = false) ∧
      capital a.toUpper = a.toUpper ∧ Text.isBlank a.toUpper = false :=
    List.all_iff_forall_prop.mp (by decide)
  rcases eq_of_foldLetter h ha with rfl | rfl | ⟨rfl, rfl⟩
  · exact (hletters c ha).1
  · exact (hletters a ha).2
  · decide

theorem map_capital {v : Verb} {word : Text} (h : word.map foldLetter = v.word) :
    word.map capital = v.method := by
  rw [← v.map_toUpper_word, ← h, List.map_map]
  apply List.map_congr_left
  intro c hc
  exact (capital_of_foldLetter rfl (v.word_subset (h ▸ List.mem_map_of_mem hc))).1

theorem isBlank_of_map_foldLetter {v : Verb} {word : Text} (h : word.map foldLetter = v.word) :
    ∀ c ∈ word, Text.isBlank c = false :=
  fun _ hc => (capital_of_foldLetter rfl (v.word_subset (h ▸ List.mem_map_of_mem hc))).2

/-- Neither a quote nor an opening parenthesis. -/
def IsPlain (c : Char) : Prop :=
  isQuote c = false ∧ c ≠ '('

instance : DecidablePred IsPlain := fun _ => inferInstanceAs (Decidable (_ ∧ _))

theorem isPlain_of_foldLetter {c : Char} (h : IsPlain (foldLetter c)) : IsPlain c := by
  constructor
  · rw [Bool.eq_false_iff]
    intro hc
    have hquote : c = '\'' ∨ c = '"' := by simpa [isQuote] using hc
    rcases hquote with rfl | rfl
    · exact absurd h (by decide)
    · exact absurd h (by decide)
  · rintro rfl
    exact absurd h (by decide)

theorem isPlain_of_map_foldLetter {t word : Text} (h : t.map foldLetter = word)
    (hword : ∀ c ∈ word, IsPlain c) : ∀ c ∈ t, IsPlain c :=
  fun _ hc => isPlain_of_foldLetter (hword _ (h ▸ List.mem_map_of_mem hc))

theorem isPlain_of_isBlank {c : Char} (h : Text.isBlank c = true) : IsPlain c := by
  constructor
  · rw [Bool.eq_false_iff]
    intro hc
    rw [isBlank_of_isQuote hc] at h
    exact absurd h (by decide)
  · rintro rfl
    exact absurd h (by decide)

namespace Route

/-- What stands behind a verb: a parenthesis and a quoted path, with blanks before each. -/
inductive OpensWith (path rest : Text) : Text → Prop
  | mk {gap inner : Text} {q q' : Char} (hgap : ∀ c ∈ gap, Text.isBlank c = true)
      (hinner : ∀ c ∈ inner, Text.isBlank c = true) (hq : isQuote q = true)
      (hq' : isQuote q' = true) (hne : path ≠ []) (hfree : ∀ c ∈ path, isQuote c = false) :
      OpensWith path rest (gap ++ '(' :: (inner ++ q :: (path ++ q' :: rest)))

theorem opensWith_iff {t path rest : Text} : OpensWith path rest t ↔
    ∃ r, char? '(' (Text.stripLeft t) = some r ∧
      quotedText? (Text.stripLeft r) = some (path, rest) := by
  constructor
  · rintro ⟨hgap, hinner, hq, hq', hne, hfree⟩
    refine ⟨_, char?_eq_some_iff.mpr
      ((Text.stripLeft_eq_cons_iff (by decide)).mpr ⟨_, hgap, rfl⟩), ?_⟩
    rw [quotedText?_eq_some_iff]
    exact ⟨_, _, hq, hq', hne, hfree,
      (Text.stripLeft_eq_cons_iff (isBlank_of_isQuote hq)).mpr ⟨_, hinner, rfl⟩⟩
  · rintro ⟨r, hparen, hquoted⟩
    rw [char?_eq_some_iff, Text.stripLeft_eq_cons_iff (by decide)] at hparen
    obtain ⟨gap, hgap, rfl⟩ := hparen
    rw [quotedText?_eq_some_iff] at hquoted
    obtain ⟨q, q', hq, hq', hne, hfree, hr⟩ := hquoted
    rw [Text.stripLeft_eq_cons_iff (isBlank_of_isQuote hq)] at hr
    obtain ⟨inner, hinner, rfl⟩ := hr
    exact .mk hgap hinner hq hq' hne hfree

theorem verb?_eq_some_iff {t rest : Text} {v : Verb} : verb? t = some (v, rest) ↔
    ∃ word : Text, t = word ++ rest ∧ word.map foldLetter = v.word := by
  unfold verb?
  rw [← dropIgnoringCase?_eq_some_iff]
  constructor
  · intro h
    obtain ⟨w, -, hw⟩ := List.exists_of_findSome?_eq_some h
    obtain ⟨r, hr, heq⟩ := Option.map_eq_some_iff.mp hw
    obtain ⟨rfl, rfl⟩ := Prod.mk.inj heq
    exact hr
  · intro h
    have hunique : ∀ w, (dropIgnoringCase? w.word t).isSome = true → w = v := by
      intro w hw
      obtain ⟨r, hr⟩ := Option.isSome_iff_exists.mp hw
      obtain ⟨start, rfl, hstart⟩ := dropIgnoringCase?_eq_some_iff.mp h
      obtain ⟨start', heq, hstart'⟩ := dropIgnoringCase?_eq_some_iff.mp hr
      have hv : v.word <+: (start ++ rest).map foldLetter :=
        hstart ▸ (List.prefix_append start rest).map foldLetter
      have hw' : w.word <+: (start ++ rest).map foldLetter :=
        heq ▸ hstart' ▸ (List.prefix_append start' r).map foldLetter
      exact Verb.eq_of_prefixes hw' hv
    have hsome : (Verb.all.findSome? fun w => (dropIgnoringCase? w.word t).map (w, ·)).isSome := by
      rw [List.findSome?_isSome_iff]
      exact ⟨v, v.mem_all, by rw [h]; rfl⟩
    obtain ⟨found, hfound⟩ := Option.isSome_iff_exists.mp hsome
    obtain ⟨w, -, hw⟩ := List.exists_of_findSome?_eq_some hfound
    obtain ⟨r, hr, rfl⟩ := Option.map_eq_some_iff.mp hw
    obtain rfl := hunique w (by rw [hr]; rfl)
    rw [hr] at h
    rw [hfound, Option.some.inj h]

/-- A call, and the text behind the path: the receiver and the verb in any case, and a path. -/
inductive IsCall (receiver : Text) (route : Route) (rest : Text) : Text → Prop
  | mk {head word after : Text} (hhead : head.map foldLetter = receiver)
      (hword : word.map foldLetter = route.verb.word) (hafter : OpensWith route.path rest after) :
      IsCall receiver route rest (head ++ (word ++ after))

theorem call_eq_some_iff {receiver here rest : Text} {before : Option Char} {route : Route} :
    call receiver before here = some (route, rest) ↔ IsCall receiver route rest here := by
  unfold call
  constructor
  · intro h
    obtain ⟨r, hhead, h⟩ := Option.bind_eq_some_iff.mp h
    obtain ⟨⟨v, after⟩, hverb, h⟩ := Option.bind_eq_some_iff.mp h
    obtain ⟨r', hparen, h⟩ := Option.bind_eq_some_iff.mp h
    obtain ⟨⟨path, rest'⟩, hquoted, h⟩ := Option.bind_eq_some_iff.mp h
    obtain ⟨rfl, rfl⟩ := Prod.mk.inj (Option.some.inj h)
    obtain ⟨head, rfl, hfold⟩ := dropIgnoringCase?_eq_some_iff.mp hhead
    obtain ⟨word, rfl, hword⟩ := verb?_eq_some_iff.mp hverb
    exact .mk hfold hword (opensWith_iff.mpr ⟨r', hparen, hquoted⟩)
  · rintro ⟨hhead, hword, hafter⟩
    obtain ⟨r, hparen, hquoted⟩ := opensWith_iff.mp hafter
    rw [dropIgnoringCase?_eq_some_iff.mpr ⟨_, rfl, hhead⟩, Option.bind_eq_bind, Option.bind_some,
      verb?_eq_some_iff.mpr ⟨_, rfl, hword⟩, Option.bind_eq_bind, Option.bind_some]
    simp only [hparen, hquoted, Option.bind_eq_bind, Option.bind_some]
    rfl

/-! Every route has a verb of its own. -/

/-- No receiver ends with another. -/
theorem receiver_eq_of_suffix {r s : Text} (hr : r ∈ receivers) (hs : s ∈ receivers)
    (h : r <:+ s) : r = s := by
  have hall : ∀ r ∈ receivers, ∀ s ∈ receivers, r <:+ s → r = s := by decide
  exact hall r hr s hs h

theorem receiver_eq_of_suffixes {r s t : Text} (hr : r ∈ receivers) (hs : s ∈ receivers)
    (hrt : r <:+ t) (hst : s <:+ t) : r = s := by
  rcases List.suffix_or_suffix_of_suffix hrt hst with h | h
  · exact receiver_eq_of_suffix hr hs h
  · exact (receiver_eq_of_suffix hs hr h).symm

/-- The routes of a text, each with the place of its verb. -/
def sites (content : Text) : List (Nat × Route) :=
  receivers.flatMap fun receiver => ((call receiver).findAllAt content).map fun found =>
    (found.1 + receiver.length, found.2)

/-- The verb of a route stands at a place of the text, between a receiver and the path. -/
structure StandsAt (route : Route) (content : Text) (place : Nat) (head word after : Text) :
    Prop where
  text : content = content.take place ++ (word ++ after)
  head_suffix : head <:+ content.take place
  receiver : head.map foldLetter ∈ receivers
  method : word.map capital = route.verb.method
  path : ∃ rest, OpensWith route.path rest after

theorem map_sites (content : Text) : (sites content).map (·.2) = ofContent content := by
  unfold sites ofContent
  rw [List.map_flatMap]
  congr 1
  funext receiver
  rw [List.map_map, ← Pattern.map_findAllAt]
  rfl

theorem exists_standsAt {content receiver : Text} {place : Nat} {route : Route}
    (hreceiver : receiver ∈ receivers) (h : (place, route) ∈ (call receiver).findAllAt content) :
    ∃ head word after, head.map foldLetter = receiver ∧
      StandsAt route content (place + receiver.length) head word after := by
  have hmatch := (Pattern.findAllAt_sublist _ _).subset h
  rw [Pattern.mem_allMatches, Pattern.foundAt, Option.map_eq_some_iff] at hmatch
  obtain ⟨hlt, ⟨route', rest⟩, hcall, rfl⟩ := hmatch
  rw [call_eq_some_iff] at hcall
  generalize hdrop : content.drop place = here at hcall
  obtain @⟨head, word, after, hhead, hword, hafter⟩ := hcall
  have hlength : head.length = receiver.length := by rw [← hhead, List.length_map]
  have htake : content.take (place + receiver.length) = content.take place ++ head := by
    rw [List.take_add, hdrop, ← hlength, List.take_left]
  refine ⟨head, word, after, hhead, ?_, ?_, hhead ▸ hreceiver, map_capital hword, rest, hafter⟩
  · rw [htake, List.append_assoc, ← hdrop, List.take_append_drop]
  · rw [htake]
    exact List.suffix_append _ _

/-- No verb belongs to two calls: one receiver at most ends before it. -/
theorem nodup_map_sites (content : Text) : ((sites content).map (·.1)).Nodup := by
  have hreceivers : receivers.Nodup := by decide
  unfold sites
  rw [List.map_flatMap, List.nodup_flatMap]
  constructor
  · intro receiver _
    have hplaces := (call receiver).pairwise_allMatches content
    replace hplaces := hplaces.sublist (Pattern.findAllAt_sublist _ _)
    rw [List.map_map, List.Nodup, List.pairwise_map]
    exact hplaces.imp fun hlt => by simp only [Function.comp_apply]; omega
  · refine hreceivers.imp_of_mem fun {r s} hr hs hne => ?_
    intro place hplace hplace'
    refine hne ?_
    have hsuffix : ∀ receiver ∈ receivers, place ∈ (((call receiver).findAllAt content).map
        fun found => (found.1 + receiver.length, found.2)).map (·.1) →
          receiver <:+ (content.take place).map foldLetter := by
      intro receiver hreceiver hmem
      rw [List.map_map, List.mem_map] at hmem
      obtain ⟨⟨start, route⟩, hfound, rfl⟩ := hmem
      obtain ⟨head, word, after, rfl, hstands⟩ := exists_standsAt hreceiver hfound
      exact hstands.head_suffix.map foldLetter
    exact receiver_eq_of_suffixes hr hs (hsuffix r hr hplace) (hsuffix s hs hplace')

end Route
end CodeGraph
