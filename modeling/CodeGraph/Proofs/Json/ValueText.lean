import CodeGraph.Proofs.Json.Legible
import CodeGraph.Proofs.Json.NumberText
import CodeGraph.Proofs.Json.StringText

/-! Values come back from JSON text in either layout, unless doubles or huge numbers are in them. -/
namespace CodeGraph.Json

/-! White space between the parts. -/

theorem skipSpace_append {s : Text} (h : ∀ c ∈ s, isSpace c = true) (t : Text) :
    skipSpace (s ++ t) = skipSpace t :=
  List.dropWhile_append_of_pos h

theorem skipSpace_cons {c : Char} (h : isSpace c = false) (t : Text) :
    skipSpace (c :: t) = c :: t :=
  List.dropWhile_cons_of_neg (by simp [h])

theorem isSpace_of_mem_edge {layout : Layout} {depth : Nat} :
    ∀ c ∈ layout.edge depth, isSpace c = true := by
  intro c hc
  cases layout with
  | inline => cases hc
  | indented =>
    rcases List.mem_cons.mp hc with rfl | hc
    · rfl
    · rw [List.eq_of_mem_replicate hc]
      rfl

theorem gap_eq (layout : Layout) (depth : Nat) :
    ∃ s, layout.gap depth = ',' :: s ∧ ∀ c ∈ s, isSpace c = true := by
  cases layout with
  | inline => exact ⟨[' '], rfl, List.forall_mem_singleton.mpr rfl⟩
  | indented => exact ⟨_, rfl, isSpace_of_mem_edge⟩

theorem endsNumber_edge (layout : Layout) (depth : Nat) {c : Char} (t : Text)
    (hc : isDigit c = false ∧ c ≠ '.' ∧ c ≠ 'e' ∧ c ≠ 'E') :
    EndsNumber (layout.edge depth ++ c :: t) := by
  intro d hd
  cases layout with
  | inline =>
    obtain rfl : c = d := Option.some.inj hd
    exact hc
  | indented =>
    obtain rfl : '\n' = d := Option.some.inj hd
    decide

theorem endsNumber_gap (layout : Layout) (depth : Nat) (t : Text) :
    EndsNumber (layout.gap depth ++ t) := by
  obtain ⟨s, hgap, -⟩ := gap_eq layout depth
  intro d hd
  rw [hgap] at hd
  obtain rfl : ',' = d := Option.some.inj hd
  decide

/-! Values, one by one. -/

/-- A text starts neither with white space nor with what may stand in the place of a value. -/
def StartsValue (t : Text) : Prop :=
  ∃ c r, t = c :: r ∧ isSpace c = false ∧ c ≠ ']' ∧ c ≠ '\uFEFF'

/-- A value is read from its text, in any layout and with enough fuel. -/
structure Readable (v : Json) : Prop where
  starts : ∀ (layout : Layout) (depth : Nat), StartsValue (write layout depth v)
  reads : ∀ (layout : Layout) (depth fuel : Nat) (r : Text), EndsNumber r →
    2 * (write layout depth v).length ≤ fuel →
      readValue fuel (write layout depth v ++ r) = .ok (v, r)

theorem Readable.skipSpace_write {v : Json} (h : Readable v) (layout : Layout) (depth : Nat)
    (r : Text) : skipSpace (write layout depth v ++ r) = write layout depth v ++ r := by
  obtain ⟨c, t, hwrite, hspace, -⟩ := h.starts layout depth
  rw [hwrite, List.cons_append, skipSpace_cons hspace]

theorem readValue_of_word {fuel : Nat} {c : Char} {t r : Text} {v : Json} (hquote : c ≠ '"')
    (hbracket : c ≠ '[') (hbrace : c ≠ '\x7b') (h : readWord? (c :: t) = some (v, r)) :
    readValue (fuel + 1) (c :: t) = .ok (v, r) := by
  rw [readValue.eq_5, h]
  · exact fun _ heq => hquote (List.cons.inj heq).1
  · exact fun _ heq => hbracket (List.cons.inj heq).1
  · exact fun _ heq => hbrace (List.cons.inj heq).1

/-- A text that starts like a value is not empty, so there is fuel for it. -/
theorem Readable.of_succ {v : Json}
    (hstarts : ∀ (layout : Layout) (depth : Nat), StartsValue (write layout depth v))
    (h : ∀ (layout : Layout) (depth fuel : Nat) (r : Text), EndsNumber r →
      2 * (write layout depth v).length ≤ fuel + 1 →
        readValue (fuel + 1) (write layout depth v ++ r) = .ok (v, r)) : Readable v := by
  refine ⟨hstarts, fun layout depth fuel r hr hfuel => ?_⟩
  obtain ⟨c, t, hwrite, -⟩ := hstarts layout depth
  cases fuel with
  | zero =>
    rw [hwrite, List.length_cons] at hfuel
    omega
  | succ fuel => exact h layout depth fuel r hr hfuel

theorem readable_null : Readable .null :=
  .of_succ (fun _ _ => ⟨_, _, rfl, by decide⟩) fun _ _ _ _ _ _ =>
    readValue_of_word (by decide) (by decide) (by decide) rfl

theorem readable_bool (b : Bool) : Readable (.bool b) := by
  cases b <;>
    exact .of_succ (fun _ _ => ⟨_, _, rfl, by decide⟩) fun _ _ _ _ _ _ =>
      readValue_of_word (by decide) (by decide) (by decide) rfl

theorem readable_int {n : Int} (h : (Nat.toDigits 10 n.natAbs).length ≤ Literal.digitLimit) :
    Readable (.int n) := by
  refine .of_succ (fun layout depth => ?_) fun layout depth fuel r hr _ => ?_
  · rcases ofInt_cases n with ⟨c, ds, htext, hc⟩ | ⟨c, ds, htext, -⟩
    · have hne (d : Char) (hd : isDigit d = false) : c ≠ d := ne_of_isDigit hc hd
      have hspace : isSpace c = false := by
        simp [isSpace, hne ' ' rfl, hne '\t' rfl, hne '\n' rfl, hne '\r' rfl]
      exact ⟨c, ds, htext, hspace, hne _ rfl, hne _ rfl⟩
    · exact ⟨_, _, htext, by decide⟩
  · change readValue (fuel + 1) (Text.ofInt n ++ r) = _
    have hnumber : readNumber? (Text.ofInt n ++ r) = some (.int n, r) := readNumber?_ofInt hr n
    have hhuge : isHuge (Text.ofInt n ++ r) = false := isHuge_ofInt hr h
    have hstart (c : Char) (hc : c ≠ '-' ∧ isDigit c = false) (t : Text) :
        Text.ofInt n ++ r ≠ c :: t := by
      intro heq
      rcases head_ofInt_append c (by rw [heq]; rfl) with hminus | hdigit
      · exact hc.1 hminus
      · exact absurd hdigit (by simp [hc.2])
    rw [readValue.eq_5, readWord?_ofInt, hnumber]
    · simp only [hhuge, Bool.false_eq_true, if_false]
    · exact hstart '"' (by decide)
    · exact hstart '[' (by decide)
    · exact hstart '\x7b' (by decide)

theorem readString_writeString (opening t r : Text) :
    ∃ rest, writeString t ++ r = '"' :: rest ∧ readString opening rest = .ok (t, r) := by
  refine ⟨t.flatMap escapeChar ++ '"' :: r, ?_, readString_flatMap opening t r⟩
  simp [writeString]

theorem readable_str (t : Text) : Readable (.str t) := by
  refine .of_succ (fun _ _ => ⟨_, _, rfl, by decide⟩) fun layout depth fuel r _ _ => ?_
  obtain ⟨rest, hrest, hread⟩ := readString_writeString (writeString t ++ r) t r
  change readValue (fuel + 1) (writeString t ++ r) = _
  rw [hrest] at hread ⊢
  rw [readValue.eq_2, hread]
  rfl

/-! Lists of values and of fields. -/

section

variable {fuel : Nat} {t r r' r'' : Text} {v : Json}

theorem readItems_last (hvalue : readValue fuel t = .ok (v, r)) (hr : skipSpace r = ']' :: r') :
    readItems (fuel + 1) t = .ok ([v], r') := by
  simp only [readItems.eq_2, hvalue, hr, bind, Except.bind]
  rfl

theorem readItems_more {items : List Json} (hvalue : readValue fuel t = .ok (v, r))
    (hr : skipSpace r = ',' :: r') (hitems : readItems fuel (skipSpace r') = .ok (items, r'')) :
    readItems (fuel + 1) t = .ok (v :: items, r'') := by
  simp only [readItems.eq_2, hvalue, hr, hitems, bind, Except.bind]
  rfl

/-- The last field is read from its key on, past the colon and the blank behind it. -/
theorem readFields_last {key : Text} (ht : skipSpace t = t) (hvalue : readValue fuel t = .ok (v, r))
    (hr : skipSpace r = '\x7d' :: r') :
    readFields (fuel + 1) (writeString key ++ (": " ++ t)) = .ok ([(key, v)], r') := by
  obtain ⟨rest, hrest, hkey⟩ :=
    readString_writeString (writeString key ++ (": " ++ t)) key (": " ++ t)
  have hcolon : skipSpace (": " ++ t) = ':' :: ' ' :: t := rfl
  have hblank : skipSpace (' ' :: t) = t := ht
  rw [hrest] at hkey ⊢
  simp only [readFields.eq_2, hkey, hcolon, hblank, hvalue, hr, bind, Except.bind]
  rfl

theorem readFields_more {key : Text} {fields : Fields} (ht : skipSpace t = t)
    (hvalue : readValue fuel t = .ok (v, r)) (hr : skipSpace r = ',' :: r')
    (hfields : readFields fuel (skipSpace r') = .ok (fields, r'')) :
    readFields (fuel + 1) (writeString key ++ (": " ++ t)) = .ok ((key, v) :: fields, r'') := by
  obtain ⟨rest, hrest, hkey⟩ :=
    readString_writeString (writeString key ++ (": " ++ t)) key (": " ++ t)
  have hcolon : skipSpace (": " ++ t) = ':' :: ' ' :: t := rfl
  have hblank : skipSpace (' ' :: t) = t := ht
  rw [hrest] at hkey ⊢
  simp only [readFields.eq_2, hkey, hcolon, hblank, hvalue, hr, hfields, bind, Except.bind]
  rfl

theorem readValue_items {items : List Json} (hr : skipSpace r = t) (ht : t.head? ≠ some ']')
    (hitems : readItems fuel t = .ok (items, r')) :
    readValue (fuel + 1) ('[' :: r) = .ok (.arr items, r') := by
  rw [readValue.eq_3, hr]
  split
  · exact absurd rfl ht
  · rw [hitems]
    rfl

theorem readValue_fields {fields : Fields} (hr : skipSpace r = t) (ht : t.head? ≠ some '\x7d')
    (hfields : readFields fuel t = .ok (fields, r')) :
    readValue (fuel + 1) ('\x7b' :: r) = .ok (.obj (Fields.ofPairs fields), r') := by
  rw [readValue.eq_4, hr]
  split
  · exact absurd rfl ht
  · rw [hfields]
    rfl

end

/-- The items of a list are read up to its closing bracket. -/
theorem readItems_write (layout : Layout) (depth outer : Nat) (r : Text) {items : List Json}
    {item : Json} (h : ∀ v ∈ item :: items, Readable v) {fuel : Nat}
    (hfuel : 2 * (write layout depth item ++ writeItems layout depth items).length < fuel) :
    readItems fuel (write layout depth item ++
      (writeItems layout depth items ++ (layout.edge outer ++ ']' :: r))) =
      .ok (item :: items, r) := by
  induction items generalizing item fuel with
  | nil =>
    obtain ⟨fuel, rfl⟩ := Nat.exists_eq_succ_of_ne_zero (Nat.ne_zero_of_lt hfuel)
    rw [writeItems, List.append_nil] at hfuel
    have hitem := (h item List.mem_cons_self).reads layout depth fuel _
      (endsNumber_edge layout outer (c := ']') r (by decide)) (by omega)
    refine readItems_last hitem ?_
    rw [skipSpace_append isSpace_of_mem_edge, skipSpace_cons rfl]
  | cons next items ih =>
    obtain ⟨fuel, rfl⟩ := Nat.exists_eq_succ_of_ne_zero (Nat.ne_zero_of_lt hfuel)
    obtain ⟨s, hgap, hspace⟩ := gap_eq layout depth
    simp only [writeItems, hgap, List.length_append, List.length_cons] at hfuel
    let rest := write layout depth next ++
      (writeItems layout depth items ++ (layout.edge outer ++ ']' :: r))
    have hnext : writeItems layout depth (next :: items) ++ (layout.edge outer ++ ']' :: r) =
        layout.gap depth ++ rest := by
      simp [writeItems, rest]
    have hitem := (h item List.mem_cons_self).reads layout depth fuel (layout.gap depth ++ rest)
      (endsNumber_gap layout depth rest) (by omega)
    have hitems : readItems fuel rest = .ok (next :: items, r) :=
      ih (fun v hv => h v (List.mem_cons_of_mem _ hv)) (by rw [List.length_append]; omega)
    have hspaces : skipSpace (s ++ rest) = rest := by
      rw [skipSpace_append hspace]
      exact (h next (by simp)).skipSpace_write layout depth _
    rw [hnext]
    rw [hgap] at hitem ⊢
    refine readItems_more hitem (skipSpace_cons rfl _) ?_
    rw [← hspaces] at hitems
    exact hitems

/-- The fields of an object are read up to its closing brace. -/
theorem readFields_write (layout : Layout) (depth outer : Nat) (r : Text) {fields : Fields}
    {key : Text} {value : Json} (h : ∀ f ∈ (key, value) :: fields, Readable f.2) {fuel : Nat}
    (hfuel : 2 * (write layout depth value ++ writeFields layout depth fields).length < fuel) :
    readFields fuel (writeString key ++ (": " ++ (write layout depth value ++
      (writeFields layout depth fields ++ (layout.edge outer ++ '\x7d' :: r))))) =
      .ok ((key, value) :: fields, r) := by
  induction fields generalizing key value fuel with
  | nil =>
    obtain ⟨fuel, rfl⟩ := Nat.exists_eq_succ_of_ne_zero (Nat.ne_zero_of_lt hfuel)
    rw [writeFields, List.append_nil] at hfuel
    have hreadable : Readable value := h (key, value) List.mem_cons_self
    have hvalue := hreadable.reads layout depth fuel _
      (endsNumber_edge layout outer (c := '\x7d') r (by decide)) (by omega)
    refine readFields_last (hreadable.skipSpace_write layout depth _) hvalue ?_
    rw [skipSpace_append isSpace_of_mem_edge, skipSpace_cons rfl]
  | cons next fields ih =>
    obtain ⟨fuel, rfl⟩ := Nat.exists_eq_succ_of_ne_zero (Nat.ne_zero_of_lt hfuel)
    obtain ⟨s, hgap, hspace⟩ := gap_eq layout depth
    simp only [writeFields, hgap, List.length_append, List.length_cons] at hfuel
    let rest := writeString next.1 ++ (": " ++ (write layout depth next.2 ++
      (writeFields layout depth fields ++ (layout.edge outer ++ '\x7d' :: r))))
    have hnext : writeFields layout depth (next :: fields) ++ (layout.edge outer ++ '\x7d' :: r) =
        layout.gap depth ++ rest := by
      simp [writeFields, rest]
    have hreadable : Readable value := h (key, value) List.mem_cons_self
    have hvalue := hreadable.reads layout depth fuel (layout.gap depth ++ rest)
      (endsNumber_gap layout depth rest) (by omega)
    have hfields : readFields fuel rest = .ok (next :: fields, r) :=
      ih (fun f hf => h f (List.mem_cons_of_mem _ hf)) (by rw [List.length_append]; omega)
    have hspaces : skipSpace (s ++ rest) = rest := skipSpace_append hspace rest
    rw [hnext]
    rw [hgap] at hvalue ⊢
    refine readFields_more (hreadable.skipSpace_write layout depth _) hvalue
      (skipSpace_cons rfl _) ?_
    rw [← hspaces] at hfields
    exact hfields

theorem readable_arr {items : List Json} (h : ∀ v ∈ items, Readable v) : Readable (.arr items) := by
  cases items with
  | nil => exact .of_succ (fun _ _ => ⟨_, _, rfl, by decide⟩) fun _ _ _ _ _ _ => rfl
  | cons item items =>
    refine .of_succ (fun _ _ => ⟨_, _, rfl, by decide⟩) fun layout depth fuel r _ hfuel => ?_
    let rest := write layout (depth + 1) item ++ (writeItems layout (depth + 1) items ++
      (layout.edge depth ++ ']' :: r))
    have htext : write layout depth (.arr (item :: items)) ++ r =
        '[' :: (layout.edge (depth + 1) ++ rest) := by
      simp [write, rest]
    have hskip : skipSpace (layout.edge (depth + 1) ++ rest) = rest := by
      rw [skipSpace_append isSpace_of_mem_edge]
      exact (h item List.mem_cons_self).skipSpace_write layout _ _
    have hhead : rest.head? ≠ some ']' := by
      obtain ⟨c, t, hwrite, -, hc, -⟩ := (h item List.mem_cons_self).starts layout (depth + 1)
      change (write layout (depth + 1) item ++ _).head? ≠ some ']'
      rw [hwrite]
      exact fun heq => hc (Option.some.inj heq)
    simp only [write, List.length_append, List.length_cons] at hfuel
    rw [htext]
    refine readValue_items hskip hhead (readItems_write layout (depth + 1) depth r h ?_)
    rw [List.length_append]
    omega

theorem readable_obj {fs : Fields} (hkeys : fs.keys.Nodup) (h : ∀ f ∈ fs, Readable f.2) :
    Readable (.obj fs) := by
  cases fs with
  | nil => exact .of_succ (fun _ _ => ⟨_, _, rfl, by decide⟩) fun _ _ _ _ _ _ => rfl
  | cons f fs =>
    refine .of_succ (fun _ _ => ⟨_, _, rfl, by decide⟩) fun layout depth fuel r _ hfuel => ?_
    let rest := writeString f.1 ++ (": " ++ (write layout (depth + 1) f.2 ++
      (writeFields layout (depth + 1) fs ++ (layout.edge depth ++ '\x7d' :: r))))
    have htext : write layout depth (.obj (f :: fs)) ++ r =
        '\x7b' :: (layout.edge (depth + 1) ++ rest) := by
      simp [write, rest]
    have hskip : skipSpace (layout.edge (depth + 1) ++ rest) = rest :=
      skipSpace_append isSpace_of_mem_edge rest
    have hhead : rest.head? ≠ some '\x7d' := by
      change some '"' ≠ some '\x7d'
      decide
    simp only [write, List.length_append, List.length_cons] at hfuel
    have hfields : readFields fuel rest = .ok (f :: fs, r) :=
      readFields_write layout (depth + 1) depth r h (by rw [List.length_append]; omega)
    have hread := readValue_fields hskip hhead hfields
    rw [Fields.ofPairs_of_nodup hkeys] at hread
    rw [htext]
    exact hread

theorem Legible.readable {v : Json} (h : v.Legible) : v.Readable := by
  induction h with
  | null => exact readable_null
  | bool b => exact readable_bool b
  | int h => exact readable_int h
  | str t => exact readable_str t
  | arr _ ih => exact readable_arr ih
  | obj hkeys _ ih => exact readable_obj hkeys ih

/-- A legible value is read from its text. -/
theorem read_indentedText {v : Json} (h : v.Legible) : read v.indentedText = .ok v := by
  obtain ⟨c, t, hwrite, hspace, -, hmark⟩ := h.readable.starts .indented 0
  have hvalue := h.readable.reads .indented 0 (2 * v.indentedText.length + 2) [] nofun (by
    change 2 * v.indentedText.length ≤ _
    omega)
  rw [List.append_nil] at hvalue
  change readValue _ v.indentedText = _ at hvalue
  change v.indentedText = _ at hwrite
  unfold read
  split
  · next t' heq => exact absurd (List.cons.inj (hwrite.symm.trans heq)).1 hmark
  · rw [hwrite] at hvalue ⊢
    rw [skipSpace_cons hspace, hvalue]
    rfl

end CodeGraph.Json
