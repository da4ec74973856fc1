import CodeGraph.Proofs.Path.Segments
import CodeGraph.Proofs.Pattern.Pieces
import CodeGraph.Source.Specifier

/-! A line that imports a module by its dotted name, and what the patterns take of the module. -/
namespace CodeGraph

namespace Specifier

/-- A name without blanks and dots that does not end in the word `from`. -/
structure Name where
  text : Text
  nonempty : text ≠ []
  solid : ∀ c ∈ text, Text.isBlank c = false ∧ c ≠ '.'
  free : ∀ read, text = read ++ "from".toList → outsideWord read.getLast? = false

theorem Name.isBlank_eq_false (name : Name) : ∀ c ∈ name.text, Text.isBlank c = false :=
  fun c hc => (name.solid c hc).1

/-- Dots, then names with dots between them; either may be missing. -/
structure ModuleName where
  dots : Nat
  names : List Name
  nonempty : 0 < dots ∨ names ≠ []

/-- Blanks at the start of a line. -/
structure Indentation where
  text : Text
  nonempty : text ≠ []
  blank : ∀ c ∈ text, Text.isBlank c = true ∧ c ≠ '\n'

namespace ModuleName

def text (m : ModuleName) : Text :=
  List.replicate m.dots '.' ++ Text.join "." (m.names.map (·.text))

theorem solid (m : ModuleName) : ∀ c ∈ m.text, Text.isBlank c = false := by
  intro c hc
  have hdot : Text.isBlank '.' = false := by decide
  rcases List.mem_append.mp hc with hc | hc
  · rw [List.eq_of_mem_replicate hc]
    exact hdot
  · rcases Text.mem_join hc with hc | ⟨name, hname, hc⟩
    · rw [List.mem_singleton.mp hc]
      exact hdot
    · obtain ⟨n, -, rfl⟩ := List.mem_map.mp hname
      exact n.isBlank_eq_false c hc

theorem text_ne_nil (m : ModuleName) : m.text ≠ [] := by
  unfold text
  rcases m.nonempty with hdots | hnames
  · have hne : List.replicate m.dots '.' ≠ [] := by
      rw [Ne, List.replicate_eq_nil_iff]
      omega
    exact List.append_ne_nil_of_left_ne_nil hne _
  · apply List.append_ne_nil_of_right_ne_nil
    obtain ⟨n, names, hn⟩ := List.exists_cons_of_ne_nil hnames
    obtain ⟨c, more, hc⟩ := List.exists_cons_of_ne_nil n.nonempty
    have hmem : c ∈ Text.join "." (m.names.map (·.text)) := by
      apply Text.mem_join_of_mem
      · rw [hn]
        exact List.mem_map_of_mem List.mem_cons_self
      · rw [hc]
        exact List.mem_cons_self
    exact List.ne_nil_of_mem hmem

end ModuleName

/-- A line that imports: names out of a module, a module at the start of the line, which may be
renamed, or a module behind blanks. -/
inductive ImportLine
  | members (indent : Nat) (target : ModuleName) (names : List Name)
  | whole (target : ModuleName) (renamed : Option Name)
  | indented (indentation : Indentation) (target : ModuleName)

namespace ImportLine

def asName : Option Name → Text
  | none => []
  | some name => " as ".toList ++ name.text

def text : ImportLine → Text
  | members indent target names =>
    List.replicate indent ' ' ++ "from ".toList ++ target.text ++ " import ".toList ++
      Text.join ", " (names.map (·.text))
  | whole target renamed => "import ".toList ++ target.text ++ asName renamed
  | indented indentation target => indentation.text ++ "import ".toList ++ target.text

def ofMembers? : ImportLine → Option Text
  | members _ target _ => some target.text
  | whole _ _ => none
  | indented _ _ => none

def ofWhole? : ImportLine → Option Text
  | members _ _ _ => none
  | whole target _ => some target.text
  | indented _ _ => none

/-- The modules that lines name: those of which names are taken, then those that are imported whole
at the start of a line. -/
def modules (lines : List ImportLine) : List Text :=
  lines.filterMap ofMembers? ++ lines.filterMap ofWhole?

def join (lines : List ImportLine) : Text :=
  Text.join "\n" (lines.map text)

end ImportLine

/-! What is read where a module stands. -/

/-- The part of a name that is taken for it. -/
def leadOf (name : Text) : Text :=
  name.takeWhile isModuleChar

theorem leadOf_append_dropWhile (name : Text) :
    leadOf name ++ name.dropWhile isModuleChar = name :=
  List.takeWhile_append_dropWhile

theorem leadOf_eq_self_iff {name : Text} :
    leadOf name = name ↔ ∀ c ∈ name, isModuleChar c = true :=
  List.takeWhile_eq_self_iff

theorem dropWhile_eq_nil_iff {name : Text} :
    name.dropWhile isModuleChar = [] ↔ leadOf name = name := by
  rw [List.dropWhile_eq_nil_iff, leadOf_eq_self_iff]

/-- A name is not taken any further by what stands behind it. -/
theorem leadOf_append (name : Text) {rest : Text}
    (hrest : ∀ c ∈ rest.head?, isModuleChar c = false) : leadOf (name ++ rest) = leadOf name := by
  unfold leadOf
  induction name with
  | nil =>
    cases rest with
    | nil => rfl
    | cons c rest => simp [hrest c rfl]
  | cons c name ih => by_cases hc : isModuleChar c = true <;> simp [hc, ih]

theorem moduleName?_append (name : Text) {rest : Text}
    (hrest : ∀ c ∈ rest.head?, isModuleChar c = false) :
    moduleName? (name ++ rest) =
      if leadOf name = [] then none
      else some (leadOf name, name.dropWhile isModuleChar ++ rest) := by
  have htake : (name ++ rest).takeWhile isModuleChar = leadOf name := leadOf_append name hrest
  have hdrop : (name ++ rest).dropWhile isModuleChar = name.dropWhile isModuleChar ++ rest := by
    have hsame := leadOf_append_dropWhile (name ++ rest)
    rw [leadOf, htake] at hsame
    have hname : leadOf name ++ (name.dropWhile isModuleChar ++ rest) = name ++ rest := by
      rw [← List.append_assoc, leadOf_append_dropWhile]
    exact List.append_cancel_left (hsame.trans hname.symm)
  unfold moduleName?
  rw [htake, hdrop]
  cases leadOf name with
  | nil => rfl
  | cons c lead => rfl

theorem ModuleName.blanks?_text (target : ModuleName) (rest : Text) :
    blanks? (' ' :: (target.text ++ rest)) = some (target.text ++ rest) := by
  obtain ⟨x, more, hx⟩ := List.exists_cons_of_ne_nil target.text_ne_nil
  have hblank : ¬ Text.isBlank x = true := by
    rw [target.solid x (by rw [hx]; exact List.mem_cons_self)]
    decide
  have hspace : Text.isBlank ' ' = true := by decide
  rw [hx, blanks?, if_pos hspace, Text.stripLeft, List.cons_append,
    List.dropWhile_cons_of_neg hblank]

/-- In the line of a module, the pattern finds the module if it is taken in full: otherwise no blank
stands behind what is taken of it. -/
theorem fromStatement_eq {before : Option Char} (hbefore : outsideWord before = true)
    (target : ModuleName) {rest : Text} (hend : atWordEnd rest = true) :
    fromStatement before ("from ".toList ++ (target.text ++ (" import".toList ++ rest))) =
      if leadOf target.text = target.text then some (target.text, rest) else none := by
  have hstop : ∀ c ∈ (" import".toList ++ rest).head?, isModuleChar c = false := by
    intro c hc
    obtain rfl := Option.mem_some_iff.mp hc
    decide
  have hword : Text.dropPrefix? "from" ("from ".toList ++
      (target.text ++ (" import".toList ++ rest))) =
        some (' ' :: (target.text ++ (" import".toList ++ rest))) := rfl
  unfold fromStatement
  rw [guard_bind hbefore, hword, Option.bind_eq_bind, Option.bind_some, target.blanks?_text,
    Option.bind_some, moduleName?_append target.text hstop]
  by_cases hfull : leadOf target.text = target.text
  · have hdrop : target.text.dropWhile isModuleChar = [] := dropWhile_eq_nil_iff.mpr hfull
    have hblanks : blanks? (" import".toList ++ rest) = some ("import".toList ++ rest) := rfl
    have himport : Text.dropPrefix? "import" ("import".toList ++ rest) = some rest := rfl
    rw [if_pos hfull, hfull, if_neg target.text_ne_nil, hdrop, List.nil_append,
      Option.bind_eq_bind, Option.bind_some]
    show (blanks? (" import".toList ++ rest)).bind _ = _
    rw [hblanks, Option.bind_some, himport, Option.bind_some]
    exact guard_bind hend
  · have hne : target.text.dropWhile isModuleChar ≠ [] := fun h => hfull (dropWhile_eq_nil_iff.mp h)
    obtain ⟨d, more, hmore⟩ := List.exists_cons_of_ne_nil hne
    have hd : ¬ Text.isBlank d = true := by
      rw [target.solid d]
      · decide
      · rw [← leadOf_append_dropWhile target.text, hmore]
        exact List.mem_append_right _ List.mem_cons_self
    have hblanks : blanks? (d :: more ++ (" import".toList ++ rest)) = none := by
      rw [List.cons_append, blanks?, if_neg hd]
    rw [if_neg hfull, hmore]
    by_cases hempty : leadOf target.text = []
    · rw [if_pos hempty]
      rfl
    · rw [if_neg hempty, Option.bind_eq_bind, Option.bind_some]
      show (blanks? (d :: more ++ (" import".toList ++ rest))).bind _ = none
      rw [hblanks, Option.bind_none]

/-- In the line of a plain import, what is taken of the module is found, if anything is. -/
theorem plainImport_eq {before : Option Char} (hbefore : atLineStart before = true)
    (target : ModuleName) {rest : Text} (hrest : ∀ c ∈ rest.head?, isModuleChar c = false) :
    plainImport before ("import ".toList ++ (target.text ++ rest)) =
      if leadOf target.text = [] then none
      else some (leadOf target.text, target.text.dropWhile isModuleChar ++ rest) := by
  have hword : Text.dropPrefix? "import" ("import ".toList ++ (target.text ++ rest)) =
      some (' ' :: (target.text ++ rest)) := rfl
  unfold plainImport
  rw [guard_bind hbefore, hword, Option.bind_eq_bind, Option.bind_some, target.blanks?_text,
    Option.bind_some]
  exact moduleName?_append target.text hrest

end Specifier
end CodeGraph
