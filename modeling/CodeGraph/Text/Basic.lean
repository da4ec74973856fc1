/-! Text as a list of characters: splitting, joining, searching and ordering. -/
namespace CodeGraph

/-- Text is handled as the list of its characters. -/
abbrev Text := List Char

instance : Coe String Text := ⟨String.toList⟩

namespace Text

/-- The pieces between the occurrences of `c`, one more than there are occurrences. -/
def split (c : Char) : Text → List Text
  | [] => [[]]
  | x :: r =>
    if x = c then [] :: split c r
    else
      match split c r with
      | [] => [[x]]
      | p :: ps => (x :: p) :: ps

def join (sep : Text) : List Text → Text
  | [] => []
  | [p] => p
  | p :: ps => p ++ sep ++ join sep ps

def replaceChar (a : Char) (b : Text) (t : Text) : Text :=
  t.flatMap fun c => if c = a then b else [c]

def dropPrefix? : (p t : Text) → Option Text
  | [], t => some t
  | _ :: _, [] => none
  | a :: p, c :: t => if a = c then dropPrefix? p t else none

def startsWith (p t : Text) : Bool :=
  p.isPrefixOf t

def endsWith (s t : Text) : Bool :=
  s.isSuffixOf t

def occursIn (needle : Text) : Text → Bool
  | [] => needle.isEmpty
  | c :: r => needle.isPrefixOf (c :: r) || occursIn needle r

/-- The part after the last `c`, or the whole text. -/
def afterLast (c : Char) (t : Text) : Text :=
  (t.reverse.takeWhile (· ≠ c)).reverse

def beforeLast? (c : Char) (t : Text) : Option Text :=
  match t.reverse.dropWhile (· ≠ c) with
  | [] => none
  | _ :: r => some r.reverse

/-- Inserts into a strictly ascending list, where an item that is there already stays single. -/
def insertSorted {α : Type} [LT α] [DecidableLT α] [DecidableEq α] (a : α) : List α → List α
  | [] => [a]
  | x :: r => if a < x then a :: x :: r else if a = x then x :: r else x :: insertSorted a r

/-- The distinct items in ascending order; texts go by code points. -/
def sortDistinct {α : Type} [LT α] [DecidableLT α] [DecidableEq α] (as : List α) : List α :=
  as.foldr insertSorted []

def ofNat (n : Nat) : Text :=
  Nat.toDigits 10 n

def ofInt : Int → Text
  | .ofNat n => ofNat n
  | .negSucc n => '-' :: ofNat (n + 1)

/-- `n` in lower-case hexadecimal digits, with zeros in front up to the given width. -/
def hex (width n : Nat) : Text :=
  let digits := Nat.toDigits 16 n
  List.replicate (width - digits.length) '0' ++ digits

end Text
end CodeGraph
