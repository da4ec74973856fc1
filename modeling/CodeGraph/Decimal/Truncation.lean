import CodeGraph.Decimal.Binary64

/-! Products of a double with a whole number, and its whole part. -/
namespace CodeGraph.Binary64

def ofInt (n : Int) : Binary64 :=
  ofRatio (n < 0) n.natAbs 1

def times (k : Nat) : Binary64 → Binary64
  | .finite s m e =>
    let (num, den) := fraction m e
    ofRatio s (k * num) den
  | x => x

/-- Without its places after the point; `none` for what is no finite number. -/
def truncate? : Binary64 → Option Int
  | .finite s m e =>
    let (num, den) := fraction m e
    some (if s then -((num / den : Nat) : Int) else (num / den : Nat))
  | _ => none

end CodeGraph.Binary64
