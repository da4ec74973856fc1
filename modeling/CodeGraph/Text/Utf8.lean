import CodeGraph.Text.Basic

/-! Bytes read as UTF-8, strictly or with a replacement for what is not, and line ends. -/
namespace CodeGraph

abbrev Bytes := List UInt8

namespace Utf8

inductive Complaint
  | startByte
  | continuationByte
  | endOfData
deriving DecidableEq, Repr

/-- A character or a fault, and the number of bytes that it takes. -/
structure Piece where
  content : Except Complaint Char
  size : Nat

/-- The number of bytes behind a lead byte, the bounds of the first of them and the bits that the
lead byte gives. -/
def lead? (b : Nat) : Option (Nat × Nat × Nat × Nat) :=
  if b < 0xC2 then none
  else if b < 0xE0 then some (1, 0x80, 0xBF, b - 0xC0)
  else if b = 0xE0 then some (2, 0xA0, 0xBF, 0)
  else if b = 0xED then some (2, 0x80, 0x9F, 0xD)
  else if b < 0xF0 then some (2, 0x80, 0xBF, b - 0xE0)
  else if b = 0xF0 then some (3, 0x90, 0xBF, 0)
  else if b < 0xF4 then some (3, 0x80, 0xBF, b - 0xF0)
  else if b = 0xF4 then some (3, 0x80, 0x8F, 4)
  else none

/-- Takes in the bytes behind a lead byte. A fault covers the bytes that were right so far. -/
def follow : (missing low high code size : Nat) → Bytes → Piece
  | 0, _, _, code, size, _ => ⟨.ok (Char.ofNat code), size⟩
  | _ + 1, _, _, _, size, [] => ⟨.error .endOfData, size⟩
  | missing + 1, low, high, code, size, b :: r =>
    if low ≤ b.toNat ∧ b.toNat ≤ high then
      follow missing 0x80 0xBF (code * 64 + (b.toNat - 0x80)) (size + 1) r
    else ⟨.error .continuationByte, size⟩

def first (b : UInt8) (r : Bytes) : Piece :=
  if b.toNat < 0x80 then ⟨.ok (Char.ofNat b.toNat), 1⟩
  else
    match lead? b.toNat with
    | none => ⟨.error .startByte, 1⟩
    | some (missing, low, high, code) => follow missing low high code 1 r

/-- Characters and faults in order. The first `skip` bytes belong to a piece already. -/
def pieces : (skip : Nat) → Bytes → List Piece
  | _, [] => []
  | skip + 1, _ :: r => pieces skip r
  | 0, b :: r =>
    let p := first b r
    p :: pieces (p.size - 1) r

def decodeLossy (bs : Bytes) : Text :=
  (pieces 0 bs).map fun p =>
    match p.content with
    | .ok c => c
    | .error _ => '\uFFFD'

structure Fault where
  complaint : Complaint
  byte : Nat
  offset : Nat
  size : Nat
deriving DecidableEq, Repr

def collect (bs : Bytes) : (offset : Nat) → List Piece → Except Fault Text
  | _, [] => .ok []
  | offset, ⟨.ok c, size⟩ :: r => do
    let t ← collect bs (offset + size) r
    return c :: t
  | offset, ⟨.error complaint, size⟩ :: _ =>
    .error ⟨complaint, (bs.getD offset 0).toNat, offset, size⟩

def decode (bs : Bytes) : Except Fault Text :=
  collect bs 0 (pieces 0 bs)

def encode (t : Text) : Bytes :=
  t.flatMap String.utf8EncodeChar

def Complaint.message : Complaint → Text
  | .startByte => "invalid start byte"
  | .continuationByte => "invalid continuation byte"
  | .endOfData => "unexpected end of data"

def Fault.message (f : Fault) : Text :=
  let place : Text :=
    if f.size = 1 then
      "byte 0x" ++ Text.hex 2 f.byte ++ " in position " ++ Text.ofNat f.offset
    else
      "bytes in position " ++ Text.ofNat f.offset ++ "-" ++ Text.ofNat (f.offset + f.size - 1)
  "'utf-8' codec can't decode " ++ place ++ ": " ++ f.complaint.message

end Utf8

/-- Every line end, of one or two characters, becomes a line feed. -/
def Text.unifyLineEnds : Text → Text
  | '\r' :: '\n' :: r => '\n' :: unifyLineEnds r
  | '\r' :: r => '\n' :: unifyLineEnds r
  | c :: r => c :: unifyLineEnds r
  | [] => []

end CodeGraph
