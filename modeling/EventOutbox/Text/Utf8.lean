/-!
# UTF-8

Bytes as text.  Bytes are read character by character; a broken character is as long as what could
still have become a character, so that reading goes on behind it.
-/

namespace EventOutbox.Text

/-! ## §1 One character -/

/-- What stands at the front of some bytes. -/
inductive Utf8Front where
  /-- A character of so many bytes. -/
  | char (c : Char) (width : Nat)
  /-- So many bytes that are no character. -/
  | broken (width : Nat)
  /-- The beginning of a character that the end cuts off. -/
  | cut
deriving DecidableEq, Repr

/-- Read the bytes of a character behind its first one.  The next byte has to lie in a range; those
behind it are ordinary continuation bytes. -/
def utf8Tail (value taken : Nat) : (missing low high : Nat) → List UInt8 → Utf8Front
  | 0, _, _, _ => .char (Char.ofNat value) taken
  | _ + 1, _, _, [] => .cut
  | missing + 1, low, high, b :: bs =>
    if low ≤ b.toNat && b.toNat ≤ high then
      utf8Tail (value * 64 + b.toNat % 64) (taken + 1) missing 0x80 0xBF bs
    else .broken taken

/-- Read the character that begins with a byte. -/
def utf8Front (b : UInt8) (bs : List UInt8) : Utf8Front :=
  let n := b.toNat
  if n < 0x80 then .char (Char.ofNat n) 1
  else if n < 0xC2 then .broken 1
  else if n < 0xE0 then utf8Tail (n % 32) 1 1 0x80 0xBF bs
  else if n = 0xE0 then utf8Tail 0 1 2 0xA0 0xBF bs
  else if n = 0xED then utf8Tail 13 1 2 0x80 0x9F bs
  else if n < 0xF0 then utf8Tail (n % 16) 1 2 0x80 0xBF bs
  else if n = 0xF0 then utf8Tail 0 1 3 0x90 0xBF bs
  else if n < 0xF4 then utf8Tail (n % 8) 1 3 0x80 0xBF bs
  else if n = 0xF4 then utf8Tail 4 1 3 0x80 0x8F bs
  else .broken 1

/-! ## §2 Texts -/

/-- A broken character: where it begins, and its length unless the end cuts it off. -/
structure Utf8Problem where
  index : Nat
  width : Option Nat
deriving DecidableEq, Repr

/-- The wording of a problem. -/
def Utf8Problem.message (p : Utf8Problem) : String :=
  match p.width with
  | some width => s!"invalid utf-8 sequence of {width} bytes from index {p.index}"
  | none => s!"incomplete utf-8 byte sequence from index {p.index}"

/-- The characters of some bytes from an index on, after so many bytes that are read already. -/
def utf8Scan : (skip index : Nat) → List UInt8 → List (Except Utf8Problem Char)
  | _, _, [] => []
  | skip + 1, index, _ :: bs => utf8Scan skip (index + 1) bs
  | 0, index, b :: bs =>
    match utf8Front b bs with
    | .char c width => .ok c :: utf8Scan (width - 1) (index + 1) bs
    | .broken width => .error ⟨index, some width⟩ :: utf8Scan (width - 1) (index + 1) bs
    | .cut => [.error ⟨index, none⟩]

/-- Bytes as text, or the first broken character. -/
def ofUtf8 (bs : List UInt8) : Except Utf8Problem String :=
  ((utf8Scan 0 0 bs).mapM id).map String.ofList

/-- Bytes as text, with a replacement character for every broken one. -/
def ofUtf8Lossy (bs : List UInt8) : String :=
  String.ofList <| (utf8Scan 0 0 bs).map fun c =>
    match c with
    | .ok c => c
    | .error _ => '\ufffd'

end EventOutbox.Text
