import Critique.Text.Basic

/-!
# UTF-8

Bytes of a text and the way back. A reader takes one byte at a time; where no character can be
formed, the bytes that started one count as a single fault, and the byte that broke it is read
afresh.
-/

namespace Critique.Utf8

abbrev Bytes := List UInt8

def encode (t : Text) : Bytes := t.flatMap String.utf8EncodeChar

/-- Whether a text takes more than a number of bytes. -/
def isLonger : (bytes : Nat) → Text → Bool
  | _, [] => false
  | bytes, c :: rest => bytes < c.utf8Size || isLonger (bytes - c.utf8Size) rest

/-- A character whose last bytes are still to come. The next byte lies from `low` to `high`. -/
structure Pending where
  missing : Nat
  low : UInt8
  high : UInt8
  value : Nat

/-- What has been read, last first, with `none` for a fault. -/
structure Reader where
  done : List (Option Char)
  pending : Option Pending

def Pending.ofLead? (b : UInt8) : Option Pending :=
  if 0xC2 ≤ b && b ≤ 0xDF then some ⟨1, 0x80, 0xBF, b.toNat - 0xC0⟩
  else if b == 0xE0 then some ⟨2, 0xA0, 0xBF, 0⟩
  else if b == 0xED then some ⟨2, 0x80, 0x9F, 0xD⟩
  else if 0xE1 ≤ b && b ≤ 0xEF then some ⟨2, 0x80, 0xBF, b.toNat - 0xE0⟩
  else if b == 0xF0 then some ⟨3, 0x90, 0xBF, 0⟩
  else if 0xF1 ≤ b && b ≤ 0xF3 then some ⟨3, 0x80, 0xBF, b.toNat - 0xF0⟩
  else if b == 0xF4 then some ⟨3, 0x80, 0x8F, 4⟩
  else none

/-- Reads a byte between two characters. -/
def Reader.start (done : List (Option Char)) (b : UInt8) : Reader :=
  if b < 0x80 then ⟨some (Char.ofNat b.toNat) :: done, none⟩
  else match Pending.ofLead? b with
    | some pending => ⟨done, some pending⟩
    | none => ⟨none :: done, none⟩

def Reader.next (reader : Reader) (b : UInt8) : Reader :=
  match reader.pending with
  | none => Reader.start reader.done b
  | some ⟨missing, low, high, value⟩ =>
    if low ≤ b && b ≤ high then
      let value := value * 64 + b.toNat % 64
      if missing ≤ 1 then ⟨some (Char.ofNat value) :: reader.done, none⟩
      else ⟨reader.done, some ⟨missing - 1, 0x80, 0xBF, value⟩⟩
    else Reader.start (none :: reader.done) b

def Reader.finish (reader : Reader) : List (Option Char) :=
  (if reader.pending.isSome then none :: reader.done else reader.done).reverse

/-- The characters of some bytes, with `none` for each fault. -/
def read (bytes : Bytes) : List (Option Char) := (bytes.foldl Reader.next ⟨[], none⟩).finish

/-- The text whose UTF-8 form the bytes are. -/
def decode? (bytes : Bytes) : Option Text :=
  let chars := read bytes
  if chars.all Option.isSome then some (chars.filterMap id) else none

/-- The text of some bytes with U+FFFD for each fault. -/
def decodeLossy (bytes : Bytes) : Text := (read bytes).map (·.getD '\ufffd')

end Critique.Utf8
