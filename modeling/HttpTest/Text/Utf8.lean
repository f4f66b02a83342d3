/-!
# Bytes as text

Bytes that are valid UTF-8 are the text they encode. In any others each maximal run that starts a
character but does not finish it, and each byte that starts none, becomes one replacement character.
-/

namespace HttpTest.Text

/-- A character of several bytes of which some are still missing. -/
structure Pending where
  bits : Nat
  missing : Nat
  /-- The bounds of the next byte, which keep out overlong forms, surrogates and what lies beyond
  the last code point. -/
  low : Nat
  high : Nat

def replacement : Char := Char.ofNat 0xFFFD

inductive Progress where
  | character (c : Char)
  | pending (p : Pending)
  | refused

def startCharacter (byte : UInt8) : Progress :=
  let b := byte.toNat
  if b < 0x80 then .character (Char.ofNat b)
  else if 0xC2 ≤ b ∧ b ≤ 0xDF then .pending ⟨b - 0xC0, 1, 0x80, 0xBF⟩
  else if b = 0xE0 then .pending ⟨0, 2, 0xA0, 0xBF⟩
  else if b = 0xED then .pending ⟨0xD, 2, 0x80, 0x9F⟩
  else if 0xE1 ≤ b ∧ b ≤ 0xEF then .pending ⟨b - 0xE0, 2, 0x80, 0xBF⟩
  else if b = 0xF0 then .pending ⟨0, 3, 0x90, 0xBF⟩
  else if 0xF1 ≤ b ∧ b ≤ 0xF3 then .pending ⟨b - 0xF0, 3, 0x80, 0xBF⟩
  else if b = 0xF4 then .pending ⟨4, 3, 0x80, 0x8F⟩
  else .refused

def Pending.next (p : Pending) (byte : UInt8) : Progress :=
  let b := byte.toNat
  if p.low ≤ b ∧ b ≤ p.high then
    let bits := p.bits * 64 + (b - 0x80)
    if p.missing = 1 then .character (Char.ofNat bits)
    else .pending ⟨bits, p.missing - 1, 0x80, 0xBF⟩
  else .refused

/-- The characters of the bytes that follow a character's first ones. A byte that cannot continue a
character is looked at again as the start of one. -/
def decodeFrom (pending : Option Pending) : List UInt8 → List Char
  | [] => if pending.isSome then [replacement] else []
  | byte :: rest =>
    let start : List Char :=
      match startCharacter byte with
      | .character c => c :: decodeFrom none rest
      | .pending p => decodeFrom (some p) rest
      | .refused => replacement :: decodeFrom none rest
    match pending with
    | none => start
    | some p =>
      match p.next byte with
      | .character c => c :: decodeFrom none rest
      | .pending p => decodeFrom (some p) rest
      | .refused => replacement :: start

/-- The bytes from the first one on with which no character starts that the bytes after it finish.
There are none where the bytes are UTF-8. `pending` is a character under way, with all bytes from
its first one on. -/
def invalidFrom (pending : Option (Pending × List UInt8)) : List UInt8 → List UInt8
  | [] => match pending with
    | none => []
    | some (_, start) => start
  | byte :: rest =>
    let (progress, start) := match pending with
      | none => (startCharacter byte, byte :: rest)
      | some (p, start) => (p.next byte, start)
    match progress with
    | .character _ => invalidFrom none rest
    | .pending p => invalidFrom (some (p, start)) rest
    | .refused => start

def decodeLossy (bytes : ByteArray) : String :=
  match String.fromUTF8? bytes with
  | some text => text
  | none => String.ofList (decodeFrom none bytes.toList)

@[simp] theorem decodeLossy_toUTF8 (s : String) : decodeLossy s.toUTF8 = s := by
  have h : String.fromUTF8? s.toUTF8 = some s := by
    simp [String.fromUTF8?, String.toUTF8, String.fromUTF8, s.isValidUTF8]
  unfold decodeLossy
  rw [h]

end HttpTest.Text
