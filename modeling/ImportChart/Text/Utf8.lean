import ImportChart.Text.Basic

/-!
# UTF-8

- `encode`: the bytes of a text;
- `decodeChar?` and `decode`: strict decoding, which refuses overlong forms, surrogates and code points past U+10FFFF;
- `decodeLossy`: decoding that puts U+FFFD for every maximal ill-formed part;
- `firstFault`: where and why bytes do not decode;
- `unifyLineEnds`: every line end of a file is read as a line feed.
-/

namespace ImportChart

/-- The content of a file. -/
abbrev Bytes := List UInt8

namespace Utf8

/-! ## Encoding -/

/-- The bytes of a character. -/
def encodeChar (c : Char) : Bytes :=
  let n := c.toNat
  if n < 0x80 then [.ofNat n]
  else if n < 0x800 then [.ofNat (0xC0 + n / 64), .ofNat (0x80 + n % 64)]
  else if n < 0x10000 then [.ofNat (0xE0 + n / 4096), .ofNat (0x80 + n / 64 % 64), .ofNat (0x80 + n % 64)]
  else [.ofNat (0xF0 + n / 262144), .ofNat (0x80 + n / 4096 % 64), .ofNat (0x80 + n / 64 % 64), .ofNat (0x80 + n % 64)]

/-- The bytes of a text. -/
def encode (t : Text) : Bytes := t.flatMap encodeChar

/-! ## Decoding -/

/-- Whether a byte continues a character, and the six bits that it carries. -/
def continuation? (b : UInt8) : Option Nat :=
  let n := b.toNat
  if 0x80 ≤ n && n < 0xC0 then some (n - 0x80) else none

/-- The character that a byte sequence begins with, and the bytes after it. -/
def decodeChar? : Bytes → Option (Char × Bytes)
  | [] => none
  | b :: rest =>
    let n := b.toNat
    if n < 0x80 then some (Char.ofNat n, rest)
    else if n < 0xC2 then none
    else if n < 0xE0 then
      match rest with
      | b₁ :: rest =>
        match continuation? b₁ with
        | some x => some (Char.ofNat ((n - 0xC0) * 64 + x), rest)
        | none => none
      | _ => none
    else if n < 0xF0 then
      match rest with
      | b₁ :: b₂ :: rest =>
        match continuation? b₁, continuation? b₂ with
        | some x, some y =>
          let v := (n - 0xE0) * 4096 + x * 64 + y
          if v < 0x800 || (0xD800 ≤ v && v < 0xE000) then none else some (Char.ofNat v, rest)
        | _, _ => none
      | _ => none
    else if n < 0xF5 then
      match rest with
      | b₁ :: b₂ :: b₃ :: rest =>
        match continuation? b₁, continuation? b₂, continuation? b₃ with
        | some x, some y, some z =>
          let v := (n - 0xF0) * 262144 + x * 4096 + y * 64 + z
          if v < 0x10000 || 0x110000 ≤ v then none else some (Char.ofNat v, rest)
        | _, _, _ => none
      | _ => none
    else none

/-- Decoding a character uses at least one byte. -/
theorem length_lt_of_decodeChar? {bs rest : Bytes} {c : Char} (h : decodeChar? bs = some (c, rest)) :
    rest.length < bs.length := by
  unfold decodeChar? at h
  dsimp only at h
  repeat' split at h
  all_goals first
    | (obtain ⟨-, rfl⟩ := Prod.mk.inj (Option.some.inj h); simp only [List.length_cons]; omega)
    | nomatch h

/-- The text that a byte sequence encodes, if it is well formed. -/
def decode (bs : Bytes) : Option Text :=
  match _h : decodeChar? bs with
  | some (c, rest) => (decode rest).map (c :: ·)
  | none => if bs.isEmpty then some [] else none
termination_by bs.length
decreasing_by exact length_lt_of_decodeChar? (by assumption)

/-- How many bytes at the beginning of an ill-formed sequence count as one fault: a byte that begins no character,
or the longest part that some character begins with. -/
def faultLength : Bytes → Nat
  | [] => 1
  | b :: rest =>
    let n := b.toNat
    let second (low high : Nat) : Bool :=
      match rest with
      | b₁ :: _ => low ≤ b₁.toNat && b₁.toNat ≤ high
      | [] => false
    let third : Bool :=
      match rest with
      | _ :: b₂ :: _ => (continuation? b₂).isSome
      | _ => false
    if 0xE0 ≤ n && n < 0xF0 then
      if second (if n = 0xE0 then 0xA0 else 0x80) (if n = 0xED then 0x9F else 0xBF) then 2 else 1
    else if 0xF0 ≤ n && n < 0xF5 then
      if second (if n = 0xF0 then 0x90 else 0x80) (if n = 0xF4 then 0x8F else 0xBF) then if third then 3 else 2 else 1
    else 1

/-- A fault is at least one byte long. -/
theorem faultLength_pos (bs : Bytes) : 0 < faultLength bs := by
  unfold faultLength
  split
  · decide
  · dsimp only
    repeat' split
    all_goals decide

/-- The text of a byte sequence, with U+FFFD for every fault. -/
def decodeLossy (bs : Bytes) : Text :=
  match _h : decodeChar? bs with
  | some (c, rest) => c :: decodeLossy rest
  | none => if bs.isEmpty then [] else Char.ofNat 0xFFFD :: decodeLossy (bs.drop (faultLength bs))
termination_by bs.length
decreasing_by
  · exact length_lt_of_decodeChar? (by assumption)
  · have := faultLength_pos bs
    have : bs ≠ [] := by simp_all
    have := List.length_pos_iff.2 this
    simp; omega

/-! ## Faults -/

/-- Why bytes do not decode. -/
inductive DecodeReason where
  | badStart
  | badContinuation
  | endOfData
  deriving DecidableEq, Repr

/-- The first fault of a byte sequence: where it is, its bytes, and why they do not decode. -/
structure DecodeFault where
  position : Nat
  bytes : Bytes
  reason : DecodeReason
  deriving DecidableEq, Repr

/-- Why the bytes do not begin with a character. -/
def reasonAt (bs : Bytes) : DecodeReason :=
  match bs with
  | [] => .endOfData
  | b :: _ =>
    if b.toNat < 0xC2 || 0xF5 ≤ b.toNat then .badStart
    else if bs.length ≤ faultLength bs then .endOfData
    else .badContinuation

/-- The first fault of bytes that stand at a position. -/
def firstFault (position : Nat) (bs : Bytes) : DecodeFault :=
  match _h : decodeChar? bs with
  | some (_, rest) => firstFault (position + (bs.length - rest.length)) rest
  | none => ⟨position, bs.take (faultLength bs), reasonAt bs⟩
termination_by bs.length
decreasing_by exact length_lt_of_decodeChar? (by assumption)

/-- What is said of bytes that do not decode. -/
def DecodeFault.message (f : DecodeFault) : Text :=
  let place : Text :=
    match f.bytes with
    | [b] =>
      ("byte 0x" : Text) ++ [Nat.digitChar (b.toNat / 16), Nat.digitChar (b.toNat % 16)] ++ " in position " ++
        Text.ofNat f.position
    | bs =>
      ("bytes in position " : Text) ++ Text.ofNat f.position ++ "-" ++ Text.ofNat (f.position + bs.length - 1)
  let why : Text :=
    match f.reason with
    | .badStart => "invalid start byte"
    | .badContinuation => "invalid continuation byte"
    | .endOfData => "unexpected end of data"
  ("'utf-8' codec can't decode " : Text) ++ place ++ ": " ++ why

/-! ## Line ends -/

/-- Read a carriage return, and a carriage return with a line feed, as a line feed. -/
def unifyLineEnds : Text → Text
  | [] => []
  | '\r' :: '\n' :: cs => '\n' :: unifyLineEnds cs
  | c :: cs => (if c == '\r' then '\n' else c) :: unifyLineEnds cs

/-- The text of a file: strict decoding with unified line ends. -/
def readText (bs : Bytes) : Option Text := (decode bs).map unifyLineEnds

end Utf8

end ImportChart
