/-! UTF-8 validation of bytes. -/

namespace FleetIssues.Text

/-- Where bytes stop being UTF-8: the length of the valid prefix, and the length of the bad
sequence, absent when the bytes end inside a character. -/
structure Utf8Error where
  validUpTo : Nat
  errorLength : Option Nat
  deriving DecidableEq, Repr

/-- The sentence of a UTF-8 error. -/
def Utf8Error.message (e : Utf8Error) : String :=
  match e.errorLength with
  | some n => "invalid utf-8 sequence of " ++ toString n ++ " bytes from index " ++ toString e.validUpTo
  | none => "incomplete utf-8 byte sequence from index " ++ toString e.validUpTo

/-- Whether a byte continues a character. -/
def isContinuation (b : UInt8) : Bool := 0x80 ≤ b.toNat && b.toNat ≤ 0xBF

/-- The allowed range of the second byte after a lead byte, and the character's length. -/
def leadRange (lead : Nat) : Option (Nat × Nat × Nat) :=
  if 0xC2 ≤ lead && lead ≤ 0xDF then some (0x80, 0xBF, 2)
  else if lead == 0xE0 then some (0xA0, 0xBF, 3)
  else if 0xE1 ≤ lead && lead ≤ 0xEC then some (0x80, 0xBF, 3)
  else if lead == 0xED then some (0x80, 0x9F, 3)
  else if 0xEE ≤ lead && lead ≤ 0xEF then some (0x80, 0xBF, 3)
  else if lead == 0xF0 then some (0x90, 0xBF, 4)
  else if 0xF1 ≤ lead && lead ≤ 0xF3 then some (0x80, 0xBF, 4)
  else if lead == 0xF4 then some (0x80, 0x8F, 4)
  else none

/-- The code point of a lead byte and its continuation bytes. -/
def codePoint (lead : Nat) (tail : List UInt8) : Nat :=
  let start := match tail.length with
    | 1 => lead &&& 0x1F
    | 2 => lead &&& 0x0F
    | _ => lead &&& 0x07
  tail.foldl (fun acc b => acc * 64 + (b.toNat &&& 0x3F)) start

/-- Reads one character at the head of bytes: the character and its length in bytes, or the
length of the bad sequence (absent when the bytes end inside the character). -/
def readChar : List UInt8 → Except (Option Nat) (Char × Nat)
  | [] => .error none
  | b :: rest =>
    if b.toNat < 0x80 then .ok (Char.ofNat b.toNat, 1)
    else
      match leadRange b.toNat with
      | none => .error (some 1)
      | some (lo, hi, width) =>
        match rest with
        | [] => .error none
        | second :: more =>
          if second.toNat < lo || hi < second.toNat then .error (some 1)
          else if width == 2 then .ok (Char.ofNat (codePoint b.toNat [second]), 2)
          else
            match more with
            | [] => .error none
            | third :: more' =>
              if !isContinuation third then .error (some 2)
              else if width == 3 then .ok (Char.ofNat (codePoint b.toNat [second, third]), 3)
              else
                match more' with
                | [] => .error none
                | fourth :: _ =>
                  if !isContinuation fourth then .error (some 3)
                  else .ok (Char.ofNat (codePoint b.toNat [second, third, fourth]), 4)

/-- Decodes bytes as UTF-8, given the number of bytes already read and the characters so far. -/
def decodeFrom (offset : Nat) (acc : List Char) : List UInt8 → Except Utf8Error String
  | [] => .ok (String.ofList acc.reverse)
  | b :: rest =>
    match readChar (b :: rest) with
    | .ok (c, width) => decodeFrom (offset + max width 1) (c :: acc) ((b :: rest).drop (max width 1))
    | .error length => .error ⟨offset, length⟩
termination_by bytes => bytes.length
decreasing_by simp only [List.length_drop, List.length_cons]; omega

/-- Decodes bytes as UTF-8 text. -/
def decodeUtf8 (bytes : List UInt8) : Except Utf8Error String :=
  decodeFrom 0 [] bytes

end FleetIssues.Text
