import TemplateAudit.Text.Basic

namespace TemplateAudit

/-- Bytes of a file. -/
abbrev Bytes := List UInt8

/-- Why bytes are not UTF-8. -/
inductive Utf8Fault where
  | invalidStart
  | invalidContinuation
  | unexpectedEnd
deriving DecidableEq, Repr

/-- The faulty bytes: where they start, and the bytes themselves. -/
structure Utf8Error where
  fault : Utf8Fault
  start : Nat
  bytes : Bytes
deriving DecidableEq, Repr

/-- The reason as a complaint gives it. -/
def Utf8Fault.reason : Utf8Fault → Text
  | .invalidStart => "invalid start byte"
  | .invalidContinuation => "invalid continuation byte"
  | .unexpectedEnd => "unexpected end of data"

/-- The complaint about bytes that are not UTF-8. -/
def Utf8Error.message (error : Utf8Error) : Text :=
  let place : Text := match error.bytes with
    | [byte] => "byte 0x" ++ Text.hex 2 byte.toNat ++ " in position " ++ Text.ofNat error.start
    | bytes => "bytes in position " ++ Text.ofNat error.start ++ "-"
        ++ Text.ofNat (error.start + bytes.length - 1)
  "'utf-8' codec can't decode " ++ place ++ ": " ++ error.fault.reason

namespace Utf8

/-- Whether a byte continues a character. -/
def isTail (byte : UInt8) : Bool := 0x80 ≤ byte && byte ≤ 0xBF

/-- Whether `second` may follow the lead byte `lead`: overlong forms, surrogates and code points
    beyond the last one are excluded by the second byte. -/
def secondFits (lead second : UInt8) : Bool :=
  isTail second
    && !(lead == 0xE0 && second < 0xA0) && !(lead == 0xED && 0xA0 ≤ second)
    && !(lead == 0xF0 && second < 0x90) && !(lead == 0xF4 && 0x90 ≤ second)

/-- The six low bits of a byte that continues a character. -/
def tailBits (byte : UInt8) : Nat := byte.toNat % 64

/-- The first character of `lead :: rest` and what follows it, or the fault and the number of faulty
    bytes. -/
def decodeFirst (lead : UInt8) (rest : Bytes) : Except (Utf8Fault × Nat) (Char × Bytes) :=
  if lead < 0x80 then .ok (Char.ofNat lead.toNat, rest)
  else if lead < 0xC2 || 0xF4 < lead then .error (.invalidStart, 1)
  else
    match rest with
    | [] => .error (.unexpectedEnd, 1)
    | second :: rest =>
      if !secondFits lead second then .error (.invalidContinuation, 1)
      else if lead < 0xE0 then
        .ok (Char.ofNat (lead.toNat % 32 * 64 + tailBits second), rest)
      else
        match rest with
        | [] => .error (.unexpectedEnd, 2)
        | third :: rest =>
          if !isTail third then .error (.invalidContinuation, 2)
          else if lead < 0xF0 then
            .ok (Char.ofNat ((lead.toNat % 16 * 64 + tailBits second) * 64 + tailBits third), rest)
          else
            match rest with
            | [] => .error (.unexpectedEnd, 3)
            | fourth :: rest =>
              if !isTail fourth then .error (.invalidContinuation, 3)
              else
                .ok (Char.ofNat (((lead.toNat % 8 * 64 + tailBits second) * 64 + tailBits third) * 64
                  + tailBits fourth), rest)

/-- A lead byte is decoded together with bytes behind it, if any. -/
theorem length_of_decodeFirst {lead : UInt8} {rest after : Bytes} {c : Char}
    (h : decodeFirst lead rest = .ok (c, after)) : after.length ≤ rest.length := by
  unfold decodeFirst at h
  repeat' split at h
  all_goals simp at h
  all_goals simp [← h.2]
  all_goals omega

/-- Decode bytes of which the first stands at `position`. -/
def decodeFrom (position : Nat) (bytes : Bytes) : Except Utf8Error Text :=
  match bytes with
  | [] => .ok []
  | lead :: rest =>
    match _h : decodeFirst lead rest with
    | .error (fault, count) => .error ⟨fault, position, (lead :: rest).take count⟩
    | .ok (c, after) =>
      (decodeFrom (position + c.utf8Size) after).map (c :: ·)
termination_by bytes.length
decreasing_by
  have := length_of_decodeFirst (by assumption)
  simp only [List.length_cons]
  omega

/-- The text that bytes hold. Decoding stops at the first byte sequence that is not UTF-8 and says which bytes are at
    fault and why: a byte that starts no character, a byte that does not continue one, or the end of the data in the
    middle of one. -/
def decode (bytes : Bytes) : Except Utf8Error Text := decodeFrom 0 bytes

/-- The bytes of a text. -/
def encode (text : Text) : Bytes := text.flatMap String.utf8EncodeChar

/-- The number of bytes of a text. -/
def size : Text → Nat
  | [] => 0
  | c :: rest => c.utf8Size + size rest

end Utf8

end TemplateAudit
