namespace CrateUsage.Text.Utf8

inductive Reason where
  | start
  | continuation
  | cutOff
  deriving DecidableEq, Repr

def Reason.message : Reason → String
  | start => "invalid start byte"
  | continuation => "invalid continuation byte"
  | cutOff => "unexpected end of data"

/-- Bytes that are no character: where they begin, how many they are, and the first of them. -/
structure Fault where
  position : Nat
  size : Nat
  byte : UInt8
  reason : Reason
  deriving DecidableEq, Repr

/-- A character of which bytes are still to come. The next must lie between two bounds. -/
structure Pending where
  position : Nat
  size : Nat
  byte : UInt8
  bits : Nat
  low : UInt8
  high : UInt8
  afterNext : Nat
  deriving DecidableEq, Repr

/-- The bounds of the second byte leave out what a shorter sequence can say, the surrogates, and
what lies beyond the last code point. -/
def Pending.ofLead? (position : Nat) (b : UInt8) : Option Pending :=
  let pending (bits : UInt8) (low high : UInt8) (afterNext : Nat) : Option Pending :=
    some { position, size := 1, byte := b, bits := bits.toNat, low, high, afterNext }
  if b < 0xc2 then none
  else if b < 0xe0 then pending (b - 0xc0) 0x80 0xbf 0
  else if b = 0xe0 then pending 0 0xa0 0xbf 1
  else if b = 0xed then pending 0xd 0x80 0x9f 1
  else if b < 0xf0 then pending (b - 0xe0) 0x80 0xbf 1
  else if b = 0xf0 then pending 0 0x90 0xbf 2
  else if b < 0xf4 then pending (b - 0xf0) 0x80 0xbf 2
  else if b = 0xf4 then pending 4 0x80 0x8f 2
  else none

def Pending.fault (p : Pending) (reason : Reason) : Fault := ⟨p.position, p.size, p.byte, reason⟩

def decodeFrom (position : Nat) (pending : Option Pending) (done : List Char) :
    List UInt8 → Except Fault (List Char)
  | [] =>
    match pending with
    | none => .ok done.reverse
    | some p => .error (p.fault .cutOff)
  | b :: bs =>
    match pending with
    | none =>
      if b < 0x80 then decodeFrom (position + 1) none (Char.ofNat b.toNat :: done) bs
      else
        match Pending.ofLead? position b with
        | some p => decodeFrom (position + 1) (some p) done bs
        | none => .error ⟨position, 1, b, .start⟩
    | some p =>
      if p.low ≤ b && b ≤ p.high then
        let bits := p.bits * 64 + b.toNat % 64
        match p.afterNext with
        | 0 => decodeFrom (position + 1) none (Char.ofNat bits :: done) bs
        | n + 1 =>
          let p := { p with size := p.size + 1, bits, low := 0x80, high := 0xbf, afterNext := n }
          decodeFrom (position + 1) (some p) done bs
      else .error (p.fault .continuation)

def decode (bytes : List UInt8) : Except Fault (List Char) := decodeFrom 0 none [] bytes

end CrateUsage.Text.Utf8
