/-!
# UTF-8

Bytes are read as a sequence of characters. A byte that cannot begin or
continue a character is a fault; its length is the number of bytes that were
well formed up to it, and at least one. A text that ends inside a character is
truncated. Decoding either stops at the first fault or puts the replacement
character in the place of each.
-/

namespace DiagramGraph.Text.Utf8

/-- What the bytes at one position are. `more` counts the bytes beyond the
first. -/
inductive Unit where
  | char (char : Char) (more : Nat)
  | malformed (more : Nat)
  | truncated
  deriving DecidableEq, Repr

/-- Why a byte sequence is not text, and where. -/
inductive Fault where
  | malformed (index length : Nat)
  | truncated (index : Nat)
  deriving DecidableEq, Repr

/-- Whether a byte continues a character. -/
def isTail (byte : Nat) : Bool :=
  0x80 ≤ byte && byte ≤ 0xbf

/-- The bytes that may follow each lead byte of a longer character: the range
of the second byte and the number of further ones. -/
def shape? (lead : Nat) : Option (Nat × Nat × Nat) :=
  if 0xc2 ≤ lead && lead ≤ 0xdf then some (0x80, 0xbf, 0)
  else if lead == 0xe0 then some (0xa0, 0xbf, 1)
  else if lead == 0xed then some (0x80, 0x9f, 1)
  else if 0xe1 ≤ lead && lead ≤ 0xef then some (0x80, 0xbf, 1)
  else if lead == 0xf0 then some (0x90, 0xbf, 2)
  else if 0xf1 ≤ lead && lead ≤ 0xf3 then some (0x80, 0xbf, 2)
  else if lead == 0xf4 then some (0x80, 0x8f, 2)
  else none

/-- The bits of a lead byte that belong to the code point, when the character
has `extra` bytes beyond the second. -/
def leadBits (lead extra : Nat) : Nat :=
  match extra with
  | 0 => lead % 0x20
  | 1 => lead % 0x10
  | _ => lead % 0x08

/-- Read the `extra` last bytes of a character. `seen` counts the bytes read
beyond the first. -/
def tail (code seen : Nat) : Nat → List UInt8 → Unit
  | 0, _ => .char (Char.ofNat code) seen
  | _ + 1, [] => .truncated
  | extra + 1, byte :: rest =>
      if isTail byte.toNat then tail (code * 0x40 + byte.toNat % 0x40) (seen + 1) extra rest
      else .malformed seen

/-- The unit that begins with `lead` and goes on in `rest`. -/
def unit (lead : UInt8) (rest : List UInt8) : Unit :=
  if lead.toNat < 0x80 then .char (Char.ofNat lead.toNat) 0
  else
    match shape? lead.toNat with
    | none => .malformed 0
    | some (low, high, extra) =>
        match rest with
        | [] => .truncated
        | second :: rest =>
            if low ≤ second.toNat && second.toNat ≤ high then
              tail (leadBits lead.toNat extra * 0x40 + second.toNat % 0x40) 1 extra rest
            else .malformed 0

/-- The characters of a byte sequence whose first byte stands at `index`, or
the first fault. -/
def decodeFrom (index : Nat) (bytes : List UInt8) : Except Fault (List Char) :=
  match bytes with
  | [] => .ok []
  | lead :: rest =>
      match unit lead rest with
      | .char char more => (decodeFrom (index + 1 + more) (rest.drop more)).map (char :: ·)
      | .malformed more => .error (.malformed index (more + 1))
      | .truncated => .error (.truncated index)
termination_by bytes.length
decreasing_by
  rw [List.length_drop, List.length_cons]
  omega

/-- The characters of a byte sequence, or the first fault. -/
def decode (bytes : List UInt8) : Except Fault (List Char) :=
  decodeFrom 0 bytes

/-- The characters of a byte sequence, with the replacement character for each
fault. -/
def decodeLossy (bytes : List UInt8) : List Char :=
  match bytes with
  | [] => []
  | lead :: rest =>
      match unit lead rest with
      | .char char more => char :: decodeLossy (rest.drop more)
      | .malformed more => '\uFFFD' :: decodeLossy (rest.drop more)
      | .truncated => ['\uFFFD']
termination_by bytes.length
decreasing_by
  all_goals
    rw [List.length_drop, List.length_cons]
    omega

/-- The bytes of one character. -/
def encodeChar (char : Char) : List UInt8 :=
  let code := char.toNat
  let tailByte (value : Nat) : UInt8 := UInt8.ofNat (0x80 + value % 0x40)
  if code < 0x80 then [UInt8.ofNat code]
  else if code < 0x800 then [UInt8.ofNat (0xc0 + code / 0x40), tailByte code]
  else if code < 0x10000 then
    [UInt8.ofNat (0xe0 + code / 0x1000), tailByte (code / 0x40), tailByte code]
  else
    [UInt8.ofNat (0xf0 + code / 0x40000), tailByte (code / 0x1000), tailByte (code / 0x40),
      tailByte code]

/-- The bytes of a text. -/
def encode (text : List Char) : List UInt8 :=
  text.flatMap encodeChar

/-- How a fault is reported. -/
def Fault.message : Fault → String
  | .malformed index length =>
      s!"invalid utf-8 sequence of {length} bytes from index {index}"
  | .truncated index => s!"incomplete utf-8 byte sequence from index {index}"

end DiagramGraph.Text.Utf8
