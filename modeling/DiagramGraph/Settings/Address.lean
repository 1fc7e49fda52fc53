import DiagramGraph.Text.Split

/-!
# Socket addresses

The address of a listening socket is an IP address and a port. The address has
to be written in numbers. An IPv6 address stands in brackets, may shorten one
run of zero groups to `::` and may end in an IPv4 address; it is shown with its
longest run of zero groups shortened.
-/

namespace DiagramGraph.Settings

/-- The four bytes of an IPv4 address. -/
structure IPv4 where
  first : Nat
  second : Nat
  third : Nat
  fourth : Nat
  deriving DecidableEq, Repr

/-- An IP address with a port. An IPv6 address has eight groups and a zone. -/
inductive SocketAddress where
  | v4 (address : IPv4) (port : Nat)
  | v6 (groups : List Nat) (zone port : Nat)
  deriving DecidableEq, Repr

/-! ## Reading -/

/-- The value of a digit in a base of at most sixteen. -/
def digitValue? (base : Nat) (char : Char) : Option Nat :=
  let value? :=
    if '0' ≤ char ∧ char ≤ '9' then some (char.toNat - '0'.toNat)
    else if 'a' ≤ char ∧ char ≤ 'f' then some (char.toNat - 'a'.toNat + 10)
    else if 'A' ≤ char ∧ char ≤ 'F' then some (char.toNat - 'A'.toNat + 10)
    else none
  value?.filter fun value => decide (value < base)

/-- Whether a character is a digit in a base. -/
def isDigitIn (base : Nat) (char : Char) : Bool :=
  (digitValue? base char).isSome

/-- The number that digits denote. -/
def numberOf (base : Nat) (digits : List Char) : Nat :=
  digits.foldl (fun value digit => value * base + (digitValue? base digit).getD 0) 0

/-- The form of a number: its base, its greatest value, its greatest number of
digits if there is one, and whether it may begin with a needless zero. -/
structure NumberForm where
  base : Nat
  greatest : Nat
  length : Option Nat
  leadingZero : Bool
  deriving DecidableEq, Repr

/-- The number at the start of a text. All digits there belong to it. -/
def number? (form : NumberForm) (text : List Char) : Option (Nat × List Char) :=
  let digits := text.takeWhile (isDigitIn form.base)
  let value := numberOf form.base digits
  let fits := form.length.all fun length => decide (digits.length ≤ length)
  let padded := digits.head? == some '0' && 1 < digits.length
  if digits != [] && fits && value ≤ form.greatest && (form.leadingZero || !padded) then
    some (value, text.dropWhile (isDigitIn form.base))
  else none

/-- A byte of an IPv4 address. -/
def octetForm : NumberForm :=
  ⟨10, 255, some 3, false⟩

/-- A group of an IPv6 address. -/
def groupForm : NumberForm :=
  ⟨16, 65535, some 4, true⟩

/-- A port. -/
def portForm : NumberForm :=
  ⟨10, 65535, none, true⟩

/-- A zone. -/
def zoneForm : NumberForm :=
  ⟨10, 4294967295, none, true⟩

/-- The text behind an expected character. -/
def behind? (mark : Char) : List Char → Option (List Char)
  | char :: rest => if char = mark then some rest else none
  | [] => none

/-- The IPv4 address at the start of a text. -/
def ipv4? (text : List Char) : Option (IPv4 × List Char) := do
  let (first, rest) ← number? octetForm text
  let (second, rest) ← number? octetForm (← behind? '.' rest)
  let (third, rest) ← number? octetForm (← behind? '.' rest)
  let (fourth, rest) ← number? octetForm (← behind? '.' rest)
  return (⟨first, second, third, fourth⟩, rest)

/-- The two groups that an IPv4 address takes in an IPv6 address. -/
def IPv4.groups (address : IPv4) : List Nat :=
  [address.first * 256 + address.second, address.third * 256 + address.fourth]

/-- What stands between one group and the next. -/
def afterSeparator? (isFirst : Bool) (text : List Char) : Option (List Char) :=
  if isFirst then some text else behind? ':' text

/-- The groups at the start of a text, at most `limit` of them, whether they end
in an IPv4 address, and the text behind them. -/
def groups (isFirst : Bool) : Nat → List Char → List Nat × Bool × List Char
  | 0, text => ([], false, text)
  | limit + 1, text =>
      let next := afterSeparator? isFirst text
      match if limit = 0 then none else next.bind ipv4? with
      | some (address, rest) => (address.groups, true, rest)
      | none =>
          match next.bind (number? groupForm) with
          | some (group, rest) =>
              let (others, embedded, rest) := groups false limit rest
              (group :: others, embedded, rest)
          | none => ([], false, text)

/-- The IPv6 address at the start of a text. The mark `::` stands for at least
one zero group, and there is no IPv4 address before it. -/
def ipv6? (text : List Char) : Option (List Nat × List Char) := do
  let (front, embedded, rest) := groups true 8 text
  if front.length = 8 then return (front, rest)
  else if embedded then none
  else
    let rest ← behind? ':' (← behind? ':' rest)
    let (back, _, rest) := groups true (7 - front.length) rest
    return (front ++ List.replicate (8 - front.length - back.length) 0 ++ back, rest)

/-- The zone at the start of a text; zero if there is none. -/
def zone? : List Char → Option (Nat × List Char)
  | '%' :: rest => number? zoneForm rest
  | text => some (0, text)

/-- The port that ends a text. -/
def port? (text : List Char) : Option Nat := do
  let (port, rest) ← number? portForm (← behind? ':' text)
  if rest.isEmpty then return port else none

/-- An IPv4 socket address. -/
def socketV4? (text : List Char) : Option SocketAddress := do
  let (address, rest) ← ipv4? text
  return .v4 address (← port? rest)

/-- An IPv6 socket address. -/
def socketV6? (text : List Char) : Option SocketAddress := do
  let (groups, rest) ← ipv6? (← behind? '[' text)
  let (zone, rest) ← zone? rest
  return .v6 groups zone (← port? (← behind? ']' rest))

/-- The socket address that a text denotes. -/
def SocketAddress.ofText? (text : String) : Option SocketAddress :=
  socketV4? text.toList <|> socketV6? text.toList

/-! ## Writing -/

/-- A number in decimal digits. -/
def decimal (value : Nat) : List Char :=
  Nat.toDigits 10 value

/-- An IPv4 address. -/
def IPv4.text (address : IPv4) : List Char :=
  decimal address.first ++ '.' :: decimal address.second ++ '.' :: decimal address.third ++
    '.' :: decimal address.fourth

/-- Groups with colons between them. -/
def groupsText (groups : List Nat) : List Char :=
  [':'].intercalate (groups.map fun group => Nat.toDigits 16 group)

/-- The number of zeros at the start of a list. -/
def zeroRun (groups : List Nat) : Nat :=
  (groups.takeWhile (· == 0)).length

/-- The position and length of the first longest run of zeros. -/
def longestZeros (position : Nat) : List Nat → Nat × Nat
  | [] => (position, 0)
  | group :: rest =>
      let here := zeroRun (group :: rest)
      let (later, length) := longestZeros (position + 1) rest
      if length ≤ here then (position, here) else (later, length)

/-- An IPv6 address. One that stands for an IPv4 address shows it. -/
def ipv6Text (groups : List Nat) : List Char :=
  match groups with
  | [0, 0, 0, 0, 0, 0xffff, upper, lower] =>
      "::ffff:".toList ++
        IPv4.text ⟨upper / 256, upper % 256, lower / 256, lower % 256⟩
  | groups =>
      let (position, length) := longestZeros 0 groups
      if 1 < length then
        groupsText (groups.take position) ++ ':' :: ':' ::
          groupsText (groups.drop (position + length))
      else groupsText groups

/-- The text of a zone; zone zero is not shown. -/
def zoneText (zone : Nat) : List Char :=
  if zone = 0 then [] else '%' :: decimal zone

/-- The text of a socket address. -/
def SocketAddress.text : SocketAddress → String
  | .v4 address port => String.ofList (address.text ++ ':' :: decimal port)
  | .v6 groups zone port =>
      String.ofList ('[' :: ipv6Text groups ++ zoneText zone ++ ']' :: ':' :: decimal port)

end DiagramGraph.Settings
