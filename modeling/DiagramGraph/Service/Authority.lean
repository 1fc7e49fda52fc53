/-!
# Authorities

The authority of an address names a host, possibly with a user in front of an
at sign and with a port behind a colon. A host may stand in brackets, and has
colons of its own then. Percent signs are allowed in front of an at sign and
inside of brackets.
-/

namespace DiagramGraph.Service

/-- Whether a character may stand anywhere in an authority. -/
def isAuthorityChar (char : Char) : Bool :=
  char.isAlphanum || "-._~!$&'()*+,;=".toList.contains char

/-- Whether a character ends an authority. -/
def endsAuthority (char : Char) : Bool :=
  char == '/' || char == '?' || char == '#'

/-- What has been seen of an authority: the brackets, and what counts against
the host, which is the number of colons and whether there was a percent
sign. -/
structure AuthorityScan where
  colons : Nat := 0
  percent : Bool := false
  opened : Bool := false
  closed : Bool := false
  deriving DecidableEq, Repr

namespace AuthorityScan

/-- How many colons there may be in a row of parts. -/
def colonLimit : Nat :=
  8

/-- The scan after one more character, if it may stand there. What was seen
before an at sign or a closing bracket no longer counts against the host. -/
def next? (scan : AuthorityScan) (char : Char) : Option AuthorityScan :=
  match char with
  | ':' => if scan.colons < colonLimit then some { scan with colons := scan.colons + 1 } else none
  | '%' => some { scan with percent := true }
  | '@' => some { scan with colons := 0, percent := false }
  | '[' => if scan.opened || scan.percent then none else some { scan with opened := true }
  | ']' =>
      if scan.opened && !scan.closed then
        some { scan with colons := 0, percent := false, closed := true }
      else none
  | char => if isAuthorityChar char then some scan else none

/-- Whether an authority may end here. -/
def isComplete (scan : AuthorityScan) : Bool :=
  scan.opened == scan.closed && scan.colons ≤ 1 && !scan.percent

end AuthorityScan

/-- Whether a text is an authority. It may be empty, but there is a host behind
an at sign. -/
def isAuthority (text : List Char) : Bool :=
  match text.foldlM AuthorityScan.next? {} with
  | some scan => scan.isComplete && text.getLast? != some '@'
  | none => false

end DiagramGraph.Service
