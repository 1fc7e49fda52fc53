import DiagramGraph.Service.Authority
import DiagramGraph.Service.Message
import DiagramGraph.Text.Split

/-!
# Request targets

A target is a path with an optional query; a fragment is dropped. A query is a
list of pairs in the form encoding: pairs are separated by `&`, names from
values by the first `=`, a plus sign stands for a blank and a percent sign with
two hexadecimal digits for a byte. What is not a proper percent sequence stands
for itself, and bytes that are no text are replaced.
-/

namespace DiagramGraph.Service

open DiagramGraph.Text

/-- The path and the query of a target. -/
structure Target where
  path : List Char
  query : Option (List Char)
  deriving DecidableEq, Repr

/-! ## Paths and queries -/

/-- Whether a character is visible, or not an ASCII character. -/
def isVisible (char : Char) : Bool :=
  0x20 < char.toNat && char.toNat != 0x7f

/-- Whether a character may stand in a path. -/
def isPathSafe (char : Char) : Bool :=
  isVisible char && !"#<>?\x60".toList.contains char

/-- Whether a character may stand in a query. -/
def isQuerySafe (char : Char) : Bool :=
  isVisible char && !"\"#<>".toList.contains char

/-- The text before the first occurrence of a mark. -/
def before (mark : Char) (text : List Char) : List Char :=
  text.takeWhile (· != mark)

/-- The text behind the first occurrence of a mark, if there is one. -/
def behind? (mark : Char) (text : List Char) : Option (List Char) :=
  match text.dropWhile (· != mark) with
  | _ :: rest => some rest
  | [] => none

/-- The path and query at the end of a target, if they are well formed. -/
def Target.ofPath? (text : List Char) : Option Target :=
  let text := before '#' text
  let path := before '?' text
  let query := behind? '?' text
  if path.all isPathSafe && (query.getD []).all isQuerySafe then some ⟨path, query⟩ else none

/-! ## Addresses -/

/-- The greatest number of bytes in a target. -/
def targetLimit : Nat :=
  65534

/-- Whether a character may stand in a scheme. -/
def isSchemeChar (char : Char) : Bool :=
  char.isAlphanum || "+-.~".toList.contains char

/-- The greatest number of characters in a scheme. -/
def schemeLimit : Nat :=
  64

/-- The scheme of an absolute target and the text behind it and its mark. -/
def scheme? (text : List Char) : Option (List Char × List Char) :=
  match text.dropWhile isSchemeChar with
  | ':' :: '/' :: '/' :: rest => some (text.takeWhile isSchemeChar, rest)
  | _ => none

/-- The target behind a scheme: an authority that is not empty, and a path that
is the root if it is left out. -/
def Target.ofAddress? (text : List Char) : Option Target :=
  let authority := text.takeWhile (!endsAuthority ·)
  if authority.isEmpty || !isAuthority authority then none
  else
    match text.dropWhile (!endsAuthority ·) with
    | '/' :: path => Target.ofPath? ('/' :: path)
    | path => Target.ofPath? ('/' :: path)

/-- The target that a text denotes: a path, or an absolute address whose
authority does not matter. An authority alone has no path. -/
def Target.ofText? (text : List Char) : Option Target :=
  if text.isEmpty || targetLimit < (Utf8.encode text).length then none
  else if text.head? = some '/' then Target.ofPath? text
  else
    match scheme? text with
    | some (scheme, rest) =>
        if schemeLimit < scheme.length then none else Target.ofAddress? rest
    | none => if isAuthority text then some ⟨[], none⟩ else none

/-! ## Form encoding -/

/-- The value of a hexadecimal digit. -/
def hexValue? (byte : UInt8) : Option Nat :=
  let code := byte.toNat
  if 0x30 ≤ code && code ≤ 0x39 then some (code - 0x30)
  else if 0x41 ≤ code && code ≤ 0x46 then some (code - 0x37)
  else if 0x61 ≤ code && code ≤ 0x66 then some (code - 0x57)
  else none

/-- The bytes that a form-encoded text stands for. -/
def decodeBytes : List UInt8 → List UInt8
  | [] => []
  | 0x2b :: rest => 0x20 :: decodeBytes rest
  | 0x25 :: first :: second :: rest =>
      match hexValue? first, hexValue? second with
      | some high, some low => UInt8.ofNat (high * 16 + low) :: decodeBytes rest
      | _, _ => 0x25 :: decodeBytes (first :: second :: rest)
  | byte :: rest => byte :: decodeBytes rest

/-- The text that a form-encoded text stands for. -/
def decodeForm (text : List Char) : List Char :=
  Utf8.decodeLossy (decodeBytes (Utf8.encode text))

/-- The pairs of a query. -/
def queryPairs (query : List Char) : List (List Char × List Char) :=
  ((pieces '&' query).filter fun piece => piece != []).map fun piece =>
    (decodeForm (before '=' piece), decodeForm ((behind? '=' piece).getD []))

end DiagramGraph.Service
