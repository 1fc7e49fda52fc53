/-!
# Visibility of members

Who may see an attribute or a method. A member line shows it by a marker in
front of the name; a member without marker can be seen by everyone.
-/

namespace DiagramGraph

/-- Who may see a member. -/
inductive Visibility where
  | publicAccess
  | privateAccess
  | protectedAccess
  | packageAccess
  deriving DecidableEq, Repr

namespace Visibility

/-- All visibilities. -/
def all : List Visibility :=
  [.publicAccess, .privateAccess, .protectedAccess, .packageAccess]

/-- The name of a visibility. -/
def name : Visibility → String
  | .publicAccess => "public"
  | .privateAccess => "private"
  | .protectedAccess => "protected"
  | .packageAccess => "package"

/-- The visibility with exactly this name. -/
def ofName? (text : String) : Option Visibility :=
  all.find? fun visibility => visibility.name == text

/-- The marker of a visibility. -/
def marker : Visibility → Char
  | .publicAccess => '+'
  | .privateAccess => '-'
  | .protectedAccess => '#'
  | .packageAccess => '~'

/-- Whether a character is a visibility marker. -/
def isMarker (char : Char) : Bool :=
  all.any fun visibility => visibility.marker == char

/-- The visibility that a marker shows. Without a marker, or with a text that is
none, a member is public. -/
def ofMarker (marker : Option (List Char)) : Visibility :=
  match marker with
  | some text => (all.find? fun visibility => [visibility.marker] == text).getD .publicAccess
  | none => .publicAccess

/-- The name determines the visibility. -/
theorem ofName?_name (visibility : Visibility) : ofName? visibility.name = some visibility := by
  cases visibility <;> decide

/-- The marker determines the visibility. -/
theorem ofMarker_marker (visibility : Visibility) :
    ofMarker (some [visibility.marker]) = visibility := by
  cases visibility <;> decide

end Visibility

end DiagramGraph
