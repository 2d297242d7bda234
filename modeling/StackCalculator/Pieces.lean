/-
Entries and their pieces.

An entry is cut at every single space, and only there: two spaces in a row, or
one at an end, leave an empty piece, and any other white space belongs to the
piece it stands in. Joining the pieces with single spaces gives the entry back.

A piece made of parentheses alone is several tokens written together. It is
burst into one piece for each parenthesis; no other piece is ever divided.
-/
set_option autoImplicit false

namespace StackCalculator.Pieces

/-- **The pieces of an entry.** -/
def split (entry : String) : List String := (entry.toList.splitOn ' ').map String.ofList

/-- **The entry** with the given pieces. -/
def join (pieces : List String) : String := " ".intercalate pieces

/-- Whether a character is a parenthesis. -/
def isParenthesis (c : Char) : Bool := c == '(' || c == ')'

/-- One piece for each parenthesis of a run of them, and any other piece whole. -/
def burst (piece : String) : List String :=
  if piece ≠ "" ∧ piece.toList.all isParenthesis then piece.toList.map String.singleton
  else [piece]

/-- The pieces on one line, with a sign in place of an empty one. -/
def visible (pieces : List String) : String :=
  join (pieces.map fun piece => if piece = "" then "∅" else piece)

end StackCalculator.Pieces
