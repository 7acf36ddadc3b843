/-! Comments and the places they are kept for: before the token that starts at a position, or after
the one that stops there. -/

namespace Playground.Script

/-- A comment without its marks. -/
structure Comment where
  /-- The comment runs to the end of its line. -/
  isLine : Bool
  text : String
deriving DecidableEq, Repr

/-- Comments by the position they lead up to or trail after, in the order of the text. -/
structure Comments where
  leading : List (Nat × Comment) := []
  trailing : List (Nat × Comment) := []
deriving DecidableEq, Repr

def Comments.addLeading (cs : Comments) (position : Nat) (c : Comment) : Comments :=
  { cs with leading := cs.leading ++ [(position, c)] }

def Comments.addTrailing (cs : Comments) (position : Nat) (c : Comment) : Comments :=
  { cs with trailing := cs.trailing ++ [(position, c)] }

/-- The comments kept for a position, and the others. -/
def commentsAt (position : Nat) (kept : List (Nat × Comment)) :
    List Comment × List (Nat × Comment) :=
  ((kept.filter (·.1 == position)).map (·.2), kept.filter (·.1 != position))

/-- A comment leads up to the position. -/
def Comments.hasLeading (cs : Comments) (position : Nat) : Bool :=
  cs.leading.any (·.1 == position)

end Playground.Script
