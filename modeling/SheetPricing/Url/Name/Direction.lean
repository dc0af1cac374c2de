import SheetPricing.Text.RunTable

/-!
# Directions of writing

Where a name has characters that are written from right to left, each of its labels has to be read
in one direction.
-/
namespace SheetPricing.Url

/-- How a character is written: in a direction, as a digit of one of two kinds, as a mark of the
character before, or in the direction of what is around it. -/
inductive Direction where
  | fromLeft
  | fromRight
  | digit
  | eastern
  | mark
  | neutral
  deriving DecidableEq, Repr

namespace Direction

/-- The direction that a text writes. -/
def ofText : List Char → Direction
  | ['r'] => .fromRight
  | ['e'] => .digit
  | ['a'] => .eastern
  | ['m'] => .mark
  | ['n'] => .neutral
  | _ => .fromLeft

/-- The characters that are not written from the left. -/
def table : Text.RunTable Direction := .ofText ofText "
  0+8:n 5+d:n 5+e:n 0+9:e 0+6:n 1a+5:n 1a+4:n 21+6:n 1:n 1+1:n 1:n 1+1:n 4+1:n 3:n 3:n 17:n 1f:n
  1c1+1:n 7+d:n 2+5:n 6+1:n 5+8:n 1+10:n 0+3f:m 2:m 3+8:m 1+1f:m 5:n 80:n 8c+6:m 100:n 2+2:n 1+2c:m
  0:r 0:m 0:r 0+1:m 0:r 0+1:m 0:r 0:m 8+1a:r 4+5:r 11+1:n 0:r 0+1:n 0:r 0:n 0:r 0+1:n 0+a:m 0:r
  1+2d:r 0+14:m 0+9:a 0:n 0+1:a 0+2:r 0:m 0+3:r 4+5c:r 0+6:m 1:n 0+5:m 0+1:r 0+1:m 0:n 0+3:m 0+1:r
  0+9:e 0+13:r 2:r 0:m 0+1d:r 0+1a:m 2+58:r 0+a:m 0:r e+2a:r 0+8:m 0+1:r 0+3:n 0:r 2:m 0+17:r 0+3:m
  0:r 0+8:m 0:r 0+2:m 0:r 0+4:m 2+e:r 1+18:r 0+2:m 2:r 1+a:r 5+1e:r 9+7:m 0+29:r 0+17:m 1+1f:m 37:m
  1:m 4+7:m 4:m 3+6:m a+1:m 1d:m 3a:m 4+3:m 8:m 14+1:m e+1:n 7:n 2:m 2+1:m 39:m 4+1:m 4+1:m 2+2:m
  3:m 1e+1:m 3:m b+1:m 39:m 4+4:m 1+1:m 4:m 14+1:m d:n 8+5:m 1:m 3a:m 2:m 1+3:m 8:m 7+1:m b+1:m
  1e:m 3d:m c:m 25+7:n 5:m 3:m 37:m 1+2:m 5+2:m 1+3:m 7+1:m b+1:m 14+6:n 2:m 3a:m f+1:m 14+1:m
  1c+1:m 39+1:m 4+3:m 8:m 14+1:m 1d:m 48:m 7+2:m 1:m 5a:m 2+6:m 4:n 7+7:m 62:m 2+8:m b+6:m 49+1:m
  1b:m 1:m 1:m 0+3:n 33+1:m 1:m 5+4:m 1:m 1+2:m 1+1:m 5+5:m 1+3:m 1+3:m 1+3:m 1+3:m 1+3:m 1+b:m
  1+2:m 9:m 66+3:m 1+5:m 1+1:m 2+1:m 19+1:m 4+2:m 10+3:m d:m 2+1:m 6:m f:m 2bf+2:m 30+9:n 66:n
  29a+1:n 75+2:m 1d+1:m 1e+1:m 1e+1:m 43+6:m 8:m 2+a:m 7:n 1:m 12+9:n 6+5:n 1+3:n 7a+1:m 22:m
  76+2:m 4+1:m 9:m 6+2:m 4:n 3+1:n 98+21:n 17+1:m 2:m 3a:m 1+6:m 1:m 1:m 2+7:m 6+9:m 2:m 30+1e:m
  31+3:m 30:m 1+4:m 1:m 5:m 28+8:m c+1:m 20+3:m 2+1:m 1+2:m 38:m 1+1:m 3:m 1+2:m 3a+7:m 2+1:m
  98+2:m 1+c:m 1+6:m 4:m 6:m 3+1:m c6+3f:m 20c+1:n 2:n 1+4:n 1+b:n 3:n 8+2:n 2:n 2+3:n 1:n 1+7:n
  3+c:n 1+6:n 41+7:n 1+17:n f+20:m 13:n 3:n b:n 2+1:n 5+1:n 3:n 1:n 1:n 1:n 4:n b:n 6+3:n 5+3:n
  3c+1:n 4+9b:n 2:n 2+f7:n 2+a:n 45+19:n 1+90:n 19+a:n a0+1c0:n 1+152:n 100+10b:n 1+66:n 3+64:n
  1+96:n 2+1f:n 1+68:n e5+5:n 4+2:m 7+6:n 7f:m 60+1f:m 0+5d:n 22+19:n 1+3:n 1+52:n 10e:n 1+1:n
  3+18:n 9+3:m 2:n 6:n 5+2:n 59+1:m 5:n 5a:n c4+23:n 1bdc+3f:n 5690+36:n 146+2:n 5f+3:m 0:n 0+9:m
  0+1:n 1e+1:m 50+1:m e+21:n 66:n 79:m 3:m 4:m 19+1:m 1+3:n 0:m b+1:n 3a+3:n 4c+1:m 1a+11:m d:m
  26+7:m 19+a:m 2e+2:m 30:m 2+3:m 2+1:m 27:m 43+5:m 2+1:m 2+1:m c:m 8:m 2f:m 33:m 1+2:m 2+1:m 5+1:m
  1:m 2a+1:m 8:m 73+1:n 79:m 2:m 4:m 4f30:m 93+10:r 17b+11:n 7f:n 2d+2:n 20+f:m 15+1:n 2c:r 28d:n
  3e+4c:n 3+c:n 3:n 5c:m e2:m 0+1a:e 7a+4:m 485+5:r 2:r 1+2b:r 1+1:r 3:r 2+16:r 1+47:r 8+8:r
  30+12:r 1+1:r 5+20:r 3:n 0+19:r 5:r 40+37:r 4+13:r 2+2e:r 0+2:m 1+1:m 5+3:m 0+3:r 1+2:r 1+1c:r
  2+2:m 4:m 0+8:r 7+8:r 7+3f:r 20+24:r 0+1:m 4+b:r 9+35:r 3+6:n 0+15:r 2+1a:r 5+19:r 7+3:r c+6:r
  50+48:r 77+32:r 7+29:r 0+3:m 8+9:a 126+1e:a 1+29:r 1+1:m 0:r 2+1:r 4b+2:m 0+27:r 8+15:r 0+a:m
  0+8:r 16+11:r 0+3:m 0+3:r 26+1b:r 14+16:r a:m 36+e:m b+13:n a:m 2+1:m a+2:m 31+3:m 2+1:m 7:m
  3d+2:m 24+4:m 1+7:m 3e:m c+1:m 34+8:m a+3:m 2:m 5f+2:m 2:m 1+1:m 6:m 2:m 9d:m 3+7:m 15+1:m 39+1:m
  3:m 25+6:m 3+4:m c3+7:m 2+2:m 1:m 17:m 54+5:m 1:m 4+1:m 1+1:m ee+3:m 6+1:m 1+1:m 1b+1:m 55+7:m
  2:m 1+1:m 1f+c:n 3e:m 1:m 2+5:m 1:m 65+2:m 2+3:m 1+4:m 103+8:m 1+1:m 100+1:m 1:m 4:m 90+3:m 2+1:m
  4:m 20+5:m 2+1:m 28+5:m 2+3:m 8:m 9+5:m 2+2:m 2e+c:m 1+1:m 196+6:m 1+5:m 54+15:m 2+6:m 1+1:m
  1+1:m 7a+5:m 3:m 1+1:m 1+6:m 1:m 48+1:m 3:m 1:m 15b+1:m b+1:m 34+4:m 5:m 1:m 92+1c:n 144e:m 6+e:m
  369a+4:m 3b+6:m 418:m 3f+3:m 4f:n 1:m 4cb8+1:m 1261+2d:m 2+16:m 220+2:m 11+7:m 2+6:m 1e+3:m
  3b+1:n 15+41:n 0+2:m 0:n ba+56:n 6a9+36:m 4+31:m 8:m e:m 16+4:m 1+e:m 550+6:m 1+10:m 2+6:m 1+1:m
  1+4:m 64:m a0+6:m 177:m 3d+3:m f:n 1ec+3:m 310+c4:r 2+8:r 0+6:m 4b+21:r 0+6:m 0:r 4+9:r 4+1:r
  311+43:r 4c+3c:r 1b2+1:n 10e+2b:n 4+63:n c+e:n 2+e:n 1+e:n 1+24:n 15+4:n 1f:n 3d+2:n 3d:n b2+5:n
  9a+3d7:n 4+10:n 3+c:n 3+76:n 4+5e:n 6+b:n 4:n f+b:n 4+37:n 8+9:n 6+27:n 8+1d:n 2+1:n 4e+153:n
  c+d:n 2+c:n 3+8:n 7+2d:n 1+6:n 8+d:n 4+8:n 7+8:n 7+92:n 1+36:n"

def ofChar (c : Char) : Direction := (table.get? c).getD .fromLeft

/-- Whether a character makes the name have two directions. -/
def turns (direction : Direction) : Bool := direction = .fromRight || direction = .eastern

/-- Whether a label in this direction may have a character. -/
def allows : Direction → Direction → Bool
  | .fromLeft, direction => direction ∈ [.fromLeft, .digit, .neutral, .mark]
  | .fromRight, direction => direction ∈ [.fromRight, .digit, .eastern, .neutral, .mark]
  | _, _ => false

/-- Whether directions, the marks at the end apart, begin and end as one direction does and have
only what it allows, with digits of one kind. -/
def isOne : List Direction → Bool
  | [] => true
  | first :: rest =>
    let unmarked := (rest.reverse.dropWhile (· = .mark)).reverse
    unmarked.all first.allows && (first = .fromLeft || first = .fromRight)
      && unmarked.getLast?.all (· ≠ .neutral)
      && !(unmarked.contains .digit && unmarked.contains .eastern)

end Direction

/-- Whether the labels of a name can be read: each in one direction, if any character turns. -/
def isDirected (labels : List (List Char)) : Bool :=
  let directions := labels.map (·.map Direction.ofChar)
  !directions.any (·.any Direction.turns) || directions.all Direction.isOne

end SheetPricing.Url
