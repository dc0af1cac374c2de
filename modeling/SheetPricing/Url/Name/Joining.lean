import SheetPricing.Url.Name.Composition

/-!
# Joined letters

A label does not begin with a mark. The two characters that join or separate the letters around them
stand only where that shows: behind a sign that takes the vowel from a letter; and the separator
also between letters that would join.
-/
namespace SheetPricing.Url

/-- The sides on which a letter joins others; marks are passed over. -/
inductive Joining where
  | apart
  | after
  | before
  | both
  | passedOver
  deriving DecidableEq, Repr

namespace Joining

/-- What a text writes. -/
def ofText : List Char → Joining
  | ['l'] => .after
  | ['r'] => .before
  | ['d'] => .both
  | ['t'] => .passedOver
  | _ => .apart

/-- The letters that join, and the marks. -/
def table : Text.RunTable Joining := .ofText ofText "
  300+3f:t 2:t 3+8:t 1+1f:t 113+6:t 107+2c:t 1:t 1+1:t 1+1:t 1:t 48+a:t 5:d 1+3:r 0:d 0:r 0:d 0:r
  0+4:d 0+3:r 0+c:d 1+6:d 0:r 0+1:d 0+14:t e+1:d 0:t 0+2:r 5+e:d 0+11:r 0+25:d 0:r 0+1:d 0+8:r 0:d
  0:r 0:d 0:r 0+1:d 0+1:r 1:r 0+6:t 2+5:t 2+1:t 1+3:t 0+1:r a+2:d 2:d 10:r 0:t 0+2:d 0+4:r 0+3:d
  0:r 0+8:d 0:r 0:d 0:r 0:d 0:r 0+1:d 0:r 0+1a:t 2:r 0+a:d 0+2:r 0+e:d 0+1:r 0+3:d 0:r 0:d 0+1:r
  0+2:d 0+1:r 0+5:d 26+a:t 19+20:d 0+8:t 9:t 18+3:t 1+8:t 1+2:t 1+4:t 12:r 0+4:d 0+1:r 0:d 0:r
  0+9:d 0:r 0:d 0+2:r 0+2:t 4:d 1+3:d 1:r 0:d 0+1:r 5+12:r 3:d 2+4:d 0:r 9+7:t 0+9:d 0+2:r 1:r
  0+1:d 0+1:r 0+5:d 0:r 0+e:d 1+17:t 1+1f:t 37:t 1:t 4+7:t 4:t 3+6:t a+1:t 1d:t 3a:t 4+3:t 8:t
  14+1:t 1a:t 2+1:t 39:t 4+1:t 4+1:t 2+2:t 3:t 1e+1:t 3:t b+1:t 39:t 4+4:t 1+1:t 4:t 14+1:t 16+5:t
  1:t 3a:t 2:t 1+3:t 8:t 7+1:t b+1:t 1e:t 3d:t c:t 32:t 3:t 37:t 1+2:t 5+2:t 1+3:t 7+1:t b+1:t 1d:t
  3a:t 2:t 6:t 5+1:t 14+1:t 1c+1:t 39+1:t 4+3:t 8:t 14+1:t 1d:t 48:t 7+2:t 1:t 5a:t 2+6:t c+7:t
  62:t 2+8:t b+6:t 49+1:t 1b:t 1:t 1:t 37+1:t 1:t 5+4:t 1:t 1+2:t 1+1:t 5+5:t 1+3:t 1+3:t 1+3:t
  1+3:t 1+3:t 1+b:t 1+2:t 9:t 66+3:t 1+5:t 1+1:t 2+1:t 19+1:t 4+2:t 10+3:t d:t 2+1:t 6:t f:t
  2bf+2:t 3b2+2:t 1d+1:t 1e+1:t 1e+1:t 43+6:t 8:t 2+a:t 9:t 29:d 18+58:d c+1:t 0+21:d 0:t 0:d
  75+2:t 4+1:t 9:t 6+2:t db+1:t 2:t 3a:t 1+6:t 1:t 1:t 2+7:t 6+9:t 2:t 30+1e:t 31+3:t 30:t 1+4:t
  1:t 5:t 28+8:t c+1:t 20+3:t 2+1:t 1+2:t 38:t 1+1:t 3:t 1+2:t 3a+7:t 2+1:t 98+2:t 1+c:t 1+6:t 4:t
  6:t 3+1:t c6+3f:t 2d0+20:t bfe+2:t 8d:t 60+1f:t 22a+3:t 6b+1:t 75d4+3:t 1+9:t 20+1:t 50+1:t 110:t
  3:t 4:t 19+1:t 5:t 13+31:d 0:l 51+1:t 1a+11:t d:t 26+7:t 19+a:t 2e+2:t 30:t 2+3:t 2+1:t 27:t
  43+5:t 2+1:t 2+1:t c:t 8:t 2f:t 33:t 1+2:t 2+1:t 5+1:t 1:t 2a+1:t 8:t ee:t 2:t 4:t 4f30:t 301+f:t
  3cd:t e2:t 95+4:t 686+2:t 1+1:t 5+3:t 28+2:t 4:t 80+4:d 0:r 1:r 1+1:r 2:l 0+4:r 0+3:d 0:l 0+4:d
  0:r 0+2:d 0:r 2:r 0+1:t 4+3:d 0:r 90:d 0:r 0:d 0+2:r 0+2:d 0:r 0+1:d 0:r 0:d 0+1:r 0:d 0:r 17+3:r
  0+1:d 151:l 0+20:d 0:r 0:d 0+3:t 183+1:t 50+2:t 30+2:d 0:r 0+10:d 1+a:t 0+2:d 0:r 1b+3:d 0+1:r
  0+b:d 0+3:t 2a:d 1+1:d 0+2:r 1:d 0+1:r 0+1:d 0:r 0+1:d 1:d 0+1:r 0:d 4:r 0:d 0:l 35:t 36+e:t 29:t
  2+1:t a+2:t 31+3:t 2+1:t 7:t 3d+2:t 24+4:t 1+7:t 3e:t c+1:t 34+8:t a+3:t 2:t 5f+2:t 2:t 1+1:t 6:t
  2:t 9d:t 3+7:t 15+1:t 39+1:t 3:t 25+6:t 3+4:t c3+7:t 2+2:t 1:t 17:t 54+5:t 1:t 4+1:t 1+1:t ee+3:t
  6+1:t 1+1:t 1b+1:t 55+7:t 2:t 1+1:t 6a:t 1:t 2+5:t 1:t 65+2:t 2+3:t 1+4:t 103+8:t 1+1:t 100+1:t
  1:t 4:t 90+3:t 2+1:t 4:t 20+9:t 28+5:t 2+3:t 8:t 9+5:t 2+2:t 2e+c:t 1+1:t 196+6:t 1+5:t 1:t
  52+15:t 2+6:t 1+1:t 1+1:t 7a+5:t 3:t 1+1:t 1+6:t 1:t 48+1:t 3:t 1:t 15b+1:t b+1:t 34+4:t 5:t 1:t
  14fd:t 6+e:t 369a+4:t 3b+6:t 418:t 3f+3:t 51:t 4cb8+1:t 1261+2d:t 2+16:t 220+2:t 11+7:t 2+6:t
  1e+3:t 94+2:t 7bb+36:t 4+31:t 8:t e:t 16+4:t 1+e:t 550+6:t 1+10:t 2+6:t 1+1:t 1+4:t 64:t a0+6:t
  177:t 3d+3:t 1fc+3:t 3e0+6:t 4b+21:d 0+7:t"

def ofChar (c : Char) : Joining := (table.get? c).getD .apart

/-- How the first letter joins, marks passed over. -/
def ofFirst (cs : List Char) : Joining :=
  ((cs.map ofChar).find? (· ≠ .passedOver)).getD .apart

end Joining

/-- The characters that are marks of the one before. -/
def marks : Text.CharSet := .ofText "
  300+3f 2 3+8 1+1f 113+6 107+2c 1 1+1 1+1 1 48+a 30+14 10 65+6 2+5 2+1 1+3 23 1e+1a 5b+a 3a+8 9
  18+3 1+8 1+2 1+4 2b+2 3c+7 2a+17 1+20 36+2 1+11 1+6 a+1 1d+2 38 1+6 2+1 2+2 9 a+1 1a 2+2 38 1+4
  4+1 2+2 3 1e+1 3 b+2 38 1+7 1+2 1+2 14+1 16+5 1+2 38 1+6 2+1 2+2 7+2 a+1 1e 3b+4 3+2 1+3 9 28+4
  37 1+6 1+2 1+3 7+1 b+1 1d+2 38 1+6 1+2 1+3 7+1 b+1 f c+3 37+1 1+6 1+2 1+3 9 a+1 1d+2 46 4+5 1 1+7
  12+1 3d 2+6 c+7 62 2+8 b+6 49+1 1b 1 1 4+1 31+1 1 5+6 1+2 1+1 5+5 1+3 1+3 1+3 1+3 1+3 1+b 1+2 9
  64+13 17+3 4+2 1+2 2+6 3+3 d+b 1 a+3 2bf+2 3b2+3 1c+2 1d+1 1e+1 42+1d 9 a7+1 22 76+b 4+b db+4
  39+9 1+1c 2 30+1e 31+4 2f+10 26+8 c+2 1e+c 38+d 30+13 98+2 1+14 4 6 2+2 c6+3f 2d0+20 bfe+2 8d
  60+1f 22a+5 69+1 75d4+3 1+9 20+1 50+1 110 3 4 17+4 4 53+1 32+11 1a+11 d 26+7 19+c 2c+3 2f+d 24
  43+d c 8+1 2d+2 32 1+2 2+1 5+1 1 29+4 5+1 ec+7 1+1 4f30 301+f 3cd e2 95+4 686+2 1+1 5+3 28+2 4
  a5+1 23d+3 183+1 50+2 46+a 31+3 7a+2 35+e 29 2+1 a+3 2d+a 7 3d+2 24+d 10+1 2c c+2 30+d 8+3 1+1
  5c+b 6 2 9d+b 15+3 37+1 1+6 2+1 2+2 9 a+1 2+6 3+4 c0+11 17 51+13 eb+6 2+8 1b+1 52+10 6a+c 65+e
  100+e f5+5 1+1 2+3 1 1+1 8d+6 2+6 3 1c+9 28+6 1+3 8 9+a 2e+f 195+7 1+7 52+15 1+d 7a+5 3 1+1 1+6 1
  42+4 1+1 1+4 15b+3 9+1 1 30+6 3+4 14fd 6+e 369a+4 3b+6 418 1+36 7+3 51 b+1 4cab+1 1261+2d 2+16
  21e+4 3+5 8+7 2+6 1e+3 94+2 7bb+36 4+31 8 e 16+4 1+e 550+6 1+10 2+6 1+1 1+4 64 a0+6 177 3d+3
  1fc+3 3e0+6 6d+6"

def separator : Char := '\u200c'

def joiner : Char := '\u200d'

/-- Whether a character may stand behind these, from the last to the first, and before those. -/
def isPlaced (c : Char) (before rest : List Char) : Bool :=
  if c = separator ∨ c = joiner then
    before.head?.any (Composition.markClass · = Composition.vowelless)
      || (c = separator && Joining.ofFirst before ∈ [.after, .both]
        && Joining.ofFirst rest ∈ [.before, .both])
  else true

/-- Whether all characters may stand where they do. -/
def arePlaced (before : List Char) : List Char → Bool
  | [] => true
  | c :: rest => isPlaced c before rest && arePlaced (c :: before) rest

/-- Whether a label can be shown: it begins with no mark, and letters are joined rightly. -/
def isJoined (label : List Char) : Bool := !label.head?.any marks.has && arePlaced [] label

end SheetPricing.Url
