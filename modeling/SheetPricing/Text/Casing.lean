import SheetPricing.Text.RunTable

/-!
# Letters with cases

The characters that have a case, and those that are passed over when the letters around a character
are looked at: marks, signs inside words, and letters that only modify others.
-/
namespace SheetPricing.Text

def passedOver : CharSet := .ofText "
  27 6 b 23 1 47 4 1 4 2+1 1f7+bf 4+1 4 9+1 1 fb+6 cf 5 31+2c 1 1+1 1+1 1 2c b+5 a+a 1 23 a+14 10
  65+7 1+9 1+3 21 1 1e+1a 5b+a 3a+a 4 2 18+17 2b+2 2c 7+1 6+7 29+39 37 1 4+7 4 3+6 a+1 d f 3a 4+3 8
  14+1 1a 2+1 39 4+1 4+1 2+2 3 1e+1 3 b+1 39 4+4 1+1 4 14+1 16+5 1 3a 2 1+3 8 7+1 b+1 1e 3d c 32 3
  37 1+2 5+2 1+3 7+1 b+1 1d 3a 2 6 5+1 14+1 1c+1 39+1 4+3 8 14+1 1d 48 7+2 1 5a 2+6 b+8 62 2+8 9
  1+5 4a+1 1b 1 1 37+d 1+4 1+1 5+a 1+23 9 66+3 1+5 1+1 2+1 19+1 4+2 10+3 d 2+1 6 f 5e 260+2 3b2+2
  1d+1 1e+1 1e+1 40+1 1+6 8 2+a 3 5 2d+4 33 41+1 22 76+2 4+1 9 6+2 db+1 2 3a 1+6 1 1 2+7 6+9 2 27
  8+1e 31+3 30 1+4 1 5 28+8 c+1 20+3 2+1 1+2 38 1+1 3 1+2 3a+7 2+1 40+5 52+2 1+c 1+6 4 6 3+1 32+3e
  d 22+64 1bd 1+2 b+2 d+2 d+2 d+1 c+4 8+1 a 2 2+4 31+4 1+9 1 d 10+c 33+20 b8b+1 71+2 7d f 60+1f 2f
  1d5 24+3 3+4 5 5d+5 5d+2 6f16 4e2+5 10e 62+3 1+9 1 1c+3 50+1 e+21 4e 17+2 67+2 3+1 8 3 4 19+1 5
  97+1 1a+11 d 26+7 19+a 2e+2 30 2+3 2+1 11 15+1 42+5 2+1 2+1 c 8 23 b 33 1+2 2+1 5+1 1 1b e+1 5+1
  1 64+4 9+2 79 2 4 4f30 93+10 23d+f 3 c+f 22 2 a9 7 6 b 23 1 2f 2d+1 43 15+2 201 e2 95+4 405+5
  1+29 1+8 246+2 1+1 5+3 28+2 4 a5+1 23d+3 183+1 99+a 31+3 7b 36+e 29 2+1 a+2 31+3 2+1 2 4 a 32+2
  24+4 1+7 3e c+1 34+8 a+3 2 5f+2 2 1+1 6 a0 3+7 15+1 39+1 3 25+6 3+4 c3+7 2+2 1 17 54+5 1 4+1 1+1
  ee+3 6+1 1+1 1b+1 55+7 2 1+1 6a 1 2+5 1 65+2 2+3 1+4 103+8 1+1 100+1 1 4 90+3 2+1 4 20+9 28+5 2+3
  8 9+5 2+2 2e+c 1+1 196+6 1+5 1 52+15 2+6 1+1 1+1 7a+5 3 1+1 1+6 1 48+1 3 1 15b+1 153b+8 36b7+4
  3b+6 9+3 40b 3f+10 40+1 1+1 400b+3 1+6 1+1 c9e+1 1+3 125c+2d 2+16 220+2 9+f 2+6 1e+3 94+2 7bb+36
  4+31 8 e 16+4 1+e 550+6 1+10 2+6 1+1 1+4 105+d 170 3d+3 5e0+6 6d+7 aaf+4 c0c01 1e+5f 80+ef"

/-- The characters that have a case and are not passed over. -/
def casedLetters : CharSet := .ofText "
  41+19 6+19 2f a 4 5+16 1+1e 1+c2 1+3 4+cf 1+1a c0+3 2+1 3+2 1 6 1+2 1 1+13 1+52 1+8a 8+a5 1+25
  9+28 b17+25 1 5 2+2a 2+2 2a0+55 2+5 882+8 7+2a 2+2 40+2b 3f+c 1+21 65+115 2+5 2+25 2+5 2+7 1 1 1
  1+1e 2+34 1+6 1 3+2 1+6 3+3 2+5 4+c 5+2 1+6 105 4 2+9 1 3+4 6 1 1 1+3 1+5 4 2+3 5+4 4 11+1f 3+1
  331+33 716+7b 2+66 6+3 3+1 c+25 1 5 7912+2d 12+1b 86+4d 1+16 3+3 1+3a 5+1 1 1+4 1b+1 3 335+2a 5+8
  7+4f 4f40+6 c+4 409+19 6+19 4a5+4f 60+23 4+23 74+a 1+e 1+6 1+1 1+a 1+e 1+6 1+1 6c3+32 d+32 bad+3f
  5560+3f 6580+54 1+46 1+1 2 2+1 2+3 1+b 1 1+6 1+40 1+3 2+7 1+6 1+1b 1+3 1+4 1 3+6 1+153 2+18 1+18
  1+1e 1+18 1+1e 1+18 1+1e 1+18 1+1e 1+18 1+7 734+9 1+13 9e1+43 7ec+19 6+19 6+19"

end SheetPricing.Text
