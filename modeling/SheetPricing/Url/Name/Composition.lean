import SheetPricing.Text.RunTable

/-!
# Composed characters

A letter with marks can be written as one character or as the letter and its marks. Of all the ways
to write the same text one is chosen: what can be taken apart is taken apart, marks are put in the
order of their classes, and each letter takes up the marks that it can. The tables have the
characters that names of domains are written with.
-/
namespace SheetPricing.Url.Composition

/-- The letter and the mark that a character is composed of. -/
def pairs : Text.RunTable (List Char) := .ofText Text.RunTable.characters "
  e0:61,300 0:61,301 0:61,302 0:61,303 0:61,308 0:61,30a 1:63,327 0:65,300 0:65,301 0:65,302
  0:65,308 0:69,300 0:69,301 0:69,302 0:69,308 1:6e,303 0:6f,300 0:6f,301 0:6f,302 0:6f,303
  0:6f,308 2:75,300 0:75,301 0:75,302 0:75,308 0:79,301 1:79,308 1:61,304 1:61,306 1:61,328
  1:63,301 1:63,302 1:63,307 1:63,30c 1:64,30c 3:65,304 1:65,306 1:65,307 1:65,328 1:65,30c
  1:67,302 1:67,306 1:67,307 1:67,327 1:68,302 3:69,303 1:69,304 1:69,306 1:69,328 5:6a,302
  1:6b,327 2:6c,301 1:6c,327 1:6c,30c 5:6e,301 1:6e,327 1:6e,30c 4:6f,304 1:6f,306 1:6f,30b
  3:72,301 1:72,327 1:72,30c 1:73,301 1:73,302 1:73,327 1:73,30c 1:74,327 1:74,30c 3:75,303
  1:75,304 1:75,306 1:75,30a 1:75,30b 1:75,328 1:77,302 1:79,302 2:7a,301 1:7a,307 1:7a,30c
  22:6f,31b e:75,31b 1d:61,30c 1:69,30c 1:6f,30c 1:75,30c 1:fc,304 1:fc,301 1:fc,30c 1:fc,300
  2:e4,304 1:227,304 1:e6,304 3:67,30c 1:6b,30c 1:6f,328 1:1eb,304 1:292,30c 0:6a,30c 4:67,301
  3:6e,300 1:e5,301 1:e6,301 1:f8,301 1:61,30f 1:61,311 1:65,30f 1:65,311 1:69,30f 1:69,311
  1:6f,30f 1:6f,311 1:72,30f 1:72,311 1:75,30f 1:75,311 1:73,326 1:74,326 3:68,30c 7:61,307
  1:65,327 1:f6,304 1:f5,304 1:6f,307 1:22f,304 1:79,304 15c:3ca,301 1b:3b1,301 0:3b5,301 0:3b7,301
  0:3b9,301 0:3cb,301 19:3b9,308 0:3c5,308 0:3bf,301 0:3c5,301 0:3c9,301 6a:438,306 16:435,300
  0:435,308 1:433,301 3:456,308 4:43a,301 0:438,300 0:443,306 18:475,30f 4a:436,306 e:430,306
  1:430,308 3:435,306 3:4d9,308 1:436,308 1:437,308 3:438,304 1:438,308 1:43e,308 3:4e9,308
  1:44d,308 1:443,304 1:443,308 1:443,30b 1:447,308 3:44b,308 128:627,653 0:627,654 0:648,654
  0:627,655 0:64a,654 99:6d5,654 1:6c1,654 10:6d2,654 255:928,93c 7:930,93c 2:933,93c 96:9c7,9be
  0:9c7,9d7 17b:b47,b56 2:b47,b3e 0:b47,b57 47:b92,bd7 35:bc6,bbe 0:bc7,bbe 0:bc6,bd7 7b:c46,c56
  77:cbf,cd5 6:cc6,cd5 0:cc6,cd6 1:cc6,cc2 0:cca,cd5 7e:d46,d3e 0:d47,d3e 0:d46,d57 8d:dd9,dca
  1:dd9,dcf 0:ddc,dca 0:dd9,ddf 247:1025,102e adf:1b05,1b35 1:1b07,1b35 1:1b09,1b35 1:1b0b,1b35
  1:1b0d,1b35 3:1b11,1b35 28:1b3a,1b35 1:1b3c,1b35 2:1b3e,1b35 0:1b3f,1b35 1:1b42,1b35 2bd:61,325
  1:62,307 1:62,323 1:62,331 1:e7,301 1:64,307 1:64,323 1:64,331 1:64,327 1:64,32d 1:113,300
  1:113,301 1:65,32d 1:65,330 1:229,306 1:66,307 1:67,304 1:68,307 1:68,323 1:68,308 1:68,327
  1:68,32e 1:69,330 1:ef,301 1:6b,301 1:6b,323 1:6b,331 1:6c,323 1:1e37,304 1:6c,331 1:6c,32d
  1:6d,301 1:6d,307 1:6d,323 1:6e,307 1:6e,323 1:6e,331 1:6e,32d 1:f5,301 1:f5,308 1:14d,300
  1:14d,301 1:70,301 1:70,307 1:72,307 1:72,323 1:1e5b,304 1:72,331 1:73,307 1:73,323 1:15b,307
  1:161,307 1:1e63,307 1:74,307 1:74,323 1:74,331 1:74,32d 1:75,324 1:75,330 1:75,32d 1:169,301
  1:16b,308 1:76,303 1:76,323 1:77,300 1:77,301 1:77,308 1:77,307 1:77,323 1:78,307 1:78,308
  1:79,307 1:7a,302 1:7a,323 1:7a,331 0:68,331 0:74,308 0:77,30a 0:79,30a 7:61,323 1:61,309
  1:e2,301 1:e2,300 1:e2,309 1:e2,303 1:1ea1,302 1:103,301 1:103,300 1:103,309 1:103,303 1:1ea1,306
  1:65,323 1:65,309 1:65,303 1:ea,301 1:ea,300 1:ea,309 1:ea,303 1:1eb9,302 1:69,309 1:69,323
  1:6f,323 1:6f,309 1:f4,301 1:f4,300 1:f4,309 1:f4,303 1:1ecd,302 1:1a1,301 1:1a1,300 1:1a1,309
  1:1a1,303 1:1a1,323 1:75,323 1:75,309 1:1b0,301 1:1b0,300 1:1b0,309 1:1b0,303 1:1b0,323 1:79,300
  1:79,323 1:79,309 1:79,303 6:3b1,313 0:3b1,314 0:1f00,300 0:1f01,300 0:1f00,301 0:1f01,301
  0:1f00,342 0:1f01,342 8:3b5,313 0:3b5,314 0:1f10,300 0:1f11,300 0:1f10,301 0:1f11,301 a:3b7,313
  0:3b7,314 0:1f20,300 0:1f21,300 0:1f20,301 0:1f21,301 0:1f20,342 0:1f21,342 8:3b9,313 0:3b9,314
  0:1f30,300 0:1f31,300 0:1f30,301 0:1f31,301 0:1f30,342 0:1f31,342 8:3bf,313 0:3bf,314 0:1f40,300
  0:1f41,300 0:1f40,301 0:1f41,301 a:3c5,313 0:3c5,314 0:1f50,300 0:1f51,300 0:1f50,301 0:1f51,301
  0:1f50,342 0:1f51,342 8:3c9,313 0:3c9,314 0:1f60,300 0:1f61,300 0:1f60,301 0:1f61,301 0:1f60,342
  0:1f61,342 8:3b1,300 1:3b5,300 1:3b7,300 1:3b9,300 1:3bf,300 1:3c5,300 1:3c9,300 33:3b1,306
  0:3b1,304 4:3b1,342 f:3b7,342 9:3b9,306 0:3b9,304 0:3ca,300 3:3b9,342 0:3ca,342 8:3c5,306
  0:3c5,304 0:3cb,300 1:3c1,313 0:3c1,314 0:3c5,342 0:3cb,342 e:3c9,342 1a3:2190,338 0:2192,338
  12:2194,338 1e:21d0,338 0:21d4,338 0:21d2,338 34:2203,338 4:2208,338 2:220b,338 17:2223,338
  1:2225,338 1a:223c,338 2:2243,338 2:2245,338 1:2248,338 16:3d,338 1:2261,338 a:224d,338 0:3c,338
  0:3e,338 0:2264,338 0:2265,338 2:2272,338 0:2273,338 2:2276,338 0:2277,338 6:227a,338 0:227b,338
  2:2282,338 0:2283,338 2:2286,338 0:2287,338 22:22a2,338 0:22a8,338 0:22a9,338 0:22ab,338
  30:227c,338 0:227d,338 0:2291,338 0:2292,338 6:22b2,338 0:22b3,338 0:22b4,338 0:22b5,338
  d5e:304b,3099 1:304d,3099 1:304f,3099 1:3051,3099 1:3053,3099 1:3055,3099 1:3057,3099 1:3059,3099
  1:305b,3099 1:305d,3099 1:305f,3099 1:3061,3099 2:3064,3099 1:3066,3099 1:3068,3099 6:306f,3099
  0:306f,309a 1:3072,3099 0:3072,309a 1:3075,3099 0:3075,309a 1:3078,3099 0:3078,309a 1:307b,3099
  0:307b,309a 16:3046,3099 9:309d,3099 d:30ab,3099 1:30ad,3099 1:30af,3099 1:30b1,3099 1:30b3,3099
  1:30b5,3099 1:30b7,3099 1:30b9,3099 1:30bb,3099 1:30bd,3099 1:30bf,3099 1:30c1,3099 2:30c4,3099
  1:30c6,3099 1:30c8,3099 6:30cf,3099 0:30cf,309a 1:30d2,3099 0:30d2,309a 1:30d5,3099 0:30d5,309a
  1:30d8,3099 0:30d8,309a 1:30db,3099 0:30db,309a 16:30a6,3099 2:30ef,3099 0:30f0,3099 0:30f1,3099
  0:30f2,3099 3:30fd,3099 df9b:11099,110ba 1:1109b,110ba e:110a5,110ba 82:11131,11127 0:11132,11127
  21b:11347,1133e 0:11347,11357 16e:114b9,114ba 0:114b9,114b0 1:114b9,114bd fb:115b8,115af
  0:115b9,115af 37c:11935,11930"

/-- The classes of marks. -/
def classes : Text.RunTable Nat := .ofText Text.RunTable.number "
  300+14:e6 0:e8 0+3:dc 0:e8 0:d8 0+4:dc 0+1:ca 0+3:dc 0+1:ca 0+a:dc 0+4:1 0+3:dc 0+2:e6 2:e6 3:e6
  0+2:dc 0+2:e6 0+1:dc 1+2:e6 0+3:dc 0:e6 0:e8 0+1:dc 0:e6 0:e9 0+1:ea 0:e9 0+1:ea 0:e9 0+c:e6
  113+4:e6 109:dc 0+3:e6 0:dc 0+2:e6 0:de 0:dc 0+5:e6 0+5:dc 0+1:e6 0:dc 0+1:e6 0:de 0:e4 0:e6 0:a
  0:b 0:c 0:d 0:e 0:f 0:10 0:11 0:12 0+1:13 0:14 0:15 0:16 1:17 1:18 0:19 1:e6 0:dc 1:12 48+7:e6
  0:1e 0:1f 0:20 30:1b 0:1c 0:1d 0:1e 0:1f 0:20 0:21 0:22 0+1:e6 0+1:dc 0+4:e6 0:dc 0+1:e6 0:dc
  10:23 65+6:e6 2+3:e6 0:dc 0:e6 2+1:e6 1:dc 0+1:e6 0:dc 23:24 1e:e6 0:dc 0+1:e6 0:dc 0+1:e6 0+2:dc
  0:e6 0+1:dc 0:e6 0:dc 0+2:e6 0:dc 0:e6 0:dc 0:e6 0:dc 0:e6 0:dc 0+1:e6 a0+6:e6 0:dc 0:e6 9:dc
  18+3:e6 1+8:e6 1+2:e6 1+4:e6 2b+2:dc 3c:e6 0+2:dc 0+3:e6 2a+4:e6 0+4:dc 0+d:e6 1:dc 0+1:e6 0:dc
  0+1:e6 0:dc 0+2:e6 0+2:dc 0:1b 0:1c 0:1d 0+2:e6 0:dc 0+1:e6 0+1:dc 0+4:e6 3c:7 10:9 3:e6 0:dc
  0+1:e6 67:7 10:9 30:e6 3d:7 10:9 6e:7 10:9 6e:7 10:9 7f:9 6e:7 10:9 7:54 0:5b 65:7 10:9 6d+1:9
  10:9 7c:9 6d+1:67 0:9 d+3:6b 6c+1:76 0:9 d+3:7a 4c+1:dc 1b:dc 1:dc 1:d8 37:81 0:82 1:84 5+3:82
  2:82 1+1:e6 0:9 1+1:e6 3e:dc 70:7 1+1:9 52:dc 2cf+2:e6 3b4+1:9 1e:9 9d:9 a:e6 cb:e4 8f:de 0:e6
  0:dc db:e6 0:dc 47:9 14+7:e6 2:dc 30+4:e6 0+5:dc 0+1:e6 0:dc 1+1:dc 0+1:e6 0+1:dc 0+4:e6 0:dc
  0+3:e6 65:7 f:9 26:e6 0:dc 0+6:e6 36+1:9 3a:7 b+1:9 43:7 98+2:e6 1:1 0+4:dc 0+1:e6 0+3:dc 0:e6
  1+6:1 4:dc 6:e6 3+1:e6 c6+1:e6 0:dc 0+6:e6 0:dc 0+1:e6 0:ea 0:d6 0:dc 0:ca 0+24:e6 0:e8 0+1:e4
  0:dc 0:da 0:e6 0:e9 0:dc 0:e6 0:dc 2d0+1:e6 0+1:1 0+3:e6 0+2:1 0+1:e6 4:e6 3+1:1 0:e6 0:dc 0:e6
  0+1:1 0+3:dc 0:e6 bfe+2:e6 8d:9 60+1f:e6 22a:da 0:e4 0:e8 0:de 0+1:e0 69+1:8 75d4:e6 4+9:e6
  20+1:e6 50+1:e6 114:9 25:9 97:9 1b+11:e6 39+2:dc 25:9 5f:7 c:9 ef:e6 1+1:e6 0:dc 2+1:e6 5+1:e6
  1:e6 34:9 f6:9 4f30:1a 301+6:e6 0+6:dc 0+1:e6 3cd:dc e2:dc 95+4:e6 692:dc 1:e6 28:e6 0:1 0:dc 4:9
  a5:e6 0:dc 23d+3:e6 183+1:e6 50+2:dc 46+1:dc 0+2:e6 0:dc 0:e6 0+3:dc 31:e6 0:dc 0:e6 0:dc c0:9
  29:9 e:9 39:9 0:7 45+2:e6 30+1:9 3e:7 4c:9 9:7 6a:9 0:7 b2:7 0:9 50+1:7 10:9 18+6:e6 3+4:e6 cd:9
  3:7 17:e6 63:9 0:7 fb:9 0:7 7e:9 76:9 0:7 73:9 10d:9 0:7 102+1:9 4:7 9c:9 53:9 12:9 51:9 1a5:9
  102:7 1+1:9 51:9 1a9+1:9 4bad+4:1 3b+6:e6 4b9+1:6 4cac:1 14c6+1:d8 0+2:1 3:e2 0+4:d8 8+7:dc
  2+4:e6 0+1:dc 1e+3:e6 94+2:e6 dbb+6:e6 1+10:e6 2+6:e6 1+1:e6 1+4:e6 64:e6 a0+6:e6 177:e6 3d+3:e6
  1fc+1:e8 0:dc 0:e6 3e0+6:dc 6d+5:e6 0:7"

/-- The class of a mark. Characters that stand for themselves have class zero. -/
def markClass (c : Char) : Nat := (classes.get? c).getD 0

/-- The class of the signs that take the vowel from a letter. -/
def vowelless : Nat := 9

/-! Syllables are composed by their numbers: a syllable is a leading consonant and a vowel, and
possibly a trailing consonant. -/

def firstSyllable : Nat := 0xac00

def firstLeading : Nat := 0x1100

def firstVowel : Nat := 0x1161

/-- The number before that of the first trailing consonant. -/
def noTrailing : Nat := 0x11a7

def leadingCount : Nat := 19

def vowelCount : Nat := 21

/-- How many ways there are to end a syllable. -/
def trailingCount : Nat := 28

def syllableCount : Nat := leadingCount * vowelCount * trailingCount

/-- Whether a character is one of `count` characters from the given one on. -/
def isAmong (first count : Nat) (c : Char) : Bool := first ≤ c.toNat && c.toNat < first + count

/-- The consonants and the vowel of a syllable. -/
def syllableParts (c : Char) : List Char :=
  let n := c.toNat - firstSyllable
  let opened := [Char.ofNat (firstLeading + n / trailingCount / vowelCount),
    Char.ofNat (firstVowel + n / trailingCount % vowelCount)]
  if n % trailingCount = 0 then opened
  else opened ++ [Char.ofNat (noTrailing + n % trailingCount)]

/-- The syllable of two characters that meet. -/
def syllable? (before c : Char) : Option Char :=
  if isAmong firstLeading leadingCount before && isAmong firstVowel vowelCount c then
    let n := (before.toNat - firstLeading) * vowelCount + (c.toNat - firstVowel)
    some (Char.ofNat (firstSyllable + n * trailingCount))
  else if isAmong firstSyllable syllableCount before
      && (before.toNat - firstSyllable) % trailingCount = 0
      && isAmong (noTrailing + 1) (trailingCount - 1) c then
    some (Char.ofNat (before.toNat + (c.toNat - noTrailing)))
  else none

/-- A character taken apart once. -/
def apart (c : Char) : List Char :=
  if isAmong firstSyllable syllableCount c then syllableParts c else (pairs.get? c).getD [c]

/-- A text taken apart. No letter has been composed more than twice. -/
def decomposed (cs : List Char) : List Char := (cs.flatMap apart).flatMap apart

/-- Put a character before others, behind the marks of lower class that it meets. -/
def insertMark (c : Char) : List Char → List Char
  | [] => [c]
  | d :: rest =>
    if 0 < markClass d && markClass d < markClass c then d :: insertMark c rest else c :: d :: rest

/-- A text whose marks are in the order of their classes. -/
def inOrder (cs : List Char) : List Char := cs.foldr insertMark []

/-- The character that is composed of two. -/
def composite? (before c : Char) : Option Char :=
  match syllable? before c with
  | some syllable => some syllable
  | none => (pairs.runs.find? (·.value = [before, c])).map fun run => Char.ofNat run.first

/-- Compose the characters behind a letter with it. The marks that it has not taken up, from the
last to the first, keep others of their class or a lower one from it. -/
def compose (letter : Char) (marks : List Char) : List Char → List Char
  | [] => letter :: marks.reverse
  | c :: rest =>
    let isFree := marks.head?.all (markClass · < markClass c)
    match if isFree then composite? letter c else none with
    | some whole => compose whole marks rest
    | none =>
      if markClass c = 0 then letter :: marks.reverse ++ compose c [] rest
      else compose letter (c :: marks) rest

/-- The one way to write a text. -/
def composed (cs : List Char) : List Char :=
  match inOrder (decomposed cs) with
  | [] => []
  | c :: rest => compose c [] rest

end SheetPricing.Url.Composition
