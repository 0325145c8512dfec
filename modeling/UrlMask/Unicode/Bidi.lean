import UrlMask.Unicode.Runs

/-!
# Writing direction and joining

The bidirectional class of a code point, and how an Arabic-like letter joins its neighbours.
Host names use both: the first for names that mix directions, the second for the zero-width
non-joiner.
-/
namespace UrlMask.Unicode

/-- The bidirectional classes, in the order in which `Bidi.table` numbers them. -/
inductive Bidi where
  | leftToRight
  | rightToLeft
  | arabicLetter
  | europeanNumber
  | europeanSeparator
  | europeanTerminator
  | arabicNumber
  | commonSeparator
  | nonspacingMark
  | boundaryNeutral
  | paragraphSeparator
  | segmentSeparator
  | whiteSpace
  | otherNeutral
  | leftToRightEmbedding
  | leftToRightOverride
  | rightToLeftEmbedding
  | rightToLeftOverride
  | popDirectionalFormat
  | leftToRightIsolate
  | rightToLeftIsolate
  | firstStrongIsolate
  | popDirectionalIsolate
  deriving DecidableEq, Repr

namespace Bidi

def list : List Bidi :=
  [.leftToRight, .rightToLeft, .arabicLetter, .europeanNumber, .europeanSeparator,
   .europeanTerminator, .arabicNumber, .commonSeparator, .nonspacingMark, .boundaryNeutral,
   .paragraphSeparator, .segmentSeparator, .whiteSpace, .otherNeutral, .leftToRightEmbedding,
   .leftToRightOverride, .rightToLeftEmbedding, .rightToLeftOverride, .popDirectionalFormat,
   .leftToRightIsolate, .rightToLeftIsolate, .firstStrongIsolate, .popDirectionalIsolate]

/-- The runs of code points of equal class, numbered as in `list`. -/
def table : List (Interval × Nat) := parts "
9 9 b 1 a 1 b 1 c 1 a 1 9 e a 3 b 1 c 1 d 2 5 3 d 5 4 1 7 1 4 1 7 2 3 a 7 1 d 6 0 q d 6 0 q d 4
9 6 a 1 9 q 7 1 d 1 5 4 d 4 0 1 d 2 9 1 d 2 5 2 3 2 d 1 0 1 d 3 3 1 0 1 d 5 0 n d 1 0 v d 1 0 ch
d 2 0 7 d e 0 2 d e 0 5 d 9 0 1 d h 8 34 0 4 d 2 0 8 d 1 0 5 d 2 0 1 d 1 0 32 d 1 0 3w 8 7 0 74
d 1 0 2 d 2 5 1 1 1 8 19 1 1 8 1 1 1 8 2 1 1 8 2 1 1 8 1 1 1k 6 6 d 2 2 1 5 2 2 1 7 1 2 1 d 2 8
b 2 1c 8 l 6 a 5 1 6 2 2 3 8 1 2 2t 8 7 6 1 d 1 8 6 2 2 8 2 d 1 8 4 2 2 3 a 2 n 8 1 2 u 8 r 2 2j
8 b 2 f 1 17 8 9 1 2 d 4 1 3 8 1 1 o 8 4 1 1 8 9 1 1 8 3 1 1 8 5 1 17 8 3 1 4 2 1c 6 2 2 5 8 9 2
16 8 o 6 1 8 w 0 1j 8 1 0 1 8 1 0 4 8 8 0 4 8 1 0 3 8 7 0 a 8 2 0 t 8 1 0 1m 8 1 0 4 8 4 0 8 8 1
0 k 8 2 0 e 5 2 0 7 5 1 0 2 8 1 0 2 8 2 0 1l 8 1 0 4 8 2 0 4 8 2 0 2 8 3 0 3 8 1 0 u 8 2 0 3 8 1
0 b 8 2 0 1l 8 1 0 4 8 5 0 1 8 2 0 4 8 1 0 k 8 2 0 d 5 1 0 8 8 6 0 1 8 1 0 1m 8 1 0 2 8 1 0 1 8
4 0 8 8 1 0 7 8 2 0 b 8 2 0 u 8 1 0 1p 8 1 0 c 8 1 0 11 d 6 5 1 d 1 0 5 8 1 0 3 8 1 0 1j 8 1 0 1
8 3 0 5 8 3 0 1 8 4 0 7 8 2 0 b 8 2 0 k d 7 0 2 8 1 0 1m 8 1 0 f 8 2 0 k 8 2 0 s 8 2 0 1l 8 2 0
4 8 4 0 8 8 1 0 k 8 2 0 t 8 1 0 20 8 1 0 7 8 3 0 1 8 1 0 2i 8 1 0 2 8 7 0 4 5 1 0 7 8 8 0 2q 8 1
0 2 8 9 0 b 8 7 0 21 8 2 0 r 8 1 0 1 8 1 0 1 8 1 d 4 0 1f 8 e 0 1 8 5 0 1 8 2 0 5 8 b 0 1 8 10 0
9 8 1 0 2u 8 4 0 1 8 6 0 1 8 2 0 2 8 2 0 p 8 2 0 4 8 3 0 g 8 4 0 d 8 1 0 2 8 2 0 6 8 1 0 f 8 1 0
jj 8 3 0 1c d a 0 2u d 1 0 hr c 1 0 q d 2 0 39 8 3 0 t 8 2 0 u 8 2 0 u 8 2 0 1s 8 2 0 1 8 7 0 8
8 1 0 2 8 b 0 7 5 1 0 1 8 1 0 i d a 0 6 d b 8 3 9 1 8 1 0 39 8 2 0 y 8 1 0 3a 8 3 0 4 8 2 0 9 8
1 0 6 8 3 0 4 d 1 0 3 d 2 0 48 d y 0 n 8 2 0 2 8 1 0 1m 8 1 0 1 8 7 0 1 8 1 0 1 8 1 0 2 8 8 0 6
8 a 0 2 8 1 0 1c 8 1a 0 2 8 c 0 k 8 4 0 1c 8 1 0 1 8 5 0 1 8 1 0 5 8 1 0 14 8 9 0 c 8 2 0 w 8 4
0 2 8 2 0 1 8 3 0 1k 8 1 0 1 8 2 0 3 8 1 0 1 8 3 0 1m 8 8 0 2 8 2 0 48 8 3 0 1 8 d 0 1 8 7 0 4 8
1 0 6 8 1 0 3 8 2 0 5i 8 1s 0 cd d 1 0 1 d 3 0 b d 3 0 d d 3 0 d d 3 0 d d 2 0 1 c b 9 3 0 1 1 1
d o c 1 a 1 e 1 g 1 i 1 f 1 h 1 7 1 5 5 d f 7 1 d q c 1 9 6 j 1 k 1 l 1 m 1 9 6 3 1 0 3 3 6 4 2
d 3 0 1 3 a 4 2 d 3 0 h 5 x d 1 5 e 8 x 0 f d 2 0 1 d 4 0 1 d 2 0 a d 1 0 1 d 3 0 5 d 6 0 1 d 1
0 1 d 1 0 1 d 1 0 4 5 1 0 b d 2 0 4 d 5 0 5 d 4 0 2 d g 0 15 d 3 0 4 d 3m 4 1 5 1 d 82 0 1x d q
0 1 d 44 0 m d b 0 l d 14 3 k 0 26 d ci 0 1 d 9f 0 74 d hg 0 2 d 3u 0 6d d 6 0 4 8 3 0 7 d 7 0
3j 8 1 0 2o 8 w d 2m 0 y d q 0 1 d 2h 0 c d 5y 0 q d g c 1 d 4 0 3 d p 0 9 8 4 0 2 d 1 0 5 d 2 0
5 d 3 0 2h 8 2 d 2 0 3 d 1 0 2i d 1 0 5g d 12 0 9 d 1 0 19 d 2 0 1d d g 0 s d 3 0 1e d f 0 c d 4
0 4n d 4 0 2r d 2 0 v d 1 0 534 d 1s 0 h3k d 1j 0 92 d 3 0 2n 8 4 d 1 8 a d 2 0 u 8 2 0 28 8 2 0
e d y 0 2u d 1 0 3d 8 1 0 3 8 1 0 4 8 1 0 p 8 2 0 1 d 4 8 1 0 b 5 2 0 1m d 4 0 24 8 2 0 q 8 i 0
d 8 1 0 12 8 8 0 p 8 b 0 1a 8 3 0 1c 8 1 0 2 8 4 0 2 8 2 0 13 8 1 0 1v 8 6 0 2 8 2 0 2 8 2 0 c 8
1 0 8 8 1 0 1b 8 1 0 1f 8 1 0 1 8 3 0 2 8 2 0 5 8 2 0 1 8 1 0 16 8 2 0 8 8 1 0 37 d 2 0 3d 8 1 0
2 8 1 0 4 8 1 0 fn3 1 1 8 1 1 a 4 1 1 12 2 dq d i 2 3j d 1 9 w 2 d d 3 8 g d a 0 6 8 g d w 7 1 d
1 7 1 0 1 d 1 7 1 d 9 5 1 d 2 4 2 d 3 0 1 d 1 5 2 d 1 0 4 2 3z 9 1 0 1 d 2 5 3 d 5 4 1 7 1 4 1 7
2 3 a 7 1 d 6 0 q d 6 0 q d b 0 3e 5 2 d 3 5 2 0 1 d 7 0 1 9 9 d 5 9 2 0 75 d 1 0 1q d 25 0 3 d
d 0 3 d 1 0 2k 8 1 0 6a 8 1 3 r 0 3e 8 5 0 w5 1 7z d 1 1 69 8 3 1 1 8 2 1 5 8 4 1 14 8 3 1 4 8 1
1 4l 8 2 1 2a d 7 1 cg 2 10 8 4 2 8 6 a 2 6 1 15 8 5 1 6q 6 v 1 18 8 2 1 j 2 1m 8 6 1 1c 2 m 8 b
2 v 1 i 8 4 1 3e 0 1 8 1 0 1i 8 f 0 b d k 0 a 8 1 0 2 8 2 0 a 8 3 0 1d 8 4 0 2 8 2 0 7 8 1 0 1p
8 3 0 10 8 5 0 1 8 8 0 1q 8 1 0 c 8 2 0 1g 8 9 0 a 8 4 0 2 8 1 0 2n 8 3 0 2 8 1 0 1 8 2 0 6 8 1
0 2 8 1 0 4d 8 1 0 3 8 8 0 l 8 2 0 1l 8 2 0 3 8 1 0 11 8 7 0 3 8 5 0 1y 8 6 0 d 8 1 0 1 8 1 0 1
8 1 0 e 8 2 0 2d 8 8 0 2 8 3 0 1 8 1 0 n 8 1 0 2c 8 6 0 1 8 1 0 4 8 2 0 1 8 2 0 6m 8 4 0 6 8 2 0
1 8 2 0 r 8 2 0 2d 8 8 0 2 8 1 0 1 8 2 0 v d d 0 1q 8 1 0 1 8 1 0 2 8 6 0 1 8 1 0 2t 8 3 0 2 8 4
0 1 8 5 0 77 8 9 0 1 8 2 0 74 8 2 0 1 8 1 0 4 8 1 0 40 8 4 0 2 8 2 0 4 8 1 0 w 8 6 0 2 8 2 0 14
8 6 0 2 8 4 0 8 8 1 0 9 8 6 0 2 8 3 0 1a 8 d 0 1 8 2 0 5i 8 1 0 1 8 3 0 1 8 1 0 5l 8 7 0 1 8 6 0
2c 8 m 0 2 8 7 0 1 8 2 0 1 8 2 0 3e 8 6 0 3 8 1 0 1 8 2 0 1 8 7 0 1 8 1 0 20 8 2 0 3 8 1 0 1 8 1
0 9n 8 2 0 b 8 2 0 1g 8 5 0 5 8 1 0 1 8 1 0 n 8 1 0 3e d 8 5 4 d h 0 40e 8 1 0 6 8 f 0 8ug 8 c 0
3 8 3 0 1xc 8 5 0 1n 8 7 0 t4 8 1 0 1r 8 4 0 27 d 1 0 1 8 1 0 f5k 8 2 0 1 9 4 0 318 d 6o 0 a d 3
0 3 d c4 0 6 d n 0 f d h 0 f 8 1a 0 2 8 n 0 f4 8 3 0 9 9 8 8 8 0 2 8 7 0 u 8 4 0 1n d 2 0 l d 1u
8 3 d 1 0 56 d 2f 0 p0 d 1 0 1l d 1 0 1l d 1 0 1l d 1 0 1l d 1 0 a 3 1e 0 e8 8 1j 0 4 8 1e 0 8 8
1 0 e 8 1 0 m 8 5 0 1 8 f 0 11s 8 7 0 1 8 h 0 2 8 7 0 1 8 2 0 1 8 5 0 2s 8 1 0 4g 8 7 0 af 8 1 0
1p 8 4 0 f 5 1 0 do 8 4 0 72 8 2 0 6r 8 1 0 2 8 1 0 7 8 2 0 5 8 1 0 7e 1 5s 8 7 1 31 8 7 1 md 2
28 1 1s 2 28 1 4w 2 6o d 2 2 e 1 74 d 18 0 4 d 2s 0 c d f 0 2 d f 0 1 d f 0 1 d 11 0 a 3 b d 5 0
v d 1 0 1m d 6 0 1p d 1 0 4y d 6 0 4a d rd 0 3 d h 0 3 d d 0 3 d 62 0 6 d c 0 4 d 1 0 f d c 0 4
d 1k 0 8 d a 0 6 d 14 0 8 d u 0 2 d c 0 4 d 2 0 e d 9 0 13 d 9k 0 8 d e 0 2 d d 0 3 d b 0 3 d 1l
0 1 d 1 0 4 d g 0 2 d c 0 4 d a 0 7 d 43 0 1 d 2k 3 a d 1 0 sj 9 2 0 1eke 9 2 0 1eke 9 2 0 1eke
9 2 0 1eke 9 2 0 1eke 9 2 0 1eke 9 2 0 1eke 9 2 0 1eke 9 2 0 1eke 9 2 0 1eke 9 2 0 1eke 9 2 0
1eke 9 76 8 6o 9 2s0 0 1bem 9 2 0 1eke 9 2 0 1eke 9 2"

def ofChar (c : Char) : Bidi := (list[valueAt table c.toNat]?).getD .leftToRight

end Bidi

/-- How a letter joins its neighbours, in the order in which `Joining.table` numbers the kinds. -/
inductive Joining where
  | never
  | causing
  | both
  | left
  | right
  | transparent
  deriving DecidableEq, Repr

namespace Joining

def list : List Joining := [.never, .causing, .both, .left, .right, .transparent]

/-- The runs of code points of equal kind, numbered as in `list`. -/
def table : List (Interval × Nat) := parts "
0 4t 5 1 0 gi 5 34 0 7n 5 7 0 7b 5 19 0 1 5 1 0 1 5 2 0 1 5 2 0 1 5 1 0 20 5 b 0 1 5 1 0 3 2 1 0
1 4 4 2 1 4 1 2 1 4 1 2 5 4 4 2 d 1 1 2 7 4 1 2 2 5 l 0 e 2 2 5 1 4 3 0 1 4 3 2 g 4 i 2 12 4 1 2
2 4 9 2 1 4 1 2 1 4 1 2 2 4 2 0 1 4 1 5 7 0 2 5 6 0 2 5 2 0 1 5 4 4 2 0 a 2 3 0 2 2 1 0 f 5 1 4
1 5 1 2 3 4 5 2 4 4 1 2 9 4 1 2 1 4 1 2 1 4 1 2 2 4 1 5 r 0 2 4 1 2 b 4 3 2 f 4 2 2 4 4 1 2 1 4
2 2 3 4 2 2 6 0 12 5 b 0 p 2 x 5 9 0 6 1 1 0 2 5 1 0 o 5 4 0 1 5 9 0 1 5 3 0 1 5 5 0 i 4 1 2 5 4
2 2 1 4 1 2 a 4 1 2 1 4 3 5 3 0 4 2 1 0 1 2 4 0 1 4 1 2 1 4 2 0 5 4 j 1 3 2 1 0 2 2 5 4 1 0 8 5
9 2 a 4 3 0 1 4 1 2 2 4 2 2 6 4 1 2 f 0 1 5 o 0 1 5 w 0 1j 5 1 0 1 5 1 0 4 5 8 0 4 5 1 0 3 5 7 0
a 5 2 0 t 5 1 0 1m 5 1 0 4 5 4 0 8 5 1 0 k 5 2 0 q 5 1 0 2 5 2 0 1l 5 1 0 4 5 2 0 4 5 2 0 2 5 3
0 3 5 1 0 u 5 2 0 3 5 1 0 b 5 2 0 1l 5 1 0 4 5 5 0 1 5 2 0 4 5 1 0 k 5 2 0 m 5 6 0 1 5 1 0 1m 5
1 0 2 5 1 0 1 5 4 0 8 5 1 0 7 5 2 0 b 5 2 0 u 5 1 0 1p 5 1 0 c 5 1 0 1e 5 1 0 3 5 1 0 1j 5 1 0 1
5 3 0 5 5 3 0 1 5 4 0 7 5 2 0 b 5 2 0 t 5 1 0 1m 5 1 0 2 5 1 0 6 5 1 0 5 5 2 0 k 5 2 0 s 5 2 0
1l 5 2 0 4 5 4 0 8 5 1 0 k 5 2 0 t 5 1 0 20 5 1 0 7 5 3 0 1 5 1 0 2i 5 1 0 2 5 7 0 c 5 8 0 2q 5
1 0 2 5 9 0 b 5 7 0 21 5 2 0 r 5 1 0 1 5 1 0 1 5 1 0 1j 5 e 0 1 5 5 0 1 5 2 0 5 5 b 0 1 5 10 0 9
5 1 0 2u 5 4 0 1 5 6 0 1 5 2 0 2 5 2 0 p 5 2 0 4 5 3 0 g 5 4 0 d 5 1 0 2 5 2 0 6 5 1 0 f 5 1 0
jj 5 3 0 qa 5 3 0 t 5 2 0 u 5 2 0 u 5 2 0 1s 5 2 0 1 5 7 0 8 5 1 0 2 5 b 0 9 5 1 0 15 2 1 0 2 1
1 5 3 0 1 5 1 0 g 2 2h 0 c 5 2 2 y 5 1 2 1 0 39 5 3 0 4 5 2 0 9 5 1 0 6 5 3 0 63 5 2 0 2 5 1 0
1m 5 1 0 1 5 7 0 1 5 1 0 1 5 1 0 2 5 8 0 6 5 a 0 2 5 1 0 1c 5 1a 0 2 5 c 0 k 5 4 0 1c 5 1 0 1 5
5 0 1 5 1 0 5 5 1 0 14 5 9 0 c 5 2 0 w 5 4 0 2 5 2 0 1 5 3 0 1k 5 1 0 1 5 2 0 3 5 1 0 1 5 3 0 1m
5 8 0 2 5 2 0 48 5 3 0 1 5 d 0 1 5 7 0 4 5 1 0 6 5 1 0 3 5 2 0 5i 5 1s 0 ej 5 1 0 1 1 1 5 2 0 q
5 5 0 1d 5 5 0 5 5 6 0 2o 5 x 0 2da 5 3 0 3x 5 1 0 2o 5 w 0 fe 5 4 0 2z 5 2 0 n9w 5 4 0 1 5 a 0
w 5 2 0 28 5 2 0 7k 5 1 0 3 5 1 0 4 5 1 0 p 5 2 0 5 5 1 0 j 2 1e 3 1 0 29 5 2 0 q 5 i 0 d 5 1 0
12 5 8 0 p 5 b 0 1a 5 3 0 1c 5 1 0 2 5 4 0 2 5 2 0 13 5 1 0 1v 5 6 0 2 5 2 0 2 5 2 0 c 5 1 0 8 5
1 0 1b 5 1 0 1f 5 1 0 1 5 3 0 2 5 2 0 5 5 2 0 1 5 1 0 16 5 2 0 8 5 1 0 6m 5 1 0 2 5 1 0 4 5 1 0
fn4 5 1 0 kh 5 g 0 g 5 g 0 5r 5 1 0 6x 5 3 0 e9 5 1 0 6a 5 1 0 45 5 5 0 1ae 5 3 0 1 5 2 0 5 5 4
0 14 5 3 0 4 5 1 0 3k 2 5 4 1 0 1 4 1 0 1 4 2 0 2 3 1 4 5 2 4 3 1 2 5 4 1 2 3 4 1 0 2 4 1 5 2 0
4 2 4 4 1 0 40 2 1 4 1 2 1 4 3 2 3 4 1 2 2 4 1 2 1 4 2 2 1 4 1 0 n 4 4 2 2 0 9d 3 1 2 x 4 1 2 1
5 4 0 1t 5 5 0 8t 5 2 0 25 5 6 0 1c 2 3 4 1 2 h 0 1 5 b 2 3 4 1 0 r 2 4 4 2 2 c 5 4 0 16 2 1 0 1
2 2 4 3 0 1 2 1 4 2 2 2 4 1 2 2 0 1 2 1 4 2 2 1 0 4 4 1 2 1 3 1 0 1h 5 1 0 1i 5 f 0 15 5 1 0 2 5
2 0 a 5 3 0 1d 5 4 0 2 5 2 0 7 5 1 0 1p 5 3 0 10 5 5 0 1 5 8 0 1q 5 1 0 c 5 2 0 1g 5 9 0 a 5 4 0
2 5 1 0 2n 5 3 0 2 5 1 0 1 5 2 0 6 5 1 0 2 5 1 0 4d 5 1 0 3 5 8 0 l 5 2 0 1l 5 2 0 3 5 1 0 11 5
7 0 3 5 5 0 1y 5 6 0 d 5 1 0 1 5 1 0 1 5 1 0 e 5 2 0 2d 5 8 0 2 5 3 0 1 5 1 0 n 5 1 0 2c 5 6 0 1
5 1 0 4 5 2 0 1 5 2 0 6m 5 4 0 6 5 2 0 1 5 2 0 r 5 2 0 2d 5 8 0 2 5 1 0 1 5 2 0 2y 5 1 0 1 5 1 0
2 5 6 0 1 5 1 0 2t 5 3 0 2 5 4 0 1 5 5 0 77 5 9 0 1 5 2 0 74 5 2 0 1 5 1 0 4 5 1 0 40 5 4 0 2 5
2 0 4 5 1 0 w 5 a 0 14 5 6 0 2 5 4 0 8 5 1 0 9 5 6 0 2 5 3 0 1a 5 d 0 1 5 2 0 5i 5 1 0 1 5 3 0 1
5 1 0 5l 5 7 0 1 5 6 0 1 5 1 0 2a 5 m 0 2 5 7 0 1 5 2 0 1 5 2 0 3e 5 6 0 3 5 1 0 1 5 2 0 1 5 7 0
1 5 1 0 20 5 2 0 3 5 1 0 1 5 1 0 9n 5 2 0 b 5 2 0 1g 5 5 0 5 5 1 0 1 5 1 0 n 5 1 0 445 5 h 0 6 5
f 0 8ug 5 c 0 3 5 3 0 1xc 5 5 0 1n 5 7 0 t4 5 1 0 1r 5 4 0 29 5 1 0 f5k 5 2 0 1 5 4 0 3mk 5 1a 0
2 5 n 0 f4 5 3 0 9 5 g 0 2 5 7 0 u 5 4 0 44 5 3 0 1iz 5 1j 0 4 5 1e 0 8 5 1 0 e 5 1 0 m 5 5 0 1
5 f 0 11s 5 7 0 1 5 h 0 2 5 7 0 1 5 2 0 1 5 5 0 2s 5 1 0 4g 5 7 0 af 5 1 0 1p 5 4 0 e4 5 4 0 72
5 2 0 6r 5 1 0 2 5 1 0 7 5 2 0 5 5 1 0 d6 5 7 0 15 2 1w 5 8 0 gzat 5 1 0 u 5 2o 0 3k 5 6o 0 47bk"

def ofChar (c : Char) : Joining := (list[valueAt table c.toNat]?).getD .never

end Joining

end UrlMask.Unicode
