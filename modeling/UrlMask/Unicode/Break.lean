import UrlMask.Unicode.Runs

/-!
# Break classes

The classes by which text is cut into grapheme clusters, words and sentences. Each `Break`
numbers its classes by their names; `Break.set?` gives the code points of one.
-/
namespace UrlMask.Unicode

/-- A partition of the code points into named classes. -/
structure Break where
  /-- The names of each class, in lower case and without separators. -/
  names : List (List String)
  /-- The runs of code points of one class. -/
  table : List (Interval × Nat)

namespace Break

/-- The code points of the class of this name; class 0 is "other" and has no set. -/
def set? (b : Break) (name : String) : Option CharSet :=
  match b.names.findIdx? fun e => e.contains name with
  | none | some 0 => none
  | some k => some (whereValue b.table (· == k))

def grapheme : Break where
  names := [["other", "xx"], ["cr"], ["lf"], ["control", "cn"], ["extend", "ex"], ["zwj"],
   ["regionalindicator", "ri"], ["prepend", "pp"], ["spacingmark", "sm"], ["l"], ["v"], ["t"],
   ["lv"], ["lvt"]]
  table := parts "
3 a 2 1 3 2 1 1 3 i 0 2n 3 x 0 d 3 1 0 gi 4 34 0 7n 4 7 0 7b 4 19 0 1 4 1 0 1 4 2 0 1 4 2 0 1 4
1 0 1k 7 6 0 a 4 b 0 1 3 1 0 1a 4 l 0 g 4 1 0 2t 4 7 7 1 0 1 4 6 0 2 4 2 0 1 4 4 0 x 7 1 0 1 4 1
0 u 4 r 0 2j 4 b 0 1m 4 9 0 9 4 1 0 o 4 4 0 1 4 9 0 1 4 3 0 1 4 5 0 17 4 3 0 1g 7 2 0 5 4 9 0 16
4 o 7 1 4 w 8 1 0 1i 4 1 8 1 4 1 0 1 8 3 4 8 8 4 4 1 8 2 0 1 4 7 0 a 4 2 0 t 4 1 8 2 0 1k 4 1 0
1 4 1 8 2 4 4 0 2 8 2 0 2 8 2 4 1 0 9 4 1 0 a 4 2 0 q 4 1 0 2 4 2 8 1 0 1k 4 1 0 1 8 3 4 2 0 4 4
2 0 2 4 3 0 3 4 1 0 u 4 2 0 3 4 1 0 b 4 2 8 1 0 1k 4 1 0 1 8 3 4 5 0 1 4 2 8 1 0 1 8 2 4 1 0 k 4
2 0 m 4 6 0 1 4 1 8 2 0 1k 4 1 0 1 4 2 8 1 4 4 0 2 8 2 0 2 8 2 4 1 0 7 4 3 0 a 4 2 0 u 4 1 0 1n
4 1 8 1 4 1 8 2 0 3 8 3 0 1 8 3 4 1 0 9 4 1 0 14 4 1 8 3 4 1 0 1j 4 1 0 1 4 3 8 4 0 1 4 3 0 1 4
4 0 7 4 2 0 b 4 2 0 t 4 1 8 2 0 1k 4 1 0 1 8 1 4 1 8 2 4 1 8 2 0 1 4 1 8 2 0 1 8 2 4 2 0 7 4 2 0
b 4 2 0 f 8 1 0 c 4 2 8 2 0 1j 4 2 0 1 4 1 8 2 4 4 0 1 8 3 0 1 8 3 4 1 7 1 0 8 4 1 0 a 4 2 0 t 4
1 8 2 0 1y 4 1 0 4 4 1 8 2 4 3 0 1 4 1 0 1 8 7 4 1 0 i 8 2 0 1p 4 1 0 1 8 1 4 7 0 c 4 8 0 2q 4 1
0 1 8 1 4 9 0 b 4 7 0 21 4 2 0 r 4 1 0 1 4 1 0 1 4 1 0 4 8 2 0 1d 4 e 8 1 4 5 0 1 4 2 0 5 4 b 0
1 4 10 0 9 4 1 0 2u 4 4 8 1 4 6 0 1 4 2 8 2 4 2 0 n 8 2 4 2 0 4 4 3 0 g 4 4 0 d 4 1 0 1 8 1 4 2
0 6 4 1 0 f 4 1 0 2q 9 2o a 20 b 2g 0 9p 4 3 0 qa 4 3 8 1 0 s 4 2 8 1 0 t 4 2 0 u 4 2 0 1s 4 2 8
1 4 7 8 8 4 1 8 2 4 b 0 9 4 1 0 19 4 3 3 1 4 1 0 39 4 2 0 y 4 1 0 3a 4 3 8 4 4 2 8 3 0 4 8 2 4 1
8 6 4 3 0 63 4 2 8 2 4 1 0 1l 8 1 4 1 8 1 4 7 0 1 4 1 0 1 4 1 0 2 4 8 8 6 4 a 0 2 4 1 0 1c 4 1a
0 2 4 c 0 k 4 4 8 1 0 1b 4 7 8 1 4 1 8 5 4 1 8 2 0 12 4 9 0 c 4 2 8 1 0 u 8 1 4 4 8 2 4 2 8 1 4
3 0 1k 4 1 8 1 4 2 8 3 4 1 8 1 4 3 8 2 0 1c 8 8 4 8 8 2 4 2 0 48 4 3 0 1 4 d 8 1 4 7 0 4 4 1 0 6
4 1 0 2 8 1 4 2 0 5i 4 1s 0 ej 3 1 4 1 5 1 3 2 0 o 3 7 0 1d 3 g 0 2o 4 x 0 2da 4 3 0 3x 4 1 0 2o
4 w 0 fe 4 6 0 2x 4 2 0 n9w 4 4 0 1 4 a 0 w 4 2 0 28 4 2 0 7k 4 1 0 3 4 1 0 4 4 1 0 n 8 2 4 2 8
1 0 4 4 1 0 2b 8 2 0 1e 8 g 4 2 0 q 4 i 0 d 4 1 0 12 4 8 0 p 4 b 8 2 0 c 9 t 0 3 4 3 8 1 0 1b 4
1 8 2 4 4 8 2 4 2 8 3 0 10 4 1 0 1v 4 6 8 2 4 2 8 2 4 2 0 c 4 1 0 8 4 1 8 1 0 1a 4 1 0 1f 4 1 0
1 4 3 0 2 4 2 0 5 4 2 0 1 4 1 0 15 8 1 4 2 8 2 0 5 8 1 4 1 0 6k 8 2 4 1 8 2 4 1 8 2 0 1 8 1 4 1
0 i c 1 d r c 1 d r c 1 d r c 1 d r c 1 d r c 1 d r c 1 d r c 1 d r c 1 d r c 1 d r c 1 d r c 1
d r c 1 d r c 1 d r c 1 d r c 1 d r c 1 d r c 1 d r c 1 d r c 1 d r c 1 d r c 1 d r c 1 d r c 1
d r c 1 d r c 1 d r c 1 d r c 1 d r c 1 d r c 1 d r c 1 d r c 1 d r c 1 d r c 1 d r c 1 d r c 1
d r c 1 d r c 1 d r c 1 d r c 1 d r c 1 d r c 1 d r c 1 d r c 1 d r c 1 d r c 1 d r c 1 d r c 1
d r c 1 d r c 1 d r c 1 d r c 1 d r c 1 d r c 1 d r c 1 d r c 1 d r c 1 d r c 1 d r c 1 d r c 1
d r c 1 d r c 1 d r c 1 d r c 1 d r c 1 d r c 1 d r c 1 d r c 1 d r c 1 d r c 1 d r c 1 d r c 1
d r c 1 d r c 1 d r c 1 d r c 1 d r c 1 d r c 1 d r c 1 d r c 1 d r c 1 d r c 1 d r c 1 d r c 1
d r c 1 d r c 1 d r c 1 d r c 1 d r c 1 d r c 1 d r c 1 d r c 1 d r c 1 d r c 1 d r c 1 d r c 1
d r c 1 d r c 1 d r c 1 d r c 1 d r c 1 d r c 1 d r c 1 d r c 1 d r c 1 d r c 1 d r c 1 d r c 1
d r c 1 d r c 1 d r c 1 d r c 1 d r c 1 d r c 1 d r c 1 d r c 1 d r c 1 d r c 1 d r c 1 d r c 1
d r c 1 d r c 1 d r c 1 d r c 1 d r c 1 d r c 1 d r c 1 d r c 1 d r c 1 d r c 1 d r c 1 d r c 1
d r c 1 d r c 1 d r c 1 d r c 1 d r c 1 d r c 1 d r c 1 d r c 1 d r c 1 d r c 1 d r c 1 d r c 1
d r c 1 d r c 1 d r c 1 d r c 1 d r c 1 d r c 1 d r c 1 d r c 1 d r c 1 d r c 1 d r c 1 d r c 1
d r c 1 d r c 1 d r c 1 d r c 1 d r c 1 d r c 1 d r c 1 d r c 1 d r c 1 d r c 1 d r c 1 d r c 1
d r c 1 d r c 1 d r c 1 d r c 1 d r c 1 d r c 1 d r c 1 d r c 1 d r c 1 d r c 1 d r c 1 d r c 1
d r c 1 d r c 1 d r c 1 d r c 1 d r c 1 d r c 1 d r c 1 d r c 1 d r c 1 d r c 1 d r c 1 d r c 1
d r c 1 d r c 1 d r c 1 d r c 1 d r c 1 d r c 1 d r c 1 d r c 1 d r c 1 d r c 1 d r c 1 d r c 1
d r c 1 d r c 1 d r c 1 d r c 1 d r c 1 d r c 1 d r c 1 d r c 1 d r c 1 d r c 1 d r c 1 d r c 1
d r c 1 d r c 1 d r c 1 d r c 1 d r c 1 d r c 1 d r c 1 d r c 1 d r c 1 d r c 1 d r c 1 d r c 1
d r c 1 d r c 1 d r c 1 d r c 1 d r c 1 d r c 1 d r c 1 d r c 1 d r c 1 d r c 1 d r c 1 d r c 1
d r c 1 d r c 1 d r c 1 d r c 1 d r c 1 d r c 1 d r c 1 d r c 1 d r c 1 d r c 1 d r c 1 d r c 1
d r c 1 d r c 1 d r c 1 d r c 1 d r c 1 d r c 1 d r c 1 d r c 1 d r c 1 d r c 1 d r c 1 d r c 1
d r c 1 d r c 1 d r c 1 d r c 1 d r c 1 d r c 1 d r c 1 d r c 1 d r c 1 d r c 1 d r c 1 d r c 1
d r c 1 d r c 1 d r c 1 d r c 1 d r c 1 d r c 1 d r c 1 d r c 1 d r c 1 d r c 1 d r c 1 d r c 1
d r c 1 d r c 1 d r c 1 d r c 1 d r c 1 d r c 1 d r c 1 d r c 1 d r c 1 d r c 1 d r c 1 d r c 1
d r c 1 d r c 1 d r c 1 d r c 1 d r c 1 d r c 1 d r c 1 d r c 1 d r c 1 d r c 1 d r c 1 d r c 1
d r c 1 d r c 1 d r c 1 d r c 1 d r c 1 d r c 1 d r c 1 d r c 1 d r c 1 d r c 1 d r c 1 d r c 1
d r c 1 d r c 1 d r c 1 d r c 1 d r c 1 d r c 1 d r c 1 d r c 1 d r c 1 d r c 1 d r c 1 d r c 1
d r c 1 d r c 1 d r c 1 d r c 1 d r c 1 d r c 1 d r c 1 d r c 1 d r c 1 d r c 1 d r c 1 d r c 1
d r c 1 d r c 1 d r c 1 d r c 1 d r c 1 d r c 1 d r c 1 d r c 1 d r c 1 d r c 1 d r c 1 d r c 1
d r c 1 d r c 1 d r c 1 d r c 1 d r c 1 d r c 1 d r c 1 d r c 1 d r c 1 d r c 1 d r c 1 d r c 1
d r c 1 d r c 1 d r c 1 d r c 1 d r c 1 d r c 1 d r c 1 d r c 1 d r c 1 d r c 1 d r c 1 d r c 1
d r c 1 d r c 1 d r c 1 d r c 1 d r c 1 d r c 1 d r c 1 d r c 1 d r c 1 d r c 1 d r c 1 d r c 1
d r c 1 d r c 1 d r c 1 d r 0 c a n 0 4 b 1d 0 6xu 4 1 0 kh 4 g 0 g 4 g 0 5r 3 1 0 4e 4 2 0 28 3
c 0 e9 4 1 0 6a 4 1 0 45 4 5 0 1ae 4 3 0 1 4 2 0 5 4 4 0 14 4 3 0 4 4 1 0 4l 4 2 0 fx 4 4 0 1t 4
5 0 8t 4 2 0 25 4 6 0 1y 4 b 0 1d 4 4 0 3e 8 1 4 1 8 1 0 1h 4 f 0 15 4 1 0 2 4 2 0 a 4 3 8 1 0
19 8 3 4 4 8 2 4 2 0 2 7 1 0 4 4 1 0 a 7 1 0 1e 4 3 0 10 4 5 8 1 4 8 0 g 8 2 0 18 4 1 0 c 4 2 8
1 0 1c 8 3 4 9 8 2 0 1 7 2 0 5 4 4 0 1 8 1 4 1 0 2k 8 3 4 3 8 2 4 1 8 1 4 2 0 6 4 1 0 2 4 1 0 4d
4 1 8 3 4 8 0 l 4 2 8 2 0 1j 4 2 0 1 4 1 8 1 4 1 8 4 0 2 8 2 0 2 8 3 0 9 4 1 0 a 8 2 0 2 4 7 0 3
4 5 0 1v 8 3 4 6 0 1 8 1 0 2 8 1 0 1 8 4 0 1 8 2 4 1 8 1 4 1 0 1 4 1 0 e 4 2 0 2a 8 3 4 8 8 2 4
3 8 1 4 1 0 n 4 1 0 29 4 1 8 2 4 6 8 1 4 1 8 2 4 1 8 1 4 2 8 1 4 2 0 6j 4 1 8 2 4 4 0 2 8 4 4 2
8 1 4 2 0 r 4 2 0 2a 8 3 4 8 8 2 4 1 8 1 4 2 0 2y 4 1 8 1 4 1 8 2 4 6 8 1 4 1 0 2t 4 3 0 2 4 4 8
1 4 5 0 74 8 3 4 9 8 1 4 2 0 6t 4 1 8 5 0 1 8 2 0 2 4 2 8 1 4 1 7 1 8 1 7 1 8 1 4 1 0 3x 8 3 4 4
0 2 4 2 8 4 4 1 0 3 8 1 0 s 4 a 0 14 4 6 8 1 7 1 4 4 0 8 4 1 0 9 4 6 8 2 4 3 0 14 7 6 4 d 8 1 4
2 0 5i 4 1 8 1 4 3 8 1 4 1 8 1 0 5j 8 1 4 7 0 1 4 6 8 1 4 1 0 2a 4 m 0 1 8 1 4 7 8 1 4 2 8 1 4 2
0 3e 4 6 0 3 4 1 0 1 4 2 0 1 4 7 7 1 4 1 0 1u 8 5 0 1 4 2 0 1 8 2 4 1 8 1 4 1 0 9n 4 2 8 2 0 9 4
2 7 1 8 1 0 1c 8 2 4 5 0 3 8 2 4 1 8 1 4 1 0 n 4 1 0 445 3 g 4 1 0 6 4 f 0 8ug 4 c 8 3 4 3 0 1xc
4 5 0 1n 4 7 0 t4 4 1 0 1 8 1j 0 7 4 4 0 29 4 1 0 b 8 2 0 f57 4 2 0 1 3 4 0 3mk 4 1a 0 2 4 n 0
f2 4 1 8 1 4 3 0 3 8 1 4 5 3 8 4 8 0 2 4 7 0 u 4 4 0 44 4 3 0 1iz 4 1j 0 4 4 1e 0 8 4 1 0 e 4 1
0 m 4 5 0 1 4 f 0 11s 4 7 0 1 4 h 0 2 4 7 0 1 4 2 0 1 4 5 0 2s 4 1 0 4g 4 7 0 af 4 1 0 1p 4 4 0
e4 4 4 0 72 4 2 0 6r 4 1 0 2 4 1 0 7 4 2 0 5 4 1 0 d6 4 7 0 31 4 7 0 1p7 6 q 0 e3 4 5 0 gx6o 3 w
4 2o 3 3k 4 6o 3 2s0 0 44jk"

def word : Break where
  names := [["other", "xx"], ["cr"], ["lf"], ["newline", "nl"], ["extend"], ["zwj"],
   ["format", "fo"],
   ["regionalindicator", "ri"], ["katakana", "ka"], ["hebrewletter", "hl"], ["aletter", "le"],
   ["singlequote", "sq"], ["doublequote", "dq"], ["midnumlet", "mb"], ["midletter", "ml"],
   ["midnum", "mn"], ["numeric", "nu"], ["extendnumlet", "ex"], ["wsegspace"]]
  table := parts "
0 a 2 1 3 2 1 1 0 i i 1 0 1 c 1 0 4 b 1 0 4 f 1 0 1 d 1 0 1 g a e 1 f 1 0 5 a q 0 4 h 1 0 1 a q
0 a 3 1 0 10 a 1 0 2 6 1 0 7 a 1 0 1 e 1 0 2 a 1 0 5 a n 0 1 a v 0 1 a dc 0 6 a y 4 34 a 5 0 1 a
2 0 2 a 4 f 1 a 1 0 6 a 1 e 1 a 3 0 1 a 1 0 1 a k 0 1 a 2b 0 1 a 3v 0 1 4 7 a 4m 0 1 a 12 0 2 a
4 0 1 a 1 e 1 a 15 f 1 a 1 0 6 4 19 0 1 4 1 0 1 4 2 0 1 4 2 0 1 4 1 0 8 9 r 0 4 9 4 a 1 e 1 0 b
6 6 0 6 f 2 0 2 4 b 0 1 6 1 0 3 a 17 4 l g a 0 1 g 1 f 1 0 1 a 2 4 1 a 2r 0 1 a 1 4 7 6 1 0 1 4
6 a 2 4 2 0 1 4 4 a 2 g a a 3 0 2 a 1 0 f 6 1 a 1 4 1 a u 4 r 0 2 a 2h 4 b a 1 0 e g a a x 4 9 a
2 0 2 f 1 0 1 a 1 0 2 4 1 0 2 a m 4 4 a 1 4 9 a 1 4 3 a 1 4 5 0 i a p 4 3 0 4 a b 0 5 a o 0 1 a
7 6 2 0 5 4 9 a 16 4 o 6 1 4 x a 1i 4 3 a 1 4 i a 1 4 7 a a 4 2 0 2 g a 0 1 a g 4 3 0 1 a 8 0 2
a 2 0 2 a m 0 1 a 7 0 1 a 1 0 3 a 4 0 2 4 1 a 1 4 7 0 2 4 2 0 2 4 3 a 1 0 8 4 1 0 4 a 2 0 1 a 3
4 2 0 2 g a a 2 0 a a 1 0 1 4 1 0 2 4 3 0 1 a 6 0 4 a 2 0 2 a m 0 1 a 7 0 1 a 2 0 1 a 2 0 1 a 2
0 2 4 1 0 1 4 5 0 4 4 2 0 2 4 3 0 3 4 1 0 7 a 4 0 1 a 1 0 7 g a 4 2 a 3 4 1 0 b 4 3 0 1 a 9 0 1
a 3 0 1 a m 0 1 a 7 0 1 a 2 0 1 a 5 0 2 4 1 a 1 4 8 0 1 4 3 0 1 4 3 0 2 a 1 0 f a 2 4 2 0 2 g a
0 9 a 1 4 6 0 1 4 3 0 1 a 8 0 2 a 2 0 2 a m 0 1 a 7 0 1 a 2 0 1 a 5 0 2 4 1 a 1 4 7 0 2 4 2 0 2
4 3 0 7 4 3 0 4 a 2 0 1 a 3 4 2 0 2 g a 0 1 a 1 0 g 4 1 a 1 0 1 a 6 0 3 a 3 0 1 a 4 0 3 a 2 0 1
a 1 0 1 a 2 0 3 a 2 0 3 a 3 0 3 a c 0 4 4 5 0 3 4 3 0 1 4 4 0 2 a 1 0 6 4 1 0 e g a 0 g 4 5 a 8
0 1 a 3 0 1 a n 0 1 a g 0 2 4 1 a 1 4 7 0 1 4 3 0 1 4 4 0 7 4 2 0 1 a 3 0 1 a 2 0 2 a 2 4 2 0 2
g a 0 g a 1 4 3 0 1 a 8 0 1 a 3 0 1 a n 0 1 a a 0 1 a 5 0 2 4 1 a 1 4 7 0 1 4 3 0 1 4 4 0 7 4 2
0 5 a 3 0 1 a 2 4 2 0 2 g a 0 1 a 2 4 1 0 c 4 4 a 9 0 1 a 3 0 1 a 15 4 2 a 1 4 7 0 1 4 3 0 1 4 4
a 1 0 5 a 3 4 1 0 7 a 3 4 2 0 2 g a 0 a a 6 0 1 4 3 0 1 a i 0 3 a o 0 1 a 9 0 1 a 1 0 2 a 7 0 3
4 1 0 4 4 6 0 1 4 1 0 1 4 8 0 6 g a 0 2 4 2 0 1p 4 1 0 2 4 7 0 c 4 8 0 1 g a 0 2f 4 1 0 2 4 9 0
b 4 7 0 1 g a 0 12 a 1 0 n 4 2 0 6 g a 0 b 4 1 0 1 4 1 0 1 4 1 0 4 4 2 a 8 0 1 a 10 0 4 4 k 0 1
4 2 a 5 4 b 0 1 4 10 0 9 4 1 0 2s 4 k 0 1 g a 0 c 4 4 0 4 4 3 0 1 4 3 0 2 4 7 0 3 4 4 0 d 4 c 0
1 4 1 g a 4 4 0 2 a 12 0 1 a 1 0 5 a 1 0 2 a 17 0 1 a 99 0 1 a 4 0 2 a 7 0 1 a 1 0 1 a 4 0 2 a
15 0 1 a 4 0 2 a x 0 1 a 4 0 2 a 7 0 1 a 1 0 1 a 4 0 2 a f 0 1 a 1l 0 1 a 4 0 2 a 1v 0 2 4 3 0 w
a g 0 g a 2e 0 2 a 6 0 3 a h8 0 2 a h i 1 a q 0 5 a 23 0 3 a b 0 7 a i 4 4 0 9 a j 4 3 0 b a i 4
2 0 c a d 0 1 a 3 0 1 4 2 0 1s 4 w 0 9 4 1 0 2 g a 0 x 4 3 6 1 4 1 g a 0 6 a 2h 0 7 a 5 4 2 a y
4 1 a 1 0 5 a 1y 0 a a v 0 1 4 c 0 4 4 c 0 a g a 0 3k g a 0 12 a n 4 5 0 1l 4 a 0 1 4 t 0 2 4 1
g a 0 6 g a 0 m 4 1a 0 2 4 c 0 k 4 5 a 1b 4 h a 8 0 3 g a 0 h 4 9 0 c 4 3 a u 4 d a 2 g a a 18 4
e 0 c a 10 4 k 0 8 g a 0 3 a 3 g a a 10 0 2 a b 0 5 a 17 0 2 a 3 0 g 4 3 0 1 4 l a 4 4 1 a 6 4 1
a 2 4 3 a 1 0 5 a 5c 4 1s a 7q 0 2 a 6 0 2 a 12 0 2 a 6 0 2 a 8 0 1 a 1 0 1 a 1 0 1 a 1 0 1 a v
0 2 a 1h 0 1 a 7 0 1 a 1 0 3 a 3 0 1 a 7 0 3 a 4 0 2 a 6 0 4 a d 0 5 a 3 0 1 a 7 0 3 i 7 0 1 i 3
0 1 4 1 5 1 6 2 0 8 d 2 0 a d 1 0 2 e 1 3 2 6 5 h 1 0 f h 2 0 3 f 1 0 f h 1 0 a i 1 6 5 0 1 6 a
0 1 a 1 0 d a 1 0 g a d 0 1f 4 x 0 h a 1 0 4 a 1 0 2 a a 0 1 a 1 0 3 a 5 0 6 a 1 0 1 a 1 0 1 a 1
0 1 a 4 0 1 a b 0 2 a 4 0 5 a 5 0 4 a 1 0 h a 15 0 ml a 1g 0 1ee a 6d 0 6 a 4 4 3 a 2 0 c a 12 0
1 a 1 0 5 a 1 0 2 a 1k 0 7 a 1 0 f 4 1 a n 0 9 a 7 0 1 a 7 0 1 a 7 0 1 a 7 0 1 a 7 0 1 a 7 0 1 a
7 0 1 a 7 0 1 4 w 0 1b a 1 0 cw i 1 0 4 a 1 0 10 4 6 0 1 8 5 0 5 a 2 0 2k 4 2 8 2 0 3 8 2j 0 1 8
4 0 5 a 17 0 1 a 2m 0 h a w 0 1c 8 g 0 5s 8 1b 0 1 8 2g 0 lgo a wd 0 1v a 1a 0 2 a 7h 0 3 a g g
a a 2 0 k a 1b 4 4 0 1 4 a 0 1 a v 4 2 a 28 4 2 0 m a 5x 0 k a h 4 1 a 3 4 1 a 4 4 1 a n 4 5 0 4
4 1 0 j a 1g 0 c 4 2 a 1e 4 i 0 a g a 0 6 4 i a 6 0 3 a 1 0 1 a 2 4 1 g a a s 4 8 0 2 a n 4 d 0
c a t 0 3 4 4 a 1b 4 e 0 e a 1 g a 0 b 4 1 0 a g a 0 6 a 15 4 e 0 9 a 3 4 1 a 8 4 2 0 2 g a 0 x
4 3 0 1e 4 1 0 1 4 3 0 2 4 2 0 5 4 2 0 1 4 1 0 u a b 4 5 0 2 a 3 4 2 0 a a 6 0 2 a 6 0 2 a 6 0 9
a 7 0 1 a 7 0 1 a 1m 0 6 a 37 4 8 0 1 4 2 0 2 g a 0 6 a 8mc 0 c a n 0 4 a 1d 0 6x0 a 7 0 c a 5 0
5 9 1 4 1 9 a 0 1 9 d 0 1 9 5 0 1 9 1 0 1 9 2 0 1 9 2 0 1 9 a a 2q 0 x a a3 0 i a 1s 0 2 a 1i 0
14 a c 0 4 4 g f 1 0 2 e 1 f 1 0 b 4 g 0 3 h 2 0 o h 3 f 1 0 1 d 1 0 1 f 1 e 1 0 q a 5 0 1 a 3r
0 2 6 1 0 7 d 1 0 4 f 1 0 1 d 1 0 1 g a e 1 f 1 0 5 a q 0 4 h 1 0 1 a q 0 b 8 1k 4 2 a v 0 3 a 6
0 2 a 6 0 2 a 6 0 2 a 3 0 s 6 3 0 4 a c 0 1 a q 0 1 a j 0 1 a 2 0 1 a f 0 2 a e 0 y a 3f 0 1x a
1h 0 3s 4 1 0 3m a t 0 3 a 1d 0 f 4 1 0 v a w 0 d a u 0 5 a 12 4 5 0 5 a u 0 2 a 10 0 4 a 8 0 1
a 5 0 16 a 4e 0 2 g a 0 6 a 10 0 4 a 10 0 4 a 14 0 8 a 1g 0 c a b 0 1 a f 0 1 a 7 0 1 a 2 0 1 a
b 0 1 a f 0 1 a 7 0 1 a 2 0 3 a 1g 0 c a 8n 0 9 a m 0 a a 8 0 o a 6 0 1 a 16 0 1 a 9 0 1x a 6 0
2 a 1 0 1 a 18 0 1 a 2 0 3 a 1 0 2 a n 0 a a n 0 9 a v 0 1t a j 0 1 a 2 0 a a m 0 a a q 0 6 a q
0 12 a 1k 0 6 a 2 0 1s a 1 4 3 0 1 4 2 0 5 4 4 a 4 0 1 a 3 0 1 a t 0 2 4 3 0 4 4 1 0 w a t 0 3 a
t 0 z a 8 0 1 a s 4 2 0 p a 1i 0 a a m 0 a a j 0 d a i 0 32 a 21 0 1j a 1f 0 d a 1f 0 d a 10 4 4
0 8 g a 0 6 g a a s 0 3 4 5 0 1 a n 0 6y a 16 0 1 4 2 0 3 a 2 0 g a 6 0 1e 4 6 a t 0 a a 1 0 8 a
m 4 b 0 v a i 4 4 0 16 a l 0 r a n 0 9 4 3 a 1h 4 f 0 v g a 4 1 a 2 4 2 a 1 0 9 4 4 a 19 4 b 0 2
6 1 0 4 4 1 0 a 6 1 0 2 a p 0 7 g a 0 6 4 3 a 10 4 e 0 1 g a 0 4 a 1 4 2 a 1 0 8 a z 4 1 0 2 a 1
0 9 4 3 a 1c 4 e a 4 0 4 4 4 0 1 4 2 g a a 1 0 1 a 1 0 z a i 0 1 a p 4 c 0 6 4 1 a 2 4 1 0 1q a
7 0 1 a 1 0 1 a 4 0 1 a f 0 1 a a 0 7 a 1b 4 c 0 5 g a 0 6 4 4 0 1 a 8 0 2 a 2 0 2 a m 0 1 a 7 0
1 a 2 0 1 a 5 0 1 4 2 a 1 4 7 0 2 4 2 0 2 4 3 0 2 a 1 0 6 4 1 0 5 a 5 4 2 0 2 4 7 0 3 4 5 0 b a
a 0 1 a 1 0 2 a 1 0 1 a 12 0 1 a 1 4 9 0 1 4 1 0 2 4 1 0 1 4 4 0 1 4 5 a 1 4 1 a 1 0 d 4 2 0 t a
1h 4 i a 4 0 5 g a 0 4 4 1 a 3 0 u a 1c 4 k a 2 0 1 a 1 0 8 g a 0 4m a 1b 4 7 0 2 4 9 0 n a 4 4
2 0 y a 1c 4 h 0 3 a 1 0 b g a 0 12 a 17 4 d a 1 0 7 g a 0 6 g k 0 1l 4 f 0 4 g a 0 5i a 18 4 f
0 2t a 1s g a 0 l a 8 0 2 a 1 0 2 a 8 0 1 a 2 0 1 a o 4 6 0 1 4 2 0 2 4 4 a 1 4 1 a 1 4 2 0 c g
a 0 1y a 8 0 2 a 13 4 7 0 2 4 7 a 1 0 1 a 1 4 1 0 r a 1 4 a a 14 4 7 a 1 4 4 0 8 4 1 0 8 a 1 4 b
a 1a 4 g 0 3 a 1 0 i a 21 0 2v 4 8 0 2g a x 0 f g a 0 6 a 9 0 1 a 11 4 8 0 1 4 8 a 1 0 f g a 0 o
a u 0 2 4 m 0 1 4 e 0 21 a 7 0 1 a 2 0 1 a 12 4 6 0 3 4 1 0 1 4 2 0 1 4 7 a 1 4 1 0 8 g a 0 6 a
6 0 1 a 2 0 1 a w 4 5 0 1 4 2 0 1 4 5 a 1 0 7 g a 0 6 a 18 0 4 g a 0 6u a j 4 4 0 9 4 2 a 1 4 1
a d 0 1 a y 4 7 0 3 4 5 0 d g a 4 1 0 2d a 1 0 27 a pm 0 2u a 33 0 h a 5g 0 218 a 2p 0 f a ts 6
g 4 1 a 6 4 f 0 a a 32z 0 5 a g7 0 5a1 a u 4 i g a 0 1c6 a ft 0 7 a v 0 1 g a 0 6 a 27 0 1 g a 0
6 a u 0 2 4 5 0 b a 1c 4 7 0 9 a 4 0 c g a 0 9 a l 0 5 a j 0 c0 a 19 0 3 g a 0 5i a 1s 0 w a p 0
2 a p 0 18 a 23 0 4 4 1 a 1 4 1j 0 7 4 4 a d 0 1s a 2 0 1 a 1 4 1 0 b 4 2 0 cn2 8 4 0 1 8 7 0 1
8 2 0 1 8 1 0 7z 8 3 0 1e 8 1 0 e 8 4 0 23c a 2z 0 5 a d 0 3 a 9 0 7 a a 0 3 4 2 0 1 6 4 0 37w g
a 0 ee 4 1a 0 2 4 n 0 f2 4 5 0 3 4 6 6 8 4 8 0 2 4 7 0 u 4 4 0 44 4 3 0 cb a 2d 0 1 a 1z 0 1 a 2
0 2 a 1 0 2 a 2 0 2 a 4 0 1 a c 0 1 a 1 0 1 a 7 0 1 a 1t 0 1 a 4 0 2 a 8 0 1 a 7 0 1 a s 0 1 a 4
0 1 a 5 0 1 a 1 0 3 a 7 0 1 a 9g 0 2 a p 0 1 a p 0 1 a v 0 1 a p 0 1 a v 0 1 a p 0 1 a v 0 1 a p
0 1 a v 0 1 a p 0 1 a 8 0 2 g 1e 0 e8 4 1j 0 4 4 1e 0 8 4 1 0 e 4 1 0 m 4 5 0 1 4 f 0 uo a v 0 6
a 6 0 5x 4 7 0 1 4 h 0 2 4 7 0 1 4 2 0 1 4 5 0 5 a 1q 0 x 4 1 0 34 a 19 0 3 4 7 a 7 0 2 g a 0 4
a 1 0 8x a u 4 1 0 h a 18 4 4 g a 0 d2 a s 4 4 g a 0 5y a u 4 2 a 1 g a 0 5h a v 0 1 a 3 4 1 a 2
4 1 a 7 4 2 a 5 4 1 0 8 a 2 0 68 a 7 0 1 a 4 0 1 a 2 0 1 a f 0 1 a 5h 0 b 4 7 0 15 a 1w 4 7 a 1
0 4 g a 0 x2 a 4 0 1 a r 0 1 a 2 0 1 a 1 0 2 a 1 0 1 a a 0 1 a 4 0 1 a 1 0 1 a 1 0 6 a 1 0 4 a 1
0 1 a 1 0 1 a 1 0 1 a 3 0 1 a 2 0 1 a 1 0 2 a 1 0 1 a 1 0 1 a 1 0 1 a 1 0 1 a 1 0 1 a 2 0 1 a 1
0 2 a 4 0 1 a 7 0 1 a 4 0 1 a 4 0 1 a 1 0 1 a a 0 1 a h 0 5 a 3 0 1 a 5 0 1 a h 0 hg a q 0 6 a q
0 6 a q 0 2k 7 q 0 e3 4 5 0 1kg g a 0 gvlz 6 1 0 u 4 2o 0 3k 4 6o 0 47bk"

def sentence : Break where
  names := [["other", "xx"], ["cr"], ["lf"], ["sep", "se"], ["extend", "ex"], ["format", "fo"],
   ["sp"],
   ["lower", "lo"], ["upper", "up"], ["oletter", "le"], ["numeric", "nu"], ["aterm", "at"],
   ["scontinue", "sc"], ["sterm", "st"], ["close", "cl"]]
  table := parts "
0 9 6 1 2 1 6 2 1 1 0 i 6 1 d 1 e 1 0 4 e 3 0 2 c 2 b 1 0 1 a a c 1 0 4 d 1 0 1 8 q e 1 0 1 e 1
0 3 7 q e 1 0 1 e 1 0 7 3 1 0 q 6 1 0 9 7 1 e 1 0 1 5 1 0 7 7 1 0 4 7 1 e 1 0 4 8 n 0 1 8 7 7 o
0 1 7 8 8 1 7 1 8 1 7 1 8 1 7 1 8 1 7 1 8 1 7 1 8 1 7 1 8 1 7 1 8 1 7 1 8 1 7 1 8 1 7 1 8 1 7 1
8 1 7 1 8 1 7 1 8 1 7 1 8 1 7 1 8 1 7 1 8 1 7 1 8 1 7 1 8 1 7 1 8 1 7 1 8 1 7 1 8 1 7 1 8 1 7 1
8 1 7 1 8 1 7 1 8 1 7 1 8 1 7 1 8 1 7 2 8 1 7 1 8 1 7 1 8 1 7 1 8 1 7 1 8 1 7 1 8 1 7 1 8 1 7 1
8 1 7 2 8 1 7 1 8 1 7 1 8 1 7 1 8 1 7 1 8 1 7 1 8 1 7 1 8 1 7 1 8 1 7 1 8 1 7 1 8 1 7 1 8 1 7 1
8 1 7 1 8 1 7 1 8 1 7 1 8 1 7 1 8 1 7 1 8 1 7 1 8 1 7 1 8 1 7 1 8 1 7 1 8 1 7 1 8 1 7 1 8 1 7 1
8 2 7 1 8 1 7 1 8 1 7 3 8 2 7 1 8 1 7 1 8 2 7 1 8 3 7 2 8 4 7 1 8 2 7 1 8 3 7 3 8 2 7 1 8 2 7 1
8 1 7 1 8 1 7 1 8 2 7 1 8 1 7 2 8 1 7 1 8 2 7 1 8 3 7 1 8 1 7 1 8 2 7 2 9 1 8 1 7 3 9 4 8 2 7 1
8 2 7 1 8 2 7 1 8 1 7 1 8 1 7 1 8 1 7 1 8 1 7 1 8 1 7 1 8 1 7 1 8 1 7 1 8 1 7 2 8 1 7 1 8 1 7 1
8 1 7 1 8 1 7 1 8 1 7 1 8 1 7 1 8 1 7 1 8 1 7 1 8 1 7 2 8 2 7 1 8 1 7 1 8 3 7 1 8 1 7 1 8 1 7 1
8 1 7 1 8 1 7 1 8 1 7 1 8 1 7 1 8 1 7 1 8 1 7 1 8 1 7 1 8 1 7 1 8 1 7 1 8 1 7 1 8 1 7 1 8 1 7 1
8 1 7 1 8 1 7 1 8 1 7 1 8 1 7 1 8 1 7 1 8 1 7 1 8 1 7 1 8 1 7 1 8 1 7 1 8 1 7 1 8 1 7 1 8 1 7 1
8 1 7 1 8 1 7 1 8 1 7 7 8 2 7 1 8 2 7 2 8 1 7 1 8 4 7 1 8 1 7 1 8 1 7 1 8 1 7 1 8 1 7 1x 9 1 7
10 9 7 7 2 0 4 9 c 0 e 7 5 0 7 9 1 0 1 9 1 0 h 4 34 8 1 7 1 8 1 7 1 9 1 0 1 8 1 7 1 0 2 7 4 0 1
8 1 0 6 8 1 0 1 8 3 0 1 8 1 0 1 8 2 7 1 8 h 0 1 8 9 7 z 8 1 7 2 8 3 7 3 8 1 7 1 8 1 7 1 8 1 7 1
8 1 7 1 8 1 7 1 8 1 7 1 8 1 7 1 8 1 7 1 8 1 7 1 8 1 7 1 8 1 7 1 8 1 7 5 8 1 7 1 0 1 8 1 7 1 8 2
7 2 8 1f 7 1c 8 1 7 1 8 1 7 1 8 1 7 1 8 1 7 1 8 1 7 1 8 1 7 1 8 1 7 1 8 1 7 1 8 1 7 1 8 1 7 1 8
1 7 1 8 1 7 1 8 1 7 1 8 1 7 1 8 1 7 1 8 1 7 1 8 1 7 1 0 1 4 7 8 1 7 1 8 1 7 1 8 1 7 1 8 1 7 1 8
1 7 1 8 1 7 1 8 1 7 1 8 1 7 1 8 1 7 1 8 1 7 1 8 1 7 1 8 1 7 1 8 1 7 1 8 1 7 1 8 1 7 1 8 1 7 1 8
1 7 1 8 1 7 1 8 1 7 1 8 1 7 1 8 1 7 1 8 1 7 1 8 1 7 1 8 1 7 1 8 1 7 1 8 1 7 1 8 1 7 1 8 2 7 1 8
1 7 1 8 1 7 1 8 1 7 1 8 1 7 1 8 1 7 1 8 1 7 2 8 1 7 1 8 1 7 1 8 1 7 1 8 1 7 1 8 1 7 1 8 1 7 1 8
1 7 1 8 1 7 1 8 1 7 1 8 1 7 1 8 1 7 1 8 1 7 1 8 1 7 1 8 1 7 1 8 1 7 1 8 1 7 1 8 1 7 1 8 1 7 1 8
1 7 1 8 1 7 1 8 1 7 1 8 1 7 1 8 1 7 1 8 1 7 1 8 1 7 1 8 1 7 1 8 1 7 1 8 1 7 1 8 1 7 1 8 1 7 1 8
1 7 1 8 1 7 1 8 1 7 1 8 1 7 1 8 1 7 1 8 1 7 1 8 1 7 1 8 1 7 1 8 1 7 1 8 1 7 1 8 1 7 1 8 1 7 1 8
1 7 1 8 1 7 1 8 1 7 1 8 1 7 1 8 1 7 1 8 1 7 1 0 1 8 12 0 2 9 1 0 3 c 1 0 2 7 15 d 1 0 7 4 19 0 1
4 1 0 1 4 2 0 1 4 2 0 1 4 1 0 8 9 r 0 4 9 5 0 c 5 6 0 6 c 2 0 2 4 b 0 1 5 1 d 3 9 17 4 l a a 0 1
a 2 0 1 9 2 4 1 9 2r d 1 9 1 4 7 5 1 0 1 4 6 9 2 4 2 0 1 4 4 9 2 a a 9 3 0 2 9 1 d 3 0 c 5 1 9 1
4 1 9 u 4 r 0 2 9 2h 4 b 9 1 0 e a a 9 x 4 9 9 2 0 2 c 1 d 1 9 1 0 2 4 1 0 2 9 m 4 4 9 1 4 9 9 1
4 3 9 1 4 5 0 9 d 1 0 1 d 1 0 3 d 2 0 1 9 p 4 3 0 4 9 b 0 5 9 o 0 1 9 7 5 2 0 5 4 9 9 16 4 o 5 1
4 x 9 1i 4 3 9 1 4 i 9 1 4 7 9 a 4 2 d 2 a a 0 1 9 g 4 3 0 1 9 8 0 2 9 2 0 2 9 m 0 1 9 7 0 1 9 1
0 3 9 4 0 2 4 1 9 1 4 7 0 2 4 2 0 2 4 3 9 1 0 8 4 1 0 4 9 2 0 1 9 3 4 2 0 2 a a 9 2 0 a 9 1 0 1
4 1 0 2 4 3 0 1 9 6 0 4 9 2 0 2 9 m 0 1 9 7 0 1 9 2 0 1 9 2 0 1 9 2 0 2 4 1 0 1 4 5 0 4 4 2 0 2
4 3 0 3 4 1 0 7 9 4 0 1 9 1 0 7 a a 4 2 9 3 4 1 0 b 4 3 0 1 9 9 0 1 9 3 0 1 9 m 0 1 9 7 0 1 9 2
0 1 9 5 0 2 4 1 9 1 4 8 0 1 4 3 0 1 4 3 0 2 9 1 0 f 9 2 4 2 0 2 a a 0 9 9 1 4 6 0 1 4 3 0 1 9 8
0 2 9 2 0 2 9 m 0 1 9 7 0 1 9 2 0 1 9 5 0 2 4 1 9 1 4 7 0 2 4 2 0 2 4 3 0 7 4 3 0 4 9 2 0 1 9 3
4 2 0 2 a a 0 1 9 1 0 g 4 1 9 1 0 1 9 6 0 3 9 3 0 1 9 4 0 3 9 2 0 1 9 1 0 1 9 2 0 3 9 2 0 3 9 3
0 3 9 c 0 4 4 5 0 3 4 3 0 1 4 4 0 2 9 1 0 6 4 1 0 e a a 0 g 4 5 9 8 0 1 9 3 0 1 9 n 0 1 9 g 0 2
4 1 9 1 4 7 0 1 4 3 0 1 4 4 0 7 4 2 0 1 9 3 0 1 9 2 0 2 9 2 4 2 0 2 a a 0 g 9 1 4 3 0 1 9 8 0 1
9 3 0 1 9 n 0 1 9 a 0 1 9 5 0 2 4 1 9 1 4 7 0 1 4 3 0 1 4 4 0 7 4 2 0 5 9 3 0 1 9 2 4 2 0 2 a a
0 1 9 2 4 1 0 c 4 4 9 9 0 1 9 3 0 1 9 15 4 2 9 1 4 7 0 1 4 3 0 1 4 4 9 1 0 5 9 3 4 1 0 7 9 3 4 2
0 2 a a 0 a 9 6 0 1 4 3 0 1 9 i 0 3 9 o 0 1 9 9 0 1 9 1 0 2 9 7 0 3 4 1 0 4 4 6 0 1 4 1 0 1 4 8
0 6 a a 0 2 4 2 0 d 9 1c 4 1 9 2 4 7 0 5 9 7 4 8 0 1 a a 0 13 9 2 0 1 9 1 0 1 9 5 0 1 9 o 0 1 9
1 0 1 9 a 4 1 9 2 4 9 9 1 0 2 9 5 0 1 9 1 0 1 4 7 0 1 a a 0 2 9 4 0 w 9 1 0 n 4 2 0 6 a a 0 b 4
1 0 1 4 1 0 1 4 1 e 4 4 2 9 8 0 1 9 10 0 4 4 k 0 1 4 2 9 5 4 b 0 1 4 10 0 9 4 1 0 1l 9 17 4 k 9
1 a a d 2 0 4 9 6 4 4 9 4 4 3 9 1 4 3 9 2 4 7 9 3 4 4 9 d 4 c 9 1 4 1 a a 4 4 0 2 8 12 0 1 8 1 0
5 8 1 0 2 9 17 0 1 7 1 9 98 0 1 9 4 0 2 9 7 0 1 9 1 0 1 9 4 0 2 9 15 0 1 9 4 0 2 9 x 0 1 9 4 0 2
9 7 0 1 9 1 0 1 9 4 0 2 9 f 0 1 9 1l 0 1 9 4 0 2 9 1v 0 2 4 3 0 2 d 1 0 4 d 2 0 n 9 g 0 g 8 2e 0
2 7 6 0 3 9 h8 0 1 d 1 9 h 6 1 9 q e 2 0 3 9 23 0 3 9 b 0 7 9 i 4 4 0 9 9 j 4 3 d 2 0 9 9 i 4 2
0 c 9 d 0 1 9 3 0 1 4 2 0 c 9 1g 4 w 0 3 9 1 0 4 9 1 4 1 0 2 a a 0 o c 1 d 1 0 4 c 1 d 1 0 1 4 3
5 1 4 1 a a 0 6 9 2h 0 7 9 5 4 2 9 y 4 1 9 1 0 5 9 1y 0 a 9 v 0 1 4 c 0 4 4 c 0 8 d 2 a a 9 u 0
2 9 5 0 b 9 18 0 4 9 q 0 6 a a 0 12 9 n 4 5 0 4 9 1h 4 a 0 1 4 t 0 2 4 1 a a 0 6 a a 0 d 9 1 d 4
0 4 4 1a 0 2 4 c 0 k 4 5 9 1b 4 h 9 8 0 3 a a d 2 0 2 d 2 0 b 4 9 0 9 d 2 0 1 4 3 9 u 4 d 9 2 a
a 9 18 4 e 0 c 9 10 4 k 0 3 d 2 0 3 a a 0 3 9 3 a a 9 10 d 2 7 9 8 1 7 1 0 5 9 17 0 2 9 3 0 g 4
3 0 1 4 l 9 4 4 1 9 6 4 1 9 2 4 3 9 1 0 5 7 5c 4 1s 8 1 7 1 8 1 7 1 8 1 7 1 8 1 7 1 8 1 7 1 8 1
7 1 8 1 7 1 8 1 7 1 8 1 7 1 8 1 7 1 8 1 7 1 8 1 7 1 8 1 7 1 8 1 7 1 8 1 7 1 8 1 7 1 8 1 7 1 8 1
7 1 8 1 7 1 8 1 7 1 8 1 7 1 8 1 7 1 8 1 7 1 8 1 7 1 8 1 7 1 8 1 7 1 8 1 7 1 8 1 7 1 8 1 7 1 8 1
7 1 8 1 7 1 8 1 7 1 8 1 7 1 8 1 7 1 8 1 7 1 8 1 7 1 8 1 7 1 8 1 7 1 8 1 7 1 8 1 7 1 8 1 7 1 8 1
7 1 8 1 7 1 8 1 7 1 8 1 7 1 8 1 7 1 8 1 7 1 8 1 7 1 8 1 7 1 8 1 7 1 8 1 7 1 8 1 7 1 8 1 7 1 8 1
7 1 8 1 7 1 8 1 7 1 8 1 7 1 8 1 7 1 8 1 7 1 8 1 7 1 8 1 7 1 8 1 7 1 8 1 7 1 8 1 7 1 8 1 7 1 8 1
7 1 8 1 7 1 8 1 7 1 8 1 7 1 8 1 7 1 8 1 7 1 8 1 7 1 8 1 7 1 8 1 7 1 8 1 7 9 8 1 7 1 8 1 7 1 8 1
7 1 8 1 7 1 8 1 7 1 8 1 7 1 8 1 7 1 8 1 7 1 8 1 7 1 8 1 7 1 8 1 7 1 8 1 7 1 8 1 7 1 8 1 7 1 8 1
7 1 8 1 7 1 8 1 7 1 8 1 7 1 8 1 7 1 8 1 7 1 8 1 7 1 8 1 7 1 8 1 7 1 8 1 7 1 8 1 7 1 8 1 7 1 8 1
7 1 8 1 7 1 8 1 7 1 8 1 7 1 8 1 7 1 8 1 7 1 8 1 7 1 8 1 7 1 8 1 7 1 8 1 7 1 8 1 7 1 8 1 7 1 8 1
7 1 8 1 7 1 8 1 7 1 8 1 7 1 8 1 7 1 8 1 7 1 8 1 7 1 8 1 7 1 8 1 7 1 8 1 7 1 8 1 7 9 8 8 7 6 0 2
8 6 0 2 7 8 8 8 7 8 8 8 7 6 0 2 8 6 0 2 7 8 0 1 8 1 0 1 8 1 0 1 8 1 0 1 8 1 7 8 8 8 7 e 0 2 7 8
8 8 7 8 8 8 7 8 8 8 7 5 0 1 7 2 8 5 0 1 7 1 0 3 7 3 0 1 7 2 8 5 0 3 7 4 0 2 7 2 8 4 0 4 7 8 8 5
0 5 7 3 0 1 7 2 8 5 0 3 6 b 5 1 4 2 5 2 0 3 c 2 0 3 e 8 0 4 b 1 0 3 3 2 5 5 6 1 0 9 e 2 0 1 d 2
0 7 e 2 d 3 0 l 6 1 5 5 0 1 5 a 0 1 7 1 0 b e 2 7 1 0 d e 2 0 1 7 d 0 1f 4 x 0 h 8 1 0 4 8 1 0 2
7 1 8 3 7 2 8 3 7 1 0 1 8 1 0 3 8 5 0 6 8 1 0 1 8 1 0 1 8 1 0 1 8 4 0 1 7 1 8 4 7 1 9 4 7 1 0 2
7 2 8 2 0 5 8 1 7 4 0 4 7 1 0 h 8 g 7 g 9 3 8 1 7 1 9 4 0 an e 4 0 t e 2 0 az 8 q 7 q 0 hd e 6 0
7 e e 0 27 e 2 0 v e a 0 b7 e m 0 1r e 4 0 w e 2 0 ea 8 1c 7 1c 8 1 7 1 8 3 7 2 8 1 7 1 8 1 7 1
8 1 7 1 8 4 7 1 8 1 7 2 8 1 7 8 8 3 7 1 8 1 7 1 8 1 7 1 8 1 7 1 8 1 7 1 8 1 7 1 8 1 7 1 8 1 7 1
8 1 7 1 8 1 7 1 8 1 7 1 8 1 7 1 8 1 7 1 8 1 7 1 8 1 7 1 8 1 7 1 8 1 7 1 8 1 7 1 8 1 7 1 8 1 7 1
8 1 7 1 8 1 7 1 8 1 7 1 8 1 7 1 8 1 7 1 8 1 7 1 8 1 7 1 8 1 7 1 8 1 7 1 8 1 7 1 8 1 7 1 8 1 7 1
8 1 7 1 8 1 7 1 8 1 7 1 8 1 7 1 8 1 7 1 8 1 7 1 8 1 7 1 8 1 7 1 8 1 7 1 8 1 7 1 8 1 7 1 8 1 7 1
8 1 7 1 8 1 7 1 8 1 7 1 8 1 7 1 8 1 7 1 8 1 7 2 0 6 8 1 7 1 8 1 7 1 4 3 8 1 7 1 0 c 7 12 0 1 7 1
0 5 7 1 0 2 9 1k 0 7 9 1 0 f 4 1 9 n 0 9 9 7 0 1 9 7 0 1 9 7 0 1 9 7 0 1 9 7 0 1 9 7 0 1 9 7 0 1
9 7 0 1 4 w e e 0 e e 2 0 2 e a 0 4 d 1 9 1 0 c d 1 0 5 e 1 0 g d 2 e 8 0 bn 6 1 c 1 d 1 0 2 9 3
e a 0 2 e 8 0 1 e 3 0 1 9 9 4 6 0 1 9 5 0 2 9 5 0 4 9 2e 0 2 4 2 0 2 9 3 0 1 9 2i 0 1 9 4 0 5 9
17 0 1 9 2m 0 h 9 w 0 1c 9 g 0 e8 9 534 0 1s 9 h3h 0 1v 9 1a 0 1 d 1 9 7h 0 1 d 2 9 g a a 9 2 0
k 8 1 7 1 8 1 7 1 8 1 7 1 8 1 7 1 8 1 7 1 8 1 7 1 8 1 7 1 8 1 7 1 8 1 7 1 8 1 7 1 8 1 7 1 8 1 7
1 8 1 7 1 8 1 7 1 8 1 7 1 8 1 7 1 8 1 7 1 8 1 7 1 8 1 7 1 8 1 7 1 8 1 7 1 8 1 7 1 8 1 7 1 9 1 4
4 0 1 4 a 0 1 9 1 8 1 7 1 8 1 7 1 8 1 7 1 8 1 7 1 8 1 7 1 8 1 7 1 8 1 7 1 8 1 7 1 8 1 7 1 8 1 7
1 8 1 7 1 8 1 7 1 8 1 7 1 8 1 7 3 4 2 9 28 4 2 0 1 d 1 0 3 d 1 0 v 9 9 0 2 8 1 7 1 8 1 7 1 8 1 7
1 8 1 7 1 8 1 7 1 8 1 7 1 8 1 7 3 8 1 7 1 8 1 7 1 8 1 7 1 8 1 7 1 8 1 7 1 8 1 7 1 8 1 7 1 8 1 7
1 8 1 7 1 8 1 7 1 8 1 7 1 8 1 7 1 8 1 7 1 8 1 7 1 8 1 7 1 8 1 7 1 8 1 7 1 8 1 7 1 8 1 7 1 8 1 7
1 8 1 7 1 8 1 7 1 8 1 7 1 8 1 7 1 8 1 7 1 8 1 7 1 8 1 7 1 8 1 7 1 8 1 7 1 8 1 7 1 8 1 7 a 8 1 7
1 8 1 7 1 8 2 7 1 8 1 7 1 8 1 7 1 8 1 7 1 8 1 7 1 9 1 0 2 8 1 7 1 8 1 7 1 9 1 8 1 7 1 8 1 7 3 8
1 7 1 8 1 7 1 8 1 7 1 8 1 7 1 8 1 7 1 8 1 7 1 8 1 7 1 8 1 7 1 8 1 7 1 8 1 7 1 8 5 7 1 8 5 7 1 8
1 7 1 8 1 7 1 8 1 7 1 8 1 7 1 8 1 7 1 8 1 7 1 8 1 7 1 8 4 7 1 8 1 7 1 8 2 7 1 8 1 7 1 8 1 7 1 8
1 7 1 8 1 7 1 8 1 7 1 8 1 7 1 8 1 7 1 8 1 0 k 7 4 8 1 7 1 9 1 7 3 9 7 4 1 9 3 4 1 9 4 4 1 9 n 4
5 0 4 4 1 0 j 9 1g 0 2 d 2 0 8 4 2 9 1e 4 i 0 8 d 2 a a 0 6 4 i 9 6 0 3 9 1 0 1 9 2 4 1 a a 9 s
4 8 0 1 d 1 9 n 4 d 0 c 9 t 0 3 4 4 9 1b 4 e 0 7 d 2 0 5 9 1 a a 0 6 9 5 4 1 9 a a a 9 5 0 1 9
15 4 e 0 9 9 3 4 1 9 8 4 2 0 2 a a 0 3 d 3 9 n 0 3 9 1 4 3 9 1e 4 1 9 1 4 3 9 2 4 2 9 5 4 2 9 1
4 1 9 1 0 o 9 3 0 2 9 b 4 5 d 2 9 3 4 2 0 a 9 6 0 2 9 6 0 2 9 6 0 9 9 7 0 1 9 7 0 1 7 17 0 1 7 e
0 6 7 28 9 z 4 8 d 1 4 2 0 2 a a 0 6 9 8mc 0 c 9 n 0 4 9 1d 0 6is 9 a6 0 2 9 2y 0 12 7 7 0 c 7 5
0 5 9 1 4 1 9 a 0 1 9 d 0 1 9 5 0 1 9 1 0 1 9 2 0 1 9 2 0 1 9 30 0 x 9 a3 e 2 0 g 9 1s 0 2 9 1i
0 14 9 c 0 4 4 g c 2 0 1 c 1 0 3 e 2 0 7 4 g 0 1 c 2 0 2 e g 0 2 e 2 0 7 c 2 b 1 0 2 c 1 d 2 c 1
e 6 0 4 c 1 0 c 9 5 0 1 9 3r 0 2 5 1 0 1 d 1 0 6 e 2 0 2 c 2 b 1 0 1 a a c 1 0 4 d 1 0 1 8 q e 1
0 1 e 1 0 3 7 q e 1 0 1 e 1 0 1 e 2 d 1 e 2 c 1 0 1 9 1k 4 2 9 v 0 3 9 6 0 2 9 6 0 2 9 6 0 2 9 3
0 s 5 3 0 4 9 c 0 1 9 q 0 1 9 j 0 1 9 2 0 1 9 f 0 2 9 e 0 y 9 3f 0 1x 9 1h 0 3s 4 1 0 3m 9 t 0 3
9 1d 0 f 4 1 0 v 9 w 0 d 9 u 0 5 9 12 4 5 0 5 9 u 0 2 9 10 0 4 9 8 0 1 9 5 0 16 8 14 7 14 9 26 0
2 a a 0 6 8 10 0 4 7 10 0 4 9 14 0 8 9 1g 0 c 8 b 0 1 8 f 0 1 8 7 0 1 8 2 0 1 7 b 0 1 7 f 0 1 7
7 0 1 7 2 0 3 9 1g 0 c 9 8n 0 9 9 m 0 a 9 8 0 o 7 1 9 2 7 3 0 1 7 16 0 1 7 9 0 1x 9 6 0 2 9 1 0
1 9 18 0 1 9 2 0 3 9 1 0 2 9 n 0 a 9 n 0 9 9 v 0 1t 9 j 0 1 9 2 0 a 9 m 0 a 9 q 0 6 9 q 0 12 9
1k 0 6 9 2 0 1s 9 1 4 3 0 1 4 2 0 5 4 4 9 4 0 1 9 3 0 1 9 t 0 2 4 3 0 4 4 1 0 m d 2 0 8 9 t 0 3
9 t 0 z 9 8 0 1 9 s 4 2 0 p 9 1i 0 a 9 m 0 a 9 j 0 d 9 i 0 32 9 21 0 1j 8 1f 0 d 7 1f 0 d 9 10 4
4 0 8 a a 0 6 a a 9 6 8 m 0 3 4 5 0 1 9 1 7 m 0 6y 9 16 0 1 4 2 0 3 9 2 0 g 9 6 0 1e 4 6 9 t 0 a
9 1 0 8 9 m 4 b 0 4 d 5 0 m 9 i 4 4 d 4 0 12 9 l 0 r 9 n 0 9 4 3 9 1h 4 f d 2 0 t a a 4 1 9 2 4
2 9 1 0 9 4 4 9 19 4 b 0 2 5 1 d 4 4 1 0 a 5 1 0 2 9 p 0 7 a a 0 6 4 3 9 10 4 e 0 1 a a 0 1 d 3
9 1 4 2 9 1 0 8 9 z 4 1 0 2 9 1 0 9 4 3 9 1c 4 e 9 4 d 2 0 2 4 4 d 1 4 2 a a 9 1 0 1 9 1 0 1 d 2
0 w 9 i 0 1 9 p 4 c d 2 0 1 d 2 0 1 4 1 9 2 4 1 0 1q 9 7 0 1 9 1 0 1 9 4 0 1 9 f 0 1 9 a d 1 0 6
9 1b 4 c 0 5 a a 0 6 4 4 0 1 9 8 0 2 9 2 0 2 9 m 0 1 9 7 0 1 9 2 0 1 9 5 0 1 4 2 9 1 4 7 0 2 4 2
0 2 4 3 0 2 9 1 0 6 4 1 0 5 9 5 4 2 0 2 4 7 0 3 4 5 0 b 9 a 0 1 9 1 0 2 9 1 0 1 9 12 0 1 9 1 4 9
0 1 4 1 0 2 4 1 0 1 4 4 0 1 4 5 9 1 4 1 9 1 0 d 4 2 0 t 9 1h 4 i 9 4 d 2 0 3 a a 0 4 4 1 9 3 0 u
9 1c 4 k 9 2 0 1 9 1 0 8 a a 0 4m 9 1b 4 7 0 2 4 9 0 1 d 2 0 5 d f 9 4 4 2 0 y 9 1c 4 h d 2 0 1
9 1 0 b a a 0 12 9 17 4 d 9 1 0 7 a a 0 6 a k 0 s 9 r 0 2 4 f 0 4 a a 0 2 d 3 0 1 9 7 0 55 9 18
4 f 0 2t 8 w 7 w a a 0 l 9 8 0 2 9 1 0 2 9 8 0 1 9 2 0 1 9 o 4 6 0 1 4 2 0 2 4 4 9 1 4 1 9 1 4 2
d 1 0 1 d 1 0 9 a a 0 1y 9 8 0 2 9 13 4 7 0 2 4 7 9 1 0 1 9 1 4 1 0 r 9 1 4 a 9 14 4 7 9 1 4 4 0
3 d 2 0 3 4 1 0 8 9 1 4 b 9 1a 4 g 0 1 d 2 9 1 0 i 9 21 0 2v 4 8 0 2g 9 x 0 f a a 0 6 9 9 0 1 9
11 4 8 0 1 4 8 9 1 d 2 0 d a a 0 o 9 u 0 2 4 m 0 1 4 e 0 21 9 7 0 1 9 2 0 1 9 12 4 6 0 3 4 1 0 1
4 2 0 1 4 7 9 1 4 1 0 8 a a 0 6 9 6 0 1 9 2 0 1 9 w 4 5 0 1 4 2 0 1 4 5 9 1 0 7 a a 0 6 9 18 0 4
a a 0 6u 9 j 4 4 d 2 0 7 4 2 9 1 4 1 9 d 0 1 9 y 4 7 0 3 4 5 d 2 0 b a a 4 1 0 2d 9 1 0 27 9 pm
0 2u 9 33 0 h 9 5g 0 218 9 2p 0 f 9 ts 5 g 4 1 9 6 4 f 0 a 9 32z 0 5 9 g7 0 5a1 9 u 4 i a a 0
1c6 9 ft 0 7 9 v 0 1 a a 0 4 d 2 9 27 0 1 a a 0 6 9 u 0 2 4 5 d 1 0 a 9 1c 4 7 d 2 0 7 9 4 d 1 0
b a a 0 9 9 l 0 5 9 j 0 c0 9 19 0 3 a a 0 5i 8 w 7 w 0 o d 1 0 7 8 p 0 2 7 p 0 18 9 23 0 4 4 1 9
1 4 1j 0 7 4 4 9 d 0 1s 9 2 0 1 9 1 4 1 0 b 4 2 9 5 0 9 9 5p2 0 15 9 w 0 2p 9 37 0 6pp 9 4 0 1 9
7 0 1 9 2 0 1 9 83 0 f 9 1 0 t 9 3 0 2 9 1 0 e 9 4 0 8 9 b0 0 1s4 9 2z 0 5 9 d 0 3 9 9 0 7 9 a 0
3 4 2 d 1 5 4 0 37w a a 0 ee 4 1a 0 2 4 n 0 f2 4 5 0 3 4 6 5 8 4 8 0 2 4 7 0 u 4 4 0 44 4 3 0 cb
8 q 7 q 8 q 7 7 0 1 7 i 8 q 7 q 8 1 0 1 8 2 0 2 8 1 0 2 8 2 0 2 8 4 0 1 8 8 7 4 0 1 7 1 0 1 7 7
0 1 7 b 8 q 7 q 8 2 0 1 8 4 0 2 8 8 0 1 8 7 0 1 7 q 8 2 0 1 8 4 0 1 8 5 0 1 8 1 0 3 8 7 0 1 7 q
8 q 7 q 8 q 7 q 8 q 7 q 8 q 7 q 8 q 7 q 8 q 7 s 0 2 8 p 0 1 7 p 0 1 7 6 8 p 0 1 7 p 0 1 7 6 8 p
0 1 7 p 0 1 7 6 8 p 0 1 7 p 0 1 7 6 8 p 0 1 7 p 0 1 7 6 8 1 7 1 0 2 a 1e 0 e8 4 1j 0 4 4 1e 0 8
4 1 0 e 4 1 0 3 d 1 0 i 4 5 0 1 4 f 0 uo 7 a 9 1 7 k 0 6 7 6 0 5x 4 7 0 1 4 h 0 2 4 7 0 1 4 2 0
1 4 5 0 5 7 1q 0 x 4 1 0 34 9 19 0 3 4 7 9 7 0 2 a a 0 4 9 1 0 8x 9 u 4 1 0 h 9 18 4 4 a a 0 d2
9 s 4 4 a a 0 5y 9 u 4 2 9 1 a a 0 5h 9 v 0 1 9 3 4 1 9 2 4 1 9 7 4 2 9 5 4 1 0 8 9 2 0 68 9 7 0
1 9 4 0 1 9 2 0 1 9 f 0 1 9 5h 0 b 4 7 0 15 8 y 7 y 4 7 9 1 0 4 a a 0 x2 9 4 0 1 9 r 0 1 9 2 0 1
9 1 0 2 9 1 0 1 9 a 0 1 9 4 0 1 9 1 0 1 9 1 0 6 9 1 0 4 9 1 0 1 9 1 0 1 9 1 0 1 9 3 0 1 9 2 0 1
9 1 0 2 9 1 0 1 9 1 0 1 9 1 0 1 9 1 0 1 9 1 0 1 9 2 0 1 9 1 0 2 9 4 0 1 9 7 0 1 9 4 0 1 9 4 0 1
9 1 0 1 9 a 0 1 9 h 0 5 9 3 0 1 9 5 0 1 9 h 0 hg 8 q 0 6 8 q 0 6 8 q 0 z0 e 3 0 12v a a 0 sm 9
wyo 0 w 9 3dq 0 2 9 4ge 0 2 9 5rl 0 f 9 ha 0 1wi 9 f2 0 15u 9 3t7 0 5 9 6ju 0 f5vr 5 1 0 u 4 2o
0 3k 4 6o 0 47bk"

end Break

end UrlMask.Unicode
