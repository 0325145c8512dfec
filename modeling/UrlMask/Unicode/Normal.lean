import UrlMask.Unicode.Runs

/-!
# Canonical composition

`compose` brings a text into the composed normal form: every character is replaced by its full
canonical decomposition, marks are put in order of their combining class, and pairs that have a
composite are joined again. Hangul syllables are decomposed and composed by arithmetic.
-/
namespace UrlMask.Unicode

/-- Runs of code points of equal, non-zero combining class: gap, length and class. -/
def classRunsFrom : Nat → List Nat → List (Interval × Nat)
  | start, gap :: len :: k :: rest =>
    (⟨start + gap, start + gap + len - 1⟩, k) :: classRunsFrom (start + gap + len) rest
  | _, _ => []

def combiningTable : List (Interval × Nat) := classRunsFrom 0 (numerals "
lc l 6e 0 1 6g 0 4 64 0 1 6g 0 1 60 0 5 64 0 2 5m 0 4 64 0 2 5m 0 b 64 0 5 1 0 4 64 0 8 6e 0 1
6o 0 1 6e 0 3 64 0 3 6e 0 2 64 1 3 6e 0 4 64 0 1 6e 0 1 6g 0 2 64 0 1 6e 0 1 6h 0 2 6i 0 1 6h 0
2 6i 0 1 6h 0 d 6e 7n 5 6e 7d 1 64 0 4 6e 0 1 64 0 3 6e 0 1 66 0 1 64 0 6 6e 0 6 64 0 2 6e 0 1
64 0 2 6e 0 1 66 0 1 6c 0 1 6e 0 1 a 0 1 b 0 1 c 0 1 d 0 1 e 0 1 f 0 1 g 0 1 h 0 1 i 0 2 j 0 1 k
0 1 l 0 1 m 1 1 n 1 1 o 0 1 p 1 1 6e 0 1 64 1 1 i 20 8 6e 0 1 u 0 1 v 0 1 w 1c 1 r 0 1 s 0 1 t 0
1 u 0 1 v 0 1 w 0 1 x 0 1 y 0 2 6e 0 2 64 0 5 6e 0 1 64 0 2 6e 0 1 64 g 1 z 2t 7 6e 2 4 6e 0 1
64 0 1 6e 2 2 6e 1 1 64 0 2 6e 0 1 64 z 1 10 u 1 6e 0 1 64 0 2 6e 0 1 64 0 2 6e 0 3 64 0 1 6e 0
2 64 0 1 6e 0 1 64 0 3 6e 0 1 64 0 1 6e 0 1 64 0 1 6e 0 1 64 0 1 6e 0 1 64 0 2 6e 4g 7 6e 0 1 64
0 1 6e 9 1 64 o 4 6e 1 9 6e 1 3 6e 1 5 6e 17 3 64 1n 2 6e 0 3 64 0 4 6e 16 5 6e 0 5 64 0 e 6e 1
1 64 0 2 6e 0 1 64 0 2 6e 0 1 64 0 3 6e 0 3 64 0 1 r 0 1 s 0 1 t 0 3 6e 0 1 64 0 2 6e 0 2 64 0 5
6e 1o 1 7 g 1 9 3 1 6e 0 1 64 0 2 6e 2v 1 7 g 1 9 1c 1 6e 1p 1 7 g 1 9 32 1 7 g 1 9 32 1 7 g 1 9
3j 1 9 32 1 7 g 1 9 7 1 2c 0 1 2j 2t 1 7 g 1 9 31 2 9 g 1 9 3g 1 9 31 2 2v 0 1 9 d 4 2z 30 2 3a
0 1 9 d 4 3e 24 2 64 r 1 64 1 1 64 1 1 60 1j 1 3l 0 1 3m 1 1 3o 5 4 3m 2 1 3m 1 2 6e 0 1 9 1 2
6e 1q 1 64 34 1 7 1 2 9 2a 1 64 jz 3 6e qc 2 9 u 1 9 4d 1 9 a 1 6e 5n 1 6c 3z 1 66 0 1 6e 0 1 64
63 1 6e 0 1 64 1z 1 9 k 8 6e 2 1 64 1c 5 6e 0 6 64 0 2 6e 0 1 64 1 2 64 0 2 6e 0 2 64 0 5 6e 0 1
64 0 i 6e 0 1 64 2 6 6e 0 1 64 0 4 6e 0 1 6i 20 1 7 f 1 9 12 1 6e 0 1 64 0 7 6e 1i 2 9 1m 1 7 b
2 9 1v 1 7 48 3 6e 1 1 1 0 5 64 0 2 6e 0 4 64 0 1 6e 1 7 1 4 1 64 6 1 6e 3 2 6e 5i 2 6e 0 1 64 0
7 6e 0 1 64 0 2 6e 0 1 6i 0 1 5y 0 1 64 0 1 5m 0 11 6e 0 1 6g 0 2 6c 0 1 64 0 1 62 0 1 6e 0 1 6h
0 1 64 0 1 6e 0 1 64 k0 2 6e 0 2 1 0 4 6e 0 3 1 0 2 6e 4 1 6e 3 2 1 0 1 6e 0 1 64 0 1 6e 0 2 1 0
4 64 0 1 6e 2da 3 6e 3x 1 9 2o w 6e fe 1 62 0 1 6c 0 1 6g 0 1 66 0 2 68 2x 2 8 n9w 1 6e 4 a 6e w
2 6e 28 2 6e 7o 1 9 11 1 9 47 1 9 r i 6e 1l 3 64 11 1 9 2n 1 7 c 1 9 6n 1 6e 1 2 6e 0 1 64 2 2
6e 5 2 6e 1 1 6e 1g 1 9 6u 1 9 fn4 1 q ld 7 6e 0 7 64 0 2 6e r1 1 64 6a 1 64 45 5 6e 1aq 1 64 1
1 6e 14 1 6e 0 1 1 0 1 64 4 1 9 4l 1 6e 0 1 64 fx 4 6e 1t 5 6e 8t 2 6e 25 2 64 1 3 64 1y 2 64 0
3 6e 0 1 64 0 1 6e 0 4 64 1d 1 6e 0 1 64 0 1 6e 0 1 64 5c 1 9 15 1 9 e 1 9 1l 1 9 0 1 7 1x 3 6e
1c 2 9 1q 1 7 24 1 9 9 1 7 2y 1 9 0 1 7 4y 1 7 0 1 9 28 2 7 g 1 9 o 7 6e 3 5 6e 2h 3 9 35 1 9 3
1 7 n 1 6e 2r 1 9 0 1 7 6z 1 9 0 1 7 3i 1 9 3a 1 9 0 1 7 37 1 9 7h 1 9 0 1 7 76 2 9 4 1 7 4c 1 9
2b 1 9 i 1 9 29 1 9 bp 1 9 76 1 7 1 2 9 29 1 9 bt 2 9 d0s 1 9 1xc 5 1 1n 7 6e xl 2 6 f58 1 1 43q
2 60 0 3 1 3 1 6a 0 5 60 8 8 64 2 5 6e 0 2 64 u 4 6e 44 3 6e 2pn 7 6e 1 h 6e 2 7 6e 1 2 6e 1 5
6e 2s 1 6e 4g 7 6e af 1 6e 1p 4 6e e4 2 6g 0 1 64 0 1 6e 72 1 6e 0 1 64 6r 1 6e 2 1 6e 7 2 6e 5
1 6e d6 7 64 31 6 6e 0 1 7")

/-- The canonical combining class of a code point; 0 for a starter. -/
def combiningClass (n : Nat) : Nat :=
  match combiningTable.find? fun e => e.1.mem n with
  | some e => e.2
  | none => 0

/-- Full canonical decompositions: gap, length and code points. -/
def decompositionsFrom (fuel start : Nat) : List Nat → List (Nat × List Nat)
  | gap :: count :: rest =>
    match fuel with
    | 0 => []
    | fuel + 1 =>
      (start + gap, rest.take count) :: decompositionsFrom fuel (start + gap + 1) (rest.drop count)
  | _ => []

def decompositions : List (Nat × List Nat) :=
  let ns := numerals "
5c 2 1t lc 0 2 1t ld 0 2 1t le 0 2 1t lf 0 2 1t lk 0 2 1t lm 1 2 1v mf 0 2 1x lc 0 2 1x ld 0 2
1x le 0 2 1x lk 0 2 21 lc 0 2 21 ld 0 2 21 le 0 2 21 lk 1 2 26 lf 0 2 27 lc 0 2 27 ld 0 2 27 le
0 2 27 lf 0 2 27 lk 2 2 2d lc 0 2 2d ld 0 2 2d le 0 2 2d lk 0 2 2h ld 2 2 2p lc 0 2 2p ld 0 2 2p
le 0 2 2p lf 0 2 2p lk 0 2 2p lm 1 2 2r mf 0 2 2t lc 0 2 2t ld 0 2 2t le 0 2 2t lk 0 2 2x lc 0 2
2x ld 0 2 2x le 0 2 2x lk 1 2 32 lf 0 2 33 lc 0 2 33 ld 0 2 33 le 0 2 33 lf 0 2 33 lk 2 2 39 lc
0 2 39 ld 0 2 39 le 0 2 39 lk 0 2 3d ld 1 2 3d lk 0 2 1t lg 0 2 2p lg 0 2 1t li 0 2 2p li 0 2 1t
mg 0 2 2p mg 0 2 1v ld 0 2 2r ld 0 2 1v le 0 2 2r le 0 2 1v lj 0 2 2r lj 0 2 1v lo 0 2 2r lo 0 2
1w lo 0 2 2s lo 2 2 1x lg 0 2 2t lg 0 2 1x li 0 2 2t li 0 2 1x lj 0 2 2t lj 0 2 1x mg 0 2 2t mg
0 2 1x lo 0 2 2t lo 0 2 1z le 0 2 2v le 0 2 1z li 0 2 2v li 0 2 1z lj 0 2 2v lj 0 2 1z mf 0 2 2v
mf 0 2 20 le 0 2 2w le 2 2 21 lf 0 2 2x lf 0 2 21 lg 0 2 2x lg 0 2 21 li 0 2 2x li 0 2 21 mg 0 2
2x mg 0 2 21 lj 3 2 22 le 0 2 2y le 0 2 23 mf 0 2 2z mf 1 2 24 ld 0 2 30 ld 0 2 24 mf 0 2 30 mf
0 2 24 lo 0 2 30 lo 4 2 26 ld 0 2 32 ld 0 2 26 mf 0 2 32 mf 0 2 26 lo 0 2 32 lo 3 2 27 lg 0 2 33
lg 0 2 27 li 0 2 33 li 0 2 27 ln 0 2 33 ln 2 2 2a ld 0 2 36 ld 0 2 2a mf 0 2 36 mf 0 2 2a lo 0 2
36 lo 0 2 2b ld 0 2 37 ld 0 2 2b le 0 2 37 le 0 2 2b mf 0 2 37 mf 0 2 2b lo 0 2 37 lo 0 2 2c mf
0 2 38 mf 0 2 2c lo 0 2 38 lo 2 2 2d lf 0 2 39 lf 0 2 2d lg 0 2 39 lg 0 2 2d li 0 2 39 li 0 2 2d
lm 0 2 39 lm 0 2 2d ln 0 2 39 ln 0 2 2d mg 0 2 39 mg 0 2 2f le 0 2 3b le 0 2 2h le 0 2 3d le 0 2
2h lk 0 2 2i ld 0 2 3e ld 0 2 2i lj 0 2 3e lj 0 2 2i lo 0 2 3e lo x 2 27 m3 0 2 33 m3 d 2 2d m3
0 2 39 m3 s 2 1t lo 0 2 2p lo 0 2 21 lo 0 2 2x lo 0 2 27 lo 0 2 33 lo 0 2 2d lo 0 2 39 lo 0 3 2d
lk lg 0 3 39 lk lg 0 3 2d lk ld 0 3 39 lk ld 0 3 2d lk lo 0 3 39 lk lo 0 3 2d lk lc 0 3 39 lk lc
1 3 1t lk lg 0 3 2p lk lg 0 3 1t lj lg 0 3 2p lj lg 0 2 5i lg 0 2 6e lg 2 2 1z lo 0 2 2v lo 0 2
23 lo 0 2 2z lo 0 2 27 mg 0 2 33 mg 0 3 27 mg lg 0 3 33 mg lg 0 2 c7 lo 0 2 ia lo 0 2 2y lo 3 2
1z ld 0 2 2v ld 2 2 26 lc 0 2 32 lc 0 3 1t lm ld 0 3 2p lm ld 0 2 5i ld 0 2 6e ld 0 2 60 ld 0 2
6w ld 0 2 1t lr 0 2 2p lr 0 2 1t lt 0 2 2p lt 0 2 1x lr 0 2 2t lr 0 2 1x lt 0 2 2t lt 0 2 21 lr
0 2 2x lr 0 2 21 lt 0 2 2x lt 0 2 27 lr 0 2 33 lr 0 2 27 lt 0 2 33 lt 0 2 2a lr 0 2 36 lr 0 2 2a
lt 0 2 36 lt 0 2 2d lr 0 2 39 lr 0 2 2d lt 0 2 39 lt 0 2 2b me 0 2 37 me 0 2 2c me 0 2 38 me 2 2
20 lo 0 2 2w lo 6 2 1t lj 0 2 2p lj 0 2 1x mf 0 2 2t mf 0 3 27 lk lg 0 3 33 lk lg 0 3 27 lf lg 0
3 33 lf lg 0 2 27 lj 0 2 33 lj 0 3 27 lj lg 0 3 33 lj lg 0 2 2h lg 0 2 3d lg 7g 1 lc 0 1 ld 1 1
lv 0 2 lk ld 1b 1 jd 9 1 1n 6 2 4o ld 0 2 pd ld 0 1 53 0 2 ph ld 0 2 pj ld 0 2 pl ld 1 2 pr ld 1
2 px ld 0 2 q1 ld 0 3 qh lk ld p 2 pl lk 0 2 px lk 0 2 q9 ld 0 2 qd ld 0 2 qf ld 0 2 qh ld 0 3
qt lk ld p 2 qh lk 0 2 qt lk 0 2 qn ld 0 2 qt ld 0 2 qx ld 4 2 r6 ld 0 2 r6 lk 17 2 t1 lc 0 2 t1
lk 1 2 sz ld 3 2 sm lk 4 2 t6 ld 0 2 t4 lc 0 2 tf li a 2 t4 li v 2 u0 li m 2 tx lc 0 2 tx lk 1 2
tv ld 3 2 uu lk 4 2 u2 ld 0 2 u0 lc 0 2 ub li n 2 vo lr 0 2 vp lr 21 2 t2 li 0 2 ty li d 2 sw li
0 2 ts li 0 2 sw lk 0 2 ts lk 2 2 t1 li 0 2 tx li 2 2 yg lk 0 2 yh lk 0 2 t2 lk 0 2 ty lk 0 2 t3
lk 0 2 tz lk 2 2 t4 lg 0 2 u0 lg 0 2 t4 lk 0 2 u0 lk 0 2 ta lk 0 2 u6 lk 2 2 yw lk 0 2 yx lk 0 2
tp lk 0 2 ul lk 0 2 tf lg 0 2 ub lg 0 2 tf lk 0 2 ub lk 0 2 tf ln 0 2 ub ln 0 2 tj lk 0 2 uf lk
2 2 tn lk 0 2 uj lk 88 2 17r 18z 0 2 17r 190 0 2 18o 190 0 2 17r 191 0 2 18q 190 49 2 1cl 190 1
2 1c1 190 g 2 1ci 190 gl 2 1t4 1to 7 2 1tc 1to 2 2 1tf 1to z 2 1sl 1to 0 2 1sm 1to 0 2 1sn 1to 0
2 1ss 1to 0 2 1sx 1to 0 2 1sy 1to 0 2 1t7 1to 0 2 1tb 1to 2z 2 1xj 1xa 0 2 1xj 1xz f 2 1wh 1x8 0
2 1wi 1x8 1 2 1wv 1x8 2b 2 20i 20s 2 2 20o 20s y 2 1zq 20s 0 2 1zr 20s 0 2 1zw 20s 2 2 20b 20s
6h 2 287 28m 2 2 287 27y 0 2 287 28n f 2 275 27w 0 2 276 27w 1i 2 2aa 2c7 1h 2 2bq 2bi 0 2 2br
2bi 0 2 2bq 2c7 3f 2 2fa 2fq 3b 2 2in 2j9 6 2 2iu 2j9 0 2 2iu 2ja 1 2 2iu 2iq 0 3 2iu 2iq 2j9 3i
2 2me 2m6 0 2 2mf 2m6 0 2 2me 2mv 3x 2 2qh 2q2 1 2 2qh 2q7 0 3 2qh 2q7 2q2 0 2 2qh 2qn 9w 2 30i
33r 9 2 30s 33r 4 2 30x 33r 4 2 312 33r 4 2 317 33r c 2 30g 33p 9 2 31t 31u 1 2 31t 31w 0 2 33m
328 1 2 33n 328 8 2 31t 328 h 2 32q 33r 9 2 330 33r 4 2 335 33r 4 2 33a 33r 4 2 33f 33r c 2 32o
33p 30 2 36t 372 25b 2 5c5 5dh 1 2 5c7 5dh 1 2 5c9 5dh 1 2 5cb 5dh 1 2 5cd 5dh 3 2 5ch 5dh 14 2
5dm 5dh 1 2 5do 5dh 2 2 5dq 5dh 0 2 5dr 5dh 1 2 5du 5dh jg 2 1t md 0 2 2p md 0 2 1u lj 0 2 2q lj
0 2 1u mb 0 2 2q mb 0 2 1u mp 0 2 2q mp 0 3 1v mf ld 0 3 2r mf ld 0 2 1w lj 0 2 2s lj 0 2 1w mb
0 2 2s mb 0 2 1w mp 0 2 2s mp 0 2 1w mf 0 2 2s mf 0 2 1w ml 0 2 2s ml 0 3 1x lg lc 0 3 2t lg lc
0 3 1x lg ld 0 3 2t lg ld 0 2 1x ml 0 2 2t ml 0 2 1x mo 0 2 2t mo 0 3 1x mf li 0 3 2t mf li 0 2
1y lj 0 2 2u lj 0 2 1z lg 0 2 2v lg 0 2 20 lj 0 2 2w lj 0 2 20 mb 0 2 2w mb 0 2 20 lk 0 2 2w lk
0 2 20 mf 0 2 2w mf 0 2 20 mm 0 2 2w mm 0 2 21 mo 0 2 2x mo 0 3 21 lk ld 0 3 2x lk ld 0 2 23 ld
0 2 2z ld 0 2 23 mb 0 2 2z mb 0 2 23 mp 0 2 2z mp 0 2 24 mb 0 2 30 mb 0 3 24 mb lg 0 3 30 mb lg
0 2 24 mp 0 2 30 mp 0 2 24 ml 0 2 30 ml 0 2 25 ld 0 2 31 ld 0 2 25 lj 0 2 31 lj 0 2 25 mb 0 2 31
mb 0 2 26 lj 0 2 32 lj 0 2 26 mb 0 2 32 mb 0 2 26 mp 0 2 32 mp 0 2 26 ml 0 2 32 ml 0 3 27 lf ld
0 3 33 lf ld 0 3 27 lf lk 0 3 33 lf lk 0 3 27 lg lc 0 3 33 lg lc 0 3 27 lg ld 0 3 33 lg ld 0 2
28 ld 0 2 34 ld 0 2 28 lj 0 2 34 lj 0 2 2a lj 0 2 36 lj 0 2 2a mb 0 2 36 mb 0 3 2a mb lg 0 3 36
mb lg 0 2 2a mp 0 2 36 mp 0 2 2b lj 0 2 37 lj 0 2 2b mb 0 2 37 mb 0 3 2b ld lj 0 3 37 ld lj 0 3
2b lo lj 0 3 37 lo lj 0 3 2b mb lj 0 3 37 mb lj 0 2 2c lj 0 2 38 lj 0 2 2c mb 0 2 38 mb 0 2 2c
mp 0 2 38 mp 0 2 2c ml 0 2 38 ml 0 2 2d mc 0 2 39 mc 0 2 2d mo 0 2 39 mo 0 2 2d ml 0 2 39 ml 0 3
2d lf ld 0 3 39 lf ld 0 3 2d lg lk 0 3 39 lg lk 0 2 2e lf 0 2 3a lf 0 2 2e mb 0 2 3a mb 0 2 2f
lc 0 2 3b lc 0 2 2f ld 0 2 3b ld 0 2 2f lk 0 2 3b lk 0 2 2f lj 0 2 3b lj 0 2 2f mb 0 2 3b mb 0 2
2g lj 0 2 3c lj 0 2 2g lk 0 2 3c lk 0 2 2h lj 0 2 3d lj 0 2 2i le 0 2 3e le 0 2 2i mb 0 2 3e mb
0 2 2i mp 0 2 3e mp 0 2 2w mp 0 2 38 lk 0 2 3b lm 0 2 3d lm 1 2 an lj 4 2 1t mb 0 2 2p mb 0 2 1t
ll 0 2 2p ll 0 3 1t le ld 0 3 2p le ld 0 3 1t le lc 0 3 2p le lc 0 3 1t le ll 0 3 2p le ll 0 3
1t le lf 0 3 2p le lf 0 3 1t mb le 0 3 2p mb le 0 3 1t li ld 0 3 2p li ld 0 3 1t li lc 0 3 2p li
lc 0 3 1t li ll 0 3 2p li ll 0 3 1t li lf 0 3 2p li lf 0 3 1t mb li 0 3 2p mb li 0 2 1x mb 0 2
2t mb 0 2 1x ll 0 2 2t ll 0 2 1x lf 0 2 2t lf 0 3 1x le ld 0 3 2t le ld 0 3 1x le lc 0 3 2t le
lc 0 3 1x le ll 0 3 2t le ll 0 3 1x le lf 0 3 2t le lf 0 3 1x mb le 0 3 2t mb le 0 2 21 ll 0 2
2x ll 0 2 21 mb 0 2 2x mb 0 2 27 mb 0 2 33 mb 0 2 27 ll 0 2 33 ll 0 3 27 le ld 0 3 33 le ld 0 3
27 le lc 0 3 33 le lc 0 3 27 le ll 0 3 33 le ll 0 3 27 le lf 0 3 33 le lf 0 3 27 mb le 0 3 33 mb
le 0 3 27 m3 ld 0 3 33 m3 ld 0 3 27 m3 lc 0 3 33 m3 lc 0 3 27 m3 ll 0 3 33 m3 ll 0 3 27 m3 lf 0
3 33 m3 lf 0 3 27 m3 mb 0 3 33 m3 mb 0 2 2d mb 0 2 39 mb 0 2 2d ll 0 2 39 ll 0 3 2d m3 ld 0 3 39
m3 ld 0 3 2d m3 lc 0 3 39 m3 lc 0 3 2d m3 ll 0 3 39 m3 ll 0 3 2d m3 lf 0 3 39 m3 lf 0 3 2d m3 mb
0 3 39 m3 mb 0 2 2h lc 0 2 3d lc 0 2 2h mb 0 2 3d mb 0 2 2h ll 0 2 3d ll 0 2 2h lf 0 2 3d lf 6 2
q9 lv 0 2 q9 lw 0 3 q9 lv lc 0 3 q9 lw lc 0 3 q9 lv ld 0 3 q9 lw ld 0 3 q9 lv n6 0 3 q9 lw n6 0
2 pd lv 0 2 pd lw 0 3 pd lv lc 0 3 pd lw lc 0 3 pd lv ld 0 3 pd lw ld 0 3 pd lv n6 0 3 pd lw n6
0 2 qd lv 0 2 qd lw 0 3 qd lv lc 0 3 qd lw lc 0 3 qd lv ld 0 3 qd lw ld 2 2 ph lv 0 2 ph lw 0 3
ph lv lc 0 3 ph lw lc 0 3 ph lv ld 0 3 ph lw ld 2 2 qf lv 0 2 qf lw 0 3 qf lv lc 0 3 qf lw lc 0
3 qf lv ld 0 3 qf lw ld 0 3 qf lv n6 0 3 qf lw n6 0 2 pj lv 0 2 pj lw 0 3 pj lv lc 0 3 pj lw lc
0 3 pj lv ld 0 3 pj lw ld 0 3 pj lv n6 0 3 pj lw n6 0 2 qh lv 0 2 qh lw 0 3 qh lv lc 0 3 qh lw
lc 0 3 qh lv ld 0 3 qh lw ld 0 3 qh lv n6 0 3 qh lw n6 0 2 pl lv 0 2 pl lw 0 3 pl lv lc 0 3 pl
lw lc 0 3 pl lv ld 0 3 pl lw ld 0 3 pl lv n6 0 3 pl lw n6 0 2 qn lv 0 2 qn lw 0 3 qn lv lc 0 3
qn lw lc 0 3 qn lv ld 0 3 qn lw ld 2 2 pr lv 0 2 pr lw 0 3 pr lv lc 0 3 pr lw lc 0 3 pr lv ld 0
3 pr lw ld 2 2 qt lv 0 2 qt lw 0 3 qt lv lc 0 3 qt lw lc 0 3 qt lv ld 0 3 qt lw ld 0 3 qt lv n6
0 3 qt lw n6 1 2 px lw 1 3 px lw lc 1 3 px lw ld 1 3 px lw n6 0 2 qx lv 0 2 qx lw 0 3 qx lv lc 0
3 qx lw lc 0 3 qx lv ld 0 3 qx lw ld 0 3 qx lv n6 0 3 qx lw n6 0 2 q1 lv 0 2 q1 lw 0 3 q1 lv lc
0 3 q1 lw lc 0 3 q1 lv ld 0 3 q1 lw ld 0 3 q1 lv n6 0 3 q1 lw n6 0 2 q9 lc 0 2 q9 ld 0 2 qd lc 0
2 qd ld 0 2 qf lc 0 2 qf ld 0 2 qh lc 0 2 qh ld 0 2 qn lc 0 2 qn ld 0 2 qt lc 0 2 qt ld 0 2 qx
lc 0 2 qx ld 2 3 q9 lv n9 0 3 q9 lw n9 0 4 q9 lv lc n9 0 4 q9 lw lc n9 0 4 q9 lv ld n9 0 4 q9 lw
ld n9 0 4 q9 lv n6 n9 0 4 q9 lw n6 n9 0 3 pd lv n9 0 3 pd lw n9 0 4 pd lv lc n9 0 4 pd lw lc n9
0 4 pd lv ld n9 0 4 pd lw ld n9 0 4 pd lv n6 n9 0 4 pd lw n6 n9 0 3 qf lv n9 0 3 qf lw n9 0 4 qf
lv lc n9 0 4 qf lw lc n9 0 4 qf lv ld n9 0 4 qf lw ld n9 0 4 qf lv n6 n9 0 4 qf lw n6 n9 0 3 pj
lv n9 0 3 pj lw n9 0 4 pj lv lc n9 0 4 pj lw lc n9 0 4 pj lv ld n9 0 4 pj lw ld n9 0 4 pj lv n6
n9 0 4 pj lw n6 n9 0 3 qx lv n9 0 3 qx lw n9 0 4 qx lv lc n9 0 4 qx lw lc n9 0 4 qx lv ld n9 0 4
qx lw ld n9 0 4 qx lv n6 n9 0 4 qx lw n6 n9 0 3 q1 lv n9 0 3 q1 lw n9 0 4 q1 lv lc n9 0 4 q1 lw
lc n9 0 4 q1 lv ld n9 0 4 q1 lw ld n9 0 4 q1 lv n6 n9 0 4 q1 lw n6 n9 0 2 q9 li 0 2 q9 lg 0 3 q9
lc n9 0 2 q9 n9 0 3 q9 ld n9 1 2 q9 n6 0 3 q9 n6 n9 0 2 pd li 0 2 pd lg 0 2 pd lc 0 2 pd ld 0 2
pd n9 1 1 qh 2 2 4o n6 0 3 qf lc n9 0 2 qf n9 0 3 qf ld n9 1 2 qf n6 0 3 qf n6 n9 0 2 ph lc 0 2
ph ld 0 2 pj lc 0 2 pj ld 0 2 pj n9 0 2 69r lc 0 2 69r ld 0 2 69r n6 0 2 qh li 0 2 qh lg 0 3 qh
lk lc 0 3 qh lk ld 2 2 qh n6 0 3 qh lk n6 0 2 pl li 0 2 pl lg 0 2 pl lc 0 2 pl ld 1 2 6bi lc 0 2
6bi ld 0 2 6bi n6 0 2 qt li 0 2 qt lg 0 3 qt lk lc 0 3 qt lk ld 0 2 qp lv 0 2 qp lw 0 2 qt n6 0
3 qt lk n6 0 2 px li 0 2 px lg 0 2 px lc 0 2 px ld 0 2 pt lw 0 2 4o lc 0 2 4o ld 0 1 2o 2 3 qx
lc n9 0 2 qx n9 0 3 qx ld n9 1 2 qx n6 0 3 qx n6 n9 0 2 pr lc 0 2 pr ld 0 2 q1 lc 0 2 q1 ld 0 2
q1 n9 0 1 50 2 1 6bm 0 1 6bn 84 1 q1 3 1 23 0 2 1t lm 32 2 6mo mw 0 2 6mq mw i 2 6ms mw u 2 6og
mw 0 2 6ok mw 0 2 6oi mw 1g 2 6pv mw 4 2 6q0 mw 2 2 6q3 mw n 2 6qr mw 1 2 6qt mw q 2 6rg mw 2 2
6rn mw 2 2 6rp mw 1 2 6rs mw m 2 1p mw 1 2 6sh mw a 2 6rx mw 0 2 1o mw 0 2 1q mw 0 2 6sk mw 0 2
6sl mw 2 2 6sy mw 0 2 6sz mw 2 2 6t2 mw 0 2 6t3 mw 6 2 6t6 mw 0 2 6t7 mw 2 2 6te mw 0 2 6tf mw 2
2 6ti mw 0 2 6tj mw y 2 6ua mw 0 2 6ug mw 0 2 6uh mw 0 2 6uj mw 1c 2 6t8 mw 0 2 6t9 mw 0 2 6tt
mw 0 2 6tu mw 6 2 6uq mw 0 2 6ur mw 0 2 6us mw 0 2 6ut mw 1n 1 9hk 0 1 9hl 1ip 2 8gt mw 12n 2
9jf 9ll 1 2 9jh 9ll 1 2 9jj 9ll 1 2 9jl 9ll 1 2 9jn 9ll 1 2 9jp 9ll 1 2 9jr 9ll 1 2 9jt 9ll 1 2
9jv 9ll 1 2 9jx 9ll 1 2 9jz 9ll 1 2 9k1 9ll 2 2 9k4 9ll 1 2 9k6 9ll 1 2 9k8 9ll 6 2 9kf 9ll 0 2
9kf 9lm 1 2 9ki 9ll 0 2 9ki 9lm 1 2 9kl 9ll 0 2 9kl 9lm 1 2 9ko 9ll 0 2 9ko 9lm 1 2 9kr 9ll 0 2
9kr 9lm m 2 9ja 9ll 9 2 9lp 9ll d 2 9m3 9ll 1 2 9m5 9ll 1 2 9m7 9ll 1 2 9m9 9ll 1 2 9mb 9ll 1 2
9md 9ll 1 2 9mf 9ll 1 2 9mh 9ll 1 2 9mj 9ll 1 2 9ml 9ll 1 2 9mn 9ll 1 2 9mp 9ll 2 2 9ms 9ll 1 2
9mu 9ll 1 2 9mw 9ll 6 2 9n3 9ll 0 2 9n3 9lm 1 2 9n6 9ll 0 2 9n6 9lm 1 2 9n9 9ll 0 2 9n9 9lm 1 2
9nc 9ll 0 2 9nc 9lm 1 2 9nf 9ll 0 2 9nf 9lm m 2 9ly 9ll 2 2 9nz 9ll 0 2 9o0 9ll 0 2 9o1 9ll 0 2
9o2 9ll 3 2 9od 9ll 13i9 1 rpk 0 1 kc4 0 1 s7e 0 1 rt4 0 1 lw1 0 1 fg2 0 1 gkl 0 1 vj0 0 1 vj0 0
1 hn5 0 1 ssx 0 1 gw7 0 1 hmw 0 1 jcm 0 1 ne1 0 1 p6t 0 1 qin 0 1 qt6 0 1 r20 0 1 sjz 0 1 kxu 0
1 ljv 0 1 mah 0 1 mvy 0 1 q4d 0 1 sq2 0 1 uep 0 1 fia 0 1 ghh 0 1 l50 0 1 mjf 0 1 qi5 0 1 v8e 0
1 ifk 0 1 m3v 0 1 qfh 0 1 r50 0 1 jih 0 1 pnc 0 1 qvz 0 1 iq2 0 1 kd3 0 1 lm2 0 1 mpo 0 1 slq 0
1 fpi 0 1 g53 0 1 gda 0 1 jwk 0 1 l3n 0 1 mj4 0 1 nhj 0 1 pa9 0 1 qh2 0 1 qjg 0 1 s1b 0 1 tv6 0
1 upb 0 1 v7e 0 1 nt8 0 1 nzz 0 1 otc 0 1 q15 0 1 t1g 0 1 vb3 0 1 rfa 0 1 hjz 0 1 iro 0 1 okg 0
1 pdq 0 1 mle 0 1 nuy 0 1 rsy 0 1 ttj 0 1 hjs 0 1 i8y 0 1 kyb 0 1 lp6 0 1 lxr 0 1 oq7 0 1 oxj 0
1 tor 0 1 gcy 0 1 pe3 0 1 g64 0 1 g5o 0 1 o4c 0 1 ou6 0 1 q29 0 1 tpx 0 1 rk0 0 1 jin 0 1 kxu 0
1 rge 0 1 fg9 0 1 i5j 0 1 iz6 0 1 mtj 0 1 n74 0 1 gev 0 1 nwb 0 1 fr3 0 1 iw9 0 1 ff1 0 1 lho 0
1 k1k 0 1 opu 0 1 gjn 0 1 hge 0 1 ni9 0 1 q4p 0 1 re2 0 1 la2 0 1 sds 0 1 lfs 0 1 jjy 0 1 put 0
1 jog 0 1 n6t 0 1 fji 0 1 g2x 0 1 g5l 0 1 kn5 0 1 oo7 0 1 prj 0 1 rf6 0 1 ssv 0 1 gdx 0 1 gn6 0
1 ho3 0 1 ir0 0 1 k3p 0 1 m4e 0 1 nxm 0 1 tkd 0 1 ui2 0 1 vbr 0 1 vda 0 1 gbf 0 1 kau 0 1 l87 0
1 sbm 0 1 ino 0 1 j9s 0 1 jcw 0 1 jve 0 1 lyb 0 1 mdl 0 1 n0p 0 1 o22 0 1 ovo 0 1 pdb 0 1 s9y 0
1 q9a 0 1 sgz 0 1 t3e 0 1 g7r 0 1 gbn 0 1 gql 0 1 ma0 0 1 r0i 0 1 re2 0 1 iq1 0 1 iyd 0 1 jnf 0
1 l9q 0 1 oji 0 1 mt1 0 1 fl0 0 1 h6h 0 1 i5j 0 1 iii 0 1 izg 0 1 muq 0 1 mzt 0 1 p7e 0 1 pc6 0
1 svo 0 1 tti 0 1 tvs 0 1 u1k 0 1 fpn 0 1 o1a 0 1 ss4 0 1 trs 0 1 j4x 0 1 fie 0 1 fyy 0 1 i5q 0
1 i7z 0 1 k2h 0 1 kxu 0 1 mha 0 1 ncy 0 1 q9o 0 1 sjg 0 1 vil 0 1 k94 0 1 tny 0 1 gax 0 1 kfv 0
1 kj7 0 1 lkx 0 1 luk 0 1 mx5 0 1 n6h 0 1 nsb 0 1 opc 0 1 u3i 0 1 g31 0 1 je6 0 1 tq0 0 1 fu3 0
1 ie1 0 1 lpm 0 1 sa2 0 1 ivf 0 1 j7o 0 1 kk7 0 1 mtj 0 1 tqe 0 1 g89 0 1 glr 0 1 i91 0 1 k5v 0
1 kem 0 1 ko8 0 1 lid 0 1 mx2 0 1 naa 0 1 p6h 0 1 r0v 0 1 r1d 0 1 sss 0 1 tsy 0 1 gfz 0 1 lve 0
1 gm5 0 1 mhc 0 1 n14 0 1 qgq 0 1 tr7 0 1 uvr 0 1 vbz 0 1 kgn 0 1 lor 0 1 pns 0 1 o97 0 1 obk 0
1 olu 0 1 mo0 0 1 m8p 0 1 riw 0 1 fk0 0 1 px2 0 1 g8q 0 1 g7b 0 1 ip2 0 1 jir 0 1 onq 0 1 i2t 0
1 ljy 0 1 kac 0 1 saj 0 1 qx8 0 1 tot 0 1 r63 0 1 iqb 0 1 g1s 0 1 gxs 2 1 hga 1 1 k8k 2 1 g66 0
1 mqy 0 1 ngq 0 1 ny4 0 1 nz2 0 1 nz9 0 1 o0f 0 1 tw6 0 1 on2 0 1 p8d 1 1 qhe 1 1 rg8 2 1 shk 0
1 sn1 3 1 u7j 0 1 u7w 0 1 u94 0 1 v5g 0 1 sm6 0 1 trr 0 1 fqm 0 1 fzb 0 1 g25 0 1 gcp 0 1 gdg 0
1 ggh 0 1 gwt 0 1 gzq 0 1 h2g 0 1 hfk 0 1 hig 0 1 i90 0 1 i9a 0 1 j2s 0 1 j8o 0 1 j9q 0 1 jci 0
1 k0f 0 1 k4i 0 1 k9d 0 1 kn9 0 1 lmf 0 1 lqy 0 1 lya 0 1 mem 0 1 mjv 0 1 mxu 0 1 ntd 0 1 ny6 0
1 nyh 0 1 nyg 0 1 nyo 0 1 nyu 0 1 nz1 0 1 o0d 0 1 o0e 0 1 o5c 0 1 o75 0 1 og0 0 1 ovo 0 1 ow9 0
1 oxt 0 1 p6a 0 1 pad 0 1 pnx 0 1 prt 0 1 prt 0 1 q53 0 1 r2o 0 1 r6e 0 1 rgh 0 1 ri1 0 1 rtf 0
1 ruw 0 1 sdy 0 1 shk 0 1 tsz 0 1 u0v 0 1 u2j 0 1 j1x 0 1 36cu 0 1 pp4 2 1 ffq 0 1 g51 0 1 g2w 0
1 fpc 0 1 g1x 0 1 g3k 0 1 gcn 0 1 ge2 0 1 gwt 0 1 gut 0 1 gwp 0 1 gyq 0 1 hga 0 1 hir 0 1 hms 0
1 hn8 0 1 huq 0 1 i08 0 1 iqa 0 1 iqh 0 1 iuh 0 1 iwd 0 1 j4o 0 1 j7y 0 1 j60 0 1 j9q 0 1 j8g 0
1 jci 0 1 jec 0 1 jpg 0 1 jrw 0 1 jte 0 1 k0m 0 1 k8k 0 1 kd3 0 1 kd7 0 1 keu 0 1 l89 0 1 la2 0
1 lkx 0 1 lwb 0 1 lvv 0 1 lya 0 1 m5a 0 1 mem 0 1 nmv 0 1 mk5 0 1 mnj 0 1 mqy 0 1 n01 0 1 n46 0
1 n5n 0 1 nbx 0 1 nbz 0 1 ngq 0 1 nh7 0 1 nhw 0 1 nka 0 1 nk0 0 1 nv0 0 1 o8h 0 1 og0 0 1 ol7 0
1 orf 0 1 ovo 0 1 p4u 0 1 pad 0 1 pxu 0 1 q27 0 1 qrd 0 1 r41 0 1 r5y 0 1 r6e 0 1 ren 0 1 rg8 0
1 rez 0 1 rgh 0 1 rge 0 1 rfx 0 1 ri1 0 1 rka 0 1 ruw 0 1 sag 0 1 sj6 0 1 srd 0 1 sxi 0 1 tq4 0
1 tsz 0 1 tw6 0 1 tzv 0 1 u0v 0 1 u17 0 1 u2j 0 1 umq 0 1 vj0 0 1 313e 0 1 3138 0 1 33dh 0 1 brx
0 1 cns 0 1 cop 0 1 39e1 0 1 3bgw 0 1 3i6r 0 1 vgj 0 1 vim 1v 2 15l 14k 1 2 16a 14n a 2 161 14x
0 2 161 14y 0 3 161 14s 14x 0 3 161 14s 14y 0 2 15c 14n 0 2 15c 14o 0 2 15c 14s 0 2 15d 14s 0 2
15e 14s 0 2 15f 14s 0 2 15g 14s 0 2 15h 14s 0 2 15i 14s 1 2 15k 14s 0 2 15l 14s 0 2 15m 14s 0 2
15n 14s 0 2 15o 14s 1 2 15q 14s 1 2 15s 14s 0 2 15t 14s 1 2 15v 14s 0 2 15w 14s 1 2 15y 14s 0 2
15z 14s 0 2 160 14s 0 2 161 14s 0 2 162 14s 0 2 15h 14p 0 2 15d 14v 0 2 15n 14v 0 2 15w 14v 22i
2 1fpu lj q 2 1fq2 lj 245 2 1huh 1hve 1 2 1huj 1hve e 2 1hut 1hve 3m 2 1hyp 1hyf 0 2 1hyq 1hyf
ez 2 1idj 1ida 0 2 1idj 1idz 1i 2 1if6 1ih5 1 2 1if8 1igr 8 2 1iff 1igy 2 2 1ifk 1ih5 1f 2 1igy
1igy 1 2 1igy 1igo 0 2 1igy 1ih5 6q 2 1int 1inu 0 2 1int 1ink 1 2 1int 1inx 6z 2 1iuw 1iun 0 2
1iux 1iun os 2 1jjp 1jjk e7c 2 1xr2 1xr2 0 2 1xr2 1xrd 0 2 1xr2 1xr3 0 2 1xrd 1xr3 0 2 1xr2 1xr4
0 3 1xr2 1xr2 1xr3 0 3 1xr2 1xrd 1xr3 0 3 1xr2 1xr2 1xr4 2f3 2 206f 206f 0 2 206b 206f 0 3 206b
206f 206f jqr 2 2jx3 2jxh 0 2 2jx4 2jxh 0 3 2jx4 2jxh 2jxq 0 3 2jx4 2jxh 2jxr 0 3 2jx4 2jxh 2jxs
0 3 2jx4 2jxh 2jxt 0 3 2jx4 2jxh 2jxu 2e 2 2jzt 2jxh 0 2 2jzu 2jxh 0 3 2jzt 2jxh 2jxq 0 3 2jzu
2jxh 2jxq 0 3 2jzt 2jxh 2jxr 0 3 2jzu 2jxh 2jxr 1m4f 1 fgd 0 1 fg8 0 1 fgh 0 1 2tcy 0 1 fog 0 1
fqm 0 1 fqz 0 1 fsy 0 1 fwa 0 1 fx5 0 1 fzb 0 1 fyn 0 1 ae6 0 1 2ud6 0 1 g25 0 1 g2c 0 1 g2s 0 1
g3b 0 1 2u58 0 1 aex 0 1 g2v 0 1 g3x 0 1 2u6j 0 1 g47 0 1 g4k 0 1 fkc 0 1 g4s 0 1 g51 0 1 3ly7 0
1 g6t 0 1 g77 0 1 afz 0 1 g8r 0 1 g92 0 1 gaa 0 1 gaf 0 1 ahh 0 1 gcn 0 1 gcp 0 1 gdg 0 1 ge2 0
1 ged 0 1 gee 0 1 gev 0 1 gg9 0 1 ggh 0 1 ggq 0 1 ghf 0 1 ghp 0 1 ghr 0 1 ghr 0 1 ghr 0 1 2v58 0
1 m7k 0 1 gju 0 1 gkf 0 1 2vdv 0 1 gkr 0 1 gkx 0 1 gli 0 1 gpq 0 1 gmw 0 1 gnc 0 1 go8 0 1 gpu 0
1 gs6 0 1 gsw 0 1 gur 0 1 gv7 0 1 gw4 0 1 gw4 0 1 gwp 0 1 gx7 0 1 gxf 0 1 gxu 0 1 h7a 0 1 gzq 0
1 h7b 0 1 h1t 0 1 h2s 0 1 g7b 0 1 hke 0 1 hce 0 1 hdg 0 1 he5 0 1 haj 0 1 hf6 0 1 hf5 0 1 hik 0
1 2x9g 0 1 hki 0 1 hkn 0 1 hl2 0 1 hlm 0 1 hlu 0 1 hnm 0 1 2xm0 0 1 2xnu 0 1 hrg 0 1 hsr 0 1 ht3
0 1 hqw 0 1 huu 0 1 aum 0 1 av0 0 1 hzc 0 1 i0u 0 1 i0u 0 1 2y88 0 1 i4j 0 1 i54 0 1 i5j 0 1 i5v
0 1 2yhk 0 1 i67 0 1 i6e 0 1 itv 0 1 i76 0 1 ayp 0 1 i8w 0 1 i9a 0 1 ibk 0 1 ia5 0 1 2z1g 0 1
if7 0 1 2z1i 0 1 ige 0 1 igb 0 1 igs 0 1 ijl 0 1 ijm 0 1 b3j 0 1 ikd 0 1 ilk 0 1 im5 0 1 ind 0 1
b4y 0 1 2zr7 0 1 b5o 0 1 ipc 0 1 ipf 0 1 ipi 0 1 iq2 0 1 3pg2 0 1 iri 0 1 3035 0 1 3035 0 1 poh
0 1 isi 0 1 isi 0 1 b7r 0 1 335k 0 1 3cgq 0 1 iua 0 1 iuj 0 1 b8j 0 1 ivu 0 1 ix9 0 1 ixj 0 1
iyh 0 1 j29 0 1 bay 0 1 ba4 0 1 j2s 0 1 30t0 0 1 j47 0 1 j7s 0 1 j7w 0 1 j7y 0 1 j7w 0 1 j96 0 1
j9q 0 1 jaq 0 1 jac 0 1 jan 0 1 jby 0 1 jci 0 1 jcm 0 1 jdc 0 1 jdn 0 1 jfh 0 1 jht 0 1 jis 0 1
jm8 0 1 31n0 0 1 jlp 0 1 jjw 0 1 jmw 0 1 jnn 0 1 jqc 0 1 31td 0 1 js2 0 1 jph 0 1 jop 0 1 bhq 0
1 ju1 0 1 jum 0 1 jvh 0 1 juf 0 1 bjg 0 1 k0f 0 1 k18 0 1 32mi 0 1 k4j 0 1 kc8 0 1 k7d 0 1 bo9 0
1 k9d 0 1 bns 0 1 bms 0 1 g42 0 1 g45 0 1 kcg 0 1 k9o 0 1 pf1 0 1 deh 0 1 kd3 0 1 kd7 0 1 kdd 0
1 kf2 0 1 ker 0 1 33cz 0 1 bpl 0 1 kje 0 1 kg5 0 1 klu 0 1 kn9 0 1 33hp 0 1 kni 0 1 kkf 0 1 kr8
0 1 brx 0 1 ksi 0 1 kv7 0 1 kx6 0 1 l2g 0 1 33xf 0 1 l3v 0 1 bvc 0 1 l5t 0 1 34br 0 1 l78 0 1
bwu 0 1 l82 0 1 l9b 0 1 la2 0 1 la3 0 1 34p9 0 1 2yvf 0 1 34sa 0 1 le6 0 1 354s 0 1 lhb 0 1 lhp
0 1 lev 0 1 ljq 0 1 lku 0 1 lmf 0 1 lkx 0 1 lm1 0 1 lmg 0 1 lmt 0 1 357i 0 1 lkk 0 1 lrj 0 1 lta
0 1 c37 0 1 lvv 0 1 lvr 0 1 35jl 0 1 lq1 0 1 m0e 0 1 35ni 0 1 35ou 0 1 m2u 0 1 m61 0 1 m5a 0 1
m57 0 1 c5y 0 1 m6i 0 1 m7x 0 1 m7r 0 1 m99 0 1 2u5h 0 1 mdh 0 1 368z 0 1 mfw 0 1 36i3 0 1 mjs 0
1 mk5 0 1 mkw 0 1 36yw 0 1 mm8 0 1 mmt 0 1 3779 0 1 37dg 0 1 mt6 0 1 mtn 0 1 cdo 0 1 mud 0 1 ce0
0 1 ce0 0 1 myv 0 1 mzg 0 1 n01 0 1 n0l 0 1 n2i 0 1 cgr 0 1 n50 0 1 386u 0 1 n5q 0 1 389e 0 1
n74 0 1 2zrz 0 1 nbk 0 1 38v5 0 1 38vs 0 1 38zo 0 1 cn0 0 1 cnc 0 1 nhw 0 1 394j 0 1 394i 0 1
395l 0 1 396b 0 1 nj2 0 1 nj3 0 1 nj3 0 1 nka 0 1 cop 0 1 nm3 0 1 cp2 0 1 cra 0 1 39r1 0 1 nri 0
1 nt8 0 1 nv0 0 1 ctf 0 1 3a5i 0 1 nyu 0 1 3a8q 0 1 3a9x 0 1 o0f 0 1 o2z 0 1 cvj 0 1 o5c 0 1 o5m
0 1 o5r 0 1 3at8 0 1 3b1j 0 1 3b1j 0 1 oa6 0 1 d1e 0 1 3b8r 0 1 og6 0 1 og9 0 1 d2f 0 1 3beo 0 1
onm 0 1 d5s 0 1 oo8 0 1 oo3 0 1 oow 0 1 3c06 0 1 orn 0 1 d8h 0 1 ouf 0 1 ow2 0 1 oxx 0 1 d9w 0 1
3ciw 0 1 3cjr 0 1 dax 0 1 3cnt 0 1 p6i 0 1 3cqm 0 1 p79 0 1 pa2 0 1 pad 0 1 3d22 0 1 3d43 0 1
pcw 0 1 3d7s 0 1 pdc 0 1 33a7 0 1 ded 0 1 pf6 0 1 phf 0 1 dfv 0 1 pj2 0 1 hx1 0 1 3dlz 0 1 3dmd
0 1 33bn 0 1 33bw 0 1 poh 0 1 pok 0 1 sda 0 1 dij 0 1 psh 0 1 psb 0 1 pst 0 1 gc3 0 1 ptd 0 1
ptf 0 1 ptp 0 1 puu 0 1 3ebg 0 1 put 0 1 pwd 0 1 pyb 0 1 q0d 0 1 pwj 0 1 q0t 0 1 q1z 0 1 q53 0 1
pxv 0 1 q16 0 1 q18 0 1 q1o 0 1 3eie 0 1 3eqz 0 1 3emt 0 1 dnv 0 1 q9d 0 1 q9f 0 1 qae 0 1 3g0a
0 1 qck 0 1 3f3g 0 1 dp9 0 1 dpd 0 1 3f75 0 1 3ff6 0 1 dpn 0 1 qj4 0 1 qjg 0 1 qjr 0 1 qjt 0 1
qll 0 1 qko 0 1 qoe 0 1 qn6 0 1 qrd 0 1 qp4 0 1 qqz 0 1 qrq 0 1 dsn 0 1 qu9 0 1 qv5 0 1 dtl 0 1
qxs 0 1 qxv 0 1 3giv 0 1 r13 0 1 r1a 0 1 dv9 0 1 r22 0 1 aez 0 1 3gz2 0 1 3h46 0 1 dz2 0 1 dzb 0
1 rds 0 1 rfx 0 1 rka 0 1 rpx 0 1 3hrc 0 1 rsb 0 1 rsx 0 1 rvf 0 1 rxz 0 1 3i9b 0 1 2upw 0 1 s0b
0 1 rzw 0 1 s1c 0 1 2uvy 0 1 s7o 0 1 sag 0 1 3jki 0 1 3jl9 0 1 sk4 0 1 smp 0 1 snl 0 1 3ju6 0 1
snv 0 1 svs 0 1 t07 0 1 t08 0 1 sxo 0 1 t89 0 1 t91 0 1 3ksa 0 1 tjf 0 1 ej9 0 1 tkn 0 1 3l2v 0
1 eli 0 1 ts3 0 1 iia 0 1 tur 0 1 3ltx 0 1 3lzu 0 1 epa 0 1 epi 0 1 u00 0 1 3mdm 0 1 er6 0 1
3mhi 0 1 u17 0 1 u17 0 1 u21 0 1 3mpi 0 1 u76 0 1 eur 0 1 u95 0 1 ucn 0 1 ude 0 1 uf2 0 1 ez2 0
1 3nsg 0 1 umq 0 1 uv4 0 1 v0d 0 1 f66 0 1 f71 0 1 v3b 0 1 3owe 0 1 f7c 0 1 3oxx 0 1 3p5a 0 1
3p8x 0 1 vcr 0 1 f9y 0 1 veh 0 1 vem 0 1 vet 0 1 vf3 0 1 vfa 0 1 vgb 0 1 3pxc"
  decompositionsFrom ns.length 0 ns

/-- Three numbers at a time. -/
def triples : List Nat → List (Nat × Nat × Nat)
  | a :: b :: c :: rest => (a, b, c) :: triples rest
  | _ => []

/-- The pairs that have a composite: first, second, composite. -/
def composites : List (Nat × Nat × Nat) := triples (numerals "
1o mw 6su 1p mw 6sg 1q mw 6sv 1t lc 5c 1t ld 5d 1t le 5e 1t lf 5f 1t lg 74 1t li 76 1t lj fa 1t
lk 5g 1t ll 61u 1t lm 5h 1t lo ct 1t lr e8 1t lt ea 1t mb 61s 1t md 5xc 1t mg 78 1u lj 5xe 1u mb
5xg 1u mp 5xi 1v ld 7a 1v le 7c 1v lj 7e 1v lo 7g 1v mf 5j 1w lj 5xm 1w lo 7i 1w mb 5xo 1w mf
5xs 1w ml 5xu 1w mp 5xq 1x lc 5k 1x ld 5l 1x le 5m 1x lf 62k 1x lg 7m 1x li 7o 1x lj 7q 1x lk 5n
1x ll 62i 1x lo 7u 1x lr ec 1x lt ee 1x mb 62g 1x mf fc 1x mg 7s 1x ml 5y0 1x mo 5y2 1y lj 5y6
1z ld dw 1z le 7w 1z lg 5y8 1z li 7y 1z lj 80 1z lo di 1z mf 82 20 le 84 20 lj 5ya 20 lk 5ye 20
lo f2 20 mb 5yc 20 mf 5yg 20 mm 5yi 21 lc 5o 21 ld 5p 21 le 5q 21 lf 88 21 lg 8a 21 li 8c 21 lj
8g 21 lk 5r 21 ll 62w 21 lo cv 21 lr eg 21 lt ei 21 mb 62y 21 mg 8e 21 mo 5yk 22 le 8k 23 ld 5yo
23 lo dk 23 mb 5yq 23 mf 8m 23 mp 5ys 24 ld 8p 24 lo 8t 24 mb 5yu 24 mf 8r 24 ml 5z0 24 mp 5yy
25 ld 5z2 25 lj 5z4 25 mb 5z6 26 lc e0 26 ld 8z 26 lf 5t 26 lj 5z8 26 lo 93 26 mb 5za 26 mf 91
26 ml 5ze 26 mp 5zc 27 lc 5u 27 ld 5v 27 le 5w 27 lf 5x 27 lg 98 27 li 9a 27 lj fi 27 lk 5y 27
ll 632 27 ln 9c 27 lo cx 27 lr ek 27 lt em 27 m3 bk 27 mb 630 27 mg dm 28 ld 5zo 28 lj 5zq 2a ld
9g 2a lj 5zs 2a lo 9k 2a lr eo 2a lt eq 2a mb 5zu 2a mf 9i 2a mp 5zy 2b ld 9m 2b le 9o 2b lj 600
2b lo 9s 2b mb 602 2b me ew 2b mf 9q 2c lj 60a 2c lo 9w 2c mb 60c 2c me ey 2c mf 9u 2c ml 60g 2c
mp 60e 2d lc 61 2d ld 62 2d le 63 2d lf a0 2d lg a2 2d li a4 2d lk 64 2d ll 63q 2d lm a6 2d ln
a8 2d lo cz 2d lr es 2d lt eu 2d m3 bz 2d mb 63o 2d mc 60i 2d mg aa 2d ml 60m 2d mo 60k 2e lf
60s 2e mb 60u 2f lc 60w 2f ld 60y 2f le ac 2f lj 612 2f lk 610 2f mb 614 2g lj 616 2g lk 618 2h
lc 642 2h ld 65 2h le ae 2h lf 648 2h lg fm 2h lj 61a 2h lk ag 2h ll 646 2h mb 644 2i ld ah 2i
le 61c 2i lj aj 2i lo al 2i mb 61e 2i mp 61g 2p lc 68 2p ld 69 2p le 6a 2p lf 6b 2p lg 75 2p li
77 2p lj fb 2p lk 6c 2p ll 61v 2p lm 6d 2p lo cu 2p lr e9 2p lt eb 2p mb 61t 2p md 5xd 2p mg 79
2q lj 5xf 2q mb 5xh 2q mp 5xj 2r ld 7b 2r le 7d 2r lj 7f 2r lo 7h 2r mf 6f 2s lj 5xn 2s lo 7j 2s
mb 5xp 2s mf 5xt 2s ml 5xv 2s mp 5xr 2t lc 6g 2t ld 6h 2t le 6i 2t lf 62l 2t lg 7n 2t li 7p 2t
lj 7r 2t lk 6j 2t ll 62j 2t lo 7v 2t lr ed 2t lt ef 2t mb 62h 2t mf fd 2t mg 7t 2t ml 5y1 2t mo
5y3 2u lj 5y7 2v ld dx 2v le 7x 2v lg 5y9 2v li 7z 2v lj 81 2v lo dj 2v mf 83 2w le 85 2w lj 5yb
2w lk 5yf 2w lo f3 2w mb 5yd 2w mf 5yh 2w mm 5yj 2w mp 61i 2x lc 6k 2x ld 6l 2x le 6m 2x lf 89
2x lg 8b 2x li 8d 2x lk 6n 2x ll 62x 2x lo cw 2x lr eh 2x lt ej 2x mb 62z 2x mg 8f 2x mo 5yl 2y
le 8l 2y lo ds 2z ld 5yp 2z lo dl 2z mb 5yr 2z mf 8n 2z mp 5yt 30 ld 8q 30 lo 8u 30 mb 5yv 30 mf
8s 30 ml 5z1 30 mp 5yz 31 ld 5z3 31 lj 5z5 31 mb 5z7 32 lc e1 32 ld 90 32 lf 6p 32 lj 5z9 32 lo
94 32 mb 5zb 32 mf 92 32 ml 5zf 32 mp 5zd 33 lc 6q 33 ld 6r 33 le 6s 33 lf 6t 33 lg 99 33 li 9b
33 lj fj 33 lk 6u 33 ll 633 33 ln 9d 33 lo cy 33 lr el 33 lt en 33 m3 bl 33 mb 631 33 mg dn 34
ld 5zp 34 lj 5zr 36 ld 9h 36 lj 5zt 36 lo 9l 36 lr ep 36 lt er 36 mb 5zv 36 mf 9j 36 mp 5zz 37
ld 9n 37 le 9p 37 lj 601 37 lo 9t 37 mb 603 37 me ex 37 mf 9r 38 lj 60b 38 lk 61j 38 lo 9x 38 mb
60d 38 me ez 38 mf 9v 38 ml 60h 38 mp 60f 39 lc 6x 39 ld 6y 39 le 6z 39 lf a1 39 lg a3 39 li a5
39 lk 70 39 ll 63r 39 lm a7 39 ln a9 39 lo d0 39 lr et 39 lt ev 39 m3 c0 39 mb 63p 39 mc 60j 39
mg ab 39 ml 60n 39 mo 60l 3a lf 60t 3a mb 60v 3b lc 60x 3b ld 60z 3b le ad 3b lj 613 3b lk 611
3b lm 61k 3b mb 615 3c lj 617 3c lk 619 3d lc 643 3d ld 71 3d le af 3d lf 649 3d lg fn 3d lj 61b
3d lk 73 3d ll 647 3d lm 61l 3d mb 645 3e ld ai 3e le 61d 3e lj ak 3e lo am 3e mb 61f 3e mp 61h
4o lc 6b1 4o ld p1 4o n6 69t 5e lc 61y 5e ld 61w 5e lf 622 5e ll 620 5g lg da 5h ld e2 5i ld e4
5i lg de 5j ld 5xk 5m lc 62o 5m ld 62m 5m lf 62s 5m ll 62q 5r ld 5ym 5w lc 636 5w ld 634 5w lf
63a 5w ll 638 5x ld 5zg 5x lg fg 5x lk 5zi 5y lg fe 60 ld e6 64 lc d7 64 ld d3 64 lg d1 64 lo d5
6a lc 61z 6a ld 61x 6a lf 623 6a ll 621 6c lg db 6d ld e3 6e ld e5 6e lg df 6f ld 5xl 6i lc 62p
6i ld 62n 6i lf 62t 6i ll 62r 6n ld 5yn 6s lc 637 6s ld 635 6s lf 63b 6s ll 639 6t ld 5zh 6t lg
fh 6t lk 5zj 6u lg ff 6w ld e7 70 lc d8 70 ld d4 70 lg d2 70 lo d6 76 lc 628 76 ld 626 76 lf 62c
76 ll 62a 77 lc 629 77 ld 627 77 lf 62d 77 ll 62b 7m lc 5xw 7m ld 5xy 7n lc 5xx 7n ld 5xz 98 lc
5zk 98 ld 5zm 99 lc 5zl 99 ld 5zn 9m lj 604 9n lj 605 9s lj 606 9t lj 607 a0 ld 60o a1 ld 60p a2
lk 60q a3 lk 60r an lj 61n bk lc 63g bk ld 63e bk lf 63k bk ll 63i bk mb 63m bl lc 63h bl ld 63f
bl lf 63l bl ll 63j bl mb 63n bz lc 63u bz ld 63s bz lf 63y bz ll 63w bz mb 640 c0 lc 63v c0 ld
63t c0 lf 63z c0 ll 63x c0 mb 641 c7 lo dq dm lg do dn lg dp fa lg dc fb lg dd fc li 5y4 fd li
5y5 fi lg fk fj lg fl ia lo dr pd lc 69m pd ld p2 pd lg 69l pd li 69k pd lv 64o pd lw 64p pd n9
69o ph lc 6a0 ph ld p4 ph lv 654 ph lw 655 pj lc 6a2 pj ld p5 pj lv 65k pj lw 65l pj n9 6a4 pl
lc 6ai pl ld p6 pl lg 6ah pl li 6ag pl lk q2 pl lv 660 pl lw 661 pr lc 6bc pr ld p8 pr lv 66g pr
lw 66h pt lw 6b0 px lc 6ay px ld pa px lg 6ax px li 6aw px lk q3 px lw 66x q1 lc 6be q1 ld pb q1
lv 67c q1 lw 67d q1 n9 6bg q4 n9 69g q6 n9 69w q9 lc 67k q9 ld q4 q9 lg 69d q9 li 69c q9 lv 64g
q9 lw 64h q9 n6 69i q9 n9 69f qd lc 67m qd ld q5 qd lv 64w qd lw 64x qf lc 67o qf ld q6 qf lv
65c qf lw 65d qf n6 69y qf n9 69v qh lc 67q qh ld q7 qh lg 6a9 qh li 6a8 qh lk qy qh lv 65s qh
lw 65t qh n6 6ae qn lc 67s qn ld r0 qn lv 668 qn lw 669 qp lv 6as qp lw 6at qt lc 67u qt ld r1
qt lg 6ap qt li 6ao qt lk qz qt lv 66o qt lw 66p qt n6 6au qx lc 67w qx ld r2 qx lv 674 qx lw
675 qx n6 6ba qx n9 6b7 qy lc 6aa qy ld pc qy n6 6af qz lc 6aq qz ld q8 qz n6 6av r2 n9 6b8 r6
ld r7 r6 lk r8 sm lk sn sw li y8 sw lk ya sz ld sj t1 lc sg t1 li ye t1 lk sh t2 li xt t2 lk yk
t3 lk ym t4 lc st t4 lg yq t4 li t5 t4 lk ys t6 ld ss ta lk yu tf lg z2 tf li su tf lk z4 tf ln
z6 tj lk z8 tn lk zc tp lk z0 ts li y9 ts lk yb tv ld ur tx lc uo tx li yf tx lk up ty li xu ty
lk yl tz lk yn u0 lc v1 u0 lg yr u0 li u1 u0 lk yt u2 ld v0 u6 lk yv ub lg z3 ub li v2 ub lk z5
ub ln z7 uf lk z9 uj lk zd ul lk z1 uu lk uv vo lr vq vp lr vr yg lk yi yh lk yj yw lk yy yx lk
yz 17r 18z 17m 17r 190 17n 17r 191 17p 18o 190 17o 18q 190 17q 1c1 190 1c2 1ci 190 1cj 1cl 190
1c0 1t4 1to 1t5 1tc 1to 1td 1tf 1to 1tg 1xj 1xa 1xn 1xj 1xz 1xo 287 27y 28b 287 28m 288 287 28n
28c 2aa 2c7 2ac 2bq 2bi 2bu 2bq 2c7 2bw 2br 2bi 2bv 2fa 2fq 2fc 2in 2j9 2io 2iu 2iq 2iy 2iu 2j9
2iv 2iu 2ja 2iw 2iy 2j9 2iz 2me 2m6 2mi 2me 2mv 2mk 2mf 2m6 2mj 2qh 2q2 2qi 2qh 2q7 2qk 2qh 2qn
2qm 2qk 2q2 2ql 36t 372 36u 5c5 5dh 5c6 5c7 5dh 5c8 5c9 5dh 5ca 5cb 5dh 5cc 5cd 5dh 5ce 5ch 5dh
5ci 5dm 5dh 5dn 5do 5dh 5dp 5dq 5dh 5ds 5dr 5dh 5dt 5du 5dh 5dv 5yu lg 5yw 5yv lg 5yx 5zu lg 5zw
5zv lg 5zx 602 lj 608 603 lj 609 61s le 624 61s li 62e 61t le 625 61t li 62f 62g le 62u 62h le
62v 630 le 63c 631 le 63d 64g lc 64i 64g ld 64k 64g n6 64m 64g n9 680 64h lc 64j 64h ld 64l 64h
n6 64n 64h n9 681 64i n9 682 64j n9 683 64k n9 684 64l n9 685 64m n9 686 64n n9 687 64o lc 64q
64o ld 64s 64o n6 64u 64o n9 688 64p lc 64r 64p ld 64t 64p n6 64v 64p n9 689 64q n9 68a 64r n9
68b 64s n9 68c 64t n9 68d 64u n9 68e 64v n9 68f 64w lc 64y 64w ld 650 64x lc 64z 64x ld 651 654
lc 656 654 ld 658 655 lc 657 655 ld 659 65c lc 65e 65c ld 65g 65c n6 65i 65c n9 68g 65d lc 65f
65d ld 65h 65d n6 65j 65d n9 68h 65e n9 68i 65f n9 68j 65g n9 68k 65h n9 68l 65i n9 68m 65j n9
68n 65k lc 65m 65k ld 65o 65k n6 65q 65k n9 68o 65l lc 65n 65l ld 65p 65l n6 65r 65l n9 68p 65m
n9 68q 65n n9 68r 65o n9 68s 65p n9 68t 65q n9 68u 65r n9 68v 65s lc 65u 65s ld 65w 65s n6 65y
65t lc 65v 65t ld 65x 65t n6 65z 660 lc 662 660 ld 664 660 n6 666 661 lc 663 661 ld 665 661 n6
667 668 lc 66a 668 ld 66c 669 lc 66b 669 ld 66d 66g lc 66i 66g ld 66k 66h lc 66j 66h ld 66l 66o
lc 66q 66o ld 66s 66o n6 66u 66p lc 66r 66p ld 66t 66p n6 66v 66x lc 66z 66x ld 671 66x n6 673
674 lc 676 674 ld 678 674 n6 67a 674 n9 68w 675 lc 677 675 ld 679 675 n6 67b 675 n9 68x 676 n9
68y 677 n9 68z 678 n9 690 679 n9 691 67a n9 692 67b n9 693 67c lc 67e 67c ld 67g 67c n6 67i 67c
n9 694 67d lc 67f 67d ld 67h 67d n6 67j 67d n9 695 67e n9 696 67f n9 697 67g n9 698 67h n9 699
67i n9 69a 67j n9 69b 67k n9 69e 67o n9 69u 67w n9 6b6 69i n9 69j 69r lc 6a5 69r ld 6a6 69r n6
6a7 69y n9 69z 6ba n9 6bb 6bi lc 6al 6bi ld 6am 6bi n6 6an 6mo mw 6my 6mq mw 6mz 6ms mw 6ni 6og
mw 6od 6oi mw 6of 6ok mw 6oe 6pv mw 6pw 6q0 mw 6q1 6q3 mw 6q4 6qr mw 6qs 6qt mw 6qu 6rg mw 6rl
6rn mw 6ro 6rp mw 6rr 6rs mw 6rt 6rx mw 6st 6sh mw 6si 6sk mw 6sw 6sl mw 6sx 6sy mw 6t0 6sz mw
6t1 6t2 mw 6t4 6t3 mw 6t5 6t6 mw 6tc 6t7 mw 6td 6t8 mw 6w0 6t9 mw 6w1 6te mw 6tg 6tf mw 6th 6ti
mw 6tk 6tj mw 6tl 6tt mw 6w2 6tu mw 6w3 6ua mw 6uk 6ug mw 6ul 6uh mw 6um 6uj mw 6un 6uq mw 6wa
6ur mw 6wb 6us mw 6wc 6ut mw 6wd 9ja 9ll 9lg 9jf 9ll 9jg 9jh 9ll 9ji 9jj 9ll 9jk 9jl 9ll 9jm 9jn
9ll 9jo 9jp 9ll 9jq 9jr 9ll 9js 9jt 9ll 9ju 9jv 9ll 9jw 9jx 9ll 9jy 9jz 9ll 9k0 9k1 9ll 9k2 9k4
9ll 9k5 9k6 9ll 9k7 9k8 9ll 9k9 9kf 9ll 9kg 9kf 9lm 9kh 9ki 9ll 9kj 9ki 9lm 9kk 9kl 9ll 9km 9kl
9lm 9kn 9ko 9ll 9kp 9ko 9lm 9kq 9kr 9ll 9ks 9kr 9lm 9kt 9lp 9ll 9lq 9ly 9ll 9o4 9m3 9ll 9m4 9m5
9ll 9m6 9m7 9ll 9m8 9m9 9ll 9ma 9mb 9ll 9mc 9md 9ll 9me 9mf 9ll 9mg 9mh 9ll 9mi 9mj 9ll 9mk 9ml
9ll 9mm 9mn 9ll 9mo 9mp 9ll 9mq 9ms 9ll 9mt 9mu 9ll 9mv 9mw 9ll 9mx 9n3 9ll 9n4 9n3 9lm 9n5 9n6
9ll 9n7 9n6 9lm 9n8 9n9 9ll 9na 9n9 9lm 9nb 9nc 9ll 9nd 9nc 9lm 9ne 9nf 9ll 9ng 9nf 9lm 9nh 9nz
9ll 9o7 9o0 9ll 9o8 9o1 9ll 9o9 9o2 9ll 9oa 9od 9ll 9oe 1fpu lj 1fpl 1fq2 lj 1fqc 1huh 1hve 1hui
1huj 1hve 1huk 1hut 1hve 1huz 1hyp 1hyf 1hym 1hyq 1hyf 1hyn 1idj 1ida 1idn 1idj 1idz 1ido 1if6
1ih5 1if7 1if8 1igr 1if9 1iff 1igy 1ifi 1ifk 1ih5 1ifl 1igy 1igo 1ih3 1igy 1igy 1ih1 1igy 1ih5
1ih4 1int 1ink 1inw 1int 1inu 1inv 1int 1inx 1iny 1iuw 1iun 1iuy 1iux 1iun 1iuz 1jjp 1jjk 1jjs
1xr2 1xr2 1xr5 1xr2 1xr3 1xr7 1xr2 1xr4 1xr9 1xr2 1xrd 1xr6 1xr5 1xr3 1xra 1xr5 1xr4 1xrc 1xr6
1xr3 1xrb 1xrd 1xr3 1xr8 206b 206f 206h 206f 206f 206g 206h 206f 206i")

/-- The parts of a Hangul syllable. -/
def hangulParts (n : Nat) : List Nat :=
  let i := n - 0xAC00
  let tail := if i % 28 = 0 then [] else [0x11A7 + i % 28]
  (0x1100 + i / 588) :: (0x1161 + i % 588 / 28) :: tail

/-- The full canonical decomposition of a code point. -/
def decompose (n : Nat) : List Nat :=
  if n < 0xC0 then [n]
  else if 0xAC00 ≤ n ∧ n ≤ 0xD7A3 then hangulParts n
  else
    match decompositions.find? fun e => e.1 == n with
    | some e => e.2
    | none => [n]

/-- Puts each run of marks in order of combining class; the order is stable. -/
def orderMarks : List (Nat × Nat) → List (Nat × Nat) → List (Nat × Nat)
  | marks, [] => marks.mergeSort fun a b => a.2 ≤ b.2
  | marks, (n, k) :: rest =>
    if k = 0 then (marks.mergeSort fun a b => a.2 ≤ b.2) ++ (n, 0) :: orderMarks [] rest
    else orderMarks (marks ++ [(n, k)]) rest

/-- The composite of two code points, if there is one. -/
def composite (a b : Nat) : Option Nat :=
  if 0x1100 ≤ a ∧ a ≤ 0x1112 ∧ 0x1161 ≤ b ∧ b ≤ 0x1175 then
    some (0xAC00 + ((a - 0x1100) * 21 + (b - 0x1161)) * 28)
  else if 0xAC00 ≤ a ∧ a ≤ 0xD7A3 ∧ (a - 0xAC00) % 28 = 0 ∧ 0x11A8 ≤ b ∧ b ≤ 0x11C2 then
    some (a + (b - 0x11A7))
  else (composites.find? fun e => e.1 == a && e.2.1 == b).map (·.2.2)

/-- Joins a starter with the marks and starters after it. `held` are the marks that stay, in
reverse, and `last` is the class of the last of them, if any. -/
def joinFrom (starter : Nat) (held : List Nat) (last : Option Nat) :
    List (Nat × Nat) → List Nat
  | [] => starter :: held.reverse
  | (n, k) :: rest =>
    let blocked : Bool := match last with
      | none => false
      | some l => l ≥ k
    match (if blocked then none else composite starter n) with
    | some m => joinFrom m held last rest
    | none =>
      if k = 0 then starter :: (held.reverse ++ joinFrom n [] none rest)
      else joinFrom starter (n :: held) (some k) rest

/-- Joins pairs that have a composite. Marks before the first starter stay. -/
def joinAll : List (Nat × Nat) → List Nat
  | [] => []
  | (n, 0) :: rest => joinFrom n [] none rest
  | (n, _ + 1) :: rest => n :: joinAll rest

/-- The composed normal form. -/
def compose (ns : List Nat) : List Nat :=
  joinAll (orderMarks [] ((ns.flatMap decompose).map fun n => (n, combiningClass n)))

end UrlMask.Unicode
