import UrlMask.Unicode.Runs

/-!
# The age of a code point

The version of the standard in which a code point was first assigned. `Age.upTo` collects what
was assigned in a version or before it.
-/
namespace UrlMask.Unicode

namespace Age

/-- The versions in order, each with its two spellings. -/
def versions : List (List String) :=
  [["1.1", "v11"], ["2.0", "v20"], ["2.1", "v21"], ["3.0", "v30"], ["3.1", "v31"], ["3.2", "v32"],
   ["4.0", "v40"], ["4.1", "v41"], ["5.0", "v50"], ["5.1", "v51"], ["5.2", "v52"], ["6.0", "v60"],
   ["6.1", "v61"], ["6.2", "v62"], ["6.3", "v63"], ["7.0", "v70"], ["8.0", "v80"], ["9.0", "v90"],
   ["10.0", "v100"], ["11.0", "v110"], ["12.0", "v120"], ["12.1", "v121"], ["13.0", "v130"],
   ["14.0", "v140"], ["15.0", "v150"], ["15.1", "v151"], ["16.0", "v160"], ["17.0", "v170"]]

/-- The runs of code points of equal age; the number after the last version is "unassigned". -/
def table : List (Interval × Nat) := parts "
0 dy 3 4 0 u 3 8 5 1 6 1 3 i 6 3 7 b 8 e 0 2h 3 5 6 2 0 1b 3 1 0 a 3 5 6 h 0 1y 3 9 5 1 6 8 7 5
6 3 0 2 3 1 5 d 9 4 0 2 9 2 s 2 0 1 8 3 0 1 f 1 s 4 0 7 s 1 0 1 s 1 0 k s 1 0 18 9 1 0 7 3 1 5 2
0 1 3 1 0 1 3 1 0 1 3 1 0 1 3 1 0 i 4 2 5 1 6 5 7 4 3 1 0 c 3 1 0 1u 3 1 0 c 3 1 0 15 9 1 3 2 5
2 3 4 0 1h 5 2 0 2 5 2 0 2 5 2 8 1 0 s 3 2 0 8 7 2 0 2 8 6 5 g 8 4 9 g a 2 b 2 f 8 s 1 0 12 s 2
0 7 j 1 0 13 j 1 0 1 3 1 s 2 f 2 c 1 s 1 1 h 7 1 1 d 0 a 8 1 0 9 1 1 7 3 s 8 0 r s 4 j 1 0 5 s b
6 4 c 1 f 1 9 5 7 1 0 1 6 9 9 5 0 1 e 1 n 1 7 1 0 1 b 1 0 q 9 5 0 j 3 3 6 3 7 6 b 1 0 e 5 2 0 20
3 2 0 5 3 1 0 f 3 1 0 u 6 2 0 a 3 5 6 1 3 e s 1 3 u 6 3 3 r s 2 6 3 7 u 9 i 3 1d 5 1 s e 8 1n s
2 j 3 a 1a s 2 a f s 1 b s s 2 b 1 s 1 i b s 5 n v r 1 n 2 s 5 q 1 n 8 c 1 f 1 c b f 6 g 2 n 1 h
8 m a n b j 1 h f g 1 c r f 1 a 1 0 3 6 1 0 1h b 2 0 i a 1 b 1 0 5 a 1 b 2 0 p 9 2 b 5 f 1 a 2 8
2 7 1 8 2 f 1 0 3 s 1 0 8 s 2 0 2 s 2 0 m s 1 0 7 s 1 0 1 s 3 0 4 s 2 0 1 6 1 0 7 s 2 0 2 s 2 0
3 7 1 s 8 0 1 s 4 0 2 s 1 0 5 s 2 0 l a 1 i 2 j 1 s 2 6 1 0 1 6 1 s 1 0 6 s 4 0 2 s 2 0 m s 1 0
7 s 1 0 2 s 1 0 2 s 1 0 2 s 2 0 1 s 1 0 5 s 4 0 2 s 2 0 3 s 3 9 1 s 7 0 4 s 1 0 1 s 7 0 f 9 1 j
1 s a 0 3 s 1 0 7 6 1 0 1 s 1 0 3 s 1 0 m s 1 0 7 s 1 0 2 s 1 0 5 s 2 0 a s 1 0 3 s 1 0 3 s 2 0
1 s f 0 1 6 3 s 2 0 a c 1 6 1 s 7 g 1 i 6 s 1 0 3 s 1 0 8 s 2 0 2 s 2 0 m s 1 0 7 s 1 0 2 s 1 6
1 0 4 s 2 0 8 9 1 s 2 0 2 s 2 0 3 s 7 m 1 0 2 s 4 0 2 s 1 0 3 9 2 s 2 0 b 6 1 b 6 s a 0 2 s 1 0
6 s 3 0 3 s 1 0 4 s 3 0 2 s 1 0 1 s 1 0 2 s 3 0 2 s 3 0 3 s 3 0 8 7 1 0 3 s 4 0 5 s 3 0 3 s 1 0
4 s 2 9 1 s 6 0 1 s e 7 1 0 c 6 8 s 5 f 1 0 3 j 1 0 8 s 1 0 3 s 1 0 n s 1 0 a f 1 0 5 s 2 n 1 9
1 0 7 s 1 0 3 s 1 0 4 s 7 0 2 s 1 9 2 g 1 s 1 r 1 n 1 s 2 0 2 9 2 s 2 0 a s 7 k 1 9 8 h 1 f 1 0
2 j 1 0 8 s 1 0 3 s 1 0 n s 1 0 a s 1 0 5 s 2 6 2 0 7 s 1 0 3 s 1 0 4 s 7 0 2 s 5 r 1 n 1 0 1 s
1 0 2 8 2 s 2 0 a s 1 8 2 o 1 s c i 1 f 1 0 2 m 1 0 8 s 1 0 3 s 1 0 n b 1 0 g b 1 i 2 9 1 0 6 9
1 s 1 0 3 s 1 0 4 b 1 h 1 s 4 h 3 0 1 h 7 g 1 0 2 9 2 s 2 0 a 9 6 h 3 9 7 s 1 m 1 3 2 s 1 3 i s
3 3 o s 1 3 9 s 1 3 1 s 2 3 7 s 3 3 1 s 4 3 6 s 1 3 1 s 1 3 8 s 6 f a s 2 3 3 s c 0 1m s 4 0 t s
11 0 2 s 1 0 1 s 1 k 1 0 2 k 1 0 1 s 1 k 1 0 1 k 6 0 4 k 1 0 7 k 1 0 3 s 1 0 1 s 1 0 1 k 2 0 2 k
1 0 d k 1 0 3 s 2 0 5 s 1 0 1 s 1 0 6 o 1 s 1 0 a s 2 0 2 c 2 s w 1 20 s 1 1 x 3 1 9 2 s 4 1 r b
4 1 6 3 1 1 1 s 1 1 l 3 3 1 7 3 1 1 1 3 3 s 1 3 f s 1 9 1 3 1 7 2 9 3 a 4 b 2 s 11 3 y 9 1 3 5 9
1 3 2 9 1 3 7 9 3 3 4 9 6 3 q 9 1s a 4 9 2 0 12 s 1 c 1 s 5 c 1 s 2 0 13 5 2 7 2 0 1 7 1 c 3 0
2i a 5 0 1w a 5 0 2a a 6 3 7 7 1 3 1r 7 1 3 1 s 1 3 4 s 2 3 7 s 1 3 1 s 1 3 4 s 2 3 13 7 1 3 1 s
1 3 4 s 2 3 v 7 1 3 1 s 1 3 4 s 2 3 7 s 1 3 1 s 1 3 4 s 2 3 7 7 1 3 7 s 1 3 n 7 1 3 v 7 1 3 1 s
1 3 4 s 2 3 7 7 1 3 13 7 1 3 j s 2 b 2 7 2 3 s s 3 7 q s 6 3 2d g 1 s 2 g 6 s 2 a 1 3 hi a 9 3 t
s 3 3 29 f 8 s 7 5 d n 1 5 7 n 1 s 9 n 1 5 n s 9 5 k s c 5 d s 1 5 3 s 1 5 2 s c 3 2l 6 1 s 2 3
a s 6 6 a s 6 3 f n 1 3 a s 6 3 2g j 1 s 7 3 16 9 1 s 5 a 1y s a 6 t f 2 s 1 6 c s 4 6 c s 4 6 1
s 3 6 16 s 2 6 5 s b 7 16 a 2 s 4 7 q s 6 7 a a 1 s 3 7 2 6 w 7 s s 2 7 2 a 1r s 1 a t s 2 a b s
6 a a s 6 a e s 2 f f m 2 n e r f s 2 r c s k 8 24 n 1 s 1 q 2 8 19 n 2 q 1 9 17 c 3 9 c c 6 b
1g s 8 b 4 9 1k s 3 9 f s 3 9 1f h 9 q 2 s 5 j 17 s 2 j 3 c 8 s 8 a z c 4 i 1 f 2 k 1 s 5 6 30 7
2g 8 7 9 s f f i 4 n 1 h 1 b 1 a 1 8 2 0 4b 1 1 9 4 0 2i 9 6 0 m s 2 0 6 s 2 0 12 s 2 0 6 s 2 0
8 s 1 0 1 s 1 0 1 s 1 0 1 s 1 0 v s 2 0 1h s 1 0 f s 1 0 e s 2 0 6 s 1 0 j s 2 0 3 s 1 0 9 s 1 0
1b 3 1 0 n 5 1 3 6 5 5 6 2 7 2 5 1 7 7 5 5 9 1 s 1 e 4 0 7 5 1 s 2 0 r s 1 7 5 b 8 s 3 0 b 1 1 2
1 3 3 5 2 7 4 a 3 b 1 d 1 f 3 g 1 i 1 n 1 r 1 s e 0 i 3 2 5 7 7 1 8 4 9 1 s f 0 1l 3 2 6 1 7 1 5
f 7 1 8 2 9 1 a 3 0 1c 3 1 8 1 9 4 a 1 g 2 s 4 0 2j 3 9 5 c 0 6q 5 e 0 1 3 1 0 3d 3 1 5 1 3 u 5
1g 6 2 7 b 8 c a 1 b b f 7 h 4 i 1 0 11 3 2 q 3 s m 0 b s l 0 3v 5 k 6 1 0 46 5 a 0 28 3 8 5 8 0
k 6 2 5 2 7 1 3 1 0 2e 3 2 5 c 7 2 5 a 6 8 7 b 9 1 a 2 6 2 7 g 8 1 9 a a 3 9 4 a a b 1 a j b 1 a
1 b 4 a o f 1 0 4 b 1 0 4 b 2 0 s b 1 0 z b 1 0 1 b 1 0 4 b 3 0 1 a 1 0 7 b 2 0 7 5 e 0 v b 3 0
o b 1 0 e b 1 7 7 8 4 c 1 9 1 c 1 b 2 5 s 9 4 5 g 3 74 5 e8 6 e 7 6 8 7 9 5 8 4 9 15 f 3 9 5 a 5
f q s 2 f w r 1 m 1 f y j 3 f c k 1 f 8 i 1 j p g 4 j f k 1 7 1b n 1 7 1b n 1 8 d 9 3 a 1 9 3 8
4 9 6 a 2 7 2z a 7 c 2 s 5 7 19 s 1 c 1 s 5 c 1 s 2 7 1i c 2 s 7 7 1 b 1 s e b 1 7 n s 9 7 7 s 1
7 7 s 1 7 7 s 1 7 7 s 1 7 7 s 1 7 7 s 1 7 7 s 1 7 7 s 1 9 w 7 o 9 4 7 2 9 j a 1 c a f 7 h 2 i 5
j 5 k 1 m 3 n b s y 3 q s 1 3 2h s c 3 5y s q 3 c p 4 0 1k 3 3 5 3 3 1 0 1 s 1 0 2c 5 2 s 2 0 6
5 2 0 2m 5 1 s 5 0 14 9 1 i 1 j 1 s 1 0 2m s 1 0 g 3 o b 3 m 5 7 g 9 k q 2 s 9 p 1 5 g 0 t 6 2 s
1 0 10 a c 6 1 5 f 0 s 6 2 7 1 0 1e 5 f 0 c 6 4 0 1b l 1 0 3b 6 4 0 2r 6 2 0 v 6 1 3 52u m a 6
1s 0 g4m 7 m 9 8 a 8 c 1 g 9 i l j 5 m d n 3 3 wd s 3 3 i 5 2 3 g 5 1 3 c 5 1 3 3 5 1 3 1 s 9 a
1c 9 8c s k 9 w b 2 9 i c 8 9 s f 6 g 1 c 1 a 2g s 8 7 n 8 4 9 5 8 2 9 2z b 2 g 1 b 2 c 2 f c b
a c 1 f 3 h 1 j 1 f 2 g 6 j 2 k 6 n 2 k 5 m 4 q 3 r 2 n 2 r 1 n 1 r 1 n 5 q 3 s k r 1 n 3 m 2 f
1 c 2 b 1 9 5 7 18 m 1 s 3 a a s 6 8 1k s 8 9 1x h 1 s 8 9 c s 6 a s g 2 j 2 9 2c s b 9 1 a t s
3 a 26 s 1 a b s 4 a 2 f v s 1 9 1j s 9 9 e s 2 9 a s 2 9 4 a s f 4 a 1v s o a 5 c n s a b 6 s 2
b 6 s 2 b 6 s 9 b 7 s 1 b 7 s 1 f 1c g 4 f 2 k 2 m 4 s 4 g 28 a 1a s 2 a a s 6 1 8mc s c a n s 4
a 1d s 4 1 1kw 0 566 c 2 5 1n a 3 s 2 7 2y s 12 0 7 s c 0 5 s 5 3 1 0 p s 1 0 5 s 1 0 1 s 1 0 2
s 1 0 2 s 1 0 30 b g n 1 q g 0 a5 n g 0 1s q 2 0 1i q 7 n 1 4 w 0 c 5 1 6 1 n 2 5 g 7 a s 6 0 4
9 3 f 7 g 2 0 l 5 2 6 2 0 a s 1 0 j s 1 0 4 s 4 0 3 5 1 0 1 s 1 0 3r s 2 0 1 s 1 0 2m 5 2 0 2m s
3 0 6 s 2 0 6 s 2 0 6 s 2 0 3 s 3 0 7 s 1 0 7 s a 3 3 2 1 0 3 6 c s 1 6 q s 1 6 j s 1 6 2 s 1 6
f s 2 6 e s y 6 3f s 5 6 3 s 4 6 19 s 3 6 9 7 23 f 2 h 2 s 1 9 c m 1 s 3 f 1 s 1b 9 1a s 3m 9 t
s 3 9 1d s f f s s 4 4 v f 1 4 4 s 9 i 3 4 r s 5 f 17 s 5 6 u s 1 6 1 7 10 s 4 7 e s 16 4 12 6 2
4 12 6 28 s 2 6 a s 6 h 10 s 4 h 10 s 4 f 14 s 8 f 1g s b f 1 n b s 1 n f s 1 n 7 s 1 n 2 s 1 n
b s 1 n f s 1 n 7 s 1 n 2 s 3 q 1g s c f 8n s 9 f m s a f 8 s o n 6 s 1 n 16 s 1 n 9 s 1x 6 6 s
2 6 1 s 1 6 18 s 1 6 2 s 3 6 1 s 2 6 1 a m s 1 a 9 f 1r s 8 f 9 s 1c g j s 1 g 2 s 5 g 5 8 q a 2
s 3 8 1 9 q s 5 9 1 r q s 12 c 1k s 4 g 2 c 2 g g s 2 g 1a 7 4 s 1 7 2 s 5 7 8 s 1 7 3 s 1 7 r j
2 s 2 7 3 s 4 7 9 j 1 s 7 7 9 s 7 a w f w s w f 13 s 4 f c s 9 a 1i s 3 a t s 2 a r s 5 a 8 f i
s 7 f 4 s c f 7 s 28 a 21 s 1j g 1f s d g 1f s 7 g 6 j 14 s 8 j a s 6 q 12 s 3 q t s 8 r 2 s 5s
a v s 1 m 16 s 1 m 3 s 2 m 2 s g q 3 r 3 s 8 r 9 s x r 2 q 1 o 3 j 14 s 8 j 16 s m n q s 12 m s
s k k n s 9 b 26 s 4 b u n 6 s 9 f 1 a 1u n 1 s a j 1 s 2 c p s 7 c a s 6 c 1h s 1 c e j 3 m 1 s
8 f 13 s 9 c 21 g 4 f 1 m 2 c a f 1 g 5 s 1 f k s b f i s 1 f 17 h 1 o 3 s 1q g 7 s 1 g 1 s 1 g
4 s 1 g f s 1 g b s 6 f 1n s 5 f a s 6 g 1 f 3 s 1 f 8 s 2 f 2 s 2 f m s 1 f 7 s 1 f 2 s 1 f 5 s
1 j 1 f 9 s 2 f 2 s 2 f 3 s 2 g 1 s 6 f 1 s 5 f 7 s 2 f 7 s 3 f 5 s b q a s 1 q 1 s 2 q 1 s 1 q
12 s 1 q a s 1 q 1 s 2 q 1 s 1 q 4 s 1 q a s 1 q 2 s 8 q 2 s t h 2i m 1 h 1 s 1 h 1 j 1 k 1 m 2
s u f 20 s 8 f a s 4m f 1i s 2 f i g k s y f 1x s b f a s 6 h d s j c 1k k 1 n 1 s 6 c a s 6 q k
s s g q j 1 s 2 g f s 4 g g n 7 s 55 j 1o s 2s f 2b s c f 1 m 7 s 2 m 1 s 2 m 8 s 1 m 2 s 1 m u
s 1 m 2 s 2 m c s 9 m a s 1y k 8 s 2 k 1a s 2 k b s r i 20 s 8 i 1g k 2 i n j 1 i 5 s d n g f 1l
s 7 o a s 2e r 8 s 2g q y s e q a s 6 h 9 s 1 h 19 s 1 h e s a h t s 3 h w s 2 h m s 1 h e s 21
i 7 s 1 i 2 s 1 i 18 s 3 i 1 s 1 i 2 s 1 i 9 s 8 i a s 6 j 6 s 1 j 2 s 1 j 11 s 1 j 2 s 1 j 6 s
7 j a s 6 r 18 s 4 r a s 6u j p s 7 o h s 1 o 15 s 3 o s q 1 s 2d m 1 s f k 1e s d k 1 8 of f 16
g 1 s 2u 8 2r f c s 1 8 4 f 1 s b g 5g s 218 n 2r s d a tr o 1 k 9 o t s a q 32z s 5 g g7 s 5a1
q 1m s 1c6 b ft s 7 f v s 1 f a s 4 f 2 n 27 s 1 n a s 6 f u s 2 f 6 s a f 1y s a f a s 1 f 7 s
1 f l s 5 f j s c0 q 1m s 5i j 2j s 5 r p s 2 r p s 18 c 1x k 6 s 4 k 1 c 1b k 9 s 7 c h s 1s h
1 i 1 k 2 m 1 s b m 2 r 5 s 9 h 4q5 j 5 k 6 r 8 h kz m df s 15 q 1 m 9 r m s 2p r 37 s 6pp n 4 s
1 n 7 s 1 n 2 s 1 b 2 i 7x n 4 s f o 1 s t k 3 s 2 o 1 s e k 4 s 8 i b0 s 1s4 f 2z s 5 f d s 3 f
9 s 7 f a s 2 f 8 s 318 q 6y r 3 s 3 q c4 s 6 r n s f r h s f n 1a s 2 n n s 9 n 38 s 1o 4 6u s
a 4 13 s 2 9 1 4 50 g b n 2 s l 7 1y s 3e o k s c j k s c 6 2f s 9 8 i j 7 s 3r 4 2d s 1 4 1z s
1 4 2 s 2 4 1 s 2 4 2 s 2 4 4 s 1 4 c s 1 4 1 s 1 4 4 6 1 4 2 s 1 4 1t s 1 4 4 s 2 4 8 s 1 4 7 s
1 4 s s 1 4 4 s 1 4 5 s 1 4 1 s 3 4 7 s 1 4 9e 7 2 s 2 4 82 8 2 s 2 4 1e g i4 s f g 5 s 1 g f s
uo n v s 6 o 6 s 5x h 7 s 1 h h s 2 h 7 s 1 h 2 s 1 h 5 s 5 o 1q s x o 1 s 34 k 19 s 3 k e s 2 k
a s 4 k 2 s 8w n v s h k 1m s 5 k 1 s cw o 16 s 5y q 17 s 4 q 1 s 5c r v s 1 r m s 8 r 2 s 68 n
7 s 1 n 4 s 1 n 2 s 1 n f s 1 f 5h s 2 f g s 15 h 23 k 1 s 4 h a s 4 h 2 s lt j 1w s 24 k 1p s
5e c 4 s 1 c r s 1 c 2 s 1 c 1 s 2 c 1 s 1 c a s 1 c 4 s 1 c 1 s 1 c 1 s 6 c 1 s 4 c 1 s 1 c 1 s
1 c 1 s 1 c 3 s 1 c 2 s 1 c 1 s 2 c 1 s 1 c 1 s 1 c 1 s 1 c 1 s 1 c 1 s 1 c 2 s 1 c 1 s 2 c 4 s
1 c 7 s 1 c 4 s 1 c 4 s 1 c 1 s 1 c a s 1 c h s 5 c 3 s 1 c 5 s 1 c h s 1g c 2 s 7i 9 18 s 4 9
2s s c b f s 2 b e f 1 s 1 b f s 1 b f f m s a a b f 2 m 3 a v j 1 b 1 a 1 b b a 1 b 1 a 1 b 2 a
1 b 3 a 1 b 3 a 5 b 8 a 1 b 7 a 1 b a c 2 k 1 m 3 b 9 a 1 b 1 a 2 b 2 a 1 b a a 4 b 2 a 1 b a h
i m 1 s 1k b q a 1 b 2 s d a y b 9 h 1 s 4 a 9 s 7 b 2 s e i 6 s 4a b x f c g 3 b 6 f 1 b 1y f 1
g 2 b k f c b 11 f 1 b 5 f 4 g 5 f c b h f 7 g 8 b 1r f 1 b 1 f 1 b 52 f 1 b 4 f 2 g 1 b 1q f 2
c 4 f 7 g 5 b o f i h 1 f 15 h 1 f 2e b 5 c 1 b g c 1 b 3 c 1 b 1 c 1 b 1 c 1 b 1 c 1 b 3 c 1 b
6 c 2 b 4 c 1 b 1 c 2 b 4 c 1 b c f 2 g 2 b b f 1c b 1y f a g 1 h 2 i 2 k 1 m 2 r 1 s 3 o 1 n 3
f d s 3 f 4 h 3 i 2 j 1 k 1 m 2 s 3 b 38 o 3 r 4 o 5 f 2d j 4 o 1 s 6 k c s 4 n 1 s f f c s 4 f
1k s 8 f a s 6 f 14 s 8 f u s 2 m 2 q a s 4 q 2 s e r 9 s 13 i c m 1 k 3 g 9 h 6 i 1 h 8 i 8 h 1
i 2 h c k 1 h c i 1 j 3 h f i d j 5 k 1 m 1 j 4 m 2 n 1 j 1 k 1 j 4 g 5 h d i 6 j b m 2 k 6 m 3
k 2 j a k 6 g 1 j 2 k 8 m 1 n 1 k 3 i n j p k 2c r 4 s 8 j e s 2 k 4 m 1 o 3 k 3 n 2 s 3 k 3 m 4
o 2 q 1 r 1 s 3 r 1 q 1 k 6 m j n 4 o 3 m 7 n 4 o 3 q 1 o 1 m 3 n 3 q 1 s 1 r 1 s 4 r 1 o 2 m 7
n 3 o 2 q 1 s 2 q 1 n 8 o 1 q 1 r 1 s 4 r 1 n 7 o 2 s 7 m 43 s 1 m 1j q 11 m a r 1 s sj 1 2 4
wyf m 7 n 2 s w a 379 n 4 o 1 r 6 b 66 s 2 g 4g2 r c s 2 i 5rl s f p ha s 1wi 4 f2 s 15s 1 2 m
3t7 s 5 o 38g r 3be s 1478 1 2 s 1eke 1 2 s 1eke 1 2 s 1eke 1 2 s 1eke 1 2 s 1eke 1 2 s 1eke 1 2
s 1eke 1 2 s 1eke 1 2 s 1eke 1 2 s 1eke 1 2 s 1 4 1 s u 4 2o s 3k 6 6o s 1e6m 1 2t4y"

def ofName? (name : String) : Option Nat := versions.findIdx? fun e => e.contains name

/-- The code points assigned in version number `k` or before. -/
def upTo (k : Nat) : CharSet := whereValue table (· ≤ k)

end Age

end UrlMask.Unicode
