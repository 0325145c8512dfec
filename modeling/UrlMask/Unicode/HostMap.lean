import UrlMask.Unicode.Runs

/-!
# How host names are written alike

Before a host name is used, each of its characters stays, disappears, is refused, or is replaced
by others; letters lose their case in this way. `HostMap.apply` maps one character, and
`HostMap.isValid` tells the characters that stay.
-/
namespace UrlMask.Unicode

/-- What becomes of a character of a host name. -/
inductive HostMap where
  | stays
  | refused
  | dropped
  /-- The characters of the run are replaced by those from this code point on. -/
  | shifted (target : Nat)
  | replaced (codes : List Nat)
  deriving DecidableEq, Repr

namespace HostMap

/-- Reads the runs of the table. -/
def runsFrom (fuel start : Nat) : List Nat → List (Interval × HostMap)
  | 0 :: len :: rest => next fuel start len .stays rest
  | 1 :: len :: rest => next fuel start len .refused rest
  | 2 :: len :: rest => next fuel start len .dropped rest
  | 3 :: len :: target :: rest => next fuel start len (.shifted target) rest
  | 4 :: count :: rest => next fuel start 1 (.replaced (rest.take count)) (rest.drop count)
  | _ => []
where
  next (fuel start len : Nat) (m : HostMap) (rest : List Nat) : List (Interval × HostMap) :=
    match fuel with
    | 0 => []
    | fuel + 1 => (⟨start, start + len - 1⟩, m) :: runsFrom fuel (start + len) rest

def numbers : List Nat := numerals "
0 1t 3 q 2p 0 11 1 w 3 1 w 0 7 4 2 w lk 0 1 3 1 2p 0 2 2 1 0 1 4 2 w lg 0 2 3 2 1e 4 2 w ld 3 1
qk 0 2 4 2 w mf 3 1 1d 3 1 33 0 1 4 3 1d 6dg 1g 4 3 1d 6dg 1e 4 3 1f 6dg 1g 0 1 3 n 68 0 1 3 7 6w
0 x 3 1 75 0 1 3 1 77 0 1 3 1 79 0 1 3 1 7b 0 1 3 1 7d 0 1 3 1 7f 0 1 3 1 7h 0 1 3 1 7j 0 1 3 1
7l 0 1 3 1 7n 0 1 3 1 7p 0 1 3 1 7r 0 1 3 1 7t 0 1 3 1 7v 0 1 3 1 7x 0 1 3 1 7z 0 1 3 1 81 0 1 3
1 83 0 1 3 1 85 0 1 3 1 87 0 1 3 1 89 0 1 3 1 8b 0 1 3 1 8d 0 1 3 1 8f 0 1 4 2 2x lj 0 1 4 2 2x
2y 4 2 2x 2y 3 1 8l 0 1 3 1 8n 0 2 3 1 8q 0 1 3 1 8s 0 1 3 1 8u 0 1 4 2 30 53 4 2 30 53 3 1 8y 0
1 3 1 90 0 1 3 1 92 0 1 3 1 94 0 1 4 2 jg 32 3 1 97 0 1 3 1 99 0 1 3 1 9b 0 1 3 1 9d 0 1 3 1 9f 0
1 3 1 9h 0 1 3 1 9j 0 1 3 1 9l 0 1 3 1 9n 0 1 3 1 9p 0 1 3 1 9r 0 1 3 1 9t 0 1 3 1 9v 0 1 3 1 9x
0 1 3 1 9z 0 1 3 1 a1 0 1 3 1 a3 0 1 3 1 a5 0 1 3 1 a7 0 1 3 1 a9 0 1 3 1 ab 0 1 3 1 ad 0 1 3 1
af 0 1 3 1 73 3 1 ai 0 1 3 1 ak 0 1 3 1 am 0 1 3 1 37 0 1 3 1 gj 3 1 ar 0 1 3 1 at 0 1 3 1 gk 3 1
aw 0 1 3 2 gm 3 1 b0 0 2 3 1 d9 3 1 gp 3 1 gr 3 1 b6 0 1 3 1 gw 3 1 gz 0 1 3 1 h5 3 1 h4 3 1 bd 0
3 3 1 hb 3 1 he 0 1 3 1 hh 3 1 bl 0 1 3 1 bn 0 1 3 1 bp 0 1 3 1 hs 3 1 bs 0 1 3 1 hv 0 2 3 1 bx 0
1 3 1 i0 3 1 c0 0 1 3 2 i2 3 1 c4 0 1 3 1 c6 0 1 3 1 ia 3 1 c9 0 3 3 1 cd 0 7 4 2 2s am 4 2 2s am
4 2 2s am 4 2 30 2y 4 2 30 2y 4 2 30 2y 4 2 32 2y 4 2 32 2y 4 2 32 2y 3 1 cu 0 1 3 1 cw 0 1 3 1
cy 0 1 3 1 d0 0 1 3 1 d2 0 1 3 1 d4 0 1 3 1 d6 0 1 3 1 d8 0 2 3 1 db 0 1 3 1 dd 0 1 3 1 df 0 1 3
1 dh 0 1 3 1 dj 0 1 3 1 dl 0 1 3 1 dn 0 1 3 1 dp 0 1 3 1 dr 0 2 4 2 2s 3e 4 2 2s 3e 4 2 2s 3e 3 1
dx 0 1 3 1 b9 3 1 cf 3 1 e1 0 1 3 1 e3 0 1 3 1 e5 0 1 3 1 e7 0 1 3 1 e9 0 1 3 1 eb 0 1 3 1 ed 0 1
3 1 ef 0 1 3 1 eh 0 1 3 1 ej 0 1 3 1 el 0 1 3 1 en 0 1 3 1 ep 0 1 3 1 er 0 1 3 1 et 0 1 3 1 ev 0
1 3 1 ex 0 1 3 1 ez 0 1 3 1 f1 0 1 3 1 f3 0 1 3 1 bi 0 1 3 1 f7 0 1 3 1 f9 0 1 3 1 fb 0 1 3 1 fd
0 1 3 1 ff 0 1 3 1 fh 0 1 3 1 fj 0 1 3 1 fl 0 1 3 1 fn 0 7 3 1 8rp 3 1 fw 0 1 3 1 be 3 1 8rq 0 2
3 1 g2 0 1 3 1 ao 3 1 i1 3 1 i4 3 1 g7 0 1 3 1 g9 0 1 3 1 gb 0 1 3 1 gd 0 1 3 1 gf 0 2p 3 1 2w 3
1 h2 3 1 2y 3 1 36 3 1 hl 3 1 hn 3 1 ht 3 1 3b 3 1 3d 0 v 4 2 w li 4 2 w lj 4 2 w lm 4 2 w mg 4 2
w lf 4 2 w ln 0 2 3 1 gz 3 1 30 3 1 37 3 1 3c 3 1 id 0 2j 3 2 lc 0 1 3 1 lv 4 2 lk ld 3 1 qh 0 9
2 1 0 w 3 1 oh 0 1 3 1 oj 0 1 3 1 jd 0 1 3 1 on 0 1 1 2 4 2 w qh 0 3 3 1 1n 3 1 s3 1 4 4 2 w ld 4
3 w lk ld 3 1 q4 3 1 53 3 3 q5 1 1 3 1 r0 1 1 3 2 r1 0 1 3 h q9 1 1 3 9 qr 0 z 3 1 rb 3 1 qa 3 1
qg 3 1 qt 3 1 r1 3 1 qz 3 1 qu 3 1 qo 0 1 3 1 rd 0 1 3 1 rf 0 1 3 1 rh 0 1 3 1 rj 0 1 3 1 rl 0 1
3 1 rn 0 1 3 1 rp 0 1 3 1 rr 0 1 3 1 rt 0 1 3 1 rv 0 1 3 1 rx 0 1 3 1 rz 0 1 3 1 qi 3 1 qp 3 1 qr
0 1 3 1 qg 3 1 qd 0 1 3 1 s8 0 1 3 1 qr 3 1 sb 0 2 3 3 or 3 g uo 3 w ts 0 1c 3 1 v5 0 1 3 1 v7 0
1 3 1 v9 0 1 3 1 vb 0 1 3 1 vd 0 1 3 1 vf 0 1 3 1 vh 0 1 3 1 vj 0 1 3 1 vl 0 1 3 1 vn 0 1 3 1 vp
0 1 3 1 vr 0 1 3 1 vt 0 1 3 1 vv 0 1 3 1 vx 0 1 3 1 vz 0 1 3 1 w1 0 9 3 1 wb 0 1 3 1 wd 0 1 3 1
wf 0 1 3 1 wh 0 1 3 1 wj 0 1 3 1 wl 0 1 3 1 wn 0 1 3 1 wp 0 1 3 1 wr 0 1 3 1 wt 0 1 3 1 wv 0 1 3
1 wx 0 1 3 1 wz 0 1 3 1 x1 0 1 3 1 x3 0 1 3 1 x5 0 1 3 1 x7 0 1 3 1 x9 0 1 3 1 xb 0 1 3 1 xd 0 1
3 1 xf 0 1 3 1 xh 0 1 3 1 xj 0 1 3 1 xl 0 1 3 1 xn 0 1 3 1 xp 0 1 3 1 xr 0 1 3 1 y7 3 1 xu 0 1 3
1 xw 0 1 3 1 xy 0 1 3 1 y0 0 1 3 1 y2 0 1 3 1 y4 0 1 3 1 y6 0 2 3 1 y9 0 1 3 1 yb 0 1 3 1 yd 0 1
3 1 yf 0 1 3 1 yh 0 1 3 1 yj 0 1 3 1 yl 0 1 3 1 yn 0 1 3 1 yp 0 1 3 1 yr 0 1 3 1 yt 0 1 3 1 yv 0
1 3 1 yx 0 1 3 1 yz 0 1 3 1 z1 0 1 3 1 z3 0 1 3 1 z5 0 1 3 1 z7 0 1 3 1 z9 0 1 3 1 zb 0 1 3 1 zd
0 1 3 1 zf 0 1 3 1 zh 0 1 3 1 zj 0 1 3 1 zl 0 1 3 1 zn 0 1 3 1 zp 0 1 3 1 zr 0 1 3 1 zt 0 1 3 1
zv 0 1 3 1 zx 0 1 3 1 zz 0 1 3 1 101 0 1 3 1 103 0 1 3 1 105 0 1 3 1 107 0 1 3 1 109 0 1 3 1 10b
0 1 3 1 10d 0 1 3 1 10f 0 1 3 1 10h 0 1 3 1 10j 0 1 3 1 10l 0 1 3 1 10n 0 1 3 1 10p 0 1 3 1 10r 0
1 3 1 10t 0 1 3 1 10v 0 1 1 1 3 12 129 1 2 0 1a 4 2 12d 136 0 3 1 2 0 3 1 1 0 1j 1 8 0 r 1 4 0 6
1 h 0 m 1 1 0 2g 4 2 17r 19w 4 2 18o 19w 4 2 1c7 19w 4 2 18q 19w 0 2s 1 1 0 1c 1 2 0 1n 1 2 0 2t
1 e 0 1n 1 2 0 1d 1 2 0 f 1 1 0 s 1 2 0 1 1 1 0 b 1 5 0 w 1 7 0 23 1 1 0 39 4 2 1sl 1to 4 2 1sm
1to 4 2 1sn 1to 4 2 1ss 1to 4 2 1sx 1to 4 2 1sy 1to 4 2 1t7 1to 4 2 1tb 1to 0 10 1 1 0 8 1 2 0 2
1 2 0 m 1 1 0 7 1 1 0 1 1 3 0 4 1 2 0 9 1 2 0 2 1 2 0 4 1 8 0 1 1 4 4 2 1wh 1x8 4 2 1wi 1x8 1 1 4
2 1wv 1x8 0 4 1 2 0 p 1 2 0 3 1 1 0 6 1 4 0 2 1 2 0 m 1 1 0 7 1 1 0 1 4 2 20i 20s 1 1 0 1 4 2 20o
20s 1 1 0 2 1 2 0 1 1 1 0 5 1 4 0 2 1 2 0 3 1 3 0 1 1 7 4 2 1zq 20s 4 2 1zr 20s 4 2 1zw 20s 0 1 1
1 4 2 20b 20s 1 7 0 h 1 a 0 3 1 1 0 9 1 1 0 3 1 1 0 m 1 1 0 7 1 1 0 2 1 1 0 5 1 2 0 a 1 1 0 3 1 1
0 3 1 2 0 1 1 f 0 4 1 2 0 c 1 7 0 7 1 1 0 3 1 1 0 8 1 2 0 2 1 2 0 m 1 1 0 7 1 1 0 2 1 1 0 5 1 2 0
9 1 2 0 2 1 2 0 3 1 7 0 3 1 4 4 2 275 27w 4 2 276 27w 1 1 0 5 1 2 0 i 1 a 0 2 1 1 0 6 1 3 0 3 1 1
0 4 1 3 0 2 1 1 0 1 1 1 0 2 1 3 0 2 1 3 0 3 1 3 0 c 1 4 0 5 1 3 0 3 1 1 0 4 1 2 0 1 1 6 0 1 1 e 0
l 1 5 0 d 1 1 0 3 1 1 0 n 1 1 0 g 1 2 0 9 1 1 0 3 1 1 0 4 1 7 0 2 1 1 0 3 1 1 0 2 1 2 0 4 1 2 0 a
1 7 0 m 1 1 0 3 1 1 0 n 1 1 0 a 1 1 0 5 1 2 0 9 1 1 0 3 1 1 0 4 1 7 0 2 1 5 0 3 1 1 0 4 1 2 0 a 1
1 0 3 1 c 0 d 1 1 0 3 1 1 0 1f 1 1 0 3 1 1 0 6 1 4 0 g 1 2 0 q 1 1 0 3 1 1 0 i 1 3 0 o 1 1 0 9 1
1 0 1 1 2 0 7 1 3 0 1 1 4 0 6 1 1 0 1 1 1 0 8 1 6 0 a 1 2 0 3 1 c 0 1e 4 2 2tp 2sy 0 7 1 4 0 t 1
11 0 2 1 1 0 1 1 1 0 5 1 1 0 o 1 1 0 1 1 1 0 c 4 2 2x9 2wi 0 a 1 2 0 5 1 1 0 1 1 1 0 7 1 1 0 a 1
2 4 2 2wb 2vt 4 2 2wb 2w1 0 2 1 w 0 c 3 1 2yz 0 1i 4 2 30i 33r 0 4 1 1 0 4 4 2 30s 33r 0 4 4 2
30x 33r 0 4 4 2 312 33r 0 4 4 2 317 33r 0 c 4 2 30g 33p 0 3 1 4 0 2 4 2 31t 31u 0 1 4 2 31t 31w 4
2 33m 328 4 3 33m 31t 328 4 2 33n 328 4 3 33n 31t 328 0 7 4 2 31t 328 0 h 4 2 32q 33r 0 4 1 1 0 4
4 2 330 33r 0 4 4 2 335 33r 0 4 4 2 33a 33r 0 4 4 2 33f 33r 0 c 4 2 32o 33p 0 3 1 1 0 f 1 1 0 d 1
11 0 4g 3 12 8w0 1 1 3 1 8x3 1 5 3 1 8x9 1 2 0 18 3 1 3bw 0 2q 2 2 0 6g 1 1 0 4 1 2 0 7 1 1 0 1 1
1 0 4 1 2 0 15 1 1 0 4 1 2 0 x 1 1 0 4 1 2 0 7 1 1 0 1 1 1 0 4 1 2 0 f 1 1 0 1l 1 1 0 4 1 2 0 1v
1 2 0 w 1 3 0 q 1 6 0 2e 1 2 3 6 3xs 1 2 0 hs 1 1 0 s 1 3 0 2h 1 7 0 m 1 9 0 o 1 9 0 k 1 c 0 d 1
1 0 3 1 1 0 2 1 c 0 1g 2 2 0 14 1 2 0 a 1 6 0 a 1 6 0 b 2 5 0 a 1 6 0 2h 1 7 0 17 1 5 0 1y 1 a 0
v 1 1 0 c 1 4 0 c 1 4 0 1 1 3 0 16 1 2 0 5 1 b 0 18 1 4 0 q 1 6 0 b 1 3 0 1q 1 2 0 1t 1 1 0 t 1 2
0 b 1 6 0 a 1 6 0 e 1 2 0 1a 1 2 0 c 1 k 0 25 1 1 0 4m 1 8 0 1o 1 3 0 f 1 3 0 1f 3 1 tu 3 1 tw 3
1 u6 3 2 u9 3 1 ua 3 1 ui 3 1 v7 3 1 wuj 3 1 5my 0 1 1 5 3 17 3bk 1 2 3 3 3ct 0 8 1 8 0 17 1 5 0
18 3 1 2p 3 1 6e 3 1 2q 0 1 3 2 2s 3 1 d9 3 8 2v 0 1 3 1 33 3 1 f7 3 1 34 3 1 36 3 2 38 3 1 3b 3
1 2p 3 2 gg 3 1 5qa 3 1 2q 3 2 2s 3 1 gp 3 2 gr 3 1 2v 0 1 3 1 2z 3 1 31 3 1 97 3 1 33 3 1 gk 3 2
5qu 3 1 34 3 2 38 3 1 5r1 3 1 hb 3 1 3a 3 1 5r9 3 3 qa 3 2 qu 3 1 2x 3 1 36 3 2 39 3 2 qa 3 1 qp
3 2 qu 0 d 3 1 u5 0 y 3 1 gi 3 1 2r 3 1 gl 3 1 6o 3 1 gs 3 1 2u 3 1 gv 3 1 gx 3 1 h1 3 3 h4 3 1
5tn 3 1 il 3 1 h9 3 1 5tx 3 1 in 3 1 hd 3 1 hc 3 4 he 3 1 hk 3 2 hu 3 1 bv 3 2 i1 3 1 5r0 3 2 i3
3 1 3e 3 3 i8 3 1 qg 0 1s 3 1 5xd 0 1 3 1 5xf 0 1 3 1 5xh 0 1 3 1 5xj 0 1 3 1 5xl 0 1 3 1 5xn 0 1
3 1 5xp 0 1 3 1 5xr 0 1 3 1 5xt 0 1 3 1 5xv 0 1 3 1 5xx 0 1 3 1 5xz 0 1 3 1 5y1 0 1 3 1 5y3 0 1 3
1 5y5 0 1 3 1 5y7 0 1 3 1 5y9 0 1 3 1 5yb 0 1 3 1 5yd 0 1 3 1 5yf 0 1 3 1 5yh 0 1 3 1 5yj 0 1 3 1
5yl 0 1 3 1 5yn 0 1 3 1 5yp 0 1 3 1 5yr 0 1 3 1 5yt 0 1 3 1 5yv 0 1 3 1 5yx 0 1 3 1 5yz 0 1 3 1
5z1 0 1 3 1 5z3 0 1 3 1 5z5 0 1 3 1 5z7 0 1 3 1 5z9 0 1 3 1 5zb 0 1 3 1 5zd 0 1 3 1 5zf 0 1 3 1
5zh 0 1 3 1 5zj 0 1 3 1 5zl 0 1 3 1 5zn 0 1 3 1 5zp 0 1 3 1 5zr 0 1 3 1 5zt 0 1 3 1 5zv 0 1 3 1
5zx 0 1 3 1 5zz 0 1 3 1 601 0 1 3 1 603 0 1 3 1 605 0 1 3 1 607 0 1 3 1 609 0 1 3 1 60b 0 1 3 1
60d 0 1 3 1 60f 0 1 3 1 60h 0 1 3 1 60j 0 1 3 1 60l 0 1 3 1 60n 0 1 3 1 60p 0 1 3 1 60r 0 1 3 1
60t 0 1 3 1 60v 0 1 3 1 60x 0 1 3 1 60z 0 1 3 1 611 0 1 3 1 613 0 1 3 1 615 0 1 3 1 617 0 1 3 1
619 0 1 3 1 61b 0 1 3 1 61d 0 1 3 1 61f 0 1 3 1 61h 0 5 4 2 2p ji 3 1 601 0 2 3 1 67 0 1 3 1 61t
0 1 3 1 61v 0 1 3 1 61x 0 1 3 1 61z 0 1 3 1 621 0 1 3 1 623 0 1 3 1 625 0 1 3 1 627 0 1 3 1 629 0
1 3 1 62b 0 1 3 1 62d 0 1 3 1 62f 0 1 3 1 62h 0 1 3 1 62j 0 1 3 1 62l 0 1 3 1 62n 0 1 3 1 62p 0 1
3 1 62r 0 1 3 1 62t 0 1 3 1 62v 0 1 3 1 62x 0 1 3 1 62z 0 1 3 1 631 0 1 3 1 633 0 1 3 1 635 0 1 3
1 637 0 1 3 1 639 0 1 3 1 63b 0 1 3 1 63d 0 1 3 1 63f 0 1 3 1 63h 0 1 3 1 63j 0 1 3 1 63l 0 1 3 1
63n 0 1 3 1 63p 0 1 3 1 63r 0 1 3 1 63t 0 1 3 1 63v 0 1 3 1 63x 0 1 3 1 63z 0 1 3 1 641 0 1 3 1
643 0 1 3 1 645 0 1 3 1 647 0 1 3 1 649 0 1 3 1 64b 0 1 3 1 64d 0 1 3 1 64f 0 9 3 8 64g 0 6 1 2 3
6 64w 1 2 0 8 3 8 65c 0 8 3 8 65s 0 6 1 2 3 6 668 1 2 0 8 1 1 3 1 66p 1 1 3 1 66r 1 1 3 1 66t 1 1
3 1 66v 0 8 3 8 674 0 1 3 1 q4 0 1 3 1 q5 0 1 3 1 q6 0 1 3 1 q7 0 1 3 1 r0 0 1 3 1 r1 0 1 3 1 r2
1 2 4 2 64g qh 4 2 64h qh 4 2 64i qh 4 2 64j qh 4 2 64k qh 4 2 64l qh 4 2 64m qh 4 2 64n qh 4 2
64g qh 4 2 64h qh 4 2 64i qh 4 2 64j qh 4 2 64k qh 4 2 64l qh 4 2 64m qh 4 2 64n qh 4 2 65c qh 4
2 65d qh 4 2 65e qh 4 2 65f qh 4 2 65g qh 4 2 65h qh 4 2 65i qh 4 2 65j qh 4 2 65c qh 4 2 65d qh
4 2 65e qh 4 2 65f qh 4 2 65g qh 4 2 65h qh 4 2 65i qh 4 2 65j qh 4 2 674 qh 4 2 675 qh 4 2 676
qh 4 2 677 qh 4 2 678 qh 4 2 679 qh 4 2 67a qh 4 2 67b qh 4 2 674 qh 4 2 675 qh 4 2 676 qh 4 2
677 qh 4 2 678 qh 4 2 679 qh 4 2 67a qh 4 2 67b qh 0 2 4 2 67k qh 4 2 q9 qh 4 2 q4 qh 1 1 0 1 4 2
69i qh 3 2 69c 3 1 67k 3 1 q4 4 2 q9 qh 4 2 w lv 3 1 qh 4 2 w lv 4 2 w n6 4 3 w lk n6 4 2 67o qh
4 2 qf qh 4 2 q6 qh 1 1 0 1 4 2 69y qh 3 1 67m 3 1 q5 3 1 67o 3 1 q6 4 2 qf qh 4 3 w lv lc 4 3 w
lv ld 4 3 w lv n6 0 3 3 1 pc 1 2 0 2 3 2 6a8 3 1 67q 3 1 q7 1 1 4 3 w lw lc 4 3 w lw ld 4 3 w lw
n6 0 3 3 1 q8 0 4 3 2 6ao 3 1 67u 3 1 r1 3 1 6at 4 3 w lk lc 4 3 w lk ld 3 1 2o 1 2 4 2 67w qh 4
2 qx qh 4 2 r2 qh 1 1 0 1 4 2 6ba qh 3 1 67s 3 1 r0 3 1 67w 3 1 r2 4 2 qx qh 4 2 w ld 4 2 w lw 1
1 3 1 w 3 1 w 3 1 w 3 1 w 3 1 w 3 1 w 3 1 w 3 1 w 3 1 w 3 1 w 3 1 w 2 1 0 2 1 2 0 1 3 1 6c0 0 5 4
2 w mr 0 c 1 3 0 1 1 7 3 1 w 0 3 4 2 6cy 6cy 4 3 6cy 6cy 6cy 0 1 4 2 6d1 6d1 4 3 6d1 6d1 6d1 0 4
4 2 x x 0 1 4 2 w lh 0 8 4 2 1r 1r 4 2 1r x 4 2 x 1r 0 d 4 4 6cy 6cy 6cy 6cy 0 7 3 1 w 2 5 1 5 2
6 3 1 1c 3 1 2x 1 2 3 6 1g 3 1 17 3 1 6qa 3 1 1p 3 2 14 3 1 32 3 a 1c 3 1 17 3 1 6qa 3 1 1p 3 2
14 1 1 3 1 2p 3 1 2t 3 1 33 3 1 3c 3 1 gp 3 1 2w 3 4 2z 3 1 34 3 2 37 1 3 0 8 4 2 36 37 0 p 1 e 0
x 1 f 4 3 2p 1b 2r 4 3 2p 1b 37 3 1 2r 4 2 4w 2r 0 1 4 3 2r 1b 33 4 3 2r 1b 39 3 1 gr 0 1 4 2 4w
2u 3 2 2v 3 1 2w 3 1 2w 3 1 2w 3 1 87 3 1 2x 3 1 2x 3 1 30 3 1 30 0 1 3 1 32 4 2 32 33 0 2 3 3 34
3 1 36 3 1 36 0 2 4 2 37 31 4 3 38 2t 30 4 2 38 31 0 1 3 1 3e 0 1 3 1 qx 0 1 3 1 3e 0 1 3 1 2z 3
1 6d 3 2 2q 0 1 3 1 2t 3 2 2t 3 1 6ku 3 1 31 3 1 33 3 4 15c 3 1 2x 0 1 4 3 2u 2p 3c 3 1 qo 3 1 qb
3 1 qb 3 1 qo 3 1 6q9 0 4 3 1 2s 3 2 2s 3 2 2x 0 6 4 3 1d 6dg 1j 4 3 1d 6dg 1l 4 4 1d 6dg 1d 1c 4
3 1d 6dg 1f 4 3 1e 6dg 1f 4 3 1d 6dg 1h 4 3 1e 6dg 1h 4 3 1f 6dg 1h 4 3 1g 6dg 1h 4 3 1d 6dg 1i 4
3 1h 6dg 1i 4 3 1d 6dg 1k 4 3 1f 6dg 1k 4 3 1h 6dg 1k 4 3 1j 6dg 1k 4 2 1d 6dg 3 1 2x 4 2 2x 2x 4
3 2x 2x 2x 4 2 2x 3a 3 1 3a 4 2 3a 2x 4 3 3a 2x 2x 4 4 3a 2x 2x 2x 4 2 2x 3c 3 1 3c 4 2 3c 2x 4 3
3c 2x 2x 3 1 30 3 2 2r 3 1 31 3 1 2x 4 2 2x 2x 4 3 2x 2x 2x 4 2 2x 3a 3 1 3a 4 2 3a 2x 4 3 3a 2x
2x 4 4 3a 2x 2x 2x 4 2 2x 3c 3 1 3c 4 2 3c 2x 4 3 3c 2x 2x 3 1 30 3 2 2r 3 1 31 0 3 3 1 6mc 0 5 4
3 1c 6dg 1f 0 2 1 4 0 4c 4 2 6qz 6qz 4 3 6qz 6qz 6qz 0 1 4 2 6r2 6r2 4 3 6r2 6r2 6r2 0 6w 3 2 9hk
0 73 1 m 0 b 1 l 3 9 1d 4 2 1d 1c 4 2 1d 1d 4 2 1d 1e 4 2 1d 1f 4 2 1d 1g 4 2 1d 1h 4 2 1d 1i 4 2
1d 1j 4 2 1d 1k 4 2 1d 1l 4 2 1e 1c 4 3 14 1d 15 4 3 14 1e 15 4 3 14 1f 15 4 3 14 1g 15 4 3 14 1h
15 4 3 14 1i 15 4 3 14 1j 15 4 3 14 1k 15 4 3 14 1l 15 4 4 14 1d 1c 15 4 4 14 1d 1d 15 4 4 14 1d
1e 15 4 4 14 1d 1f 15 4 4 14 1d 1g 15 4 4 14 1d 1h 15 4 4 14 1d 1i 15 4 4 14 1d 1j 15 4 4 14 1d
1k 15 4 4 14 1d 1l 15 4 4 14 1e 1c 15 1 k 4 3 14 2p 15 4 3 14 2q 15 4 3 14 2r 15 4 3 14 2s 15 4 3
14 2t 15 4 3 14 2u 15 4 3 14 2v 15 4 3 14 2w 15 4 3 14 2x 15 4 3 14 2y 15 4 3 14 2z 15 4 3 14 30
15 4 3 14 31 15 4 3 14 32 15 4 3 14 33 15 4 3 14 34 15 4 3 14 35 15 4 3 14 36 15 4 3 14 37 15 4 3
14 38 15 4 3 14 39 15 4 3 14 3a 15 4 3 14 3b 15 4 3 14 3c 15 4 3 14 3d 15 4 3 14 3e 15 3 q 2p 3 q
2p 3 1 1c 0 10h 4 4 6qz 6qz 6qz 6qz 0 2v 4 3 1m 1m 1p 4 2 1p 1p 4 3 1p 1p 1p 0 2t 4 2 8gt mw 0 47
1 2 0 3u 3 1c 8q8 0 1c 3 1 8rl 0 1 3 1 h7 3 1 5tp 3 1 hp 0 2 3 1 8rs 0 1 3 1 8ru 0 1 3 1 8rw 0 1
3 1 gh 3 1 hd 3 1 gg 3 1 gi 0 1 3 1 8s3 0 2 3 1 8s6 0 6 3 1 2y 3 1 3a 3 2 fz 3 1 8sh 0 1 3 1 8sj
0 1 3 1 8sl 0 1 3 1 8sn 0 1 3 1 8sp 0 1 3 1 8sr 0 1 3 1 8st 0 1 3 1 8sv 0 1 3 1 8sx 0 1 3 1 8sz 0
1 3 1 8t1 0 1 3 1 8t3 0 1 3 1 8t5 0 1 3 1 8t7 0 1 3 1 8t9 0 1 3 1 8tb 0 1 3 1 8td 0 1 3 1 8tf 0 1
3 1 8th 0 1 3 1 8tj 0 1 3 1 8tl 0 1 3 1 8tn 0 1 3 1 8tp 0 1 3 1 8tr 0 1 3 1 8tt 0 1 3 1 8tv 0 1 3
1 8tx 0 1 3 1 8tz 0 1 3 1 8u1 0 1 3 1 8u3 0 1 3 1 8u5 0 1 3 1 8u7 0 1 3 1 8u9 0 1 3 1 8ub 0 1 3 1
8ud 0 1 3 1 8uf 0 1 3 1 8uh 0 1 3 1 8uj 0 1 3 1 8ul 0 1 3 1 8un 0 1 3 1 8up 0 1 3 1 8ur 0 1 3 1
8ut 0 1 3 1 8uv 0 1 3 1 8ux 0 1 3 1 8uz 0 1 3 1 8v1 0 1 3 1 8v3 0 1 3 1 8v5 0 1 3 1 8v7 0 8 3 1
8vg 0 1 3 1 8vi 0 4 3 1 8vn 0 1 1 5 0 19 1 1 0 1 1 5 0 1 1 2 0 1k 1 7 3 1 8yp 0 1 1 e 0 o 1 9 0 7
1 1 0 7 1 1 0 7 1 1 0 7 1 1 0 7 1 1 0 7 1 1 0 7 1 1 0 7 1 1 0 3i 1 y 0 q 1 1 0 4 3 1 lal 0 2b 3 1
vj3 1 c 3 1 feo 3 1 ffs 3 1 fg6 3 1 fgf 3 1 fh5 3 1 fid 3 1 fik 3 1 fj4 3 1 fju 3 1 g1r 3 1 g2t 3
1 g2z 3 1 g3m 3 1 g46 3 1 g4r 3 1 g68 3 1 g6t 3 1 g74 3 1 gbf 3 1 ge1 3 1 get 3 1 gey 3 1 gfs 3 1
gg1 3 1 ggs 3 1 gh5 3 1 ghu 3 1 gja 3 1 gjs 3 1 gkj 3 1 h5j 3 1 h7j 3 1 hkb 3 1 hky 3 1 hl6 3 1
hlh 3 1 hlz 3 1 ho3 3 1 i1c 3 1 i2o 3 1 i60 3 1 i6n 3 1 i76 3 1 i7s 3 1 i9a 3 1 i9d 3 1 ijf 3 1
ijp 3 1 ik1 3 1 ike 3 1 inm 3 1 inu 3 1 inz 3 1 ir8 3 1 iri 3 1 irv 3 1 is3 3 1 its 3 1 iu9 3 1
iur 3 1 iwz 3 1 jd4 3 1 jee 3 1 jez 3 1 jzj 3 1 jzo 3 1 k1z 3 1 k2f 3 1 k2s 3 1 k3d 3 1 k4g 3 1
k4l 3 1 kc0 3 1 kco 3 1 kdk 3 1 l5s 3 1 l7m 3 1 l89 3 1 l9v 3 1 laj 3 1 las 3 1 laz 3 1 lcf 3 1
lck 3 1 ldg 3 1 m7f 3 1 mju 3 1 mk6 3 1 mkb 3 1 mkf 3 1 mkn 3 1 ml5 3 1 ml7 3 1 mng 3 1 mtg 3 1
mtl 3 1 n30 3 1 n3a 3 1 n4o 3 1 n4v 3 1 n54 3 1 n5c 3 1 n7v 3 1 n82 3 1 nee 3 1 nel 3 1 nfy 3 1
ngf 3 1 nhq 3 1 nob 3 1 noi 3 1 noz 3 1 ny2 3 1 o1k 3 1 o1q 3 1 o6s 3 1 o97 3 1 oah 3 1 okz 3 1
ooo 3 1 p4m 3 1 p5d 3 1 p6y 3 1 p8d 3 1 pa9 3 1 pak 3 1 paq 3 1 pbn 3 1 pdr 3 1 pe1 3 1 pnn 3 1
pnu 3 1 po3 3 1 poc 3 1 pos 3 1 pp7 3 1 ppb 3 1 pri 3 1 prm 3 1 prs 3 1 qj1 3 1 qjv 3 1 qww 3 1
qx8 3 1 qxv 3 1 r5q 3 1 r63 3 1 r82 3 1 r9c 3 1 rp3 3 1 rpi 3 1 rpx 3 1 rqw 3 1 rrx 3 1 rxg 3 1
rxs 3 1 rzn 3 1 s6j 3 1 s7e 3 1 sd7 3 1 sds 3 1 sdx 3 1 sk1 3 1 sp5 3 1 ssm 3 1 sss 3 1 ssx 3 1
tiv 3 1 tj4 3 1 tng 3 1 trq 3 1 trt 3 1 tt4 3 1 tw1 3 1 twe 3 1 twi 3 1 twp 3 1 tzf 3 1 u0d 3 1
u0j 3 1 u0x 3 1 u5k 3 1 u6z 3 1 u73 3 1 uc6 3 1 uc9 3 1 ucs 3 1 ujs 3 1 ul4 3 1 ulb 3 1 un9 3 1
unj 3 1 unm 3 1 unw 3 1 uoq 3 1 uzp 3 1 vat 3 1 vb3 3 1 vc5 3 1 vcr 3 1 vcz 3 1 vd9 3 1 vdd 3 1
veh 3 1 vel 3 1 vf2 3 1 vf7 3 1 vfk 3 1 vgb 3 1 vgq 3 1 vgy 3 1 vil 3 1 vj0 3 1 vj4 1 16 3 1 w 0
1 3 1 1a 0 1f 3 1 9hu 0 1 3 1 gg1 3 2 gg4 0 5 1 1 0 2e 1 2 0 2 4 2 w 9ll 4 2 w 9lm 0 2 4 2 9l4
9l6 0 2n 4 2 9mb 9mw 1 5 0 17 1 1 3 2 3cw 3 1 3hm 3 1 3cy 3 2 3ho 3 3 3cz 3 6 3hs 3 1 3dm 3 3 3d2
3 1 3dt 3 a 3d5 3 l 3fl 2 1 3 2 3dg 3 2 3if 3 1 3ik 3 1 3im 3 1 3ir 3 1 3iv 3 1 3ix 3 1 3do 3 1
3j1 3 1 3j3 3 2 3dp 3 1 3ds 3 2 3du 3 1 3dz 3 1 3e1 3 5 3e3 3 1 3ea 3 1 3ee 3 1 3eo 3 1 3ev 3 1
3f0 3 2 3jl 3 3 3fb 3 2 3gk 3 1 3go 3 2 3gx 3 1 3h0 3 1 3ha 3 1 3hd 1 1 0 2 3 1 feo 3 1 fik 3 1
fex 3 1 h5n 3 1 fey 3 1 ffx 3 1 fez 3 1 n5e 3 1 fh5 3 1 ffd 3 1 fep 3 1 hm1 3 1 h80 3 1 fju 0 1y
1 a 0 g 4 3 14 3cw 15 4 3 14 3cy 15 4 3 14 3cz 15 4 3 14 3d1 15 4 3 14 3d2 15 4 3 14 3d3 15 4 3
14 3d5 15 4 3 14 3d7 15 4 3 14 3d8 15 4 3 14 3da 15 4 3 14 3db 15 4 3 14 3dc 15 4 3 14 3dd 15 4 3
14 3de 15 4 3 14 xz4 15 4 3 14 yvs 15 4 3 14 zc4 15 4 3 14 108s 15 4 3 14 10p4 15 4 3 14 115g 15
4 3 14 1224 15 4 3 14 12ys 15 4 3 14 13f4 15 4 3 14 14bs 15 4 3 14 14s4 15 4 3 14 158g 15 4 3 14
15os 15 4 3 14 1654 15 4 3 14 13p8 15 4 4 14 1350 13ic 15 4 4 14 1350 16f8 15 1 1 4 3 14 feo 15 4
3 14 fik 15 4 3 14 fex 15 4 3 14 h5n 15 4 3 14 fis 15 4 3 14 g31 15 4 3 14 fer 15 4 3 14 g2z 15 4
3 14 fh9 15 4 3 14 gg1 15 4 3 14 kco 15 4 3 14 m7f 15 4 3 14 ldg 15 4 3 14 kdk 15 4 3 14 ssx 15 4
3 14 h7j 15 4 3 14 k4l 15 4 3 14 kkq 15 4 3 14 kcp 15 4 3 14 ny6 15 4 3 14 glp 15 4 3 14 mm1 15 4
3 14 rs1 15 4 3 14 nz1 15 4 3 14 gc4 15 4 3 14 fkz 15 4 3 14 gos 15 4 3 14 i1y 15 4 3 14 nhf 15 4
3 14 flt 15 4 3 14 rt3 15 4 3 14 ggk 15 4 3 14 nzh 15 4 3 14 fm9 15 4 3 14 pnu 15 4 3 14 po3 15 3
1 gun 3 1 inw 3 1 k1z 3 1 oen 0 8 4 3 34 38 2t 4 2 1e 1d 4 2 1e 1e 4 2 1e 1f 4 2 1e 1g 4 2 1e 1h
4 2 1e 1i 4 2 1e 1j 4 2 1e 1k 4 2 1e 1l 4 2 1f 1c 4 2 1f 1d 4 2 1f 1e 4 2 1f 1f 4 2 1f 1g 4 2 1f
1h 3 1 3cw 3 2 3cy 3 3 3d1 3 1 3d5 3 2 3d7 3 5 3da 3 1 xz4 3 1 yvs 3 1 zc4 3 1 108s 3 1 10p4 3 1
115g 3 1 1224 3 1 12ys 3 1 13f4 3 1 14bs 3 1 14s4 3 1 158g 3 1 15os 3 1 1654 4 2 14c8 y5c 4 2
13p8 13dk 3 1 138w 0 1 3 1 feo 3 1 fik 3 1 fex 3 1 h5n 3 1 fis 3 1 g31 3 1 fer 3 1 g2z 3 1 fh9 3
1 gg1 3 1 kco 3 1 m7f 3 1 ldg 3 1 kdk 3 1 ssx 3 1 h7j 3 1 k4l 3 1 kkq 3 1 kcp 3 1 ny6 3 1 glp 3 1
mm1 3 1 rs1 3 1 nz1 3 1 gc4 3 1 o2g 3 1 n5j 3 1 ho3 3 1 six 3 1 g16 3 1 ghc 3 1 lig 3 1 u11 3 1
fm9 3 1 g49 3 1 l7n 3 1 fey 3 1 ffx 3 1 fez 3 1 ijq 3 1 gkz 3 1 gfv 3 1 i3b 3 1 i1y 3 1 nhf 3 1
flt 3 1 rt3 3 1 ggk 3 1 hlo 4 2 1f 1i 4 2 1f 1j 4 2 1f 1k 4 2 1f 1l 4 2 1g 1c 4 2 1g 1d 4 2 1g 1e
4 2 1g 1f 4 2 1g 1g 4 2 1g 1h 4 2 1g 1i 4 2 1g 1j 4 2 1g 1k 4 2 1g 1l 4 2 1h 1c 4 2 1d kco 4 2 1e
kco 4 2 1f kco 4 2 1g kco 4 2 1h kco 4 2 1i kco 4 2 1j kco 4 2 1k kco 4 2 1l kco 4 3 1d 1c kco 4
3 1d 1d kco 4 3 1d 1e kco 4 2 2w 2v 4 3 2t 36 2v 4 2 2t 3a 4 3 30 38 2s 3 1 9lu 3 1 9lw 3 1 9ly 3
1 9m0 3 2 9m2 3 1 9m5 3 1 9m7 3 1 9m9 3 1 9mb 3 1 9md 3 1 9mf 3 1 9mh 3 1 9mj 3 1 9ml 3 1 9mn 3 1
9mp 3 1 9ms 3 1 9mu 3 1 9mw 3 6 9my 3 1 9n6 3 1 9n9 3 1 9nc 3 1 9nf 3 5 9ni 3 1 9no 3 1 9nq 3 6
9ns 3 4 9nz 4 2 fl0 gp8 4 4 9lu 9n5 9oc 9mw 4 4 9lu 9nv 9n9 9lt 4 4 9lu 9o3 9ne 9lu 4 3 9lu 9oc
9nv 4 4 9lw 9mz 9o3 9m8 4 3 9lw 9o3 9mp 4 3 9ly 9m1 9o3 4 5 9m0 9mh 9m7 9oc 9mx 4 4 9m0 9oc 9m3
9oc 4 3 9m2 9o3 9mh 4 3 9m2 9oc 9nk 4 3 9m3 9lw 9nu 4 4 9m3 9nt 9mr 9mw 4 4 9m3 9nx 9nu 9oc 4 3
9m4 9nx 9o3 4 3 9m4 9o3 9ni 4 2 9m6 9m4 4 3 9m6 9mz 9oc 4 4 9m5 9np 9nu 9oc 4 4 9m6 9nv 9mo 9oc 4
2 9m5 9nx 4 5 9m5 9nx 9m8 9nt 9nk 4 6 9m5 9nx 9nl 9oc 9mw 9nv 4 5 9m5 9nx 9nz 9mr 9mw 4 3 9m8 9nt
9nk 4 5 9m8 9nt 9nk 9mw 9o3 4 5 9m7 9nv 9mk 9lw 9nx 4 4 9m7 9nx 9oc 9n1 4 3 9m9 9oc 9mh 4 3 9mb
9nv 9my 4 3 9mb 9oc 9nh 4 4 9md 9lw 9m7 9nv 4 5 9md 9o3 9mp 9oc 9nk 4 4 9mf 9nu 9o3 9m8 4 3 9mj
9o3 9mp 4 3 9mj 9o3 9mw 4 3 9mo 9oc 9mh 4 2 9mv 9mf 4 2 9mx 9nv 4 2 9mw 9o3 4 2 9my 9n2 4 3 9n2
9mr 9mw 4 3 9n3 9lw 9ms 4 5 9n5 9oc 9mj 9o3 9mw 4 3 9n5 9oc 9ms 4 4 9n4 9oc 9nw 9nv 4 5 9n8 9lu
9mh 9mw 9nv 4 3 9n8 9m7 9nv 4 2 9n8 9mb 4 2 9n7 9nv 4 5 9n9 9lt 9nt 9mr 9mx 4 4 9n9 9lv 9oc 9mw 4
5 9na 9mr 9mf 9lz 9nv 4 3 9n9 9nt 9o3 4 5 9nc 9m7 9mn 9oc 9nv 4 2 9ne 9ml 4 3 9ne 9mz 9n6 4 3 9nc
9nv 9ms 4 3 9ne 9o3 9mh 4 3 9ne 9oc 9mg 4 3 9nd 9oc 9mn 4 4 9nh 9lw 9o3 9mw 4 3 9ng 9nv 9mw 4 2
9nf 9o3 4 3 9nh 9o3 9mx 4 3 9nf 9oc 9nv 4 3 9nf 9oc 9o3 4 4 9ni 9lw 9m7 9nx 4 3 9ni 9lw 9nv 4 3
9ni 9mr 9n3 4 3 9ni 9nv 9m7 4 5 9ni 9o3 9mf 9nr 9o3 4 4 9nj 9m7 9nx 9o3 4 2 9nj 9nu 4 5 9nj 9nu
9n4 9oc 9nv 4 2 9nl 9m4 4 4 9nl 9m4 9mw 9o3 4 4 9nl 9oc 9mw 9nv 4 3 9no 9oc 9mx 4 3 9no 9oc 9nv 4
3 9nq 9lu 9o3 4 4 9nu 9mr 9mw 9nv 4 2 9nu 9nt 4 3 9nv 9n8 9oc 4 4 9nv 9oc 9na 9nv 4 2 9nw 9nk 4 5
9nw 9o3 9mw 9ma 9o3 4 3 9nz 9mr 9mw 4 2 1c m9l 4 2 1d m9l 4 2 1e m9l 4 2 1f m9l 4 2 1g m9l 4 2 1h
m9l 4 2 1i m9l 4 2 1j m9l 4 2 1k m9l 4 2 1l m9l 4 3 1d 1c m9l 4 3 1d 1d m9l 4 3 1d 1e m9l 4 3 1d
1f m9l 4 3 1d 1g m9l 4 3 1d 1h m9l 4 3 1d 1i m9l 4 3 1d 1j m9l 4 3 1d 1k m9l 4 3 1d 1l m9l 4 3 1e
1c m9l 4 3 1e 1d m9l 4 3 1e 1e m9l 4 3 1e 1f m9l 4 3 1e 1g m9l 4 3 2w 34 2p 4 2 2s 2p 4 2 2p 39 4
3 2q 2p 36 4 2 33 3a 4 2 34 2r 4 2 2s 31 4 3 2s 31 1e 4 3 2s 31 1f 4 2 2x 39 4 2 inn jdc 4 2 k6l
gp8 4 2 hlz l7n 4 2 k5q lh7 4 4 kkq irz fmi ny6 4 2 34 2p 4 2 32 2p 4 2 qk 2p 4 2 31 2p 4 2 2z 2p
4 2 2z 2q 4 2 31 2q 4 2 2v 2q 4 3 2r 2p 30 4 4 2z 2r 2p 30 4 2 34 2u 4 2 32 2u 4 2 qk 2u 4 2 qk
2v 4 2 31 2v 4 2 2z 2v 4 2 2w 3e 4 3 2z 2w 3e 4 3 31 2w 3e 4 3 2v 2w 3e 4 3 38 2w 3e 4 2 qk 30 4
2 31 30 4 2 2s 30 4 2 2z 30 4 2 2u 31 4 2 32 31 4 2 qk 31 4 2 31 31 4 2 2r 31 4 2 2z 31 4 3 31 31
1e 4 3 2r 31 1e 4 2 31 1e 4 3 2z 31 1e 4 3 31 31 1f 4 3 2r 31 1f 4 2 31 1f 4 3 2z 31 1f 4 3 31
6qd 37 4 4 31 6qd 37 1e 4 2 34 2p 4 3 2z 34 2p 4 3 31 34 2p 4 3 2v 34 2p 4 3 36 2p 2s 4 5 36 2p
2s 6qd 37 4 6 36 2p 2s 6qd 37 1e 4 2 34 37 4 2 32 37 4 2 qk 37 4 2 31 37 4 2 34 3a 4 2 32 3a 4 2
qk 3a 4 2 31 3a 4 2 2z 3a 4 2 31 3a 4 2 34 3b 4 2 32 3b 4 2 qk 3b 4 2 31 3b 4 2 2z 3b 4 2 31 3b 4
2 2z qx 4 2 31 qx 1 1 4 2 2q 35 4 2 2r 2r 4 2 2r 2s 4 4 2r 6qd 2z 2v 1 1 4 2 2s 2q 4 2 2v 3d 4 2
2w 2p 4 2 2w 34 4 2 2x 32 4 2 2z 2z 4 2 2z 31 4 2 2z 38 4 2 30 31 4 2 30 32 4 3 30 33 2v 4 2 30
3c 4 2 31 2q 4 3 31 2x 30 4 3 31 33 30 4 2 34 2w 1 1 4 3 34 34 31 4 2 34 36 4 2 37 36 4 2 37 3a 4
2 3b 2q 4 3 3a 6qd 31 4 3 2p 6qd 31 4 2 1d k4l 4 2 1e k4l 4 2 1f k4l 4 2 1g k4l 4 2 1h k4l 4 2 1i
k4l 4 2 1j k4l 4 2 1k k4l 4 2 1l k4l 4 3 1d 1c k4l 4 3 1d 1d k4l 4 3 1d 1e k4l 4 3 1d 1f k4l 4 3
1d 1g k4l 4 3 1d 1h k4l 4 3 1d 1i k4l 4 3 1d 1j k4l 4 3 1d 1k k4l 4 3 1d 1l k4l 4 3 1e 1c k4l 4 3
1e 1d k4l 4 3 1e 1e k4l 4 3 1e 1f k4l 4 3 1e 1g k4l 4 3 1e 1h k4l 4 3 1e 1i k4l 4 3 1e 1j k4l 4 3
1e 1k k4l 4 3 1e 1l k4l 4 3 1f 1c k4l 4 3 1f 1d k4l 4 3 2v 2p 30 0 m8d 1 3 0 1j 1 9 0 9o 1 k 3 1
wu9 0 1 3 1 wub 0 1 3 1 wud 0 1 3 1 wuf 0 1 3 1 wuh 0 1 3 1 wuj 0 1 3 1 wul 0 1 3 1 wun 0 1 3 1
wup 0 1 3 1 wur 0 1 3 1 wut 0 1 3 1 wuv 0 1 3 1 wux 0 1 3 1 wuz 0 1 3 1 wv1 0 1 3 1 wv3 0 1 3 1
wv5 0 1 3 1 wv7 0 1 3 1 wv9 0 1 3 1 wvb 0 1 3 1 wvd 0 1 3 1 wvf 0 1 3 1 wvh 0 j 3 1 ww1 0 1 3 1
ww3 0 1 3 1 ww5 0 1 3 1 ww7 0 1 3 1 ww9 0 1 3 1 wwb 0 1 3 1 wwd 0 1 3 1 wwf 0 1 3 1 wwh 0 1 3 1
wwj 0 1 3 1 wwl 0 1 3 1 wwn 0 1 3 1 wwp 0 1 3 1 wwr 0 1 3 1 ui 3 1 uk 0 2i 1 8 0 y 3 1 x0j 0 1 3
1 x0l 0 1 3 1 x0n 0 1 3 1 x0p 0 1 3 1 x0r 0 1 3 1 x0t 0 1 3 1 x0v 0 3 3 1 x0z 0 1 3 1 x11 0 1 3 1
x13 0 1 3 1 x15 0 1 3 1 x17 0 1 3 1 x19 0 1 3 1 x1b 0 1 3 1 x1d 0 1 3 1 x1f 0 1 3 1 x1h 0 1 3 1
x1j 0 1 3 1 x1l 0 1 3 1 x1n 0 1 3 1 x1p 0 1 3 1 x1r 0 1 3 1 x1t 0 1 3 1 x1v 0 1 3 1 x1x 0 1 3 1
x1z 0 1 3 1 x21 0 1 3 1 x23 0 1 3 1 x25 0 1 3 1 x27 0 1 3 1 x29 0 1 3 1 x2b 0 1 3 1 x2d 0 1 3 1
x2f 0 1 3 1 x2h 0 1 3 1 x2j 0 1 3 1 x2l 0 1 3 1 x2n 0 1 3 1 x2n 0 8 3 1 x2y 0 1 3 1 x30 0 1 3 1
5tl 3 1 x33 0 1 3 1 x35 0 1 3 1 x37 0 1 3 1 x39 0 1 3 1 x3b 0 4 3 1 x3g 0 1 3 1 h1 0 2 3 1 x3l 0
1 3 1 x3n 0 3 3 1 x3r 0 1 3 1 x3t 0 1 3 1 x3v 0 1 3 1 x3x 0 1 3 1 x3z 0 1 3 1 x41 0 1 3 1 x43 0 1
3 1 x45 0 1 3 1 x47 0 1 3 1 x49 0 1 3 1 h2 3 1 gs 3 1 gx 3 1 h8 3 1 h6 0 1 3 1 im 3 1 hz 3 1 il 3
1 xub 3 1 x4l 0 1 3 1 x4n 0 1 3 1 x4p 0 1 3 1 x4r 0 1 3 1 x4t 0 1 3 1 x4v 0 1 3 1 x4x 0 1 3 1 x4z
0 1 3 1 x3o 3 1 hu 3 1 5u6 3 1 x54 0 1 3 1 x56 0 1 3 1 h0 3 1 x59 0 1 3 1 x5b 0 1 3 1 x5d 0 1 3 1
x5f 0 1 3 1 x5h 0 1 3 1 x5j 0 1 3 1 x5l 0 1 3 1 x5n 0 1 3 1 bf 1 k 3 1 37 3 1 2r 3 1 2u 3 1 35 3
1 x6e 0 2 3 1 87 3 1 9f 0 1f 1 3 0 a 1 6 0 1k 1 8 0 1y 1 8 0 c 1 6 0 38 1 b 0 u 1 3 0 26 1 1 0 b
1 4 0 x 1 1 0 1j 1 9 0 e 1 2 0 a 1 2 0 2v 1 o 0 s 1 a 0 6 1 2 0 6 1 2 0 6 1 9 0 7 1 1 0 7 1 1 0
18 3 1 x0n 3 1 xtj 3 1 h7 3 1 xua 0 9 3 1 i5 0 2 1 4 3 28 3vk 0 1a 1 2 0 a 1 6 0 8mc 1 c 0 n 1 4
0 1d 1 6is 3 1 rpk 3 1 kc4 3 1 s7e 3 1 rt4 3 1 lw1 3 1 fg2 3 1 gkl 3 1 vj0 3 1 vj0 3 1 hn5 3 1
ssx 3 1 gw7 3 1 hmw 3 1 jcm 3 1 ne1 3 1 p6t 3 1 qin 3 1 qt6 3 1 r20 3 1 sjz 3 1 kxu 3 1 ljv 3 1
mah 3 1 mvy 3 1 q4d 3 1 sq2 3 1 uep 3 1 fia 3 1 ghh 3 1 l50 3 1 mjf 3 1 qi5 3 1 v8e 3 1 ifk 3 1
m3v 3 1 qfh 3 1 r50 3 1 jih 3 1 pnc 3 1 qvz 3 1 iq2 3 1 kd3 3 1 lm2 3 1 mpo 3 1 slq 3 1 fpi 3 1
g53 3 1 gda 3 1 jwk 3 1 l3n 3 1 mj4 3 1 nhj 3 1 pa9 3 1 qh2 3 1 qjg 3 1 s1b 3 1 tv6 3 1 upb 3 1
v7e 3 1 nt8 3 1 nzz 3 1 otc 3 1 q15 3 1 t1g 3 1 vb3 3 1 rfa 3 1 hjz 3 1 iro 3 1 okg 3 1 pdq 3 1
mle 3 1 nuy 3 1 rsy 3 1 ttj 3 1 hjs 3 1 i8y 3 1 kyb 3 1 lp6 3 1 lxr 3 1 oq7 3 1 oxj 3 1 tor 3 1
gcy 3 1 pe3 3 1 g64 3 1 g5o 3 1 o4c 3 1 ou6 3 1 q29 3 1 tpx 3 1 rk0 3 1 jin 3 1 kxu 3 1 rge 3 1
fg9 3 1 i5j 3 1 iz6 3 1 mtj 3 1 n74 3 1 gev 3 1 nwb 3 1 fr3 3 1 iw9 3 1 ff1 3 1 lho 3 1 k1k 3 1
opu 3 1 gjn 3 1 hge 3 1 ni9 3 1 q4p 3 1 re2 3 1 la2 3 1 sds 3 1 lfs 3 1 jjy 3 1 put 3 1 jog 3 1
n6t 3 1 fji 3 1 g2x 3 1 g5l 3 1 kn5 3 1 oo7 3 1 prj 3 1 rf6 3 1 ssv 3 1 gdx 3 1 gn6 3 1 ho3 3 1
ir0 3 1 k3p 3 1 m4e 3 1 nxm 3 1 tkd 3 1 ui2 3 1 vbr 3 1 vda 3 1 gbf 3 1 kau 3 1 l87 3 1 sbm 3 1
ino 3 1 j9s 3 1 jcw 3 1 jve 3 1 lyb 3 1 mdl 3 1 n0p 3 1 o22 3 1 ovo 3 1 pdb 3 1 s9y 3 1 q9a 3 1
sgz 3 1 t3e 3 1 g7r 3 1 gbn 3 1 gql 3 1 ma0 3 1 r0i 3 1 re2 3 1 iq1 3 1 iyd 3 1 jnf 3 1 l9q 3 1
oji 3 1 mt1 3 1 fl0 3 1 h6h 3 1 i5j 3 1 iii 3 1 izg 3 1 muq 3 1 mzt 3 1 p7e 3 1 pc6 3 1 svo 3 1
tti 3 1 tvs 3 1 u1k 3 1 fpn 3 1 o1a 3 1 ss4 3 1 trs 3 1 j4x 3 1 fie 3 1 fyy 3 1 i5q 3 1 i7z 3 1
k2h 3 1 kxu 3 1 mha 3 1 ncy 3 1 q9o 3 1 sjg 3 1 vil 3 1 k94 3 1 tny 3 1 gax 3 1 kfv 3 1 kj7 3 1
lkx 3 1 luk 3 1 mx5 3 1 n6h 3 1 nsb 3 1 opc 3 1 u3i 3 1 g31 3 1 je6 3 1 tq0 3 1 fu3 3 1 ie1 3 1
lpm 3 1 sa2 3 1 ivf 3 1 j7o 3 1 kk7 3 1 mtj 3 1 tqe 3 1 g89 3 1 glr 3 1 i91 3 1 k5v 3 1 kem 3 1
ko8 3 1 lid 3 1 mx2 3 1 naa 3 1 p6h 3 1 r0v 3 1 r1d 3 1 sss 3 1 tsy 3 1 gfz 3 1 lve 3 1 gm5 3 1
mhc 3 1 n14 3 1 qgq 3 1 tr7 3 1 uvr 3 1 vbz 3 1 kgn 3 1 lor 3 1 pns 3 1 o97 3 1 obk 3 1 olu 3 1
mo0 3 1 m8p 3 1 riw 3 1 fk0 3 1 px2 3 1 g8q 3 1 g7b 3 1 ip2 3 1 jir 3 1 onq 3 1 i2t 3 1 ljy 3 1
kac 3 1 saj 3 1 qx8 3 1 tot 3 1 r63 3 1 iqb 3 1 g1s 3 1 gxs 0 2 3 1 hga 0 1 3 1 k8k 0 2 3 1 g66 3
1 mqy 3 1 ngq 3 1 ny4 3 1 nz2 3 1 nz9 3 1 o0f 3 1 tw6 3 1 on2 3 1 p8d 0 1 3 1 qhe 0 1 3 1 rg8 0 2
3 1 shk 3 1 sn1 0 3 3 1 u7j 3 1 u7w 3 1 u94 3 1 v5g 3 1 sm6 3 1 trr 3 1 fqm 3 1 fzb 3 1 g25 3 1
gcp 3 1 gdg 3 1 ggh 3 1 gwt 3 1 gzq 3 1 h2g 3 1 hfk 3 1 hig 3 1 i90 3 1 i9a 3 1 j2s 3 1 j8o 3 1
j9q 3 1 jci 3 1 k0f 3 1 k4i 3 1 k9d 3 1 kn9 3 1 lmf 3 1 lqy 3 1 lya 3 1 mem 3 1 mjv 3 1 mxu 3 1
ntd 3 1 ny6 3 1 nyh 3 1 nyg 3 1 nyo 3 1 nyu 3 1 nz1 3 2 o0d 3 1 o5c 3 1 o75 3 1 og0 3 1 ovo 3 1
ow9 3 1 oxt 3 1 p6a 3 1 pad 3 1 pnx 3 1 prt 3 1 prt 3 1 q53 3 1 r2o 3 1 r6e 3 1 rgh 3 1 ri1 3 1
rtf 3 1 ruw 3 1 sdy 3 1 shk 3 1 tsz 3 1 u0v 3 1 u2j 3 1 j1x 3 1 36cu 3 1 pp4 1 2 3 1 ffq 3 1 g51
3 1 g2w 3 1 fpc 3 1 g1x 3 1 g3k 3 1 gcn 3 1 ge2 3 1 gwt 3 1 gut 3 1 gwp 3 1 gyq 3 1 hga 3 1 hir 3
1 hms 3 1 hn8 3 1 huq 3 1 i08 3 1 iqa 3 1 iqh 3 1 iuh 3 1 iwd 3 1 j4o 3 1 j7y 3 1 j60 3 1 j9q 3 1
j8g 3 1 jci 3 1 jec 3 1 jpg 3 1 jrw 3 1 jte 3 1 k0m 3 1 k8k 3 1 kd3 3 1 kd7 3 1 keu 3 1 l89 3 1
la2 3 1 lkx 3 1 lwb 3 1 lvv 3 1 lya 3 1 m5a 3 1 mem 3 1 nmv 3 1 mk5 3 1 mnj 3 1 mqy 3 1 n01 3 1
n46 3 1 n5n 3 1 nbx 3 1 nbz 3 1 ngq 3 1 nh7 3 1 nhw 3 1 nka 3 1 nk0 3 1 nv0 3 1 o8h 3 1 og0 3 1
ol7 3 1 orf 3 1 ovo 3 1 p4u 3 1 pad 3 1 pxu 3 1 q27 3 1 qrd 3 1 r41 3 1 r5y 3 1 r6e 3 1 ren 3 1
rg8 3 1 rez 3 1 rgh 3 1 rge 3 1 rfx 3 1 ri1 3 1 rka 3 1 ruw 3 1 sag 3 1 sj6 3 1 srd 3 1 sxi 3 1
tq4 3 1 tsz 3 1 tw6 3 1 tzv 3 1 u0v 3 1 u17 3 1 u2j 3 1 umq 3 1 vj0 3 1 313e 3 1 3138 3 1 33dh 3
1 brx 3 1 cns 3 1 cop 3 1 39e1 3 1 3bgw 3 1 3i6r 3 1 vgj 3 1 vim 1 12 4 2 2u 2u 4 2 2u 2x 4 2 2u
30 4 3 2u 2u 2x 4 3 2u 2u 30 4 2 37 38 4 2 37 38 1 c 4 2 12s 12u 4 2 12s 12d 4 2 12s 12j 4 2 132
12u 4 2 12s 12l 1 5 4 2 15l 14k 0 1 4 2 16a 14n 3 1 15u 3 1 15c 3 2 15f 3 3 15n 3 1 160 3 1 162 3
1 17 4 2 161 14x 4 2 161 14y 4 3 161 14s 14x 4 3 161 14s 14y 4 2 15c 14n 4 2 15c 14o 4 2 15c 14s
4 2 15d 14s 4 2 15e 14s 4 2 15f 14s 4 2 15g 14s 4 2 15h 14s 4 2 15i 14s 1 1 4 2 15k 14s 4 2 15l
14s 4 2 15m 14s 4 2 15n 14s 4 2 15o 14s 1 1 4 2 15q 14s 1 1 4 2 15s 14s 4 2 15t 14s 1 1 4 2 15v
14s 4 2 15w 14s 1 1 4 2 15y 14s 4 2 15z 14s 4 2 160 14s 4 2 161 14s 4 2 162 14s 4 2 15h 14p 4 2
15d 14v 4 2 15n 14v 4 2 15w 14v 4 2 15c 15o 3 1 19t 3 1 19t 3 1 1a3 3 1 1a3 3 1 1a3 3 1 1a3 3 1
1a6 3 1 1a6 3 1 1a6 3 1 1a6 3 1 1a8 3 1 1a8 3 1 1a8 3 1 1a8 3 1 1a2 3 1 1a2 3 1 1a2 3 1 1a2 3 1
1a7 3 1 1a7 3 1 1a7 3 1 1a7 3 1 1a1 3 1 1a1 3 1 1a1 3 1 1a1 3 1 1b8 3 1 1b8 3 1 1b8 3 1 1b8 3 1
1ba 3 1 1ba 3 1 1ba 3 1 1ba 3 1 1ac 3 1 1ac 3 1 1ac 3 1 1ac 3 1 1ab 3 1 1ab 3 1 1ab 3 1 1ab 3 1
1ae 3 1 1ae 3 1 1ae 3 2 1ae 3 1 1af 3 1 1af 3 1 1af 3 1 1al 3 1 1al 3 1 1ak 3 1 1ak 3 1 1am 3 1
1am 3 1 1ag 3 1 1ag 3 1 1aw 3 1 1aw 3 1 1ap 3 1 1ap 3 1 1bd 3 1 1bd 3 1 1bd 3 1 1bd 3 1 1bj 3 1
1bj 3 1 1bj 3 1 1bj 3 1 1bn 3 1 1bn 3 1 1bn 3 1 1bn 3 1 1bl 3 1 1bl 3 1 1bl 3 1 1bl 3 1 1bu 3 2
1bu 3 1 1bv 3 1 1bv 3 1 1bv 3 1 1c0 3 2 1c0 3 1 1c1 3 1 1c1 3 1 1c1 3 1 1by 3 1 1by 3 1 1by 3 1
1by 3 1 1ci 3 2 1ci 3 1 1cj 0 x 3 1 1bh 3 1 1bh 3 1 1bh 3 1 1bh 3 1 1c7 3 1 1c7 3 1 1c6 3 1 1c6 3
1 1c8 3 1 1c8 4 2 1c7 19w 3 1 1cb 3 1 1cb 3 1 1c5 3 1 1c5 3 1 1c9 3 1 1c9 3 1 1cg 3 1 1cg 3 1 1cg
3 1 1cg 3 1 18p 3 1 18p 4 2 17q 17r 4 2 17q 17r 4 2 17q 1cl 4 2 17q 1cl 4 2 17q 18o 4 2 17q 18o 4
2 17q 1c7 4 2 17q 1c7 4 2 17q 1c6 4 2 17q 1c6 4 2 17q 1c8 4 2 17q 1c8 4 2 17q 1cg 4 2 17q 1cg 4 2
17q 1cg 4 2 17q 18p 4 2 17q 18p 4 2 17q 18p 3 1 1cc 3 1 1cc 3 1 1cc 3 1 1cc 4 2 17q 17w 4 2 17q
17x 4 2 17q 18l 4 2 17q 18p 4 2 17q 18q 4 2 17s 17w 4 2 17s 17x 4 2 17s 17y 4 2 17s 18l 4 2 17s
18p 4 2 17s 18q 4 2 17u 17w 4 2 17u 17x 4 2 17u 17y 4 2 17u 18l 4 2 17u 18p 4 2 17u 18q 4 2 17v
17w 4 2 17v 18l 4 2 17v 18p 4 2 17v 18q 4 2 17w 17x 4 2 17w 18l 4 2 17x 17w 4 2 17x 18l 4 2 17y
17w 4 2 17y 17x 4 2 17y 18l 4 2 183 17w 4 2 183 17x 4 2 183 17y 4 2 183 18l 4 2 185 17x 4 2 185
18l 4 2 186 17w 4 2 186 17x 4 2 186 17y 4 2 186 18l 4 2 187 17x 4 2 187 18l 4 2 188 18l 4 2 189
17w 4 2 189 18l 4 2 18a 17w 4 2 18a 18l 4 2 18h 17w 4 2 18h 17x 4 2 18h 17y 4 2 18h 18l 4 2 18h
18p 4 2 18h 18q 4 2 18i 17x 4 2 18i 18l 4 2 18i 18p 4 2 18i 18q 4 2 18j 17r 4 2 18j 17w 4 2 18j
17x 4 2 18j 17y 4 2 18j 18k 4 2 18j 18l 4 2 18j 18p 4 2 18j 18q 4 2 18k 17w 4 2 18k 17x 4 2 18k
17y 4 2 18k 18l 4 2 18k 18p 4 2 18k 18q 4 2 18l 17w 4 2 18l 17x 4 2 18l 17y 4 2 18l 18l 4 2 18l
18p 4 2 18l 18q 4 2 18m 17w 4 2 18m 17x 4 2 18m 17y 4 2 18m 18l 4 2 18m 18p 4 2 18m 18q 4 2 18n
17w 4 2 18n 18l 4 2 18n 18p 4 2 18n 18q 4 2 18q 17w 4 2 18q 17x 4 2 18q 17y 4 2 18q 18l 4 2 18q
18p 4 2 18q 18q 4 2 180 19s 4 2 181 19s 4 2 18p 19s 4 3 w 18s 18x 4 3 w 18t 18x 4 3 w 18u 18x 4 3
w 18v 18x 4 3 w 18w 18x 4 3 w 18x 19s 4 2 17q 181 4 2 17q 182 4 2 17q 18l 4 2 17q 18m 4 2 17q 18p
4 2 17q 18q 4 2 17s 181 4 2 17s 182 4 2 17s 18l 4 2 17s 18m 4 2 17s 18p 4 2 17s 18q 4 2 17u 181 4
2 17u 182 4 2 17u 18l 4 2 17u 18m 4 2 17u 18p 4 2 17u 18q 4 2 17v 181 4 2 17v 182 4 2 17v 18l 4 2
17v 18m 4 2 17v 18p 4 2 17v 18q 4 2 18h 18p 4 2 18h 18q 4 2 18i 18p 4 2 18i 18q 4 2 18j 17r 4 2
18j 18k 4 2 18j 18l 4 2 18j 18p 4 2 18j 18q 4 2 18k 18l 4 2 18k 18p 4 2 18k 18q 4 2 18l 17r 4 2
18l 18l 4 2 18m 181 4 2 18m 182 4 2 18m 18l 4 2 18m 18m 4 2 18m 18p 4 2 18m 18q 4 2 18p 19s 4 2
18q 181 4 2 18q 182 4 2 18q 18l 4 2 18q 18m 4 2 18q 18p 4 2 18q 18q 4 2 17q 17w 4 2 17q 17x 4 2
17q 17y 4 2 17q 18l 4 2 17q 18n 4 2 17s 17w 4 2 17s 17x 4 2 17s 17y 4 2 17s 18l 4 2 17s 18n 4 2
17u 17w 4 2 17u 17x 4 2 17u 17y 4 2 17u 18l 4 2 17u 18n 4 2 17v 18l 4 2 17w 17x 4 2 17w 18l 4 2
17x 17w 4 2 17x 18l 4 2 17y 17w 4 2 17y 18l 4 2 183 17w 4 2 183 17x 4 2 183 17y 4 2 183 18l 4 2
185 17x 4 2 185 17y 4 2 185 18l 4 2 186 17w 4 2 186 17x 4 2 186 17y 4 2 186 18l 4 2 187 17x 4 2
188 18l 4 2 189 17w 4 2 189 18l 4 2 18a 17w 4 2 18a 18l 4 2 18h 17w 4 2 18h 17x 4 2 18h 17y 4 2
18h 18l 4 2 18i 17x 4 2 18i 18l 4 2 18j 17w 4 2 18j 17x 4 2 18j 17y 4 2 18j 18k 4 2 18j 18l 4 2
18k 17w 4 2 18k 17x 4 2 18k 17y 4 2 18k 18l 4 2 18k 18n 4 2 18l 17w 4 2 18l 17x 4 2 18l 17y 4 2
18l 18l 4 2 18m 17w 4 2 18m 17x 4 2 18m 17y 4 2 18m 18l 4 2 18m 18n 4 2 18n 17w 4 2 18n 18l 4 2
18n 19s 4 2 18q 17w 4 2 18q 17x 4 2 18q 17y 4 2 18q 18l 4 2 18q 18n 4 2 17q 18l 4 2 17q 18n 4 2
17s 18l 4 2 17s 18n 4 2 17u 18l 4 2 17u 18n 4 2 17v 18l 4 2 17v 18n 4 2 183 18l 4 2 183 18n 4 2
184 18l 4 2 184 18n 4 2 18j 18k 4 2 18j 18l 4 2 18k 18l 4 2 18m 18l 4 2 18m 18n 4 2 18q 18l 4 2
18q 18n 4 3 18g 18u 18x 4 3 18g 18v 18x 4 3 18g 18w 18x 4 2 187 18p 4 2 187 18q 4 2 189 18p 4 2
189 18q 4 2 18a 18p 4 2 18a 18q 4 2 183 18p 4 2 183 18q 4 2 184 18p 4 2 184 18q 4 2 17x 18p 4 2
17x 18q 4 2 17w 18p 4 2 17w 18q 4 2 17y 18p 4 2 17y 18q 4 2 185 18p 4 2 185 18q 4 2 186 18p 4 2
186 18q 4 2 184 17w 4 2 184 17x 4 2 184 17y 4 2 184 18l 4 2 184 181 4 2 183 181 4 2 185 181 4 2
186 181 4 2 187 18p 4 2 187 18q 4 2 189 18p 4 2 189 18q 4 2 18a 18p 4 2 18a 18q 4 2 183 18p 4 2
183 18q 4 2 184 18p 4 2 184 18q 4 2 17x 18p 4 2 17x 18q 4 2 17w 18p 4 2 17w 18q 4 2 17y 18p 4 2
17y 18q 4 2 185 18p 4 2 185 18q 4 2 186 18p 4 2 186 18q 4 2 184 17w 4 2 184 17x 4 2 184 17y 4 2
184 18l 4 2 184 181 4 2 183 181 4 2 185 181 4 2 186 181 4 2 184 17w 4 2 184 17x 4 2 184 17y 4 2
184 18l 4 2 183 18n 4 2 184 18n 4 2 187 18l 4 2 183 17w 4 2 183 17x 4 2 183 17y 4 2 184 17w 4 2
184 17x 4 2 184 17y 4 2 187 18l 4 2 188 18l 4 2 17r 18r 4 2 17r 18r 0 i 4 3 17u 17w 18l 4 3 17u
17x 17w 4 3 17u 17x 17w 4 3 17u 17x 18l 4 3 17u 17y 18l 4 3 17u 18l 17w 4 3 17u 18l 17x 4 3 17u
18l 17y 4 3 17w 18l 17x 4 3 17w 18l 17x 4 3 17x 18l 18q 4 3 17x 18l 18p 4 3 183 17x 17w 4 3 183
17w 17x 4 3 183 17w 18p 4 3 183 18l 17x 4 3 183 18l 17x 4 3 183 18l 17w 4 3 183 18l 18l 4 3 183
18l 18l 4 3 185 17x 17x 4 3 185 17x 17x 4 3 185 18l 18l 4 3 184 17x 18l 4 3 184 17x 18l 4 3 184
17w 18q 4 3 184 18l 17y 4 3 184 18l 17y 4 3 184 18l 18l 4 3 184 18l 18l 4 3 186 17x 18p 4 3 186
17y 18l 4 3 186 17y 18l 4 3 187 18l 17x 4 3 187 18l 17x 4 3 187 18l 18l 4 3 187 18l 18q 4 3 189
17w 18l 4 3 189 18l 18l 4 3 189 18l 18l 4 3 189 18l 18p 4 3 18a 18l 18l 4 3 18a 18l 18q 4 3 18a
18l 18p 4 3 18h 17y 18l 4 3 18h 17y 18l 4 3 18i 18l 17x 4 3 18i 18l 18l 4 3 18k 17x 18l 4 3 18k
17x 18q 4 3 18k 17x 18p 4 3 18k 17w 17w 4 3 18k 17w 17w 4 3 18k 17y 18l 4 3 18k 17y 18l 4 3 18k
18l 17x 4 3 18k 18l 17x 4 3 18l 17x 17w 4 3 18l 17x 18l 4 3 18l 17x 18q 4 3 18l 17w 17x 4 3 18l
17w 18l 4 3 18l 17y 17w 4 3 18l 17y 18l 0 2 4 3 18l 17w 17y 4 3 18n 18l 17w 4 3 18n 18l 18l 4 3
18m 17x 18l 4 3 18m 17x 18p 4 3 18m 17w 18l 4 3 18m 17w 18l 4 3 18m 17w 18p 4 3 18m 18l 18q 4 3
18m 18l 18p 4 3 18q 18l 18l 4 3 18q 18l 18l 4 3 17s 17y 18q 4 3 17u 17w 18q 4 3 17u 17w 18p 4 3
17u 17y 18q 4 3 17u 17y 18p 4 3 17u 18l 18q 4 3 17u 18l 18p 4 3 17w 18l 18q 4 3 17w 17x 18p 4 3
17w 18l 18p 4 3 183 17y 18p 4 3 185 17x 18q 4 3 184 17x 18q 4 3 186 17x 18q 4 3 18k 17w 18q 4 3
18k 18l 18q 4 3 18q 17x 18q 4 3 18q 17w 18q 4 3 18q 18l 18q 4 3 18l 18l 18q 4 3 18i 18l 18q 4 3
18m 17x 18q 4 3 18i 18l 17x 4 3 18k 17x 18l 4 3 189 18l 18q 4 3 18j 18l 18q 4 3 18m 17w 17x 4 3
18l 17y 18q 4 3 18k 17w 18l 4 3 18j 18l 18l 4 3 18k 17w 18l 4 3 18m 17w 17x 4 3 17w 17x 18q 4 3
17x 17w 18q 4 3 18l 17w 18q 4 3 18h 18l 18q 4 3 17s 17x 18q 4 3 18j 18l 18l 4 3 189 17w 18l 4 3
185 18l 18l 4 3 183 17y 18q 4 3 18m 17w 18q 0 8 1 w 4 3 185 18k 1ci 4 3 18i 18k 1ci 4 4 17r 18k
18k 18n 4 4 17r 18j 17s 181 4 4 18l 17x 18l 17z 4 4 185 18k 189 18l 4 4 181 183 18o 18k 4 4 189
18k 18q 18n 4 4 18o 183 18k 18l 4 3 185 18k 18p 4 i 185 18k 18p w 17r 18k 18k 18n w 189 18k 18q
18n w 18o 183 18k 18l 4 8 17w 18k w 17w 18k 17r 18k 18n 4 4 181 1cc 17r 18k 0 3 2 g 3 1 18 3 1
9hd 1 1 3 2 1m 3 1 x 3 1 1r 3 2 9hy 1 7 0 g 1 1 3 1 6c4 3 1 6c3 3 1 2n 3 1 2n 3 2 14 3 1 3f 3 1
3h 3 2 9hw 3 2 9hs 3 2 9hm 3 2 9hk 3 4 9ho 0 2 3 1 2j 3 1 2l 4 2 w lh 4 2 w lh 4 2 w lh 4 2 w lh
3 1 2n 3 1 2n 3 1 2n 3 1 18 3 1 9hd 1 2 3 1 1n 3 1 1m 3 1 1r 3 1 x 3 1 6c4 3 2 14 3 1 3f 3 1 3h 3
2 9hw 3 1 z 3 1 12 3 2 16 3 1 19 3 1 1o 3 1 1q 3 1 1p 1 1 3 1 2k 3 2 10 3 1 1s 1 4 4 2 w 18r 4 2
18g 18r 4 2 w 18s 0 1 4 2 w 18t 1 1 4 2 w 18u 4 2 18g 18u 4 2 w 18v 4 2 18g 18v 4 2 w 18w 4 2 18g
18w 4 2 w 18x 4 2 18g 18x 4 2 w 18y 4 2 18g 18y 3 2 17l 3 2 17m 3 2 17n 3 2 17o 3 2 17p 3 1 17q 3
1 17q 3 2 17q 3 2 17r 3 1 17s 3 1 17s 3 2 17s 3 2 17t 3 1 17u 3 1 17u 3 2 17u 3 1 17v 3 1 17v 3 2
17v 3 1 17w 3 1 17w 3 2 17w 3 1 17x 3 1 17x 3 2 17x 3 1 17y 3 1 17y 3 2 17y 3 2 17z 3 2 180 3 2
181 3 2 182 3 1 183 3 1 183 3 2 183 3 1 184 3 1 184 3 2 184 3 1 185 3 1 185 3 2 185 3 1 186 3 1
186 3 2 186 3 1 187 3 1 187 3 2 187 3 1 188 3 1 188 3 2 188 3 1 189 3 1 189 3 2 189 3 1 18a 3 1
18a 3 1 18a 3 1 18h 3 1 18h 3 1 18h 3 2 18h 3 1 18i 3 1 18i 3 2 18i 3 1 18j 3 1 18j 3 2 18j 3 1
18k 3 1 18k 3 2 18k 3 1 18l 3 1 18l 3 2 18l 3 1 18m 3 1 18m 3 2 18m 3 1 18n 3 1 18n 3 2 18n 3 2
18o 3 2 18p 3 1 18q 3 1 18q 3 1 18q 4 2 18k 17m 4 2 18k 17m 4 2 18k 17n 4 2 18k 17n 4 2 18k 17p 4
2 18k 17p 4 2 18k 17r 4 2 18k 17r 1 2 2 1 1 1 3 w x 3 q 2p 3 10 2j 3 2 879 3 1 1a 3 2 9ho 3 1 9hd
3 1 9ob 3 1 9o2 3 1 9lt 3 1 9lv 3 1 9lx 3 1 9lz 3 1 9m1 3 1 9nn 3 1 9np 3 1 9nr 3 1 9mr 3 1 9oc 3
1 9lu 3 1 9lw 3 1 9ly 3 1 9m0 3 2 9m2 3 1 9m5 3 1 9m7 3 1 9m9 3 1 9mb 3 1 9md 3 1 9mf 3 1 9mh 3 1
9mj 3 1 9ml 3 1 9mn 3 1 9mp 3 1 9ms 3 1 9mu 3 1 9mw 3 6 9my 3 1 9n6 3 1 9n9 3 1 9nc 3 1 9nf 3 5
9ni 3 1 9no 3 1 9nq 3 6 9ns 3 1 9nz 3 1 9o3 3 2 9ll 2 1 3 2 3cw 3 1 3hm 3 1 3cy 3 2 3ho 3 3 3cz 3
6 3hs 3 1 3dm 3 3 3d2 3 1 3dt 3 a 3d5 1 3 3 6 3fl 1 2 3 6 3fr 1 2 3 6 3fx 1 2 3 3 3g3 1 3 3 2 4i
3 1 4s 4 2 w lg 3 1 4m 3 1 4l 3 1 6g9 1 1 3 1 7b6 3 4 6mo 3 1 7fk 3 1 7gr 1 h 0 c 1 1 0 q 1 1 0 j
1 1 0 2 1 1 0 f 1 2 0 e 1 y 0 3f 1 5 0 3 1 4 0 19 1 3 0 2g 1 1 0 d 1 3 0 1 1 1b 0 1a 1 3m 0 t 1 3
0 1d 1 f 0 s 1 4 0 10 1 9 0 u 1 5 0 17 1 5 0 u 1 1 0 11 1 4 0 e 1 16 3 14 1fe0 0 3a 1 2 0 a 1 6 3
10 1fiw 1 4 0 10 1 4 0 14 1 8 0 1g 1 b 0 1 3 b 1fo7 1 1 3 f 1foj 1 1 3 7 1foz 1 1 3 2 1fp7 1 1 0
b 1 1 0 f 1 1 0 7 1 1 0 2 1 3 0 1g 1 c 0 8n 1 9 0 m 1 a 0 8 1 o 0 1 3 2 k0 3 1 6e 3 1 ih 3 1 gj 1
1 3 1 ir 3 1 xuu 3 1 it 3 1 is 3 2 gm 3 1 5u9 3 1 go 3 1 gu 3 1 ix 3 1 h0 3 1 gy 3 1 gw 3 1 ij 3
1 87 3 1 ik 3 1 h3 3 1 hw 3 2 iy 3 1 h8 3 1 2mmc 3 1 x3i 3 1 ha 3 1 2mmd 3 1 i6 3 1 2mme 3 1 6w 3
2 hi 3 1 35 3 1 hm 3 1 2mmg 3 2 hp 3 1 hs 3 1 iw 3 1 iu 3 1 xuv 3 1 iv 3 1 i0 3 1 8s1 1 1 3 1 i7
3 2 ip 3 1 ig 3 3 cg 3 1 2mmi 3 1 2mn2 1 1x 0 6 1 2 0 1 1 1 0 18 1 1 0 2 1 3 0 1 1 2 0 n 1 1 0 20
1 8 0 9 1 1c 0 j 1 1 0 2 1 5 0 x 1 3 0 r 1 5 0 r 1 12 0 1k 1 4 0 k 1 2 0 1e 1 1 0 2 1 5 0 8 1 1 0
3 1 1 0 t 1 2 0 3 1 4 0 a 1 7 0 9 1 7 0 1s 1 w 0 13 1 4 0 c 1 9 0 1i 1 3 0 t 1 2 0 r 1 5 0 q 1 7
0 4 1 c 0 7 1 28 0 21 1 1j 3 1f 1h34 1 d 0 1f 1 7 0 1a 1 8 0 a 1 6 0 g 3 m 1h80 1 3 0 t 1 8 0 2 1
5s 0 v 1 1 0 16 1 1 0 3 1 2 0 2 1 g 0 6 1 8 0 9 1 x 0 1a 1 8 0 16 1 m 0 q 1 12 0 s 1 k 0 n 1 9 0
26 1 4 0 10 1 9 0 1q 1 1 0 5 1 d 0 p 1 7 0 a 1 6 0 1h 1 1 0 i 1 8 0 13 1 9 0 2o 1 1 0 k 1 b 0 i 1
1 0 1b 1 1q 0 7 1 1 0 1 1 1 0 4 1 1 0 f 1 1 0 b 1 6 0 1n 1 5 0 a 1 6 0 4 1 1 0 8 1 2 0 2 1 2 0 m
1 1 0 7 1 1 0 2 1 1 0 5 1 1 0 a 1 2 0 2 1 2 0 3 1 2 0 1 1 6 0 1 1 5 0 7 1 2 0 7 1 3 0 5 1 b 0 a 1
1 0 1 1 2 0 1 1 1 0 12 1 1 0 a 1 1 0 1 1 2 0 1 1 1 0 4 1 1 0 a 1 1 0 2 1 8 0 2 1 t 0 2k 1 1 0 5 1
u 0 20 1 8 0 a 1 4m 0 1i 1 2 0 12 1 y 0 1x 1 b 0 a 1 6 0 d 1 j 0 1m 1 6 0 a 1 6 0 k 1 s 0 r 1 2 0
f 1 4 0 n 1 55 0 1o 1 2s 3 w 1jgg 0 1f 1 c 0 8 1 2 0 1 1 2 0 8 1 1 0 2 1 1 0 u 1 1 0 2 1 2 0 c 1
9 0 a 1 1y 0 8 1 2 0 1a 1 2 0 b 1 r 0 20 1 8 0 2b 1 d 0 21 1 7 0 a 1 2e 0 8 1 2g 0 y 1 e 0 a 1 6
0 9 1 1 0 19 1 1 0 e 1 a 0 t 1 3 0 w 1 2 0 m 1 1 0 e 1 21 0 7 1 1 0 2 1 1 0 18 1 3 0 1 1 1 0 2 1
1 0 9 1 8 0 a 1 6 0 6 1 1 0 2 1 1 0 11 1 1 0 2 1 1 0 6 1 7 0 a 1 6 0 18 1 4 0 a 1 6u 0 p 1 7 0 h
1 1 0 15 1 3 0 t 1 2d 0 1 1 f 0 1e 1 d 0 pn 1 2u 0 33 1 1 0 5 1 b 0 5g 1 218 0 2r 1 d 0 ts 1 g 0
m 1 a 0 32z 1 5 0 g7 1 5a1 0 1m 1 1c6 0 ft 1 7 0 v 1 1 0 a 1 4 0 29 1 1 0 a 1 6 0 u 1 2 0 6 1 a 0
1y 1 a 0 a 1 1 0 7 1 1 0 l 1 5 0 j 1 c0 0 1m 1 5i 3 w 20dc 0 1n 1 5 3 p 20fv 1 2 0 p 1 18 0 23 1
4 0 1l 1 7 0 h 1 1s 0 5 1 b 0 7 1 9 0 5p2 1 15 0 w 1 2p 0 37 1 6pp 0 4 1 1 0 7 1 1 0 2 1 1 0 83 1
f 0 1 1 t 0 3 1 2 0 1 1 e 0 4 1 8 0 b0 1 1s4 0 2z 1 5 0 d 1 3 0 9 1 7 0 a 1 2 0 4 2 4 1 318 0 5y
3 q 2p 3 a 1c 0 3 1 3 0 c4 1 6 0 n 1 f 0 h 1 f 0 1a 1 2 0 n 1 9 0 38 1 1o 0 6u 1 a 0 13 1 2 0 1h
4 2 2jx3 2jxh 4 2 2jx4 2jxh 4 3 2jx4 2jxh 2jxq 4 3 2jx4 2jxh 2jxr 4 3 2jx4 2jxh 2jxs 4 3 2jx4
2jxh 2jxt 4 3 2jx4 2jxh 2jxu 0 e 2 8 0 1s 4 2 2jzt 2jxh 4 2 2jzu 2jxh 4 3 2jzt 2jxh 2jxq 4 3 2jzu
2jxh 2jxq 4 3 2jzt 2jxh 2jxr 4 3 2jzu 2jxh 2jxr 0 16 1 l 0 1y 1 3e 0 k 1 c 0 k 1 c 0 2f 1 9 0 p 1
3r 3 q 2p 3 q 2p 3 q 2p 3 7 2p 1 1 3 i 2x 3 q 2p 3 q 2p 3 1 2p 1 1 3 2 2r 1 2 3 1 2v 1 2 3 2 2y 1
2 3 4 32 1 1 3 8 37 3 4 2p 1 1 3 1 2u 1 1 3 7 2w 1 1 3 b 34 3 q 2p 3 q 2p 3 2 2p 1 1 3 4 2s 1 2 3
8 2y 1 1 3 7 37 1 1 3 q 2p 3 2 2p 1 1 3 4 2s 1 1 3 5 2x 1 1 3 1 33 1 3 3 7 37 1 1 3 q 2p 3 q 2p 3
q 2p 3 q 2p 3 q 2p 3 q 2p 3 q 2p 3 q 2p 3 q 2p 3 q 2p 3 q 2p 3 q 2p 3 q 2p 3 1 8h 3 1 fr 1 2 3 h
q9 3 1 qg 3 7 qr 3 1 6pz 3 h q9 3 1 qr 3 7 qr 3 1 6pu 3 1 qd 3 1 qg 3 1 qi 3 1 qu 3 1 qp 3 1 qo 3
h q9 3 1 qg 3 7 qr 3 1 6pz 3 h q9 3 1 qr 3 7 qr 3 1 6pu 3 1 qd 3 1 qg 3 1 qi 3 1 qu 3 1 qp 3 1 qo
3 h q9 3 1 qg 3 7 qr 3 1 6pz 3 h q9 3 1 qr 3 7 qr 3 1 6pu 3 1 qd 3 1 qg 3 1 qi 3 1 qu 3 1 qp 3 1
qo 3 h q9 3 1 qg 3 7 qr 3 1 6pz 3 h q9 3 1 qr 3 7 qr 3 1 6pu 3 1 qd 3 1 qg 3 1 qi 3 1 qu 3 1 qp 3
1 qo 3 h q9 3 1 qg 3 7 qr 3 1 6pz 3 h q9 3 1 qr 3 7 qr 3 1 6pu 3 1 qd 3 1 qg 3 1 qi 3 1 qu 3 1 qp
3 1 qo 3 1 rh 3 1 rh 1 2 3 a 1c 3 a 1c 3 a 1c 3 a 1c 3 a 1c 0 i4 1 f 0 5 1 1 0 f 1 uo 0 v 1 6 0 6
1 5x 0 7 1 1 0 h 1 2 0 7 1 1 0 2 1 1 0 5 1 5 3 9 ts 3 3 u2 3 b u6 3 1 uj 3 2 ul 3 1 ww9 3 1 yh 3
1 uu 3 1 uw 3 1 yx 3 1 xb 3 1 y7 3 9 ts 3 2 u2 3 2 u6 3 1 u9 3 6 ub 3 2 ui 3 1 wh 3 1 uu 3 1 ut 3
1 v3 3 1 x7 3 1 wup 3 1 xd 1 x 0 1 1 34 0 19 1 3 0 e 1 2 0 a 1 4 0 2 1 8w 0 v 1 h 0 1m 1 5 0 1 1
cw 0 16 1 5y 0 17 1 4 0 1 1 5c 0 v 1 1 0 m 1 8 0 2 1 68 0 7 1 1 0 4 1 1 0 2 1 1 0 f 1 1 0 5h 1 2
0 g 1 15 3 y 2oma 0 16 1 4 0 a 1 4 0 2 1 lt 0 1w 1 24 0 1p 1 5e 3 2 17r 3 1 17w 3 1 17z 1 1 3 1
18o 3 1 182 3 1 17x 3 1 187 3 1 18q 3 4 18j 3 1 183 3 1 189 3 1 18h 3 1 185 3 1 18i 3 1 181 3 1
184 3 2 17u 3 1 17y 3 1 180 3 1 186 3 1 188 3 1 18a 3 1 19q 3 1 1bu 3 1 1b5 3 1 19r 1 1 3 1 17s 3
1 17w 1 1 3 1 18n 1 2 3 1 17x 1 1 3 1 18q 3 4 18j 3 1 183 3 1 189 3 1 18h 3 1 185 3 1 18i 1 1 3 1
184 3 2 17u 3 1 17y 1 1 3 1 186 1 1 3 1 18a 1 6 3 1 17w 1 4 3 1 17x 1 1 3 1 18q 1 1 3 1 18k 1 1 3
1 18m 3 1 183 3 1 189 1 1 3 1 185 3 1 18i 1 1 3 1 184 1 2 3 1 17y 1 1 3 1 186 1 1 3 1 18a 1 1 3 1
1bu 1 1 3 1 19r 1 1 3 1 17s 3 1 17w 1 1 3 1 18n 1 2 3 1 17x 3 1 187 3 1 18q 3 1 18j 1 1 3 2 18l 3
1 183 3 1 189 3 1 18h 3 1 185 3 1 18i 1 1 3 1 184 3 2 17u 3 1 17y 1 1 3 1 186 3 1 188 3 1 18a 3 1
19q 1 1 3 1 1b5 1 1 3 2 17r 3 1 17w 3 1 17z 3 2 18n 3 1 182 3 1 17x 3 1 187 3 1 18q 1 1 3 3 18k 3
1 183 3 1 189 3 1 18h 3 1 185 3 1 18i 3 1 181 3 1 184 3 2 17u 3 1 17y 3 1 180 3 1 186 3 1 188 3 1
18a 1 5 3 1 17s 3 1 17w 3 1 17z 1 1 3 1 18o 3 1 182 3 1 17x 3 1 187 3 1 18q 1 1 3 3 18k 3 1 183 3
1 189 3 1 18h 3 1 185 3 1 18i 3 1 181 3 1 184 3 2 17u 3 1 17y 3 1 180 3 1 186 3 1 188 3 1 18a 1
1g 0 2 1 7i 0 18 1 4 0 2s 1 c 0 f 1 2 0 f 1 1 0 f 1 1 0 11 1 b 4 2 1c 18 4 2 1d 18 4 2 1e 18 4 2
1f 18 4 2 1g 18 4 2 1h 18 4 2 1i 18 4 2 1j 18 4 2 1k 18 4 2 1l 18 0 5 4 3 14 2p 15 4 3 14 2q 15 4
3 14 2r 15 4 3 14 2s 15 4 3 14 2t 15 4 3 14 2u 15 4 3 14 2v 15 4 3 14 2w 15 4 3 14 2x 15 4 3 14
2y 15 4 3 14 2z 15 4 3 14 30 15 4 3 14 31 15 4 3 14 32 15 4 3 14 33 15 4 3 14 34 15 4 3 14 35 15
4 3 14 36 15 4 3 14 37 15 4 3 14 38 15 4 3 14 39 15 4 3 14 3a 15 4 3 14 3b 15 4 3 14 3c 15 4 3 14
3d 15 4 3 14 3e 15 4 3 9hw 37 9hx 3 1 2r 3 1 36 4 2 2r 2s 4 2 3b 3e 0 1 3 q 2p 4 2 2w 3a 4 2 31
3a 4 2 37 2s 4 2 37 37 4 3 34 34 3a 4 2 3b 2r 0 q 4 2 31 2r 4 2 31 2s 4 2 31 36 0 z 4 2 2s 2y 0 t
1 1k 0 q 4 2 9kr 9jf 4 2 9mb 9mb 3 1 9md 1 d 3 1 jez 3 1 i1j 3 1 gjw 3 1 9mv 3 1 fik 3 1 hlm 3 1
r8j 3 1 hm1 3 1 fj8 3 1 k68 3 1 mch 3 1 k2h 3 1 g99 3 1 ivg 3 1 g3x 3 1 k34 3 1 g7x 3 1 oqq 3 1
n4v 3 1 rs9 3 1 hkg 3 1 gmx 3 1 lxw 3 1 jh1 3 1 jmd 3 1 feo 3 1 fex 3 1 si2 3 1 ijq 3 1 ffx 3 1
gkz 3 1 jk7 3 1 rxs 3 1 jf7 3 1 o01 3 1 o6y 3 1 glk 3 1 lts 3 1 kcp 3 1 kco 3 1 n5f 3 1 gaa 3 1
gxi 3 1 sp9 1 4 4 3 9hw kdo 9hx 4 3 9hw fex 9hx 4 3 9hw fik 9hx 4 3 9hw i2x 9hx 4 3 9hw m9l 9hx 4
3 9hw jf7 9hx 4 3 9hw nh3 9hx 4 3 9hw gd9 9hx 4 3 9hw k0n 9hx 1 7 3 1 ivr 3 1 gkv 1 e 0 6 1 4a 0
rd 1 3 0 h 1 3 0 d 1 3 0 62 1 6 0 c 1 4 0 1 1 f 0 c 1 4 0 1k 1 8 0 a 1 6 0 14 1 8 0 u 1 2 0 c 1 4
0 2 1 e 0 9 1 13 0 9k 1 8 0 e 1 2 0 d 1 3 0 b 1 3 0 1l 1 1 0 1 1 4 0 g 1 2 0 c 1 4 0 a 1 7 0 43 1
1 0 2k 3 a 1c 0 1 1 sl 0 wyo 1 w 0 3dq 1 2 0 4ge 1 2 0 5rl 1 f 0 ha 1 1wi 3 1 fgd 3 1 fg8 3 1 fgh
3 1 2tcy 3 1 fog 3 1 fqm 3 1 fqz 3 1 fsy 3 1 fwa 3 1 fx5 3 1 fzb 3 1 fyn 3 1 ae6 3 1 2ud6 3 1 g25
3 1 g2c 3 1 g2s 3 1 g3b 3 1 2u58 3 1 aex 3 1 g2v 3 1 g3x 3 1 2u6j 3 1 g47 3 1 g4k 3 1 fkc 3 1 g4s
3 1 g51 3 1 3ly7 3 1 g6t 3 1 g77 3 1 afz 3 1 g8r 3 1 g92 3 1 gaa 3 1 gaf 3 1 ahh 3 1 gcn 3 1 gcp
3 1 gdg 3 1 ge2 3 2 ged 3 1 gev 3 1 gg9 3 1 ggh 3 1 ggq 3 1 ghf 3 1 ghp 3 1 ghr 3 1 ghr 3 1 ghr 3
1 2v58 3 1 m7k 3 1 gju 3 1 gkf 3 1 2vdv 3 1 gkr 3 1 gkx 3 1 gli 3 1 gpq 3 1 gmw 3 1 gnc 3 1 go8 3
1 gpu 3 1 gs6 3 1 gsw 3 1 gur 3 1 gv7 3 1 gw4 3 1 gw4 3 1 gwp 3 1 gx7 3 1 gxf 3 1 gxu 3 1 h7a 3 1
gzq 3 1 h7b 3 1 h1t 3 1 h2s 3 1 g7b 3 1 hke 3 1 hce 3 1 hdg 3 1 he5 3 1 haj 3 1 hf6 3 1 hf5 3 1
hik 3 1 2x9g 3 1 hki 3 1 hkn 3 1 hl2 3 1 hlm 3 1 hlu 3 1 hnm 3 1 2xm0 3 1 2xnu 3 1 hrg 3 1 hsr 3
1 ht3 3 1 hqw 3 1 huu 3 1 aum 3 1 av0 3 1 hzc 3 1 i0u 3 1 i0u 3 1 2y88 3 1 i4j 3 1 i54 3 1 i5j 3
1 i5v 3 1 2yhk 3 1 i67 3 1 i6e 3 1 itv 3 1 i76 3 1 ayp 3 1 i8w 3 1 i9a 3 1 ibk 3 1 ia5 3 1 2z1g 3
1 if7 3 1 2z1i 3 1 ige 3 1 igb 3 1 igs 3 2 ijl 3 1 b3j 3 1 ikd 3 1 ilk 3 1 im5 3 1 ind 3 1 b4y 3
1 2zr7 3 1 b5o 3 1 ipc 3 1 ipf 3 1 ipi 3 1 iq2 3 1 3pg2 3 1 iri 3 1 3035 3 1 3035 3 1 poh 3 1 isi
3 1 isi 3 1 b7r 3 1 335k 3 1 3cgq 3 1 iua 3 1 iuj 3 1 b8j 3 1 ivu 3 1 ix9 3 1 ixj 3 1 iyh 3 1 j29
3 1 bay 3 1 ba4 3 1 j2s 3 1 30t0 3 1 j47 3 1 j7s 3 1 j7w 3 1 j7y 3 1 j7w 3 1 j96 3 1 j9q 3 1 jaq
3 1 jac 3 1 jan 3 1 jby 3 1 jci 3 1 jcm 3 1 jdc 3 1 jdn 3 1 jfh 3 1 jht 3 1 jis 3 1 jm8 3 1 31n0
3 1 jlp 3 1 jjw 3 1 jmw 3 1 jnn 3 1 jqc 3 1 31td 3 1 js2 3 1 jph 3 1 jop 3 1 bhq 3 1 ju1 3 1 jum
3 1 jvh 3 1 juf 3 1 bjg 3 1 k0f 3 1 k18 3 1 32mi 3 1 k4j 3 1 kc8 3 1 k7d 3 1 bo9 3 1 k9d 3 1 bns
3 1 bms 3 1 g42 3 1 g45 3 1 kcg 3 1 k9o 3 1 pf1 3 1 deh 3 1 kd3 3 1 kd7 3 1 kdd 3 1 kf2 3 1 ker 3
1 33cz 3 1 bpl 3 1 kje 3 1 kg5 3 1 klu 3 1 kn9 3 1 33hp 3 1 kni 3 1 kkf 3 1 kr8 3 1 brx 3 1 ksi 3
1 kv7 3 1 kx6 3 1 l2g 3 1 33xf 3 1 l3v 3 1 bvc 3 1 l5t 3 1 34br 3 1 l78 3 1 bwu 3 1 l82 3 1 l9b 3
2 la2 3 1 34p9 3 1 2yvf 3 1 34sa 3 1 le6 3 1 354s 3 1 lhb 3 1 lhp 3 1 lev 3 1 ljq 3 1 lku 3 1 lmf
3 1 lkx 3 1 lm1 3 1 lmg 3 1 lmt 3 1 357i 3 1 lkk 3 1 lrj 3 1 lta 3 1 c37 3 1 lvv 3 1 lvr 3 1 35jl
3 1 lq1 3 1 m0e 3 1 35ni 3 1 35ou 3 1 m2u 3 1 m61 3 1 m5a 3 1 m57 3 1 c5y 3 1 m6i 3 1 m7x 3 1 m7r
3 1 m99 3 1 2u5h 3 1 mdh 3 1 368z 3 1 mfw 3 1 36i3 3 1 mjs 3 1 mk5 3 1 mkw 3 1 36yw 3 1 mm8 3 1
mmt 3 1 3779 3 1 37dg 3 1 mt6 3 1 mtn 3 1 cdo 3 1 mud 3 1 ce0 3 1 ce0 3 1 myv 3 1 mzg 3 1 n01 3 1
n0l 3 1 n2i 3 1 cgr 3 1 n50 3 1 386u 3 1 n5q 3 1 389e 3 1 n74 3 1 2zrz 3 1 nbk 3 1 38v5 3 1 38vs
3 1 38zo 3 1 cn0 3 1 cnc 3 1 nhw 3 1 394j 3 1 394i 3 1 395l 3 1 396b 3 2 nj2 3 1 nj3 3 1 nka 3 1
cop 3 1 nm3 3 1 cp2 3 1 cra 3 1 39r1 3 1 nri 3 1 nt8 3 1 nv0 3 1 ctf 3 1 3a5i 3 1 nyu 3 1 3a8q 3
1 3a9x 3 1 o0f 3 1 o2z 3 1 cvj 3 1 o5c 3 1 o5m 3 1 o5r 3 1 3at8 3 1 3b1j 3 1 3b1j 3 1 oa6 3 1 d1e
3 1 3b8r 3 1 og6 3 1 og9 3 1 d2f 3 1 3beo 3 1 onm 3 1 d5s 3 1 oo8 3 1 oo3 3 1 oow 3 1 3c06 3 1
orn 3 1 d8h 3 1 ouf 3 1 ow2 3 1 oxx 3 1 d9w 3 1 3ciw 3 1 3cjr 3 1 dax 3 1 3cnt 3 1 p6i 3 1 3cqm 3
1 p79 3 1 pa2 3 1 pad 3 1 3d22 3 1 3d43 3 1 pcw 3 1 3d7s 3 1 pdc 3 1 33a7 3 1 ded 3 1 pf6 3 1 phf
3 1 dfv 3 1 pj2 3 1 hx1 3 1 3dlz 3 1 3dmd 3 1 33bn 3 1 33bw 3 1 poh 3 1 pok 3 1 sda 3 1 dij 3 1
psh 3 1 psb 3 1 pst 3 1 gc3 3 1 ptd 3 1 ptf 3 1 ptp 3 1 puu 3 1 3ebg 3 1 put 3 1 pwd 3 1 pyb 3 1
q0d 3 1 pwj 3 1 q0t 3 1 q1z 3 1 q53 3 1 pxv 3 1 q16 3 1 q18 3 1 q1o 3 1 3eie 3 1 3eqz 3 1 3emt 3
1 dnv 3 1 q9d 3 1 q9f 3 1 qae 3 1 3g0a 3 1 qck 3 1 3f3g 3 1 dp9 3 1 dpd 3 1 3f75 3 1 3ff6 3 1 dpn
3 1 qj4 3 1 qjg 3 1 qjr 3 1 qjt 3 1 qll 3 1 qko 3 1 qoe 3 1 qn6 3 1 qrd 3 1 qp4 3 1 qqz 3 1 qrq 3
1 dsn 3 1 qu9 3 1 qv5 3 1 dtl 3 1 qxs 3 1 qxv 3 1 3giv 3 1 r13 3 1 r1a 3 1 dv9 3 1 r22 3 1 aez 3
1 3gz2 3 1 3h46 3 1 dz2 3 1 dzb 3 1 rds 3 1 rfx 3 1 rka 3 1 rpx 3 1 3hrc 3 1 rsb 3 1 rsx 3 1 rvf
3 1 rxz 3 1 3i9b 3 1 2upw 3 1 s0b 3 1 rzw 3 1 s1c 3 1 2uvy 3 1 s7o 3 1 sag 3 1 3jki 3 1 3jl9 3 1
sk4 3 1 smp 3 1 snl 3 1 3ju6 3 1 snv 3 1 svs 3 2 t07 3 1 sxo 3 1 t89 3 1 t91 3 1 3ksa 3 1 tjf 3 1
ej9 3 1 tkn 3 1 3l2v 3 1 eli 3 1 ts3 3 1 iia 3 1 tur 3 1 3ltx 3 1 3lzu 3 1 epa 3 1 epi 3 1 u00 3
1 3mdm 3 1 er6 3 1 3mhi 3 1 u17 3 1 u17 3 1 u21 3 1 3mpi 3 1 u76 3 1 eur 3 1 u95 3 1 ucn 3 1 ude
3 1 uf2 3 1 ez2 3 1 3nsg 3 1 umq 3 1 uv4 3 1 v0d 3 1 f66 3 1 f71 3 1 v3b 3 1 3owe 3 1 f7c 3 1
3oxx 3 1 3p5a 3 1 3p8x 3 1 vcr 3 1 f9y 3 1 veh 3 1 vem 3 1 vet 3 1 vf3 3 1 vfa 3 1 vgb 3 1 3pxc 1
15u 0 3t7 1 5 0 6ju 1 f62u 2 6o 1 47bk"

def table : List (Interval × HostMap) := runsFrom numbers.length 0 numbers

/-- The run that holds a code point, with what becomes of its characters. -/
def find? (n : Nat) : Option (Interval × HostMap) := table.find? fun e => n ≤ e.1.hi

/-- The code points that replace one; none if it is refused. -/
def apply (n : Nat) : Option (List Nat) :=
  match find? n with
  | some (_, .stays) => some [n]
  | some (_, .dropped) => some []
  | some (i, .shifted target) => some [target + (n - i.lo)]
  | some (_, .replaced codes) => some codes
  | some (_, .refused) | none => none

def isValid (n : Nat) : Bool := (find? n).any fun e => e.2 == .stays

end HostMap

end UrlMask.Unicode
