import UrlMask.Unicode.Runs

/-!
# Letters that differ in case only

An orbit is a set of characters that simple case folding makes equal, such as K, k and the
Kelvin sign. `CharSet.caseClosure` closes a set under these orbits.
-/
namespace UrlMask

namespace Unicode

/-- The orbits of more than one character. -/
def caseOrbits : List (List Nat) := records "
2 1t 2p 2 1u 2q 2 1v 2r 2 1w 2s 2 1x 2t 2 1y 2u 2 1z 2v 2 20 2w 2 21 2x 2 22 2y 3 23 2z 6ju 2 24
30 2 25 31 2 26 32 2 27 33 2 28 34 2 29 35 2 2a 36 3 2b 37 an 2 2c 38 2 2d 39 2 2e 3a 2 2f 3b 2
2g 3c 2 2h 3d 2 2i 3e 3 51 po qk 2 5c 68 2 5d 69 2 5e 6a 2 5f 6b 2 5g 6c 3 5h 6d 6jv 2 5i 6e 2
5j 6f 2 5k 6g 2 5l 6h 2 5m 6i 2 5n 6j 2 5o 6k 2 5p 6l 2 5q 6m 2 5r 6n 2 5s 6o 2 5t 6p 2 5u 6q 2
5v 6r 2 5w 6s 2 5x 6t 2 5y 6u 2 60 6w 2 61 6x 2 62 6y 2 63 6z 2 64 70 2 65 71 2 66 72 2 67 61q 2
73 ag 2 74 75 2 76 77 2 78 79 2 7a 7b 2 7c 7d 2 7e 7f 2 7g 7h 2 7i 7j 2 7k 7l 2 7m 7n 2 7o 7p 2
7q 7r 2 7s 7t 2 7u 7v 2 7w 7x 2 7y 7z 2 80 81 2 82 83 2 84 85 2 86 87 2 88 89 2 8a 8b 2 8c 8d 2
8e 8f 2 8i 8j 2 8k 8l 2 8m 8n 2 8p 8q 2 8r 8s 2 8t 8u 2 8v 8w 2 8x 8y 2 8z 90 2 91 92 2 93 94 2
96 97 2 98 99 2 9a 9b 2 9c 9d 2 9e 9f 2 9g 9h 2 9i 9j 2 9k 9l 2 9m 9n 2 9o 9p 2 9q 9r 2 9s 9t 2
9u 9v 2 9w 9x 2 9y 9z 2 a0 a1 2 a2 a3 2 a4 a5 2 a6 a7 2 a8 a9 2 aa ab 2 ac ad 2 ae af 2 ah ai 2
aj ak 2 al am 2 ao g3 2 ap gj 2 aq ar 2 as at 2 au gk 2 av aw 2 ax gm 2 ay gn 2 az b0 2 b2 d9 2
b3 gp 2 b4 gr 2 b5 b6 2 b7 gw 2 b8 gz 2 b9 dy 2 ba h5 2 bb h4 2 bc bd 2 be fx 2 bf x5o 2 bg hb 2
bh he 2 bi f4 2 bj hh 2 bk bl 2 bm bn 2 bo bp 2 bq hs 2 br bs 2 bt hv 2 bw bx 2 by i0 2 bz c0 2
c1 i2 2 c2 i3 2 c3 c4 2 c5 c6 2 c7 ia 2 c8 c9 2 cc cd 2 cf dz 3 ck cl cm 3 cn co cp 3 cq cr cs 2
ct cu 2 cv cw 2 cx cy 2 cz d0 2 d1 d2 2 d3 d4 2 d5 d6 2 d7 d8 2 da db 2 dc dd 2 de df 2 dg dh 2
di dj 2 dk dl 2 dm dn 2 do dp 2 dq dr 3 dt du dv 2 dw dx 2 e0 e1 2 e2 e3 2 e4 e5 2 e6 e7 2 e8 e9
2 ea eb 2 ec ed 2 ee ef 2 eg eh 2 ei ej 2 ek el 2 em en 2 eo ep 2 eq er 2 es et 2 eu ev 2 ew ex
2 ey ez 2 f0 f1 2 f2 f3 2 f6 f7 2 f8 f9 2 fa fb 2 fc fd 2 fe ff 2 fg fh 2 fi fj 2 fk fl 2 fm fn
2 fu 8rp 2 fv fw 2 fy 8rq 2 fz 8se 2 g0 8sf 2 g1 g2 2 g4 i1 2 g5 i4 2 g6 g7 2 g8 g9 2 ga gb 2 gc
gd 2 ge gf 2 gg 8rz 2 gh 8rx 2 gi 8s0 2 gs x4b 2 gx x4c 2 h0 x57 2 h1 x3h 2 h2 x4a 2 h6 x4e 2 h7
8rm 2 h8 x4d 2 hd 8ry 2 hp 8ro 2 hu x51 2 hz x4h 2 il x4i 2 im x4g 4 n9 pl qh 69q 2 og oh 2 oi
oj 2 om on 2 or sd 2 os se 2 ot sf 2 ov s3 2 p2 q4 2 p4 q5 2 p5 q6 2 p6 q7 2 p8 r0 2 pa r1 2 pb
r2 2 pc 6ab 2 pd q9 3 pe qa r4 2 pf qb 2 pg qc 3 ph qd s5 2 pi qe 2 pj qf 4 pk qg r5 s4 3 pm qi
s0 2 pn qj 2 pp ql 2 pq qm 2 pr qn 3 ps qo ra 3 pt qp s1 3 pv qq qr 2 pw qs 2 px qt 3 py qu r9 2
pz qv 2 q0 qw 3 q1 qx 6jq 2 q2 qy 2 q3 qz 2 q8 6ar 2 r3 rb 2 rc rd 2 re rf 2 rg rh 2 ri rj 2 rk
rl 2 rm rn 2 ro rp 2 rq rr 2 rs rt 2 ru rv 2 rw rx 2 ry rz 2 s2 s9 2 s7 s8 2 sa sb 2 sg uo 2 sh
up 2 si uq 2 sj ur 2 sk us 2 sl ut 2 sm uu 2 sn uv 2 so uw 2 sp ux 2 sq uy 2 sr uz 2 ss v0 2 st
v1 2 su v2 2 sv v3 2 sw ts 2 sx tt 3 sy tu 5mo 2 sz tv 3 t0 tw 5mp 2 t1 tx 2 t2 ty 2 t3 tz 2 t4
u0 2 t5 u1 2 t6 u2 2 t7 u3 2 t8 u4 2 t9 u5 3 ta u6 5mq 2 tb u7 2 tc u8 3 td u9 5mr 4 te ua 5ms
5mt 2 tf ub 2 tg uc 2 th ud 2 ti ue 2 tj uf 2 tk ug 2 tl uh 3 tm ui 5mu 2 tn uj 2 to uk 2 tp ul
2 tq um 2 tr un 2 v4 v5 3 v6 v7 5mv 2 v8 v9 2 va vb 2 vc vd 2 ve vf 2 vg vh 2 vi vj 2 vk vl 2 vm
vn 2 vo vp 2 vq vr 2 vs vt 2 vu vv 2 vw vx 2 vy vz 2 w0 w1 2 wa wb 2 wc wd 2 we wf 2 wg wh 2 wi
wj 2 wk wl 2 wm wn 2 wo wp 2 wq wr 2 ws wt 2 wu wv 2 ww wx 2 wy wz 2 x0 x1 2 x2 x3 2 x4 x5 2 x6
x7 2 x8 x9 2 xa xb 2 xc xd 2 xe xf 2 xg xh 2 xi xj 2 xk xl 2 xm xn 2 xo xp 2 xq xr 2 xs y7 2 xt
xu 2 xv xw 2 xx xy 2 xz y0 2 y1 y2 2 y3 y4 2 y5 y6 2 y8 y9 2 ya yb 2 yc yd 2 ye yf 2 yg yh 2 yi
yj 2 yk yl 2 ym yn 2 yo yp 2 yq yr 2 ys yt 2 yu yv 2 yw yx 2 yy yz 2 z0 z1 2 z2 z3 2 z4 z5 2 z6
z7 2 z8 z9 2 za zb 2 zc zd 2 ze zf 2 zg zh 2 zi zj 2 zk zl 2 zm zn 2 zo zp 2 zq zr 2 zs zt 2 zu
zv 2 zw zx 2 zy zz 2 100 101 2 102 103 2 104 105 2 106 107 2 108 109 2 10a 10b 2 10c 10d 2 10e
10f 2 10g 10h 2 10i 10j 2 10k 10l 2 10m 10n 2 10o 10p 2 10q 10r 2 10s 10t 2 10u 10v 2 10x 129 2
10y 12a 2 10z 12b 2 110 12c 2 111 12d 2 112 12e 2 113 12f 2 114 12g 2 115 12h 2 116 12i 2 117
12j 2 118 12k 2 119 12l 2 11a 12m 2 11b 12n 2 11c 12o 2 11d 12p 2 11e 12q 2 11f 12r 2 11g 12s 2
11h 12t 2 11i 12u 2 11j 12v 2 11k 12w 2 11l 12x 2 11m 12y 2 11n 12z 2 11o 130 2 11p 131 2 11q
132 2 11r 133 2 11s 134 2 11t 135 2 11u 136 2 11v 137 2 11w 138 2 11x 139 2 11y 13a 2 3a8 8w0 2
3a9 8w1 2 3aa 8w2 2 3ab 8w3 2 3ac 8w4 2 3ad 8w5 2 3ae 8w6 2 3af 8w7 2 3ag 8w8 2 3ah 8w9 2 3ai
8wa 2 3aj 8wb 2 3ak 8wc 2 3al 8wd 2 3am 8we 2 3an 8wf 2 3ao 8wg 2 3ap 8wh 2 3aq 8wi 2 3ar 8wj 2
3as 8wk 2 3at 8wl 2 3au 8wm 2 3av 8wn 2 3aw 8wo 2 3ax 8wp 2 3ay 8wq 2 3az 8wr 2 3b0 8ws 2 3b1
8wt 2 3b2 8wu 2 3b3 8wv 2 3b4 8ww 2 3b5 8wx 2 3b6 8wy 2 3b7 8wz 2 3b8 8x0 2 3b9 8x1 2 3bb 8x3 2
3bh 8x9 2 3bk 5n4 2 3bl 5n5 2 3bm 5n6 2 3bn 5n7 2 3bo 5n8 2 3bp 5n9 2 3bq 5na 2 3br 5nb 2 3bs
5nc 2 3bt 5nd 2 3bu 5ne 2 3bv 5nf 2 3bw 5ng 2 3bx 5nh 2 3by 5ni 2 3bz 5nj 2 3c0 5nk 2 3c1 5nl 2
3c2 5nm 2 3c3 5nn 2 3c4 5no 2 3c5 5np 2 3c6 5nq 2 3c7 5nr 2 3c8 5ns 2 3c9 5nt 2 3ca 5nu 2 3cb
5nv 2 3cc 5nw 2 3cd 5nx 2 3ce 5ny 2 3cf 5nz 2 3cg 5o0 2 3ch 5o1 2 3ci 5o2 2 3cj 5o3 2 3ck 5o4 2
3cl 5o5 2 3cm 5o6 2 3cn 5o7 2 3co 5o8 2 3cp 5o9 2 3cq 5oa 2 3ct 5od 2 3cu 5oe 2 3cv 5of 2 3vk
xv4 2 3vl xv5 2 3vm xv6 2 3vn xv7 2 3vo xv8 2 3vp xv9 2 3vq xva 2 3vr xvb 2 3vs xvc 2 3vt xvd 2
3vu xve 2 3vv xvf 2 3vw xvg 2 3vx xvh 2 3vy xvi 2 3vz xvj 2 3w0 xvk 2 3w1 xvl 2 3w2 xvm 2 3w3
xvn 2 3w4 xvo 2 3w5 xvp 2 3w6 xvq 2 3w7 xvr 2 3w8 xvs 2 3w9 xvt 2 3wa xvu 2 3wb xvv 2 3wc xvw 2
3wd xvx 2 3we xvy 2 3wf xvz 2 3wg xw0 2 3wh xw1 2 3wi xw2 2 3wj xw3 2 3wk xw4 2 3wl xw5 2 3wm
xw6 2 3wn xw7 2 3wo xw8 2 3wp xw9 2 3wq xwa 2 3wr xwb 2 3ws xwc 2 3wt xwd 2 3wu xwe 2 3wv xwf 2
3ww xwg 2 3wx xwh 2 3wy xwi 2 3wz xwj 2 3x0 xwk 2 3x1 xwl 2 3x2 xwm 2 3x3 xwn 2 3x4 xwo 2 3x5
xwp 2 3x6 xwq 2 3x7 xwr 2 3x8 xws 2 3x9 xwt 2 3xa xwu 2 3xb xwv 2 3xc xww 2 3xd xwx 2 3xe xwy 2
3xf xwz 2 3xg xx0 2 3xh xx1 2 3xi xx2 2 3xj xx3 2 3xk xx4 2 3xl xx5 2 3xm xx6 2 3xn xx7 2 3xo
xx8 2 3xp xx9 2 3xq xxa 2 3xr xxb 2 3xs 3y0 2 3xt 3y1 2 3xu 3y2 2 3xv 3y3 2 3xw 3y4 2 3xx 3y5 3
5mw wui wuj 2 5mx 5my 2 5tl x31 2 5tp 8rn 2 5u6 x52 2 5xc 5xd 2 5xe 5xf 2 5xg 5xh 2 5xi 5xj 2
5xk 5xl 2 5xm 5xn 2 5xo 5xp 2 5xq 5xr 2 5xs 5xt 2 5xu 5xv 2 5xw 5xx 2 5xy 5xz 2 5y0 5y1 2 5y2
5y3 2 5y4 5y5 2 5y6 5y7 2 5y8 5y9 2 5ya 5yb 2 5yc 5yd 2 5ye 5yf 2 5yg 5yh 2 5yi 5yj 2 5yk 5yl 2
5ym 5yn 2 5yo 5yp 2 5yq 5yr 2 5ys 5yt 2 5yu 5yv 2 5yw 5yx 2 5yy 5yz 2 5z0 5z1 2 5z2 5z3 2 5z4
5z5 2 5z6 5z7 2 5z8 5z9 2 5za 5zb 2 5zc 5zd 2 5ze 5zf 2 5zg 5zh 2 5zi 5zj 2 5zk 5zl 2 5zm 5zn 2
5zo 5zp 2 5zq 5zr 2 5zs 5zt 2 5zu 5zv 2 5zw 5zx 2 5zy 5zz 3 600 601 61n 2 602 603 2 604 605 2
606 607 2 608 609 2 60a 60b 2 60c 60d 2 60e 60f 2 60g 60h 2 60i 60j 2 60k 60l 2 60m 60n 2 60o
60p 2 60q 60r 2 60s 60t 2 60u 60v 2 60w 60x 2 60y 60z 2 610 611 2 612 613 2 614 615 2 616 617 2
618 619 2 61a 61b 2 61c 61d 2 61e 61f 2 61g 61h 2 61s 61t 2 61u 61v 2 61w 61x 2 61y 61z 2 620
621 2 622 623 2 624 625 2 626 627 2 628 629 2 62a 62b 2 62c 62d 2 62e 62f 2 62g 62h 2 62i 62j 2
62k 62l 2 62m 62n 2 62o 62p 2 62q 62r 2 62s 62t 2 62u 62v 2 62w 62x 2 62y 62z 2 630 631 2 632
633 2 634 635 2 636 637 2 638 639 2 63a 63b 2 63c 63d 2 63e 63f 2 63g 63h 2 63i 63j 2 63k 63l 2
63m 63n 2 63o 63p 2 63q 63r 2 63s 63t 2 63u 63v 2 63w 63x 2 63y 63z 2 640 641 2 642 643 2 644
645 2 646 647 2 648 649 2 64a 64b 2 64c 64d 2 64e 64f 2 64g 64o 2 64h 64p 2 64i 64q 2 64j 64r 2
64k 64s 2 64l 64t 2 64m 64u 2 64n 64v 2 64w 654 2 64x 655 2 64y 656 2 64z 657 2 650 658 2 651
659 2 65c 65k 2 65d 65l 2 65e 65m 2 65f 65n 2 65g 65o 2 65h 65p 2 65i 65q 2 65j 65r 2 65s 660 2
65t 661 2 65u 662 2 65v 663 2 65w 664 2 65x 665 2 65y 666 2 65z 667 2 668 66g 2 669 66h 2 66a
66i 2 66b 66j 2 66c 66k 2 66d 66l 2 66p 66x 2 66r 66z 2 66t 671 2 66v 673 2 674 67c 2 675 67d 2
676 67e 2 677 67f 2 678 67g 2 679 67h 2 67a 67i 2 67b 67j 2 67k 69m 2 67l 69n 2 67m 6a0 2 67n
6a1 2 67o 6a2 2 67p 6a3 2 67q 6ai 2 67r 6aj 2 67s 6bc 2 67t 6bd 2 67u 6ay 2 67v 6az 2 67w 6be 2
67x 6bf 2 680 688 2 681 689 2 682 68a 2 683 68b 2 684 68c 2 685 68d 2 686 68e 2 687 68f 2 68g
68o 2 68h 68p 2 68i 68q 2 68j 68r 2 68k 68s 2 68l 68t 2 68m 68u 2 68n 68v 2 68w 694 2 68x 695 2
68y 696 2 68z 697 2 690 698 2 691 699 2 692 69a 2 693 69b 2 69c 69k 2 69d 69l 2 69f 69o 2 69v
6a4 2 6a8 6ag 2 6a9 6ah 2 6ao 6aw 2 6ap 6ax 2 6at 6b0 2 6b7 6bg 2 6k2 6ku 2 6lc 6ls 2 6ld 6lt 2
6le 6lu 2 6lf 6lv 2 6lg 6lw 2 6lh 6lx 2 6li 6ly 2 6lj 6lz 2 6lk 6m0 2 6ll 6m1 2 6lm 6m2 2 6ln
6m3 2 6lo 6m4 2 6lp 6m5 2 6lq 6m6 2 6lr 6m7 2 6mb 6mc 2 792 79s 2 793 79t 2 794 79u 2 795 79v 2
796 79w 2 797 79x 2 798 79y 2 799 79z 2 79a 7a0 2 79b 7a1 2 79c 7a2 2 79d 7a3 2 79e 7a4 2 79f
7a5 2 79g 7a6 2 79h 7a7 2 79i 7a8 2 79j 7a9 2 79k 7aa 2 79l 7ab 2 79m 7ac 2 79n 7ad 2 79o 7ae 2
79p 7af 2 79q 7ag 2 79r 7ah 2 8ow 8q8 2 8ox 8q9 2 8oy 8qa 2 8oz 8qb 2 8p0 8qc 2 8p1 8qd 2 8p2
8qe 2 8p3 8qf 2 8p4 8qg 2 8p5 8qh 2 8p6 8qi 2 8p7 8qj 2 8p8 8qk 2 8p9 8ql 2 8pa 8qm 2 8pb 8qn 2
8pc 8qo 2 8pd 8qp 2 8pe 8qq 2 8pf 8qr 2 8pg 8qs 2 8ph 8qt 2 8pi 8qu 2 8pj 8qv 2 8pk 8qw 2 8pl
8qx 2 8pm 8qy 2 8pn 8qz 2 8po 8r0 2 8pp 8r1 2 8pq 8r2 2 8pr 8r3 2 8ps 8r4 2 8pt 8r5 2 8pu 8r6 2
8pv 8r7 2 8pw 8r8 2 8px 8r9 2 8py 8ra 2 8pz 8rb 2 8q0 8rc 2 8q1 8rd 2 8q2 8re 2 8q3 8rf 2 8q4
8rg 2 8q5 8rh 2 8q6 8ri 2 8q7 8rj 2 8rk 8rl 2 8rr 8rs 2 8rt 8ru 2 8rv 8rw 2 8s2 8s3 2 8s5 8s6 2
8sg 8sh 2 8si 8sj 2 8sk 8sl 2 8sm 8sn 2 8so 8sp 2 8sq 8sr 2 8ss 8st 2 8su 8sv 2 8sw 8sx 2 8sy
8sz 2 8t0 8t1 2 8t2 8t3 2 8t4 8t5 2 8t6 8t7 2 8t8 8t9 2 8ta 8tb 2 8tc 8td 2 8te 8tf 2 8tg 8th 2
8ti 8tj 2 8tk 8tl 2 8tm 8tn 2 8to 8tp 2 8tq 8tr 2 8ts 8tt 2 8tu 8tv 2 8tw 8tx 2 8ty 8tz 2 8u0
8u1 2 8u2 8u3 2 8u4 8u5 2 8u6 8u7 2 8u8 8u9 2 8ua 8ub 2 8uc 8ud 2 8ue 8uf 2 8ug 8uh 2 8ui 8uj 2
8uk 8ul 2 8um 8un 2 8uo 8up 2 8uq 8ur 2 8us 8ut 2 8uu 8uv 2 8uw 8ux 2 8uy 8uz 2 8v0 8v1 2 8v2
8v3 2 8v4 8v5 2 8v6 8v7 2 8vf 8vg 2 8vh 8vi 2 8vm 8vn 2 wu8 wu9 2 wua wub 2 wuc wud 2 wue wuf 2
wug wuh 2 wuk wul 2 wum wun 2 wuo wup 2 wuq wur 2 wus wut 2 wuu wuv 2 wuw wux 2 wuy wuz 2 wv0
wv1 2 wv2 wv3 2 wv4 wv5 2 wv6 wv7 2 wv8 wv9 2 wva wvb 2 wvc wvd 2 wve wvf 2 wvg wvh 2 ww0 ww1 2
ww2 ww3 2 ww4 ww5 2 ww6 ww7 2 ww8 ww9 2 wwa wwb 2 wwc wwd 2 wwe wwf 2 wwg wwh 2 wwi wwj 2 wwk
wwl 2 wwm wwn 2 wwo wwp 2 wwq wwr 2 x0i x0j 2 x0k x0l 2 x0m x0n 2 x0o x0p 2 x0q x0r 2 x0s x0t 2
x0u x0v 2 x0y x0z 2 x10 x11 2 x12 x13 2 x14 x15 2 x16 x17 2 x18 x19 2 x1a x1b 2 x1c x1d 2 x1e
x1f 2 x1g x1h 2 x1i x1j 2 x1k x1l 2 x1m x1n 2 x1o x1p 2 x1q x1r 2 x1s x1t 2 x1u x1v 2 x1w x1x 2
x1y x1z 2 x20 x21 2 x22 x23 2 x24 x25 2 x26 x27 2 x28 x29 2 x2a x2b 2 x2c x2d 2 x2e x2f 2 x2g
x2h 2 x2i x2j 2 x2k x2l 2 x2m x2n 2 x2x x2y 2 x2z x30 2 x32 x33 2 x34 x35 2 x36 x37 2 x38 x39 2
x3a x3b 2 x3f x3g 2 x3k x3l 2 x3m x3n 2 x3o x50 2 x3q x3r 2 x3s x3t 2 x3u x3v 2 x3w x3x 2 x3y
x3z 2 x40 x41 2 x42 x43 2 x44 x45 2 x46 x47 2 x48 x49 2 x4j xub 2 x4k x4l 2 x4m x4n 2 x4o x4p 2
x4q x4r 2 x4s x4t 2 x4u x4v 2 x4w x4x 2 x4y x4z 2 x53 x54 2 x55 x56 2 x58 x59 2 x5a x5b 2 x5c
x5d 2 x5e x5f 2 x5g x5h 2 x5i x5j 2 x5k x5l 2 x5m x5n 2 x6d x6e 2 1dl1 1dl2 2 1ee9 1ef5 2 1eea
1ef6 2 1eeb 1ef7 2 1eec 1ef8 2 1eed 1ef9 2 1eee 1efa 2 1eef 1efb 2 1eeg 1efc 2 1eeh 1efd 2 1eei
1efe 2 1eej 1eff 2 1eek 1efg 2 1eel 1efh 2 1eem 1efi 2 1een 1efj 2 1eeo 1efk 2 1eep 1efl 2 1eeq
1efm 2 1eer 1efn 2 1ees 1efo 2 1eet 1efp 2 1eeu 1efq 2 1eev 1efr 2 1eew 1efs 2 1eex 1eft 2 1eey
1efu 2 1fcw 1fe0 2 1fcx 1fe1 2 1fcy 1fe2 2 1fcz 1fe3 2 1fd0 1fe4 2 1fd1 1fe5 2 1fd2 1fe6 2 1fd3
1fe7 2 1fd4 1fe8 2 1fd5 1fe9 2 1fd6 1fea 2 1fd7 1feb 2 1fd8 1fec 2 1fd9 1fed 2 1fda 1fee 2 1fdb
1fef 2 1fdc 1feg 2 1fdd 1feh 2 1fde 1fei 2 1fdf 1fej 2 1fdg 1fek 2 1fdh 1fel 2 1fdi 1fem 2 1fdj
1fen 2 1fdk 1feo 2 1fdl 1fep 2 1fdm 1feq 2 1fdn 1fer 2 1fdo 1fes 2 1fdp 1fet 2 1fdq 1feu 2 1fdr
1fev 2 1fds 1few 2 1fdt 1fex 2 1fdu 1fey 2 1fdv 1fez 2 1fdw 1ff0 2 1fdx 1ff1 2 1fdy 1ff2 2 1fdz
1ff3 2 1fhs 1fiw 2 1fht 1fix 2 1fhu 1fiy 2 1fhv 1fiz 2 1fhw 1fj0 2 1fhx 1fj1 2 1fhy 1fj2 2 1fhz
1fj3 2 1fi0 1fj4 2 1fi1 1fj5 2 1fi2 1fj6 2 1fi3 1fj7 2 1fi4 1fj8 2 1fi5 1fj9 2 1fi6 1fja 2 1fi7
1fjb 2 1fi8 1fjc 2 1fi9 1fjd 2 1fia 1fje 2 1fib 1fjf 2 1fic 1fjg 2 1fid 1fjh 2 1fie 1fji 2 1fif
1fjj 2 1fig 1fjk 2 1fih 1fjl 2 1fii 1fjm 2 1fij 1fjn 2 1fik 1fjo 2 1fil 1fjp 2 1fim 1fjq 2 1fin
1fjr 2 1fio 1fjs 2 1fip 1fjt 2 1fiq 1fju 2 1fir 1fjv 2 1fn4 1fo7 2 1fn5 1fo8 2 1fn6 1fo9 2 1fn7
1foa 2 1fn8 1fob 2 1fn9 1foc 2 1fna 1fod 2 1fnb 1foe 2 1fnc 1fof 2 1fnd 1fog 2 1fne 1foh 2 1fng
1foj 2 1fnh 1fok 2 1fni 1fol 2 1fnj 1fom 2 1fnk 1fon 2 1fnl 1foo 2 1fnm 1fop 2 1fnn 1foq 2 1fno
1for 2 1fnp 1fos 2 1fnq 1fot 2 1fnr 1fou 2 1fns 1fov 2 1fnt 1fow 2 1fnu 1fox 2 1fnw 1foz 2 1fnx
1fp0 2 1fny 1fp1 2 1fnz 1fp2 2 1fo0 1fp3 2 1fo1 1fp4 2 1fo2 1fp5 2 1fo4 1fp7 2 1fo5 1fp8 2 1h1c
1h34 2 1h1d 1h35 2 1h1e 1h36 2 1h1f 1h37 2 1h1g 1h38 2 1h1h 1h39 2 1h1i 1h3a 2 1h1j 1h3b 2 1h1k
1h3c 2 1h1l 1h3d 2 1h1m 1h3e 2 1h1n 1h3f 2 1h1o 1h3g 2 1h1p 1h3h 2 1h1q 1h3i 2 1h1r 1h3j 2 1h1s
1h3k 2 1h1t 1h3l 2 1h1u 1h3m 2 1h1v 1h3n 2 1h1w 1h3o 2 1h1x 1h3p 2 1h1y 1h3q 2 1h1z 1h3r 2 1h20
1h3s 2 1h21 1h3t 2 1h22 1h3u 2 1h23 1h3v 2 1h24 1h3w 2 1h25 1h3x 2 1h26 1h3y 2 1h27 1h3z 2 1h28
1h40 2 1h29 1h41 2 1h2a 1h42 2 1h2b 1h43 2 1h2c 1h44 2 1h2d 1h45 2 1h2e 1h46 2 1h2f 1h47 2 1h2g
1h48 2 1h2h 1h49 2 1h2i 1h4a 2 1h2j 1h4b 2 1h2k 1h4c 2 1h2l 1h4d 2 1h2m 1h4e 2 1h2n 1h4f 2 1h2o
1h4g 2 1h2p 1h4h 2 1h2q 1h4i 2 1h74 1h80 2 1h75 1h81 2 1h76 1h82 2 1h77 1h83 2 1h78 1h84 2 1h79
1h85 2 1h7a 1h86 2 1h7b 1h87 2 1h7c 1h88 2 1h7d 1h89 2 1h7e 1h8a 2 1h7f 1h8b 2 1h7g 1h8c 2 1h7h
1h8d 2 1h7i 1h8e 2 1h7j 1h8f 2 1h7k 1h8g 2 1h7l 1h8h 2 1h7m 1h8i 2 1h7n 1h8j 2 1h7o 1h8k 2 1h7p
1h8l 2 1jfk 1jgg 2 1jfl 1jgh 2 1jfm 1jgi 2 1jfn 1jgj 2 1jfo 1jgk 2 1jfp 1jgl 2 1jfq 1jgm 2 1jfr
1jgn 2 1jfs 1jgo 2 1jft 1jgp 2 1jfu 1jgq 2 1jfv 1jgr 2 1jfw 1jgs 2 1jfx 1jgt 2 1jfy 1jgu 2 1jfz
1jgv 2 1jg0 1jgw 2 1jg1 1jgx 2 1jg2 1jgy 2 1jg3 1jgz 2 1jg4 1jh0 2 1jg5 1jh1 2 1jg6 1jh2 2 1jg7
1jh3 2 1jg8 1jh4 2 1jg9 1jh5 2 1jga 1jh6 2 1jgb 1jh7 2 1jgc 1jh8 2 1jgd 1jh9 2 1jge 1jha 2 1jgf
1jhb 2 20cg 20dc 2 20ch 20dd 2 20ci 20de 2 20cj 20df 2 20ck 20dg 2 20cl 20dh 2 20cm 20di 2 20cn
20dj 2 20co 20dk 2 20cp 20dl 2 20cq 20dm 2 20cr 20dn 2 20cs 20do 2 20ct 20dp 2 20cu 20dq 2 20cv
20dr 2 20cw 20ds 2 20cx 20dt 2 20cy 20du 2 20cz 20dv 2 20d0 20dw 2 20d1 20dx 2 20d2 20dy 2 20d3
20dz 2 20d4 20e0 2 20d5 20e1 2 20d6 20e2 2 20d7 20e3 2 20d8 20e4 2 20d9 20e5 2 20da 20e6 2 20db
20e7 2 20f4 20fv 2 20f5 20fw 2 20f6 20fx 2 20f7 20fy 2 20f8 20fz 2 20f9 20g0 2 20fa 20g1 2 20fb
20g2 2 20fc 20g3 2 20fd 20g4 2 20fe 20g5 2 20ff 20g6 2 20fg 20g7 2 20fh 20g8 2 20fi 20g9 2 20fj
20ga 2 20fk 20gb 2 20fl 20gc 2 20fm 20gd 2 20fn 20ge 2 20fo 20gf 2 20fp 20gg 2 20fq 20gh 2 20fr
20gi 2 20fs 20gj 2 2olc 2oma 2 2old 2omb 2 2ole 2omc 2 2olf 2omd 2 2olg 2ome 2 2olh 2omf 2 2oli
2omg 2 2olj 2omh 2 2olk 2omi 2 2oll 2omj 2 2olm 2omk 2 2oln 2oml 2 2olo 2omm 2 2olp 2omn 2 2olq
2omo 2 2olr 2omp 2 2ols 2omq 2 2olt 2omr 2 2olu 2oms 2 2olv 2omt 2 2olw 2omu 2 2olx 2omv 2 2oly
2omw 2 2olz 2omx 2 2om0 2omy 2 2om1 2omz 2 2om2 2on0 2 2om3 2on1 2 2om4 2on2 2 2om5 2on3 2 2om6
2on4 2 2om7 2on5 2 2om8 2on6 2 2om9 2on7"

end Unicode

namespace CharSet

/-- The members together with every character that differs from a member in case only. -/
def caseClosure (s : CharSet) : CharSet :=
  let new := (Unicode.caseOrbits.filter fun o => o.any (s.mem ·)).flatten
  ofIntervals (s.intervals ++ new.map fun n => ⟨n, n⟩)

/-- `caseClosure` for the letters A to Z and a to z alone. -/
def asciiCaseClosure (s : CharSet) : CharSet :=
  let lower := (s.inter (range 0x41 0x5A)).intervals.map fun i => ⟨i.lo + 32, i.hi + 32⟩
  let upper := (s.inter (range 0x61 0x7A)).intervals.map fun i => ⟨i.lo - 32, i.hi - 32⟩
  ofIntervals (s.intervals ++ lower ++ upper)

end CharSet

/-- Whether some other character differs from `c` in case only. -/
def Unicode.hasCase (c : Char) : Bool := caseOrbits.any (·.contains c.toNat)

end UrlMask
