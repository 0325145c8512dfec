import UrlMask.Unicode.Runs

/-!
# Scripts

`Script.ofName?` reads the long and short name of a script, `Script.set` gives the code points
written in it, and `Script.extended` adds those that it shares with other scripts.
-/
namespace UrlMask.Unicode

namespace Script

/-- The names of each script, in lower case and without separators. The tables number the
scripts from 1 on in this order. -/
def names : List (List String) :=
  [["adlam", "adlm"], ["ahom"], ["anatolianhieroglyphs", "hluw"], ["arabic", "arab"],
   ["armenian", "armn"], ["avestan", "avst"], ["balinese", "bali"], ["bamum", "bamu"],
   ["bassavah", "bass"], ["batak", "batk"], ["bengali", "beng"], ["beriaerfe", "berf"],
   ["bhaiksuki", "bhks"], ["bopomofo", "bopo"], ["brahmi", "brah"], ["braille", "brai"],
   ["buginese", "bugi"], ["buhid", "buhd"], ["canadianaboriginal", "cans"], ["carian", "cari"],
   ["caucasianalbanian", "aghb"], ["chakma", "cakm"], ["cham"], ["cherokee", "cher"],
   ["chorasmian", "chrs"], ["common", "zyyy"], ["coptic", "copt", "qaac"], ["cuneiform", "xsux"],
   ["cypriot", "cprt"], ["cyprominoan", "cpmn"], ["cyrillic", "cyrl"], ["deseret", "dsrt"],
   ["devanagari", "deva"], ["divesakuru", "diak"], ["dogra", "dogr"], ["duployan", "dupl"],
   ["egyptianhieroglyphs", "egyp"], ["elbasan", "elba"], ["elymaic", "elym"],
   ["ethiopic", "ethi"], ["garay", "gara"], ["georgian", "geor"], ["glagolitic", "glag"],
   ["gothic", "goth"], ["grantha", "gran"], ["greek", "grek"], ["gujarati", "gujr"],
   ["gunjalagondi", "gong"], ["gurmukhi", "guru"], ["gurungkhema", "gukh"], ["han", "hani"],
   ["hangul", "hang"], ["hanifirohingya", "rohg"], ["hanunoo", "hano"], ["hatran", "hatr"],
   ["hebrew", "hebr"], ["hiragana", "hira"], ["imperialaramaic", "armi"],
   ["inherited", "zinh", "qaai"], ["inscriptionalpahlavi", "phli"],
   ["inscriptionalparthian", "prti"], ["javanese", "java"], ["kaithi", "kthi"],
   ["kannada", "knda"], ["katakana", "kana"], ["kawi"], ["kayahli", "kali"],
   ["kharoshthi", "khar"], ["khitansmallscript", "kits"], ["khmer", "khmr"], ["khojki", "khoj"],
   ["khudawadi", "sind"], ["kiratrai", "krai"], ["lao", "laoo"], ["latin", "latn"],
   ["lepcha", "lepc"], ["limbu", "limb"], ["lineara", "lina"], ["linearb", "linb"], ["lisu"],
   ["lycian", "lyci"], ["lydian", "lydi"], ["mahajani", "mahj"], ["makasar", "maka"],
   ["malayalam", "mlym"], ["mandaic", "mand"], ["manichaean", "mani"], ["marchen", "marc"],
   ["masaramgondi", "gonm"], ["medefaidrin", "medf"], ["meeteimayek", "mtei"],
   ["mendekikakui", "mend"], ["meroiticcursive", "merc"], ["meroitichieroglyphs", "mero"],
   ["miao", "plrd"], ["modi"], ["mongolian", "mong"], ["mro", "mroo"], ["multani", "mult"],
   ["myanmar", "mymr"], ["nabataean", "nbat"], ["nagmundari", "nagm"], ["nandinagari", "nand"],
   ["newtailue", "talu"], ["newa"], ["nko", "nkoo"], ["nushu", "nshu"],
   ["nyiakengpuachuehmong", "hmnp"], ["ogham", "ogam"], ["olchiki", "olck"], ["olonal", "onao"],
   ["oldhungarian", "hung"], ["olditalic", "ital"], ["oldnortharabian", "narb"],
   ["oldpermic", "perm"], ["oldpersian", "xpeo"], ["oldsogdian", "sogo"],
   ["oldsoutharabian", "sarb"], ["oldturkic", "orkh"], ["olduyghur", "ougr"], ["oriya", "orya"],
   ["osage", "osge"], ["osmanya", "osma"], ["pahawhhmong", "hmng"], ["palmyrene", "palm"],
   ["paucinhau", "pauc"], ["phagspa", "phag"], ["phoenician", "phnx"], ["psalterpahlavi", "phlp"],
   ["rejang", "rjng"], ["runic", "runr"], ["samaritan", "samr"], ["saurashtra", "saur"],
   ["sharada", "shrd"], ["shavian", "shaw"], ["siddham", "sidd"], ["sidetic", "sidt"],
   ["signwriting", "sgnw"], ["sinhala", "sinh"], ["sogdian", "sogd"], ["sorasompeng", "sora"],
   ["soyombo", "soyo"], ["sundanese", "sund"], ["sunuwar", "sunu"], ["sylotinagri", "sylo"],
   ["syriac", "syrc"], ["tagalog", "tglg"], ["tagbanwa", "tagb"], ["taile", "tale"],
   ["taitham", "lana"], ["taiviet", "tavt"], ["taiyo", "tayo"], ["takri", "takr"],
   ["tamil", "taml"], ["tangsa", "tnsa"], ["tangut", "tang"], ["telugu", "telu"],
   ["thaana", "thaa"], ["thai"], ["tibetan", "tibt"], ["tifinagh", "tfng"], ["tirhuta", "tirh"],
   ["todhri", "todr"], ["tolongsiki", "tols"], ["toto"], ["tulutigalari", "tutg"],
   ["ugaritic", "ugar"], ["vai", "vaii"], ["vithkuqi", "vith"], ["wancho", "wcho"],
   ["warangciti", "wara"], ["yezidi", "yezi"], ["yi", "yiii"], ["zanabazarsquare", "zanb"]]

/-- The runs of code points of one script; 0 is none. -/
def table : List (Interval × Nat) := parts "
q 1t 23 q q 6 23 q q 1b 23 1 q f 23 1 q 5 23 n q 1 23 v q 1 23 ch q 13 23 5 q 5 e 2 q k 1n 34 1a
4 q 1 1a 3 0 2 1a 4 q 1 1a 1 0 4 1a 1 q 1 1a 1 q 1 1a 3 0 1 1a 1 0 1 1a k 0 1 1a 1r r e 1a g v
3p 1n 2 v 4p 0 1 5 12 0 2 5 1e 0 2 5 3 0 1 1k 1j 0 8 1k r 0 4 1k 6 0 b 4 5 q 1 4 6 q 1 4 e q 1 4
3 q 1 4 w q 1 4 a 1n b 4 q 1n 1 4 30 q 1 4 y 42 e 0 1 42 1o 0 2 42 3 4 1c 4e 1e 0 e 2y 1n 0 2 2y
3 3o 1a 0 2 3o f 0 1 2e s 0 2 2e 1 0 1 42 b 0 5 4 y 0 5 4 23 q 1 4 t x 29 1n 4 x f q 2 x q b 4 0
1 b 8 0 2 b 2 0 2 b m 0 1 b 7 0 1 b 1 0 3 b 4 0 2 b 9 0 2 b 2 0 2 b 4 0 8 b 1 0 4 b 2 0 1 b 5 0
2 b p 0 2 1d 3 0 1 1d 6 0 4 1d 2 0 2 1d m 0 1 1d 7 0 1 1d 2 0 1 1d 2 0 1 1d 2 0 2 1d 1 0 1 1d 5
0 4 1d 2 0 2 1d 3 0 3 1d 1 0 7 1d 4 0 1 1d 1 0 7 1d h 0 a 1b 3 0 1 1b 9 0 1 1b 3 0 1 1b m 0 1 1b
7 0 1 1b 2 0 1 1b 5 0 2 1b a 0 1 1b 3 0 1 1b 3 0 2 1b 1 0 f 1b 4 0 2 1b c 0 7 1b 7 0 1 3d 3 0 1
3d 8 0 2 3d 2 0 2 3d m 0 1 3d 7 0 1 3d 2 0 1 3d 5 0 2 3d 9 0 2 3d 2 0 2 3d 3 0 7 3d 3 0 4 3d 2 0
1 3d 5 0 2 3d i 0 a 4a 2 0 1 4a 6 0 3 4a 3 0 1 4a 4 0 3 4a 2 0 1 4a 1 0 1 4a 2 0 3 4a 2 0 3 4a 3
0 3 4a c 0 4 4a 5 0 3 4a 3 0 1 4a 4 0 2 4a 1 0 6 4a 1 0 e 4a l 0 5 4d d 0 1 4d 3 0 1 4d n 0 1 4d
g 0 2 4d 9 0 1 4d 3 0 1 4d 4 0 7 4d 2 0 1 4d 3 0 1 4d 2 0 2 4d 4 0 2 4d a 0 7 4d 9 1s d 0 1 1s 3
0 1 1s n 0 1 1s a 0 1 1s 5 0 2 1s 9 0 1 1s 3 0 1 1s 4 0 7 1s 2 0 5 1s 3 0 1 1s 4 0 2 1s a 0 1 1s
3 0 c 2d d 0 1 2d 3 0 1 2d 1f 0 1 2d 3 0 1 2d 6 0 4 2d g 0 2 2d q 0 1 3v 3 0 1 3v i 0 3 3v o 0 1
3v 9 0 1 3v 1 0 2 3v 7 0 3 3v 1 0 4 3v 6 0 1 3v 1 0 1 3v 8 0 6 3v a 0 2 3v 3 0 c 4f 1m 0 4 q 1
4f s 0 11 22 2 0 1 22 1 0 1 22 5 0 1 22 o 0 1 22 1 0 1 22 n 0 2 22 5 0 1 22 1 0 1 22 7 0 1 22 a
0 2 22 4 0 w 4g 20 0 1 4g 10 0 4 4g 13 0 1 4g 10 0 1 4g f 0 1 4g 7 q 4 4g 2 0 11 2s 4g 16 12 0 1
16 1 0 5 16 1 0 2 16 17 q 1 16 4 1g 74 14 21 0 1 14 4 0 2 14 7 0 1 14 1 0 1 14 4 0 2 14 15 0 1
14 4 0 2 14 x 0 1 14 4 0 2 14 7 0 1 14 1 0 1 14 4 0 2 14 f 0 1 14 1l 0 1 14 4 0 2 14 1v 0 2 14 w
0 3 14 q 0 6 o 2e 0 2 o 6 0 2 j hs 31 t 0 3 3n 23 q 3 3n b 0 7 43 m 0 9 43 1 1i l q 2 0 9 i k 0
c 44 d 0 1 44 3 0 1 44 2 0 c 1y 2m 0 2 1y a 0 6 1y a 0 6 2p 2 q 2 2p 1 q 1 2p k 0 6 2p 2h 0 7 2p
17 0 5 j 1y 0 a 25 v 0 1 25 c 0 4 25 c 0 4 25 1 0 3 25 c 45 u 0 2 45 5 0 b 2w 18 0 4 2w q 0 6 2w
b 0 3 2w 2 1y w h s 0 2 h 2 46 1r 0 1 46 t 0 2 46 b 0 6 46 a 0 6 46 e 0 2 1n 1a 0 2 1n c 0 k 7
25 0 1 7 1e 3z 1s a 1g 0 8 a 4 24 1k 0 3 24 f 0 3 24 3 32 1c v b 0 5 16 17 0 2 16 3 3z 8 0 8 1n
3 q 1 1n d q 1 1n 7 q 4 1n 1 q 6 1n 1 q 3 1n 2 q 1 0 5 23 12 1a 5 v 1 23 1d 1a 5 23 4 1a 5 23 d
v 1 23 1y 1a 1 1n 1s 23 74 1a m 0 2 1a 6 0 2 1a 12 0 2 1a 6 0 2 1a 8 0 1 1a 1 0 1 1a 1 0 1 1a 1
0 1 1a v 0 2 1a 1h 0 1 1a f 0 1 1a e 0 2 1a 6 0 1 1a j 0 2 1a 3 0 1 1a 9 0 1 q c 1n 2 q 2f 0 1 q
b 23 1 0 2 q b 23 1 q f 0 1 23 d 0 3 q y 0 e 1n x 0 f q 12 1a 1 q 3 23 2 q 6 23 1 q r 23 1 q h
23 15 q 3 0 4 q ii 0 m q b 0 l q ps g 74 q hg 0 2 q 3u 17 2o 23 w r 38 0 5 r 7 16 12 0 1 16 1 0
5 16 1 0 2 4h 1k 0 7 4h 2 0 e 4h 1 14 n 0 9 14 7 0 1 14 7 0 1 14 7 0 1 14 7 0 1 14 7 0 1 14 7 0
1 14 7 0 1 14 7 0 1 v w q 2m 0 y 1f q 0 1 1f 2h 0 c 1f 5y 0 q q l 1f 1 q 1 1f 1 q p 1f 9 1n 4 1g
2 q 8 1f 4 q 4 0 1 1l 2e 0 2 1n 2 q 2 1l 3 q 1 1t 2i q 2 1t 3 0 5 e 17 0 1 1g 2m 0 1 q g e w q
12 0 9 q 1 1t g 1g v 0 1 q 1s 1g v q 29 1t 1b q 1 1t 2g q 4o 1f 534 q 1s 1f g74 4t wd 0 3 4t 1j
0 9 28 1c 4o 8c 0 k v 2o 8 2g 0 8 q y 23 2u q 3 23 2a 0 k 23 f 41 19 0 3 q a 0 6 3j 1k 0 8 3p 1y
0 8 3p c 0 6 x w 1v 1a q 1 1v 1 3m 10 0 b 3m 1 1g t 0 3 1q 26 0 1 q 1 1q a 0 4 1q 2 2s v 0 1 n
1j 0 9 n e 0 2 n a 0 2 n 4 2s w 47 1v 0 o 47 5 2j n 0 a 14 6 0 2 14 6 0 2 14 6 0 9 14 7 0 1 14 7
0 1 23 17 q 1 23 9 1a 1 23 4 q 2 0 4 o 28 2j 1a 0 2 2j a 0 6 1g 8mc 0 c 1g n 0 4 1g 1d 0 6is 1f
a6 0 2 1f 2y 0 12 23 7 0 c 5 5 0 5 1k q 0 1 1k 5 0 1 1k 1 0 1 1k 2 0 1 1k 2 0 1 1k a 4 dq q 2 4
40 0 w 4 g 1n g q a 0 6 1n e v 2 q z 0 1 q j 0 1 q 4 0 4 4 5 0 1 4 3r 0 2 q 1 0 1 q w 23 q q 6
23 q q b 1t a q 1 1t 19 q 2 1g v 0 3 1g 6 0 2 1g 6 0 2 1g 6 0 2 1g 3 0 3 q 7 0 1 q 7 0 a q 5 0 2
27 c 0 1 27 q 0 1 27 j 0 1 27 2 0 1 27 f 0 2 27 e 0 y 27 3f 0 5 q 3 0 4 q 19 0 3 q 9 1a 27 0 1 q
d 0 3 1a 1 0 1b q 19 1n 1 0 3m 29 t 0 3 k 1d 0 f 1n 1 q r 0 4 35 10 0 9 35 3 18 r 0 5 37 17 0 5
4n u 0 1 4n 1 38 10 0 4 38 e 0 16 w 28 3r 1c 3f u 0 2 3f a 0 6 3e 10 0 4 3e 10 0 4 12 14 0 8 l
1g 0 b l 1 4p b 0 1 4p f 0 1 4p 7 0 1 4p 2 0 1 4p b 0 1 4p f 0 1 4p 7 0 1 4p 2 0 3 4j 1g 0 c 26
8n 0 9 26 m 0 a 26 8 0 o 23 6 0 1 23 16 0 1 23 9 0 1x t 6 0 2 t 1 0 1 t 18 0 1 t 2 0 3 t 1 0 2 t
1 1m m 0 1 1m 9 3h w 2t v 0 8 2t 9 0 1c 1j j 0 1 1j 2 0 5 1j 5 3k s 0 3 3k 1 2a q 0 5 2a 1 3t q
0 12 2m w 2l o 0 4 2l k 0 2 2l 1a 1w 4 0 1 1w 2 0 5 1w 8 0 1 1w 3 0 1 1w t 0 2 1w 3 0 4 1w a 0 7
1w 9 0 7 3a w 36 w 0 w 2f 13 0 4 2f c 0 9 6 1i 0 3 6 7 1p m 0 2 1p 8 1o j 0 5 1o 8 3l i 0 7 3l 4
0 c 3l 7 0 28 3b 21 0 1j 34 1f 0 d 34 1f 0 7 34 6 1h 14 0 8 1h a 0 6 15 12 0 3 15 t 0 8 15 2 0
5s 4 v 0 1 4s 16 0 1 4s 3 0 2 4s 2 0 g 4 6 0 8 4 9 0 x 4 6 39 14 0 8 3w 16 0 m 3c q 0 12 p s 0 k
13 n 0 9 f 26 0 4 f 10 0 9 f 1 1r 1v 0 a 1r 1 0 2 3x p 0 7 3x a 0 6 m 1h 0 1 m i 0 8 2b 13 0 9
3q 2o 0 1 3v k 0 b 1z i 0 1 1z 1b 0 1q 2r 7 0 1 2r 1 0 1 2r 4 0 1 2r f 0 1 2r b 0 6 20 1n 0 5 20
a 0 6 19 4 0 1 19 8 0 2 19 2 0 2 19 m 0 1 19 7 0 1 19 2 0 1 19 5 0 1 1n 1 19 9 0 2 19 2 0 2 19 3
0 2 19 1 0 6 19 1 0 5 19 7 0 2 19 7 0 3 19 5 0 b 4m a 0 1 4m 1 0 2 4m 1 0 1 4m 12 0 1 4m a 0 1
4m 1 0 2 4m 1 0 1 4m 4 0 1 4m a 0 1 4m 2 0 8 4m 2 0 t 2x 2k 0 1 2x 5 0 u 4i 20 0 8 4i a 0 4m 3s
1i 0 2 3s 12 0 y 2o 1x 0 b 2o a 0 6 2p d 0 j 49 1m 0 6 49 a 0 6 2s k 0 s 2 r 0 2 2 f 0 4 2 n 0
55 z 1o 0 2s 4r 2b 0 c 4r 1 y 7 0 2 y 1 0 2 y 8 0 1 y 2 0 1 y u 0 1 y 2 0 2 y c 0 9 y a 0 1y 2v
8 0 2 2v 1a 0 2 2v b 0 r 4u 20 0 8 3y 2b 0 d j g 3i 1l 0 7 x a 0 2e 3q 8 0 2g 40 y 0 e 40 a 0 6
d 9 0 1 d 19 0 1 d e 0 a d t 0 3 2g w 0 2 2g m 0 1 2g e 0 21 2h 7 0 1 2h 2 0 1 2h 18 0 3 2h 1 0
1 2h 2 0 1 2h 9 0 8 2h a 0 6 1c 6 0 1 1c 2 0 1 1c 11 0 1 1c 2 0 1 1c 6 0 7 1c a 0 6 4k 18 0 4 4k
a 0 6u 2c p 0 7 1u h 0 1 1u 15 0 3 1u t 0 2d 28 1 0 f 4a 1e 0 d 4a 1 s pm 0 2u s 33 0 1 s 5 0 b
s 5g 0 218 u 2r 0 d 11 uu 0 a 11 32z 0 5 3 g7 0 5a1 1e 1m 0 1c6 8 ft 0 7 2q v 0 1 2q a 0 4 2q 2
4b 27 0 1 4b a 0 6 9 u 0 2 9 6 0 a 3g 1y 0 a 3g a 0 1 3g 7 0 1 3g l 0 5 3g j 0 c0 21 1m 0 5i 2i
2j 0 5 c p 0 2 c p 0 18 2n 23 0 4 2n 1l 0 7 2n h 0 1s 4c 1 2z 1 1f 2 1x 1 0 b 1f 7 0 9 4c 5c0 1x
d2 0 15 1x 1 4c v 0 2p 4c 37 0 6pp 1t 4 0 1 1t 7 0 1 1t 2 0 1 1t 1 1l 7z 1t 3 0 f 1l 1 0 t 1l 3
0 2 1t 1 0 e 1t 4 0 8 2z b0 0 1s4 10 2z 0 5 10 d 0 3 10 9 0 7 10 a 0 2 10 4 q 4 0 318 q 71 0 3 q
c4 0 6 q n 0 f q h 0 f 1n 1a 0 2 1n n 0 9 q 38 0 1o q 6u 0 a q 13 0 2 q 1q 1n 3 q h 1n 8 q 2 1n
7 q u 1n 4 q 1p 0 l 1a 1y 0 3e q k 0 c q k 0 c q 2f 0 9 q p 0 3r q 2d 0 1 q 1z 0 1 q 2 0 2 q 1 0
2 q 2 0 2 q 4 0 1 q c 0 1 q 1 0 1 q 7 0 1 q 1t 0 1 q 4 0 2 q 8 0 1 q 7 0 1 q s 0 1 q 4 0 1 q 5 0
1 q 1 0 3 q 7 0 1 q 9g 0 2 q 84 0 2 q 1e 3u i4 0 f 3u 5 0 1 3u f 0 uo 23 v 0 6 23 6 0 5x 17 7 0
1 17 h 0 2 17 7 0 1 17 2 0 1 17 5 0 5 v 1q 0 x v 1 0 34 30 19 0 3 30 e 0 2 30 a 0 4 30 2 0 8w 4l
v 0 h 4q 1m 0 5 4q 1 0 cw 2u 16 0 5y 33 17 0 4 33 1 0 5c 48 v 0 1 48 m 0 8 48 2 0 68 14 7 0 1 14
4 0 1 14 2 0 1 14 f 0 1 2k 5h 0 2 2k g 0 15 1 24 0 4 1 a 0 4 1 2 0 lt q 1w 0 24 q 1p 0 5e 4 4 0
1 4 r 0 1 4 2 0 1 4 1 0 2 4 1 0 1 4 a 0 1 4 4 0 1 4 1 0 1 4 1 0 6 4 1 0 4 4 1 0 1 4 1 0 1 4 1 0
1 4 3 0 1 4 2 0 1 4 1 0 2 4 1 0 1 4 1 0 1 4 1 0 1 4 1 0 1 4 1 0 1 4 2 0 1 4 1 0 2 4 4 0 1 4 7 0
1 4 4 0 1 4 4 0 1 4 1 0 1 4 a 0 1 4 h 0 5 4 3 0 1 4 5 0 1 4 h 0 1g 4 2 0 7i q 18 0 4 q 2s 0 c q
f 0 2 q f 0 1 q f 0 1 q 11 0 a q 4u 0 1k q q 1l 1 q 2 0 d q 18 0 4 q 9 0 7 q 2 0 e q 6 0 4a q rd
0 3 q h 0 3 q d 0 3 q 62 0 6 q c 0 4 q 1 0 f q c 0 4 q 1k 0 8 q a 0 6 q 14 0 8 q u 0 2 q c 0 4 q
2 0 e q 9 0 13 q 9k 0 8 q e 0 2 q d 0 3 q b 0 3 q 1l 0 1 q 1 0 4 q g 0 2 q c 0 4 q a 0 7 q 43 0
1 q 2v 0 sl 1f wyo 0 w 1f 3dq 0 2 1f 4ge 0 2 1f 5rl 0 f 1f ha 0 1wi 1f f2 0 15u 1f 3t7 0 5 1f
6ju 0 f5vr q 1 0 u q 2o 0 3k 1n 6o 0 47bk"

/-- The runs that several scripts share: gap, length, count and numbers of the scripts. -/
def sharedFrom (fuel start : Nat) : List Nat → List (Interval × List Nat)
  | gap :: len :: count :: rest =>
    match fuel with
    | 0 => []
    | fuel + 1 =>
      (⟨start + gap, start + gap + len - 1⟩, rest.take count) ::
        sharedFrom fuel (start + gap + len) (rest.drop count)
  | _ => []

def shared : List (Interval × List Nat) :=
  let ns := numerals "
53 1 g 6 k r 10 12 16 17 18 1a 1c 1f 23 2a 2b 37 3r ec 1 7 b v x 23 28 4f 4l a 1 2 e 23 1 3 2 e
23 1 1 2 23 28 9 1 2 23 4f 1 1 2 e 23 12 1 8 o r v 1a 23 37 40 45 0 1 8 o v 1a 23 3e 40 45 4j 0
1 4 o v 23 4h 0 1 5 17 23 40 42 4f 0 1 b l o r v 18 1a 23 3e 42 4h 4j 0 1 6 r 12 17 18 1t 23 0 1
5 v 1a 23 37 4h 0 1 9 r 10 1k 23 37 42 45 4h 4j 0 1 b 5 v 10 18 1a 1k 23 37 42 45 4h 0 1 2 23 4h
0 1 3 10 23 42 0 1 4 o v 23 3e 0 1 3 o 23 45 0 1 2 23 40 0 1 2 14 23 1 1 2 23 40 0 1 3 v 23 4j 1
1 4 1a 23 37 4j f 1 6 o 10 1t 23 42 4h 0 1 4 o 10 23 42 0 1 2 23 42 7 1 3 23 40 42 0 1 2 23 42 1
1 3 o 23 42 0 1 7 l o 18 23 40 42 4f g 1 1 1a 2 1 1 1a i 1 2 23 3e 5 1 3 l 23 4j 4 d 1 23 4 2 2
r 1a 7h 1 2 v 37 0 1 2 v 17 0 2 2 v 23 0 1 2 v 17 75 1 3 5 16 17 3m 1 7 4 15 1h 2y 42 4e 4s e 1
7 4 15 1h 2y 42 4e 4s 0 1 3 4 42 4e 2 1 8 1 4 15 1h 2y 42 4e 4s w 1 9 1 4 1h 2e 2f 3c 3l 3w 42 a
b 2 4 42 a a 3 4 4e 4s 6 1 2 4 42 2r 1 2 4 1h ho 1 f b x 19 1b 1d 1s 23 2d 2v 2x 3d 3q 4a 4d 4i
0 1 d b x 19 1b 1d 1s 23 2d 2x 3d 4a 4d 4i h 1 l b x z 19 1b 1c 1d 1s 20 2b 2d 2h 2v 33 3d 3v 41
49 4a 4d 4i 0 1 n b x z 19 1b 1c 1d 1e 1s 20 25 2b 2d 2h 2v 33 3d 3v 41 49 4a 4d 4i 0 a 4 x z 1r
2b 3a a 3 b m 41 3a a 2 1d 2r 3a a 2 1b 1z 6u e 2 19 4a 6q a 3 1s 2v 4m nk a 3 m 2s 45 4x 1 3 16
17 23 167 3 1 3n 1z 2 4 i 1i 43 44 5n 2 2 2p 3j 1 1 2 2p 3j y2 1 4 b x 19 1s 0 1 1 x 0 1 4 b x
19 1s 0 1 3 x 19 1s 0 1 1 x 0 1 5 b x 2x 4d 4i 0 1 3 b x 4d 0 1 3 x 2x 3q 0 1 4 b x 2x 4d 0 1 2
x 3q 0 1 6 x 1s 2d 3d 4a 4d 0 1 1 x 0 2 2 x 3q 0 2 1 x 0 1 2 x 3q 0 1 2 b x 0 1 3 x 2x 4i 0 6 1
x 0 1 3 x 2v 2x 0 1 3 b x 3q 0 1 2 x 2x 0 1 1 x 0 1 4 b x 2x 3q 0 4 1 x 0 1 b b x 19 1s 2d 2v 3d
3v 4d 4i 4m 0 1 2 x 19 0 1 4 x 19 1s 4m 0 2 2 b x 0 1 1 b 0 2 2 x 19 0 1 1 2v 5h 2 1 1a 1i 1 3 v
23 42 1 1 1 42 fo 1 3 23 2p 3j v 1 2 1 4 a 1 6 k 16 17 29 34 3b 2 1 4 k 1a 2m 34 42 1 3 x 19 23
2li 1 2 r 23 o 1 2 6 3b 0 1 7 6 k 16 1r 2a 34 3o a 1 1 10 4 1 3 1 4 34 1 1 2 v 17 bw g 2 1f 4c 1
1 7 e 1f 1g 1l 1t 2p 4t 0 1 8 e 1f 1g 1l 1t 2p 3j 4t 0 1 5 e 1f 1g 1l 1t 2 1 1 1f 1 2 8 e 1f 1g
1l 1t 2p 4g 4t 0 2 9 e 1f 1g 1l 1t 28 2p 4g 4t 0 6 6 e 1f 1g 1l 1t 4t 1 1 5 e 1f 1g 1l 1t 0 8 6
e 1f 1g 1l 1t 4t 0 4 5 e 1f 1g 1l 1t a 4 2 e 1f 2 1 5 e 1f 1g 1l 1t 0 5 2 1l 1t 1 1 5 e 1f 1g 1l
1t 4 2 3 1f 1l 1t 0 2 1 1f 2h 4 2 1l 1t 3 1 2 1l 1t 2i 1 6 e 1f 1g 1l 1t 4t 0 1 2 1l 1t 43 g 1
1f w 12 1 1f 9 1 2 1f 4c 1c 14 1 1f 1k 1d 1 1f f c 1 1f 1f 1 1 1f 2g p 1 1f a 5 1 1f 2o v 1 1f
mls 1 2 v 17 40 8 2 1f 23 88 3 g x z 1b 1d 1r 1s 1z 20 2b 2d 2o 2v 3q 49 4i 4m 0 3 f x z 1b 1d
1r 1s 1z 20 2b 2o 2v 3q 49 4i 4m 0 2 b x z 1b 1d 1r 1z 20 2b 2o 49 4i 0 1 c x z 1b 1d 1r 1z 20
2b 2o 3q 49 4i 0 1 b x z 1b 1d 1r 1z 20 2b 2o 49 4i 53 1 3 b x 4m 1 1 2 x 4a 1m 1 3 1v 23 2s 4g
1 2 h 1q gha 2 2 4 2y 4y 1 2 4 4e a 1 2 4 4e 1z 2 5 e 1f 1g 1l 1t 7u 5 6 e 1f 1g 1l 1t 4t a 1 2
1l 1t 19 2 2 1l 1t 9s 2 3 t u 27 0 1 2 t 27 4 19 3 t 26 27 3 9 2 t 27 bk s 2 4 r 1km 1 2 2f 3c
1la 1 2 19 4a 1 1 2 19 4a 1j 2 2 19 4a 2hf 2 2 19 4a 1 1 2 19 4a uz0 4 1 10 4ho i 1 1f 63i 2 1
1f"
  sharedFrom ns.length 0 ns

/-- The number of a script, by a name in lower case without separators. -/
def ofName? (name : String) : Option Nat :=
  (names.findIdx? fun e => e.contains name).map (· + 1)

/-- The code points of script number `k`. -/
def set (k : Nat) : CharSet := whereValue table (· == k)

/-- The code points that are used in script number `k`, shared ones included. -/
def extended (k : Nat) : CharSet :=
  let own := (set k).diff (.ofIntervals (shared.map (·.1)))
  own.union (.ofIntervals ((shared.filter fun e => e.2.contains k).map (·.1)))

end Script

end UrlMask.Unicode
