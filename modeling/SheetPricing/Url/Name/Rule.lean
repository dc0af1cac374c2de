import SheetPricing.Text.RunTable

/-!
# Characters of names

What becomes of a character in the name of a domain. A character that is in no run is in no name.
-/
namespace SheetPricing.Url

/-- What becomes of the characters of a run: they are kept or left out; they are shifted, so that
the first becomes the given character; each second one becomes its neighbour; or each becomes the
given characters. -/
inductive NameRule where
  | kept
  | leftOut
  | shifted (first : Nat)
  | paired
  | replaced (characters : List Char)
  deriving DecidableEq, Repr

namespace NameRule

/-- The rule that a text writes. -/
def ofText : List Char → NameRule
  | [] => .kept
  | ['-'] => .leftOut
  | ['~'] => .paired
  | '=' :: first => .shifted (Text.RunTable.number first)
  | characters => .replaced (Text.RunTable.characters characters)

/-- The rules of the characters that a name may be written with. -/
def table : Text.RunTable NameRule := .ofText ofText "
  0+40 0+19:=61 0+24 20:20 0+6 0:20,308 0 0:61 0+1 0:- 0 0:20,304 0+1 0+1:=32 0:20,301 0:3bc 0+1
  0:20,327 0:31 0:6f 0 0:31,2044,34 0:31,2044,32 0:33,2044,34 0 0+16:=e0 0 0+6:=f8 0+20 0+2f:~
  0:69,307 0 0+1:69,6a 0+3:~ 0 0+5:~ 0+1:6c,b7 0+7:~ 0:2bc,6e 0+2d:~ 0:ff 0+5:~ 0:73 0 0:253 0+3:~
  0:254 0+1:~ 0+1:=256 0+1:~ 0 0:1dd 0:259 0:25b 0+1:~ 0:260 0:263 0 0:269 0:268 0+1:~ 0+1 0:26f
  0:272 0 0:275 0+5:~ 0:280 0+1:~ 0:283 0+1 0+1:~ 0:288 0+1:~ 0+1:=28a 0+3:~ 0:292 0+1:~ 0+1 0+1:~
  0+5 0+2:64,17e 0+2:6c,6a 0+2:6e,6a 0+f:~ 0 0+11:~ 0 0+2:64,7a 0+1:~ 0:195 0:1bf 0+27:~ 0:19e 0
  0+11:~ 0+5 0:2c65 0+1:~ 0:19a 0:2c66 0+1 0+1:~ 0:180 0:289 0:28c 0+9:~ 0+5f 0:68 0:266 0:6a 0:72
  0:279 0:27b 0:281 0:77 0:79 0+1e 0:20,306 0:20,307 0:20,30a 0:20,328 0:20,303 0:20,30b 0+1 0:263
  0:6c 0:73 0:78 0:295 0+5a 0+1:=300 0 0:313 0:308,301 0:3b9 0+8 0:- 0+1f 0+3:~ 0:2b9 0 0+1:~
  2:20,3b9 0+2 0:3b 0:3f3 4:20,301 0:20,308,301 0:3ac 0:b7 0+2:=3ad 1:3cc 1+1:=3cd 0 0+10:=3b1
  1+8:=3c3 0+22 0:3d7 0:3b2 0:3b8 0:3c5 0:3cd 0:3cb 0:3c6 0:3c0 0 0+17:~ 0:3ba 0:3c1 0:3c3 0 0:3b8
  0:3b5 0 0+1:~ 0:3c3 0+1:~ 0 0+2:=37b 0+f:=450 0+1f:=430 0+2f 0+21:~ 0+7 0+35:~ 1+d:~ 0 0+5f:~
  1+25:=561 2+2d 0:565,582 0+2 2+2 1+36 8+1a 4+5 11+15 1+57 0:627,674 0:648,674 0:6c7,674 0:64a,674
  0+63 1+2f 2+3a 2+64 e+3a 2+30 2+e 1+1b 2 1+a 5+1e 9+49 1+74 0:915,93c 0:916,93c 0:917,93c
  0:91c,93c 0:921,93c 0:922,93c 0:92b,93c 0:92f,93c 0+23 1+7 2+1 2+15 1+6 1 3+3 2+8 2+1 2+3 8
  4:9a1,9bc 0:9a2,9bc 1:9af,9bc 0+3 2+18 2+2 1+5 4+1 2+15 1+6 1 0:a32,a3c 1 0:a38,a3c 1+1 2 1+4 4+1
  2+2 3 7:a16,a3c 0:a17,a3c 0:a1c,a3c 0 1:a2b,a3c 7+10 a+2 1+8 1+2 1+15 1+6 1+1 1+4 2+9 1+2 1+2 2
  f+3 2+b 7+6 1+2 1+7 2+1 2+15 1+6 1+1 1+4 2+8 2+1 2+2 7+2 4:b21,b3c 0:b22,b3c 1+4 2+11 a+1 1+5 3+2
  1+3 3+1 1 1+1 3+1 3+2 3+b 4+4 3+2 1+3 2 6 e+14 5+c 1+2 1+16 1+f 2+8 1+2 1+3 7+1 1+2 2 2+3 2+9
  7+15 1+2 1+16 1+9 1+4 2+8 1+2 1+3 7+1 6+1 1+3 2+9 1+2 c+c 1+2 1+32 1+2 1+5 4+f 2+19 1+2 1+11 3+17
  1+8 1 2+6 3 4+5 1 1+7 6+9 2+2 c+31 0:e4d,e32 0+6 4+1c 25+1 1 1+4 1+17 1 1+b 0:ecd,eb2 0+9 2+4 1
  1+6 1+9 2:eab,e99 0:eab,ea1 0+1 20+b 0:f0b 0+35 0:f42,fb7 0+3 1+3 0:f4c,fb7 0+3 0:f51,fb7 0+3
  0:f56,fb7 0+3 0:f5b,fb7 0+b 0:f40,fb5 0+2 4+1 0:f71,f72 0 0:f71,f74 0:fb2,f80 0:fb2,f71,f80
  0:fb3,f80 0:fb3,f71,f80 0+6 0:f71,f80 0+10 0:f92,fb7 0+3 1+3 0:f9c,fb7 0+3 0:fa1,fb7 0+3
  0:fa6,fb7 0+3 0:fab,fb7 0+b 0:f90,fb5 0+2 1+e 1+c 25+9f 27:2d27 5:2d2d 2+2b 0:10dc 0+61 2+e7 1+3
  2+6 1 1+3 2+28 1+3 2+20 1+3 2+6 1 1+3 2+e 1+38 1+3 2+42 2+1f 3+19 6+55 2+5:=13f0 2+27f 1+1b 3+58
  7+15 9+17 9+13 c+c 1+2 1+1 c+33 2+27 2+9 6+9 6+5 1+3 0+2:- 1:- 0+9 6+58 7+2a 5+45 a+1e 1+b 4+b 4
  3+29 2+4 b+2b 4+19 6+a 3+3d 2+40 1+1c 2+a 6+9 6+d 2+1e 31+4c 3+2e 1+73 8+3b 3+e 3+32 0:432 0:434
  0:43e 0+1:=441 0:442 0:44a 0:463 0:a64b 7+2a:=10d0 2+2:=10fd 0+7 8+2a 5+2b 0:61 0:e6 0:62 0
  0+1:=64 0:1dd 0+7:=67 0 0:6f 0:223 0:70 0:72 0+1:=74 0:77 0:61 0+1:=250 0:1d02 0:62 0+1:=64 0:259
  0+1:=25b 0:67 0 0:6b 0:6d 0:14b 0:6f 0:254 0+1:=1d16 0:70 0+1:=74 0:1d1d 0:26f 0:76 0:1d25
  0+2:=3b2 0+1:=3c6 0:69 0:72 0+1:=75 0+1:=3b2 0:3c1 0+1:=3c6 0+c 0:43d 0+21 0:252 0:63 0:255 0:f0
  0:25c 0:66 0:25f 0:261 0:265 0+2:=268 0:1d7b 0:29d 0:26d 0:1d85 0:29f 0:271 0:270 0+3:=272 0:278
  0+1:=282 0:1ab 0+1:=289 0:1d1c 0+1:=28b 0:7a 0+2:=290 0:3b8 0+3f 0+95:~ 0+3 0:61,2be 0:1e61 0+1
  0:df 0 0+5f:~ 0+7 0+7:=1f00 0+5 2+5:=1f10 2+7 0+7:=1f20 0+7 0+7:=1f30 0+5 2+5:=1f40 2+7 1:1f51
  1:1f53 1:1f55 1:1f57 0+7 0+7:=1f60 0 0:3ac 0 0:3ad 0 0:3ae 0 0:3af 0 0:3cc 0 0:3cd 0 0:3ce
  2:1f00,3b9 0:1f01,3b9 0:1f02,3b9 0:1f03,3b9 0:1f04,3b9 0:1f05,3b9 0:1f06,3b9 0:1f07,3b9
  0:1f00,3b9 0:1f01,3b9 0:1f02,3b9 0:1f03,3b9 0:1f04,3b9 0:1f05,3b9 0:1f06,3b9 0:1f07,3b9
  0:1f20,3b9 0:1f21,3b9 0:1f22,3b9 0:1f23,3b9 0:1f24,3b9 0:1f25,3b9 0:1f26,3b9 0:1f27,3b9
  0:1f20,3b9 0:1f21,3b9 0:1f22,3b9 0:1f23,3b9 0:1f24,3b9 0:1f25,3b9 0:1f26,3b9 0:1f27,3b9
  0:1f60,3b9 0:1f61,3b9 0:1f62,3b9 0:1f63,3b9 0:1f64,3b9 0:1f65,3b9 0:1f66,3b9 0:1f67,3b9
  0:1f60,3b9 0:1f61,3b9 0:1f62,3b9 0:1f63,3b9 0:1f64,3b9 0:1f65,3b9 0:1f66,3b9 0:1f67,3b9 0+1
  0:1f70,3b9 0:3b1,3b9 0:3ac,3b9 1 0:1fb6,3b9 0+1:=1fb0 0:1f70 0:3ac 0:3b1,3b9 0:20,313 0:3b9
  0:20,313 0:20,342 0:20,308,342 0:1f74,3b9 0:3b7,3b9 0:3ae,3b9 1 0:1fc6,3b9 0:1f72 0:3ad 0:1f74
  0:3ae 0:3b7,3b9 0:20,313,300 0:20,313,301 0:20,313,342 0+2 0:390 2+1 0+1:=1fd0 0:1f76 0:3af
  1:20,314,300 0:20,314,301 0:20,314,342 0+2 0:3b0 0+3 0+1:=1fe0 0:1f7a 0:3cd 0:1fe5 0:20,308,300
  0:20,308,301 0:60 2:1f7c,3b9 0:3c9,3b9 0:3ce,3b9 1 0:1ff6,3b9 0:1f78 0:3cc 0:1f7c 0:3ce 0:3c9,3b9
  0:20,301 0:20,314 1+a:20 0:- 0+1 2 0:2010 0+4 0:20,333 0+b 3 7:20 0+2 0:2032,2032
  0:2032,2032,2032 0 0:2035,2035 0:2035,2035,2035 0+3 0:21,21 0 0:20,305 0+7 0:3f,3f 0:3f,21
  0:21,3f 0+c 0:2032,2032,2032,2032 0+6 0:20 0:- 3:- b:30 0:69 2+5:=34 0:2b 0:2212 0:3d 0+1:=28
  0:6e 0+9:=30 0:2b 0:2212 0:3d 0+1:=28 1:61 0:65 0:6f 0:78 0:259 0:68 0+3:=6b 0:70 0+1:=73 3+7
  0:72,73 0+17 f+20 f:61,2f,63 0:61,2f,73 0:63 0:b0,63 0 0:63,2f,6f 0:63,2f,75 0:25b 0 0:b0,66
  0+1:=67 0+2:68 0:127 0+1:69 0+1:6c 0 0:6e 0:6e,6f 0+1 0+2:=70 0+1:72 0+1 0:73,6d 0:74,65,6c
  0:74,6d 0 0:7a 0 0:3c9 0 0:7a 0 0:6b 0:e5 0+1:=62 0 0+1:65 0:66 1:6d 0:6f 0+3:=5d0 0:69 0
  0:66,61,78 0:3c0 0+1:3b3 0:3c0 0:2211 0+3 0+1:64 0:65 0+1:=69 0+5 0:31,2044,37 0:31,2044,39
  0:31,2044,31,30 0:31,2044,33 0:32,2044,33 0:31,2044,35 0:32,2044,35 0:33,2044,35 0:34,2044,35
  0:31,2044,36 0:35,2044,36 0:31,2044,38 0:33,2044,38 0:35,2044,38 0:37,2044,38 0:31,2044 0:69
  0:69,69 0:69,69,69 0:69,76 0:76 0:76,69 0:76,69,69 0:76,69,69,69 0:69,78 0:78 0:78,69 0:78,69,69
  0:6c 0+1:=63 0:6d 0:69 0:69,69 0:69,69,69 0:69,76 0:76 0:76,69 0:76,69,69 0:76,69,69,69 0:69,78
  0:78 0:78,69 0:78,69,69 0:6c 0+1:=63 0:6d 0+2 1+4 0:30,2044,33 0+1 4+9b 0:222b,222b
  0:222b,222b,222b 0 0:222e,222e 0:222e,222e,222e 0+f7 0+1:=3008 0+fb 19+a 15+8:=31 0:31,30 0:31,31
  0:31,32 0:31,33 0:31,34 0:31,35 0:31,36 0:31,37 0:31,38 0:31,39 0:32,30 0:28,31,29 0:28,32,29
  0:28,33,29 0:28,34,29 0:28,35,29 0:28,36,29 0:28,37,29 0:28,38,29 0:28,39,29 0:28,31,30,29
  0:28,31,31,29 0:28,31,32,29 0:28,31,33,29 0:28,31,34,29 0:28,31,35,29 0:28,31,36,29 0:28,31,37,29
  0:28,31,38,29 0:28,31,39,29 0:28,32,30,29 14:28,61,29 0:28,62,29 0:28,63,29 0:28,64,29 0:28,65,29
  0:28,66,29 0:28,67,29 0:28,68,29 0:28,69,29 0:28,6a,29 0:28,6b,29 0:28,6c,29 0:28,6d,29
  0:28,6e,29 0:28,6f,29 0:28,70,29 0:28,71,29 0:28,72,29 0:28,73,29 0:28,74,29 0:28,75,29
  0:28,76,29 0:28,77,29 0:28,78,29 0:28,79,29 0:28,7a,29 0+19:=61 0+19:=61 0:30 0+520
  0:222b,222b,222b,222b 0+66 0:3a,3a,3d 0:3d,3d 0:3d,3d,3d 0+64 0:2add,338 0+96 2+1f 1+68
  0+2f:=2c30 0+2f 0+1:~ 0:26b 0:1d7d 0:27d 0+1 0+5:~ 0:251 0:271 0:250 0:252 0 0+1:~ 0 0+1:~ 0+4
  0:6a 0:76 0+1:=23f 0+63:~ 0+6 0+3:~ 0+2 0+1:~ 5+2c 1 5 2+37 7:2d61 0 e+17 9+6 1+6 1+6 1+6 1+6 1+6
  1+6 1+6 1+7d 22+19 1+3 0:6bcd 0+52 0:9f9f c:4e00 0:4e28 0:4e36 0:4e3f 0:4e59 0:4e85 0:4e8c 0:4ea0
  0:4eba 0:513f 0:5165 0:516b 0:5182 0:5196 0:51ab 0:51e0 0:51f5 0:5200 0:529b 0:52f9 0:5315 0:531a
  0:5338 0:5341 0:535c 0:5369 0:5382 0:53b6 0:53c8 0:53e3 0:56d7 0:571f 0:58eb 0:5902 0:590a 0:5915
  0:5927 0:5973 0:5b50 0:5b80 0:5bf8 0:5c0f 0:5c22 0:5c38 0:5c6e 0:5c71 0:5ddb 0:5de5 0:5df1 0:5dfe
  0:5e72 0:5e7a 0:5e7f 0:5ef4 0:5efe 0:5f0b 0:5f13 0:5f50 0:5f61 0:5f73 0:5fc3 0:6208 0:6236 0:624b
  0:652f 0:6534 0:6587 0:6597 0:65a4 0:65b9 0:65e0 0:65e5 0:66f0 0:6708 0:6728 0:6b20 0:6b62 0:6b79
  0:6bb3 0:6bcb 0:6bd4 0:6bdb 0:6c0f 0:6c14 0:6c34 0:706b 0:722a 0:7236 0:723b 0:723f 0:7247 0:7259
  0:725b 0:72ac 0:7384 0:7389 0:74dc 0:74e6 0:7518 0:751f 0:7528 0:7530 0:758b 0:7592 0:7676 0:767d
  0:76ae 0:76bf 0:76ee 0:77db 0:77e2 0:77f3 0:793a 0:79b8 0:79be 0:7a74 0:7acb 0:7af9 0:7c73 0:7cf8
  0:7f36 0:7f51 0:7f8a 0:7fbd 0:8001 0:800c 0:8012 0:8033 0:807f 0:8089 0:81e3 0:81ea 0:81f3 0:81fc
  0:820c 0:821b 0:821f 0:826e 0:8272 0:8278 0:864d 0:866b 0:8840 0:884c 0:8863 0:897e 0:898b 0:89d2
  0:8a00 0:8c37 0:8c46 0:8c55 0:8c78 0:8c9d 0:8d64 0:8d70 0:8db3 0:8eab 0:8eca 0:8f9b 0:8fb0 0:8fb5
  0:9091 0:9149 0:91c6 0:91cc 0:91d1 0:9577 0:9580 0:961c 0:96b6 0:96b9 0:96e8 0:9751 0:975e 0:9762
  0:9769 0:97cb 0:97ed 0:97f3 0:9801 0:98a8 0:98db 0:98df 0:9996 0:9999 0:99ac 0:9aa8 0:9ad8 0:9adf
  0:9b25 0:9b2f 0:9b32 0:9b3c 0:9b5a 0:9ce5 0:9e75 0:9e7f 0:9ea5 0:9ebb 0:9ec3 0:9ecd 0:9ed1 0:9ef9
  0:9efd 0:9f0e 0:9f13 0:9f20 0:9f3b 0:9f4a 0:9f52 0:9f8d 0:9f9c 0:9fa0 2a:20 0 0:2e 0+32 0:3012 0
  0:5341 0+1:=5344 0+4 1+55 2+1 0:20,3099 0:20,309a 0+1 0:3088,308a 0+5e 0:30b3,30c8 5+2a 1+1:=1100
  0:11aa 0:1102 0+1:=11ac 0+2:=1103 0+5:=11b0 0:111a 0+2:=1106 0:1121 0+9:=1109 0+14:=1161
  1+1:=1114 0+1:=11c7 0:11cc 0:11ce 0:11d3 0:11d7 0:11d9 0:111c 0:11dd 0:11df 0+1:=111d 0:1120
  0+1:=1122 0:1127 0:1129 0+4:=112b 0:1132 0:1136 0:1140 0:1147 0:114c 0+1:=11f1 0+2:=1157
  0+1:=1184 0:1188 0+1:=1191 0:1194 0:119e 0:11a1 1+1 0:4e00 0:4e8c 0:4e09 0:56db 0:4e0a 0:4e2d
  0:4e0b 0:7532 0:4e59 0:4e19 0:4e01 0:5929 0:5730 0:4eba 0+43 c+f 0:28,1100,29 0:28,1102,29
  0:28,1103,29 0:28,1105,29 0:28,1106,29 0:28,1107,29 0:28,1109,29 0:28,110b,29 0:28,110c,29
  0:28,110e,29 0:28,110f,29 0:28,1110,29 0:28,1111,29 0:28,1112,29 0:28,ac00,29 0:28,b098,29
  0:28,b2e4,29 0:28,b77c,29 0:28,b9c8,29 0:28,bc14,29 0:28,c0ac,29 0:28,c544,29 0:28,c790,29
  0:28,cc28,29 0:28,ce74,29 0:28,d0c0,29 0:28,d30c,29 0:28,d558,29 0:28,c8fc,29 0:28,c624,c804,29
  0:28,c624,d6c4,29 1:28,4e00,29 0:28,4e8c,29 0:28,4e09,29 0:28,56db,29 0:28,4e94,29 0:28,516d,29
  0:28,4e03,29 0:28,516b,29 0:28,4e5d,29 0:28,5341,29 0:28,6708,29 0:28,706b,29 0:28,6c34,29
  0:28,6728,29 0:28,91d1,29 0:28,571f,29 0:28,65e5,29 0:28,682a,29 0:28,6709,29 0:28,793e,29
  0:28,540d,29 0:28,7279,29 0:28,8ca1,29 0:28,795d,29 0:28,52b4,29 0:28,4ee3,29 0:28,547c,29
  0:28,5b66,29 0:28,76e3,29 0:28,4f01,29 0:28,8cc7,29 0:28,5354,29 0:28,796d,29 0:28,4f11,29
  0:28,81ea,29 0:28,81f3,29 0:554f 0:5e7c 0:6587 0:7b8f 0+7 0:70,74,65 0:32,31 0:32,32 0:32,33
  0:32,34 0:32,35 0:32,36 0:32,37 0:32,38 0:32,39 0:33,30 0:33,31 0:33,32 0:33,33 0:33,34 0:33,35
  0:1100 0+1:=1102 0+2:=1105 0:1109 0+1:=110b 0+4:=110e 0:ac00 0:b098 0:b2e4 0:b77c 0:b9c8 0:bc14
  0:c0ac 0:c544 0:c790 0:cc28 0:ce74 0:d0c0 0:d30c 0:d558 0:cc38,ace0 0:c8fc,c758 0:c6b0 0 0:4e00
  0:4e8c 0:4e09 0:56db 0:4e94 0:516d 0:4e03 0:516b 0:4e5d 0:5341 0:6708 0:706b 0:6c34 0:6728 0:91d1
  0:571f 0:65e5 0:682a 0:6709 0:793e 0:540d 0:7279 0:8ca1 0:795d 0:52b4 0:79d8 0:7537 0:5973 0:9069
  0:512a 0:5370 0:6ce8 0:9805 0:4f11 0:5199 0:6b63 0:4e0a 0:4e2d 0:4e0b 0:5de6 0:53f3 0:533b 0:5b97
  0:5b66 0:76e3 0:4f01 0:8cc7 0:5354 0:591c 0:33,36 0:33,37 0:33,38 0:33,39 0:34,30 0:34,31 0:34,32
  0:34,33 0:34,34 0:34,35 0:34,36 0:34,37 0:34,38 0:34,39 0:35,30 0:31,6708 0:32,6708 0:33,6708
  0:34,6708 0:35,6708 0:36,6708 0:37,6708 0:38,6708 0:39,6708 0:31,30,6708 0:31,31,6708
  0:31,32,6708 0:68,67 0:65,72,67 0:65,76 0:6c,74,64 0:30a2 0:30a4 0:30a6 0:30a8 0+1:=30aa 0:30ad
  0:30af 0:30b1 0:30b3 0:30b5 0:30b7 0:30b9 0:30bb 0:30bd 0:30bf 0:30c1 0:30c4 0:30c6 0:30c8
  0+5:=30ca 0:30d2 0:30d5 0:30d8 0:30db 0+4:=30de 0:30e4 0:30e6 0+5:=30e8 0+3:=30ef 0:4ee4,548c
  0:30a2,30d1,30fc,30c8 0:30a2,30eb,30d5,30a1 0:30a2,30f3,30da,30a2 0:30a2,30fc,30eb
  0:30a4,30cb,30f3,30b0 0:30a4,30f3,30c1 0:30a6,30a9,30f3 0:30a8,30b9,30af,30fc,30c9
  0:30a8,30fc,30ab,30fc 0:30aa,30f3,30b9 0:30aa,30fc,30e0 0:30ab,30a4,30ea 0:30ab,30e9,30c3,30c8
  0:30ab,30ed,30ea,30fc 0:30ac,30ed,30f3 0:30ac,30f3,30de 0:30ae,30ac 0:30ae,30cb,30fc
  0:30ad,30e5,30ea,30fc 0:30ae,30eb,30c0,30fc 0:30ad,30ed 0:30ad,30ed,30b0,30e9,30e0
  0:30ad,30ed,30e1,30fc,30c8,30eb 0:30ad,30ed,30ef,30c3,30c8 0:30b0,30e9,30e0
  0:30b0,30e9,30e0,30c8,30f3 0:30af,30eb,30bc,30a4,30ed 0:30af,30ed,30fc,30cd 0:30b1,30fc,30b9
  0:30b3,30eb,30ca 0:30b3,30fc,30dd 0:30b5,30a4,30af,30eb 0:30b5,30f3,30c1,30fc,30e0
  0:30b7,30ea,30f3,30b0 0:30bb,30f3,30c1 0:30bb,30f3,30c8 0:30c0,30fc,30b9 0:30c7,30b7 0:30c9,30eb
  0:30c8,30f3 0:30ca,30ce 0:30ce,30c3,30c8 0:30cf,30a4,30c4 0:30d1,30fc,30bb,30f3,30c8
  0:30d1,30fc,30c4 0:30d0,30fc,30ec,30eb 0:30d4,30a2,30b9,30c8,30eb 0:30d4,30af,30eb 0:30d4,30b3
  0:30d3,30eb 0:30d5,30a1,30e9,30c3,30c9 0:30d5,30a3,30fc,30c8 0:30d6,30c3,30b7,30a7,30eb
  0:30d5,30e9,30f3 0:30d8,30af,30bf,30fc,30eb 0:30da,30bd 0:30da,30cb,30d2 0:30d8,30eb,30c4
  0:30da,30f3,30b9 0:30da,30fc,30b8 0:30d9,30fc,30bf 0:30dd,30a4,30f3,30c8 0:30dc,30eb,30c8
  0:30db,30f3 0:30dd,30f3,30c9 0:30db,30fc,30eb 0:30db,30fc,30f3 0:30de,30a4,30af,30ed
  0:30de,30a4,30eb 0:30de,30c3,30cf 0:30de,30eb,30af 0:30de,30f3,30b7,30e7,30f3
  0:30df,30af,30ed,30f3 0:30df,30ea 0:30df,30ea,30d0,30fc,30eb 0:30e1,30ac 0:30e1,30ac,30c8,30f3
  0:30e1,30fc,30c8,30eb 0:30e4,30fc,30c9 0:30e4,30fc,30eb 0:30e6,30a2,30f3 0:30ea,30c3,30c8,30eb
  0:30ea,30e9 0:30eb,30d4,30fc 0:30eb,30fc,30d6,30eb 0:30ec,30e0 0:30ec,30f3,30c8,30b2,30f3
  0:30ef,30c3,30c8 0:30,70b9 0:31,70b9 0:32,70b9 0:33,70b9 0:34,70b9 0:35,70b9 0:36,70b9 0:37,70b9
  0:38,70b9 0:39,70b9 0:31,30,70b9 0:31,31,70b9 0:31,32,70b9 0:31,33,70b9 0:31,34,70b9 0:31,35,70b9
  0:31,36,70b9 0:31,37,70b9 0:31,38,70b9 0:31,39,70b9 0:32,30,70b9 0:32,31,70b9 0:32,32,70b9
  0:32,33,70b9 0:32,34,70b9 0:68,70,61 0:64,61 0:61,75 0:62,61,72 0:6f,76 0:70,63 0:64,6d
  0:64,6d,32 0:64,6d,33 0:69,75 0:5e73,6210 0:662d,548c 0:5927,6b63 0:660e,6cbb
  0:682a,5f0f,4f1a,793e 0:70,61 0:6e,61 0:3bc,61 0:6d,61 0:6b,61 0:6b,62 0:6d,62 0:67,62 0:63,61,6c
  0:6b,63,61,6c 0:70,66 0:6e,66 0:3bc,66 0:3bc,67 0:6d,67 0:6b,67 0:68,7a 0:6b,68,7a 0:6d,68,7a
  0:67,68,7a 0:74,68,7a 0:3bc,6c 0:6d,6c 0:64,6c 0:6b,6c 0:66,6d 0:6e,6d 0:3bc,6d 0:6d,6d 0:63,6d
  0:6b,6d 0:6d,6d,32 0:63,6d,32 0:6d,32 0:6b,6d,32 0:6d,6d,33 0:63,6d,33 0:6d,33 0:6b,6d,33
  0:6d,2215,73 0:6d,2215,73,32 0:70,61 0:6b,70,61 0:6d,70,61 0:67,70,61 0:72,61,64
  0:72,61,64,2215,73 0:72,61,64,2215,73,32 0:70,73 0:6e,73 0:3bc,73 0:6d,73 0:70,76 0:6e,76
  0:3bc,76 0:6d,76 0:6b,76 0:6d,76 0:70,77 0:6e,77 0:3bc,77 0:6d,77 0:6b,77 0:6d,77 0:6b,3c9
  0:6d,3c9 1:62,71 0:63,63 0:63,64 0:63,2215,6b,67 1:64,62 0:67,79 0:68,61 0:68,70 0:69,6e 0:6b,6b
  0:6b,6d 0:6b,74 0:6c,6d 0:6c,6e 0:6c,6f,67 0:6c,78 0:6d,62 0:6d,69,6c 0:6d,6f,6c 0:70,68
  1:70,70,6d 0:70,72 0:73,72 0:73,76 0:77,62 0:76,2215,6d 0:61,2215,6d 0:31,65e5 0:32,65e5
  0:33,65e5 0:34,65e5 0:35,65e5 0:36,65e5 0:37,65e5 0:38,65e5 0:39,65e5 0:31,30,65e5 0:31,31,65e5
  0:31,32,65e5 0:31,33,65e5 0:31,34,65e5 0:31,35,65e5 0:31,36,65e5 0:31,37,65e5 0:31,38,65e5
  0:31,39,65e5 0:32,30,65e5 0:32,31,65e5 0:32,32,65e5 0:32,33,65e5 0:32,34,65e5 0:32,35,65e5
  0:32,36,65e5 0:32,37,65e5 0:32,38,65e5 0:32,39,65e5 0:33,30,65e5 0:33,31,65e5 0:67,61,6c 0+708c
  3+36 9+15b 14+2d:~ 0+11 0+1b:~ 0:44a 0:44c 0+59 8+21 0+d:~ 0+1 0+3d:~ 0:a76f 0+7 0+3:~ 0:1d79
  0+9:~ 0+2 0+1:~ 0:265 0+1 0+3:~ 0+1 0+13:~ 0:266 0:25c 0:261 0:26c 0:26a 0 0:29e 0:287 0:29d
  0:ab53 0+f:~ 0:a794 0:282 0:1d8e 0+3:~ 5+1:~ 1 1 0+3:~ 18:63 0:66 0:71 0+1:~ 0 0:127 0:153 0+32
  3+9 6+37 8+45 8+b 6+73 b+1d 3+4d 1+a 4+20 1+36 9+d 2+9 2+66 18+1b a+5 2+5 2+5 9+6 1+6 1+2b 0:a727
  0:ab37 0:26b 0:ab52 0+8 0:28d 0+1 4+4f:=13a0 0+2d 2+9 6+2ba3 c+16 4+30 2104:8c48 0:66f4 0:8eca
  0:8cc8 0:6ed1 0:4e32 0:53e5 0+1:9f9c 0:5951 0:91d1 0:5587 0:5948 0:61f6 0:7669 0:7f85 0:863f
  0:87ba 0:88f8 0:908f 0:6a02 0:6d1b 0:70d9 0:73de 0:843d 0:916a 0:99f1 0:4e82 0:5375 0:6b04 0:721b
  0:862d 0:9e1e 0:5d50 0:6feb 0:85cd 0:8964 0:62c9 0:81d8 0:881f 0:5eca 0:6717 0:6d6a 0:72fc 0:90ce
  0:4f86 0:51b7 0:52de 0:64c4 0:6ad3 0:7210 0:76e7 0:8001 0:8606 0:865c 0:8def 0:9732 0:9b6f 0:9dfa
  0:788c 0:797f 0:7da0 0:83c9 0:9304 0:9e7f 0:8ad6 0:58df 0:5f04 0:7c60 0:807e 0:7262 0:78ca 0:8cc2
  0:96f7 0:58d8 0:5c62 0:6a13 0:6dda 0:6f0f 0:7d2f 0:7e37 0:964b 0:52d2 0:808b 0:51dc 0:51cc 0:7a1c
  0:7dbe 0:83f1 0:9675 0:8b80 0:62cf 0:6a02 0:8afe 0:4e39 0:5be7 0:6012 0:7387 0:7570 0:5317 0:78fb
  0:4fbf 0:5fa9 0:4e0d 0:6ccc 0:6578 0:7d22 0:53c3 0:585e 0:7701 0:8449 0:8aaa 0:6bba 0:8fb0 0:6c88
  0:62fe 0:82e5 0:63a0 0:7565 0:4eae 0:5169 0:51c9 0:6881 0:7ce7 0:826f 0:8ad2 0:91cf 0:52f5 0:5442
  0:5973 0:5eec 0:65c5 0:6ffe 0:792a 0:95ad 0:9a6a 0:9e97 0:9ece 0:529b 0:66c6 0:6b77 0:8f62 0:5e74
  0:6190 0:6200 0:649a 0:6f23 0:7149 0:7489 0:79ca 0:7df4 0:806f 0:8f26 0:84ee 0:9023 0:934a 0:5217
  0:52a3 0:54bd 0:70c8 0:88c2 0:8aaa 0:5ec9 0:5ff5 0:637b 0:6bae 0:7c3e 0:7375 0:4ee4 0:56f9 0:5be7
  0:5dba 0:601c 0:73b2 0:7469 0:7f9a 0:8046 0:9234 0:96f6 0:9748 0:9818 0:4f8b 0:79ae 0:91b4 0:96b8
  0:60e1 0:4e86 0:50da 0:5bee 0:5c3f 0:6599 0:6a02 0:71ce 0:7642 0:84fc 0:907c 0:9f8d 0:6688 0:962e
  0:5289 0:677b 0:67f3 0:6d41 0:6e9c 0:7409 0:7559 0:786b 0:7d10 0:985e 0:516d 0:622e 0:9678 0:502b
  0:5d19 0:6dea 0:8f2a 0:5f8b 0:6144 0:6817 0:7387 0:9686 0:5229 0:540f 0:5c65 0:6613 0:674e 0:68a8
  0:6ce5 0:7406 0:75e2 0:7f79 0:88cf 0:88e1 0:91cc 0:96e2 0:533f 0:6eba 0:541d 0:71d0 0:7498 0:85fa
  0:96a3 0:9c57 0:9e9f 0:6797 0:6dcb 0:81e8 0:7acb 0:7b20 0:7c92 0:72c0 0:7099 0:8b58 0:4ec0 0:8336
  0:523a 0:5207 0:5ea6 0:62d3 0:7cd6 0:5b85 0:6d1e 0:66b4 0:8f3b 0:884c 0:964d 0:898b 0:5ed3 0:5140
  0:55c0 0+1 0:585a 0 0:6674 0+1 0:51de 0:732a 0:76ca 0:793c 0:795e 0:7965 0:798f 0:9756 0:7cbe
  0:7fbd 0 0:8612 0 0:8af8 0+1 0:9038 0:90fd 0+2 0:98ef 0:98fc 0:9928 0:9db4 0:90de 0:96b7 0:4fae
  0:50e7 0:514d 0:52c9 0:52e4 0:5351 0:559d 0:5606 0:5668 0:5840 0:58a8 0:5c64 0:5c6e 0:6094 0:6168
  0:618e 0:61f2 0:654f 0:65e2 0:6691 0:6885 0:6d77 0:6e1a 0:6f22 0:716e 0:722b 0:7422 0:7891 0:793e
  0:7949 0:7948 0:7950 0:7956 0:795d 0+1:=798d 0:7a40 0:7a81 0:7bc0 0:7df4 0:7e09 0:7e41 0:7f72
  0:8005 0:81ed 0+1:8279 0:8457 0:8910 0:8996 0:8b01 0:8b39 0:8cd3 0:8d08 0:8fb6 0:9038 0:96e3
  0:97ff 0:983b 0:6075 0:242ee 0:8218 2:4e26 0:51b5 0:5168 0:4f80 0:5145 0:5180 0:52c7 0:52fa
  0:559d 0:5555 0:5599 0:55e2 0:585a 0:58b3 0:5944 0:5954 0:5a62 0:5b28 0:5ed2 0:5ed9 0:5f69 0:5fad
  0:60d8 0:614e 0:6108 0:618e 0:6160 0:61f2 0:6234 0:63c4 0:641c 0:6452 0:6556 0:6674 0:6717 0:671b
  0:6756 0:6b79 0:6bba 0:6d41 0:6edb 0:6ecb 0:6f22 0:701e 0:716e 0:77a7 0:7235 0:72af 0:732a 0:7471
  0:7506 0:753b 0:761d 0:761f 0:76ca 0:76db 0:76f4 0:774a 0:7740 0:78cc 0:7ab1 0:7bc0 0:7c7b 0:7d5b
  0:7df4 0:7f3e 0:8005 0:8352 0:83ef 0:8779 0:8941 0:8986 0:8996 0:8abf 0:8af8 0:8acb 0:8b01 0:8afe
  0:8aed 0:8b39 0:8b8a 0:8d08 0:8f38 0:9072 0:9199 0:9276 0:967c 0:96e3 0:9756 0:97db 0:97ff 0:980b
  0:983b 0:9b12 0:9f9c 0:2284a 0:22844 0:233d5 0:3b9d 0:4018 0:4039 0:25249 0:25cd0 0:27ed3 0:9f43
  0:9f8e 26:66,66 0:66,69 0:66,6c 0:66,66,69 0:66,66,6c 0+1:73,74 c:574,576 0:574,565 0:574,56b
  0:57e,576 0:574,56d 5:5d9,5b4 0 0:5f2,5b7 0:5e2 0:5d0 0+1:=5d3 0+2:=5db 0:5e8 0:5ea 0:2b
  0:5e9,5c1 0:5e9,5c2 0:5e9,5bc,5c1 0:5e9,5bc,5c2 0:5d0,5b7 0:5d0,5b8 0:5d0,5bc 0:5d1,5bc 0:5d2,5bc
  0:5d3,5bc 0:5d4,5bc 0:5d5,5bc 0:5d6,5bc 1:5d8,5bc 0:5d9,5bc 0:5da,5bc 0:5db,5bc 0:5dc,5bc
  1:5de,5bc 1:5e0,5bc 0:5e1,5bc 1:5e3,5bc 0:5e4,5bc 1:5e6,5bc 0:5e7,5bc 0:5e8,5bc 0:5e9,5bc
  0:5ea,5bc 0:5d5,5b9 0:5d1,5bf 0:5db,5bf 0:5e4,5bf 0:5d0,5dc 0+1:671 0+3:67b 0+3:67e 0+3:680
  0+3:67a 0+3:67f 0+3:679 0+3:6a4 0+3:6a6 0+3:684 0+3:683 0+3:686 0+3:687 0+1:68d 0+1:68c 0+1:68e
  0+1:688 0+1:698 0+1:691 0+3:6a9 0+3:6af 0+3:6b3 0+3:6b1 0+1:6ba 0+3:6bb 0+1:6c0 0+3:6c1 0+3:6be
  0+1:6d2 0+1:6d3 0+10 10+3:6ad 0+1:6c7 0+1:6c6 0+1:6c8 0:6c7,674 0+1:6cb 0+1:6c5 0+1:6c9 0+3:6d0
  0+1:649 0+1:626,627 0+1:626,6d5 0+1:626,648 0+1:626,6c7 0+1:626,6c6 0+1:626,6c8 0+2:626,6d0
  0+2:626,649 0+3:6cc 0:626,62c 0:626,62d 0:626,645 0:626,649 0:626,64a 0:628,62c 0:628,62d
  0:628,62e 0:628,645 0:628,649 0:628,64a 0:62a,62c 0:62a,62d 0:62a,62e 0:62a,645 0:62a,649
  0:62a,64a 0:62b,62c 0:62b,645 0:62b,649 0:62b,64a 0:62c,62d 0:62c,645 0:62d,62c 0:62d,645
  0:62e,62c 0:62e,62d 0:62e,645 0:633,62c 0:633,62d 0:633,62e 0:633,645 0:635,62d 0:635,645
  0:636,62c 0:636,62d 0:636,62e 0:636,645 0:637,62d 0:637,645 0:638,645 0:639,62c 0:639,645
  0:63a,62c 0:63a,645 0:641,62c 0:641,62d 0:641,62e 0:641,645 0:641,649 0:641,64a 0:642,62d
  0:642,645 0:642,649 0:642,64a 0:643,627 0:643,62c 0:643,62d 0:643,62e 0:643,644 0:643,645
  0:643,649 0:643,64a 0:644,62c 0:644,62d 0:644,62e 0:644,645 0:644,649 0:644,64a 0:645,62c
  0:645,62d 0:645,62e 0:645,645 0:645,649 0:645,64a 0:646,62c 0:646,62d 0:646,62e 0:646,645
  0:646,649 0:646,64a 0:647,62c 0:647,645 0:647,649 0:647,64a 0:64a,62c 0:64a,62d 0:64a,62e
  0:64a,645 0:64a,649 0:64a,64a 0:630,670 0:631,670 0:649,670 0:20,64c,651 0:20,64d,651
  0:20,64e,651 0:20,64f,651 0:20,650,651 0:20,651,670 0:626,631 0:626,632 0:626,645 0:626,646
  0:626,649 0:626,64a 0:628,631 0:628,632 0:628,645 0:628,646 0:628,649 0:628,64a 0:62a,631
  0:62a,632 0:62a,645 0:62a,646 0:62a,649 0:62a,64a 0:62b,631 0:62b,632 0:62b,645 0:62b,646
  0:62b,649 0:62b,64a 0:641,649 0:641,64a 0:642,649 0:642,64a 0:643,627 0:643,644 0:643,645
  0:643,649 0:643,64a 0:644,645 0:644,649 0:644,64a 0:645,627 0:645,645 0:646,631 0:646,632
  0:646,645 0:646,646 0:646,649 0:646,64a 0:649,670 0:64a,631 0:64a,632 0:64a,645 0:64a,646
  0:64a,649 0:64a,64a 0:626,62c 0:626,62d 0:626,62e 0:626,645 0:626,647 0:628,62c 0:628,62d
  0:628,62e 0:628,645 0:628,647 0:62a,62c 0:62a,62d 0:62a,62e 0:62a,645 0:62a,647 0:62b,645
  0:62c,62d 0:62c,645 0:62d,62c 0:62d,645 0:62e,62c 0:62e,645 0:633,62c 0:633,62d 0:633,62e
  0:633,645 0:635,62d 0:635,62e 0:635,645 0:636,62c 0:636,62d 0:636,62e 0:636,645 0:637,62d
  0:638,645 0:639,62c 0:639,645 0:63a,62c 0:63a,645 0:641,62c 0:641,62d 0:641,62e 0:641,645
  0:642,62d 0:642,645 0:643,62c 0:643,62d 0:643,62e 0:643,644 0:643,645 0:644,62c 0:644,62d
  0:644,62e 0:644,645 0:644,647 0:645,62c 0:645,62d 0:645,62e 0:645,645 0:646,62c 0:646,62d
  0:646,62e 0:646,645 0:646,647 0:647,62c 0:647,645 0:647,670 0:64a,62c 0:64a,62d 0:64a,62e
  0:64a,645 0:64a,647 0:626,645 0:626,647 0:628,645 0:628,647 0:62a,645 0:62a,647 0:62b,645
  0:62b,647 0:633,645 0:633,647 0:634,645 0:634,647 0:643,644 0:643,645 0:644,645 0:646,645
  0:646,647 0:64a,645 0:64a,647 0:640,64e,651 0:640,64f,651 0:640,650,651 0:637,649 0:637,64a
  0:639,649 0:639,64a 0:63a,649 0:63a,64a 0:633,649 0:633,64a 0:634,649 0:634,64a 0:62d,649
  0:62d,64a 0:62c,649 0:62c,64a 0:62e,649 0:62e,64a 0:635,649 0:635,64a 0:636,649 0:636,64a
  0:634,62c 0:634,62d 0:634,62e 0:634,645 0:634,631 0:633,631 0:635,631 0:636,631 0:637,649
  0:637,64a 0:639,649 0:639,64a 0:63a,649 0:63a,64a 0:633,649 0:633,64a 0:634,649 0:634,64a
  0:62d,649 0:62d,64a 0:62c,649 0:62c,64a 0:62e,649 0:62e,64a 0:635,649 0:635,64a 0:636,649
  0:636,64a 0:634,62c 0:634,62d 0:634,62e 0:634,645 0:634,631 0:633,631 0:635,631 0:636,631
  0:634,62c 0:634,62d 0:634,62e 0:634,645 0:633,647 0:634,647 0:637,645 0:633,62c 0:633,62d
  0:633,62e 0:634,62c 0:634,62d 0:634,62e 0:637,645 0:638,645 0+1:627,64b 0+11 0:62a,62c,645
  0+1:62a,62d,62c 0:62a,62d,645 0:62a,62e,645 0:62a,645,62c 0:62a,645,62d 0:62a,645,62e
  0+1:62c,645,62d 0:62d,645,64a 0:62d,645,649 0:633,62d,62c 0:633,62c,62d 0:633,62c,649
  0+1:633,645,62d 0:633,645,62c 0+1:633,645,645 0+1:635,62d,62d 0:635,645,645 0+1:634,62d,645
  0:634,62c,64a 0+1:634,645,62e 0+1:634,645,645 0:636,62d,649 0+1:636,62e,645 0+1:637,645,62d
  0:637,645,645 0:637,645,64a 0:639,62c,645 0+1:639,645,645 0:639,645,649 0:63a,645,645
  0:63a,645,64a 0:63a,645,649 0+1:641,62e,645 0:642,645,62d 0:642,645,645 0:644,62d,645
  0:644,62d,64a 0:644,62d,649 0+1:644,62c,62c 0+1:644,62e,645 0+1:644,645,62d 0:645,62d,62c
  0:645,62d,645 0:645,62d,64a 0:645,62c,62d 0:645,62c,645 0:645,62e,62c 0:645,62e,645 2:645,62c,62e
  0:647,645,62c 0:647,645,645 0:646,62d,645 0:646,62d,649 0+1:646,62c,645 0:646,62c,649
  0:646,645,64a 0:646,645,649 0+1:64a,645,645 0:628,62e,64a 0:62a,62c,64a 0:62a,62c,649
  0:62a,62e,64a 0:62a,62e,649 0:62a,645,64a 0:62a,645,649 0:62c,645,64a 0:62c,62d,649 0:62c,645,649
  0:633,62e,649 0:635,62d,64a 0:634,62d,64a 0:636,62d,64a 0:644,62c,64a 0:644,645,64a 0:64a,62d,64a
  0:64a,62c,64a 0:64a,645,64a 0:645,645,64a 0:642,645,64a 0:646,62d,64a 0:642,645,62d 0:644,62d,645
  0:639,645,64a 0:643,645,64a 0:646,62c,62d 0:645,62e,64a 0:644,62c,645 0:643,645,645 0:644,62c,645
  0:646,62c,62d 0:62c,62d,64a 0:62d,62c,64a 0:645,62c,64a 0:641,645,64a 0:628,62d,64a 0:643,645,645
  0:639,62c,645 0:635,645,645 0:633,62e,64a 0:646,62c,64a 7 20:635,644,6d2 0:642,644,6d2
  0:627,644,644,647 0:627,643,628,631 0:645,62d,645,62f 0:635,644,639,645 0:631,633,648,644
  0:639,644,64a,647 0:648,633,644,645 0:635,644,649
  0:635,644,649,20,627,644,644,647,20,639,644,64a,647,20,648,633,644,645
  0:62c,644,20,62c,644,627,644,647 0:631,6cc,627,644 0+2 0+f:- 0:2c 0:3001 1+1:=3a 0:21 0:3f
  0+1:=3016 7+f 1:2014 0:2013 0+1:5f 0+1:=28 0:7b 0:7d 0+1:=3014 0+1:=3010 0+1:=300a 0+1:=3008
  0+3:=300c 0+1 0:5b 0:5d 0+3:20,305 0+2:5f 0:2c 0:3001 2:3b 0:3a 0:3f 0:21 0:2014 0+1:=28 0:7b
  0:7d 0+1:=3014 0:23 0:26 0+1:=2a 0:2d 0:3c 0:3e 0:3d 1:5c 0+1:=24 0:40 4:20,64b 0:640,64b
  0:20,64c 0 0:20,64d 1:20,64e 0:640,64e 0:20,64f 0:640,64f 0:20,650 0:640,650 0:20,651 0:640,651
  0:20,652 0:640,652 0+1:=621 0+1:=622 0+1:=623 0+1:=624 0+1:=625 0+2:626 0+1:627 0+3:628 0+1:629
  0+3:62a 0+3:62b 0+3:62c 0+3:62d 0+3:62e 0+1:62f 0+1:630 0+1:631 0+1:632 0+3:633 0+3:634 0+3:635
  0+3:636 0+3:637 0+3:638 0+3:639 0+3:63a 0+3:641 0+3:642 0+3:643 0+3:644 0+3:645 0+3:646 0+3:647
  0+1:648 0+1:649 0+3:64a 0+1:644,622 0+1:644,623 0+1:644,625 0+1:644,627 2:- 1+1f:=21 0+19:=61
  0+23:=5b 0+1:=2985 0:2e 0+1:=300c 0:3001 0:30fb 0:30f2 0:30a1 0:30a3 0:30a5 0:30a7 0:30a9 0:30e3
  0:30e5 0:30e7 0:30c3 0:30fc 0:30a2 0:30a4 0:30a6 0:30a8 0+1:=30aa 0:30ad 0:30af 0:30b1 0:30b3
  0:30b5 0:30b7 0:30b9 0:30bb 0:30bd 0:30bf 0:30c1 0:30c4 0:30c6 0:30c8 0+5:=30ca 0:30d2 0:30d5
  0:30d8 0:30db 0+4:=30de 0:30e4 0:30e6 0+5:=30e8 0:30ef 0:30f3 0+1:=3099 1+1:=1100 0:11aa 0:1102
  0+1:=11ac 0+2:=1103 0+5:=11b0 0:111a 0+2:=1106 0:1121 0+9:=1109 3+5:=1161 2+5:=1167 2+5:=116d
  2+2:=1173 3+1:=a2 0:ac 0:20,304 0:a6 0:a5 0:20a9 1:2502 0+3:=2190 0:25a0 0:25cb 11+b 1+19 1+12
  1+1 1+e 2+d 22+7a 5+2 4+2c 3+57 1+c 3 2f+2d 82+1c 3+30 f+1b 4+23 9+1d 5+2a 5+1d 1+24 4+d
  2a+27:=10428 0+75 2+9 6+23:=104d8 4+23 4+27 8+33 b 0+a:=10597 1+e:=105a3 1+6:=105b3 1+1:=105bb
  1+a 1+e 1+6 1+1 43+136 9+15 a+7 18 0+1:=2d0 0:e6 0:299 0:253 1:2a3 0:ab66 0:2a5 0:2a4 0+1:=256
  0:1d91 0:258 0:25e 0:2a9 0:264 0:262 0:260 0:29b 0:127 0:29c 0:267 0:284 0+1:=2aa 0:26c 0:1df04
  0:a78e 0:26e 0:1df05 0:28e 0:1df06 0:f8 0+1:=276 0:71 0:27a 0:1df08 0+1:=27d 0:280 0:2a8 0:2a6
  0:ab67 0:2a7 0:288 0:2c71 1:28f 0+1:=2a1 0:298 0+2:=1c0 0:1df0a 0:1df1e 45+5 2 1+2b 1+1 3 2+16
  1+47 8+8 30+12 1+1 5+20 3+1a 5 40+37 4+13 2+31 1+1 5+7 1+2 1+1c 2+2 4+9 7+8 7+3f 20+26 4+b 9+35
  3+1c 2+1a 5+19 7+3 c+6 50+48 37+32:=10cc0 d+32 7+2d 8+9 126+1e 1+29 1+2 2+1 4b+2a 8+29 16+19
  26+1b 14+16 9+4d 4+23 9+3d 1+4 d+18 7+9 6+34 1+11 8+26 9+5f 1+13 b+11 1+2e 3e+6 1 1+3 1+e 1+a
  6+3a 5+9 6+3 1+7 2+1 2+15 1+6 1+1 1+4 1+9 2+1 2+2 2 6 5+6 2+6 3+4 8b+5b 1+4 1e+47 8+9 a6+35 2+25
  22+44 b+9 6+c 13+39 6+9 36+1a 2+e 4+16 b9+3b 64+1f:=118c0 0+32 c+7 2 2+7 1+1 1+1d 1+1 2+b 9+9
  46+7 2+2d 2+a 1b+47 8+52 d+48 7+9 f6+8 1+2c 1+d a+1c 3+1f 2+15 1+d 49+6 1+1 1+2b 3 1+1 1+8 8+9
  6+5 1+1 1+24 1+1 1+5 7+9 136+18 7+10 1+28 3+1b 56 f+31 d+39a 66+6e 1+4 b+c3 a4c+62 d+42f 10+15
  faa+246 21b9+238 7+1e 1+9 4+50 1+9 6+1d 2+5 a+45 a+9 1+6 1+14 5+12 2b0+1f:=16e60 0+3a 65+4a 4+38
  7+10 40+4 b+1 e+17f7 8+4d5 2a+8 22e7+3 1+6 1+1 1+122 f 1d+2 2 e+3 8+18b 904+6a 5+c 3+8 7+9 2+3
  0+3:- 125c+2d 2+16 9+73 3c+f5 a+26 2+34 0:1d157,1d165 0:1d158,1d165 0:1d158,1d165,1d16e
  0:1d158,1d165,1d16f 0:1d158,1d165,1d170 0:1d158,1d165,1d171 0:1d158,1d165,1d172 0+d 8+3f
  0:1d1b9,1d165 0:1d1ba,1d165 0:1d1b9,1d165,1d16e 0:1d1ba,1d165,1d16e 0:1d1b9,1d165,1d16f
  0:1d1ba,1d165,1d16f 0+29 15+45 7a+13 c+13 c+56 9+18 87+19:=61 0+19:=61 0+19:=61 0+6:=61 1+11:=69
  0+19:=61 0+19:=61 0:61 1+1:=63 2:67 2+1:=6a 2+3:=6e 1+7:=73 0+3:=61 1:66 1+6:=68 1+a:=70 0+19:=61
  0+19:=61 0+1:=61 1+3:=64 2+7:=6a 1+6:=73 1+19:=61 0+1:=61 1+3:=64 1+4:=69 1:6f 3+6:=73 1+19:=61
  0+19:=61 0+19:=61 0+19:=61 0+19:=61 0+19:=61 0+19:=61 0+19:=61 0+19:=61 0+19:=61 0+19:=61
  0+19:=61 0+19:=61 0:131 0:237 2+10:=3b1 0:3b8 0+6:=3c3 0:2207 0+10:=3b1 0+1:3c3 0+5:=3c4 0:2202
  0:3b5 0:3b8 0:3ba 0:3c6 0:3c1 0:3c0 0+10:=3b1 0:3b8 0+6:=3c3 0:2207 0+10:=3b1 0+1:3c3 0+5:=3c4
  0:2202 0:3b5 0:3b8 0:3ba 0:3c6 0:3c1 0:3c0 0+10:=3b1 0:3b8 0+6:=3c3 0:2207 0+10:=3b1 0+1:3c3
  0+5:=3c4 0:2202 0:3b5 0:3b8 0:3ba 0:3c6 0:3c1 0:3c0 0+10:=3b1 0:3b8 0+6:=3c3 0:2207 0+10:=3b1
  0+1:3c3 0+5:=3c4 0:2202 0:3b5 0:3b8 0:3ba 0:3c6 0:3c1 0:3c0 0+10:=3b1 0:3b8 0+6:=3c3 0:2207
  0+10:=3b1 0+1:3c3 0+5:=3c4 0:2202 0:3b5 0:3b8 0:3ba 0:3c6 0:3c1 0:3c0 0+1:3dd 2+9:=30 0+9:=30
  0+9:=30 0+9:=30 0+9:=30 0+28b f+4 1+e 450+1e 6+5 d5+6 1+10 2+6 1+1 1+4 5+8:=430 0+2:=43a 0+a:=43e
  0:44b 0+1:=44d 0:a689 0:4d9 0:456 0:458 0:4e9 0:4af 0:4cf 0+8:=430 0+1:=43a 0+1:=43e 0:441
  0+5:=443 0+1:=44a 0:491 0:456 0:455 0:45f 0:4ab 0:a651 0:4b1 21 70+2c 3+d 2+9 4+1 140+1e 11+39 5
  1d0+29 2e6+6 1+3 1+1 1+e 1+c4 2+f 29+21:=1e922 0+29 4+9 4+1 311+43 4c+3c c2+1:=627 0:62c 0:62f
  1:648 0:632 0:62d 0:637 0:64a 0+3:=643 0:633 0:639 0:641 0:635 0:642 0:631 0:634 0+1:=62a 0:62e
  0:630 0:636 0:638 0:63a 0:66e 0:6ba 0:6a1 0:66f 1:628 0:62c 1:647 2:62d 1:64a 0+3:=643 0:633
  0:639 0:641 0:635 0:642 1:634 0+1:=62a 0:62e 1:636 1:63a 6:62c 4:62d 1:64a 1:644 1:646 0:633
  0:639 1:635 0:642 1:634 2:62e 1:636 1:63a 1:6ba 1:66f 1:628 0:62c 1:647 2:62d 0:637 0:64a 0:643
  1+1:=645 0:633 0:639 0:641 0:635 0:642 1:634 0+1:=62a 0:62e 1:636 0:638 0:63a 0:66e 1:6a1
  1+1:=627 0:62c 0:62f 0+1:=647 0:632 0:62d 0:637 0:64a 1+2:=644 0:633 0:639 0:641 0:635 0:642
  0:631 0:634 0+1:=62a 0:62e 0:630 0:636 0:638 0:63a 5:628 0:62c 0:62f 1:648 0:632 0:62d 0:637
  0:64a 1+2:=644 0:633 0:639 0:641 0:635 0:642 0:631 0:634 0+1:=62a 0:62e 0:630 0:636 0:638 0:63a
  34+1 10e+2b 4+63 c+e 2+e 1+e 1+24 b:30,2c 0:31,2c 0:32,2c 0:33,2c 0:34,2c 0:35,2c 0:36,2c 0:37,2c
  0:38,2c 0:39,2c 0+4 0:28,61,29 0:28,62,29 0:28,63,29 0:28,64,29 0:28,65,29 0:28,66,29 0:28,67,29
  0:28,68,29 0:28,69,29 0:28,6a,29 0:28,6b,29 0:28,6c,29 0:28,6d,29 0:28,6e,29 0:28,6f,29
  0:28,70,29 0:28,71,29 0:28,72,29 0:28,73,29 0:28,74,29 0:28,75,29 0:28,76,29 0:28,77,29
  0:28,78,29 0:28,79,29 0:28,7a,29 0:3014,73,3015 0:63 0:72 0:63,64 0:77,7a 0 0+19:=61 0:68,76
  0:6d,76 0:73,64 0:73,73 0:70,70,76 0:77,63 0+19 0:6d,63 0:6d,64 0:6d,72 0+22 0:64,6a 0+1c 38+19
  0:307b,304b 0:30b3,30b3 0:30b5 d:624b 0:5b57 0:53cc 0:30c7 0:4e8c 0:591a 0:89e3 0:5929 0:4ea4
  0:6620 0:7121 0:6599 0:524d 0:5f8c 0:518d 0:65b0 0:521d 0:7d42 0:751f 0:8ca9 0:58f0 0:5439 0:6f14
  0:6295 0:6355 0:4e00 0:4e09 0:904a 0:5de6 0:4e2d 0:53f3 0:6307 0:8d70 0:6253 0:7981 0:7a7a 0:5408
  0:6e80 0:6709 0:6708 0:7533 0:5272 0:55b6 0:914d 4:3014,672c,3015 0:3014,4e09,3015
  0:3014,4e8c,3015 0:3014,5b89,3015 0:3014,70b9,3015 0:3014,6253,3015 0:3014,76d7,3015
  0:3014,52dd,3015 0:3014,6557,3015 7:5f97 0:53ef e+5 9a+3d7 4+10 3+c 3+76 4+5e 6+b 4 f+b 4+37 8+9
  6+27 8+1d 2+1 4e+153 c+d 2+c 3+8 7+2d 1+6 8+d 4+8 7+8 7+92 1+36 25+9:=30 406+a6df 20+1039 6+dd
  2+1681 e+1d30 f+26d 9a2:4e3d 0:4e38 0:4e41 0:20122 0:4f60 0:4fae 0:4fbb 0:5002 0:507a 0:5099
  0:50e7 0:50cf 0:349e 0:2063a 0:514d 0:5154 0:5164 0:5177 0:2051c 0:34b9 0:5167 0:518d 0:2054b
  0:5197 0:51a4 0:4ecc 0:51ac 0:51b5 0:291df 0:51f5 0:5203 0:34df 0:523b 0:5246 0:5272 0:5277
  0:3515 0:52c7 0:52c9 0:52e4 0:52fa 0+1:=5305 0:5317 0:5349 0:5351 0:535a 0:5373 0:537d 0+2:537f
  0:20a2c 0:7070 0:53ca 0:53df 0:20b63 0:53eb 0:53f1 0:5406 0:549e 0:5438 0:5448 0:5468 0:54a2
  0:54f6 0:5510 0:5553 0:5563 0+1:5584 0:5599 0:55ab 0:55b3 0:55c2 0:5716 0:5606 0:5717 0:5651
  0:5674 0:5207 0:58ee 0:57ce 0:57f4 0:580d 0:578b 0:5832 0:5831 0:58ac 0:214e4 0:58f2 0:58f7
  0:5906 0:591a 0:5922 0:5962 0:216a8 0:216ea 0:59ec 0:5a1b 0:5a27 0:59d8 0:5a66 0:36ee 1:5b08
  0+1:5b3e 0:219c8 0:5bc3 0:5bd8 0:5be7 0:5bf3 0:21b18 0:5bff 0:5c06 1:5c22 0:3781 0:5c60 0:5c6e
  0:5cc0 0:5c8d 0:21de4 0:5d43 0:21de6 0:5d6e 0:5d6b 0:5d7c 0+1:=5de1 0:382f 0:5dfd 0:5e28 0:5e3d
  0:5e69 0:3862 0:22183 0:387c 0:5eb0 0:5eb3 0:5eb6 0:5eca 0:2a392 0:5efe 0+1:22331 0:8201 0+1:5f22
  0:38c7 0:232b8 0:261da 0:5f62 0:5f6b 0:38e3 0:5f9a 0:5fcd 0:5fd7 0:5ff9 0:6081 0:393a 0:391c
  0:6094 0:226d4 0:60c7 0:6148 0:614c 0:614e 0:614c 0:617a 0:618e 0:61b2 0:61a4 0:61af 0:61de
  0:61f2 0:61f6 0:6210 0:621b 0:625d 0:62b1 0:62d4 0:6350 0:22b0c 0:633d 0:62fc 0:6368 0:6383
  0:63e4 0:22bf1 0:6422 0:63c5 0:63a9 0:3a2e 0:6469 0:647e 0:649d 0:6477 0:3a6c 0:654f 0:656c
  0:2300a 0:65e3 0:66f8 0:6649 0:3b19 0:6691 0:3b08 0:3ae4 0:5192 0:5195 0:6700 0:669c 0:80ad
  0:43d9 0:6717 0:671b 0:6721 0:675e 0:6753 0:233c3 0:3b49 0:67fa 0:6785 0:6852 0:6885 0:2346d
  0:688e 0:681f 0:6914 0:3b9d 0:6942 0:69a3 0:69ea 0:6aa8 0:236a3 0:6adb 0:3c18 0:6b21 0:238a7
  0:6b54 0:3c4e 0:6b72 0:6b9f 0+1:=6bba 0:23a8d 0:21d0b 0:23afa 0:6c4e 0:23cbc 0:6cbf 0:6ccd 0:6c67
  0:6d16 0:6d3e 0:6d77 0:6d41 0:6d69 0:6d78 0:6d85 0:23d1e 0:6d34 0:6e2f 0:6e6e 0:3d33 0:6ecb
  0:6ec7 0:23ed1 0:6df9 0:6f6e 0:23f5e 0:23f8e 0:6fc6 0:7039 0:701e 0:701b 0:3d96 0:704a 0:707d
  0:7077 0:70ad 0:20525 0:7145 0:24263 0:719c 1:7228 0:7235 0:7250 0:24608 0:7280 0:7295 0:24735
  0:24814 0:737a 0:738b 0:3eac 0:73a5 0+1:3eb8 0:7447 0:745c 0:7471 0:7485 0:74ca 0:3f1b 0:7524
  0:24c36 0:753e 0:24c92 0:7570 0:2219f 0:7610 0:24fa1 0:24fb8 0:25044 0:3ffc 0:4008 0:76f4 0:250f3
  0:250f2 0:25119 0:25133 0+1:=771e 0:771f 0:774a 0:4039 0:778b 0:4046 0:4096 0:2541d 0:784e 0:788c
  0:78cc 0:40e3 0:25626 0:7956 0:2569a 0:256c5 0:798f 0:79eb 0:412f 0:7a40 0:7a4a 0:7a4f 0:2597c
  0+1:25aa7 1:4202 0:25bab 0:7bc6 0:7bc9 0:4227 0:25c80 0:7cd2 0:42a0 0:7ce8 0:7ce3 0:7d00 0:25f86
  0:7d63 0:4301 0:7dc7 0:7e02 0:7e45 0:4334 0:26228 0:26247 0:4359 0:262d9 0:7f7a 0:2633e 0:7f95
  0:7ffa 0:8005 0:264da 0:26523 0:8060 0:265a8 0:8070 0:2335f 0:43d5 0:80b2 0:8103 0:440b 0:813e
  0:5ab5 0:267a7 0:267b5 0:23393 0:2339c 0:8201 0:8204 0:8f9e 0:446b 0:8291 0:828b 0:829d 0:52b3
  0:82b1 0:82b3 0:82bd 0:82e6 0:26b3c 0:82e5 0:831d 0:8363 0:83ad 0:8323 0:83bd 0:83e7 0:8457
  0:8353 0:83ca 0:83cc 0:83dc 0:26c36 0:26d6b 0:26cd5 0:452b 0:84f1 0:84f3 0:8516 0:273ca 0:8564
  0:26f2c 0:455d 0:4561 0:26fb1 0:270d2 0:456b 0:8650 0:865c 0:8667 0:8669 0:86a9 0:8688 0:870e
  0:86e2 0:8779 0:8728 0:876b 0:8786 1:87e1 0:8801 0:45f9 0:8860 0:8863 0:27667 0:88d7 0:88de
  0:4635 0:88fa 0:34bb 0:278ae 0:27966 0:46be 0:46c7 0:8aa0 0:8aed 0:8b8a 0:8c55 0:27ca8 0:8cab
  0:8cc1 0:8d1b 0:8d77 0:27f2f 0:20804 0:8dcb 0:8dbc 0:8df0 0:208de 0:8ed4 0:8f38 0:285d2 0:285ed
  0:9094 0:90f1 0:9111 0:2872e 0:911b 0:9238 0+1:=92d7 0:927c 0:93f9 0:9415 0:28bfa 0:958b 0:4995
  0:95b7 0:28d77 0:49e6 0:96c3 0:5db2 0:9723 0:29145 0:2921a 0:4a6e 0:4a76 0:97e0 0:2940a 0:4ab2
  0:29496 0+1:980b 0:9829 0:295b6 0:98e2 0:4b33 0:9929 0:99a7 0:99c2 0:99fe 0:4bce 0:29b30 0:9b12
  0:9c40 0:9cfd 0:4cce 0:4ced 0:9d67 0:2a0ce 0:4cf8 0:2a105 0:2a20e 0:2a291 0:9ebb 0:4d56 0:9ef9
  0:9efe 0:9f05 0:9f0f 0:9f16 0:9f3b 0:2a600 5e2+134a 5+105f add50+ef:-"

/-- What becomes of a character in a run with this rule. -/
def apply (run : Text.Run NameRule) (c : Char) : List Char :=
  match run.value with
  | .kept => [c]
  | .leftOut => []
  | .shifted first => [Char.ofNat (first + (c.toNat - run.first))]
  | .paired => if (c.toNat - run.first) % 2 = 0 then [Char.ofNat (c.toNat + 1)] else [c]
  | .replaced characters => characters

/-- What a character of a name becomes, if a name may have it. -/
def characters? (c : Char) : Option (List Char) := (table.find? c).map (apply · c)

/-- Whether a name has a character as it is. -/
def keeps (c : Char) : Bool := characters? c = some [c]

end NameRule
end SheetPricing.Url
