import CronHeatMap.Text.CharTable

/-!
# What characters are composed of

Tables of the characters that can be taken apart, and of the marks that may be put in another order.
The syllables of Hangul are not listed, because they are composed by a rule.
-/

namespace CronHeatMap.Text.Composition

/-- The classes of marks. Marks of different classes may be put in another order. -/
def classes : List (Nat × CharSet) :=
  [(1, .ofLines
      ["334-338 1cd4 1ce2-1ce8 20d2-20d3 20d8-20da 20e5-20e6 20ea-20eb 10a39 16af0-16af4 1bc9e",
       "1d167-1d169"]),
   (6, .ofLines ["16ff0-16ff1"]),
   (7, .ofLines
      ["93c 9bc a3c abc b3c c3c cbc 1037 1b34 1be6 1c37 a9b3 110ba 11173 111ca 11236 112e9",
       "1133b-1133c 11446 114c3 115c0 116b7 1183a 11943 11d42 1e94a"]),
   (8, .ofLines ["3099-309a"]),
   (9, .ofLines
      ["94d 9cd a4d acd b4d bcd c4d ccd d3b-d3c d4d dca e3a eba f84 1039-103a 1714-1715 1734",
       "17d2 1a60 1b44 1baa-1bab 1bf2-1bf3 2d7f a806 a82c a8c4 a953 a9c0 aaf6 abed 10a3f 11046",
       "11070 1107f 110b9 11133-11134 111c0 11235 112ea 1134d 113ce-113d0 11442 114c2 115bf",
       "1163f 116b6 1172b 11839 1193d-1193e 119e0 11a34 11a47 11a99 11c3f 11d44-11d45 11d97",
       "11f41-11f42 1612f"]),
   (10, .ofLines ["5b0"]),
   (11, .ofLines ["5b1"]),
   (12, .ofLines ["5b2"]),
   (13, .ofLines ["5b3"]),
   (14, .ofLines ["5b4"]),
   (15, .ofLines ["5b5"]),
   (16, .ofLines ["5b6"]),
   (17, .ofLines ["5b7"]),
   (18, .ofLines ["5b8 5c7"]),
   (19, .ofLines ["5b9-5ba"]),
   (20, .ofLines ["5bb"]),
   (21, .ofLines ["5bc"]),
   (22, .ofLines ["5bd"]),
   (23, .ofLines ["5bf"]),
   (24, .ofLines ["5c1"]),
   (25, .ofLines ["5c2"]),
   (26, .ofLines ["fb1e"]),
   (27, .ofLines ["64b 8f0"]),
   (28, .ofLines ["64c 8f1"]),
   (29, .ofLines ["64d 8f2"]),
   (30, .ofLines ["618 64e"]),
   (31, .ofLines ["619 64f"]),
   (32, .ofLines ["61a 650"]),
   (33, .ofLines ["651"]),
   (34, .ofLines ["652"]),
   (35, .ofLines ["670"]),
   (36, .ofLines ["711"]),
   (84, .ofLines ["c55"]),
   (91, .ofLines ["c56"]),
   (103, .ofLines ["e38-e39"]),
   (107, .ofLines ["e48-e4b"]),
   (118, .ofLines ["eb8-eb9"]),
   (122, .ofLines ["ec8-ecb"]),
   (129, .ofLines ["f71"]),
   (130, .ofLines ["f72 f7a-f7d f80"]),
   (132, .ofLines ["f74"]),
   (202, .ofLines ["321-322 327-328 1dd0"]),
   (214, .ofLines ["1dce"]),
   (216, .ofLines ["31b f39 1d165-1d166 1d16e-1d172"]),
   (218, .ofLines ["1dfa 302a"]),
   (220, .ofLines
      ["316-319 31c-320 323-326 329-333 339-33c 347-349 34d-34e 353-356 359-35a 591 596 59b",
       "5a2-5a7 5aa 5c5 655-656 65c 65f 6e3 6ea 6ed 731 734 737-739 73b-73c 73e 742 744 746 748",
       "7f2 7fd 859-85b 899-89b 8cf-8d3 8e3 8e6 8e9 8ed-8ef 8f6 8f9-8fa 952 f18-f19 f35 f37 fc6",
       "108d 193b 1a18 1a7f 1ab5-1aba 1abd 1abf-1ac0 1ac3-1ac4 1aca 1add 1ae6 1b6c 1cd5-1cd9",
       "1cdc-1cdf 1ced 1dc2 1dca 1dcf 1df9 1dfd 1dff 20e8 20ec-20ef a92b-a92d aab4 fe27-fe2d",
       "101fd 102e0 10a0d 10a3a 10ae6 10efa-10efb 10efd-10eff 10f46-10f47 10f4b 10f4d-10f50",
       "10f83 10f85 1d17b-1d182 1d18a-1d18b 1e4ee 1e5ef 1e8d0-1e8d6"]),
   (222, .ofLines ["59a 5ad 1939 302d"]),
   (224, .ofLines ["302e-302f"]),
   (226, .ofLines ["1d16d"]),
   (228, .ofLines ["5ae 18a9 1df7-1df8 302b"]),
   (230, .ofLines
      ["300-314 33d-344 346 34a-34c 350-352 357 35b 363-36f 483-487 592-595 597-599 59c-5a1",
       "5a8-5a9 5ab-5ac 5af 5c4 610-617 653-654 657-65b 65d-65e 6d6-6dc 6df-6e2 6e4 6e7-6e8",
       "6eb-6ec 730 732-733 735-736 73a 73d 73f-741 743 745 747 749-74a 7eb-7f1 7f3 816-819",
       "81b-823 825-827 829-82d 897-898 89c-89f 8ca-8ce 8d4-8e1 8e4-8e5 8e7-8e8 8ea-8ec 8f3-8f5",
       "8f7-8f8 8fb-8ff 951 953-954 9fe f82-f83 f86-f87 135d-135f 17dd 193a 1a17 1a75-1a7c",
       "1ab0-1ab4 1abb-1abc 1ac1-1ac2 1ac5-1ac9 1acb-1adc 1ae0-1ae5 1ae7-1aea 1b6b 1b6d-1b73",
       "1cd0-1cd2 1cda-1cdb 1ce0 1cf4 1cf8-1cf9 1dc0-1dc1 1dc3-1dc9 1dcb-1dcc 1dd1-1df5 1dfb",
       "1dfe 20d0-20d1 20d4-20d7 20db-20dc 20e1 20e7 20e9 20f0 2cef-2cf1 2de0-2dff a66f",
       "a674-a67d a69e-a69f a6f0-a6f1 a8e0-a8f1 aab0 aab2-aab3 aab7-aab8 aabe-aabf aac1",
       "fe20-fe26 fe2e-fe2f 10376-1037a 10a0f 10a38 10ae5 10d24-10d27 10d69-10d6d 10eab-10eac",
       "10f48-10f4a 10f4c 10f82 10f84 11100-11102 11366-1136c 11370-11374 1145e 16b30-16b36",
       "1d185-1d189 1d1aa-1d1ad 1d242-1d244 1e000-1e006 1e008-1e018 1e01b-1e021 1e023-1e024",
       "1e026-1e02a 1e08f 1e130-1e136 1e2ae 1e2ec-1e2ef 1e4ef 1e5ee 1e6e3 1e6e6 1e6ee-1e6ef",
       "1e6f5 1e944-1e949"]),
   (232, .ofLines ["315 31a 358 1df6 302c 1e4ec-1e4ed"]),
   (233, .ofLines ["35c 35f 362 1dfc"]),
   (234, .ofLines ["35d-35e 360-361 1aeb 1dcd"]),
   (240, .ofLines ["345"])]

/-- The characters that are composed of two others. The first of the two may be composed itself. -/
def composites : ImageTable := .ofLines
  ["c0=41+300,41+301,41+302,41+303,41+308,41+30a",
   "c7=43+327,45+300,45+301,45+302,45+308,49+300,49+301,49+302,49+308",
   "d1=4e+303,4f+300,4f+301,4f+302,4f+303,4f+308 d9=55+300,55+301,55+302,55+308,59+301",
   "e0=61+300,61+301,61+302,61+303,61+308,61+30a",
   "e7=63+327,65+300,65+301,65+302,65+308,69+300,69+301,69+302,69+308",
   "f1=6e+303,6f+300,6f+301,6f+302,6f+303,6f+308 f9=75+300,75+301,75+302,75+308,79+301",
   "ff=79+308,41+304,61+304,41+306,61+306,41+328,61+328,43+301,63+301,43+302,63+302,43+307",
   "10b=63+307,43+30c,63+30c,44+30c,64+30c",
   "112=45+304,65+304,45+306,65+306,45+307,65+307,45+328,65+328,45+30c,65+30c,47+302,67+302",
   "11e=47+306,67+306,47+307,67+307,47+327,67+327,48+302,68+302",
   "128=49+303,69+303,49+304,69+304,49+306,69+306,49+328,69+328,49+307",
   "134=4a+302,6a+302,4b+327,6b+327 139=4c+301,6c+301,4c+327,6c+327,4c+30c,6c+30c",
   "143=4e+301,6e+301,4e+327,6e+327,4e+30c,6e+30c 14c=4f+304,6f+304,4f+306,6f+306,4f+30b,6f+30b",
   "154=52+301,72+301,52+327,72+327,52+30c,72+30c,53+301,73+301,53+302,73+302,53+327,73+327",
   "160=53+30c,73+30c,54+327,74+327,54+30c,74+30c",
   "168=55+303,75+303,55+304,75+304,55+306,75+306,55+30a,75+30a,55+30b,75+30b,55+328,75+328",
   "174=57+302,77+302,59+302,79+302,59+308,5a+301,7a+301,5a+307,7a+307,5a+30c,7a+30c",
   "1a0=4f+31b,6f+31b 1af=55+31b,75+31b",
   "1cd=41+30c,61+30c,49+30c,69+30c,4f+30c,6f+30c,55+30c,75+30c,dc+304,fc+304,dc+301,fc+301",
   "1d9=dc+30c,fc+30c,dc+300,fc+300 1de=c4+304,e4+304,226+304,227+304,c6+304,e6+304",
   "1e6=47+30c,67+30c,4b+30c,6b+30c,4f+328,6f+328,1ea+304,1eb+304,1b7+30c,292+30c,6a+30c",
   "1f4=47+301,67+301",
   "1f8=4e+300,6e+300,c5+301,e5+301,c6+301,e6+301,d8+301,f8+301,41+30f,61+30f,41+311,61+311",
   "204=45+30f,65+30f,45+311,65+311,49+30f,69+30f,49+311,69+311,4f+30f,6f+30f,4f+311,6f+311",
   "210=52+30f,72+30f,52+311,72+311,55+30f,75+30f,55+311,75+311,53+326,73+326,54+326,74+326",
   "21e=48+30c,68+30c",
   "226=41+307,61+307,45+327,65+327,d6+304,f6+304,d5+304,f5+304,4f+307,6f+307,22e+304,22f+304",
   "232=59+304,79+304 385=a8+301,391+301 388=395+301,397+301,399+301 38c=39f+301",
   "38e=3a5+301,3a9+301,3ca+301 3aa=399+308,3a5+308,3b1+301,3b5+301,3b7+301,3b9+301,3cb+301",
   "3ca=3b9+308,3c5+308,3bf+301,3c5+301,3c9+301 3d3=3d2+301,3d2+308 400=415+300,415+308",
   "403=413+301 407=406+308 40c=41a+301,418+300,423+306 419=418+306 439=438+306",
   "450=435+300,435+308 453=433+301 457=456+308 45c=43a+301,438+300,443+306 476=474+30f,475+30f",
   "4c1=416+306,436+306 4d0=410+306,430+306,410+308,430+308 4d6=415+306,435+306",
   "4da=4d8+308,4d9+308,416+308,436+308,417+308,437+308",
   "4e2=418+304,438+304,418+308,438+308,41e+308,43e+308",
   "4ea=4e8+308,4e9+308,42d+308,44d+308,423+304,443+304,423+308,443+308,423+30b,443+30b",
   "4f4=427+308,447+308 4f8=42b+308,44b+308 622=627+653,627+654,648+654,627+655,64a+654",
   "6c0=6d5+654 6c2=6c1+654 6d3=6d2+654 929=928+93c 931=930+93c 934=933+93c 9cb=9c7+9be,9c7+9d7",
   "b48=b47+b56 b4b=b47+b3e,b47+b57 b94=b92+bd7 bca=bc6+bbe,bc7+bbe,bc6+bd7 c48=c46+c56",
   "cc0=cbf+cd5 cc7=cc6+cd5,cc6+cd6 cca=cc6+cc2,cca+cd5 d4a=d46+d3e,d47+d3e,d46+d57 dda=dd9+dca",
   "ddc=dd9+dcf,ddc+dca,dd9+ddf 1026=1025+102e 1b06=1b05+1b35 1b08=1b07+1b35 1b0a=1b09+1b35",
   "1b0c=1b0b+1b35 1b0e=1b0d+1b35 1b12=1b11+1b35 1b3b=1b3a+1b35 1b3d=1b3c+1b35",
   "1b40=1b3e+1b35,1b3f+1b35 1b43=1b42+1b35",
   "1e00=41+325,61+325,42+307,62+307,42+323,62+323,42+331,62+331,c7+301,e7+301,44+307,64+307",
   "1e0c=44+323,64+323,44+331,64+331,44+327,64+327,44+32d,64+32d,112+300,113+300,112+301",
   "1e17=113+301,45+32d,65+32d,45+330,65+330,228+306,229+306,46+307,66+307,47+304,67+304",
   "1e22=48+307,68+307,48+323,68+323,48+308,68+308,48+327,68+327,48+32e,68+32e,49+330,69+330",
   "1e2e=cf+301,ef+301,4b+301,6b+301,4b+323,6b+323,4b+331,6b+331,4c+323,6c+323,1e36+304",
   "1e39=1e37+304,4c+331,6c+331,4c+32d,6c+32d,4d+301,6d+301,4d+307,6d+307,4d+323,6d+323,4e+307",
   "1e45=6e+307,4e+323,6e+323,4e+331,6e+331,4e+32d,6e+32d,d5+301,f5+301,d5+308,f5+308,14c+300",
   "1e51=14d+300,14c+301,14d+301,50+301,70+301,50+307,70+307,52+307,72+307,52+323,72+323",
   "1e5c=1e5a+304,1e5b+304,52+331,72+331,53+307,73+307,53+323,73+323,15a+307,15b+307,160+307",
   "1e67=161+307,1e62+307,1e63+307,54+307,74+307,54+323,74+323,54+331,74+331,54+32d,74+32d",
   "1e72=55+324,75+324,55+330,75+330,55+32d,75+32d,168+301,169+301,16a+308,16b+308,56+303",
   "1e7d=76+303,56+323,76+323,57+300,77+300,57+301,77+301,57+308,77+308,57+307,77+307,57+323",
   "1e89=77+323,58+307,78+307,58+308,78+308,59+307,79+307,5a+302,7a+302,5a+323,7a+323,5a+331",
   "1e95=7a+331,68+331,74+308,77+30a,79+30a 1e9b=17f+307",
   "1ea0=41+323,61+323,41+309,61+309,c2+301,e2+301,c2+300,e2+300,c2+309,e2+309,c2+303,e2+303",
   "1eac=1ea0+302,1ea1+302,102+301,103+301,102+300,103+300,102+309,103+309,102+303,103+303",
   "1eb6=1ea0+306,1ea1+306,45+323,65+323,45+309,65+309,45+303,65+303,ca+301,ea+301,ca+300",
   "1ec1=ea+300,ca+309,ea+309,ca+303,ea+303,1eb8+302,1eb9+302,49+309,69+309,49+323,69+323",
   "1ecc=4f+323,6f+323,4f+309,6f+309,d4+301,f4+301,d4+300,f4+300,d4+309,f4+309,d4+303,f4+303",
   "1ed8=1ecc+302,1ecd+302,1a0+301,1a1+301,1a0+300,1a1+300,1a0+309,1a1+309,1a0+303,1a1+303",
   "1ee2=1a0+323,1a1+323,55+323,75+323,55+309,75+309,1af+301,1b0+301,1af+300,1b0+300,1af+309",
   "1eed=1b0+309,1af+303,1b0+303,1af+323,1b0+323,59+300,79+300,59+323,79+323,59+309,79+309",
   "1ef8=59+303,79+303",
   "1f00=3b1+313,3b1+314,1f00+300,1f01+300,1f00+301,1f01+301,1f00+342,1f01+342,391+313,391+314",
   "1f0a=1f08+300,1f09+300,1f08+301,1f09+301,1f08+342,1f09+342,3b5+313,3b5+314,1f10+300",
   "1f13=1f11+300,1f10+301,1f11+301 1f18=395+313,395+314,1f18+300,1f19+300,1f18+301,1f19+301",
   "1f20=3b7+313,3b7+314,1f20+300,1f21+300,1f20+301,1f21+301,1f20+342,1f21+342,397+313,397+314",
   "1f2a=1f28+300,1f29+300,1f28+301,1f29+301,1f28+342,1f29+342,3b9+313,3b9+314,1f30+300",
   "1f33=1f31+300,1f30+301,1f31+301,1f30+342,1f31+342,399+313,399+314,1f38+300,1f39+300",
   "1f3c=1f38+301,1f39+301,1f38+342,1f39+342,3bf+313,3bf+314,1f40+300,1f41+300,1f40+301",
   "1f45=1f41+301 1f48=39f+313,39f+314,1f48+300,1f49+300,1f48+301,1f49+301",
   "1f50=3c5+313,3c5+314,1f50+300,1f51+300,1f50+301,1f51+301,1f50+342,1f51+342 1f59=3a5+314",
   "1f5b=1f59+300 1f5d=1f59+301",
   "1f5f=1f59+342,3c9+313,3c9+314,1f60+300,1f61+300,1f60+301,1f61+301,1f60+342,1f61+342",
   "1f68=3a9+313,3a9+314,1f68+300,1f69+300,1f68+301,1f69+301,1f68+342,1f69+342,3b1+300",
   "1f72=3b5+300 1f74=3b7+300 1f76=3b9+300 1f78=3bf+300 1f7a=3c5+300 1f7c=3c9+300",
   "1f80=1f00+345,1f01+345,1f02+345,1f03+345,1f04+345,1f05+345,1f06+345,1f07+345,1f08+345",
   "1f89=1f09+345,1f0a+345,1f0b+345,1f0c+345,1f0d+345,1f0e+345,1f0f+345,1f20+345,1f21+345",
   "1f92=1f22+345,1f23+345,1f24+345,1f25+345,1f26+345,1f27+345,1f28+345,1f29+345,1f2a+345",
   "1f9b=1f2b+345,1f2c+345,1f2d+345,1f2e+345,1f2f+345,1f60+345,1f61+345,1f62+345,1f63+345",
   "1fa4=1f64+345,1f65+345,1f66+345,1f67+345,1f68+345,1f69+345,1f6a+345,1f6b+345,1f6c+345",
   "1fad=1f6d+345,1f6e+345,1f6f+345,3b1+306,3b1+304,1f70+345,3b1+345,3ac+345",
   "1fb6=3b1+342,1fb6+345,391+306,391+304,391+300 1fbc=391+345",
   "1fc1=a8+342,1f74+345,3b7+345,3ae+345 1fc6=3b7+342,1fc6+345,395+300 1fca=397+300",
   "1fcc=397+345,1fbf+300,1fbf+301,1fbf+342,3b9+306,3b9+304,3ca+300",
   "1fd6=3b9+342,3ca+342,399+306,399+304,399+300",
   "1fdd=1ffe+300,1ffe+301,1ffe+342,3c5+306,3c5+304,3cb+300",
   "1fe4=3c1+313,3c1+314,3c5+342,3cb+342,3a5+306,3a5+304,3a5+300 1fec=3a1+314,a8+300",
   "1ff2=1f7c+345,3c9+345,3ce+345 1ff6=3c9+342,1ff6+345,39f+300 1ffa=3a9+300 1ffc=3a9+345",
   "219a=2190+338,2192+338 21ae=2194+338 21cd=21d0+338,21d4+338,21d2+338 2204=2203+338",
   "2209=2208+338 220c=220b+338 2224=2223+338 2226=2225+338 2241=223c+338 2244=2243+338",
   "2247=2245+338 2249=2248+338 2260=3d+338 2262=2261+338",
   "226d=224d+338,3c+338,3e+338,2264+338,2265+338 2274=2272+338,2273+338 2278=2276+338,2277+338",
   "2280=227a+338,227b+338 2284=2282+338,2283+338 2288=2286+338,2287+338",
   "22ac=22a2+338,22a8+338,22a9+338,22ab+338 22e0=227c+338,227d+338,2291+338,2292+338",
   "22ea=22b2+338,22b3+338,22b4+338,22b5+338 304c=304b+3099 304e=304d+3099 3050=304f+3099",
   "3052=3051+3099 3054=3053+3099 3056=3055+3099 3058=3057+3099 305a=3059+3099 305c=305b+3099",
   "305e=305d+3099 3060=305f+3099 3062=3061+3099 3065=3064+3099 3067=3066+3099 3069=3068+3099",
   "3070=306f+3099,306f+309a 3073=3072+3099,3072+309a 3076=3075+3099,3075+309a",
   "3079=3078+3099,3078+309a 307c=307b+3099,307b+309a 3094=3046+3099 309e=309d+3099",
   "30ac=30ab+3099 30ae=30ad+3099 30b0=30af+3099 30b2=30b1+3099 30b4=30b3+3099 30b6=30b5+3099",
   "30b8=30b7+3099 30ba=30b9+3099 30bc=30bb+3099 30be=30bd+3099 30c0=30bf+3099 30c2=30c1+3099",
   "30c5=30c4+3099 30c7=30c6+3099 30c9=30c8+3099 30d0=30cf+3099,30cf+309a",
   "30d3=30d2+3099,30d2+309a 30d6=30d5+3099,30d5+309a 30d9=30d8+3099,30d8+309a",
   "30dc=30db+3099,30db+309a 30f4=30a6+3099 30f7=30ef+3099,30f0+3099,30f1+3099,30f2+3099",
   "30fe=30fd+3099 105c9=105d2+307 105e4=105da+307 1109a=11099+110ba 1109c=1109b+110ba",
   "110ab=110a5+110ba 1112e=11131+11127,11132+11127 1134b=11347+1133e,11347+11357",
   "11383=11382+113c9 11385=11384+113bb 1138e=1138b+113c2 11391=11390+113c9 113c5=113c2+113c2",
   "113c7=113c2+113b8,113c2+113c9 114bb=114b9+114ba,114b9+114b0 114be=114b9+114bd",
   "115ba=115b8+115af,115b9+115af 11938=11935+11930",
   "16121=1611e+1611e,1611e+16129,1611e+1611f,16129+1611f,1611e+16120,16121+1611f,16122+1611f",
   "16128=16121+16120 16d68=16d67+16d67,16d63+16d67,16d69+16d67"]

/-- The characters that always give way to others. -/
def replaced : ImageTable := .ofLines
  ["340=300,301 343=313,308+301 374=2b9 37e=3b 387=b7",
   "958=915+93c,916+93c,917+93c,91c+93c,921+93c,922+93c,92b+93c,92f+93c 9dc=9a1+9bc,9a2+9bc",
   "9df=9af+9bc a33=a32+a3c a36=a38+a3c a59=a16+a3c,a17+a3c,a1c+a3c a5e=a2b+a3c",
   "b5c=b21+b3c,b22+b3c f43=f42+fb7 f4d=f4c+fb7 f52=f51+fb7 f57=f56+fb7 f5c=f5b+fb7 f69=f40+fb5",
   "f73=f71+f72 f75=f71+f74,fb2+f80 f78=fb3+f80 f81=f71+f80 f93=f92+fb7 f9d=f9c+fb7 fa2=fa1+fb7",
   "fa7=fa6+fb7 fac=fab+fb7 fb9=f90+fb5 1f71=3b1+301 1f73=3b5+301 1f75=3b7+301 1f77=3b9+301",
   "1f79=3bf+301 1f7b=3c5+301 1f7d=3c9+301 1fbb=391+301 1fbe=3b9 1fc9=395+301 1fcb=397+301",
   "1fd3=3b9+308+301 1fdb=399+301 1fe3=3c5+308+301 1feb=3a5+301 1fee=a8+301,60 1ff9=39f+301",
   "1ffb=3a9+301 1ffd=b4 2000=2002,2003 2126=3a9 212a=4b,41+30a 2329=3008,3009 2adc=2add+338",
   "f900=8c48,66f4,8eca,8cc8,6ed1,4e32,53e5,9f9c,9f9c,5951,91d1,5587,5948,61f6,7669,7f85,863f",
   "f911=87ba,88f8,908f,6a02,6d1b,70d9,73de,843d,916a,99f1,4e82,5375,6b04,721b,862d,9e1e,5d50",
   "f922=6feb,85cd,8964,62c9,81d8,881f,5eca,6717,6d6a,72fc,90ce,4f86,51b7,52de,64c4,6ad3,7210",
   "f933=76e7,8001,8606,865c,8def,9732,9b6f,9dfa,788c,797f,7da0,83c9,9304,9e7f,8ad6,58df,5f04",
   "f944=7c60,807e,7262,78ca,8cc2,96f7,58d8,5c62,6a13,6dda,6f0f,7d2f,7e37,964b,52d2,808b,51dc",
   "f955=51cc,7a1c,7dbe,83f1,9675,8b80,62cf,6a02,8afe,4e39,5be7,6012,7387,7570,5317,78fb,4fbf",
   "f966=5fa9,4e0d,6ccc,6578,7d22,53c3,585e,7701,8449,8aaa,6bba,8fb0,6c88,62fe,82e5,63a0,7565",
   "f977=4eae,5169,51c9,6881,7ce7,826f,8ad2,91cf,52f5,5442,5973,5eec,65c5,6ffe,792a,95ad,9a6a",
   "f988=9e97,9ece,529b,66c6,6b77,8f62,5e74,6190,6200,649a,6f23,7149,7489,79ca,7df4,806f,8f26",
   "f999=84ee,9023,934a,5217,52a3,54bd,70c8,88c2,8aaa,5ec9,5ff5,637b,6bae,7c3e,7375,4ee4,56f9",
   "f9aa=5be7,5dba,601c,73b2,7469,7f9a,8046,9234,96f6,9748,9818,4f8b,79ae,91b4,96b8,60e1,4e86",
   "f9bb=50da,5bee,5c3f,6599,6a02,71ce,7642,84fc,907c,9f8d,6688,962e,5289,677b,67f3,6d41,6e9c",
   "f9cc=7409,7559,786b,7d10,985e,516d,622e,9678,502b,5d19,6dea,8f2a,5f8b,6144,6817,7387,9686",
   "f9dd=5229,540f,5c65,6613,674e,68a8,6ce5,7406,75e2,7f79,88cf,88e1,91cc,96e2,533f,6eba,541d",
   "f9ee=71d0,7498,85fa,96a3,9c57,9e9f,6797,6dcb,81e8,7acb,7b20,7c92,72c0,7099,8b58,4ec0,8336",
   "f9ff=523a,5207,5ea6,62d3,7cd6,5b85,6d1e,66b4,8f3b,884c,964d,898b,5ed3,5140,55c0 fa10=585a",
   "fa12=6674 fa15=51de,732a,76ca,793c,795e,7965,798f,9756,7cbe,7fbd fa20=8612 fa22=8af8",
   "fa25=9038,90fd",
   "fa2a=98ef,98fc,9928,9db4,90de,96b7,4fae,50e7,514d,52c9,52e4,5351,559d,5606,5668,5840,58a8",
   "fa3b=5c64,5c6e,6094,6168,618e,61f2,654f,65e2,6691,6885,6d77,6e1a,6f22,716e,722b,7422,7891",
   "fa4c=793e,7949,7948,7950,7956,795d,798d,798e,7a40,7a81,7bc0,7df4,7e09,7e41,7f72,8005,81ed",
   "fa5d=8279,8279,8457,8910,8996,8b01,8b39,8cd3,8d08,8fb6,9038,96e3,97ff,983b,6075,242ee,8218",
   "fa70=4e26,51b5,5168,4f80,5145,5180,52c7,52fa,559d,5555,5599,55e2,585a,58b3,5944,5954,5a62",
   "fa81=5b28,5ed2,5ed9,5f69,5fad,60d8,614e,6108,618e,6160,61f2,6234,63c4,641c,6452,6556,6674",
   "fa92=6717,671b,6756,6b79,6bba,6d41,6edb,6ecb,6f22,701e,716e,77a7,7235,72af,732a,7471,7506",
   "faa3=753b,761d,761f,76ca,76db,76f4,774a,7740,78cc,7ab1,7bc0,7c7b,7d5b,7df4,7f3e,8005,8352",
   "fab4=83ef,8779,8941,8986,8996,8abf,8af8,8acb,8b01,8afe,8aed,8b39,8b8a,8d08,8f38,9072,9199",
   "fac5=9276,967c,96e3,9756,97db,97ff,980b,983b,9b12,9f9c,2284a,22844,233d5,3b9d,4018,4039",
   "fad5=25249,25cd0,27ed3,9f43,9f8e fb1d=5d9+5b4 fb1f=5f2+5b7",
   "fb2a=5e9+5c1,5e9+5c2,5e9+5bc+5c1,5e9+5bc+5c2,5d0+5b7,5d0+5b8,5d0+5bc,5d1+5bc,5d2+5bc",
   "fb33=5d3+5bc,5d4+5bc,5d5+5bc,5d6+5bc fb38=5d8+5bc,5d9+5bc,5da+5bc,5db+5bc,5dc+5bc",
   "fb3e=5de+5bc fb40=5e0+5bc,5e1+5bc fb43=5e3+5bc,5e4+5bc",
   "fb46=5e6+5bc,5e7+5bc,5e8+5bc,5e9+5bc,5ea+5bc,5d5+5b9,5d1+5bf,5db+5bf,5e4+5bf",
   "1d15e=1d157+1d165,1d158+1d165,1d158+1d165+1d16e,1d158+1d165+1d16f,1d158+1d165+1d170",
   "1d163=1d158+1d165+1d171,1d158+1d165+1d172",
   "1d1bb=1d1b9+1d165,1d1ba+1d165,1d1b9+1d165+1d16e,1d1ba+1d165+1d16e,1d1b9+1d165+1d16f",
   "1d1c0=1d1ba+1d165+1d16f",
   "2f800=4e3d,4e38,4e41,20122,4f60,4fae,4fbb,5002,507a,5099,50e7,50cf,349e,2063a,514d,5154",
   "2f810=5164,5177,2051c,34b9,5167,518d,2054b,5197,51a4,4ecc,51ac,51b5,291df,51f5,5203,34df",
   "2f820=523b,5246,5272,5277,3515,52c7,52c9,52e4,52fa,5305,5306,5317,5349,5351,535a,5373,537d",
   "2f831=537f,537f,537f,20a2c,7070,53ca,53df,20b63,53eb,53f1,5406,549e,5438,5448,5468,54a2",
   "2f841=54f6,5510,5553,5563,5584,5584,5599,55ab,55b3,55c2,5716,5606,5717,5651,5674,5207,58ee",
   "2f852=57ce,57f4,580d,578b,5832,5831,58ac,214e4,58f2,58f7,5906,591a,5922,5962,216a8,216ea",
   "2f862=59ec,5a1b,5a27,59d8,5a66,36ee,36fc,5b08,5b3e,5b3e,219c8,5bc3,5bd8,5be7,5bf3,21b18",
   "2f872=5bff,5c06,5f53,5c22,3781,5c60,5c6e,5cc0,5c8d,21de4,5d43,21de6,5d6e,5d6b,5d7c,5de1",
   "2f882=5de2,382f,5dfd,5e28,5e3d,5e69,3862,22183,387c,5eb0,5eb3,5eb6,5eca,2a392,5efe,22331",
   "2f892=22331,8201,5f22,5f22,38c7,232b8,261da,5f62,5f6b,38e3,5f9a,5fcd,5fd7,5ff9,6081,393a",
   "2f8a2=391c,6094,226d4,60c7,6148,614c,614e,614c,617a,618e,61b2,61a4,61af,61de,61f2,61f6",
   "2f8b2=6210,621b,625d,62b1,62d4,6350,22b0c,633d,62fc,6368,6383,63e4,22bf1,6422,63c5,63a9",
   "2f8c2=3a2e,6469,647e,649d,6477,3a6c,654f,656c,2300a,65e3,66f8,6649,3b19,6691,3b08,3ae4",
   "2f8d2=5192,5195,6700,669c,80ad,43d9,6717,671b,6721,675e,6753,233c3,3b49,67fa,6785,6852",
   "2f8e2=6885,2346d,688e,681f,6914,3b9d,6942,69a3,69ea,6aa8,236a3,6adb,3c18,6b21,238a7,6b54",
   "2f8f2=3c4e,6b72,6b9f,6bba,6bbb,23a8d,21d0b,23afa,6c4e,23cbc,6cbf,6ccd,6c67,6d16,6d3e,6d77",
   "2f902=6d41,6d69,6d78,6d85,23d1e,6d34,6e2f,6e6e,3d33,6ecb,6ec7,23ed1,6df9,6f6e,23f5e,23f8e",
   "2f912=6fc6,7039,701e,701b,3d96,704a,707d,7077,70ad,20525,7145,24263,719c,243ab,7228,7235",
   "2f922=7250,24608,7280,7295,24735,24814,737a,738b,3eac,73a5,3eb8,3eb8,7447,745c,7471,7485",
   "2f932=74ca,3f1b,7524,24c36,753e,24c92,7570,2219f,7610,24fa1,24fb8,25044,3ffc,4008,76f4",
   "2f941=250f3,250f2,25119,25133,771e,771f,771f,774a,4039,778b,4046,4096,2541d,784e,788c,78cc",
   "2f951=40e3,25626,7956,2569a,256c5,798f,79eb,412f,7a40,7a4a,7a4f,2597c,25aa7,25aa7,7aee",
   "2f960=4202,25bab,7bc6,7bc9,4227,25c80,7cd2,42a0,7ce8,7ce3,7d00,25f86,7d63,4301,7dc7,7e02",
   "2f970=7e45,4334,26228,26247,4359,262d9,7f7a,2633e,7f95,7ffa,8005,264da,26523,8060,265a8",
   "2f97f=8070,2335f,43d5,80b2,8103,440b,813e,5ab5,267a7,267b5,23393,2339c,8201,8204,8f9e,446b",
   "2f98f=8291,828b,829d,52b3,82b1,82b3,82bd,82e6,26b3c,82e5,831d,8363,83ad,8323,83bd,83e7",
   "2f99f=8457,8353,83ca,83cc,83dc,26c36,26d6b,26cd5,452b,84f1,84f3,8516,273ca,8564,26f2c,455d",
   "2f9af=4561,26fb1,270d2,456b,8650,865c,8667,8669,86a9,8688,870e,86e2,8779,8728,876b,8786",
   "2f9bf=45d7,87e1,8801,45f9,8860,8863,27667,88d7,88de,4635,88fa,34bb,278ae,27966,46be,46c7",
   "2f9cf=8aa0,8aed,8b8a,8c55,27ca8,8cab,8cc1,8d1b,8d77,27f2f,20804,8dcb,8dbc,8df0,208de,8ed4",
   "2f9df=8f38,285d2,285ed,9094,90f1,9111,2872e,911b,9238,92d7,92d8,927c,93f9,9415,28bfa,958b",
   "2f9ef=4995,95b7,28d77,49e6,96c3,5db2,9723,29145,2921a,4a6e,4a76,97e0,2940a,4ab2,29496,980b",
   "2f9ff=980b,9829,295b6,98e2,4b33,9929,99a7,99c2,99fe,4bce,29b30,9b12,9c40,9cfd,4cce,4ced",
   "2fa0f=9d67,2a0ce,4cf8,2a105,2a20e,2a291,9ebb,4d56,9ef9,9efe,9f05,9f0f,9f16,9f3b,2a600"]

end CronHeatMap.Text.Composition
