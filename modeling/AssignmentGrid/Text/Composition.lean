import AssignmentGrid.Text.CharRange

/-!
# Composed characters

A letter with marks can be one character or several. The composed form of a text has as few as
possible: marks that do not touch each other stand in the order of their classes, and what can be
one character is one. The syllables of Hangul are composed by arithmetic, everything else by a
table.
-/

namespace AssignmentGrid.Text

/-! ## Classes of marks -/

/-- The classes of marks: the number of a class, a colon and its characters, divided by
commas. -/
def markClassRows : List String :=
  ["1:334-338,1cd4,1ce2-1ce8,20d2-20d3,20d8-20da,20e5-20e6,20ea-20eb,10a39,16af0-16af4,1bc9e",
   "1:1d167-1d169 6:16ff0-16ff1",
   "7:93c,9bc,a3c,abc,b3c,c3c,cbc,1037,1b34,1be6,1c37,a9b3,110ba,11173,111ca,11236,112e9",
   "7:1133b-1133c,11446,114c3,115c0,116b7,1183a,11943,11d42,1e94a 8:3099-309a",
   "9:94d,9cd,a4d,acd,b4d,bcd,c4d,ccd,d3b-d3c,d4d,dca,e3a,eba,f84,1039-103a,1714-1715,1734",
   "9:17d2,1a60,1b44,1baa-1bab,1bf2-1bf3,2d7f,a806,a82c,a8c4,a953,a9c0,aaf6,abed,10a3f,11046",
   "9:11070,1107f,110b9,11133-11134,111c0,11235,112ea,1134d,113ce-113d0,11442,114c2,115bf",
   "9:1163f,116b6,1172b,11839,1193d-1193e,119e0,11a34,11a47,11a99,11c3f,11d44-11d45,11d97",
   "9:11f41-11f42,1612f 10:5b0 11:5b1 12:5b2 13:5b3 14:5b4 15:5b5 16:5b6 17:5b7 18:5b8,5c7",
   "19:5b9-5ba 20:5bb 21:5bc 22:5bd 23:5bf 24:5c1 25:5c2 26:fb1e 27:64b,8f0 28:64c,8f1 29:64d,8f2",
   "30:618,64e 31:619,64f 32:61a,650 33:651 34:652 35:670 36:711 84:c55 91:c56 103:e38-e39",
   "107:e48-e4b 118:eb8-eb9 122:ec8-ecb 129:f71 130:f72,f7a-f7d,f80 132:f74",
   "202:321-322,327-328,1dd0 214:1dce 216:31b,f39,1d165-1d166,1d16e-1d172 218:1dfa,302a",
   "220:316-319,31c-320,323-326,329-333,339-33c,347-349,34d-34e,353-356,359-35a,591,596,59b",
   "220:5a2-5a7,5aa,5c5,655-656,65c,65f,6e3,6ea,6ed,731,734,737-739,73b-73c,73e,742,744,746",
   "220:748,7f2,7fd,859-85b,899-89b,8cf-8d3,8e3,8e6,8e9,8ed-8ef,8f6,8f9-8fa,952,f18-f19,f35",
   "220:f37,fc6,108d,193b,1a18,1a7f,1ab5-1aba,1abd,1abf-1ac0,1ac3-1ac4,1aca,1add,1ae6,1b6c",
   "220:1cd5-1cd9,1cdc-1cdf,1ced,1dc2,1dca,1dcf,1df9,1dfd,1dff,20e8,20ec-20ef,a92b-a92d,aab4",
   "220:fe27-fe2d,101fd,102e0,10a0d,10a3a,10ae6,10efa-10efb,10efd-10eff,10f46-10f47,10f4b",
   "220:10f4d-10f50,10f83,10f85,1d17b-1d182,1d18a-1d18b,1e4ee,1e5ef,1e8d0-1e8d6",
   "222:59a,5ad,1939,302d 224:302e-302f 226:1d16d 228:5ae,18a9,1df7-1df8,302b",
   "230:300-314,33d-342,346,34a-34c,350-352,357,35b,363-36f,483-487,592-595,597-599,59c-5a1",
   "230:5a8-5a9,5ab-5ac,5af,5c4,610-617,653-654,657-65b,65d-65e,6d6-6dc,6df-6e2,6e4,6e7-6e8",
   "230:6eb-6ec,730,732-733,735-736,73a,73d,73f-741,743,745,747,749-74a,7eb-7f1,7f3,816-819",
   "230:81b-823,825-827,829-82d,897-898,89c-89f,8ca-8ce,8d4-8e1,8e4-8e5,8e7-8e8,8ea-8ec",
   "230:8f3-8f5,8f7-8f8,8fb-8ff,951,953-954,9fe,f82-f83,f86-f87,135d-135f,17dd,193a,1a17",
   "230:1a75-1a7c,1ab0-1ab4,1abb-1abc,1ac1-1ac2,1ac5-1ac9,1acb-1adc,1ae0-1ae5,1ae7-1aea,1b6b",
   "230:1b6d-1b73,1cd0-1cd2,1cda-1cdb,1ce0,1cf4,1cf8-1cf9,1dc0-1dc1,1dc3-1dc9,1dcb-1dcc",
   "230:1dd1-1df5,1dfb,1dfe,20d0-20d1,20d4-20d7,20db-20dc,20e1,20e7,20e9,20f0,2cef-2cf1",
   "230:2de0-2dff,a66f,a674-a67d,a69e-a69f,a6f0-a6f1,a8e0-a8f1,aab0,aab2-aab3,aab7-aab8",
   "230:aabe-aabf,aac1,fe20-fe26,fe2e-fe2f,10376-1037a,10a0f,10a38,10ae5,10d24-10d27",
   "230:10d69-10d6d,10eab-10eac,10f48-10f4a,10f4c,10f82,10f84,11100-11102,11366-11374,1145e",
   "230:16b30-16b36,1d185-1d189,1d1aa-1d1ad,1d242-1d244,1e000-1e08f,1e130-1e136,1e2ae",
   "230:1e2ec-1e2ef,1e4ef,1e5ee,1e6e3,1e6e6,1e6ee-1e6ef,1e6f5,1e944-1e949",
   "232:315,31a,358,1df6,302c,1e4ec-1e4ed 233:35c,35f,362,1dfc 234:35d-35e,360-361,1aeb,1dcd",
   "240:345"]

/-- The classes of marks and their characters. -/
def markClasses : List (Nat × List CharRange) :=
  (entries markClassRows).map fun entry =>
    match pieces ':' entry with
    | number :: rest =>
      ((String.ofList number).toNat?.getD 0,
        rest.flatMap fun members => (pieces ',' members).map CharRange.ofText)
    | [] => (0, [])

/-- The class of a character: zero, unless it is a mark that can be reordered. -/
def markClass (c : Char) : Nat :=
  ((markClasses.find? fun entry => inRanges entry.2 c).map Prod.fst).getD 0

/-! ## Pairs of characters that are one -/

/-- The pairs that are one character: the second one, a colon, and the first ones with what they
become, divided by commas. -/
def pairRows : List String :=
  ["300:41>c0,45>c8,49>cc,4f>d2,55>d9,61>e0,65>e8,69>ec,6f>f2,75>f9,dc>1db,fc>1dc,4e>1f8",
   "300:6e>1f9,415>400,418>40d,435>450,438>45d,112>1e14,113>1e15,14c>1e50,14d>1e51,57>1e80",
   "300:77>1e81,c2>1ea6,e2>1ea7,102>1eb0,103>1eb1,ca>1ec0,ea>1ec1,d4>1ed2,f4>1ed3,1a0>1edc",
   "300:1a1>1edd,1af>1eea,1b0>1eeb,59>1ef2,79>1ef3,1f00>1f02,1f01>1f03,1f08>1f0a,1f09>1f0b",
   "300:1f10>1f12,1f11>1f13,1f18>1f1a,1f19>1f1b,1f20>1f22,1f21>1f23,1f28>1f2a,1f29>1f2b",
   "300:1f30>1f32,1f31>1f33,1f38>1f3a,1f39>1f3b,1f40>1f42,1f41>1f43,1f48>1f4a,1f49>1f4b",
   "300:1f50>1f52,1f51>1f53,1f59>1f5b,1f60>1f62,1f61>1f63,1f68>1f6a,1f69>1f6b,3b1>1f70",
   "300:3b5>1f72,3b7>1f74,3b9>1f76,3bf>1f78,3c5>1f7a,3c9>1f7c,391>1fba,395>1fc8,397>1fca",
   "300:1fbf>1fcd,3ca>1fd2,399>1fda,1ffe>1fdd,3cb>1fe2,3a5>1fea,a8>1fed,39f>1ff8,3a9>1ffa",
   "301:41>c1,45>c9,49>cd,4f>d3,55>da,59>dd,61>e1,65>e9,69>ed,6f>f3,75>fa,79>fd,43>106",
   "301:63>107,4c>139,6c>13a,4e>143,6e>144,52>154,72>155,53>15a,73>15b,5a>179,7a>17a,dc>1d7",
   "301:fc>1d8,47>1f4,67>1f5,c5>1fa,e5>1fb,c6>1fc,e6>1fd,d8>1fe,f8>1ff,a8>385,391>386",
   "301:395>388,397>389,399>38a,39f>38c,3a5>38e,3a9>38f,3ca>390,3b1>3ac,3b5>3ad,3b7>3ae",
   "301:3b9>3af,3cb>3b0,3bf>3cc,3c5>3cd,3c9>3ce,3d2>3d3,413>403,41a>40c,433>453,43a>45c",
   "301:c7>1e08,e7>1e09,112>1e16,113>1e17,cf>1e2e,ef>1e2f,4b>1e30,6b>1e31,4d>1e3e,6d>1e3f",
   "301:d5>1e4c,f5>1e4d,14c>1e52,14d>1e53,50>1e54,70>1e55,168>1e78,169>1e79,57>1e82,77>1e83",
   "301:c2>1ea4,e2>1ea5,102>1eae,103>1eaf,ca>1ebe,ea>1ebf,d4>1ed0,f4>1ed1,1a0>1eda,1a1>1edb",
   "301:1af>1ee8,1b0>1ee9,1f00>1f04,1f01>1f05,1f08>1f0c,1f09>1f0d,1f10>1f14,1f11>1f15",
   "301:1f18>1f1c,1f19>1f1d,1f20>1f24,1f21>1f25,1f28>1f2c,1f29>1f2d,1f30>1f34,1f31>1f35",
   "301:1f38>1f3c,1f39>1f3d,1f40>1f44,1f41>1f45,1f48>1f4c,1f49>1f4d,1f50>1f54,1f51>1f55",
   "301:1f59>1f5d,1f60>1f64,1f61>1f65,1f68>1f6c,1f69>1f6d,1fbf>1fce,1ffe>1fde",
   "302:41>c2,45>ca,49>ce,4f>d4,55>db,61>e2,65>ea,69>ee,6f>f4,75>fb,43>108,63>109,47>11c",
   "302:67>11d,48>124,68>125,4a>134,6a>135,53>15c,73>15d,57>174,77>175,59>176,79>177,5a>1e90",
   "302:7a>1e91,1ea0>1eac,1ea1>1ead,1eb8>1ec6,1eb9>1ec7,1ecc>1ed8,1ecd>1ed9",
   "303:41>c3,4e>d1,4f>d5,61>e3,6e>f1,6f>f5,49>128,69>129,55>168,75>169,56>1e7c,76>1e7d",
   "303:c2>1eaa,e2>1eab,102>1eb4,103>1eb5,45>1ebc,65>1ebd,ca>1ec4,ea>1ec5,d4>1ed6,f4>1ed7",
   "303:1a0>1ee0,1a1>1ee1,1af>1eee,1b0>1eef,59>1ef8,79>1ef9",
   "304:41>100,61>101,45>112,65>113,49>12a,69>12b,4f>14c,6f>14d,55>16a,75>16b,dc>1d5,fc>1d6",
   "304:c4>1de,e4>1df,226>1e0,227>1e1,c6>1e2,e6>1e3,1ea>1ec,1eb>1ed,d6>22a,f6>22b,d5>22c",
   "304:f5>22d,22e>230,22f>231,59>232,79>233,418>4e2,438>4e3,423>4ee,443>4ef,47>1e20,67>1e21",
   "304:1e36>1e38,1e37>1e39,1e5a>1e5c,1e5b>1e5d,3b1>1fb1,391>1fb9,3b9>1fd1,399>1fd9,3c5>1fe1",
   "304:3a5>1fe9",
   "306:41>102,61>103,45>114,65>115,47>11e,67>11f,49>12c,69>12d,4f>14e,6f>14f,55>16c,75>16d",
   "306:423>40e,418>419,438>439,443>45e,416>4c1,436>4c2,410>4d0,430>4d1,415>4d6,435>4d7",
   "306:228>1e1c,229>1e1d,1ea0>1eb6,1ea1>1eb7,3b1>1fb0,391>1fb8,3b9>1fd0,399>1fd8,3c5>1fe0",
   "306:3a5>1fe8",
   "307:43>10a,63>10b,45>116,65>117,47>120,67>121,49>130,5a>17b,7a>17c,41>226,61>227,4f>22e",
   "307:6f>22f,42>1e02,62>1e03,44>1e0a,64>1e0b,46>1e1e,66>1e1f,48>1e22,68>1e23,4d>1e40",
   "307:6d>1e41,4e>1e44,6e>1e45,50>1e56,70>1e57,52>1e58,72>1e59,53>1e60,73>1e61,15a>1e64",
   "307:15b>1e65,160>1e66,161>1e67,1e62>1e68,1e63>1e69,54>1e6a,74>1e6b,57>1e86,77>1e87",
   "307:58>1e8a,78>1e8b,59>1e8e,79>1e8f,17f>1e9b,105d2>105c9,105da>105e4",
   "308:41>c4,45>cb,49>cf,4f>d6,55>dc,61>e4,65>eb,69>ef,6f>f6,75>fc,79>ff,59>178,399>3aa",
   "308:3a5>3ab,3b9>3ca,3c5>3cb,3d2>3d4,415>401,406>407,435>451,456>457,410>4d2,430>4d3",
   "308:4d8>4da,4d9>4db,416>4dc,436>4dd,417>4de,437>4df,418>4e4,438>4e5,41e>4e6,43e>4e7",
   "308:4e8>4ea,4e9>4eb,42d>4ec,44d>4ed,423>4f0,443>4f1,427>4f4,447>4f5,42b>4f8,44b>4f9",
   "308:48>1e26,68>1e27,d5>1e4e,f5>1e4f,16a>1e7a,16b>1e7b,57>1e84,77>1e85,58>1e8c,78>1e8d",
   "308:74>1e97",
   "309:41>1ea2,61>1ea3,c2>1ea8,e2>1ea9,102>1eb2,103>1eb3,45>1eba,65>1ebb,ca>1ec2,ea>1ec3",
   "309:49>1ec8,69>1ec9,4f>1ece,6f>1ecf,d4>1ed4,f4>1ed5,1a0>1ede,1a1>1edf,55>1ee6,75>1ee7",
   "309:1af>1eec,1b0>1eed,59>1ef6,79>1ef7 30a:41>c5,61>e5,55>16e,75>16f,77>1e98,79>1e99",
   "30b:4f>150,6f>151,55>170,75>171,423>4f2,443>4f3",
   "30c:43>10c,63>10d,44>10e,64>10f,45>11a,65>11b,4c>13d,6c>13e,4e>147,6e>148,52>158,72>159",
   "30c:53>160,73>161,54>164,74>165,5a>17d,7a>17e,41>1cd,61>1ce,49>1cf,69>1d0,4f>1d1,6f>1d2",
   "30c:55>1d3,75>1d4,dc>1d9,fc>1da,47>1e6,67>1e7,4b>1e8,6b>1e9,1b7>1ee,292>1ef,6a>1f0",
   "30c:48>21e,68>21f",
   "30f:41>200,61>201,45>204,65>205,49>208,69>209,4f>20c,6f>20d,52>210,72>211,55>214,75>215",
   "30f:474>476,475>477",
   "311:41>202,61>203,45>206,65>207,49>20a,69>20b,4f>20e,6f>20f,52>212,72>213,55>216,75>217",
   "313:3b1>1f00,391>1f08,3b5>1f10,395>1f18,3b7>1f20,397>1f28,3b9>1f30,399>1f38,3bf>1f40",
   "313:39f>1f48,3c5>1f50,3c9>1f60,3a9>1f68,3c1>1fe4",
   "314:3b1>1f01,391>1f09,3b5>1f11,395>1f19,3b7>1f21,397>1f29,3b9>1f31,399>1f39,3bf>1f41",
   "314:39f>1f49,3c5>1f51,3a5>1f59,3c9>1f61,3a9>1f69,3c1>1fe5,3a1>1fec",
   "31b:4f>1a0,6f>1a1,55>1af,75>1b0",
   "323:42>1e04,62>1e05,44>1e0c,64>1e0d,48>1e24,68>1e25,4b>1e32,6b>1e33,4c>1e36,6c>1e37",
   "323:4d>1e42,6d>1e43,4e>1e46,6e>1e47,52>1e5a,72>1e5b,53>1e62,73>1e63,54>1e6c,74>1e6d",
   "323:56>1e7e,76>1e7f,57>1e88,77>1e89,5a>1e92,7a>1e93,41>1ea0,61>1ea1,45>1eb8,65>1eb9",
   "323:49>1eca,69>1ecb,4f>1ecc,6f>1ecd,1a0>1ee2,1a1>1ee3,55>1ee4,75>1ee5,1af>1ef0,1b0>1ef1",
   "323:59>1ef4,79>1ef5 324:55>1e72,75>1e73 325:41>1e00,61>1e01 326:53>218,73>219,54>21a,74>21b",
   "327:43>c7,63>e7,47>122,67>123,4b>136,6b>137,4c>13b,6c>13c,4e>145,6e>146,52>156,72>157",
   "327:53>15e,73>15f,54>162,74>163,45>228,65>229,44>1e10,64>1e11,48>1e28,68>1e29",
   "328:41>104,61>105,45>118,65>119,49>12e,69>12f,55>172,75>173,4f>1ea,6f>1eb",
   "32d:44>1e12,64>1e13,45>1e18,65>1e19,4c>1e3c,6c>1e3d,4e>1e4a,6e>1e4b,54>1e70,74>1e71",
   "32d:55>1e76,75>1e77 32e:48>1e2a,68>1e2b 330:45>1e1a,65>1e1b,49>1e2c,69>1e2d,55>1e74,75>1e75",
   "331:42>1e06,62>1e07,44>1e0e,64>1e0f,4b>1e34,6b>1e35,4c>1e3a,6c>1e3b,4e>1e48,6e>1e49",
   "331:52>1e5e,72>1e5f,54>1e6e,74>1e6f,5a>1e94,7a>1e95,68>1e96",
   "338:2190>219a,2192>219b,2194>21ae,21d0>21cd,21d4>21ce,21d2>21cf,2203>2204,2208>2209",
   "338:220b>220c,2223>2224,2225>2226,223c>2241,2243>2244,2245>2247,2248>2249,3d>2260",
   "338:2261>2262,224d>226d,3c>226e,3e>226f,2264>2270,2265>2271,2272>2274,2273>2275",
   "338:2276>2278,2277>2279,227a>2280,227b>2281,2282>2284,2283>2285,2286>2288,2287>2289",
   "338:22a2>22ac,22a8>22ad,22a9>22ae,22ab>22af,227c>22e0,227d>22e1,2291>22e2,2292>22e3",
   "338:22b2>22ea,22b3>22eb,22b4>22ec,22b5>22ed",
   "342:1f00>1f06,1f01>1f07,1f08>1f0e,1f09>1f0f,1f20>1f26,1f21>1f27,1f28>1f2e,1f29>1f2f",
   "342:1f30>1f36,1f31>1f37,1f38>1f3e,1f39>1f3f,1f50>1f56,1f51>1f57,1f59>1f5f,1f60>1f66",
   "342:1f61>1f67,1f68>1f6e,1f69>1f6f,3b1>1fb6,a8>1fc1,3b7>1fc6,1fbf>1fcf,3b9>1fd6,3ca>1fd7",
   "342:1ffe>1fdf,3c5>1fe6,3cb>1fe7,3c9>1ff6",
   "345:1f00>1f80,1f01>1f81,1f02>1f82,1f03>1f83,1f04>1f84,1f05>1f85,1f06>1f86,1f07>1f87",
   "345:1f08>1f88,1f09>1f89,1f0a>1f8a,1f0b>1f8b,1f0c>1f8c,1f0d>1f8d,1f0e>1f8e,1f0f>1f8f",
   "345:1f20>1f90,1f21>1f91,1f22>1f92,1f23>1f93,1f24>1f94,1f25>1f95,1f26>1f96,1f27>1f97",
   "345:1f28>1f98,1f29>1f99,1f2a>1f9a,1f2b>1f9b,1f2c>1f9c,1f2d>1f9d,1f2e>1f9e,1f2f>1f9f",
   "345:1f60>1fa0,1f61>1fa1,1f62>1fa2,1f63>1fa3,1f64>1fa4,1f65>1fa5,1f66>1fa6,1f67>1fa7",
   "345:1f68>1fa8,1f69>1fa9,1f6a>1faa,1f6b>1fab,1f6c>1fac,1f6d>1fad,1f6e>1fae,1f6f>1faf",
   "345:1f70>1fb2,3b1>1fb3,3ac>1fb4,1fb6>1fb7,391>1fbc,1f74>1fc2,3b7>1fc3,3ae>1fc4,1fc6>1fc7",
   "345:397>1fcc,1f7c>1ff2,3c9>1ff3,3ce>1ff4,1ff6>1ff7,3a9>1ffc 653:627>622",
   "654:627>623,648>624,64a>626,6d5>6c0,6c1>6c2,6d2>6d3 655:627>625 93c:928>929,930>931,933>934",
   "9be:9c7>9cb 9d7:9c7>9cc b3e:b47>b4b b56:b47>b48 b57:b47>b4c bbe:bc6>bca,bc7>bcb",
   "bd7:b92>b94,bc6>bcc c56:c46>c48 cc2:cc6>cca cd5:cbf>cc0,cc6>cc7,cca>ccb cd6:cc6>cc8",
   "d3e:d46>d4a,d47>d4b d57:d46>d4c dca:dd9>dda,ddc>ddd dcf:dd9>ddc ddf:dd9>dde 102e:1025>1026",
   "1b35:1b05>1b06,1b07>1b08,1b09>1b0a,1b0b>1b0c,1b0d>1b0e,1b11>1b12,1b3a>1b3b,1b3c>1b3d",
   "1b35:1b3e>1b40,1b3f>1b41,1b42>1b43",
   "3099:304b>304c,304d>304e,304f>3050,3051>3052,3053>3054,3055>3056,3057>3058,3059>305a",
   "3099:305b>305c,305d>305e,305f>3060,3061>3062,3064>3065,3066>3067,3068>3069,306f>3070",
   "3099:3072>3073,3075>3076,3078>3079,307b>307c,3046>3094,309d>309e,30ab>30ac,30ad>30ae",
   "3099:30af>30b0,30b1>30b2,30b3>30b4,30b5>30b6,30b7>30b8,30b9>30ba,30bb>30bc,30bd>30be",
   "3099:30bf>30c0,30c1>30c2,30c4>30c5,30c6>30c7,30c8>30c9,30cf>30d0,30d2>30d3,30d5>30d6",
   "3099:30d8>30d9,30db>30dc,30a6>30f4,30ef>30f7,30f0>30f8,30f1>30f9,30f2>30fa,30fd>30fe",
   "309a:306f>3071,3072>3074,3075>3077,3078>307a,307b>307d,30cf>30d1,30d2>30d4,30d5>30d7",
   "309a:30d8>30da,30db>30dd 110ba:11099>1109a,1109b>1109c,110a5>110ab",
   "11127:11131>1112e,11132>1112f 1133e:11347>1134b 11357:11347>1134c 113b8:113c2>113c7",
   "113bb:11384>11385 113c2:1138b>1138e,113c2>113c5 113c9:11382>11383,11390>11391,113c2>113c8",
   "114b0:114b9>114bc 114ba:114b9>114bb 114bd:114b9>114be 115af:115b8>115ba,115b9>115bb",
   "11930:11935>11938 1611e:1611e>16121 1611f:1611e>16123,16129>16124,16121>16126,16122>16127",
   "16120:1611e>16125,16121>16128 16129:1611e>16122 16d67:16d67>16d68,16d63>16d69,16d69>16d6a"]

/-- The pairs that are one character, with what they are. -/
def pairs : List ((Char × Char) × Char) :=
  (entries pairRows).flatMap fun entry =>
    match pieces ':' entry with
    | [second, firsts] =>
      (pieces ',' firsts).map fun item =>
        let numbers := (pieces '>' item).map CharRange.number
        ((Char.ofNat (numbers.headD 0), Char.ofNat (CharRange.number second)),
          Char.ofNat (numbers.getLastD 0))
    | _ => []

/-- The number of leading consonants, vowels and trailing consonants of Hangul, the last with one
more for their absence. -/
def hangulCounts : Nat × Nat × Nat := (19, 21, 28)

/-- A syllable of Hangul taken apart into a shorter one or a consonant, and the last sound. -/
def splitHangul? (c : Char) : Option (Char × Char) :=
  let (leads, vowels, trails) := hangulCounts
  let index := c.toNat - 0xAC00
  if c.toNat < 0xAC00 || leads * vowels * trails ≤ index then none
  else if index % trails = 0 then
    some (Char.ofNat (0x1100 + index / trails / vowels),
      Char.ofNat (0x1161 + index / trails % vowels))
  else some (Char.ofNat (c.toNat - index % trails), Char.ofNat (0x11A7 + index % trails))

/-- A syllable of Hangul put together. -/
def joinHangul? (a b : Char) : Option Char :=
  let (leads, vowels, trails) := hangulCounts
  let lead := a.toNat - 0x1100
  let vowel := b.toNat - 0x1161
  let trail := b.toNat - 0x11A7
  let index := a.toNat - 0xAC00
  if 0x1100 ≤ a.toNat && lead < leads && 0x1161 ≤ b.toNat && vowel < vowels then
    some (Char.ofNat (0xAC00 + (lead * vowels + vowel) * trails))
  else if 0xAC00 ≤ a.toNat && index < leads * vowels * trails && index % trails = 0 &&
      0x11A7 < b.toNat && trail < trails then
    some (Char.ofNat (a.toNat + trail))
  else none

/-- A character taken apart. -/
def split? (c : Char) : Option (Char × Char) :=
  match splitHangul? c with
  | some pair => some pair
  | none => (pairs.find? fun entry => entry.2 == c).map Prod.fst

/-- Two characters put together. -/
def join? (a b : Char) : Option Char :=
  match joinHangul? a b with
  | some c => some c
  | none => pairs.lookup (a, b)

/-! ## The composed form -/

/-- Every character taken apart once. -/
def splitAll (cs : List Char) : List Char :=
  cs.flatMap fun c => match split? c with
    | some (a, b) => [a, b]
    | none => [c]

/-- A text taken apart. No character is put together in more than four steps. -/
def decompose (cs : List Char) : List Char := splitAll (splitAll (splitAll (splitAll cs)))

/-- Put a character behind the characters so far, which stand last first, and in front of marks
of greater classes. -/
def place (c : Char) : List Char → List Char
  | [] => [c]
  | d :: ds =>
    if markClass c ≠ 0 ∧ markClass c < markClass d then d :: place c ds else c :: d :: ds

/-- A text with its marks in the order of their classes. -/
def order (cs : List Char) : List Char := (cs.foldl (fun done c => place c done) []).reverse

/-- Put characters together where that can be done. In front of the characters stand a first one,
if there has been any, and the marks behind it that were not put together with it. -/
def joinAll (first? : Option Char) (marks : List Char) : List Char → List Char
  | [] => first?.toList ++ marks
  | c :: cs =>
    let isNear := match marks.getLast? with
      | some mark => decide (markClass mark < markClass c)
      | none => true
    match first?.bind fun first => if isNear then join? first c else none with
    | some joined => joinAll (some joined) marks cs
    | none =>
      if markClass c = 0 then first?.toList ++ marks ++ joinAll (some c) [] cs
      else joinAll first? (marks ++ [c]) cs

/-- The composed form of a text. -/
def compose (cs : List Char) : List Char := joinAll none [] (order (decompose cs))

end AssignmentGrid.Text
