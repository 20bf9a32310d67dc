import Callout.Unicode.CodeMap
import Callout.Unicode.Trait

/-!
Upper and lower case of text. Most letters map to one letter; a few map to several, and a capital
sigma at the end of a word has a lower case of its own.
-/
namespace Callout.Unicode

/-- Upper case where it is one code point. -/
def upperSingle : CodeMap := .ofText
  "61-7a>41 b5>39c e0-f6>c0 f8-fe>d8 ff>178 101~12f>100 131>49 133~137>132 13a~148>139 14b~177>14a
    17a~17e>179 17f>53 180>243 183~185>182 188>187 18c>18b 192>191 195>1f6 199>198 19a>23d 19e>220
    1a1~1a5>1a0 1a8>1a7 1ad>1ac 1b0>1af 1b4~1b6>1b3 1b9>1b8 1bd>1bc 1bf>1f7 1c5>1c4 1c6>1c4 1c8>1c7
    1c9>1c7 1cb>1ca 1cc>1ca 1ce~1dc>1cd 1dd>18e 1df~1ef>1de 1f2>1f1 1f3>1f1 1f5>1f4 1f9~21f>1f8
    223~233>222 23c>23b 23f-240>2c7e 242>241 247~24f>246 250>2c6f 251>2c6d 252>2c70 253>181 254>186
    256-257>189 259>18f 25b>190 25c>a7ab 260>193 261>a7ac 263>194 265>a78d 266>a7aa 268>197 269>196
    26a>a7ae 26b>2c62 26c>a7ad 26f>19c 271>2c6e 272>19d 275>19f 27d>2c64 280>1a6 282>a7c5 283>1a9
    287>a7b1 288>1ae 289>244 28a-28b>1b1 28c>245 292>1b7 29d>a7b2 29e>a7b0 345>399 371~373>370
    377>376 37b-37d>3fd 3ac>386 3ad-3af>388 3b1-3c1>391 3c2>3a3 3c3-3cb>3a3 3cc>38c 3cd-3ce>38e
    3d0>392 3d1>398 3d5>3a6 3d6>3a0 3d7>3cf 3d9~3ef>3d8 3f0>39a 3f1>3a1 3f2>3f9 3f3>37f 3f5>395
    3f8>3f7 3fb>3fa 430-44f>410 450-45f>400 461~481>460 48b~4bf>48a 4c2~4ce>4c1 4cf>4c0 4d1~52f>4d0
    561-586>531 10d0-10fa>1c90 10fd-10ff>1cbd 13f8-13fd>13f0 1c80>412 1c81>414 1c82>41e
    1c83-1c84>421 1c85>422 1c86>42a 1c87>462 1c88>a64a 1d79>a77d 1d7d>2c63 1d8e>a7c6 1e01~1e95>1e00
    1e9b>1e60 1ea1~1eff>1ea0 1f00-1f07>1f08 1f10-1f15>1f18 1f20-1f27>1f28 1f30-1f37>1f38
    1f40-1f45>1f48 1f51~1f57>1f59 1f60-1f67>1f68 1f70-1f71>1fba 1f72-1f75>1fc8 1f76-1f77>1fda
    1f78-1f79>1ff8 1f7a-1f7b>1fea 1f7c-1f7d>1ffa 1fb0-1fb1>1fb8 1fbe>399 1fd0-1fd1>1fd8
    1fe0-1fe1>1fe8 1fe5>1fec 214e>2132 2170-217f>2160 2184>2183 24d0-24e9>24b6 2c30-2c5f>2c00
    2c61>2c60 2c65>23a 2c66>23e 2c68~2c6c>2c67 2c73>2c72 2c76>2c75 2c81~2ce3>2c80 2cec~2cee>2ceb
    2cf3>2cf2 2d00-2d25>10a0 2d27>10c7 2d2d>10cd a641~a66d>a640 a681~a69b>a680 a723~a72f>a722
    a733~a76f>a732 a77a~a77c>a779 a77f~a787>a77e a78c>a78b a791~a793>a790 a794>a7c4 a797~a7a9>a796
    a7b5~a7c3>a7b4 a7c8~a7ca>a7c7 a7d1>a7d0 a7d7~a7d9>a7d6 a7f6>a7f5 ab53>a7b3 ab70-abbf>13a0
    ff41-ff5a>ff21 10428-1044f>10400 104d8-104fb>104b0 10597-105a1>10570 105a3-105b1>1057c
    105b3-105b9>1058c 105bb-105bc>10594 10cc0-10cf2>10c80 118c0-118df>118a0 16e60-16e7f>16e40
    1e922-1e943>1e900"

/-- Lower case where it is one code point. -/
def lowerSingle : CodeMap := .ofText
  "41-5a>61 c0-d6>e0 d8-de>f8 100~12e>101 132~136>133 139~147>13a 14a~176>14b 178>ff 179~17d>17a
    181>253 182~184>183 186>254 187>188 189-18a>256 18b>18c 18e>1dd 18f>259 190>25b 191>192 193>260
    194>263 196>269 197>268 198>199 19c>26f 19d>272 19f>275 1a0~1a4>1a1 1a6>280 1a7>1a8 1a9>283
    1ac>1ad 1ae>288 1af>1b0 1b1-1b2>28a 1b3~1b5>1b4 1b7>292 1b8>1b9 1bc>1bd 1c4>1c6 1c5>1c6 1c7>1c9
    1c8>1c9 1ca>1cc 1cb~1db>1cc 1de~1ee>1df 1f1>1f3 1f2~1f4>1f3 1f6>195 1f7>1bf 1f8~21e>1f9 220>19e
    222~232>223 23a>2c65 23b>23c 23d>19a 23e>2c66 241>242 243>180 244>289 245>28c 246~24e>247
    370~372>371 376>377 37f>3f3 386>3ac 388-38a>3ad 38c>3cc 38e-38f>3cd 391-3a1>3b1 3a3-3ab>3c3
    3cf>3d7 3d8~3ee>3d9 3f4>3b8 3f7>3f8 3f9>3f2 3fa>3fb 3fd-3ff>37b 400-40f>450 410-42f>430
    460~480>461 48a~4be>48b 4c0>4cf 4c1~4cd>4c2 4d0~52e>4d1 531-556>561 10a0-10c5>2d00 10c7>2d27
    10cd>2d2d 13a0-13ef>ab70 13f0-13f5>13f8 1c90-1cba>10d0 1cbd-1cbf>10fd 1e00~1e94>1e01 1e9e>df
    1ea0~1efe>1ea1 1f08-1f0f>1f00 1f18-1f1d>1f10 1f28-1f2f>1f20 1f38-1f3f>1f30 1f48-1f4d>1f40
    1f59~1f5f>1f51 1f68-1f6f>1f60 1f88-1f8f>1f80 1f98-1f9f>1f90 1fa8-1faf>1fa0 1fb8-1fb9>1fb0
    1fba-1fbb>1f70 1fbc>1fb3 1fc8-1fcb>1f72 1fcc>1fc3 1fd8-1fd9>1fd0 1fda-1fdb>1f76 1fe8-1fe9>1fe0
    1fea-1feb>1f7a 1fec>1fe5 1ff8-1ff9>1f78 1ffa-1ffb>1f7c 1ffc>1ff3 2126>3c9 212a>6b 212b>e5
    2132>214e 2160-216f>2170 2183>2184 24b6-24cf>24d0 2c00-2c2f>2c30 2c60>2c61 2c62>26b 2c63>1d7d
    2c64>27d 2c67~2c6b>2c68 2c6d>251 2c6e>271 2c6f>250 2c70>252 2c72>2c73 2c75>2c76 2c7e-2c7f>23f
    2c80~2ce2>2c81 2ceb~2ced>2cec 2cf2>2cf3 a640~a66c>a641 a680~a69a>a681 a722~a72e>a723
    a732~a76e>a733 a779~a77b>a77a a77d>1d79 a77e~a786>a77f a78b>a78c a78d>265 a790~a792>a791
    a796~a7a8>a797 a7aa>266 a7ab>25c a7ac>261 a7ad>26c a7ae>26a a7b0>29e a7b1>287 a7b2>29d a7b3>ab53
    a7b4~a7c2>a7b5 a7c4>a794 a7c5>282 a7c6>1d8e a7c7~a7c9>a7c8 a7d0>a7d1 a7d6~a7d8>a7d7 a7f5>a7f6
    ff21-ff3a>ff41 10400-10427>10428 104b0-104d3>104d8 10570-1057a>10597 1057c-1058a>105a3
    1058c-10592>105b3 10594-10595>105bb 10c80-10cb2>10cc0 118a0-118bf>118c0 16e40-16e5f>16e60
    1e900-1e921>1e922"

/-- Upper case where it is several code points. -/
def upperSeveral : List (Nat × List Nat) :=
  [(0xdf, [0x53, 0x53]), (0x149, [0x2bc, 0x4e]), (0x1f0, [0x4a, 0x30c]), (0x390, [0x399,
   0x308, 0x301]), (0x3b0, [0x3a5, 0x308, 0x301]), (0x587, [0x535, 0x552]), (0x1e96, [0x48,
   0x331]), (0x1e97, [0x54, 0x308]), (0x1e98, [0x57, 0x30a]), (0x1e99, [0x59, 0x30a]),
   (0x1e9a, [0x41, 0x2be]), (0x1f50, [0x3a5, 0x313]), (0x1f52, [0x3a5, 0x313, 0x300]),
   (0x1f54, [0x3a5, 0x313, 0x301]), (0x1f56, [0x3a5, 0x313, 0x342]), (0x1f80, [0x1f08,
   0x399]), (0x1f81, [0x1f09, 0x399]), (0x1f82, [0x1f0a, 0x399]), (0x1f83, [0x1f0b, 0x399]),
   (0x1f84, [0x1f0c, 0x399]), (0x1f85, [0x1f0d, 0x399]), (0x1f86, [0x1f0e, 0x399]), (0x1f87,
   [0x1f0f, 0x399]), (0x1f88, [0x1f08, 0x399]), (0x1f89, [0x1f09, 0x399]), (0x1f8a, [0x1f0a,
   0x399]), (0x1f8b, [0x1f0b, 0x399]), (0x1f8c, [0x1f0c, 0x399]), (0x1f8d, [0x1f0d, 0x399]),
   (0x1f8e, [0x1f0e, 0x399]), (0x1f8f, [0x1f0f, 0x399]), (0x1f90, [0x1f28, 0x399]), (0x1f91,
   [0x1f29, 0x399]), (0x1f92, [0x1f2a, 0x399]), (0x1f93, [0x1f2b, 0x399]), (0x1f94, [0x1f2c,
   0x399]), (0x1f95, [0x1f2d, 0x399]), (0x1f96, [0x1f2e, 0x399]), (0x1f97, [0x1f2f, 0x399]),
   (0x1f98, [0x1f28, 0x399]), (0x1f99, [0x1f29, 0x399]), (0x1f9a, [0x1f2a, 0x399]), (0x1f9b,
   [0x1f2b, 0x399]), (0x1f9c, [0x1f2c, 0x399]), (0x1f9d, [0x1f2d, 0x399]), (0x1f9e, [0x1f2e,
   0x399]), (0x1f9f, [0x1f2f, 0x399]), (0x1fa0, [0x1f68, 0x399]), (0x1fa1, [0x1f69, 0x399]),
   (0x1fa2, [0x1f6a, 0x399]), (0x1fa3, [0x1f6b, 0x399]), (0x1fa4, [0x1f6c, 0x399]), (0x1fa5,
   [0x1f6d, 0x399]), (0x1fa6, [0x1f6e, 0x399]), (0x1fa7, [0x1f6f, 0x399]), (0x1fa8, [0x1f68,
   0x399]), (0x1fa9, [0x1f69, 0x399]), (0x1faa, [0x1f6a, 0x399]), (0x1fab, [0x1f6b, 0x399]),
   (0x1fac, [0x1f6c, 0x399]), (0x1fad, [0x1f6d, 0x399]), (0x1fae, [0x1f6e, 0x399]), (0x1faf,
   [0x1f6f, 0x399]), (0x1fb2, [0x1fba, 0x399]), (0x1fb3, [0x391, 0x399]), (0x1fb4, [0x386,
   0x399]), (0x1fb6, [0x391, 0x342]), (0x1fb7, [0x391, 0x342, 0x399]), (0x1fbc, [0x391,
   0x399]), (0x1fc2, [0x1fca, 0x399]), (0x1fc3, [0x397, 0x399]), (0x1fc4, [0x389, 0x399]),
   (0x1fc6, [0x397, 0x342]), (0x1fc7, [0x397, 0x342, 0x399]), (0x1fcc, [0x397, 0x399]),
   (0x1fd2, [0x399, 0x308, 0x300]), (0x1fd3, [0x399, 0x308, 0x301]), (0x1fd6, [0x399,
   0x342]), (0x1fd7, [0x399, 0x308, 0x342]), (0x1fe2, [0x3a5, 0x308, 0x300]), (0x1fe3,
   [0x3a5, 0x308, 0x301]), (0x1fe4, [0x3a1, 0x313]), (0x1fe6, [0x3a5, 0x342]), (0x1fe7,
   [0x3a5, 0x308, 0x342]), (0x1ff2, [0x1ffa, 0x399]), (0x1ff3, [0x3a9, 0x399]), (0x1ff4,
   [0x38f, 0x399]), (0x1ff6, [0x3a9, 0x342]), (0x1ff7, [0x3a9, 0x342, 0x399]), (0x1ffc,
   [0x3a9, 0x399]), (0xfb00, [0x46, 0x46]), (0xfb01, [0x46, 0x49]), (0xfb02, [0x46, 0x4c]),
   (0xfb03, [0x46, 0x46, 0x49]), (0xfb04, [0x46, 0x46, 0x4c]), (0xfb05, [0x53, 0x54]),
   (0xfb06, [0x53, 0x54]), (0xfb13, [0x544, 0x546]), (0xfb14, [0x544, 0x535]), (0xfb15,
   [0x544, 0x53b]), (0xfb16, [0x54e, 0x546]), (0xfb17, [0x544, 0x53d])]

/-- Lower case where it is several code points. -/
def lowerSeveral : List (Nat × List Nat) :=
  [(0x130, [0x69, 0x307])]

/-- The upper case of a character. -/
def upper (c : Char) : List Char :=
  match upperSeveral.lookup c.toNat with
  | some several => several.map Char.ofNat
  | none => [Char.ofNat (upperSingle.apply c.toNat)]

/-- The lower case of a character by itself. -/
def lower (c : Char) : List Char :=
  match lowerSeveral.lookup c.toNat with
  | some several => several.map Char.ofNat
  | none => [Char.ofNat (lowerSingle.apply c.toNat)]

/-- Whether the nearest character that does not count for word ends is a letter with case. -/
private def nextIsCased (text : List Char) : Bool :=
  match text.dropWhile caseIgnorable.table.has with
  | [] => false
  | c :: _ => cased.table.has c

/-- Lower case of a text, given what stands before it, nearest first. -/
private def lowerFrom (before : List Char) : List Char → List Char
  | [] => []
  | c :: rest =>
    let image :=
      if c = 'Σ' then (if nextIsCased before && !nextIsCased rest then ['ς'] else ['σ']) else lower c
    image ++ lowerFrom (c :: before) rest

/-- The upper case of a text. -/
def upperText (text : String) : String := String.ofList (text.toList.flatMap upper)

/-- The lower case of a text; a capital sigma that ends a word becomes the final small sigma. -/
def lowerText (text : String) : String := String.ofList (lowerFrom [] text.toList)

end Callout.Unicode
