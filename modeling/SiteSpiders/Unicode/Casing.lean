import SiteSpiders.Text.CharSet
import SiteSpiders.Unicode.Property

/-!
# Case

Lower-casing of whole texts, and the classes of characters that differ only in
case. A shift `a-b+d` moves every code point from `a` to `b` up by `d`, `~` moves
it down, and `a/b` takes every second code point only.
-/
namespace SiteSpiders.Unicode

open SiteSpiders.Text (CharSet ShiftTable)

/-- Lower-case forms that are one character long. -/
def lowerShifts : ShiftTable :=
  ShiftTable.ofText
   "41-5a+20 c0-d6+20 d8-de+20 100/12e+1 132/136+1 139/147+1 14a/176+1 178~79 179/17d+1 181+d2
   182/184+1 186+ce 187+1 189-18a+cd 18b+1 18e+4f 18f+ca 190+cb 191+1 193+cd 194+cf 196+d3
   197+d1 198+1 19c+d3 19d+d5 19f+d6 1a0/1a4+1 1a6+da 1a7+1 1a9+da 1ac+1 1ae+da 1af+1
   1b1-1b2+d9 1b3/1b5+1 1b7+db 1b8+1 1bc+1 1c4+2 1c5+1 1c7+2 1c8+1 1ca+2 1cb/1db+1 1de/1ee+1
   1f1+2 1f2/1f4+1 1f6~61 1f7~38 1f8/21e+1 220~82 222/232+1 23a+2a2b 23b+1 23d~a3 23e+2a28
   241+1 243~c3 244+45 245+47 246/24e+1 370/372+1 376+1 37f+74 386+26 388-38a+25 38c+40
   38e-38f+3f 391-3a1+20 3a3-3ab+20 3cf+8 3d8/3ee+1 3f4~3c 3f7+1 3f9~7 3fa+1 3fd-3ff~82
   400-40f+50 410-42f+20 460/480+1 48a/4be+1 4c0+f 4c1/4cd+1 4d0/52e+1 531-556+30
   10a0-10c5+1c60 10c7+1c60 10cd+1c60 13a0-13ef+97d0 13f0-13f5+8 1c89+1 1c90-1cba~bc0
   1cbd-1cbf~bc0 1e00/1e94+1 1e9e~1dbf 1ea0/1efe+1 1f08-1f0f~8 1f18-1f1d~8 1f28-1f2f~8
   1f38-1f3f~8 1f48-1f4d~8 1f59/1f5f~8 1f68-1f6f~8 1f88-1f8f~8 1f98-1f9f~8 1fa8-1faf~8
   1fb8-1fb9~8 1fba-1fbb~4a 1fbc~9 1fc8-1fcb~56 1fcc~9 1fd8-1fd9~8 1fda-1fdb~64 1fe8-1fe9~8
   1fea-1feb~70 1fec~7 1ff8-1ff9~80 1ffa-1ffb~7e 1ffc~9 2126~1d5d 212a~20bf 212b~2046 2132+1c
   2160-216f+10 2183+1 24b6-24cf+1a 2c00-2c2f+30 2c60+1 2c62~29f7 2c63~ee6 2c64~29e7
   2c67/2c6b+1 2c6d~2a1c 2c6e~29fd 2c6f~2a1f 2c70~2a1e 2c72+1 2c75+1 2c7e-2c7f~2a3f
   2c80/2ce2+1 2ceb/2ced+1 2cf2+1 a640/a66c+1 a680/a69a+1 a722/a72e+1 a732/a76e+1 a779/a77b+1
   a77d~8a04 a77e/a786+1 a78b+1 a78d~a528 a790/a792+1 a796/a7a8+1 a7aa~a544 a7ab~a54f
   a7ac~a54b a7ad~a541 a7ae~a544 a7b0~a512 a7b1~a52a a7b2~a515 a7b3+3a0 a7b4/a7c2+1 a7c4~30
   a7c5~a543 a7c6~8a38 a7c7/a7c9+1 a7cb~a567 a7cc/a7da+1 a7dc~a641 a7f5+1 ff21-ff3a+20
   10400-10427+28 104b0-104d3+28 10570-1057a+27 1057c-1058a+27 1058c-10592+27 10594-10595+27
   10c80-10cb2+40 10d50-10d65+20 118a0-118bf+20 16e40-16e5f+20 16ea0-16eb8+1b 1e900-1e921+22"

/-- Pairs of characters that differ only in case. -/
def casePairs : ShiftTable :=
  ShiftTable.ofText
   "41-4a+20 4c-52+20 54-5a+20 c0-c4+20 c6-d6+20 d8-de+20 df+1dbf ff+79 100/12e+1 132/136+1
   139/147+1 14a/176+1 179/17d+1 180+c3 181+d2 182/184+1 186+ce 187+1 189-18a+cd 18b+1 18e+4f
   18f+ca 190+cb 191+1 193+cd 194+cf 195+61 196+d3 197+d1 198+1 19a+a3 19b+a641 19c+d3 19d+d5
   19e+82 19f+d6 1a0/1a4+1 1a6+da 1a7+1 1a9+da 1ac+1 1ae+da 1af+1 1b1-1b2+d9 1b3/1b5+1 1b7+db
   1b8+1 1bc+1 1bf+38 1cd/1db+1 1de/1ee+1 1f4+1 1f8/21e+1 222/232+1 23a+2a2b 23b+1 23e+2a28
   23f-240+2a3f 241+1 244+45 245+47 246/24e+1 250+2a1f 251+2a1c 252+2a1e 25c+a54f 261+a54b
   264+a567 265+a528 266+a544 26a+a544 26b+29f7 26c+a541 271+29fd 27d+29e7 282+a543 287+a52a
   29d+a515 29e+a512 370/372+1 376+1 37b-37d+82 37f+74 386+26 388-38a+25 38c+40 38e-38f+3f
   390+1c43 391/393+20 394/396+20 397+20 39b/39d+20 39e-39f+20 3a4-3a5+20 3a7-3a8+20
   3aa-3ab+20 3b0+1c33 3cf+8 3d8/3ee+1 3f2+7 3f7+1 3fa+1 400-40f+50 410-411+20 413/415+20
   416-41d+20 41f-420+20 423-429+20 42b-42f+20 460+1 464/480+1 48a/4be+1 4c0+f 4c1/4cd+1
   4d0/52e+1 531-556+30 10a0-10c5+1c60 10c7+1c60 10cd+1c60 10d0-10fa+bc0 10fd-10ff+bc0
   13a0-13ef+97d0 13f0-13f5+8 1c89+1 1d79+8a04 1d7d+ee6 1d8e+8a38 1e00/1e5e+1 1e62/1e94+1
   1ea0/1efe+1 1f00-1f07+8 1f10-1f15+8 1f20-1f27+8 1f30-1f37+8 1f40-1f45+8 1f51/1f57+8
   1f60-1f67+8 1f70-1f71+4a 1f72-1f75+56 1f76-1f77+64 1f78-1f79+80 1f7a-1f7b+70 1f7c-1f7d+7e
   1f80-1f87+8 1f90-1f97+8 1fa0-1fa7+8 1fb0-1fb1+8 1fb3+9 1fc3+9 1fd0-1fd1+8 1fe0-1fe1+8
   1fe5+7 1ff3+9 2132+1c 2160-216f+10 2183+1 24b6-24cf+1a 2c00-2c2f+30 2c60+1 2c67/2c6b+1
   2c72+1 2c75+1 2c80/2ce2+1 2ceb/2ced+1 2cf2+1 a640/a648+1 a64c/a66c+1 a680/a69a+1
   a722/a72e+1 a732/a76e+1 a779/a77b+1 a77e/a786+1 a78b+1 a790/a792+1 a794+30 a796/a7a8+1
   a7b3+3a0 a7b4/a7c2+1 a7c7/a7c9+1 a7cc/a7da+1 a7f5+1 fb05+1 ff21-ff3a+20 10400-10427+28
   104b0-104d3+28 10570-1057a+27 1057c-1058a+27 1058c-10592+27 10594-10595+27 10c80-10cb2+40
   10d50-10d65+20 118a0-118bf+20 16e40-16e5f+20 16ea0-16eb8+1b 1e900-1e921+22"

/-- Classes of three or more characters that differ only in case. -/
def caseFamilies : List (List Nat) :=
  (Text.words
   "4b,6b,212a 53,73,17f b5,39c,3bc c5,e5,212b 1c4,1c5,1c6 1c7,1c8,1c9 1ca,1cb,1cc 1f1,1f2,1f3
   345,399,3b9,1fbe 392,3b2,3d0 395,3b5,3f5 398,3b8,3d1,3f4 39a,3ba,3f0 3a0,3c0,3d6
   3a1,3c1,3f1 3a3,3c2,3c3 3a6,3c6,3d5 3a9,3c9,2126 412,432,1c80 414,434,1c81 41e,43e,1c82
   421,441,1c83 422,442,1c84,1c85 42a,44a,1c86 462,463,1c87 1c88,a64a,a64b 1e60,1e61,1e9b").map
    fun family => (Text.divide ',' family).map Text.hexOfList

/-- Lower case of one character, whatever stands around it. -/
def lowerChar (c : Char) : List Char :=
  if c.toNat < 0x80 then [c.toLower]
  else if c.toNat == 0x130 then ['i', Char.ofNat 0x307]
  else match lowerShifts.moved? c.toNat with
    | some n => [Char.ofNat n]
    | none => [c]

/-- Whether the next character that casing does not look through has case. -/
def casedAhead : List Char → Bool
  | [] => false
  | c :: rest => if isCaseIgnorable c then casedAhead rest else isCased c

/-- Lower case of a text, given what precedes it in reverse. A capital sigma that
ends a word takes its final form. -/
def lowerFrom : List Char → List Char → List Char
  | _, [] => []
  | before, c :: rest =>
    let lowered :=
      if c.toNat == 0x3a3 then
        if casedAhead before && !casedAhead rest then [Char.ofNat 0x3c2] else [Char.ofNat 0x3c3]
      else lowerChar c
    lowered ++ lowerFrom (c :: before) rest

/-- Lower case of a whole text. -/
def lower (s : String) : String :=
  String.ofList (lowerFrom [] s.toList)

/-- All characters that differ from `n` only in case, `n` included. -/
def caseFamily (n : Nat) : List Nat :=
  match caseFamilies.find? (fun family => family.contains n) with
  | some family => family
  | none =>
    match casePairs.moved? n with
    | some m => [n, m]
    | none =>
      match casePairs.source? n with
      | some m => [m, n]
      | none => [n]

/-- Adds every character that differs only in case from one of the set. -/
def closeUnderCase (s : CharSet) : CharSet :=
  let pairs := casePairs.pairs.flatMap fun (a, b) =>
    if s.containsNat a || s.containsNat b then [(a, a), (b, b)] else []
  let families := caseFamilies.flatMap fun family =>
    if family.any s.containsNat then family.map fun n => (n, n) else []
  CharSet.ofRanges (s.ranges.toList ++ pairs ++ families)

end SiteSpiders.Unicode
