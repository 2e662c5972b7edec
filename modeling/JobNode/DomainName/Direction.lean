import JobNode.Text.CodePoints

/-!
# The direction of domain names

Some scripts are written from right to left.  A domain name with a letter or a number of such a script
has to be legible: each of its labels starts with a letter, runs in one direction, and ends where the
reader expects it.

The classes are those of the algorithm that arranges text of both directions.
-/

namespace JobNode.DomainName

open JobNode.Text

/-- Letters, and what else is written from left to right. -/
def leftToRight : CodePoints := .ofRuns
  ["41 1a 6 1a 2f 1 a 1 4 1 5 17 1 1f 1 1c1 2 7 e 2 e 5 9 1 81 4 2 8 1 5 2 1 1 6e 1 8c 7 100 1 2",
   "376 37 1 1 1 4 8 4 1 3 7 a 2 1d 1 3a 1 4 4 8 1 14 2 e 2 7 1 2 1 2 2 39 1 4 2 4 2 2 3 3 1 1e 2",
   "3 1 b 2 39 1 4 5 1 2 4 1 14 2 d 1 8 6 1 1 3a 1 2 1 1 4 8 1 7 2 b 2 1e 1 3d 1 c 1 25 8 5 1 3 1",
   "37 1 1 3 5 3 1 4 7 2 b 2 14 7 2 1 3a 1 f 2 14 2 1c 2 39 2 4 4 8 1 14 2 1d 1 48 1 7 3 1 1 5a 1",
   "2 7 4 1 7 8 62 1 2 9 b 7 49 2 1b 1 1 1 1 5 33 e 1 5 1 2 5 b 1 24 9 1 66 4 1 6 1 2 2 2 19 2 4",
   "3 10 4 d 1 2 2 6 1 f 1 2bf 3 30 a 66 1 27f 1 1a 2 75 3 1d 2 1e 2 1e 2 40 2 1 7 8 1 2 b 7 1 1",
   "1 12 a 6 10 75 2 22 1 76 3 4 2 9 1 6 3 4 1 3 2 98 22 17 2 2 1 3a 1 1 7 1 1 1 1 2 8 6 a 2 1 30",
   "2e 2 c 14 4 30 1 1 5 1 1 5 1 b 2 1b 9 b 3 20 4 2 2 1 3 38 1 1 2 3 1 1 3 3a 8 2 2 98 3 1 d 1 7",
   "4 1 6 1 3 2 c6 40 1bd 1 1 3 b 3 d 3 d 3 d 2 1 e 1 62 3 b 1 f 11 51 f 2 1 4 1 2 a 1 1 3 5 6 1",
   "1 1 1 1 1 4 1 b 2 4 5 5 4 2 10 29 3 4 1a6 45 1a 1 94 16 b 15 3c 4e 1c2 1 153 100 274 2 8a e5",
   "6 4 3 7 7 7f 1 60 7e 22 1a 1 59 c d6 1a 15 3 19 9 4 2 1 5 2 5 3 59 4 3 1 5a 1 c4 26 9 1 2d 2",
   "31 10 1c 3 32 f c 4 a7 4 63 2 1f 1 19c0 40 5690 37 146 3 5f 11 1e 2 50 2 e 22 66 1 79 1 3 1 4",
   "1 19 2 1 5 b 2 3a 4 4c 2 1a 12 d 1 26 8 19 b 2e 3 30 1 2 4 2 2 27 1 43 6 2 2 2 2 c 1 8 1 2f 1",
   "33 1 1 3 2 2 5 2 1 1 2a 2 8 1 73 2 79 1 2 1 4 1 4f2f 2fd 6 33 1 13 1 4 4 90 1 20 1a 6 1a b 7a",
   "7 1 7 1 10 101 1 3e 4d 3 d 3 1 5c 1 e2 1c 7a 5 485 800 1 1 36 f b 14 a 1 2 2 a 3 31 4 2 2 7 1",
   "3d 3 24 5 1 8 3e 1 c 2 34 9 a 4 2 1 5f 3 2 1 1 2 6 1 2 1 9d 1 3 8 15 2 39 2 3 1 25 7 3 5 46 6",
   "d 1 1 1 1 1 1 2 1 2 8 2 55 8 2 3 1 1 17 1 54 6 1 1 4 2 1 2 ee 4 6 2 1 2 1b 2 55 8 2 1 1 2 1f",
   "d 3e 1 1 1 2 6 1 1 65 3 2 4 1 5 103 9 1 2 100 2 1 1 4 1 90 4 2 2 4 1 20 6 2 2 28 6 2 4 8 1 9",
   "6 2 3 2e d 1 2 c6 1 1 3 1 1 7a 1 4e 7 1 6 54 16 2 7 1 2 1 2 7a 6 3 1 1 2 1 7 1 1 48 2 3 1 1 1",
   "15b 2 b 2 34 5 5 1 1 1 17 1 7a 1d 144e 1 6 f 2cc8 c 3 3 9c0 5 3b 7 236 3 1df 1 3f 4 4f 1 1 1",
   "4cb8 2 1 4 f5c f0 a 3 3 1b4 6 17 f 11 f 2e 2 17 220 3 9 10 2 7 1e 4 3b 2 15 46 ba 57 384 1 39",
   "1 39 1 39 1 39 1 a 32 200 37 4 32 8 1 e 1 16 5 1 f 550 7 1 11 2 7 1 2 1 5 64 1 a0 7 177 1 3d",
   "4 f 1 1ec 4 fe 2 f 1 e3 1 2 1 7 2 5 1 10a 82c 4 64 c f 2 f 1 f 1 25 a 10 1f 1 3a 6 3d 1 b2 6",
   "9a 3d9 3 11 3 d 3 da 6 c 4 1 f c 4 38 8 a 6 28 8 1e 2 c 4 2 e 9 27 158 8 e 2 d 3 b 3 39 1 1 4",
   "10 2 c 4 a 7 93 1 67 403 2 fffe 2 fffe 2 fffe 2 fffe 2 fffe 2 fffe 2 fffe 2 fffe 2 fffe 2",
   "fffe 2 fffe 2 fffe 1002 effe 2 fffe 2 fffe"]

/-- Letters, and what else is written from right to left. -/
def rightToLeft : CodePoints := .ofRuns
  ["590 1 2d 1 1 1 2 1 2 1 1 38 8 1 2 1 1 1 d 30 22 3 1 65 f 2 7 2 a 17 1 1e 1b 5b b 3a 9 2 4 3 1",
   "18 4 1 9 1 3 1 5 2b 3 34 2 5 9 2a 1745 1 db0d 1 1 a 1 214 12 7f 21 d 73 8f 901 11f 1 e1 3 1 2",
   "5 4 28 3 4 1 a5 2 52 7 1e4 4 8 a 2f 5 f2 1f 2c 2 4d 6 46 b 31 4 7a d800 d0 7 6d 7 5a5 2 10e"]

/-- Digits, and what else belongs to the numbers of scripts that run from right to left. -/
def arabicNumbers : CodePoints := .ofRuns
  ["600 6 5a a 1 2 70 1 1b2 2 50 1 1044d a 126 1f"]

/-- Digits of all other scripts. -/
def europeanNumbers : CodePoints := .ofRuns
  ["30 a 78 2 5 1 636 a 1976 1 3 6 6 a 3fe 14 da74 a 3c7 1b d4d2 32 1900 b ae5 a"]

/-- Marks, which take the direction of what they stand on. -/
def nonspacing : CodePoints := .ofRuns
  ["300 70 113 7 107 2d 1 1 1 2 1 2 1 1 48 b 30 15 10 1 65 7 2 6 2 2 1 4 23 1 1e 1b 5b b 3a 9 9 1",
   "18 4 1 9 1 3 1 5 2b 3 3b 9 2a 18 1 20 37 1 1 1 4 8 4 1 3 7 a 2 1d 1 3a 1 4 4 8 1 14 2 1a 1 2",
   "2 39 1 4 2 4 2 2 3 3 1 1e 2 3 1 b 2 39 1 4 5 1 2 4 1 14 2 16 6 1 1 3a 1 2 1 1 4 8 1 7 2 b 2",
   "1e 1 3d 1 c 1 32 1 3 1 37 1 1 3 5 3 1 4 7 2 b 2 1d 1 3a 1 f 2 14 2 1c 2 39 2 4 4 8 1 14 2 1d",
   "1 48 1 7 3 1 1 5a 1 2 7 c 8 62 1 2 9 b 7 49 2 1b 1 1 1 1 1 37 e 1 5 1 2 5 b 1 24 9 1 66 4 1 6",
   "1 2 2 2 19 2 4 3 10 4 d 1 2 2 6 1 f 1 2bf 3 3b2 3 1d 2 1e 2 1e 2 40 2 1 7 8 1 2 b 9 1 2d 3 1",
   "1 75 2 22 1 76 3 4 2 9 1 6 3 db 2 2 1 3a 1 1 7 1 1 1 1 2 8 6 a 2 1 30 2e 2 c 14 4 30 1 1 5 1",
   "1 5 1 28 9 c 2 20 4 2 2 1 3 38 1 1 2 3 1 1 3 3a 8 2 2 98 3 1 d 1 7 4 1 6 1 3 2 c6 40 2d0 21",
   "bfe 3 8d 1 60 20 22a 4 6b 2 75d4 4 1 a 20 2 50 2 110 1 3 1 4 1 19 2 5 1 97 2 1a 12 d 1 26 8",
   "19 b 2e 3 30 1 2 4 2 2 27 1 43 6 2 2 2 2 c 1 8 1 2f 1 33 1 1 3 2 2 5 2 1 1 2a 2 8 1 ee 1 2 1",
   "4 1 4f30 1 2e1 10 10 10 3cd 1 e2 1 95 5 686 3 1 2 5 4 28 3 4 1 a5 2 23d 4 41 5 13d 2 4d 6 46",
   "b 31 4 7b 1 36 f 29 1 2 2 a 3 31 4 2 2 7 1 3d 3 24 5 1 8 3e 1 c 2 34 9 a 4 2 1 5f 3 2 1 1 2 6",
   "1 2 1 9d 1 3 8 15 2 39 2 3 1 25 7 3 5 46 6 d 1 1 1 1 1 e 2 55 8 2 3 1 1 17 1 54 6 1 1 4 2 1 2",
   "ee 4 6 2 1 2 1b 2 55 8 2 1 1 2 6a 1 1 1 2 6 1 1 65 3 2 4 1 5 103 9 1 2 100 2 1 1 4 1 90 4 2 2",
   "4 1 20 6 2 2 28 6 2 4 8 1 9 6 2 3 2e d 1 2 c6 1 1 3 1 1 c9 7 1 6 54 16 2 7 1 2 1 2 7a 6 3 1 1",
   "2 1 7 1 1 48 2 3 1 1 1 15b 2 b 2 34 5 5 1 1 1 17 1 14e5 1 6 f 2cc8 c 3 3 9c0 5 3b 7 418 1 3f",
   "4 51 1 4cb8 2 1261 2e 2 17 220 3 11 8 2 7 1e 4 94 3 7bb 37 4 32 8 1 e 1 16 5 1 f 550 7 1 11 2",
   "7 1 2 1 5 64 1 a0 7 177 1 3d 4 1fc 4 fe 2 f3 1 2 1 7 2 5 1 1da 7 6d 7 c17b5 f0"]

/-- Separators, signs of numbers and symbols, which take the direction around them. -/
def neutral : CodePoints := .ofRuns
  ["0 9 5 e 5 f a 7 1a 6 1a a 1 24 1 7 2 1 1 3 2 5 17 1 1f 1 1c1 2 7 e 2 e 5 9 1 11 74 2 8 1 5 2",
   "1 1 6e 1 193 1 2 3 76 2 1 2 1 1 1 2 5a 1 73 1 a 1 10c 4 1f8 2 7 1 f5 1 101 8 7d 7 1c0 1 fa 4",
   "452 a 66 1 29a 2 13e 1 14 a 6 b 3 1 131 1 3 2 98 22 14e 2 2f 1 43d 1 1 3 b 3 d 3 d 3 d 2 c 3",
   "2 18 7 30 1 6 4 6 a 5 b 5 11 30 30 2 1 4 1 2 a 1 1 3 5 6 1 1 1 1 1 1 4 1 b 2 4 5 5 4 2 10 29",
   "3 4 1a6 45 1a 1 94 16 b 15 28 62 1c2 1 153 100 274 2 8a e5 6 e 7 100 5e 22 1a 1 59 c d6 1a 10",
   "1 4 3 19 f 1 5 2 5 3 5b 2 3 1 5a 1 c4 26 9 1 2d 2 31 10 1c 3 32 f c 4 a7 4 63 2 1f 1 19c0 40",
   "5690 37 146 3 63 1 a 2 80 22 66 1 9f 4 c 2 3a 4 2f2 2 4fbd 1 214 12 7f 21 d 3 10 a 16 23 1 13",
   "1 4 93 1 1 f a 7 1a 6 1a b 7a 7 1 7 1 10 101 1 3e 4d 3 d 3 1 77e 1 219 7 512 14 36e 2 1 2 287",
   "d 574 1 3f3 1d 4d7b 3 272 1 4cbd 4 f5c f0 a 3 3 1b4 6 17 f 11 282 8 6e 2 15 42 3 1 ba 57 384",
   "1 39 1 39 1 39 1 39 1 b3b 1 2ff 1 8f0 2 10e 2c 4 64 c f 2 f 1 f 1 25 15 5 1f 1 3a 6 3d 1 b2 6",
   "9a 3d9 3 11 3 d 3 da 6 c 4 1 f c 4 38 8 a 6 28 8 1e 2 c 4 2 e 9 27 158 8 e 2 d 3 b 3 39 1 1 4",
   "10 2 c 4 a 7 93 1 5c a 1 403 2 fffe 2 fffe 2 fffe 2 fffe 2 fffe 2 fffe 2 fffe 2 fffe 2 fffe 2",
   "fffe 2 fffe 2 fffe 102 f0 e10 effe 2 fffe 2 fffe"]

/-- The character runs from right to left. -/
def isRightToLeft (c : Char) : Bool := rightToLeft.contains c.toNat

/-- The character makes a domain name subject to the rule for both directions. -/
def callsForRule (c : Char) : Bool := isRightToLeft c || arabicNumbers.contains c.toNat

/-- The character can stand in a label that runs from left to right. -/
def fitsLeftToRight (c : Char) : Bool :=
  leftToRight.contains c.toNat || europeanNumbers.contains c.toNat || neutral.contains c.toNat ||
    nonspacing.contains c.toNat

/-- The character can stand in a label that runs from right to left. -/
def fitsRightToLeft (c : Char) : Bool :=
  callsForRule c || europeanNumbers.contains c.toNat || neutral.contains c.toNat ||
    nonspacing.contains c.toNat

/-- The character can end a label that runs from left to right. -/
def endsLeftToRight (c : Char) : Bool :=
  leftToRight.contains c.toNat || europeanNumbers.contains c.toNat

/-- The character can end a label that runs from right to left. -/
def endsRightToLeft (c : Char) : Bool := callsForRule c || europeanNumbers.contains c.toNat

/-- The label keeps to one direction. -/
def isLegible (label : List Char) : Bool :=
  match label with
  | [] => true
  | first :: rest =>
    let body := (rest.reverse.dropWhile fun c => nonspacing.contains c.toNat).reverse
    if leftToRight.contains first.toNat then
      body.dropLast.all fitsLeftToRight && body.getLast?.all endsLeftToRight
    else if isRightToLeft first then
      body.dropLast.all fitsRightToLeft && body.getLast?.all endsRightToLeft &&
        !(body.any (fun c => arabicNumbers.contains c.toNat) &&
          body.any fun c => europeanNumbers.contains c.toNat)
    else false

/-- All labels of a domain name keep to one direction each, or none calls for it. -/
def areLegible (labels : List (List Char)) : Bool :=
  !(labels.any fun label => label.any callsForRule) || labels.all isLegible

end JobNode.DomainName
