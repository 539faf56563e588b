import FieldRules.Unicode.Category

namespace FieldRules.Unicode

/-- Characters of scripts that run from right to left. -/
def rightToLeftTable : List String := [
  "5be 1 1 1 2 1 2 1 9 1b 4 6 13 1 2 1 1 1 d 30 22 3 1 65 f 2 7 2 a 14 1 2 1 1e 1d 59 b 1 e 2b",
  "9 2 4 1 3 18 4 1 9 1 3 1 7 f 1 19 5 1 1 b 5 1f 11 2a 1745 1 db0d 1 1 a 1 d 1 5 1 1 1 2 1 2",
  "1 7d 10 16b 12 40 2 36 28 d 73 5 1 87 903 6 2 1 1 2c 1 2 3 1 2 17 1 48 8 9 30 13 1 2 5 21",
  "4 1a 5 1 40 38 4 14 2 2f f 4 1 3 1 1d a 9 7 9 7 40 20 25 6 c 9 36 a 16 2 1b 5 1a 7 4 c 7",
  "50 49 37 33 d 33 7 2a 1c 26 8 18 8 2 f0 2a 3 1 2 2 10 3 3b 28 8 16 b 9 16 12 4 4 26 1c 14 17",
  "d809 c5 2 9 30 44 7 1 4 a 4 2 311 44 4c 3d c2 4 1 1b 1 2 1 1 2 1 1 a 1 4 1 1 1 1 6 1 4 1 1 1",
  "1 1 1 3 1 2 1 1 2 1 1 1 1 1 1 1 1 1 1 2 1 1 2 4 1 7 1 4 1 4 1 1 1 a 1 11 5 3 1 5 1 11"]

def arabicNumberTable : List String := [
  "600 6 5a a 1 2 70 1 1b2 2 50 1 1044d a 126 1f"]

def europeanNumberTable : List String := [
  "30 a 78 2 5 1 636 a 1976 1 3 6 6 a 3fe 14 da74 a 3c7 1b d4d2 32 1900 b ae5 a"]

/-- Characters without a direction of their own, marks excluded. -/
def neutralTable : List String := [
  "0 9 5 e 5 f a 7 1a 6 1a a 1 24 1 7 2 1 1 3 2 5 17 1 1f 1 1c1 2 7 e 2 e 5 9 1 11 74 2 8 1 5 2",
  "1 1 6e 1 193 1 2 3 76 2 1 2 1 1 1 2 5a 1 73 1 a 1 10c 4 1f8 2 7 1 f5 1 101 8 7d 7 1c0 1 fa 4",
  "452 a 66 1 29a 2 13e 1 14 a 6 b 3 1 131 1 3 2 98 22 5bd 1 1 3 b 3 d 3 d 3 d 2 c 3 2 18 7 30",
  "1 5 5 6 a 5 b 5 11 21 3f 2 1 4 1 2 a 1 1 3 5 6 1 1 1 1 1 1 4 1 b 2 4 5 5 4 2 10 29 3 4 1a6",
  "45 1a 1 94 16 b 15 28 62 1c2 1 153 100 274 2 20 1 69 e5 6 e 7 100 5e 22 1a 1 59 c d6 1a 10",
  "1 4 3 19 f 1 5 2 5 3 5b 2 3 1 5a 1 c4 26 9 1 2d 2 31 10 1c 3 32 f c 4 a7 4 63 2 1f 1 19c0 40",
  "5690 37 146 3 63 1 a 2 80 22 66 1 9f 4 c 2 3a 4 2f2 2 4fbd 1 214 12 7f 1 2d 3 10 a 16 23",
  "1 13 1 4 93 1 1 f a 7 1a 6 1a b 7a 7 1 7 a 5 103 1 3e 4d 3 d 3 1 77e 1 219 7 512 14 5fa d",
  "968 1d 4ff0 1 4cbd 4 f5c f0 10 1b4 2bf 8 6e 2 15 42 3 1 ba 57 384 1 39 1 39 1 39 1 39 1",
  "b3b 1 bf0 2 10e 2c 4 64 c f 2 f 1 f 1 25 15 5 1f 1 3a 6 3d 1 b2 6 9a 3d8 4 11 3 d 3 77 4 5f",
  "6 c 4 1 f c 4 38 8 a 6 28 8 1e 2 c 4 2 3e 154 c e 2 d 3 a 5 38 7 f 2 b 6 9 7 93 1 5c c0411 1",
  "1e 60"]

/-- Characters that join the next one, those that join both sides included. -/
def joinsNextTable : List String := [
  "620 1 5 1 1 1 1 5 4 d 1 7 1 2 23 2 8 10 12 26 1 2 9 1 1 1 1 2 28 3 2 1 12 3 5 4 1 9 1 1 1 1",
  "1 2 1f b 3 f 2 4 1 1 2 3 2 6 4a 21 56 5 2 1 1 a 1 1 a 1 1 4 2 1 1d 1 2 5 12 a 5 2 2 6 1 f",
  "f3e 1 18 59 e 22 1 1 8f95 33 624d 5 8 1 5 a 1 3 a 4 91 1 1 1 3 3 1 2 1 1 2 1 1c 2 151 22 1 1",
  "19f 2 6b 3 1 11 c 3 1c 4 2 c 2e 1 1 2 4 1 2 2 1 2 1 1 2 1 5 2 d934 44"]

/-- Characters that join the one before, those that join both sides included. -/
def joinsPreviousTable : List String := [
  "620 1 1 1e 1 a 23 2 1 3 1 5f 1 1 18 2 a 3 2 1 10 1 1 1e 1d 33 4a 21 55 19 7 1 1 4 1 4 5 13",
  "3 1 2 6 11 d 1 1b f3e 1 18 59 e 22 1 1 8f95 32 624e 6 1 1 1 2 3 9 1 a 2 1 6 5 90 12 17 6",
  "152 23 19e 3 6b 15 c 4 1b 12 2e 1 1 5 1 8 1 4 4 2 d935 44"]

/-- Signs that take the vowel from a consonant. -/
def viramaTable : List String := [
  "94d 1 7f 1 7f 1 7f 1 7f 1 7f 1 7f 1 7f 1 6d 2 10 1 7c 1 6f 1 7f 1 c9 1 b4 2 6d9 2 1e 1 9d 1",
  "28d 1 e3 1 65 2 46 2 118b 1 7a86 1 25 1 97 1 8e 1 6c 1 135 1 f6 1 5e51 1 606 1 29 1 e 1 39 1",
  "79 2 8b 1 74 1 b4 1 62 1 80 3 71 1 7f 1 fc 1 7f 1 76 1 74 1 10d 1 103 2 a1 1 53 1 12 1 51 1",
  "1a5 1 104 2 51 1 1a9 2 41ec 1"]

/-- What a character says about the direction of its text. -/
inductive Direction where
  | leftToRight | rightToLeft | arabicNumber | europeanNumber | neutral | mark
  deriving DecidableEq

def rightToLeftSpans : List Span := spans rightToLeftTable

def arabicNumberSpans : List Span := spans arabicNumberTable

def europeanNumberSpans : List Span := spans europeanNumberTable

def neutralSpans : List Span := spans neutralTable

def joinsNextSpans : List Span := spans joinsNextTable

def joinsPreviousSpans : List Span := spans joinsPreviousTable

def viramaSpans : List Span := spans viramaTable

def nonspacingSpans : List Span := categorySpans ["Mn", "Me"]

def markSpans : List Span := categorySpans ["Mn", "Mc", "Me"]

def formatSpans : List Span := categorySpans ["Cf"]

def direction (c : Char) : Direction :=
  if inSpans rightToLeftSpans c then .rightToLeft
  else if inSpans arabicNumberSpans c then .arabicNumber
  else if inSpans europeanNumberSpans c then .europeanNumber
  else if inSpans neutralSpans c then .neutral
  else if inSpans nonspacingSpans c then .mark
  else .leftToRight

/-- Combining marks of all kinds. -/
def isMark (c : Char) : Bool := inSpans markSpans c

def joinsNext (c : Char) : Bool := inSpans joinsNextSpans c

def joinsPrevious (c : Char) : Bool := inSpans joinsPreviousSpans c

/-- Characters that joining looks through. -/
def isTransparent (c : Char) : Bool := inSpans nonspacingSpans c || inSpans formatSpans c

def isVirama (c : Char) : Bool := inSpans viramaSpans c

end FieldRules.Unicode
