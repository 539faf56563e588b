import FieldRules.Unicode.Runs

namespace FieldRules.Unicode

/-- Pairs that fold alike: `count` of them from `first` on, every `step` code points, the second of
each `distance` above the first. -/
structure FoldRun where
  first : Nat
  count : Nat
  step : Nat
  distance : Nat

def foldTable : List String := [
  "41 1a 1 20 4b 1 1 20df 53 1 1 12c 6b 1 1 20bf 73 1 1 10c b5 1 1 2e7 b5 1 1 307 c0 17 1 20",
  "c5 1 1 2066 d8 7 1 20 df 1 1 1dbf e5 1 1 2046 ff 1 1 79 100 18 2 1 132 3 2 1 139 8 2 1",
  "14a 17 2 1 179 3 2 1 180 1 1 c3 181 1 1 d2 182 2 2 1 186 1 1 ce 187 1 1 1 189 2 1 cd",
  "18b 1 1 1 18e 1 1 4f 18f 1 1 ca 190 1 1 cb 191 1 1 1 193 1 1 cd 194 1 1 cf 195 1 1 61",
  "196 1 1 d3 197 1 1 d1 198 1 1 1 19a 1 1 a3 19b 1 1 a641 19c 1 1 d3 19d 1 1 d5 19e 1 1 82",
  "19f 1 1 d6 1a0 3 2 1 1a6 1 1 da 1a7 1 1 1 1a9 1 1 da 1ac 1 1 1 1ae 1 1 da 1af 1 1 1",
  "1b1 2 1 d9 1b3 2 2 1 1b7 1 1 db 1b8 1 1 1 1bc 1 1 1 1bf 1 1 38 1c4 1 1 2 1c4 2 1 1 1c7 1 1 2",
  "1c7 2 1 1 1ca 1 1 2 1ca 2 1 1 1cd 8 2 1 1de 9 2 1 1f1 1 1 2 1f1 2 1 1 1f4 1 1 1 1f8 14 2 1",
  "222 9 2 1 23a 1 1 2a2b 23b 1 1 1 23e 1 1 2a28 23f 2 1 2a3f 241 1 1 1 244 1 1 45 245 1 1 47",
  "246 5 2 1 250 1 1 2a1f 251 1 1 2a1c 252 1 1 2a1e 25c 1 1 a54f 261 1 1 a54b 264 1 1 a567",
  "265 1 1 a528 266 1 1 a544 26a 1 1 a544 26b 1 1 29f7 26c 1 1 a541 271 1 1 29fd 27d 1 1 29e7",
  "282 1 1 a543 287 1 1 a52a 29d 1 1 a515 29e 1 1 a512 345 1 1 54 345 1 1 74 345 1 1 1c79",
  "370 2 2 1 376 1 1 1 37b 3 1 82 37f 1 1 74 386 1 1 26 388 3 1 25 38c 1 1 40 38e 2 1 3f",
  "390 1 1 1c43 391 11 1 20 392 1 1 3e 395 1 1 60 398 1 1 39 398 1 1 5c 399 1 1 1c25 39a 1 1 56",
  "3a0 1 1 36 3a1 1 1 50 3a3 1 1 1f 3a3 9 1 20 3a6 1 1 2f 3a9 1 1 1d7d 3b0 1 1 1c33 3b2 1 1 1e",
  "3b5 1 1 40 3b8 1 1 19 3b8 1 1 3c 3b9 1 1 1c05 3ba 1 1 36 3c0 1 1 16 3c1 1 1 30 3c2 1 1 1",
  "3c6 1 1 f 3c9 1 1 1d5d 3cf 1 1 8 3d1 1 1 23 3d8 c 2 1 3f2 1 1 7 3f7 1 1 1 3fa 1 1 1",
  "400 10 1 50 410 20 1 20 412 1 1 186e 414 1 1 186d 41e 1 1 1864 421 2 1 1862 422 1 1 1863",
  "42a 1 1 185c 432 1 1 184e 434 1 1 184d 43e 1 1 1844 441 2 1 1842 442 1 1 1843 44a 1 1 183c",
  "460 11 2 1 462 1 1 1825 463 1 1 1824 48a 1b 2 1 4c0 1 1 f 4c1 7 2 1 4d0 30 2 1 531 26 1 30",
  "10a0 26 1 1c60 10c7 1 1 1c60 10cd 1 1 1c60 10d0 2b 1 bc0 10fd 3 1 bc0 13a0 50 1 97d0",
  "13f0 6 1 8 1c84 1 1 1 1c88 1 1 89c2 1c88 1 1 89c3 1c89 1 1 1 1d79 1 1 8a04 1d7d 1 1 ee6",
  "1d8e 1 1 8a38 1e00 4b 2 1 1e60 1 1 3b 1e61 1 1 3a 1ea0 30 2 1 1f00 8 1 8 1f10 6 1 8",
  "1f20 8 1 8 1f30 8 1 8 1f40 6 1 8 1f51 4 2 8 1f60 8 1 8 1f70 2 1 4a 1f72 4 1 56 1f76 2 1 64",
  "1f78 2 1 80 1f7a 2 1 70 1f7c 2 1 7e 1f80 8 1 8 1f90 8 1 8 1fa0 8 1 8 1fb0 2 1 8 1fb3 1 1 9",
  "1fc3 1 1 9 1fd0 2 1 8 1fe0 2 1 8 1fe5 1 1 7 1ff3 1 1 9 2132 1 1 1c 2160 10 1 10 2183 1 1 1",
  "24b6 1a 1 1a 2c00 30 1 30 2c60 1 1 1 2c67 3 2 1 2c72 1 1 1 2c75 1 1 1 2c80 32 2 1 2ceb 2 2 1",
  "2cf2 1 1 1 a640 17 2 1 a680 e 2 1 a722 7 2 1 a732 1f 2 1 a779 2 2 1 a77e 5 2 1 a78b 1 1 1",
  "a790 2 2 1 a794 1 1 30 a796 a 2 1 a7b3 1 1 3a0 a7b4 8 2 1 a7c7 2 2 1 a7cc 1 1 1 a7d0 1 1 1",
  "a7d6 3 2 1 a7f5 1 1 1 fb05 1 1 1 ff21 1a 1 20 10400 28 1 28 104b0 24 1 28 10570 b 1 27",
  "1057c f 1 27 1058c 7 1 27 10594 2 1 27 10c80 33 1 40 10d50 16 1 20 118a0 20 1 20",
  "16e40 20 1 20 1e900 22 1 22"]

def foldRunsFrom : List (List Char) → List FoldRun
  | a :: b :: c :: d :: rest =>
    ⟨hexValue a, hexValue b, hexValue c, hexValue d⟩ :: foldRunsFrom rest
  | _ => []

def foldRuns : List FoldRun := foldRunsFrom (words foldTable)

/-- The code point is the first of a pair. -/
def FoldRun.hasFirst (r : FoldRun) (n : Nat) : Bool :=
  r.first ≤ n && n < r.first + r.count * r.step && (n - r.first) % r.step == 0

def FoldRun.partners (r : FoldRun) (n : Nat) : List Nat :=
  (if r.hasFirst n then [n + r.distance] else []) ++
    (if r.distance ≤ n && r.hasFirst (n - r.distance) then [n - r.distance] else [])

/-- The other characters that fold to what `c` folds to. -/
def foldPartners (c : Char) : List Char :=
  (foldRuns.flatMap fun r => r.partners c.toNat).map Char.ofNat

end FieldRules.Unicode
