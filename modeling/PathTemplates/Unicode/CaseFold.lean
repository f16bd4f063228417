import PathTemplates.Unicode.CharSet

set_option autoImplicit false

/-!
Characters that differ in case only: simple case folding maps them to the same character.
-/

namespace PathTemplates.Unicode.CaseFold

-- The characters whose only case partner stands the given distance above them.
def pairsAt : List (Nat × CharSet) :=
  [
    (1, .table
      "100-12e/2 132-136/2 139-147/2 14a-176/2 179-17d/2 182-184/2 187 18b 191 198 1a0-1a4/2 1a7 1ac 1af
      1b3-1b5/2 1b8 1bc 1cd-1db/2 1de-1ee/2 1f4 1f8-21e/2 222-232/2 23b 241 246-24e/2 370-372/2 376 3d8-3ee/2
      3f7 3fa 460 464-480/2 48a-4be/2 4c1-4cd/2 4d0-52e/2 1c89 1e00-1e5e/2 1e62-1e94/2 1ea0-1efe/2 2183 2c60
      2c67-2c6b/2 2c72 2c75 2c80-2ce2/2 2ceb-2ced/2 2cf2 a640-a648/2 a64c-a66c/2 a680-a69a/2 a722-a72e/2
      a732-a76e/2 a779-a77b/2 a77e-a786/2 a78b a790-a792/2 a796-a7a8/2 a7b4-a7c2/2 a7c7-a7c9/2 a7cc a7d0
      a7d6-a7da/2 a7f5 fb05"),
    (7, .table "3f2 1fe5"),
    (8, .table
      "3cf 13f0-13f5 1f00-1f07 1f10-1f15 1f20-1f27 1f30-1f37 1f40-1f45 1f51-1f57/2 1f60-1f67 1f80-1f87 1f90-1f97
      1fa0-1fa7 1fb0-1fb1 1fd0-1fd1 1fe0-1fe1"),
    (9, .table "1fb3 1fc3 1ff3"),
    (15, .table "4c0"),
    (16, .table "2160-216f"),
    (26, .table "24b6-24cf"),
    (28, .table "2132"),
    (32, .table
      "41-4a 4c-52 54-5a c0-c4 c6-d6 d8-de 391-393/2 394-396/2 397 39b-39f/2 39e 3a4-3a5 3a7-3a8 3aa-3ab 410-411
      413-41f/2 416-41c/2 420 423-429 42b-42f ff21-ff3a 10d50-10d65 118a0-118bf 16e40-16e5f"),
    (34, .table "1e900-1e921"),
    (37, .table "388-38a"),
    (38, .table "386"),
    (39, .table "10570-1057a 1057c-1058a 1058c-10592 10594-10595"),
    (40, .table "10400-10427 104b0-104d3"),
    (48, .table "531-556 2c00-2c2f a794"),
    (56, .table "1bf"),
    (63, .table "38e-38f"),
    (64, .table "38c 10c80-10cb2"),
    (69, .table "244"),
    (71, .table "245"),
    (74, .table "1f70-1f71"),
    (79, .table "18e"),
    (80, .table "400-40f"),
    (86, .table "1f72-1f75"),
    (97, .table "195"),
    (100, .table "1f76-1f77"),
    (112, .table "1f7a-1f7b"),
    (116, .table "37f"),
    (121, .table "ff"),
    (126, .table "1f7c-1f7d"),
    (128, .table "1f78-1f79"),
    (130, .table "19e 37b-37d"),
    (163, .table "19a"),
    (195, .table "180"),
    (202, .table "18f"),
    (203, .table "190"),
    (205, .table "189-18a 193"),
    (206, .table "186"),
    (207, .table "194"),
    (209, .table "197"),
    (210, .table "181"),
    (211, .table "196 19c"),
    (213, .table "19d"),
    (214, .table "19f"),
    (217, .table "1b1-1b2"),
    (218, .table "1a6 1a9 1ae"),
    (219, .table "1b7"),
    (928, .table "a7b3"),
    (3008, .table "10d0-10fa 10fd-10ff"),
    (3814, .table "1d7d"),
    (7219, .table "3b0"),
    (7235, .table "390"),
    (7264, .table "10a0-10c5 10c7 10cd"),
    (7615, .table "df"),
    (10727, .table "27d"),
    (10743, .table "26b"),
    (10749, .table "271"),
    (10780, .table "251"),
    (10782, .table "252"),
    (10783, .table "250"),
    (10792, .table "23e"),
    (10795, .table "23a"),
    (10815, .table "23f-240"),
    (35332, .table "1d79"),
    (35384, .table "1d8e"),
    (38864, .table "13a0-13ef"),
    (42258, .table "29e"),
    (42261, .table "29d"),
    (42280, .table "265"),
    (42282, .table "287"),
    (42305, .table "26c"),
    (42307, .table "282"),
    (42308, .table "266 26a"),
    (42315, .table "261"),
    (42319, .table "25c"),
    (42343, .table "264"),
    (42561, .table "19b")]

-- The sets of more than two characters that differ in case only.
def larger : List (List Nat) :=
  [
    [0x4b, 0x6b, 0x212a], [0x53, 0x73, 0x17f], [0xb5, 0x39c, 0x3bc], [0xc5, 0xe5, 0x212b], [0x1c4, 0x1c5, 0x1c6],
    [0x1c7, 0x1c8, 0x1c9], [0x1ca, 0x1cb, 0x1cc], [0x1f1, 0x1f2, 0x1f3], [0x345, 0x399, 0x3b9, 0x1fbe],
    [0x392, 0x3b2, 0x3d0], [0x395, 0x3b5, 0x3f5], [0x398, 0x3b8, 0x3d1, 0x3f4], [0x39a, 0x3ba, 0x3f0],
    [0x3a0, 0x3c0, 0x3d6], [0x3a1, 0x3c1, 0x3f1], [0x3a3, 0x3c2, 0x3c3], [0x3a6, 0x3c6, 0x3d5],
    [0x3a9, 0x3c9, 0x2126], [0x412, 0x432, 0x1c80], [0x414, 0x434, 0x1c81], [0x41e, 0x43e, 0x1c82],
    [0x421, 0x441, 0x1c83], [0x422, 0x442, 0x1c84, 0x1c85], [0x42a, 0x44a, 0x1c86], [0x462, 0x463, 0x1c87],
    [0x1c88, 0xa64a, 0xa64b], [0x1e60, 0x1e61, 0x1e9b]]

def orbits : List (List Nat) :=
  larger ++ pairsAt.flatMap fun (distance, set) =>
    set.ranges.flatMap fun range =>
      (List.range (range.last + 1 - range.first)).map fun i => [range.first + i, range.first + i + distance]

def close (set : CharSet) : CharSet :=
  set.union (.ofCodes (orbits.filter (·.any set.hasCode)).flatten)

end PathTemplates.Unicode.CaseFold
