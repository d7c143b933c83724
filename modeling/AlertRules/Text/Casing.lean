import AlertRules.Text.CharSet
import AlertRules.Text.Property

/-!
# Letter case

Which characters differ only in case (Unicode 16, simple case folding), and the lower case of a
text. The tables are progressions: first code point, step, how many, and the distance to the
partner of each.
-/

namespace AlertRules.Text

/-- The pairs of a character and its partner that a progression stands for. -/
def progressionPairs : Nat × Nat × Nat × Int → List (Nat × Nat)
  | (first, step, count, distance) =>
    (List.range count).map fun k => (first + step * k, ((first + step * k : Nat) + distance).toNat)

/-- Pairs of characters that differ only in case and have no third. -/
def casePairRuns : List (Nat × Nat × Nat × Int) := [
  (65, 1, 10, 32), (76, 2, 8, 32), (77, 2, 3, 32), (85, 2, 3, 32), (192, 2, 16, 32),
  (193, 2, 2, 32), (199, 2, 8, 32), (217, 2, 3, 32), (223, 1, 1, 7615), (255, 1, 1, 121),
  (256, 2, 24, 1), (306, 2, 3, 1), (313, 2, 8, 1), (330, 2, 23, 1), (377, 2, 3, 1),
  (384, 1, 1, 195), (385, 1, 1, 210), (386, 2, 2, 1), (390, 1, 1, 206), (391, 1, 1, 1),
  (393, 1, 2, 205), (395, 1, 1, 1), (398, 1, 1, 79), (399, 1, 1, 202), (400, 1, 1, 203),
  (401, 1, 1, 1), (403, 1, 1, 205), (404, 1, 1, 207), (405, 1, 1, 97), (406, 1, 1, 211),
  (407, 1, 1, 209), (408, 1, 1, 1), (410, 1, 1, 163), (411, 1, 1, 42561), (412, 1, 1, 211),
  (413, 1, 1, 213), (414, 1, 1, 130), (415, 1, 1, 214), (416, 2, 3, 1), (422, 1, 1, 218),
  (423, 1, 1, 1), (425, 1, 1, 218), (428, 1, 1, 1), (430, 1, 1, 218), (431, 1, 1, 1),
  (433, 1, 2, 217), (435, 2, 2, 1), (439, 1, 1, 219), (440, 1, 1, 1), (444, 1, 1, 1),
  (447, 1, 1, 56), (461, 2, 8, 1), (478, 2, 9, 1), (500, 1, 1, 1), (504, 2, 20, 1),
  (546, 2, 9, 1), (570, 1, 1, 10795), (571, 1, 1, 1), (574, 1, 1, 10792), (575, 1, 2, 10815),
  (577, 1, 1, 1), (580, 1, 1, 69), (581, 1, 1, 71), (582, 2, 5, 1), (592, 1, 1, 10783),
  (593, 1, 1, 10780), (594, 1, 1, 10782), (604, 1, 1, 42319), (609, 1, 1, 42315),
  (612, 1, 1, 42343), (613, 1, 1, 42280), (614, 1, 1, 42308), (618, 1, 1, 42308),
  (619, 1, 1, 10743), (620, 1, 1, 42305), (625, 1, 1, 10749), (637, 1, 1, 10727),
  (642, 1, 1, 42307), (647, 1, 1, 42282), (669, 1, 1, 42261), (670, 1, 1, 42258),
  (880, 2, 2, 1), (886, 1, 1, 1), (891, 1, 3, 130), (895, 1, 1, 116), (902, 1, 1, 38),
  (904, 1, 3, 37), (908, 1, 1, 64), (910, 1, 2, 63), (912, 1, 1, 7235), (913, 2, 2, 32),
  (916, 2, 2, 32), (919, 1, 1, 32), (923, 2, 3, 32), (926, 1, 1, 32), (932, 1, 2, 32),
  (935, 1, 2, 32), (938, 1, 2, 32), (944, 1, 1, 7219), (975, 1, 1, 8), (984, 2, 12, 1),
  (1010, 1, 1, 7), (1015, 1, 1, 1), (1018, 1, 1, 1), (1024, 1, 16, 80), (1040, 1, 2, 32),
  (1043, 2, 7, 32), (1046, 2, 4, 32), (1056, 1, 1, 32), (1059, 1, 7, 32), (1067, 1, 5, 32),
  (1120, 1, 1, 1), (1124, 2, 15, 1), (1162, 2, 27, 1), (1216, 1, 1, 15), (1217, 2, 7, 1),
  (1232, 2, 48, 1), (1329, 1, 38, 48), (4256, 1, 38, 7264), (4295, 1, 1, 7264),
  (4301, 1, 1, 7264), (4304, 1, 43, 3008), (4349, 1, 3, 3008), (5024, 1, 80, 38864),
  (5104, 1, 6, 8), (7305, 1, 1, 1), (7545, 1, 1, 35332), (7549, 1, 1, 3814),
  (7566, 1, 1, 35384), (7680, 2, 48, 1), (7778, 2, 26, 1), (7840, 2, 48, 1), (7936, 1, 8, 8),
  (7952, 1, 6, 8), (7968, 1, 8, 8), (7984, 1, 8, 8), (8000, 1, 6, 8), (8017, 2, 4, 8),
  (8032, 1, 8, 8), (8048, 1, 2, 74), (8050, 1, 4, 86), (8054, 1, 2, 100), (8056, 1, 2, 128),
  (8058, 1, 2, 112), (8060, 1, 2, 126), (8064, 1, 8, 8), (8080, 1, 8, 8), (8096, 1, 8, 8),
  (8112, 1, 2, 8), (8115, 1, 1, 9), (8131, 1, 1, 9), (8144, 1, 2, 8), (8160, 1, 2, 8),
  (8165, 1, 1, 7), (8179, 1, 1, 9), (8498, 1, 1, 28), (8544, 1, 16, 16), (8579, 1, 1, 1),
  (9398, 1, 26, 26), (11264, 1, 48, 48), (11360, 1, 1, 1), (11367, 2, 3, 1), (11378, 1, 1, 1),
  (11381, 1, 1, 1), (11392, 2, 50, 1), (11499, 2, 2, 1), (11506, 1, 1, 1), (42560, 2, 5, 1),
  (42572, 2, 17, 1), (42624, 2, 14, 1), (42786, 2, 7, 1), (42802, 2, 31, 1), (42873, 2, 2, 1),
  (42878, 2, 5, 1), (42891, 1, 1, 1), (42896, 2, 2, 1), (42900, 1, 1, 48), (42902, 2, 10, 1),
  (42931, 1, 1, 928), (42932, 2, 8, 1), (42951, 2, 2, 1), (42956, 1, 1, 1), (42960, 1, 1, 1),
  (42966, 2, 3, 1), (42997, 1, 1, 1), (64261, 1, 1, 1), (65313, 1, 26, 32), (66560, 1, 40, 40),
  (66736, 1, 36, 40), (66928, 2, 19, 39), (66929, 2, 5, 39), (66941, 2, 7, 39),
  (66957, 2, 3, 39), (66965, 1, 1, 39), (68736, 1, 51, 64), (68944, 1, 22, 32),
  (71840, 1, 32, 32), (93760, 1, 32, 32), (125184, 1, 34, 34)]

/-- The larger groups of characters that differ only in case. -/
def caseGroups : List (List Nat) := [
  [0x4b, 0x6b, 0x212a],
  [0x53, 0x73, 0x17f],
  [0xb5, 0x39c, 0x3bc],
  [0xc5, 0xe5, 0x212b],
  [0x1c4, 0x1c5, 0x1c6],
  [0x1c7, 0x1c8, 0x1c9],
  [0x1ca, 0x1cb, 0x1cc],
  [0x1f1, 0x1f2, 0x1f3],
  [0x345, 0x399, 0x3b9, 0x1fbe],
  [0x392, 0x3b2, 0x3d0],
  [0x395, 0x3b5, 0x3f5],
  [0x398, 0x3b8, 0x3d1, 0x3f4],
  [0x39a, 0x3ba, 0x3f0],
  [0x3a0, 0x3c0, 0x3d6],
  [0x3a1, 0x3c1, 0x3f1],
  [0x3a3, 0x3c2, 0x3c3],
  [0x3a6, 0x3c6, 0x3d5],
  [0x3a9, 0x3c9, 0x2126],
  [0x412, 0x432, 0x1c80],
  [0x414, 0x434, 0x1c81],
  [0x41e, 0x43e, 0x1c82],
  [0x421, 0x441, 0x1c83],
  [0x422, 0x442, 0x1c84, 0x1c85],
  [0x42a, 0x44a, 0x1c86],
  [0x462, 0x463, 0x1c87],
  [0x1c88, 0xa64a, 0xa64b],
  [0x1e60, 0x1e61, 0x1e9b]]

/-- All groups of characters that differ only in case. -/
def caseClasses : List (List Nat) :=
  (casePairRuns.flatMap progressionPairs).map (fun (a, b) => [a, b]) ++ caseGroups

/-- The smallest set above the given one that holds all or none of each group of characters that
differ only in case. -/
def CharSet.closeUnderCase (s : CharSet) : CharSet :=
  let touched := caseClasses.filter fun group => group.any s.contains
  s.union (CharSet.ofRanges (touched.flatten.map fun c => (c, c)))

/-- The lower case of the characters that have one of their own, except U+0130. -/
def lowerCaseRuns : List (Nat × Nat × Nat × Int) := [
  (65, 1, 26, 32), (192, 1, 23, 32), (216, 1, 7, 32), (256, 2, 24, 1), (306, 2, 3, 1),
  (313, 2, 8, 1), (330, 2, 23, 1), (376, 1, 1, -121), (377, 2, 3, 1), (385, 1, 1, 210),
  (386, 2, 2, 1), (390, 1, 1, 206), (391, 1, 1, 1), (393, 1, 2, 205), (395, 1, 1, 1),
  (398, 1, 1, 79), (399, 1, 1, 202), (400, 1, 1, 203), (401, 1, 1, 1), (403, 1, 1, 205),
  (404, 1, 1, 207), (406, 1, 1, 211), (407, 1, 1, 209), (408, 1, 1, 1), (412, 1, 1, 211),
  (413, 1, 1, 213), (415, 1, 1, 214), (416, 2, 3, 1), (422, 1, 1, 218), (423, 1, 1, 1),
  (425, 1, 1, 218), (428, 1, 1, 1), (430, 1, 1, 218), (431, 1, 1, 1), (433, 1, 2, 217),
  (435, 2, 2, 1), (439, 1, 1, 219), (440, 1, 1, 1), (444, 1, 1, 1), (452, 1, 1, 2),
  (453, 1, 1, 1), (455, 1, 1, 2), (456, 1, 1, 1), (458, 1, 1, 2), (459, 2, 9, 1),
  (478, 2, 9, 1), (497, 1, 1, 2), (498, 2, 2, 1), (502, 1, 1, -97), (503, 1, 1, -56),
  (504, 2, 20, 1), (544, 1, 1, -130), (546, 2, 9, 1), (570, 1, 1, 10795), (571, 1, 1, 1),
  (573, 1, 1, -163), (574, 1, 1, 10792), (577, 1, 1, 1), (579, 1, 1, -195), (580, 1, 1, 69),
  (581, 1, 1, 71), (582, 2, 5, 1), (880, 2, 2, 1), (886, 1, 1, 1), (895, 1, 1, 116),
  (902, 1, 1, 38), (904, 1, 3, 37), (908, 1, 1, 64), (910, 1, 2, 63), (913, 1, 17, 32),
  (931, 1, 9, 32), (975, 1, 1, 8), (984, 2, 12, 1), (1012, 1, 1, -60), (1015, 1, 1, 1),
  (1017, 1, 1, -7), (1018, 1, 1, 1), (1021, 1, 3, -130), (1024, 1, 16, 80), (1040, 1, 32, 32),
  (1120, 2, 17, 1), (1162, 2, 27, 1), (1216, 1, 1, 15), (1217, 2, 7, 1), (1232, 2, 48, 1),
  (1329, 1, 38, 48), (4256, 1, 38, 7264), (4295, 1, 1, 7264), (4301, 1, 1, 7264),
  (5024, 1, 80, 38864), (5104, 1, 6, 8), (7305, 1, 1, 1), (7312, 1, 43, -3008),
  (7357, 1, 3, -3008), (7680, 2, 75, 1), (7838, 1, 1, -7615), (7840, 2, 48, 1),
  (7944, 1, 8, -8), (7960, 1, 6, -8), (7976, 1, 8, -8), (7992, 1, 8, -8), (8008, 1, 6, -8),
  (8025, 2, 4, -8), (8040, 1, 8, -8), (8072, 1, 8, -8), (8088, 1, 8, -8), (8104, 1, 8, -8),
  (8120, 1, 2, -8), (8122, 1, 2, -74), (8124, 1, 1, -9), (8136, 1, 4, -86), (8140, 1, 1, -9),
  (8152, 1, 2, -8), (8154, 1, 2, -100), (8168, 1, 2, -8), (8170, 1, 2, -112), (8172, 1, 1, -7),
  (8184, 1, 2, -128), (8186, 1, 2, -126), (8188, 1, 1, -9), (8486, 1, 1, -7517),
  (8490, 1, 1, -8383), (8491, 1, 1, -8262), (8498, 1, 1, 28), (8544, 1, 16, 16),
  (8579, 1, 1, 1), (9398, 1, 26, 26), (11264, 1, 48, 48), (11360, 1, 1, 1),
  (11362, 1, 1, -10743), (11363, 1, 1, -3814), (11364, 1, 1, -10727), (11367, 2, 3, 1),
  (11373, 1, 1, -10780), (11374, 1, 1, -10749), (11375, 1, 1, -10783), (11376, 1, 1, -10782),
  (11378, 1, 1, 1), (11381, 1, 1, 1), (11390, 1, 2, -10815), (11392, 2, 50, 1),
  (11499, 2, 2, 1), (11506, 1, 1, 1), (42560, 2, 23, 1), (42624, 2, 14, 1), (42786, 2, 7, 1),
  (42802, 2, 31, 1), (42873, 2, 2, 1), (42877, 1, 1, -35332), (42878, 2, 5, 1),
  (42891, 1, 1, 1), (42893, 1, 1, -42280), (42896, 2, 2, 1), (42902, 2, 10, 1),
  (42922, 1, 1, -42308), (42923, 1, 1, -42319), (42924, 1, 1, -42315), (42925, 1, 1, -42305),
  (42926, 1, 1, -42308), (42928, 1, 1, -42258), (42929, 1, 1, -42282), (42930, 1, 1, -42261),
  (42931, 1, 1, 928), (42932, 2, 8, 1), (42948, 1, 1, -48), (42949, 1, 1, -42307),
  (42950, 1, 1, -35384), (42951, 2, 2, 1), (42955, 1, 1, -42343), (42956, 1, 1, 1),
  (42960, 1, 1, 1), (42966, 2, 3, 1), (42972, 1, 1, -42561), (42997, 1, 1, 1),
  (65313, 1, 26, 32), (66560, 1, 40, 40), (66736, 1, 36, 40), (66928, 2, 19, 39),
  (66929, 2, 5, 39), (66941, 2, 7, 39), (66957, 2, 3, 39), (66965, 1, 1, 39),
  (68736, 1, 51, 64), (68944, 1, 22, 32), (71840, 1, 32, 32), (93760, 1, 32, 32),
  (125184, 1, 34, 34)]

/-- The lower case of one character, apart from its surroundings. U+0130 is the one character
whose lower case is two. -/
def lowerChar (c : Char) : List Char :=
  if c.toNat = 0x130 then ['i', Char.ofNat 0x307]
  else
    match lowerCaseRuns.find? fun (first, step, count, _) =>
        first ≤ c.toNat ∧ c.toNat ≤ first + step * (count - 1) ∧ (c.toNat - first) % step = 0 with
    | some (_, _, _, distance) => [Char.ofNat ((c.toNat : Int) + distance).toNat]
    | none => [c]

/-- Whether the nearest character of a list that is not skipped is a letter with case. -/
def casedNearby : List Char → Bool
  | [] => false
  | c :: rest =>
    if Property.caseIgnorable.contains c.toNat then casedNearby rest
    else Property.cased.contains c.toNat

/-- The lower case of a text whose characters so far, nearest first, are `before`. A capital sigma
that ends a word becomes the final sigma. -/
def lowerFrom (before : List Char) : List Char → List Char
  | [] => []
  | c :: rest =>
    (if c.toNat = 0x3a3 then
      if casedNearby before && !casedNearby rest then ['ς'] else ['σ']
    else lowerChar c) ++ lowerFrom (c :: before) rest

/-- The lower case of a text. -/
def toLower (s : String) : String :=
  String.ofList (lowerFrom [] s.toList)

end AlertRules.Text
