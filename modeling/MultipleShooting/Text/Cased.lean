/-
**Characters that have case.**

`isCased` is the Unicode property of the same name: the capital, small and title letters and the
other characters that count as capital or small.
-/
import MultipleShooting.Text.CodeRange

namespace MultipleShooting

namespace Text

set_option maxRecDepth 4000 in
/-- The characters that have case. -/
def casedRanges : Array CodeRange :=
  #[
    ⟨65, 90⟩, ⟨97, 122⟩, ⟨170, 170⟩, ⟨181, 181⟩, ⟨186, 186⟩, ⟨192, 214⟩, ⟨216, 246⟩, ⟨248, 442⟩,
    ⟨444, 447⟩, ⟨452, 659⟩, ⟨662, 696⟩, ⟨704, 705⟩, ⟨736, 740⟩, ⟨837, 837⟩, ⟨880, 883⟩, ⟨886, 887⟩,
    ⟨890, 893⟩, ⟨895, 895⟩, ⟨902, 902⟩, ⟨904, 906⟩, ⟨908, 908⟩, ⟨910, 929⟩, ⟨931, 1013⟩,
    ⟨1015, 1153⟩, ⟨1162, 1327⟩, ⟨1329, 1366⟩, ⟨1376, 1416⟩, ⟨4256, 4293⟩, ⟨4295, 4295⟩,
    ⟨4301, 4301⟩, ⟨4304, 4346⟩, ⟨4348, 4351⟩, ⟨5024, 5109⟩, ⟨5112, 5117⟩, ⟨7296, 7306⟩,
    ⟨7312, 7354⟩, ⟨7357, 7359⟩, ⟨7424, 7615⟩, ⟨7680, 7957⟩, ⟨7960, 7965⟩, ⟨7968, 8005⟩,
    ⟨8008, 8013⟩, ⟨8016, 8023⟩, ⟨8025, 8025⟩, ⟨8027, 8027⟩, ⟨8029, 8029⟩, ⟨8031, 8061⟩,
    ⟨8064, 8116⟩, ⟨8118, 8124⟩, ⟨8126, 8126⟩, ⟨8130, 8132⟩, ⟨8134, 8140⟩, ⟨8144, 8147⟩,
    ⟨8150, 8155⟩, ⟨8160, 8172⟩, ⟨8178, 8180⟩, ⟨8182, 8188⟩, ⟨8305, 8305⟩, ⟨8319, 8319⟩,
    ⟨8336, 8348⟩, ⟨8450, 8450⟩, ⟨8455, 8455⟩, ⟨8458, 8467⟩, ⟨8469, 8469⟩, ⟨8473, 8477⟩,
    ⟨8484, 8484⟩, ⟨8486, 8486⟩, ⟨8488, 8488⟩, ⟨8490, 8493⟩, ⟨8495, 8500⟩, ⟨8505, 8505⟩,
    ⟨8508, 8511⟩, ⟨8517, 8521⟩, ⟨8526, 8526⟩, ⟨8544, 8575⟩, ⟨8579, 8580⟩, ⟨9398, 9449⟩,
    ⟨11264, 11492⟩, ⟨11499, 11502⟩, ⟨11506, 11507⟩, ⟨11520, 11557⟩, ⟨11559, 11559⟩, ⟨11565, 11565⟩,
    ⟨42560, 42605⟩, ⟨42624, 42653⟩, ⟨42786, 42887⟩, ⟨42891, 42894⟩, ⟨42896, 42972⟩, ⟨42993, 42998⟩,
    ⟨43000, 43002⟩, ⟨43824, 43866⟩, ⟨43868, 43881⟩, ⟨43888, 43967⟩, ⟨64256, 64262⟩, ⟨64275, 64279⟩,
    ⟨65313, 65338⟩, ⟨65345, 65370⟩, ⟨66560, 66639⟩, ⟨66736, 66771⟩, ⟨66776, 66811⟩, ⟨66928, 66938⟩,
    ⟨66940, 66954⟩, ⟨66956, 66962⟩, ⟨66964, 66965⟩, ⟨66967, 66977⟩, ⟨66979, 66993⟩, ⟨66995, 67001⟩,
    ⟨67003, 67004⟩, ⟨67456, 67456⟩, ⟨67459, 67461⟩, ⟨67463, 67504⟩, ⟨67506, 67514⟩, ⟨68736, 68786⟩,
    ⟨68800, 68850⟩, ⟨68944, 68965⟩, ⟨68976, 68997⟩, ⟨71840, 71903⟩, ⟨93760, 93823⟩, ⟨93856, 93880⟩,
    ⟨93883, 93907⟩, ⟨119808, 119892⟩, ⟨119894, 119964⟩, ⟨119966, 119967⟩, ⟨119970, 119970⟩,
    ⟨119973, 119974⟩, ⟨119977, 119980⟩, ⟨119982, 119993⟩, ⟨119995, 119995⟩, ⟨119997, 120003⟩,
    ⟨120005, 120069⟩, ⟨120071, 120074⟩, ⟨120077, 120084⟩, ⟨120086, 120092⟩, ⟨120094, 120121⟩,
    ⟨120123, 120126⟩, ⟨120128, 120132⟩, ⟨120134, 120134⟩, ⟨120138, 120144⟩, ⟨120146, 120485⟩,
    ⟨120488, 120512⟩, ⟨120514, 120538⟩, ⟨120540, 120570⟩, ⟨120572, 120596⟩, ⟨120598, 120628⟩,
    ⟨120630, 120654⟩, ⟨120656, 120686⟩, ⟨120688, 120712⟩, ⟨120714, 120744⟩, ⟨120746, 120770⟩,
    ⟨120772, 120779⟩, ⟨122624, 122633⟩, ⟨122635, 122654⟩, ⟨122661, 122666⟩, ⟨122928, 122989⟩,
    ⟨125184, 125251⟩, ⟨127280, 127305⟩, ⟨127312, 127337⟩, ⟨127344, 127369⟩
  ]

/-- Whether a character has case. -/
def isCased (char : Char) : Bool := isWithin casedRanges char

end Text

end MultipleShooting
