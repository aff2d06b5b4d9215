import CommandScript.Pattern.Property.Basic

/-! Which characters another case turns into something else. -/

namespace CommandScript.Pattern

/-- The changes of every code point: `l` in lower case, `u` in upper case, `t` in title case, and `f` where case is
    folded; a hyphen where there are none. -/
def caseChanges : Division := .read
  [
    "0 - 41 lf 5B - 61 ut 7B - B5 utf B6 - C0 lf D7 - D8 lf DF utf E0 ut F7 - F8 ut 100 lf 101 ut 102 lf 103 ut",
    "104 lf 105 ut 106 lf 107 ut 108 lf 109 ut 10A lf 10B ut 10C lf 10D ut 10E lf 10F ut 110 lf 111 ut 112 lf 113",
    "ut 114 lf 115 ut 116 lf 117 ut 118 lf 119 ut 11A lf 11B ut 11C lf 11D ut 11E lf 11F ut 120 lf 121 ut 122 lf",
    "123 ut 124 lf 125 ut 126 lf 127 ut 128 lf 129 ut 12A lf 12B ut 12C lf 12D ut 12E lf 12F ut 130 lf 131 ut 132",
    "lf 133 ut 134 lf 135 ut 136 lf 137 ut 138 - 139 lf 13A ut 13B lf 13C ut 13D lf 13E ut 13F lf 140 ut 141 lf",
    "142 ut 143 lf 144 ut 145 lf 146 ut 147 lf 148 ut 149 utf 14A lf 14B ut 14C lf 14D ut 14E lf 14F ut 150 lf",
    "151 ut 152 lf 153 ut 154 lf 155 ut 156 lf 157 ut 158 lf 159 ut 15A lf 15B ut 15C lf 15D ut 15E lf 15F ut 160",
    "lf 161 ut 162 lf 163 ut 164 lf 165 ut 166 lf 167 ut 168 lf 169 ut 16A lf 16B ut 16C lf 16D ut 16E lf 16F ut",
    "170 lf 171 ut 172 lf 173 ut 174 lf 175 ut 176 lf 177 ut 178 lf 17A ut 17B lf 17C ut 17D lf 17E ut 17F utf",
    "180 ut 181 lf 183 ut 184 lf 185 ut 186 lf 188 ut 189 lf 18C ut 18D - 18E lf 192 ut 193 lf 195 ut 196 lf 199",
    "ut 19C lf 19E ut 19F lf 1A1 ut 1A2 lf 1A3 ut 1A4 lf 1A5 ut 1A6 lf 1A8 ut 1A9 lf 1AA - 1AC lf 1AD ut 1AE lf",
    "1B0 ut 1B1 lf 1B4 ut 1B5 lf 1B6 ut 1B7 lf 1B9 ut 1BA - 1BC lf 1BD ut 1BE - 1BF ut 1C0 - 1C4 ltf 1C5 luf 1C6",
    "ut 1C7 ltf 1C8 luf 1C9 ut 1CA ltf 1CB luf 1CC ut 1CD lf 1CE ut 1CF lf 1D0 ut 1D1 lf 1D2 ut 1D3 lf 1D4 ut 1D5",
    "lf 1D6 ut 1D7 lf 1D8 ut 1D9 lf 1DA ut 1DB lf 1DC ut 1DE lf 1DF ut 1E0 lf 1E1 ut 1E2 lf 1E3 ut 1E4 lf 1E5 ut",
    "1E6 lf 1E7 ut 1E8 lf 1E9 ut 1EA lf 1EB ut 1EC lf 1ED ut 1EE lf 1EF ut 1F1 ltf 1F2 luf 1F3 ut 1F4 lf 1F5 ut",
    "1F6 lf 1F9 ut 1FA lf 1FB ut 1FC lf 1FD ut 1FE lf 1FF ut 200 lf 201 ut 202 lf 203 ut 204 lf 205 ut 206 lf 207",
    "ut 208 lf 209 ut 20A lf 20B ut 20C lf 20D ut 20E lf 20F ut 210 lf 211 ut 212 lf 213 ut 214 lf 215 ut 216 lf",
    "217 ut 218 lf 219 ut 21A lf 21B ut 21C lf 21D ut 21E lf 21F ut 220 lf 221 - 222 lf 223 ut 224 lf 225 ut 226",
    "lf 227 ut 228 lf 229 ut 22A lf 22B ut 22C lf 22D ut 22E lf 22F ut 230 lf 231 ut 232 lf 233 ut 234 - 23A lf",
    "23C ut 23D lf 23F ut 241 lf 242 ut 243 lf 247 ut 248 lf 249 ut 24A lf 24B ut 24C lf 24D ut 24E lf 24F ut 255",
    "- 256 ut 258 - 259 ut 25A - 25B ut 25D - 260 ut 262 - 263 ut 267 - 268 ut 26D - 26F ut 270 - 271 ut 273 -",
    "275 ut 276 - 27D ut 27E - 280 ut 281 - 282 ut 284 - 287 ut 28D - 292 ut 293 - 29D ut 29F - 345 utf 346 - 370",
    "lf 371 ut 372 lf 373 ut 374 - 376 lf 377 ut 378 - 37B ut 37E - 37F lf 380 - 386 lf 387 - 388 lf 38B - 38C lf",
    "38D - 38E lf 390 ut 391 lf 3A2 - 3A3 lf 3AC ut 3C2 utf 3C3 ut 3CF lf 3D0 utf 3D2 - 3D5 utf 3D7 ut 3D8 lf 3D9",
    "ut 3DA lf 3DB ut 3DC lf 3DD ut 3DE lf 3DF ut 3E0 lf 3E1 ut 3E2 lf 3E3 ut 3E4 lf 3E5 ut 3E6 lf 3E7 ut 3E8 lf",
    "3E9 ut 3EA lf 3EB ut 3EC lf 3ED ut 3EE lf 3EF ut 3F0 utf 3F2 ut 3F4 lf 3F5 utf 3F6 - 3F7 lf 3F8 ut 3F9 lf",
    "3FB ut 3FC - 3FD lf 430 ut 460 lf 461 ut 462 lf 463 ut 464 lf 465 ut 466 lf 467 ut 468 lf 469 ut 46A lf 46B",
    "ut 46C lf 46D ut 46E lf 46F ut 470 lf 471 ut 472 lf 473 ut 474 lf 475 ut 476 lf 477 ut 478 lf 479 ut 47A lf",
    "47B ut 47C lf 47D ut 47E lf 47F ut 480 lf 481 ut 482 - 48A lf 48B ut 48C lf 48D ut 48E lf 48F ut 490 lf 491",
    "ut 492 lf 493 ut 494 lf 495 ut 496 lf 497 ut 498 lf 499 ut 49A lf 49B ut 49C lf 49D ut 49E lf 49F ut 4A0 lf",
    "4A1 ut 4A2 lf 4A3 ut 4A4 lf 4A5 ut 4A6 lf 4A7 ut 4A8 lf 4A9 ut 4AA lf 4AB ut 4AC lf 4AD ut 4AE lf 4AF ut 4B0",
    "lf 4B1 ut 4B2 lf 4B3 ut 4B4 lf 4B5 ut 4B6 lf 4B7 ut 4B8 lf 4B9 ut 4BA lf 4BB ut 4BC lf 4BD ut 4BE lf 4BF ut",
    "4C0 lf 4C2 ut 4C3 lf 4C4 ut 4C5 lf 4C6 ut 4C7 lf 4C8 ut 4C9 lf 4CA ut 4CB lf 4CC ut 4CD lf 4CE ut 4D0 lf 4D1",
    "ut 4D2 lf 4D3 ut 4D4 lf 4D5 ut 4D6 lf 4D7 ut 4D8 lf 4D9 ut 4DA lf 4DB ut 4DC lf 4DD ut 4DE lf 4DF ut 4E0 lf",
    "4E1 ut 4E2 lf 4E3 ut 4E4 lf 4E5 ut 4E6 lf 4E7 ut 4E8 lf 4E9 ut 4EA lf 4EB ut 4EC lf 4ED ut 4EE lf 4EF ut 4F0",
    "lf 4F1 ut 4F2 lf 4F3 ut 4F4 lf 4F5 ut 4F6 lf 4F7 ut 4F8 lf 4F9 ut 4FA lf 4FB ut 4FC lf 4FD ut 4FE lf 4FF ut",
    "500 lf 501 ut 502 lf 503 ut 504 lf 505 ut 506 lf 507 ut 508 lf 509 ut 50A lf 50B ut 50C lf 50D ut 50E lf 50F",
    "ut 510 lf 511 ut 512 lf 513 ut 514 lf 515 ut 516 lf 517 ut 518 lf 519 ut 51A lf 51B ut 51C lf 51D ut 51E lf",
    "51F ut 520 lf 521 ut 522 lf 523 ut 524 lf 525 ut 526 lf 527 ut 528 lf 529 ut 52A lf 52B ut 52C lf 52D ut 52E",
    "lf 52F ut 530 - 531 lf 557 - 561 ut 587 utf 588 - 10A0 lf 10C6 - 10C7 lf 10C8 - 10CD lf 10CE - 10D0 u 10FB -",
    "10FD u 1100 - 13A0 l 13F6 - 13F8 utf 13FE - 1C80 utf 1C89 lf 1C8A ut 1C8B - 1C90 lf 1CBB - 1CBD lf 1CC0 -",
    "1D79 ut 1D7A - 1D7D ut 1D7E - 1D8E ut 1D8F - 1E00 lf 1E01 ut 1E02 lf 1E03 ut 1E04 lf 1E05 ut 1E06 lf 1E07 ut",
    "1E08 lf 1E09 ut 1E0A lf 1E0B ut 1E0C lf 1E0D ut 1E0E lf 1E0F ut 1E10 lf 1E11 ut 1E12 lf 1E13 ut 1E14 lf 1E15",
    "ut 1E16 lf 1E17 ut 1E18 lf 1E19 ut 1E1A lf 1E1B ut 1E1C lf 1E1D ut 1E1E lf 1E1F ut 1E20 lf 1E21 ut 1E22 lf",
    "1E23 ut 1E24 lf 1E25 ut 1E26 lf 1E27 ut 1E28 lf 1E29 ut 1E2A lf 1E2B ut 1E2C lf 1E2D ut 1E2E lf 1E2F ut 1E30",
    "lf 1E31 ut 1E32 lf 1E33 ut 1E34 lf 1E35 ut 1E36 lf 1E37 ut 1E38 lf 1E39 ut 1E3A lf 1E3B ut 1E3C lf 1E3D ut",
    "1E3E lf 1E3F ut 1E40 lf 1E41 ut 1E42 lf 1E43 ut 1E44 lf 1E45 ut 1E46 lf 1E47 ut 1E48 lf 1E49 ut 1E4A lf 1E4B",
    "ut 1E4C lf 1E4D ut 1E4E lf 1E4F ut 1E50 lf 1E51 ut 1E52 lf 1E53 ut 1E54 lf 1E55 ut 1E56 lf 1E57 ut 1E58 lf",
    "1E59 ut 1E5A lf 1E5B ut 1E5C lf 1E5D ut 1E5E lf 1E5F ut 1E60 lf 1E61 ut 1E62 lf 1E63 ut 1E64 lf 1E65 ut 1E66",
    "lf 1E67 ut 1E68 lf 1E69 ut 1E6A lf 1E6B ut 1E6C lf 1E6D ut 1E6E lf 1E6F ut 1E70 lf 1E71 ut 1E72 lf 1E73 ut",
    "1E74 lf 1E75 ut 1E76 lf 1E77 ut 1E78 lf 1E79 ut 1E7A lf 1E7B ut 1E7C lf 1E7D ut 1E7E lf 1E7F ut 1E80 lf 1E81",
    "ut 1E82 lf 1E83 ut 1E84 lf 1E85 ut 1E86 lf 1E87 ut 1E88 lf 1E89 ut 1E8A lf 1E8B ut 1E8C lf 1E8D ut 1E8E lf",
    "1E8F ut 1E90 lf 1E91 ut 1E92 lf 1E93 ut 1E94 lf 1E95 ut 1E9A utf 1E9C - 1E9E lf 1E9F - 1EA0 lf 1EA1 ut 1EA2",
    "lf 1EA3 ut 1EA4 lf 1EA5 ut 1EA6 lf 1EA7 ut 1EA8 lf 1EA9 ut 1EAA lf 1EAB ut 1EAC lf 1EAD ut 1EAE lf 1EAF ut",
    "1EB0 lf 1EB1 ut 1EB2 lf 1EB3 ut 1EB4 lf 1EB5 ut 1EB6 lf 1EB7 ut 1EB8 lf 1EB9 ut 1EBA lf 1EBB ut 1EBC lf 1EBD",
    "ut 1EBE lf 1EBF ut 1EC0 lf 1EC1 ut 1EC2 lf 1EC3 ut 1EC4 lf 1EC5 ut 1EC6 lf 1EC7 ut 1EC8 lf 1EC9 ut 1ECA lf",
    "1ECB ut 1ECC lf 1ECD ut 1ECE lf 1ECF ut 1ED0 lf 1ED1 ut 1ED2 lf 1ED3 ut 1ED4 lf 1ED5 ut 1ED6 lf 1ED7 ut 1ED8",
    "lf 1ED9 ut 1EDA lf 1EDB ut 1EDC lf 1EDD ut 1EDE lf 1EDF ut 1EE0 lf 1EE1 ut 1EE2 lf 1EE3 ut 1EE4 lf 1EE5 ut",
    "1EE6 lf 1EE7 ut 1EE8 lf 1EE9 ut 1EEA lf 1EEB ut 1EEC lf 1EED ut 1EEE lf 1EEF ut 1EF0 lf 1EF1 ut 1EF2 lf 1EF3",
    "ut 1EF4 lf 1EF5 ut 1EF6 lf 1EF7 ut 1EF8 lf 1EF9 ut 1EFA lf 1EFB ut 1EFC lf 1EFD ut 1EFE lf 1EFF ut 1F08 lf",
    "1F10 ut 1F16 - 1F18 lf 1F1E - 1F20 ut 1F28 lf 1F30 ut 1F38 lf 1F40 ut 1F46 - 1F48 lf 1F4E - 1F50 ut 1F58 -",
    "1F59 lf 1F5A - 1F5B lf 1F5C - 1F5D lf 1F5E - 1F5F lf 1F60 ut 1F68 lf 1F70 ut 1F7E - 1F80 utf 1F88 luf 1F90",
    "utf 1F98 luf 1FA0 utf 1FA8 luf 1FB0 ut 1FB2 utf 1FB5 - 1FB6 ut 1FB7 utf 1FB8 lf 1FBC luf 1FBD - 1FBE ut 1FBF",
    "- 1FC2 utf 1FC5 - 1FC6 ut 1FC7 utf 1FC8 lf 1FCC luf 1FCD - 1FD0 ut 1FD4 - 1FD6 ut 1FD8 lf 1FDC - 1FE0 ut",
    "1FE8 lf 1FED - 1FF2 utf 1FF5 - 1FF6 ut 1FF7 utf 1FF8 lf 1FFC luf 1FFD - 2126 lf 2127 - 212A lf 212C - 2132",
    "lf 2133 - 214E ut 214F - 2160 lf 2170 ut 2180 - 2183 lf 2184 ut 2185 - 24B6 lf 24D0 ut 24EA - 2C00 lf 2C30",
    "ut 2C60 lf 2C61 ut 2C62 lf 2C65 ut 2C67 lf 2C68 ut 2C69 lf 2C6A ut 2C6B lf 2C6C ut 2C6D lf 2C71 - 2C72 lf",
    "2C73 ut 2C74 - 2C75 lf 2C76 ut 2C77 - 2C7E lf 2C81 ut 2C82 lf 2C83 ut 2C84 lf 2C85 ut 2C86 lf 2C87 ut 2C88",
    "lf 2C89 ut 2C8A lf 2C8B ut 2C8C lf 2C8D ut 2C8E lf 2C8F ut 2C90 lf 2C91 ut 2C92 lf 2C93 ut 2C94 lf 2C95 ut",
    "2C96 lf 2C97 ut 2C98 lf 2C99 ut 2C9A lf 2C9B ut 2C9C lf 2C9D ut 2C9E lf 2C9F ut 2CA0 lf 2CA1 ut 2CA2 lf 2CA3",
    "ut 2CA4 lf 2CA5 ut 2CA6 lf 2CA7 ut 2CA8 lf 2CA9 ut 2CAA lf 2CAB ut 2CAC lf 2CAD ut 2CAE lf 2CAF ut 2CB0 lf",
    "2CB1 ut 2CB2 lf 2CB3 ut 2CB4 lf 2CB5 ut 2CB6 lf 2CB7 ut 2CB8 lf 2CB9 ut 2CBA lf 2CBB ut 2CBC lf 2CBD ut 2CBE",
    "lf 2CBF ut 2CC0 lf 2CC1 ut 2CC2 lf 2CC3 ut 2CC4 lf 2CC5 ut 2CC6 lf 2CC7 ut 2CC8 lf 2CC9 ut 2CCA lf 2CCB ut",
    "2CCC lf 2CCD ut 2CCE lf 2CCF ut 2CD0 lf 2CD1 ut 2CD2 lf 2CD3 ut 2CD4 lf 2CD5 ut 2CD6 lf 2CD7 ut 2CD8 lf 2CD9",
    "ut 2CDA lf 2CDB ut 2CDC lf 2CDD ut 2CDE lf 2CDF ut 2CE0 lf 2CE1 ut 2CE2 lf 2CE3 ut 2CE4 - 2CEB lf 2CEC ut",
    "2CED lf 2CEE ut 2CEF - 2CF2 lf 2CF3 ut 2CF4 - 2D00 ut 2D26 - 2D27 ut 2D28 - 2D2D ut 2D2E - A640 lf A641 ut",
    "A642 lf A643 ut A644 lf A645 ut A646 lf A647 ut A648 lf A649 ut A64A lf A64B ut A64C lf A64D ut A64E lf A64F",
    "ut A650 lf A651 ut A652 lf A653 ut A654 lf A655 ut A656 lf A657 ut A658 lf A659 ut A65A lf A65B ut A65C lf",
    "A65D ut A65E lf A65F ut A660 lf A661 ut A662 lf A663 ut A664 lf A665 ut A666 lf A667 ut A668 lf A669 ut A66A",
    "lf A66B ut A66C lf A66D ut A66E - A680 lf A681 ut A682 lf A683 ut A684 lf A685 ut A686 lf A687 ut A688 lf",
    "A689 ut A68A lf A68B ut A68C lf A68D ut A68E lf A68F ut A690 lf A691 ut A692 lf A693 ut A694 lf A695 ut A696",
    "lf A697 ut A698 lf A699 ut A69A lf A69B ut A69C - A722 lf A723 ut A724 lf A725 ut A726 lf A727 ut A728 lf",
    "A729 ut A72A lf A72B ut A72C lf A72D ut A72E lf A72F ut A730 - A732 lf A733 ut A734 lf A735 ut A736 lf A737",
    "ut A738 lf A739 ut A73A lf A73B ut A73C lf A73D ut A73E lf A73F ut A740 lf A741 ut A742 lf A743 ut A744 lf",
    "A745 ut A746 lf A747 ut A748 lf A749 ut A74A lf A74B ut A74C lf A74D ut A74E lf A74F ut A750 lf A751 ut A752",
    "lf A753 ut A754 lf A755 ut A756 lf A757 ut A758 lf A759 ut A75A lf A75B ut A75C lf A75D ut A75E lf A75F ut",
    "A760 lf A761 ut A762 lf A763 ut A764 lf A765 ut A766 lf A767 ut A768 lf A769 ut A76A lf A76B ut A76C lf A76D",
    "ut A76E lf A76F ut A770 - A779 lf A77A ut A77B lf A77C ut A77D lf A77F ut A780 lf A781 ut A782 lf A783 ut",
    "A784 lf A785 ut A786 lf A787 ut A788 - A78B lf A78C ut A78D lf A78E - A790 lf A791 ut A792 lf A793 ut A795 -",
    "A796 lf A797 ut A798 lf A799 ut A79A lf A79B ut A79C lf A79D ut A79E lf A79F ut A7A0 lf A7A1 ut A7A2 lf A7A3",
    "ut A7A4 lf A7A5 ut A7A6 lf A7A7 ut A7A8 lf A7A9 ut A7AA lf A7AF - A7B0 lf A7B5 ut A7B6 lf A7B7 ut A7B8 lf",
    "A7B9 ut A7BA lf A7BB ut A7BC lf A7BD ut A7BE lf A7BF ut A7C0 lf A7C1 ut A7C2 lf A7C3 ut A7C4 lf A7C8 ut A7C9",
    "lf A7CA ut A7CB lf A7CD ut A7CE - A7D0 lf A7D1 ut A7D2 - A7D6 lf A7D7 ut A7D8 lf A7D9 ut A7DA lf A7DB ut",
    "A7DC lf A7DD - A7F5 lf A7F6 ut A7F7 - AB53 ut AB54 - AB70 utf ABC0 - FB00 utf FB07 - FB13 utf FB18 - FF21 lf",
    "FF3B - FF41 ut FF5B - 10400 lf 10428 ut 10450 - 104B0 lf 104D4 - 104D8 ut 104FC - 10570 lf 1057B - 1057C lf",
    "1058B - 1058C lf 10593 - 10594 lf 10596 - 10597 ut 105A2 - 105A3 ut 105B2 - 105B3 ut 105BA - 105BB ut 105BD",
    "- 10C80 lf 10CB3 - 10CC0 ut 10CF3 - 10D50 lf 10D66 - 10D70 ut 10D86 - 118A0 lf 118C0 ut 118E0 - 16E40 lf",
    "16E60 ut 16E80 - 1E900 lf 1E922 ut 1E944 -"
  ]

/-- The characters that one of some changes alters. -/
def CharSet.changed (changes : List Char) : CharSet :=
  caseChanges.set fun letters => changes.any letters.toList.contains

end CommandScript.Pattern
