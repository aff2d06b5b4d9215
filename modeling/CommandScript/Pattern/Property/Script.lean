import CommandScript.Pattern.Property.Basic

/-! The scripts that characters belong to. A character that several scripts share has the common or the inherited
    script, or one of its own, and a list of those that use it. -/

namespace CommandScript.Pattern

/-- The script of every code point, or a hyphen where none is known. -/
def scripts : Division := .read
  [
    "0 zyyy 41 latn 5B zyyy 61 latn 7B zyyy AA latn AB zyyy BA latn BB zyyy C0 latn D7 zyyy D8 latn F7 zyyy F8",
    "latn 2B9 zyyy 2E0 latn 2E5 zyyy 2EA bopo 2EC zyyy 300 zinh 370 grek 374 zyyy 375 grek 378 - 37A grek 37E",
    "zyyy 37F grek 380 - 384 grek 385 zyyy 386 grek 387 zyyy 388 grek 38B - 38C grek 38D - 38E grek 3A2 - 3A3",
    "grek 3E2 copt 3F0 grek 400 cyrl 485 zinh 487 cyrl 530 - 531 armn 557 - 559 armn 58B - 58D armn 590 - 591",
    "hebr 5C8 - 5D0 hebr 5EB - 5EF hebr 5F5 - 600 arab 605 zyyy 606 arab 60C zyyy 60D arab 61B zyyy 61C arab 61F",
    "zyyy 620 arab 640 zyyy 641 arab 64B zinh 656 arab 670 zinh 671 arab 6DD zyyy 6DE arab 700 syrc 70E - 70F",
    "syrc 74B - 74D syrc 750 arab 780 thaa 7B2 - 7C0 nkoo 7FB - 7FD nkoo 800 samr 82E - 830 samr 83F - 840 mand",
    "85C - 85E mand 85F - 860 syrc 86B - 870 arab 88F - 890 arab 892 - 897 arab 8E2 zyyy 8E3 arab 900 deva 951",
    "zinh 955 deva 964 zyyy 966 deva 980 beng 984 - 985 beng 98D - 98F beng 991 - 993 beng 9A9 - 9AA beng 9B1 -",
    "9B2 beng 9B3 - 9B6 beng 9BA - 9BC beng 9C5 - 9C7 beng 9C9 - 9CB beng 9CF - 9D7 beng 9D8 - 9DC beng 9DE - 9DF",
    "beng 9E4 - 9E6 beng 9FF - A01 guru A04 - A05 guru A0B - A0F guru A11 - A13 guru A29 - A2A guru A31 - A32",
    "guru A34 - A35 guru A37 - A38 guru A3A - A3C guru A3D - A3E guru A43 - A47 guru A49 - A4B guru A4E - A51",
    "guru A52 - A59 guru A5D - A5E guru A5F - A66 guru A77 - A81 gujr A84 - A85 gujr A8E - A8F gujr A92 - A93",
    "gujr AA9 - AAA gujr AB1 - AB2 gujr AB4 - AB5 gujr ABA - ABC gujr AC6 - AC7 gujr ACA - ACB gujr ACE - AD0",
    "gujr AD1 - AE0 gujr AE4 - AE6 gujr AF2 - AF9 gujr B00 - B01 orya B04 - B05 orya B0D - B0F orya B11 - B13",
    "orya B29 - B2A orya B31 - B32 orya B34 - B35 orya B3A - B3C orya B45 - B47 orya B49 - B4B orya B4E - B55",
    "orya B58 - B5C orya B5E - B5F orya B64 - B66 orya B78 - B82 taml B84 - B85 taml B8B - B8E taml B91 - B92",
    "taml B96 - B99 taml B9B - B9C taml B9D - B9E taml BA0 - BA3 taml BA5 - BA8 taml BAB - BAE taml BBA - BBE",
    "taml BC3 - BC6 taml BC9 - BCA taml BCE - BD0 taml BD1 - BD7 taml BD8 - BE6 taml BFB - C00 telu C0D - C0E",
    "telu C11 - C12 telu C29 - C2A telu C3A - C3C telu C45 - C46 telu C49 - C4A telu C4E - C55 telu C57 - C58",
    "telu C5B - C5D telu C5E - C60 telu C64 - C66 telu C70 - C77 telu C80 knda C8D - C8E knda C91 - C92 knda CA9",
    "- CAA knda CB4 - CB5 knda CBA - CBC knda CC5 - CC6 knda CC9 - CCA knda CCE - CD5 knda CD7 - CDD knda CDF -",
    "CE0 knda CE4 - CE6 knda CF0 - CF1 knda CF4 - D00 mlym D0D - D0E mlym D11 - D12 mlym D45 - D46 mlym D49 - D4A",
    "mlym D50 - D54 mlym D64 - D66 mlym D80 - D81 sinh D84 - D85 sinh D97 - D9A sinh DB2 - DB3 sinh DBC - DBD",
    "sinh DBE - DC0 sinh DC7 - DCA sinh DCB - DCF sinh DD5 - DD6 sinh DD7 - DD8 sinh DE0 - DE6 sinh DF0 - DF2",
    "sinh DF5 - E01 thai E3B - E3F zyyy E40 thai E5C - E81 laoo E83 - E84 laoo E85 - E86 laoo E8B - E8C laoo EA4",
    "- EA5 laoo EA6 - EA7 laoo EBE - EC0 laoo EC5 - EC6 laoo EC7 - EC8 laoo ECF - ED0 laoo EDA - EDC laoo EE0 -",
    "F00 tibt F48 - F49 tibt F6D - F71 tibt F98 - F99 tibt FBD - FBE tibt FCD - FCE tibt FD5 zyyy FD9 tibt FDB -",
    "1000 mymr 10A0 geor 10C6 - 10C7 geor 10C8 - 10CD geor 10CE - 10D0 geor 10FB zyyy 10FC geor 1100 hang 1200",
    "ethi 1249 - 124A ethi 124E - 1250 ethi 1257 - 1258 ethi 1259 - 125A ethi 125E - 1260 ethi 1289 - 128A ethi",
    "128E - 1290 ethi 12B1 - 12B2 ethi 12B6 - 12B8 ethi 12BF - 12C0 ethi 12C1 - 12C2 ethi 12C6 - 12C8 ethi 12D7 -",
    "12D8 ethi 1311 - 1312 ethi 1316 - 1318 ethi 135B - 135D ethi 137D - 1380 ethi 139A - 13A0 cher 13F6 - 13F8",
    "cher 13FE - 1400 cans 1680 ogam 169D - 16A0 runr 16EB zyyy 16EE runr 16F9 - 1700 tglg 1716 - 171F tglg 1720",
    "hano 1735 zyyy 1737 - 1740 buhd 1754 - 1760 tagb 176D - 176E tagb 1771 - 1772 tagb 1774 - 1780 khmr 17DE -",
    "17E0 khmr 17EA - 17F0 khmr 17FA - 1800 mong 1802 zyyy 1804 mong 1805 zyyy 1806 mong 181A - 1820 mong 1879 -",
    "1880 mong 18AB - 18B0 cans 18F6 - 1900 limb 191F - 1920 limb 192C - 1930 limb 193C - 1940 limb 1941 - 1944",
    "limb 1950 tale 196E - 1970 tale 1975 - 1980 talu 19AC - 19B0 talu 19CA - 19D0 talu 19DB - 19DE talu 19E0",
    "khmr 1A00 bugi 1A1C - 1A1E bugi 1A20 lana 1A5F - 1A60 lana 1A7D - 1A7F lana 1A8A - 1A90 lana 1A9A - 1AA0",
    "lana 1AAE - 1AB0 zinh 1ACF - 1B00 bali 1B4D - 1B4E bali 1B80 sund 1BC0 batk 1BF4 - 1BFC batk 1C00 lepc 1C38",
    "- 1C3B lepc 1C4A - 1C4D lepc 1C50 olck 1C80 cyrl 1C8B - 1C90 geor 1CBB - 1CBD geor 1CC0 sund 1CC8 - 1CD0",
    "zinh 1CD3 zyyy 1CD4 zinh 1CE1 zyyy 1CE2 zinh 1CE9 zyyy 1CED zinh 1CEE zyyy 1CF4 zinh 1CF5 zyyy 1CF8 zinh",
    "1CFA zyyy 1CFB - 1D00 latn 1D26 grek 1D2B cyrl 1D2C latn 1D5D grek 1D62 latn 1D66 grek 1D6B latn 1D78 cyrl",
    "1D79 latn 1DBF grek 1DC0 zinh 1E00 latn 1F00 grek 1F16 - 1F18 grek 1F1E - 1F20 grek 1F46 - 1F48 grek 1F4E -",
    "1F50 grek 1F58 - 1F59 grek 1F5A - 1F5B grek 1F5C - 1F5D grek 1F5E - 1F5F grek 1F7E - 1F80 grek 1FB5 - 1FB6",
    "grek 1FC5 - 1FC6 grek 1FD4 - 1FD6 grek 1FDC - 1FDD grek 1FF0 - 1FF2 grek 1FF5 - 1FF6 grek 1FFF - 2000 zyyy",
    "200C zinh 200E zyyy 2065 - 2066 zyyy 2071 latn 2072 - 2074 zyyy 207F latn 2080 zyyy 208F - 2090 latn 209D -",
    "20A0 zyyy 20C1 - 20D0 zinh 20F1 - 2100 zyyy 2126 grek 2127 zyyy 212A latn 212C zyyy 2132 latn 2133 zyyy 214E",
    "latn 214F zyyy 2160 latn 2189 zyyy 218C - 2190 zyyy 242A - 2440 zyyy 244B - 2460 zyyy 2800 brai 2900 zyyy",
    "2B74 - 2B76 zyyy 2B96 - 2B97 zyyy 2C00 glag 2C60 latn 2C80 copt 2CF4 - 2CF9 copt 2D00 geor 2D26 - 2D27 geor",
    "2D28 - 2D2D geor 2D2E - 2D30 tfng 2D68 - 2D6F tfng 2D71 - 2D7F tfng 2D80 ethi 2D97 - 2DA0 ethi 2DA7 - 2DA8",
    "ethi 2DAF - 2DB0 ethi 2DB7 - 2DB8 ethi 2DBF - 2DC0 ethi 2DC7 - 2DC8 ethi 2DCF - 2DD0 ethi 2DD7 - 2DD8 ethi",
    "2DDF - 2DE0 cyrl 2E00 zyyy 2E5E - 2E80 hani 2E9A - 2E9B hani 2EF4 - 2F00 hani 2FD6 - 2FF0 zyyy 3005 hani",
    "3006 zyyy 3007 hani 3008 zyyy 3021 hani 302A zinh 302E hang 3030 zyyy 3038 hani 303C zyyy 3040 - 3041 hira",
    "3097 - 3099 zinh 309B zyyy 309D hira 30A0 zyyy 30A1 kana 30FB zyyy 30FD kana 3100 - 3105 bopo 3130 - 3131",
    "hang 318F - 3190 zyyy 31A0 bopo 31C0 zyyy 31E6 - 31EF zyyy 31F0 kana 3200 hang 321F - 3220 zyyy 3260 hang",
    "327F zyyy 32D0 kana 32FF zyyy 3300 kana 3358 zyyy 3400 hani 4DC0 zyyy 4E00 hani A000 yiii A48D - A490 yiii",
    "A4C7 - A4D0 lisu A500 vaii A62C - A640 cyrl A6A0 bamu A6F8 - A700 zyyy A722 latn A788 zyyy A78B latn A7CE -",
    "A7D0 latn A7D2 - A7D3 latn A7D4 - A7D5 latn A7DD - A7F2 latn A800 sylo A82D - A830 zyyy A83A - A840 phag",
    "A878 - A880 saur A8C6 - A8CE saur A8DA - A8E0 deva A900 kali A92E zyyy A92F kali A930 rjng A954 - A95F rjng",
    "A960 hang A97D - A980 java A9CE - A9CF zyyy A9D0 java A9DA - A9DE java A9E0 mymr A9FF - AA00 cham AA37 -",
    "AA40 cham AA4E - AA50 cham AA5A - AA5C cham AA60 mymr AA80 tavt AAC3 - AADB tavt AAE0 mtei AAF7 - AB01 ethi",
    "AB07 - AB09 ethi AB0F - AB11 ethi AB17 - AB20 ethi AB27 - AB28 ethi AB2F - AB30 latn AB5B zyyy AB5C latn",
    "AB65 grek AB66 latn AB6A zyyy AB6C - AB70 cher ABC0 mtei ABEE - ABF0 mtei ABFA - AC00 hang D7A4 - D7B0 hang",
    "D7C7 - D7CB hang D7FC - F900 hani FA6E - FA70 hani FADA - FB00 latn FB07 - FB13 armn FB18 - FB1D hebr FB37 -",
    "FB38 hebr FB3D - FB3E hebr FB3F - FB40 hebr FB42 - FB43 hebr FB45 - FB46 hebr FB50 arab FBC3 - FBD3 arab",
    "FD3E zyyy FD40 arab FD90 - FD92 arab FDC8 - FDCF arab FDD0 - FDF0 arab FE00 zinh FE10 zyyy FE1A - FE20 zinh",
    "FE2E cyrl FE30 zyyy FE53 - FE54 zyyy FE67 - FE68 zyyy FE6C - FE70 arab FE75 - FE76 arab FEFD - FEFF zyyy",
    "FF00 - FF01 zyyy FF21 latn FF3B zyyy FF41 latn FF5B zyyy FF66 kana FF70 zyyy FF71 kana FF9E zyyy FFA0 hang",
    "FFBF - FFC2 hang FFC8 - FFCA hang FFD0 - FFD2 hang FFD8 - FFDA hang FFDD - FFE0 zyyy FFE7 - FFE8 zyyy FFEF -",
    "FFF9 zyyy FFFE - 10000 linb 1000C - 1000D linb 10027 - 10028 linb 1003B - 1003C linb 1003E - 1003F linb",
    "1004E - 10050 linb 1005E - 10080 linb 100FB - 10100 zyyy 10103 - 10107 zyyy 10134 - 10137 zyyy 10140 grek",
    "1018F - 10190 zyyy 1019D - 101A0 grek 101A1 - 101D0 zyyy 101FD zinh 101FE - 10280 lyci 1029D - 102A0 cari",
    "102D1 - 102E0 zinh 102E1 zyyy 102FC - 10300 ital 10324 - 1032D ital 10330 goth 1034B - 10350 perm 1037B -",
    "10380 ugar 1039E - 1039F ugar 103A0 xpeo 103C4 - 103C8 xpeo 103D6 - 10400 dsrt 10450 shaw 10480 osma 1049E -",
    "104A0 osma 104AA - 104B0 osge 104D4 - 104D8 osge 104FC - 10500 elba 10528 - 10530 aghb 10564 - 1056F aghb",
    "10570 vith 1057B - 1057C vith 1058B - 1058C vith 10593 - 10594 vith 10596 - 10597 vith 105A2 - 105A3 vith",
    "105B2 - 105B3 vith 105BA - 105BB vith 105BD - 105C0 todr 105F4 - 10600 lina 10737 - 10740 lina 10756 - 10760",
    "lina 10768 - 10780 latn 10786 - 10787 latn 107B1 - 107B2 latn 107BB - 10800 cprt 10806 - 10808 cprt 10809 -",
    "1080A cprt 10836 - 10837 cprt 10839 - 1083C cprt 1083D - 1083F cprt 10840 armi 10856 - 10857 armi 10860 palm",
    "10880 nbat 1089F - 108A7 nbat 108B0 - 108E0 hatr 108F3 - 108F4 hatr 108F6 - 108FB hatr 10900 phnx 1091C -",
    "1091F phnx 10920 lydi 1093A - 1093F lydi 10940 - 10980 mero 109A0 merc 109B8 - 109BC merc 109D0 - 109D2 merc",
    "10A00 khar 10A04 - 10A05 khar 10A07 - 10A0C khar 10A14 - 10A15 khar 10A18 - 10A19 khar 10A36 - 10A38 khar",
    "10A3B - 10A3F khar 10A49 - 10A50 khar 10A59 - 10A60 sarb 10A80 narb 10AA0 - 10AC0 mani 10AE7 - 10AEB mani",
    "10AF7 - 10B00 avst 10B36 - 10B39 avst 10B40 prti 10B56 - 10B58 prti 10B60 phli 10B73 - 10B78 phli 10B80 phlp",
    "10B92 - 10B99 phlp 10B9D - 10BA9 phlp 10BB0 - 10C00 orkh 10C49 - 10C80 hung 10CB3 - 10CC0 hung 10CF3 - 10CFA",
    "hung 10D00 rohg 10D28 - 10D30 rohg 10D3A - 10D40 gara 10D66 - 10D69 gara 10D86 - 10D8E gara 10D90 - 10E60",
    "arab 10E7F - 10E80 yezi 10EAA - 10EAB yezi 10EAE - 10EB0 yezi 10EB2 - 10EC2 arab 10EC5 - 10EFC arab 10F00",
    "sogo 10F28 - 10F30 sogd 10F5A - 10F70 ougr 10F8A - 10FB0 chrs 10FCC - 10FE0 elym 10FF7 - 11000 brah 1104E -",
    "11052 brah 11076 - 1107F brah 11080 kthi 110C3 - 110CD kthi 110CE - 110D0 sora 110E9 - 110F0 sora 110FA -",
    "11100 cakm 11135 - 11136 cakm 11148 - 11150 mahj 11177 - 11180 shrd 111E0 - 111E1 sinh 111F5 - 11200 khoj",
    "11212 - 11213 khoj 11242 - 11280 mult 11287 - 11288 mult 11289 - 1128A mult 1128E - 1128F mult 1129E - 1129F",
    "mult 112AA - 112B0 sind 112EB - 112F0 sind 112FA - 11300 gran 11304 - 11305 gran 1130D - 1130F gran 11311 -",
    "11313 gran 11329 - 1132A gran 11331 - 11332 gran 11334 - 11335 gran 1133A - 1133B zinh 1133C gran 11345 -",
    "11347 gran 11349 - 1134B gran 1134E - 11350 gran 11351 - 11357 gran 11358 - 1135D gran 11364 - 11366 gran",
    "1136D - 11370 gran 11375 - 11380 tutg 1138A - 1138B tutg 1138C - 1138E tutg 1138F - 11390 tutg 113B6 - 113B7",
    "tutg 113C1 - 113C2 tutg 113C3 - 113C5 tutg 113C6 - 113C7 tutg 113CB - 113CC tutg 113D6 - 113D7 tutg 113D9 -",
    "113E1 tutg 113E3 - 11400 newa 1145C - 1145D newa 11462 - 11480 tirh 114C8 - 114D0 tirh 114DA - 11580 sidd",
    "115B6 - 115B8 sidd 115DE - 11600 modi 11645 - 11650 modi 1165A - 11660 mong 1166D - 11680 takr 116BA - 116C0",
    "takr 116CA - 116D0 mymr 116E4 - 11700 ahom 1171B - 1171D ahom 1172C - 11730 ahom 11747 - 11800 dogr 1183C -",
    "118A0 wara 118F3 - 118FF wara 11900 diak 11907 - 11909 diak 1190A - 1190C diak 11914 - 11915 diak 11917 -",
    "11918 diak 11936 - 11937 diak 11939 - 1193B diak 11947 - 11950 diak 1195A - 119A0 nand 119A8 - 119AA nand",
    "119D8 - 119DA nand 119E5 - 11A00 zanb 11A48 - 11A50 soyo 11AA3 - 11AB0 cans 11AC0 pauc 11AF9 - 11B00 deva",
    "11B0A - 11BC0 sunu 11BE2 - 11BF0 sunu 11BFA - 11C00 bhks 11C09 - 11C0A bhks 11C37 - 11C38 bhks 11C46 - 11C50",
    "bhks 11C6D - 11C70 marc 11C90 - 11C92 marc 11CA8 - 11CA9 marc 11CB7 - 11D00 gonm 11D07 - 11D08 gonm 11D0A -",
    "11D0B gonm 11D37 - 11D3A gonm 11D3B - 11D3C gonm 11D3E - 11D3F gonm 11D48 - 11D50 gonm 11D5A - 11D60 gong",
    "11D66 - 11D67 gong 11D69 - 11D6A gong 11D8F - 11D90 gong 11D92 - 11D93 gong 11D99 - 11DA0 gong 11DAA - 11EE0",
    "maka 11EF9 - 11F00 kawi 11F11 - 11F12 kawi 11F3B - 11F3E kawi 11F5B - 11FB0 lisu 11FB1 - 11FC0 taml 11FF2 -",
    "11FFF taml 12000 xsux 1239A - 12400 xsux 1246F - 12470 xsux 12475 - 12480 xsux 12544 - 12F90 cpmn 12FF3 -",
    "13000 egyp 13456 - 13460 egyp 143FB - 14400 hluw 14647 - 16100 gukh 1613A - 16800 bamu 16A39 - 16A40 mroo",
    "16A5F - 16A60 mroo 16A6A - 16A6E mroo 16A70 tnsa 16ABF - 16AC0 tnsa 16ACA - 16AD0 bass 16AEE - 16AF0 bass",
    "16AF6 - 16B00 hmng 16B46 - 16B50 hmng 16B5A - 16B5B hmng 16B62 - 16B63 hmng 16B78 - 16B7D hmng 16B90 - 16D40",
    "krai 16D7A - 16E40 medf 16E9B - 16F00 plrd 16F4B - 16F4F plrd 16F88 - 16F8F plrd 16FA0 - 16FE0 tang 16FE1",
    "nshu 16FE2 hani 16FE4 kits 16FE5 - 16FF0 hani 16FF2 - 17000 tang 187F8 - 18800 tang 18B00 kits 18CD6 - 18CFF",
    "kits 18D00 tang 18D09 - 1AFF0 kana 1AFF4 - 1AFF5 kana 1AFFC - 1AFFD kana 1AFFF - 1B000 kana 1B001 hira 1B120",
    "kana 1B123 - 1B132 hira 1B133 - 1B150 hira 1B153 - 1B155 kana 1B156 - 1B164 kana 1B168 - 1B170 nshu 1B2FC -",
    "1BC00 dupl 1BC6B - 1BC70 dupl 1BC7D - 1BC80 dupl 1BC89 - 1BC90 dupl 1BC9A - 1BC9C dupl 1BCA0 zyyy 1BCA4 -",
    "1CC00 zyyy 1CCFA - 1CD00 zyyy 1CEB4 - 1CF00 zinh 1CF2E - 1CF30 zinh 1CF47 - 1CF50 zyyy 1CFC4 - 1D000 zyyy",
    "1D0F6 - 1D100 zyyy 1D127 - 1D129 zyyy 1D167 zinh 1D16A zyyy 1D17B zinh 1D183 zyyy 1D185 zinh 1D18C zyyy",
    "1D1AA zinh 1D1AE zyyy 1D1EB - 1D200 grek 1D246 - 1D2C0 zyyy 1D2D4 - 1D2E0 zyyy 1D2F4 - 1D300 zyyy 1D357 -",
    "1D360 zyyy 1D379 - 1D400 zyyy 1D455 - 1D456 zyyy 1D49D - 1D49E zyyy 1D4A0 - 1D4A2 zyyy 1D4A3 - 1D4A5 zyyy",
    "1D4A7 - 1D4A9 zyyy 1D4AD - 1D4AE zyyy 1D4BA - 1D4BB zyyy 1D4BC - 1D4BD zyyy 1D4C4 - 1D4C5 zyyy 1D506 - 1D507",
    "zyyy 1D50B - 1D50D zyyy 1D515 - 1D516 zyyy 1D51D - 1D51E zyyy 1D53A - 1D53B zyyy 1D53F - 1D540 zyyy 1D545 -",
    "1D546 zyyy 1D547 - 1D54A zyyy 1D551 - 1D552 zyyy 1D6A6 - 1D6A8 zyyy 1D7CC - 1D7CE zyyy 1D800 sgnw 1DA8C -",
    "1DA9B sgnw 1DAA0 - 1DAA1 sgnw 1DAB0 - 1DF00 latn 1DF1F - 1DF25 latn 1DF2B - 1E000 glag 1E007 - 1E008 glag",
    "1E019 - 1E01B glag 1E022 - 1E023 glag 1E025 - 1E026 glag 1E02B - 1E030 cyrl 1E06E - 1E08F cyrl 1E090 - 1E100",
    "hmnp 1E12D - 1E130 hmnp 1E13E - 1E140 hmnp 1E14A - 1E14E hmnp 1E150 - 1E290 toto 1E2AF - 1E2C0 wcho 1E2FA -",
    "1E2FF wcho 1E300 - 1E4D0 nagm 1E4FA - 1E5D0 onao 1E5FB - 1E5FF onao 1E600 - 1E7E0 ethi 1E7E7 - 1E7E8 ethi",
    "1E7EC - 1E7ED ethi 1E7EF - 1E7F0 ethi 1E7FF - 1E800 mend 1E8C5 - 1E8C7 mend 1E8D7 - 1E900 adlm 1E94C - 1E950",
    "adlm 1E95A - 1E95E adlm 1E960 - 1EC71 zyyy 1ECB5 - 1ED01 zyyy 1ED3E - 1EE00 arab 1EE04 - 1EE05 arab 1EE20 -",
    "1EE21 arab 1EE23 - 1EE24 arab 1EE25 - 1EE27 arab 1EE28 - 1EE29 arab 1EE33 - 1EE34 arab 1EE38 - 1EE39 arab",
    "1EE3A - 1EE3B arab 1EE3C - 1EE42 arab 1EE43 - 1EE47 arab 1EE48 - 1EE49 arab 1EE4A - 1EE4B arab 1EE4C - 1EE4D",
    "arab 1EE50 - 1EE51 arab 1EE53 - 1EE54 arab 1EE55 - 1EE57 arab 1EE58 - 1EE59 arab 1EE5A - 1EE5B arab 1EE5C -",
    "1EE5D arab 1EE5E - 1EE5F arab 1EE60 - 1EE61 arab 1EE63 - 1EE64 arab 1EE65 - 1EE67 arab 1EE6B - 1EE6C arab",
    "1EE73 - 1EE74 arab 1EE78 - 1EE79 arab 1EE7D - 1EE7E arab 1EE7F - 1EE80 arab 1EE8A - 1EE8B arab 1EE9C - 1EEA1",
    "arab 1EEA4 - 1EEA5 arab 1EEAA - 1EEAB arab 1EEBC - 1EEF0 arab 1EEF2 - 1F000 zyyy 1F02C - 1F030 zyyy 1F094 -",
    "1F0A0 zyyy 1F0AF - 1F0B1 zyyy 1F0C0 - 1F0C1 zyyy 1F0D0 - 1F0D1 zyyy 1F0F6 - 1F100 zyyy 1F1AE - 1F1E6 zyyy",
    "1F200 hira 1F201 zyyy 1F203 - 1F210 zyyy 1F23C - 1F240 zyyy 1F249 - 1F250 zyyy 1F252 - 1F260 zyyy 1F266 -",
    "1F300 zyyy 1F6D8 - 1F6DC zyyy 1F6ED - 1F6F0 zyyy 1F6FD - 1F700 zyyy 1F777 - 1F77B zyyy 1F7DA - 1F7E0 zyyy",
    "1F7EC - 1F7F0 zyyy 1F7F1 - 1F800 zyyy 1F80C - 1F810 zyyy 1F848 - 1F850 zyyy 1F85A - 1F860 zyyy 1F888 - 1F890",
    "zyyy 1F8AE - 1F8B0 zyyy 1F8BC - 1F8C0 zyyy 1F8C2 - 1F900 zyyy 1FA54 - 1FA60 zyyy 1FA6E - 1FA70 zyyy 1FA7D -",
    "1FA80 zyyy 1FA8A - 1FA8F zyyy 1FAC7 - 1FACE zyyy 1FADD - 1FADF zyyy 1FAEA - 1FAF0 zyyy 1FAF9 - 1FB00 zyyy",
    "1FB93 - 1FB94 zyyy 1FBFA - 20000 hani 2A6E0 - 2A700 hani 2B73A - 2B740 hani 2B81E - 2B820 hani 2CEA2 - 2CEB0",
    "hani 2EBE1 - 2EBF0 hani 2EE5E - 2F800 hani 2FA1E - 30000 hani 3134B - 31350 hani 323B0 - E0001 zyyy E0002 -",
    "E0020 zyyy E0080 - E0100 zinh E01F0 -"
  ]

/-- The scripts that use a code point, or a hyphen where it is used by no other than its own. -/
def sharedScripts : Division := .read
  [
    "0 - B7 avst/cari/copt/dupl/elba/geor/glag/gong/goth/grek/hani/latn/lydi/mahj/perm/shaw B8 - 2BC",
    "beng/cyrl/deva/latn/lisu/thai/toto 2BD - 2C7 bopo/latn 2C8 - 2C9 bopo/latn 2CC - 2CD latn/lisu 2CE - 2D7",
    "latn/thai 2D8 - 2D9 bopo/latn 2DA - 300 cher/copt/cyrl/grek/latn/perm/sunu/tale 301",
    "cher/cyrl/grek/latn/osge/sunu/tale/todr 302 cher/cyrl/latn/tfng 303 glag/latn/sunu/syrc/thai 304",
    "aghb/cher/copt/cyrl/goth/grek/latn/osge/syrc/tfng/todr 305 copt/elba/glag/goth/kana/latn 306",
    "cyrl/grek/latn/perm 307 copt/dupl/hebr/latn/perm/syrc/tale/tfng/todr 308",
    "armn/cyrl/dupl/goth/grek/hebr/latn/perm/syrc/tale 309 latn/tfng 30A dupl/latn/syrc 30B cher/cyrl/latn/osge",
    "30C cher/latn/tale 30D latn/sunu 30E ethi/latn 30F - 310 latn/sunu 311 cyrl/latn/todr 312 - 313",
    "grek/latn/perm/todr 314 - 320 latn/syrc 321 - 323 cher/dupl/kana/latn/syrc 324 cher/dupl/latn/syrc 325",
    "latn/syrc 326 - 32D latn/sunu/syrc 32E latn/syrc 32F - 330 cher/latn/syrc 331 aghb/cher/goth/latn/sunu/thai",
    "332 - 342 grek 343 - 345 grek 346 - 358 latn/osge 359 - 35E aghb/latn/todr 35F - 363 latn 370 - 374",
    "copt/grek 376 - 483 cyrl/perm 484 cyrl/glag 485 cyrl/latn 487 cyrl/glag 488 - 589 armn/geor/glag 58A - 60C",
    "arab/gara/nkoo/rohg/syrc/thaa/yezi 60D - 61B arab/gara/nkoo/rohg/syrc/thaa/yezi 61C arab/syrc/thaa 61D - 61F",
    "adlm/arab/gara/nkoo/rohg/syrc/thaa/yezi 620 - 640 adlm/arab/mand/mani/ougr/phlp/rohg/sogd/syrc 641 - 64B",
    "arab/syrc 656 - 660 arab/thaa/yezi 66A - 670 arab/syrc 671 - 6D4 arab/rohg 6D5 - 951",
    "beng/deva/gran/gujr/guru/knda/latn/mlym/orya/shrd/taml/telu/tirh 952",
    "beng/deva/gran/gujr/guru/knda/latn/mlym/orya/taml/telu/tirh 953 - 964",
    "beng/deva/dogr/gong/gonm/gran/gujr/guru/knda/mahj/mlym/nand/onao/orya/sind/sinh/sylo/takr/taml/telu/tirh 965",
    "beng/deva/dogr/gong/gonm/gran/gujr/gukh/guru/knda/limb/mahj/mlym/nand/onao/orya/sind/sinh/sylo/takr/taml/telu/tirh",
    "966 deva/dogr/kthi/mahj 970 - 9E6 beng/cakm/sylo 9F0 - A66 guru/mult A70 - AE6 gujr/khoj AF0 - BE6 gran/taml",
    "BF4 - CE6 knda/nand/tutg CF0 - 1040 cakm/mymr/tale 104A - 10FB geor/glag/latn 10FC - 16EB runr 16EE - 1735",
    "buhd/hano/tagb/tglg 1737 - 1802 mong/phag 1804 - 1805 mong/phag 1806 - 1CD0 beng/deva/gran/knda 1CD1 deva",
    "1CD2 beng/deva/gran/knda 1CD3 deva/gran/knda 1CD4 deva 1CD5 beng/deva 1CD7 deva/shrd 1CD8 beng/deva 1CD9",
    "deva/shrd 1CDA deva/knda/mlym/orya/taml/telu 1CDB deva 1CDC deva/shrd 1CDE deva 1CE0 deva/shrd 1CE1",
    "beng/deva 1CE2 deva 1CE9 deva/nand 1CEA beng/deva 1CEB deva 1CED beng/deva 1CEE deva 1CF2",
    "beng/deva/gran/knda/mlym/nand/orya/sinh/telu/tirh/tutg 1CF3 deva/gran 1CF4 deva/gran/knda/tutg 1CF5",
    "beng/deva 1CF7 beng 1CF8 deva/gran 1CFA nand 1CFB - 1DC0 grek 1DC2 - 1DF8 cyrl/latn/syrc 1DF9 - 1DFA syrc",
    "1DFB - 202F latn/mong/phag 2030 - 204F adlm/arab 2050 - 205A cari/geor/glag/hung/lyci/orkh 205B - 205D",
    "cari/grek/hung/mero 205E - 20F0 deva/gran/latn 20F1 - 2E17 copt/latn 2E18 - 2E30 avst/orkh 2E31",
    "avst/cari/geor/hung/kthi/lydi/samr 2E32 - 2E3C dupl 2E3D - 2E41 adlm/arab/hung 2E42 - 2E43 cyrl/glag 2E44 -",
    "2FF0 hani/tang 3000 - 3001 bopo/hang/hani/hira/kana/mong/yiii 3002 bopo/hang/hani/hira/kana/mong/phag/yiii",
    "3003 bopo/hang/hani/hira/kana 3004 - 3006 hani 3007 - 3008 bopo/hang/hani/hira/kana/mong/tibt/yiii 300A",
    "bopo/hang/hani/hira/kana/lisu/mong/tibt/yiii 300C bopo/hang/hani/hira/kana/yiii 3012 - 3013",
    "bopo/hang/hani/hira/kana 3014 bopo/hang/hani/hira/kana/yiii 301C bopo/hang/hani/hira/kana 3020 - 302A",
    "bopo/hani 302E - 3030 bopo/hang/hani/hira/kana 3031 hira/kana 3036 - 3037 bopo/hang/hani/hira/kana 3038 -",
    "303C hani/hira/kana 303E hani 3040 - 3099 hira/kana 309D - 30A0 hira/kana 30A1 - 30FB",
    "bopo/hang/hani/hira/kana/yiii 30FC hira/kana 30FD - 3190 hani 31A0 - 31C0 hani 31E6 - 31EF hani/tang 31F0 -",
    "3220 hani 3248 - 3280 hani 32B1 - 32C0 hani 32CC - 32FF hani 3300 - 3358 hani 3371 - 337B hani 3380 - 33E0",
    "hani 33FF - A66F cyrl/glag A670 - A700 hani/latn A708 - A830",
    "deva/dogr/gujr/guru/khoj/knda/kthi/mahj/mlym/modi/nand/shrd/sind/takr/tirh/tutg A833",
    "deva/dogr/gujr/guru/khoj/knda/kthi/mahj/modi/nand/shrd/sind/takr/tirh/tutg A836",
    "deva/dogr/gujr/guru/khoj/kthi/mahj/modi/sind/takr/tirh A838",
    "deva/dogr/gujr/guru/khoj/kthi/mahj/modi/shrd/sind/takr/tirh A839",
    "deva/dogr/gujr/guru/khoj/kthi/mahj/modi/sind/takr/tirh A83A - A8F1 beng/deva/tutg A8F2 - A8F3 deva/taml A8F4",
    "- A92E kali/latn/mymr A92F - A9CF bugi/java A9D0 - FD3E arab/nkoo FD40 - FDF2 arab/thaa FDF3 - FDFD",
    "arab/thaa FDFE - FE45 bopo/hang/hani/hira/kana FE47 - FF61 bopo/hang/hani/hira/kana/yiii FF66 - FF70",
    "hira/kana FF71 - FF9E hira/kana FFA0 - 10100 cpmn/cprt/linb 10102 cprt/linb 10103 - 10107 cprt/lina/linb",
    "10134 - 10137 cprt/linb 10140 - 102E0 arab/copt 102FC - 10AF2 mani/ougr 10AF3 - 11301 gran/taml 11302 -",
    "11303 gran/taml 11304 - 1133B gran/taml 1133D - 11FD0 gran/taml 11FD2 - 11FD3 gran/taml 11FD4 - 1BCA0 dupl",
    "1BCA4 - 1D360 hani 1D372 - 1F250 hani 1F252 -"
  ]

/-- The names of scripts. -/
def scriptNames : List (List String) := readNames
  [
    "adlm/adlam aghb/caucasianalbanian ahom arab/arabic armi/imperialaramaic armn/armenian avst/avestan",
    "bali/balinese bamu/bamum bass/bassavah batk/batak beng/bengali bhks/bhaiksuki bopo/bopomofo brah/brahmi",
    "brai/braille bugi/buginese buhd/buhid cakm/chakma cans/canadianaboriginal cari/carian cham cher/cherokee",
    "chrs/chorasmian copt/coptic/qaac cpmn/cyprominoan cprt/cypriot cyrl/cyrillic deva/devanagari diak/divesakuru",
    "dogr/dogra dsrt/deseret dupl/duployan egyp/egyptianhieroglyphs elba/elbasan elym/elymaic ethi/ethiopic",
    "gara/garay geor/georgian glag/glagolitic gong/gunjalagondi gonm/masaramgondi goth/gothic gran/grantha",
    "grek/greek gujr/gujarati gukh/gurungkhema guru/gurmukhi hang/hangul hani/han hano/hanunoo hatr/hatran",
    "hebr/hebrew hira/hiragana hluw/anatolianhieroglyphs hmng/pahawhhmong hmnp/nyiakengpuachuehmong",
    "hrkt/katakanaorhiragana hung/oldhungarian ital/olditalic java/javanese kali/kayahli kana/katakana kawi",
    "khar/kharoshthi khmr/khmer khoj/khojki kits/khitansmallscript knda/kannada krai/kiratrai kthi/kaithi",
    "lana/taitham laoo/lao latn/latin lepc/lepcha limb/limbu lina/lineara linb/linearb lisu lyci/lycian",
    "lydi/lydian mahj/mahajani maka/makasar mand/mandaic mani/manichaean marc/marchen medf/medefaidrin",
    "mend/mendekikakui merc/meroiticcursive mero/meroitichieroglyphs mlym/malayalam modi mong/mongolian mroo/mro",
    "mtei/meeteimayek mult/multani mymr/myanmar nagm/nagmundari nand/nandinagari narb/oldnortharabian",
    "nbat/nabataean newa nkoo/nko nshu/nushu ogam/ogham olck/olchiki onao/olonal orkh/oldturkic orya/oriya",
    "osge/osage osma/osmanya ougr/olduyghur palm/palmyrene pauc/paucinhau perm/oldpermic phag/phagspa",
    "phli/inscriptionalpahlavi phlp/psalterpahlavi phnx/phoenician plrd/miao prti/inscriptionalparthian",
    "rjng/rejang rohg/hanifirohingya runr/runic samr/samaritan sarb/oldsoutharabian saur/saurashtra",
    "sgnw/signwriting shaw/shavian shrd/sharada sidd/siddham sind/khudawadi sinh/sinhala sogd/sogdian",
    "sogo/oldsogdian sora/sorasompeng soyo/soyombo sund/sundanese sunu/sunuwar sylo/sylotinagri syrc/syriac",
    "tagb/tagbanwa takr/takri tale/taile talu/newtailue taml/tamil tang/tangut tavt/taiviet telu/telugu",
    "tfng/tifinagh tglg/tagalog thaa/thaana thai tibt/tibetan tirh/tirhuta tnsa/tangsa todr/todhri toto",
    "tutg/tulutigalari ugar/ugaritic vaii/vai vith/vithkuqi wara/warangciti wcho/wancho xpeo/oldpersian",
    "xsux/cuneiform yezi/yezidi yiii/yi zanb/zanabazarsquare zinh/inherited/qaai zyyy/common zzzz/unknown"
  ]

/-- The script as a property. -/
def script : ValuedProperty where
  names := ["sc", "script"]
  values := scriptNames
  set? value := (scripts.set (· == value)).nonempty?

/-- The scripts that use a character as a property. -/
def scriptExtensions : ValuedProperty where
  names := ["scx", "scriptextensions"]
  values := scriptNames
  set? value :=
    let own := (scripts.set (· == value)).inter (sharedScripts.set (· == "-"))
    let shared := sharedScripts.set fun names => (Text.splitChar '/' names.toList).contains value.toList
    (own.union shared).nonempty?

end CommandScript.Pattern
