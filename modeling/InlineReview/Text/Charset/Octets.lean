import InlineReview.Unicode.Spans

/-!
# Character sets of single octets

In each of these sets an octet stands for one character.  A set is given by the spans of octets
that do not stand for the character with their own number; an octet without an image stands for
nothing.
-/

namespace InlineReview.Text

open Unicode

/-- The sets with their names. -/
def octetSets : List (String × List String) :=
  [("cp037", [
      "4>9C 5>9 6>86 7>7F 8>97 9-A>8D 14>9D 15>85 16>8 17>87 1A>92 1B>8F 20-24>80 25>A 26>17",
      "27>1B 28-2C>88 2D-2F>5 30-31>90 32>16 33-36>93 37>4 38-3B>98 3C-3D>14 3E>9E 3F>1A 40>20",
      "41>A0 42>E2 43>E4 44-45>E0 46>E3 47>E5 48>E7 49>F1 4A>A2 4B>2E 4C>3C 4D>28 4E>2B 4F>7C",
      "50>26 51-53>E9 54>E8 55-57>ED 58>EC 59>DF 5A>21 5B>24 5C>2A 5D>29 5E>3B 5F>AC 60>2D 61>2F",
      "62>C2 63>C4 64-65>C0 66>C3 67>C5 68>C7 69>D1 6A>A6 6B>2C 6C>25 6D>5F 6E-6F>3E 70>F8",
      "71-73>C9 74>C8 75-77>CD 78>CC 79>60 7A>3A 7B>23 7C>40 7D>27 7E>3D 7F>22 80>D8 81-89>61",
      "8A>AB 8B>BB 8C>F0 8D-8E>FD 8F>B1 90>B0 91-99>6A 9A>AA 9B>BA 9C>E6 9D>B8 9E>C6 9F>A4 A0>B5",
      "A1>7E A2-A9>73 AA>A1 AB>BF AC>D0 AD-AE>DD AF>AE B0>5E B1>A3 B2>A5 B3>B7 B4>A9 B5>A7",
      "B7-B9>BC BA>5B BB>5D BC>AF BD>A8 BE>B4 BF>D7 C0>7B C1-C9>41 CA>AD CB>F4 CC>F6 CD-CE>F2",
      "CF>F5 D0>7D D1-D9>4A DA>B9 DB-DC>FB DD-DE>F9 DF>FF E0>5C E1>F7 E2-E9>53 EA>B2 EB>D4 EC>D6",
      "ED-EE>D2 EF>D5 F0-F9>30 FA>B3 FB-FC>DB FD-FE>D9 FF>9F"]),
   ("cp1006", [
      "A1-AA>6F0 AB>60C AC>61B AE>61F AF>FE81 B0-B1>FE8D B2-B3>FE8E B4>FE91 B5>FB56 B6>FB58",
      "B7>FE93 B8>FE95 B9>FE97 BA>FB66 BB>FB68 BC>FE99 BD>FE9B BE>FE9D BF>FE9F C0>FB7A C1>FB7C",
      "C2>FEA1 C3>FEA3 C4>FEA5 C5>FEA7 C6>FEA9 C7>FB84 C8>FEAB C9>FEAD CA>FB8C CB>FEAF CC>FB8A",
      "CD>FEB1 CE>FEB3 CF>FEB5 D0>FEB7 D1>FEB9 D2>FEBB D3>FEBD D4>FEBF D5>FEC1 D6>FEC5 D7-DF>FEC9",
      "E0>FED3 E1>FED5 E2>FED7 E3>FED9 E4>FEDB E5>FB92 E6>FB94 E7>FEDD E8-EA>FEDF EB>FEE3 EC>FB9E",
      "ED>FEE5 EE>FEE7 EF>FE85 F0>FEED F1>FBA6 F2-F4>FBA8 F5>FE80 F6-F8>FE89 F9-FB>FEF1 FC>FBB0",
      "FD>FBAE FE-FF>FE7C"]),
   ("cp1026", [
      "4>9C 5>9 6>86 7>7F 8>97 9-A>8D 14>9D 15>85 16>8 17>87 1A>92 1B>8F 20-24>80 25>A 26>17",
      "27>1B 28-2C>88 2D-2F>5 30-31>90 32>16 33-36>93 37>4 38-3B>98 3C-3D>14 3E>9E 3F>1A 40>20",
      "41>A0 42>E2 43>E4 44-45>E0 46>E3 47>E5 48>7B 49>F1 4A>C7 4B>2E 4C>3C 4D>28 4E>2B 4F>21",
      "50>26 51-53>E9 54>E8 55-57>ED 58>EC 59>DF 5A>11E 5B>130 5C>2A 5D>29 5E>3B 5F>5E 60>2D",
      "61>2F 62>C2 63>C4 64-65>C0 66>C3 67>C5 68>5B 69>D1 6A>15F 6B>2C 6C>25 6D>5F 6E-6F>3E 70>F8",
      "71-73>C9 74>C8 75-77>CD 78>CC 79>131 7A>3A 7B>D6 7C>15E 7D>27 7E>3D 7F>DC 80>D8 81-89>61",
      "8A>AB 8B>BB 8C>7D 8D>60 8E>A6 8F>B1 90>B0 91-99>6A 9A>AA 9B>BA 9C>E6 9D>B8 9E>C6 9F>A4",
      "A0>B5 A1>F6 A2-A9>73 AA>A1 AB>BF AC>5D AD>24 AE>40 AF>AE B0-B1>A2 B2>A5 B3>B7 B4>A9 B5>A7",
      "B7-B9>BC BA>AC BB>7C BC>AF BD>A8 BE>B4 BF>D7 C0>E7 C1-C9>41 CA>AD CB>F4 CC>7E CD-CE>F2",
      "CF>F5 D0>11F D1-D9>4A DA>B9 DB>FB DC>5C DD-DE>F9 DF>FF E0>FC E1>F7 E2-E9>53 EA>B2 EB>D4",
      "EC>23 ED-EE>D2 EF>D5 F0-F9>30 FA>B3 FB>DB FC>22 FD-FE>D9 FF>9F"]),
   ("cp1125", [
      "80-AF>410 B0-B2>2591 B3>2502 B4>2524 B5-B6>2561 B7>2556 B8>2555 B9>2563 BA>2551 BB>2557",
      "BC>255D BD>255C BE>255B BF>2510 C0>2514 C1>2534 C2>252C C3>251C C4>2500 C5>253C C6-C7>255E",
      "C8>255A C9>2554 CA>2569 CB>2566 CC>2560 CD>2550 CE>256C CF-D0>2567 D1-D2>2564 D3>2559",
      "D4>2558 D5-D6>2552 D7>256B D8>256A D9>2518 DA>250C DB>2588 DC>2584 DD>258C DE>2590 DF>2580",
      "E0-EF>440 F0>401 F1>451 F2-F3>490 F4>404 F5>454 F6>406 F7>456 F8>407 F9>457 FA>B7 FB>221A",
      "FC>2116 FD>A4 FE>25A0 FF>A0"]),
   ("cp1140", [
      "4>9C 5>9 6>86 7>7F 8>97 9-A>8D 14>9D 15>85 16>8 17>87 1A>92 1B>8F 20-24>80 25>A 26>17",
      "27>1B 28-2C>88 2D-2F>5 30-31>90 32>16 33-36>93 37>4 38-3B>98 3C-3D>14 3E>9E 3F>1A 40>20",
      "41>A0 42>E2 43>E4 44-45>E0 46>E3 47>E5 48>E7 49>F1 4A>A2 4B>2E 4C>3C 4D>28 4E>2B 4F>7C",
      "50>26 51-53>E9 54>E8 55-57>ED 58>EC 59>DF 5A>21 5B>24 5C>2A 5D>29 5E>3B 5F>AC 60>2D 61>2F",
      "62>C2 63>C4 64-65>C0 66>C3 67>C5 68>C7 69>D1 6A>A6 6B>2C 6C>25 6D>5F 6E-6F>3E 70>F8",
      "71-73>C9 74>C8 75-77>CD 78>CC 79>60 7A>3A 7B>23 7C>40 7D>27 7E>3D 7F>22 80>D8 81-89>61",
      "8A>AB 8B>BB 8C>F0 8D-8E>FD 8F>B1 90>B0 91-99>6A 9A>AA 9B>BA 9C>E6 9D>B8 9E>C6 9F>20AC",
      "A0>B5 A1>7E A2-A9>73 AA>A1 AB>BF AC>D0 AD-AE>DD AF>AE B0>5E B1>A3 B2>A5 B3>B7 B4>A9 B5>A7",
      "B7-B9>BC BA>5B BB>5D BC>AF BD>A8 BE>B4 BF>D7 C0>7B C1-C9>41 CA>AD CB>F4 CC>F6 CD-CE>F2",
      "CF>F5 D0>7D D1-D9>4A DA>B9 DB-DC>FB DD-DE>F9 DF>FF E0>5C E1>F7 E2-E9>53 EA>B2 EB>D4 EC>D6",
      "ED-EE>D2 EF>D5 F0-F9>30 FA>B3 FB-FC>DB FD-FE>D9 FF>9F"]),
   ("cp1250", [
      "80>20AC 81> 82>201A 83> 84>201E 85>2026 86-87>2020 88> 89>2030 8A>160 8B>2039 8C>15A",
      "8D>164 8E>17D 8F>179 90> 91-92>2018 93-94>201C 95>2022 96-97>2013 98> 99>2122 9A>161",
      "9B>203A 9C>15B 9D>165 9E>17E 9F>17A A1>2C7 A2>2D8 A3>141 A5>104 AA>15E AF>17B B2>2DB",
      "B3>142 B9>105 BA>15F BC>13D BD>2DD BE>13E BF>17C C0>154 C3>102 C5>139 C6>106 C8>10C CA>118",
      "CC>11A CF>10E D0>110 D1>143 D2>147 D5>150 D8>158 D9>16E DB>170 DE>162 E0>155 E3>103 E5>13A",
      "E6>107 E8>10D EA>119 EC>11B EF>10F F0>111 F1>144 F2>148 F5>151 F8>159 F9>16F FB>171 FE>163",
      "FF>2D9"]),
   ("cp1251", [
      "80-81>402 82>201A 83>453 84>201E 85>2026 86-87>2020 88>20AC 89>2030 8A>409 8B>2039 8C>40A",
      "8D>40C 8E>40B 8F>40F 90>452 91-92>2018 93-94>201C 95>2022 96-97>2013 98> 99>2122 9A>459",
      "9B>203A 9C>45A 9D>45C 9E>45B 9F>45F A1>40E A2>45E A3>408 A5>490 A8>401 AA>404 AF>407",
      "B2>406 B3>456 B4>491 B8>451 B9>2116 BA>454 BC>458 BD>405 BE>455 BF>457 C0-FF>410"]),
   ("cp1252", [
      "80>20AC 81> 82>201A 83>192 84>201E 85>2026 86-87>2020 88>2C6 89>2030 8A>160 8B>2039 8C>152",
      "8D> 8E>17D 8F-90> 91-92>2018 93-94>201C 95>2022 96-97>2013 98>2DC 99>2122 9A>161 9B>203A",
      "9C>153 9D> 9E>17E 9F>178"]),
   ("cp1253", [
      "80>20AC 81> 82>201A 83>192 84>201E 85>2026 86-87>2020 88> 89>2030 8A> 8B>2039 8C-90>",
      "91-92>2018 93-94>201C 95>2022 96-97>2013 98> 99>2122 9A> 9B>203A 9C-9F> A1-A2>385 AA>",
      "AF>2015 B4>384 B8-BA>388 BC>38C BE-D1>38E D2> D3-FE>3A3 FF>"]),
   ("cp1254", [
      "80>20AC 81> 82>201A 83>192 84>201E 85>2026 86-87>2020 88>2C6 89>2030 8A>160 8B>2039 8C>152",
      "8D-90> 91-92>2018 93-94>201C 95>2022 96-97>2013 98>2DC 99>2122 9A>161 9B>203A 9C>153",
      "9D-9E> 9F>178 D0>11E DD>130 DE>15E F0>11F FD>131 FE>15F"]),
   ("cp1255", [
      "80>20AC 81> 82>201A 83>192 84>201E 85>2026 86-87>2020 88>2C6 89>2030 8A> 8B>2039 8C-90>",
      "91-92>2018 93-94>201C 95>2022 96-97>2013 98>2DC 99>2122 9A> 9B>203A 9C-9F> A4>20AA AA>D7",
      "BA>F7 C0-C9>5B0 CA> CB-D3>5BB D4-D8>5F0 D9-DF> E0-FA>5D0 FB-FC> FD-FE>200E FF>"]),
   ("cp1256", [
      "80>20AC 81>67E 82>201A 83>192 84>201E 85>2026 86-87>2020 88>2C6 89>2030 8A>679 8B>2039",
      "8C>152 8D>686 8E>698 8F>688 90>6AF 91-92>2018 93-94>201C 95>2022 96-97>2013 98>6A9 99>2122",
      "9A>691 9B>203A 9C>153 9D-9E>200C 9F>6BA A1>60C AA>6BE BA>61B BF>61F C0>6C1 C1-D6>621",
      "D8-DB>637 DC-DF>640 E1>644 E3-E6>645 EC-ED>649 F0-F3>64B F5-F6>64F F8>651 FA>652",
      "FD-FE>200E FF>6D2"]),
   ("cp1257", [
      "80>20AC 81> 82>201A 83> 84>201E 85>2026 86-87>2020 88> 89>2030 8A> 8B>2039 8C> 8D>A8",
      "8E>2C7 8F>B8 90> 91-92>2018 93-94>201C 95>2022 96-97>2013 98> 99>2122 9A> 9B>203A 9C>",
      "9D>AF 9E>2DB 9F> A1> A5> A8>D8 AA>156 AF>C6 B8>F8 BA>157 BF>E6 C0>104 C1>12E C2>100 C3>106",
      "C6>118 C7>112 C8>10C CA>179 CB>116 CC>122 CD>136 CE>12A CF>13B D0>160 D1>143 D2>145 D4>14C",
      "D8>172 D9>141 DA>15A DB>16A DD>17B DE>17D E0>105 E1>12F E2>101 E3>107 E6>119 E7>113 E8>10D",
      "EA>17A EB>117 EC>123 ED>137 EE>12B EF>13C F0>161 F1>144 F2>146 F4>14D F8>173 F9>142 FA>15B",
      "FB>16B FD>17C FE>17E FF>2D9"]),
   ("cp1258", [
      "80>20AC 81> 82>201A 83>192 84>201E 85>2026 86-87>2020 88>2C6 89>2030 8A> 8B>2039 8C>152",
      "8D-90> 91-92>2018 93-94>201C 95>2022 96-97>2013 98>2DC 99>2122 9A> 9B>203A 9C>153 9D-9E>",
      "9F>178 C3>102 CC>300 D0>110 D2>309 D5>1A0 DD>1AF DE>303 E3>103 EC>301 F0>111 F2>323 F5>1A1",
      "FD>1B0 FE>20AB"]),
   ("cp273", [
      "4>9C 5>9 6>86 7>7F 8>97 9-A>8D 14>9D 15>85 16>8 17>87 1A>92 1B>8F 20-24>80 25>A 26>17",
      "27>1B 28-2C>88 2D-2F>5 30-31>90 32>16 33-36>93 37>4 38-3B>98 3C-3D>14 3E>9E 3F>1A 40>20",
      "41>A0 42>E2 43>7B 44-45>E0 46>E3 47>E5 48>E7 49>F1 4A>C4 4B>2E 4C>3C 4D>28 4E>2B 4F>21",
      "50>26 51-53>E9 54>E8 55-57>ED 58>EC 59>7E 5A>DC 5B>24 5C>2A 5D>29 5E>3B 5F>5E 60>2D 61>2F",
      "62>C2 63>5B 64-65>C0 66>C3 67>C5 68>C7 69>D1 6A>F6 6B>2C 6C>25 6D>5F 6E-6F>3E 70>F8",
      "71-73>C9 74>C8 75-77>CD 78>CC 79>60 7A>3A 7B>23 7C>A7 7D>27 7E>3D 7F>22 80>D8 81-89>61",
      "8A>AB 8B>BB 8C>F0 8D-8E>FD 8F>B1 90>B0 91-99>6A 9A>AA 9B>BA 9C>E6 9D>B8 9E>C6 9F>A4 A0>B5",
      "A1>DF A2-A9>73 AA>A1 AB>BF AC>D0 AD-AE>DD AF>AE B0-B1>A2 B2>A5 B3>B7 B4>A9 B5>40 B7-B9>BC",
      "BA>AC BB>7C BC>203E BD>A8 BE>B4 BF>D7 C0>E4 C1-C9>41 CA>AD CB>F4 CC>A6 CD-CE>F2 CF>F5",
      "D0>FC D1-D9>4A DA>B9 DB>FB DC>7D DD-DE>F9 DF>FF E0>D6 E1>F7 E2-E9>53 EA>B2 EB>D4 EC>5C",
      "ED-EE>D2 EF>D5 F0-F9>30 FA>B3 FB>DB FC>5D FD-FE>D9 FF>9F"]),
   ("cp424", [
      "4>9C 5>9 6>86 7>7F 8>97 9-A>8D 14>9D 15>85 16>8 17>87 1A>92 1B>8F 20-24>80 25>A 26>17",
      "27>1B 28-2C>88 2D-2F>5 30-31>90 32>16 33-36>93 37>4 38-3B>98 3C-3D>14 3E>9E 3F>1A 40>20",
      "41-49>5D0 4A>A2 4B>2E 4C>3C 4D>28 4E>2B 4F>7C 50>26 51-59>5D9 5A>21 5B>24 5C>2A 5D>29",
      "5E>3B 5F>AC 60>2D 61>2F 62-69>5E2 6A>A6 6B>2C 6C>25 6D>5F 6E-6F>3E 70> 71>5EA 72-73> 74>A0",
      "75-77> 78>2017 79>60 7A>3A 7B>23 7C>40 7D>27 7E>3D 7F>22 80> 81-89>61 8A>AB 8B>BB 8C-8E>",
      "8F>B1 90>B0 91-99>6A 9A-9C> 9D>B8 9E> 9F>A4 A0>B5 A1>7E A2-A9>73 AA-AE> AF>AE B0>5E B1>A3",
      "B2>A5 B3>B7 B4>A9 B5>A7 B7-B9>BC BA>5B BB>5D BC>AF BD>A8 BE>B4 BF>D7 C0>7B C1-C9>41 CA>AD",
      "CB-CF> D0>7D D1-D9>4A DA>B9 DB-DF> E0>5C E1>F7 E2-E9>53 EA>B2 EB-EF> F0-F9>30 FA>B3 FB-FE>",
      "FF>9F"]),
   ("cp437", [
      "80>C7 81>FC 82>E9 83>E2 84>E4 85>E0 86>E5 87>E7 88-89>EA 8A>E8 8B>EF 8C>EE 8D>EC 8E-8F>C4",
      "90>C9 91>E6 92>C6 93>F4 94>F6 95>F2 96>FB 97>F9 98>FF 99>D6 9A>DC 9B-9C>A2 9D>A5 9E>20A7",
      "9F>192 A0>E1 A1>ED A2>F3 A3>FA A4>F1 A5>D1 A6>AA A7>BA A8>BF A9>2310 AA>AC AB>BD AC>BC",
      "AD>A1 AE>AB AF>BB B0-B2>2591 B3>2502 B4>2524 B5-B6>2561 B7>2556 B8>2555 B9>2563 BA>2551",
      "BB>2557 BC>255D BD>255C BE>255B BF>2510 C0>2514 C1>2534 C2>252C C3>251C C4>2500 C5>253C",
      "C6-C7>255E C8>255A C9>2554 CA>2569 CB>2566 CC>2560 CD>2550 CE>256C CF-D0>2567 D1-D2>2564",
      "D3>2559 D4>2558 D5-D6>2552 D7>256B D8>256A D9>2518 DA>250C DB>2588 DC>2584 DD>258C DE>2590",
      "DF>2580 E0>3B1 E1>DF E2>393 E3>3C0 E4>3A3 E5>3C3 E6>B5 E7>3C4 E8>3A6 E9>398 EA>3A9 EB>3B4",
      "EC>221E ED>3C6 EE>3B5 EF>2229 F0>2261 F1>B1 F2>2265 F3>2264 F4-F5>2320 F6>F7 F7>2248 F8>B0",
      "F9>2219 FA>B7 FB>221A FC>207F FD>B2 FE>25A0 FF>A0"]),
   ("cp500", [
      "4>9C 5>9 6>86 7>7F 8>97 9-A>8D 14>9D 15>85 16>8 17>87 1A>92 1B>8F 20-24>80 25>A 26>17",
      "27>1B 28-2C>88 2D-2F>5 30-31>90 32>16 33-36>93 37>4 38-3B>98 3C-3D>14 3E>9E 3F>1A 40>20",
      "41>A0 42>E2 43>E4 44-45>E0 46>E3 47>E5 48>E7 49>F1 4A>5B 4B>2E 4C>3C 4D>28 4E>2B 4F>21",
      "50>26 51-53>E9 54>E8 55-57>ED 58>EC 59>DF 5A>5D 5B>24 5C>2A 5D>29 5E>3B 5F>5E 60>2D 61>2F",
      "62>C2 63>C4 64-65>C0 66>C3 67>C5 68>C7 69>D1 6A>A6 6B>2C 6C>25 6D>5F 6E-6F>3E 70>F8",
      "71-73>C9 74>C8 75-77>CD 78>CC 79>60 7A>3A 7B>23 7C>40 7D>27 7E>3D 7F>22 80>D8 81-89>61",
      "8A>AB 8B>BB 8C>F0 8D-8E>FD 8F>B1 90>B0 91-99>6A 9A>AA 9B>BA 9C>E6 9D>B8 9E>C6 9F>A4 A0>B5",
      "A1>7E A2-A9>73 AA>A1 AB>BF AC>D0 AD-AE>DD AF>AE B0-B1>A2 B2>A5 B3>B7 B4>A9 B5>A7 B7-B9>BC",
      "BA>AC BB>7C BC>AF BD>A8 BE>B4 BF>D7 C0>7B C1-C9>41 CA>AD CB>F4 CC>F6 CD-CE>F2 CF>F5 D0>7D",
      "D1-D9>4A DA>B9 DB-DC>FB DD-DE>F9 DF>FF E0>5C E1>F7 E2-E9>53 EA>B2 EB>D4 EC>D6 ED-EE>D2",
      "EF>D5 F0-F9>30 FA>B3 FB-FC>DB FD-FE>D9 FF>9F"]),
   ("cp720", [
      "82>E9 83>E2 85>E0 87>E7 88-89>EA 8A>E8 8B>EF 8C>EE 91-92>651 93>F4 94>A4 95>640 96>FB",
      "97>F9 98-9B>621 9C>A3 9D-AD>625 AE>AB AF>BB B0-B2>2591 B3>2502 B4>2524 B5-B6>2561 B7>2556",
      "B8>2555 B9>2563 BA>2551 BB>2557 BC>255D BD>255C BE>255B BF>2510 C0>2514 C1>2534 C2>252C",
      "C3>251C C4>2500 C5>253C C6-C7>255E C8>255A C9>2554 CA>2569 CB>2566 CC>2560 CD>2550 CE>256C",
      "CF-D0>2567 D1-D2>2564 D3>2559 D4>2558 D5-D6>2552 D7>256B D8>256A D9>2518 DA>250C DB>2588",
      "DC>2584 DD>258C DE>2590 DF>2580 E0-E4>636 E5>641 E6>B5 E7-EF>642 F0>2261 F1-F6>64B F7>2248",
      "F8>B0 F9>2219 FA>B7 FB>221A FC>207F FD>B2 FE>25A0 FF>A0"]),
   ("cp737", [
      "80-90>391 91-97>3A3 98-A8>3B1 A9>3C3 AA>3C2 AB-AF>3C4 B0-B2>2591 B3>2502 B4>2524",
      "B5-B6>2561 B7>2556 B8>2555 B9>2563 BA>2551 BB>2557 BC>255D BD>255C BE>255B BF>2510 C0>2514",
      "C1>2534 C2>252C C3>251C C4>2500 C5>253C C6-C7>255E C8>255A C9>2554 CA>2569 CB>2566 CC>2560",
      "CD>2550 CE>256C CF-D0>2567 D1-D2>2564 D3>2559 D4>2558 D5-D6>2552 D7>256B D8>256A D9>2518",
      "DA>250C DB>2588 DC>2584 DD>258C DE>2590 DF>2580 E0>3C9 E1-E3>3AC E4>3CA E5>3AF E6-E7>3CC",
      "E8>3CB E9>3CE EA>386 EB-ED>388 EE>38C EF-F0>38E F1>B1 F2>2265 F3>2264 F4-F5>3AA F6>F7",
      "F7>2248 F8>B0 F9>2219 FA>B7 FB>221A FC>207F FD>B2 FE>25A0 FF>A0"]),
   ("cp775", [
      "80>106 81>FC 82>E9 83>101 84>E4 85>123 86>E5 87>107 88>142 89>113 8A-8B>156 8C>12B 8D>179",
      "8E-8F>C4 90>C9 91>E6 92>C6 93>14D 94>F6 95>122 96>A2 97-98>15A 99>D6 9A>DC 9B>F8 9C>A3",
      "9D>D8 9E>D7 9F>A4 A0>100 A1>12A A2>F3 A3-A4>17B A5>17A A6>201D A7>A6 A8>A9 A9>AE AA>AC",
      "AB>BD AC>BC AD>141 AE>AB AF>BB B0-B2>2591 B3>2502 B4>2524 B5>104 B6>10C B7>118 B8>116",
      "B9>2563 BA>2551 BB>2557 BC>255D BD>12E BE>160 BF>2510 C0>2514 C1>2534 C2>252C C3>251C",
      "C4>2500 C5>253C C6>172 C7>16A C8>255A C9>2554 CA>2569 CB>2566 CC>2560 CD>2550 CE>256C",
      "CF>17D D0>105 D1>10D D2>119 D3>117 D4>12F D5>161 D6>173 D7>16B D8>17E D9>2518 DA>250C",
      "DB>2588 DC>2584 DD>258C DE>2590 DF>2580 E0>D3 E1>DF E2>14C E3>143 E4>F5 E5>D5 E6>B5 E7>144",
      "E8-E9>136 EA-EB>13B EC>146 ED>112 EE>145 EF>2019 F0>AD F1>B1 F2>201C F3>BE F4>B6 F5>A7",
      "F6>F7 F7>201E F8>B0 F9>2219 FA>B7 FB>B9 FC>B3 FD>B2 FE>25A0 FF>A0"]),
   ("cp850", [
      "80>C7 81>FC 82>E9 83>E2 84>E4 85>E0 86>E5 87>E7 88-89>EA 8A>E8 8B>EF 8C>EE 8D>EC 8E-8F>C4",
      "90>C9 91>E6 92>C6 93>F4 94>F6 95>F2 96>FB 97>F9 98>FF 99>D6 9A>DC 9B>F8 9C>A3 9D>D8 9E>D7",
      "9F>192 A0>E1 A1>ED A2>F3 A3>FA A4>F1 A5>D1 A6>AA A7>BA A8>BF A9>AE AA>AC AB>BD AC>BC AD>A1",
      "AE>AB AF>BB B0-B2>2591 B3>2502 B4>2524 B5-B6>C1 B7>C0 B8>A9 B9>2563 BA>2551 BB>2557",
      "BC>255D BD>A2 BE>A5 BF>2510 C0>2514 C1>2534 C2>252C C3>251C C4>2500 C5>253C C6>E3 C7>C3",
      "C8>255A C9>2554 CA>2569 CB>2566 CC>2560 CD>2550 CE>256C CF>A4 D0>F0 D1>D0 D2-D3>CA D4>C8",
      "D5>131 D6-D8>CD D9>2518 DA>250C DB>2588 DC>2584 DD>A6 DE>CC DF>2580 E0>D3 E1>DF E2>D4",
      "E3>D2 E4>F5 E5>D5 E6>B5 E7>FE E8>DE E9-EA>DA EB>D9 EC>FD ED>DD EE>AF EF>B4 F0>AD F1>B1",
      "F2>2017 F3>BE F4>B6 F5>A7 F6>F7 F7>B8 F8>B0 F9>A8 FA>B7 FB>B9 FC>B3 FD>B2 FE>25A0 FF>A0"]),
   ("cp852", [
      "80>C7 81>FC 82>E9 83>E2 84>E4 85>16F 86>107 87>E7 88>142 89>EB 8A-8B>150 8C>EE 8D>179",
      "8E>C4 8F>106 90>C9 91-92>139 93>F4 94>F6 95-96>13D 97-98>15A 99>D6 9A>DC 9B-9C>164 9D>141",
      "9E>D7 9F>10D A0>E1 A1>ED A2>F3 A3>FA A4-A5>104 A6-A7>17D A8-A9>118 AA>AC AB>17A AC>10C",
      "AD>15F AE>AB AF>BB B0-B2>2591 B3>2502 B4>2524 B5-B6>C1 B7>11A B8>15E B9>2563 BA>2551",
      "BB>2557 BC>255D BD-BE>17B BF>2510 C0>2514 C1>2534 C2>252C C3>251C C4>2500 C5>253C",
      "C6-C7>102 C8>255A C9>2554 CA>2569 CB>2566 CC>2560 CD>2550 CE>256C CF>A4 D0>111 D1>110",
      "D2>10E D3>CB D4>10F D5>147 D6-D7>CD D8>11B D9>2518 DA>250C DB>2588 DC>2584 DD>162 DE>16E",
      "DF>2580 E0>D3 E1>DF E2>D4 E3-E4>143 E5>148 E6-E7>160 E8>154 E9>DA EA>155 EB>170 EC>FD",
      "ED>DD EE>163 EF>B4 F0>AD F1>2DD F2>2DB F3>2C7 F4>2D8 F5>A7 F6>F7 F7>B8 F8>B0 F9>A8 FA>2D9",
      "FB>171 FC-FD>158 FE>25A0 FF>A0"]),
   ("cp855", [
      "80>452 81>402 82>453 83>403 84>451 85>401 86>454 87>404 88>455 89>405 8A>456 8B>406 8C>457",
      "8D>407 8E>458 8F>408 90>459 91>409 92>45A 93>40A 94>45B 95>40B 96>45C 97>40C 98>45E 99>40E",
      "9A>45F 9B>40F 9C>44E 9D>42E 9E>44A 9F>42A A0>430 A1>410 A2>431 A3>411 A4>446 A5>426 A6>434",
      "A7>414 A8>435 A9>415 AA>444 AB>424 AC>433 AD>413 AE>AB AF>BB B0-B2>2591 B3>2502 B4>2524",
      "B5>445 B6>425 B7>438 B8>418 B9>2563 BA>2551 BB>2557 BC>255D BD>439 BE>419 BF>2510 C0>2514",
      "C1>2534 C2>252C C3>251C C4>2500 C5>253C C6>43A C7>41A C8>255A C9>2554 CA>2569 CB>2566",
      "CC>2560 CD>2550 CE>256C CF>A4 D0>43B D1>41B D2>43C D3>41C D4>43D D5>41D D6>43E D7>41E",
      "D8>43F D9>2518 DA>250C DB>2588 DC>2584 DD>41F DE>44F DF>2580 E0>42F E1>440 E2>420 E3>441",
      "E4>421 E5>442 E6>422 E7>443 E8>423 E9>436 EA>416 EB>432 EC>412 ED>44C EE>42C EF>2116 F0>AD",
      "F1>44B F2>42B F3>437 F4>417 F5>448 F6>428 F7>44D F8>42D F9>449 FA>429 FB>447 FC>427 FD>A7",
      "FE>25A0 FF>A0"]),
   ("cp856", [
      "80-9A>5D0 9B> 9C>A3 9D> 9E>D7 9F-A8> A9>AE AA>AC AB>BD AC>BC AD> AE>AB AF>BB B0-B2>2591",
      "B3>2502 B4>2524 B5-B7> B8>A9 B9>2563 BA>2551 BB>2557 BC>255D BD>A2 BE>A5 BF>2510 C0>2514",
      "C1>2534 C2>252C C3>251C C4>2500 C5>253C C6-C7> C8>255A C9>2554 CA>2569 CB>2566 CC>2560",
      "CD>2550 CE>256C CF>A4 D0-D8> D9>2518 DA>250C DB>2588 DC>2584 DD>A6 DE> DF>2580 E0-E5>",
      "E6>B5 E7-ED> EE>AF EF>B4 F0>AD F1>B1 F2>2017 F3>BE F4>B6 F5>A7 F6>F7 F7>B8 F8>B0 F9>A8",
      "FA>B7 FB>B9 FC>B3 FD>B2 FE>25A0 FF>A0"]),
   ("cp857", [
      "80>C7 81>FC 82>E9 83>E2 84>E4 85>E0 86>E5 87>E7 88-89>EA 8A>E8 8B>EF 8C>EE 8D>131 8E-8F>C4",
      "90>C9 91>E6 92>C6 93>F4 94>F6 95>F2 96>FB 97>F9 98>130 99>D6 9A>DC 9B>F8 9C>A3 9D>D8",
      "9E-9F>15E A0>E1 A1>ED A2>F3 A3>FA A4>F1 A5>D1 A6-A7>11E A8>BF A9>AE AA>AC AB>BD AC>BC",
      "AD>A1 AE>AB AF>BB B0-B2>2591 B3>2502 B4>2524 B5-B6>C1 B7>C0 B8>A9 B9>2563 BA>2551 BB>2557",
      "BC>255D BD>A2 BE>A5 BF>2510 C0>2514 C1>2534 C2>252C C3>251C C4>2500 C5>253C C6>E3 C7>C3",
      "C8>255A C9>2554 CA>2569 CB>2566 CC>2560 CD>2550 CE>256C CF>A4 D0>BA D1>AA D2-D3>CA D4>C8",
      "D5> D6-D8>CD D9>2518 DA>250C DB>2588 DC>2584 DD>A6 DE>CC DF>2580 E0>D3 E1>DF E2>D4 E3>D2",
      "E4>F5 E5>D5 E6>B5 E7> E8>D7 E9-EA>DA EB>D9 ED>FF EE>AF EF>B4 F0>AD F1>B1 F2> F3>BE F4>B6",
      "F5>A7 F6>F7 F7>B8 F8>B0 F9>A8 FA>B7 FB>B9 FC>B3 FD>B2 FE>25A0 FF>A0"]),
   ("cp858", [
      "80>C7 81>FC 82>E9 83>E2 84>E4 85>E0 86>E5 87>E7 88-89>EA 8A>E8 8B>EF 8C>EE 8D>EC 8E-8F>C4",
      "90>C9 91>E6 92>C6 93>F4 94>F6 95>F2 96>FB 97>F9 98>FF 99>D6 9A>DC 9B>F8 9C>A3 9D>D8 9E>D7",
      "9F>192 A0>E1 A1>ED A2>F3 A3>FA A4>F1 A5>D1 A6>AA A7>BA A8>BF A9>AE AA>AC AB>BD AC>BC AD>A1",
      "AE>AB AF>BB B0-B2>2591 B3>2502 B4>2524 B5-B6>C1 B7>C0 B8>A9 B9>2563 BA>2551 BB>2557",
      "BC>255D BD>A2 BE>A5 BF>2510 C0>2514 C1>2534 C2>252C C3>251C C4>2500 C5>253C C6>E3 C7>C3",
      "C8>255A C9>2554 CA>2569 CB>2566 CC>2560 CD>2550 CE>256C CF>A4 D0>F0 D1>D0 D2-D3>CA D4>C8",
      "D5>20AC D6-D8>CD D9>2518 DA>250C DB>2588 DC>2584 DD>A6 DE>CC DF>2580 E0>D3 E1>DF E2>D4",
      "E3>D2 E4>F5 E5>D5 E6>B5 E7>FE E8>DE E9-EA>DA EB>D9 EC>FD ED>DD EE>AF EF>B4 F0>AD F1>B1",
      "F2>2017 F3>BE F4>B6 F5>A7 F6>F7 F7>B8 F8>B0 F9>A8 FA>B7 FB>B9 FC>B3 FD>B2 FE>25A0 FF>A0"]),
   ("cp860", [
      "80>C7 81>FC 82>E9 83-84>E2 85>E0 86>C1 87>E7 88>EA 89>CA 8A>E8 8B>CD 8C>D4 8D>EC 8E>C3",
      "8F>C2 90>C9 91>C0 92>C8 93-94>F4 95>F2 96>DA 97>F9 98>CC 99>D5 9A>DC 9B-9C>A2 9D>D9",
      "9E>20A7 9F>D3 A0>E1 A1>ED A2>F3 A3>FA A4>F1 A5>D1 A6>AA A7>BA A8>BF A9>D2 AA>AC AB>BD",
      "AC>BC AD>A1 AE>AB AF>BB B0-B2>2591 B3>2502 B4>2524 B5-B6>2561 B7>2556 B8>2555 B9>2563",
      "BA>2551 BB>2557 BC>255D BD>255C BE>255B BF>2510 C0>2514 C1>2534 C2>252C C3>251C C4>2500",
      "C5>253C C6-C7>255E C8>255A C9>2554 CA>2569 CB>2566 CC>2560 CD>2550 CE>256C CF-D0>2567",
      "D1-D2>2564 D3>2559 D4>2558 D5-D6>2552 D7>256B D8>256A D9>2518 DA>250C DB>2588 DC>2584",
      "DD>258C DE>2590 DF>2580 E0>3B1 E1>DF E2>393 E3>3C0 E4>3A3 E5>3C3 E6>B5 E7>3C4 E8>3A6",
      "E9>398 EA>3A9 EB>3B4 EC>221E ED>3C6 EE>3B5 EF>2229 F0>2261 F1>B1 F2>2265 F3>2264",
      "F4-F5>2320 F6>F7 F7>2248 F8>B0 F9>2219 FA>B7 FB>221A FC>207F FD>B2 FE>25A0 FF>A0"]),
   ("cp861", [
      "80>C7 81>FC 82>E9 83>E2 84>E4 85>E0 86>E5 87>E7 88-89>EA 8A>E8 8B>D0 8C>F0 8D>DE 8E-8F>C4",
      "90>C9 91>E6 92>C6 93>F4 94>F6 95>FE 96>FB 97>DD 98>FD 99>D6 9A>DC 9B>F8 9C>A3 9D>D8",
      "9E>20A7 9F>192 A0>E1 A1>ED A2>F3 A3>FA A4>C1 A5>CD A6>D3 A7>DA A8>BF A9>2310 AA>AC AB>BD",
      "AC>BC AD>A1 AE>AB AF>BB B0-B2>2591 B3>2502 B4>2524 B5-B6>2561 B7>2556 B8>2555 B9>2563",
      "BA>2551 BB>2557 BC>255D BD>255C BE>255B BF>2510 C0>2514 C1>2534 C2>252C C3>251C C4>2500",
      "C5>253C C6-C7>255E C8>255A C9>2554 CA>2569 CB>2566 CC>2560 CD>2550 CE>256C CF-D0>2567",
      "D1-D2>2564 D3>2559 D4>2558 D5-D6>2552 D7>256B D8>256A D9>2518 DA>250C DB>2588 DC>2584",
      "DD>258C DE>2590 DF>2580 E0>3B1 E1>DF E2>393 E3>3C0 E4>3A3 E5>3C3 E6>B5 E7>3C4 E8>3A6",
      "E9>398 EA>3A9 EB>3B4 EC>221E ED>3C6 EE>3B5 EF>2229 F0>2261 F1>B1 F2>2265 F3>2264",
      "F4-F5>2320 F6>F7 F7>2248 F8>B0 F9>2219 FA>B7 FB>221A FC>207F FD>B2 FE>25A0 FF>A0"]),
   ("cp862", [
      "80-9A>5D0 9B-9C>A2 9D>A5 9E>20A7 9F>192 A0>E1 A1>ED A2>F3 A3>FA A4>F1 A5>D1 A6>AA A7>BA",
      "A8>BF A9>2310 AA>AC AB>BD AC>BC AD>A1 AE>AB AF>BB B0-B2>2591 B3>2502 B4>2524 B5-B6>2561",
      "B7>2556 B8>2555 B9>2563 BA>2551 BB>2557 BC>255D BD>255C BE>255B BF>2510 C0>2514 C1>2534",
      "C2>252C C3>251C C4>2500 C5>253C C6-C7>255E C8>255A C9>2554 CA>2569 CB>2566 CC>2560 CD>2550",
      "CE>256C CF-D0>2567 D1-D2>2564 D3>2559 D4>2558 D5-D6>2552 D7>256B D8>256A D9>2518 DA>250C",
      "DB>2588 DC>2584 DD>258C DE>2590 DF>2580 E0>3B1 E1>DF E2>393 E3>3C0 E4>3A3 E5>3C3 E6>B5",
      "E7>3C4 E8>3A6 E9>398 EA>3A9 EB>3B4 EC>221E ED>3C6 EE>3B5 EF>2229 F0>2261 F1>B1 F2>2265",
      "F3>2264 F4-F5>2320 F6>F7 F7>2248 F8>B0 F9>2219 FA>B7 FB>221A FC>207F FD>B2 FE>25A0 FF>A0"]),
   ("cp863", [
      "80>C7 81>FC 82>E9 83>E2 84>C2 85>E0 86>B6 87>E7 88-89>EA 8A>E8 8B>EF 8C>EE 8D>2017 8E>C0",
      "8F>A7 90>C9 91>C8 92>CA 93>F4 94>CB 95>CF 96>FB 97>F9 98>A4 99>D4 9A>DC 9B-9C>A2 9D>D9",
      "9E>DB 9F>192 A0>A6 A1>B4 A2>F3 A3>FA A4>A8 A5>B8 A6>B3 A7>AF A8>CE A9>2310 AA>AC AB>BD",
      "AC>BC AD>BE AE>AB AF>BB B0-B2>2591 B3>2502 B4>2524 B5-B6>2561 B7>2556 B8>2555 B9>2563",
      "BA>2551 BB>2557 BC>255D BD>255C BE>255B BF>2510 C0>2514 C1>2534 C2>252C C3>251C C4>2500",
      "C5>253C C6-C7>255E C8>255A C9>2554 CA>2569 CB>2566 CC>2560 CD>2550 CE>256C CF-D0>2567",
      "D1-D2>2564 D3>2559 D4>2558 D5-D6>2552 D7>256B D8>256A D9>2518 DA>250C DB>2588 DC>2584",
      "DD>258C DE>2590 DF>2580 E0>3B1 E1>DF E2>393 E3>3C0 E4>3A3 E5>3C3 E6>B5 E7>3C4 E8>3A6",
      "E9>398 EA>3A9 EB>3B4 EC>221E ED>3C6 EE>3B5 EF>2229 F0>2261 F1>B1 F2>2265 F3>2264",
      "F4-F5>2320 F6>F7 F7>2248 F8>B0 F9>2219 FA>B7 FB>221A FC>207F FD>B2 FE>25A0 FF>A0"]),
   ("cp864", [
      "25>66A 80>B0 81>B7 82-83>2219 84>2592 85>2500 86>2502 87>253C 88>2524 89>252C 8A>251C",
      "8B>2534 8C>2510 8D>250C 8E>2514 8F>2518 90>3B2 91>221E 92>3C6 93>B1 94>BD 95>BC 96>2248",
      "97>AB 98>BB 99-9A>FEF7 9B-9C> 9D-9E>FEFB 9F> A1>AD A2>FE82 A5>FE84 A6-A7> A8-A9>FE8E",
      "AA>FE95 AB>FE99 AC>60C AD>FE9D AE>FEA1 AF>FEA5 B0-B9>660 BA>FED1 BB>61B BC>FEB1 BD>FEB5",
      "BE>FEB9 BF>61F C0>A2 C1-C2>FE80 C3>FE83 C4>FE85 C5>FECA C6>FE8B C7>FE8D C8>FE91 C9>FE93",
      "CA>FE97 CB>FE9B CC>FE9F CD>FEA3 CE>FEA7 CF>FEA9 D0>FEAB D1>FEAD D2>FEAF D3>FEB3 D4>FEB7",
      "D5>FEBB D6>FEBF D7>FEC1 D8>FEC5 D9>FECB DA>FECF DB>A6 DC>AC DD>F7 DE>D7 DF>FEC9 E0>640",
      "E1>FED3 E2>FED7 E3>FEDB E4>FEDF E5>FEE3 E6>FEE7 E7>FEEB E8>FEED E9>FEEF EA>FEF3 EB>FEBD",
      "EC>FECC ED>FECE EE>FECD EF>FEE1 F0>FE7D F1>651 F2>FEE5 F3>FEE9 F4>FEEC F5>FEF0 F6>FEF2",
      "F7>FED0 F8>FED5 F9-FA>FEF5 FB>FEDD FC>FED9 FD>FEF1 FE>25A0 FF>"]),
   ("cp865", [
      "80>C7 81>FC 82>E9 83>E2 84>E4 85>E0 86>E5 87>E7 88-89>EA 8A>E8 8B>EF 8C>EE 8D>EC 8E-8F>C4",
      "90>C9 91>E6 92>C6 93>F4 94>F6 95>F2 96>FB 97>F9 98>FF 99>D6 9A>DC 9B>F8 9C>A3 9D>D8",
      "9E>20A7 9F>192 A0>E1 A1>ED A2>F3 A3>FA A4>F1 A5>D1 A6>AA A7>BA A8>BF A9>2310 AA>AC AB>BD",
      "AC>BC AD>A1 AE>AB AF>A4 B0-B2>2591 B3>2502 B4>2524 B5-B6>2561 B7>2556 B8>2555 B9>2563",
      "BA>2551 BB>2557 BC>255D BD>255C BE>255B BF>2510 C0>2514 C1>2534 C2>252C C3>251C C4>2500",
      "C5>253C C6-C7>255E C8>255A C9>2554 CA>2569 CB>2566 CC>2560 CD>2550 CE>256C CF-D0>2567",
      "D1-D2>2564 D3>2559 D4>2558 D5-D6>2552 D7>256B D8>256A D9>2518 DA>250C DB>2588 DC>2584",
      "DD>258C DE>2590 DF>2580 E0>3B1 E1>DF E2>393 E3>3C0 E4>3A3 E5>3C3 E6>B5 E7>3C4 E8>3A6",
      "E9>398 EA>3A9 EB>3B4 EC>221E ED>3C6 EE>3B5 EF>2229 F0>2261 F1>B1 F2>2265 F3>2264",
      "F4-F5>2320 F6>F7 F7>2248 F8>B0 F9>2219 FA>B7 FB>221A FC>207F FD>B2 FE>25A0 FF>A0"]),
   ("cp866", [
      "80-AF>410 B0-B2>2591 B3>2502 B4>2524 B5-B6>2561 B7>2556 B8>2555 B9>2563 BA>2551 BB>2557",
      "BC>255D BD>255C BE>255B BF>2510 C0>2514 C1>2534 C2>252C C3>251C C4>2500 C5>253C C6-C7>255E",
      "C8>255A C9>2554 CA>2569 CB>2566 CC>2560 CD>2550 CE>256C CF-D0>2567 D1-D2>2564 D3>2559",
      "D4>2558 D5-D6>2552 D7>256B D8>256A D9>2518 DA>250C DB>2588 DC>2584 DD>258C DE>2590 DF>2580",
      "E0-EF>440 F0>401 F1>451 F2>404 F3>454 F4>407 F5>457 F6>40E F7>45E F8>B0 F9>2219 FA>B7",
      "FB>221A FC>2116 FD>A4 FE>25A0 FF>A0"]),
   ("cp869", [
      "80-85> 86>386 87> 88>B7 89>AC 8A>A6 8B-8C>2018 8D>388 8E>2015 8F-90>389 91>3AA 92>38C",
      "93-94> 95>38E 96>3AB 97>A9 98>38F 99-9A>B2 9B>3AC 9C>A3 9D-9F>3AD A0>3CA A1>390 A2-A3>3CC",
      "A4-AA>391 AB>BD AC-AD>398 AE>AB AF>BB B0-B2>2591 B3>2502 B4>2524 B5-B8>39A B9>2563 BA>2551",
      "BB>2557 BC>255D BD-BE>39E BF>2510 C0>2514 C1>2534 C2>252C C3>251C C4>2500 C5>253C",
      "C6-C7>3A0 C8>255A C9>2554 CA>2569 CB>2566 CC>2560 CD>2550 CE>256C CF-D5>3A3 D6-D8>3B1",
      "D9>2518 DA>250C DB>2588 DC>2584 DD-DE>3B4 DF>2580 E0-EB>3B6 EC>3C3 ED>3C2 EE>3C4 EF>384",
      "F0>AD F1>B1 F2-F4>3C5 F5>A7 F6>3C8 F7>385 F8>B0 F9>A8 FA>3C9 FB>3CB FC>3B0 FD>3CE FE>25A0",
      "FF>A0"]),
   ("cp874", [
      "80>20AC 81-84> 85>2026 86-90> 91-92>2018 93-94>201C 95>2022 96-97>2013 98-9F> A1-DA>E01",
      "DB-DE> DF-FB>E3F FC-FF>"]),
   ("cp875", [
      "4>9C 5>9 6>86 7>7F 8>97 9-A>8D 14>9D 15>85 16>8 17>87 1A>92 1B>8F 20-24>80 25>A 26>17",
      "27>1B 28-2C>88 2D-2F>5 30-31>90 32>16 33-36>93 37>4 38-3B>98 3C-3D>14 3E>9E 3F>1A 40>20",
      "41-49>391 4A>5B 4B>2E 4C>3C 4D>28 4E>2B 4F>21 50>26 51-58>39A 59>3A3 5A>5D 5B>24 5C>2A",
      "5D>29 5E>3B 5F>5E 60>2D 61>2F 62-69>3A4 6A>7C 6B>2C 6C>25 6D>5F 6E-6F>3E 70>A8 71>386",
      "72-73>388 74>A0 75>38A 76>38C 77-78>38E 79>60 7A>3A 7B>23 7C>40 7D>27 7E>3D 7F>22 80>385",
      "81-89>61 8A-8F>3B1 90>B0 91-99>6A 9A-9F>3B7 A0>B4 A1>7E A2-A9>73 AA-AE>3BD AF>3C3 B0>A3",
      "B1-B3>3AC B4>3CA B5>3AF B6-B7>3CC B8>3CB B9>3CE BA>3C2 BB-BF>3C4 C0>7B C1-C9>41 CA>AD",
      "CB>3C9 CC>390 CD>3B0 CE>2018 CF>2015 D0>7D D1-D9>4A DA>B1 DB>BD DC>1A DD>387 DE>2019 DF>A6",
      "E0>5C E1>1A E2-E9>53 EA>B2 EB>A7 EC>1A ED>1A EE-EF>AB F0-F9>30 FA>B3 FB>A9 FC>1A FD>1A",
      "FE>BB FF>9F"]),
   ("hp_roman8", [
      "A1>C0 A2>C2 A3>C8 A4-A5>CA A6-A7>CE A8>B4 A9>2CB AA>2C6 AB>A8 AC>2DC AD>D9 AE>DB AF>20A4",
      "B0>AF B1>DD B2>FD B3>B0 B4>C7 B5>E7 B6>D1 B7>F1 B8>A1 B9>BF BA>A4 BB>A3 BC>A5 BD>A7 BE>192",
      "BF>A2 C0>E2 C1>EA C2>F4 C3>FB C4>E1 C5>E9 C6>F3 C7>FA C8>E0 C9>E8 CA>F2 CB>F9 CC>E4 CD>EB",
      "CE>F6 CF>FC D0>C5 D1>EE D2>D8 D3>C6 D4>E5 D5>ED D6>F8 D7>E6 D8>C4 D9>EC DA>D6 DB>DC DC>C9",
      "DD>EF DE>DF DF>D4 E0>C1 E1>C3 E2>E3 E3>D0 E4>F0 E5>CD E6>CC E7>D3 E8>D2 E9>D5 EA>F5",
      "EB-EC>160 ED>DA EE>178 EF>FF F0>DE F1>FE F2>B7 F3-F4>B5 F5>BE F6>2014 F7-F8>BC F9>AA FA>BA",
      "FB>AB FC>25A0 FD>BB FE>B1 FF>"]),
   ("hz", [
      "7E> 80-FF>"]),
   ("iso8859_10", [
      "A1>104 A2>112 A3>122 A4>12A A5>128 A6>136 A8>13B A9>110 AA>160 AB>166 AC>17D AE>16A AF>14A",
      "B1>105 B2>113 B3>123 B4>12B B5>129 B6>137 B8>13C B9>111 BA>161 BB>167 BC>17E BD>2015",
      "BE>16B BF>14B C0>100 C7>12E C8>10C CA>118 CC>116 D1>145 D2>14C D7>168 D9>172 E0>101 E7>12F",
      "E8>10D EA>119 EC>117 F1>146 F2>14D F7>169 F9>173 FF>138"]),
   ("iso8859_11", [
      "A1-DA>E01 DB-DE> DF-FB>E3F FC-FF>"]),
   ("iso8859_13", [
      "A1>201D A5>201E A8>D8 AA>156 AF>C6 B4>201C B8>F8 BA>157 BF>E6 C0>104 C1>12E C2>100 C3>106",
      "C6>118 C7>112 C8>10C CA>179 CB>116 CC>122 CD>136 CE>12A CF>13B D0>160 D1>143 D2>145 D4>14C",
      "D8>172 D9>141 DA>15A DB>16A DD>17B DE>17D E0>105 E1>12F E2>101 E3>107 E6>119 E7>113 E8>10D",
      "EA>17A EB>117 EC>123 ED>137 EE>12B EF>13C F0>161 F1>144 F2>146 F4>14D F8>173 F9>142 FA>15B",
      "FB>16B FD>17C FE>17E FF>2019"]),
   ("iso8859_14", [
      "A1-A2>1E02 A4-A5>10A A6>1E0A A8>1E80 AA>1E82 AB>1E0B AC>1EF2 AF>178 B0-B1>1E1E B2-B3>120",
      "B4-B5>1E40 B7>1E56 B8>1E81 B9>1E57 BA>1E83 BB>1E60 BC>1EF3 BD-BE>1E84 BF>1E61 D0>174",
      "D7>1E6A DE>176 F0>175 F7>1E6B FE>177"]),
   ("iso8859_15", [
      "A4>20AC A6>160 A8>161 B4>17D B8>17E BC-BD>152 BE>178"]),
   ("iso8859_16", [
      "A1-A2>104 A3>141 A4>20AC A5>201E A6>160 A8>161 AA>218 AC>179 AE-AF>17A B2>10C B3>142",
      "B4>17D B5>201D B8>17E B9>10D BA>219 BC-BD>152 BE>178 BF>17C C3>102 C5>106 D0>110 D1>143",
      "D5>150 D7>15A D8>170 DD>118 DE>21A E3>103 E5>107 F0>111 F1>144 F5>151 F7>15B F8>171 FD>119",
      "FE>21B"]),
   ("iso8859_2", [
      "A1>104 A2>2D8 A3>141 A5>13D A6>15A A9>160 AA>15E AB>164 AC>179 AE>17D AF>17B B1>105 B2>2DB",
      "B3>142 B5>13E B6>15B B7>2C7 B9>161 BA>15F BB>165 BC>17A BD>2DD BE>17E BF>17C C0>154 C3>102",
      "C5>139 C6>106 C8>10C CA>118 CC>11A CF>10E D0>110 D1>143 D2>147 D5>150 D8>158 D9>16E DB>170",
      "DE>162 E0>155 E3>103 E5>13A E6>107 E8>10D EA>119 EC>11B EF>10F F0>111 F1>144 F2>148 F5>151",
      "F8>159 F9>16F FB>171 FE>163 FF>2D9"]),
   ("iso8859_3", [
      "A1>126 A2>2D8 A5> A6>124 A9>130 AA>15E AB>11E AC>134 AE> AF>17B B1>127 B6>125 B9>131",
      "BA>15F BB>11F BC>135 BE> BF>17C C3> C5>10A C6>108 D0> D5>120 D8>11C DD>16C DE>15C E3>",
      "E5>10B E6>109 F0> F5>121 F8>11D FD>16D FE>15D FF>2D9"]),
   ("iso8859_4", [
      "A1>104 A2>138 A3>156 A5>128 A6>13B A9>160 AA>112 AB>122 AC>166 AE>17D B1>105 B2>2DB B3>157",
      "B5>129 B6>13C B7>2C7 B9>161 BA>113 BB>123 BC>167 BD>14A BE>17E BF>14B C0>100 C7>12E C8>10C",
      "CA>118 CC>116 CF>12A D0>110 D1>145 D2>14C D3>136 D9>172 DD>168 DE>16A E0>101 E7>12F E8>10D",
      "EA>119 EC>117 EF>12B F0>111 F1>146 F2>14D F3>137 F9>173 FD>169 FE>16B FF>2D9"]),
   ("iso8859_5", [
      "A1-AC>401 AE-EF>40E F0>2116 F1-FC>451 FD>A7 FE-FF>45E"]),
   ("iso8859_6", [
      "A1-A3> A5-AB> AC>60C AE-BA> BB>61B BC-BE> BF>61F C0> C1-DA>621 DB-DF> E0-F2>640 F3-FF>"]),
   ("iso8859_7", [
      "A1-A2>2018 A4>20AC A5>20AF AA>37A AE> AF>2015 B4-B6>384 B8-BA>388 BC>38C BE-D1>38E D2>",
      "D3-FE>3A3 FF>"]),
   ("iso8859_8", [
      "A1> AA>D7 BA>F7 BF-DE> DF>2017 E0-FA>5D0 FB-FC> FD-FE>200E FF>"]),
   ("iso8859_9", [
      "D0>11E DD>130 DE>15E F0>11F FD>131 FE>15F"]),
   ("koi8_r", [
      "80>2500 81>2502 82>250C 83>2510 84>2514 85>2518 86>251C 87>2524 88>252C 89>2534 8A>253C",
      "8B>2580 8C>2584 8D>2588 8E>258C 8F-92>2590 93>2320 94>25A0 95-96>2219 97>2248 98-99>2264",
      "9A>A0 9B>2321 9C>B0 9D>B2 9E>B7 9F>F7 A0-A2>2550 A3>451 A4-B2>2553 B3>401 B4-BE>2562 BF>A9",
      "C0>44E C1-C2>430 C3>446 C4-C5>434 C6>444 C7>433 C8>445 C9-D0>438 D1>44F D2-D5>440 D6>436",
      "D7>432 D8>44C D9>44B DA>437 DB>448 DC>44D DD>449 DE>447 DF>44A E0>42E E1-E2>410 E3>426",
      "E4-E5>414 E6>424 E7>413 E8>425 E9-F0>418 F1>42F F2-F5>420 F6>416 F7>412 F8>42C F9>42B",
      "FA>417 FB>428 FC>42D FD>429 FE>427 FF>42A"]),
   ("koi8_t", [
      "80>49B 81>493 82>201A 83>492 84>201E 85>2026 86-87>2020 88> 89>2030 8A>4B3 8B>2039 8C>4B2",
      "8D>4B7 8E>4B6 8F> 90>49A 91-92>2018 93-94>201C 95>2022 96-97>2013 98> 99>2122 9A> 9B>203A",
      "9C-A0> A1>4EF A2>4EE A3>451 A5>4E3 A8-AA> AF> B3>401 B4> B5>4E2 B8> B9>2116 BA> BC-BE>",
      "BF>A9 C0>44E C1-C2>430 C3>446 C4-C5>434 C6>444 C7>433 C8>445 C9-D0>438 D1>44F D2-D5>440",
      "D6>436 D7>432 D8>44C D9>44B DA>437 DB>448 DC>44D DD>449 DE>447 DF>44A E0>42E E1-E2>410",
      "E3>426 E4-E5>414 E6>424 E7>413 E8>425 E9-F0>418 F1>42F F2-F5>420 F6>416 F7>412 F8>42C",
      "F9>42B FA>417 FB>428 FC>42D FD>429 FE>427 FF>42A"]),
   ("koi8_u", [
      "80>2500 81>2502 82>250C 83>2510 84>2514 85>2518 86>251C 87>2524 88>252C 89>2534 8A>253C",
      "8B>2580 8C>2584 8D>2588 8E>258C 8F-92>2590 93>2320 94>25A0 95-96>2219 97>2248 98-99>2264",
      "9A>A0 9B>2321 9C>B0 9D>B2 9E>B7 9F>F7 A0-A2>2550 A3>451 A4>454 A5>2554 A6-A7>456",
      "A8-AC>2557 AD>491 AE-B2>255D B3>401 B4>404 B5>2563 B6-B7>406 B8-BC>2566 BD>490 BE>256C",
      "BF>A9 C0>44E C1-C2>430 C3>446 C4-C5>434 C6>444 C7>433 C8>445 C9-D0>438 D1>44F D2-D5>440",
      "D6>436 D7>432 D8>44C D9>44B DA>437 DB>448 DC>44D DD>449 DE>447 DF>44A E0>42E E1-E2>410",
      "E3>426 E4-E5>414 E6>424 E7>413 E8>425 E9-F0>418 F1>42F F2-F5>420 F6>416 F7>412 F8>42C",
      "F9>42B FA>417 FB>428 FC>42D FD>429 FE>427 FF>42A"]),
   ("kz1048", [
      "80-81>402 82>201A 83>453 84>201E 85>2026 86-87>2020 88>20AC 89>2030 8A>409 8B>2039 8C>40A",
      "8D>49A 8E>4BA 8F>40F 90>452 91-92>2018 93-94>201C 95>2022 96-97>2013 98> 99>2122 9A>459",
      "9B>203A 9C>45A 9D>49B 9E>4BB 9F>45F A1-A2>4B0 A3>4D8 A5>4E8 A8>401 AA>492 AF>4AE B2>406",
      "B3>456 B4>4E9 B8>451 B9>2116 BA>493 BC>4D9 BD-BE>4A2 BF>4AF C0-FF>410"]),
   ("mac_arabic", [
      "80>C4 81>A0 82>C7 83>C9 84>D1 85>D6 86>DC 87>E1 88>E0 89>E2 8A>E4 8B>6BA 8C>AB 8D>E7 8E>E9",
      "8F>E8 90-91>EA 92>ED 93>2026 94-95>EE 96>F1 97>F3 98>BB 99>F4 9A-9B>F6 9C>FA 9D>F9",
      "9E-9F>FB A0-A4>20 A5>66A A6-AB>26 AC>60C AD-AF>2D B0-B9>660 BA>3A BB>61B BC-BE>3C BF>61F",
      "C0>274A C1-DA>621 DB-DF>5B E0-F2>640 F3>67E F4>679 F5>686 F6>6D5 F7>6A4 F8>6AF F9>688",
      "FA>691 FB-FD>7B FE>698 FF>6D2"]),
   ("mac_croatian", [
      "80-81>C4 82>C7 83>C9 84>D1 85>D6 86>DC 87>E1 88>E0 89>E2 8A>E4 8B>E3 8C>E5 8D>E7 8E>E9",
      "8F>E8 90-91>EA 92>ED 93>EC 94-95>EE 96>F1 97>F3 98>F2 99>F4 9A>F6 9B>F5 9C>FA 9D>F9",
      "9E-9F>FB A0>2020 A1>B0 A4>A7 A5>2022 A6>B6 A7>DF A8>AE A9>160 AA>2122 AB>B4 AC>A8 AD>2260",
      "AE>17D AF>D8 B0>221E B2-B3>2264 B4>2206 B6>2202 B7>2211 B8>220F B9>161 BA>222B BB>AA BC>BA",
      "BD>3A9 BE>17E BF>F8 C0>BF C1>A1 C2>AC C3>221A C4>192 C5>2248 C6>106 C7>AB C8>10C C9>2026",
      "CA>A0 CB>C0 CC>C3 CD>D5 CE-CF>152 D0>110 D1>2014 D2-D3>201C D4-D5>2018 D6>F7 D7>25CA",
      "D8>F8FF D9>A9 DA>2044 DB>20AC DC-DD>2039 DE>C6 DF>BB E0>2013 E1>B7 E2>201A E3>201E E4>2030",
      "E5>C2 E6>107 E7>C1 E8>10D E9>C8 EA-EC>CD ED>CC EE-EF>D3 F0>111 F1>D2 F2-F3>DA F4>D9 F5>131",
      "F6>2C6 F7>2DC F8>AF F9>3C0 FA>CB FB>2DA FC>B8 FD>CA FE>E6 FF>2C7"]),
   ("mac_cyrillic", [
      "80-9F>410 A0>2020 A1>B0 A2>490 A4>A7 A5>2022 A6>B6 A7>406 A8>AE AA>2122 AB>402 AC>452",
      "AD>2260 AE>403 AF>453 B0>221E B2-B3>2264 B4>456 B6>491 B7>408 B8>404 B9>454 BA>407 BB>457",
      "BC>409 BD>459 BE>40A BF>45A C0>458 C1>405 C2>AC C3>221A C4>192 C5>2248 C6>2206 C7>AB C8>BB",
      "C9>2026 CA>A0 CB>40B CC>45B CD>40C CE>45C CF>455 D0-D1>2013 D2-D3>201C D4-D5>2018 D6>F7",
      "D7>201E D8>40E D9>45E DA>40F DB>45F DC>2116 DD>401 DE>451 DF>44F E0-FE>430 FF>20AC"]),
   ("mac_farsi", [
      "80>C4 81>A0 82>C7 83>C9 84>D1 85>D6 86>DC 87>E1 88>E0 89>E2 8A>E4 8B>6BA 8C>AB 8D>E7 8E>E9",
      "8F>E8 90-91>EA 92>ED 93>2026 94-95>EE 96>F1 97>F3 98>BB 99>F4 9A-9B>F6 9C>FA 9D>F9",
      "9E-9F>FB A0-A4>20 A5>66A A6-AB>26 AC>60C AD-AF>2D B0-B9>6F0 BA>3A BB>61B BC-BE>3C BF>61F",
      "C0>274A C1-DA>621 DB-DF>5B E0-F2>640 F3>67E F4>679 F5>686 F6>6D5 F7>6A4 F8>6AF F9>688",
      "FA>691 FB-FD>7B FE>698 FF>6D2"]),
   ("mac_greek", [
      "80>C4 81>B9 82>B2 83>C9 84>B3 85>D6 86>DC 87>385 88>E0 89>E2 8A>E4 8B>384 8C>A8 8D>E7",
      "8E>E9 8F>E8 90-91>EA 92>A3 93>2122 94-95>EE 96>2022 97>BD 98>2030 99>F4 9A>F6 9B>A6",
      "9C>20AC 9D>F9 9E-9F>FB A0>2020 A1-A2>393 A3>398 A4>39B A5>39E A6>3A0 A7>DF A8>AE AA>3A3",
      "AB>3AA AC>A7 AD>2260 AE>B0 AF>B7 B0>391 B2-B3>2264 B4>A5 B5>392 B6-B8>395 B9-BA>399 BB>39C",
      "BC>3A6 BD>3AB BE-BF>3A8 C0>3AC C1>39D C2>AC C3>39F C4>3A1 C5>2248 C6>3A4 C7>AB C8>BB",
      "C9>2026 CA>A0 CB>3A5 CC>3A7 CD>386 CE>388 CF>153 D0>2013 D1>2015 D2-D3>201C D4-D5>2018",
      "D6>F7 D7-D8>389 D9>38C DA>38E DB-DD>3AD DE>3CC DF>38F E0>3CD E1-E2>3B1 E3>3C8 E4-E5>3B4",
      "E6>3C6 E7>3B3 E8>3B7 E9>3B9 EA>3BE EB-EE>3BA EF-F0>3BF F1>3CE F2>3C1 F3-F4>3C3 F5>3B8",
      "F6>3C9 F7>3C2 F8>3C7 F9>3C5 FA>3B6 FB-FC>3CA FD>390 FE>3B0 FF>AD"]),
   ("mac_iceland", [
      "80-81>C4 82>C7 83>C9 84>D1 85>D6 86>DC 87>E1 88>E0 89>E2 8A>E4 8B>E3 8C>E5 8D>E7 8E>E9",
      "8F>E8 90-91>EA 92>ED 93>EC 94-95>EE 96>F1 97>F3 98>F2 99>F4 9A>F6 9B>F5 9C>FA 9D>F9",
      "9E-9F>FB A0>DD A1>B0 A4>A7 A5>2022 A6>B6 A7>DF A8>AE AA>2122 AB>B4 AC>A8 AD>2260 AE>C6",
      "AF>D8 B0>221E B2-B3>2264 B4>A5 B6>2202 B7>2211 B8>220F B9>3C0 BA>222B BB>AA BC>BA BD>3A9",
      "BE>E6 BF>F8 C0>BF C1>A1 C2>AC C3>221A C4>192 C5>2248 C6>2206 C7>AB C8>BB C9>2026 CA>A0",
      "CB>C0 CC>C3 CD>D5 CE-CF>152 D0-D1>2013 D2-D3>201C D4-D5>2018 D6>F7 D7>25CA D8>FF D9>178",
      "DA>2044 DB>20AC DC>D0 DD>F0 DF>FE E0>FD E1>B7 E2>201A E3>201E E4>2030 E5>C2 E6>CA E7>C1",
      "E8>CB E9>C8 EA-EC>CD ED>CC EE-EF>D3 F0>F8FF F1>D2 F2-F3>DA F4>D9 F5>131 F6>2C6 F7>2DC",
      "F8>AF F9-FB>2D8 FC>B8 FD>2DD FE>2DB FF>2C7"]),
   ("mac_latin2", [
      "80>C4 81-82>100 83>C9 84>104 85>D6 86>DC 87>E1 88>105 89>10C 8A>E4 8B>10D 8C-8D>106 8E>E9",
      "8F-90>179 91>10E 92>ED 93>10F 94-95>112 96>116 97>F3 98>117 99>F4 9A>F6 9B>F5 9C>FA",
      "9D-9E>11A 9F>FC A0>2020 A1>B0 A2>118 A4>A7 A5>2022 A6>B6 A7>DF A8>AE AA>2122 AB>119 AC>A8",
      "AD>2260 AE>123 AF-B0>12E B1>12A B2-B3>2264 B4>12B B5>136 B6>2202 B7>2211 B8>142 B9-BC>13B",
      "BD-BE>139 BF-C0>145 C1>143 C2>AC C3>221A C4>144 C5>147 C6>2206 C7>AB C8>BB C9>2026 CA>A0",
      "CB>148 CC>150 CD>D5 CE>151 CF>14C D0-D1>2013 D2-D3>201C D4-D5>2018 D6>F7 D7>25CA D8>14D",
      "D9-DA>154 DB>158 DC-DD>2039 DE>159 DF-E0>156 E1>160 E2>201A E3>201E E4>161 E5-E6>15A E7>C1",
      "E8-E9>164 EA>CD EB-EC>17D ED>16A EE-EF>D3 F0>16B F1>16E F2>DA F3-F7>16F F8>DD F9>FD FA>137",
      "FB>17B FC>141 FD>17C FE>122 FF>2C7"]),
   ("mac_roman", [
      "80-81>C4 82>C7 83>C9 84>D1 85>D6 86>DC 87>E1 88>E0 89>E2 8A>E4 8B>E3 8C>E5 8D>E7 8E>E9",
      "8F>E8 90-91>EA 92>ED 93>EC 94-95>EE 96>F1 97>F3 98>F2 99>F4 9A>F6 9B>F5 9C>FA 9D>F9",
      "9E-9F>FB A0>2020 A1>B0 A4>A7 A5>2022 A6>B6 A7>DF A8>AE AA>2122 AB>B4 AC>A8 AD>2260 AE>C6",
      "AF>D8 B0>221E B2-B3>2264 B4>A5 B6>2202 B7>2211 B8>220F B9>3C0 BA>222B BB>AA BC>BA BD>3A9",
      "BE>E6 BF>F8 C0>BF C1>A1 C2>AC C3>221A C4>192 C5>2248 C6>2206 C7>AB C8>BB C9>2026 CA>A0",
      "CB>C0 CC>C3 CD>D5 CE-CF>152 D0-D1>2013 D2-D3>201C D4-D5>2018 D6>F7 D7>25CA D8>FF D9>178",
      "DA>2044 DB>20AC DC-DD>2039 DE-DF>FB01 E0>2021 E1>B7 E2>201A E3>201E E4>2030 E5>C2 E6>CA",
      "E7>C1 E8>CB E9>C8 EA-EC>CD ED>CC EE-EF>D3 F0>F8FF F1>D2 F2-F3>DA F4>D9 F5>131 F6>2C6",
      "F7>2DC F8>AF F9-FB>2D8 FC>B8 FD>2DD FE>2DB FF>2C7"]),
   ("mac_romanian", [
      "80-81>C4 82>C7 83>C9 84>D1 85>D6 86>DC 87>E1 88>E0 89>E2 8A>E4 8B>E3 8C>E5 8D>E7 8E>E9",
      "8F>E8 90-91>EA 92>ED 93>EC 94-95>EE 96>F1 97>F3 98>F2 99>F4 9A>F6 9B>F5 9C>FA 9D>F9",
      "9E-9F>FB A0>2020 A1>B0 A4>A7 A5>2022 A6>B6 A7>DF A8>AE AA>2122 AB>B4 AC>A8 AD>2260 AE>102",
      "AF>218 B0>221E B2-B3>2264 B4>A5 B6>2202 B7>2211 B8>220F B9>3C0 BA>222B BB>AA BC>BA BD>3A9",
      "BE>103 BF>219 C0>BF C1>A1 C2>AC C3>221A C4>192 C5>2248 C6>2206 C7>AB C8>BB C9>2026 CA>A0",
      "CB>C0 CC>C3 CD>D5 CE-CF>152 D0-D1>2013 D2-D3>201C D4-D5>2018 D6>F7 D7>25CA D8>FF D9>178",
      "DA>2044 DB>20AC DC-DD>2039 DE-DF>21A E0>2021 E1>B7 E2>201A E3>201E E4>2030 E5>C2 E6>CA",
      "E7>C1 E8>CB E9>C8 EA-EC>CD ED>CC EE-EF>D3 F0>F8FF F1>D2 F2-F3>DA F4>D9 F5>131 F6>2C6",
      "F7>2DC F8>AF F9-FB>2D8 FC>B8 FD>2DD FE>2DB FF>2C7"]),
   ("mac_turkish", [
      "80-81>C4 82>C7 83>C9 84>D1 85>D6 86>DC 87>E1 88>E0 89>E2 8A>E4 8B>E3 8C>E5 8D>E7 8E>E9",
      "8F>E8 90-91>EA 92>ED 93>EC 94-95>EE 96>F1 97>F3 98>F2 99>F4 9A>F6 9B>F5 9C>FA 9D>F9",
      "9E-9F>FB A0>2020 A1>B0 A4>A7 A5>2022 A6>B6 A7>DF A8>AE AA>2122 AB>B4 AC>A8 AD>2260 AE>C6",
      "AF>D8 B0>221E B2-B3>2264 B4>A5 B6>2202 B7>2211 B8>220F B9>3C0 BA>222B BB>AA BC>BA BD>3A9",
      "BE>E6 BF>F8 C0>BF C1>A1 C2>AC C3>221A C4>192 C5>2248 C6>2206 C7>AB C8>BB C9>2026 CA>A0",
      "CB>C0 CC>C3 CD>D5 CE-CF>152 D0-D1>2013 D2-D3>201C D4-D5>2018 D6>F7 D7>25CA D8>FF D9>178",
      "DA-DB>11E DC-DD>130 DE-DF>15E E0>2021 E1>B7 E2>201A E3>201E E4>2030 E5>C2 E6>CA E7>C1",
      "E8>CB E9>C8 EA-EC>CD ED>CC EE-EF>D3 F0>F8FF F1>D2 F2-F3>DA F4>D9 F5>F8A0 F6>2C6 F7>2DC",
      "F8>AF F9-FB>2D8 FC>B8 FD>2DD FE>2DB FF>2C7"]),
   ("palmos", [
      "80>20AC 82>201A 83>192 84>201E 85>2026 86-87>2020 88>2C6 89>2030 8A>160 8B>2039 8C>152",
      "8D>2666 8E>2663 8F>2665 90>2660 91-92>2018 93-94>201C 95>2022 96-97>2013 98>2DC 99>2122",
      "9A>161 9C>153 9F>178"]),
   ("ptcp154", [
      "80>496 81>492 82>4EE 83>493 84>201E 85>2026 86>4B6 87>4AE 88>4B2 89>4AF 8A>4A0 8B>4E2",
      "8C>4A2 8D>49A 8E>4BA 8F>4B8 90>497 91-92>2018 93-94>201C 95>2022 96-97>2013 98>4B3 99>4B7",
      "9A>4A1 9B>4E3 9C>4A3 9D>49B 9E>4BB 9F>4B9 A1>40E A2>45E A3>408 A4>4E8 A5>498 A6>4B0 A8>401",
      "AA>4D8 AD>4EF AF>49C B1>4B1 B2>406 B3>456 B4>499 B5>4E9 B8>451 B9>2116 BA>4D9 BC>458",
      "BD-BE>4AA BF>49D C0-FF>410"]),
   ("tis_620", [
      "A0> A1-DA>E01 DB-DE> DF-FB>E3F FC-FF>"])]

/-- The character of an octet in a set, none if it stands for nothing. -/
def octetChar? (spans : List MapSpan) (b : UInt8) : Option Char :=
  match imageOf? spans (Char.ofNat b.toNat) with
  | none => some (Char.ofNat b.toNat)
  | some [c] => some c
  | some _ => none

end InlineReview.Text
