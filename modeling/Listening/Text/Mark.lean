import Listening.Text.Table

/-!
# Combining marks

A combining mark is a character of a canonical combining class other than
zero: an accent, a dot below, a vowel point. It is what a title loses when
its accents are ignored. The ranges are those of Unicode 14.0; no ASCII
character is among them.
-/

namespace Listening.Text

/-- The characters of a combining class other than zero. -/
def markRanges : Ranges := .ofText "
300-34E 350-36F 483-487 591-5BD 5BF 5C1-5C2 5C4-5C5 5C7 610-61A 64B-65F 670 6D6-6DC 6DF-6E4
6E7-6E8 6EA-6ED 711 730-74A 7EB-7F3 7FD 816-819 81B-823 825-827 829-82D 859-85B 898-89F 8CA-8E1
8E3-8FF 93C 94D 951-954 9BC 9CD 9FE A3C A4D ABC ACD B3C B4D BCD C3C C4D C55-C56 CBC CCD D3B-D3C
D4D DCA E38-E3A E48-E4B EB8-EBA EC8-ECB F18-F19 F35 F37 F39 F71-F72 F74 F7A-F7D F80 F82-F84
F86-F87 FC6 1037 1039-103A 108D 135D-135F 1714-1715 1734 17D2 17DD 18A9 1939-193B 1A17-1A18 1A60
1A75-1A7C 1A7F 1AB0-1ABD 1ABF-1ACE 1B34 1B44 1B6B-1B73 1BAA-1BAB 1BE6 1BF2-1BF3 1C37 1CD0-1CD2
1CD4-1CE0 1CE2-1CE8 1CED 1CF4 1CF8-1CF9 1DC0-1DFF 20D0-20DC 20E1 20E5-20F0 2CEF-2CF1 2D7F
2DE0-2DFF 302A-302F 3099-309A A66F A674-A67D A69E-A69F A6F0-A6F1 A806 A82C A8C4 A8E0-A8F1
A92B-A92D A953 A9B3 A9C0 AAB0 AAB2-AAB4 AAB7-AAB8 AABE-AABF AAC1 AAF6 ABED FB1E FE20-FE2F 101FD
102E0 10376-1037A 10A0D 10A0F 10A38-10A3A 10A3F 10AE5-10AE6 10D24-10D27 10EAB-10EAC 10F46-10F50
10F82-10F85 11046 11070 1107F 110B9-110BA 11100-11102 11133-11134 11173 111C0 111CA 11235-11236
112E9-112EA 1133B-1133C 1134D 11366-1136C 11370-11374 11442 11446 1145E 114C2-114C3 115BF-115C0
1163F 116B6-116B7 1172B 11839-1183A 1193D-1193E 11943 119E0 11A34 11A47 11A99 11C3F 11D42
11D44-11D45 11D97 16AF0-16AF4 16B30-16B36 16FF0-16FF1 1BC9E 1D165-1D169 1D16D-1D172 1D17B-1D182
1D185-1D18B 1D1AA-1D1AD 1D242-1D244 1E000-1E006 1E008-1E018 1E01B-1E021 1E023-1E024 1E026-1E02A
1E130-1E136 1E2AE 1E2EC-1E2EF 1E8D0-1E8D6 1E944-1E94A"

/-- Whether a character is a combining mark. -/
def isMark (c : Char) : Bool :=
  !(c.toNat < 0x80) && markRanges.contains c

end Listening.Text
