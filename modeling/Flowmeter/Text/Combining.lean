import Flowmeter.Text.CodeTable

/-!
# Combining characters

Characters that attach to the one before them are in classes by the place where they attach.
Those of one class keep their order, those of different classes have none, and a character of
class nought begins anew.
-/

set_option autoImplicit false

namespace Flowmeter.Text

/-- The classes other than nought, and the ranges of their members. -/
def combiningClasses : List (Nat × Array (Nat × Nat)) := [
  (1, CodeTable.ranges [
    "334-338 1CD4 1CE2-1CE8 20D2-20D3 20D8-20DA 20E5-20E6 20EA-20EB 10A39 16AF0-16AF4 1BC9E",
    "1D167-1D169"]),
  (6, CodeTable.ranges [
    "16FF0-16FF1"]),
  (7, CodeTable.ranges [
    "93C 9BC A3C ABC B3C C3C CBC 1037 1B34 1BE6 1C37 A9B3 110BA 11173 111CA 11236 112E9",
    "1133B-1133C 11446 114C3 115C0 116B7 1183A 11943 11D42 1E94A"]),
  (8, CodeTable.ranges [
    "3099-309A"]),
  (9, CodeTable.ranges [
    "94D 9CD A4D ACD B4D BCD C4D CCD D3B-D3C D4D DCA E3A EBA F84 1039-103A 1714-1715 1734 17D2",
    "1A60 1B44 1BAA-1BAB 1BF2-1BF3 2D7F A806 A82C A8C4 A953 A9C0 AAF6 ABED 10A3F 11046 11070",
    "1107F 110B9 11133-11134 111C0 11235 112EA 1134D 11442 114C2 115BF 1163F 116B6 1172B 11839",
    "1193D-1193E 119E0 11A34 11A47 11A99 11C3F 11D44-11D45 11D97"]),
  (10, CodeTable.ranges [
    "5B0"]),
  (11, CodeTable.ranges [
    "5B1"]),
  (12, CodeTable.ranges [
    "5B2"]),
  (13, CodeTable.ranges [
    "5B3"]),
  (14, CodeTable.ranges [
    "5B4"]),
  (15, CodeTable.ranges [
    "5B5"]),
  (16, CodeTable.ranges [
    "5B6"]),
  (17, CodeTable.ranges [
    "5B7"]),
  (18, CodeTable.ranges [
    "5B8 5C7"]),
  (19, CodeTable.ranges [
    "5B9-5BA"]),
  (20, CodeTable.ranges [
    "5BB"]),
  (21, CodeTable.ranges [
    "5BC"]),
  (22, CodeTable.ranges [
    "5BD"]),
  (23, CodeTable.ranges [
    "5BF"]),
  (24, CodeTable.ranges [
    "5C1"]),
  (25, CodeTable.ranges [
    "5C2"]),
  (26, CodeTable.ranges [
    "FB1E"]),
  (27, CodeTable.ranges [
    "64B 8F0"]),
  (28, CodeTable.ranges [
    "64C 8F1"]),
  (29, CodeTable.ranges [
    "64D 8F2"]),
  (30, CodeTable.ranges [
    "618 64E"]),
  (31, CodeTable.ranges [
    "619 64F"]),
  (32, CodeTable.ranges [
    "61A 650"]),
  (33, CodeTable.ranges [
    "651"]),
  (34, CodeTable.ranges [
    "652"]),
  (35, CodeTable.ranges [
    "670"]),
  (36, CodeTable.ranges [
    "711"]),
  (84, CodeTable.ranges [
    "C55"]),
  (91, CodeTable.ranges [
    "C56"]),
  (103, CodeTable.ranges [
    "E38-E39"]),
  (107, CodeTable.ranges [
    "E48-E4B"]),
  (118, CodeTable.ranges [
    "EB8-EB9"]),
  (122, CodeTable.ranges [
    "EC8-ECB"]),
  (129, CodeTable.ranges [
    "F71"]),
  (130, CodeTable.ranges [
    "F72 F7A-F7D F80"]),
  (132, CodeTable.ranges [
    "F74"]),
  (202, CodeTable.ranges [
    "321-322 327-328 1DD0"]),
  (214, CodeTable.ranges [
    "1DCE"]),
  (216, CodeTable.ranges [
    "31B F39 1D165-1D166 1D16E-1D172"]),
  (218, CodeTable.ranges [
    "1DFA 302A"]),
  (220, CodeTable.ranges [
    "316-319 31C-320 323-326 329-333 339-33C 347-349 34D-34E 353-356 359-35A 591 596 59B 5A2-5A7",
    "5AA 5C5 655-656 65C 65F 6E3 6EA 6ED 731 734 737-739 73B-73C 73E 742 744 746 748 7F2 7FD",
    "859-85B 899-89B 8CF-8D3 8E3 8E6 8E9 8ED-8EF 8F6 8F9-8FA 952 F18-F19 F35 F37 FC6 108D 193B",
    "1A18 1A7F 1AB5-1ABA 1ABD 1ABF-1AC0 1AC3-1AC4 1ACA 1B6C 1CD5-1CD9 1CDC-1CDF 1CED 1DC2 1DCA",
    "1DCF 1DF9 1DFD 1DFF 20E8 20EC-20EF A92B-A92D AAB4 FE27-FE2D 101FD 102E0 10A0D 10A3A 10AE6",
    "10F46-10F47 10F4B 10F4D-10F50 10F83 10F85 1D17B-1D182 1D18A-1D18B 1E8D0-1E8D6"]),
  (222, CodeTable.ranges [
    "59A 5AD 1939 302D"]),
  (224, CodeTable.ranges [
    "302E-302F"]),
  (226, CodeTable.ranges [
    "1D16D"]),
  (228, CodeTable.ranges [
    "5AE 18A9 1DF7-1DF8 302B"]),
  (230, CodeTable.ranges [
    "300-314 33D-344 346 34A-34C 350-352 357 35B 363-36F 483-487 592-595 597-599 59C-5A1 5A8-5A9",
    "5AB-5AC 5AF 5C4 610-617 653-654 657-65B 65D-65E 6D6-6DC 6DF-6E2 6E4 6E7-6E8 6EB-6EC 730",
    "732-733 735-736 73A 73D 73F-741 743 745 747 749-74A 7EB-7F1 7F3 816-819 81B-823 825-827",
    "829-82D 898 89C-89F 8CA-8CE 8D4-8E1 8E4-8E5 8E7-8E8 8EA-8EC 8F3-8F5 8F7-8F8 8FB-8FF 951",
    "953-954 9FE F82-F83 F86-F87 135D-135F 17DD 193A 1A17 1A75-1A7C 1AB0-1AB4 1ABB-1ABC 1AC1-1AC2",
    "1AC5-1AC9 1ACB-1ACE 1B6B 1B6D-1B73 1CD0-1CD2 1CDA-1CDB 1CE0 1CF4 1CF8-1CF9 1DC0-1DC1",
    "1DC3-1DC9 1DCB-1DCC 1DD1-1DF5 1DFB 1DFE 20D0-20D1 20D4-20D7 20DB-20DC 20E1 20E7 20E9 20F0",
    "2CEF-2CF1 2DE0-2DFF A66F A674-A67D A69E-A69F A6F0-A6F1 A8E0-A8F1 AAB0 AAB2-AAB3 AAB7-AAB8",
    "AABE-AABF AAC1 FE20-FE26 FE2E-FE2F 10376-1037A 10A0F 10A38 10AE5 10D24-10D27 10EAB-10EAC",
    "10F48-10F4A 10F4C 10F82 10F84 11100-11102 11366-1136C 11370-11374 1145E 16B30-16B36",
    "1D185-1D189 1D1AA-1D1AD 1D242-1D244 1E000-1E006 1E008-1E018 1E01B-1E021 1E023-1E024",
    "1E026-1E02A 1E130-1E136 1E2AE 1E2EC-1E2EF 1E944-1E949"]),
  (232, CodeTable.ranges [
    "315 31A 358 1DF6 302C"]),
  (233, CodeTable.ranges [
    "35C 35F 362 1DFC"]),
  (234, CodeTable.ranges [
    "35D-35E 360-361 1DCD"]),
  (240, CodeTable.ranges [
    "345"])]

/-- The class of a code point. -/
def combiningClass (n : Nat) : Nat :=
  ((combiningClasses.find? (fun c => CodeTable.contains c.2 n)).map Prod.fst).getD 0

/-- The marks, which belong to the character before them. -/
def markRanges : Array (Nat × Nat) := CodeTable.ranges [
  "300-36F 483-489 591-5BD 5BF 5C1-5C2 5C4-5C5 5C7 610-61A 64B-65F 670 6D6-6DC 6DF-6E4 6E7-6E8",
  "6EA-6ED 711 730-74A 7A6-7B0 7EB-7F3 7FD 816-819 81B-823 825-827 829-82D 859-85B 898-89F",
  "8CA-8E1 8E3-903 93A-93C 93E-94F 951-957 962-963 981-983 9BC 9BE-9C4 9C7-9C8 9CB-9CD 9D7",
  "9E2-9E3 9FE A01-A03 A3C A3E-A42 A47-A48 A4B-A4D A51 A70-A71 A75 A81-A83 ABC ABE-AC5 AC7-AC9",
  "ACB-ACD AE2-AE3 AFA-AFF B01-B03 B3C B3E-B44 B47-B48 B4B-B4D B55-B57 B62-B63 B82 BBE-BC2",
  "BC6-BC8 BCA-BCD BD7 C00-C04 C3C C3E-C44 C46-C48 C4A-C4D C55-C56 C62-C63 C81-C83 CBC CBE-CC4",
  "CC6-CC8 CCA-CCD CD5-CD6 CE2-CE3 D00-D03 D3B-D3C D3E-D44 D46-D48 D4A-D4D D57 D62-D63 D81-D83",
  "DCA DCF-DD4 DD6 DD8-DDF DF2-DF3 E31 E34-E3A E47-E4E EB1 EB4-EBC EC8-ECD F18-F19 F35 F37 F39",
  "F3E-F3F F71-F84 F86-F87 F8D-F97 F99-FBC FC6 102B-103E 1056-1059 105E-1060 1062-1064 1067-106D",
  "1071-1074 1082-108D 108F 109A-109D 135D-135F 1712-1715 1732-1734 1752-1753 1772-1773 17B4-17D3",
  "17DD 180B-180D 180F 1885-1886 18A9 1920-192B 1930-193B 1A17-1A1B 1A55-1A5E 1A60-1A7C 1A7F",
  "1AB0-1ACE 1B00-1B04 1B34-1B44 1B6B-1B73 1B80-1B82 1BA1-1BAD 1BE6-1BF3 1C24-1C37 1CD0-1CD2",
  "1CD4-1CE8 1CED 1CF4 1CF7-1CF9 1DC0-1DFF 20D0-20F0 2CEF-2CF1 2D7F 2DE0-2DFF 302A-302F 3099-309A",
  "A66F-A672 A674-A67D A69E-A69F A6F0-A6F1 A802 A806 A80B A823-A827 A82C A880-A881 A8B4-A8C5",
  "A8E0-A8F1 A8FF A926-A92D A947-A953 A980-A983 A9B3-A9C0 A9E5 AA29-AA36 AA43 AA4C-AA4D AA7B-AA7D",
  "AAB0 AAB2-AAB4 AAB7-AAB8 AABE-AABF AAC1 AAEB-AAEF AAF5-AAF6 ABE3-ABEA ABEC-ABED FB1E FE00-FE0F",
  "FE20-FE2F 101FD 102E0 10376-1037A 10A01-10A03 10A05-10A06 10A0C-10A0F 10A38-10A3A 10A3F",
  "10AE5-10AE6 10D24-10D27 10EAB-10EAC 10F46-10F50 10F82-10F85 11000-11002 11038-11046 11070",
  "11073-11074 1107F-11082 110B0-110BA 110C2 11100-11102 11127-11134 11145-11146 11173",
  "11180-11182 111B3-111C0 111C9-111CC 111CE-111CF 1122C-11237 1123E 112DF-112EA 11300-11303",
  "1133B-1133C 1133E-11344 11347-11348 1134B-1134D 11357 11362-11363 11366-1136C 11370-11374",
  "11435-11446 1145E 114B0-114C3 115AF-115B5 115B8-115C0 115DC-115DD 11630-11640 116AB-116B7",
  "1171D-1172B 1182C-1183A 11930-11935 11937-11938 1193B-1193E 11940 11942-11943 119D1-119D7",
  "119DA-119E0 119E4 11A01-11A0A 11A33-11A39 11A3B-11A3E 11A47 11A51-11A5B 11A8A-11A99",
  "11C2F-11C36 11C38-11C3F 11C92-11CA7 11CA9-11CB6 11D31-11D36 11D3A 11D3C-11D3D 11D3F-11D45",
  "11D47 11D8A-11D8E 11D90-11D91 11D93-11D97 11EF3-11EF6 16AF0-16AF4 16B30-16B36 16F4F",
  "16F51-16F87 16F8F-16F92 16FE4 16FF0-16FF1 1BC9D-1BC9E 1CF00-1CF2D 1CF30-1CF46 1D165-1D169",
  "1D16D-1D172 1D17B-1D182 1D185-1D18B 1D1AA-1D1AD 1D242-1D244 1DA00-1DA36 1DA3B-1DA6C 1DA75",
  "1DA84 1DA9B-1DA9F 1DAA1-1DAAF 1E000-1E006 1E008-1E018 1E01B-1E021 1E023-1E024 1E026-1E02A",
  "1E130-1E136 1E2AE 1E2EC-1E2EF 1E8D0-1E8D6 1E944-1E94A E0100-E01EF"]

end Flowmeter.Text
