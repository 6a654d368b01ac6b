import Flowmeter.Host.Label
import Flowmeter.Text.Case

/-!
# Prepared names

An older rule writes any name in ASCII that can be prepared for comparison: some code points
are dropped, letters lose their case, compatible characters become the same, and what is left
must hold nothing prohibited and be written in one direction. Characters that are younger than
the rule are taken as they are (`preparedParts`).
-/

set_option autoImplicit false

namespace Flowmeter.Host

open Flowmeter.Text

/-! ## Tables -/

/-- The code points that are dropped. -/
def droppedRanges : Array (Nat × Nat) := CodeTable.ranges [
  "AD 34F 1806 180B-180D 200B-200D 2060 FE00-FE0F FEFF"]

/-- The code points that do not simply become small letters, and what they become. -/
def foldedRuns : Array CodeTable.Run := CodeTable.runs [
  "B5 3BC ; DF 73+73 ; 130 69+307 ; 149 2BC+6E ; 17F 73 ; 1F0 6A+30C ; 345 3B9 ; 37A 20+3B9 ; 390",
  "3B9+308+301 ; 3B0 3C5+308+301 ; 3C2 3C3 ; 3D0 3B2 3B8 3C5 3CD 3CB 3C6 3C0 ; 3F0 3BA 3C1 3C3 ;",
  "3F5 3B5 ; 587 565+582 ; 1E96 68+331 74+308 77+30A 79+30A 61+2BE 1E61 ; 1F50 3C5+313 ; 1F52",
  "3C5+313+300 ; 1F54 3C5+313+301 ; 1F56 3C5+313+342 ; 1F80 1F00+3B9 1F01+3B9 1F02+3B9 1F03+3B9",
  "1F04+3B9 1F05+3B9 1F06+3B9 1F07+3B9 1F00+3B9 1F01+3B9 1F02+3B9 1F03+3B9 1F04+3B9 1F05+3B9",
  "1F06+3B9 1F07+3B9 1F20+3B9 1F21+3B9 1F22+3B9 1F23+3B9 1F24+3B9 1F25+3B9 1F26+3B9 1F27+3B9",
  "1F20+3B9 1F21+3B9 1F22+3B9 1F23+3B9 1F24+3B9 1F25+3B9 1F26+3B9 1F27+3B9 1F60+3B9 1F61+3B9",
  "1F62+3B9 1F63+3B9 1F64+3B9 1F65+3B9 1F66+3B9 1F67+3B9 1F60+3B9 1F61+3B9 1F62+3B9 1F63+3B9",
  "1F64+3B9 1F65+3B9 1F66+3B9 1F67+3B9 ; 1FB2 1F70+3B9 3B1+3B9 3AC+3B9 ; 1FB6 3B1+342 3B1+342+3B9",
  "; 1FBC 3B1+3B9 ; 1FBE 3B9 ; 1FC2 1F74+3B9 3B7+3B9 3AE+3B9 ; 1FC6 3B7+342 3B7+342+3B9 ; 1FCC",
  "3B7+3B9 ; 1FD2 3B9+308+300 3B9+308+301 ; 1FD6 3B9+342 3B9+308+342 ; 1FE2 3C5+308+300",
  "3C5+308+301 3C1+313 ; 1FE6 3C5+342 3C5+308+342 ; 1FF2 1F7C+3B9 3C9+3B9 3CE+3B9 ; 1FF6 3C9+342",
  "3C9+342+3B9 ; 1FFC 3C9+3B9 ; 20A8 72+73 ; 2102 63 B0+63 ; 2107 25B ; 2109 B0+66 ; 210B 68 68",
  "68 ; 2110 69 69 6C ; 2115 6E 6E+6F ; 2119 70 71 72 72 72 ; 2120 73+6D 74+65+6C 74+6D ; 2124 7A",
  "; 2128 7A ; 212C 62 63 ; 2130 65 66 ; 2133 6D ; 213E 3B3 3C0 ; 2145 64 ; 3371 68+70+61 ; 3373",
  "61+75 ; 3375 6F+76 ; 3380 70+61 6E+61 3BC+61 6D+61 6B+61 6B+62 6D+62 67+62 ; 338A 70+66 6E+66",
  "3BC+66 ; 3390 68+7A 6B+68+7A 6D+68+7A 67+68+7A 74+68+7A ; 33A9 70+61 6B+70+61 6D+70+61",
  "67+70+61 ; 33B4 70+76 6E+76 3BC+76 6D+76 6B+76 6D+76 70+77 6E+77 3BC+77 6D+77 6B+77 6D+77",
  "6B+3C9 6D+3C9 ; 33C3 62+71 ; 33C6 63+2215+6B+67 63+6F+2E 64+62 67+79 ; 33CB 68+70 ; 33CD 6B+6B",
  "6B+6D ; 33D7 70+68 ; 33D9 70+70+6D 70+72 ; 33DC 73+76 77+62 ; FB00 66+66 66+69 66+6C 66+66+69",
  "66+66+6C 73+74 73+74 ; FB13 574+576 574+565 574+56B 57E+576 574+56D ; 1D400 61 62 63 64 65 66",
  "67 68 69 6A 6B 6C 6D 6E 6F 70 71 72 73 74 75 76 77 78 79 7A ; 1D434 61 62 63 64 65 66 67 68 69",
  "6A 6B 6C 6D 6E 6F 70 71 72 73 74 75 76 77 78 79 7A ; 1D468 61 62 63 64 65 66 67 68 69 6A 6B 6C",
  "6D 6E 6F 70 71 72 73 74 75 76 77 78 79 7A ; 1D49C 61 ; 1D49E 63 64 ; 1D4A2 67 ; 1D4A5 6A 6B ;",
  "1D4A9 6E 6F 70 71 ; 1D4AE 73 74 75 76 77 78 79 7A ; 1D4D0 61 62 63 64 65 66 67 68 69 6A 6B 6C",
  "6D 6E 6F 70 71 72 73 74 75 76 77 78 79 7A ; 1D504 61 62 ; 1D507 64 65 66 67 ; 1D50D 6A 6B 6C",
  "6D 6E 6F 70 71 ; 1D516 73 74 75 76 77 78 79 ; 1D538 61 62 ; 1D53B 64 65 66 67 ; 1D540 69 6A 6B",
  "6C 6D ; 1D546 6F ; 1D54A 73 74 75 76 77 78 79 ; 1D56C 61 62 63 64 65 66 67 68 69 6A 6B 6C 6D",
  "6E 6F 70 71 72 73 74 75 76 77 78 79 7A ; 1D5A0 61 62 63 64 65 66 67 68 69 6A 6B 6C 6D 6E 6F 70",
  "71 72 73 74 75 76 77 78 79 7A ; 1D5D4 61 62 63 64 65 66 67 68 69 6A 6B 6C 6D 6E 6F 70 71 72 73",
  "74 75 76 77 78 79 7A ; 1D608 61 62 63 64 65 66 67 68 69 6A 6B 6C 6D 6E 6F 70 71 72 73 74 75 76",
  "77 78 79 7A ; 1D63C 61 62 63 64 65 66 67 68 69 6A 6B 6C 6D 6E 6F 70 71 72 73 74 75 76 77 78 79",
  "7A ; 1D670 61 62 63 64 65 66 67 68 69 6A 6B 6C 6D 6E 6F 70 71 72 73 74 75 76 77 78 79 7A ;",
  "1D6A8 3B1 3B2 3B3 3B4 3B5 3B6 3B7 3B8 3B9 3BA 3BB 3BC 3BD 3BE 3BF 3C0 3C1 3B8 3C3 3C4 3C5 3C6",
  "3C7 3C8 3C9 ; 1D6D3 3C3 ; 1D6E2 3B1 3B2 3B3 3B4 3B5 3B6 3B7 3B8 3B9 3BA 3BB 3BC 3BD 3BE 3BF",
  "3C0 3C1 3B8 3C3 3C4 3C5 3C6 3C7 3C8 3C9 ; 1D70D 3C3 ; 1D71C 3B1 3B2 3B3 3B4 3B5 3B6 3B7 3B8",
  "3B9 3BA 3BB 3BC 3BD 3BE 3BF 3C0 3C1 3B8 3C3 3C4 3C5 3C6 3C7 3C8 3C9 ; 1D747 3C3 ; 1D756 3B1",
  "3B2 3B3 3B4 3B5 3B6 3B7 3B8 3B9 3BA 3BB 3BC 3BD 3BE 3BF 3C0 3C1 3B8 3C3 3C4 3C5 3C6 3C7 3C8",
  "3C9 ; 1D781 3C3 ; 1D790 3B1 3B2 3B3 3B4 3B5 3B6 3B7 3B8 3B9 3BA 3BB 3BC 3BD 3BE 3BF 3C0 3C1",
  "3B8 3C3 3C4 3C5 3C6 3C7 3C8 3C9 ; 1D7BB 3C3"]

/-- The code points that no prepared name holds. -/
def prohibitedRanges : Array (Nat × Nat) := CodeTable.ranges [
  "80-A0 340-341 6DD 70F 1680 180E 2000-200F 2028-202F 205F-2063 206A-206F 2FF0-2FFB 3000",
  "D800-F8FF FDD0-FDEF FEFF FFF9-FFFF 1D173-1D17A 1FFFE-1FFFF 2FFFE-2FFFF 3FFFE-3FFFF 4FFFE-4FFFF",
  "5FFFE-5FFFF 6FFFE-6FFFF 7FFFE-7FFFF 8FFFE-8FFFF 9FFFE-9FFFF AFFFE-AFFFF BFFFE-BFFFF",
  "CFFFE-CFFFF DFFFE-DFFFF E0001 E0020-E007F EFFFE-10FFFF"]

/-- The letters that are written from right to left. -/
def rightwardRanges : Array (Nat × Nat) := CodeTable.ranges [
  "5BE 5C0 5C3 5D0-5EA 5F0-5F4 61B 61F 621-63A 640-64A 66D-66F 671-6D5 6DD 6E5-6E6 6FA-6FE",
  "700-70D 710 712-72C 780-7A5 7B1 200F FB1D FB1F-FB28 FB2A-FB36 FB38-FB3C FB3E FB40-FB41",
  "FB43-FB44 FB46-FBB1 FBD3-FD3D FD50-FD8F FD92-FDC7 FDF0-FDFC FE70-FE74 FE76-FEFC"]

/-- The letters that are written from left to right. -/
def leftwardRanges : Array (Nat × Nat) := CodeTable.ranges [
  "41-5A 61-7A AA B5 BA C0-D6 D8-F6 F8-220 222-233 250-2AD 2B0-2B8 2BB-2C1 2D0-2D1 2E0-2E4 2EE",
  "37A 386 388-38A 38C 38E-3A1 3A3-3CE 3D0-3F5 400-482 48A-4CE 4D0-4F5 4F8-4F9 500-50F 531-556",
  "559-55F 561-587 589 903 905-939 93D-940 949-94C 950 958-961 964-970 982-983 985-98C 98F-990",
  "993-9A8 9AA-9B0 9B2 9B6-9B9 9BE-9C0 9C7-9C8 9CB-9CC 9D7 9DC-9DD 9DF-9E1 9E6-9F1 9F4-9FA",
  "A05-A0A A0F-A10 A13-A28 A2A-A30 A32-A33 A35-A36 A38-A39 A3E-A40 A59-A5C A5E A66-A6F A72-A74",
  "A83 A85-A8B A8D A8F-A91 A93-AA8 AAA-AB0 AB2-AB3 AB5-AB9 ABD-AC0 AC9 ACB-ACC AD0 AE0 AE6-AEF",
  "B02-B03 B05-B0C B0F-B10 B13-B28 B2A-B30 B32-B33 B36-B39 B3D-B3E B40 B47-B48 B4B-B4C B57",
  "B5C-B5D B5F-B61 B66-B70 B83 B85-B8A B8E-B90 B92-B95 B99-B9A B9C B9E-B9F BA3-BA4 BA8-BAA",
  "BAE-BB5 BB7-BB9 BBE-BBF BC1-BC2 BC6-BC8 BCA-BCC BD7 BE7-BF2 C01-C03 C05-C0C C0E-C10 C12-C28",
  "C2A-C33 C35-C39 C41-C44 C60-C61 C66-C6F C82-C83 C85-C8C C8E-C90 C92-CA8 CAA-CB3 CB5-CB9 CBE",
  "CC0-CC4 CC7-CC8 CCA-CCB CD5-CD6 CDE CE0-CE1 CE6-CEF D02-D03 D05-D0C D0E-D10 D12-D28 D2A-D39",
  "D3E-D40 D46-D48 D4A-D4C D57 D60-D61 D66-D6F D82-D83 D85-D96 D9A-DB1 DB3-DBB DBD DC0-DC6",
  "DCF-DD1 DD8-DDF DF2-DF4 E01-E30 E32-E33 E40-E46 E4F-E5B E81-E82 E84 E87-E88 E8A E8D E94-E97",
  "E99-E9F EA1-EA3 EA5 EA7 EAA-EAB EAD-EB0 EB2-EB3 EBD EC0-EC4 EC6 ED0-ED9 EDC-EDD F00-F17",
  "F1A-F34 F36 F38 F3E-F47 F49-F6A F7F F85 F88-F8B FBE-FC5 FC7-FCC FCF 1000-1021 1023-1027",
  "1029-102A 102C 1031 1038 1040-1057 10A0-10C5 10D0-10F8 10FB 1100-1159 115F-11A2 11A8-11F9",
  "1200-1206 1208-1246 1248 124A-124D 1250-1256 1258 125A-125D 1260-1286 1288 128A-128D 1290-12AE",
  "12B0 12B2-12B5 12B8-12BE 12C0 12C2-12C5 12C8-12CE 12D0-12D6 12D8-12EE 12F0-130E 1310 1312-1315",
  "1318-131E 1320-1346 1348-135A 1361-137C 13A0-13F4 1401-1676 1681-169A 16A0-16F0 1700-170C",
  "170E-1711 1720-1731 1735-1736 1740-1751 1760-176C 176E-1770 1780-17B6 17BE-17C5 17C7-17C8",
  "17D4-17DA 17DC 17E0-17E9 1810-1819 1820-1877 1880-18A8 1E00-1E9B 1EA0-1EF9 1F00-1F15 1F18-1F1D",
  "1F20-1F45 1F48-1F4D 1F50-1F57 1F59 1F5B 1F5D 1F5F-1F7D 1F80-1FB4 1FB6-1FBC 1FBE 1FC2-1FC4",
  "1FC6-1FCC 1FD0-1FD3 1FD6-1FDB 1FE0-1FEC 1FF2-1FF4 1FF6-1FFC 200E 2071 207F 2102 2107 210A-2113",
  "2115 2119-211D 2124 2126 2128 212A-212D 212F-2131 2133-2139 213D-213F 2145-2149 2160-2183",
  "2336-237A 2395 249C-24E9 3005-3007 3021-3029 3031-3035 3038-303C 3041-3096 309D-309F 30A1-30FA",
  "30FC-30FF 3105-312C 3131-318E 3190-31B7 31F0-321C 3220-3243 3260-327B 327F-32B0 32C0-32CB",
  "32D0-32FE 3300-3376 337B-33DD 33E0-33FE 3400-4DB5 4E00-9FA5 A000-A48C AC00-D7A3 D800-FA2D",
  "FA30-FA6A FB00-FB06 FB13-FB17 FF21-FF3A FF41-FF5A FF66-FFBE FFC2-FFC7 FFCA-FFCF FFD2-FFD7",
  "FFDA-FFDC 10300-1031E 10320-10323 10330-1034A 10400-10425 10428-1044D 1D000-1D0F5 1D100-1D126",
  "1D12A-1D166 1D16A-1D172 1D183-1D184 1D18C-1D1A9 1D1AE-1D1DD 1D400-1D454 1D456-1D49C",
  "1D49E-1D49F 1D4A2 1D4A5-1D4A6 1D4A9-1D4AC 1D4AE-1D4B9 1D4BB 1D4BD-1D4C0 1D4C2-1D4C3",
  "1D4C5-1D505 1D507-1D50A 1D50D-1D514 1D516-1D51C 1D51E-1D539 1D53B-1D53E 1D540-1D544 1D546",
  "1D54A-1D550 1D552-1D6A3 1D6A8-1D7C9 20000-2A6D6 2F800-2FA1D F0000-FFFFD 100000-10FFFD"]

/-- Ranges with no older characters among those that are made of others. -/
def youngRanges : Array (Nat × Nat) := CodeTable.ranges [
  "3F9 10FC-1DBF 2090-209C 213B-213C 2150-2152 2189 2C7C-2D6F 321D-321E 3244-3250 327C-327E",
  "32CC-32CF 32FF 3377-337A 33DE-33DF 33FF-AB69 FA2E-FA2F FA6B-FAD9 FE10-FE19 FE47-FE48",
  "10781-11938 1D4C1 1D6A4-1D6A5 1D7CA-1D7CB 1EE00-1FBF9"]

/-- The characters that were thought to be the same as others than they are. -/
def correctedRuns : Array CodeTable.Run := CodeTable.runs [
  "2F868 2136A ; 2F874 5F33 ; 2F91F 43AB ; 2F95F 7AAE ; 2F9BF 4D57"]

/-! ## Preparing -/

/-- What characters are made of under this rule. -/
def preparedParts : Parts := fun n =>
  match CodeTable.find? correctedRuns n with
  | some ns => some ns
  | none => if CodeTable.contains youngRanges n then none else compatible n

/-- A code point without its case. -/
def withoutCase (n : Nat) : List Nat :=
  match CodeTable.find? foldedRuns n with
  | some ns => ns
  | none =>
      match CodePoint.ofNat? n with
      | some p => (smallLetters [p]).map CodePoint.toNat
      | none => [n]

/-- A code point without its case, in a form that stays so when it is made normal. -/
def foldedForm (n : Nat) : List Nat :=
  let folded := withoutCase n
  let normal := normalForm preparedParts folded
  let again := normalForm preparedParts (normal.flatMap withoutCase)
  if normal = again then folded else again

/-- Whether a text is written in one direction. -/
def hasOneDirection (ns : List Nat) : Bool :=
  let isRightward := CodeTable.contains rightwardRanges
  !ns.any isRightward ||
    (!ns.any (CodeTable.contains leftwardRanges) && ns.head?.any isRightward &&
      ns.getLast?.any isRightward)

/-- A label that is prepared for comparison, if it can be. -/
def prepare? (label : List Char) : Option (List Char) :=
  let kept := (label.map Char.toNat).filter (fun n => !CodeTable.contains droppedRanges n)
  let ns := normalForm preparedParts (kept.flatMap foldedForm)
  if ns.any (CodeTable.contains prohibitedRanges) || !hasOneDirection ns then none
  else some (ns.map Char.ofNat)

/-- A label in ASCII, if it can be prepared and is no label in ASCII already. -/
def preparedToAscii? (label : List Char) : Option (List Char) := do
  let prepared ← if isAscii label then some label else prepare? label
  let ascii ←
    if isAscii prepared then some prepared
    else if asciiPrefix.isPrefixOf prepared then none
    else some (asciiPrefix ++ Punycode.encode prepared)
  if ascii.isEmpty || labelLimit < ascii.length then none else some ascii

/-- A name in ASCII, if its labels can be prepared. One of ASCII is taken as it is. -/
def preparedName? (name : List Char) : Option (List Char) :=
  if isAscii name then some name
  else do
    let (labels, ended) := labelsOf (name.map .char)
    let ascii ← labels.mapM fun label => preparedToAscii? (label.map CodePoint.toChar)
    return joinWith ['.'] (ascii ++ if ended then [[]] else [])

end Flowmeter.Host
