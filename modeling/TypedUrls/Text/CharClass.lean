/-!
# Character classes — the Unicode properties the generator asks about

Beyond ASCII the generator asks five questions of a character:

* is it *alphanumeric* (Alphabetic, or a number of class Nd, Nl or No)? Such characters are
  kept when a name becomes an identifier;
* is it *blank* (White_Space)? Blanks are trimmed and separate words;
* is it a *control* character (class Cc)? Those are escaped in emitted literals;
* is it *cased*, or *case-ignorable*? Both decide how a capital sigma is lowered at the end of
  a word.

Each class beyond ASCII is a sorted table of disjoint code-point ranges from the Unicode 17
character database, searched by halving. ASCII characters are answered without the tables, so
that closed statements about ASCII names evaluate quickly.
-/

namespace TypedUrls.Text

/-! ## Range tables -/

namespace Ranges

/-- The value of a hexadecimal digit (`0`–`9`, `A`–`F`); other characters count as zero. -/
def hexDigit (c : Char) : Nat :=
  if c.isDigit then c.toNat - '0'.toNat
  else if 'A' ≤ c ∧ c ≤ 'F' then c.toNat - 'A'.toNat + 10
  else 0

/-- The value of a hexadecimal numeral. -/
def hexValue (cs : List Char) : Nat :=
  cs.foldl (fun n c => n * 16 + hexDigit c) 0

/-- One range written `lo-hi` in hexadecimal. -/
def range (cs : List Char) : Nat × Nat :=
  (hexValue (cs.takeWhile (· ≠ '-')), hexValue ((cs.dropWhile (· ≠ '-')).drop 1))

/-- A table written as comma-separated ranges `lo-hi`, in increasing order. -/
def ofText (s : String) : Array (Nat × Nat) :=
  ((s.splitOn ",").map fun piece => range piece.toList).toArray

/-- Whether `n` lies in one of the sorted, disjoint ranges `rs[lo:hi]`, searched by halving. -/
def search (rs : Array (Nat × Nat)) (n : Nat) (lo hi : Nat) : Bool :=
  if lo < hi then
    let mid := (lo + hi) / 2
    let r := rs.getD mid (0, 0)
    if n < r.1 then search rs n lo mid
    else if r.2 < n then search rs n (mid + 1) hi
    else true
  else false
termination_by hi - lo

/-- Whether `n` lies in one of the sorted, disjoint ranges of `rs`. -/
def contains (rs : Array (Nat × Nat)) (n : Nat) : Bool :=
  search rs n 0 rs.size

end Ranges

/-- Code points that are alphabetic or numeric (Alphabetic, Nd, Nl, No). -/
def alphanumericRanges : Array (Nat × Nat) :=
  Ranges.ofText <|
    "30-39,41-5A,61-7A,AA-AA,B2-B3,B5-B5,B9-BA,BC-BE,C0-D6,D8-F6,F8-2C1,2C6-2D1,2E0-2E4,2EC-2EC,"
    ++ "2EE-2EE,345-345,363-374,376-377,37A-37D,37F-37F,386-386,388-38A,38C-38C,38E-3A1,3A3-3F5,"
    ++ "3F7-481,48A-52F,531-556,559-559,560-588,5B0-5BD,5BF-5BF,5C1-5C2,5C4-5C5,5C7-5C7,5D0-5EA,"
    ++ "5EF-5F2,610-61A,620-657,659-669,66E-6D3,6D5-6DC,6E1-6E8,6ED-6FC,6FF-6FF,710-73F,74D-7B1,"
    ++ "7C0-7EA,7F4-7F5,7FA-7FA,800-817,81A-82C,840-858,860-86A,870-887,889-88F,897-897,8A0-8C9,"
    ++ "8D4-8DF,8E3-8E9,8F0-93B,93D-94C,94E-950,955-963,966-96F,971-983,985-98C,98F-990,993-9A8,"
    ++ "9AA-9B0,9B2-9B2,9B6-9B9,9BD-9C4,9C7-9C8,9CB-9CC,9CE-9CE,9D7-9D7,9DC-9DD,9DF-9E3,9E6-9F1,"
    ++ "9F4-9F9,9FC-9FC,A01-A03,A05-A0A,A0F-A10,A13-A28,A2A-A30,A32-A33,A35-A36,A38-A39,A3E-A42,"
    ++ "A47-A48,A4B-A4C,A51-A51,A59-A5C,A5E-A5E,A66-A75,A81-A83,A85-A8D,A8F-A91,A93-AA8,AAA-AB0,"
    ++ "AB2-AB3,AB5-AB9,ABD-AC5,AC7-AC9,ACB-ACC,AD0-AD0,AE0-AE3,AE6-AEF,AF9-AFC,B01-B03,B05-B0C,"
    ++ "B0F-B10,B13-B28,B2A-B30,B32-B33,B35-B39,B3D-B44,B47-B48,B4B-B4C,B56-B57,B5C-B5D,B5F-B63,"
    ++ "B66-B6F,B71-B77,B82-B83,B85-B8A,B8E-B90,B92-B95,B99-B9A,B9C-B9C,B9E-B9F,BA3-BA4,BA8-BAA,"
    ++ "BAE-BB9,BBE-BC2,BC6-BC8,BCA-BCC,BD0-BD0,BD7-BD7,BE6-BF2,C00-C0C,C0E-C10,C12-C28,C2A-C39,"
    ++ "C3D-C44,C46-C48,C4A-C4C,C55-C56,C58-C5A,C5C-C5D,C60-C63,C66-C6F,C78-C7E,C80-C83,C85-C8C,"
    ++ "C8E-C90,C92-CA8,CAA-CB3,CB5-CB9,CBD-CC4,CC6-CC8,CCA-CCC,CD5-CD6,CDC-CDE,CE0-CE3,CE6-CEF,"
    ++ "CF1-CF3,D00-D0C,D0E-D10,D12-D3A,D3D-D44,D46-D48,D4A-D4C,D4E-D4E,D54-D63,D66-D78,D7A-D7F,"
    ++ "D81-D83,D85-D96,D9A-DB1,DB3-DBB,DBD-DBD,DC0-DC6,DCF-DD4,DD6-DD6,DD8-DDF,DE6-DEF,DF2-DF3,"
    ++ "E01-E3A,E40-E46,E4D-E4D,E50-E59,E81-E82,E84-E84,E86-E8A,E8C-EA3,EA5-EA5,EA7-EB9,EBB-EBD,"
    ++ "EC0-EC4,EC6-EC6,ECD-ECD,ED0-ED9,EDC-EDF,F00-F00,F20-F33,F40-F47,F49-F6C,F71-F83,F88-F97,"
    ++ "F99-FBC,1000-1036,1038-1038,103B-1049,1050-109D,10A0-10C5,10C7-10C7,10CD-10CD,10D0-10FA,"
    ++ "10FC-1248,124A-124D,1250-1256,1258-1258,125A-125D,1260-1288,128A-128D,1290-12B0,12B2-12B5,"
    ++ "12B8-12BE,12C0-12C0,12C2-12C5,12C8-12D6,12D8-1310,1312-1315,1318-135A,1369-137C,1380-138F,"
    ++ "13A0-13F5,13F8-13FD,1401-166C,166F-167F,1681-169A,16A0-16EA,16EE-16F8,1700-1713,171F-1733,"
    ++ "1740-1753,1760-176C,176E-1770,1772-1773,1780-17B3,17B6-17C8,17D7-17D7,17DC-17DC,17E0-17E9,"
    ++ "17F0-17F9,1810-1819,1820-1878,1880-18AA,18B0-18F5,1900-191E,1920-192B,1930-1938,1946-196D,"
    ++ "1970-1974,1980-19AB,19B0-19C9,19D0-19DA,1A00-1A1B,1A20-1A5E,1A61-1A74,1A80-1A89,1A90-1A99,"
    ++ "1AA7-1AA7,1ABF-1AC0,1ACC-1ACE,1B00-1B33,1B35-1B43,1B45-1B4C,1B50-1B59,1B80-1BA9,1BAC-1BE5,"
    ++ "1BE7-1BF1,1C00-1C36,1C40-1C49,1C4D-1C7D,1C80-1C8A,1C90-1CBA,1CBD-1CBF,1CE9-1CEC,1CEE-1CF3,"
    ++ "1CF5-1CF6,1CFA-1CFA,1D00-1DBF,1DD3-1DF4,1E00-1F15,1F18-1F1D,1F20-1F45,1F48-1F4D,1F50-1F57,"
    ++ "1F59-1F59,1F5B-1F5B,1F5D-1F5D,1F5F-1F7D,1F80-1FB4,1FB6-1FBC,1FBE-1FBE,1FC2-1FC4,1FC6-1FCC,"
    ++ "1FD0-1FD3,1FD6-1FDB,1FE0-1FEC,1FF2-1FF4,1FF6-1FFC,2070-2071,2074-2079,207F-2089,2090-209C,"
    ++ "2102-2102,2107-2107,210A-2113,2115-2115,2119-211D,2124-2124,2126-2126,2128-2128,212A-212D,"
    ++ "212F-2139,213C-213F,2145-2149,214E-214E,2150-2189,2460-249B,24B6-24FF,2776-2793,2C00-2CE4,"
    ++ "2CEB-2CEE,2CF2-2CF3,2CFD-2CFD,2D00-2D25,2D27-2D27,2D2D-2D2D,2D30-2D67,2D6F-2D6F,2D80-2D96,"
    ++ "2DA0-2DA6,2DA8-2DAE,2DB0-2DB6,2DB8-2DBE,2DC0-2DC6,2DC8-2DCE,2DD0-2DD6,2DD8-2DDE,2DE0-2DFF,"
    ++ "2E2F-2E2F,3005-3007,3021-3029,3031-3035,3038-303C,3041-3096,309D-309F,30A1-30FA,30FC-30FF,"
    ++ "3105-312F,3131-318E,3192-3195,31A0-31BF,31F0-31FF,3220-3229,3248-324F,3251-325F,3280-3289,"
    ++ "32B1-32BF,3400-4DBF,4E00-A48C,A4D0-A4FD,A500-A60C,A610-A62B,A640-A66E,A674-A67B,A67F-A6EF,"
    ++ "A717-A71F,A722-A788,A78B-A7DC,A7F1-A805,A807-A827,A830-A835,A840-A873,A880-A8C3,A8C5-A8C5,"
    ++ "A8D0-A8D9,A8F2-A8F7,A8FB-A8FB,A8FD-A92A,A930-A952,A960-A97C,A980-A9B2,A9B4-A9BF,A9CF-A9D9,"
    ++ "A9E0-A9FE,AA00-AA36,AA40-AA4D,AA50-AA59,AA60-AA76,AA7A-AABE,AAC0-AAC0,AAC2-AAC2,AADB-AADD,"
    ++ "AAE0-AAEF,AAF2-AAF5,AB01-AB06,AB09-AB0E,AB11-AB16,AB20-AB26,AB28-AB2E,AB30-AB5A,AB5C-AB69,"
    ++ "AB70-ABEA,ABF0-ABF9,AC00-D7A3,D7B0-D7C6,D7CB-D7FB,F900-FA6D,FA70-FAD9,FB00-FB06,FB13-FB17,"
    ++ "FB1D-FB28,FB2A-FB36,FB38-FB3C,FB3E-FB3E,FB40-FB41,FB43-FB44,FB46-FBB1,FBD3-FD3D,FD50-FD8F,"
    ++ "FD92-FDC7,FDF0-FDFB,FE70-FE74,FE76-FEFC,FF10-FF19,FF21-FF3A,FF41-FF5A,FF66-FFBE,FFC2-FFC7,"
    ++ "FFCA-FFCF,FFD2-FFD7,FFDA-FFDC,10000-1000B,1000D-10026,10028-1003A,1003C-1003D,1003F-1004D,"
    ++ "10050-1005D,10080-100FA,10107-10133,10140-10178,1018A-1018B,10280-1029C,102A0-102D0,"
    ++ "102E1-102FB,10300-10323,1032D-1034A,10350-1037A,10380-1039D,103A0-103C3,103C8-103CF,"
    ++ "103D1-103D5,10400-1049D,104A0-104A9,104B0-104D3,104D8-104FB,10500-10527,10530-10563,"
    ++ "10570-1057A,1057C-1058A,1058C-10592,10594-10595,10597-105A1,105A3-105B1,105B3-105B9,"
    ++ "105BB-105BC,105C0-105F3,10600-10736,10740-10755,10760-10767,10780-10785,10787-107B0,"
    ++ "107B2-107BA,10800-10805,10808-10808,1080A-10835,10837-10838,1083C-1083C,1083F-10855,"
    ++ "10858-10876,10879-1089E,108A7-108AF,108E0-108F2,108F4-108F5,108FB-1091B,10920-10939,"
    ++ "10940-10959,10980-109B7,109BC-109CF,109D2-10A03,10A05-10A06,10A0C-10A13,10A15-10A17,"
    ++ "10A19-10A35,10A40-10A48,10A60-10A7E,10A80-10A9F,10AC0-10AC7,10AC9-10AE4,10AEB-10AEF,"
    ++ "10B00-10B35,10B40-10B55,10B58-10B72,10B78-10B91,10BA9-10BAF,10C00-10C48,10C80-10CB2,"
    ++ "10CC0-10CF2,10CFA-10D27,10D30-10D39,10D40-10D65,10D69-10D69,10D6F-10D85,10E60-10E7E,"
    ++ "10E80-10EA9,10EAB-10EAC,10EB0-10EB1,10EC2-10EC7,10EFA-10EFC,10F00-10F27,10F30-10F45,"
    ++ "10F51-10F54,10F70-10F81,10FB0-10FCB,10FE0-10FF6,11000-11045,11052-1106F,11071-11075,"
    ++ "11080-110B8,110C2-110C2,110D0-110E8,110F0-110F9,11100-11132,11136-1113F,11144-11147,"
    ++ "11150-11172,11176-11176,11180-111BF,111C1-111C4,111CE-111DA,111DC-111DC,111E1-111F4,"
    ++ "11200-11211,11213-11234,11237-11237,1123E-11241,11280-11286,11288-11288,1128A-1128D,"
    ++ "1128F-1129D,1129F-112A8,112B0-112E8,112F0-112F9,11300-11303,11305-1130C,1130F-11310,"
    ++ "11313-11328,1132A-11330,11332-11333,11335-11339,1133D-11344,11347-11348,1134B-1134C,"
    ++ "11350-11350,11357-11357,1135D-11363,11380-11389,1138B-1138B,1138E-1138E,11390-113B5,"
    ++ "113B7-113C0,113C2-113C2,113C5-113C5,113C7-113CA,113CC-113CD,113D1-113D1,113D3-113D3,"
    ++ "11400-11441,11443-11445,11447-1144A,11450-11459,1145F-11461,11480-114C1,114C4-114C5,"
    ++ "114C7-114C7,114D0-114D9,11580-115B5,115B8-115BE,115D8-115DD,11600-1163E,11640-11640,"
    ++ "11644-11644,11650-11659,11680-116B5,116B8-116B8,116C0-116C9,116D0-116E3,11700-1171A,"
    ++ "1171D-1172A,11730-1173B,11740-11746,11800-11838,118A0-118F2,118FF-11906,11909-11909,"
    ++ "1190C-11913,11915-11916,11918-11935,11937-11938,1193B-1193C,1193F-11942,11950-11959,"
    ++ "119A0-119A7,119AA-119D7,119DA-119DF,119E1-119E1,119E3-119E4,11A00-11A32,11A35-11A3E,"
    ++ "11A50-11A97,11A9D-11A9D,11AB0-11AF8,11B60-11B67,11BC0-11BE0,11BF0-11BF9,11C00-11C08,"
    ++ "11C0A-11C36,11C38-11C3E,11C40-11C40,11C50-11C6C,11C72-11C8F,11C92-11CA7,11CA9-11CB6,"
    ++ "11D00-11D06,11D08-11D09,11D0B-11D36,11D3A-11D3A,11D3C-11D3D,11D3F-11D41,11D43-11D43,"
    ++ "11D46-11D47,11D50-11D59,11D60-11D65,11D67-11D68,11D6A-11D8E,11D90-11D91,11D93-11D96,"
    ++ "11D98-11D98,11DA0-11DA9,11DB0-11DDB,11DE0-11DE9,11EE0-11EF6,11F00-11F10,11F12-11F3A,"
    ++ "11F3E-11F40,11F50-11F59,11FB0-11FB0,11FC0-11FD4,12000-12399,12400-1246E,12480-12543,"
    ++ "12F90-12FF0,13000-1342F,13441-13446,13460-143FA,14400-14646,16100-1612E,16130-16139,"
    ++ "16800-16A38,16A40-16A5E,16A60-16A69,16A70-16ABE,16AC0-16AC9,16AD0-16AED,16B00-16B2F,"
    ++ "16B40-16B43,16B50-16B59,16B5B-16B61,16B63-16B77,16B7D-16B8F,16D40-16D6C,16D70-16D79,"
    ++ "16E40-16E96,16EA0-16EB8,16EBB-16ED3,16F00-16F4A,16F4F-16F87,16F8F-16F9F,16FE0-16FE1,"
    ++ "16FE3-16FE3,16FF0-16FF6,17000-18CD5,18CFF-18D1E,18D80-18DF2,1AFF0-1AFF3,1AFF5-1AFFB,"
    ++ "1AFFD-1AFFE,1B000-1B122,1B132-1B132,1B150-1B152,1B155-1B155,1B164-1B167,1B170-1B2FB,"
    ++ "1BC00-1BC6A,1BC70-1BC7C,1BC80-1BC88,1BC90-1BC99,1BC9E-1BC9E,1CCF0-1CCF9,1D2C0-1D2D3,"
    ++ "1D2E0-1D2F3,1D360-1D378,1D400-1D454,1D456-1D49C,1D49E-1D49F,1D4A2-1D4A2,1D4A5-1D4A6,"
    ++ "1D4A9-1D4AC,1D4AE-1D4B9,1D4BB-1D4BB,1D4BD-1D4C3,1D4C5-1D505,1D507-1D50A,1D50D-1D514,"
    ++ "1D516-1D51C,1D51E-1D539,1D53B-1D53E,1D540-1D544,1D546-1D546,1D54A-1D550,1D552-1D6A5,"
    ++ "1D6A8-1D6C0,1D6C2-1D6DA,1D6DC-1D6FA,1D6FC-1D714,1D716-1D734,1D736-1D74E,1D750-1D76E,"
    ++ "1D770-1D788,1D78A-1D7A8,1D7AA-1D7C2,1D7C4-1D7CB,1D7CE-1D7FF,1DF00-1DF1E,1DF25-1DF2A,"
    ++ "1E000-1E006,1E008-1E018,1E01B-1E021,1E023-1E024,1E026-1E02A,1E030-1E06D,1E08F-1E08F,"
    ++ "1E100-1E12C,1E137-1E13D,1E140-1E149,1E14E-1E14E,1E290-1E2AD,1E2C0-1E2EB,1E2F0-1E2F9,"
    ++ "1E4D0-1E4EB,1E4F0-1E4F9,1E5D0-1E5ED,1E5F0-1E5FA,1E6C0-1E6DE,1E6E0-1E6F5,1E6FE-1E6FF,"
    ++ "1E7E0-1E7E6,1E7E8-1E7EB,1E7ED-1E7EE,1E7F0-1E7FE,1E800-1E8C4,1E8C7-1E8CF,1E900-1E943,"
    ++ "1E947-1E947,1E94B-1E94B,1E950-1E959,1EC71-1ECAB,1ECAD-1ECAF,1ECB1-1ECB4,1ED01-1ED2D,"
    ++ "1ED2F-1ED3D,1EE00-1EE03,1EE05-1EE1F,1EE21-1EE22,1EE24-1EE24,1EE27-1EE27,1EE29-1EE32,"
    ++ "1EE34-1EE37,1EE39-1EE39,1EE3B-1EE3B,1EE42-1EE42,1EE47-1EE47,1EE49-1EE49,1EE4B-1EE4B,"
    ++ "1EE4D-1EE4F,1EE51-1EE52,1EE54-1EE54,1EE57-1EE57,1EE59-1EE59,1EE5B-1EE5B,1EE5D-1EE5D,"
    ++ "1EE5F-1EE5F,1EE61-1EE62,1EE64-1EE64,1EE67-1EE6A,1EE6C-1EE72,1EE74-1EE77,1EE79-1EE7C,"
    ++ "1EE7E-1EE7E,1EE80-1EE89,1EE8B-1EE9B,1EEA1-1EEA3,1EEA5-1EEA9,1EEAB-1EEBB,1F100-1F10C,"
    ++ "1F130-1F149,1F150-1F169,1F170-1F189,1FBF0-1FBF9,20000-2A6DF,2A700-2B81D,2B820-2CEAD,"
    ++ "2CEB0-2EBE0,2EBF0-2EE5D,2F800-2FA1D,30000-3134A,31350-33479"

/-- Code points with the Cased property. -/
def casedRanges : Array (Nat × Nat) :=
  Ranges.ofText <|
    "41-5A,61-7A,AA-AA,B5-B5,BA-BA,C0-D6,D8-F6,F8-1BA,1BC-1BF,1C4-293,296-2B8,2C0-2C1,2E0-2E4,"
    ++ "345-345,370-373,376-377,37A-37D,37F-37F,386-386,388-38A,38C-38C,38E-3A1,3A3-3F5,3F7-481,"
    ++ "48A-52F,531-556,560-588,10A0-10C5,10C7-10C7,10CD-10CD,10D0-10FA,10FC-10FF,13A0-13F5,"
    ++ "13F8-13FD,1C80-1C8A,1C90-1CBA,1CBD-1CBF,1D00-1DBF,1E00-1F15,1F18-1F1D,1F20-1F45,1F48-1F4D,"
    ++ "1F50-1F57,1F59-1F59,1F5B-1F5B,1F5D-1F5D,1F5F-1F7D,1F80-1FB4,1FB6-1FBC,1FBE-1FBE,1FC2-1FC4,"
    ++ "1FC6-1FCC,1FD0-1FD3,1FD6-1FDB,1FE0-1FEC,1FF2-1FF4,1FF6-1FFC,2071-2071,207F-207F,2090-209C,"
    ++ "2102-2102,2107-2107,210A-2113,2115-2115,2119-211D,2124-2124,2126-2126,2128-2128,212A-212D,"
    ++ "212F-2134,2139-2139,213C-213F,2145-2149,214E-214E,2160-217F,2183-2184,24B6-24E9,2C00-2CE4,"
    ++ "2CEB-2CEE,2CF2-2CF3,2D00-2D25,2D27-2D27,2D2D-2D2D,A640-A66D,A680-A69D,A722-A787,A78B-A78E,"
    ++ "A790-A7DC,A7F1-A7F6,A7F8-A7FA,AB30-AB5A,AB5C-AB69,AB70-ABBF,FB00-FB06,FB13-FB17,FF21-FF3A,"
    ++ "FF41-FF5A,10400-1044F,104B0-104D3,104D8-104FB,10570-1057A,1057C-1058A,1058C-10592,"
    ++ "10594-10595,10597-105A1,105A3-105B1,105B3-105B9,105BB-105BC,10780-10780,10783-10785,"
    ++ "10787-107B0,107B2-107BA,10C80-10CB2,10CC0-10CF2,10D50-10D65,10D70-10D85,118A0-118DF,"
    ++ "16E40-16E7F,16EA0-16EB8,16EBB-16ED3,1D400-1D454,1D456-1D49C,1D49E-1D49F,1D4A2-1D4A2,"
    ++ "1D4A5-1D4A6,1D4A9-1D4AC,1D4AE-1D4B9,1D4BB-1D4BB,1D4BD-1D4C3,1D4C5-1D505,1D507-1D50A,"
    ++ "1D50D-1D514,1D516-1D51C,1D51E-1D539,1D53B-1D53E,1D540-1D544,1D546-1D546,1D54A-1D550,"
    ++ "1D552-1D6A5,1D6A8-1D6C0,1D6C2-1D6DA,1D6DC-1D6FA,1D6FC-1D714,1D716-1D734,1D736-1D74E,"
    ++ "1D750-1D76E,1D770-1D788,1D78A-1D7A8,1D7AA-1D7C2,1D7C4-1D7CB,1DF00-1DF09,1DF0B-1DF1E,"
    ++ "1DF25-1DF2A,1E030-1E06D,1E900-1E943,1F130-1F149,1F150-1F169,1F170-1F189"

/-- Code points with the Case_Ignorable property. -/
def caseIgnorableRanges : Array (Nat × Nat) :=
  Ranges.ofText <|
    "27-27,2E-2E,3A-3A,5E-5E,60-60,A8-A8,AD-AD,AF-AF,B4-B4,B7-B8,2B0-36F,374-375,37A-37A,384-385,"
    ++ "387-387,483-489,559-559,55F-55F,591-5BD,5BF-5BF,5C1-5C2,5C4-5C5,5C7-5C7,5F4-5F4,600-605,"
    ++ "610-61A,61C-61C,640-640,64B-65F,670-670,6D6-6DD,6DF-6E8,6EA-6ED,70F-70F,711-711,730-74A,"
    ++ "7A6-7B0,7EB-7F5,7FA-7FA,7FD-7FD,816-82D,859-85B,888-888,890-891,897-89F,8C9-902,93A-93A,"
    ++ "93C-93C,941-948,94D-94D,951-957,962-963,971-971,981-981,9BC-9BC,9C1-9C4,9CD-9CD,9E2-9E3,"
    ++ "9FE-9FE,A01-A02,A3C-A3C,A41-A42,A47-A48,A4B-A4D,A51-A51,A70-A71,A75-A75,A81-A82,ABC-ABC,"
    ++ "AC1-AC5,AC7-AC8,ACD-ACD,AE2-AE3,AFA-AFF,B01-B01,B3C-B3C,B3F-B3F,B41-B44,B4D-B4D,B55-B56,"
    ++ "B62-B63,B82-B82,BC0-BC0,BCD-BCD,C00-C00,C04-C04,C3C-C3C,C3E-C40,C46-C48,C4A-C4D,C55-C56,"
    ++ "C62-C63,C81-C81,CBC-CBC,CBF-CBF,CC6-CC6,CCC-CCD,CE2-CE3,D00-D01,D3B-D3C,D41-D44,D4D-D4D,"
    ++ "D62-D63,D81-D81,DCA-DCA,DD2-DD4,DD6-DD6,E31-E31,E34-E3A,E46-E4E,EB1-EB1,EB4-EBC,EC6-EC6,"
    ++ "EC8-ECE,F18-F19,F35-F35,F37-F37,F39-F39,F71-F7E,F80-F84,F86-F87,F8D-F97,F99-FBC,FC6-FC6,"
    ++ "102D-1030,1032-1037,1039-103A,103D-103E,1058-1059,105E-1060,1071-1074,1082-1082,1085-1086,"
    ++ "108D-108D,109D-109D,10FC-10FC,135D-135F,1712-1714,1732-1733,1752-1753,1772-1773,17B4-17B5,"
    ++ "17B7-17BD,17C6-17C6,17C9-17D3,17D7-17D7,17DD-17DD,180B-180F,1843-1843,1885-1886,18A9-18A9,"
    ++ "1920-1922,1927-1928,1932-1932,1939-193B,1A17-1A18,1A1B-1A1B,1A56-1A56,1A58-1A5E,1A60-1A60,"
    ++ "1A62-1A62,1A65-1A6C,1A73-1A7C,1A7F-1A7F,1AA7-1AA7,1AB0-1ADD,1AE0-1AEB,1B00-1B03,1B34-1B34,"
    ++ "1B36-1B3A,1B3C-1B3C,1B42-1B42,1B6B-1B73,1B80-1B81,1BA2-1BA5,1BA8-1BA9,1BAB-1BAD,1BE6-1BE6,"
    ++ "1BE8-1BE9,1BED-1BED,1BEF-1BF1,1C2C-1C33,1C36-1C37,1C78-1C7D,1CD0-1CD2,1CD4-1CE0,1CE2-1CE8,"
    ++ "1CED-1CED,1CF4-1CF4,1CF8-1CF9,1D2C-1D6A,1D78-1D78,1D9B-1DFF,1FBD-1FBD,1FBF-1FC1,1FCD-1FCF,"
    ++ "1FDD-1FDF,1FED-1FEF,1FFD-1FFE,200B-200F,2018-2019,2024-2024,2027-2027,202A-202E,2060-2064,"
    ++ "2066-206F,2071-2071,207F-207F,2090-209C,20D0-20F0,2C7C-2C7D,2CEF-2CF1,2D6F-2D6F,2D7F-2D7F,"
    ++ "2DE0-2DFF,2E2F-2E2F,3005-3005,302A-302D,3031-3035,303B-303B,3099-309E,30FC-30FE,A015-A015,"
    ++ "A4F8-A4FD,A60C-A60C,A66F-A672,A674-A67D,A67F-A67F,A69C-A69F,A6F0-A6F1,A700-A721,A770-A770,"
    ++ "A788-A78A,A7F1-A7F4,A7F8-A7F9,A802-A802,A806-A806,A80B-A80B,A825-A826,A82C-A82C,A8C4-A8C5,"
    ++ "A8E0-A8F1,A8FF-A8FF,A926-A92D,A947-A951,A980-A982,A9B3-A9B3,A9B6-A9B9,A9BC-A9BD,A9CF-A9CF,"
    ++ "A9E5-A9E6,AA29-AA2E,AA31-AA32,AA35-AA36,AA43-AA43,AA4C-AA4C,AA70-AA70,AA7C-AA7C,AAB0-AAB0,"
    ++ "AAB2-AAB4,AAB7-AAB8,AABE-AABF,AAC1-AAC1,AADD-AADD,AAEC-AAED,AAF3-AAF4,AAF6-AAF6,AB5B-AB5F,"
    ++ "AB69-AB6B,ABE5-ABE5,ABE8-ABE8,ABED-ABED,FB1E-FB1E,FBB2-FBC2,FE00-FE0F,FE13-FE13,FE20-FE2F,"
    ++ "FE52-FE52,FE55-FE55,FEFF-FEFF,FF07-FF07,FF0E-FF0E,FF1A-FF1A,FF3E-FF3E,FF40-FF40,FF70-FF70,"
    ++ "FF9E-FF9F,FFE3-FFE3,FFF9-FFFB,101FD-101FD,102E0-102E0,10376-1037A,10780-10785,10787-107B0,"
    ++ "107B2-107BA,10A01-10A03,10A05-10A06,10A0C-10A0F,10A38-10A3A,10A3F-10A3F,10AE5-10AE6,"
    ++ "10D24-10D27,10D4E-10D4E,10D69-10D6D,10D6F-10D6F,10EAB-10EAC,10EC5-10EC5,10EFA-10EFF,"
    ++ "10F46-10F50,10F82-10F85,11001-11001,11038-11046,11070-11070,11073-11074,1107F-11081,"
    ++ "110B3-110B6,110B9-110BA,110BD-110BD,110C2-110C2,110CD-110CD,11100-11102,11127-1112B,"
    ++ "1112D-11134,11173-11173,11180-11181,111B6-111BE,111C9-111CC,111CF-111CF,1122F-11231,"
    ++ "11234-11234,11236-11237,1123E-1123E,11241-11241,112DF-112DF,112E3-112EA,11300-11301,"
    ++ "1133B-1133C,11340-11340,11366-1136C,11370-11374,113BB-113C0,113CE-113CE,113D0-113D0,"
    ++ "113D2-113D2,113E1-113E2,11438-1143F,11442-11444,11446-11446,1145E-1145E,114B3-114B8,"
    ++ "114BA-114BA,114BF-114C0,114C2-114C3,115B2-115B5,115BC-115BD,115BF-115C0,115DC-115DD,"
    ++ "11633-1163A,1163D-1163D,1163F-11640,116AB-116AB,116AD-116AD,116B0-116B5,116B7-116B7,"
    ++ "1171D-1171D,1171F-1171F,11722-11725,11727-1172B,1182F-11837,11839-1183A,1193B-1193C,"
    ++ "1193E-1193E,11943-11943,119D4-119D7,119DA-119DB,119E0-119E0,11A01-11A0A,11A33-11A38,"
    ++ "11A3B-11A3E,11A47-11A47,11A51-11A56,11A59-11A5B,11A8A-11A96,11A98-11A99,11B60-11B60,"
    ++ "11B62-11B64,11B66-11B66,11C30-11C36,11C38-11C3D,11C3F-11C3F,11C92-11CA7,11CAA-11CB0,"
    ++ "11CB2-11CB3,11CB5-11CB6,11D31-11D36,11D3A-11D3A,11D3C-11D3D,11D3F-11D45,11D47-11D47,"
    ++ "11D90-11D91,11D95-11D95,11D97-11D97,11DD9-11DD9,11EF3-11EF4,11F00-11F01,11F36-11F3A,"
    ++ "11F40-11F40,11F42-11F42,11F5A-11F5A,13430-13440,13447-13455,1611E-16129,1612D-1612F,"
    ++ "16AF0-16AF4,16B30-16B36,16B40-16B43,16D40-16D42,16D6B-16D6C,16F4F-16F4F,16F8F-16F9F,"
    ++ "16FE0-16FE1,16FE3-16FE4,16FF2-16FF3,1AFF0-1AFF3,1AFF5-1AFFB,1AFFD-1AFFE,1BC9D-1BC9E,"
    ++ "1BCA0-1BCA3,1CF00-1CF2D,1CF30-1CF46,1D167-1D169,1D173-1D182,1D185-1D18B,1D1AA-1D1AD,"
    ++ "1D242-1D244,1DA00-1DA36,1DA3B-1DA6C,1DA75-1DA75,1DA84-1DA84,1DA9B-1DA9F,1DAA1-1DAAF,"
    ++ "1E000-1E006,1E008-1E018,1E01B-1E021,1E023-1E024,1E026-1E02A,1E030-1E06D,1E08F-1E08F,"
    ++ "1E130-1E13D,1E2AE-1E2AE,1E2EC-1E2EF,1E4EB-1E4EF,1E5EE-1E5EF,1E6E3-1E6E3,1E6E6-1E6E6,"
    ++ "1E6EE-1E6EF,1E6F5-1E6F5,1E6FF-1E6FF,1E8D0-1E8D6,1E944-1E94B,1F3FB-1F3FF,E0001-E0001,"
    ++ "E0020-E007F,E0100-E01EF"

/-! ## The classes -/

/-- Alphanumeric: Alphabetic, or a number (classes Nd, Nl, No). -/
def isAlphanumeric (c : Char) : Bool :=
  if c.toNat < 128 then c.isAlphanum else Ranges.contains alphanumericRanges c.toNat

/-- Blank: the White_Space property (tab to carriage return, space, next line, no-break
space, ogham space mark, the spaces U+2000–U+200A, line and paragraph separators, narrow
no-break space, medium mathematical space and ideographic space). -/
def isBlank (c : Char) : Bool :=
  let n := c.toNat
  (0x09 ≤ n ∧ n ≤ 0x0D) || n = 0x20 || n = 0x85 || n = 0xA0 || n = 0x1680
    || (0x2000 ≤ n ∧ n ≤ 0x200A) || n = 0x2028 || n = 0x2029 || n = 0x202F || n = 0x205F
    || n = 0x3000

/-- Control: general category Cc, the C0 and C1 controls and delete. -/
def isControl (c : Char) : Bool :=
  c.toNat < 0x20 || (0x7F ≤ c.toNat && c.toNat ≤ 0x9F)

/-- Cased: the Cased property (letters with case, and a few marks and symbols). -/
def isCased (c : Char) : Bool :=
  if c.toNat < 128 then c.isAlpha else Ranges.contains casedRanges c.toNat

/-- Case-ignorable: the Case_Ignorable property (apostrophes, dots, marks, modifiers). -/
def isCaseIgnorable (c : Char) : Bool :=
  if c.toNat < 128 then
    c = '\'' || c = '.' || c = ':' || c = '^' || c.toNat = 0x60
  else Ranges.contains caseIgnorableRanges c.toNat

/-! ## Agreement with core's ASCII classes -/

/-- Core's ASCII letters and digits lie below 128. -/
theorem toNat_lt_of_isAlphanum {c : Char} (h : c.isAlphanum = true) : c.toNat < 128 := by
  have h : (decide (c.val ≥ 'A'.val ∧ c.val ≤ 'Z'.val) ||
      (decide (c.val ≥ 'a'.val) && decide (c.val ≤ 'z'.val)) ||
      (decide (c.val ≥ '0'.val) && decide (c.val ≤ '9'.val))) = true := h
  simp only [Bool.or_eq_true, Bool.and_eq_true, decide_eq_true_eq, UInt32.le_iff_toNat_le] at h
  have e : c.toNat = c.val.toNat := rfl
  simp at h
  omega

theorem isAlphanumeric_of_isAlphanum {c : Char} (h : c.isAlphanum = true) :
    isAlphanumeric c = true := by
  simp [isAlphanumeric, toNat_lt_of_isAlphanum h, h]

theorem isBlank_of_isWhitespace {c : Char} (h : c.isWhitespace = true) : isBlank c = true := by
  simp only [Char.isWhitespace, Bool.or_eq_true, decide_eq_true_eq] at h
  rcases h with ((h | h) | h) | h <;> subst h <;> decide

end TypedUrls.Text
