/-!
# Printable characters
-/

namespace TinyLisp

namespace Text

/-- The ranges, inclusive at both ends, of the code points that do not print as themselves:
control and format characters, separators other than the plain space, surrogates, private use
and unassigned code points. -/
def nonPrintable : Array (Nat × Nat) := #[
  (0x00000, 0x0001F), (0x0007F, 0x000A0), (0x000AD, 0x000AD), (0x00378, 0x00379),
  (0x00380, 0x00383), (0x0038B, 0x0038B), (0x0038D, 0x0038D), (0x003A2, 0x003A2),
  (0x00530, 0x00530), (0x00557, 0x00558), (0x0058B, 0x0058C), (0x00590, 0x00590),
  (0x005C8, 0x005CF), (0x005EB, 0x005EE), (0x005F5, 0x00605), (0x0061C, 0x0061C),
  (0x006DD, 0x006DD), (0x0070E, 0x0070F), (0x0074B, 0x0074C), (0x007B2, 0x007BF),
  (0x007FB, 0x007FC), (0x0082E, 0x0082F), (0x0083F, 0x0083F), (0x0085C, 0x0085D),
  (0x0085F, 0x0085F), (0x0086B, 0x0086F), (0x0088F, 0x00897), (0x008E2, 0x008E2),
  (0x00984, 0x00984), (0x0098D, 0x0098E), (0x00991, 0x00992), (0x009A9, 0x009A9),
  (0x009B1, 0x009B1), (0x009B3, 0x009B5), (0x009BA, 0x009BB), (0x009C5, 0x009C6),
  (0x009C9, 0x009CA), (0x009CF, 0x009D6), (0x009D8, 0x009DB), (0x009DE, 0x009DE),
  (0x009E4, 0x009E5), (0x009FF, 0x00A00), (0x00A04, 0x00A04), (0x00A0B, 0x00A0E),
  (0x00A11, 0x00A12), (0x00A29, 0x00A29), (0x00A31, 0x00A31), (0x00A34, 0x00A34),
  (0x00A37, 0x00A37), (0x00A3A, 0x00A3B), (0x00A3D, 0x00A3D), (0x00A43, 0x00A46),
  (0x00A49, 0x00A4A), (0x00A4E, 0x00A50), (0x00A52, 0x00A58), (0x00A5D, 0x00A5D),
  (0x00A5F, 0x00A65), (0x00A77, 0x00A80), (0x00A84, 0x00A84), (0x00A8E, 0x00A8E),
  (0x00A92, 0x00A92), (0x00AA9, 0x00AA9), (0x00AB1, 0x00AB1), (0x00AB4, 0x00AB4),
  (0x00ABA, 0x00ABB), (0x00AC6, 0x00AC6), (0x00ACA, 0x00ACA), (0x00ACE, 0x00ACF),
  (0x00AD1, 0x00ADF), (0x00AE4, 0x00AE5), (0x00AF2, 0x00AF8), (0x00B00, 0x00B00),
  (0x00B04, 0x00B04), (0x00B0D, 0x00B0E), (0x00B11, 0x00B12), (0x00B29, 0x00B29),
  (0x00B31, 0x00B31), (0x00B34, 0x00B34), (0x00B3A, 0x00B3B), (0x00B45, 0x00B46),
  (0x00B49, 0x00B4A), (0x00B4E, 0x00B54), (0x00B58, 0x00B5B), (0x00B5E, 0x00B5E),
  (0x00B64, 0x00B65), (0x00B78, 0x00B81), (0x00B84, 0x00B84), (0x00B8B, 0x00B8D),
  (0x00B91, 0x00B91), (0x00B96, 0x00B98), (0x00B9B, 0x00B9B), (0x00B9D, 0x00B9D),
  (0x00BA0, 0x00BA2), (0x00BA5, 0x00BA7), (0x00BAB, 0x00BAD), (0x00BBA, 0x00BBD),
  (0x00BC3, 0x00BC5), (0x00BC9, 0x00BC9), (0x00BCE, 0x00BCF), (0x00BD1, 0x00BD6),
  (0x00BD8, 0x00BE5), (0x00BFB, 0x00BFF), (0x00C0D, 0x00C0D), (0x00C11, 0x00C11),
  (0x00C29, 0x00C29), (0x00C3A, 0x00C3B), (0x00C45, 0x00C45), (0x00C49, 0x00C49),
  (0x00C4E, 0x00C54), (0x00C57, 0x00C57), (0x00C5B, 0x00C5C), (0x00C5E, 0x00C5F),
  (0x00C64, 0x00C65), (0x00C70, 0x00C76), (0x00C8D, 0x00C8D), (0x00C91, 0x00C91),
  (0x00CA9, 0x00CA9), (0x00CB4, 0x00CB4), (0x00CBA, 0x00CBB), (0x00CC5, 0x00CC5),
  (0x00CC9, 0x00CC9), (0x00CCE, 0x00CD4), (0x00CD7, 0x00CDC), (0x00CDF, 0x00CDF),
  (0x00CE4, 0x00CE5), (0x00CF0, 0x00CF0), (0x00CF3, 0x00CFF), (0x00D0D, 0x00D0D),
  (0x00D11, 0x00D11), (0x00D45, 0x00D45), (0x00D49, 0x00D49), (0x00D50, 0x00D53),
  (0x00D64, 0x00D65), (0x00D80, 0x00D80), (0x00D84, 0x00D84), (0x00D97, 0x00D99),
  (0x00DB2, 0x00DB2), (0x00DBC, 0x00DBC), (0x00DBE, 0x00DBF), (0x00DC7, 0x00DC9),
  (0x00DCB, 0x00DCE), (0x00DD5, 0x00DD5), (0x00DD7, 0x00DD7), (0x00DE0, 0x00DE5),
  (0x00DF0, 0x00DF1), (0x00DF5, 0x00E00), (0x00E3B, 0x00E3E), (0x00E5C, 0x00E80),
  (0x00E83, 0x00E83), (0x00E85, 0x00E85), (0x00E8B, 0x00E8B), (0x00EA4, 0x00EA4),
  (0x00EA6, 0x00EA6), (0x00EBE, 0x00EBF), (0x00EC5, 0x00EC5), (0x00EC7, 0x00EC7),
  (0x00ECE, 0x00ECF), (0x00EDA, 0x00EDB), (0x00EE0, 0x00EFF), (0x00F48, 0x00F48),
  (0x00F6D, 0x00F70), (0x00F98, 0x00F98), (0x00FBD, 0x00FBD), (0x00FCD, 0x00FCD),
  (0x00FDB, 0x00FFF), (0x010C6, 0x010C6), (0x010C8, 0x010CC), (0x010CE, 0x010CF),
  (0x01249, 0x01249), (0x0124E, 0x0124F), (0x01257, 0x01257), (0x01259, 0x01259),
  (0x0125E, 0x0125F), (0x01289, 0x01289), (0x0128E, 0x0128F), (0x012B1, 0x012B1),
  (0x012B6, 0x012B7), (0x012BF, 0x012BF), (0x012C1, 0x012C1), (0x012C6, 0x012C7),
  (0x012D7, 0x012D7), (0x01311, 0x01311), (0x01316, 0x01317), (0x0135B, 0x0135C),
  (0x0137D, 0x0137F), (0x0139A, 0x0139F), (0x013F6, 0x013F7), (0x013FE, 0x013FF),
  (0x01680, 0x01680), (0x0169D, 0x0169F), (0x016F9, 0x016FF), (0x01716, 0x0171E),
  (0x01737, 0x0173F), (0x01754, 0x0175F), (0x0176D, 0x0176D), (0x01771, 0x01771),
  (0x01774, 0x0177F), (0x017DE, 0x017DF), (0x017EA, 0x017EF), (0x017FA, 0x017FF),
  (0x0180E, 0x0180E), (0x0181A, 0x0181F), (0x01879, 0x0187F), (0x018AB, 0x018AF),
  (0x018F6, 0x018FF), (0x0191F, 0x0191F), (0x0192C, 0x0192F), (0x0193C, 0x0193F),
  (0x01941, 0x01943), (0x0196E, 0x0196F), (0x01975, 0x0197F), (0x019AC, 0x019AF),
  (0x019CA, 0x019CF), (0x019DB, 0x019DD), (0x01A1C, 0x01A1D), (0x01A5F, 0x01A5F),
  (0x01A7D, 0x01A7E), (0x01A8A, 0x01A8F), (0x01A9A, 0x01A9F), (0x01AAE, 0x01AAF),
  (0x01ACF, 0x01AFF), (0x01B4D, 0x01B4F), (0x01B7F, 0x01B7F), (0x01BF4, 0x01BFB),
  (0x01C38, 0x01C3A), (0x01C4A, 0x01C4C), (0x01C89, 0x01C8F), (0x01CBB, 0x01CBC),
  (0x01CC8, 0x01CCF), (0x01CFB, 0x01CFF), (0x01F16, 0x01F17), (0x01F1E, 0x01F1F),
  (0x01F46, 0x01F47), (0x01F4E, 0x01F4F), (0x01F58, 0x01F58), (0x01F5A, 0x01F5A),
  (0x01F5C, 0x01F5C), (0x01F5E, 0x01F5E), (0x01F7E, 0x01F7F), (0x01FB5, 0x01FB5),
  (0x01FC5, 0x01FC5), (0x01FD4, 0x01FD5), (0x01FDC, 0x01FDC), (0x01FF0, 0x01FF1),
  (0x01FF5, 0x01FF5), (0x01FFF, 0x0200F), (0x02028, 0x0202F), (0x0205F, 0x0206F),
  (0x02072, 0x02073), (0x0208F, 0x0208F), (0x0209D, 0x0209F), (0x020C1, 0x020CF),
  (0x020F1, 0x020FF), (0x0218C, 0x0218F), (0x02427, 0x0243F), (0x0244B, 0x0245F),
  (0x02B74, 0x02B75), (0x02B96, 0x02B96), (0x02CF4, 0x02CF8), (0x02D26, 0x02D26),
  (0x02D28, 0x02D2C), (0x02D2E, 0x02D2F), (0x02D68, 0x02D6E), (0x02D71, 0x02D7E),
  (0x02D97, 0x02D9F), (0x02DA7, 0x02DA7), (0x02DAF, 0x02DAF), (0x02DB7, 0x02DB7),
  (0x02DBF, 0x02DBF), (0x02DC7, 0x02DC7), (0x02DCF, 0x02DCF), (0x02DD7, 0x02DD7),
  (0x02DDF, 0x02DDF), (0x02E5E, 0x02E7F), (0x02E9A, 0x02E9A), (0x02EF4, 0x02EFF),
  (0x02FD6, 0x02FEF), (0x02FFC, 0x03000), (0x03040, 0x03040), (0x03097, 0x03098),
  (0x03100, 0x03104), (0x03130, 0x03130), (0x0318F, 0x0318F), (0x031E4, 0x031EF),
  (0x0321F, 0x0321F), (0x0A48D, 0x0A48F), (0x0A4C7, 0x0A4CF), (0x0A62C, 0x0A63F),
  (0x0A6F8, 0x0A6FF), (0x0A7CB, 0x0A7CF), (0x0A7D2, 0x0A7D2), (0x0A7D4, 0x0A7D4),
  (0x0A7DA, 0x0A7F1), (0x0A82D, 0x0A82F), (0x0A83A, 0x0A83F), (0x0A878, 0x0A87F),
  (0x0A8C6, 0x0A8CD), (0x0A8DA, 0x0A8DF), (0x0A954, 0x0A95E), (0x0A97D, 0x0A97F),
  (0x0A9CE, 0x0A9CE), (0x0A9DA, 0x0A9DD), (0x0A9FF, 0x0A9FF), (0x0AA37, 0x0AA3F),
  (0x0AA4E, 0x0AA4F), (0x0AA5A, 0x0AA5B), (0x0AAC3, 0x0AADA), (0x0AAF7, 0x0AB00),
  (0x0AB07, 0x0AB08), (0x0AB0F, 0x0AB10), (0x0AB17, 0x0AB1F), (0x0AB27, 0x0AB27),
  (0x0AB2F, 0x0AB2F), (0x0AB6C, 0x0AB6F), (0x0ABEE, 0x0ABEF), (0x0ABFA, 0x0ABFF),
  (0x0D7A4, 0x0D7AF), (0x0D7C7, 0x0D7CA), (0x0D7FC, 0x0F8FF), (0x0FA6E, 0x0FA6F),
  (0x0FADA, 0x0FAFF), (0x0FB07, 0x0FB12), (0x0FB18, 0x0FB1C), (0x0FB37, 0x0FB37),
  (0x0FB3D, 0x0FB3D), (0x0FB3F, 0x0FB3F), (0x0FB42, 0x0FB42), (0x0FB45, 0x0FB45),
  (0x0FBC3, 0x0FBD2), (0x0FD90, 0x0FD91), (0x0FDC8, 0x0FDCE), (0x0FDD0, 0x0FDEF),
  (0x0FE1A, 0x0FE1F), (0x0FE53, 0x0FE53), (0x0FE67, 0x0FE67), (0x0FE6C, 0x0FE6F),
  (0x0FE75, 0x0FE75), (0x0FEFD, 0x0FF00), (0x0FFBF, 0x0FFC1), (0x0FFC8, 0x0FFC9),
  (0x0FFD0, 0x0FFD1), (0x0FFD8, 0x0FFD9), (0x0FFDD, 0x0FFDF), (0x0FFE7, 0x0FFE7),
  (0x0FFEF, 0x0FFFB), (0x0FFFE, 0x0FFFF), (0x1000C, 0x1000C), (0x10027, 0x10027),
  (0x1003B, 0x1003B), (0x1003E, 0x1003E), (0x1004E, 0x1004F), (0x1005E, 0x1007F),
  (0x100FB, 0x100FF), (0x10103, 0x10106), (0x10134, 0x10136), (0x1018F, 0x1018F),
  (0x1019D, 0x1019F), (0x101A1, 0x101CF), (0x101FE, 0x1027F), (0x1029D, 0x1029F),
  (0x102D1, 0x102DF), (0x102FC, 0x102FF), (0x10324, 0x1032C), (0x1034B, 0x1034F),
  (0x1037B, 0x1037F), (0x1039E, 0x1039E), (0x103C4, 0x103C7), (0x103D6, 0x103FF),
  (0x1049E, 0x1049F), (0x104AA, 0x104AF), (0x104D4, 0x104D7), (0x104FC, 0x104FF),
  (0x10528, 0x1052F), (0x10564, 0x1056E), (0x1057B, 0x1057B), (0x1058B, 0x1058B),
  (0x10593, 0x10593), (0x10596, 0x10596), (0x105A2, 0x105A2), (0x105B2, 0x105B2),
  (0x105BA, 0x105BA), (0x105BD, 0x105FF), (0x10737, 0x1073F), (0x10756, 0x1075F),
  (0x10768, 0x1077F), (0x10786, 0x10786), (0x107B1, 0x107B1), (0x107BB, 0x107FF),
  (0x10806, 0x10807), (0x10809, 0x10809), (0x10836, 0x10836), (0x10839, 0x1083B),
  (0x1083D, 0x1083E), (0x10856, 0x10856), (0x1089F, 0x108A6), (0x108B0, 0x108DF),
  (0x108F3, 0x108F3), (0x108F6, 0x108FA), (0x1091C, 0x1091E), (0x1093A, 0x1093E),
  (0x10940, 0x1097F), (0x109B8, 0x109BB), (0x109D0, 0x109D1), (0x10A04, 0x10A04),
  (0x10A07, 0x10A0B), (0x10A14, 0x10A14), (0x10A18, 0x10A18), (0x10A36, 0x10A37),
  (0x10A3B, 0x10A3E), (0x10A49, 0x10A4F), (0x10A59, 0x10A5F), (0x10AA0, 0x10ABF),
  (0x10AE7, 0x10AEA), (0x10AF7, 0x10AFF), (0x10B36, 0x10B38), (0x10B56, 0x10B57),
  (0x10B73, 0x10B77), (0x10B92, 0x10B98), (0x10B9D, 0x10BA8), (0x10BB0, 0x10BFF),
  (0x10C49, 0x10C7F), (0x10CB3, 0x10CBF), (0x10CF3, 0x10CF9), (0x10D28, 0x10D2F),
  (0x10D3A, 0x10E5F), (0x10E7F, 0x10E7F), (0x10EAA, 0x10EAA), (0x10EAE, 0x10EAF),
  (0x10EB2, 0x10EFF), (0x10F28, 0x10F2F), (0x10F5A, 0x10F6F), (0x10F8A, 0x10FAF),
  (0x10FCC, 0x10FDF), (0x10FF7, 0x10FFF), (0x1104E, 0x11051), (0x11076, 0x1107E),
  (0x110BD, 0x110BD), (0x110C3, 0x110CF), (0x110E9, 0x110EF), (0x110FA, 0x110FF),
  (0x11135, 0x11135), (0x11148, 0x1114F), (0x11177, 0x1117F), (0x111E0, 0x111E0),
  (0x111F5, 0x111FF), (0x11212, 0x11212), (0x1123F, 0x1127F), (0x11287, 0x11287),
  (0x11289, 0x11289), (0x1128E, 0x1128E), (0x1129E, 0x1129E), (0x112AA, 0x112AF),
  (0x112EB, 0x112EF), (0x112FA, 0x112FF), (0x11304, 0x11304), (0x1130D, 0x1130E),
  (0x11311, 0x11312), (0x11329, 0x11329), (0x11331, 0x11331), (0x11334, 0x11334),
  (0x1133A, 0x1133A), (0x11345, 0x11346), (0x11349, 0x1134A), (0x1134E, 0x1134F),
  (0x11351, 0x11356), (0x11358, 0x1135C), (0x11364, 0x11365), (0x1136D, 0x1136F),
  (0x11375, 0x113FF), (0x1145C, 0x1145C), (0x11462, 0x1147F), (0x114C8, 0x114CF),
  (0x114DA, 0x1157F), (0x115B6, 0x115B7), (0x115DE, 0x115FF), (0x11645, 0x1164F),
  (0x1165A, 0x1165F), (0x1166D, 0x1167F), (0x116BA, 0x116BF), (0x116CA, 0x116FF),
  (0x1171B, 0x1171C), (0x1172C, 0x1172F), (0x11747, 0x117FF), (0x1183C, 0x1189F),
  (0x118F3, 0x118FE), (0x11907, 0x11908), (0x1190A, 0x1190B), (0x11914, 0x11914),
  (0x11917, 0x11917), (0x11936, 0x11936), (0x11939, 0x1193A), (0x11947, 0x1194F),
  (0x1195A, 0x1199F), (0x119A8, 0x119A9), (0x119D8, 0x119D9), (0x119E5, 0x119FF),
  (0x11A48, 0x11A4F), (0x11AA3, 0x11AAF), (0x11AF9, 0x11BFF), (0x11C09, 0x11C09),
  (0x11C37, 0x11C37), (0x11C46, 0x11C4F), (0x11C6D, 0x11C6F), (0x11C90, 0x11C91),
  (0x11CA8, 0x11CA8), (0x11CB7, 0x11CFF), (0x11D07, 0x11D07), (0x11D0A, 0x11D0A),
  (0x11D37, 0x11D39), (0x11D3B, 0x11D3B), (0x11D3E, 0x11D3E), (0x11D48, 0x11D4F),
  (0x11D5A, 0x11D5F), (0x11D66, 0x11D66), (0x11D69, 0x11D69), (0x11D8F, 0x11D8F),
  (0x11D92, 0x11D92), (0x11D99, 0x11D9F), (0x11DAA, 0x11EDF), (0x11EF9, 0x11FAF),
  (0x11FB1, 0x11FBF), (0x11FF2, 0x11FFE), (0x1239A, 0x123FF), (0x1246F, 0x1246F),
  (0x12475, 0x1247F), (0x12544, 0x12F8F), (0x12FF3, 0x12FFF), (0x1342F, 0x143FF),
  (0x14647, 0x167FF), (0x16A39, 0x16A3F), (0x16A5F, 0x16A5F), (0x16A6A, 0x16A6D),
  (0x16ABF, 0x16ABF), (0x16ACA, 0x16ACF), (0x16AEE, 0x16AEF), (0x16AF6, 0x16AFF),
  (0x16B46, 0x16B4F), (0x16B5A, 0x16B5A), (0x16B62, 0x16B62), (0x16B78, 0x16B7C),
  (0x16B90, 0x16E3F), (0x16E9B, 0x16EFF), (0x16F4B, 0x16F4E), (0x16F88, 0x16F8E),
  (0x16FA0, 0x16FDF), (0x16FE5, 0x16FEF), (0x16FF2, 0x16FFF), (0x187F8, 0x187FF),
  (0x18CD6, 0x18CFF), (0x18D09, 0x1AFEF), (0x1AFF4, 0x1AFF4), (0x1AFFC, 0x1AFFC),
  (0x1AFFF, 0x1AFFF), (0x1B123, 0x1B14F), (0x1B153, 0x1B163), (0x1B168, 0x1B16F),
  (0x1B2FC, 0x1BBFF), (0x1BC6B, 0x1BC6F), (0x1BC7D, 0x1BC7F), (0x1BC89, 0x1BC8F),
  (0x1BC9A, 0x1BC9B), (0x1BCA0, 0x1CEFF), (0x1CF2E, 0x1CF2F), (0x1CF47, 0x1CF4F),
  (0x1CFC4, 0x1CFFF), (0x1D0F6, 0x1D0FF), (0x1D127, 0x1D128), (0x1D173, 0x1D17A),
  (0x1D1EB, 0x1D1FF), (0x1D246, 0x1D2DF), (0x1D2F4, 0x1D2FF), (0x1D357, 0x1D35F),
  (0x1D379, 0x1D3FF), (0x1D455, 0x1D455), (0x1D49D, 0x1D49D), (0x1D4A0, 0x1D4A1),
  (0x1D4A3, 0x1D4A4), (0x1D4A7, 0x1D4A8), (0x1D4AD, 0x1D4AD), (0x1D4BA, 0x1D4BA),
  (0x1D4BC, 0x1D4BC), (0x1D4C4, 0x1D4C4), (0x1D506, 0x1D506), (0x1D50B, 0x1D50C),
  (0x1D515, 0x1D515), (0x1D51D, 0x1D51D), (0x1D53A, 0x1D53A), (0x1D53F, 0x1D53F),
  (0x1D545, 0x1D545), (0x1D547, 0x1D549), (0x1D551, 0x1D551), (0x1D6A6, 0x1D6A7),
  (0x1D7CC, 0x1D7CD), (0x1DA8C, 0x1DA9A), (0x1DAA0, 0x1DAA0), (0x1DAB0, 0x1DEFF),
  (0x1DF1F, 0x1DFFF), (0x1E007, 0x1E007), (0x1E019, 0x1E01A), (0x1E022, 0x1E022),
  (0x1E025, 0x1E025), (0x1E02B, 0x1E0FF), (0x1E12D, 0x1E12F), (0x1E13E, 0x1E13F),
  (0x1E14A, 0x1E14D), (0x1E150, 0x1E28F), (0x1E2AF, 0x1E2BF), (0x1E2FA, 0x1E2FE),
  (0x1E300, 0x1E7DF), (0x1E7E7, 0x1E7E7), (0x1E7EC, 0x1E7EC), (0x1E7EF, 0x1E7EF),
  (0x1E7FF, 0x1E7FF), (0x1E8C5, 0x1E8C6), (0x1E8D7, 0x1E8FF), (0x1E94C, 0x1E94F),
  (0x1E95A, 0x1E95D), (0x1E960, 0x1EC70), (0x1ECB5, 0x1ED00), (0x1ED3E, 0x1EDFF),
  (0x1EE04, 0x1EE04), (0x1EE20, 0x1EE20), (0x1EE23, 0x1EE23), (0x1EE25, 0x1EE26),
  (0x1EE28, 0x1EE28), (0x1EE33, 0x1EE33), (0x1EE38, 0x1EE38), (0x1EE3A, 0x1EE3A),
  (0x1EE3C, 0x1EE41), (0x1EE43, 0x1EE46), (0x1EE48, 0x1EE48), (0x1EE4A, 0x1EE4A),
  (0x1EE4C, 0x1EE4C), (0x1EE50, 0x1EE50), (0x1EE53, 0x1EE53), (0x1EE55, 0x1EE56),
  (0x1EE58, 0x1EE58), (0x1EE5A, 0x1EE5A), (0x1EE5C, 0x1EE5C), (0x1EE5E, 0x1EE5E),
  (0x1EE60, 0x1EE60), (0x1EE63, 0x1EE63), (0x1EE65, 0x1EE66), (0x1EE6B, 0x1EE6B),
  (0x1EE73, 0x1EE73), (0x1EE78, 0x1EE78), (0x1EE7D, 0x1EE7D), (0x1EE7F, 0x1EE7F),
  (0x1EE8A, 0x1EE8A), (0x1EE9C, 0x1EEA0), (0x1EEA4, 0x1EEA4), (0x1EEAA, 0x1EEAA),
  (0x1EEBC, 0x1EEEF), (0x1EEF2, 0x1EFFF), (0x1F02C, 0x1F02F), (0x1F094, 0x1F09F),
  (0x1F0AF, 0x1F0B0), (0x1F0C0, 0x1F0C0), (0x1F0D0, 0x1F0D0), (0x1F0F6, 0x1F0FF),
  (0x1F1AE, 0x1F1E5), (0x1F203, 0x1F20F), (0x1F23C, 0x1F23F), (0x1F249, 0x1F24F),
  (0x1F252, 0x1F25F), (0x1F266, 0x1F2FF), (0x1F6D8, 0x1F6DC), (0x1F6ED, 0x1F6EF),
  (0x1F6FD, 0x1F6FF), (0x1F774, 0x1F77F), (0x1F7D9, 0x1F7DF), (0x1F7EC, 0x1F7EF),
  (0x1F7F1, 0x1F7FF), (0x1F80C, 0x1F80F), (0x1F848, 0x1F84F), (0x1F85A, 0x1F85F),
  (0x1F888, 0x1F88F), (0x1F8AE, 0x1F8AF), (0x1F8B2, 0x1F8FF), (0x1FA54, 0x1FA5F),
  (0x1FA6E, 0x1FA6F), (0x1FA75, 0x1FA77), (0x1FA7D, 0x1FA7F), (0x1FA87, 0x1FA8F),
  (0x1FAAD, 0x1FAAF), (0x1FABB, 0x1FABF), (0x1FAC6, 0x1FACF), (0x1FADA, 0x1FADF),
  (0x1FAE8, 0x1FAEF), (0x1FAF7, 0x1FAFF), (0x1FB93, 0x1FB93), (0x1FBCB, 0x1FBEF),
  (0x1FBFA, 0x1FFFF), (0x2A6E0, 0x2A6FF), (0x2B739, 0x2B73F), (0x2B81E, 0x2B81F),
  (0x2CEA2, 0x2CEAF), (0x2EBE1, 0x2F7FF), (0x2FA1E, 0x2FFFF), (0x3134B, 0xE00FF),
  (0xE01F0, 0x10FFFF)]

/-- Whether a character prints as itself inside a quoted name. -/
def isPrintable (c : Char) : Bool :=
  !nonPrintable.any fun r => r.1 ≤ c.toNat && c.toNat ≤ r.2

end Text

end TinyLisp
