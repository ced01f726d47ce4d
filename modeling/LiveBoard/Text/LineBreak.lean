import LiveBoard.Text.Ranges

/-! Where a line of text may be broken, by the line breaking classes of its characters. -/

namespace LiveBoard.Text

/-- What a character means to line breaking. -/
inductive BreakClass where
  | alphabetic
  | breakBoth
  | breakAfter
  | breakBefore
  | mandatoryBreak
  | contingentBreak
  | closePunctuation
  | combiningMark
  | closeParenthesis
  | carriageReturn
  | emojiBase
  | emojiModifier
  /-- A code point set aside for a picture. -/
  | reservedPicture
  | exclamation
  | glue
  /-- A Hangul syllable without a trailing consonant. -/
  | hangulPair
  /-- A Hangul syllable with a trailing consonant. -/
  | hangulTriple
  | hebrewLetter
  | hyphen
  | ideographic
  | inseparable
  | infixNumeric
  | jamoLead
  | jamoTrail
  | jamoVowel
  | lineFeed
  | nextLine
  | nonstarter
  | numeric
  /-- Opening punctuation that fills two columns. -/
  | wideOpening
  | openPunctuation
  | postfixNumeric
  | prefixNumeric
  | quotation
  | regionalIndicator
  | space
  | breakSymbol
  | wordJoiner
  | zeroWidthSpace
  | zeroWidthJoiner
  deriving DecidableEq

namespace BreakClass

/-- The class of a short name. -/
def ofCode : List Char → BreakClass
  | ['B', '2'] => .breakBoth
  | ['B', 'A'] => .breakAfter
  | ['B', 'B'] => .breakBefore
  | ['B', 'K'] => .mandatoryBreak
  | ['C', 'B'] => .contingentBreak
  | ['C', 'L'] => .closePunctuation
  | ['C', 'M'] => .combiningMark
  | ['C', 'P'] => .closeParenthesis
  | ['C', 'R'] => .carriageReturn
  | ['E', 'B'] => .emojiBase
  | ['E', 'M'] => .emojiModifier
  | ['E', 'P'] => .reservedPicture
  | ['E', 'X'] => .exclamation
  | ['G', 'L'] => .glue
  | ['H', 'L'] => .hebrewLetter
  | ['H', 'Y'] => .hyphen
  | ['I', 'D'] => .ideographic
  | ['I', 'N'] => .inseparable
  | ['I', 'S'] => .infixNumeric
  | ['J', 'L'] => .jamoLead
  | ['J', 'T'] => .jamoTrail
  | ['J', 'V'] => .jamoVowel
  | ['L', 'F'] => .lineFeed
  | ['N', 'L'] => .nextLine
  | ['N', 'S'] => .nonstarter
  | ['N', 'U'] => .numeric
  | ['O', 'E'] => .wideOpening
  | ['O', 'P'] => .openPunctuation
  | ['P', 'O'] => .postfixNumeric
  | ['P', 'R'] => .prefixNumeric
  | ['Q', 'U'] => .quotation
  | ['R', 'I'] => .regionalIndicator
  | ['S', 'P'] => .space
  | ['S', 'Y'] => .breakSymbol
  | ['W', 'J'] => .wordJoiner
  | ['Z', 'W'] => .zeroWidthSpace
  | ['Z', 'W', 'J'] => .zeroWidthJoiner
  | _ => .alphabetic

/-- The classes of all code points that are not alphabetic. -/
def ranges : Ranges BreakClass := Ranges.ofEntries ofCode [
    "0-8:CM 9:BA A:LF B-C:BK D:CR E-1F:CM 20:SP 21:EX 22:QU 24:PR 25:PO 27:QU 28:OP 29:CP 2B:PR ",
    "2C:IS 2D:HY 2E:IS 2F:SY 30-39:NU 3A-3B:IS 3F:EX 5B:OP 5C:PR 5D:CP 7B:OP 7C:BA 7D:CL ",
    "7F-84:CM 85:NL 86-9F:CM A0:GL A1:OP A2:PO A3-A5:PR AB:QU AD:BA B0:PO B1:PR B4:BB BB:QU ",
    "BF:OP 2C8:BB 2CC:BB 2DF:BB 300-34E:CM 34F:GL 350-35B:CM 35C-362:GL 363-36F:CM 37E:IS ",
    "483-489:CM 589:IS 58A:BA 58F:PR 591-5BD:CM 5BE:BA 5BF:CM 5C1-5C2:CM 5C4-5C5:CM 5C6:EX ",
    "5C7:CM 5D0-5EA:HL 5EF-5F2:HL 609-60B:PO 60C-60D:IS 610-61A:CM 61B:EX 61C:CM 61D-61F:EX ",
    "64B-65F:CM 660-669:NU 66A:PO 66B-66C:NU 670:CM 6D4:EX 6D6-6DC:CM 6DF-6E4:CM 6E7-6E8:CM ",
    "6EA-6ED:CM 6F0-6F9:NU 711:CM 730-74A:CM 7A6-7B0:CM 7C0-7C9:NU 7EB-7F3:CM 7F8:IS 7F9:EX ",
    "7FD:CM 7FE-7FF:PR 816-819:CM 81B-823:CM 825-827:CM 829-82D:CM 859-85B:CM 898-89F:CM ",
    "8CA-8E1:CM 8E3-903:CM 93A-93C:CM 93E-94F:CM 951-957:CM 962-963:CM 964-965:BA 966-96F:NU ",
    "981-983:CM 9BC:CM 9BE-9C4:CM 9C7-9C8:CM 9CB-9CD:CM 9D7:CM 9E2-9E3:CM 9E6-9EF:NU 9F2-9F3:PO ",
    "9F9:PO 9FB:PR 9FE:CM A01-A03:CM A3C:CM A3E-A42:CM A47-A48:CM A4B-A4D:CM A51:CM A66-A6F:NU ",
    "A70-A71:CM A75:CM A81-A83:CM ABC:CM ABE-AC5:CM AC7-AC9:CM ACB-ACD:CM AE2-AE3:CM AE6-AEF:NU ",
    "AF1:PR AFA-AFF:CM B01-B03:CM B3C:CM B3E-B44:CM B47-B48:CM B4B-B4D:CM B55-B57:CM B62-B63:CM ",
    "B66-B6F:NU B82:CM BBE-BC2:CM BC6-BC8:CM BCA-BCD:CM BD7:CM BE6-BEF:NU BF9:PR C00-C04:CM ",
    "C3C:CM C3E-C44:CM C46-C48:CM C4A-C4D:CM C55-C56:CM C62-C63:CM C66-C6F:NU C77:BB C81-C83:CM ",
    "C84:BB CBC:CM CBE-CC4:CM CC6-CC8:CM CCA-CCD:CM CD5-CD6:CM CE2-CE3:CM CE6-CEF:NU CF3:CM ",
    "D00-D03:CM D3B-D3C:CM D3E-D44:CM D46-D48:CM D4A-D4D:CM D57:CM D62-D63:CM D66-D6F:NU D79:PO ",
    "D81-D83:CM DCA:CM DCF-DD4:CM DD6:CM DD8-DDF:CM DE6-DEF:NU DF2-DF3:CM E31:CM E34-E3A:CM ",
    "E3F:PR E47-E4E:CM E50-E59:NU E5A-E5B:BA EB1:CM EB4-EBC:CM EC8-ECE:CM ED0-ED9:NU F01-F04:BB ",
    "F06-F07:BB F08:GL F09-F0A:BB F0B:BA F0C:GL F0D-F11:EX F12:GL F14:EX F18-F19:CM F20-F29:NU ",
    "F34:BA F35:CM F37:CM F39:CM F3A:OP F3B:CL F3C:OP F3D:CL F3E-F3F:CM F71-F7E:CM F7F:BA ",
    "F80-F84:CM F85:BA F86-F87:CM F8D-F97:CM F99-FBC:CM FBE-FBF:BA FC6:CM FD0-FD1:BB FD2:BA ",
    "FD3:BB FD9-FDA:GL 102B-103E:CM 1040-1049:NU 104A-104B:BA 1056-1059:CM 105E-1060:CM ",
    "1062-1064:CM 1067-106D:CM 1071-1074:CM 1082-108D:CM 108F:CM 1090-1099:NU 109A-109D:CM ",
    "1100-115F:JL 1160-11A7:JV 11A8-11FF:JT 135D-135F:CM 1361:BA 1400:BA 1680:BA 169B:OP 169C:CL ",
    "16EB-16ED:BA 1712-1715:CM 1732-1734:CM 1735-1736:BA 1752-1753:CM 1772-1773:CM 17B4-17D3:CM ",
    "17D4-17D5:BA 17D6:NS 17D8:BA 17DA:BA 17DB:PR 17DD:CM 17E0-17E9:NU 1802-1803:EX 1804-1805:BA ",
    "1806:BB 1808-1809:EX 180B-180D:CM 180E:GL 180F:CM 1810-1819:NU 1885-1886:CM 18A9:CM ",
    "1920-192B:CM 1930-193B:CM 1944-1945:EX 1946-194F:NU 19D0-19D9:NU 1A17-1A1B:CM 1A55-1A5E:CM ",
    "1A60-1A7C:CM 1A7F:CM 1A80-1A89:NU 1A90-1A99:NU 1AB0-1ACE:CM 1B00-1B04:CM 1B34-1B44:CM ",
    "1B50-1B59:NU 1B5A-1B5B:BA 1B5D-1B60:BA 1B6B-1B73:CM 1B7D-1B7E:BA 1B80-1B82:CM 1BA1-1BAD:CM ",
    "1BB0-1BB9:NU 1BE6-1BF3:CM 1C24-1C37:CM 1C3B-1C3F:BA 1C40-1C49:NU 1C50-1C59:NU 1C7E-1C7F:BA ",
    "1CD0-1CD2:CM 1CD4-1CE8:CM 1CED:CM 1CF4:CM 1CF7-1CF9:CM 1DC0-1DCC:CM 1DCD:GL 1DCE-1DFB:CM ",
    "1DFC:GL 1DFD-1DFF:CM 1FFD:BB 2000-2006:BA 2007:GL 2008-200A:BA 200B:ZW 200C:CM 200D:ZWJ ",
    "200E-200F:CM 2010:BA 2011:GL 2012-2013:BA 2014:B2 2018-2019:QU 201A:OP 201B-201D:QU 201E:OP ",
    "201F:QU 2024-2026:IN 2027:BA 2028-2029:BK 202A-202E:CM 202F:GL 2030-2037:PO 2039-203A:QU ",
    "203C-203D:NS 2044:IS 2045:OP 2046:CL 2047-2049:NS 2056:BA 2057:PO 2058-205B:BA 205D-205F:BA ",
    "2060:WJ 2066-206F:CM 207D:OP 207E:CL 208D:OP 208E:CL 20A0-20A6:PR 20A7:PO 20A8-20B5:PR ",
    "20B6:PO 20B7-20BA:PR 20BB:PO 20BC-20BD:PR 20BE:PO 20BF:PR 20C0:PO 20C1-20CF:PR 20D0-20F0:CM ",
    "2103:PO 2109:PO 2116:PR 2212-2213:PR 22EF:IN 2308:OP 2309:CL 230A:OP 230B:CL 231A-231B:ID ",
    "2329:OE 232A:CL 23F0-23F3:ID 2600-2603:ID 2614-2615:ID 2618:ID 261A-261C:ID 261D:EB ",
    "261E-261F:ID 2639-263B:ID 2668:ID 267F:ID 26BD-26C8:ID 26CD:ID 26CF-26D1:ID 26D3-26D4:ID ",
    "26D8-26D9:ID 26DC:ID 26DF-26E1:ID 26EA:ID 26F1-26F5:ID 26F7-26F8:ID 26F9:EB 26FA:ID ",
    "26FD-2704:ID 2708-2709:ID 270A-270D:EB 275B-2760:QU 2762-2763:EX 2764:ID 2768:OP 2769:CL ",
    "276A:OP 276B:CL 276C:OP 276D:CL 276E:OP 276F:CL 2770:OP 2771:CL 2772:OP 2773:CL 2774:OP ",
    "2775:CL 27C5:OP 27C6:CL 27E6:OP 27E7:CL 27E8:OP 27E9:CL 27EA:OP 27EB:CL 27EC:OP 27ED:CL ",
    "27EE:OP 27EF:CL 2983:OP 2984:CL 2985:OP 2986:CL 2987:OP 2988:CL 2989:OP 298A:CL 298B:OP ",
    "298C:CL 298D:OP 298E:CL 298F:OP 2990:CL 2991:OP 2992:CL 2993:OP 2994:CL 2995:OP 2996:CL ",
    "2997:OP 2998:CL 29D8:OP 29D9:CL 29DA:OP 29DB:CL 29FC:OP 29FD:CL 2CEF-2CF1:CM 2CF9:EX ",
    "2CFA-2CFC:BA 2CFE:EX 2CFF:BA 2D70:BA 2D7F:CM 2DE0-2DFF:CM 2E00-2E0D:QU 2E0E-2E15:BA 2E17:BA ",
    "2E18:OP 2E19:BA 2E1C-2E1D:QU 2E20-2E21:QU 2E22:OP 2E23:CL 2E24:OP 2E25:CL 2E26:OP 2E27:CL ",
    "2E28:OP 2E29:CL 2E2A-2E2D:BA 2E2E:EX 2E30-2E31:BA 2E33-2E34:BA 2E3A-2E3B:B2 2E3C-2E3E:BA ",
    "2E40-2E41:BA 2E42:OP 2E43-2E4A:BA 2E4C:BA 2E4E-2E4F:BA 2E53-2E54:EX 2E55:OP 2E56:CL 2E57:OP ",
    "2E58:CL 2E59:OP 2E5A:CL 2E5B:OP 2E5C:CL 2E5D:BA 2E80-2E99:ID 2E9B-2EF3:ID 2F00-2FD5:ID ",
    "2FF0-2FFB:ID 3000:BA 3001-3002:CL 3003-3004:ID 3005:NS 3006-3007:ID 3008:OE 3009:CL 300A:OE ",
    "300B:CL 300C:OE 300D:CL 300E:OE 300F:CL 3010:OE 3011:CL 3012-3013:ID 3014:OE 3015:CL ",
    "3016:OE 3017:CL 3018:OE 3019:CL 301A:OE 301B:CL 301C:NS 301D:OE 301E-301F:CL 3020-3029:ID ",
    "302A-302F:CM 3030-3034:ID 3035:CM 3036-303A:ID 303B-303C:NS 303D-303F:ID 3041:NS 3042:ID ",
    "3043:NS 3044:ID 3045:NS 3046:ID 3047:NS 3048:ID 3049:NS 304A-3062:ID 3063:NS 3064-3082:ID ",
    "3083:NS 3084:ID 3085:NS 3086:ID 3087:NS 3088-308D:ID 308E:NS 308F-3094:ID 3095-3096:NS ",
    "3099-309A:CM 309B-309E:NS 309F:ID 30A0-30A1:NS 30A2:ID 30A3:NS 30A4:ID 30A5:NS 30A6:ID ",
    "30A7:NS 30A8:ID 30A9:NS 30AA-30C2:ID 30C3:NS 30C4-30E2:ID 30E3:NS 30E4:ID 30E5:NS 30E6:ID ",
    "30E7:NS 30E8-30ED:ID 30EE:NS 30EF-30F4:ID 30F5-30F6:NS 30F7-30FA:ID 30FB-30FE:NS 30FF:ID ",
    "3105-312F:ID 3131-318E:ID 3190-31E3:ID 31F0-31FF:NS 3200-321E:ID 3220-3247:ID 3250-4DBF:ID ",
    "4E00-A014:ID A015:NS A016-A48C:ID A490-A4C6:ID A4FE-A4FF:BA A60D:BA A60E:EX A60F:BA ",
    "A620-A629:NU A66F-A672:CM A674-A67D:CM A69E-A69F:CM A6F0-A6F1:CM A6F3-A6F7:BA A802:CM ",
    "A806:CM A80B:CM A823-A827:CM A82C:CM A838:PO A874-A875:BB A876-A877:EX A880-A881:CM ",
    "A8B4-A8C5:CM A8CE-A8CF:BA A8D0-A8D9:NU A8E0-A8F1:CM A8FC:BB A8FF:CM A900-A909:NU ",
    "A926-A92D:CM A92E-A92F:BA A947-A953:CM A960-A97C:JL A980-A983:CM A9B3-A9C0:CM A9C7-A9C9:BA ",
    "A9D0-A9D9:NU A9E5:CM A9F0-A9F9:NU AA29-AA36:CM AA43:CM AA4C-AA4D:CM AA50-AA59:NU ",
    "AA5D-AA5F:BA AA7B-AA7D:CM AAB0:CM AAB2-AAB4:CM AAB7-AAB8:CM AABE-AABF:CM AAC1:CM ",
    "AAEB-AAEF:CM AAF0-AAF1:BA AAF5-AAF6:CM ABE3-ABEA:CM ABEB:BA ABEC-ABED:CM ABF0-ABF9:NU ",
    "AC00-D7A3:H2 D7B0-D7C6:JV D7CB-D7FB:JT F900-FAFF:ID FB1D:HL FB1E:CM FB1F-FB28:HL ",
    "FB2A-FB36:HL FB38-FB3C:HL FB3E:HL FB40-FB41:HL FB43-FB44:HL FB46-FB4F:HL FD3E:CL FD3F:OP ",
    "FDFC:PO FE00-FE0F:CM FE10:IS FE11-FE12:CL FE13-FE14:IS FE15-FE16:EX FE17:OE FE18:CL FE19:IN ",
    "FE20-FE2F:CM FE30-FE34:ID FE35:OE FE36:CL FE37:OE FE38:CL FE39:OE FE3A:CL FE3B:OE FE3C:CL ",
    "FE3D:OE FE3E:CL FE3F:OE FE40:CL FE41:OE FE42:CL FE43:OE FE44:CL FE45-FE46:ID FE47:OE ",
    "FE48:CL FE49-FE4F:ID FE50:CL FE51:ID FE52:CL FE54-FE55:NS FE56-FE57:EX FE58:ID FE59:OE ",
    "FE5A:CL FE5B:OE FE5C:CL FE5D:OE FE5E:CL FE5F-FE66:ID FE68:ID FE69:PR FE6A:PO FE6B:ID ",
    "FEFF:WJ FF01:EX FF02-FF03:ID FF04:PR FF05:PO FF06-FF07:ID FF08:OE FF09:CL FF0A-FF0B:ID ",
    "FF0C:CL FF0D:ID FF0E:CL FF0F-FF19:ID FF1A-FF1B:NS FF1C-FF1E:ID FF1F:EX FF20-FF3A:ID FF3B:OE ",
    "FF3C:ID FF3D:CL FF3E-FF5A:ID FF5B:OE FF5C:ID FF5D:CL FF5E:ID FF5F:OE FF60-FF61:CL FF62:OE ",
    "FF63-FF64:CL FF65:NS FF66:ID FF67-FF70:NS FF71-FF9D:ID FF9E-FF9F:NS FFA0-FFBE:ID ",
    "FFC2-FFC7:ID FFCA-FFCF:ID FFD2-FFD7:ID FFDA-FFDC:ID FFE0:PO FFE1:PR FFE2-FFE4:ID ",
    "FFE5-FFE6:PR FFF9-FFFB:CM FFFC:CB 10100-10102:BA 101FD:CM 102E0:CM 10376-1037A:CM 1039F:BA ",
    "103D0:BA 104A0-104A9:NU 10857:BA 1091F:BA 10A01-10A03:CM 10A05-10A06:CM 10A0C-10A0F:CM ",
    "10A38-10A3A:CM 10A3F:CM 10A50-10A57:BA 10AE5-10AE6:CM 10AF0-10AF5:BA 10AF6:IN ",
    "10B39-10B3F:BA 10D24-10D27:CM 10D30-10D39:NU 10EAB-10EAC:CM 10EAD:BA 10EFD-10EFF:CM ",
    "10F46-10F50:CM 10F82-10F85:CM 11000-11002:CM 11038-11046:CM 11047-11048:BA 11066-1106F:NU ",
    "11070:CM 11073-11074:CM 1107F-11082:CM 110B0-110BA:CM 110BE-110C1:BA 110C2:CM ",
    "110F0-110F9:NU 11100-11102:CM 11127-11134:CM 11136-1113F:NU 11140-11143:BA 11145-11146:CM ",
    "11173:CM 11175:BB 11180-11182:CM 111B3-111C0:CM 111C5-111C6:BA 111C8:BA 111C9-111CC:CM ",
    "111CE-111CF:CM 111D0-111D9:NU 111DB:BB 111DD-111DF:BA 1122C-11237:CM 11238-11239:BA ",
    "1123B-1123C:BA 1123E:CM 11241:CM 112A9:BA 112DF-112EA:CM 112F0-112F9:NU 11300-11303:CM ",
    "1133B-1133C:CM 1133E-11344:CM 11347-11348:CM 1134B-1134D:CM 11357:CM 11362-11363:CM ",
    "11366-1136C:CM 11370-11374:CM 11435-11446:CM 1144B-1144E:BA 11450-11459:NU 1145A-1145B:BA ",
    "1145E:CM 114B0-114C3:CM 114D0-114D9:NU 115AF-115B5:CM 115B8-115C0:CM 115C1:BB ",
    "115C2-115C3:BA 115C4-115C5:EX 115C9-115D7:BA 115DC-115DD:CM 11630-11640:CM 11641-11642:BA ",
    "11650-11659:NU 11660-1166C:BB 116AB-116B7:CM 116C0-116C9:NU 1171D-1172B:CM 11730-11739:NU ",
    "1173C-1173E:BA 1182C-1183A:CM 118E0-118E9:NU 11930-11935:CM 11937-11938:CM 1193B-1193E:CM ",
    "11940:CM 11942-11943:CM 11944-11946:BA 11950-11959:NU 119D1-119D7:CM 119DA-119E0:CM ",
    "119E2:BB 119E4:CM 11A01-11A0A:CM 11A33-11A39:CM 11A3B-11A3E:CM 11A3F:BB 11A41-11A44:BA ",
    "11A45:BB 11A47:CM 11A51-11A5B:CM 11A8A-11A99:CM 11A9A-11A9C:BA 11A9E-11AA0:BB ",
    "11AA1-11AA2:BA 11B00-11B09:BB 11C2F-11C36:CM 11C38-11C3F:CM 11C41-11C45:BA 11C50-11C59:NU ",
    "11C70:BB 11C71:EX 11C92-11CA7:CM 11CA9-11CB6:CM 11D31-11D36:CM 11D3A:CM 11D3C-11D3D:CM ",
    "11D3F-11D45:CM 11D47:CM 11D50-11D59:NU 11D8A-11D8E:CM 11D90-11D91:CM 11D93-11D97:CM ",
    "11DA0-11DA9:NU 11EF3-11EF6:CM 11F00-11F01:CM 11F03:CM 11F34-11F3A:CM 11F3E-11F42:CM ",
    "11F43-11F44:BA 11F45-11F4F:ID 11F50-11F59:NU 11FDD-11FE0:PO 11FFF:BA 12470-12474:BA ",
    "13258-1325A:OP 1325B-1325D:CL 13282:CL 13286:OP 13287:CL 13288:OP 13289:CL 13379:OP ",
    "1337A-1337B:CL 13430-13436:GL 13437:OP 13438:CL 13439-1343B:GL 1343C:OP 1343D:CL 1343E:OP ",
    "1343F:CL 13440:CM 13447-13455:CM 145CE:OP 145CF:CL 16A60-16A69:NU 16A6E-16A6F:BA ",
    "16AC0-16AC9:NU 16AF0-16AF4:CM 16AF5:BA 16B30-16B36:CM 16B37-16B39:BA 16B44:BA ",
    "16B50-16B59:NU 16E97-16E98:BA 16F4F:CM 16F51-16F87:CM 16F8F-16F92:CM 16FE0-16FE3:NS ",
    "16FE4:GL 16FF0-16FF1:CM 17000-187F7:ID 18800-18AFF:ID 18D00-18D08:ID 1B000-1B122:ID ",
    "1B132:NS 1B150-1B152:NS 1B155:NS 1B164-1B167:NS 1B170-1B2FB:ID 1BC9D-1BC9E:CM 1BC9F:BA ",
    "1BCA0-1BCA3:CM 1CF00-1CF2D:CM 1CF30-1CF46:CM 1D165-1D169:CM 1D16D-1D182:CM 1D185-1D18B:CM ",
    "1D1AA-1D1AD:CM 1D242-1D244:CM 1D7CE-1D7FF:NU 1DA00-1DA36:CM 1DA3B-1DA6C:CM 1DA75:CM ",
    "1DA84:CM 1DA87-1DA8A:BA 1DA9B-1DA9F:CM 1DAA1-1DAAF:CM 1E000-1E006:CM 1E008-1E018:CM ",
    "1E01B-1E021:CM 1E023-1E024:CM 1E026-1E02A:CM 1E08F:CM 1E130-1E136:CM 1E140-1E149:NU ",
    "1E2AE:CM 1E2EC-1E2EF:CM 1E2F0-1E2F9:NU 1E2FF:PR 1E4EC-1E4EF:CM 1E4F0-1E4F9:NU ",
    "1E8D0-1E8D6:CM 1E944-1E94A:CM 1E950-1E959:NU 1E95E-1E95F:OP 1ECAC:PO 1ECB0:PO ",
    "1F000-1F02B:ID 1F02C-1F02F:EP 1F030-1F093:ID 1F094-1F09F:EP 1F0A0-1F0AE:ID 1F0AF-1F0B0:EP ",
    "1F0B1-1F0BF:ID 1F0C0:EP 1F0C1-1F0CF:ID 1F0D0:EP 1F0D1-1F0F5:ID 1F0F6-1F0FF:EP ",
    "1F10D-1F10F:ID 1F16D-1F16F:ID 1F1AD:ID 1F1AE-1F1E5:EP 1F1E6-1F1FF:RI 1F200-1F202:ID ",
    "1F203-1F20F:EP 1F210-1F23B:ID 1F23C-1F23F:EP 1F240-1F248:ID 1F249-1F24F:EP 1F250-1F251:ID ",
    "1F252-1F25F:EP 1F260-1F265:ID 1F266-1F2FF:EP 1F300-1F384:ID 1F385:EB 1F386-1F39B:ID ",
    "1F39E-1F3B4:ID 1F3B7-1F3BB:ID 1F3BD-1F3C1:ID 1F3C2-1F3C4:EB 1F3C5-1F3C6:ID 1F3C7:EB ",
    "1F3C8-1F3C9:ID 1F3CA-1F3CC:EB 1F3CD-1F3FA:ID 1F3FB-1F3FF:EM 1F400-1F441:ID 1F442-1F443:EB ",
    "1F444-1F445:ID 1F446-1F450:EB 1F451-1F465:ID 1F466-1F478:EB 1F479-1F47B:ID 1F47C:EB ",
    "1F47D-1F480:ID 1F481-1F483:EB 1F484:ID 1F485-1F487:EB 1F488-1F48E:ID 1F48F:EB 1F490:ID ",
    "1F491:EB 1F492-1F49F:ID 1F4A1:ID 1F4A3:ID 1F4A5-1F4A9:ID 1F4AA:EB 1F4AB-1F4AE:ID 1F4B0:ID ",
    "1F4B3-1F4FF:ID 1F507-1F516:ID 1F525-1F531:ID 1F54A-1F573:ID 1F574-1F575:EB 1F576-1F579:ID ",
    "1F57A:EB 1F57B-1F58F:ID 1F590:EB 1F591-1F594:ID 1F595-1F596:EB 1F597-1F5D3:ID ",
    "1F5DC-1F5F3:ID 1F5FA-1F644:ID 1F645-1F647:EB 1F648-1F64A:ID 1F64B-1F64F:EB 1F676-1F678:QU ",
    "1F679-1F67B:NS 1F680-1F6A2:ID 1F6A3:EB 1F6A4-1F6B3:ID 1F6B4-1F6B6:EB 1F6B7-1F6BF:ID ",
    "1F6C0:EB 1F6C1-1F6CB:ID 1F6CC:EB 1F6CD-1F6D7:ID 1F6D8-1F6DB:EP 1F6DC-1F6EC:ID ",
    "1F6ED-1F6EF:EP 1F6F0-1F6FC:ID 1F6FD-1F6FF:EP 1F774-1F77F:ID 1F7D5-1F7D9:ID 1F7DA-1F7DF:EP ",
    "1F7E0-1F7EB:ID 1F7EC-1F7EF:EP 1F7F0:ID 1F7F1-1F7FF:EP 1F80C-1F80F:EP 1F848-1F84F:EP ",
    "1F85A-1F85F:EP 1F888-1F88F:EP 1F8AE-1F8AF:EP 1F8B0-1F8BB:ID 1F8BC-1F8BF:EP 1F8C0-1F8C1:ID ",
    "1F8C2-1F8CF:EP 1F8D0-1F8D8:ID 1F8D9-1F8FF:EP 1F90C:EB 1F90D-1F90E:ID 1F90F:EB ",
    "1F910-1F917:ID 1F918-1F91F:EB 1F920-1F925:ID 1F926:EB 1F927-1F92F:ID 1F930-1F939:EB ",
    "1F93A-1F93B:ID 1F93C-1F93E:EB 1F93F-1F976:ID 1F977:EB 1F978-1F9B4:ID 1F9B5-1F9B6:EB ",
    "1F9B7:ID 1F9B8-1F9B9:EB 1F9BA:ID 1F9BB:EB 1F9BC-1F9CC:ID 1F9CD-1F9CF:EB 1F9D0:ID ",
    "1F9D1-1F9DD:EB 1F9DE-1F9FF:ID 1FA54-1FA57:ID 1FA58-1FA5F:EP 1FA60-1FA6D:ID 1FA6E-1FA6F:EP ",
    "1FA70-1FA7C:ID 1FA7D-1FA7F:EP 1FA80-1FA88:ID 1FA89-1FA8F:EP 1FA90-1FABD:ID 1FABE:EP ",
    "1FABF-1FAC2:ID 1FAC3-1FAC5:EB 1FAC6-1FACD:EP 1FACE-1FADB:ID 1FADC-1FADF:EP 1FAE0-1FAE8:ID ",
    "1FAE9-1FAEF:EP 1FAF0-1FAF8:EB 1FAF9-1FAFF:EP 1FBF0-1FBF9:NU 1FC00-1FFFD:EP 20000-2FFFD:ID ",
    "30000-3FFFD:ID E0001:CM E0020-E007F:CM E0100-E01EF:CM"]

/-- The class of a character. -/
def ofChar (c : Char) : BreakClass :=
  -- Most characters are letters and spaces, for which the table need not be searched.
  if c.isAlpha then .alphabetic
  else if c = ' ' then .space
  else
    match (ranges.get? c.toNat).getD .alphabetic with
    -- Syllables of the same first two letters stand together, the one without a third one first.
    | .hangulPair => if (c.toNat - 0xAC00) % 28 = 0 then .hangulPair else .hangulTriple
    | breakClass => breakClass

/-- Letters. -/
def isLetter : BreakClass → Bool
  | .alphabetic | .hebrewLetter => true
  | _ => false

/-- Ideographs and pictures. -/
def isIdeograph : BreakClass → Bool
  | .ideographic | .reservedPicture | .emojiBase | .emojiModifier => true
  | _ => false

/-- Parts of Hangul syllables, and whole ones. -/
def isHangul : BreakClass → Bool
  | .jamoLead | .jamoVowel | .jamoTrail | .hangulPair | .hangulTriple => true
  | _ => false

/-- Opening punctuation of any width. -/
def isOpening : BreakClass → Bool
  | .openPunctuation | .wideOpening => true
  | _ => false

/-- Closing punctuation. -/
def isClosing : BreakClass → Bool
  | .closePunctuation | .closeParenthesis => true
  | _ => false

/-- Characters that end a line wherever they stand. -/
def endsLine : BreakClass → Bool
  | .mandatoryBreak | .carriageReturn | .lineFeed | .nextLine => true
  | _ => false

/-- Marks that belong to the character before them. -/
def isMark : BreakClass → Bool
  | .combiningMark | .zeroWidthJoiner => true
  | _ => false

/-- Whether a number, a letter or a Hangul syllable keeps its neighbour on the same line. -/
def joinsWord (before after : BreakClass) : Bool :=
  -- Digits stay with letters, and signs with what they are put before or after.
  (before.isLetter && (after = .numeric || after = .prefixNumeric || after = .postfixNumeric)) ||
  (before = .numeric && after.isLetter) ||
  (before = .prefixNumeric && (after.isIdeograph || after.isLetter || after.isHangul)) ||
  (before = .postfixNumeric && after.isLetter) ||
  (after = .postfixNumeric && (before.isIdeograph || before.isHangul)) ||
  -- A number is not broken, nor parted from its brackets and its signs.
  ((before.isClosing || before = .numeric) &&
    (after = .postfixNumeric || after = .prefixNumeric)) ||
  ((before = .postfixNumeric || before = .prefixNumeric) && after.isOpening) ||
  (after = .numeric &&
    (before = .postfixNumeric || before = .prefixNumeric || before = .hyphen ||
      before = .infixNumeric || before = .numeric || before = .breakSymbol)) ||
  -- A Hangul syllable may be written as up to three characters.
  (before = .jamoLead && after.isHangul && after != .jamoTrail) ||
  ((before = .jamoVowel || before = .hangulPair) && (after = .jamoVowel || after = .jamoTrail)) ||
  ((before = .jamoTrail || before = .hangulTriple) && after = .jamoTrail) ||
  -- Words are kept whole, also around a full stop and with brackets inside them.
  ((before.isLetter || before = .infixNumeric) && after.isLetter) ||
  ((before.isLetter || before = .numeric) && after = .openPunctuation) ||
  (before = .closeParenthesis && (after.isLetter || after = .numeric)) ||
  -- The tone of a picture follows the picture.
  ((before = .emojiBase || before = .reservedPicture) && after = .emojiModifier)

/-- Whether punctuation keeps its neighbour on the same line. -/
def joinsPunctuation (before after : BreakClass) : Bool :=
  after = .quotation || before = .quotation ||
  -- Where an object may be broken off is its own affair.
  (before != .contingentBreak && after != .contingentBreak &&
    (after = .breakAfter || after = .hyphen || after = .nonstarter || before = .breakBefore ||
      (before = .breakSymbol && after = .hebrewLetter) || after = .inseparable))

end BreakClass

/-- What line breaking remembers of the characters read so far. -/
structure BreakState where
  /-- The class of the last character that is neither a space nor a mark. -/
  base : BreakClass
  /-- Whether spaces follow it. -/
  spaced : Bool
  /-- Whether it is a hyphen that follows a Hebrew letter. -/
  hebrewHyphen : Bool
  /-- Whether the last character asks to be joined to the next. -/
  joined : Bool
  /-- Whether it is the first half of a pair of regional indicators. -/
  oddRegion : Bool

namespace BreakState

/-- The class of a character where it stands: a mark that belongs to none is a letter. -/
def resolve (state : Option BreakState) (breakClass : BreakClass) : BreakClass :=
  if breakClass.isMark then
    match state with
    | none => .alphabetic
    | some state =>
      if state.spaced || state.base.endsLine || state.base = .zeroWidthSpace then .alphabetic
      else breakClass
  else breakClass

/-- Whether a line may be broken before a character of a resolved class. -/
def breaksBefore (state : BreakState) (after : BreakClass) : Bool :=
  let before := state.base
  let spaced := state.spaced
  if !spaced && before.endsLine then !(before = .carriageReturn && after = .lineFeed)
  else if after.endsLine || after = .space || after = .zeroWidthSpace then false
  else if before = .zeroWidthSpace then true
  else if state.joined || after.isMark then false
  else if after = .wordJoiner || (!spaced && before = .wordJoiner) then false
  else if !spaced && before = .glue then false
  else if after = .glue && !(spaced || before = .breakAfter || before = .hyphen) then false
  else if after.isClosing || after = .exclamation || after = .infixNumeric
      || after = .breakSymbol then false
  -- These look across spaces.
  else if before.isOpening then false
  else if before = .quotation && after.isOpening then false
  else if before.isClosing && after = .nonstarter then false
  else if before = .breakBoth && after = .breakBoth then false
  else if spaced then true
  else if state.hebrewHyphen then after = .contingentBreak
  else if before = .regionalIndicator && after = .regionalIndicator then !state.oddRegion
  else !(before.joinsPunctuation after || before.joinsWord after)

/-- The state after a character of a resolved class. -/
def next (state : Option BreakState) (raw after : BreakClass) : BreakState :=
  let joined := raw = .zeroWidthJoiner
  match state with
  | none =>
    { base := after, spaced := after = .space, hebrewHyphen := false, joined,
      oddRegion := after = .regionalIndicator }
  | some state =>
    if after.isMark then { state with joined }
    else if after = .space && !state.base.endsLine then { state with spaced := true, joined }
    else
      { base := after
        spaced := after = .space
        hebrewHyphen := !state.spaced && state.base = .hebrewLetter &&
          (after = .hyphen || after = .breakAfter)
        joined
        oddRegion := after = .regionalIndicator &&
          (state.spaced || state.base != .regionalIndicator || !state.oddRegion) }

end BreakState

/-- For every character whether a line may be broken before it, given the characters read. -/
def breaksAfter (state : Option BreakState) : List Char → List Bool
  | [] => []
  | c :: rest =>
    let raw := BreakClass.ofChar c
    let after := BreakState.resolve state raw
    let here := state.elim false (·.breaksBefore after)
    here :: breaksAfter (some (.next state raw after)) rest

/-- For every character of a text whether a line may be broken before it. -/
def lineBreaks (chars : List Char) : List Bool := breaksAfter none chars

end LiveBoard.Text
