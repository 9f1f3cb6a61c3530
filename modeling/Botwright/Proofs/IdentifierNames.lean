import Botwright.Proofs.BindingAllocation
import Botwright.Proofs.SpecAdmission

/-! The identifiers of ECMAScript beside those of the generator. ECMAScript goes by
the Unicode properties ID_Start and ID_Continue, which the standard derives from
general categories and a few single characters; the generator goes by Alphabetic and
by the numbers. The two agree but for some symbols and numbers, which the generator
takes for parts of identifiers, and for marks at the start. -/
namespace Botwright.IdentifierNames
open Script Text

/-! ## Tables of the standard -/

/-- The characters of the category Nl. -/
def letterNumberRanges : Ranges :=
  [(0x16EE, 0x16F0), (0x2160, 0x2182), (0x2185, 0x2188), (0x3007, 0x3007), (0x3021, 0x3029),
   (0x3038, 0x303A), (0xA6E6, 0xA6EF), (0x10140, 0x10174), (0x10341, 0x10341), (0x1034A, 0x1034A),
   (0x103D1, 0x103D5), (0x12400, 0x1246E), (0x16FF4, 0x16FF6)]

/-- The characters of the category Nd. -/
def decimalRanges : Ranges :=
  [(0x30, 0x39), (0x660, 0x669), (0x6F0, 0x6F9), (0x7C0, 0x7C9), (0x966, 0x96F), (0x9E6, 0x9EF),
   (0xA66, 0xA6F), (0xAE6, 0xAEF), (0xB66, 0xB6F), (0xBE6, 0xBEF), (0xC66, 0xC6F), (0xCE6, 0xCEF),
   (0xD66, 0xD6F), (0xDE6, 0xDEF), (0xE50, 0xE59), (0xED0, 0xED9), (0xF20, 0xF29),
   (0x1040, 0x1049), (0x1090, 0x1099), (0x17E0, 0x17E9), (0x1810, 0x1819), (0x1946, 0x194F),
   (0x19D0, 0x19D9), (0x1A80, 0x1A89), (0x1A90, 0x1A99), (0x1B50, 0x1B59), (0x1BB0, 0x1BB9),
   (0x1C40, 0x1C49), (0x1C50, 0x1C59), (0xA620, 0xA629), (0xA8D0, 0xA8D9), (0xA900, 0xA909),
   (0xA9D0, 0xA9D9), (0xA9F0, 0xA9F9), (0xAA50, 0xAA59), (0xABF0, 0xABF9), (0xFF10, 0xFF19),
   (0x104A0, 0x104A9), (0x10D30, 0x10D39), (0x10D40, 0x10D49), (0x11066, 0x1106F),
   (0x110F0, 0x110F9), (0x11136, 0x1113F), (0x111D0, 0x111D9), (0x112F0, 0x112F9),
   (0x11450, 0x11459), (0x114D0, 0x114D9), (0x11650, 0x11659), (0x116C0, 0x116C9),
   (0x116D0, 0x116E3), (0x11730, 0x11739), (0x118E0, 0x118E9), (0x11950, 0x11959),
   (0x11BF0, 0x11BF9), (0x11C50, 0x11C59), (0x11D50, 0x11D59), (0x11DA0, 0x11DA9),
   (0x11DE0, 0x11DE9), (0x11F50, 0x11F59), (0x16130, 0x16139), (0x16A60, 0x16A69),
   (0x16AC0, 0x16AC9), (0x16B50, 0x16B59), (0x16D70, 0x16D79), (0x1CCF0, 0x1CCF9),
   (0x1D7CE, 0x1D7FF), (0x1E140, 0x1E149), (0x1E2F0, 0x1E2F9), (0x1E4F0, 0x1E4F9),
   (0x1E5F1, 0x1E5FA), (0x1E950, 0x1E959), (0x1FBF0, 0x1FBF9)]

/-- The characters of the category No that stand in no identifier. -/
def otherNumberRanges : Ranges :=
  [(0xB2, 0xB3), (0xB9, 0xB9), (0xBC, 0xBE), (0x9F4, 0x9F9), (0xB72, 0xB77), (0xBF0, 0xBF2),
   (0xC78, 0xC7E), (0xD58, 0xD5E), (0xD70, 0xD78), (0xF2A, 0xF33), (0x1372, 0x137C),
   (0x17F0, 0x17F9), (0x2070, 0x2070), (0x2074, 0x2079), (0x2080, 0x2089), (0x2150, 0x215F),
   (0x2189, 0x2189), (0x2460, 0x249B), (0x24EA, 0x24FF), (0x2776, 0x2793), (0x2CFD, 0x2CFD),
   (0x3192, 0x3195), (0x3220, 0x3229), (0x3248, 0x324F), (0x3251, 0x325F), (0x3280, 0x3289),
   (0x32B1, 0x32BF), (0xA830, 0xA835), (0x10107, 0x10133), (0x10175, 0x10178), (0x1018A, 0x1018B),
   (0x102E1, 0x102FB), (0x10320, 0x10323), (0x10858, 0x1085F), (0x10879, 0x1087F),
   (0x108A7, 0x108AF), (0x108FB, 0x108FF), (0x10916, 0x1091B), (0x109BC, 0x109BD),
   (0x109C0, 0x109CF), (0x109D2, 0x109FF), (0x10A40, 0x10A48), (0x10A7D, 0x10A7E),
   (0x10A9D, 0x10A9F), (0x10AEB, 0x10AEF), (0x10B58, 0x10B5F), (0x10B78, 0x10B7F),
   (0x10BA9, 0x10BAF), (0x10CFA, 0x10CFF), (0x10E60, 0x10E7E), (0x10F1D, 0x10F26),
   (0x10F51, 0x10F54), (0x10FC5, 0x10FCB), (0x11052, 0x11065), (0x111E1, 0x111F4),
   (0x1173A, 0x1173B), (0x118EA, 0x118F2), (0x11C5A, 0x11C6C), (0x11FC0, 0x11FD4),
   (0x16B5B, 0x16B61), (0x16E80, 0x16E96), (0x1D2C0, 0x1D2D3), (0x1D2E0, 0x1D2F3),
   (0x1D360, 0x1D378), (0x1E8C7, 0x1E8CF), (0x1EC71, 0x1ECAB), (0x1ECAD, 0x1ECAF),
   (0x1ECB1, 0x1ECB4), (0x1ED01, 0x1ED2D), (0x1ED2F, 0x1ED3D), (0x1F100, 0x1F10C)]

/-- The alphabetic symbols: letters in circles and squares. -/
def circledRanges : Ranges :=
  [(0x24B6, 0x24E9), (0x1F130, 0x1F149), (0x1F150, 0x1F169), (0x1F170, 0x1F189)]

/-- The characters of the categories Mn and Mc. -/
def markRanges : Ranges :=
  [(0x300, 0x36F), (0x483, 0x487), (0x591, 0x5BD), (0x5BF, 0x5BF), (0x5C1, 0x5C2), (0x5C4, 0x5C5),
   (0x5C7, 0x5C7), (0x610, 0x61A), (0x64B, 0x65F), (0x670, 0x670), (0x6D6, 0x6DC), (0x6DF, 0x6E4),
   (0x6E7, 0x6E8), (0x6EA, 0x6ED), (0x711, 0x711), (0x730, 0x74A), (0x7A6, 0x7B0), (0x7EB, 0x7F3),
   (0x7FD, 0x7FD), (0x816, 0x819), (0x81B, 0x823), (0x825, 0x827), (0x829, 0x82D), (0x859, 0x85B),
   (0x897, 0x89F), (0x8CA, 0x8E1), (0x8E3, 0x903), (0x93A, 0x93C), (0x93E, 0x94F), (0x951, 0x957),
   (0x962, 0x963), (0x981, 0x983), (0x9BC, 0x9BC), (0x9BE, 0x9C4), (0x9C7, 0x9C8), (0x9CB, 0x9CD),
   (0x9D7, 0x9D7), (0x9E2, 0x9E3), (0x9FE, 0x9FE), (0xA01, 0xA03), (0xA3C, 0xA3C), (0xA3E, 0xA42),
   (0xA47, 0xA48), (0xA4B, 0xA4D), (0xA51, 0xA51), (0xA70, 0xA71), (0xA75, 0xA75), (0xA81, 0xA83),
   (0xABC, 0xABC), (0xABE, 0xAC5), (0xAC7, 0xAC9), (0xACB, 0xACD), (0xAE2, 0xAE3), (0xAFA, 0xAFF),
   (0xB01, 0xB03), (0xB3C, 0xB3C), (0xB3E, 0xB44), (0xB47, 0xB48), (0xB4B, 0xB4D), (0xB55, 0xB57),
   (0xB62, 0xB63), (0xB82, 0xB82), (0xBBE, 0xBC2), (0xBC6, 0xBC8), (0xBCA, 0xBCD), (0xBD7, 0xBD7),
   (0xC00, 0xC04), (0xC3C, 0xC3C), (0xC3E, 0xC44), (0xC46, 0xC48), (0xC4A, 0xC4D), (0xC55, 0xC56),
   (0xC62, 0xC63), (0xC81, 0xC83), (0xCBC, 0xCBC), (0xCBE, 0xCC4), (0xCC6, 0xCC8), (0xCCA, 0xCCD),
   (0xCD5, 0xCD6), (0xCE2, 0xCE3), (0xCF3, 0xCF3), (0xD00, 0xD03), (0xD3B, 0xD3C), (0xD3E, 0xD44),
   (0xD46, 0xD48), (0xD4A, 0xD4D), (0xD57, 0xD57), (0xD62, 0xD63), (0xD81, 0xD83), (0xDCA, 0xDCA),
   (0xDCF, 0xDD4), (0xDD6, 0xDD6), (0xDD8, 0xDDF), (0xDF2, 0xDF3), (0xE31, 0xE31), (0xE34, 0xE3A),
   (0xE47, 0xE4E), (0xEB1, 0xEB1), (0xEB4, 0xEBC), (0xEC8, 0xECE), (0xF18, 0xF19), (0xF35, 0xF35),
   (0xF37, 0xF37), (0xF39, 0xF39), (0xF3E, 0xF3F), (0xF71, 0xF84), (0xF86, 0xF87), (0xF8D, 0xF97),
   (0xF99, 0xFBC), (0xFC6, 0xFC6), (0x102B, 0x103E), (0x1056, 0x1059), (0x105E, 0x1060),
   (0x1062, 0x1064), (0x1067, 0x106D), (0x1071, 0x1074), (0x1082, 0x108D), (0x108F, 0x108F),
   (0x109A, 0x109D), (0x135D, 0x135F), (0x1712, 0x1715), (0x1732, 0x1734), (0x1752, 0x1753),
   (0x1772, 0x1773), (0x17B4, 0x17D3), (0x17DD, 0x17DD), (0x180B, 0x180D), (0x180F, 0x180F),
   (0x1885, 0x1886), (0x18A9, 0x18A9), (0x1920, 0x192B), (0x1930, 0x193B), (0x1A17, 0x1A1B),
   (0x1A55, 0x1A5E), (0x1A60, 0x1A7C), (0x1A7F, 0x1A7F), (0x1AB0, 0x1ABD), (0x1ABF, 0x1ADD),
   (0x1AE0, 0x1AEB), (0x1B00, 0x1B04), (0x1B34, 0x1B44), (0x1B6B, 0x1B73), (0x1B80, 0x1B82),
   (0x1BA1, 0x1BAD), (0x1BE6, 0x1BF3), (0x1C24, 0x1C37), (0x1CD0, 0x1CD2), (0x1CD4, 0x1CE8),
   (0x1CED, 0x1CED), (0x1CF4, 0x1CF4), (0x1CF7, 0x1CF9), (0x1DC0, 0x1DFF), (0x20D0, 0x20DC),
   (0x20E1, 0x20E1), (0x20E5, 0x20F0), (0x2CEF, 0x2CF1), (0x2D7F, 0x2D7F), (0x2DE0, 0x2DFF),
   (0x302A, 0x302F), (0x3099, 0x309A), (0xA66F, 0xA66F), (0xA674, 0xA67D), (0xA69E, 0xA69F),
   (0xA6F0, 0xA6F1), (0xA802, 0xA802), (0xA806, 0xA806), (0xA80B, 0xA80B), (0xA823, 0xA827),
   (0xA82C, 0xA82C), (0xA880, 0xA881), (0xA8B4, 0xA8C5), (0xA8E0, 0xA8F1), (0xA8FF, 0xA8FF),
   (0xA926, 0xA92D), (0xA947, 0xA953), (0xA980, 0xA983), (0xA9B3, 0xA9C0), (0xA9E5, 0xA9E5),
   (0xAA29, 0xAA36), (0xAA43, 0xAA43), (0xAA4C, 0xAA4D), (0xAA7B, 0xAA7D), (0xAAB0, 0xAAB0),
   (0xAAB2, 0xAAB4), (0xAAB7, 0xAAB8), (0xAABE, 0xAABF), (0xAAC1, 0xAAC1), (0xAAEB, 0xAAEF),
   (0xAAF5, 0xAAF6), (0xABE3, 0xABEA), (0xABEC, 0xABED), (0xFB1E, 0xFB1E), (0xFE00, 0xFE0F),
   (0xFE20, 0xFE2F), (0x101FD, 0x101FD), (0x102E0, 0x102E0), (0x10376, 0x1037A),
   (0x10A01, 0x10A03), (0x10A05, 0x10A06), (0x10A0C, 0x10A0F), (0x10A38, 0x10A3A),
   (0x10A3F, 0x10A3F), (0x10AE5, 0x10AE6), (0x10D24, 0x10D27), (0x10D69, 0x10D6D),
   (0x10EAB, 0x10EAC), (0x10EFA, 0x10EFF), (0x10F46, 0x10F50), (0x10F82, 0x10F85),
   (0x11000, 0x11002), (0x11038, 0x11046), (0x11070, 0x11070), (0x11073, 0x11074),
   (0x1107F, 0x11082), (0x110B0, 0x110BA), (0x110C2, 0x110C2), (0x11100, 0x11102),
   (0x11127, 0x11134), (0x11145, 0x11146), (0x11173, 0x11173), (0x11180, 0x11182),
   (0x111B3, 0x111C0), (0x111C9, 0x111CC), (0x111CE, 0x111CF), (0x1122C, 0x11237),
   (0x1123E, 0x1123E), (0x11241, 0x11241), (0x112DF, 0x112EA), (0x11300, 0x11303),
   (0x1133B, 0x1133C), (0x1133E, 0x11344), (0x11347, 0x11348), (0x1134B, 0x1134D),
   (0x11357, 0x11357), (0x11362, 0x11363), (0x11366, 0x1136C), (0x11370, 0x11374),
   (0x113B8, 0x113C0), (0x113C2, 0x113C2), (0x113C5, 0x113C5), (0x113C7, 0x113CA),
   (0x113CC, 0x113D0), (0x113D2, 0x113D2), (0x113E1, 0x113E2), (0x11435, 0x11446),
   (0x1145E, 0x1145E), (0x114B0, 0x114C3), (0x115AF, 0x115B5), (0x115B8, 0x115C0),
   (0x115DC, 0x115DD), (0x11630, 0x11640), (0x116AB, 0x116B7), (0x1171D, 0x1172B),
   (0x1182C, 0x1183A), (0x11930, 0x11935), (0x11937, 0x11938), (0x1193B, 0x1193E),
   (0x11940, 0x11940), (0x11942, 0x11943), (0x119D1, 0x119D7), (0x119DA, 0x119E0),
   (0x119E4, 0x119E4), (0x11A01, 0x11A0A), (0x11A33, 0x11A39), (0x11A3B, 0x11A3E),
   (0x11A47, 0x11A47), (0x11A51, 0x11A5B), (0x11A8A, 0x11A99), (0x11B60, 0x11B67),
   (0x11C2F, 0x11C36), (0x11C38, 0x11C3F), (0x11C92, 0x11CA7), (0x11CA9, 0x11CB6),
   (0x11D31, 0x11D36), (0x11D3A, 0x11D3A), (0x11D3C, 0x11D3D), (0x11D3F, 0x11D45),
   (0x11D47, 0x11D47), (0x11D8A, 0x11D8E), (0x11D90, 0x11D91), (0x11D93, 0x11D97),
   (0x11EF3, 0x11EF6), (0x11F00, 0x11F01), (0x11F03, 0x11F03), (0x11F34, 0x11F3A),
   (0x11F3E, 0x11F42), (0x11F5A, 0x11F5A), (0x13440, 0x13440), (0x13447, 0x13455),
   (0x1611E, 0x1612F), (0x16AF0, 0x16AF4), (0x16B30, 0x16B36), (0x16F4F, 0x16F4F),
   (0x16F51, 0x16F87), (0x16F8F, 0x16F92), (0x16FE4, 0x16FE4), (0x16FF0, 0x16FF1),
   (0x1BC9D, 0x1BC9E), (0x1CF00, 0x1CF2D), (0x1CF30, 0x1CF46), (0x1D165, 0x1D169),
   (0x1D16D, 0x1D172), (0x1D17B, 0x1D182), (0x1D185, 0x1D18B), (0x1D1AA, 0x1D1AD),
   (0x1D242, 0x1D244), (0x1DA00, 0x1DA36), (0x1DA3B, 0x1DA6C), (0x1DA75, 0x1DA75),
   (0x1DA84, 0x1DA84), (0x1DA9B, 0x1DA9F), (0x1DAA1, 0x1DAAF), (0x1E000, 0x1E006),
   (0x1E008, 0x1E018), (0x1E01B, 0x1E021), (0x1E023, 0x1E024), (0x1E026, 0x1E02A),
   (0x1E08F, 0x1E08F), (0x1E130, 0x1E136), (0x1E2AE, 0x1E2AE), (0x1E2EC, 0x1E2EF),
   (0x1E4EC, 0x1E4EF), (0x1E5EE, 0x1E5EF), (0x1E6E3, 0x1E6E3), (0x1E6E6, 0x1E6E6),
   (0x1E6EE, 0x1E6EF), (0x1E6F5, 0x1E6F5), (0x1E8D0, 0x1E8D6), (0x1E944, 0x1E94A),
   (0xE0100, 0xE01EF)]

/-- The characters of the category Pc. -/
def connectorRanges : Ranges :=
  [(0x5F, 0x5F), (0x203F, 0x2040), (0x2054, 0x2054), (0xFE33, 0xFE34), (0xFE4D, 0xFE4F),
   (0xFF3F, 0xFF3F)]

/-- The characters that begin identifiers for compatibility. -/
def keptStartRanges : Ranges :=
  [(0x1885, 0x1886), (0x2118, 0x2118), (0x212E, 0x212E), (0x309B, 0x309C)]

/-- The characters that go on with identifiers for compatibility. -/
def keptPartRanges : Ranges :=
  [(0xB7, 0xB7), (0x387, 0x387), (0x1369, 0x1371), (0x19DA, 0x19DA), (0x200C, 0x200D),
   (0x30FB, 0x30FB), (0xFF65, 0xFF65)]

/-! ## Identifier names -/

/-- The property ID_Start: letters, but for one that serves as a pattern character, letter
numbers, and six characters that are kept for compatibility. -/
def IdStart (c : Char) : Prop :=
  isLetter c = true ∧ c ≠ '\u2e2f' ∨ letterNumberRanges.has c = true ∨
    keptStartRanges.has c = true

/-- The property ID_Continue: what may begin an identifier, marks, decimal digits,
connectors, and some characters that are kept for compatibility. -/
def IdContinue (c : Char) : Prop :=
  IdStart c ∨ markRanges.has c = true ∨ decimalRanges.has c = true ∨
    connectorRanges.has c = true ∨ keptPartRanges.has c = true

/-- The grammar of names: `$` and `_` begin one, and `$` and the two joiners go on with one
beside the characters that the properties admit. -/
def NameStart (c : Char) : Prop := c = '$' ∨ c = '_' ∨ IdStart c

def NamePart (c : Char) : Prop := c = '$' ∨ c = '\u200c' ∨ c = '\u200d' ∨ IdContinue c

structure IdentifierName (name : String) : Prop where
  begins : ∃ c ∈ name.toList.head?, NameStart c
  goes_on : ∀ c ∈ name.toList.tail, NamePart c

instance (c : Char) : Decidable (IdStart c) :=
  inferInstanceAs (Decidable (_ ∨ _))

instance (c : Char) : Decidable (IdContinue c) :=
  inferInstanceAs (Decidable (_ ∨ _))

instance (c : Char) : Decidable (NameStart c) :=
  inferInstanceAs (Decidable (_ ∨ _))

instance (c : Char) : Decidable (NamePart c) :=
  inferInstanceAs (Decidable (_ ∨ _))

instance (name : String) : Decidable (IdentifierName name) :=
  decidable_of_iff
    (name.toList.head?.any (NameStart ·) = true ∧ name.toList.tail.all (NamePart ·) = true) <| by
    simp only [Option.any_eq_true, List.all_eq_true, decide_eq_true_eq]
    exact ⟨fun whole => ⟨whole.1, whole.2⟩, fun whole => ⟨whole.begins, whole.goes_on⟩⟩

example : IdentifierName "Vier_tel\u0301" := by decide +kernel
example : ¬IdentifierName "x\u00b2" := by decide +kernel

/-! ## Comparing sets of characters -/

/-- The ranges of two sets, each of which is in order, in one order. The number bounds the
steps. -/
def merge : Nat → Ranges → Ranges → Ranges
  | 0, ranges, others => ranges ++ others
  | _ + 1, [], others => others
  | _ + 1, ranges, [] => ranges
  | steps + 1, range :: ranges, other :: others =>
    if range.1 ≤ other.1 then range :: merge steps ranges (other :: others)
    else other :: merge steps (range :: ranges) others

/-- Whether ranges in order hold every number between two. -/
def holds (low high : Nat) : Ranges → Bool
  | [] => high < low
  | (first, last) :: rest =>
    high < low || (if last < low then holds low high rest
      else first ≤ low && holds (last + 1) high rest)

/-- Whether ranges in order hold all that others in order hold. -/
def covers : Ranges → Ranges → Bool
  | _, [] => true
  | ranges, (low, high) :: others =>
    let ahead := ranges.dropWhile (·.2 < low)
    holds low high ahead && covers ahead others

/-- Whether ranges follow each other from a number on without a character in common. -/
def inOrder (least : Nat) : Ranges → Bool
  | [] => true
  | (first, last) :: rest => least ≤ first && first ≤ last && inOrder (last + 1) rest

/-- The number of steps that suffices for every pair of tables here. -/
def manySteps : Nat := 2000

/-- The union of two sets. -/
def both (ranges others : Ranges) : Ranges := merge manySteps ranges others

theorem merge_perm (steps : Nat) (ranges others : Ranges) :
    (merge steps ranges others).Perm (ranges ++ others) := by
  fun_induction merge steps ranges others with
  | case1 => exact .refl _
  | case2 => exact .refl _
  | case3 steps ranges => simp
  | case4 steps range ranges other others before ih => exact ih.cons range
  | case5 steps range ranges other others after ih =>
    exact (ih.cons other).trans List.perm_middle.symm

theorem has_both {ranges others : Ranges} {c : Char} :
    (both ranges others).has c = true ↔ ranges.has c = true ∨ others.has c = true := by
  simp only [Ranges.has_iff, both, (merge_perm manySteps ranges others).mem_iff, List.mem_append,
    or_and_right, exists_or]

theorem has_nil (c : Char) : Ranges.has [] c = false :=
  rfl

theorem has_cons {range : Nat × Nat} {rest : Ranges} :
    Ranges.has (range :: rest) c = true ↔
      (range.1 ≤ c.toNat ∧ c.toNat ≤ range.2) ∨ rest.has c = true := by
  simp [Ranges.has]

theorem holds_sound (all : holds low high ranges = true) (least : low ≤ c.toNat)
    (greatest : c.toNat ≤ high) : ranges.has c = true := by
  induction ranges generalizing low with
  | nil =>
    simp only [holds, decide_eq_true_eq] at all
    omega
  | cons range rest ih =>
    obtain ⟨first, last⟩ := range
    rw [has_cons]
    simp only [holds, Bool.or_eq_true, decide_eq_true_eq] at all
    rcases all with none | all
    · omega
    · split at all
      · exact .inr (ih all least)
      · simp only [Bool.and_eq_true, decide_eq_true_eq] at all
        by_cases here : c.toNat ≤ last
        · exact .inl ⟨by omega, here⟩
        · exact .inr (ih all.2 (by omega))

theorem has_of_covers (all : covers ranges others = true) (held : others.has c = true) :
    ranges.has c = true := by
  induction others generalizing ranges with
  | nil => cases held
  | cons range rest ih =>
    obtain ⟨low, high⟩ := range
    simp only [covers, Bool.and_eq_true] at all
    have ahead : Ranges.has (ranges.dropWhile (·.2 < low)) c = true := by
      rcases has_cons.mp held with here | later
      · exact holds_sound all.1 here.1 here.2
      · exact ih all.2 later
    obtain ⟨range, member, bounds⟩ := Ranges.has_iff.mp ahead
    exact Ranges.has_iff.mpr ⟨range, (List.dropWhile_sublist _).subset member, bounds⟩

theorem least_of_in_order (ordered : inOrder least ranges = true) (member : range ∈ ranges) :
    least ≤ range.1 := by
  induction ranges generalizing least with
  | nil => cases member
  | cons front rest ih =>
    obtain ⟨first, last⟩ := front
    simp only [inOrder, Bool.and_eq_true, decide_eq_true_eq] at ordered
    rcases List.mem_cons.mp member with rfl | later
    · exact ordered.1.1
    · have behind := ih ordered.2 later
      omega

theorem pairwise_of_in_order (ordered : inOrder least ranges = true) :
    ranges.Pairwise fun range other => range.2 < other.1 := by
  induction ranges generalizing least with
  | nil => exact .nil
  | cons front rest ih =>
    obtain ⟨first, last⟩ := front
    simp only [inOrder, Bool.and_eq_true] at ordered
    exact .cons (fun other member => least_of_in_order ordered.2 member) (ih ordered.2)

/-- Sets have nothing in common if the ranges of both, in one order, do not meet. -/
theorem not_has_of_in_order (ordered : inOrder 0 (both ranges others) = true)
    (held : ranges.has c = true) : others.has c = false := by
  have apart : (both ranges others).Pairwise fun range other =>
      range.2 < other.1 ∨ other.2 < range.1 := (pairwise_of_in_order ordered).imp .inl
  have separate := (List.pairwise_append.mp
    (((merge_perm manySteps ranges others).pairwise_iff fun either => either.symm).mp apart)).2.2
  exact SpecAdmission.not_has_of_apart separate held

/-! ## What the generator takes for parts of identifiers -/

/-- An alphabetic character is a letter, a letter number, a mark, or a symbol. -/
theorem alphabetic_kinds (held : isAlphabetic c = true) :
    (isLetter c = true ∨ letterNumberRanges.has c = true) ∨
      markRanges.has c = true ∨ circledRanges.has c = true := by
  have all : covers (both (both letterRanges letterNumberRanges)
      (both markRanges circledRanges)) alphabeticRanges = true := by decide +kernel
  exact (has_both.mp (has_of_covers all held)).imp has_both.mp has_both.mp

theorem number_kinds (held : isNumber c = true) :
    (letterNumberRanges.has c = true ∨ decimalRanges.has c = true) ∨
      otherNumberRanges.has c = true ∨ keptPartRanges.has c = true := by
  have all : covers (both (both letterNumberRanges decimalRanges)
      (both otherNumberRanges keptPartRanges)) numberRanges = true := by decide +kernel
  exact (has_both.mp (has_of_covers all held)).imp has_both.mp has_both.mp

theorem start_cases (start : isIdentifierStart c = true) :
    (c = '$' ∨ c = '_') ∨ isAlphabetic c = true := by
  have covered : covers alphabeticRanges [(0x41, 0x5A), (0x61, 0x7A)] = true := by decide +kernel
  simp only [isIdentifierStart, Bool.or_eq_true, Bool.and_eq_true, decide_eq_true_eq] at start
  rcases start with ((bar | dollar) | plain) | ⟨_, alphabetic⟩
  · exact .inl (.inr bar)
  · exact .inl (.inl dollar)
  · refine .inr (has_of_covers covered ?_)
    rcases Bool.or_eq_true_iff.mp plain with upper | lower
    · obtain ⟨low, high⟩ := of_decide_eq_true upper
      exact has_cons.mpr (.inl ⟨low, high⟩)
    · obtain ⟨low, high⟩ := Bool.and_eq_true_iff.mp lower
      exact has_cons.mpr
        (.inr (has_cons.mpr (.inl ⟨of_decide_eq_true low, of_decide_eq_true high⟩)))
  · exact .inr alphabetic

theorem part_cases (part : isIdentifierPart c = true) :
    isIdentifierStart c = true ∨ isNumber c = true := by
  have covered : covers numberRanges [(0x30, 0x39)] = true := by decide +kernel
  simp only [isIdentifierPart, Bool.or_eq_true, Bool.and_eq_true] at part
  rcases part with (start | digit) | ⟨_, number⟩
  · exact .inl start
  · refine .inr (has_of_covers covered ?_)
    simpa [has_cons, has_nil, Char.isDigit, UInt32.le_iff_toNat_le] using digit
  · exact .inr number

/-- A character that no identifier name holds although the generator takes it for a part of
identifiers: a number that is no digit, a symbol, or a pattern character. -/
def Stray (c : Char) : Prop :=
  (both otherNumberRanges circledRanges).has c = true ∨ c = '\u2e2f'

/-- A mark that goes on with names but begins none. -/
def Late (c : Char) : Prop := markRanges.has c = true ∧ keptStartRanges.has c = false

instance (c : Char) : Decidable (Stray c) :=
  inferInstanceAs (Decidable (_ ∨ _))

instance (c : Char) : Decidable (Late c) :=
  inferInstanceAs (Decidable (_ ∧ _))

theorem part_of_name_start (begins : NameStart c) : NamePart c := by
  rcases begins with rfl | rfl | start
  · exact .inl rfl
  · decide +kernel
  · exact .inr (.inr (.inr (.inl start)))

theorem part_of_mark (mark : markRanges.has c = true) : NamePart c :=
  .inr (.inr (.inr (.inr (.inl mark))))

theorem stray_not_start (stray : Stray c) : ¬IdStart c := by
  have apart : inOrder 0 (both (both otherNumberRanges circledRanges)
      (both letterRanges (both letterNumberRanges keptStartRanges))) = true := by decide +kernel
  rcases stray with held | rfl
  · have other := not_has_of_in_order apart held
    rw [Bool.eq_false_iff, ne_eq, has_both, has_both] at other
    exact fun start => other (start.imp_left (·.1))
  · decide +kernel

theorem stray_not_part (stray : Stray c) : ¬NamePart c := by
  have apart : inOrder 0 (both (both otherNumberRanges circledRanges)
      (both markRanges (both decimalRanges (both connectorRanges
        (both [(0x24, 0x24)] keptPartRanges))))) = true := by decide +kernel
  rcases stray with held | rfl
  · have other := not_has_of_in_order apart held
    simp only [Bool.eq_false_iff, ne_eq, has_both] at other
    rintro (rfl | rfl | rfl | start | continued)
    · exact other (by decide +kernel)
    · exact other (by decide +kernel)
    · exact other (by decide +kernel)
    · exact stray_not_start (.inl held) start
    · exact other (by simpa using continued.imp_right (Or.imp_right (Or.imp_right .inr)))
  · decide +kernel

theorem late_not_start (late : Late c) : ¬NameStart c := by
  have apart : inOrder 0 (both markRanges (both [(0x24, 0x24), (0x5F, 0x5F)]
      (both letterRanges letterNumberRanges))) = true := by decide +kernel
  have other := not_has_of_in_order apart late.1
  simp only [Bool.eq_false_iff, ne_eq, has_both] at other
  rintro (rfl | rfl | letter | number | kept)
  · exact other (by decide)
  · exact other (by decide)
  · exact other (.inr (.inl letter.1))
  · exact other (.inr (.inr number))
  · rw [late.2] at kept
    cases kept

/-- What begins an identifier for the generator begins a name unless it is stray or a mark. -/
theorem name_start_iff (start : isIdentifierStart c = true) :
    NameStart c ↔ ¬Stray c ∧ ¬Late c := by
  constructor
  · intro begins
    exact ⟨fun stray => stray_not_part stray (part_of_name_start begins),
      fun late => late_not_start late begins⟩
  · rintro ⟨plain, early⟩
    rcases start_cases start with (dollar | bar) | alphabetic
    · exact .inl dollar
    · exact .inr (.inl bar)
    · refine .inr (.inr ?_)
      rcases alphabetic_kinds alphabetic with (letter | number) | (mark | circled)
      · exact .inl ⟨letter, fun pattern => plain (.inr pattern)⟩
      · exact .inr (.inl number)
      · cases kept : keptStartRanges.has c with
        | true => exact .inr (.inr kept)
        | false => exact absurd ⟨mark, kept⟩ early
      · exact absurd (.inl (has_both.mpr (.inr circled))) plain

/-- What an identifier goes on with for the generator goes on with names unless it is stray. -/
theorem name_part_iff (part : isIdentifierPart c = true) : NamePart c ↔ ¬Stray c := by
  constructor
  · exact fun continued stray => stray_not_part stray continued
  · intro plain
    rcases part_cases part with start | number
    · by_cases mark : Late c
      · exact part_of_mark mark.1
      · exact part_of_name_start ((name_start_iff start).mpr ⟨plain, mark⟩)
    · rcases number_kinds number with (letter | decimal) | (other | kept)
      · exact .inr (.inr (.inr (.inl (.inr (.inl letter)))))
      · exact .inr (.inr (.inr (.inr (.inr (.inl decimal)))))
      · exact absurd (.inl (has_both.mpr (.inl other))) plain
      · exact .inr (.inr (.inr (.inr (.inr (.inr (.inr kept))))))

/-- A name that holds no stray character and does not begin with a mark. -/
def Portable (name : String) : Prop :=
  (∀ c ∈ name.toList, ¬Stray c) ∧ ∀ c ∈ name.toList.head?, ¬Late c

instance (name : String) : Decidable (Portable name) :=
  decidable_of_iff
    (name.toList.all (¬Stray ·) = true ∧ name.toList.head?.all (¬Late ·) = true) <| by
    simp only [Portable, Option.all_eq_true, List.all_eq_true, decide_eq_true_eq, Option.mem_def]

/-- An identifier of the generator is one of ECMAScript unless it holds a stray character or
begins with a mark. -/
theorem identifier_name_iff (identifier : isIdentifier name = true) :
    IdentifierName name ↔ Portable name := by
  rw [isIdentifier] at identifier
  cases text : name.toList with
  | nil =>
    rw [text] at identifier
    cases identifier
  | cons first rest =>
    rw [text, BindingAllocation.identifier_cons] at identifier
    obtain ⟨start, parts⟩ := identifier
    have named : IdentifierName name ↔ NameStart first ∧ ∀ c ∈ rest, NamePart c :=
      ⟨fun whole => by simpa [text] using And.intro whole.begins whole.goes_on,
        fun whole => ⟨by simpa [text] using whole.1, by simpa [text] using whole.2⟩⟩
    have tail : (∀ c ∈ rest, NamePart c) ↔ ∀ c ∈ rest, ¬Stray c :=
      forall₂_congr fun c member => name_part_iff (parts c member)
    rw [Portable, text, named, name_start_iff start, tail, List.forall_mem_cons, List.head?_cons]
    simp only [Option.mem_some_iff, forall_eq']
    exact and_right_comm

/-! ## Names that a scope hands out -/

/-- What holds of the ten digits holds of a digit. -/
theorem of_digit {p : Char → Prop} (each : ∀ n < 58, 48 ≤ n → p (Char.ofNat n))
    (digit : c.isDigit = true) : p c := by
  have bounds : 48 ≤ c.toNat ∧ c.toNat ≤ 57 := by
    simpa [Char.isDigit, UInt32.le_iff_toNat_le] using digit
  have known := each c.toNat (by omega) bounds.1
  rwa [Char.ofNat_toNat] at known

theorem not_stray_of_digit (digit : c.isDigit = true) : ¬Stray c :=
  of_digit (p := fun c => ¬Stray c) (by decide +kernel) digit

/-- A number behind a name makes no difference. -/
theorem portable_numbered (identifier : isIdentifier base = true) (n : Nat) :
    Portable (Scope.numbered base n) ↔ Portable base := by
  have nonempty : base.toList ≠ [] := by
    intro empty
    rw [isIdentifier, empty] at identifier
    cases identifier
  have digits : ∀ c ∈ Text.decimal n, ¬Stray c := fun c member =>
    not_stray_of_digit (Nat.isDigit_of_mem_toDigits (by decide) (by decide) member)
  have head : (base.toList ++ Text.decimal n).head? = base.toList.head? :=
    List.head?_append_of_ne_nil _ nonempty
  rw [Portable, Scope.numbered, String.toList_append, String.toList_ofList,
    List.forall_mem_append, and_iff_left digits, head, Portable]

/-- What a scope hands out is as portable as the name that it is made from. -/
theorem portable_choose (scope : Scope) (base : String) :
    Portable (scope.choose base) ↔ Portable (sanitize base) := by
  unfold Scope.choose
  dsimp only
  split
  · rfl
  · obtain ⟨n, _, found, _, _⟩ := BindingAllocation.first_free_least scope (sanitize base)
    rw [found]
    exact portable_numbered (BindingAllocation.identifier_sanitize base) n

end Botwright.IdentifierNames
