import TrustSchema.Unicode.Runs

/-!
# Listed properties

Properties of characters that follow from no others: each is given by its members. Those whose names
begin with `other` complete a property that is otherwise derived from general categories.
-/

namespace TrustSchema.Unicode

/-! ## What characters are used for -/

/-- White space. -/
def whiteSpace : CharSet := .ofRuns [
  (0x9, 0xD), (0x20, 0x20), (0x85, 0x85), (0xA0, 0xA0), (0x1680, 0x1680), (0x2000, 0x200A),
  (0x2028, 0x2029), (0x202F, 0x202F), (0x205F, 0x205F), (0x3000, 0x3000)]

/-- Dashes. -/
def dash : CharSet := .ofRuns [
  (0x2D, 0x2D), (0x58A, 0x58A), (0x5BE, 0x5BE), (0x1400, 0x1400), (0x1806, 0x1806),
  (0x2010, 0x2015), (0x2053, 0x2053), (0x207B, 0x207B), (0x208B, 0x208B), (0x2212, 0x2212),
  (0x2E17, 0x2E17), (0x2E1A, 0x2E1A), (0x2E3A, 0x2E3B), (0x2E40, 0x2E40), (0x2E5D, 0x2E5D),
  (0x301C, 0x301C), (0x3030, 0x3030), (0x30A0, 0x30A0), (0xFE31, 0xFE32), (0xFE58, 0xFE58),
  (0xFE63, 0xFE63), (0xFF0D, 0xFF0D), (0x10D6E, 0x10D6E), (0x10EAD, 0x10EAD)]

/-- Dashes that mark connections between pieces of words. -/
def hyphen : CharSet := .ofRuns [
  (0x2D, 0x2D), (0xAD, 0xAD), (0x58A, 0x58A), (0x1806, 0x1806), (0x2010, 0x2011), (0x2E17, 0x2E17),
  (0x30FB, 0x30FB), (0xFE63, 0xFE63), (0xFF0D, 0xFF0D), (0xFF65, 0xFF65)]

/-- Quotation marks. -/
def quotationMark : CharSet := .ofRuns [
  (0x22, 0x22), (0x27, 0x27), (0xAB, 0xAB), (0xBB, 0xBB), (0x2018, 0x201F), (0x2039, 0x203A),
  (0x2E42, 0x2E42), (0x300C, 0x300F), (0x301D, 0x301F), (0xFE41, 0xFE44), (0xFF02, 0xFF02),
  (0xFF07, 0xFF07), (0xFF62, 0xFF63)]

/-- Punctuation at the ends of textual units. -/
def terminalPunctuation : CharSet := setOf [
  "x09000a120X1070O80Bk0Bz0d002Ez0B6a00Gi1Bheu0H81BJ71Er035Im1Vw7Vg0Df2By1Ec220B2311Ip1Jt3Eh19102",
  "s2F64Bp1BAj182DUr0c030900121Lv1BFZu1Hg2Ga4Kl1Cd1Cm0E62E22Di0f1Gw0WNv203Eo09000a120Bs010BE10Bb0",
  "BG50Fi0Il1E75Bv5Cg3BAf4B73F86D33Di2Dk150f1Cf4Cz0I91D82b1Jx32eCw1Gw2Oc000Gy1Ce131Lh2B80Rw1C11",
  "BKq4TDk1Do0Bs290Pc1I61VIt0IEm3"]

/-- Punctuation at the ends of sentences. -/
def sentenceTerminal : CharSet := setOf [
  "x0b0f0BLk0E22Ez0B62Gt0Bo00021I41BWz1Vx031Vg0Fh1Fn040Ip1Jt3Eh19111s2F61Bs1BAj182DUr0c0l1Lw0BFZv",
  "0Hh1Ga020Kl1Cd1Cm0E71E22Dz1Gw0WNx021Eo0b0f0Bs0CZv1BJg4B73F81D83Di2Dk150f1Cf101Cz0I91D81Kc14eCw",
  "1Gw2Oc000Gy1Ce1Ln1T71C11UOg1Do0Bs1a0Pc1I70VIt0IEn0"]

/-- The hexadecimal digits of ASCII. -/
def asciiHexDigit : CharSet := .ofRuns [(0x30, 0x39), (0x41, 0x46), (0x61, 0x66)]

/-- Hexadecimal digits of either width. -/
def hexDigit : CharSet := .ofRuns [
  (0x30, 0x39), (0x41, 0x46), (0x61, 0x66), (0xFF10, 0xFF19), (0xFF21, 0xFF26), (0xFF41, 0xFF46)]

/-- Characters that modify the meaning of others. -/
def diacritic : CharSet := setOf [
  "Cm000By0503011NyEe0745g13081H04Fs0Big0q000100Dp731Dp13122BuqCiaBlax1Dh7B49frBo0f023r0C10f0D10f",
  "0D10f0Ba2Bn0f060Da0D10f0D10f0D01f0Df0Df500Cy0c4C21q0000031Bt201Bp0D3001B3134o60091Tk2BAb1Eya80",
  "Jm2Io710Bbe1aCv0e0B18Bh1Dt1Br5C9o305012BdBqCgbB0aMc002a2c2c2c1DNz2Is0O15Cw3Cm0BGD50b100r1C91dx",
  "Ct2D01Fl0qhBk3z0Cm0b0z0E42Bs3Be0Cr482Dj1VR30VcfHh000Ba0B81Bu0V70BGu50B508Wh1Pu5B10p4L22BxaBc3",
  "Fb0B40Bz1Db1Bp0C3082Cv1Ex1C80f0n624Cg201c1Cm020De1Gy1Dh0D91D60Hg1H5130Eb0Ca0h0C80Lo0H5001C80Mh",
  "0FSreMGw0CRb4Bm6Pn1P5gC71RN130601IMgB91mP32257716t3DZ5BpFd6Ke0Bo3V91Uf6D0202"]

/-- Characters that lengthen or repeat the one before. -/
def extender : CharSet := setOf [
  "F30Ov1Yd0M80Xt0Uv0Di0CNu0Bj0Qy0L10Bv0FIw0B64Cu1Ck2BEJx0BQd0BAp0l0Ds0Cz0k1XCq0CFb1BP60q030BQ40",
  "D80Nt2BI60WBk1BGr100BEZz1CF12"]

/-- Characters that join the consonants around them. -/
def graphemeLink : CharSet := setOf [
  "CO50Di0Di0Di0Di0Di0Di0Di0D01f0Df0D20Di0Fk0Ez1BWo1t0Ec0S40Ga0Cs1Bx1EUq0BHN90B00E60Dx0Cz0Ik0Gt0",
  "ZUo0BQt0B40d0Bk0Dc1Du0D70Ez0Cp0Dj2D40Di0Gz0Di0D90D70Hg0H61Eg0Ca0h0C80Lo0H71C80Ls1SAr0"]

/-- Characters whose dot disappears under an accent. -/
def softDotted : CharSet := setOf [
  "Cx1Ff0Hs0t0Bf0j0Iv0Cp000GW00Be0c020Dn0Ec0Lo0Fx1DBl0ELWk1Bd1Bd1Bd1Bd1Bd1Bd1Bd1Bd1Bd1Bd1Bd1Bd1",
  "CIl0Ig1p0"]

/-- Vowels that are stored before the consonant they follow in speech. -/
def logicalOrderException : CharSet := .ofRuns [
  (0xE40, 0xE44), (0xEC0, 0xEC4), (0x19B5, 0x19B7), (0x19BA, 0x19BA), (0xAAB5, 0xAAB6),
  (0xAAB9, 0xAAB9), (0xAABB, 0xAABC)]

/-- Marks that count as part of the letter they are written on. -/
def modifierCombiningMark : CharSet := .ofRuns [
  (0x654, 0x655), (0x658, 0x658), (0x6DC, 0x6DC), (0x6E3, 0x6E3), (0x6E7, 0x6E8), (0x8CA, 0x8CB),
  (0x8CD, 0x8CF), (0x8D3, 0x8D3), (0x8F3, 0x8F3)]

/-- Marks that stand before the digits they are written on. -/
def prependedConcatenationMark : CharSet := .ofRuns [
  (0x600, 0x605), (0x6DD, 0x6DD), (0x70F, 0x70F), (0x890, 0x891), (0x8E2, 0x8E2),
  (0x110BD, 0x110BD), (0x110CD, 0x110CD)]

/-- Characters whose shape is mirrored in text that runs from right to left. -/
def bidiMirrored : CharSet := setOf [
  "B41h000r000s000B80e0DZ13CAc1CQb191Bh1d1Ew0Fb32520212303000038400h438100071u1340811i4184113n1f7",
  "3j161BE4dC1013010243422dL6l150d7065203401143002119511bi03100010034152n1a13301113B6170B34000244",
  "2302400H30Oa32101d119B67Lu917CEKk541Eh1h000r000s0000101CGY60Bk0Bk0Bk0Bk0"]

/-- Punctuation between letters of a word. -/
def midLetter : CharSet := .ofRuns [
  (0x3A, 0x3A), (0xB7, 0xB7), (0x387, 0x387), (0x55F, 0x55F), (0x5F4, 0x5F4), (0x2027, 0x2027),
  (0xFE13, 0xFE13), (0xFE55, 0xFE55), (0xFF1A, 0xFF1A)]

/-- Punctuation between digits of a number. -/
def midNumber : CharSet := .ofRuns [
  (0x2C, 0x2C), (0x3B, 0x3B), (0x37E, 0x37E), (0x589, 0x589), (0x60C, 0x60D), (0x66C, 0x66C),
  (0x7F8, 0x7F8), (0x2044, 0x2044), (0xFE10, 0xFE10), (0xFE14, 0xFE14), (0xFE50, 0xFE50),
  (0xFE54, 0xFE54), (0xFF0C, 0xFF0C), (0xFF1B, 0xFF1B)]

/-- Punctuation between letters of a word or digits of a number. -/
def midNumberOrLetter : CharSet := .ofRuns [
  (0x2E, 0x2E), (0x2018, 0x2019), (0x2024, 0x2024), (0xFE52, 0xFE52), (0xFF07, 0xFF07),
  (0xFF0E, 0xFF0E)]

/-! ## Ideographs -/

/-- Ideographs. -/
def ideographic : CharSet := .ofRuns [
  (0x3006, 0x3007), (0x3021, 0x3029), (0x3038, 0x303A), (0x3400, 0x4DBF), (0x4E00, 0x9FFF),
  (0xF900, 0xFA6D), (0xFA70, 0xFAD9), (0x16FE4, 0x16FE4), (0x17000, 0x187F7), (0x18800, 0x18CD5),
  (0x18CFF, 0x18D08), (0x1B170, 0x1B2FB), (0x20000, 0x2A6DF), (0x2A700, 0x2B739),
  (0x2B740, 0x2B81D), (0x2B820, 0x2CEA1), (0x2CEB0, 0x2EBE0), (0x2EBF0, 0x2EE5D),
  (0x2F800, 0x2FA1D), (0x30000, 0x3134A), (0x31350, 0x323AF)]

/-- The ideographs of the unified Han set. -/
def unifiedIdeograph : CharSet := .ofRuns [
  (0x3400, 0x4DBF), (0x4E00, 0x9FFF), (0xFA0E, 0xFA0F), (0xFA11, 0xFA11), (0xFA13, 0xFA14),
  (0xFA1F, 0xFA1F), (0xFA21, 0xFA21), (0xFA23, 0xFA24), (0xFA27, 0xFA29), (0x20000, 0x2A6DF),
  (0x2A700, 0x2B739), (0x2B740, 0x2B81D), (0x2B820, 0x2CEA1), (0x2CEB0, 0x2EBE0),
  (0x2EBF0, 0x2EE5D), (0x30000, 0x3134A), (0x31350, 0x323AF)]

/-- Radicals of ideographs. -/
def radical : CharSet := .ofRuns [(0x2E80, 0x2E99), (0x2E9B, 0x2EF3), (0x2F00, 0x2FD5)]

/-- Operators that describe an ideograph by another one. -/
def idsUnaryOperator : CharSet := .ofRuns [(0x2FFE, 0x2FFF)]

/-- Operators that describe an ideograph by two others. -/
def idsBinaryOperator : CharSet := .ofRuns [(0x2FF0, 0x2FF1), (0x2FF4, 0x2FFD), (0x31EF, 0x31EF)]

/-- Operators that describe an ideograph by three others. -/
def idsTrinaryOperator : CharSet := .ofRuns [(0x2FF2, 0x2FF3)]

/-! ## Emoji -/

/-- Emoji. -/
def emoji : CharSet := setOf [
  "z05049D2030IQc0b0Fz0l0Ch5e1K61b0El0oa32Fi0Ge19080Bl304801011103010011020217240004ba1100100h011",
  "h5000121401131a14110410001j14503103010150010000050205091e01030003200a1Bb280d0d0Kb1Mu2i1Be030",
  "BIh0b0Qo000ERVd0Fl0Ef1b1d019C2p01m0j018k1Etx1D311021Ca120Ha0Bqa50n6117b0131031c110718042b27210",
  "003050205CdBbBx47123920012019Gab30HuBa090F4D3c294Bj6e1a58"]

/-- Emoji that are shown as pictures unless something else is asked for. -/
def emojiPresentation : CharSet := setOf [
  "JPm1Fo32010Og1k1BdbB60i0c071g1417040k0610030106031r0y0003200Bo2n0d0Xu1Be030ETV10Fl0F9019C2p00n",
  "0j01402k1Etwb80Bx0lbB634bg202By000F61Bqc30nh0p1c0CdCcBbBx50221233a168Gab30HuBa090F4D3c294Bj6e1",
  "a58"]

/-- Skin tones. -/
def emojiModifier : CharSet := .ofRuns [(0x1F3FB, 0x1F3FF)]

/-- Emoji that take a skin tone. -/
def emojiModifierBase : CharSet := setOf [
  "KL10G20f3EVYe0Bn21012D811aki2032026000n0Fk130k031Et224Ca0f280a0Py01077508912Bj0Bo10100g20cGc2",
  "B58"]

/-- Parts of emoji that consist of several characters. -/
def emojiComponent : CharSet := .ofRuns [
  (0x23, 0x23), (0x2A, 0x2A), (0x30, 0x39), (0x200D, 0x200D), (0x20E3, 0x20E3), (0xFE0F, 0xFE0F),
  (0x1F1E6, 0x1F1FF), (0x1F3FB, 0x1F3FF), (0x1F9B0, 0x1F9B3), (0xE0020, 0xE007F)]

/-- Pictographs, including places that are kept free for them. -/
def extendedPictographic : CharSet := setOf [
  "Ep030IQc0b0Fz0l0Ch5e1K61b0Cm0Bx0oa32Fi0Ge19080Bl3050b0D59D91a000050205091e01030003200a4B8280d0",
  "d0Kb1Mu2i1Be030BIh0b0Qo000ERV9H3c2u0Bn5b1d019hBkqe90j018038M14It7HdBbDjD7bCcB6b3Bj795B37tC9bBa",
  "090M8H3BCd"]

/-- Letters of which two make a flag. -/
def regionalIndicator : CharSet := .ofRuns [(0x1F1E6, 0x1F1FF)]

/-! ## Format and syntax -/

/-- Characters that control the direction of text. -/
def bidiControl : CharSet := .ofRuns [
  (0x61C, 0x61C), (0x200E, 0x200F), (0x202A, 0x202E), (0x2066, 0x2069)]

/-- Characters that join or separate their neighbours. -/
def joinControl : CharSet := .ofRuns [(0x200C, 0x200D)]

/-- Characters that select a variant of the one before. -/
def variationSelector : CharSet := .ofRuns [
  (0x180B, 0x180D), (0x180F, 0x180F), (0xFE00, 0xFE0F), (0xE0100, 0xE01EF)]

/-- Code points that are never assigned. -/
def noncharacter : CharSet := .ofRuns [
  (0xFDD0, 0xFDEF), (0xFFFE, 0xFFFF), (0x1FFFE, 0x1FFFF), (0x2FFFE, 0x2FFFF), (0x3FFFE, 0x3FFFF),
  (0x4FFFE, 0x4FFFF), (0x5FFFE, 0x5FFFF), (0x6FFFE, 0x6FFFF), (0x7FFFE, 0x7FFFF),
  (0x8FFFE, 0x8FFFF), (0x9FFFE, 0x9FFFF), (0xAFFFE, 0xAFFFF), (0xBFFFE, 0xBFFFF),
  (0xCFFFE, 0xCFFFF), (0xDFFFE, 0xDFFFF), (0xEFFFE, 0xEFFFF), (0xFFFFE, 0xFFFFF),
  (0x10FFFE, 0x10FFFF)]

/-- Characters whose use is discouraged. -/
def deprecated : CharSet := .ofRuns [
  (0x149, 0x149), (0x673, 0x673), (0xF77, 0xF77), (0xF79, 0xF79), (0x17A3, 0x17A4),
  (0x206A, 0x206F), (0x2329, 0x232A), (0xE0001, 0xE0001)]

/-- Characters that are kept for syntax. -/
def patternSyntax : CharSet := setOf [
  "xe96p300p3x600010001303020m0u0IN3n7e1i09IgTzEfRhtBFfO7DjKo23oe0CEC41H81"]

/-- White space between parts of syntax. -/
def patternWhiteSpace : CharSet := .ofRuns [
  (0x9, 0xD), (0x20, 0x20), (0x85, 0x85), (0x200E, 0x200F), (0x2028, 0x2029)]

/-- Mathematical symbols at the start of identifiers. -/
def idCompatMathStart : CharSet := .ofRuns [
  (0x2202, 0x2202), (0x2207, 0x2207), (0x221E, 0x221E), (0x1D6C1, 0x1D6C1), (0x1D6DB, 0x1D6DB),
  (0x1D6FB, 0x1D6FB), (0x1D715, 0x1D715), (0x1D735, 0x1D735), (0x1D74F, 0x1D74F),
  (0x1D76F, 0x1D76F), (0x1D789, 0x1D789), (0x1D7A9, 0x1D7A9), (0x1D7C3, 0x1D7C3)]

/-- Mathematical symbols in identifiers. -/
def idCompatMathContinue : CharSet := .ofRuns [
  (0xB2, 0xB3), (0xB9, 0xB9), (0x2070, 0x2070), (0x2074, 0x207E), (0x2080, 0x208E),
  (0x2202, 0x2202), (0x2207, 0x2207), (0x221E, 0x221E), (0x1D6C1, 0x1D6C1), (0x1D6DB, 0x1D6DB),
  (0x1D6FB, 0x1D6FB), (0x1D715, 0x1D715), (0x1D735, 0x1D735), (0x1D74F, 0x1D74F),
  (0x1D76F, 0x1D76F), (0x1D789, 0x1D789), (0x1D7A9, 0x1D7A9), (0x1D7C3, 0x1D7C3)]

/-! ## Completions of derived properties -/

/-- What is alphabetic although it is no letter. -/
def otherAlphabetic : CharSet := setOf [
  "X90scPzd00010100BzaBbc06f0Cs6331130y0tfCtaCs1280203Cx0Bnb265jBh11e014291s2Bl611119091s2Bl43111",
  "30t120a2Bl70201k1l232Bl611118191t0Bm4220290B34Bk6020271a1s2Bl6020271a1e0b3Bl602029091s2C250007",
  "h1Bo016h0Cq01501f0Eii8a0zD1b0013m332021623cb0093BTv1t1t1t1BtiF71x0D9b38G54Bk91jC11a2Bc4BbeBn2t",
  "811BkaBdiLfxBW0BfCLpvBGYj7x1Jt070m4Cf1Bdf00Bk0B14rbB83BbbB00Budb071B82Bd0021140B7440Gk7VR60CHa",
  "4BUd20143Vv3Bs0Iw1C60H62BgdB81a2B8880Bo2zbh1Bk2Bbcd1Cj8105010Ec9m3Bl611119091Cb800100301Cuc02",
  "CxhGk616s1C9e00CxaCudH4cGu501112000Dx61530r9B5403haB9dLa706Cal0dDd52001020020Bt40103Jn38100Bb6",
  "22SAcgDWf00Bi63Ck1UZ70JRk60g160104Cr0CJy0CE7p5p5p"]

/-- What is lowercase although it is no lowercase letter. -/
def otherLowercase : CharSet := setOf [
  "Eq0e0Nw861t4Cn0Bf0DS00DImBqc0xB0T40c0fcFufXjpCBt1BHKd1Ft0Dk221Y1380ZEt0120B508CHF8Bp"]

/-- What is uppercase although it is no uppercase letter. -/
def otherUppercase : CharSet := .ofRuns [
  (0x2160, 0x216F), (0x24B6, 0x24CF), (0x1F130, 0x1F149), (0x1F150, 0x1F169), (0x1F170, 0x1F189)]

/-- What is mathematical although it is no mathematical symbol. -/
def otherMath : CharSet := setOf [
  "Cm0Yg210p111HRz0q2a0v3n1d1Bsc302134h03019002450211102052344C24130101000411313h1100060051I13En1",
  "00n0g0Mc1b844411124d00015n1Bk000s381Jh1u9L6lBq3v1CGCa00030Fu000CGEwCc0By011011130b00060Bs03170",
  "60r030400260Jf1o0o0u0o0u0o0u0o0u0o071BdGAf30q0100100903000050300000020100100000000001001306030",
  "300090g42040g"]

/-- What extends characters although it is no mark that takes no space. -/
def otherGraphemeExtend : CharSet := setOf [
  "CRa0n0Jx0n0Ct0n0Gf000310181Cu0n0Da0e0CNg0t0BCf0400041Cs0By1BD30EKo1BHDe0Cz0XMk1EYv0D70Hb0d080",
  "Cn080100240G70b0Go0H90Rk0b0BQq0WBp1BAQy065BGUZ8Cn"]

/-- What starts identifiers although it is no letter. -/
def otherIdStart : CharSet := .ofRuns [
  (0x1885, 0x1886), (0x2118, 0x2118), (0x212E, 0x212E), (0x309B, 0x309C)]

/-- What continues identifiers although it is no letter, mark or digit. -/
def otherIdContinue : CharSet := .ofRuns [
  (0xB7, 0xB7), (0x387, 0x387), (0x1369, 0x1371), (0x19DA, 0x19DA), (0x200C, 0x200D),
  (0x30FB, 0x30FB), (0xFF65, 0xFF65)]

/-- What can be ignored although it is no format character. -/
def otherDefaultIgnorable : CharSet := .ofRuns [
  (0x34F, 0x34F), (0x115F, 0x1160), (0x17B4, 0x17B5), (0x2065, 0x2065), (0x3164, 0x3164),
  (0xFFA0, 0xFFA0), (0xFFF0, 0xFFF8), (0xE0000, 0xE0000), (0xE0002, 0xE001F), (0xE0080, 0xE00FF),
  (0xE01F0, 0xE0FFF)]

end TrustSchema.Unicode
