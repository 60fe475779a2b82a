import TrustSchema.Unicode.Runs

/-!
# Scripts

Most characters belong to one script. Some are used with a few scripts and belong to one of them or
to none; their script extensions are the scripts they are used with. The script of a character that
is used with many scripts is `common`, that of a mark that takes on the script of what it is written
on is `inherited`.
-/

namespace TrustSchema.Unicode

/-- The names of each script. -/
def scriptNames : List String := [
  "common zyyy", "arabic arab", "latin latn", "ethiopic ethi", "greek grek", "inherited zinh qaai",
  "han hani", "tamil taml", "gurmukhi guru", "grantha gran", "bengali beng", "gujarati gujr",
  "hangul hang", "katakana kana", "oriya orya", "kannada knda", "sinhala sinh", "telugu telu",
  "lao laoo", "tulutigalari tutg", "cyrillic cyrl", "georgian geor", "hebrew hebr",
  "divesakuru diak", "kharoshthi khar", "vithkuqi vith", "linearb linb", "malayalam mlym",
  "masaramgondi gonm", "tibetan tibt", "cypriot cprt", "glagolitic glag", "gunjalagondi gong",
  "hiragana hira", "mongolian mong", "devanagari deva", "duployan dupl", "limbu limb",
  "multani mult", "pahawhhmong hmng", "taitham lana", "armenian armn", "bhaiksuki bhks", "cham",
  "cuneiform xsux", "khmer khmr", "myanmar mymr", "newtailue talu", "nyiakengpuachuehmong hmnp",
  "syriac syrc", "tangut tang", "adlam adlm", "ahom", "bopomofo bopo", "brahmi brah",
  "canadianaboriginal cans", "cherokee cher", "coptic copt qaac", "garay gara", "hatran hatr",
  "javanese java", "kawi", "khitansmallscript kits", "lepcha lepc", "lineara lina", "marchen marc",
  "meeteimayek mtei", "meroiticcursive merc", "miao plrd", "mro mroo", "nandinagari nand",
  "oldhungarian hung", "psalterpahlavi phlp", "signwriting sgnw", "tagbanwa tagb", "tifinagh tfng",
  "yezidi yezi", "avestan avst", "balinese bali", "bamum bamu", "bassavah bass", "batak batk",
  "buginese bugi", "caucasianalbanian aghb", "chakma cakm", "egyptianhieroglyphs egyp",
  "hanifirohingya rohg", "imperialaramaic armi", "inscriptionalpahlavi phli",
  "inscriptionalparthian prti", "kaithi kthi", "kayahli kali", "khojki khoj", "khudawadi sind",
  "lisu", "lydian lydi", "mandaic mand", "manichaean mani", "mendekikakui mend", "modi",
  "nabataean nbat", "newa", "nko nkoo", "nushu nshu", "olonal onao", "olditalic ital",
  "oldpersian xpeo", "osage osge", "osmanya osma", "phoenician phnx", "rejang rjng", "runic runr",
  "samaritan samr", "saurashtra saur", "siddham sidd", "sorasompeng sora", "sundanese sund",
  "sunuwar sunu", "tagalog tglg", "taile tale", "taiviet tavt", "takri takr", "tangsa tnsa", "thai",
  "tirhuta tirh", "ugaritic ugar", "wancho wcho", "warangciti wara", "yi yiii",
  "anatolianhieroglyphs hluw", "braille brai", "buhid buhd", "carian cari", "chorasmian chrs",
  "cyprominoan cpmn", "deseret dsrt", "dogra dogr", "elbasan elba", "elymaic elym", "gothic goth",
  "gurungkhema gukh", "hanunoo hano", "kiratrai krai", "lycian lyci", "mahajani mahj",
  "makasar maka", "medefaidrin medf", "meroitichieroglyphs mero", "nagmundari nagm", "ogham ogam",
  "olchiki olck", "oldnortharabian narb", "oldpermic perm", "oldsogdian sogo",
  "oldsoutharabian sarb", "oldturkic orkh", "olduyghur ougr", "palmyrene palm", "paucinhau pauc",
  "phagspa phag", "sharada shrd", "shavian shaw", "sogdian sogd", "soyombo soyo",
  "sylotinagri sylo", "thaana thaa", "todhri todr", "toto", "vai vaii", "zanabazarsquare zanb"]

/-- The scripts of all code points, by their places in the list of names, counted from 1; 0 stands
for code points of no script. -/
def scriptTable : ValueTable := .ofLines [
  "1Bs3p153p1Ba301e30143m103u103Mg1B23414Bi11j6D3531052015310500350105010520050005j005BqBmd5flDo6",
  "1lEo00B6B101B6Bd01B6200nBi07nq03n50a241025102d1022102v10296a2p602Cz102xBed00BeBn01Be22BbEmBd0d",
  "CvBm01Cv2D5B901D5e00Cpr01Cp000Bea042u0021042C2102sB0C863B0e11B0pb300b701b101bl00b600b002b301b8",
  "01b101b307b003b100b401bo019200950391019l00960091009100910190009403910192029006930090069g09c200",
  "c800c200cl00c600c100c401c900c200c201c00ec301cb06c600f200f701f101fl00f600f100f401f801f101f206f2",
  "03f100f401fh098100850282008302810080008102810282028b038402820083018005800d8k04ic00i200im00if01",
  "i800i200i306i100i201i001i301i906i8gc00g200gm00g900g401g800g200g306g105g100g301g900g20bsc00s200",
  "sBe00s200s503sf01sp00h200hh02hn00h800h001h602h003h500h000h705h901h20bDgBl0310Dgr0B0j100j000j40",
  "0jn00j000jm01j400j000j600j901j30vuBz00uz03uB200uz00ue00u613u10B0BbEfmB100m004m001mB610m3dH34C0",
  "0043014600400043014B40043014w0043014600400043014e004Bk0043014Bu014v024p05BlCd01Bl501BkRrE6s02",
  "D4C212D4a06Dbl08Db0Dyk1108Doj0bC3c00C3200C310bBaCl01Ba905Ba905z111z010zj05zCg06zB604BkBx09B2u0",
  "0B2b03B2b03B2002B2bDct01Dc40aBcB703Bcp05Bca02Bc1BavCbr01Cb1B5Bq00B5s01B5a05B5905B5d016u0BcC7C4",
  "00C7BdD9BrCaBf07Ca3BsBj02Bse02Bs2E7Bbla04mB601m2D970762106c106613601560126110043B154l03Bc54335",
  "43cl03Bx506Br3H35l0155015B101550157005000500050005u015Bg005e005d0155005i01520058001b611Ce001a3",
  "0011a301e003c021w0e6w0e1B150123115301q301g3B412031Sh0l1a0k1ZrDnH31Rf011v001CwwCn3vBmD704Bm6mB1",
  "00m004m001C4Bj06C410dC404m0846004600460046004600460046004600lv1Cl0x7p007Cg0b7Fx0p1k7010701o786",
  "3d117731300yCd016111y210eCh11e204BiB600dCl001fBiv1B10810efdu001Brdu1C8eBa10eCf1En7HB31Br7WL3Dl",
  "BGc02DlBi08CnBbEpIb0jlCnC8Cf071x3Ct123Bu0131003000370k3dElB8021905EgBj07D6Bx07D6b05B0vCkB910Ck",
  "0D3z0aD30ds02BpC50010Bp903Bp1Bbu00B8Bi08B8d01B8901B83BbvDdBu0nDd4Bvm09450145014508460046003B61",
  "03850331103BlC7BvB901Bv905dLYb0bdm03dBc0JAr7K5017Cx0B1360bB6404np00n400n000n100n100n92D60f2K21",
  "12C7012Bh06200v2f6f19056dl11y001i00130324002Dq0110001v3p153p1ae910eB811du02d501d501d501d202160",
  "016091401rb00rp00ri00r100re01rd0xrDe0412031B802185C6001c02500Ba1B8600DlE0s02DpBc0e601q03Cyz08",
  "Cy2Dwq04E9B604Dit00Di0Czz03Czd0B5DsC7EiBbD1t01D1905D0z03D0z03DuB307CcBf0aCc0qa00qe00q600q100qa",
  "00qe00q600q102EnBf0bBtIm08Btl09Bt70n35003B500380Bwv501v000vB700v102v001v0Cgl00Cg8EevCtu07Ct80",
  "BbBoi00Bo104Bo4D2r02D20Cop04Co00BrE4vBwn03Bwj01BwB9p300p104p700p200ps01p203p906p806EbvE8v0vCq",
  "B203Cqb08C6Bh02C66Cil01Ci7Chi04Ch7C1h06C130bC160C7EcC00BiC0Be0cC0Be06C05CfB307Cf905BnB102Bns07",
  "Bn10Fr2u00C5B500C5201C510f220Bi23EaB307EjB50lEdp0B1Dqr0jDvm08BjC503Bjz08Bj0CjBu09Cj001D8o06D89",
  "05CdBg00Cdh07E1B208EhCn00hj0aClh00ClBa0BpB3600B3000B3300B3e00B3a05CmBm04Cm905a300a701a101al00a",
  "600a100a40060a801a101a201a005a004a601a602a40ak900k001k000kB100k900k001k000k300k900k107k10sCuCj",
  "00Cu40tDhBz07Dh90ElD7Bh01D7B10xCsBw0aCs905zc0iDeBl05De905Bbj0rBhq01Bhe03Bhm0F4DtBn0CrDkCa0bDk0",
  "o601o001o700o100ot00o101ob08o90BxBz701BzB901Bza0qEqBz07EkCa0cBkfEfBk06B090F1Dax0dDa905B7800B7",
  "B800B7d09B7s02Buv01Bul00Bud0C0t600t100tB702t000t100t807t905x500x100xB000x100x506x90IlE2o06Bqg0",
  "0BqB402Bqs0CcCn00e8Bd0c80B9Zl0CtB9D200B940aB9Ff0CV7DrCq0cCeBEt09CeEGy04DmQ60HI0DxBl0BW5C8Ps06",
  "Byu00By903By1DfC600Df905C9t01C9509B4Bx09B4900B4600B4k04B4i0LzDzBl0FhE3Ci0CsBxC203BxBk06Bxg0Br",
  "Bf0Cw071Br00a710dBfGOf07BfVbBrN10B4Br0Bf80JO6e300e600e100e0yHye20ey00sy201e00de307CwKz0CM3B1Cy",
  "04B1c02B1806B1901B13130EF71Gx051M30C36B9016m081D70Bn1Gt091B2011Bp621g6711661t631Bo0k5Bx0Dd1j0b",
  "1j0b1Ce081o0Dq1Cc001By0011011001110113001b00100016001Bs001301170016001r0013001400100216001Jf01",
  "1I3011BdC2S30eC2400C2e0BEn3u05350Fww600wg01w600w100w404lBp0wl00D3BdB802Bdd01Bd903Bd10IvEou0gDj",
  "Bl04Dj00MvE5B50FxCxB603Cx00Nb4600430041004e00CrFg01Crf0B4BgC303Bg903Bg10Vs1Bv0C31Bo0Fd23002q00",
  "2100200120002900230020002005200320002000200022002100200120002000200020002000210020012300260023",
  "002300200029002g04220024002g0Bf210Hh1B7031Cr0b1e011e001e001B0091Et0Bj1py0110c1B7031806110d150",
  "E91BBb031g021c021Da031Cm051b03100e1b031Bj0719051B3071t011b03110Bp1Jf0b1d011c0219041Bj061e011a0",
  "518061E2001Ct0BCl7BTQn0v7ELd057G5017GE10d7HZk0e7R90CQh7P10BPt7FH6047EMf0BDGL4100t1Cn0Dj6Gn0",
  "IBNj"]

/-- The lists of scripts with which characters are used, by places in the list of names. -/
def extensionLists : List (List Nat) := [
  [4], [2], [20, 152], [20, 31], [20, 2], [1, 102, 86, 49, 165, 76], [1, 49, 165],
  [51, 1, 102, 86, 49, 165, 76], [51, 1, 96, 97, 156, 72, 86, 162, 49], [1, 49], [1, 165, 76],
  [1, 86], [10, 35, 9, 11, 8, 15, 2, 27, 14, 160, 7, 17, 124],
  [10, 35, 9, 11, 8, 15, 2, 27, 14, 7, 17, 124],
  [10, 35, 136, 32, 28, 9, 11, 8, 15, 144, 27, 70, 14, 93, 16, 164, 121, 7, 17, 124],
  [10, 35, 136, 32, 28, 9, 11, 8, 15, 37, 144, 27, 70, 14, 93, 16, 164, 121, 7, 17, 124],
  [35, 136, 90, 144], [10, 84, 164], [8, 38], [11, 92], [9, 7], [15, 70], [84, 46, 119], [21, 2],
  [131, 141, 74, 118], [34, 159], [10, 35, 9, 15], [35], [35, 9], [10, 35], [35, 160],
  [35, 15, 27, 14, 7, 17], [35, 70], [10, 35, 9, 15, 70, 14, 17, 124], [35, 9, 15], [10], [70],
  [20, 49], [49], [2, 34], [35, 9, 2], [53, 12, 6, 33, 13, 128], [53, 12, 6, 33, 13], [6], [53, 6],
  [33, 13], [6, 33, 13], [6, 2], [35, 136, 11, 8, 92, 15, 90, 144, 27, 99, 70, 93, 121, 124],
  [35, 136, 11, 8, 92, 15, 90, 144, 99, 70, 93, 121, 124],
  [35, 136, 11, 8, 92, 90, 144, 99, 93, 121, 124], [35, 7], [91, 2, 46], [82, 60], [1, 102],
  [1, 165], [134, 30, 26], [30, 26], [30, 64, 26], [1, 57], [97, 156], [36]]

/-- The characters that have script extensions of their own, by places in the list of these, counted
from 1. -/
def extensionTable : ValueTable := .ofLines [
  "0X51001100s2c0Hm304051400Kr600d607001800v9009aa09b905a00Cqc00Rnd0e00gf0g0h90D9i90D9j90D9k90Gtl",
  "d0Gpm90Xjn90Ewo00BS8p10Fmq100q00BI1r0s0r0t0s0u1v0u0v0w0s0v1s1v0u0s6x0u0s1u0s3y0t0z0u1B00t1B100",
  "Fg110BhB2000B300PnB400FbB500DQp400McB61B7001B8000B6900B70B67B7309B9301B70Ba400B7003Bb1B810CgBa",
  "302Ba00ChB60Ba00E2B8f0vB8z0BnB8B30BjB8Bc0eB8b0BeB800CfB8o09B840CnB8u0BFHr400DzBc70I7Bd2Be2Bf30",
  "F2u000Bg00BlBh00EfBi00WV9Bj10ExBk009Bk00ByB710HtB6409Ba00B8Ba10JrBl1Bm003BnB802Bm80LjBor0CElBp",
  "00CF9l000l00Bil10DLel100l00BQWzBq30GFnB8h0ILhB810BONZx"]

/-- The place of a script in the list of names. -/
def scriptIndex? (name : String) : Option Nat :=
  scriptNames.findIdx? fun names => (names.splitOn " ").contains name

/-- The characters of a script. -/
def script? (name : String) : Option CharSet := do
  let index ← scriptIndex? name
  return scriptTable.set fun value => value == index + 1

/-- The characters that are used with a script: those that have it among their script extensions,
and those of the script that have no script extensions of their own. -/
def scriptExtensions? (name : String) : Option CharSet := do
  let index ← scriptIndex? name
  let own := extensionTable.set fun value => value != 0
  let among := extensionTable.set fun value =>
    value != 0 && (extensionLists[value - 1]?.getD []).contains index
  return ((scriptTable.set fun value => value == index + 1).diff own).union among

end TrustSchema.Unicode
