import TrustSchema.Unicode.Category
import TrustSchema.Unicode.Listed

/-!
# Upper and lower case

Case folding maps characters that differ only by case to the same character. Only folding to single
characters is considered here. `CharSet.foldCase` completes a set by all characters that fold to the
same ones as its members.
-/

namespace TrustSchema.Unicode

/-- Runs of characters that are folded alike. Each one is given by the distance of its first
character from that of the run before, the number of further characters, one less than the distance
between neighbours in the run, and what the first character is folded to. -/
def foldRuns : List Nat := numbers [
  "Btp0CpD800BAkbm0G8o60GwB4n1H5Be21Ij771Iqhm1J7Ba00H3121Ki600D7200Qj111Kr400Qk100Kw210Qm200L0300",
  "N9100Qp100Qr100L6200Qw100Qz200R5100R4100Ld400Rb100Re200Rh121Ll600Rs100Ls200Rv300Lx200S0100M021",
  "0S2211M4400Sa100M9400Md800Mm100Mm200Mp100Mp200Ms181Msj81Nbj00Nv111Nv400L9100Mf1j1O1B400Li281P7",
  "o00MDp100Pw200Le100MDq300Q2200Ko100S1100S4141Q7H300BAhB711Yh600Yn900BC3700BA4220BA5400BB0210",
  "BB13g0BA9i80BArv00BArd00BBb100BAa100BAg400BAu100BAo2b1BBdo00BAi100BAp300BAg100BAd200BC8200BC21",
  "00BCb320Yr3f0BEogv0BDsC8g1BF5B6q1BGbBi00BI7161BHufBb1BI9CpB10BM9DDbB10MI0B300MJ3600MJ9Wj50FLs",
  "CIo00BDu100BDw100BE6110BE9200BEa100BEi100BF7100BTMj100HUy7B60EPkB920EQtIzC21IFdEb00II1300G72Bb",
  "1IJtCw70IMgg50IMwg70INcg70INsg50IO8h31IOpf70IP4w70IQ0g70IQgg70IQwg10IRc210IPk200IRf200BAha30",
  "IPm400IRv700Zc510IS8210IPq900BA8510ISo210IPu200IStc10IPs210IPw200IT7Ia00BAx400Cz100Gd700JCuBaf",
  "0JDsz00JEcWrp0KBsBZuBb0MC8Co00MDl200R7100IBp100Rp321MDs600Qh100Rd100Qg100Qi200ME3300ME6910Pz2",
  "Bd1MEhCz11MHg700MHnBHEmm1BTM9Bsd1BTO1Ei61BTSjgu1BTSzBz11BTUy400IBl141BTV3d00BTVg200R1311BTVl69",
  "1BTVrk00R2100Qs100Qx100R8100R6200Sm100Rz100Sl100BUWb171BTWlg00BTVo100Ru100IC6111BTX4400R0100",
  "BTX9400BTXd621BTXj600Lfp00BTYeYrC70FJkVTx00CQR2BD8p0CRV5BInB30CTE0Ewz0CTIwFca0CTO7ce0CTOjg60",
  "CTOz810CTP7BX8Be0CVN4Fsl0CVS0DCgv0CYUgXKwv0DWFcBHOwx0FDUa"]

/-- The characters of a run with what they are folded to. -/
def foldRun (first target more step : Nat) : List (Nat × Nat) :=
  (List.range (more + 1)).map fun i => (first + i * step, target + i * step)

/-- The characters that are folded to others, with what they are folded to. -/
def foldPairs (previous : Nat) : List Nat → List (Nat × Nat)
  | distance :: more :: gap :: target :: runs =>
    foldRun (previous + distance) target more (gap + 1) ++ foldPairs (previous + distance) runs
  | _ => []

/-- The characters that are folded to others, and what they are folded to. -/
def folding : List (Char × Char) :=
  (foldPairs 0 foldRuns).map fun (c, d) => (Char.ofNat c, Char.ofNat d)

/-- The characters that are folded to others. -/
def folded : CharSet := CharSet.unionAll (folding.map fun (c, _) => .single c)

/-- The characters that others are folded to. -/
def foldTargets : CharSet := CharSet.unionAll (folding.map fun (_, d) => .single d)

/-! ## Cased characters -/

/-- Lowercase characters. -/
def lowercase : CharSet := (ofCategories [.lowercaseLetter]).union otherLowercase

/-- Uppercase characters. -/
def uppercase : CharSet := (ofCategories [.uppercaseLetter]).union otherUppercase

/-- Characters that have a case. -/
def cased : CharSet := (lowercase.union uppercase).union (ofCategories [.titlecaseLetter])

/-- What is folded but not changed in lower case, or the other way round. -/
def lowercaseExceptions : CharSet := .ofRuns [
  (0xB5, 0xB5), (0x130, 0x130), (0x17F, 0x17F), (0x345, 0x345), (0x3C2, 0x3C2), (0x3D0, 0x3D1),
  (0x3D5, 0x3D6), (0x3F0, 0x3F1), (0x3F5, 0x3F5), (0x13A0, 0x13F5), (0x13F8, 0x13FD),
  (0x1C80, 0x1C88), (0x1E9B, 0x1E9B), (0x1FBE, 0x1FBE), (0x1FD3, 0x1FD3), (0x1FE3, 0x1FE3),
  (0xAB70, 0xABBF), (0xFB05, 0xFB05)]

/-- What is folded to but not changed in upper case, or the other way round. -/
def uppercaseExceptions : CharSet := setOf [
  "F10De0m0Bg0Bw01010z000Jd0Df0c121o120L40DW7Cd15CIh8Ok5Ez0000000Bc777771000013000200001304111920",
  "190000130BMDmC7VRj5c4"]

/-- What is changed in just one of title and upper case. -/
def titlecaseExceptions : CharSet := .ofRuns [
  (0x1C4, 0x1C5), (0x1C7, 0x1C8), (0x1CA, 0x1CB), (0x1F1, 0x1F2), (0x10D0, 0x10FA),
  (0x10FD, 0x10FF), (0x1F88, 0x1F8F), (0x1F98, 0x1F9F), (0x1FA8, 0x1FAF), (0x1FBC, 0x1FBC),
  (0x1FCC, 0x1FCC), (0x1FFC, 0x1FFC)]

/-- What full folding changes and simple folding does not, or the other way round. -/
def foldExceptions : CharSet := .ofRuns [
  (0xDF, 0xDF), (0x130, 0x130), (0x149, 0x149), (0x587, 0x587), (0x1E9A, 0x1E9A), (0x1F80, 0x1F87),
  (0x1F90, 0x1F97), (0x1FA0, 0x1FA7), (0x1FB2, 0x1FB4), (0x1FB7, 0x1FB7), (0x1FBE, 0x1FBE),
  (0x1FC2, 0x1FC4), (0x1FC7, 0x1FC7), (0x1FD3, 0x1FD3), (0x1FE3, 0x1FE3), (0x1FF2, 0x1FF4),
  (0x1FF7, 0x1FF7), (0xFB00, 0xFB04), (0xFB06, 0xFB06), (0xFB13, 0xFB17)]

/-- Characters that change in lower case. -/
def changesWhenLowercased : CharSet := folded.symmDiff lowercaseExceptions

/-- Characters that change in upper case. -/
def changesWhenUppercased : CharSet := foldTargets.symmDiff uppercaseExceptions

/-- Characters that change in title case. -/
def changesWhenTitlecased : CharSet := changesWhenUppercased.symmDiff titlecaseExceptions

/-- Characters that change under full folding. -/
def changesWhenCasefolded : CharSet := folded.symmDiff foldExceptions

/-- Characters that change in one of the cases. -/
def changesWhenCasemapped : CharSet :=
  (changesWhenLowercased.union changesWhenUppercased).union changesWhenTitlecased

end TrustSchema.Unicode

namespace TrustSchema.CharSet

/-- The folding that is in force: without Unicode, only ASCII letters have a case. -/
def foldingFor (unicode : Bool) : List (Char × Char) :=
  if unicode then Unicode.folding else Unicode.folding.filter fun (c, _) => c.isUpper

/-- The set with all characters that equal a member up to case. -/
def foldCase (unicode : Bool) (s : CharSet) : CharSet :=
  let folding := foldingFor unicode
  let targets := folding.filterMap fun (c, d) => if s.contains c then some (single d) else none
  let s := s.union (unionAll targets)
  let sources := folding.filterMap fun (c, d) => if s.contains d then some (single c) else none
  s.union (unionAll sources)

end TrustSchema.CharSet
