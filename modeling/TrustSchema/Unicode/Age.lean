import TrustSchema.Unicode.Runs

/-!
# Ages

The age of a character is the version of Unicode in which it was assigned.
-/

namespace TrustSchema.Unicode

/-- The versions of Unicode that assigned characters. -/
def versions : List String := [
  "1.1", "2.0", "2.1", "3.0", "3.1", "3.2", "4.0", "4.1", "5.0", "5.1", "5.2", "6.0", "6.1", "6.2",
  "6.3", "7.0", "8.0", "9.0", "10.0", "11.0", "12.0", "12.1", "13.0", "14.0", "15.0", "15.1",
  "16.0"]

/-- The ages of all code points, by their places in the list of versions, counted from 1; 0 stands
for code points that are not assigned. -/
def ageTable : ValueTable := .ofLines [
  "1Nx431t4760704h728a9d1Cg44711Ba4019447g1Bx486077847211406ca311a101109210g003160010001j001B7a01",
  "6406110401040104010401h51607483401b401Bt401b401B4a04161431Bg6111611161901r41178111956f93afb1c1",
  "g7001B10116k01B2k0104001g1d0002g802c1990182082071q03k0140a73d0g0a4801078a410f0o08010c01pa41i42",
  "7285c01d611Bz4114401e401t711944704d004t724q01728tah4Bc600d9Bm01k2bB901be00cr01c000ja04ou00o104",
  "r0o7d0g0dag5h1o0i7n9oak0ieh0dqg0b012701Bgc11hb0c014b0c11oa1c4g0b1918091g01200170111011l0016001",
  "00213011070160111011280071003110014011kb0j1k00170107000150311011l00160011001100110110001403110",
  "11202a006130010061ea0k00912001670100012001l00160011001401190012001201100e10720119d07006h0j5001",
  "200170111011l001600110070130117a00111011206n01103110012a1011a70c509110015021200130211001000110",
  "21102120217801203140212001301a005100d801b7704g012k0170012001m0019g01401o0a01600120013061100a1h",
  "001o00111a1011906l0a7i0g011k0170012001m0019001401711600120013061105o01000119101190091p00bj0g01",
  "1n0170012001mc01fc0j1a015a000120013c0i003i210i6h011a10119a5i2a600n041004h024n00480040014602400",
  "3450040004705g901420b1Bl031s0B011001000l011l01000l010l513l016l01200100010l111l01cl012011400100",
  "015p000190111d10v2Bz002w40a1032qc3254020002k4226402042004e00a04081a2b3c10B04xa044a041a046a243a",
  "54paBrb3a11B100d004d0011B261811080d21Chb41Bvb41C9b546804Bq80400043014600400043014B280400043014",
  "u8040004301460040004301468046004m804u804000430146804B2804i01c1814r028p054Cch001h501b04Rhb84s02",
  "4C8g7066co066o008o06m086j0b6c006200610b4Ck7001490579054eo049054Cfk0064B5a004bBx097sg1007b037b0",
  "370027B501740a8B5b1038p0589b002817v8r0181bBq00bs01ba05b905bd01gen1od0Bc9C3o000r19B8o1r0aB6d2ab",
  "d5cBf07c3aBj02ae02aBei8r104kB601k2d707byd3j0g1l0047Cz8Cf96argej3o0i0c0b0911Ea20a31Cha51l011501",
  "1B101150117001000100010001u011Bg001e001d0115001i01120018001Ba401m6045647181608664a000f31660011",
  "q0084c7021a2030426183b2c0e0g2h0j0o00e1h41668093a00e1Bk4170806e8091a0b21Bb4090a3b0h1031Ci486b1",
  "Gp6d10401Dc40604t6Bf718a9bb0cag6i3j01B041r20l1a0k1Du6j701E5691C747671j716180401Cd416b8169778aa",
  "0b1718f90a9b2a3b9c0bic0b0c3bng013c013c11rc01yc010c013c210b016c1166d1uc21nc01dc08693d0a0d0c16ra",
  "36f4H36O77d8596a493aB4g2a4b4gp01gv00n0gxk2gbl0g7j0koh3kel08Bao08Bao09ca2b0a293a5b18Cyb6d1048B8",
  "00d004d0018Bhd10680c00dc08m0886008600860086008600860086008600av8na381aib0d9g6i1j4k4l0n2oa0x4p0",
  "04Cg0b4Fx0p4bq31Bj42624010001Cb610115611Cl60041B3a0j0k0001Cl001f4nc2n48fajr108q06f1s71001zbb70",
  "6e1r71801Bd6e1b731Bam01Da731Cq711u704HAtn97Br1WIl8la7b7d0h8jkk4nco24BGc024h614f604b6042604008b",
  "BbaIb0javc1ahd7arg5h0d0bCf078m93a491aCyc1h0c1d1gbc9d0g2i0k0g1h5k1l5o1l4n3r201o100o000o4r20ko2n",
  "1g0d1c0a48B7n002b9059Bj07aBwi007ab05brh1k1aCb0aa0bs02bC500ba03b1gu00aBi08ad01a901a3brg3bBu0nb4",
  "dm09c501c501c508c600c600gBbh3g1l1n303hC7bB901b9052LYb0bbm03bBc0CEz1HE5d16Bmb2018Cx0B1160b14044",
  "01o0014001000110011001Czcfo00f1K4of1Br011Bh06o05v1b6070o16f890513a2g6h11k617119001i00130312601",
  "0001Dq0110001Cl611Cl021501150115011202160016094230127b007p007i0071007e017d0x7De0472037B802788",
  "C2g1i100abn002g00BaaB90Dlas02aBc0egr035ug05308j25q04gB6047t00708z038d0B55B1715B17C7017905iz03i",
  "z03gB307gBf0ag0oa00oe00o600o100oa00oe00o600o102rBf0bgIm08gl09g70no500oB500o80Bw750170007B70071",
  "02700170bl00b8gBq07g80Bbhi00h104h49pb10290ap04a00BrdBj03h1d1hf01hB983008104870082008qk10182038",
  "8k0068806bvgv0vgB203gb08bBh02bs01bq04b7gh06g30bg60C7bC00BihBe0chBe06h5kB307k905rB102rs07r10Frb",
  "u00nB500n201n10fr20Bir0p2kB307kB50lop0B1nr0jlm08cC503cto508g0bBto009k001do06d905dBg00ddk2n007g",
  "B208dC0h3g0n1d9g0h400gj0agh00gB6i0p20Bph600h000h300he00ha05gBm04g905h0g200g701g101gl00g600g100",
  "g400k0g801g101g201h005g004g601g602g40ar900r001r000rB100r900r001r000r300r900r107r10siChn0i000i0",
  "k0l0n10tgBz07g90ElgBh01ghhj0xgBw0ag905ic0idBjl0o005d905rj0rhpk001he03hfo60F4kBn0CrgCa0bg0n601n",
  "001n700n100nt00n101nb08n90Bxl701lB901la0qjBz07jBfl1jmk0j40cofgBk06p90F1rx0dr905i800iB800id09is",
  "02iv01il00id0C0j600j100jB702j000j100j807j905k500k100kB000k100k506k90Ilko06pg00pB402prr00Ccn00e",
  "lBd0cl09YegB5h00Ct9Cqgb0093g00ahFf0CV7oCq0cbBDqp0l8ps09rEGy04hQ60HI0rBl0BW5cPs06gu00g903g1oC60",
  "0o905gt01g509gBx09g900g600gk04gi0LzrBl0FhkCi0CsdBwl503l0dBal806dg0Bri0j0l1n00an10diGO4k4l507i",
  "UynNe0B4r0n80JO6o300o600o100c1jHwo30ep00sl201p00dl307jKz0CM3gCy04gc02g806g901g70EF7rGx05rM30C3",
  "oB901om08oD70Bn5Gt095B201a05Ezhao10k8Bx0Ddpj0bkj0b7Ce089hk60Dq5Cc005By0051015001510153005b0050",
  "00537051005Bs005301570056005r0053005400500256005Jd81015I191015BdhS30eh400he0BEnou05p50Fwi600ig",
  "01i600i100i404pBp0wp00D3lB802ld01l903l10Ivou0glBl04l00MvpB50FxrB603r00Nbo600o300o100oe00gFg01g",
  "f0B4iC2l003i903i10VskBv0C3lBo0Fdd300dq00d100d001d000d900d300d000d005d003d000d000d000d200d100d0",
  "01d000d000d000d000d000d100d001d300d600d300d300d000d900dg04d200d400dg0Bfd10HhaB703aCr0bce01cdg0",
  "00ce00cegl09bag1n2buk0c0b0cab0c0b0c1b0c2b0c2b4c7b0c6b0c9d1l0n2c8b0c0b1c1b0c9b3c1b0c9ihn00Bjcpb",
  "0c10cbxc8i003b806c10dj50E9cwgbh2c5g0cBxg0h1cjgbcB0g0c4g3h4gbcgg6h7cBqg0c0g0cF1g0c3g1h0cBpg1d3g",
  "6h4cnghi0gB4i0gCdc4d0cfd0c2d0c0d0c0d0c0d0c2d0c5d1c3d0c0d1c3d0cbg1h1cagBbcBxg9h0i1j1l0n103p0o2g",
  "c02g3i2j1k0l0n102cD7p203p4gCck3p005lb03o00egb03gBj07g905gB307gt01n1r903r10Bpjbn0l2h8i5j0i7j7i0",
  "j1ibl0ibj0k2iejck4l0n0k3n1o0k0l0k3h4icj5kan1l5n2l1k9l5h0k1l7n0o0l2jmkolCb0bkd01l3n0p2l2o102l2n",
  "3p1r004r0l5nio3p2n6o3p2r0p0n2o2r006p1n6o2p1r001r0o7p0r005o6p106nE200nBirB0n90BCj215BTQen6o10vb",
  "EL8o3p005cG501hGE10djHZk0eqR90CQh5P10BPr21nFH604pEMf0CIGl210CSAd210CSAd210CSAd210CSAd210CSAd21",
  "0CSAd210CSAd210CSAd210CSAd210CSAd2100500t5Cn0Dj7Gn0CRMl2FKAx"]

/-- A version can be written with its number alone, or as `v` and the number without its point. -/
def isVersion (name version : String) : Bool :=
  name == version || name.toList == 'v' :: version.toList.filter (· != '.')

/-- The characters that were assigned up to a version. -/
def age? (name : String) : Option CharSet := do
  let index ← versions.findIdx? (isVersion name)
  return ageTable.set fun value => value != 0 && value ≤ index + 1

end TrustSchema.Unicode
