import TrustSchema.Unicode.Runs

/-!
# General categories

Each code point has one of thirty general categories. The categories have names of two letters, of
which the first one names a group, and long names. The table is that of Unicode 16.0.
-/

namespace TrustSchema.Unicode

/-- The general categories. -/
inductive Category
  | uppercaseLetter | lowercaseLetter | titlecaseLetter | modifierLetter | otherLetter
  | nonspacingMark | spacingMark | enclosingMark
  | decimalNumber | letterNumber | otherNumber
  | connectorPunctuation | dashPunctuation | openPunctuation | closePunctuation
  | initialPunctuation | finalPunctuation | otherPunctuation
  | mathSymbol | currencySymbol | modifierSymbol | otherSymbol
  | spaceSeparator | lineSeparator | paragraphSeparator
  | control | format | surrogate | privateUse | unassigned
  deriving DecidableEq

/-- The categories of all code points, by their places in the list of categories. -/
def categoryTable : ValueTable := .ofLines [
  "pvm0h2j0h2d0e0h0i0h0c0h189h1i2h10pd0h0e0k0b0k01pd0i0e0i0pwm0h0j3l0h0k0l040f0i0q0l0k0l0i0a1k010",
  "h1k0a040g0a2h00mi0061ni01700100010001000100010001000100010001000100010001000100010001000100010",
  "0010001000100010001000100010001000100010001100100010001000100010001000100011001000100010001000",
  "1000100010001000100010001000100010001000100010001000100010001000100010001001100010001201100010",
  "0110021103100110021201100110001000100110001100100110021000100111400012430020100020100020100010",
  "0010001000100010001000100011001000100010001000100010001000100011002010001002100010001000100010",
  "0010001000100010001000100010001000100010001000100010001000100010001000100010001000100010001000",
  "1000160110011100100310001000100010001Bw401q3hk33bkd34k630k030kg5D30010001030k00010t13012h000t3",
  "k100h002t000t001100gt0081y001102120010001000100010001000100010001000100010001000140010i0001001",
  "110Be1Bb00100010001000100010001000100010001000100010001000100010001000100010l05471001000100010",
  "0010001000100010001000100010001000100010001000100010001000100010001000100010001000100010001000",
  "1001100010001000100010001000110010001000100010001000100010001000100010001000100010001000100010",
  "0010001000100010001000100010001000100010001000100010001000100010001000100010001000100010001000",
  "1000100010001000100010001000100010t00B1t130h51B4h0c0t1l1j0t05B8c050h051h051h050t74qt343h1taq5i",
  "2h1j0h1l15ah0q0h24v30495k89h341504Cqh04056q0l0553151l053418942l140hdt0q040504t5qt14Cg5a40td894",
  "w5831l0h230t150j14l53305830523054t1het04o52t1h0t04at44nk045t0q1t4584B4305nq05v604Bh50605040625",
  "763506140564951h189h0304e5061t047t141t14lt046t040t243t150406253t161t1615040t760t341t04251t1894",
  "1j1a5l0j040h050t15160t045t341t14lt046t041t041t041t150t06251t351t152t250t643t040t689514250h0t95",
  "160t048t042t04lt046t041t044t150406254t05160t06150t140te4151t189h0j0t64055t05061t047t141t14lt04",
  "6t041t044t1504060506053t161t16150t65160t341t04251t189l040a5t95040t045t242t043t241t040t041t241t",
  "242t24bt3615061t262t06250t140t560td89a2l5j0l0t450625047t042t04mt04ft150405263t052t053t651t042t",
  "140t14151t189t6h0a6l0405061h047t042t04mt049t044t15040605064t05061t06151t661t541t04151t189t0416",
  "0tb516148t042t04B451406253t062t0625040l0t34260a64251t189a8l045t05061t04ht24nt048t040t146t250t3",
  "6252t050t067t589t161h0tb4Bb504156t3j0453057h089h1tB041t040t044t04nt040t04950415840t144t030t056",
  "t089t143tv40l2hel0h0l251l589a9l050l050l050d0e0d0e06147t04zt35d6054h051445at05zt0l750l5t0l1h4l3",
  "h1tB04B661536055605161514089h545615143524062416642534c50615165504060896250l10B1t000t400t11B6h0",
  "30124J4t043t146t040t043t14B4t043t14wt043t146t040t043t14et04Bkt043t14But152h8ajt24fl9t50Cdt115t",
  "1c04R7l0h04gm04pd0e0t24C2h29247t64h5260t84i5160h1t84h51tb4ct042t051tb4Bf5160566750615ah230h2j0",
  "4050t189t5a9t5h5c0h352q05089t54y304Bgt644514x5040t44Bxt94ut052635162t361506552t3l0t2h1894tt144",
  "ta4B7t34pt589a0t2lx4m516150t1h14Bg60506056t050605061576559t15089t589t5h630h5t15d705ftBc53604Ba",
  "506054605064506147t0h189h6l958l8h251604t60536151605241894B75060516250605261t7h34z67576151t2h48",
  "9t242894t35h1180010t40B6t102h7t752h05c60564350455041605140t41B73Bq1c301x3B05Br0010001000100010",
  "0010001000100010001000100010001000100010001000100010001000100010001000100010001000100010001000",
  "1000100010001000100010001000100010001000100010001000100010001000100010001000100010001000100010",
  "0010001000100010001000100010001000100010001000100010001000100010001000100010001000100010001000",
  "1800100010001000100010001000100010001000100010001000100010001000100010001000100010001000100010",
  "0010001000100010001000100010001000100010001000100010001000100010001000100010001000100010001000",
  "10001000180715t105t11707170715t105t117t000t000t000t00017071dt117271727172714t0110320k010k212t0",
  "110320k213t11103t0k21704k2t112t0110320k1t0maq4c5h1f0g0d0f1g0d0f0h7n0o0q4m0h8f0g0h3b1h2i0d0e0ha",
  "i0h0b0h9m0q4t0q9a030t1a5i2d0e030a9i2d0e0t03ct2jwte5c7350725btel100l300l11002110210l000l1i004l5",
  "00l000l000l003l01003104310l11101i40013l0i0l110l0af9y001093a0l1t3i4l4i1l3i0l1i0l1i0l6i0lui1l1i0",
  "l0i0luiHfl7d0e0d0e0lji1l6d0e0lC8i0ltiolB3i5lBztllatkaBnlC5allF2i0l8i0lBhi7lD2i0lGvd0e0d0e0d0e0",
  "d0e0d0e0d0e0d0e0atlB7i4d0e0iud0e0d0e0d0e0d0e0d0e0iflH3iDmd0e0d0e0d0e0d0e0d0e0d0e0d0e0d0e0d0e0d",
  "0e0d0e0iBqd0e0d0e0ivd0e0iH5lBbikl1i5lB2t1lvt0lCw0Bb1Bb0010021100100010001003100011001531021000",
  "1000100010001000100010001000100010001000100010001000100010001000100010001000100010001000100010",
  "0010001000100010001000100010001000100010001000100010001000100010001000100010001000100010001000",
  "100011l500100010520010t4h3a0h11B1t010t410t14Bjt630h0td504mt846t046t046t046t046t046t046t046t05v",
  "h1f0g0f0g0h2f0g0h0f0g0h8c0h1c0h0f0g0h1f0g0d0e0d0e0d0e0d0e0h430h9c1h3c0h0d0hcl1h2d0e0d0e0d0e0d0",
  "e0c0txlpt0lCgtblFxtplfm0h2l0304090d0e0d0e0d0e0d0e0d0e0l1d0e0d0e0d0e0d0e0c0d0e1l0985361c034l192",
  "3040h0l1t04Cdt151k13140c04Chh03240t44B6t04Clt0l1a3l94vlB1t8l04flut0a9lta7l0aelva9lB2aelIv4HB3l",
  "Br4WLo304BFqt2lBit84B335h14Hf30h24f8941tj00100010001000100010001000100010001000100010001000100",
  "010001000100010001000100010001000100010405072h059h03000100010001000100010001000100010001000100",
  "01000100010001031514Bx9951h5t7km38k10010001000100010001000100012001000100010001000100010001000",
  "1000100010001000100010001000100010001000100010001000100010001000100010001000100010001000100010",
  "3017001000100110001000100010001030k10010001040001000120010001000100010001000100010001000100010",
  "041004100010001000100010001000100010031000100110t10010t010t01000100010001000tk3200104031104650",
  "425043504m615160l350t2a5l1j0l0t54Bfh3t7614Bd6f51t7h189t55h45h240h04150894r57h14m5a61tah04st252",
  "604Ba506153615162hct03089t3h1445030488944t04B45561516151t84250475060t189t1h34f3045l2406050604",
  "Bd50405241514451405040tn4130h14a605161h140316050t945t145t145t846t046t01B6k0331830k1t31C74y6150",
  "615061h06050t189t54LYbtb4mt34Bct3rCEvsGVr4K5t14CxtB116tb14t4405049i04ct044t040t041t041t04Czkgt",
  "f4K2e0d0lf4Brt14Bht6l0tv4bj0l25fh6d0e0h0t55fh0c1b1d0e0d0e0d0e0d0e0d0e0d0e0d0e0d0e0h1d0e0h3b2h2",
  "t0h3c0d0e0d0e0d0e0h2i0c0i2t0h0j0h1t344t04Dqt1q0t0h2j0h2d0e0h0i0h0c0h189h1i2h10pd0h0e0k0b0k01pd",
  "0i0e0i0d0e0h0d0e0h149304B8314ut245t145t145t142t2j1i0k0l0j1t0l0i3l1t9q2l1t14bt04pt04it041t04et1",
  "4dtx4Det4h2t3aB8t2l89Bga3lga1l2t0lct2l0tBalB850tDl4st24Bcte50aqt34va3t84j904790t44B154t44tt0h0",
  "4zt347h094tB50B31B34C5t189t50zt31zt34B3t74Bftah00at00et006t001t01at01et016t011t24Bftb4Imt84lt9",
  "47tn35t03B5t038tBw45t140t04B7t041t240t14mt0h0a74ml1a64ut7a8tBb4it041t4a44la5t2h04pt4h0tBr4Bjt3",
  "a141aft1aB94052t051t45343t042t04st152t350a8t6h8t64sa1h04sa2tv47l04r51t3a4h6t84Bht2h64lt1a74it4",
  "a74ht6h3tba6tC74C0tBi0Betc1Bet6a54z53t789t5894330400lt254c0301lt7i1tFraut04B5t051c0t141tf42tBi",
  "534sa940t74l5aa3h4tl4h53h3tB14ka6tj4mt86050604Bg5eh6t3aj8950415140t852604B862536151h1q0h350t9q",
  "0t14ot689t5524z546057t089h3406140t74y50h140t851604Bb62586143h353h060508940h040h2t0ajta4ht04o62",
  "5261506051h5504150tBp46t040t043t04et049h0t54Ba506257t489t55161t047t141t14lt046t041t044t0514061",
  "5063t161t162t140t560t44461t156t254ta49t040t140t04B1t0406255t060t160t063t061506050405040h1t0h1t",
  "751ts4Bg62576152605043h489h1t0h05042tt4Bb625560506351605141h040t789tEl4Ba6253t163516051hm4351t",
  "x4Bb625761506051h240ta89t5hcti4B65060506155605040h0t589t58jtr4qt15261536054t389a1h2l046tF44B76",
  "2586051h0tCr0v1v89a8tb47t140t147t041t04n65t061t15160504060406050h2t889tBx47t14B26253t151635040",
  "h04060tq40594B355604053h750t7405561524B95c6051h240h4tc4C0t6h9tF14wh0td89t548t04B06056t05560504",
  "0h4t989ait2h14tt15lt0605660516051tC046t041t04B155t250t051t0564050t789t545t041t04v64t051t061506",
  "05040t689tIl4i5161h1t65140604ct04x6154t261506050hc8950tCc40teakl7j3lgtch04ZltCt9D2t0h4ta4Fft",
  "CV74Coh1tc4BDrqf50455et94EGyt44Q6tHI04t5b625289tBW54Pst64ut089t3h14C6t089t54tt154h0t94Bb56h4l3",
  "33h0l0t989t0a6t04kt44itLz324B331h289tFh0v1vamh3tCs4C2t350406Bit6533ctBr31h03050ta61td4GOft74",
  "BIdtB449tJO633t036t031t04I2te40ts42t140td43t74KztCM34Cyt44ct248t649t1l051h0q3tEF7lGn89t5lM3tC3",
  "5B9t15mt8lD7tBnlGtt9lB2t1lBn6152l265q757l156lt53lBotklBt52l0tDdajtbajtblCet8aotDq0p1p0p16t01h0",
  "p1p00t001t100t101t103t00713t010t016t01a0p1p01t003t107t006t01p01t003t004t000t206t01p0p1p0p1p0p1",
  "p0p1p0p1p0p1rt10oi01oi0150oi01oi0150oi01oi0150oi01oi0150oi01oi0150010t18BdlO75Bil35Bdl750ld50l",
  "1h4te54t05etBEn19401jt515tFw56t05gt156t051t054t43Bptw50tD34B8t25636t189t340l0tIv4t50tg4B75389t",
  "4j0tMv4q305389tFx4t514089t3h0tNb46t043t041t04et04Fgt1a856tB40x1x5630t389t3h1tVsaBml0a2j0a3tC3a",
  "B8l0aetFd43t04qt041t040t140t049t043t040t040t540t340t040t040t042t041t040t140t040t040t040t040t04",
  "1t040t143t046t043t043t040t049t04gt442t044t04gtBfi1tHhlB7t3lCrtblet1let0let0lB0t9aclEgtBjlstcl",
  "B7t3l8t6l1tdl5tE9lGyk4lU7t3lgt2lct2lDat3lCmt5lbt3l0telbt3lBjt7l9t5lB3t7ltt1lbt3l1tBplJftbldt1l",
  "ct2l9t4lBjt6let1lat5l8t6lE2t0lCj89tBCl4BTQntv4ELdt54G5t14GE1td4HZkte4R9tCQh4P1tBPt4FH6t44EMft",
  "BDGL4q0ttqCntDj5GntCRMnsCSAdt1sCSAdt1"]

/-- The characters that have one of some categories. -/
def ofCategories (categories : List Category) : CharSet :=
  categoryTable.set fun value => categories.any fun category => category.ctorIdx == value

namespace Category

/-- The categories of letters that are written in either case. -/
def casedLetters : List Category := [uppercaseLetter, lowercaseLetter, titlecaseLetter]

/-- The categories of letters. -/
def letters : List Category := casedLetters ++ [modifierLetter, otherLetter]

/-- The categories of marks, which are written on other characters. -/
def marks : List Category := [nonspacingMark, spacingMark, enclosingMark]

/-- The categories of numbers. -/
def numbers : List Category := [decimalNumber, letterNumber, otherNumber]

/-- The categories of punctuation. -/
def punctuation : List Category := [
  connectorPunctuation, dashPunctuation, openPunctuation, closePunctuation, initialPunctuation,
  finalPunctuation, otherPunctuation]

/-- The categories of symbols. -/
def symbols : List Category := [mathSymbol, currencySymbol, modifierSymbol, otherSymbol]

/-- The categories of separators. -/
def separators : List Category := [spaceSeparator, lineSeparator, paragraphSeparator]

/-- The categories of all else. Surrogates are no characters. -/
def others : List Category := [control, format, privateUse, unassigned]

/-- The categories and their groups, each with its names. -/
def names : List (List String × List Category) := [
  (["l", "letter"], letters), (["lc", "casedletter"], casedLetters),
  (["lu", "uppercaseletter"], [uppercaseLetter]), (["ll", "lowercaseletter"], [lowercaseLetter]),
  (["lt", "titlecaseletter"], [titlecaseLetter]), (["lm", "modifierletter"], [modifierLetter]),
  (["lo", "otherletter"], [otherLetter]),
  (["m", "mark", "combiningmark"], marks), (["mn", "nonspacingmark"], [nonspacingMark]),
  (["mc", "spacingmark"], [spacingMark]), (["me", "enclosingmark"], [enclosingMark]),
  (["n", "number"], numbers), (["nd", "decimalnumber", "digit"], [decimalNumber]),
  (["nl", "letternumber"], [letterNumber]), (["no", "othernumber"], [otherNumber]),
  (["p", "punctuation", "punct"], punctuation),
  (["pc", "connectorpunctuation"], [connectorPunctuation]),
  (["pd", "dashpunctuation"], [dashPunctuation]), (["ps", "openpunctuation"], [openPunctuation]),
  (["pe", "closepunctuation"], [closePunctuation]),
  (["pi", "initialpunctuation"], [initialPunctuation]),
  (["pf", "finalpunctuation"], [finalPunctuation]),
  (["po", "otherpunctuation"], [otherPunctuation]),
  (["s", "symbol"], symbols), (["sm", "mathsymbol"], [mathSymbol]),
  (["sc", "currencysymbol"], [currencySymbol]), (["sk", "modifiersymbol"], [modifierSymbol]),
  (["so", "othersymbol"], [otherSymbol]),
  (["z", "separator"], separators), (["zs", "spaceseparator"], [spaceSeparator]),
  (["zl", "lineseparator"], [lineSeparator]), (["zp", "paragraphseparator"], [paragraphSeparator]),
  (["c", "other"], others), (["cc", "control", "cntrl"], [control]), (["cf", "format"], [format]),
  (["co", "privateuse"], [privateUse]), (["cn", "unassigned"], [unassigned])]

end Category

/-- The ASCII characters. -/
def ascii : CharSet := .run 0 127

/-- The characters whose general category has a name. Some further sets are named as if they were
categories. -/
def generalCategory? (name : String) : Option CharSet :=
  match name with
  | "any" => some .all
  | "ascii" => some ascii
  | "assigned" => some (ofCategories [.unassigned]).complement
  | _ => (Category.names.find? fun entry => entry.1.contains name).map fun entry =>
    ofCategories entry.2

end TrustSchema.Unicode
