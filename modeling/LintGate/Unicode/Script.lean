/-
Scripts of characters.

The table lists the runs of code points of one script, in order from zero: the
length of the run in hexadecimal, then the two letters that stand for the script
here. A second table gives the names of each script, the short and the long one,
in lower case and without separators.
-/
import LintGate.Unicode.Category

set_option autoImplicit false

namespace LintGate.Unicode

/-- The runs of equal script. -/
def scriptText : String := String.join
  ["41AA1aAB6AA1aAB2fAA1ABfAA1AB5AA17AB1AA1fAB1AA1c1AB27AA5AB5AA2AC14AA70AD4AE1AA3AE2AF4AE1AA1AE",
   "4AF1AE1AA1AE1AA3AE1AF1AE1AF14AE1AF3fAEeAG10AE85AH2ADa9AH1AF26AI2AF32AI2AF3AI1AF37AJ8AF1bAJ4A",
   "F6AJbAF5AK1AA6AK1AAeAK1AA3AK1AA20AK1AAaAKbAD1aAK1AD6cAK1AA22AKeAL1AF3cAL2AF3AL30AK32AMeAF3bA",
   "N2AF3AN2eAO2AFfAO1AF1cAP2AF1AP1AFbAL5AF1fAK1AF2AK6AF4aAK1AA1dAK51AQ4ADfAQ2AA1aAQ4AR1AF8AR2AF",
   "2AR2AF16AR1AF7AR1AF1AR3AF4AR2AF9AR2AF2AR2AF4AR8AF1AR4AF2AR1AF5AR2AF19AR2AF3AS1AF6AS4AF2AS2AF",
   "16AS1AF7AS1AF2AS1AF2AS1AF2AS2AF1AS1AF5AS4AF2AS2AF3AS3AF1AS7AF4AS1AF1AS7AF11ASaAF3AT1AF9AT1AF",
   "3AT1AF16AT1AF7AT1AF2AT1AF5AT2AFaAT1AF3AT1AF3AT2AF1ATfAF4AT2AFcAT7AF7AT1AF3AU1AF8AU2AF2AU2AF1",
   "6AU1AF7AU1AF2AU1AF5AU2AF9AU2AF2AU2AF3AU7AF3AU4AF2AU1AF5AU2AF12AUaAF2AV1AF6AV3AF3AV1AF4AV3AF2",
   "AV1AF1AV1AF2AV3AF2AV3AF3AV3AFcAV4AF5AV3AF3AV1AF4AV2AF1AV6AF1AVeAF15AV5AFdAW1AF3AW1AF17AW1AF1",
   "0AW2AF9AW1AF3AW1AF4AW7AF2AW1AF3AW2AF1AW2AF4AW2AFaAW7AF9AWdAX1AF3AX1AF17AX1AFaAX1AF5AX2AF9AX1",
   "AF3AX1AF4AX7AF2AX6AF2AX1AF4AX2AFaAX1AF3AXcAFdAY1AF3AY1AF33AY1AF3AY1AF6AY4AF10AY2AF1aAY1AF3AZ",
   "1AF12AZ3AF18AZ1AF9AZ1AF1AZ2AF7AZ3AF1AZ4AF6AZ1AF1AZ1AF8AZ6AFaAZ2AF3AZcAF3aBA4AF1AA1cBA25AF2BB",
   "1AF1BB1AF5BB1AF18BB1AF1BB1AF17BB2AF5BB1AF1BB1AF7BB1AFaBB2AF4BB20AF48BC1AF24BC4AF27BC1AF24BC1",
   "AFfBC1AF7BC4AA2BC25AFa0BD26BE1AF1BE5AF1BE2AF2bBE1AA4BE100BF49BG1AF4BG2AF7BG1AF1BG1AF4BG2AF29",
   "BG1AF4BG2AF21BG1AF4BG2AF7BG1AF1BG1AF4BG2AFfBG1AF39BG1AF4BG2AF43BG2AF20BG3AF1aBG6AF56BH2AF6BH",
   "2AF280BI1dBJ3AF4bBK3AAbBK7AF16BL9AF1BL15BM2AA9AF14BNcAFdBO1AF3BO1AF2BOcAF5eBP2AFaBP6AFaBP6AF",
   "2BQ2AA1BQ1AA14BQ6AF59BQ7AF2bBQ5AF46BIaAF1fBR1AFcBR4AFcBR4AF1BR3AFcBR1eBS2AF5BSbAF2cBT4AF1aBT",
   "6AFbBT3AF2BT20BP1cBU2AF2BU3fBV1AF1dBV2AFbBV6AFaBV6AFeBV2AF1fAD31AF4dBW3AF2fBW1AF40BX34BY8AF4",
   "BY38BZ3AFfBZ3AF3BZ30CA9AH7AF2bBE2AF3BE8BX8AF3AD1AAdAD1AA7AD4AA1AD6AA1AD3AA2AD1AA5AF26AB5AE1A",
   "H31AB5AE4AB5AEdAB1AH46AB1AE40AD100AB16AE2AF6AE2AF26AE2AF6AE2AF8AE1AF1AE1AF1AE1AF1AE1AF1fAE2A",
   "F35AE1AFfAE1AFeAE2AF6AE1AF13AE2AF3AE1AF9AE1AFcAA2AD57AA1AFbAA1AB2AFbAA1ABfAA1AFdAB3AF21AAfAF",
   "21ADfAF26AA1AE3AA2AB6AA1AB1bAA1AB11AA29AB3AA4AF297AA19AFbAA15AF3a0AA100CB274AA2AF20AA1AF69AA",
   "60CC20AB74AG5AF7AG26BE1AF1BE5AF1BE2AF38CD7AF2CDeAF1CD17BG9AF7BG1AF7BG1AF7BG1AF7BG1AF7BG1AF7B",
   "G1AF7BG1AF7BG1AF20AH5eAA22AF1aCE1AF59CEcAFd6CE1aAFcAA4AF5AA1CE1AA1CE19AA9CE4AD2BF8AA4CE4AA1A",
   "F56CF2AF2AD2AA3CF1AA5aCG2AA3CG5AF2bAC1AF5eBF1AF10AA20AC24AAcAF10CG1fBF1AF40AA1fBF51AA2fCG1AA",
   "58CGa8AA19c0CE40AA5200CE48dCH3AF37CH9AF30CI12cCJ14AF60AH58CK8AF22AA66AB3AA40AB5AF2AB1AF1AB1A",
   "F5AB18AFeAB2dCL3AFaAA6AF38CM8AF46CN8AFcCN6AF20AQ2eCO1AA1CO24CPbAF1CP1dBF3AF4eCQ1AF1AAaCQ4AF2",
   "CQ1fBD1AF37CR9AFeCR2AFaCR2AF4CR20BD43CS18AF5CS17CTaAF6BG2AF6BG2AF6BG9AF7BG1AF7BG1AF2bAB1AA9A",
   "B1AE4AB2AA4AF50BH2eCT2AFaCT6AF2ba4BFcAF17BF4AF31BF2104AF16eCE2AF6aCE26AF7ABcAF5AI5AF1aAJ1AF5",
   "AJ1AF1AJ1AF2AJ1AF2AJ1AFaAJ73AK10AF16bAK2AA50AK2AF36AK7AF1AK20AF10AK10ADaAA6AFeAD2AH23AA1AF13",
   "AA1AF4AA4AF5AK1AF87AK2AF1AA1AF20AA1aAB6AA1aABbAAaCG1AA2dCG2AA1fBF3AF6BF2AF6BF2AF6BF2AF3BF3AF",
   "7AA1AF7AAaAF5AA2AFcCU1AF1aCU1AF13CU1AF2CU1AFfCU2AFeCU22AF7bCU5AF3AA4AF2dAA3AF9AA4fAE1AFdAA3A",
   "F1AE2fAF2dAA1AD82AF1dCV3AF31CWfAF1AD1bAA4AF24CX9AF3CX1bCY5AF2bCZ5AF1eDA1AF1DA24DB4AFeDB2aAF5",
   "0DC30DD1eDE2AFaDE6AF24DF4AF24DF4AF28DG8AF34DHbAF1DHbDI1AFfDI1AF7DI1AF2DI1AFbDI1AFfDI1AF7DI1A",
   "F2DI43AF137DJ9AF16DJaAF8DJ18AF6AB1AF2aAB1AF9AB45AF6DK2AF1DK1AF2cDK1AF2DK3AF1DK2AF1DK16DL1AF9",
   "DL20DM1fDN8AF9DN30AF13DO1AF2DO5AF5DO1cDP3AF1DP1aDQ5AF1DQ40AF20DR18DS4AF14DS2AF2eDS4DT1AF2DT5",
   "AF8DT1AF3DT1AF1dDT2AF3DT4AFaDT7AF9DT7AF20DU20DV20AF27DW4AFcDW9AF36DX3AF7DX16DY2AF8DY13DZ5AF8",
   "DZ12EA7AF4EAcAF7EA50AF49EB37AF33ECdAF33EC7AF6EC28ED8AFaED126AF1fAK1AF2aEE1AF3EE2AF2EE4bAF3AK",
   "28EF8AF2aEG16AF1aEH26AF1cEI14AF17EJ9AF4eEK4AF24EK9AF1EK43ELaAF1EL2AF19EM7AFaEM6AF35EN1AF12EN",
   "8AF27EO9AF60EP1AF14AZbAF12EQ1AF2fEQ3eAF7ER1AF1ER1AF4ER1AFfER1AFbER6AF3bES5AFaES6AF4ET1AF8ET2",
   "AF2ET2AF16ET1AF7ET1AF2ET1AF5ET1AF1AD9ET2AF2ET2AF3ET2AF1ET6AF1ET5AF7ET2AF7ET3AF5ET8bAF5cEU1AF",
   "5EU1eAF48EV8AFaEVa6AF36EW2AF26EW22AF45EXbAFaEX6AFdBQ13AF3aEY6AFaEY36AF1bEZ2AFfEZ4AF17EZb9AF3",
   "cFA64AF53FBcAF1FB7FC2AF1FC2AF8FC1AF2FC1AF1eFC1AF2FC2AFcFC9AFaFC46AF8FD2AF2eFD2AFbFD1bAF48FE8",
   "AF53FFdAF10BI39FG7AFaAQf6AF9FH1AF2dFH1AFeFHaAF1dFH3AF20FI2AF16FI1AFeFI49AF7FJ1AF2FJ1AF2cFJ3A",
   "F1FJ1AF2FJ1AF9FJ8AFaFJ6AF6FK1AF2FK1AF25FK1AF2FK1AF6FK7AFaFK136AF19FL7AF11FM1AF29FM3AF1cFM56A",
   "F1CIfAF32AVdAF1AV39aFN66AF6fFN1AF5FNbAFc4FNa4cAF63FOdAF456FPfaaAF247FQ21b9AF239CK7AF1fFR1AFa",
   "FR4AF2FR4fFS1AFaFS6AF1eFT2AF6FTaAF46FUaAFaFU1AF7FU1AF15FU5AF13FU2b0AF5bFV65AF4bFW4AF39FW7AF1",
   "1FW40AF1FX1FY2CE1FZbAF2CEeAF17f8FX8AF300FX1d6FZ2aAF9FX22e7AF4CG1AF7CG1AF2CG1AF1CG11fCF3CGfAF",
   "1CF1dAF3CF2AF1CGeAF4CG8AF18cFY904AF6bGA5AFdGA3AF9GA7AFaGA2AF4GA4AA125cAF2eAD2AF17AD9AF74AA3c",
   "AFf6AAaAF27AA2AF3eAA3AD11AA8AD2AA7AD1eAA4AD3dAA15AF46AE7aAF14AAcAF14AAcAF57AA9AF19AA87AF55AA",
   "1AF47AA1AF2AA2AF1AA2AF2AA2AF4AA1AFcAA1AF1AA1AF7AA1AF41AA1AF4AA2AF8AA1AF7AA1AF1cAA1AF4AA1AF5A",
   "A1AF1AA3AF7AA1AF154AA2AF124AA2AF32AA28cGBfAF5GB1AFfGB450AF1fAB6AF6ABd5AF7CC1AF11CC2AF7CC1AF2",
   "CC1AF5CC5AF3eAH21AF1AH70AF2dGC3AFeGC2AFaGC4AF2GC140AF1fGD11AF3aGE5AF1GE1d0AF2aGF2e6AF7BG1AF4",
   "BG1AF2BG1AFfBG1AFc5GG2AF10GG29AF4cGH4AFaGH4AF2GH311AF44AA4cAF3dAAc2AF4AK1AF1bAK1AF2AK1AF1AK2",
   "AF1AK1AFaAK1AF4AK1AF1AK1AF1AK6AF1AK4AF1AK1AF1AK1AF1AK1AF3AK1AF2AK1AF1AK2AF1AK1AF1AK1AF1AK1AF",
   "1AK1AF1AK1AF2AK1AF1AK2AF4AK1AF7AK1AF4AK1AF4AK1AF1AK1AFaAK1AF11AK5AF3AK1AF5AK1AF11AK34AF2AK10",
   "eAF2cAA4AF64AAcAFfAA2AFfAA1AFfAA1AF25AAaAFaeAA38AF1aAA1CF2AAdAF2cAA4AF9AA7AF2AAeAF6AA9aAF3d8",
   "AA4AF11AA3AFdAA3AF77AA4AF5fAA6AFcAA4AF1AAfAFcAA4AF38AA8AFaAA6AF28AA8AF1eAA2AF2AA4eAF154AAcAF",
   "eAA2AFdAA3AF9AA7AF2eAA1AF7AA8AFeAA4AF9AA7AF9AA7AF93AA1AF37AA25AFaAA406AFa6e0CE20AF103aCE6AFd",
   "eCE2AF1682CEeAF1d31CEc1fAF21eCE5e2AF134bCE5AF1060CEadc51AF1AA1eAF60AA80AFf0AD2fe10AF0AF"]

/-- The names of each script after its two letters. -/
def scriptNameText : String := String.join
  ["AA:common,zyyy AB:latin,latn AC:bopo,bopomofo AD:inherited,qaai,zinh AE:greek,grek AF:unknow",
   "n,zzzz AG:copt,coptic,qaac AH:cyrillic,cyrl AI:armenian,armn AJ:hebr,hebrew AK:arab,arabic A",
   "L:syrc,syriac AM:thaa,thaana AN:nko,nkoo AO:samaritan,samr AP:mand,mandaic AQ:deva,devanagar",
   "i AR:beng,bengali AS:gurmukhi,guru AT:gujarati,gujr AU:oriya,orya AV:tamil,taml AW:telu,telu",
   "gu AX:kannada,knda AY:malayalam,mlym AZ:sinh,sinhala BA:thai BB:lao,laoo BC:tibetan,tibt BD:",
   "myanmar,mymr BE:geor,georgian BF:hang,hangul BG:ethi,ethiopic BH:cher,cherokee BI:",
   "canadianaboriginal,cans BJ:ogam,ogham BK:runic,runr BL:tagalog,tglg BM:hano,hanunoo BN:buhd,buhid BO:t",
   "agb,tagbanwa BP:khmer,khmr BQ:mong,mongolian BR:limb,limbu BS:taile,tale BT:newtailue,talu B",
   "U:bugi,buginese BV:lana,taitham BW:bali,balinese BX:sund,sundanese BY:batak,batk BZ:lepc,lep",
   "cha CA:olchiki,olck CB:brai,braille CC:glag,glagolitic CD:tfng,tifinagh CE:han,hani CF:hira,",
   "hiragana CG:kana,katakana CH:yi,yiii CI:lisu CJ:vai,vaii CK:bamu,bamum CL:sylo,sylotinagri C",
   "M:phag,phagspa CN:saur,saurashtra CO:kali,kayahli CP:rejang,rjng CQ:java,javanese CR:cham CS",
   ":taiviet,tavt CT:meeteimayek,mtei CU:linb,linearb CV:lyci,lycian CW:cari,carian CX:ital,oldi",
   "talic CY:goth,gothic CZ:oldpermic,perm DA:ugar,ugaritic DB:oldpersian,xpeo DC:deseret,dsrt D",
   "D:shavian,shaw DE:osma,osmanya DF:osage,osge DG:elba,elbasan DH:aghb,caucasianalbanian DI:vi",
   "th,vithkuqi DJ:lina,lineara DK:cprt,cypriot DL:armi,imperialaramaic DM:palm,palmyrene DN:nab",
   "ataean,nbat DO:hatr,hatran DP:phnx,phoenician DQ:lydi,lydian DR:mero,meroitichieroglyphs DS:",
   "merc,meroiticcursive DT:khar,kharoshthi DU:oldsoutharabian,sarb DV:narb,oldnortharabian DW:m",
   "ani,manichaean DX:avestan,avst DY:inscriptionalparthian,prti DZ:inscriptionalpahlavi,phli EA",
   ":phlp,psalterpahlavi EB:oldturkic,orkh EC:hung,oldhungarian ED:hanifirohingya,rohg EE:yezi,y",
   "ezidi EF:oldsogdian,sogo EG:sogd,sogdian EH:olduyghur,ougr EI:chorasmian,chrs EJ:elym,elymai",
   "c EK:brah,brahmi EL:kaithi,kthi EM:sora,sorasompeng EN:cakm,chakma EO:mahajani,mahj EP:shara",
   "da,shrd EQ:khoj,khojki ER:mult,multani ES:khudawadi,sind ET:gran,grantha EU:newa EV:tirh,tir",
   "huta EW:sidd,siddham EX:modi EY:takr,takri EZ:ahom FA:dogr,dogra FB:wara,warangciti FC:diak,",
   "divesakuru FD:nand,nandinagari FE:zanabazarsquare,zanb FF:soyo,soyombo FG:pauc,paucinhau FH:",
   "bhaiksuki,bhks FI:marc,marchen FJ:gonm,masaramgondi FK:gong,gunjalagondi FL:maka,makasar FM:",
   "kawi FN:cuneiform,xsux FO:cpmn,cyprominoan FP:egyp,egyptianhieroglyphs FQ:anatolianhieroglyp",
   "hs,hluw FR:mro,mroo FS:tangsa,tnsa FT:bass,bassavah FU:hmng,pahawhhmong FV:medefaidrin,medf ",
   "FW:miao,plrd FX:tang,tangut FY:nshu,nushu FZ:khitansmallscript,kits GA:dupl,duployan GB:sgnw",
   ",signwriting GC:hmnp,nyiakengpuachuehmong GD:toto GE:wancho,wcho GF:nagm,nagmundari GG:mend,",
   "mendekikakui GH:adlam,adlm"]

/-- The start of each run with its script. -/
def scriptTable : Array (Nat × Char × Char) := (readRuns scriptText.toList 0 0).toArray

/-- The names of the scripts with their letters. -/
def scriptNames : List (String × Char × Char) :=
  (scriptNameText.splitOn " ").flatMap fun entry =>
    match entry.toList with
    | a :: b :: ':' :: names => ((String.ofList names).splitOn ",").map fun name => (name, a, b)
    | _ => []

/-- The letters that stand for a character's script. -/
def script (c : Char) : Option (Char × Char) := runLabel scriptTable c.toNat

/-- The letters of the script of that name, given in lower case and without separators. -/
def scriptNamed? (name : String) : Option (Char × Char) := scriptNames.lookup name

end LintGate.Unicode
