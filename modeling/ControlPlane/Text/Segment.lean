import ControlPlane.Text.Packed

/-!
# Break properties

The grapheme cluster, word and sentence break properties of every code point, as in the Unicode
character database (version 16.0): runs of code points, each with the index of its value in the
property's list of values. `Other` is the value of every code point not listed otherwise, and
has no set of its own.
-/

namespace ControlPlane
namespace Segment

/-- A property given by runs: its values and its table. -/
structure Table where
  values : List String
  runs : List (Nat × Nat × Nat)

/-- The code points with the named value; none for a value the table does not have or for
`Other`. -/
def Table.set? (t : Table) (value : String) : Option CharSet :=
  if value = "Other" then none else
  (t.values.idxOf? value).map fun i =>
    CharSet.ofSorted (t.runs.filterMap fun (lo, hi, v) => if v = i then some (lo, hi) else none)

def grapheme : Table where
  values := [
    "Control", "LF", "CR", "Other", "Extend", "Prepend", "SpacingMark", "L",
    "V", "T", "ZWJ", "LV", "LVT", "Regional_Indicator"]
  runs := Packed.runs (String.join [
    "A0112012I0YV3X10D310oI3ZG4eJ374e73XD41314132413241314XO365A3B41310XE3L4G314Z537415136423241344X1",
    "3151314U3R4YR3B4XQ3949314O344139413341354XB334XK3255394XA3O415X0416XM31416141336844614261374A324",
    "T31426XO3141314264423262326149314A324Q314232416XO314133624432423343314U3243314B32416XO3141336541",
    "32416132614K324M364131426XO3141324164423262326147334A324U314XR31416142633361336149314X83143614XN",
    "314133446133413447324B324T31426XO314131624161426133413447324B324F316C32426XN32413142644133613361",
    "4158314A324T31426Y6314431426341314137614I326XT314131674C384Z2314131694B374Y9324R314131413144326X",
    "H3E41654132453B413X449314Z6344166413242624N326244334G344D3141316246314F314Z23Z07Y88YO9gT334zI344",
    "S334T324U324Y03241674861426B49314XD3341014ZL324X2314ZM3344624364326146634cR3242614XP316141674131",
    "41314238466A42314XG3V4XH34416XF3A44634X6394C32416U316442664XO314162436141654XG386842624aO33413D4",
    "167443146314231624c63Y04mB310141A20O370XH3G0Z03X14Y/U334aD314Z03X04nA364Z9324zkK34413A4X0324YG32",
    "4eG31433144314N32624164314YJ326XI3G624Q3I4D314X6384P3B41614C3T7333416XF314264426242614X4314Y3364",
    "26242624C314831416XE314XJ3141334232453241314X93162426531614dC32614261426131614I31BRC1BRC1BRC1BRC",
    "1BRC1BRC1BRC1BRC1BRC1BRC1BRC1BRC1BRC1BRC1BRC1BRC1BRC1BRC1BRC1BRC1BRC1BRC1BRC1BRC1BRC1BRC1BRC1BRC",
    "1BRC1BRC1BRC1BRC1BRC1BRC1BRC1BRC1BRC1BRC1BRC1BRC1BRC1BRC1BRC1BRC1BRC1BRC1BRC1BRC1BRC1BRC1BRC1BRC",
    "1BRC1BRC1BRC1BRC1BRC1BRC1BRC1BRC1BRC1BRC1BRC1BRC1BRC1BRC1BRC1BRC1BRC1BRC1BRC1BRC1BRC1BRC1BRC1BRC",
    "1BRC1BRC1BRC1BRC1BRC1BRC1BRC1BRC1BRC1BRC1BRC1BRC1BRC1BRC1BRC1BRC1BRC1BRC1BRC1BRC1BRC1BRC1BRC1BRC",
    "1BRC1BRC1BRC1BRC1BRC1BRC1BRC1BRC1BRC1BRC1BRC1BRC1BRC1BRC1BRC1BRC1BRC1BRC1BRC1BRC1BRC1BRC1BRC1BRC",
    "1BRC1BRC1BRC1BRC1BRC1BRC1BRC1BRC1BRC1BRC1BRC1BRC1BRC1BRC1BRC1BRC1BRC1BRC1BRC1BRC1BRC1BRC1BRC1BRC",
    "1BRC1BRC1BRC1BRC1BRC1BRC1BRC1BRC1BRC1BRC1BRC1BRC1BRC1BRC1BRC1BRC1BRC1BRC1BRC1BRC1BRC1BRC1BRC1BRC",
    "1BRC1BRC1BRC1BRC1BRC1BRC1BRC1BRC1BRC1BRC1BRC1BRC1BRC1BRC1BRC1BRC1BRC1BRC1BRC1BRC1BRC1BRC1BRC1BRC",
    "1BRC1BRC1BRC1BRC1BRC1BRC1BRC1BRC1BRC1BRC1BRC1BRC1BRC1BRC1BRC1BRC1BRC1BRC1BRC1BRC1BRC1BRC1BRC1BRC",
    "1BRC1BRC1BRC1BRC1BRC1BRC1BRC1BRC1BRC1BRC1BRC1BRC1BRC1BRC1BRC1BRC1BRC1BRC1BRC1BRC1BRC1BRC1BRC1BRC",
    "1BRC1BRC1BRC1BRC1BRC1BRC1BRC1BRC1BRC1BRC1BRC1BRC1BRC1BRC1BRC1BRC1BRC1BRC1BRC1BRC1BRC1BRC1BRC1BRC",
    "1BRC1BRC1BRC1BRC1BRC1BRC1BRC1BRC1BRC1BRC1BRC1BRC1BRC1BRC1BRC1BRC1BRC1BRC1BRC1BRC1BRC1BRC1BRC1BRC",
    "1BRC1BRC1BRC1BRC1BRC1BRC1BRC1BRC1BRC1BRC1BRC1BRC1BRC1BRC1BRC1BRC1BRC1BRC1BRC1BRC1BRC1BRC1BRC1BRC",
    "1BRC1BRC1BRC1BRC1BRC1BRC1BRC1BRC1BRC1BRC1BRC1BRC1BRC1BRC1BRC1BRC1BRC1BRC1BRC1BRC1BRC1BRC1BRC1BRC",
    "1BRC1BRC1BRC1BRC1BRC1BRC1BRC1BRC1BRC1BRC1BRC1BRC1BRC1BRC1BRC1BRC1BRC1BRC1BRC1BRC1BRC1BRC1BRC1BRC",
    "1BRC1BRC1BRC1BRC1BRC1BRC1BRC1BRC1BRC1BRC1BRC1BRC1BRC1BRC1BRC1BRC1BRC1BRC1BRC1BRC1BRC1BRC1BRC1BRC",
    "1BRC1BRC1BRC1BRC1BRC1BRC1BRC1BRC1BRC1BRC1BRCC3N843XH9ev2314t13G4G3G4cF310aU324YG3C0m1314d2314aL3",
    "54Xq633413245344X83344314b5324nT344Y1354fT324YF344Y63B4XH344ZQ3161416XL3F4X93142324A33416XD33644",
    "262423154314A315XI334X43541684G326XC314C32416XG33694161413255344131614YS33634264463142314aT31436",
    "84L32426XN324131416144623262326149314A32623743354Y33142664131423141334161326341514E324YI33684263",
    "41614N314YH31426641614261416241624dB31426442346241624R324YI3368426141624ZA31416142684Z5314161423",
    "441654e0336941624dL31456132623441516151614aD33644232446143316S3A4X8364161344831493642634X8365D41",
    "624iL3167413641614YI3M413167416241624ZQ3643314132413741514Y235613241326141614gR3242693241516XG32",
    "654332634N314bcL3G01463F4hc83C43634Yk0354XR374nC3183348l431413XN67344YH314B324pbB3241340aoS3XE42",
    "3N4mU354336480842374U344aK334XzR3XN443XI48314E314M35413F4XgG37413H4237413241354Z4314b0374hN314XT",
    "344lS344dU324t0374ZD374YaR3QDlR354uZW03X00Z04a00dG4ZmG0byW03"])

def word : Table where
  values := [
    "Other", "LF", "Newline", "CR", "WSegSpace", "Double_Quote", "Single_Quote", "MidNum",
    "MidNumLet", "Numeric", "MidLetter", "ALetter", "ExtendNumLet", "Format", "Extend", "Hebrew_Letter",
    "ZWJ", "Katakana", "Regional_Indicator"]
  runs := Packed.runs (String.join [
    "A0112213I014101540164017101810A91A1750QB401C10QBA012X401B201D701B101A1B101B50NB10VB10l0B60X2BZGE",
    "5B102B204B171B601B1A3B101B10KB10YJB10aBB107Eb6B10X6B204B101B1AX9B171B60XDE101E102E102E101E80RF40",
    "4F1B1AB069602720BE101D30XBBLEA9101917102B1EZ3B101B7E19106E2B2E104E2BA93B201BF02B1EUBRE20YPBBE1BE",
    "0A9X1B9E2B2017101B201E20MB4E1B9E1B3E1B5EI0PB3E40BB50OB106B1029509EXABOE19X1EXMB3E1BIE1B7EAB2E20A",
    "910GB3E108B202B20MB107B101B304B201E1B7E202E203E1B801E402B103B2E20A92BA01B101E203E106B402B20MB107",
    "B102B102B102B201E105E402E203E301E704B101B70A92E3B1EB03E109B103B10MB107B102B105B201E1B8E103E103E2",
    "01BF02B2E20A9901B6E103E108B202B20MB107B102B105B201E1B7E202E203E703E402B103B2E20A9101BG01E1B106B3",
    "03B104B302B101B102B302B303B30CB405E303E104E201B601EE0A9G05E8B103B10NB10GB201E1B7E103E104E702E103",
    "B201B202B2E20A9G01B3E108B103B10NB10AB105B201E1B7E103E104E702E602B102B2E20A9102B1EC04E9B103B10X9B",
    "2E1B7E103E104E1B503B1E703B2E20A9A06B103E10IB30OB109B101B207B301E406E101E108E60A9202EXT01E207EC08",
    "E10A9YN01E209EB07E10A9X601BN02E60A9B01E101E101E402E8B10X4B40KE102E5BBE10X4E901EZ40KE10A9C04E403E",
    "103E207E304ED0CE101EA94E20X6B101B501B20XBB10gDB104B207B101B104B20X9B104B20X1B104B207B101B104B20F",
    "B10XPB104B20Y3B203EX00GBG0YMB206B30pCB20HB14QB50YBB30BB70IB4E90JB3EB0IB2EC0DB103B102EY00X0E901E2",
    "0A9X103E1D1EA960YPB705B2EX2B1E1B50Y6BA0VB10CE40CEA0A9a00B9X50NB5EXP0AE10TE201EA960A9M0VEXH05EXFB",
    "HE8B30A9H09EC03EUBDE2BA9XCBEEC0X4BKE80A9303BA9X4B20BB50XBB203BG03E10LE4B1E6B1E2B3E1B50c0BY0EeMB2",
    "06B20X6B206B208B101B101B101B10VB20XLB107B101B303B107B304B206B40DB503B107B30741034101E1G2D8028A01",
    "8201A225D1CF02C3017F01CA0145D10AD101BD01BG0DBXJ0X1EH01B401B20AB101B305B601B101B101B104B10BB204B5",
    "05B401BH0X9BvD0XKBXuM0d5B604B3E2BC0X6B101B501B20XOB701BF01ENB907B107B107B107B107B107B107B107B10X",
    "0EXF01BkG014401BX406E105H502BYS02E2H30YRH104H50XBB10YUBH0X0BXG0GHcG0XFH10YOHxb80XaDBY30XEB20eDB3",
    "0GBA92BK0XFB4E10AE10VB2EYGB2EM0c6B202B101B108BL0GB1E3B1E4B1ENB5E401EJ0XKBC02EXIBIEA0A960IE6B301B",
    "102B1EA9SB8E20NBDEC0TB304EXFBEEE01BA9B01EA0A960X9BEE903B1E8B2E20A9X103EXI01E103E202E502E101EU0BB",
    "5E203B2EA06B206B206B907B107B10XQB60ZJB8E102E20A960gz4BC0NB40XHBeu407BC05B501F1EAF10DF105F101F102",
    "F102F10AFZ2BX10hBBI0Y0B20XMBX80CB40GE301AC0GE302CO03C17101810171AQ05B10a7B201D70184017101810A91A",
    "1750QB401C10QBB0XOH2EVB306B206B206B203BS03D40CB10QB10JB102B10FB20EBX20ZRBY50XLBa801Ea20TB30XHBF0",
    "1EV0X0BD0UB50X6B5E50UB20X4B408B105BXA0aUB20A960X4B40X4B40X8B80XKBC0BB10FB107B102B10BB10FB107B102",
    "B30XKBC0fNB90MBA08BO06B10XAB109BY506B201B10XCB102B301B20NBA0NB90VBY10JB102BA0MBA0QBY60XOB602BY00",
    "1B3E102E504E4B103B10TB203E401EX00TB30TBX308B10SB2EP0XMBA0MBA0JBD0IBZE0Y9BXN0XJBD0XJBD0X4B4E80A96",
    "0A9SB305E10NBdQ0XAB102E302BG03BXN04ETBA01B80MBBEV0IB4EXA0LBR0NB903EXLBFEV0A91E2B2E1B904EXDBBE201",
    "9401EA01920PB70A9603EX4BEE10A9401B2E1B80X3B1E201B903EXGBEE4B404E102EA91B101BX30IB10PBCE601E2B1EX",
    "U07B101B104B10FB10AB70XFBCE50A9604E108B202B20MB107B102B105B102E1B7E202E203E201B601E505B2E207E305",
    "EB0AB101B201B10X6B101B9E101E201E104E105E1B1E1BD02ET0XLBIE4B50A9401E3BU0XGBKE2B101B80A9b60XFB7E20",
    "9EN04B2EX20XGBHE301BB0A9X60XBBDE1B70A960K9XP0FE40A9c60XCBFEZ50Y0BA9L08B201B208B102B10OB6E102E204",
    "E1B1E1B2EC0A9Y608B20X7B7E207E1B101B1ER01BAEX8B7E1B4E801E801BBEXEBGE301BI0Y9Bc70X1BF0A9609B10X5B8",
    "E108E1BF0A9O0UB20ME10EEY907B102B10X6B6E301E102E107E1B1E80A9606B102B10X0B5E102E105E1B70A9fM0JB4E9",
    "02E1B1EDB10X2B7E305ED0A91EYL01BYF0yQBZ60ZFBH0c4BYoC0Z1BF0XXGBGD1E6BFEA0ZyRB50o7BcrP0UBIEA9Xs60nP",
    "B70VB10A960YFB10A960UB205EB0XGB7E904BC0A990LB50JBjG0XDB30A9c60Y0Ba00YBB401E1BXNE704EDBY002B101B1",
    "EB02El/U04H107H102H101HeV03HXI01HE04HYqO0ZBB50DB309B70AB302E104DaYC0A9m60XEE20NEmU05E306E8D8E207",
    "EU04EaK03EjR0YLB10Y7B102B201B202B204B10CB101B107B10Y1B104B208B107B10SB104B105B101B307B10gKB20PB1",
    "0PB10VB10PB10VB10PB10VB10PB10VB10PB108B20XI9m00XNE40XIE801EE01EM05E10FEXYG0VB606BcL07E10HE207E10",
    "2E105E50XUBX101EZG0XDB307E7B20A9401Bg10UB1EH0XCB4EA9kM0SB4EA9cM0UB2E1BA9l507B104B102B10FB10c5BB0",
    "7EX90Y4B7E1B40A9Xb604B10RB102B101B201B10AB104B101B101B601B401B101B101B103B102B101B201B101B101B10",
    "1B101B102B101B204B107B104B104B101B10AB10HB503B105B10HBpK0QB60QB60QBYS0QIlR05EX/G0A9uXW701DU0Z0Ea",
    "00dGEb/mG0"])

def sentence : Table where
  values := [
    "Other", "Sp", "LF", "CR", "STerm", "Close", "SContinue", "ATerm",
    "Numeric", "Upper", "Lower", "Sep", "Format", "OLetter", "Extend"]
  runs := Packed.runs (String.join [
    "9011122113I0111415403520261710A826301410Q915101530QA151015701BQ011901A15101C701A401A1540N91079OA",
    "108A191A191A191A191A191A191A191A191A191A191A191A191A191A191A191A191A191A191A191A191A191A191A191A",
    "191A191A191A191A192A191A191A191A191A191A191A191A192A191A191A191A191A191A191A191A191A191A191A191A",
    "191A191A191A191A191A191A191A191A191A191A191A191A291A191A193A291A191A291A392A491A291A393A291A291A",
    "191A191A291A192A191A291A391A191A292A1D193A4D291A291A291A191A191A191A191A191A191A191A192A191A191A",
    "191A191A191A191A191A191A192A291A191A391A191A191A191A191A191A191A191A191A191A191A191A191A191A191A",
    "191A191A191A191A191A191A191A191A191A191A191A191A191A191A197A291A292A191A491A191A191A191A19Y5A1DX",
    "4A7D2A40CDE05A701D101DH0ZGE191A191A1D10191A204A161960191039101910291AH91099X3A192A393A191A191A19",
    "1A191A191A191A191A191A191A191A191A195A191A10191A292AXJ9XGA191A191A191A191A191A191A191A191A191A19",
    "1A191A191A191A191A191A191A191A107E191A191A191A191A191A191A191A191A191A191A191A191A191A191A191A19",
    "1A191A191A191A191A191A191A191A191A191A191A191A291A191A191A191A191A191A192A191A191A191A191A191A19",
    "1A191A191A191A191A191A191A191A191A191A191A191A191A191A191A191A191A191A191A191A191A191A191A191A19",
    "1A191A191A191A191A191A191A191A191A191A191A191A191A191A191A191A191A191A191A10X69201D301620X9A1470",
    "XDE101E102E102E101E80RD405DC068602620BE101C34XBDLEA81028102D1EZ3D141D7E18106E2D2E104E2DA83D201D3",
    "4C01C1D1EUDRE20YPDBE1DE0A8X1D9E2D2016141D201E20MD4E1D9E1D3E1D5E90141014302410PD3E40BD50OD106D102",
    "8509EXADOE18X1EXMD3E1DIE1D7EAD2E24A810GD3E108D202D20MD107D101D304D201E1D7E202E203E1D801E402D103D",
    "2E20A82DA01D101E203E106D402D20MD107D102D102D102D201E105E402E203E301E704D101D70A82E3D1EB03E109D10",
    "3D10MD107D102D105D201E1D8E103E103E201DF02D2E20A8901D6E103E108D202D20MD107D102D105D201E1D7E202E20",
    "3E703E402D103D2E20A8101DG01E1D106D303D104D302D101D102D302D303D30CD405E303E104E201D601EE0A8G05E8D",
    "103D10ND10GD201E1D7E103E104E702E103D201D202D2E20A8G01D3E108D103D10ND10AD105D201E1D7E103E104E702E",
    "602D102D2E20A8102D1EC04E9D103D10X9D2E1D7E103E104E1D503D1E703D2E20A8A06D103E10ID30OD109D101D207D3",
    "01E406E101E108E60A8202ED0XGD1E2D7E507D8E10A8X702D101D105D10OD101D10AD1E2D9E1D205D101D107E10A8204",
    "DX001DN02E60A8B01E101E101E452E8D10X4D40KE102E5DBE10X4E901EXP0XBDKE1DA824406D4E4D3E1D3E2D7E3D4EDD",
    "CE1D1EA84E20X691019501920XBD101AgCD104D207D101D104D20X9D104D20X1D104D207D101D104D20FD10XPD104D20",
    "Y3D203E20144024N0GDG0YM9206A30pCD1014HD11QD2530YBD30BD70ID4E90JD3E2490ID2EC0DD103D102EC0XKDX0E24",
    "101D401D1E20A8O01614401614103E1C1EA860YPD705D2EX2D1E1D50Y6DA0VD10CE40CE8024A8UD205DB0XCD40QD60B8",
    "X50ND5E40XLDAE10TE201EA860A8D01D4440VEXH05EXFDHE8D1024A8242024B09E90343EUDDE2DA8XCDEEC0X4DKE3024",
    "30A8303DA8X4D249A191A50XBD203DG03E10LE4D1E6D1E2D3E1D50c0AY0E191A191A191A191A191A191A191A191A191A",
    "191A191A191A191A191A191A191A191A191A191A191A191A191A191A191A191A191A191A191A191A191A191A191A191A",
    "191A191A191A191A191A191A191A191A191A191A191A191A191A191A191A191A191A191A191A191A191A191A191A191A",
    "191A191A191A191A191A191A191A191A191A191A191A191A191A191A191A191A191A199A191A191A191A191A191A191A",
    "191A191A191A191A191A191A191A191A191A191A191A191A191A191A191A191A191A191A191A191A191A191A191A191A",
    "191A191A191A191A191A191A191A191A191A191A191A191A191A191A191A191A191A191A199A896A2069208A898A896A",
    "2069208A10191019101910198A89EA208A898A898A895A102A59101A303A102A59304A202A49408A59503A102A5930B1",
    "1C2E2C302630854017302B5C1190251024702534L0115C10AC101AB0251AD02510DAXJ0X1EH0194019201A392A391A10",
    "1930596019101910191049101A491A4D1A202A2950194A401AH0G9GA3D191A4DhV045T025iB0Q9QApH06570E5YF025V0",
    "A5iJ0M5XV045X0025m20XG9XGA191A392A191A191A191A491A192A198A391A191A191A191A191A191A191A191A191A19",
    "1A191A191A191A191A191A191A191A191A191A191A191A191A191A191A191A191A191A191A191A191A191A191A191A19",
    "1A191A191A191A191A191A191A191A191A191A191A191A191A191A191A191A192A60191A191A3E191A503440X6A101A5",
    "01A20XOD701DF01END907D107D107D107D107D107D107D107D10X0EE5E02520A540141DC0145015G02485j3011161420",
    "3DA520851035109D6E105D205D40YMD202E203D10YQD104D50XBD10YUDH0X0DXG0GDm00ck0DY00rqDDY30XED1014eDD1",
    "024GDA82DK0191A191A191A191A191A191A191A191A191A191A191A191A191A191A191A191A191A191A191A191A191A1",
    "91A191A1D4E10AE101D191A191A191A191A191A191A191A191A191A191A191A191A191A193A2EYGD2E10143014V09D20",
    "191A191A191A191A191A191A193A191A191A191A191A191A191A191A191A191A191A191A191A191A191A191A191A191A",
    "191A191A191A191A191A191A191A191A191A191A191A191A191A19AA191A191A291A191A191A191A191A1D20191A191A",
    "1D191A193A191A191A191A191A191A191A191A191A191A191A591A591A191A191A191A191A191A191A191A491A191A29",
    "1A20191A101A101A191A191A191A19L03A191A1D3A7D1E3D1E4D1END5E401EJ0XKD2024802EXIDIE8024A860IE6D301D",
    "102D1EA8SD8E1014NDDEC0TD304EXFDEE7024501DA8605D1EADA85D10X9DEE903D1E8D2E20A83034ND301D3EXID1E1D3",
    "E2D2E5D2E1D1E1DO03D20BD5E243D2EA06D206D206D907D107D10XBA10EA60YGAX3D8E142E20A860gz4DC0ND40XHDee4",
    "0hED20ZADX607AC05A501D1EAD10DD105D101D102D102D10ZCDX10hBD25G0Y0D20XMDX80CD40GE261426242570GE1026",
    "20G5202570261710262416654016C05D10a7D201C1014602520261710A826301410Q915101530QA15101510251425161",
    "0XOD2EVD306D206D206D203DS03C40CD10QD10JD102D10FD20EDX20ZRDY50XLDa801Ea20TD30XHDF01EV0X0DD0UD50X6",
    "D5E50UD20X4D408D105DXA0X89X8AYED20A860X4940X4A40X8D80XKDC0B910F91079102910BA10FA107A102A30XKDC0f",
    "ND90MDA08DO01A2D3A10XAA109AY506D201D10XCD102D301D20NDA0ND90VDY10JD102DA0MDA0QDY60XOD602DY001D3E1",
    "02E504E4D103D10TD203E401EM02480TD30TDX308D10SD2EP0XMDA0MDA0JDD0IDZE0Y9DXN0XJ9D0XJAD0X4D4E80A860A",
    "86DM9305E101DMAdQ0XAD102E302DG03DXN04ETDA01D80MDBE4054M0ID4E44X60LDR0ND903EXLDFE24T0A81E2D2E1D90",
    "4EXDDBE2018441EA01820PD70A8603EX4DEE10A810341D2E1D80X3D1E201D903EXGDEE4D24204E142EA81D101D1024X0",
    "0ID10PDCE241024101E2D1EXU07D101D104D10FD10AD1460XFDCE50A8604E108D202D20MD107D102D105D102E1D7E202",
    "E203E201D601E505D2E207E305EB0AD101D201D10X6D101D9E101E201E104E105E1D1E1D24B02ET0XLDIE4D2430A8401",
    "E3DU0XGDKE2D101D80A8b60XFD7E209E102450F44D2EX20XGDHE24101DB0A8X60XBDDE1D70A860K8S0RD20FE40A82034",
    "107DbP0XCDFEZ50X09X0AA8L08D201D208D102D10OD6E102E204E1D1E1D2E14101490A8Y608D20X7D7E207E1D101D1ER",
    "01DAEX8D7E1D4E3024301E801DBEXEDGE10241DI0Y9Dc70X1DF0A8609D10X5D8E108E1D24D0A8O0UD20ME10EEY907D10",
    "2D10X6D6E301E102E107E1D1E80A8606D102D10X0D5E102E105E1D70A8fM0JD4E24702E1D1EDD10X2D7E305E24B0A81E",
    "YL01DYF0yQDZ60ZFDH0c4DYoC0Z1DF0XXGDGC1E6DFEA0ZyRD50o7DcrP0UDIEA8Xs60nPD70VD10A84024YFD10A860UD20",
    "5E14A0XGD7E24704D14B0A890LD50JDjG0XDD1024A8c60X09X0AO014Z70YBD401E1DXNE704EDDY002D101D1EB02EE0b/",
    "OD80XcMDX90ADet704D107D102D10f3DF01DT03D201DE04D80iCDYe40ZBD50DD309D70AD302E144CaYC0A8m60XEE20NE",
    "mU05E306E8C8E207EU04EaK03EjR0Q9QAQ97A10IAQ9QA19102920192029204910894A101A107A10BAQ9QA29104920891",
    "07910QA29104910591019307910QAQ9QAQ9QAQ9QAQ9QAQ9QAQ9SA20P910PA106AP910PA106AP910PA106AP910PA106AP",
    "910PA106A191A20XI8m00XNE40XIE801EE01E3014I05E10FEXYG0AA1DKA606AcL07E10HE207E102E105E50XUAX101EZG",
    "0XDD307E7D20A8401Dg10UD1EH0XCD4EA8kM0SD4EA8cM0UD2E1DA8l507D104D102D10FD10c5DB07EX90X29X2A7E1D40A",
    "8Xb604D10RD102D101D201D10AD104D101D101D601D401D101D101D103D102D101D201D101D101D101D101D102D101D2",
    "04D107D104D104D101D10AD10HD503D105D10HDpK0Q960Q960Q9XdC035XhN0A8XW60Xft0DX00aXQD60cUD20bq2DE0dfH",
    "DF0pEDYj20mUDXl20awBD50aZ0DrtYH01CU0Z0Ea00dGEb/mG0"])

end Segment
end ControlPlane
