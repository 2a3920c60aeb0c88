import ControlPlane.Text.Packed

/-!
# Scripts

The script of every code point, as in the Unicode character database (version 16.0): runs of
code points, each with the index of its script's name in `names`. Code points used by several
scripts list them in `extensions`; every other code point's extensions are its script alone.
-/

namespace ControlPlane
namespace Script

def names : List String := [
    "Common", "Latin", "Bopomofo", "Inherited", "Greek", "Unknown",
    "Coptic", "Cyrillic", "Armenian", "Hebrew", "Arabic", "Syriac",
    "Thaana", "Nko", "Samaritan", "Mandaic", "Devanagari", "Bengali",
    "Gurmukhi", "Gujarati", "Oriya", "Tamil", "Telugu", "Kannada",
    "Malayalam", "Sinhala", "Thai", "Lao", "Tibetan", "Myanmar",
    "Georgian", "Hangul", "Ethiopic", "Cherokee", "Canadian_Aboriginal", "Ogham",
    "Runic", "Tagalog", "Hanunoo", "Buhid", "Tagbanwa", "Khmer",
    "Mongolian", "Limbu", "Tai_Le", "New_Tai_Lue", "Buginese", "Tai_Tham",
    "Balinese", "Sundanese", "Batak", "Lepcha", "Ol_Chiki", "Braille",
    "Glagolitic", "Tifinagh", "Han", "Hiragana", "Katakana", "Yi",
    "Lisu", "Vai", "Bamum", "Syloti_Nagri", "Phags_Pa", "Saurashtra",
    "Kayah_Li", "Rejang", "Javanese", "Cham", "Tai_Viet", "Meetei_Mayek",
    "Linear_B", "Lycian", "Carian", "Old_Italic", "Gothic", "Old_Permic",
    "Ugaritic", "Old_Persian", "Deseret", "Shavian", "Osmanya", "Osage",
    "Elbasan", "Caucasian_Albanian", "Vithkuqi", "Todhri", "Linear_A", "Cypriot",
    "Imperial_Aramaic", "Palmyrene", "Nabataean", "Hatran", "Phoenician", "Lydian",
    "Meroitic_Hieroglyphs", "Meroitic_Cursive", "Kharoshthi", "Old_South_Arabian", "Old_North_Arabian", "Manichaean",
    "Avestan", "Inscriptional_Parthian", "Inscriptional_Pahlavi", "Psalter_Pahlavi", "Old_Turkic", "Old_Hungarian",
    "Hanifi_Rohingya", "Garay", "Yezidi", "Old_Sogdian", "Sogdian", "Old_Uyghur",
    "Chorasmian", "Elymaic", "Brahmi", "Kaithi", "Sora_Sompeng", "Chakma",
    "Mahajani", "Sharada", "Khojki", "Multani", "Khudawadi", "Grantha",
    "Tulu_Tigalari", "Newa", "Tirhuta", "Siddham", "Modi", "Takri",
    "Ahom", "Dogra", "Warang_Citi", "Dives_Akuru", "Nandinagari", "Zanabazar_Square",
    "Soyombo", "Pau_Cin_Hau", "Sunuwar", "Bhaiksuki", "Marchen", "Masaram_Gondi",
    "Gunjala_Gondi", "Makasar", "Kawi", "Cuneiform", "Cypro_Minoan", "Egyptian_Hieroglyphs",
    "Anatolian_Hieroglyphs", "Gurung_Khema", "Mro", "Tangsa", "Bassa_Vah", "Pahawh_Hmong",
    "Kirat_Rai", "Medefaidrin", "Miao", "Tangut", "Nushu", "Khitan_Small_Script",
    "Duployan", "SignWriting", "Nyiakeng_Puachue_Hmong", "Toto", "Wancho", "Nag_Mundari",
    "Ol_Onal", "Mende_Kikakui", "Adlam"]

def table : List (Nat × Nat × Nat) := Packed.runs (String.join [
    "Y10Q160Q1XF011F01150N110V110k11X70515022K0ZG344103425441014451410141034151415K415XV4E6G4a5723b97",
    "15X6825XI8253815XN985R94569B55A106A10EA103A10X0A10AAB3QA13ZCA10X2AEB15XSB253BXGAXICE5XRD253DXEE2",
    "5FE15SF251F15BB55VA152A55YBA10TAYHG43FG20QG4H158H252H25MH157H151H354H259H252H254H851H452H155H25P",
    "H253I156I452I25MI157I152I152I152I251I155I452I253I351I754I151I75HIA53J159J153J15MJ157J152J155J25A",
    "J153J153J251JF54J25CJ757J153K158K252K25MK157K152K155K259K252K253K753K452K155K25IKA52L156L353L154",
    "L352L151L152L352L353L35CL455L353L154L251L651LE5LL55DM153M15NM15GM259M153M154M752M153M251M254M25A",
    "M759MDN153N15NN15AN155N259N153N154N752N652N154N25AN153NC5DO153O15XJO153O156O45GO25QO153P15IP35OP",
    "159P151P257P351P456P151P158P65AP253PC5XQQ4510SQX552R151R155R15OR151R15NR255R151R157R15AR254RX05Y",
    "8S15X4S45X7S15X4S15FS157S402SX55b0TX6U151U551U25XBU104Ue0VY9X0154X0257X0151X0154X025X9X0154X025X",
    "1X0154X0257X0151X0154X025FX015XPX0154X025Y3X025X0X035QX065YMX1256X125q0X2TX335YBX430BX475MX5951X",
    "5LX62095KX7C5DX8153X8152X8C5YUX925AX965AX9652XA201XA10KXA65YPXA75XBXA55Y6X2A5VXB15CXB45CXB451XB3",
    "5CXBUXC255XCB5XCXD45QXD65BXD352XDX0X9SXE252XEXVXF15TXF25BXF65AXF65EXF25V3XH5YDXG15XIXGY0XHXKXI85",
    "4XIXOXJ35FXJ353XJXGXKB755XBU253U8XH853310D310734013601330231055X615417XH1544154D117Y6114Y03e01M4",
    "256425X642564258415141514151415V425XL415F415E4256415J42534159415C023YN015B01125B011F015D135X10F5",
    "X13F5X601430216011R011H0X913045qQ0M5B0L5z00e0XLpK025X0015Z90Z0XMX01ZK65576X6U151U551U25XOXN752XN",
    "E51XNNX0957X0157X0157X0157X0157X0157X0157X0157X015X07YU0X25QXO15YPXOC5cMXOQ5L01XO101XOP09XO432V8",
    "04XO4015YMXP2523203XP10YQXQ203XQ55XB215YUV15G0X02X609510GXQVV15Y00VVYH0XFXQ10YOXQb80ck0XOY00qm0X",
    "OXaDXR35XNXR95XGXSfCXTK5Z07YOXU85X20Z6130Y31252115111581L5E1XDXV35A065XOY085Y6Y185CY165X0GXEY210",
    "1Y2X4Y3B51Y3TV35YEY41510AY4452Y4VT15XNY595EY525AY5254Y5X0TY3Y6O55Y6NY7A56X0256X0256X0957X0157X01",
    "5XB1109114412045YGX1XEY725AY765gz4VC5NV45XHVee45hEXO25ZAXOX6571C55855Q9155915191529152915A9ZJAG5",
    "hBA20YGA25XMA751AX05GAG3A065E327X3015J01540455A15a7A251015X00Q160Q1B0AXQ10XDXQ20VV356V256V256V25",
    "3V35701570A55025CY815QY815JY8152Y815FY825EY8X25ZRY8553045XD03590YF415D03514XF5XD013a25TY935XHYAF",
    "513R045X4YB953YBRYC55XBYD55UYE151YEX4YF45EYFXA5YGYGXGYHUYI25AYI65X4YJ45X4YJ45X8YK85XKYLB51YLBYM1",
    "5FYM157YM152YM15BYM15FYM157YM152YM35XKYNC5fNYO95MYOA58YOO56115XA11591Y556YP251YP15XCYP152YP351YP",
    "251YPMYQ159YQX0YRVYS859YSXG5JYT152YT555YTSYU351YUQYV551YVY05X0Z0OZ145KZ125XEZ14Z2152Z2558Z2153Z2",
    "15TZ2253Z245AZ2759Z275X0Z3X0Z4X05X7Z545CZ595XMZ6357Z6MZ7258Z7JZ8558Z8IZ9754Z9C57Z9YG5Y9ZAXN5XJZB",
    "D5XJZB756ZBX8ZC85AZC65X6ZD35TZD852ZDcG5VA15XAZE153ZE252ZEG53AXN54AX8ZF85XAZGM5QZHX65SZIK5NZJ95YE",
    "ZK45X4ZK951ZKY3ZLA51ZL25PZM75AZM65XLZN15IZN85X7ZO95Z0ZP15KPB5IZQ15XFZQXU57ZR151ZR154ZR15FZR15BZR",
    "65XRZS55AZS654ZT158ZT252ZT25MZT157ZT152ZT155ZT15139ZT252ZT253ZT251ZT651ZT557ZT257ZT355ZTB5AZU151",
    "ZU251ZU15X6ZU15AZU151ZU251ZU154ZU15AZU152ZU852ZUT5YSZV155ZVU5Y8a085Aa0b65XMa125X6a1X25Y5a2B5Aa26",
    "5DXAJ5XQa365Aa365KTS5Ra425Fa445Na4bP5XSa5Z45YJa6C51a67a7251a7258a7152a715Ua7152a725Ca795Aa7Y658a",
    "825XEa825Ba8R5Y8a985YJaAD5GX2XPaB75AGbM5X2aCE5AaC659aD15XDaD15EaDA5TaD35X0aE25MaE15EaEY957aF152a",
    "F15XCaF351aF152aF159aF85AaF656aG152aG15X5aG152aG156aG75AaGfM5PaH75HaI15X9aI35TaIYL51XSF5XILD51Ly",
    "QaJZ65ZFaJ155aJB5c4aJYoC5Z3aKD5XYMaLA5ZyRaL55o7aMcrP5XQaNXs65nPXU75VaO15AaO452aOYFaP15AaP65UaQ25",
    "6aQA5Y6aRA5AaR157aR15LaR55JaRjG5XQaSc65YRaTZ55YBaU45XPaU75HaUY051aV1b02XO1b1B52XOE5b/OaV85u0aVkM",
    "b1X951b19aVet754XQ157XQ152XQ151XQeVXP3XQF51XPT53XP251XQE54XQ85iCb0Ye45ZBb255Db2359b275Ab2254b240",
    "ZwS5dQ065jK0YC5XE325N395ZK0XS5dM0A5X7025XU033H0832073U043XT0L5Y64ZQ5K0C5K0C5YN095P0a75YL015Y7015",
    "2025102520254015C01510157015Y1015402580157015S0154015501510357015gK025f4025XI0qCb3F55b315Fb3XYG5",
    "V16561cL57XM15HXM257XM152XM155XM55XU7X1517ZG5XDb435Eb425Ab4452b4g05Vb5H5XQb6551b6kG5XAb7cM5XBb84",
    "51b8l057X0154X0152X015FX015c5b925Gb9X95YCbA45AbA452bAuH5Y40YC5XT0c254A15RA152A151A251A15AA154A15",
    "1A151A651A451A151A151A153A152A151A251A151A151A151A151A152A151A254A157A154A154A151A15AA15HA553A15",
    "5A15HAXK52AeE5XC045Z40C5F025F015F015X50A5bE0XO5Q01XP20D5XC045907520E560aQ5+O045H035D035ZN045YV06",
    "5C04510F5C045XO085A065X8085U025C04520XU5gK0C5E025D035A055XO075F025B0659075aJ015Z60XW65Xft0XOX05a",
    "XQXO65cUXO25bq2XOE5dfHXOF5pEXOYj25mUXOXl25awBXO55aZ0XOrtYH510U5Z00a05dG3b/mG5"])

/-- The ranges of code points whose script extensions are not their script alone, each with
the indices of its scripts: ranges packed as gap and width, then the number of scripts and the
scripts. -/
def extensions : List (Nat × Nat × List Nat) :=
  let ns := Packed.numbers (String.join [
      "bN0G146UXMXOYAYCYDYHYKYVZ6ZOaGb2m40717GHQXSb5A0212122121021XS9021Q10212X6081467X1XCYDaC008147X1X",
      "CYJYNaC00417X1XN0051BQXMaC00B1467BX1XNYCYJYLYN00616XMXQYCYK005147XNYD009169BXCXNYDYNb200B14789BX",
      "CXNYCYDb20021XN0031Bb200417X1YJ0031X1XC0021aC0021X01021aC00317YN10414YDYNF061BX1XNXQb20041BX1b20",
      "021B7031BaC0021B1031BX10071BQX1YCYLaCG0142014I021YJ5031YLYN4C1141246eD027YD0027XM012170027XMe103",
      "8UXMa207ABCDZCZDZEE07ABCDZCZDZE003ABC208ABCDZCZDZEbAX009ABFZ5Z9ZCZGZHbAAA2ABA93ACZE602ABZ302AZCp",
      "S0F1GHIJKLMNOZPZTZVa0a800D1GHIJKLMNOZTZVa0H0LGHIJKLMNOPXVZOZSZTa0a3a5a8aFaGb800NGHIJKLMNOPXBXVZO",
      "ZSZTa0a3a5a8aFaGaNb8094GZLZOa5ZM93HXVZNZM92IZRZM92JZQdMD2LZTdI93NZUa8wG93TXCZNbH031UXMXlF21X4Y71",
      "4X5X6X7X8cB12XAY0102XAY0XcA04GHNZT001G004GHNZT003GNZT001G005GHMZVa0003GHM003GZPZV004GHMZV002GZP0",
      "06GKLMNO001G012GZP011G002GZP002GH003GZVa0051G003GZVa8003GHZP002GZV001G004GHZPZV031G00BGHKMNOPZTZ",
      "Ua0a8002GZT004GNZTZU012GH001H012GZT001a8c5114XM0317B101BnK031XAY0V02AbAA06UXMY9YAZAZB2044YAZ0ZBa",
      "I031GZTZf60216O02Z6ZA007EUYAYVZ6ZBZLA01b2403AZBbA1027XMjCF2XOaV1072VXAXOXPXQXR0082VXAXOXPXQXRY00",
      "052VXOXPXQ201XO1182SVXAXOXPXQXR0192SVXAXOXPXQXRXS0562VXOXPXQXR1052VXOXPXQ0762VXOXPXQXR0352VXOXPX",
      "QA322XO2052VXOXPXQ042XPXQ1052VXOXPXQ413XOXPXQ011XOYP32XPXQ302XPXQYQ062VXOXPXQXR002XPXQaJF1XOX0X5",
      "1XO902XOaVXGX71XOXOXG1XOFB1XOXJ01XOYOO1XOA41XOZ0U1XOypG027XMaG721XOf82GGIJNOZLZOZPZQZSZUa0a2a3a5",
      "a802FGIJNZLZOZPZQZSZUa0a2a3a5a801BGIJZLZOZQZSa0a2a3a500CGIJZLZOZPZQZSa0a2a3a500BGIJZLZOZQZSa0a2a",
      "3a5bN03GHZU102GLXQ031TY2b002XEY4qxE12ADbI02ACA02ACY7152VXOXPXQeQ462VXOXPXQXRA02XPXQXD12XPXQh013Y",
      "8YPaK002Y8YP4XC3Y8YOYP382Y8YPj0R26AX/M02Z5ZHYWE02LZT102LZTXN12LZTZaJ12LZT102LZTXdcC31b2brSH1XOds",
      "U11XO"])
  go ns 0 ns.length
where
  go (ns : List Nat) (next : Nat) : Nat → List (Nat × Nat × List Nat)
    | 0 => []
    | fuel + 1 =>
      match ns with
      | gap :: width :: count :: rest =>
        let lo := next + gap
        (lo, lo + width, rest.take count) :: go (rest.drop count) (lo + width + 1) fuel
      | _ => []

def set (name : String) : CharSet :=
  match names.idxOf? name with
  | none => CharSet.empty
  | some i => CharSet.ofSorted (table.filterMap fun (lo, hi, v) => if v = i then some (lo, hi) else none)

def extensionSet (name : String) : CharSet :=
  match names.idxOf? name with
  | none => CharSet.empty
  | some i =>
    let listed := CharSet.ofSorted (extensions.map fun (lo, hi, _) => (lo, hi))
    let withIt := CharSet.ofSorted (extensions.filterMap fun (lo, hi, ss) => if ss.contains i then some (lo, hi) else none)
    ((set name).diff listed).union withIt

end Script
end ControlPlane
