import ControlPlane.Text.Packed

/-!
# Ages

The version of Unicode in which every code point was assigned, as in the Unicode character
database (version 16.0): runs of code points, each with the index of its version in `versions`.
The set of a version holds every code point assigned in it or before.
-/

namespace ControlPlane
namespace Age

def versions : List String := [
    "1.1", "3.0", "3.2", "4.0", "4.1", "5.0", "5.1", "Unassigned",
    "7.0", "3.1", "5.2", "6.0", "11.0", "6.1", "2.0", "6.3",
    "14.0", "10.0", "16.0", "8.0", "9.0", "13.0", "12.0", "15.0",
    "2.1", "6.2", "15.1", "12.1"]

def ordered : List String :=
  ["V1_1", "V2_0", "V2_1", "V3_0", "V3_1", "V3_2", "V4_0", "V4_1", "V5_0", "V5_1", "V5_2", "V6_0",
   "V6_1", "V6_2", "V6_3", "V7_0", "V8_0", "V9_0", "V10_0", "V11_0", "V12_0", "V12_1", "V13_0",
   "V14_0", "V15_0", "V15_1", "V16_0"]

def table : List (Nat × Nat × Nat) := Packed.runs (String.join [
    "lM041U0811213I133B4E5YP05123XF011A051H3Y6091128354332011D246202627103510184770171017K017XC016701",
    "1221011101110111011I02912534411C011Y2011C011X9016212241XL0222022202215S02180242065G245G62A2B8817",
    "X6027701CX701C101127281D17HE14DEA015901E3487R0471C50B7431D185614109356101F1G14101BQ056J03133641B",
    "E022Y80215011F011U023A05113E117U133R12733U4I6XH112E7XR5273CXEA27FA17SB271B17BH57VG172G571I8G1D18",
    "BD682J1G8KALBG1CFK1JRD181A3013XL02BI01A1B501A2BP0265B182A25142518301780272027M017701710374027101",
    "370272027301487104720175027L01A2H1C271310131760472027M017701720172017202710175047202730371677401",
    "71077F0161CA73017701310173017M017701720175027A0173017302710F7103327A01D13771J6H17301780272027M01",
    "770172017134027801627202730771L20472017302627B0136BA72017603730174037201710172037203730378014304",
    "7503730174027166710E714C0835718301C80173017N017A01850271G167017301740772017261J271G27202627A0771",
    "M861K18201C80173017N017A01750272370173017407720671G1017202527A017251NC71H18201L80173017N01BG01B2",
    "H166016173017401B1K473K107K1J202627A0663K76171L2117I137O1179117112771371147611711178167A82731C7X",
    "Q047T0X57201710171M201M10171M106M401M701M30171017102M201MD01M302750171017601N17A027202DX07Y8E17X",
    "1E112647RE4B6E111E17LE317E111E3117F117161124364A2BX57X21165116211671364166Q1Y064A26X60171D571D27",
    "X70222410143DYQ05AY405AYI06A7114XV11411174127711711174127X711411174127V1141117412771171117412771",
    "147117N114V114111741277114X7114J1272B24S137Q467YL11J276J271ApM19AT137YH18877D21G721G971GN297K2C7",
    "D217321722C7YT11327A167A367F11GA167YO11C77XA11657Y6AA7T32817C347C3471337XA32753B7XA42A47Q467A41A",
    "3724X03S42724XVA17TA27BA67AA67EA27F82LEGXH7YC51G172IXD52G1IXB63DC66DXKB874BXO637F637XJ69K2I57XBC",
    "273C8D87X3A4D1H281M57ZC3YO475S6F84H1G1K1B1A25aR01E46YQ066M0276027X602760278017101710171017V027XL",
    "017F017E0276017J02730179017XF011N0126152232412745216174F701227R017548B37B01E1O3122443A1B1P381J1H",
    "1GF7I02172144516F7XP0211314F21425163AXG01115461A2J47YR091C2dI0E21011ZP01112U1XK223B4C51ABB784K1H",
    "X50213IM7B0L7aB0K213aM0A2YG08182K023221411YM021C224A283B4162A23G415A63A46AA1BJA1B1A4BOA18401B402",
    "BS01BX301B101B403B101A702B70E2V03BO01BE01B74451D161D2BS246G2e01m02E364755645X9638565AQ827X08171L",
    "X283CC81M881HPC4JFC1MXF41GXF41GD5361A3645662AZB47A2D57XD4171D571D27XM42D77141BE71BN4977417741774",
    "1774177417741774177417X06O44624J61AAD782K5H5C1M3LBGX27Q117YP1C7cM1Q7C14QXO03132111017YK022276022",
    "YU01257X80161H1C17YU017G0O13B5LG4K62I971QG2T02317X40CA13F2S02314XI0F2C043XF01RZN043Z3023V013cjM1",
    "ALY03qj60M4868A1D9JLH5CDL3GXaD137I122G112C11231121197XGAfC6K7X062BI68DS6681J1DYOA87N4455625ZB62B",
    "1J2B2DC8AB1D381K1C286J2C6M2G5M4L3I272G171G175G3IL73G2L182D1B56XC41L37AA67XO587Y561K87C667SA2J2CY",
    "K6B716TA37YEA17BA472AV817XN697E627A62746SA48Y3AO75ANDA76B276B276B977B177B17XG84J282M4L47YGJXEA27",
    "AA67gz4EC7NA47XHA47YW0EcnE02DXR23A27ZA4X6770C7505711P0175017101720172017ZC0GB1GG7hD0GGY0027XM077",
    "1GX09C012132GG2A4674036782JL02223A017J017404730121017a70271017YU022YU0376027602760273037701770A7",
    "311O30C317Q317J3172317F327E3X27ZR3573347XD33793YB4282K17C61L3718XF7XE6a27T637XH6F7S847V91849973H",
    "R957XB857U31713X4447E4XA7X6923X69YG327A367X4K47X4K47X8887XK8B718BG17FG177G172G17BG17FG177G172G37",
    "XKIC7fN897M8A788O76G17XAG179GY5763271317XC3172337132713MA179AXV88798XG7JJ172J575JQ52A3715Q65716Y",
    "07XOD472J2DGJ27XEJ4417245784173417R42C273447941C779477X0AX08X07X7847C897XMA37TA27RA578AI87748C77",
    "8YG7Y9AXN7XJJD7XJJ776JX8C87AC67X6I37TI872IcG7VA17XAL173L272LG73IXN71I3NX8C87XACM7QGX67SLK7NM97YE",
    "B47UB6G9718Y2A1GA71C27PD77AD67XLD17ED3C1L87X7897Y9D4J182LAD185J17K8B7I817XB81K3NXU77J171J174J17F",
    "J17BJ67XR857A8671J381788272827M8177817281758171C9827282738271J6718577827783758B7AI171I271I17X6I1",
    "7AI171I271I174I17AI172I872IT7YQK1L1K171K1C1M2LU7Y8887A8b67XM827I8KJX27Y58B7A867DKJ7XOD1M1G67AD67",
    "KIS7QJ1C27FJ47GJ7GbP7XSCZ47YJ8C7187L271L278L172L17UL172L27CL97ALY678M27XEM27BMR7Y8H87XKH2MNH1C5H",
    "D7GGXP877ANbM7X2IE7AI679K17XDK17EKA7TK37X0K27MK17EKY977H172H17XCH371H172H179H87AH676C172C17X5C17",
    "2C176C77ACfM7PC77HN17X9N37SN1IYL71LF7XIMD71MxF5XA81JZ67Z35C8174518B7c4JYoC7Z3GD7XXFA1N9MTNA7ZyRI",
    "57o7JcrP7XQIXs67nPB77V817A84728YFG17AG67U82768A7Y68A7A8177817L857J8jG7XQIc67YRCZ57Y5D6M471MXFD9M",
    "77HDY071K1H2M1LB72LE7b/DK5C6M87tJKl3LX971I9Let774G177G172G172BeTH4GF71NT73M271NE74M87iCHYe47ZB85",
    "7D8379877A82788ZwS7dQI67jKIYC7XEG27NG97ZKGXS7dM9A7X792716bK9BJ2GL7Y64ZQ7KNC7KCC7YN397I57Ca77YL91",
    "7Y79172927192729274917C917191749132917Y1917492789177917S9174917591719377917gI92427f292527XI9qCJF",
    "75J17FJXYG7VG676NcL77K17HK277K172K175K57XUNX171NZG7XDM37EM27AM472Mg07VGH7XQM571MkG7XANcM7XBI471I",
    "l077G174G172G17FG17c5827G8X97YBK1M47AK472KuH7Y4CYC7XTMc274D17RD172D171D271D17AD174D171D171D671D4",
    "71D171D171D173D172D171D271D171D171D171D171D172D171D274D177D174D174D171D17AD17HD573D175D17HDXK72D",
    "eE7XC647Z46C7FB27EB1817FB17FBM8A7BA283LVA1C1B1ABB1A1B1A2B1A3B1A3B5A8B1A7B1AAB2D1M3L9B1A1B2A2B1AA",
    "B4A2B1AABIK1LXO7QB1A2BD7X2A9B1K479A772BE76HaQ7X1BC83J6B18Y6B182JKBC8X5B185B485JC8HB788JXVB181B18",
    "bMB184B281JXUB284D785JOBI81KX981KYM85B1DGB1D3B1D1B1D1B1D1B1D3B1D6B2D4B1D1B2D4B1DCB282JBBXG8Y6BA8",
    "1J2K2H1M2L471N3GD837483K2H1C1M2L37ZKB3N475NYL84C1N67CM471GF7C847XO887A867X8887U8272LAI472IXU7CH1",
    "L3M9J6K1H8K8H1K2HCK1MCK1H3CFKDH5C1M1L4C2L1G1C1M4C5JDK6HBC2L6M3L2MAC6M1J2C8M1L1G3MNHPCYKMC7EC274M",
    "1L3N3M2G373M4L2N1I571I6MJL4G3N7L4G3N1I1N3L3G1I772N7L3G2N1I271I8G1N1I677G2N77aJL17XNLX5IALXW472EX",
    "fsN97L2GX07aXLA4G1N67cUB27bq2JE7dfHHF7pEQYj27mU9Xl072EawBL57aZ0NXtYE72EX//U72EX//U72EX//U72EX//U",
    "72EX//U72EX//U72EX//U72EX//U72EX//U72EX//U72E1719U7Z09a07dG3X/mE7aWW2E"])

def number (name : String) : String := (name.drop 1).toString.replace "_" "."

def upTo? (name : String) : Option CharSet :=
  (ordered.idxOf? name).map fun i =>
    let wanted := ((ordered.take (i + 1)).map number).filterMap versions.idxOf?
    CharSet.ofSorted (table.filterMap fun (lo, hi, v) => if wanted.contains v then some (lo, hi) else none)

end Age
end ControlPlane
