import ControlPlane.Text.Packed

/-!
# General categories

The general category of every code point, as in the Unicode character database (version 16.0):
runs of code points, each with the index of its category's two-letter code in `codes`. A
one-letter group stands for the categories whose codes start with its letter, and `LC` for the
cased letters `Lu`, `Ll` and `Lt`.
-/

namespace ControlPlane
namespace Category

def codes : List String := [
    "Cc", "Zs", "Po", "Sc", "Ps", "Pe", "Sm", "Pd",
    "Nd", "Lu", "Sk", "Pc", "Ll", "So", "Lo", "Pi",
    "Cf", "No", "Pf", "Lt", "Lm", "Mn", "Cn", "Me",
    "Mc", "Nl", "Zl", "Zp", "Cs", "Co"]

def table : List (Nat × Nat × Nat) := Packed.runs (String.join [
    "X001132133214151216121722A8223622Q91412151A1B1AQC14161516X101112431D121A1D1E1F161G1D1A1D162H1A1C",
    "221A1H1E1I3H12N91679OC168C191C191C191C191C191C191C191C191C191C191C191C191C191C191C191C191C191C19",
    "1C191C191C191C191C191C191C191C191C191C192C191C191C191C191C191C191C191C192C191C191C191C191C191C19",
    "1C191C191C191C191C191C191C191C191C191C191C191C191C191C191C191C191C191C291C191C193C291C191C291C39",
    "2C491C291C393C291C291C191C191C291C192C191C291C391C191C292C1E193C4E191J1C191J1C191J1C191C191C191C",
    "191C191C191C191C192C191C191C191C191C191C191C191C191C192C191J1C191C391C191C191C191C191C191C191C19",
    "1C191C191C191C191C191C191C191C191C191C191C191C191C191C191C191C191C191C191C191C191C191C197C291C29",
    "2C191C491C191C191C191C19Y5C1ERCIK4ACKEA5K7A1K1A1KHAZGL191C191C1K1A191C2M1K3C12194M2A1912391M191M",
    "291CH91M99X3C192C393C191C191C191C191C191C191C191C191C191C191C191C195C191C16191C292CXJ9XGC191C191",
    "C191C191C191C191C191C191C191C191C191C191C191C191C191C191C191C1D5L2N191C191C191C191C191C191C191C1",
    "91C191C191C191C191C191C191C191C191C191C191C191C191C191C191C191C191C191C191C191C291C191C191C191C1",
    "91C191C192C191C191C191C191C191C191C191C191C191C191C191C191C191C191C191C191C191C191C191C191C191C1",
    "91C191C191C191C191C191C191C191C191C191C191C191C191C191C191C191C191C191C191C191C191C191C191C191C1",
    "91C191C191C1MX692M1K62X9C12172M2D131MXDL171L122L122L121L8MRE4M4E22BM6G362213222DBL121G32X0E1KAEL",
    "LA8422E1LZ3E121E7L1G1D6L2K2L1D4L2EA83E2D1EE21M1G1E1LUERL2MYPEBL1EEMA8X1E9L2K1D321K2M1L23ME4L1K9L",
    "1K3L1K5L2MF21MPE3L2M121MBE5MOE1A6E1M2G5M9LX9E1KOL1GX0L1OXME1L1O1L1E3O8L4O1L2O1E7LAE2L22A8121KFE1",
    "L2O1M8E2M2E2MME1M7E1M1E3M4E2M1L1E3O4L2M2O2M2O1L1E8M1O4M2E1M3E2L2MA82E236H1D131E121L2M2L1O1M6E4M2",
    "E2MME1M7E1M2E1M2E1M2E2M1L1M3O2L4M2L2M3L3M1L7M4E1M1E7MA82L3E1L12AM2L1O1M9E1M3E1MME1M7E1M2E1M5E2M1",
    "L1E3O5L1M2L1O1M2O1L2M1EFM2E2L2MA812137M1E6L1M1L2O1M8E2M2E2MME1M7E1M2E1M5E2M1L1E1O1L1O4L2M2O2M2O1",
    "L7M2L1O4M2E1M3E2L2MA81D1E6HAM1L1E1M6E3M3E1M4E3M2E1M1E1M2E3M2E3M3E3MCE4M2O1L2O3M3O1M3O1L2M1E6M1OE",
    "MA83H6D131D5M1L3O1L8E1M3E1MNE1MGE2M1L1E3L4O1M3L1M4L7M2L1M3E2M1E2M2E2L2MA87M127H1D1E1L2O128E1M3E1",
    "MNE1MAE1M5E2M1L1E1O1L5O1M1L2O1M2O2L7M2O6M2E1M2E2L2MA81M2E1OCM2L2O9E1M3E1MX9E2L1E3O4L1M3O1M3O1L1E",
    "1D4M3E1O7H3E2L2MA89H1D6E1M1L2O1MIE3MOE1M9E1M1E2M7E3M1L4M3O3L1M1L1M8O6MA82M2O12CMXGE1L2E7L4M136E1",
    "K8L12A822X5M2E1M1E1M5E1MOE1M1E1MAE1L2E9L1E2M5E1M1K1M7L1MA82M4EX0M1E3DF21D123D2L6DA8AH1D1L1D1L1D1",
    "L141514152O8E1MX4E4MEL1O5L122L5EBL1MX4L1M8D1L6D1M2D524D22X5MXBE2O4L1O6L1O2L2O2L1EA8626E2O2L4E3L1",
    "E3O2E7O3E4LDE1L2O2L6O1L1E1OA83O1L2DX691M195M192MXBC121K3Cg9E1M4E2M7E1M1E1M4E2MX9E1M4E2MX1E1M4E2M",
    "7E1M1E1M4E2MFE1MXPE1M4E2MY3E2M3L92KH3MGEAD6MYM92M6C2M17pCE1D12HE11QE14153MYBE323P8E7MIE3L1O9MJE2",
    "L1O229MIE2LCMDE1M3E1M2LCMXKE2L1O7L8O1L2OBL321K32131E1L2MA86MAH6M6217423L1G1LA86MX3E1KXLE7M5E2LX2",
    "E1L1E5MY6EAMVE1M3L4O2L3O4M2O1L6O3L4M1D3M22A8UE2M5EBMXCE4MQE6MA81H3MX2DNE2L2O1L2M22XLE1O1L1O7L1M1",
    "L1O1L2O8L6OAL2M1LA86MA86M721K622MEL1NGLXHM4L1OXFE1L1O5L1O1L5O1L2O8E1M22A872AD9L9D322L1OUE1O4L2O2",
    "L1O3L2EA8XCE1L1O2L3O1L1O3L2O8M42X4E8O8L2O2L3M52A83M3EA8UE6K229C191C5MXB92M39828M3L12DL1O7L4E1L6E",
    "1L2E1O2L1E5MXCCXVKDC1KX2CX5KY0L191C191C191C191C191C191C191C191C191C191C191C191C191C191C191C191C1",
    "91C191C191C191C191C191C191C191C191C191C191C191C191C191C191C191C191C191C191C191C191C191C191C191C1",
    "91C191C191C191C191C191C191C191C191C191C191C191C191C191C191C191C191C191C191C191C191C191C191C191C1",
    "91C191C191C191C191C191C191C191C191C191C199C191C191C191C191C191C191C191C191C191C191C191C191C191C1",
    "91C191C191C191C191C191C191C191C191C191C191C191C191C191C191C191C191C191C191C191C191C191C191C191C1",
    "91C191C191C191C191C191C191C191C191C191C191C199C896C2M692M8C898C896C2M692M8C1M191M191M191M198C89E",
    "C2M8C8J8C8J8C8J5C1M2C491J1A1C3A3C1M2C491J3A4C2M2C491M3A8C593A2M3C1M2C491J2A1MB15G67221F1I142F1I1",
    "41F821Q1R5G11921F1I422B32161415B216121BA2115G1MAG1H1K2M6H3614151KAH3614151MDK3MX13FMDL4N1L3NCLFM",
    "2D194D192D1C392C391C1D192D16596D191D191D191D491D1C491C4E1C2D2C2956194C1D162D1C1DGHX3P191C4P1H2D4",
    "M565D264D162D162D167D16VD262D161D16VDeC68D14151415KD267D1415YHD16UDP6X8D66Y8DMMBDLMXSHYEDMHbND16",
    "9D16XMD86ZFD16dOD1415141514151415141514151415UHXCD561415V614151415141514151415G6e0Da361415141514",
    "1514151415141514151415141514151415XV614151415X061415e26XGDL62D66X7D2MX0D1MZ9DXG9XGC191C392C191C1",
    "91C191C491C192C196C2K391C191C191C191C191C191C191C191C191C191C191C191C191C191C191C191C191C191C191",
    "C191C191C191C191C191C191C191C191C191C191C191C191C191C191C191C191C191C191C191C191C191C191C191C191",
    "C191C191C191C191C191C191C192C6D191C191C3L191C5M421H22X6C1M1C5M1C2MXOE7M1K12EM1LNE9M7E1M7E1M7E1M7",
    "E1M7E1M7E1M7E1M7E1MX0L221F1I1F1I321F1I121F1I92172217121F1I221F1I1415141514151415521KA22742171214",
    "D22D32141514151415141517X2MQD1MYPDCMcMDQMGD11321D1K1E1P141514151415141514152D1415141514151415171",
    "4251D9P4L2O175K2D3P1K1E122D1MYME2M2L2A2K1E17YQE123K1E5MXBE1MYUE1M2D4HADX0EX6D9M1DGEVD1MAHUD8H1DF",
    "HX0DAHX7DFHg0Dck0EY0DqmLE1KXZNE3MXND9MX8E6K22eCE1K32GEA82EKM191C191C191C191C191C191C191C191C191C",
    "191C191C191C191C191C191C191C191C191C191C191C191C191C191C1E1L3N12AL121K191C191C191C191C191C191C19",
    "1C191C191C191C191C191C191C191C2K2LY6EAP2L628MNA9K2A191C191C191C191C191C191C193C191C191C191C191C1",
    "91C191C191C191C191C191C191C191C191C191C191C191C191C191C191C191C191C191C191C191C191C191C191C191C1",
    "91C191C191C1K8C191C191C291C191C191C191C191C1K2A191C191C1E191C193C191C191C191C191C191C191C191C191",
    "C191C191C591C591C191C191C191C191C191C191C191C491C191C291C2M191C1M1C1M1C191C191C191C19LM3K191C1E2",
    "K1C7E1L3E1L4E1LNE2O2L1O4D1L3M6H2D131D6MXKE428M2OXIEGO2L8M22A86MIL6E321E122E1LA8SE8L22NEBL2OBM12T",
    "E3M3L1OXFE1L2O4L2O2L3OD21M1KA84M225E1L1K9EA85E1MX9E6L2O2L2O2L9M3E1L8E1L1O2MA82M42GE1K6E3D1E1O1L1",
    "OXIE1L1E3L2E2L5E2L1E1L1EOM2E1K22BE1O2L2O221E2K1O1LAM6E2M6E2M6E9M7E1M7E1MXBC1A4K9C1K2A4MYGCX3E2O1",
    "L2O1L2O121O1L2MA86Mgz4ECMNE4MXHE4MYW0Sce0ThEE2MZAEX6M7CCM5C5M1E1LAE16DE1M5E1M1E1M2E1M2E1MZCEHAGM",
    "hBE1514GDY0E2MXME7M1DX0MCE133DGL721415126MGL12272B14151415141514151415141514151415221415423B321M",
    "4217141514151415321617361M1213224M5E1Ma7E2M1G1M32133214151216121722A8223622Q91412151A1B1AQC14161",
    "516141512141522AE1KXDE2KVE3M6E2M6E2M6E2M3E3M23161A1D231M1D462DAM3G2D2MCE1MQE1MJE1M2E1MFE2MEEX2MZ",
    "RE5M324MXDH3M9DXLP4HHD2H3D1MDD3M1DXFMXDD1La2MTE3MXHEFM1LRH4MX0E4H9MKE1P8E1P5MX6E5L5MUE1M12X4E4M8",
    "E125PXAMX89X8CYEE2MA86MX494MX4C4MX8E8MXKEBM12B91MF91M791M291MBC1MFC1M7C1M2C3MXKECMfNE9MMEAM8EOM6",
    "K1MXAK1M9KY5M6E2M1E1MXCE1M2E3M1E2MNE1M128HNE2D7HVE8M9HXGMJE1M2E5M5HME6H3M12QE5M12Y0MXOE4M2H2EGH2",
    "MXEH1E3L1M2L5M4L4E1M3E1MTE2M3L4M1L9H7M927MTE2H12TE3HX0M8E1DSE2L4M5H729MXME3M72ME2M8HJE5M8HIE7M42",
    "CM7HYGMY9EXNMXJ9DMXJC7M6HX4E4L8MA86MA84E1K1EM93M5L171KMC8M26cGMVH1MXAE1M2L172M2EGM3EXNM4LTEAH1E8",
    "MMEBL4H52MMIE4L42X6MLE7HKMNE9M1O1L1OXLEFL724MKHA81L2E2L1E9M3L1OXDE3O4L2O2L221G421LAM1G2MPE7MA86M",
    "3LX4E5L1O8L1MA8421E2O1E8MX3E1L221E9M2L1OXGE3O9L2O4E424L121O1LA81E121E321MKHBMIE1MPE3O3L2O1L1O2L6",
    "21L2E1LXUM7E1M1E1M4E1MFE1MAE126MXFE1L3O8L5MA86M2L2O1M8E2M2E2MME1M7E1M2E1M5E1M2L1E2O1L4O2M2O2M3O2",
    "M1E6M1O5M5E2O2M7L3M5LBMAE1M1E2M1E1MX6E1M1E3O6L1M1O2M1O1M4O1M2O1L1O1L1E1L1E221M228M2LTMXLE3O8L2O3",
    "L1O1L4E52A8221M121L3EUMXGE3O6L1O1L4O2L1O2L2E121E8MA8b6MXFE3O4L2M4O2L1O2LN24E2LX2MXGE3O8L2O1L1O2L",
    "321EBMA86MD2JMXBE1L1O1L2O6L1O1L1E126MA86MK8SMRE2M1L1O1L2O4L1O5L4MA82H321D7EbPMXCE3O9L1O2L12Z4MX0",
    "9X0CA89HCM8E2M1E2M8E1M2E1MOE6O1M2O2M2L1O1L1E1O1E1O1L329MA8Y6M8E2MX7E3O4L2M2L4O1L1E121E1ORM1EALX8",
    "E6L1O1E4L821L8M1E6L2O3LXEEDL1O2L321E52DMY9E7MA2bMMX1E12EMA86M9E1MX5E1O7L1M6L1O1L1E52AMA8JH3M22UE",
    "2MML1M1O7L1O2L1O2LY9M7E1M2E1MX6E6L3M1L1M2L1M7L1E1L8MA86M6E1M2E1MX0E5O1M2L1M2O1L1O1L1E7MA8fMMJE2L",
    "2O227M2L1E1ODE1MX2E2O5L3M2O1L1O1LD2A81LYLM1EFMLH8D43HDDM12yQEZ6MZFP1M52BMc4EYoCMZ1E22DMXXGEGG1L6",
    "EFLAMZyRE5Mo7EcrPMUECL3O3LA8Xs6MnPE7MVE1MA84M22YFE1MA86MUE2M5L12AMXGE7L524D4K121DAMA81M7H1MLE5MJ",
    "EjGM3KX8E2K32A8c6MX09X0CNH42Z5MYBE4M1L1EXNO7M4LDKY0M2K121K1LBM2OEMb/OE8MXcMEX9MAEet7M4K1M7K1M2K1",
    "Mf3EFM1ETM3E2M1EEM4E8MiCEYe4MZBE5MDE3M9E7MAE2M1D2L124GZwSMdGDA86MjKDYCMXEL2MNL9MZKDXSMdMDAMX7D2M",
    "XSD2O3L3D6O8G8L2D7LUD4LXTDLMY2D3L1DZQMKHCMKHCMYND9MPHa7MQ9QCQ97C1MICQ9QC191M292M192M292M491M894C",
    "1M1C1M7C1MBCQ9QC291M492M891M791MQC291M491M591M193M791MQCQ9QCQ9QCQ9QCQ9QCQ9QCQ9SC2MP916PC166CP916",
    "PC166CP916PC166CP916PC166CP916PC166C191C2MXI8m0DXNL4DXIL8D1LED1L2D52FM5L1MFLXYGMAC1EKC6M6CcLM7L1",
    "MHL2M7L1M2L1M5L5MXUKX1M1LZGMXDE3M7L7K2MA84M1E1Dg0MUE1LHMXCE4LA85M13kGMRE1K4LA8cMMUE2L1EA84M12l0M",
    "7E1M4E1M2E1MFE1Mc5E2M9H7LX9MX29X2C7L1K4MA84M22uHMXRH1D3H134HYCMXDH1DFHc2M4E1MRE1M2E1M1E2M1E1MAE1",
    "M4E1M1E1M1E6M1E4M1E1M1E1M1E1M3E1M2E1M1E2M1E1M1E1M1E1M1E1M1E1M2E1M1E2M4E1M7E1M4E1M4E1M1E1MAE1MHE5",
    "M3E1M5E1MHEXKM26eEMXCD4MZ4DCMFD2MFD1MFD1MX5DAMDHb1DXOMTDDMXCD4M9D7M2DEM6DaQMdRD5AsOD4MHD3MDD3MZN",
    "D4MYVD6MCD4M1DFMCD4MXOD8MAD6MX8D8MUD2MCD4M2DXUMgKDCMED2MDD3MAD5MXOD7MFD2MBD6M9D7MaJD1MYSDA8XW6MX",
    "ft0EX0MaXQE6McUE2Mbq2EEMdfHEFMpEEYj2MmUEXl2MawBE5MaZ0ErtYHM1GUMZ0Ga0MdGLX/mGMX//UT2MX//UT2M"])

/-- The codes a category name stands for: a two-letter code itself, `LC` the cased letters, and
a one-letter group every code that starts with its letter. -/
def members (code : String) : List String :=
  if code = "LC" then ["Lu", "Ll", "Lt"]
  else if code.length = 1 then codes.filter (·.startsWith code)
  else [code]

def set (code : String) : CharSet :=
  let wanted := (members code).filterMap codes.idxOf?
  CharSet.ofSorted (table.filterMap fun (lo, hi, v) => if wanted.contains v then some (lo, hi) else none)

end Category
end ControlPlane
