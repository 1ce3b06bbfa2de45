import Routing.Unicode.Span

/-! Scripts of Unicode characters: each entry holds a script's folded names and the text of its spans. -/
namespace Routing.Unicode.Script

/-- Every script with at least one character. -/
def table : List (List String × List String) := [
  (["adlm", "adlam"],
    ["DwI0Cb4941"]),
  (["ahom"],
    ["CFY0q2e4m"]),
  (["hluw", "anatolianhieroglyphs"],
    ["CRA0S6"]),
  (["arab", "arabic"],
    ["BQ04151d121v19bp1Db1B1CgBfHgB15Ca1sBySgPd2EfB0fDg41E6Dx3uC3588B15BXY031q11102019131010604010",
    "10121110201010101011102316131310191g52141gBk1"]),
  (["armn", "armenian"],
    ["BJhB52Bh22BzM34"]),
  (["avst", "avestan"],
    ["CCY0Bl36"]),
  (["bali", "balinese"],
    ["GY0Cc1Bh"]),
  (["bamu", "bamum"],
    ["BJV0CnBQI8Ro"]),
  (["bass", "bassavah"],
    ["CwWgt25"]),
  (["batk", "batak"],
    ["G+0Bj83"]),
  (["beng", "bengali"],
    ["CM0317212l1610332821238041142o"]),
  (["bhks", "bhaiksuki"],
    ["CHA081Bc1das"]),
  (["bopo", "bopomofo"],
    ["Xa1LQpBaDgv"]),
  (["brah", "brahmi"],
    ["CEA0Cd4B390"]),
  (["brai", "braille"],
    ["KA0Hv"]),
  (["bugi", "buginese"],
    ["GQ0r21"]),
  (["buhd", "buhid"],
    ["Fw0j"]),
  (["cans", "canadianaboriginal"],
    ["FA0TvRgC5CANqf"]),
  (["cari", "carian"],
    ["CAV0Bg"]),
  (["aghb", "caucasianalbanian"],
    ["CBJgBjb0"]),
  (["cakm", "chakma"],
    ["CEI0Bk1h"]),
  (["cham"],
    ["BKQ0Bm9d2923"]),
  (["cher", "cherokee"],
    ["Ez0Cl25BFxiCf"]),
  (["chrs", "chorasmian"],
    ["CDzgr"]),
  (["zyyy", "common"],
    ["0C0q5qBe1e14n0v0O1B6542jDk0906010Tt060e030B00Es0Q40E11BGp0Ml3J20BPf2C71Gb110BGd0d073151220Y5",
    "b2Cm1a3a1ehB1BuB512251q1gB924UpmalyvI0Tj2E9Q0CtMik101of743Cr130Cq1EjfB0B590BgBvvCgBf0CoF7GO0",
    "BvWI0B1D62F59Hk0F00Mb0e1UOi1Gg9mB21i13Ej01vq5qaa0Bd1C0616a4I224Bc38CgcBjBcH4qBON43DwsHs3Nj6m",
    "fgCvDjBsHlaB62Bt3g817t4BsGljcjcCm9oE7Ck1C6112021231b10161C01327161r131410361Kj2J32BhFDhC3CcB",
    "sW2Bb4D3ce2e1e1B4aFdBop11dBb4871e5Eq+o3g3c3Gp6b40fb4Bn896B78t2b41e8B7Kn8d2c3a3Bo104f2b497Ei1",
    "D6YBA60uCv"]),
  (["copt", "coptic", "qaac"],
    ["-2dKEgDj56"]),
  (["xsux", "cuneiform"],
    ["CIA0ypD6De14bG3"]),
  (["cprt", "cypriot"],
    ["CCA05201Bb113020"]),
  (["cpmn", "cyprominoan"],
    ["CLygD2"]),
  (["cyrl", "cyrillic"],
    ["BA0E42F8FwgaF00Cc0ED7v+C0CvVye1BYQ0BtB10"]),
  (["dsrt", "deseret"],
    ["CBA0Cf"]),
  (["deva", "devanagari"],
    ["CI0Cg4e2pBHx0vyQ09"]),
  (["diak", "divesakuru"],
    ["CGI062027111t112b99"]),
  (["dogr", "dogra"],
    ["CGA0Br"]),
  (["dupl", "duployan"],
    ["DPA0Da5c387923"]),
  (["egyp", "egyptianhieroglyphs"],
    ["CMA0BClaDyq"]),
  (["elba", "elbasan"],
    ["CBI0B7"]),
  (["elym", "elymaic"],
    ["CD-0m"]),
  (["ethi", "ethiopic"],
    ["EQ0C8132610132B8132B0132610132e1Bo132C22v3pGP6m9616161616161616-J2525259616CPFh613111e"]),
  (["gara", "garay"],
    ["CDK0B53s81"]),
  (["geor", "georgian"],
    ["EF0B510502Ba13CygBa22EC0B51050"]),
  (["glag", "glagolitic"],
    ["LA0CvDMz061g261114"]),
  (["goth", "gothic"],
    ["CAZgq"]),
  (["gran", "grantha"],
    ["CEY0317212l1611142821222060562634"]),
  (["grek", "greek"],
    ["xg3122310401012101j1BuefGJ64Bi444Ck0K0l252B525271010101u2Bk1e1d251i2218J70BCRu0VOqCeh0BUCvC5"]),
  (["gujr", "gujarati"],
    ["CU1218121l16111429121220f32b76"]),
  (["gong", "gunjalagondi"],
    ["CHL05111B4111579"]),
  (["guru", "gurmukhi"],
    ["CQ1215412l16111111201441223073107g"]),
  (["gukh", "gurungkhema"],
    ["CYI0Bp"]),
  (["hani", "han"],
    ["LU0p1CocGlBf010p8e3+4GNvC0UPvWI0Ld2D9zI81c6BEA9BJWvB0EIt2FUd2HJgfTdCN2QtBP2Ewa5IJ9"]),
  (["hang", "hangul"],
    ["EI0HvHRe1I1CtDhuC1uzX1sU3Kz3cm4BgJz4u35252522"]),
  (["rohg", "hanifirohingya"],
    ["CDI0B789"]),
  (["hano", "hanunoo"],
    ["FZ0k"]),
  (["hatr", "hatran"],
    ["CCH0i1154"]),
  (["hebr", "hebrew"],
    ["BMhBm8q45BzJ8p1410111119"]),
  (["hira", "hiragana"],
    ["MC1Cl62C-x1Iui0t2QFd0"]),
  (["armi", "imperialaramaic"],
    ["CCC0l18"]),
  (["zinh", "inherited", "qaai"],
    ["Y0DfIl1O4aq0X03EKrBd2bP421c16406031G6BvQc1G2B0DZp3Db1BTL5fgd+f0H20ECq0BO+4Bd2mR02h726u3YLwiH",
    "f"]),
  (["phli", "inscriptionalpahlavi"],
    ["CCx0i57"]),
  (["prti", "inscriptionalparthian"],
    ["CCw0l27"]),
  (["java", "javanese"],
    ["BKM0Cd2941"]),
  (["kthi", "kaithi"],
    ["CEE0C2a0"]),
  (["knda", "kannada"],
    ["DE0c121m19142812137152132912"]),
  (["kana", "katakana"],
    ["MF1Cp22HgfGgBe1CnBTAe91BcBMCi3161110Iv2Bi0e3"]),
  (["kawi"],
    ["CHY0g1B83s"]),
  (["kali", "kayahli"],
    ["BKI0Bd10"]),
  (["khar", "kharoshthi"],
    ["CCQ031157121s224978"]),
  (["kits", "khitansmallscript"],
    ["Cx-40GYrOlB90"]),
  (["khmr", "khmer"],
    ["Fy0Ct2969P6v"]),
  (["khoj", "khojki"],
    ["CEQ0h1Be"]),
  (["sind", "khudawadi"],
    ["CEVgBq59"]),
  (["krai", "kiratrai"],
    ["CxK0Bp"]),
  (["laoo", "lao"],
    ["DU1110141n101m2410161923"]),
  (["latn", "latin"],
    ["C1p6pBf0f05m1u1O0B74GQrB56Bg535c1C5C1HvLh0d0gcEd160r0hB8CWnv+V2D53ChkeZgBa1813Tym6BAqp6pCB55",
    "1B918BVw5u65"]),
  (["lepc", "lepcha"],
    ["HA0Bn3e32"]),
  (["limb", "limbu"],
    ["GI0u1b4b403b"]),
  (["lina", "lineara"],
    ["CBQ0Jm9la7"]),
  (["linb", "linearb"],
    ["CAA0b1p1i111e2dB2Dq"]),
  (["lisu"],
    ["BJGgBf+Vg0"]),
  (["lyci", "lycian"],
    ["CAU0s"]),
  (["lydi", "lydian"],
    ["CCJ0p50"]),
  (["mahj", "mahajani"],
    ["CEKgB6"]),
  (["maka", "makasar"],
    ["CHX0o"]),
  (["mlym", "malayalam"],
    ["DI0c121Bi12154f2p"]),
  (["mand", "mandaic"],
    ["CC0r20"]),
  (["mani", "manichaean"],
    ["CCW0B64b"]),
  (["marc", "marchen"],
    ["CHDgv2l1d"]),
  (["gonm", "masaramgondi"],
    ["CHI06111Bb30111889"]),
  (["medf", "medefaidrin"],
    ["CxS0Cq"]),
  (["mtei", "meeteimayek"],
    ["BKX0mG9Bd29"]),
  (["mend", "mendekikakui"],
    ["DwA0G42f"]),
  (["merc", "meroiticcursive"],
    ["CCN0n4j2Bd"]),
  (["mero", "meroitichieroglyphs"],
    ["CCM0v"]),
  (["plrd", "miao"],
    ["CxY0Ca4Bo7g"]),
  (["modi"],
    ["CFQ0C4b9"]),
  (["mong", "mongolian"],
    ["GA01201j6Co7BaB-Nlc"]),
  (["mroo", "mro"],
    ["CwS0u1941"]),
  (["mult", "multani"],
    ["CEU0610131e1a"]),
  (["mymr", "myanmar"],
    ["EA0EvBGK0uD1vxCgj"]),
  (["nbat", "nabataean"],
    ["CCE0u88"]),
  (["nagm", "nagmundari"],
    ["DZGgB9"]),
  (["nand", "nandinagari"],
    ["CGN072Bd2a"]),
  (["talu", "newtailue"],
    ["GM0Bb4p6a31"]),
  (["newa"],
    ["CFA0Cr14"]),
  (["nkoo", "nko"],
    ["B+0Bq22"]),
  (["nshu", "nushu"],
    ["Cx-10QMeMb"]),
  (["hmnp", "nyiakengpuachuehmong"],
    ["DYI0Bc3d2941"]),
  (["ogam", "ogham"],
    ["FU0s"]),
  (["olck", "olchiki"],
    ["HCgBf"]),
  (["onao", "olonal"],
    ["DZOgBa40"]),
  (["hung", "oldhungarian"],
    ["CDE0BidBi75"]),
  (["ital", "olditalic"],
    ["CAY0B392"]),
  (["narb", "oldnortharabian"],
    ["CCU0v"]),
  (["perm", "oldpermic"],
    ["CAwgBa"]),
  (["xpeo", "oldpersian"],
    ["CAz0B34d"]),
  (["sogo", "oldsogdian"],
    ["CDY0B7"]),
  (["sarb", "oldsoutharabian"],
    ["CCT0v"]),
  (["orkh", "oldturkic"],
    ["CDA0C8"]),
  (["ougr", "olduyghur"],
    ["CDxgp"]),
  (["orya", "oriya"],
    ["CY1217212l1611142821227241142h"]),
  (["osge", "osage"],
    ["CBFgB34B3"]),
  (["osma", "osmanya"],
    ["CBE0t29"]),
  (["hmng", "pahawhhmong"],
    ["CwY0C5a9161k5i"]),
  (["palm", "palmyrene"],
    ["CCD0v"]),
  (["pauc", "paucinhau"],
    ["CGW0Bo"]),
  (["phag", "phagspa"],
    ["BKC0Bn"]),
  (["phnx", "phoenician"],
    ["CCI0r30"]),
  (["phlp", "psalterpahlavi"],
    ["CCy0h73c6"]),
  (["rjng", "rejang"],
    ["BKJgB3b0"]),
  (["runr", "runic"],
    ["FV0Ca3a"]),
  (["samr", "samaritan"],
    ["CA0Bd2e"]),
  (["saur", "saurashtra"],
    ["BKE0C58b"]),
  (["shrd", "sharada"],
    ["CEM0CvCM07"]),
  (["shaw", "shavian"],
    ["CBCgBf"]),
  (["sidd", "siddham"],
    ["CFM0Bl2B5"]),
  (["sgnw", "signwriting"],
    ["DWA0Ubf41e"]),
  (["sinh", "sinhala"],
    ["DM121h3n181026304510176922CA-cj"]),
  (["sogd", "sogdian"],
    ["CDZgB9"]),
  (["sora", "sorasompeng"],
    ["CEGgo79"]),
  (["soyo", "soyombo"],
    ["CGSgCi"]),
  (["sund", "sundanese"],
    ["Gy0BvI07"]),
  (["sunu", "sunuwar"],
    ["CG+0B1e9"]),
  (["sylo", "sylotinagri"],
    ["BKA0Bc"]),
  (["syrc", "syriac"],
    ["BY0d1Br22Iga"]),
  (["tglg", "tagalog"],
    ["FY0l90"]),
  (["tagb", "tagbanwa"],
    ["Fx0c1211"]),
  (["tale", "taile"],
    ["GKgt24"]),
  (["lana", "taitham"],
    ["GR0Bu1s2a696d"]),
  (["tavt", "taiviet"],
    ["BKU0C2o4"]),
  (["takr", "takri"],
    ["CFU0Bp69"]),
  (["taml", "tamil"],
    ["Cy2115321331101131323b4432132060ekCE+5Bhd0"]),
  (["tnsa", "tangsa"],
    ["CwTgCe19"]),
  (["tang", "tangut"],
    ["Cx-00vGXvQ0uD1Di"]),
  (["telu", "telugu"],
    ["DA0c121m1f281213711211232978"]),
  (["thaa", "thaana"],
    ["By0Bh"]),
  (["thai"],
    ["DQ1Bp5r"]),
  (["tibt", "tibetan"],
    ["DY0C71B34B61B31e1641"]),
  (["tfng", "tifinagh"],
    ["LJgBn71e0"]),
  (["tirh", "tirhuta"],
    ["CFE0C789"]),
  (["todr", "todhri"],
    ["CBO0Bj"]),
  (["toto"],
    ["DYUgu"]),
  (["tutg", "tulutigalari"],
    ["CEy0910201B519102013191181"]),
  (["ugar", "ugaritic"],
    ["CAy0t10"]),
  (["vaii", "vai"],
    ["BJI0Jb"]),
  (["vith", "vithkuqi"],
    ["CBLga1e16111a1e1611"]),
  (["wcho", "wancho"],
    ["DYW0Bp50"]),
  (["wara", "warangciti"],
    ["CGF0Cic0"]),
  (["yezi", "yezidi"],
    ["CDU0B91221"]),
  (["yiii", "yi"],
    ["BIA0BEc3Bm"]),
  (["zanb", "zanabazarsquare"],
    ["CGQ0C7"])]

def ofName? (name : String) : Option (List Span) :=
  findSpans? table name

end Routing.Unicode.Script
