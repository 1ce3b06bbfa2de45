import Routing.Unicode.Script

/-! Characters that several scripts use. -/
namespace Routing.Unicode.Script

/-- The scripts that share characters with others, each with all characters that it uses. Common and
inherited hold the characters for which no scripts are listed. -/
def extended : List (List String × List String) := [
  (["adlm", "adlam"],
    ["BQv0B00GQe0DPh0DOVuCb4941"]),
  (["arab", "arabic"],
    ["BQ041Gm1B1CgBfHgB15Ca1sFwf0DPh0BTIeTvB0fDg41E6-3rCx4uC3588B15BXY031q111020191310106040101012",
    "1110201010101011102316131310191g52141gBk1"]),
  (["armn", "armenian"],
    ["Y80R8B52Bh22BzM34"]),
  (["avst", "avestan"],
    ["Fn0LLo1BXGeBl36"]),
  (["beng", "bengali"],
    ["Vs0BUk1h1q317212l1610332821238041142oEWh01021108080204022BC-p0"]),
  (["bopo", "bopomofo"],
    ["W7012d0g1LIl2491ca32060G309BaDgvBTE51Iq4"]),
  (["bugi", "buginese"],
    ["GQ0r21BDzf0"]),
  (["buhd", "buhid"],
    ["FZl19j"]),
  (["cari", "carian"],
    ["Fn0Hz2020DOj0BVDeBg"]),
  (["aghb", "caucasianalbanian"],
    ["Y40Bc0Bc0CAOhBjb0"]),
  (["cakm", "chakma"],
    ["CP69BSg9CAFmBk1h"]),
  (["cher", "cherokee"],
    ["Y021061m1b1EDeCl25BFxiCf"]),
  (["zyyy", "common"],
    ["0C0q5qBe1b1114n0v0O12191030181015542jDu06010Tt0Gn0Q40BKs0Ml3EB7b2B01u1911161a3a1ehB1BuB51225",
    "1q1gB924UpmalyvI0Tj2E9Q0m1n2913101pN2030d0d0l0Qhnv0Bhec3F195Cvv0GO0BvWI8pD62+g0e1UV49mk2b1i1",
    "3Ej01vq5q5Dv616a4MicBjBcBSQ3Hs3Nj6mfgCvDjBsHlaB62Bt3g817t4BsGljcjcCmr6E7Ck1C6112021231b10161",
    "C01327161r131410361Kj2J32BhFDhC3CcBsW2Bb4D3ce2e1e1B4aFdBop11dBb48n5Eq+o3g3c3Gp6b40fb4Bn896B7",
    "8t2b41e8B7Kn8d2c3a3Bo104f2b497Ei1D6YBA60uCv"]),
  (["copt", "coptic", "qaac"],
    ["Fn0S803110Dc1DcdKEgDj56In0BVG8r"]),
  (["cprt", "cypriot"],
    ["CAI024Bc38BW05201Bb113020"]),
  (["cpmn", "cyprominoan"],
    ["CAI01LUeD2"]),
  (["cyrl", "cyrillic"],
    ["Vs0C321010102050HeJfFwgaF00Cc0Dv0D-7vC30z-sCvVye1BYQ0BtB10"]),
  (["deva", "devanagari"],
    ["Vs0BS3Ci2BaEwgB611-m0BBZv9F6vyQ09"]),
  (["dogr", "dogra"],
    ["CL4bBHW09x+6Br"]),
  (["dupl", "duployan"],
    ["Fn0Sf110o1KYn0DDO3Da5c387927"]),
  (["elba", "elbasan"],
    ["Fn0Sd0CAPqB7"]),
  (["ethi", "ethiopic"],
    ["Ye0DXhC8132610132B8132B0132610132e1Bo132C22v3pGP6m9616161616161616-J2525259616CPFh613111e"]),
  (["gara", "garay"],
    ["BQc0e030CBZ0B53s81"]),
  (["geor", "georgian"],
    ["Fn0BGh0CYmB510502BfCygBa22yq0DF5B51050I30"]),
  (["glag", "glagolitic"],
    ["Fn0Sb010Lu020I10Cxh0Dwu0Cz5CvP30+Bb0COMg61g261114"]),
  (["goth", "gothic"],
    ["Fn0Sc120B80B--uq"]),
  (["gran", "grantha"],
    ["CKh1h1U0dEGs011u231-m0ByQf317212l1611141921222060562634DCr110"]),
  (["grek", "greek"],
    ["Fn0S81201010a0Be020Ba72310401012101j1BuefGJ64Bi444Ck2Jul252B525271010101u2Bk1e1d251i2218Cu0G",
    "80BCRu0VOqCeh0BUCvC5"]),
  (["gujr", "gujarati"],
    ["CKh1h1Ir218121l16111429121220f32b76BHJg9"]),
  (["gong", "gunjalagondi"],
    ["Fn0CFc1CE-q5111B4111579"]),
  (["guru", "gurmukhi"],
    ["CKh1h1Er215412l16111111201441223073107gBHNp9"]),
  (["gukh", "gurungkhema"],
    ["CL50CVyqBp"]),
  (["hani", "han"],
    ["Fn0LO8p1CocGlqf121c1c1c2068Fr0EkfB0B590BgB7BoBgfbBj0Cooa4D0u1GNvC0UPvBY07UPoLd2D9xb1Iq4yDs1c",
    "6Yx9hHWu1DNeBJWvB0EIt2FUd2HJgfTdCN2QtBP2Ewa5IJ9"]),
  (["hang", "hangul"],
    ["EI0HvHQ12491ce260G30BlCtDhuC1uzX1sU3Kz3cm4BgJS91Iq4Bqu35252522"]),
  (["rohg", "hanifirohingya"],
    ["BQc0e030B00Ej0CBRbB789"]),
  (["hano", "hanunoo"],
    ["FZ0m"]),
  (["hebr", "hebrew"],
    ["Y71U8Bm8q45BzJ8p1410111119"]),
  (["hira", "hiragana"],
    ["MA12491cg510413Cl27Cq1BTK81Iq4a0Bd1BMD1Iui0t2QFd0"]),
  (["zinh", "inherited", "qaai"],
    ["Yf0201e36202f111h1413BPg1EKrBd2bWmBl1014Qc1G2vBXIgfgd+f0BTI2Bd2mR02h726u3YLwiHf"]),
  (["java", "javanese"],
    ["BKM0Cd1a41"]),
  (["kthi", "kaithi"],
    ["CL69JG10+Pu9wC6C2a0"]),
  (["knda", "kannada"],
    ["CKh1h1Yqc121m19142812137152132912D+s01160n010BCZr5"]),
  (["kana", "katakana"],
    ["Y50t0LGt2491cg51041Cr33CvHgfGgBe1CnBSXd1IqBuBMCg3161110Iv2Bi0e3"]),
  (["kali", "kayahli"],
    ["BKI0Bf"]),
  (["khoj", "khojki"],
    ["CX69BHK09wO6h1Be"]),
  (["sind", "khudawadi"],
    ["CL41BHWa9wTmBq59"]),
  (["latn", "latin"],
    ["C1p6pBf0c0205m1u1O030a01210901064re1110f27111B60504cIl1BGa1Bz80DA4B56Bg535c1C5Bp07HvJf0C10d0",
    "gcCj0Bp160r0hB8CWnvMn0+H87qD53ChkeJe0Q1Ba1813Tym6BAqp6pCB551B918BVw5u65"]),
  (["limb", "limbu"],
    ["CL50Dyqu1b4b403b"]),
  (["lina", "lineara"],
    ["CAI7BcBGcJm9la7"]),
  (["linb", "linearb"],
    ["CAA0b1p1i111e2dB2Dq524Bc38"]),
  (["lisu"],
    ["Vs0g0LJs1zG4Bf+Vg0"]),
  (["lyci", "lycian"],
    ["ICq0BYR5s"]),
  (["lydi", "lydian"],
    ["Fn0LLp0BWXep50"]),
  (["mahj", "mahajani"],
    ["Fn0CFcbBHW09wImB6"]),
  (["mlym", "malayalam"],
    ["CKh1h1yqc121Bi12154f2pDwq0n0BCZt2"]),
  (["mand", "mandaic"],
    ["BS00Pvr20"]),
  (["mani", "manichaean"],
    ["BS00CBDvB64b"]),
  (["gonm", "masaramgondi"],
    ["CL41CEyq6111Bb30111889"]),
  (["mero", "meroitichieroglyphs"],
    ["ICt0BwJ2v"]),
  (["modi"],
    ["BKBg9xO6C4b9"]),
  (["mong", "mongolian"],
    ["GA0p6Co7BaBy40D+h153BZSkc"]),
  (["mult", "multani"],
    ["CT69CCAg610131e1a"]),
  (["mymr", "myanmar"],
    ["EA0EvBGEe0FhuD1vxCgj"]),
  (["nand", "nandinagari"],
    ["CKh0i1y09D-p08070BCZl5yLa72Bd2a"]),
  (["newa"],
    ["CKh1Ey201190601010BzYiCr14"]),
  (["nkoo", "nko"],
    ["BQc0e030N0Bq22BzJu1"]),
  (["onao", "olonal"],
    ["CL41DXDaBa40"]),
  (["hung", "oldhungarian"],
    ["ICq020DOj0f0BXRuBidBi75"]),
  (["perm", "oldpermic"],
    ["Fn0S8052a0Lf0B-WcBa"]),
  (["orkh", "oldturkic"],
    ["ICq0DOl0BXOfC8"]),
  (["ougr", "olduyghur"],
    ["BS00CBFh0BDtp"]),
  (["orya", "oriya"],
    ["CKh1h1Mr217212l1611142821227241142hEL20n0"]),
  (["osge", "osage"],
    ["Y102060Cc0CAKnB34B3"]),
  (["phag", "phagspa"],
    ["GA2110CB90D+i0+BtBn"]),
  (["phlp", "psalterpahlavi"],
    ["BS00CBJvh73c6"]),
  (["runr", "runic"],
    ["FV0Co"]),
  (["samr", "samaritan"],
    ["CA0Bd2eJPi0"]),
  (["shrd", "sharada"],
    ["CKh0Ey501021209020BCw2520wK7CvCM07"]),
  (["shaw", "shavian"],
    ["Fn0CAyoBf"]),
  (["sinh", "sinhala"],
    ["CL41BAr21h3n181026304510176922DXt0BzHej"]),
  (["sogd", "sogdian"],
    ["BS00CCHfB9"]),
  (["sunu", "sunuwar"],
    ["Y01109020s030CGEeB1e9"]),
  (["sylo", "sylotinagri"],
    ["CL41E09BHQgBc"]),
  (["syrc", "syriac"],
    ["Y312110o27111Wq0e120B00aaq0Efd1Br22IgaFMd010"]),
  (["tglg", "tagalog"],
    ["FY0l90l1"]),
  (["tagb", "tagbanwa"],
    ["FZl1B9c1211"]),
  (["tale", "taile"],
    ["Y015130DJj9CI6t24"]),
  (["takr", "takri"],
    ["CL41BHWa9xS6Bp69"]),
  (["taml", "tamil"],
    ["CKh1h1Qs115321331101131323b4432132060ekEGv0BDAo0wQd010Bn1DE3Bhd0"]),
  (["tang", "tangut"],
    ["L-gfPf0CPPg0vGXvQ0uD1Di"]),
  (["telu", "telugu"],
    ["CKh1h1Uqc121m1f281213711211232978ECl11010n0"]),
  (["thaa", "thaana"],
    ["BQc0e120C09ImBhBzS00a0"]),
  (["thai"],
    ["Vs0q0Bb0Bd0CWfBp5r"]),
  (["tibt", "tibetan"],
    ["DY0C71B34B61B31e1641IBd3"]),
  (["tfng", "tifinagh"],
    ["Y201013p0KQcBn71e0"]),
  (["tirh", "tirhuta"],
    ["CKh1h1Exf0c0f0BCZt9xC6C789"]),
  (["todr", "todhri"],
    ["Y1020209010Ca0CAT1Bj"]),
  (["toto"],
    ["Vs0DX+ju"]),
  (["tutg", "tulutigalari"],
    ["DH69EA2010BCZr5Fr0wUe910201B519102013191181"]),
  (["yezi", "yezidi"],
    ["BQc0e030C09CCAmB91221"]),
  (["yiii", "yi"],
    ["MA115927Gv0xY4BEc3BmWUq4"])]

def extendedOfName? (name : String) : Option (List Span) :=
  findSpans? extended name <|> ofName? name

end Routing.Unicode.Script
