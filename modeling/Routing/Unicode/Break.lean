import Routing.Unicode.Span

/-! The classes by which text is cut into grapheme clusters, words and sentences. Each entry holds
the folded names of a class and the text of its spans; the characters of no class are left out. -/
namespace Routing.Unicode.Break

def graphemeCluster : List (List String × List String) := [
  (["cn", "control"],
    ["09111hCvB0d0BLe0EPh0B-s021o6BhfBXUf0HgbNBkfBCD03FGf7YLU5vD0DvHgDQf"]),
  (["cr"],
    ["d0"]),
  (["ex", "extend"],
    ["Y0DfIj6I7Bc10111110C8aBgkg0D56252113B30uqCraBq890o3181214Bb2Br8Ban1vBn010474036a1t0Bq0102380",
    "90a1q021Bp041412230u130b1Bp0441140k1m510Bq011138072a1u0Br010c090B8030Bn012521371b1t0Bq021103",
    "21371b1s1Bp110238090a1t0C8040221080Ch026c7D2028b6C91r01010Bnd14115a1B390D63151121p142g3d0216",
    "0f0Vv2zi3s2t1u1C0116802a90Bd210Dl1B20Dm2419062Gr120Bq0161010276920BgBd2bk3Bg942B68c1B0325Bo0",
    "113014Bo721Eo21c16406031G6BvQc0G3B0C-u2Ed0D0vRa5D91zOk319B01Cg1Ig03040p150En1qhd0B67pa10Bc2B",
    "g0232120B40C352121c080Bf0Bj012215110Ba180He02040TZg0X1fgfLe1St0H20El4BU621153B8240F51Rt3C14J",
    "t1Cd5C6aBh3Dr0BmeB9021a2Bh32170Bt2B4417Bu0c1Bk8108320Cv2236020Et037l1Bp11010c090e634C3025102",
    "0124210e1Cl72210n0Ch02510201111Hb0236111r1Cl72011Da01027D50102314I3811Hl0a340Eg32140B09B8523",
    "809522Bec11G601210G961510Cil261111Dq530111610C813010Kr1b1Bk452n0FH506eLG8b32CO04Br6BAo0Bv3Ch",
    "0b1TFb1ET1Bd2mQu4358726u3Ek2BzrBm4Bh80e0m41eBKg61g261114D40F06Ln0Bt3Ps3Hu1Hj0207150Oq6Dd6CVg",
    "4YDB0CvE0Hf"]),
  (["l"],
    ["EI0CvBGA0s"]),
  (["lf"],
    ["a0"]),
  (["lv"],
    ["BLA00r0r0r0r0r0r0r0r0r0r0r0r0r0r0r0r0r0r0r0r0r0r0r0r0r0r0r0r0r0r0r0r0r0r0r0r0r0r0r0r0r0r0r0r",
    "0r0r0r0r0r0r0r0r0r0r0r0r0r0r0r0r0r0r0r0r0r0r0r0r0r0r0r0r0r0r0r0r0r0r0r0r0r0r0r0r0r0r0r0r0r0r",
    "0r0r0r0r0r0r0r0r0r0r0r0r0r0r0r0r0r0r0r0r0r0r0r0r0r0r0r0r0r0r0r0r0r0r0r0r0r0r0r0r0r0r0r0r0r0r",
    "0r0r0r0r0r0r0r0r0r0r0r0r0r0r0r0r0r0r0r0r0r0r0r0r0r0r0r0r0r0r0r0r0r0r0r0r0r0r0r0r0r0r0r0r0r0r",
    "0r0r0r0r0r0r0r0r0r0r0r0r0r0r0r0r0r0r0r0r0r0r0r0r0r0r0r0r0r0r0r0r0r0r0r0r0r0r0r0r0r0r0r0r0r0r",
    "0r0r0r0r0r0r0r0r0r0r0r0r0r0r0r0r0r0r0r0r0r0r0r0r0r0r0r0r0r0r0r0r0r0r0r0r0r0r0r0r0r0r0r0r0r0r",
    "0r0r0r0r0r0r0r0r0r0r0r0r0r0r0r0r0r0r0r0r0r0r0r0r0r0r0r0r0r0r0r0r0r0r0r0r0r0r0r0r0r0r0r0r0r0r",
    "0r0r0r0r0r0r0r0r0r0r0r0r0r0r0r0r0r0r0r0r0r0r0r0r0r0r0r0r0r0r0r0r0r0r0r0r0r0r0r0r0r0r0r0r0r0r",
    "0r0r0r0r0r0r0r0r0r0r0r0r0r0r0r0r0r0r0r0r0r0r0r0r0r0r0r0r0r0r0r0r0"]),
  (["lvt"],
    ["BLA1q1q1q1q1q1q1q1q1q1q1q1q1q1q1q1q1q1q1q1q1q1q1q1q1q1q1q1q1q1q1q1q1q1q1q1q1q1q1q1q1q1q1q1q1",
    "q1q1q1q1q1q1q1q1q1q1q1q1q1q1q1q1q1q1q1q1q1q1q1q1q1q1q1q1q1q1q1q1q1q1q1q1q1q1q1q1q1q1q1q1q1q1",
    "q1q1q1q1q1q1q1q1q1q1q1q1q1q1q1q1q1q1q1q1q1q1q1q1q1q1q1q1q1q1q1q1q1q1q1q1q1q1q1q1q1q1q1q1q1q1",
    "q1q1q1q1q1q1q1q1q1q1q1q1q1q1q1q1q1q1q1q1q1q1q1q1q1q1q1q1q1q1q1q1q1q1q1q1q1q1q1q1q1q1q1q1q1q1",
    "q1q1q1q1q1q1q1q1q1q1q1q1q1q1q1q1q1q1q1q1q1q1q1q1q1q1q1q1q1q1q1q1q1q1q1q1q1q1q1q1q1q1q1q1q1q1",
    "q1q1q1q1q1q1q1q1q1q1q1q1q1q1q1q1q1q1q1q1q1q1q1q1q1q1q1q1q1q1q1q1q1q1q1q1q1q1q1q1q1q1q1q1q1q1",
    "q1q1q1q1q1q1q1q1q1q1q1q1q1q1q1q1q1q1q1q1q1q1q1q1q1q1q1q1q1q1q1q1q1q1q1q1q1q1q1q1q1q1q1q1q1q1",
    "q1q1q1q1q1q1q1q1q1q1q1q1q1q1q1q1q1q1q1q1q1q1q1q1q1q1q1q1q1q1q1q1q1q1q1q1q1q1q1q1q1q1q1q1q1q1",
    "q1q1q1q1q1q1q1q1q1q1q1q1q1q1q1q1q1q1q1q1q1q1q1q1q1q1q1q1q1q1q1q1q"]),
  (["pp", "prepend"],
    ["BQ05Gn0Bh0M01Cg0BDb0CAxe0f0Hk1Qd0BLd010K25Vs0Nr0"]),
  (["ri", "regionalindicator"],
    ["DyP6p"]),
  (["sm", "spacingmark"],
    ["CI30Bn0228311Bi1Br16121Bm0Bq2C20Bq28011Bl1Bs06121Di0113212Bk2Bt3Bt1Bq02011Be0e1Br15212Bl1Cc1",
    "66j1Bv0Dv0Ea1Bv0Fh091p1Bc0BZh07711Kq3224115H01Bq010l5Eh0Bp3C00u041Bv02210Bl781Fb0l0BCZb120Co",
    "1BifEe0Bg0Bg14121Df121o0Et02150Hd1111110ZAj010Dv0Bd241Dj0o1Br0Bg290e0Ct231Fc2v1Br0132121l1Cl",
    "1f011D728130Db160111020He16320Dh28110Dd011De070I5290Ho4117010Ee28340Ck0t1Bu0G903010G70e0Da07",
    "020Gl44110Ku1c0Bg181QPa2DR4Bm"]),
  (["t"],
    ["EN8CnBRObBg"]),
  (["v"],
    ["EL0C7BRQ8mBFMs033"]),
  (["zwj"],
    ["IAd0"])]

def word : List (List String × List String) := [
  (["le", "aletter"],
    ["C1p6pBf0a020105m1u1Ov6B1Dg41123106012101j1Ci1Ea8F51B523101B810D80BcBaB311D210f171a220f11ttCo",
    "b0oB091405l409030no7a5n16gB9BqBl30i079ff47212l16103330g0d112e1a085412l16111111v310j2g8121l16",
    "111430i0f1n0b7212l16111430u112f0h015321331101131323bm0Bk7121m1f30q21121u047121m191430u211f1h",
    "8121B820g05282o55h3n181026Jp0Bv71B3r4IjB510502Ba1Kc132610132B8132B0132610132e1Bo132C2B5fgCl2",
    "53Tb2g1p5Ca3a7hdiehec12FfCo742B1105C5auH1mHeBeh7Bmtd1aBbqB3B92aB32a5Ba22B931511305FvC0Il252B",
    "525271010101u2Bk1610321633254c5216Dk0d0gcD5040291034601010131a235440hB8ZdBjBYmH46331cB510502",
    "Bn70gm9616161616161616Cg0Ol0Bl1G8Ba1CthvxS0BEcC3Bd2Ic3fa1kBegu2CfoGkkg12131mtBjeBhBu53011bra",
    "mps7Bes0BgB8n217Eka72c5252596161Bp6DitKz3cm4BgIY46c4BoD1B1LaiBv2BlB8bDk41E6B4p6pC5u35252522B",
    "3b1p1i111e2dB2DqC5BkIbs3BgBfvdt5B5at2B34714BaEtiB34B34B78Bjca1e16111a1e16113BjcJm9la7o51B918",
    "C55201Bb11302mam9uC1i11alap6pB6Bn61C00f3121sBas3sB371rrBlalaidhDeC8BnBidBidB3B6r9mHqB961g5Bo",
    "sa08lBahBekrmcBkBp120dBcB0oqB3t0208B230cBfe3l010B3h1oj1Bv610131e197BeB67212l16111430i0c4u910",
    "201B510p010BcBki3k2uBfk110FoBeB93B4Bfk0BrBad0K7BbDkBvv72027111nf010Cu72B6g010s0aB770l0bBdj0i",
    "C8G7B0v81B4h0BhtDg6111B5l0p5111ve0nBbI4if01c1B1Ds0CfypD6DehG3CScD0fBBfh5pDyq5S6GVptBX2Ro7uhC",
    "ehtiBfg3vk5iNgBcGjBvB0o2oBcCa50C2cC0110TAsDa5c3879Fx6Ck1C6112021231b10161C01327161r131410361",
    "Kj2o1o1u1o1u1o1u1o1u1o17BZku65I5BtEiBca6g0K1tiBbP4rH4t20Gfu1211162491H0613111e1G4BrC370BFk31",
    "q1110201913101060401010121110201010101011102316131310191g52141gTkp6p6p"]),
  (["cr"],
    ["d0"]),
  (["dq", "doublequote"],
    ["B20"]),
  (["extend"],
    ["Y0DfIj6I7Bc10111110C8aBgkg0D56252113B30uqCraBq890o3181214Bb2Br8Ban1B0Bm21h16a1t2Bo016212290a",
    "1q022Bo014412230u130b2Bo0171212k1m512Bo016212272a1u0Br4321390B84Bn016121371b1t2Bo016121371b1",
    "f0c3Bn116121390a1t2C60451017i1Bt026c7D2028b6C91r0101041Bhj115a1B390D4jn342122633db10a3Vv2zi3",
    "s2t1u1C0v90Bd210Dl1B20Dmb4bGr4Bp91s20BgBd2bk4BfgB68c2ucBodBgjEo21k406022G6BvQc0G3B0C-u2Ed0D0",
    "vRa5D91zOk319B01Cg1Ig03040n440Cj1Bihqhd0B67pcBc3BfdB40C3dc081Bd2Bi012215110B9451Hc711TZg0X1f",
    "gfLe1St0H20El4BU621153B8240F51Rt3C14Jt1Cd5C6aBh3Dq2BleB9021a3Bda70Bt2B4dg1Bc0c2Bgd8311Csb602",
    "0Etbl3Bn116212290a12634C381020131410e1Cihn0ChjHb628r1CigDacD5eI0eHl511231011Ed62630s9B861380",
    "9aBefG67G7717Cil1dDq530111610C241114Kr39110Bg634n0FH506eLG8hCO04Br6BAo01Bm73Ch0b1TFb1ET1Bd2m",
    "Qu4358726u3Ek2BzrBm4Bh80e0m41eBKg61g261114D40F06Ln0Bt3Ps3Hu1Hj0207150Oq6Dd6CVg4YDB0CvE0Hf"]),
  (["ex", "extendnumlet"],
    ["Cv0H+f0f1j0BXOu1o2Hf0"]),
  (["fo", "format"],
    ["Fd0BLe0EPh0B-v1q4Bh419BXUf0Hp2NBkfBCD03FGf7YLU60"]),
  (["hl", "hebrewletter"],
    ["BOgq43BzJa0191c1410111119"]),
  (["ka", "katakana"],
    ["MBh4D513Cq13HgfGgBe1CnBTAeBnBMCi3161110Iv2Bi0e3"]),
  (["lf"],
    ["a0"]),
  (["ml", "midletter"],
    ["Bq0Ds0Wf0On0Ek0GRi0BXPb0C10G40"]),
  (["mn", "midnum"],
    ["Bc0e0w20Qa0E21Cu0Mb0GCb0BXQb030Fn0e0"]),
  (["mb", "midnumlet"],
    ["Be0H-91a0BXRd0Fk060"]),
  (["nl", "newline"],
    ["b1Do0Hz21"]),
  (["nu", "numeric"],
    ["Bg9BO65Cq910Dh0i9G69G61Cg0E39Dm9Dm9Dm9Dm9Dm9Dm9Dm9Dm9Dm9D09Dm9C69Im9C69Bw69B69Jc9E0aF5969Fm9",
    "Cm9E6969BCO69V69B69G69m9Cm9Mm9UYm9BM69CE6969Ys9Cd0f0B29Bs9Eg9Im9Km9Dm9Lm9D696jCc9N69D69Um9Cm",
    "9Hm9C69Bm9L69QOm9CJ69Cm9E69Qm9Xxm9CWkBhCK09N69Pm9Hn9wl9EUm9"]),
  (["ri", "regionalindicator"],
    ["DyP6p"]),
  (["sq", "singlequote"],
    ["B70"]),
  (["wsegspace"],
    ["B00FSv0CLv612Ck0Dz00"]),
  (["zwj"],
    ["IAd0"])]

def sentence : List (List String × List String) := [
  (["at", "aterm"],
    ["Be0H-l0BXRd0Fr0"]),
  (["cl", "close"],
    ["B2042Bh010t010Bd0f0DTu3Bwt1CLr7p1a1Bm1e1Tp3t1BBg57dCf1v9MjlBv3B01BA2de129o0i7Nb92712BTIu1Gn1",
    "sf21g5F91Bh010t0101111BzYi2"]),
  (["cr"],
    ["d0"]),
  (["ex", "extend"],
    ["Y0DfIj6I7Bc10111110C8aBgkg0D56252113B30uqCraBq890o3181214Bb2Br8Ban1B0Bm21h16a1t2Bo016212290a",
    "1q022Bo014412230u130b2Bo0171212k1m512Bo016212272a1u0Br4321390B84Bn016121371b1t2Bo016121371b1",
    "f0c3Bn116121390a1t2C60451017i1Bt026c7D2028b6C91r0101041Bhj115a1B390D4jn342122633db10a3Vv2zi3",
    "s2t1u1C0v90Bd210Dl1B20Dmb4bGr4Bp91s20BgBd2bk4BfgB68c2ucBodBgjEo21k406022G6BvQc1G2B0C-u2Ed0D0",
    "vRa5D91zOk319B01Cg1Ig03040n440Cj1Bihqhd0B67pcBc3BfdB40C3dc081Bd2Bi012215110B9451Hc711TZg0X1f",
    "gfLe1St0H20El4BU621153B8240F51Rt3C14Jt1Cd5C6aBh3Dq2BleB9021a3Bda70Bt2B4dg1Bc0c2Bgd8311Csb602",
    "0Etbl3Bn116212290a12634C381020131410e1Cihn0ChjHb628r1CigDacD5eI0eHl511231011Ed62630s9B861380",
    "9aBefG67G7717Cil1dDq530111610C241114Kr39110Bg634n0FH506eLG8hCO04Br6BAo01Bm73Ch0b1TFb1ET1Bd2m",
    "Qu4358726u3Ek2BzrBm4Bh80e0m41eBKg61g261114D40F06Ln0Bt3Ps3Hu1Hj0207150Oq6Dd6YFWlCvE0Hf"]),
  (["fo", "format"],
    ["Fd0BLe0Hi0EHu0B-s021q4Bh419BXUf0Hp2NBkfBCD03FGf7YLU60"]),
  (["lf"],
    ["a0"]),
  (["lo", "lower"],
    ["D1pBf0a040B4n1710101010101010101010101010101010101010101010101010101011101010101010101110101",
    "01010101010101010101010101010101010101010201012201020314020322020101020111020301021226020201",
    "01010101010101110101010101010101120103010101010101010101010101010101010101010101010101010101",
    "01016202110401010101C42B271u4Ec0103023i0rB21132101010101010101010101014102021BjBf10101010101",
    "01010101010101010101010901010101010101010101010101010101010101010101010101010201010101010111",
    "01010101010101010101010101010101010101010101010101010101010101010101010101010101010101010101",
    "010BgB8Cxj0Xr5CE2810DlFvC1010101010101010101010101010101010101010101010101010101010101010101",
    "01010101010101010101010101010101010101010101010101010101010101010101010101010101018101010101",
    "0101010101010101010101010101010101010101010101010101010101010101010101010101010101010101885a",
    "78785a7878d2787878411603211832187a211Dp0d0gcDd03130r04040218340B1f40wbpBw6Bf1031101010401117",
    "30101010101010101010101010101010101010101010101010101010101010101010101010101010101010101010",
    "10101011701040cB51050+Ij010101010101010101010101010101010101010101010j0101010101010101010101",
    "01012E50101010101012101010101010101010101010101010101010101010101010101010101010191010201010",
    "1010401020121010101010101010101050501010101010101040102010101010101010l31012ZlBa1d6CfTw06c4B",
    "B9pBGdB7E8B3Era1e1611O30221B918BI5BiDtlCZqvVM0vBroZK6pq61hqpq310161aqpqpqpqpqpqpqpqpqrso15qo",
    "15qo15qo15qo1510BZk91j65I5BtCFkB1"]),
  (["nu", "numeric"],
    ["Bg9BO65Cq911Dg0i9G69G61Cg0E39Dm9Dm9Dm9Dm9Dm9Dm9Dm9Dm9Dm9D09Dm9C69Im9C69Bw69B69Jc9E0aF5969Fm9",
    "Cm9E6969BCO69V69B69G69m9Cm9Mm9UYm9BM69CE6969Ys9Cd0f0B29Bs9Eg9Im9Km9Dm9Lm9D696jCc9N69D69Um9Cm",
    "9Hm9C69Bm9L69QOm9CJ69Cm9E69Qm9Xxm9CWkBhCK09N69Pm9Hn9wl9EUm9"]),
  (["le", "oletter"],
    ["Nr043Gg1B366bq010E50P40Dmq44BcBaB311D210f171a220g01ttCob0oB091405l409030no7a5n16gB9BqBl30i07",
    "9ff47212l16103330g0d112e1a085412l16111111v310j2g8121l16111430i0f1n0b7212l16111430u112f0h0153",
    "21331101131323bm0Bk7121m1f30q21121u047121m191430u211f1h8121B820g05282o55h3n181026BqBf11c6Bq1",
    "10141n101911902410l3B00Bv71B3r4DjBak0g5433031724cc0C1Ba2Kb132610132B8132B0132610132e1Bo132C2",
    "B5fDhTb2g1p5Ca3a7hdiehec12fBjB3040C3Co742B1105C5auBht24bBb4pBmm9BkCi0CtBeh7Bmtd1aBbqB3B92aB3",
    "iBa22B93151130BBq3C7223Cz7Bn70gm9616161616161616Cg0Ol2p874244Cl621Cp135Ba1CthvBgfQ0GNvC0VUcC",
    "3Bd2Ic3fa1C20g0B0CfB78D8060D703612131mtBjeBhBu53011bramps7Bes0g419a41B8n217km303Bh1031242010",
    "o22a72c525259616EhB2tKz3cm4BgII4Ld2D9C30191c141011111DbB1LaiBv2BlB8bDk41E6D9Bn2u35252522B3b1",
    "p1i111e2dB2DqC5BkIbs3BgBfvdt5B5at2B34714DqCdD2B78BjCsBjcJm9la7p1Dt5201Bb11302mam9uC1i11alap6",
    "pB6Bn61C00f3121sBas3sB371rrBlalaidhDeC8FnB3B65v0IgB961g5Bosa08lBahBekrmcBkBp120dBcB0oqB3t020",
    "8B230cBfe3l010B3h1oj1Bv610131e197BeB67212l16111430i0c4u910201B510p010BcBki3k2uBfk110FoBeB93B",
    "4Bfk0BrBad0C7qB56FpBbGj72027111nf010Cu72B6g010s0aB770l0bBdj0iC8G7B0v81B4h0BhtDg6111B5l0p5111",
    "ve0nBbI4if01c1B1Ds0CfypD6DehG3CScD0fBBfh5pDyq5S6GVptBX2Ro7uhCehtiBfg3vk5iNgBcMjCa50C2cC0110e",
    "49HGlB9vD1DiIPt316111J2f0t220e38MbCI4Da5c3879ITg0PlBca6g0K1tiBbP4rH4t20Gfu1211162491H0613111",
    "e1G4E60BFk31q1110201913101060401010121110201010101011102316131310191g52141gEK4BJWvB0EIt2FUd2",
    "HJgfTdCN2QtBP2Ewa5IJ9"]),
  (["sc", "scontinue"],
    ["Bc1c1w20Ou0Fe1Pa0EA9050CAa1D-c0BTQe111s1t12120a0F81c1C80"]),
  (["se", "sep"],
    ["E50Hz21"]),
  (["sp"],
    ["9011j0Dv0FOv0CLvaB40Bf0Dz00"]),
  (["st", "sterm"],
    ["B10t0BK90Ej2Fk0Bb2Hm0Bt01031J51BX41Ym041Y50G61Et1Bd050Jq1L23F21a121t2Fr1C11zs192DFf2Ji0d0m1N",
    "d0zHs0Ie1H3030Lu1Cm1Cv0Eo1Ej2Eg1Hp0UR6021Bv1F90t0C10CXk1BHt4Bc3Ft1Dl3Dv2E1160g1Co111Dc0Ja1Dl",
    "1Ll15eD91Hp2Q5010Hr1Cn1N41Vk1Ca1SZ91E50C11b0R91J80TQ60HP80"]),
  (["up", "upper"],
    ["C1pD5m16B10101010101010101010101010101010101010101010101010101010201010101010101020101010101",
    "01010101010101010101010101010101010111010311011122311123111101011102011121011307111111010101",
    "01010101020101010101010101021101210101010101010101010101010101010101010101010101010101010107",
    "111201310101010J10103080601210111g18B30223010101010101010101010105020112BiBg0101010101010101",
    "01010101010101010901010101010101010101010101010101010101010101010101010111010101010102010101",
    "010101010101010101010101010101010101010101010101010101010101010101010101010101010101010102B5",
    "Cw9B51050WiClCEj0Lm0101010101010101010101010101010101010101010101010101010101010101010101010",
    "10101010101010101010101010101010101010101010101010101010101010101010101010109010101010101010",
    "10101010101010101010101010101010101010101010101010101010101010101010101010101010109785a78785",
    "b010101087o7878784b4b3c4b4I5040322220346010101323a150qfj0ZipBZgBfBg0122010101310208210101010",
    "10101010101010101010101010101010101010101010101010101010101010101010101010101010101010101080",
    "1040+Kd010101010101010101010101010101010101010101010j010101010101010101010101010E70101010101",
    "01030101010101010101010101010101010101010101010101010101010101010a01011101010104010201030101",
    "0101010101010101414101010101010101310111010101010101010o0VZbpBG5B7E8B3Esa1e1611BXaBiEtlCZqvV",
    "M0vC0oZK7pqpqpq01120212317qpq1132716r113141036rpqpqpqpqpqpuoB1oB1oB1oB1oB10EJlB1CAep6p6p"])]

end Routing.Unicode.Break
