import Routing.Unicode.Span

/-! Yes-or-no properties of Unicode characters: each property is the list of the spans that have it. -/
namespace Routing.Unicode.Property

def asciiHexDigit : List Span :=
  decodeSpans ["Bg975q5"]

def alphabetic : List Span :=
  decodeSpans ["C1p6pBf0a0405m1u1O94be47010Cm0th1123106012101j1Ci1Ea8F51B5206B8B7d101111108q43ta5Bn16eD51747",
    "42a220gBfdD4oB091405n2ijo7a5n16708B9ab366Cb1f124edi17212l16103337212110804114c1a04215412l161",
    "11111444121407310h5b218121l16111438121130f3l34217212l161114372121914114d0g115321331101131323",
    "b4432123060B8c121m1f37121281121123s317121m1914371212815213d2cc121B8271212105374m5121h3n18102",
    "6851017i1dBp5660Bj110141n101i12241060e3B00Bv71B34i4f1B3C3Bm1024gBva32B510502Ba1Kc132610132B8",
    "132B0132610132e1Bo132C2B5fgCl253Tb2g1p5Ca3a7jbkcjcc1211cBj2ie040C3Co7Ba5C5au1b48nt24bBb4pBmr",
    "4Bu2jBi0n1b2BhBj1e17BjB923aBb1aeBmm2aB32a5Ba22B931511305FvjB1bIl252B525271010101u2Bk16103216",
    "33254c5216Dk0d0gcD5040291034601010131a235440hB8ZdBjBYmH46331cB510502Bn70gm96161616161616161v",
    "Bf0Ol2p874244Cl621Cp135Ba1CthvBgfQ0GNvC0VUcC3Bd2Ic3fa1kBe573DgB782D62Chkk1B0oBjcC310Bc53012a",
    "B05B2ds3Bi1bf0gfa41Bm9dim3C41010o22f23b5252596161Ba1d6DqlKz3cm4BgII4Ld2D9B66c45b1c141011111D",
    "bB1LaiBv2BlB8bDk41E6B4p6pbCo35252522B3b1p1i111e2dB2DqC5BkIbs3BgBfvdt5Ba5t2B34714BaEtiB34B34B",
    "78Bjca1e16111a1e16113BjcJm9la7o51B918C55201Bb11302mam9uC1i11alap6pB6Bn61C031157121sBas3sB371",
    "rrBlalaidhDeC8BnBidBidB7B2r305mHqB91131g5Bi23sa08lBahBekrm9C5Bb4aBo90donBih38B2309Bv1391a010",
    "B3h1B12063Bu610131e197Bon317212l161114372121306056s910201B519102013113010BcC11213k2uC12110Fo",
    "Bl26p5B2Bu1030BrBl20C7q2dl6FpBoD7Bvv72027111t112123Ct72Bd251011rBi29hC750iC8D77CoB0v81Bc1610",
    "Bht2l1dC96111Bb3011121021o5111B4111310nBbI4m9g1B832Df0CfypD6DehG3CScD0fBBfh5pDyq5S6GVpBeBWhR",
    "o7uhCehtiBfg3vk5iNgBcGjBvB0o2oBcCa4Bo7gC0110c69HGlB9vD1DiIPt316111J2f0t220e38MbCI4Da5c387940",
    "Fx1Ck1C6112021231b10161C01327161r131410361Kj2o1o1u1o1u1o1u1o1u1o17BZku65Gl61g2611145BtB10DgB",
    "ca6g0K1tiBbP4rH4t20Gfu1l81H0613111e1G4BrC33030BFk31q1110201913101060401010121110201010101011",
    "102316131310191g52141gTkp6p6pDTmBJWvB0EIt2FUd2HJgfTdCN2QtBP2Ewa5IJ9"]

def bidiControl : List Span :=
  decodeSpans ["BQs0GPh1q4Bn3"]

def bidiMirrored : List Span :=
  decodeSpans ["B81i010s010t010Bd0f0DTu3Bwt1CMs1a1Bm1e1Fh0G033530313313101048501h539110171v2350912i5194214n2",
    "f83k171BBtdCa023111253523dMjl251d807530441124401221a521ci13201020135162o1b14311214Ba271B7501",
    "03452403410I00Q333111e129Bb7Nb927BTRt551F21i010s010t0101111BVxn0Bp0Bp0Bp0Bp0"]

def caseIgnorable : List Span :=
  decodeSpans ["B7060b0B3010C7040104021PnFv41409110Hr6Gf050BhBc10111110Bc0b5aa10B30akg0D571913B1010uqCraBqa4",
    "020onBb2Bc07158B9BpBn010474036a1d0f0Bq04380k1q021Bp041412230u130b1Bp0441140k1m510Bq020138071",
    "b1u0Bt0c0Bi030Bn012521371b1t0Bq0206051k1s1Bp14380k1t0C807210Cq026b8D20289016C91r01010Bnd1411",
    "5a1B390D63151121p142g3d02160f0Cu0T02zi2t1u1u1C0116802a3050Bd4Bj0C11B20Dm2419062Gr120Bq016101",
    "0276920B708Bd2bk3Bg0141050B88c1B032112Bo0113012Bq721C05Ci21c16406031BiBud0B2D4Nt012b2d2d2d1c",
    "481a02024Bh41910d0gcBjB0Cyb1Dh2Dt0f0D0vBf0Ol0B433450Ct5Ct2xYm0BH25Ie0D231910s3Cg1eB1Ce0n2D63",
    "31803040p150En1qhd0B67paBe2Bg02321h0l1C252121c080B30b0Bj012215110r0e15110D4492Dp02040TZg0Ejg",
    "Rtf30cfB2020F907060b0B3010Bf0Bd1C30l2Q10H20El4BA551B918S621153B8240F51Rt3B60q410Jr1o0Bk5C6aB",
    "h3Dr0BmeB9021a2Bh3212040a0Bi2B4417Bu0c1Bk8a320Cv220116020Et037l1Bp130B5634C65d01010e1Cl72210",
    "n0Ck5104111He36111r1Cl72011Da0102510D50102314I3811I011040Eg32140B09B8523809522Bec11G601210G9",
    "61510Cil261111Dq530111610C813010C10Ip1b1Bk45010n0FGlg6eLG8b32CO04Br693Ps2B81P20BvgC0111d1P-s",
    "31611DEu113ESsBd2mR029f26u3Ek2BzrBm4Bh80e0m41eBKg61g2611145BtB10F0dLg0Bt3Pr4Hu1Hj020715090Og",
    "6Dd7CVf4YDA10uCvE0Hf"]

def cased : List Span :=
  decodeSpans ["C1p6pBf0a0405m1u1G2134Gf2B271u4D00Ba32123106012101j1Ci1Ea8F51B59B8CYnB510502Ba13V0Cl25CE2a5B",
    "a22C0FvC0Il252B525271010101u2Bk1610321633254c5216Dk0d0gcD5040291034601010131540235440hv31ZhB",
    "jBYmH46331cB51050+IiBditE4D5331Cck512ZlBa1d6CfTw06c4BA9p6pBF5CfD0B34B3Dka1e16111a1e1611O3022",
    "1B918BG5BidBiCtlalCYqBvVL0BvB0o2oZJcCk1C6112021231b10161C01327161r131410361Kj2o1o1u1o1u1o1u1",
    "o1u1o17BZk91j65I5BtCEiC3B-cp6p6p"]

def changesWhenCasefolded : List Span :=
  decodeSpans ["C1pCq0am17B001010101010101010101010101010101010101010101010101010102010101010101010111010101",
    "01010101010101010101010101010101010101110101011101112231112311110101110201112101130711111101",
    "01010101010102010101010101010102110121010101010101010101010101010101010101010101010101010101",
    "0107111201310101010Hm0Ba0103080601210111g18m0c231101010101010101010101010112110112BiBg010101",
    "01010101010101010101010101090101010101010101010101010101010101010101010101010101011101010101",
    "01020101010101010101010101010101010101010101010101010101010101010101010101010101010101010101",
    "01010102B5Bg0CYoB51050Za5CE296Ba22K001010101010101010101010101010101010101010101010101010101",
    "01010101010101010101010101010101010101010101010101010101010101010101010101010101010101010101",
    "05120101010101010101010101010101010101010101010101010101010101010101010101010101010101010101",
    "0101010109785a78785b010101087gBf22255225b3c45225J903160Bdfj0ZipBZgBfBg0122010101310208210101",
    "01010101010101010101010101010101010101010101010101010101010101010101010101010101010101010101",
    "0801040+Kd010101010101010101010101010101010101010101010j010101010101010101010101010E70101010",
    "10101030101010101010101010101010101010101010101010101010101010101010a01011101010104010201030",
    "1010101010101010101414101010101010101310111010101010101010o0xqCfTw06c4BA9pBG5B7E8B3Esa1e1611",
    "BXaBiEtlCZqvVM0vC0o+S7B1"]

def changesWhenCasemapped : List Span :=
  decodeSpans ["C1p6pBq0am1u1Bv1Cj1r2d21104Cs1h6q1110113113142011207020113550a1F60Ba32132106012101j1Be3B0141",
    "E48F51B5aB6CYoB510502Ba22V0Cl25CE2a5Ba22Fp030g0DhEr201Dl252B525271010101u2Bk1610321633254c52",
    "16J903160r0hv31ZhBjBYmDg11117D57331cB51050+IiBdirE6d2Bt9e32241o1Bco1ws0sCfTw06c4BA9p6pBF5CfD",
    "0B34B3Dka1e16111a1e1611BW3BidBiCtlalCYqBvVL0BvB0o2o+RcC3"]

def changesWhenLowercased : List Span :=
  decodeSpans ["C1pD5m16B10101010101010101010101010101010101010101010101010101010201010101010101020101010101",
    "01010101010101010101010101010101010111010311011122311123111101011102011121011307111111010101",
    "01010101020101010101010101021101210101010101010101010101010101010101010101010101010101010107",
    "111201310101010J10103080601210111g18B308010101010101010101010105020112BiBg010101010101010101",
    "01010101010101090101010101010101010101010101010101010101010101010101011101010101010201010101",
    "0101010101010101010101010101010101010101010101010101010101010101010101010101010101010102B5Cw",
    "9B51050WiClCEj06Ba22K00101010101010101010101010101010101010101010101010101010101010101010101",
    "01010101010101010101010101010101010101010101010101010101010101010101010101010109010101010101",
    "01010101010101010101010101010101010101010101010101010101010101010101010101010101010109785a78",
    "785b010101087o7878784b4b3c4b4J903160Bdfj0ZipBZgBfBg01220101013102082101010101010101010101010",
    "10101010101010101010101010101010101010101010101010101010101010101010101010801040+Kd010101010",
    "101010101010101010101010101010101010j010101010101010101010101010E701010101010103010101010101",
    "0101010101010101010101010101010101010101010101010a010111010101040102010301010101010101010101",
    "414101010101010101310111010101010101010o0VZbpBG5B7E8B3Esa1e1611BXaBiEtlCZqvVM0vC0o+S7B1"]

def changesWhenTitlecased : List Span :=
  decodeSpans ["D1pBq0B9n17101010101010101010101010101010101010101010101010101010102010101010101011101010101",
    "01010101010101010101010101010101010102010122010203050203220201010204020301020301040111110101",
    "01010101010111010101010101010121010301010101010101010101010101010101010101030101010101010101",
    "080211040101010151110113113142011207020113550a1F60Bb0103032i0rB21132101010101010101010101014",
    "102020BkBf1010101010101010101010101010101010901010101010101010101010101010101010101010101010",
    "10101020101010101011101010101010101010101010101010101010101010101010101010101010101010101010",
    "101010101010101010101010BhB6DTg5CE2810He030g0Di010101010101010101010101010101010101010101010",
    "10101010101010101010101010101010101010101010101010101010101010101010101010101010101010101010",
    "10101010101650101010101010101010101010101010101010101010101010101010101010101010101010101010",
    "101010101010101885a78785a7878d2787878411603211832187a211Km0B1f40wbpBw6Bf10311010106020a01010",
    "10101010101010101010101010101010101010101010101010101010101010101010101010101010101010101010",
    "10801040cB51050+Ij010101010101010101010101010101010101010101010j010101010101010101010101010E",
    "7010101010101030101010101010101010101010101010101010101010101010101010101010a010201010101040",
    "401120101010101010101010b01010101010101040102010101010101010q0ws0sCfTw06c4BB9pBGdB7E8B3Era1e",
    "1611BY3BiDtlCZqvVM0vBro+SeB1"]

def changesWhenUppercased : List Span :=
  decodeSpans ["D1pBq0B9n17101010101010101010101010101010101010101010101010101010102010101010101011101010101",
    "01010101010101010101010101010101010102010122010203050203220201010204020301020301051111110101",
    "01010101011101010101010101011111030101010101010101010101010101010101010103010101010101010108",
    "0211040101010151110113113142011207020113550a1F60Bb0103032i0rB2113210101010101010101010101410",
    "2020BkBf101010101010101010101010101010101090101010101010101010101010101010101010101010101010",
    "10102010101010101110101010101010101010101010101010101010101010101010101010101010101010101010",
    "1010101010101010101010BhB6Cw8Ba22Xo5CE2810He030g0Di01010101010101010101010101010101010101010",
    "10101010101010101010101010101010101010101010101010101010101010101010101010101010101010101010",
    "10101010101010165010101010101010101010101010101010101010101010101010101010101010101010101010",
    "1010101010101010101885a78785a7878d2Bk114010321140332187a21140Kh0B1f40wbpBw6Bf10311010106020a",
    "01010101010101010101010101010101010101010101010101010101010101010101010101010101010101010101",
    "0101010801040cB51050+Ij010101010101010101010101010101010101010101010j01010101010101010101010",
    "1010E7010101010101030101010101010101010101010101010101010101010101010101010101010a0102010101",
    "01040401120101010101010101010b01010101010101040102010101010101010q0ws0sCfTw06c4BB9pBGdB7E8B3",
    "Era1e1611BY3BiDtlCZqvVM0vBro+SeB1"]

def dash : List Span :=
  decodeSpans ["Bd0BKs0Bj0DS10BA50CA95Bt0B70f0M60DA4020v140s0Nu0j0Df0BTMg1B50a0F90DT00Ju0"]

def defaultIgnorableCodePoint : List Span :=
  decodeSpans ["Fd0V10Wc0Cw21BSj1Cl4B-r4q4BhfEHk0BTErfHf0F00Cf8BPF73FGf7YLU5D-v"]

def deprecated : List Span :=
  decodeSpans ["K90BJ90CI3010CB91CG55Vp1xXGm0"]

def diacritic : List Span :=
  decodeSpans ["Cu010C70604021PnEu1755h14091Ht4Gh0BnBc10111110E3741E614132C3qCraBqaB21Du7B99grBt0g033s0Ca0g0",
    "De0g0De0g0Bf2Bs0g070Dn0De0g0De0g0Dd1g0Ds0Df0c510Db0d4Cb1r0101041C2211Bu0Dg011B8144p610a1W12z",
    "k1u0Eka90Kr2J40k720Bge2a3e2bC80f0B68Bm1Bq0b1C21C05Cio406022BiBuBgB35bB5aNt012b2d2d2d1DHg2Jt0",
    "Pq5D93Cv0zLi0c110s1Ci1eB1D62D6061c0B50En0rhBp3B40Cv0c0B40El2C13Bj0D4492E01TZg0Y1fIe010Bf0Bd1",
    "C30Xs0BEv51B918Tt240F51Rr5B60q4Mc022C6aBh3G00B90C81Do1Bu0Cc092D81Fi1Cg1g0o634Cp211d1Cv030Dr1",
    "Hr1Du0Dm1Dj0Id1I2140Es0Cj0i0Ch0N50I2011Ch0C10L71n0FHceLGp0CO04Br6Rk1R2gCg1P-u31611HY1Bd2mR02",
    "358726u3DU2BtG26Ln0Bt3Xu1X06Dd212"]

def emoji : List Span :=
  decodeSpans ["B306059Df040Hyd0c0Go0m0Cq5f1Lf1c0F60pa42G70H71a090Bq314902021204020112030318250105bb1201110i",
    "021i5101131502141b15120511011k155132040202510201010603060a1f02040104210b1Bg290e0e0Lk1Of2j1Bj",
    "040BGq0c0Sp010DPLa0Ga0F01c1e029Cbp11n0k028l1FeB12Df21122Ci221I61Bub51n7127c0232041d120819052",
    "c28220104060306ClBgC557233930113029H3b40IrBe191FoDgc3a3Bo104f2b49"]

def emojiComponent : List Span :=
  decodeSpans ["B306059H+j0Gl0BXJb0By+mpPr4BNg3YBTcCv"]

def emojiModifier : List Span :=
  decodeSpans ["Dy-r4"]

def emojiModifierBase : List Span :=
  decodeSpans ["JQt0Gr0g3DTDn0Bs22022Dl12ali3042127010o0G9140l041Fe234Cj0g290b0Rv02087609922Bo0Bt11110h21cH5",
    "2Ba8"]

def emojiPresentation : List Span :=
  decodeSpans ["IYq1Gd33020Q91l1BibBb0j0d081h1518050l0711040207041s0B30104210Bt2o0e0wr1Bj040DRFe0Ga0Fu029Cbp",
    "10o0k02412l1FeB0c81C51lcBa44cg303C6101Fq2Bud31ni0q1d0CmCkBgC560322333b178H3b40IrBe191FoDgc3a",
    "3Bo104f2b49"]

def extendedPictographic : List Span :=
  decodeSpans ["F9040Hyd0c0Go0m0Cq5f1Lf1c0F60pa42G70H71a090Bq314902021204020112030318250105bb1201110i021i510",
    "1131502141b15120511011k155132040202510201010603060a1f02040104210b1Bg290e0e0Lk1Of2j1Bj040BGq0",
    "c0Sp010DPLa0B73D4bf1f0e1B59Dg1c1e029jBnrea0k028139m6Fr2Df21122Ci22135Ht1Bub51n7127c0232041d1",
    "20819052c28220104060306ClBgC5572g30152cGqB5c3Bo7a5B87u1c32d9B6cBe191FoCo7eEhI0-t"]

def extender : List Span :=
  decodeSpans ["Fn0Qo1xe0Np0Tm0E90Cp0Xg0Dv0CK30Bo0T30Me0C40Ey90Bb4D71Ct2xYm0BPm0+20m0E90Dc0l1VDr0CAg1BOb0r04",
    "0BG70J50Dk1Pi2BGf0w00TL81BEs110e1yK81BFh0wk2"]

def graphemeBase : List Span :=
  decodeSpans ["B0CuB1c1ShDg72546101j1Gv7F51B52Bh22Be01020209q45h9b01Bdlf1D48061204v201ttCob0eBa963n4090307e",
    "1o501a5vgB9BpBm10138312792s1117212l1610333011612110d1124n5015412l1611111142o310792210c018121",
    "l16111433801130f14b708117212l16111430206121f1124hb015321331101131323b5011321230lk6217121m1f3",
    "033j2112149791a121m1914312011n2114912ea121B8201152121142194p211h3n18102691667922cBf11b78cB51",
    "10141n1019119024109923B0n2q10101d1B3i05024Bh7151cB5Bc4060212o233f4c11251e1B710502Lo132610132",
    "B8132B0132610132e1Bo132C25s3p6Cl252Us3Co7hdi319hec12fBj207711b839696a596Co742B1105C5au432241",
    "15703B924bBb4p6a3Bo213Bn10901185d9696dCmBfa3371s9b2v416Bn102210dBf815e3Bt5Ba2ab0d0731512205F",
    "vC0Il252B525271010101u2Bk1e1d251i22181a5n7Bgg12q1c3B1BuEb4UpmalBYj2Lo315Bc10502Bn71fm9616161",
    "616161616B1CtB2p1CocGlqBp6f1Cl4D45Ba1Ct1Cl9Bf1yTc3Bm9KrkBe40av2Cf258Gskg12131o24496Bn8C3aboc",
    "1B58ob0ct6Bf1141211c1a461o1B86121b21710292v1Bi1031242010og27b5252596161Br4Dk1113396Kz3cm4BgI",
    "I4Ld2D9B66c4501n141011111U9B0fg9mB21i13441E64Es2u352525223616d12b1p1i111e2dB2Dq524Bc3Cn1c30B",
    "fBcE3s3Bggq4B39t5B5at1B44dBaEt296B34B34B78Bjbb1e16111a1e16113BjcJm9la7o51B918C55201Bb11302m1",
    "C788Bgi115B03q5qB6Bn4j2Bef3121sa8787BvB0B46b9Bl3s2q5p73c6CgC8BnBidBi7B9c96B58n81Ggu1B93021g5",
    "88B7B78lb8mh43B6rkm901Blf64t1120cBg412113eo799B3509h8B212bBj9017411f1jbh1r314511Bv610131e1a6",
    "Be12d98117212l161114301013212130c6s910201B51011f011301211B7Bn81301k1012uBf11601110202389F6Be",
    "1163202qB4Bi811023b96cjBa101181696jsq3011409mFpBe9020D4Cic72027111n1411631299C672B98313r0aB7",
    "614790613Bdd028dC879Cn03010CoB1e9681B5e015as3vp07020Cb6111B5l09965111B4411010796Bb49Hmi239e1",
    "B3813mCm0fBhdyqD6De14bG3CScD2dBBfh5pDyq5S6GVptc239BW6Ro7u194Cg196t70aBf7ea9161k5iNgBpG6Cq5o2",
    "oBcCa5BnbcC03e49HGlB9vD1DiIPt316111J2f0t220e38MbCI4Da5c38792020Dx0Hs3Nj6mfgCvDjBsHlaB62Br52m",
    "17t4BslC130DqjcjcCm9oE7Ck1C6112021231b10161C01327161r131410361Kj2J32RhBn3Bi71d16BDku65I5BtEi",
    "Bca62941K0tiBb4950Ogr49Gmt2a40G0u1211162491H0613111e1G428BgC3704941YhC3CcBsG231q111020191310",
    "1060401010121110201010101011102316131310191g52141gBk1IeBb4D3ce2e1e1B4aFdBosdBb4871e5Eq+o3g3c",
    "3Gp6b40fb4Bn896B78t2b41e8B7Kn8d2c3a3Bo104f2b497Ei1D6BA5BJWvB0EIt2FUd2HJgfTdCN2QtBP2Ewa5IJ9"]

def graphemeExtend : List Span :=
  decodeSpans ["Y0DfIj6I7Bc10111110C8aBgkg0D56252113B30uqCraBq890o3181214Bb2Br8Ban1vBn010474036a1t0Bq0102380",
    "90a1q021Bp041412230u130b1Bp0441140k1m510Bq011138072a1u0Br010c090B8030Bn012521371b1t0Bq021103",
    "21371b1s1Bp110238090a1t0C8040221080Ch026c7D2028b6C91r01010Bnd14115a1B390D63151121p142g3d0216",
    "0f0Vv2zi3s2t1u1C0116802a90Bd210Dl1B20Dm2419062Gr120Bq0161010276920BgBd2bk3Bg942B68c1B0325Bo0",
    "113014Bo721Eo21c16406031G6BvQc0G3B0C-u2Ed0D0vRa5D91zOk319B01Cg1Ig03040p150En1qhd0B67pa10Bc2B",
    "g0232120B40C352121c080Bf0Bj012215110Ba180He02040TZg0X1fgfLe1St0H20El4BU621153B8240F51Rt3C14J",
    "t1Cd5C6aBh3Dr0BmeB9021a2Bh32170Bt2B4417Bu0c1Bk8108320Cv2236020Et037l1Bp11010c090e634C3025102",
    "0124210e1Cl72210n0Ch02510201111Hb0236111r1Cl72011Da01027D50102314I3811Hl0a340Eg32140B09B8523",
    "809522Bec11G601210G961510Cil261111Dq530111610C813010Kr1b1Bk452n0FH506eLG8b32CO04Br6BAo0Bv3Ch",
    "0b1TFb1ET1Bd2mQu4358726u3Ek2BzrBm4Bh80e0m41eBKg61g261114D40F06Ln0Bt3Ps3Hu1Hj0207150Oq6Dd6YFW",
    "lCvE0Hf"]

def graphemeLink : List Span :=
  decodeSpans ["CKd0Dv0Dv0Dv0Dv0Dv0Dv0Dv0Dd1g0Ds0Df0Dv0G90Fk1BWp1u0Et0Ud0H30D51C61EMb0+U60B50En0Ee0Dc0Jl0Hm0",
    "XSh0BQ60B90e0Bp0Dp1Eb0Dk0Fk0D20E02Dh0Dv0Hs0Dv0Dm0Dk0Id0I31F10Cj0i0Ch0N50I41Ch0N91QPc0"]

def hexDigit : List Span :=
  decodeSpans ["Bg975q5B-V9975q5"]

def hyphen : List Span :=
  decodeSpans ["Bd0Dv0BGs0ETr0CA91DQ50X30BTL70F90Cn0"]

def idsBinaryOperator : List Span :=
  decodeSpans ["L-g129Ph0"]

def idsTrinaryOperator : List Span :=
  decodeSpans ["L-i1"]

def idsUnaryOperator : List Span :=
  decodeSpans ["L-u1"]

def idCompatMathContinue : List Span :=
  decodeSpans ["Fi150Hzm03a1eLj040m0DNF20p0v0p0v0p0v0p0v0p0"]

def idCompatMathStart : List Span :=
  decodeSpans ["IQ2040m0DNF20p0v0p0v0p0v0p0v0p0"]

def idContinue : List Span :=
  decodeSpans ["Bg97p401pBf0a010205m1u1O94be47010hDk11231064101j1Ci1Ea142F51B5206B88Bc101111108q43ta5C94D517",
    "291i20gBq2D4eBl40202Bdir4a5n167Ca1E0291i17212l1610332821238041142ba0102215412l16111111201441",
    "223073107fb218121l16111429121220f329961217212l1611142821227241142910g115321331101131323b4432",
    "132060e9gc121m1f2812137112112329g317121m19142812137152132912cc121Bi1214537429a5121h3n1810263",
    "04510176921dBp5e19B7110141n101m2410161923B00n169b01010491B34j1h1B390BpC96Cd2B510502Ba1Kc1326",
    "10132B8132B0132610132e1Bo132C22298efgCl253Tb2g1p5Ca3a7l9lbjcc1211cCj304129B121a6Co7Ba5C5au1b",
    "4baB724bBb4p6aB5r4Bu1s2a69d08d1u2bkCc39h8cDjcBn893Bg2a5Ba22g21B65Ql252B525271010101u2Bk16103",
    "21633254c5216f1Bh1j0s0d0gcBjc403bh0402910256010101f235440hB8CTnH468cB510502Bn70fn96161616161",
    "616161vQ52pe14244Cl261Cu5Ba1CthvBgfQ0GNvC0VUcC3Bd2Ic3rkBf491DiB582D62ChkBm40jBjcC5a96n301Bg2",
    "B3cs3C0ea6u1Bm9d296m3C8o22f24a5252596161Ba1d6Dq11296Kz3cm4BgII4Ld2D9B66c45b1c141011111DbB1La",
    "iBv2BlB8b4fgf31o2B041E6j97p401paCp35252522B3b1p1i111e2dB2DqC5BkE80E2s3Bgf0vvdt5Ba5t2B34714Ba",
    "Et296B34B34B78Bjca1e16111a1e16113BjcJm9la7o51B918C55201Bb11302mam9uC1i11alap6pB6Bn61C0311571",
    "21s2240B0s3sB371tpBlalaidhDeC8BnBidBidB7896B5341mHqB91131g5BiB2a08B0vlBakrm9C6vf9Br70do796Bk",
    "19438B3209C4431c10B3h1B463Bu610131e197Bq596317212l1611141921222060562634b910201B51910201317d",
    "1tCa5943uC51089F6Bl28n5B2C030b9B6Bo796jsq2e4966FpBqD5C9l72027111t1128c9C672Bd2711rBu808C930i",
    "C8D77CoB0f9681Bc18f9ot2l1dC96111Bb3011188965111B41115796Bb49Hmm9g1B834daCl0CfypD6DehG3CScD0f",
    "BBfglaDyq5S6GVpBpBW6Ro7u196Ce196t24bBm93c99k5iNgBc39G6BvB0o2oBcCa4Bo7gC0111b69HGlB9vD1DiIPt3",
    "16111J2f0t220e38MbCI4Da5c387931ECh9Q6Bd2mQu4358726u3Ek2NrCk1C6112021231b10161C01327161r13141",
    "0361Kj2o1o1u1o1u1o1u1o1u1o172BhQ0Bm4Bh80e0m41eBCgu65Gl61g2611145BtB10DgBc3d2940K1uhBpOmB9GmB",
    "aG5u1l81H0613111e1G4b6B9Cb49BF631q1110201913101060401010121110201010101011102316131310191g52",
    "141gDJk9BA6BJWvB0EIt2FUd2HJgfTdCN2QtBP2Ewa5IJ9VTE6Hf"]

def idStart : List Span :=
  decodeSpans ["C1p6pBf0a0405m1u1O94be47010E141123106012101j1Ci1Ea8F51B5206B8C7q43BdBaB311D210f171a220g01ttC",
    "ob0oB091405l409030no7a5n16gB9BqBl30i079ff47212l16103330g0d112e1a085412l16111111v310j2g8121l1",
    "6111430i0f1n0b7212l16111430u112f0h015321331101131323bm0Bk7121m1f30q21121u047121m191430u211f1",
    "h8121B820g05282o55h3n181026BqBf11c6Bq110141n101911902410l3B00Bv71B3r4DjBak0g5433031724cc0hB5",
    "10502Ba1Kc132610132B8132B0132610132e1Bo132C2B5fgCl253Tb2g1p5Ca3a7hdiehec12fBjB3040C3Co7B8105",
    "C5auBht24bBb4pBmm9BkCi0CtBeh7Bmtd1aBbqB3B92aB32a5Ba22B931511305FvC0Il252B525271010101u2Bk161",
    "0321633254c5216Dk0d0gcD50402910256010101f235440hB8CTnH46331cB510502Bn70gm9616161616161616R62",
    "p874244Cl441Cp135Ba1CthvBgfQ0GNvC0VUcC3Bd2Ic3fa1kBegu2CfB782D62Chkg12131mtBjeBhBu53011bramps",
    "7Bes0g419a41B8n217km303Bh1031242010o22a72c5252596161Ba1d6DitKz3cm4BgII4Ld2D9B66c450191c14101",
    "1111DbB1LaiBv2BlB8bDk41E6B4p6pbCo35252522B3b1p1i111e2dB2DqC5BkIbs3BgBfvdt5B5at2B34714BaEtiB3",
    "4B34B78Bjca1e16111a1e16113BjcJm9la7o51B918C55201Bb11302mam9uC1i11alap6pB6Bn61C00f3121sBas3sB",
    "371rrBlalaidhDeC8BnBidBidB3B6r9mHqB961g5Bosa08lBahBekrmcBkBp120dBcB0oqB3t0208B230cBfe3l010B3",
    "h1oj1Bv610131e197BeB67212l16111430i0c4u910201B510p010BcBki3k2uBfk110FoBeB93B4Bfk0BrBad0C7qB5",
    "6FpBbDkBvv72027111nf010Cu72B6g010s0aB770l0bBdj0iC8G7B0v81B4h0BhtDg6111B5l0p5111ve0nBbI4if01c",
    "1B1Ds0CfypD6DehG3CScD0fBBfh5pDyq5S6GVptBX2Ro7uhCehtiBfg3vk5iNgBcGjBvB0o2oBcCa50C2cC0110e49HG",
    "lB9vD1DiIPt316111J2f0t220e38MbCI4Da5c3879Fx6Ck1C6112021231b10161C01327161r131410361Kj2o1o1u1",
    "o1u1o1u1o1u1o17BZku65I5BtEiBca6g0K1tiBbP4rH4t20Gfu1211162491H0613111e1G4BrC370BFk31q11102019",
    "13101060401010121110201010101011102316131310191g52141gEK4BJWvB0EIt2FUd2HJgfTdCN2QtBP2Ewa5IJ9"]

def ideographic : List Span :=
  decodeSpans ["MA61p8e2+5GNvC0UPvWI0Ld2D9zIa0d49HGlB9vD1DiIxtMbTI4BJWvB0EIt2FUd2HJgfTdCN2QtBP2Ewa5IJ9"]

def joinControl : List Span :=
  decodeSpans ["IAc1"]

def logicalOrderException : List Span :=
  decodeSpans ["DS04Dr4CXg220BEHq12011"]

def lowercase : List Span :=
  decodeSpans ["D1pBf0a040B4n1710101010101010101010101010101010101010101010101010101011101010101010101110101",
    "01010101010101010101010101010101010101010201012201020314020322020101020111020301021226020201",
    "01010101010101110101010101010101120103010101010101010101010101010101010101010101010101010101",
    "01016202110401010101C42B271u4D00Bb0103023i0rB21132101010101010101010101014102021BjBf10101010",
    "10101010101010101010101010901010101010101010101010101010101010101010101010101010201010101010",
    "11101010101010101010101010101010101010101010101010101010101010101010101010101010101010101010",
    "101010BgB8Cw7Ba13Xo5CE2810DlFvC1010101010101010101010101010101010101010101010101010101010101",
    "01010101010101010101010101010101010101010101010101010101010101010101010101010101010101018101",
    "01010101010101010101010101010101010101010101010101010101010101010101010101010101010101010101",
    "01885a78785a7878d2787878411603211832187a211Dp0d0gcDd03130r04040218340B1f40wbpBw6Bf1031101010",
    "40111730101010101010101010101010101010101010101010101010101010101010101010101010101010101010",
    "10101010101011701040cB51050+Ij010101010101010101010101010101010101010101010j0101010101010101",
    "01010101012E50101010101012101010101010101010101010101010101010101010101010101010101010191010",
    "2010101010401020121010101010101010101050501010101010101040102010101010101010l31012ZlBa1d6CfT",
    "w06c4BB9pBGdB7E8B3Era1e1611O30221B918BI5BiDtlCZqvVM0vBroZK6pq61hqpq310161aqpqpqpqpqpqpqpqpqr",
    "so15qo15qo15qo15qo1510BZk91j65I5BtCFkB1"]

def math : List Span :=
  decodeSpans ["Bb0g2v0t010Bd040B50v0Wo220q122Qf2GQd0r2b030d0e3l4b4C1c403144i04029102560312112153d10C4n15114",
    "14v1061eIb83k1Cq0uq10o0b6Nt1c945412134e01025b751Bp010t392KgBvI0PvBgk25BT+s0Zn510F20g2t010t01",
    "0E3063DN11BQL00BIfCk1C6112021231b10161C01327161r131410361Kj2J32BhFQ031q111020191310106040101",
    "0121110201010101011102316131310191g52141gBk1COu8"]

def modifierCombiningMark : List Span :=
  decodeSpans ["BSk120E306031P111230v0"]

def noncharacterCodePoint : List Span :=
  decodeSpans ["B-OgvQe1B--u1B--u1B--u1B--u1B--u1B--u1B--u1B--u1B--u1B--u1B--u1B--u1B--u1B--u1B--u1B--u1"]

def otherAlphabetic : List Span :=
  decodeSpans ["w50tcS0d10111110C8aBgc16g0D56432140B30ufD6aD51381213Da0Bsb366jBm12e1152a1t2Bq62121a0a1t2Bq44",
    "12140u130b2Bq71211l1m242Bq6212191a1u0Br43212a0B84Bp6121281b1t2Bq6121281b1f0c3Bq61212a0a1t2Cb",
    "51017i1Bt026i0D302511g0F3i9a1B3Deb1023n342122633db10a3BTk1u1u1u1C2iFs1B20Dmb48Gu4Bp92jCa1b2B",
    "h4BgeBs2u821BpaBiiMsB1BW1BjCHmv+Dk7B21L2080n4Co1Bif10Bp0B64sbBd3BgbB50C3dc081Bd2Bi0122150Bc4",
    "50Hd7TZj0CCn4BU621153Yk3C10K11Cd2I32BldBd1b2Bd890Bt2B4bi1Bp2Bgce1Cs8206020Et9n3Bq62121a0a1Ck",
    "810201311D7c12DahHd626t1Cie10DaaD7dI1cHn511213010Ee62540s9Ba413iaBedG87G7716Cjl1dDq530111210",
    "30C241113Ks39110Bg632QOtgDR001Bm73Ct1TFc0Ix161g261114D40BSj0207150Sh0B-8p6p6p"]

def otherDefaultIgnorableCodePoint : List Span :=
  decodeSpans ["wf0DQf1BSj1CFf0EHu0BTRr0Cf8wAA701tD0DvHgDQf"]

def otherGraphemeExtend : List Span :=
  decodeSpans ["CNu0o0L60o0D60o0H8010411191D70o0Dn0f0CJl0u0BA00501051D50C71BAo0EB11+J30Dc0VOt1ER00Dk0I80e090",
    "D0090201250H00c0Hh0I60Tp0c0BQ30UFe1YLj165YLVdCv"]

def otherIdContinue : List Span :=
  decodeSpans ["Fn0Wf0D-18BT80BRh1EHd0BTT90"]

def otherIdStart : List Span :=
  decodeSpans ["GE51CEh0l0Dxc1"]

def otherLowercase : List Span :=
  decodeSpans ["Fa0f0Pl871u4D00Bk0DM10DBfBud0B2B4Vh0d0gcGjfwgpByi1+Qu1Gi0E0331x2390XAm0221B918BWDlBt"]

def otherMath : List Span :=
  decodeSpans ["Cu0xh220q121HB00r2b0B03o1e1C1c403144i04029103460312112153354Cb4231111101421414h2110161061J23",
    "F8110o0h0Nt1c854512134e01025o1Bp010t391Km1v9MjlBv3B01BVD301040Gj010BVG1Ck1C6112021231b10161C",
    "01327161r131410361Kj2o1o1u1o1u1o1u1o1u1o172BhFQ031q11102019131010604010101211102010101010111",
    "02316131310191g52141g"]

def otherUppercase : List Span :=
  decodeSpans ["IL0fw6pDTD0p6p6p"]

def patternSyntax : List Span :=
  decodeSpans ["B1ea6q310q3B2610111011404030n0v0HYon8e2i19JhWfF0TluBDbQ0DvM124of0BTId1I51"]

def patternWhiteSpace : List Span :=
  decodeSpans ["94i0D40Hy81o1"]

def prependedConcatenationMark : List Span :=
  decodeSpans ["BQ05Gn0Bh0M01Cg0CB+q0f0"]

def quotationMark : List Span :=
  decodeSpans ["B2040E30f0Hws7p1DQ70O93d2BTR13Ft040Cq1"]

def radical : List Span :=
  decodeSpans ["LU0p1CocGl"]

def regionalIndicator : List Span :=
  decodeSpans ["DyP6p"]

def sentenceTerminal : List Span :=
  decodeSpans ["B10c0g0BK90Ej2Fk0Bb2Hm0Bt01031J51BX41Ym041Y50G61Et1Bd050Jq1L23F21a121t2Fr1C11z40n192DFf2Ji0d",
    "0m1Nd0zHs0Ie1H3030Lu1Cm1Cv0Eo1Ej2Eg1Hp0UR6021Br031F90c0g0C10CXk1BHt4Bc3Ft1Dl3Dv2E1160g1Co111",
    "Dc0Ja1Dl1Ll15eD91Hp2Q5010Hr1Cn1N41Vk1Ca1SZ91E50C11b0R91J80TQ60HP80"]

def softDotted : List Span :=
  decodeSpans ["D91G40Ip0u0Bk0k0K00D2010GI90Bj0d030E40Et0N50Gm1CZi0DJz51Bi1Bi1Bi1Bi1Bi1Bi1Bi1Bi1Bi1Bi1Bi1Bi1",
    "CE60Jh1q0"]

def terminalPunctuation : List Span :=
  decodeSpans ["B10a010b130Zu080Q10Bp0C80e012Fk0Bba10Hb1Bm517v0I51BHk1Fc045Jn1Yl7Y50Ds2C71Et230B7321Jq1L23F2",
    "1a112t2Fr4Bu1z40n192DFf2Ji0d040a01131Nc1zHr1Id2H34Lu1Cm1Cv0En2Ej2Dv0g1Hp0UR6021Bp213F90a010b",
    "130C1020BBq0Bg0BE60G70Jm1Eo5C45Cp3zo4Bc3Ft6Dg3Dv2E1160g1Co4Dc0Ja1Dl2c1L633eD91Hp2Q5010Hr1Cn1",
    "41Mu2Bd0U51Ca1BJb4RPp1E50C12a0R91J71TQ60HP73"]

def unifiedIdeograph : List Span :=
  decodeSpans ["NA0GNvC0UPvWQe11011a0101122CBOmBJWvB0EIt2FUd2HJgfTdEN2Ewa5IJ9"]

def uppercase : List Span :=
  decodeSpans ["C1pD5m16B10101010101010101010101010101010101010101010101010101010201010101010101020101010101",
    "01010101010101010101010101010101010111010311011122311123111101011102011121011307020202010101",
    "01010101020101010101010101020201210101010101010101010101010101010101010101010101010101010107",
    "111201310101010J10103080601210111g18B30223010101010101010101010105020112BiBg0101010101010101",
    "01010101010101010901010101010101010101010101010101010101010101010101010111010101010102010101",
    "010101010101010101010101010101010101010101010101010101010101010101010101010101010101010102B5",
    "Cw9B51050WiClCEj06Ba22K001010101010101010101010101010101010101010101010101010101010101010101",
    "01010101010101010101010101010101010101010101010101010101010101010101010101010101090101010101",
    "0101010101010101010101010101010101010101010101010101010101010101010101010101010101010109785a",
    "78785b010101087C83c3c3c4b3I6040322220346010101323a150qfj0ZipBZgBfBg0122010101310208210101010",
    "10101010101010101010101010101010101010101010101010101010101010101010101010101010101010101080",
    "1040+Kd010101010101010101010101010101010101010101010j010101010101010101010101010E70101010101",
    "01030101010101010101010101010101010101010101010101010101010101010a01011101010104010201030101",
    "0101010101010101414101010101010101310111010101010101010o0VZbpBG5B7E8B3Esa1e1611BXaBiEtlCZqvV",
    "M0vC0oZK7pqpqpq01120212317qpq1132716r113141036rpqpqpqpqpqpuoB1oB1oB1oB1oB10EJlB1CAep6p6p"]

def variationSelector : List Span :=
  decodeSpans ["GAb210BZPgfwAXgHf"]

def whiteSpace : List Span :=
  decodeSpans ["94i0D40q0FOv0CLvat150Bf0Dz00"]

def xidContinue : List Span :=
  decodeSpans ["Bg97p401pBf0a010205m1u1O94be47010hDk11321064101j1Ci1Ea142F51B5206B88Bc101111108q43ta5C94D517",
    "291i20gBq2D4eBl40202Bdir4a5n167Ca1E0291i17212l1610332821238041142ba0102215412l16111111201441",
    "223073107fb218121l16111429121220f329961217212l1611142821227241142910g115321331101131323b4432",
    "132060e9gc121m1f2812137112112329g317121m19142812137152132912cc121Bi1214537429a5121h3n1810263",
    "04510176921dBp5e19B7110141n101m2410161923B00n169b01010491B34j1h1B390BpC96Cd2B510502Ba1Kc1326",
    "10132B8132B0132610132e1Bo132C22298efgCl253Tb2g1p5Ca3a7l9lbjcc1211cCj304129B121a6Co7Ba5C5au1b",
    "4baB724bBb4p6aB5r4Bu1s2a69d08d1u2bkCc39h8cDjcBn893Bg2a5Ba22g21B65Ql252B525271010101u2Bk16103",
    "21633254c5216f1Bh1j0s0d0gcBjc403bh0402910256010101f235440hB8CTnH468cB510502Bn70fn96161616161",
    "616161vQ52pe14244Cl21221Cu5Ba1CthvBgfQ0GNvC0VUcC3Bd2Ic3rkBf491DiB582D62ChkBm40jBjcC5a96n301B",
    "g2B3cs3C0ea6u1Bm9d296m3C8o22f24a5252596161Ba1d6Dq11296Kz3cm4BgII4Ld2D9B66c45b1c141011111DbB1",
    "Ea6GpiBv2BlB896fgf31o2B1010301010101Dtj97p401paCp35252522B3b1p1i111e2dB2DqC5BkE80E2s3Bgf0vvd",
    "t5Ba5t2B34714BaEt296B34B34B78Bjca1e16111a1e16113BjcJm9la7o51B918C55201Bb11302mam9uC1i11alap6",
    "pB6Bn61C031157121s2240B0s3sB371tpBlalaidhDeC8BnBidBidB7896B5341mHqB91131g5BiB2a08B0vlBakrm9C",
    "6vf9Br70do796Bk19438B3209C4431c10B3h1B463Bu610131e197Bq596317212l1611141921222060562634b9102",
    "01B51910201317d1tCa5943uC51089F6Bl28n5B2C030b9B6Bo796jsq2e4966FpBqD5C9l72027111t1128c9C672Bd",
    "2711rBu808C930iC8D77CoB0f9681Bc18f9ot2l1dC96111Bb3011188965111B41115796Bb49Hmm9g1B834daCl0Cf",
    "ypD6DehG3CScD0fBBfglaDyq5S6GVpBpBW6Ro7u196Ce196t24bBm93c99k5iNgBc39G6BvB0o2oBcCa4Bo7gC0111b6",
    "9HGlB9vD1DiIPt316111J2f0t220e38MbCI4Da5c387931ECh9Q6Bd2mQu4358726u3Ek2NrCk1C6112021231b10161",
    "C01327161r131410361Kj2o1o1u1o1u1o1u1o1u1o172BhQ0Bm4Bh80e0m41eBCgu65Gl61g2611145BtB10DgBc3d29",
    "40K1uhBpOmB9GmBaG5u1l81H0613111e1G4b6B9Cb49BF631q1110201913101060401010121110201010101011102",
    "316131310191g52141gDJk9BA6BJWvB0EIt2FUd2HJgfTdCN2QtBP2Ewa5IJ9VTE6Hf"]

def xidStart : List Span :=
  decodeSpans ["C1p6pBf0a0405m1u1O94be47010E141132106012101j1Ci1Ea8F51B5206B8C7q43BdBaB311D210f171a220g01ttC",
    "ob0oB091405l409030no7a5n16gB9BqBl30i079ff47212l16103330g0d112e1a085412l16111111v310j2g8121l1",
    "6111430i0f1n0b7212l16111430u112f0h015321331101131323bm0Bk7121m1f30q21121u047121m191430u211f1",
    "h8121B820g05282o55h3n181026BqBf10d6Bq110141n101910a02410l3B00Bv71B3r4DjBak0g5433031724cc0hB5",
    "10502Ba1Kc132610132B8132B0132610132e1Bo132C2B5fgCl253Tb2g1p5Ca3a7hdiehec12fBjB3040C3Co7B8105",
    "C5auBht24bBb4pBmm9BkCi0CtBeh7Bmtd1aBbqB3B92aB32a5Ba22B931511305FvC0Il252B525271010101u2Bk161",
    "0321633254c5216Dk0d0gcD50402910256010101f235440hB8CTnH46331cB510502Bn70gm9616161616161616R62",
    "p874244Cl621Cp135Ba1CthvBgfQ0GNvC0VUcC3Bd2Ic3fa1kBegu2CfB782D62Chkg12131mtBjeBhBu53011bramps",
    "7Bes0g419a41B8n217km303Bh1031242010o22a72c5252596161Ba1d6DitKz3cm4BgII4Ld2D9B66c450191c14101",
    "1111DbB1Ea6GpiBv2BlB89Dn010301010101DtB4p6pbBn2u35252522B3b1p1i111e2dB2DqC5BkIbs3BgBfvdt5B5a",
    "t2B34714BaEtiB34B34B78Bjca1e16111a1e16113BjcJm9la7o51B918C55201Bb11302mam9uC1i11alap6pB6Bn61",
    "C00f3121sBas3sB371rrBlalaidhDeC8BnBidBidB3B6r9mHqB961g5Bosa08lBahBekrmcBkBp120dBcB0oqB3t0208",
    "B230cBfe3l010B3h1oj1Bv610131e197BeB67212l16111430i0c4u910201B510p010BcBki3k2uBfk110FoBeB93B4",
    "Bfk0BrBad0C7qB56FpBbDkBvv72027111nf010Cu72B6g010s0aB770l0bBdj0iC8G7B0v81B4h0BhtDg6111B5l0p51",
    "11ve0nBbI4if01c1B1Ds0CfypD6DehG3CScD0fBBfh5pDyq5S6GVptBX2Ro7uhCehtiBfg3vk5iNgBcGjBvB0o2oBcCa",
    "50C2cC0110e49HGlB9vD1DiIPt316111J2f0t220e38MbCI4Da5c3879Fx6Ck1C6112021231b10161C01327161r131",
    "410361Kj2o1o1u1o1u1o1u1o1u1o17BZku65I5BtEiBca6g0K1tiBbP4rH4t20Gfu1211162491H0613111e1G4BrC37",
    "0BFk31q1110201913101060401010121110201010101011102316131310191g52141gEK4BJWvB0EIt2FUd2HJgfTd",
    "CN2QtBP2Ewa5IJ9"]

/-- Finds a property by its folded short or long name. -/
def ofName? : String → Option (List Span)
  | "ahex" | "asciihexdigit" => some asciiHexDigit
  | "alpha" | "alphabetic" => some alphabetic
  | "bidic" | "bidicontrol" => some bidiControl
  | "bidim" | "bidimirrored" => some bidiMirrored
  | "ci" | "caseignorable" => some caseIgnorable
  | "cased" => some cased
  | "cwcf" | "changeswhencasefolded" => some changesWhenCasefolded
  | "cwcm" | "changeswhencasemapped" => some changesWhenCasemapped
  | "cwl" | "changeswhenlowercased" => some changesWhenLowercased
  | "cwt" | "changeswhentitlecased" => some changesWhenTitlecased
  | "cwu" | "changeswhenuppercased" => some changesWhenUppercased
  | "dash" => some dash
  | "di" | "defaultignorablecodepoint" => some defaultIgnorableCodePoint
  | "dep" | "deprecated" => some deprecated
  | "dia" | "diacritic" => some diacritic
  | "emoji" => some emoji
  | "ecomp" | "emojicomponent" => some emojiComponent
  | "emod" | "emojimodifier" => some emojiModifier
  | "ebase" | "emojimodifierbase" => some emojiModifierBase
  | "epres" | "emojipresentation" => some emojiPresentation
  | "extpict" | "extendedpictographic" => some extendedPictographic
  | "ext" | "extender" => some extender
  | "grbase" | "graphemebase" => some graphemeBase
  | "grext" | "graphemeextend" => some graphemeExtend
  | "grlink" | "graphemelink" => some graphemeLink
  | "hex" | "hexdigit" => some hexDigit
  | "hyphen" => some hyphen
  | "idsb" | "idsbinaryoperator" => some idsBinaryOperator
  | "idst" | "idstrinaryoperator" => some idsTrinaryOperator
  | "idsu" | "idsunaryoperator" => some idsUnaryOperator
  | "idcompatmathcontinue" => some idCompatMathContinue
  | "idcompatmathstart" => some idCompatMathStart
  | "idc" | "idcontinue" => some idContinue
  | "ids" | "idstart" => some idStart
  | "ideo" | "ideographic" => some ideographic
  | "joinc" | "joincontrol" => some joinControl
  | "loe" | "logicalorderexception" => some logicalOrderException
  | "lower" | "lowercase" => some lowercase
  | "math" => some math
  | "mcm" | "modifiercombiningmark" => some modifierCombiningMark
  | "nchar" | "noncharactercodepoint" => some noncharacterCodePoint
  | "oalpha" | "otheralphabetic" => some otherAlphabetic
  | "odi" | "otherdefaultignorablecodepoint" => some otherDefaultIgnorableCodePoint
  | "ogrext" | "othergraphemeextend" => some otherGraphemeExtend
  | "oidc" | "otheridcontinue" => some otherIdContinue
  | "oids" | "otheridstart" => some otherIdStart
  | "olower" | "otherlowercase" => some otherLowercase
  | "omath" | "othermath" => some otherMath
  | "oupper" | "otheruppercase" => some otherUppercase
  | "patsyn" | "patternsyntax" => some patternSyntax
  | "patws" | "patternwhitespace" => some patternWhiteSpace
  | "pcm" | "prependedconcatenationmark" => some prependedConcatenationMark
  | "qmark" | "quotationmark" => some quotationMark
  | "radical" => some radical
  | "ri" | "regionalindicator" => some regionalIndicator
  | "sterm" | "sentenceterminal" => some sentenceTerminal
  | "sd" | "softdotted" => some softDotted
  | "term" | "terminalpunctuation" => some terminalPunctuation
  | "uideo" | "unifiedideograph" => some unifiedIdeograph
  | "upper" | "uppercase" => some uppercase
  | "vs" | "variationselector" => some variationSelector
  | "wspace" | "whitespace" | "space" => some whiteSpace
  | "xidc" | "xidcontinue" => some xidContinue
  | "xids" | "xidstart" => some xidStart
  | _ => none

end Routing.Unicode.Property
