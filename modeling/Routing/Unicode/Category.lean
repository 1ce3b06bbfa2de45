import Routing.Unicode.Span

/-! General categories of Unicode characters: each category is the list of its spans. -/
namespace Routing.Unicode.Category

def uppercaseLetter : List Span :=
  decodeSpans ["C1pD5m16B10101010101010101010101010101010101010101010101010101010201010101010101020101010101",
    "01010101010101010101010101010101010111010311011122311123111101011102011121011307020202010101",
    "01010101020101010101010101020201210101010101010101010101010101010101010101010101010101010107",
    "111201310101010J10103080601210111g18B30223010101010101010101010105020112BiBg0101010101010101",
    "01010101010101010901010101010101010101010101010101010101010101010101010111010101010102010101",
    "010101010101010101010101010101010101010101010101010101010101010101010101010101010101010102B5",
    "Cw9B51050WiClCEj06Ba22K001010101010101010101010101010101010101010101010101010101010101010101",
    "01010101010101010101010101010101010101010101010101010101010101010101010101010101090101010101",
    "0101010101010101010101010101010101010101010101010101010101010101010101010101010101010109785a",
    "78785b010101087C83c3c3c4b3I6040322220346010101323a150Bt0CTsBfBg01220101013102082101010101010",
    "10101010101010101010101010101010101010101010101010101010101010101010101010101010101010801040",
    "+Kd010101010101010101010101010101010101010101010j010101010101010101010101010E701010101010103",
    "0101010101010101010101010101010101010101010101010101010101010a010111010101040102010301010101",
    "010101010101414101010101010101310111010101010101010o0VZbpBG5B7E8B3Esa1e1611BXaBiEtlCZqvVM0vC",
    "0oZK7pqpqpq01120212317qpq1132716r113141036rpqpqpqpqpqpuoB1oB1oB1oB1oB10EJlB1"]

def lowercaseLetter : List Span :=
  decodeSpans ["D1pBq0B9n17101010101010101010101010101010101010101010101010101010111010101010101011101010101",
    "01010101010101010101010101010101010102010122010203140203220201010201110203010212260202010101",
    "01010101011101010101010101011201030101010101010101010101010101010101010101010101010101010101",
    "6202110401010101C42pG10103032i0rB21132101010101010101010101014102021BjBf10101010101010101010",
    "10101010101010901010101010101010101010101010101010101010101010101010201010101010111010101010",
    "10101010101010101010101010101010101010101010101010101010101010101010101010101010101010BgB8Cw",
    "7Ba22Xo5CE2810DlBbBvc1B1D6010101010101010101010101010101010101010101010101010101010101010101",
    "01010101010101010101010101010101010101010101010101010101010101010101010101010101018101010101",
    "0101010101010101010101010101010101010101010101010101010101010101010101010101010101010101885a",
    "78785a7878d2787878411603211832187a211Ii03130r04040218340Bl0CVbBf1031101010401115501010101010",
    "10101010101010101010101010101010101010101010101010101010101010101010101010101010101010117010",
    "40cB51050+Ij010101010101010101010101010101010101010101010j010101010101010101010101010E701010",
    "10101012101010101010101010101010101010101010101010101010101010101010101710102010101010401020",
    "121010101010101010101050501010101010101040102010101010101010q030ZlBa587CfTw06c4BB9pBGdB7E8B3",
    "Era1e1611BY3BiDtlCZqvVM0vBroZK6pq61hqpq310161aqpqpqpqpqpqpqpqpqrso15qo15qo15qo15qo1510BZk91j",
    "65CPnB1"]

def titlecaseLetter : List Span :=
  decodeSpans ["O502020B60HMl78787c0f0Bf0"]

def modifierLetter : List Span :=
  decodeSpans ["Vgh4be47010E5050Ou0H60F41Id140v09030F00F70BGk0Dv0Rl0BWq0Db0T30Og5FeBud0B2B4Vh0d0gcC+v1Hh0Fv0",
    "Ol0Bb450D11Ct2xYm0BH25Ie0Di0s1Dp8Cg0n0D8331Ol0m0E90Dc0l1D7390VA60Bd1B-051B918BMj0B00Kl0DYj0T",
    "L63Ps2B81R6cC0110e1P-s31611MBhBtG96zd0Qj0Sb0"]

def otherLetter : List Span :=
  decodeSpans ["Fa0f0I0043Gg1Zqq43Bdv19B311D210o1a220g01ttCob0oB0llBao7a5n16gB8BrBl30i079ge47212l16103330g0d",
    "112e1a085412l16111111v310j2g8121l16111430i0f1n0b7212l16111430u112f0h015321331101131323bm0Bk7",
    "121m1f30q21121u047121m191430u211f1h8121B820g05282o55h3n181026BqBf11c5Br110141n1019119024n3B0",
    "0Bv71B3r4DjBak0g5433031724cc0DhK8132610132B8132B0132610132e1Bo132C2B5fDhTb2g1p5Ca677hdiehec1",
    "2fBjB80C3B21Bk742B1105C5auBht24bBb4pBmm9BkFgBeh7Bmtd1aBbqB3B92atDh3151130BBq3C-nBnom96161616",
    "16161616R70Bl04Cl801Cp405Ba1CthvBgfQ0GNvC0UQk1BDmC3B78Ib4fa1C20BhC5F90D703612131mtBjeBhBu530",
    "11bramps7BeBd428a41B8n217kf15303Bh1031242010o13a70e525259616EhB2tKz3cm4BgII4Ld2D9C30191c1410",
    "11111DbB1LaiBv2BlB8bDk41E6D991Bc2u35252522B3b1p1i111e2dB2DqM5s3BgBfvdj176B5at2B347E0CdD2B78B",
    "jCsBjcJm9la7Eo5201Bb11302mam9uC1i11alap6pB6Bn61C00f3121sBas3sB371rrBlalaidhDeC8FnB3B6310JgB9",
    "61g211Bosa08lBahBekrmcBkBp120dBcB0oqB3t0208B230cBfe3l010B3h1oj1Bv610131e197BeB67212l16111430",
    "i0c4u910201B510p010BcBki3k2uBfk110FoBeB93B4Bfk0BrBad0C7qB56FpBbGj72027111nf010Cu72B6g010s0aB",
    "770l0bBdj0iC8G7B0v81B4h0BhtDg6111B5l0p5111ve0nB811I4if01c1B1Ds0CfypH6G3CScD0fBBfh5pDyq5S6GVp",
    "tBX2Ro7uhCehtiBfBjk5iNjB7MlCa50FfHGlB9vD1DiIQdJ2f0t220e38MbCI4Da5c3879ITg0PlBcB10K1tiBbP4qH5",
    "t20Gfu1211162490H1613111e1G4BJr31q1110201913101060401010121110201010101011102316131310191g52",
    "141gEK4BJWvB0EIt2FUd2HJgfTdCN2QtBP2Ewa5IJ9"]

def nonspacingMark : List Span :=
  decodeSpans ["Y0DfIj4I9Bc10111110C8aBgkg0D56252113B30uqCraBq890o3181214Bb2Br8Ban1vBn010474036a1t0Bq04380k1",
    "q021Bp041412230u130b1Bp0441140k1m510Bq020138071b1u0Bt0c0Bi030Bn012521371b1t0Bq0206051k1s1Bp1",
    "4380k1t0C807210Cq026c7D2028b6C91r01010Bnd14115a1B390D63151121p142g3d02160f0Vv2zi2t1u1u1C0116",
    "802a90Bd210Dl1B20Dm2419062Gr120Bq0161010276920Bgd1u2bk3Bg0141050B88c1B032112Bo0113012Bq721Eo",
    "21c16406031G6BvWgc403bC-u2Ed0D0vRa3Db1zOk049B01Cg1Ig03040p150En1qhd0B67paBe2Bg02321B70C35212",
    "1c080Bf0Bj012215110Ba180He02040TZg0X1fgf+d0H20El4BU621153B8240F51Rt3C14Jt1Cd5C6aBh3Dr0BmeB90",
    "21a2Bh32170Bt2B4417Bu0c1Bk8a320Cv220116020Et037l1Bp130B5634C65d01010e1Cl72210n0Ck5104111He36",
    "111r1Cl72011Da0102510D50102314I3811I011040Eg32140B09B8523809522Bec11G601210G961510Cil261111D",
    "q530111610C813010Kr1b1Bk45010n0FH506eLG8b32CO04Br6BAo0Bv3Ch0TFo1ET1Bd2mR02h726u3Ek2BzrBm4Bh8",
    "0e0m41eBKg61g261114D40F06Ln0Bt3Ps3Hu1Hj0207150Oq6Dd6YFzlHf"]

def spacingMark : List Span :=
  decodeSpans ["CI30Bn0228311Bi1Bq26121a0Bb0Bq2C20Bq28011Bl1Bq0106121a0D61113212a0B92Bt3Bt1Bq014211191s0e1Bq",
    "25212a0Ba1Cb267i1Ka1Bv0Fb1406021p1a226l12520a2BTo0u0E107711Kq3224115H01Bq010901185Eh0Bg05014",
    "11Bt0u04120Bs0221031Bg781Fb0l0EZm1z-j120Co1BifEe1Bf0Bg14122De121o0Bd010Dd02150Hd1111110ZAj01",
    "0Dv0Bd241Dj0o1Br0Bg291d0Ct23110Fa2v1Bq113212290a1Ck27020131110D528130Da2601320Hd26320Dh28110",
    "Dd01160D701140I5290Hn511402010Ee28340Ck0t1Bu0G903010G70e0Da07020Gl44110Ku1c0Bg18110QP82DR4Bm",
    "D81YLj165"]

def enclosingMark : List Span :=
  decodeSpans ["BE81FRk0BQu312BBMb2"]

def decimalNumber : List Span :=
  decodeSpans ["Bg9BR69E69G69Ms9Dm9Dm9Dm9Dm9Dm9Dm9Dm9Dm9Dm9D09Dm9C69Im9C69Bw69B69Jc9E09F6969Fm9Cm9E6969BCO69",
    "V69B69G69m9Cm9Mm9UYm9BM69CE6969Ys9E09Bs9Eg9Im9Km9Dm9Lm9D696jCc9N69D69Um9Cm9Hm9C69Bm9L69QOm9C",
    "J69Cm9E69Qm9Xxm9CWkBhCK09N69Pm9Hn9wl9EUm9"]

def letterNumber : List Span :=
  decodeSpans ["FXe2CTfB223DTu0p8e2zVb9WSgBkOc080E64IBaDeSy52"]

def otherNumber : List Span :=
  decodeSpans ["Fi15022CJl5Lo5Do2E56Gp6h8Nh9BBljBDj9P00BUl03569G6fB90WmBrCelTmtBL90BEk3Ea9u71eB09B7ezLg5WGhB",
    "cC13h1KlqB43BJk7p6B78Cb4m5F012f2BdC08Bk1u2Cb4D87o7B96Ka5L0uEu9Ba3Dg6E6jLrjBK51Ne8x7iwjkSy66Y",
    "umZB9jcjDcoFKe8z1Bq1213CcBc1e+2c"]

def connectorPunctuation : List Span :=
  decodeSpans ["Cv0H+v1j0BXOu1o2Hf0"]

def dashPunctuation : List Span :=
  decodeSpans ["Bd0BKs0Bj0DS10BA50CA95DQ1020v140s0Nu0j0Df0BTMg1B50a0F90DT00Ju0"]

def openPunctuation : List Span :=
  decodeSpans ["B80Bi0v0DVu010Bwu0CLu030B60Bn0f0Tq010u0BBu0101010101010Cg0B0010101010Mk010101010101010101010",
    "C0010B10BB50101010p0i0101010Nc0101010103010101020BTJ10Gn0t01010101010101030h01010Fa0Bi0v0302",
    "0"]

def closePunctuation : List Span :=
  decodeSpans ["B90Bj0v0DVt010Bwu0CN90Bn0f0Tq010u0BBu0101010101010Cg0B0010101010Mk010101010101010101010C0010",
    "B10BB50101010Bc0101010Nc0101010103010101021BTIu0Gp0t01010101010101030h01010Fa0Bj0v02020"]

def initialPunctuation : List Span :=
  decodeSpans ["Fb0Hxc02120p0DO80104020f030"]

def finalPunctuation : List Span :=
  decodeSpans ["Fr0Hwt030s0DO80104020f030"]

def otherPunctuation : List Span :=
  decodeSpans ["B1212201011a131r0C4050e170Vu080Oi5B90Bm02020Bc1k111d012Ca3D60BbdH92Bmev0I51a0Ec0Do0Dp0M60c0L",
    "f0Cq0a1F8e10Dg0Ca441Df5Fb0T48Y50Ds2C71Et212B5513Jp1Go1E0615F01a6s2Ds3Br4Bu1C07b0w21878823223",
    "a1019DEq311Dg0Ef1422028111021a41923101c22Nc2Bp0Ft0zA21Id2D30a0Dj5Ls3Cm1B8210Bh1Bf0D1cg1Ds3Du",
    "1g1Hp0UR4620m0k1233213726011El212201011a131r0B4021Mq2Us0Bg0Mu0X70G70v0Ig8B60Dg6C26Cp3Zj0E44B",
    "c3Ft6Dd113Du3Bg1Cf340d012Co5Db0Ja111Di4a110D80HqmD92scCc0E22Hs0I82Er0Cs7Cj214Ct9Gn0Cv4Ba1U51",
    "CacFf0BDg4Cxs1OTr1E50C1480R82J73K70TFs0HP74Cxj0wu1"]

def mathSymbol : List Span :=
  decodeSpans ["Bb0g2Bt010Bd040B50v0Xu0Qf2GRr0d0B72d2Eb0B7460C445140202070v12010vIbB01Cq0uoB85Ol090Bm7Df0Kg4",
    "2uafI0E2mBu4v2I1Bgk25BT+s0Zo012F40g2Bt010E3063DN11BQL00B+g0p0v0p0v0p0v0p0v0p0FZc1COu8"]

def currencySymbol : List Span :=
  decodeSpans ["B40Dt3BH90Dr0Pi1Pi170Hl0I70S50CMr0CG4B1BBxm0VO30Dc0Eq0Gr131H-m3BQYu0CNg0"]

def modifierSymbol : List Span :=
  decodeSpans ["Cu010C70604030Q93cd56101gDl0e1BI20FZk012b2d2d2d1EEs1zT3m91D71+g0e1UC6gxr010F20BzAn4"]

def otherSymbol : List Span :=
  decodeSpans ["F60204010+h0Ia1Dv1Ge0a0j1Hn0Q30Ll0E2510E40Gf0B90M72f01225k01010E57151153G51Xg9Wj0Wi0EtB1L199",
    "8BM311311a0116510101040b1e01110Bq194231111161u21101uIc74j262Cg1tpB76C7maChCdmFm181Bl8De1HnBc",
    "BbC0HvQ0Bfl16B62E9H55L51Bep1CocGlqf40d1c0l161Kg149B0B590gubt80fvaB6fJvGO0BvVUgBmx13a110Rt2UK",
    "9fLdfC01Bm7Bd2P403041d1Jp8Bpg221c30BfBcBTq1Sf0BA87CD60CEl74gSwa350UKm0Dx3Hfa23Nj6mffD0DjBsHl",
    "aB62Br52m17t4BslC130FqCmBF9PvBn3Bi71d11BW80Cws0E10WhBb4D3ce2e1e1B4nF0BosdBb4871e5EqHq5Wo3g3c",
    "3Gp6b40fb4Bn896B78t2b41BuKn8d2c3a3Bo104f2b497Ei1Cra0"]

def spaceSeparator : List Span :=
  decodeSpans ["B00Dv0FOv0CLvaB40Bf0Dz00"]

def lineSeparator : List Span :=
  decodeSpans ["IB80"]

def paragraphSeparator : List Span :=
  decodeSpans ["IB90"]

def control : List Span :=
  decodeSpans ["0vCvB0"]

def format : List Span :=
  decodeSpans ["Fd0BKi5m0G00Bh0M01Cg0DZb0B-s4q4Bh419BXUf0Hp2EG10f0Ix2fBCD03FGf7YLU60uCv"]

def privateUse : List Span :=
  decodeSpans ["BYA0GHvyBY0B--t2B--t"]

def unassigned : List Span :=
  decodeSpans ["xo1637010k0Md0B61Bi130Bn7r36aIe0Bs1D5dBr1Bh1f0s110b4B24Hd08121m0701241912147132051p1306321m0",
    "7020202110532132164016h9309030m0702051a030311e41c670308121m0702051912136332051i9206230422010",
    "222232c3523041151dl4d030n0g190304620302141a6m030n0a051903046243041a03bd030Bj03063g1q030i2o09",
    "0117213601085a13bBq3tB4201050o010n1501070a14vC80B43B70B40f0dB4G601411Lp041701041B9041B104170",
    "1041f0Bp041C31B02q5Cm161Ut2Cp6m8o8kbd0302bCu1a5a5q5Cp6Bb4C69v0c3c312Ba15aBc3q5b2Bu1C10t1b5a5",
    "e1Be1cjCd0F67Bs2f2Bu4Bb1b7Bb4Qm161B616180101010v1Bl0f0e160j13090D50c1r0d2B2dB1eEc3UqlbkBYk1L",
    "u4Bd01411Bo62do87070707070707070DuB1q0CpbGmpCg0Cm1D74Bb0Cu0Cm8Bg0yTd2Bn8KsjFo7GtjBs2a5Bo7C67",
    "c5Dkau2Ce0b3B10Bn8e1a1D7ns96161687070Bs3Du1a5Kz4bn3Bh3ITe1DaB57b54q050102020UavBa5Bj0j04350E",
    "7110Fu261616132707951c0q0j020f1eB1Dr433Bd2Co0d21BeBeE1t2Bhes3B48u4Bb4u0B53eB9Eu1a5B43B43B87B",
    "kac0f07020b0f07022BkbJn8m98n60Ba09C46110Bc02211n0C879Bfj024B12r4rB5Bo3k1Bi0248030t133a696C0v",
    "B73c8Bm2t1r4q64b7CfC9BmBjcBj6Be7a5B62t72Gfv0Ba0312f679B0Be7BalqB5sjn8Ce3B48C4911p6a5Bl0i7B78",
    "D00kai0BfBt701040f0b5Br4a5408121m0702050a12131151471725aa01110B60a0111040a0272sCs05tC87aF5Bm",
    "1B6B1C5aa5diBq5a5krr1f3nFoBsD3Cjb81118020u021c8aC581Be1bqC87CjcC96aCl8CnB2da590Bd0e9t2B01m0e",
    "C87020Bc2102097a56020B502066a5Bc3aHlp6h0B92tCk1eBicyrD5Df05aG4CSbD3cBCm9Dyr4S7GVoBqBW5Rp6v0a",
    "3Ch0a5u169C69a070l4jNfBqG5Cr4p1pBbCb3Bp6hBv5a78HGmB8B0D0DjIPs407020J3e1s311d47McCI3Db4d296a1",
    "8DwrHt2Nk5neheBe1n8DkBrHm9B71G2kC6DpkbkbCn8pE6Cl0C7021112140c01070C10418070s040501270Kk1J41V",
    "ue50fBCfv56Gk70h1702054BuB01DfBd2e1a32JvvgBq41OfBaGlBb31Fvv0m72Gv704020f0G51gB8Cc3a32YgC4CbB",
    "tG140r0201110a040101513101010302011101010101020114070404010a0h43050hBj2IdBc3D4bf1f0f0B59FeBn",
    "tcBc3962d6Ep+p2h2d2Gq5c31ec3Bo7a5B87u1c32d9B6Ko7e1d2b2Bp013g1c3a6Ej0D7BA4BJX0vEIu1FUe1HJheTe",
    "CN1QuBP1Ewb4IJaVSy61tD0DvHgB-QfB--u1B--u1"]

def letter : List Span :=
  uppercaseLetter ++ lowercaseLetter ++ titlecaseLetter ++ modifierLetter ++ otherLetter

def casedLetter : List Span :=
  uppercaseLetter ++ lowercaseLetter ++ titlecaseLetter

def mark : List Span :=
  nonspacingMark ++ spacingMark ++ enclosingMark

def number : List Span :=
  decimalNumber ++ letterNumber ++ otherNumber

def punctuation : List Span :=
  connectorPunctuation ++ dashPunctuation ++ openPunctuation ++ closePunctuation ++ initialPunctuation ++ finalPunctuation ++ otherPunctuation

def symbol : List Span :=
  mathSymbol ++ currencySymbol ++ modifierSymbol ++ otherSymbol

def separator : List Span :=
  spaceSeparator ++ lineSeparator ++ paragraphSeparator

def other : List Span :=
  control ++ format ++ privateUse ++ unassigned

/-- Finds a category or group by its folded short or long name. -/
def ofName? : String → Option (List Span)
  | "c" | "other" => some other
  | "cc" | "control" | "cntrl" => some control
  | "cf" | "format" => some format
  | "cn" | "unassigned" => some unassigned
  | "co" | "privateuse" => some privateUse
  | "l" | "letter" => some letter
  | "lc" | "casedletter" => some casedLetter
  | "ll" | "lowercaseletter" => some lowercaseLetter
  | "lm" | "modifierletter" => some modifierLetter
  | "lo" | "otherletter" => some otherLetter
  | "lt" | "titlecaseletter" => some titlecaseLetter
  | "lu" | "uppercaseletter" => some uppercaseLetter
  | "m" | "mark" | "combiningmark" => some mark
  | "mc" | "spacingmark" => some spacingMark
  | "me" | "enclosingmark" => some enclosingMark
  | "mn" | "nonspacingmark" => some nonspacingMark
  | "n" | "number" => some number
  | "nd" | "decimalnumber" | "digit" => some decimalNumber
  | "nl" | "letternumber" => some letterNumber
  | "no" | "othernumber" => some otherNumber
  | "p" | "punctuation" | "punct" => some punctuation
  | "pc" | "connectorpunctuation" => some connectorPunctuation
  | "pd" | "dashpunctuation" => some dashPunctuation
  | "pe" | "closepunctuation" => some closePunctuation
  | "pf" | "finalpunctuation" => some finalPunctuation
  | "pi" | "initialpunctuation" => some initialPunctuation
  | "po" | "otherpunctuation" => some otherPunctuation
  | "ps" | "openpunctuation" => some openPunctuation
  | "s" | "symbol" => some symbol
  | "sc" | "currencysymbol" => some currencySymbol
  | "sk" | "modifiersymbol" => some modifierSymbol
  | "sm" | "mathsymbol" => some mathSymbol
  | "so" | "othersymbol" => some otherSymbol
  | "z" | "separator" => some separator
  | "zl" | "lineseparator" => some lineSeparator
  | "zp" | "paragraphseparator" => some paragraphSeparator
  | "zs" | "spaceseparator" => some spaceSeparator
  | _ => none

end Routing.Unicode.Category
