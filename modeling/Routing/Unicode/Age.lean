import Routing.Unicode.Span

/-! The versions of Unicode, and which of them added a character. -/
namespace Routing.Unicode.Age

/-- The versions in their order, each with the characters that it added. -/
def table : List (List String × List String) := [
  (["1.1", "v11"],
    ["0Pl4tBoCo7Be19mC5q1i1403056101j1Bb16301010101hdb1C11b1B89Bk21213r2721BnB5261B610B6918cq54n0e",
    "0301p5idd2C7241e1t29Q721Bk2h243og217212l161033201621229041142k7025412l1611111120144122b3107e",
    "c21610121l16111429121220f059h217212l1611232731228141124ah11532133110113132371244321390fbe217",
    "121m1914461213719149i117121m191446121371701149i117121m1f452213908149EhBp4sB51102110206316121",
    "010211c122410152921O2B5aB6404Cp5C35ChDA6Eq5Cp6l252B525271010101u2Bk1e1d251i22181Be1mB363qhaB",
    "5huBoqBfdCqlHhe01DoE5B4ralEalElaCfgj6ClEh3132r1B21013301626eu3n1dCC1Bn701Cj452Ct6B74Ct1fD0s3",
    "B3sr3Bhfb4Be1Dm4D22uGQ1UN5QCqGRdGi6c46o141011111DbB1LcgBv2BlB8bB43ck491i1342101E6201Ct2Ct352",
    "525223616e2"]),
  (["2.0", "v20"],
    ["BMhg1ck0CJrC71B07q45101k3610DX10Qf0BCwkKz3CKCq1B--u1B--u1B--u1B--u1B--u1B--u1B--u1B--u1B--u1",
    "B--u1B--u1B--u1B--uEAA1"]),
  (["2.1", "v21"],
    ["IFc0BXwf0"]),
  (["3.0", "v30"],
    ["Pm3u72hDl4Bh0a4Cn8j0Dk030101010u0c0C20c0Ba123Cs1Es0G82D2150f0Ba41d1t3qBlBgBOh11h3n1810263045",
    "1017i2Ll0Bb0n270121e20BgB1141116336pN661Bu10132610132B610132u101326101326161m1u1013261B61i6r",
    "B3CkcTl9s3CgEfCs39me196Cn8B9By50o5Cv2Bi1Cl1C80D78Id0Dp01tEa1O97B10Cm1MeHvBM0p1CocGlqbBs230L1",
    "nS8GNlUSaBEc3h2f1b1210VSm0BGr2"]),
  (["3.1", "v31"],
    ["-k1B+OqvBIgu13cqFlB52B5BSziHlaB63FjR2Ck1C6112021231b1013111C01327161r131410361Kh4J14BhKA0BJW",
    "mUJ9QtWBP30uCv"]),
  (["3.2", "v32"],
    ["R00Je0jcD81s0Ej1Bp12121BhfKu1K10CK51BQ7c16bm9jcc1211CGj0644074d0Bu1Bi6CieF8bHidDs0uBjIsjEn9C",
    "o7m1Cqb29GudCqr4fI0PvBJr2Cn181Cu0HgfCheCheyP21g0c030VLaBqyh03fBl1Bc0Hb1"]),
  (["4.0", "v40"],
    ["R10i2Dn1BvgCg752En4Q4398C02El1f0Bd2t2Nk0Fo0C3010E80Ck2d0C30Br0E17G11CYv0i9I6s3b4b403B924DbvY",
    "0DbX71H60Uj1Je0Ik1Dk7e1BCudBYf1Bh0Bb1Ce3F73D31v0GO0BvBL-t0C91Nnb1p1i111e2dB2Dq524Bc38S0t10E6",
    "1B6Cf29wm5201Bb113020BSW0CmLa0YLBuHf"]),
  (["4.1", "v41"],
    ["RnaIm4Ev3Hm1Fa0B22C30i0Bq5HhtQf0Cg0P70Bf0-91J7110Ia0Bv0Bv0B70v0v0v0f0B70n1vpBP6B96p6941B0r21",
    "wcCnUh116Bh4t3Bl0Cg0f0U4aRs0D51ia5fIe6w75HcBe1BeB1DaeBcaBl90gm9616161616161616B1n41z2fFe0xJ7",
    "lBw4mH9BbUS4D9Zm9Z6CaQlB34dBRa31157121q424888BRz7C5BCu1"]),
  (["5.0", "v50"],
    ["S2dJb2Kh0Ba5g3F60Q5BqM0111x21d1DQdCb4BcS76Bj1Xc3Ct1Bl0SnbWa0Ik3w9653Jsc73+Uv351IuBnYE8p50FX0",
    "xeEhD2d3BLXchBCo1"]),
  (["5.1", "v51"],
    ["xg321Cn0Fn0EcfH24b4B04JehPh1Gu0B30Ge0t1Dc0Dc0q181k7Ft060t1c536Pb1D1032Cd050207245qBv41CAa0Wl",
    "Ba3bC6Bn3e3BiKbrFl3Cq5L40Eb0Cu0Bl3BIk0l933I80v3Zb44B834Io21245L2vo32iXs0F2jxOo7BJsJbkv2h8rE3",
    "42DaDe4E0C49bB6Cjb0F0Bm9d2923U+42x9bBkBdE2s3BgBSfp50BR-90HWmBb4D3"]),
  (["5.2", "v52"],
    ["BJ41WqBd2eG10Cd060B31E00BOp3G13Fs4C44Ci5Q00Tm8RgC5Fk1Be0C5Bu1s2a696dR2B2Ia0Vo2En2Bm0Su0Vl1t2",
    "491i104nCn0-t4Im0d1Db6Jv0BAibxLk7BI4BfN0CnJo9F6rD4s3Cd1a41E0r4C2o4H0Bd29Kzmm4BgITf2DOil18Fq1",
    "K4vE0Bl3s2q57E0C8QnuQ1C1HZuBBeBPGha5u20b0102030348070p01120a320Df0fB1e8BNFnEBk"]),
  (["6.0", "v60"],
    ["BJ61Ho0Bu0P0r20Gr1j061r4Pq5Nh0g0j0Rt3C91y21CD1Bj83Ps0Uo7s0ZfaWq0j013t041s0B30104291Bk2o0e0e1",
    "BN00e0BBo2zF51Jb111e9Cg0Y6525259616UE3fFBuCd4tVygRoRO71QEue2d2e1eCg01a1011121257161968102119",
    "4119Cbp11Bf8l1FeB0f51C53jcB414lgfBu101Fl133BtinEj41f1210101012152310231b4aBgC5BqDjBP+cGt"]),
  (["6.1", "v61"],
    ["BMf0Dk0Ur01aBnqPh0-d1P7050Bf2CVb2c5I07Bb3CWk010BJ41Bj050Bo1Ga9yMg0BV77B30Hi1m0Cd1X6mTZn1DwgB",
    "n61BYgo796Bk1dBsC879BF6Bn89WBmC4bBegg-T031q1110201913101060401010121110201010101011102316131",
    "310191g52141gBk1To1+k3Fs0g0301010103061401140"]),
  (["6.2", "v62"],
    ["IFq0"]),
  (["6.3", "v63"],
    ["BQs0GS93"]),
  (["7.0", "v70"],
    ["xv0N87Ct1Dm0Ur0b5Cc0Do070Tv0Bj0Cc0Dv0H49CI17R41MheRp1HdeW52Zm6Y50BCc2ap2v2B13b17Ta6+Cl5Hmbb2",
    "21C50P8uDt3FgBf41UW16wt1j0JvrB30BgBaM5B78Bjb0EgJm9la7HoBu88OgvB0B64bE9h73c6BGf0GgB6Cm0c06jbh",
    "1BaDiBq597217212l16111428212290562634IbC789F6Bl2hBmC4b9S6Cic0O0BoCDmB9Gab50RObu1941D0t25aC5a",
    "9161k5iUDgDa5c387927KwsG42fB-80B0ll1Qkb90C60mbB50535bh6C7010Fm041Bv146th1B81ClC61dBfC69gc33E",
    "cCkBbb4Bn896B78t"]),
  (["8.0", "v80"],
    ["CFj1Be0Ql0L00I40BUl025DG00Gb1CT03y+t8BW80Hg0B25K41T23cCfUTe1CVgi1154Fs12f2BdU0BidBi75BG93e4F",
    "0610131e1aCm0Cf0TpjJ2p3e4fDCp0H6G3HVsS6BCynaBQnUbf41eGDt2Ce1Cf4B47Hv0Cb4Hj1Eb0Rv8D74Br0BPSvF",
    "U1"]),
  (["9.0", "v90"],
    ["CFm7meyt0Ge04216n2DY78Li0BPv3CS41+L90Im0WG71Z1B34B3DK20O1Cp1010Q2cBMj81Bc1das3v2l1dUZ90vF-cj",
    "XiVId61g261114CGlCa5941CBrhEe0Zu0B90Jc1B12R2517802b1b4eB6c"]),
  (["10.0", "v100"],
    ["CD0aMh1Hs5Q00Bq1Dzq0Hu3W50Zv0B+i0Ti4X40xV7kYw22FWgC78Bj2m14St6111Bb30111889UU70QB0IsChMbPx45",
    "BDd1B21Q7bj08711p0icB65BomBVG9HJg"]),
  (["11.0", "v110"],
    ["BL00B70D60Qd2Gj0Ja0Dn0Md0Dv0C-j0BAnBa22DXq2mo4eSb4X00xVr4Bzv081K41YJk1i0VnB789O6B78B9Lj0Dm2P",
    "k0J20Vr0H5BrT10W25111B4111579JmoTw7CqGKi4SXejDu6GHoC3BDq0BO90Gr3Lk2s4233013oad971B4oD0d"]),
  (["12.0", "v120"],
    ["DDn0Qe020201540707120d0DRv0DWe0Bl0Sf0+La524yv1ZDomBD80So0X772Bd2aEv1BJqBhd0FBg8OYc540Bf8Cq1G",
    "Ae5KKo2h3LyoBc3d2941LgBp50BSb0zlBsBBe0BL80B40H5bJ12Bf0Bh090B9531a53722BgCjs34252d5"]),
  (["12.1", "v121"],
    ["MXv0"]),
  (["13.0", "v130"],
    ["CFu9Ud0Ne0Ds0DJt1EGm0Vo2x84G-m9URgcB+a3Ba1Bl0Zr3VRg0DH3B91221HurLr0E61Ua051BEu62027111t112b9",
    "9BSm0UBj0b1GY1P2Ba8ZA42Ct2Bt0BJ81B31Nj1Cq0D5041Ba162t0F80e3fi7692d6B9Ei1BmB59BKWt6WJ2Ewa"]),
  (["14.0", "v140"],
    ["BQt0Siu1167l0iax90B00Dv0CRf07090Hf0VhdDt0Bg1Tr0W50Cxe0Bf0PjayMv2B+01e11014o2U+d0LtfDv0Be1Bxg",
    "a1e16111a1e1611O351B918BzlpH65Cc0BPm0E66x9fFGgD2OTtCe19RJ631611J03HOtBd2m9DjR51DIluxhuBJh613",
    "111eDWu2Ig0M80Ci0Fe1Bc3a382h26786BK-71ECl3"]),
  (["15.0", "v150"],
    ["DHj0Oq0CABe2Zv2CFu9-mg1B83rFGl09s-Gs0B20ILajDCh5I5BtB10BC0B9EP20En244Cp0Ur2f1B42b210e1a1c0e1",
    "BPC00XAmECv"]),
  (["15.1", "v151"],
    ["L-s3Pf0FOQ0Td"]),
  (["16.0", "v160"],
    ["CEn0EVm1Bf0I91Bys2DNq1zP52c2XP3BjBwcB53s81Ji2Bn0BE3910201B519102013191181XdjBGsB1e9x00FI5Dyq",
    "HI5BpDA6BpHy50PY0Hp6NjFYsBa40EVi941O7050Be070l02090H1B4"])]

/-- The characters of the version with the folded name: those that it added, and those of all
versions before it. -/
def ofName? (name : String) : Option (List Span) :=
  (table.findIdx? fun entry => entry.1.contains name).map fun i =>
    (table.take (i + 1)).flatMap fun entry => decodeSpans entry.2

end Routing.Unicode.Age
