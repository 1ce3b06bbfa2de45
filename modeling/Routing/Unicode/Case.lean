import Routing.Unicode.Span

/-! Case of Unicode characters: simple case folding as cycles of characters, and upper case. -/
namespace Routing.Unicode

/-- `count` characters from `start` on, `step` apart, each sent to the character `offset` away. -/
structure CaseRun where
  start : Nat
  step : Nat
  count : Nat
  offset : Int
deriving DecidableEq, Repr

/-- The image of `n` under the run, if the run starts at or before it and steps on it. -/
def CaseRun.image? (r : CaseRun) (n : Nat) : Option Nat :=
  if r.start ≤ n ∧ (n - r.start) % r.step = 0 ∧ (n - r.start) / r.step < r.count then
    some (n + r.offset).toNat
  else none

/-- Runs in the tables are three numbers each: the distance from the start of the run before,
the count and the step, and the offset with its sign in the lowest bit. -/
def caseRunsFrom (start : Nat) : List Nat → List CaseRun
  | gap :: shape :: offset :: rest =>
    let first := start + gap
    let run : CaseRun :=
      { start := first, step := shape % 2 + 1, count := shape / 2 + 1,
        offset := if offset % 2 = 0 then (offset / 2 : Nat) else -((offset / 2 + 1 : Nat) : Int) }
    run :: caseRunsFrom first rest
  | _ => []

/-- Sends each character with case variants to the next larger one, the largest to the smallest. -/
def foldingRuns : List CaseRun :=
  caseRunsFrom 0 (decodeNumbers ["C1BiC0B0iBva0QLu1fBv15Bv60Qo25BvC00BOebBcC0ocC070Oxu1vBv13Bv40QEc2fBvi5Bv60Hi1Bf21Bf1Bh52151",
    "6f21f1gBd21Bd1Bd0Hh15215150Sn10M610N413213130Ms10210112Mq20210120Eu10Mk10Mm10210110Mq10Mu10G",
    "210N610N210210110K610CTE210N610Na10I410Nc15215150Nk10210110Nk30210110Nk10210112Ni23213130Nm1",
    "0210130210120Dg5222031222031222031f21f1f0Et1h21h1i2220310210110G110Df1B721B71B70I32h21h1n0VC",
    "m10210110K510VCg12VDu20210110M510Ea10Ee19219190VBu10VBo10VBs10N310Mr22Mp30Mj20Ml10CSUu40Mp10",
    "CSUm20Mt10CSWe10CSSg10CSU820N110N510CSU810U-e10CSU230N520U-q10N930Nb80U+e30Nj20CSU610Nj40CSS",
    "k10Nj10E912Nh20Ed60Nlb0CSRa10CSR4F70F8Bb3213150210144I440H870Cc24Ca40E022Du20OE61B0C0i0Bu1eC",
    "080Cb14C930OD613Bv10Bs23Bv10E020Bv10Bi10OAa10Dc15Bv10BQd20Bv20Bc10D010214Bv30u12Bv20OVq12Bv2",
    "0Dv12Dt20g10Dr10C640Ct10Db10f1n21n1n0Fb10Ev10e10H710Fn10Fv20210110d10210124I33uF0gBuC0B02Bv2",
    "0MEs1dBv10MEq27Bv80ME820Bv12ME42cBv70MDo18Bv5uEvgB1210120MC82t1B5Bl21Bl1Bl0u1d21d1d0t1Cv21Cv",
    "1D0CaD0BgCaCvCZvCaOG0B70OG060OG03CkFy0Bd4Fy0V3EuCLz0Cgag8afCE80MGr10MGp10MG710MG310210MG510M",
    "Fn10MC910CEy41021016CkFxvBd4FxvFs0CFA840HOch0CFDgDiEl21Cv1D00Dk2Bj1Bo0Dl30Oxt2Cv21Cv1Cveg8ef",
    "8ag8af8eg8ef8eg8ef8ag8af97g87f7eg8ef82Ek26Fc42G822I022H022Hs4eg8ef8eg8ef8eg8ef82g30i52f22Ej2",
    "0h20OHh50i56Fb40h42g30OE552f22G762g30OD520e32f22Gv20d70i52Hv22Hr20hJa0OXp40QNt10QGb70Bos0Bni",
    "uB0guvj02101ZiBiBkqBiBjBZgCuD0BgCuCvBg0210110U-d10HOb10U+d10VCl10VCf15215150VBn10U-p10VBt10V",
    "Br20210120210182VDt2D321D31Da32131602101dCaOFvB70OFv60OFv+IjBd2191a0CEy52B11Bjr21r1F1d21d1fB",
    "t21Bt1C63213130CFA7192191c0210110CSSf33213130D02j21j1j0CSU710CSUt10CSUl10CSU110CSU720CSR310C",
    "SSj10CSR910Bw01f21f1f0Cv10CSU510CFDf13213130CSWd1f21f1f0CTE1p02101wt0BZvtEuCLyvTyl02101BArBi",
    "C0B0BiBvBFvCeCgB8CeCfE8C6CgB8C6CfEoB5Ce19CecdCeg5Ce80Ce2B5Cd19CdcdCdg5Cd80CdBW4D4E0C0D4DvEgB",
    "aC0B0BaBvCZgBuC0B0BuBvVM0BuC0B0BuBvC0BgBmrBgBl+S5C2C4B2C2C3"])

def nextCaseVariant (c : Char) : Char :=
  match foldingRuns.findSome? (·.image? c.toNat) with
  | some n => Char.ofNat n
  | none => c

/-- All characters that agree with `c` under simple case folding; a cycle has at most four. -/
def caseVariants (c : Char) : List Char :=
  let c₁ := nextCaseVariant c
  let c₂ := nextCaseVariant c₁
  [c, c₁, c₂, nextCaseVariant c₂]

def upperRuns : List CaseRun :=
  caseRunsFrom 0 (decodeNumbers ["D1BiBvCk0BOeBbBcBvocBv70Hi2Bf1Bg0Of2517f1hBd1Bf5150Sn10M633150140160130G240110K610CTE230I435",
    "170150130143150140120Dg6011032011032011032f1f0Et2h1j011032014B71Bah1p0132VDu30159190VBu10VBo",
    "10VBs10N310Mr22Mp30Mj20Ml10CSUu40Mp10CSUm20Mt10CSWe10CSSg10CSU820N110N510CSU810U-e10CSU230N5",
    "20U-q10N930Nb80U+e30Nj20CSU610Nj40CSSk10Nj10E912Nh20Ed60Nlb0CSRa10CSR4F70F8Bc3160144I4Bh0Cb1",
    "4C94B0Bvh0Bt1gBv90Dv12Dt30Dr10Dh40Ct10Db10f2n1n0Fb10Ev10e10H720Fv301301BlBuBvB0uEvhB11BaBl1B",
    "nd1d0t2Cv1EgCaCvCxfCkFy0Bd4Fy0XrafCE80MGr10MGp10MG712MG320MG510MFn10MC910CEy4201Hf0CFA840HOc",
    "h0CFDgDjEl1Eq0Dl6Cv1Cveggaggeggeggagh7gfegg2Ek26Fc42G822I022H022HsBk2ge0OC9i2gg2g50eL90BnB2u",
    "vk01wcBiBjBx0CuCvBh0140VCl10VCf251b01301bD31Db31701dCaOFvB70OFv60OFv+IkBd1C0r1F2d1gBt1C73159",
    "1d0153130D03j1uf1j315f1B901wt0BZvtEuCLyvU+hBiBvBH7CeCfFgC6CfFvB5Cd19CdcdCdg5Cd80CdBY4D4DvFgB",
    "aBvCwgBuBvVN0BuBvCrBgBl+T7C2C3"])

def longUpperCase : List (Char × String) := [
  ('\u00df', "\u0053\u0053"),
  ('\u0149', "\u02bc\u004e"),
  ('\u01f0', "\u004a\u030c"),
  ('\u0390', "\u0399\u0308\u0301"),
  ('\u03b0', "\u03a5\u0308\u0301"),
  ('\u0587', "\u0535\u0552"),
  ('\u1e96', "\u0048\u0331"),
  ('\u1e97', "\u0054\u0308"),
  ('\u1e98', "\u0057\u030a"),
  ('\u1e99', "\u0059\u030a"),
  ('\u1e9a', "\u0041\u02be"),
  ('\u1f50', "\u03a5\u0313"),
  ('\u1f52', "\u03a5\u0313\u0300"),
  ('\u1f54', "\u03a5\u0313\u0301"),
  ('\u1f56', "\u03a5\u0313\u0342"),
  ('\u1f80', "\u1f08\u0399"),
  ('\u1f81', "\u1f09\u0399"),
  ('\u1f82', "\u1f0a\u0399"),
  ('\u1f83', "\u1f0b\u0399"),
  ('\u1f84', "\u1f0c\u0399"),
  ('\u1f85', "\u1f0d\u0399"),
  ('\u1f86', "\u1f0e\u0399"),
  ('\u1f87', "\u1f0f\u0399"),
  ('\u1f88', "\u1f08\u0399"),
  ('\u1f89', "\u1f09\u0399"),
  ('\u1f8a', "\u1f0a\u0399"),
  ('\u1f8b', "\u1f0b\u0399"),
  ('\u1f8c', "\u1f0c\u0399"),
  ('\u1f8d', "\u1f0d\u0399"),
  ('\u1f8e', "\u1f0e\u0399"),
  ('\u1f8f', "\u1f0f\u0399"),
  ('\u1f90', "\u1f28\u0399"),
  ('\u1f91', "\u1f29\u0399"),
  ('\u1f92', "\u1f2a\u0399"),
  ('\u1f93', "\u1f2b\u0399"),
  ('\u1f94', "\u1f2c\u0399"),
  ('\u1f95', "\u1f2d\u0399"),
  ('\u1f96', "\u1f2e\u0399"),
  ('\u1f97', "\u1f2f\u0399"),
  ('\u1f98', "\u1f28\u0399"),
  ('\u1f99', "\u1f29\u0399"),
  ('\u1f9a', "\u1f2a\u0399"),
  ('\u1f9b', "\u1f2b\u0399"),
  ('\u1f9c', "\u1f2c\u0399"),
  ('\u1f9d', "\u1f2d\u0399"),
  ('\u1f9e', "\u1f2e\u0399"),
  ('\u1f9f', "\u1f2f\u0399"),
  ('\u1fa0', "\u1f68\u0399"),
  ('\u1fa1', "\u1f69\u0399"),
  ('\u1fa2', "\u1f6a\u0399"),
  ('\u1fa3', "\u1f6b\u0399"),
  ('\u1fa4', "\u1f6c\u0399"),
  ('\u1fa5', "\u1f6d\u0399"),
  ('\u1fa6', "\u1f6e\u0399"),
  ('\u1fa7', "\u1f6f\u0399"),
  ('\u1fa8', "\u1f68\u0399"),
  ('\u1fa9', "\u1f69\u0399"),
  ('\u1faa', "\u1f6a\u0399"),
  ('\u1fab', "\u1f6b\u0399"),
  ('\u1fac', "\u1f6c\u0399"),
  ('\u1fad', "\u1f6d\u0399"),
  ('\u1fae', "\u1f6e\u0399"),
  ('\u1faf', "\u1f6f\u0399"),
  ('\u1fb2', "\u1fba\u0399"),
  ('\u1fb3', "\u0391\u0399"),
  ('\u1fb4', "\u0386\u0399"),
  ('\u1fb6', "\u0391\u0342"),
  ('\u1fb7', "\u0391\u0342\u0399"),
  ('\u1fbc', "\u0391\u0399"),
  ('\u1fc2', "\u1fca\u0399"),
  ('\u1fc3', "\u0397\u0399"),
  ('\u1fc4', "\u0389\u0399"),
  ('\u1fc6', "\u0397\u0342"),
  ('\u1fc7', "\u0397\u0342\u0399"),
  ('\u1fcc', "\u0397\u0399"),
  ('\u1fd2', "\u0399\u0308\u0300"),
  ('\u1fd3', "\u0399\u0308\u0301"),
  ('\u1fd6', "\u0399\u0342"),
  ('\u1fd7', "\u0399\u0308\u0342"),
  ('\u1fe2', "\u03a5\u0308\u0300"),
  ('\u1fe3', "\u03a5\u0308\u0301"),
  ('\u1fe4', "\u03a1\u0313"),
  ('\u1fe6', "\u03a5\u0342"),
  ('\u1fe7', "\u03a5\u0308\u0342"),
  ('\u1ff2', "\u1ffa\u0399"),
  ('\u1ff3', "\u03a9\u0399"),
  ('\u1ff4', "\u038f\u0399"),
  ('\u1ff6', "\u03a9\u0342"),
  ('\u1ff7', "\u03a9\u0342\u0399"),
  ('\u1ffc', "\u03a9\u0399"),
  ('\ufb00', "\u0046\u0046"),
  ('\ufb01', "\u0046\u0049"),
  ('\ufb02', "\u0046\u004c"),
  ('\ufb03', "\u0046\u0046\u0049"),
  ('\ufb04', "\u0046\u0046\u004c"),
  ('\ufb05', "\u0053\u0054"),
  ('\ufb06', "\u0053\u0054"),
  ('\ufb13', "\u0544\u0546"),
  ('\ufb14', "\u0544\u0535"),
  ('\ufb15', "\u0544\u053b"),
  ('\ufb16', "\u054e\u0546"),
  ('\ufb17', "\u0544\u053d")]

def upperCase (c : Char) : String :=
  match upperRuns.findSome? (·.image? c.toNat) with
  | some n => (Char.ofNat n).toString
  | none => (longUpperCase.lookup c).getD c.toString

end Routing.Unicode
