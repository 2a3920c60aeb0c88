import ControlPlane.Text.Packed

/-!
# Simple case folding

Characters that fold to the same character under the simple case folding of the Unicode
character database (version 16.0) form an orbit. Case-insensitive matching lets a character
stand for every member of its orbit. The orbits are packed one after another: the number of
members, the first member as the distance from the previous orbit's first member, then each
further member as the distance from the one before.
-/

namespace ControlPlane
namespace CaseFold

/-- Read orbits from the numbers, the previous orbit starting at `first`; `fuel` counts the
numbers left. -/
def orbitsFrom (ns : List Nat) (first : Nat) : Nat → List (List Nat)
  | 0 => []
  | fuel + 1 =>
    match ns with
    | count :: gap :: rest =>
      let start := first + gap
      let members := (rest.take (count - 1)).foldl (fun acc d => acc ++ [acc.getLast?.getD start + d]) [start]
      members :: orbitsFrom (rest.drop (count - 1)) start fuel
    | _ => []

def orbits : List (List Nat) :=
  let ns := Packed.numbers (String.join [
      "2Y1X021X021X021X021X021X021X021X021X021X031X0ebV21X021X021X021X021X021X021X031X0eC21X021X021X021",
      "X021X021X021X03YRt7X02BX021X021X021X021X031X0eY621X021X021X021X021X021X021X021X021X021X021X021X0",
      "21X021X021X021X021X022X021X021X021X021X021X021X021djV2X0ZP21122122122122122122122122122122122122",
      "122122122122122122122122122122122124122122123122122122122122122122123122122122122122122122122122",
      "122122122122122122122122122122122122122123122122123c321cI21122122cE21122cD21cD21123YF21cA21cB211",
      "22cD21cF21Z121cJ21cH21122b321Xfo121cJ21cL21a221cM21122122122cQ21122cQ23122cQ21122cP21cP21122122c",
      "R21124123XO3511331133112312212212212212212212212312212212212212212212212213311231241221221221221",
      "22122122122122122122122122122122122122122122124122122122122122122122122128gnB21123gn821gnV21gnV2",
      "1123Y521Y721122122122122122gmV21gmS21gmU2AXfgF25XfgB23Xfh721Xff821Xfg424Xfg421glN21Xfg125glT2Cgl",
      "725Xfg325XffA2MXfeL21XfeI4b7YKX0dW52XB122124125a221a221a222ZK27X622X521X521X522Y022XV21XV22X031X",
      "0U21X021X031X0Y021X021X041X0PX332X0XM21X022X021X021X031X0M31X0XG32V121X021X031X0F21X021X031X0dgT",
      "21X021X02X4829122122122122122122122122122122122124725123126YG21YG21YG21YG21YG21YG21YG21YG21YG21Y",
      "G21YG21YG21YG21YG21YG21YG21X021X031X0cYE21X031X0cYD21X021X021X021X021X021X021X021X021X031X0cY421",
      "X021X031X0cY241X0cY2121X021X021X021X021X021X021X031X0cXS21X021X021X021X021X02XH1321cX42212212212",
      "212212212212212212212212212212212212A12212212212212212212212212212212212212212212212212212212212",
      "2122122122122122122122F2112212212212212212212312212212212212212212212212212212212212212212212212",
      "2122122122122122122122122122122122122122122122122122122122122122122122122122122122122122122123XG",
      "21XG21XG21XG21XG21XG21XG21XG21XG21XG21XG21XG21XG21XG21XG21XG21XG21XG21XG21XG21XG21XG21XG21XG21XG",
      "21XG21XG21XG21XG21XG21XG21XG21XG21XG21XG21XG21XG21XG2YwAdZ021dZ021dZ021dZ021dZ021dZ021dZ021dZ021",
      "dZ021dZ021dZ021dZ021dZ021dZ021dZ021dZ021dZ021dZ021dZ021dZ021dZ021dZ021dZ021dZ021dZ021dZ021dZ021d",
      "Z021dZ021dZ021dZ021dZ021dZ021dZ021dZ021dZ021dZ021dZ022dZ026dZ023Y+021Y+021Y+021Y+021Y+021Y+021Y+",
      "021Y+021Y+021Y+021Y+021Y+021Y+021Y+021Y+021Y+021Y+021Y+021Y+021Y+021Y+021Y+021Y+021Y+021Y+021Y+0",
      "21Y+021Y+021Y+021Y+021Y+021Y+021Y+021Y+021Y+021Y+021Y+021Y+021Y+021Y+021Y+021Y+021Y+023Y+021Y+02",
      "1Y+02r1Xb+G21Xb+G21Xb+G21Xb+G21Xb+G21Xb+G21Xb+G21Xb+G21Xb+G21Xb+G21Xb+G21Xb+G21Xb+G21Xb+G21Xb+G2",
      "1Xb+G21Xb+G21Xb+G21Xb+G21Xb+G21Xb+G21Xb+G21Xb+G21Xb+G21Xb+G21Xb+G21Xb+G21Xb+G21Xb+G21Xb+G21Xb+G2",
      "1Xb+G21Xb+G21Xb+G21Xb+G21Xb+G21Xb+G21Xb+G21Xb+G21Xb+G21Xb+G21Xb+G21Xb+G21Xb+G21Xb+G21Xb+G21Xb+G2",
      "1Xb+G21Xb+G21Xb+G21Xb+G21Xb+G21Xb+G21Xb+G21Xb+G21Xb+G21Xb+G21Xb+G21Xb+G21Xb+G21Xb+G21Xb+G21Xb+G2",
      "1Xb+G21Xb+G21Xb+G21Xb+G21Xb+G21Xb+G21Xb+G21Xb+G21Xb+G21Xb+G21Xb+G21Xb+G21Xb+G21Xb+G21Xb+G21Xb+G2",
      "1Xb+G2182182182182182183YaJXYk212112dGXYm424Zt62HXYnO2ZI1221221221221221221221221221221221221221",
      "221221221221221221221221221221221221221221221221221221221221221221221221221221221221221221221221",
      "221221321XQ2212212212212212212212212212212212212212212212212212212212212212212212212212212C12212",
      "212212212212212212212212212212212212212212212212212212212212212212212212212212212212212212212212",
      "212212212212212212212212212212212212212212282182182182182182182182982182182182182182B82182182182",
      "182182182182982182182182182182182182982182182182182182C822822822829821821821821821821821829YA21Y",
      "A21YM21YM21YM21YM21Z421Z421a021a021ZG21ZG21ZU21ZU23821821821821821821821829821821821821821821821",
      "82982182182182182182182182982182292G92D82182F82182472E92fVS2XEG21G21G21G21G21G21G21G21G21G21G21G",
      "21G21G21G21G2K12vJQ21Q21Q21Q21Q21Q21Q21Q21Q21Q21Q21Q21Q21Q21Q21Q21Q21Q21Q21Q21Q21Q21Q21Q21Q21Q2X",
      "vHXG21XG21XG21XG21XG21XG21XG21XG21XG21XG21XG21XG21XG21XG21XG21XG21XG21XG21XG21XG21XG21XG21XG21XG",
      "21XG21XG21XG21XG21XG21XG21XG21XG21XG21XG21XG21XG21XG21XG21XG21XG21XG21XG21XG21XG21XG21XG21XG21XG",
      "2XH12712212212712312B122122122122122122122122122122122122122122122122122122122122122122122122122",
      "12212212212212212212212212212212212212212212212212212212212212212212212212912212512+gE1221221221",
      "2212412212212212212212212212212212212212212212212212212K1221221221221221221221221221221221221221",
      "2a8122122122122122122124122122122122122122122122122122122122122122122122122122122122122122122122",
      "12212212212212212212B122123122122122122125125122122XG2212212212212212212212212212212Bz0211221221",
      "2212212212212212512212312412612212212R12rvCX021X021X021X021X021X021X021X021X021X021X021X021X021X",
      "021X021X021X021X021X021X021X021X021X021X021X021X02Xc6X821X821X821X821X821X821X821X821X821X821X82",
      "1X821X821X821X821X821X821X821X821X821X821X821X821X821X821X821X821X821X821X821X821X821X821X821X82",
      "1X821X821X821X821X82a9X821X821X821X821X821X821X821X821X821X821X821X821X821X821X821X821X821X821X8",
      "21X821X821X821X821X821X821X821X821X821X821X821X821X821X821X821X821X82aTX721X721X721X721X721X721X",
      "721X721X721X721X722X721X721X721X721X721X721X721X721X721X721X721X721X721X721X722X721X721X721X721X",
      "721X721X722X721X72XtBY021Y021Y021Y021Y021Y021Y021Y021Y021Y021Y021Y021Y021Y021Y021Y021Y021Y021Y02",
      "1Y021Y021Y021Y021Y021Y021Y021Y021Y021Y021Y021Y021Y021Y021Y021Y021Y021Y021Y021Y021Y021Y021Y021Y02",
      "1Y021Y021Y021Y021Y021Y021Y021Y02aUX021X021X021X021X021X021X021X021X021X021X021X021X021X021X021X0",
      "21X021X021X021X021X021X02YvRX021X021X021X021X021X021X021X021X021X021X021X021X021X021X021X021X021",
      "X021X021X021X021X021X021X021X021X021X021X021X021X021X021X02ri1X021X021X021X021X021X021X021X021X0",
      "21X021X021X021X021X021X021X021X021X021X021X021X021X021X021X021X021X021X021X021X021X021X021X02+r1",
      "X221X221X221X221X221X221X221X221X221X221X221X221X221X221X221X221X221X221X221X221X221X221X221X221",
      "X221X221X221X221X221X221X221X221X221X2"])
  orbitsFrom ns 0 ns.length

def partners : List (Nat × List Nat) :=
  ((orbits.flatMap fun o => o.map fun c => (c, o.filter (· != c))).toArray.qsort (fun a b => a.1 < b.1)).toList

end CaseFold

namespace CharSet

def caseFold (s : CharSet) : CharSet :=
  let extra := CaseFold.partners.flatMap fun (c, others) => if s.contains (Char.ofNat c) then others else []
  s.union (CharSet.ofSorted ((extra.toArray.qsort (· < ·)).toList.map fun c => (c, c)))

def hasFold (c : Char) : Bool := CaseFold.partners.any (·.1 == c.toNat)

end CharSet
end ControlPlane
