import Rover.Text.CharSet

/-!
# Digits and blanks

The decimal digits of all scripts, and the characters that count as blank.
-/

namespace Rover

namespace Digit

def zeros : List Nat := CharSet.numbers "
  SyG^^,^aQ^i/^k=^mK^oY^r.^t<^vJ^xX_]-__;_a3_cA_dX_i[_k9`n0`o'`t@`vX`z$`z4a_Iaa7acUad,uw)ve-vf$viI
  vj0vkWvs/^ebB^f]A^ge[^gt:^gvR^gx&^gzN^haQ^hg[^hj0^hpZ^hrX^htV^i^>^i`<^imW^ir:^isQ^ud@^uf.^uhL_go
  [_gp,_gp6_gp@_gpJ_i^:_ie[_jdF_m^2"

def value? (c : Char) : Option Nat :=
  if c.toNat < 0x80 then if c.isDigit then some (c.toNat - '0'.toNat) else none
  else (zeros.find? fun z => z ≤ c.toNat && c.toNat < z + 10).map (c.toNat - ·)

end Digit

def isBlank (c : Char) : Bool :=
  let n := c.toNat
  (9 ≤ n && n ≤ 13) || (28 ≤ n && n ≤ 32) || n == 0x85 || n == 0xA0 || n == 0x1680
    || (0x2000 ≤ n && n ≤ 0x200A) || n == 0x2028 || n == 0x2029 || n == 0x202F || n == 0x205F
    || n == 0x3000

end Rover
