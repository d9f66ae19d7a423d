import Rover.Text.Letter

/-!
# Printable characters

The characters that stand for themselves in a quoted text: letters, marks, digits, punctuation,
symbols and the plain blank.
-/

namespace Rover.Printable

def signs : CharSet := CharSet.ofGaps "
  _R/$i?'((%^Z_E`HT%&Q,O%49$`0,Sa'''%S2B$L$`S0_2/_)$_*%_/+_)._-1`B$+*4-_+$^4@_V^'^1$[2$0^Y^@^E$gM@6-
  ^PgXO%^8&^1%_N+7-).b;$&%_IEA%_113$_LH_.'^%(^(%^*+.$j'(.&060%4;+R4$&>4D?+>_='hG<.8^^P%C$bZ1*^Z$_@^H
  E=$^C/`N=/(^)^E^K_E^>?B$ab.iyOZZaQ^J_9+_<_N''-^$'^@%K[R$^K03%_-A^N7^S4_0$hvU$_94_La1_0$MC9F$6$''($
  ,_3^O_+*$*0%aA&'P&^B$0&$RPa#>G'_,$S$d2$j%LJ,^5D&$B$_-7%Q^*,*,GFK$E/^,*;+;+<'/*bP)c-BQ$^Y-M,O'^%*_,
  *'7^?%$'_/'S%^9>$7^-)^U$d54$$^R$a9:^S&?0^6$_1)a:$`&,^;&_L$^F+^=,d2(76&%h5%`?U0$pX(^rD%esH%_6$^+28*
  k#>bM$hkD'_tX_%^&a5-J%^.9^R8^0_K7/^A,<kMaB^&h<^]8$dC$vY,_?%jO^.^6^'dF%aMO'^N/2%2$2$H-`&[@0O',*%1)_
  Kn2(3&0&_%/^C*/'$2/'[+-)K+A%%^8bZ/1%(&(&*,@&.()--)++*,_D$Z"

end Rover.Printable

namespace Rover

def isPrintable (c : Char) : Bool :=
  if c.toNat < 0x7F then 0x20 ≤ c.toNat else Letter.follows c || Printable.signs.contains c

end Rover
