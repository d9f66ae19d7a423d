import Rover.Text.Digit
import Rover.Text.PlainForm

/-!
# Characters of names

Which characters start a name and which go on with one: letters of all scripts and the underscore,
and after the first also digits and marks.
-/

namespace Rover.Letter

def barred : CharSet := CharSet.ofGaps "
  lF$^o+$_0$ar9$^]w#)d*%_%$$$$$$$$$$$$$$$b%%"

def initials : CharSet := CharSet.ofGaps "
  `i[&d(%^e>$8$TF%'_b($<,1&nsZ-jlFXe'$+$_7(au=^Y"

def followers : CharSet := CharSet.ofGaps "
  `/$hG$Z$o?.bU^N@&^$*%%%%-$-%@&^$('%%%'$A).&^$+$&$%8%9)$&^$*%%%%+&-%A$^%(&&$&-$K(^#*$&$&8%@&^$*$&$&
  +%.%?'^$*$&$&-$-%@&^5)$$$+5%^'*2+^L/2%^Z%V2..$G^X7:^2iB,m3%A%A%A%^*CZ&$$aO/',_R$^(&^#-%7_<^.^&_#U6
  _[:kL%6$qf7I^B^0^#O?/P^*H$^-1/.P&^W(($a,+$$ieF3F%;&a.$^H%^mF&$%(&wJ^0P%.^#,$^N/5%^#^*,'$%^F/)$_Q-:
  '^$*%%%%-$-%`I4^T5a,*%*@%^<4^T.^Q1a@0a6)$%%+_?*%)'$?^(5^2d*+$*^=9$1_+)&$$%$,^,($%$'c)'i]S^#*'^;$hk
  C$_sCQ%:^o,Z'U+$1$9($2llp*a/"

def starts (c : Char) : Bool :=
  if c.toNat < 0x80 then c.isAlpha || c == '_'
  else Case.letters.contains c && !barred.contains c || initials.contains c

def follows (c : Char) : Bool :=
  if c.toNat < 0x80 then c.isAlphanum || c == '_'
  else starts c || (Digit.value? c).isSome || PlainForm.classOf c.toNat != 0 || followers.contains c

end Rover.Letter
