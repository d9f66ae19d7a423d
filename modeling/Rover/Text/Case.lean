import Rover.Text.CharSet

/-!
# Letters in two sizes

Which characters are letters, which of them are large and which small, and the large and the small
form of a character.
-/

namespace Rover.Case

open CharSet

def letters : CharSet := ofGaps "
  ^+=)=R$-$'$(:$B$e%'/1(*$$$_2($%%'$$)$$&$$$7$^=$_<+_W$I%$)L^1>''PNF%$^M$$2%*%-&%$3$$A@^C.$;D,%'$(
  9'$,$&$:<*.(;$)4M^$Y&$5$*-23'+%%%9$*$$&'&$3$0%$&1%-$+)'%%9$*$%$%$%B'$$6&3,$&$9$*$%$(&$5$2%:$.+%%
  %9$*$%$(&$A%$&2$4$$)&&$'&%$$$%&%&&&/9$W+$&$:$3&$=&%$%%A$'+$&$:$-$(&$B%$%2%4,$&$L%$3$(&+&;)(5&;$,
  $$%*^$S$%/*^$%$$$($;$$$-$%,$%($$8'C$^)+$G>(_$N7$3)''&$&%*&'0/$4I$$($%N$bS$'%*$$$'%L$'%D$'%*$$$'%
  2$^#$'%^-H33^@%)&gU%4$=(^5)+*5061510$&2WF$'$^-^C*(%E$$(^0-BTA%(.O'=Y:,X^<$^GR4+YA0%-O=GL&-G%,*N%
  &L'$)$%&$(`8^*aU%)%I%)%+$$$$$$$B%X$*$$&&$*&'%)'0(&$*_%$0$30^O$'$%-$$&()$$$$$$'$.%'(('$W%^n'a$)'&
  %/I$$($%[*$3:,*$*$*$*$*$*$*$*^:$e0%M((%'^@)&$^D$'(N$^H4CS3e[`vH^*iyL^-Q%aL&3-%7R3B%^0T,%^Q%^*(%$
  $$(;3$&$'$:@W1U^()&$$%.?-:<@*R?$3($--($L:&$+7:&$&U$$&%%(%$$$;&%.*&/)%)%),*$*$N$1)_$@cm#/:'Tay3c;
  %^TI*/(($$-$0$($$$%$%$^VDc85^*%YK/_%($_8G=)=.^C&)%)%)%&F/$=$6$%$2%1E_,cR@&TRC07$+)I-A%G'+S_O5G'G
  'K+W/.$2$*$%$.$2$*$%^-b=,9-+;)$M$,^/)%$$O$%&$%:-:,B^+6$%-9-=^0[)%^*$2'$&$@M@&@F+$?>Y-9-605^X^3ZV
  0V0Gc)M)%^8@-$+9M5Q8>:/X^#%%$0PC<=G@$%$+F&$/S1'8$$$F5$<^>*$$$'$2$-*RI+%%%9$*$%$(&$5$/(_OX5'7&AS7
  %$$`0RL'GS7$^%N0$^1>H*`1O_%^*B+%$%+$%$;2$$$^H+%J3$$$?$-K*$8$.Q6$5^3aF,$H4$TA^Z*$%$I8$<)$%$C1$bM6
  `5$^9m-a%`<^m1^K2oP_h%g0b^=f[*B4^94A5S3'B8(6i'^*_1^5($^,0^*%$$?`nH+rLM,bcN'$*$%$b)P&4'+cY^g?^U(0
  &,*-`l(^?$^1$%%$%%%'$/$$$*$^+$'%+$*$?$'$($$&*$bZ%<$<$B$<$B$<$B$<$B$<$+^_7Be<P-*3$bGA5Os1*$'$%$2$
  `=^%^.*$r*'$>$%$$%$$-$'$$$$)$'$$$$$$&$%$$%$$$$$$$$$$%$$%'$*$'$'$$$-$4(&$($4_nBuz>C_iT*`V%`h(1ah)
  ^u<f@w;_wH"

def largeOnly : CharSet := ofGaps "
  b6$hQ&ah%$'$&&%&%$&()$&$&%%'-%($_b_=======$$%%$%%%'$+===%$'%+$*>%$'$($$&*>===========A<D<D<D<D<D$`
  u&=)=)="

def smallOnly : CharSet := ofGaps "
  _[$2$_.$^>$0$1%1$&$^L$5)>^)$G*%A(_F$_2$c0L`l9`8`T%$$e,$0$30^W$&%&$>$'$'$%%+'^q($%$%*^P$ocH%_C%^(,8
  $)$<$F$$$E&k:N$0jtE$%&$M$,^]nU==*$5==='$$$*$.=================??<$)=<$)=<$)=<$)=<$)$$^_7-$7"

def titled : CharSet := ofGaps "
  dY$%$%$I$aiT+++++/$2$R$"

def looseDigits : CharSet := ofGaps "
  `*%($_tW,yO$zC$&))-n0,.,.,^C$-,$$h&,$,$,^`y&'o=,eD,^`oX."

def looseNumbers : CharSet := ofGaps "
  `4&^h7)cE)_)&_6*`Q*4,dE-p&.l=&a>-^hXV%(iVV^97h08u4$jG$<,1&c$'_;-A+$2C-J2bK$_.$m9$k'$_tZ$%$&$$$^=$Q
  $*$$$K%A$+$G$^L$d'$^+$E$$$$$e.$$&)$_%'jT$f7$*$uK$_4%/&$$nG$^7$q4$^_6$q>$j%$^l%$m8$^e.$'$_-$^g+$G$(
  $N$_.$_hC-bF)iaL$*$'$^#$A$$$L$^^EP/^#4%b[>G'@$+$_7(q1+<*J,^5(9)_Q%%3%Q^.(W%A&^5(^R+;+L*bP)c69_O-M'
  ^Z*_@.cH7tI%dB,l36kX8oL^YgoA*k#:l]:7^V<`bJ,m4^%$&$'^6P$2n'%_d,$^L$_.$^($^c'$^B$+$2$bS$5$>$`pT$x'$_
  oG$bwD$sk3$"

/-- Characters from a code on, every one or every second one, whose form lies at the same
distance. -/
structure Shift where
  first : Nat
  count : Nat
  step : Nat
  down : Bool
  distance : Nat
deriving Inhabited

def readShifts : Nat → List Nat → List Shift
  | at_, gap :: count :: way :: distance :: rest =>
    ⟨at_ + gap, count, way / 2 + 1, way % 2 == 1, distance⟩ :: readShifts (at_ + gap) rest
  | _, _ => []

def shiftsOf (s : String) : Array Shift := (readShifts 0 (numbers s)).toArray

def smallShifts : Array Shift := shiftsOf "
  ^+=#C_0:#C;*#CK;%$U&%$*+%$4:%$Q$$_*$&%$+$#`J$%%$'$#`F$$#$%%#`E%$#$&$#^9$$#`B$$#`C$$#$%$#`E$$#`G%
  $#`K$$#`I$$#$'$#`K$$#`M%$#`N$&%$)$#`R$$#$%$#`R&$#$%$#`R$$#$%%#`Q%%%$'$#`S$$#$'$#$+$#%$$#$%$#%$$#
  $%$#%$,%$6,%$6$#%$%%$'$$^K$$$[$7%$K$$_3%,%$;$#cf9$$#$%$$_T$$#cf6&$#$%$$`;$$#^/$$#^1$(%$b0%%$)$#$
  ,$#_%*$#I%&#H'$#^*%%#^)&4#C5,#CO$#+,/%$?$$^&&$#$%$$*$$#$&&$_3&3#^:3C#C^:4%$M>%$Y$#2$*%$2S%$^KI#S
  ^r7I#ad<J$#ad<)$#ad<iJ^:#srR^:)#+^eMN$^sOP&$^sObI^5%$_O$$ajE%S%$^R+$+3)$+3+$+3+$+3)$+4'&+2+$+C+$
  +3+$+3+$+3%$+%%$^4%$$,/'$^@'$$,/%$+%%$^N1%$+%%$^Z%$$*/%$_1%%$_/%$$,b0$$ahU'$$ax'$$$auY*$#?Q3#3F$
  #$k8=#=^_MS#S^J$#$%$$ce>$$$_cW$$$ce.&&%$)$$cf*$$$ceD$$$cf-$$$cf,%$#$&$#$,%$cfM%U%$^U%%$*$#$oaQ:%
  $^*1%$_S*%$3B%$^1%%$'$$qpT$(%$0$#$%$$urN&%%$)-%$7$$us1$$$us<$$$us8$$$us.$$$us1%$$ur8$$$urP$$$ur;
  $$#m3$+%$3$$S$$$us0$$$qqO$%%$,$#$)%%$B$#$j^@=#CrUK#K`(G#K`8.#J/2#J3*#J+%#J^^(V#^*^u=C#CiuCC#Coh4
  E#E"

def readForms : Nat → Nat → List Nat → List (Nat × List Nat)
  | 0, _, _ => []
  | fuel + 1, at_, gap :: size :: rest =>
    (at_ + gap, rest.take size) :: readForms fuel (at_ + gap) (rest.drop size)
  | _ + 1, _, _ => []

def formsOf (s : String) : List (Nat × List Nat) :=
  let numbers := numbers s
  readForms numbers.length 0 numbers

def largeForms : List (Nat × List Nat) := formsOf "
  `-$m/M%^=^=^<$^3;%i3^8Y$^=^0$dX&$d[&$e%H%^4jJ%$eLbY$m,^5&m,jFj?C&m8jFj?5$m61$m%$$m+'$m9$$m3=$m-$
  $m4'$m(d&%t9tV`j-$o3$$o5$$o?$$oB$$oC$$oC$$oK$$pJ$$uwSf0%^2k6$%^>jF$%^AjH$%^CjH$%^+i5$$am;`-%m8jQ
  %&m8jQj>%&m8jQj?%&m8jQkGM%ap8m,$%ap9m,$%ap:m,$%ap;m,$%ap<m,$%ap=m,$%ap>m,$%ap?m,$%ap8m,$%ap9m,$%
  ap:m,$%ap;m,$%ap<m,$%ap=m,$%ap>m,$%ap?m,$%apXm,$%apYm,$%apZm,$%ap[m,$%aq#m,$%aq$m,$%aq%m,$%aq&m,
  $%apXm,$%apYm,$%apZm,$%ap[m,$%aq#m,$%aq$m,$%aq%m,$%aq&m,$%ar&m,$%ar'm,$%ar(m,$%ar)m,$%ar*m,$%ar+
  m,$%ar,m,$%ar-m,$%ar&m,$%ar'm,$%ar(m,$%ar)m,$%ar*m,$%ar+m,$%ar,m,$%ar-m,&%as?m,$%m$m,$%lRm,%%m$k
  G$&m$kGm,(%m$m,%$m,'%asOm,$%m*m,$%lUm,%%m*kG$&m*kGm,(%m*m,)&m,jFj>$&m,jFj?&%m,kG$&m,jFkG.&m8jFj>
  $&m8jFj?$%m4jQ%%m8kG$&m8jFkG.%atFm,$%m<m,$%l[m,%%m<kG$&m<kGm,(%m<m,^_tH%^0^0$%^0^3$%^0^6$&^0^0^3
  $&^0^0^6$%^=^>$%^=^>0%tHtJ$%tHt9$%tHt?$%tRtJ$%tHtA"

variable (s : Shift)

def Shift.covers (n : Nat) : Bool :=
  s.first ≤ n && n < s.first + s.count * s.step && (n - s.first) % s.step == 0

def Shift.forth (n : Nat) : Nat :=
  if s.down then n - s.distance else n + s.distance

def Shift.back (n : Nat) : Nat :=
  if s.down then n + s.distance else n - s.distance

def smallOf (n : Nat) : Nat :=
  match smallShifts.find? (·.covers n) with
  | some s => s.forth n
  | none => n

def largeOf (n : Nat) : Nat :=
  match smallShifts.find? fun s => s.covers (s.back n) with
  | some s => s.back n
  | none => n

def chars (codes : List Nat) : Chars := codes.map Char.ofNat

variable (c : Char)

def toLarge : Chars :=
  if c.toNat < 0x80 then [c.toUpper]
  else match largeForms.lookup c.toNat with
    | some form => chars form
    | none => chars [largeOf c.toNat]

def toSmall : Chars :=
  if c.toNat < 0x80 then [c.toLower]
  else if c.toNat == 0x130 then chars [0x69, 0x307]
  else chars [smallOf c.toNat]

def startsSmall : Bool := 0x10D0 ≤ c.toNat && c.toNat < 0x1100

def toTitle : Chars :=
  if c.toNat < 0x80 || c.toNat == 0x149 then toLarge c
  else if startsSmall c then [c]
  else
    let sameSmall (range : Nat × Nat) : Option Nat :=
      (List.range' range.1 (range.2 - range.1)).find? fun t => chars [smallOf t] == toSmall c
    match titled.ranges.findSome? sameSmall, toLarge c with
    | some t, _ => chars [t]
    | none, [] => []
    | none, first :: rest =>
      first :: rest.flatMap fun d => if d.toNat == 0x399 then chars [0x345] else toSmall d

def foldsUp : Bool :=
  0x13A0 ≤ c.toNat && c.toNat < 0x1400 || 0xAB70 ≤ c.toNat && c.toNat < 0xABC0

def toFolded : Chars :=
  if c.toNat == 0x131 then [c]
  else if c.toNat == 0x1E9E then ['s', 's']
  else if foldsUp c then toLarge c
  else (toLarge c).flatMap toSmall

def isLarge : Bool :=
  smallOf c.toNat != c.toNat && !titled.contains c || largeOnly.contains c

def isSmall : Bool :=
  toLarge c != [c] && !titled.contains c || smallOnly.contains c

def isCased : Bool := isLarge c || isSmall c || titled.contains c

end Rover.Case
