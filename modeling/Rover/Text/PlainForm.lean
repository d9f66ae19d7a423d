import Rover.Text.Case

/-!
# Plain forms of names

Names that differ only in the form of their characters are the same name: wide, narrow and joined
forms stand for the plain characters, and a letter with a mark for the two in a row.
-/

namespace Rover.PlainForm

open CharSet

def readTriples : Nat → List Nat → List (Nat × Nat × Nat)
  | at_, gap :: b :: c :: rest => (at_ + gap, b, c) :: readTriples (at_ + gap) rest
  | _, _ => []

def triplesOf (s : String) : Array (Nat × Nat × Nat) :=
  (readTriples 0 (numbers s)).toArray

def classes : Array (Nat × Nat × Nat) := triplesOf "
  j>8V8$W$'Q'$W$$O$(Q(%M%'Q'%M%.Q.($('Q'+V+$Z$$V$&Q&&V&%Q&&V&'Q'$V$$W$%Q%$V$$X$%Y%$X$%Y%$X$0Vb&(Va
  M$Q$'V'$Q$&V&$R$$Q$)V))Q)%V%$Q$%V%$R$$U$$V$$)$$*$$+$$,$$-$$.$$/$$0$$1$%2%$3$$4$$5%$6%$7$$8%$V$$Q
  %$1^3+V+$=$$>$$?T$:$$;$$<$$=$$>$$?$$@$$A$%V%%Q%(V($Q$%V%$Q4$B^P*V,'V'$Q$$V&%V&$Q$%V%$QG$CB$V$$Q$
  %V%$Q$%V%&Q&$V$%Q%$V$$Q$&V&$Q$$V$$Q$$V$$Q$$V$$Q$%V_S*V*$Q$$V-$Q<'V(,V-&V'(VS&Q^)$V$&Q&'VQ(V((Q(1
  V2$Q$%V%$Q$%V%$Q$&V&&Q&$:$$;$$<$&V&$Q$%V%%Q%(V^+$&4$('$V$$Q$%V^S$&4$(T$V^($&4$(^Y$&4$(^Y$&4$(_1$
  (^Y$&4$(+$D$$E^P$&4$(^X%(5$(_.$(^X%F%$(1'G^Z%H%$(1'I^:%Q@$Q%$Q%$O[$J$$K%$L)'K)$K%%V%$(%%V^*$Q^[$
  &%%(^>$QiG&VmJ%(C$(_O$(.$V`D$U_A$R$$V$$Q`T$V$$Q^2$(8+V-$QT(V()Q)%V%$Q%%Q%%V%%Q%(V($Q$'V^S$&3$(J$
  V$$Q$*V^'%(^&$&/%(^/$&_J&V'$$$(Q(%V%'Q'$V%*$.$Q*$V'%V`@%V%$Q$*V*$Q$%V%$Y$$N$$Q$$M$HVH$W$%U%$Q$$P
  $$V$$X$$Q$$V$$QiH%V%%$%'V'&$&%V)$V'%$%$V$$Q$$V$%$%'Q'$V^tU&V_A$(^KCVg3$P$$U$$W$$R$%S^U%'np0$V(-V
  M%V^<%VaU$(I$(_I$(?5V^5&QK$(^J$&0$(a/$V%%V%$Q&%V*%V&$VX$(a6$(hvI$9j@*V**Q*%Vn)$Q`[$Q_G(VzE$Q%$VL
  $V$$$$$Q($(_W$V$$Qg''VcT%V_L%Q%&V&$Q$$V$'QX$V$$Q$$V$$Q`9$(M$(2$(^$$($$&^0&VV%(^*$&^7$(-$&^U$($$&
  `+$&$$(^;%&5$(<*V-(V`J$('$&;$V^N$($$&a;$($$&_0$(_($($$&_%$(aM$($$&aB%()$&_N$(^>$(6$(^<$(d:$(aB$&
  %%(^=$(hn9($^**Vr6%%hk9$$``5%O%&$)$T$(O0+Q-(V(%QC'V_I&V_^L*V+4V6*V+%V&(VaI*VcK$V^('Vw=*Q_%)V)$&"

def classOf (n : Nat) : Nat :=
  let i := boundary (fun i => match classes[i]? with
    | some (first, count, _) => first + count ≤ n
    | none => false) classes.size 0 classes.size
  match classes[i]? with
  | some (first, _, c) => if first ≤ n then c else 0
  | none => 0

/-- Characters in a row from a code on, which stand for plain ones: a single one stands for the given
characters, and of several each stands for one, in a row as well. -/
structure Expansion where
  first : Nat
  count : Nat
  parts : List Nat
deriving Inhabited

/-- Reading a table of expansions: words between blanks, each behind the distance to its code and
how many there are in a row. After an equals sign every character stands for itself, with its marks;
after a tilde each of them belongs to every second code, and after an ampersand and a first character
each of them stands for itself behind that one. -/
structure Reading where
  done : List Expansion := []
  code : Nat := 0
  count : Nat := 1
  pace : Nat := 0
  led : Bool := false
  lead : Chars := []
  parts : Chars := []

def numberOf (digits : Chars) : Nat :=
  digits.foldr (fun c n => n * 10 + (c.toNat - '0'.toNat)) 0

def Reading.flush (r : Reading) : Reading :=
  if r.parts.isEmpty then r
  else
    let parts := ((r.parts ++ r.lead).map Char.toNat).reverse
    { done := ⟨r.code, r.count, parts⟩ :: r.done, code := r.code + max r.count r.pace }

def Reading.push (r : Reading) (c : Char) : Reading :=
  if c = ':' then { r with code := r.code + numberOf r.parts, parts := [] }
  else if c = '*' then { r with count := numberOf r.parts, parts := [] }
  else if c = '=' then { r with pace := 1 }
  else if c = '~' then { r with pace := 2 }
  else if c = '&' then { r with led := true }
  else if r.led then { r with led := false, pace := 1, lead := [c] }
  else if c = ' ' ∨ c = '\n' then r.flush
  else if r.pace != 0 && classOf c.toNat == 0 then
    { r.flush with pace := r.pace, lead := r.lead, parts := [c] }
  else { r with parts := c :: r.parts }

def expansionsOf (s : String) : Array Expansion :=
  ((s.toList ++ [' ']).foldl Reading.push {}).done.reverse.toArray

def listed : Array Expansion := expansionsOf "
  170:a 10:μ 4:o 5:=ÀÁÂÃÄÅ 1:=ÇÈÉÊËÌÍÎÏ 1:=ÑÒÓÔÕÖ 2:=ÙÚÛÜÝ
  34:~ĀĂĄĆĈ ~ĊČĎ 2:~ĒĔĖĘĚĜĞĠĢĤ 2:~ĨĪĬĮİ IJ 1:~ĴĶ 1:~ĹĻĽ L· 3:~ŃŅŇ
  ʼn 2:~ŌŎŐ 2:~Ŕ ~ŖŘŚŜŞŠŢŤ 2:~ŨŪŬŮŰŲŴŶ =ŸŹ 1:~ŻŽs 31:Ơ 14:Ư 20:DŽ Dž
  1:&LJj 1:&NJj 1:~Ǎ ~ǏǑǓǕǗǙǛ 1:~ǞǠǢ 2:~ǦǨǪǬǮ ǰ &DZz 1:Ǵ
  3:~ǸǺǼǾȀȂȄȆȈȊȌȎȐȒȔȖȘȚ 2:Ȟ 7:~ȦȨȪȬȮȰȲ 124:=hɦjrɹɻʁwy 39:=ɣlsxʕ 91:2*̀
  1:̓ ̈́ 47:ʹ 17:=Ά·ΈΉΊ 1:Ό 1:=ΎΏΐ 25:=Ϊ =Ϋ 4:ΰ 31:=βθΥΎΫφπ 25:=κρς 1:=Θε 3:Σ
  6:=ЀЁ 1:Ѓ 3:Ї 4:=ЌЍЎ 10:Й 92:Ѷ 74:Ӂ 14:~ӐӒ 2:Ӗ 3:~ӚӜӞ 2:~ӢӤӦ 2:~ӪӬӮӰӲӴ
  2:Ӹ 142:եւ 154:=آأؤإئ 78:اٴ وٴ ۇٴ يٴ 71:~ۀۂ 15:ۓ 597:ऩ 7:ऱ 2:ऴ 35:=क़ख़ग़ज़ड़ढ़फ़य़
  107:&োৗ 15:=ড়ঢ় 1:য় 83:ਲ਼ 2:ਸ਼ 34:=ਖ਼ਗ਼ਜ਼ 2:ਫ਼ 233:ୈ 2:&ୋୗ 15:=ଡ଼ଢ଼ 54:ஔ 53:ொ ோ ௌ
  123:ై 119:ೀ 6:&ೇೖ 1:ೊ ೋ 126:ൊ ോ ൌ 141:ේ 1:ො ෝ ෞ 84:ํา 127:ໍາ 40:&ຫນມ 101:གྷ 9:ཌྷ
  4:དྷ 4:བྷ 4:ཛྷ 12:ཀྵ 9:ཱི 1:ཱུ =ྲྀྲཱྀླྀླཱྀ 7:ཱྀ 17:ྒྷ 9:ྜྷ 4:ྡྷ 4:ྦྷ 4:ྫྷ 12:ྐྵ 108:ဦ 213:ნ
  2569:ᬆ 1:ᬈ 1:ᬊ 1:ᬌ 1:ᬎ 3:ᬒ 40:ᬻ 1:ᬽ 2:ᭀ ᭁ 1:ᭃ 488:=AÆB 1:=DEƎ 8*G
  1:=OȢPRTUWaɐɑᴂbdeəɛɜg 1:=kmŋoɔᴖᴗptuᴝɯvᴥ 3*β =φχiruvβγρφχ 13:н 34:=ɒcɕðɜfɟɡɥ 3*ɨ =ᵻʝɭᶅʟɱ =ɰ 4*ɲ
  =ɸʂʃƫʉʊᴜʋʌz 3*ʐ θ 64:~ḀḂḄḆḈḊḌḎḐḒḔḖḘḚḜḞḠḢḤḦḨḪḬḮḰḲḴḶḸḺḼḾṀṂ
  ~ṄṆṈṊṌṎṐṒṔṖṘṚṜṞṠṢṤṦṨṪṬṮṰṲṴṶṸṺṼṾẀẂẄẆẈẊẌẎẐẒẔ =ẖẗẘẙ
  aʾ ṡ
  4:~ẠẢẤẦẨẪẬẮẰẲẴẶẸẺẼẾỀỂỄỆỈỊỌỎỐỒỔỖỘỚỜỞỠỢỤỦỨỪỬỮỰỲỴỶỸ
  14:=ἈἉἊἋἌἍἎἏ 8:=ἘἙἚἛἜἝ 10:=ἨἩἪἫἬἭἮἯ 8:=ἸἹἺἻἼἽἾἿ 8:=ὈὉὊὋὌὍ
  2:~ὐὒὔὖ 1:~ὙὛὝὟ 7:=ὨὩὪὫὬὭὮὯ 24:=ᾈᾉᾊᾋᾌᾍᾎᾏ 8:=ᾘᾙᾚᾛᾜᾝᾞᾟ
  8:=ᾨᾩᾪᾫᾬ =ᾭᾮᾯ 2:~ᾲᾴ =ᾶᾷᾸᾹᾺΆᾼ 1:ι 3:~ῂῄ =ῆῇῈΈῊΉῌ 5:=ῒΐ
  2:=ῖῗῘῙῚΊ 6:=ῢΰῤ 1:=ῦῧῨῩῪΎῬ 5:~ῲῴ =ῶῷῸΌῺΏῼ 116:i 13:n 16:=aeoxəh 4*k
  =pst 101:C 4:Ɛ 2:=gHHHhħIILl 1:N 3:3*P =RR 6:~ZΩZ =KÅBC 1:=eEF 1:=Mo 4*א i 2:=πγΓΠ 5:=Ddeij
  22:I II III IV V VI VII VIII IX X XI XII =LCDMi 3:v 4:x 2:=lcdm 2812:=jV 241:ⵡ 712:=十卄卅
  17:~がぎぐげござじずぜぞだぢ 1:~づでど 5:=ば =ぱ 1:=びぴ 1:=ぶぷ 1:=べぺ 1:=ぼぽ 22:ゔ 9:ゞ より
  12:~ガギグゲゴザジズゼゾダヂ 1:~ヅデド 5:=バパ 1:=ビピ 1:=ブプ 1:=ベペ 1:=ボポ 22:ヴ
  2:=ヷヸヹヺ 3:ヾ コト 49:=ᄀᄁᆪᄂᆬᆭ 3*ᄃ 6*ᆰ ᄚ 3*ᄆ ᄡ 10*ᄉ 21*ᅡ =ᅠᄔ =ᄕᇇᇈᇌᇎᇓᇗᇙᄜᇝᇟᄝᄞᄠᄢᄣᄧᄩ 5*ᄫ =ᄲᄶᅀᅇᅌᇱᇲ
  3*ᅗ =ᆄᆅᆈᆑᆒᆔᆞᆡ 29965:=ъь 210:ꝯ 129:=CFQ 3:=Ħœ 866:=ꜧꬷɫꭒ 9:ʍ
  19862:=豈更車賈滑串句龜龜契金喇奈懶癩羅蘿螺裸邏樂洛烙珞落酪駱亂卵欄爛蘭鸞嵐濫藍襤拉臘蠟廊朗浪狼郎來冷勞擄櫓爐盧老蘆虜路露魯鷺碌祿綠菉錄鹿論壟弄籠聾牢磊賂雷壘屢樓淚漏累縷陋勒肋凜凌稜綾菱陵讀
  =拏樂諾丹寧怒率異北磻便復不泌數索參塞省葉說殺辰沈拾若掠略亮兩凉梁糧良諒量勵呂女廬旅濾礪閭驪麗黎力曆歷轢年憐戀撚漣煉璉秊練聯輦蓮連鍊列劣咽烈裂說廉念捻殮簾獵令囹寧嶺怜玲瑩羚聆鈴零靈領例禮醴隸惡了僚
  =寮尿料樂燎療蓼遼龍暈阮劉杻柳流溜琉留硫紐類六戮陸倫崙淪輪律慄栗率隆利吏履易李梨泥理痢罹裏裡里離匿溺吝燐璘藺隣鱗麟林淋臨立笠粒狀炙識什茶刺切度拓糖宅洞暴輻行降見廓兀嗀 2:~塚晴
  1:=凞猪益礼神 =祥福靖精羽 1:~蘒諸 1:=逸都
  3:=飯飼館鶴郞隷侮僧免勉勤卑喝嘆器塀墨層屮悔慨憎懲敏既暑梅海渚漢煮爫琢碑社祉祈祐祖祝禍禎穀突節練縉繁署者臭艹艹著褐視謁謹賓贈辶逸難響頻恵𤋮舘 2:=並况全侀
  =充冀勇勺喝啕喙嗢塚墳奄奔婢嬨廒廙彩徭惘慎愈憎慠懲戴揄搜摒敖晴朗望杖歹殺流滛滋漢瀞煮瞧爵犯猪瑱甆画瘝瘟益盛直睊着磌窱節类絛練缾者荒華蝹襁覆視調諸請謁諾諭謹變贈輸遲醙鉶陼難靖韛響頋頻鬒龜𢡊𢡄𣏕㮝䀘䀹
  =𥉉𥳐𧻓齃龎 38:&ffil ffi ffl &stt 12:&մնեի վն մխ 5:יִ 1:=ײַעאדה 3*כ =רת 1:=שׁשׂשּׁשּׂאַאָאּבּגּ
  =דּהּוּזּ 1:=טּיּךּכּלּ 1:מּ 1:=נּסּ 1:=ףּפּ 1:=צּקּרּשּתּוֹבֿכֿפֿ אל
  =ٱٱٻٻٻٻپپپپڀڀڀڀٺٺٺٺٿٿٿٿٹٹٹٹڤ
  =ڤڤڤڦڦڦڦڄڄڄڄڃڃڃڃچچچچڇڇڇڇڍڍڌڌڎڎڈڈژژڑڑککککگگگگڳڳڳڳڱڱڱڱںںڻڻڻڻۀۀہہہہھھھھےےۓۓ 33:=ڭڭڭڭۇۇۆۆۈۈ ۇٴ
  =ۋۋ =ۅۅۉۉېېېېىى ئا ئا ئە ئە ئو ئو ئۇ ئۇ ئۆ ئۆ ئۈ ئۈ ئې ئې ئې ئى ئى ئى =یییی
  ئج ئح ئم ئى ئي &بجحخمىي &تجحخمىي &ثجمىي &جحم &حجم &خجحم &سجحخم &صحم &ضجحخم &طحم ظم &عجم
  &غجم &فجحخمىي &قحمىي &كاجحخلمىي &لجحخمىي &مجحخمىي &نجحخمىي &هجمىي &يجحخمىي =ذٰرٰىٰ 6:ئر ئز
  ئم ئن ئى ئي &برزمنىي &ترزمنىي &ثرزمنىي &فىي &قىي &كالمىي &لمىي &مام &نرزمنىي ىٰ &يرزمنىي
  ئج ئح ئخ ئم ئه &بجحخمه &تجحخمه ثم &جحم &حجم &خجم &سجحخم &صحخم &ضجحخم طح ظم &عجم &غجم
  &فجحخم &قحم &كجحخلم &لجحخمه &مجحخم &نجحخمه &هجم هٰ &يجحخمه ئم ئه &بمه &تمه &ثمه &سمه &شمه
  &كلم لم &نمه &يمه =ـَّـُّـِّ &طىي &عىي &غىي &سىي &شىي &حىي &جىي &خىي &صىي &ضىي &شجحخمر سر صر ضر
  &طىي &عىي &غىي &سىي &شىي &حىي &جىي &خىي &صىي &ضىي &شجحخمر سر صر ضر &شجحخم سه شه طم &سجحخ &شجحخ
  طم ظم =اًاً 18:تجم تحج تحج تحم تخم تمج تمح تمخ جمح جمح حمي حمى سحج سجح سجى سمح سمح سمج سمم سمم
  صحح صحح صمم شحم شحم شجي شمخ شمخ شمم شمم ضحى ضخم ضخم طمح طمح طمم طمي عجم عمم عمم عمى غمم غمي غمى
  فخم فخم قمح قمم لحم لحي لحى لجج لجج لخم لخم لمح لمح محج محم محي مجح مجم مخج مخم 2:مجخ همج همم
  نحم نحى نجم نجم نجى نمي نمى يمم يمم بخي تجي تجى تخي تخى تمي تمى جمي جحى جمى سخى صحي شحي ضحي لجي
  لمي يحي يجي يمي ممي قمي نحي قمح لحم عمي كمي نجح مخي لجم كمم لجم نجح جحي حجي مجي فمي بحي كمم عجم
  صمم سخي نجي 40:صلے قلے الله اكبر محمد صلعم رسول عليه وسلم صلى 57:=__ 24:=___ 33:ـً 5:~ـَـُـِـّ
  =ـْءآآأأؤؤإإئئئئااببببةةتتتتثثثثججججححححخخخخ
  =ددذذررززسسسسششششصصصصضضضضططططظظظظععععغغغغففففققققككككللللممممننننههههووىىيييي لآ لآ لأ لأ
  لإ لإ &لاا 19:10*0 7:26*A 4:_ 1:26*a 11:=ヲァィゥェォャュョッーアイウエオカキクケコサシスセソタチツテト 6*ナ =ヒフヘホ 5*マ =ヤユ
  6*ヨ =ワン 2*゙ =ᅠᄀᄁᆪᄂᆬᆭ 3*ᄃ 6*ᆰ ᄚ 3*ᄆ ᄡ 10*ᄉ 3:6*ᅡ 2:6*ᅧ 2:6*ᅭ 2:3*ᅳ 1956:=ːˑæʙɓ
  1:=ʣꭦʥʤɖɗᶑɘɞʩɤɢɠʛħʜɧʄʪʫɬ𝼄ꞎɮ𝼅 =ʎ𝼆øɶɷqɺ𝼈ɽɾʀʨʦꭧʧʈⱱ 1:=ʏʡʢʘ 3*ǀ =𝼊𝼞 2271:~𑂚𑂜 13:𑂫 130:𑄮 𑄯
  539:&𑍋𑍗 366:&𑒻𑒰 1:𑒾 251:𑖺 𑖻 892:𑤸 47815:26*A 26*a 26*A 7*a 1:18*i 26*A 26*a A 1:=CD 2:G
  2:=JK 2:4*N 1:8*S 4*a 1:f 1:7*h 1:11*p 26*A 26*a =AB 1:4*D 2:8*J 1:7*S 1:26*a =AB 1:4*D 1:5*I
  1:O 3:7*S 1:26*a 26*A 26*a 26*A 26*a 26*A 26*a 26*A 26*a 26*A 26*a 26*A 26*a =ıȷ 2:17*Α Θ 7*Σ
  1:25*α 1:=εθκφρπ 17*Α Θ 7*Σ 1:25*α 1:=εθκ =φρπ 17*Α Θ 7*Σ 1:25*α 1:=εθκφρπ 17*Α Θ 7*Σ 1:25*α
  1:=εθκφρπ 17*Α Θ 7*Σ 1:25*α 1:=εθκφρπϜϝ 2:10*0 10*0 10*0 10*0 10*0 5632:=ابجد 1:=وزحطي 4*ك
  =سعفصقرشتثخذضظغٮںڡٯ 1:=بج 1:ه 2:ح 1:ي 4*ك =سعفصق 1:=شت =ثخ 1:~ضغ 5:ج 4:~حيل =نسع 1:=صق 1:ش
  2:~خضغںٯ =بج 1:ه 2:=حطيك 1:=منسعفصق 1:=شتثخ 1:=ضظغٮ 1:ڡ 1:=ابج =دهوزحطي 1:3*ل =سعفصقرشتثخذضظغ
  5:=بجد 1:=وزحطي 1:3*ل =سعفصقرشتثخذضظغ 3380:10*0 64518:=丽丸乁𠄢你侮侻倂偺備僧像
  =㒞𠘺免兔兤具𠔜㒹內再𠕋冗冤仌冬况𩇟凵刃㓟刻剆割剷㔕勇勉勤勺包匆北卉卑博即卽卿卿卿𠨬灰及叟𠭣叫叱吆咞吸呈周咢哶唐啓啣善善喙喫喳嗂圖嘆圗噑噴切壮城埴堍型堲報墬𡓤売壷夆多夢奢𡚨𡛪姬娛娧姘婦㛮㛼嬈嬾嬾𡧈
  =寃寘寧寳𡬘寿将当尢㞁屠屮峀岍𡷤嵃𡷦嵮嵫嵼巡巢㠯巽帨帽幩㡢𢆃㡼庰庳庶廊𪎒廾𢌱𢌱舁弢弢㣇𣊸𦇚形彫㣣徚忍志忹悁㤺㤜悔𢛔惇慈慌慎慌慺憎憲憤憯懞懲懶成戛扝抱拔捐𢬌挽拼捨掃揤𢯱搢揅掩㨮摩摾撝摷㩬敏敬𣀊旣書晉
  =㬙暑㬈㫤冒冕最暜肭䏙朗望朡杞杓𣏃㭉柺枅桒梅𣑭梎栟椔㮝楂榣槪檨𣚣櫛㰘次𣢧歔㱎歲殟殺殻𣪍𡴋𣫺汎𣲼沿泍汧洖派海流浩浸涅𣴞洴港湮㴳滋滇𣻑淹潮𣽞𣾎濆瀹瀞瀛㶖灊災灷炭𠔥煅𤉣熜𤎫爨爵牐𤘈犀犕𤜵𤠔獺王㺬玥㺸㺸瑇
  =瑜瑱璅瓊㼛甤𤰶甾𤲒異𢆟瘐𤾡𤾸𥁄㿼䀈直𥃳𥃲𥄙𥄳眞真真睊䀹瞋䁆䂖𥐝硎碌磌䃣𥘦祖𥚚𥛅福秫䄯穀穊穏𥥼𥪧𥪧竮䈂𥮫篆築䈧𥲀糒䊠糨糣紀𥾆絣䌁緇縂繅䌴𦈨𦉇䍙𦋙罺𦌾羕翺者𦓚𦔣聠𦖨聰𣍟䏕育脃䐋脾媵𦞧𦞵𣎓𣎜舁舄辞䑫芑
  =芋芝劳花芳芽苦𦬼若茝荣莭茣莽菧著荓菊菌菜𦰶𦵫𦳕䔫蓱蓳蔖𧏊蕤𦼬䕝䕡𦾱𧃒䕫虐虜虧虩蚩蚈蜎蛢蝹蜨蝫螆䗗蟡蠁䗹衠衣𧙧裗裞䘵裺㒻𧢮𧥦䚾䛇誠諭變豕𧲨貫賁贛起𧼯𠠄跋趼跰𠣞軔輸𨗒𨗭邔郱鄑𨜮鄛鈸鋗鋘鉼鏹鐕𨯺開䦕閷
  =𨵷䧦雃嶲霣𩅅𩈚䩮䩶韠𩐊䪲𩒖頋頋頩𩖶飢䬳餩馧駂駾䯎𩬰鬒鱀鳽䳎䳭鵧𪃎䳸𪄅𪈎𪊑麻䵖黹黾鼅鼏鼖鼻𪘀"

/-- A small letter with a mark stands for the small form of what the large letter stands for. -/
def small? (e : Expansion) : Option Expansion :=
  let first := Case.smallOf e.first
  if e.parts.length = 1 || first == e.first || first < 0x80 then none
  else some { e with first, parts := e.parts.map Case.smallOf }

def expansions : Array Expansion :=
  (listed ++ listed.filterMap small?).qsort (·.first < ·.first)

def apart : CharSet := ofGaps "
  b8%.%+$_.)G&bV$_?%dF$a,'iV+_-%$$^=$%$E&%$a<%iL$_0$K%^O$,$'$'$'$/$,$$%$$+$4$,$'$'$'$/$_cQ%`M$$$$$
  $$$$$$$$^'$0$$$2$2$0$$$b5$X$$$$$%$$$)$$$$$%$$$_e#$^I$^]d0&%%/(($$$-%%,$($$$%$%$-^>%-%N$J^C/P(^-%
  4&^3b9$($$$$$$$$$$/^X%"

def pairs : Array (Nat × Nat × Nat) :=
  let joined (e : Expansion) : Option (Nat × Nat × Nat) :=
    match e.parts with
    | [a, b] => if apart.contains (Char.ofNat e.first) then none else some (a, b, e.first)
    | _ => none
  (expansions.filterMap joined).qsort fun (a, b, _) (x, y, _) => a < x || (a == x && b < y)

def syllables : Nat × Nat × Nat × Nat := (0xAC00, 0x1100, 0x1161, 0x11A7)

def parts (n : Nat) : List Nat :=
  let (s, l, v, t) := syllables
  if n < 0x80 then [n]
  else if s ≤ n ∧ n < s + 11172 then
    let i := n - s
    let letters := [l + i / 588, v + i % 588 / 28]
    if i % 28 = 0 then letters else letters ++ [t + i % 28]
  else
    let i := boundary (fun i => match expansions[i]? with
      | some e => e.first + e.count ≤ n
      | none => false) expansions.size 0 expansions.size
    match expansions[i]? with
    | some e =>
      if n < e.first then [n]
      else match e.parts with
        | [p] => [p + (n - e.first)]
        | parts => parts
    | none => [n]

def expand (n : Nat) : List Nat := ((parts n).flatMap parts).flatMap parts

def join? (a b : Nat) : Option Nat :=
  let (s, l, v, t) := syllables
  if l ≤ a ∧ a < l + 19 ∧ v ≤ b ∧ b < v + 21 then some (s + ((a - l) * 21 + (b - v)) * 28)
  else if s ≤ a ∧ a < s + 11172 ∧ (a - s) % 28 = 0 ∧ t < b ∧ b < t + 28 then some (a + (b - t))
  else
    let i := boundary (fun i => match pairs[i]? with
      | some (x, y, _) => x < a || (x == a && y < b)
      | none => false) pairs.size 0 pairs.size
    match pairs[i]? with
    | some (x, y, n) => if x == a && y == b then some n else none
    | none => none

def insertMark (n c : Nat) : List Nat → List Nat
  | [] => [n]
  | m :: rest => if c < classOf m then m :: insertMark n c rest else n :: m :: rest

def inOrder (codes : List Nat) : List Nat :=
  (codes.foldl (fun done n =>
    let c := classOf n
    if c = 0 then n :: done else insertMark n c done) []).reverse

structure Pending where
  base : Option Nat := none
  marks : List Nat := []
  done : List Nat := []

def Pending.flush (p : Pending) : List Nat := p.marks ++ p.base.toList ++ p.done

def Pending.push (p : Pending) (n : Nat) : Pending :=
  let c := classOf n
  let free := match p.marks with
    | [] => true
    | m :: _ => classOf m < c
  match p.base.bind fun b => if free then join? b n else none with
  | some joined => { p with base := some joined }
  | none =>
    if c = 0 then { base := some n, done := p.flush }
    else { p with marks := n :: p.marks }

def ofName (cs : Chars) : Chars :=
  if cs.all fun c => c.toNat < 0x80 then cs
  else
    let codes := inOrder (cs.map fun c => expand c.toNat).flatten
    ((codes.foldl Pending.push {}).flush.reverse).map Char.ofNat

end Rover.PlainForm
