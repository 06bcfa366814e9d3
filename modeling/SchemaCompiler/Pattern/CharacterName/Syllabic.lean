/-!
# Names of syllables

Rows of names in the order of the characters. `Pattern.numberedNames` tells how they are read.
-/

namespace SchemaCompiler.Pattern

/-- The rows of names for the parts of Hangul syllables, the syllables of Ethiopia and Canada,
runes, and scripts of southern Asia. -/
def syllabicNames : String :=
  "#1100![7?QSEOq ]0%/#xi$^o%~H@0!~H%_w%^c%_Y@3!@)!X@,!|X%IEUq%?R@2!?R%?PEUCH%]y%|9%_X%]C%^o-@w$^o@0
  !~H&_Y%~H@9!_w-^o@w#w@0!]C%KAPYEOUN,#;#-_Y@5(,#I#-]0&^o&~H&|X&|X-]0(~H(_Y&|mq@6$?R&?R&,#S$&|9&_X@h
  (@s*,$9&@v)_w&^c&_Y&,#2#@v%IEUq@u*]y@x$&]C%?PTUEUM|X@.&@V#%CEOq@R!M@0(@?(Pc,%L%-]0&~H,#<%|X&Pc,%m$
  @@!@E$,$80~4%?R-@?!,#;&?R,#E*?R,#9)@0+,&Z+-]y,$,*@8$@N%@4)_X,&:+_X,(y#C%YEORk]C%]0-~H%^o-|X&?R@u!~
  H-_w%[b$JUq,)T#+%A%AE%z%zE%EO%E@b!%YE%O%WA%WAE%OE%YO%U%WEO%WE%WI%YU%EU%YI%I%A-O&U%z-O&YO%EO@2!&@@!
  @/$%O-EO&E&YE&@2!YO-z&z@3!O&O&I%U-A&AE&EO-EU&YE@F!@7!@W%O@7#&I%EU-@|$I-U%I,=r#,#4$&AtEA%@(!@(#-EO@
  T#|mq@8$-EU%z-,#[$z%O-+&zE$JOq,,G.]0-|X%,+V$,%C&%,+J%0,(g(,)d(,,j%_Y-|X,,j/,,d6]0-_w,+i$,,p$,+|%Pc
  @~#,,o$&,#>&-|X,+L%@<!C,.&)^c-]0(|X&_Y-+(]C&,(h&,,c$@w&]y&,(p&^c,#$$,$7$@I*,,3(C,.l/@P!X@;+,.1(~H@
  o$,,(.,%b#,+w.]y%/$,#$,#9%,*g2]C-^o,/#(,*p*@;#Y,.|*]C,1=$!E|8OP]P|uj%HU%HI%jA%Hg,3T#O%HOA%l%LU%o%l
  A%Lg%m%LO%LWA%Hj%H@T!HI%H@V!@W!@X!@Y!HWA%p%MU%MI%pA%Mg%ME%MO%MWA%SZ@&!U%SZI@0!@1!g%SZE%SZO%SZWA%t%
  RU%v%tA%Rg%u%RO%R,?w$SU%SI%S@X!g%SE%SO%SW,m&$Q%|M%SjA%SHg%|K%|O%SHWA%QA%QU%QI%QAA%Qg%QE%QO%QOA%QW
  A#124@,!I@1!@,!g%QWE#1250%Qj%QHU%QHI%QjA%QHg%QHE%QHO@D!8%QH@f#5A@.!I@3#@/#@K!@j#60,B4#U%BI%BAA%Bg%
  BE%BO%BWA%VA%VU%VI%VAA%Vg%VE%VO%VW,B~#U%TI%yA%Tg%TE%TO%TW,Cb$U%CI%CAA%Cg%CE%CO%CWA%XA%XU%XI%XAA%Xg
  %XE%XO%XOA%X,#r#8@,!I@1!@,!g%X,#n#90,q+#U%NI%NAA%Ng%NE%NO%NWA,Dl#YU%^2%NzA%NYg%NYE,Z/#NYWA%GLOTT
  b A&U&I&AA&g&E&O&WA,rc#U%KI%KAA%Kg%KE%KO%KOA%K,#X#B2%KWI@1!@6!g%KWE@:!8%KXA%KXU%KXI@0!@1!g%KXE%KX
  O#12C0%KX@h#C2@.!I@(!@J#W@K!@l#C8,3a#U%WI%@@!Wg,3]#O%WOA/$qz%,$(0#12D8%ZA%ZU%ZI%ZAA%Zg%ZE%ZO%Z,Pu%
  HU%ZHI%ZjA%ZHg%ZHE%ZHO%ZHWA%z%Y,4_#zA%Yg%Y,5&#YOA%f%DU%DI%fA%Dg%DE%DO%DWA,HW#@>!DI%D@@!@A!@B!@C!DW
  A,I4#U%JI%JAA%Jg%JE%JO%JWA,I^#U%GI%GAA%Gg%GE%GO%GOA%GWA#1312%GWI@1!@6!g%GWE@:!8%G@_!@a!@b!@c#@d!@e
  !@f!@T#Tj%THU%|8%TjA%THg%|5%~B%THW,Ju#CHU%?P%CjA%CHg%?M%?Q%C@A!Pj%PHU%PHI%PjA%PHg%PHE%PHO%PHWA,Tk$
  @&!I%~UA%TSg%TSE%TSO%TSWA%TZ@&!U%TZI@0!@1!g%TZE%TZO@&!A%FA%FU%FI%FAA%Fg%FE%FO%FW,L/#U%PI%sA%Pg%PE,
  c4#WA%Rz%Mz%Fz#135D$?Y[s.i~r]9^S%@*%[s^S$|E.H$WORD|j$[p$?Z/$$:$?W$Pu[W ?W$_m^S,Au$$?w,w<@~X%~A%[j%
  [a%|YT@C!TY%[EY%NkiY%]M%|3~C#1380$|uSEBeBEIT MWA%MWI%MWg%MWE%@=(BWA%BWI%BWg%B@=+FWA%FWI%FWg%F@=+PW
  A%PWI%PWg%PWE$Trb ^TYIZi&Dhi&vKvK&|P@*#DIFe&KENe&?PRi&HID@H#-@,#]2T#13A0!CHhOKg nA%E%I%O%U%V%G,/J#
  GE,*M#O,*V#V%j,Ec$%HO,6F#V%l%m%o,6,#U%LV%p,5Z#I,5^#U%NA%HNA%NAH%NE,16#O,1?#V%QUA%QUE%QUI%QUO%QUU%Q
  UV,5V#%SE,5X#O,5c#V%f%y%DE%TE%DI%TI%DO,.1#V%Dl%Tl%Tm%To%TLO%TLU%TLV%~U,*>%I,*B%@4!V%WA,?o%WO,0K#V%
  z,//#I%YO,/D#V%MV#13F8$|eYE&YI&YO&YU&YV&@=!400!?D]N%E%AAI,S=#/#&U$Y-CRg OO%?Ig&I%A%A,#7#~z,#<#@+!I
  %WI@,$,#K#~z,1f#@,$O%NASKAPI WO,Av#~z,A|#@,$A@B&.SA%AI,#9%W%[v%[c.Y&[x&.6[4vq&~O/$yz&&?9.Y(|P~m|oS
  &^b?3&|P]J|o&PLUS&[B|x%EN%k%r%c%PE%sAI%PI%PII,,p#,$H&.MO%?IHg&HI%s,.:#,$K#@)!PWI@.#I@.!@/%@0!O@/#O
  @.!@/%@0!A@/#A@.!@/%A%Y-+%P@1!%?IH%TE%yA,(N#TII,8_#,#R(RO%?IDg&DI%y,9)#,#R#@)!TWI@.#I@.!@/%I,.|#z@
  (!YO@,#,9S#@A#A@.!@/#,%x* @1#T%TTE%TTI%TTO%Ty,8##AAI,87#II,81#,(Z(@.!KA,8O$,#Z#@)!KWI@.#I@.!@/%@0!
  O@/#O@.!@/%@0!A@/#A@.!@/#,#_+@1#K%KW%S_KH-SlVEY KEH(KIH(KOH(KAH,;g#AAI,;y#II,;s#,#o(@.!CA,<8$,#o#@
  )!CWI@.#I@.!@/%@0!O@/#O@.!@/%@0!A@/#A@.!@/#,#o+@1#C%|ATH%ME%pAI,/X#I,/]$,#S(@.!p,AZ#,#Q#@)!MWI@.#I
  @.!@/%@0!O@/#O@.!@/%@0!A@/#A@.!@/#,#Q+@1#M@:!%MH%ejsSCc M%|AM,0|#AAI,1%#I,1*$,#c(N,.*#,>Q$,#e#@)!N
  WA@.#A@.!@/#,#7+@1$%?Iq%NH%m%lAI%o%oI,2U#,#$(@.!l,D|#,#!#@)!LWI@.#I@.!@/%@0!O@/#O@.!@/%@0!A@/#A@.!
  @/%A%L@,!%^WL,2u#AAI,2z#I,3#$,#H(@.!SA,Do$,#J#@)!SWI@.#I@.!@/%@0!O@/#O@.!@/%@0!A@/#A@.!@/#,$x+@1#S
  ,&*&S%SW%.2F_B S%MOOSE,#Q$K@T)KW&S-W&SPWA&xWA&SK@(!CWA,F@#M%|MI%|O%|OO%Sj,F]%,$.#@*!@0!I@0$I@0#@1&
  @2#O@1$O@0#@1&@2#A@1$A@0#@1&@2!%YE%zAI,5B#I,5F$,%Y(@.!z,@r#,#M#@)!YWI@.#I@.!@/%@0!O@/#O@.!@/%@0!A@
  /#A@.!@/#,%W+@1#Y%BIBm,#:$%WEx-+%|AYI%u%R@9#u%~zm%tAI%v%vI,J7#,)/$O%t%t@z!l%R,#)$@*#R@,!%^WR,>l#AA
  I,?##II,>x#OO%FA,?3$@W$@*#F%|5%N,#;#|5%|8@0&8%|8I@1(I%~B%~BO%Tj,Ad%@i$@+$TH%T|5%T|8%T~B%T@I!@8!YE%
  TYI%TYO%Tz%^1AVIK ,a=#&HII&HO&HOO&j&jA&H@C#UT H%HK%QAAI,L4#II,L.$O%QA,LB$%TLHE@(!I@(!O%TLj%~zu(v(R
  O(t%q@_!qI%qII%qO%qOO%qA@:!%q%Nq%|A|K&|M&|O&Sj%WOODS,$s%(|8(~B(Tj(TH%LHI@&!@(!O@&!O%Lj%LjA%LH%TH@V
  *|8I@Z!~BO@_#jA@d!AIVIoK B,+w%E&I&O&A&WE&WI&WO&WA&NE&NI&NO&NA&KE&KI&KO&KA%|A,%>%O&j%?IGHU&GHO&GHE&
  GHg&GHI&Gj&RU&RO&u&Rg&v&t&WU@~#E&Wg,#/#A&HWU&HWO&HWE&HWg&HWI&HWA&THU&~B&|5&THg&|8&Tj&TTU&TTO&TTE&T
  Tg&TTI&Ty&PU&PO&PE&Pg&PI&s&P&GU&GO&GE&Gg&GI&GA&KHU&KHO&KHE&KHg&KHI&Kj&KKU&KKO&KKE&KKg&KKI&KKA&KK&N
  U&NO,$w#g,$z#A&MU&MO&ME&Mg&MI&p,?H#,Z]#Yg&YI&z&JU%|A+%?IJO&JE&Jg&JI@6&A&JJU&J@>!@?!@@!JI&JJA&LU&LO
  &m&Lg&o&l&DLU&DLO&Dm&DLg&Do&Dl&LHU&LHO&LHE&LHg&LHI&Lj&T@<!T@=!T@>!T@?!T@@!T@A#@@!O&Tm&TLg&To&Tl&ZU
  &ZO&ZE&Zg&ZI&ZA&Z&]dZ&DZU&DZO&DZE&DZg&DZI,x|#SU&SO&SE&Sg&SI&SA&|Q&|O&|K&SHg&|/%&y%&TSU&TSO&TSE&TSg
  &TSI&~U&CHU&?Q&?M&CHg&?P&Cj&T@P#@Q#@R#@S#@T!T~U%?P w%[p%QAI%qAI%NqI@&!@(!O@&!@(!A@&!A,,)*THWg(THWI
  @(#@)#O@(#@)#A@(#A([cTH,+V%W!OGjM |j.H$nBEITH%LUIS%FEdN%SAIL%NIr%UeH%fIR%TkNE%COLL%CEIRT%MUk%GORT%
  qEADb%xtIF%R@e!AILM%rN%UR%EADjDH%IO@*#EAB@*!OR%UILmcN%IFk%EAMHc?QLL%PEITH$FEeHh.H$_u@.%#16A0!RUN]P
  nFEHU FEOH FE F%V%URUZ UR U%YR%Y%W%THUvSAZ THURS T]K%iH%cSUZ A%OS O%AC A%AESC%^JOS@6!|ORT-TWIG-+%O
  %OE%r%tIDO tD uID R%KAUNA%CEN@.# K%G%Eq%GEBO GYFU G%Gd%WUNJO WYNN W%jGlZ H%jEGL H%^JjGbL H,#7,NAUD
  IZ NYD @/! N@B+/$=#$-N%ISAZ IS ISS I%E%Jhc J%Gh%^Jd AE@X*d A%IWAZ EOH%Ph~B PEOR|4P%bGI@:!LHX%SOWIL
  O S%SIGEL ^JSOL S@l*@4$C%Z%T@s#TIR TYR T,#m,D%BhKcc BEORC BJdKc B,$63P%_C-P%EH@q!EH E%McNAZ Mc M%^
  JpDR M@[,lUKAZ lGU LOGR L@n%L%IqWAZ%Iq%fGAZ fEG D%OTHbc E|5L O%Ed%IOR%CWEORTH%CbC%CEbC%xc%^JYR,#3,
  ]RLcDIC-YR%Q%X$|W _j$^i +$?h +$dlUG.O$TVIpDUR +$.yG~B@,!nK%SH%OO%FRcKS CASKi OS(IS(EH(AC(AESC#1700
  !yGbOG nA%I%U%K,Y$#qA%y%f/#%1$BA/#%*/,~v$I&/#Q($%sMUDPOD#171F$n.qt!j^1OO@wW@t%!PHIoPPkE ,$k$?9+#17
  40!BUHID,#(T#1760!yGBcWA@f@@P!E@i&#1772@l*80!KHMh/#*1&/#@Z$%qO%C,[:$O%?Q,c,#f,=T#DO,=a#NNO%y,>2#O%
  @3!O%BA%Pj/#@(%/#?e%RO%LO%V,C:$SO,$6#%l%QA$kDEP[J[K ~rQAQ&QAA&QI&QII&QU&QUK&QUU@&!V&RY&RYY&LY&LYY&
  QE&QAI&QOO TYPE rE)~Y&QAU$~rkHh[K AQ&AA%w +/#@9/&UA&OE&z&IE&E&AE&AI/#Vn(NIKAHIT%uAHMUK%YUUKAmAPkTU
  %MUUSIKeOc%TvISAP%BcTOC%ROBe%TOcfKHIe%KAKABe%AHSf%SAMYOK ScNz%VIvAM%COEq%BejpSe%KHc%BAvYOOSc%CAMNU
  C PII KUUH%mK.RO%BEYYb%PHNAEK MUc%KOOMUUT$?l|vvEL$w AVAKtjScz%eTjCc#17E/#AU@17F0$|vmK eyK Sr(MUOY(
  PII(BEI(BUr(PtM@&!-@=!)PII)BEI)BUr#1800!MOqOL]OBIRGA$[G$?Z,_p#W$[m?6$TODO |g]N$SIBE |uB_JdY.Hh$McC
  HU ?Z%[p$NIRUGU$FRg VAv.u SEmC~P /$R.&$~r|H@C2[l,$R@820$,^6*OE%UE%g%NA%Aq/$Az$Q,,/#p%l%S,oN#y%f/#3
  W$,,t#W,dD#,+n$~U%ZA%jA%Zt%Lj,i!#?P%,$W#^I~rw&,C@$U&OE&UE&Aq&BA&s&QA&GA&p&y&f/#:C$&~U&z&WA&K@>!A&j
  A&JIA&NIA&DZA%,%G#@q!IY@m!U&Aq@N$&j&s&Sj@o!@l!F@d%@v#ZA&tA&Cj&Zj%,%z$I@Y!t&FA@7!Cja~Z?6#1880%.c.m,
  %|#p +(fMdU(UBAfp(]j@+$BbUf(~E@*#A(I(KA(qA(CA(Ty(TTj(Df(NNA(y(f(s(Pj(|m(Zj(ZA(AH,%,$.cy),#U(.cGj)q
  A)CA)Jj)Ty)DDj)y)Dj)|m)Cz)Zj)ZA%.c[4U)z@X(Bj%.cfGbGA@7(Lj#18B0!?DOY%AY%AAY%WAY%POY%sY%PWOY%yY%KAY%
  K@<!pY%NOY%NAY%lY%SOY%SAY%|@+!jY%SH@T!YOY%zY%tY%NWI%OJIBWAY NWI@4!@5,@6!O@5*O@4!@5,O%RWg%RWI@&!@(!
  O%R@:$A@K(P&T&K&C&M&N&S&SH%/#5E$W%WE@+$[c|dvq&_o?3,OF%R,Ul$OO(l,Mj#E,mJ$T@/$,N,#,N*#L@4#,KK#|ASHWE
  &|OO&H,dC#GWU&DENE Gg,)N#GWA%|AJUU%?IJWA%BEAVh @F#L(R%?/%dm$S#1900!oMBU VOWEL-?ILiTh$/#<~<Yc/#<fB
  /#iT,GYc%Tt#1920/#Pu%I&U&g,49(&E&O/#DL%nz&t&WA#1930$|eKA&qA&.m&y/#Ce$p&t&l$w MUKPHuq%KEM@+#SA-I#19
  40%LOO@,!4/$KZ$_m+,0O>!yI m nKA&XA&q,.$#SA&z/#E,$l/#E%$p&FA&VA&j&QA&Kj&TSj&NA&A&I&g&EH&U&OO&O&U,6
  c#UE&AI#1970&/#9I$===#1980!NEW yI LUE n]DQA(^M+(]DKA)XA)qA(^L.G@/%]D~U)SA)z(^M@.&]Dy)Tj)N@]!@.&]Ds
  )Pj)p(^M@,%]DFA)VA)l(^M@.&]Dj)f)B@^!@,%]DKVA)XV@7!@.&]DSU@4!+#19B0&~rw ~r|OR|2h)AA)II)U)UU)E)AE)O)
  OA)UE)AY)AAY)UY)OY)O@.!EY)IY&n[cV)q)N)M)K)D)B&~M^S-1=#19D0&/$e]=&TjM ?wrE@P!E&w lE(lEV,=K$|vP,9K$M
  UOY KOi%PII +%BE@)#Ur +%PtM@)$-@I&&@I#&@I#&@I$fP@d#fP@I;&@p$TUTEz,#@&ROC,#@=@I&,#@5@d#fP@I(,#@8!BU
  GkE|Cn,@t(qK,@q(Ms,A(&Nt%CA%J/#$_%CA,.9%V,Au#,Aw),,u#&AE#1A1E$PblWA$[J.I|E!yI TjM n]DKA(Kj(KXA&^L.
  G(KX@4!&qA&]DCA(Cj&^MCA(S@/#Nz&ty&]DRej&f&^M@+!Rc@O!y(T@N!@*#NA&B@8!,6E#FA&^Ms(FA(,,f#^Mz&]D+&t&RU
  E&l&LUE&W@Q!S,6r#SA(j&Ll&@Y!j/#Hf*g&OO&lE&Gue.N%/#HM$t)l(l yq lI%w pI.G@/!@A#[cqA(^Ms(,#z#.J@/!p(B
  A(SA#1A60%w.NKOT%,1K#(pI Se(AA(/#J0$(I(II(UE(U@&!(UU(O(OA.E(OY(E(AE(OO(AI(TjM AI@>!A,#L&&/#F|$&KHU
  [H@0!3==&t jAM&pI.NM@=!EN-LUE Kdc#1A7F%?YCRYPTOGtMM]P?3%HOt ,,<=#1A90%TjM@KAA0%w WIAq&@(!WAAK&SAWc
  &KEOW&HOY&DOKpI&_u_1RcA&pI zMOK&KAc@&!KUU&Se@1!Se@3%jq&CAAq#1AB0!?Y?8D ?T.B$?s-vq$]b$[A~u.r$~T?3$X
  -X.E$WIGGLY ^E +$_D^T+$?9_C.H.E$^DC[KtoZ.u |o +$xROq +$suN|5SES.A$?9@1)@<)E%_N$]5|eW.E(~WW.E$]7_R.
  A ]6$_y@.#_x@8$E@8(E@8!|l.9@r!^zw +/%qG(A$_aw.A$?8.Lw/$lw%T.Y.B,#3#]fG)R)T#1B00!BA^E|Cw ULU R]RM&C
  cDt%CECEK%SUtq%BISAH$nAKAt%@(! TEDUq%I@4!I@4)U@4!U@4)t us&us@2%l mqA&mqA@4%E@t#@j#O@(#@^(,v:$ ^Q,:
  Z#A GOt,:_&A l,05$JA JEt%Nz%y LeIK&MURf@W!f @.#bsPRcA(^Q%NA tMBe%y%y yWA%f%f pDU,;=$s.GPb,;@#A KEM
  BAq,O)..NGA&SAs,O5$w uuKc$~rw,#x$&ULU@&!.Nv&SUKU@(# ILUT&t us(us@L%,$t#(,$t(&yoq&Tb]cus(@5#@N)PEPi
  @(#@4$$ADEG @(!$nKAF.NSAK%KHOT +%TZIR +%EF +%VE +%Zb +%ASYUt +%.qJNz#1B5,K0?$PcTI$spf$WkDU$CAvK sM
  UqKAH%SIKI%suuN$sMENEq$^k|vDOq&DEq&DUq&fq&fq SUtq&DIq&fE@?!@<!I@=#GEDE&?YTEGEH([JEP(KEMPUL@*#o(JEG
  OGc@8%a@2*o +(B[JE(GOq&_x-H.i_DDUG:fG)?VTUK:yK&]6@<$sq:PUq)?VPlK:PLUK)_DPIq,$N# Lcyq$spf +#1B80!S~
  dc,+X#PcY,+L#sqlYd%sqWI_7$,TN%AE%O%E%E,TX#Q,7f%,7L%ZA%Nz,Ti)FA%VA,UV2XA%/#U/$sMIqKb&PczKt&s^2KU,)
  X#sqHULU&PcYUK@*!AElEq&PcO^H&sM,(v#cEUmUq$w spAEH%~o@v$SAqc p(WA$nKj%Sz,(N?.v$nuU%mU%Bj%[cK&M!BAy
  K nA%|TA%j%|Tj%McfIL]c+%BA%KdO ,NC#|Ts%NA@@&NA%W@W!WA%sKsK +%G@3!G,%3#f%t%|Tt%p%|Tp%S_KHhN y%^sT@,
  !+%S@O!SA,#5)z%|Tz%qA%l%|Tl%Nz%CA%Nf%MB,&I#$w.RMPI/#sT%,#=#E&g&I&KdO I&O@+#O&U&U [h|TSA,%:#q&H$sqO
  Le$PcOqrc#1BFC$|vBkDU NA MiEK&PkdBOtS&JUDUL&@S#!mPCj,YR$l,Ge&l,Ge,Nz,Gb%,G^%l%Pj,vH#l,0J#l%p%Ml/#l
  G),=a&j%H,=f&Sj%WA%A,GT*/#l.)O&OO,;f$E,$>#K&M&L&N&P&R&T&NYk-DO&KAq$w Rc%^y#1C3B$_j y-ROL%NYi THYOO
  M@5%Ch-WA%TS]H @/),TI@C4D$n/#e;(!OL ?PKI/#[z>%nl&e&AG&Aq&b&lA&AAK&AAJ&AAM&AAW&o&IS&IH&kY&IR&LU&UC&
  UD&UNN&UY&m&EP&EDD&EN&hR&LO&OTT&OB&OV&OH%MU TTUDfG%GAAHlA@2$AG%MU-@6/ulA%PjdKAA%AjD%_j MUCAAD&?9@,
  $!?n|e_4VE&^H-mGG[DDE&N.r O&WIDE ES&TbL TE&~D@D$TE@6#HdD w(Ye&UNBL[J[DUK#1C90![tMyVRUo ?Hc(Bc(Gc(D
  r(EN(Vk(ZEN(Tc(k(Kc(lS(Mc(Nd(r(Pd(ZHd(tE(Sc(Td(UN(PHd(KHd(GHc(Qd(|N(CHk(Cc(JIL(C@&!Hd(Xc(JHc(jE(HE
  (HIE(WE(Hd(HOE(FI(YN(EoFI(~WGc(Ak#1CBD(AEN(,$1$/#]V$,2Y&_j ,+~#SURz&sq^H&PURNAp&CAKt&mU.NyqA&KA +&
  f +&BA +#1CD0!VED]P~MKdSHcA%Sjt%PuNKj,b.#HSHVASA%zJUR@L#MID^E SVAvy$~M@;(AGGtVe[D]X&]X&KejKA ]X%?E
  .z@b)@;& SCHROEDh%?9@p#%~T+%@B$cUDey%/$gr%.z%~E+%vG@e#/%Cn%]X%eHdVA@8#]X$w ~p @m#&@b#_u~p @.#~p c@
  7%@/(@@%a|y&@5# +%.m cTdGOMUKj&BAHIR@0%VAp@.$@.)a|y%TIRzK%HEXI[i ^I.m%@(#RTjq@3#@w!UBjYeO @W!%dDj~
  p%_1@+#$~M?E.W/$C85%eIKt@F!vq.A%?9@*!$w ?9,#q+"

end SchemaCompiler.Pattern
