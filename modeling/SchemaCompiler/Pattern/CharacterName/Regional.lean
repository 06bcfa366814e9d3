/-!
# Names of regional letters

Rows of names in the order of the characters. `Pattern.numberedNames` tells how they are read.
-/

namespace SchemaCompiler.Pattern

/-- The rows of names for the syllables of Yi, and regional scripts of Africa and Asia. -/
def regionalNames : String :=
  "#A000/+r)$IT%IX%I%IP%Ii%]U%IE%IEP%e%AX%A%AP%~f%UO%UOP%OT%OX%O%OP%EX%E%WU%BIT%BIX%BI%BIP%BIi%B]@;!
  E%B@m!Be%BAX/(Sq$P%B~f%BUO%B@t!BOT%.8%BO%B@2!EX%BE%B@X!UT%BUX%BU%BUP%?CX%?C%BYT%BYX%BY%BY@q!7%BYR%
  PIT%PIX/)S#$P%P]U%PIE@&!P%Pe%sX%s%sP%P~f%PUO@&!P%POT%POX%PO%P@3!UT%PUX%PU%PU@3!RX@(!%PYT%PYX%PY%PY
  @i!7%PYR%BBIT@(!X@(!%B,$o#,$p#B]U@.!E@(#@9!e%BBAX@(!%B,$w#,$x#BUO@(#@4!OT%B.8%BB@7!@6#E@T!@i!@h#UT
  @(!X@(!@&!P%B?CX@(!%BBYT@(!X@(!@&!P%NBIT@(!X@(!@&!@7!]U@.!E@(#@4!e%NBAX@(!@&!@6!OT%N.8@,!@&!@6!UT@
  (!X@(!@&!P%N?CX@(!%NBYT@(!X@(!%N,#C$~7@.!R%HMIT@(!X@(!@&!P%HM]U@.!E@(#@4!e%HpX%Hp%Hp@3!~f%HMUO@(#@
  4!OT@(!@h!@8!@7#UT@(!X@(!@&!@7#RX@)#%HMYX@(!@&!@u#7@.!R%MIT%MIX,BC#IP%M]U%MIE%,#Q#Me%pX%p%pP%MUOT%
  M~f@,!%,#O#M@5!OX%MO%M@3!EX,C)#UT%MUX,C8#U@[!RX@(!%MYT%MYX%MY%MYP%FIT%FIX/)Ib$P%Fe%FAX/)Ib$P%FOX/)
  It$P%FUT%FUX%FU%FU@3!RX@(!%FYT%FYX%FY%FYP%VIT%VIX,^S#I@3!i%V]U%VIE@&!P%Ve%VAX,^w#AP%VOT%VOX%VO%VOP
  %VEX%V@I!UT%VUX%VU%VU@3!RX@(!%VYT%VYX%VY%VYP%V~7%VYR%DIT%DIX%DI%DIP%D]U%DIE@&!P%De%fX%f%fP%D~f%DUO
  %?3%DOX%DO%D,wi#X%DE%D@P!UT%DUX%DU%DU@3!RX@(!%TIT%TIX,GT#IP%T]U%TIE@&!P%Te%yX%y%yP%TUOT%T~f@,!@&!P
  %T@5!OX%TO%T@3!EX,H;#E@P!T%TUX%,di#P%~VX%~V%DDIT@(!X@(!%D,$C#D]U@.!E@(#@4!e%DfX%Df%DfP%D,$K#DUO@(#
  P%D?3%DDOX@(!@&!@F!EX/)oT%@e#UT@(!X@(!@&!@7#RX@)#%NDIT@(!X@(!@&!P%ND]U@.!E%NDe%NfX%Nf%NfP%N?3%NDOX
  @(!@&!@O!EX@(!@&!@2!UT@(!X@(!@&!@7#RX@)#%HNIT@(!X@(!@&!P@(!i%HN]U@.!E@(#@9!e%HNAX@(!@&!@6!~f%HNUO%
  HNOT@(!X@(!@=!E@.!@_!@^#UT%NI@&!X,LK#IP%N]U%NIE%,#%#@|!NA%@y!@x!NUO@&!P%@|!@z!NO%@~!@|!NE%@y!@x#UX
  ,M?#U@3!RX@(!%HoT%HoX%Ho%HoP%HL]U%HoE@&!@2!e%HlX%Hl%Hl@3!~f%HLUO@(#@4!OX%HL@3!@2!mX%Hm%HmP@C!T@(!X
  @(!@&!@7#RX@)#%HLYT@(!X@(!@&!@B!~7@.!R%oT%oX%o%oP%oi%L]U%oE%oEP%Le%lX%l%lP%LUOT%L~f@,!%,#W#L@5!OX/
  )]|$P%mX%m%m@M!T%LUX%LU%LU@3!RX@(!%LYT%LYX%LY%LYP%L~7%LYR%GIT%GIX%GI%GIP%GIi%G]U%GIE@&!P%Ge%GAX/(l
  b$P%GUOT%G~f@,!@&!P%G@5!OX%GO%G@3!i%GEX%GE%GE@S!T%GUX%GU%GU@3!RX@(!%KIT%KIX,RT#IP%K]U%KIE@&!P%Ke%K
  AX,Rt#AP%K~f%KUO@&!P%KOT%KOX%KO%K@3!i%KEX,S<#@]!UT%KUX,SN#UP%]2X%]2%GGIT@(!X@(!%G,$Q#,$R#,$S$Ge%GG
  AX@(!%G,$W#,$X$G~f@/#@(#@:!@9#OX/)xf%@7#i%GGEX@(!@&!@a#T@(!X@(!@&!@7#RX@)#%MG]U%MGIE%MGe%MGAX@(!@&
  !P%MG~f%MGUO@(#@4!OT@(!@G!@8!@7#EX@(!@&!P@K!T@(!X@(!@&!@7#RX@)#%HXIT@(!X@(!@&!P@(!i%HX]U@.!E@(#@9!
  e%HXAX@(!@&!@6!UO@a!~f@/#@(#@:!@9#O@M!@8!@7#EX@(!@&!P%q]U%qIE%qI@1!e%qAX/)Z4$P%q@w!q~f@,!%q@0!OX%q
  @/!P%qEX%qE%qEP%HIT%H]U%HIE%He%jX%j%jP%H@d!H~f@,!%H,#Y#@5!OX%HO%H@3!EX,XO#EP%We%WAX,o]$P%W~f%WUO%W
  @Y!WOX%WO%W@/!EX,XR#EP%ZIT%ZIX%ZI%ZIP%Z]U%ZIE%ZI@@!e%ZAX%ZA%ZAP%Z~f%ZUO%Z@s!ZOT%ZOX%ZO%Z@3!EX%ZE%Z
  @Y!UT%ZUX%ZU%ZU@3!RX@(!%ZYT%ZYX%ZY%ZY@t!7%ZYR%CIT%CIX/)nC$P%CIi%C]U%CIE@&!P%Ce%CAX/(vi$P%C~f%CUO@&
  !P%COT%COX%CO%C@3!EX%CE%C@Y!UT%CUX%CU%CU@3!RX@(!%CYT%CYX%CY%CY@t!7%CYR%ZZIT@(!X@(!@&!P@(!i%ZZ]U@.!
  E@(#@9!e%ZZAX@(!@&!@6!OX@(!@&!@2!EX/#MK%@R#UX@(!@&!@2#RX@)#%ZZYT@(!X@(!@&!@B!~7@.!R%NZIT@(!X@(!@&!
  P%NZ]U@.!E@(#@4!e%NZAX@(!@&!@6!~f%NZUO%NZOX@(!@8!EX@(!@<!X@(!@&!P@(!RX@)#%NZYT@(!X@(!@&!@o#7@.!R%S
  IT%|Y,ax#IP%S]U%SIE@&!P%Se%SAX,b=#AP%S~f%SUO@&!P%SOT%SOX%SO%S@3!EX,b[#@Y!UT%SUX,bo#U@3!RX@(!%SYT%S
  YX%SY%SY@t!7%SYR%SSIT%S|Y@,!%S,#P#S]U@.!E@(#@4!e%|mX%|m%|m@3!OT@(!X@(!@&!@7!EX/#Rm%@T#UT@(!X@(!@&!
  @7!YT@(!X@(!@&!@7!~7@.!R%ZHe%ZjX%Zj%ZjP%ZH~f%ZHUO@(#@4!OT@(!X/*0q%@7#i%ZHEX@(!@&!P@O!T@(!X@(!@&!@
  7#RX@)#%ZHYT@(!X@(!@&!@B!~7@.!R%CHe%CjX%Cj%CjP%C,/n#CH~f@/#@(#P%?QT%?QX%?Q%?Q@I!i%?MX%?M%?M@X#X@(!
  @&!@2#RX@)#%CHYT@(!X@(!@&!@B!~7@.!R%RtX%Rt%RR~f%RRUO%RROT@(!X%RR@2#P%RRi%RuX%Ru%RuP@K!T@(!X@(!@&!@
  7#RX@)#%RRYT@(!X@(!@&!@B!~7@.!R%NRe%NtX%Nt%NtP%NROX@(!@&!@2!i%NuX%Nu%Nu@3!UT@(!X@(!@&!@7#R@3#@p!YT
  @(!X@(!@&!@B!~7@.!R%SHe%SjX/)s9$P%SH~f%|QO@&!P%|OT%|OX/)s^$@A!i%|KX%|K%|KP%|QT%|QX%|Q%|Q@3!R@0!@y!
  YT@(!X@(!@&!@_!~7%S,%f#e%tX%t%tP%,%i#UO@&!P%,%l#OX/)qa$P%uX%u%uP%RUT%,%_#U%RUP%,$K#,%Z#YT%,%X#Y%RY
  P%,%U#YR%JIT%JIX%JI%JIP%JIi%J]U%JIE@&!P%JUOT%J~f@,!@&!P%J@5!OX%JO%JO@E!T%JUX%JU%JU@3!RX@(!%JYT%JYX
  %JY%JYP%J~7%JYR%QIT%QIX/)q%$P%QIi%Q]U%QIE@&!P%QUOT%Q~f@,!@&!P%Q@5!OX/)qR$@E!T%QUX%QU%QU@3!RX@(!%QY
  T%QYX%QY%QYP%Q~7%QYR%JJIT@(!X@(!%J,$Z#,$[#,$]#,$^#,$_$,$Z#JUO@(#@4!OT@(!@]!@8!@7#UT@(!X@(!@&!@7#RX
  @)#%JJYT@(!X@(!@&!P%NJIT@(!X@(!@&!@7#i%NJ]U@.!E@(#@9!~f%NJUO%NJOT@(!@V!@2#P@<!X@(!@&!@2#RX@)#%NJYT
  @(!X@(!@&!@o#7@.!R%^2T%^2X%^2%^2P%^2i%NY]U%^2E@&!P%NY~f%NYUO@(#@4!OT@(!X/*A4%@7#UT@(!X@(!@&!P%XIT%
  XIX%XI%XI@3!i%X]U%XIE%,>O#X~f%XUO%XOT%XOX%X@/!P%XYT%XYX%XY%XY@J!7%XYR%YIT%YIX/)|b$P%YIi%Y]U%YIE%Y@
  t!YUOT%Y~f@,!%,#u#Y@5!OX/)~4$@E!T%YUX,sm#U@3!RX@(!%YYT%YYX%YY%YYP%Y~7%YYR#A490$tD]QQOT%o%KIT,%<#C,
  4b#I,Bz$,AV#I,A;$LYR,XD$M,#H#%PUT,@h$Te%GA%ZU@b!T,Mo$?C%GGU,%Y%TU%,)J%,>*#PY,VD#,$h#VU,/V#,Rh#ZA%J
  O,9L#,)N#GOT,*U$WO%DU,0(#oE%CY,=G%IP,Au#,19#ZUR,0r#?M,<Z#,YL$KE#A4D0!oSU nB/)N@%f/))q$G/)X!&J/)*5&
  DZA/))i&p%NA%l%S/*s2&qA%j%XA%Hj%FA/)Nv%z%Gj/#4M$E%EU/)YW%UE%UH%OE%~MMz TI&NA.M&Mz Cz(BO(NA(JEU$_j/
  )[@$!VAI |ug%gN%Hg%Wg%WgN%Pg%BHg%Bg%MBg%KPg%MGBg%@&!Fg%Vg%Tg%THg%DH@&!Hg%Lg%Rg%Dg%NDg%Sg%SHg%Zg%ZH
  g%Cg%Jg%NJg%Yg%Kg%qGg%Gg%Mg%Ng%NYg%I%k,zS#k,z&#k%PI%B/#;n$MBI%KPI%MGBI%@&!FI%VI%TI%|8%DHI%DHHI%o%v
  %,SB$%SI%|M,D/#HI%CI%,/I$%YI%KI%q,M2#%MI%NI%^2%A%c%qc%j%Hc,E=#c%s%Bj%BA%MBA%Ks%KPc%MGB/,!$(VA,(($D
  j%DHj%l%t%f%Nf,>y#j,E3#j/)IY&JA%z,(N#c%q,N3#,(A$Nz%OO%Or%HOO%WO@&!r%POO%BH@(!OO%M@(!KP@.!G@/!@(#FO
  O%VO/*9u$~BO%DHO@(!HO/*2B$R@2!OO%N@(!SO/*.y$ZO,=[#/*7!$J@B!@(!YO/*9%$qGOO%@&!M@>!O,,8#,)W#N%HU%HUN
  %WU%WUN%PU%B/#@=$MBU%KPU%MGBU%@&!FU%VU,YK#HU%DH@&!HU%LU%RU%,W)$%SU%|Q%ZU,>o#CU%,3=#/,<~$U%q,Pb#%MU
  %NU,20#O%r%qr,J/#r,I[#r%P,%:#%B,%8#%KP,%6$%GB@&!r%FO%VO/)kn%DH,%3$%LO%RO%,Xx$%SO%|O%ZO,@h#CO%,4x$%
  YO%KO%q,RQ#%MO%NO,3p#E%EN%qEN,KQ$N,K%$N%PE%B/#C4$MBE%KPE%K_,%&#E%GBE@&!N%FE%VE%TE%|5%DHE%DHHE%m%u%
  ,ZC$%SE%|K%ZE,B/#CE%JE%NJE%YE%KE%qGE@&!N,T$$N%ME,XU#YE%q%mq|5Nh/#PP$/*J?$|uNDOm FA&KA&SOO$|vFgq%Kg
  q%TIq%NII%BAq%FAA%yA%fq%DOOq%KUq%TO@1!-O%JOq/)5w>,#2&p&DO#A640!?n?HZEMLz/,tW(ELO@0%_u/,z))]k@E&JhV
  @/%/#s;)@5%BROAD /.(n)n Y/,y:+.w@4)]lYe,#4(YU@:(A@.%?V/.*~,/)4c$@4)]l@E/YN@t(/.$Z)|gD@/)EL@/)M,$8)
  CULd O@4%Bk@4.?9@F.nMULTI@6%!?Y?nVZMi%|3/.*M&%]M +%~C +!SlVr]P.t@K#n/./_(I&YI&U/.0=/^7%]x%sYhOK!?n
  ]x$@/#$?HDWE,&c(@/(ZH@/(C?M@D(Z@9&T/.)g,TW@<(S@/*S@/(@i(H@C(S@/)?9O/$0=*@0#/)*G$,$8$|g+,$W$EF&]lE!
  BAMUM n,8]#,/y#,6I#yE%O%^2%I%l%s%vI%vg%Lgg%Mgg%yA%Nf,3j#EM%M%SU,0M#|M,5U$KUX%SEUX/#~A$i%NUAE,0l#J@
  ,!YOQ%|Q%YUQ%z%NSj%K@O!PEUX,7J#NTg%PUE%WUE%P,8=#RU%LU,63%uUX%tE%KEN%qKWA@*!G,:<#|O%PUAE,n(#OM%WA%N
  A%o%PI%LOQ%KO%MBEN%uN%MEN%p%T,77#M@;!AA%Ti%Ks%|2%NTUU%SAM,6n#ApE%KOVUU%KOGHOM$?Y^TKOQNDr&TUKW[KIS$
  ,$|#o/)t]$/*VR&,0+##A700!^enCHkE|C~MYk PIq(zq +(Yk Sj@0)QU@/(R@/$/.M*%?7/.M,%?7/.M/5@;$&@D!]6-xE
  M @K#@4*@[5@B(@d%@b.@_<@@+?4~l.D&|a&]I.D%/%W($ .j%_o~g.r&[B+&[U^S&]j@*!@l#xR[T.C]DTrE(^M+!]5?HEGYP
  TO^G/$9c%@5)Ak@5%/.mu)TZ@,&uS]WO@1%CUeR]WO@2.a?@P!/)8h%F(S$?HAA@G%AO@,&U@,&V@,(a]I.D@2&Y,1](Ca?3@1
  %K.T@.&/$@e$@<).C@5+/&d_$L@2%La]D@?(Oa^I|o _N@4)K@/&O@,%P.T.P/$Ae.PaFLOUR]m@4(SQUIRuL |y@7%Q@Z2Q,#
  v,/)0a&@3&UM +@0%V@M,VY@,&ISIGOTH]P,&H(]K.T@0),#@2V[J@.%i@+%IS@,%Cr,1K&US!]5|eDUM&LUM&MUM&NUM&RUM,
  (&$@,!|eTUM&UM$?H]fD@i%]fF@.(G&~W]fG@4%~WL@>(R@.(S@.(T,#I&^M?T.B%?W%|P[Pw,*N#SbT]WO@p(H$|eLa_r.C.y
  T$nSkO^G?3$?HNa,$e.CaBd@/!)_O]H&H @8!B,&t/F,%O(VOlPUK AE@4.O@4/UE/)0z)3|o/$GZ1N +/),11S@.(Ha]/):H&
  |BG&La.yT&|d?GI,%~$Q,$X#K(/):H+?P&BEy@g%,;h(U,$/(/*o3&@3.I@3.U@f&5.ML]m ,.((qoCcA W,%R(_O]H/);0$Z@
  0$Da/.V.%,$C.#A7D0,<[#]fG@5&3&?9T]K@/!5(WYNN$?H^bSCOTS S@f&IGMOID S@Y%F2,8_#GC&F&Q,(c#_u[4H@R#EPI/
  $.]$n/$0W%I@P$H.T%|d^BOE/)Fd&~WM@R*_uF(P&]jM&I ^HA&.qM!SYLOTI NAGv nA&I%w DVISVAt%nU&E&O%w jScy%nK
  O&KHO&GO&GH@:!.m%nCO&?Q&JO&JHO/*Hv$~B&DDO&DD@5!O&@3!O&@1!NO&PO&PHO&BO&BHO&MO&RO&LO&RRO&SO&HO/)n6%I
  (U(E(OO%POiRY.H-1===%w .fjScy#A830!^s|4kD]P/+eu$([3&~E_lS&/+eu&([EH&/+eu(%_l.H%PlCEH^5h +%_5+%QUcT
  ITY +#A840!PjGS-s /+Cv(/+Cs+&Nz/+C[%/+CX*/+CU,/+CQ)|d/+CR)/+CO&/)t%&QA&X/*,Y$GA&g%/)XU%WA(z%n/+Dx)
  NNA&.fz&VO]RL[T Sj&/#ge$j&/.d/$[DFA@c&t%SUPhFIX[D+%n?F%|W [8.H%?9+%^T|J&?9|J#A880!SAUR.sTt/+|@&/+r
  Y0/+=d+/+nD%/+n@D/+AAS/+n10Ll$?cw jdU/+JfBAI/+mv,%?F#A8CE/,7aH#A8E0!?Y/,<R&/)[$@A&U&KA,(k$t&VI%w .
  v!@d&/+vZ,,#[#9@+%F @y$.v%P~kPIKA$GAP [b$Cdi$[8|o/+x1)JAk OM$nAY,$w$Y!KAzH o,#k?,*q,SA&Sj&Z,*q%Hy,
  *o(p&f&BA&t&z&l&W/+@+$&V,+I#A&OE&I&OO%~rUE&E&U&g&O%~MPLOPHU&Cbz@&! @3$%w CWI&SHz!uJAq n/*A(6/*!&)S
  A,(]#z%WA%j%MBA,DE#Nf%NYJA%A/*!3),(E$AU&EU&E/)eX&N&R&H$~o#A95F$|E.H/+<6)~H-/#nT(?R%_w/+/@(&~H@,!/+
  8Q)mq_Y/+10(@V&&]y%^c-@S%X/#o+$-|9/+/&)|X-_Y/+0.$_w@8%?R-+@@#9%_X-]C%]C-|X@6!/#lF%#A980!JAV/)m6&zq
  GA%CECAK%lYd%WIGNYc$nA%I.GWI,.8&s CEuK%qA mLi&mLi tSWADI/,CZ$/*n?%.NSA/)tW$/)u0%@/!,.I&@2$,&?$@/
  & ^Q,.Y&y ^Q,.[#f@9#@R%y%y@,$f%@<%%s%s@7#,.m#@K$,.r%t AGUq/)n]%@>$&^Q/)u1&,$Y# TEL,/%$TdUq&TO^H&WU
  LU@(# MEoK/)u?*M[JUT&yoq&DIRG@w!u&PEPi,(p#Khi&PEqKb&CAKt$sqKr$]7uuqGc$_y+$sf cfP%pDz%LUHUR%WkDU%sq
  Ke%oqSA%LUqSI%ADEG%/)uZ(%PISEmH$~Wsf @0$#A9CF$sqtqKEP,0F@9DE$sf TIRy TUMiES%ISEN-@(!/+PQ&SHc Gj,6
  :#j&/,Vv$/+Ig$.NW$^e@D#uDUPoC.u$nyI l]cNz(FA(GA(Gj(JA(Jj(Df(DDj(NNA$@G$/*%r=@n&Ll(f(Dj(BA(Bj#AA00!
  CjM/*Kp%,)f%,4~.UE%q/+*M%,5&(HUE%N@+!J,4y,@:!A%Df%s%P,5)*MUE%p%BBA,52(,5/&,5!,EI&U&O/+ls$&AU&UE,(
  W#,9%$WA#AA40$n[cK&G&q$/*,?%@5!CH&T&N&P&Y&R&L&SS@A%M(H#AA50,(#@A5C$_j SPIRb%Dcf%?9@)!~T+/.An.G,;>*
  Jj/+[31/+[&$,:y$Hj&FA$^e@_$,(?)@4%XA&ZA&t$LOGOGtM @:$OAY&QN&HM$|vAITr /+N4%,5:$$n@8#t$w s/+Qo(%,(G
  $TrE-2)5$nSHWE/+Oj$Cj(Sj!yI VIi n^MKO/,fy%KH@.)@/(G@,&q@,&C@,&?Q@,%S@6&NY@.&D@,%L.R@6%~B@I&@H&B@H(
  M@6%PH@@&F@,&M@,&Y@,&R@,&L@,&V@,&@e&@Y#O%pI.Gq%~rA,?9#E&,C*$pI KHIT%~rIA&UEA&UA/*>3$Y&c&AM%/+n^%(N
  UEq(~B(SOq#AADB%|vKr&@:!&SAM&HO HOI&KOI KOI!MEiEI pYEK nE&O&Cj/+c06/+q;$,7k#I(UU(AAI(A@*!U%?MIKHc%
  Ajq KHUfM%cJI%|uuPiI~L.H%~2+@^#~p%~o#AB01/$^.)TTHU%T|8/*EE%THg/*q@$~B@M!9%D,j2#,nk#DjA@.!g@(!E@(!
  O#AB11%DZU%DZI%DZAA%DZg%DZE%DZ@B!20%CCHj@(!HU@)#I@5#A@0#g@)#E@)#@R#8/#Qz%U/#RP%A@1!g/#Q^%@F!30!]5/
  /2M$.e&A /$Rz%/)id$.2nE&@?!E&E,N5&&mNIS F&|BG/)ds*/(]g%)/)a$$)^bvq&M@D(N +&Eq +@w!/)mH$_D+&]jOE&~W
  OE.T:]J|o(O _C-O:@D!xIRR~gR,Qj%a//9i%R/&Mz&[6m&?9R&R,M|)9@0)|BR(Ravq&/,fx%[S&Ua|P@k!(Bd@.%&UI&~WUI
  &Ua]7]H&?P&?Pa^M_yvq:]7SEvF&X@4%)^I]7mG;mG.C@6$<~1@F#Y@t%!^e?//=s%n|dHEq,%3*^b~,#3&,&4#SAKj Ye&]lE
  &_DOE&UO&]j.e/)oB&^7@K#//3Y$_r&TS +&~WRa@o!/)io&W%]7|x%_y+#AB7/+7;(|eA/*St(V&G,m!#GE&GI,L|#U&GV&j&
  /*u)(HU&HV&l&m&o&LO&LU&LV&p&ME&MI&MO&MU&NA&HNA&NAH/*v!*U&NV&QUA&QUE&QUI&QUO/*]v%V,CY#&SE&SI&SO&SU&
  SV&f&y&DE&TE&DI&TI,N%#U&DV&Dl&Tl&Tm&To&TLO/*r(%V&~U/*po%I/*p|%@4!V&W/*wa+U&WV&z,/V,KOK,/|#lI&MIT&s
  &NA&?PL&TIL&K]L&qOU&T]L&WAI&zq&HUK&UN&I&PjM&eIz&GOK&JjM&tI&BA&JIL&DIL&G]L&D]L&BjM&KOK LrSUM&lI +&M
  IT +&s +&NA +&TIL +&qOU +&I ,04$rAP(kAP(cAP(YENAP(SOU@*!@(#?M@@!NUq,1,$EI%LUM IYEK%APUN +#ABF0%/,.
  |?7B0![7/+V|&O-YEO&O-I%YO/+Ub&%U@9#I@9!U-AE&O%E/+Ul(O%I-z-O&z/+Uw(O-/+:s%/$3Z%@N!#D7CB/+U=(^o-_w&/
  $(:%,F=#@)$-/+^r$+/+^5(/+]~,%_w-,Fu$]0/+T3(-]y/+T6&C&_Y-~H(_X&~4&,E|%/+_T2^o&/$7o$@)!c@6!_Y-,H($@
  f#&_w-_X&^c/$9]+-~H,#Y)%|X-^c,H6*@N!,$$$~@A#Pc|X,$1,&]C%Pc,H5#@[+~4-^c@@!?R-,I6&,HJ$%_X-|X&|9"

end SchemaCompiler.Pattern
