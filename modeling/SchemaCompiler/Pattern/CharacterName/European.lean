/-!
# Names of European letters

Rows of names in the order of the characters. `Pattern.numberedNames` tells how they are read.
-/

namespace SchemaCompiler.Pattern

/-- The rows of names for the letters of Latin, Greek, Cyrillic and Armenian, the marks on them, and
the signs of ASCII. -/
def europeanNames : String :=
  "#20!|j![U^S!_n+!^zw!?2+!PhC[K +!.h!.n!]7_R!_y+!.t!_aw!?Z!]N-^d![p!|h!?x$rE$~Y$~D$[l$[f$|Y$|I$[E$^
  p!?W!|G?W!^A w![Pw![yTHc w!_m^S!?ae!]5?HA&B&C&D&E&F&G&H&I&J&K&L&M&N&O&P&Q&R&S&T&U&V&W&X&Y&Z!]7|l.9
  !_t!_y@.#?T.B!^M^E![x.B!]5|e,##V?k.9!~m^E!_y@0$I#A0!NO-BuAK |j!]j,%S#C[K w!P_J +!?l+!Y[H+!BROKEN.D
  !|E w!?s!COPY_yw!FEMI^p ORDkb ]a!]6-_d?9.k_n^S!^vw!|g]N!uGIxE_pw!^P!DEGRg w!PLUS-^d w!SUPh|B,&6#!.
  Y.B!MICRO@G!ILCROW +!^b?3!?J@O%rE!pSCU^E,#F)_x,#F+VULGd [n_A_l&[3%~E_lS!]j_m^S,&g$a[x).Y)?T)~I)?s)
  vq.A&AE&Ca?J&E@B)?s&I@2,iH&Na~I&O@h/!^j w,#(#O.T&U@X,Ya.Y&T]K$|eSHdP S&,#Mu?1w,):#,#L:&Ya?s$?HAa^P
  $|d+@/#?A@/(OGrEK@2%Ca.Y@/(?T@/)3.A@1(Cdr@0%D +@.&.@Q&E,#4)E,#4)E@i+E,#A,E@w*Ga?T@/)A@/)3.@1*J@/%H
  @R)H.@.&Ia~I@/&,#X)I@t)I,#K,I,#(%e?5I$?G^BIJ@>%J,#*)K,#A%&Kt$?HL,%D)L,#Z)L,$=*La^b?3@1&.@m&N@^)N@^
  )N@^&(PuCED[DBY .n$?HEq@F%Oa^P@/(?A@/)9@v&G^BOE@<%R,#3)R,#3)R,#n*S@F)S,$[)S@Q)S@Q*T@;)T@;+.@]&Ua~I
  @/(^P@/(?A@/(vq.@1(,$+*HU,&S,W,#Y)Y +@.&a?s&Za@W(Z,)$+Z,#_&&^IS&B.T$?HBa]H)TOPBd@I%~M|@c&_DO&Ca]H@
  3%AFvCc D&D@W,&~W?q@Q!uE&SCHWA&_DE&F@[)G +&[q$|eHV$?H]k&I.T&K@D%&LaBd&lMBf,#[#~WM&Na]7@A!eNa^I_ymG
  ,(D$b~I)]K@z%OI@,%P@n%$nYR@f!M~Y@>%[S$n_u[S ^K$|eTa_O]H$?HT@U%@/#_r&Ua@|(~i&Va]H&,%o)Z,.g)ZH&EZH u
  VhSED@9!(~1|y$n~Y,$/$M[f@O#n]j[v.T%WYNN%D[Kb CL]S%Lehb +%bVEOLd +%_q@~!D,&Z#&Da|e,&f%eD@,$?HLJ&La|
  eJ$|eLJ$?HNJ&N@4%N@4!A,)z*I,$&(O@.(U@.)a?s.C^P@3,.Y@3,Cdr@4,[x,(M%E$?HA@g.A,)p#@5+,2%*G.,1K)@|)K,#
  p),+0$@2.@r*EZH@]&&J ,%D$,%@$,%<#$?HG,+J)HWAIR&WYNN&Na[x@:%A,,V#,$Y*AE@W)O.T@>+a?9@]*]j,46)@>+E@>+
  I@>+I@>+O@>+O@>+R@>+R@>+U@>+U@>+Sa?Z.E@1%T,/I)OGH@/%H,&)*,,B(|eDa?j$?HOU@?%Z,/)*,6_,,1f)O,(S.Oa~,)
  o*@X+O,(o0Ya^P,/0%?j&N +&T +&?5J&DB ?y&QP @K!A.T&C@y(,/]#Ta?t |o$|eSaSW.s |y&Z@Q#[v@L%B.T&U.D&~WV&
  E,)u(J@n(|dQa]H |y$|e@.&?HR.,2~/&~WA&.e&~W.e&Ba]H&,2<$?j&Da|y)]H&,1y(@)$@H$E&_u_DE)E@3!?V@1#&?5J.T
  &G@7!|BG$n|d?GG$|e[q&tMS ]K&~WH&H@D!HEq +,2Q#]k@M$I$|eL,2.$.yT)_r&mZH&~WM(Ma^ImG&Ma]H,2f%)_q+@Z$N$
  |eBd_pO@3$OE$|e?V^7&PHI&~WR(R@c#:]H&@.$)|y)F]m,$N#Ra@.#@a$R(]jR,&:#]H&[S,$C$.C]H&SQUe _u[S&[Sa?j&~
  WT&,3+$.D&,3#&~WV(W(Y@r$Y$|eZa_r)?j&,3)%a?j$n[v%PHdYqEb VOIC[DFvCe]q%]j[v%xRiCH[DC%BIlBI,3&%@t!B,$
  J#_DE,%s%a]H(H$|eJa?hED-|y&~WK@@$L,(a%$n,3w#_u@*!,0.# ?y&DEZH +&@1#a?j&TS@:!T[S +&TC@9%FEq@:!L@9!L
  Z +$n,#^%PhCUSS]q%BI,4s#+$|e~WH,%e$:@)#.C|y!^en|d,(X%J&R,&N$@1!?G]jR&W&Y%PvME%?9@*#~W?Z%.n%_u?Z%_y
  [4vq%]7+%[v,$5#%]7.r[8%_y+%~g+%[B+%,Ih#Cdr!^en~m^E%^P%.Y.B%[x +%^M@8!&^P&[x.B&.Y +%~S?W%[4@*#?K
  D ,#5$&]7@|!|x@~#_aw%^d +!?A!?3.A!_z+!,48#!|d~I!?9,HD#^en_vT]P]H%?h.B%|d[q&L&S&X&,$$#[Vt-]D~MBd%@*
  %MID,#f#+@@#^M@9#Yk DEPd~K~M^S%zq +%VOICIq%UNASPIReED%?9.n%^M[B.r[8&~g+&]7+&_y+&vq%^b,$V#?9@*!(.Y,
  $s$I%_o?W%BEGk ]DTrE%[J +@4$^M+@2$|KLF%_D@*#^M]7.r!?Y@m!$@m!$?T +$~I$^P$_L^E$?A$,2J#?s$]H.A$_z+$,%
  ,$$Cdr$~m^E@B!9@,$%@o#?F$,4g#~W?Z.A$@(#_u@0( _x$@L!.E,#@$]7|x +$_y@/!.j.A$]K$]7[4vq.E$~g|x.E$[B+$_
  aw +$^d +$slyoZ[D]H +$,<1#3.E$?s +,#p$,3<#J$,(3#,#s$E$BvDG@+!]j?9dCH.E$Cdr@Z!T.B@*!A@@#@*#~I.E$^
  P +$^M^E$?9@*#~I _N$|P|o@+!^I+@0!h +@/#,)r$@i#,#6&|k.E$SEAG~b +$X.A$~m~I$?9,%z#[x ~M^S,$|$[z_V%KOR
  rIS%?uTrOS%~6$@o$A$[Pw.E,&+&E,%D$E$^v~I.A$HOMOTHiIC.A$.d[O.A$]7_y.r.E$UP~u@,#GtPHEME ]sh$@@![8.A,&
  *&A$Fhpy$X,#%#@?#E$_y+&.i~g@3$%@L%?3,(.$.t,#]#,&i$9.W$?9?A.E%?A%^P%^P.E%~I%]j?A%_x,#O%,TR#(E(I(O(U
  (C(D(H(M(R(T(V(X![z?HHEy,7O%.qSAMPI@2#^0w$^N@)!?HsMPHYL]ODI[q@A!#37A$~6$|d_uLUNeE |S.O%?7+%_u?7@7)
  $_m^S,;z#T#384$TrOS$?u@*$H.ea@.#A^qTEmIA$?H[M@7#&Ey +&]k +#38C&^8@,#E&~i +&^7,2k#]ka?u.i@r(&BEy&[q
  &?q&[M&ZEy&Ey&|7&]k&]t&lMf&MU&NU&XI&^8&PI&_v#3A3&|S&yU&~i,7o#?P&PSI&^@[!aDIbYTIKA&~i,#?#,$$%&[M +
  ,#q)&~i,#V(&,#TU&[c|S,#UH&^8,#S#,%**?GKAI.O$BEy.O$|@7!~ia]H.O&.Y.C@,#,.c#PH@K!PI +$KA@)!n.qKOPs$|e
  @,%nxIGp$|e@*#n,(c$e@*#n@M%@K$,)B%e@+#!COPT]P?H|K,JB&FE@.&KH@/(HOv@.%GAqIA@0%|Mp@.%D@N$![z]t.O$_
  v +$,)h*nYOT$?G|7.O@;%[M +$_u@1&.O@u!O@t$G@_)%nSc@9#_v.T@I!G,*~?!?n?HIEa[x&IO&DJE&GJE&UKtk]OIE&DZE
  &BYELORUSSIc-@=%&YI&JE&LJE&NJE&T|K&KJE&I@m!|PU&DZHE&A&BE&VE&GHE&DE&IE&@:!ZE&I&|PI&KA&EL&EM&E,a/#E&
  h&ES&TE&U&EF&j&TSE&?M&Sj&SHCj&HdD w&YhU&|gw&E&YU&z$|e,#2&,#2~&,%=w$?H^7,Dr&e@,%]lE@.%^F YUS@;(@3,B
  IG@A,@4.KS,Q~(@.(FIy@.%IZHI~U@1,a,;5$@8%UK@,%_3,#o(^7aTITLO@3%O,Z7(OPs@/#~CS w!?Y?n@L#%,9;#.u%?p P
  NEUpy%PSIo +%POKRYTIE%]M @Y#%MILor@d#n?H|PIa|y,,B&G|gw@0%haT]S@0%GHEaUP~VN@4).T@@*^b,KW(ZHEaDESC[J
  h@6&E,IS(KA@/*a~m|o@2(@v(B.sKIR.G@3%EN@u.G^B[HGHE@C%P,#J,ABKjS]Oj@b&S@b.HTE,K0)n U@/*,#L(j,#<1TE T
  SE@C%?M@y/?M,$>+SHj,#X.?M@4.@f/nPbOCHKA$?HZ,d!+KA,OM)EL,&k)EN@<*N@<)KjKAS,#<+EM@A%&,#/%,f=0?s,$W(
  A IE@<%IE@H)SCHW@0+@X!,(V) +,(P*,$Z.DZE,dx5s,X.1,Lu#@0+@I)Ea?s,aP5s,aC4?M@=)G,*E1YhU@C,,M:$,(d(@/)
  .,.#)MI DE@2,J@3,ZJ@B.@4/L@3.N@3.S@3.T@3(_uZE,(j(,#h)Lj@,%R@,&z@K&QA@,%W@6&AmUT.G@l(,,5+[H+@.%P,%C
  0SHj +,*(*7@Y(DZZHE@0&,*!)L@g+#531!dMEN]O?HAYB&BEN&GIM&f&ECH&ZA&EH&i&TO,61#kI&oWN&XEH&CA&KEN&HO&JA
  &GjD&?MH&MEN&YI&NOW&Sj&VO&Cj&PEH&JHEH&t&SEH&VEW&TIWN&uH&CO&Y@/!PIWR&KEH&OH&FEH#559$^en,DT$$.n$EMPj
  SIS.H$[U+$?Z,B2$.V,P%$AYB&,$1M,$1~%^BECH @?!%nYI.T$[p$]N#58D!_x-[X,&3$ihNITY w!]6-+!@8$DtM w"

end SchemaCompiler.Pattern
