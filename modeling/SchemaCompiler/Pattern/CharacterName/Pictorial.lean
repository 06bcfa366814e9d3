/-!
# Names of cuneiform signs and hieroglyphs

Rows of names in the order of the characters. `Pattern.numberedNames` tells how they are read.
-/

namespace SchemaCompiler.Pattern

/-- The rows of names for cuneiform signs and hieroglyphs. -/
def pictorialNames : String :=
  "#12000/2H$*A%A.QA(BAD([r(j(IGI(lGd [2(M~k(SAG%A2%AB%AB.Q.s2(DUN3@B!Gb@U(@3!IMk(lGAB(SH[S(U.LU.LU&
  [@a!2@&!.QBAlG@W!ME.LEN(Sj3(|z%AD%AK%AK.Qhk2(|My.LG]m%b%b.Qb(DIM2(G]m(j(KAD3(KI(|K(~k%bc%/#iN$Md@&
  !.Q|K%c%c.Kc&~ETIMES&_aNAGA _Fc.L@.!)|kD%c|K%APk%AtD@&!.Q]2%dKAB%ASb2%.s%.s ZIf |2U&KABA +&_M.s TU
  G2.K@)! @/*sP)@B!:.s ?i.s.K@&!@k#@r!GAB,9J#AD%BAG3%BAHd2%Bb%Bb.K@*!AlG%Bd%BAt2/(X#$.QA(Gd,%t%/(W;$
  .KBU AB)UN&?i@6#LUG@)$.K@1$?C%?C2%f%fG%fG KISIM5.QA.LM.s)AMd)BAlG)BI)GA)G@;%GI)GIR2)GUD)j)IR)IR.LL
  U)KAK)l)LU)LU@M#2)LUM)NE)sP.LsP)SI)|z)U2.L@e#~k%fM%Dd%ft3=/(O($B%DIM@&!.Q|K@+!2%Dk%Dk ]u U [2 ?z%?
  z/(Nf$.KDU&[2&|K|MG%DUB@&!.Q[S2@,!@(!G@&!UD%DUH%DUN@&!3%,*G%&[2 [2@2!4%DUR2%E%E.QsP&_ME ^1.K^1%E2%
  E2,%+#j.Lf(Gd(MI(Sb(|K(U%EDk%EGIR%EL%EN%EN.QGc2,*j$&?iEN&_F+&|kD%EuN%hk2%[S2%EZEN@(#.QA(A.LLb:Lb.Q
  Lb(c(BAD,,7&),#m#(j(j [2,(E#+(]u(]u |kD(KU3(l(@]%o(LU(U2(UD/&?S%[2%GA@&!,$1$f.Lj:j:IGI(AB2 |2U.LyB
  (c(.s(.s2.LGb,#G#Bd.Lt(?C(?C@,!f(DI(,&Q%(DUB/#H5$.Ll/#H4$.Q[r([r(Gd(GI(GI4@&!.LA(GIR2.LSU(j.LLU.L[
  S2(Hb(Hb@a!HI.Lo(HUB2,/d&]m.LHU.L.s(KAK(]u(KID@&!.LLb(KU3.Lc(l,/a&MI(^1(,&h$(s(Sb(Sd(|K(|K.L~V(|MD
  (SUM(|z(U(UD(UD.LDU&_M,%/$BA@(# ?i@0%D@&!.KGAD Gd.KGd%Gb%Gb @:1AlM%GAM%Gc%Gc2%[r@z!c2&?i+%@D!d3%G.
  sc%G[STk@)$.Q]2/(Ly$.QE(U&?i@1#4@&!.KGI4@c$IDIM%GIR2@(# [@+#3@(#,(/#IGI([r(@*!LU@3$s%GISb%G]m@&! ?
  iG]m&~JBAD(|z&|2U/(M:$ ?i@+#2@&!.QKAK(KAK.Q,&A%^1(Sb.LTUG2&[@H!D@&!,#A#]2(]2&_MGUD LUGb%GUL%GUM%GU
  ,.V$GUR@&!7@(!UN@)!~k%j%j |2U@s!Hb%HI%HI.Q,*%$,)~#?z(GAD(Kk(^1,,W#/&~c$B2@(#.Qc(Hb(]u(L]m(UD%HUL2%
  I%I A%IB%IDIM@(#.K@)! ?C,4F#IG%IGI@&! DIB&v&_M@0!|MR.K|MR UD.KUD&[2%IL%IL.Q[r%IL2%IM%,+F#z&?iIM,.i
  (IMk%k%IR%]m,JB#A,.e#D(AD.LKU3,$A(,7=#Bd(BI(hk2([S2(GA(Gb,,$&d.LSj3.LA,,1$R,76#.LSd),&w#(GU(GUR7,(
  G#IM(,&e#I(KID,/4$ME,+]#DU:GI:TE(MI(MI.L^1UZ(NE(^1(PI(RU(SA(Sd(Sj(|K,+i#|Q(SIG(SUHUR(Td(,0%%(UMUM.
  Qs(~k(ZI%KA2@&! ?i@.$B%KAD2===@+!5.K@)!%KAK%,)H*%Kb%Kb.QBAD&?i@1!AM2@(!4%]u%]u lGAB.QU.K@,%&_M@:3%
  K[S2/(Ta$@r#,.f#%KID%Kk%KISb%K]m%,73$@*%.K@3&U%KU.K,)q$2 @0*%KU3=%KU4,Pj$ [i%KU7%KUL@&! [@E!N%]2%]
  2 _F]@3!|Q2%KWU318%l%lGAB%,#q$A(,3<&Gd:Lb(b(c(,;&),(o$I(Dd(EN(GA,(^#UD@&!.L@,!j,2L#I.Q^1,>()(IM@w!
  LU,(U#k,4s#KUL@&!.LHI.LA,>J#,+f#LU(LUL(ME,2S(~k(NE,2B#SUM,>1(.Lhk2;|2U(|Q2@&!.L@,!@G!yG(|z(TE.LA@X
  !.LNA(U(U.LA:U.,60#,3z#UD(~k,+c#lGd%lG,>T#,#5&&,8y#.K,@n$ |K%lH|Q%Lb%,6~$%lM%lM.Q,09#.LRU%o%oL%oMM
  U2%L]m/(].$,(T#%LU2@&!.Qb,As$S2@&!,%p#Gc2 +(HI@M#,+w$D2=@)!3,5p$I(l@,!,%?#,%1&NE(NU(SI@=#SIK2.LBU(
  ,2(#|2U&?iLU2,/8&,;p%LU3%LUGb@(#.K@)!@F!@B(H%LUL%LUM@&!@D!M(LUM,5Z&p%p,0:#[2%p2%pH%Md%M.s@&!2%ME%M
  ES%MI%Mk/(mQ$.K@*#G@&! [2%MUN|p%MURGU2%M~k@&!.QA(]2(ZA&_MM~k(@7$.LNA&?i@H%3@(#,*V%,:5#&[2/(eQ$@*!G
  A@(# kVhTED&~J|Q,42#_F@@&d%NAM NUT]WU@/!@&!2/(em$@~!U,%=%/(fg$.QE%NI2%NIM@&!.Q[r,2(#[r%Nkf2@(#.Q,<
  0%.L.s,+g#ME@F!,1M$,:1&A c:.s:@J$,*1&~k%NISAG/(g,$11%^1%^1 ,*:#Gd)M.s)Sb)Sb.K@:&Sb)~k&,$H#M^1&?i+(
  @?$,*Y#%^1UZ@(# ,G_#,Dv#)BI)DUG,C1#,.<$)KAD3)l)NE)SIl3)U2&,D#&BI)BI U%s%sD%Pc%sP%P[S2/(yh$,&>#B(BI
  (BU,_s#IB,3X#&?i@D#vG@(#.QKb(UD,(9#F@:#t%tB%v/$9:&AG,&G%@/!@&!.QA(DU,?E#j,>=$2(LUM,>#%Sb,4~#yB,4m#
  B(UM(UR(~k&_L.NG&[2%Sb%Sb lG,K2%%SAqA2%Sd,YV#j3@&!,Ku%,J2#NE,0/#~V,/j%%Sj6%SjB6%SHd2/(NZ$ HU&_M|K,
  >B0)yB.KyB +%|KG9%|KN%SH[S@(#2@)#lM%|MD@&!.QA(I@2!M@&!@2!Bb(,HG#(Dk,I#%,2t&,40#,2G$UG(Sb%|NIG%|MR@
  &! ,(c$|MR/2t*%%|My/(PE$.K]j@,#2%|Q?C%SI%S@w!%SIG@&!4@(#.K@)! |Q@<!K@(!l3/(Y/$.K@*#D@&!2%,9!#%SUM@
  &!.s%S@2#R9%y%y .t&~JHI(M,.0#yB%,%)%NI.KNI ?z.K?z,3F#yG%yG.QBI(GUD,+o#Q(TUG,E|#|z%Td/(tw$ [2/(um
  $ |2U%TIL%TIR@&!,0j#_MTIR(TIR,Bk1TU%@t!%TUK%TUM%~V%~V.K~V ZA.KZA%U%U GUD&U U&_MU s.Ks@c%)SUR.KSUR)
  U _u_MU/&Oq%%U2%UB%UD%UD ,&U#,B,%MI,QR&<U [2,K<(@)$,5($UDUG%UM%UM.Q,4H(f,Qi#U%UMBk%UM@C#@E!]u(s%UN
  %UN [2%UR%UR ?iUR@w$%UR@9!,KA%:NA(b(j(^1(U2,0E%:BI%UR4%Uv%Uv3%URU@&!.QA(,/U#(Bd(DUN,?r.U(j,?L&]m(K
  I,,u$k(s(|K(SIG4(TU(U,:W#,>i#RUf%@(!@(#.QU%~k%,4S$KU(]2(|z%~kX%~k2%U|QMX%UTUKI%UZ3@&!.Q]u%UZU/(hu$
  ,+(#|k,SB$ZAG%ZAMX%ZE2/(iV$.K@*#3%ZIB@&!.GB@W#%ZIG%ZIZ2%@o!U5@&!.QA%ZU?C%ZUM%KAP ElMITE,Vo#^1,V8$A
  ,U8$KU,R:,U2,QR#%fG3%?z.L|Q,PE$|K,NS%,*n$,MR$c.LKAK.LA(.s2%GE22%GIG%H~k,D?#c|K(.s3(,CM$D(,?h$,1m$s
  (|QL,%n#R2,?3%GI%LU2 ,)I)&~J[S2,LT#|Q%M[S,8)%ZA%NA4%Nk%Nk9,6b%Bb(GI,5z# _1NkiY DEGRgS,4I# .t%PIR2%
  SAG,C,(TI2,*K#ME%U U#12400$/$3J$w ~Z.s/$94B~E?z@F>[mU@A!U@A!U@A!U@A!U@A!U&_AG[S2/$<]HGE|Q@P2~ZSHd2
  @8!(@,!,C^(&[m@4!@w<SHdU@w!@c&U@c/U@c$@m!.QGb.L?z;Mk&_A?C@])?C@[,?C@Z%~E@:& [S16:[S21&[m@9(oMMU:@(
  !4@)# A;B&|Y @D(.s9&|I@4)IMk3:IMk@M#[E@=)USSU:@(!3&^p@T*@~!:@)#3=@+$ A&~Z.s |2U,&83_ABc,&T,(Bc,%p+
  f Bc2@8.NIGIfMk@+$[S&_AE|K3@j#_A|8RD ?z&/%/2&+&/.TA& @C&@p( A@K*/,P<%s(_l +&^6ASSYR]O_A@c!:_l&_A_
  l GUR([4+&,/@$ @w$(@l%([j([a&[m,&f)/%#m;2470$_j w ,#:(~2?0&~m?W&?t +(Tv?W(QUAD?W@S!80$w ,0[$ ,H*%%
  AD,]U$B@,!?z@<!,b3$.QAB2(NI(ZA,aj%.QNA2%f.Q|z%fG.Q]2,^w$IGI(U U U@3!2.Q,^=#G,0W&(.s e ]6(Dk(DUN,P
  j#G,PP( [,eg&HI,Y;(u(],<+%@)$.L]u(lK-020(lM(,Hk%LUH.L@b!M.s(MES(MI(NI(P,fQ#,;x$E2@N#sP%hk2 X%[S2 ?
  i,^S$[H,1l%.s)HI,B)&l)Lb)ME)MES)SU&~JSU,3>$,%3#(DIM [2(DU,1H(:]u(Eu,MJ%.LDI:NE(j.LA,$1),$).,Lh&NE.
  LE2:GI(|MM(ZIZ,Zu$,2j.,Yu&U%G]m.Q,Xp(%GU2,2u(,Nf#@D#|z,WZ$ [2,WT%,P]&,55#BU(KA,&u$(UR,4t%ZU.KZU%lK
  -003&021&025&030&050=&062&079.K@E!79 [2&080&081@7$81&092&130&142&210&219=&225&22/+nW$265=&343&347=
  &383=&390&441&449@&!.QGU)IGI,g=#LU3;@+%,g@#BA&450&457&470&483&4@e!92=&495&550&608&617@&!,(C#BAD),d
  f%,GN#U3)l)Td)TE)U2)UD)URUf&636&648@&!.QDUB)GA)IG,)%(N,#^$,#Y&SH[S.LKI@e(724&749,8V#[,Hw#&~J?z(Hb(
  sP(@a),na#MI.LZA7,M;#K@(!QGA:KAK,8b%,)v$,9v%L(HI(K[S2,+d#50(M.s@v%,Fj$U,=i$SAG,#F#j&~JEN(|K,.&$|z%
  Sj6,/2#|K.K|K&_a,e6#NAM2(Sd%,*]#,+1#NI(E2.Qc%SI,)Y#|z.LSAG%TU,M@$~E?z%UR2,NM)UD,@.$ft3(lK-668(LU3%
  ZA7%,)g$.LSd,=s$~E,0c$#12F90!CY_g-MkOc w CM.U=&CM00/$k|&@2#12B@*#3@)#5@)#7@)#9@)!21@)#3@V*33@f+44@
  )#6@1$9@>*58@0)66=@Y+75B@*#6@)#@L$@E,94@5.107@,%12@)#4&CM301=#13000!EGYPT]O/$Ww( A.U@a!%A005A@)!6@
  (#@/$B%A0@w#@G%14A@)!5@1$7@1#8@C%@J)32A@)!3@6)40A@)!1@0#2@0#3@(#@/#4@;#5@0#6/$r^8%B.U@+$005A@)!6@2
  !C.U=%C002A@)#B@)#C@)!3@^&C010A@)!1@w.D.U@/(008A@)!9@E*@A)27A@)!8@2$31A@)!2@1$4@1#5@U.46A@)!7@0#8@
  0#9@0!50A@)#B@)#C@)#D@)#E@)#F@)#G@)#H@)#I@)!1@b#2@b#3@0#4@0#5,#w/67A@)#B@)#C@)#D@)#E@)#F@)#G@)#H%E
  ,$x)E008A@)!9@(#@/!10@@(16@5#7@(#@/#8@<#20A@)!1@l)28@6#9@4&34A@)!6==%F.U@&!A%F002,$,+F013A@)!4@6)2
  1A@)!2@J+3@8#32@4(7@4#8@(#@/#9@P(45A@)!6@(#@/#7@(#@/#8@H$51A@)#B@)#C@)!2=%G.U@k$G006A@)!7@(#@/$B@)
  !8@C$11A@)!2===@V&20A@)!1@4(6@4#7=@H*3@8#37@(#@/#8@?&43A@)!4@0#5@0#6@_(H.U@,%006A@)!7=%I@9$%I005A@
  )!6@2%9@2!10@(#@/#1@(#@/#,ja$,(p)L.U=%L,,X#L,,L#@2#6@2#7=%M.U@&!A@(!B%M002=@)!3A%,3,(@5!10A@)!1@0#
  2A@)#B@)#C@)#D@)#E@)#F@)#G@)#H@)!3@i$5@[#6@(#@/#7@(#@/#8,#5%22A@)!3@0#4@0#5@>%8@2#9@1#31A@)!2@0#3A
  @)#B@)!,$&)40A@)!1@2!N.U,/b2N018A@)#B@)!9@;(25A@)!6@M)33A@)!4@(#@/#5@(#@/#6@F#7@0#8@U$L.U@,%005A@
  *#@t&@<&17A@*#8@3!U.U@A*U010A@*#1@)$@1$2@D*8@7$9@4$,%U#O.U@&!A%O,.@$@+!5@2#6@(#@/$B@)#C@)#D@)#E@)#
  F@)!7@[$10A@)#B@)#C%O,3i&@C%9@C!20@(#@/#1@=$24@2#5@(#@/#6@=%@V#30@(#@/#1@<#33@1#4@1$6A@)#B@)#C@)#D
  @)!7,(&.O050A@)#B@)!1%P.U@&!A%P002=@)!3@0#4@V&Q.U@.%R.U=%R002A@)!3@(#@/$B%R@V&@F!10A@)!1@4(6@4#7,#
  W,S@t!S@t#S,,q#@2#6@2#7@I(014A@)#B@)!5@7$7@7#8=@J)26A@)#B@)!7@=*35A@)!6,#F*T.U@)!003A@)!4=@2$7@2#8
  @(#@/#9@(#@/!10=@)!1@0#2@k$,$K#T,$K.@>%32A@)!3@(#A%T,&n$U,1^&U006A@)#B@)!@g+@E&23A@)!4@4(9@4!30@1#
  32@1#3@U)V.U@&!A@(!B@(!C@(!D@(!E@(!F@(!G@(!H@(!I%V002@(#A%V,;b%@,!7A@)#B@)!8@8$11A@)#B@)#C@)!2@(#A
  @)#@;#3,#U(020A@)#B@)#C@)#D@)#E@)#F@)#G@)#H@)#I@)#J@)#K@)#L@)!1@u$3@u#4,#*&8@3#9@(#@/!30@(#@/#1@(#
  @/#2=@)!3@0#4@a$37@2#8@1!,2?#W,(y#W,(y#W,(y$@4$9@4!10@(#@/#1@=$14@2#5@1$7@1#8@(#@/#9@g&2@L#25%X.U@
  6!X004A@)#B@)!5@6#6@6#7@0#8A%Y.U@&!A%Y,;S(%Z.U=%Z002A@)#B@)#C@)#D@)!3@(#A@)#@A#4@(#@5#5@(#A%Z,3E*@
  s!15A@)#B@)#C@)#D@)#E@)#F@)#G@)#H@)#I@)!6@(#A@)#B@)#C@)#D@)#E@)#F@)#G@)#H%AA,0F(AA007A@*$B@*#8,Cd
  8#13430%~m]sh%]J+%kShT e ~OxdT(.6+(~O[J@,!%_N ^a/4B;$SEG^Z%[J +#14400!ceOL,F]1,F>*0A%A,4I(@>+26A@)
  !7@;/39A,F=#=@)!1@0#2==,F.+@(#@/$B@)!@h&@o/66A@)#B@)#C@)!@N+@Y697A@)!8@(#@/#9=%A100A@)!1@(#@/#2@(#
  @/#3@F#4A@)#B@)#C@)!5@(#A@)#@;#6@M#7A@)#B@)#@M#8=@=!10A@)#B@)!1==@9$5@9#6,#s*12@8#2@8,3@8#36/3fZd%
  A202A@)#B@)!3@9&7@9#8@0#9@0!10@U&15@4#6@(#@/#7@w,2@b#28,#PJ6@V#68@D889@D!90@3%94@3#5@3&@B!300@V*30
  @8#10@v532@B#30=@)!2A@)#B@)#C@)!3@J$36A@)#B@)#@>#7,$9835@y#60@3%64@3#5@2%8@2#9@1#71A@)!2@d+8@8#82@
  (!3 t.Jv@.#@9#4@F$6@1#7@V&93 [E@+!4,#Y1410 ,/##/%*r%.H@8#A [J +@/!1,&dI450A@)!1@5)7@5#8@iI501@F="

end SchemaCompiler.Pattern
