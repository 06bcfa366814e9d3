/-!
# Names of notations

Rows of names in the order of the characters. `Pattern.numberedNames` tells how they are read.
-/

namespace SchemaCompiler.Pattern

/-- The rows of names for the signs of music, mathematical letters, and written gestures. -/
def notationNames : String :=
  "#1CF00!ZNAMENNY ?Y^T[w_6 r ]6&NIZKO @2&~Uy@,$[w@B)@6$SuDNE +&^R@4$POVY|K@0$VYSOKO +&MbO _e]6&_e@;
  +,#<%_x@w%@2&~Uy@,$[w@B)@6#,#<._x,#<)_x,#<0_x&_e@;*,#!#_6&^R@)!xRc^q^R@g&_6(xRcNO@R%@L%@7$GOtZDO @
  >$&ZELO&r&tVNO&TIKjz&BORZAz&UDdKA&PODVhTKA&LOMKA&KUPNAz&KACHKA&ZEVOK&SKOBA&tZSE@E!RYZH,%N##1CF30%T
  rb tqE ^TMtCHNO)SViLO)Tu@+#%^TZADhZ@t!DEMExV,(.#@8(OTSECH,#U$Cj|ME@,(a~m|o&CH.sKA@*%.MLNAz&OBlCHKO
  &SOROCHz NO@q#TO@o#DVOiO?PE,+y#]c~mOMi%^T/,ej$+,$6$%^N,$,&]a$PvZNAK ^emVEL-2=&/0fy$ FoP@S$&,bW#CF5
  0$NEUME KRYUK%@)# TIKHY%stKoT%DVA V ?MLNU%KLYUCH%ZcOZHEK%xOPI~U@*% S OCHKOM%PEuVODKA@,( ^m@I%a,$V.
  %?MLYUx@O!bKA%ZAPzyz%GOLUB?PK BORZY&,#Z#&,&Q#Y&SViLY&Tu@+#%VtKHIz _gSyz@F$Az&|t&Tu|t&]1@=$(@=%(|t(
  @=!%?9,#6%_u,#M(DhBI~U%KjMILO%,&e$%,(&&%SKAMEY~U ,#1/,*@$%,(x*,%A$@U)]1 |t&@:!?M^m&]1 @W#&DVOE?,(
  n#,#t%|t(^m(]1%SLOZHITIE@.) S ZAPYeOY&ZAKRYTOE&_6%,(j$ROG%FIy%KOBYl%Z,#D#%xez@&!@^)(@Q#EM(@4% I @6
  %@>& I,#2.yz@+%@l*&S ROGOM(DVUMz@:$YMI@|).M,%Q$M%POLKUoZMY%xez,(t#ul,&s+O,%%$,#J$VAz&POLUPOVODNAz&
  @,(^m,%]%@6&,%m)@g# PUTNA,%q)@/*O,#(%@7+@l#@T. ]1@D2 +&GROMNAza|W ,)I$&[1@;(@1!&[1a?9@@&0&[0.M@d$%
  ME?PK@)$@8$Y,$,%VOY,$F(@<+NEPOxOYcNY,%G#TRzSOGlSNAz&@0#@R#@2(xuLNAz%OSOKA@)$ ,*T&,/%#OVAz ,+p$+(,&
  C%@=(@G),$#&(,$c1([1 +@;%@1!(,$c*([0([0@b(TRzSKA%KUFISp%OBlKO%DUf%NEMKA%sUK#1D000/5:;,PSIo&fSEIA&_
  V&OXEIA EKFrITIKr(DIPo&VAu@92KA|8xI&SYRMeIKI&,1Z#@,!YPOKvSIS@,( @T$upxI&APESO@q)&EXO +&TEmIA&K[KIp
  y&APOxROFOS@.(@h%SYNEVp&|8y&OoGr dCjIr&GORGr +&PSILr&CjM@*!VeHY&IS@H%,#%$ +@+$y +&SAXIpy&svCHr&SyV
  ROS APODEXIA,$~$I@a$,$t$I +&@C!hp@,$|5p&KlSp&uVp&PIASp@R%TkAGp&cev?PSp&SEI@)!YNAG@E%(MEy ,#=#U&OYR
  cI@_(@y!mMOI&DYO&TvA&T[TEt&KReIpy,%V&XO NEO&[o@X$IMIF~Bt&TROMIK,$e(AyVA @8%&PElxr&PSIFIxr&KrTEVp&?
  QuVp@S%tPISp&stKAmS@8%,(=( +&ICjDk&NcA&PEySp@h% bLO,#D(+&xtGGISpy&GRr|8Spy,&D#NEO,&s$+,)s%+@j!xI&K
  O,*f#@2#O@1%,$b#MO@?)lx@h#,(#%@/! cO,(;(YPSIo,);)@C!@2(I SYNDESM@<%YPORROI,#/%@2$r&ElFR,)J$o&MIKR
  r IS,(b%@Z!,(H%+,%Z%,$;#Mbr&cTIKENOp&LYGISp,%J(@X!,%g(+&ihr @2%&KYoSp@^&@1#,%Z&@Y#EKxuPTr,)B%@7#SY
  R,&o%@F$PEGh,)k$@5$XIRr Kl@o(O,(Q&@+$OLYGI@A)@2.,#e%@O%@3$@B),#R#@A&@2%,,z#@0!THir&d@/(,$[#@3),+=#
  ,#q&|5MeI,&J#ESO(EX@6!p APLOUN&|5S.GI ,,_#S,*u$Sp&[JOFrr&YF[HKeO(cO,.W%,.&# cO&DIPo,*f$,,+$ +(bLO(
  NEO,.[+o@L#&Tv@(!itPo&/17n$&mIMp ENOS CHRrOU(DYO@/#r(Tvr +(T[Td@+!IMISE@K(,0s$,*C%(suxIGMENr AvxEt
  ),0B$DI@I#@+& @J/ KeO:cO@Q%Tv@Q$dG,/(#DI@,!@)$AGOGI.Mo dGI(dGOTEv(@/!MivA(MESI(@a!@)#@A$POo @7#&Md
  TYvA _gTOS I?QS(bo@2+DEYTh@?*@4,TvT@/)FrIAS(Tid@8&)mGi@C&@/*PlGIOS +&ISAKIA TELO~jI?PMeOS,.K*+&Fch
  OSIS Tit,#)$MrO@,$DI@+#,$4&VdY,#)%_gTO@2#+,#5&,#_*&GORTH,,V$,)p%)DI@+#&ENdXI,)|#[oVOU,3/#r,36&Rr,3
  G&,$x%U IC]L(DIerIKI s)NcA(NA,#5%@<(DI(/5O=$@5!@)!@>(KE)ZO)NI,(T%(plK/5Oe&,$R%:,$e&&FHTOt /5P/1&[o
  @8+SYNAFI(NENcO&@7!A ZYGOS(KoTr(Ss|8&[oI YFESI,%5$IMOvr(ENdMrIOS cT,#F#&@F&v@E$&DI@4#+(@X)APo DY
  O DODEKAy(/(^l$MOS ,7,# +(DI@5%EX@_!v@2%OKTO +,#0&@m&+@gQGEN,&&$@n!(@u$&DIAxOo@~#MIKv)MEGAo,<s#(|5
  SEOS&SIMc,$B#@5% DISIMOU)Tv@+%it@,#(d@C!(d@I=&,#s#p GG&DIFTOGGOS OU&xIGp&dKTIKO s(VOU(GA(DI(KE(ZO(
  NI,7J+MES,7L(@<+Ke@;*lSp@5!,0d$@C&#1D100!^k|v|W.D^E%?9+%[c+%_s[cBd^E%f|KD@>#|P+%]7uPEe w,Wo#@/#?6%
  Db SEGNO%f CAPO%@1$COf@F#[DFIGUu,i!#Fhpy@(#.E%BueH.H%CAESUt%BtCE%.9%rE-^E SyFF%~Y-+%~D-+%[l@(!f-+%
  |Y-+&x_zFRiBOdD@>$G CmF&CmF OTyVA by)BA|m%C@<!%F +@@3DRUM@C!-1=#1D129%^i/(bV&ux%?9SHdP&FLe%FLe UP&
  [A%NA~Vb@0%@C!@/%_l ~M@4!(@S!?XMr TIME%CUT +%,#D&&,#D#QUkD]RSIp@6(MULTI ux%WHOm +%[4+%/0$Z)%//m=%%
  ~A-|D@K!/%<F%|4+/1&@%X-[EH@>!X ^x[8%_a+%?S @2%|l@*! WHITE(.2%~R @5#~g@7#).2(]7@/(_y@/([B@/(~g@<%:.
  2%MOr @y0-_3@7#[B@K(_R@J#%VO,_*#@C#.2%N~b@<#/%Uv$@o/?A,%!$^x,%#>^,%#8@>!?YxEM&SPuCHGESAq @3!TuMOL,
  sB$[d[D@3*?YAUG^Z.u ?3&FlG,nj$/#z5$BEAM/6?[*TIE@2*SLUR@3*PHtS@C$@y!CC[K&SyCCeO&|2UTO@1$ISSIMO&MdCe
  O@)$-@I%@V#-+&LOUu%dPEGGIeO,)~%?YDOIT&vP&FoP&SMEd&B[J&?9~N&~T+%RkFORZcDO%|pITO%Z%PIcO%MEZZO%FORTE%
  CuSC[JO%DE@.&GtCE ^x |a(^q|a%TR%~VN%]j~VN@.! |a&UP%_I |o,t<,jUPTxIMME%NEBEN@/$[J.I@.$/19s$|a%?Y[B.
  7&~g+&HdMrIC&SNAP PIZZICeO%PEDb.H&UP.H%[4@2! +%GoSScD,$q&~1[dNAILS%fMP@&! bL%pXIp%^HA%BuVIS%|G@+#,
  )a$&.2%MkIp@(# .2%|G@.!@A)FUSA@2(@l! PhFECy ux&IM@0%+%@y$ux,#*(+@x$+@w&+%TEMP~j@V#TUM CUM _gLeI_A@
  l$:@u&:@~%DIMkU~L-1&IM@[DIM@^0==%CROIX%GuGOR]OC,2Y#F +%|lB%VIRG,Zt#eUS%CoVIS%SCcDIC@3#p@*!~PCULUS%
  PORuCT@,(~jFmXU@S&~j+@M$~juSUPk@K!ES |pPUNCTIS%KIEVc ,#J$[J.I/0Vj$[c^x&uCITe]q.H&,//%&[4+&_l ^x xE
  M [A:UP&[EH@5.FLe w%SOv%KORr#1D200![zVOCb NOT.u.O-/#x)8(50@*!$kxRU^Z@T+(4=(7=(11@J!17==(23@V#29=(3
  2(36@2#42=(45(47@w%!?Y[z^k/0U;$&Tit@+#/0U;&@?!mIMp#1D2E0!pYc ^0~8/46a</#B8Q#1D300//|x)[C!DI/0)W+L
  Y [C%HUMc +%[CLY @<$&@7!%[C!Tit@T$?K%F~b ?S%MIuD%Bdvh%KgP]c|c%CrTtviY%ASC[K/,%G(/,l/$]c_K%DEFECT]q
  N[T.JDIS~P~L%DIVhG[I/,*H&N[T/,%a&_UiR.u%u/,),$yCT%H^5]c.w/,*h%/,)e(ADVcCE%um@Z!uSIx@2!E@1!JOY%Cr|2
  ~L%[JEAVOUR%DUTIES%CjqE%DECIS,#_#%.5uS/,&9$sC]z%mGIr%CLOSE@A!Kk|MP/,(*%%xuqTH%PUvTY%F~b@D!uSID[I%l
  W.JMODEL%/1EM$%GO/,(j(EN/0lv%%xOVE%Gue@^!EN]4^Z%PeThN%vTUb%F^C%VAx,%C#WAxIq%CrxcCY/([0&/6&f$%U@)#D
  IMk]m^Z%?V^g%GUdDEDN[T,#y#_zk%pSSIq%ACCUMUL.u%EM.yL@U#DOUBT%WeCH%Sk]z%kNh%DEPdTUu/,+h&%DIMMIq%EXjU
  S~L%SE/,+S$xOPsGE%Hd,#8#/,)1%/,m8%FAILUu%AGGtV.u@A!o@W!r |6VhGE/,1;(,&K#lBOUvq%FOxEvq#1D360!COUN~K
  ROD UNIT//jE=%|2S@E=!]TTbLY ^T/#Qe.!@:(%[f#1D400!^U.5?G/7&%S%|d@ZS$]o,#;g#1D456@_D$.5]o?G/)D;S&|d@
  ZS$|B?GA#1D49E&C&D@.!A2&G@+#5&J&K@.#9,$&&@2#E,$h6@f&BB&F@+#D,%M.@8!C5,$p9|B,$p2,$p~FtK~V ,(O##1D50
  7,&v*50D,&t0@:!16,$+.@8#E,)vW/1R5*A(B@q!3B,$9&@2!40,$=)@4#6(O@+#A,$A.@8!52,%!W.5,%$&@d0,&A~_9,#;X@
  ZT,0?#)B)C)D)E)F)G)H)I)J)K)L)M)N)O)P)Q)R)S)T)U)V)W)X)Y)Z(|d@ZS&]o,#;2,#;~,0;%:B:C:D:E:F:G:H:I:J:K:
  L:M:N:O:P:Q:R:S:T:U:V:W:X:Y:Z)|d@ZS$MrO|j ,2u4,43~|d?5I(J#1D6A8$.5?G/6[zV|7.O/6[z7%NABl%|d/6]~s%_T
  %[M.O%|7 +%]t +%PHI +%_v@/!I +$]o,$G:,$G~,$G~,7p%.e(/2RJ%?q([M(ZEy(Ey(|7(]k(]t(lMf(MU(NU(XI(^8/2UK
  %|7.O(|S(yU(~i/2S)%(PSI(^7&NABl&|d,#$V[c|S,#$8_T&[M.O&|7 +&]t +&,$I#&_v +&,$I#_9,*:$)BEy)[q)?q)[M)
  ZEy)Ey)|7)]k)]t)lMf)MU)NU)XI)^8)PI)_v)|7.O)|S)yU)~i)PHI)?P)PSI)^7(NABl(|d,#$V[c|S,#$8_T([M.O(|7 +(
  ]t +(,$I#(_v@/!@.!,&n$:BEy:[q:?q:[M:ZEy:Ey:|7:]k:]t:lMf:MU:NU:XI:^8:PI:_v:|7.O:|S:yU:~i:PHI:?P:PSI
  :^7)NABl)|d,#$V[c|S,#$8_T)[M.O)|7 +)]t +),$G#)_v +),*:%?GDI[q%|d+#1D7CE/#r)>,:()/+#T>_9@D=&.5?x/,Z
  S;,3>%,#X=!wWv~K[6-FIx ]Y%?S +%C~g+%OVb +%]E+%.k+%@C#Z.0@E!@2$~G~dh@8#&]Z_oKNUCKm(CUPPED(]F(]F ^L@
  S!]ZHIqE@h%^a@h#@2&b.0)@b&S)]F(~g^b@c%bUP(^b?b)?b,#4#:^b+:,#,$:]F)?hED@r)@p!.K]Y&]Z@,!^a(^b~F,#9.|
  n ~G.0).0 ~G|n)@1#]F SPuAD@7!R,#L% +<?b,#Q$~g@<#@,!@K&[k)~G,#U%?SD:]H,#_#&~G.1,#5%&@*!?b@z#;|R ?b<
  .0&^b~G]H[D]ZUP&]Z@1$^b+(@P#]F@S#)?h[D@,#@f#[k,$k#[D@/!@h#@3!@j(@3$@l#@A#?SD ]Z+;]F@A#.jD _K,%l#:
  k +)?SD,%y&~G,#A#:@G$@*!&^b@V(]ZUP<?hED:,#~/]F,hQ#[m[e([e ,%b#),&n$SPoT%ClW@A# ?b%FIx@0& .0%]E@1%@
  h$f [e,&C$&HgL@4,@0* [m.0@E#@90@J,@H3@F(,(()%C~g@8*)@>$_C%]E,+]#@f+,#t0 ]F:,&m%;^q~F%,kW&.1 PbM FA
  CIqS&HgL&@H!@,! @,#~G.0([k&SPoT ]Z@8!(?K(?K@C#:|R .0(^F%ClW@&!@Y$^q~F&,$(#]H ?jICUE%]H%C~g_C%CUP@
  .#D@O#@(#_D@V!@[$_D@^!@d$@a$ _C%@k%?S%OVb@&!,#61E_C@b%%,.q#]E|c&,#27@5#.RUCH]c]Y(.1 ^bvq%.j,.*%@2#
  ?S,0Q*]E^F@A(_z.0:?b%]E,/#%F [A([BvPPm |n:CURVED)OTHhS ?SD(UP&,1(#@N!UP%?S@,$,1_%.k@m(,1B(.0(TOU?M
  S ~F(~F,#8+]Z@4%.k@2$G@&!_K;~F@G(Y,$4+,0S)^F@<(&vq%.k@9$@D(?h ^,1/*_z[A%]E_z[B,,X$ ^a%.k@4!,/v#Z?h
  @L%UP(,$1(@h%,$S/_z^a,0:#,3<)(]Y,$Q#H,2G(_z@c%,(c%@7% r%]H@0&_K:k:~dh%C~g@7#,%+&@D()^F,3b%,$5#^a@2
  %UP,4#+,$$(,3/$%]H ^b~@_&~G^F(^F(,#a1^b,#a%C~g^b,#L*^b,#n()@X#@O&.0%ClW@2&?b:?b ,#=#@7) _K;k,)n$]Z
  ],&X&,#f$E+@3* ~G?t;?b;.0:]Z+:BO|4+:,7R$)[k ]Z|n;.0)]H),$$$)?m~G]e,#O#@o)?m,*R#)?S,%g$~F(~G,0Y$)]4
  (@3#|c%.k,)v$)k(,%8%,,P#HgL(|R ?t)?b),0.#(,6A$a)^bvq)_z^F(~dh ~Z[e(_M+@1$E+)[m+(_M[m,(v(@|!@&! HgL
  $TOUCH |W%^i%.1$GtSP@2)xvKE@2)BR~k@2)RUB@1)SUR[W.OS@0#QUgZE ]4@C!|d+%]4 ^i@.#SEQU[KIb$FL]S@F=@l&@
  M#.g$^h-]E~g[B]4)|c(@K&&[B+&@;!.g ]4:|c&|R.R |R/0XT(%~s[d ,fK$[g+%~s|W |n |c)^VIUM)]4)]4x(Wvx FmX&
  ?9|n@1&(.g(.g @?(h&~T|n ^h@E7B[J |c(,###(]4&?f@3+(_2&?N@E,.8@3,~9@2+PEAKS@D+$TtVEL-~s_2-~s|W)?8).g
  ([g@/&&Sj]z&dM/+?c$ @;$TvPm$^h-?t AWAY@w+(]4x&TO~u@80.1@P#,%D1@P!@8/%[g,%rp ^h),%r*,%f/&?N,%UV[g_2
  -,%J)(~s,%U,$^h-~s?m_l,$?1[3-?@x!:@:#:]4:@:!~D-_l @=#;@=#&HUMP,#h,^K@3+(|d?8&/.Od$m?9@v*)~T@2*&?mT
  H[H|n&/#Wk$?h,#a($,(l%&?8&bThNeE,$,$,(j#?mHIT~KFRrT WbL,#]$+&^K +,#C$+@e& +&?9+&.g +@f$@a%?Mx@ZL@
  C#?t s|4,$5*%[g@u%CEIL]c|c:]4,#!$@:+d?8:]4 +:|dTvPm@0#&^K@H.|W@H$@R%,#b&,#*0$,(K%@=(oq,#z,,#a(FLOO
  R ,#a*@:*,#a)~T,#c$;,#c%@J+,#c8@H+,#c,@=*,#c1,.4/(?XBkED,)d&,&L*SNAKE(|c(,##&,(v$.g@p$SjK]c_Q%~sd
  M ?S,#t#)^X+)|d?8@,!%[g@>#,#Z$WbL@G#;^X+,$Z#;@L!@2(%~sWvx@R!,)g#|W:?8%[gWvx@h.W;?8,3j$?SS |W)@K#@
  3#@K0$DYNAM]P.r[8 |c&]4%FAx%S^L%|2SE%ulXED%SIMULTcEOUS@0)~j.g%E~nOTHh/#3%$GtDUb$[8$[8 vM%,*N#|n(TI
  LT&[g|n&~s,AT#&[g+%^h ?S$[W/2Jx%//F>%NO|C[k @W!Iq)UP.J[A;[B@4$$EYEBROWS |n UP&^n&[A$DuAMY @?(^n [A
  &[B^n&~g+&^@N!$FOu[8 ^n,yD%WRkKmD@u!S _C%,8($D,xB$@;# BLkK |W&^i@J$[4_C/+,$$+%[4@M$@4#N]c^h@W#WkK@
  +!l|KS UP%[A%FLUTTEvq@;!GAZE,%.#&|n ?8(.g%[g@2+,%;%D,8e%CIRCoq$CHgKS PUFFED%^n%SUCKED$|2|C@?$HIGH&
  ^a&^L$EdS$NO|C,$^.S%WIGGmS$AIR B^L]c_K@m#]ck%B^M|d_2S@5# +$BuA|4kjm%EXjm$^g ?V^n&[k&@w$SMIm@(# ,%c
  $&_C%FROWN@)$@:*_D?S@]!@6%OVb@&!@E%(zWN&uCT.j@)#k@:)%KISS@(# @c(,*L$|2|C[k&,$x%oPS P/2HC%GiHh$oP ^
  N_MUPPh%~h_M^Lh$/.*K$,%#% ,.W#$~N x]S]c_K Fd%L@/!oPS%TIP .1 oPS&TO,JA$e ^g%@)# ,+s$MOVES AGAkx CHg
  K%?K@r&&@L#$TEiH$Tg|4^h%r ~N&~N ^h&oPS@&! ^h%BITE oPS,4[$JAW%[g+$NECK$jIR$EXCITE^Z$S]LLDh HIP SPkE
  &/#(8$S$~s@>*MOVE$[g+@R&TIL/&QA$.SIx$~PSO,*4# xRiCH,7d%B[J%[gTWIxIq$~hBODY@])@~#]sTS$oMB ?XBk.u%mq
  TH/#.i&$[d$LOC.u-~s|j%[g+@3$ H[E%WIDTH%DEPTH%[8 NECK%~PSO%oMBS DIGITS/$Jw$/*Nc)R#1DA9B$F]W MODIFIh
  /3q$&DAA1$_2@;)/%*30DF0/+Q>$/)Fc$aTR]W&_u/7c3(~WG$|e_uK@3!/)F=%$|e/)F1)@5!&_uEq/)F!%/)Ez%Ta]H@,!$n
  /)Dl($|e[Sa?8.D:Bd.C/7am$a?j/7oz$ +/7_~(a?j%,#I$K$|eL/7^1$/)Hy&/+|X$,#U#.C@0#Eq@8$~WR@,$R@V$@C%T[S
  @[(EZHa_O@s+r&I.T,$&#Oa_r@Q(r&C@(!Sa?j"

end SchemaCompiler.Pattern
