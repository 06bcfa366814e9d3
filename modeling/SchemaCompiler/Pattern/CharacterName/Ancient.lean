/-!
# Names of ancient letters

Rows of names in the order of the characters. `Pattern.numberedNames` tells how they are read.
-/

namespace SchemaCompiler.Pattern

/-- The rows of names for ancient and historic scripts. -/
def ancientNames : String :=
  "#10000!@_!B |uB008 A&B038 E&B028 I&B061 O&B010 U&B.U f&B045 D@G!07 DI@A!4 D@I!51 DU@+!7 JA@L!6 JE
  ,#4#D&B036 JO@x!5 J@J!77.G@I!4 KE@;!7 KI@;!0 K@K!81 KU@+!0 p&B013 ME@C!3 MI@4!5 M@K!23 M@K!06 NA@4
  !4 N@L!30 N@L!52 NO@+!5 N@L#3 s@m!2 P@K#9 P@u#1.M@J!0 PU@3!6 QA@K!8 QE@~!1 QI@S!2 QO#10028&B060 t@
  A!7 u@b!3 v&B002 RO@:!6 RU@W!1.N@;!9 S@p!41 S@p!12 SO@Z!8 SU@+!9 y@K!4 TE@Z!7 TI@4!5.R&B069 T@J#4.
  S&B075 W@s#0 WI@+!2 W,#f#3C&B017 ZA@J!4 ZE@:#F&B020 ZO@+!5 A2@X!3 A3&B085 AU@R!1 D@|#90 DWO@F!8 NW
  A@W!9 PU@X!62 PTE@Q!6 t@5!33 t3@=!8 RO@F#6 y2@~!7 T@t$1 ~Y#10050%|vB018=@x!@c#4&B047@(!9&B056@f!3@
  C!79@i!2=@)!6@(!9@h!80%/#2x$M B100 Mc&B102 WO@.$4 DEh@,!5 EQUID@/#F pu@,#M xbor@/!6F EWE@.#M tM@,!
  7F |K-GOe@1#M HE-+@/!8F SOW@.#M BOd@.!9F C@8$9M B~b&B120 WHEe@.!1.DmY@,!2 OL]q@.!3 SP]R@.!5 CYPhUS
  %Mr,$=%27.GPO@@!8 KcAKO,$Y*30 OIL&B131 WkE@,!2@_)33 Aus@9!5 MEv@]*40 BRrZ@U!41 G^5@,!2@(!5 WOOL@.!
  6&B150@(!1 ]K@+!2==,#))56 ~VO2@|*57=@J!9 CLOTH&B160=@)!2 Gd^Z@.!3 dMOUR@/!4,KO%@F!73 Mr@V#74@(!6 T
  Rg@,!7@I*89@)!91 HELMi&B220 F_BxOOL@1!5 BeHTUB&B230 SPEd@.!1 .r@+!2@(!3 SWORD@/!4@(!6&B240 WHgL[DC
  jvOT@5!1 @/(2@/$ FtME@4!3@P#@.!5,%&)247 DIPTE,%()248=&B251=@*#4 DdT@,!5,$A#V[TEL B155(B200//o+3(B2
  21@)#6@2$50(B305#10100!AEGEc /&!v$E&?3$?N.H@@#7$^z,>N:%/,]_B_A]M/%O_+/*AC%Y/*AH%%[E +%^p/*@c%@NF|3
  +/%GxH,#R# +#10137$W[E BA|CUNIT/%Q,$|p@0!/%Q22$DRY MEASUu @M*$oQUID +$@?%|D@=%@c%![zACROPHr]PeT]P
  /#s5%(DtCHp&[f&[a&[f ]M(~C&[a +@2!Tb[KS&|3+@6$_A]M@8$/*C1)@M$+(xeh@N0xeh@M,@C)|3MNAS%HEtEUM _APLiH
  Rr%|5SP]OrE%HhMIr]O+%EPIfUuc ~Y@A%+%CYuNA]P~Z,$0#S@G(+%TROEZEN]O[f&|2&|3.f[i@r&|2%M[T@B!+@q&&~A@X*
  a&[a @V+[a@M(/.^a$E,#^)[f,#=&@x,%CdYx@+!NAX@;)_A~C&@V#DELPH]P[f ,$x#xRe]O[a +$_A[4w&w,#M#$/*IQ% w/
  )EN(YEd w$Tb,G]#/*VG%$OBOL +$~Z@,!S w/)YM.MiRiE@:!Kz~BS,)x#w$oTt w$OUNKIA +$XExES +$dyBE@*!OUt +$G
  tMp +$TRYBor@^%~8 w/)Ff$w$SkUSOID w$kDIC~L +!NOMISp w#10190/*Hj$S[VcS w$UNC,#:#SEM@/([VUl +$DIMIDI
  A @4$w$SIoQUA w$DENAv~j+$QUk@,$SExhTI@.!DUPrD@.#AS +$C[KUvb +!ASCIA.O#101A0![z|vyU _v@4!D0!PjIxO
  S DISC w/*@O$vc&PLUM[D[8&TeTOO[D+&CAPT]q&?PLD&,9J#,46$GAUNTLi&TIAt&.r&.7&|MELD&CLUB&McACmS&MeT^4&S
  AW&oD&BOOMEtq&CdP[KRY PLcE&DOoUM&?XB&Soq&COLUMN&BgH]q&|MP&]K&HIDE&B~bS mG&Ce&tM&EAGm&DOVE&TUNNY&Bg
  &@s!,6>#VkE&sPYRUS&ROSiTE&oLY&OX .w&FLUTE&GReh&xtkh&|dAXE&~wBcD&?Y^3|o#10280!LYC]OnA%E%B%BH%G%D%I%
  W%Z%TH%J%K%Q%L%M%N%MM%NN%U%P%KK%R%S%T%TT/%fg$H%X@s!A0!Cd@r#P2%D%L%UUU%R%LD%A2%Q%B%M%O%D2%T%SH%SH2%
  S%C-18%U%NN%X%N%TT2%P%SS//Oh$@d!K%K2%ND%UU%G%G2%x%x2%q%II%C-39%TT@K!2%RR%MB%MB2==%LD2%E2@<!3#102E0
  /&Q_%EsCT ~CS.H%/)_kA&~X&~A&[j&[a&|YT@C!TY&[EY&NkiY,/|#/.uI([m+,2J$|Y@(!I +&[E +&^p,5=#300!^6]onA&
  BE&KE&DE&E&VE&ZE&HE&|5&/0QX.[S/&?H$|K&KU/0Qc+KS&PHE&KHE&EF&hS&?M&II&UU&[T%^0rE&,2]$[a#1032D%nYE&/+
  c2%TSE&/+cF%+!/$7B$nAHSA%BAIRKc%GIBA%fGS%AIHVUS%QAIRTHt%IUJA%jGL%|8UTH%EIS%KUSp%lGUS%McNA%NAUTHS%J
  h%URUS%s@]#,9f$tIf%SAUIL%TEIWS%WkJA%FAIHU%IGGWS%HWAIR%OTHb%^p ]M#10350!^6PhM]Pnc&?C&GAI&DOI&E&ZHOI
  &D@)#ZAy&DZIy&I&KOKE&mI&MENOE&N@)#VOOI&PgI&uI&SII&yI&U&CHhY&|@>!SH?QOI&YRY&YhU&O&OO/0Ue&IU&Vh&Yh/&
  [~%&I/0UY&A!?Y,#g((DOI(ZAy(,#<#(SII#10380!UGAvT]Pnbs%BEy%GAMl%Kj%?q%HO%WO%ZEy%HOy/0$@&KAF%|N%lMf%M
  EM%DHb%^1%ZU%SAMKA%Ak%PU%_7E%QOs%tSj%THcNA%[u%TO%I%U%SSU#1039F$~2?,%X$S]O/,0U%,UP#U&GA&GU&XA&CA&JA
  &JI&y&TU&f&DI&DU&Tj&s&BA&FA,UT#U,U=(z&VA&VI&t&RU&l&SA&ZA/.P0%j#103C8&AUtpZfA@+&-2@.&j&XSjAz|8z&fHz
  A~k@*%-2&BAGA&BUUM]m%~2?0%^z,.K$,.4$,(x#400!DEShi ?H^II(E(A(AH(O(OO&|P@4.AY&OW&WU&Yg&H&Pg&Bg&Tg&Dg
  &CHg&Jg&KAY&GAY&EF&Vg&iH&THg&ES&Zg&[S&ZHg&h,.;)Eq&OI&EW$|e,#F<,#F~!SjV]OnPg/%9U$K]S%Fg%|8GH/,zD$u%
  /)=G$%YEA%HUq%BIB%DEAD%GAG%VOW%|5Y%ZOO%,AS$%JUDGE%WOE%j-j%LOLL%MIME%IF%EGG%.s%ADO%r%WOOL%_K%AH%ROd
  %^1%Ee%AGE%]R%UP%OAK%OOZE%OIL%AWE%Au%OR%AIR%hR%dtY%Ed%Ic%YEW!OSMcz n.a%BA//bO$XA%Kj%DgL%t%SA%|Mk%D
  j%CAYN%GA%FA%QAAF//_$%c%MIk%NUUN%~x%j%z%/,C[)AA%g%OO#104A/,FpA04B0!OSAGE ?HA&AI&Ak&AH&Bt&Cj&EH@(!&
  Ek&j&Hz,48%HKA&Kz&l&p&NA&O&Ok&s&EHs/$25%y&EHy&~U&EH/$9s&j&U&W/$2_$j&ZA&Zj#104D8$|e,#@3,#@~500!ELBA
  Sc nA%BE%CE%?M/$_)&DHE%EI%E%FE%GE%GJE%HE%I%JE%KE%m%Lm/$^y&A%NJE%O%PE%QE%u%Ru/$_i$/$a0%U%VE%XE%Y/$_
  y&G@&!jMp%KHE#10530!CAUCAS]ObBc]OnbT&Bi&GIM&De&EB&ZdL&EYN&ZHIL&yS&Cj&YOWD&Zj&IRB&Sj&Lc&kz&X@I!DYc&
  Cd&JHOX&Kd&LYIT&HEYT&QAY&AOR&?QY&?P&CzY&pQ&Qd&NOWC&DZzY&SjK&JAYN&r&TzY&FAM&DZAY&CHe&_U&GHEYS&Re&SE
  YK&VEYZ&TIWR&|OY&IWN&CzW&C@e!zYD/0Ro%IW#1056F%CIT.u.H!VITHKUQI,)~#BBE&BE&CE&?M&DE&DHE&EI&E&FE&GA@_
  !7C/$(%$I&IJE&JE&KA&l&Ll&ME,gW#JE,;M$QA&u@T!8C&S,;[#T,;~#U&VE&XE@>!94&Y&Z@/$7$|e,#KDA3,#KNB3,#K8BB
  ,#K&6,dE%A w AB.U,R[)&AB013@)#6@1#20@*$1F@*$M@*#2@)$F@*$@8$3@)$@1$4@)#6@w!028B@2#9=@q#34@)#7,#<&44
  ,#I*53=@2*65@+%9@*#73@*$6@F)8@F#100-102&AB118@)!20&A120B@0#2=@*!31A@*$B&A131C@1!64@)!71@)!80@)#@e#
  91&A301,#W(309A@)#B@)#C&A310@=#13A@)#B@)#@=#4/0I,Y&A400-VAS@,!1-+@*!2@*$3@*$4@*$5@*$6@*$7@*$8@*$9@
  *#10@*$1@*$2@*$3@*$4@*$5@*$6@*$7@*$@l#5,$t%@.!8@.&15@)!20@)#3,$**534@1*45@(!7=@E+59&A563@1$68,$u75
  91@)#4@1$8&A600@?$606@(!8@Y2626@+$34@(!7@/!40@(!2@E%48@)!51@^,#107@K!701 A@*!2 B@*!3 D@*!4 E@*!5 F
  @*!6 H@*!7 J@*!8 K@*!9 L@*#-2 L2(3 L3(4 L4(6 L6&A710 W@*!1 X@*!2 Y@*!3 ^7@+!4 ABB@,!5 @+$7 DD&A72
  6 EYY@O!32,m~$760&A800,$.*80!^e/+v^$A%/+2b%S?W&/15o%|dAE&?GB&Ba]H@T#7/19!$(?ya_r:?j/19:$?y/1>c&)/+
  p(%_uE/1>J&/198%/1>6&?GG&G/18L$@*#H.T&?GH&HEqa]H/1<X*LS@Z!LZ +/$WS%?G@+$/$Y~(&mZH@&!a_r&~WY(Y@C#O@
  w#OE&?V^7&Q/$*;$I/$+j%_r&Ra/1>6(?GR/1;1)TS,$O(&T[@1!&T@0!Va_y+#107B2&?GY%/1<;*/1=5,/1;M$/1L@3@B!a_
  r%|dSa?j#10800!CYPvOT |u,>()JA@@#8%JO@,#/%(;$E%K/.77$U/.?m+/.?j1/.?b,s%PE%P/.;($U%t%u%v%RO%RU%SA/.
  ?^,y%TE%T/.:!$U/.>y*,#N#37%XA%XE@0#C%ZA@,#F%ZO!IMPEvb Atp]PnAmPH&BiH&GIMEL&DbiH&HE&~x&ZAYk&HiH&TiH
  &YODH&KAPH&l^VH&MEM&^1&/#qg$&@M!PE&_7HE&QOPH&R[S&|N&yW#10857%|E w,Gj(~D,Gm%_A,br$|3+!PbMYuNE nAm/0
  6]$/0N#)H/06G(Y/06H)YODH/065%^VH/0Mw8/06.(OPH/0Ml(W/)PP$FmURr$_x-+,hA1,h5$!NABAyEc n[c,#e#@(#[cBi
  ,#p1[cHE,#u4[cYOD,#~%[cKAP,$)%[cl^V,$1$/0P1$,$7I[c|N%|N%,%~$A,jO/$CRUCI[i ^z[l$^z,$A&,j6#@U!E0!HeR
  c,&/5-R[S,$;)N,&3;,#t,N,#t,#108F4,#q)FB,#q$,#W,!PHOENIC]OnbF%Bi%GAML%DELT%HE%WAU%ZAI%Hi,QA+lMD,#H(
  EMK%A,%<%E/0S<$OSH,#B#U,#<#,#9*,%;$#1091F$~2|H!LYD,[X#B,]H#E%V%I%Y%K,]C%O%R%SS%T%U%F%Q%S,]A(LY%NN%
  C@p!3F$~S^S@/!80!MhOIT]PHIhOGLYPH]Pn/$8^%/,j/$BA&BA-2&s,Gd$NA-2,@Q#E-2&t&t-2&l&Kj&Hj,Gt#@B!S,A$#QA
  &y&y-2&TE&TE@+!O&f%|vVIDJ&@(!-2$CURS]q ,#>0,#9(E&t,#*+.qSA,#*+TE@|##109BC%[n[F TWELFTHS&_A[3%/$Hg&
  RMT&IMN%^z,^?:&,^=8#109D2,^:H,mv%@NC,n@%~X +&~A@<!j ,nO&YT@R$@*#,qY#,_j#,o2&,#,G%[n_A,%1%&~Z@.%S,#
  gE!KHdOSH|8 n/$Zl)~qR#10A05&E&O@.#C%]9^S$w /1Bh$//T0$/,hY,@K!15/$d:(@3#9/$d=dZA%j%KKA%T@k!TTy%V,#
  8#38$w.D.A%CAUf%?3.E@:#F$~o/.W6./.W%&//QB,[3@R!50$_j ?3%|d?S%?S%?g.D%pqAlM%LOTUS/$Pu*^ES@W!60!^6|i
  AtB]OnHE(l^VH(HiH(MEM(QOPH(~x(|N(R[S(BiH(yW(Se(KAPH(^1(K@N!_7HE(,1Q$(FE(.a(AYN(DjDHE(,2I#(DbiH(GjY
  N(TiH(Z@C#H@8!YODH(TjW(THiH&^zrE([a&NUMh]P]a$^s|4,#i&H(lM(jH(MgM(QAF(~x(ES-2(uH(BEH(TEH@4!1(KAF(^r
  (KjH(_7@7!3(FEH,#e#k(fD(GgM(Db([u(yH(ZAk(THb(~3(|5@3!,#R%|2(~X#10AC0!McICjE,4r+BH,4w(GH,90/$w UD$n
  ,7>#ZjYk%JA@(!j,9E5X@(!Kj,5@&Dj@)!Tj,5L4k%A,7H%F,7K+X@(!QH,9k*S,9o$.V^S.A&.z#10AE,5m4$_j xd%,::#%?
  9/01Z% ?3%?@/*3%~Z?6%^E [b#10B00!AVExc /$n$$AO%AAO%c%Ac%AE%Ag%E%g%O%OO/$nA*KE%XE/(.p$V,Vq$@&!/%:&&
  ,VI%,W>%TTE,$[%B/%;?$qE%qYE%qV/%:4(NNE%ME%HME%YYE%YE%VE%u%m/&]!%|K,W1#SHYE%S|K%,W0#B39,%2#!TkY /()
  )*|d+!]4 +$/()3($~ZvqS.K_A_z@;!vq.K@7# +!k/&k6$b PdTH]O,@g&,@g~B58,5Y.,@e.$sHlVI ,#U:-AYk-R[S,#^@-
  QOPH,#d),#_&,#U)7,#U=!PSbTh ,#[O,#WV99%|E.H%~W@*#[m?6a?h)?3@A!A9,#v9#10C,sL#~VK]PnORKHr A&YENISE
  I A(AE&@9$I@9(I(@8&O(OE@;(+&@d%B@72E@83G@K3@83D@K3D(EZ@;2Y@N3@84K@81O@83b@_3L(ELT(EM(c(AEN@E1[@l2E
  NC@83Y@8)(Aq@;&q@:(AE@9(P(OP(IC(E@n2AQ@71I@72O@72d@q2h(AS(AES(.s@A1[S@71e@h2i@71OT(B.s#10C80$HUqd]
  O?HA(AA(EB(AMB(EC(ENC(ECS(ED(cD(E(CLO|CE(g(EF(EG(EGY(EH/,ru$EJ(EK(AK(UNK(,&S#Y(EM(EN(ENY,pD#(NIKOL
  S?CG OE(RUDI^ZA +(Og(EP(EMP(h(|Ph(ES(ESZ(i([K(iY(ECH(U(UU@e*U@e+EV(EZ(EZS([K/(M#$w(US#10CC0%|e,$H9
  ,$H~,$H~FA%^z/##9*,2.(HcIFI /0F>%n,Fo%y&Ty&J,xS#j&Kj&FA&f&Df&t&Rt&ZA,m|$/.5<$,n@%,mq#kNA.S&z@,# z&
  qA&Nz&VA%~r/#R3(%^S.NKk&NA KHrNA%w HdBAjY&yjl&TcA&ySSI#10D3/$Y1@10E60!RUMI/*m(@/#<Sm,Bs%&_l/+[),#1
  0E80!YEZIDI nEoF/&sH%PH,;B#SE%CIM%?PM%CHHIM%Hj%XA%Db%Zb%t%Rj%ZA%JA%Sk%|N/0zT&%ZE%EYN%XHEYN/%Y)%V
  A .f[i/0z2(KjF%G,O@#/0V^&UM%~x%OW%EW%jY%YOT%i#10EAB$?Y[5^S%pDf +$]N.u.H@>!B0$nlM/&rE$YO/,@u$#10F,6
  F#SOGD,;O&[c,8E([c,8K)HE&[c,;]+,;X9[c^1(^1a~m|y,;g+.f,;m+[c@*!(@(!@N$R[S,9N#DbiH,8u$&[cyW(yW@D#,Mg
  1,MY),(I#,(!$%^B@j&#10F30!,$Q$,T|/,W0,,Tn5,Ve7,#t%,Tk$%FiH%L[S/.GW)|N$?Y/,aY)/0Jj%.W%?m.W&.z%]H.A@
  +!^I]H.@u#.E%|o ,YZ$,Cg/~Z~l.DS(BdSa?6%?Sa,CV$S@3#[4@5##10F70!^6UYGHUR,=P0-HiH,(#([c,(%6,=A2,@R)&L
  [S%?Y/0O;%&~a.W).z%_j.D&~Y.DS(?6&[m,)h#B0!?QtSM,&8&|d,^H:?j[D,&KO,^<),Zw.,Ze.FE0!ELYp]P,_qZ,_lF^B@
  m!-@e!#11000!BtHM/0@8+%/,e#2/%9O?AI/0<#+/%9J~%^6yMIL LLl(Rt(NNNA/%&U&BHeTI_gLU/%9d9/%4?)$~o/%9S),R
  *%?9?3%^E,R*#,R#$#11052/#MKf&~C//WaA,$P%~o$n@/%|PE)O,$U#@5):O@C(Ll#1107F$^z]sh!KAI|8,(6*,&~0,&pUDj
  %@&!R,&xS,$/#//[@2/%>()^y$.Vw$ENUMh.u,0]#+//3p$?9@*!,&l)@q#,YZ#10CD$^zw.A@0!D0!SOt SOMPEq nSAH&yH&
  BAH&CAH&fH&GAH&pH&qAH&lH&NAH&VAH&sH&zH&tH&jH&KAH&JAH&NzH&AH&gH&IH&UH&OH&EH&pE#110F,;AA1100!CjKp,&H
  ./%1W%//(S$jA//:2$jA%qA//%w%jA//:b$jA%NzA%TyA%TTjA//;<%@:!N/%hi$@9!fA%@7!@6!sA%PjA//Am$jA%pA%YzA%z
  A%tA%lA%WA/.~C$j,,2$,&L5&OI$O.H$AU +$~o$pAYzA#11136,*p?,&f./1:U%Lj,.G(EI$nVA@r#50!pjJcI/%4^(/%4Z.,
  00[/.?u*j%Rt$w ,)k$,#m$^BSHv#11180!Sjtf,&a*,2*=,2*~L,,33,1d9,,?0.v,4F4OM,&N),$s$H/0U>&,%.$~r^e^S$[
  Vt |P~r^S$SUTt.H/0^50$/0b;$,(j?EKAM/0Az*8|o$CrTkU.u ,&>$-1=#111E/07G%.q/#JNg(~C#11200!KHOJKI ,(1&,
  236,&~3JA@g!13,()>D,(.1,2>0,73&,(+,,28..m%,2;#%|Jf,1z+2|H,2<,.Vw/0RC&#11280!MULT,,=*,$H(@C#8%Gj@,#
  ,$M28F,$M/,*W>@X#9F,$O4Rt%Rj,#u#@H!B0!KHUfWADI ,,G.,&@I,,C5f%Rt,,J?,6Z3/%Ey&.m,6]>^y%~o#112F/#@mA1
  300!GRcTj /0E50@B#/0VD8@@!/0_X%@/!/0_Zg@o!2,0G2@;!/0VM%@/!/0VO0@8#B!?YBkDU.E,$C%/0Id?@Y!/0_z%@/!/0
  _~,@5!50$OM@,#/0Rr(@2#D$w PLUy/0HK(&?9.m/0DO3@R!66!?Y,#]$,9:4@G!70%nA/%TO%VI&s#11400!NEWA ,4VUq,6T
  1NYj,4^@Nj,&=.Mj%z,O~$l%Lj%W,4hY,E7(,&U#%[c.m$OM$SIDDHI,0)*?Z/%V_&.Vw,45??9?Z$/%_U&,.f#45D$/,G?$w,
  5W&,&j(/..^5@X!80!TIRHUy cJI,8h;,8h~,8eO|P,&#%|P,&(#,:x),3z%.v$GVAq$.Vw,+($4D,/hB580!,8!$ ,$~c,$~
  ~#115B8,)z$,$u6,$:#,;^+|H ?3%Bd$/%F1&-1==/1W3(,77$aTvD[K.CU,^N$_IS:?7?gS(tYS +;?9?gS;~T+&?9vq(vqat
  YS&~1@<#(~T+(_k+(SEPTUPm +(?SS.CtYS:~Z/(cj&S:[m+$n~D-?S .fI%~Y-+)II%.fU,$e#.fU(UU#11600!MODI,&OM,N
  @~,/NJ,&N(dDjCcDt,@./w HUVA#1165,*QB66/.x<.a_I$_1@/#$?9@7(~T+$@1$?9+@E&a+(?9_I$]j@3#%@9$@7#SWIRL @
  ;+_I@Q$~W@@$@Q)#11680!yKv,;D6,&F~,=#&,%u&,MqDn.qKj$.Vw#116C,&(B700!AHOM//(Z&qA%,#n#.fy,#g(p/1?M%Tj
  %t/&Cs$Nz%j%A,$7$GA%.f,$r$Bj%Jj%.f,?F#71D/0/X%l(t(oGA~Kt,KZ%,$:0W/%YF$,E5#K]Wh@d!30/0YZD~X$w |d|E%
  |E%RUlI$|vVI$nCA,&=2,<*$800!DOGt,(>?,,b~Rt,,b8,,[6^y,(@%8A0!WAtq CITI ?HqAA(A(WI(YU(z(YO(II(U/$AD$
  Aq(GA(KO,nj#YUJ(UC(ENN(ODD(TTE(NUq(f(e(AM(BU(PU(HIYO(HOL@(!RR(Hd(SSUU(SII(VIYO%|e,#;2,#;~?x&,J]_#1
  18FF%OM!D]qS A]2U n,*;0#11909&O@+#C&/0?B7@B!15/%Y8$@0#8/0?FFz&Y/%cT$VA/0?1+Ll&ZA%~rw/.l7&,rn$,#Z#3
  7(AI(O@/#B%w .m&?F&Hbcy%~o%PuFIX[DNASb w%^Wz%]dt%^W+%w ^y/#4V%,?+$%,8.(@r!5,WxB9A0!NcDkAGAv,6x7@J#
  A,,;2,c<~Rt,;Q;9DA,,D6.v%,Qf*,RU0#11A00!ZcABAZd |ln,&U$I(UE(,+:#E(O(/%_L$_uI&]9^S/0ES9/0EO_/0EL),)
  B4K|m%[c?c^S%w ~o&?F&?Fa_I&?E+&.m&~p%CLUxh-]dnt&[cnz)t)l)VA%]d[8.H%/(vc%%^TT|KG&/&#O%&^I/0Ca%?8-Lk
  [D@P,|p]sh#11A50!SOYOMBO/#>b&/%eF)&OE,4c#,&U$L%]9^S//)1</0LzY/0Ls),)<5K|,Fd6$,%7)(l(Sj(SA$[c?cw G(
  K(q(D(N(B(M(R(L(SH(S(-A,9d([s^S$,%##$,%W$%|J%?9|J%,Lr#[8.HaMOr.CSUN.C~TFlME<@(!:SUN$ThMkb,Xj%/.t8$
  DNeTIoK //X(3SHv@&!I&SHRO@(#@)!t@&!A%SPE%SPI%SPO%Ss!sU Ck jU ns(KA(l(p(f(ZA(VA(qA(j,42#j(SA(BA(CA(
  y(Tj(NA(Pj(t(FA(Cj(/2c])UA(IA([cP)K)T)M)N)L)W)q)Y&_0~M^H(TrE&,Jq# [v@8$IFkb)Fkb@;( Fkb(@Q&(@F+MID-
  mVEL @l![v VAvcT@:)@O%:@O!^L-[Y@k!)@P$@5$@F+,#6$#11C00!BjIKSUK,DS:@L#,1ZH,L(~,#U#3,I+:.v,[v/,Or%,)
  P$C,DX@,pva$]MS UNIT,5z#C70!MdCH[H[8.H$^T|J,/1)/.jS6,%;*,.l,/0We2,C](A#11C92/.jM%/&57a@s#A9/&590,&
  W(,1^$,/8$?F#11D00!pSAtM GrDI,;Y5D08,&w#@/#B&AU&,5N8Jj,5QP,;W7K|m&J@q!t,;a2,qz$D3A(E@+#C,;k&D3F(AU
  ,;n$~p&^y&CcDt,;v(uPj%t-KAt@O!,;HCD60!GUNJAl,%:5@F#,].(D6A,].#/$,1$,$U&,%H$,$w$l,%O#,%$&,%T%,%K&Ll
  ,%_#,%T(q,%F%j&t&S,>_0,#I$90(g(AI@/#3(OO,$s(,,^$OM@>!A,$^BEE0!pKASd/&35(/&3.&/&3<%/&35(,f^,A$AqKA/
  /37+$sSSIMBAq//32%#11FB/&ly%Yj@2!C0!,ys#[n_A~D/1(6%/1&u&/1(G0[EIiH,CW#-[lT/1(W(&~A-|D/1(^(@E(/1(j,
  /&?H$-1=&T[K@q!/1(x+@B$/1)%)&_l&[3-1=/1(5%[ASCb]c/,II$KIIZH$w NEL%CEVITU%AAZjAKKU%UZj@*!MUUV@/%]2U
  NI%Pe@<%K@4$KAACU%PcAM%Pr%VAtAKc%sAtM%KUZHI%VEo$Wi CULTIV,on#DRY +$L.iw$SbT Pc w$TtDI~Lb /19n%%^z+
  $/,6e%w$.iODD w$SP@3#TOTb +$k/(Y.& w$xd~K/*im$$w MUTjoz%VAKAIztA#11FFF$_j ,D^%"

end SchemaCompiler.Pattern
