/-!
# Names of script components

Rows of names in the order of the characters. `Pattern.numberedNames` tells how they are read.
-/

namespace SchemaCompiler.Pattern

/-- The rows of names for the components of Tangut, and scripts of Africa and eastern Asia. -/
def componentNames : String :=
  "#16800/)+X&PjSE-A qKUE MFr(GBIg Fr(Pr@3! PIsEM@8!:@.#BA(NAA@M#|QEN|Qi(TIy@4#NZA +(|Nf s NJI(Pr@,$
  @i);@i&pEMB@5!(TU p@6#qAqU@;!VEUX(McSUAE(@1!AEqAM(SEUNzM(NTOQ_U(KEUKEUTNf(NKkDI(SUU(qKUENZEUM(lsQ(
  Li KUT(NyP MFAA(pEKEUP(sSjE(GH@~!tE(sM@3!Mr qGEUAi(NZUN MEUT(U YUQ NA@Q&@)$@u#NyA(SISA(MGBA@*!EUNJ
  OMNDEUQ(MOOMPUQ(KAFA(s LgtEWA(Nf +(Pi(pEMK_U(NIKA(PUP(TUAEP(L@)#SrJAM(TEUTEUWEN(pE^2(Ki(NfA,#m%KUO
  ,#.#,#p#|QM(LOMpE(FIv(ROM(KPOQ(SOQ(pP PIEi(|Mt,$&#(|OQ N|QT YUM(^2T MOqKEUAEQ(sA@H!KA@*!UNKNOWN(qG
  ,#L#SI(NJAM(MBA^2(NYi(T@X!N(SOT(sAM(N|Mg(pE@y!(KAQ(NSj(Vg(LU(NEN(NAQ@a!Q&B N|Qi,(Y%,(f#S@&!i TU(LO
  M NTEUM@O! pELg(KIgM(YEUtE(MB,#g#KAM(Pg|M(zFU,%s&]3,$G#,),$Ig |,%<#NDU NJAA,($#,(!$M(PIT(TU N,#C#H
  i@E!Q(|KUAEQTU(MFr T,%*$MBIT MBAAKi(^2,#g%KEUPUQ@w&N@4!YEUX(lcAE(PdUM(V@K!qKkDI MVOP(qGEU MBU(WUAi
  (SAK,)T#yAM(MEUQ(qGUOQ@)$ ]4(MFIzQ(SUE(MBEUv(MrTIgN(NzEpE(PUqA@]$T qGEi(F,,1#B@h!Fg(K,$W$p NJ@.!NA
  )NJUQA(Li(qG@^!NSEN(p(KIQ(qOM&C,/J#,.,%NZA(YUM(WAqKUOQ,(i$NDEUAhg(qKAQ(Gj,&L#gKEi(GBAYI(^2R MKst
  Q MEUN(NTU MBIT,$1#M(PIvg@i!OMBU,(,# CABBAGE-TR,#~#|K,+V#GjP@2!KAQ(YU MUOpE(NZ,(x$UE(NS,*)$,#%#YEU
  Q(KstQ(KAA(SEUX(NDIf(yASjE(NJUEQ,17#YUE(SUAi(qGUA[HNzM(V@Q#cScAQ(p K@|!v(NyA@G!r(lP(MBIvgN,/.%Q(NT
  EUqBA,.A%X@K!M(FUE,%4#T(NSA(NSjQ(BUq(V@t!_U(MBEtE(RU(NJAEM(lM(TI,/<$NSUOT qOM(NJgg(Ki@v!,,m$MBU@Q!
  LU(KUT,,|$@L!WUP@H!Ei(NS@[!|2(KUOP ,.]$@w!N(NfM(p,+7$zA(NfP(|QEQ(SiFr(MBI(,(L#,.r%KEUS,)I$@)!K,,~%
  A P]Si(YUWOQ(NJ@E#Ig(MUAE(|MQ(K[HlW)FeIGUE(qAQ,//#oQ(Pk(_U(Ti&D MBUO(WAP(NJI(MFr@+!g(og(NJ,%H$Hg,*
  C#pE(NzM(W,(?#qKUN(@>#KAP,+$#iMEUN,&6#,.L$(NJAP,+x#Ki(zEMpE(KUOM(SAP(MF@K!ND,$##bgv(M@4!S,.x$YEN(,
  +p$,.o#OT MB@v!qKEUv(TU(GjA(qKYg(FEUF,5F$Dg(MGBOFUM(m,&z$Dr(MrI@:!EUN(PUUT(,1i$MFO(LUM(NSIgP,%d#(K
  WAi,2v/,%s$,&/$tEM(Tgg(,3r&MF@+!@g!Ei(,76#PIP(PEUyE(NYUE,.q)MFIg(qGW@|!YUOM(sP@+!P,(l#,1J$S@q!KUN(
  qG,*k#K,9E#OT(,%p#KUQ(NSUM(T@2!pENJ,#&#P(mUM(qGU,)u#QT,,O%GHE@t$(R[H^5(yE(TOQ(^2(vI(Lgg(M@&!,9a#MU
  (|MI(|KUX(KYg(NU(|Q(NTg(Pg(NI(|OQ(PUQ(,2g#LOQ@x!MUCH(TI(NTU,/z%|I(SAQ(FAA&E NfP(TOr,0N%lP(VOM(LOr(
  sA(SOM(tQ(N|QOP(NDUN(P,3Q#M(qKA(KPEUX(WUO(Sg(,8x$,7A#TOO(KU,#N#,7N%qOP(pE@Z!@V!qO@y#E(vMGBA,+m%PgM
  (SA,0%#tE(@=#GH@R#,3m$,/C$o(pP(L_B(qGgg(NDIQ(y[H,&[%i(PUM(NfA SOFTN[T@s!AESjE,7Q#YIg@y#N,;D#(YE@)!
  PO(TUpE(K@2#S,)d#,78%V@7#W,6o#AM(PU(y,4C#ApE(qEUu,,G&Q(MGB,35#g(NZAQ(NKOM(GBi(TUM(KUi(zP(^2 CmAVh(
  YIT,*M#Q(NDIAQ(PIgQ(YUEQ,+p#,2M$GB,$q$UP(Ki(pE(qKAAMI(GHi(FA(NTUM(PEU,4L#M,&B$E(^2 .1(NZUQ(POr,0a#
  FUi(NAE(MU,?9((FU I(MVI(PUAQ(qKUM,2d#PIi,=J#YE,4u%P(s PEOPm@V!CbL(F,3P$(A,*b#O(I(lQ@H!LURb(yA(yQ,&
  C#MY ]LS,2&$Y,$=#,&5#U,,c#OQ SWIMMIq)C_L(YUQ(YUN(K@L!P@(!NJg EPOCH(PUE(WUE(Fg,=u%MI(uUX(tE(q,#r#A(
  |O,+]#FU u^VY(NA(PI,+c#KO(M,9v#pQ(TEU(KI(Mr(|2(FAQ(GHOM&F.G(U(KU(g(Rg(yE(^2(l(vI(v,.+$yA(NfA,*7$,.
  9#,.6$SI(SE,.9$,A_#,0b#U(NJ@,!YOQ(|Q(z(NSj,$D%Tg,$:#Pg,7L#,$7$K,4;#WA@*!GA(|O,,k#,&%#WA(o,$7(BEN(u
  N(p(MO,2Q$Ti(Ks(SAMBA(VUEQ#16A40!MRO ny%qI%YO%MIM%BA%f%A%PHI%KjI%jO%fI%CHU%KEAAE%OL%pEM%Nk%s/3cM$R
  O%|M%|5A%EA%WA%E%KO%Lc%l%jI%v%TEK#16A6/$)R?@H#/)4R*!yqSA nOZ%OC%OQ%OX%AZ%AC%AQ%AX%VZ%VC%VQ%VX%EZ%E
  C%EQ%EX%IZ%IC%IQ%IX%UZ%UC%UQ%UX%AWZ%AWC%AWQ%AWX%UIZ%UIC%UIQ%UIX%[cq%^IUEX%|PUEZ&@H#EC%UEZ%UEQ%UE@X
  !UZ@(!C@(!Q@(!X%MZ%MC%MQ%MX%/$*]+SA/)22$s%Nz/$*Q(N/1N%$Hy%y%f%t%Nj%Sj%CA%~U%Gj%HTy%Tj%XA%FA%Dj%Cj%
  ZA#16AC,%[CD0!BA|m VAH nENNI&KA&SE&FA&MBE&YIE&GAH&DHII&KsH&JO&HWAH&WA&ZO&GBU&DO&CE&UWU&TO&BA&VU&YE
  k&s&WADf&A/0sI&g&E&I#16AF0%?Y/3h6)MID +&^L-@,!@9!HIGH-^M+%[p#16B00!sjWH HMOq ~rKgB&KgV&KIB&KIV&KAU
  B@(!V&K@,!@+!EB&KE@>!I@>!@H!OOB@(!@8!WB@(!@R!AB@(!V&K@A#@x!A@y!@6!@,!@+!@Q!W@4!@5#AV%?cVAU&N~UU&lU
  &jU&NlU&tU&NKAU&QjU&zU&HlU&pU&C@B!@(!HNAU&PL@3!TjU&@2!AU&XAU&CAU%^TCIM TUB(SO(KES(KjV(SUAM(HOM(yUM
  %w VOS ~BM(TSjB CgB&@W!CHgM&@>!|8AB(FgM&XYgM NTXIV(_v(TOV(FAIB@H#SgV&MgJ SUA@5$NRUA&IB zM&XAUS@x#T
  SOV ROG#16B/$.#@@H#B%^z|2S&]MS&|3~CS&MILor@5! @.%|3B@,$Tv@*!@[!63,$I%LUB&XYOO&Ho&|8RD-SyGE Ho&ZW
  J TjJ&HNUB&NQIG&XIAB&NTUJ&AV&TXHgJ C,$I%TSgB&yU&LOS&M,$@%jIS L~jNTOG @(!(CUAM T|OOJ(TXWV@(# CHWV(P
  UB fWB(NuS.R,#o#7D%CLc w TSHgJ(YgG(oS(lUJ(XY@g!KOO(jWJ(MUAS(~BJ(~UB(PjB(KjB(jM(VAJ(FAJ(zJ(TSWB(KWM
  (VWJ#16E40/4L>,M&S&V&W&eIU&Z&KP&P&T&G&F&I&K&A&J&E&B&C&U&YU&L&Q&HP&NY&X&D&OE&N&R/$T2$Y$|e@pj?x%//.(
  p$?w_A.f[i/%?7&/)m6%|vAIVA$[UOH#16F00!MIAO ns%BA%YI s%Pl/$kQ$.qp/%>+&FA%y%f@C!Ty&y%Ty%Df/$l0$@8!NN
  A%.q@3!N@&!j%l%Lz%Lj%LHz%TLj%DLj%T@1!DLHz/+7y%YI.G%QA%QGA/$mX%.q/)zo&G/3Qf$T|m%DZZA/$mh%/$;n%j,#T#
  Sj&@/!u[i[DTSj/$??%Zj%ZSj%/3B!$@L!~U/%cW%Z@*!@+!@,!.q@/$z@3!,5S#AH%Hj%Bv%SYI%DZYI%TE%TSE%RTE#16F4F
  $w ?c^eBd$n/3w:&$w ASPIR.u,#U$/53g$&@8%/$Zf)AHH&c&Aq,4E$WO&W&E/&=K&EY&I&IA&Ic&IAq&IO&IE&II&IU&Iq&U
  &UA&Uc&UAq&UU&UEI&Uq&Y&YI&AE&Ag&hR&_4hR&h@*!&AI&EI&AU&OU&N&q&UOG&YUI&OG&Oh&VW&IG&EA&IOq&UI#16F8F$~
  M_x%~O_x%.W%.z$n/1N)(==,$M$@5!1=(4==(8@Y!E0!yqUT ]p^S!NU|Q +!^6/)gq$]H.H%]p+!KHITc |d|B[b@Y!F0!VIi
  NAME|C.fuAD]c^TCA(NjY#1880@z%?XPr[K-.U/4T8u@xt@~x@~x@~x@~x@~x@~x@~x,,U*?L-*@<((*(*(*(@)$@;7@RA@kg@
  kg@kg@kg@kg@kg,#(~,#(~#1AF/+AT%MkN/2x0%@<&5(7=&,95$,6S%@W(D)7=#1B000%.qE!]Gn.qYE/4jC*A@Q!&WO%I@Z#%
  U@c$%,7R%%O@4!%KA-,vn*&KE%KI@6(%KU-1@/&E-1@.%@_#&KI%SA@O)SI@D&SU@:*@Z%%SO@p(y@.#%TI@6(T@V$&TO%T@U#
  @<&@Y&&t%NA@=*N@b(&TE%N@e#%NE@R&KO%N@a%%j,$V+%H@^(%H@Z$HE@6)O@P(%p@:(MI@/)U-1@+#@X!&p%M@U&%z@,$&YO
  %Y@I%Y@A(t@5$v@n(RU@?&u@?$R@P(WA-1@,$I@,&E@H$WO@f(N-MU-M@4!,(k$WU,)Z#.qYI&YE&WU#1B150@A!|dWI&WE&WO
  @8!64@M!@9*&N@;!70,=2$,3;,%*%*%*%@)$@;7@RE@kg@kg@kg@kg@kg@kg@kg#1BC00!DUPLOYc nH%X%P%T%F%K%L%B%D%V
  %G%R%P N%D S%F N%K M%R S%TH%|bDH%DH%KK%|bJ%HL%LH%RH%M%N%J%S%M N%N M%J M%S J%Ma?3%N +%J +(?6 ]e.C.W
  %Sa?3(?3.E%M S%N S%J S%S @g#@6#M@8#+@k!@.#@V!&N&N@K#T&T R&P&P R%T S&R S%W%WH%W R%S N&M%K @9!G@h#K&
  K R%A%|bOW%OA%O%AOU%I%E%IE%|PI%UI%g%|bEH%ROMc]OI%|bg%^II%YE%U%EU%XW%U N%^IU@G%U%UH%|bU%OOH%OW%O/&D
  R$O/+E*$I%WOW%NASb U&O&I&A%PhNk c&AM%|bEN&c&r%~qM#1BC70$AFFIX ]7]JSECcT/*15%_y/5^G$+@4%]D+%/4=G$@
  J#&/0]!&@2$yq[K&|y&E ]H&I +@5# +#1BC80%]D.Y&T]V /2_|$^I[x&?3&?S&^E&//hj$l@O!90%^M@OB&.r@R#C$w Oa?h
  $TH]S n/(Zn$$?8.H$_j CHkOOK [p!|ORTH.i[ie n_LlP%CrTkU]c+%[BxEP%~g+"

end SchemaCompiler.Pattern
