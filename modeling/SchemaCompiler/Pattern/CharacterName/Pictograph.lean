/-!
# Names of pictographs

Rows of names in the order of the characters. `Pattern.numberedNames` tells how they are read.
-/

namespace SchemaCompiler.Pattern

/-- The rows of names for late scripts, tiles and cards, pictographs, compatibility ideographs and
tags. -/
def pictographNames : String :=
  "#1E000!?Y//QT&n//N7E@[#8&Z//N7~#1E01B//N6=@G!23//N3(@3#6//N2G#1E100!^2AKEq PUACHUE/$^C$np(~U(Ny(y
  (j(NA(XA(NKA(CA(l(SA(ZA(NCA(N~U(KA(f(Nz(Nt(VA(NTXA(@&!FA(t(QA(z(NQA(s(Xz(Ns(Dl(NPl(jH(Ml(Pl(GA(Rt(
  A(AA(I(U/(u^$E(g(W#1E13/3yV$B(M(J(V(S(G(D&w [h_W)|8q),,j#)cIMb)kVhTEBReE(XW XW&|u/,Dk$@m!4/3w3?@H#
  E&/)>9&NzJ&?SD CA#1E290!TOT/$U*&y%f%K/,LI&/$f(&Cj%z%/4rn$/(2.$I%BueHY I%IU@/&U%U%E@1%E%EO@/&O%O%A@
  =&AE%A$w _0TrE#1E2C0!Wc?Q nAA%A%BA%CA%f%GA%z%Pj%l%NA%s/&o($F/3Z!%/3bV%/4zX$KA/&s>$t%p%Kj%j%E%I%qA%
  U%LLj%~U%Tt%Oq%AAq%Aq%Iq%r%EN%Ac%Nz%UEN%YIH$~MTUP%TUPNI%KO@&!kI/$gy@E2FF$qUN w#1E7E0/+b])HHz%HHYU@
  (!I%HHzA@.!g@(!E@(!O@U#8%GUtGE HHW@D!WI@(!g@(!E@D#D@D%MWI&MWg@8!F0&QWI&QWg&QWE&BWI&BWg&KWI&K@+#E&G
  WI&GWg&GWE&FWI&FWg&PWI&P@h#800!M[JE KIKAKUI |uM.U KI&M002.G@*!3 KU&M065 Kg&M095 KE&M076 KOO&M048 K
  O&M179 KUA@V!4 W@g#5.S@*!6 WU&M126 Wg&M118 WE@+!4 W@g$5 W@g!94 WUI&M143 WE@h!61 WVI@G!9 WVA&M13@,!
  E@~!7 Mk@+!8 Mc@+!9 MUN&M059 ME@,!94 Mr&M154 MUc&M18@G!@?#10 BI@+!1 BA@+!2 BU@O!0 Bg@a!7 BE&M103 B
  OO&M138 BO@M!3 @]#4 @[#5 @Z!63 g@Q!0 E@2!5 @W#47 @_#7 EI@+!1 k@*!5 +&M195 c&M178 ,#^$9 SI&M020.N@*
  !1 SU@q!2 S,%Q#6 SE@c!6 S,%Q#79 SO@m!6 SIA@V!5 o@*!6 l@*!7 LU&M084 Lg@S!3 m&M054 LO@[!53 L@+!10 ^I
  @>!16 DI@+!7 f@*!8 D@f#9 Dg&M180 D@^#81 DO&M022 TI@+!3 y@*!4 T@T!91 Tg&M055 T,%_#4.R@S!69.R@K!8 J@
  Z#9 JA&M030 J,&>#7 J,$^#3 J@[!60 JO@]#3 J,)v#5 ^IJO@W!1 YI@+!2 z@*!3 Y@h!09 Yg&M080 Y@h!41 YO@_!2
  1 Y@]#4 F@]#5 FA@+!6 FU&M078 Fg@+!5 F@^!33 FOO@p!8 F@g!97 FUA&M101 Fc@_!7 Nk@+!8 N@4#9 ^1&M117 NEN
  &M169 Nr&M176 H,+%#1 j&M186 HU@3!0 H,*$#6 HE@4!2 H,#z#@=!,#G#3 HgI&M128@>!@X!53 H,)W#0 Hc@G!7 H,+X
  $2 H,#B#93 Hr@t!6 HU@G!90 qGI@6!3 qGA@Y!2 qGU&M115 qGg&M146 qGE&M15@,!,%O$0@.!@7!9@[!A@7!7@]!@h#
  6 ^I@V$0@/!@X%83 ^I@Z%5 GI&M111 G@b!68 ,#@#90 Gg@4!6 GUEI@.!7 G,.S$4 qE,$B#7 q,%W#7 q@>!068 PI&M09
  9 s&M/*Ss%M081 Pg@4!1 P,#X#2.MO@S!6.M&M145 MBI@4!2 MB,$7#@,!@_!47 MB,+<#8 +&M07@=!@i!@,!,/O$74@.!@
  G!7@Y!,.C#1 ^I@L$05 ^I@N%42 ^I@P$32 K,#y$2 Ks&M074 KP,#?#@,!g@_!8 KP@i!1@P!@g#5@7!@,!24 GB@e!56 G,
  $&#48 GBU@w!3 GB@f#7 GB,4)#1 GB,/m$0 GB@f!71 t@m!3 NDI@,!9 Nf@+!5 ND,&F#1 ND@l!19 ND@l!67 ND@l#6
  4 ND@l!52 NJA@R!@,!@[!49 NJ@[!34 NJ,(]$2 VI@+!5 VA@Y!1 V@O!73 Vg&M0@<!E@a!4 V,#t$7 V@^!64 NYk&M05
  8 NYc@W!0 NYU,4]#@7!E@.!6@8!r#1E8C7/*9_>?Y^z|1S(|2S(]MS(~CS(|3~C@2! +(MI/$w&$E900!AD]3?HAoF&fAo&lA
  M&MIIM&BA&Sk^2IYHE&PE&BHE&t&E&F/3t2$Dj&Y/)0R$^1&KAF&z&U&J@]!?P&j&QAAF&G/(=[$U&Nj&V/(+R$BE&Zb&KPO&S
  j$|e,#B9,#B~AoF ,AN$$~r+/(:0$jMZA$?c,Jg%$GEMkeE @5)^y$/6k&)#1E950,>;A95E$]d[U^S%_m+#1EC71!kD]PSIz
  Q /)]M=/*>hm/)]P~@*!lKH@&!c%lKH.H%^zKdOR&@(!c&/(H*%,EM:/,F3(%/,Fj/%_5^S%^z.f@c#,+!#%.flKH,&E#D01!O
  TTOMc ,%l6,%l~,%l~%MdRec%.f^z,%N7(|2([m]M(|Y +(~Z~C(|3+/)9+%(|YTH#1EE/7?&$U/7;F%JgM%Db@<#5/7(L&jH%
  yH%~3/7:@/|F%Ak%FEH%_7%QAF%uH%|L/7<%(KjH%THb%fD%ZAH%[u%/78B$^r&/6eU%#1EE21%]d@;!JgM@4#4&HEH@.#7&j@
  ,$9&~3,.~#lM&MgM@h!|F&Ak@n#_7@q&34&|L&TEH&|5H&K@c$39&fD@,#B&[u@,!42%|y[D,#=%4,#3&49&~3@,#B&l@?$D,#
  7(@3!51,#9*54&|L@,#7,#7&5,#7&5,#7&5D&?5^r@/#F(@_%61,U8&,$n*6,$n(67&jH&yH,$k#@V%C,$n<7,$n479&fD&ZAH
  &[u&?5BE@:$E(F@.$80%^K[D.a&,#R%&Db&HE/)<%%k,#P(@P#B,&@;&uH,#L/&THb,#J)@g!A1%/#;s(BEH(JgM(Db@>#5(~x
  (ZAk(jH(yH(~3@:#B(lM(MgM(^r(|F(Ak(FEH(_7(QAF(uH(|L(TEH(|5H(KjH(THb(fD(ZAH(,#>$F0%_E /+=t%TeWgL&jHa
  Db#1F000!pHJOq TIm EAx WkD%|i+%~y+%^s|4+%_pDtGr%Gu[H+%~0+%rE.I?LS/)H!D@Q$//Pp$@UK?S@QGPLUM%OR?P//
  R#(CHRYSc|5MUM%SPvq%SUMMh%AUTUMN%W]h%JOKh%.w#1F030!DOMI^qTIm ]J.w%]I-00-/%l^&&01@0*2@0*3@0*4@0*5@0
  *6@0(%~m.w%~l,#(v#1F0A0!PlY]cCdD .w%ACE.ISsDES/*fsJJACK +%KN]V +%QUE[H+%K]c+#1F0B1@z$]A@xf%_pJOKh#
  1F0C,#$%?v,#$g.3,#$&D,#$%CLUB,#&g~0,)R#FOOL%TRUMP-1/%n16F100!?x [p%?Z$_A+/2@.D/1Tq&/1Sv%x$^l@/&!@,
  !~8a|a/3;z$$?2wa_LlID .w|a!_S/+.MW!~Q.9[D@d!S,#2#]o@0!C)R$CD$WZ!COPY]6.O!|k/2@DY$HV$MV$SD$SS$PPV$W
  C!^l?S@w$/#ZbS!_oMC w$MD +$MR +!@s!CC$C,%4*$HUMc FIGUu!^l|k,#;Z?h[D@h)P@t%IC%s%SA%AB%WC!|lDJ!@;!CL
  $COOL$FRg$ID$NEW$q$OK$SOS$UPa[U^S$VS$~ED$|D/2VX$$~ZK$[mK$[E K$[f _b rE,)7$~X-~Z_b ~Y$,>E#P$/$+q% P
  $]5|eD$HC$HDR$HI-uS$LOSSL[T$SHV$UHD$VOD!pSK WORK.O#1F1E6!uGIrb ]a |vn,)NT|l]GHOKA,).$w KOKO%SA#1F2
  10$CJK UNIFI[D/,4((624B(5B57(53CC$]w DE@M54E8C(591A(89E3(5929(4EA4(6620(7121(6599(524D(5F@Q!18D(65
  B0(521D(7D42(751F(8CA9(58F0(5439(6F14(6295(6355(4E00@(!9(904A(5DE6(4E2D(53F3(6307(8D70(6253(7981(7
  A7A(5408(6E80(6709@(!8(7533(5272(55B6(914D#1F240,,t%,%0572C:4E09:4E8C:5B89:70B9:6253:76D7:52DD:655
  7@s!50//?3.ADVcyGE%ACCEPT@F!60!_4|v[hFU&LU&S]L&XI&|QAqXI&CAI#1F300!CYCLrE!FOGGY!?V~c!N]VaxdS!SUNvS
  E.K^f@0&!CITYSCAPE e DUSK@<!Si.KBUILDIqS!tk.7!BvDG@F!N]V!~v.SVE!VOLCcO!MILKY.SY![C GLOBE EUROPE-AF
  vCA%AMEvCAS%ASIA-AUxtoA!@K#aMEvDIcS!NEW MOr.O!WAX]c?g@2$/2+|(+@<$GIBBO~j+!F~b@T&c@;(@5$l@U&c@n#+!@
  s$,#0&a[W@~&@3%@V!@x#@4&SUN@*!G^L]cxd!|OO~K+/1).$Mih!.3DROPLi/2.t$$@R!|dCLOUD%/1|X*&@)#atk!@,&%SNO
  W%^CNIq%~PNADO!FOG!WkD/#&a$[W!HOT DOG!yCO!?CvTO!?MxNUT!SgDoq!EVhGu[HTRg!DECIDU,%*#PbM +!CACTUS@h#P
  EPPh!TUoP!CHhRY BLOSSOM!ROSE!HIBISCU,(o#F^Lh!@B&Ed.IpIZE%R]R!HhB![mmAF CL_L!pPm mAF!FbL[H+!@<!/#+I
  &.FWkD!M~kROOM!TOMeO!AUBhGkE!GtPES!MELr!~v@*#yqhkE!mMr!BccA!PkEAPPm!_p@*#,Bk#!PEd!PEACH!CHhvES!xtW
  BhRY!jM?CGh!SL]R.IPIZZA!MEe r BrE!POULTRY mG!R]R CtCKh$.x!COOK[DR]R!CURRY.C@/!xEAM]c.7L!SsGHiTI!Bu
  AD/3U(&vES!ROAx[DSWEi.MTeO!fqO!ODEN!SU|M!Fv[DSHvMP!F]m CAKEa/)+y$DEw!|g]R CuAM!SjV[D]R!@4&DOUGHNUT
  ,#d#IE!?QCOLeE.D!CcDY!LOLoPOP!CUxdD!HrEY.MT!|ORTCAKE!.0O .8!POT.IFOOD@l!]z!FORK.CKNIFE!TEAC~g/,RP)
  !SAKE BOTTm.CCUP!WkE GlSS!C^4|y +!TROP]QDRkK!BEh MUG!CLkK]c@2%S!BABY@i$,#8+aPLeE!@;#aPOPP]c?eK!POP
  ?eN!vBBr!WtPP[DPuS[K!BIRTHfY ,$>#JACK-O-LcThN!CHvxpS TRg!FeHh @4$!FIuWORK@,( SPdKLh!.xOr!PdTY.MPPh
  !CrFiTI .x!TcABAy@n!,:s#FlGS!PkE DE?e.u!]rDOLLS!CdP xuAMh,.6#?PME!MOr VIEW]cCEuMrY!S?QOL Se?ML!GtD
  U.u CAP!]AaTIP r/2zW%OUQUi.IF^LhS!MIoTdY ^Vb!uMkDh ,$z#^k/2|I%aJACKS!xUDIO MI/+,x$E!mVEL SoD/8/G(K
  NOBS/28,%/2@0%^k^xS$/2@1)FILM FtMES!AD/06o%T]SiS!CdOUSEL HORSE!FhvS WHgL!ROLLh COAxh!FI|Mq.Mm.CF]m
  !,#W)MOVIE CAMEt!CkEp![8@<#dTIx PbiTE!~OHe!CIRC~jT[K!T]Si!ClPPh BOdD!Ph[i]cdTS!VIDEO GAME/2t(%HIT!
  SLOT pCHkE!BILodDS!@F! DIE!.7oq!F^N,Ii&S!^k^x!^i @+!S!SAX,#u$GUITd,%w)!,F1#i!VIOLk!^kSCOu!RUNN]c|M
  RTaS.s!|2NIS tCQUi.C.x!SKI.CSKI B_B!BASKi.x.CHOOP!?MQUE_pFlG!SNOWBOdDh@u#h!SURFh!SPORTS ^Vb,,K#HY!
  HOR|CtCIq!,8;#c F_B.x!RUGBY +!SWIMMh!W[E oFTh!GOLFh!tC]cMO~PCYCm$Cd!CR]Si Be,#o#VOLmY.x!FIELD H^4E
  Y x]S@@#]R@5+PUCK!yBm ,$Y$sDDm@J!,$2# CAPP[D^f!CAMPIq!BEACHa~c!,;##]cCr//?/$!]L|C,;9&,;Z)!DEuoCT @
  B*!ClSS]Q@2&DEShT@)$ ISLcD/3ht$PdK!SyDIUM!@b*$~1GdDEN!OFF]R @j&]rPOx @8#!,<+$c +!HOSPITb!BcK!AUTOM
  e[DTELLh,)Y%HOTEL!LOVE @/$CrVENI[I xOu,.~$!DEPdT^Z@6#FAC~PY!IZAKAz ,1.$]rCAxm,#B*~0_UNcT!.3+!WAV]c
  ~0FlG$@3!ROS/2+R$@,%l.y!BADMkTr,)t&|QTTmC^4!.7.C.r!AMPHOt!EMOJI ^eFITZPeR]S /2BD$-2(3===!Re!MOUSE!
  OX!~v BUFFbO!COW!TIGh!mOPdD!tBBIT!Ce!DtGr!CROCODIm!Wjm!SNAIL@)!KE!,/]$tM!GOe!SHgP!MrKEY!ROOxh!CH]S
  EN!DOG!PIG!BOd!EmPHcT!OCTOPUS!/#Tm%KLL!BUG!cT,7.#Bg!lDY BEim!F]m,63%@.!B^L@*!~VTm!HeCH]cCH],62%+/2
  !l$[X@2#@<$IRD!PEqUk!KOAl!POODm!DRO^VdY,11#L!BACTR]O+!DOLPHk!MOU|C[W!COW +,%2# +,%.$ +!Ce +!DtG/20
  &$OU~KWjm,.N$[W,$t$ @p!G +!PIG,#c#@1#jMx@n!WOLF +!BEd@E!cf@K%NOSE!sW PRkTS!?PPMUNK!EYES@(!!Ed!@F#^
  g!~N!~0~g_d.wH.i]Y$[B/3l%(!FIx[DH.iw,)i$+!OK +!~FS ~g+@N!,3E#]c[6S +!_D+!CROWN!WOMcS He!EYEGlSSES!
  NECKTIE!T-|MRT!JEcS!DR[T!KIMrO!BIKkI@]%/01U$!PURSE![6BAG!POUCH!@A!|OE!eHLi]P+!HIGH-HgL[D|OE@c%ScDb
  $B_BS!F_B,$w$BUx.FSIL]LiTE@2!S +!BOY!GIRL!Mc@_#!//Kx$!Mc.C@4! H^5,$O#!~ZM[H@2&$WOM,A##OL]R OFFICh@
  f#aBUNNY EdS!BvDEaVEIL!_WaBLrD jIR!McaGUA PI pO%~VBc!^5h Mc$@d!,*4#!,20&,P.#h!PRkC[T!]rOGu$GOBLk!G
  HOx@P# AqEL![VRehuxvb AoEN!Ao[HMrxh!IMP!SK~b/3iC%DESK _W!GUdDSMc!DcCh!oPx]S!NAIL.ML]m![W p|mGE!jIR
  CUT!BdBh.Mm!SYvqE!P]W!KISS.H,1n$LiTh!vq!GEM xrE@@#,<H%!COUPma]A!WEDD,4k$~K]/31Z&+!~Z]AS!,>W#]c]A!G
  ROW]c+!]Aa.r!BLUE ]A,E1%YEL^M+!PURPm @G#,=7#uVOLV]c@n!]A,>l&?v SjPEaA ?4]e/3?=&^DBULB!Aqh.O!BOMB!S
  LgPIq.O!COLoSI,.9$L.s]cSWEe.O!,JR%?o.O!PIm.IPOO!FmX[DB]RPS!DIZZY.O!SPgCH ,@m#T]LGHT,46#,Hw#]M _bS.
  O!MrEY BAG!?lEXCjqE!]B?2w!/(yt$CdD!BcK^xaY[Hw%?2+%/3xn$%P_J +@d#aW,8+#HdTaUP~uTR[J.C@S!!SEe!_Wb ?X
  PUTh!BvEFCASE!MkIDISC!FLOPPY DISK!OPT]Q@:#DVD!FIm F^5h!_D@/(sGEa?j$[XUP!Cb[Jd!TEd-OFF @2$CdD ]Y,#V
  .%/0wC$Bd @;!!CoP,?<$~kPk!_3@+$sPhCoP!|n RULh!~S+!BOOK^TyBS!mDGh!^x@5!@*%aDE?ee]q C_L!?V@>#_D+,)*$
  ,)9$+!_G@k$S!NAME BADGE!SCROLL!MEMO/3Cf(CEIVh!sGh!FAX,:#%SeELoTE c|2NA!PUBL]P/3x($ LOUDSPEAKh!CHg_
  zMEGA,@T#_K.8 TtY!k.8 +!sCKAGE!E-pIL.O!k?X]c[L![La[A/13B$!?V@@!8a^L,@.$&_o,3/#&@5#+!POx.8@)!b ]K!N
  EWSsPh!MOBIm PHrE$@(!a_x@u! e ]6!VIBR.u MODE@L(_AOFF!^q@])S!,$N#aBdS!,DN#@)$aFL.s,Cr%@;$TEm/24D$tD
  IO@>$CASSiTE,F4$/1T$$P!PORyBm xEuO!PtYh BEADS!TWIx[D/3eu&?U_x/1)v$/128%S:.rSa,fw#A_N$[A@B!UP~u@D&/
  12Y$^MB_xN[T.O!]D+!,&D$a/6u1& |o@7%@>&_AS_J.SVE%~E@.%S!BeThY,/X&PLUG/1Z/$pGNIFY]cGlSS/1Z1$L^4akK _
  U!?V@0!KEY!KEY@<!!_D@)!.yL@&!,#O+,*s$S!LkK.O,%L# BUTTr!.wa]8.r./8GG%r,d?#a/4%[&!SOra_x,)&%TOPa/0[n
  $^q_A~dh [EgN.O!/4%u$ |2!kPUT//m>$5?GLiThS(|d+&NUMBhS&SYMBOLS&]5@?!,N/#,$j&~PCH!WuNCH!jMMh!NUT.CBO
  LT!HO?Q!PIxOL,Ja$SCOPE!TEm@,$CRYxb .x/2KR$xda/05,$r|v[hBEGkNh!TvD[K EMBmM!.3|lBUTT/1:P%4 _p?S$,.P$
  $_G?v@0%!|d_G+@1%/2mJ$_p~R![A-@3%|@5(/2I/+/2oc%,j$$?h.MMMg!@+%a[3-?S.E$POMMg/2@O&]7|G?Sa~E?6$_y/38
  M$^SS CjPTh!~0]5/2Q!%CELT]P?h!OM.O!DOVE.IPEACE!KAABA!MOSQUE!SYNAGOGUE!MENOtHa^p BRc?MS!.7L.IHYGIEI
  A!CL^4 [W _AO@/!,qSJ[F +%/334&%rE-~A/$y:8@f!-@f!-@f!@3!2-@g!-@g&-+!_y,,+$$,,30&,,3+~b]K@)$a@9(vq]c
  .yL!,3l#CcDm!McTELPIECE C,+x#3/2nO,^qPItCY!HO@O!.FBUSk[T SUIT mVITeIq!SmUTH.JSPY!DdK SUq,AF$SPIDh@
  )$ WEB!JOYx]S!Mc DcCIq!]7H.i,4h.@2,asGE!_y@I1~0TOUCH~M/2qt&.3+@_&r.RP.IMODEM!ClM|KLL ,30)!.w.I[L!S
  yMP[D,4p$,c<#!FLY,5&#_U.K@B(LkK[D,7y$S!.,80%^N]7_UCIL%.x_b _U%/2[y$ +%skTBR~k%CtYr!]7/$?3$!~WOK ,E
  <#_o[6a[e SP/1jF$u@5.$,EP$w%[B+$/2Z:%[6$[6a^b[d [V[JED@k$PdT .1/0N#$z[e!~0[B_d]7,Fe#!/.Zq%~0/2t,$%
  _y+$.3/0d[&@.!,G8%,G/#@S&,GP$+%[B@R!~g@.#!@.!@R&,Gg$A!DESK~O,=#%,UL%.C,MC$~ENE~YRK[D@D$S!PR]h!P^4
  i CbCUl~P!.3HdD ,&f#,=R*,0q#|g@;1yPE CdTvDGE!WI_p,Vh&_A,1O# ,#E%Z+!~E+!TtCK.x!^6,>s*HdD@q$,tl#,#
  _# ICr,;q#+,>t)@8#DOCU^ZaT[V%T[V.CPICTUu%@*$!FtME +%TImS%c X!.3,?<#,?L%@*!,?&$Z?0S$FIm .8!@*!CABk/
  1wB&^x$^x sGE%sD!^x!@1$$sD@D%,#O$$@8#GES!@4$!sGE!@4#WAxE,Xv#,P%%@f!D$,@N# +,&f%WkDOW!MkIMIZE!pX@+$
  _LlP,:^#.C]7|G,:;%,8L(X!kCuA|CFrT SIZE.O!DE@6#+!?X//sT$!^6,Qt$LmD-~g,=g$,B8%SD T[V!x^4,Ac$fGGh ,f>
  $oPS,:w$]c[8,K~*~EtYS.A%.z/031$!]7,EL$BUBBm/0lm$Z@6*S,(U#]7,Eh$@J*]7Aqh +@0#MOOD@?%^CN]c@4)$@/!/1B
  e(@+!$|BX$.8a@*#5@1%@,#!^D?N.H@R)5?N!WORLD pP!MOUNT FUJI!TOKYO.RWh!xeUE.IoBhTY!,$Y&.IJAPc!MOzI!GRk
  /2||$[Wa|f,Qs#[WaTEdS.IJOY!|f[Wa_D^g(^g.C@F$:C^6SWEe:T]VLY-?V@9!&HbO&]KS!WkK@w!!|f@y+.NVOU_zDEoCIO
  ~j,jx#uoEV[D@O&]A/)|8$@s#,4g)MIR@v$^n +!E,(g%L[T +!UNAMUS[D+![Wa,#d%!_US]q [W!CrF@A#@,!_J[D+,MQ#]c
  @R! TH,Lz#A @8!@=%,$$(&?V@y#xUCK-_K ~N(~N.C,$P#EYE,$p*/2r.%P_c[W!WORv[D+!AqRY +!,Vm#+!CRY]c+!PhSEV
  E_z,#$#LOOK.ITvUMPH@g&BUT ,%1(/3%_%,&D%!AqU]m@=$EdFUL +!WEdY +,Mz#Y,XF#_p+!GvpC]c+!LOUDLY CRY@j!!@
  m&H~k[D@4).C,%S%$SCuAMIq.FFEd!Axr,#:&L@U!,#2$]c+,NM$ ,%a#,oi%^g$~1^V]QpSK,)h%Ce ,(l)Ce ,)k/Ce ,)n&
  ,(e&@N*WRY SMIm,&Z#@r&,&1$,%q$@6#,%u$,$~)^CLY ,%R%+$|f+!UP|R-[B,&5#ROLL]c@i!%^qGOOD GExUu%OK@,$!_
  W .7]cDgPLY!Sg-NO-EVIL ,_a$HEd-,GN%-+!jPPY _W tIS]c_A[6!@1&BO|4[6S.FCEmBR.u$,#_#,ei#,$0#[W%F^5[D[6
  S!^u_dmAF!/2A4%+@,#~W@;%$|i+$@;!@,!@P#VkE +@R.]B@=&@V5BUD@T0@;%@P.HOL^MQUILT |l_I&_I/2xN%SOoD @=4]
  8R^4i/1Kv3|B^Bi/2jP$@/(^B_D@8%@/&$.h@5!SW.s +!_9]B/2kh,(@.(&^M?9@2%@h#/1(x%@d!_9@1*]B@3,~n]B|h%_t!
  ?O!_s?O!,$%#HEoCOPTh,zC# LO?XOT]q!tILWAY Cd,_3$SPE[DTtk%Ttka?B,c($Ttk!MiRO!^DtIL!x.u!TtM@&!@]!BUS!
  ^9@)!TROLmY@.!B~jxOP!MkI@2!AMBULcCE!FIu EqkE,_!$@c!^9@/(yXI!^9yXI,kW#,Am#!^9@0)uCu.ub VEHICm!DEo~n
  /3!>$dTICULe[DLORRY!TtC~P!MrOtIL!^f ,$X$!/1([& +@9!CABm@:!AEvb TtM@0!|MP!ROWBOe!SPgD@+!]JTtFF]P^C!
  ~m+,a/)w,$8(S ,[x%@G!SFlG r.Mx!DOOR/3%J% w!SMO]z.O!^q@.&PUT oTTh.FITS PlCE,JH# ^v@:!@E!OyBm ~v.O!N
  r-@2*BICYCm!^q@,$S@5$ox!^f @/&/+yW%!^q@.%S!?PLDR[H?hIq!MENS.O!WO@,! +!uxROOM,c8#.O!TOILi!~v CLOSi!
  |OWh!BeH!/,1!$!sS,tY# ,yQ$!CUxOMS!BAGGAGE ClIM!]7LU@3#!~R/3Ea$!_gHIBIT[Dw,N2#/4N@,BOYS.O,fk#S +!CO
  UCH.ClMP,4,%AC?XMOD.u!|OPP]cBAGS!.yLHOP ,Jv#ED/3|O%WOR|MP!OCyGrb w@T%,*Z$!xUs!sGOf!HkDU TEMPm!HUT!
  EmVA~P#1F6D@n!YG_3SoDE!,|,#_zBUOY/33H%,R]$/3)C$OIL DRUM!MO~PWAY,,_&TtCK@8# BOe,Q=$/#!a%.Z%.Z%|d.Z!
  @(#^s|5Ax-_@0!.Z /%0%%$dvVIq#1F6F0,]<&!^9,,O(DIESEL,/%)sSSEqh |MP!SC_Bh,#I$@/$CcOE!SmD!FLYIq.NUCh!
  SKeEBOdD,,~# R]SSjW!P]S~g,,d#/#!r%@J!#1F700!b?M/3,~%QUkT[T[I&AIR&FIu&[C&~v&AQUAFORTIS@/# uGIA(@(!-
  2(VIyE@(#-2&VkEGd@)$-2=&SULFUR&PHILOSOPHhS @7%.3+&/3>c$ |poMeE(@*$@Z!CkNABd&SbT&NITu&VITvOL@*%-2&R
  ^4 SbT(SbT-2&G^5&SILVh&IRr Ou(Ou-2&CROCUS.IIRr&uGUL~j+&COPPh Ou@M!-@1(,#E$.I@5#@]#~j+)@2#-2@X%cTIM
  rIeE&SbT.I@8.@g(@@)&VhDIGvS&Tk Ou&mAD +&@T#Y +@T(@5$@y! +@k+@>&,%h$@2&,$<&)@3$-2@5#US@*%-2==&bKAo@
  (#-2&MdCASITE&Sb-AMMrIAC&dSENIC&ubGd@(#-2&AUvPIG^Z&BISMU|4Ou&TdTd@(!@C!QU]S oME&BOtX@(#-2=&bUM&OIL
  &SPIvT&TkCTUu&GUM&WAX&POWDh&CbX&TUTTY&CAPUT MORTUUM&SCEPTh.IJOVE&/3Fr&&,[m#&xd_p@.$LODExrE&SOAP&UR
  kE&,wB#DUq&A|KS&POT @,#BR]S,#?#E_p@0#/28]$&xReUM SUPh @/#)@)#-2,&0#.u&PuCIPITeE&DIx]W&DISSOLVE@,(-
  2&PUvFY&PUTuFAC~L&CRUCIBm@+&-2===&/3?8$&BeH.IMdY)VAPOURS&u~PT&]LR&N]V&fY-@*!MrTH&[4DtM(OUNC,.;#80/
  3Qz&ISOSCEmS _y~R/3uO$_x/3uT&,AH#/2Xm$^X.5~0+!.5,_0#]B+,;c#@1#[VuMELY +!@3!/3Rb&S!_3TdGi!.3TkY |k@
  u(|k!^D~0@*!X@x!+@u*|k@u,|l?d/2#K&(^X|k!|l@|*?v$@@!?v$^X@S!?v @T&?v(^X?v!?v @U*^O@U#^O@U%^O@U#@6!!
  THk [z?h!^D+,#i(~n.5@9!$]B+,#i)@P#_8@N!,$:1_8@L*^D[f /30|&@O1@@*@X,|Y@X:|Y@X6[E@X:@@,D~E/34i$@K#@1
  *@/!_Zxd/1p*(+@F#[m@F([m@F%_s@H!@S)f @H%]B@Y!|Y +@/#|Y @I&X[E@I%,#f(@6)@0#@u(/36a*@m#&_Z,g=$~R!^l@
  ,$@4#|k@4%|k#1F7E0,hi#G?S$,yC$$,sI#$,yI%$BROWN +$_p|k,i2)+@Q=#1F7F0!]B[Pw#1F800/4a_%d/1p?%/4b&8^X+
  @?8]4 @@3#1F81,#*([Q@e9[Q,#E8B@D*/,[63,#J&@E5/1y].N.r SjFT,#3,@I0^X+@D=.5@D>]B@D>~n]B,#R9[d-POx .r
  @B5|kD@?8,[P$[D+@B5]B@D&.r@E7.r,(.650!]8_9@]5^u@=!/2)W(/25/0@f#60!/36l%]8^C.DB .r%/2!K+@q#%^u@A&&@
  u#%|i+&~y+%]8Bd@X9Bd@V5^X+@S5^X@U7]B,#2;]B@Z7~n+@U5~n@W5,%.#90!]8,,~<~0.r /+P=$,.J?,sC%|y@E4B,+W%/
  ,pF$rE/)>2(_A[3)@/!!]8/2[R$/38f%/24]&6,#S#O@v&]8]6-@1$_x-+/2pU(]6@1#/3971.r@^(FRrT-@n&~0,#a7#1F8B0
  !/2bq%/23C%s|4WEx%/2tF.|iWEx#1F900,v^% [iga[m?6(~Z+%[ig!/2SK$@8%E+@<!(?3%?S![AWdD [X]H%,vz&H%]Ha?3
  @4&@1#!Pk@0!,n=#]A!,3<%@:#]c[6!ZIPPh-^g [W!MrEY-,YU#/#V1(NhD@>!THkK]c@?#[8-BcfGE!ROBOT@A!HUGG@A!w.
  I|6]KS!CbL ME [6!_o,r/#6!]6-[XFIx!,&=#[6SjKE![6a]Y.C^b[e ?hED!I LOVE YOU,qE#,c@#OWBOY He!C^LN [W!N
  AUSEe[D+!,[M$r |6/$fc$lUGHIq!DROOL,_i#LY,cX%PbM!SNgZ,a$(A/$ag$,[/#ED,fm(axd ,cm#_A]4.C_A|dEYE@V![
  d C_L]c?V,jA#EvO~j,_x%.OS@@$^g,fZ+.CH.i@<%,b3& VOMITIq!SH^4[D[WaEXPLOD]c[8!PuGNcT /#8N$uAx-FgDIq!P
  bMS UP/$[~$!SELFIE!PRkCE,xE#TUXEDO!MOT/#Q5)SHRUG!_W DO]cCdT,OR#JUGGoq!F[IR!MODhN P[KeHLr!WuxLhS!~v
  .MLO![6.x!DIV]cpSK!W,+~#F^Lh!DRUMa@(!x]SS/#Sq%G,h^$TUMBLh @2!!SPOr!GOb Ni!vFm!FIRx,Ua# ^Vb!|D +!/,
  ZT%.8]cGLOVE!MdTIb dTS UNI[i!?j]cxrE!l?hE/#JX(SOFT.x,x_$DISC!CROISScT!AVOCADO!CUCUMBh!BACr!POTeO!C
  dROT!BAGUiTE BuAD!GRgN.NlD!SHb^MPc/#W;%xUFF[DFLe@I#EGG!GlSS.IMILK!PEcUTS!KIWIFRUIT!PcCAKES!DUMPoq!
  FORTUNE /#Xq%yKE_K .8!?QP,%M#.7La,%8#CUPaxtW!COCrUT!BROCCOo!P,(E#iZEL!CUT.IMEe!ScDWICH!CcN[D,#r#mA
  FY GRgN!pqO!MOr/#W>$BAGEL,*>.~E]AS!zWN,n8)TEd![WaPdTY ]K.C@,#He%UNEV[H@[%w^g!_LHEe,k8%gZ]c+!NkJA!D
  ISGUIS,jJ% /%g3% TEdS$~1PmAD,gu$!SAv!lB COe!GOGGmS!HIK]cB_B!FLe |OE!CtB!or [W/3nN$r!~VKEY!UNI?eN@;
  !EAGm!DUCK!Be!SHdK!OWL!FOX@A!BUTThFLY!DEh!GOvLl!oZdD!RHkOChOS!/#_%$SQUID!GItFFE@[!ZEBt +!HEDGEHOG!
  SAUROPOD!T-uX/#R%$!KAqdOO!Llp!PEAC^4!HIPPOPOyMUS!P,)i#tCCOr!LOBxh/#,3$ITO/#0U$BE!BADGh!SWc!pMMOTH!
  DODO!SL@/!OTTh!OtqUTc!SKUNK!FlMIqO!OYxh!BEAVh!BISr!SEb!GUIDE DOG!_gB]cCcE/#NM$/(*)% _pjIR%?k+%BbD%
  ~0jIR!BrE!mG!F_B!T_BH!SUPhHhO@+#VILlk!SAFiY VEx!EdaHEA_zAID!MOTOvZ[D/3nG&!McUb +!MECHc]QdM$mG!CHg|
  CWEDGE!CUP,*<#SbT SjKh!/3xH% .8!GdoC!rIr!FAlFEL!WAFFm,(!$!MeE DRkK!]R CUBE!,xI# TEA,gI#L!xcD]c_W!K
  NgL,pr#EAF ,7$#MrOCm!ADULT,c5#!^5h @3$BEdD[D_W!_Wa[8SCdF$k xEAMY ROOM$CoMBIq$k LOTUS/$t($!pGE!FAIR
  Y!VAMPIu!Mh_W!ELF!GENIE!ZOMBIE!Btk!_G]A!B]W[DCAP!SCdF!,1q#S!COe!S^4S!_pGIFT [L!FIuCtCKh!JIGSAW PUZ
  Zm/3|T%TEx TUBE!Piv ?z!DNA ?9HEoX!?XsSS!ABACUS@j! [VIqU]mh!TOOL.8!BR]S!pGNi!,dp&LO~L/#es%SP@I!ITHu
  AD!.x.IYdN,(]%Pk!TEDDY BEd!B,fL%SKi,9>#.IsPh!Bd.ISOAP@m!qE!uCEIPT!NAZd AMULi!^n /3xA@/3y0&@4! _1[j
  -[f/)TJ%!.3+@i!+@H(]c/)Tm,/$(|%,#!# +,#$$/$)?)s,=U#.3@a&+@SD^n @TL,$4//$!*$A,$9;~W]z&QUgN&@~!&@z#&
  @d!&/3|m$@IB@u!@J?,%x2~Z]M ~X,&!>@K%|IT,&(a,&(~~E]M /4J7%,$91EQUIHOPPh@>: ,)Z$,%!9N]V-,%t/!.3@@9#1
  FA60!XIAqQI _pGENhb%McDdk%EmPH/1d](CjvOT%CcNr%S^5Ih$.3@PI#1FA70!.xi |OES!rE-,0$# SWIMSUIT!BvEFS!|O
  RTS!~Bq ScDb@Z#8!DROP.IBLOOD!ADHES]q ,Eu$xE~B/#CN$X-tY!CRUTCH@Z!80!YO-YO!KITE!stCHUTE!/,n:%!pG]PWc
  D!PkAy!NES~KDOLLS@^!90!vq[DPLci!,5l#tZOR!AXE!DIz lMP!BcJO!,o*$/.%%$!AC?eDIr!^I,ok#COk!/,oE%.NW!SCu
  WDvVh!lDDh!]H!MIRROR!/#46$PLUqh!SEW]cNgDm!KNOT!BUCKi/#a8$TtP,8$#BR~k![8xrE!PlCdD!R^4@p% .x!/4TW) @
  A!^M/#J5$jMSA#1FAB0!FLY!WORM!BEim!C^4ROACH!POTT,$g#T!WOOD!FEeHh!,62#!?eb/#6z%NEx!NExaEGGS@v!C0!ceO
  M]Q]A!LUqS!PEOPm HUGGIq,Fc&Mc$,7F$CROWN@[!D0!BLUEBhvE,th#/$!_%OL]q!,Bo&ypm!FrDUE!TEAPOT!POU_zo,=u#
  BEcS!Jd@q!E0!MEL~K[W!SbU~K+,HM$,@k$[6.K^g%PgK,@5#%?t ^g!?7^E,?8#I~KoP,:&$S@r!F0,Kr#Z[d.C~G?hED,Op#
  [6!]8/$$g$[B[6$~g+!]Z_de |6VIEWh!]A [6@i!B00!.4 S[VcT-1=%12%3%13%23%123%4%14%24%124%34%134%2@+!@(!
  5%15%25%125%35%235%1@(!45%145%2@+!@(!3@,!3@6!@.#@)#6%16%26%126%36%136%2@+!@(!46%146@b!6%3@,!@(!2@
  .#@)#56%156%2@+!@(!35@H!@6!@.#@)#45@k!@8!@.#@)#34@M#@:#@)!!^N]7.4 ?t ^N^b/4C<%?K>_x(~h@5.)@1($_y@X
  $@G(~h@X$^N@5.)@1()@=(^b_x)?K@r#@0#]7+@4$~h+@1+_x$]7,#6&@8%@U.^N+@1+_x),$((@M!!~h_y,$TR]7,$T,,$T~_
  y,$T]$.i/4I1$~S/.(D$.4!]6@5!.i,_h#h.i@4$+@<#~h@<#$~S_A_l@R!~h+!@N!@F!~m/4Jn&/%,Q%!]J@60@t$@:&%@e%%
  @e#h+@U+1358!~h,#6%/4MH*f +/4M=3_y@N#+@M@,Yw#^X|JE!_y+/3|H%/4G#%@;#/4Nt%.C^N[4@;)%@/)@?$.4#1FB94@
  w#@A+_y+!?O F]W@~$@0%]B]J@+!/4LP.$/4LP)$.i^N~S[4,&M%_y/4F#%S,#$#/4H;+/4_h,,(q)^b]6<_x(,*Z*)_y+(@C%
  @;*<_y+@K)@B%_x;~h@R.C@:!@X(x@4!]7+>TO@Z)]6<@m.,#N)@p%@j*)_x@<)@r#(?v&]I/3]1$.r[8/+A#%bh,%]%N.H,&
  )#/$&/$Mc/4Ky)/5PG/,dY#,*h$,*!),dY*@A!_y@=&,dz#,)%$F^5h@~#VOID/4/<%_y_D|kD ?3!^l?t ?h%,$<*%?v!~0]B
  _8/#0a%]7,XL#~0_y_d]Y!^b,,*%l@k!_m^S!x]S/$Gt$$@)#adMS,^C$%mc]c/2jL%1DR[T!~0UP-_d?MVRr#1FBF0/5/c$[D
  /$i3>2F8//Tuj//Nm~@kg@kg@kg@kg@kg@kg@kg@kg,#(~#E0001!lqUAGE yG@4!20!yG |j$/.cf5/.cf~/.cf~/.cf~/#Y0
  $,%X$100/.wf./:?gq@rn@~x"

end SchemaCompiler.Pattern
