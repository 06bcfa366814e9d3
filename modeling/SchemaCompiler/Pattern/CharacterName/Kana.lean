/-!
# Names of radicals and kana

Rows of names in the order of the characters. `Pattern.numberedNames` tells how they are read.
-/

namespace SchemaCompiler.Pattern

/-- The rows of names for radicals, kana and enclosed signs of eastern Asia, and a few scripts of
Europe. -/
def kanaNames : String :=
  "#2C00!GlGOoT]P?HAZU&BUKY&VEDE&@<#&DOBRO&YExU&ZHIViE&DZELO&ZEMLJA&IZHE&]d@*#I&DJhVI&KAKO&LJUDIJE&M
  YSoTE&NA|M&rU&POKOJI&vTSI&SLOVO&TVvDO&UKU&FvTU&HhU&OTU&PE&SHy&@L!CHvVI&Sj&YhU&YEv&YeI&SPIDhY j&YU&
  |dYUS(YUSa|y&YO&]kT[D@9#&/*qn%@7$@1&FIy&/*qL$&SHyPIC&TROKUyxI A&LekeE ,$,%CAUDeE ,#O#$|e,%@0,%@~,%
  @~,%@~!]5?HLa?8.D/+QO*~I&P.T&Ra|y$|eA.T/+@6(?HH/*go&/+FZ1Z@.(.e/%np&A(.e$|eVa_y]H$?HW/+Lo&V/+C($[4
  @3$y]W[T PHI&EaNOTC@b!Ra|y&Oa^M_z]e/%w)$~WE$/%3R$J/%vJ$V,$7#/+Au,/+%$(bFA,#^%VIf@.%[q@,%Db@7&EIE@.
  %S/+Db)Ay@.%He@B&|5|5@/%IAU@d&KAs@.%lUl@.%MI@,%NI/*y|1O@+%P@5&R@6&SIp@.%yU@,%UA@,%F@o(H/*zm2OO@T&D
  IAmCT-P .a@6%^6,%,$Ak@5%/&EV+EIE@^/.Gs@q0NI@_3NI,#,/,#Q)SAMP@B&?h[D|K@P0@62[S@5%AKHMIM]PKHEI,#V0HO
  v@[/+@4/j@4%L,?+$@C0HEI@60e@5/GAqIA@8/DJ@60|Mp@6(NUB]O+@3.qI@4.^2@4+Ic.SU@5#|vKAI%MI RO%PI +%SyURO
  S%yU@6!KH@7!|Mp SIp,&H/|K,&_2,$4,YNI.A%SPIvT~jASPh&mNIS$?HBOjIR,&()#2CF9$,#w%[p&,i6%m^S&k@0$+&Vh|C
  ?0$[n_A[3$[p$MORPHO^G?0![t|e/(nUA/(nU~2D27&YN@+!D&AE@,!30!TIFkAGH nz%zB%zBH%zG%zGHH%BhBh ACADEMY z
  J%zJ%zD%zDH%zDD@&!H%YEY%zF%zK%TUAuG zK%zKHH%z@d0H@E&H%z@D!A@L!@Y(H%zQ@1&Q%YI%zZH%AjGGd zZ@K&+%Yb%z
  M%Yc@O&GN&zq%zP%YU%Yd%YdR%zGH@B(H%AYh +%zS%zSS%Y.s%Ye%YeH%zCH%YeT%zV%zW%zY%zZ%yWELmMi zZ%zZZ/(UX$#
  2D6F$^enlBI/*0L%$|H.H#2D7F$?c]sh/(ae)LOA%MOA%ROA%SOA%|OA%BOA%TOA%COA%N@&!YO/(Yo(OA%ZOA%D@&!@(!JOA%
  ~BA%?QA%PHOA%P@P!GW@(#I@(!g@(!E#2DA0%|m%SSU%SSI%|mA%SSg%SSE%SSO@D!8%CCA%CCU%CCI@0!@1!g%CCE%CC@F!B0
  %ZZA%ZZU%ZZI@0!@1!g%ZZE%ZZ@F#@j!j%CCHU%C?P@1!A@2!g%C?M%C?Q#2DC0%Qz%QYU%QYI%QzA%QYg%QYE%QYO@D!8%Kz%
  KYU%KYI%KzA%KYg%KYE%K@D#D0%Xz%XYU%XYI%XzA%XYg%XYE%X@D$8%Gz%GYU%GYI%GzA%GYg%GYE%G@D#E0!?Y?nn/+6@*/+
  6=&/+679/+621,;b#ES-TE&A&IE,=j#&MrOGtPH UK&Ye&YU&]lA&^F ,<N&+&/+4e(!_y.k/$Mu$~L.Hh%?7@2*!]@2( /#.D
  (?@81_o]hPOL.u.Hh$?7@1)!?7,GW#OSI@v%@4(@d+|k!]7_oO/$Pi$@<&EDITOvb ?erIS!_POS!FORK[D@/#_u@1*HYPODIA
  xOm!?7O.yOS,Fi#cCOt,G#%?7,WV#.j!?9^3]N!]j/%Rb&PbM BRcCH!]Na?s!~Iavq.A!]7^MstPHt|C,#a%~I,rJ$.z!]7~l
  .D/%Re)~O,HT#9/$lx/]7/&5X& +,%_&9_R@W$a_M_A/%Qx$A?3.K~a+!|kD /%R$)?3.H!_u_m+!~m~I!_z_b!~2|H ^b?3!~
  W?Z!_o?3$?Z!~W|G?W!fGGha]7GUdD%,#3#W@6!,MI#|E w!~Y-EM ?o!~D-+!S|2O/*zo$[p!~m|Y ?6!/#)r$/$ee$CAPITU
  LUM!?9]N!_u?Z!?9^L/%Y0/?oa]7UP~VN!?9/&23)!]j^M]x%]xa]x.A!@1!$]xa?3@K!|x[D@u!7|h!~T,#v#^VIEVb ?Z!_P
  US.H!PUNCT~jEmVe@4#?eN]m ,7W$!?h PeTYa_y?hBd&]7/%W#)?Gi@s&/&ov%/#5e&.T/#5r*/%85$/$qo(7_R%,(2$@1!+@
  0#^3]N#2E80!CJK tD]QuPEe%CoFF%|D/)|C(%_W%.8%yBm%KNIFE@=$%DIVk.u%SEb%|d@7$lME/)||+%SNAKE%THuAD%SN_K
  @_%]A@,%[6%tP#2E9B%?QKE%SUN%MOr%DEeH%MOTHh%CIVIoc%~v@W%FIu%sW@1%|V[4TRg TRUNK%COW%DOG%JADE%BOLT.IC
  LOTH%EYE,<B$@[%BAMBOO%SILK%C-|V@,#Ni,$1,M[S%SHgP%tM%EWE%^5%BR~k@h%MEe%MORTd%GtSS@^(%TIGh%CLO|5S%~y
  @;#,#/$g%|V]K%]K@3$PgCH(|KLL%F_B@7#CdT%|VWbK%WbK @_%IT@e$G^5%^I@u)^H(GeE%M_J@N%tk%BLUE@A#TcN[DmeHh
  (mAF(WkD(FLY%Ee,#u(@J#Ee%[8@.#HORSE%BrE%GHOx@7#F]m(BIRD(Sb,#e#HEe&YEL^L@B$ROG%J@j!VEN%C-+@1#T_BH@1
  (DtGr@1#~VTm@6#@,!@6!#2F00!KAqXI,*5#rE%^E%?3%|a%|D%]H%~Y%oD%Mc%mGS%[Kh%[E%[B.8%C_L%]R,*K#_D.8,*P$%
  POWh%WtP%SPOr%_y@?#HID]c/%V)$Uu%|2,*r*,+K$PvVeE%AGAk%^g%@N([C%S?QLd/(o&$ S^LLY%EVENIq%BIG%WOMc%?PL
  D%ROOF%kCH%|c%lME%?ePSE%SPR_K%^f%vVh%WORK%rESELF%~VBc%DRY%|P,,!$?7,#U#^IxvDE%~Z[6S%SH_B%.7,,@#%Bvx
  m%xEP%]A%HbBhD%DOOR%[6%,5/#%tP%SCvPT%DIPPh%AXE%|k%NOT,,[#SAY,,a#TRg%lCK%xOP,,m$WEAPr%DO @N!?Xsu%FU
  R%CLc%xEAM%~v,,y#ClW%FeHh%?9X%,,|+SL]R%FAq,.*(_gF_J,.1$MELr%TIm%SWEi%oFE%USE%FIELD,.M,S]SN[T%?7T[K
  %WHITE%SKk%?z,.i%Ed%.r%xr,.u%%TtCK%Gtk%CAVE%xcD,/&&R]R,/+$Jd%Ni,.o$FEeHh%^5%cD%P^L%Ed,.x#,.r$kIxh%
  ,&X#dR]q,/(%~N%OPPOSE%BOe%xOPPIq%COLOR,/D#,/;$kSECT%BLOOD,.a#,)L&,/T&WEx%Sg%]K%,/C#%VbmY%BEc%PIG%B
  ADGh%,/V#uD%RUN,/^#BODY%CdT%BITTh%MORNIq%WbK,/a$WkE%DIxIqU]m%VILlGE%,/q#H%,/e%%SlVE%|P|y[DBIRD,/o(
  WROq%[W%meHh%,/x(%LgK%S_J%mAF%WkD%FLY%,/p$FtGRcT%,/s)TbL%jIR%F]V%SACvFICIb WkE%CAULDRr,0<$F]m%,#G#
  SbT%DEh%WHEe%HEMP%,0?$M]Wi%.2%EMBROIDhY%,0M#TvPOD%DRUM%Re%NOSE%,0]#,0T#DtGr,0H$FLUTE#2FF0!]TDE/%]F
  %?L ]6.R _x&.W.R.E&@3#^a.C@7#@0%.z&F~b SURR_J&SUR_3,i@#A).z)]6)~h]6:_x)^N]6&_LlID#3000$|j/(:3$!DIT
  TO.H!]rkDUxvb xcDdD.O!]T]p^S$/%du$+$^z~8/#K5%,>V(@1+f @0(~0@2+.3/+4X&,?9%POxb.H!GEy @R#Q@^*@O)@7(@
  D,|l@1$,yZ$?o!_u/%rh$,=m$@0+^M@2*,#B# ^T[W!jqZ]L ^0/(/?;]TmVEL/+iS$_0+$/+oW$+$[KE_z+![7|W ?4@C#?9+
  !~w?o!~mKcA uPEe.H&~1/&Uo$S_J.H&^T~h[3@9+ @7%^T^N[3!?SD.M,%4#]TTEm,G:#^E FE[D|H.O,$((/(|9&!~m,&h$!
  pSU.H!PdT bThN.u@i#/(>R$]a$[4F]W |j#3041!]Gn|dA%A%|dI%I%|dU%U%|dE%E%|dO%O/(GD%KI%GI%KU%GU%KE%GE%KO
  %GO%SA%ZA%SI%ZI%SU%ZU%SE%ZE%SO%ZO%y%f%TI%DI%|dTU%TU%DU%TE%DE%TO%D/(lM$I%NU/),|%j/(?U$HI%BI%PI%HU%B
  U%PU%HE%BE%PE%H/)eZ&p%MI%MU/)3L%|dz%z%|dYU%YU@+!O%YO%t%v%RU/)36$|c.S%WA%WI/)+m%N%VU@:!G&KE#3099!?Y
  ]w-]G,&o+|G-@3*!@D0%@D0G,,3#@7$@/#?y YOv@^$,EX#]w ,&9q,&9~,&9~%VA%VI/)5<$$^b?3,%A$_g^H,&4) ,%n3KOT
  O#3105!BOPOMOFO nB%P%M%F%D%T%N%L%G%K%H%J%Q%X%ZH%CH%SH%R%Z%C%S%A/&x0$H%AI%EI%AU%OU%c%EN%Aq%Eq%h%I%U
  %IU%V%q%GN%IH%O,MT#%NN#3131![7n/)@i=@?!/)@oC@K!/)@u&/)JbJ/)E#]$[b$n/)KC(/)AY)/)AM)~H&_Y-@;%/)@u+_Y
  @Q&/)KL2~H/)KF(&?R&|9/)K,GY&?R%/)Ih+/)@f./)HH9/)Fj(I%YU-/)FI%I/)F&)E#3190!]Tc^wLk]z.H%_s+%_A+%~Z+/
  %o$(~O+%^b+%.6+%FIRx +%|D@(!8RD +/+6v$%HEAV[H+%[C +%Mc +,*:+U%ZI%JI%GU%g%ENN%OO%rN%IR%cN%kN%UNN%IM
  %qG%AkN%A@3!AM%OM%Oq%kNN$[cn/(Fs$H$nGH%LH%ZY@9!G$nGW%KW%OE%AH,O%#|o T%WG%XG%BXG%SW%HZZ%HZG%HP%HZWG
  %S@(!HZT@=!P%HP@2#@K#Z%N%H%S%P%SP%D%HZ%H@S!%SWZ%x%SG%PD%PZ%TN%SZZ%S@^!XWG@_#G%PG%Q#31F0,1t%KU&SI&S
  U&TO&NU&j&HI&HU,f<#O&MU&t&v&RU&u&RO!_S[7/)SH$/)SB+/)II@ A%^o A%~H A%_w@3!c@.!Y A%|X A@d# A%?R A@h$
  @M!]y@C!9@M!X@3!C@F$U$KOuc ?L OJEr&O HU#3220$IDE,]k$rE/%t@<MOr,GS#~v%WOOD%Mib%[C,HN#x^4%jVE%SOCIiY
  %NAM,FV#CIb%Fkc@*!COqReUL.u%lBOR%uPuS[K%CbL%xUDY%SUPhVISE%[KhPvSE%u/%wG$%bocCE%FExIVb%ux,FK$uACH!?
  SD ,$0(/%C%$%KkDhGd|2%S?QOL%KOTO$^z|3/$Ov$%~X +%~A +%[j@(!a +%|YTY@*!I@*#[EY +!/$Xf& w!/%*T$~X /%)
  v;~A%~A@E/$,(bC,(b~,([(CjMKO&JUEUI$[7@e#U!@A!,Cb&,$W#,(t9,(t~SECRi%pm%FEpm%SUIyBm%EXCELL[K%PRkT%e|
  2~L%ITEM%ux%COPY%?euCT%HIGH%?K%^L%]6%_x%^VICkE%uoGIr,)lEN]V$^z~A ,(8+[j%[j,(Y<[a,Br*|v[hJcUdY(FEBR
  @+!MdCH(APvL(pY(JUNE(JULY(AUGUx(SEPTEMBh(OCTOBh(NOV@3#DEC@+!!|lHG$hG$EV!oMIT[DoABIoTY,*F%]w A,:7#E
  ,>e$KI%KU/)Jw%S,>Q#SU/)Ow%y%TI%T,>8#T,>23HI%H,=z#H,=n0z%YU,=_/,=Y+!|lEt NAME uIWA$AseO$dUHUA$cPEA$
  AdU$kIqU$kTI$Ur$ESUKUUDO$gKAA$rSU$OOMU$KAIv$KdeTO$KdOvI$Gdr$Gcp$GIGA$GkII$KYU@<!IRUfA$KIRO@(#GUtMU
  @.#Mg~P@.$W@m!@=#@)$Tr$]2UZE@X!]2OrE$KgSU$KORUNA$KOOPO$SAI]2U$ScTIIMU$SIvqU$S[KI@(!O$fASU$DESI$DOR
  U$Tr$NcO$NOTTO$jITU$sA@L#seU$BAdhU$PIASU~P@,!]2@)!KO$BIRU$HUAtDDO$HUIITO$BUSSYh@;!Rc$HEKUydU$PESO$
  _UIHI$HhUTU$_USU$PgZI$Bgy$_bO$BORUTO$Hr$Pr@t!OORU$HOr$pI]2O$pIRU$pHj$MdUKU$McSYr$MI]2@)!v@&!BAdU$M
  EGA@(!er$,%a$zADO$zdU$YUc$vT@7!vt$RUPII$RUU?CU$uMU$R[KOGEN$WeTO,+m/]LR ~8)/$Qc:)|2)[F)/$Yo$)|8R|1)
  [l|1)FIF|1)|Y@(!I@9!EgN)^p|1)~X)~X-/$R3*!|lHs$f$AU$Bd$OV$PC$DM$DM |kD%CUBED$IU$,*_&HEISEI&SYOUWA&y
  I@,!&MEIZI$?ePOR.u$s AMPS$NA$MU A$p$KA$KB$MB$GB$Cb$KCb$PF$NF@D!F%G$MG$KG$HZ$KHZ$MHZ$GHZ$THZ@D!L$ML
  $DL$KL$FM$NM@8!M$MM$CM$KM$M,#v#$CM +$@&!K@,#M CUBE@;1.KS&S@T#s$Ks$Ms$Gs$tD$tD@>)PS$NS$MU S$MS$PV$N
  V@2!V$MV$K@)! ,(Z#PW$NW@=!W$MW$K@)!@=$K OHM,#A#AM$BQ$CC$CD$C.KKG$CO$DB$GY$j$HP$k$KK$KM ,ov#b$KT$LM
  $LN$LOG$LX$MB |c$MIL$MOL$PH$PM$P@&!R$SR$SV$WB$V.KM$A +,)R/fY ,)Nu/$X^;~A)~A-rE!|lGb#4DC0!HEXA/$uQ$
  |6Cue]q /%!=$&uCEPT]q [C%DIFFICULTY e |6BEGkNIq%Y_KHFUL FOLLY%WAITIq%CrFoCT%|6dMY%H^5Iq.RGiHh%|dyM
  Iq%TuADIq%PEAC,c!#x]W%FEL^L|MP%Gue.MSS[TIr%MODExY%[KHUSIASM%FOL^LIq,gS# r |6DECAYED%AP_gACH%CrTEMP
  L.u%BI~KT/(,c%GtCE%SPoT~KAPdT%u~VN%kNOC[I%Gue ,#e#^g ?fS@4#PuPrDhcCE%|6ABYSMb ~v&Coq]cFIu%kFLU[I%D
  UR.u%Riue,$*$Wh%_gGR[T%DdKENIq.I|6^C%|6FAMILY%/%*P&%OBxRUC~L%DEoV,#5#DECuASE%k@*$BuA,$3(?XIq.R MEi
  %GA|5v,%n&P~k]cUPWdD%OPPR,%P#|6WELL%uVOLU~L%|6,bZ%&dOUS]cTH~dh&KgP]cx]W ^f%DEVELOP^Z%|6MdRY]cpIDEN
  %AB~d,$x$WcDhh&G[Km WkD&JOYO~jlKE%DISPhSIr%oMIT.u%kNh TRUTH%|d,%b)AFTh ?XPm~L%BEFOu +"

end SchemaCompiler.Pattern
