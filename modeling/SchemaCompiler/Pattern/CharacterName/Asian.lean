/-!
# Names of Asian letters

Rows of names in the order of the characters. `Pattern.numberedNames` tells how they are read.
-/

namespace SchemaCompiler.Pattern

/-- The rows of names for the scripts from Hebrew and Arabic through those of India to Myanmar and
Georgia. -/
def asianNames : String :=
  "#591!HEBuW.B iNAHy%SEGOL%SHb|KLi%ZAQEF Qec&GADOL%TIPEj%uVIA%ZdQA%P.sy%YiIV%TEVIR%Gh[S@(# MUQfM%Gh
  SjYIM%QdNEY st%TEoSj GEDOl%sZh%eNAH jFUKH%MUNAH%pjs@0!hKj@(# KEFUl%DdGA%QADp@g%QicA%YEtH B[HYOMO%O
  m%ILUY%DEHI%ZI^s$^TpSOt ?S$_b |KVA%jyF ,$V#&syH&QAMeS%HIvQ%TSEu,$r%syH%@>%OlM%HO]3jSh [hVAV%QUBUTS
  %fG[S.JpPIQ%MiEG$_j pQAF$_b tFE@3!sSEQ@3!|N ?3%Sk +@:!SOF sSUQ$^T~h?3%^N@;#^1,$z#j@U!,#H# Qec#5D0$
  n.a%Bi%GIMEL%Dbi%HE%VAV%ZAYk%Hi%Ti%YOD%[cKAF%@&!l^V%[cMEM%@&![c^1%^1%SAMEKH%@Y![cPE%PE%[cT_7I%@(#Q
  OF%R[S%|N%yV#5EF$YOD ~R$^BYID?z ?9VAV&VAV YOD&?9,$+#Gh[S,(Q&#600!.p^zw$w ScAH$F_B^x.Hh$w.NFj%SAMVe
  $^z^S.A!AtBIC-kD]PCUBE R_B%[l|4+!.ptY@B*Ph MILm w&|3~C w!AFGHcI w!.p?Z$DeE |H$POi]PVh|Cw$w MISt%Sb
  Lbl]L AlYHE.SSSblM%@1# A@1$tHMeULlH@G$%tDI @V#cHU%yKHbL,V;#]DyH&^B.aalMa~3&ZAk%[Z%fMp%]v$|G?W$n^S$
  ,A[#[V.H$~T?4_j +,F&$nK.sMIv ~3%jMZA%.aapDf.A([5+%~x +@6![5.z%~3@+!W%.a%BEH%TEH MdBUy@.!%|5H%JgM%j
  H%KjH%Db%THb%uH%ZAk%|F%|L%_7%fD%y@7!H%Ak%[u%KEHEHa~a.W(~E?6.E%FdSI ~3a]jV)@<!)~E+$TeWgL$nFEH%Q,)^&
  M%MgM%^r%HEH%~x%.a pKSUt%~3$[ZTc$fMMec$]vTc$[Z$fMp$]v$|Jf$SUKUN$pDfH.A$[5+%.z$|p|B.a$]j@L!^T^r GHU
  NNA$ZWAtKAY$~rw |dV.A&]j@+$,p,#_u@U![Za~Z?6$~w[5.z,)6*?x&rE&~Y&~D&[l&[f&|Y&|I&[E&^p!.p/#Es$w$DECIM
  b |H,Z5#+$[f _cxd$n?5BEH&QAF%/#A2$.a%.a.SSl&~1,#;#W:.z%]DjMZA&[5.a(~x%U,&r$]D[5~3%TTEH@(#EH%Bg,((#
  avq,&8$A [A~t%PEH%@E%@)#jH@h#(~a~l.A%N~3%D~3@;!@Z$%T?MH@(!@Q!DDb%Db@y!?3.E).z.C|dyH%fHb%D@(#UL@E!
  ,#>*([m@m#RuH%uHa|dV(@e%(|dV.E@/#.C?3.A(~a.W%JE@M#@[%|Fa@E),)S%:.z.C,#m%_7a~a.z(@3%yH +%Ak +%?5FEH
  %FEHa?4MOVED,$$#%V@9%@p$%PEH,*+$a,#,)A%K@:#SW.s.G,*F#,$j%A%q@2!@c&GAF%G@A#%qOEH@0!,#Z#%GU@2%@v%lM,
  $p#,#0*:.z%^r,$Q#&,*A$%R^r%^r,&y)%HEH DOACH.sMg,&J#a?3@<$a~3 +&GOb@&!,(1#,.c) GOb%~xavq%KIRGHIZ OE
  %OE%U%YU@7(YU@H!,&9#V,.H(%~3a|y(|dV%~x,#:$E%~3,$h%&BdRg@(#,#?#$[p$nAE,1O#^B_7alMa,.W&(QAF +&^Y]d[i
  &]3.a&JgM&@n!&|F,1Y#AzH$,=A#RUB EL HIZB@r#_4~8&UP_yuCyqULd ~8&?5[8.IKjH@y!n[i%^M|F%]DpDf%~x%~3%]D~
  3&^r$PlCE.ISAJfH$EMPTY ?K ^MxOP&]D+$_4]DxOPaF]W[D?K$|d^MMgM$nDba]jV%uH +![V[J[D,/A+(rE(~Y(~D([l([f
  (|Y(|I([E(,/A#n|L,(;#%fD +%[u +$w SkDHI .h&POxPOSI~L MEN$nHEHa]jV,Lj%[J.I_P$SUPt^Ed [p$,L~$+@7(?W@
  7(]J+$,M<*&_x@J(@;*$,Mg/_x$CrTtC~L$HdKmc O.yUS%Mi@+$AxEvSCUS#70F$.V^S$nAlPH,1=%@/#BiH%GAMb@(# Gd|Q
  NI%DbeH%?5fl|4R]m%HE%~x,5_#HiH%T@&!E|4@P%YUDH@(# HE%KAPH%lpDH%MIM,;a#EMKeH%[c@,%,;c#_u@(!7HE%Q@T!R
  ]m,;b#W%PhS]OBHiH&GjMb&DHbeH$PTjj.A%.z%?3TED$ZQAP@5,RBASA@5#$?7Zlp ]I&AqULd$H@>(@/$-ESASA @[$ES@A(
  RWAj$/#Rv%?3$Q~kSjz$RUKKAKj$~Z~,1k#(.z$,/$$&.z$^3^E@.$MUSIC$BduKH#74D$nSOGD]OZjk&KjPH&FE!.pnB,1R
  % ]ILY,3$(@v$(@=#_dUP~t.E<.z.C,9M$a.z,3(%,7^#,3e$%j,9n$@Z.,4O#a~lLY.E,4p$@X&%uH.T%|F,4*&Aka~Z+@d&[
  A~t.A(@a%A%F,:u$z,#*.,;5%,2H+@?(MgM@=#),2Z#@c$|dyH)V%lMaBd%uHa,#+&(,22#|F@5(%jHa|d.pnyH.E<.i~Z?6%|
  F +,.o#@B+,=z#,/$1w~Y.A<~E+,2J&@G7>~E+>[l.E%~x@l<~3.DRg@k;%jH@B3,#%#|F@>5,(/#V%K,6H$W!TjcA njA%SjV
  IYcI%^rU%tA%BAA%L@7%KAAFU%AoFU%VAAVU%MgMU%F@:#DjbU%TjA%lAMU%G@8#GNA@^$|FU%f@/$Z@7%y@*$zA%s@.$J@=%C
  j@+$TyA%HjA%KjA%TjbU%ZAA%|LU%SAADHU%f@)#TO%ZO%AkU%[uU%Q,#D#WAAVU$ABAFIo$AABA@,#IBI@*!gBg@*!UBU@*!O
  OBOO@,!EBE@*#YBEY@=#BO@*#ABO@d!,@y%nNAA#7C0!NKO ?x%,d:*%[f%|Y%|I%[E%^p$nA%g%I%E%U%OO%O%fGBASkNA%N%
  BA%s%y%JA%Cj%f%t%Rt%SA%GBA%FA%KA%l%NA WOLOSO%p%Nz%NA%j%WA%z%Nz@=&JrA JA&Cj&t$?Y|P]DTrE&^M+&_0+%^I,
  l.$]c+&]D+@<(NASAoZ.u.H%?9?3.A$]D~M.n$^M+$|vOO DENNEN%GBA]2UNEN$?Z$[U^S$lJcYbc#7FD$DcyYbc$DOROME w
  $yMc +!SApvTc nAlF%BIT%GAMc%Dbe%IY,)c#ZEN%IT%TIT%YUT,)j#%lBe,4J(IqAe%k%FI%~UADIY%QUF,4<#SHc%yAF$^T
  k%k-AlF%OCCLUSIr,Ng#$^enEP[KHi]PYUT$^T@2*,EI#^IE&E&_L^IAA&^I+&AA@2$&@&!A@g!|PA@O#+&^IU&U@7!I@b%I&I
  &O&,(u$^TNEQUfA#830$_j +%AFSAAQ%AqED%BAU%epAU%|MYzAlA,87#@K!MELOD]PQI~U%ZIQAA%@/$AEF%~VU%dKAcU%SO
  F M.sFAe%cNAAU#840!Mcf]PnHbQA%AB%AG%AD%AH%U|KNNA%AZ%IT%eT%AKSA%AK%b%AM%c%AS%k%AP%ASZ%AQ%d%.s%e%D@Z
  %K@j!k$AFFvC.u.H$VOC,)1# +$[s+#85E$_j#860,<2%nplz]3qA&JA&Nz&Ty&NNA&N@(!Bj&t&Ll&LLl&|m#870!.pn.aaey
  CH[D[Z)~O_y[Z(_y^b|o(]7+(@?$]v).6_y]v)_3,4a#_y@,!)]7+@6#,7?$A@R%@l$,7&$@r%.C@D*@q$@7$)@Q&]7vq@Q%@1
  $@Q,@7$)_yjMZA)]7,MA%a_LxRUCK @;!(~x&~a.z$nTHk ~3$BASE^E _3?3$_o+$n^ra]j,8Z%,85&yH,@@#,7E#,7W&,8c(
  $~m|y#890$P_J.H.A$PIAxu +#898,C,#~2b-JUZ%^M~2]mpAM(IpAl(T.sgL$pDf.SAJIB$,LB& MOKj|mS$?8D pDf$[4@I!
  K@/!,;6#,#d#,8>$JgM,5N#,IJ#,9Y#,;G+,I)&E%lMa?8.D,9I#@@%~3a,;O$@o!<?4+%uHa^K,FP#4WITHk%ROHIqz ~3%^M
  .a,L#(E%_7 +,I2#]j|o%|n ,@]$a]jV,;P#@L&K,#M%,#V(.C^q,#K#,$>$^Y.W%PEH +%T@5#T@0#u@@#r +,#t)@4!.A%/#
  b+$F,Oq$&^r%P@[#V%T@k$@*%?MH +,&r$,E?#,#^#@e(Q,K=(,%a#,K5)lM,;^*GtF$|d,Im&]D@.%&,:j$,#f#&~2SAH&ZAH
  $]4 ,+e$(.z,6g$.E@9!?S.E%_3?4]e@0#,Gs#~x%]D~2d-RUB&_7&Ak,$E%a]v%^M+@B#eH-THbej(AS-SAJf(c-NISF(SAKy
  (QIF(WAQFA&,Zc&&,Zc#$DISPUT[D,J^&~WfMp.E$?k,Xb(%[ZTc%,Ur#%,Ur#~M_A,L9#~a+%^K.A%@4#E@4&E$_D@X/,+D$x
  $[Zavq&,7($va?3/#E1)A$_y+/#E>,$?9_y@@$(.Wa?3$@3&@0!fMp@*!^T|RWAYS ,W$(!DEVcAGAv w ]j?F%?F%.m%~p$n|
  PA%A%AA%I%II%U%UU%~qR&L%?EE%|PE%E%AI%?EO%|PO%O%AU%KA%Kj%GA%Gj%qA%C,:b#JA%Jj%Nz%Ty%TTj%Df%DDj%NNA%y
  %Tj%f%@2!A%N@6!s%Pj%BA%Bj%p%z,;C$l%Ll%LLl%VA%Sj%|m%SA%j,6y#OE&OOE$w ^y%.v@7#AA&I&II&U&UU&~qR(RR&?E
  E&|PE&E&AI&?EO&|PO&O&AU$w ~o@[#PR]mTjMet E&AW$OM$xR[T w UDey&c@)!$/#OO(@V#?E^IE&UE&UUE$nQA%KHj%GHj
  %ZA%DDDj%Rj%FA%Yz%~qRR&LL@Z#~qL(LL$Dcf$?9@)!,>k>.Vw$w ]DSsC]c?3$n?EA%OE%OOE%AW%UE%UUE%MdWAv Df%Zj%
  ]Bz%GGA%JJA%[v%DDf%BBA!BEqAo cJI$w ,(U&#985$n,(U4#98F,(Q##993,(Md#9A,(L2#9B2%l#9B6,(G*#9BC,(@@#9C7
  ,(<##9CB,(8*nKHcf y#9D7$AU ]9^S#9DC$nRt%Rj#9DF,&U6#9E6$,C=?ta^b?t(,k3#5^S%w$?lNUMEt~P ,ar+_AL[T TH
  c |6DENOMkA~P%@.( |Y|1$ISSHd$Gcf.H$nVED]P.m,([#ScDHI.H#A01!GURMUKHI w AfK BkDI%@(#~p#A0,((1#A0F%g%
  AI#A13%O,(!dA2,(!3A32,.M##A35,.M$#A38,(*$A3,(*$#A3E,(+1#A47&g&AI#A4B&O,($(#A51%Ufe#A59$n,,W*Rt#A5E
  %FA#A6,&h@TIPPI$ADfK$Iv$Ut$EK rKd$w zK.s$.Vw#A81!GUJdeI ,+n*A,+n8$~r?EE#A8F$nE%AI@4#O#A93$n,%~eA,%
  ~4B,%~&B5,2L.#ABC,2ED#AC7,2E(#A,,1+#AD0$OM#AE0$n,+p3AE6,1BC_5+#AF9$nZj$w ,:2#%|Jf%pDfH%~D-?4^y.A%?
  S @+#~Y-@/%#B01!Ovz,&D+B0,158B0,15%B1,15fB,+54B,+5&B3,&60B3,1;BB4,1;%B4,&.+B55%_L^E$AI,18#$AU +#B5
  ,1=(B5,1=8B,+R@,0F%nWA$/$1h/%_A|Y|1TH&[EH%~E@1$S#B82!yMIL w ,&;%8,0G2B8E%E,0I$B92%O,0K(#B99,&5#@.!
  C%J@*!E,&7$#BA3,&0#@.!8,:h)#BAE,:c@#BB,0.3BC6&E,00$BCA&O,02+B,+%$B,53*B,*tA^z|2%_A]M&~C$fY w$Mr|4+
  $Y,ei#DEBIT +$CuD@+#AS.A w$_5w$^z+#C00!TELUGU w ?Y?F.A,>h(%?Y.m.A,+%7C0,%o(C12%O,4=fC2,>gL#C,+*CC4
  ,&7(C4,&7/C55$]9^S,+0&#C58$n~U%DZA%RRt#C5D%NAKAAt.MLLU#C60,+=4C,+=@#C77$w SIDDjM$[n?x [hODD.MWhS.I
  ,9N#+&~Z+&~E+&_A[hEV[H@6($w TUUMU/#;.%w ,>s#,C^*%,#%$,&t88,&t)9,&tjA,&t:#C,541CB,&tCC,&t)C,&t0D,&t
  0DD$n,&e*%FA#CE,&h6E,&hAF1$w JIHVAMUoz%UsDHMcIz#D00!,Ub#w ?Y.m,,1*,=t(%,&;5D,,2)D,,2=,Gv~%TTy$w ~l
  .D ~o%CIRC,ti#o,&L<D,,C)D,,C/$n?4uPH$w st#D54$nCH]WU M&Y&LLL,1l&,4h#rE-]M-cD-|YTIiH&FOR@+!%~E[EIiH
  S%_ATW[K@?!T[K@<!@3!@>%FIFTH$n.qII,(@4D6,2uL,6GG$DeE.H,$I&NN&N&RR&L&LL&K#D81!Skjl,;$&z%~pz#D,6j#Yc
  NA%A@*%E@*$g@*#I@)$@*$U@)$U@8$R@+&@5&L@+&@5%@o$g@u$@h$O@)$O@8$@K##D9A%bsPtcA.G@<#pjA@2! +@;% GA@</
  KcyJA NAASIKzz%SczK@J&@X&CA@r6J@<0ybU@r*&ScYOOG@5#K,#*+J,#*,Ty,#*6Df@</MUURDjJA N@f#@s%Df@s+@r7@q0
  Dcy@n(#DB3@r%@q,s@q6BA@</p@4#AMB@@(z@)#t,#)%D,#;%l@4$C0%V@K#,%M$.N@0!,$R&,#k)+%j@=*@e&%FA@l%A$w b-
  lKU@2#F,/%$El-PILl&KiTI AEf@2$DIGA +@9$IS-+@5,sA-+#DD6@9$@/!8&GAiy@o%OMBUVA@A$@1%@9$ DEKA@D& jA,#J
  ()DIG@2*GAYcUKITy&@.(#DE6$o|4/#2j=#DF2,$K#@u#,#a((@l($_j K~dfoz#E01!TjI ?L KO.GI%KHO KjI&KHUe&KHWA
  @/!r&tKjq%qO qU%?Q CHc&?Pq&Cjq%SO SO@9!?QE%YO YIq%DO Cjf%TO syK%~B THc&NAqMr~B&PHUTjO%^qNEN@N!DEK@
  N!yO@M$Uq&TjHc&~Bq@H!U%BO BAIpI%PO Pl%PHO PHUq%FO FA@3%c@2#c@2!.NMPjO%MO p%YO zK%RO RUA%RU%LO oq%L
  U%WO.SEN%SO.Nl&RUSI&SUA%HO HIP@J!CHUl%O Aq@8!NOKHUK%sIYcNOI%SAt A%pI Hc-AKe@4$A&AM,5a%E&Ug,5g#%PHk
  THU#E3F$?l|vBAHT$?L.N,YM#E&O&AI pIMUc(pIplI%lKKjqzO%pIzMOK%pIyIKHU%pI EK&~B&Tv&CHeyWA%THcTjKHe%NIK
  jHIT%zpKKc%FOqMc,5.??L AqKHcKHU%KHOMUT#E81!lO nKO@6! SUq#E84&yM#E86%so Gj%qO%CO@0!Cj%SO @@#C@4!Jj%
  NY@>#,nc$TTj&Df&DDj&NNA%DO%TO%~B@~!&yM@L!Dj%NO%BO%PO%P,#=$%F@y!@2#+%F@7#@N!Bj%MO%YO,()$#EA5&L_B#EA
  7%WO%ScSKvT Sj&|m%S@Y$@g!@_!Ll%O%H@|!$[G,/I$&pI Kc&,&u*Y&YY,&t#$w so,_@&@K!r$|G@0!LO&NYO#EC0@?#E&E
  I&O&AY&AI#EC6$KO l#EC8$~M,&p)I&CAyWA$CcCELL,rL#NIGGAHIy#ED0,?7?EDC$,*8#%MO$nKHMU G,#S$F0/#Z%&|uOM$
  ^TGTh ~5 TRUNCe[DA)-UM RNAM BCAD p;@E!T|KG +%]d~5 MDUN p%CLOS]c~5 SGAB +%Cdi@n!PHUR |J p%~5@[#@1$S
  BRUL |J%BS]2 ~5%/#[L&@0!]hSYLlB]P@T!%DEoMI,#A&Bxd%|J%^2S@c!@7#+@2!,#&&%Rk CH[HSPUqS@4#Gz GtM |J,#
  a#-DZUD RyGS ME ^ICc%,$F&$LOGOTYPE w Cj@I$&LjG +$AxRO^Gw SGt GCc -CHd@D$-KHYUD s&SDOq T|QGS$w RDE
  L DKd GCIG(G^2S(GSUM&NAG@7)&DKd@N$NAG,(1>%[4,4N:&~8$^TBSD~jRyGS%qAS BZUq ^2 Zl,$n0BZHI MIG Cc@N)SG
  OR @c#?M MGO%~U -PHRU%GUG@]$GYr(GzS%Aq Kjq@3&$w Yd T|KS%Md +$n,E,7#F49,E.@,E(0~U%TSj,Lx#DZj%WA%Z,^
  R#-A,ED#l,E7+A%K|m%FIXED-[i t%KK,_!#F71,E78(L(LL&E&g,E1#$w RJES SU qA RO%,+_(@f#_uI(II$w,%u$ NAA f
  %SNA LDc$^THbcy%PbUy$w LCI RyG/$?S%LCE ~U Cc%MCH@+#GR@*! RGYIqS&M[D+%]j@A%$|p]s[Dw @[(&@>%&@H(%nKA
  &Kj&GA&Gj&qA&CA&Cj&JA#F99&,3:4&y&Tj&f&@2!A&s&Pj&BA&Bj&p&~U&TSj&DZA&DZj&WA&Zj&ZA&-A&z&t&l&,2l#&SA&j
  &A&K|m&,&+&.S)z)t#FBE$KU RU Kj&Kj,)|+$CcT]W.u w ]BBEe&^D+&CAq TE-U&SBUB -CHb$|vDvL BU%RDO RJE%sD
  p GDc@4& ,/)%%,0[#s%^s BU&BU ^2S -KHYIL,,u# +(,#K#+#FCE$w,,r(,.L(@J#,,@#/#jM3%MNzM YI@9,,0l(%]dBR
  f RNY]c,2U0@=%,2_*/#t2$SVAxI/#t*$@6.a?6@9#/#l/(mAD]cMCHc,)S$TtIL]c+#1000/#i@&,Nx>N,,rN,,U%WA,,R$Ll
  %A%SHc ,PV+E%Mr E,c[#,+p#TbL AA&,,_+,fC$Mr II(O&E.A$,_J#,y?$p%~o%ASe$?cw ^Wz(t(WA(j$nGue.N,<K?w ^
  F |E%|E$|vLOCe]q%?XPLiED%AFOu^ZIrED%GENIT]q$n,/s$~qR,MI#,No&,/O*$nMr qA&Jj&BBA&BBE,#g#Mr ^WNA)p)l$
  nSGAW Kd[HSj@e#@4(EU$~M^T@4(j|8)KE PHO$nWExhN PWO@>#Tj)PWA@d#@=.EU:UE$@:0TrE-1====$nEA@=+NNA)YWA)G
  H@t%GEBA@>#I&KAzH OE(U(g$nSHc.G,/w%CA&ZA&Nz&f&NA&Pj&FA&BA&Tj&j,$e#SHc ^W@w#@1$AA(E(E.A([cY$@7$TrE-
  2=(5=&COUNCIL@6&EMPHe]PTrE$nRUpI slUq FA$w @3(@P#5$@n!,H3=$w KjMTI@T#1(3,4V$ITr A(AI$|v@h!rE&EXClM
  .u![t?Hc&Bc&Gc&Dr&EN&Vk&ZEN&Tc&k&Kc&lS&Mc&Nd&r&Pd&ZHd&tE&Sc&Td&UN&PHd&KHd&GHc&Qd&|N&CHk&Cc&JIL&C@&
  !Hd&Xc&JHc&jE&HE&HIE&WE&Hd&HOE#10C7&YN@+!D&AE@,!D0$nc%Bc%Gc%Dr%EN%Vk%ZEN%Tc%k%Kc%lS%Mc%Nd%r%Pd%ZHd
  %tE%Sc%Td%UN%PHd%KHd%GHc%Qd%|N%CHk%Cc%JIL%C@&!Hd%Xc%JHc%jE%HE%HIE%WE%Hd%HOE%FI%YN%EoFI%~WGc%Ak$_
  P |H!^en[tNd![tnAEN%HdD w%lBIb +"

end SchemaCompiler.Pattern
