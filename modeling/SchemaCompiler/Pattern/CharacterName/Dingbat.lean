/-!
# Names of ornaments and further operators

Rows of names in the order of the characters. `Pattern.numberedNames` tells how they are read.
-/

namespace SchemaCompiler.Pattern

/-- The rows of names for dingbats, dot patterns, and more arrows and operators. -/
def dingbatNames : String :=
  "#2700!.2.NFiY SCISSORS!~hBl,47%@8(^N@8!@H*0@/&$]B?N/#O@)LOC.u w!yPE DR]q!.Z![L!_oFIx$[6!VIC~PY +!
  Wv~K,=W$_UCIL!@)$~h@4&~0NIB,1O#,#+#,#3%^j X!]B@*!,<t#@2#@,$,0r%[z?h!]B+!_D?K +!]B@,#@9!5?h!|JOW[D~
  0@1!@V%@/#MbTE|C?h!xd.IfVID![m|0.t$.xOr-@m![m@/#SPOK[D.t![mCLUB@4).3[m_c,?S%SPdKmS!xR[T ,2Z),,>#@,
  !,#l$,@)#.3?K @W!@K$@8#]B@1*_Zxd,$,(@A#.t@f%t![E ,#N$+$_c@S!%_Z+!|Y @2!+@C!_cuCTI^Ed ,#&%@82,_~%@g
  $!|Y|1@0!t!|0,%g%|0.t!]B@*#|Y PibL[D.2.C~0FLORiTE!.3@.$,//$[E@I%,$>$@A(,$y#@y#,#S#xd@~#_Z.t,25#FlK
  E!T]V TvFOoeE @9(]B?MVRr ,%|%!]B@+$,&[/E |0_gPELLh ,$(#@60?h.H,%n%,Go$l|kD @:!,*N#DROP-@C&|k!~h+@
  <#@7/.3_m^T_I,JA#[U,JN$ ^d ~0X!]B[U^S.O!,Z~#D,OE#]B+$|W ~W?Z _n@a!%@.($?9@<6^M|W @=*9+!CURV[DxEM _
  P w _I,#;#@R#]A @.%.3]A!_1]B.3,E9$,EE&!,EP.^X,wQ#_I,EC#/$E5%@7%%@7!/#)A(@H#x,+t#/#mi)T@9$@K4^D]7~Q
  +,IC$X]7?@A$@4#DIqBe ,d?%w/%$4;^z|2$@J!_9@L!)~Y)~D)[l)[f)|Y)|I)[E)^p(@L#^l@N):~Y:~D:[l:[f:|Y:|I:[E
  :^p)@N!!]BWIDE-[9/#Jp$/#iV% +$?1+$/#K[$.r$@A%^t .r!DtF~K_b /#JU%BR_J-TIPP[D@K$!~R@v(!]B@2+?o[D@W!@
  +!@<+.3@a&D-D.RP-^C@t&[8%,y=$-+@K([8!]B.3,(r$[A~t.C@=$&/#Nr$SQUe @z(]BCrCAVE-_c@8(_x-|J[D~0@4$,88$
  .w-TILT[D|JOW@A*FRrT,(a#^N_x-@A.$~h+!NOTCH[D^N+!?k^K@4&~h@S1,lH$B@3(WHITE-FEA|5_p@8%.2@5&,&H&%@>$%
  ,&H$]B@F2&@F$&@F$TEd,.|#BdB[D,%#(@:&SHcK@;(WEDGE-|y@L*@71_C-_KLk@4(?9,$]#~E/#2J&b ,X&#~R ?d|d@,!!P
  hP[JICULd!_D|q$|s!]7S-SjP[DBAG /&^N%,U<#ORa?4]e!_t PuCED]c|q!|s@1(h!~l.Da]J|o!^U_0?t!^IDIVISIr!^U[
  Y?t,>Z#^GcD%OR,@^#a?KD ?3!cDa?3!Em^Z.I_C]cUP~t,2$#?f@=!,T2#!]7_Kh ]s!_y,^u$,Ts#~g|x,Q7#]6,cp#9/#C)
  $&|x$/#An&^I_y|x$@j!@R!a?S.A!^O DIVI/*9*$]JRUm!~0,*F%|RD ?v&?va]8T]S),,Y#$|k@3$&@3#!^U]7~0|l.9/(Ka
  &k@/(?9@1*~0~Q@1(,1m%_,V@$UP~u_k.r/#Wi%.l GAPP[/#][)/#Vl$/#Gd&!^I]8,/P%+/#pA%$]8?9+@7*?9.r$/#ax*@?
  $@K#@8/%/#Z7&.r!BtILm PeThN BLcK%?6-1=&12&3&13&23&123&4&14&24&124&34&134&2@+!@(!5&15&25&125&35&135
  &2@+!@(!45&145&2@+!@(!34@E!@6!@.#@)#6&16&26&126&36&136&2@+!@(!46&146&2@+!@(!34@E!@6!@.#@)#56&156&2
  @+!@(!35@H!@6!@.#@)#45@o!@8!@.#@)#34@M#@:#@0$@*$7&17&27&127&37&137&2@+!@(!47&147&2@+!@(!34@E!@6!@
  .#@)#57&157&2@+!@(!35@H!@6!@.#@)#45@o!@8!@.#@)#34@M#@:#@0$@*$67&167&2@+!@(!36@K!@6!@.#@)#46@v!@8!@
  .#@)#34@M#@:#@0$@*$5@/!5@:!@.#@)#35@P#@:#@0$@*$4@0#4@<#@0$@*$34@U$@>$@2%@+%8&18&28&128&38&138&2@+!
  @(!48&148&2@+!@(!34@E!@6!@.#@)#58&158&2@+!@(!35@H!@6!@.#@)#45@o!@8!@.#@)#34@M#@:#@0$@*$68&168&2@+!
  @(!36@K!@6!@.#@)#46@v!@8!@.#@)#34@M#@:#@0$@*$5@/!5@:!@.#@)#35@P#@:#@0$@*$4@0#4@<#@0$@*$34@U$@>$@2%
  @+%78&178&2@+!@(!37@N!@6!@.#@)#4@.!4@8!@.#@)#34@M#@:#@0$@*$5@/!5@:!@.#@)#35@P#@:#@0$@*$4@0#4@<#@0$
  @*$34@U$@>$@2%@+%6@0!6@<!@.#@)#36@S#@:#@0$@*$4@0#4@<#@0$@*$34@U$@>$@2%@+%5@1#5@>#@0$@*$35@X$@>$@2%
  @+%4@2$4@@$@2%@+%34@^%@B%@4&@,%/#iJ$Y-[9/#hB%)/#h+(?9/#hi2@8(@](,3|)!,40,/#k;*.r,90$,>_#$~T,5h&@U#
  ?o/#sP,T+@0$$,#(#~T@C#$.ra?7xEM!UP/#q&&@i$/#r%&|y,$3+@c$@;#)@>%;,$M(.r-/#tA*?9@4..r.R .3?v/#te2@=.
  ^u.i,C.(EAx.C|i~y+$~y.ra]H/#oT,@R#r.C^t@Q!@X$@T!+!@h&@d)@L#s|4+!_0?t ?i,<N#[Y@0#_0@W) ?i@v#!^t@2$|
  i+@L#@=&@g#@<$@H(^,Aq#y@d&+!/#ww% _dDIuCTLY _x!@4#_x~uTH[HCURV,=P$)[A~t%[A@<+]6~t)/#vU%-|R dC ?U,C
  a#@2%.l +!~O@.$.r/#>(%@K%a^d%@;#aPLUS,L[$G,rh%@E#$]7@5(@q$.l ?V,<5&,(s&.A |P]8.r!]8@2%,&p$|P@E(]8@
  R&a_a.z!@4).PX!,<d$.P|d?S!UP,+H. @:#]6.DB ~g_x@+![BHdPOr%[B_x@<$+!UP@.!_y[A@+!/#)&%A@8$+@f(@T2@H0@
  z&[B@H&]7@z&/#yZ0/#uT)/#y^0y,.<$@U+@y#@R5]7@R4~g,$w#+,#.|UP.A @e,A@]1BE|R @9._x,#1#@n/@7!@p,[A@p3[
  A@p/]8@n=UP([A,#*3,#O4]8@]/,$T1,#;2^I?o@N!E +@y4+@@&UP,$CC,$k6,Ni$,4t%_4[8![Pw.A ,Oq&I _E +,,Q&@3#
  ,(5$&/#s$$A.A ,,u)P^A/#ee$@h)|q@0%@H(,Jq#@[(7F]m |y!_y/#kl$[B+/#kT%,Ka(Z ^wSPOT%TYPE ?W!]7~0?k.9@Y
  !@1#_R@/!@M#]7IpGE .9%_y+%]7BkD]c+%@N$|l.9/#cH$!@5*T]S.F~O?f!_y@5).6@E!+@8,~O+!,Iz$a?3@i%dC ^A ,#
  Z#dC [y+!?9@:#,%&# .9$@=#L[T-@c#3~Q,$0%?7F[I!~m~9^E/#zE(k_C]c]6!_y.kVAvcTa|k@A&_y.ja?3!.jaS ]e!.
  Y /#zw(@^&&UP!~W.j!_u+!.j,$f&u@/(^3@O$UP&[A,#D(ja_DdM [JIq.F,5B#/#5E$>@*!]6>[A@2#[A@2#_x.CUP>]7+@
  /#[A>,%I#u/$$4(@,&a_LBd&|d?S.A&_y.r +&]/#+A$]I.D,dn$l.D$_Q$_t$,Qi*?S,O#*@P!.C~O[4@8(@[$~1SUPEvMPOS
  [DX@u#.l-_1?1w!~g.r.P?S,e~%?B$?B/#wA&?Sa|d?S/#e)%%/#iK$@3%,qy$,8~#|a$[Y+$.t$@R!$|k!~Z]s[D|kS!~R/)I
  t$,%w$S.F~R@8!SEvFS e ,Y.$!_y~R.A ]7~R!@(! ,.4#,a|#@(!@3$@I!/#pl$/#,=*!.3@7#!~J~1@;*~0/#Q,%,jp#]7/
  %T/%F[I,*T%?9@7/k/($+$ ]b!TIE.K]b!]b NEGeEDa,#X#?8-[J[D,SZ&|kaCrTOU_p_K^E!kCuASES AS!|QFFm _h,06#C
  |Z_Q(_Qa~I.A/#~B(@;$!GmICH xdK!THhMODYNAMIC![A/#/6/,eA$a[B.r$/#2Y%@1#,$T#hROR-Bd_p~0|k%.3+%~0?v@,&
  S%@H!RUm-DElYED!_t _E!|h,*9#!_t,BN$BIG |h$_t!?9,<H#~T+!,ci#,^_$/#jZ)TkY!MkY/#un$,cS#4_E&_a+&~J+%~
  e _Ea?3)@k!%|l]i _E&~e +!~Z^G.i_E%OR +@e#.Q+!MODULO ~ZSUM/#[~%a]g!_k]g _E!FkITE PdT ]g!]ga?9|o$AVE
  tGEa|a!,>($.u/#an%!.l kTEGR.u!^E@/&a/)Om&s|4A_3POm&,>e)+%^vkCLUD]c|5.Mm!]g A_3A _b _E!QUehNIr ,#[$
  ]ga/$;)%%~Jw/#x^$%_LBd,+M%]s!]4 ,+/#_E,4G$?Mp /#f,&&PIPIq&_gJEC~L!_awa,/^%?T.B +&~I/)[~%&~I +&|p|B
  ~Y&.3~R!^d wa?Z@D&[Y?6&_0+@k!.F]7[4?S&_y+!VEC~P.J?h _h!^j w,.?#&,#o$/#yx)a.6CLOSED!SM.s@P%@p,,/|#@
  g$T.B@C%?9,0;%?1w,#H$,#j$+@D!+!]hIOR@s!_xH.i@2%,7K$uL.ub,%((!AMbGAM.u.JCO_h!]i,_/#ea^d w%,*^#]i +%
  ^GcD@;#GOR$.W ]i!]i.A ~e!~e.A.D.A@8&.D@<&,0@#.C]sEDa~e!]i@5+]i!?V~e,1<$$]i +!?9|l,(<#@>*.C,%7(Gc/%
  1e%OR@Q#,bZ(Z]hSEC~K/$#d%!SLOP]c]4 /$!g$^GOR _LlPP]c@G!$cDa^bxEM@o#@2!]J?o@1(?9,5f#/#p4%9,&|%dVga@
  /#@u#@I%(@6#,%x#DOpk cTIuxvC~L%tqE +![P,(i#E,1&#ICb@1!A!~T]I.Da,LU$(~T+,=_$@A#&_0?6!|U ^d |U!COqRU
  [K@]$[NSa.t!.d[O,)#$.o/$3r$,>T$.L,)!$A [P+@7!,>Q(?9?W [N!~ZCrSECUT]q [PwS!~E@M#a~a.W.C~a.z![R~1/)P
  F$!^Aa?S ]e/$2$%a_m^S.A@2%.J|Z[O@1,,h$#@6/3.A@62 _x,?r$@8+]6@I#AP_gXIMeE@[&C|W-^E ^v[O@7(^v@K1A ?8
  @L![N.A /$(f*@=,,>$#@S%|U.J[N@e)|U@^1|U@W.@w0@M$@H.|Z,#O)@3%!@1+@R(|Z[O.J/#y7$(^A,%]#@0!!,#*$@A$)[
  y+%@N&:@B!|U.J/$+L$$.W ,#f$Pw%@^#9NEx[D@B$%^A,*u$,#K$,+n(A%,:q#+!^A ?VBY CURVE![y@6)?m.W,$/&+!|c
  h THc!]4R @2(.J[O@6!,+P%BUMPY.A!_f.A ,&z$[Pw/$6T(A ,(5)@9)@G.@A0.d+@A,.d@C&?9_f$|r!|qa?3!/$6U%a_aw
  .E@2(,2i#/$7@+,*(%@8&.I.W [Pw@4+,,B$@6,.d[O@5,^v+@4%l]7_D.8 _E$,4X#V,q6#$|q.J[O$@X&A |s,H&$|q!|q +
  @1%s$,&N#|q%.i]s,Am#?oa|q,pR*[A~t/$2P)aTg.RP!TRcSVhSb ]i!FOR]z!Nr@+$|P]7,pX$$~g+,r~*aS,@]$~T/$7e0]
  7+@?$?9+@8&?9]7@J%^I?o,Sc$]7MEMBh.I@I!!|P[B|x,=[#$,qG#,35$.W @>$!?9@*!$~g+$|o ^vw!_u?9@/$/$E(.a_uN
  EG.u |a!~m^E,r;#(.z!@g! +!_Q,>e#%,&d#,KL&BkdY uL.u&~1@B!$?W _E$,+j&,,X)|Z/$@.$&@7!~T|h@a)!]4 @u$,3
  *$|h@+!~0@6!,?H$@0%^t ~0,Z5#,[!&+$~y,a[$,NG#3.r!UP,a9&,Zm$3@U9~g[B,X6(TIP/)s,$,v3#]8@71|ka~O,E8#.6
  +%~h_y/#Nj),I(#v/#O1,O+@L!!?7|k!.3]4 /#TM(~n|d@1(_UyGr@0!$HEXAGr,F0$J.3@3$@a$?S$^X?v@W%^X^O@/%|d?v
  %@2(]JELoPSE@3%~m+@.#]7/$O@&~E]8.rS!]7,ue0,tq*]8,ev3(,bo$&,dM0&,d5H$,],#,a03]6![Pw,RV&_s,)z#,SE,
  A _s.d[O,]v(,3O#&|s!]8_k,fK&@a*@4!@;%@e+,#%4@=!&@_%,gk*~R-[9~9.r!|P|Z^s|4.r$.w|Z|i/#Rt$xd,&F#+/#Xc
  +,(<(!]B,($$OVbaOVb ]e$?Sa?S +$?S/#,h$8!,##&a]H[D[8!,#+$@4%|y@D*J+!,#I&.0,%^$,dA&^t!|P@92/*>D%/$X=
  :@B!/$X@;@f&?o[D+@i3?U@C#_,~V%.l @W(,jP$@X2#2B76!^u@I*,#A./*@J,]J|o,$14JyB/#F4$m@T(/$]/&,$i)@0%/$]
  Y)@A)@M*.K@g(![A@X/@k*!@K%/$^5<.3,ST$,&85.l @g#_yU/#*O$.r&.6+/$5q$O+!u~VN ]6$_x!NEW^E@0%[m?f .rS C
  IRCL]c.l@~#.3.r#2B97!/#PK& A EmCTRrICS/#2/,]8[Q/+#@$x@4#,#j#%TO/#2M)+%]6@1#,#y%3@W&$@P!/#&P&@A#,%C
  +a^I/$e1&;,kW#UP@@:]8@>.UP~t,%?$@?1[A@?(/#3w./$<4)%UP@5$+@4%]8.i,$O$@4)[A@4(!vBBr .r [B]6&_x%~g@+$
  ]7UP,_V%[A%_y/$aa1,Z0#/$A,%/$@d+,@]%~0|kS%.i.3|kS$@)#/#^J&a^,Ys%X$.5X!.3|l?KD/#Vp%W,5Q%,5B#OC@.!@+
  %$^X/#bt% ?KD%[A-,&i#+%_x-+/#Yx%/$)%%!~O/#eF$,oN#^D[m_c.3CUSP!_1@3,~0@1!@>%@1*|k.M/$Dc&UNChykTY w!
  /$IJ$H/#[.$ [i /$&d*,>>#@=#!_gShPkA!AxtEA!HYGIEA!PHOLUS!N[TUS!~0MOr SEmNA,Ww# r ?h!TRUE ^D@?!dy!CU
  PIDO!jDES!ZEUS!KRrOS!APOLLr!ADMiOS!VULCcUS!POSEIDr/#h;%x,eA$xd,9w*,7k+R .r[8,.m4EvS [i /*S^%EDNA!R
  USS]O/(o|$|vVIGkTIm&NOVIm&QU@1#Bk@2#SENyGr&TuDECIm,E[#]b.E!UNITED.O!SEPde[D+!?8D +!sSS@1!_u_y.j!HE
  LLSCHuIBh sUSE.O"

end SchemaCompiler.Pattern
