/-!
# Names of punctuation and signs

Rows of names in the order of the characters. `Pattern.numberedNames` tells how they are read.
-/

namespace SchemaCompiler.Pattern

/-- The rows of names for punctuation, currencies, arrows, operators, lines, shapes and signs of
many kinds. -/
def punctuationNames : String :=
  "#2000![HQUAD!EM +![H|j@.$~D-Ph-EM |j![l-+!|Y-+!FIGUu@7!_j +!THk +!jIR@T!8 WID|4|j%Nr-]sh%]sh!]6-T
  O-_x.H!_x@/!]7+!]N!Nr-BuAK]c]N@z%?o![H+,#I$]I.D!/&o!$$^M+!]7|W _n^S!_y+!|W ^L-9@5#$HIGH-/(2/$@7%!]
  7?9@Q(?9@P=fGGh!?9@*$B!~S?B!_A?4mADh!~Z+!]J[G!]N.u _b!^E |H!_P +,$O&yEMBEDDIq,$U*POP DIuC~Lb [ieTI
  q@R(_LvDE@O*N.r /(F**/&.+($/&.+%PvME!?9@*#~T+!_u+$@3$$@3!Cdi!|W ]6-_d.k,$Z#_x-+!uFh[I.H!?9[U^S!]hR
  OBAq!_L^E!~dhTIE!?L TIE@h! kSh~L _b!AxEvSM!]N ?B![n|a/(I3%aQU]W,%o%_m^S!_m[U+![U_m+!TIRr]Ow i!_u/(
  FX&w!.3]8?B$_x~u+!^M.t!_u|G?W!CLO|CUP!~Z.tS AoGN[D~lLY!?a/(G^$WUq ?o!]j,#x%F^N_j.H!~E?4_j!_k,%+#[m
  @2#[f +!~Z+@4!3.H!?7?h!Tv?W!~m[m?6!^X^U|j!~2]sh!/&E6$ /&I7%!kVISIBm TIMES$|H$PLUS#2066,&z(ISOLe,&|
  +FIRx xROq @?$,(_,+!kHIBIT SYMMiR]PSWAPPIq!ACTIVeE@E).p[i Sj@@.N.ub ?wSjPES!NOMkb +/(Jj&8,ZO#I#207
  4/(O*2$_aw$^d$[Pw$]7_R$_y+@U#N!|p@d!/(Oi(@bF#2090,dl(A(E(O(X,Zl%H(K(L(M(N(P(S(T#20A0!EURO-?lw!?W w
  !CRUZEIRO +!FuNCH FRcC w!ot w!M]W +!NAIt +!PESEy +!_5+!Wr@<!EW |KQEL w!DOq w!EU@o#KIP +!TUGvK +!Dt
  CHp +!GhMc _UNY w@r!O w!GUdcI +!AUxRb +!HRYVNIA +!CED@=!oVu.RURNOIS w!SPESMIL@_!TEq,&m#D]O_5w!~VK]
  m ot +!^sD]P^T+!Mce w!RUBm +!lv +!BITCOk +!SOM +#20D0!?Y]7HdPOr/%X^%^I~m^E/(#X$+$.l .@>!?U+$]7+@F#
  _z_N$?U@*!@D!+/%|#%$[m+$EN/$c+$?S%|k%?v%?S .w|a/(!Y&A@F(SCRgN%KEYCAP%UPWdD _d~R$_t _N$/&MP$@.!cNUI
  TY.O$~T~dh?3,a6$/($2&]8.r@J!^I?9|h _N,/,#,$F#aBdB [A~t$]8,a=$/%[,%.t.A#2100!ACCOUNT OF!ADDR[TED.
  R |6|pJECT!?8-/%g~$?GC/(SG%CELSIUS!?K ^E.O!CAu@d!CAf UNA!EULh CrxcT!SCRUPm@[%FAHuNHEIT!|B|dG$?GH!.
  2-n?GH,#3)+!PLcCK@f$$@)#.K~ZPI!|B?GI@U%@2$L$|dL!L B.D.O,#x+N!NUMhO w!S_J u?eD]cCOPY_x@]#P@P+P&Q@9#
  R,#&%R,#Y,uSCvP~L yKE!uSPrSE!ShV]R.H!TEmPH_Aw!TtDE ^Tw!VhSICm,#)+Z!OUNCE w!OH,9&#j@+!w,#8%Z!~W[z|e
  ]k!KELVk w!AqxROM +,#b#B@L%C!ExIMeED.O,%Z#E$?GE%F!~W@L$M$|dO!.a.O!Bi +!GIMEL +!Dbi +/&]h%SOURCE!_1
  ?GQ!FACSIMIm w,#~)|dPI&[q%?G+&PI%N-dY SUMM.u!~W_9?GG(L!_u+@2%Y@_)]o?GD&|dD(E(I(J!_gPhTY ^E!~W.h!P
  h w!AKTIESELSKAB!~W|dF!|v[h/%w/$,#l%/(Y7*|ITH&NkT/%:@$&|8RD%~Z@*!/%:B(%~Z@+#S,|>#[m+%_A|YTH%[f @+!
  @M![E/%;=$HS@:!+%|I +![n/%Yg)!ROMc ^0+/$xk9|2%[F%TWELVE%[a%_A]M@s$_A~C!|d@h%/$y8;|2&[F&@i$&[a&@i!&
  @i!&@i#@g%@0! C D%[f ~C%|3+%_u@O!,tZ#_u@M(|Y LeE [i%[a EdLY +&~C%@O! ~C,%f(~8 ,%O#!~W?w,$T##2190!]
  8.r!UP~u+!,;?$[A@)!,1T$!~g[B+!^u+$EAx +!|i+$~y+@Z#.T@V%]8WAVE .r@4(~Z[9,#!3@]$a|y@M(.r FROM.D@P2,#
  I#.raBASE@]$]H@]*a^K@2&7_x.S,#N#%.r.T@e#~,#M&.raTIP ]6~t(_x~t![A@93_x@9#?f [A@H)?f@G#!.l ~O|G?S .r
  !?U+!^u.r.R ^H.D,%)$R.D.K@k!@0$@V!_D@T)]8,42)UP~t(,#3#UP,4J+_x~t(]6,#Z%@T4[A@T:.r.K]8,$l( ]8OF ,$=
  $!@<!,#m&$sI_p.rS,&f5,8K$K,#M(!@.&,#)#@F!?9.r.T,)8#?9,(v(@/$@C#,)i9?9,)k=~T,)Y*SQUIGGm @l%,(9&?9|o
  @x&8?o[D,#:4,&X(@t(~0@L1@|&~0,*D(&r PEDExb(@*$a]I.D:~m+%?9.r&.r @E&!_x@_* WbL,))&?f!|iEAx ,+($@H!!
  _y.ra|d?S![A,&d),$H$!~E,&_$S,+?$~m|o,+A)y@6%@@$?9+@?.?9@A%_C-[9.r@B*@6&[hbL!?XPm^Z!_T!|5u EXIxS$DO
  ES ^v@1!!/&Bg$Si!kCu^Z!NABl!Em^Z OF!^vc @0&|d@.&CrykS AS MEMBh!@s%@:!@9)|d@J/[J.I_gOF!,6P#_h%CO_h%
  ,6X%,Gz#^d-OR-_aw!?4PLUS!?1|a!Si ^d!.t _E!_z+!?B +!|lR_B!CUBE +!/&Uv$_gPOR~Lb.R!]b!_y.j!.j!MEASU_p
  .j!SPHh]Q+!DIVIDES,$+&@3$!_Q.R!^v@*$GcD$OR!]i!~e!]g!?9]g!,L:#rTOUR,Fl#R[W +!VOLUME +!?U+$@B%]g!.
  l +!|5uFOu!BECAUSE!ReIO,#t&!?4^d!EXC[T!GEO,HR#@?&/(BN(!~I,$l#u~I!]jlZY S!SkE.SVE!WuA|4_h!^v~I!^d +
  !ASYMPTOTICbLY [O!^v@71.o[O$BUT ^vACTU@:%NEITHh .o^s +!.d@b#@*!@0!N.J[O!~T~I!bL@R![RTO,$)$vC@g!@4#
  DIFFh[I .1!AP_gA?MS |6oMIT@O%,#O+.J|6IpGE OF!@+%.J@=!!?W [NS![P?W!vq.F[O$@:!euSPrDS.R,>E%S!EQUIAqU
  Ld.R!xd@Y#?q,#m#O BY DEFkI~L,(p&BY!QUES~L[D,$R#+!ID[K]QT@1!@/(xvCT,$F#+!^A.J@s!y@/#K+@.% ,%Z$@>%MU
  CH ^A$@0!.1!^v[RTO$@5$,%u&^A ^s [O$@q%J@H!!@E2RT@G*yTHc!@)#.JL[T-@Q/@>#$@)#@3!@F$_f!|r!_f,$.#|r +@
  0$R+@1#,+X&PuCEDE%SUCCgD!|q,/=#s +!^vA @3#%@3!@>$@q$s ,#L(@G!.I,$F#@K*a^v@L&MULTISi@+& ^j$~e!|l,(V
  %$_H+$,(d([O@4#CAP$CUP!?SD PLUS$^d$,RP$?1|a$?4_E$_z+$.t +$[NS$?o!|k@P/@K#!_y|x!]7+![B+!~g+!ASSh~L!
  MODELS!TRUE!FORCES!~T~l.D _y~VNxIm!?9@4#?9@6&,%Q&_gVE!^v@b!@7&@i#!NEGe[D@]2_f ~dh uL.u,&C$^sMb |pG
  RO~g,3F+@<)UP@I,,%<$@M6@>#_H,,N%,&;&pP!HhMIT]OCrJUGeE MevX!]hCbeE!XOR!NcD!^s,2y#adC$~R,49$^GcD&OR%
  ]i%~e!?v _E!?4+!xd +!?1,&!#!.7TIE!]7,#U#FAC~P |GDIuCT _h,Yv#]7@5.,1n#,.S$k^GOR%cD!?9|q$|s$]i$~e!PI
  TCHFORK![N.C,4($Aa?3,,0#~n,,r%%,.5%[O,,*, [O,,.&@.!^A&[y+&_f&|r,+U..J[N,+Y#E[D+!^v|l,*A*%_H+!@6*^v
  +$_H,/N*,.k(_f@6*,(F%v,&~.,8[+,(N2v,(P2@U<.J[N!~m[G!/#I6$,c(#~g_y?t [G![B+,:I&a^I]J|o&,*H#e [J.@4#
  ,:T)a@>/@^(?3.A&_LBd@P*@3#@^(dhBd&~Z@Z!S,*P$,#;%%,#;2@C$@</@Y%,#2%@1*Z ^wBAG,;l$|MP!DIAMih w!EmCTR
  ]P.r!]LSE!/(V1$,$i#_gJECT]q!PhSP@.$~w^E!]7CEIoq,*J%FLOOR@0#.6_yCROP$]7+!~O_y+@.#_u^vw!|l^O!dC!SEG^
  Z!SEC~P,R?&u?eDh!/&[q%]a!VIEWfy |k!/&^l$]hEx w!~W@n!WeCH!]LRGlSS!~O]7?f$,#J$,Y6%!~O[4]g!.6+!FROWN!
  SMIm,$N% .1 ~Z]I.DS!OP~L KEY!EtSE,W<#_x!X.FA uCT.k.8!KEYBOdD!,g6%.9!_x-+@T)]6!BENZENE vq!CYLkDvCIT
  Y!bL d_J-_gFIm!,c?$Y!TOTb RUN_K!DIMENSIr OvGk!Cr]QyPh!SLOPE!,Y(#hBOu@.%SkK!APL ,eA$b |vI-BEAM&SQU]
  m QUAD&@(! [N(,?O$(?v(JOT(?S&?S xIm@2!&|a.D&.w|a +@T$|a(@3!(^A([y+&]8VcE&_x~u@D%]8.r(@4$,]W%&[B|
  x ,*k$?q xIm@N$[BCdi(?q@D$JOT&UP~uVcE@C#,Ef%&~g|x _LBd&DEL@c)~g@c!DEL&~g@d%[A@d),K2%&QUOTE,#I)+&?
  v +&JOT ,#n#+@d!OE@e!@O%@c!@>!xd@n$?W,#.$?s&DEL@*!xd@h.[B|OE,#h#]7+&~I@H!,2a#@,!?Z.D@^#~I&ZILDE&xI
  m@1!|G?W,#g#,#5%^v[N(,>I$&,%8# ~I/(i5$k&_v&^7&.e@T%[M @;!/(Yz%&.e!^v?N.H,6:$,Q)(S]LLDE_p_D.8!.yL.O
  !~m^Ea^b?3!kSh~@6!CrTkUO~j~dh,a$#DIS@7&+!/(A0&O!?X,.$%+!~0|ka?K @r!![Kh.O!bThNe]q KEY.O!HELM.O,;|#
  ]I.DaNOTCH$~R [A!BROK[H?Sa^sTH~,U2#dO.O!MrOSy,fK#HYxEuSIS +!_C-CIRCUIT-_KPUT H-TYPE.O&L-+!sSS]q-P~
  b-[A@D$.O%UP-+!,88$CURR[K |v[i ~Y!SOFTWAu-,,#$.O,,2/,w1#/&v/(,$@%PuVIO~jsGE!N[V +!PRkT ,f]#.O!Cm
  d ,LO#R ~h]H%EX|2SIr%^N]H!_y@;#+@:,,r1% ~h?f&@=%&^N?f!_y@=%+@<,/)=r%,#,#&^bPIECE&@p#@;#@O%!_y@J7]g
  @H(]J^E@1(~h]6.J^N@^%|E$_x@4!]7+!,Lt$.RP$BOTTOM!~O|l.9!.6+%.9.K@3%tD]Q|v@G%]7~m.8 ^E,5:$JSCc ^E-1&
  3&7&9!D[KIxRY |v^D~l.C~O_x).6+(~1?S&[A.C]Ia?S,+[#~la~R@8&~R@8%.CWAVE@;&@0!@=!@4%@H(~O]6).6+!|lF_B!
  u~VN.O!EJECT +!~m,$z*MiR]Q?A$^H.K|ORT$|P_M^H@4#~Z@6!S$@+%.K^H&]sED$TvSEME$Tit@+#_Uy@+!![C GR_J!FUS
  E!~O_R,6K#~O?k.9@/%~Q@/&0TtPEZIUM,5c*a?S!|nN[T!FLe@*!AC,+*%,9j%Q]i,*b&EXPr[K.O!.3/)AO%~R$]6-+$UP-+
  $[A-+$@=(,;;#$]6@8&~R,Tq#bdM CL^4!xOP,8s#TIMh@6#,9!&aF^L]cScD!.3^X]6@b#%_x-+,,z#%[A-+,Ey$@F!|l[hxO
  P$?S [hu?eD!POWh.O$r-OFF@+!.O$SLgP +!OBShVh EYE +,gT#N~b%/(KC((T[V%[J +(/(It)%/(KC%%.X%.yL%.w|j%]J
  |w%/(Gx$%~m|w%[i@0#/(KD*%/(KD%&k%/(KD,%?r/$*C*%^l.X%/(KD,%/(KD1%CcCEL%/(KD(%/(KD&%@y%/(;_$%,B&#+%/
  (;_$%/(;_$%|j%/(KH$BLcK.O!_D.8,$r$EW^E@@$ ,1_#,#!( +#2440!OCR ]H$CjIR$FORK$]j@*#.yT BUCKm$.7 TIE$B
  RcCH BcK ID[K/(<H$$AMOUNT.I?N$?o$CUxOMh ,s*&NUMBh$?9.w|a#2460,4g#/%.1?,jY,|8R|1%[l|1%FIF|1%|Y@(!I@
  9!EgN%^p|1%~X!_S@~v?w_A[p$~Z+$~E+,wX#[f +$|Y@(!I +$[E +$^p +!^z|3+$[F +$,#3#@=!,#5#@J!l@*#,#9#@e#@
  *$I@A$EE[H@k!@2#~X +!_S/(wG$/#iR$E(F(G(H(I(J/#!<(O(P(Q(R(S(T(U(V(W(X(Y(Z,8k$5?H@bS%,#?U$?x!^l?SD ^
  z,ns),$q#&[l|1&,$m#&|Y@(!I@9!EgN&^p|1&~X!?9,)*$,ot:%^z|2,#/%?x!.8 DtWIqS ^D]I%]B+%^D~l@,&T?o ]I@2+
  @@(_k@@+_k@@+[A.C_x%[B^C.C_yHEAVY&]B.i_y^C%]B@D$@M%]6@M%]7@M)]7@M#@D%^DUP@V#~g@x7@D$@M#@V#~g@x7UP@
  x%~l@x$m@x*%~g@z$[B^C%[B@1$~g+%~m,#:&,$L(~g@X&@4$[B+%]B,#!$,#,%]6,#,%]7,#,+]7,#,*]7,#,$,#s&,%+(,#,
  .]7,#,)]6,%Z&I%]7,$&*_y@l$+@k&J,$x*J@E#@r&@=#%]7,$2$+%]B@w%^D~g+,#!(~g,#!,~g,#!=~g,#!2UP,#!&m,#!*m
  ,#!+,%D&J,%D+[B]J,%D(,%B)@9#]7~g,$o,~g@q&]7,(&+@E!,%2.~g]J,%y+[B+,$5)m+,$1,~l,$1%?9?o +,+I%?9,+W)?
  9]I&~l%[B|W@Z!?8&?8@,!|W%?9,+S$@A%]7@A%]7@A%,*n%@_4,+[(@_4,+O&m@_4,+C(@_4,)W$,#_&J@A&J,#_)I%~g@A4U
  P@A$m@A4,%G(dC ,$l$:]6(~g+:_x&?t ~h_x.R ^N]6)]6@.#_x(?h&]6&UP&_x&[A%]B@2+^D]6.C]B_x&UP@,!@F%.C^D@8
  %^D[A!~h[4.4!^N_A[EH .4%_l +$/#$k$ +$@B!$[f @3#.4$~E_lS,6u$@F$!F~b .4!]7|I@J0@^!@n+~E@E&_A_l +%[E
  H +!_y,#Q$D|JE!^X+!DdK +!~h,#c&,EN#QUADRcT,%##%_x$~h]6%,$G#N@)$_x)_x(~h_x@8$<_x%_x%@3&)@J&!.3|k!~0
  +$|ka_4?fS%?d.3|d|k!|ka]JF]W%~m+%OR~BGrb ?hHeCH @;#h,&H&yF]W&,&a&7+%?t@L*!@u%~0+!.3uCT.j@0%~m@2+_Q
  OGtM@1%UP,Be#@2+|@4%,D<%@2+@B3_bh@3%[A@Q+[A@Q.]6-_@2+@B0@q,?v@,!$?v ,%D$?v!FI|KYE!^O!~0?S!?7+!?Sa~
  mF]W!B~bSEYE@^!S@:!]7[4.2%_y+%^N+%~h+&_y,(<&.2%bL,c##~h]7@:)!@Z!@h!,(l#kVh|C?B$~0?S,*u#@5#@2#^N+!@
  a+/&GX&dC$@_!^N,]t#@Y#@R%.3^N_y~R%]7+$~h+%@L!~0?B!|k,#~+@~!?t @4#@V!,S.%~mBISEC~K^E$UP,HE%3!@/%@g%
  (@S!]4 ?S@Y$,#q*&^N+@C!&~h+$?S@?#+@9*,$E$~R,$5%,$3#0^X|k!.3@/%d@1%,$>$!.3SUNatYS!CLOUD!~c!SNOWMc!?
  Xi!.3xd,(:#^CNIq!TH~dhS~PM!SUN!A/(.m$NODE!/(.z(!CrJ,SL#!OP,V#$!.3,b=#rE@p#.xOT .8$.8a?N&X!_8!~cat
  k DROPS!HOT BEVEtG@S!|OGI ,Qw#,$)#SjMR^4!_u_1FLORb ]A ?B!.3]7_d]Y$,&0$,&e#g+@2!$[B+!SK~b.C?hBrES!C
  AU~L w!tDIOACT]q +!BIOjZdD +!CADUCEUS!cKH!OR~BDOX ?h!?P _v!?h.ILORtkE%JhUSAmM!xd.C?g!FdSI.O!ADI Sj
  KTI!jMMh.CS]Sm!PEACE.O!Yk zq!TvGtM [hHEAVEN%lKE%FIu%,%|#%WkD%~v%^f%[C!WHgL.IDHdp!~0,dr#]c[W$|f+,(>
  %,()%/#HH$_l MOr!lx +!MhCURY!FEpm w![C!@+#JUPITh!SA~VN!URcUS!NEPTUNE!PLUTO!AvES!yURUS!GEMkI!CcCh!m
  O!VIRGO!oBt!S?ePIUS!SAGITyvUS!CAPv?eN!AQUA@4!PIS,s~#0CH[T ]z%QUgN%ROOK%BI|OP%KN]V%sWN!.3@G@$SsDE S
  UIT!~0]A ,0W#+@^!LUB,]t#@E!@6#@B)~0@B$,)f#SPvqS!_l ^x!,63$BEAM[D@0!^xS,IK#|4+!MUS]PFLe w$NA~Vb +$S
  HdP@u!y/(0_$?h!EAx/(hd$VhSb uCYCoq.O!@,!L]c|v[hTYPE-1 PlxICS(2 +(3 +(4 +(5 +(6 +(7 +&GENh]PMeEvbS!
  .3@w6[DsPh.O/(i3$LY-@9.hMc[K sPh w,)B#CjIR,bI#E [W-/(q;$,3k#a?4_x&~Z?6,3_#a~0@5%~0?6!MrO,*Q$zq%Yk!
  DI@2$Gueh zq%L[Th Yk&zq%@7#Yk!~0FlG!.3+,+N%P]S!c?QR!?h[DSWORDS!SyFF.IAESCUl,)H$CAmS!AmMBIC!F^Lh!GE
  d@K%HhMES!eOM.O!FmUR-DE-oS!_KLk[D~0xd!~E^ES CrVhG]c_x&]6!WdN]cw!]DVOLyGE w!?8D ,+]#+$@(!!]hL^4[D@7
  !.C,+m#@,!@F#w$~1|o +&.i@8)!~mpm.T w!]J+!^X~0?S$.3+$|d@/!!MdvAG,fP$VORCE,(~#Mdv[DPdTNh|MP.O!COFFk!
  FUNhb URN!NEUTh!CEuS!PblS!JUNO!VESy!?PRr!.3MOr ooTH!S[VIm!|G@+$QUkCUNX!SESQUI,5X#eE!SOCCh .x!BASE.
  x!|kD,pQ#~0DtUGHTS Mc%]z!.3@4,,5+% WITH_K @2!!SUN BEHkD ,5R$tk!.3@L$,5A$@<$.Ctk!~W,4;+$,14$?v.F|k!
  ?iLcES!DISABL[DCd!OPHIUCHUS!P]S!Cd SoDIq,i>#ia~0?h,RT#@]%CjkS!^q[KRY!.frE-WAY ]6.SY TtFFIC!.3~Y-+,
  <V&7LcE MhGE@5#DR]q S^Mw!]B~0,=X&]7?V@w!,%>#_8![Y?t.F~0?S.F.3,8T#TRUCK!uxvCT[D]7@R!-1=!AxRrOM]Q|v[
  h,3)$]B?S.T/(Mz$!_UyGtM!_x-[6[D]hlC[D@8$/&6k$]j@2%.3?h r |MELD!|NTO SHRkE!CHURCH!CAxm!HIS~P]PSITE!
  GEd,&g&HUB$~1[6mS!pP |v[h^C,xr#^f!~c r,dE%OUNyk!FlG.FHOm!FhRY!SAILBOe!|l[m?fS!SKIh!]R SKeE!_Wa.x!T
  [K!]rB,]n#[8S~M[xY,8N#FUEL PUMP!C~gr .3|,/P%a]J^b.3xvPE"

end SchemaCompiler.Pattern
