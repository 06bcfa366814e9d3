/-!
# Names of presentation forms

Rows of names in the order of the characters. `Pattern.numberedNames` tells how they are read.
-/

namespace SchemaCompiler.Pattern

/-- The rows of names for ideographs and letters that stand for a form of another character. -/
def presentationNames : String :=
  "#F90/$av$?XPeIBIoTY/$*9(-*/.V9(&*&*&*&@)$@;7@RK@kg@kg@kg@kg@kg,#(~#FA70@l[,#q~#FB0,<%#d^BFF&FI&FL
  &F@*!FL&^IS T&x#FB13/.q:%@L!M[HNOW(ECH(kI&VEW NOW&M[HXEH@P!D/.Yp$ nYODaHIvQ$_b JUDEO-SPc]m VAvKA/.
  T+(YOD @&!syH$n/(UE&AYk%WIDE .a&Dbi&HE&KAF&l^V&[cMEM&R[S&yV%@T%.Lw%|Na|N ?3(Sk +(fG[S.C@5#:Sk/.Q@$
  syH(QAMeS(pPIQ%Bia@J!%/)6g%%Dbi +%HEa@B#VAV@C$ZAYk +#FB38%T@F!YOD +/.W>$@F$@,(lM[D@N#E%MEM@Y#40%^
  1 +/.WM%@7$3%[cPE@W$@+%@;!6%T_7I +%QOF +%R[S +%|N +%yV +,#_#HOlM%BiatFE%KA@J!PE +$^B.a l^V!.pn/.OG
  $ ]n[i([c+%BgH@1#&[c+&]d+&^W@Z!@9!+@8,BEH@:3TT@;6@Q7@93V@83P@e5D~3@81N@83T?MH@94@z5fHb@9&%@0+DUL@0
  )D@<)J@k)%Ru@0)K,$(5GAF@82U@M3qO@93/,~+(,&y)R^r,&y1/.N^%.@K$:@>!GOb@X((]d+(^W+&/.OA( ]n+@>*/.?6%@;
  )~1[5.W@g#;[c+$|v/$|b%%~a.W(@+!E/.EH%(/.C$&:.z%[m@:%%/%dM$.E%/.A~&).z%vq%|dyH@F$WASl.A#FBD3$nq,$J2
  U,%|(OE@/(Y@:)Ua,#s(%VE@f(/.Q:*,$y(&YU,$Q&%E,#73IGHUR.GZAKH @e&.b]d[i;^W+$^B/.^@%a.a@d#<[c+;AE@z!@
  /#~x@/(U@.(O@D)Y@:)@9(<]d,#G&,#A(,#4(b]n[i>.b[c+>.b]d+$n/.,@%,(F.,#m.JgM@C#;jH +;^Y+;@o$;@[%%BEH@I
  ((@I!(K@)#^Y+(@O$(@O&T@O%+@L?|5@L#@A6JgMa@^&%j@M*%K@2(@D(|F,#>5%_7@j)fD@H6yH@H)ZA/.Z:$,#;*[u@1*F,$
  PGQAFa@@7,5.#.a +(@o1]3@U5lM,#AEMg@LF^r@KEHE,&g;~3@jETHba/.9G&@6#/.Lo$.b~1@;.|JfafMMec @f#]vTc +([
  Z +(fMp +(]v +(@X.,+$&uH [c[i;ZAk,+$%^r +;.b[c,+*$[c,+*$@N&(ZAk,$$%@N!(@N$(@N&T@N$+@K?|5@KD,)L#@7/
  QAF@7,,).(,(v(@l1lMa@:0,(e%.a,*_%^r,#]C,&C,@6$~3,%7F(,07)d,07&K,0=(HEH +,04)d,042@F#,0*)@C5,%v#^Y+
  ,/fB,/aGK,/gG,/c#a^Y,/eT,/T,,(;#,/@8%lM,$u;,/&9%^r@[;,.i,,,9+d,(N#,&X>,(F$^Y^W[i,(5)@5%,(!*,&l+@2,
  F@1+L@1(,%%$,$o&]3,=3#@?&~3@Y+Jfa,/O.,&]#,0Y/Ak@60[u@60|F@61L@60jHa,6o2@70K@J2_7@60fD,#;2,&p6u,%H
  $ +%_7 +/.gc$y,0#1Ak@60[u@60|F@61L@60jH@60JgM@70K@J2_7@60fD@6,,$XN@P&]d@R&,:V+,)J&,%($,/0*^W@S+,#>
  2@U$,:T).aa[ZTc [c+)]n+!ORNeE /)lB&!.p^BtHIpHU blAH%tDI@,#U cH(cjA(cHUM@(!p@/#NNA%SbL@F$AlYHI.S-AA
  oH%@1# AS-SAlAM@3$M +@,$pA +@F,eU.S@O&QUDDISA SIRtH,#*$,#))AAoHg.S-//$!&jA,#1)yBAAtKA.S-yAAlA%,$>$
  M,$6#,3R&a^Y,/B#,2x%[c+;]d+:^Y,&8&,0e(:@3!:@9!,3j$M,3n#@V&%jH@6#~3@6!:.b,*2&j,5,*J@W$@C&(@i([i@j!:
  ,#5$^Y@z$,48%,#2*@U#@C#%|L@<!@:$J,#E&@E$K@=%@p+fDa,*v)KjHa^Y,#C&%yH,$B%,$v+:@w#,5)%,9<$^Y@B!,$R([u
  @[!@o%@S!@>!,:[(,#1/QAF,#2*:,5%#@2#+@_),%@$,8z)[c+(@m$,$^$,&9/@3$@S#,$&+,&,&,(7(@H+#FD92@F#Kj,5V&,
  (R),6/%jH,#_,,$=),((,,/9%:.b,;W&M@P,%B,%#$@M$,:c)@k(@@([i,##6,14(@;*(,(7(,/r%,$?#,)D&,0x),0T&lM,:(
  *~3,9h$@6),:$% ,$p&,&s,]d@f#j,;(&,+L*%K@Y&J@P)MgM,$i+lM,,w(@T#,%?%@?)@g),,k(@d$,=U)%,<2&^Y,%r#@N!@
  s+]d,<m)%_7,2l%,#S),;L)#FDCF%,0&#U,0N$NAA#FDF0%Sbl US[DAS KORc]PS~Ow,Ho&l +%blH@3$AKBd +%MOjMpD,Y
  V#]3+%tSOUL,1|%E +%WASb]3+,###+//3d0,1c#JblJbbOU]L!vb w,3r#BISMILlH d-tHMc@*#gM%|pjcAHU.S ,2$$AZZA
  .S JbL!/+LO+-//GH0//GC0?Z(]T?Z)[p(?W(|G?W([U^S(_m+(]7//Ga,(_y@4*BtKCi(]J[G#FE20!?Y^B]7[3%/.V#$~I @
  2!&@2!^P @>(Cr]s]c^P$@R$.E@:#@R#+%@Q(+@P,.E$//i1%@z(,$=0~Z/*/P$(EM ?o([H+(^M^E(~w@*#]7_R(_y+(/(<V$
  @/%~Q@/%/%9h.@M&9.k+@C&@Y)?f@F%/%:R%@=$!SESAME ?3!~0@0(,#u0]7|l@T%?o[D_L^E!?K^E +!~w+!?9~w@8!@A#^M
  @A.|d?Z$]T?Z$[p#FE54/#[G$/,6o&[U+$,$t#/*)P*7?/(2l*Q@/%^zw$.h$.t$_aw$]N-^d$^A w$[y+$[Pw#FE68$_t$?2w
  $/0WK%$?ae#FE70!.p[ZT,N($/.h(%@4!.A$,NA)$|y FtG^Z$]v@O%@b!6$[Z +%^W+$fMp ]n@0$]v@/(|Jf@0&/.ap$@2(n
  [5@m!//;G%,]n*(,Z6%+@1!%~xa@4*//;f(@D)3@D,:,5j#W@L!,Zs)B,_^2//1X),[,),Zy1|5@]2JgM@81j@K2K@83,cB*TH
  @0),cA*ZAk@0(|F@g1|L@71_7@71fD@71yH@71ZA@82Ak@71[u@71FE@_2Q,e63K@83]3@60^Y@61r@[1,fR4~x@7&%.b,ep(~
  3,b41$^BlMa,*)&,an(:[5.W,aC(.z@/&)@E!)[c+#FEFF/*?/(/*;Z)#FF01!F~b@<#/%^M$n,.B$?2+,,v&,.N#n,.y(,.Z&
  ?Z,.^%[p$|h/.*D@W,/y#,/2%Pw$/0cD%,0.$?ae$/)4fW$,1p$$_t$_y@.#?T.B$^M^E/.e>$/)6JW,1X&~m^E$_y@0$I$]7~
  0,HK%[3,%U#]T[p$,4+#,2!$,2i$]w ^b?3%nWO&|d/#Vr((z(YU(YO(TU$/%>x0@X!n/#Tx)KA&KI&KU&KE&KO&SA/%4e%SE&
  SO&y&TI&TU&TE&TO&NA&NI&NU&NE&NO/%5(/p&MI&MU&ME&MO&z/,#X$/%5<*/,(,$%/%DQ:$[7[b%n/#Lf(/,Z0(^o-?R(]C
  /#Lx)_w&_w-]0(^c(_Y(|X(|9(_X(]C/#M:+/%=@%|X/,e1.@2!/,e75#FFC2&A&AE&z&zE&EO&E@8!A/#+[&,$9#WAE&O@<!D
  2&YO&U&WEO/#1&%YU@;!A&EU&YI&I#FFE0,+e(//G~$P_J +$^v+$^P$/0hM&$Y[Hw$Wr +@W!8,(f&[iS ^D~l$]8.r/&A#2$
  .3|k$~0?S#FFF9!]h^Ed c^wc?QR%|H%//iC(BJECT uPlCE^Z ?L!@/)"

end SchemaCompiler.Pattern
