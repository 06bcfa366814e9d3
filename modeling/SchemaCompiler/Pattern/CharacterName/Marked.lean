/-!
# Names of marked letters

Rows of names in the order of the characters. `Pattern.numberedNames` tells how they are read.
-/

namespace SchemaCompiler.Pattern

/-- The rows of names for phonetic letters, and letters of Latin and Greek with marks. -/
def markedNames : String :=
  "#1D00!]5n|d?GA(AE$|e~W+$@4#Bd_pB(C(D(iH(@>$_DE(I@B$J(K(L.T(M(_uN(O(_DO$|e/$j^%@3#(O.T&~WOE@U$OU@i
  !O[4O&.6+@8$P(_uR(~WR(T(U@e)U(DIAEuSIZ[DU(~WM@R$V(W(Z(EZH%/&B:$L/#MJ$SPIRcT%Ak![z@L#[q(lMf(PI(_v(P
  SI!?n@<#EL!^en?GA&AE&B&,$V#&D&E&_uE/&f|1_uN&O&OU,3k%U&W%|dA/&G|)@i#D&/&Uc+~W_D@o!~WI&K&M&Eq&O&_DO&
  ,$n(&P@q#,$^&&~WM&V&Ak/&1o$z/&1q%z/&1:$!]5|p|B|eI(R(U(V![z@4$BEy([q,$S#HI(@M$eUE&Ba^b~I&D +&F +&
  M +&N +&P +&R +)/&CH%@H#S@O$T +&Z +&~WG,%:#nEN!,G4%&THaxvKiHROUGH%?HI.T%n]k.T@w!%?HU@4!~i.T&Ba_O]H
  ,#E(G +&K +&L,#Q2&S +&[@(!V +&X,#K%Aa_q+&.e +&Da/&E=$&Ea_r&_D@*$u@,$,&3$@,!I +&_DO@/![S@)!U +&EZ
  H +/&Ex$~W.e&C/&L_$iH@g$&F/&L7%|BG&~WH/&Km%&?GI(@/!/&HA)La_r)_O+&?GL&M/&I|$/&Kt$/&Ko)@A!N,)^#O&PHI
  &/&K!&T,%*#/&Ja&?GU/&Je(&Z&/&JX+|7!?Y?7[x.B%.Y +$SNAKE.E$SUS_USIr.H$^P-.Y$[x-^P@0![x$.Y-^P@6!.Y@3%
  @0#,L6#R.E$?A@P%?A$?9?T.A$/&Vy$A$~9.z$IS +$UR@3!j+@Z#FLe|2[D_DA.A(AE(AO(AV(C ?J(]f,/d#G%,,S#G%|eK(
  L@1$L)M%|eN@1$N)R%|eR ROTUNf(S(^IS(Z(.e(B(BEy(,(&#(F(La?9^b~I(Oa,P,,(P([S(U@9/W(Aa?s(O +(U +/&DR$A
  $]x,Oh#&]6$?4+$,:?#/&Bm)?3,O~$DEm~L.H$?9/&Cu%.d[O +/$x~+@,#C[B@+#E/&o4%_z/&&@(a?3.A@1+E@1(^E +/&l5
  )J/&Yb*D@Z+D@Z+D@Z#@>)J@/)T.E/&lV*.C[x@3*,#)*E@O,/&Wc+E,#S#?A@3%F,#S+G/&)5)H@<#@1+E@1)s@/)J@/)A@G(
  I,#>+I/&aJ.Ka@/),#!+K,$m+La?4@0(/%).&P@5(^E.E@B)T@[(M,#()M,$6+M,#6+N@>+N@>,,#P+N,#$+Oa~I.C.Y@3,?s@
  3&,&S.O,&S.Pa@/),#H+R +@.&,#R+R,$g0R,$g+S@h#@1*@>*.Y.C@B,Cdr +@P,@E,Ta@1+@r+T,%&#@>)T/&fu,@1),(X+U
  @K,,%O.Ua^P,%O*Va~I@/&,#D+Wa[x@/(.Y@/(@^(W,$&+W@a+X@>+X@V)Y@<+Za?T@/&@c+Z,$g(&H +&Ta?s&Wavq.A&Y,6
  |#/&V3%^IS@u#:?t |o:]D@c!/&y_$$|e?q$?HA,##+Aa]H.A@1(?T.C.Y@3,[x@3,@S1~I@3,,#(,?A@u.A@u.A@u0A@u.A@u
  ,Ea@1,@_!,0M*@I)T,0v/,1;+,$9(@5,@d),$90Ia@Q*Ia@>*O,.7)@H+O,#M%@3,[x@3,@S1~I@3,,#3+a]K@u,]K@u,]K@u/
  ]K@u,]K@u,Ua@1,@_*U,#6%@3,[x@3,@S+,#6.U,#60Ya[x@/(@<,@k*Ya@g(^a-WELSH LL@60V@R(^K/&LZ%|e.eaPSIo)?p
  )@+!.CVAvA)?p +@4%OXI@4,_V@2!@n!@aY|e[M@aH#1F18$?H@VM20$|eEy,$PY@aY|e]k,#CY@aY|e^8,%=K48$?H@VM50$|
  e~i,#nQ@f(9$?H~ia?p@1!B)?p@d$@2!D;OXI@.#F;_V$|e^7,%cY@aY,+v#@Q#@F!&[M@1*Ey@1*]k@1*^8@1*~i@>+7@1)#1
  F80&,,B%.C~6,#N+@J!@80@Y! +,#v. +,.4*@9%i@o2_i@oG,,5#,#aiEy,#ai^7,#ai^7,#aa,)0+tCHY)^P),#T(~6)OXI@
  0##1FB6)_V)_V@3!$?H@V0@O#)_i$/&i)$$_i$PSIo$_V$?u.i_V,&R$,#)7C,#).,*[0,#.,,$Z)&@D#_V,1H#,#])?u.i@C!
  ,./&D,#)#,#S%?H@O+,+(+DD$?p,#$1~i,#$7&_v,.C&&~ia,#/+~i,#//@T&?p$@I!,#0($,0,%F2,)0#,%=8F,%=.^8,.@,,
  %=.@+!$?p"

end SchemaCompiler.Pattern
