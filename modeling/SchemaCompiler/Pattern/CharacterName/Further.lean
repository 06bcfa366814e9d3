/-!
# Further names

Some characters have names besides their own: control characters, which have no name of their own,
short forms, and corrected names. `Pattern.numberedNames` tells how they are read.
-/

namespace SchemaCompiler.Pattern

/-- The rows of further names. -/
def furtherNames : String :=
  "#0!N~b!xdT.I[8Iq%T[V!,M]#TRcSMISSIr!ENQUIRY!.X!bhT!.w|j!?L |w!^E FgD$|w![i@.!!CdvAGE u~VN!|MFT _K
  $k!fy LkK ESCAPE!?rrE%~Y%~D%[l!^l.X!SYNCHRrO~jIDm![J.I,#L) .4!CcCEL@<#^VIUM!|pxITUTE!@y%k[i.u |H [
  l%~D%~Y%rE!SP#7F!DELiE!sDD]c?L!]DOCTi PuSi!,zT#PhMITT[DHEu!^q@7#+!]Y!N[V ^E,%8$SEmCT[DAuA,%:#,$t
  $ Si%~1JUxIFIC.u!^E@9$!PdTIb ^E [k%.wWdD!_s,%G$!|W ,%4#,$u#!?rxvq!PvVeE U|C,%4#!Si ,$s$T xeE,$q$ ?
  L!ME|mGE.SITIq,#e$GUdD,#d)@8$@w!|W GtPH]P?L kTRODUCh$@0*!CrTROL SEQU[I@_!_zThMkA~P!OPEt~KSYxEM ?ZN
  D!PvVACY ,#K$!APPoC.u _gGt@E%NBSP#AD!SHY#1A2,z]#Gj,L($4F!CGJ#61C!bM#709!SYvAC |p^Ed ?W SKEW[D]6#CD
  E!KcNAf nLLl#E9D!lO nFO Fr#E9F&FAY#EA3%RO#EA5%LO#FD0!TIBic ^TBKA- |OG GI MGO RGYc#11EC![7JOqSEOq ~
  4-]0&|mq]0%|mq~4%@6!y#180B!FVS1==!MVS@/!4#200B!ZWSP!ZWNJ!ZWJ!LRM!RLM#202A!Lu!Rm!PDF!LRO!RLO!N,%&#2
  05F!MMSP!WJ#2066!Lv!Ro!FSI!PDI#2118!WEIhxtSS ELoPT]PFUNC~L#2448!MICR r US.O$?o.O#2B7A!]8~R-[9.ra?9
  ~m|o@:!C!_x~u+#A015!YI |u]p^S#AA6E!MYcMd nKjMTI Ll#FE00!,$Y#==@&!@*%#FE18!PuS[K.u [i [h~m_y~0L[KIC
  ULd .9#FEFF!BYTE ORDh.H#122D4!CUNEI[i w NU11 |2U&_M@/#?C.K?C#16E56!^VEFAIDRk ?HH&q@:!76$|e@0#B001!
  HENyIGcA nE-1#1D0C5!BYZcTkE ^k|v[oSKoRr CHROp VASIS#E01,$G$7,$C)@.)@73@JF@rn@~x#0!NUL!SOH!xX!iX!EO
  T!ENQ!ACK!.y!BS!]J|w!NEW ^E!~m|w!FF!CR!LOC]z-,17#rE%~8!Dm!DC1===!NAK!SYN!iB!Cc!EOM!|p!ESC!FIm |H!G
  RO~g+!u?eD +!UNIT +,3g%!sD!HOP!BPH!NBH!kD!NEL!|m!ESA!]J,322~m,310A%UP!_s]Y!|W,#p#-2=!DCS,3#&SE-1=!
  xS!CCH!MW,2K$_gTE,4H,SOS!SGC!SCI!CSI!x!OSC!PM!APC,+0%OM#9!HT,6M$E!VT#E!SO!SI#1C!FS!GS!RS!US#88!HTS
  !HTJ!VTS!PLD!PLU!v!SS2=#91!PU1=#96!Ss!Es,#*$ZW,/j#9!yB!EOL#A!LF#A!NL"

end SchemaCompiler.Pattern
