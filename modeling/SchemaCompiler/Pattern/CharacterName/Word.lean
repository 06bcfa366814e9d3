/-!
# Words in names of characters

Words that many names have in them, and parts of such words.
-/

namespace SchemaCompiler.Pattern

/-- The words that small letters write. -/
def frequentWordRows : String :=
  " WITH ,AL,AN,AR,AT,DA,EE,ER,ET,HA,IN,LA,LE,LETTER ,LI,MA,NG,ON,PA,RA,RE,RI,SIGN,ST,TA,YA"

/-- The words that take two signs to write. -/
def furtherWordRows : String :=
  " ABOVE, ACCENT, AND , BAR, BELOW, IN , KA, MARK, OF , OR , OVER , PLUS , PO, SA, SYMBOL, THROUG
  H , TIMES , TO, WA, WITH STROKE,001,ABBREVIATION ,ABOVE,ACKNOWLEDGE,ACUTE,AIRPLANE,ALEF,
  ALEF MAKSURA ,ALI GALI ,ALMOST ,ALPHA,ALTERNATE ,ALTERNATING,AMPERSAND,AND ,ANGLE,ANGLE ,
  ANTICLOCKWISE,ANUSVARA,APOSTROPHE,APPROXIMATELY ,ARABIC ,ARCHAIC ,ARROW,ASH,ASTERISK,ATION,
  AVAGRAHA,BACK,BALL,BEL,BELOW,BENT,BETWEEN,BLACK,BLACK ,BLOCK,BOLD ,BOTTOM ,BOW,BOX,BRACKET,BREVE,
  BULLET,BUR,CANADIAN SYLLABICS ,CANDRA ,CANDRABINDU,CAPITAL ,CAPITAL LETTER ,CARRIER ,CEDILLA,
  CENTRE,CHARACTER,CHE,CHECK,CHECKER BOARD,CHI,CHO,CIEUC,CIRCLE,CIRCUMFLEX,CLOCKWISE ,CLOSED ,COLON,
  COM,COMBINING ,COMMA,COMMERCIAL ,CONJOINED,CONSONANT ,CONTAINING ,COR,CORNER,CRESCENT,CROSS,
  CROSSING ,CURL,CURLY ,CURRENCY ,CURVE ,CYRILLIC ,DASH,DASIA,DELTA,DEVICE CONTROL ,DIAERESIS,
  DIAGONAL,DIALYTIKA ,DIAMOND,DIGIT ,DIGIT ZERO,DIGRAPH,DISH,DIVIDER,DIVISION ,DOLLAR ,DOT,DOT ,
  DOTLESS ,DOTS,DOTTED ,DOUBLE,DOUBLE ,DOWN,DOWN ,EARTH,ED ,EIGHT,ELEVEN,ELLIPSIS,EN ,ENCE,END,ENT,
  ENVELOPE,EPSILON,EQUAL,EQUAL TO,EQUALS ,EQUILATERAL ,EQUIVALENT ,ESH,ESS,EXCLAMATION ,EXT,FACE,
  FACING ,FALLING ,FATHA,FIFTY,FILLER,FINAL ,FINGER,FINGERS,FIVE,FLOORPLANE ,FOR ,FORM,FORTY,
  FORWARD,FOUR,FOUR ,FRACTION ,FTHORA ,FULL STOP,GAMMA,GAN2 TENU,GEMINATION ,GEORGIAN ,GHAIN,
  GLOTTAL STOP,GORAZDO NIZKO ,GRAVE,GREATER-,GREEK ,GROMOKRYZHEVAYA,GROMOPOVODNAYA,GUNU,HALF,HALF ,
  HAMZA ,HAND,HANGUL ,HEAD,HEADED ,HEART,HEAVY ,HIEUH,HIGH ,HINGE ,HINGED,HIRAGANA ,HOOK,HORIZONTAL,
  HORIZONTAL ,HORN,HOU,HUNDRED,HYPHEN,IAN ,IC ,ICAL ,ICE,ICK,IDEOGRAPHIC ,IEX,IGHT,ILL,
  INDEPENDENT SVARITA,INDEX,INDEX ,INDICATOR,INFINITY,ING ,INITIAL ,INSIDE,INSULAR ,INTEGRAL,INTER,
  INTERSECTION,INVERTED ,IOTA,IOTIFIED ,ISH,ISOLATED ,ITALIC ,ITERATION ,IVE,JAPANESE ,JOIN,KAPPA,
  KASKAL,KASRA,KATAKANA,KAVYKA,KHIEUKH,KING,KIYEOK,KLYUCHEVAYA,KUR,LAM ,LARGE,LATIN ,LEFT,LEFT ,
  LEFTWARDS ,LENGTH ,LESS-THAN,LIGATURE ,LIGHT,LIGHT ,LINE,LITTLE,LOGICAL ,LONG,LONG ,LONG-BRANCH-,
  LOOP,LOW,LOW ,LOWER ,LOZENGE,MACRON,MAHAPRANA,MALO POVYSHE,MARK,MARK ,MATHEMATICAL ,MED,MEDIAL ,
  MEDIUM ,MEEM ,MENT,MIDDLE,MIDDLE ,MIEUM,MINUS,MODIFIER ,MOUNTAIN,MOUTH,MOVEMENT,MULTIPLE,
  MULTIPLICATION,MUSICAL ,NEGATIVE ,NEPOSTOYANNAYA,NEUTRAL,NIEUN,NINE,NO ,NOON,NOR,NORTH EAST,
  NORTH WEST ,NOT ,NOTATION ,NOTE,NUKTA,NUMBER ,NUMERAL ,NUN,NYI,OBLIQUE ,OCK,OLD,OLD ,OMEGA,
  OMICRON,ONCOMING ,ONE ,OOT,OPEN,OPEN ,OPERATOR,OPPOSING ,ORANGE ,ORIGINAL ,ORNAMENT,OUND,OUT,OVER,
  OVER ,OVERLAY,PALATAL ,PARAGRAPH,PARALLEL,PARENTHESIS,PARENTHESIZED ,PARTIAL DIFFERENTIAL,PEN,
  PERISPOMENI,PERSON,PHIEUPH,PIEUP,PINWHEEL ,PLUS ,POINT,POINTED ,POINTING ,POVYSHE S KHOKHLOM ON ,
  PRECEDES,PRO,PRODUCT,PROSGEGRAMMENI,PUNCTUATION,QUADRUPLE ,QUARTER,QUESTION ,QUOTATION ,RAISED ,
  RED ,RETROFLEX ,RETROFLEX HOOK,REVERSE ,REVERSE SOLIDUS,REVERSED ,RHO,RIEUL,RIGHT,RIGHT ,RING ,
  RISING ,ROTATED ,ROTATION,ROUND ,ROUNDED ,RUPEE ,S KRYZHEM,SAD,SALTIRE,SANS-SERIF ,SAYISI ,
  SCRIPT ,SE ,SECOND,SECTION,SEEN,SEMI,SEPARATOR,SEVEN,SHAD,SHE,SHEEN,SHI,SHIN,SHO,SHORT ,SHU,SIDE,
  SIGMA,SIMALUNGUN ,SIMILAR,SIMPLIFIED ,SINGLE,SIOS,SIX,SLANTED ,SLASH,SLOAN ,SMALL,SMALL ,
  SMALL LETTER ,SMILING ,SOFT ,SOLIDUS,SOUTH ,SPACE,SQUARE,SQUARE ,SSA,STRAIGHT,STROKE,SUB,SUBSET,
  SUCCEEDS,SUPERSET,SVETLAYA,SYLLABLE ,SYMBOL ,TABULATION,TACK,TAIL,TAK4,TEARDROP-SPOKED ,TEEN,TEN,
  TEN ,TH ,THE,THE ,THETA,THI,THIEUTH,THIRTY,THO,THOUSAND,THREE,THREE ,THUMB,THUMB ,TIKEUT,TILDE,
  TIMES ,TING ,TION,TONE ,TONGUE,TOP ,TOR,TORTOISE SHELL ,TRIANGLE,TRIANGULAR ,TRIPLE ,TSA,TUR,
  TURNED ,TWENTY,TWO,TWO ,TWO DOTS ,ULL,UMBRELLA,UND,UNION,UOX,UP ,UPPER ,UPSILON,US ,USH,VERTICAL,
  VERTICAL ,VERY ,VIRAMA,VISARGA,VOCALIC ,VOWEL ,WALLPLANE ,WARDS,WARDS ,WATER,WAVY ,WAW,WEST ,
  WEST-CREE ,WHITE ,WITH ,WORD ,YEH,YESIEUNG,YIG MGO,YPOGEGRAMMENI,YRX,ZERO,ZIGZAG "

end SchemaCompiler.Pattern
