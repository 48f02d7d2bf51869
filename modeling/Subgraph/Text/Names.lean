import Subgraph.Text.Chars
import Subgraph.Text.Lines

/-!
Names of characters: those of signs and letters in common use, and those that follow from the code
point or from the parts of a syllable.
-/

namespace Subgraph.Text

/-- Names by how they begin. -/
def nameGroups : List (String × String) :=
  [("LATIN SMALL LETTER ",
     "A,B,C,D,E,F,G,H,I,J,K,L,M,N,O,P,Q,R,S,T,U,V,W,X,Y,Z,SHARP S,A WITH GRAVE," ++
     "A WITH ACUTE,A WITH CIRCUMFLEX,A WITH TILDE,A WITH DIAERESIS,A WITH RING ABOVE,AE," ++
     "C WITH CEDILLA,E WITH GRAVE,E WITH ACUTE,E WITH CIRCUMFLEX,E WITH DIAERESIS," ++
     "I WITH GRAVE,I WITH ACUTE,I WITH CIRCUMFLEX,I WITH DIAERESIS,ETH,N WITH TILDE," ++
     "O WITH GRAVE,O WITH ACUTE,O WITH CIRCUMFLEX,O WITH TILDE,O WITH DIAERESIS," ++
     "O WITH STROKE,U WITH GRAVE,U WITH ACUTE,U WITH CIRCUMFLEX,U WITH DIAERESIS," ++
     "Y WITH ACUTE,THORN,Y WITH DIAERESIS,A WITH MACRON,A WITH BREVE,A WITH OGONEK," ++
     "C WITH ACUTE,C WITH CIRCUMFLEX,C WITH DOT ABOVE,C WITH CARON,D WITH CARON," ++
     "D WITH STROKE,E WITH MACRON,E WITH BREVE,E WITH DOT ABOVE,E WITH OGONEK," ++
     "E WITH CARON,G WITH CIRCUMFLEX,G WITH BREVE,G WITH DOT ABOVE,G WITH CEDILLA," ++
     "H WITH CIRCUMFLEX,H WITH STROKE,I WITH TILDE,I WITH MACRON,I WITH BREVE," ++
     "I WITH OGONEK,DOTLESS I,J WITH CIRCUMFLEX,K WITH CEDILLA,KRA,L WITH ACUTE," ++
     "L WITH CEDILLA,L WITH CARON,L WITH MIDDLE DOT,L WITH STROKE,N WITH ACUTE," ++
     "N WITH CEDILLA,N WITH CARON,N PRECEDED BY APOSTROPHE,ENG,O WITH MACRON,O WITH BREVE," ++
     "O WITH DOUBLE ACUTE,R WITH ACUTE,R WITH CEDILLA,R WITH CARON,S WITH ACUTE," ++
     "S WITH CIRCUMFLEX,S WITH CEDILLA,S WITH CARON,T WITH CEDILLA,T WITH CARON," ++
     "T WITH STROKE,U WITH TILDE,U WITH MACRON,U WITH BREVE,U WITH RING ABOVE," ++
     "U WITH DOUBLE ACUTE,U WITH OGONEK,W WITH CIRCUMFLEX,Y WITH CIRCUMFLEX,Z WITH ACUTE," ++
     "Z WITH DOT ABOVE,Z WITH CARON,LONG S"),
   ("LATIN CAPITAL LETTER ",
     "A,B,C,D,E,F,G,H,I,J,K,L,M,N,O,P,Q,R,S,T,U,V,W,X,Y,Z,A WITH GRAVE,A WITH ACUTE," ++
     "A WITH CIRCUMFLEX,A WITH TILDE,A WITH DIAERESIS,A WITH RING ABOVE,AE,C WITH CEDILLA," ++
     "E WITH GRAVE,E WITH ACUTE,E WITH CIRCUMFLEX,E WITH DIAERESIS,I WITH GRAVE," ++
     "I WITH ACUTE,I WITH CIRCUMFLEX,I WITH DIAERESIS,ETH,N WITH TILDE,O WITH GRAVE," ++
     "O WITH ACUTE,O WITH CIRCUMFLEX,O WITH TILDE,O WITH DIAERESIS,O WITH STROKE," ++
     "U WITH GRAVE,U WITH ACUTE,U WITH CIRCUMFLEX,U WITH DIAERESIS,Y WITH ACUTE,THORN," ++
     "A WITH MACRON,A WITH BREVE,A WITH OGONEK,C WITH ACUTE,C WITH CIRCUMFLEX," ++
     "C WITH DOT ABOVE,C WITH CARON,D WITH CARON,D WITH STROKE,E WITH MACRON,E WITH BREVE," ++
     "E WITH DOT ABOVE,E WITH OGONEK,E WITH CARON,G WITH CIRCUMFLEX,G WITH BREVE," ++
     "G WITH DOT ABOVE,G WITH CEDILLA,H WITH CIRCUMFLEX,H WITH STROKE,I WITH TILDE," ++
     "I WITH MACRON,I WITH BREVE,I WITH OGONEK,I WITH DOT ABOVE,J WITH CIRCUMFLEX," ++
     "K WITH CEDILLA,L WITH ACUTE,L WITH CEDILLA,L WITH CARON,L WITH MIDDLE DOT," ++
     "L WITH STROKE,N WITH ACUTE,N WITH CEDILLA,N WITH CARON,ENG,O WITH MACRON," ++
     "O WITH BREVE,O WITH DOUBLE ACUTE,R WITH ACUTE,R WITH CEDILLA,R WITH CARON," ++
     "S WITH ACUTE,S WITH CIRCUMFLEX,S WITH CEDILLA,S WITH CARON,T WITH CEDILLA," ++
     "T WITH CARON,T WITH STROKE,U WITH TILDE,U WITH MACRON,U WITH BREVE," ++
     "U WITH RING ABOVE,U WITH DOUBLE ACUTE,U WITH OGONEK,W WITH CIRCUMFLEX," ++
     "Y WITH CIRCUMFLEX,Y WITH DIAERESIS,Z WITH ACUTE,Z WITH DOT ABOVE,Z WITH CARON"),
   ("GREEK SMALL LETTER ",
     "ALPHA WITH TONOS,EPSILON WITH TONOS,ETA WITH TONOS,IOTA WITH TONOS," ++
     "UPSILON WITH DIALYTIKA AND TONOS,ALPHA,BETA,GAMMA,DELTA,EPSILON,ZETA,ETA,THETA,IOTA," ++
     "KAPPA,LAMDA,MU,NU,XI,OMICRON,PI,RHO,FINAL SIGMA,SIGMA,TAU,UPSILON,PHI,CHI,PSI,OMEGA"),
   ("GREEK CAPITAL LETTER ",
     "ALPHA,BETA,GAMMA,DELTA,EPSILON,ZETA,ETA,THETA,IOTA,KAPPA,LAMDA,MU,NU,XI,OMICRON,PI," ++
     "RHO,SIGMA,TAU,UPSILON,PHI,CHI,PSI,OMEGA,IOTA WITH DIALYTIKA,UPSILON WITH DIALYTIKA"),
   ("CYRILLIC SMALL LETTER ",
     "A,BE,VE,GHE,DE,IE,ZHE,ZE,I,SHORT I,KA,EL,EM,EN,O,PE,ER,ES,TE,U,EF,HA,TSE,CHE,SHA," ++
     "SHCHA,HARD SIGN,YERU,SOFT SIGN,E,YU,YA,IE WITH GRAVE,IO,DJE,GJE,UKRAINIAN IE,DZE," ++
     "BYELORUSSIAN-UKRAINIAN I,YI,JE,LJE,NJE,TSHE,KJE,I WITH GRAVE,SHORT U,DZHE"),
   ("CYRILLIC CAPITAL LETTER ",
     "IO,DJE,GJE,UKRAINIAN IE,DZE,BYELORUSSIAN-UKRAINIAN I,YI,JE,LJE,NJE,TSHE,KJE," ++
     "I WITH GRAVE,SHORT U,DZHE,A,BE,VE,GHE,DE,IE,ZHE,ZE,I,SHORT I,KA,EL,EM,EN,O,PE,ER,ES," ++
     "TE,U,EF,HA,TSE,CHE,SHA,SHCHA,HARD SIGN,YERU,SOFT SIGN,E,YU,YA"),
   ("DIGIT ",
     "ZERO,ONE,TWO,THREE,FOUR,FIVE,SIX,SEVEN,EIGHT,NINE"),
   ("MODIFIER LETTER ",
     ""),
   ("DOUBLE-STRUCK ",
     "CAPITAL C,CAPITAL H,CAPITAL N,CAPITAL P,CAPITAL Q,CAPITAL R,CAPITAL Z,SMALL PI," ++
     "SMALL GAMMA,CAPITAL GAMMA,CAPITAL PI,N-ARY SUMMATION,ITALIC CAPITAL D," ++
     "ITALIC SMALL D,ITALIC SMALL E,ITALIC SMALL I,ITALIC SMALL J"),
   ("SCRIPT ",
     "SMALL G,CAPITAL H,CAPITAL I,CAPITAL L,SMALL L,CAPITAL P,CAPITAL R,CAPITAL B,SMALL E," ++
     "CAPITAL E,CAPITAL F,CAPITAL M,SMALL O"),
   ("BLACK-LETTER ",
     "CAPITAL H,CAPITAL I,CAPITAL R,CAPITAL Z,CAPITAL C"),
   ("LEFTWARDS ",
     "ARROW,ARROW WITH STROKE,WAVE ARROW,TWO HEADED ARROW,ARROW WITH TAIL,ARROW FROM BAR," ++
     "ARROW WITH HOOK,ARROW WITH LOOP,ARROW TO BAR OVER RIGHTWARDS ARROW TO BAR," ++
     "HARPOON WITH BARB UPWARDS,HARPOON WITH BARB DOWNWARDS,ARROW OVER RIGHTWARDS ARROW," ++
     "PAIRED ARROWS,HARPOON OVER RIGHTWARDS HARPOON,DOUBLE ARROW WITH STROKE,DOUBLE ARROW," ++
     "TRIPLE ARROW,SQUIGGLE ARROW,DASHED ARROW,ARROW TO BAR,WHITE ARROW," ++
     "ARROW WITH VERTICAL STROKE,ARROW WITH DOUBLE VERTICAL STROKE,OPEN-HEADED ARROW"),
   ("RIGHTWARDS ",
     "ARROW,ARROW WITH STROKE,WAVE ARROW,TWO HEADED ARROW,ARROW WITH TAIL,ARROW FROM BAR," ++
     "ARROW WITH HOOK,ARROW WITH LOOP,ARROW WITH CORNER DOWNWARDS," ++
     "HARPOON WITH BARB UPWARDS,HARPOON WITH BARB DOWNWARDS,ARROW OVER LEFTWARDS ARROW," ++
     "PAIRED ARROWS,HARPOON OVER LEFTWARDS HARPOON,DOUBLE ARROW WITH STROKE,DOUBLE ARROW," ++
     "TRIPLE ARROW,SQUIGGLE ARROW,DASHED ARROW,ARROW TO BAR,WHITE ARROW," ++
     "WHITE ARROW FROM WALL,ARROW WITH VERTICAL STROKE,ARROW WITH DOUBLE VERTICAL STROKE," ++
     "OPEN-HEADED ARROW"),
   ("UPWARDS ",
     "ARROW,TWO HEADED ARROW,ARROW FROM BAR,ARROW WITH TIP LEFTWARDS," ++
     "ARROW WITH TIP RIGHTWARDS,HARPOON WITH BARB RIGHTWARDS,HARPOON WITH BARB LEFTWARDS," ++
     "ARROW LEFTWARDS OF DOWNWARDS ARROW,PAIRED ARROWS,DOUBLE ARROW," ++
     "ARROW WITH DOUBLE STROKE,DASHED ARROW,WHITE ARROW,WHITE ARROW FROM BAR," ++
     "WHITE ARROW ON PEDESTAL,WHITE ARROW ON PEDESTAL WITH HORIZONTAL BAR," ++
     "WHITE ARROW ON PEDESTAL WITH VERTICAL BAR,WHITE DOUBLE ARROW," ++
     "WHITE DOUBLE ARROW ON PEDESTAL"),
   ("DOWNWARDS ",
     "ARROW,TWO HEADED ARROW,ARROW FROM BAR,ZIGZAG ARROW,ARROW WITH TIP LEFTWARDS," ++
     "ARROW WITH TIP RIGHTWARDS,ARROW WITH CORNER LEFTWARDS,HARPOON WITH BARB RIGHTWARDS," ++
     "HARPOON WITH BARB LEFTWARDS,PAIRED ARROWS,DOUBLE ARROW,ARROW WITH DOUBLE STROKE," ++
     "DASHED ARROW,WHITE ARROW,ARROW LEFTWARDS OF UPWARDS ARROW"),
   ("NORTH ",
     "WEST ARROW,EAST ARROW,WEST ARROW TO LONG BAR,WEST DOUBLE ARROW,EAST DOUBLE ARROW," ++
     "WEST ARROW TO CORNER"),
   ("SOUTH ",
     "EAST ARROW,WEST ARROW,EAST DOUBLE ARROW,WEST DOUBLE ARROW,EAST ARROW TO CORNER"),
   ("UP DOWN ",
     "ARROW,ARROW WITH BASE,DOUBLE ARROW,WHITE ARROW"),
   ("LEFT RIGHT ",
     "ARROW,WAVE ARROW,ARROW WITH STROKE,DOUBLE ARROW WITH STROKE,DOUBLE ARROW," ++
     "ARROW WITH VERTICAL STROKE,ARROW WITH DOUBLE VERTICAL STROKE,OPEN-HEADED ARROW"),
   ("VULGAR FRACTION ",
     "ONE QUARTER,ONE HALF,THREE QUARTERS"),
   ("SUPERSCRIPT ",
     "TWO,THREE,ONE"),
   ("SQUARE ",
     "ROOT,IMAGE OF,ORIGINAL OF,IMAGE OF OR EQUAL TO,ORIGINAL OF OR EQUAL TO,CAP,CUP," ++
     "IMAGE OF OR NOT EQUAL TO,ORIGINAL OF OR NOT EQUAL TO,WITH HORIZONTAL FILL," ++
     "WITH VERTICAL FILL,WITH ORTHOGONAL CROSSHATCH FILL," ++
     "WITH UPPER LEFT TO LOWER RIGHT FILL,WITH UPPER RIGHT TO LOWER LEFT FILL," ++
     "WITH DIAGONAL CROSSHATCH FILL,WITH LEFT HALF BLACK,WITH RIGHT HALF BLACK," ++
     "WITH UPPER LEFT DIAGONAL HALF BLACK,WITH LOWER RIGHT DIAGONAL HALF BLACK," ++
     "FOUR CORNERS"),
   ("BLACK ",
     "LEFTWARDS BULLET,RIGHTWARDS BULLET,SQUARE,SMALL SQUARE,RECTANGLE,VERTICAL RECTANGLE," ++
     "PARALLELOGRAM,UP-POINTING TRIANGLE,UP-POINTING SMALL TRIANGLE," ++
     "RIGHT-POINTING TRIANGLE,RIGHT-POINTING SMALL TRIANGLE,RIGHT-POINTING POINTER," ++
     "DOWN-POINTING TRIANGLE,DOWN-POINTING SMALL TRIANGLE,LEFT-POINTING TRIANGLE," ++
     "LEFT-POINTING SMALL TRIANGLE,LEFT-POINTING POINTER,DIAMOND,CIRCLE," ++
     "LOWER RIGHT TRIANGLE,LOWER LEFT TRIANGLE,UPPER LEFT TRIANGLE,UPPER RIGHT TRIANGLE," ++
     "MEDIUM SQUARE,MEDIUM SMALL SQUARE,SUN WITH RAYS,STAR,TELEPHONE,SHOGI PIECE," ++
     "LEFT POINTING INDEX,RIGHT POINTING INDEX,SMILING FACE,CHESS KING,CHESS QUEEN," ++
     "CHESS ROOK,CHESS BISHOP,CHESS KNIGHT,CHESS PAWN,SPADE SUIT,CLUB SUIT,HEART SUIT," ++
     "DIAMOND SUIT,UNIVERSAL RECYCLING SYMBOL,CIRCLE WITH WHITE DOT RIGHT," ++
     "CIRCLE WITH TWO WHITE DOTS,FLAG,MOON LILITH,DRAUGHTS MAN,DRAUGHTS KING,SNOWMAN," ++
     "TWO-WAY LEFT WAY TRAFFIC,LEFT LANE MERGE,TRUCK,CROSS ON SHIELD"),
   ("WHITE ",
     "SQUARE,SQUARE WITH ROUNDED CORNERS,SQUARE CONTAINING BLACK SMALL SQUARE," ++
     "SMALL SQUARE,RECTANGLE,VERTICAL RECTANGLE,PARALLELOGRAM,UP-POINTING TRIANGLE," ++
     "UP-POINTING SMALL TRIANGLE,RIGHT-POINTING TRIANGLE,RIGHT-POINTING SMALL TRIANGLE," ++
     "RIGHT-POINTING POINTER,DOWN-POINTING TRIANGLE,DOWN-POINTING SMALL TRIANGLE," ++
     "LEFT-POINTING TRIANGLE,LEFT-POINTING SMALL TRIANGLE,LEFT-POINTING POINTER,DIAMOND," ++
     "DIAMOND CONTAINING BLACK SMALL DIAMOND,CIRCLE,BULLET," ++
     "SQUARE WITH VERTICAL BISECTING LINE,UP-POINTING TRIANGLE WITH DOT," ++
     "SQUARE WITH UPPER LEFT QUADRANT,SQUARE WITH LOWER LEFT QUADRANT," ++
     "SQUARE WITH LOWER RIGHT QUADRANT,SQUARE WITH UPPER RIGHT QUADRANT," ++
     "CIRCLE WITH UPPER LEFT QUADRANT,CIRCLE WITH LOWER LEFT QUADRANT," ++
     "CIRCLE WITH LOWER RIGHT QUADRANT,CIRCLE WITH UPPER RIGHT QUADRANT,MEDIUM SQUARE," ++
     "MEDIUM SMALL SQUARE,STAR,TELEPHONE,SHOGI PIECE,LEFT POINTING INDEX," ++
     "UP POINTING INDEX,RIGHT POINTING INDEX,DOWN POINTING INDEX,FROWNING FACE," ++
     "SMILING FACE,SUN WITH RAYS,CHESS KING,CHESS QUEEN,CHESS ROOK,CHESS BISHOP," ++
     "CHESS KNIGHT,CHESS PAWN,HEART SUIT,DIAMOND SUIT,SPADE SUIT,CLUB SUIT," ++
     "CIRCLE WITH DOT RIGHT,CIRCLE WITH TWO DOTS,FLAG,DRAUGHTS MAN,DRAUGHTS KING," ++
     "DIAMOND IN SQUARE,TWO-WAY LEFT WAY TRAFFIC,LEFT LANE MERGE," ++
     "FLAG WITH HORIZONTAL MIDDLE BLACK STRIPE"),
   ("CIRCLED ",
     "PLUS,MINUS,TIMES,DIVISION SLASH,DOT OPERATOR,RING OPERATOR,ASTERISK OPERATOR,EQUALS," ++
     "DASH,CROSSING LANES"),
   ("GREATER-THAN ",
     "SIGN,OR EQUAL TO,OVER EQUAL TO,BUT NOT EQUAL TO,OR EQUIVALENT TO,OR LESS-THAN," ++
     "WITH DOT,EQUAL TO OR LESS-THAN,BUT NOT EQUIVALENT TO"),
   ("LESS-THAN ",
     "SIGN,OR EQUAL TO,OVER EQUAL TO,BUT NOT EQUAL TO,OR EQUIVALENT TO,OR GREATER-THAN," ++
     "WITH DOT,EQUAL TO OR GREATER-THAN,BUT NOT EQUIVALENT TO"),
   ("SUBSET ",
     "OF,OF OR EQUAL TO,OF WITH NOT EQUAL TO"),
   ("SUPERSET ",
     "OF,OF OR EQUAL TO,OF WITH NOT EQUAL TO"),
   ("NOT ",
     "SIGN,AN ELEMENT OF,PARALLEL TO,TILDE,ASYMPTOTICALLY EQUAL TO,ALMOST EQUAL TO," ++
     "EQUAL TO,IDENTICAL TO,EQUIVALENT TO,LESS-THAN,GREATER-THAN,A SUBSET OF," ++
     "A SUPERSET OF,TRUE,SQUARE IMAGE OF OR EQUAL TO,SQUARE ORIGINAL OF OR EQUAL TO," ++
     "NORMAL SUBGROUP OF,NORMAL SUBGROUP OF OR EQUAL TO"),
   ("DOUBLE ",
     "VERTICAL LINE,LOW LINE,LOW-9 QUOTATION MARK,HIGH-REVERSED-9 QUOTATION MARK,DAGGER," ++
     "PRIME,EXCLAMATION MARK,QUESTION MARK,INTEGRAL,VERTICAL BAR DOUBLE RIGHT TURNSTILE," ++
     "SUBSET,SUPERSET,INTERSECTION,UNION"),
   ("FACE WITH ",
     "TEARS OF JOY,COLD SWEAT,STUCK-OUT TONGUE,STUCK-OUT TONGUE AND WINKING EYE," ++
     "STUCK-OUT TONGUE AND TIGHTLY-CLOSED EYES,LOOK OF TRIUMPH,OPEN MOUTH," ++
     "OPEN MOUTH AND COLD SWEAT,MEDICAL MASK,ROLLING EYES,NO GOOD GESTURE,OK GESTURE"),
   ("FACE ",
     "SAVOURING DELICIOUS FOOD,THROWING A KISS,SCREAMING IN FEAR,WITHOUT MOUTH"),
   ("SMILING ",
     "FACE WITH OPEN MOUTH,FACE WITH OPEN MOUTH AND SMILING EYES," ++
     "FACE WITH OPEN MOUTH AND COLD SWEAT,FACE WITH OPEN MOUTH AND TIGHTLY-CLOSED EYES," ++
     "FACE WITH HALO,FACE WITH HORNS,FACE WITH SMILING EYES,FACE WITH HEART-SHAPED EYES," ++
     "FACE WITH SUNGLASSES,CAT FACE WITH OPEN MOUTH,CAT FACE WITH HEART-SHAPED EYES"),
   ("GRINNING ",
     "FACE,FACE WITH SMILING EYES,CAT FACE WITH SMILING EYES"),
   ("KISSING ",
     "FACE,FACE WITH SMILING EYES,FACE WITH CLOSED EYES,CAT FACE WITH CLOSED EYES"),
   ("HEAVY ",
     "WHITE DOWN-POINTING TRIANGLE,CIRCLE WITH STROKE AND TWO DOTS ABOVE,CHECK MARK," ++
     "MULTIPLICATION X,BALLOT X,GREEK CROSS,OPEN CENTRE CROSS"),
   ("MUSIC ",
     "FLAT SIGN,NATURAL SIGN,SHARP SIGN"),
   ("TRIGRAM FOR ",
     "HEAVEN,LAKE,FIRE,THUNDER,WIND,WATER,MOUNTAIN,EARTH"),
   ("RECYCLING SYMBOL FOR ",
     "TYPE-1 PLASTICS,TYPE-2 PLASTICS,TYPE-3 PLASTICS,TYPE-4 PLASTICS,TYPE-5 PLASTICS," ++
     "TYPE-6 PLASTICS,TYPE-7 PLASTICS,GENERIC MATERIALS"),
   ("DIE FACE-",
     "1,2,3,4,5,6"),
   ("CHESS ",
     ""),
   ("",
     "SPACE,EXCLAMATION MARK,QUOTATION MARK,NUMBER SIGN,DOLLAR SIGN,PERCENT SIGN," ++
     "AMPERSAND,APOSTROPHE,LEFT PARENTHESIS,RIGHT PARENTHESIS,ASTERISK,PLUS SIGN,COMMA," ++
     "HYPHEN-MINUS,FULL STOP,SOLIDUS,COLON,SEMICOLON,EQUALS SIGN,QUESTION MARK," ++
     "COMMERCIAL AT,LEFT SQUARE BRACKET,REVERSE SOLIDUS,RIGHT SQUARE BRACKET," ++
     "CIRCUMFLEX ACCENT,LOW LINE,GRAVE ACCENT,LEFT CURLY BRACKET,VERTICAL LINE," ++
     "RIGHT CURLY BRACKET,TILDE,NO-BREAK SPACE,INVERTED EXCLAMATION MARK,CENT SIGN," ++
     "POUND SIGN,CURRENCY SIGN,YEN SIGN,BROKEN BAR,SECTION SIGN,DIAERESIS,COPYRIGHT SIGN," ++
     "FEMININE ORDINAL INDICATOR,LEFT-POINTING DOUBLE ANGLE QUOTATION MARK,SOFT HYPHEN," ++
     "REGISTERED SIGN,MACRON,DEGREE SIGN,PLUS-MINUS SIGN,ACUTE ACCENT,MICRO SIGN," ++
     "PILCROW SIGN,MIDDLE DOT,CEDILLA,MASCULINE ORDINAL INDICATOR," ++
     "RIGHT-POINTING DOUBLE ANGLE QUOTATION MARK,INVERTED QUESTION MARK," ++
     "MULTIPLICATION SIGN,DIVISION SIGN,LATIN CAPITAL LIGATURE IJ,LATIN SMALL LIGATURE IJ," ++
     "LATIN CAPITAL LIGATURE OE,LATIN SMALL LIGATURE OE,HYPHEN,NON-BREAKING HYPHEN," ++
     "FIGURE DASH,EN DASH,EM DASH,HORIZONTAL BAR,LEFT SINGLE QUOTATION MARK," ++
     "RIGHT SINGLE QUOTATION MARK,SINGLE LOW-9 QUOTATION MARK," ++
     "SINGLE HIGH-REVERSED-9 QUOTATION MARK,LEFT DOUBLE QUOTATION MARK," ++
     "RIGHT DOUBLE QUOTATION MARK,DAGGER,BULLET,TRIANGULAR BULLET,ONE DOT LEADER," ++
     "TWO DOT LEADER,HORIZONTAL ELLIPSIS,HYPHENATION POINT,LINE SEPARATOR," ++
     "PARAGRAPH SEPARATOR,LEFT-TO-RIGHT EMBEDDING,RIGHT-TO-LEFT EMBEDDING," ++
     "POP DIRECTIONAL FORMATTING,LEFT-TO-RIGHT OVERRIDE,RIGHT-TO-LEFT OVERRIDE," ++
     "NARROW NO-BREAK SPACE,PER MILLE SIGN,PER TEN THOUSAND SIGN,PRIME,TRIPLE PRIME," ++
     "REVERSED PRIME,REVERSED DOUBLE PRIME,REVERSED TRIPLE PRIME,CARET," ++
     "SINGLE LEFT-POINTING ANGLE QUOTATION MARK," ++
     "SINGLE RIGHT-POINTING ANGLE QUOTATION MARK,REFERENCE MARK,INTERROBANG,OVERLINE," ++
     "UNDERTIE,CHARACTER TIE,CARET INSERTION POINT,ASTERISM,HYPHEN BULLET,FRACTION SLASH," ++
     "LEFT SQUARE BRACKET WITH QUILL,RIGHT SQUARE BRACKET WITH QUILL," ++
     "QUESTION EXCLAMATION MARK,EXCLAMATION QUESTION MARK,TIRONIAN SIGN ET," ++
     "REVERSED PILCROW SIGN,LOW ASTERISK,REVERSED SEMICOLON,CLOSE UP," ++
     "TWO ASTERISKS ALIGNED VERTICALLY,COMMERCIAL MINUS SIGN,SWUNG DASH,INVERTED UNDERTIE," ++
     "FLOWER PUNCTUATION MARK,THREE DOT PUNCTUATION,QUADRUPLE PRIME,FOUR DOT PUNCTUATION," ++
     "FIVE DOT PUNCTUATION,TWO DOT PUNCTUATION,FOUR DOT MARK,DOTTED CROSS,TRICOLON," ++
     "VERTICAL FOUR DOTS,EURO-CURRENCY SIGN,COLON SIGN,CRUZEIRO SIGN,FRENCH FRANC SIGN," ++
     "LIRA SIGN,MILL SIGN,NAIRA SIGN,PESETA SIGN,RUPEE SIGN,WON SIGN,NEW SHEQEL SIGN," ++
     "DONG SIGN,EURO SIGN,KIP SIGN,TUGRIK SIGN,DRACHMA SIGN,GERMAN PENNY SIGN,PESO SIGN," ++
     "GUARANI SIGN,AUSTRAL SIGN,HRYVNIA SIGN,CEDI SIGN,LIVRE TOURNOIS SIGN,SPESMILO SIGN," ++
     "TENGE SIGN,INDIAN RUPEE SIGN,TURKISH LIRA SIGN,NORDIC MARK SIGN,MANAT SIGN," ++
     "RUBLE SIGN,LARI SIGN,BITCOIN SIGN,ACCOUNT OF,ADDRESSED TO THE SUBJECT," ++
     "DEGREE CELSIUS,CENTRE LINE SYMBOL,CARE OF,CADA UNA,EULER CONSTANT,SCRUPLE," ++
     "DEGREE FAHRENHEIT,PLANCK CONSTANT,PLANCK CONSTANT OVER TWO PI,L B BAR SYMBOL," ++
     "NUMERO SIGN,SOUND RECORDING COPYRIGHT,PRESCRIPTION TAKE,RESPONSE,SERVICE MARK," ++
     "TELEPHONE SIGN,TRADE MARK SIGN,VERSICLE,OUNCE SIGN,OHM SIGN,INVERTED OHM SIGN," ++
     "TURNED GREEK SMALL LETTER IOTA,KELVIN SIGN,ANGSTROM SIGN,ESTIMATED SYMBOL," ++
     "TURNED CAPITAL F,ALEF SYMBOL,BET SYMBOL,GIMEL SYMBOL,DALET SYMBOL," ++
     "INFORMATION SOURCE,ROTATED CAPITAL Q,FACSIMILE SIGN,TURNED SANS-SERIF CAPITAL G," ++
     "TURNED SANS-SERIF CAPITAL L,REVERSED SANS-SERIF CAPITAL L," ++
     "TURNED SANS-SERIF CAPITAL Y,PROPERTY LINE,TURNED AMPERSAND,PER SIGN,AKTIESELSKAB," ++
     "TURNED SMALL F,SYMBOL FOR SAMARITAN SOURCE,ANTICLOCKWISE TOP SEMICIRCLE ARROW," ++
     "CLOCKWISE TOP SEMICIRCLE ARROW,ANTICLOCKWISE OPEN CIRCLE ARROW," ++
     "CLOCKWISE OPEN CIRCLE ARROW,RIGHT ARROW WITH SMALL CIRCLE,THREE RIGHTWARDS ARROWS," ++
     "FOR ALL,COMPLEMENT,PARTIAL DIFFERENTIAL,THERE EXISTS,THERE DOES NOT EXIST,EMPTY SET," ++
     "INCREMENT,NABLA,ELEMENT OF,SMALL ELEMENT OF,CONTAINS AS MEMBER," ++
     "DOES NOT CONTAIN AS MEMBER,SMALL CONTAINS AS MEMBER,END OF PROOF,N-ARY PRODUCT," ++
     "N-ARY COPRODUCT,N-ARY SUMMATION,MINUS SIGN,MINUS-OR-PLUS SIGN,DOT PLUS," ++
     "DIVISION SLASH,SET MINUS,ASTERISK OPERATOR,RING OPERATOR,BULLET OPERATOR,CUBE ROOT," ++
     "FOURTH ROOT,PROPORTIONAL TO,INFINITY,RIGHT ANGLE,ANGLE,MEASURED ANGLE," ++
     "SPHERICAL ANGLE,DIVIDES,DOES NOT DIVIDE,PARALLEL TO,LOGICAL AND,LOGICAL OR," ++
     "INTERSECTION,UNION,INTEGRAL,TRIPLE INTEGRAL,CONTOUR INTEGRAL,SURFACE INTEGRAL," ++
     "VOLUME INTEGRAL,CLOCKWISE INTEGRAL,CLOCKWISE CONTOUR INTEGRAL," ++
     "ANTICLOCKWISE CONTOUR INTEGRAL,THEREFORE,BECAUSE,RATIO,PROPORTION,DOT MINUS,EXCESS," ++
     "GEOMETRIC PROPORTION,HOMOTHETIC,TILDE OPERATOR,REVERSED TILDE,INVERTED LAZY S," ++
     "SINE WAVE,WREATH PRODUCT,MINUS TILDE,ASYMPTOTICALLY EQUAL TO,APPROXIMATELY EQUAL TO," ++
     "APPROXIMATELY BUT NOT ACTUALLY EQUAL TO,NEITHER APPROXIMATELY NOR ACTUALLY EQUAL TO," ++
     "ALMOST EQUAL TO,ALMOST EQUAL OR EQUAL TO,TRIPLE TILDE,ALL EQUAL TO,EQUIVALENT TO," ++
     "GEOMETRICALLY EQUIVALENT TO,DIFFERENCE BETWEEN,APPROACHES THE LIMIT," ++
     "GEOMETRICALLY EQUAL TO,APPROXIMATELY EQUAL TO OR THE IMAGE OF," ++
     "IMAGE OF OR APPROXIMATELY EQUAL TO,COLON EQUALS,EQUALS COLON,RING IN EQUAL TO," ++
     "RING EQUAL TO,CORRESPONDS TO,ESTIMATES,EQUIANGULAR TO,STAR EQUALS,DELTA EQUAL TO," ++
     "EQUAL TO BY DEFINITION,MEASURED BY,QUESTIONED EQUAL TO,IDENTICAL TO," ++
     "STRICTLY EQUIVALENT TO,MUCH LESS-THAN,MUCH GREATER-THAN,BETWEEN," ++
     "NEITHER LESS-THAN NOR EQUAL TO,NEITHER GREATER-THAN NOR EQUAL TO," ++
     "NEITHER LESS-THAN NOR EQUIVALENT TO,NEITHER GREATER-THAN NOR EQUIVALENT TO," ++
     "NEITHER LESS-THAN NOR GREATER-THAN,NEITHER GREATER-THAN NOR LESS-THAN,PRECEDES," ++
     "SUCCEEDS,PRECEDES OR EQUAL TO,SUCCEEDS OR EQUAL TO,PRECEDES OR EQUIVALENT TO," ++
     "SUCCEEDS OR EQUIVALENT TO,DOES NOT PRECEDE,DOES NOT SUCCEED," ++
     "NEITHER A SUBSET OF NOR EQUAL TO,NEITHER A SUPERSET OF NOR EQUAL TO,MULTISET," ++
     "MULTISET MULTIPLICATION,MULTISET UNION,SQUARED PLUS,SQUARED MINUS,SQUARED TIMES," ++
     "SQUARED DOT OPERATOR,RIGHT TACK,LEFT TACK,DOWN TACK,UP TACK,ASSERTION,MODELS,TRUE," ++
     "FORCES,TRIPLE VERTICAL BAR RIGHT TURNSTILE,DOES NOT PROVE,DOES NOT FORCE," ++
     "NEGATED DOUBLE VERTICAL BAR DOUBLE RIGHT TURNSTILE,PRECEDES UNDER RELATION," ++
     "SUCCEEDS UNDER RELATION,NORMAL SUBGROUP OF,CONTAINS AS NORMAL SUBGROUP," ++
     "NORMAL SUBGROUP OF OR EQUAL TO,CONTAINS AS NORMAL SUBGROUP OR EQUAL TO,ORIGINAL OF," ++
     "IMAGE OF,MULTIMAP,HERMITIAN CONJUGATE MATRIX,INTERCALATE,XOR,NAND,NOR," ++
     "RIGHT ANGLE WITH ARC,RIGHT TRIANGLE,N-ARY LOGICAL AND,N-ARY LOGICAL OR," ++
     "N-ARY INTERSECTION,N-ARY UNION,DIAMOND OPERATOR,DOT OPERATOR,STAR OPERATOR," ++
     "DIVISION TIMES,BOWTIE,LEFT NORMAL FACTOR SEMIDIRECT PRODUCT," ++
     "RIGHT NORMAL FACTOR SEMIDIRECT PRODUCT,LEFT SEMIDIRECT PRODUCT," ++
     "RIGHT SEMIDIRECT PRODUCT,REVERSED TILDE EQUALS,CURLY LOGICAL OR,CURLY LOGICAL AND," ++
     "PITCHFORK,EQUAL AND PARALLEL TO,VERY MUCH LESS-THAN,VERY MUCH GREATER-THAN," ++
     "EQUAL TO OR LESS-THAN,EQUAL TO OR GREATER-THAN,EQUAL TO OR PRECEDES," ++
     "EQUAL TO OR SUCCEEDS,DOES NOT PRECEDE OR EQUAL,DOES NOT SUCCEED OR EQUAL," ++
     "PRECEDES BUT NOT EQUIVALENT TO,SUCCEEDS BUT NOT EQUIVALENT TO," ++
     "DOES NOT CONTAIN AS NORMAL SUBGROUP,DOES NOT CONTAIN AS NORMAL SUBGROUP OR EQUAL," ++
     "VERTICAL ELLIPSIS,MIDLINE HORIZONTAL ELLIPSIS,UP RIGHT DIAGONAL ELLIPSIS," ++
     "DOWN RIGHT DIAGONAL ELLIPSIS,ELEMENT OF WITH LONG HORIZONTAL STROKE," ++
     "ELEMENT OF WITH VERTICAL BAR AT END OF HORIZONTAL STROKE," ++
     "SMALL ELEMENT OF WITH VERTICAL BAR AT END OF HORIZONTAL STROKE," ++
     "ELEMENT OF WITH DOT ABOVE,ELEMENT OF WITH OVERBAR,SMALL ELEMENT OF WITH OVERBAR," ++
     "ELEMENT OF WITH UNDERBAR,ELEMENT OF WITH TWO HORIZONTAL STROKES," ++
     "CONTAINS WITH LONG HORIZONTAL STROKE," ++
     "CONTAINS WITH VERTICAL BAR AT END OF HORIZONTAL STROKE," ++
     "SMALL CONTAINS WITH VERTICAL BAR AT END OF HORIZONTAL STROKE,CONTAINS WITH OVERBAR," ++
     "SMALL CONTAINS WITH OVERBAR,Z NOTATION BAG MEMBERSHIP,FISHEYE,LOZENGE,DOTTED CIRCLE," ++
     "CIRCLE WITH VERTICAL FILL,BULLSEYE,CIRCLE WITH LEFT HALF BLACK," ++
     "CIRCLE WITH RIGHT HALF BLACK,CIRCLE WITH LOWER HALF BLACK," ++
     "CIRCLE WITH UPPER HALF BLACK,CIRCLE WITH UPPER RIGHT QUADRANT BLACK," ++
     "CIRCLE WITH ALL BUT UPPER LEFT QUADRANT BLACK,LEFT HALF BLACK CIRCLE," ++
     "RIGHT HALF BLACK CIRCLE,INVERSE BULLET,INVERSE WHITE CIRCLE," ++
     "UPPER HALF INVERSE WHITE CIRCLE,LOWER HALF INVERSE WHITE CIRCLE," ++
     "UPPER LEFT QUADRANT CIRCULAR ARC,UPPER RIGHT QUADRANT CIRCULAR ARC," ++
     "LOWER RIGHT QUADRANT CIRCULAR ARC,LOWER LEFT QUADRANT CIRCULAR ARC," ++
     "UPPER HALF CIRCLE,LOWER HALF CIRCLE,UP-POINTING TRIANGLE WITH LEFT HALF BLACK," ++
     "UP-POINTING TRIANGLE WITH RIGHT HALF BLACK,LARGE CIRCLE,UPPER LEFT TRIANGLE," ++
     "UPPER RIGHT TRIANGLE,LOWER LEFT TRIANGLE,LOWER RIGHT TRIANGLE,CLOUD,UMBRELLA," ++
     "SNOWMAN,COMET,LIGHTNING,THUNDERSTORM,SUN,ASCENDING NODE,DESCENDING NODE,CONJUNCTION," ++
     "OPPOSITION,BALLOT BOX,BALLOT BOX WITH CHECK,BALLOT BOX WITH X,SALTIRE," ++
     "UMBRELLA WITH RAIN DROPS,HOT BEVERAGE,SHAMROCK,REVERSED ROTATED FLORAL HEART BULLET," ++
     "SKULL AND CROSSBONES,CAUTION SIGN,RADIOACTIVE SIGN,BIOHAZARD SIGN,CADUCEUS,ANKH," ++
     "ORTHODOX CROSS,CHI RHO,CROSS OF LORRAINE,CROSS OF JERUSALEM,STAR AND CRESCENT," ++
     "FARSI SYMBOL,ADI SHAKTI,HAMMER AND SICKLE,PEACE SYMBOL,YIN YANG,WHEEL OF DHARMA," ++
     "FIRST QUARTER MOON,LAST QUARTER MOON,MERCURY,FEMALE SIGN,EARTH,MALE SIGN,JUPITER," ++
     "SATURN,URANUS,NEPTUNE,PLUTO,ARIES,TAURUS,GEMINI,CANCER,LEO,VIRGO,LIBRA,SCORPIUS," ++
     "SAGITTARIUS,CAPRICORN,AQUARIUS,PISCES,HOT SPRINGS,QUARTER NOTE,EIGHTH NOTE," ++
     "BEAMED EIGHTH NOTES,BEAMED SIXTEENTH NOTES,WEST SYRIAC CROSS,EAST SYRIAC CROSS," ++
     "UNIVERSAL RECYCLING SYMBOL,RECYCLED PAPER SYMBOL,PARTIALLY-RECYCLED PAPER SYMBOL," ++
     "PERMANENT PAPER SIGN,WHEELCHAIR SYMBOL,MONOGRAM FOR YANG,MONOGRAM FOR YIN," ++
     "DIGRAM FOR GREATER YANG,DIGRAM FOR LESSER YIN,DIGRAM FOR LESSER YANG," ++
     "DIGRAM FOR GREATER YIN,HAMMER AND PICK,ANCHOR,CROSSED SWORDS,STAFF OF AESCULAPIUS," ++
     "SCALES,ALEMBIC,FLOWER,GEAR,STAFF OF HERMES,ATOM SYMBOL,FLEUR-DE-LIS," ++
     "OUTLINED WHITE STAR,THREE LINES CONVERGING RIGHT,THREE LINES CONVERGING LEFT," ++
     "WARNING SIGN,HIGH VOLTAGE SIGN,DOUBLED FEMALE SIGN,DOUBLED MALE SIGN," ++
     "INTERLOCKED FEMALE AND MALE SIGN,MALE AND FEMALE SIGN,MALE WITH STROKE SIGN," ++
     "MALE WITH STROKE AND MALE AND FEMALE SIGN,VERTICAL MALE WITH STROKE SIGN," ++
     "HORIZONTAL MALE WITH STROKE SIGN,MEDIUM WHITE CIRCLE,MEDIUM BLACK CIRCLE," ++
     "MEDIUM SMALL WHITE CIRCLE,MARRIAGE SYMBOL,DIVORCE SYMBOL," ++
     "UNMARRIED PARTNERSHIP SYMBOL,COFFIN,FUNERAL URN,NEUTER,CERES,PALLAS,JUNO,VESTA," ++
     "CHIRON,SEXTILE,SEMISEXTILE,QUINCUNX,SESQUIQUADRATE,SOCCER BALL,BASEBALL,SQUARED KEY," ++
     "SNOWMAN WITHOUT SNOW,SUN BEHIND CLOUD,RAIN,THUNDER CLOUD AND RAIN," ++
     "TURNED WHITE SHOGI PIECE,TURNED BLACK SHOGI PIECE,CROSSING LANES,DISABLED CAR," ++
     "OPHIUCHUS,PICK,CAR SLIDING,HELMET WITH WHITE CROSS,CHAINS,NO ENTRY," ++
     "ALTERNATE ONE-WAY LEFT WAY TRAFFIC,DRIVE SLOW SIGN,LEFT CLOSED ENTRY," ++
     "SQUARED SALTIRE,FALLING DIAGONAL IN WHITE CIRCLE IN BLACK SQUARE," ++
     "RESTRICTED LEFT ENTRY-1,RESTRICTED LEFT ENTRY-2,ASTRONOMICAL SYMBOL FOR URANUS," ++
     "PENTAGRAM,RIGHT-HANDED INTERLACED PENTAGRAM,LEFT-HANDED INTERLACED PENTAGRAM," ++
     "INVERTED PENTAGRAM,SHINTO SHRINE,CHURCH,CASTLE,HISTORIC SITE,GEAR WITHOUT HUB," ++
     "GEAR WITH HANDLES,MAP SYMBOL FOR LIGHTHOUSE,MOUNTAIN,UMBRELLA ON GROUND,FOUNTAIN," ++
     "FLAG IN HOLE,FERRY,SAILBOAT,SKIER,ICE SKATE,PERSON WITH BALL,TENT," ++
     "JAPANESE BANK SYMBOL,HEADSTONE GRAVEYARD SYMBOL,FUEL PUMP,CUP ON BLACK SQUARE," ++
     "CHECK MARK,MULTIPLICATION X,BALLOT X,OUTLINED GREEK CROSS,OPEN CENTRE CROSS," ++
     "LATIN CROSS,WINKING FACE,RELIEVED FACE,SMIRKING FACE,NEUTRAL FACE," ++
     "EXPRESSIONLESS FACE,UNAMUSED FACE,PENSIVE FACE,CONFUSED FACE,CONFOUNDED FACE," ++
     "DISAPPOINTED FACE,WORRIED FACE,ANGRY FACE,POUTING FACE,CRYING FACE,PERSEVERING FACE," ++
     "DISAPPOINTED BUT RELIEVED FACE,FROWNING FACE WITH OPEN MOUTH,ANGUISHED FACE," ++
     "FEARFUL FACE,WEARY FACE,SLEEPY FACE,TIRED FACE,GRIMACING FACE,LOUDLY CRYING FACE," ++
     "HUSHED FACE,ASTONISHED FACE,FLUSHED FACE,SLEEPING FACE,DIZZY FACE," ++
     "CAT FACE WITH TEARS OF JOY,CAT FACE WITH WRY SMILE,POUTING CAT FACE,CRYING CAT FACE," ++
     "WEARY CAT FACE,SLIGHTLY FROWNING FACE,SLIGHTLY SMILING FACE,UPSIDE-DOWN FACE," ++
     "PERSON BOWING DEEPLY,SEE-NO-EVIL MONKEY,HEAR-NO-EVIL MONKEY,SPEAK-NO-EVIL MONKEY," ++
     "HAPPY PERSON RAISING ONE HAND,PERSON RAISING BOTH HANDS IN CELEBRATION," ++
     "PERSON FROWNING,PERSON WITH POUTING FACE,PERSON WITH FOLDED HANDS,NULL," ++
     "START OF HEADING,START OF TEXT,END OF TEXT,END OF TRANSMISSION,ENQUIRY,ACKNOWLEDGE," ++
     "ALERT,BACKSPACE,CHARACTER TABULATION,HORIZONTAL TABULATION,LINE FEED,NEW LINE," ++
     "END OF LINE,LINE TABULATION,VERTICAL TABULATION,FORM FEED,CARRIAGE RETURN,SHIFT OUT," ++
     "SHIFT IN,DATA LINK ESCAPE,CANCEL,END OF MEDIUM,SUBSTITUTE,ESCAPE,DELETE,NEXT LINE," ++
     "NUL,BEL,TAB,HT,LF,NL,EOL,VT,FF,CR,ESC,DEL,NEL,SP,NBSP,SHY,ZWSP,ZWNJ,ZWJ,LRM,RLM,BOM," ++
     "BYTE ORDER MARK,ZWNBSP,ZERO WIDTH NO-BREAK SPACE,REPLACEMENT CHARACTER," ++
     "OBJECT REPLACEMENT CHARACTER,IDEOGRAPHIC SPACE,ZERO WIDTH SPACE,ZERO WIDTH JOINER," ++
     "ZERO WIDTH NON-JOINER,LEFT-TO-RIGHT MARK,RIGHT-TO-LEFT MARK,PILE OF POO,ROCKET,FIRE," ++
     "PARTY POPPER,SPARKLES,THUMBS UP SIGN,COMBINING ACUTE ACCENT,COMBINING GRAVE ACCENT," ++
     "COMBINING DIAERESIS,EM SPACE,EN SPACE,THIN SPACE,HAIR SPACE,FIGURE SPACE,SNAKE")]

/-- Signs with a name for every code point, as the front of the names and ranges with both ends. -/
def numberedNames : List (String × Nat × Nat) :=
  [("CJK UNIFIED IDEOGRAPH-", 0x3400, 0x4dbf),
   ("CJK UNIFIED IDEOGRAPH-", 0x4e00, 0x9fff),
   ("CJK UNIFIED IDEOGRAPH-", 0x20000, 0x2a6df),
   ("CJK UNIFIED IDEOGRAPH-", 0x2a700, 0x2b738),
   ("CJK UNIFIED IDEOGRAPH-", 0x2b740, 0x2b81d),
   ("CJK UNIFIED IDEOGRAPH-", 0x2b820, 0x2cea1),
   ("CJK UNIFIED IDEOGRAPH-", 0x2ceb0, 0x2ebe0),
   ("CJK UNIFIED IDEOGRAPH-", 0x30000, 0x3134a),
   ("CJK COMPATIBILITY IDEOGRAPH-", 0xf900, 0xfa6d),
   ("CJK COMPATIBILITY IDEOGRAPH-", 0xfa70, 0xfad9),
   ("CJK COMPATIBILITY IDEOGRAPH-", 0x2f800, 0x2fa1d),
   ("NUSHU CHARACTER-", 0x1b170, 0x1b2fb),
   ("KHITAN SMALL SCRIPT CHARACTER-", 0x18b00, 0x18cd5)]

def syllableFronts : List String :=
  ["G", "GG", "N", "D", "DD", "R", "M", "B", "BB", "S", "SS", "", "J", "JJ", "C", "K", "T", "P",
   "H"]

def syllableVowels : List String :=
  ["A", "AE", "YA", "YAE", "EO", "E", "YEO", "YE", "O", "WA", "WAE", "OE", "YO", "U", "WEO", "WE",
   "WI", "YU", "EU", "YI", "I"]

def syllableEnds : List String :=
  ["", "G", "GG", "GS", "N", "NJ", "NH", "D", "L", "LG", "LM", "LB", "LS", "LT", "LP", "LH", "M",
   "B", "BS", "S", "SS", "NG", "J", "C", "K", "T", "P", "H"]

/-- What follows the front of a text. -/
def afterFront? (front name : String) : Option String :=
  if name.startsWith front then some (String.ofList (name.toList.drop front.length)) else none

def isSyllable (s : String) : Bool :=
  syllableFronts.any fun a => syllableVowels.any fun b =>
    (afterFront? (a ++ b) s).any syllableEnds.contains

/-- Whether four or five digits in capitals are the code point of a sign in a range. -/
def isNumbered (first last : Nat) (digits : String) : Bool :=
  let cs := digits.toList
  (cs.length == 4 || cs.length == 5) && cs.map Char.toUpper == cs
    && (hexRun? cs).any fun n => first ≤ n && n ≤ last

/-- Whether a text is the name of a character. Only a name that follows from something has to be in
capitals. -/
def isCharacterName (name : String) : Bool :=
  (nameGroups.any fun (front, rests) =>
    (afterFront? front name.toUpper).any fun r =>
      (splitAt (· == ',') rests.toList).contains r.toList)
    || (numberedNames.any fun (front, first, last) =>
      (afterFront? front name).any (isNumbered first last))
    || (afterFront? "HANGUL SYLLABLE " name).any isSyllable

end Subgraph.Text
