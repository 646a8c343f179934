/-! The names of characters from 2000 to 9FFF. -/

namespace RuleReview.Text.Table.CharacterName

/-- The first character of a row and its name, then the names of those that follow, each with
the number of words that it has in common with the one before. -/
def symbols : List String := [
  "2000 EN QUAD;0EM QUAD;0EN SPACE;0EM SPACE;0THREE-PER-EM SPACE;0FOUR-PER-EM SPACE",
  "2006 SIX-PER-EM SPACE;0FIGURE SPACE;0PUNCTUATION SPACE;0THIN SPACE;0HAIR SPACE",
  "200b ZERO WIDTH SPACE;2NON-JOINER;2JOINER;0LEFT-TO-RIGHT MARK;0RIGHT-TO-LEFT MARK;0HYPHEN",
  "2011 NON-BREAKING HYPHEN;0FIGURE DASH;0EN DASH;0EM DASH;0HORIZONTAL BAR;0DOUBLE VERTICAL LINE",
  "2017 DOUBLE LOW LINE;0LEFT SINGLE QUOTATION MARK;0RIGHT SINGLE QUOTATION MARK",
  "201a SINGLE LOW-9 QUOTATION MARK;1HIGH-REVERSED-9 QUOTATION MARK;0LEFT DOUBLE QUOTATION MARK",
  "201d RIGHT DOUBLE QUOTATION MARK;0DOUBLE LOW-9 QUOTATION MARK;1HIGH-REVERSED-9 QUOTATION MARK",
  "2020 DAGGER;0DOUBLE DAGGER;0BULLET;0TRIANGULAR BULLET;0ONE DOT LEADER;0TWO DOT LEADER",
  "2026 HORIZONTAL ELLIPSIS;0HYPHENATION POINT;0LINE SEPARATOR;0PARAGRAPH SEPARATOR",
  "202a LEFT-TO-RIGHT EMBEDDING;0RIGHT-TO-LEFT EMBEDDING;0POP DIRECTIONAL FORMATTING",
  "202d LEFT-TO-RIGHT OVERRIDE;0RIGHT-TO-LEFT OVERRIDE;0NARROW NO-BREAK SPACE;0PER MILLE SIGN",
  "2031 PER TEN THOUSAND SIGN;0PRIME;0DOUBLE PRIME;0TRIPLE PRIME;0REVERSED PRIME;1DOUBLE PRIME",
  "2037 REVERSED TRIPLE PRIME;0CARET;0SINGLE LEFT-POINTING ANGLE QUOTATION MARK",
  "203a SINGLE RIGHT-POINTING ANGLE QUOTATION MARK;0REFERENCE MARK;0DOUBLE EXCLAMATION MARK",
  "203d INTERROBANG;0OVERLINE;0UNDERTIE;0CHARACTER TIE;0CARET INSERTION POINT;0ASTERISM",
  "2043 HYPHEN BULLET;0FRACTION SLASH;0LEFT SQUARE BRACKET WITH QUILL",
  "2046 RIGHT SQUARE BRACKET WITH QUILL;0DOUBLE QUESTION MARK;0QUESTION EXCLAMATION MARK",
  "2049 EXCLAMATION QUESTION MARK;0TIRONIAN SIGN ET;0REVERSED PILCROW SIGN;0BLACK LEFTWARDS BULLET",
  "204d BLACK RIGHTWARDS BULLET;0LOW ASTERISK;0REVERSED SEMICOLON;0CLOSE UP",
  "2051 TWO ASTERISKS ALIGNED VERTICALLY;0COMMERCIAL MINUS SIGN;0SWUNG DASH;0INVERTED UNDERTIE",
  "2055 FLOWER PUNCTUATION MARK;0THREE DOT PUNCTUATION;0QUADRUPLE PRIME;0FOUR DOT PUNCTUATION",
  "2059 FIVE DOT PUNCTUATION;0TWO DOT PUNCTUATION;0FOUR DOT MARK;0DOTTED CROSS;0TRICOLON",
  "205e VERTICAL FOUR DOTS;0MEDIUM MATHEMATICAL SPACE;0WORD JOINER;0FUNCTION APPLICATION",
  "2062 INVISIBLE TIMES;1SEPARATOR;1PLUS",
  "2066 LEFT-TO-RIGHT ISOLATE;0RIGHT-TO-LEFT ISOLATE;0FIRST STRONG ISOLATE",
  "2069 POP DIRECTIONAL ISOLATE;0INHIBIT SYMMETRIC SWAPPING;0ACTIVATE SYMMETRIC SWAPPING",
  "206c INHIBIT ARABIC FORM SHAPING;0ACTIVATE ARABIC FORM SHAPING;0NATIONAL DIGIT SHAPES",
  "206f NOMINAL DIGIT SHAPES;0SUPERSCRIPT ZERO;1LATIN SMALL LETTER I",
  "2074 SUPERSCRIPT FOUR;1FIVE;1SIX;1SEVEN;1EIGHT;1NINE;1PLUS SIGN;1MINUS;1EQUALS SIGN",
  "207d SUPERSCRIPT LEFT PARENTHESIS;1RIGHT PARENTHESIS;1LATIN SMALL LETTER N;0SUBSCRIPT ZERO;1ONE",
  "2082 SUBSCRIPT TWO;1THREE;1FOUR;1FIVE;1SIX;1SEVEN;1EIGHT;1NINE;1PLUS SIGN;1MINUS;1EQUALS SIGN",
  "208d SUBSCRIPT LEFT PARENTHESIS;1RIGHT PARENTHESIS",
  "2090 LATIN SUBSCRIPT SMALL LETTER A;4E;4O;4X;4SCHWA;4H;4K;4L;4M;4N;4P;4S;4T",
  "20a0 EURO-CURRENCY SIGN;0COLON SIGN;0CRUZEIRO SIGN;0FRENCH FRANC SIGN;0LIRA SIGN;0MILL SIGN",
  "20a6 NAIRA SIGN;0PESETA SIGN;0RUPEE SIGN;0WON SIGN;0NEW SHEQEL SIGN;0DONG SIGN;0EURO SIGN",
  "20ad KIP SIGN;0TUGRIK SIGN;0DRACHMA SIGN;0GERMAN PENNY SIGN;0PESO SIGN;0GUARANI SIGN",
  "20b3 AUSTRAL SIGN;0HRYVNIA SIGN;0CEDI SIGN;0LIVRE TOURNOIS SIGN;0SPESMILO SIGN;0TENGE SIGN",
  "20b9 INDIAN RUPEE SIGN;0TURKISH LIRA SIGN;0NORDIC MARK SIGN;0MANAT SIGN;0RUBLE SIGN;0LARI SIGN",
  "20bf BITCOIN SIGN;0SOM SIGN",
  "20d0 COMBINING LEFT HARPOON ABOVE;1RIGHT HARPOON ABOVE;1LONG VERTICAL LINE OVERLAY",
  "20d3 COMBINING SHORT VERTICAL LINE OVERLAY;1ANTICLOCKWISE ARROW ABOVE;1CLOCKWISE ARROW ABOVE",
  "20d6 COMBINING LEFT ARROW ABOVE;1RIGHT ARROW ABOVE;1RING OVERLAY;1CLOCKWISE RING OVERLAY",
  "20da COMBINING ANTICLOCKWISE RING OVERLAY;1THREE DOTS ABOVE;1FOUR DOTS ABOVE;1ENCLOSING CIRCLE",
  "20de COMBINING ENCLOSING SQUARE;2DIAMOND;2CIRCLE BACKSLASH;1LEFT RIGHT ARROW ABOVE",
  "20e2 COMBINING ENCLOSING SCREEN;2KEYCAP;2UPWARD POINTING TRIANGLE;1REVERSE SOLIDUS OVERLAY",
  "20e6 COMBINING DOUBLE VERTICAL STROKE OVERLAY;1ANNUITY SYMBOL;1TRIPLE UNDERDOT",
  "20e9 COMBINING WIDE BRIDGE ABOVE;1LEFTWARDS ARROW OVERLAY;1LONG DOUBLE SOLIDUS OVERLAY",
  "20ec COMBINING RIGHTWARDS HARPOON WITH BARB DOWNWARDS;1LEFTWARDS HARPOON WITH BARB DOWNWARDS",
  "20ee COMBINING LEFT ARROW BELOW;1RIGHT ARROW BELOW;1ASTERISK ABOVE",
  "2100 ACCOUNT OF;0ADDRESSED TO THE SUBJECT;0DOUBLE-STRUCK CAPITAL C;0DEGREE CELSIUS",
  "2104 CENTRE LINE SYMBOL;0CARE OF;0CADA UNA;0EULER CONSTANT;0SCRUPLE;0DEGREE FAHRENHEIT",
  "210a SCRIPT SMALL G;1CAPITAL H;0BLACK-LETTER CAPITAL H;0DOUBLE-STRUCK CAPITAL H",
  "210e PLANCK CONSTANT;2OVER TWO PI;0SCRIPT CAPITAL I;0BLACK-LETTER CAPITAL I;0SCRIPT CAPITAL L",
  "2113 SCRIPT SMALL L;0L B BAR SYMBOL;0DOUBLE-STRUCK CAPITAL N;0NUMERO SIGN",
  "2117 SOUND RECORDING COPYRIGHT;0SCRIPT CAPITAL P;0DOUBLE-STRUCK CAPITAL P;2Q;0SCRIPT CAPITAL R",
  "211c BLACK-LETTER CAPITAL R;0DOUBLE-STRUCK CAPITAL R;0PRESCRIPTION TAKE;0RESPONSE;0SERVICE MARK",
  "2121 TELEPHONE SIGN;0TRADE MARK SIGN;0VERSICLE;0DOUBLE-STRUCK CAPITAL Z;0OUNCE SIGN;0OHM SIGN",
  "2127 INVERTED OHM SIGN;0BLACK-LETTER CAPITAL Z;0TURNED GREEK SMALL LETTER IOTA;0KELVIN SIGN",
  "212b ANGSTROM SIGN;0SCRIPT CAPITAL B;0BLACK-LETTER CAPITAL C;0ESTIMATED SYMBOL;0SCRIPT SMALL E",
  "2130 SCRIPT CAPITAL E;2F;0TURNED CAPITAL F;0SCRIPT CAPITAL M;1SMALL O;0ALEF SYMBOL;0BET SYMBOL",
  "2137 GIMEL SYMBOL;0DALET SYMBOL;0INFORMATION SOURCE;0ROTATED CAPITAL Q;0FACSIMILE SIGN",
  "213c DOUBLE-STRUCK SMALL PI;2GAMMA;1CAPITAL GAMMA;2PI;1N-ARY SUMMATION",
  "2141 TURNED SANS-SERIF CAPITAL G;3L;0REVERSED SANS-SERIF CAPITAL L;0TURNED SANS-SERIF CAPITAL Y",
  "2145 DOUBLE-STRUCK ITALIC CAPITAL D;2SMALL D;3E;3I;3J;0PROPERTY LINE;0TURNED AMPERSAND",
  "214c PER SIGN;0AKTIESELSKAB;0TURNED SMALL F;0SYMBOL FOR SAMARITAN SOURCE",
  "2150 VULGAR FRACTION ONE SEVENTH;3NINTH;3TENTH;3THIRD;2TWO THIRDS;2ONE FIFTH;2TWO FIFTHS",
  "2157 VULGAR FRACTION THREE FIFTHS;2FOUR FIFTHS;2ONE SIXTH;2FIVE SIXTHS;2ONE EIGHTH",
  "215c VULGAR FRACTION THREE EIGHTHS;2FIVE EIGHTHS;2SEVEN EIGHTHS;0FRACTION NUMERATOR ONE",
  "2160 ROMAN NUMERAL ONE;2TWO;2THREE;2FOUR;2FIVE;2SIX;2SEVEN;2EIGHT;2NINE;2TEN;2ELEVEN;2TWELVE",
  "216c ROMAN NUMERAL FIFTY;2ONE HUNDRED;2FIVE HUNDRED;2ONE THOUSAND;0SMALL ROMAN NUMERAL ONE;3TWO",
  "2172 SMALL ROMAN NUMERAL THREE;3FOUR;3FIVE;3SIX;3SEVEN;3EIGHT;3NINE;3TEN;3ELEVEN;3TWELVE;3FIFTY",
  "217d SMALL ROMAN NUMERAL ONE HUNDRED;3FIVE HUNDRED;3ONE THOUSAND",
  "2180 ROMAN NUMERAL ONE THOUSAND C D;2FIVE THOUSAND;2TEN THOUSAND;2REVERSED ONE HUNDRED",
  "2184 LATIN SMALL LETTER REVERSED C;0ROMAN NUMERAL SIX LATE FORM;2FIFTY EARLY FORM;3THOUSAND",
  "2188 ROMAN NUMERAL ONE HUNDRED THOUSAND;0VULGAR FRACTION ZERO THIRDS;0TURNED DIGIT TWO;2THREE",
  "2190 LEFTWARDS ARROW;0UPWARDS ARROW;0RIGHTWARDS ARROW;0DOWNWARDS ARROW;0LEFT RIGHT ARROW",
  "2195 UP DOWN ARROW;0NORTH WEST ARROW;1EAST ARROW;0SOUTH EAST ARROW;1WEST ARROW",
  "219a LEFTWARDS ARROW WITH STROKE;0RIGHTWARDS ARROW WITH STROKE;0LEFTWARDS WAVE ARROW",
  "219d RIGHTWARDS WAVE ARROW;0LEFTWARDS TWO HEADED ARROW;0UPWARDS TWO HEADED ARROW",
  "21a0 RIGHTWARDS TWO HEADED ARROW;0DOWNWARDS TWO HEADED ARROW;0LEFTWARDS ARROW WITH TAIL",
  "21a3 RIGHTWARDS ARROW WITH TAIL;0LEFTWARDS ARROW FROM BAR;0UPWARDS ARROW FROM BAR",
  "21a6 RIGHTWARDS ARROW FROM BAR;0DOWNWARDS ARROW FROM BAR;0UP DOWN ARROW WITH BASE",
  "21a9 LEFTWARDS ARROW WITH HOOK;0RIGHTWARDS ARROW WITH HOOK;0LEFTWARDS ARROW WITH LOOP",
  "21ac RIGHTWARDS ARROW WITH LOOP;0LEFT RIGHT WAVE ARROW;2ARROW WITH STROKE",
  "21af DOWNWARDS ZIGZAG ARROW;0UPWARDS ARROW WITH TIP LEFTWARDS;4RIGHTWARDS",
  "21b2 DOWNWARDS ARROW WITH TIP LEFTWARDS;4RIGHTWARDS;0RIGHTWARDS ARROW WITH CORNER DOWNWARDS",
  "21b5 DOWNWARDS ARROW WITH CORNER LEFTWARDS;0ANTICLOCKWISE TOP SEMICIRCLE ARROW",
  "21b7 CLOCKWISE TOP SEMICIRCLE ARROW;0NORTH WEST ARROW TO LONG BAR",
  "21b9 LEFTWARDS ARROW TO BAR OVER RIGHTWARDS ARROW TO BAR;0ANTICLOCKWISE OPEN CIRCLE ARROW",
  "21bb CLOCKWISE OPEN CIRCLE ARROW;0LEFTWARDS HARPOON WITH BARB UPWARDS;4DOWNWARDS",
  "21be UPWARDS HARPOON WITH BARB RIGHTWARDS;4LEFTWARDS;0RIGHTWARDS HARPOON WITH BARB UPWARDS",
  "21c1 RIGHTWARDS HARPOON WITH BARB DOWNWARDS;0DOWNWARDS HARPOON WITH BARB RIGHTWARDS;4LEFTWARDS",
  "21c4 RIGHTWARDS ARROW OVER LEFTWARDS ARROW;0UPWARDS ARROW LEFTWARDS OF DOWNWARDS ARROW",
  "21c6 LEFTWARDS ARROW OVER RIGHTWARDS ARROW;1PAIRED ARROWS;0UPWARDS PAIRED ARROWS",
  "21c9 RIGHTWARDS PAIRED ARROWS;0DOWNWARDS PAIRED ARROWS",
  "21cb LEFTWARDS HARPOON OVER RIGHTWARDS HARPOON;0RIGHTWARDS HARPOON OVER LEFTWARDS HARPOON",
  "21cd LEFTWARDS DOUBLE ARROW WITH STROKE;0LEFT RIGHT DOUBLE ARROW WITH STROKE",
  "21cf RIGHTWARDS DOUBLE ARROW WITH STROKE;0LEFTWARDS DOUBLE ARROW;0UPWARDS DOUBLE ARROW",
  "21d2 RIGHTWARDS DOUBLE ARROW;0DOWNWARDS DOUBLE ARROW;0LEFT RIGHT DOUBLE ARROW",
  "21d5 UP DOWN DOUBLE ARROW;0NORTH WEST DOUBLE ARROW;1EAST DOUBLE ARROW;0SOUTH EAST DOUBLE ARROW",
  "21d9 SOUTH WEST DOUBLE ARROW;0LEFTWARDS TRIPLE ARROW;0RIGHTWARDS TRIPLE ARROW",
  "21dc LEFTWARDS SQUIGGLE ARROW;0RIGHTWARDS SQUIGGLE ARROW;0UPWARDS ARROW WITH DOUBLE STROKE",
  "21df DOWNWARDS ARROW WITH DOUBLE STROKE;0LEFTWARDS DASHED ARROW;0UPWARDS DASHED ARROW",
  "21e2 RIGHTWARDS DASHED ARROW;0DOWNWARDS DASHED ARROW;0LEFTWARDS ARROW TO BAR",
  "21e5 RIGHTWARDS ARROW TO BAR;0LEFTWARDS WHITE ARROW;0UPWARDS WHITE ARROW",
  "21e8 RIGHTWARDS WHITE ARROW;0DOWNWARDS WHITE ARROW;0UPWARDS WHITE ARROW FROM BAR;3ON PEDESTAL",
  "21ec UPWARDS WHITE ARROW ON PEDESTAL WITH HORIZONTAL BAR;6VERTICAL BAR;2DOUBLE ARROW",
  "21ef UPWARDS WHITE DOUBLE ARROW ON PEDESTAL;0RIGHTWARDS WHITE ARROW FROM WALL",
  "21f1 NORTH WEST ARROW TO CORNER;0SOUTH EAST ARROW TO CORNER;0UP DOWN WHITE ARROW",
  "21f4 RIGHT ARROW WITH SMALL CIRCLE;0DOWNWARDS ARROW LEFTWARDS OF UPWARDS ARROW",
  "21f6 THREE RIGHTWARDS ARROWS;0LEFTWARDS ARROW WITH VERTICAL STROKE",
  "21f8 RIGHTWARDS ARROW WITH VERTICAL STROKE;0LEFT RIGHT ARROW WITH VERTICAL STROKE",
  "21fa LEFTWARDS ARROW WITH DOUBLE VERTICAL STROKE;0RIGHTWARDS ARROW WITH DOUBLE VERTICAL STROKE",
  "21fc LEFT RIGHT ARROW WITH DOUBLE VERTICAL STROKE;0LEFTWARDS OPEN-HEADED ARROW",
  "21fe RIGHTWARDS OPEN-HEADED ARROW;0LEFT RIGHT OPEN-HEADED ARROW;0FOR ALL;0COMPLEMENT",
  "2202 PARTIAL DIFFERENTIAL;0THERE EXISTS;1DOES NOT EXIST;0EMPTY SET;0INCREMENT;0NABLA",
  "2208 ELEMENT OF;0NOT AN ELEMENT OF;0SMALL ELEMENT OF;0CONTAINS AS MEMBER",
  "220c DOES NOT CONTAIN AS MEMBER;0SMALL CONTAINS AS MEMBER;0END OF PROOF;0N-ARY PRODUCT",
  "2210 N-ARY COPRODUCT;1SUMMATION;0MINUS SIGN;0MINUS-OR-PLUS SIGN;0DOT PLUS;0DIVISION SLASH",
  "2216 SET MINUS;0ASTERISK OPERATOR;0RING OPERATOR;0BULLET OPERATOR;0SQUARE ROOT;0CUBE ROOT",
  "221c FOURTH ROOT;0PROPORTIONAL TO;0INFINITY;0RIGHT ANGLE;0ANGLE;0MEASURED ANGLE",
  "2222 SPHERICAL ANGLE;0DIVIDES;0DOES NOT DIVIDE;0PARALLEL TO;0NOT PARALLEL TO;0LOGICAL AND;1OR",
  "2229 INTERSECTION;0UNION;0INTEGRAL;0DOUBLE INTEGRAL;0TRIPLE INTEGRAL;0CONTOUR INTEGRAL",
  "222f SURFACE INTEGRAL;0VOLUME INTEGRAL;0CLOCKWISE INTEGRAL;1CONTOUR INTEGRAL",
  "2233 ANTICLOCKWISE CONTOUR INTEGRAL;0THEREFORE;0BECAUSE;0RATIO;0PROPORTION;0DOT MINUS;0EXCESS",
  "223a GEOMETRIC PROPORTION;0HOMOTHETIC;0TILDE OPERATOR;0REVERSED TILDE;0INVERTED LAZY S",
  "223f SINE WAVE;0WREATH PRODUCT;0NOT TILDE;0MINUS TILDE;0ASYMPTOTICALLY EQUAL TO",
  "2244 NOT ASYMPTOTICALLY EQUAL TO;0APPROXIMATELY EQUAL TO;1BUT NOT ACTUALLY EQUAL TO",
  "2247 NEITHER APPROXIMATELY NOR ACTUALLY EQUAL TO;0ALMOST EQUAL TO;0NOT ALMOST EQUAL TO",
  "224a ALMOST EQUAL OR EQUAL TO;0TRIPLE TILDE;0ALL EQUAL TO;0EQUIVALENT TO",
  "224e GEOMETRICALLY EQUIVALENT TO;0DIFFERENCE BETWEEN;0APPROACHES THE LIMIT",
  "2251 GEOMETRICALLY EQUAL TO;0APPROXIMATELY EQUAL TO OR THE IMAGE OF",
  "2253 IMAGE OF OR APPROXIMATELY EQUAL TO;0COLON EQUALS;0EQUALS COLON;0RING IN EQUAL TO;1EQUAL TO",
  "2258 CORRESPONDS TO;0ESTIMATES;0EQUIANGULAR TO;0STAR EQUALS;0DELTA EQUAL TO",
  "225d EQUAL TO BY DEFINITION;0MEASURED BY;0QUESTIONED EQUAL TO;0NOT EQUAL TO;0IDENTICAL TO",
  "2262 NOT IDENTICAL TO;0STRICTLY EQUIVALENT TO;0LESS-THAN OR EQUAL TO;0GREATER-THAN OR EQUAL TO",
  "2266 LESS-THAN OVER EQUAL TO;0GREATER-THAN OVER EQUAL TO;0LESS-THAN BUT NOT EQUAL TO",
  "2269 GREATER-THAN BUT NOT EQUAL TO;0MUCH LESS-THAN;1GREATER-THAN;0BETWEEN;0NOT EQUIVALENT TO",
  "226e NOT LESS-THAN;1GREATER-THAN;0NEITHER LESS-THAN NOR EQUAL TO;1GREATER-THAN NOR EQUAL TO",
  "2272 LESS-THAN OR EQUIVALENT TO;0GREATER-THAN OR EQUIVALENT TO",
  "2274 NEITHER LESS-THAN NOR EQUIVALENT TO;1GREATER-THAN NOR EQUIVALENT TO",
  "2276 LESS-THAN OR GREATER-THAN;0GREATER-THAN OR LESS-THAN;0NEITHER LESS-THAN NOR GREATER-THAN",
  "2279 NEITHER GREATER-THAN NOR LESS-THAN;0PRECEDES;0SUCCEEDS;0PRECEDES OR EQUAL TO",
  "227d SUCCEEDS OR EQUAL TO;0PRECEDES OR EQUIVALENT TO;0SUCCEEDS OR EQUIVALENT TO",
  "2280 DOES NOT PRECEDE;2SUCCEED;0SUBSET OF;0SUPERSET OF;0NOT A SUBSET OF;2SUPERSET OF",
  "2286 SUBSET OF OR EQUAL TO;0SUPERSET OF OR EQUAL TO;0NEITHER A SUBSET OF NOR EQUAL TO",
  "2289 NEITHER A SUPERSET OF NOR EQUAL TO;0SUBSET OF WITH NOT EQUAL TO",
  "228b SUPERSET OF WITH NOT EQUAL TO;0MULTISET;1MULTIPLICATION;1UNION;0SQUARE IMAGE OF",
  "2290 SQUARE ORIGINAL OF;1IMAGE OF OR EQUAL TO;1ORIGINAL OF OR EQUAL TO;1CAP;1CUP;0CIRCLED PLUS",
  "2296 CIRCLED MINUS;1TIMES;1DIVISION SLASH;1DOT OPERATOR;1RING OPERATOR;1ASTERISK OPERATOR",
  "229c CIRCLED EQUALS;1DASH;0SQUARED PLUS;1MINUS;1TIMES;1DOT OPERATOR;0RIGHT TACK;0LEFT TACK",
  "22a4 DOWN TACK;0UP TACK;0ASSERTION;0MODELS;0TRUE;0FORCES;0TRIPLE VERTICAL BAR RIGHT TURNSTILE",
  "22ab DOUBLE VERTICAL BAR DOUBLE RIGHT TURNSTILE;0DOES NOT PROVE;0NOT TRUE;0DOES NOT FORCE",
  "22af NEGATED DOUBLE VERTICAL BAR DOUBLE RIGHT TURNSTILE;0PRECEDES UNDER RELATION",
  "22b1 SUCCEEDS UNDER RELATION;0NORMAL SUBGROUP OF;0CONTAINS AS NORMAL SUBGROUP",
  "22b4 NORMAL SUBGROUP OF OR EQUAL TO;0CONTAINS AS NORMAL SUBGROUP OR EQUAL TO;0ORIGINAL OF",
  "22b7 IMAGE OF;0MULTIMAP;0HERMITIAN CONJUGATE MATRIX;0INTERCALATE;0XOR;0NAND;0NOR",
  "22be RIGHT ANGLE WITH ARC;1TRIANGLE;0N-ARY LOGICAL AND;2OR;1INTERSECTION;1UNION",
  "22c4 DIAMOND OPERATOR;0DOT OPERATOR;0STAR OPERATOR;0DIVISION TIMES;0BOWTIE",
  "22c9 LEFT NORMAL FACTOR SEMIDIRECT PRODUCT;0RIGHT NORMAL FACTOR SEMIDIRECT PRODUCT",
  "22cb LEFT SEMIDIRECT PRODUCT;0RIGHT SEMIDIRECT PRODUCT;0REVERSED TILDE EQUALS;0CURLY LOGICAL OR",
  "22cf CURLY LOGICAL AND;0DOUBLE SUBSET;1SUPERSET;1INTERSECTION;1UNION;0PITCHFORK",
  "22d5 EQUAL AND PARALLEL TO;0LESS-THAN WITH DOT;0GREATER-THAN WITH DOT;0VERY MUCH LESS-THAN",
  "22d9 VERY MUCH GREATER-THAN;0LESS-THAN EQUAL TO OR GREATER-THAN",
  "22db GREATER-THAN EQUAL TO OR LESS-THAN;0EQUAL TO OR LESS-THAN;3GREATER-THAN;3PRECEDES",
  "22df EQUAL TO OR SUCCEEDS;0DOES NOT PRECEDE OR EQUAL;2SUCCEED OR EQUAL",
  "22e2 NOT SQUARE IMAGE OF OR EQUAL TO;2ORIGINAL OF OR EQUAL TO;0SQUARE IMAGE OF OR NOT EQUAL TO",
  "22e5 SQUARE ORIGINAL OF OR NOT EQUAL TO;0LESS-THAN BUT NOT EQUIVALENT TO",
  "22e7 GREATER-THAN BUT NOT EQUIVALENT TO;0PRECEDES BUT NOT EQUIVALENT TO",
  "22e9 SUCCEEDS BUT NOT EQUIVALENT TO;0NOT NORMAL SUBGROUP OF",
  "22eb DOES NOT CONTAIN AS NORMAL SUBGROUP;0NOT NORMAL SUBGROUP OF OR EQUAL TO",
  "22ed DOES NOT CONTAIN AS NORMAL SUBGROUP OR EQUAL;0VERTICAL ELLIPSIS",
  "22ef MIDLINE HORIZONTAL ELLIPSIS;0UP RIGHT DIAGONAL ELLIPSIS;0DOWN RIGHT DIAGONAL ELLIPSIS",
  "22f2 ELEMENT OF WITH LONG HORIZONTAL STROKE;3VERTICAL BAR AT END OF HORIZONTAL STROKE",
  "22f4 SMALL ELEMENT OF WITH VERTICAL BAR AT END OF HORIZONTAL STROKE;0ELEMENT OF WITH DOT ABOVE",
  "22f6 ELEMENT OF WITH OVERBAR;0SMALL ELEMENT OF WITH OVERBAR;0ELEMENT OF WITH UNDERBAR",
  "22f9 ELEMENT OF WITH TWO HORIZONTAL STROKES;0CONTAINS WITH LONG HORIZONTAL STROKE",
  "22fb CONTAINS WITH VERTICAL BAR AT END OF HORIZONTAL STROKE",
  "22fc SMALL CONTAINS WITH VERTICAL BAR AT END OF HORIZONTAL STROKE;0CONTAINS WITH OVERBAR",
  "22fe SMALL CONTAINS WITH OVERBAR;0Z NOTATION BAG MEMBERSHIP;0DIAMETER SIGN;0ELECTRIC ARROW",
  "2302 HOUSE;0UP ARROWHEAD;0DOWN ARROWHEAD;0PROJECTIVE;0PERSPECTIVE;0WAVY LINE;0LEFT CEILING",
  "2309 RIGHT CEILING;0LEFT FLOOR;0RIGHT FLOOR;0BOTTOM RIGHT CROP;1LEFT CROP;0TOP RIGHT CROP",
  "230f TOP LEFT CROP;0REVERSED NOT SIGN;0SQUARE LOZENGE;0ARC;0SEGMENT;0SECTOR;0TELEPHONE RECORDER",
  "2316 POSITION INDICATOR;0VIEWDATA SQUARE;0PLACE OF INTEREST SIGN;0TURNED NOT SIGN;0WATCH",
  "231b HOURGLASS;0TOP LEFT CORNER;1RIGHT CORNER;0BOTTOM LEFT CORNER;1RIGHT CORNER",
  "2320 TOP HALF INTEGRAL;0BOTTOM HALF INTEGRAL;0FROWN;0SMILE",
  "2324 UP ARROWHEAD BETWEEN TWO HORIZONTAL BARS;0OPTION KEY;0ERASE TO THE RIGHT",
  "2327 X IN A RECTANGLE BOX;0KEYBOARD;0LEFT-POINTING ANGLE BRACKET;0RIGHT-POINTING ANGLE BRACKET",
  "232b ERASE TO THE LEFT;0BENZENE RING;0CYLINDRICITY;0ALL AROUND-PROFILE;0SYMMETRY;0TOTAL RUNOUT",
  "2331 DIMENSION ORIGIN;0CONICAL TAPER;0SLOPE;0COUNTERBORE;0COUNTERSINK",
  "2336 APL FUNCTIONAL SYMBOL I-BEAM;3SQUISH QUAD;3QUAD EQUAL;4DIVIDE;4DIAMOND;4JOT;4CIRCLE",
  "233d APL FUNCTIONAL SYMBOL CIRCLE STILE;4JOT;3SLASH BAR;3BACKSLASH BAR;3QUAD SLASH;4BACKSLASH",
  "2343 APL FUNCTIONAL SYMBOL QUAD LESS-THAN;4GREATER-THAN;3LEFTWARDS VANE;3RIGHTWARDS VANE",
  "2347 APL FUNCTIONAL SYMBOL QUAD LEFTWARDS ARROW;4RIGHTWARDS ARROW;3CIRCLE BACKSLASH",
  "234a APL FUNCTIONAL SYMBOL DOWN TACK UNDERBAR;3DELTA STILE;3QUAD DOWN CARET;4DELTA",
  "234e APL FUNCTIONAL SYMBOL DOWN TACK JOT;3UPWARDS VANE;3QUAD UPWARDS ARROW;3UP TACK OVERBAR",
  "2352 APL FUNCTIONAL SYMBOL DEL STILE;3QUAD UP CARET;4DEL;3UP TACK JOT;3DOWNWARDS VANE",
  "2357 APL FUNCTIONAL SYMBOL QUAD DOWNWARDS ARROW;3QUOTE UNDERBAR;3DELTA UNDERBAR",
  "235a APL FUNCTIONAL SYMBOL DIAMOND UNDERBAR;3JOT UNDERBAR;3CIRCLE UNDERBAR;3UP SHOE JOT",
  "235e APL FUNCTIONAL SYMBOL QUOTE QUAD;3CIRCLE STAR;3QUAD COLON;3UP TACK DIAERESIS",
  "2362 APL FUNCTIONAL SYMBOL DEL DIAERESIS;3STAR DIAERESIS;3JOT DIAERESIS;3CIRCLE DIAERESIS",
  "2366 APL FUNCTIONAL SYMBOL DOWN SHOE STILE;3LEFT SHOE STILE;3TILDE DIAERESIS",
  "2369 APL FUNCTIONAL SYMBOL GREATER-THAN DIAERESIS;3COMMA BAR;3DEL TILDE;3ZILDE;3STILE TILDE",
  "236e APL FUNCTIONAL SYMBOL SEMICOLON UNDERBAR;3QUAD NOT EQUAL;4QUESTION;3DOWN CARET TILDE",
  "2372 APL FUNCTIONAL SYMBOL UP CARET TILDE;3IOTA;3RHO;3OMEGA;3ALPHA UNDERBAR;3EPSILON UNDERBAR",
  "2378 APL FUNCTIONAL SYMBOL IOTA UNDERBAR;3OMEGA UNDERBAR;3ALPHA;0NOT CHECK MARK",
  "237c RIGHT ANGLE WITH DOWNWARDS ZIGZAG ARROW;0SHOULDERED OPEN BOX;0BELL SYMBOL",
  "237f VERTICAL LINE WITH MIDDLE DOT;0INSERTION SYMBOL;0CONTINUOUS UNDERLINE SYMBOL",
  "2382 DISCONTINUOUS UNDERLINE SYMBOL;0EMPHASIS SYMBOL;0COMPOSITION SYMBOL",
  "2385 WHITE SQUARE WITH CENTRE VERTICAL LINE;0ENTER SYMBOL;0ALTERNATIVE KEY SYMBOL;0HELM SYMBOL",
  "2389 CIRCLED HORIZONTAL BAR WITH NOTCH;1TRIANGLE DOWN;0BROKEN CIRCLE WITH NORTHWEST ARROW",
  "238c UNDO SYMBOL;0MONOSTABLE SYMBOL;0HYSTERESIS SYMBOL;0OPEN-CIRCUIT-OUTPUT H-TYPE SYMBOL",
  "2390 OPEN-CIRCUIT-OUTPUT L-TYPE SYMBOL;0PASSIVE-PULL-DOWN-OUTPUT SYMBOL",
  "2392 PASSIVE-PULL-UP-OUTPUT SYMBOL;0DIRECT CURRENT SYMBOL FORM TWO;0SOFTWARE-FUNCTION SYMBOL",
  "2395 APL FUNCTIONAL SYMBOL QUAD;0DECIMAL SEPARATOR KEY SYMBOL;0PREVIOUS PAGE;0NEXT PAGE",
  "2399 PRINT SCREEN SYMBOL;0CLEAR SCREEN SYMBOL;0LEFT PARENTHESIS UPPER HOOK;2EXTENSION",
  "239d LEFT PARENTHESIS LOWER HOOK;0RIGHT PARENTHESIS UPPER HOOK;2EXTENSION;2LOWER HOOK",
  "23a1 LEFT SQUARE BRACKET UPPER CORNER;3EXTENSION;3LOWER CORNER",
  "23a4 RIGHT SQUARE BRACKET UPPER CORNER;3EXTENSION;3LOWER CORNER;0LEFT CURLY BRACKET UPPER HOOK",
  "23a8 LEFT CURLY BRACKET MIDDLE PIECE;3LOWER HOOK;0CURLY BRACKET EXTENSION",
  "23ab RIGHT CURLY BRACKET UPPER HOOK;3MIDDLE PIECE;3LOWER HOOK;0INTEGRAL EXTENSION",
  "23af HORIZONTAL LINE EXTENSION;0UPPER LEFT OR LOWER RIGHT CURLY BRACKET SECTION",
  "23b1 UPPER RIGHT OR LOWER LEFT CURLY BRACKET SECTION;0SUMMATION TOP;1BOTTOM;0TOP SQUARE BRACKET",
  "23b5 BOTTOM SQUARE BRACKET;3OVER TOP SQUARE BRACKET;0RADICAL SYMBOL BOTTOM",
  "23b8 LEFT VERTICAL BOX LINE;0RIGHT VERTICAL BOX LINE;0HORIZONTAL SCAN LINE-1;2LINE-3;2LINE-7",
  "23bd HORIZONTAL SCAN LINE-9;0DENTISTRY SYMBOL LIGHT VERTICAL AND TOP RIGHT;5BOTTOM RIGHT",
  "23c0 DENTISTRY SYMBOL LIGHT VERTICAL WITH CIRCLE;3DOWN AND HORIZONTAL WITH CIRCLE",
  "23c2 DENTISTRY SYMBOL LIGHT UP AND HORIZONTAL WITH CIRCLE;3VERTICAL WITH TRIANGLE",
  "23c4 DENTISTRY SYMBOL LIGHT DOWN AND HORIZONTAL WITH TRIANGLE;3UP AND HORIZONTAL WITH TRIANGLE",
  "23c6 DENTISTRY SYMBOL LIGHT VERTICAL AND WAVE;3DOWN AND HORIZONTAL WITH WAVE",
  "23c8 DENTISTRY SYMBOL LIGHT UP AND HORIZONTAL WITH WAVE;3DOWN AND HORIZONTAL;3UP AND HORIZONTAL",
  "23cb DENTISTRY SYMBOL LIGHT VERTICAL AND TOP LEFT;5BOTTOM LEFT;0SQUARE FOOT;0RETURN SYMBOL",
  "23cf EJECT SYMBOL;0VERTICAL LINE EXTENSION;0METRICAL BREVE;1LONG OVER SHORT;1SHORT OVER LONG",
  "23d4 METRICAL LONG OVER TWO SHORTS;1TWO SHORTS OVER LONG;3JOINED;1TRISEME;1TETRASEME;1PENTASEME",
  "23da EARTH GROUND;0FUSE;0TOP PARENTHESIS;0BOTTOM PARENTHESIS;0TOP CURLY BRACKET",
  "23df BOTTOM CURLY BRACKET;0TOP TORTOISE SHELL BRACKET;0BOTTOM TORTOISE SHELL BRACKET",
  "23e2 WHITE TRAPEZIUM;0BENZENE RING WITH CIRCLE;0STRAIGHTNESS;0FLATNESS;0AC CURRENT",
  "23e7 ELECTRICAL INTERSECTION;0DECIMAL EXPONENT SYMBOL;0BLACK RIGHT-POINTING DOUBLE TRIANGLE",
  "23ea BLACK LEFT-POINTING DOUBLE TRIANGLE;1UP-POINTING DOUBLE TRIANGLE",
  "23ec BLACK DOWN-POINTING DOUBLE TRIANGLE;1RIGHT-POINTING DOUBLE TRIANGLE WITH VERTICAL BAR",
  "23ee BLACK LEFT-POINTING DOUBLE TRIANGLE WITH VERTICAL BAR",
  "23ef BLACK RIGHT-POINTING TRIANGLE WITH DOUBLE VERTICAL BAR;0ALARM CLOCK;0STOPWATCH",
  "23f2 TIMER CLOCK;0HOURGLASS WITH FLOWING SAND;0BLACK MEDIUM LEFT-POINTING TRIANGLE",
  "23f5 BLACK MEDIUM RIGHT-POINTING TRIANGLE;2UP-POINTING TRIANGLE;2DOWN-POINTING TRIANGLE",
  "23f8 DOUBLE VERTICAL BAR;0BLACK SQUARE FOR STOP;1CIRCLE FOR RECORD;0POWER SYMBOL;1ON-OFF SYMBOL",
  "23fd POWER ON SYMBOL;1SLEEP SYMBOL;0OBSERVER EYE SYMBOL;0SYMBOL FOR NULL;2START OF HEADING",
  "2402 SYMBOL FOR START OF TEXT;2END OF TEXT;4TRANSMISSION;2ENQUIRY;2ACKNOWLEDGE;2BELL;2BACKSPACE",
  "2409 SYMBOL FOR HORIZONTAL TABULATION;2LINE FEED;2VERTICAL TABULATION;2FORM FEED",
  "240d SYMBOL FOR CARRIAGE RETURN;2SHIFT OUT;3IN;2DATA LINK ESCAPE;2DEVICE CONTROL ONE;4TWO",
  "2413 SYMBOL FOR DEVICE CONTROL THREE;4FOUR;2NEGATIVE ACKNOWLEDGE;2SYNCHRONOUS IDLE",
  "2417 SYMBOL FOR END OF TRANSMISSION BLOCK;2CANCEL;2END OF MEDIUM;2SUBSTITUTE;2ESCAPE",
  "241c SYMBOL FOR FILE SEPARATOR;2GROUP SEPARATOR;2RECORD SEPARATOR;2UNIT SEPARATOR;2SPACE",
  "2421 SYMBOL FOR DELETE;0BLANK SYMBOL;0OPEN BOX;0SYMBOL FOR NEWLINE;2DELETE FORM TWO",
  "2426 SYMBOL FOR SUBSTITUTE FORM TWO",
  "2440 OCR HOOK;1CHAIR;1FORK;1INVERTED FORK;1BELT BUCKLE;1BOW TIE;1BRANCH BANK IDENTIFICATION",
  "2447 OCR AMOUNT OF CHECK;1DASH;1CUSTOMER ACCOUNT NUMBER;1DOUBLE BACKSLASH",
  "2460 CIRCLED DIGIT ONE;2TWO;2THREE;2FOUR;2FIVE;2SIX;2SEVEN;2EIGHT;2NINE;1NUMBER TEN;2ELEVEN",
  "246b CIRCLED NUMBER TWELVE;2THIRTEEN;2FOURTEEN;2FIFTEEN;2SIXTEEN;2SEVENTEEN;2EIGHTEEN;2NINETEEN",
  "2473 CIRCLED NUMBER TWENTY;0PARENTHESIZED DIGIT ONE;2TWO;2THREE;2FOUR;2FIVE;2SIX;2SEVEN;2EIGHT",
  "247c PARENTHESIZED DIGIT NINE;1NUMBER TEN;2ELEVEN;2TWELVE;2THIRTEEN;2FOURTEEN;2FIFTEEN;2SIXTEEN",
  "2484 PARENTHESIZED NUMBER SEVENTEEN;2EIGHTEEN;2NINETEEN;2TWENTY;0DIGIT ONE FULL STOP",
  "2489 DIGIT TWO FULL STOP;1THREE FULL STOP;1FOUR FULL STOP;1FIVE FULL STOP;1SIX FULL STOP",
  "248e DIGIT SEVEN FULL STOP;1EIGHT FULL STOP;1NINE FULL STOP;0NUMBER TEN FULL STOP",
  "2492 NUMBER ELEVEN FULL STOP;1TWELVE FULL STOP;1THIRTEEN FULL STOP;1FOURTEEN FULL STOP",
  "2496 NUMBER FIFTEEN FULL STOP;1SIXTEEN FULL STOP;1SEVENTEEN FULL STOP;1EIGHTEEN FULL STOP",
  "249a NUMBER NINETEEN FULL STOP;1TWENTY FULL STOP;0PARENTHESIZED LATIN SMALL LETTER A;4B;4C;4D",
  "24a0 PARENTHESIZED LATIN SMALL LETTER E;4F;4G;4H;4I;4J;4K;4L;4M;4N;4O;4P;4Q;4R;4S;4T;4U;4V;4W",
  "24b3 PARENTHESIZED LATIN SMALL LETTER X;4Y;4Z;0CIRCLED LATIN CAPITAL LETTER A;4B;4C;4D;4E;4F;4G",
  "24bd CIRCLED LATIN CAPITAL LETTER H;4I;4J;4K;4L;4M;4N;4O;4P;4Q;4R;4S;4T;4U;4V;4W;4X;4Y;4Z",
  "24d0 CIRCLED LATIN SMALL LETTER A;4B;4C;4D;4E;4F;4G;4H;4I;4J;4K;4L;4M;4N;4O;4P;4Q;4R;4S;4T;4U",
  "24e5 CIRCLED LATIN SMALL LETTER V;4W;4X;4Y;4Z;1DIGIT ZERO;0NEGATIVE CIRCLED NUMBER ELEVEN",
  "24ec NEGATIVE CIRCLED NUMBER TWELVE;3THIRTEEN;3FOURTEEN;3FIFTEEN;3SIXTEEN;3SEVENTEEN;3EIGHTEEN",
  "24f3 NEGATIVE CIRCLED NUMBER NINETEEN;3TWENTY;0DOUBLE CIRCLED DIGIT ONE;3TWO;3THREE;3FOUR;3FIVE",
  "24fa DOUBLE CIRCLED DIGIT SIX;3SEVEN;3EIGHT;3NINE;2NUMBER TEN;0NEGATIVE CIRCLED DIGIT ZERO",
  "2500 BOX DRAWINGS LIGHT HORIZONTAL;2HEAVY HORIZONTAL;2LIGHT VERTICAL;2HEAVY VERTICAL",
  "2504 BOX DRAWINGS LIGHT TRIPLE DASH HORIZONTAL;2HEAVY TRIPLE DASH HORIZONTAL",
  "2506 BOX DRAWINGS LIGHT TRIPLE DASH VERTICAL;2HEAVY TRIPLE DASH VERTICAL",
  "2508 BOX DRAWINGS LIGHT QUADRUPLE DASH HORIZONTAL;2HEAVY QUADRUPLE DASH HORIZONTAL",
  "250a BOX DRAWINGS LIGHT QUADRUPLE DASH VERTICAL;2HEAVY QUADRUPLE DASH VERTICAL",
  "250c BOX DRAWINGS LIGHT DOWN AND RIGHT;2DOWN LIGHT AND RIGHT HEAVY;3HEAVY AND RIGHT LIGHT",
  "250f BOX DRAWINGS HEAVY DOWN AND RIGHT;2LIGHT DOWN AND LEFT;2DOWN LIGHT AND LEFT HEAVY",
  "2512 BOX DRAWINGS DOWN HEAVY AND LEFT LIGHT;2HEAVY DOWN AND LEFT;2LIGHT UP AND RIGHT",
  "2515 BOX DRAWINGS UP LIGHT AND RIGHT HEAVY;3HEAVY AND RIGHT LIGHT;2HEAVY UP AND RIGHT",
  "2518 BOX DRAWINGS LIGHT UP AND LEFT;2UP LIGHT AND LEFT HEAVY;3HEAVY AND LEFT LIGHT",
  "251b BOX DRAWINGS HEAVY UP AND LEFT;2LIGHT VERTICAL AND RIGHT;2VERTICAL LIGHT AND RIGHT HEAVY",
  "251e BOX DRAWINGS UP HEAVY AND RIGHT DOWN LIGHT;2DOWN HEAVY AND RIGHT UP LIGHT",
  "2520 BOX DRAWINGS VERTICAL HEAVY AND RIGHT LIGHT;2DOWN LIGHT AND RIGHT UP HEAVY",
  "2522 BOX DRAWINGS UP LIGHT AND RIGHT DOWN HEAVY;2HEAVY VERTICAL AND RIGHT",
  "2524 BOX DRAWINGS LIGHT VERTICAL AND LEFT;2VERTICAL LIGHT AND LEFT HEAVY",
  "2526 BOX DRAWINGS UP HEAVY AND LEFT DOWN LIGHT;2DOWN HEAVY AND LEFT UP LIGHT",
  "2528 BOX DRAWINGS VERTICAL HEAVY AND LEFT LIGHT;2DOWN LIGHT AND LEFT UP HEAVY",
  "252a BOX DRAWINGS UP LIGHT AND LEFT DOWN HEAVY;2HEAVY VERTICAL AND LEFT",
  "252c BOX DRAWINGS LIGHT DOWN AND HORIZONTAL;2LEFT HEAVY AND RIGHT DOWN LIGHT",
  "252e BOX DRAWINGS RIGHT HEAVY AND LEFT DOWN LIGHT;2DOWN LIGHT AND HORIZONTAL HEAVY",
  "2530 BOX DRAWINGS DOWN HEAVY AND HORIZONTAL LIGHT;2RIGHT LIGHT AND LEFT DOWN HEAVY",
  "2532 BOX DRAWINGS LEFT LIGHT AND RIGHT DOWN HEAVY;2HEAVY DOWN AND HORIZONTAL",
  "2534 BOX DRAWINGS LIGHT UP AND HORIZONTAL;2LEFT HEAVY AND RIGHT UP LIGHT",
  "2536 BOX DRAWINGS RIGHT HEAVY AND LEFT UP LIGHT;2UP LIGHT AND HORIZONTAL HEAVY",
  "2538 BOX DRAWINGS UP HEAVY AND HORIZONTAL LIGHT;2RIGHT LIGHT AND LEFT UP HEAVY",
  "253a BOX DRAWINGS LEFT LIGHT AND RIGHT UP HEAVY;2HEAVY UP AND HORIZONTAL",
  "253c BOX DRAWINGS LIGHT VERTICAL AND HORIZONTAL;2LEFT HEAVY AND RIGHT VERTICAL LIGHT",
  "253e BOX DRAWINGS RIGHT HEAVY AND LEFT VERTICAL LIGHT;2VERTICAL LIGHT AND HORIZONTAL HEAVY",
  "2540 BOX DRAWINGS UP HEAVY AND DOWN HORIZONTAL LIGHT;2DOWN HEAVY AND UP HORIZONTAL LIGHT",
  "2542 BOX DRAWINGS VERTICAL HEAVY AND HORIZONTAL LIGHT;2LEFT UP HEAVY AND RIGHT DOWN LIGHT",
  "2544 BOX DRAWINGS RIGHT UP HEAVY AND LEFT DOWN LIGHT;2LEFT DOWN HEAVY AND RIGHT UP LIGHT",
  "2546 BOX DRAWINGS RIGHT DOWN HEAVY AND LEFT UP LIGHT;2DOWN LIGHT AND UP HORIZONTAL HEAVY",
  "2548 BOX DRAWINGS UP LIGHT AND DOWN HORIZONTAL HEAVY;2RIGHT LIGHT AND LEFT VERTICAL HEAVY",
  "254a BOX DRAWINGS LEFT LIGHT AND RIGHT VERTICAL HEAVY;2HEAVY VERTICAL AND HORIZONTAL",
  "254c BOX DRAWINGS LIGHT DOUBLE DASH HORIZONTAL;2HEAVY DOUBLE DASH HORIZONTAL",
  "254e BOX DRAWINGS LIGHT DOUBLE DASH VERTICAL;2HEAVY DOUBLE DASH VERTICAL;2DOUBLE HORIZONTAL",
  "2551 BOX DRAWINGS DOUBLE VERTICAL;2DOWN SINGLE AND RIGHT DOUBLE;3DOUBLE AND RIGHT SINGLE",
  "2554 BOX DRAWINGS DOUBLE DOWN AND RIGHT;2DOWN SINGLE AND LEFT DOUBLE;3DOUBLE AND LEFT SINGLE",
  "2557 BOX DRAWINGS DOUBLE DOWN AND LEFT;2UP SINGLE AND RIGHT DOUBLE;3DOUBLE AND RIGHT SINGLE",
  "255a BOX DRAWINGS DOUBLE UP AND RIGHT;2UP SINGLE AND LEFT DOUBLE;3DOUBLE AND LEFT SINGLE",
  "255d BOX DRAWINGS DOUBLE UP AND LEFT;2VERTICAL SINGLE AND RIGHT DOUBLE;3DOUBLE AND RIGHT SINGLE",
  "2560 BOX DRAWINGS DOUBLE VERTICAL AND RIGHT;2VERTICAL SINGLE AND LEFT DOUBLE",
  "2562 BOX DRAWINGS VERTICAL DOUBLE AND LEFT SINGLE;2DOUBLE VERTICAL AND LEFT",
  "2564 BOX DRAWINGS DOWN SINGLE AND HORIZONTAL DOUBLE;3DOUBLE AND HORIZONTAL SINGLE",
  "2566 BOX DRAWINGS DOUBLE DOWN AND HORIZONTAL;2UP SINGLE AND HORIZONTAL DOUBLE",
  "2568 BOX DRAWINGS UP DOUBLE AND HORIZONTAL SINGLE;2DOUBLE UP AND HORIZONTAL",
  "256a BOX DRAWINGS VERTICAL SINGLE AND HORIZONTAL DOUBLE;3DOUBLE AND HORIZONTAL SINGLE",
  "256c BOX DRAWINGS DOUBLE VERTICAL AND HORIZONTAL;2LIGHT ARC DOWN AND RIGHT;6LEFT;4UP AND LEFT",
  "2570 BOX DRAWINGS LIGHT ARC UP AND RIGHT;3DIAGONAL UPPER RIGHT TO LOWER LEFT",
  "2572 BOX DRAWINGS LIGHT DIAGONAL UPPER LEFT TO LOWER RIGHT;4CROSS;3LEFT;3UP;3RIGHT;3DOWN",
  "2578 BOX DRAWINGS HEAVY LEFT;3UP;3RIGHT;3DOWN;2LIGHT LEFT AND HEAVY RIGHT;3UP AND HEAVY DOWN",
  "257e BOX DRAWINGS HEAVY LEFT AND LIGHT RIGHT;3UP AND LIGHT DOWN;0UPPER HALF BLOCK",
  "2581 LOWER ONE EIGHTH BLOCK;2QUARTER BLOCK;1THREE EIGHTHS BLOCK;1HALF BLOCK;1FIVE EIGHTHS BLOCK",
  "2586 LOWER THREE QUARTERS BLOCK;1SEVEN EIGHTHS BLOCK;0FULL BLOCK;0LEFT SEVEN EIGHTHS BLOCK",
  "258a LEFT THREE QUARTERS BLOCK;1FIVE EIGHTHS BLOCK;1HALF BLOCK;1THREE EIGHTHS BLOCK",
  "258e LEFT ONE QUARTER BLOCK;2EIGHTH BLOCK;0RIGHT HALF BLOCK;0LIGHT SHADE;0MEDIUM SHADE",
  "2593 DARK SHADE;0UPPER ONE EIGHTH BLOCK;0RIGHT ONE EIGHTH BLOCK;0QUADRANT LOWER LEFT;2RIGHT",
  "2598 QUADRANT UPPER LEFT;3AND LOWER LEFT AND LOWER RIGHT;5RIGHT;4UPPER RIGHT AND LOWER LEFT",
  "259c QUADRANT UPPER LEFT AND UPPER RIGHT AND LOWER RIGHT;2RIGHT;3AND LOWER LEFT",
  "259f QUADRANT UPPER RIGHT AND LOWER LEFT AND LOWER RIGHT;0BLACK SQUARE;0WHITE SQUARE",
  "25a2 WHITE SQUARE WITH ROUNDED CORNERS;2CONTAINING BLACK SMALL SQUARE",
  "25a4 SQUARE WITH HORIZONTAL FILL;2VERTICAL FILL;2ORTHOGONAL CROSSHATCH FILL",
  "25a7 SQUARE WITH UPPER LEFT TO LOWER RIGHT FILL;3RIGHT TO LOWER LEFT FILL",
  "25a9 SQUARE WITH DIAGONAL CROSSHATCH FILL;0BLACK SMALL SQUARE;0WHITE SMALL SQUARE",
  "25ac BLACK RECTANGLE;0WHITE RECTANGLE;0BLACK VERTICAL RECTANGLE;0WHITE VERTICAL RECTANGLE",
  "25b0 BLACK PARALLELOGRAM;0WHITE PARALLELOGRAM;0BLACK UP-POINTING TRIANGLE",
  "25b3 WHITE UP-POINTING TRIANGLE;0BLACK UP-POINTING SMALL TRIANGLE",
  "25b5 WHITE UP-POINTING SMALL TRIANGLE;0BLACK RIGHT-POINTING TRIANGLE",
  "25b7 WHITE RIGHT-POINTING TRIANGLE;0BLACK RIGHT-POINTING SMALL TRIANGLE",
  "25b9 WHITE RIGHT-POINTING SMALL TRIANGLE;0BLACK RIGHT-POINTING POINTER",
  "25bb WHITE RIGHT-POINTING POINTER;0BLACK DOWN-POINTING TRIANGLE;0WHITE DOWN-POINTING TRIANGLE",
  "25be BLACK DOWN-POINTING SMALL TRIANGLE;0WHITE DOWN-POINTING SMALL TRIANGLE",
  "25c0 BLACK LEFT-POINTING TRIANGLE;0WHITE LEFT-POINTING TRIANGLE",
  "25c2 BLACK LEFT-POINTING SMALL TRIANGLE;0WHITE LEFT-POINTING SMALL TRIANGLE",
  "25c4 BLACK LEFT-POINTING POINTER;0WHITE LEFT-POINTING POINTER;0BLACK DIAMOND;0WHITE DIAMOND",
  "25c8 WHITE DIAMOND CONTAINING BLACK SMALL DIAMOND;0FISHEYE;0LOZENGE;0WHITE CIRCLE",
  "25cc DOTTED CIRCLE;0CIRCLE WITH VERTICAL FILL;0BULLSEYE;0BLACK CIRCLE",
  "25d0 CIRCLE WITH LEFT HALF BLACK;2RIGHT HALF BLACK;2LOWER HALF BLACK;2UPPER HALF BLACK",
  "25d4 CIRCLE WITH UPPER RIGHT QUADRANT BLACK;2ALL BUT UPPER LEFT QUADRANT BLACK",
  "25d6 LEFT HALF BLACK CIRCLE;0RIGHT HALF BLACK CIRCLE;0INVERSE BULLET;1WHITE CIRCLE",
  "25da UPPER HALF INVERSE WHITE CIRCLE;0LOWER HALF INVERSE WHITE CIRCLE",
  "25dc UPPER LEFT QUADRANT CIRCULAR ARC;1RIGHT QUADRANT CIRCULAR ARC",
  "25de LOWER RIGHT QUADRANT CIRCULAR ARC;1LEFT QUADRANT CIRCULAR ARC;0UPPER HALF CIRCLE",
  "25e1 LOWER HALF CIRCLE;0BLACK LOWER RIGHT TRIANGLE;2LEFT TRIANGLE;1UPPER LEFT TRIANGLE",
  "25e5 BLACK UPPER RIGHT TRIANGLE;0WHITE BULLET;0SQUARE WITH LEFT HALF BLACK;2RIGHT HALF BLACK",
  "25e9 SQUARE WITH UPPER LEFT DIAGONAL HALF BLACK;2LOWER RIGHT DIAGONAL HALF BLACK",
  "25eb WHITE SQUARE WITH VERTICAL BISECTING LINE;1UP-POINTING TRIANGLE WITH DOT",
  "25ed UP-POINTING TRIANGLE WITH LEFT HALF BLACK;3RIGHT HALF BLACK;0LARGE CIRCLE",
  "25f0 WHITE SQUARE WITH UPPER LEFT QUADRANT;3LOWER LEFT QUADRANT;4RIGHT QUADRANT",
  "25f3 WHITE SQUARE WITH UPPER RIGHT QUADRANT;1CIRCLE WITH UPPER LEFT QUADRANT",
  "25f5 WHITE CIRCLE WITH LOWER LEFT QUADRANT;4RIGHT QUADRANT;3UPPER RIGHT QUADRANT",
  "25f8 UPPER LEFT TRIANGLE;1RIGHT TRIANGLE;0LOWER LEFT TRIANGLE;0WHITE MEDIUM SQUARE",
  "25fc BLACK MEDIUM SQUARE;0WHITE MEDIUM SMALL SQUARE;0BLACK MEDIUM SMALL SQUARE",
  "25ff LOWER RIGHT TRIANGLE;0BLACK SUN WITH RAYS;0CLOUD;0UMBRELLA;0SNOWMAN;0COMET;0BLACK STAR",
  "2606 WHITE STAR;0LIGHTNING;0THUNDERSTORM;0SUN;0ASCENDING NODE;0DESCENDING NODE;0CONJUNCTION",
  "260d OPPOSITION;0BLACK TELEPHONE;0WHITE TELEPHONE;0BALLOT BOX;2WITH CHECK;3X;0SALTIRE",
  "2614 UMBRELLA WITH RAIN DROPS;0HOT BEVERAGE;0WHITE SHOGI PIECE;0BLACK SHOGI PIECE;0SHAMROCK",
  "2619 REVERSED ROTATED FLORAL HEART BULLET;0BLACK LEFT POINTING INDEX;1RIGHT POINTING INDEX",
  "261c WHITE LEFT POINTING INDEX;1UP POINTING INDEX;1RIGHT POINTING INDEX;1DOWN POINTING INDEX",
  "2620 SKULL AND CROSSBONES;0CAUTION SIGN;0RADIOACTIVE SIGN;0BIOHAZARD SIGN;0CADUCEUS;0ANKH",
  "2626 ORTHODOX CROSS;0CHI RHO;0CROSS OF LORRAINE;2JERUSALEM;0STAR AND CRESCENT;0FARSI SYMBOL",
  "262c ADI SHAKTI;0HAMMER AND SICKLE;0PEACE SYMBOL;0YIN YANG;0TRIGRAM FOR HEAVEN;2LAKE;2FIRE",
  "2633 TRIGRAM FOR THUNDER;2WIND;2WATER;2MOUNTAIN;2EARTH;0WHEEL OF DHARMA;0WHITE FROWNING FACE",
  "263a WHITE SMILING FACE;0BLACK SMILING FACE;0WHITE SUN WITH RAYS;0FIRST QUARTER MOON",
  "263e LAST QUARTER MOON;0MERCURY;0FEMALE SIGN;0EARTH;0MALE SIGN;0JUPITER;0SATURN;0URANUS",
  "2646 NEPTUNE;0PLUTO;0ARIES;0TAURUS;0GEMINI;0CANCER;0LEO;0VIRGO;0LIBRA;0SCORPIUS;0SAGITTARIUS",
  "2651 CAPRICORN;0AQUARIUS;0PISCES;0WHITE CHESS KING;2QUEEN;2ROOK;2BISHOP;2KNIGHT;2PAWN",
  "265a BLACK CHESS KING;2QUEEN;2ROOK;2BISHOP;2KNIGHT;2PAWN;1SPADE SUIT;0WHITE HEART SUIT",
  "2662 WHITE DIAMOND SUIT;0BLACK CLUB SUIT;0WHITE SPADE SUIT;0BLACK HEART SUIT;1DIAMOND SUIT",
  "2667 WHITE CLUB SUIT;0HOT SPRINGS;0QUARTER NOTE;0EIGHTH NOTE;0BEAMED EIGHTH NOTES",
  "266c BEAMED SIXTEENTH NOTES;0MUSIC FLAT SIGN;1NATURAL SIGN;1SHARP SIGN;0WEST SYRIAC CROSS",
  "2671 EAST SYRIAC CROSS;0UNIVERSAL RECYCLING SYMBOL;0RECYCLING SYMBOL FOR TYPE-1 PLASTICS",
  "2674 RECYCLING SYMBOL FOR TYPE-2 PLASTICS;3TYPE-3 PLASTICS;3TYPE-4 PLASTICS;3TYPE-5 PLASTICS",
  "2678 RECYCLING SYMBOL FOR TYPE-6 PLASTICS;3TYPE-7 PLASTICS;3GENERIC MATERIALS",
  "267b BLACK UNIVERSAL RECYCLING SYMBOL;0RECYCLED PAPER SYMBOL;0PARTIALLY-RECYCLED PAPER SYMBOL",
  "267e PERMANENT PAPER SIGN;0WHEELCHAIR SYMBOL;0DIE FACE-1;1FACE-2;1FACE-3;1FACE-4;1FACE-5",
  "2685 DIE FACE-6;0WHITE CIRCLE WITH DOT RIGHT;3TWO DOTS;0BLACK CIRCLE WITH WHITE DOT RIGHT",
  "2689 BLACK CIRCLE WITH TWO WHITE DOTS;0MONOGRAM FOR YANG;2YIN;0DIGRAM FOR GREATER YANG",
  "268d DIGRAM FOR LESSER YIN;3YANG;2GREATER YIN;0WHITE FLAG;0BLACK FLAG;0HAMMER AND PICK;0ANCHOR",
  "2694 CROSSED SWORDS;0STAFF OF AESCULAPIUS;0SCALES;0ALEMBIC;0FLOWER;0GEAR;0STAFF OF HERMES",
  "269b ATOM SYMBOL;0FLEUR-DE-LIS;0OUTLINED WHITE STAR;0THREE LINES CONVERGING RIGHT;3LEFT",
  "26a0 WARNING SIGN;0HIGH VOLTAGE SIGN;0DOUBLED FEMALE SIGN;1MALE SIGN",
  "26a4 INTERLOCKED FEMALE AND MALE SIGN;0MALE AND FEMALE SIGN;1WITH STROKE SIGN",
  "26a7 MALE WITH STROKE AND MALE AND FEMALE SIGN;0VERTICAL MALE WITH STROKE SIGN",
  "26a9 HORIZONTAL MALE WITH STROKE SIGN;0MEDIUM WHITE CIRCLE;1BLACK CIRCLE;1SMALL WHITE CIRCLE",
  "26ad MARRIAGE SYMBOL;0DIVORCE SYMBOL;0UNMARRIED PARTNERSHIP SYMBOL;0COFFIN;0FUNERAL URN;0NEUTER",
  "26b3 CERES;0PALLAS;0JUNO;0VESTA;0CHIRON;0BLACK MOON LILITH;0SEXTILE;0SEMISEXTILE;0QUINCUNX",
  "26bc SESQUIQUADRATE;0SOCCER BALL;0BASEBALL;0SQUARED KEY;0WHITE DRAUGHTS MAN;2KING",
  "26c2 BLACK DRAUGHTS MAN;2KING;0SNOWMAN WITHOUT SNOW;0SUN BEHIND CLOUD;0RAIN;0BLACK SNOWMAN",
  "26c8 THUNDER CLOUD AND RAIN;0TURNED WHITE SHOGI PIECE;1BLACK SHOGI PIECE",
  "26cb WHITE DIAMOND IN SQUARE;0CROSSING LANES;0DISABLED CAR;0OPHIUCHUS;0PICK;0CAR SLIDING",
  "26d1 HELMET WITH WHITE CROSS;0CIRCLED CROSSING LANES;0CHAINS;0NO ENTRY",
  "26d5 ALTERNATE ONE-WAY LEFT WAY TRAFFIC;0BLACK TWO-WAY LEFT WAY TRAFFIC",
  "26d7 WHITE TWO-WAY LEFT WAY TRAFFIC;0BLACK LEFT LANE MERGE;0WHITE LEFT LANE MERGE",
  "26da DRIVE SLOW SIGN;0HEAVY WHITE DOWN-POINTING TRIANGLE;0LEFT CLOSED ENTRY;0SQUARED SALTIRE",
  "26de FALLING DIAGONAL IN WHITE CIRCLE IN BLACK SQUARE;0BLACK TRUCK;0RESTRICTED LEFT ENTRY-1",
  "26e1 RESTRICTED LEFT ENTRY-2;0ASTRONOMICAL SYMBOL FOR URANUS",
  "26e3 HEAVY CIRCLE WITH STROKE AND TWO DOTS ABOVE;0PENTAGRAM;0RIGHT-HANDED INTERLACED PENTAGRAM",
  "26e6 LEFT-HANDED INTERLACED PENTAGRAM;0INVERTED PENTAGRAM;0BLACK CROSS ON SHIELD;0SHINTO SHRINE",
  "26ea CHURCH;0CASTLE;0HISTORIC SITE;0GEAR WITHOUT HUB;1WITH HANDLES;0MAP SYMBOL FOR LIGHTHOUSE",
  "26f0 MOUNTAIN;0UMBRELLA ON GROUND;0FOUNTAIN;0FLAG IN HOLE;0FERRY;0SAILBOAT;0SQUARE FOUR CORNERS",
  "26f7 SKIER;0ICE SKATE;0PERSON WITH BALL;0TENT;0JAPANESE BANK SYMBOL;0HEADSTONE GRAVEYARD SYMBOL",
  "26fd FUEL PUMP;0CUP ON BLACK SQUARE;0WHITE FLAG WITH HORIZONTAL MIDDLE BLACK STRIPE",
  "2700 BLACK SAFETY SCISSORS;0UPPER BLADE SCISSORS;0BLACK SCISSORS;0LOWER BLADE SCISSORS",
  "2704 WHITE SCISSORS;1HEAVY CHECK MARK;0TELEPHONE LOCATION SIGN;0TAPE DRIVE;0AIRPLANE;0ENVELOPE",
  "270a RAISED FIST;1HAND;0VICTORY HAND;0WRITING HAND;0LOWER RIGHT PENCIL;0PENCIL",
  "2710 UPPER RIGHT PENCIL;0WHITE NIB;0BLACK NIB;0CHECK MARK;0HEAVY CHECK MARK;0MULTIPLICATION X",
  "2716 HEAVY MULTIPLICATION X;0BALLOT X;0HEAVY BALLOT X;0OUTLINED GREEK CROSS;0HEAVY GREEK CROSS",
  "271b OPEN CENTRE CROSS;0HEAVY OPEN CENTRE CROSS;0LATIN CROSS;0SHADOWED WHITE LATIN CROSS",
  "271f OUTLINED LATIN CROSS;0MALTESE CROSS;0STAR OF DAVID;0FOUR TEARDROP-SPOKED ASTERISK",
  "2723 FOUR BALLOON-SPOKED ASTERISK;0HEAVY FOUR BALLOON-SPOKED ASTERISK",
  "2725 FOUR CLUB-SPOKED ASTERISK;0BLACK FOUR POINTED STAR;0WHITE FOUR POINTED STAR;0SPARKLES",
  "2729 STRESS OUTLINED WHITE STAR;0CIRCLED WHITE STAR;0OPEN CENTRE BLACK STAR",
  "272c BLACK CENTRE WHITE STAR;0OUTLINED BLACK STAR;0HEAVY OUTLINED BLACK STAR;0PINWHEEL STAR",
  "2730 SHADOWED WHITE STAR;0HEAVY ASTERISK;0OPEN CENTRE ASTERISK;0EIGHT SPOKED ASTERISK",
  "2734 EIGHT POINTED BLACK STAR;2PINWHEEL STAR;0SIX POINTED BLACK STAR",
  "2737 EIGHT POINTED RECTILINEAR BLACK STAR;0HEAVY EIGHT POINTED RECTILINEAR BLACK STAR",
  "2739 TWELVE POINTED BLACK STAR;0SIXTEEN POINTED ASTERISK;0TEARDROP-SPOKED ASTERISK",
  "273c OPEN CENTRE TEARDROP-SPOKED ASTERISK;0HEAVY TEARDROP-SPOKED ASTERISK",
  "273e SIX PETALLED BLACK AND WHITE FLORETTE;0BLACK FLORETTE;0WHITE FLORETTE",
  "2741 EIGHT PETALLED OUTLINED BLACK FLORETTE;0CIRCLED OPEN CENTRE EIGHT POINTED STAR",
  "2743 HEAVY TEARDROP-SPOKED PINWHEEL ASTERISK;0SNOWFLAKE;0TIGHT TRIFOLIATE SNOWFLAKE",
  "2746 HEAVY CHEVRON SNOWFLAKE;0SPARKLE;0HEAVY SPARKLE;0BALLOON-SPOKED ASTERISK",
  "274a EIGHT TEARDROP-SPOKED PROPELLER ASTERISK;0HEAVY EIGHT TEARDROP-SPOKED PROPELLER ASTERISK",
  "274c CROSS MARK;0SHADOWED WHITE CIRCLE;0NEGATIVE SQUARED CROSS MARK",
  "274f LOWER RIGHT DROP-SHADOWED WHITE SQUARE;0UPPER RIGHT DROP-SHADOWED WHITE SQUARE",
  "2751 LOWER RIGHT SHADOWED WHITE SQUARE;0UPPER RIGHT SHADOWED WHITE SQUARE",
  "2753 BLACK QUESTION MARK ORNAMENT;0WHITE QUESTION MARK ORNAMENT;1EXCLAMATION MARK ORNAMENT",
  "2756 BLACK DIAMOND MINUS WHITE X;0HEAVY EXCLAMATION MARK SYMBOL;0LIGHT VERTICAL BAR",
  "2759 MEDIUM VERTICAL BAR;0HEAVY VERTICAL BAR;1SINGLE TURNED COMMA QUOTATION MARK ORNAMENT",
  "275c HEAVY SINGLE COMMA QUOTATION MARK ORNAMENT;1DOUBLE TURNED COMMA QUOTATION MARK ORNAMENT",
  "275e HEAVY DOUBLE COMMA QUOTATION MARK ORNAMENT;1LOW SINGLE COMMA QUOTATION MARK ORNAMENT",
  "2760 HEAVY LOW DOUBLE COMMA QUOTATION MARK ORNAMENT;0CURVED STEM PARAGRAPH SIGN ORNAMENT",
  "2762 HEAVY EXCLAMATION MARK ORNAMENT;1HEART EXCLAMATION MARK ORNAMENT;1BLACK HEART",
  "2765 ROTATED HEAVY BLACK HEART BULLET;0FLORAL HEART;0ROTATED FLORAL HEART BULLET",
  "2768 MEDIUM LEFT PARENTHESIS ORNAMENT;1RIGHT PARENTHESIS ORNAMENT",
  "276a MEDIUM FLATTENED LEFT PARENTHESIS ORNAMENT;2RIGHT PARENTHESIS ORNAMENT",
  "276c MEDIUM LEFT-POINTING ANGLE BRACKET ORNAMENT;1RIGHT-POINTING ANGLE BRACKET ORNAMENT",
  "276e HEAVY LEFT-POINTING ANGLE QUOTATION MARK ORNAMENT",
  "276f HEAVY RIGHT-POINTING ANGLE QUOTATION MARK ORNAMENT;1LEFT-POINTING ANGLE BRACKET ORNAMENT",
  "2771 HEAVY RIGHT-POINTING ANGLE BRACKET ORNAMENT;0LIGHT LEFT TORTOISE SHELL BRACKET ORNAMENT",
  "2773 LIGHT RIGHT TORTOISE SHELL BRACKET ORNAMENT;0MEDIUM LEFT CURLY BRACKET ORNAMENT",
  "2775 MEDIUM RIGHT CURLY BRACKET ORNAMENT;0DINGBAT NEGATIVE CIRCLED DIGIT ONE;4TWO;4THREE;4FOUR",
  "277a DINGBAT NEGATIVE CIRCLED DIGIT FIVE;4SIX;4SEVEN;4EIGHT;4NINE;3NUMBER TEN",
  "2780 DINGBAT CIRCLED SANS-SERIF DIGIT ONE;4TWO;4THREE;4FOUR;4FIVE;4SIX;4SEVEN;4EIGHT;4NINE",
  "2789 DINGBAT CIRCLED SANS-SERIF NUMBER TEN;1NEGATIVE CIRCLED SANS-SERIF DIGIT ONE;5TWO;5THREE",
  "278d DINGBAT NEGATIVE CIRCLED SANS-SERIF DIGIT FOUR;5FIVE;5SIX;5SEVEN;5EIGHT;5NINE;4NUMBER TEN",
  "2794 HEAVY WIDE-HEADED RIGHTWARDS ARROW;1PLUS SIGN;1MINUS SIGN;1DIVISION SIGN;1SOUTH EAST ARROW",
  "2799 HEAVY RIGHTWARDS ARROW;1NORTH EAST ARROW;0DRAFTING POINT RIGHTWARDS ARROW",
  "279c HEAVY ROUND-TIPPED RIGHTWARDS ARROW;0TRIANGLE-HEADED RIGHTWARDS ARROW",
  "279e HEAVY TRIANGLE-HEADED RIGHTWARDS ARROW;0DASHED TRIANGLE-HEADED RIGHTWARDS ARROW",
  "27a0 HEAVY DASHED TRIANGLE-HEADED RIGHTWARDS ARROW;0BLACK RIGHTWARDS ARROW",
  "27a2 THREE-D TOP-LIGHTED RIGHTWARDS ARROWHEAD;1BOTTOM-LIGHTED RIGHTWARDS ARROWHEAD",
  "27a4 BLACK RIGHTWARDS ARROWHEAD;0HEAVY BLACK CURVED DOWNWARDS AND RIGHTWARDS ARROW",
  "27a6 HEAVY BLACK CURVED UPWARDS AND RIGHTWARDS ARROW;0SQUAT BLACK RIGHTWARDS ARROW",
  "27a8 HEAVY CONCAVE-POINTED BLACK RIGHTWARDS ARROW;0RIGHT-SHADED WHITE RIGHTWARDS ARROW",
  "27aa LEFT-SHADED WHITE RIGHTWARDS ARROW;0BACK-TILTED SHADOWED WHITE RIGHTWARDS ARROW",
  "27ac FRONT-TILTED SHADOWED WHITE RIGHTWARDS ARROW",
  "27ad HEAVY LOWER RIGHT-SHADOWED WHITE RIGHTWARDS ARROW",
  "27ae HEAVY UPPER RIGHT-SHADOWED WHITE RIGHTWARDS ARROW",
  "27af NOTCHED LOWER RIGHT-SHADOWED WHITE RIGHTWARDS ARROW;0CURLY LOOP",
  "27b1 NOTCHED UPPER RIGHT-SHADOWED WHITE RIGHTWARDS ARROW;0CIRCLED HEAVY WHITE RIGHTWARDS ARROW",
  "27b3 WHITE-FEATHERED RIGHTWARDS ARROW;0BLACK-FEATHERED SOUTH EAST ARROW;1RIGHTWARDS ARROW",
  "27b6 BLACK-FEATHERED NORTH EAST ARROW;0HEAVY BLACK-FEATHERED SOUTH EAST ARROW;2RIGHTWARDS ARROW",
  "27b9 HEAVY BLACK-FEATHERED NORTH EAST ARROW;0TEARDROP-BARBED RIGHTWARDS ARROW",
  "27bb HEAVY TEARDROP-SHANKED RIGHTWARDS ARROW;0WEDGE-TAILED RIGHTWARDS ARROW",
  "27bd HEAVY WEDGE-TAILED RIGHTWARDS ARROW;0OPEN-OUTLINED RIGHTWARDS ARROW;0DOUBLE CURLY LOOP",
  "27c0 THREE DIMENSIONAL ANGLE;0WHITE TRIANGLE CONTAINING SMALL WHITE TRIANGLE;0PERPENDICULAR",
  "27c3 OPEN SUBSET;1SUPERSET;0LEFT S-SHAPED BAG DELIMITER;0RIGHT S-SHAPED BAG DELIMITER",
  "27c7 OR WITH DOT INSIDE;0REVERSE SOLIDUS PRECEDING SUBSET;0SUPERSET PRECEDING SOLIDUS",
  "27ca VERTICAL BAR WITH HORIZONTAL STROKE;0MATHEMATICAL RISING DIAGONAL;0LONG DIVISION",
  "27cd MATHEMATICAL FALLING DIAGONAL;0SQUARED LOGICAL AND;2OR;0WHITE DIAMOND WITH CENTRED DOT",
  "27d1 AND WITH DOT;0ELEMENT OF OPENING UPWARDS;0LOWER RIGHT CORNER WITH DOT",
  "27d4 UPPER LEFT CORNER WITH DOT;0LEFT OUTER JOIN;0RIGHT OUTER JOIN;0FULL OUTER JOIN",
  "27d8 LARGE UP TACK;1DOWN TACK;0LEFT AND RIGHT DOUBLE TURNSTILE;3TACK;1MULTIMAP;0LONG RIGHT TACK",
  "27de LONG LEFT TACK;0UP TACK WITH CIRCLE ABOVE;0LOZENGE DIVIDED BY HORIZONTAL RULE",
  "27e1 WHITE CONCAVE-SIDED DIAMOND;3WITH LEFTWARDS TICK;4RIGHTWARDS TICK",
  "27e4 WHITE SQUARE WITH LEFTWARDS TICK;3RIGHTWARDS TICK;0MATHEMATICAL LEFT WHITE SQUARE BRACKET",
  "27e7 MATHEMATICAL RIGHT WHITE SQUARE BRACKET;1LEFT ANGLE BRACKET;1RIGHT ANGLE BRACKET",
  "27ea MATHEMATICAL LEFT DOUBLE ANGLE BRACKET;1RIGHT DOUBLE ANGLE BRACKET",
  "27ec MATHEMATICAL LEFT WHITE TORTOISE SHELL BRACKET;1RIGHT WHITE TORTOISE SHELL BRACKET",
  "27ee MATHEMATICAL LEFT FLATTENED PARENTHESIS;1RIGHT FLATTENED PARENTHESIS",
  "27f0 UPWARDS QUADRUPLE ARROW;0DOWNWARDS QUADRUPLE ARROW;0ANTICLOCKWISE GAPPED CIRCLE ARROW",
  "27f3 CLOCKWISE GAPPED CIRCLE ARROW;0RIGHT ARROW WITH CIRCLED PLUS;0LONG LEFTWARDS ARROW",
  "27f6 LONG RIGHTWARDS ARROW;1LEFT RIGHT ARROW;1LEFTWARDS DOUBLE ARROW;1RIGHTWARDS DOUBLE ARROW",
  "27fa LONG LEFT RIGHT DOUBLE ARROW;1LEFTWARDS ARROW FROM BAR;1RIGHTWARDS ARROW FROM BAR",
  "27fd LONG LEFTWARDS DOUBLE ARROW FROM BAR;1RIGHTWARDS DOUBLE ARROW FROM BAR;2SQUIGGLE ARROW",
  "2800 BRAILLE PATTERN BLANK;2DOTS-1;2DOTS-2;2DOTS-12;2DOTS-3;2DOTS-13;2DOTS-23;2DOTS-123;2DOTS-4",
  "2809 BRAILLE PATTERN DOTS-14;2DOTS-24;2DOTS-124;2DOTS-34;2DOTS-134;2DOTS-234;2DOTS-1234;2DOTS-5",
  "2811 BRAILLE PATTERN DOTS-15;2DOTS-25;2DOTS-125;2DOTS-35;2DOTS-135;2DOTS-235;2DOTS-1235",
  "2818 BRAILLE PATTERN DOTS-45;2DOTS-145;2DOTS-245;2DOTS-1245;2DOTS-345;2DOTS-1345;2DOTS-2345",
  "281f BRAILLE PATTERN DOTS-12345;2DOTS-6;2DOTS-16;2DOTS-26;2DOTS-126;2DOTS-36;2DOTS-136",
  "2826 BRAILLE PATTERN DOTS-236;2DOTS-1236;2DOTS-46;2DOTS-146;2DOTS-246;2DOTS-1246;2DOTS-346",
  "282d BRAILLE PATTERN DOTS-1346;2DOTS-2346;2DOTS-12346;2DOTS-56;2DOTS-156;2DOTS-256;2DOTS-1256",
  "2834 BRAILLE PATTERN DOTS-356;2DOTS-1356;2DOTS-2356;2DOTS-12356;2DOTS-456;2DOTS-1456;2DOTS-2456",
  "283b BRAILLE PATTERN DOTS-12456;2DOTS-3456;2DOTS-13456;2DOTS-23456;2DOTS-123456;2DOTS-7",
  "2841 BRAILLE PATTERN DOTS-17;2DOTS-27;2DOTS-127;2DOTS-37;2DOTS-137;2DOTS-237;2DOTS-1237",
  "2848 BRAILLE PATTERN DOTS-47;2DOTS-147;2DOTS-247;2DOTS-1247;2DOTS-347;2DOTS-1347;2DOTS-2347",
  "284f BRAILLE PATTERN DOTS-12347;2DOTS-57;2DOTS-157;2DOTS-257;2DOTS-1257;2DOTS-357;2DOTS-1357",
  "2856 BRAILLE PATTERN DOTS-2357;2DOTS-12357;2DOTS-457;2DOTS-1457;2DOTS-2457;2DOTS-12457",
  "285c BRAILLE PATTERN DOTS-3457;2DOTS-13457;2DOTS-23457;2DOTS-123457;2DOTS-67;2DOTS-167",
  "2862 BRAILLE PATTERN DOTS-267;2DOTS-1267;2DOTS-367;2DOTS-1367;2DOTS-2367;2DOTS-12367;2DOTS-467",
  "2869 BRAILLE PATTERN DOTS-1467;2DOTS-2467;2DOTS-12467;2DOTS-3467;2DOTS-13467;2DOTS-23467",
  "286f BRAILLE PATTERN DOTS-123467;2DOTS-567;2DOTS-1567;2DOTS-2567;2DOTS-12567;2DOTS-3567",
  "2875 BRAILLE PATTERN DOTS-13567;2DOTS-23567;2DOTS-123567;2DOTS-4567;2DOTS-14567;2DOTS-24567",
  "287b BRAILLE PATTERN DOTS-124567;2DOTS-34567;2DOTS-134567;2DOTS-234567;2DOTS-1234567;2DOTS-8",
  "2881 BRAILLE PATTERN DOTS-18;2DOTS-28;2DOTS-128;2DOTS-38;2DOTS-138;2DOTS-238;2DOTS-1238",
  "2888 BRAILLE PATTERN DOTS-48;2DOTS-148;2DOTS-248;2DOTS-1248;2DOTS-348;2DOTS-1348;2DOTS-2348",
  "288f BRAILLE PATTERN DOTS-12348;2DOTS-58;2DOTS-158;2DOTS-258;2DOTS-1258;2DOTS-358;2DOTS-1358",
  "2896 BRAILLE PATTERN DOTS-2358;2DOTS-12358;2DOTS-458;2DOTS-1458;2DOTS-2458;2DOTS-12458",
  "289c BRAILLE PATTERN DOTS-3458;2DOTS-13458;2DOTS-23458;2DOTS-123458;2DOTS-68;2DOTS-168",
  "28a2 BRAILLE PATTERN DOTS-268;2DOTS-1268;2DOTS-368;2DOTS-1368;2DOTS-2368;2DOTS-12368;2DOTS-468",
  "28a9 BRAILLE PATTERN DOTS-1468;2DOTS-2468;2DOTS-12468;2DOTS-3468;2DOTS-13468;2DOTS-23468",
  "28af BRAILLE PATTERN DOTS-123468;2DOTS-568;2DOTS-1568;2DOTS-2568;2DOTS-12568;2DOTS-3568",
  "28b5 BRAILLE PATTERN DOTS-13568;2DOTS-23568;2DOTS-123568;2DOTS-4568;2DOTS-14568;2DOTS-24568",
  "28bb BRAILLE PATTERN DOTS-124568;2DOTS-34568;2DOTS-134568;2DOTS-234568;2DOTS-1234568;2DOTS-78",
  "28c1 BRAILLE PATTERN DOTS-178;2DOTS-278;2DOTS-1278;2DOTS-378;2DOTS-1378;2DOTS-2378;2DOTS-12378",
  "28c8 BRAILLE PATTERN DOTS-478;2DOTS-1478;2DOTS-2478;2DOTS-12478;2DOTS-3478;2DOTS-13478",
  "28ce BRAILLE PATTERN DOTS-23478;2DOTS-123478;2DOTS-578;2DOTS-1578;2DOTS-2578;2DOTS-12578",
  "28d4 BRAILLE PATTERN DOTS-3578;2DOTS-13578;2DOTS-23578;2DOTS-123578;2DOTS-4578;2DOTS-14578",
  "28da BRAILLE PATTERN DOTS-24578;2DOTS-124578;2DOTS-34578;2DOTS-134578;2DOTS-234578",
  "28df BRAILLE PATTERN DOTS-1234578;2DOTS-678;2DOTS-1678;2DOTS-2678;2DOTS-12678;2DOTS-3678",
  "28e5 BRAILLE PATTERN DOTS-13678;2DOTS-23678;2DOTS-123678;2DOTS-4678;2DOTS-14678;2DOTS-24678",
  "28eb BRAILLE PATTERN DOTS-124678;2DOTS-34678;2DOTS-134678;2DOTS-234678;2DOTS-1234678;2DOTS-5678",
  "28f1 BRAILLE PATTERN DOTS-15678;2DOTS-25678;2DOTS-125678;2DOTS-35678;2DOTS-135678;2DOTS-235678",
  "28f7 BRAILLE PATTERN DOTS-1235678;2DOTS-45678;2DOTS-145678;2DOTS-245678;2DOTS-1245678",
  "28fc BRAILLE PATTERN DOTS-345678;2DOTS-1345678;2DOTS-2345678;2DOTS-12345678",
  "2900 RIGHTWARDS TWO-HEADED ARROW WITH VERTICAL STROKE;4DOUBLE VERTICAL STROKE",
  "2902 LEFTWARDS DOUBLE ARROW WITH VERTICAL STROKE;0RIGHTWARDS DOUBLE ARROW WITH VERTICAL STROKE",
  "2904 LEFT RIGHT DOUBLE ARROW WITH VERTICAL STROKE;0RIGHTWARDS TWO-HEADED ARROW FROM BAR",
  "2906 LEFTWARDS DOUBLE ARROW FROM BAR;0RIGHTWARDS DOUBLE ARROW FROM BAR",
  "2908 DOWNWARDS ARROW WITH HORIZONTAL STROKE;0UPWARDS ARROW WITH HORIZONTAL STROKE;1TRIPLE ARROW",
  "290b DOWNWARDS TRIPLE ARROW;0LEFTWARDS DOUBLE DASH ARROW;0RIGHTWARDS DOUBLE DASH ARROW",
  "290e LEFTWARDS TRIPLE DASH ARROW;0RIGHTWARDS TRIPLE DASH ARROW;1TWO-HEADED TRIPLE DASH ARROW",
  "2911 RIGHTWARDS ARROW WITH DOTTED STEM;0UPWARDS ARROW TO BAR;0DOWNWARDS ARROW TO BAR",
  "2914 RIGHTWARDS ARROW WITH TAIL WITH VERTICAL STROKE;5DOUBLE VERTICAL STROKE",
  "2916 RIGHTWARDS TWO-HEADED ARROW WITH TAIL;5WITH VERTICAL STROKE;6DOUBLE VERTICAL STROKE",
  "2919 LEFTWARDS ARROW-TAIL;0RIGHTWARDS ARROW-TAIL;0LEFTWARDS DOUBLE ARROW-TAIL",
  "291c RIGHTWARDS DOUBLE ARROW-TAIL;0LEFTWARDS ARROW TO BLACK DIAMOND",
  "291e RIGHTWARDS ARROW TO BLACK DIAMOND;0LEFTWARDS ARROW FROM BAR TO BLACK DIAMOND",
  "2920 RIGHTWARDS ARROW FROM BAR TO BLACK DIAMOND;0NORTH WEST AND SOUTH EAST ARROW",
  "2922 NORTH EAST AND SOUTH WEST ARROW;1WEST ARROW WITH HOOK;1EAST ARROW WITH HOOK",
  "2925 SOUTH EAST ARROW WITH HOOK;1WEST ARROW WITH HOOK;0NORTH WEST ARROW AND NORTH EAST ARROW",
  "2928 NORTH EAST ARROW AND SOUTH EAST ARROW;0SOUTH EAST ARROW AND SOUTH WEST ARROW",
  "292a SOUTH WEST ARROW AND NORTH WEST ARROW;0RISING DIAGONAL CROSSING FALLING DIAGONAL",
  "292c FALLING DIAGONAL CROSSING RISING DIAGONAL;0SOUTH EAST ARROW CROSSING NORTH EAST ARROW",
  "292e NORTH EAST ARROW CROSSING SOUTH EAST ARROW;0FALLING DIAGONAL CROSSING NORTH EAST ARROW",
  "2930 RISING DIAGONAL CROSSING SOUTH EAST ARROW;0NORTH EAST ARROW CROSSING NORTH WEST ARROW",
  "2932 NORTH WEST ARROW CROSSING NORTH EAST ARROW;0WAVE ARROW POINTING DIRECTLY RIGHT",
  "2934 ARROW POINTING RIGHTWARDS THEN CURVING UPWARDS;5DOWNWARDS",
  "2936 ARROW POINTING DOWNWARDS THEN CURVING LEFTWARDS;5RIGHTWARDS",
  "2938 RIGHT-SIDE ARC CLOCKWISE ARROW;0LEFT-SIDE ARC ANTICLOCKWISE ARROW",
  "293a TOP ARC ANTICLOCKWISE ARROW;0BOTTOM ARC ANTICLOCKWISE ARROW",
  "293c TOP ARC CLOCKWISE ARROW WITH MINUS;2ANTICLOCKWISE ARROW WITH PLUS",
  "293e LOWER RIGHT SEMICIRCULAR CLOCKWISE ARROW;1LEFT SEMICIRCULAR ANTICLOCKWISE ARROW",
  "2940 ANTICLOCKWISE CLOSED CIRCLE ARROW;0CLOCKWISE CLOSED CIRCLE ARROW",
  "2942 RIGHTWARDS ARROW ABOVE SHORT LEFTWARDS ARROW;0LEFTWARDS ARROW ABOVE SHORT RIGHTWARDS ARROW",
  "2944 SHORT RIGHTWARDS ARROW ABOVE LEFTWARDS ARROW;0RIGHTWARDS ARROW WITH PLUS BELOW",
  "2946 LEFTWARDS ARROW WITH PLUS BELOW;0RIGHTWARDS ARROW THROUGH X",
  "2948 LEFT RIGHT ARROW THROUGH SMALL CIRCLE;0UPWARDS TWO-HEADED ARROW FROM SMALL CIRCLE",
  "294a LEFT BARB UP RIGHT BARB DOWN HARPOON;2DOWN RIGHT BARB UP HARPOON",
  "294c UP BARB RIGHT DOWN BARB LEFT HARPOON;2LEFT DOWN BARB RIGHT HARPOON",
  "294e LEFT BARB UP RIGHT BARB UP HARPOON;0UP BARB RIGHT DOWN BARB RIGHT HARPOON",
  "2950 LEFT BARB DOWN RIGHT BARB DOWN HARPOON;0UP BARB LEFT DOWN BARB LEFT HARPOON",
  "2952 LEFTWARDS HARPOON WITH BARB UP TO BAR;0RIGHTWARDS HARPOON WITH BARB UP TO BAR",
  "2954 UPWARDS HARPOON WITH BARB RIGHT TO BAR;0DOWNWARDS HARPOON WITH BARB RIGHT TO BAR",
  "2956 LEFTWARDS HARPOON WITH BARB DOWN TO BAR;0RIGHTWARDS HARPOON WITH BARB DOWN TO BAR",
  "2958 UPWARDS HARPOON WITH BARB LEFT TO BAR;0DOWNWARDS HARPOON WITH BARB LEFT TO BAR",
  "295a LEFTWARDS HARPOON WITH BARB UP FROM BAR;0RIGHTWARDS HARPOON WITH BARB UP FROM BAR",
  "295c UPWARDS HARPOON WITH BARB RIGHT FROM BAR;0DOWNWARDS HARPOON WITH BARB RIGHT FROM BAR",
  "295e LEFTWARDS HARPOON WITH BARB DOWN FROM BAR;0RIGHTWARDS HARPOON WITH BARB DOWN FROM BAR",
  "2960 UPWARDS HARPOON WITH BARB LEFT FROM BAR;0DOWNWARDS HARPOON WITH BARB LEFT FROM BAR",
  "2962 LEFTWARDS HARPOON WITH BARB UP ABOVE LEFTWARDS HARPOON WITH BARB DOWN",
  "2963 UPWARDS HARPOON WITH BARB LEFT BESIDE UPWARDS HARPOON WITH BARB RIGHT",
  "2964 RIGHTWARDS HARPOON WITH BARB UP ABOVE RIGHTWARDS HARPOON WITH BARB DOWN",
  "2965 DOWNWARDS HARPOON WITH BARB LEFT BESIDE DOWNWARDS HARPOON WITH BARB RIGHT",
  "2966 LEFTWARDS HARPOON WITH BARB UP ABOVE RIGHTWARDS HARPOON WITH BARB UP",
  "2967 LEFTWARDS HARPOON WITH BARB DOWN ABOVE RIGHTWARDS HARPOON WITH BARB DOWN",
  "2968 RIGHTWARDS HARPOON WITH BARB UP ABOVE LEFTWARDS HARPOON WITH BARB UP",
  "2969 RIGHTWARDS HARPOON WITH BARB DOWN ABOVE LEFTWARDS HARPOON WITH BARB DOWN",
  "296a LEFTWARDS HARPOON WITH BARB UP ABOVE LONG DASH;4DOWN BELOW LONG DASH",
  "296c RIGHTWARDS HARPOON WITH BARB UP ABOVE LONG DASH;4DOWN BELOW LONG DASH",
  "296e UPWARDS HARPOON WITH BARB LEFT BESIDE DOWNWARDS HARPOON WITH BARB RIGHT",
  "296f DOWNWARDS HARPOON WITH BARB LEFT BESIDE UPWARDS HARPOON WITH BARB RIGHT",
  "2970 RIGHT DOUBLE ARROW WITH ROUNDED HEAD;0EQUALS SIGN ABOVE RIGHTWARDS ARROW",
  "2972 TILDE OPERATOR ABOVE RIGHTWARDS ARROW;0LEFTWARDS ARROW ABOVE TILDE OPERATOR",
  "2974 RIGHTWARDS ARROW ABOVE TILDE OPERATOR;3ALMOST EQUAL TO;0LESS-THAN ABOVE LEFTWARDS ARROW",
  "2977 LEFTWARDS ARROW THROUGH LESS-THAN;0GREATER-THAN ABOVE RIGHTWARDS ARROW",
  "2979 SUBSET ABOVE RIGHTWARDS ARROW;0LEFTWARDS ARROW THROUGH SUBSET",
  "297b SUPERSET ABOVE LEFTWARDS ARROW;0LEFT FISH TAIL;0RIGHT FISH TAIL;0UP FISH TAIL",
  "297f DOWN FISH TAIL;0TRIPLE VERTICAL BAR DELIMITER;0Z NOTATION SPOT;2TYPE COLON",
  "2983 LEFT WHITE CURLY BRACKET;0RIGHT WHITE CURLY BRACKET;0LEFT WHITE PARENTHESIS",
  "2986 RIGHT WHITE PARENTHESIS;0Z NOTATION LEFT IMAGE BRACKET;2RIGHT IMAGE BRACKET",
  "2989 Z NOTATION LEFT BINDING BRACKET;2RIGHT BINDING BRACKET;0LEFT SQUARE BRACKET WITH UNDERBAR",
  "298c RIGHT SQUARE BRACKET WITH UNDERBAR;0LEFT SQUARE BRACKET WITH TICK IN TOP CORNER",
  "298e RIGHT SQUARE BRACKET WITH TICK IN BOTTOM CORNER",
  "298f LEFT SQUARE BRACKET WITH TICK IN BOTTOM CORNER",
  "2990 RIGHT SQUARE BRACKET WITH TICK IN TOP CORNER;0LEFT ANGLE BRACKET WITH DOT",
  "2992 RIGHT ANGLE BRACKET WITH DOT;0LEFT ARC LESS-THAN BRACKET;0RIGHT ARC GREATER-THAN BRACKET",
  "2995 DOUBLE LEFT ARC GREATER-THAN BRACKET;1RIGHT ARC LESS-THAN BRACKET",
  "2997 LEFT BLACK TORTOISE SHELL BRACKET;0RIGHT BLACK TORTOISE SHELL BRACKET;0DOTTED FENCE",
  "299a VERTICAL ZIGZAG LINE;0MEASURED ANGLE OPENING LEFT;0RIGHT ANGLE VARIANT WITH SQUARE",
  "299d MEASURED RIGHT ANGLE WITH DOT;0ANGLE WITH S INSIDE;0ACUTE ANGLE",
  "29a0 SPHERICAL ANGLE OPENING LEFT;3UP;0TURNED ANGLE;0REVERSED ANGLE;0ANGLE WITH UNDERBAR",
  "29a5 REVERSED ANGLE WITH UNDERBAR;0OBLIQUE ANGLE OPENING UP;3DOWN",
  "29a8 MEASURED ANGLE WITH OPEN ARM ENDING IN ARROW POINTING UP AND RIGHT;bLEFT;9DOWN AND RIGHT",
  "29ab MEASURED ANGLE WITH OPEN ARM ENDING IN ARROW POINTING DOWN AND LEFT;9RIGHT AND UP",
  "29ad MEASURED ANGLE WITH OPEN ARM ENDING IN ARROW POINTING LEFT AND UP;9RIGHT AND DOWN",
  "29af MEASURED ANGLE WITH OPEN ARM ENDING IN ARROW POINTING LEFT AND DOWN;0REVERSED EMPTY SET",
  "29b1 EMPTY SET WITH OVERBAR;3SMALL CIRCLE ABOVE;3RIGHT ARROW ABOVE;3LEFT ARROW ABOVE",
  "29b5 CIRCLE WITH HORIZONTAL BAR;0CIRCLED VERTICAL BAR;1PARALLEL;1REVERSE SOLIDUS;1PERPENDICULAR",
  "29ba CIRCLE DIVIDED BY HORIZONTAL BAR AND TOP HALF DIVIDED BY VERTICAL BAR;1WITH SUPERIMPOSED X",
  "29bc CIRCLED ANTICLOCKWISE-ROTATED DIVISION SIGN;0UP ARROW THROUGH CIRCLE;0CIRCLED WHITE BULLET",
  "29bf CIRCLED BULLET;1LESS-THAN;1GREATER-THAN;0CIRCLE WITH SMALL CIRCLE TO THE RIGHT",
  "29c3 CIRCLE WITH TWO HORIZONTAL STROKES TO THE RIGHT;0SQUARED RISING DIAGONAL SLASH",
  "29c5 SQUARED FALLING DIAGONAL SLASH;1ASTERISK;1SMALL CIRCLE;1SQUARE;0TWO JOINED SQUARES",
  "29ca TRIANGLE WITH DOT ABOVE;2UNDERBAR;0S IN TRIANGLE;0TRIANGLE WITH SERIFS AT BOTTOM",
  "29ce RIGHT TRIANGLE ABOVE LEFT TRIANGLE;0LEFT TRIANGLE BESIDE VERTICAL BAR",
  "29d0 VERTICAL BAR BESIDE RIGHT TRIANGLE;0BOWTIE WITH LEFT HALF BLACK;2RIGHT HALF BLACK",
  "29d3 BLACK BOWTIE;0TIMES WITH LEFT HALF BLACK;2RIGHT HALF BLACK;0WHITE HOURGLASS",
  "29d7 BLACK HOURGLASS;0LEFT WIGGLY FENCE;0RIGHT WIGGLY FENCE;0LEFT DOUBLE WIGGLY FENCE",
  "29db RIGHT DOUBLE WIGGLY FENCE;0INCOMPLETE INFINITY;0TIE OVER INFINITY",
  "29de INFINITY NEGATED WITH VERTICAL BAR;0DOUBLE-ENDED MULTIMAP;0SQUARE WITH CONTOURED OUTLINE",
  "29e1 INCREASES AS;0SHUFFLE PRODUCT;0EQUALS SIGN AND SLANTED PARALLEL;5WITH TILDE ABOVE",
  "29e5 IDENTICAL TO AND SLANTED PARALLEL;0GLEICH STARK;0THERMODYNAMIC",
  "29e8 DOWN-POINTING TRIANGLE WITH LEFT HALF BLACK;3RIGHT HALF BLACK",
  "29ea BLACK DIAMOND WITH DOWN ARROW;1LOZENGE;0WHITE CIRCLE WITH DOWN ARROW",
  "29ed BLACK CIRCLE WITH DOWN ARROW;0ERROR-BARRED WHITE SQUARE;1BLACK SQUARE;1WHITE DIAMOND",
  "29f1 ERROR-BARRED BLACK DIAMOND;1WHITE CIRCLE;1BLACK CIRCLE;0RULE-DELAYED",
  "29f5 REVERSE SOLIDUS OPERATOR;0SOLIDUS WITH OVERBAR;0REVERSE SOLIDUS WITH HORIZONTAL STROKE",
  "29f8 BIG SOLIDUS;1REVERSE SOLIDUS;0DOUBLE PLUS;0TRIPLE PLUS;0LEFT-POINTING CURVED ANGLE BRACKET",
  "29fd RIGHT-POINTING CURVED ANGLE BRACKET;0TINY;0MINY;0N-ARY CIRCLED DOT OPERATOR;2PLUS OPERATOR",
  "2a02 N-ARY CIRCLED TIMES OPERATOR;1UNION OPERATOR WITH DOT;4PLUS;1SQUARE INTERSECTION OPERATOR",
  "2a06 N-ARY SQUARE UNION OPERATOR;0TWO LOGICAL AND OPERATOR;2OR OPERATOR;0N-ARY TIMES OPERATOR",
  "2a0a MODULO TWO SUM;0SUMMATION WITH INTEGRAL;0QUADRUPLE INTEGRAL OPERATOR;0FINITE PART INTEGRAL",
  "2a0e INTEGRAL WITH DOUBLE STROKE;1AVERAGE WITH SLASH;0CIRCULATION FUNCTION",
  "2a11 ANTICLOCKWISE INTEGRATION;0LINE INTEGRATION WITH RECTANGULAR PATH AROUND POLE",
  "2a13 LINE INTEGRATION WITH SEMICIRCULAR PATH AROUND POLE;2NOT INCLUDING THE POLE",
  "2a15 INTEGRAL AROUND A POINT OPERATOR;0QUATERNION INTEGRAL OPERATOR",
  "2a17 INTEGRAL WITH LEFTWARDS ARROW WITH HOOK;2TIMES SIGN;2INTERSECTION;2UNION;2OVERBAR",
  "2a1c INTEGRAL WITH UNDERBAR;0JOIN;0LARGE LEFT TRIANGLE OPERATOR;0Z NOTATION SCHEMA COMPOSITION",
  "2a20 Z NOTATION SCHEMA PIPING;3PROJECTION;0PLUS SIGN WITH SMALL CIRCLE ABOVE",
  "2a23 PLUS SIGN WITH CIRCUMFLEX ACCENT ABOVE;3TILDE ABOVE;3DOT BELOW;3TILDE BELOW;3SUBSCRIPT TWO",
  "2a28 PLUS SIGN WITH BLACK TRIANGLE;0MINUS SIGN WITH COMMA ABOVE;3DOT BELOW;3FALLING DOTS",
  "2a2c MINUS SIGN WITH RISING DOTS;0PLUS SIGN IN LEFT HALF CIRCLE;3RIGHT HALF CIRCLE",
  "2a2f VECTOR OR CROSS PRODUCT;0MULTIPLICATION SIGN WITH DOT ABOVE;3UNDERBAR",
  "2a32 SEMIDIRECT PRODUCT WITH BOTTOM CLOSED;0SMASH PRODUCT",
  "2a34 MULTIPLICATION SIGN IN LEFT HALF CIRCLE;3RIGHT HALF CIRCLE",
  "2a36 CIRCLED MULTIPLICATION SIGN WITH CIRCUMFLEX ACCENT;0MULTIPLICATION SIGN IN DOUBLE CIRCLE",
  "2a38 CIRCLED DIVISION SIGN;0PLUS SIGN IN TRIANGLE;0MINUS SIGN IN TRIANGLE",
  "2a3b MULTIPLICATION SIGN IN TRIANGLE;0INTERIOR PRODUCT;0RIGHTHAND INTERIOR PRODUCT",
  "2a3e Z NOTATION RELATIONAL COMPOSITION;0AMALGAMATION OR COPRODUCT;0INTERSECTION WITH DOT",
  "2a41 UNION WITH MINUS SIGN;2OVERBAR;0INTERSECTION WITH OVERBAR;2LOGICAL AND",
  "2a45 UNION WITH LOGICAL OR;1ABOVE INTERSECTION;0INTERSECTION ABOVE UNION",
  "2a48 UNION ABOVE BAR ABOVE INTERSECTION;0INTERSECTION ABOVE BAR ABOVE UNION",
  "2a4a UNION BESIDE AND JOINED WITH UNION;0INTERSECTION BESIDE AND JOINED WITH INTERSECTION",
  "2a4c CLOSED UNION WITH SERIFS;1INTERSECTION WITH SERIFS;0DOUBLE SQUARE INTERSECTION;2UNION",
  "2a50 CLOSED UNION WITH SERIFS AND SMASH PRODUCT;0LOGICAL AND WITH DOT ABOVE;1OR WITH DOT ABOVE",
  "2a53 DOUBLE LOGICAL AND;2OR;0TWO INTERSECTING LOGICAL AND;3OR;0SLOPING LARGE OR;2AND",
  "2a59 LOGICAL OR OVERLAPPING LOGICAL AND;1AND WITH MIDDLE STEM;1OR WITH MIDDLE STEM",
  "2a5c LOGICAL AND WITH HORIZONTAL DASH;1OR WITH HORIZONTAL DASH;1AND WITH DOUBLE OVERBAR",
  "2a5f LOGICAL AND WITH UNDERBAR;3DOUBLE UNDERBAR;0SMALL VEE WITH UNDERBAR",
  "2a62 LOGICAL OR WITH DOUBLE OVERBAR;4UNDERBAR;0Z NOTATION DOMAIN ANTIRESTRICTION",
  "2a65 Z NOTATION RANGE ANTIRESTRICTION;0EQUALS SIGN WITH DOT BELOW;0IDENTICAL WITH DOT ABOVE",
  "2a68 TRIPLE HORIZONTAL BAR WITH DOUBLE VERTICAL STROKE;4TRIPLE VERTICAL STROKE",
  "2a6a TILDE OPERATOR WITH DOT ABOVE;3RISING DOTS;0SIMILAR MINUS SIMILAR",
  "2a6d CONGRUENT WITH DOT ABOVE;0EQUALS WITH ASTERISK;0ALMOST EQUAL TO WITH CIRCUMFLEX ACCENT",
  "2a70 APPROXIMATELY EQUAL OR EQUAL TO;0EQUALS SIGN ABOVE PLUS SIGN;0PLUS SIGN ABOVE EQUALS SIGN",
  "2a73 EQUALS SIGN ABOVE TILDE OPERATOR;0DOUBLE COLON EQUAL;0TWO CONSECUTIVE EQUALS SIGNS",
  "2a76 THREE CONSECUTIVE EQUALS SIGNS;0EQUALS SIGN WITH TWO DOTS ABOVE AND TWO DOTS BELOW",
  "2a78 EQUIVALENT WITH FOUR DOTS ABOVE;0LESS-THAN WITH CIRCLE INSIDE",
  "2a7a GREATER-THAN WITH CIRCLE INSIDE;0LESS-THAN WITH QUESTION MARK ABOVE",
  "2a7c GREATER-THAN WITH QUESTION MARK ABOVE;0LESS-THAN OR SLANTED EQUAL TO",
  "2a7e GREATER-THAN OR SLANTED EQUAL TO;0LESS-THAN OR SLANTED EQUAL TO WITH DOT INSIDE",
  "2a80 GREATER-THAN OR SLANTED EQUAL TO WITH DOT INSIDE",
  "2a81 LESS-THAN OR SLANTED EQUAL TO WITH DOT ABOVE",
  "2a82 GREATER-THAN OR SLANTED EQUAL TO WITH DOT ABOVE",
  "2a83 LESS-THAN OR SLANTED EQUAL TO WITH DOT ABOVE RIGHT",
  "2a84 GREATER-THAN OR SLANTED EQUAL TO WITH DOT ABOVE LEFT;0LESS-THAN OR APPROXIMATE",
  "2a86 GREATER-THAN OR APPROXIMATE;0LESS-THAN AND SINGLE-LINE NOT EQUAL TO",
  "2a88 GREATER-THAN AND SINGLE-LINE NOT EQUAL TO;0LESS-THAN AND NOT APPROXIMATE",
  "2a8a GREATER-THAN AND NOT APPROXIMATE;0LESS-THAN ABOVE DOUBLE-LINE EQUAL ABOVE GREATER-THAN",
  "2a8c GREATER-THAN ABOVE DOUBLE-LINE EQUAL ABOVE LESS-THAN;0LESS-THAN ABOVE SIMILAR OR EQUAL",
  "2a8e GREATER-THAN ABOVE SIMILAR OR EQUAL;0LESS-THAN ABOVE SIMILAR ABOVE GREATER-THAN",
  "2a90 GREATER-THAN ABOVE SIMILAR ABOVE LESS-THAN",
  "2a91 LESS-THAN ABOVE GREATER-THAN ABOVE DOUBLE-LINE EQUAL",
  "2a92 GREATER-THAN ABOVE LESS-THAN ABOVE DOUBLE-LINE EQUAL",
  "2a93 LESS-THAN ABOVE SLANTED EQUAL ABOVE GREATER-THAN ABOVE SLANTED EQUAL",
  "2a94 GREATER-THAN ABOVE SLANTED EQUAL ABOVE LESS-THAN ABOVE SLANTED EQUAL",
  "2a95 SLANTED EQUAL TO OR LESS-THAN;4GREATER-THAN;4LESS-THAN WITH DOT INSIDE",
  "2a98 SLANTED EQUAL TO OR GREATER-THAN WITH DOT INSIDE;0DOUBLE-LINE EQUAL TO OR LESS-THAN",
  "2a9a DOUBLE-LINE EQUAL TO OR GREATER-THAN;1SLANTED EQUAL TO OR LESS-THAN;5GREATER-THAN",
  "2a9d SIMILAR OR LESS-THAN;2GREATER-THAN;1ABOVE LESS-THAN ABOVE EQUALS SIGN",
  "2aa0 SIMILAR ABOVE GREATER-THAN ABOVE EQUALS SIGN;0DOUBLE NESTED LESS-THAN;2GREATER-THAN",
  "2aa3 DOUBLE NESTED LESS-THAN WITH UNDERBAR;0GREATER-THAN OVERLAPPING LESS-THAN",
  "2aa5 GREATER-THAN BESIDE LESS-THAN;0LESS-THAN CLOSED BY CURVE;0GREATER-THAN CLOSED BY CURVE",
  "2aa8 LESS-THAN CLOSED BY CURVE ABOVE SLANTED EQUAL",
  "2aa9 GREATER-THAN CLOSED BY CURVE ABOVE SLANTED EQUAL;0SMALLER THAN;0LARGER THAN",
  "2aac SMALLER THAN OR EQUAL TO;0LARGER THAN OR EQUAL TO;0EQUALS SIGN WITH BUMPY ABOVE",
  "2aaf PRECEDES ABOVE SINGLE-LINE EQUALS SIGN;0SUCCEEDS ABOVE SINGLE-LINE EQUALS SIGN",
  "2ab1 PRECEDES ABOVE SINGLE-LINE NOT EQUAL TO;0SUCCEEDS ABOVE SINGLE-LINE NOT EQUAL TO",
  "2ab3 PRECEDES ABOVE EQUALS SIGN;0SUCCEEDS ABOVE EQUALS SIGN;0PRECEDES ABOVE NOT EQUAL TO",
  "2ab6 SUCCEEDS ABOVE NOT EQUAL TO;0PRECEDES ABOVE ALMOST EQUAL TO",
  "2ab8 SUCCEEDS ABOVE ALMOST EQUAL TO;0PRECEDES ABOVE NOT ALMOST EQUAL TO",
  "2aba SUCCEEDS ABOVE NOT ALMOST EQUAL TO;0DOUBLE PRECEDES;1SUCCEEDS;0SUBSET WITH DOT",
  "2abe SUPERSET WITH DOT;0SUBSET WITH PLUS SIGN BELOW;0SUPERSET WITH PLUS SIGN BELOW",
  "2ac1 SUBSET WITH MULTIPLICATION SIGN BELOW;0SUPERSET WITH MULTIPLICATION SIGN BELOW",
  "2ac3 SUBSET OF OR EQUAL TO WITH DOT ABOVE;0SUPERSET OF OR EQUAL TO WITH DOT ABOVE",
  "2ac5 SUBSET OF ABOVE EQUALS SIGN;0SUPERSET OF ABOVE EQUALS SIGN;0SUBSET OF ABOVE TILDE OPERATOR",
  "2ac8 SUPERSET OF ABOVE TILDE OPERATOR;0SUBSET OF ABOVE ALMOST EQUAL TO",
  "2aca SUPERSET OF ABOVE ALMOST EQUAL TO;0SUBSET OF ABOVE NOT EQUAL TO",
  "2acc SUPERSET OF ABOVE NOT EQUAL TO;0SQUARE LEFT OPEN BOX OPERATOR;1RIGHT OPEN BOX OPERATOR",
  "2acf CLOSED SUBSET;1SUPERSET;1SUBSET OR EQUAL TO;1SUPERSET OR EQUAL TO;0SUBSET ABOVE SUPERSET",
  "2ad4 SUPERSET ABOVE SUBSET;0SUBSET ABOVE SUBSET;0SUPERSET ABOVE SUPERSET;1BESIDE SUBSET",
  "2ad8 SUPERSET BESIDE AND JOINED BY DASH WITH SUBSET;0ELEMENT OF OPENING DOWNWARDS",
  "2ada PITCHFORK WITH TEE TOP;0TRANSVERSAL INTERSECTION;0FORKING;0NONFORKING;0SHORT LEFT TACK",
  "2adf SHORT DOWN TACK;1UP TACK;0PERPENDICULAR WITH S;0VERTICAL BAR TRIPLE RIGHT TURNSTILE",
  "2ae3 DOUBLE VERTICAL BAR LEFT TURNSTILE;0VERTICAL BAR DOUBLE LEFT TURNSTILE",
  "2ae5 DOUBLE VERTICAL BAR DOUBLE LEFT TURNSTILE;0LONG DASH FROM LEFT MEMBER OF DOUBLE VERTICAL",
  "2ae7 SHORT DOWN TACK WITH OVERBAR;1UP TACK WITH UNDERBAR;3ABOVE SHORT DOWN TACK",
  "2aea DOUBLE DOWN TACK;1UP TACK;1STROKE NOT SIGN;0REVERSED DOUBLE STROKE NOT SIGN",
  "2aee DOES NOT DIVIDE WITH REVERSED NEGATION SLASH;0VERTICAL LINE WITH CIRCLE ABOVE;4BELOW",
  "2af1 DOWN TACK WITH CIRCLE BELOW;0PARALLEL WITH HORIZONTAL STROKE;2TILDE OPERATOR",
  "2af4 TRIPLE VERTICAL BAR BINARY RELATION;3WITH HORIZONTAL STROKE;1COLON OPERATOR",
  "2af7 TRIPLE NESTED LESS-THAN;2GREATER-THAN;0DOUBLE-LINE SLANTED LESS-THAN OR EQUAL TO",
  "2afa DOUBLE-LINE SLANTED GREATER-THAN OR EQUAL TO;0TRIPLE SOLIDUS BINARY RELATION",
  "2afc LARGE TRIPLE VERTICAL BAR OPERATOR;0DOUBLE SOLIDUS OPERATOR;0WHITE VERTICAL BAR",
  "2aff N-ARY WHITE VERTICAL BAR;0NORTH EAST WHITE ARROW;1WEST WHITE ARROW;0SOUTH EAST WHITE ARROW",
  "2b03 SOUTH WEST WHITE ARROW;0LEFT RIGHT WHITE ARROW;0LEFTWARDS BLACK ARROW;0UPWARDS BLACK ARROW",
  "2b07 DOWNWARDS BLACK ARROW;0NORTH EAST BLACK ARROW;1WEST BLACK ARROW;0SOUTH EAST BLACK ARROW",
  "2b0b SOUTH WEST BLACK ARROW;0LEFT RIGHT BLACK ARROW;0UP DOWN BLACK ARROW",
  "2b0e RIGHTWARDS ARROW WITH TIP DOWNWARDS;4UPWARDS;0LEFTWARDS ARROW WITH TIP DOWNWARDS;4UPWARDS",
  "2b12 SQUARE WITH TOP HALF BLACK;2BOTTOM HALF BLACK;2UPPER RIGHT DIAGONAL HALF BLACK",
  "2b15 SQUARE WITH LOWER LEFT DIAGONAL HALF BLACK;0DIAMOND WITH LEFT HALF BLACK;2RIGHT HALF BLACK",
  "2b18 DIAMOND WITH TOP HALF BLACK;2BOTTOM HALF BLACK;0DOTTED SQUARE;0BLACK LARGE SQUARE",
  "2b1c WHITE LARGE SQUARE;0BLACK VERY SMALL SQUARE;0WHITE VERY SMALL SQUARE;0BLACK PENTAGON",
  "2b20 WHITE PENTAGON;1HEXAGON;0BLACK HEXAGON;0HORIZONTAL BLACK HEXAGON;0BLACK LARGE CIRCLE",
  "2b25 BLACK MEDIUM DIAMOND;0WHITE MEDIUM DIAMOND;0BLACK MEDIUM LOZENGE;0WHITE MEDIUM LOZENGE",
  "2b29 BLACK SMALL DIAMOND;2LOZENGE;0WHITE SMALL LOZENGE;0BLACK HORIZONTAL ELLIPSE",
  "2b2d WHITE HORIZONTAL ELLIPSE;0BLACK VERTICAL ELLIPSE;0WHITE VERTICAL ELLIPSE",
  "2b30 LEFT ARROW WITH SMALL CIRCLE;0THREE LEFTWARDS ARROWS;0LEFT ARROW WITH CIRCLED PLUS",
  "2b33 LONG LEFTWARDS SQUIGGLE ARROW;0LEFTWARDS TWO-HEADED ARROW WITH VERTICAL STROKE",
  "2b35 LEFTWARDS TWO-HEADED ARROW WITH DOUBLE VERTICAL STROKE;3FROM BAR;2TRIPLE DASH ARROW",
  "2b38 LEFTWARDS ARROW WITH DOTTED STEM;3TAIL WITH VERTICAL STROKE;5DOUBLE VERTICAL STROKE",
  "2b3b LEFTWARDS TWO-HEADED ARROW WITH TAIL;5WITH VERTICAL STROKE;6DOUBLE VERTICAL STROKE",
  "2b3e LEFTWARDS ARROW THROUGH X;0WAVE ARROW POINTING DIRECTLY LEFT",
  "2b40 EQUALS SIGN ABOVE LEFTWARDS ARROW;0REVERSE TILDE OPERATOR ABOVE LEFTWARDS ARROW",
  "2b42 LEFTWARDS ARROW ABOVE REVERSE ALMOST EQUAL TO;0RIGHTWARDS ARROW THROUGH GREATER-THAN",
  "2b44 RIGHTWARDS ARROW THROUGH SUPERSET;0LEFTWARDS QUADRUPLE ARROW;0RIGHTWARDS QUADRUPLE ARROW",
  "2b47 REVERSE TILDE OPERATOR ABOVE RIGHTWARDS ARROW",
  "2b48 RIGHTWARDS ARROW ABOVE REVERSE ALMOST EQUAL TO;0TILDE OPERATOR ABOVE LEFTWARDS ARROW",
  "2b4a LEFTWARDS ARROW ABOVE ALMOST EQUAL TO;3REVERSE TILDE OPERATOR",
  "2b4c RIGHTWARDS ARROW ABOVE REVERSE TILDE OPERATOR;0DOWNWARDS TRIANGLE-HEADED ZIGZAG ARROW",
  "2b4e SHORT SLANTED NORTH ARROW;1BACKSLANTED SOUTH ARROW;0WHITE MEDIUM STAR;0BLACK SMALL STAR",
  "2b52 WHITE SMALL STAR;0BLACK RIGHT-POINTING PENTAGON;0WHITE RIGHT-POINTING PENTAGON",
  "2b55 HEAVY LARGE CIRCLE;1OVAL WITH OVAL INSIDE;1CIRCLE WITH CIRCLE INSIDE;1CIRCLE",
  "2b59 HEAVY CIRCLED SALTIRE;0SLANTED NORTH ARROW WITH HOOKED HEAD",
  "2b5b BACKSLANTED SOUTH ARROW WITH HOOKED TAIL;0SLANTED NORTH ARROW WITH HORIZONTAL TAIL",
  "2b5d BACKSLANTED SOUTH ARROW WITH HORIZONTAL TAIL",
  "2b5e BENT ARROW POINTING DOWNWARDS THEN NORTH EAST",
  "2b5f SHORT BENT ARROW POINTING DOWNWARDS THEN NORTH EAST;0LEFTWARDS TRIANGLE-HEADED ARROW",
  "2b61 UPWARDS TRIANGLE-HEADED ARROW;0RIGHTWARDS TRIANGLE-HEADED ARROW",
  "2b63 DOWNWARDS TRIANGLE-HEADED ARROW;0LEFT RIGHT TRIANGLE-HEADED ARROW",
  "2b65 UP DOWN TRIANGLE-HEADED ARROW;0NORTH WEST TRIANGLE-HEADED ARROW",
  "2b67 NORTH EAST TRIANGLE-HEADED ARROW;0SOUTH EAST TRIANGLE-HEADED ARROW",
  "2b69 SOUTH WEST TRIANGLE-HEADED ARROW;0LEFTWARDS TRIANGLE-HEADED DASHED ARROW",
  "2b6b UPWARDS TRIANGLE-HEADED DASHED ARROW;0RIGHTWARDS TRIANGLE-HEADED DASHED ARROW",
  "2b6d DOWNWARDS TRIANGLE-HEADED DASHED ARROW;0CLOCKWISE TRIANGLE-HEADED OPEN CIRCLE ARROW",
  "2b6f ANTICLOCKWISE TRIANGLE-HEADED OPEN CIRCLE ARROW;0LEFTWARDS TRIANGLE-HEADED ARROW TO BAR",
  "2b71 UPWARDS TRIANGLE-HEADED ARROW TO BAR;0RIGHTWARDS TRIANGLE-HEADED ARROW TO BAR",
  "2b73 DOWNWARDS TRIANGLE-HEADED ARROW TO BAR",
  "2b76 NORTH WEST TRIANGLE-HEADED ARROW TO BAR;1EAST TRIANGLE-HEADED ARROW TO BAR",
  "2b78 SOUTH EAST TRIANGLE-HEADED ARROW TO BAR;1WEST TRIANGLE-HEADED ARROW TO BAR",
  "2b7a LEFTWARDS TRIANGLE-HEADED ARROW WITH DOUBLE HORIZONTAL STROKE",
  "2b7b UPWARDS TRIANGLE-HEADED ARROW WITH DOUBLE HORIZONTAL STROKE",
  "2b7c RIGHTWARDS TRIANGLE-HEADED ARROW WITH DOUBLE HORIZONTAL STROKE",
  "2b7d DOWNWARDS TRIANGLE-HEADED ARROW WITH DOUBLE HORIZONTAL STROKE;0HORIZONTAL TAB KEY",
  "2b7f VERTICAL TAB KEY;0LEFTWARDS TRIANGLE-HEADED ARROW OVER RIGHTWARDS TRIANGLE-HEADED ARROW",
  "2b81 UPWARDS TRIANGLE-HEADED ARROW LEFTWARDS OF DOWNWARDS TRIANGLE-HEADED ARROW",
  "2b82 RIGHTWARDS TRIANGLE-HEADED ARROW OVER LEFTWARDS TRIANGLE-HEADED ARROW",
  "2b83 DOWNWARDS TRIANGLE-HEADED ARROW LEFTWARDS OF UPWARDS TRIANGLE-HEADED ARROW",
  "2b84 LEFTWARDS TRIANGLE-HEADED PAIRED ARROWS;0UPWARDS TRIANGLE-HEADED PAIRED ARROWS",
  "2b86 RIGHTWARDS TRIANGLE-HEADED PAIRED ARROWS;0DOWNWARDS TRIANGLE-HEADED PAIRED ARROWS",
  "2b88 LEFTWARDS BLACK CIRCLED WHITE ARROW;0UPWARDS BLACK CIRCLED WHITE ARROW",
  "2b8a RIGHTWARDS BLACK CIRCLED WHITE ARROW;0DOWNWARDS BLACK CIRCLED WHITE ARROW",
  "2b8c ANTICLOCKWISE TRIANGLE-HEADED RIGHT U-SHAPED ARROW;2BOTTOM U-SHAPED ARROW",
  "2b8e ANTICLOCKWISE TRIANGLE-HEADED LEFT U-SHAPED ARROW;2TOP U-SHAPED ARROW;0RETURN LEFT;1RIGHT",
  "2b92 NEWLINE LEFT;1RIGHT;0FOUR CORNER ARROWS CIRCLING ANTICLOCKWISE;0RIGHTWARDS BLACK ARROW",
  "2b97 SYMBOL FOR TYPE A ELECTRONICS;0THREE-D TOP-LIGHTED LEFTWARDS EQUILATERAL ARROWHEAD",
  "2b99 THREE-D RIGHT-LIGHTED UPWARDS EQUILATERAL ARROWHEAD",
  "2b9a THREE-D TOP-LIGHTED RIGHTWARDS EQUILATERAL ARROWHEAD",
  "2b9b THREE-D LEFT-LIGHTED DOWNWARDS EQUILATERAL ARROWHEAD",
  "2b9c BLACK LEFTWARDS EQUILATERAL ARROWHEAD;1UPWARDS EQUILATERAL ARROWHEAD",
  "2b9e BLACK RIGHTWARDS EQUILATERAL ARROWHEAD;1DOWNWARDS EQUILATERAL ARROWHEAD",
  "2ba0 DOWNWARDS TRIANGLE-HEADED ARROW WITH LONG TIP LEFTWARDS;6RIGHTWARDS",
  "2ba2 UPWARDS TRIANGLE-HEADED ARROW WITH LONG TIP LEFTWARDS;6RIGHTWARDS",
  "2ba4 LEFTWARDS TRIANGLE-HEADED ARROW WITH LONG TIP UPWARDS",
  "2ba5 RIGHTWARDS TRIANGLE-HEADED ARROW WITH LONG TIP UPWARDS",
  "2ba6 LEFTWARDS TRIANGLE-HEADED ARROW WITH LONG TIP DOWNWARDS",
  "2ba7 RIGHTWARDS TRIANGLE-HEADED ARROW WITH LONG TIP DOWNWARDS",
  "2ba8 BLACK CURVED DOWNWARDS AND LEFTWARDS ARROW;4RIGHTWARDS ARROW;2UPWARDS AND LEFTWARDS ARROW",
  "2bab BLACK CURVED UPWARDS AND RIGHTWARDS ARROW;2LEFTWARDS AND UPWARDS ARROW",
  "2bad BLACK CURVED RIGHTWARDS AND UPWARDS ARROW;2LEFTWARDS AND DOWNWARDS ARROW",
  "2baf BLACK CURVED RIGHTWARDS AND DOWNWARDS ARROW;0RIBBON ARROW DOWN LEFT;3RIGHT;2UP LEFT;3RIGHT",
  "2bb4 RIBBON ARROW LEFT UP;2RIGHT UP;2LEFT DOWN;2RIGHT DOWN",
  "2bb8 UPWARDS WHITE ARROW FROM BAR WITH HORIZONTAL BAR;0UP ARROWHEAD IN A RECTANGLE BOX",
  "2bba OVERLAPPING WHITE SQUARES;2AND BLACK SQUARES;1BLACK SQUARES;0BALLOT BOX WITH LIGHT X",
  "2bbe CIRCLED X;1BOLD X;0BLACK SQUARE CENTRED;1DIAMOND CENTRED;0TURNED BLACK PENTAGON",
  "2bc3 HORIZONTAL BLACK OCTAGON;0BLACK OCTAGON;1MEDIUM UP-POINTING TRIANGLE CENTRED",
  "2bc6 BLACK MEDIUM DOWN-POINTING TRIANGLE CENTRED;2LEFT-POINTING TRIANGLE CENTRED",
  "2bc8 BLACK MEDIUM RIGHT-POINTING TRIANGLE CENTRED;0NEPTUNE FORM TWO;0TOP HALF BLACK CIRCLE",
  "2bcb BOTTOM HALF BLACK CIRCLE;0LIGHT FOUR POINTED BLACK CUSP",
  "2bcd ROTATED LIGHT FOUR POINTED BLACK CUSP;0WHITE FOUR POINTED CUSP",
  "2bcf ROTATED WHITE FOUR POINTED CUSP;0SQUARE POSITION INDICATOR;0UNCERTAINTY SIGN;0GROUP MARK",
  "2bd3 PLUTO FORM TWO;2THREE;2FOUR;2FIVE;0TRANSPLUTO;0PROSERPINA;0ASTRAEA;0HYGIEA;0PHOLUS;0NESSUS",
  "2bdd WHITE MOON SELENA;0BLACK DIAMOND ON CROSS;0TRUE LIGHT MOON ARTA;0CUPIDO;0HADES;0ZEUS",
  "2be3 KRONOS;0APOLLON;0ADMETOS;0VULCANUS;0POSEIDON;0LEFT HALF BLACK STAR;0RIGHT HALF BLACK STAR",
  "2bea STAR WITH LEFT HALF BLACK;2RIGHT HALF BLACK",
  "2bec LEFTWARDS TWO-HEADED ARROW WITH TRIANGLE ARROWHEADS",
  "2bed UPWARDS TWO-HEADED ARROW WITH TRIANGLE ARROWHEADS",
  "2bee RIGHTWARDS TWO-HEADED ARROW WITH TRIANGLE ARROWHEADS",
  "2bef DOWNWARDS TWO-HEADED ARROW WITH TRIANGLE ARROWHEADS;0ERIS FORM ONE;2TWO;0SEDNA",
  "2bf3 RUSSIAN ASTROLOGICAL SYMBOL VIGINTILE;3NOVILE;3QUINTILE;3BINOVILE;3SENTAGON;3TREDECILE",
  "2bf9 EQUALS SIGN WITH INFINITY BELOW;0UNITED SYMBOL;0SEPARATED SYMBOL;0DOUBLED SYMBOL",
  "2bfd PASSED SYMBOL;0REVERSED RIGHT ANGLE;0HELLSCHREIBER PAUSE SYMBOL",
  "2c00 GLAGOLITIC CAPITAL LETTER AZU;3BUKY;3VEDE;3GLAGOLI;3DOBRO;3YESTU;3ZHIVETE;3DZELO;3ZEMLJA",
  "2c09 GLAGOLITIC CAPITAL LETTER IZHE;3INITIAL IZHE;3I;3DJERVI;3KAKO;3LJUDIJE;3MYSLITE;3NASHI",
  "2c11 GLAGOLITIC CAPITAL LETTER ONU;3POKOJI;3RITSI;3SLOVO;3TVRIDO;3UKU;3FRITU;3HERU;3OTU;3PE",
  "2c1b GLAGOLITIC CAPITAL LETTER SHTA;3TSI;3CHRIVI;3SHA;3YERU;3YERI;3YATI;3SPIDERY HA;3YU",
  "2c24 GLAGOLITIC CAPITAL LETTER SMALL YUS;5WITH TAIL;3YO;3IOTATED SMALL YUS;3BIG YUS",
  "2c29 GLAGOLITIC CAPITAL LETTER IOTATED BIG YUS;3FITA;3IZHITSA;3SHTAPIC;3TROKUTASTI A",
  "2c2e GLAGOLITIC CAPITAL LETTER LATINATE MYSLITE;3CAUDATE CHRIVI;1SMALL LETTER AZU;3BUKY;3VEDE",
  "2c33 GLAGOLITIC SMALL LETTER GLAGOLI;3DOBRO;3YESTU;3ZHIVETE;3DZELO;3ZEMLJA;3IZHE;3INITIAL IZHE",
  "2c3b GLAGOLITIC SMALL LETTER I;3DJERVI;3KAKO;3LJUDIJE;3MYSLITE;3NASHI;3ONU;3POKOJI;3RITSI",
  "2c44 GLAGOLITIC SMALL LETTER SLOVO;3TVRIDO;3UKU;3FRITU;3HERU;3OTU;3PE;3SHTA;3TSI;3CHRIVI;3SHA",
  "2c4f GLAGOLITIC SMALL LETTER YERU;3YERI;3YATI;3SPIDERY HA;3YU;3SMALL YUS;5WITH TAIL;3YO",
  "2c57 GLAGOLITIC SMALL LETTER IOTATED SMALL YUS;3BIG YUS;3IOTATED BIG YUS;3FITA;3IZHITSA",
  "2c5c GLAGOLITIC SMALL LETTER SHTAPIC;3TROKUTASTI A;3LATINATE MYSLITE;3CAUDATE CHRIVI",
  "2c60 LATIN CAPITAL LETTER L WITH DOUBLE BAR;1SMALL LETTER L WITH DOUBLE BAR",
  "2c62 LATIN CAPITAL LETTER L WITH MIDDLE TILDE;3P WITH STROKE;3R WITH TAIL",
  "2c65 LATIN SMALL LETTER A WITH STROKE;3T WITH DIAGONAL STROKE;1CAPITAL LETTER H WITH DESCENDER",
  "2c68 LATIN SMALL LETTER H WITH DESCENDER;1CAPITAL LETTER K WITH DESCENDER",
  "2c6a LATIN SMALL LETTER K WITH DESCENDER;1CAPITAL LETTER Z WITH DESCENDER",
  "2c6c LATIN SMALL LETTER Z WITH DESCENDER;1CAPITAL LETTER ALPHA;3M WITH HOOK;3TURNED A;4ALPHA",
  "2c71 LATIN SMALL LETTER V WITH RIGHT HOOK;1CAPITAL LETTER W WITH HOOK;1SMALL LETTER W WITH HOOK",
  "2c74 LATIN SMALL LETTER V WITH CURL;1CAPITAL LETTER HALF H;1SMALL LETTER HALF H;3TAILLESS PHI",
  "2c78 LATIN SMALL LETTER E WITH NOTCH;3TURNED R WITH TAIL;3O WITH LOW RING INSIDE",
  "2c7b LATIN LETTER SMALL CAPITAL TURNED E;1SUBSCRIPT SMALL LETTER J;0MODIFIER LETTER CAPITAL V",
  "2c7e LATIN CAPITAL LETTER S WITH SWASH TAIL;3Z WITH SWASH TAIL;0COPTIC CAPITAL LETTER ALFA",
  "2c81 COPTIC SMALL LETTER ALFA;1CAPITAL LETTER VIDA;1SMALL LETTER VIDA;1CAPITAL LETTER GAMMA",
  "2c85 COPTIC SMALL LETTER GAMMA;1CAPITAL LETTER DALDA;1SMALL LETTER DALDA;1CAPITAL LETTER EIE",
  "2c89 COPTIC SMALL LETTER EIE;1CAPITAL LETTER SOU;1SMALL LETTER SOU;1CAPITAL LETTER ZATA",
  "2c8d COPTIC SMALL LETTER ZATA;1CAPITAL LETTER HATE;1SMALL LETTER HATE;1CAPITAL LETTER THETHE",
  "2c91 COPTIC SMALL LETTER THETHE;1CAPITAL LETTER IAUDA;1SMALL LETTER IAUDA;1CAPITAL LETTER KAPA",
  "2c95 COPTIC SMALL LETTER KAPA;1CAPITAL LETTER LAULA;1SMALL LETTER LAULA;1CAPITAL LETTER MI",
  "2c99 COPTIC SMALL LETTER MI;1CAPITAL LETTER NI;1SMALL LETTER NI;1CAPITAL LETTER KSI",
  "2c9d COPTIC SMALL LETTER KSI;1CAPITAL LETTER O;1SMALL LETTER O;1CAPITAL LETTER PI",
  "2ca1 COPTIC SMALL LETTER PI;1CAPITAL LETTER RO;1SMALL LETTER RO;1CAPITAL LETTER SIMA",
  "2ca5 COPTIC SMALL LETTER SIMA;1CAPITAL LETTER TAU;1SMALL LETTER TAU;1CAPITAL LETTER UA",
  "2ca9 COPTIC SMALL LETTER UA;1CAPITAL LETTER FI;1SMALL LETTER FI;1CAPITAL LETTER KHI",
  "2cad COPTIC SMALL LETTER KHI;1CAPITAL LETTER PSI;1SMALL LETTER PSI;1CAPITAL LETTER OOU",
  "2cb1 COPTIC SMALL LETTER OOU;1CAPITAL LETTER DIALECT-P ALEF;1SMALL LETTER DIALECT-P ALEF",
  "2cb4 COPTIC CAPITAL LETTER OLD COPTIC AIN;1SMALL LETTER OLD COPTIC AIN",
  "2cb6 COPTIC CAPITAL LETTER CRYPTOGRAMMIC EIE;1SMALL LETTER CRYPTOGRAMMIC EIE",
  "2cb8 COPTIC CAPITAL LETTER DIALECT-P KAPA;1SMALL LETTER DIALECT-P KAPA",
  "2cba COPTIC CAPITAL LETTER DIALECT-P NI;1SMALL LETTER DIALECT-P NI",
  "2cbc COPTIC CAPITAL LETTER CRYPTOGRAMMIC NI;1SMALL LETTER CRYPTOGRAMMIC NI",
  "2cbe COPTIC CAPITAL LETTER OLD COPTIC OOU;1SMALL LETTER OLD COPTIC OOU;1CAPITAL LETTER SAMPI",
  "2cc1 COPTIC SMALL LETTER SAMPI;1CAPITAL LETTER CROSSED SHEI;1SMALL LETTER CROSSED SHEI",
  "2cc4 COPTIC CAPITAL LETTER OLD COPTIC SHEI;1SMALL LETTER OLD COPTIC SHEI",
  "2cc6 COPTIC CAPITAL LETTER OLD COPTIC ESH;1SMALL LETTER OLD COPTIC ESH",
  "2cc8 COPTIC CAPITAL LETTER AKHMIMIC KHEI;1SMALL LETTER AKHMIMIC KHEI",
  "2cca COPTIC CAPITAL LETTER DIALECT-P HORI;1SMALL LETTER DIALECT-P HORI",
  "2ccc COPTIC CAPITAL LETTER OLD COPTIC HORI;1SMALL LETTER OLD COPTIC HORI",
  "2cce COPTIC CAPITAL LETTER OLD COPTIC HA;1SMALL LETTER OLD COPTIC HA",
  "2cd0 COPTIC CAPITAL LETTER L-SHAPED HA;1SMALL LETTER L-SHAPED HA;1CAPITAL LETTER OLD COPTIC HEI",
  "2cd3 COPTIC SMALL LETTER OLD COPTIC HEI;1CAPITAL LETTER OLD COPTIC HAT",
  "2cd5 COPTIC SMALL LETTER OLD COPTIC HAT;1CAPITAL LETTER OLD COPTIC GANGIA",
  "2cd7 COPTIC SMALL LETTER OLD COPTIC GANGIA;1CAPITAL LETTER OLD COPTIC DJA",
  "2cd9 COPTIC SMALL LETTER OLD COPTIC DJA;1CAPITAL LETTER OLD COPTIC SHIMA",
  "2cdb COPTIC SMALL LETTER OLD COPTIC SHIMA;1CAPITAL LETTER OLD NUBIAN SHIMA",
  "2cdd COPTIC SMALL LETTER OLD NUBIAN SHIMA;1CAPITAL LETTER OLD NUBIAN NGI",
  "2cdf COPTIC SMALL LETTER OLD NUBIAN NGI;1CAPITAL LETTER OLD NUBIAN NYI",
  "2ce1 COPTIC SMALL LETTER OLD NUBIAN NYI;1CAPITAL LETTER OLD NUBIAN WAU",
  "2ce3 COPTIC SMALL LETTER OLD NUBIAN WAU;1SYMBOL KAI;2MI RO;2PI RO;2STAUROS;2TAU RO;2KHI RO",
  "2cea COPTIC SYMBOL SHIMA SIMA;1CAPITAL LETTER CRYPTOGRAMMIC SHEI",
  "2cec COPTIC SMALL LETTER CRYPTOGRAMMIC SHEI;1CAPITAL LETTER CRYPTOGRAMMIC GANGIA",
  "2cee COPTIC SMALL LETTER CRYPTOGRAMMIC GANGIA;1COMBINING NI ABOVE;2SPIRITUS ASPER;3LENIS",
  "2cf2 COPTIC CAPITAL LETTER BOHAIRIC KHEI;1SMALL LETTER BOHAIRIC KHEI",
  "2cf9 COPTIC OLD NUBIAN FULL STOP;3DIRECT QUESTION MARK;3INDIRECT QUESTION MARK;3VERSE DIVIDER",
  "2cfd COPTIC FRACTION ONE HALF;1FULL STOP;1MORPHOLOGICAL DIVIDER;0GEORGIAN SMALL LETTER AN;3BAN",
  "2d02 GEORGIAN SMALL LETTER GAN;3DON;3EN;3VIN;3ZEN;3TAN;3IN;3KAN;3LAS;3MAN;3NAR;3ON;3PAR;3ZHAR",
  "2d10 GEORGIAN SMALL LETTER RAE;3SAN;3TAR;3UN;3PHAR;3KHAR;3GHAN;3QAR;3SHIN;3CHIN;3CAN;3JIL;3CIL",
  "2d1d GEORGIAN SMALL LETTER CHAR;3XAN;3JHAN;3HAE;3HE;3HIE;3WE;3HAR;3HOE",
  "2d27 GEORGIAN SMALL LETTER YN",
  "2d2d GEORGIAN SMALL LETTER AEN",
  "2d30 TIFINAGH LETTER YA;2YAB;2YABH;2YAG;2YAGHH;2BERBER ACADEMY YAJ;2YAJ;2YAD;2YADH;2YADD;2YADDH",
  "2d3b TIFINAGH LETTER YEY;2YAF;2YAK;2TUAREG YAK;2YAKHH;2YAH;2BERBER ACADEMY YAH;2TUAREG YAH",
  "2d43 TIFINAGH LETTER YAHH;2YAA;2YAKH;2TUAREG YAKH;2YAQ;2TUAREG YAQ;2YI;2YAZH;2AHAGGAR YAZH",
  "2d4c TIFINAGH LETTER TUAREG YAZH;2YAL;2YAM;2YAN;2TUAREG YAGN;3YANG;2YAP;2YU;2YAR;2YARR;2YAGH",
  "2d57 TIFINAGH LETTER TUAREG YAGH;2AYER YAGH;2YAS;2YASS;2YASH;2YAT;2YATH;2YACH;2YATT;2YAV;2YAW",
  "2d62 TIFINAGH LETTER YAY;2YAZ;2TAWELLEMET YAZ;2YAZZ;2YE;2YO",
  "2d6f TIFINAGH MODIFIER LETTER LABIALIZATION MARK;1SEPARATOR MARK",
  "2d7f TIFINAGH CONSONANT JOINER;0ETHIOPIC SYLLABLE LOA;2MOA;2ROA;2SOA;2SHOA;2BOA;2TOA;2COA;2NOA",
  "2d89 ETHIOPIC SYLLABLE NYOA;2GLOTTAL OA;2ZOA;2DOA;2DDOA;2JOA;2THOA;2CHOA;2PHOA;2POA;2GGWA;2GGWI",
  "2d95 ETHIOPIC SYLLABLE GGWEE;2GGWE",
  "2da0 ETHIOPIC SYLLABLE SSA;2SSU;2SSI;2SSAA;2SSEE;2SSE;2SSO",
  "2da8 ETHIOPIC SYLLABLE CCA;2CCU;2CCI;2CCAA;2CCEE;2CCE;2CCO",
  "2db0 ETHIOPIC SYLLABLE ZZA;2ZZU;2ZZI;2ZZAA;2ZZEE;2ZZE;2ZZO",
  "2db8 ETHIOPIC SYLLABLE CCHA;2CCHU;2CCHI;2CCHAA;2CCHEE;2CCHE;2CCHO",
  "2dc0 ETHIOPIC SYLLABLE QYA;2QYU;2QYI;2QYAA;2QYEE;2QYE;2QYO",
  "2dc8 ETHIOPIC SYLLABLE KYA;2KYU;2KYI;2KYAA;2KYEE;2KYE;2KYO",
  "2dd0 ETHIOPIC SYLLABLE XYA;2XYU;2XYI;2XYAA;2XYEE;2XYE;2XYO",
  "2dd8 ETHIOPIC SYLLABLE GYA;2GYU;2GYI;2GYAA;2GYEE;2GYE;2GYO",
  "2de0 COMBINING CYRILLIC LETTER BE;3VE;3GHE;3DE;3ZHE;3ZE;3KA;3EL;3EM;3EN;3O;3PE;3ER;3ES;3TE;3HA",
  "2df0 COMBINING CYRILLIC LETTER TSE;3CHE;3SHA;3SHCHA;3FITA;3ES-TE;3A;3IE;3DJERV;3MONOGRAPH UK",
  "2dfa COMBINING CYRILLIC LETTER YAT;3YU;3IOTIFIED A;3LITTLE YUS;3BIG YUS;3IOTIFIED BIG YUS",
  "2e00 RIGHT ANGLE SUBSTITUTION MARKER;2DOTTED SUBSTITUTION MARKER;0LEFT SUBSTITUTION BRACKET",
  "2e03 RIGHT SUBSTITUTION BRACKET;0LEFT DOTTED SUBSTITUTION BRACKET",
  "2e05 RIGHT DOTTED SUBSTITUTION BRACKET;0RAISED INTERPOLATION MARKER",
  "2e07 RAISED DOTTED INTERPOLATION MARKER;0DOTTED TRANSPOSITION MARKER",
  "2e09 LEFT TRANSPOSITION BRACKET;0RIGHT TRANSPOSITION BRACKET;0RAISED SQUARE",
  "2e0c LEFT RAISED OMISSION BRACKET;0RIGHT RAISED OMISSION BRACKET;0EDITORIAL CORONIS",
  "2e0f PARAGRAPHOS;0FORKED PARAGRAPHOS;0REVERSED FORKED PARAGRAPHOS;0HYPODIASTOLE;0DOTTED OBELOS",
  "2e14 DOWNWARDS ANCORA;0UPWARDS ANCORA;0DOTTED RIGHT-POINTING ANGLE;0DOUBLE OBLIQUE HYPHEN",
  "2e18 INVERTED INTERROBANG;0PALM BRANCH;0HYPHEN WITH DIAERESIS;0TILDE WITH RING ABOVE",
  "2e1c LEFT LOW PARAPHRASE BRACKET;0RIGHT LOW PARAPHRASE BRACKET;0TILDE WITH DOT ABOVE;3BELOW",
  "2e20 LEFT VERTICAL BAR WITH QUILL;0RIGHT VERTICAL BAR WITH QUILL;0TOP LEFT HALF BRACKET",
  "2e23 TOP RIGHT HALF BRACKET;0BOTTOM LEFT HALF BRACKET;1RIGHT HALF BRACKET",
  "2e26 LEFT SIDEWAYS U BRACKET;0RIGHT SIDEWAYS U BRACKET;0LEFT DOUBLE PARENTHESIS",
  "2e29 RIGHT DOUBLE PARENTHESIS;0TWO DOTS OVER ONE DOT PUNCTUATION",
  "2e2b ONE DOT OVER TWO DOTS PUNCTUATION;0SQUARED FOUR DOT PUNCTUATION;0FIVE DOT MARK",
  "2e2e REVERSED QUESTION MARK;0VERTICAL TILDE;0RING POINT;0WORD SEPARATOR MIDDLE DOT",
  "2e32 TURNED COMMA;0RAISED DOT;1COMMA;0TURNED SEMICOLON;0DAGGER WITH LEFT GUARD;2RIGHT GUARD",
  "2e38 TURNED DAGGER;0TOP HALF SECTION SIGN;0TWO-EM DASH;0THREE-EM DASH;0STENOGRAPHIC FULL STOP",
  "2e3d VERTICAL SIX DOTS;0WIGGLY VERTICAL LINE;0CAPITULUM;0DOUBLE HYPHEN;0REVERSED COMMA",
  "2e42 DOUBLE LOW-REVERSED-9 QUOTATION MARK;0DASH WITH LEFT UPTURN;0DOUBLE SUSPENSION MARK",
  "2e45 INVERTED LOW KAVYKA;3WITH KAVYKA ABOVE;0LOW KAVYKA;2WITH DOT;0DOUBLE STACKED COMMA",
  "2e4a DOTTED SOLIDUS;0TRIPLE DAGGER;0MEDIEVAL COMMA;0PARAGRAPHUS MARK;0PUNCTUS ELEVATUS MARK",
  "2e4f CORNISH VERSE DIVIDER;0CROSS PATTY WITH RIGHT CROSSBAR;3LEFT CROSSBAR",
  "2e52 TIRONIAN SIGN CAPITAL ET;0MEDIEVAL EXCLAMATION MARK;1QUESTION MARK",
  "2e55 LEFT SQUARE BRACKET WITH STROKE;0RIGHT SQUARE BRACKET WITH STROKE",
  "2e57 LEFT SQUARE BRACKET WITH DOUBLE STROKE;0RIGHT SQUARE BRACKET WITH DOUBLE STROKE",
  "2e59 TOP HALF LEFT PARENTHESIS;2RIGHT PARENTHESIS;0BOTTOM HALF LEFT PARENTHESIS",
  "2e5c BOTTOM HALF RIGHT PARENTHESIS;0OBLIQUE HYPHEN",
  "2e80 CJK RADICAL REPEAT;2CLIFF;2SECOND ONE;3TWO;3THREE;2PERSON;2BOX;2TABLE;2KNIFE ONE;3TWO",
  "2e8a CJK RADICAL DIVINATION;2SEAL;2SMALL ONE;3TWO;2LAME ONE;3TWO;3THREE;3FOUR;2SNAKE;2THREAD",
  "2e94 CJK RADICAL SNOUT ONE;3TWO;2HEART ONE;3TWO;2HAND;2RAP",
  "2e9b CJK RADICAL CHOKE;2SUN;2MOON;2DEATH;2MOTHER;2CIVILIAN;2WATER ONE;3TWO;2FIRE;2PAW ONE;3TWO",
  "2ea6 CJK RADICAL SIMPLIFIED HALF TREE TRUNK;2COW;2DOG;2JADE;2BOLT OF CLOTH;2EYE;2SPIRIT ONE",
  "2ead CJK RADICAL SPIRIT TWO;2BAMBOO;2SILK;2C-SIMPLIFIED SILK;2NET ONE;3TWO;3THREE;3FOUR;2MESH",
  "2eb6 CJK RADICAL SHEEP;2RAM;2EWE;2OLD;2BRUSH ONE;3TWO;2MEAT;2MORTAR;2GRASS ONE;3TWO;3THREE",
  "2ec1 CJK RADICAL TIGER;2CLOTHES;2WEST ONE;3TWO;2C-SIMPLIFIED SEE;2SIMPLIFIED HORN;2HORN",
  "2ec8 CJK RADICAL C-SIMPLIFIED SPEECH;3SHELL;2FOOT;2C-SIMPLIFIED CART;2SIMPLIFIED WALK;2WALK ONE",
  "2ece CJK RADICAL WALK TWO;2CITY;2C-SIMPLIFIED GOLD;2LONG ONE;3TWO;2C-SIMPLIFIED LONG;3GATE",
  "2ed5 CJK RADICAL MOUND ONE;3TWO;2RAIN;2BLUE;2C-SIMPLIFIED TANNED LEATHER;3LEAF;3WIND;3FLY",
  "2edd CJK RADICAL EAT ONE;3TWO;3THREE;2C-SIMPLIFIED EAT;2HEAD;2C-SIMPLIFIED HORSE;2BONE;2GHOST",
  "2ee5 CJK RADICAL C-SIMPLIFIED FISH;3BIRD;3SALT;2SIMPLIFIED WHEAT;3YELLOW;2C-SIMPLIFIED FROG",
  "2eeb CJK RADICAL J-SIMPLIFIED EVEN;2C-SIMPLIFIED EVEN;2J-SIMPLIFIED TOOTH;2C-SIMPLIFIED TOOTH",
  "2eef CJK RADICAL J-SIMPLIFIED DRAGON;2C-SIMPLIFIED DRAGON;2TURTLE;2J-SIMPLIFIED TURTLE",
  "2ef3 CJK RADICAL C-SIMPLIFIED TURTLE",
  "2f00 KANGXI RADICAL ONE;2LINE;2DOT;2SLASH;2SECOND;2HOOK;2TWO;2LID;2MAN;2LEGS;2ENTER;2EIGHT",
  "2f0c KANGXI RADICAL DOWN BOX;2COVER;2ICE;2TABLE;2OPEN BOX;2KNIFE;2POWER;2WRAP;2SPOON",
  "2f15 KANGXI RADICAL RIGHT OPEN BOX;2HIDING ENCLOSURE;2TEN;2DIVINATION;2SEAL;2CLIFF;2PRIVATE",
  "2f1c KANGXI RADICAL AGAIN;2MOUTH;2ENCLOSURE;2EARTH;2SCHOLAR;2GO;3SLOWLY;2EVENING;2BIG;2WOMAN",
  "2f26 KANGXI RADICAL CHILD;2ROOF;2INCH;2SMALL;2LAME;2CORPSE;2SPROUT;2MOUNTAIN;2RIVER;2WORK",
  "2f30 KANGXI RADICAL ONESELF;2TURBAN;2DRY;2SHORT THREAD;2DOTTED CLIFF;2LONG STRIDE;2TWO HANDS",
  "2f37 KANGXI RADICAL SHOOT;2BOW;2SNOUT;2BRISTLE;2STEP;2HEART;2HALBERD;2DOOR;2HAND;2BRANCH;2RAP",
  "2f42 KANGXI RADICAL SCRIPT;2DIPPER;2AXE;2SQUARE;2NOT;2SUN;2SAY;2MOON;2TREE;2LACK;2STOP;2DEATH",
  "2f4e KANGXI RADICAL WEAPON;2DO NOT;2COMPARE;2FUR;2CLAN;2STEAM;2WATER;2FIRE;2CLAW;2FATHER",
  "2f58 KANGXI RADICAL DOUBLE X;2HALF TREE TRUNK;2SLICE;2FANG;2COW;2DOG;2PROFOUND;2JADE;2MELON",
  "2f61 KANGXI RADICAL TILE;2SWEET;2LIFE;2USE;2FIELD;2BOLT OF CLOTH;2SICKNESS;2DOTTED TENT;2WHITE",
  "2f6a KANGXI RADICAL SKIN;2DISH;2EYE;2SPEAR;2ARROW;2STONE;2SPIRIT;2TRACK;2GRAIN;2CAVE;2STAND",
  "2f75 KANGXI RADICAL BAMBOO;2RICE;2SILK;2JAR;2NET;2SHEEP;2FEATHER;2OLD;2AND;2PLOW;2EAR;2BRUSH",
  "2f81 KANGXI RADICAL MEAT;2MINISTER;2SELF;2ARRIVE;2MORTAR;2TONGUE;2OPPOSE;2BOAT;2STOPPING;2COLOR",
  "2f8b KANGXI RADICAL GRASS;2TIGER;2INSECT;2BLOOD;2WALK ENCLOSURE;2CLOTHES;2WEST;2SEE;2HORN",
  "2f94 KANGXI RADICAL SPEECH;2VALLEY;2BEAN;2PIG;2BADGER;2SHELL;2RED;2RUN;2FOOT;2BODY;2CART",
  "2f9f KANGXI RADICAL BITTER;2MORNING;2WALK;2CITY;2WINE;2DISTINGUISH;2VILLAGE;2GOLD;2LONG;2GATE",
  "2fa9 KANGXI RADICAL MOUND;2SLAVE;2SHORT TAILED BIRD;2RAIN;2BLUE;2WRONG;2FACE;2LEATHER",
  "2fb1 KANGXI RADICAL TANNED LEATHER;2LEEK;2SOUND;2LEAF;2WIND;2FLY;2EAT;2HEAD;2FRAGRANT;2HORSE",
  "2fbb KANGXI RADICAL BONE;2TALL;2HAIR;2FIGHT;2SACRIFICIAL WINE;2CAULDRON;2GHOST;2FISH;2BIRD",
  "2fc4 KANGXI RADICAL SALT;2DEER;2WHEAT;2HEMP;2YELLOW;2MILLET;2BLACK;2EMBROIDERY;2FROG;2TRIPOD",
  "2fce KANGXI RADICAL DRUM;2RAT;2NOSE;2EVEN;2TOOTH;2DRAGON;2TURTLE;2FLUTE",
  "2ff0 IDEOGRAPHIC DESCRIPTION CHARACTER LEFT TO RIGHT;3ABOVE TO BELOW;3LEFT TO MIDDLE AND RIGHT",
  "2ff3 IDEOGRAPHIC DESCRIPTION CHARACTER ABOVE TO MIDDLE AND BELOW;3FULL SURROUND",
  "2ff5 IDEOGRAPHIC DESCRIPTION CHARACTER SURROUND FROM ABOVE;5BELOW;5LEFT;5UPPER LEFT;6RIGHT",
  "2ffa IDEOGRAPHIC DESCRIPTION CHARACTER SURROUND FROM LOWER LEFT;3OVERLAID",
  "3000 IDEOGRAPHIC SPACE;1COMMA;1FULL STOP;0DITTO MARK;0JAPANESE INDUSTRIAL STANDARD SYMBOL",
  "3005 IDEOGRAPHIC ITERATION MARK;1CLOSING MARK;1NUMBER ZERO;0LEFT ANGLE BRACKET",
  "3009 RIGHT ANGLE BRACKET;0LEFT DOUBLE ANGLE BRACKET;0RIGHT DOUBLE ANGLE BRACKET",
  "300c LEFT CORNER BRACKET;0RIGHT CORNER BRACKET;0LEFT WHITE CORNER BRACKET",
  "300f RIGHT WHITE CORNER BRACKET;0LEFT BLACK LENTICULAR BRACKET;0RIGHT BLACK LENTICULAR BRACKET",
  "3012 POSTAL MARK;0GETA MARK;0LEFT TORTOISE SHELL BRACKET;0RIGHT TORTOISE SHELL BRACKET",
  "3016 LEFT WHITE LENTICULAR BRACKET;0RIGHT WHITE LENTICULAR BRACKET",
  "3018 LEFT WHITE TORTOISE SHELL BRACKET;0RIGHT WHITE TORTOISE SHELL BRACKET",
  "301a LEFT WHITE SQUARE BRACKET;0RIGHT WHITE SQUARE BRACKET;0WAVE DASH",
  "301d REVERSED DOUBLE PRIME QUOTATION MARK;0DOUBLE PRIME QUOTATION MARK",
  "301f LOW DOUBLE PRIME QUOTATION MARK;0POSTAL MARK FACE;0HANGZHOU NUMERAL ONE;2TWO;2THREE;2FOUR",
  "3025 HANGZHOU NUMERAL FIVE;2SIX;2SEVEN;2EIGHT;2NINE;0IDEOGRAPHIC LEVEL TONE MARK",
  "302b IDEOGRAPHIC RISING TONE MARK;1DEPARTING TONE MARK;1ENTERING TONE MARK",
  "302e HANGUL SINGLE DOT TONE MARK;1DOUBLE DOT TONE MARK;0WAVY DASH;0VERTICAL KANA REPEAT MARK",
  "3032 VERTICAL KANA REPEAT WITH VOICED SOUND MARK;3MARK UPPER HALF",
  "3034 VERTICAL KANA REPEAT WITH VOICED SOUND MARK UPPER HALF;3MARK LOWER HALF",
  "3036 CIRCLED POSTAL MARK;0IDEOGRAPHIC TELEGRAPH LINE FEED SEPARATOR SYMBOL",
  "3038 HANGZHOU NUMERAL TEN;2TWENTY;2THIRTY;0VERTICAL IDEOGRAPHIC ITERATION MARK;0MASU MARK",
  "303d PART ALTERNATION MARK;0IDEOGRAPHIC VARIATION INDICATOR;1HALF FILL SPACE",
  "3041 HIRAGANA LETTER SMALL A;2A;2SMALL I;2I;2SMALL U;2U;2SMALL E;2E;2SMALL O;2O;2KA;2GA;2KI;2GI",
  "304f HIRAGANA LETTER KU;2GU;2KE;2GE;2KO;2GO;2SA;2ZA;2SI;2ZI;2SU;2ZU;2SE;2ZE;2SO;2ZO;2TA;2DA;2TI",
  "3062 HIRAGANA LETTER DI;2SMALL TU;2TU;2DU;2TE;2DE;2TO;2DO;2NA;2NI;2NU;2NE;2NO;2HA;2BA;2PA;2HI",
  "3073 HIRAGANA LETTER BI;2PI;2HU;2BU;2PU;2HE;2BE;2PE;2HO;2BO;2PO;2MA;2MI;2MU;2ME;2MO;2SMALL YA",
  "3084 HIRAGANA LETTER YA;2SMALL YU;2YU;2SMALL YO;2YO;2RA;2RI;2RU;2RE;2RO;2SMALL WA;2WA;2WI;2WE",
  "3092 HIRAGANA LETTER WO;2N;2VU;2SMALL KA;3KE",
  "3099 COMBINING KATAKANA-HIRAGANA VOICED SOUND MARK;2SEMI-VOICED SOUND MARK",
  "309b KATAKANA-HIRAGANA VOICED SOUND MARK;1SEMI-VOICED SOUND MARK;0HIRAGANA ITERATION MARK",
  "309e HIRAGANA VOICED ITERATION MARK;1DIGRAPH YORI;0KATAKANA-HIRAGANA DOUBLE HYPHEN",
  "30a1 KATAKANA LETTER SMALL A;2A;2SMALL I;2I;2SMALL U;2U;2SMALL E;2E;2SMALL O;2O;2KA;2GA;2KI;2GI",
  "30af KATAKANA LETTER KU;2GU;2KE;2GE;2KO;2GO;2SA;2ZA;2SI;2ZI;2SU;2ZU;2SE;2ZE;2SO;2ZO;2TA;2DA;2TI",
  "30c2 KATAKANA LETTER DI;2SMALL TU;2TU;2DU;2TE;2DE;2TO;2DO;2NA;2NI;2NU;2NE;2NO;2HA;2BA;2PA;2HI",
  "30d3 KATAKANA LETTER BI;2PI;2HU;2BU;2PU;2HE;2BE;2PE;2HO;2BO;2PO;2MA;2MI;2MU;2ME;2MO;2SMALL YA",
  "30e4 KATAKANA LETTER YA;2SMALL YU;2YU;2SMALL YO;2YO;2RA;2RI;2RU;2RE;2RO;2SMALL WA;2WA;2WI;2WE",
  "30f2 KATAKANA LETTER WO;2N;2VU;2SMALL KA;3KE;2VA;2VI;2VE;2VO;1MIDDLE DOT",
  "30fc KATAKANA-HIRAGANA PROLONGED SOUND MARK;0KATAKANA ITERATION MARK;1VOICED ITERATION MARK",
  "30ff KATAKANA DIGRAPH KOTO",
  "3105 BOPOMOFO LETTER B;2P;2M;2F;2D;2T;2N;2L;2G;2K;2H;2J;2Q;2X;2ZH;2CH;2SH;2R;2Z;2C;2S;2A;2O;2E",
  "311d BOPOMOFO LETTER EH;2AI;2EI;2AU;2OU;2AN;2EN;2ANG;2ENG;2ER;2I;2U;2IU;2V;2NG;2GN;2IH",
  "312e BOPOMOFO LETTER O WITH DOT ABOVE;2NN",
  "3131 HANGUL LETTER KIYEOK;2SSANGKIYEOK;2KIYEOK-SIOS;2NIEUN;2NIEUN-CIEUC;2NIEUN-HIEUH;2TIKEUT",
  "3138 HANGUL LETTER SSANGTIKEUT;2RIEUL;2RIEUL-KIYEOK;2RIEUL-MIEUM;2RIEUL-PIEUP;2RIEUL-SIOS",
  "313e HANGUL LETTER RIEUL-THIEUTH;2RIEUL-PHIEUPH;2RIEUL-HIEUH;2MIEUM;2PIEUP;2SSANGPIEUP",
  "3144 HANGUL LETTER PIEUP-SIOS;2SIOS;2SSANGSIOS;2IEUNG;2CIEUC;2SSANGCIEUC;2CHIEUCH;2KHIEUKH",
  "314c HANGUL LETTER THIEUTH;2PHIEUPH;2HIEUH;2A;2AE;2YA;2YAE;2EO;2E;2YEO;2YE;2O;2WA;2WAE;2OE;2YO",
  "315c HANGUL LETTER U;2WEO;2WE;2WI;2YU;2EU;2YI;2I;1FILLER;1LETTER SSANGNIEUN;2NIEUN-TIKEUT",
  "3167 HANGUL LETTER NIEUN-SIOS;2NIEUN-PANSIOS;2RIEUL-KIYEOK-SIOS;2RIEUL-TIKEUT;2RIEUL-PIEUP-SIOS",
  "316c HANGUL LETTER RIEUL-PANSIOS;2RIEUL-YEORINHIEUH;2MIEUM-PIEUP;2MIEUM-SIOS;2MIEUM-PANSIOS",
  "3171 HANGUL LETTER KAPYEOUNMIEUM;2PIEUP-KIYEOK;2PIEUP-TIKEUT;2PIEUP-SIOS-KIYEOK",
  "3175 HANGUL LETTER PIEUP-SIOS-TIKEUT;2PIEUP-CIEUC;2PIEUP-THIEUTH;2KAPYEOUNPIEUP",
  "3179 HANGUL LETTER KAPYEOUNSSANGPIEUP;2SIOS-KIYEOK;2SIOS-NIEUN;2SIOS-TIKEUT;2SIOS-PIEUP",
  "317e HANGUL LETTER SIOS-CIEUC;2PANSIOS;2SSANGIEUNG;2YESIEUNG;2YESIEUNG-SIOS;2YESIEUNG-PANSIOS",
  "3184 HANGUL LETTER KAPYEOUNPHIEUPH;2SSANGHIEUH;2YEORINHIEUH;2YO-YA;2YO-YAE;2YO-I;2YU-YEO;2YU-YE",
  "318c HANGUL LETTER YU-I;2ARAEA;2ARAEAE",
  "3190 IDEOGRAPHIC ANNOTATION LINKING MARK;2REVERSE MARK;2ONE MARK;2TWO MARK;2THREE MARK",
  "3195 IDEOGRAPHIC ANNOTATION FOUR MARK;2TOP MARK;2MIDDLE MARK;2BOTTOM MARK;2FIRST MARK",
  "319a IDEOGRAPHIC ANNOTATION SECOND MARK;2THIRD MARK;2FOURTH MARK;2HEAVEN MARK;2EARTH MARK",
  "319f IDEOGRAPHIC ANNOTATION MAN MARK;0BOPOMOFO LETTER BU;2ZI;2JI;2GU;2EE;2ENN;2OO;2ONN;2IR;2ANN",
  "31aa BOPOMOFO LETTER INN;2UNN;2IM;2NGG;2AINN;2AUNN;2AM;2OM;2ONG;2INNN;1FINAL LETTER P;3T;3K;3H",
  "31b8 BOPOMOFO LETTER GH;2LH;2ZY;1FINAL LETTER G;1LETTER GW;2KW;2OE;2AH;0CJK STROKE T;2WG;2XG",
  "31c3 CJK STROKE BXG;2SW;2HZZ;2HZG;2HP;2HZWG;2SZWG;2HZT;2HZZP;2HPWG;2HZW;2HZZZ;2N;2H;2S;2P;2SP",
  "31d4 CJK STROKE D;2HZ;2HG;2SZ;2SWZ;2ST;2SG;2PD;2PZ;2TN;2SZZ;2SWG;2HXWG;2HZZZG;2PG;2Q",
  "31f0 KATAKANA LETTER SMALL KU;3SI;3SU;3TO;3NU;3HA;3HI;3HU;3HE;3HO;3MU;3RA;3RI;3RU;3RE;3RO",
  "3200 PARENTHESIZED HANGUL KIYEOK;2NIEUN;2TIKEUT;2RIEUL;2MIEUM;2PIEUP;2SIOS;2IEUNG;2CIEUC",
  "3209 PARENTHESIZED HANGUL CHIEUCH;2KHIEUKH;2THIEUTH;2PHIEUPH;2HIEUH;2KIYEOK A;2NIEUN A",
  "3210 PARENTHESIZED HANGUL TIKEUT A;2RIEUL A;2MIEUM A;2PIEUP A;2SIOS A;2IEUNG A;2CIEUC A",
  "3217 PARENTHESIZED HANGUL CHIEUCH A;2KHIEUKH A;2THIEUTH A;2PHIEUPH A;2HIEUH A;2CIEUC U",
  "321d PARENTHESIZED KOREAN CHARACTER OJEON;3O HU",
  "3220 PARENTHESIZED IDEOGRAPH ONE;2TWO;2THREE;2FOUR;2FIVE;2SIX;2SEVEN;2EIGHT;2NINE;2TEN;2MOON",
  "322b PARENTHESIZED IDEOGRAPH FIRE;2WATER;2WOOD;2METAL;2EARTH;2SUN;2STOCK;2HAVE;2SOCIETY;2NAME",
  "3235 PARENTHESIZED IDEOGRAPH SPECIAL;2FINANCIAL;2CONGRATULATION;2LABOR;2REPRESENT;2CALL;2STUDY",
  "323c PARENTHESIZED IDEOGRAPH SUPERVISE;2ENTERPRISE;2RESOURCE;2ALLIANCE;2FESTIVAL;2REST;2SELF",
  "3243 PARENTHESIZED IDEOGRAPH REACH;0CIRCLED IDEOGRAPH QUESTION;2KINDERGARTEN;2SCHOOL;2KOTO",
  "3248 CIRCLED NUMBER TEN ON BLACK SQUARE;2TWENTY ON BLACK SQUARE;2THIRTY ON BLACK SQUARE",
  "324b CIRCLED NUMBER FORTY ON BLACK SQUARE;2FIFTY ON BLACK SQUARE;2SIXTY ON BLACK SQUARE",
  "324e CIRCLED NUMBER SEVENTY ON BLACK SQUARE;2EIGHTY ON BLACK SQUARE;0PARTNERSHIP SIGN",
  "3251 CIRCLED NUMBER TWENTY ONE;3TWO;3THREE;3FOUR;3FIVE;3SIX;3SEVEN;3EIGHT;3NINE;2THIRTY;3ONE",
  "325c CIRCLED NUMBER THIRTY TWO;3THREE;3FOUR;3FIVE;1HANGUL KIYEOK;2NIEUN;2TIKEUT;2RIEUL;2MIEUM",
  "3265 CIRCLED HANGUL PIEUP;2SIOS;2IEUNG;2CIEUC;2CHIEUCH;2KHIEUKH;2THIEUTH;2PHIEUPH;2HIEUH",
  "326e CIRCLED HANGUL KIYEOK A;2NIEUN A;2TIKEUT A;2RIEUL A;2MIEUM A;2PIEUP A;2SIOS A;2IEUNG A",
  "3276 CIRCLED HANGUL CIEUC A;2CHIEUCH A;2KHIEUKH A;2THIEUTH A;2PHIEUPH A;2HIEUH A",
  "327c CIRCLED KOREAN CHARACTER CHAMKO;3JUEUI;1HANGUL IEUNG U;0KOREAN STANDARD SYMBOL",
  "3280 CIRCLED IDEOGRAPH ONE;2TWO;2THREE;2FOUR;2FIVE;2SIX;2SEVEN;2EIGHT;2NINE;2TEN;2MOON;2FIRE",
  "328c CIRCLED IDEOGRAPH WATER;2WOOD;2METAL;2EARTH;2SUN;2STOCK;2HAVE;2SOCIETY;2NAME;2SPECIAL",
  "3296 CIRCLED IDEOGRAPH FINANCIAL;2CONGRATULATION;2LABOR;2SECRET;2MALE;2FEMALE;2SUITABLE",
  "329d CIRCLED IDEOGRAPH EXCELLENT;2PRINT;2ATTENTION;2ITEM;2REST;2COPY;2CORRECT;2HIGH;2CENTRE",
  "32a6 CIRCLED IDEOGRAPH LOW;2LEFT;2RIGHT;2MEDICINE;2RELIGION;2STUDY;2SUPERVISE;2ENTERPRISE",
  "32ae CIRCLED IDEOGRAPH RESOURCE;2ALLIANCE;2NIGHT;1NUMBER THIRTY SIX;3SEVEN;3EIGHT;3NINE;2FORTY",
  "32b6 CIRCLED NUMBER FORTY ONE;3TWO;3THREE;3FOUR;3FIVE;3SIX;3SEVEN;3EIGHT;3NINE;2FIFTY",
  "32c0 IDEOGRAPHIC TELEGRAPH SYMBOL FOR JANUARY;4FEBRUARY;4MARCH;4APRIL;4MAY;4JUNE;4JULY;4AUGUST",
  "32c8 IDEOGRAPHIC TELEGRAPH SYMBOL FOR SEPTEMBER;4OCTOBER;4NOVEMBER;4DECEMBER;0SQUARE HG;1ERG",
  "32ce SQUARE EV;0LIMITED LIABILITY SIGN;0CIRCLED KATAKANA A;2I;2U;2E;2O;2KA;2KI;2KU;2KE;2KO;2SA",
  "32db CIRCLED KATAKANA SI;2SU;2SE;2SO;2TA;2TI;2TU;2TE;2TO;2NA;2NI;2NU;2NE;2NO;2HA;2HI;2HU;2HE",
  "32ed CIRCLED KATAKANA HO;2MA;2MI;2MU;2ME;2MO;2YA;2YU;2YO;2RA;2RI;2RU;2RE;2RO;2WA;2WI;2WE;2WO",
  "32ff SQUARE ERA NAME REIWA;1APAATO;1ARUHUA;1ANPEA;1AARU;1ININGU;1INTI;1UON;1ESUKUUDO;1EEKAA",
  "3309 SQUARE ONSU;1OOMU;1KAIRI;1KARATTO;1KARORII;1GARON;1GANMA;1GIGA;1GINII;1KYURII;1GIRUDAA",
  "3314 SQUARE KIRO;1KIROGURAMU;1KIROMEETORU;1KIROWATTO;1GURAMU;1GURAMUTON;1KURUZEIRO;1KUROONE",
  "331c SQUARE KEESU;1KORUNA;1KOOPO;1SAIKURU;1SANTIIMU;1SIRINGU;1SENTI;1SENTO;1DAASU;1DESI;1DORU",
  "3327 SQUARE TON;1NANO;1NOTTO;1HAITU;1PAASENTO;1PAATU;1BAARERU;1PIASUTORU;1PIKURU;1PIKO;1BIRU",
  "3332 SQUARE HUARADDO;1HUIITO;1BUSSYERU;1HURAN;1HEKUTAARU;1PESO;1PENIHI;1HERUTU;1PENSU;1PEEZI",
  "333c SQUARE BEETA;1POINTO;1BORUTO;1HON;1PONDO;1HOORU;1HOON;1MAIKURO;1MAIRU;1MAHHA;1MARUKU",
  "3347 SQUARE MANSYON;1MIKURON;1MIRI;1MIRIBAARU;1MEGA;1MEGATON;1MEETORU;1YAADO;1YAARU;1YUAN",
  "3351 SQUARE RITTORU;1RIRA;1RUPII;1RUUBURU;1REMU;1RENTOGEN;1WATTO",
  "3358 IDEOGRAPHIC TELEGRAPH SYMBOL FOR HOUR ZERO;5ONE;5TWO;5THREE;5FOUR;5FIVE;5SIX;5SEVEN;5EIGHT",
  "3361 IDEOGRAPHIC TELEGRAPH SYMBOL FOR HOUR NINE;5TEN;5ELEVEN;5TWELVE;5THIRTEEN;5FOURTEEN",
  "3367 IDEOGRAPHIC TELEGRAPH SYMBOL FOR HOUR FIFTEEN;5SIXTEEN;5SEVENTEEN;5EIGHTEEN;5NINETEEN",
  "336c IDEOGRAPHIC TELEGRAPH SYMBOL FOR HOUR TWENTY;5TWENTY-ONE;5TWENTY-TWO;5TWENTY-THREE",
  "3370 IDEOGRAPHIC TELEGRAPH SYMBOL FOR HOUR TWENTY-FOUR;0SQUARE HPA;1DA;1AU;1BAR;1OV;1PC;1DM",
  "3378 SQUARE DM SQUARED;2CUBED;1IU;1ERA NAME HEISEI;3SYOUWA;3TAISYOU;3MEIZI;1CORPORATION",
  "3380 SQUARE PA AMPS;1NA;1MU A;1MA;1KA;1KB;1MB;1GB;1CAL;1KCAL;1PF;1NF;1MU F;2G;1MG;1KG;1HZ;1KHZ",
  "3392 SQUARE MHZ;1GHZ;1THZ;1MU L;1ML;1DL;1KL;1FM;1NM;1MU M;1MM;1CM;1KM;1MM SQUARED;1CM SQUARED",
  "33a1 SQUARE M SQUARED;1KM SQUARED;1MM CUBED;1CM CUBED;1M CUBED;1KM CUBED;1M OVER S;4SQUARED;1PA",
  "33aa SQUARE KPA;1MPA;1GPA;1RAD;2OVER S;4SQUARED;1PS;1NS;1MU S;1MS;1PV;1NV;1MU V;1MV;1KV",
  "33b9 SQUARE MV MEGA;1PW;1NW;1MU W;1MW;1KW;1MW MEGA;1K OHM;1M OHM;1AM;1BQ;1CC;1CD;1C OVER KG;1CO",
  "33c8 SQUARE DB;1GY;1HA;1HP;1IN;1KK;1KM CAPITAL;1KT;1LM;1LN;1LOG;1LX;1MB SMALL;1MIL;1MOL;1PH;1PM",
  "33d9 SQUARE PPM;1PR;1SR;1SV;1WB;1V OVER M;1A OVER M;0IDEOGRAPHIC TELEGRAPH SYMBOL FOR DAY ONE",
  "33e1 IDEOGRAPHIC TELEGRAPH SYMBOL FOR DAY TWO;5THREE;5FOUR;5FIVE;5SIX;5SEVEN;5EIGHT;5NINE;5TEN",
  "33ea IDEOGRAPHIC TELEGRAPH SYMBOL FOR DAY ELEVEN;5TWELVE;5THIRTEEN;5FOURTEEN;5FIFTEEN;5SIXTEEN",
  "33f0 IDEOGRAPHIC TELEGRAPH SYMBOL FOR DAY SEVENTEEN;5EIGHTEEN;5NINETEEN;5TWENTY;5TWENTY-ONE",
  "33f5 IDEOGRAPHIC TELEGRAPH SYMBOL FOR DAY TWENTY-TWO;5TWENTY-THREE;5TWENTY-FOUR;5TWENTY-FIVE",
  "33f9 IDEOGRAPHIC TELEGRAPH SYMBOL FOR DAY TWENTY-SIX;5TWENTY-SEVEN;5TWENTY-EIGHT;5TWENTY-NINE",
  "33fd IDEOGRAPHIC TELEGRAPH SYMBOL FOR DAY THIRTY;5THIRTY-ONE;0SQUARE GAL",
  "4dc0 HEXAGRAM FOR THE CREATIVE HEAVEN;3RECEPTIVE EARTH;2DIFFICULTY AT THE BEGINNING",
  "4dc3 HEXAGRAM FOR YOUTHFUL FOLLY;2WAITING;2CONFLICT;2THE ARMY;2HOLDING TOGETHER;2SMALL TAMING",
  "4dc9 HEXAGRAM FOR TREADING;2PEACE;2STANDSTILL;2FELLOWSHIP;2GREAT POSSESSION;2MODESTY",
  "4dcf HEXAGRAM FOR ENTHUSIASM;2FOLLOWING;2WORK ON THE DECAYED;2APPROACH;2CONTEMPLATION",
  "4dd4 HEXAGRAM FOR BITING THROUGH;2GRACE;2SPLITTING APART;2RETURN;2INNOCENCE;2GREAT TAMING",
  "4dda HEXAGRAM FOR MOUTH CORNERS;2GREAT PREPONDERANCE;2THE ABYSMAL WATER;3CLINGING FIRE",
  "4dde HEXAGRAM FOR INFLUENCE;2DURATION;2RETREAT;2GREAT POWER;2PROGRESS;2DARKENING OF THE LIGHT",
  "4de4 HEXAGRAM FOR THE FAMILY;2OPPOSITION;2OBSTRUCTION;2DELIVERANCE;2DECREASE;2INCREASE",
  "4dea HEXAGRAM FOR BREAKTHROUGH;2COMING TO MEET;2GATHERING TOGETHER;2PUSHING UPWARD;2OPPRESSION",
  "4def HEXAGRAM FOR THE WELL;2REVOLUTION;2THE CAULDRON;3AROUSING THUNDER;3KEEPING STILL MOUNTAIN",
  "4df4 HEXAGRAM FOR DEVELOPMENT;2THE MARRYING MAIDEN;2ABUNDANCE;2THE WANDERER;3GENTLE WIND",
  "4df9 HEXAGRAM FOR THE JOYOUS LAKE;2DISPERSION;2LIMITATION;2INNER TRUTH;2SMALL PREPONDERANCE",
  "4dfe HEXAGRAM FOR AFTER COMPLETION;2BEFORE COMPLETION"]

end RuleReview.Text.Table.CharacterName
