/-! The names of characters below 2000. -/

namespace RuleReview.Text.Table.CharacterName

/-- The first character of a row and its name, then the names of those that follow, each with
the number of words that it has in common with the one before. -/
def scripts : List String := [
  "20 SPACE;0EXCLAMATION MARK;0QUOTATION MARK;0NUMBER SIGN;0DOLLAR SIGN;0PERCENT SIGN;0AMPERSAND",
  "27 APOSTROPHE;0LEFT PARENTHESIS;0RIGHT PARENTHESIS;0ASTERISK;0PLUS SIGN;0COMMA;0HYPHEN-MINUS",
  "2e FULL STOP;0SOLIDUS;0DIGIT ZERO;1ONE;1TWO;1THREE;1FOUR;1FIVE;1SIX;1SEVEN;1EIGHT;1NINE;0COLON",
  "3b SEMICOLON;0LESS-THAN SIGN;0EQUALS SIGN;0GREATER-THAN SIGN;0QUESTION MARK;0COMMERCIAL AT",
  "41 LATIN CAPITAL LETTER A;3B;3C;3D;3E;3F;3G;3H;3I;3J;3K;3L;3M;3N;3O;3P;3Q;3R;3S;3T;3U;3V;3W;3X",
  "59 LATIN CAPITAL LETTER Y;3Z;0LEFT SQUARE BRACKET;0REVERSE SOLIDUS;0RIGHT SQUARE BRACKET",
  "5e CIRCUMFLEX ACCENT;0LOW LINE;0GRAVE ACCENT;0LATIN SMALL LETTER A;3B;3C;3D;3E;3F;3G;3H;3I;3J",
  "6b LATIN SMALL LETTER K;3L;3M;3N;3O;3P;3Q;3R;3S;3T;3U;3V;3W;3X;3Y;3Z;0LEFT CURLY BRACKET",
  "7c VERTICAL LINE;0RIGHT CURLY BRACKET;0TILDE",
  "a0 NO-BREAK SPACE;0INVERTED EXCLAMATION MARK;0CENT SIGN;0POUND SIGN;0CURRENCY SIGN;0YEN SIGN",
  "a6 BROKEN BAR;0SECTION SIGN;0DIAERESIS;0COPYRIGHT SIGN;0FEMININE ORDINAL INDICATOR",
  "ab LEFT-POINTING DOUBLE ANGLE QUOTATION MARK;0NOT SIGN;0SOFT HYPHEN;0REGISTERED SIGN;0MACRON",
  "b0 DEGREE SIGN;0PLUS-MINUS SIGN;0SUPERSCRIPT TWO;1THREE;0ACUTE ACCENT;0MICRO SIGN;0PILCROW SIGN",
  "b7 MIDDLE DOT;0CEDILLA;0SUPERSCRIPT ONE;0MASCULINE ORDINAL INDICATOR",
  "bb RIGHT-POINTING DOUBLE ANGLE QUOTATION MARK;0VULGAR FRACTION ONE QUARTER;3HALF",
  "be VULGAR FRACTION THREE QUARTERS;0INVERTED QUESTION MARK;0LATIN CAPITAL LETTER A WITH GRAVE",
  "c1 LATIN CAPITAL LETTER A WITH ACUTE;5CIRCUMFLEX;5TILDE;5DIAERESIS;5RING ABOVE;3AE",
  "c7 LATIN CAPITAL LETTER C WITH CEDILLA;3E WITH GRAVE;5ACUTE;5CIRCUMFLEX;5DIAERESIS",
  "cc LATIN CAPITAL LETTER I WITH GRAVE;5ACUTE;5CIRCUMFLEX;5DIAERESIS;3ETH;3N WITH TILDE",
  "d2 LATIN CAPITAL LETTER O WITH GRAVE;5ACUTE;5CIRCUMFLEX;5TILDE;5DIAERESIS;0MULTIPLICATION SIGN",
  "d8 LATIN CAPITAL LETTER O WITH STROKE;3U WITH GRAVE;5ACUTE;5CIRCUMFLEX;5DIAERESIS;3Y WITH ACUTE",
  "de LATIN CAPITAL LETTER THORN;1SMALL LETTER SHARP S;3A WITH GRAVE;5ACUTE;5CIRCUMFLEX;5TILDE",
  "e4 LATIN SMALL LETTER A WITH DIAERESIS;5RING ABOVE;3AE;3C WITH CEDILLA;3E WITH GRAVE;5ACUTE",
  "ea LATIN SMALL LETTER E WITH CIRCUMFLEX;5DIAERESIS;3I WITH GRAVE;5ACUTE;5CIRCUMFLEX;5DIAERESIS",
  "f0 LATIN SMALL LETTER ETH;3N WITH TILDE;3O WITH GRAVE;5ACUTE;5CIRCUMFLEX;5TILDE;5DIAERESIS",
  "f7 DIVISION SIGN;0LATIN SMALL LETTER O WITH STROKE;3U WITH GRAVE;5ACUTE;5CIRCUMFLEX;5DIAERESIS",
  "fd LATIN SMALL LETTER Y WITH ACUTE;3THORN;3Y WITH DIAERESIS;1CAPITAL LETTER A WITH MACRON",
  "101 LATIN SMALL LETTER A WITH MACRON;1CAPITAL LETTER A WITH BREVE;1SMALL LETTER A WITH BREVE",
  "104 LATIN CAPITAL LETTER A WITH OGONEK;1SMALL LETTER A WITH OGONEK;1CAPITAL LETTER C WITH ACUTE",
  "107 LATIN SMALL LETTER C WITH ACUTE;1CAPITAL LETTER C WITH CIRCUMFLEX",
  "109 LATIN SMALL LETTER C WITH CIRCUMFLEX;1CAPITAL LETTER C WITH DOT ABOVE",
  "10b LATIN SMALL LETTER C WITH DOT ABOVE;1CAPITAL LETTER C WITH CARON;1SMALL LETTER C WITH CARON",
  "10e LATIN CAPITAL LETTER D WITH CARON;1SMALL LETTER D WITH CARON;1CAPITAL LETTER D WITH STROKE",
  "111 LATIN SMALL LETTER D WITH STROKE;1CAPITAL LETTER E WITH MACRON;1SMALL LETTER E WITH MACRON",
  "114 LATIN CAPITAL LETTER E WITH BREVE;1SMALL LETTER E WITH BREVE",
  "116 LATIN CAPITAL LETTER E WITH DOT ABOVE;1SMALL LETTER E WITH DOT ABOVE",
  "118 LATIN CAPITAL LETTER E WITH OGONEK;1SMALL LETTER E WITH OGONEK;1CAPITAL LETTER E WITH CARON",
  "11b LATIN SMALL LETTER E WITH CARON;1CAPITAL LETTER G WITH CIRCUMFLEX",
  "11d LATIN SMALL LETTER G WITH CIRCUMFLEX;1CAPITAL LETTER G WITH BREVE",
  "11f LATIN SMALL LETTER G WITH BREVE;1CAPITAL LETTER G WITH DOT ABOVE",
  "121 LATIN SMALL LETTER G WITH DOT ABOVE;1CAPITAL LETTER G WITH CEDILLA",
  "123 LATIN SMALL LETTER G WITH CEDILLA;1CAPITAL LETTER H WITH CIRCUMFLEX",
  "125 LATIN SMALL LETTER H WITH CIRCUMFLEX;1CAPITAL LETTER H WITH STROKE",
  "127 LATIN SMALL LETTER H WITH STROKE;1CAPITAL LETTER I WITH TILDE;1SMALL LETTER I WITH TILDE",
  "12a LATIN CAPITAL LETTER I WITH MACRON;1SMALL LETTER I WITH MACRON;1CAPITAL LETTER I WITH BREVE",
  "12d LATIN SMALL LETTER I WITH BREVE;1CAPITAL LETTER I WITH OGONEK;1SMALL LETTER I WITH OGONEK",
  "130 LATIN CAPITAL LETTER I WITH DOT ABOVE;1SMALL LETTER DOTLESS I;1CAPITAL LIGATURE IJ",
  "133 LATIN SMALL LIGATURE IJ;1CAPITAL LETTER J WITH CIRCUMFLEX;1SMALL LETTER J WITH CIRCUMFLEX",
  "136 LATIN CAPITAL LETTER K WITH CEDILLA;1SMALL LETTER K WITH CEDILLA;3KRA",
  "139 LATIN CAPITAL LETTER L WITH ACUTE;1SMALL LETTER L WITH ACUTE;1CAPITAL LETTER L WITH CEDILLA",
  "13c LATIN SMALL LETTER L WITH CEDILLA;1CAPITAL LETTER L WITH CARON;1SMALL LETTER L WITH CARON",
  "13f LATIN CAPITAL LETTER L WITH MIDDLE DOT;1SMALL LETTER L WITH MIDDLE DOT",
  "141 LATIN CAPITAL LETTER L WITH STROKE;1SMALL LETTER L WITH STROKE;1CAPITAL LETTER N WITH ACUTE",
  "144 LATIN SMALL LETTER N WITH ACUTE;1CAPITAL LETTER N WITH CEDILLA;1SMALL LETTER N WITH CEDILLA",
  "147 LATIN CAPITAL LETTER N WITH CARON;1SMALL LETTER N WITH CARON;4PRECEDED BY APOSTROPHE",
  "14a LATIN CAPITAL LETTER ENG;1SMALL LETTER ENG;1CAPITAL LETTER O WITH MACRON",
  "14d LATIN SMALL LETTER O WITH MACRON;1CAPITAL LETTER O WITH BREVE;1SMALL LETTER O WITH BREVE",
  "150 LATIN CAPITAL LETTER O WITH DOUBLE ACUTE;1SMALL LETTER O WITH DOUBLE ACUTE",
  "152 LATIN CAPITAL LIGATURE OE;1SMALL LIGATURE OE;1CAPITAL LETTER R WITH ACUTE",
  "155 LATIN SMALL LETTER R WITH ACUTE;1CAPITAL LETTER R WITH CEDILLA;1SMALL LETTER R WITH CEDILLA",
  "158 LATIN CAPITAL LETTER R WITH CARON;1SMALL LETTER R WITH CARON;1CAPITAL LETTER S WITH ACUTE",
  "15b LATIN SMALL LETTER S WITH ACUTE;1CAPITAL LETTER S WITH CIRCUMFLEX",
  "15d LATIN SMALL LETTER S WITH CIRCUMFLEX;1CAPITAL LETTER S WITH CEDILLA",
  "15f LATIN SMALL LETTER S WITH CEDILLA;1CAPITAL LETTER S WITH CARON;1SMALL LETTER S WITH CARON",
  "162 LATIN CAPITAL LETTER T WITH CEDILLA;1SMALL LETTER T WITH CEDILLA",
  "164 LATIN CAPITAL LETTER T WITH CARON;1SMALL LETTER T WITH CARON;1CAPITAL LETTER T WITH STROKE",
  "167 LATIN SMALL LETTER T WITH STROKE;1CAPITAL LETTER U WITH TILDE;1SMALL LETTER U WITH TILDE",
  "16a LATIN CAPITAL LETTER U WITH MACRON;1SMALL LETTER U WITH MACRON;1CAPITAL LETTER U WITH BREVE",
  "16d LATIN SMALL LETTER U WITH BREVE;1CAPITAL LETTER U WITH RING ABOVE",
  "16f LATIN SMALL LETTER U WITH RING ABOVE;1CAPITAL LETTER U WITH DOUBLE ACUTE",
  "171 LATIN SMALL LETTER U WITH DOUBLE ACUTE;1CAPITAL LETTER U WITH OGONEK",
  "173 LATIN SMALL LETTER U WITH OGONEK;1CAPITAL LETTER W WITH CIRCUMFLEX",
  "175 LATIN SMALL LETTER W WITH CIRCUMFLEX;1CAPITAL LETTER Y WITH CIRCUMFLEX",
  "177 LATIN SMALL LETTER Y WITH CIRCUMFLEX;1CAPITAL LETTER Y WITH DIAERESIS;3Z WITH ACUTE",
  "17a LATIN SMALL LETTER Z WITH ACUTE;1CAPITAL LETTER Z WITH DOT ABOVE",
  "17c LATIN SMALL LETTER Z WITH DOT ABOVE;1CAPITAL LETTER Z WITH CARON;1SMALL LETTER Z WITH CARON",
  "17f LATIN SMALL LETTER LONG S;3B WITH STROKE;1CAPITAL LETTER B WITH HOOK;5TOPBAR",
  "183 LATIN SMALL LETTER B WITH TOPBAR;1CAPITAL LETTER TONE SIX;1SMALL LETTER TONE SIX",
  "186 LATIN CAPITAL LETTER OPEN O;3C WITH HOOK;1SMALL LETTER C WITH HOOK",
  "189 LATIN CAPITAL LETTER AFRICAN D;3D WITH HOOK;5TOPBAR;1SMALL LETTER D WITH TOPBAR",
  "18d LATIN SMALL LETTER TURNED DELTA;1CAPITAL LETTER REVERSED E;3SCHWA;3OPEN E;3F WITH HOOK",
  "192 LATIN SMALL LETTER F WITH HOOK;1CAPITAL LETTER G WITH HOOK;3GAMMA;1SMALL LETTER HV",
  "196 LATIN CAPITAL LETTER IOTA;3I WITH STROKE;3K WITH HOOK;1SMALL LETTER K WITH HOOK;3L WITH BAR",
  "19b LATIN SMALL LETTER LAMBDA WITH STROKE;1CAPITAL LETTER TURNED M;3N WITH LEFT HOOK",
  "19e LATIN SMALL LETTER N WITH LONG RIGHT LEG;1CAPITAL LETTER O WITH MIDDLE TILDE;5HORN",
  "1a1 LATIN SMALL LETTER O WITH HORN;1CAPITAL LETTER OI;1SMALL LETTER OI",
  "1a4 LATIN CAPITAL LETTER P WITH HOOK;1SMALL LETTER P WITH HOOK;1LETTER YR",
  "1a7 LATIN CAPITAL LETTER TONE TWO;1SMALL LETTER TONE TWO;1CAPITAL LETTER ESH",
  "1aa LATIN LETTER REVERSED ESH LOOP;1SMALL LETTER T WITH PALATAL HOOK",
  "1ac LATIN CAPITAL LETTER T WITH HOOK;1SMALL LETTER T WITH HOOK",
  "1ae LATIN CAPITAL LETTER T WITH RETROFLEX HOOK;3U WITH HORN;1SMALL LETTER U WITH HORN",
  "1b1 LATIN CAPITAL LETTER UPSILON;3V WITH HOOK;3Y WITH HOOK;1SMALL LETTER Y WITH HOOK",
  "1b5 LATIN CAPITAL LETTER Z WITH STROKE;1SMALL LETTER Z WITH STROKE;1CAPITAL LETTER EZH",
  "1b8 LATIN CAPITAL LETTER EZH REVERSED;1SMALL LETTER EZH REVERSED;4WITH TAIL",
  "1bb LATIN LETTER TWO WITH STROKE;1CAPITAL LETTER TONE FIVE;1SMALL LETTER TONE FIVE",
  "1be LATIN LETTER INVERTED GLOTTAL STOP WITH STROKE;2WYNN;2DENTAL CLICK;2LATERAL CLICK",
  "1c2 LATIN LETTER ALVEOLAR CLICK;2RETROFLEX CLICK;1CAPITAL LETTER DZ WITH CARON",
  "1c5 LATIN CAPITAL LETTER D WITH SMALL LETTER Z WITH CARON;1SMALL LETTER DZ WITH CARON",
  "1c7 LATIN CAPITAL LETTER LJ;3L WITH SMALL LETTER J;1SMALL LETTER LJ;1CAPITAL LETTER NJ",
  "1cb LATIN CAPITAL LETTER N WITH SMALL LETTER J;1SMALL LETTER NJ;1CAPITAL LETTER A WITH CARON",
  "1ce LATIN SMALL LETTER A WITH CARON;1CAPITAL LETTER I WITH CARON;1SMALL LETTER I WITH CARON",
  "1d1 LATIN CAPITAL LETTER O WITH CARON;1SMALL LETTER O WITH CARON;1CAPITAL LETTER U WITH CARON",
  "1d4 LATIN SMALL LETTER U WITH CARON;1CAPITAL LETTER U WITH DIAERESIS AND MACRON",
  "1d6 LATIN SMALL LETTER U WITH DIAERESIS AND MACRON;1CAPITAL LETTER U WITH DIAERESIS AND ACUTE",
  "1d8 LATIN SMALL LETTER U WITH DIAERESIS AND ACUTE;1CAPITAL LETTER U WITH DIAERESIS AND CARON",
  "1da LATIN SMALL LETTER U WITH DIAERESIS AND CARON;1CAPITAL LETTER U WITH DIAERESIS AND GRAVE",
  "1dc LATIN SMALL LETTER U WITH DIAERESIS AND GRAVE;3TURNED E",
  "1de LATIN CAPITAL LETTER A WITH DIAERESIS AND MACRON;1SMALL LETTER A WITH DIAERESIS AND MACRON",
  "1e0 LATIN CAPITAL LETTER A WITH DOT ABOVE AND MACRON;1SMALL LETTER A WITH DOT ABOVE AND MACRON",
  "1e2 LATIN CAPITAL LETTER AE WITH MACRON;1SMALL LETTER AE WITH MACRON",
  "1e4 LATIN CAPITAL LETTER G WITH STROKE;1SMALL LETTER G WITH STROKE;1CAPITAL LETTER G WITH CARON",
  "1e7 LATIN SMALL LETTER G WITH CARON;1CAPITAL LETTER K WITH CARON;1SMALL LETTER K WITH CARON",
  "1ea LATIN CAPITAL LETTER O WITH OGONEK;1SMALL LETTER O WITH OGONEK",
  "1ec LATIN CAPITAL LETTER O WITH OGONEK AND MACRON;1SMALL LETTER O WITH OGONEK AND MACRON",
  "1ee LATIN CAPITAL LETTER EZH WITH CARON;1SMALL LETTER EZH WITH CARON;3J WITH CARON",
  "1f1 LATIN CAPITAL LETTER DZ;3D WITH SMALL LETTER Z;1SMALL LETTER DZ",
  "1f4 LATIN CAPITAL LETTER G WITH ACUTE;1SMALL LETTER G WITH ACUTE;1CAPITAL LETTER HWAIR;3WYNN",
  "1f8 LATIN CAPITAL LETTER N WITH GRAVE;1SMALL LETTER N WITH GRAVE",
  "1fa LATIN CAPITAL LETTER A WITH RING ABOVE AND ACUTE;1SMALL LETTER A WITH RING ABOVE AND ACUTE",
  "1fc LATIN CAPITAL LETTER AE WITH ACUTE;1SMALL LETTER AE WITH ACUTE",
  "1fe LATIN CAPITAL LETTER O WITH STROKE AND ACUTE;1SMALL LETTER O WITH STROKE AND ACUTE",
  "200 LATIN CAPITAL LETTER A WITH DOUBLE GRAVE;1SMALL LETTER A WITH DOUBLE GRAVE",
  "202 LATIN CAPITAL LETTER A WITH INVERTED BREVE;1SMALL LETTER A WITH INVERTED BREVE",
  "204 LATIN CAPITAL LETTER E WITH DOUBLE GRAVE;1SMALL LETTER E WITH DOUBLE GRAVE",
  "206 LATIN CAPITAL LETTER E WITH INVERTED BREVE;1SMALL LETTER E WITH INVERTED BREVE",
  "208 LATIN CAPITAL LETTER I WITH DOUBLE GRAVE;1SMALL LETTER I WITH DOUBLE GRAVE",
  "20a LATIN CAPITAL LETTER I WITH INVERTED BREVE;1SMALL LETTER I WITH INVERTED BREVE",
  "20c LATIN CAPITAL LETTER O WITH DOUBLE GRAVE;1SMALL LETTER O WITH DOUBLE GRAVE",
  "20e LATIN CAPITAL LETTER O WITH INVERTED BREVE;1SMALL LETTER O WITH INVERTED BREVE",
  "210 LATIN CAPITAL LETTER R WITH DOUBLE GRAVE;1SMALL LETTER R WITH DOUBLE GRAVE",
  "212 LATIN CAPITAL LETTER R WITH INVERTED BREVE;1SMALL LETTER R WITH INVERTED BREVE",
  "214 LATIN CAPITAL LETTER U WITH DOUBLE GRAVE;1SMALL LETTER U WITH DOUBLE GRAVE",
  "216 LATIN CAPITAL LETTER U WITH INVERTED BREVE;1SMALL LETTER U WITH INVERTED BREVE",
  "218 LATIN CAPITAL LETTER S WITH COMMA BELOW;1SMALL LETTER S WITH COMMA BELOW",
  "21a LATIN CAPITAL LETTER T WITH COMMA BELOW;1SMALL LETTER T WITH COMMA BELOW",
  "21c LATIN CAPITAL LETTER YOGH;1SMALL LETTER YOGH;1CAPITAL LETTER H WITH CARON",
  "21f LATIN SMALL LETTER H WITH CARON;1CAPITAL LETTER N WITH LONG RIGHT LEG",
  "221 LATIN SMALL LETTER D WITH CURL;1CAPITAL LETTER OU;1SMALL LETTER OU",
  "224 LATIN CAPITAL LETTER Z WITH HOOK;1SMALL LETTER Z WITH HOOK;1CAPITAL LETTER A WITH DOT ABOVE",
  "227 LATIN SMALL LETTER A WITH DOT ABOVE;1CAPITAL LETTER E WITH CEDILLA",
  "229 LATIN SMALL LETTER E WITH CEDILLA;1CAPITAL LETTER O WITH DIAERESIS AND MACRON",
  "22b LATIN SMALL LETTER O WITH DIAERESIS AND MACRON;1CAPITAL LETTER O WITH TILDE AND MACRON",
  "22d LATIN SMALL LETTER O WITH TILDE AND MACRON;1CAPITAL LETTER O WITH DOT ABOVE",
  "22f LATIN SMALL LETTER O WITH DOT ABOVE;1CAPITAL LETTER O WITH DOT ABOVE AND MACRON",
  "231 LATIN SMALL LETTER O WITH DOT ABOVE AND MACRON;1CAPITAL LETTER Y WITH MACRON",
  "233 LATIN SMALL LETTER Y WITH MACRON;3L WITH CURL;3N WITH CURL;3T WITH CURL;3DOTLESS J",
  "238 LATIN SMALL LETTER DB DIGRAPH;3QP DIGRAPH;1CAPITAL LETTER A WITH STROKE;3C WITH STROKE",
  "23c LATIN SMALL LETTER C WITH STROKE;1CAPITAL LETTER L WITH BAR;3T WITH DIAGONAL STROKE",
  "23f LATIN SMALL LETTER S WITH SWASH TAIL;3Z WITH SWASH TAIL;1CAPITAL LETTER GLOTTAL STOP",
  "242 LATIN SMALL LETTER GLOTTAL STOP;1CAPITAL LETTER B WITH STROKE;3U BAR;3TURNED V",
  "246 LATIN CAPITAL LETTER E WITH STROKE;1SMALL LETTER E WITH STROKE",
  "248 LATIN CAPITAL LETTER J WITH STROKE;1SMALL LETTER J WITH STROKE",
  "24a LATIN CAPITAL LETTER SMALL Q WITH HOOK TAIL;1SMALL LETTER Q WITH HOOK TAIL",
  "24c LATIN CAPITAL LETTER R WITH STROKE;1SMALL LETTER R WITH STROKE",
  "24e LATIN CAPITAL LETTER Y WITH STROKE;1SMALL LETTER Y WITH STROKE;3TURNED A;3ALPHA",
  "252 LATIN SMALL LETTER TURNED ALPHA;3B WITH HOOK;3OPEN O;3C WITH CURL;3D WITH TAIL;5HOOK",
  "258 LATIN SMALL LETTER REVERSED E;3SCHWA;4WITH HOOK;3OPEN E;3REVERSED OPEN E;6WITH HOOK",
  "25e LATIN SMALL LETTER CLOSED REVERSED OPEN E;3DOTLESS J WITH STROKE;3G WITH HOOK;3SCRIPT G",
  "262 LATIN LETTER SMALL CAPITAL G;1SMALL LETTER GAMMA;3RAMS HORN;3TURNED H;3H WITH HOOK",
  "267 LATIN SMALL LETTER HENG WITH HOOK;3I WITH STROKE;3IOTA;1LETTER SMALL CAPITAL I",
  "26b LATIN SMALL LETTER L WITH MIDDLE TILDE;5BELT;5RETROFLEX HOOK;3LEZH;3TURNED M;5WITH LONG LEG",
  "271 LATIN SMALL LETTER M WITH HOOK;3N WITH LEFT HOOK;5RETROFLEX HOOK;1LETTER SMALL CAPITAL N",
  "275 LATIN SMALL LETTER BARRED O;1LETTER SMALL CAPITAL OE;1SMALL LETTER CLOSED OMEGA;3PHI",
  "279 LATIN SMALL LETTER TURNED R;5WITH LONG LEG;6HOOK;3R WITH LONG LEG;5TAIL;5FISHHOOK",
  "27f LATIN SMALL LETTER REVERSED R WITH FISHHOOK;1LETTER SMALL CAPITAL R;4INVERTED R",
  "282 LATIN SMALL LETTER S WITH HOOK;3ESH;3DOTLESS J WITH STROKE AND HOOK;3SQUAT REVERSED ESH",
  "286 LATIN SMALL LETTER ESH WITH CURL;3TURNED T;3T WITH RETROFLEX HOOK;3U BAR;3UPSILON",
  "28b LATIN SMALL LETTER V WITH HOOK;3TURNED V;4W;4Y;1LETTER SMALL CAPITAL Y",
  "290 LATIN SMALL LETTER Z WITH RETROFLEX HOOK;5CURL;3EZH;4WITH CURL;1LETTER GLOTTAL STOP",
  "295 LATIN LETTER PHARYNGEAL VOICED FRICATIVE;2INVERTED GLOTTAL STOP;2STRETCHED C",
  "298 LATIN LETTER BILABIAL CLICK;2SMALL CAPITAL B;1SMALL LETTER CLOSED OPEN E",
  "29b LATIN LETTER SMALL CAPITAL G WITH HOOK;4H;1SMALL LETTER J WITH CROSSED-TAIL;3TURNED K",
  "29f LATIN LETTER SMALL CAPITAL L;1SMALL LETTER Q WITH HOOK;1LETTER GLOTTAL STOP WITH STROKE",
  "2a2 LATIN LETTER REVERSED GLOTTAL STOP WITH STROKE;1SMALL LETTER DZ DIGRAPH;3DEZH DIGRAPH",
  "2a5 LATIN SMALL LETTER DZ DIGRAPH WITH CURL;3TS DIGRAPH;3TESH DIGRAPH;3TC DIGRAPH WITH CURL",
  "2a9 LATIN SMALL LETTER FENG DIGRAPH;3LS DIGRAPH;3LZ DIGRAPH;1LETTER BILABIAL PERCUSSIVE",
  "2ad LATIN LETTER BIDENTAL PERCUSSIVE;1SMALL LETTER TURNED H WITH FISHHOOK;7AND TAIL",
  "2b0 MODIFIER LETTER SMALL H;4WITH HOOK;3J;3R;3TURNED R;5WITH HOOK;3CAPITAL INVERTED R;3W;3Y",
  "2b9 MODIFIER LETTER PRIME;2DOUBLE PRIME;2TURNED COMMA;2APOSTROPHE;2REVERSED COMMA",
  "2be MODIFIER LETTER RIGHT HALF RING;2LEFT HALF RING;2GLOTTAL STOP;2REVERSED GLOTTAL STOP",
  "2c2 MODIFIER LETTER LEFT ARROWHEAD;2RIGHT ARROWHEAD;2UP ARROWHEAD;2DOWN ARROWHEAD",
  "2c6 MODIFIER LETTER CIRCUMFLEX ACCENT;0CARON;0MODIFIER LETTER VERTICAL LINE;2MACRON",
  "2ca MODIFIER LETTER ACUTE ACCENT;2GRAVE ACCENT;2LOW VERTICAL LINE;3MACRON;3GRAVE ACCENT",
  "2cf MODIFIER LETTER LOW ACUTE ACCENT;2TRIANGULAR COLON;2HALF TRIANGULAR COLON",
  "2d2 MODIFIER LETTER CENTRED RIGHT HALF RING;3LEFT HALF RING;2UP TACK;2DOWN TACK;2PLUS SIGN",
  "2d7 MODIFIER LETTER MINUS SIGN;0BREVE;0DOT ABOVE;0RING ABOVE;0OGONEK;0SMALL TILDE",
  "2dd DOUBLE ACUTE ACCENT;0MODIFIER LETTER RHOTIC HOOK;2CROSS ACCENT;2SMALL GAMMA;3L;3S;3X",
  "2e4 MODIFIER LETTER SMALL REVERSED GLOTTAL STOP;2EXTRA-HIGH TONE BAR;2HIGH TONE BAR",
  "2e7 MODIFIER LETTER MID TONE BAR;2LOW TONE BAR;2EXTRA-LOW TONE BAR;2YIN DEPARTING TONE MARK",
  "2eb MODIFIER LETTER YANG DEPARTING TONE MARK;2VOICING;2UNASPIRATED;2DOUBLE APOSTROPHE",
  "2ef MODIFIER LETTER LOW DOWN ARROWHEAD;3UP ARROWHEAD;3LEFT ARROWHEAD;3RIGHT ARROWHEAD;3RING",
  "2f4 MODIFIER LETTER MIDDLE GRAVE ACCENT;3DOUBLE GRAVE ACCENT;4ACUTE ACCENT;2LOW TILDE",
  "2f8 MODIFIER LETTER RAISED COLON;2BEGIN HIGH TONE;2END HIGH TONE;2BEGIN LOW TONE;2END LOW TONE",
  "2fd MODIFIER LETTER SHELF;2OPEN SHELF;2LOW LEFT ARROW;0COMBINING GRAVE ACCENT;1ACUTE ACCENT",
  "302 COMBINING CIRCUMFLEX ACCENT;1TILDE;1MACRON;1OVERLINE;1BREVE;1DOT ABOVE;1DIAERESIS",
  "309 COMBINING HOOK ABOVE;1RING ABOVE;1DOUBLE ACUTE ACCENT;1CARON;1VERTICAL LINE ABOVE",
  "30e COMBINING DOUBLE VERTICAL LINE ABOVE;2GRAVE ACCENT;1CANDRABINDU;1INVERTED BREVE",
  "312 COMBINING TURNED COMMA ABOVE;1COMMA ABOVE;1REVERSED COMMA ABOVE;1COMMA ABOVE RIGHT",
  "316 COMBINING GRAVE ACCENT BELOW;1ACUTE ACCENT BELOW;1LEFT TACK BELOW;1RIGHT TACK BELOW",
  "31a COMBINING LEFT ANGLE ABOVE;1HORN;1LEFT HALF RING BELOW;1UP TACK BELOW;1DOWN TACK BELOW",
  "31f COMBINING PLUS SIGN BELOW;1MINUS SIGN BELOW;1PALATALIZED HOOK BELOW;1RETROFLEX HOOK BELOW",
  "323 COMBINING DOT BELOW;1DIAERESIS BELOW;1RING BELOW;1COMMA BELOW;1CEDILLA;1OGONEK",
  "329 COMBINING VERTICAL LINE BELOW;1BRIDGE BELOW;1INVERTED DOUBLE ARCH BELOW;1CARON BELOW",
  "32d COMBINING CIRCUMFLEX ACCENT BELOW;1BREVE BELOW;1INVERTED BREVE BELOW;1TILDE BELOW",
  "331 COMBINING MACRON BELOW;1LOW LINE;1DOUBLE LOW LINE;1TILDE OVERLAY;1SHORT STROKE OVERLAY",
  "336 COMBINING LONG STROKE OVERLAY;1SHORT SOLIDUS OVERLAY;1LONG SOLIDUS OVERLAY",
  "339 COMBINING RIGHT HALF RING BELOW;1INVERTED BRIDGE BELOW;1SQUARE BELOW;1SEAGULL BELOW",
  "33d COMBINING X ABOVE;1VERTICAL TILDE;1DOUBLE OVERLINE;1GRAVE TONE MARK;1ACUTE TONE MARK",
  "342 COMBINING GREEK PERISPOMENI;2KORONIS;2DIALYTIKA TONOS;2YPOGEGRAMMENI;1BRIDGE ABOVE",
  "347 COMBINING EQUALS SIGN BELOW;1DOUBLE VERTICAL LINE BELOW;1LEFT ANGLE BELOW;1NOT TILDE ABOVE",
  "34b COMBINING HOMOTHETIC ABOVE;1ALMOST EQUAL TO ABOVE;1LEFT RIGHT ARROW BELOW",
  "34e COMBINING UPWARDS ARROW BELOW;1GRAPHEME JOINER;1RIGHT ARROWHEAD ABOVE;1LEFT HALF RING ABOVE",
  "352 COMBINING FERMATA;1X BELOW;1LEFT ARROWHEAD BELOW;1RIGHT ARROWHEAD BELOW",
  "356 COMBINING RIGHT ARROWHEAD AND UP ARROWHEAD BELOW;2HALF RING ABOVE;1DOT ABOVE RIGHT",
  "359 COMBINING ASTERISK BELOW;1DOUBLE RING BELOW;1ZIGZAG ABOVE;1DOUBLE BREVE BELOW;2BREVE",
  "35e COMBINING DOUBLE MACRON;3BELOW;2TILDE;2INVERTED BREVE;2RIGHTWARDS ARROW BELOW",
  "363 COMBINING LATIN SMALL LETTER A;4E;4I;4O;4U;4C;4D;4H;4M;4R;4T;4V;4X",
  "370 GREEK CAPITAL LETTER HETA;1SMALL LETTER HETA;1CAPITAL LETTER ARCHAIC SAMPI",
  "373 GREEK SMALL LETTER ARCHAIC SAMPI;1NUMERAL SIGN;1LOWER NUMERAL SIGN",
  "376 GREEK CAPITAL LETTER PAMPHYLIAN DIGAMMA;1SMALL LETTER PAMPHYLIAN DIGAMMA",
  "37a GREEK YPOGEGRAMMENI;1SMALL REVERSED LUNATE SIGMA SYMBOL;2DOTTED LUNATE SIGMA SYMBOL",
  "37d GREEK SMALL REVERSED DOTTED LUNATE SIGMA SYMBOL;1QUESTION MARK;1CAPITAL LETTER YOT",
  "384 GREEK TONOS;1DIALYTIKA TONOS;1CAPITAL LETTER ALPHA WITH TONOS;1ANO TELEIA",
  "388 GREEK CAPITAL LETTER EPSILON WITH TONOS;3ETA WITH TONOS;3IOTA WITH TONOS",
  "38c GREEK CAPITAL LETTER OMICRON WITH TONOS",
  "38e GREEK CAPITAL LETTER UPSILON WITH TONOS;3OMEGA WITH TONOS",
  "390 GREEK SMALL LETTER IOTA WITH DIALYTIKA AND TONOS;1CAPITAL LETTER ALPHA;3BETA;3GAMMA;3DELTA",
  "395 GREEK CAPITAL LETTER EPSILON;3ZETA;3ETA;3THETA;3IOTA;3KAPPA;3LAMDA;3MU;3NU;3XI;3OMICRON;3PI",
  "3a1 GREEK CAPITAL LETTER RHO",
  "3a3 GREEK CAPITAL LETTER SIGMA;3TAU;3UPSILON;3PHI;3CHI;3PSI;3OMEGA;3IOTA WITH DIALYTIKA",
  "3ab GREEK CAPITAL LETTER UPSILON WITH DIALYTIKA;1SMALL LETTER ALPHA WITH TONOS",
  "3ad GREEK SMALL LETTER EPSILON WITH TONOS;3ETA WITH TONOS;3IOTA WITH TONOS",
  "3b0 GREEK SMALL LETTER UPSILON WITH DIALYTIKA AND TONOS;3ALPHA;3BETA;3GAMMA;3DELTA;3EPSILON",
  "3b6 GREEK SMALL LETTER ZETA;3ETA;3THETA;3IOTA;3KAPPA;3LAMDA;3MU;3NU;3XI;3OMICRON;3PI;3RHO",
  "3c2 GREEK SMALL LETTER FINAL SIGMA;3SIGMA;3TAU;3UPSILON;3PHI;3CHI;3PSI;3OMEGA",
  "3ca GREEK SMALL LETTER IOTA WITH DIALYTIKA;3UPSILON WITH DIALYTIKA;3OMICRON WITH TONOS",
  "3cd GREEK SMALL LETTER UPSILON WITH TONOS;3OMEGA WITH TONOS;1CAPITAL KAI SYMBOL;1BETA SYMBOL",
  "3d1 GREEK THETA SYMBOL;1UPSILON WITH HOOK SYMBOL;3ACUTE AND HOOK SYMBOL",
  "3d4 GREEK UPSILON WITH DIAERESIS AND HOOK SYMBOL;1PHI SYMBOL;1PI SYMBOL;1KAI SYMBOL",
  "3d8 GREEK LETTER ARCHAIC KOPPA;1SMALL LETTER ARCHAIC KOPPA;1LETTER STIGMA;1SMALL LETTER STIGMA",
  "3dc GREEK LETTER DIGAMMA;1SMALL LETTER DIGAMMA;1LETTER KOPPA;1SMALL LETTER KOPPA;1LETTER SAMPI",
  "3e1 GREEK SMALL LETTER SAMPI;0COPTIC CAPITAL LETTER SHEI;1SMALL LETTER SHEI;1CAPITAL LETTER FEI",
  "3e5 COPTIC SMALL LETTER FEI;1CAPITAL LETTER KHEI;1SMALL LETTER KHEI;1CAPITAL LETTER HORI",
  "3e9 COPTIC SMALL LETTER HORI;1CAPITAL LETTER GANGIA;1SMALL LETTER GANGIA;1CAPITAL LETTER SHIMA",
  "3ed COPTIC SMALL LETTER SHIMA;1CAPITAL LETTER DEI;1SMALL LETTER DEI;0GREEK KAPPA SYMBOL",
  "3f1 GREEK RHO SYMBOL;1LUNATE SIGMA SYMBOL;1LETTER YOT;1CAPITAL THETA SYMBOL",
  "3f5 GREEK LUNATE EPSILON SYMBOL;1REVERSED LUNATE EPSILON SYMBOL;1CAPITAL LETTER SHO",
  "3f8 GREEK SMALL LETTER SHO;1CAPITAL LUNATE SIGMA SYMBOL;2LETTER SAN;1SMALL LETTER SAN",
  "3fc GREEK RHO WITH STROKE SYMBOL;1CAPITAL REVERSED LUNATE SIGMA SYMBOL",
  "3fe GREEK CAPITAL DOTTED LUNATE SIGMA SYMBOL;2REVERSED DOTTED LUNATE SIGMA SYMBOL",
  "400 CYRILLIC CAPITAL LETTER IE WITH GRAVE;3IO;3DJE;3GJE;3UKRAINIAN IE;3DZE",
  "406 CYRILLIC CAPITAL LETTER BYELORUSSIAN-UKRAINIAN I;3YI;3JE;3LJE;3NJE;3TSHE;3KJE;3I WITH GRAVE",
  "40e CYRILLIC CAPITAL LETTER SHORT U;3DZHE;3A;3BE;3VE;3GHE;3DE;3IE;3ZHE;3ZE;3I;3SHORT I;3KA;3EL",
  "41c CYRILLIC CAPITAL LETTER EM;3EN;3O;3PE;3ER;3ES;3TE;3U;3EF;3HA;3TSE;3CHE;3SHA;3SHCHA",
  "42a CYRILLIC CAPITAL LETTER HARD SIGN;3YERU;3SOFT SIGN;3E;3YU;3YA;1SMALL LETTER A;3BE;3VE;3GHE",
  "434 CYRILLIC SMALL LETTER DE;3IE;3ZHE;3ZE;3I;3SHORT I;3KA;3EL;3EM;3EN;3O;3PE;3ER;3ES;3TE;3U;3EF",
  "445 CYRILLIC SMALL LETTER HA;3TSE;3CHE;3SHA;3SHCHA;3HARD SIGN;3YERU;3SOFT SIGN;3E;3YU;3YA",
  "450 CYRILLIC SMALL LETTER IE WITH GRAVE;3IO;3DJE;3GJE;3UKRAINIAN IE;3DZE",
  "456 CYRILLIC SMALL LETTER BYELORUSSIAN-UKRAINIAN I;3YI;3JE;3LJE;3NJE;3TSHE;3KJE;3I WITH GRAVE",
  "45e CYRILLIC SMALL LETTER SHORT U;3DZHE;1CAPITAL LETTER OMEGA;1SMALL LETTER OMEGA",
  "462 CYRILLIC CAPITAL LETTER YAT;1SMALL LETTER YAT;1CAPITAL LETTER IOTIFIED E",
  "465 CYRILLIC SMALL LETTER IOTIFIED E;1CAPITAL LETTER LITTLE YUS;1SMALL LETTER LITTLE YUS",
  "468 CYRILLIC CAPITAL LETTER IOTIFIED LITTLE YUS;1SMALL LETTER IOTIFIED LITTLE YUS",
  "46a CYRILLIC CAPITAL LETTER BIG YUS;1SMALL LETTER BIG YUS;1CAPITAL LETTER IOTIFIED BIG YUS",
  "46d CYRILLIC SMALL LETTER IOTIFIED BIG YUS;1CAPITAL LETTER KSI;1SMALL LETTER KSI",
  "470 CYRILLIC CAPITAL LETTER PSI;1SMALL LETTER PSI;1CAPITAL LETTER FITA;1SMALL LETTER FITA",
  "474 CYRILLIC CAPITAL LETTER IZHITSA;1SMALL LETTER IZHITSA",
  "476 CYRILLIC CAPITAL LETTER IZHITSA WITH DOUBLE GRAVE ACCENT",
  "477 CYRILLIC SMALL LETTER IZHITSA WITH DOUBLE GRAVE ACCENT;1CAPITAL LETTER UK;1SMALL LETTER UK",
  "47a CYRILLIC CAPITAL LETTER ROUND OMEGA;1SMALL LETTER ROUND OMEGA",
  "47c CYRILLIC CAPITAL LETTER OMEGA WITH TITLO;1SMALL LETTER OMEGA WITH TITLO;1CAPITAL LETTER OT",
  "47f CYRILLIC SMALL LETTER OT;1CAPITAL LETTER KOPPA;1SMALL LETTER KOPPA;1THOUSANDS SIGN",
  "483 COMBINING CYRILLIC TITLO;2PALATALIZATION;2DASIA PNEUMATA;2PSILI PNEUMATA;2POKRYTIE",
  "488 COMBINING CYRILLIC HUNDRED THOUSANDS SIGN;2MILLIONS SIGN",
  "48a CYRILLIC CAPITAL LETTER SHORT I WITH TAIL;1SMALL LETTER SHORT I WITH TAIL",
  "48c CYRILLIC CAPITAL LETTER SEMISOFT SIGN;1SMALL LETTER SEMISOFT SIGN",
  "48e CYRILLIC CAPITAL LETTER ER WITH TICK;1SMALL LETTER ER WITH TICK",
  "490 CYRILLIC CAPITAL LETTER GHE WITH UPTURN;1SMALL LETTER GHE WITH UPTURN",
  "492 CYRILLIC CAPITAL LETTER GHE WITH STROKE;1SMALL LETTER GHE WITH STROKE",
  "494 CYRILLIC CAPITAL LETTER GHE WITH MIDDLE HOOK;1SMALL LETTER GHE WITH MIDDLE HOOK",
  "496 CYRILLIC CAPITAL LETTER ZHE WITH DESCENDER;1SMALL LETTER ZHE WITH DESCENDER",
  "498 CYRILLIC CAPITAL LETTER ZE WITH DESCENDER;1SMALL LETTER ZE WITH DESCENDER",
  "49a CYRILLIC CAPITAL LETTER KA WITH DESCENDER;1SMALL LETTER KA WITH DESCENDER",
  "49c CYRILLIC CAPITAL LETTER KA WITH VERTICAL STROKE;1SMALL LETTER KA WITH VERTICAL STROKE",
  "49e CYRILLIC CAPITAL LETTER KA WITH STROKE;1SMALL LETTER KA WITH STROKE",
  "4a0 CYRILLIC CAPITAL LETTER BASHKIR KA;1SMALL LETTER BASHKIR KA",
  "4a2 CYRILLIC CAPITAL LETTER EN WITH DESCENDER;1SMALL LETTER EN WITH DESCENDER",
  "4a4 CYRILLIC CAPITAL LIGATURE EN GHE;1SMALL LIGATURE EN GHE;1CAPITAL LETTER PE WITH MIDDLE HOOK",
  "4a7 CYRILLIC SMALL LETTER PE WITH MIDDLE HOOK;1CAPITAL LETTER ABKHASIAN HA",
  "4a9 CYRILLIC SMALL LETTER ABKHASIAN HA;1CAPITAL LETTER ES WITH DESCENDER",
  "4ab CYRILLIC SMALL LETTER ES WITH DESCENDER;1CAPITAL LETTER TE WITH DESCENDER",
  "4ad CYRILLIC SMALL LETTER TE WITH DESCENDER;1CAPITAL LETTER STRAIGHT U;1SMALL LETTER STRAIGHT U",
  "4b0 CYRILLIC CAPITAL LETTER STRAIGHT U WITH STROKE;1SMALL LETTER STRAIGHT U WITH STROKE",
  "4b2 CYRILLIC CAPITAL LETTER HA WITH DESCENDER;1SMALL LETTER HA WITH DESCENDER",
  "4b4 CYRILLIC CAPITAL LIGATURE TE TSE;1SMALL LIGATURE TE TSE;1CAPITAL LETTER CHE WITH DESCENDER",
  "4b7 CYRILLIC SMALL LETTER CHE WITH DESCENDER;1CAPITAL LETTER CHE WITH VERTICAL STROKE",
  "4b9 CYRILLIC SMALL LETTER CHE WITH VERTICAL STROKE;1CAPITAL LETTER SHHA;1SMALL LETTER SHHA",
  "4bc CYRILLIC CAPITAL LETTER ABKHASIAN CHE;1SMALL LETTER ABKHASIAN CHE",
  "4be CYRILLIC CAPITAL LETTER ABKHASIAN CHE WITH DESCENDER",
  "4bf CYRILLIC SMALL LETTER ABKHASIAN CHE WITH DESCENDER;1LETTER PALOCHKA",
  "4c1 CYRILLIC CAPITAL LETTER ZHE WITH BREVE;1SMALL LETTER ZHE WITH BREVE",
  "4c3 CYRILLIC CAPITAL LETTER KA WITH HOOK;1SMALL LETTER KA WITH HOOK",
  "4c5 CYRILLIC CAPITAL LETTER EL WITH TAIL;1SMALL LETTER EL WITH TAIL",
  "4c7 CYRILLIC CAPITAL LETTER EN WITH HOOK;1SMALL LETTER EN WITH HOOK",
  "4c9 CYRILLIC CAPITAL LETTER EN WITH TAIL;1SMALL LETTER EN WITH TAIL",
  "4cb CYRILLIC CAPITAL LETTER KHAKASSIAN CHE;1SMALL LETTER KHAKASSIAN CHE",
  "4cd CYRILLIC CAPITAL LETTER EM WITH TAIL;1SMALL LETTER EM WITH TAIL;3PALOCHKA",
  "4d0 CYRILLIC CAPITAL LETTER A WITH BREVE;1SMALL LETTER A WITH BREVE",
  "4d2 CYRILLIC CAPITAL LETTER A WITH DIAERESIS;1SMALL LETTER A WITH DIAERESIS",
  "4d4 CYRILLIC CAPITAL LIGATURE A IE;1SMALL LIGATURE A IE;1CAPITAL LETTER IE WITH BREVE",
  "4d7 CYRILLIC SMALL LETTER IE WITH BREVE;1CAPITAL LETTER SCHWA;1SMALL LETTER SCHWA",
  "4da CYRILLIC CAPITAL LETTER SCHWA WITH DIAERESIS;1SMALL LETTER SCHWA WITH DIAERESIS",
  "4dc CYRILLIC CAPITAL LETTER ZHE WITH DIAERESIS;1SMALL LETTER ZHE WITH DIAERESIS",
  "4de CYRILLIC CAPITAL LETTER ZE WITH DIAERESIS;1SMALL LETTER ZE WITH DIAERESIS",
  "4e0 CYRILLIC CAPITAL LETTER ABKHASIAN DZE;1SMALL LETTER ABKHASIAN DZE",
  "4e2 CYRILLIC CAPITAL LETTER I WITH MACRON;1SMALL LETTER I WITH MACRON",
  "4e4 CYRILLIC CAPITAL LETTER I WITH DIAERESIS;1SMALL LETTER I WITH DIAERESIS",
  "4e6 CYRILLIC CAPITAL LETTER O WITH DIAERESIS;1SMALL LETTER O WITH DIAERESIS",
  "4e8 CYRILLIC CAPITAL LETTER BARRED O;1SMALL LETTER BARRED O",
  "4ea CYRILLIC CAPITAL LETTER BARRED O WITH DIAERESIS;1SMALL LETTER BARRED O WITH DIAERESIS",
  "4ec CYRILLIC CAPITAL LETTER E WITH DIAERESIS;1SMALL LETTER E WITH DIAERESIS",
  "4ee CYRILLIC CAPITAL LETTER U WITH MACRON;1SMALL LETTER U WITH MACRON",
  "4f0 CYRILLIC CAPITAL LETTER U WITH DIAERESIS;1SMALL LETTER U WITH DIAERESIS",
  "4f2 CYRILLIC CAPITAL LETTER U WITH DOUBLE ACUTE;1SMALL LETTER U WITH DOUBLE ACUTE",
  "4f4 CYRILLIC CAPITAL LETTER CHE WITH DIAERESIS;1SMALL LETTER CHE WITH DIAERESIS",
  "4f6 CYRILLIC CAPITAL LETTER GHE WITH DESCENDER;1SMALL LETTER GHE WITH DESCENDER",
  "4f8 CYRILLIC CAPITAL LETTER YERU WITH DIAERESIS;1SMALL LETTER YERU WITH DIAERESIS",
  "4fa CYRILLIC CAPITAL LETTER GHE WITH STROKE AND HOOK;1SMALL LETTER GHE WITH STROKE AND HOOK",
  "4fc CYRILLIC CAPITAL LETTER HA WITH HOOK;1SMALL LETTER HA WITH HOOK",
  "4fe CYRILLIC CAPITAL LETTER HA WITH STROKE;1SMALL LETTER HA WITH STROKE;1CAPITAL LETTER KOMI DE",
  "501 CYRILLIC SMALL LETTER KOMI DE;1CAPITAL LETTER KOMI DJE;1SMALL LETTER KOMI DJE",
  "504 CYRILLIC CAPITAL LETTER KOMI ZJE;1SMALL LETTER KOMI ZJE;1CAPITAL LETTER KOMI DZJE",
  "507 CYRILLIC SMALL LETTER KOMI DZJE;1CAPITAL LETTER KOMI LJE;1SMALL LETTER KOMI LJE",
  "50a CYRILLIC CAPITAL LETTER KOMI NJE;1SMALL LETTER KOMI NJE;1CAPITAL LETTER KOMI SJE",
  "50d CYRILLIC SMALL LETTER KOMI SJE;1CAPITAL LETTER KOMI TJE;1SMALL LETTER KOMI TJE",
  "510 CYRILLIC CAPITAL LETTER REVERSED ZE;1SMALL LETTER REVERSED ZE;1CAPITAL LETTER EL WITH HOOK",
  "513 CYRILLIC SMALL LETTER EL WITH HOOK;1CAPITAL LETTER LHA;1SMALL LETTER LHA",
  "516 CYRILLIC CAPITAL LETTER RHA;1SMALL LETTER RHA;1CAPITAL LETTER YAE;1SMALL LETTER YAE",
  "51a CYRILLIC CAPITAL LETTER QA;1SMALL LETTER QA;1CAPITAL LETTER WE;1SMALL LETTER WE",
  "51e CYRILLIC CAPITAL LETTER ALEUT KA;1SMALL LETTER ALEUT KA;1CAPITAL LETTER EL WITH MIDDLE HOOK",
  "521 CYRILLIC SMALL LETTER EL WITH MIDDLE HOOK;1CAPITAL LETTER EN WITH MIDDLE HOOK",
  "523 CYRILLIC SMALL LETTER EN WITH MIDDLE HOOK;1CAPITAL LETTER PE WITH DESCENDER",
  "525 CYRILLIC SMALL LETTER PE WITH DESCENDER;1CAPITAL LETTER SHHA WITH DESCENDER",
  "527 CYRILLIC SMALL LETTER SHHA WITH DESCENDER;1CAPITAL LETTER EN WITH LEFT HOOK",
  "529 CYRILLIC SMALL LETTER EN WITH LEFT HOOK;1CAPITAL LETTER DZZHE;1SMALL LETTER DZZHE",
  "52c CYRILLIC CAPITAL LETTER DCHE;1SMALL LETTER DCHE;1CAPITAL LETTER EL WITH DESCENDER",
  "52f CYRILLIC SMALL LETTER EL WITH DESCENDER",
  "531 ARMENIAN CAPITAL LETTER AYB;3BEN;3GIM;3DA;3ECH;3ZA;3EH;3ET;3TO;3ZHE;3INI;3LIWN;3XEH;3CA",
  "53f ARMENIAN CAPITAL LETTER KEN;3HO;3JA;3GHAD;3CHEH;3MEN;3YI;3NOW;3SHA;3VO;3CHA;3PEH;3JHEH;3RA",
  "54d ARMENIAN CAPITAL LETTER SEH;3VEW;3TIWN;3REH;3CO;3YIWN;3PIWR;3KEH;3OH;3FEH",
  "559 ARMENIAN MODIFIER LETTER LEFT HALF RING;1APOSTROPHE;1EMPHASIS MARK;1EXCLAMATION MARK;1COMMA",
  "55e ARMENIAN QUESTION MARK;1ABBREVIATION MARK;1SMALL LETTER TURNED AYB;3AYB;3BEN;3GIM;3DA;3ECH",
  "566 ARMENIAN SMALL LETTER ZA;3EH;3ET;3TO;3ZHE;3INI;3LIWN;3XEH;3CA;3KEN;3HO;3JA;3GHAD;3CHEH;3MEN",
  "575 ARMENIAN SMALL LETTER YI;3NOW;3SHA;3VO;3CHA;3PEH;3JHEH;3RA;3SEH;3VEW;3TIWN;3REH;3CO;3YIWN",
  "583 ARMENIAN SMALL LETTER PIWR;3KEH;3OH;3FEH;2LIGATURE ECH YIWN;2LETTER YI WITH STROKE",
  "589 ARMENIAN FULL STOP;1HYPHEN",
  "58d RIGHT-FACING ARMENIAN ETERNITY SIGN;0LEFT-FACING ARMENIAN ETERNITY SIGN;0ARMENIAN DRAM SIGN",
  "591 HEBREW ACCENT ETNAHTA;2SEGOL;2SHALSHELET;2ZAQEF QATAN;3GADOL;2TIPEHA;2REVIA;2ZARQA;2PASHTA",
  "59a HEBREW ACCENT YETIV;2TEVIR;2GERESH;3MUQDAM;2GERSHAYIM;2QARNEY PARA;2TELISHA GEDOLA;2PAZER",
  "5a2 HEBREW ACCENT ATNAH HAFUKH;2MUNAH;2MAHAPAKH;2MERKHA;3KEFULA;2DARGA;2QADMA;2TELISHA QETANA",
  "5aa HEBREW ACCENT YERAH BEN YOMO;2OLE;2ILUY;2DEHI;2ZINOR;1MARK MASORA CIRCLE;1POINT SHEVA",
  "5b1 HEBREW POINT HATAF SEGOL;3PATAH;3QAMATS;2HIRIQ;2TSERE;2SEGOL;2PATAH;2QAMATS;2HOLAM",
  "5ba HEBREW POINT HOLAM HASER FOR VAV;2QUBUTS;2DAGESH OR MAPIQ;2METEG;1PUNCTUATION MAQAF",
  "5bf HEBREW POINT RAFE;1PUNCTUATION PASEQ;1POINT SHIN DOT;2SIN DOT;1PUNCTUATION SOF PASUQ",
  "5c4 HEBREW MARK UPPER DOT;2LOWER DOT;1PUNCTUATION NUN HAFUKHA;1POINT QAMATS QATAN",
  "5d0 HEBREW LETTER ALEF;2BET;2GIMEL;2DALET;2HE;2VAV;2ZAYIN;2HET;2TET;2YOD;2FINAL KAF;2KAF;2LAMED",
  "5dd HEBREW LETTER FINAL MEM;2MEM;2FINAL NUN;2NUN;2SAMEKH;2AYIN;2FINAL PE;2PE;2FINAL TSADI",
  "5e6 HEBREW LETTER TSADI;2QOF;2RESH;2SHIN;2TAV",
  "5ef HEBREW YOD TRIANGLE;1LIGATURE YIDDISH DOUBLE VAV;3VAV YOD;3DOUBLE YOD;1PUNCTUATION GERESH",
  "5f4 HEBREW PUNCTUATION GERSHAYIM",
  "600 ARABIC NUMBER SIGN;1SIGN SANAH;1FOOTNOTE MARKER;1SIGN SAFHA;2SAMVAT;1NUMBER MARK ABOVE",
  "606 ARABIC-INDIC CUBE ROOT;1FOURTH ROOT;0ARABIC RAY;0ARABIC-INDIC PER MILLE SIGN",
  "60a ARABIC-INDIC PER TEN THOUSAND SIGN;0AFGHANI SIGN;0ARABIC COMMA;1DATE SEPARATOR",
  "60e ARABIC POETIC VERSE SIGN;1SIGN MISRA;2SALLALLAHOU ALAYHE WASSALLAM;2ALAYHE ASSALLAM",
  "612 ARABIC SIGN RAHMATULLAH ALAYHE;2RADI ALLAHOU ANHU;2TAKHALLUS;1SMALL HIGH TAH",
  "616 ARABIC SMALL HIGH LIGATURE ALEF WITH LAM WITH YEH;3ZAIN;2FATHA;2DAMMA;2KASRA;1SEMICOLON",
  "61c ARABIC LETTER MARK;1END OF TEXT MARK;1TRIPLE DOT PUNCTUATION MARK;1QUESTION MARK",
  "620 ARABIC LETTER KASHMIRI YEH;2HAMZA;2ALEF WITH MADDA ABOVE;4HAMZA ABOVE;2WAW WITH HAMZA ABOVE",
  "625 ARABIC LETTER ALEF WITH HAMZA BELOW;2YEH WITH HAMZA ABOVE;2ALEF;2BEH;2TEH MARBUTA;2TEH",
  "62b ARABIC LETTER THEH;2JEEM;2HAH;2KHAH;2DAL;2THAL;2REH;2ZAIN;2SEEN;2SHEEN;2SAD;2DAD;2TAH;2ZAH",
  "639 ARABIC LETTER AIN;2GHAIN;2KEHEH WITH TWO DOTS ABOVE;4THREE DOTS BELOW",
  "63d ARABIC LETTER FARSI YEH WITH INVERTED V;5TWO DOTS ABOVE;5THREE DOTS ABOVE;1TATWEEL",
  "641 ARABIC LETTER FEH;2QAF;2KAF;2LAM;2MEEM;2NOON;2HEH;2WAW;2ALEF MAKSURA;2YEH;1FATHATAN",
  "64c ARABIC DAMMATAN;1KASRATAN;1FATHA;1DAMMA;1KASRA;1SHADDA;1SUKUN;1MADDAH ABOVE;1HAMZA ABOVE",
  "655 ARABIC HAMZA BELOW;1SUBSCRIPT ALEF;1INVERTED DAMMA;1MARK NOON GHUNNA;1ZWARAKAY",
  "65a ARABIC VOWEL SIGN SMALL V ABOVE;3INVERTED SMALL V ABOVE;3DOT BELOW;1REVERSED DAMMA",
  "65e ARABIC FATHA WITH TWO DOTS;1WAVY HAMZA BELOW;0ARABIC-INDIC DIGIT ZERO;2ONE;2TWO;2THREE",
  "664 ARABIC-INDIC DIGIT FOUR;2FIVE;2SIX;2SEVEN;2EIGHT;2NINE;0ARABIC PERCENT SIGN",
  "66b ARABIC DECIMAL SEPARATOR;1THOUSANDS SEPARATOR;1FIVE POINTED STAR;1LETTER DOTLESS BEH;3QAF",
  "670 ARABIC LETTER SUPERSCRIPT ALEF;2ALEF WASLA;3WITH WAVY HAMZA ABOVE;6BELOW;2HIGH HAMZA;4ALEF",
  "676 ARABIC LETTER HIGH HAMZA WAW;2U WITH HAMZA ABOVE;2HIGH HAMZA YEH;2TTEH;2TTEHEH;2BEEH",
  "67c ARABIC LETTER TEH WITH RING;4THREE DOTS ABOVE DOWNWARDS;2PEH;2TEHEH;2BEHEH",
  "681 ARABIC LETTER HAH WITH HAMZA ABOVE;4TWO DOTS VERTICAL ABOVE;2NYEH;2DYEH",
  "685 ARABIC LETTER HAH WITH THREE DOTS ABOVE;2TCHEH;2TCHEHEH;2DDAL;2DAL WITH RING;4DOT BELOW",
  "68b ARABIC LETTER DAL WITH DOT BELOW AND SMALL TAH;2DAHAL;2DDAHAL;2DUL",
  "68f ARABIC LETTER DAL WITH THREE DOTS ABOVE DOWNWARDS;4FOUR DOTS ABOVE;2RREH;2REH WITH SMALL V",
  "693 ARABIC LETTER REH WITH RING;4DOT BELOW;4SMALL V BELOW;4DOT BELOW AND DOT ABOVE",
  "697 ARABIC LETTER REH WITH TWO DOTS ABOVE;2JEH;2REH WITH FOUR DOTS ABOVE",
  "69a ARABIC LETTER SEEN WITH DOT BELOW AND DOT ABOVE;4THREE DOTS BELOW;7AND THREE DOTS ABOVE",
  "69d ARABIC LETTER SAD WITH TWO DOTS BELOW;4THREE DOTS ABOVE;2TAH WITH THREE DOTS ABOVE",
  "6a0 ARABIC LETTER AIN WITH THREE DOTS ABOVE;2DOTLESS FEH;2FEH WITH DOT MOVED BELOW;5BELOW;2VEH",
  "6a5 ARABIC LETTER FEH WITH THREE DOTS BELOW;2PEHEH;2QAF WITH DOT ABOVE;4THREE DOTS ABOVE;2KEHEH",
  "6aa ARABIC LETTER SWASH KAF;2KAF WITH RING;4DOT ABOVE;2NG;2KAF WITH THREE DOTS BELOW;2GAF",
  "6b0 ARABIC LETTER GAF WITH RING;2NGOEH;2GAF WITH TWO DOTS BELOW;2GUEH",
  "6b4 ARABIC LETTER GAF WITH THREE DOTS ABOVE;2LAM WITH SMALL V;4DOT ABOVE;4THREE DOTS ABOVE",
  "6b8 ARABIC LETTER LAM WITH THREE DOTS BELOW;2NOON WITH DOT BELOW;3GHUNNA;2RNOON;2NOON WITH RING",
  "6bd ARABIC LETTER NOON WITH THREE DOTS ABOVE;2HEH DOACHASHMEE;2TCHEH WITH DOT ABOVE",
  "6c0 ARABIC LETTER HEH WITH YEH ABOVE;3GOAL;4WITH HAMZA ABOVE;2TEH MARBUTA GOAL;2WAW WITH RING",
  "6c5 ARABIC LETTER KIRGHIZ OE;2OE;2U;2YU;2KIRGHIZ YU;2WAW WITH TWO DOTS ABOVE;2VE;2FARSI YEH",
  "6cd ARABIC LETTER YEH WITH TAIL;4SMALL V;2WAW WITH DOT ABOVE;2E;2YEH WITH THREE DOTS BELOW",
  "6d2 ARABIC LETTER YEH BARREE;4WITH HAMZA ABOVE;1FULL STOP;1LETTER AE",
  "6d6 ARABIC SMALL HIGH LIGATURE SAD WITH LAM WITH ALEF MAKSURA;4QAF WITH LAM WITH ALEF MAKSURA",
  "6d8 ARABIC SMALL HIGH MEEM INITIAL FORM;3LAM ALEF;3JEEM;3THREE DOTS;3SEEN;1END OF AYAH",
  "6de ARABIC START OF RUB EL HIZB;1SMALL HIGH ROUNDED ZERO;3UPRIGHT RECTANGULAR ZERO",
  "6e1 ARABIC SMALL HIGH DOTLESS HEAD OF KHAH;3MEEM ISOLATED FORM;2LOW SEEN;2HIGH MADDA;2WAW;2YEH",
  "6e7 ARABIC SMALL HIGH YEH;3NOON;1PLACE OF SAJDAH;1EMPTY CENTRE LOW STOP;3HIGH STOP",
  "6ec ARABIC ROUNDED HIGH STOP WITH FILLED CENTRE;1SMALL LOW MEEM;1LETTER DAL WITH INVERTED V",
  "6ef ARABIC LETTER REH WITH INVERTED V;0EXTENDED ARABIC-INDIC DIGIT ZERO;3ONE;3TWO;3THREE;3FOUR",
  "6f5 EXTENDED ARABIC-INDIC DIGIT FIVE;3SIX;3SEVEN;3EIGHT;3NINE",
  "6fa ARABIC LETTER SHEEN WITH DOT BELOW;2DAD WITH DOT BELOW;2GHAIN WITH DOT BELOW",
  "6fd ARABIC SIGN SINDHI AMPERSAND;3POSTPOSITION MEN;1LETTER HEH WITH INVERTED V",
  "700 SYRIAC END OF PARAGRAPH;1SUPRALINEAR FULL STOP;1SUBLINEAR FULL STOP;1SUPRALINEAR COLON",
  "704 SYRIAC SUBLINEAR COLON;1HORIZONTAL COLON;1COLON SKEWED LEFT;3RIGHT",
  "708 SYRIAC SUPRALINEAR COLON SKEWED LEFT;1SUBLINEAR COLON SKEWED RIGHT;1CONTRACTION",
  "70b SYRIAC HARKLEAN OBELUS;2METOBELUS;2ASTERISCUS",
  "70f SYRIAC ABBREVIATION MARK;1LETTER ALAPH;2SUPERSCRIPT ALAPH;2BETH;2GAMAL;3GARSHUNI;2DALATH",
  "716 SYRIAC LETTER DOTLESS DALATH RISH;2HE;2WAW;2ZAIN;2HETH;2TETH;3GARSHUNI;2YUDH;3HE;2KAPH",
  "720 SYRIAC LETTER LAMADH;2MIM;2NUN;2SEMKATH;2FINAL SEMKATH;2E;2PE;2REVERSED PE;2SADHE;2QAPH",
  "72a SYRIAC LETTER RISH;2SHIN;2TAW;2PERSIAN BHETH;3GHAMAL;3DHALATH;1PTHAHA ABOVE;2BELOW;2DOTTED",
  "733 SYRIAC ZQAPHA ABOVE;2BELOW;2DOTTED;1RBASA ABOVE;2BELOW;1DOTTED ZLAMA HORIZONTAL;3ANGULAR",
  "73a SYRIAC HBASA ABOVE;2BELOW;1HBASA-ESASA DOTTED;1ESASA ABOVE;2BELOW;1RWAHA;1FEMININE DOT",
  "741 SYRIAC QUSHSHAYA;1RUKKAKHA;1TWO VERTICAL DOTS ABOVE;4BELOW;1THREE DOTS ABOVE;3BELOW",
  "747 SYRIAC OBLIQUE LINE ABOVE;3BELOW;1MUSIC;1BARREKH",
  "74d SYRIAC LETTER SOGDIAN ZHAIN;3KHAPH;3FE",
  "750 ARABIC LETTER BEH WITH THREE DOTS HORIZONTALLY BELOW;4DOT BELOW AND THREE DOTS ABOVE",
  "752 ARABIC LETTER BEH WITH THREE DOTS POINTING UPWARDS BELOW;9AND TWO DOTS ABOVE",
  "754 ARABIC LETTER BEH WITH TWO DOTS BELOW AND DOT ABOVE;4INVERTED SMALL V BELOW;4SMALL V",
  "757 ARABIC LETTER HAH WITH TWO DOTS ABOVE;4THREE DOTS POINTING UPWARDS BELOW",
  "759 ARABIC LETTER DAL WITH TWO DOTS VERTICALLY BELOW AND SMALL TAH;4INVERTED SMALL V BELOW",
  "75b ARABIC LETTER REH WITH STROKE;2SEEN WITH FOUR DOTS ABOVE;2AIN WITH TWO DOTS ABOVE",
  "75e ARABIC LETTER AIN WITH THREE DOTS POINTING DOWNWARDS ABOVE;4TWO DOTS VERTICALLY ABOVE",
  "760 ARABIC LETTER FEH WITH TWO DOTS BELOW;4THREE DOTS POINTING UPWARDS BELOW",
  "762 ARABIC LETTER KEHEH WITH DOT ABOVE;4THREE DOTS ABOVE;6POINTING UPWARDS BELOW",
  "765 ARABIC LETTER MEEM WITH DOT ABOVE;5BELOW;2NOON WITH TWO DOTS BELOW;4SMALL TAH;5V",
  "76a ARABIC LETTER LAM WITH BAR;2REH WITH TWO DOTS VERTICALLY ABOVE;4HAMZA ABOVE",
  "76d ARABIC LETTER SEEN WITH TWO DOTS VERTICALLY ABOVE;2HAH WITH SMALL ARABIC LETTER TAH BELOW",
  "76f ARABIC LETTER HAH WITH SMALL ARABIC LETTER TAH AND TWO DOTS",
  "770 ARABIC LETTER SEEN WITH SMALL ARABIC LETTER TAH AND TWO DOTS",
  "771 ARABIC LETTER REH WITH SMALL ARABIC LETTER TAH AND TWO DOTS",
  "772 ARABIC LETTER HAH WITH SMALL ARABIC LETTER TAH ABOVE",
  "773 ARABIC LETTER ALEF WITH EXTENDED ARABIC-INDIC DIGIT TWO ABOVE;7THREE ABOVE",
  "775 ARABIC LETTER FARSI YEH WITH EXTENDED ARABIC-INDIC DIGIT TWO ABOVE;8THREE ABOVE;8FOUR BELOW",
  "778 ARABIC LETTER WAW WITH EXTENDED ARABIC-INDIC DIGIT TWO ABOVE;7THREE ABOVE",
  "77a ARABIC LETTER YEH BARREE WITH EXTENDED ARABIC-INDIC DIGIT TWO ABOVE;8THREE ABOVE",
  "77c ARABIC LETTER HAH WITH EXTENDED ARABIC-INDIC DIGIT FOUR BELOW",
  "77d ARABIC LETTER SEEN WITH EXTENDED ARABIC-INDIC DIGIT FOUR ABOVE;4INVERTED V",
  "77f ARABIC LETTER KAF WITH TWO DOTS ABOVE;0THAANA LETTER HAA;2SHAVIYANI;2NOONU;2RAA;2BAA",
  "785 THAANA LETTER LHAVIYANI;2KAAFU;2ALIFU;2VAAVU;2MEEMU;2FAAFU;2DHAALU;2THAA;2LAAMU;2GAAFU",
  "78f THAANA LETTER GNAVIYANI;2SEENU;2DAVIYANI;2ZAVIYANI;2TAVIYANI;2YAA;2PAVIYANI;2JAVIYANI",
  "797 THAANA LETTER CHAVIYANI;2TTAA;2HHAA;2KHAA;2THAALU;2ZAA;2SHEENU;2SAADHU;2DAADHU;2TO;2ZO",
  "7a2 THAANA LETTER AINU;2GHAINU;2QAAFU;2WAAVU;1ABAFILI;1AABAAFILI;1IBIFILI;1EEBEEFILI;1UBUFILI",
  "7ab THAANA OOBOOFILI;1EBEFILI;1EYBEYFILI;1OBOFILI;1OABOAFILI;1SUKUN;1LETTER NAA",
  "7c0 NKO DIGIT ZERO;2ONE;2TWO;2THREE;2FOUR;2FIVE;2SIX;2SEVEN;2EIGHT;2NINE;1LETTER A;2EE;2I;2E;2U",
  "7cf NKO LETTER OO;2O;2DAGBASINNA;2N;2BA;2PA;2TA;2JA;2CHA;2DA;2RA;2RRA;2SA;2GBA;2FA;2KA;2LA",
  "7e0 NKO LETTER NA WOLOSO;2MA;2NYA;2NA;2HA;2WA;2YA;2NYA WOLOSO;2JONA JA;3CHA;3RA",
  "7eb NKO COMBINING SHORT HIGH TONE;3LOW TONE;3RISING TONE;2LONG DESCENDING TONE;3HIGH TONE",
  "7f0 NKO COMBINING LONG LOW TONE;3RISING TONE;2NASALIZATION MARK;2DOUBLE DOT ABOVE",
  "7f4 NKO HIGH TONE APOSTROPHE;1LOW TONE APOSTROPHE;1SYMBOL OO DENNEN;2GBAKURUNEN;1COMMA",
  "7f9 NKO EXCLAMATION MARK;1LAJANYALAN",
  "7fd NKO DANTAYALAN;1DOROME SIGN;1TAMAN SIGN;0SAMARITAN LETTER ALAF;2BIT;2GAMAN;2DALAT;2IY;2BAA",
  "806 SAMARITAN LETTER ZEN;2IT;2TIT;2YUT;2KAAF;2LABAT;2MIM;2NUN;2SINGAAT;2IN;2FI;2TSAADIY;2QUF",
  "813 SAMARITAN LETTER RISH;2SHAN;2TAAF;1MARK IN;2IN-ALAF;2OCCLUSION;2DAGESH",
  "81a SAMARITAN MODIFIER LETTER EPENTHETIC YUT;1MARK EPENTHETIC YUT;1VOWEL SIGN LONG E;3E",
  "81e SAMARITAN VOWEL SIGN OVERLONG AA;3LONG AA;3AA;3OVERLONG A;3LONG A;3A",
  "824 SAMARITAN MODIFIER LETTER SHORT A;1VOWEL SIGN SHORT A;3LONG U;3U;1MODIFIER LETTER I",
  "829 SAMARITAN VOWEL SIGN LONG I;3I;3O;3SUKUN;1MARK NEQUDAA",
  "830 SAMARITAN PUNCTUATION NEQUDAA;2AFSAAQ;2ANGED;2BAU;2ATMAAU;2SHIYYAALAA;1ABBREVIATION MARK",
  "837 SAMARITAN PUNCTUATION MELODIC QITSA;2ZIQAA;2QITSA;2ZAEF;2TURU;2ARKAANU;2SOF MASHFAAT",
  "83e SAMARITAN PUNCTUATION ANNAAU",
  "840 MANDAIC LETTER HALQA;2AB;2AG;2AD;2AH;2USHENNA;2AZ;2IT;2ATT;2AKSA;2AK;2AL;2AM;2AN;2AS;2IN",
  "850 MANDAIC LETTER AP;2ASZ;2AQ;2AR;2ASH;2AT;2DUSHENNA;2KAD;2AIN;1AFFRICATION MARK",
  "85a MANDAIC VOCALIZATION MARK;1GEMINATION MARK",
  "85e MANDAIC PUNCTUATION",
  "860 SYRIAC LETTER MALAYALAM NGA;3JA;3NYA;3TTA;3NNA;3NNNA;3BHA;3RA;3LLA;3LLLA;3SSA",
  "870 ARABIC LETTER ALEF WITH ATTACHED FATHA;5TOP RIGHT FATHA;4RIGHT MIDDLE STROKE",
  "873 ARABIC LETTER ALEF WITH LEFT MIDDLE STROKE;4ATTACHED KASRA;5BOTTOM RIGHT KASRA",
  "876 ARABIC LETTER ALEF WITH ATTACHED ROUND DOT ABOVE;5RIGHT ROUND DOT;5LEFT ROUND DOT",
  "879 ARABIC LETTER ALEF WITH ATTACHED ROUND DOT BELOW;4DOT ABOVE",
  "87b ARABIC LETTER ALEF WITH ATTACHED TOP RIGHT FATHA AND DOT ABOVE",
  "87c ARABIC LETTER ALEF WITH RIGHT MIDDLE STROKE AND DOT ABOVE",
  "87d ARABIC LETTER ALEF WITH ATTACHED BOTTOM RIGHT KASRA AND DOT ABOVE",
  "87e ARABIC LETTER ALEF WITH ATTACHED TOP RIGHT FATHA AND LEFT RING",
  "87f ARABIC LETTER ALEF WITH RIGHT MIDDLE STROKE AND LEFT RING",
  "880 ARABIC LETTER ALEF WITH ATTACHED BOTTOM RIGHT KASRA AND LEFT RING;5RIGHT HAMZA;5LEFT HAMZA",
  "883 ARABIC TATWEEL WITH OVERSTRUCK HAMZA;4WAW;3TWO DOTS BELOW;1LETTER THIN YEH",
  "887 ARABIC BASELINE ROUND DOT;1RAISED ROUND DOT;1LETTER NOON WITH INVERTED SMALL V",
  "88a ARABIC LETTER HAH WITH INVERTED SMALL V BELOW;2TAH WITH DOT BELOW;4THREE DOTS BELOW",
  "88d ARABIC LETTER KEHEH WITH TWO DOTS VERTICALLY BELOW;1VERTICAL TAIL",
  "890 ARABIC POUND MARK ABOVE;1PIASTRE MARK ABOVE",
  "898 ARABIC SMALL HIGH WORD AL-JUZ;2LOW WORD ISHMAAM;4IMAALA;4TASHEEL;1MADDA WAAJIB",
  "89d ARABIC SUPERSCRIPT ALEF MOKHASSAS;1DOUBLED MADDA;1HALF MADDA OVER MADDA",
  "8a0 ARABIC LETTER BEH WITH SMALL V BELOW;4HAMZA ABOVE;2JEEM WITH TWO DOTS ABOVE",
  "8a3 ARABIC LETTER TAH WITH TWO DOTS ABOVE;2FEH WITH DOT BELOW AND THREE DOTS ABOVE",
  "8a5 ARABIC LETTER QAF WITH DOT BELOW;2LAM WITH DOUBLE BAR;2MEEM WITH THREE DOTS ABOVE",
  "8a8 ARABIC LETTER YEH WITH TWO DOTS BELOW AND HAMZA ABOVE;8DOT ABOVE;2REH WITH LOOP",
  "8ab ARABIC LETTER WAW WITH DOT WITHIN;2ROHINGYA YEH;2LOW ALEF;2DAL WITH THREE DOTS BELOW",
  "8af ARABIC LETTER SAD WITH THREE DOTS BELOW;2GAF WITH INVERTED STROKE;2STRAIGHT WAW",
  "8b2 ARABIC LETTER ZAIN WITH INVERTED V ABOVE;2AIN WITH THREE DOTS BELOW;2KAF WITH DOT BELOW",
  "8b5 ARABIC LETTER QAF WITH DOT BELOW AND NO DOTS ABOVE;2BEH WITH SMALL MEEM ABOVE",
  "8b7 ARABIC LETTER PEH WITH SMALL MEEM ABOVE;2TEH WITH SMALL TEH ABOVE",
  "8b9 ARABIC LETTER REH WITH SMALL NOON ABOVE;2YEH WITH TWO DOTS BELOW AND SMALL NOON ABOVE",
  "8bb ARABIC LETTER AFRICAN FEH;3QAF;3NOON;2PEH WITH SMALL V;2TEH WITH SMALL V;2TTEH WITH SMALL V",
  "8c1 ARABIC LETTER TCHEH WITH SMALL V;2KEHEH WITH SMALL V;2GHAIN WITH THREE DOTS ABOVE",
  "8c4 ARABIC LETTER AFRICAN QAF WITH THREE DOTS ABOVE;2JEEM WITH THREE DOTS ABOVE;6BELOW",
  "8c7 ARABIC LETTER LAM WITH SMALL ARABIC LETTER TAH ABOVE;2GRAF;1SMALL FARSI YEH;2HIGH FARSI YEH",
  "8cb ARABIC SMALL HIGH YEH BARREE WITH TWO DOTS BELOW;3WORD SAH;3ZAH;1LARGE ROUND DOT ABOVE",
  "8cf ARABIC LARGE ROUND DOT BELOW;1SUKUN BELOW;1LARGE CIRCLE BELOW",
  "8d2 ARABIC LARGE ROUND DOT INSIDE CIRCLE BELOW;1SMALL LOW WAW;2HIGH WORD AR-RUB;3SAD;3AIN;3QAF",
  "8d8 ARABIC SMALL HIGH NOON WITH KASRA;2LOW NOON WITH KASRA;2HIGH WORD ATH-THALATHA;4AS-SAJDA",
  "8dc ARABIC SMALL HIGH WORD AN-NISF;4SAKTA;4QIF;4WAQFA;3FOOTNOTE MARKER;3SIGN SAFHA",
  "8e2 ARABIC DISPUTED END OF AYAH;1TURNED DAMMA BELOW;1CURLY FATHA;2DAMMA;2KASRA;2FATHATAN",
  "8e8 ARABIC CURLY DAMMATAN;2KASRATAN;1TONE ONE DOT ABOVE;2TWO DOTS ABOVE;2LOOP ABOVE",
  "8ed ARABIC TONE ONE DOT BELOW;2TWO DOTS BELOW;2LOOP BELOW;1OPEN FATHATAN;2DAMMATAN;2KASRATAN",
  "8f3 ARABIC SMALL HIGH WAW;1FATHA WITH RING;3DOT ABOVE;1KASRA WITH DOT BELOW",
  "8f7 ARABIC LEFT ARROWHEAD ABOVE;1RIGHT ARROWHEAD ABOVE;1LEFT ARROWHEAD BELOW",
  "8fa ARABIC RIGHT ARROWHEAD BELOW;1DOUBLE RIGHT ARROWHEAD ABOVE;5WITH DOT",
  "8fd ARABIC RIGHT ARROWHEAD ABOVE WITH DOT;1DAMMA WITH DOT;1MARK SIDEWAYS NOON GHUNNA",
  "900 DEVANAGARI SIGN INVERTED CANDRABINDU;2CANDRABINDU;2ANUSVARA;2VISARGA;1LETTER SHORT A;2A;2AA",
  "907 DEVANAGARI LETTER I;2II;2U;2UU;2VOCALIC R;3L;2CANDRA E;2SHORT E;2E;2AI;2CANDRA O;2SHORT O",
  "913 DEVANAGARI LETTER O;2AU;2KA;2KHA;2GA;2GHA;2NGA;2CA;2CHA;2JA;2JHA;2NYA;2TTA;2TTHA;2DDA;2DDHA",
  "923 DEVANAGARI LETTER NNA;2TA;2THA;2DA;2DHA;2NA;2NNNA;2PA;2PHA;2BA;2BHA;2MA;2YA;2RA;2RRA;2LA",
  "933 DEVANAGARI LETTER LLA;2LLLA;2VA;2SHA;2SSA;2SA;2HA;1VOWEL SIGN OE;3OOE;1SIGN NUKTA;2AVAGRAHA",
  "93e DEVANAGARI VOWEL SIGN AA;3I;3II;3U;3UU;3VOCALIC R;4RR;3CANDRA E;3SHORT E;3E;3AI;3CANDRA O",
  "94a DEVANAGARI VOWEL SIGN SHORT O;3O;3AU;1SIGN VIRAMA;1VOWEL SIGN PRISHTHAMATRA E;3AW;1OM",
  "951 DEVANAGARI STRESS SIGN UDATTA;3ANUDATTA;1GRAVE ACCENT;1ACUTE ACCENT",
  "955 DEVANAGARI VOWEL SIGN CANDRA LONG E;3UE;3UUE;1LETTER QA;2KHHA;2GHHA;2ZA;2DDDHA;2RHA;2FA",
  "95f DEVANAGARI LETTER YYA;2VOCALIC RR;3LL;1VOWEL SIGN VOCALIC L;4LL;1DANDA;1DOUBLE DANDA",
  "966 DEVANAGARI DIGIT ZERO;2ONE;2TWO;2THREE;2FOUR;2FIVE;2SIX;2SEVEN;2EIGHT;2NINE",
  "970 DEVANAGARI ABBREVIATION SIGN;1SIGN HIGH SPACING DOT;1LETTER CANDRA A;2OE;2OOE;2AW;2UE;2UUE",
  "978 DEVANAGARI LETTER MARWARI DDA;2ZHA;2HEAVY YA;2GGA;2JJA;2GLOTTAL STOP;2DDDA;2BBA",
  "980 BENGALI ANJI;1SIGN CANDRABINDU;2ANUSVARA;2VISARGA",
  "985 BENGALI LETTER A;2AA;2I;2II;2U;2UU;2VOCALIC R;3L",
  "98f BENGALI LETTER E;2AI",
  "993 BENGALI LETTER O;2AU;2KA;2KHA;2GA;2GHA;2NGA;2CA;2CHA;2JA;2JHA;2NYA;2TTA;2TTHA;2DDA;2DDHA",
  "9a3 BENGALI LETTER NNA;2TA;2THA;2DA;2DHA;2NA",
  "9aa BENGALI LETTER PA;2PHA;2BA;2BHA;2MA;2YA;2RA",
  "9b2 BENGALI LETTER LA",
  "9b6 BENGALI LETTER SHA;2SSA;2SA;2HA",
  "9bc BENGALI SIGN NUKTA;2AVAGRAHA;1VOWEL SIGN AA;3I;3II;3U;3UU;3VOCALIC R;4RR",
  "9c7 BENGALI VOWEL SIGN E;3AI",
  "9cb BENGALI VOWEL SIGN O;3AU;1SIGN VIRAMA;1LETTER KHANDA TA",
  "9d7 BENGALI AU LENGTH MARK",
  "9dc BENGALI LETTER RRA;2RHA",
  "9df BENGALI LETTER YYA;2VOCALIC RR;3LL;1VOWEL SIGN VOCALIC L;4LL",
  "9e6 BENGALI DIGIT ZERO;2ONE;2TWO;2THREE;2FOUR;2FIVE;2SIX;2SEVEN;2EIGHT;2NINE",
  "9f0 BENGALI LETTER RA WITH MIDDLE DIAGONAL;4LOWER DIAGONAL;1RUPEE MARK;2SIGN",
  "9f4 BENGALI CURRENCY NUMERATOR ONE;3TWO;3THREE;3FOUR;3ONE LESS THAN THE DENOMINATOR",
  "9f9 BENGALI CURRENCY DENOMINATOR SIXTEEN;1ISSHAR;1GANDA MARK;1LETTER VEDIC ANUSVARA",
  "9fd BENGALI ABBREVIATION SIGN;1SANDHI MARK",
  "a01 GURMUKHI SIGN ADAK BINDI;2BINDI;2VISARGA",
  "a05 GURMUKHI LETTER A;2AA;2I;2II;2U;2UU",
  "a0f GURMUKHI LETTER EE;2AI",
  "a13 GURMUKHI LETTER OO;2AU;2KA;2KHA;2GA;2GHA;2NGA;2CA;2CHA;2JA;2JHA;2NYA;2TTA;2TTHA;2DDA;2DDHA",
  "a23 GURMUKHI LETTER NNA;2TA;2THA;2DA;2DHA;2NA",
  "a2a GURMUKHI LETTER PA;2PHA;2BA;2BHA;2MA;2YA;2RA",
  "a32 GURMUKHI LETTER LA;2LLA",
  "a35 GURMUKHI LETTER VA;2SHA",
  "a38 GURMUKHI LETTER SA;2HA",
  "a3c GURMUKHI SIGN NUKTA",
  "a3e GURMUKHI VOWEL SIGN AA;3I;3II;3U;3UU",
  "a47 GURMUKHI VOWEL SIGN EE;3AI",
  "a4b GURMUKHI VOWEL SIGN OO;3AU;1SIGN VIRAMA",
  "a51 GURMUKHI SIGN UDAAT",
  "a59 GURMUKHI LETTER KHHA;2GHHA;2ZA;2RRA",
  "a5e GURMUKHI LETTER FA",
  "a66 GURMUKHI DIGIT ZERO;2ONE;2TWO;2THREE;2FOUR;2FIVE;2SIX;2SEVEN;2EIGHT;2NINE;1TIPPI;1ADDAK",
  "a72 GURMUKHI IRI;1URA;1EK ONKAR;1SIGN YAKASH;1ABBREVIATION SIGN",
  "a81 GUJARATI SIGN CANDRABINDU;2ANUSVARA;2VISARGA",
  "a85 GUJARATI LETTER A;2AA;2I;2II;2U;2UU;2VOCALIC R;3L;1VOWEL CANDRA E",
  "a8f GUJARATI LETTER E;2AI;1VOWEL CANDRA O",
  "a93 GUJARATI LETTER O;2AU;2KA;2KHA;2GA;2GHA;2NGA;2CA;2CHA;2JA;2JHA;2NYA;2TTA;2TTHA;2DDA;2DDHA",
  "aa3 GUJARATI LETTER NNA;2TA;2THA;2DA;2DHA;2NA",
  "aaa GUJARATI LETTER PA;2PHA;2BA;2BHA;2MA;2YA;2RA",
  "ab2 GUJARATI LETTER LA;2LLA",
  "ab5 GUJARATI LETTER VA;2SHA;2SSA;2SA;2HA",
  "abc GUJARATI SIGN NUKTA;2AVAGRAHA;1VOWEL SIGN AA;3I;3II;3U;3UU;3VOCALIC R;4RR;3CANDRA E",
  "ac7 GUJARATI VOWEL SIGN E;3AI;3CANDRA O",
  "acb GUJARATI VOWEL SIGN O;3AU;1SIGN VIRAMA",
  "ad0 GUJARATI OM",
  "ae0 GUJARATI LETTER VOCALIC RR;3LL;1VOWEL SIGN VOCALIC L;4LL",
  "ae6 GUJARATI DIGIT ZERO;2ONE;2TWO;2THREE;2FOUR;2FIVE;2SIX;2SEVEN;2EIGHT;2NINE",
  "af0 GUJARATI ABBREVIATION SIGN;1RUPEE SIGN",
  "af9 GUJARATI LETTER ZHA;1SIGN SUKUN;2SHADDA;2MADDAH;2THREE-DOT NUKTA ABOVE;2CIRCLE NUKTA ABOVE",
  "aff GUJARATI SIGN TWO-CIRCLE NUKTA ABOVE",
  "b01 ORIYA SIGN CANDRABINDU;2ANUSVARA;2VISARGA",
  "b05 ORIYA LETTER A;2AA;2I;2II;2U;2UU;2VOCALIC R;3L",
  "b0f ORIYA LETTER E;2AI",
  "b13 ORIYA LETTER O;2AU;2KA;2KHA;2GA;2GHA;2NGA;2CA;2CHA;2JA;2JHA;2NYA;2TTA;2TTHA;2DDA;2DDHA;2NNA",
  "b24 ORIYA LETTER TA;2THA;2DA;2DHA;2NA",
  "b2a ORIYA LETTER PA;2PHA;2BA;2BHA;2MA;2YA;2RA",
  "b32 ORIYA LETTER LA;2LLA",
  "b35 ORIYA LETTER VA;2SHA;2SSA;2SA;2HA",
  "b3c ORIYA SIGN NUKTA;2AVAGRAHA;1VOWEL SIGN AA;3I;3II;3U;3UU;3VOCALIC R;4RR",
  "b47 ORIYA VOWEL SIGN E;3AI",
  "b4b ORIYA VOWEL SIGN O;3AU;1SIGN VIRAMA",
  "b55 ORIYA SIGN OVERLINE;1AI LENGTH MARK;1AU LENGTH MARK",
  "b5c ORIYA LETTER RRA;2RHA",
  "b5f ORIYA LETTER YYA;2VOCALIC RR;3LL;1VOWEL SIGN VOCALIC L;4LL",
  "b66 ORIYA DIGIT ZERO;2ONE;2TWO;2THREE;2FOUR;2FIVE;2SIX;2SEVEN;2EIGHT;2NINE;1ISSHAR;1LETTER WA",
  "b72 ORIYA FRACTION ONE QUARTER;3HALF;2THREE QUARTERS;2ONE SIXTEENTH;3EIGHTH;2THREE SIXTEENTHS",
  "b82 TAMIL SIGN ANUSVARA;2VISARGA",
  "b85 TAMIL LETTER A;2AA;2I;2II;2U;2UU",
  "b8e TAMIL LETTER E;2EE;2AI",
  "b92 TAMIL LETTER O;2OO;2AU;2KA",
  "b99 TAMIL LETTER NGA;2CA",
  "b9c TAMIL LETTER JA",
  "b9e TAMIL LETTER NYA;2TTA",
  "ba3 TAMIL LETTER NNA;2TA",
  "ba8 TAMIL LETTER NA;2NNNA;2PA",
  "bae TAMIL LETTER MA;2YA;2RA;2RRA;2LA;2LLA;2LLLA;2VA;2SHA;2SSA;2SA;2HA",
  "bbe TAMIL VOWEL SIGN AA;3I;3II;3U;3UU",
  "bc6 TAMIL VOWEL SIGN E;3EE;3AI",
  "bca TAMIL VOWEL SIGN O;3OO;3AU;1SIGN VIRAMA",
  "bd0 TAMIL OM",
  "bd7 TAMIL AU LENGTH MARK",
  "be6 TAMIL DIGIT ZERO;2ONE;2TWO;2THREE;2FOUR;2FIVE;2SIX;2SEVEN;2EIGHT;2NINE;1NUMBER TEN",
  "bf1 TAMIL NUMBER ONE HUNDRED;3THOUSAND;1DAY SIGN;1MONTH SIGN;1YEAR SIGN;1DEBIT SIGN",
  "bf7 TAMIL CREDIT SIGN;1AS ABOVE SIGN;1RUPEE SIGN;1NUMBER SIGN",
  "c00 TELUGU SIGN COMBINING CANDRABINDU ABOVE;2CANDRABINDU;2ANUSVARA;2VISARGA",
  "c04 TELUGU SIGN COMBINING ANUSVARA ABOVE;1LETTER A;2AA;2I;2II;2U;2UU;2VOCALIC R;3L",
  "c0e TELUGU LETTER E;2EE;2AI",
  "c12 TELUGU LETTER O;2OO;2AU;2KA;2KHA;2GA;2GHA;2NGA;2CA;2CHA;2JA;2JHA;2NYA;2TTA;2TTHA;2DDA;2DDHA",
  "c23 TELUGU LETTER NNA;2TA;2THA;2DA;2DHA;2NA",
  "c2a TELUGU LETTER PA;2PHA;2BA;2BHA;2MA;2YA;2RA;2RRA;2LA;2LLA;2LLLA;2VA;2SHA;2SSA;2SA;2HA",
  "c3c TELUGU SIGN NUKTA;2AVAGRAHA;1VOWEL SIGN AA;3I;3II;3U;3UU;3VOCALIC R;4RR",
  "c46 TELUGU VOWEL SIGN E;3EE;3AI",
  "c4a TELUGU VOWEL SIGN O;3OO;3AU;1SIGN VIRAMA",
  "c55 TELUGU LENGTH MARK;1AI LENGTH MARK",
  "c58 TELUGU LETTER TSA;2DZA;2RRRA",
  "c5d TELUGU LETTER NAKAARA POLLU",
  "c60 TELUGU LETTER VOCALIC RR;3LL;1VOWEL SIGN VOCALIC L;4LL",
  "c66 TELUGU DIGIT ZERO;2ONE;2TWO;2THREE;2FOUR;2FIVE;2SIX;2SEVEN;2EIGHT;2NINE",
  "c77 TELUGU SIGN SIDDHAM;1FRACTION DIGIT ZERO FOR ODD POWERS OF FOUR;3ONE FOR ODD POWERS OF FOUR",
  "c7a TELUGU FRACTION DIGIT TWO FOR ODD POWERS OF FOUR;3THREE FOR ODD POWERS OF FOUR",
  "c7c TELUGU FRACTION DIGIT ONE FOR EVEN POWERS OF FOUR;3TWO FOR EVEN POWERS OF FOUR",
  "c7e TELUGU FRACTION DIGIT THREE FOR EVEN POWERS OF FOUR;1SIGN TUUMU",
  "c80 KANNADA SIGN SPACING CANDRABINDU;2CANDRABINDU;2ANUSVARA;2VISARGA;2SIDDHAM;1LETTER A;2AA;2I",
  "c88 KANNADA LETTER II;2U;2UU;2VOCALIC R;3L",
  "c8e KANNADA LETTER E;2EE;2AI",
  "c92 KANNADA LETTER O;2OO;2AU;2KA;2KHA;2GA;2GHA;2NGA;2CA;2CHA;2JA;2JHA;2NYA;2TTA;2TTHA;2DDA",
  "ca2 KANNADA LETTER DDHA;2NNA;2TA;2THA;2DA;2DHA;2NA",
  "caa KANNADA LETTER PA;2PHA;2BA;2BHA;2MA;2YA;2RA;2RRA;2LA;2LLA",
  "cb5 KANNADA LETTER VA;2SHA;2SSA;2SA;2HA",
  "cbc KANNADA SIGN NUKTA;2AVAGRAHA;1VOWEL SIGN AA;3I;3II;3U;3UU;3VOCALIC R;4RR",
  "cc6 KANNADA VOWEL SIGN E;3EE;3AI",
  "cca KANNADA VOWEL SIGN O;3OO;3AU;1SIGN VIRAMA",
  "cd5 KANNADA LENGTH MARK;1AI LENGTH MARK",
  "cdd KANNADA LETTER NAKAARA POLLU;2FA",
  "ce0 KANNADA LETTER VOCALIC RR;3LL;1VOWEL SIGN VOCALIC L;4LL",
  "ce6 KANNADA DIGIT ZERO;2ONE;2TWO;2THREE;2FOUR;2FIVE;2SIX;2SEVEN;2EIGHT;2NINE",
  "cf1 KANNADA SIGN JIHVAMULIYA;2UPADHMANIYA",
  "d00 MALAYALAM SIGN COMBINING ANUSVARA ABOVE;2CANDRABINDU;2ANUSVARA;2VISARGA",
  "d04 MALAYALAM LETTER VEDIC ANUSVARA;2A;2AA;2I;2II;2U;2UU;2VOCALIC R;3L",
  "d0e MALAYALAM LETTER E;2EE;2AI",
  "d12 MALAYALAM LETTER O;2OO;2AU;2KA;2KHA;2GA;2GHA;2NGA;2CA;2CHA;2JA;2JHA;2NYA;2TTA;2TTHA;2DDA",
  "d22 MALAYALAM LETTER DDHA;2NNA;2TA;2THA;2DA;2DHA;2NA;2NNNA;2PA;2PHA;2BA;2BHA;2MA;2YA;2RA;2RRA",
  "d32 MALAYALAM LETTER LA;2LLA;2LLLA;2VA;2SHA;2SSA;2SA;2HA;2TTTA;1SIGN VERTICAL BAR VIRAMA",
  "d3c MALAYALAM SIGN CIRCULAR VIRAMA;2AVAGRAHA;1VOWEL SIGN AA;3I;3II;3U;3UU;3VOCALIC R;4RR",
  "d46 MALAYALAM VOWEL SIGN E;3EE;3AI",
  "d4a MALAYALAM VOWEL SIGN O;3OO;3AU;1SIGN VIRAMA;1LETTER DOT REPH;1SIGN PARA",
  "d54 MALAYALAM LETTER CHILLU M;3Y;3LLL;1AU LENGTH MARK;1FRACTION ONE ONE-HUNDRED-AND-SIXTIETH",
  "d59 MALAYALAM FRACTION ONE FORTIETH;2THREE EIGHTIETHS;2ONE TWENTIETH;3TENTH;2THREE TWENTIETHS",
  "d5e MALAYALAM FRACTION ONE FIFTH;1LETTER ARCHAIC II;2VOCALIC RR;3LL;1VOWEL SIGN VOCALIC L;4LL",
  "d66 MALAYALAM DIGIT ZERO;2ONE;2TWO;2THREE;2FOUR;2FIVE;2SIX;2SEVEN;2EIGHT;2NINE;1NUMBER TEN",
  "d71 MALAYALAM NUMBER ONE HUNDRED;3THOUSAND;1FRACTION ONE QUARTER;3HALF;2THREE QUARTERS",
  "d76 MALAYALAM FRACTION ONE SIXTEENTH;3EIGHTH;2THREE SIXTEENTHS;1DATE MARK;1LETTER CHILLU NN;3N",
  "d7c MALAYALAM LETTER CHILLU RR;3L;3LL;3K",
  "d81 SINHALA SIGN CANDRABINDU;2ANUSVARAYA;2VISARGAYA",
  "d85 SINHALA LETTER AYANNA;2AAYANNA;2AEYANNA;2AEEYANNA;2IYANNA;2IIYANNA;2UYANNA;2UUYANNA",
  "d8d SINHALA LETTER IRUYANNA;2IRUUYANNA;2ILUYANNA;2ILUUYANNA;2EYANNA;2EEYANNA;2AIYANNA;2OYANNA",
  "d95 SINHALA LETTER OOYANNA;2AUYANNA",
  "d9a SINHALA LETTER ALPAPRAANA KAYANNA;2MAHAAPRAANA KAYANNA;2ALPAPRAANA GAYANNA",
  "d9d SINHALA LETTER MAHAAPRAANA GAYANNA;2KANTAJA NAASIKYAYA;2SANYAKA GAYANNA;2ALPAPRAANA CAYANNA",
  "da1 SINHALA LETTER MAHAAPRAANA CAYANNA;2ALPAPRAANA JAYANNA;2MAHAAPRAANA JAYANNA",
  "da4 SINHALA LETTER TAALUJA NAASIKYAYA;3SANYOOGA NAAKSIKYAYA;2SANYAKA JAYANNA",
  "da7 SINHALA LETTER ALPAPRAANA TTAYANNA;2MAHAAPRAANA TTAYANNA;2ALPAPRAANA DDAYANNA",
  "daa SINHALA LETTER MAHAAPRAANA DDAYANNA;2MUURDHAJA NAYANNA;2SANYAKA DDAYANNA",
  "dad SINHALA LETTER ALPAPRAANA TAYANNA;2MAHAAPRAANA TAYANNA;2ALPAPRAANA DAYANNA",
  "db0 SINHALA LETTER MAHAAPRAANA DAYANNA;2DANTAJA NAYANNA",
  "db3 SINHALA LETTER SANYAKA DAYANNA;2ALPAPRAANA PAYANNA;2MAHAAPRAANA PAYANNA;2ALPAPRAANA BAYANNA",
  "db7 SINHALA LETTER MAHAAPRAANA BAYANNA;2MAYANNA;2AMBA BAYANNA;2YAYANNA;2RAYANNA",
  "dbd SINHALA LETTER DANTAJA LAYANNA",
  "dc0 SINHALA LETTER VAYANNA;2TAALUJA SAYANNA;2MUURDHAJA SAYANNA;2DANTAJA SAYANNA;2HAYANNA",
  "dc5 SINHALA LETTER MUURDHAJA LAYANNA;2FAYANNA",
  "dca SINHALA SIGN AL-LAKUNA",
  "dcf SINHALA VOWEL SIGN AELA-PILLA;3KETTI AEDA-PILLA;3DIGA AEDA-PILLA;3KETTI IS-PILLA",
  "dd3 SINHALA VOWEL SIGN DIGA IS-PILLA;3KETTI PAA-PILLA",
  "dd6 SINHALA VOWEL SIGN DIGA PAA-PILLA",
  "dd8 SINHALA VOWEL SIGN GAETTA-PILLA;3KOMBUVA;3DIGA KOMBUVA;3KOMBU DEKA;3KOMBUVA HAA AELA-PILLA",
  "ddd SINHALA VOWEL SIGN KOMBUVA HAA DIGA AELA-PILLA;5GAYANUKITTA;3GAYANUKITTA",
  "de6 SINHALA LITH DIGIT ZERO;3ONE;3TWO;3THREE;3FOUR;3FIVE;3SIX;3SEVEN;3EIGHT;3NINE",
  "df2 SINHALA VOWEL SIGN DIGA GAETTA-PILLA;4GAYANUKITTA;1PUNCTUATION KUNDDALIYA",
  "e01 THAI CHARACTER KO KAI;2KHO KHAI;3KHUAT;3KHWAI;3KHON;3RAKHANG;2NGO NGU;2CHO CHAN;3CHING",
  "e0a THAI CHARACTER CHO CHANG;2SO SO;2CHO CHOE;2YO YING;2DO CHADA;2TO PATAK;2THO THAN",
  "e11 THAI CHARACTER THO NANGMONTHO;3PHUTHAO;2NO NEN;2DO DEK;2TO TAO;2THO THUNG;3THAHAN;3THONG",
  "e19 THAI CHARACTER NO NU;2BO BAIMAI;2PO PLA;2PHO PHUNG;2FO FA;2PHO PHAN;2FO FAN;2PHO SAMPHAO",
  "e21 THAI CHARACTER MO MA;2YO YAK;2RO RUA;2RU;2LO LING;2LU;2WO WAEN;2SO SALA;3RUSI;3SUA;2HO HIP",
  "e2c THAI CHARACTER LO CHULA;2O ANG;2HO NOKHUK;2PAIYANNOI;2SARA A;2MAI HAN-AKAT;2SARA AA;3AM;3I",
  "e35 THAI CHARACTER SARA II;3UE;3UEE;3U;3UU;2PHINTHU",
  "e3f THAI CURRENCY SYMBOL BAHT;1CHARACTER SARA E;3AE;3O;3AI MAIMUAN;4MAIMALAI;2LAKKHANGYAO",
  "e46 THAI CHARACTER MAIYAMOK;2MAITAIKHU;2MAI EK;3THO;3TRI;3CHATTAWA;2THANTHAKHAT;2NIKHAHIT",
  "e4e THAI CHARACTER YAMAKKAN;2FONGMAN;1DIGIT ZERO;2ONE;2TWO;2THREE;2FOUR;2FIVE;2SIX;2SEVEN",
  "e58 THAI DIGIT EIGHT;2NINE;1CHARACTER ANGKHANKHU;2KHOMUT",
  "e81 LAO LETTER KO;2KHO SUNG",
  "e84 LAO LETTER KHO TAM",
  "e86 LAO LETTER PALI GHA;2NGO;2CO;2PALI CHA;2SO TAM",
  "e8c LAO LETTER PALI JHA;2NYO;2PALI NYA;3TTA;3TTHA;3DDA;3DDHA;3NNA;2DO;2TO;2THO SUNG;3TAM",
  "e98 LAO LETTER PALI DHA;2NO;2BO;2PO;2PHO SUNG;2FO TAM;2PHO TAM;2FO SUNG;2PALI BHA;2MO;2YO",
  "ea3 LAO LETTER LO LING",
  "ea5 LAO LETTER LO LOOT",
  "ea7 LAO LETTER WO;2SANSKRIT SHA;3SSA;2SO SUNG;2HO SUNG;2PALI LLA;2O;2HO TAM;1ELLIPSIS",
  "eb0 LAO VOWEL SIGN A;3MAI KAN;3AA;3AM;3I;3II;3Y;3YY;3U;3UU;1SIGN PALI VIRAMA",
  "ebb LAO VOWEL SIGN MAI KON;1SEMIVOWEL SIGN LO;3NYO",
  "ec0 LAO VOWEL SIGN E;3EI;3O;3AY;3AI",
  "ec6 LAO KO LA",
  "ec8 LAO TONE MAI EK;3THO;3TI;3CATAWA;1CANCELLATION MARK;1NIGGAHITA",
  "ed0 LAO DIGIT ZERO;2ONE;2TWO;2THREE;2FOUR;2FIVE;2SIX;2SEVEN;2EIGHT;2NINE",
  "edc LAO HO NO;2MO;1LETTER KHMU GO;3NYO",
  "f00 TIBETAN SYLLABLE OM;1MARK GTER YIG MGO TRUNCATED A;5-UM RNAM BCAD MA;6GTER TSHEG MA",
  "f04 TIBETAN MARK INITIAL YIG MGO MDUN MA;2CLOSING YIG MGO SGAB MA;2CARET YIG MGO PHUR SHAD MA",
  "f07 TIBETAN MARK YIG MGO TSHEG SHAD MA;2SBRUL SHAD;2BSKUR YIG MGO;2BKA- SHOG YIG MGO",
  "f0b TIBETAN MARK INTERSYLLABIC TSHEG;2DELIMITER TSHEG BSTAR;2SHAD;2NYIS SHAD;2TSHEG SHAD",
  "f10 TIBETAN MARK NYIS TSHEG SHAD;2RIN CHEN SPUNGS SHAD;2RGYA GRAM SHAD",
  "f13 TIBETAN MARK CARET -DZUD RTAGS ME LONG CAN;2GTER TSHEG;1LOGOTYPE SIGN CHAD RTAGS",
  "f16 TIBETAN LOGOTYPE SIGN LHAG RTAGS;1ASTROLOGICAL SIGN SGRA GCAN -CHAR RTAGS;3-KHYUD PA",
  "f19 TIBETAN ASTROLOGICAL SIGN SDONG TSHUGS;1SIGN RDEL DKAR GCIG;4GNYIS;4GSUM;3NAG GCIG;4GNYIS",
  "f1f TIBETAN SIGN RDEL DKAR RDEL NAG;1DIGIT ZERO;2ONE;2TWO;2THREE;2FOUR;2FIVE;2SIX;2SEVEN;2EIGHT",
  "f29 TIBETAN DIGIT NINE;2HALF ONE;3TWO;3THREE;3FOUR;3FIVE;3SIX;3SEVEN;3EIGHT;3NINE;3ZERO",
  "f34 TIBETAN MARK BSDUS RTAGS;2NGAS BZUNG NYI ZLA;2CARET -DZUD RTAGS BZHI MIG CAN",
  "f37 TIBETAN MARK NGAS BZUNG SGOR RTAGS;2CHE MGO;2TSA -PHRU;2GUG RTAGS GYON;4GYAS",
  "f3c TIBETAN MARK ANG KHANG GYON;4GYAS;1SIGN YAR TSHES;2MAR TSHES;1LETTER KA;2KHA;2GA;2GHA;2NGA",
  "f45 TIBETAN LETTER CA;2CHA;2JA",
  "f49 TIBETAN LETTER NYA;2TTA;2TTHA;2DDA;2DDHA;2NNA;2TA;2THA;2DA;2DHA;2NA;2PA;2PHA;2BA;2BHA;2MA",
  "f59 TIBETAN LETTER TSA;2TSHA;2DZA;2DZHA;2WA;2ZHA;2ZA;2-A;2YA;2RA;2LA;2SHA;2SSA;2SA;2HA;2A;2KSSA",
  "f6a TIBETAN LETTER FIXED-FORM RA;2KKA;2RRA",
  "f71 TIBETAN VOWEL SIGN AA;3I;3II;3U;3UU;3VOCALIC R;4RR;4L;4LL;3E;3EE;3O;3OO",
  "f7e TIBETAN SIGN RJES SU NGA RO;2RNAM BCAD;1VOWEL SIGN REVERSED I;4II;1SIGN NYI ZLA NAA DA",
  "f83 TIBETAN SIGN SNA LDAN;1MARK HALANTA;2PALUTA;1SIGN LCI RTAGS;2YANG RTAGS;2LCE TSA CAN",
  "f89 TIBETAN SIGN MCHU CAN;2GRU CAN RGYINGS;3MED RGYINGS;2INVERTED MCHU CAN",
  "f8d TIBETAN SUBJOINED SIGN LCE TSA CAN;3MCHU CAN;3INVERTED MCHU CAN;2LETTER KA;3KHA;3GA;3GHA",
  "f94 TIBETAN SUBJOINED LETTER NGA;3CA;3CHA;3JA",
  "f99 TIBETAN SUBJOINED LETTER NYA;3TTA;3TTHA;3DDA;3DDHA;3NNA;3TA;3THA;3DA;3DHA;3NA;3PA;3PHA;3BA",
  "fa7 TIBETAN SUBJOINED LETTER BHA;3MA;3TSA;3TSHA;3DZA;3DZHA;3WA;3ZHA;3ZA;3-A;3YA;3RA;3LA;3SHA",
  "fb5 TIBETAN SUBJOINED LETTER SSA;3SA;3HA;3A;3KSSA;3FIXED-FORM WA;4YA;4RA",
  "fbe TIBETAN KU RU KHA;4BZHI MIG CAN;1CANTILLATION SIGN HEAVY BEAT;3LIGHT BEAT;3CANG TE-U",
  "fc3 TIBETAN CANTILLATION SIGN SBUB -CHAL;1SYMBOL DRIL BU;2RDO RJE;2PADMA GDAN",
  "fc7 TIBETAN SYMBOL RDO RJE RGYA GRAM;2PHUR PA;2NOR BU;4NYIS -KHYIL;4GSUM -KHYIL;4BZHI -KHYIL",
  "fce TIBETAN SIGN RDEL NAG RDEL DKAR;4GSUM;1MARK BSKA- SHOG GI MGO RGYAN;2MNYAM YIG GI MGO RGYAN",
  "fd2 TIBETAN MARK NYIS TSHEG;2INITIAL BRDA RNYING YIG MGO MDUN MA",
  "fd4 TIBETAN MARK CLOSING BRDA RNYING YIG MGO SGAB MA;0RIGHT-FACING SVASTI SIGN",
  "fd6 LEFT-FACING SVASTI SIGN;0RIGHT-FACING SVASTI SIGN WITH DOTS",
  "fd8 LEFT-FACING SVASTI SIGN WITH DOTS;0TIBETAN MARK LEADING MCHAN RTAGS;2TRAILING MCHAN RTAGS",
  "1000 MYANMAR LETTER KA;2KHA;2GA;2GHA;2NGA;2CA;2CHA;2JA;2JHA;2NYA;2NNYA;2TTA;2TTHA;2DDA;2DDHA",
  "100f MYANMAR LETTER NNA;2TA;2THA;2DA;2DHA;2NA;2PA;2PHA;2BA;2BHA;2MA;2YA;2RA;2LA;2WA;2SA;2HA",
  "1020 MYANMAR LETTER LLA;2A;2SHAN A;2I;2II;2U;2UU;2E;2MON E;2O;2AU;1VOWEL SIGN TALL AA;3AA;3I",
  "102e MYANMAR VOWEL SIGN II;3U;3UU;3E;3AI;3MON II;4O;3E ABOVE;1SIGN ANUSVARA;2DOT BELOW;2VISARGA",
  "1039 MYANMAR SIGN VIRAMA;2ASAT;1CONSONANT SIGN MEDIAL YA;4RA;4WA;4HA;1LETTER GREAT SA",
  "1040 MYANMAR DIGIT ZERO;2ONE;2TWO;2THREE;2FOUR;2FIVE;2SIX;2SEVEN;2EIGHT;2NINE",
  "104a MYANMAR SIGN LITTLE SECTION;2SECTION;1SYMBOL LOCATIVE;2COMPLETED;2AFOREMENTIONED;2GENITIVE",
  "1050 MYANMAR LETTER SHA;2SSA;2VOCALIC R;3RR;3L;3LL;1VOWEL SIGN VOCALIC R;4RR;4L;4LL",
  "105a MYANMAR LETTER MON NGA;3JHA;3BBA;3BBE;1CONSONANT SIGN MON MEDIAL NA;5MA;5LA",
  "1061 MYANMAR LETTER SGAW KAREN SHA;1VOWEL SIGN SGAW KAREN EU;1TONE MARK SGAW KAREN HATHI",
  "1064 MYANMAR TONE MARK SGAW KAREN KE PHO;1LETTER WESTERN PWO KAREN THA;5PWA",
  "1067 MYANMAR VOWEL SIGN WESTERN PWO KAREN EU;6UE;1SIGN WESTERN PWO KAREN TONE-1;5TONE-2;5TONE-3",
  "106c MYANMAR SIGN WESTERN PWO KAREN TONE-4;5TONE-5;1LETTER EASTERN PWO KAREN NNA;5YWA;5GHWA",
  "1071 MYANMAR VOWEL SIGN GEBA KAREN I;3KAYAH OE;4U;4EE;1LETTER SHAN KA;3KHA;3GA;3CA;3ZA;3NYA;3DA",
  "107c MYANMAR LETTER SHAN NA;3PHA;3FA;3BA;3THA;3HA;1CONSONANT SIGN SHAN MEDIAL WA",
  "1083 MYANMAR VOWEL SIGN SHAN AA;4E;5ABOVE;4FINAL Y;1SIGN SHAN TONE-2;3TONE-3;3TONE-5;3TONE-6",
  "108b MYANMAR SIGN SHAN COUNCIL TONE-2;4TONE-3;4EMPHATIC TONE;1LETTER RUMAI PALAUNG FA",
  "108f MYANMAR SIGN RUMAI PALAUNG TONE-5;1SHAN DIGIT ZERO;3ONE;3TWO;3THREE;3FOUR;3FIVE;3SIX",
  "1097 MYANMAR SHAN DIGIT SEVEN;3EIGHT;3NINE;1SIGN KHAMTI TONE-1;3TONE-3;1VOWEL SIGN AITON A;4AI",
  "109e MYANMAR SYMBOL SHAN ONE;3EXCLAMATION;0GEORGIAN CAPITAL LETTER AN;3BAN;3GAN;3DON;3EN;3VIN",
  "10a6 GEORGIAN CAPITAL LETTER ZEN;3TAN;3IN;3KAN;3LAS;3MAN;3NAR;3ON;3PAR;3ZHAR;3RAE;3SAN;3TAR;3UN",
  "10b4 GEORGIAN CAPITAL LETTER PHAR;3KHAR;3GHAN;3QAR;3SHIN;3CHIN;3CAN;3JIL;3CIL;3CHAR;3XAN;3JHAN",
  "10c0 GEORGIAN CAPITAL LETTER HAE;3HE;3HIE;3WE;3HAR;3HOE",
  "10c7 GEORGIAN CAPITAL LETTER YN",
  "10cd GEORGIAN CAPITAL LETTER AEN",
  "10d0 GEORGIAN LETTER AN;2BAN;2GAN;2DON;2EN;2VIN;2ZEN;2TAN;2IN;2KAN;2LAS;2MAN;2NAR;2ON;2PAR",
  "10df GEORGIAN LETTER ZHAR;2RAE;2SAN;2TAR;2UN;2PHAR;2KHAR;2GHAN;2QAR;2SHIN;2CHIN;2CAN;2JIL;2CIL",
  "10ed GEORGIAN LETTER CHAR;2XAN;2JHAN;2HAE;2HE;2HIE;2WE;2HAR;2HOE;2FI;2YN;2ELIFI;2TURNED GAN",
  "10fa GEORGIAN LETTER AIN;1PARAGRAPH SEPARATOR;0MODIFIER LETTER GEORGIAN NAR",
  "10fd GEORGIAN LETTER AEN;2HARD SIGN;2LABIAL SIGN;0HANGUL CHOSEONG KIYEOK;2SSANGKIYEOK;2NIEUN",
  "1103 HANGUL CHOSEONG TIKEUT;2SSANGTIKEUT;2RIEUL;2MIEUM;2PIEUP;2SSANGPIEUP;2SIOS;2SSANGSIOS",
  "110b HANGUL CHOSEONG IEUNG;2CIEUC;2SSANGCIEUC;2CHIEUCH;2KHIEUKH;2THIEUTH;2PHIEUPH;2HIEUH",
  "1113 HANGUL CHOSEONG NIEUN-KIYEOK;2SSANGNIEUN;2NIEUN-TIKEUT;2NIEUN-PIEUP;2TIKEUT-KIYEOK",
  "1118 HANGUL CHOSEONG RIEUL-NIEUN;2SSANGRIEUL;2RIEUL-HIEUH;2KAPYEOUNRIEUL;2MIEUM-PIEUP",
  "111d HANGUL CHOSEONG KAPYEOUNMIEUM;2PIEUP-KIYEOK;2PIEUP-NIEUN;2PIEUP-TIKEUT;2PIEUP-SIOS",
  "1122 HANGUL CHOSEONG PIEUP-SIOS-KIYEOK;2PIEUP-SIOS-TIKEUT;2PIEUP-SIOS-PIEUP;2PIEUP-SSANGSIOS",
  "1126 HANGUL CHOSEONG PIEUP-SIOS-CIEUC;2PIEUP-CIEUC;2PIEUP-CHIEUCH;2PIEUP-THIEUTH;2PIEUP-PHIEUPH",
  "112b HANGUL CHOSEONG KAPYEOUNPIEUP;2KAPYEOUNSSANGPIEUP;2SIOS-KIYEOK;2SIOS-NIEUN;2SIOS-TIKEUT",
  "1130 HANGUL CHOSEONG SIOS-RIEUL;2SIOS-MIEUM;2SIOS-PIEUP;2SIOS-PIEUP-KIYEOK;2SIOS-SSANGSIOS",
  "1135 HANGUL CHOSEONG SIOS-IEUNG;2SIOS-CIEUC;2SIOS-CHIEUCH;2SIOS-KHIEUKH;2SIOS-THIEUTH",
  "113a HANGUL CHOSEONG SIOS-PHIEUPH;2SIOS-HIEUH;2CHITUEUMSIOS;2CHITUEUMSSANGSIOS;2CEONGCHIEUMSIOS",
  "113f HANGUL CHOSEONG CEONGCHIEUMSSANGSIOS;2PANSIOS;2IEUNG-KIYEOK;2IEUNG-TIKEUT;2IEUNG-MIEUM",
  "1144 HANGUL CHOSEONG IEUNG-PIEUP;2IEUNG-SIOS;2IEUNG-PANSIOS;2SSANGIEUNG;2IEUNG-CIEUC",
  "1149 HANGUL CHOSEONG IEUNG-CHIEUCH;2IEUNG-THIEUTH;2IEUNG-PHIEUPH;2YESIEUNG;2CIEUC-IEUNG",
  "114e HANGUL CHOSEONG CHITUEUMCIEUC;2CHITUEUMSSANGCIEUC;2CEONGCHIEUMCIEUC;2CEONGCHIEUMSSANGCIEUC",
  "1152 HANGUL CHOSEONG CHIEUCH-KHIEUKH;2CHIEUCH-HIEUH;2CHITUEUMCHIEUCH;2CEONGCHIEUMCHIEUCH",
  "1156 HANGUL CHOSEONG PHIEUPH-PIEUP;2KAPYEOUNPHIEUPH;2SSANGHIEUH;2YEORINHIEUH;2KIYEOK-TIKEUT",
  "115b HANGUL CHOSEONG NIEUN-SIOS;2NIEUN-CIEUC;2NIEUN-HIEUH;2TIKEUT-RIEUL;2FILLER",
  "1160 HANGUL JUNGSEONG FILLER;2A;2AE;2YA;2YAE;2EO;2E;2YEO;2YE;2O;2WA;2WAE;2OE;2YO;2U;2WEO;2WE",
  "1171 HANGUL JUNGSEONG WI;2YU;2EU;2YI;2I;2A-O;2A-U;2YA-O;2YA-YO;2EO-O;2EO-U;2EO-EU;2YEO-O;2YEO-U",
  "117f HANGUL JUNGSEONG O-EO;2O-E;2O-YE;2O-O;2O-U;2YO-YA;2YO-YAE;2YO-YEO;2YO-O;2YO-I;2U-A;2U-AE",
  "118b HANGUL JUNGSEONG U-EO-EU;2U-YE;2U-U;2YU-A;2YU-EO;2YU-E;2YU-YEO;2YU-YE;2YU-U;2YU-I;2EU-U",
  "1196 HANGUL JUNGSEONG EU-EU;2YI-U;2I-A;2I-YA;2I-O;2I-U;2I-EU;2I-ARAEA;2ARAEA;2ARAEA-EO;2ARAEA-U",
  "11a1 HANGUL JUNGSEONG ARAEA-I;2SSANGARAEA;2A-EU;2YA-U;2YEO-YA;2O-YA;2O-YAE;1JONGSEONG KIYEOK",
  "11a9 HANGUL JONGSEONG SSANGKIYEOK;2KIYEOK-SIOS;2NIEUN;2NIEUN-CIEUC;2NIEUN-HIEUH;2TIKEUT;2RIEUL",
  "11b0 HANGUL JONGSEONG RIEUL-KIYEOK;2RIEUL-MIEUM;2RIEUL-PIEUP;2RIEUL-SIOS;2RIEUL-THIEUTH",
  "11b5 HANGUL JONGSEONG RIEUL-PHIEUPH;2RIEUL-HIEUH;2MIEUM;2PIEUP;2PIEUP-SIOS;2SIOS;2SSANGSIOS",
  "11bc HANGUL JONGSEONG IEUNG;2CIEUC;2CHIEUCH;2KHIEUKH;2THIEUTH;2PHIEUPH;2HIEUH;2KIYEOK-RIEUL",
  "11c4 HANGUL JONGSEONG KIYEOK-SIOS-KIYEOK;2NIEUN-KIYEOK;2NIEUN-TIKEUT;2NIEUN-SIOS;2NIEUN-PANSIOS",
  "11c9 HANGUL JONGSEONG NIEUN-THIEUTH;2TIKEUT-KIYEOK;2TIKEUT-RIEUL;2RIEUL-KIYEOK-SIOS",
  "11cd HANGUL JONGSEONG RIEUL-NIEUN;2RIEUL-TIKEUT;2RIEUL-TIKEUT-HIEUH;2SSANGRIEUL",
  "11d1 HANGUL JONGSEONG RIEUL-MIEUM-KIYEOK;2RIEUL-MIEUM-SIOS;2RIEUL-PIEUP-SIOS;2RIEUL-PIEUP-HIEUH",
  "11d5 HANGUL JONGSEONG RIEUL-KAPYEOUNPIEUP;2RIEUL-SSANGSIOS;2RIEUL-PANSIOS;2RIEUL-KHIEUKH",
  "11d9 HANGUL JONGSEONG RIEUL-YEORINHIEUH;2MIEUM-KIYEOK;2MIEUM-RIEUL;2MIEUM-PIEUP;2MIEUM-SIOS",
  "11de HANGUL JONGSEONG MIEUM-SSANGSIOS;2MIEUM-PANSIOS;2MIEUM-CHIEUCH;2MIEUM-HIEUH;2KAPYEOUNMIEUM",
  "11e3 HANGUL JONGSEONG PIEUP-RIEUL;2PIEUP-PHIEUPH;2PIEUP-HIEUH;2KAPYEOUNPIEUP;2SIOS-KIYEOK",
  "11e8 HANGUL JONGSEONG SIOS-TIKEUT;2SIOS-RIEUL;2SIOS-PIEUP;2PANSIOS;2IEUNG-KIYEOK",
  "11ed HANGUL JONGSEONG IEUNG-SSANGKIYEOK;2SSANGIEUNG;2IEUNG-KHIEUKH;2YESIEUNG;2YESIEUNG-SIOS",
  "11f2 HANGUL JONGSEONG YESIEUNG-PANSIOS;2PHIEUPH-PIEUP;2KAPYEOUNPHIEUPH;2HIEUH-NIEUN",
  "11f6 HANGUL JONGSEONG HIEUH-RIEUL;2HIEUH-MIEUM;2HIEUH-PIEUP;2YEORINHIEUH;2KIYEOK-NIEUN",
  "11fb HANGUL JONGSEONG KIYEOK-PIEUP;2KIYEOK-CHIEUCH;2KIYEOK-KHIEUKH;2KIYEOK-HIEUH;2SSANGNIEUN",
  "1200 ETHIOPIC SYLLABLE HA;2HU;2HI;2HAA;2HEE;2HE;2HO;2HOA;2LA;2LU;2LI;2LAA;2LEE;2LE;2LO;2LWA",
  "1210 ETHIOPIC SYLLABLE HHA;2HHU;2HHI;2HHAA;2HHEE;2HHE;2HHO;2HHWA;2MA;2MU;2MI;2MAA;2MEE;2ME;2MO",
  "121f ETHIOPIC SYLLABLE MWA;2SZA;2SZU;2SZI;2SZAA;2SZEE;2SZE;2SZO;2SZWA;2RA;2RU;2RI;2RAA;2REE;2RE",
  "122e ETHIOPIC SYLLABLE RO;2RWA;2SA;2SU;2SI;2SAA;2SEE;2SE;2SO;2SWA;2SHA;2SHU;2SHI;2SHAA;2SHEE",
  "123d ETHIOPIC SYLLABLE SHE;2SHO;2SHWA;2QA;2QU;2QI;2QAA;2QEE;2QE;2QO;2QOA;2QWA",
  "124a ETHIOPIC SYLLABLE QWI;2QWAA;2QWEE;2QWE",
  "1250 ETHIOPIC SYLLABLE QHA;2QHU;2QHI;2QHAA;2QHEE;2QHE;2QHO",
  "1258 ETHIOPIC SYLLABLE QHWA",
  "125a ETHIOPIC SYLLABLE QHWI;2QHWAA;2QHWEE;2QHWE",
  "1260 ETHIOPIC SYLLABLE BA;2BU;2BI;2BAA;2BEE;2BE;2BO;2BWA;2VA;2VU;2VI;2VAA;2VEE;2VE;2VO;2VWA;2TA",
  "1271 ETHIOPIC SYLLABLE TU;2TI;2TAA;2TEE;2TE;2TO;2TWA;2CA;2CU;2CI;2CAA;2CEE;2CE;2CO;2CWA;2XA;2XU",
  "1282 ETHIOPIC SYLLABLE XI;2XAA;2XEE;2XE;2XO;2XOA;2XWA",
  "128a ETHIOPIC SYLLABLE XWI;2XWAA;2XWEE;2XWE",
  "1290 ETHIOPIC SYLLABLE NA;2NU;2NI;2NAA;2NEE;2NE;2NO;2NWA;2NYA;2NYU;2NYI;2NYAA;2NYEE;2NYE;2NYO",
  "129f ETHIOPIC SYLLABLE NYWA;2GLOTTAL A;3U;3I;3AA;3EE;3E;3O;3WA;2KA;2KU;2KI;2KAA;2KEE;2KE;2KO",
  "12af ETHIOPIC SYLLABLE KOA;2KWA",
  "12b2 ETHIOPIC SYLLABLE KWI;2KWAA;2KWEE;2KWE",
  "12b8 ETHIOPIC SYLLABLE KXA;2KXU;2KXI;2KXAA;2KXEE;2KXE;2KXO",
  "12c0 ETHIOPIC SYLLABLE KXWA",
  "12c2 ETHIOPIC SYLLABLE KXWI;2KXWAA;2KXWEE;2KXWE",
  "12c8 ETHIOPIC SYLLABLE WA;2WU;2WI;2WAA;2WEE;2WE;2WO;2WOA;2PHARYNGEAL A;3U;3I;3AA;3EE;3E;3O",
  "12d8 ETHIOPIC SYLLABLE ZA;2ZU;2ZI;2ZAA;2ZEE;2ZE;2ZO;2ZWA;2ZHA;2ZHU;2ZHI;2ZHAA;2ZHEE;2ZHE;2ZHO",
  "12e7 ETHIOPIC SYLLABLE ZHWA;2YA;2YU;2YI;2YAA;2YEE;2YE;2YO;2YOA;2DA;2DU;2DI;2DAA;2DEE;2DE;2DO",
  "12f7 ETHIOPIC SYLLABLE DWA;2DDA;2DDU;2DDI;2DDAA;2DDEE;2DDE;2DDO;2DDWA;2JA;2JU;2JI;2JAA;2JEE;2JE",
  "1306 ETHIOPIC SYLLABLE JO;2JWA;2GA;2GU;2GI;2GAA;2GEE;2GE;2GO;2GOA;2GWA",
  "1312 ETHIOPIC SYLLABLE GWI;2GWAA;2GWEE;2GWE",
  "1318 ETHIOPIC SYLLABLE GGA;2GGU;2GGI;2GGAA;2GGEE;2GGE;2GGO;2GGWAA;2THA;2THU;2THI;2THAA;2THEE",
  "1325 ETHIOPIC SYLLABLE THE;2THO;2THWA;2CHA;2CHU;2CHI;2CHAA;2CHEE;2CHE;2CHO;2CHWA;2PHA;2PHU;2PHI",
  "1333 ETHIOPIC SYLLABLE PHAA;2PHEE;2PHE;2PHO;2PHWA;2TSA;2TSU;2TSI;2TSAA;2TSEE;2TSE;2TSO;2TSWA",
  "1340 ETHIOPIC SYLLABLE TZA;2TZU;2TZI;2TZAA;2TZEE;2TZE;2TZO;2TZOA;2FA;2FU;2FI;2FAA;2FEE;2FE;2FO",
  "134f ETHIOPIC SYLLABLE FWA;2PA;2PU;2PI;2PAA;2PEE;2PE;2PO;2PWA;2RYA;2MYA;2FYA",
  "135d ETHIOPIC COMBINING GEMINATION AND VOWEL LENGTH MARK;2VOWEL LENGTH MARK;2GEMINATION MARK",
  "1360 ETHIOPIC SECTION MARK;1WORDSPACE;1FULL STOP;1COMMA;1SEMICOLON;1COLON;1PREFACE COLON",
  "1367 ETHIOPIC QUESTION MARK;1PARAGRAPH SEPARATOR;1DIGIT ONE;2TWO;2THREE;2FOUR;2FIVE;2SIX;2SEVEN",
  "1370 ETHIOPIC DIGIT EIGHT;2NINE;1NUMBER TEN;2TWENTY;2THIRTY;2FORTY;2FIFTY;2SIXTY;2SEVENTY",
  "1379 ETHIOPIC NUMBER EIGHTY;2NINETY;2HUNDRED;2TEN THOUSAND",
  "1380 ETHIOPIC SYLLABLE SEBATBEIT MWA;2MWI;2MWEE;2MWE;2SEBATBEIT BWA;2BWI;2BWEE;2BWE",
  "1388 ETHIOPIC SYLLABLE SEBATBEIT FWA;2FWI;2FWEE;2FWE;2SEBATBEIT PWA;2PWI;2PWEE;2PWE",
  "1390 ETHIOPIC TONAL MARK YIZET;3DERET;3RIKRIK;3SHORT RIKRIK;3DIFAT;3KENAT;3CHIRET;3HIDET",
  "1398 ETHIOPIC TONAL MARK DERET-HIDET;3KURT",
  "13a0 CHEROKEE LETTER A;2E;2I;2O;2U;2V;2GA;2KA;2GE;2GI;2GO;2GU;2GV;2HA;2HE;2HI;2HO;2HU;2HV;2LA",
  "13b4 CHEROKEE LETTER LE;2LI;2LO;2LU;2LV;2MA;2ME;2MI;2MO;2MU;2NA;2HNA;2NAH;2NE;2NI;2NO;2NU;2NV",
  "13c6 CHEROKEE LETTER QUA;2QUE;2QUI;2QUO;2QUU;2QUV;2SA;2S;2SE;2SI;2SO;2SU;2SV;2DA;2TA;2DE;2TE",
  "13d7 CHEROKEE LETTER DI;2TI;2DO;2DU;2DV;2DLA;2TLA;2TLE;2TLI;2TLO;2TLU;2TLV;2TSA;2TSE;2TSI;2TSO",
  "13e7 CHEROKEE LETTER TSU;2TSV;2WA;2WE;2WI;2WO;2WU;2WV;2YA;2YE;2YI;2YO;2YU;2YV;2MV",
  "13f8 CHEROKEE SMALL LETTER YE;3YI;3YO;3YU;3YV;3MV",
  "1400 CANADIAN SYLLABICS HYPHEN;2E;2AAI;2I;2II;2O;2OO;2Y-CREE OO;2CARRIER EE;3I;2A;2AA;2WE",
  "140d CANADIAN SYLLABICS WEST-CREE WE;2WI;2WEST-CREE WI;2WII;2WEST-CREE WII;2WO;2WEST-CREE WO",
  "1414 CANADIAN SYLLABICS WOO;2WEST-CREE WOO;2NASKAPI WOO;2WA;2WEST-CREE WA;2WAA;2WEST-CREE WAA",
  "141b CANADIAN SYLLABICS NASKAPI WAA;2AI;2Y-CREE W;2GLOTTAL STOP;2FINAL ACUTE;3GRAVE",
  "1421 CANADIAN SYLLABICS FINAL BOTTOM HALF RING;3TOP HALF RING;3RIGHT HALF RING;3RING",
  "1425 CANADIAN SYLLABICS FINAL DOUBLE ACUTE;4SHORT VERTICAL STROKES;3MIDDLE DOT",
  "1428 CANADIAN SYLLABICS FINAL SHORT HORIZONTAL STROKE;3PLUS;3DOWN TACK;2EN;2IN;2ON;2AN;2PE",
  "1430 CANADIAN SYLLABICS PAAI;2PI;2PII;2PO;2POO;2Y-CREE POO;2CARRIER HEE;3HI;2PA;2PAA;2PWE",
  "143b CANADIAN SYLLABICS WEST-CREE PWE;2PWI;2WEST-CREE PWI;2PWII;2WEST-CREE PWII;2PWO",
  "1441 CANADIAN SYLLABICS WEST-CREE PWO;2PWOO;2WEST-CREE PWOO;2PWA;2WEST-CREE PWA;2PWAA",
  "1447 CANADIAN SYLLABICS WEST-CREE PWAA;2Y-CREE PWAA;2P;2WEST-CREE P;2CARRIER H;2TE;2TAAI;2TI",
  "144f CANADIAN SYLLABICS TII;2TO;2TOO;2Y-CREE TOO;2CARRIER DEE;3DI;2TA;2TAA;2TWE;2WEST-CREE TWE",
  "1459 CANADIAN SYLLABICS TWI;2WEST-CREE TWI;2TWII;2WEST-CREE TWII;2TWO;2WEST-CREE TWO;2TWOO",
  "1460 CANADIAN SYLLABICS WEST-CREE TWOO;2TWA;2WEST-CREE TWA;2TWAA;2WEST-CREE TWAA;2NASKAPI TWAA",
  "1466 CANADIAN SYLLABICS T;2TTE;2TTI;2TTO;2TTA;2KE;2KAAI;2KI;2KII;2KO;2KOO;2Y-CREE KOO;2KA;2KAA",
  "1474 CANADIAN SYLLABICS KWE;2WEST-CREE KWE;2KWI;2WEST-CREE KWI;2KWII;2WEST-CREE KWII;2KWO",
  "147b CANADIAN SYLLABICS WEST-CREE KWO;2KWOO;2WEST-CREE KWOO;2KWA;2WEST-CREE KWA;2KWAA",
  "1481 CANADIAN SYLLABICS WEST-CREE KWAA;2NASKAPI KWAA;2K;2KW;2SOUTH-SLAVEY KEH;3KIH;3KOH;3KAH",
  "1489 CANADIAN SYLLABICS CE;2CAAI;2CI;2CII;2CO;2COO;2Y-CREE COO;2CA;2CAA;2CWE;2WEST-CREE CWE",
  "1494 CANADIAN SYLLABICS CWI;2WEST-CREE CWI;2CWII;2WEST-CREE CWII;2CWO;2WEST-CREE CWO;2CWOO",
  "149b CANADIAN SYLLABICS WEST-CREE CWOO;2CWA;2WEST-CREE CWA;2CWAA;2WEST-CREE CWAA;2NASKAPI CWAA",
  "14a1 CANADIAN SYLLABICS C;2SAYISI TH;2ME;2MAAI;2MI;2MII;2MO;2MOO;2Y-CREE MOO;2MA;2MAA;2MWE",
  "14ad CANADIAN SYLLABICS WEST-CREE MWE;2MWI;2WEST-CREE MWI;2MWII;2WEST-CREE MWII;2MWO",
  "14b3 CANADIAN SYLLABICS WEST-CREE MWO;2MWOO;2WEST-CREE MWOO;2MWA;2WEST-CREE MWA;2MWAA",
  "14b9 CANADIAN SYLLABICS WEST-CREE MWAA;2NASKAPI MWAA;2M;2WEST-CREE M;2MH;2ATHAPASCAN M",
  "14bf CANADIAN SYLLABICS SAYISI M;2NE;2NAAI;2NI;2NII;2NO;2NOO;2Y-CREE NOO;2NA;2NAA;2NWE",
  "14ca CANADIAN SYLLABICS WEST-CREE NWE;2NWA;2WEST-CREE NWA;2NWAA;2WEST-CREE NWAA;2NASKAPI NWAA",
  "14d0 CANADIAN SYLLABICS N;2CARRIER NG;2NH;2LE;2LAAI;2LI;2LII;2LO;2LOO;2Y-CREE LOO;2LA;2LAA;2LWE",
  "14dd CANADIAN SYLLABICS WEST-CREE LWE;2LWI;2WEST-CREE LWI;2LWII;2WEST-CREE LWII;2LWO",
  "14e3 CANADIAN SYLLABICS WEST-CREE LWO;2LWOO;2WEST-CREE LWOO;2LWA;2WEST-CREE LWA;2LWAA",
  "14e9 CANADIAN SYLLABICS WEST-CREE LWAA;2L;2WEST-CREE L;2MEDIAL L;2SE;2SAAI;2SI;2SII;2SO;2SOO",
  "14f3 CANADIAN SYLLABICS Y-CREE SOO;2SA;2SAA;2SWE;2WEST-CREE SWE;2SWI;2WEST-CREE SWI;2SWII",
  "14fb CANADIAN SYLLABICS WEST-CREE SWII;2SWO;2WEST-CREE SWO;2SWOO;2WEST-CREE SWOO;2SWA",
  "1501 CANADIAN SYLLABICS WEST-CREE SWA;2SWAA;2WEST-CREE SWAA;2NASKAPI SWAA;2S;2ATHAPASCAN S;2SW",
  "1508 CANADIAN SYLLABICS BLACKFOOT S;2MOOSE-CREE SK;2NASKAPI SKW;3S-W;3SPWA;3STWA;3SKWA;3SCWA",
  "1510 CANADIAN SYLLABICS SHE;2SHI;2SHII;2SHO;2SHOO;2SHA;2SHAA;2SHWE;2WEST-CREE SHWE;2SHWI",
  "151a CANADIAN SYLLABICS WEST-CREE SHWI;2SHWII;2WEST-CREE SHWII;2SHWO;2WEST-CREE SHWO;2SHWOO",
  "1520 CANADIAN SYLLABICS WEST-CREE SHWOO;2SHWA;2WEST-CREE SHWA;2SHWAA;2WEST-CREE SHWAA;2SH;2YE",
  "1527 CANADIAN SYLLABICS YAAI;2YI;2YII;2YO;2YOO;2Y-CREE YOO;2YA;2YAA;2YWE;2WEST-CREE YWE;2YWI",
  "1532 CANADIAN SYLLABICS WEST-CREE YWI;2YWII;2WEST-CREE YWII;2YWO;2WEST-CREE YWO;2YWOO",
  "1538 CANADIAN SYLLABICS WEST-CREE YWOO;2YWA;2WEST-CREE YWA;2YWAA;2WEST-CREE YWAA;2NASKAPI YWAA",
  "153e CANADIAN SYLLABICS Y;2BIBLE-CREE Y;2WEST-CREE Y;2SAYISI YI;2RE;2R-CREE RE;2WEST-CREE LE",
  "1545 CANADIAN SYLLABICS RAAI;2RI;2RII;2RO;2ROO;2WEST-CREE LO;2RA;2RAA;2WEST-CREE LA;2RWAA",
  "154f CANADIAN SYLLABICS WEST-CREE RWAA;2R;2WEST-CREE R;2MEDIAL R;2FE;2FAAI;2FI;2FII;2FO;2FOO",
  "1559 CANADIAN SYLLABICS FA;2FAA;2FWAA;2WEST-CREE FWAA;2F;2THE;2N-CREE THE;2THI;2N-CREE THI",
  "1562 CANADIAN SYLLABICS THII;2N-CREE THII;2THO;2THOO;2THA;2THAA;2THWAA;2WEST-CREE THWAA;2TH",
  "156b CANADIAN SYLLABICS TTHE;2TTHI;2TTHO;2TTHA;2TTH;2TYE;2TYI;2TYO;2TYA;2NUNAVIK HE;3HI;3HII",
  "1577 CANADIAN SYLLABICS NUNAVIK HO;3HOO;3HA;3HAA;3H;2NUNAVUT H;2HK;2QAAI;2QI;2QII;2QO;2QOO;2QA",
  "1584 CANADIAN SYLLABICS QAA;2Q;2TLHE;2TLHI;2TLHO;2TLHA;2WEST-CREE RE;3RI;3RO;3RA;2NGAAI;2NGI",
  "1590 CANADIAN SYLLABICS NGII;2NGO;2NGOO;2NGA;2NGAA;2NG;2NNG;2SAYISI SHE;3SHI;3SHO;3SHA",
  "159b CANADIAN SYLLABICS WOODS-CREE THE;3THI;3THO;3THA;3TH;2LHI;2LHII;2LHO;2LHOO;2LHA;2LHAA;2LH",
  "15a7 CANADIAN SYLLABICS TH-CREE THE;3THI;3THII;3THO;3THOO;3THA;3THAA;3TH;2AIVILIK B",
  "15b0 CANADIAN SYLLABICS BLACKFOOT E;3I;3O;3A;3WE;3WI;3WO;3WA;3NE;3NI;3NO;3NA;3KE;3KI;3KO;3KA",
  "15c0 CANADIAN SYLLABICS SAYISI HE;3HI;3HO;3HA;2CARRIER GHU;3GHO;3GHE;3GHEE;3GHI;3GHA;3RU;3RO",
  "15cc CANADIAN SYLLABICS CARRIER RE;3REE;3RI;3RA;3WU;3WO;3WE;3WEE;3WI;3WA;3HWU;3HWO;3HWE;3HWEE",
  "15da CANADIAN SYLLABICS CARRIER HWI;3HWA;3THU;3THO;3THE;3THEE;3THI;3THA;3TTU;3TTO;3TTE;3TTEE",
  "15e6 CANADIAN SYLLABICS CARRIER TTI;3TTA;3PU;3PO;3PE;3PEE;3PI;3PA;3P;3GU;3GO;3GE;3GEE;3GI;3GA",
  "15f5 CANADIAN SYLLABICS CARRIER KHU;3KHO;3KHE;3KHEE;3KHI;3KHA;3KKU;3KKO;3KKE;3KKEE;3KKI;3KKA",
  "1601 CANADIAN SYLLABICS CARRIER KK;3NU;3NO;3NE;3NEE;3NI;3NA;3MU;3MO;3ME;3MEE;3MI;3MA;3YU;3YO",
  "1610 CANADIAN SYLLABICS CARRIER YE;3YEE;3YI;3YA;3JU;2SAYISI JU;2CARRIER JO;3JE;3JEE;3JI",
  "161a CANADIAN SYLLABICS SAYISI JI;2CARRIER JA;3JJU;3JJO;3JJE;3JJEE;3JJI;3JJA;3LU;3LO;3LE;3LEE",
  "1626 CANADIAN SYLLABICS CARRIER LI;3LA;3DLU;3DLO;3DLE;3DLEE;3DLI;3DLA;3LHU;3LHO;3LHE;3LHEE;3LHI",
  "1633 CANADIAN SYLLABICS CARRIER LHA;3TLHU;3TLHO;3TLHE;3TLHEE;3TLHI;3TLHA;3TLU;3TLO;3TLE;3TLEE",
  "163e CANADIAN SYLLABICS CARRIER TLI;3TLA;3ZU;3ZO;3ZE;3ZEE;3ZI;3ZA;3Z;3INITIAL Z;3DZU;3DZO;3DZE",
  "164b CANADIAN SYLLABICS CARRIER DZEE;3DZI;3DZA;3SU;3SO;3SE;3SEE;3SI;3SA;3SHU;3SHO;3SHE;3SHEE",
  "1658 CANADIAN SYLLABICS CARRIER SHI;3SHA;3SH;3TSU;3TSO;3TSE;3TSEE;3TSI;3TSA;3CHU;3CHO;3CHE",
  "1664 CANADIAN SYLLABICS CARRIER CHEE;3CHI;3CHA;3TTSU;3TTSO;3TTSE;3TTSEE;3TTSI;3TTSA;2CHI SIGN",
  "166e CANADIAN SYLLABICS FULL STOP;2QAI;2NGAI;2NNGI;2NNGII;2NNGO;2NNGOO;2NNGA;2NNGAA",
  "1677 CANADIAN SYLLABICS WOODS-CREE THWEE;3THWI;3THWII;3THWO;3THWOO;3THWA;3THWAA;3FINAL TH",
  "167f CANADIAN SYLLABICS BLACKFOOT W;0OGHAM SPACE MARK;1LETTER BEITH;2LUIS;2FEARN;2SAIL;2NION",
  "1686 OGHAM LETTER UATH;2DAIR;2TINNE;2COLL;2CEIRT;2MUIN;2GORT;2NGEADAL;2STRAIF;2RUIS;2AILM;2ONN",
  "1692 OGHAM LETTER UR;2EADHADH;2IODHADH;2EABHADH;2OR;2UILLEANN;2IFIN;2EAMHANCHOLL;2PEITH",
  "169b OGHAM FEATHER MARK;1REVERSED FEATHER MARK",
  "16a0 RUNIC LETTER FEHU FEOH FE F;2V;2URUZ UR U;2YR;2Y;2W;2THURISAZ THURS THORN;2ETH;2ANSUZ A",
  "16a9 RUNIC LETTER OS O;2AC A;2AESC;2LONG-BRANCH-OSS O;2SHORT-TWIG-OSS O;2O;2OE;2ON",
  "16b1 RUNIC LETTER RAIDO RAD REID R;2KAUNA;2CEN;2KAUN K;2G;2ENG;2GEBO GYFU G;2GAR;2WUNJO WYNN W",
  "16ba RUNIC LETTER HAGLAZ H;2HAEGL H;2LONG-BRANCH-HAGALL H;2SHORT-TWIG-HAGALL H",
  "16be RUNIC LETTER NAUDIZ NYD NAUD N;2SHORT-TWIG-NAUD N;2DOTTED-N;2ISAZ IS ISS I;2E;2JERAN J",
  "16c4 RUNIC LETTER GER;2LONG-BRANCH-AR AE;2SHORT-TWIG-AR A;2IWAZ EOH;2PERTHO PEORTH P",
  "16c9 RUNIC LETTER ALGIZ EOLHX;2SOWILO S;2SIGEL LONG-BRANCH-SOL S;2SHORT-TWIG-SOL S;2C;2Z",
  "16cf RUNIC LETTER TIWAZ TIR TYR T;2SHORT-TWIG-TYR T;2D;2BERKANAN BEORC BJARKAN B",
  "16d3 RUNIC LETTER SHORT-TWIG-BJARKAN B;2DOTTED-P;2OPEN-P;2EHWAZ EH E;2MANNAZ MAN M",
  "16d8 RUNIC LETTER LONG-BRANCH-MADR M;2SHORT-TWIG-MADR M;2LAUKAZ LAGU LOGR L;2DOTTED-L;2INGWAZ",
  "16dd RUNIC LETTER ING;2DAGAZ DAEG D;2OTHALAN ETHEL O;2EAR;2IOR;2CWEORTH;2CALC;2CEALC;2STAN",
  "16e6 RUNIC LETTER LONG-BRANCH-YR;2SHORT-TWIG-YR;2ICELANDIC-YR;2Q;2X;1SINGLE PUNCTUATION",
  "16ec RUNIC MULTIPLE PUNCTUATION;1CROSS PUNCTUATION;1ARLAUG SYMBOL;1TVIMADUR SYMBOL",
  "16f0 RUNIC BELGTHOR SYMBOL;1LETTER K;2SH;2OO;2FRANKS CASKET OS;4IS;4EH;4AC;4AESC",
  "1700 TAGALOG LETTER A;2I;2U;2KA;2GA;2NGA;2TA;2DA;2NA;2PA;2BA;2MA;2YA;2RA;2LA;2WA;2SA;2HA",
  "1712 TAGALOG VOWEL SIGN I;3U;1SIGN VIRAMA;2PAMUDPOD",
  "171f TAGALOG LETTER ARCHAIC RA;0HANUNOO LETTER A;2I;2U;2KA;2GA;2NGA;2TA;2DA;2NA;2PA;2BA;2MA;2YA",
  "172d HANUNOO LETTER RA;2LA;2WA;2SA;2HA;1VOWEL SIGN I;3U;1SIGN PAMUDPOD",
  "1735 PHILIPPINE SINGLE PUNCTUATION;1DOUBLE PUNCTUATION",
  "1740 BUHID LETTER A;2I;2U;2KA;2GA;2NGA;2TA;2DA;2NA;2PA;2BA;2MA;2YA;2RA;2LA;2WA;2SA;2HA",
  "1752 BUHID VOWEL SIGN I;3U",
  "1760 TAGBANWA LETTER A;2I;2U;2KA;2GA;2NGA;2TA;2DA;2NA;2PA;2BA;2MA;2YA",
  "176e TAGBANWA LETTER LA;2WA;2SA",
  "1772 TAGBANWA VOWEL SIGN I;3U",
  "1780 KHMER LETTER KA;2KHA;2KO;2KHO;2NGO;2CA;2CHA;2CO;2CHO;2NYO;2DA;2TTHA;2DO;2TTHO;2NNO;2TA",
  "1790 KHMER LETTER THA;2TO;2THO;2NO;2BA;2PHA;2PO;2PHO;2MO;2YO;2RO;2LO;2VO;2SHA;2SSO;2SA;2HA;2LA",
  "17a2 KHMER LETTER QA;1INDEPENDENT VOWEL QAQ;3QAA;3QI;3QII;3QU;3QUK;3QUU;3QUUV;3RY;3RYY;3LY;3LYY",
  "17af KHMER INDEPENDENT VOWEL QE;3QAI;3QOO TYPE ONE;5TWO;3QAU;1VOWEL INHERENT AQ;3AA;2SIGN AA;3I",
  "17b8 KHMER VOWEL SIGN II;3Y;3YY;3U;3UU;3UA;3OE;3YA;3IE;3E;3AE;3AI;3OO;3AU;1SIGN NIKAHIT",
  "17c7 KHMER SIGN REAHMUK;2YUUKALEAPINTU;2MUUSIKATOAN;2TRIISAP;2BANTOC;2ROBAT;2TOANDAKHIAT",
  "17ce KHMER SIGN KAKABAT;2AHSDA;2SAMYOK SANNYA;2VIRIAM;2COENG;2BATHAMASAT;2KHAN;2BARIYOOSAN",
  "17d6 KHMER SIGN CAMNUC PII KUUH;2LEK TOO;2BEYYAL;2PHNAEK MUAN;2KOOMUUT;1CURRENCY SYMBOL RIEL",
  "17dc KHMER SIGN AVAKRAHASANYA;2ATTHACAN",
  "17e0 KHMER DIGIT ZERO;2ONE;2TWO;2THREE;2FOUR;2FIVE;2SIX;2SEVEN;2EIGHT;2NINE",
  "17f0 KHMER SYMBOL LEK ATTAK SON;4MUOY;4PII;4BEI;4BUON;4PRAM;4PRAM-MUOY;4PRAM-PII;4PRAM-BEI",
  "17f9 KHMER SYMBOL LEK ATTAK PRAM-BUON",
  "1800 MONGOLIAN BIRGA;1ELLIPSIS;1COMMA;1FULL STOP;1COLON;1FOUR DOTS;1TODO SOFT HYPHEN",
  "1807 MONGOLIAN SIBE SYLLABLE BOUNDARY MARKER;1MANCHU COMMA;2FULL STOP;1NIRUGU",
  "180b MONGOLIAN FREE VARIATION SELECTOR ONE;4TWO;4THREE;1VOWEL SEPARATOR",
  "180f MONGOLIAN FREE VARIATION SELECTOR FOUR;1DIGIT ZERO;2ONE;2TWO;2THREE;2FOUR;2FIVE;2SIX",
  "1817 MONGOLIAN DIGIT SEVEN;2EIGHT;2NINE",
  "1820 MONGOLIAN LETTER A;2E;2I;2O;2U;2OE;2UE;2EE;2NA;2ANG;2BA;2PA;2QA;2GA;2MA;2LA;2SA;2SHA;2TA",
  "1833 MONGOLIAN LETTER DA;2CHA;2JA;2YA;2RA;2WA;2FA;2KA;2KHA;2TSA;2ZA;2HAA;2ZRA;2LHA;2ZHI;2CHI",
  "1843 MONGOLIAN LETTER TODO LONG VOWEL SIGN;3E;3I;3O;3U;3OE;3UE;3ANG;3BA;3PA;3QA;3GA;3MA;3TA;3DA",
  "1852 MONGOLIAN LETTER TODO CHA;3JA;3TSA;3YA;3WA;3KA;3GAA;3HAA;3JIA;3NIA;3DZA;2SIBE E;3I;3IY;3UE",
  "1861 MONGOLIAN LETTER SIBE U;3ANG;3KA;3GA;3HA;3PA;3SHA;3TA;3DA;3JA;3FA;3GAA;3HAA;3TSA;3ZA;3RAA",
  "1871 MONGOLIAN LETTER SIBE CHA;3ZHA;2MANCHU I;3KA;3RA;3FA;3ZHA;2CHA WITH TWO DOTS",
  "1880 MONGOLIAN LETTER ALI GALI ANUSVARA ONE;4VISARGA ONE;4DAMARU;4UBADAMA;4INVERTED UBADAMA",
  "1885 MONGOLIAN LETTER ALI GALI BALUDA;4THREE BALUDA;4A;4I;4KA;4NGA;4CA;4TTA;4TTHA;4DDA;4NNA;4TA",
  "1891 MONGOLIAN LETTER ALI GALI DA;4PA;4PHA;4SSA;4ZHA;4ZA;4AH;2TODO ALI GALI TA;5ZHA",
  "189a MONGOLIAN LETTER MANCHU ALI GALI GHA;5NGA;5CA;5JHA;5TTA;5DDHA;5TA;5DHA;5SSA;5CYA;5ZHA;5ZA",
  "18a6 MONGOLIAN LETTER ALI GALI HALF U;5YA;2MANCHU ALI GALI BHA;2ALI GALI DAGALGA",
  "18aa MONGOLIAN LETTER MANCHU ALI GALI LHA",
  "18b0 CANADIAN SYLLABICS OY;2AY;2AAY;2WAY;2POY;2PAY;2PWOY;2TAY;2KAY;2KWAY;2MAY;2NOY;2NAY;2LAY",
  "18be CANADIAN SYLLABICS SOY;2SAY;2SHOY;2SHAY;2SHWOY;2YOY;2YAY;2RAY;2NWI;2OJIBWAY NWI;2NWII",
  "18c9 CANADIAN SYLLABICS OJIBWAY NWII;2NWO;2OJIBWAY NWO;2NWOO;2OJIBWAY NWOO;2RWEE;2RWI;2RWII",
  "18d1 CANADIAN SYLLABICS RWO;2RWOO;2RWA;2OJIBWAY P;3T;3K;3C;3M;3N;3S;3SH;2EASTERN W;2WESTERN W",
  "18de CANADIAN SYLLABICS FINAL SMALL RING;3RAISED DOT;2R-CREE RWE;2WEST-CREE LOO;3LAA;2THWE",
  "18e4 CANADIAN SYLLABICS THWA;2TTHWE;2TTHOO;2TTHAA;2TLHWE;2TLHOO;2SAYISI SHWE;3SHOO;3HOO",
  "18ed CANADIAN SYLLABICS CARRIER GWU;3DENE GEE;3GAA;3GWA;2SAYISI JUU;2CARRIER JWA;2BEAVER DENE L",
  "18f4 CANADIAN SYLLABICS BEAVER DENE R;2CARRIER DENTAL S",
  "1900 LIMBU VOWEL-CARRIER LETTER;1LETTER KA;2KHA;2GA;2GHA;2NGA;2CA;2CHA;2JA;2JHA;2YAN;2TA;2THA",
  "190d LIMBU LETTER DA;2DHA;2NA;2PA;2PHA;2BA;2BHA;2MA;2YA;2RA;2LA;2WA;2SHA;2SSA;2SA;2HA;2GYAN",
  "191e LIMBU LETTER TRA",
  "1920 LIMBU VOWEL SIGN A;3I;3U;3EE;3AI;3OO;3AU;3E;3O;1SUBJOINED LETTER YA;3RA;3WA",
  "1930 LIMBU SMALL LETTER KA;3NGA;3ANUSVARA;3TA;3NA;3PA;3MA;3RA;3LA;1SIGN MUKPHRENG;2KEMPHRENG",
  "193b LIMBU SIGN SA-I",
  "1940 LIMBU SIGN LOO",
  "1944 LIMBU EXCLAMATION MARK;1QUESTION MARK;1DIGIT ZERO;2ONE;2TWO;2THREE;2FOUR;2FIVE;2SIX;2SEVEN",
  "194e LIMBU DIGIT EIGHT;2NINE;0TAI LE LETTER KA;3XA;3NGA;3TSA;3SA;3YA;3TA;3THA;3LA;3PA;3PHA;3MA",
  "195c TAI LE LETTER FA;3VA;3HA;3QA;3KHA;3TSHA;3NA;3A;3I;3EE;3EH;3U;3OO;3O;3UE;3E;3AUE;3AI",
  "1970 TAI LE LETTER TONE-2;3TONE-3;3TONE-4;3TONE-5;3TONE-6",
  "1980 NEW TAI LUE LETTER HIGH QA;4LOW QA;4HIGH KA;5XA;5NGA;4LOW KA;5XA;5NGA;4HIGH TSA;5SA;5YA",
  "198b NEW TAI LUE LETTER LOW TSA;5SA;5YA;4HIGH TA;5THA;5NA;4LOW TA;5THA;5NA;4HIGH PA;5PHA;5MA",
  "1997 NEW TAI LUE LETTER LOW PA;5PHA;5MA;4HIGH FA;5VA;5LA;4LOW FA;5VA;5LA;4HIGH HA;5DA;5BA",
  "19a3 NEW TAI LUE LETTER LOW HA;5DA;5BA;4HIGH KVA;5XVA;4LOW KVA;5XVA;4HIGH SUA;4LOW SUA",
  "19b0 NEW TAI LUE VOWEL SIGN VOWEL SHORTENER;5AA;5II;5U;5UU;5E;5AE;5O;5OA;5UE;5AY;5AAY;5UY;5OY",
  "19be NEW TAI LUE VOWEL SIGN OAY;5UEY;5IY;3LETTER FINAL V;5NG;5N;5M;5K;5D;5B;3TONE MARK-1",
  "19c9 NEW TAI LUE TONE MARK-2",
  "19d0 NEW TAI LUE DIGIT ZERO;4ONE;4TWO;4THREE;4FOUR;4FIVE;4SIX;4SEVEN;4EIGHT;4NINE",
  "19da NEW TAI LUE THAM DIGIT ONE",
  "19de NEW TAI LUE SIGN LAE;4LAEV;0KHMER SYMBOL PATHAMASAT;2MUOY KOET;2PII KOET;2BEI KOET",
  "19e4 KHMER SYMBOL BUON KOET;2PRAM KOET;2PRAM-MUOY KOET;2PRAM-PII KOET;2PRAM-BEI KOET",
  "19e9 KHMER SYMBOL PRAM-BUON KOET;2DAP KOET;2DAP-MUOY KOET;2DAP-PII KOET;2DAP-BEI KOET",
  "19ee KHMER SYMBOL DAP-BUON KOET;2DAP-PRAM KOET;2TUTEYASAT;2MUOY ROC;2PII ROC;2BEI ROC;2BUON ROC",
  "19f5 KHMER SYMBOL PRAM ROC;2PRAM-MUOY ROC;2PRAM-PII ROC;2PRAM-BEI ROC;2PRAM-BUON ROC;2DAP ROC",
  "19fb KHMER SYMBOL DAP-MUOY ROC;2DAP-PII ROC;2DAP-BEI ROC;2DAP-BUON ROC;2DAP-PRAM ROC",
  "1a00 BUGINESE LETTER KA;2GA;2NGA;2NGKA;2PA;2BA;2MA;2MPA;2TA;2DA;2NA;2NRA;2CA;2JA;2NYA;2NYCA;2YA",
  "1a11 BUGINESE LETTER RA;2LA;2VA;2SA;2A;2HA;1VOWEL SIGN I;3U;3E;3O;3AE",
  "1a1e BUGINESE PALLAWA;1END OF SECTION;0TAI THAM LETTER HIGH KA;4KHA;4KXA;3LOW KA;4KXA;4KHA;3NGA",
  "1a27 TAI THAM LETTER HIGH CA;4CHA;3LOW CA;4SA;4CHA;3NYA;3RATA;3HIGH RATHA;3DA;3LOW RATHA;3RANA",
  "1a32 TAI THAM LETTER HIGH TA;4THA;3LOW TA;4THA;3NA;3BA;3HIGH PA;4PHA;4FA;3LOW PA;4FA;4PHA;3MA",
  "1a3f TAI THAM LETTER LOW YA;3HIGH YA;3RA;3RUE;3LA;3LUE;3WA;3HIGH SHA;4SSA;4SA;4HA;3LLA;3A",
  "1a4c TAI THAM LETTER LOW HA;3I;3II;3U;3UU;3EE;3OO;3LAE;3GREAT SA;2CONSONANT SIGN MEDIAL RA;5LA",
  "1a57 TAI THAM CONSONANT SIGN LA TANG LAI;2SIGN MAI KANG LAI;2CONSONANT SIGN FINAL NGA;4LOW PA",
  "1a5b TAI THAM CONSONANT SIGN HIGH RATHA OR LOW PA;4MA;4BA;4SA",
  "1a60 TAI THAM SIGN SAKOT;2VOWEL SIGN A;4MAI SAT;4AA;4TALL AA;4I;4II;4UE;4UUE;4U;4UU;4O",
  "1a6c TAI THAM VOWEL SIGN OA BELOW;4OY;4E;4AE;4OO;4AI;4THAM AI;4OA ABOVE;2SIGN MAI KANG;3TONE-1",
  "1a76 TAI THAM SIGN TONE-2;3KHUEN TONE-3;4TONE-4;4TONE-5;3RA HAAM;3MAI SAM;3KHUEN-LUE KARAN",
  "1a7f TAI THAM COMBINING CRYPTOGRAMMIC DOT;2HORA DIGIT ZERO;4ONE;4TWO;4THREE;4FOUR;4FIVE;4SIX",
  "1a87 TAI THAM HORA DIGIT SEVEN;4EIGHT;4NINE",
  "1a90 TAI THAM THAM DIGIT ZERO;4ONE;4TWO;4THREE;4FOUR;4FIVE;4SIX;4SEVEN;4EIGHT;4NINE",
  "1aa0 TAI THAM SIGN WIANG;3WIANGWAAK;3SAWAN;3KEOW;3HOY;3DOKMAI;3REVERSED ROTATED RANA;3MAI YAMOK",
  "1aa8 TAI THAM SIGN KAAN;3KAANKUU;3SATKAAN;3SATKAANKUU;3HANG;3CAANG",
  "1ab0 COMBINING DOUBLED CIRCUMFLEX ACCENT;1DIAERESIS-RING;1INFINITY;1DOWNWARDS ARROW;1TRIPLE DOT",
  "1ab5 COMBINING X-X BELOW;1WIGGLY LINE BELOW;1OPEN MARK BELOW;1DOUBLE OPEN MARK BELOW",
  "1ab9 COMBINING LIGHT CENTRALIZATION STROKE BELOW;1STRONG CENTRALIZATION STROKE BELOW",
  "1abb COMBINING PARENTHESES ABOVE;1DOUBLE PARENTHESES ABOVE;1PARENTHESES BELOW;2OVERLAY",
  "1abf COMBINING LATIN SMALL LETTER W BELOW;4TURNED W BELOW;1LEFT PARENTHESIS ABOVE LEFT",
  "1ac2 COMBINING RIGHT PARENTHESIS ABOVE RIGHT;1LEFT PARENTHESIS BELOW LEFT",
  "1ac4 COMBINING RIGHT PARENTHESIS BELOW RIGHT;1SQUARE BRACKETS ABOVE;1NUMBER SIGN ABOVE",
  "1ac7 COMBINING INVERTED DOUBLE ARCH ABOVE;1PLUS SIGN ABOVE;1DOUBLE PLUS SIGN ABOVE;4BELOW",
  "1acb COMBINING TRIPLE ACUTE ACCENT;1LATIN SMALL LETTER INSULAR G;5R;5T",
  "1b00 BALINESE SIGN ULU RICEM;3CANDRA;2CECEK;2SURANG;2BISAH;1LETTER AKARA;3TEDUNG;2IKARA;3TEDUNG",
  "1b09 BALINESE LETTER UKARA;3TEDUNG;2RA REPA;4TEDUNG;2LA LENGA;4TEDUNG;2EKARA;2AIKARA;2OKARA",
  "1b12 BALINESE LETTER OKARA TEDUNG;2KA;3MAHAPRANA;2GA;3GORA;2NGA;2CA;3LACA;2JA;3JERA;2NYA",
  "1b1d BALINESE LETTER TA LATIK;3MURDA MAHAPRANA;2DA MURDA ALPAPRANA;4MAHAPRANA;2NA RAMBAT;2TA",
  "1b23 BALINESE LETTER TA TAWA;2DA;3MADU;2NA;2PA;3KAPAL;2BA;3KEMBANG;2MA;2YA;2RA;2LA;2WA;2SA SAGA",
  "1b31 BALINESE LETTER SA SAPA;2SA;2HA;1SIGN REREKAN;1VOWEL SIGN TEDUNG;3ULU;4SARI;3SUKU;4ILUT",
  "1b3a BALINESE VOWEL SIGN RA REPA;5TEDUNG;3LA LENGA;5TEDUNG;3TALING;4REPA;4TEDUNG;4REPA TEDUNG",
  "1b42 BALINESE VOWEL SIGN PEPET;4TEDUNG;1ADEG ADEG;1LETTER KAF SASAK;2KHOT SASAK;2TZIR SASAK",
  "1b48 BALINESE LETTER EF SASAK;2VE SASAK;2ZAL SASAK;2ASYURA SASAK;2ARCHAIC JNYA",
  "1b50 BALINESE DIGIT ZERO;2ONE;2TWO;2THREE;2FOUR;2FIVE;2SIX;2SEVEN;2EIGHT;2NINE;1PANTI;1PAMADA",
  "1b5c BALINESE WINDU;1CARIK PAMUNGKAH;2SIKI;2PAREREN;1PAMENENG;1MUSICAL SYMBOL DONG;3DENG;3DUNG",
  "1b64 BALINESE MUSICAL SYMBOL DANG;4SURANG;3DING;3DAENG;3DEUNG;3DAING;3DANG GEDE",
  "1b6b BALINESE MUSICAL SYMBOL COMBINING TEGEH;4ENDEP;4KEMPUL;4KEMPLI;4JEGOGAN",
  "1b70 BALINESE MUSICAL SYMBOL COMBINING KEMPUL WITH JEGOGAN;4KEMPLI WITH JEGOGAN;4BENDE;4GONG",
  "1b74 BALINESE MUSICAL SYMBOL RIGHT-HAND OPEN DUG;5DAG;4CLOSED TUK;5TAK;3LEFT-HAND OPEN PANG",
  "1b79 BALINESE MUSICAL SYMBOL LEFT-HAND OPEN PUNG;4CLOSED PLAK;5PLUK;4OPEN PING;1PANTI LANTANG",
  "1b7e BALINESE PAMADA LANTANG",
  "1b80 SUNDANESE SIGN PANYECEK;2PANGLAYAR;2PANGWISAD;1LETTER A;2I;2U;2AE;2O;2E;2EU;2KA;2QA;2GA",
  "1b8d SUNDANESE LETTER NGA;2CA;2JA;2ZA;2NYA;2TA;2DA;2NA;2PA;2FA;2VA;2BA;2MA;2YA;2RA;2LA;2WA;2SA",
  "1b9f SUNDANESE LETTER XA;2HA;1CONSONANT SIGN PAMINGKAL;3PANYAKRA;3PANYIKU;1VOWEL SIGN PANGHULU",
  "1ba5 SUNDANESE VOWEL SIGN PANYUKU;3PANAELAENG;3PANOLONG;3PAMEPET;3PANEULEUNG;1SIGN PAMAAEH",
  "1bab SUNDANESE SIGN VIRAMA;1CONSONANT SIGN PASANGAN MA;4WA;1LETTER KHA;2SYA;1DIGIT ZERO;2ONE",
  "1bb2 SUNDANESE DIGIT TWO;2THREE;2FOUR;2FIVE;2SIX;2SEVEN;2EIGHT;2NINE;1AVAGRAHA;1LETTER REU;2LEU",
  "1bbd SUNDANESE LETTER BHA;2FINAL K;3M;0BATAK LETTER A;2SIMALUNGUN A;2HA;2SIMALUNGUN HA",
  "1bc4 BATAK LETTER MANDAILING HA;2BA;2KARO BA;2PA;2SIMALUNGUN PA;2NA;2MANDAILING NA;2WA",
  "1bcc BATAK LETTER SIMALUNGUN WA;2PAKPAK WA;2GA;2SIMALUNGUN GA;2JA;2DA;2RA;2SIMALUNGUN RA;2MA",
  "1bd5 BATAK LETTER SIMALUNGUN MA;2SOUTHERN TA;2NORTHERN TA;2SA;2SIMALUNGUN SA;2MANDAILING SA;2YA",
  "1bdc BATAK LETTER SIMALUNGUN YA;2NGA;2LA;2SIMALUNGUN LA;2NYA;2CA;2NDA;2MBA;2I;2U;1SIGN TOMPI",
  "1be7 BATAK VOWEL SIGN E;3PAKPAK E;3EE;3I;3KARO I;3O;3KARO O;3U;4FOR SIMALUNGUN SA",
  "1bf0 BATAK CONSONANT SIGN NG;3H;1PANGOLAT;1PANONGONAN",
  "1bfc BATAK SYMBOL BINDU NA METEK;3PINARBORAS;3JUDUL;3PANGOLAT;0LEPCHA LETTER KA;2KLA;2KHA;2GA",
  "1c04 LEPCHA LETTER GLA;2NGA;2CA;2CHA;2JA;2NYA;2TA;2THA;2DA;2NA;2PA;2PLA;2PHA;2FA;2FLA;2BA;2BLA",
  "1c15 LEPCHA LETTER MA;2MLA;2TSA;2TSHA;2DZA;2YA;2RA;2LA;2HA;2HLA;2VA;2SA;2SHA;2WA;2A",
  "1c24 LEPCHA SUBJOINED LETTER YA;3RA;1VOWEL SIGN AA;3I;3O;3OO;3U;3UU;3E;1CONSONANT SIGN K;3M;3L",
  "1c30 LEPCHA CONSONANT SIGN N;3P;3R;3T;3NYIN-DO;3KANG;1SIGN RAN;2NUKTA",
  "1c3b LEPCHA PUNCTUATION TA-ROL;2NYET THYOOM TA-ROL;2CER-WA;2TSHOOK CER-WA;2TSHOOK;1DIGIT ZERO",
  "1c41 LEPCHA DIGIT ONE;2TWO;2THREE;2FOUR;2FIVE;2SIX;2SEVEN;2EIGHT;2NINE",
  "1c4d LEPCHA LETTER TTA;2TTHA;2DDA;0OL CHIKI DIGIT ZERO;3ONE;3TWO;3THREE;3FOUR;3FIVE;3SIX;3SEVEN",
  "1c58 OL CHIKI DIGIT EIGHT;3NINE;2LETTER LA;3AT;3AG;3ANG;3AL;3LAA;3AAK;3AAJ;3AAM;3AAW;3LI;3IS",
  "1c66 OL CHIKI LETTER IH;3INY;3IR;3LU;3UC;3UD;3UNN;3UY;3LE;3EP;3EDD;3EN;3ERR;3LO;3OTT;3OB;3OV",
  "1c77 OL CHIKI LETTER OH;2MU TTUDDAG;2GAAHLAA TTUDDAAG;2MU-GAAHLAA TTUDDAAG;2RELAA;2PHAARKAA",
  "1c7d OL CHIKI AHAD;2PUNCTUATION MUCAAD;3DOUBLE MUCAAD;0CYRILLIC SMALL LETTER ROUNDED VE",
  "1c81 CYRILLIC SMALL LETTER LONG-LEGGED DE;3NARROW O;3WIDE ES;3TALL TE;3THREE-LEGGED TE",
  "1c86 CYRILLIC SMALL LETTER TALL HARD SIGN;4YAT;3UNBLENDED UK",
  "1c90 GEORGIAN MTAVRULI CAPITAL LETTER AN;4BAN;4GAN;4DON;4EN;4VIN;4ZEN;4TAN;4IN;4KAN;4LAS;4MAN",
  "1c9c GEORGIAN MTAVRULI CAPITAL LETTER NAR;4ON;4PAR;4ZHAR;4RAE;4SAN;4TAR;4UN;4PHAR;4KHAR;4GHAN",
  "1ca7 GEORGIAN MTAVRULI CAPITAL LETTER QAR;4SHIN;4CHIN;4CAN;4JIL;4CIL;4CHAR;4XAN;4JHAN;4HAE;4HE",
  "1cb2 GEORGIAN MTAVRULI CAPITAL LETTER HIE;4WE;4HAR;4HOE;4FI;4YN;4ELIFI;4TURNED GAN;4AIN",
  "1cbd GEORGIAN MTAVRULI CAPITAL LETTER AEN;4HARD SIGN;4LABIAL SIGN",
  "1cc0 SUNDANESE PUNCTUATION BINDU SURYA;3PANGLONG;3PURNAMA;3CAKRA;3LEU SATANGA;3KA SATANGA",
  "1cc6 SUNDANESE PUNCTUATION BINDU DA SATANGA;3BA SATANGA",
  "1cd0 VEDIC TONE KARSHANA;2SHARA;2PRENKHA;1SIGN NIHSHVASA;2YAJURVEDIC MIDLINE SVARITA",
  "1cd5 VEDIC TONE YAJURVEDIC AGGRAVATED INDEPENDENT SVARITA;3INDEPENDENT SVARITA",
  "1cd7 VEDIC TONE YAJURVEDIC KATHAKA INDEPENDENT SVARITA;2CANDRA BELOW",
  "1cd9 VEDIC TONE YAJURVEDIC KATHAKA INDEPENDENT SVARITA SCHROEDER;2DOUBLE SVARITA",
  "1cdb VEDIC TONE TRIPLE SVARITA;2KATHAKA ANUDATTA;2DOT BELOW;2TWO DOTS BELOW;2THREE DOTS BELOW",
  "1ce0 VEDIC TONE RIGVEDIC KASHMIRI INDEPENDENT SVARITA;2ATHARVAVEDIC INDEPENDENT SVARITA",
  "1ce2 VEDIC SIGN VISARGA SVARITA;3UDATTA;2REVERSED VISARGA UDATTA;2VISARGA ANUDATTA",
  "1ce6 VEDIC SIGN REVERSED VISARGA ANUDATTA;2VISARGA UDATTA WITH TAIL;3ANUDATTA WITH TAIL",
  "1ce9 VEDIC SIGN ANUSVARA ANTARGOMUKHA;3BAHIRGOMUKHA;3VAMAGOMUKHA;4WITH TAIL;2TIRYAK",
  "1cee VEDIC SIGN HEXIFORM LONG ANUSVARA;2LONG ANUSVARA;2RTHANG LONG ANUSVARA",
  "1cf1 VEDIC SIGN ANUSVARA UBHAYATO MUKHA;2ARDHAVISARGA;2ROTATED ARDHAVISARGA;1TONE CANDRA ABOVE",
  "1cf5 VEDIC SIGN JIHVAMULIYA;2UPADHMANIYA;2ATIKRAMA;1TONE RING ABOVE;2DOUBLE RING ABOVE",
  "1cfa VEDIC SIGN DOUBLE ANUSVARA ANTARGOMUKHA",
  "1d00 LATIN LETTER SMALL CAPITAL A;4AE;1SMALL LETTER TURNED AE;1LETTER SMALL CAPITAL BARRED B;4C",
  "1d05 LATIN LETTER SMALL CAPITAL D;4ETH;4E;1SMALL LETTER TURNED OPEN E;4I",
  "1d0a LATIN LETTER SMALL CAPITAL J;4K;4L WITH STROKE;4M;4REVERSED N;4O;4OPEN O",
  "1d11 LATIN SMALL LETTER SIDEWAYS O;4OPEN O;4O WITH STROKE;3TURNED OE;1LETTER SMALL CAPITAL OU",
  "1d16 LATIN SMALL LETTER TOP HALF O;3BOTTOM HALF O;1LETTER SMALL CAPITAL P;4REVERSED R;4TURNED R",
  "1d1b LATIN LETTER SMALL CAPITAL T;4U;1SMALL LETTER SIDEWAYS U;4DIAERESIZED U;4TURNED M",
  "1d20 LATIN LETTER SMALL CAPITAL V;4W;4Z;4EZH;2VOICED LARYNGEAL SPIRANT;2AIN",
  "1d26 GREEK LETTER SMALL CAPITAL GAMMA;4LAMDA;4PI;4RHO;4PSI;0CYRILLIC LETTER SMALL CAPITAL EL",
  "1d2c MODIFIER LETTER CAPITAL A;3AE;3B;3BARRED B;3D;3E;3REVERSED E;3G;3H;3I;3J;3K;3L;3M;3N",
  "1d3b MODIFIER LETTER CAPITAL REVERSED N;3O;3OU;3P;3R;3T;3U;3W;2SMALL A;3TURNED A;3ALPHA",
  "1d46 MODIFIER LETTER SMALL TURNED AE;3B;3D;3E;3SCHWA;3OPEN E;3TURNED OPEN E;3G;3TURNED I;3K;3M",
  "1d51 MODIFIER LETTER SMALL ENG;3O;3OPEN O;3TOP HALF O;3BOTTOM HALF O;3P;3T;3U;3SIDEWAYS U",
  "1d5a MODIFIER LETTER SMALL TURNED M;3V;3AIN;3BETA;3GREEK GAMMA;3DELTA;3GREEK PHI;3CHI",
  "1d62 LATIN SUBSCRIPT SMALL LETTER I;4R;4U;4V;0GREEK SUBSCRIPT SMALL LETTER BETA;4GAMMA;4RHO",
  "1d69 GREEK SUBSCRIPT SMALL LETTER PHI;4CHI;0LATIN SMALL LETTER UE;3B WITH MIDDLE TILDE",
  "1d6d LATIN SMALL LETTER D WITH MIDDLE TILDE;3F WITH MIDDLE TILDE;3M WITH MIDDLE TILDE",
  "1d70 LATIN SMALL LETTER N WITH MIDDLE TILDE;3P WITH MIDDLE TILDE;3R WITH MIDDLE TILDE",
  "1d73 LATIN SMALL LETTER R WITH FISHHOOK AND MIDDLE TILDE;3S WITH MIDDLE TILDE",
  "1d75 LATIN SMALL LETTER T WITH MIDDLE TILDE;3Z WITH MIDDLE TILDE;3TURNED G",
  "1d78 MODIFIER LETTER CYRILLIC EN;0LATIN SMALL LETTER INSULAR G;3TH WITH STRIKETHROUGH",
  "1d7b LATIN SMALL CAPITAL LETTER I WITH STROKE;2LETTER IOTA WITH STROKE;3P WITH STROKE",
  "1d7e LATIN SMALL CAPITAL LETTER U WITH STROKE;2LETTER UPSILON WITH STROKE;3B WITH PALATAL HOOK",
  "1d81 LATIN SMALL LETTER D WITH PALATAL HOOK;3F WITH PALATAL HOOK;3G WITH PALATAL HOOK",
  "1d84 LATIN SMALL LETTER K WITH PALATAL HOOK;3L WITH PALATAL HOOK;3M WITH PALATAL HOOK",
  "1d87 LATIN SMALL LETTER N WITH PALATAL HOOK;3P WITH PALATAL HOOK;3R WITH PALATAL HOOK",
  "1d8a LATIN SMALL LETTER S WITH PALATAL HOOK;3ESH WITH PALATAL HOOK;3V WITH PALATAL HOOK",
  "1d8d LATIN SMALL LETTER X WITH PALATAL HOOK;3Z WITH PALATAL HOOK;3A WITH RETROFLEX HOOK",
  "1d90 LATIN SMALL LETTER ALPHA WITH RETROFLEX HOOK;3D WITH HOOK AND TAIL;3E WITH RETROFLEX HOOK",
  "1d93 LATIN SMALL LETTER OPEN E WITH RETROFLEX HOOK;3REVERSED OPEN E WITH RETROFLEX HOOK",
  "1d95 LATIN SMALL LETTER SCHWA WITH RETROFLEX HOOK;3I WITH RETROFLEX HOOK",
  "1d97 LATIN SMALL LETTER OPEN O WITH RETROFLEX HOOK;3ESH WITH RETROFLEX HOOK",
  "1d99 LATIN SMALL LETTER U WITH RETROFLEX HOOK;3EZH WITH RETROFLEX HOOK",
  "1d9b MODIFIER LETTER SMALL TURNED ALPHA;3C;4WITH CURL;3ETH;3REVERSED OPEN E;3F",
  "1da1 MODIFIER LETTER SMALL DOTLESS J WITH STROKE;3SCRIPT G;3TURNED H;3I WITH STROKE;3IOTA",
  "1da6 MODIFIER LETTER SMALL CAPITAL I;5WITH STROKE;3J WITH CROSSED-TAIL;3L WITH RETROFLEX HOOK",
  "1daa MODIFIER LETTER SMALL L WITH PALATAL HOOK;3CAPITAL L;3M WITH HOOK;3TURNED M WITH LONG LEG",
  "1dae MODIFIER LETTER SMALL N WITH LEFT HOOK;5RETROFLEX HOOK;3CAPITAL N;3BARRED O;3PHI",
  "1db3 MODIFIER LETTER SMALL S WITH HOOK;3ESH;3T WITH PALATAL HOOK;3U BAR;3UPSILON;3CAPITAL U",
  "1db9 MODIFIER LETTER SMALL V WITH HOOK;3TURNED V;3Z;4WITH RETROFLEX HOOK;5CURL;3EZH;3THETA",
  "1dc0 COMBINING DOTTED GRAVE ACCENT;2ACUTE ACCENT;1SNAKE BELOW;1SUSPENSION MARK;1MACRON-ACUTE",
  "1dc5 COMBINING GRAVE-MACRON;1MACRON-GRAVE;1ACUTE-MACRON;1GRAVE-ACUTE-GRAVE;1ACUTE-GRAVE-ACUTE",
  "1dca COMBINING LATIN SMALL LETTER R BELOW;1BREVE-MACRON;1MACRON-BREVE;1DOUBLE CIRCUMFLEX ABOVE",
  "1dce COMBINING OGONEK ABOVE;1ZIGZAG BELOW;1IS BELOW;1UR ABOVE;1US ABOVE",
  "1dd3 COMBINING LATIN SMALL LETTER FLATTENED OPEN A ABOVE;4AE;4AO;4AV;4C CEDILLA;4INSULAR D;4ETH",
  "1dda COMBINING LATIN SMALL LETTER G;2LETTER SMALL CAPITAL G;2SMALL LETTER K;4L",
  "1dde COMBINING LATIN LETTER SMALL CAPITAL L;5M;2SMALL LETTER N;2LETTER SMALL CAPITAL N;5R",
  "1de3 COMBINING LATIN SMALL LETTER R ROTUNDA;4S;4LONG S;4Z;4ALPHA;4B;4BETA;4SCHWA;4F",
  "1dec COMBINING LATIN SMALL LETTER L WITH DOUBLE MIDDLE TILDE",
  "1ded COMBINING LATIN SMALL LETTER O WITH LIGHT CENTRALIZATION STROKE;4P;4ESH",
  "1df0 COMBINING LATIN SMALL LETTER U WITH LIGHT CENTRALIZATION STROKE;4W;4A WITH DIAERESIS",
  "1df3 COMBINING LATIN SMALL LETTER O WITH DIAERESIS;4U WITH DIAERESIS;1UP TACK ABOVE",
  "1df6 COMBINING KAVYKA ABOVE RIGHT;3LEFT;1DOT ABOVE LEFT;1WIDE INVERTED BRIDGE BELOW",
  "1dfa COMBINING DOT BELOW LEFT;1DELETION MARK;1DOUBLE INVERTED BREVE BELOW",
  "1dfd COMBINING ALMOST EQUAL TO BELOW;1LEFT ARROWHEAD ABOVE",
  "1dff COMBINING RIGHT ARROWHEAD AND DOWN ARROWHEAD BELOW;0LATIN CAPITAL LETTER A WITH RING BELOW",
  "1e01 LATIN SMALL LETTER A WITH RING BELOW;1CAPITAL LETTER B WITH DOT ABOVE",
  "1e03 LATIN SMALL LETTER B WITH DOT ABOVE;1CAPITAL LETTER B WITH DOT BELOW",
  "1e05 LATIN SMALL LETTER B WITH DOT BELOW;1CAPITAL LETTER B WITH LINE BELOW",
  "1e07 LATIN SMALL LETTER B WITH LINE BELOW;1CAPITAL LETTER C WITH CEDILLA AND ACUTE",
  "1e09 LATIN SMALL LETTER C WITH CEDILLA AND ACUTE;1CAPITAL LETTER D WITH DOT ABOVE",
  "1e0b LATIN SMALL LETTER D WITH DOT ABOVE;1CAPITAL LETTER D WITH DOT BELOW",
  "1e0d LATIN SMALL LETTER D WITH DOT BELOW;1CAPITAL LETTER D WITH LINE BELOW",
  "1e0f LATIN SMALL LETTER D WITH LINE BELOW;1CAPITAL LETTER D WITH CEDILLA",
  "1e11 LATIN SMALL LETTER D WITH CEDILLA;1CAPITAL LETTER D WITH CIRCUMFLEX BELOW",
  "1e13 LATIN SMALL LETTER D WITH CIRCUMFLEX BELOW;1CAPITAL LETTER E WITH MACRON AND GRAVE",
  "1e15 LATIN SMALL LETTER E WITH MACRON AND GRAVE;1CAPITAL LETTER E WITH MACRON AND ACUTE",
  "1e17 LATIN SMALL LETTER E WITH MACRON AND ACUTE;1CAPITAL LETTER E WITH CIRCUMFLEX BELOW",
  "1e19 LATIN SMALL LETTER E WITH CIRCUMFLEX BELOW;1CAPITAL LETTER E WITH TILDE BELOW",
  "1e1b LATIN SMALL LETTER E WITH TILDE BELOW;1CAPITAL LETTER E WITH CEDILLA AND BREVE",
  "1e1d LATIN SMALL LETTER E WITH CEDILLA AND BREVE;1CAPITAL LETTER F WITH DOT ABOVE",
  "1e1f LATIN SMALL LETTER F WITH DOT ABOVE;1CAPITAL LETTER G WITH MACRON",
  "1e21 LATIN SMALL LETTER G WITH MACRON;1CAPITAL LETTER H WITH DOT ABOVE",
  "1e23 LATIN SMALL LETTER H WITH DOT ABOVE;1CAPITAL LETTER H WITH DOT BELOW",
  "1e25 LATIN SMALL LETTER H WITH DOT BELOW;1CAPITAL LETTER H WITH DIAERESIS",
  "1e27 LATIN SMALL LETTER H WITH DIAERESIS;1CAPITAL LETTER H WITH CEDILLA",
  "1e29 LATIN SMALL LETTER H WITH CEDILLA;1CAPITAL LETTER H WITH BREVE BELOW",
  "1e2b LATIN SMALL LETTER H WITH BREVE BELOW;1CAPITAL LETTER I WITH TILDE BELOW",
  "1e2d LATIN SMALL LETTER I WITH TILDE BELOW;1CAPITAL LETTER I WITH DIAERESIS AND ACUTE",
  "1e2f LATIN SMALL LETTER I WITH DIAERESIS AND ACUTE;1CAPITAL LETTER K WITH ACUTE",
  "1e31 LATIN SMALL LETTER K WITH ACUTE;1CAPITAL LETTER K WITH DOT BELOW",
  "1e33 LATIN SMALL LETTER K WITH DOT BELOW;1CAPITAL LETTER K WITH LINE BELOW",
  "1e35 LATIN SMALL LETTER K WITH LINE BELOW;1CAPITAL LETTER L WITH DOT BELOW",
  "1e37 LATIN SMALL LETTER L WITH DOT BELOW;1CAPITAL LETTER L WITH DOT BELOW AND MACRON",
  "1e39 LATIN SMALL LETTER L WITH DOT BELOW AND MACRON;1CAPITAL LETTER L WITH LINE BELOW",
  "1e3b LATIN SMALL LETTER L WITH LINE BELOW;1CAPITAL LETTER L WITH CIRCUMFLEX BELOW",
  "1e3d LATIN SMALL LETTER L WITH CIRCUMFLEX BELOW;1CAPITAL LETTER M WITH ACUTE",
  "1e3f LATIN SMALL LETTER M WITH ACUTE;1CAPITAL LETTER M WITH DOT ABOVE",
  "1e41 LATIN SMALL LETTER M WITH DOT ABOVE;1CAPITAL LETTER M WITH DOT BELOW",
  "1e43 LATIN SMALL LETTER M WITH DOT BELOW;1CAPITAL LETTER N WITH DOT ABOVE",
  "1e45 LATIN SMALL LETTER N WITH DOT ABOVE;1CAPITAL LETTER N WITH DOT BELOW",
  "1e47 LATIN SMALL LETTER N WITH DOT BELOW;1CAPITAL LETTER N WITH LINE BELOW",
  "1e49 LATIN SMALL LETTER N WITH LINE BELOW;1CAPITAL LETTER N WITH CIRCUMFLEX BELOW",
  "1e4b LATIN SMALL LETTER N WITH CIRCUMFLEX BELOW;1CAPITAL LETTER O WITH TILDE AND ACUTE",
  "1e4d LATIN SMALL LETTER O WITH TILDE AND ACUTE;1CAPITAL LETTER O WITH TILDE AND DIAERESIS",
  "1e4f LATIN SMALL LETTER O WITH TILDE AND DIAERESIS;1CAPITAL LETTER O WITH MACRON AND GRAVE",
  "1e51 LATIN SMALL LETTER O WITH MACRON AND GRAVE;1CAPITAL LETTER O WITH MACRON AND ACUTE",
  "1e53 LATIN SMALL LETTER O WITH MACRON AND ACUTE;1CAPITAL LETTER P WITH ACUTE",
  "1e55 LATIN SMALL LETTER P WITH ACUTE;1CAPITAL LETTER P WITH DOT ABOVE",
  "1e57 LATIN SMALL LETTER P WITH DOT ABOVE;1CAPITAL LETTER R WITH DOT ABOVE",
  "1e59 LATIN SMALL LETTER R WITH DOT ABOVE;1CAPITAL LETTER R WITH DOT BELOW",
  "1e5b LATIN SMALL LETTER R WITH DOT BELOW;1CAPITAL LETTER R WITH DOT BELOW AND MACRON",
  "1e5d LATIN SMALL LETTER R WITH DOT BELOW AND MACRON;1CAPITAL LETTER R WITH LINE BELOW",
  "1e5f LATIN SMALL LETTER R WITH LINE BELOW;1CAPITAL LETTER S WITH DOT ABOVE",
  "1e61 LATIN SMALL LETTER S WITH DOT ABOVE;1CAPITAL LETTER S WITH DOT BELOW",
  "1e63 LATIN SMALL LETTER S WITH DOT BELOW;1CAPITAL LETTER S WITH ACUTE AND DOT ABOVE",
  "1e65 LATIN SMALL LETTER S WITH ACUTE AND DOT ABOVE;1CAPITAL LETTER S WITH CARON AND DOT ABOVE",
  "1e67 LATIN SMALL LETTER S WITH CARON AND DOT ABOVE",
  "1e68 LATIN CAPITAL LETTER S WITH DOT BELOW AND DOT ABOVE",
  "1e69 LATIN SMALL LETTER S WITH DOT BELOW AND DOT ABOVE;1CAPITAL LETTER T WITH DOT ABOVE",
  "1e6b LATIN SMALL LETTER T WITH DOT ABOVE;1CAPITAL LETTER T WITH DOT BELOW",
  "1e6d LATIN SMALL LETTER T WITH DOT BELOW;1CAPITAL LETTER T WITH LINE BELOW",
  "1e6f LATIN SMALL LETTER T WITH LINE BELOW;1CAPITAL LETTER T WITH CIRCUMFLEX BELOW",
  "1e71 LATIN SMALL LETTER T WITH CIRCUMFLEX BELOW;1CAPITAL LETTER U WITH DIAERESIS BELOW",
  "1e73 LATIN SMALL LETTER U WITH DIAERESIS BELOW;1CAPITAL LETTER U WITH TILDE BELOW",
  "1e75 LATIN SMALL LETTER U WITH TILDE BELOW;1CAPITAL LETTER U WITH CIRCUMFLEX BELOW",
  "1e77 LATIN SMALL LETTER U WITH CIRCUMFLEX BELOW;1CAPITAL LETTER U WITH TILDE AND ACUTE",
  "1e79 LATIN SMALL LETTER U WITH TILDE AND ACUTE;1CAPITAL LETTER U WITH MACRON AND DIAERESIS",
  "1e7b LATIN SMALL LETTER U WITH MACRON AND DIAERESIS;1CAPITAL LETTER V WITH TILDE",
  "1e7d LATIN SMALL LETTER V WITH TILDE;1CAPITAL LETTER V WITH DOT BELOW",
  "1e7f LATIN SMALL LETTER V WITH DOT BELOW;1CAPITAL LETTER W WITH GRAVE",
  "1e81 LATIN SMALL LETTER W WITH GRAVE;1CAPITAL LETTER W WITH ACUTE;1SMALL LETTER W WITH ACUTE",
  "1e84 LATIN CAPITAL LETTER W WITH DIAERESIS;1SMALL LETTER W WITH DIAERESIS",
  "1e86 LATIN CAPITAL LETTER W WITH DOT ABOVE;1SMALL LETTER W WITH DOT ABOVE",
  "1e88 LATIN CAPITAL LETTER W WITH DOT BELOW;1SMALL LETTER W WITH DOT BELOW",
  "1e8a LATIN CAPITAL LETTER X WITH DOT ABOVE;1SMALL LETTER X WITH DOT ABOVE",
  "1e8c LATIN CAPITAL LETTER X WITH DIAERESIS;1SMALL LETTER X WITH DIAERESIS",
  "1e8e LATIN CAPITAL LETTER Y WITH DOT ABOVE;1SMALL LETTER Y WITH DOT ABOVE",
  "1e90 LATIN CAPITAL LETTER Z WITH CIRCUMFLEX;1SMALL LETTER Z WITH CIRCUMFLEX",
  "1e92 LATIN CAPITAL LETTER Z WITH DOT BELOW;1SMALL LETTER Z WITH DOT BELOW",
  "1e94 LATIN CAPITAL LETTER Z WITH LINE BELOW;1SMALL LETTER Z WITH LINE BELOW;3H WITH LINE BELOW",
  "1e97 LATIN SMALL LETTER T WITH DIAERESIS;3W WITH RING ABOVE;3Y WITH RING ABOVE",
  "1e9a LATIN SMALL LETTER A WITH RIGHT HALF RING;3LONG S WITH DOT ABOVE;6DIAGONAL STROKE",
  "1e9d LATIN SMALL LETTER LONG S WITH HIGH STROKE;1CAPITAL LETTER SHARP S;1SMALL LETTER DELTA",
  "1ea0 LATIN CAPITAL LETTER A WITH DOT BELOW;1SMALL LETTER A WITH DOT BELOW",
  "1ea2 LATIN CAPITAL LETTER A WITH HOOK ABOVE;1SMALL LETTER A WITH HOOK ABOVE",
  "1ea4 LATIN CAPITAL LETTER A WITH CIRCUMFLEX AND ACUTE;1SMALL LETTER A WITH CIRCUMFLEX AND ACUTE",
  "1ea6 LATIN CAPITAL LETTER A WITH CIRCUMFLEX AND GRAVE;1SMALL LETTER A WITH CIRCUMFLEX AND GRAVE",
  "1ea8 LATIN CAPITAL LETTER A WITH CIRCUMFLEX AND HOOK ABOVE",
  "1ea9 LATIN SMALL LETTER A WITH CIRCUMFLEX AND HOOK ABOVE",
  "1eaa LATIN CAPITAL LETTER A WITH CIRCUMFLEX AND TILDE;1SMALL LETTER A WITH CIRCUMFLEX AND TILDE",
  "1eac LATIN CAPITAL LETTER A WITH CIRCUMFLEX AND DOT BELOW",
  "1ead LATIN SMALL LETTER A WITH CIRCUMFLEX AND DOT BELOW;1CAPITAL LETTER A WITH BREVE AND ACUTE",
  "1eaf LATIN SMALL LETTER A WITH BREVE AND ACUTE;1CAPITAL LETTER A WITH BREVE AND GRAVE",
  "1eb1 LATIN SMALL LETTER A WITH BREVE AND GRAVE;1CAPITAL LETTER A WITH BREVE AND HOOK ABOVE",
  "1eb3 LATIN SMALL LETTER A WITH BREVE AND HOOK ABOVE;1CAPITAL LETTER A WITH BREVE AND TILDE",
  "1eb5 LATIN SMALL LETTER A WITH BREVE AND TILDE;1CAPITAL LETTER A WITH BREVE AND DOT BELOW",
  "1eb7 LATIN SMALL LETTER A WITH BREVE AND DOT BELOW;1CAPITAL LETTER E WITH DOT BELOW",
  "1eb9 LATIN SMALL LETTER E WITH DOT BELOW;1CAPITAL LETTER E WITH HOOK ABOVE",
  "1ebb LATIN SMALL LETTER E WITH HOOK ABOVE;1CAPITAL LETTER E WITH TILDE",
  "1ebd LATIN SMALL LETTER E WITH TILDE;1CAPITAL LETTER E WITH CIRCUMFLEX AND ACUTE",
  "1ebf LATIN SMALL LETTER E WITH CIRCUMFLEX AND ACUTE;1CAPITAL LETTER E WITH CIRCUMFLEX AND GRAVE",
  "1ec1 LATIN SMALL LETTER E WITH CIRCUMFLEX AND GRAVE",
  "1ec2 LATIN CAPITAL LETTER E WITH CIRCUMFLEX AND HOOK ABOVE",
  "1ec3 LATIN SMALL LETTER E WITH CIRCUMFLEX AND HOOK ABOVE",
  "1ec4 LATIN CAPITAL LETTER E WITH CIRCUMFLEX AND TILDE;1SMALL LETTER E WITH CIRCUMFLEX AND TILDE",
  "1ec6 LATIN CAPITAL LETTER E WITH CIRCUMFLEX AND DOT BELOW",
  "1ec7 LATIN SMALL LETTER E WITH CIRCUMFLEX AND DOT BELOW;1CAPITAL LETTER I WITH HOOK ABOVE",
  "1ec9 LATIN SMALL LETTER I WITH HOOK ABOVE;1CAPITAL LETTER I WITH DOT BELOW",
  "1ecb LATIN SMALL LETTER I WITH DOT BELOW;1CAPITAL LETTER O WITH DOT BELOW",
  "1ecd LATIN SMALL LETTER O WITH DOT BELOW;1CAPITAL LETTER O WITH HOOK ABOVE",
  "1ecf LATIN SMALL LETTER O WITH HOOK ABOVE;1CAPITAL LETTER O WITH CIRCUMFLEX AND ACUTE",
  "1ed1 LATIN SMALL LETTER O WITH CIRCUMFLEX AND ACUTE;1CAPITAL LETTER O WITH CIRCUMFLEX AND GRAVE",
  "1ed3 LATIN SMALL LETTER O WITH CIRCUMFLEX AND GRAVE",
  "1ed4 LATIN CAPITAL LETTER O WITH CIRCUMFLEX AND HOOK ABOVE",
  "1ed5 LATIN SMALL LETTER O WITH CIRCUMFLEX AND HOOK ABOVE",
  "1ed6 LATIN CAPITAL LETTER O WITH CIRCUMFLEX AND TILDE;1SMALL LETTER O WITH CIRCUMFLEX AND TILDE",
  "1ed8 LATIN CAPITAL LETTER O WITH CIRCUMFLEX AND DOT BELOW",
  "1ed9 LATIN SMALL LETTER O WITH CIRCUMFLEX AND DOT BELOW;1CAPITAL LETTER O WITH HORN AND ACUTE",
  "1edb LATIN SMALL LETTER O WITH HORN AND ACUTE;1CAPITAL LETTER O WITH HORN AND GRAVE",
  "1edd LATIN SMALL LETTER O WITH HORN AND GRAVE;1CAPITAL LETTER O WITH HORN AND HOOK ABOVE",
  "1edf LATIN SMALL LETTER O WITH HORN AND HOOK ABOVE;1CAPITAL LETTER O WITH HORN AND TILDE",
  "1ee1 LATIN SMALL LETTER O WITH HORN AND TILDE;1CAPITAL LETTER O WITH HORN AND DOT BELOW",
  "1ee3 LATIN SMALL LETTER O WITH HORN AND DOT BELOW;1CAPITAL LETTER U WITH DOT BELOW",
  "1ee5 LATIN SMALL LETTER U WITH DOT BELOW;1CAPITAL LETTER U WITH HOOK ABOVE",
  "1ee7 LATIN SMALL LETTER U WITH HOOK ABOVE;1CAPITAL LETTER U WITH HORN AND ACUTE",
  "1ee9 LATIN SMALL LETTER U WITH HORN AND ACUTE;1CAPITAL LETTER U WITH HORN AND GRAVE",
  "1eeb LATIN SMALL LETTER U WITH HORN AND GRAVE;1CAPITAL LETTER U WITH HORN AND HOOK ABOVE",
  "1eed LATIN SMALL LETTER U WITH HORN AND HOOK ABOVE;1CAPITAL LETTER U WITH HORN AND TILDE",
  "1eef LATIN SMALL LETTER U WITH HORN AND TILDE;1CAPITAL LETTER U WITH HORN AND DOT BELOW",
  "1ef1 LATIN SMALL LETTER U WITH HORN AND DOT BELOW;1CAPITAL LETTER Y WITH GRAVE",
  "1ef3 LATIN SMALL LETTER Y WITH GRAVE;1CAPITAL LETTER Y WITH DOT BELOW",
  "1ef5 LATIN SMALL LETTER Y WITH DOT BELOW;1CAPITAL LETTER Y WITH HOOK ABOVE",
  "1ef7 LATIN SMALL LETTER Y WITH HOOK ABOVE;1CAPITAL LETTER Y WITH TILDE",
  "1ef9 LATIN SMALL LETTER Y WITH TILDE;1CAPITAL LETTER MIDDLE-WELSH LL",
  "1efb LATIN SMALL LETTER MIDDLE-WELSH LL;1CAPITAL LETTER MIDDLE-WELSH V",
  "1efd LATIN SMALL LETTER MIDDLE-WELSH V;1CAPITAL LETTER Y WITH LOOP;1SMALL LETTER Y WITH LOOP",
  "1f00 GREEK SMALL LETTER ALPHA WITH PSILI;5DASIA;5PSILI AND VARIA;5DASIA AND VARIA",
  "1f04 GREEK SMALL LETTER ALPHA WITH PSILI AND OXIA;5DASIA AND OXIA;5PSILI AND PERISPOMENI",
  "1f07 GREEK SMALL LETTER ALPHA WITH DASIA AND PERISPOMENI;1CAPITAL LETTER ALPHA WITH PSILI",
  "1f09 GREEK CAPITAL LETTER ALPHA WITH DASIA;5PSILI AND VARIA;5DASIA AND VARIA;5PSILI AND OXIA",
  "1f0d GREEK CAPITAL LETTER ALPHA WITH DASIA AND OXIA;5PSILI AND PERISPOMENI",
  "1f0f GREEK CAPITAL LETTER ALPHA WITH DASIA AND PERISPOMENI;1SMALL LETTER EPSILON WITH PSILI",
  "1f11 GREEK SMALL LETTER EPSILON WITH DASIA;5PSILI AND VARIA;5DASIA AND VARIA;5PSILI AND OXIA",
  "1f15 GREEK SMALL LETTER EPSILON WITH DASIA AND OXIA",
  "1f18 GREEK CAPITAL LETTER EPSILON WITH PSILI;5DASIA;5PSILI AND VARIA;5DASIA AND VARIA",
  "1f1c GREEK CAPITAL LETTER EPSILON WITH PSILI AND OXIA;5DASIA AND OXIA",
  "1f20 GREEK SMALL LETTER ETA WITH PSILI;5DASIA;5PSILI AND VARIA;5DASIA AND VARIA;5PSILI AND OXIA",
  "1f25 GREEK SMALL LETTER ETA WITH DASIA AND OXIA;5PSILI AND PERISPOMENI;5DASIA AND PERISPOMENI",
  "1f28 GREEK CAPITAL LETTER ETA WITH PSILI;5DASIA;5PSILI AND VARIA;5DASIA AND VARIA",
  "1f2c GREEK CAPITAL LETTER ETA WITH PSILI AND OXIA;5DASIA AND OXIA;5PSILI AND PERISPOMENI",
  "1f2f GREEK CAPITAL LETTER ETA WITH DASIA AND PERISPOMENI;1SMALL LETTER IOTA WITH PSILI;5DASIA",
  "1f32 GREEK SMALL LETTER IOTA WITH PSILI AND VARIA;5DASIA AND VARIA;5PSILI AND OXIA",
  "1f35 GREEK SMALL LETTER IOTA WITH DASIA AND OXIA;5PSILI AND PERISPOMENI;5DASIA AND PERISPOMENI",
  "1f38 GREEK CAPITAL LETTER IOTA WITH PSILI;5DASIA;5PSILI AND VARIA;5DASIA AND VARIA",
  "1f3c GREEK CAPITAL LETTER IOTA WITH PSILI AND OXIA;5DASIA AND OXIA;5PSILI AND PERISPOMENI",
  "1f3f GREEK CAPITAL LETTER IOTA WITH DASIA AND PERISPOMENI;1SMALL LETTER OMICRON WITH PSILI",
  "1f41 GREEK SMALL LETTER OMICRON WITH DASIA;5PSILI AND VARIA;5DASIA AND VARIA;5PSILI AND OXIA",
  "1f45 GREEK SMALL LETTER OMICRON WITH DASIA AND OXIA",
  "1f48 GREEK CAPITAL LETTER OMICRON WITH PSILI;5DASIA;5PSILI AND VARIA;5DASIA AND VARIA",
  "1f4c GREEK CAPITAL LETTER OMICRON WITH PSILI AND OXIA;5DASIA AND OXIA",
  "1f50 GREEK SMALL LETTER UPSILON WITH PSILI;5DASIA;5PSILI AND VARIA;5DASIA AND VARIA",
  "1f54 GREEK SMALL LETTER UPSILON WITH PSILI AND OXIA;5DASIA AND OXIA;5PSILI AND PERISPOMENI",
  "1f57 GREEK SMALL LETTER UPSILON WITH DASIA AND PERISPOMENI",
  "1f59 GREEK CAPITAL LETTER UPSILON WITH DASIA",
  "1f5b GREEK CAPITAL LETTER UPSILON WITH DASIA AND VARIA",
  "1f5d GREEK CAPITAL LETTER UPSILON WITH DASIA AND OXIA",
  "1f5f GREEK CAPITAL LETTER UPSILON WITH DASIA AND PERISPOMENI;1SMALL LETTER OMEGA WITH PSILI",
  "1f61 GREEK SMALL LETTER OMEGA WITH DASIA;5PSILI AND VARIA;5DASIA AND VARIA;5PSILI AND OXIA",
  "1f65 GREEK SMALL LETTER OMEGA WITH DASIA AND OXIA;5PSILI AND PERISPOMENI;5DASIA AND PERISPOMENI",
  "1f68 GREEK CAPITAL LETTER OMEGA WITH PSILI;5DASIA;5PSILI AND VARIA;5DASIA AND VARIA",
  "1f6c GREEK CAPITAL LETTER OMEGA WITH PSILI AND OXIA;5DASIA AND OXIA;5PSILI AND PERISPOMENI",
  "1f6f GREEK CAPITAL LETTER OMEGA WITH DASIA AND PERISPOMENI;1SMALL LETTER ALPHA WITH VARIA;5OXIA",
  "1f72 GREEK SMALL LETTER EPSILON WITH VARIA;5OXIA;3ETA WITH VARIA;5OXIA;3IOTA WITH VARIA;5OXIA",
  "1f78 GREEK SMALL LETTER OMICRON WITH VARIA;5OXIA;3UPSILON WITH VARIA;5OXIA;3OMEGA WITH VARIA",
  "1f7d GREEK SMALL LETTER OMEGA WITH OXIA",
  "1f80 GREEK SMALL LETTER ALPHA WITH PSILI AND YPOGEGRAMMENI;5DASIA AND YPOGEGRAMMENI",
  "1f82 GREEK SMALL LETTER ALPHA WITH PSILI AND VARIA AND YPOGEGRAMMENI",
  "1f83 GREEK SMALL LETTER ALPHA WITH DASIA AND VARIA AND YPOGEGRAMMENI",
  "1f84 GREEK SMALL LETTER ALPHA WITH PSILI AND OXIA AND YPOGEGRAMMENI",
  "1f85 GREEK SMALL LETTER ALPHA WITH DASIA AND OXIA AND YPOGEGRAMMENI",
  "1f86 GREEK SMALL LETTER ALPHA WITH PSILI AND PERISPOMENI AND YPOGEGRAMMENI",
  "1f87 GREEK SMALL LETTER ALPHA WITH DASIA AND PERISPOMENI AND YPOGEGRAMMENI",
  "1f88 GREEK CAPITAL LETTER ALPHA WITH PSILI AND PROSGEGRAMMENI;5DASIA AND PROSGEGRAMMENI",
  "1f8a GREEK CAPITAL LETTER ALPHA WITH PSILI AND VARIA AND PROSGEGRAMMENI",
  "1f8b GREEK CAPITAL LETTER ALPHA WITH DASIA AND VARIA AND PROSGEGRAMMENI",
  "1f8c GREEK CAPITAL LETTER ALPHA WITH PSILI AND OXIA AND PROSGEGRAMMENI",
  "1f8d GREEK CAPITAL LETTER ALPHA WITH DASIA AND OXIA AND PROSGEGRAMMENI",
  "1f8e GREEK CAPITAL LETTER ALPHA WITH PSILI AND PERISPOMENI AND PROSGEGRAMMENI",
  "1f8f GREEK CAPITAL LETTER ALPHA WITH DASIA AND PERISPOMENI AND PROSGEGRAMMENI",
  "1f90 GREEK SMALL LETTER ETA WITH PSILI AND YPOGEGRAMMENI;5DASIA AND YPOGEGRAMMENI",
  "1f92 GREEK SMALL LETTER ETA WITH PSILI AND VARIA AND YPOGEGRAMMENI",
  "1f93 GREEK SMALL LETTER ETA WITH DASIA AND VARIA AND YPOGEGRAMMENI",
  "1f94 GREEK SMALL LETTER ETA WITH PSILI AND OXIA AND YPOGEGRAMMENI",
  "1f95 GREEK SMALL LETTER ETA WITH DASIA AND OXIA AND YPOGEGRAMMENI",
  "1f96 GREEK SMALL LETTER ETA WITH PSILI AND PERISPOMENI AND YPOGEGRAMMENI",
  "1f97 GREEK SMALL LETTER ETA WITH DASIA AND PERISPOMENI AND YPOGEGRAMMENI",
  "1f98 GREEK CAPITAL LETTER ETA WITH PSILI AND PROSGEGRAMMENI;5DASIA AND PROSGEGRAMMENI",
  "1f9a GREEK CAPITAL LETTER ETA WITH PSILI AND VARIA AND PROSGEGRAMMENI",
  "1f9b GREEK CAPITAL LETTER ETA WITH DASIA AND VARIA AND PROSGEGRAMMENI",
  "1f9c GREEK CAPITAL LETTER ETA WITH PSILI AND OXIA AND PROSGEGRAMMENI",
  "1f9d GREEK CAPITAL LETTER ETA WITH DASIA AND OXIA AND PROSGEGRAMMENI",
  "1f9e GREEK CAPITAL LETTER ETA WITH PSILI AND PERISPOMENI AND PROSGEGRAMMENI",
  "1f9f GREEK CAPITAL LETTER ETA WITH DASIA AND PERISPOMENI AND PROSGEGRAMMENI",
  "1fa0 GREEK SMALL LETTER OMEGA WITH PSILI AND YPOGEGRAMMENI;5DASIA AND YPOGEGRAMMENI",
  "1fa2 GREEK SMALL LETTER OMEGA WITH PSILI AND VARIA AND YPOGEGRAMMENI",
  "1fa3 GREEK SMALL LETTER OMEGA WITH DASIA AND VARIA AND YPOGEGRAMMENI",
  "1fa4 GREEK SMALL LETTER OMEGA WITH PSILI AND OXIA AND YPOGEGRAMMENI",
  "1fa5 GREEK SMALL LETTER OMEGA WITH DASIA AND OXIA AND YPOGEGRAMMENI",
  "1fa6 GREEK SMALL LETTER OMEGA WITH PSILI AND PERISPOMENI AND YPOGEGRAMMENI",
  "1fa7 GREEK SMALL LETTER OMEGA WITH DASIA AND PERISPOMENI AND YPOGEGRAMMENI",
  "1fa8 GREEK CAPITAL LETTER OMEGA WITH PSILI AND PROSGEGRAMMENI;5DASIA AND PROSGEGRAMMENI",
  "1faa GREEK CAPITAL LETTER OMEGA WITH PSILI AND VARIA AND PROSGEGRAMMENI",
  "1fab GREEK CAPITAL LETTER OMEGA WITH DASIA AND VARIA AND PROSGEGRAMMENI",
  "1fac GREEK CAPITAL LETTER OMEGA WITH PSILI AND OXIA AND PROSGEGRAMMENI",
  "1fad GREEK CAPITAL LETTER OMEGA WITH DASIA AND OXIA AND PROSGEGRAMMENI",
  "1fae GREEK CAPITAL LETTER OMEGA WITH PSILI AND PERISPOMENI AND PROSGEGRAMMENI",
  "1faf GREEK CAPITAL LETTER OMEGA WITH DASIA AND PERISPOMENI AND PROSGEGRAMMENI",
  "1fb0 GREEK SMALL LETTER ALPHA WITH VRACHY;5MACRON;5VARIA AND YPOGEGRAMMENI;5YPOGEGRAMMENI",
  "1fb4 GREEK SMALL LETTER ALPHA WITH OXIA AND YPOGEGRAMMENI",
  "1fb6 GREEK SMALL LETTER ALPHA WITH PERISPOMENI;6AND YPOGEGRAMMENI",
  "1fb8 GREEK CAPITAL LETTER ALPHA WITH VRACHY;5MACRON;5VARIA;5OXIA;5PROSGEGRAMMENI;1KORONIS",
  "1fbe GREEK PROSGEGRAMMENI;1PSILI;1PERISPOMENI;1DIALYTIKA AND PERISPOMENI",
  "1fc2 GREEK SMALL LETTER ETA WITH VARIA AND YPOGEGRAMMENI;5YPOGEGRAMMENI;5OXIA AND YPOGEGRAMMENI",
  "1fc6 GREEK SMALL LETTER ETA WITH PERISPOMENI;6AND YPOGEGRAMMENI",
  "1fc8 GREEK CAPITAL LETTER EPSILON WITH VARIA;5OXIA;3ETA WITH VARIA;5OXIA;5PROSGEGRAMMENI",
  "1fcd GREEK PSILI AND VARIA;3OXIA;3PERISPOMENI;1SMALL LETTER IOTA WITH VRACHY;5MACRON",
  "1fd2 GREEK SMALL LETTER IOTA WITH DIALYTIKA AND VARIA;7OXIA",
  "1fd6 GREEK SMALL LETTER IOTA WITH PERISPOMENI;5DIALYTIKA AND PERISPOMENI",
  "1fd8 GREEK CAPITAL LETTER IOTA WITH VRACHY;5MACRON;5VARIA;5OXIA",
  "1fdd GREEK DASIA AND VARIA;3OXIA;3PERISPOMENI;1SMALL LETTER UPSILON WITH VRACHY;5MACRON",
  "1fe2 GREEK SMALL LETTER UPSILON WITH DIALYTIKA AND VARIA;7OXIA;3RHO WITH PSILI;5DASIA",
  "1fe6 GREEK SMALL LETTER UPSILON WITH PERISPOMENI;5DIALYTIKA AND PERISPOMENI",
  "1fe8 GREEK CAPITAL LETTER UPSILON WITH VRACHY;5MACRON;5VARIA;5OXIA;3RHO WITH DASIA",
  "1fed GREEK DIALYTIKA AND VARIA;3OXIA;1VARIA",
  "1ff2 GREEK SMALL LETTER OMEGA WITH VARIA AND YPOGEGRAMMENI;5YPOGEGRAMMENI",
  "1ff4 GREEK SMALL LETTER OMEGA WITH OXIA AND YPOGEGRAMMENI",
  "1ff6 GREEK SMALL LETTER OMEGA WITH PERISPOMENI;6AND YPOGEGRAMMENI",
  "1ff8 GREEK CAPITAL LETTER OMICRON WITH VARIA;5OXIA;3OMEGA WITH VARIA;5OXIA;5PROSGEGRAMMENI",
  "1ffd GREEK OXIA;1DASIA"]

end RuleReview.Text.Table.CharacterName
