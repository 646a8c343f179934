/-! The names of characters from 1D000 on. -/

namespace RuleReview.Text.Table.CharacterName

/-- The first character of a row and its name, then the names of those that follow, each with
the number of words that it has in common with the one before. -/
def pictures : List String := [
  "1d000 BYZANTINE MUSICAL SYMBOL PSILI;3DASEIA;3PERISPOMENI;3OXEIA EKFONITIKON;4DIPLI",
  "1d005 BYZANTINE MUSICAL SYMBOL VAREIA EKFONITIKON;4DIPLI;3KATHISTI;3SYRMATIKI;3PARAKLITIKI",
  "1d00a BYZANTINE MUSICAL SYMBOL YPOKRISIS;4DIPLI;3KREMASTI;3APESO EKFONITIKON;3EXO EKFONITIKON",
  "1d00f BYZANTINE MUSICAL SYMBOL TELEIA;3KENTIMATA;3APOSTROFOS;4DIPLI;3SYNEVMA;3THITA",
  "1d015 BYZANTINE MUSICAL SYMBOL OLIGON ARCHAION;3GORGON ARCHAION;3PSILON;3CHAMILON;3VATHY",
  "1d01a BYZANTINE MUSICAL SYMBOL ISON ARCHAION;3KENTIMA ARCHAION;3KENTIMATA ARCHAION;3SAXIMATA",
  "1d01e BYZANTINE MUSICAL SYMBOL PARICHON;3STAVROS APODEXIA;3OXEIAI ARCHAION;3VAREIAI ARCHAION",
  "1d022 BYZANTINE MUSICAL SYMBOL APODERMA ARCHAION;3APOTHEMA;3KLASMA;3REVMA;3PIASMA ARCHAION",
  "1d027 BYZANTINE MUSICAL SYMBOL TINAGMA;3ANATRICHISMA;3SEISMA;3SYNAGMA ARCHAION;4META STAVROU",
  "1d02c BYZANTINE MUSICAL SYMBOL OYRANISMA ARCHAION;3THEMA;3LEMOI;3DYO;3TRIA;3TESSERA;3KRATIMATA",
  "1d033 BYZANTINE MUSICAL SYMBOL APESO EXO NEO;3FTHORA ARCHAION;3IMIFTHORA;3TROMIKON ARCHAION",
  "1d037 BYZANTINE MUSICAL SYMBOL KATAVA TROMIKON;3PELASTON;3PSIFISTON;3KONTEVMA",
  "1d03b BYZANTINE MUSICAL SYMBOL CHOREVMA ARCHAION;3RAPISMA;3PARAKALESMA ARCHAION",
  "1d03e BYZANTINE MUSICAL SYMBOL PARAKLITIKI ARCHAION;3ICHADIN;3NANA;3PETASMA;3KONTEVMA ALLO",
  "1d043 BYZANTINE MUSICAL SYMBOL TROMIKON ALLO;3STRAGGISMATA;3GRONTHISMATA;3ISON NEO;3OLIGON NEO",
  "1d048 BYZANTINE MUSICAL SYMBOL OXEIA NEO;3PETASTI;3KOUFISMA;3PETASTOKOUFISMA;3KRATIMOKOUFISMA",
  "1d04d BYZANTINE MUSICAL SYMBOL PELASTON NEO;3KENTIMATA NEO ANO;3KENTIMA NEO ANO;3YPSILI",
  "1d051 BYZANTINE MUSICAL SYMBOL APOSTROFOS NEO;3APOSTROFOI SYNDESMOS NEO;3YPORROI",
  "1d054 BYZANTINE MUSICAL SYMBOL KRATIMOYPORROON;3ELAFRON;3CHAMILI;3MIKRON ISON;3VAREIA NEO",
  "1d059 BYZANTINE MUSICAL SYMBOL PIASMA NEO;3PSIFISTON NEO;3OMALON;3ANTIKENOMA;3LYGISMA",
  "1d05e BYZANTINE MUSICAL SYMBOL PARAKLITIKI NEO;3PARAKALESMA NEO;3ETERON PARAKALESMA;3KYLISMA",
  "1d062 BYZANTINE MUSICAL SYMBOL ANTIKENOKYLISMA;3TROMIKON NEO;3EKSTREPTON;3SYNAGMA NEO;3SYRMA",
  "1d067 BYZANTINE MUSICAL SYMBOL CHOREVMA NEO;3EPEGERMA;3SEISMA NEO;3XIRON KLASMA",
  "1d06b BYZANTINE MUSICAL SYMBOL TROMIKOPSIFISTON;3PSIFISTOLYGISMA;3TROMIKOLYGISMA",
  "1d06e BYZANTINE MUSICAL SYMBOL TROMIKOPARAKALESMA;3PSIFISTOPARAKALESMA;3TROMIKOSYNAGMA",
  "1d071 BYZANTINE MUSICAL SYMBOL PSIFISTOSYNAGMA;3GORGOSYNTHETON;3ARGOSYNTHETON",
  "1d074 BYZANTINE MUSICAL SYMBOL ETERON ARGOSYNTHETON;3OYRANISMA NEO;3THEMATISMOS ESO;4EXO",
  "1d078 BYZANTINE MUSICAL SYMBOL THEMA APLOUN;3THES KAI APOTHES;3KATAVASMA;3ENDOFONON;3YFEN KATO",
  "1d07d BYZANTINE MUSICAL SYMBOL YFEN ANO;3STAVROS;3KLASMA ANO;3DIPLI ARCHAION;3KRATIMA ARCHAION",
  "1d082 BYZANTINE MUSICAL SYMBOL KRATIMA ALLO;4NEO;3APODERMA NEO;3APLI;3DIPLI;3TRIPLI;3TETRAPLI",
  "1d089 BYZANTINE MUSICAL SYMBOL KORONIS;3LEIMMA ENOS CHRONOU;4DYO CHRONON;4TRION CHRONON",
  "1d08d BYZANTINE MUSICAL SYMBOL LEIMMA TESSARON CHRONON;4IMISEOS CHRONOU;3GORGON NEO ANO",
  "1d090 BYZANTINE MUSICAL SYMBOL GORGON PARESTIGMENON ARISTERA;5DEXIA;3DIGORGON",
  "1d093 BYZANTINE MUSICAL SYMBOL DIGORGON PARESTIGMENON ARISTERA KATO;6ANO;5DEXIA;3TRIGORGON",
  "1d097 BYZANTINE MUSICAL SYMBOL ARGON;3IMIDIARGON;3DIARGON;3AGOGI POLI ARGI;4ARGOTERI;4ARGI",
  "1d09d BYZANTINE MUSICAL SYMBOL AGOGI METRIA;4MESI;4GORGI;4GORGOTERI;4POLI GORGI",
  "1d0a2 BYZANTINE MUSICAL SYMBOL MARTYRIA PROTOS ICHOS;4ALLI PROTOS ICHOS;4DEYTEROS ICHOS",
  "1d0a5 BYZANTINE MUSICAL SYMBOL MARTYRIA ALLI DEYTEROS ICHOS;4TRITOS ICHOS;4TRIFONIAS",
  "1d0a8 BYZANTINE MUSICAL SYMBOL MARTYRIA TETARTOS ICHOS;5LEGETOS ICHOS;4LEGETOS ICHOS",
  "1d0ab BYZANTINE MUSICAL SYMBOL MARTYRIA PLAGIOS ICHOS;3ISAKIA TELOUS ICHIMATOS",
  "1d0ad BYZANTINE MUSICAL SYMBOL APOSTROFOI TELOUS ICHIMATOS;3FANEROSIS TETRAFONIAS;4MONOFONIAS",
  "1d0b0 BYZANTINE MUSICAL SYMBOL FANEROSIS DIFONIAS;3MARTYRIA VARYS ICHOS;4PROTOVARYS ICHOS",
  "1d0b3 BYZANTINE MUSICAL SYMBOL MARTYRIA PLAGIOS TETARTOS ICHOS;3GORTHMIKON N APLOUN;5DIPLOUN",
  "1d0b6 BYZANTINE MUSICAL SYMBOL ENARXIS KAI FTHORA VOU;3IMIFONON;3IMIFTHORON",
  "1d0b9 BYZANTINE MUSICAL SYMBOL FTHORA ARCHAION DEYTEROU ICHOU;4DIATONIKI PA;5NANA;4NAOS ICHOS",
  "1d0bd BYZANTINE MUSICAL SYMBOL FTHORA DIATONIKI DI;4SKLIRON DIATONON DI;4DIATONIKI KE;5ZO",
  "1d0c1 BYZANTINE MUSICAL SYMBOL FTHORA DIATONIKI NI KATO;6ANO;4MALAKON CHROMA DIFONIAS",
  "1d0c4 BYZANTINE MUSICAL SYMBOL FTHORA MALAKON CHROMA MONOFONIAS;3FHTORA SKLIRON CHROMA VASIS",
  "1d0c6 BYZANTINE MUSICAL SYMBOL FTHORA SKLIRON CHROMA SYNAFI;4NENANO;3CHROA ZYGOS;4KLITON",
  "1d0ca BYZANTINE MUSICAL SYMBOL CHROA SPATHI;3FTHORA I YFESIS TETARTIMORION",
  "1d0cc BYZANTINE MUSICAL SYMBOL FTHORA ENARMONIOS ANTIFONIA;3YFESIS TRITIMORION",
  "1d0ce BYZANTINE MUSICAL SYMBOL DIESIS TRITIMORION;4TETARTIMORION;4APLI DYO DODEKATA",
  "1d0d1 BYZANTINE MUSICAL SYMBOL DIESIS MONOGRAMMOS TESSERA DODEKATA;4DIGRAMMOS EX DODEKATA",
  "1d0d3 BYZANTINE MUSICAL SYMBOL DIESIS TRIGRAMMOS OKTO DODEKATA;3YFESIS APLI DYO DODEKATA",
  "1d0d5 BYZANTINE MUSICAL SYMBOL YFESIS MONOGRAMMOS TESSERA DODEKATA;4DIGRAMMOS EX DODEKATA",
  "1d0d7 BYZANTINE MUSICAL SYMBOL YFESIS TRIGRAMMOS OKTO DODEKATA;3GENIKI DIESIS;4YFESIS",
  "1d0da BYZANTINE MUSICAL SYMBOL DIASTOLI APLI MIKRI;5MEGALI;4DIPLI;4THESEOS;3SIMANSIS THESEOS",
  "1d0df BYZANTINE MUSICAL SYMBOL SIMANSIS THESEOS DISIMOU;5TRISIMOU;5TETRASIMOU;4ARSEOS;5DISIMOU",
  "1d0e4 BYZANTINE MUSICAL SYMBOL SIMANSIS ARSEOS TRISIMOU;5TETRASIMOU;3DIGRAMMA GG;3DIFTOGGOS OU",
  "1d0e8 BYZANTINE MUSICAL SYMBOL STIGMA;3ARKTIKO PA;4VOU;4GA;4DI;4KE;4ZO;4NI;3KENTIMATA NEO MESO",
  "1d0f1 BYZANTINE MUSICAL SYMBOL KENTIMA NEO MESO;3KENTIMATA NEO KATO;3KENTIMA NEO KATO",
  "1d0f4 BYZANTINE MUSICAL SYMBOL KLASMA KATO;3GORGON NEO KATO",
  "1d100 MUSICAL SYMBOL SINGLE BARLINE;2DOUBLE BARLINE;2FINAL BARLINE;2REVERSE FINAL BARLINE",
  "1d104 MUSICAL SYMBOL DASHED BARLINE;2SHORT BARLINE;2LEFT REPEAT SIGN;2RIGHT REPEAT SIGN",
  "1d108 MUSICAL SYMBOL REPEAT DOTS;2DAL SEGNO;2DA CAPO;2SEGNO;2CODA;2REPEATED FIGURE-1;3FIGURE-2",
  "1d10f MUSICAL SYMBOL REPEATED FIGURE-3;2FERMATA;3BELOW;2BREATH MARK;2CAESURA;2BRACE;2BRACKET",
  "1d116 MUSICAL SYMBOL ONE-LINE STAFF;2TWO-LINE STAFF;2THREE-LINE STAFF;2FOUR-LINE STAFF",
  "1d11a MUSICAL SYMBOL FIVE-LINE STAFF;2SIX-LINE STAFF;2SIX-STRING FRETBOARD",
  "1d11d MUSICAL SYMBOL FOUR-STRING FRETBOARD;2G CLEF;4OTTAVA ALTA;5BASSA;2C CLEF;2F CLEF",
  "1d123 MUSICAL SYMBOL F CLEF OTTAVA ALTA;5BASSA;2DRUM CLEF-1;3CLEF-2",
  "1d129 MUSICAL SYMBOL MULTIPLE MEASURE REST;2DOUBLE SHARP;3FLAT;2FLAT UP;3DOWN;2NATURAL UP;3DOWN",
  "1d130 MUSICAL SYMBOL SHARP UP;3DOWN;2QUARTER TONE SHARP;4FLAT;2COMMON TIME;2CUT TIME",
  "1d136 MUSICAL SYMBOL OTTAVA ALTA;3BASSA;2QUINDICESIMA ALTA;3BASSA;2MULTI REST;2WHOLE REST",
  "1d13c MUSICAL SYMBOL HALF REST;2QUARTER REST;2EIGHTH REST;2SIXTEENTH REST;2THIRTY-SECOND REST",
  "1d141 MUSICAL SYMBOL SIXTY-FOURTH REST;2ONE HUNDRED TWENTY-EIGHTH REST;2X NOTEHEAD",
  "1d144 MUSICAL SYMBOL PLUS NOTEHEAD;2CIRCLE X NOTEHEAD;2SQUARE NOTEHEAD WHITE;4BLACK",
  "1d148 MUSICAL SYMBOL TRIANGLE NOTEHEAD UP WHITE;5BLACK;4LEFT WHITE;5BLACK;4RIGHT WHITE;5BLACK",
  "1d14e MUSICAL SYMBOL TRIANGLE NOTEHEAD DOWN WHITE;5BLACK;4UP RIGHT WHITE;6BLACK",
  "1d152 MUSICAL SYMBOL MOON NOTEHEAD WHITE;4BLACK;2TRIANGLE-ROUND NOTEHEAD DOWN WHITE;5BLACK",
  "1d156 MUSICAL SYMBOL PARENTHESIS NOTEHEAD;2VOID NOTEHEAD;2NOTEHEAD BLACK;2NULL NOTEHEAD",
  "1d15a MUSICAL SYMBOL CLUSTER NOTEHEAD WHITE;4BLACK;2BREVE;2WHOLE NOTE;2HALF NOTE;2QUARTER NOTE",
  "1d160 MUSICAL SYMBOL EIGHTH NOTE;2SIXTEENTH NOTE;2THIRTY-SECOND NOTE;2SIXTY-FOURTH NOTE",
  "1d164 MUSICAL SYMBOL ONE HUNDRED TWENTY-EIGHTH NOTE;2COMBINING STEM;3SPRECHGESANG STEM",
  "1d167 MUSICAL SYMBOL COMBINING TREMOLO-1;3TREMOLO-2;3TREMOLO-3;2FINGERED TREMOLO-1;3TREMOLO-2",
  "1d16c MUSICAL SYMBOL FINGERED TREMOLO-3;2COMBINING AUGMENTATION DOT;3FLAG-1;3FLAG-2;3FLAG-3",
  "1d171 MUSICAL SYMBOL COMBINING FLAG-4;3FLAG-5;2BEGIN BEAM;2END BEAM;2BEGIN TIE;2END TIE",
  "1d177 MUSICAL SYMBOL BEGIN SLUR;2END SLUR;2BEGIN PHRASE;2END PHRASE;2COMBINING ACCENT;3STACCATO",
  "1d17d MUSICAL SYMBOL COMBINING TENUTO;3STACCATISSIMO;3MARCATO;3MARCATO-STACCATO",
  "1d181 MUSICAL SYMBOL COMBINING ACCENT-STACCATO;3LOURE;2ARPEGGIATO UP;3DOWN;2COMBINING DOIT;3RIP",
  "1d187 MUSICAL SYMBOL COMBINING FLIP;3SMEAR;3BEND;3DOUBLE TONGUE;3TRIPLE TONGUE;2RINFORZANDO",
  "1d18d MUSICAL SYMBOL SUBITO;2Z;2PIANO;2MEZZO;2FORTE;2CRESCENDO;2DECRESCENDO;2GRACE NOTE SLASH",
  "1d195 MUSICAL SYMBOL GRACE NOTE NO SLASH;2TR;2TURN;2INVERTED TURN;2TURN SLASH;3UP",
  "1d19b MUSICAL SYMBOL ORNAMENT STROKE-1;3STROKE-2;3STROKE-3;3STROKE-4;3STROKE-5;3STROKE-6",
  "1d1a1 MUSICAL SYMBOL ORNAMENT STROKE-7;3STROKE-8;3STROKE-9;3STROKE-10;3STROKE-11;2HAUPTSTIMME",
  "1d1a7 MUSICAL SYMBOL NEBENSTIMME;2END OF STIMME;2DEGREE SLASH;2COMBINING DOWN BOW;3UP BOW",
  "1d1ac MUSICAL SYMBOL COMBINING HARMONIC;3SNAP PIZZICATO;2PEDAL MARK;3UP MARK;2HALF PEDAL MARK",
  "1d1b1 MUSICAL SYMBOL GLISSANDO UP;3DOWN;2WITH FINGERNAILS;2DAMP;3ALL;2MAXIMA;2LONGA;2BREVIS",
  "1d1b9 MUSICAL SYMBOL SEMIBREVIS WHITE;3BLACK;2MINIMA;3BLACK;2SEMIMINIMA WHITE;3BLACK",
  "1d1bf MUSICAL SYMBOL FUSA WHITE;3BLACK;2LONGA PERFECTA REST;3IMPERFECTA REST;2BREVIS REST",
  "1d1c4 MUSICAL SYMBOL SEMIBREVIS REST;2MINIMA REST;2SEMIMINIMA REST",
  "1d1c7 MUSICAL SYMBOL TEMPUS PERFECTUM CUM PROLATIONE PERFECTA;6IMPERFECTA",
  "1d1c9 MUSICAL SYMBOL TEMPUS PERFECTUM CUM PROLATIONE PERFECTA DIMINUTION-1",
  "1d1ca MUSICAL SYMBOL TEMPUS IMPERFECTUM CUM PROLATIONE PERFECTA;6IMPERFECTA;7DIMINUTION-1",
  "1d1cd MUSICAL SYMBOL TEMPUS IMPERFECTUM CUM PROLATIONE IMPERFECTA DIMINUTION-2;7DIMINUTION-3",
  "1d1cf MUSICAL SYMBOL CROIX;2GREGORIAN C CLEF;3F CLEF;2SQUARE B;2VIRGA;2PODATUS;2CLIVIS",
  "1d1d6 MUSICAL SYMBOL SCANDICUS;2CLIMACUS;2TORCULUS;2PORRECTUS;3FLEXUS;2SCANDICUS FLEXUS",
  "1d1dc MUSICAL SYMBOL TORCULUS RESUPINUS;2PES SUBPUNCTIS;2KIEVAN C CLEF;3END OF PIECE",
  "1d1e0 MUSICAL SYMBOL KIEVAN FINAL NOTE;3RECITATIVE MARK;3WHOLE NOTE;3HALF NOTE",
  "1d1e4 MUSICAL SYMBOL KIEVAN QUARTER NOTE STEM DOWN;6UP;3EIGHTH NOTE STEM DOWN;6UP;3FLAT SIGN",
  "1d1e9 MUSICAL SYMBOL SORI;2KORON",
  "1d200 GREEK VOCAL NOTATION SYMBOL-1;3SYMBOL-2;3SYMBOL-3;3SYMBOL-4;3SYMBOL-5;3SYMBOL-6;3SYMBOL-7",
  "1d207 GREEK VOCAL NOTATION SYMBOL-8;3SYMBOL-9;3SYMBOL-10;3SYMBOL-11;3SYMBOL-12;3SYMBOL-13",
  "1d20d GREEK VOCAL NOTATION SYMBOL-14;3SYMBOL-15;3SYMBOL-16;3SYMBOL-17;3SYMBOL-18;3SYMBOL-19",
  "1d213 GREEK VOCAL NOTATION SYMBOL-20;3SYMBOL-21;3SYMBOL-22;3SYMBOL-23;3SYMBOL-24;3SYMBOL-50",
  "1d219 GREEK VOCAL NOTATION SYMBOL-51;3SYMBOL-52;3SYMBOL-53;3SYMBOL-54",
  "1d21d GREEK INSTRUMENTAL NOTATION SYMBOL-1;3SYMBOL-2;3SYMBOL-4;3SYMBOL-5;3SYMBOL-7;3SYMBOL-8",
  "1d223 GREEK INSTRUMENTAL NOTATION SYMBOL-11;3SYMBOL-12;3SYMBOL-13;3SYMBOL-14;3SYMBOL-17",
  "1d228 GREEK INSTRUMENTAL NOTATION SYMBOL-18;3SYMBOL-19;3SYMBOL-23;3SYMBOL-24;3SYMBOL-25",
  "1d22d GREEK INSTRUMENTAL NOTATION SYMBOL-26;3SYMBOL-27;3SYMBOL-29;3SYMBOL-30;3SYMBOL-32",
  "1d232 GREEK INSTRUMENTAL NOTATION SYMBOL-36;3SYMBOL-37;3SYMBOL-38;3SYMBOL-39;3SYMBOL-40",
  "1d237 GREEK INSTRUMENTAL NOTATION SYMBOL-42;3SYMBOL-43;3SYMBOL-45;3SYMBOL-47;3SYMBOL-48",
  "1d23c GREEK INSTRUMENTAL NOTATION SYMBOL-49;3SYMBOL-50;3SYMBOL-51;3SYMBOL-52;3SYMBOL-53",
  "1d241 GREEK INSTRUMENTAL NOTATION SYMBOL-54;0COMBINING GREEK MUSICAL TRISEME;3TETRASEME",
  "1d244 COMBINING GREEK MUSICAL PENTASEME;0GREEK MUSICAL LEIMMA",
  "1d2e0 MAYAN NUMERAL ZERO;2ONE;2TWO;2THREE;2FOUR;2FIVE;2SIX;2SEVEN;2EIGHT;2NINE;2TEN;2ELEVEN",
  "1d2ec MAYAN NUMERAL TWELVE;2THIRTEEN;2FOURTEEN;2FIFTEEN;2SIXTEEN;2SEVENTEEN;2EIGHTEEN;2NINETEEN",
  "1d300 MONOGRAM FOR EARTH;0DIGRAM FOR HEAVENLY EARTH;2HUMAN EARTH;2EARTHLY HEAVEN;3HUMAN;2EARTH",
  "1d306 TETRAGRAM FOR CENTRE;2FULL CIRCLE;2MIRED;2BARRIER;2KEEPING SMALL;2CONTRARIETY;2ASCENT",
  "1d30d TETRAGRAM FOR OPPOSITION;2BRANCHING OUT;2DEFECTIVENESS OR DISTORTION;2DIVERGENCE",
  "1d311 TETRAGRAM FOR YOUTHFULNESS;2INCREASE;2PENETRATION;2REACH;2CONTACT;2HOLDING BACK;2WAITING",
  "1d318 TETRAGRAM FOR FOLLOWING;2ADVANCE;2RELEASE;2RESISTANCE;2EASE;2JOY;2CONTENTION;2ENDEAVOUR",
  "1d320 TETRAGRAM FOR DUTIES;2CHANGE;2DECISIVENESS;2BOLD RESOLUTION;2PACKING;2LEGION;2CLOSENESS",
  "1d327 TETRAGRAM FOR KINSHIP;2GATHERING;2STRENGTH;2PURITY;2FULLNESS;2RESIDENCE;2LAW OR MODEL",
  "1d32e TETRAGRAM FOR RESPONSE;2GOING TO MEET;2ENCOUNTERS;2STOVE;2GREATNESS;2ENLARGEMENT;2PATTERN",
  "1d335 TETRAGRAM FOR RITUAL;2FLIGHT;2VASTNESS OR WASTING;2CONSTANCY;2MEASURE;2ETERNITY;2UNITY",
  "1d33c TETRAGRAM FOR DIMINISHMENT;2CLOSED MOUTH;2GUARDEDNESS;2GATHERING IN;2MASSING",
  "1d341 TETRAGRAM FOR ACCUMULATION;2EMBELLISHMENT;2DOUBT;2WATCH;2SINKING;2INNER;2DEPARTURE",
  "1d348 TETRAGRAM FOR DARKENING;2DIMMING;2EXHAUSTION;2SEVERANCE;2STOPPAGE;2HARDNESS;2COMPLETION",
  "1d34f TETRAGRAM FOR CLOSURE;2FAILURE;2AGGRAVATION;2COMPLIANCE;2ON THE VERGE;2DIFFICULTIES",
  "1d355 TETRAGRAM FOR LABOURING;2FOSTERING",
  "1d360 COUNTING ROD UNIT DIGIT ONE;4TWO;4THREE;4FOUR;4FIVE;4SIX;4SEVEN;4EIGHT;4NINE",
  "1d369 COUNTING ROD TENS DIGIT ONE;4TWO;4THREE;4FOUR;4FIVE;4SIX;4SEVEN;4EIGHT;4NINE",
  "1d372 IDEOGRAPHIC TALLY MARK ONE;3TWO;3THREE;3FOUR;3FIVE;0TALLY MARK ONE;2FIVE",
  "1d400 MATHEMATICAL BOLD CAPITAL A;3B;3C;3D;3E;3F;3G;3H;3I;3J;3K;3L;3M;3N;3O;3P;3Q;3R;3S;3T;3U",
  "1d415 MATHEMATICAL BOLD CAPITAL V;3W;3X;3Y;3Z;2SMALL A;3B;3C;3D;3E;3F;3G;3H;3I;3J;3K;3L;3M;3N",
  "1d428 MATHEMATICAL BOLD SMALL O;3P;3Q;3R;3S;3T;3U;3V;3W;3X;3Y;3Z;1ITALIC CAPITAL A;3B;3C;3D;3E",
  "1d439 MATHEMATICAL ITALIC CAPITAL F;3G;3H;3I;3J;3K;3L;3M;3N;3O;3P;3Q;3R;3S;3T;3U;3V;3W;3X;3Y;3Z",
  "1d44e MATHEMATICAL ITALIC SMALL A;3B;3C;3D;3E;3F;3G",
  "1d456 MATHEMATICAL ITALIC SMALL I;3J;3K;3L;3M;3N;3O;3P;3Q;3R;3S;3T;3U;3V;3W;3X;3Y;3Z",
  "1d468 MATHEMATICAL BOLD ITALIC CAPITAL A;4B;4C;4D;4E;4F;4G;4H;4I;4J;4K;4L;4M;4N;4O;4P;4Q;4R;4S",
  "1d47b MATHEMATICAL BOLD ITALIC CAPITAL T;4U;4V;4W;4X;4Y;4Z;3SMALL A;4B;4C;4D;4E;4F;4G;4H;4I;4J",
  "1d48c MATHEMATICAL BOLD ITALIC SMALL K;4L;4M;4N;4O;4P;4Q;4R;4S;4T;4U;4V;4W;4X;4Y;4Z",
  "1d49c MATHEMATICAL SCRIPT CAPITAL A",
  "1d49e MATHEMATICAL SCRIPT CAPITAL C;3D",
  "1d4a2 MATHEMATICAL SCRIPT CAPITAL G",
  "1d4a5 MATHEMATICAL SCRIPT CAPITAL J;3K",
  "1d4a9 MATHEMATICAL SCRIPT CAPITAL N;3O;3P;3Q",
  "1d4ae MATHEMATICAL SCRIPT CAPITAL S;3T;3U;3V;3W;3X;3Y;3Z;2SMALL A;3B;3C;3D",
  "1d4bb MATHEMATICAL SCRIPT SMALL F",
  "1d4bd MATHEMATICAL SCRIPT SMALL H;3I;3J;3K;3L;3M;3N",
  "1d4c5 MATHEMATICAL SCRIPT SMALL P;3Q;3R;3S;3T;3U;3V;3W;3X;3Y;3Z;1BOLD SCRIPT CAPITAL A;4B;4C;4D",
  "1d4d4 MATHEMATICAL BOLD SCRIPT CAPITAL E;4F;4G;4H;4I;4J;4K;4L;4M;4N;4O;4P;4Q;4R;4S;4T;4U;4V;4W",
  "1d4e7 MATHEMATICAL BOLD SCRIPT CAPITAL X;4Y;4Z;3SMALL A;4B;4C;4D;4E;4F;4G;4H;4I;4J;4K;4L;4M;4N",
  "1d4f8 MATHEMATICAL BOLD SCRIPT SMALL O;4P;4Q;4R;4S;4T;4U;4V;4W;4X;4Y;4Z;1FRAKTUR CAPITAL A;3B",
  "1d507 MATHEMATICAL FRAKTUR CAPITAL D;3E;3F;3G",
  "1d50d MATHEMATICAL FRAKTUR CAPITAL J;3K;3L;3M;3N;3O;3P;3Q",
  "1d516 MATHEMATICAL FRAKTUR CAPITAL S;3T;3U;3V;3W;3X;3Y",
  "1d51e MATHEMATICAL FRAKTUR SMALL A;3B;3C;3D;3E;3F;3G;3H;3I;3J;3K;3L;3M;3N;3O;3P;3Q;3R;3S;3T;3U",
  "1d533 MATHEMATICAL FRAKTUR SMALL V;3W;3X;3Y;3Z;1DOUBLE-STRUCK CAPITAL A;3B",
  "1d53b MATHEMATICAL DOUBLE-STRUCK CAPITAL D;3E;3F;3G",
  "1d540 MATHEMATICAL DOUBLE-STRUCK CAPITAL I;3J;3K;3L;3M",
  "1d546 MATHEMATICAL DOUBLE-STRUCK CAPITAL O",
  "1d54a MATHEMATICAL DOUBLE-STRUCK CAPITAL S;3T;3U;3V;3W;3X;3Y",
  "1d552 MATHEMATICAL DOUBLE-STRUCK SMALL A;3B;3C;3D;3E;3F;3G;3H;3I;3J;3K;3L;3M;3N;3O;3P;3Q;3R;3S",
  "1d565 MATHEMATICAL DOUBLE-STRUCK SMALL T;3U;3V;3W;3X;3Y;3Z;1BOLD FRAKTUR CAPITAL A;4B;4C;4D;4E",
  "1d571 MATHEMATICAL BOLD FRAKTUR CAPITAL F;4G;4H;4I;4J;4K;4L;4M;4N;4O;4P;4Q;4R;4S;4T;4U;4V;4W;4X",
  "1d584 MATHEMATICAL BOLD FRAKTUR CAPITAL Y;4Z;3SMALL A;4B;4C;4D;4E;4F;4G;4H;4I;4J;4K;4L;4M;4N;4O",
  "1d595 MATHEMATICAL BOLD FRAKTUR SMALL P;4Q;4R;4S;4T;4U;4V;4W;4X;4Y;4Z;1SANS-SERIF CAPITAL A;3B",
  "1d5a2 MATHEMATICAL SANS-SERIF CAPITAL C;3D;3E;3F;3G;3H;3I;3J;3K;3L;3M;3N;3O;3P;3Q;3R;3S;3T;3U",
  "1d5b5 MATHEMATICAL SANS-SERIF CAPITAL V;3W;3X;3Y;3Z;2SMALL A;3B;3C;3D;3E;3F;3G;3H;3I;3J;3K;3L",
  "1d5c6 MATHEMATICAL SANS-SERIF SMALL M;3N;3O;3P;3Q;3R;3S;3T;3U;3V;3W;3X;3Y;3Z;2BOLD CAPITAL A;4B",
  "1d5d6 MATHEMATICAL SANS-SERIF BOLD CAPITAL C;4D;4E;4F;4G;4H;4I;4J;4K;4L;4M;4N;4O;4P;4Q;4R;4S;4T",
  "1d5e8 MATHEMATICAL SANS-SERIF BOLD CAPITAL U;4V;4W;4X;4Y;4Z;3SMALL A;4B;4C;4D;4E;4F;4G;4H;4I;4J",
  "1d5f8 MATHEMATICAL SANS-SERIF BOLD SMALL K;4L;4M;4N;4O;4P;4Q;4R;4S;4T;4U;4V;4W;4X;4Y;4Z",
  "1d608 MATHEMATICAL SANS-SERIF ITALIC CAPITAL A;4B;4C;4D;4E;4F;4G;4H;4I;4J;4K;4L;4M;4N;4O;4P;4Q",
  "1d619 MATHEMATICAL SANS-SERIF ITALIC CAPITAL R;4S;4T;4U;4V;4W;4X;4Y;4Z;3SMALL A;4B;4C;4D;4E;4F",
  "1d628 MATHEMATICAL SANS-SERIF ITALIC SMALL G;4H;4I;4J;4K;4L;4M;4N;4O;4P;4Q;4R;4S;4T;4U;4V;4W;4X",
  "1d63a MATHEMATICAL SANS-SERIF ITALIC SMALL Y;4Z;2BOLD ITALIC CAPITAL A;5B;5C;5D;5E;5F;5G;5H;5I",
  "1d645 MATHEMATICAL SANS-SERIF BOLD ITALIC CAPITAL J;5K;5L;5M;5N;5O;5P;5Q;5R;5S;5T;5U;5V;5W;5X",
  "1d654 MATHEMATICAL SANS-SERIF BOLD ITALIC CAPITAL Y;5Z;4SMALL A;5B;5C;5D;5E;5F;5G;5H;5I;5J;5K",
  "1d661 MATHEMATICAL SANS-SERIF BOLD ITALIC SMALL L;5M;5N;5O;5P;5Q;5R;5S;5T;5U;5V;5W;5X;5Y;5Z",
  "1d670 MATHEMATICAL MONOSPACE CAPITAL A;3B;3C;3D;3E;3F;3G;3H;3I;3J;3K;3L;3M;3N;3O;3P;3Q;3R;3S;3T",
  "1d684 MATHEMATICAL MONOSPACE CAPITAL U;3V;3W;3X;3Y;3Z;2SMALL A;3B;3C;3D;3E;3F;3G;3H;3I;3J;3K;3L",
  "1d696 MATHEMATICAL MONOSPACE SMALL M;3N;3O;3P;3Q;3R;3S;3T;3U;3V;3W;3X;3Y;3Z",
  "1d6a4 MATHEMATICAL ITALIC SMALL DOTLESS I;4J",
  "1d6a8 MATHEMATICAL BOLD CAPITAL ALPHA;3BETA;3GAMMA;3DELTA;3EPSILON;3ZETA;3ETA;3THETA;3IOTA",
  "1d6b1 MATHEMATICAL BOLD CAPITAL KAPPA;3LAMDA;3MU;3NU;3XI;3OMICRON;3PI;3RHO;3THETA SYMBOL;3SIGMA",
  "1d6bb MATHEMATICAL BOLD CAPITAL TAU;3UPSILON;3PHI;3CHI;3PSI;3OMEGA;2NABLA;2SMALL ALPHA;3BETA",
  "1d6c4 MATHEMATICAL BOLD SMALL GAMMA;3DELTA;3EPSILON;3ZETA;3ETA;3THETA;3IOTA;3KAPPA;3LAMDA;3MU",
  "1d6ce MATHEMATICAL BOLD SMALL NU;3XI;3OMICRON;3PI;3RHO;3FINAL SIGMA;3SIGMA;3TAU;3UPSILON;3PHI",
  "1d6d8 MATHEMATICAL BOLD SMALL CHI;3PSI;3OMEGA;2PARTIAL DIFFERENTIAL;2EPSILON SYMBOL",
  "1d6dd MATHEMATICAL BOLD THETA SYMBOL;2KAPPA SYMBOL;2PHI SYMBOL;2RHO SYMBOL;2PI SYMBOL",
  "1d6e2 MATHEMATICAL ITALIC CAPITAL ALPHA;3BETA;3GAMMA;3DELTA;3EPSILON;3ZETA;3ETA;3THETA;3IOTA",
  "1d6eb MATHEMATICAL ITALIC CAPITAL KAPPA;3LAMDA;3MU;3NU;3XI;3OMICRON;3PI;3RHO;3THETA SYMBOL",
  "1d6f4 MATHEMATICAL ITALIC CAPITAL SIGMA;3TAU;3UPSILON;3PHI;3CHI;3PSI;3OMEGA;2NABLA;2SMALL ALPHA",
  "1d6fd MATHEMATICAL ITALIC SMALL BETA;3GAMMA;3DELTA;3EPSILON;3ZETA;3ETA;3THETA;3IOTA;3KAPPA",
  "1d706 MATHEMATICAL ITALIC SMALL LAMDA;3MU;3NU;3XI;3OMICRON;3PI;3RHO;3FINAL SIGMA;3SIGMA;3TAU",
  "1d710 MATHEMATICAL ITALIC SMALL UPSILON;3PHI;3CHI;3PSI;3OMEGA;2PARTIAL DIFFERENTIAL",
  "1d716 MATHEMATICAL ITALIC EPSILON SYMBOL;2THETA SYMBOL;2KAPPA SYMBOL;2PHI SYMBOL;2RHO SYMBOL",
  "1d71b MATHEMATICAL ITALIC PI SYMBOL;1BOLD ITALIC CAPITAL ALPHA;4BETA;4GAMMA;4DELTA;4EPSILON",
  "1d721 MATHEMATICAL BOLD ITALIC CAPITAL ZETA;4ETA;4THETA;4IOTA;4KAPPA;4LAMDA;4MU;4NU;4XI",
  "1d72a MATHEMATICAL BOLD ITALIC CAPITAL OMICRON;4PI;4RHO;4THETA SYMBOL;4SIGMA;4TAU;4UPSILON;4PHI",
  "1d732 MATHEMATICAL BOLD ITALIC CAPITAL CHI;4PSI;4OMEGA;3NABLA;3SMALL ALPHA;4BETA;4GAMMA;4DELTA",
  "1d73a MATHEMATICAL BOLD ITALIC SMALL EPSILON;4ZETA;4ETA;4THETA;4IOTA;4KAPPA;4LAMDA;4MU;4NU;4XI",
  "1d744 MATHEMATICAL BOLD ITALIC SMALL OMICRON;4PI;4RHO;4FINAL SIGMA;4SIGMA;4TAU;4UPSILON;4PHI",
  "1d74c MATHEMATICAL BOLD ITALIC SMALL CHI;4PSI;4OMEGA;3PARTIAL DIFFERENTIAL;3EPSILON SYMBOL",
  "1d751 MATHEMATICAL BOLD ITALIC THETA SYMBOL;3KAPPA SYMBOL;3PHI SYMBOL;3RHO SYMBOL;3PI SYMBOL",
  "1d756 MATHEMATICAL SANS-SERIF BOLD CAPITAL ALPHA;4BETA;4GAMMA;4DELTA;4EPSILON;4ZETA;4ETA;4THETA",
  "1d75e MATHEMATICAL SANS-SERIF BOLD CAPITAL IOTA;4KAPPA;4LAMDA;4MU;4NU;4XI;4OMICRON;4PI;4RHO",
  "1d767 MATHEMATICAL SANS-SERIF BOLD CAPITAL THETA SYMBOL;4SIGMA;4TAU;4UPSILON;4PHI;4CHI;4PSI",
  "1d76e MATHEMATICAL SANS-SERIF BOLD CAPITAL OMEGA;3NABLA;3SMALL ALPHA;4BETA;4GAMMA;4DELTA",
  "1d774 MATHEMATICAL SANS-SERIF BOLD SMALL EPSILON;4ZETA;4ETA;4THETA;4IOTA;4KAPPA;4LAMDA;4MU;4NU",
  "1d77d MATHEMATICAL SANS-SERIF BOLD SMALL XI;4OMICRON;4PI;4RHO;4FINAL SIGMA;4SIGMA;4TAU;4UPSILON",
  "1d785 MATHEMATICAL SANS-SERIF BOLD SMALL PHI;4CHI;4PSI;4OMEGA;3PARTIAL DIFFERENTIAL",
  "1d78a MATHEMATICAL SANS-SERIF BOLD EPSILON SYMBOL;3THETA SYMBOL;3KAPPA SYMBOL;3PHI SYMBOL",
  "1d78e MATHEMATICAL SANS-SERIF BOLD RHO SYMBOL;3PI SYMBOL;3ITALIC CAPITAL ALPHA;5BETA;5GAMMA",
  "1d793 MATHEMATICAL SANS-SERIF BOLD ITALIC CAPITAL DELTA;5EPSILON;5ZETA;5ETA;5THETA;5IOTA;5KAPPA",
  "1d79a MATHEMATICAL SANS-SERIF BOLD ITALIC CAPITAL LAMDA;5MU;5NU;5XI;5OMICRON;5PI;5RHO",
  "1d7a1 MATHEMATICAL SANS-SERIF BOLD ITALIC CAPITAL THETA SYMBOL;5SIGMA;5TAU;5UPSILON;5PHI;5CHI",
  "1d7a7 MATHEMATICAL SANS-SERIF BOLD ITALIC CAPITAL PSI;5OMEGA;4NABLA;4SMALL ALPHA;5BETA;5GAMMA",
  "1d7ad MATHEMATICAL SANS-SERIF BOLD ITALIC SMALL DELTA;5EPSILON;5ZETA;5ETA;5THETA;5IOTA;5KAPPA",
  "1d7b4 MATHEMATICAL SANS-SERIF BOLD ITALIC SMALL LAMDA;5MU;5NU;5XI;5OMICRON;5PI;5RHO",
  "1d7bb MATHEMATICAL SANS-SERIF BOLD ITALIC SMALL FINAL SIGMA;5SIGMA;5TAU;5UPSILON;5PHI;5CHI;5PSI",
  "1d7c2 MATHEMATICAL SANS-SERIF BOLD ITALIC SMALL OMEGA;4PARTIAL DIFFERENTIAL;4EPSILON SYMBOL",
  "1d7c5 MATHEMATICAL SANS-SERIF BOLD ITALIC THETA SYMBOL;4KAPPA SYMBOL;4PHI SYMBOL;4RHO SYMBOL",
  "1d7c9 MATHEMATICAL SANS-SERIF BOLD ITALIC PI SYMBOL;1BOLD CAPITAL DIGAMMA;2SMALL DIGAMMA",
  "1d7ce MATHEMATICAL BOLD DIGIT ZERO;3ONE;3TWO;3THREE;3FOUR;3FIVE;3SIX;3SEVEN;3EIGHT;3NINE",
  "1d7d8 MATHEMATICAL DOUBLE-STRUCK DIGIT ZERO;3ONE;3TWO;3THREE;3FOUR;3FIVE;3SIX;3SEVEN;3EIGHT",
  "1d7e1 MATHEMATICAL DOUBLE-STRUCK DIGIT NINE;1SANS-SERIF DIGIT ZERO;3ONE;3TWO;3THREE;3FOUR;3FIVE",
  "1d7e8 MATHEMATICAL SANS-SERIF DIGIT SIX;3SEVEN;3EIGHT;3NINE;2BOLD DIGIT ZERO;4ONE;4TWO;4THREE",
  "1d7f0 MATHEMATICAL SANS-SERIF BOLD DIGIT FOUR;4FIVE;4SIX;4SEVEN;4EIGHT;4NINE",
  "1d7f6 MATHEMATICAL MONOSPACE DIGIT ZERO;3ONE;3TWO;3THREE;3FOUR;3FIVE;3SIX;3SEVEN;3EIGHT;3NINE",
  "1d800 SIGNWRITING HAND-FIST INDEX;1HAND-CIRCLE INDEX;1HAND-CUP INDEX;1HAND-OVAL INDEX",
  "1d804 SIGNWRITING HAND-HINGE INDEX;1HAND-ANGLE INDEX;1HAND-FIST INDEX BENT",
  "1d807 SIGNWRITING HAND-CIRCLE INDEX BENT;1HAND-FIST THUMB UNDER INDEX BENT",
  "1d809 SIGNWRITING HAND-FIST INDEX RAISED KNUCKLE;3CUPPED;3HINGED;4LOW;1HAND-CIRCLE INDEX HINGE",
  "1d80e SIGNWRITING HAND-FIST INDEX MIDDLE;1HAND-CIRCLE INDEX MIDDLE;1HAND-FIST INDEX MIDDLE BENT",
  "1d811 SIGNWRITING HAND-FIST INDEX MIDDLE RAISED KNUCKLES;4HINGED;3UP MIDDLE HINGED",
  "1d814 SIGNWRITING HAND-FIST INDEX HINGED MIDDLE UP;3MIDDLE CONJOINED;5INDEX BENT;5MIDDLE BENT",
  "1d818 SIGNWRITING HAND-FIST INDEX MIDDLE CONJOINED CUPPED;5HINGED;4CROSSED",
  "1d81b SIGNWRITING HAND-CIRCLE INDEX MIDDLE CROSSED;1HAND-FIST MIDDLE BENT OVER INDEX",
  "1d81d SIGNWRITING HAND-FIST INDEX BENT OVER MIDDLE;3MIDDLE THUMB",
  "1d81f SIGNWRITING HAND-CIRCLE INDEX MIDDLE THUMB;1HAND-FIST INDEX MIDDLE STRAIGHT THUMB BENT",
  "1d821 SIGNWRITING HAND-FIST INDEX MIDDLE BENT THUMB STRAIGHT;4THUMB BENT",
  "1d823 SIGNWRITING HAND-FIST INDEX MIDDLE HINGED SPREAD THUMB SIDE;3UP MIDDLE HINGED THUMB SIDE",
  "1d825 SIGNWRITING HAND-FIST INDEX UP MIDDLE HINGED THUMB CONJOINED;3HINGED MIDDLE UP THUMB SIDE",
  "1d827 SIGNWRITING HAND-FIST INDEX MIDDLE UP SPREAD THUMB FORWARD;4THUMB CUPPED;5CIRCLED;5HOOKED",
  "1d82b SIGNWRITING HAND-FIST INDEX MIDDLE THUMB HINGED;2THUMB BETWEEN INDEX MIDDLE STRAIGHT",
  "1d82d SIGNWRITING HAND-FIST INDEX MIDDLE CONJOINED THUMB SIDE;7CONJOINED;7BENT",
  "1d830 SIGNWRITING HAND-FIST MIDDLE THUMB HOOKED INDEX UP;2INDEX THUMB HOOKED MIDDLE UP",
  "1d832 SIGNWRITING HAND-FIST INDEX MIDDLE CONJOINED HINGED THUMB SIDE;4CROSSED THUMB SIDE",
  "1d834 SIGNWRITING HAND-FIST INDEX MIDDLE CONJOINED THUMB FORWARD;5CUPPED THUMB FORWARD",
  "1d836 SIGNWRITING HAND-FIST MIDDLE THUMB CUPPED INDEX UP;2INDEX THUMB CUPPED MIDDLE UP",
  "1d838 SIGNWRITING HAND-FIST MIDDLE THUMB CIRCLED INDEX UP;6HINGED",
  "1d83a SIGNWRITING HAND-FIST INDEX THUMB ANGLED OUT MIDDLE UP;5IN MIDDLE UP;4CIRCLED MIDDLE UP",
  "1d83d SIGNWRITING HAND-FIST INDEX MIDDLE THUMB CONJOINED HINGED;5ANGLED OUT;5ANGLED",
  "1d840 SIGNWRITING HAND-FIST MIDDLE THUMB ANGLED OUT INDEX UP;7CROSSED;5INDEX UP",
  "1d843 SIGNWRITING HAND-FIST INDEX THUMB HOOKED MIDDLE HINGED;1HAND-FLAT FOUR FINGERS;4BENT",
  "1d846 SIGNWRITING HAND-FLAT FOUR FINGERS HINGED;4CONJOINED;5SPLIT",
  "1d849 SIGNWRITING HAND-CLAW FOUR FINGERS CONJOINED;1HAND-FIST FOUR FINGERS CONJOINED BENT",
  "1d84b SIGNWRITING HAND-HINGE FOUR FINGERS CONJOINED;1HAND-FLAT FIVE FINGERS SPREAD",
  "1d84d SIGNWRITING HAND-FLAT HEEL FIVE FINGERS SPREAD;2FIVE FINGERS SPREAD FOUR BENT",
  "1d84f SIGNWRITING HAND-FLAT HEEL FIVE FINGERS SPREAD FOUR BENT;2FIVE FINGERS SPREAD BENT",
  "1d851 SIGNWRITING HAND-FLAT HEEL FIVE FINGERS SPREAD BENT;2FIVE FINGERS SPREAD THUMB FORWARD",
  "1d853 SIGNWRITING HAND-CUP FIVE FINGERS SPREAD;5OPEN;1HAND-HINGE FIVE FINGERS SPREAD OPEN",
  "1d856 SIGNWRITING HAND-OVAL FIVE FINGERS SPREAD;1HAND-FLAT FIVE FINGERS SPREAD HINGED",
  "1d858 SIGNWRITING HAND-FLAT FIVE FINGERS SPREAD HINGED THUMB SIDE;6NO THUMB;1HAND-FLAT",
  "1d85b SIGNWRITING HAND-FLAT BETWEEN PALM FACINGS;2HEEL;2THUMB SIDE;2HEEL THUMB SIDE;2THUMB BENT",
  "1d860 SIGNWRITING HAND-FLAT THUMB FORWARD;2SPLIT INDEX THUMB SIDE;3CENTRE;4THUMB SIDE;6BENT",
  "1d865 SIGNWRITING HAND-FLAT SPLIT LITTLE;1HAND-CLAW;2THUMB SIDE;2NO THUMB;2THUMB FORWARD",
  "1d86a SIGNWRITING HAND-HOOK CURLICUE;1HAND-HOOK;1HAND-CUP OPEN;1HAND-CUP;2OPEN THUMB SIDE",
  "1d86f SIGNWRITING HAND-CUP THUMB SIDE;2OPEN NO THUMB;2NO THUMB;2OPEN THUMB FORWARD",
  "1d873 SIGNWRITING HAND-CUP THUMB FORWARD;1HAND-CURLICUE OPEN;1HAND-CURLICUE;1HAND-CIRCLE",
  "1d877 SIGNWRITING HAND-OVAL;2THUMB SIDE;2NO THUMB;2THUMB FORWARD;1HAND-HINGE OPEN",
  "1d87c SIGNWRITING HAND-HINGE OPEN THUMB FORWARD;1HAND-HINGE;2SMALL;2OPEN THUMB SIDE;2THUMB SIDE",
  "1d881 SIGNWRITING HAND-HINGE OPEN NO THUMB;2NO THUMB;2THUMB SIDE TOUCHING INDEX",
  "1d884 SIGNWRITING HAND-HINGE THUMB BETWEEN MIDDLE RING;1HAND-ANGLE;1HAND-FIST INDEX MIDDLE RING",
  "1d887 SIGNWRITING HAND-CIRCLE INDEX MIDDLE RING;1HAND-HINGE INDEX MIDDLE RING",
  "1d889 SIGNWRITING HAND-ANGLE INDEX MIDDLE RING;1HAND-HINGE LITTLE",
  "1d88b SIGNWRITING HAND-FIST INDEX MIDDLE RING BENT;5CONJOINED",
  "1d88d SIGNWRITING HAND-HINGE INDEX MIDDLE RING CONJOINED;1HAND-FIST LITTLE DOWN",
  "1d88f SIGNWRITING HAND-FIST LITTLE DOWN RIPPLE STRAIGHT;5CURVED;4OTHERS CIRCLED;3UP",
  "1d893 SIGNWRITING HAND-FIST THUMB UNDER LITTLE UP;1HAND-CIRCLE LITTLE UP;1HAND-OVAL LITTLE UP",
  "1d896 SIGNWRITING HAND-ANGLE LITTLE UP;1HAND-FIST LITTLE RAISED KNUCKLE;3BENT;3TOUCHES THUMB",
  "1d89a SIGNWRITING HAND-FIST LITTLE THUMB;1HAND-HINGE LITTLE THUMB;1HAND-FIST LITTLE INDEX THUMB",
  "1d89d SIGNWRITING HAND-HINGE LITTLE INDEX THUMB;1HAND-ANGLE LITTLE INDEX THUMB INDEX THUMB OUT",
  "1d89f SIGNWRITING HAND-ANGLE LITTLE INDEX THUMB INDEX THUMB;1HAND-FIST LITTLE INDEX",
  "1d8a1 SIGNWRITING HAND-CIRCLE LITTLE INDEX;1HAND-HINGE LITTLE INDEX;1HAND-ANGLE LITTLE INDEX",
  "1d8a4 SIGNWRITING HAND-FIST INDEX MIDDLE LITTLE;1HAND-CIRCLE INDEX MIDDLE LITTLE",
  "1d8a6 SIGNWRITING HAND-HINGE INDEX MIDDLE LITTLE;2RING;1HAND-ANGLE INDEX MIDDLE LITTLE",
  "1d8a9 SIGNWRITING HAND-FIST INDEX MIDDLE CROSS LITTLE;1HAND-CIRCLE INDEX MIDDLE CROSS LITTLE",
  "1d8ab SIGNWRITING HAND-FIST RING DOWN;1HAND-HINGE RING DOWN INDEX THUMB HOOK MIDDLE",
  "1d8ad SIGNWRITING HAND-ANGLE RING DOWN MIDDLE THUMB INDEX CROSS;1HAND-FIST RING UP",
  "1d8af SIGNWRITING HAND-FIST RING RAISED KNUCKLE;3LITTLE;1HAND-CIRCLE RING LITTLE",
  "1d8b2 SIGNWRITING HAND-OVAL RING LITTLE;1HAND-ANGLE RING LITTLE;1HAND-FIST RING MIDDLE",
  "1d8b5 SIGNWRITING HAND-FIST RING MIDDLE CONJOINED;4RAISED KNUCKLES;3INDEX;3THUMB",
  "1d8b9 SIGNWRITING HAND-HOOK RING THUMB;1HAND-FIST INDEX RING LITTLE",
  "1d8bb SIGNWRITING HAND-CIRCLE INDEX RING LITTLE;1HAND-CURLICUE INDEX RING LITTLE ON",
  "1d8bd SIGNWRITING HAND-HOOK INDEX RING LITTLE OUT;5IN;5UNDER;1HAND-CUP INDEX RING LITTLE",
  "1d8c1 SIGNWRITING HAND-HINGE INDEX RING LITTLE;1HAND-ANGLE INDEX RING LITTLE OUT;4LITTLE",
  "1d8c4 SIGNWRITING HAND-FIST MIDDLE DOWN;1HAND-HINGE MIDDLE;1HAND-FIST MIDDLE UP",
  "1d8c7 SIGNWRITING HAND-CIRCLE MIDDLE UP;1HAND-FIST MIDDLE RAISED KNUCKLE;3UP THUMB SIDE",
  "1d8ca SIGNWRITING HAND-HOOK MIDDLE THUMB;1HAND-FIST MIDDLE THUMB LITTLE;3LITTLE;3RING LITTLE",
  "1d8ce SIGNWRITING HAND-CIRCLE MIDDLE RING LITTLE;1HAND-CURLICUE MIDDLE RING LITTLE ON",
  "1d8d0 SIGNWRITING HAND-CUP MIDDLE RING LITTLE;1HAND-HINGE MIDDLE RING LITTLE",
  "1d8d2 SIGNWRITING HAND-ANGLE MIDDLE RING LITTLE OUT;5IN;4LITTLE",
  "1d8d5 SIGNWRITING HAND-CIRCLE MIDDLE RING LITTLE BENT;1HAND-CLAW MIDDLE RING LITTLE CONJOINED",
  "1d8d7 SIGNWRITING HAND-CLAW MIDDLE RING LITTLE CONJOINED SIDE",
  "1d8d8 SIGNWRITING HAND-HOOK MIDDLE RING LITTLE CONJOINED OUT;6IN;5CONJOINED",
  "1d8db SIGNWRITING HAND-HINGE INDEX HINGED;1HAND-FIST INDEX THUMB SIDE",
  "1d8dd SIGNWRITING HAND-HINGE INDEX THUMB SIDE;1HAND-FIST INDEX THUMB SIDE THUMB DIAGONAL",
  "1d8df SIGNWRITING HAND-FIST INDEX THUMB SIDE THUMB CONJOINED;6BENT;5INDEX BENT;5BOTH BENT",
  "1d8e3 SIGNWRITING HAND-FIST INDEX THUMB SIDE INDEX HINGE;4FORWARD INDEX STRAIGHT;6BENT;4HOOK",
  "1d8e7 SIGNWRITING HAND-FIST INDEX THUMB CURLICUE;4CURVE THUMB INSIDE",
  "1d8e9 SIGNWRITING HAND-CLAW INDEX THUMB CURVE THUMB INSIDE",
  "1d8ea SIGNWRITING HAND-FIST INDEX THUMB CURVE THUMB UNDER;4CIRCLE;1HAND-CUP INDEX THUMB;4OPEN",
  "1d8ee SIGNWRITING HAND-HINGE INDEX THUMB OPEN;4LARGE;3THUMB;4SMALL;1HAND-ANGLE INDEX THUMB OUT",
  "1d8f3 SIGNWRITING HAND-ANGLE INDEX THUMB IN;3THUMB;1HAND-FIST THUMB;3HEEL;3SIDE DIAGONAL",
  "1d8f8 SIGNWRITING HAND-FIST THUMB SIDE CONJOINED;4BENT;3FORWARD;3BETWEEN INDEX MIDDLE",
  "1d8fc SIGNWRITING HAND-FIST THUMB BETWEEN MIDDLE RING;4RING LITTLE;3UNDER TWO FINGERS",
  "1d8ff SIGNWRITING HAND-FIST THUMB OVER TWO FINGERS;3UNDER THREE FINGERS;4FOUR FINGERS",
  "1d902 SIGNWRITING HAND-FIST THUMB OVER FOUR RAISED KNUCKLES;1HAND-FIST;2HEEL;1TOUCH SINGLE",
  "1d906 SIGNWRITING TOUCH MULTIPLE;2BETWEEN;1GRASP SINGLE;2MULTIPLE;2BETWEEN;1STRIKE SINGLE",
  "1d90c SIGNWRITING STRIKE MULTIPLE;2BETWEEN;1BRUSH SINGLE;2MULTIPLE;2BETWEEN;1RUB SINGLE",
  "1d912 SIGNWRITING RUB MULTIPLE;2BETWEEN;1SURFACE SYMBOLS;2BETWEEN;1SQUEEZE LARGE SINGLE",
  "1d917 SIGNWRITING SQUEEZE SMALL SINGLE;2LARGE MULTIPLE;2SMALL MULTIPLE;2SEQUENTIAL",
  "1d91b SIGNWRITING FLICK LARGE SINGLE;2SMALL SINGLE;2LARGE MULTIPLE;2SMALL MULTIPLE;2SEQUENTIAL",
  "1d920 SIGNWRITING SQUEEZE FLICK ALTERNATING;1MOVEMENT-HINGE UP DOWN LARGE;4SMALL;3SEQUENTIAL",
  "1d924 SIGNWRITING MOVEMENT-HINGE DOWN SEQUENTIAL;2UP DOWN ALTERNATING LARGE;5SMALL",
  "1d927 SIGNWRITING MOVEMENT-HINGE SIDE TO SIDE SCISSORS;1MOVEMENT-WALLPLANE FINGER CONTACT",
  "1d929 SIGNWRITING MOVEMENT-FLOORPLANE FINGER CONTACT;1MOVEMENT-WALLPLANE SINGLE STRAIGHT SMALL",
  "1d92b SIGNWRITING MOVEMENT-WALLPLANE SINGLE STRAIGHT MEDIUM;4LARGE;4LARGEST;3WRIST FLEX",
  "1d92f SIGNWRITING MOVEMENT-WALLPLANE DOUBLE STRAIGHT;3WRIST FLEX;3ALTERNATING;4WRIST FLEX",
  "1d933 SIGNWRITING MOVEMENT-WALLPLANE CROSS;2TRIPLE STRAIGHT MOVEMENT;3WRIST FLEX;3ALTERNATING",
  "1d937 SIGNWRITING MOVEMENT-WALLPLANE TRIPLE ALTERNATING WRIST FLEX;2BEND SMALL;3MEDIUM;3LARGE",
  "1d93b SIGNWRITING MOVEMENT-WALLPLANE CORNER SMALL;3MEDIUM;3LARGE;3ROTATION;2CHECK SMALL;3MEDIUM",
  "1d941 SIGNWRITING MOVEMENT-WALLPLANE CHECK LARGE;2BOX SMALL;3MEDIUM;3LARGE;2ZIGZAG SMALL",
  "1d946 SIGNWRITING MOVEMENT-WALLPLANE ZIGZAG MEDIUM;3LARGE;2PEAKS SMALL;3MEDIUM;3LARGE",
  "1d94b SIGNWRITING TRAVEL-WALLPLANE ROTATION-WALLPLANE SINGLE;3DOUBLE;3ALTERNATING",
  "1d94e SIGNWRITING TRAVEL-WALLPLANE ROTATION-FLOORPLANE SINGLE;3DOUBLE;3ALTERNATING;2SHAKING",
  "1d952 SIGNWRITING TRAVEL-WALLPLANE ARM SPIRAL SINGLE;4DOUBLE;4TRIPLE",
  "1d955 SIGNWRITING MOVEMENT-DIAGONAL AWAY SMALL;3MEDIUM;3LARGE;3LARGEST;2TOWARDS SMALL;3MEDIUM",
  "1d95b SIGNWRITING MOVEMENT-DIAGONAL TOWARDS LARGE;3LARGEST;2BETWEEN AWAY SMALL;4MEDIUM;4LARGE",
  "1d960 SIGNWRITING MOVEMENT-DIAGONAL BETWEEN AWAY LARGEST;3TOWARDS SMALL;4MEDIUM;4LARGE;4LARGEST",
  "1d965 SIGNWRITING MOVEMENT-FLOORPLANE SINGLE STRAIGHT SMALL;4MEDIUM;4LARGE;4LARGEST;3WRIST FLEX",
  "1d96a SIGNWRITING MOVEMENT-FLOORPLANE DOUBLE STRAIGHT;3WRIST FLEX;3ALTERNATING;4WRIST FLEX",
  "1d96e SIGNWRITING MOVEMENT-FLOORPLANE CROSS;2TRIPLE STRAIGHT MOVEMENT;3WRIST FLEX",
  "1d971 SIGNWRITING MOVEMENT-FLOORPLANE TRIPLE ALTERNATING MOVEMENT;4WRIST FLEX;2BEND",
  "1d974 SIGNWRITING MOVEMENT-FLOORPLANE CORNER SMALL;3MEDIUM;3LARGE;2CHECK;2BOX SMALL;3MEDIUM",
  "1d97a SIGNWRITING MOVEMENT-FLOORPLANE BOX LARGE;2ZIGZAG SMALL;3MEDIUM;3LARGE;2PEAKS SMALL",
  "1d97f SIGNWRITING MOVEMENT-FLOORPLANE PEAKS MEDIUM;3LARGE",
  "1d981 SIGNWRITING TRAVEL-FLOORPLANE ROTATION-FLOORPLANE SINGLE;3DOUBLE;3ALTERNATING",
  "1d984 SIGNWRITING TRAVEL-FLOORPLANE ROTATION-WALLPLANE SINGLE;3DOUBLE;3ALTERNATING;2SHAKING",
  "1d988 SIGNWRITING MOVEMENT-WALLPLANE CURVE QUARTER SMALL;4MEDIUM;4LARGE;4LARGEST",
  "1d98c SIGNWRITING MOVEMENT-WALLPLANE CURVE HALF-CIRCLE SMALL;4MEDIUM;4LARGE;4LARGEST",
  "1d990 SIGNWRITING MOVEMENT-WALLPLANE CURVE THREE-QUARTER CIRCLE SMALL;5MEDIUM;2HUMP SMALL",
  "1d993 SIGNWRITING MOVEMENT-WALLPLANE HUMP MEDIUM;3LARGE;2LOOP SMALL;3MEDIUM;3LARGE",
  "1d998 SIGNWRITING MOVEMENT-WALLPLANE LOOP SMALL DOUBLE;2WAVE CURVE DOUBLE SMALL;5MEDIUM;5LARGE",
  "1d99c SIGNWRITING MOVEMENT-WALLPLANE WAVE CURVE TRIPLE SMALL;5MEDIUM;5LARGE",
  "1d99f SIGNWRITING MOVEMENT-WALLPLANE CURVE THEN STRAIGHT;2CURVED CROSS SMALL;4MEDIUM",
  "1d9a2 SIGNWRITING ROTATION-WALLPLANE SINGLE;2DOUBLE;2ALTERNATE;1MOVEMENT-WALLPLANE SHAKING",
  "1d9a6 SIGNWRITING MOVEMENT-WALLPLANE CURVE HITTING FRONT WALL;2HUMP HITTING FRONT WALL",
  "1d9a8 SIGNWRITING MOVEMENT-WALLPLANE LOOP HITTING FRONT WALL;2WAVE HITTING FRONT WALL",
  "1d9aa SIGNWRITING ROTATION-WALLPLANE SINGLE HITTING FRONT WALL;2DOUBLE HITTING FRONT WALL",
  "1d9ac SIGNWRITING ROTATION-WALLPLANE ALTERNATING HITTING FRONT WALL",
  "1d9ad SIGNWRITING MOVEMENT-WALLPLANE CURVE HITTING CHEST;2HUMP HITTING CHEST",
  "1d9af SIGNWRITING MOVEMENT-WALLPLANE LOOP HITTING CHEST;2WAVE HITTING CHEST",
  "1d9b1 SIGNWRITING ROTATION-WALLPLANE SINGLE HITTING CHEST;2DOUBLE HITTING CHEST",
  "1d9b3 SIGNWRITING ROTATION-WALLPLANE ALTERNATING HITTING CHEST",
  "1d9b4 SIGNWRITING MOVEMENT-WALLPLANE WAVE DIAGONAL PATH SMALL;5MEDIUM;5LARGE",
  "1d9b7 SIGNWRITING MOVEMENT-FLOORPLANE CURVE HITTING CEILING SMALL;5LARGE",
  "1d9b9 SIGNWRITING MOVEMENT-FLOORPLANE HUMP HITTING CEILING SMALL DOUBLE;5LARGE DOUBLE",
  "1d9bb SIGNWRITING MOVEMENT-FLOORPLANE HUMP HITTING CEILING SMALL TRIPLE;5LARGE TRIPLE",
  "1d9bd SIGNWRITING MOVEMENT-FLOORPLANE LOOP HITTING CEILING SMALL SINGLE;5LARGE SINGLE",
  "1d9bf SIGNWRITING MOVEMENT-FLOORPLANE LOOP HITTING CEILING SMALL DOUBLE;5LARGE DOUBLE",
  "1d9c1 SIGNWRITING MOVEMENT-FLOORPLANE WAVE HITTING CEILING SMALL;5LARGE",
  "1d9c3 SIGNWRITING ROTATION-FLOORPLANE SINGLE HITTING CEILING;2DOUBLE HITTING CEILING",
  "1d9c5 SIGNWRITING ROTATION-FLOORPLANE ALTERNATING HITTING CEILING",
  "1d9c6 SIGNWRITING MOVEMENT-FLOORPLANE CURVE HITTING FLOOR SMALL;5LARGE",
  "1d9c8 SIGNWRITING MOVEMENT-FLOORPLANE HUMP HITTING FLOOR SMALL DOUBLE;5LARGE DOUBLE",
  "1d9ca SIGNWRITING MOVEMENT-FLOORPLANE HUMP HITTING FLOOR TRIPLE SMALL TRIPLE;6LARGE TRIPLE",
  "1d9cc SIGNWRITING MOVEMENT-FLOORPLANE LOOP HITTING FLOOR SMALL SINGLE;5LARGE SINGLE",
  "1d9ce SIGNWRITING MOVEMENT-FLOORPLANE LOOP HITTING FLOOR SMALL DOUBLE;5LARGE DOUBLE",
  "1d9d0 SIGNWRITING MOVEMENT-FLOORPLANE WAVE HITTING FLOOR SMALL;5LARGE",
  "1d9d2 SIGNWRITING ROTATION-FLOORPLANE SINGLE HITTING FLOOR;2DOUBLE HITTING FLOOR",
  "1d9d4 SIGNWRITING ROTATION-FLOORPLANE ALTERNATING HITTING FLOOR",
  "1d9d5 SIGNWRITING MOVEMENT-FLOORPLANE CURVE SMALL;3MEDIUM;3LARGE;3LARGEST;3COMBINED;2HUMP SMALL",
  "1d9db SIGNWRITING MOVEMENT-FLOORPLANE LOOP SMALL;2WAVE SNAKE;3SMALL;3LARGE",
  "1d9df SIGNWRITING ROTATION-FLOORPLANE SINGLE;2DOUBLE;2ALTERNATING",
  "1d9e2 SIGNWRITING MOVEMENT-FLOORPLANE SHAKING PARALLEL",
  "1d9e3 SIGNWRITING MOVEMENT-WALLPLANE ARM CIRCLE SMALL SINGLE;4MEDIUM SINGLE;4SMALL DOUBLE",
  "1d9e6 SIGNWRITING MOVEMENT-WALLPLANE ARM CIRCLE MEDIUM DOUBLE",
  "1d9e7 SIGNWRITING MOVEMENT-FLOORPLANE ARM CIRCLE HITTING WALL SMALL SINGLE;6MEDIUM SINGLE",
  "1d9e9 SIGNWRITING MOVEMENT-FLOORPLANE ARM CIRCLE HITTING WALL LARGE SINGLE;6SMALL DOUBLE",
  "1d9eb SIGNWRITING MOVEMENT-FLOORPLANE ARM CIRCLE HITTING WALL MEDIUM DOUBLE;6LARGE DOUBLE",
  "1d9ed SIGNWRITING MOVEMENT-WALLPLANE WRIST CIRCLE FRONT SINGLE;5DOUBLE",
  "1d9ef SIGNWRITING MOVEMENT-FLOORPLANE WRIST CIRCLE HITTING WALL SINGLE;6DOUBLE",
  "1d9f1 SIGNWRITING MOVEMENT-WALLPLANE FINGER CIRCLES SINGLE;4DOUBLE",
  "1d9f3 SIGNWRITING MOVEMENT-FLOORPLANE FINGER CIRCLES HITTING WALL SINGLE;6DOUBLE",
  "1d9f5 SIGNWRITING DYNAMIC ARROWHEAD SMALL;3LARGE;2FAST;2SLOW;2TENSE;2RELAXED;2SIMULTANEOUS",
  "1d9fc SIGNWRITING DYNAMIC SIMULTANEOUS ALTERNATING;2EVERY OTHER TIME;2GRADUAL;1HEAD;2RIM",
  "1da01 SIGNWRITING HEAD MOVEMENT-WALLPLANE STRAIGHT;3TILT;2MOVEMENT-FLOORPLANE STRAIGHT",
  "1da04 SIGNWRITING HEAD MOVEMENT-WALLPLANE CURVE;2MOVEMENT-FLOORPLANE CURVE;2MOVEMENT CIRCLE",
  "1da07 SIGNWRITING FACE DIRECTION POSITION NOSE FORWARD TILTING;5UP OR DOWN;8TILTING",
  "1da0a SIGNWRITING EYEBROWS STRAIGHT UP;3NEUTRAL;3DOWN;1DREAMY EYEBROWS NEUTRAL DOWN",
  "1da0e SIGNWRITING DREAMY EYEBROWS DOWN NEUTRAL;3UP NEUTRAL;3NEUTRAL UP;1FOREHEAD NEUTRAL",
  "1da12 SIGNWRITING FOREHEAD CONTACT;2WRINKLED;1EYES OPEN;2SQUEEZED;2CLOSED;1EYE BLINK SINGLE",
  "1da18 SIGNWRITING EYE BLINK MULTIPLE;1EYES HALF OPEN;2WIDE OPEN;2HALF CLOSED;2WIDENING MOVEMENT",
  "1da1d SIGNWRITING EYE WINK;1EYELASHES UP;2DOWN;2FLUTTERING;1EYEGAZE-WALLPLANE STRAIGHT;3DOUBLE",
  "1da23 SIGNWRITING EYEGAZE-WALLPLANE STRAIGHT ALTERNATING;1EYEGAZE-FLOORPLANE STRAIGHT;3DOUBLE",
  "1da26 SIGNWRITING EYEGAZE-FLOORPLANE STRAIGHT ALTERNATING;1EYEGAZE-WALLPLANE CURVED",
  "1da28 SIGNWRITING EYEGAZE-FLOORPLANE CURVED;1EYEGAZE-WALLPLANE CIRCLING;1CHEEKS PUFFED;2NEUTRAL",
  "1da2c SIGNWRITING CHEEKS SUCKED;1TENSE CHEEKS HIGH;3MIDDLE;3LOW;1EARS;1NOSE NEUTRAL;2CONTACT",
  "1da33 SIGNWRITING NOSE WRINKLES;2WIGGLES;1AIR BLOWING OUT;2SUCKING IN;2BLOW SMALL ROTATIONS",
  "1da38 SIGNWRITING AIR SUCK SMALL ROTATIONS;1BREATH INHALE;2EXHALE;1MOUTH CLOSED NEUTRAL",
  "1da3c SIGNWRITING MOUTH CLOSED FORWARD;3CONTACT;2SMILE;3WRINKLED;3OPEN;2FROWN;3WRINKLED;3OPEN",
  "1da44 SIGNWRITING MOUTH OPEN CIRCLE;3FORWARD;3WRINKLED;3OVAL;4WRINKLED;4YAWN;3RECTANGLE",
  "1da4b SIGNWRITING MOUTH OPEN RECTANGLE WRINKLED;4YAWN;2KISS;3FORWARD;3WRINKLED;2TENSE;3FORWARD",
  "1da52 SIGNWRITING MOUTH TENSE SUCKED;1LIPS PRESSED TOGETHER;1LIP LOWER OVER UPPER",
  "1da55 SIGNWRITING LIP UPPER OVER LOWER;1MOUTH CORNERS;2WRINKLES SINGLE;3DOUBLE",
  "1da59 SIGNWRITING TONGUE STICKING OUT FAR;2LICKING LIPS;2TIP BETWEEN LIPS",
  "1da5c SIGNWRITING TONGUE TIP TOUCHING INSIDE MOUTH;2INSIDE MOUTH RELAXED;2MOVES AGAINST CHEEK",
  "1da5f SIGNWRITING TONGUE CENTRE STICKING OUT;3INSIDE MOUTH;1TEETH;2MOVEMENT;2ON TONGUE",
  "1da64 SIGNWRITING TEETH ON TONGUE MOVEMENT;3LIPS;4MOVEMENT;2BITE LIPS;1MOVEMENT-WALLPLANE JAW",
  "1da69 SIGNWRITING MOVEMENT-FLOORPLANE JAW;1NECK;1HAIR;1EXCITEMENT;1SHOULDER HIP SPINE",
  "1da6e SIGNWRITING SHOULDER HIP POSITIONS;1WALLPLANE SHOULDER HIP MOVE",
  "1da70 SIGNWRITING FLOORPLANE SHOULDER HIP MOVE;1SHOULDER TILTING FROM WAIST",
  "1da72 SIGNWRITING TORSO-WALLPLANE STRAIGHT STRETCH;2CURVED BEND;1TORSO-FLOORPLANE TWISTING",
  "1da75 SIGNWRITING UPPER BODY TILTING FROM HIP JOINTS;1LIMB COMBINATION;2LENGTH-1;2LENGTH-2",
  "1da79 SIGNWRITING LIMB LENGTH-3;2LENGTH-4;2LENGTH-5;2LENGTH-6;2LENGTH-7;1FINGER",
  "1da7f SIGNWRITING LOCATION-WALLPLANE SPACE;1LOCATION-FLOORPLANE SPACE;1LOCATION HEIGHT;2WIDTH",
  "1da83 SIGNWRITING LOCATION DEPTH;2HEAD NECK;2TORSO;2LIMBS DIGITS;1COMMA;1FULL STOP;1SEMICOLON",
  "1da8a SIGNWRITING COLON;1PARENTHESIS",
  "1da9b SIGNWRITING FILL MODIFIER-2;2MODIFIER-3;2MODIFIER-4;2MODIFIER-5;2MODIFIER-6",
  "1daa1 SIGNWRITING ROTATION MODIFIER-2;2MODIFIER-3;2MODIFIER-4;2MODIFIER-5;2MODIFIER-6",
  "1daa6 SIGNWRITING ROTATION MODIFIER-7;2MODIFIER-8;2MODIFIER-9;2MODIFIER-10;2MODIFIER-11",
  "1daab SIGNWRITING ROTATION MODIFIER-12;2MODIFIER-13;2MODIFIER-14;2MODIFIER-15;2MODIFIER-16",
  "1df00 LATIN SMALL LETTER FENG DIGRAPH WITH TRILL;3REVERSED SCRIPT G",
  "1df02 LATIN LETTER SMALL CAPITAL TURNED G;1SMALL LETTER REVERSED K",
  "1df04 LATIN LETTER SMALL CAPITAL L WITH BELT;1SMALL LETTER LEZH WITH RETROFLEX HOOK",
  "1df06 LATIN SMALL LETTER TURNED Y WITH BELT;3REVERSED ENG",
  "1df08 LATIN SMALL LETTER TURNED R WITH LONG LEG AND RETROFLEX HOOK",
  "1df09 LATIN SMALL LETTER T WITH HOOK AND RETROFLEX HOOK",
  "1df0a LATIN LETTER RETROFLEX CLICK WITH RETROFLEX HOOK;1SMALL LETTER ESH WITH DOUBLE BAR",
  "1df0c LATIN SMALL LETTER ESH WITH DOUBLE BAR AND CURL;3TURNED T WITH CURL",
  "1df0e LATIN LETTER INVERTED GLOTTAL STOP WITH CURL;2STRETCHED C WITH CURL",
  "1df10 LATIN LETTER SMALL CAPITAL TURNED K;1SMALL LETTER L WITH FISHHOOK",
  "1df12 LATIN SMALL LETTER DEZH DIGRAPH WITH PALATAL HOOK;3L WITH BELT AND PALATAL HOOK",
  "1df14 LATIN SMALL LETTER ENG WITH PALATAL HOOK;3TURNED R WITH PALATAL HOOK",
  "1df16 LATIN SMALL LETTER R WITH FISHHOOK AND PALATAL HOOK;3TESH DIGRAPH WITH PALATAL HOOK",
  "1df18 LATIN SMALL LETTER EZH WITH PALATAL HOOK;3DEZH DIGRAPH WITH RETROFLEX HOOK",
  "1df1a LATIN SMALL LETTER I WITH STROKE AND RETROFLEX HOOK;3O WITH RETROFLEX HOOK",
  "1df1c LATIN SMALL LETTER TESH DIGRAPH WITH RETROFLEX HOOK;3C WITH RETROFLEX HOOK;3S WITH CURL",
  "1e000 COMBINING GLAGOLITIC LETTER AZU;3BUKY;3VEDE;3GLAGOLI;3DOBRO;3YESTU;3ZHIVETE",
  "1e008 COMBINING GLAGOLITIC LETTER ZEMLJA;3IZHE;3INITIAL IZHE;3I;3DJERVI;3KAKO;3LJUDIJE;3MYSLITE",
  "1e010 COMBINING GLAGOLITIC LETTER NASHI;3ONU;3POKOJI;3RITSI;3SLOVO;3TVRIDO;3UKU;3FRITU;3HERU",
  "1e01b COMBINING GLAGOLITIC LETTER SHTA;3TSI;3CHRIVI;3SHA;3YERU;3YERI;3YATI",
  "1e023 COMBINING GLAGOLITIC LETTER YU;3SMALL YUS",
  "1e026 COMBINING GLAGOLITIC LETTER YO;3IOTATED SMALL YUS;3BIG YUS;3IOTATED BIG YUS;3FITA",
  "1e100 NYIAKENG PUACHUE HMONG LETTER MA;4TSA;4NTA;4TA;4HA;4NA;4XA;4NKA;4CA;4LA;4SA;4ZA;4NCA",
  "1e10d NYIAKENG PUACHUE HMONG LETTER NTSA;4KA;4DA;4NYA;4NRA;4VA;4NTXA;4TXA;4FA;4RA;4QA;4YA;4NQA",
  "1e11a NYIAKENG PUACHUE HMONG LETTER PA;4XYA;4NPA;4DLA;4NPLA;4HAH;4MLA;4PLA;4GA;4RRA;4A;4AA;4I",
  "1e127 NYIAKENG PUACHUE HMONG LETTER U;4O;4OO;4E;4EE;4W",
  "1e130 NYIAKENG PUACHUE HMONG TONE-B;3TONE-M;3TONE-J;3TONE-V;3TONE-S;3TONE-G;3TONE-D",
  "1e137 NYIAKENG PUACHUE HMONG SIGN FOR PERSON;5THING;5LOCATION;5ANIMAL;5INVERTEBRATE;4XW XW",
  "1e13d NYIAKENG PUACHUE HMONG SYLLABLE LENGTHENER",
  "1e140 NYIAKENG PUACHUE HMONG DIGIT ZERO;4ONE;4TWO;4THREE;4FOUR;4FIVE;4SIX;4SEVEN;4EIGHT;4NINE",
  "1e14e NYIAKENG PUACHUE HMONG LOGOGRAM NYAJ;3CIRCLED CA",
  "1e290 TOTO LETTER PA;2BA;2TA;2DA;2KA;2GA;2MA;2NA;2NGA;2SA;2CHA;2YA;2WA;2JA;2HA;2RA;2LA;2I",
  "1e2a2 TOTO LETTER BREATHY I;2IU;2BREATHY IU;2U;2E;2BREATHY E;2EO;2BREATHY EO;2O;2AE;2BREATHY AE",
  "1e2ad TOTO LETTER A;1SIGN RISING TONE",
  "1e2c0 WANCHO LETTER AA;2A;2BA;2CA;2DA;2GA;2YA;2PHA;2LA;2NA;2PA;2TA;2THA;2FA;2SA;2SHA;2JA;2ZA",
  "1e2d2 WANCHO LETTER WA;2VA;2KA;2O;2AU;2RA;2MA;2KHA;2HA;2E;2I;2NGA;2U;2LLHA;2TSA;2TRA;2ONG;2AANG",
  "1e2e4 WANCHO LETTER ANG;2ING;2ON;2EN;2AAN;2NYA;2UEN;2YIH;1TONE TUP;2TUPNI;2KOI;2KOINI",
  "1e2f0 WANCHO DIGIT ZERO;2ONE;2TWO;2THREE;2FOUR;2FIVE;2SIX;2SEVEN;2EIGHT;2NINE",
  "1e2ff WANCHO NGUN SIGN",
  "1e7e0 ETHIOPIC SYLLABLE HHYA;2HHYU;2HHYI;2HHYAA;2HHYEE;2HHYE;2HHYO",
  "1e7e8 ETHIOPIC SYLLABLE GURAGE HHWA;2HHWI;2HHWEE;2HHWE",
  "1e7ed ETHIOPIC SYLLABLE GURAGE MWI;3MWEE",
  "1e7f0 ETHIOPIC SYLLABLE GURAGE QWI;3QWEE;3QWE;3BWI;3BWEE;3KWI;3KWEE;3KWE;3GWI;3GWEE;3GWE;3FWI",
  "1e7fc ETHIOPIC SYLLABLE GURAGE FWEE;3PWI;3PWEE",
  "1e800 MENDE KIKAKUI SYLLABLE M001 KI;3M002 KA;3M003 KU;3M065 KEE;3M095 KE;3M076 KOO;3M048 KO",
  "1e807 MENDE KIKAKUI SYLLABLE M179 KUA;3M004 WI;3M005 WA;3M006 WU;3M126 WEE;3M118 WE;3M114 WOO",
  "1e80e MENDE KIKAKUI SYLLABLE M045 WO;3M194 WUI;3M143 WEI;3M061 WVI;3M049 WVA;3M139 WVE",
  "1e814 MENDE KIKAKUI SYLLABLE M007 MIN;3M008 MAN;3M009 MUN;3M059 MEN;3M094 MON;3M154 MUAN",
  "1e81a MENDE KIKAKUI SYLLABLE M189 MUEN;3M010 BI;3M011 BA;3M012 BU;3M150 BEE;3M097 BE;3M103 BOO",
  "1e821 MENDE KIKAKUI SYLLABLE M138 BO;3M013 I;3M014 A;3M015 U;3M163 EE;3M100 E;3M165 OO;3M147 O",
  "1e829 MENDE KIKAKUI SYLLABLE M137 EI;3M131 IN;3M135 IN;3M195 AN;3M178 EN;3M019 SI;3M020 SA",
  "1e830 MENDE KIKAKUI SYLLABLE M021 SU;3M162 SEE;3M116 SE;3M136 SOO;3M079 SO;3M196 SIA;3M025 LI",
  "1e837 MENDE KIKAKUI SYLLABLE M026 LA;3M027 LU;3M084 LEE;3M073 LE;3M054 LOO;3M153 LO",
  "1e83d MENDE KIKAKUI SYLLABLE M110 LONG LE;3M016 DI;3M017 DA;3M018 DU;3M089 DEE;3M180 DOO",
  "1e843 MENDE KIKAKUI SYLLABLE M181 DO;3M022 TI;3M023 TA;3M024 TU;3M091 TEE;3M055 TE;3M104 TOO",
  "1e84a MENDE KIKAKUI SYLLABLE M069 TO;3M028 JI;3M029 JA;3M030 JU;3M157 JEE;3M113 JE;3M160 JOO",
  "1e851 MENDE KIKAKUI SYLLABLE M063 JO;3M175 LONG JO;3M031 YI;3M032 YA;3M033 YU;3M109 YEE",
  "1e857 MENDE KIKAKUI SYLLABLE M080 YE;3M141 YOO;3M121 YO;3M034 FI;3M035 FA;3M036 FU;3M078 FEE",
  "1e85e MENDE KIKAKUI SYLLABLE M075 FE;3M133 FOO;3M088 FO;3M197 FUA;3M101 FAN;3M037 NIN;3M038 NAN",
  "1e865 MENDE KIKAKUI SYLLABLE M039 NUN;3M117 NEN;3M169 NON;3M176 HI;3M041 HA;3M186 HU;3M040 HEE",
  "1e86c MENDE KIKAKUI SYLLABLE M096 HE;3M042 HOO;3M140 HO;3M083 HEEI;3M128 HOOU;3M053 HIN",
  "1e872 MENDE KIKAKUI SYLLABLE M130 HAN;3M087 HUN;3M052 HEN;3M193 HON;3M046 HUAN;3M090 NGGI",
  "1e878 MENDE KIKAKUI SYLLABLE M043 NGGA;3M082 NGGU;3M115 NGGEE;3M146 NGGE;3M156 NGGOO;3M120 NGGO",
  "1e87e MENDE KIKAKUI SYLLABLE M159 NGGAA;3M127 NGGUA;3M086 LONG NGGE;3M106 LONG NGGOO",
  "1e882 MENDE KIKAKUI SYLLABLE M183 LONG NGGO;3M155 GI;3M111 GA;3M168 GU;3M190 GEE;3M166 GUEI",
  "1e888 MENDE KIKAKUI SYLLABLE M167 GUAN;3M184 NGEN;3M057 NGON;3M177 NGUAN;3M068 PI;3M099 PA",
  "1e88e MENDE KIKAKUI SYLLABLE M050 PU;3M081 PEE;3M051 PE;3M102 POO;3M066 PO;3M145 MBI;3M062 MBA",
  "1e895 MENDE KIKAKUI SYLLABLE M122 MBU;3M047 MBEE;3M188 MBEE;3M072 MBE;3M172 MBOO;3M174 MBO",
  "1e89b MENDE KIKAKUI SYLLABLE M187 MBUU;3M161 LONG MBE;3M105 LONG MBOO;3M142 LONG MBO;3M132 KPI",
  "1e8a0 MENDE KIKAKUI SYLLABLE M092 KPA;3M074 KPU;3M044 KPEE;3M108 KPE;3M112 KPOO;3M158 KPO",
  "1e8a6 MENDE KIKAKUI SYLLABLE M124 GBI;3M056 GBA;3M148 GBU;3M093 GBEE;3M107 GBE;3M071 GBOO",
  "1e8ac MENDE KIKAKUI SYLLABLE M070 GBO;3M171 RA;3M123 NDI;3M129 NDA;3M125 NDU;3M191 NDEE",
  "1e8b2 MENDE KIKAKUI SYLLABLE M119 NDE;3M067 NDOO;3M064 NDO;3M152 NJA;3M192 NJU;3M149 NJEE",
  "1e8b8 MENDE KIKAKUI SYLLABLE M134 NJOO;3M182 VI;3M185 VA;3M151 VU;3M173 VEE;3M085 VE;3M144 VOO",
  "1e8bf MENDE KIKAKUI SYLLABLE M077 VO;3M164 NYIN;3M058 NYAN;3M170 NYUN;3M098 NYEN;3M060 NYON",
  "1e8c7 MENDE KIKAKUI DIGIT ONE;3TWO;3THREE;3FOUR;3FIVE;3SIX;3SEVEN;3EIGHT;3NINE",
  "1e8d0 MENDE KIKAKUI COMBINING NUMBER TEENS;4TENS;4HUNDREDS;4THOUSANDS;4TEN THOUSANDS",
  "1e8d5 MENDE KIKAKUI COMBINING NUMBER HUNDRED THOUSANDS;4MILLIONS",
  "1e900 ADLAM CAPITAL LETTER ALIF;3DAALI;3LAAM;3MIIM;3BA;3SINNYIIYHE;3PE;3BHE;3RA;3E;3FA;3I;3O",
  "1e90d ADLAM CAPITAL LETTER DHA;3YHE;3WAW;3NUN;3KAF;3YA;3U;3JIIM;3CHI;3HA;3QAAF;3GA;3NYA;3TU",
  "1e91b ADLAM CAPITAL LETTER NHA;3VA;3KHA;3GBE;3ZAL;3KPO;3SHA;1SMALL LETTER ALIF;3DAALI;3LAAM",
  "1e925 ADLAM SMALL LETTER MIIM;3BA;3SINNYIIYHE;3PE;3BHE;3RA;3E;3FA;3I;3O;3DHA;3YHE;3WAW;3NUN",
  "1e933 ADLAM SMALL LETTER KAF;3YA;3U;3JIIM;3CHI;3HA;3QAAF;3GA;3NYA;3TU;3NHA;3VA;3KHA;3GBE;3ZAL",
  "1e942 ADLAM SMALL LETTER KPO;3SHA;1ALIF LENGTHENER;1VOWEL LENGTHENER;1GEMINATION MARK;1HAMZA",
  "1e948 ADLAM CONSONANT MODIFIER;1GEMINATE CONSONANT MODIFIER;1NUKTA;1NASALIZATION MARK",
  "1e950 ADLAM DIGIT ZERO;2ONE;2TWO;2THREE;2FOUR;2FIVE;2SIX;2SEVEN;2EIGHT;2NINE",
  "1e95e ADLAM INITIAL EXCLAMATION MARK;2QUESTION MARK",
  "1ec71 INDIC SIYAQ NUMBER ONE;3TWO;3THREE;3FOUR;3FIVE;3SIX;3SEVEN;3EIGHT;3NINE;3TEN;3TWENTY",
  "1ec7c INDIC SIYAQ NUMBER THIRTY;3FORTY;3FIFTY;3SIXTY;3SEVENTY;3EIGHTY;3NINETY;3ONE HUNDRED",
  "1ec84 INDIC SIYAQ NUMBER TWO HUNDRED;3THREE HUNDRED;3FOUR HUNDRED;3FIVE HUNDRED;3SIX HUNDRED",
  "1ec89 INDIC SIYAQ NUMBER SEVEN HUNDRED;3EIGHT HUNDRED;3NINE HUNDRED;3ONE THOUSAND;3TWO THOUSAND",
  "1ec8e INDIC SIYAQ NUMBER THREE THOUSAND;3FOUR THOUSAND;3FIVE THOUSAND;3SIX THOUSAND",
  "1ec92 INDIC SIYAQ NUMBER SEVEN THOUSAND;3EIGHT THOUSAND;3NINE THOUSAND;3TEN THOUSAND",
  "1ec96 INDIC SIYAQ NUMBER TWENTY THOUSAND;3THIRTY THOUSAND;3FORTY THOUSAND;3FIFTY THOUSAND",
  "1ec9a INDIC SIYAQ NUMBER SIXTY THOUSAND;3SEVENTY THOUSAND;3EIGHTY THOUSAND;3NINETY THOUSAND",
  "1ec9e INDIC SIYAQ NUMBER LAKH;3LAKHAN;2LAKH MARK;2NUMBER KAROR;3KARORAN;3PREFIXED ONE;4TWO",
  "1eca5 INDIC SIYAQ NUMBER PREFIXED THREE;4FOUR;4FIVE;4SIX;4SEVEN;4EIGHT;4NINE;2PLACEHOLDER",
  "1ecad INDIC SIYAQ FRACTION ONE QUARTER;4HALF;3THREE QUARTERS;2RUPEE MARK;2NUMBER ALTERNATE ONE",
  "1ecb2 INDIC SIYAQ NUMBER ALTERNATE TWO;4TEN THOUSAND;2ALTERNATE LAKH MARK",
  "1ed01 OTTOMAN SIYAQ NUMBER ONE;3TWO;3THREE;3FOUR;3FIVE;3SIX;3SEVEN;3EIGHT;3NINE;3TEN;3TWENTY",
  "1ed0c OTTOMAN SIYAQ NUMBER THIRTY;3FORTY;3FIFTY;3SIXTY;3SEVENTY;3EIGHTY;3NINETY;3ONE HUNDRED",
  "1ed14 OTTOMAN SIYAQ NUMBER TWO HUNDRED;3THREE HUNDRED;3FOUR HUNDRED;3FIVE HUNDRED;3SIX HUNDRED",
  "1ed19 OTTOMAN SIYAQ NUMBER SEVEN HUNDRED;3EIGHT HUNDRED;3NINE HUNDRED;3ONE THOUSAND",
  "1ed1d OTTOMAN SIYAQ NUMBER TWO THOUSAND;3THREE THOUSAND;3FOUR THOUSAND;3FIVE THOUSAND",
  "1ed21 OTTOMAN SIYAQ NUMBER SIX THOUSAND;3SEVEN THOUSAND;3EIGHT THOUSAND;3NINE THOUSAND",
  "1ed25 OTTOMAN SIYAQ NUMBER TEN THOUSAND;3TWENTY THOUSAND;3THIRTY THOUSAND;3FORTY THOUSAND",
  "1ed29 OTTOMAN SIYAQ NUMBER FIFTY THOUSAND;3SIXTY THOUSAND;3SEVENTY THOUSAND;3EIGHTY THOUSAND",
  "1ed2d OTTOMAN SIYAQ NUMBER NINETY THOUSAND;2MARRATAN;2ALTERNATE NUMBER TWO;4THREE;4FOUR;4FIVE",
  "1ed33 OTTOMAN SIYAQ ALTERNATE NUMBER SIX;4SEVEN;4EIGHT;4NINE;4TEN;4FOUR HUNDRED;4SIX HUNDRED",
  "1ed3a OTTOMAN SIYAQ ALTERNATE NUMBER TWO THOUSAND;4TEN THOUSAND;2FRACTION ONE HALF;4SIXTH",
  "1ee00 ARABIC MATHEMATICAL ALEF;2BEH;2JEEM;2DAL",
  "1ee05 ARABIC MATHEMATICAL WAW;2ZAIN;2HAH;2TAH;2YEH;2KAF;2LAM;2MEEM;2NOON;2SEEN;2AIN;2FEH;2SAD",
  "1ee12 ARABIC MATHEMATICAL QAF;2REH;2SHEEN;2TEH;2THEH;2KHAH;2THAL;2DAD;2ZAH;2GHAIN;2DOTLESS BEH",
  "1ee1d ARABIC MATHEMATICAL DOTLESS NOON;3FEH;3QAF",
  "1ee21 ARABIC MATHEMATICAL INITIAL BEH;3JEEM",
  "1ee24 ARABIC MATHEMATICAL INITIAL HEH",
  "1ee27 ARABIC MATHEMATICAL INITIAL HAH",
  "1ee29 ARABIC MATHEMATICAL INITIAL YEH;3KAF;3LAM;3MEEM;3NOON;3SEEN;3AIN;3FEH;3SAD;3QAF",
  "1ee34 ARABIC MATHEMATICAL INITIAL SHEEN;3TEH;3THEH;3KHAH",
  "1ee39 ARABIC MATHEMATICAL INITIAL DAD",
  "1ee3b ARABIC MATHEMATICAL INITIAL GHAIN",
  "1ee42 ARABIC MATHEMATICAL TAILED JEEM",
  "1ee47 ARABIC MATHEMATICAL TAILED HAH",
  "1ee49 ARABIC MATHEMATICAL TAILED YEH",
  "1ee4b ARABIC MATHEMATICAL TAILED LAM",
  "1ee4d ARABIC MATHEMATICAL TAILED NOON;3SEEN;3AIN",
  "1ee51 ARABIC MATHEMATICAL TAILED SAD;3QAF",
  "1ee54 ARABIC MATHEMATICAL TAILED SHEEN",
  "1ee57 ARABIC MATHEMATICAL TAILED KHAH",
  "1ee59 ARABIC MATHEMATICAL TAILED DAD",
  "1ee5b ARABIC MATHEMATICAL TAILED GHAIN",
  "1ee5d ARABIC MATHEMATICAL TAILED DOTLESS NOON",
  "1ee5f ARABIC MATHEMATICAL TAILED DOTLESS QAF",
  "1ee61 ARABIC MATHEMATICAL STRETCHED BEH;3JEEM",
  "1ee64 ARABIC MATHEMATICAL STRETCHED HEH",
  "1ee67 ARABIC MATHEMATICAL STRETCHED HAH;3TAH;3YEH;3KAF",
  "1ee6c ARABIC MATHEMATICAL STRETCHED MEEM;3NOON;3SEEN;3AIN;3FEH;3SAD;3QAF",
  "1ee74 ARABIC MATHEMATICAL STRETCHED SHEEN;3TEH;3THEH;3KHAH",
  "1ee79 ARABIC MATHEMATICAL STRETCHED DAD;3ZAH;3GHAIN;3DOTLESS BEH",
  "1ee7e ARABIC MATHEMATICAL STRETCHED DOTLESS FEH",
  "1ee80 ARABIC MATHEMATICAL LOOPED ALEF;3BEH;3JEEM;3DAL;3HEH;3WAW;3ZAIN;3HAH;3TAH;3YEH",
  "1ee8b ARABIC MATHEMATICAL LOOPED LAM;3MEEM;3NOON;3SEEN;3AIN;3FEH;3SAD;3QAF;3REH;3SHEEN;3TEH",
  "1ee96 ARABIC MATHEMATICAL LOOPED THEH;3KHAH;3THAL;3DAD;3ZAH;3GHAIN",
  "1eea1 ARABIC MATHEMATICAL DOUBLE-STRUCK BEH;3JEEM;3DAL",
  "1eea5 ARABIC MATHEMATICAL DOUBLE-STRUCK WAW;3ZAIN;3HAH;3TAH;3YEH",
  "1eeab ARABIC MATHEMATICAL DOUBLE-STRUCK LAM;3MEEM;3NOON;3SEEN;3AIN;3FEH;3SAD;3QAF;3REH;3SHEEN",
  "1eeb5 ARABIC MATHEMATICAL DOUBLE-STRUCK TEH;3THEH;3KHAH;3THAL;3DAD;3ZAH;3GHAIN",
  "1eef0 ARABIC MATHEMATICAL OPERATOR MEEM WITH HAH WITH TATWEEL;3HAH WITH DAL",
  "1f000 MAHJONG TILE EAST WIND;2SOUTH WIND;2WEST WIND;2NORTH WIND;2RED DRAGON;2GREEN DRAGON",
  "1f006 MAHJONG TILE WHITE DRAGON;2ONE OF CHARACTERS;2TWO OF CHARACTERS;2THREE OF CHARACTERS",
  "1f00a MAHJONG TILE FOUR OF CHARACTERS;2FIVE OF CHARACTERS;2SIX OF CHARACTERS",
  "1f00d MAHJONG TILE SEVEN OF CHARACTERS;2EIGHT OF CHARACTERS;2NINE OF CHARACTERS;2ONE OF BAMBOOS",
  "1f011 MAHJONG TILE TWO OF BAMBOOS;2THREE OF BAMBOOS;2FOUR OF BAMBOOS;2FIVE OF BAMBOOS",
  "1f015 MAHJONG TILE SIX OF BAMBOOS;2SEVEN OF BAMBOOS;2EIGHT OF BAMBOOS;2NINE OF BAMBOOS",
  "1f019 MAHJONG TILE ONE OF CIRCLES;2TWO OF CIRCLES;2THREE OF CIRCLES;2FOUR OF CIRCLES",
  "1f01d MAHJONG TILE FIVE OF CIRCLES;2SIX OF CIRCLES;2SEVEN OF CIRCLES;2EIGHT OF CIRCLES",
  "1f021 MAHJONG TILE NINE OF CIRCLES;2PLUM;2ORCHID;2BAMBOO;2CHRYSANTHEMUM;2SPRING;2SUMMER;2AUTUMN",
  "1f029 MAHJONG TILE WINTER;2JOKER;2BACK",
  "1f030 DOMINO TILE HORIZONTAL BACK;2HORIZONTAL-00-00;2HORIZONTAL-00-01;2HORIZONTAL-00-02",
  "1f034 DOMINO TILE HORIZONTAL-00-03;2HORIZONTAL-00-04;2HORIZONTAL-00-05;2HORIZONTAL-00-06",
  "1f038 DOMINO TILE HORIZONTAL-01-00;2HORIZONTAL-01-01;2HORIZONTAL-01-02;2HORIZONTAL-01-03",
  "1f03c DOMINO TILE HORIZONTAL-01-04;2HORIZONTAL-01-05;2HORIZONTAL-01-06;2HORIZONTAL-02-00",
  "1f040 DOMINO TILE HORIZONTAL-02-01;2HORIZONTAL-02-02;2HORIZONTAL-02-03;2HORIZONTAL-02-04",
  "1f044 DOMINO TILE HORIZONTAL-02-05;2HORIZONTAL-02-06;2HORIZONTAL-03-00;2HORIZONTAL-03-01",
  "1f048 DOMINO TILE HORIZONTAL-03-02;2HORIZONTAL-03-03;2HORIZONTAL-03-04;2HORIZONTAL-03-05",
  "1f04c DOMINO TILE HORIZONTAL-03-06;2HORIZONTAL-04-00;2HORIZONTAL-04-01;2HORIZONTAL-04-02",
  "1f050 DOMINO TILE HORIZONTAL-04-03;2HORIZONTAL-04-04;2HORIZONTAL-04-05;2HORIZONTAL-04-06",
  "1f054 DOMINO TILE HORIZONTAL-05-00;2HORIZONTAL-05-01;2HORIZONTAL-05-02;2HORIZONTAL-05-03",
  "1f058 DOMINO TILE HORIZONTAL-05-04;2HORIZONTAL-05-05;2HORIZONTAL-05-06;2HORIZONTAL-06-00",
  "1f05c DOMINO TILE HORIZONTAL-06-01;2HORIZONTAL-06-02;2HORIZONTAL-06-03;2HORIZONTAL-06-04",
  "1f060 DOMINO TILE HORIZONTAL-06-05;2HORIZONTAL-06-06;2VERTICAL BACK;2VERTICAL-00-00",
  "1f064 DOMINO TILE VERTICAL-00-01;2VERTICAL-00-02;2VERTICAL-00-03;2VERTICAL-00-04",
  "1f068 DOMINO TILE VERTICAL-00-05;2VERTICAL-00-06;2VERTICAL-01-00;2VERTICAL-01-01",
  "1f06c DOMINO TILE VERTICAL-01-02;2VERTICAL-01-03;2VERTICAL-01-04;2VERTICAL-01-05",
  "1f070 DOMINO TILE VERTICAL-01-06;2VERTICAL-02-00;2VERTICAL-02-01;2VERTICAL-02-02",
  "1f074 DOMINO TILE VERTICAL-02-03;2VERTICAL-02-04;2VERTICAL-02-05;2VERTICAL-02-06",
  "1f078 DOMINO TILE VERTICAL-03-00;2VERTICAL-03-01;2VERTICAL-03-02;2VERTICAL-03-03",
  "1f07c DOMINO TILE VERTICAL-03-04;2VERTICAL-03-05;2VERTICAL-03-06;2VERTICAL-04-00",
  "1f080 DOMINO TILE VERTICAL-04-01;2VERTICAL-04-02;2VERTICAL-04-03;2VERTICAL-04-04",
  "1f084 DOMINO TILE VERTICAL-04-05;2VERTICAL-04-06;2VERTICAL-05-00;2VERTICAL-05-01",
  "1f088 DOMINO TILE VERTICAL-05-02;2VERTICAL-05-03;2VERTICAL-05-04;2VERTICAL-05-05",
  "1f08c DOMINO TILE VERTICAL-05-06;2VERTICAL-06-00;2VERTICAL-06-01;2VERTICAL-06-02",
  "1f090 DOMINO TILE VERTICAL-06-03;2VERTICAL-06-04;2VERTICAL-06-05;2VERTICAL-06-06",
  "1f0a0 PLAYING CARD BACK;2ACE OF SPADES;2TWO OF SPADES;2THREE OF SPADES;2FOUR OF SPADES",
  "1f0a5 PLAYING CARD FIVE OF SPADES;2SIX OF SPADES;2SEVEN OF SPADES;2EIGHT OF SPADES",
  "1f0a9 PLAYING CARD NINE OF SPADES;2TEN OF SPADES;2JACK OF SPADES;2KNIGHT OF SPADES",
  "1f0ad PLAYING CARD QUEEN OF SPADES;2KING OF SPADES",
  "1f0b1 PLAYING CARD ACE OF HEARTS;2TWO OF HEARTS;2THREE OF HEARTS;2FOUR OF HEARTS",
  "1f0b5 PLAYING CARD FIVE OF HEARTS;2SIX OF HEARTS;2SEVEN OF HEARTS;2EIGHT OF HEARTS",
  "1f0b9 PLAYING CARD NINE OF HEARTS;2TEN OF HEARTS;2JACK OF HEARTS;2KNIGHT OF HEARTS",
  "1f0bd PLAYING CARD QUEEN OF HEARTS;2KING OF HEARTS;2RED JOKER",
  "1f0c1 PLAYING CARD ACE OF DIAMONDS;2TWO OF DIAMONDS;2THREE OF DIAMONDS;2FOUR OF DIAMONDS",
  "1f0c5 PLAYING CARD FIVE OF DIAMONDS;2SIX OF DIAMONDS;2SEVEN OF DIAMONDS;2EIGHT OF DIAMONDS",
  "1f0c9 PLAYING CARD NINE OF DIAMONDS;2TEN OF DIAMONDS;2JACK OF DIAMONDS;2KNIGHT OF DIAMONDS",
  "1f0cd PLAYING CARD QUEEN OF DIAMONDS;2KING OF DIAMONDS;2BLACK JOKER",
  "1f0d1 PLAYING CARD ACE OF CLUBS;2TWO OF CLUBS;2THREE OF CLUBS;2FOUR OF CLUBS;2FIVE OF CLUBS",
  "1f0d6 PLAYING CARD SIX OF CLUBS;2SEVEN OF CLUBS;2EIGHT OF CLUBS;2NINE OF CLUBS;2TEN OF CLUBS",
  "1f0db PLAYING CARD JACK OF CLUBS;2KNIGHT OF CLUBS;2QUEEN OF CLUBS;2KING OF CLUBS;2WHITE JOKER",
  "1f0e0 PLAYING CARD FOOL;2TRUMP-1;2TRUMP-2;2TRUMP-3;2TRUMP-4;2TRUMP-5;2TRUMP-6;2TRUMP-7;2TRUMP-8",
  "1f0e9 PLAYING CARD TRUMP-9;2TRUMP-10;2TRUMP-11;2TRUMP-12;2TRUMP-13;2TRUMP-14;2TRUMP-15",
  "1f0f0 PLAYING CARD TRUMP-16;2TRUMP-17;2TRUMP-18;2TRUMP-19;2TRUMP-20;2TRUMP-21",
  "1f100 DIGIT ZERO FULL STOP;2COMMA;1ONE COMMA;1TWO COMMA;1THREE COMMA;1FOUR COMMA;1FIVE COMMA",
  "1f107 DIGIT SIX COMMA;1SEVEN COMMA;1EIGHT COMMA;1NINE COMMA",
  "1f10b DINGBAT CIRCLED SANS-SERIF DIGIT ZERO;1NEGATIVE CIRCLED SANS-SERIF DIGIT ZERO",
  "1f10d CIRCLED ZERO WITH SLASH;1ANTICLOCKWISE ARROW;1DOLLAR SIGN WITH OVERLAID BACKSLASH",
  "1f110 PARENTHESIZED LATIN CAPITAL LETTER A;4B;4C;4D;4E;4F;4G;4H;4I;4J;4K;4L;4M;4N;4O;4P;4Q;4R",
  "1f122 PARENTHESIZED LATIN CAPITAL LETTER S;4T;4U;4V;4W;4X;4Y;4Z",
  "1f12a TORTOISE SHELL BRACKETED LATIN CAPITAL LETTER S;0CIRCLED ITALIC LATIN CAPITAL LETTER C;5R",
  "1f12d CIRCLED CD;1WZ;0COPYLEFT SYMBOL;0SQUARED LATIN CAPITAL LETTER A;4B;4C;4D;4E;4F;4G;4H;4I",
  "1f139 SQUARED LATIN CAPITAL LETTER J;4K;4L;4M;4N;4O;4P;4Q;4R;4S;4T;4U;4V;4W;4X;4Y;4Z;1HV;1MV",
  "1f14c SQUARED SD;1SS;1PPV;1WC;0NEGATIVE CIRCLED LATIN CAPITAL LETTER A;5B;5C;5D;5E;5F;5G;5H;5I",
  "1f159 NEGATIVE CIRCLED LATIN CAPITAL LETTER J;5K;5L;5M;5N;5O;5P;5Q;5R;5S;5T;5U;5V;5W;5X;5Y;5Z",
  "1f16a RAISED MC SIGN;1MD SIGN;1MR SIGN;0CIRCLED CC;1C WITH OVERLAID BACKSLASH;1HUMAN FIGURE",
  "1f170 NEGATIVE SQUARED LATIN CAPITAL LETTER A;5B;5C;5D;5E;5F;5G;5H;5I;5J;5K;5L;5M;5N;5O;5P;5Q",
  "1f181 NEGATIVE SQUARED LATIN CAPITAL LETTER R;5S;5T;5U;5V;5W;5X;5Y;5Z",
  "1f18a CROSSED NEGATIVE SQUARED LATIN CAPITAL LETTER P;0NEGATIVE SQUARED IC;2PA;2SA;2AB;2WC",
  "1f190 SQUARE DJ;0SQUARED CL;1COOL;1FREE;1ID;1NEW;1NG;1OK;1SOS;1UP WITH EXCLAMATION MARK;1VS",
  "1f19b SQUARED THREE D;1SECOND SCREEN;1TWO K;1FOUR K;1EIGHT K;1FIVE POINT ONE;1SEVEN POINT ONE",
  "1f1a2 SQUARED TWENTY-TWO POINT TWO;1SIXTY P;1ONE HUNDRED TWENTY P;1LATIN SMALL LETTER D;1HC",
  "1f1a7 SQUARED HDR;1HI-RES;1LOSSLESS;1SHV;1UHD;1VOD;0MASK WORK SYMBOL",
  "1f1e6 REGIONAL INDICATOR SYMBOL LETTER A;4B;4C;4D;4E;4F;4G;4H;4I;4J;4K;4L;4M;4N;4O;4P;4Q;4R;4S",
  "1f1f9 REGIONAL INDICATOR SYMBOL LETTER T;4U;4V;4W;4X;4Y;4Z;0SQUARE HIRAGANA HOKA",
  "1f201 SQUARED KATAKANA KOKO;2SA",
  "1f210 SQUARED CJK UNIFIED IDEOGRAPH-624B;3IDEOGRAPH-5B57;3IDEOGRAPH-53CC;1KATAKANA DE",
  "1f214 SQUARED CJK UNIFIED IDEOGRAPH-4E8C;3IDEOGRAPH-591A;3IDEOGRAPH-89E3;3IDEOGRAPH-5929",
  "1f218 SQUARED CJK UNIFIED IDEOGRAPH-4EA4;3IDEOGRAPH-6620;3IDEOGRAPH-7121;3IDEOGRAPH-6599",
  "1f21c SQUARED CJK UNIFIED IDEOGRAPH-524D;3IDEOGRAPH-5F8C;3IDEOGRAPH-518D;3IDEOGRAPH-65B0",
  "1f220 SQUARED CJK UNIFIED IDEOGRAPH-521D;3IDEOGRAPH-7D42;3IDEOGRAPH-751F;3IDEOGRAPH-8CA9",
  "1f224 SQUARED CJK UNIFIED IDEOGRAPH-58F0;3IDEOGRAPH-5439;3IDEOGRAPH-6F14;3IDEOGRAPH-6295",
  "1f228 SQUARED CJK UNIFIED IDEOGRAPH-6355;3IDEOGRAPH-4E00;3IDEOGRAPH-4E09;3IDEOGRAPH-904A",
  "1f22c SQUARED CJK UNIFIED IDEOGRAPH-5DE6;3IDEOGRAPH-4E2D;3IDEOGRAPH-53F3;3IDEOGRAPH-6307",
  "1f230 SQUARED CJK UNIFIED IDEOGRAPH-8D70;3IDEOGRAPH-6253;3IDEOGRAPH-7981;3IDEOGRAPH-7A7A",
  "1f234 SQUARED CJK UNIFIED IDEOGRAPH-5408;3IDEOGRAPH-6E80;3IDEOGRAPH-6709;3IDEOGRAPH-6708",
  "1f238 SQUARED CJK UNIFIED IDEOGRAPH-7533;3IDEOGRAPH-5272;3IDEOGRAPH-55B6;3IDEOGRAPH-914D",
  "1f240 TORTOISE SHELL BRACKETED CJK UNIFIED IDEOGRAPH-672C;5IDEOGRAPH-4E09;5IDEOGRAPH-4E8C",
  "1f243 TORTOISE SHELL BRACKETED CJK UNIFIED IDEOGRAPH-5B89;5IDEOGRAPH-70B9;5IDEOGRAPH-6253",
  "1f246 TORTOISE SHELL BRACKETED CJK UNIFIED IDEOGRAPH-76D7;5IDEOGRAPH-52DD;5IDEOGRAPH-6557",
  "1f250 CIRCLED IDEOGRAPH ADVANTAGE;2ACCEPT",
  "1f260 ROUNDED SYMBOL FOR FU;3LU;3SHOU;3XI;3SHUANGXI;3CAI",
  "1f300 CYCLONE;0FOGGY;0CLOSED UMBRELLA;0NIGHT WITH STARS;0SUNRISE OVER MOUNTAINS;0SUNRISE",
  "1f306 CITYSCAPE AT DUSK;0SUNSET OVER BUILDINGS;0RAINBOW;0BRIDGE AT NIGHT;0WATER WAVE;0VOLCANO",
  "1f30c MILKY WAY;0EARTH GLOBE EUROPE-AFRICA;2AMERICAS;2ASIA-AUSTRALIA;0GLOBE WITH MERIDIANS",
  "1f311 NEW MOON SYMBOL;0WAXING CRESCENT MOON SYMBOL;0FIRST QUARTER MOON SYMBOL",
  "1f314 WAXING GIBBOUS MOON SYMBOL;0FULL MOON SYMBOL;0WANING GIBBOUS MOON SYMBOL",
  "1f317 LAST QUARTER MOON SYMBOL;0WANING CRESCENT MOON SYMBOL;0CRESCENT MOON;0NEW MOON WITH FACE",
  "1f31b FIRST QUARTER MOON WITH FACE;0LAST QUARTER MOON WITH FACE;0FULL MOON WITH FACE",
  "1f31e SUN WITH FACE;0GLOWING STAR;0SHOOTING STAR;0THERMOMETER;0BLACK DROPLET;0WHITE SUN",
  "1f324 WHITE SUN WITH SMALL CLOUD;2BEHIND CLOUD;4WITH RAIN;0CLOUD WITH RAIN;2SNOW;2LIGHTNING",
  "1f32a CLOUD WITH TORNADO;0FOG;0WIND BLOWING FACE;0HOT DOG;0TACO;0BURRITO;0CHESTNUT;0SEEDLING",
  "1f332 EVERGREEN TREE;0DECIDUOUS TREE;0PALM TREE;0CACTUS;0HOT PEPPER;0TULIP;0CHERRY BLOSSOM",
  "1f339 ROSE;0HIBISCUS;0SUNFLOWER;0BLOSSOM;0EAR OF MAIZE;2RICE;0HERB;0FOUR LEAF CLOVER",
  "1f341 MAPLE LEAF;0FALLEN LEAF;0LEAF FLUTTERING IN WIND;0MUSHROOM;0TOMATO;0AUBERGINE;0GRAPES",
  "1f348 MELON;0WATERMELON;0TANGERINE;0LEMON;0BANANA;0PINEAPPLE;0RED APPLE;0GREEN APPLE;0PEAR",
  "1f351 PEACH;0CHERRIES;0STRAWBERRY;0HAMBURGER;0SLICE OF PIZZA;0MEAT ON BONE;0POULTRY LEG",
  "1f358 RICE CRACKER;1BALL;0COOKED RICE;0CURRY AND RICE;0STEAMING BOWL;0SPAGHETTI;0BREAD",
  "1f35f FRENCH FRIES;0ROASTED SWEET POTATO;0DANGO;0ODEN;0SUSHI;0FRIED SHRIMP",
  "1f365 FISH CAKE WITH SWIRL DESIGN;0SOFT ICE CREAM;0SHAVED ICE;0ICE CREAM;0DOUGHNUT;0COOKIE",
  "1f36b CHOCOLATE BAR;0CANDY;0LOLLIPOP;0CUSTARD;0HONEY POT;0SHORTCAKE;0BENTO BOX;0POT OF FOOD",
  "1f373 COOKING;0FORK AND KNIFE;0TEACUP WITHOUT HANDLE;0SAKE BOTTLE AND CUP;0WINE GLASS",
  "1f378 COCKTAIL GLASS;0TROPICAL DRINK;0BEER MUG;0CLINKING BEER MUGS;0BABY BOTTLE",
  "1f37d FORK AND KNIFE WITH PLATE;0BOTTLE WITH POPPING CORK;0POPCORN;0RIBBON;0WRAPPED PRESENT",
  "1f382 BIRTHDAY CAKE;0JACK-O-LANTERN;0CHRISTMAS TREE;0FATHER CHRISTMAS;0FIREWORKS",
  "1f387 FIREWORK SPARKLER;0BALLOON;0PARTY POPPER;0CONFETTI BALL;0TANABATA TREE;0CROSSED FLAGS",
  "1f38d PINE DECORATION;0JAPANESE DOLLS;0CARP STREAMER;0WIND CHIME;0MOON VIEWING CEREMONY",
  "1f392 SCHOOL SATCHEL;0GRADUATION CAP;0HEART WITH TIP ON THE LEFT;0BOUQUET OF FLOWERS",
  "1f396 MILITARY MEDAL;0REMINDER RIBBON;0MUSICAL KEYBOARD WITH JACKS;0STUDIO MICROPHONE",
  "1f39a LEVEL SLIDER;0CONTROL KNOBS;0BEAMED ASCENDING MUSICAL NOTES;1DESCENDING MUSICAL NOTES",
  "1f39e FILM FRAMES;0ADMISSION TICKETS;0CAROUSEL HORSE;0FERRIS WHEEL;0ROLLER COASTER",
  "1f3a3 FISHING POLE AND FISH;0MICROPHONE;0MOVIE CAMERA;0CINEMA;0HEADPHONE;0ARTIST PALETTE",
  "1f3a9 TOP HAT;0CIRCUS TENT;0TICKET;0CLAPPER BOARD;0PERFORMING ARTS;0VIDEO GAME;0DIRECT HIT",
  "1f3b0 SLOT MACHINE;0BILLIARDS;0GAME DIE;0BOWLING;0FLOWER PLAYING CARDS;0MUSICAL NOTE",
  "1f3b6 MULTIPLE MUSICAL NOTES;0SAXOPHONE;0GUITAR;0MUSICAL KEYBOARD;0TRUMPET;0VIOLIN",
  "1f3bc MUSICAL SCORE;0RUNNING SHIRT WITH SASH;0TENNIS RACQUET AND BALL;0SKI AND SKI BOOT",
  "1f3c0 BASKETBALL AND HOOP;0CHEQUERED FLAG;0SNOWBOARDER;0RUNNER;0SURFER;0SPORTS MEDAL;0TROPHY",
  "1f3c7 HORSE RACING;0AMERICAN FOOTBALL;0RUGBY FOOTBALL;0SWIMMER;0WEIGHT LIFTER;0GOLFER",
  "1f3cd RACING MOTORCYCLE;1CAR;0CRICKET BAT AND BALL;0VOLLEYBALL;0FIELD HOCKEY STICK AND BALL",
  "1f3d2 ICE HOCKEY STICK AND PUCK;0TABLE TENNIS PADDLE AND BALL;0SNOW CAPPED MOUNTAIN;0CAMPING",
  "1f3d6 BEACH WITH UMBRELLA;0BUILDING CONSTRUCTION;0HOUSE BUILDINGS;0CITYSCAPE",
  "1f3da DERELICT HOUSE BUILDING;0CLASSICAL BUILDING;0DESERT;1ISLAND;0NATIONAL PARK;0STADIUM",
  "1f3e0 HOUSE BUILDING;1WITH GARDEN;0OFFICE BUILDING;0JAPANESE POST OFFICE;0EUROPEAN POST OFFICE",
  "1f3e5 HOSPITAL;0BANK;0AUTOMATED TELLER MACHINE;0HOTEL;0LOVE HOTEL;0CONVENIENCE STORE;0SCHOOL",
  "1f3ec DEPARTMENT STORE;0FACTORY;0IZAKAYA LANTERN;0JAPANESE CASTLE;0EUROPEAN CASTLE",
  "1f3f1 WHITE PENNANT;0BLACK PENNANT;0WAVING WHITE FLAG;1BLACK FLAG;0ROSETTE;0BLACK ROSETTE",
  "1f3f7 LABEL;0BADMINTON RACQUET AND SHUTTLECOCK;0BOW AND ARROW;0AMPHORA",
  "1f3fb EMOJI MODIFIER FITZPATRICK TYPE-1-2;3TYPE-3;3TYPE-4;3TYPE-5;3TYPE-6;0RAT;0MOUSE;0OX",
  "1f403 WATER BUFFALO;0COW;0TIGER;0LEOPARD;0RABBIT;0CAT;0DRAGON;0CROCODILE;0WHALE;0SNAIL;0SNAKE",
  "1f40e HORSE;0RAM;0GOAT;0SHEEP;0MONKEY;0ROOSTER;0CHICKEN;0DOG;0PIG;0BOAR;0ELEPHANT;0OCTOPUS",
  "1f41a SPIRAL SHELL;0BUG;0ANT;0HONEYBEE;0LADY BEETLE;0FISH;0TROPICAL FISH;0BLOWFISH;0TURTLE",
  "1f423 HATCHING CHICK;0BABY CHICK;0FRONT-FACING BABY CHICK;0BIRD;0PENGUIN;0KOALA;0POODLE",
  "1f42a DROMEDARY CAMEL;0BACTRIAN CAMEL;0DOLPHIN;0MOUSE FACE;0COW FACE;0TIGER FACE;0RABBIT FACE",
  "1f431 CAT FACE;0DRAGON FACE;0SPOUTING WHALE;0HORSE FACE;0MONKEY FACE;0DOG FACE;0PIG FACE",
  "1f438 FROG FACE;0HAMSTER FACE;0WOLF FACE;0BEAR FACE;0PANDA FACE;0PIG NOSE;0PAW PRINTS;0CHIPMUNK",
  "1f440 EYES;0EYE;0EAR;0NOSE;0MOUTH;0TONGUE;0WHITE UP POINTING BACKHAND INDEX",
  "1f447 WHITE DOWN POINTING BACKHAND INDEX;1LEFT POINTING BACKHAND INDEX",
  "1f449 WHITE RIGHT POINTING BACKHAND INDEX;0FISTED HAND SIGN;0WAVING HAND SIGN;0OK HAND SIGN",
  "1f44d THUMBS UP SIGN;1DOWN SIGN;0CLAPPING HANDS SIGN;0OPEN HANDS SIGN;0CROWN;0WOMANS HAT",
  "1f453 EYEGLASSES;0NECKTIE;0T-SHIRT;0JEANS;0DRESS;0KIMONO;0BIKINI;0WOMANS CLOTHES;0PURSE",
  "1f45c HANDBAG;0POUCH;0MANS SHOE;0ATHLETIC SHOE;0HIGH-HEELED SHOE;0WOMANS SANDAL;1BOOTS",
  "1f463 FOOTPRINTS;0BUST IN SILHOUETTE;0BUSTS IN SILHOUETTE;0BOY;0GIRL;0MAN;0WOMAN;0FAMILY",
  "1f46b MAN AND WOMAN HOLDING HANDS;0TWO MEN HOLDING HANDS;1WOMEN HOLDING HANDS;0POLICE OFFICER",
  "1f46f WOMAN WITH BUNNY EARS;0BRIDE WITH VEIL;0PERSON WITH BLOND HAIR;0MAN WITH GUA PI MAO",
  "1f473 MAN WITH TURBAN;0OLDER MAN;1WOMAN;0BABY;0CONSTRUCTION WORKER;0PRINCESS;0JAPANESE OGRE",
  "1f47a JAPANESE GOBLIN;0GHOST;0BABY ANGEL;0EXTRATERRESTRIAL ALIEN;0ALIEN MONSTER;0IMP;0SKULL",
  "1f481 INFORMATION DESK PERSON;0GUARDSMAN;0DANCER;0LIPSTICK;0NAIL POLISH;0FACE MASSAGE;0HAIRCUT",
  "1f488 BARBER POLE;0SYRINGE;0PILL;0KISS MARK;0LOVE LETTER;0RING;0GEM STONE;0KISS;0BOUQUET",
  "1f491 COUPLE WITH HEART;0WEDDING;0BEATING HEART;0BROKEN HEART;0TWO HEARTS;0SPARKLING HEART",
  "1f497 GROWING HEART;0HEART WITH ARROW;0BLUE HEART;0GREEN HEART;0YELLOW HEART;0PURPLE HEART",
  "1f49d HEART WITH RIBBON;0REVOLVING HEARTS;0HEART DECORATION;0DIAMOND SHAPE WITH A DOT INSIDE",
  "1f4a1 ELECTRIC LIGHT BULB;0ANGER SYMBOL;0BOMB;0SLEEPING SYMBOL;0COLLISION SYMBOL",
  "1f4a6 SPLASHING SWEAT SYMBOL;0DROPLET;0DASH SYMBOL;0PILE OF POO;0FLEXED BICEPS;0DIZZY SYMBOL",
  "1f4ac SPEECH BALLOON;0THOUGHT BALLOON;0WHITE FLOWER;0HUNDRED POINTS SYMBOL;0MONEY BAG",
  "1f4b1 CURRENCY EXCHANGE;0HEAVY DOLLAR SIGN;0CREDIT CARD;0BANKNOTE WITH YEN SIGN;2DOLLAR SIGN",
  "1f4b6 BANKNOTE WITH EURO SIGN;2POUND SIGN;0MONEY WITH WINGS",
  "1f4b9 CHART WITH UPWARDS TREND AND YEN SIGN;0SEAT;0PERSONAL COMPUTER;0BRIEFCASE;0MINIDISC",
  "1f4be FLOPPY DISK;0OPTICAL DISC;0DVD;0FILE FOLDER;0OPEN FILE FOLDER;0PAGE WITH CURL;1FACING UP",
  "1f4c5 CALENDAR;0TEAR-OFF CALENDAR;0CARD INDEX;0CHART WITH UPWARDS TREND;2DOWNWARDS TREND",
  "1f4ca BAR CHART;0CLIPBOARD;0PUSHPIN;0ROUND PUSHPIN;0PAPERCLIP;0STRAIGHT RULER;0TRIANGULAR RULER",
  "1f4d1 BOOKMARK TABS;0LEDGER;0NOTEBOOK;1WITH DECORATIVE COVER;0CLOSED BOOK;0OPEN BOOK",
  "1f4d7 GREEN BOOK;0BLUE BOOK;0ORANGE BOOK;0BOOKS;0NAME BADGE;0SCROLL;0MEMO;0TELEPHONE RECEIVER",
  "1f4df PAGER;0FAX MACHINE;0SATELLITE ANTENNA;0PUBLIC ADDRESS LOUDSPEAKER;0CHEERING MEGAPHONE",
  "1f4e4 OUTBOX TRAY;0INBOX TRAY;0PACKAGE;0E-MAIL SYMBOL;0INCOMING ENVELOPE",
  "1f4e9 ENVELOPE WITH DOWNWARDS ARROW ABOVE;0CLOSED MAILBOX WITH LOWERED FLAG;3RAISED FLAG",
  "1f4ec OPEN MAILBOX WITH RAISED FLAG;3LOWERED FLAG;0POSTBOX;0POSTAL HORN;0NEWSPAPER",
  "1f4f1 MOBILE PHONE;2WITH RIGHTWARDS ARROW AT LEFT;0VIBRATION MODE;0MOBILE PHONE OFF",
  "1f4f5 NO MOBILE PHONES;0ANTENNA WITH BARS;0CAMERA;1WITH FLASH;0VIDEO CAMERA;0TELEVISION;0RADIO",
  "1f4fc VIDEOCASSETTE;0FILM PROJECTOR;0PORTABLE STEREO;0PRAYER BEADS;0TWISTED RIGHTWARDS ARROWS",
  "1f501 CLOCKWISE RIGHTWARDS AND LEFTWARDS OPEN CIRCLE ARROWS;7WITH CIRCLED ONE OVERLAY",
  "1f503 CLOCKWISE DOWNWARDS AND UPWARDS OPEN CIRCLE ARROWS",
  "1f504 ANTICLOCKWISE DOWNWARDS AND UPWARDS OPEN CIRCLE ARROWS;0LOW BRIGHTNESS SYMBOL",
  "1f506 HIGH BRIGHTNESS SYMBOL;0SPEAKER WITH CANCELLATION STROKE;0SPEAKER;1WITH ONE SOUND WAVE",
  "1f50a SPEAKER WITH THREE SOUND WAVES;0BATTERY;0ELECTRIC PLUG;0LEFT-POINTING MAGNIFYING GLASS",
  "1f50e RIGHT-POINTING MAGNIFYING GLASS;0LOCK WITH INK PEN;0CLOSED LOCK WITH KEY;0KEY;0LOCK",
  "1f513 OPEN LOCK;0BELL;1WITH CANCELLATION STROKE;0BOOKMARK;0LINK SYMBOL;0RADIO BUTTON",
  "1f519 BACK WITH LEFTWARDS ARROW ABOVE;0END WITH LEFTWARDS ARROW ABOVE",
  "1f51b ON WITH EXCLAMATION MARK WITH LEFT RIGHT ARROW ABOVE;0SOON WITH RIGHTWARDS ARROW ABOVE",
  "1f51d TOP WITH UPWARDS ARROW ABOVE;0NO ONE UNDER EIGHTEEN SYMBOL;0KEYCAP TEN",
  "1f520 INPUT SYMBOL FOR LATIN CAPITAL LETTERS;4SMALL LETTERS;3NUMBERS;3SYMBOLS;3LATIN LETTERS",
  "1f525 FIRE;0ELECTRIC TORCH;0WRENCH;0HAMMER;0NUT AND BOLT;0HOCHO;0PISTOL;0MICROSCOPE;0TELESCOPE",
  "1f52e CRYSTAL BALL;0SIX POINTED STAR WITH MIDDLE DOT;0JAPANESE SYMBOL FOR BEGINNER",
  "1f531 TRIDENT EMBLEM;0BLACK SQUARE BUTTON;0WHITE SQUARE BUTTON;0LARGE RED CIRCLE;1BLUE CIRCLE",
  "1f536 LARGE ORANGE DIAMOND;1BLUE DIAMOND;0SMALL ORANGE DIAMOND;1BLUE DIAMOND",
  "1f53a UP-POINTING RED TRIANGLE;0DOWN-POINTING RED TRIANGLE;0UP-POINTING SMALL RED TRIANGLE",
  "1f53d DOWN-POINTING SMALL RED TRIANGLE;0LOWER RIGHT SHADOWED WHITE CIRCLE",
  "1f53f UPPER RIGHT SHADOWED WHITE CIRCLE;0CIRCLED CROSS POMMEE",
  "1f541 CROSS POMMEE WITH HALF-CIRCLE BELOW;1POMMEE;0NOTCHED LEFT SEMICIRCLE WITH THREE DOTS",
  "1f544 NOTCHED RIGHT SEMICIRCLE WITH THREE DOTS;0SYMBOL FOR MARKS CHAPTER;0WHITE LATIN CROSS",
  "1f547 HEAVY LATIN CROSS;0CELTIC CROSS;0OM SYMBOL;0DOVE OF PEACE;0KAABA;0MOSQUE;0SYNAGOGUE",
  "1f54e MENORAH WITH NINE BRANCHES;0BOWL OF HYGIEIA;0CLOCK FACE ONE OCLOCK;2TWO OCLOCK",
  "1f552 CLOCK FACE THREE OCLOCK;2FOUR OCLOCK;2FIVE OCLOCK;2SIX OCLOCK;2SEVEN OCLOCK;2EIGHT OCLOCK",
  "1f558 CLOCK FACE NINE OCLOCK;2TEN OCLOCK;2ELEVEN OCLOCK;2TWELVE OCLOCK;2ONE-THIRTY;2TWO-THIRTY",
  "1f55e CLOCK FACE THREE-THIRTY;2FOUR-THIRTY;2FIVE-THIRTY;2SIX-THIRTY;2SEVEN-THIRTY;2EIGHT-THIRTY",
  "1f564 CLOCK FACE NINE-THIRTY;2TEN-THIRTY;2ELEVEN-THIRTY;2TWELVE-THIRTY;0RIGHT SPEAKER",
  "1f569 RIGHT SPEAKER WITH ONE SOUND WAVE;3THREE SOUND WAVES;0BULLHORN;1WITH SOUND WAVES",
  "1f56d RINGING BELL;0BOOK;0CANDLE;0MANTELPIECE CLOCK;0BLACK SKULL AND CROSSBONES;0NO PIRACY",
  "1f573 HOLE;0MAN IN BUSINESS SUIT LEVITATING;0SLEUTH OR SPY;0DARK SUNGLASSES;0SPIDER;1WEB",
  "1f579 JOYSTICK;0MAN DANCING;0LEFT HAND TELEPHONE RECEIVER;0TELEPHONE RECEIVER WITH PAGE",
  "1f57d RIGHT HAND TELEPHONE RECEIVER;0WHITE TOUCHTONE TELEPHONE;0BLACK TOUCHTONE TELEPHONE",
  "1f580 TELEPHONE ON TOP OF MODEM;0CLAMSHELL MOBILE PHONE;0BACK OF ENVELOPE;0STAMPED ENVELOPE",
  "1f584 ENVELOPE WITH LIGHTNING;0FLYING ENVELOPE;0PEN OVER STAMPED ENVELOPE;0LINKED PAPERCLIPS",
  "1f588 BLACK PUSHPIN;0LOWER LEFT PENCIL;2BALLPOINT PEN;2FOUNTAIN PEN;2PAINTBRUSH;2CRAYON",
  "1f58e LEFT WRITING HAND;0TURNED OK HAND SIGN;0RAISED HAND WITH FINGERS SPLAYED",
  "1f591 REVERSED RAISED HAND WITH FINGERS SPLAYED;1THUMBS UP SIGN;2DOWN SIGN;1VICTORY HAND",
  "1f595 REVERSED HAND WITH MIDDLE FINGER EXTENDED",
  "1f596 RAISED HAND WITH PART BETWEEN MIDDLE AND RING FINGERS",
  "1f597 WHITE DOWN POINTING LEFT HAND INDEX;0SIDEWAYS WHITE LEFT POINTING INDEX",
  "1f599 SIDEWAYS WHITE RIGHT POINTING INDEX;1BLACK LEFT POINTING INDEX;2RIGHT POINTING INDEX",
  "1f59c BLACK LEFT POINTING BACKHAND INDEX;1RIGHT POINTING BACKHAND INDEX",
  "1f59e SIDEWAYS WHITE UP POINTING INDEX;2DOWN POINTING INDEX;1BLACK UP POINTING INDEX",
  "1f5a1 SIDEWAYS BLACK DOWN POINTING INDEX;0BLACK UP POINTING BACKHAND INDEX",
  "1f5a3 BLACK DOWN POINTING BACKHAND INDEX;1HEART;0DESKTOP COMPUTER;0KEYBOARD AND MOUSE",
  "1f5a7 THREE NETWORKED COMPUTERS;0PRINTER;0POCKET CALCULATOR;0BLACK HARD SHELL FLOPPY DISK",
  "1f5ab WHITE HARD SHELL FLOPPY DISK;0SOFT SHELL FLOPPY DISK;0TAPE CARTRIDGE;0WIRED KEYBOARD",
  "1f5af ONE BUTTON MOUSE;0TWO BUTTON MOUSE;0THREE BUTTON MOUSE;0TRACKBALL;0OLD PERSONAL COMPUTER",
  "1f5b4 HARD DISK;0SCREEN;0PRINTER ICON;0FAX ICON;0OPTICAL DISC ICON;0DOCUMENT WITH TEXT",
  "1f5ba DOCUMENT WITH TEXT AND PICTURE;2PICTURE;0FRAME WITH PICTURE;2TILES;2AN X;0BLACK FOLDER",
  "1f5c0 FOLDER;0OPEN FOLDER;0CARD INDEX DIVIDERS;1FILE BOX;0FILE CABINET;0EMPTY NOTE;2PAGE;2PAD",
  "1f5c8 NOTE;1PAGE;1PAD;0EMPTY DOCUMENT;1PAGE;1PAGES;0DOCUMENT;0PAGE;0PAGES;0WASTEBASKET",
  "1f5d2 SPIRAL NOTE PAD;1CALENDAR PAD;0DESKTOP WINDOW;0MINIMIZE;0MAXIMIZE;0OVERLAP",
  "1f5d8 CLOCKWISE RIGHT AND LEFT SEMICIRCLE ARROWS;0CANCELLATION X;0INCREASE FONT SIZE SYMBOL",
  "1f5db DECREASE FONT SIZE SYMBOL;0COMPRESSION;0OLD KEY;0ROLLED-UP NEWSPAPER",
  "1f5df PAGE WITH CIRCLED TEXT;0STOCK CHART;0DAGGER KNIFE;0LIPS;0SPEAKING HEAD IN SILHOUETTE",
  "1f5e4 THREE RAYS ABOVE;2BELOW;2LEFT;2RIGHT;0LEFT SPEECH BUBBLE;0RIGHT SPEECH BUBBLE",
  "1f5ea TWO SPEECH BUBBLES;0THREE SPEECH BUBBLES;0LEFT THOUGHT BUBBLE;0RIGHT THOUGHT BUBBLE",
  "1f5ee LEFT ANGER BUBBLE;0RIGHT ANGER BUBBLE;0MOOD BUBBLE;0LIGHTNING MOOD BUBBLE;1MOOD",
  "1f5f3 BALLOT BOX WITH BALLOT;1SCRIPT X;1BOX WITH SCRIPT X;1BOLD SCRIPT X",
  "1f5f7 BALLOT BOX WITH BOLD SCRIPT X;0LIGHT CHECK MARK;0BALLOT BOX WITH BOLD CHECK;0WORLD MAP",
  "1f5fb MOUNT FUJI;0TOKYO TOWER;0STATUE OF LIBERTY;0SILHOUETTE OF JAPAN;0MOYAI;0GRINNING FACE",
  "1f601 GRINNING FACE WITH SMILING EYES;0FACE WITH TEARS OF JOY;0SMILING FACE WITH OPEN MOUTH",
  "1f604 SMILING FACE WITH OPEN MOUTH AND SMILING EYES;6COLD SWEAT;6TIGHTLY-CLOSED EYES;3HALO",
  "1f608 SMILING FACE WITH HORNS;0WINKING FACE;0SMILING FACE WITH SMILING EYES",
  "1f60b FACE SAVOURING DELICIOUS FOOD;0RELIEVED FACE;0SMILING FACE WITH HEART-SHAPED EYES",
  "1f60e SMILING FACE WITH SUNGLASSES;0SMIRKING FACE;0NEUTRAL FACE;0EXPRESSIONLESS FACE",
  "1f612 UNAMUSED FACE;0FACE WITH COLD SWEAT;0PENSIVE FACE;0CONFUSED FACE;0CONFOUNDED FACE",
  "1f617 KISSING FACE;0FACE THROWING A KISS;0KISSING FACE WITH SMILING EYES;3CLOSED EYES",
  "1f61b FACE WITH STUCK-OUT TONGUE;4AND WINKING EYE;5TIGHTLY-CLOSED EYES;0DISAPPOINTED FACE",
  "1f61f WORRIED FACE;0ANGRY FACE;0POUTING FACE;0CRYING FACE;0PERSEVERING FACE",
  "1f624 FACE WITH LOOK OF TRIUMPH;0DISAPPOINTED BUT RELIEVED FACE;0FROWNING FACE WITH OPEN MOUTH",
  "1f627 ANGUISHED FACE;0FEARFUL FACE;0WEARY FACE;0SLEEPY FACE;0TIRED FACE;0GRIMACING FACE",
  "1f62d LOUDLY CRYING FACE;0FACE WITH OPEN MOUTH;0HUSHED FACE",
  "1f630 FACE WITH OPEN MOUTH AND COLD SWEAT;1SCREAMING IN FEAR;0ASTONISHED FACE;0FLUSHED FACE",
  "1f634 SLEEPING FACE;0DIZZY FACE;0FACE WITHOUT MOUTH;1WITH MEDICAL MASK",
  "1f638 GRINNING CAT FACE WITH SMILING EYES;0CAT FACE WITH TEARS OF JOY",
  "1f63a SMILING CAT FACE WITH OPEN MOUTH;4HEART-SHAPED EYES;0CAT FACE WITH WRY SMILE",
  "1f63d KISSING CAT FACE WITH CLOSED EYES;0POUTING CAT FACE;0CRYING CAT FACE;0WEARY CAT FACE",
  "1f641 SLIGHTLY FROWNING FACE;1SMILING FACE;0UPSIDE-DOWN FACE;0FACE WITH ROLLING EYES",
  "1f645 FACE WITH NO GOOD GESTURE;2OK GESTURE;0PERSON BOWING DEEPLY;0SEE-NO-EVIL MONKEY",
  "1f649 HEAR-NO-EVIL MONKEY;0SPEAK-NO-EVIL MONKEY;0HAPPY PERSON RAISING ONE HAND",
  "1f64c PERSON RAISING BOTH HANDS IN CELEBRATION;1FROWNING;1WITH POUTING FACE;2FOLDED HANDS",
  "1f650 NORTH WEST POINTING LEAF;0SOUTH WEST POINTING LEAF;0NORTH EAST POINTING LEAF",
  "1f653 SOUTH EAST POINTING LEAF;0TURNED NORTH WEST POINTING LEAF;1SOUTH WEST POINTING LEAF",
  "1f656 TURNED NORTH EAST POINTING LEAF;1SOUTH EAST POINTING LEAF;0NORTH WEST POINTING VINE LEAF",
  "1f659 SOUTH WEST POINTING VINE LEAF;0NORTH EAST POINTING VINE LEAF",
  "1f65b SOUTH EAST POINTING VINE LEAF;0HEAVY NORTH WEST POINTING VINE LEAF",
  "1f65d HEAVY SOUTH WEST POINTING VINE LEAF;1NORTH EAST POINTING VINE LEAF",
  "1f65f HEAVY SOUTH EAST POINTING VINE LEAF;0NORTH WEST POINTING BUD;0SOUTH WEST POINTING BUD",
  "1f662 NORTH EAST POINTING BUD;0SOUTH EAST POINTING BUD;0HEAVY NORTH WEST POINTING BUD",
  "1f665 HEAVY SOUTH WEST POINTING BUD;1NORTH EAST POINTING BUD;1SOUTH EAST POINTING BUD",
  "1f668 HOLLOW QUILT SQUARE ORNAMENT;4IN BLACK SQUARE;0SOLID QUILT SQUARE ORNAMENT",
  "1f66b SOLID QUILT SQUARE ORNAMENT IN BLACK SQUARE;0LEFTWARDS ROCKET;0UPWARDS ROCKET",
  "1f66e RIGHTWARDS ROCKET;0DOWNWARDS ROCKET;0SCRIPT LIGATURE ET ORNAMENT",
  "1f671 HEAVY SCRIPT LIGATURE ET ORNAMENT;0LIGATURE OPEN ET ORNAMENT",
  "1f673 HEAVY LIGATURE OPEN ET ORNAMENT;1AMPERSAND ORNAMENT;0SWASH AMPERSAND ORNAMENT",
  "1f676 SANS-SERIF HEAVY DOUBLE TURNED COMMA QUOTATION MARK ORNAMENT",
  "1f677 SANS-SERIF HEAVY DOUBLE COMMA QUOTATION MARK ORNAMENT",
  "1f678 SANS-SERIF HEAVY LOW DOUBLE COMMA QUOTATION MARK ORNAMENT;0HEAVY INTERROBANG ORNAMENT",
  "1f67a SANS-SERIF INTERROBANG ORNAMENT;0HEAVY SANS-SERIF INTERROBANG ORNAMENT",
  "1f67c VERY HEAVY SOLIDUS;2REVERSE SOLIDUS;0CHECKER BOARD;0REVERSE CHECKER BOARD;0ROCKET",
  "1f681 HELICOPTER;0STEAM LOCOMOTIVE;0RAILWAY CAR;0HIGH-SPEED TRAIN;2WITH BULLET NOSE;0TRAIN",
  "1f687 METRO;0LIGHT RAIL;0STATION;0TRAM;1CAR;0BUS;0ONCOMING BUS;0TROLLEYBUS;0BUS STOP;0MINIBUS",
  "1f691 AMBULANCE;0FIRE ENGINE;0POLICE CAR;0ONCOMING POLICE CAR;0TAXI;0ONCOMING TAXI;0AUTOMOBILE",
  "1f698 ONCOMING AUTOMOBILE;0RECREATIONAL VEHICLE;0DELIVERY TRUCK;0ARTICULATED LORRY;0TRACTOR",
  "1f69d MONORAIL;0MOUNTAIN RAILWAY;0SUSPENSION RAILWAY;0MOUNTAIN CABLEWAY;0AERIAL TRAMWAY;0SHIP",
  "1f6a3 ROWBOAT;0SPEEDBOAT;0HORIZONTAL TRAFFIC LIGHT;0VERTICAL TRAFFIC LIGHT;0CONSTRUCTION SIGN",
  "1f6a8 POLICE CARS REVOLVING LIGHT;0TRIANGULAR FLAG ON POST;0DOOR;0NO ENTRY SIGN;0SMOKING SYMBOL",
  "1f6ad NO SMOKING SYMBOL;0PUT LITTER IN ITS PLACE SYMBOL;0DO NOT LITTER SYMBOL",
  "1f6b0 POTABLE WATER SYMBOL;0NON-POTABLE WATER SYMBOL;0BICYCLE;0NO BICYCLES;0BICYCLIST",
  "1f6b5 MOUNTAIN BICYCLIST;0PEDESTRIAN;0NO PEDESTRIANS;0CHILDREN CROSSING;0MENS SYMBOL",
  "1f6ba WOMENS SYMBOL;0RESTROOM;0BABY SYMBOL;0TOILET;0WATER CLOSET;0SHOWER;0BATH;0BATHTUB",
  "1f6c2 PASSPORT CONTROL;0CUSTOMS;0BAGGAGE CLAIM;0LEFT LUGGAGE;0TRIANGLE WITH ROUNDED CORNERS",
  "1f6c7 PROHIBITED SIGN;0CIRCLED INFORMATION SOURCE;0BOYS SYMBOL;0GIRLS SYMBOL;0COUCH AND LAMP",
  "1f6cc SLEEPING ACCOMMODATION;0SHOPPING BAGS;0BELLHOP BELL;0BED;0PLACE OF WORSHIP",
  "1f6d1 OCTAGONAL SIGN;0SHOPPING TROLLEY;0STUPA;0PAGODA;0HINDU TEMPLE;0HUT;0ELEVATOR",
  "1f6dd PLAYGROUND SLIDE;0WHEEL;0RING BUOY;0HAMMER AND WRENCH;0SHIELD;0OIL DRUM;0MOTORWAY",
  "1f6e4 RAILWAY TRACK;0MOTOR BOAT;0UP-POINTING MILITARY AIRPLANE;1AIRPLANE;1SMALL AIRPLANE",
  "1f6e9 SMALL AIRPLANE;0NORTHEAST-POINTING AIRPLANE;0AIRPLANE DEPARTURE;1ARRIVING",
  "1f6f0 SATELLITE;0ONCOMING FIRE ENGINE;0DIESEL LOCOMOTIVE;0PASSENGER SHIP;0SCOOTER",
  "1f6f5 MOTOR SCOOTER;0CANOE;0SLED;0FLYING SAUCER;0SKATEBOARD;0AUTO RICKSHAW;0PICKUP TRUCK",
  "1f6fc ROLLER SKATE",
  "1f700 ALCHEMICAL SYMBOL FOR QUINTESSENCE;3AIR;3FIRE;3EARTH;3WATER;3AQUAFORTIS;3AQUA REGIA",
  "1f707 ALCHEMICAL SYMBOL FOR AQUA REGIA-2;4VITAE;4VITAE-2;3VINEGAR;3VINEGAR-2;3VINEGAR-3;3SULFUR",
  "1f70e ALCHEMICAL SYMBOL FOR PHILOSOPHERS SULFUR;3BLACK SULFUR;3MERCURY SUBLIMATE;4SUBLIMATE-2",
  "1f712 ALCHEMICAL SYMBOL FOR MERCURY SUBLIMATE-3;3CINNABAR;3SALT;3NITRE;3VITRIOL;3VITRIOL-2",
  "1f718 ALCHEMICAL SYMBOL FOR ROCK SALT;4SALT-2;3GOLD;3SILVER;3IRON ORE;4ORE-2;3CROCUS OF IRON",
  "1f71f ALCHEMICAL SYMBOL FOR REGULUS OF IRON;3COPPER ORE;3IRON-COPPER ORE;3SUBLIMATE OF COPPER",
  "1f723 ALCHEMICAL SYMBOL FOR CROCUS OF COPPER;5COPPER-2;3COPPER ANTIMONIATE",
  "1f726 ALCHEMICAL SYMBOL FOR SALT OF COPPER ANTIMONIATE;3SUBLIMATE OF SALT OF COPPER;3VERDIGRIS",
  "1f729 ALCHEMICAL SYMBOL FOR TIN ORE;3LEAD ORE;3ANTIMONY ORE;3SUBLIMATE OF ANTIMONY",
  "1f72d ALCHEMICAL SYMBOL FOR SALT OF ANTIMONY;3SUBLIMATE OF SALT OF ANTIMONY",
  "1f72f ALCHEMICAL SYMBOL FOR VINEGAR OF ANTIMONY;3REGULUS OF ANTIMONY;5ANTIMONY-2;3REGULUS",
  "1f733 ALCHEMICAL SYMBOL FOR REGULUS-2;3REGULUS-3;3REGULUS-4;3ALKALI;3ALKALI-2;3MARCASITE",
  "1f739 ALCHEMICAL SYMBOL FOR SAL-AMMONIAC;3ARSENIC;3REALGAR;3REALGAR-2;3AURIPIGMENT;3BISMUTH ORE",
  "1f73f ALCHEMICAL SYMBOL FOR TARTAR;3TARTAR-2;3QUICK LIME;3BORAX;3BORAX-2;3BORAX-3;3ALUM;3OIL",
  "1f747 ALCHEMICAL SYMBOL FOR SPIRIT;3TINCTURE;3GUM;3WAX;3POWDER;3CALX;3TUTTY;3CAPUT MORTUUM",
  "1f74f ALCHEMICAL SYMBOL FOR SCEPTER OF JOVE;3CADUCEUS;3TRIDENT;3STARRED TRIDENT;3LODESTONE",
  "1f754 ALCHEMICAL SYMBOL FOR SOAP;3URINE;3HORSE DUNG;3ASHES;3POT ASHES;3BRICK;3POWDERED BRICK",
  "1f75b ALCHEMICAL SYMBOL FOR AMALGAM;3STRATUM SUPER STRATUM;5STRATUM-2;3SUBLIMATION;3PRECIPITATE",
  "1f760 ALCHEMICAL SYMBOL FOR DISTILL;3DISSOLVE;3DISSOLVE-2;3PURIFY;3PUTREFACTION;3CRUCIBLE",
  "1f766 ALCHEMICAL SYMBOL FOR CRUCIBLE-2;3CRUCIBLE-3;3CRUCIBLE-4;3CRUCIBLE-5;3ALEMBIC",
  "1f76b ALCHEMICAL SYMBOL FOR BATH OF MARY;5VAPOURS;3RETORT;3HOUR;3NIGHT;3DAY-NIGHT;3MONTH",
  "1f772 ALCHEMICAL SYMBOL FOR HALF DRAM;4OUNCE",
  "1f780 BLACK LEFT-POINTING ISOSCELES RIGHT TRIANGLE;1UP-POINTING ISOSCELES RIGHT TRIANGLE",
  "1f782 BLACK RIGHT-POINTING ISOSCELES RIGHT TRIANGLE;1DOWN-POINTING ISOSCELES RIGHT TRIANGLE",
  "1f784 BLACK SLIGHTLY SMALL CIRCLE;0MEDIUM BOLD WHITE CIRCLE;0BOLD WHITE CIRCLE",
  "1f787 HEAVY WHITE CIRCLE;0VERY HEAVY WHITE CIRCLE;0EXTREMELY HEAVY WHITE CIRCLE",
  "1f78a WHITE CIRCLE CONTAINING BLACK SMALL CIRCLE;0ROUND TARGET;0BLACK TINY SQUARE",
  "1f78d BLACK SLIGHTLY SMALL SQUARE;0LIGHT WHITE SQUARE;0MEDIUM WHITE SQUARE;0BOLD WHITE SQUARE",
  "1f791 HEAVY WHITE SQUARE;0VERY HEAVY WHITE SQUARE;0EXTREMELY HEAVY WHITE SQUARE",
  "1f794 WHITE SQUARE CONTAINING BLACK VERY SMALL SQUARE;4MEDIUM SQUARE;0SQUARE TARGET",
  "1f797 BLACK TINY DIAMOND;1VERY SMALL DIAMOND;1MEDIUM SMALL DIAMOND",
  "1f79a WHITE DIAMOND CONTAINING BLACK VERY SMALL DIAMOND;4MEDIUM DIAMOND;0DIAMOND TARGET",
  "1f79d BLACK TINY LOZENGE;1VERY SMALL LOZENGE;1MEDIUM SMALL LOZENGE",
  "1f7a0 WHITE LOZENGE CONTAINING BLACK SMALL LOZENGE;0THIN GREEK CROSS;0LIGHT GREEK CROSS",
  "1f7a3 MEDIUM GREEK CROSS;0BOLD GREEK CROSS;0VERY BOLD GREEK CROSS;1HEAVY GREEK CROSS",
  "1f7a7 EXTREMELY HEAVY GREEK CROSS;0THIN SALTIRE;0LIGHT SALTIRE;0MEDIUM SALTIRE;0BOLD SALTIRE",
  "1f7ac HEAVY SALTIRE;0VERY HEAVY SALTIRE;0EXTREMELY HEAVY SALTIRE;0LIGHT FIVE SPOKED ASTERISK",
  "1f7b0 MEDIUM FIVE SPOKED ASTERISK;0BOLD FIVE SPOKED ASTERISK;0HEAVY FIVE SPOKED ASTERISK",
  "1f7b3 VERY HEAVY FIVE SPOKED ASTERISK;0EXTREMELY HEAVY FIVE SPOKED ASTERISK",
  "1f7b5 LIGHT SIX SPOKED ASTERISK;0MEDIUM SIX SPOKED ASTERISK;0BOLD SIX SPOKED ASTERISK",
  "1f7b8 HEAVY SIX SPOKED ASTERISK;0VERY HEAVY SIX SPOKED ASTERISK",
  "1f7ba EXTREMELY HEAVY SIX SPOKED ASTERISK;0LIGHT EIGHT SPOKED ASTERISK",
  "1f7bc MEDIUM EIGHT SPOKED ASTERISK;0BOLD EIGHT SPOKED ASTERISK;0HEAVY EIGHT SPOKED ASTERISK",
  "1f7bf VERY HEAVY EIGHT SPOKED ASTERISK;0LIGHT THREE POINTED BLACK STAR",
  "1f7c1 MEDIUM THREE POINTED BLACK STAR;0THREE POINTED BLACK STAR",
  "1f7c3 MEDIUM THREE POINTED PINWHEEL STAR;0LIGHT FOUR POINTED BLACK STAR",
  "1f7c5 MEDIUM FOUR POINTED BLACK STAR;0FOUR POINTED BLACK STAR",
  "1f7c7 MEDIUM FOUR POINTED PINWHEEL STAR;0REVERSE LIGHT FOUR POINTED PINWHEEL STAR",
  "1f7c9 LIGHT FIVE POINTED BLACK STAR;0HEAVY FIVE POINTED BLACK STAR",
  "1f7cb MEDIUM SIX POINTED BLACK STAR;0HEAVY SIX POINTED BLACK STAR;0SIX POINTED PINWHEEL STAR",
  "1f7ce MEDIUM EIGHT POINTED BLACK STAR;0HEAVY EIGHT POINTED BLACK STAR",
  "1f7d0 VERY HEAVY EIGHT POINTED BLACK STAR;0HEAVY EIGHT POINTED PINWHEEL STAR",
  "1f7d2 LIGHT TWELVE POINTED BLACK STAR;0HEAVY TWELVE POINTED BLACK STAR;3PINWHEEL STAR",
  "1f7d5 CIRCLED TRIANGLE;0NEGATIVE CIRCLED TRIANGLE;0CIRCLED SQUARE;0NEGATIVE CIRCLED SQUARE",
  "1f7e0 LARGE ORANGE CIRCLE;1YELLOW CIRCLE;1GREEN CIRCLE;1PURPLE CIRCLE;1BROWN CIRCLE;1RED SQUARE",
  "1f7e6 LARGE BLUE SQUARE;1ORANGE SQUARE;1YELLOW SQUARE;1GREEN SQUARE;1PURPLE SQUARE",
  "1f7eb LARGE BROWN SQUARE",
  "1f7f0 HEAVY EQUALS SIGN",
  "1f800 LEFTWARDS ARROW WITH SMALL TRIANGLE ARROWHEAD",
  "1f801 UPWARDS ARROW WITH SMALL TRIANGLE ARROWHEAD",
  "1f802 RIGHTWARDS ARROW WITH SMALL TRIANGLE ARROWHEAD",
  "1f803 DOWNWARDS ARROW WITH SMALL TRIANGLE ARROWHEAD",
  "1f804 LEFTWARDS ARROW WITH MEDIUM TRIANGLE ARROWHEAD",
  "1f805 UPWARDS ARROW WITH MEDIUM TRIANGLE ARROWHEAD",
  "1f806 RIGHTWARDS ARROW WITH MEDIUM TRIANGLE ARROWHEAD",
  "1f807 DOWNWARDS ARROW WITH MEDIUM TRIANGLE ARROWHEAD",
  "1f808 LEFTWARDS ARROW WITH LARGE TRIANGLE ARROWHEAD",
  "1f809 UPWARDS ARROW WITH LARGE TRIANGLE ARROWHEAD",
  "1f80a RIGHTWARDS ARROW WITH LARGE TRIANGLE ARROWHEAD",
  "1f80b DOWNWARDS ARROW WITH LARGE TRIANGLE ARROWHEAD",
  "1f810 LEFTWARDS ARROW WITH SMALL EQUILATERAL ARROWHEAD",
  "1f811 UPWARDS ARROW WITH SMALL EQUILATERAL ARROWHEAD",
  "1f812 RIGHTWARDS ARROW WITH SMALL EQUILATERAL ARROWHEAD",
  "1f813 DOWNWARDS ARROW WITH SMALL EQUILATERAL ARROWHEAD",
  "1f814 LEFTWARDS ARROW WITH EQUILATERAL ARROWHEAD;0UPWARDS ARROW WITH EQUILATERAL ARROWHEAD",
  "1f816 RIGHTWARDS ARROW WITH EQUILATERAL ARROWHEAD;0DOWNWARDS ARROW WITH EQUILATERAL ARROWHEAD",
  "1f818 HEAVY LEFTWARDS ARROW WITH EQUILATERAL ARROWHEAD",
  "1f819 HEAVY UPWARDS ARROW WITH EQUILATERAL ARROWHEAD",
  "1f81a HEAVY RIGHTWARDS ARROW WITH EQUILATERAL ARROWHEAD",
  "1f81b HEAVY DOWNWARDS ARROW WITH EQUILATERAL ARROWHEAD",
  "1f81c HEAVY LEFTWARDS ARROW WITH LARGE EQUILATERAL ARROWHEAD",
  "1f81d HEAVY UPWARDS ARROW WITH LARGE EQUILATERAL ARROWHEAD",
  "1f81e HEAVY RIGHTWARDS ARROW WITH LARGE EQUILATERAL ARROWHEAD",
  "1f81f HEAVY DOWNWARDS ARROW WITH LARGE EQUILATERAL ARROWHEAD",
  "1f820 LEFTWARDS TRIANGLE-HEADED ARROW WITH NARROW SHAFT",
  "1f821 UPWARDS TRIANGLE-HEADED ARROW WITH NARROW SHAFT",
  "1f822 RIGHTWARDS TRIANGLE-HEADED ARROW WITH NARROW SHAFT",
  "1f823 DOWNWARDS TRIANGLE-HEADED ARROW WITH NARROW SHAFT",
  "1f824 LEFTWARDS TRIANGLE-HEADED ARROW WITH MEDIUM SHAFT",
  "1f825 UPWARDS TRIANGLE-HEADED ARROW WITH MEDIUM SHAFT",
  "1f826 RIGHTWARDS TRIANGLE-HEADED ARROW WITH MEDIUM SHAFT",
  "1f827 DOWNWARDS TRIANGLE-HEADED ARROW WITH MEDIUM SHAFT",
  "1f828 LEFTWARDS TRIANGLE-HEADED ARROW WITH BOLD SHAFT",
  "1f829 UPWARDS TRIANGLE-HEADED ARROW WITH BOLD SHAFT",
  "1f82a RIGHTWARDS TRIANGLE-HEADED ARROW WITH BOLD SHAFT",
  "1f82b DOWNWARDS TRIANGLE-HEADED ARROW WITH BOLD SHAFT",
  "1f82c LEFTWARDS TRIANGLE-HEADED ARROW WITH HEAVY SHAFT",
  "1f82d UPWARDS TRIANGLE-HEADED ARROW WITH HEAVY SHAFT",
  "1f82e RIGHTWARDS TRIANGLE-HEADED ARROW WITH HEAVY SHAFT",
  "1f82f DOWNWARDS TRIANGLE-HEADED ARROW WITH HEAVY SHAFT",
  "1f830 LEFTWARDS TRIANGLE-HEADED ARROW WITH VERY HEAVY SHAFT",
  "1f831 UPWARDS TRIANGLE-HEADED ARROW WITH VERY HEAVY SHAFT",
  "1f832 RIGHTWARDS TRIANGLE-HEADED ARROW WITH VERY HEAVY SHAFT",
  "1f833 DOWNWARDS TRIANGLE-HEADED ARROW WITH VERY HEAVY SHAFT;0LEFTWARDS FINGER-POST ARROW",
  "1f835 UPWARDS FINGER-POST ARROW;0RIGHTWARDS FINGER-POST ARROW;0DOWNWARDS FINGER-POST ARROW",
  "1f838 LEFTWARDS SQUARED ARROW;0UPWARDS SQUARED ARROW;0RIGHTWARDS SQUARED ARROW",
  "1f83b DOWNWARDS SQUARED ARROW;0LEFTWARDS COMPRESSED ARROW;0UPWARDS COMPRESSED ARROW",
  "1f83e RIGHTWARDS COMPRESSED ARROW;0DOWNWARDS COMPRESSED ARROW;0LEFTWARDS HEAVY COMPRESSED ARROW",
  "1f841 UPWARDS HEAVY COMPRESSED ARROW;0RIGHTWARDS HEAVY COMPRESSED ARROW",
  "1f843 DOWNWARDS HEAVY COMPRESSED ARROW;0LEFTWARDS HEAVY ARROW;0UPWARDS HEAVY ARROW",
  "1f846 RIGHTWARDS HEAVY ARROW;0DOWNWARDS HEAVY ARROW",
  "1f850 LEFTWARDS SANS-SERIF ARROW;0UPWARDS SANS-SERIF ARROW;0RIGHTWARDS SANS-SERIF ARROW",
  "1f853 DOWNWARDS SANS-SERIF ARROW;0NORTH WEST SANS-SERIF ARROW;1EAST SANS-SERIF ARROW",
  "1f856 SOUTH EAST SANS-SERIF ARROW;1WEST SANS-SERIF ARROW;0LEFT RIGHT SANS-SERIF ARROW",
  "1f859 UP DOWN SANS-SERIF ARROW",
  "1f860 WIDE-HEADED LEFTWARDS LIGHT BARB ARROW;1UPWARDS LIGHT BARB ARROW",
  "1f862 WIDE-HEADED RIGHTWARDS LIGHT BARB ARROW;1DOWNWARDS LIGHT BARB ARROW",
  "1f864 WIDE-HEADED NORTH WEST LIGHT BARB ARROW;2EAST LIGHT BARB ARROW",
  "1f866 WIDE-HEADED SOUTH EAST LIGHT BARB ARROW;2WEST LIGHT BARB ARROW;1LEFTWARDS BARB ARROW",
  "1f869 WIDE-HEADED UPWARDS BARB ARROW;1RIGHTWARDS BARB ARROW;1DOWNWARDS BARB ARROW",
  "1f86c WIDE-HEADED NORTH WEST BARB ARROW;2EAST BARB ARROW;1SOUTH EAST BARB ARROW",
  "1f86f WIDE-HEADED SOUTH WEST BARB ARROW;1LEFTWARDS MEDIUM BARB ARROW;1UPWARDS MEDIUM BARB ARROW",
  "1f872 WIDE-HEADED RIGHTWARDS MEDIUM BARB ARROW;1DOWNWARDS MEDIUM BARB ARROW",
  "1f874 WIDE-HEADED NORTH WEST MEDIUM BARB ARROW;2EAST MEDIUM BARB ARROW",
  "1f876 WIDE-HEADED SOUTH EAST MEDIUM BARB ARROW;2WEST MEDIUM BARB ARROW",
  "1f878 WIDE-HEADED LEFTWARDS HEAVY BARB ARROW;1UPWARDS HEAVY BARB ARROW",
  "1f87a WIDE-HEADED RIGHTWARDS HEAVY BARB ARROW;1DOWNWARDS HEAVY BARB ARROW",
  "1f87c WIDE-HEADED NORTH WEST HEAVY BARB ARROW;2EAST HEAVY BARB ARROW",
  "1f87e WIDE-HEADED SOUTH EAST HEAVY BARB ARROW;2WEST HEAVY BARB ARROW",
  "1f880 WIDE-HEADED LEFTWARDS VERY HEAVY BARB ARROW;1UPWARDS VERY HEAVY BARB ARROW",
  "1f882 WIDE-HEADED RIGHTWARDS VERY HEAVY BARB ARROW;1DOWNWARDS VERY HEAVY BARB ARROW",
  "1f884 WIDE-HEADED NORTH WEST VERY HEAVY BARB ARROW;2EAST VERY HEAVY BARB ARROW",
  "1f886 WIDE-HEADED SOUTH EAST VERY HEAVY BARB ARROW;2WEST VERY HEAVY BARB ARROW",
  "1f890 LEFTWARDS TRIANGLE ARROWHEAD;0UPWARDS TRIANGLE ARROWHEAD;0RIGHTWARDS TRIANGLE ARROWHEAD",
  "1f893 DOWNWARDS TRIANGLE ARROWHEAD;0LEFTWARDS WHITE ARROW WITHIN TRIANGLE ARROWHEAD",
  "1f895 UPWARDS WHITE ARROW WITHIN TRIANGLE ARROWHEAD",
  "1f896 RIGHTWARDS WHITE ARROW WITHIN TRIANGLE ARROWHEAD",
  "1f897 DOWNWARDS WHITE ARROW WITHIN TRIANGLE ARROWHEAD;0LEFTWARDS ARROW WITH NOTCHED TAIL",
  "1f899 UPWARDS ARROW WITH NOTCHED TAIL;0RIGHTWARDS ARROW WITH NOTCHED TAIL",
  "1f89b DOWNWARDS ARROW WITH NOTCHED TAIL;0HEAVY ARROW SHAFT WIDTH ONE;4TWO THIRDS;4ONE HALF",
  "1f89f HEAVY ARROW SHAFT WIDTH ONE THIRD;0LEFTWARDS BOTTOM-SHADED WHITE ARROW",
  "1f8a1 RIGHTWARDS BOTTOM SHADED WHITE ARROW;0LEFTWARDS TOP SHADED WHITE ARROW",
  "1f8a3 RIGHTWARDS TOP SHADED WHITE ARROW;0LEFTWARDS LEFT-SHADED WHITE ARROW",
  "1f8a5 RIGHTWARDS RIGHT-SHADED WHITE ARROW;0LEFTWARDS RIGHT-SHADED WHITE ARROW",
  "1f8a7 RIGHTWARDS LEFT-SHADED WHITE ARROW;0LEFTWARDS BACK-TILTED SHADOWED WHITE ARROW",
  "1f8a9 RIGHTWARDS BACK-TILTED SHADOWED WHITE ARROW;0LEFTWARDS FRONT-TILTED SHADOWED WHITE ARROW",
  "1f8ab RIGHTWARDS FRONT-TILTED SHADOWED WHITE ARROW;0WHITE ARROW SHAFT WIDTH ONE;4TWO THIRDS",
  "1f8b0 ARROW POINTING UPWARDS THEN NORTH WEST;2RIGHTWARDS THEN CURVING SOUTH WEST",
  "1f900 CIRCLED CROSS FORMEE WITH FOUR DOTS;4TWO DOTS;2FORMEE;0LEFT HALF CIRCLE WITH FOUR DOTS",
  "1f904 LEFT HALF CIRCLE WITH THREE DOTS;4TWO DOTS;4DOT;2CIRCLE;0DOWNWARD FACING HOOK",
  "1f909 DOWNWARD FACING NOTCHED HOOK;2HOOK WITH DOT;2NOTCHED HOOK WITH DOT;0PINCHED FINGERS",
  "1f90d WHITE HEART;0BROWN HEART;0PINCHING HAND;0ZIPPER-MOUTH FACE;0MONEY-MOUTH FACE",
  "1f912 FACE WITH THERMOMETER;0NERD FACE;0THINKING FACE;0FACE WITH HEAD-BANDAGE;0ROBOT FACE",
  "1f917 HUGGING FACE;0SIGN OF THE HORNS;0CALL ME HAND;0RAISED BACK OF HAND;0LEFT-FACING FIST",
  "1f91c RIGHT-FACING FIST;0HANDSHAKE;0HAND WITH INDEX AND MIDDLE FINGERS CROSSED",
  "1f91f I LOVE YOU HAND SIGN;0FACE WITH COWBOY HAT;0CLOWN FACE;0NAUSEATED FACE",
  "1f923 ROLLING ON THE FLOOR LAUGHING;0DROOLING FACE;0LYING FACE;0FACE PALM;0SNEEZING FACE",
  "1f928 FACE WITH ONE EYEBROW RAISED;0GRINNING FACE WITH STAR EYES;3ONE LARGE AND ONE SMALL EYE",
  "1f92b FACE WITH FINGER COVERING CLOSED LIPS;0SERIOUS FACE WITH SYMBOLS COVERING MOUTH",
  "1f92d SMILING FACE WITH SMILING EYES AND HAND COVERING MOUTH;0FACE WITH OPEN MOUTH VOMITING",
  "1f92f SHOCKED FACE WITH EXPLODING HEAD;0PREGNANT WOMAN;0BREAST-FEEDING;0PALMS UP TOGETHER",
  "1f933 SELFIE;0PRINCE;0MAN IN TUXEDO;0MOTHER CHRISTMAS;0SHRUG;0PERSON DOING CARTWHEEL;0JUGGLING",
  "1f93a FENCER;0MODERN PENTATHLON;0WRESTLERS;0WATER POLO;0HANDBALL;0DIVING MASK;0WILTED FLOWER",
  "1f941 DRUM WITH DRUMSTICKS;0CLINKING GLASSES;0TUMBLER GLASS;0SPOON;0GOAL NET;0RIFLE",
  "1f947 FIRST PLACE MEDAL;0SECOND PLACE MEDAL;0THIRD PLACE MEDAL;0BOXING GLOVE",
  "1f94b MARTIAL ARTS UNIFORM;0CURLING STONE;0LACROSSE STICK AND BALL;0SOFTBALL;0FLYING DISC",
  "1f950 CROISSANT;0AVOCADO;0CUCUMBER;0BACON;0POTATO;0CARROT;0BAGUETTE BREAD;0GREEN SALAD",
  "1f958 SHALLOW PAN OF FOOD;0STUFFED FLATBREAD;0EGG;0GLASS OF MILK;0PEANUTS;0KIWIFRUIT;0PANCAKES",
  "1f95f DUMPLING;0FORTUNE COOKIE;0TAKEOUT BOX;0CHOPSTICKS;0BOWL WITH SPOON;0CUP WITH STRAW",
  "1f965 COCONUT;0BROCCOLI;0PIE;0PRETZEL;0CUT OF MEAT;0SANDWICH;0CANNED FOOD;0LEAFY GREEN;0MANGO",
  "1f96e MOON CAKE;0BAGEL;0SMILING FACE WITH SMILING EYES AND THREE HEARTS;0YAWNING FACE",
  "1f972 SMILING FACE WITH TEAR;0FACE WITH PARTY HORN AND PARTY HAT;2UNEVEN EYES AND WAVY MOUTH",
  "1f975 OVERHEATED FACE;0FREEZING FACE;0NINJA;0DISGUISED FACE;0FACE HOLDING BACK TEARS",
  "1f97a FACE WITH PLEADING EYES;0SARI;0LAB COAT;0GOGGLES;0HIKING BOOT;0FLAT SHOE;0CRAB;0LION FACE",
  "1f982 SCORPION;0TURKEY;0UNICORN FACE;0EAGLE;0DUCK;0BAT;0SHARK;0OWL;0FOX FACE;0BUTTERFLY;0DEER",
  "1f98d GORILLA;0LIZARD;0RHINOCEROS;0SHRIMP;0SQUID;0GIRAFFE FACE;0ZEBRA FACE;0HEDGEHOG;0SAUROPOD",
  "1f996 T-REX;0CRICKET;0KANGAROO;0LLAMA;0PEACOCK;0HIPPOPOTAMUS;0PARROT;0RACCOON;0LOBSTER",
  "1f99f MOSQUITO;0MICROBE;0BADGER;0SWAN;0MAMMOTH;0DODO;0SLOTH;0OTTER;0ORANGUTAN;0SKUNK;0FLAMINGO",
  "1f9aa OYSTER;0BEAVER;0BISON;0SEAL;0GUIDE DOG;0PROBING CANE;0EMOJI COMPONENT RED HAIR",
  "1f9b1 EMOJI COMPONENT CURLY HAIR;2BALD;2WHITE HAIR;0BONE;0LEG;0FOOT;0TOOTH;0SUPERHERO",
  "1f9b9 SUPERVILLAIN;0SAFETY VEST;0EAR WITH HEARING AID;0MOTORIZED WHEELCHAIR;0MANUAL WHEELCHAIR",
  "1f9be MECHANICAL ARM;1LEG;0CHEESE WEDGE;0CUPCAKE;0SALT SHAKER;0BEVERAGE BOX;0GARLIC;0ONION",
  "1f9c6 FALAFEL;0WAFFLE;0BUTTER;0MATE DRINK;0ICE CUBE;0BUBBLE TEA;0TROLL;0STANDING PERSON",
  "1f9ce KNEELING PERSON;0DEAF PERSON;0FACE WITH MONOCLE;0ADULT;0CHILD;0OLDER ADULT",
  "1f9d4 BEARDED PERSON;0PERSON WITH HEADSCARF;1IN STEAMY ROOM;1CLIMBING;1IN LOTUS POSITION;0MAGE",
  "1f9da FAIRY;0VAMPIRE;0MERPERSON;0ELF;0GENIE;0ZOMBIE;0BRAIN;0ORANGE HEART;0BILLED CAP;0SCARF",
  "1f9e4 GLOVES;0COAT;0SOCKS;0RED GIFT ENVELOPE;0FIRECRACKER;0JIGSAW PUZZLE PIECE;0TEST TUBE",
  "1f9eb PETRI DISH;0DNA DOUBLE HELIX;0COMPASS;0ABACUS;0FIRE EXTINGUISHER;0TOOLBOX;0BRICK;0MAGNET",
  "1f9f3 LUGGAGE;0LOTION BOTTLE;0SPOOL OF THREAD;0BALL OF YARN;0SAFETY PIN;0TEDDY BEAR;0BROOM",
  "1f9fa BASKET;0ROLL OF PAPER;0BAR OF SOAP;0SPONGE;0RECEIPT;0NAZAR AMULET;0NEUTRAL CHESS KING",
  "1fa01 NEUTRAL CHESS QUEEN;2ROOK;2BISHOP;2KNIGHT;2PAWN",
  "1fa06 WHITE CHESS KNIGHT ROTATED FORTY-FIVE DEGREES",
  "1fa07 BLACK CHESS KNIGHT ROTATED FORTY-FIVE DEGREES",
  "1fa08 NEUTRAL CHESS KNIGHT ROTATED FORTY-FIVE DEGREES;0WHITE CHESS KING ROTATED NINETY DEGREES",
  "1fa0a WHITE CHESS QUEEN ROTATED NINETY DEGREES;2ROOK ROTATED NINETY DEGREES",
  "1fa0c WHITE CHESS BISHOP ROTATED NINETY DEGREES;2KNIGHT ROTATED NINETY DEGREES",
  "1fa0e WHITE CHESS PAWN ROTATED NINETY DEGREES;0BLACK CHESS KING ROTATED NINETY DEGREES",
  "1fa10 BLACK CHESS QUEEN ROTATED NINETY DEGREES;2ROOK ROTATED NINETY DEGREES",
  "1fa12 BLACK CHESS BISHOP ROTATED NINETY DEGREES;2KNIGHT ROTATED NINETY DEGREES",
  "1fa14 BLACK CHESS PAWN ROTATED NINETY DEGREES;0NEUTRAL CHESS KING ROTATED NINETY DEGREES",
  "1fa16 NEUTRAL CHESS QUEEN ROTATED NINETY DEGREES;2ROOK ROTATED NINETY DEGREES",
  "1fa18 NEUTRAL CHESS BISHOP ROTATED NINETY DEGREES;2KNIGHT ROTATED NINETY DEGREES",
  "1fa1a NEUTRAL CHESS PAWN ROTATED NINETY DEGREES",
  "1fa1b WHITE CHESS KNIGHT ROTATED ONE HUNDRED THIRTY-FIVE DEGREES",
  "1fa1c BLACK CHESS KNIGHT ROTATED ONE HUNDRED THIRTY-FIVE DEGREES",
  "1fa1d NEUTRAL CHESS KNIGHT ROTATED ONE HUNDRED THIRTY-FIVE DEGREES;0WHITE CHESS TURNED KING",
  "1fa1f WHITE CHESS TURNED QUEEN;3ROOK;3BISHOP;3KNIGHT;3PAWN;0BLACK CHESS TURNED KING;3QUEEN",
  "1fa26 BLACK CHESS TURNED ROOK;3BISHOP;3KNIGHT;3PAWN;0NEUTRAL CHESS TURNED KING;3QUEEN;3ROOK",
  "1fa2d NEUTRAL CHESS TURNED BISHOP;3KNIGHT;3PAWN",
  "1fa30 WHITE CHESS KNIGHT ROTATED TWO HUNDRED TWENTY-FIVE DEGREES",
  "1fa31 BLACK CHESS KNIGHT ROTATED TWO HUNDRED TWENTY-FIVE DEGREES",
  "1fa32 NEUTRAL CHESS KNIGHT ROTATED TWO HUNDRED TWENTY-FIVE DEGREES",
  "1fa33 WHITE CHESS KING ROTATED TWO HUNDRED SEVENTY DEGREES",
  "1fa34 WHITE CHESS QUEEN ROTATED TWO HUNDRED SEVENTY DEGREES",
  "1fa35 WHITE CHESS ROOK ROTATED TWO HUNDRED SEVENTY DEGREES",
  "1fa36 WHITE CHESS BISHOP ROTATED TWO HUNDRED SEVENTY DEGREES",
  "1fa37 WHITE CHESS KNIGHT ROTATED TWO HUNDRED SEVENTY DEGREES",
  "1fa38 WHITE CHESS PAWN ROTATED TWO HUNDRED SEVENTY DEGREES",
  "1fa39 BLACK CHESS KING ROTATED TWO HUNDRED SEVENTY DEGREES",
  "1fa3a BLACK CHESS QUEEN ROTATED TWO HUNDRED SEVENTY DEGREES",
  "1fa3b BLACK CHESS ROOK ROTATED TWO HUNDRED SEVENTY DEGREES",
  "1fa3c BLACK CHESS BISHOP ROTATED TWO HUNDRED SEVENTY DEGREES",
  "1fa3d BLACK CHESS KNIGHT ROTATED TWO HUNDRED SEVENTY DEGREES",
  "1fa3e BLACK CHESS PAWN ROTATED TWO HUNDRED SEVENTY DEGREES",
  "1fa3f NEUTRAL CHESS KING ROTATED TWO HUNDRED SEVENTY DEGREES",
  "1fa40 NEUTRAL CHESS QUEEN ROTATED TWO HUNDRED SEVENTY DEGREES",
  "1fa41 NEUTRAL CHESS ROOK ROTATED TWO HUNDRED SEVENTY DEGREES",
  "1fa42 NEUTRAL CHESS BISHOP ROTATED TWO HUNDRED SEVENTY DEGREES",
  "1fa43 NEUTRAL CHESS KNIGHT ROTATED TWO HUNDRED SEVENTY DEGREES",
  "1fa44 NEUTRAL CHESS PAWN ROTATED TWO HUNDRED SEVENTY DEGREES",
  "1fa45 WHITE CHESS KNIGHT ROTATED THREE HUNDRED FIFTEEN DEGREES",
  "1fa46 BLACK CHESS KNIGHT ROTATED THREE HUNDRED FIFTEEN DEGREES",
  "1fa47 NEUTRAL CHESS KNIGHT ROTATED THREE HUNDRED FIFTEEN DEGREES;0WHITE CHESS EQUIHOPPER",
  "1fa49 BLACK CHESS EQUIHOPPER;0NEUTRAL CHESS EQUIHOPPER",
  "1fa4b WHITE CHESS EQUIHOPPER ROTATED NINETY DEGREES",
  "1fa4c BLACK CHESS EQUIHOPPER ROTATED NINETY DEGREES",
  "1fa4d NEUTRAL CHESS EQUIHOPPER ROTATED NINETY DEGREES;0WHITE CHESS KNIGHT-QUEEN;2KNIGHT-ROOK",
  "1fa50 WHITE CHESS KNIGHT-BISHOP;0BLACK CHESS KNIGHT-QUEEN;2KNIGHT-ROOK;2KNIGHT-BISHOP",
  "1fa60 XIANGQI RED GENERAL;2MANDARIN;2ELEPHANT;2HORSE;2CHARIOT;2CANNON;2SOLDIER;1BLACK GENERAL",
  "1fa68 XIANGQI BLACK MANDARIN;2ELEPHANT;2HORSE;2CHARIOT;2CANNON;2SOLDIER",
  "1fa70 BALLET SHOES;0ONE-PIECE SWIMSUIT;0BRIEFS;0SHORTS;0THONG SANDAL",
  "1fa78 DROP OF BLOOD;0ADHESIVE BANDAGE;0STETHOSCOPE;0X-RAY;0CRUTCH",
  "1fa80 YO-YO;0KITE;0PARACHUTE;0BOOMERANG;0MAGIC WAND;0PINATA;0NESTING DOLLS",
  "1fa90 RINGED PLANET;0CHAIR;0RAZOR;0AXE;0DIYA LAMP;0BANJO;0MILITARY HELMET;0ACCORDION;0LONG DRUM",
  "1fa99 COIN;0CARPENTRY SAW;0SCREWDRIVER;0LADDER;0HOOK;0MIRROR;0WINDOW;0PLUNGER;0SEWING NEEDLE",
  "1faa2 KNOT;0BUCKET;0MOUSE TRAP;0TOOTHBRUSH;0HEADSTONE;0PLACARD;0ROCK;0MIRROR BALL",
  "1faaa IDENTIFICATION CARD;0LOW BATTERY;0HAMSA",
  "1fab0 FLY;0WORM;0BEETLE;0COCKROACH;0POTTED PLANT;0WOOD;0FEATHER;0LOTUS;0CORAL;0EMPTY NEST",
  "1faba NEST WITH EGGS",
  "1fac0 ANATOMICAL HEART;0LUNGS;0PEOPLE HUGGING;0PREGNANT MAN;1PERSON;0PERSON WITH CROWN",
  "1fad0 BLUEBERRIES;0BELL PEPPER;0OLIVE;0FLATBREAD;0TAMALE;0FONDUE;0TEAPOT;0POURING LIQUID;0BEANS",
  "1fad9 JAR",
  "1fae0 MELTING FACE;0SALUTING FACE;0FACE WITH OPEN EYES AND HAND OVER MOUTH;2PEEKING EYE",
  "1fae4 FACE WITH DIAGONAL MOUTH;0DOTTED LINE FACE;0BITING LIP;0BUBBLES",
  "1faf0 HAND WITH INDEX FINGER AND THUMB CROSSED;0RIGHTWARDS HAND;0LEFTWARDS HAND;0PALM DOWN HAND",
  "1faf4 PALM UP HAND;0INDEX POINTING AT THE VIEWER;0HEART HANDS",
  "1fb00 BLOCK SEXTANT-1;1SEXTANT-2;1SEXTANT-12;1SEXTANT-3;1SEXTANT-13;1SEXTANT-23;1SEXTANT-123",
  "1fb07 BLOCK SEXTANT-4;1SEXTANT-14;1SEXTANT-24;1SEXTANT-124;1SEXTANT-34;1SEXTANT-134",
  "1fb0d BLOCK SEXTANT-234;1SEXTANT-1234;1SEXTANT-5;1SEXTANT-15;1SEXTANT-25;1SEXTANT-125",
  "1fb13 BLOCK SEXTANT-35;1SEXTANT-235;1SEXTANT-1235;1SEXTANT-45;1SEXTANT-145;1SEXTANT-245",
  "1fb19 BLOCK SEXTANT-1245;1SEXTANT-345;1SEXTANT-1345;1SEXTANT-2345;1SEXTANT-12345;1SEXTANT-6",
  "1fb1f BLOCK SEXTANT-16;1SEXTANT-26;1SEXTANT-126;1SEXTANT-36;1SEXTANT-136;1SEXTANT-236",
  "1fb25 BLOCK SEXTANT-1236;1SEXTANT-46;1SEXTANT-146;1SEXTANT-1246;1SEXTANT-346;1SEXTANT-1346",
  "1fb2b BLOCK SEXTANT-2346;1SEXTANT-12346;1SEXTANT-56;1SEXTANT-156;1SEXTANT-256;1SEXTANT-1256",
  "1fb31 BLOCK SEXTANT-356;1SEXTANT-1356;1SEXTANT-2356;1SEXTANT-12356;1SEXTANT-456;1SEXTANT-1456",
  "1fb37 BLOCK SEXTANT-2456;1SEXTANT-12456;1SEXTANT-3456;1SEXTANT-13456;1SEXTANT-23456",
  "1fb3c LOWER LEFT BLOCK DIAGONAL LOWER MIDDLE LEFT TO LOWER CENTRE;9RIGHT",
  "1fb3e LOWER LEFT BLOCK DIAGONAL UPPER MIDDLE LEFT TO LOWER CENTRE;9RIGHT;5LEFT TO LOWER CENTRE",
  "1fb41 LOWER RIGHT BLOCK DIAGONAL UPPER MIDDLE LEFT TO UPPER CENTRE;9RIGHT",
  "1fb43 LOWER RIGHT BLOCK DIAGONAL LOWER MIDDLE LEFT TO UPPER CENTRE;9RIGHT;5LEFT TO UPPER CENTRE",
  "1fb46 LOWER RIGHT BLOCK DIAGONAL LOWER MIDDLE LEFT TO UPPER MIDDLE RIGHT",
  "1fb47 LOWER RIGHT BLOCK DIAGONAL LOWER CENTRE TO LOWER MIDDLE RIGHT;5LEFT TO LOWER MIDDLE RIGHT",
  "1fb49 LOWER RIGHT BLOCK DIAGONAL LOWER CENTRE TO UPPER MIDDLE RIGHT;5LEFT TO UPPER MIDDLE RIGHT",
  "1fb4b LOWER RIGHT BLOCK DIAGONAL LOWER CENTRE TO UPPER RIGHT",
  "1fb4c LOWER LEFT BLOCK DIAGONAL UPPER CENTRE TO UPPER MIDDLE RIGHT;5LEFT TO UPPER MIDDLE RIGHT",
  "1fb4e LOWER LEFT BLOCK DIAGONAL UPPER CENTRE TO LOWER MIDDLE RIGHT;5LEFT TO LOWER MIDDLE RIGHT",
  "1fb50 LOWER LEFT BLOCK DIAGONAL UPPER CENTRE TO LOWER RIGHT;5MIDDLE LEFT TO LOWER MIDDLE RIGHT",
  "1fb52 UPPER RIGHT BLOCK DIAGONAL LOWER MIDDLE LEFT TO LOWER CENTRE;9RIGHT",
  "1fb54 UPPER RIGHT BLOCK DIAGONAL UPPER MIDDLE LEFT TO LOWER CENTRE;9RIGHT;5LEFT TO LOWER CENTRE",
  "1fb57 UPPER LEFT BLOCK DIAGONAL UPPER MIDDLE LEFT TO UPPER CENTRE;9RIGHT",
  "1fb59 UPPER LEFT BLOCK DIAGONAL LOWER MIDDLE LEFT TO UPPER CENTRE;9RIGHT;5LEFT TO UPPER CENTRE",
  "1fb5c UPPER LEFT BLOCK DIAGONAL LOWER MIDDLE LEFT TO UPPER MIDDLE RIGHT",
  "1fb5d UPPER LEFT BLOCK DIAGONAL LOWER CENTRE TO LOWER MIDDLE RIGHT;5LEFT TO LOWER MIDDLE RIGHT",
  "1fb5f UPPER LEFT BLOCK DIAGONAL LOWER CENTRE TO UPPER MIDDLE RIGHT;5LEFT TO UPPER MIDDLE RIGHT",
  "1fb61 UPPER LEFT BLOCK DIAGONAL LOWER CENTRE TO UPPER RIGHT",
  "1fb62 UPPER RIGHT BLOCK DIAGONAL UPPER CENTRE TO UPPER MIDDLE RIGHT;5LEFT TO UPPER MIDDLE RIGHT",
  "1fb64 UPPER RIGHT BLOCK DIAGONAL UPPER CENTRE TO LOWER MIDDLE RIGHT;5LEFT TO LOWER MIDDLE RIGHT",
  "1fb66 UPPER RIGHT BLOCK DIAGONAL UPPER CENTRE TO LOWER RIGHT;5MIDDLE LEFT TO LOWER MIDDLE RIGHT",
  "1fb68 UPPER AND RIGHT AND LOWER TRIANGULAR THREE QUARTERS BLOCK",
  "1fb69 LEFT AND LOWER AND RIGHT TRIANGULAR THREE QUARTERS BLOCK",
  "1fb6a UPPER AND LEFT AND LOWER TRIANGULAR THREE QUARTERS BLOCK",
  "1fb6b LEFT AND UPPER AND RIGHT TRIANGULAR THREE QUARTERS BLOCK;1TRIANGULAR ONE QUARTER BLOCK",
  "1fb6d UPPER TRIANGULAR ONE QUARTER BLOCK;0RIGHT TRIANGULAR ONE QUARTER BLOCK",
  "1fb6f LOWER TRIANGULAR ONE QUARTER BLOCK;0VERTICAL ONE EIGHTH BLOCK-2;3BLOCK-3;3BLOCK-4",
  "1fb73 VERTICAL ONE EIGHTH BLOCK-5;3BLOCK-6;3BLOCK-7;0HORIZONTAL ONE EIGHTH BLOCK-2;3BLOCK-3",
  "1fb78 HORIZONTAL ONE EIGHTH BLOCK-4;3BLOCK-5;3BLOCK-6;3BLOCK-7;0LEFT AND LOWER ONE EIGHTH BLOCK",
  "1fb7d LEFT AND UPPER ONE EIGHTH BLOCK;0RIGHT AND UPPER ONE EIGHTH BLOCK;2LOWER ONE EIGHTH BLOCK",
  "1fb80 UPPER AND LOWER ONE EIGHTH BLOCK;0HORIZONTAL ONE EIGHTH BLOCK-1358",
  "1fb82 UPPER ONE QUARTER BLOCK;1THREE EIGHTHS BLOCK;1FIVE EIGHTHS BLOCK;1THREE QUARTERS BLOCK",
  "1fb86 UPPER SEVEN EIGHTHS BLOCK;0RIGHT ONE QUARTER BLOCK;1THREE EIGHTHS BLOCK",
  "1fb89 RIGHT FIVE EIGHTHS BLOCK;1THREE QUARTERS BLOCK;1SEVEN EIGHTHS BLOCK",
  "1fb8c LEFT HALF MEDIUM SHADE;0RIGHT HALF MEDIUM SHADE;0UPPER HALF MEDIUM SHADE",
  "1fb8f LOWER HALF MEDIUM SHADE;0INVERSE MEDIUM SHADE",
  "1fb91 UPPER HALF BLOCK AND LOWER HALF INVERSE MEDIUM SHADE",
  "1fb92 UPPER HALF INVERSE MEDIUM SHADE AND LOWER HALF BLOCK",
  "1fb94 LEFT HALF INVERSE MEDIUM SHADE AND RIGHT HALF BLOCK;0CHECKER BOARD FILL",
  "1fb96 INVERSE CHECKER BOARD FILL;0HEAVY HORIZONTAL FILL;0UPPER LEFT TO LOWER RIGHT FILL",
  "1fb99 UPPER RIGHT TO LOWER LEFT FILL;1AND LOWER TRIANGULAR HALF BLOCK",
  "1fb9b LEFT AND RIGHT TRIANGULAR HALF BLOCK;0UPPER LEFT TRIANGULAR MEDIUM SHADE",
  "1fb9d UPPER RIGHT TRIANGULAR MEDIUM SHADE;0LOWER RIGHT TRIANGULAR MEDIUM SHADE",
  "1fb9f LOWER LEFT TRIANGULAR MEDIUM SHADE",
  "1fba0 BOX DRAWINGS LIGHT DIAGONAL UPPER CENTRE TO MIDDLE LEFT;8RIGHT",
  "1fba2 BOX DRAWINGS LIGHT DIAGONAL MIDDLE LEFT TO LOWER CENTRE;5RIGHT TO LOWER CENTRE",
  "1fba4 BOX DRAWINGS LIGHT DIAGONAL UPPER CENTRE TO MIDDLE LEFT TO LOWER CENTRE",
  "1fba5 BOX DRAWINGS LIGHT DIAGONAL UPPER CENTRE TO MIDDLE RIGHT TO LOWER CENTRE",
  "1fba6 BOX DRAWINGS LIGHT DIAGONAL MIDDLE LEFT TO LOWER CENTRE TO MIDDLE RIGHT",
  "1fba7 BOX DRAWINGS LIGHT DIAGONAL MIDDLE LEFT TO UPPER CENTRE TO MIDDLE RIGHT",
  "1fba8 BOX DRAWINGS LIGHT DIAGONAL UPPER CENTRE TO MIDDLE LEFT AND MIDDLE RIGHT TO LOWER CENTRE",
  "1fba9 BOX DRAWINGS LIGHT DIAGONAL UPPER CENTRE TO MIDDLE RIGHT AND MIDDLE LEFT TO LOWER CENTRE",
  "1fbaa BOX DRAWINGS LIGHT DIAGONAL UPPER CENTRE TO MIDDLE RIGHT TO LOWER CENTRE TO MIDDLE LEFT",
  "1fbab BOX DRAWINGS LIGHT DIAGONAL UPPER CENTRE TO MIDDLE LEFT TO LOWER CENTRE TO MIDDLE RIGHT",
  "1fbac BOX DRAWINGS LIGHT DIAGONAL MIDDLE LEFT TO UPPER CENTRE TO MIDDLE RIGHT TO LOWER CENTRE",
  "1fbad BOX DRAWINGS LIGHT DIAGONAL MIDDLE RIGHT TO UPPER CENTRE TO MIDDLE LEFT TO LOWER CENTRE",
  "1fbae BOX DRAWINGS LIGHT DIAGONAL DIAMOND;3HORIZONTAL WITH VERTICAL STROKE",
  "1fbb0 ARROWHEAD-SHAPED POINTER;0INVERSE CHECK MARK;0LEFT HALF RUNNING MAN",
  "1fbb3 RIGHT HALF RUNNING MAN;0INVERSE DOWNWARDS ARROW WITH TIP LEFTWARDS",
  "1fbb5 LEFTWARDS ARROW AND UPPER AND LOWER ONE EIGHTH BLOCK",
  "1fbb6 RIGHTWARDS ARROW AND UPPER AND LOWER ONE EIGHTH BLOCK",
  "1fbb7 DOWNWARDS ARROW AND RIGHT ONE EIGHTH BLOCK;0UPWARDS ARROW AND RIGHT ONE EIGHTH BLOCK",
  "1fbb9 LEFT HALF FOLDER;0RIGHT HALF FOLDER;0VOIDED GREEK CROSS;0RIGHT OPEN SQUARED DOT",
  "1fbbd NEGATIVE DIAGONAL CROSS;2MIDDLE RIGHT TO LOWER CENTRE;2DIAMOND",
  "1fbc0 WHITE HEAVY SALTIRE WITH ROUNDED CORNERS;0LEFT THIRD WHITE RIGHT POINTING INDEX",
  "1fbc2 MIDDLE THIRD WHITE RIGHT POINTING INDEX;0RIGHT THIRD WHITE RIGHT POINTING INDEX",
  "1fbc4 NEGATIVE SQUARED QUESTION MARK;0STICK FIGURE;2WITH ARMS RAISED;2LEANING LEFT;3RIGHT",
  "1fbc9 STICK FIGURE WITH DRESS;0WHITE UP-POINTING CHEVRON",
  "1fbf0 SEGMENTED DIGIT ZERO;2ONE;2TWO;2THREE;2FOUR;2FIVE;2SIX;2SEVEN;2EIGHT;2NINE",
  "e0001 LANGUAGE TAG",
  "e0020 TAG SPACE;1EXCLAMATION MARK;1QUOTATION MARK;1NUMBER SIGN;1DOLLAR SIGN;1PERCENT SIGN",
  "e0026 TAG AMPERSAND;1APOSTROPHE;1LEFT PARENTHESIS;1RIGHT PARENTHESIS;1ASTERISK;1PLUS SIGN",
  "e002c TAG COMMA;1HYPHEN-MINUS;1FULL STOP;1SOLIDUS;1DIGIT ZERO;2ONE;2TWO;2THREE;2FOUR;2FIVE;2SIX",
  "e0037 TAG DIGIT SEVEN;2EIGHT;2NINE;1COLON;1SEMICOLON;1LESS-THAN SIGN;1EQUALS SIGN",
  "e003e TAG GREATER-THAN SIGN;1QUESTION MARK;1COMMERCIAL AT;1LATIN CAPITAL LETTER A;4B;4C;4D;4E",
  "e0046 TAG LATIN CAPITAL LETTER F;4G;4H;4I;4J;4K;4L;4M;4N;4O;4P;4Q;4R;4S;4T;4U;4V;4W;4X;4Y;4Z",
  "e005b TAG LEFT SQUARE BRACKET;1REVERSE SOLIDUS;1RIGHT SQUARE BRACKET;1CIRCUMFLEX ACCENT",
  "e005f TAG LOW LINE;1GRAVE ACCENT;1LATIN SMALL LETTER A;4B;4C;4D;4E;4F;4G;4H;4I;4J;4K;4L;4M;4N",
  "e006f TAG LATIN SMALL LETTER O;4P;4Q;4R;4S;4T;4U;4V;4W;4X;4Y;4Z;1LEFT CURLY BRACKET",
  "e007c TAG VERTICAL LINE;1RIGHT CURLY BRACKET;1TILDE;0CANCEL TAG",
  "e0100 VARIATION SELECTOR-17;1SELECTOR-18;1SELECTOR-19;1SELECTOR-20;1SELECTOR-21;1SELECTOR-22",
  "e0106 VARIATION SELECTOR-23;1SELECTOR-24;1SELECTOR-25;1SELECTOR-26;1SELECTOR-27;1SELECTOR-28",
  "e010c VARIATION SELECTOR-29;1SELECTOR-30;1SELECTOR-31;1SELECTOR-32;1SELECTOR-33;1SELECTOR-34",
  "e0112 VARIATION SELECTOR-35;1SELECTOR-36;1SELECTOR-37;1SELECTOR-38;1SELECTOR-39;1SELECTOR-40",
  "e0118 VARIATION SELECTOR-41;1SELECTOR-42;1SELECTOR-43;1SELECTOR-44;1SELECTOR-45;1SELECTOR-46",
  "e011e VARIATION SELECTOR-47;1SELECTOR-48;1SELECTOR-49;1SELECTOR-50;1SELECTOR-51;1SELECTOR-52",
  "e0124 VARIATION SELECTOR-53;1SELECTOR-54;1SELECTOR-55;1SELECTOR-56;1SELECTOR-57;1SELECTOR-58",
  "e012a VARIATION SELECTOR-59;1SELECTOR-60;1SELECTOR-61;1SELECTOR-62;1SELECTOR-63;1SELECTOR-64",
  "e0130 VARIATION SELECTOR-65;1SELECTOR-66;1SELECTOR-67;1SELECTOR-68;1SELECTOR-69;1SELECTOR-70",
  "e0136 VARIATION SELECTOR-71;1SELECTOR-72;1SELECTOR-73;1SELECTOR-74;1SELECTOR-75;1SELECTOR-76",
  "e013c VARIATION SELECTOR-77;1SELECTOR-78;1SELECTOR-79;1SELECTOR-80;1SELECTOR-81;1SELECTOR-82",
  "e0142 VARIATION SELECTOR-83;1SELECTOR-84;1SELECTOR-85;1SELECTOR-86;1SELECTOR-87;1SELECTOR-88",
  "e0148 VARIATION SELECTOR-89;1SELECTOR-90;1SELECTOR-91;1SELECTOR-92;1SELECTOR-93;1SELECTOR-94",
  "e014e VARIATION SELECTOR-95;1SELECTOR-96;1SELECTOR-97;1SELECTOR-98;1SELECTOR-99;1SELECTOR-100",
  "e0154 VARIATION SELECTOR-101;1SELECTOR-102;1SELECTOR-103;1SELECTOR-104;1SELECTOR-105",
  "e0159 VARIATION SELECTOR-106;1SELECTOR-107;1SELECTOR-108;1SELECTOR-109;1SELECTOR-110",
  "e015e VARIATION SELECTOR-111;1SELECTOR-112;1SELECTOR-113;1SELECTOR-114;1SELECTOR-115",
  "e0163 VARIATION SELECTOR-116;1SELECTOR-117;1SELECTOR-118;1SELECTOR-119;1SELECTOR-120",
  "e0168 VARIATION SELECTOR-121;1SELECTOR-122;1SELECTOR-123;1SELECTOR-124;1SELECTOR-125",
  "e016d VARIATION SELECTOR-126;1SELECTOR-127;1SELECTOR-128;1SELECTOR-129;1SELECTOR-130",
  "e0172 VARIATION SELECTOR-131;1SELECTOR-132;1SELECTOR-133;1SELECTOR-134;1SELECTOR-135",
  "e0177 VARIATION SELECTOR-136;1SELECTOR-137;1SELECTOR-138;1SELECTOR-139;1SELECTOR-140",
  "e017c VARIATION SELECTOR-141;1SELECTOR-142;1SELECTOR-143;1SELECTOR-144;1SELECTOR-145",
  "e0181 VARIATION SELECTOR-146;1SELECTOR-147;1SELECTOR-148;1SELECTOR-149;1SELECTOR-150",
  "e0186 VARIATION SELECTOR-151;1SELECTOR-152;1SELECTOR-153;1SELECTOR-154;1SELECTOR-155",
  "e018b VARIATION SELECTOR-156;1SELECTOR-157;1SELECTOR-158;1SELECTOR-159;1SELECTOR-160",
  "e0190 VARIATION SELECTOR-161;1SELECTOR-162;1SELECTOR-163;1SELECTOR-164;1SELECTOR-165",
  "e0195 VARIATION SELECTOR-166;1SELECTOR-167;1SELECTOR-168;1SELECTOR-169;1SELECTOR-170",
  "e019a VARIATION SELECTOR-171;1SELECTOR-172;1SELECTOR-173;1SELECTOR-174;1SELECTOR-175",
  "e019f VARIATION SELECTOR-176;1SELECTOR-177;1SELECTOR-178;1SELECTOR-179;1SELECTOR-180",
  "e01a4 VARIATION SELECTOR-181;1SELECTOR-182;1SELECTOR-183;1SELECTOR-184;1SELECTOR-185",
  "e01a9 VARIATION SELECTOR-186;1SELECTOR-187;1SELECTOR-188;1SELECTOR-189;1SELECTOR-190",
  "e01ae VARIATION SELECTOR-191;1SELECTOR-192;1SELECTOR-193;1SELECTOR-194;1SELECTOR-195",
  "e01b3 VARIATION SELECTOR-196;1SELECTOR-197;1SELECTOR-198;1SELECTOR-199;1SELECTOR-200",
  "e01b8 VARIATION SELECTOR-201;1SELECTOR-202;1SELECTOR-203;1SELECTOR-204;1SELECTOR-205",
  "e01bd VARIATION SELECTOR-206;1SELECTOR-207;1SELECTOR-208;1SELECTOR-209;1SELECTOR-210",
  "e01c2 VARIATION SELECTOR-211;1SELECTOR-212;1SELECTOR-213;1SELECTOR-214;1SELECTOR-215",
  "e01c7 VARIATION SELECTOR-216;1SELECTOR-217;1SELECTOR-218;1SELECTOR-219;1SELECTOR-220",
  "e01cc VARIATION SELECTOR-221;1SELECTOR-222;1SELECTOR-223;1SELECTOR-224;1SELECTOR-225",
  "e01d1 VARIATION SELECTOR-226;1SELECTOR-227;1SELECTOR-228;1SELECTOR-229;1SELECTOR-230",
  "e01d6 VARIATION SELECTOR-231;1SELECTOR-232;1SELECTOR-233;1SELECTOR-234;1SELECTOR-235",
  "e01db VARIATION SELECTOR-236;1SELECTOR-237;1SELECTOR-238;1SELECTOR-239;1SELECTOR-240",
  "e01e0 VARIATION SELECTOR-241;1SELECTOR-242;1SELECTOR-243;1SELECTOR-244;1SELECTOR-245",
  "e01e5 VARIATION SELECTOR-246;1SELECTOR-247;1SELECTOR-248;1SELECTOR-249;1SELECTOR-250",
  "e01ea VARIATION SELECTOR-251;1SELECTOR-252;1SELECTOR-253;1SELECTOR-254;1SELECTOR-255",
  "e01ef VARIATION SELECTOR-256"]

end RuleReview.Text.Table.CharacterName
