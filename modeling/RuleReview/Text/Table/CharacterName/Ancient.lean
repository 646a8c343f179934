/-! The names of characters from 10000 to 12FFF. -/

namespace RuleReview.Text.Table.CharacterName

/-- The first character of a row and its name, then the names of those that follow, each with
the number of words that it has in common with the one before. -/
def ancient : List String := [
  "10000 LINEAR B SYLLABLE B008 A;3B038 E;3B028 I;3B061 O;3B010 U;3B001 DA;3B045 DE;3B007 DI",
  "10008 LINEAR B SYLLABLE B014 DO;3B051 DU;3B057 JA;3B046 JE",
  "1000d LINEAR B SYLLABLE B036 JO;3B065 JU;3B077 KA;3B044 KE;3B067 KI;3B070 KO;3B081 KU;3B080 MA",
  "10015 LINEAR B SYLLABLE B013 ME;3B073 MI;3B015 MO;3B023 MU;3B006 NA;3B024 NE;3B030 NI;3B052 NO",
  "1001d LINEAR B SYLLABLE B055 NU;3B003 PA;3B072 PE;3B039 PI;3B011 PO;3B050 PU;3B016 QA;3B078 QE",
  "10025 LINEAR B SYLLABLE B021 QI;3B032 QO",
  "10028 LINEAR B SYLLABLE B060 RA;3B027 RE;3B053 RI;3B002 RO;3B026 RU;3B031 SA;3B009 SE;3B041 SI",
  "10030 LINEAR B SYLLABLE B012 SO;3B058 SU;3B059 TA;3B004 TE;3B037 TI;3B005 TO;3B069 TU;3B054 WA",
  "10038 LINEAR B SYLLABLE B075 WE;3B040 WI;3B042 WO",
  "1003c LINEAR B SYLLABLE B017 ZA;3B074 ZE",
  "1003f LINEAR B SYLLABLE B020 ZO;3B025 A2;3B043 A3;3B085 AU;3B071 DWE;3B090 DWO;3B048 NWA",
  "10046 LINEAR B SYLLABLE B029 PU2;3B062 PTE;3B076 RA2;3B033 RA3;3B068 RO2;3B066 TA2;3B087 TWE",
  "1004d LINEAR B SYLLABLE B091 TWO",
  "10050 LINEAR B SYMBOL B018;3B019;3B022;3B034;3B047;3B049;3B056;3B063;3B064;3B079;3B082;3B083",
  "1005c LINEAR B SYMBOL B086;3B089",
  "10080 LINEAR B IDEOGRAM B100 MAN;3B102 WOMAN;3B104 DEER;3B105 EQUID;3B105F MARE;3B105M STALLION",
  "10086 LINEAR B IDEOGRAM B106F EWE;3B106M RAM;3B107F SHE-GOAT;3B107M HE-GOAT;3B108F SOW",
  "1008b LINEAR B IDEOGRAM B108M BOAR;3B109F COW;3B109M BULL;3B120 WHEAT;3B121 BARLEY;3B122 OLIVE",
  "10091 LINEAR B IDEOGRAM B123 SPICE;3B125 CYPERUS;2MONOGRAM B127 KAPO;3B128 KANAKO",
  "10095 LINEAR B IDEOGRAM B130 OIL;3B131 WINE;3B132;2MONOGRAM B133 AREPA;3B135 MERI",
  "1009a LINEAR B IDEOGRAM B140 BRONZE;3B141 GOLD;3B142;3B145 WOOL;3B146;3B150;3B151 HORN;3B152",
  "100a2 LINEAR B IDEOGRAM B153;3B154;2MONOGRAM B156 TURO2;2IDEOGRAM B157;3B158;3B159 CLOTH;3B160",
  "100a9 LINEAR B IDEOGRAM B161;3B162 GARMENT;3B163 ARMOUR;3B164;3B165;3B166;3B167;3B168;3B169",
  "100b2 LINEAR B IDEOGRAM B170;3B171;3B172;3B173 MONTH;3B174;3B176 TREE;3B177;3B178;3B179;3B180",
  "100bc LINEAR B IDEOGRAM B181;3B182;3B183;3B184;3B185;3B189;3B190;3B191 HELMET;3B220 FOOTSTOOL",
  "100c5 LINEAR B IDEOGRAM B225 BATHTUB;3B230 SPEAR;3B231 ARROW;3B232;3B233 SWORD;3B234;3B236",
  "100cc LINEAR B IDEOGRAM B240 WHEELED CHARIOT;3B241 CHARIOT;3B242 CHARIOT FRAME;3B243 WHEEL",
  "100d0 LINEAR B IDEOGRAM B245;3B246;2MONOGRAM B247 DIPTE;2IDEOGRAM B248;3B249;3B251;3B252;3B253",
  "100d8 LINEAR B IDEOGRAM B254 DART;3B255;3B256;3B257;3B258;3B259;3VESSEL B155;4B200;4B201;4B202",
  "100e2 LINEAR B IDEOGRAM VESSEL B203;4B204;4B205;4B206;4B207;4B208;4B209;4B210;4B211;4B212;4B213",
  "100ed LINEAR B IDEOGRAM VESSEL B214;4B215;4B216;4B217;4B218;4B219;4B221;4B222;4B226;4B227;4B228",
  "100f8 LINEAR B IDEOGRAM VESSEL B229;4B250;4B305",
  "10100 AEGEAN WORD SEPARATOR LINE;3DOT;1CHECK MARK",
  "10107 AEGEAN NUMBER ONE;2TWO;2THREE;2FOUR;2FIVE;2SIX;2SEVEN;2EIGHT;2NINE;2TEN;2TWENTY;2THIRTY",
  "10113 AEGEAN NUMBER FORTY;2FIFTY;2SIXTY;2SEVENTY;2EIGHTY;2NINETY;2ONE HUNDRED;2TWO HUNDRED",
  "1011b AEGEAN NUMBER THREE HUNDRED;2FOUR HUNDRED;2FIVE HUNDRED;2SIX HUNDRED;2SEVEN HUNDRED",
  "10120 AEGEAN NUMBER EIGHT HUNDRED;2NINE HUNDRED;2ONE THOUSAND;2TWO THOUSAND;2THREE THOUSAND",
  "10125 AEGEAN NUMBER FOUR THOUSAND;2FIVE THOUSAND;2SIX THOUSAND;2SEVEN THOUSAND;2EIGHT THOUSAND",
  "1012a AEGEAN NUMBER NINE THOUSAND;2TEN THOUSAND;2TWENTY THOUSAND;2THIRTY THOUSAND",
  "1012e AEGEAN NUMBER FORTY THOUSAND;2FIFTY THOUSAND;2SIXTY THOUSAND;2SEVENTY THOUSAND",
  "10132 AEGEAN NUMBER EIGHTY THOUSAND;2NINETY THOUSAND",
  "10137 AEGEAN WEIGHT BASE UNIT;2FIRST SUBUNIT;2SECOND SUBUNIT;2THIRD SUBUNIT;2FOURTH SUBUNIT",
  "1013c AEGEAN DRY MEASURE FIRST SUBUNIT;1LIQUID MEASURE FIRST SUBUNIT;1MEASURE SECOND SUBUNIT",
  "1013f AEGEAN MEASURE THIRD SUBUNIT;0GREEK ACROPHONIC ATTIC ONE QUARTER;4HALF;4DRACHMA;3FIVE",
  "10144 GREEK ACROPHONIC ATTIC FIFTY;3FIVE HUNDRED;4THOUSAND;3FIFTY THOUSAND;3FIVE TALENTS",
  "10149 GREEK ACROPHONIC ATTIC TEN TALENTS;3FIFTY TALENTS;3ONE HUNDRED TALENTS",
  "1014c GREEK ACROPHONIC ATTIC FIVE HUNDRED TALENTS;3ONE THOUSAND TALENTS;3FIVE THOUSAND TALENTS",
  "1014f GREEK ACROPHONIC ATTIC FIVE STATERS;3TEN STATERS;3FIFTY STATERS;3ONE HUNDRED STATERS",
  "10153 GREEK ACROPHONIC ATTIC FIVE HUNDRED STATERS;3ONE THOUSAND STATERS;3TEN THOUSAND STATERS",
  "10156 GREEK ACROPHONIC ATTIC FIFTY THOUSAND STATERS;3TEN MNAS;2HERAEUM ONE PLETHRON",
  "10159 GREEK ACROPHONIC THESPIAN ONE;2HERMIONIAN ONE;2EPIDAUREAN TWO;2THESPIAN TWO",
  "1015d GREEK ACROPHONIC CYRENAIC TWO DRACHMAS;2EPIDAUREAN TWO DRACHMAS;2TROEZENIAN FIVE;3TEN",
  "10161 GREEK ACROPHONIC TROEZENIAN TEN ALTERNATE FORM;2HERMIONIAN TEN;2MESSENIAN TEN",
  "10164 GREEK ACROPHONIC THESPIAN TEN;3THIRTY;2TROEZENIAN FIFTY;4ALTERNATE FORM;2HERMIONIAN FIFTY",
  "10169 GREEK ACROPHONIC THESPIAN FIFTY;3ONE HUNDRED;3THREE HUNDRED;2EPIDAUREAN FIVE HUNDRED",
  "1016d GREEK ACROPHONIC TROEZENIAN FIVE HUNDRED;2THESPIAN FIVE HUNDRED;2CARYSTIAN FIVE HUNDRED",
  "10170 GREEK ACROPHONIC NAXIAN FIVE HUNDRED;2THESPIAN ONE THOUSAND;3FIVE THOUSAND",
  "10173 GREEK ACROPHONIC DELPHIC FIVE MNAS;2STRATIAN FIFTY MNAS;1ONE HALF SIGN;4ALTERNATE FORM",
  "10177 GREEK TWO THIRDS SIGN;1THREE QUARTERS SIGN;1YEAR SIGN;1TALENT SIGN;1DRACHMA SIGN",
  "1017c GREEK OBOL SIGN;1TWO OBOLS SIGN;1THREE OBOLS SIGN;1FOUR OBOLS SIGN;1FIVE OBOLS SIGN",
  "10181 GREEK METRETES SIGN;1KYATHOS BASE SIGN;1LITRA SIGN;1OUNKIA SIGN;1XESTES SIGN;1ARTABE SIGN",
  "10187 GREEK AROURA SIGN;1GRAMMA SIGN;1TRYBLION BASE SIGN;1ZERO SIGN;1ONE QUARTER SIGN",
  "1018c GREEK SINUSOID SIGN;1INDICTION SIGN;0NOMISMA SIGN",
  "10190 ROMAN SEXTANS SIGN;1UNCIA SIGN;1SEMUNCIA SIGN;1SEXTULA SIGN;1DIMIDIA SEXTULA SIGN",
  "10195 ROMAN SILIQUA SIGN;1DENARIUS SIGN;1QUINARIUS SIGN;1SESTERTIUS SIGN;1DUPONDIUS SIGN",
  "1019a ROMAN AS SIGN;1CENTURIAL SIGN;0ASCIA SYMBOL",
  "101a0 GREEK SYMBOL TAU RHO",
  "101d0 PHAISTOS DISC SIGN PEDESTRIAN;3PLUMED HEAD;3TATTOOED HEAD;3CAPTIVE;3CHILD;3WOMAN;3HELMET",
  "101d7 PHAISTOS DISC SIGN GAUNTLET;3TIARA;3ARROW;3BOW;3SHIELD;3CLUB;3MANACLES;3MATTOCK;3SAW;3LID",
  "101e1 PHAISTOS DISC SIGN BOOMERANG;3CARPENTRY PLANE;3DOLIUM;3COMB;3SLING;3COLUMN;3BEEHIVE;3SHIP",
  "101e9 PHAISTOS DISC SIGN HORN;3HIDE;3BULLS LEG;3CAT;3RAM;3EAGLE;3DOVE;3TUNNY;3BEE;3PLANE TREE",
  "101f3 PHAISTOS DISC SIGN VINE;3PAPYRUS;3ROSETTE;3LILY;3OX BACK;3FLUTE;3GRATER;3STRAINER",
  "101fb PHAISTOS DISC SIGN SMALL AXE;3WAVY BAND;3COMBINING OBLIQUE STROKE",
  "10280 LYCIAN LETTER A;2E;2B;2BH;2G;2D;2I;2W;2Z;2TH;2J;2K;2Q;2L;2M;2N;2MM;2NN;2U;2P;2KK;2R;2S;2T",
  "10298 LYCIAN LETTER TT;2AN;2EN;2H;2X",
  "102a0 CARIAN LETTER A;2P2;2D;2L;2UUU;2R;2LD;2A2;2Q;2B;2M;2O;2D2;2T;2SH;2SH2;2S;2C-18;2U;2NN;2X",
  "102b5 CARIAN LETTER N;2TT2;2P;2SS;2I;2E;2UUUU;2K;2K2;2ND;2UU;2G;2G2;2ST;2ST2;2NG;2II;2C-39;2TT",
  "102c8 CARIAN LETTER UUU2;2RR;2MB;2MB2;2MB3;2MB4;2LD2;2E2;2UUU3",
  "102e0 COPTIC EPACT THOUSANDS MARK;2DIGIT ONE;3TWO;3THREE;3FOUR;3FIVE;3SIX;3SEVEN;3EIGHT;3NINE",
  "102ea COPTIC EPACT NUMBER TEN;3TWENTY;3THIRTY;3FORTY;3FIFTY;3SIXTY;3SEVENTY;3EIGHTY;3NINETY",
  "102f3 COPTIC EPACT NUMBER ONE HUNDRED;3TWO HUNDRED;3THREE HUNDRED;3FOUR HUNDRED;3FIVE HUNDRED",
  "102f8 COPTIC EPACT NUMBER SIX HUNDRED;3SEVEN HUNDRED;3EIGHT HUNDRED;3NINE HUNDRED",
  "10300 OLD ITALIC LETTER A;3BE;3KE;3DE;3E;3VE;3ZE;3HE;3THE;3I;3KA;3EL;3EM;3EN;3ESH;3O;3PE;3SHE",
  "10312 OLD ITALIC LETTER KU;3ER;3ES;3TE;3U;3EKS;3PHE;3KHE;3EF;3ERS;3CHE;3II;3UU;3ESS",
  "10320 OLD ITALIC NUMERAL ONE;3FIVE;3TEN;3FIFTY",
  "1032d OLD ITALIC LETTER YE;3NORTHERN TSE;3SOUTHERN TSE;0GOTHIC LETTER AHSA;2BAIRKAN;2GIBA;2DAGS",
  "10334 GOTHIC LETTER AIHVUS;2QAIRTHRA;2IUJA;2HAGL;2THIUTH;2EIS;2KUSMA;2LAGUS;2MANNA;2NAUTHS;2JER",
  "1033f GOTHIC LETTER URUS;2PAIRTHRA;2NINETY;2RAIDA;2SAUIL;2TEIWS;2WINJA;2FAIHU;2IGGWS;2HWAIR",
  "10349 GOTHIC LETTER OTHAL;2NINE HUNDRED",
  "10350 OLD PERMIC LETTER AN;3BUR;3GAI;3DOI;3E;3ZHOI;3DZHOI;3ZATA;3DZITA;3I;3KOKE;3LEI;3MENOE",
  "1035d OLD PERMIC LETTER NENOE;3VOOI;3PEEI;3REI;3SII;3TAI;3U;3CHERY;3SHOOI;3SHCHOOI;3YRY;3YERU",
  "10369 OLD PERMIC LETTER O;3OO;3EF;3HA;3TSIU;3VER;3YER;3YERI;3YAT;3IE;3YU;3YA;3IA",
  "10376 COMBINING OLD PERMIC LETTER AN;4DOI;4ZATA;4NENOE;4SII",
  "10380 UGARITIC LETTER ALPA;2BETA;2GAMLA;2KHA;2DELTA;2HO;2WO;2ZETA;2HOTA;2TET;2YOD;2KAF;2SHIN",
  "1038d UGARITIC LETTER LAMDA;2MEM;2DHAL;2NUN;2ZU;2SAMKA;2AIN;2PU;2SADE;2QOPA;2RASHA;2THANNA",
  "10399 UGARITIC LETTER GHAIN;2TO;2I;2U;2SSU",
  "1039f UGARITIC WORD DIVIDER;0OLD PERSIAN SIGN A;3I;3U;3KA;3KU;3GA;3GU;3XA;3CA;3JA;3JI;3TA;3TU",
  "103ad OLD PERSIAN SIGN DA;3DI;3DU;3THA;3PA;3BA;3FA;3NA;3NU;3MA;3MI;3MU;3YA;3VA;3VI;3RA;3RU;3LA",
  "103bf OLD PERSIAN SIGN SA;3ZA;3SHA;3SSA;3HA",
  "103c8 OLD PERSIAN SIGN AURAMAZDAA;3AURAMAZDAA-2;3AURAMAZDAAHA;3XSHAAYATHIYA;3DAHYAAUSH",
  "103cd OLD PERSIAN SIGN DAHYAAUSH-2;3BAGA;3BUUMISH;2WORD DIVIDER;2NUMBER ONE;3TWO;3TEN;3TWENTY",
  "103d5 OLD PERSIAN NUMBER HUNDRED",
  "10400 DESERET CAPITAL LETTER LONG I;4E;4A;4AH;4O;4OO;3SHORT I;4E;4A;4AH;4O;4OO;3AY;3OW;3WU;3YEE",
  "10410 DESERET CAPITAL LETTER H;3PEE;3BEE;3TEE;3DEE;3CHEE;3JEE;3KAY;3GAY;3EF;3VEE;3ETH;3THEE;3ES",
  "1041e DESERET CAPITAL LETTER ZEE;3ESH;3ZHEE;3ER;3EL;3EM;3EN;3ENG;3OI;3EW;1SMALL LETTER LONG I",
  "10429 DESERET SMALL LETTER LONG E;4A;4AH;4O;4OO;3SHORT I;4E;4A;4AH;4O;4OO;3AY;3OW;3WU;3YEE;3H",
  "10439 DESERET SMALL LETTER PEE;3BEE;3TEE;3DEE;3CHEE;3JEE;3KAY;3GAY;3EF;3VEE;3ETH;3THEE;3ES;3ZEE",
  "10447 DESERET SMALL LETTER ESH;3ZHEE;3ER;3EL;3EM;3EN;3ENG;3OI;3EW;0SHAVIAN LETTER PEEP;2TOT",
  "10452 SHAVIAN LETTER KICK;2FEE;2THIGH;2SO;2SURE;2CHURCH;2YEA;2HUNG;2BIB;2DEAD;2GAG;2VOW;2THEY",
  "1045f SHAVIAN LETTER ZOO;2MEASURE;2JUDGE;2WOE;2HA-HA;2LOLL;2MIME;2IF;2EGG;2ASH;2ADO;2ON;2WOOL",
  "1046c SHAVIAN LETTER OUT;2AH;2ROAR;2NUN;2EAT;2AGE;2ICE;2UP;2OAK;2OOZE;2OIL;2AWE;2ARE;2OR;2AIR",
  "1047b SHAVIAN LETTER ERR;2ARRAY;2EAR;2IAN;2YEW;0OSMANYA LETTER ALEF;2BA;2TA;2JA;2XA;2KHA;2DEEL",
  "10487 OSMANYA LETTER RA;2SA;2SHIIN;2DHA;2CAYN;2GA;2FA;2QAAF;2KAAF;2LAAN;2MIIN;2NUUN;2WAW;2HA",
  "10495 OSMANYA LETTER YA;2A;2E;2I;2O;2U;2AA;2EE;2OO",
  "104a0 OSMANYA DIGIT ZERO;2ONE;2TWO;2THREE;2FOUR;2FIVE;2SIX;2SEVEN;2EIGHT;2NINE",
  "104b0 OSAGE CAPITAL LETTER A;3AI;3AIN;3AH;3BRA;3CHA;3EHCHA;3E;3EIN;3HA;3HYA;3I;3KA;3EHKA;3KYA",
  "104bf OSAGE CAPITAL LETTER LA;3MA;3NA;3O;3OIN;3PA;3EHPA;3SA;3SHA;3TA;3EHTA;3TSA;3EHTSA;3TSHA",
  "104cd OSAGE CAPITAL LETTER DHA;3U;3WA;3KHA;3GHA;3ZA;3ZHA",
  "104d8 OSAGE SMALL LETTER A;3AI;3AIN;3AH;3BRA;3CHA;3EHCHA;3E;3EIN;3HA;3HYA;3I;3KA;3EHKA;3KYA;3LA",
  "104e8 OSAGE SMALL LETTER MA;3NA;3O;3OIN;3PA;3EHPA;3SA;3SHA;3TA;3EHTA;3TSA;3EHTSA;3TSHA;3DHA;3U",
  "104f7 OSAGE SMALL LETTER WA;3KHA;3GHA;3ZA;3ZHA",
  "10500 ELBASAN LETTER A;2BE;2CE;2CHE;2DE;2NDE;2DHE;2EI;2E;2FE;2GE;2GJE;2HE;2I;2JE;2KE;2LE;2LLE",
  "10512 ELBASAN LETTER ME;2NE;2NA;2NJE;2O;2PE;2QE;2RE;2RRE;2SE;2SHE;2TE;2THE;2U;2VE;2XE;2Y;2ZE",
  "10524 ELBASAN LETTER ZHE;2GHE;2GHAMMA;2KHE",
  "10530 CAUCASIAN ALBANIAN LETTER ALT;3BET;3GIM;3DAT;3EB;3ZARL;3EYN;3ZHIL;3TAS;3CHA;3YOWD;3ZHA",
  "1053c CAUCASIAN ALBANIAN LETTER IRB;3SHA;3LAN;3INYA;3XEYN;3DYAN;3CAR;3JHOX;3KAR;3LYIT;3HEYT",
  "10547 CAUCASIAN ALBANIAN LETTER QAY;3AOR;3CHOY;3CHI;3CYAY;3MAQ;3QAR;3NOWC;3DZYAY;3SHAK;3JAYN",
  "10552 CAUCASIAN ALBANIAN LETTER ON;3TYAY;3FAM;3DZAY;3CHAT;3PEN;3GHEYS;3RAT;3SEYK;3VEYZ;3TIWR",
  "1055d CAUCASIAN ALBANIAN LETTER SHOY;3IWN;3CYAW;3CAYN;3YAYD;3PIWR;3KIW",
  "1056f CAUCASIAN ALBANIAN CITATION MARK;0VITHKUQI CAPITAL LETTER A;3BBE;3BE;3CE;3CHE;3DE;3DHE",
  "10577 VITHKUQI CAPITAL LETTER EI;3E;3FE;3GA",
  "1057c VITHKUQI CAPITAL LETTER HA;3HHA;3I;3IJE;3JE;3KA;3LA;3LLA;3ME;3NE;3NJE;3O;3PE;3QA;3RE",
  "1058c VITHKUQI CAPITAL LETTER SE;3SHE;3TE;3THE;3U;3VE;3XE",
  "10594 VITHKUQI CAPITAL LETTER Y;3ZE",
  "10597 VITHKUQI SMALL LETTER A;3BBE;3BE;3CE;3CHE;3DE;3DHE;3EI;3E;3FE;3GA",
  "105a3 VITHKUQI SMALL LETTER HA;3HHA;3I;3IJE;3JE;3KA;3LA;3LLA;3ME;3NE;3NJE;3O;3PE;3QA;3RE",
  "105b3 VITHKUQI SMALL LETTER SE;3SHE;3TE;3THE;3U;3VE;3XE",
  "105bb VITHKUQI SMALL LETTER Y;3ZE",
  "10600 LINEAR A SIGN AB001;3AB002;3AB003;3AB004;3AB005;3AB006;3AB007;3AB008;3AB009;3AB010;3AB011",
  "1060b LINEAR A SIGN AB013;3AB016;3AB017;3AB020;3AB021;3AB021F;3AB021M;3AB022;3AB022F;3AB022M",
  "10615 LINEAR A SIGN AB023;3AB023M;3AB024;3AB026;3AB027;3AB028;3A028B;3AB029;3AB030;3AB031",
  "1061f LINEAR A SIGN AB034;3AB037;3AB038;3AB039;3AB040;3AB041;3AB044;3AB045;3AB046;3AB047;3AB048",
  "1062a LINEAR A SIGN AB049;3AB050;3AB051;3AB053;3AB054;3AB055;3AB056;3AB057;3AB058;3AB059;3AB060",
  "10635 LINEAR A SIGN AB061;3AB065;3AB066;3AB067;3AB069;3AB070;3AB073;3AB074;3AB076;3AB077;3AB078",
  "10640 LINEAR A SIGN AB079;3AB080;3AB081;3AB082;3AB085;3AB086;3AB087;3A100-102;3AB118;3AB120",
  "1064a LINEAR A SIGN A120B;3AB122;3AB123;3AB131A;3AB131B;3A131C;3AB164;3AB171;3AB180;3AB188",
  "10654 LINEAR A SIGN AB191;3A301;3A302;3A303;3A304;3A305;3A306;3A307;3A308;3A309A;3A309B;3A309C",
  "10660 LINEAR A SIGN A310;3A311;3A312;3A313A;3A313B;3A313C;3A314;3A315;3A316;3A317;3A318;3A319",
  "1066c LINEAR A SIGN A320;3A321;3A322;3A323;3A324;3A325;3A326;3A327;3A328;3A329;3A330;3A331",
  "10678 LINEAR A SIGN A332;3A333;3A334;3A335;3A336;3A337;3A338;3A339;3A340;3A341;3A342;3A343",
  "10684 LINEAR A SIGN A344;3A345;3A346;3A347;3A348;3A349;3A350;3A351;3A352;3A353;3A354;3A355",
  "10690 LINEAR A SIGN A356;3A357;3A358;3A359;3A360;3A361;3A362;3A363;3A364;3A365;3A366;3A367",
  "1069c LINEAR A SIGN A368;3A369;3A370;3A371;3A400-VAS;3A401-VAS;3A402-VAS;3A403-VAS;3A404-VAS",
  "106a5 LINEAR A SIGN A405-VAS;3A406-VAS;3A407-VAS;3A408-VAS;3A409-VAS;3A410-VAS;3A411-VAS",
  "106ac LINEAR A SIGN A412-VAS;3A413-VAS;3A414-VAS;3A415-VAS;3A416-VAS;3A417-VAS;3A418-VAS;3A501",
  "106b4 LINEAR A SIGN A502;3A503;3A504;3A505;3A506;3A508;3A509;3A510;3A511;3A512;3A513;3A515",
  "106c0 LINEAR A SIGN A516;3A520;3A521;3A523;3A524;3A525;3A526;3A527;3A528;3A529;3A530;3A531",
  "106cc LINEAR A SIGN A532;3A534;3A535;3A536;3A537;3A538;3A539;3A540;3A541;3A542;3A545;3A547",
  "106d8 LINEAR A SIGN A548;3A549;3A550;3A551;3A552;3A553;3A554;3A555;3A556;3A557;3A559;3A563",
  "106e4 LINEAR A SIGN A564;3A565;3A566;3A568;3A569;3A570;3A571;3A572;3A573;3A574;3A575;3A576",
  "106f0 LINEAR A SIGN A577;3A578;3A579;3A580;3A581;3A582;3A583;3A584;3A585;3A586;3A587;3A588",
  "106fc LINEAR A SIGN A589;3A591;3A592;3A594;3A595;3A596;3A598;3A600;3A601;3A602;3A603;3A604",
  "10708 LINEAR A SIGN A606;3A608;3A609;3A610;3A611;3A612;3A613;3A614;3A615;3A616;3A617;3A618",
  "10714 LINEAR A SIGN A619;3A620;3A621;3A622;3A623;3A624;3A626;3A627;3A628;3A629;3A634;3A637",
  "10720 LINEAR A SIGN A638;3A640;3A642;3A643;3A644;3A645;3A646;3A648;3A649;3A651;3A652;3A653",
  "1072c LINEAR A SIGN A654;3A655;3A656;3A657;3A658;3A659;3A660;3A661;3A662;3A663;3A664",
  "10740 LINEAR A SIGN A701 A;3A702 B;3A703 D;3A704 E;3A705 F;3A706 H;3A707 J;3A708 K;3A709 L",
  "10749 LINEAR A SIGN A709-2 L2;3A709-3 L3;3A709-4 L4;3A709-6 L6;3A710 W;3A711 X;3A712 Y",
  "10750 LINEAR A SIGN A713 OMEGA;3A714 ABB;3A715 BB;3A717 DD;3A726 EYYY;3A732 JE",
  "10760 LINEAR A SIGN A800;3A801;3A802;3A803;3A804;3A805;3A806;3A807",
  "10780 MODIFIER LETTER SMALL CAPITAL AA;2SUPERSCRIPT TRIANGULAR COLON;3HALF TRIANGULAR COLON",
  "10783 MODIFIER LETTER SMALL AE;3CAPITAL B;3B WITH HOOK",
  "10787 MODIFIER LETTER SMALL DZ DIGRAPH;5WITH RETROFLEX HOOK;6CURL;3DEZH DIGRAPH;3D WITH TAIL",
  "1078c MODIFIER LETTER SMALL D WITH HOOK;6AND TAIL;3REVERSED E;3CLOSED REVERSED OPEN E",
  "10790 MODIFIER LETTER SMALL FENG DIGRAPH;3RAMS HORN;3CAPITAL G;3G WITH HOOK",
  "10794 MODIFIER LETTER SMALL CAPITAL G WITH HOOK;3H WITH STROKE;3CAPITAL H;3HENG WITH HOOK",
  "10798 MODIFIER LETTER SMALL DOTLESS J WITH STROKE AND HOOK;3LS DIGRAPH;3LZ DIGRAPH;3L WITH BELT",
  "1079c MODIFIER LETTER SMALL CAPITAL L WITH BELT;3L WITH RETROFLEX HOOK AND BELT;3LEZH",
  "1079f MODIFIER LETTER SMALL LEZH WITH RETROFLEX HOOK;3TURNED Y;5WITH BELT;3O WITH STROKE",
  "107a3 MODIFIER LETTER SMALL CAPITAL OE;3CLOSED OMEGA;3Q;3TURNED R WITH LONG LEG",
  "107a7 MODIFIER LETTER SMALL TURNED R WITH LONG LEG AND RETROFLEX HOOK;3R WITH TAIL;5FISHHOOK",
  "107aa MODIFIER LETTER SMALL CAPITAL R;3TC DIGRAPH WITH CURL;3TS DIGRAPH;5WITH RETROFLEX HOOK",
  "107ae MODIFIER LETTER SMALL TESH DIGRAPH;3T WITH RETROFLEX HOOK;3V WITH RIGHT HOOK",
  "107b2 MODIFIER LETTER SMALL CAPITAL Y;2GLOTTAL STOP WITH STROKE",
  "107b4 MODIFIER LETTER REVERSED GLOTTAL STOP WITH STROKE;2BILABIAL CLICK;2DENTAL CLICK",
  "107b7 MODIFIER LETTER LATERAL CLICK;2ALVEOLAR CLICK;2RETROFLEX CLICK WITH RETROFLEX HOOK",
  "107ba MODIFIER LETTER SMALL S WITH CURL",
  "10800 CYPRIOT SYLLABLE A;2E;2I;2O;2U;2JA",
  "10808 CYPRIOT SYLLABLE JO",
  "1080a CYPRIOT SYLLABLE KA;2KE;2KI;2KO;2KU;2LA;2LE;2LI;2LO;2LU;2MA;2ME;2MI;2MO;2MU;2NA;2NE;2NI",
  "1081c CYPRIOT SYLLABLE NO;2NU;2PA;2PE;2PI;2PO;2PU;2RA;2RE;2RI;2RO;2RU;2SA;2SE;2SI;2SO;2SU;2TA",
  "1082e CYPRIOT SYLLABLE TE;2TI;2TO;2TU;2WA;2WE;2WI;2WO",
  "10837 CYPRIOT SYLLABLE XA;2XE",
  "1083c CYPRIOT SYLLABLE ZA",
  "1083f CYPRIOT SYLLABLE ZO;0IMPERIAL ARAMAIC LETTER ALEPH;3BETH;3GIMEL;3DALETH;3HE;3WAW;3ZAYIN",
  "10847 IMPERIAL ARAMAIC LETTER HETH;3TETH;3YODH;3KAPH;3LAMEDH;3MEM;3NUN;3SAMEKH;3AYIN;3PE;3SADHE",
  "10852 IMPERIAL ARAMAIC LETTER QOPH;3RESH;3SHIN;3TAW",
  "10857 IMPERIAL ARAMAIC SECTION SIGN;2NUMBER ONE;3TWO;3THREE;3TEN;3TWENTY;3ONE HUNDRED;4THOUSAND",
  "1085f IMPERIAL ARAMAIC NUMBER TEN THOUSAND;0PALMYRENE LETTER ALEPH;2BETH;2GIMEL;2DALETH;2HE",
  "10865 PALMYRENE LETTER WAW;2ZAYIN;2HETH;2TETH;2YODH;2KAPH;2LAMEDH;2MEM;2FINAL NUN;2NUN;2SAMEKH",
  "10870 PALMYRENE LETTER AYIN;2PE;2SADHE;2QOPH;2RESH;2SHIN;2TAW;1LEFT-POINTING FLEURON",
  "10878 PALMYRENE RIGHT-POINTING FLEURON;1NUMBER ONE;2TWO;2THREE;2FOUR;2FIVE;2TEN;2TWENTY",
  "10880 NABATAEAN LETTER FINAL ALEPH;2ALEPH;2FINAL BETH;2BETH;2GIMEL;2DALETH;2FINAL HE;2HE;2WAW",
  "10889 NABATAEAN LETTER ZAYIN;2HETH;2TETH;2FINAL YODH;2YODH;2FINAL KAPH;2KAPH;2FINAL LAMEDH",
  "10891 NABATAEAN LETTER LAMEDH;2FINAL MEM;2MEM;2FINAL NUN;2NUN;2SAMEKH;2AYIN;2PE;2SADHE;2QOPH",
  "1089b NABATAEAN LETTER RESH;2FINAL SHIN;2SHIN;2TAW",
  "108a7 NABATAEAN NUMBER ONE;2TWO;2THREE;2FOUR;1CRUCIFORM NUMBER FOUR;1NUMBER FIVE;2TEN;2TWENTY",
  "108af NABATAEAN NUMBER ONE HUNDRED",
  "108e0 HATRAN LETTER ALEPH;2BETH;2GIMEL;2DALETH-RESH;2HE;2WAW;2ZAYN;2HETH;2TETH;2YODH;2KAPH",
  "108eb HATRAN LETTER LAMEDH;2MEM;2NUN;2SAMEKH;2AYN;2PE;2SADHE;2QOPH",
  "108f4 HATRAN LETTER SHIN;2TAW",
  "108fb HATRAN NUMBER ONE;2FIVE;2TEN;2TWENTY;2ONE HUNDRED;0PHOENICIAN LETTER ALF;2BET;2GAML;2DELT",
  "10904 PHOENICIAN LETTER HE;2WAU;2ZAI;2HET;2TET;2YOD;2KAF;2LAMD;2MEM;2NUN;2SEMK;2AIN;2PE;2SADE",
  "10912 PHOENICIAN LETTER QOF;2ROSH;2SHIN;2TAU;1NUMBER ONE;2TEN;2TWENTY;2ONE HUNDRED;2TWO;2THREE",
  "1091f PHOENICIAN WORD SEPARATOR;0LYDIAN LETTER A;2B;2G;2D;2E;2V;2I;2Y;2K;2L;2M;2N;2O;2R;2SS;2T",
  "10930 LYDIAN LETTER U;2F;2Q;2S;2TT;2AN;2EN;2LY;2NN;2C",
  "1093f LYDIAN TRIANGULAR MARK",
  "10980 MEROITIC HIEROGLYPHIC LETTER A;3E;3I;3O;3YA;3WA;3BA;3BA-2;3PA;3MA;3NA;3NA-2;3NE;3NE-2;3RA",
  "1098f MEROITIC HIEROGLYPHIC LETTER RA-2;3LA;3KHA;3HHA;3SA;3SA-2;3SE;3KA;3QA;3TA;3TA-2;3TE;3TE-2",
  "1099c MEROITIC HIEROGLYPHIC LETTER TO;3DA;2SYMBOL VIDJ;3VIDJ-2;1CURSIVE LETTER A;3E;3I;3O;3YA",
  "109a5 MEROITIC CURSIVE LETTER WA;3BA;3PA;3MA;3NA;3NE;3RA;3LA;3KHA;3HHA;3SA;3ARCHAIC SA;3SE;3KA",
  "109b3 MEROITIC CURSIVE LETTER QA;3TA;3TE;3TO;3DA",
  "109bc MEROITIC CURSIVE FRACTION ELEVEN TWELFTHS;3ONE HALF;2LOGOGRAM RMT;3IMN;2NUMBER ONE;3TWO",
  "109c2 MEROITIC CURSIVE NUMBER THREE;3FOUR;3FIVE;3SIX;3SEVEN;3EIGHT;3NINE;3TEN;3TWENTY;3THIRTY",
  "109cc MEROITIC CURSIVE NUMBER FORTY;3FIFTY;3SIXTY;3SEVENTY",
  "109d2 MEROITIC CURSIVE NUMBER ONE HUNDRED;3TWO HUNDRED;3THREE HUNDRED;3FOUR HUNDRED",
  "109d6 MEROITIC CURSIVE NUMBER FIVE HUNDRED;3SIX HUNDRED;3SEVEN HUNDRED;3EIGHT HUNDRED",
  "109da MEROITIC CURSIVE NUMBER NINE HUNDRED;3ONE THOUSAND;3TWO THOUSAND;3THREE THOUSAND",
  "109de MEROITIC CURSIVE NUMBER FOUR THOUSAND;3FIVE THOUSAND;3SIX THOUSAND;3SEVEN THOUSAND",
  "109e2 MEROITIC CURSIVE NUMBER EIGHT THOUSAND;3NINE THOUSAND;3TEN THOUSAND;3TWENTY THOUSAND",
  "109e6 MEROITIC CURSIVE NUMBER THIRTY THOUSAND;3FORTY THOUSAND;3FIFTY THOUSAND;3SIXTY THOUSAND",
  "109ea MEROITIC CURSIVE NUMBER SEVENTY THOUSAND;3EIGHTY THOUSAND;3NINETY THOUSAND",
  "109ed MEROITIC CURSIVE NUMBER ONE HUNDRED THOUSAND;3TWO HUNDRED THOUSAND",
  "109ef MEROITIC CURSIVE NUMBER THREE HUNDRED THOUSAND;3FOUR HUNDRED THOUSAND",
  "109f1 MEROITIC CURSIVE NUMBER FIVE HUNDRED THOUSAND;3SIX HUNDRED THOUSAND",
  "109f3 MEROITIC CURSIVE NUMBER SEVEN HUNDRED THOUSAND;3EIGHT HUNDRED THOUSAND",
  "109f5 MEROITIC CURSIVE NUMBER NINE HUNDRED THOUSAND;2FRACTION ONE TWELFTH;3TWO TWELFTHS",
  "109f8 MEROITIC CURSIVE FRACTION THREE TWELFTHS;3FOUR TWELFTHS;3FIVE TWELFTHS;3SIX TWELFTHS",
  "109fc MEROITIC CURSIVE FRACTION SEVEN TWELFTHS;3EIGHT TWELFTHS;3NINE TWELFTHS;3TEN TWELFTHS",
  "10a00 KHAROSHTHI LETTER A;1VOWEL SIGN I;3U;3VOCALIC R",
  "10a05 KHAROSHTHI VOWEL SIGN E;3O",
  "10a0c KHAROSHTHI VOWEL LENGTH MARK;1SIGN DOUBLE RING BELOW;2ANUSVARA;2VISARGA;1LETTER KA;2KHA",
  "10a12 KHAROSHTHI LETTER GA;2GHA",
  "10a15 KHAROSHTHI LETTER CA;2CHA;2JA",
  "10a19 KHAROSHTHI LETTER NYA;2TTA;2TTHA;2DDA;2DDHA;2NNA;2TA;2THA;2DA;2DHA;2NA;2PA;2PHA;2BA;2BHA",
  "10a28 KHAROSHTHI LETTER MA;2YA;2RA;2LA;2VA;2SHA;2SSA;2SA;2ZA;2HA;2KKA;2TTTHA;2TTTA;2VHA",
  "10a38 KHAROSHTHI SIGN BAR ABOVE;2CAUDA;2DOT BELOW",
  "10a3f KHAROSHTHI VIRAMA;1DIGIT ONE;2TWO;2THREE;2FOUR;1NUMBER TEN;2TWENTY;2ONE HUNDRED;3THOUSAND",
  "10a48 KHAROSHTHI FRACTION ONE HALF",
  "10a50 KHAROSHTHI PUNCTUATION DOT;2SMALL CIRCLE;2CIRCLE;2CRESCENT BAR;2MANGALAM;2LOTUS;2DANDA",
  "10a57 KHAROSHTHI PUNCTUATION DOUBLE DANDA;2LINES",
  "10a60 OLD SOUTH ARABIAN LETTER HE;4LAMEDH;4HETH;4MEM;4QOPH;4WAW;4SHIN;4RESH;4BETH;4TAW;4SAT",
  "10a6b OLD SOUTH ARABIAN LETTER KAPH;4NUN;4KHETH;4SADHE;4SAMEKH;4FE;4ALEF;4AYN;4DHADHE;4GIMEL",
  "10a75 OLD SOUTH ARABIAN LETTER DALETH;4GHAYN;4TETH;4ZAYN;4DHALETH;4YODH;4THAW;4THETH",
  "10a7d OLD SOUTH ARABIAN NUMBER ONE;4FIFTY;3NUMERIC INDICATOR;1NORTH ARABIAN LETTER HEH;4LAM",
  "10a82 OLD NORTH ARABIAN LETTER HAH;4MEEM;4QAF;4WAW;4ES-2;4REH;4BEH;4TEH;4ES-1;4KAF;4NOON;4KHAH",
  "10a8e OLD NORTH ARABIAN LETTER SAD;4ES-3;4FEH;4ALEF;4AIN;4DAD;4GEEM;4DAL;4GHAIN;4TAH;4ZAIN",
  "10a99 OLD NORTH ARABIAN LETTER THAL;4YEH;4THEH;4ZAH;3NUMBER ONE;4TEN;4TWENTY",
  "10ac0 MANICHAEAN LETTER ALEPH;2BETH;2BHETH;2GIMEL;2GHIMEL;2DALETH;2HE;2WAW;1SIGN UD",
  "10ac9 MANICHAEAN LETTER ZAYIN;2ZHAYIN;2JAYIN;2JHAYIN;2HETH;2TETH;2YODH;2KAPH;2XAPH;2KHAPH",
  "10ad3 MANICHAEAN LETTER LAMEDH;2DHAMEDH;2THAMEDH;2MEM;2NUN;2SAMEKH;2AYIN;2AAYIN;2PE;2FE;2SADHE",
  "10ade MANICHAEAN LETTER QOPH;2XOPH;2QHOPH;2RESH;2SHIN;2SSHIN;2TAW;1ABBREVIATION MARK ABOVE",
  "10ae6 MANICHAEAN ABBREVIATION MARK BELOW",
  "10aeb MANICHAEAN NUMBER ONE;2FIVE;2TEN;2TWENTY;2ONE HUNDRED;1PUNCTUATION STAR;2FLEURON",
  "10af2 MANICHAEAN PUNCTUATION DOUBLE DOT WITHIN DOT;2DOT WITHIN DOT;2DOT;2TWO DOTS;2LINE FILLER",
  "10b00 AVESTAN LETTER A;2AA;2AO;2AAO;2AN;2AAN;2AE;2AEE;2E;2EE;2O;2OO;2I;2II;2U;2UU;2KE;2XE;2XYE",
  "10b13 AVESTAN LETTER XVE;2GE;2GGE;2GHE;2CE;2JE;2TE;2THE;2DE;2DHE;2TTE;2PE;2FE;2BE;2BHE;2NGE",
  "10b23 AVESTAN LETTER NGYE;2NGVE;2NE;2NYE;2NNE;2ME;2HME;2YYE;2YE;2VE;2RE;2LE;2SE;2ZE;2SHE;2ZHE",
  "10b33 AVESTAN LETTER SHYE;2SSHE;2HE",
  "10b39 AVESTAN ABBREVIATION MARK;0TINY TWO DOTS OVER ONE DOT PUNCTUATION",
  "10b3b SMALL TWO DOTS OVER ONE DOT PUNCTUATION;0LARGE TWO DOTS OVER ONE DOT PUNCTUATION",
  "10b3d LARGE ONE DOT OVER TWO DOTS PUNCTUATION;1TWO RINGS OVER ONE RING PUNCTUATION",
  "10b3f LARGE ONE RING OVER TWO RINGS PUNCTUATION;0INSCRIPTIONAL PARTHIAN LETTER ALEPH;3BETH",
  "10b42 INSCRIPTIONAL PARTHIAN LETTER GIMEL;3DALETH;3HE;3WAW;3ZAYIN;3HETH;3TETH;3YODH;3KAPH",
  "10b4b INSCRIPTIONAL PARTHIAN LETTER LAMEDH;3MEM;3NUN;3SAMEKH;3AYIN;3PE;3SADHE;3QOPH;3RESH;3SHIN",
  "10b55 INSCRIPTIONAL PARTHIAN LETTER TAW",
  "10b58 INSCRIPTIONAL PARTHIAN NUMBER ONE;3TWO;3THREE;3FOUR;3TEN;3TWENTY;3ONE HUNDRED;4THOUSAND",
  "10b60 INSCRIPTIONAL PAHLAVI LETTER ALEPH;3BETH;3GIMEL;3DALETH;3HE;3WAW-AYIN-RESH;3ZAYIN;3HETH",
  "10b68 INSCRIPTIONAL PAHLAVI LETTER TETH;3YODH;3KAPH;3LAMEDH;3MEM-QOPH;3NUN;3SAMEKH;3PE;3SADHE",
  "10b71 INSCRIPTIONAL PAHLAVI LETTER SHIN;3TAW",
  "10b78 INSCRIPTIONAL PAHLAVI NUMBER ONE;3TWO;3THREE;3FOUR;3TEN;3TWENTY;3ONE HUNDRED;4THOUSAND",
  "10b80 PSALTER PAHLAVI LETTER ALEPH;3BETH;3GIMEL;3DALETH;3HE;3WAW-AYIN-RESH;3ZAYIN;3HETH;3YODH",
  "10b89 PSALTER PAHLAVI LETTER KAPH;3LAMEDH;3MEM-QOPH;3NUN;3SAMEKH;3PE;3SADHE;3SHIN;3TAW",
  "10b99 PSALTER PAHLAVI SECTION MARK;2TURNED SECTION MARK;2FOUR DOTS WITH CROSS;5DOT",
  "10ba9 PSALTER PAHLAVI NUMBER ONE;3TWO;3THREE;3FOUR;3TEN;3TWENTY;3ONE HUNDRED",
  "10c00 OLD TURKIC LETTER ORKHON A;3YENISEI A;4AE;3ORKHON I;3YENISEI I;4E;3ORKHON O;4OE",
  "10c08 OLD TURKIC LETTER YENISEI OE;3ORKHON AB;3YENISEI AB;3ORKHON AEB;3YENISEI AEB;3ORKHON AG",
  "10c0e OLD TURKIC LETTER YENISEI AG;3ORKHON AEG;3YENISEI AEG;3ORKHON AD;3YENISEI AD;3ORKHON AED",
  "10c14 OLD TURKIC LETTER ORKHON EZ;3YENISEI EZ;3ORKHON AY;3YENISEI AY;3ORKHON AEY;3YENISEI AEY",
  "10c1a OLD TURKIC LETTER ORKHON AEK;3YENISEI AEK;3ORKHON OEK;3YENISEI OEK;3ORKHON AL;3YENISEI AL",
  "10c20 OLD TURKIC LETTER ORKHON AEL;4ELT;4EM;4AN;4AEN;3YENISEI AEN;3ORKHON ENT;3YENISEI ENT",
  "10c28 OLD TURKIC LETTER ORKHON ENC;3YENISEI ENC;3ORKHON ENY;3YENISEI ENY;4ANG;3ORKHON ENG",
  "10c2e OLD TURKIC LETTER YENISEI AENG;3ORKHON EP;4OP;4IC;4EC;3YENISEI EC;3ORKHON AQ;3YENISEI AQ",
  "10c36 OLD TURKIC LETTER ORKHON IQ;3YENISEI IQ;3ORKHON OQ;3YENISEI OQ;3ORKHON AR;3YENISEI AR",
  "10c3c OLD TURKIC LETTER ORKHON AER;4AS;4AES;4ASH;3YENISEI ASH;3ORKHON ESH;3YENISEI ESH",
  "10c43 OLD TURKIC LETTER ORKHON AT;3YENISEI AT;3ORKHON AET;3YENISEI AET;3ORKHON OT;4BASH",
  "10c80 OLD HUNGARIAN CAPITAL LETTER A;4AA;4EB;4AMB;4EC;4ENC;4ECS;4ED;4AND;4E;4CLOSE E;4EE;4EF",
  "10c8d OLD HUNGARIAN CAPITAL LETTER EG;4EGY;4EH;4I;4II;4EJ;4EK;4AK;4UNK;4EL;4ELY;4EM;4EN;4ENY;4O",
  "10c9c OLD HUNGARIAN CAPITAL LETTER OO;4NIKOLSBURG OE;4RUDIMENTA OE;4OEE;4EP;4EMP;4ER;4SHORT ER",
  "10ca4 OLD HUNGARIAN CAPITAL LETTER ES;4ESZ;4ET;4ENT;4ETY;4ECH;4U;4UU;4NIKOLSBURG UE",
  "10cad OLD HUNGARIAN CAPITAL LETTER RUDIMENTA UE;4EV;4EZ;4EZS;4ENT-SHAPED SIGN;4US",
  "10cc0 OLD HUNGARIAN SMALL LETTER A;4AA;4EB;4AMB;4EC;4ENC;4ECS;4ED;4AND;4E;4CLOSE E;4EE;4EF;4EG",
  "10cce OLD HUNGARIAN SMALL LETTER EGY;4EH;4I;4II;4EJ;4EK;4AK;4UNK;4EL;4ELY;4EM;4EN;4ENY;4O;4OO",
  "10cdd OLD HUNGARIAN SMALL LETTER NIKOLSBURG OE;4RUDIMENTA OE;4OEE;4EP;4EMP;4ER;4SHORT ER;4ES",
  "10ce5 OLD HUNGARIAN SMALL LETTER ESZ;4ET;4ENT;4ETY;4ECH;4U;4UU;4NIKOLSBURG UE;4RUDIMENTA UE;4EV",
  "10cef OLD HUNGARIAN SMALL LETTER EZ;4EZS;4ENT-SHAPED SIGN;4US",
  "10cfa OLD HUNGARIAN NUMBER ONE;3FIVE;3TEN;3FIFTY;3ONE HUNDRED;4THOUSAND",
  "10d00 HANIFI ROHINGYA LETTER A;3BA;3PA;3TA;3TTA;3JA;3CA;3HA;3KHA;3FA;3DA;3DDA;3RA;3RRA;3ZA;3SA",
  "10d10 HANIFI ROHINGYA LETTER SHA;3KA;3GA;3LA;3MA;3NA;3WA;3KINNA WA;3YA;3KINNA YA;3NGA;3NYA;3VA",
  "10d1d HANIFI ROHINGYA VOWEL A;3I;3U;3E;3O;2MARK SAKIN;3NA KHONNA;2SIGN HARBAHAY;3TAHALA;3TANA",
  "10d27 HANIFI ROHINGYA SIGN TASSI",
  "10d30 HANIFI ROHINGYA DIGIT ZERO;3ONE;3TWO;3THREE;3FOUR;3FIVE;3SIX;3SEVEN;3EIGHT;3NINE",
  "10e60 RUMI DIGIT ONE;2TWO;2THREE;2FOUR;2FIVE;2SIX;2SEVEN;2EIGHT;2NINE;1NUMBER TEN;2TWENTY",
  "10e6b RUMI NUMBER THIRTY;2FORTY;2FIFTY;2SIXTY;2SEVENTY;2EIGHTY;2NINETY;2ONE HUNDRED",
  "10e73 RUMI NUMBER TWO HUNDRED;2THREE HUNDRED;2FOUR HUNDRED;2FIVE HUNDRED;2SIX HUNDRED",
  "10e78 RUMI NUMBER SEVEN HUNDRED;2EIGHT HUNDRED;2NINE HUNDRED;1FRACTION ONE HALF;3QUARTER;3THIRD",
  "10e7e RUMI FRACTION TWO THIRDS",
  "10e80 YEZIDI LETTER ELIF;2BE;2PE;2PHE;2THE;2SE;2CIM;2CHIM;2CHHIM;2HHA;2XA;2DAL;2ZAL;2RA;2RHA",
  "10e8f YEZIDI LETTER ZA;2JA;2SIN;2SHIN;2SAD;2DAD;2TA;2ZE;2EYN;2XHEYN;2FA;2VA;3ALTERNATE FORM",
  "10e9c YEZIDI LETTER QAF;2KAF;2KHAF;2GAF;2LAM;2MIM;2NUN;2UM;2WAW;2OW;2EW;2HAY;2YOT;2ET",
  "10eab YEZIDI COMBINING HAMZA MARK;2MADDA MARK;1HYPHENATION MARK",
  "10eb0 YEZIDI LETTER LAM WITH DOT ABOVE;2YOT WITH CIRCUMFLEX ABOVE",
  "10f00 OLD SOGDIAN LETTER ALEPH;3FINAL ALEPH;3BETH;3FINAL BETH;3GIMEL;3HE;3FINAL HE;3WAW;3ZAYIN",
  "10f09 OLD SOGDIAN LETTER HETH;3YODH;3KAPH;3LAMEDH;3MEM;3NUN;3FINAL NUN;5WITH VERTICAL TAIL",
  "10f11 OLD SOGDIAN LETTER SAMEKH;3AYIN;3ALTERNATE AYIN;3PE;3SADHE;3FINAL SADHE",
  "10f17 OLD SOGDIAN LETTER FINAL SADHE WITH VERTICAL TAIL;3RESH-AYIN-DALETH;3SHIN;3TAW;3FINAL TAW",
  "10f1c OLD SOGDIAN LETTER FINAL TAW WITH VERTICAL TAIL;2NUMBER ONE;3TWO;3THREE;3FOUR;3FIVE;3TEN",
  "10f23 OLD SOGDIAN NUMBER TWENTY;3THIRTY;3ONE HUNDRED;2FRACTION ONE HALF;2LIGATURE AYIN-DALETH",
  "10f30 SOGDIAN LETTER ALEPH;2BETH;2GIMEL;2HE;2WAW;2ZAYIN;2HETH;2YODH;2KAPH;2LAMEDH;2MEM;2NUN",
  "10f3c SOGDIAN LETTER SAMEKH;2AYIN;2PE;2SADHE;2RESH-AYIN;2SHIN;2TAW;2FETH;2LESH",
  "10f45 SOGDIAN INDEPENDENT SHIN;1COMBINING DOT BELOW;2TWO DOTS BELOW;2DOT ABOVE;2TWO DOTS ABOVE",
  "10f4a SOGDIAN COMBINING CURVE ABOVE;3BELOW;2HOOK ABOVE;3BELOW;2LONG HOOK BELOW;2RESH BELOW",
  "10f50 SOGDIAN COMBINING STROKE BELOW;1NUMBER ONE;2TEN;2TWENTY;2ONE HUNDRED",
  "10f55 SOGDIAN PUNCTUATION TWO VERTICAL BARS;5WITH DOTS;2CIRCLE WITH DOT;2TWO CIRCLES WITH DOTS",
  "10f59 SOGDIAN PUNCTUATION HALF CIRCLE WITH DOT",
  "10f70 OLD UYGHUR LETTER ALEPH;3BETH;3GIMEL-HETH;3WAW;3ZAYIN;3FINAL HETH;3YODH;3KAPH;3LAMEDH",
  "10f79 OLD UYGHUR LETTER MEM;3NUN;3SAMEKH;3PE;3SADHE;3RESH;3SHIN;3TAW;3LESH;2COMBINING DOT ABOVE",
  "10f83 OLD UYGHUR COMBINING DOT BELOW;3TWO DOTS ABOVE;5BELOW;2PUNCTUATION BAR;3TWO BARS;4DOTS",
  "10f89 OLD UYGHUR PUNCTUATION FOUR DOTS",
  "10fb0 CHORASMIAN LETTER ALEPH;2SMALL ALEPH;2BETH;2GIMEL;2DALETH;2HE;2WAW;2CURLED WAW;2ZAYIN",
  "10fb9 CHORASMIAN LETTER HETH;2YODH;2KAPH;2LAMEDH;2MEM;2NUN;2SAMEKH;2AYIN;2PE;2RESH;2SHIN;2TAW",
  "10fc5 CHORASMIAN NUMBER ONE;2TWO;2THREE;2FOUR;2TEN;2TWENTY;2ONE HUNDRED",
  "10fe0 ELYMAIC LETTER ALEPH;2BETH;2GIMEL;2DALETH;2HE;2WAW;2ZAYIN;2HETH;2TETH;2YODH;2KAPH;2LAMEDH",
  "10fec ELYMAIC LETTER MEM;2NUN;2SAMEKH;2AYIN;2PE;2SADHE;2QOPH;2RESH;2SHIN;2TAW",
  "10ff6 ELYMAIC LIGATURE ZAYIN-YODH",
  "11000 BRAHMI SIGN CANDRABINDU;2ANUSVARA;2VISARGA;2JIHVAMULIYA;2UPADHMANIYA;1LETTER A;2AA;2I;2II",
  "11009 BRAHMI LETTER U;2UU;2VOCALIC R;3RR;3L;3LL;2E;2AI;2O;2AU;2KA;2KHA;2GA;2GHA;2NGA;2CA;2CHA",
  "1101a BRAHMI LETTER JA;2JHA;2NYA;2TTA;2TTHA;2DDA;2DDHA;2NNA;2TA;2THA;2DA;2DHA;2NA;2PA;2PHA;2BA",
  "1102a BRAHMI LETTER BHA;2MA;2YA;2RA;2LA;2VA;2SHA;2SSA;2SA;2HA;2LLA;2OLD TAMIL LLLA;4RRA;4NNNA",
  "11038 BRAHMI VOWEL SIGN AA;3BHATTIPROLU AA;3I;3II;3U;3UU;3VOCALIC R;4RR;4L;4LL;3E;3AI;3O;3AU",
  "11046 BRAHMI VIRAMA;1DANDA;1DOUBLE DANDA;1PUNCTUATION DOT;2DOUBLE DOT;2LINE;2CRESCENT BAR",
  "1104d BRAHMI PUNCTUATION LOTUS",
  "11052 BRAHMI NUMBER ONE;2TWO;2THREE;2FOUR;2FIVE;2SIX;2SEVEN;2EIGHT;2NINE;2TEN;2TWENTY;2THIRTY",
  "1105e BRAHMI NUMBER FORTY;2FIFTY;2SIXTY;2SEVENTY;2EIGHTY;2NINETY;2ONE HUNDRED;3THOUSAND",
  "11066 BRAHMI DIGIT ZERO;2ONE;2TWO;2THREE;2FOUR;2FIVE;2SIX;2SEVEN;2EIGHT;2NINE",
  "11070 BRAHMI SIGN OLD TAMIL VIRAMA;1LETTER OLD TAMIL SHORT E;5O;1VOWEL SIGN OLD TAMIL SHORT E",
  "11074 BRAHMI VOWEL SIGN OLD TAMIL SHORT O;1LETTER OLD TAMIL LLA",
  "1107f BRAHMI NUMBER JOINER;0KAITHI SIGN CANDRABINDU;2ANUSVARA;2VISARGA;1LETTER A;2AA;2I;2II;2U",
  "11088 KAITHI LETTER UU;2E;2AI;2O;2AU;2KA;2KHA;2GA;2GHA;2NGA;2CA;2CHA;2JA;2JHA;2NYA;2TTA;2TTHA",
  "11099 KAITHI LETTER DDA;2DDDHA;2DDHA;2RHA;2NNA;2TA;2THA;2DA;2DHA;2NA;2PA;2PHA;2BA;2BHA;2MA;2YA",
  "110a9 KAITHI LETTER RA;2LA;2VA;2SHA;2SSA;2SA;2HA;1VOWEL SIGN AA;3I;3II;3U;3UU;3E;3AI;3O;3AU",
  "110b9 KAITHI SIGN VIRAMA;2NUKTA;1ABBREVIATION SIGN;1ENUMERATION SIGN;1NUMBER SIGN;1SECTION MARK",
  "110bf KAITHI DOUBLE SECTION MARK;1DANDA;1DOUBLE DANDA;1VOWEL SIGN VOCALIC R",
  "110cd KAITHI NUMBER SIGN ABOVE",
  "110d0 SORA SOMPENG LETTER SAH;3TAH;3BAH;3CAH;3DAH;3GAH;3MAH;3NGAH;3LAH;3NAH;3VAH;3PAH;3YAH;3RAH",
  "110de SORA SOMPENG LETTER HAH;3KAH;3JAH;3NYAH;3AH;3EEH;3IH;3UH;3OH;3EH;3MAE",
  "110f0 SORA SOMPENG DIGIT ZERO;3ONE;3TWO;3THREE;3FOUR;3FIVE;3SIX;3SEVEN;3EIGHT;3NINE",
  "11100 CHAKMA SIGN CANDRABINDU;2ANUSVARA;2VISARGA;1LETTER AA;2I;2U;2E;2KAA;2KHAA;2GAA;2GHAA",
  "1110b CHAKMA LETTER NGAA;2CAA;2CHAA;2JAA;2JHAA;2NYAA;2TTAA;2TTHAA;2DDAA;2DDHAA;2NNAA;2TAA;2THAA",
  "11118 CHAKMA LETTER DAA;2DHAA;2NAA;2PAA;2PHAA;2BAA;2BHAA;2MAA;2YYAA;2YAA;2RAA;2LAA;2WAA;2SAA",
  "11126 CHAKMA LETTER HAA;1VOWEL SIGN A;3I;3II;3U;3UU;3E;3AI;3O;3AU;3OI;1O MARK;1AU MARK;1VIRAMA",
  "11134 CHAKMA MAAYYAA",
  "11136 CHAKMA DIGIT ZERO;2ONE;2TWO;2THREE;2FOUR;2FIVE;2SIX;2SEVEN;2EIGHT;2NINE;1SECTION MARK",
  "11141 CHAKMA DANDA;1DOUBLE DANDA;1QUESTION MARK;1LETTER LHAA;1VOWEL SIGN AA;3EI;1LETTER VAA",
  "11150 MAHAJANI LETTER A;2I;2U;2E;2O;2KA;2KHA;2GA;2GHA;2CA;2CHA;2JA;2JHA;2NYA;2TTA;2TTHA;2DDA",
  "11161 MAHAJANI LETTER DDHA;2NNA;2TA;2THA;2DA;2DHA;2NA;2PA;2PHA;2BA;2BHA;2MA;2RA;2LA;2VA;2SA;2HA",
  "11172 MAHAJANI LETTER RRA;1SIGN NUKTA;1ABBREVIATION SIGN;1SECTION MARK;1LIGATURE SHRI",
  "11180 SHARADA SIGN CANDRABINDU;2ANUSVARA;2VISARGA;1LETTER A;2AA;2I;2II;2U;2UU;2VOCALIC R;3RR;3L",
  "1118c SHARADA LETTER VOCALIC LL;2E;2AI;2O;2AU;2KA;2KHA;2GA;2GHA;2NGA;2CA;2CHA;2JA;2JHA;2NYA",
  "1119b SHARADA LETTER TTA;2TTHA;2DDA;2DDHA;2NNA;2TA;2THA;2DA;2DHA;2NA;2PA;2PHA;2BA;2BHA;2MA;2YA",
  "111ab SHARADA LETTER RA;2LA;2LLA;2VA;2SHA;2SSA;2SA;2HA;1VOWEL SIGN AA;3I;3II;3U;3UU;3VOCALIC R",
  "111b9 SHARADA VOWEL SIGN VOCALIC RR;4L;4LL;3E;3AI;3O;3AU;1SIGN VIRAMA;2AVAGRAHA;2JIHVAMULIYA",
  "111c3 SHARADA SIGN UPADHMANIYA;1OM;1DANDA;1DOUBLE DANDA;1ABBREVIATION SIGN;1SEPARATOR",
  "111c9 SHARADA SANDHI MARK;1SIGN NUKTA;1VOWEL MODIFIER MARK;1EXTRA SHORT VOWEL MARK;1SUTRA MARK",
  "111ce SHARADA VOWEL SIGN PRISHTHAMATRA E;1SIGN INVERTED CANDRABINDU;1DIGIT ZERO;2ONE;2TWO",
  "111d3 SHARADA DIGIT THREE;2FOUR;2FIVE;2SIX;2SEVEN;2EIGHT;2NINE;1EKAM;1SIGN SIDDHAM;1HEADSTROKE",
  "111dd SHARADA CONTINUATION SIGN;1SECTION MARK-1;2MARK-2",
  "111e1 SINHALA ARCHAIC DIGIT ONE;3TWO;3THREE;3FOUR;3FIVE;3SIX;3SEVEN;3EIGHT;3NINE;2NUMBER TEN",
  "111eb SINHALA ARCHAIC NUMBER TWENTY;3THIRTY;3FORTY;3FIFTY;3SIXTY;3SEVENTY;3EIGHTY;3NINETY",
  "111f3 SINHALA ARCHAIC NUMBER ONE HUNDRED;4THOUSAND",
  "11200 KHOJKI LETTER A;2AA;2I;2U;2E;2AI;2O;2AU;2KA;2KHA;2GA;2GGA;2GHA;2NGA;2CA;2CHA;2JA;2JJA",
  "11213 KHOJKI LETTER NYA;2TTA;2TTHA;2DDA;2DDHA;2NNA;2TA;2THA;2DA;2DDDA;2DHA;2NA;2PA;2PHA;2BA",
  "11222 KHOJKI LETTER BBA;2BHA;2MA;2YA;2RA;2LA;2VA;2SA;2HA;2LLA;1VOWEL SIGN AA;3I;3II;3U;3E;3AI",
  "11232 KHOJKI VOWEL SIGN O;3AU;1SIGN ANUSVARA;2VIRAMA;2NUKTA;2SHADDA;1DANDA;1DOUBLE DANDA",
  "1123a KHOJKI WORD SEPARATOR;1SECTION MARK;1DOUBLE SECTION MARK;1ABBREVIATION SIGN;1SIGN SUKUN",
  "11280 MULTANI LETTER A;2I;2U;2E;2KA;2KHA;2GA",
  "11288 MULTANI LETTER GHA",
  "1128a MULTANI LETTER CA;2CHA;2JA;2JJA",
  "1128f MULTANI LETTER NYA;2TTA;2TTHA;2DDA;2DDDA;2DDHA;2NNA;2TA;2THA;2DA;2DHA;2NA;2PA;2PHA;2BA",
  "1129f MULTANI LETTER BHA;2MA;2YA;2RA;2LA;2VA;2SA;2HA;2RRA;2RHA;1SECTION MARK",
  "112b0 KHUDAWADI LETTER A;2AA;2I;2II;2U;2UU;2E;2AI;2O;2AU;2KA;2KHA;2GA;2GGA;2GHA;2NGA;2CA;2CHA",
  "112c2 KHUDAWADI LETTER JA;2JJA;2JHA;2NYA;2TTA;2TTHA;2DDA;2DDDA;2RRA;2DDHA;2NNA;2TA;2THA;2DA",
  "112d0 KHUDAWADI LETTER DHA;2NA;2PA;2PHA;2BA;2BBA;2BHA;2MA;2YA;2RA;2LA;2VA;2SHA;2SA;2HA",
  "112df KHUDAWADI SIGN ANUSVARA;1VOWEL SIGN AA;3I;3II;3U;3UU;3E;3AI;3O;3AU;1SIGN NUKTA;2VIRAMA",
  "112f0 KHUDAWADI DIGIT ZERO;2ONE;2TWO;2THREE;2FOUR;2FIVE;2SIX;2SEVEN;2EIGHT;2NINE",
  "11300 GRANTHA SIGN COMBINING ANUSVARA ABOVE;2CANDRABINDU;2ANUSVARA;2VISARGA",
  "11305 GRANTHA LETTER A;2AA;2I;2II;2U;2UU;2VOCALIC R;3L",
  "1130f GRANTHA LETTER EE;2AI",
  "11313 GRANTHA LETTER OO;2AU;2KA;2KHA;2GA;2GHA;2NGA;2CA;2CHA;2JA;2JHA;2NYA;2TTA;2TTHA;2DDA;2DDHA",
  "11323 GRANTHA LETTER NNA;2TA;2THA;2DA;2DHA;2NA",
  "1132a GRANTHA LETTER PA;2PHA;2BA;2BHA;2MA;2YA;2RA",
  "11332 GRANTHA LETTER LA;2LLA",
  "11335 GRANTHA LETTER VA;2SHA;2SSA;2SA;2HA",
  "1133b COMBINING BINDU BELOW;0GRANTHA SIGN NUKTA;2AVAGRAHA;1VOWEL SIGN AA;3I;3II;3U;3UU",
  "11343 GRANTHA VOWEL SIGN VOCALIC R;4RR",
  "11347 GRANTHA VOWEL SIGN EE;3AI",
  "1134b GRANTHA VOWEL SIGN OO;3AU;1SIGN VIRAMA",
  "11350 GRANTHA OM",
  "11357 GRANTHA AU LENGTH MARK",
  "1135d GRANTHA SIGN PLUTA;1LETTER VEDIC ANUSVARA;3DOUBLE ANUSVARA;2VOCALIC RR;3LL",
  "11362 GRANTHA VOWEL SIGN VOCALIC L;4LL",
  "11366 COMBINING GRANTHA DIGIT ZERO;3ONE;3TWO;3THREE;3FOUR;3FIVE;3SIX",
  "11370 COMBINING GRANTHA LETTER A;3KA;3NA;3VI;3PA",
  "11400 NEWA LETTER A;2AA;2I;2II;2U;2UU;2VOCALIC R;3RR;3L;3LL;2E;2AI;2O;2AU;2KA;2KHA;2GA;2GHA",
  "11412 NEWA LETTER NGA;2NGHA;2CA;2CHA;2JA;2JHA;2NYA;2NYHA;2TTA;2TTHA;2DDA;2DDHA;2NNA;2TA;2THA",
  "11421 NEWA LETTER DA;2DHA;2NA;2NHA;2PA;2PHA;2BA;2BHA;2MA;2MHA;2YA;2RA;2RHA;2LA;2LHA;2WA;2SHA",
  "11432 NEWA LETTER SSA;2SA;2HA;1VOWEL SIGN AA;3I;3II;3U;3UU;3VOCALIC R;4RR;4L;4LL;3E;3AI;3O;3AU",
  "11442 NEWA SIGN VIRAMA;2CANDRABINDU;2ANUSVARA;2VISARGA;2NUKTA;2AVAGRAHA;2FINAL ANUSVARA;1OM",
  "1144a NEWA SIDDHI;1DANDA;1DOUBLE DANDA;1COMMA;1GAP FILLER;1ABBREVIATION SIGN;1DIGIT ZERO;2ONE",
  "11452 NEWA DIGIT TWO;2THREE;2FOUR;2FIVE;2SIX;2SEVEN;2EIGHT;2NINE;1DOUBLE COMMA",
  "1145b NEWA PLACEHOLDER MARK",
  "1145d NEWA INSERTION SIGN;1SANDHI MARK;1LETTER VEDIC ANUSVARA;1SIGN JIHVAMULIYA;2UPADHMANIYA",
  "11480 TIRHUTA ANJI;1LETTER A;2AA;2I;2II;2U;2UU;2VOCALIC R;3RR;3L;3LL;2E;2AI;2O;2AU;2KA;2KHA;2GA",
  "11492 TIRHUTA LETTER GHA;2NGA;2CA;2CHA;2JA;2JHA;2NYA;2TTA;2TTHA;2DDA;2DDHA;2NNA;2TA;2THA;2DA",
  "114a1 TIRHUTA LETTER DHA;2NA;2PA;2PHA;2BA;2BHA;2MA;2YA;2RA;2LA;2VA;2SHA;2SSA;2SA;2HA",
  "114b0 TIRHUTA VOWEL SIGN AA;3I;3II;3U;3UU;3VOCALIC R;4RR;4L;4LL;3E;3SHORT E;3AI;3O;3SHORT O;3AU",
  "114bf TIRHUTA SIGN CANDRABINDU;2ANUSVARA;2VISARGA;2VIRAMA;2NUKTA;2AVAGRAHA;1GVANG",
  "114c6 TIRHUTA ABBREVIATION SIGN;1OM",
  "114d0 TIRHUTA DIGIT ZERO;2ONE;2TWO;2THREE;2FOUR;2FIVE;2SIX;2SEVEN;2EIGHT;2NINE",
  "11580 SIDDHAM LETTER A;2AA;2I;2II;2U;2UU;2VOCALIC R;3RR;3L;3LL;2E;2AI;2O;2AU;2KA;2KHA;2GA;2GHA",
  "11592 SIDDHAM LETTER NGA;2CA;2CHA;2JA;2JHA;2NYA;2TTA;2TTHA;2DDA;2DDHA;2NNA;2TA;2THA;2DA;2DHA",
  "115a1 SIDDHAM LETTER NA;2PA;2PHA;2BA;2BHA;2MA;2YA;2RA;2LA;2VA;2SHA;2SSA;2SA;2HA;1VOWEL SIGN AA",
  "115b0 SIDDHAM VOWEL SIGN I;3II;3U;3UU;3VOCALIC R;4RR",
  "115b8 SIDDHAM VOWEL SIGN E;3AI;3O;3AU;1SIGN CANDRABINDU;2ANUSVARA;2VISARGA;2VIRAMA;2NUKTA",
  "115c1 SIDDHAM SIGN SIDDHAM;1DANDA;1DOUBLE DANDA;1SEPARATOR DOT;2BAR;1REPETITION MARK-1;2MARK-2",
  "115c8 SIDDHAM REPETITION MARK-3;1END OF TEXT MARK",
  "115ca SIDDHAM SECTION MARK WITH TRIDENT AND U-SHAPED ORNAMENTS;6DOTTED CRESCENTS",
  "115cc SIDDHAM SECTION MARK WITH RAYS AND DOTTED CRESCENTS;7DOUBLE CRESCENTS;7TRIPLE CRESCENTS",
  "115cf SIDDHAM SECTION MARK DOUBLE RING;5WITH RAYS;3WITH DOUBLE CRESCENTS;4TRIPLE CRESCENTS",
  "115d3 SIDDHAM SECTION MARK WITH QUADRUPLE CRESCENTS;4SEPTUPLE CRESCENTS;4CIRCLES AND RAYS",
  "115d6 SIDDHAM SECTION MARK WITH CIRCLES AND TWO ENCLOSURES;6FOUR ENCLOSURES",
  "115d8 SIDDHAM LETTER THREE-CIRCLE ALTERNATE I;2TWO-CIRCLE ALTERNATE I;4II;2ALTERNATE U",
  "115dc SIDDHAM VOWEL SIGN ALTERNATE U;4UU",
  "11600 MODI LETTER A;2AA;2I;2II;2U;2UU;2VOCALIC R;3RR;3L;3LL;2E;2AI;2O;2AU;2KA;2KHA;2GA;2GHA",
  "11612 MODI LETTER NGA;2CA;2CHA;2JA;2JHA;2NYA;2TTA;2TTHA;2DDA;2DDHA;2NNA;2TA;2THA;2DA;2DHA;2NA",
  "11622 MODI LETTER PA;2PHA;2BA;2BHA;2MA;2YA;2RA;2LA;2VA;2SHA;2SSA;2SA;2HA;2LLA;1VOWEL SIGN AA;3I",
  "11632 MODI VOWEL SIGN II;3U;3UU;3VOCALIC R;4RR;4L;4LL;3E;3AI;3O;3AU;1SIGN ANUSVARA;2VISARGA",
  "1163f MODI SIGN VIRAMA;2ARDHACANDRA;1DANDA;1DOUBLE DANDA;1ABBREVIATION SIGN;1SIGN HUVA",
  "11650 MODI DIGIT ZERO;2ONE;2TWO;2THREE;2FOUR;2FIVE;2SIX;2SEVEN;2EIGHT;2NINE",
  "11660 MONGOLIAN BIRGA WITH ORNAMENT;1ROTATED BIRGA;1DOUBLE BIRGA WITH ORNAMENT",
  "11663 MONGOLIAN TRIPLE BIRGA WITH ORNAMENT;1BIRGA WITH DOUBLE ORNAMENT",
  "11665 MONGOLIAN ROTATED BIRGA WITH ORNAMENT;4DOUBLE ORNAMENT;1INVERTED BIRGA",
  "11668 MONGOLIAN INVERTED BIRGA WITH DOUBLE ORNAMENT;1SWIRL BIRGA;3WITH ORNAMENT",
  "1166b MONGOLIAN SWIRL BIRGA WITH DOUBLE ORNAMENT;1TURNED SWIRL BIRGA WITH DOUBLE ORNAMENT",
  "11680 TAKRI LETTER A;2AA;2I;2II;2U;2UU;2E;2AI;2O;2AU;2KA;2KHA;2GA;2GHA;2NGA;2CA;2CHA;2JA;2JHA",
  "11693 TAKRI LETTER NYA;2TTA;2TTHA;2DDA;2DDHA;2NNA;2TA;2THA;2DA;2DHA;2NA;2PA;2PHA;2BA;2BHA;2MA",
  "116a3 TAKRI LETTER YA;2RA;2LA;2VA;2SHA;2SA;2HA;2RRA;1SIGN ANUSVARA;2VISARGA;1VOWEL SIGN AA;3I",
  "116af TAKRI VOWEL SIGN II;3U;3UU;3E;3AI;3O;3AU;1SIGN VIRAMA;2NUKTA;1LETTER ARCHAIC KHA",
  "116b9 TAKRI ABBREVIATION SIGN",
  "116c0 TAKRI DIGIT ZERO;2ONE;2TWO;2THREE;2FOUR;2FIVE;2SIX;2SEVEN;2EIGHT;2NINE",
  "11700 AHOM LETTER KA;2KHA;2NGA;2NA;2TA;2ALTERNATE TA;2PA;2PHA;2BA;2MA;2JA;2CHA;2THA;2RA;2LA;2SA",
  "11710 AHOM LETTER NYA;2HA;2A;2DA;2DHA;2GA;2ALTERNATE GA;2GHA;2BHA;2JHA;2ALTERNATE BA",
  "1171d AHOM CONSONANT SIGN MEDIAL LA;4RA;4LIGATING RA;1VOWEL SIGN A;3AA;3I;3II;3U;3UU;3E;3AW;3O",
  "11729 AHOM VOWEL SIGN AI;3AM;1SIGN KILLER",
  "11730 AHOM DIGIT ZERO;2ONE;2TWO;2THREE;2FOUR;2FIVE;2SIX;2SEVEN;2EIGHT;2NINE;1NUMBER TEN;2TWENTY",
  "1173c AHOM SIGN SMALL SECTION;2SECTION;2RULAI;1SYMBOL VI;1LETTER CA;2TTA;2TTHA;2DDA;2DDHA;2NNA",
  "11746 AHOM LETTER LLA",
  "11800 DOGRA LETTER A;2AA;2I;2II;2U;2UU;2E;2AI;2O;2AU;2KA;2KHA;2GA;2GHA;2NGA;2CA;2CHA;2JA;2JHA",
  "11813 DOGRA LETTER NYA;2TTA;2TTHA;2DDA;2DDHA;2NNA;2TA;2THA;2DA;2DHA;2NA;2PA;2PHA;2BA;2BHA;2MA",
  "11823 DOGRA LETTER YA;2RA;2LA;2VA;2SHA;2SSA;2SA;2HA;2RRA;1VOWEL SIGN AA;3I;3II;3U;3UU",
  "11831 DOGRA VOWEL SIGN VOCALIC R;4RR;3E;3AI;3O;3AU;1SIGN ANUSVARA;2VISARGA;2VIRAMA;2NUKTA",
  "1183b DOGRA ABBREVIATION SIGN",
  "118a0 WARANG CITI CAPITAL LETTER NGAA;4A;4WI;4YU;4YA;4YO;4II;4UU;4E;4O;4ANG;4GA;4KO;4ENY;4YUJ",
  "118af WARANG CITI CAPITAL LETTER UC;4ENN;4ODD;4TTE;4NUNG;4DA;4AT;4AM;4BU;4PU;4HIYO;4HOLO;4HORR",
  "118bc WARANG CITI CAPITAL LETTER HAR;4SSUU;4SII;4VIYO;2SMALL LETTER NGAA;4A;4WI;4YU;4YA;4YO;4II",
  "118c7 WARANG CITI SMALL LETTER UU;4E;4O;4ANG;4GA;4KO;4ENY;4YUJ;4UC;4ENN;4ODD;4TTE;4NUNG;4DA;4AT",
  "118d6 WARANG CITI SMALL LETTER AM;4BU;4PU;4HIYO;4HOLO;4HORR;4HAR;4SSUU;4SII;4VIYO;2DIGIT ZERO",
  "118e1 WARANG CITI DIGIT ONE;3TWO;3THREE;3FOUR;3FIVE;3SIX;3SEVEN;3EIGHT;3NINE;2NUMBER TEN",
  "118eb WARANG CITI NUMBER TWENTY;3THIRTY;3FORTY;3FIFTY;3SIXTY;3SEVENTY;3EIGHTY;3NINETY",
  "118ff WARANG CITI OM;0DIVES AKURU LETTER A;3AA;3I;3II;3U;3UU;3E",
  "11909 DIVES AKURU LETTER O",
  "1190c DIVES AKURU LETTER KA;3KHA;3GA;3GHA;3NGA;3CA;3CHA;3JA",
  "11915 DIVES AKURU LETTER NYA;3TTA",
  "11918 DIVES AKURU LETTER DDA;3DDHA;3NNA;3TA;3THA;3DA;3DHA;3NA;3PA;3PHA;3BA;3BHA;3MA;3YA;3YYA",
  "11927 DIVES AKURU LETTER RA;3LA;3VA;3SHA;3SSA;3SA;3HA;3LLA;3ZA;2VOWEL SIGN AA;4I;4II;4U;4UU;4E",
  "11937 DIVES AKURU VOWEL SIGN AI;4O",
  "1193b DIVES AKURU SIGN ANUSVARA;3CANDRABINDU;3HALANTA;2VIRAMA;2PREFIXED NASAL SIGN;2MEDIAL YA",
  "11941 DIVES AKURU INITIAL RA;2MEDIAL RA;2SIGN NUKTA;2DOUBLE DANDA;2GAP FILLER;2END OF TEXT MARK",
  "11950 DIVES AKURU DIGIT ZERO;3ONE;3TWO;3THREE;3FOUR;3FIVE;3SIX;3SEVEN;3EIGHT;3NINE",
  "119a0 NANDINAGARI LETTER A;2AA;2I;2II;2U;2UU;2VOCALIC R;3RR",
  "119aa NANDINAGARI LETTER E;2AI;2O;2AU;2KA;2KHA;2GA;2GHA;2NGA;2CA;2CHA;2JA;2JHA;2NYA;2TTA;2TTHA",
  "119ba NANDINAGARI LETTER DDA;2DDHA;2NNA;2TA;2THA;2DA;2DHA;2NA;2PA;2PHA;2BA;2BHA;2MA;2YA;2RA;2LA",
  "119ca NANDINAGARI LETTER VA;2SHA;2SSA;2SA;2HA;2LLA;2RRA;1VOWEL SIGN AA;3I;3II;3U;3UU;3VOCALIC R",
  "119d7 NANDINAGARI VOWEL SIGN VOCALIC RR",
  "119da NANDINAGARI VOWEL SIGN E;3AI;3O;3AU;1SIGN ANUSVARA;2VISARGA;2VIRAMA;2AVAGRAHA;2SIDDHAM",
  "119e3 NANDINAGARI HEADSTROKE;1VOWEL SIGN PRISHTHAMATRA E",
  "11a00 ZANABAZAR SQUARE LETTER A;2VOWEL SIGN I;4UE;4U;4E;4OE;4O;4AI;4AU;4REVERSED I;3LENGTH MARK",
  "11a0b ZANABAZAR SQUARE LETTER KA;3KHA;3GA;3GHA;3NGA;3CA;3CHA;3JA;3NYA;3TTA;3TTHA;3DDA;3DDHA",
  "11a18 ZANABAZAR SQUARE LETTER NNA;3TA;3THA;3DA;3DHA;3NA;3PA;3PHA;3BA;3BHA;3MA;3TSA;3TSHA;3DZA",
  "11a26 ZANABAZAR SQUARE LETTER DZHA;3ZHA;3ZA;3-A;3YA;3RA;3LA;3VA;3SHA;3SSA;3SA;3HA;3KSSA",
  "11a33 ZANABAZAR SQUARE FINAL CONSONANT MARK;2SIGN VIRAMA;3CANDRABINDU;4WITH ORNAMENT",
  "11a37 ZANABAZAR SQUARE SIGN CANDRA WITH ORNAMENT;3ANUSVARA;3VISARGA;2CLUSTER-INITIAL LETTER RA",
  "11a3b ZANABAZAR SQUARE CLUSTER-FINAL LETTER YA;4RA;4LA;4VA;2INITIAL HEAD MARK",
  "11a40 ZANABAZAR SQUARE CLOSING HEAD MARK;2MARK TSHEG;3SHAD;3DOUBLE SHAD;3LONG TSHEG",
  "11a45 ZANABAZAR SQUARE INITIAL DOUBLE-LINED HEAD MARK;2CLOSING DOUBLE-LINED HEAD MARK",
  "11a47 ZANABAZAR SQUARE SUBJOINER",
  "11a50 SOYOMBO LETTER A;1VOWEL SIGN I;3UE;3U;3E;3O;3OE;3AI;3AU;3VOCALIC R;4L;2LENGTH MARK",
  "11a5c SOYOMBO LETTER KA;2KHA;2GA;2GHA;2NGA;2CA;2CHA;2JA;2JHA;2NYA;2TTA;2TTHA;2DDA;2DDHA;2NNA",
  "11a6b SOYOMBO LETTER TA;2THA;2DA;2DHA;2NA;2PA;2PHA;2BA;2BHA;2MA;2TSA;2TSHA;2DZA;2ZHA;2ZA;2-A",
  "11a7b SOYOMBO LETTER YA;2RA;2LA;2VA;2SHA;2SSA;2SA;2HA;2KSSA;1SIGN JIHVAMULIYA;2UPADHMANIYA",
  "11a86 SOYOMBO CLUSTER-INITIAL LETTER RA;3LA;3SHA;3SA;1FINAL CONSONANT SIGN G;4K;4NG;4D;4N;4B;4M",
  "11a91 SOYOMBO FINAL CONSONANT SIGN R;4L;4SH;4S;4-A;1SIGN ANUSVARA;2VISARGA;1GEMINATION MARK",
  "11a99 SOYOMBO SUBJOINER;1MARK TSHEG;2SHAD;2DOUBLE SHAD;2PLUTA",
  "11a9e SOYOMBO HEAD MARK WITH MOON AND SUN AND TRIPLE FLAME;8FLAME;6SUN;1TERMINAL MARK-1;2MARK-2",
  "11ab0 CANADIAN SYLLABICS NATTILIK HI;3HII;3HO;3HOO;3HA;3HAA;3SHRI;3SHRII;3SHRO;3SHROO;3SHRA",
  "11abb CANADIAN SYLLABICS NATTILIK SHRAA;2SPE;2SPI;2SPO;2SPA;0PAU CIN HAU LETTER PA;4KA;4LA;4MA",
  "11ac4 PAU CIN HAU LETTER DA;4ZA;4VA;4NGA;4HA;4GA;4KHA;4SA;4BA;4CA;4TA;4THA;4NA;4PHA;4RA;4FA",
  "11ad4 PAU CIN HAU LETTER CHA;4A;4E;4I;4O;4U;4UA;4IA;4FINAL P;5K;5T;5M;5N;5L;5W;5NG;5Y",
  "11ae5 PAU CIN HAU RISING TONE LONG;4TONE;3SANDHI GLOTTAL STOP;3RISING TONE LONG FINAL;5FINAL",
  "11aea PAU CIN HAU SANDHI GLOTTAL STOP FINAL;4TONE LONG;4TONE;5LONG FINAL;5FINAL;3MID-LEVEL TONE",
  "11af0 PAU CIN HAU GLOTTAL STOP VARIANT;3MID-LEVEL TONE LONG FINAL;5FINAL;3LOW-FALLING TONE LONG",
  "11af4 PAU CIN HAU LOW-FALLING TONE;3GLOTTAL STOP;3LOW-FALLING TONE LONG FINAL;5FINAL",
  "11af8 PAU CIN HAU GLOTTAL STOP FINAL",
  "11c00 BHAIKSUKI LETTER A;2AA;2I;2II;2U;2UU;2VOCALIC R;3RR;3L",
  "11c0a BHAIKSUKI LETTER E;2AI;2O;2AU;2KA;2KHA;2GA;2GHA;2NGA;2CA;2CHA;2JA;2JHA;2NYA;2TTA;2TTHA",
  "11c1a BHAIKSUKI LETTER DDA;2DDHA;2NNA;2TA;2THA;2DA;2DHA;2NA;2PA;2PHA;2BA;2BHA;2MA;2YA;2RA;2LA",
  "11c2a BHAIKSUKI LETTER VA;2SHA;2SSA;2SA;2HA;1VOWEL SIGN AA;3I;3II;3U;3UU;3VOCALIC R;4RR;4L",
  "11c38 BHAIKSUKI VOWEL SIGN E;3AI;3O;3AU;1SIGN CANDRABINDU;2ANUSVARA;2VISARGA;2VIRAMA;2AVAGRAHA",
  "11c41 BHAIKSUKI DANDA;1DOUBLE DANDA;1WORD SEPARATOR;1GAP FILLER-1;2FILLER-2",
  "11c50 BHAIKSUKI DIGIT ZERO;2ONE;2TWO;2THREE;2FOUR;2FIVE;2SIX;2SEVEN;2EIGHT;2NINE;1NUMBER ONE",
  "11c5b BHAIKSUKI NUMBER TWO;2THREE;2FOUR;2FIVE;2SIX;2SEVEN;2EIGHT;2NINE;2TEN;2TWENTY;2THIRTY",
  "11c66 BHAIKSUKI NUMBER FORTY;2FIFTY;2SIXTY;2SEVENTY;2EIGHTY;2NINETY;1HUNDREDS UNIT MARK",
  "11c70 MARCHEN HEAD MARK;1MARK SHAD;1LETTER KA;2KHA;2GA;2NGA;2CA;2CHA;2JA;2NYA;2TA;2THA;2DA;2NA",
  "11c7e MARCHEN LETTER PA;2PHA;2BA;2MA;2TSA;2TSHA;2DZA;2WA;2ZHA;2ZA;2-A;2YA;2RA;2LA;2SHA;2SA;2HA",
  "11c8f MARCHEN LETTER A",
  "11c92 MARCHEN SUBJOINED LETTER KA;3KHA;3GA;3NGA;3CA;3CHA;3JA;3NYA;3TA;3THA;3DA;3NA;3PA;3PHA;3BA",
  "11ca1 MARCHEN SUBJOINED LETTER MA;3TSA;3TSHA;3DZA;3WA;3ZHA;3ZA",
  "11ca9 MARCHEN SUBJOINED LETTER YA;3RA;3LA;3SHA;3SA;3HA;3A;1VOWEL SIGN AA;3I;3U;3E;3O",
  "11cb5 MARCHEN SIGN ANUSVARA;2CANDRABINDU",
  "11d00 MASARAM GONDI LETTER A;3AA;3I;3II;3U;3UU;3E",
  "11d08 MASARAM GONDI LETTER AI;3O",
  "11d0b MASARAM GONDI LETTER AU;3KA;3KHA;3GA;3GHA;3NGA;3CA;3CHA;3JA;3JHA;3NYA;3TTA;3TTHA;3DDA",
  "11d19 MASARAM GONDI LETTER DDHA;3NNA;3TA;3THA;3DA;3DHA;3NA;3PA;3PHA;3BA;3BHA;3MA;3YA;3RA;3LA",
  "11d28 MASARAM GONDI LETTER VA;3SHA;3SSA;3SA;3HA;3LLA;3KSSA;3JNYA;3TRA;2VOWEL SIGN AA;4I;4II;4U",
  "11d35 MASARAM GONDI VOWEL SIGN UU;4VOCALIC R",
  "11d3a MASARAM GONDI VOWEL SIGN E",
  "11d3c MASARAM GONDI VOWEL SIGN AI;4O",
  "11d3f MASARAM GONDI VOWEL SIGN AU;2SIGN ANUSVARA;3VISARGA;3NUKTA;3CANDRA;3HALANTA;2VIRAMA",
  "11d46 MASARAM GONDI REPHA;2RA-KARA",
  "11d50 MASARAM GONDI DIGIT ZERO;3ONE;3TWO;3THREE;3FOUR;3FIVE;3SIX;3SEVEN;3EIGHT;3NINE",
  "11d60 GUNJALA GONDI LETTER A;3AA;3I;3II;3U;3UU",
  "11d67 GUNJALA GONDI LETTER EE;3AI",
  "11d6a GUNJALA GONDI LETTER OO;3AU;3YA;3VA;3BA;3BHA;3MA;3KA;3KHA;3TA;3THA;3LA;3GA;3GHA;3DA;3DHA",
  "11d7a GUNJALA GONDI LETTER NA;3CA;3CHA;3TTA;3TTHA;3LLA;3JA;3JHA;3DDA;3DDHA;3NGA;3PA;3PHA;3HA",
  "11d88 GUNJALA GONDI LETTER RA;3SA;2VOWEL SIGN AA;4I;4II;4U;4UU",
  "11d90 GUNJALA GONDI VOWEL SIGN EE;4AI",
  "11d93 GUNJALA GONDI VOWEL SIGN OO;4AU;2SIGN ANUSVARA;3VISARGA;2VIRAMA;2OM",
  "11da0 GUNJALA GONDI DIGIT ZERO;3ONE;3TWO;3THREE;3FOUR;3FIVE;3SIX;3SEVEN;3EIGHT;3NINE",
  "11ee0 MAKASAR LETTER KA;2GA;2NGA;2PA;2BA;2MA;2TA;2DA;2NA;2CA;2JA;2NYA;2YA;2RA;2LA;2VA;2SA;2A",
  "11ef2 MAKASAR ANGKA;1VOWEL SIGN I;3U;3E;3O;1PASSIMBANG;1END OF SECTION",
  "11fb0 LISU LETTER YHA",
  "11fc0 TAMIL FRACTION ONE THREE-HUNDRED-AND-TWENTIETH;3ONE-HUNDRED-AND-SIXTIETH;3EIGHTIETH",
  "11fc3 TAMIL FRACTION ONE SIXTY-FOURTH;3FORTIETH;3THIRTY-SECOND;2THREE EIGHTIETHS;3SIXTY-FOURTHS",
  "11fc8 TAMIL FRACTION ONE TWENTIETH;3SIXTEENTH-1;3SIXTEENTH-2;3TENTH;3EIGHTH;2THREE TWENTIETHS",
  "11fce TAMIL FRACTION THREE SIXTEENTHS;2ONE FIFTH;3QUARTER;3HALF-1;3HALF-2;2THREE QUARTERS",
  "11fd4 TAMIL FRACTION DOWNSCALING FACTOR KIIZH;1SIGN NEL;2CEVITU;2AAZHAAKKU;2UZHAKKU",
  "11fd9 TAMIL SIGN MUUVUZHAKKU;2KURUNI;2PATHAKKU;2MUKKURUNI;2KAACU;2PANAM;2PON;2VARAAKAN;2PAARAM",
  "11fe2 TAMIL SIGN KUZHI;2VELI;1WET CULTIVATION SIGN;1DRY CULTIVATION SIGN;1LAND SIGN",
  "11fe7 TAMIL SALT PAN SIGN;1TRADITIONAL CREDIT SIGN;2NUMBER SIGN;1CURRENT SIGN;1AND ODD SIGN",
  "11fec TAMIL SPENT SIGN;1TOTAL SIGN;1IN POSSESSION SIGN;1STARTING FROM SIGN;1SIGN MUTHALIYA",
  "11ff1 TAMIL SIGN VAKAIYARAA",
  "11fff TAMIL PUNCTUATION END OF TEXT;0CUNEIFORM SIGN A;3TIMES A;4BAD;4GAN2 TENU;4HA;4IGI",
  "12006 CUNEIFORM SIGN A TIMES LAGAR GUNU;4MUSH;4SAG;2A2;2AB;3TIMES ASH2;4DUN3 GUNU;4GAL",
  "1200e CUNEIFORM SIGN AB TIMES GAN2 TENU;4HA;4IGI GUNU;4IMIN;4LAGAB;4SHESH;4U PLUS U PLUS U",
  "12015 CUNEIFORM SIGN AB GUNU;2AB2;3TIMES BALAG;4GAN2 TENU;4ME PLUS EN;4SHA3;4TAK4;2AD;2AK",
  "1201e CUNEIFORM SIGN AK TIMES ERIN2;4SHITA PLUS GISH;2AL;3TIMES AL;4DIM2;4GISH;4HA;4KAD3;4KI",
  "12027 CUNEIFORM SIGN AL TIMES SHE;4USH;2ALAN;2ALEPH;2AMAR;3TIMES SHE;2AN;3OVER AN;3THREE TIMES",
  "12030 CUNEIFORM SIGN AN PLUS NAGA OPPOSING AN PLUS NAGA;5SQUARED;2ANSHE;2APIN;2ARAD;3TIMES KUR",
  "12036 CUNEIFORM SIGN ARKAB;2ASAL2;2ASH;3ZIDA TENU;3KABA TENU",
  "1203b CUNEIFORM SIGN ASH OVER ASH TUG2 OVER TUG2 TUG2 OVER TUG2 PAP;5OVER ASH",
  "1203d CUNEIFORM SIGN ASH OVER ASH OVER ASH CROSSING ASH OVER ASH OVER ASH;2ASH2;2ASHGAB;2BA",
  "12041 CUNEIFORM SIGN BAD;2BAG3;2BAHAR2;2BAL;3OVER BAL;2BALAG;2BAR;2BARA2;2BI;3TIMES A;4GAR",
  "1204c CUNEIFORM SIGN BI TIMES IGI GUNU;2BU;3OVER BU AB;5UN;3CROSSING BU;2BULUG;3OVER BULUG;2BUR",
  "12054 CUNEIFORM SIGN BUR2;2DA;2DAG;3KISIM5 TIMES A PLUS MASH;5AMAR;5BALAG;5BI;5GA;6PLUS MASH",
  "1205d CUNEIFORM SIGN DAG KISIM5 TIMES GI;5GIR2;5GUD;5HA;5IR;6PLUS LU;5KAK;5LA;5LU;6PLUS MASH2",
  "12067 CUNEIFORM SIGN DAG KISIM5 TIMES LUM;5NE;5PAP PLUS PAP;5SI;5TAK4;5U2 PLUS GIR2;5USH;2DAM",
  "1206f CUNEIFORM SIGN DAR;2DARA3;2DARA4;2DI;2DIB;2DIM;3TIMES SHE;2DIM2;2DIN;3KASKAL U GUNU DISH",
  "12079 CUNEIFORM SIGN DISH;2DU;3OVER DU;3GUNU;3SHESHIG;2DUB;3TIMES ESH2;2DUB2;2DUG;2DUGUD;2DUH",
  "12084 CUNEIFORM SIGN DUN;2DUN3;3GUNU;4GUNU;2DUN4;2DUR2;2E;3TIMES PAP;3OVER E NUN OVER NUN;2E2",
  "1208e CUNEIFORM SIGN E2 TIMES A PLUS HA PLUS DA;4GAR;4MI;4SAL;4SHE;4U;2EDIN;2EGIR;2EL;2EN",
  "12098 CUNEIFORM SIGN EN TIMES GAN2;5TENU;4ME;3CROSSING EN;3OPPOSING EN;3SQUARED;2EREN;2ERIN2",
  "120a0 CUNEIFORM SIGN ESH2;2EZEN;3TIMES A;5PLUS LAL;7TIMES LAL;4AN;4BAD;4DUN3 GUNU;6GUNU;4HA",
  "120aa CUNEIFORM SIGN EZEN TIMES HA GUNU;4IGI GUNU;4KASKAL;5SQUARED;4KU3;4LA;4LAL TIMES LAL;4LI",
  "120b2 CUNEIFORM SIGN EZEN TIMES LU;4U2;4UD;2GA;3GUNU;2GA2;3TIMES A PLUS DA PLUS HA;6HA;6IGI",
  "120bb CUNEIFORM SIGN GA2 TIMES AB2 TENU PLUS TAB;4AN;4ASH;4ASH2 PLUS GAL;4BAD;4BAR PLUS RA;4BUR",
  "120c2 CUNEIFORM SIGN GA2 TIMES BUR PLUS RA;4DA;4DI;4DIM TIMES SHE;4DUB;4EL;5PLUS LA;4EN",
  "120ca CUNEIFORM SIGN GA2 TIMES EN TIMES GAN2 TENU;4GAN2 TENU;4GAR;4GI;4GI4;5PLUS A",
  "120d0 CUNEIFORM SIGN GA2 TIMES GIR2 PLUS SU;4HA PLUS LU PLUS ESH2;4HAL;5PLUS LA;4HI PLUS LI",
  "120d5 CUNEIFORM SIGN GA2 TIMES HUB2;4IGI GUNU;4ISH PLUS HU PLUS ASH;4KAK;4KASKAL;4KID;5PLUS LAL",
  "120dc CUNEIFORM SIGN GA2 TIMES KU3 PLUS AN;4LA;4ME PLUS EN;4MI;4NUN;5OVER NUN;4PA;4SAL;4SAR",
  "120e5 CUNEIFORM SIGN GA2 TIMES SHE;5PLUS TUR;4SHID;4SUM;4TAK4;4U;4UD;5PLUS DU;3OVER GA2;2GABA",
  "120ef CUNEIFORM SIGN GABA CROSSING GABA;2GAD;3OVER GAD GAR OVER GAR;2GAL",
  "120f3 CUNEIFORM SIGN GAL GAD OVER GAD GAR OVER GAR;2GALAM;2GAM;2GAN;2GAN2;3TENU;3OVER GAN2",
  "120fa CUNEIFORM SIGN GAN2 CROSSING GAN2;2GAR;2GAR3;2GASHAN;2GESHTIN;3TIMES KUR;2GI;3TIMES E;4U",
  "12103 CUNEIFORM SIGN GI CROSSING GI;2GI4;3OVER GI4;3CROSSING GI4;2GIDIM;2GIR2;3GUNU;2GIR3",
  "1210b CUNEIFORM SIGN GIR3 TIMES A PLUS IGI;4GAN2 TENU;4IGI;4LU PLUS IGI;4PA;2GISAL;2GISH",
  "12112 CUNEIFORM SIGN GISH CROSSING GISH;3TIMES BAD;4TAK4;3TENU;2GU;3CROSSING GU;2GU2;3TIMES KAK",
  "1211a CUNEIFORM SIGN GU2 TIMES KAK TIMES IGI GUNU;4NUN;4SAL PLUS TUG2;3GUNU;2GUD",
  "1211f CUNEIFORM SIGN GUD TIMES A PLUS KUR;4KUR;3OVER GUD LUGAL;2GUL;2GUM;3TIMES SHE;2GUR;2GUR7",
  "12127 CUNEIFORM SIGN GURUN;2GURUSH;2HA;3TENU;3GUNU;2HAL;2HI;3TIMES ASH;4ASH2;4BAD;4DISH;4GAD",
  "12133 CUNEIFORM SIGN HI TIMES KIN;4NUN;4SHE;4U;2HU;2HUB2;3TIMES AN;4HAL;4KASKAL;4LISH;4UD;2HUL2",
  "1213f CUNEIFORM SIGN I;3A;2IB;2IDIM;3OVER IDIM BUR;5SQUARED;2IG;2IGI;3DIB;3RI",
  "12149 CUNEIFORM SIGN IGI OVER IGI SHIR OVER SHIR UD OVER UD;3GUNU;2IL;3TIMES GAN2 TENU;2IL2;2IM",
  "1214f CUNEIFORM SIGN IM TIMES TAK4;3CROSSING IM;3OPPOSING IM;3SQUARED;2IMIN;2IN;2IR;2ISH;2KA",
  "12158 CUNEIFORM SIGN KA TIMES A;4AD;5PLUS KU3;4ASH2;4BAD;4BALAG;4BAR;4BI;4ERIN2;4ESH2;4GA;4GAL",
  "12164 CUNEIFORM SIGN KA TIMES GAN2 TENU;4GAR;5PLUS SHA3 PLUS A;4GI;4GIR2;4GISH PLUS SAR",
  "1216a CUNEIFORM SIGN KA TIMES GISH CROSSING GISH;4GU;4GUR7;4IGI;4IM;4KAK;4KI;4KID;4LI;4LU;4ME",
  "12175 CUNEIFORM SIGN KA TIMES ME PLUS DU;6GI;6TE;4MI;5PLUS NUNUZ;4NE;4NUN;4PI;4RU;4SA;4SAR;4SHA",
  "12181 CUNEIFORM SIGN KA TIMES SHE;4SHID;4SHU;4SIG;4SUHUR;4TAR;4U;4U2;4UD;4UMUM TIMES PA;4USH",
  "1218c CUNEIFORM SIGN KA TIMES ZI;2KA2;3CROSSING KA2;2KAB;2KAD2;2KAD3;2KAD4;2KAD5;3OVER KAD5",
  "12195 CUNEIFORM SIGN KAK;3TIMES IGI GUNU;2KAL;3TIMES BAD;3CROSSING KAL;2KAM2;2KAM4;2KASKAL",
  "1219d CUNEIFORM SIGN KASKAL LAGAB TIMES U OVER LAGAB TIMES U",
  "1219e CUNEIFORM SIGN KASKAL OVER KASKAL LAGAB TIMES U OVER LAGAB TIMES U;2KESH2;2KI;3TIMES BAD",
  "121a2 CUNEIFORM SIGN KI TIMES U;4UD;2KID;2KIN;2KISAL;2KISH;2KISIM5;3OVER KISIM5;2KU",
  "121ab CUNEIFORM SIGN KU OVER HI TIMES ASH2 KU OVER HI TIMES ASH2;2KU3;2KU4;3VARIANT FORM;2KU7",
  "121b0 CUNEIFORM SIGN KUL;3GUNU;2KUN;2KUR;3OPPOSING KUR;2KUSHU2;2KWU318;2LA;2LAGAB;3TIMES A",
  "121ba CUNEIFORM SIGN LAGAB TIMES A PLUS DA PLUS HA;6GAR;6LAL;4AL;4AN;4ASH ZIDA TENU;4BAD;4BI",
  "121c2 CUNEIFORM SIGN LAGAB TIMES DAR;4EN;4GA;4GAR;4GUD;5PLUS GUD;4HA;4HAL;4HI TIMES NUN",
  "121cb CUNEIFORM SIGN LAGAB TIMES IGI GUNU;4IM;5PLUS HA;6LU;4KI;4KIN;4KU3;4KUL;5PLUS HI PLUS A",
  "121d4 CUNEIFORM SIGN LAGAB TIMES LAGAB;4LISH;4LU;4LUL;4ME;5PLUS EN;4MUSH;4NE;4SHE PLUS SUM",
  "121dd CUNEIFORM SIGN LAGAB TIMES SHITA PLUS GISH PLUS ERIN2;7TENU;4SHU2;5PLUS SHU2;4SUM;4TAG",
  "121e3 CUNEIFORM SIGN LAGAB TIMES TAK4;4TE PLUS A PLUS SU PLUS NA;4U;5PLUS A;6U PLUS U",
  "121e8 CUNEIFORM SIGN LAGAB TIMES U2 PLUS ASH;4UD;4USH;3SQUARED;2LAGAR;3TIMES SHE;5PLUS SUM",
  "121ef CUNEIFORM SIGN LAGAR GUNU;4OVER LAGAR GUNU SHE;2LAHSHU;2LAL;3TIMES LAL;2LAM;3TIMES KUR",
  "121f6 CUNEIFORM SIGN LAM TIMES KUR PLUS RU;2LI;2LIL;2LIMMU2;2LISH;2LU;3TIMES BAD;2LU2;3TIMES AL",
  "121ff CUNEIFORM SIGN LU2 TIMES BAD;4ESH2;5TENU;4GAN2 TENU;4HI TIMES BAD;4IM;4KAD2;4KAD3",
  "12207 CUNEIFORM SIGN LU2 TIMES KAD3 PLUS ASH;4KI;4LA PLUS ASH;4LAGAB;4ME PLUS EN;4NE;4NU",
  "1220e CUNEIFORM SIGN LU2 TIMES SI PLUS ASH;4SIK2 PLUS BU;4TUG2;3TENU;3CROSSING LU2",
  "12213 CUNEIFORM SIGN LU2 OPPOSING LU2;3SQUARED;3SHESHIG;2LU3;2LUGAL;3OVER LUGAL;3OPPOSING LUGAL",
  "1221a CUNEIFORM SIGN LUGAL SHESHIG;2LUH;2LUL;2LUM;3OVER LUM;5GAR OVER GAR;2MA;3TIMES TAK4;3GUNU",
  "12223 CUNEIFORM SIGN MA2;2MAH;2MAR;2MASH;2MASH2;2ME;2MES;2MI;2MIN;2MU;3OVER MU;2MUG;3GUNU",
  "12230 CUNEIFORM SIGN MUNSUB;2MURGU2;2MUSH;3TIMES A;4KUR;4ZA;3OVER MUSH;5TIMES A PLUS NA",
  "12238 CUNEIFORM SIGN MUSH CROSSING MUSH;2MUSH3;3TIMES A;5PLUS DI;4DI;3GUNU;2NA;2NA2;2NAGA",
  "12241 CUNEIFORM SIGN NAGA INVERTED;3TIMES SHU TENU;3OPPOSING NAGA;2NAGAR;2NAM NUTILLU;2NAM",
  "12247 CUNEIFORM SIGN NAM2;2NE;3TIMES A;4UD;3SHESHIG;2NI;3TIMES E;2NI2;2NIM;3TIMES GAN2 TENU",
  "12251 CUNEIFORM SIGN NIM TIMES GAR PLUS GAN2 TENU;2NINDA2;3TIMES AN;4ASH;5PLUS ASH;4GUD",
  "12257 CUNEIFORM SIGN NINDA2 TIMES ME PLUS GAN2 TENU;4NE;4NUN;4SHE;5PLUS A AN;6ASH;7PLUS ASH",
  "1225e CUNEIFORM SIGN NINDA2 TIMES U2 PLUS ASH;4USH;2NISAG;2NU;2NU11;2NUN;3LAGAR TIMES GAR;5MASH",
  "12266 CUNEIFORM SIGN NUN LAGAR TIMES SAL;6OVER NUN LAGAR TIMES SAL;5USH;3TENU;3OVER NUN",
  "1226b CUNEIFORM SIGN NUN CROSSING NUN;5LAGAR OVER LAGAR;2NUNUZ;3AB2 TIMES ASHGAB;5BI;5DUG;5GUD",
  "12272 CUNEIFORM SIGN NUNUZ AB2 TIMES IGI GUNU;5KAD3;5LA;5NE;5SILA3;5U2;3KISIM5 TIMES BI;6U;2PA",
  "1227b CUNEIFORM SIGN PAD;2PAN;2PAP;2PESH2;2PI;3TIMES A;4AB;4BI;4BU;4E;4I;4IB;4U;4U2",
  "12289 CUNEIFORM SIGN PI CROSSING PI;2PIRIG;3TIMES KAL;4UD;4ZA;3OPPOSING PIRIG;2RA;2RAB;2RI;2RU",
  "12293 CUNEIFORM SIGN SA;2SAG NUTILLU;2SAG;3TIMES A;4DU;4DUB;4HA;4KAK;4KUR;4LUM;4MI;4NUN;4SAL",
  "122a0 CUNEIFORM SIGN SAG TIMES SHID;4TAB;4U2;4UB;4UM;4UR;4USH;3OVER SAG;3GUNU;2SAL",
  "122aa CUNEIFORM SIGN SAL LAGAB TIMES ASH2;2SANGA2;2SAR;2SHA;2SHA3;3TIMES A;4BAD;4GISH;4NE;4SHU2",
  "122b4 CUNEIFORM SIGN SHA3 TIMES TUR;4U;5PLUS A;2SHA6;2SHAB6;2SHAR2;2SHE;3HU",
  "122bc CUNEIFORM SIGN SHE OVER SHE GAD OVER GAD GAR OVER GAR;5TAB OVER TAB GAR OVER GAR;2SHEG9",
  "122bf CUNEIFORM SIGN SHEN;2SHESH;2SHESH2;2SHESHLAM;2SHID;3TIMES A;4IM;2SHIM;3TIMES A;4BAL",
  "122c9 CUNEIFORM SIGN SHIM TIMES BULUG;4DIN;4GAR;4IGI;5GUNU;4KUSHU2;4LUL;4MUG;4SAL;2SHINIG;2SHIR",
  "122d4 CUNEIFORM SIGN SHIR TENU;3OVER SHIR BUR OVER BUR;2SHITA;2SHU;3OVER INVERTED SHU;2SHU2",
  "122da CUNEIFORM SIGN SHUBUR;2SI;3GUNU;2SIG;2SIG4;3OVER SIG4 SHU2;2SIK2;2SILA3;2SU;3OVER SU;2SUD",
  "122e5 CUNEIFORM SIGN SUD2;2SUHUR;2SUM;2SUMASH;2SUR;2SUR9;2TA;3ASTERISK;3TIMES HI;4MI;3GUNU;2TAB",
  "122f1 CUNEIFORM SIGN TAB OVER TAB NI OVER NI DISH OVER DISH;3SQUARED;2TAG;3TIMES BI;4GUD;4SHE",
  "122f7 CUNEIFORM SIGN TAG TIMES SHU;4TUG2;4UD;2TAK4;2TAR;2TE;3GUNU;2TI;3TENU;2TIL;2TIR",
  "12302 CUNEIFORM SIGN TIR TIMES TAK4;3OVER TIR;5GAD OVER GAD GAR OVER GAR;2TU;2TUG2;2TUK;2TUM",
  "12309 CUNEIFORM SIGN TUR;3OVER TUR ZA OVER ZA;2U;3GUD;3U U;3OVER U PA OVER PA GAR OVER GAR",
  "1230f CUNEIFORM SIGN U OVER U SUR OVER SUR;5U REVERSED OVER U REVERSED;2U2;2UB;2UD;3KUSHU2",
  "12315 CUNEIFORM SIGN UD TIMES BAD;4MI;4U PLUS U PLUS U;9GUNU;3GUNU;3SHESHIG;4TIMES BAD;2UDUG",
  "1231d CUNEIFORM SIGN UM;3TIMES LAGAB;4ME PLUS DA;4SHA3;4U;2UMBIN;2UMUM;3TIMES KASKAL;4PA;2UN",
  "12327 CUNEIFORM SIGN UN GUNU;2UR;3CROSSING UR;3SHESHIG;2UR2;3TIMES A PLUS HA;6NA;4AL;4HA;4NUN",
  "12331 CUNEIFORM SIGN UR2 TIMES U2;5PLUS ASH;6BI;2UR4;2URI;2URI3;2URU;3TIMES A;4ASHGAB;4BAR;4DUN",
  "1233c CUNEIFORM SIGN URU TIMES GA;4GAL;4GAN2 TENU;4GAR;4GU;4HA;4IGI;4IM;4ISH;4KI;4LUM;4MIN;4PA",
  "12349 CUNEIFORM SIGN URU TIMES SHE;4SIG4;4TU;4U PLUS GUD;4UD;4URUDA;2URUDA;3TIMES U;2USH",
  "12352 CUNEIFORM SIGN USH TIMES A;4KU;4KUR;4TAK4;2USHX;2USH2;2USHUMX;2UTUKI;2UZ3;3TIMES KASKAL",
  "1235c CUNEIFORM SIGN UZU;2ZA;3TENU;3SQUARED TIMES KUR;2ZAG;2ZAMX;2ZE2;2ZI;3OVER ZI;2ZI3;2ZIB",
  "12367 CUNEIFORM SIGN ZIB KABA TENU;2ZIG;2ZIZ2;2ZU;2ZU5;3TIMES A;2ZUBUR;2ZUM;2KAP ELAMITE",
  "12370 CUNEIFORM SIGN AB TIMES NUN;2AB2 TIMES A;2AMAR TIMES KUG;2DAG KISIM5 TIMES U2 PLUS MASH",
  "12374 CUNEIFORM SIGN DAG3;2DISH PLUS SHU;2DUB TIMES SHE;2EZEN TIMES GUD;4SHE",
  "12379 CUNEIFORM SIGN GA2 TIMES AN PLUS KAK PLUS A;4ASH2;2GE22;2GIG;2HUSH;2KA TIMES ANSHE;4ASH3",
  "12380 CUNEIFORM SIGN KA TIMES GISH;4GUD;4HI TIMES ASH2;4LUM;4PA;4SHUL;4TU;4UR2;2LAGAB TIMES GI",
  "12389 CUNEIFORM SIGN LU2 SHESHIG TIMES BAD;3TIMES ESH2 PLUS LAL;4SHU;2MESH;2MUSH3 TIMES ZA;2NA4",
  "1238f CUNEIFORM SIGN NIN;2NIN9;2NINDA2 TIMES BAL;4GI;2NU11 ROTATED NINETY DEGREES",
  "12394 CUNEIFORM SIGN PESH2 ASTERISK;2PIR2;2SAG TIMES IGI GUNU;2TI2;2UM TIMES ME;2U U",
  "12400 CUNEIFORM NUMERIC SIGN TWO ASH;3THREE ASH;3FOUR ASH;3FIVE ASH;3SIX ASH;3SEVEN ASH",
  "12406 CUNEIFORM NUMERIC SIGN EIGHT ASH;3NINE ASH;3THREE DISH;3FOUR DISH;3FIVE DISH;3SIX DISH",
  "1240c CUNEIFORM NUMERIC SIGN SEVEN DISH;3EIGHT DISH;3NINE DISH;3FOUR U;3FIVE U;3SIX U;3SEVEN U",
  "12413 CUNEIFORM NUMERIC SIGN EIGHT U;3NINE U;3ONE GESH2;3TWO GESH2;3THREE GESH2;3FOUR GESH2",
  "12419 CUNEIFORM NUMERIC SIGN FIVE GESH2;3SIX GESH2;3SEVEN GESH2;3EIGHT GESH2;3NINE GESH2",
  "1241e CUNEIFORM NUMERIC SIGN ONE GESHU;3TWO GESHU;3THREE GESHU;3FOUR GESHU;3FIVE GESHU",
  "12423 CUNEIFORM NUMERIC SIGN TWO SHAR2;3THREE SHAR2;5VARIANT FORM;3FOUR SHAR2;3FIVE SHAR2",
  "12428 CUNEIFORM NUMERIC SIGN SIX SHAR2;3SEVEN SHAR2;3EIGHT SHAR2;3NINE SHAR2;3ONE SHARU",
  "1242d CUNEIFORM NUMERIC SIGN TWO SHARU;3THREE SHARU;5VARIANT FORM;3FOUR SHARU;3FIVE SHARU",
  "12432 CUNEIFORM NUMERIC SIGN SHAR2 TIMES GAL PLUS DISH;7MIN;3ONE BURU;3TWO BURU;3THREE BURU",
  "12437 CUNEIFORM NUMERIC SIGN THREE BURU VARIANT FORM;3FOUR BURU;3FIVE BURU",
  "1243a CUNEIFORM NUMERIC SIGN THREE VARIANT FORM ESH16;6ESH21;3FOUR VARIANT FORM LIMMU;6LIMMU4",
  "1243e CUNEIFORM NUMERIC SIGN FOUR VARIANT FORM LIMMU A;7B;3SIX VARIANT FORM ASH9",
  "12441 CUNEIFORM NUMERIC SIGN SEVEN VARIANT FORM IMIN3;6IMIN A;7B;3EIGHT VARIANT FORM USSU",
  "12445 CUNEIFORM NUMERIC SIGN EIGHT VARIANT FORM USSU3;3NINE VARIANT FORM ILIMMU;6ILIMMU3",
  "12448 CUNEIFORM NUMERIC SIGN NINE VARIANT FORM ILIMMU4;6ILIMMU A;3TWO ASH TENU;3THREE ASH TENU",
  "1244c CUNEIFORM NUMERIC SIGN FOUR ASH TENU;3FIVE ASH TENU;3SIX ASH TENU;3ONE BAN2;3TWO BAN2",
  "12451 CUNEIFORM NUMERIC SIGN THREE BAN2;3FOUR BAN2;5VARIANT FORM;3FIVE BAN2;5VARIANT FORM",
  "12456 CUNEIFORM NUMERIC SIGN NIGIDAMIN;3NIGIDAESH;3ONE ESHE3;3TWO ESHE3;3ONE THIRD DISH",
  "1245b CUNEIFORM NUMERIC SIGN TWO THIRDS DISH;3FIVE SIXTHS DISH;3ONE THIRD VARIANT FORM A",
  "1245e CUNEIFORM NUMERIC SIGN TWO THIRDS VARIANT FORM A;3ONE EIGHTH ASH;4QUARTER ASH",
  "12461 CUNEIFORM NUMERIC SIGN OLD ASSYRIAN ONE SIXTH;6QUARTER;3ONE QUARTER GUR;4HALF GUR",
  "12465 CUNEIFORM NUMERIC SIGN ELAMITE ONE THIRD;4TWO THIRDS;4FORTY;4FIFTY;3FOUR U VARIANT FORM",
  "1246a CUNEIFORM NUMERIC SIGN FIVE U VARIANT FORM;3SIX U VARIANT FORM;3SEVEN U VARIANT FORM",
  "1246d CUNEIFORM NUMERIC SIGN EIGHT U VARIANT FORM;3NINE U VARIANT FORM",
  "12470 CUNEIFORM PUNCTUATION SIGN OLD ASSYRIAN WORD DIVIDER;3VERTICAL COLON;3DIAGONAL COLON",
  "12473 CUNEIFORM PUNCTUATION SIGN DIAGONAL TRICOLON;4QUADCOLON",
  "12480 CUNEIFORM SIGN AB TIMES NUN TENU;4SHU2;2AD TIMES ESH2;2BAD TIMES DISH TENU",
  "12484 CUNEIFORM SIGN BAHAR2 TIMES AB2;4NI;4ZA;2BU OVER BU TIMES NA2;2DA TIMES TAK4",
  "12489 CUNEIFORM SIGN DAG TIMES KUR;2DIM TIMES IGI;4U U U;2DIM2 TIMES UD;2DUG TIMES ANSHE;4ASH",
  "1248f CUNEIFORM SIGN DUG TIMES ASH AT LEFT;4DIN;4DUN;4ERIN2;4GA;4GI;4GIR2 GUNU;4GISH;4HA;4HI",
  "12499 CUNEIFORM SIGN DUG TIMES IGI GUNU;4KASKAL;4KUR;4KUSHU2;5PLUS KASKAL;4LAK-020;4LAM",
  "124a0 CUNEIFORM SIGN DUG TIMES LAM TIMES KUR;4LUH PLUS GISH;4MASH;4MES;4MI;4NI;4PI;4SHE",
  "124a8 CUNEIFORM SIGN DUG TIMES SI GUNU;2E2 TIMES KUR;4PAP;2ERIN2 X;2ESH2 CROSSING ESH2",
  "124ad CUNEIFORM SIGN EZEN SHESHIG TIMES ASH;5HI;5IGI GUNU;5LA;5LAL;5ME;5MES;5SU;3TIMES SU",
  "124b6 CUNEIFORM SIGN GA2 TIMES BAHAR2;4DIM GUNU;4DUG TIMES IGI GUNU;6KASKAL;4EREN;4GA",
  "124bc CUNEIFORM SIGN GA2 TIMES GAR PLUS DI;6NE;4HA PLUS A;4KUSHU2 PLUS KASKAL;4LAM;5TIMES KUR",
  "124c2 CUNEIFORM SIGN GA2 TIMES LUH;4MUSH;4NE;5PLUS E2;6GI;4SHIM;4ZIZ2",
  "124c9 CUNEIFORM SIGN GABA ROTATED NINETY DEGREES;2GESHTIN TIMES U",
  "124cb CUNEIFORM SIGN GISH TIMES GISH CROSSING GISH;2GU2 TIMES IGI GUNU",
  "124cd CUNEIFORM SIGN GUD PLUS GISH TIMES TAK4;2HA TENU GUNU;2HI TIMES ASH OVER HI TIMES ASH",
  "124d0 CUNEIFORM SIGN KA TIMES BU;4KA;4U U U;4UR;2LAGAB TIMES ZU OVER ZU;2LAK-003;2LAK-021",
  "124d7 CUNEIFORM SIGN LAK-025;2LAK-030;2LAK-050;2LAK-051;2LAK-062;2LAK-079 OVER LAK-079 GUNU",
  "124dd CUNEIFORM SIGN LAK-080;2LAK-081 OVER LAK-081;2LAK-092;2LAK-130;2LAK-142;2LAK-210;2LAK-219",
  "124e4 CUNEIFORM SIGN LAK-220;2LAK-225;2LAK-228;2LAK-238;2LAK-265;2LAK-266;2LAK-343;2LAK-347",
  "124ec CUNEIFORM SIGN LAK-348;2LAK-383;2LAK-384;2LAK-390;2LAK-441;2LAK-449;3TIMES GU;4IGI",
  "124f4 CUNEIFORM SIGN LAK-449 TIMES PAP PLUS LU3;6PAP PLUS LU3;4U2 PLUS BA;2LAK-450;2LAK-457",
  "124f9 CUNEIFORM SIGN LAK-470;2LAK-483;2LAK-490;2LAK-492;2LAK-493;2LAK-495;2LAK-550;2LAK-608",
  "12501 CUNEIFORM SIGN LAK-617;3TIMES ASH;4BAD;4DUN3 GUNU GUNU;4KU3;4LA;4TAR;4TE;4U2;4UD;4URUDA",
  "1250c CUNEIFORM SIGN LAK-636;2LAK-648;3TIMES DUB;4GA;4IGI;5GUNU;4NI;4PAP PLUS PAP PLUS LU3",
  "12514 CUNEIFORM SIGN LAK-648 TIMES SHESH PLUS KI;4UD;4URUDA;2LAK-724;2LAK-749",
  "12519 CUNEIFORM SIGN LU2 GUNU TIMES ASH;3TIMES DISH;4HAL;4PAP;5PLUS PAP PLUS LU3;4TAK4",
  "1251f CUNEIFORM SIGN MI PLUS ZA7;2MUSH OVER MUSH TIMES GA;6KAK;2NINDA2 TIMES DIM GUNU;4GISH",
  "12524 CUNEIFORM SIGN NINDA2 TIMES GUL;4HI;4KESH2;4LAK-050;4MASH;4PAP PLUS PAP;4U;5PLUS U;4URUDA",
  "1252d CUNEIFORM SIGN SAG GUNU TIMES HA;3TIMES EN;4SHE AT LEFT;4TAK4;2SHA6 TENU;2SHE OVER SHE",
  "12533 CUNEIFORM SIGN SHE PLUS HUB2;4NAM2;4SAR;2SHU2 PLUS DUG TIMES NI;4E2 TIMES AN",
  "12538 CUNEIFORM SIGN SI TIMES TAK4;2TAK4 PLUS SAG;2TUM TIMES GAN2 TENU;4THREE DISH",
  "1253c CUNEIFORM SIGN UR2 INVERTED;3TIMES UD;2URU TIMES DARA3;4LAK-668;4LU3;2ZA7",
  "12542 CUNEIFORM SIGN ZU OVER ZU PLUS SAR;2ZU5 TIMES THREE DISH TENU",
  "12f90 CYPRO-MINOAN SIGN CM001;2CM002;2CM004;2CM005;2CM006;2CM007;2CM008;2CM009;2CM010;2CM011",
  "12f9a CYPRO-MINOAN SIGN CM012;2CM012B;2CM013;2CM015;2CM017;2CM019;2CM021;2CM023;2CM024;2CM025",
  "12fa4 CYPRO-MINOAN SIGN CM026;2CM027;2CM028;2CM029;2CM030;2CM033;2CM034;2CM035;2CM036;2CM037",
  "12fae CYPRO-MINOAN SIGN CM038;2CM039;2CM040;2CM041;2CM044;2CM046;2CM047;2CM049;2CM050;2CM051",
  "12fb8 CYPRO-MINOAN SIGN CM052;2CM053;2CM054;2CM055;2CM056;2CM058;2CM059;2CM060;2CM061;2CM062",
  "12fc2 CYPRO-MINOAN SIGN CM063;2CM064;2CM066;2CM067;2CM068;2CM069;2CM070;2CM071;2CM072;2CM073",
  "12fcc CYPRO-MINOAN SIGN CM074;2CM075;2CM075B;2CM076;2CM078;2CM079;2CM080;2CM081;2CM082;2CM083",
  "12fd6 CYPRO-MINOAN SIGN CM084;2CM085;2CM086;2CM087;2CM088;2CM089;2CM090;2CM091;2CM092;2CM094",
  "12fe0 CYPRO-MINOAN SIGN CM095;2CM096;2CM097;2CM098;2CM099;2CM100;2CM101;2CM102;2CM103;2CM104",
  "12fea CYPRO-MINOAN SIGN CM105;2CM107;2CM108;2CM109;2CM110;2CM112;2CM114;2CM301;2CM302"]

end RuleReview.Text.Table.CharacterName
