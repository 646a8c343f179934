/-! The names of characters from A000 to FFFF, and further names of characters. -/

namespace RuleReview.Text.Table.CharacterName

/-- The first character of a row and its name, then the names of those that follow, each with
the number of words that it has in common with the one before. -/
def forms : List String := [
  "a000 YI SYLLABLE IT;2IX;2I;2IP;2IET;2IEX;2IE;2IEP;2AT;2AX;2A;2AP;2UOX;2UO;2UOP;2OT;2OX;2O;2OP",
  "a013 YI SYLLABLE EX;2E;2WU;2BIT;2BIX;2BI;2BIP;2BIET;2BIEX;2BIE;2BIEP;2BAT;2BAX;2BA;2BAP;2BUOX",
  "a023 YI SYLLABLE BUO;2BUOP;2BOT;2BOX;2BO;2BOP;2BEX;2BE;2BEP;2BUT;2BUX;2BU;2BUP;2BURX;2BUR;2BYT",
  "a033 YI SYLLABLE BYX;2BY;2BYP;2BYRX;2BYR;2PIT;2PIX;2PI;2PIP;2PIEX;2PIE;2PIEP;2PAT;2PAX;2PA;2PAP",
  "a043 YI SYLLABLE PUOX;2PUO;2PUOP;2POT;2POX;2PO;2POP;2PUT;2PUX;2PU;2PUP;2PURX;2PUR;2PYT;2PYX;2PY",
  "a053 YI SYLLABLE PYP;2PYRX;2PYR;2BBIT;2BBIX;2BBI;2BBIP;2BBIET;2BBIEX;2BBIE;2BBIEP;2BBAT;2BBAX",
  "a060 YI SYLLABLE BBA;2BBAP;2BBUOX;2BBUO;2BBUOP;2BBOT;2BBOX;2BBO;2BBOP;2BBEX;2BBE;2BBEP;2BBUT",
  "a06d YI SYLLABLE BBUX;2BBU;2BBUP;2BBURX;2BBUR;2BBYT;2BBYX;2BBY;2BBYP;2NBIT;2NBIX;2NBI;2NBIP",
  "a07a YI SYLLABLE NBIEX;2NBIE;2NBIEP;2NBAT;2NBAX;2NBA;2NBAP;2NBOT;2NBOX;2NBO;2NBOP;2NBUT;2NBUX",
  "a087 YI SYLLABLE NBU;2NBUP;2NBURX;2NBUR;2NBYT;2NBYX;2NBY;2NBYP;2NBYRX;2NBYR;2HMIT;2HMIX;2HMI",
  "a094 YI SYLLABLE HMIP;2HMIEX;2HMIE;2HMIEP;2HMAT;2HMAX;2HMA;2HMAP;2HMUOX;2HMUO;2HMUOP;2HMOT",
  "a0a0 YI SYLLABLE HMOX;2HMO;2HMOP;2HMUT;2HMUX;2HMU;2HMUP;2HMURX;2HMUR;2HMYX;2HMY;2HMYP;2HMYRX",
  "a0ad YI SYLLABLE HMYR;2MIT;2MIX;2MI;2MIP;2MIEX;2MIE;2MIEP;2MAT;2MAX;2MA;2MAP;2MUOT;2MUOX;2MUO",
  "a0bc YI SYLLABLE MUOP;2MOT;2MOX;2MO;2MOP;2MEX;2ME;2MUT;2MUX;2MU;2MUP;2MURX;2MUR;2MYT;2MYX;2MY",
  "a0cc YI SYLLABLE MYP;2FIT;2FIX;2FI;2FIP;2FAT;2FAX;2FA;2FAP;2FOX;2FO;2FOP;2FUT;2FUX;2FU;2FUP",
  "a0dc YI SYLLABLE FURX;2FUR;2FYT;2FYX;2FY;2FYP;2VIT;2VIX;2VI;2VIP;2VIET;2VIEX;2VIE;2VIEP;2VAT",
  "a0eb YI SYLLABLE VAX;2VA;2VAP;2VOT;2VOX;2VO;2VOP;2VEX;2VEP;2VUT;2VUX;2VU;2VUP;2VURX;2VUR;2VYT",
  "a0fb YI SYLLABLE VYX;2VY;2VYP;2VYRX;2VYR;2DIT;2DIX;2DI;2DIP;2DIEX;2DIE;2DIEP;2DAT;2DAX;2DA;2DAP",
  "a10b YI SYLLABLE DUOX;2DUO;2DOT;2DOX;2DO;2DOP;2DEX;2DE;2DEP;2DUT;2DUX;2DU;2DUP;2DURX;2DUR;2TIT",
  "a11b YI SYLLABLE TIX;2TI;2TIP;2TIEX;2TIE;2TIEP;2TAT;2TAX;2TA;2TAP;2TUOT;2TUOX;2TUO;2TUOP;2TOT",
  "a12a YI SYLLABLE TOX;2TO;2TOP;2TEX;2TE;2TEP;2TUT;2TUX;2TU;2TUP;2TURX;2TUR;2DDIT;2DDIX;2DDI",
  "a139 YI SYLLABLE DDIP;2DDIEX;2DDIE;2DDIEP;2DDAT;2DDAX;2DDA;2DDAP;2DDUOX;2DDUO;2DDUOP;2DDOT",
  "a145 YI SYLLABLE DDOX;2DDO;2DDOP;2DDEX;2DDE;2DDEP;2DDUT;2DDUX;2DDU;2DDUP;2DDURX;2DDUR;2NDIT",
  "a152 YI SYLLABLE NDIX;2NDI;2NDIP;2NDIEX;2NDIE;2NDAT;2NDAX;2NDA;2NDAP;2NDOT;2NDOX;2NDO;2NDOP",
  "a15f YI SYLLABLE NDEX;2NDE;2NDEP;2NDUT;2NDUX;2NDU;2NDUP;2NDURX;2NDUR;2HNIT;2HNIX;2HNI;2HNIP",
  "a16c YI SYLLABLE HNIET;2HNIEX;2HNIE;2HNIEP;2HNAT;2HNAX;2HNA;2HNAP;2HNUOX;2HNUO;2HNOT;2HNOX",
  "a178 YI SYLLABLE HNOP;2HNEX;2HNE;2HNEP;2HNUT;2NIT;2NIX;2NI;2NIP;2NIEX;2NIE;2NIEP;2NAX;2NA;2NAP",
  "a187 YI SYLLABLE NUOX;2NUO;2NUOP;2NOT;2NOX;2NO;2NOP;2NEX;2NE;2NEP;2NUT;2NUX;2NU;2NUP;2NURX;2NUR",
  "a197 YI SYLLABLE HLIT;2HLIX;2HLI;2HLIP;2HLIEX;2HLIE;2HLIEP;2HLAT;2HLAX;2HLA;2HLAP;2HLUOX;2HLUO",
  "a1a4 YI SYLLABLE HLUOP;2HLOX;2HLO;2HLOP;2HLEX;2HLE;2HLEP;2HLUT;2HLUX;2HLU;2HLUP;2HLURX;2HLUR",
  "a1b1 YI SYLLABLE HLYT;2HLYX;2HLY;2HLYP;2HLYRX;2HLYR;2LIT;2LIX;2LI;2LIP;2LIET;2LIEX;2LIE;2LIEP",
  "a1bf YI SYLLABLE LAT;2LAX;2LA;2LAP;2LUOT;2LUOX;2LUO;2LUOP;2LOT;2LOX;2LO;2LOP;2LEX;2LE;2LEP;2LUT",
  "a1cf YI SYLLABLE LUX;2LU;2LUP;2LURX;2LUR;2LYT;2LYX;2LY;2LYP;2LYRX;2LYR;2GIT;2GIX;2GI;2GIP;2GIET",
  "a1df YI SYLLABLE GIEX;2GIE;2GIEP;2GAT;2GAX;2GA;2GAP;2GUOT;2GUOX;2GUO;2GUOP;2GOT;2GOX;2GO;2GOP",
  "a1ee YI SYLLABLE GET;2GEX;2GE;2GEP;2GUT;2GUX;2GU;2GUP;2GURX;2GUR;2KIT;2KIX;2KI;2KIP;2KIEX;2KIE",
  "a1fe YI SYLLABLE KIEP;2KAT;2KAX;2KA;2KAP;2KUOX;2KUO;2KUOP;2KOT;2KOX;2KO;2KOP;2KET;2KEX;2KE;2KEP",
  "a20e YI SYLLABLE KUT;2KUX;2KU;2KUP;2KURX;2KUR;2GGIT;2GGIX;2GGI;2GGIEX;2GGIE;2GGIEP;2GGAT;2GGAX",
  "a21c YI SYLLABLE GGA;2GGAP;2GGUOT;2GGUOX;2GGUO;2GGUOP;2GGOT;2GGOX;2GGO;2GGOP;2GGET;2GGEX;2GGE",
  "a229 YI SYLLABLE GGEP;2GGUT;2GGUX;2GGU;2GGUP;2GGURX;2GGUR;2MGIEX;2MGIE;2MGAT;2MGAX;2MGA;2MGAP",
  "a236 YI SYLLABLE MGUOX;2MGUO;2MGUOP;2MGOT;2MGOX;2MGO;2MGOP;2MGEX;2MGE;2MGEP;2MGUT;2MGUX;2MGU",
  "a243 YI SYLLABLE MGUP;2MGURX;2MGUR;2HXIT;2HXIX;2HXI;2HXIP;2HXIET;2HXIEX;2HXIE;2HXIEP;2HXAT",
  "a24f YI SYLLABLE HXAX;2HXA;2HXAP;2HXUOT;2HXUOX;2HXUO;2HXUOP;2HXOT;2HXOX;2HXO;2HXOP;2HXEX;2HXE",
  "a25c YI SYLLABLE HXEP;2NGIEX;2NGIE;2NGIEP;2NGAT;2NGAX;2NGA;2NGAP;2NGUOT;2NGUOX;2NGUO;2NGOT",
  "a268 YI SYLLABLE NGOX;2NGO;2NGOP;2NGEX;2NGE;2NGEP;2HIT;2HIEX;2HIE;2HAT;2HAX;2HA;2HAP;2HUOT",
  "a276 YI SYLLABLE HUOX;2HUO;2HUOP;2HOT;2HOX;2HO;2HOP;2HEX;2HE;2HEP;2WAT;2WAX;2WA;2WAP;2WUOX;2WUO",
  "a286 YI SYLLABLE WUOP;2WOX;2WO;2WOP;2WEX;2WE;2WEP;2ZIT;2ZIX;2ZI;2ZIP;2ZIEX;2ZIE;2ZIEP;2ZAT;2ZAX",
  "a296 YI SYLLABLE ZA;2ZAP;2ZUOX;2ZUO;2ZUOP;2ZOT;2ZOX;2ZO;2ZOP;2ZEX;2ZE;2ZEP;2ZUT;2ZUX;2ZU;2ZUP",
  "a2a6 YI SYLLABLE ZURX;2ZUR;2ZYT;2ZYX;2ZY;2ZYP;2ZYRX;2ZYR;2CIT;2CIX;2CI;2CIP;2CIET;2CIEX;2CIE",
  "a2b5 YI SYLLABLE CIEP;2CAT;2CAX;2CA;2CAP;2CUOX;2CUO;2CUOP;2COT;2COX;2CO;2COP;2CEX;2CE;2CEP;2CUT",
  "a2c5 YI SYLLABLE CUX;2CU;2CUP;2CURX;2CUR;2CYT;2CYX;2CY;2CYP;2CYRX;2CYR;2ZZIT;2ZZIX;2ZZI;2ZZIP",
  "a2d4 YI SYLLABLE ZZIET;2ZZIEX;2ZZIE;2ZZIEP;2ZZAT;2ZZAX;2ZZA;2ZZAP;2ZZOX;2ZZO;2ZZOP;2ZZEX;2ZZE",
  "a2e1 YI SYLLABLE ZZEP;2ZZUX;2ZZU;2ZZUP;2ZZURX;2ZZUR;2ZZYT;2ZZYX;2ZZY;2ZZYP;2ZZYRX;2ZZYR;2NZIT",
  "a2ee YI SYLLABLE NZIX;2NZI;2NZIP;2NZIEX;2NZIE;2NZIEP;2NZAT;2NZAX;2NZA;2NZAP;2NZUOX;2NZUO;2NZOX",
  "a2fb YI SYLLABLE NZOP;2NZEX;2NZE;2NZUX;2NZU;2NZUP;2NZURX;2NZUR;2NZYT;2NZYX;2NZY;2NZYP;2NZYRX",
  "a308 YI SYLLABLE NZYR;2SIT;2SIX;2SI;2SIP;2SIEX;2SIE;2SIEP;2SAT;2SAX;2SA;2SAP;2SUOX;2SUO;2SUOP",
  "a317 YI SYLLABLE SOT;2SOX;2SO;2SOP;2SEX;2SE;2SEP;2SUT;2SUX;2SU;2SUP;2SURX;2SUR;2SYT;2SYX;2SY",
  "a327 YI SYLLABLE SYP;2SYRX;2SYR;2SSIT;2SSIX;2SSI;2SSIP;2SSIEX;2SSIE;2SSIEP;2SSAT;2SSAX;2SSA",
  "a334 YI SYLLABLE SSAP;2SSOT;2SSOX;2SSO;2SSOP;2SSEX;2SSE;2SSEP;2SSUT;2SSUX;2SSU;2SSUP;2SSYT",
  "a341 YI SYLLABLE SSYX;2SSY;2SSYP;2SSYRX;2SSYR;2ZHAT;2ZHAX;2ZHA;2ZHAP;2ZHUOX;2ZHUO;2ZHUOP;2ZHOT",
  "a34e YI SYLLABLE ZHOX;2ZHO;2ZHOP;2ZHET;2ZHEX;2ZHE;2ZHEP;2ZHUT;2ZHUX;2ZHU;2ZHUP;2ZHURX;2ZHUR",
  "a35b YI SYLLABLE ZHYT;2ZHYX;2ZHY;2ZHYP;2ZHYRX;2ZHYR;2CHAT;2CHAX;2CHA;2CHAP;2CHUOT;2CHUOX;2CHUO",
  "a368 YI SYLLABLE CHUOP;2CHOT;2CHOX;2CHO;2CHOP;2CHET;2CHEX;2CHE;2CHEP;2CHUX;2CHU;2CHUP;2CHURX",
  "a375 YI SYLLABLE CHUR;2CHYT;2CHYX;2CHY;2CHYP;2CHYRX;2CHYR;2RRAX;2RRA;2RRUOX;2RRUO;2RROT;2RROX",
  "a382 YI SYLLABLE RRO;2RROP;2RRET;2RREX;2RRE;2RREP;2RRUT;2RRUX;2RRU;2RRUP;2RRURX;2RRUR;2RRYT",
  "a38f YI SYLLABLE RRYX;2RRY;2RRYP;2RRYRX;2RRYR;2NRAT;2NRAX;2NRA;2NRAP;2NROX;2NRO;2NROP;2NRET",
  "a39c YI SYLLABLE NREX;2NRE;2NREP;2NRUT;2NRUX;2NRU;2NRUP;2NRURX;2NRUR;2NRYT;2NRYX;2NRY;2NRYP",
  "a3a9 YI SYLLABLE NRYRX;2NRYR;2SHAT;2SHAX;2SHA;2SHAP;2SHUOX;2SHUO;2SHUOP;2SHOT;2SHOX;2SHO;2SHOP",
  "a3b6 YI SYLLABLE SHET;2SHEX;2SHE;2SHEP;2SHUT;2SHUX;2SHU;2SHUP;2SHURX;2SHUR;2SHYT;2SHYX;2SHY",
  "a3c3 YI SYLLABLE SHYP;2SHYRX;2SHYR;2RAT;2RAX;2RA;2RAP;2RUOX;2RUO;2RUOP;2ROT;2ROX;2RO;2ROP;2REX",
  "a3d2 YI SYLLABLE RE;2REP;2RUT;2RUX;2RU;2RUP;2RURX;2RUR;2RYT;2RYX;2RY;2RYP;2RYRX;2RYR;2JIT;2JIX",
  "a3e2 YI SYLLABLE JI;2JIP;2JIET;2JIEX;2JIE;2JIEP;2JUOT;2JUOX;2JUO;2JUOP;2JOT;2JOX;2JO;2JOP;2JUT",
  "a3f1 YI SYLLABLE JUX;2JU;2JUP;2JURX;2JUR;2JYT;2JYX;2JY;2JYP;2JYRX;2JYR;2QIT;2QIX;2QI;2QIP;2QIET",
  "a401 YI SYLLABLE QIEX;2QIE;2QIEP;2QUOT;2QUOX;2QUO;2QUOP;2QOT;2QOX;2QO;2QOP;2QUT;2QUX;2QU;2QUP",
  "a410 YI SYLLABLE QURX;2QUR;2QYT;2QYX;2QY;2QYP;2QYRX;2QYR;2JJIT;2JJIX;2JJI;2JJIP;2JJIET;2JJIEX",
  "a41e YI SYLLABLE JJIE;2JJIEP;2JJUOX;2JJUO;2JJUOP;2JJOT;2JJOX;2JJO;2JJOP;2JJUT;2JJUX;2JJU;2JJUP",
  "a42b YI SYLLABLE JJURX;2JJUR;2JJYT;2JJYX;2JJY;2JJYP;2NJIT;2NJIX;2NJI;2NJIP;2NJIET;2NJIEX;2NJIE",
  "a438 YI SYLLABLE NJIEP;2NJUOX;2NJUO;2NJOT;2NJOX;2NJO;2NJOP;2NJUX;2NJU;2NJUP;2NJURX;2NJUR;2NJYT",
  "a445 YI SYLLABLE NJYX;2NJY;2NJYP;2NJYRX;2NJYR;2NYIT;2NYIX;2NYI;2NYIP;2NYIET;2NYIEX;2NYIE;2NYIEP",
  "a452 YI SYLLABLE NYUOX;2NYUO;2NYUOP;2NYOT;2NYOX;2NYO;2NYOP;2NYUT;2NYUX;2NYU;2NYUP;2XIT;2XIX;2XI",
  "a460 YI SYLLABLE XIP;2XIET;2XIEX;2XIE;2XIEP;2XUOX;2XUO;2XOT;2XOX;2XO;2XOP;2XYT;2XYX;2XY;2XYP",
  "a46f YI SYLLABLE XYRX;2XYR;2YIT;2YIX;2YI;2YIP;2YIET;2YIEX;2YIE;2YIEP;2YUOT;2YUOX;2YUO;2YUOP",
  "a47d YI SYLLABLE YOT;2YOX;2YO;2YOP;2YUT;2YUX;2YU;2YUP;2YURX;2YUR;2YYT;2YYX;2YY;2YYP;2YYRX;2YYR",
  "a490 YI RADICAL QOT;2LI;2KIT;2NYIP;2CYP;2SSI;2GGOP;2GEP;2MI;2HXIT;2LYR;2BBUT;2MOP;2YO;2PUT",
  "a49f YI RADICAL HXUO;2TAT;2GA;2ZUP;2CYT;2DDUR;2BUR;2GGUO;2NYOP;2TU;2OP;2JJUT;2ZOT;2PYT;2HMO",
  "a4ae YI RADICAL YIT;2VUR;2SHY;2VEP;2ZA;2JO;2NZUP;2JJY;2GOT;2JJIE;2WO;2DU;2SHUR;2LIE;2CY;2CUOP",
  "a4be YI RADICAL CIP;2HXOP;2SHAT;2ZUR;2SHOP;2CHE;2ZZIET;2NBIE;2KE",
  "a4d0 LISU LETTER BA;2PA;2PHA;2DA;2TA;2THA;2GA;2KA;2KHA;2JA;2CA;2CHA;2DZA;2TSA;2TSHA;2MA;2NA;2LA",
  "a4e2 LISU LETTER SA;2ZHA;2ZA;2NGA;2HA;2XA;2HHA;2FA;2WA;2SHA;2YA;2GHA;2A;2AE;2E;2EU;2I;2O;2U;2UE",
  "a4f6 LISU LETTER UH;2OE;2TONE MYA TI;3NA PO;3MYA CYA;4BO;4NA;4JEU;1PUNCTUATION COMMA;2FULL STOP",
  "a500 VAI SYLLABLE EE;2EEN;2HEE;2WEE;2WEEN;2PEE;2BHEE;2BEE;2MBEE;2KPEE;2MGBEE;2GBEE;2FEE;2VEE",
  "a50e VAI SYLLABLE TEE;2THEE;2DHEE;2DHHEE;2LEE;2REE;2DEE;2NDEE;2SEE;2SHEE;2ZEE;2ZHEE;2CEE;2JEE",
  "a51c VAI SYLLABLE NJEE;2YEE;2KEE;2NGGEE;2GEE;2MEE;2NEE;2NYEE;2I;2IN;2HI;2HIN;2WI;2WIN;2PI;2BHI",
  "a52c VAI SYLLABLE BI;2MBI;2KPI;2MGBI;2GBI;2FI;2VI;2TI;2THI;2DHI;2DHHI;2LI;2RI;2DI;2NDI;2SI;2SHI",
  "a53d VAI SYLLABLE ZI;2ZHI;2CI;2JI;2NJI;2YI;2KI;2NGGI;2GI;2MI;2NI;2NYI;2A;2AN;2NGAN;2HA;2HAN;2WA",
  "a54f VAI SYLLABLE WAN;2PA;2BHA;2BA;2MBA;2KPA;2KPAN;2MGBA;2GBA;2FA;2VA;2TA;2THA;2DHA;2DHHA;2LA",
  "a55f VAI SYLLABLE RA;2DA;2NDA;2SA;2SHA;2ZA;2ZHA;2CA;2JA;2NJA;2YA;2KA;2KAN;2NGGA;2GA;2MA;2NA",
  "a570 VAI SYLLABLE NYA;2OO;2OON;2HOO;2WOO;2WOON;2POO;2BHOO;2BOO;2MBOO;2KPOO;2MGBOO;2GBOO;2FOO",
  "a57e VAI SYLLABLE VOO;2TOO;2THOO;2DHOO;2DHHOO;2LOO;2ROO;2DOO;2NDOO;2SOO;2SHOO;2ZOO;2ZHOO;2COO",
  "a58c VAI SYLLABLE JOO;2NJOO;2YOO;2KOO;2NGGOO;2GOO;2MOO;2NOO;2NYOO;2U;2UN;2HU;2HUN;2WU;2WUN;2PU",
  "a59c VAI SYLLABLE BHU;2BU;2MBU;2KPU;2MGBU;2GBU;2FU;2VU;2TU;2THU;2DHU;2DHHU;2LU;2RU;2DU;2NDU;2SU",
  "a5ad VAI SYLLABLE SHU;2ZU;2ZHU;2CU;2JU;2NJU;2YU;2KU;2NGGU;2GU;2MU;2NU;2NYU;2O;2ON;2NGON;2HO",
  "a5be VAI SYLLABLE HON;2WO;2WON;2PO;2BHO;2BO;2MBO;2KPO;2MGBO;2GBO;2GBON;2FO;2VO;2TO;2THO;2DHO",
  "a5ce VAI SYLLABLE DHHO;2LO;2RO;2DO;2NDO;2SO;2SHO;2ZO;2ZHO;2CO;2JO;2NJO;2YO;2KO;2NGGO;2GO;2MO",
  "a5df VAI SYLLABLE NO;2NYO;2E;2EN;2NGEN;2HE;2HEN;2WE;2WEN;2PE;2BHE;2BE;2MBE;2KPE;2KPEN;2MGBE",
  "a5ef VAI SYLLABLE GBE;2GBEN;2FE;2VE;2TE;2THE;2DHE;2DHHE;2LE;2RE;2DE;2NDE;2SE;2SHE;2ZE;2ZHE;2CE",
  "a600 VAI SYLLABLE JE;2NJE;2YE;2KE;2NGGE;2NGGEN;2GE;2GEN;2ME;2NE;2NYE;2NG;2LENGTHENER;1COMMA",
  "a60e VAI FULL STOP;1QUESTION MARK;1SYLLABLE NDOLE FA;3KA;3SOO;1SYMBOL FEENG;2KEENG;2TING;2NII",
  "a617 VAI SYMBOL BANG;2FAA;2TAA;2DANG;2DOONG;2KUNG;2TONG;2DO-O;2JONG;1DIGIT ZERO;2ONE;2TWO",
  "a623 VAI DIGIT THREE;2FOUR;2FIVE;2SIX;2SEVEN;2EIGHT;2NINE;1SYLLABLE NDOLE MA;3DO",
  "a640 CYRILLIC CAPITAL LETTER ZEMLYA;1SMALL LETTER ZEMLYA;1CAPITAL LETTER DZELO",
  "a643 CYRILLIC SMALL LETTER DZELO;1CAPITAL LETTER REVERSED DZE;1SMALL LETTER REVERSED DZE",
  "a646 CYRILLIC CAPITAL LETTER IOTA;1SMALL LETTER IOTA;1CAPITAL LETTER DJERV;1SMALL LETTER DJERV",
  "a64a CYRILLIC CAPITAL LETTER MONOGRAPH UK;1SMALL LETTER MONOGRAPH UK",
  "a64c CYRILLIC CAPITAL LETTER BROAD OMEGA;1SMALL LETTER BROAD OMEGA;1CAPITAL LETTER NEUTRAL YER",
  "a64f CYRILLIC SMALL LETTER NEUTRAL YER;1CAPITAL LETTER YERU WITH BACK YER",
  "a651 CYRILLIC SMALL LETTER YERU WITH BACK YER;1CAPITAL LETTER IOTIFIED YAT",
  "a653 CYRILLIC SMALL LETTER IOTIFIED YAT;1CAPITAL LETTER REVERSED YU;1SMALL LETTER REVERSED YU",
  "a656 CYRILLIC CAPITAL LETTER IOTIFIED A;1SMALL LETTER IOTIFIED A",
  "a658 CYRILLIC CAPITAL LETTER CLOSED LITTLE YUS;1SMALL LETTER CLOSED LITTLE YUS",
  "a65a CYRILLIC CAPITAL LETTER BLENDED YUS;1SMALL LETTER BLENDED YUS",
  "a65c CYRILLIC CAPITAL LETTER IOTIFIED CLOSED LITTLE YUS",
  "a65d CYRILLIC SMALL LETTER IOTIFIED CLOSED LITTLE YUS;1CAPITAL LETTER YN;1SMALL LETTER YN",
  "a660 CYRILLIC CAPITAL LETTER REVERSED TSE;1SMALL LETTER REVERSED TSE;1CAPITAL LETTER SOFT DE",
  "a663 CYRILLIC SMALL LETTER SOFT DE;1CAPITAL LETTER SOFT EL;1SMALL LETTER SOFT EL",
  "a666 CYRILLIC CAPITAL LETTER SOFT EM;1SMALL LETTER SOFT EM;1CAPITAL LETTER MONOCULAR O",
  "a669 CYRILLIC SMALL LETTER MONOCULAR O;1CAPITAL LETTER BINOCULAR O;1SMALL LETTER BINOCULAR O",
  "a66c CYRILLIC CAPITAL LETTER DOUBLE MONOCULAR O;1SMALL LETTER DOUBLE MONOCULAR O",
  "a66e CYRILLIC LETTER MULTIOCULAR O;0COMBINING CYRILLIC VZMET;2TEN MILLIONS SIGN",
  "a671 COMBINING CYRILLIC HUNDRED MILLIONS SIGN;2THOUSAND MILLIONS SIGN;0SLAVONIC ASTERISK",
  "a674 COMBINING CYRILLIC LETTER UKRAINIAN IE;3I;3YI;3U;3HARD SIGN;3YERU;3SOFT SIGN;3OMEGA",
  "a67c COMBINING CYRILLIC KAVYKA;2PAYEROK;0CYRILLIC KAVYKA;1PAYEROK;1CAPITAL LETTER DWE",
  "a681 CYRILLIC SMALL LETTER DWE;1CAPITAL LETTER DZWE;1SMALL LETTER DZWE;1CAPITAL LETTER ZHWE",
  "a685 CYRILLIC SMALL LETTER ZHWE;1CAPITAL LETTER CCHE;1SMALL LETTER CCHE;1CAPITAL LETTER DZZE",
  "a689 CYRILLIC SMALL LETTER DZZE;1CAPITAL LETTER TE WITH MIDDLE HOOK",
  "a68b CYRILLIC SMALL LETTER TE WITH MIDDLE HOOK;1CAPITAL LETTER TWE;1SMALL LETTER TWE",
  "a68e CYRILLIC CAPITAL LETTER TSWE;1SMALL LETTER TSWE;1CAPITAL LETTER TSSE;1SMALL LETTER TSSE",
  "a692 CYRILLIC CAPITAL LETTER TCHE;1SMALL LETTER TCHE;1CAPITAL LETTER HWE;1SMALL LETTER HWE",
  "a696 CYRILLIC CAPITAL LETTER SHWE;1SMALL LETTER SHWE;1CAPITAL LETTER DOUBLE O",
  "a699 CYRILLIC SMALL LETTER DOUBLE O;1CAPITAL LETTER CROSSED O;1SMALL LETTER CROSSED O",
  "a69c MODIFIER LETTER CYRILLIC HARD SIGN;3SOFT SIGN;0COMBINING CYRILLIC LETTER EF;3IOTIFIED E",
  "a6a0 BAMUM LETTER A;2KA;2U;2KU;2EE;2REE;2TAE;2O;2NYI;2I;2LA;2PA;2RII;2RIEE;2LEEEE;2MEEEE;2TAA",
  "a6b1 BAMUM LETTER NDAA;2NJAEM;2M;2SUU;2MU;2SHII;2SI;2SHEUX;2SEUX;2KYEE;2KET;2NUAE;2NU;2NJUAE",
  "a6bf BAMUM LETTER YOQ;2SHU;2YUQ;2YA;2NSHA;2KEUX;2PEUX;2NJEE;2NTEE;2PUE;2WUE;2PEE;2FEE;2RU;2LU",
  "a6ce BAMUM LETTER MI;2NI;2REUX;2RAE;2KEN;2NGKWAEN;2NGGA;2NGA;2SHO;2PUAE;2FU;2FOM;2WA;2NA;2LI",
  "a6dd BAMUM LETTER PI;2LOQ;2KO;2MBEN;2REN;2MEN;2MA;2TI;2KI;2MO;2MBAA;2TET;2KPA;2TEN;2NTUU;2SAMBA",
  "a6ed BAMUM LETTER FAAMAE;2KOVUU;2KOGHOM;1COMBINING MARK KOQNDON;3TUKWENTIS;1NJAEMLI;1FULL STOP",
  "a6f4 BAMUM COLON;1COMMA;1SEMICOLON;1QUESTION MARK",
  "a700 MODIFIER LETTER CHINESE TONE YIN PING;4YANG PING;4YIN SHANG;4YANG SHANG;4YIN QU;4YANG QU",
  "a706 MODIFIER LETTER CHINESE TONE YIN RU;4YANG RU;2EXTRA-HIGH DOTTED TONE BAR",
  "a709 MODIFIER LETTER HIGH DOTTED TONE BAR;2MID DOTTED TONE BAR;2LOW DOTTED TONE BAR",
  "a70c MODIFIER LETTER EXTRA-LOW DOTTED TONE BAR;2EXTRA-HIGH DOTTED LEFT-STEM TONE BAR",
  "a70e MODIFIER LETTER HIGH DOTTED LEFT-STEM TONE BAR;2MID DOTTED LEFT-STEM TONE BAR",
  "a710 MODIFIER LETTER LOW DOTTED LEFT-STEM TONE BAR;2EXTRA-LOW DOTTED LEFT-STEM TONE BAR",
  "a712 MODIFIER LETTER EXTRA-HIGH LEFT-STEM TONE BAR;2HIGH LEFT-STEM TONE BAR",
  "a714 MODIFIER LETTER MID LEFT-STEM TONE BAR;2LOW LEFT-STEM TONE BAR",
  "a716 MODIFIER LETTER EXTRA-LOW LEFT-STEM TONE BAR;2DOT VERTICAL BAR;3SLASH;3HORIZONTAL BAR",
  "a71a MODIFIER LETTER LOWER RIGHT CORNER ANGLE;2RAISED UP ARROW;3DOWN ARROW;3EXCLAMATION MARK",
  "a71e MODIFIER LETTER RAISED INVERTED EXCLAMATION MARK;2LOW INVERTED EXCLAMATION MARK",
  "a720 MODIFIER LETTER STRESS AND HIGH TONE;4LOW TONE;0LATIN CAPITAL LETTER EGYPTOLOGICAL ALEF",
  "a723 LATIN SMALL LETTER EGYPTOLOGICAL ALEF;1CAPITAL LETTER EGYPTOLOGICAL AIN",
  "a725 LATIN SMALL LETTER EGYPTOLOGICAL AIN;1CAPITAL LETTER HENG;1SMALL LETTER HENG",
  "a728 LATIN CAPITAL LETTER TZ;1SMALL LETTER TZ;1CAPITAL LETTER TRESILLO;1SMALL LETTER TRESILLO",
  "a72c LATIN CAPITAL LETTER CUATRILLO;1SMALL LETTER CUATRILLO",
  "a72e LATIN CAPITAL LETTER CUATRILLO WITH COMMA;1SMALL LETTER CUATRILLO WITH COMMA",
  "a730 LATIN LETTER SMALL CAPITAL F;4S;1CAPITAL LETTER AA;1SMALL LETTER AA;1CAPITAL LETTER AO",
  "a735 LATIN SMALL LETTER AO;1CAPITAL LETTER AU;1SMALL LETTER AU;1CAPITAL LETTER AV",
  "a739 LATIN SMALL LETTER AV;1CAPITAL LETTER AV WITH HORIZONTAL BAR",
  "a73b LATIN SMALL LETTER AV WITH HORIZONTAL BAR;1CAPITAL LETTER AY;1SMALL LETTER AY",
  "a73e LATIN CAPITAL LETTER REVERSED C WITH DOT;1SMALL LETTER REVERSED C WITH DOT",
  "a740 LATIN CAPITAL LETTER K WITH STROKE;1SMALL LETTER K WITH STROKE",
  "a742 LATIN CAPITAL LETTER K WITH DIAGONAL STROKE;1SMALL LETTER K WITH DIAGONAL STROKE",
  "a744 LATIN CAPITAL LETTER K WITH STROKE AND DIAGONAL STROKE",
  "a745 LATIN SMALL LETTER K WITH STROKE AND DIAGONAL STROKE;1CAPITAL LETTER BROKEN L",
  "a747 LATIN SMALL LETTER BROKEN L;1CAPITAL LETTER L WITH HIGH STROKE",
  "a749 LATIN SMALL LETTER L WITH HIGH STROKE;1CAPITAL LETTER O WITH LONG STROKE OVERLAY",
  "a74b LATIN SMALL LETTER O WITH LONG STROKE OVERLAY;1CAPITAL LETTER O WITH LOOP",
  "a74d LATIN SMALL LETTER O WITH LOOP;1CAPITAL LETTER OO;1SMALL LETTER OO",
  "a750 LATIN CAPITAL LETTER P WITH STROKE THROUGH DESCENDER",
  "a751 LATIN SMALL LETTER P WITH STROKE THROUGH DESCENDER;1CAPITAL LETTER P WITH FLOURISH",
  "a753 LATIN SMALL LETTER P WITH FLOURISH;1CAPITAL LETTER P WITH SQUIRREL TAIL",
  "a755 LATIN SMALL LETTER P WITH SQUIRREL TAIL;1CAPITAL LETTER Q WITH STROKE THROUGH DESCENDER",
  "a757 LATIN SMALL LETTER Q WITH STROKE THROUGH DESCENDER;1CAPITAL LETTER Q WITH DIAGONAL STROKE",
  "a759 LATIN SMALL LETTER Q WITH DIAGONAL STROKE;1CAPITAL LETTER R ROTUNDA",
  "a75b LATIN SMALL LETTER R ROTUNDA;1CAPITAL LETTER RUM ROTUNDA;1SMALL LETTER RUM ROTUNDA",
  "a75e LATIN CAPITAL LETTER V WITH DIAGONAL STROKE;1SMALL LETTER V WITH DIAGONAL STROKE",
  "a760 LATIN CAPITAL LETTER VY;1SMALL LETTER VY;1CAPITAL LETTER VISIGOTHIC Z",
  "a763 LATIN SMALL LETTER VISIGOTHIC Z;1CAPITAL LETTER THORN WITH STROKE",
  "a765 LATIN SMALL LETTER THORN WITH STROKE;1CAPITAL LETTER THORN WITH STROKE THROUGH DESCENDER",
  "a767 LATIN SMALL LETTER THORN WITH STROKE THROUGH DESCENDER;1CAPITAL LETTER VEND",
  "a769 LATIN SMALL LETTER VEND;1CAPITAL LETTER ET;1SMALL LETTER ET;1CAPITAL LETTER IS",
  "a76d LATIN SMALL LETTER IS;1CAPITAL LETTER CON;1SMALL LETTER CON;0MODIFIER LETTER US",
  "a771 LATIN SMALL LETTER DUM;3LUM;3MUM;3NUM;3RUM;1LETTER SMALL CAPITAL RUM;1SMALL LETTER TUM;3UM",
  "a779 LATIN CAPITAL LETTER INSULAR D;1SMALL LETTER INSULAR D;1CAPITAL LETTER INSULAR F",
  "a77c LATIN SMALL LETTER INSULAR F;1CAPITAL LETTER INSULAR G;3TURNED INSULAR G",
  "a77f LATIN SMALL LETTER TURNED INSULAR G;1CAPITAL LETTER TURNED L;1SMALL LETTER TURNED L",
  "a782 LATIN CAPITAL LETTER INSULAR R;1SMALL LETTER INSULAR R;1CAPITAL LETTER INSULAR S",
  "a785 LATIN SMALL LETTER INSULAR S;1CAPITAL LETTER INSULAR T;1SMALL LETTER INSULAR T",
  "a788 MODIFIER LETTER LOW CIRCUMFLEX ACCENT;2COLON;2SHORT EQUALS SIGN",
  "a78b LATIN CAPITAL LETTER SALTILLO;1SMALL LETTER SALTILLO;1CAPITAL LETTER TURNED H",
  "a78e LATIN SMALL LETTER L WITH RETROFLEX HOOK AND BELT;1LETTER SINOLOGICAL DOT",
  "a790 LATIN CAPITAL LETTER N WITH DESCENDER;1SMALL LETTER N WITH DESCENDER",
  "a792 LATIN CAPITAL LETTER C WITH BAR;1SMALL LETTER C WITH BAR;5PALATAL HOOK",
  "a795 LATIN SMALL LETTER H WITH PALATAL HOOK;1CAPITAL LETTER B WITH FLOURISH",
  "a797 LATIN SMALL LETTER B WITH FLOURISH;1CAPITAL LETTER F WITH STROKE",
  "a799 LATIN SMALL LETTER F WITH STROKE;1CAPITAL LETTER VOLAPUK AE;1SMALL LETTER VOLAPUK AE",
  "a79c LATIN CAPITAL LETTER VOLAPUK OE;1SMALL LETTER VOLAPUK OE;1CAPITAL LETTER VOLAPUK UE",
  "a79f LATIN SMALL LETTER VOLAPUK UE;1CAPITAL LETTER G WITH OBLIQUE STROKE",
  "a7a1 LATIN SMALL LETTER G WITH OBLIQUE STROKE;1CAPITAL LETTER K WITH OBLIQUE STROKE",
  "a7a3 LATIN SMALL LETTER K WITH OBLIQUE STROKE;1CAPITAL LETTER N WITH OBLIQUE STROKE",
  "a7a5 LATIN SMALL LETTER N WITH OBLIQUE STROKE;1CAPITAL LETTER R WITH OBLIQUE STROKE",
  "a7a7 LATIN SMALL LETTER R WITH OBLIQUE STROKE;1CAPITAL LETTER S WITH OBLIQUE STROKE",
  "a7a9 LATIN SMALL LETTER S WITH OBLIQUE STROKE;1CAPITAL LETTER H WITH HOOK;3REVERSED OPEN E",
  "a7ac LATIN CAPITAL LETTER SCRIPT G;3L WITH BELT;3SMALL CAPITAL I;1LETTER SMALL CAPITAL Q",
  "a7b0 LATIN CAPITAL LETTER TURNED K;4T;3J WITH CROSSED-TAIL;3CHI;3BETA;1SMALL LETTER BETA",
  "a7b6 LATIN CAPITAL LETTER OMEGA;1SMALL LETTER OMEGA;1CAPITAL LETTER U WITH STROKE",
  "a7b9 LATIN SMALL LETTER U WITH STROKE;1CAPITAL LETTER GLOTTAL A;1SMALL LETTER GLOTTAL A",
  "a7bc LATIN CAPITAL LETTER GLOTTAL I;1SMALL LETTER GLOTTAL I;1CAPITAL LETTER GLOTTAL U",
  "a7bf LATIN SMALL LETTER GLOTTAL U;1CAPITAL LETTER OLD POLISH O;1SMALL LETTER OLD POLISH O",
  "a7c2 LATIN CAPITAL LETTER ANGLICANA W;1SMALL LETTER ANGLICANA W",
  "a7c4 LATIN CAPITAL LETTER C WITH PALATAL HOOK;3S WITH HOOK;3Z WITH PALATAL HOOK",
  "a7c7 LATIN CAPITAL LETTER D WITH SHORT STROKE OVERLAY;1SMALL LETTER D WITH SHORT STROKE OVERLAY",
  "a7c9 LATIN CAPITAL LETTER S WITH SHORT STROKE OVERLAY;1SMALL LETTER S WITH SHORT STROKE OVERLAY",
  "a7d0 LATIN CAPITAL LETTER CLOSED INSULAR G;1SMALL LETTER CLOSED INSULAR G",
  "a7d3 LATIN SMALL LETTER DOUBLE THORN",
  "a7d5 LATIN SMALL LETTER DOUBLE WYNN;1CAPITAL LETTER MIDDLE SCOTS S;1SMALL LETTER MIDDLE SCOTS S",
  "a7d8 LATIN CAPITAL LETTER SIGMOID S;1SMALL LETTER SIGMOID S",
  "a7f2 MODIFIER LETTER CAPITAL C;3F;3Q;0LATIN CAPITAL LETTER REVERSED HALF H",
  "a7f6 LATIN SMALL LETTER REVERSED HALF H;1EPIGRAPHIC LETTER SIDEWAYS I",
  "a7f8 MODIFIER LETTER CAPITAL H WITH STROKE;2SMALL LIGATURE OE",
  "a7fa LATIN LETTER SMALL CAPITAL TURNED M;1EPIGRAPHIC LETTER REVERSED F;4P;3INVERTED M;3I LONGA",
  "a7ff LATIN EPIGRAPHIC LETTER ARCHAIC M;0SYLOTI NAGRI LETTER A;3I;2SIGN DVISVARA;2LETTER U;3E;3O",
  "a806 SYLOTI NAGRI SIGN HASANTA;2LETTER KO;3KHO;3GO;3GHO;2SIGN ANUSVARA;2LETTER CO;3CHO;3JO;3JHO",
  "a810 SYLOTI NAGRI LETTER TTO;3TTHO;3DDO;3DDHO;3TO;3THO;3DO;3DHO;3NO;3PO;3PHO;3BO;3BHO;3MO;3RO",
  "a81f SYLOTI NAGRI LETTER LO;3RRO;3SO;3HO;2VOWEL SIGN A;4I;4U;4E;4OO;2POETRY MARK-1;3MARK-2",
  "a82a SYLOTI NAGRI POETRY MARK-3;3MARK-4;2SIGN ALTERNATE HASANTA",
  "a830 NORTH INDIC FRACTION ONE QUARTER;4HALF;3THREE QUARTERS;3ONE SIXTEENTH;4EIGHTH",
  "a835 NORTH INDIC FRACTION THREE SIXTEENTHS;2QUARTER MARK;2PLACEHOLDER MARK;2RUPEE MARK",
  "a839 NORTH INDIC QUANTITY MARK",
  "a840 PHAGS-PA LETTER KA;2KHA;2GA;2NGA;2CA;2CHA;2JA;2NYA;2TA;2THA;2DA;2NA;2PA;2PHA;2BA;2MA;2TSA",
  "a851 PHAGS-PA LETTER TSHA;2DZA;2WA;2ZHA;2ZA;2SMALL A;2YA;2RA;2LA;2SHA;2SA;2HA;2A;2I;2U;2E;2O",
  "a862 PHAGS-PA LETTER QA;2XA;2FA;2GGA;2EE;1SUBJOINED LETTER WA;3YA;1LETTER TTA;2TTHA;2DDA;2NNA",
  "a86d PHAGS-PA LETTER ALTERNATE YA;2VOICELESS SHA;2VOICED HA;2ASPIRATED FA;1SUBJOINED LETTER RA",
  "a872 PHAGS-PA SUPERFIXED LETTER RA;1LETTER CANDRABINDU;1SINGLE HEAD MARK;1DOUBLE HEAD MARK",
  "a876 PHAGS-PA MARK SHAD;2DOUBLE SHAD",
  "a880 SAURASHTRA SIGN ANUSVARA;2VISARGA;1LETTER A;2AA;2I;2II;2U;2UU;2VOCALIC R;3RR;3L;3LL;2E;2EE",
  "a88e SAURASHTRA LETTER AI;2O;2OO;2AU;2KA;2KHA;2GA;2GHA;2NGA;2CA;2CHA;2JA;2JHA;2NYA;2TTA;2TTHA",
  "a89e SAURASHTRA LETTER DDA;2DDHA;2NNA;2TA;2THA;2DA;2DHA;2NA;2PA;2PHA;2BA;2BHA;2MA;2YA;2RA;2LA",
  "a8ae SAURASHTRA LETTER VA;2SHA;2SSA;2SA;2HA;2LLA;1CONSONANT SIGN HAARU;1VOWEL SIGN AA;3I;3II;3U",
  "a8b9 SAURASHTRA VOWEL SIGN UU;3VOCALIC R;4RR;4L;4LL;3E;3EE;3AI;3O;3OO;3AU;1SIGN VIRAMA",
  "a8c5 SAURASHTRA SIGN CANDRABINDU",
  "a8ce SAURASHTRA DANDA;1DOUBLE DANDA;1DIGIT ZERO;2ONE;2TWO;2THREE;2FOUR;2FIVE;2SIX;2SEVEN;2EIGHT",
  "a8d9 SAURASHTRA DIGIT NINE",
  "a8e0 COMBINING DEVANAGARI DIGIT ZERO;3ONE;3TWO;3THREE;3FOUR;3FIVE;3SIX;3SEVEN;3EIGHT;3NINE",
  "a8ea COMBINING DEVANAGARI LETTER A;3U;3KA;3NA;3PA;3RA;3VI;2SIGN AVAGRAHA",
  "a8f2 DEVANAGARI SIGN SPACING CANDRABINDU;2CANDRABINDU VIRAMA;2DOUBLE CANDRABINDU VIRAMA",
  "a8f5 DEVANAGARI SIGN CANDRABINDU TWO;3THREE;3AVAGRAHA;2PUSHPIKA;1GAP FILLER;1CARET;1HEADSTROKE",
  "a8fc DEVANAGARI SIGN SIDDHAM;1JAIN OM;1LETTER AY;1VOWEL SIGN AY;0KAYAH LI DIGIT ZERO;3ONE;3TWO",
  "a903 KAYAH LI DIGIT THREE;3FOUR;3FIVE;3SIX;3SEVEN;3EIGHT;3NINE;2LETTER KA;3KHA;3GA;3NGA;3SA",
  "a90f KAYAH LI LETTER SHA;3ZA;3NYA;3TA;3HTA;3NA;3PA;3PHA;3MA;3DA;3BA;3RA;3YA;3LA;3WA;3THA;3HA",
  "a920 KAYAH LI LETTER VA;3CA;3A;3OE;3I;3OO;2VOWEL UE;3E;3U;3EE;3O;2TONE PLOPHU;3CALYA;4PLOPHU",
  "a92e KAYAH LI SIGN CWI;3SHYA;0REJANG LETTER KA;2GA;2NGA;2TA;2DA;2NA;2PA;2BA;2MA;2CA;2JA;2NYA",
  "a93c REJANG LETTER SA;2RA;2LA;2YA;2WA;2HA;2MBA;2NGGA;2NDA;2NYJA;2A;1VOWEL SIGN I;3U;3E;3AI;3O",
  "a94c REJANG VOWEL SIGN AU;3EU;3EA;1CONSONANT SIGN NG;3N;3R;3H;1VIRAMA",
  "a95f REJANG SECTION MARK;0HANGUL CHOSEONG TIKEUT-MIEUM;2TIKEUT-PIEUP;2TIKEUT-SIOS;2TIKEUT-CIEUC",
  "a964 HANGUL CHOSEONG RIEUL-KIYEOK;2RIEUL-SSANGKIYEOK;2RIEUL-TIKEUT;2RIEUL-SSANGTIKEUT",
  "a968 HANGUL CHOSEONG RIEUL-MIEUM;2RIEUL-PIEUP;2RIEUL-SSANGPIEUP;2RIEUL-KAPYEOUNPIEUP",
  "a96c HANGUL CHOSEONG RIEUL-SIOS;2RIEUL-CIEUC;2RIEUL-KHIEUKH;2MIEUM-KIYEOK;2MIEUM-TIKEUT",
  "a971 HANGUL CHOSEONG MIEUM-SIOS;2PIEUP-SIOS-THIEUTH;2PIEUP-KHIEUKH;2PIEUP-HIEUH",
  "a975 HANGUL CHOSEONG SSANGSIOS-PIEUP;2IEUNG-RIEUL;2IEUNG-HIEUH;2SSANGCIEUC-HIEUH;2SSANGTHIEUTH",
  "a97a HANGUL CHOSEONG PHIEUPH-HIEUH;2HIEUH-SIOS;2SSANGYEORINHIEUH",
  "a980 JAVANESE SIGN PANYANGGA;2CECAK;2LAYAR;2WIGNYAN;1LETTER A;2I KAWI;2I;2II;2U;2PA CEREK",
  "a98a JAVANESE LETTER NGA LELET;4RASWADI;2E;2AI;2O;2KA;3SASAK;3MURDA;2GA;3MURDA;2NGA;2CA;3MURDA",
  "a997 JAVANESE LETTER JA;2NYA MURDA;2JA MAHAPRANA;2NYA;2TTA;3MAHAPRANA;2DDA;3MAHAPRANA;2NA MURDA",
  "a9a0 JAVANESE LETTER TA;3MURDA;2DA;3MAHAPRANA;2NA;2PA;3MURDA;2BA;3MURDA;2MA;2YA;2RA;3AGUNG;2LA",
  "a9ae JAVANESE LETTER WA;2SA MURDA;3MAHAPRANA;2SA;2HA;1SIGN CECAK TELU;1VOWEL SIGN TARUNG",
  "a9b5 JAVANESE VOWEL SIGN TOLONG;3WULU;4MELIK;3SUKU;4MENDUT;3TALING;3DIRGA MURE;3PEPET",
  "a9bd JAVANESE CONSONANT SIGN KERET;3PENGKAL;3CAKRA;1PANGKON;1LEFT RERENGGAN;1RIGHT RERENGGAN",
  "a9c3 JAVANESE PADA ANDAP;2MADYA;2LUHUR;2WINDU;2PANGKAT;2LINGSA;2LUNGSI;2ADEG;3ADEG;2PISELEH",
  "a9cd JAVANESE TURNED PADA PISELEH",
  "a9cf JAVANESE PANGRANGKEP;1DIGIT ZERO;2ONE;2TWO;2THREE;2FOUR;2FIVE;2SIX;2SEVEN;2EIGHT;2NINE",
  "a9de JAVANESE PADA TIRTA TUMETES;2ISEN-ISEN;0MYANMAR LETTER SHAN GHA;3CHA;3JHA;3NNA;3BHA",
  "a9e5 MYANMAR SIGN SHAN SAW;1MODIFIER LETTER SHAN REDUPLICATION;1LETTER TAI LAING NYA;4FA;4GA",
  "a9ea MYANMAR LETTER TAI LAING GHA;4JA;4JHA;4DDA;4DDHA;4NNA;1TAI LAING DIGIT ZERO;4ONE;4TWO",
  "a9f3 MYANMAR TAI LAING DIGIT THREE;4FOUR;4FIVE;4SIX;4SEVEN;4EIGHT;4NINE;1LETTER TAI LAING LLA",
  "a9fb MYANMAR LETTER TAI LAING DA;4DHA;4BA;4BHA",
  "aa00 CHAM LETTER A;2I;2U;2E;2AI;2O;2KA;2KHA;2GA;2GHA;2NGUE;2NGA;2CHA;2CHHA;2JA;2JHA;2NHUE;2NHA",
  "aa12 CHAM LETTER NHJA;2TA;2THA;2DA;2DHA;2NUE;2NA;2DDA;2PA;2PPA;2PHA;2BA;2BHA;2MUE;2MA;2BBA;2YA",
  "aa23 CHAM LETTER RA;2LA;2VA;2SSA;2SA;2HA;1VOWEL SIGN AA;3I;3II;3EI;3U;3OE;3O;3AI;3AU;3UE",
  "aa33 CHAM CONSONANT SIGN YA;3RA;3LA;3WA",
  "aa40 CHAM LETTER FINAL K;3G;3NG;1CONSONANT SIGN FINAL NG;1LETTER FINAL CH;3T;3N;3P;3Y;3R;3L;3SS",
  "aa4c CHAM CONSONANT SIGN FINAL M;4H",
  "aa50 CHAM DIGIT ZERO;2ONE;2TWO;2THREE;2FOUR;2FIVE;2SIX;2SEVEN;2EIGHT;2NINE",
  "aa5c CHAM PUNCTUATION SPIRAL;2DANDA;2DOUBLE DANDA;2TRIPLE DANDA;0MYANMAR LETTER KHAMTI GA;3CA",
  "aa62 MYANMAR LETTER KHAMTI CHA;3JA;3JHA;3NYA;3TTA;3TTHA;3DDA;3DDHA;3DHA;3NA;3SA;3HA;3HHA;3FA",
  "aa70 MYANMAR MODIFIER LETTER KHAMTI REDUPLICATION;1LETTER KHAMTI XA;3ZA;3RA",
  "aa74 MYANMAR LOGOGRAM KHAMTI OAY;3QN;3HM;1SYMBOL AITON EXCLAMATION;3ONE;3TWO;1LETTER AITON RA",
  "aa7b MYANMAR SIGN PAO KAREN TONE;2TAI LAING TONE-2;4TONE-5;1LETTER SHWE PALAUNG CHA;4SHA",
  "aa80 TAI VIET LETTER LOW KO;3HIGH KO;3LOW KHO;3HIGH KHO;3LOW KHHO;3HIGH KHHO;3LOW GO;3HIGH GO",
  "aa88 TAI VIET LETTER LOW NGO;3HIGH NGO;3LOW CO;3HIGH CO;3LOW CHO;3HIGH CHO;3LOW SO;3HIGH SO",
  "aa90 TAI VIET LETTER LOW NYO;3HIGH NYO;3LOW DO;3HIGH DO;3LOW TO;3HIGH TO;3LOW THO;3HIGH THO",
  "aa98 TAI VIET LETTER LOW NO;3HIGH NO;3LOW BO;3HIGH BO;3LOW PO;3HIGH PO;3LOW PHO;3HIGH PHO",
  "aaa0 TAI VIET LETTER LOW FO;3HIGH FO;3LOW MO;3HIGH MO;3LOW YO;3HIGH YO;3LOW RO;3HIGH RO;3LOW LO",
  "aaa9 TAI VIET LETTER HIGH LO;3LOW VO;3HIGH VO;3LOW HO;3HIGH HO;3LOW O;3HIGH O;2MAI KANG",
  "aab1 TAI VIET VOWEL AA;3I;3UE;3U;3E;3O;2MAI KHIT;2VOWEL IA;3UEA;3UA;3AUE;3AY;3AN;3AM",
  "aabf TAI VIET TONE MAI EK;4NUENG;4THO;4SONG",
  "aadb TAI VIET SYMBOL KON;3NUENG;3SAM;3HO HOI;3KOI KOI;0MEETEI MAYEK LETTER E;3O;3CHA;3NYA;3TTA",
  "aae5 MEETEI MAYEK LETTER TTHA;3DDA;3DDHA;3NNA;3SHA;3SSA;2VOWEL SIGN II;4UU;4AAI;4AU;4AAU",
  "aaf0 MEETEI MAYEK CHEIKHAN;2AHANG KHUDAM;2ANJI;2SYLLABLE REPETITION MARK;2WORD REPETITION MARK",
  "aaf5 MEETEI MAYEK VOWEL SIGN VISARGA;2VIRAMA",
  "ab01 ETHIOPIC SYLLABLE TTHU;2TTHI;2TTHAA;2TTHEE;2TTHE;2TTHO",
  "ab09 ETHIOPIC SYLLABLE DDHU;2DDHI;2DDHAA;2DDHEE;2DDHE;2DDHO",
  "ab11 ETHIOPIC SYLLABLE DZU;2DZI;2DZAA;2DZEE;2DZE;2DZO",
  "ab20 ETHIOPIC SYLLABLE CCHHA;2CCHHU;2CCHHI;2CCHHAA;2CCHHEE;2CCHHE;2CCHHO",
  "ab28 ETHIOPIC SYLLABLE BBA;2BBU;2BBI;2BBAA;2BBEE;2BBE;2BBO",
  "ab30 LATIN SMALL LETTER BARRED ALPHA;3A REVERSED-SCHWA;3BLACKLETTER E;3BARRED E",
  "ab34 LATIN SMALL LETTER E WITH FLOURISH;3LENIS F;3SCRIPT G WITH CROSSED-TAIL",
  "ab37 LATIN SMALL LETTER L WITH INVERTED LAZY S;5DOUBLE MIDDLE TILDE;5MIDDLE RING",
  "ab3a LATIN SMALL LETTER M WITH CROSSED-TAIL;3N WITH CROSSED-TAIL;3ENG WITH CROSSED-TAIL",
  "ab3d LATIN SMALL LETTER BLACKLETTER O;5WITH STROKE;3OPEN O WITH STROKE;3INVERTED OE",
  "ab41 LATIN SMALL LETTER TURNED OE WITH STROKE;6HORIZONTAL STROKE;4O OPEN-O;6WITH STROKE",
  "ab45 LATIN SMALL LETTER STIRRUP R;1LETTER SMALL CAPITAL R WITH RIGHT LEG",
  "ab47 LATIN SMALL LETTER R WITHOUT HANDLE;3DOUBLE R;3R WITH CROSSED-TAIL",
  "ab4a LATIN SMALL LETTER DOUBLE R WITH CROSSED-TAIL;3SCRIPT R;5WITH RING;3BASELINE ESH",
  "ab4e LATIN SMALL LETTER U WITH SHORT RIGHT LEG;4BAR WITH SHORT RIGHT LEG;3UI;3TURNED UI",
  "ab52 LATIN SMALL LETTER U WITH LEFT HOOK;3CHI;4WITH LOW RIGHT RING;6LEFT SERIF",
  "ab56 LATIN SMALL LETTER X WITH LOW RIGHT RING;5LONG LEFT LEG;8AND LOW RIGHT RING;8WITH SERIF",
  "ab5a LATIN SMALL LETTER Y WITH SHORT RIGHT LEG;0MODIFIER BREVE WITH INVERTED BREVE",
  "ab5c MODIFIER LETTER SMALL HENG;3L WITH INVERTED LAZY S;5MIDDLE TILDE;3U WITH LEFT HOOK",
  "ab60 LATIN SMALL LETTER SAKHA YAT;3IOTIFIED E;3OPEN OE;3UO;3INVERTED ALPHA",
  "ab65 GREEK LETTER SMALL CAPITAL OMEGA;0LATIN SMALL LETTER DZ DIGRAPH WITH RETROFLEX HOOK",
  "ab67 LATIN SMALL LETTER TS DIGRAPH WITH RETROFLEX HOOK;3TURNED R WITH MIDDLE TILDE",
  "ab69 MODIFIER LETTER SMALL TURNED W;2LEFT TACK;2RIGHT TACK",
  "ab70 CHEROKEE SMALL LETTER A;3E;3I;3O;3U;3V;3GA;3KA;3GE;3GI;3GO;3GU;3GV;3HA;3HE;3HI;3HO;3HU;3HV",
  "ab83 CHEROKEE SMALL LETTER LA;3LE;3LI;3LO;3LU;3LV;3MA;3ME;3MI;3MO;3MU;3NA;3HNA;3NAH;3NE;3NI;3NO",
  "ab94 CHEROKEE SMALL LETTER NU;3NV;3QUA;3QUE;3QUI;3QUO;3QUU;3QUV;3SA;3S;3SE;3SI;3SO;3SU;3SV;3DA",
  "aba4 CHEROKEE SMALL LETTER TA;3DE;3TE;3DI;3TI;3DO;3DU;3DV;3DLA;3TLA;3TLE;3TLI;3TLO;3TLU;3TLV",
  "abb3 CHEROKEE SMALL LETTER TSA;3TSE;3TSI;3TSO;3TSU;3TSV;3WA;3WE;3WI;3WO;3WU;3WV;3YA",
  "abc0 MEETEI MAYEK LETTER KOK;3SAM;3LAI;3MIT;3PA;3NA;3CHIL;3TIL;3KHOU;3NGOU;3THOU;3WAI;3YANG",
  "abcd MEETEI MAYEK LETTER HUK;3UN;3I;3PHAM;3ATIYA;3GOK;3JHAM;3RAI;3BA;3JIL;3DIL;3GHOU;3DHOU",
  "abda MEETEI MAYEK LETTER BHAM;3KOK LONSUM;3LAI LONSUM;3MIT LONSUM;3PA LONSUM;3NA LONSUM",
  "abe0 MEETEI MAYEK LETTER TIL LONSUM;3NGOU LONSUM;3I LONSUM;2VOWEL SIGN ONAP;4INAP;4ANAP;4YENAP",
  "abe7 MEETEI MAYEK VOWEL SIGN SOUNAP;4UNAP;4CHEINAP;4NUNG;2CHEIKHEI;2LUM IYEK;2APUN IYEK",
  "abf0 MEETEI MAYEK DIGIT ZERO;3ONE;3TWO;3THREE;3FOUR;3FIVE;3SIX;3SEVEN;3EIGHT;3NINE",
  "d7b0 HANGUL JUNGSEONG O-YEO;2O-O-I;2YO-A;2YO-AE;2YO-EO;2U-YEO;2U-I-I;2YU-AE;2YU-O;2EU-A;2EU-EO",
  "d7bb HANGUL JUNGSEONG EU-E;2EU-O;2I-YA-O;2I-YAE;2I-YEO;2I-YE;2I-O-I;2I-YO;2I-YU;2I-I;2ARAEA-A",
  "d7c6 HANGUL JUNGSEONG ARAEA-E",
  "d7cb HANGUL JONGSEONG NIEUN-RIEUL;2NIEUN-CHIEUCH;2SSANGTIKEUT;2SSANGTIKEUT-PIEUP;2TIKEUT-PIEUP",
  "d7d0 HANGUL JONGSEONG TIKEUT-SIOS;2TIKEUT-SIOS-KIYEOK;2TIKEUT-CIEUC;2TIKEUT-CHIEUCH",
  "d7d4 HANGUL JONGSEONG TIKEUT-THIEUTH;2RIEUL-SSANGKIYEOK;2RIEUL-KIYEOK-HIEUH;2SSANGRIEUL-KHIEUKH",
  "d7d8 HANGUL JONGSEONG RIEUL-MIEUM-HIEUH;2RIEUL-PIEUP-TIKEUT;2RIEUL-PIEUP-PHIEUPH",
  "d7db HANGUL JONGSEONG RIEUL-YESIEUNG;2RIEUL-YEORINHIEUH-HIEUH;2KAPYEOUNRIEUL;2MIEUM-NIEUN",
  "d7df HANGUL JONGSEONG MIEUM-SSANGNIEUN;2SSANGMIEUM;2MIEUM-PIEUP-SIOS;2MIEUM-CIEUC;2PIEUP-TIKEUT",
  "d7e4 HANGUL JONGSEONG PIEUP-RIEUL-PHIEUPH;2PIEUP-MIEUM;2SSANGPIEUP;2PIEUP-SIOS-TIKEUT",
  "d7e8 HANGUL JONGSEONG PIEUP-CIEUC;2PIEUP-CHIEUCH;2SIOS-MIEUM;2SIOS-KAPYEOUNPIEUP",
  "d7ec HANGUL JONGSEONG SSANGSIOS-KIYEOK;2SSANGSIOS-TIKEUT;2SIOS-PANSIOS;2SIOS-CIEUC",
  "d7f0 HANGUL JONGSEONG SIOS-CHIEUCH;2SIOS-THIEUTH;2SIOS-HIEUH;2PANSIOS-PIEUP",
  "d7f4 HANGUL JONGSEONG PANSIOS-KAPYEOUNPIEUP;2YESIEUNG-MIEUM;2YESIEUNG-HIEUH;2CIEUC-PIEUP",
  "d7f8 HANGUL JONGSEONG CIEUC-SSANGPIEUP;2SSANGCIEUC;2PHIEUPH-SIOS;2PHIEUPH-THIEUTH",
  "fb00 LATIN SMALL LIGATURE FF;3FI;3FL;3FFI;3FFL;3LONG S T;3ST",
  "fb13 ARMENIAN SMALL LIGATURE MEN NOW;4ECH;4INI;3VEW NOW;3MEN XEH",
  "fb1d HEBREW LETTER YOD WITH HIRIQ;1POINT JUDEO-SPANISH VARIKA;1LIGATURE YIDDISH YOD YOD PATAH",
  "fb20 HEBREW LETTER ALTERNATIVE AYIN;2WIDE ALEF;3DALET;3HE;3KAF;3LAMED;3FINAL MEM;3RESH;3TAV",
  "fb29 HEBREW LETTER ALTERNATIVE PLUS SIGN;2SHIN WITH SHIN DOT;4SIN DOT;4DAGESH AND SHIN DOT",
  "fb2d HEBREW LETTER SHIN WITH DAGESH AND SIN DOT;2ALEF WITH PATAH;4QAMATS;4MAPIQ",
  "fb31 HEBREW LETTER BET WITH DAGESH;2GIMEL WITH DAGESH;2DALET WITH DAGESH;2HE WITH MAPIQ",
  "fb35 HEBREW LETTER VAV WITH DAGESH;2ZAYIN WITH DAGESH",
  "fb38 HEBREW LETTER TET WITH DAGESH;2YOD WITH DAGESH;2FINAL KAF WITH DAGESH;2KAF WITH DAGESH",
  "fb3c HEBREW LETTER LAMED WITH DAGESH",
  "fb3e HEBREW LETTER MEM WITH DAGESH",
  "fb40 HEBREW LETTER NUN WITH DAGESH;2SAMEKH WITH DAGESH",
  "fb43 HEBREW LETTER FINAL PE WITH DAGESH;2PE WITH DAGESH",
  "fb46 HEBREW LETTER TSADI WITH DAGESH;2QOF WITH DAGESH;2RESH WITH DAGESH;2SHIN WITH DAGESH",
  "fb4a HEBREW LETTER TAV WITH DAGESH;2VAV WITH HOLAM;2BET WITH RAFE;2KAF WITH RAFE;2PE WITH RAFE",
  "fb4f HEBREW LIGATURE ALEF LAMED;0ARABIC LETTER ALEF WASLA ISOLATED FORM;4FINAL FORM",
  "fb52 ARABIC LETTER BEEH ISOLATED FORM;3FINAL FORM;3INITIAL FORM;3MEDIAL FORM;2PEH ISOLATED FORM",
  "fb57 ARABIC LETTER PEH FINAL FORM;3INITIAL FORM;3MEDIAL FORM;2BEHEH ISOLATED FORM;3FINAL FORM",
  "fb5c ARABIC LETTER BEHEH INITIAL FORM;3MEDIAL FORM;2TTEHEH ISOLATED FORM;3FINAL FORM",
  "fb60 ARABIC LETTER TTEHEH INITIAL FORM;3MEDIAL FORM;2TEHEH ISOLATED FORM;3FINAL FORM",
  "fb64 ARABIC LETTER TEHEH INITIAL FORM;3MEDIAL FORM;2TTEH ISOLATED FORM;3FINAL FORM",
  "fb68 ARABIC LETTER TTEH INITIAL FORM;3MEDIAL FORM;2VEH ISOLATED FORM;3FINAL FORM;3INITIAL FORM",
  "fb6d ARABIC LETTER VEH MEDIAL FORM;2PEHEH ISOLATED FORM;3FINAL FORM;3INITIAL FORM;3MEDIAL FORM",
  "fb72 ARABIC LETTER DYEH ISOLATED FORM;3FINAL FORM;3INITIAL FORM;3MEDIAL FORM",
  "fb76 ARABIC LETTER NYEH ISOLATED FORM;3FINAL FORM;3INITIAL FORM;3MEDIAL FORM",
  "fb7a ARABIC LETTER TCHEH ISOLATED FORM;3FINAL FORM;3INITIAL FORM;3MEDIAL FORM",
  "fb7e ARABIC LETTER TCHEHEH ISOLATED FORM;3FINAL FORM;3INITIAL FORM;3MEDIAL FORM",
  "fb82 ARABIC LETTER DDAHAL ISOLATED FORM;3FINAL FORM;2DAHAL ISOLATED FORM;3FINAL FORM",
  "fb86 ARABIC LETTER DUL ISOLATED FORM;3FINAL FORM;2DDAL ISOLATED FORM;3FINAL FORM",
  "fb8a ARABIC LETTER JEH ISOLATED FORM;3FINAL FORM;2RREH ISOLATED FORM;3FINAL FORM",
  "fb8e ARABIC LETTER KEHEH ISOLATED FORM;3FINAL FORM;3INITIAL FORM;3MEDIAL FORM",
  "fb92 ARABIC LETTER GAF ISOLATED FORM;3FINAL FORM;3INITIAL FORM;3MEDIAL FORM;2GUEH ISOLATED FORM",
  "fb97 ARABIC LETTER GUEH FINAL FORM;3INITIAL FORM;3MEDIAL FORM;2NGOEH ISOLATED FORM;3FINAL FORM",
  "fb9c ARABIC LETTER NGOEH INITIAL FORM;3MEDIAL FORM;2NOON GHUNNA ISOLATED FORM;4FINAL FORM",
  "fba0 ARABIC LETTER RNOON ISOLATED FORM;3FINAL FORM;3INITIAL FORM;3MEDIAL FORM",
  "fba4 ARABIC LETTER HEH WITH YEH ABOVE ISOLATED FORM;6FINAL FORM;3GOAL ISOLATED FORM;4FINAL FORM",
  "fba8 ARABIC LETTER HEH GOAL INITIAL FORM;4MEDIAL FORM;3DOACHASHMEE ISOLATED FORM;4FINAL FORM",
  "fbac ARABIC LETTER HEH DOACHASHMEE INITIAL FORM;4MEDIAL FORM;2YEH BARREE ISOLATED FORM",
  "fbaf ARABIC LETTER YEH BARREE FINAL FORM;4WITH HAMZA ABOVE ISOLATED FORM;7FINAL FORM",
  "fbb2 ARABIC SYMBOL DOT ABOVE;3BELOW;2TWO DOTS ABOVE;4BELOW;2THREE DOTS ABOVE;4BELOW",
  "fbb8 ARABIC SYMBOL THREE DOTS POINTING DOWNWARDS ABOVE;6BELOW;2FOUR DOTS ABOVE;4BELOW",
  "fbbc ARABIC SYMBOL DOUBLE VERTICAL BAR BELOW;2TWO DOTS VERTICALLY ABOVE;5BELOW;2RING",
  "fbc0 ARABIC SYMBOL SMALL TAH ABOVE;4BELOW;2WASLA ABOVE",
  "fbd3 ARABIC LETTER NG ISOLATED FORM;3FINAL FORM;3INITIAL FORM;3MEDIAL FORM;2U ISOLATED FORM",
  "fbd8 ARABIC LETTER U FINAL FORM;2OE ISOLATED FORM;3FINAL FORM;2YU ISOLATED FORM;3FINAL FORM",
  "fbdd ARABIC LETTER U WITH HAMZA ABOVE ISOLATED FORM;2VE ISOLATED FORM;3FINAL FORM",
  "fbe0 ARABIC LETTER KIRGHIZ OE ISOLATED FORM;4FINAL FORM;3YU ISOLATED FORM;4FINAL FORM",
  "fbe4 ARABIC LETTER E ISOLATED FORM;3FINAL FORM;3INITIAL FORM;3MEDIAL FORM",
  "fbe8 ARABIC LETTER UIGHUR KAZAKH KIRGHIZ ALEF MAKSURA INITIAL FORM;7MEDIAL FORM",
  "fbea ARABIC LIGATURE YEH WITH HAMZA ABOVE WITH ALEF ISOLATED FORM;8FINAL FORM;7AE ISOLATED FORM",
  "fbed ARABIC LIGATURE YEH WITH HAMZA ABOVE WITH AE FINAL FORM;7WAW ISOLATED FORM;8FINAL FORM",
  "fbf0 ARABIC LIGATURE YEH WITH HAMZA ABOVE WITH U ISOLATED FORM;8FINAL FORM;7OE ISOLATED FORM",
  "fbf3 ARABIC LIGATURE YEH WITH HAMZA ABOVE WITH OE FINAL FORM;7YU ISOLATED FORM;8FINAL FORM",
  "fbf6 ARABIC LIGATURE YEH WITH HAMZA ABOVE WITH E ISOLATED FORM;8FINAL FORM;8INITIAL FORM",
  "fbf9 ARABIC LIGATURE UIGHUR KIRGHIZ YEH WITH HAMZA ABOVE WITH ALEF MAKSURA ISOLATED FORM",
  "fbfa ARABIC LIGATURE UIGHUR KIRGHIZ YEH WITH HAMZA ABOVE WITH ALEF MAKSURA FINAL FORM",
  "fbfb ARABIC LIGATURE UIGHUR KIRGHIZ YEH WITH HAMZA ABOVE WITH ALEF MAKSURA INITIAL FORM",
  "fbfc ARABIC LETTER FARSI YEH ISOLATED FORM;4FINAL FORM;4INITIAL FORM;4MEDIAL FORM",
  "fc00 ARABIC LIGATURE YEH WITH HAMZA ABOVE WITH JEEM ISOLATED FORM;7HAH ISOLATED FORM",
  "fc02 ARABIC LIGATURE YEH WITH HAMZA ABOVE WITH MEEM ISOLATED FORM;7ALEF MAKSURA ISOLATED FORM",
  "fc04 ARABIC LIGATURE YEH WITH HAMZA ABOVE WITH YEH ISOLATED FORM;2BEH WITH JEEM ISOLATED FORM",
  "fc06 ARABIC LIGATURE BEH WITH HAH ISOLATED FORM;4KHAH ISOLATED FORM;4MEEM ISOLATED FORM",
  "fc09 ARABIC LIGATURE BEH WITH ALEF MAKSURA ISOLATED FORM;4YEH ISOLATED FORM",
  "fc0b ARABIC LIGATURE TEH WITH JEEM ISOLATED FORM;4HAH ISOLATED FORM;4KHAH ISOLATED FORM",
  "fc0e ARABIC LIGATURE TEH WITH MEEM ISOLATED FORM;4ALEF MAKSURA ISOLATED FORM;4YEH ISOLATED FORM",
  "fc11 ARABIC LIGATURE THEH WITH JEEM ISOLATED FORM;4MEEM ISOLATED FORM",
  "fc13 ARABIC LIGATURE THEH WITH ALEF MAKSURA ISOLATED FORM;4YEH ISOLATED FORM",
  "fc15 ARABIC LIGATURE JEEM WITH HAH ISOLATED FORM;4MEEM ISOLATED FORM",
  "fc17 ARABIC LIGATURE HAH WITH JEEM ISOLATED FORM;4MEEM ISOLATED FORM",
  "fc19 ARABIC LIGATURE KHAH WITH JEEM ISOLATED FORM;4HAH ISOLATED FORM;4MEEM ISOLATED FORM",
  "fc1c ARABIC LIGATURE SEEN WITH JEEM ISOLATED FORM;4HAH ISOLATED FORM;4KHAH ISOLATED FORM",
  "fc1f ARABIC LIGATURE SEEN WITH MEEM ISOLATED FORM;2SAD WITH HAH ISOLATED FORM",
  "fc21 ARABIC LIGATURE SAD WITH MEEM ISOLATED FORM;2DAD WITH JEEM ISOLATED FORM",
  "fc23 ARABIC LIGATURE DAD WITH HAH ISOLATED FORM;4KHAH ISOLATED FORM;4MEEM ISOLATED FORM",
  "fc26 ARABIC LIGATURE TAH WITH HAH ISOLATED FORM;4MEEM ISOLATED FORM",
  "fc28 ARABIC LIGATURE ZAH WITH MEEM ISOLATED FORM;2AIN WITH JEEM ISOLATED FORM",
  "fc2a ARABIC LIGATURE AIN WITH MEEM ISOLATED FORM;2GHAIN WITH JEEM ISOLATED FORM",
  "fc2c ARABIC LIGATURE GHAIN WITH MEEM ISOLATED FORM;2FEH WITH JEEM ISOLATED FORM",
  "fc2e ARABIC LIGATURE FEH WITH HAH ISOLATED FORM;4KHAH ISOLATED FORM;4MEEM ISOLATED FORM",
  "fc31 ARABIC LIGATURE FEH WITH ALEF MAKSURA ISOLATED FORM;4YEH ISOLATED FORM",
  "fc33 ARABIC LIGATURE QAF WITH HAH ISOLATED FORM;4MEEM ISOLATED FORM;4ALEF MAKSURA ISOLATED FORM",
  "fc36 ARABIC LIGATURE QAF WITH YEH ISOLATED FORM;2KAF WITH ALEF ISOLATED FORM",
  "fc38 ARABIC LIGATURE KAF WITH JEEM ISOLATED FORM;4HAH ISOLATED FORM;4KHAH ISOLATED FORM",
  "fc3b ARABIC LIGATURE KAF WITH LAM ISOLATED FORM;4MEEM ISOLATED FORM;4ALEF MAKSURA ISOLATED FORM",
  "fc3e ARABIC LIGATURE KAF WITH YEH ISOLATED FORM;2LAM WITH JEEM ISOLATED FORM;4HAH ISOLATED FORM",
  "fc41 ARABIC LIGATURE LAM WITH KHAH ISOLATED FORM;4MEEM ISOLATED FORM",
  "fc43 ARABIC LIGATURE LAM WITH ALEF MAKSURA ISOLATED FORM;4YEH ISOLATED FORM",
  "fc45 ARABIC LIGATURE MEEM WITH JEEM ISOLATED FORM;4HAH ISOLATED FORM;4KHAH ISOLATED FORM",
  "fc48 ARABIC LIGATURE MEEM WITH MEEM ISOLATED FORM;4ALEF MAKSURA ISOLATED FORM",
  "fc4a ARABIC LIGATURE MEEM WITH YEH ISOLATED FORM;2NOON WITH JEEM ISOLATED FORM",
  "fc4c ARABIC LIGATURE NOON WITH HAH ISOLATED FORM;4KHAH ISOLATED FORM;4MEEM ISOLATED FORM",
  "fc4f ARABIC LIGATURE NOON WITH ALEF MAKSURA ISOLATED FORM;4YEH ISOLATED FORM",
  "fc51 ARABIC LIGATURE HEH WITH JEEM ISOLATED FORM;4MEEM ISOLATED FORM",
  "fc53 ARABIC LIGATURE HEH WITH ALEF MAKSURA ISOLATED FORM;4YEH ISOLATED FORM",
  "fc55 ARABIC LIGATURE YEH WITH JEEM ISOLATED FORM;4HAH ISOLATED FORM;4KHAH ISOLATED FORM",
  "fc58 ARABIC LIGATURE YEH WITH MEEM ISOLATED FORM;4ALEF MAKSURA ISOLATED FORM;4YEH ISOLATED FORM",
  "fc5b ARABIC LIGATURE THAL WITH SUPERSCRIPT ALEF ISOLATED FORM",
  "fc5c ARABIC LIGATURE REH WITH SUPERSCRIPT ALEF ISOLATED FORM",
  "fc5d ARABIC LIGATURE ALEF MAKSURA WITH SUPERSCRIPT ALEF ISOLATED FORM",
  "fc5e ARABIC LIGATURE SHADDA WITH DAMMATAN ISOLATED FORM;4KASRATAN ISOLATED FORM",
  "fc60 ARABIC LIGATURE SHADDA WITH FATHA ISOLATED FORM;4DAMMA ISOLATED FORM;4KASRA ISOLATED FORM",
  "fc63 ARABIC LIGATURE SHADDA WITH SUPERSCRIPT ALEF ISOLATED FORM",
  "fc64 ARABIC LIGATURE YEH WITH HAMZA ABOVE WITH REH FINAL FORM;7ZAIN FINAL FORM;7MEEM FINAL FORM",
  "fc67 ARABIC LIGATURE YEH WITH HAMZA ABOVE WITH NOON FINAL FORM;7ALEF MAKSURA FINAL FORM",
  "fc69 ARABIC LIGATURE YEH WITH HAMZA ABOVE WITH YEH FINAL FORM;2BEH WITH REH FINAL FORM",
  "fc6b ARABIC LIGATURE BEH WITH ZAIN FINAL FORM;4MEEM FINAL FORM;4NOON FINAL FORM",
  "fc6e ARABIC LIGATURE BEH WITH ALEF MAKSURA FINAL FORM;4YEH FINAL FORM;2TEH WITH REH FINAL FORM",
  "fc71 ARABIC LIGATURE TEH WITH ZAIN FINAL FORM;4MEEM FINAL FORM;4NOON FINAL FORM",
  "fc74 ARABIC LIGATURE TEH WITH ALEF MAKSURA FINAL FORM;4YEH FINAL FORM;2THEH WITH REH FINAL FORM",
  "fc77 ARABIC LIGATURE THEH WITH ZAIN FINAL FORM;4MEEM FINAL FORM;4NOON FINAL FORM",
  "fc7a ARABIC LIGATURE THEH WITH ALEF MAKSURA FINAL FORM;4YEH FINAL FORM",
  "fc7c ARABIC LIGATURE FEH WITH ALEF MAKSURA FINAL FORM;4YEH FINAL FORM",
  "fc7e ARABIC LIGATURE QAF WITH ALEF MAKSURA FINAL FORM;4YEH FINAL FORM;2KAF WITH ALEF FINAL FORM",
  "fc81 ARABIC LIGATURE KAF WITH LAM FINAL FORM;4MEEM FINAL FORM;4ALEF MAKSURA FINAL FORM",
  "fc84 ARABIC LIGATURE KAF WITH YEH FINAL FORM;2LAM WITH MEEM FINAL FORM;4ALEF MAKSURA FINAL FORM",
  "fc87 ARABIC LIGATURE LAM WITH YEH FINAL FORM;2MEEM WITH ALEF FINAL FORM;4MEEM FINAL FORM",
  "fc8a ARABIC LIGATURE NOON WITH REH FINAL FORM;4ZAIN FINAL FORM;4MEEM FINAL FORM",
  "fc8d ARABIC LIGATURE NOON WITH NOON FINAL FORM;4ALEF MAKSURA FINAL FORM;4YEH FINAL FORM",
  "fc90 ARABIC LIGATURE ALEF MAKSURA WITH SUPERSCRIPT ALEF FINAL FORM;2YEH WITH REH FINAL FORM",
  "fc92 ARABIC LIGATURE YEH WITH ZAIN FINAL FORM;4MEEM FINAL FORM;4NOON FINAL FORM",
  "fc95 ARABIC LIGATURE YEH WITH ALEF MAKSURA FINAL FORM;4YEH FINAL FORM",
  "fc97 ARABIC LIGATURE YEH WITH HAMZA ABOVE WITH JEEM INITIAL FORM;7HAH INITIAL FORM",
  "fc99 ARABIC LIGATURE YEH WITH HAMZA ABOVE WITH KHAH INITIAL FORM;7MEEM INITIAL FORM",
  "fc9b ARABIC LIGATURE YEH WITH HAMZA ABOVE WITH HEH INITIAL FORM;2BEH WITH JEEM INITIAL FORM",
  "fc9d ARABIC LIGATURE BEH WITH HAH INITIAL FORM;4KHAH INITIAL FORM;4MEEM INITIAL FORM",
  "fca0 ARABIC LIGATURE BEH WITH HEH INITIAL FORM;2TEH WITH JEEM INITIAL FORM;4HAH INITIAL FORM",
  "fca3 ARABIC LIGATURE TEH WITH KHAH INITIAL FORM;4MEEM INITIAL FORM;4HEH INITIAL FORM",
  "fca6 ARABIC LIGATURE THEH WITH MEEM INITIAL FORM;2JEEM WITH HAH INITIAL FORM;4MEEM INITIAL FORM",
  "fca9 ARABIC LIGATURE HAH WITH JEEM INITIAL FORM;4MEEM INITIAL FORM;2KHAH WITH JEEM INITIAL FORM",
  "fcac ARABIC LIGATURE KHAH WITH MEEM INITIAL FORM;2SEEN WITH JEEM INITIAL FORM;4HAH INITIAL FORM",
  "fcaf ARABIC LIGATURE SEEN WITH KHAH INITIAL FORM;4MEEM INITIAL FORM;2SAD WITH HAH INITIAL FORM",
  "fcb2 ARABIC LIGATURE SAD WITH KHAH INITIAL FORM;4MEEM INITIAL FORM;2DAD WITH JEEM INITIAL FORM",
  "fcb5 ARABIC LIGATURE DAD WITH HAH INITIAL FORM;4KHAH INITIAL FORM;4MEEM INITIAL FORM",
  "fcb8 ARABIC LIGATURE TAH WITH HAH INITIAL FORM;2ZAH WITH MEEM INITIAL FORM",
  "fcba ARABIC LIGATURE AIN WITH JEEM INITIAL FORM;4MEEM INITIAL FORM",
  "fcbc ARABIC LIGATURE GHAIN WITH JEEM INITIAL FORM;4MEEM INITIAL FORM",
  "fcbe ARABIC LIGATURE FEH WITH JEEM INITIAL FORM;4HAH INITIAL FORM;4KHAH INITIAL FORM",
  "fcc1 ARABIC LIGATURE FEH WITH MEEM INITIAL FORM;2QAF WITH HAH INITIAL FORM;4MEEM INITIAL FORM",
  "fcc4 ARABIC LIGATURE KAF WITH JEEM INITIAL FORM;4HAH INITIAL FORM;4KHAH INITIAL FORM",
  "fcc7 ARABIC LIGATURE KAF WITH LAM INITIAL FORM;4MEEM INITIAL FORM;2LAM WITH JEEM INITIAL FORM",
  "fcca ARABIC LIGATURE LAM WITH HAH INITIAL FORM;4KHAH INITIAL FORM;4MEEM INITIAL FORM",
  "fccd ARABIC LIGATURE LAM WITH HEH INITIAL FORM;2MEEM WITH JEEM INITIAL FORM;4HAH INITIAL FORM",
  "fcd0 ARABIC LIGATURE MEEM WITH KHAH INITIAL FORM;4MEEM INITIAL FORM",
  "fcd2 ARABIC LIGATURE NOON WITH JEEM INITIAL FORM;4HAH INITIAL FORM;4KHAH INITIAL FORM",
  "fcd5 ARABIC LIGATURE NOON WITH MEEM INITIAL FORM;4HEH INITIAL FORM;2HEH WITH JEEM INITIAL FORM",
  "fcd8 ARABIC LIGATURE HEH WITH MEEM INITIAL FORM;4SUPERSCRIPT ALEF INITIAL FORM",
  "fcda ARABIC LIGATURE YEH WITH JEEM INITIAL FORM;4HAH INITIAL FORM;4KHAH INITIAL FORM",
  "fcdd ARABIC LIGATURE YEH WITH MEEM INITIAL FORM;4HEH INITIAL FORM",
  "fcdf ARABIC LIGATURE YEH WITH HAMZA ABOVE WITH MEEM MEDIAL FORM;7HEH MEDIAL FORM",
  "fce1 ARABIC LIGATURE BEH WITH MEEM MEDIAL FORM;4HEH MEDIAL FORM;2TEH WITH MEEM MEDIAL FORM",
  "fce4 ARABIC LIGATURE TEH WITH HEH MEDIAL FORM;2THEH WITH MEEM MEDIAL FORM;4HEH MEDIAL FORM",
  "fce7 ARABIC LIGATURE SEEN WITH MEEM MEDIAL FORM;4HEH MEDIAL FORM;2SHEEN WITH MEEM MEDIAL FORM",
  "fcea ARABIC LIGATURE SHEEN WITH HEH MEDIAL FORM;2KAF WITH LAM MEDIAL FORM;4MEEM MEDIAL FORM",
  "fced ARABIC LIGATURE LAM WITH MEEM MEDIAL FORM;2NOON WITH MEEM MEDIAL FORM;4HEH MEDIAL FORM",
  "fcf0 ARABIC LIGATURE YEH WITH MEEM MEDIAL FORM;4HEH MEDIAL FORM;2SHADDA WITH FATHA MEDIAL FORM",
  "fcf3 ARABIC LIGATURE SHADDA WITH DAMMA MEDIAL FORM;4KASRA MEDIAL FORM",
  "fcf5 ARABIC LIGATURE TAH WITH ALEF MAKSURA ISOLATED FORM;4YEH ISOLATED FORM",
  "fcf7 ARABIC LIGATURE AIN WITH ALEF MAKSURA ISOLATED FORM;4YEH ISOLATED FORM",
  "fcf9 ARABIC LIGATURE GHAIN WITH ALEF MAKSURA ISOLATED FORM;4YEH ISOLATED FORM",
  "fcfb ARABIC LIGATURE SEEN WITH ALEF MAKSURA ISOLATED FORM;4YEH ISOLATED FORM",
  "fcfd ARABIC LIGATURE SHEEN WITH ALEF MAKSURA ISOLATED FORM;4YEH ISOLATED FORM",
  "fcff ARABIC LIGATURE HAH WITH ALEF MAKSURA ISOLATED FORM;4YEH ISOLATED FORM",
  "fd01 ARABIC LIGATURE JEEM WITH ALEF MAKSURA ISOLATED FORM;4YEH ISOLATED FORM",
  "fd03 ARABIC LIGATURE KHAH WITH ALEF MAKSURA ISOLATED FORM;4YEH ISOLATED FORM",
  "fd05 ARABIC LIGATURE SAD WITH ALEF MAKSURA ISOLATED FORM;4YEH ISOLATED FORM",
  "fd07 ARABIC LIGATURE DAD WITH ALEF MAKSURA ISOLATED FORM;4YEH ISOLATED FORM",
  "fd09 ARABIC LIGATURE SHEEN WITH JEEM ISOLATED FORM;4HAH ISOLATED FORM;4KHAH ISOLATED FORM",
  "fd0c ARABIC LIGATURE SHEEN WITH MEEM ISOLATED FORM;4REH ISOLATED FORM",
  "fd0e ARABIC LIGATURE SEEN WITH REH ISOLATED FORM;2SAD WITH REH ISOLATED FORM",
  "fd10 ARABIC LIGATURE DAD WITH REH ISOLATED FORM;2TAH WITH ALEF MAKSURA FINAL FORM",
  "fd12 ARABIC LIGATURE TAH WITH YEH FINAL FORM;2AIN WITH ALEF MAKSURA FINAL FORM;4YEH FINAL FORM",
  "fd15 ARABIC LIGATURE GHAIN WITH ALEF MAKSURA FINAL FORM;4YEH FINAL FORM",
  "fd17 ARABIC LIGATURE SEEN WITH ALEF MAKSURA FINAL FORM;4YEH FINAL FORM",
  "fd19 ARABIC LIGATURE SHEEN WITH ALEF MAKSURA FINAL FORM;4YEH FINAL FORM",
  "fd1b ARABIC LIGATURE HAH WITH ALEF MAKSURA FINAL FORM;4YEH FINAL FORM",
  "fd1d ARABIC LIGATURE JEEM WITH ALEF MAKSURA FINAL FORM;4YEH FINAL FORM",
  "fd1f ARABIC LIGATURE KHAH WITH ALEF MAKSURA FINAL FORM;4YEH FINAL FORM",
  "fd21 ARABIC LIGATURE SAD WITH ALEF MAKSURA FINAL FORM;4YEH FINAL FORM",
  "fd23 ARABIC LIGATURE DAD WITH ALEF MAKSURA FINAL FORM;4YEH FINAL FORM",
  "fd25 ARABIC LIGATURE SHEEN WITH JEEM FINAL FORM;4HAH FINAL FORM;4KHAH FINAL FORM",
  "fd28 ARABIC LIGATURE SHEEN WITH MEEM FINAL FORM;4REH FINAL FORM;2SEEN WITH REH FINAL FORM",
  "fd2b ARABIC LIGATURE SAD WITH REH FINAL FORM;2DAD WITH REH FINAL FORM",
  "fd2d ARABIC LIGATURE SHEEN WITH JEEM INITIAL FORM;4HAH INITIAL FORM;4KHAH INITIAL FORM",
  "fd30 ARABIC LIGATURE SHEEN WITH MEEM INITIAL FORM;2SEEN WITH HEH INITIAL FORM",
  "fd32 ARABIC LIGATURE SHEEN WITH HEH INITIAL FORM;2TAH WITH MEEM INITIAL FORM",
  "fd34 ARABIC LIGATURE SEEN WITH JEEM MEDIAL FORM;4HAH MEDIAL FORM;4KHAH MEDIAL FORM",
  "fd37 ARABIC LIGATURE SHEEN WITH JEEM MEDIAL FORM;4HAH MEDIAL FORM;4KHAH MEDIAL FORM",
  "fd3a ARABIC LIGATURE TAH WITH MEEM MEDIAL FORM;2ZAH WITH MEEM MEDIAL FORM",
  "fd3c ARABIC LIGATURE ALEF WITH FATHATAN FINAL FORM;5ISOLATED FORM;0ORNATE LEFT PARENTHESIS",
  "fd3f ORNATE RIGHT PARENTHESIS;0ARABIC LIGATURE RAHIMAHU ALLAAH;2RADI ALLAAHU ANH;4ANHAA;4ANHUM",
  "fd44 ARABIC LIGATURE RADI ALLAAHU ANHUMAA;4ANHUNNA;2SALLALLAAHU ALAYHI WA-AALIH",
  "fd47 ARABIC LIGATURE ALAYHI AS-SALAAM;2ALAYHIM AS-SALAAM;2ALAYHIMAA AS-SALAAM",
  "fd4a ARABIC LIGATURE ALAYHI AS-SALAATU WAS-SALAAM;2QUDDISA SIRRAH",
  "fd4c ARABIC LIGATURE SALLALLAHU ALAYHI WAAALIHEE WA-SALLAM;2ALAYHAA AS-SALAAM",
  "fd4e ARABIC LIGATURE TABAARAKA WA-TAAALAA;2RAHIMAHUM ALLAAH",
  "fd50 ARABIC LIGATURE TEH WITH JEEM WITH MEEM INITIAL FORM;4HAH WITH JEEM FINAL FORM",
  "fd52 ARABIC LIGATURE TEH WITH HAH WITH JEEM INITIAL FORM;6MEEM INITIAL FORM",
  "fd54 ARABIC LIGATURE TEH WITH KHAH WITH MEEM INITIAL FORM;4MEEM WITH JEEM INITIAL FORM",
  "fd56 ARABIC LIGATURE TEH WITH MEEM WITH HAH INITIAL FORM;6KHAH INITIAL FORM",
  "fd58 ARABIC LIGATURE JEEM WITH MEEM WITH HAH FINAL FORM;7INITIAL FORM",
  "fd5a ARABIC LIGATURE HAH WITH MEEM WITH YEH FINAL FORM;6ALEF MAKSURA FINAL FORM",
  "fd5c ARABIC LIGATURE SEEN WITH HAH WITH JEEM INITIAL FORM;4JEEM WITH HAH INITIAL FORM",
  "fd5e ARABIC LIGATURE SEEN WITH JEEM WITH ALEF MAKSURA FINAL FORM;4MEEM WITH HAH FINAL FORM",
  "fd60 ARABIC LIGATURE SEEN WITH MEEM WITH HAH INITIAL FORM;6JEEM INITIAL FORM;6MEEM FINAL FORM",
  "fd63 ARABIC LIGATURE SEEN WITH MEEM WITH MEEM INITIAL FORM;2SAD WITH HAH WITH HAH FINAL FORM",
  "fd65 ARABIC LIGATURE SAD WITH HAH WITH HAH INITIAL FORM;4MEEM WITH MEEM FINAL FORM",
  "fd67 ARABIC LIGATURE SHEEN WITH HAH WITH MEEM FINAL FORM;7INITIAL FORM",
  "fd69 ARABIC LIGATURE SHEEN WITH JEEM WITH YEH FINAL FORM;4MEEM WITH KHAH FINAL FORM",
  "fd6b ARABIC LIGATURE SHEEN WITH MEEM WITH KHAH INITIAL FORM;6MEEM FINAL FORM;7INITIAL FORM",
  "fd6e ARABIC LIGATURE DAD WITH HAH WITH ALEF MAKSURA FINAL FORM;4KHAH WITH MEEM FINAL FORM",
  "fd70 ARABIC LIGATURE DAD WITH KHAH WITH MEEM INITIAL FORM;2TAH WITH MEEM WITH HAH FINAL FORM",
  "fd72 ARABIC LIGATURE TAH WITH MEEM WITH HAH INITIAL FORM;6MEEM INITIAL FORM;6YEH FINAL FORM",
  "fd75 ARABIC LIGATURE AIN WITH JEEM WITH MEEM FINAL FORM;4MEEM WITH MEEM FINAL FORM",
  "fd77 ARABIC LIGATURE AIN WITH MEEM WITH MEEM INITIAL FORM;6ALEF MAKSURA FINAL FORM",
  "fd79 ARABIC LIGATURE GHAIN WITH MEEM WITH MEEM FINAL FORM;6YEH FINAL FORM",
  "fd7b ARABIC LIGATURE GHAIN WITH MEEM WITH ALEF MAKSURA FINAL FORM",
  "fd7c ARABIC LIGATURE FEH WITH KHAH WITH MEEM FINAL FORM;7INITIAL FORM",
  "fd7e ARABIC LIGATURE QAF WITH MEEM WITH HAH FINAL FORM;6MEEM FINAL FORM",
  "fd80 ARABIC LIGATURE LAM WITH HAH WITH MEEM FINAL FORM;6YEH FINAL FORM;6ALEF MAKSURA FINAL FORM",
  "fd83 ARABIC LIGATURE LAM WITH JEEM WITH JEEM INITIAL FORM;7FINAL FORM",
  "fd85 ARABIC LIGATURE LAM WITH KHAH WITH MEEM FINAL FORM;7INITIAL FORM;4MEEM WITH HAH FINAL FORM",
  "fd88 ARABIC LIGATURE LAM WITH MEEM WITH HAH INITIAL FORM;2MEEM WITH HAH WITH JEEM INITIAL FORM",
  "fd8a ARABIC LIGATURE MEEM WITH HAH WITH MEEM INITIAL FORM;6YEH FINAL FORM",
  "fd8c ARABIC LIGATURE MEEM WITH JEEM WITH HAH INITIAL FORM;6MEEM INITIAL FORM",
  "fd8e ARABIC LIGATURE MEEM WITH KHAH WITH JEEM INITIAL FORM;6MEEM INITIAL FORM",
  "fd92 ARABIC LIGATURE MEEM WITH JEEM WITH KHAH INITIAL FORM",
  "fd93 ARABIC LIGATURE HEH WITH MEEM WITH JEEM INITIAL FORM;6MEEM INITIAL FORM",
  "fd95 ARABIC LIGATURE NOON WITH HAH WITH MEEM INITIAL FORM;6ALEF MAKSURA FINAL FORM",
  "fd97 ARABIC LIGATURE NOON WITH JEEM WITH MEEM FINAL FORM;7INITIAL FORM;6ALEF MAKSURA FINAL FORM",
  "fd9a ARABIC LIGATURE NOON WITH MEEM WITH YEH FINAL FORM;6ALEF MAKSURA FINAL FORM",
  "fd9c ARABIC LIGATURE YEH WITH MEEM WITH MEEM FINAL FORM;7INITIAL FORM",
  "fd9e ARABIC LIGATURE BEH WITH KHAH WITH YEH FINAL FORM;2TEH WITH JEEM WITH YEH FINAL FORM",
  "fda0 ARABIC LIGATURE TEH WITH JEEM WITH ALEF MAKSURA FINAL FORM;4KHAH WITH YEH FINAL FORM",
  "fda2 ARABIC LIGATURE TEH WITH KHAH WITH ALEF MAKSURA FINAL FORM;4MEEM WITH YEH FINAL FORM",
  "fda4 ARABIC LIGATURE TEH WITH MEEM WITH ALEF MAKSURA FINAL FORM",
  "fda5 ARABIC LIGATURE JEEM WITH MEEM WITH YEH FINAL FORM;4HAH WITH ALEF MAKSURA FINAL FORM",
  "fda7 ARABIC LIGATURE JEEM WITH MEEM WITH ALEF MAKSURA FINAL FORM",
  "fda8 ARABIC LIGATURE SEEN WITH KHAH WITH ALEF MAKSURA FINAL FORM",
  "fda9 ARABIC LIGATURE SAD WITH HAH WITH YEH FINAL FORM;2SHEEN WITH HAH WITH YEH FINAL FORM",
  "fdab ARABIC LIGATURE DAD WITH HAH WITH YEH FINAL FORM;2LAM WITH JEEM WITH YEH FINAL FORM",
  "fdad ARABIC LIGATURE LAM WITH MEEM WITH YEH FINAL FORM;2YEH WITH HAH WITH YEH FINAL FORM",
  "fdaf ARABIC LIGATURE YEH WITH JEEM WITH YEH FINAL FORM;4MEEM WITH YEH FINAL FORM",
  "fdb1 ARABIC LIGATURE MEEM WITH MEEM WITH YEH FINAL FORM;2QAF WITH MEEM WITH YEH FINAL FORM",
  "fdb3 ARABIC LIGATURE NOON WITH HAH WITH YEH FINAL FORM;2QAF WITH MEEM WITH HAH INITIAL FORM",
  "fdb5 ARABIC LIGATURE LAM WITH HAH WITH MEEM INITIAL FORM;2AIN WITH MEEM WITH YEH FINAL FORM",
  "fdb7 ARABIC LIGATURE KAF WITH MEEM WITH YEH FINAL FORM;2NOON WITH JEEM WITH HAH INITIAL FORM",
  "fdb9 ARABIC LIGATURE MEEM WITH KHAH WITH YEH FINAL FORM;2LAM WITH JEEM WITH MEEM INITIAL FORM",
  "fdbb ARABIC LIGATURE KAF WITH MEEM WITH MEEM FINAL FORM;2LAM WITH JEEM WITH MEEM FINAL FORM",
  "fdbd ARABIC LIGATURE NOON WITH JEEM WITH HAH FINAL FORM;2JEEM WITH HAH WITH YEH FINAL FORM",
  "fdbf ARABIC LIGATURE HAH WITH JEEM WITH YEH FINAL FORM;2MEEM WITH JEEM WITH YEH FINAL FORM",
  "fdc1 ARABIC LIGATURE FEH WITH MEEM WITH YEH FINAL FORM;2BEH WITH HAH WITH YEH FINAL FORM",
  "fdc3 ARABIC LIGATURE KAF WITH MEEM WITH MEEM INITIAL FORM;2AIN WITH JEEM WITH MEEM INITIAL FORM",
  "fdc5 ARABIC LIGATURE SAD WITH MEEM WITH MEEM INITIAL FORM;2SEEN WITH KHAH WITH YEH FINAL FORM",
  "fdc7 ARABIC LIGATURE NOON WITH JEEM WITH YEH FINAL FORM",
  "fdcf ARABIC LIGATURE SALAAMUHU ALAYNAA",
  "fdf0 ARABIC LIGATURE SALLA USED AS KORANIC STOP SIGN ISOLATED FORM",
  "fdf1 ARABIC LIGATURE QALA USED AS KORANIC STOP SIGN ISOLATED FORM;2ALLAH ISOLATED FORM",
  "fdf3 ARABIC LIGATURE AKBAR ISOLATED FORM;2MOHAMMAD ISOLATED FORM;2SALAM ISOLATED FORM",
  "fdf6 ARABIC LIGATURE RASOUL ISOLATED FORM;2ALAYHE ISOLATED FORM;2WASALLAM ISOLATED FORM",
  "fdf9 ARABIC LIGATURE SALLA ISOLATED FORM;2SALLALLAHOU ALAYHE WASALLAM;2JALLAJALALOUHOU",
  "fdfc RIAL SIGN;0ARABIC LIGATURE BISMILLAH AR-RAHMAN AR-RAHEEM;2SUBHAANAHU WA TAAALAA",
  "fdff ARABIC LIGATURE AZZA WA JALL;0VARIATION SELECTOR-1;1SELECTOR-2;1SELECTOR-3;1SELECTOR-4",
  "fe04 VARIATION SELECTOR-5;1SELECTOR-6;1SELECTOR-7;1SELECTOR-8;1SELECTOR-9;1SELECTOR-10",
  "fe0a VARIATION SELECTOR-11;1SELECTOR-12;1SELECTOR-13;1SELECTOR-14;1SELECTOR-15;1SELECTOR-16",
  "fe10 PRESENTATION FORM FOR VERTICAL COMMA;4IDEOGRAPHIC COMMA;5FULL STOP;4COLON;4SEMICOLON",
  "fe15 PRESENTATION FORM FOR VERTICAL EXCLAMATION MARK;4QUESTION MARK",
  "fe17 PRESENTATION FORM FOR VERTICAL LEFT WHITE LENTICULAR BRACKET",
  "fe18 PRESENTATION FORM FOR VERTICAL RIGHT WHITE LENTICULAR BRAKCET;4HORIZONTAL ELLIPSIS",
  "fe20 COMBINING LIGATURE LEFT HALF;2RIGHT HALF;1DOUBLE TILDE LEFT HALF;3RIGHT HALF",
  "fe24 COMBINING MACRON LEFT HALF;2RIGHT HALF;1CONJOINING MACRON;1LIGATURE LEFT HALF BELOW",
  "fe28 COMBINING LIGATURE RIGHT HALF BELOW;1TILDE LEFT HALF BELOW;2RIGHT HALF BELOW",
  "fe2b COMBINING MACRON LEFT HALF BELOW;2RIGHT HALF BELOW;1CONJOINING MACRON BELOW",
  "fe2e COMBINING CYRILLIC TITLO LEFT HALF;3RIGHT HALF",
  "fe30 PRESENTATION FORM FOR VERTICAL TWO DOT LEADER;4EM DASH;4EN DASH;4LOW LINE;4WAVY LOW LINE",
  "fe35 PRESENTATION FORM FOR VERTICAL LEFT PARENTHESIS;4RIGHT PARENTHESIS;4LEFT CURLY BRACKET",
  "fe38 PRESENTATION FORM FOR VERTICAL RIGHT CURLY BRACKET;4LEFT TORTOISE SHELL BRACKET",
  "fe3a PRESENTATION FORM FOR VERTICAL RIGHT TORTOISE SHELL BRACKET;4LEFT BLACK LENTICULAR BRACKET",
  "fe3c PRESENTATION FORM FOR VERTICAL RIGHT BLACK LENTICULAR BRACKET;4LEFT DOUBLE ANGLE BRACKET",
  "fe3e PRESENTATION FORM FOR VERTICAL RIGHT DOUBLE ANGLE BRACKET;4LEFT ANGLE BRACKET",
  "fe40 PRESENTATION FORM FOR VERTICAL RIGHT ANGLE BRACKET;4LEFT CORNER BRACKET",
  "fe42 PRESENTATION FORM FOR VERTICAL RIGHT CORNER BRACKET;4LEFT WHITE CORNER BRACKET",
  "fe44 PRESENTATION FORM FOR VERTICAL RIGHT WHITE CORNER BRACKET;0SESAME DOT;0WHITE SESAME DOT",
  "fe47 PRESENTATION FORM FOR VERTICAL LEFT SQUARE BRACKET;4RIGHT SQUARE BRACKET;0DASHED OVERLINE",
  "fe4a CENTRELINE OVERLINE;0WAVY OVERLINE;0DOUBLE WAVY OVERLINE;0DASHED LOW LINE",
  "fe4e CENTRELINE LOW LINE;0WAVY LOW LINE;0SMALL COMMA;1IDEOGRAPHIC COMMA;1FULL STOP",
  "fe54 SMALL SEMICOLON;1COLON;1QUESTION MARK;1EXCLAMATION MARK;1EM DASH;1LEFT PARENTHESIS",
  "fe5a SMALL RIGHT PARENTHESIS;1LEFT CURLY BRACKET;1RIGHT CURLY BRACKET",
  "fe5d SMALL LEFT TORTOISE SHELL BRACKET;1RIGHT TORTOISE SHELL BRACKET;1NUMBER SIGN;1AMPERSAND",
  "fe61 SMALL ASTERISK;1PLUS SIGN;1HYPHEN-MINUS;1LESS-THAN SIGN;1GREATER-THAN SIGN;1EQUALS SIGN",
  "fe68 SMALL REVERSE SOLIDUS;1DOLLAR SIGN;1PERCENT SIGN;1COMMERCIAL AT",
  "fe70 ARABIC FATHATAN ISOLATED FORM;1TATWEEL WITH FATHATAN ABOVE;1DAMMATAN ISOLATED FORM",
  "fe73 ARABIC TAIL FRAGMENT;1KASRATAN ISOLATED FORM",
  "fe76 ARABIC FATHA ISOLATED FORM;2MEDIAL FORM;1DAMMA ISOLATED FORM;2MEDIAL FORM",
  "fe7a ARABIC KASRA ISOLATED FORM;2MEDIAL FORM;1SHADDA ISOLATED FORM;2MEDIAL FORM",
  "fe7e ARABIC SUKUN ISOLATED FORM;2MEDIAL FORM;1LETTER HAMZA ISOLATED FORM",
  "fe81 ARABIC LETTER ALEF WITH MADDA ABOVE ISOLATED FORM;6FINAL FORM;4HAMZA ABOVE ISOLATED FORM",
  "fe84 ARABIC LETTER ALEF WITH HAMZA ABOVE FINAL FORM;2WAW WITH HAMZA ABOVE ISOLATED FORM",
  "fe86 ARABIC LETTER WAW WITH HAMZA ABOVE FINAL FORM;2ALEF WITH HAMZA BELOW ISOLATED FORM",
  "fe88 ARABIC LETTER ALEF WITH HAMZA BELOW FINAL FORM;2YEH WITH HAMZA ABOVE ISOLATED FORM",
  "fe8a ARABIC LETTER YEH WITH HAMZA ABOVE FINAL FORM;6INITIAL FORM;6MEDIAL FORM",
  "fe8d ARABIC LETTER ALEF ISOLATED FORM;3FINAL FORM;2BEH ISOLATED FORM;3FINAL FORM;3INITIAL FORM",
  "fe92 ARABIC LETTER BEH MEDIAL FORM;2TEH MARBUTA ISOLATED FORM;4FINAL FORM;3ISOLATED FORM",
  "fe96 ARABIC LETTER TEH FINAL FORM;3INITIAL FORM;3MEDIAL FORM;2THEH ISOLATED FORM;3FINAL FORM",
  "fe9b ARABIC LETTER THEH INITIAL FORM;3MEDIAL FORM;2JEEM ISOLATED FORM;3FINAL FORM;3INITIAL FORM",
  "fea0 ARABIC LETTER JEEM MEDIAL FORM;2HAH ISOLATED FORM;3FINAL FORM;3INITIAL FORM;3MEDIAL FORM",
  "fea5 ARABIC LETTER KHAH ISOLATED FORM;3FINAL FORM;3INITIAL FORM;3MEDIAL FORM;2DAL ISOLATED FORM",
  "feaa ARABIC LETTER DAL FINAL FORM;2THAL ISOLATED FORM;3FINAL FORM;2REH ISOLATED FORM",
  "feae ARABIC LETTER REH FINAL FORM;2ZAIN ISOLATED FORM;3FINAL FORM;2SEEN ISOLATED FORM",
  "feb2 ARABIC LETTER SEEN FINAL FORM;3INITIAL FORM;3MEDIAL FORM;2SHEEN ISOLATED FORM;3FINAL FORM",
  "feb7 ARABIC LETTER SHEEN INITIAL FORM;3MEDIAL FORM;2SAD ISOLATED FORM;3FINAL FORM;3INITIAL FORM",
  "febc ARABIC LETTER SAD MEDIAL FORM;2DAD ISOLATED FORM;3FINAL FORM;3INITIAL FORM;3MEDIAL FORM",
  "fec1 ARABIC LETTER TAH ISOLATED FORM;3FINAL FORM;3INITIAL FORM;3MEDIAL FORM;2ZAH ISOLATED FORM",
  "fec6 ARABIC LETTER ZAH FINAL FORM;3INITIAL FORM;3MEDIAL FORM;2AIN ISOLATED FORM;3FINAL FORM",
  "fecb ARABIC LETTER AIN INITIAL FORM;3MEDIAL FORM;2GHAIN ISOLATED FORM;3FINAL FORM;3INITIAL FORM",
  "fed0 ARABIC LETTER GHAIN MEDIAL FORM;2FEH ISOLATED FORM;3FINAL FORM;3INITIAL FORM;3MEDIAL FORM",
  "fed5 ARABIC LETTER QAF ISOLATED FORM;3FINAL FORM;3INITIAL FORM;3MEDIAL FORM;2KAF ISOLATED FORM",
  "feda ARABIC LETTER KAF FINAL FORM;3INITIAL FORM;3MEDIAL FORM;2LAM ISOLATED FORM;3FINAL FORM",
  "fedf ARABIC LETTER LAM INITIAL FORM;3MEDIAL FORM;2MEEM ISOLATED FORM;3FINAL FORM;3INITIAL FORM",
  "fee4 ARABIC LETTER MEEM MEDIAL FORM;2NOON ISOLATED FORM;3FINAL FORM;3INITIAL FORM;3MEDIAL FORM",
  "fee9 ARABIC LETTER HEH ISOLATED FORM;3FINAL FORM;3INITIAL FORM;3MEDIAL FORM;2WAW ISOLATED FORM",
  "feee ARABIC LETTER WAW FINAL FORM;2ALEF MAKSURA ISOLATED FORM;4FINAL FORM;2YEH ISOLATED FORM",
  "fef2 ARABIC LETTER YEH FINAL FORM;3INITIAL FORM;3MEDIAL FORM",
  "fef5 ARABIC LIGATURE LAM WITH ALEF WITH MADDA ABOVE ISOLATED FORM;8FINAL FORM",
  "fef7 ARABIC LIGATURE LAM WITH ALEF WITH HAMZA ABOVE ISOLATED FORM;8FINAL FORM",
  "fef9 ARABIC LIGATURE LAM WITH ALEF WITH HAMZA BELOW ISOLATED FORM;8FINAL FORM;5ISOLATED FORM",
  "fefc ARABIC LIGATURE LAM WITH ALEF FINAL FORM",
  "feff ZERO WIDTH NO-BREAK SPACE",
  "ff01 FULLWIDTH EXCLAMATION MARK;1QUOTATION MARK;1NUMBER SIGN;1DOLLAR SIGN;1PERCENT SIGN",
  "ff06 FULLWIDTH AMPERSAND;1APOSTROPHE;1LEFT PARENTHESIS;1RIGHT PARENTHESIS;1ASTERISK;1PLUS SIGN",
  "ff0c FULLWIDTH COMMA;1HYPHEN-MINUS;1FULL STOP;1SOLIDUS;1DIGIT ZERO;2ONE;2TWO;2THREE;2FOUR;2FIVE",
  "ff16 FULLWIDTH DIGIT SIX;2SEVEN;2EIGHT;2NINE;1COLON;1SEMICOLON;1LESS-THAN SIGN;1EQUALS SIGN",
  "ff1e FULLWIDTH GREATER-THAN SIGN;1QUESTION MARK;1COMMERCIAL AT;1LATIN CAPITAL LETTER A;4B;4C;4D",
  "ff25 FULLWIDTH LATIN CAPITAL LETTER E;4F;4G;4H;4I;4J;4K;4L;4M;4N;4O;4P;4Q;4R;4S;4T;4U;4V;4W;4X",
  "ff39 FULLWIDTH LATIN CAPITAL LETTER Y;4Z;1LEFT SQUARE BRACKET;1REVERSE SOLIDUS",
  "ff3d FULLWIDTH RIGHT SQUARE BRACKET;1CIRCUMFLEX ACCENT;1LOW LINE;1GRAVE ACCENT",
  "ff41 FULLWIDTH LATIN SMALL LETTER A;4B;4C;4D;4E;4F;4G;4H;4I;4J;4K;4L;4M;4N;4O;4P;4Q;4R;4S;4T;4U",
  "ff56 FULLWIDTH LATIN SMALL LETTER V;4W;4X;4Y;4Z;1LEFT CURLY BRACKET;1VERTICAL LINE",
  "ff5d FULLWIDTH RIGHT CURLY BRACKET;1TILDE;1LEFT WHITE PARENTHESIS;1RIGHT WHITE PARENTHESIS",
  "ff61 HALFWIDTH IDEOGRAPHIC FULL STOP;1LEFT CORNER BRACKET;1RIGHT CORNER BRACKET",
  "ff64 HALFWIDTH IDEOGRAPHIC COMMA;1KATAKANA MIDDLE DOT;2LETTER WO;3SMALL A;4I;4U;4E;4O;4YA;4YU",
  "ff6e HALFWIDTH KATAKANA LETTER SMALL YO;4TU;1KATAKANA-HIRAGANA PROLONGED SOUND MARK",
  "ff71 HALFWIDTH KATAKANA LETTER A;3I;3U;3E;3O;3KA;3KI;3KU;3KE;3KO;3SA;3SI;3SU;3SE;3SO;3TA;3TI",
  "ff82 HALFWIDTH KATAKANA LETTER TU;3TE;3TO;3NA;3NI;3NU;3NE;3NO;3HA;3HI;3HU;3HE;3HO;3MA;3MI;3MU",
  "ff92 HALFWIDTH KATAKANA LETTER ME;3MO;3YA;3YU;3YO;3RA;3RI;3RU;3RE;3RO;3WA;3N;2VOICED SOUND MARK",
  "ff9f HALFWIDTH KATAKANA SEMI-VOICED SOUND MARK;1HANGUL FILLER;2LETTER KIYEOK;3SSANGKIYEOK",
  "ffa3 HALFWIDTH HANGUL LETTER KIYEOK-SIOS;3NIEUN;3NIEUN-CIEUC;3NIEUN-HIEUH;3TIKEUT;3SSANGTIKEUT",
  "ffa9 HALFWIDTH HANGUL LETTER RIEUL;3RIEUL-KIYEOK;3RIEUL-MIEUM;3RIEUL-PIEUP;3RIEUL-SIOS",
  "ffae HALFWIDTH HANGUL LETTER RIEUL-THIEUTH;3RIEUL-PHIEUPH;3RIEUL-HIEUH;3MIEUM;3PIEUP",
  "ffb3 HALFWIDTH HANGUL LETTER SSANGPIEUP;3PIEUP-SIOS;3SIOS;3SSANGSIOS;3IEUNG;3CIEUC;3SSANGCIEUC",
  "ffba HALFWIDTH HANGUL LETTER CHIEUCH;3KHIEUKH;3THIEUTH;3PHIEUPH;3HIEUH",
  "ffc2 HALFWIDTH HANGUL LETTER A;3AE;3YA;3YAE;3EO;3E",
  "ffca HALFWIDTH HANGUL LETTER YEO;3YE;3O;3WA;3WAE;3OE",
  "ffd2 HALFWIDTH HANGUL LETTER YO;3U;3WEO;3WE;3WI;3YU",
  "ffda HALFWIDTH HANGUL LETTER EU;3YI;3I",
  "ffe0 FULLWIDTH CENT SIGN;1POUND SIGN;1NOT SIGN;1MACRON;1BROKEN BAR;1YEN SIGN;1WON SIGN",
  "ffe8 HALFWIDTH FORMS LIGHT VERTICAL;1LEFTWARDS ARROW;1UPWARDS ARROW;1RIGHTWARDS ARROW",
  "ffec HALFWIDTH DOWNWARDS ARROW;1BLACK SQUARE;1WHITE CIRCLE",
  "fff9 INTERLINEAR ANNOTATION ANCHOR;2SEPARATOR;2TERMINATOR;0OBJECT REPLACEMENT CHARACTER",
  "fffd REPLACEMENT CHARACTER"]

/-- Characters and their further names. -/
def other : List String := [
  "0 NUL;1 SOH;1 START OF HEADING;2 START OF TEXT;2 STX;3 END OF TEXT;3 ETX;4 END OF TRANSMISSION",
  "4 EOT;5 ENQ;5 ENQUIRY;6 ACK;6 ACKNOWLEDGE;7 ALERT;7 BEL;8 BACKSPACE;8 BS;9 CHARACTER TABULATION",
  "9 HORIZONTAL TABULATION;9 HT;9 TAB;a END OF LINE;a EOL;a LF;a LINE FEED;a NEW LINE;a NL",
  "b LINE TABULATION;b VERTICAL TABULATION;b VT;c FF;c FORM FEED;d CARRIAGE RETURN;d CR",
  "e LOCKING-SHIFT ONE;e SHIFT OUT;e SO;f LOCKING-SHIFT ZERO;f SHIFT IN;f SI;10 DATA LINK ESCAPE",
  "10 DLE;11 DC1;11 DEVICE CONTROL ONE;12 DC2;12 DEVICE CONTROL TWO;13 DC3;13 DEVICE CONTROL THREE",
  "14 DC4;14 DEVICE CONTROL FOUR;15 NAK;15 NEGATIVE ACKNOWLEDGE;16 SYN;16 SYNCHRONOUS IDLE",
  "17 END OF TRANSMISSION BLOCK;17 ETB;18 CAN;18 CANCEL;19 END OF MEDIUM;19 EOM;1a SUB",
  "1a SUBSTITUTE;1b ESC;1b ESCAPE;1c FILE SEPARATOR;1c FS;1c INFORMATION SEPARATOR FOUR",
  "1d GROUP SEPARATOR;1d GS;1d INFORMATION SEPARATOR THREE;1e INFORMATION SEPARATOR TWO",
  "1e RECORD SEPARATOR;1e RS;1f INFORMATION SEPARATOR ONE;1f UNIT SEPARATOR;1f US;20 SP;7f DEL",
  "7f DELETE;80 PAD;80 PADDING CHARACTER;81 HIGH OCTET PRESET;81 HOP;82 BPH",
  "82 BREAK PERMITTED HERE;83 NBH;83 NO BREAK HERE;84 IND;84 INDEX;85 NEL;85 NEXT LINE;86 SSA",
  "86 START OF SELECTED AREA;87 END OF SELECTED AREA;87 ESA;88 CHARACTER TABULATION SET",
  "88 HORIZONTAL TABULATION SET;88 HTS;89 CHARACTER TABULATION WITH JUSTIFICATION",
  "89 HORIZONTAL TABULATION WITH JUSTIFICATION;89 HTJ;8a LINE TABULATION SET",
  "8a VERTICAL TABULATION SET;8a VTS;8b PARTIAL LINE DOWN;8b PARTIAL LINE FORWARD;8b PLD",
  "8c PARTIAL LINE BACKWARD;8c PARTIAL LINE UP;8c PLU;8d REVERSE INDEX;8d REVERSE LINE FEED;8d RI",
  "8e SINGLE SHIFT TWO;8e SINGLE-SHIFT-2;8e SS2;8f SINGLE SHIFT THREE;8f SINGLE-SHIFT-3;8f SS3",
  "90 DCS;90 DEVICE CONTROL STRING;91 PRIVATE USE ONE;91 PRIVATE USE-1;91 PU1;92 PRIVATE USE TWO",
  "92 PRIVATE USE-2;92 PU2;93 SET TRANSMIT STATE;93 STS;94 CANCEL CHARACTER;94 CCH",
  "95 MESSAGE WAITING;95 MW;96 SPA;96 START OF GUARDED AREA;96 START OF PROTECTED AREA",
  "97 END OF GUARDED AREA;97 END OF PROTECTED AREA;97 EPA;98 SOS;98 START OF STRING;99 SGC",
  "99 SINGLE GRAPHIC CHARACTER INTRODUCER;9a SCI;9a SINGLE CHARACTER INTRODUCER",
  "9b CONTROL SEQUENCE INTRODUCER;9b CSI;9c ST;9c STRING TERMINATOR;9d OPERATING SYSTEM COMMAND",
  "9d OSC;9e PM;9e PRIVACY MESSAGE;9f APC;9f APPLICATION PROGRAM COMMAND;a0 NBSP;ad SHY",
  "1a2 LATIN CAPITAL LETTER GHA;1a3 LATIN SMALL LETTER GHA;34f CGJ;61c ALM",
  "709 SYRIAC SUBLINEAR COLON SKEWED LEFT;cde KANNADA LETTER LLLA;e9d LAO LETTER FO FON",
  "e9f LAO LETTER FO FAY;ea3 LAO LETTER RO;ea5 LAO LETTER LO",
  "fd0 TIBETAN MARK BKA- SHOG GI MGO RGYAN;11ec HANGUL JONGSEONG YESIEUNG-KIYEOK",
  "11ed HANGUL JONGSEONG YESIEUNG-SSANGKIYEOK;11ee HANGUL JONGSEONG SSANGYESIEUNG",
  "11ef HANGUL JONGSEONG YESIEUNG-KHIEUKH;180b FVS1;180c FVS2;180d FVS3;180e MVS;180f FVS4",
  "200b ZWSP;200c ZWNJ;200d ZWJ;200e LRM;200f RLM;202a LRE;202b RLE;202c PDF;202d LRO;202e RLO",
  "202f NNBSP;205f MMSP;2060 WJ;2066 LRI;2067 RLI;2068 FSI;2069 PDI",
  "2118 WEIERSTRASS ELLIPTIC FUNCTION;2448 MICR ON US SYMBOL;2449 MICR DASH SYMBOL",
  "2b7a LEFTWARDS TRIANGLE-HEADED ARROW WITH DOUBLE VERTICAL STROKE",
  "2b7c RIGHTWARDS TRIANGLE-HEADED ARROW WITH DOUBLE VERTICAL STROKE",
  "a015 YI SYLLABLE ITERATION MARK;aa6e MYANMAR LETTER KHAMTI LLA;fe00 VS1;fe01 VS2;fe02 VS3",
  "fe03 VS4;fe04 VS5;fe05 VS6;fe06 VS7;fe07 VS8;fe08 VS9;fe09 VS10;fe0a VS11;fe0b VS12;fe0c VS13",
  "fe0d VS14;fe0e VS15;fe0f VS16",
  "fe18 PRESENTATION FORM FOR VERTICAL RIGHT WHITE LENTICULAR BRACKET;feff BOM",
  "feff BYTE ORDER MARK;feff ZWNBSP;122d4 CUNEIFORM SIGN NU11 TENU",
  "122d5 CUNEIFORM SIGN NU11 OVER NU11 BUR OVER BUR;16e56 MEDEFAIDRIN CAPITAL LETTER H",
  "16e57 MEDEFAIDRIN CAPITAL LETTER NG;16e76 MEDEFAIDRIN SMALL LETTER H",
  "16e77 MEDEFAIDRIN SMALL LETTER NG;1b001 HENTAIGANA LETTER E-1",
  "1d0c5 BYZANTINE MUSICAL SYMBOL FTHORA SKLIRON CHROMA VASIS;e0100 VS17;e0101 VS18;e0102 VS19",
  "e0103 VS20;e0104 VS21;e0105 VS22;e0106 VS23;e0107 VS24;e0108 VS25;e0109 VS26;e010a VS27",
  "e010b VS28;e010c VS29;e010d VS30;e010e VS31;e010f VS32;e0110 VS33;e0111 VS34;e0112 VS35",
  "e0113 VS36;e0114 VS37;e0115 VS38;e0116 VS39;e0117 VS40;e0118 VS41;e0119 VS42;e011a VS43",
  "e011b VS44;e011c VS45;e011d VS46;e011e VS47;e011f VS48;e0120 VS49;e0121 VS50;e0122 VS51",
  "e0123 VS52;e0124 VS53;e0125 VS54;e0126 VS55;e0127 VS56;e0128 VS57;e0129 VS58;e012a VS59",
  "e012b VS60;e012c VS61;e012d VS62;e012e VS63;e012f VS64;e0130 VS65;e0131 VS66;e0132 VS67",
  "e0133 VS68;e0134 VS69;e0135 VS70;e0136 VS71;e0137 VS72;e0138 VS73;e0139 VS74;e013a VS75",
  "e013b VS76;e013c VS77;e013d VS78;e013e VS79;e013f VS80;e0140 VS81;e0141 VS82;e0142 VS83",
  "e0143 VS84;e0144 VS85;e0145 VS86;e0146 VS87;e0147 VS88;e0148 VS89;e0149 VS90;e014a VS91",
  "e014b VS92;e014c VS93;e014d VS94;e014e VS95;e014f VS96;e0150 VS97;e0151 VS98;e0152 VS99",
  "e0153 VS100;e0154 VS101;e0155 VS102;e0156 VS103;e0157 VS104;e0158 VS105;e0159 VS106;e015a VS107",
  "e015b VS108;e015c VS109;e015d VS110;e015e VS111;e015f VS112;e0160 VS113;e0161 VS114;e0162 VS115",
  "e0163 VS116;e0164 VS117;e0165 VS118;e0166 VS119;e0167 VS120;e0168 VS121;e0169 VS122;e016a VS123",
  "e016b VS124;e016c VS125;e016d VS126;e016e VS127;e016f VS128;e0170 VS129;e0171 VS130;e0172 VS131",
  "e0173 VS132;e0174 VS133;e0175 VS134;e0176 VS135;e0177 VS136;e0178 VS137;e0179 VS138;e017a VS139",
  "e017b VS140;e017c VS141;e017d VS142;e017e VS143;e017f VS144;e0180 VS145;e0181 VS146;e0182 VS147",
  "e0183 VS148;e0184 VS149;e0185 VS150;e0186 VS151;e0187 VS152;e0188 VS153;e0189 VS154;e018a VS155",
  "e018b VS156;e018c VS157;e018d VS158;e018e VS159;e018f VS160;e0190 VS161;e0191 VS162;e0192 VS163",
  "e0193 VS164;e0194 VS165;e0195 VS166;e0196 VS167;e0197 VS168;e0198 VS169;e0199 VS170;e019a VS171",
  "e019b VS172;e019c VS173;e019d VS174;e019e VS175;e019f VS176;e01a0 VS177;e01a1 VS178;e01a2 VS179",
  "e01a3 VS180;e01a4 VS181;e01a5 VS182;e01a6 VS183;e01a7 VS184;e01a8 VS185;e01a9 VS186;e01aa VS187",
  "e01ab VS188;e01ac VS189;e01ad VS190;e01ae VS191;e01af VS192;e01b0 VS193;e01b1 VS194;e01b2 VS195",
  "e01b3 VS196;e01b4 VS197;e01b5 VS198;e01b6 VS199;e01b7 VS200;e01b8 VS201;e01b9 VS202;e01ba VS203",
  "e01bb VS204;e01bc VS205;e01bd VS206;e01be VS207;e01bf VS208;e01c0 VS209;e01c1 VS210;e01c2 VS211",
  "e01c3 VS212;e01c4 VS213;e01c5 VS214;e01c6 VS215;e01c7 VS216;e01c8 VS217;e01c9 VS218;e01ca VS219",
  "e01cb VS220;e01cc VS221;e01cd VS222;e01ce VS223;e01cf VS224;e01d0 VS225;e01d1 VS226;e01d2 VS227",
  "e01d3 VS228;e01d4 VS229;e01d5 VS230;e01d6 VS231;e01d7 VS232;e01d8 VS233;e01d9 VS234;e01da VS235",
  "e01db VS236;e01dc VS237;e01dd VS238;e01de VS239;e01df VS240;e01e0 VS241;e01e1 VS242;e01e2 VS243",
  "e01e3 VS244;e01e4 VS245;e01e5 VS246;e01e6 VS247;e01e7 VS248;e01e8 VS249;e01e9 VS250;e01ea VS251",
  "e01eb VS252;e01ec VS253;e01ed VS254;e01ee VS255;e01ef VS256"]

end RuleReview.Text.Table.CharacterName
