/-!
The names of characters from U+1100 to U+1CFF: the parts of Hangul syllables, and the scripts of
Africa, America and the islands.
-/

namespace SearchBridge

namespace CharacterName

/-- Hangul letters, Ethiopic, Cherokee and Canadian syllables, and further scripts. -/
def syllabaries : List String := [
  "1100,HANGUL CHOSEONG ,KIYEOK,SSANGKIYEOK,NIEUN,TIKEUT,SSANGTIKEUT,RIEUL,MIEUM,PIEUP,SSANGPIEUP,",
  "SIOS,SSANGSIOS,IEUNG,CIEUC,SSANGCIEUC,CHIEUCH,KHIEUKH,THIEUTH,PHIEUPH,HIEUH,NIEUN-KIYEOK,",
  "SSANGNIEUN,NIEUN-TIKEUT,NIEUN-PIEUP,TIKEUT-KIYEOK,RIEUL-NIEUN,SSANGRIEUL,RIEUL-HIEUH,",
  "KAPYEOUNRIEUL,MIEUM-PIEUP,KAPYEOUNMIEUM;111E,HANGUL CHOSEONG PIEUP-,KIYEOK,NIEUN,TIKEUT,SIOS,",
  "SIOS-KIYEOK,SIOS-TIKEUT,SIOS-PIEUP,SSANGSIOS,SIOS-CIEUC,CIEUC,CHIEUCH,THIEUTH,PHIEUPH;",
  "112B,HANGUL CHOSEONG ,KAPYEOUNPIEUP,KAPYEOUNSSANGPIEUP;112D,HANGUL CHOSEONG SIOS-,KIYEOK,NIEUN,",
  "TIKEUT,RIEUL,MIEUM,PIEUP,PIEUP-KIYEOK,SSANGSIOS,IEUNG,CIEUC,CHIEUCH,KHIEUKH,THIEUTH,PHIEUPH,",
  "HIEUH;113C,HANGUL CHOSEONG ,CHITUEUMSIOS,CHITUEUMSSANGSIOS,CEONGCHIEUMSIOS,",
  "CEONGCHIEUMSSANGSIOS,PANSIOS,IEUNG-KIYEOK,IEUNG-TIKEUT,IEUNG-MIEUM,IEUNG-PIEUP,IEUNG-SIOS,",
  "IEUNG-PANSIOS,SSANGIEUNG,IEUNG-CIEUC,IEUNG-CHIEUCH,IEUNG-THIEUTH,IEUNG-PHIEUPH,YESIEUNG,",
  "CIEUC-IEUNG,CHITUEUMCIEUC,CHITUEUMSSANGCIEUC,CEONGCHIEUMCIEUC,CEONGCHIEUMSSANGCIEUC,",
  "CHIEUCH-KHIEUKH,CHIEUCH-HIEUH,CHITUEUMCHIEUCH,CEONGCHIEUMCHIEUCH,PHIEUPH-PIEUP,KAPYEOUNPHIEUPH,",
  "SSANGHIEUH,YEORINHIEUH,KIYEOK-TIKEUT,NIEUN-SIOS,NIEUN-CIEUC,NIEUN-HIEUH,TIKEUT-RIEUL,FILLER;",
  "1160,HANGUL JUNGSEONG ,FILLER,A,AE,YA,YAE,EO,E,YEO,YE,O,WA,WAE,OE,YO,U,WEO,WE,WI,YU,EU,YI,I,",
  "A-O,A-U,YA-O,YA-YO,EO-O,EO-U,EO-EU,YEO-O,YEO-U,O-EO,O-E,O-YE,O-O,O-U,YO-YA,YO-YAE,YO-YEO,YO-O,",
  "YO-I,U-A,U-AE,U-EO-EU,U-YE,U-U,YU-A,YU-EO,YU-E,YU-YEO,YU-YE,YU-U,YU-I,EU-U,EU-EU,YI-U,I-A,I-YA,",
  "I-O,I-U,I-EU,I-ARAEA,ARAEA,ARAEA-EO,ARAEA-U,ARAEA-I,SSANGARAEA,A-EU,YA-U,YEO-YA,O-YA,O-YAE;",
  "11A8,HANGUL JONGSEONG ,KIYEOK,SSANGKIYEOK,KIYEOK-SIOS,NIEUN,NIEUN-CIEUC,NIEUN-HIEUH,TIKEUT,",
  "RIEUL,RIEUL-KIYEOK,RIEUL-MIEUM,RIEUL-PIEUP,RIEUL-SIOS,RIEUL-THIEUTH,RIEUL-PHIEUPH,RIEUL-HIEUH,",
  "MIEUM,PIEUP,PIEUP-SIOS,SIOS,SSANGSIOS,IEUNG,CIEUC,CHIEUCH,KHIEUKH,THIEUTH,PHIEUPH,HIEUH,",
  "KIYEOK-RIEUL,KIYEOK-SIOS-KIYEOK,NIEUN-KIYEOK,NIEUN-TIKEUT,NIEUN-SIOS,NIEUN-PANSIOS,",
  "NIEUN-THIEUTH,TIKEUT-KIYEOK,TIKEUT-RIEUL,RIEUL-KIYEOK-SIOS,RIEUL-NIEUN,RIEUL-TIKEUT,",
  "RIEUL-TIKEUT-HIEUH,SSANGRIEUL;11D1,HANGUL JONGSEONG RIEUL-,MIEUM-KIYEOK,MIEUM-SIOS,PIEUP-SIOS,",
  "PIEUP-HIEUH,KAPYEOUNPIEUP,SSANGSIOS,PANSIOS,KHIEUKH,YEORINHIEUH;",
  "11DA,HANGUL JONGSEONG MIEUM-,KIYEOK,RIEUL,PIEUP,SIOS,SSANGSIOS,PANSIOS,CHIEUCH,HIEUH;",
  "11E2,HANGUL JONGSEONG ,KAPYEOUNMIEUM,PIEUP-RIEUL,PIEUP-PHIEUPH,PIEUP-HIEUH,KAPYEOUNPIEUP,",
  "SIOS-KIYEOK,SIOS-TIKEUT,SIOS-RIEUL,SIOS-PIEUP,PANSIOS,IEUNG-KIYEOK,IEUNG-SSANGKIYEOK,",
  "SSANGIEUNG,IEUNG-KHIEUKH,YESIEUNG,YESIEUNG-SIOS,YESIEUNG-PANSIOS,PHIEUPH-PIEUP,KAPYEOUNPHIEUPH,",
  "HIEUH-NIEUN,HIEUH-RIEUL,HIEUH-MIEUM,HIEUH-PIEUP,YEORINHIEUH,KIYEOK-NIEUN,KIYEOK-PIEUP,",
  "KIYEOK-CHIEUCH,KIYEOK-KHIEUKH,KIYEOK-HIEUH,SSANGNIEUN;1200,ETHIOPIC SYLLABLE ,HA,HU,HI,HAA,HEE,",
  "HE,HO,HOA,LA,LU,LI,LAA,LEE,LE,LO,LWA,HHA,HHU,HHI,HHAA,HHEE,HHE,HHO,HHWA,MA,MU,MI,MAA,MEE,ME,MO,",
  "MWA,SZA,SZU,SZI,SZAA,SZEE,SZE,SZO,SZWA,RA,RU,RI,RAA,REE,RE,RO,RWA,SA,SU,SI,SAA,SEE,SE,SO,SWA,",
  "SHA,SHU,SHI,SHAA,SHEE,SHE,SHO,SHWA,QA,QU,QI,QAA,QEE,QE,QO,QOA,QWA;124A,ETHIOPIC SYLLABLE ,QWI,",
  "QWAA,QWEE,QWE;1250,ETHIOPIC SYLLABLE ,QHA,QHU,QHI,QHAA,QHEE,QHE,QHO;",
  "1258,,ETHIOPIC SYLLABLE QHWA;125A,ETHIOPIC SYLLABLE ,QHWI,QHWAA,QHWEE,QHWE;",
  "1260,ETHIOPIC SYLLABLE ,BA,BU,BI,BAA,BEE,BE,BO,BWA,VA,VU,VI,VAA,VEE,VE,VO,VWA,TA,TU,TI,TAA,TEE,",
  "TE,TO,TWA,CA,CU,CI,CAA,CEE,CE,CO,CWA,XA,XU,XI,XAA,XEE,XE,XO,XOA,XWA;",
  "128A,ETHIOPIC SYLLABLE ,XWI,XWAA,XWEE,XWE;1290,ETHIOPIC SYLLABLE ,NA,NU,NI,NAA,NEE,NE,NO,NWA,",
  "NYA,NYU,NYI,NYAA,NYEE,NYE,NYO,NYWA;12A0,ETHIOPIC SYLLABLE GLOTTAL ,A,U,I,AA,EE,E,O,WA;",
  "12A8,ETHIOPIC SYLLABLE ,KA,KU,KI,KAA,KEE,KE,KO,KOA,KWA;12B2,ETHIOPIC SYLLABLE ,KWI,KWAA,KWEE,",
  "KWE;12B8,ETHIOPIC SYLLABLE ,KXA,KXU,KXI,KXAA,KXEE,KXE,KXO;12C0,,ETHIOPIC SYLLABLE KXWA;",
  "12C2,ETHIOPIC SYLLABLE ,KXWI,KXWAA,KXWEE,KXWE;12C8,ETHIOPIC SYLLABLE ,WA,WU,WI,WAA,WEE,WE,WO,",
  "WOA;12D0,ETHIOPIC SYLLABLE PHARYNGEAL ,A,U,I,AA,EE,E,O;12D8,ETHIOPIC SYLLABLE ,ZA,ZU,ZI,ZAA,",
  "ZEE,ZE,ZO,ZWA,ZHA,ZHU,ZHI,ZHAA,ZHEE,ZHE,ZHO,ZHWA,YA,YU,YI,YAA,YEE,YE,YO,YOA,DA,DU,DI,DAA,DEE,",
  "DE,DO,DWA,DDA,DDU,DDI,DDAA,DDEE,DDE,DDO,DDWA,JA,JU,JI,JAA,JEE,JE,JO,JWA,GA,GU,GI,GAA,GEE,GE,GO,",
  "GOA,GWA;1312,ETHIOPIC SYLLABLE ,GWI,GWAA,GWEE,GWE;1318,ETHIOPIC SYLLABLE ,GGA,GGU,GGI,GGAA,",
  "GGEE,GGE,GGO,GGWAA,THA,THU,THI,THAA,THEE,THE,THO,THWA,CHA,CHU,CHI,CHAA,CHEE,CHE,CHO,CHWA,PHA,",
  "PHU,PHI,PHAA,PHEE,PHE,PHO,PHWA,TSA,TSU,TSI,TSAA,TSEE,TSE,TSO,TSWA,TZA,TZU,TZI,TZAA,TZEE,TZE,",
  "TZO,TZOA,FA,FU,FI,FAA,FEE,FE,FO,FWA,PA,PU,PI,PAA,PEE,PE,PO,PWA,RYA,MYA,FYA;",
  "135D,ETHIOPIC COMBINING ,GEMINATION bxLENGTH MARK,xLENGTH MARK,GEMINATION MARK;",
  "1360,ETHIOPIC ,SECTION MARK,WORDSPACE,FULL STOP,COMMA,SEMICOLON,COLON,PREFACE COLON,",
  "QUESTION MARK,PARAGRAPH SEPARATOR;1369,ETHIOPIC DIGIT ,ONE,TWO,THREE,FOUR,FIVE,SIX,SEVEN,EIGHT,",
  "NINE;1372,ETHIOPIC NUMBER ,TEN,TWENTY,THIRTY,FORTY,FIFTY,SIXTY,SEVENTY,EIGHTY,NINETY,HUNDRED,",
  "TEN THOUSAND;1380,ETHIOPIC SYLLABLE ,SEBATBEIT MWA,MWI,MWEE,MWE,SEBATBEIT BWA,BWI,BWEE,BWE,",
  "SEBATBEIT FWA,FWI,FWEE,FWE,SEBATBEIT PWA,PWI,PWEE,PWE;1390,ETHIOPIC TONAL MARK ,YIZET,DERET,",
  "RIKRIK,SHORT RIKRIK,DIFAT,KENAT,CHIRET,HIDET,DERET-HIDET,KURT;13A0,CHEROKEE m,A,E,I,O,U,V,GA,",
  "KA,GE,GI,GO,GU,GV,HA,HE,HI,HO,HU,HV,LA,LE,LI,LO,LU,LV,MA,ME,MI,MO,MU,NA,HNA,NAH,NE,NI,NO,NU,NV,",
  "QUA,QUE,QUI,QUO,QUU,QUV,SA,S,SE,SI,SO,SU,SV,DA,TA,DE,TE,DI,TI,DO,DU,DV,DLA,TLA,TLE,TLI,TLO,TLU,",
  "TLV,TSA,TSE,TSI,TSO,TSU,TSV,WA,WE,WI,WO,WU,WV,YA,YE,YI,YO,YU,YV,MV;13F8,CHEROKEE tm,YE,YI,YO,",
  "YU,YV,MV;1400,CANADIAN SYLLABICS ,HYPHEN,E,AAI,I,II,O,OO,Y-CREE OO,CARRIER EE,CARRIER I,A,AA,",
  "WE,WEST-CREE WE,WI,WEST-CREE WI,WII,WEST-CREE WII,WO,WEST-CREE WO,WOO,WEST-CREE WOO,",
  "NASKAPI WOO,WA,WEST-CREE WA,WAA,WEST-CREE WAA,NASKAPI WAA,AI,Y-CREE W,GLOTTAL STOP;",
  "141F,CANADIAN SYLLABICS FINAL ,ACUTE,GRAVE,BOTTOM HALF RING,TOP HALF RING,qHALF RING,RING,",
  "gACUTE,gSHORT wSTROKES,oDOT,SHORT HORIZONTAL STROKE,PLUS,DOWN TACK;142B,CANADIAN SYLLABICS ,EN,",
  "IN,ON,AN,PE,PAAI,PI,PII,PO,POO,Y-CREE POO,CARRIER HEE,CARRIER HI,PA,PAA,PWE,WEST-CREE PWE,PWI,",
  "WEST-CREE PWI,PWII,WEST-CREE PWII,PWO,WEST-CREE PWO,PWOO,WEST-CREE PWOO,PWA,WEST-CREE PWA,PWAA,",
  "WEST-CREE PWAA,Y-CREE PWAA,P,WEST-CREE P,CARRIER H,TE,TAAI,TI,TII,TO,TOO,Y-CREE TOO,",
  "CARRIER DEE,CARRIER DI,TA,TAA,TWE,WEST-CREE TWE,TWI,WEST-CREE TWI,TWII,WEST-CREE TWII,TWO,",
  "WEST-CREE TWO,TWOO,WEST-CREE TWOO,TWA,WEST-CREE TWA,TWAA,WEST-CREE TWAA,NASKAPI TWAA,T,TTE,TTI,",
  "TTO,TTA,KE,KAAI,KI,KII,KO,KOO,Y-CREE KOO,KA,KAA,KWE,WEST-CREE KWE,KWI,WEST-CREE KWI,KWII,",
  "WEST-CREE KWII,KWO,WEST-CREE KWO,KWOO,WEST-CREE KWOO,KWA,WEST-CREE KWA,KWAA,WEST-CREE KWAA,",
  "NASKAPI KWAA,K,KW,SOUTH-SLAVEY KEH,SOUTH-SLAVEY KIH,SOUTH-SLAVEY KOH,SOUTH-SLAVEY KAH,CE,CAAI,",
  "CI,CII,CO,COO,Y-CREE COO,CA,CAA,CWE,WEST-CREE CWE,CWI,WEST-CREE CWI,CWII,WEST-CREE CWII,CWO,",
  "WEST-CREE CWO,CWOO,WEST-CREE CWOO,CWA,WEST-CREE CWA,CWAA,WEST-CREE CWAA,NASKAPI CWAA,C,",
  "SAYISI TH,ME,MAAI,MI,MII,MO,MOO,Y-CREE MOO,MA,MAA,MWE,WEST-CREE MWE,MWI,WEST-CREE MWI,MWII,",
  "WEST-CREE MWII,MWO,WEST-CREE MWO,MWOO,WEST-CREE MWOO,MWA,WEST-CREE MWA,MWAA,WEST-CREE MWAA,",
  "NASKAPI MWAA,M,WEST-CREE M,MH,ATHAPASCAN M,SAYISI M,NE,NAAI,NI,NII,NO,NOO,Y-CREE NOO,NA,NAA,",
  "NWE,WEST-CREE NWE,NWA,WEST-CREE NWA,NWAA,WEST-CREE NWAA,NASKAPI NWAA,N,CARRIER NG,NH,LE,LAAI,",
  "LI,LII,LO,LOO,Y-CREE LOO,LA,LAA,LWE,WEST-CREE LWE,LWI,WEST-CREE LWI,LWII,WEST-CREE LWII,LWO,",
  "WEST-CREE LWO,LWOO,WEST-CREE LWOO,LWA,WEST-CREE LWA,LWAA,WEST-CREE LWAA,L,WEST-CREE L,MEDIAL L,",
  "SE,SAAI,SI,SII,SO,SOO,Y-CREE SOO,SA,SAA,SWE,WEST-CREE SWE,SWI,WEST-CREE SWI,SWII,",
  "WEST-CREE SWII,SWO,WEST-CREE SWO,SWOO,WEST-CREE SWOO,SWA,WEST-CREE SWA,SWAA,WEST-CREE SWAA,",
  "NASKAPI SWAA,S,ATHAPASCAN S,SW,BLACKFOOT S,MOOSE-CREE SK,NASKAPI SKW,NASKAPI S-W,NASKAPI SPWA,",
  "NASKAPI STWA,NASKAPI SKWA,NASKAPI SCWA,SHE,SHI,SHII,SHO,SHOO,SHA,SHAA,SHWE,WEST-CREE SHWE,SHWI,",
  "WEST-CREE SHWI,SHWII,WEST-CREE SHWII,SHWO,WEST-CREE SHWO,SHWOO,WEST-CREE SHWOO,SHWA,",
  "WEST-CREE SHWA,SHWAA,WEST-CREE SHWAA,SH,YE,YAAI,YI,YII,YO,YOO,Y-CREE YOO,YA,YAA,YWE,",
  "WEST-CREE YWE,YWI,WEST-CREE YWI,YWII,WEST-CREE YWII,YWO,WEST-CREE YWO,YWOO,WEST-CREE YWOO,YWA,",
  "WEST-CREE YWA,YWAA,WEST-CREE YWAA,NASKAPI YWAA,Y,BIBLE-CREE Y,WEST-CREE Y,SAYISI YI,RE,",
  "R-CREE RE,WEST-CREE LE,RAAI,RI,RII,RO,ROO,WEST-CREE LO,RA,RAA,WEST-CREE LA,RWAA,WEST-CREE RWAA,",
  "R,WEST-CREE R,MEDIAL R,FE,FAAI,FI,FII,FO,FOO,FA,FAA,FWAA,WEST-CREE FWAA,F,THE,N-CREE THE,THI,",
  "N-CREE THI,THII,N-CREE THII,THO,THOO,THA,THAA,THWAA,WEST-CREE THWAA,TH,TTHE,TTHI,TTHO,TTHA,TTH,",
  "TYE,TYI,TYO,TYA;1574,CANADIAN SYLLABICS NUNAVIK ,HE,HI,HII,HO,HOO,HA,HAA,H;",
  "157C,CANADIAN SYLLABICS ,NUNAVUT H,HK,QAAI,QI,QII,QO,QOO,QA,QAA,Q,TLHE,TLHI,TLHO,TLHA,",
  "WEST-CREE RE,WEST-CREE RI,WEST-CREE RO,WEST-CREE RA,NGAAI,NGI,NGII,NGO,NGOO,NGA,NGAA,NG,NNG,",
  "SAYISI SHE,SAYISI SHI,SAYISI SHO,SAYISI SHA,WOODS-CREE THE,WOODS-CREE THI,WOODS-CREE THO,",
  "WOODS-CREE THA,WOODS-CREE TH,LHI,LHII,LHO,LHOO,LHA,LHAA,LH;",
  "15A7,CANADIAN SYLLABICS TH-CREE ,THE,THI,THII,THO,THOO,THA,THAA,TH;",
  "15AF,,CANADIAN SYLLABICS AIVILIK B;15B0,CANADIAN SYLLABICS BLACKFOOT ,E,I,O,A,WE,WI,WO,WA,NE,",
  "NI,NO,NA,KE,KI,KO,KA;15C0,CANADIAN SYLLABICS SAYISI ,HE,HI,HO,HA;",
  "15C4,CANADIAN SYLLABICS CARRIER ,GHU,GHO,GHE,GHEE,GHI,GHA,RU,RO,RE,REE,RI,RA,WU,WO,WE,WEE,WI,",
  "WA,HWU,HWO,HWE,HWEE,HWI,HWA,THU,THO,THE,THEE,THI,THA,TTU,TTO,TTE,TTEE,TTI,TTA,PU,PO,PE,PEE,PI,",
  "PA,P,GU,GO,GE,GEE,GI,GA,KHU,KHO,KHE,KHEE,KHI,KHA,KKU,KKO,KKE,KKEE,KKI,KKA,KK,NU,NO,NE,NEE,NI,",
  "NA,MU,MO,ME,MEE,MI,MA,YU,YO,YE,YEE,YI,YA,JU;1615,CANADIAN SYLLABICS ,SAYISI JU,CARRIER JO,",
  "CARRIER JE,CARRIER JEE,CARRIER JI,SAYISI JI;161B,CANADIAN SYLLABICS CARRIER ,JA,JJU,JJO,JJE,",
  "JJEE,JJI,JJA,LU,LO,LE,LEE,LI,LA,DLU,DLO,DLE,DLEE,DLI,DLA,LHU,LHO,LHE,LHEE,LHI,LHA,TLHU,TLHO,",
  "TLHE,TLHEE,TLHI,TLHA,TLU,TLO,TLE,TLEE,TLI,TLA,ZU,ZO,ZE,ZEE,ZI,ZA,Z,INITIAL Z,DZU,DZO,DZE,DZEE,",
  "DZI,DZA,SU,SO,SE,SEE,SI,SA,SHU,SHO,SHE,SHEE,SHI,SHA,SH,TSU,TSO,TSE,TSEE,TSI,TSA,CHU,CHO,CHE,",
  "CHEE,CHI,CHA,TTSU,TTSO,TTSE,TTSEE,TTSI,TTSA;166D,CANADIAN SYLLABICS ,CHI SIGN,FULL STOP,QAI,",
  "NGAI,NNGI,NNGII,NNGO,NNGOO,NNGA,NNGAA;1677,CANADIAN SYLLABICS WOODS-CREE ,THWEE,THWI,THWII,",
  "THWO,THWOO,THWA,THWAA,FINAL TH;167F,,CANADIAN SYLLABICS BLACKFOOT W,OGHAM SPACE MARK;",
  "1681,OGHAM m,BEITH,LUIS,FEARN,SAIL,NION,UATH,DAIR,TINNE,COLL,CEIRT,MUIN,GORT,NGEADAL,STRAIF,",
  "RUIS,AILM,ONN,UR,EADHADH,IODHADH,EABHADH,OR,UILLEANN,IFIN,EAMHANCHOLL,PEITH;",
  "169B,OGHAM ,FEATHER MARK,REVERSED FEATHER MARK;16A0,RUNIC m,FEHU FEOH FE F,V,URUZ UR U,YR,Y,W,",
  "THURISAZ THURS THORN,ETH,ANSUZ A,OS O,AC A,AESC,LONG-BRANCH-OSS O,SHORT-TWIG-OSS O,O,OE,ON,",
  "RAIDO RAD REID R,KAUNA,CEN,KAUN K,G,ENG,GEBO GYFU G,GAR,WUNJO WYNN W,HAGLAZ H,HAEGL H,",
  "LONG-BRANCH-HAGALL H,SHORT-TWIG-HAGALL H,NAUDIZ NYD NAUD N,SHORT-TWIG-NAUD N,DOTTED-N,",
  "ISAZ IS ISS I,E,JERAN J,GER,LONG-BRANCH-AR AE,SHORT-TWIG-AR A,IWAZ EOH,PERTHO PEORTH P,",
  "ALGIZ EOLHX,SOWILO S,SIGEL LONG-BRANCH-SOL S,SHORT-TWIG-SOL S,C,Z,TIWAZ TIR TYR T,",
  "SHORT-TWIG-TYR T,D,BERKANAN BEORC BJARKAN B,SHORT-TWIG-BJARKAN B,DOTTED-P,OPEN-P,EHWAZ EH E,",
  "MANNAZ MAN M,LONG-BRANCH-MADR M,SHORT-TWIG-MADR M,LAUKAZ LAGU LOGR L,DOTTED-L,INGWAZ,ING,",
  "DAGAZ DAEG D,OTHALAN ETHEL O,EAR,IOR,CWEORTH,CALC,CEALC,STAN,LONG-BRANCH-YR,SHORT-TWIG-YR,",
  "ICELANDIC-YR,Q,X;16EB,RUNIC ,SINGLE PUNCTUATION,MULTIPLE PUNCTUATION,CROSS PUNCTUATION,",
  "ARLAUG SYMBOL,TVIMADUR SYMBOL,BELGTHOR SYMBOL,mK,mSH,mOO;16F4,RUNIC mFRANKS CASKET ,OS,IS,EH,",
  "AC,AESC;1700,TAGALOG m,A,I,U,KA,GA,NGA,TA,DA,NA,PA,BA,MA,YA,RA,LA,WA,SA,HA;1712,TAGALOG ,xsI,",
  "xsU,sVIRAMA,sPAMUDPOD;171F,,TAGALOG mARCHAIC RA;1720,HANUNOO m,A,I,U,KA,GA,NGA,TA,DA,NA,PA,BA,",
  "MA,YA,RA,LA,WA,SA,HA;1732,HANUNOO ,xsI,xsU,sPAMUDPOD;1735,PHILIPPINE ,SINGLE PUNCTUATION,",
  "gPUNCTUATION;1740,BUHID m,A,I,U,KA,GA,NGA,TA,DA,NA,PA,BA,MA,YA,RA,LA,WA,SA,HA;1752,BUHID xs,I,",
  "U;1760,TAGBANWA m,A,I,U,KA,GA,NGA,TA,DA,NA,PA,BA,MA,YA;176E,TAGBANWA m,LA,WA,SA;",
  "1772,TAGBANWA xs,I,U;1780,KHMER m,KA,KHA,KO,KHO,NGO,CA,CHA,CO,CHO,NYO,DA,TTHA,DO,TTHO,NNO,TA,",
  "THA,TO,THO,NO,BA,PHA,PO,PHO,MO,YO,RO,LO,VO,SHA,SSO,SA,HA,LA,QA;17A3,KHMER INDEPENDENT x,QAQ,",
  "QAA,QI,QII,QU,QUK,QUU,QUUV,RY,RYY,LY,LYY,QE,QAI,QOO TYPE ONE,QOO TYPE TWO,QAU;",
  "17B4,KHMER xINHERENT ,AQ,AA;17B6,KHMER xs,AA,I,II,Y,YY,U,UU,UA,OE,YA,IE,E,AE,AI,OO,AU;",
  "17C6,KHMER s,NIKAHIT,REAHMUK,YUUKALEAPINTU,MUUSIKATOAN,TRIISAP,BANTOC,ROBAT,TOANDAKHIAT,",
  "KAKABAT,AHSDA,SAMYOK SANNYA,VIRIAM,COENG,BATHAMASAT,KHAN,BARIYOOSAN,CAMNUC PII KUUH,LEK TOO,",
  "BEYYAL,PHNAEK MUAN,KOOMUUT;17DB,KHMER ,CURRENCY SYMBOL RIEL,sAVAKRAHASANYA,sATTHACAN;",
  "17E0,KHMER DIGIT ,ZERO,ONE,TWO,THREE,FOUR,FIVE,SIX,SEVEN,EIGHT,NINE;",
  "17F0,KHMER SYMBOL LEK ATTAK ,SON,MUOY,PII,BEI,BUON,PRAM,PRAM-MUOY,PRAM-PII,PRAM-BEI,PRAM-BUON;",
  "1800,MONGOLIAN ,BIRGA,ELLIPSIS,COMMA,FULL STOP,COLON,FOUR DOTS,TODO SOFT HYPHEN,",
  "SIBE SYLLABLE BOUNDARY MARKER,MANCHU COMMA,MANCHU FULL STOP,NIRUGU;",
  "180B,MONGOLIAN FREE VARIATION SELECTOR ,ONE,TWO,THREE;180E,MONGOLIAN ,xSEPARATOR,",
  "FREE VARIATION SELECTOR FOUR;1810,MONGOLIAN DIGIT ,ZERO,ONE,TWO,THREE,FOUR,FIVE,SIX,SEVEN,",
  "EIGHT,NINE;1820,MONGOLIAN m,A,E,I,O,U,OE,UE,EE,NA,ANG,BA,PA,QA,GA,MA,LA,SA,SHA,TA,DA,CHA,JA,YA,",
  "RA,WA,FA,KA,KHA,TSA,ZA,HAA,ZRA,LHA,ZHI,CHI;1843,MONGOLIAN mTODO ,LONG xSIGN,E,I,O,U,OE,UE,ANG,",
  "BA,PA,QA,GA,MA,TA,DA,CHA,JA,TSA,YA,WA,KA,GAA,HAA,JIA,NIA,DZA;185D,MONGOLIAN mSIBE ,E,I,IY,UE,U,",
  "ANG,KA,GA,HA,PA,SHA,TA,DA,JA,FA,GAA,HAA,TSA,ZA,RAA,CHA,ZHA;1873,MONGOLIAN mMANCHU ,I,KA,RA,FA,",
  "ZHA;1878,,MONGOLIAN mCHA zTWO DOTS;1880,MONGOLIAN mALI GALI ,ANUSVARA ONE,VISARGA ONE,DAMARU,",
  "UBADAMA,INVERTED UBADAMA,BALUDA,THREE BALUDA,A,I,KA,NGA,CA,TTA,TTHA,DDA,NNA,TA,DA,PA,PHA,SSA,",
  "ZHA,ZA,AH;1898,MONGOLIAN mTODO ALI GALI ,TA,ZHA;189A,MONGOLIAN mMANCHU ALI GALI ,GHA,NGA,CA,",
  "JHA,TTA,DDHA,TA,DHA,SSA,CYA,ZHA,ZA;18A6,MONGOLIAN m,ALI GALI HALF U,ALI GALI HALF YA,",
  "MANCHU ALI GALI BHA,ALI GALI DAGALGA,MANCHU ALI GALI LHA;18B0,CANADIAN SYLLABICS ,OY,AY,AAY,",
  "WAY,POY,PAY,PWOY,TAY,KAY,KWAY,MAY,NOY,NAY,LAY,SOY,SAY,SHOY,SHAY,SHWOY,YOY,YAY,RAY,NWI,",
  "OJIBWAY NWI,NWII,OJIBWAY NWII,NWO,OJIBWAY NWO,NWOO,OJIBWAY NWOO,RWEE,RWI,RWII,RWO,RWOO,RWA;",
  "18D4,CANADIAN SYLLABICS OJIBWAY ,P,T,K,C,M,N,S,SH;18DC,CANADIAN SYLLABICS ,EASTERN W,WESTERN W,",
  "FINAL tRING,FINAL RAISED DOT,R-CREE RWE,WEST-CREE LOO,WEST-CREE LAA,THWE,THWA,TTHWE,TTHOO,",
  "TTHAA,TLHWE,TLHOO,SAYISI SHWE,SAYISI SHOO,SAYISI HOO,CARRIER GWU,CARRIER DENE GEE,CARRIER GAA,",
  "CARRIER GWA,SAYISI JUU,CARRIER JWA,BEAVER DENE L,BEAVER DENE R,CARRIER DENTAL S;",
  "1900,,LIMBU VOWEL-CARRIER LETTER;1901,LIMBU m,KA,KHA,GA,GHA,NGA,CA,CHA,JA,JHA,YAN,TA,THA,DA,",
  "DHA,NA,PA,PHA,BA,BHA,MA,YA,RA,LA,WA,SHA,SSA,SA,HA,GYAN,TRA;1920,LIMBU xs,A,I,U,EE,AI,OO,AU,E,O;",
  "1929,LIMBU SUBJOINED m,YA,RA,WA;1930,LIMBU tm,KA,NGA,ANUSVARA,TA,NA,PA,MA,RA,LA;",
  "1939,LIMBU s,MUKPHRENG,KEMPHRENG,SA-I;1940,,LIMBU sLOO;1944,LIMBU ,EXCLAMATION MARK,",
  "QUESTION MARK;1946,LIMBU DIGIT ,ZERO,ONE,TWO,THREE,FOUR,FIVE,SIX,SEVEN,EIGHT,NINE;",
  "1950,TAI LE m,KA,XA,NGA,TSA,SA,YA,TA,THA,LA,PA,PHA,MA,FA,VA,HA,QA,KHA,TSHA,NA,A,I,EE,EH,U,OO,O,",
  "UE,E,AUE,AI;1970,TAI LE mTONE-,2,3,4,5,6;1980,NEW TAI LUE m,HIGH QA,LOW QA,HIGH KA,HIGH XA,",
  "HIGH NGA,LOW KA,LOW XA,LOW NGA,HIGH TSA,HIGH SA,HIGH YA,LOW TSA,LOW SA,LOW YA,HIGH TA,HIGH THA,",
  "HIGH NA,LOW TA,LOW THA,LOW NA,HIGH PA,HIGH PHA,HIGH MA,LOW PA,LOW PHA,LOW MA,HIGH FA,HIGH VA,",
  "HIGH LA,LOW FA,LOW VA,LOW LA,HIGH HA,HIGH DA,HIGH BA,LOW HA,LOW DA,LOW BA,HIGH KVA,HIGH XVA,",
  "LOW KVA,LOW XVA,HIGH SUA,LOW SUA;19B0,NEW TAI LUE xs,xSHORTENER,AA,II,U,UU,E,AE,O,OA,UE,AY,AAY,",
  "UY,OY,OAY,UEY,IY;19C1,NEW TAI LUE mFINAL ,V,NG,N,M,K,D,B;19C8,NEW TAI LUE TONE MARK-,1,2;",
  "19D0,NEW TAI LUE DIGIT ,ZERO,ONE,TWO,THREE,FOUR,FIVE,SIX,SEVEN,EIGHT,NINE;",
  "19DA,,NEW TAI LUE THAM DIGIT ONE;19DE,NEW TAI LUE s,LAE,LAEV;19E0,KHMER SYMBOL ,PATHAMASAT,",
  "MUOY KOET,PII KOET,BEI KOET,BUON KOET,PRAM KOET,PRAM-MUOY KOET,PRAM-PII KOET,PRAM-BEI KOET,",
  "PRAM-BUON KOET,DAP KOET,DAP-MUOY KOET,DAP-PII KOET,DAP-BEI KOET,DAP-BUON KOET,DAP-PRAM KOET,",
  "TUTEYASAT,MUOY ROC,PII ROC,BEI ROC,BUON ROC,PRAM ROC,PRAM-MUOY ROC,PRAM-PII ROC,PRAM-BEI ROC,",
  "PRAM-BUON ROC,DAP ROC,DAP-MUOY ROC,DAP-PII ROC,DAP-BEI ROC,DAP-BUON ROC,DAP-PRAM ROC;",
  "1A00,BUGINESE m,KA,GA,NGA,NGKA,PA,BA,MA,MPA,TA,DA,NA,NRA,CA,JA,NYA,NYCA,YA,RA,LA,VA,SA,A,HA;",
  "1A17,BUGINESE xs,I,U,E,O,AE;1A1E,BUGINESE ,PALLAWA,END OF SECTION;1A20,TAI THAM m,HIGH KA,",
  "HIGH KHA,HIGH KXA,LOW KA,LOW KXA,LOW KHA,NGA,HIGH CA,HIGH CHA,LOW CA,LOW SA,LOW CHA,NYA,RATA,",
  "HIGH RATHA,DA,LOW RATHA,RANA,HIGH TA,HIGH THA,LOW TA,LOW THA,NA,BA,HIGH PA,HIGH PHA,HIGH FA,",
  "LOW PA,LOW FA,LOW PHA,MA,LOW YA,HIGH YA,RA,RUE,LA,LUE,WA,HIGH SHA,HIGH SSA,HIGH SA,HIGH HA,LLA,",
  "A,LOW HA,I,II,U,UU,EE,OO,LAE,GREAT SA;1A55,TAI THAM CONSONANT s,MEDIAL RA,MEDIAL LA,",
  "LA TANG LAI;1A58,,TAI THAM sMAI KANG LAI;1A59,TAI THAM CONSONANT s,FINAL NGA,LOW PA,",
  "HIGH RATHA OR LOW PA,MA,BA,SA;1A60,,TAI THAM sSAKOT;1A61,TAI THAM xs,A,MAI SAT,AA,TALL AA,I,II,",
  "UE,UUE,U,UU,O,OA d,OY,E,AE,OO,AI,THAM AI,OA a;1A74,TAI THAM s,MAI KANG,TONE-1,TONE-2,",
  "KHUEN TONE-3,KHUEN TONE-4,KHUEN TONE-5,RA HAAM,MAI SAM,KHUEN-LUE KARAN;",
  "1A7F,,TAI THAM COMBINING CRYPTOGRAMMIC DOT;1A80,TAI THAM HORA DIGIT ,ZERO,ONE,TWO,THREE,FOUR,",
  "FIVE,SIX,SEVEN,EIGHT,NINE;1A90,TAI THAM THAM DIGIT ,ZERO,ONE,TWO,THREE,FOUR,FIVE,SIX,SEVEN,",
  "EIGHT,NINE;1AA0,TAI THAM s,WIANG,WIANGWAAK,SAWAN,KEOW,HOY,DOKMAI,REVERSED ROTATED RANA,",
  "MAI YAMOK,KAAN,KAANKUU,SATKAAN,SATKAANKUU,HANG,CAANG;1AB0,COMBINING ,DOUBLED CIRCUMFLEX ACCENT,",
  "DIAERESIS-RING,INFINITY,DOWNWARDS c,TRIPLE DOT,X-X d,WIGGLY LINE d,OPEN MARK d,gOPEN MARK d,",
  "LIGHT CENTRALIZATION STROKE d,STRONG CENTRALIZATION STROKE d,PARENTHESES a,gPARENTHESES a,",
  "PARENTHESES d,PARENTHESES OVERLAY,LATIN tmW d,LATIN tmTURNED W d,kPARENTHESIS a LEFT,",
  "qPARENTHESIS a RIGHT,kPARENTHESIS d LEFT,qPARENTHESIS d RIGHT,SQUARE BRACKETS a,NUMBER sa,",
  "INVERTED gARCH a,PLUS sa,gPLUS sa,gPLUS sd,TRIPLE ACUTE ACCENT;",
  "1ACC,COMBINING LATIN tmINSULAR ,G,R,T;1B00,BALINESE s,ULU RICEM,ULU CANDRA,CECEK,SURANG,BISAH;",
  "1B05,BALINESE m,AKARA,AKARA TEDUNG,IKARA,IKARA TEDUNG,UKARA,UKARA TEDUNG,RA REPA,",
  "RA REPA TEDUNG,LA LENGA,LA LENGA TEDUNG,EKARA,AIKARA,OKARA,OKARA TEDUNG,KA,KA MAHAPRANA,GA,",
  "GA GORA,NGA,CA,CA LACA,JA,JA JERA,NYA,TA LATIK,TA MURDA MAHAPRANA,DA MURDA ALPAPRANA,",
  "DA MURDA MAHAPRANA,NA RAMBAT,TA,TA TAWA,DA,DA MADU,NA,PA,PA KAPAL,BA,BA KEMBANG,MA,YA,RA,LA,WA,",
  "SA SAGA,SA SAPA,SA,HA;1B34,BALINESE ,sREREKAN,xsTEDUNG,xsULU,xsULU SARI,xsSUKU,xsSUKU ILUT,",
  "xsRA REPA,xsRA REPA TEDUNG,xsLA LENGA,xsLA LENGA TEDUNG,xsTALING,xsTALING REPA,xsTALING TEDUNG,",
  "xsTALING REPA TEDUNG,xsPEPET,xsPEPET TEDUNG,ADEG ADEG,mKAF SASAK,mKHOT SASAK,mTZIR SASAK,",
  "mEF SASAK,mVE SASAK,mZAL SASAK,mASYURA SASAK,mARCHAIC JNYA;1B50,BALINESE DIGIT ,ZERO,ONE,TWO,",
  "THREE,FOUR,FIVE,SIX,SEVEN,EIGHT,NINE;1B5A,BALINESE ,PANTI,PAMADA,WINDU,CARIK PAMUNGKAH,",
  "CARIK SIKI,CARIK PAREREN,PAMENENG;1B61,BALINESE MUSICAL SYMBOL ,DONG,DENG,DUNG,DANG,",
  "DANG SURANG,DING,DAENG,DEUNG,DAING,DANG GEDE;1B6B,BALINESE MUSICAL SYMBOL COMBINING ,TEGEH,",
  "ENDEP,KEMPUL,KEMPLI,JEGOGAN,KEMPUL zJEGOGAN,KEMPLI zJEGOGAN,BENDE,GONG;",
  "1B74,BALINESE MUSICAL SYMBOL RIGHT-HAND ,OPEN DUG,OPEN DAG,CLOSED TUK,CLOSED TAK;",
  "1B78,BALINESE MUSICAL SYMBOL LEFT-HAND ,OPEN PANG,OPEN PUNG,CLOSED PLAK,CLOSED PLUK,OPEN PING;",
  "1B7D,BALINESE ,PANTI LANTANG,PAMADA LANTANG;1B80,SUNDANESE ,sPANYECEK,sPANGLAYAR,sPANGWISAD,mA,",
  "mI,mU,mAE,mO,mE,mEU,mKA,mQA,mGA,mNGA,mCA,mJA,mZA,mNYA,mTA,mDA,mNA,mPA,mFA,mVA,mBA,mMA,mYA,mRA,",
  "mLA,mWA,mSA,mXA,mHA,CONSONANT sPAMINGKAL,CONSONANT sPANYAKRA,CONSONANT sPANYIKU,xsPANGHULU,",
  "xsPANYUKU,xsPANAELAENG,xsPANOLONG,xsPAMEPET,xsPANEULEUNG,sPAMAAEH,sVIRAMA,",
  "CONSONANT sPASANGAN MA,CONSONANT sPASANGAN WA,mKHA,mSYA;1BB0,SUNDANESE DIGIT ,ZERO,ONE,TWO,",
  "THREE,FOUR,FIVE,SIX,SEVEN,EIGHT,NINE;1BBA,SUNDANESE ,AVAGRAHA,mREU,mLEU,mBHA,mFINAL K,mFINAL M;",
  "1BC0,BATAK m,A,SIMALUNGUN A,HA,SIMALUNGUN HA,MANDAILING HA,BA,KARO BA,PA,SIMALUNGUN PA,NA,",
  "MANDAILING NA,WA,SIMALUNGUN WA,PAKPAK WA,GA,SIMALUNGUN GA,JA,DA,RA,SIMALUNGUN RA,MA,",
  "SIMALUNGUN MA,SOUTHERN TA,NORTHERN TA,SA,SIMALUNGUN SA,MANDAILING SA,YA,SIMALUNGUN YA,NGA,LA,",
  "SIMALUNGUN LA,NYA,CA,NDA,MBA,I,U;1BE6,BATAK ,sTOMPI,xsE,xsPAKPAK E,xsEE,xsI,xsKARO I,xsO,",
  "xsKARO O,xsU,xsU FOR SIMALUNGUN SA,CONSONANT sNG,CONSONANT sH,PANGOLAT,PANONGONAN;",
  "1BFC,BATAK SYMBOL BINDU ,NA METEK,PINARBORAS,JUDUL,PANGOLAT;1C00,LEPCHA m,KA,KLA,KHA,GA,GLA,",
  "NGA,CA,CHA,JA,NYA,TA,THA,DA,NA,PA,PLA,PHA,FA,FLA,BA,BLA,MA,MLA,TSA,TSHA,DZA,YA,RA,LA,HA,HLA,VA,",
  "SA,SHA,WA,A;1C24,LEPCHA SUBJOINED m,YA,RA;1C26,LEPCHA xs,AA,I,O,OO,U,UU,E;",
  "1C2D,LEPCHA CONSONANT s,K,M,L,N,P,R,T,NYIN-DO,KANG;1C36,LEPCHA s,RAN,NUKTA;",
  "1C3B,LEPCHA PUNCTUATION ,TA-ROL,NYET THYOOM TA-ROL,CER-WA,TSHOOK CER-WA,TSHOOK;",
  "1C40,LEPCHA DIGIT ,ZERO,ONE,TWO,THREE,FOUR,FIVE,SIX,SEVEN,EIGHT,NINE;1C4D,LEPCHA m,TTA,TTHA,",
  "DDA;1C50,OL CHIKI DIGIT ,ZERO,ONE,TWO,THREE,FOUR,FIVE,SIX,SEVEN,EIGHT,NINE;1C5A,OL CHIKI m,LA,",
  "AT,AG,ANG,AL,LAA,AAK,AAJ,AAM,AAW,LI,IS,IH,INY,IR,LU,UC,UD,UNN,UY,LE,EP,EDD,EN,ERR,LO,OTT,OB,OV,",
  "OH;1C78,OL CHIKI ,MU TTUDDAG,GAAHLAA TTUDDAAG,MU-GAAHLAA TTUDDAAG,RELAA,PHAARKAA,AHAD,",
  "PUNCTUATION MUCAAD,PUNCTUATION gMUCAAD;1C80,CYRILLIC tm,ROUNDED VE,LONG-LEGGED DE,NARROW O,",
  "WIDE ES,TALL TE,THREE-LEGGED TE,TALL HARD SIGN,TALL YAT,UNBLENDED UK;",
  "1C90,GEORGIAN MTAVRULI fm,AN,BAN,GAN,DON,EN,VIN,ZEN,TAN,IN,KAN,LAS,MAN,NAR,ON,PAR,ZHAR,RAE,SAN,",
  "TAR,UN,PHAR,KHAR,GHAN,QAR,SHIN,CHIN,CAN,JIL,CIL,CHAR,XAN,JHAN,HAE,HE,HIE,WE,HAR,HOE,FI,YN,",
  "ELIFI,TURNED GAN,AIN;1CBD,GEORGIAN MTAVRULI fm,AEN,HARD SIGN,LABIAL SIGN;",
  "1CC0,SUNDANESE PUNCTUATION BINDU ,SURYA,PANGLONG,PURNAMA,CAKRA,LEU SATANGA,KA SATANGA,",
  "DA SATANGA,BA SATANGA;1CD0,VEDIC ,TONE KARSHANA,TONE SHARA,TONE PRENKHA,sNIHSHVASA,",
  "sYAJURVEDIC MIDLINE SVARITA;1CD5,VEDIC TONE YAJURVEDIC ,AGGRAVATED INDEPENDENT SVARITA,",
  "INDEPENDENT SVARITA,KATHAKA INDEPENDENT SVARITA;1CD8,VEDIC TONE ,CANDRA d,",
  "YAJURVEDIC KATHAKA INDEPENDENT SVARITA SCHROEDER,gSVARITA,TRIPLE SVARITA,KATHAKA ANUDATTA,",
  "DOT d,TWO DOTS d,THREE DOTS d,RIGVEDIC KASHMIRI INDEPENDENT SVARITA,",
  "ATHARVAVEDIC INDEPENDENT SVARITA;1CE2,VEDIC s,VISARGA SVARITA,VISARGA UDATTA,",
  "REVERSED VISARGA UDATTA,VISARGA ANUDATTA,REVERSED VISARGA ANUDATTA,VISARGA UDATTA zTAIL,",
  "VISARGA ANUDATTA zTAIL;1CE9,VEDIC sANUSVARA ,ANTARGOMUKHA,BAHIRGOMUKHA,VAMAGOMUKHA,",
  "VAMAGOMUKHA zTAIL;1CED,VEDIC ,sTIRYAK,sHEXIFORM LONG ANUSVARA,sLONG ANUSVARA,",
  "sRTHANG LONG ANUSVARA,sANUSVARA UBHAYATO MUKHA,sARDHAVISARGA,sROTATED ARDHAVISARGA,",
  "TONE CANDRA a,sJIHVAMULIYA,sUPADHMANIYA,sATIKRAMA,TONE RING a,TONE gRING a,",
  "sgANUSVARA ANTARGOMUKHA"]

end CharacterName

end SearchBridge
