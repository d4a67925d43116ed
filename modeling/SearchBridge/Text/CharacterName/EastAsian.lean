/-!
The names of characters from U+2C00 to U+ABFF: radicals, kana and enclosed characters of East Asia,
Yi and Vai syllables, and letters that were added late.
-/

namespace SearchBridge

namespace CharacterName

/-- Glagolitic and Coptic letters, radicals, kana, Yi and Vai syllables, and later letters. -/
def eastAsian : List String := [
  "2C00,GLAGOLITIC fm,AZU,BUKY,VEDE,GLAGOLI,DOBRO,YESTU,ZHIVETE,DZELO,ZEMLJA,IZHE,INITIAL IZHE,I,",
  "DJERVI,KAKO,LJUDIJE,MYSLITE,NASHI,ONU,POKOJI,RITSI,SLOVO,TVRIDO,UKU,FRITU,HERU,OTU,PE,SHTA,TSI,",
  "CHRIVI,SHA,YERU,YERI,YATI,SPIDERY HA,YU,tYUS,tYUS zTAIL,YO,IOTATED tYUS,BIG YUS,",
  "IOTATED BIG YUS,FITA,IZHITSA,SHTAPIC,TROKUTASTI A,LATINATE MYSLITE,CAUDATE CHRIVI;",
  "2C30,GLAGOLITIC tm,AZU,BUKY,VEDE,GLAGOLI,DOBRO,YESTU,ZHIVETE,DZELO,ZEMLJA,IZHE,INITIAL IZHE,I,",
  "DJERVI,KAKO,LJUDIJE,MYSLITE,NASHI,ONU,POKOJI,RITSI,SLOVO,TVRIDO,UKU,FRITU,HERU,OTU,PE,SHTA,TSI,",
  "CHRIVI,SHA,YERU,YERI,YATI,SPIDERY HA,YU,tYUS,tYUS zTAIL,YO,IOTATED tYUS,BIG YUS,",
  "IOTATED BIG YUS,FITA,IZHITSA,SHTAPIC,TROKUTASTI A,LATINATE MYSLITE,CAUDATE CHRIVI;",
  "2C60,LATIN ,fmL zgBAR,tmL zgBAR,fmL zoTILDE,fmP zSTROKE,fmR zTAIL,tmA zSTROKE,",
  "tmT zDIAGONAL STROKE,fmH zDESCENDER,tmH zDESCENDER,fmK zDESCENDER,tmK zDESCENDER,",
  "fmZ zDESCENDER,tmZ zDESCENDER,fmALPHA,fmM zHOOK,fmTURNED A,fmTURNED ALPHA,tmV zqHOOK,fmW zHOOK,",
  "tmW zHOOK,tmV zCURL,fmHALF H,tmHALF H,tmTAILLESS PHI,tmE zNOTCH,tmTURNED R zTAIL,",
  "tmO zLOW RING INSIDE,mtfTURNED E,SUBSCRIPT tmJ;2C7D,,MODIFIER mfV,LATIN fmS zSWASH TAIL,",
  "LATIN fmZ zSWASH TAIL;2C80,COPTIC ,fmALFA,tmALFA,fmVIDA,tmVIDA,fmGAMMA,tmGAMMA,fmDALDA,tmDALDA,",
  "fmEIE,tmEIE,fmSOU,tmSOU,fmZATA,tmZATA,fmHATE,tmHATE,fmTHETHE,tmTHETHE,fmIAUDA,tmIAUDA,fmKAPA,",
  "tmKAPA,fmLAULA,tmLAULA,fmMI,tmMI,fmNI,tmNI,fmKSI,tmKSI,fmO,tmO,fmPI,tmPI,fmRO,tmRO,fmSIMA,",
  "tmSIMA,fmTAU,tmTAU,fmUA,tmUA,fmFI,tmFI,fmKHI,tmKHI,fmPSI,tmPSI,fmOOU,tmOOU,fmDIALECT-P ALEF,",
  "tmDIALECT-P ALEF,fmOLD COPTIC AIN,tmOLD COPTIC AIN,fmCRYPTOGRAMMIC EIE,tmCRYPTOGRAMMIC EIE,",
  "fmDIALECT-P KAPA,tmDIALECT-P KAPA,fmDIALECT-P NI,tmDIALECT-P NI,fmCRYPTOGRAMMIC NI,",
  "tmCRYPTOGRAMMIC NI,fmOLD COPTIC OOU,tmOLD COPTIC OOU,fmSAMPI,tmSAMPI,fmCROSSED SHEI,",
  "tmCROSSED SHEI,fmOLD COPTIC SHEI,tmOLD COPTIC SHEI,fmOLD COPTIC ESH,tmOLD COPTIC ESH,",
  "fmAKHMIMIC KHEI,tmAKHMIMIC KHEI,fmDIALECT-P HORI,tmDIALECT-P HORI,fmOLD COPTIC HORI,",
  "tmOLD COPTIC HORI,fmOLD COPTIC HA,tmOLD COPTIC HA,fmL-SHAPED HA,tmL-SHAPED HA,fmOLD COPTIC HEI,",
  "tmOLD COPTIC HEI,fmOLD COPTIC HAT,tmOLD COPTIC HAT,fmOLD COPTIC GANGIA,tmOLD COPTIC GANGIA,",
  "fmOLD COPTIC DJA,tmOLD COPTIC DJA,fmOLD COPTIC SHIMA,tmOLD COPTIC SHIMA,fmOLD NUBIAN SHIMA,",
  "tmOLD NUBIAN SHIMA,fmOLD NUBIAN NGI,tmOLD NUBIAN NGI,fmOLD NUBIAN NYI,tmOLD NUBIAN NYI,",
  "fmOLD NUBIAN WAU,tmOLD NUBIAN WAU;2CE4,COPTIC SYMBOL ,KAI,MI RO,PI RO,STAUROS,TAU RO,KHI RO,",
  "SHIMA SIMA;2CEB,COPTIC ,fmCRYPTOGRAMMIC SHEI,tmCRYPTOGRAMMIC SHEI,fmCRYPTOGRAMMIC GANGIA,",
  "tmCRYPTOGRAMMIC GANGIA,COMBINING NI a,COMBINING SPIRITUS ASPER,COMBINING SPIRITUS LENIS,",
  "fmBOHAIRIC KHEI,tmBOHAIRIC KHEI;2CF9,COPTIC OLD NUBIAN ,FULL STOP,DIRECT QUESTION MARK,",
  "INDIRECT QUESTION MARK,VERSE DIVIDER;2CFD,COPTIC ,FRACTION ONE HALF,FULL STOP,",
  "MORPHOLOGICAL DIVIDER;2D00,GEORGIAN tm,AN,BAN,GAN,DON,EN,VIN,ZEN,TAN,IN,KAN,LAS,MAN,NAR,ON,PAR,",
  "ZHAR,RAE,SAN,TAR,UN,PHAR,KHAR,GHAN,QAR,SHIN,CHIN,CAN,JIL,CIL,CHAR,XAN,JHAN,HAE,HE,HIE,WE,HAR,",
  "HOE;2D27,,GEORGIAN tmYN;2D2D,,GEORGIAN tmAEN;2D30,TIFINAGH m,YA,YAB,YABH,YAG,YAGHH,",
  "BERBER ACADEMY YAJ,YAJ,YAD,YADH,YADD,YADDH,YEY,YAF,YAK,TUAREG YAK,YAKHH,YAH,BERBER ACADEMY YAH,",
  "TUAREG YAH,YAHH,YAA,YAKH,TUAREG YAKH,YAQ,TUAREG YAQ,YI,YAZH,AHAGGAR YAZH,TUAREG YAZH,YAL,YAM,",
  "YAN,TUAREG YAGN,TUAREG YANG,YAP,YU,YAR,YARR,YAGH,TUAREG YAGH,AYER YAGH,YAS,YASS,YASH,YAT,YATH,",
  "YACH,YATT,YAV,YAW,YAY,YAZ,TAWELLEMET YAZ,YAZZ,YE,YO;",
  "2D6F,TIFINAGH ,MODIFIER mLABIALIZATION MARK,SEPARATOR MARK;2D7F,,TIFINAGH CONSONANT JOINER;",
  "2D80,ETHIOPIC SYLLABLE ,LOA,MOA,ROA,SOA,SHOA,BOA,TOA,COA,NOA,NYOA,GLOTTAL OA,ZOA,DOA,DDOA,JOA,",
  "THOA,CHOA,PHOA,POA,GGWA,GGWI,GGWEE,GGWE;2DA0,ETHIOPIC SYLLABLE ,SSA,SSU,SSI,SSAA,SSEE,SSE,SSO;",
  "2DA8,ETHIOPIC SYLLABLE ,CCA,CCU,CCI,CCAA,CCEE,CCE,CCO;2DB0,ETHIOPIC SYLLABLE ,ZZA,ZZU,ZZI,ZZAA,",
  "ZZEE,ZZE,ZZO;2DB8,ETHIOPIC SYLLABLE ,CCHA,CCHU,CCHI,CCHAA,CCHEE,CCHE,CCHO;",
  "2DC0,ETHIOPIC SYLLABLE ,QYA,QYU,QYI,QYAA,QYEE,QYE,QYO;2DC8,ETHIOPIC SYLLABLE ,KYA,KYU,KYI,KYAA,",
  "KYEE,KYE,KYO;2DD0,ETHIOPIC SYLLABLE ,XYA,XYU,XYI,XYAA,XYEE,XYE,XYO;2DD8,ETHIOPIC SYLLABLE ,GYA,",
  "GYU,GYI,GYAA,GYEE,GYE,GYO;2DE0,COMBINING CYRILLIC m,BE,VE,GHE,DE,ZHE,ZE,KA,EL,EM,EN,O,PE,ER,ES,",
  "TE,HA,TSE,CHE,SHA,SHCHA,FITA,ES-TE,A,IE,DJERV,MONOGRAPH UK,YAT,YU,IOTIFIED A,LITTLE YUS,",
  "BIG YUS,IOTIFIED BIG YUS;2E00,,qANGLE SUBSTITUTION MARKER,qANGLE DOTTED SUBSTITUTION MARKER,",
  "kSUBSTITUTION BRACKET,qSUBSTITUTION BRACKET,kDOTTED SUBSTITUTION BRACKET,",
  "qDOTTED SUBSTITUTION BRACKET,RAISED INTERPOLATION MARKER,RAISED DOTTED INTERPOLATION MARKER,",
  "DOTTED TRANSPOSITION MARKER,kTRANSPOSITION BRACKET,qTRANSPOSITION BRACKET,RAISED SQUARE,",
  "kRAISED OMISSION BRACKET,qRAISED OMISSION BRACKET,EDITORIAL CORONIS,PARAGRAPHOS,",
  "FORKED PARAGRAPHOS,REVERSED FORKED PARAGRAPHOS,HYPODIASTOLE,DOTTED OBELOS,DOWNWARDS ANCORA,",
  "UPWARDS ANCORA,DOTTED RIGHT-pANGLE,gOBLIQUE HYPHEN,INVERTED INTERROBANG,PALM BRANCH,",
  "HYPHEN zDIAERESIS,TILDE zRING a,kLOW PARAPHRASE BRACKET,qLOW PARAPHRASE BRACKET;",
  "2E1E,TILDE zDOT ,a,d;2E20,,kwBAR zQUILL,qwBAR zQUILL,TOP kHALF BRACKET,TOP qHALF BRACKET,",
  "BOTTOM kHALF BRACKET,BOTTOM qHALF BRACKET,kSIDEWAYS U BRACKET,qSIDEWAYS U BRACKET,",
  "kgPARENTHESIS,qgPARENTHESIS,TWO DOTS OVER ONE DOT PUNCTUATION,",
  "ONE DOT OVER TWO DOTS PUNCTUATION,SQUARED FOUR DOT PUNCTUATION,FIVE DOT MARK,",
  "REVERSED QUESTION MARK,wTILDE,RING POINT,WORD SEPARATOR oDOT,TURNED COMMA,RAISED DOT,",
  "RAISED COMMA,TURNED SEMICOLON,DAGGER zkGUARD,DAGGER zqGUARD,TURNED DAGGER,",
  "TOP HALF SECTION SIGN,TWO-EM DASH,THREE-EM DASH,STENOGRAPHIC FULL STOP,wSIX DOTS,WIGGLY wLINE,",
  "CAPITULUM,gHYPHEN,REVERSED COMMA,gLOW-REVERSED-9 QUOTATION MARK,DASH zkUPTURN,gSUSPENSION MARK,",
  "INVERTED LOW KAVYKA,INVERTED LOW KAVYKA zKAVYKA a,LOW KAVYKA,LOW KAVYKA zDOT,gSTACKED COMMA,",
  "DOTTED SOLIDUS,TRIPLE DAGGER,MEDIEVAL COMMA,PARAGRAPHUS MARK,PUNCTUS ELEVATUS MARK,",
  "CORNISH VERSE DIVIDER,CROSS PATTY zqCROSSBAR,CROSS PATTY zkCROSSBAR,TIRONIAN sfET,",
  "MEDIEVAL EXCLAMATION MARK,MEDIEVAL QUESTION MARK,kSQUARE BRACKET zSTROKE,",
  "qSQUARE BRACKET zSTROKE,kSQUARE BRACKET zgSTROKE,qSQUARE BRACKET zgSTROKE,",
  "TOP HALF kPARENTHESIS,TOP HALF qPARENTHESIS,BOTTOM HALF kPARENTHESIS,BOTTOM HALF qPARENTHESIS,",
  "OBLIQUE HYPHEN;2E80,CJK RADICAL ,REPEAT,CLIFF,SECOND ONE,SECOND TWO,SECOND THREE,PERSON,BOX,",
  "TABLE,KNIFE ONE,KNIFE TWO,DIVINATION,SEAL,tONE,tTWO,LAME ONE,LAME TWO,LAME THREE,LAME FOUR,",
  "SNAKE,THREAD,SNOUT ONE,SNOUT TWO,HEART ONE,HEART TWO,HAND,RAP;2E9B,CJK RADICAL ,CHOKE,SUN,MOON,",
  "DEATH,MOTHER,CIVILIAN,WATER ONE,WATER TWO,FIRE,PAW ONE,PAW TWO,SIMPLIFIED HALF TREE TRUNK,COW,",
  "DOG,JADE,BOLT OF CLOTH,EYE,SPIRIT ONE,SPIRIT TWO,BAMBOO,SILK,C-SIMPLIFIED SILK,NET ONE,NET TWO,",
  "NET THREE,NET FOUR,MESH,SHEEP,RAM,EWE,OLD,BRUSH ONE,BRUSH TWO,MEAT,MORTAR,GRASS ONE,GRASS TWO,",
  "GRASS THREE,TIGER,CLOTHES,WEST ONE,WEST TWO,C-SIMPLIFIED SEE,SIMPLIFIED HORN,HORN,",
  "C-SIMPLIFIED SPEECH,C-SIMPLIFIED SHELL,FOOT,C-SIMPLIFIED CART,SIMPLIFIED WALK,WALK ONE,",
  "WALK TWO,CITY,C-SIMPLIFIED GOLD,LONG ONE,LONG TWO,C-SIMPLIFIED LONG,C-SIMPLIFIED GATE,",
  "MOUND ONE,MOUND TWO,RAIN,BLUE,C-SIMPLIFIED TANNED LEATHER,C-SIMPLIFIED LEAF,C-SIMPLIFIED WIND,",
  "C-SIMPLIFIED FLY,EAT ONE,EAT TWO,EAT THREE,C-SIMPLIFIED EAT,HEAD,C-SIMPLIFIED HORSE,BONE,GHOST,",
  "C-SIMPLIFIED FISH,C-SIMPLIFIED BIRD,C-SIMPLIFIED SALT,SIMPLIFIED WHEAT,SIMPLIFIED YELLOW,",
  "C-SIMPLIFIED FROG,J-SIMPLIFIED EVEN,C-SIMPLIFIED EVEN,J-SIMPLIFIED TOOTH,C-SIMPLIFIED TOOTH,",
  "J-SIMPLIFIED DRAGON,C-SIMPLIFIED DRAGON,TURTLE,J-SIMPLIFIED TURTLE,C-SIMPLIFIED TURTLE;",
  "2F00,KANGXI RADICAL ,ONE,LINE,DOT,SLASH,SECOND,HOOK,TWO,LID,MAN,LEGS,ENTER,EIGHT,DOWN BOX,",
  "COVER,ICE,TABLE,OPEN BOX,KNIFE,POWER,WRAP,SPOON,qOPEN BOX,HIDING ENCLOSURE,TEN,DIVINATION,SEAL,",
  "CLIFF,PRIVATE,AGAIN,MOUTH,ENCLOSURE,EARTH,SCHOLAR,GO,GO SLOWLY,EVENING,BIG,WOMAN,CHILD,ROOF,",
  "INCH,SMALL,LAME,CORPSE,SPROUT,MOUNTAIN,RIVER,WORK,ONESELF,TURBAN,DRY,SHORT THREAD,DOTTED CLIFF,",
  "LONG STRIDE,TWO HANDS,SHOOT,BOW,SNOUT,BRISTLE,STEP,HEART,HALBERD,DOOR,HAND,BRANCH,RAP,SCRIPT,",
  "DIPPER,AXE,SQUARE,NOT,SUN,SAY,MOON,TREE,LACK,STOP,DEATH,WEAPON,DO NOT,COMPARE,FUR,CLAN,STEAM,",
  "WATER,FIRE,CLAW,FATHER,gX,HALF TREE TRUNK,SLICE,FANG,COW,DOG,PROFOUND,JADE,MELON,TILE,SWEET,",
  "LIFE,USE,FIELD,BOLT OF CLOTH,SICKNESS,DOTTED TENT,WHITE,SKIN,DISH,EYE,SPEAR,c,STONE,SPIRIT,",
  "TRACK,GRAIN,CAVE,STAND,BAMBOO,RICE,SILK,JAR,NET,SHEEP,FEATHER,OLD,AND,PLOW,EAR,BRUSH,MEAT,",
  "MINISTER,SELF,ARRIVE,MORTAR,TONGUE,OPPOSE,BOAT,STOPPING,COLOR,GRASS,TIGER,INSECT,BLOOD,",
  "WALK ENCLOSURE,CLOTHES,WEST,SEE,HORN,SPEECH,VALLEY,BEAN,PIG,BADGER,SHELL,RED,RUN,FOOT,BODY,",
  "CART,BITTER,MORNING,WALK,CITY,WINE,DISTINGUISH,VILLAGE,GOLD,LONG,GATE,MOUND,SLAVE,",
  "SHORT TAILED BIRD,RAIN,BLUE,WRONG,FACE,LEATHER,TANNED LEATHER,LEEK,SOUND,LEAF,WIND,FLY,EAT,",
  "HEAD,FRAGRANT,HORSE,BONE,TALL,HAIR,FIGHT,SACRIFICIAL WINE,CAULDRON,GHOST,FISH,BIRD,SALT,DEER,",
  "WHEAT,HEMP,YELLOW,MILLET,BLACK,EMBROIDERY,FROG,TRIPOD,DRUM,RAT,NOSE,EVEN,TOOTH,DRAGON,TURTLE,",
  "FLUTE;2FF0,IDEOGRAPHIC DESCRIPTION CHARACTER ,kTO RIGHT,a TO d,kTO obRIGHT,a TO obd,",
  "FULL SURROUND,SURROUND FROM a,SURROUND FROM d,SURROUND FROM LEFT,SURROUND FROM UPPER LEFT,",
  "SURROUND FROM UPPER RIGHT,SURROUND FROM LOWER LEFT,OVERLAID;3000,IDEOGRAPHIC ,SPACE,COMMA,",
  "FULL STOP;3003,,DITTO MARK,JAPANESE INDUSTRIAL STANDARD SYMBOL;",
  "3005,IDEOGRAPHIC ,ITERATION MARK,CLOSING MARK,NUMBER ZERO;3008,,kANGLE BRACKET,qANGLE BRACKET,",
  "kgANGLE BRACKET,qgANGLE BRACKET,kCORNER BRACKET,qCORNER BRACKET,kyCORNER BRACKET,",
  "qyCORNER BRACKET,keLENTICULAR BRACKET,qeLENTICULAR BRACKET,POSTAL MARK,GETA MARK,",
  "kTORTOISE SHELL BRACKET,qTORTOISE SHELL BRACKET,kyLENTICULAR BRACKET,qyLENTICULAR BRACKET,",
  "kyTORTOISE SHELL BRACKET,qyTORTOISE SHELL BRACKET,kySQUARE BRACKET,qySQUARE BRACKET,WAVE DASH,",
  "REVERSED gPRIME QUOTATION MARK,gPRIME QUOTATION MARK,LOW gPRIME QUOTATION MARK,",
  "POSTAL MARK FACE;3021,HANGZHOU NUMERAL ,ONE,TWO,THREE,FOUR,FIVE,SIX,SEVEN,EIGHT,NINE;",
  "302A,IDEOGRAPHIC ,LEVEL TONE MARK,RISING TONE MARK,DEPARTING TONE MARK,ENTERING TONE MARK;",
  "302E,,HANGUL SINGLE DOT TONE MARK,HANGUL gDOT TONE MARK,WAVY DASH;3031,wKANA REPEAT ,MARK,",
  "zVOICED SOUND MARK,MARK UPPER HALF,zVOICED SOUND MARK UPPER HALF,MARK LOWER HALF;",
  "3036,,CIRCLED POSTAL MARK,IDEOGRAPHIC TELEGRAPH LINE FEED SEPARATOR SYMBOL;",
  "3038,HANGZHOU NUMERAL ,TEN,TWENTY,THIRTY;303B,,wIDEOGRAPHIC ITERATION MARK,MASU MARK,",
  "PART ALTERNATION MARK;303E,IDEOGRAPHIC ,VARIATION INDICATOR,HALF FILL SPACE;3041,HIRAGANA m,tA,",
  "A,tI,I,tU,U,tE,E,tO,O,KA,GA,KI,GI,KU,GU,KE,GE,KO,GO,SA,ZA,SI,ZI,SU,ZU,SE,ZE,SO,ZO,TA,DA,TI,DI,",
  "tTU,TU,DU,TE,DE,TO,DO,NA,NI,NU,NE,NO,HA,BA,PA,HI,BI,PI,HU,BU,PU,HE,BE,PE,HO,BO,PO,MA,MI,MU,ME,",
  "MO,tYA,YA,tYU,YU,tYO,YO,RA,RI,RU,RE,RO,tWA,WA,WI,WE,WO,N,VU,tKA,tKE;",
  "3099,COMBINING KATAKANA-HIRAGANA ,VOICED SOUND MARK,SEMI-VOICED SOUND MARK;",
  "309B,KATAKANA-HIRAGANA ,VOICED SOUND MARK,SEMI-VOICED SOUND MARK;309D,HIRAGANA ,ITERATION MARK,",
  "VOICED ITERATION MARK,DIGRAPH YORI;30A0,,KATAKANA-HIRAGANA gHYPHEN;30A1,KATAKANA m,tA,A,tI,I,",
  "tU,U,tE,E,tO,O,KA,GA,KI,GI,KU,GU,KE,GE,KO,GO,SA,ZA,SI,ZI,SU,ZU,SE,ZE,SO,ZO,TA,DA,TI,DI,tTU,TU,",
  "DU,TE,DE,TO,DO,NA,NI,NU,NE,NO,HA,BA,PA,HI,BI,PI,HU,BU,PU,HE,BE,PE,HO,BO,PO,MA,MI,MU,ME,MO,tYA,",
  "YA,tYU,YU,tYO,YO,RA,RI,RU,RE,RO,tWA,WA,WI,WE,WO,N,VU,tKA,tKE,VA,VI,VE,VO;30FB,,KATAKANA oDOT,",
  "KATAKANA-HIRAGANA PROLONGED SOUND MARK;30FD,KATAKANA ,ITERATION MARK,VOICED ITERATION MARK,",
  "DIGRAPH KOTO;3105,BOPOMOFO m,B,P,M,F,D,T,N,L,G,K,H,J,Q,X,ZH,CH,SH,R,Z,C,S,A,O,E,EH,AI,EI,AU,OU,",
  "AN,EN,ANG,ENG,ER,I,U,IU,V,NG,GN,IH,O zDOT a,NN;3131,HANGUL m,KIYEOK,SSANGKIYEOK,KIYEOK-SIOS,",
  "NIEUN,NIEUN-CIEUC,NIEUN-HIEUH,TIKEUT,SSANGTIKEUT,RIEUL;313A,HANGUL mRIEUL-,KIYEOK,MIEUM,PIEUP,",
  "SIOS,THIEUTH,PHIEUPH,HIEUH;3141,HANGUL m,MIEUM,PIEUP,SSANGPIEUP,PIEUP-SIOS,SIOS,SSANGSIOS,",
  "IEUNG,CIEUC,SSANGCIEUC,CHIEUCH,KHIEUKH,THIEUTH,PHIEUPH,HIEUH,A,AE,YA,YAE,EO,E,YEO,YE,O,WA,WAE,",
  "OE,YO,U,WEO,WE,WI,YU,EU,YI,I;3164,HANGUL ,FILLER,mSSANGNIEUN,mNIEUN-TIKEUT,mNIEUN-SIOS,",
  "mNIEUN-PANSIOS;3169,HANGUL mRIEUL-,KIYEOK-SIOS,TIKEUT,PIEUP-SIOS,PANSIOS,YEORINHIEUH;",
  "316E,HANGUL m,MIEUM-PIEUP,MIEUM-SIOS,MIEUM-PANSIOS,KAPYEOUNMIEUM,PIEUP-KIYEOK,PIEUP-TIKEUT,",
  "PIEUP-SIOS-KIYEOK,PIEUP-SIOS-TIKEUT,PIEUP-CIEUC,PIEUP-THIEUTH,KAPYEOUNPIEUP,KAPYEOUNSSANGPIEUP,",
  "SIOS-KIYEOK,SIOS-NIEUN,SIOS-TIKEUT,SIOS-PIEUP,SIOS-CIEUC,PANSIOS,SSANGIEUNG,YESIEUNG,",
  "YESIEUNG-SIOS,YESIEUNG-PANSIOS,KAPYEOUNPHIEUPH,SSANGHIEUH,YEORINHIEUH,YO-YA,YO-YAE,YO-I,YU-YEO,",
  "YU-YE,YU-I,ARAEA,ARAEAE;3190,IDEOGRAPHIC ANNOTATION ,LINKING MARK,REVERSE MARK,ONE MARK,",
  "TWO MARK,THREE MARK,FOUR MARK,TOP MARK,oMARK,BOTTOM MARK,FIRST MARK,SECOND MARK,THIRD MARK,",
  "FOURTH MARK,HEAVEN MARK,EARTH MARK,MAN MARK;31A0,BOPOMOFO m,BU,ZI,JI,GU,EE,ENN,OO,ONN,IR,ANN,",
  "INN,UNN,IM,NGG,AINN,AUNN,AM,OM,ONG,INNN;31B4,BOPOMOFO FINAL m,P,T,K,H;31B8,BOPOMOFO ,mGH,mLH,",
  "mZY,FINAL mG,mGW,mKW,mOE,mAH;31C0,CJK STROKE ,T,WG,XG,BXG,SW,HZZ,HZG,HP,HZWG,SZWG,HZT,HZZP,",
  "HPWG,HZW,HZZZ,N,H,S,P,SP,D,HZ,HG,SZ,SWZ,ST,SG,PD,PZ,TN,SZZ,SWG,HXWG,HZZZG,PG,Q;",
  "31F0,KATAKANA mt,KU,SI,SU,TO,NU,HA,HI,HU,HE,HO,MU,RA,RI,RU,RE,RO;",
  "3200,PARENTHESIZED HANGUL ,KIYEOK,NIEUN,TIKEUT,RIEUL,MIEUM,PIEUP,SIOS,IEUNG,CIEUC,CHIEUCH,",
  "KHIEUKH,THIEUTH,PHIEUPH,HIEUH,KIYEOK A,NIEUN A,TIKEUT A,RIEUL A,MIEUM A,PIEUP A,SIOS A,IEUNG A,",
  "CIEUC A,CHIEUCH A,KHIEUKH A,THIEUTH A,PHIEUPH A,HIEUH A,CIEUC U;",
  "321D,PARENTHESIZED KOREAN CHARACTER ,OJEON,O HU;3220,PARENTHESIZED IDEOGRAPH ,ONE,TWO,THREE,",
  "FOUR,FIVE,SIX,SEVEN,EIGHT,NINE,TEN,MOON,FIRE,WATER,WOOD,METAL,EARTH,SUN,STOCK,HAVE,SOCIETY,",
  "NAME,SPECIAL,FINANCIAL,CONGRATULATION,LABOR,REPRESENT,CALL,STUDY,SUPERVISE,ENTERPRISE,RESOURCE,",
  "ALLIANCE,FESTIVAL,REST,SELF,REACH;3244,CIRCLED IDEOGRAPH ,QUESTION,KINDERGARTEN,SCHOOL,KOTO;",
  "3248,CIRCLED NUMBER ,TEN ON eSQUARE,TWENTY ON eSQUARE,THIRTY ON eSQUARE,FORTY ON eSQUARE,",
  "FIFTY ON eSQUARE,SIXTY ON eSQUARE,SEVENTY ON eSQUARE,EIGHTY ON eSQUARE;3250,,PARTNERSHIP SIGN;",
  "3251,CIRCLED NUMBER TWENTY ,ONE,TWO,THREE,FOUR,FIVE,SIX,SEVEN,EIGHT,NINE;",
  "325A,,CIRCLED NUMBER THIRTY;325B,CIRCLED NUMBER THIRTY ,ONE,TWO,THREE,FOUR,FIVE;",
  "3260,CIRCLED HANGUL ,KIYEOK,NIEUN,TIKEUT,RIEUL,MIEUM,PIEUP,SIOS,IEUNG,CIEUC,CHIEUCH,KHIEUKH,",
  "THIEUTH,PHIEUPH,HIEUH,KIYEOK A,NIEUN A,TIKEUT A,RIEUL A,MIEUM A,PIEUP A,SIOS A,IEUNG A,CIEUC A,",
  "CHIEUCH A,KHIEUKH A,THIEUTH A,PHIEUPH A,HIEUH A;327C,CIRCLED KOREAN CHARACTER ,CHAMKO,JUEUI;",
  "327E,,CIRCLED HANGUL IEUNG U,KOREAN STANDARD SYMBOL;3280,CIRCLED IDEOGRAPH ,ONE,TWO,THREE,FOUR,",
  "FIVE,SIX,SEVEN,EIGHT,NINE,TEN,MOON,FIRE,WATER,WOOD,METAL,EARTH,SUN,STOCK,HAVE,SOCIETY,NAME,",
  "SPECIAL,FINANCIAL,CONGRATULATION,LABOR,SECRET,MALE,FEMALE,SUITABLE,EXCELLENT,PRINT,ATTENTION,",
  "ITEM,REST,COPY,CORRECT,HIGH,CENTRE,LOW,LEFT,RIGHT,MEDICINE,RELIGION,STUDY,SUPERVISE,ENTERPRISE,",
  "RESOURCE,ALLIANCE,NIGHT;32B1,CIRCLED NUMBER ,THIRTY SIX,THIRTY SEVEN,THIRTY EIGHT,THIRTY NINE,",
  "FORTY;32B6,CIRCLED NUMBER FORTY ,ONE,TWO,THREE,FOUR,FIVE,SIX,SEVEN,EIGHT,NINE;",
  "32BF,,CIRCLED NUMBER FIFTY;32C0,IDEOGRAPHIC TELEGRAPH SYMBOL FOR ,JANUARY,FEBRUARY,MARCH,APRIL,",
  "MAY,JUNE,JULY,AUGUST,SEPTEMBER,OCTOBER,NOVEMBER,DECEMBER;32CC,SQUARE ,HG,ERG,EV;",
  "32CF,,LIMITED LIABILITY SIGN;32D0,CIRCLED KATAKANA ,A,I,U,E,O,KA,KI,KU,KE,KO,SA,SI,SU,SE,SO,TA,",
  "TI,TU,TE,TO,NA,NI,NU,NE,NO,HA,HI,HU,HE,HO,MA,MI,MU,ME,MO,YA,YU,YO,RA,RI,RU,RE,RO,WA,WI,WE,WO;",
  "32FF,SQUARE ,ERA NAME REIWA,APAATO,ARUHUA,ANPEA,AARU,ININGU,INTI,UON,ESUKUUDO,EEKAA,ONSU,OOMU,",
  "KAIRI,KARATTO,KARORII,GARON,GANMA,GIGA,GINII,KYURII,GIRUDAA,KIRO,KIROGURAMU,KIROMEETORU,",
  "KIROWATTO,GURAMU,GURAMUTON,KURUZEIRO,KUROONE,KEESU,KORUNA,KOOPO,SAIKURU,SANTIIMU,SIRINGU,SENTI,",
  "SENTO,DAASU,DESI,DORU,TON,NANO,NOTTO,HAITU,PAASENTO,PAATU,BAARERU,PIASUTORU,PIKURU,PIKO,BIRU,",
  "HUARADDO,HUIITO,BUSSYERU,HURAN,HEKUTAARU,PESO,PENIHI,HERUTU,PENSU,PEEZI,BEETA,POINTO,BORUTO,",
  "HON,PONDO,HOORU,HOON,MAIKURO,MAIRU,MAHHA,MARUKU,MANSYON,MIKURON,MIRI,MIRIBAARU,MEGA,MEGATON,",
  "MEETORU,YAADO,YAARU,YUAN,RITTORU,RIRA,RUPII,RUUBURU,REMU,RENTOGEN,WATTO;",
  "3358,IDEOGRAPHIC TELEGRAPH SYMBOL FOR HOUR ,ZERO,ONE,TWO,THREE,FOUR,FIVE,SIX,SEVEN,EIGHT,NINE,",
  "TEN,ELEVEN,TWELVE,THIRTEEN,FOURTEEN,FIFTEEN,SIXTEEN,SEVENTEEN,EIGHTEEN,NINETEEN,TWENTY,",
  "TWENTY-ONE,TWENTY-TWO,TWENTY-THREE,TWENTY-FOUR;3371,SQUARE ,HPA,DA,AU,BAR,OV,PC,DM,DM SQUARED,",
  "DM CUBED,IU,ERA NAME HEISEI,ERA NAME SYOUWA,ERA NAME TAISYOU,ERA NAME MEIZI,CORPORATION,",
  "PA AMPS,NA,MU A,MA,KA,KB,MB,GB,CAL,KCAL,PF,NF,MU F,MU G,MG,KG,HZ,KHZ,MHZ,GHZ,THZ,MU L,ML,DL,KL,",
  "FM,NM,MU M,MM,CM,KM,MM SQUARED,CM SQUARED,M SQUARED,KM SQUARED,MM CUBED,CM CUBED,M CUBED,",
  "KM CUBED,M OVER S,M OVER S SQUARED,PA,KPA,MPA,GPA,RAD,RAD OVER S,RAD OVER S SQUARED,PS,NS,MU S,",
  "MS,PV,NV,MU V,MV,KV,MV MEGA,PW,NW,MU W,MW,KW,MW MEGA,K OHM,M OHM,AM,BQ,CC,CD,C OVER KG,CO,DB,",
  "GY,HA,HP,IN,KK,KM CAPITAL,KT,LM,LN,LOG,LX,MB SMALL,MIL,MOL,PH,PM,PPM,PR,SR,SV,WB,V OVER M,",
  "A OVER M;33E0,IDEOGRAPHIC TELEGRAPH SYMBOL FOR DAY ,ONE,TWO,THREE,FOUR,FIVE,SIX,SEVEN,EIGHT,",
  "NINE,TEN,ELEVEN,TWELVE,THIRTEEN,FOURTEEN,FIFTEEN,SIXTEEN,SEVENTEEN,EIGHTEEN,NINETEEN,TWENTY,",
  "TWENTY-ONE,TWENTY-TWO,TWENTY-THREE,TWENTY-FOUR,TWENTY-FIVE,TWENTY-SIX,TWENTY-SEVEN,",
  "TWENTY-EIGHT,TWENTY-NINE,THIRTY,THIRTY-ONE;33FF,,SQUARE GAL;",
  "4DC0,HEXAGRAM FOR ,THE CREATIVE HEAVEN,THE RECEPTIVE EARTH,DIFFICULTY AT THE BEGINNING,",
  "YOUTHFUL FOLLY,WAITING,CONFLICT,THE ARMY,HOLDING TOGETHER,tTAMING,TREADING,PEACE,STANDSTILL,",
  "FELLOWSHIP,GREAT POSSESSION,MODESTY,ENTHUSIASM,FOLLOWING,WORK ON THE DECAYED,APPROACH,",
  "CONTEMPLATION,BITING THROUGH,GRACE,SPLITTING APART,RETURN,INNOCENCE,GREAT TAMING,MOUTH CORNERS,",
  "GREAT PREPONDERANCE,THE ABYSMAL WATER,THE CLINGING FIRE,INFLUENCE,DURATION,RETREAT,GREAT POWER,",
  "PROGRESS,DARKENING OF THE LIGHT,THE FAMILY,OPPOSITION,OBSTRUCTION,DELIVERANCE,DECREASE,",
  "INCREASE,BREAKTHROUGH,COMING TO MEET,GATHERING TOGETHER,PUSHING UPWARD,OPPRESSION,THE WELL,",
  "REVOLUTION,THE CAULDRON,THE AROUSING THUNDER,THE KEEPING STILL MOUNTAIN,DEVELOPMENT,",
  "THE MARRYING MAIDEN,ABUNDANCE,THE WANDERER,THE GENTLE WIND,THE JOYOUS LAKE,DISPERSION,",
  "LIMITATION,INNER TRUTH,tPREPONDERANCE,AFTER COMPLETION,BEFORE COMPLETION;A000,YI SYLLABLE ,IT,",
  "IX,I,IP,IET,IEX,IE,IEP,AT,AX,A,AP,UOX,UO,UOP,OT,OX,O,OP,EX,E,WU,BIT,BIX,BI,BIP,BIET,BIEX,BIE,",
  "BIEP,BAT,BAX,BA,BAP,BUOX,BUO,BUOP,BOT,BOX,BO,BOP,BEX,BE,BEP,BUT,BUX,BU,BUP,BURX,BUR,BYT,BYX,BY,",
  "BYP,BYRX,BYR,PIT,PIX,PI,PIP,PIEX,PIE,PIEP,PAT,PAX,PA,PAP,PUOX,PUO,PUOP,POT,POX,PO,POP,PUT,PUX,",
  "PU,PUP,PURX,PUR,PYT,PYX,PY,PYP,PYRX,PYR,BBIT,BBIX,BBI,BBIP,BBIET,BBIEX,BBIE,BBIEP,BBAT,BBAX,",
  "BBA,BBAP,BBUOX,BBUO,BBUOP,BBOT,BBOX,BBO,BBOP,BBEX,BBE,BBEP,BBUT,BBUX,BBU,BBUP,BBURX,BBUR,BBYT,",
  "BBYX,BBY,BBYP,NBIT,NBIX,NBI,NBIP,NBIEX,NBIE,NBIEP,NBAT,NBAX,NBA,NBAP,NBOT,NBOX,NBO,NBOP,NBUT,",
  "NBUX,NBU,NBUP,NBURX,NBUR,NBYT,NBYX,NBY,NBYP,NBYRX,NBYR,HMIT,HMIX,HMI,HMIP,HMIEX,HMIE,HMIEP,",
  "HMAT,HMAX,HMA,HMAP,HMUOX,HMUO,HMUOP,HMOT,HMOX,HMO,HMOP,HMUT,HMUX,HMU,HMUP,HMURX,HMUR,HMYX,HMY,",
  "HMYP,HMYRX,HMYR,MIT,MIX,MI,MIP,MIEX,MIE,MIEP,MAT,MAX,MA,MAP,MUOT,MUOX,MUO,MUOP,MOT,MOX,MO,MOP,",
  "MEX,ME,MUT,MUX,MU,MUP,MURX,MUR,MYT,MYX,MY,MYP,FIT,FIX,FI,FIP,FAT,FAX,FA,FAP,FOX,FO,FOP,FUT,FUX,",
  "FU,FUP,FURX,FUR,FYT,FYX,FY,FYP,VIT,VIX,VI,VIP,VIET,VIEX,VIE,VIEP,VAT,VAX,VA,VAP,VOT,VOX,VO,VOP,",
  "VEX,VEP,VUT,VUX,VU,VUP,VURX,VUR,VYT,VYX,VY,VYP,VYRX,VYR,DIT,DIX,DI,DIP,DIEX,DIE,DIEP,DAT,DAX,",
  "DA,DAP,DUOX,DUO,DOT,DOX,DO,DOP,DEX,DE,DEP,DUT,DUX,DU,DUP,DURX,DUR,TIT,TIX,TI,TIP,TIEX,TIE,TIEP,",
  "TAT,TAX,TA,TAP,TUOT,TUOX,TUO,TUOP,TOT,TOX,TO,TOP,TEX,TE,TEP,TUT,TUX,TU,TUP,TURX,TUR,DDIT,DDIX,",
  "DDI,DDIP,DDIEX,DDIE,DDIEP,DDAT,DDAX,DDA,DDAP,DDUOX,DDUO,DDUOP,DDOT,DDOX,DDO,DDOP,DDEX,DDE,DDEP,",
  "DDUT,DDUX,DDU,DDUP,DDURX,DDUR,NDIT,NDIX,NDI,NDIP,NDIEX,NDIE,NDAT,NDAX,NDA,NDAP,NDOT,NDOX,NDO,",
  "NDOP,NDEX,NDE,NDEP,NDUT,NDUX,NDU,NDUP,NDURX,NDUR,HNIT,HNIX,HNI,HNIP,HNIET,HNIEX,HNIE,HNIEP,",
  "HNAT,HNAX,HNA,HNAP,HNUOX,HNUO,HNOT,HNOX,HNOP,HNEX,HNE,HNEP,HNUT,NIT,NIX,NI,NIP,NIEX,NIE,NIEP,",
  "NAX,NA,NAP,NUOX,NUO,NUOP,NOT,NOX,NO,NOP,NEX,NE,NEP,NUT,NUX,NU,NUP,NURX,NUR,HLIT,HLIX,HLI,HLIP,",
  "HLIEX,HLIE,HLIEP,HLAT,HLAX,HLA,HLAP,HLUOX,HLUO,HLUOP,HLOX,HLO,HLOP,HLEX,HLE,HLEP,HLUT,HLUX,HLU,",
  "HLUP,HLURX,HLUR,HLYT,HLYX,HLY,HLYP,HLYRX,HLYR,LIT,LIX,LI,LIP,LIET,LIEX,LIE,LIEP,LAT,LAX,LA,LAP,",
  "LUOT,LUOX,LUO,LUOP,LOT,LOX,LO,LOP,LEX,LE,LEP,LUT,LUX,LU,LUP,LURX,LUR,LYT,LYX,LY,LYP,LYRX,LYR,",
  "GIT,GIX,GI,GIP,GIET,GIEX,GIE,GIEP,GAT,GAX,GA,GAP,GUOT,GUOX,GUO,GUOP,GOT,GOX,GO,GOP,GET,GEX,GE,",
  "GEP,GUT,GUX,GU,GUP,GURX,GUR,KIT,KIX,KI,KIP,KIEX,KIE,KIEP,KAT,KAX,KA,KAP,KUOX,KUO,KUOP,KOT,KOX,",
  "KO,KOP,KET,KEX,KE,KEP,KUT,KUX,KU,KUP,KURX,KUR,GGIT,GGIX,GGI,GGIEX,GGIE,GGIEP,GGAT,GGAX,GGA,",
  "GGAP,GGUOT,GGUOX,GGUO,GGUOP,GGOT,GGOX,GGO,GGOP,GGET,GGEX,GGE,GGEP,GGUT,GGUX,GGU,GGUP,GGURX,",
  "GGUR,MGIEX,MGIE,MGAT,MGAX,MGA,MGAP,MGUOX,MGUO,MGUOP,MGOT,MGOX,MGO,MGOP,MGEX,MGE,MGEP,MGUT,MGUX,",
  "MGU,MGUP,MGURX,MGUR,HXIT,HXIX,HXI,HXIP,HXIET,HXIEX,HXIE,HXIEP,HXAT,HXAX,HXA,HXAP,HXUOT,HXUOX,",
  "HXUO,HXUOP,HXOT,HXOX,HXO,HXOP,HXEX,HXE,HXEP,NGIEX,NGIE,NGIEP,NGAT,NGAX,NGA,NGAP,NGUOT,NGUOX,",
  "NGUO,NGOT,NGOX,NGO,NGOP,NGEX,NGE,NGEP,HIT,HIEX,HIE,HAT,HAX,HA,HAP,HUOT,HUOX,HUO,HUOP,HOT,HOX,",
  "HO,HOP,HEX,HE,HEP,WAT,WAX,WA,WAP,WUOX,WUO,WUOP,WOX,WO,WOP,WEX,WE,WEP,ZIT,ZIX,ZI,ZIP,ZIEX,ZIE,",
  "ZIEP,ZAT,ZAX,ZA,ZAP,ZUOX,ZUO,ZUOP,ZOT,ZOX,ZO,ZOP,ZEX,ZE,ZEP,ZUT,ZUX,ZU,ZUP,ZURX,ZUR,ZYT,ZYX,ZY,",
  "ZYP,ZYRX,ZYR,CIT,CIX,CI,CIP,CIET,CIEX,CIE,CIEP,CAT,CAX,CA,CAP,CUOX,CUO,CUOP,COT,COX,CO,COP,CEX,",
  "CE,CEP,CUT,CUX,CU,CUP,CURX,CUR,CYT,CYX,CY,CYP,CYRX,CYR,ZZIT,ZZIX,ZZI,ZZIP,ZZIET,ZZIEX,ZZIE,",
  "ZZIEP,ZZAT,ZZAX,ZZA,ZZAP,ZZOX,ZZO,ZZOP,ZZEX,ZZE,ZZEP,ZZUX,ZZU,ZZUP,ZZURX,ZZUR,ZZYT,ZZYX,ZZY,",
  "ZZYP,ZZYRX,ZZYR,NZIT,NZIX,NZI,NZIP,NZIEX,NZIE,NZIEP,NZAT,NZAX,NZA,NZAP,NZUOX,NZUO,NZOX,NZOP,",
  "NZEX,NZE,NZUX,NZU,NZUP,NZURX,NZUR,NZYT,NZYX,NZY,NZYP,NZYRX,NZYR,SIT,SIX,SI,SIP,SIEX,SIE,SIEP,",
  "SAT,SAX,SA,SAP,SUOX,SUO,SUOP,SOT,SOX,SO,SOP,SEX,SE,SEP,SUT,SUX,SU,SUP,SURX,SUR,SYT,SYX,SY,SYP,",
  "SYRX,SYR,SSIT,SSIX,SSI,SSIP,SSIEX,SSIE,SSIEP,SSAT,SSAX,SSA,SSAP,SSOT,SSOX,SSO,SSOP,SSEX,SSE,",
  "SSEP,SSUT,SSUX,SSU,SSUP,SSYT,SSYX,SSY,SSYP,SSYRX,SSYR,ZHAT,ZHAX,ZHA,ZHAP,ZHUOX,ZHUO,ZHUOP,ZHOT,",
  "ZHOX,ZHO,ZHOP,ZHET,ZHEX,ZHE,ZHEP,ZHUT,ZHUX,ZHU,ZHUP,ZHURX,ZHUR,ZHYT,ZHYX,ZHY,ZHYP,ZHYRX,ZHYR,",
  "CHAT,CHAX,CHA,CHAP,CHUOT,CHUOX,CHUO,CHUOP,CHOT,CHOX,CHO,CHOP,CHET,CHEX,CHE,CHEP,CHUX,CHU,CHUP,",
  "CHURX,CHUR,CHYT,CHYX,CHY,CHYP,CHYRX,CHYR,RRAX,RRA,RRUOX,RRUO,RROT,RROX,RRO,RROP,RRET,RREX,RRE,",
  "RREP,RRUT,RRUX,RRU,RRUP,RRURX,RRUR,RRYT,RRYX,RRY,RRYP,RRYRX,RRYR,NRAT,NRAX,NRA,NRAP,NROX,NRO,",
  "NROP,NRET,NREX,NRE,NREP,NRUT,NRUX,NRU,NRUP,NRURX,NRUR,NRYT,NRYX,NRY,NRYP,NRYRX,NRYR,SHAT,SHAX,",
  "SHA,SHAP,SHUOX,SHUO,SHUOP,SHOT,SHOX,SHO,SHOP,SHET,SHEX,SHE,SHEP,SHUT,SHUX,SHU,SHUP,SHURX,SHUR,",
  "SHYT,SHYX,SHY,SHYP,SHYRX,SHYR,RAT,RAX,RA,RAP,RUOX,RUO,RUOP,ROT,ROX,RO,ROP,REX,RE,REP,RUT,RUX,",
  "RU,RUP,RURX,RUR,RYT,RYX,RY,RYP,RYRX,RYR,JIT,JIX,JI,JIP,JIET,JIEX,JIE,JIEP,JUOT,JUOX,JUO,JUOP,",
  "JOT,JOX,JO,JOP,JUT,JUX,JU,JUP,JURX,JUR,JYT,JYX,JY,JYP,JYRX,JYR,QIT,QIX,QI,QIP,QIET,QIEX,QIE,",
  "QIEP,QUOT,QUOX,QUO,QUOP,QOT,QOX,QO,QOP,QUT,QUX,QU,QUP,QURX,QUR,QYT,QYX,QY,QYP,QYRX,QYR,JJIT,",
  "JJIX,JJI,JJIP,JJIET,JJIEX,JJIE,JJIEP,JJUOX,JJUO,JJUOP,JJOT,JJOX,JJO,JJOP,JJUT,JJUX,JJU,JJUP,",
  "JJURX,JJUR,JJYT,JJYX,JJY,JJYP,NJIT,NJIX,NJI,NJIP,NJIET,NJIEX,NJIE,NJIEP,NJUOX,NJUO,NJOT,NJOX,",
  "NJO,NJOP,NJUX,NJU,NJUP,NJURX,NJUR,NJYT,NJYX,NJY,NJYP,NJYRX,NJYR,NYIT,NYIX,NYI,NYIP,NYIET,NYIEX,",
  "NYIE,NYIEP,NYUOX,NYUO,NYUOP,NYOT,NYOX,NYO,NYOP,NYUT,NYUX,NYU,NYUP,XIT,XIX,XI,XIP,XIET,XIEX,XIE,",
  "XIEP,XUOX,XUO,XOT,XOX,XO,XOP,XYT,XYX,XY,XYP,XYRX,XYR,YIT,YIX,YI,YIP,YIET,YIEX,YIE,YIEP,YUOT,",
  "YUOX,YUO,YUOP,YOT,YOX,YO,YOP,YUT,YUX,YU,YUP,YURX,YUR,YYT,YYX,YY,YYP,YYRX,YYR;",
  "A490,YI RADICAL ,QOT,LI,KIT,NYIP,CYP,SSI,GGOP,GEP,MI,HXIT,LYR,BBUT,MOP,YO,PUT,HXUO,TAT,GA,ZUP,",
  "CYT,DDUR,BUR,GGUO,NYOP,TU,OP,JJUT,ZOT,PYT,HMO,YIT,VUR,SHY,VEP,ZA,JO,NZUP,JJY,GOT,JJIE,WO,DU,",
  "SHUR,LIE,CY,CUOP,CIP,HXOP,SHAT,ZUR,SHOP,CHE,ZZIET,NBIE,KE;A4D0,LISU m,BA,PA,PHA,DA,TA,THA,GA,",
  "KA,KHA,JA,CA,CHA,DZA,TSA,TSHA,MA,NA,LA,SA,ZHA,ZA,NGA,HA,XA,HHA,FA,WA,SHA,YA,GHA,A,AE,E,EU,I,O,",
  "U,UE,UH,OE,TONE MYA TI,TONE NA PO;A4FA,LISU mTONE MYA ,CYA,BO,NA,JEU;",
  "A4FE,LISU PUNCTUATION ,COMMA,FULL STOP;A500,VAI SYLLABLE ,EE,EEN,HEE,WEE,WEEN,PEE,BHEE,BEE,",
  "MBEE,KPEE,MGBEE,GBEE,FEE,VEE,TEE,THEE,DHEE,DHHEE,LEE,REE,DEE,NDEE,SEE,SHEE,ZEE,ZHEE,CEE,JEE,",
  "NJEE,YEE,KEE,NGGEE,GEE,MEE,NEE,NYEE,I,IN,HI,HIN,WI,WIN,PI,BHI,BI,MBI,KPI,MGBI,GBI,FI,VI,TI,THI,",
  "DHI,DHHI,LI,RI,DI,NDI,SI,SHI,ZI,ZHI,CI,JI,NJI,YI,KI,NGGI,GI,MI,NI,NYI,A,AN,NGAN,HA,HAN,WA,WAN,",
  "PA,BHA,BA,MBA,KPA,KPAN,MGBA,GBA,FA,VA,TA,THA,DHA,DHHA,LA,RA,DA,NDA,SA,SHA,ZA,ZHA,CA,JA,NJA,YA,",
  "KA,KAN,NGGA,GA,MA,NA,NYA,OO,OON,HOO,WOO,WOON,POO,BHOO,BOO,MBOO,KPOO,MGBOO,GBOO,FOO,VOO,TOO,",
  "THOO,DHOO,DHHOO,LOO,ROO,DOO,NDOO,SOO,SHOO,ZOO,ZHOO,COO,JOO,NJOO,YOO,KOO,NGGOO,GOO,MOO,NOO,NYOO,",
  "U,UN,HU,HUN,WU,WUN,PU,BHU,BU,MBU,KPU,MGBU,GBU,FU,VU,TU,THU,DHU,DHHU,LU,RU,DU,NDU,SU,SHU,ZU,ZHU,",
  "CU,JU,NJU,YU,KU,NGGU,GU,MU,NU,NYU,O,ON,NGON,HO,HON,WO,WON,PO,BHO,BO,MBO,KPO,MGBO,GBO,GBON,FO,",
  "VO,TO,THO,DHO,DHHO,LO,RO,DO,NDO,SO,SHO,ZO,ZHO,CO,JO,NJO,YO,KO,NGGO,GO,MO,NO,NYO,E,EN,NGEN,HE,",
  "HEN,WE,WEN,PE,BHE,BE,MBE,KPE,KPEN,MGBE,GBE,GBEN,FE,VE,TE,THE,DHE,DHHE,LE,RE,DE,NDE,SE,SHE,ZE,",
  "ZHE,CE,JE,NJE,YE,KE,NGGE,NGGEN,GE,GEN,ME,NE,NYE,NG,LENGTHENER;A60D,VAI ,COMMA,FULL STOP,",
  "QUESTION MARK;A610,VAI SYLLABLE NDOLE ,FA,KA,SOO;A613,VAI SYMBOL ,FEENG,KEENG,TING,NII,BANG,",
  "FAA,TAA,DANG,DOONG,KUNG,TONG,DO-O,JONG;A620,VAI DIGIT ,ZERO,ONE,TWO,THREE,FOUR,FIVE,SIX,SEVEN,",
  "EIGHT,NINE;A62A,VAI SYLLABLE NDOLE ,MA,DO;A640,CYRILLIC ,fmZEMLYA,tmZEMLYA,fmDZELO,tmDZELO,",
  "fmREVERSED DZE,tmREVERSED DZE,fmIOTA,tmIOTA,fmDJERV,tmDJERV,fmMONOGRAPH UK,tmMONOGRAPH UK,",
  "fmBROAD OMEGA,tmBROAD OMEGA,fmNEUTRAL YER,tmNEUTRAL YER,fmYERU zBACK YER,tmYERU zBACK YER,",
  "fmIOTIFIED YAT,tmIOTIFIED YAT,fmREVERSED YU,tmREVERSED YU,fmIOTIFIED A,tmIOTIFIED A,",
  "fmCLOSED LITTLE YUS,tmCLOSED LITTLE YUS,fmBLENDED YUS,tmBLENDED YUS,",
  "fmIOTIFIED CLOSED LITTLE YUS,tmIOTIFIED CLOSED LITTLE YUS,fmYN,tmYN,fmREVERSED TSE,",
  "tmREVERSED TSE,fmSOFT DE,tmSOFT DE,fmSOFT EL,tmSOFT EL,fmSOFT EM,tmSOFT EM,fmMONOCULAR O,",
  "tmMONOCULAR O,fmBINOCULAR O,tmBINOCULAR O,fmgMONOCULAR O,tmgMONOCULAR O,mMULTIOCULAR O;",
  "A66F,COMBINING CYRILLIC ,VZMET,TEN MILLIONS SIGN,HUNDRED MILLIONS SIGN,THOUSAND MILLIONS SIGN;",
  "A673,,SLAVONIC ASTERISK;A674,COMBINING CYRILLIC ,mUKRAINIAN IE,mI,mYI,mU,mHARD SIGN,mYERU,",
  "mSOFT SIGN,mOMEGA,KAVYKA,PAYEROK;A67E,CYRILLIC ,KAVYKA,PAYEROK,fmDWE,tmDWE,fmDZWE,tmDZWE,",
  "fmZHWE,tmZHWE,fmCCHE,tmCCHE,fmDZZE,tmDZZE,fmTE zoHOOK,tmTE zoHOOK,fmTWE,tmTWE,fmTSWE,tmTSWE,",
  "fmTSSE,tmTSSE,fmTCHE,tmTCHE,fmHWE,tmHWE,fmSHWE,tmSHWE,fmgO,tmgO,fmCROSSED O,tmCROSSED O;",
  "A69C,MODIFIER mCYRILLIC ,HARD SIGN,SOFT SIGN;A69E,COMBINING CYRILLIC m,EF,IOTIFIED E;",
  "A6A0,BAMUM m,A,KA,U,KU,EE,REE,TAE,O,NYI,I,LA,PA,RII,RIEE,LEEEE,MEEEE,TAA,NDAA,NJAEM,M,SUU,MU,",
  "SHII,SI,SHEUX,SEUX,KYEE,KET,NUAE,NU,NJUAE,YOQ,SHU,YUQ,YA,NSHA,KEUX,PEUX,NJEE,NTEE,PUE,WUE,PEE,",
  "FEE,RU,LU,MI,NI,REUX,RAE,KEN,NGKWAEN,NGGA,NGA,SHO,PUAE,FU,FOM,WA,NA,LI,PI,LOQ,KO,MBEN,REN,MEN,",
  "MA,TI,KI,MO,MBAA,TET,KPA,TEN,NTUU,SAMBA,FAAMAE,KOVUU,KOGHOM;A6F0,BAMUM COMBINING MARK ,KOQNDON,",
  "TUKWENTIS;A6F2,BAMUM ,NJAEMLI,FULL STOP,COLON,COMMA,SEMICOLON,QUESTION MARK;",
  "A700,MODIFIER mCHINESE TONE ,YIN PING,YANG PING,YIN SHANG,YANG SHANG,YIN QU,YANG QU,YIN RU,",
  "YANG RU;A708,MODIFIER m,EXTRA-HIGH DOTTED TONE BAR,HIGH DOTTED TONE BAR,MID DOTTED TONE BAR,",
  "LOW DOTTED TONE BAR,EXTRA-LOW DOTTED TONE BAR,EXTRA-HIGH DOTTED LEFT-STEM TONE BAR,",
  "HIGH DOTTED LEFT-STEM TONE BAR,MID DOTTED LEFT-STEM TONE BAR,LOW DOTTED LEFT-STEM TONE BAR,",
  "EXTRA-LOW DOTTED LEFT-STEM TONE BAR,EXTRA-HIGH LEFT-STEM TONE BAR,HIGH LEFT-STEM TONE BAR,",
  "MID LEFT-STEM TONE BAR,LOW LEFT-STEM TONE BAR,EXTRA-LOW LEFT-STEM TONE BAR,DOT wBAR,DOT SLASH,",
  "DOT HORIZONTAL BAR,LOWER qCORNER ANGLE,RAISED UP c,RAISED DOWN c,RAISED EXCLAMATION MARK,",
  "RAISED INVERTED EXCLAMATION MARK,LOW INVERTED EXCLAMATION MARK,STRESS bHIGH TONE,",
  "STRESS bLOW TONE;A722,LATIN ,fmEGYPTOLOGICAL ALEF,tmEGYPTOLOGICAL ALEF,fmEGYPTOLOGICAL AIN,",
  "tmEGYPTOLOGICAL AIN,fmHENG,tmHENG,fmTZ,tmTZ,fmTRESILLO,tmTRESILLO,fmCUATRILLO,tmCUATRILLO,",
  "fmCUATRILLO zCOMMA,tmCUATRILLO zCOMMA,mtfF,mtfS,fmAA,tmAA,fmAO,tmAO,fmAU,tmAU,fmAV,tmAV,",
  "fmAV zHORIZONTAL BAR,tmAV zHORIZONTAL BAR,fmAY,tmAY,fmREVERSED C zDOT,tmREVERSED C zDOT,",
  "fmK zSTROKE,tmK zSTROKE,fmK zDIAGONAL STROKE,tmK zDIAGONAL STROKE,fmK zSTROKE bDIAGONAL STROKE,",
  "tmK zSTROKE bDIAGONAL STROKE,fmBROKEN L,tmBROKEN L,fmL zHIGH STROKE,tmL zHIGH STROKE,",
  "fmO zLONG STROKE OVERLAY,tmO zLONG STROKE OVERLAY,fmO zLOOP,tmO zLOOP,fmOO,tmOO,",
  "fmP zSTROKE THROUGH DESCENDER,tmP zSTROKE THROUGH DESCENDER,fmP zFLOURISH,tmP zFLOURISH,",
  "fmP zSQUIRREL TAIL,tmP zSQUIRREL TAIL,fmQ zSTROKE THROUGH DESCENDER,",
  "tmQ zSTROKE THROUGH DESCENDER,fmQ zDIAGONAL STROKE,tmQ zDIAGONAL STROKE,fmR ROTUNDA,",
  "tmR ROTUNDA,fmRUM ROTUNDA,tmRUM ROTUNDA,fmV zDIAGONAL STROKE,tmV zDIAGONAL STROKE,fmVY,tmVY,",
  "fmVISIGOTHIC Z,tmVISIGOTHIC Z,fmTHORN zSTROKE,tmTHORN zSTROKE,",
  "fmTHORN zSTROKE THROUGH DESCENDER,tmTHORN zSTROKE THROUGH DESCENDER,fmVEND,tmVEND,fmET,tmET,",
  "fmIS,tmIS,fmCON,tmCON;A770,,MODIFIER mUS;A771,LATIN ,tmDUM,tmLUM,tmMUM,tmNUM,tmRUM,mtfRUM,",
  "tmTUM,tmUM,fmINSULAR D,tmINSULAR D,fmINSULAR F,tmINSULAR F,fmINSULAR G,fmTURNED INSULAR G,",
  "tmTURNED INSULAR G,fmTURNED L,tmTURNED L,fmINSULAR R,tmINSULAR R,fmINSULAR S,tmINSULAR S,",
  "fmINSULAR T,tmINSULAR T;A788,MODIFIER m,LOW CIRCUMFLEX ACCENT,COLON,SHORT EQUALS SIGN;",
  "A78B,LATIN ,fmSALTILLO,tmSALTILLO,fmTURNED H,tmL zRETROFLEX HOOK bBELT,mSINOLOGICAL DOT,",
  "fmN zDESCENDER,tmN zDESCENDER,fmC zBAR,tmC zBAR,tmC zPALATAL HOOK,tmH zPALATAL HOOK,",
  "fmB zFLOURISH,tmB zFLOURISH,fmF zSTROKE,tmF zSTROKE,fmVOLAPUK AE,tmVOLAPUK AE,fmVOLAPUK OE,",
  "tmVOLAPUK OE,fmVOLAPUK UE,tmVOLAPUK UE,fmG zOBLIQUE STROKE,tmG zOBLIQUE STROKE,",
  "fmK zOBLIQUE STROKE,tmK zOBLIQUE STROKE,fmN zOBLIQUE STROKE,tmN zOBLIQUE STROKE,",
  "fmR zOBLIQUE STROKE,tmR zOBLIQUE STROKE,fmS zOBLIQUE STROKE,tmS zOBLIQUE STROKE,fmH zHOOK,",
  "fmREVERSED OPEN E,fmSCRIPT G,fmL zBELT,fmtfI,mtfQ,fmTURNED K,fmTURNED T,fmJ zCROSSED-TAIL,",
  "fmCHI,fmBETA,tmBETA,fmOMEGA,tmOMEGA,fmU zSTROKE,tmU zSTROKE,fmGLOTTAL A,tmGLOTTAL A,",
  "fmGLOTTAL I,tmGLOTTAL I,fmGLOTTAL U,tmGLOTTAL U,fmOLD POLISH O,tmOLD POLISH O,fmANGLICANA W,",
  "tmANGLICANA W,fmC zPALATAL HOOK,fmS zHOOK,fmZ zPALATAL HOOK,fmD zSHORT STROKE OVERLAY,",
  "tmD zSHORT STROKE OVERLAY,fmS zSHORT STROKE OVERLAY,tmS zSHORT STROKE OVERLAY;",
  "A7D0,LATIN ,fmCLOSED INSULAR G,tmCLOSED INSULAR G;A7D3,,LATIN tmgTHORN;A7D5,LATIN ,tmgWYNN,",
  "fmoSCOTS S,tmoSCOTS S,fmSIGMOID S,tmSIGMOID S;A7F2,MODIFIER mf,C,F,Q;",
  "A7F5,LATIN ,fmREVERSED HALF H,tmREVERSED HALF H,EPIGRAPHIC mSIDEWAYS I;",
  "A7F8,MODIFIER m,fH zSTROKE,tLIGATURE OE;A7FA,,LATIN mtfTURNED M;",
  "A7FB,LATIN EPIGRAPHIC m,REVERSED F,REVERSED P,INVERTED M,I LONGA,ARCHAIC M;",
  "A800,SYLOTI NAGRI ,mA,mI,sDVISVARA,mU,mE,mO,sHASANTA,mKO,mKHO,mGO,mGHO,sANUSVARA,mCO,mCHO,mJO,",
  "mJHO,mTTO,mTTHO,mDDO,mDDHO,mTO,mTHO,mDO,mDHO,mNO,mPO,mPHO,mBO,mBHO,mMO,mRO,mLO,mRRO,mSO,mHO,",
  "xsA,xsI,xsU,xsE,xsOO,POETRY MARK-1,POETRY MARK-2,POETRY MARK-3,POETRY MARK-4,",
  "sALTERNATE HASANTA;A830,NORTH INDIC FRACTION ,ONE QUARTER,ONE HALF,THREE QUARTERS,",
  "ONE SIXTEENTH,ONE EIGHTH,THREE SIXTEENTHS;A836,NORTH INDIC ,QUARTER MARK,PLACEHOLDER MARK,",
  "RUPEE MARK,QUANTITY MARK;A840,PHAGS-PA m,KA,KHA,GA,NGA,CA,CHA,JA,NYA,TA,THA,DA,NA,PA,PHA,BA,MA,",
  "TSA,TSHA,DZA,WA,ZHA,ZA,tA,YA,RA,LA,SHA,SA,HA,A,I,U,E,O,QA,XA,FA,GGA,EE;",
  "A867,PHAGS-PA ,SUBJOINED mWA,SUBJOINED mYA,mTTA,mTTHA,mDDA,mNNA,mALTERNATE YA,mVOICELESS SHA,",
  "mVOICED HA,mASPIRATED FA,SUBJOINED mRA,SUPERFIXED mRA,mCANDRABINDU,SINGLE HEAD MARK,gHEAD MARK,",
  "MARK SHAD,MARK gSHAD;A880,SAURASHTRA s,ANUSVARA,VISARGA;A882,SAURASHTRA m,A,AA,I,II,U,UU,",
  "VOCALIC R,VOCALIC RR,VOCALIC L,VOCALIC LL,E,EE,AI,O,OO,AU,KA,KHA,GA,GHA,NGA,CA,CHA,JA,JHA,NYA,",
  "TTA,TTHA,DDA,DDHA,NNA,TA,THA,DA,DHA,NA,PA,PHA,BA,BHA,MA,YA,RA,LA,VA,SHA,SSA,SA,HA,LLA;",
  "A8B4,SAURASHTRA ,CONSONANT sHAARU,xsAA,xsI,xsII,xsU,xsUU,xsVOCALIC R,xsVOCALIC RR,xsVOCALIC L,",
  "xsVOCALIC LL,xsE,xsEE,xsAI,xsO,xsOO,xsAU,sVIRAMA,sCANDRABINDU;A8CE,SAURASHTRA ,DANDA,gDANDA;",
  "A8D0,SAURASHTRA DIGIT ,ZERO,ONE,TWO,THREE,FOUR,FIVE,SIX,SEVEN,EIGHT,NINE;",
  "A8E0,COMBINING DEVANAGARI DIGIT ,ZERO,ONE,TWO,THREE,FOUR,FIVE,SIX,SEVEN,EIGHT,NINE;",
  "A8EA,COMBINING DEVANAGARI ,mA,mU,mKA,mNA,mPA,mRA,mVI,sAVAGRAHA;",
  "A8F2,DEVANAGARI ,sSPACING CANDRABINDU,sCANDRABINDU VIRAMA,sgCANDRABINDU VIRAMA,",
  "sCANDRABINDU TWO,sCANDRABINDU THREE,sCANDRABINDU AVAGRAHA,sPUSHPIKA,GAP FILLER,CARET,",
  "HEADSTROKE,sSIDDHAM,JAIN OM,mAY,xsAY;A900,KAYAH LI DIGIT ,ZERO,ONE,TWO,THREE,FOUR,FIVE,SIX,",
  "SEVEN,EIGHT,NINE;A90A,KAYAH LI m,KA,KHA,GA,NGA,SA,SHA,ZA,NYA,TA,HTA,NA,PA,PHA,MA,DA,BA,RA,YA,",
  "LA,WA,THA,HA,VA,CA,A,OE,I,OO;A926,KAYAH LI ,xUE,xE,xU,xEE,xO,TONE PLOPHU,TONE CALYA,",
  "TONE CALYA PLOPHU,sCWI,sSHYA;A930,REJANG m,KA,GA,NGA,TA,DA,NA,PA,BA,MA,CA,JA,NYA,SA,RA,LA,YA,",
  "WA,HA,MBA,NGGA,NDA,NYJA,A;A947,REJANG xs,I,U,E,AI,O,AU,EU,EA;A94F,REJANG CONSONANT s,NG,N,R,H;",
  "A953,,REJANG VIRAMA;A95F,,REJANG SECTION MARK;A960,HANGUL CHOSEONG TIKEUT-,MIEUM,PIEUP,SIOS,",
  "CIEUC;A964,HANGUL CHOSEONG RIEUL-,KIYEOK,SSANGKIYEOK,TIKEUT,SSANGTIKEUT,MIEUM,PIEUP,SSANGPIEUP,",
  "KAPYEOUNPIEUP,SIOS,CIEUC,KHIEUKH;A96F,HANGUL CHOSEONG ,MIEUM-KIYEOK,MIEUM-TIKEUT,MIEUM-SIOS,",
  "PIEUP-SIOS-THIEUTH,PIEUP-KHIEUKH,PIEUP-HIEUH,SSANGSIOS-PIEUP,IEUNG-RIEUL,IEUNG-HIEUH,",
  "SSANGCIEUC-HIEUH,SSANGTHIEUTH,PHIEUPH-HIEUH,HIEUH-SIOS,SSANGYEORINHIEUH;",
  "A980,JAVANESE s,PANYANGGA,CECAK,LAYAR,WIGNYAN;A984,JAVANESE m,A,I KAWI,I,II,U,PA CEREK,",
  "NGA LELET,NGA LELET RASWADI,E,AI,O,KA,KA SASAK,KA MURDA,GA,GA MURDA,NGA,CA,CA MURDA,JA,",
  "NYA MURDA,JA MAHAPRANA,NYA,TTA,TTA MAHAPRANA,DDA,DDA MAHAPRANA,NA MURDA,TA,TA MURDA,DA,",
  "DA MAHAPRANA,NA,PA,PA MURDA,BA,BA MURDA,MA,YA,RA,RA AGUNG,LA,WA,SA MURDA,SA MAHAPRANA,SA,HA;",
  "A9B3,JAVANESE ,sCECAK TELU,xsTARUNG,xsTOLONG,xsWULU,xsWULU MELIK,xsSUKU,xsSUKU MENDUT,xsTALING,",
  "xsDIRGA MURE,xsPEPET,CONSONANT sKERET,CONSONANT sPENGKAL,CONSONANT sCAKRA,PANGKON,kRERENGGAN,",
  "qRERENGGAN;A9C3,JAVANESE PADA ,ANDAP,MADYA,LUHUR,WINDU,PANGKAT,LINGSA,LUNGSI,ADEG,ADEG ADEG,",
  "PISELEH;A9CD,,JAVANESE TURNED PADA PISELEH;A9CF,,JAVANESE PANGRANGKEP;",
  "A9D0,JAVANESE DIGIT ,ZERO,ONE,TWO,THREE,FOUR,FIVE,SIX,SEVEN,EIGHT,NINE;",
  "A9DE,JAVANESE PADA ,TIRTA TUMETES,ISEN-ISEN;A9E0,MYANMAR mSHAN ,GHA,CHA,JHA,NNA,BHA;",
  "A9E5,MYANMAR ,sSHAN SAW,MODIFIER mSHAN REDUPLICATION;A9E7,MYANMAR mTAI LAING ,NYA,FA,GA,GHA,JA,",
  "JHA,DDA,DDHA,NNA;A9F0,MYANMAR TAI LAING DIGIT ,ZERO,ONE,TWO,THREE,FOUR,FIVE,SIX,SEVEN,EIGHT,",
  "NINE;A9FA,MYANMAR mTAI LAING ,LLA,DA,DHA,BA,BHA;AA00,CHAM m,A,I,U,E,AI,O,KA,KHA,GA,GHA,NGUE,",
  "NGA,CHA,CHHA,JA,JHA,NHUE,NHA,NHJA,TA,THA,DA,DHA,NUE,NA,DDA,PA,PPA,PHA,BA,BHA,MUE,MA,BBA,YA,RA,",
  "LA,VA,SSA,SA,HA;AA29,CHAM xs,AA,I,II,EI,U,OE,O,AI,AU,UE;AA33,CHAM CONSONANT s,YA,RA,LA,WA;",
  "AA40,CHAM mFINAL ,K,G,NG;AA43,,CHAM CONSONANT sFINAL NG;AA44,CHAM mFINAL ,CH,T,N,P,Y,R,L,SS;",
  "AA4C,CHAM CONSONANT sFINAL ,M,H;AA50,CHAM DIGIT ,ZERO,ONE,TWO,THREE,FOUR,FIVE,SIX,SEVEN,EIGHT,",
  "NINE;AA5C,CHAM PUNCTUATION ,SPIRAL,DANDA,gDANDA,TRIPLE DANDA;AA60,MYANMAR mKHAMTI ,GA,CA,CHA,",
  "JA,JHA,NYA,TTA,TTHA,DDA,DDHA,DHA,NA,SA,HA,HHA,FA;AA70,MYANMAR ,MODIFIER mKHAMTI REDUPLICATION,",
  "mKHAMTI XA,mKHAMTI ZA,mKHAMTI RA;AA74,MYANMAR LOGOGRAM KHAMTI ,OAY,QN,HM;",
  "AA77,MYANMAR SYMBOL AITON ,EXCLAMATION,ONE,TWO;AA7A,MYANMAR ,mAITON RA,sPAO KAREN TONE,",
  "sTAI LAING TONE-2,sTAI LAING TONE-5,mSHWE PALAUNG CHA,mSHWE PALAUNG SHA;AA80,TAI VIET m,LOW KO,",
  "HIGH KO,LOW KHO,HIGH KHO,LOW KHHO,HIGH KHHO,LOW GO,HIGH GO,LOW NGO,HIGH NGO,LOW CO,HIGH CO,",
  "LOW CHO,HIGH CHO,LOW SO,HIGH SO,LOW NYO,HIGH NYO,LOW DO,HIGH DO,LOW TO,HIGH TO,LOW THO,",
  "HIGH THO,LOW NO,HIGH NO,LOW BO,HIGH BO,LOW PO,HIGH PO,LOW PHO,HIGH PHO,LOW FO,HIGH FO,LOW MO,",
  "HIGH MO,LOW YO,HIGH YO,LOW RO,HIGH RO,LOW LO,HIGH LO,LOW VO,HIGH VO,LOW HO,HIGH HO,LOW O,",
  "HIGH O;AAB0,TAI VIET ,MAI KANG,xAA,xI,xUE,xU,xE,xO,MAI KHIT,xIA,xUEA,xUA,xAUE,xAY,xAN,xAM;",
  "AABF,TAI VIET TONE MAI ,EK,NUENG,THO,SONG;AADB,TAI VIET SYMBOL ,KON,NUENG,SAM,HO HOI,KOI KOI;",
  "AAE0,MEETEI MAYEK ,mE,mO,mCHA,mNYA,mTTA,mTTHA,mDDA,mDDHA,mNNA,mSHA,mSSA,xsII,xsUU,xsAAI,xsAU,",
  "xsAAU,CHEIKHAN,AHANG KHUDAM,ANJI,SYLLABLE REPETITION MARK,WORD REPETITION MARK,xsVISARGA,",
  "VIRAMA;AB01,ETHIOPIC SYLLABLE ,TTHU,TTHI,TTHAA,TTHEE,TTHE,TTHO;AB09,ETHIOPIC SYLLABLE ,DDHU,",
  "DDHI,DDHAA,DDHEE,DDHE,DDHO;AB11,ETHIOPIC SYLLABLE ,DZU,DZI,DZAA,DZEE,DZE,DZO;",
  "AB20,ETHIOPIC SYLLABLE ,CCHHA,CCHHU,CCHHI,CCHHAA,CCHHEE,CCHHE,CCHHO;",
  "AB28,ETHIOPIC SYLLABLE ,BBA,BBU,BBI,BBAA,BBEE,BBE,BBO;AB30,LATIN tm,BARRED ALPHA,",
  "A REVERSED-SCHWA,BLACKLETTER E,BARRED E,E zFLOURISH,LENIS F,SCRIPT G zCROSSED-TAIL,",
  "L zINVERTED LAZY S,L zgoTILDE,L zoRING,M zCROSSED-TAIL,N zCROSSED-TAIL,ENG zCROSSED-TAIL,",
  "BLACKLETTER O,BLACKLETTER O zSTROKE,OPEN O zSTROKE,INVERTED OE;AB41,LATIN tmTURNED ,OE zSTROKE,",
  "OE zHORIZONTAL STROKE,O OPEN-O,O OPEN-O zSTROKE;AB45,LATIN ,tmSTIRRUP R,mtfR zqLEG;",
  "AB47,LATIN tm,R WITHOUT HANDLE,gR,R zCROSSED-TAIL,gR zCROSSED-TAIL,SCRIPT R,SCRIPT R zRING,",
  "BASELINE ESH,U zSHORT qLEG,U BAR zSHORT qLEG,UI,TURNED UI,U zkHOOK,CHI,CHI zLOW qRING,",
  "CHI zLOW kSERIF,X zLOW qRING,X zLONG kLEG,X zLONG kLEG bLOW qRING,X zLONG kLEG zSERIF,",
  "Y zSHORT qLEG;AB5B,MODIFIER ,BREVE zINVERTED BREVE,mtHENG,mtL zINVERTED LAZY S,mtL zoTILDE,",
  "mtU zkHOOK;AB60,LATIN tm,SAKHA YAT,IOTIFIED E,OPEN OE,UO,INVERTED ALPHA;AB65,,GREEK mtfOMEGA;",
  "AB66,LATIN tm,DZ DIGRAPH zRETROFLEX HOOK,TS DIGRAPH zRETROFLEX HOOK,TURNED R zoTILDE;",
  "AB69,MODIFIER m,tTURNED W,kTACK,qTACK;AB70,CHEROKEE tm,A,E,I,O,U,V,GA,KA,GE,GI,GO,GU,GV,HA,HE,",
  "HI,HO,HU,HV,LA,LE,LI,LO,LU,LV,MA,ME,MI,MO,MU,NA,HNA,NAH,NE,NI,NO,NU,NV,QUA,QUE,QUI,QUO,QUU,QUV,",
  "SA,S,SE,SI,SO,SU,SV,DA,TA,DE,TE,DI,TI,DO,DU,DV,DLA,TLA,TLE,TLI,TLO,TLU,TLV,TSA,TSE,TSI,TSO,TSU,",
  "TSV,WA,WE,WI,WO,WU,WV,YA;ABC0,MEETEI MAYEK m,KOK,SAM,LAI,MIT,PA,NA,CHIL,TIL,KHOU,NGOU,THOU,WAI,",
  "YANG,HUK,UN,I,PHAM,ATIYA,GOK,JHAM,RAI,BA,JIL,DIL,GHOU,DHOU,BHAM,KOK LONSUM,LAI LONSUM,",
  "MIT LONSUM,PA LONSUM,NA LONSUM,TIL LONSUM,NGOU LONSUM,I LONSUM;ABE3,MEETEI MAYEK ,xsONAP,",
  "xsINAP,xsANAP,xsYENAP,xsSOUNAP,xsUNAP,xsCHEINAP,xsNUNG,CHEIKHEI,LUM IYEK,APUN IYEK;",
  "ABF0,MEETEI MAYEK DIGIT ,ZERO,ONE,TWO,THREE,FOUR,FIVE,SIX,SEVEN,EIGHT,NINE"]

end CharacterName

end SearchBridge
