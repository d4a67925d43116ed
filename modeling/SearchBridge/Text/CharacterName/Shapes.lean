/-!
The names of characters from U+2500 to U+2BFF: boxes, shapes, ornaments, Braille patterns, and more
arrows and operators.
-/

namespace SearchBridge

namespace CharacterName

/-- Boxes, geometric shapes, ornaments, Braille patterns, arrows and operators. -/
def shapes : List String := [
  "2500,BOX DRAWINGS ,LIGHT HORIZONTAL,HEAVY HORIZONTAL,LIGHT VERTICAL,HEAVY VERTICAL,",
  "LIGHT TRIPLE DASH HORIZONTAL,HEAVY TRIPLE DASH HORIZONTAL,LIGHT TRIPLE DASH VERTICAL,",
  "HEAVY TRIPLE DASH VERTICAL,LIGHT QUADRUPLE DASH HORIZONTAL,HEAVY QUADRUPLE DASH HORIZONTAL,",
  "LIGHT QUADRUPLE DASH VERTICAL,HEAVY QUADRUPLE DASH VERTICAL,LIGHT DOWN bRIGHT,",
  "DOWN LIGHT bqHEAVY,DOWN HEAVY bqLIGHT,HEAVY DOWN bRIGHT,LIGHT DOWN bLEFT,DOWN LIGHT bkHEAVY,",
  "DOWN HEAVY bkLIGHT,HEAVY DOWN bLEFT,LIGHT UP bRIGHT,UP LIGHT bqHEAVY,UP HEAVY bqLIGHT,",
  "HEAVY UP bRIGHT,LIGHT UP bLEFT,UP LIGHT bkHEAVY,UP HEAVY bkLIGHT,HEAVY UP bLEFT,LIGHT wbRIGHT,",
  "wLIGHT bqHEAVY,UP HEAVY bqDOWN LIGHT,DOWN HEAVY bqUP LIGHT,wHEAVY bqLIGHT,",
  "DOWN LIGHT bqUP HEAVY,UP LIGHT bqDOWN HEAVY,HEAVY wbRIGHT,LIGHT wbLEFT,wLIGHT bkHEAVY,",
  "UP HEAVY bkDOWN LIGHT,DOWN HEAVY bkUP LIGHT,wHEAVY bkLIGHT,DOWN LIGHT bkUP HEAVY,",
  "UP LIGHT bkDOWN HEAVY,HEAVY wbLEFT,LIGHT DOWN bHORIZONTAL,kHEAVY bqDOWN LIGHT,",
  "qHEAVY bkDOWN LIGHT,DOWN LIGHT bHORIZONTAL HEAVY,DOWN HEAVY bHORIZONTAL LIGHT,",
  "qLIGHT bkDOWN HEAVY,kLIGHT bqDOWN HEAVY,HEAVY DOWN bHORIZONTAL,LIGHT UP bHORIZONTAL,",
  "kHEAVY bqUP LIGHT,qHEAVY bkUP LIGHT,UP LIGHT bHORIZONTAL HEAVY,UP HEAVY bHORIZONTAL LIGHT,",
  "qLIGHT bkUP HEAVY,kLIGHT bqUP HEAVY,HEAVY UP bHORIZONTAL,LIGHT wbHORIZONTAL,kHEAVY bqwLIGHT,",
  "qHEAVY bkwLIGHT,wLIGHT bHORIZONTAL HEAVY,UP HEAVY bDOWN HORIZONTAL LIGHT,",
  "DOWN HEAVY bUP HORIZONTAL LIGHT,wHEAVY bHORIZONTAL LIGHT,kUP HEAVY bqDOWN LIGHT,",
  "qUP HEAVY bkDOWN LIGHT,kDOWN HEAVY bqUP LIGHT,qDOWN HEAVY bkUP LIGHT,",
  "DOWN LIGHT bUP HORIZONTAL HEAVY,UP LIGHT bDOWN HORIZONTAL HEAVY,qLIGHT bkwHEAVY,",
  "kLIGHT bqwHEAVY,HEAVY wbHORIZONTAL,LIGHT gDASH HORIZONTAL,HEAVY gDASH HORIZONTAL,",
  "LIGHT gDASH VERTICAL,HEAVY gDASH VERTICAL,gHORIZONTAL,gVERTICAL,DOWN SINGLE bqDOUBLE,",
  "DOWN gbqSINGLE,gDOWN bRIGHT,DOWN SINGLE bkDOUBLE,DOWN gbkSINGLE,gDOWN bLEFT,UP SINGLE bqDOUBLE,",
  "UP gbqSINGLE,gUP bRIGHT,UP SINGLE bkDOUBLE,UP gbkSINGLE,gUP bLEFT,wSINGLE bqDOUBLE,wgbqSINGLE,",
  "gwbRIGHT,wSINGLE bkDOUBLE,wgbkSINGLE,gwbLEFT,DOWN SINGLE bHORIZONTAL DOUBLE,",
  "DOWN gbHORIZONTAL SINGLE,gDOWN bHORIZONTAL,UP SINGLE bHORIZONTAL DOUBLE,UP gbHORIZONTAL SINGLE,",
  "gUP bHORIZONTAL,wSINGLE bHORIZONTAL DOUBLE,wgbHORIZONTAL SINGLE,gwbHORIZONTAL;",
  "256D,BOX DRAWINGS LIGHT ,ARC DOWN bRIGHT,ARC DOWN bLEFT,ARC UP bLEFT,ARC UP bRIGHT,",
  "DIAGONAL UPPER qTO LOWER LEFT,DIAGONAL UPPER kTO LOWER RIGHT,DIAGONAL CROSS,LEFT,UP,RIGHT,DOWN;",
  "2578,BOX DRAWINGS ,HEAVY LEFT,HEAVY UP,HEAVY RIGHT,HEAVY DOWN,LIGHT kbHEAVY RIGHT,",
  "LIGHT UP bHEAVY DOWN,HEAVY kbLIGHT RIGHT,HEAVY UP bLIGHT DOWN;2580,,UPPER HALF BLOCK;",
  "2581,LOWER ,ONE EIGHTH BLOCK,ONE QUARTER BLOCK,THREE EIGHTHS BLOCK,HALF BLOCK,",
  "FIVE EIGHTHS BLOCK,THREE QUARTERS BLOCK,SEVEN EIGHTHS BLOCK;2588,,FULL BLOCK,",
  "kSEVEN EIGHTHS BLOCK,kTHREE QUARTERS BLOCK,kFIVE EIGHTHS BLOCK,kHALF BLOCK,",
  "kTHREE EIGHTHS BLOCK,kONE QUARTER BLOCK,kONE EIGHTH BLOCK,qHALF BLOCK,LIGHT SHADE,MEDIUM SHADE,",
  "DARK SHADE,UPPER ONE EIGHTH BLOCK,qONE EIGHTH BLOCK;2596,QUADRANT LOWER ,LEFT,RIGHT;",
  "2598,QUADRANT UPPER ,LEFT,kbLOWER kbLOWER RIGHT,kbLOWER RIGHT,kbUPPER qbLOWER LEFT,",
  "kbUPPER qbLOWER RIGHT,RIGHT,qbLOWER LEFT,qbLOWER kbLOWER RIGHT;25A0,,eSQUARE,ySQUARE,",
  "ySQUARE zROUNDED CORNERS,ySQUARE CONTAINING etSQUARE;25A4,SQUARE z,HORIZONTAL FILL,wFILL,",
  "ORTHOGONAL CROSSHATCH FILL,UPPER kTO LOWER qFILL,UPPER qTO LOWER kFILL,",
  "DIAGONAL CROSSHATCH FILL;25AA,,etSQUARE,ytSQUARE,eRECTANGLE,yRECTANGLE,ewRECTANGLE,ywRECTANGLE,",
  "ePARALLELOGRAM,yPARALLELOGRAM,eUP-pTRIANGLE,yUP-pTRIANGLE,eUP-ptTRIANGLE,yUP-ptTRIANGLE,",
  "eRIGHT-pTRIANGLE,yRIGHT-pTRIANGLE,eRIGHT-ptTRIANGLE,yRIGHT-ptTRIANGLE,eRIGHT-pPOINTER,",
  "yRIGHT-pPOINTER,eDOWN-pTRIANGLE,yDOWN-pTRIANGLE,eDOWN-ptTRIANGLE,yDOWN-ptTRIANGLE,",
  "eLEFT-pTRIANGLE,yLEFT-pTRIANGLE,eLEFT-ptTRIANGLE,yLEFT-ptTRIANGLE,eLEFT-pPOINTER,",
  "yLEFT-pPOINTER,eDIAMOND,yDIAMOND,yDIAMOND CONTAINING etDIAMOND,FISHEYE,LOZENGE,yCIRCLE,",
  "DOTTED CIRCLE,CIRCLE zwFILL,BULLSEYE,eCIRCLE;25D0,CIRCLE z,kHALF BLACK,qHALF BLACK,",
  "LOWER HALF BLACK,UPPER HALF BLACK,UPPER qQUADRANT BLACK,ALL BUT UPPER kQUADRANT BLACK;",
  "25D6,,kHALF eCIRCLE,qHALF eCIRCLE,INVERSE BULLET,INVERSE yCIRCLE,UPPER HALF INVERSE yCIRCLE,",
  "LOWER HALF INVERSE yCIRCLE,UPPER kQUADRANT CIRCULAR ARC,UPPER qQUADRANT CIRCULAR ARC,",
  "LOWER qQUADRANT CIRCULAR ARC,LOWER kQUADRANT CIRCULAR ARC,UPPER HALF CIRCLE,LOWER HALF CIRCLE,",
  "eLOWER qTRIANGLE,eLOWER kTRIANGLE,eUPPER kTRIANGLE,eUPPER qTRIANGLE,yBULLET;",
  "25E7,SQUARE z,kHALF BLACK,qHALF BLACK,UPPER kDIAGONAL HALF BLACK,LOWER qDIAGONAL HALF BLACK;",
  "25EB,,ySQUARE zwBISECTING LINE,yUP-pTRIANGLE zDOT,UP-pTRIANGLE zkHALF BLACK,",
  "UP-pTRIANGLE zqHALF BLACK,LARGE CIRCLE;25F0,ySQUARE z,UPPER kQUADRANT,LOWER kQUADRANT,",
  "LOWER qQUADRANT,UPPER qQUADRANT;25F4,yCIRCLE z,UPPER kQUADRANT,LOWER kQUADRANT,LOWER qQUADRANT,",
  "UPPER qQUADRANT;25F8,,UPPER kTRIANGLE,UPPER qTRIANGLE,LOWER kTRIANGLE,yMEDIUM SQUARE,",
  "eMEDIUM SQUARE,yMEDIUM tSQUARE,eMEDIUM tSQUARE,LOWER qTRIANGLE,eSUN zRAYS,CLOUD,UMBRELLA,",
  "SNOWMAN,COMET,eSTAR,ySTAR,LIGHTNING,THUNDERSTORM,SUN,ASCENDING NODE,DESCENDING NODE,",
  "CONJUNCTION,OPPOSITION,eTELEPHONE,yTELEPHONE,BALLOT BOX,BALLOT BOX zCHECK,BALLOT BOX zX,",
  "SALTIRE,UMBRELLA zRAIN DROPS,HOT BEVERAGE,ySHOGI PIECE,eSHOGI PIECE,SHAMROCK,",
  "REVERSED ROTATED FLORAL HEART BULLET,ekpINDEX,eqpINDEX,ykpINDEX,yUP pINDEX,yqpINDEX,",
  "yDOWN pINDEX,SKULL bCROSSBONES,CAUTION SIGN,RADIOACTIVE SIGN,BIOHAZARD SIGN,CADUCEUS,ANKH,",
  "ORTHODOX CROSS,CHI RHO,CROSS OF LORRAINE,CROSS OF JERUSALEM,STAR bCRESCENT,FARSI SYMBOL,",
  "ADI SHAKTI,HAMMER bSICKLE,PEACE SYMBOL,YIN YANG;2630,TRIGRAM FOR ,HEAVEN,LAKE,FIRE,THUNDER,",
  "WIND,WATER,MOUNTAIN,EARTH;2638,,WHEEL OF DHARMA,yFROWNING FACE,ySMILING FACE,eSMILING FACE,",
  "ySUN zRAYS,FIRST QUARTER MOON,LAST QUARTER MOON,MERCURY,FEMALE SIGN,EARTH,MALE SIGN,JUPITER,",
  "SATURN,URANUS,NEPTUNE,PLUTO,ARIES,TAURUS,GEMINI,CANCER,LEO,VIRGO,LIBRA,SCORPIUS,SAGITTARIUS,",
  "CAPRICORN,AQUARIUS,PISCES;2654,yCHESS ,KING,QUEEN,ROOK,BISHOP,KNIGHT,PAWN;265A,eCHESS ,KING,",
  "QUEEN,ROOK,BISHOP,KNIGHT,PAWN;2660,,eSPADE SUIT,yHEART SUIT,yDIAMOND SUIT,eCLUB SUIT,",
  "ySPADE SUIT,eHEART SUIT,eDIAMOND SUIT,yCLUB SUIT,HOT SPRINGS,QUARTER NOTE,EIGHTH NOTE,",
  "BEAMED EIGHTH NOTES,BEAMED SIXTEENTH NOTES,MUSIC FLAT SIGN,MUSIC NATURAL SIGN,MUSIC SHARP SIGN,",
  "WEST SYRIAC CROSS,EAST SYRIAC CROSS,UNIVERSAL RECYCLING SYMBOL;",
  "2673,RECYCLING SYMBOL FOR TYPE-,1 PLASTICS,2 PLASTICS,3 PLASTICS,4 PLASTICS,5 PLASTICS,",
  "6 PLASTICS,7 PLASTICS;267A,,RECYCLING SYMBOL FOR GENERIC MATERIALS,eUNIVERSAL RECYCLING SYMBOL,",
  "RECYCLED PAPER SYMBOL,PARTIALLY-RECYCLED PAPER SYMBOL,PERMANENT PAPER SIGN,WHEELCHAIR SYMBOL;",
  "2680,DIE FACE-,1,2,3,4,5,6;2686,yCIRCLE z,DOT RIGHT,TWO DOTS;2688,eCIRCLE z,yDOT RIGHT,",
  "TWO yDOTS;268A,MONOGRAM FOR ,YANG,YIN;268C,DIGRAM FOR ,GREATER YANG,LESSER YIN,LESSER YANG,",
  "GREATER YIN;2690,,yFLAG,eFLAG,HAMMER bPICK,ANCHOR,CROSSED SWORDS,STAFF OF AESCULAPIUS,SCALES,",
  "ALEMBIC,FLOWER,GEAR,STAFF OF HERMES,ATOM SYMBOL,FLEUR-DE-LIS,OUTLINED ySTAR;",
  "269E,THREE LINES CONVERGING ,RIGHT,LEFT;26A0,,WARNING SIGN,HIGH VOLTAGE SIGN,",
  "DOUBLED FEMALE SIGN,DOUBLED MALE SIGN,INTERLOCKED FEMALE bMALE SIGN,MALE bFEMALE SIGN,",
  "MALE zSTROKE SIGN,MALE zSTROKE bMALE bFEMALE SIGN,wMALE zSTROKE SIGN,",
  "HORIZONTAL MALE zSTROKE SIGN;26AA,MEDIUM ,yCIRCLE,eCIRCLE,tyCIRCLE;26AD,,MARRIAGE SYMBOL,",
  "DIVORCE SYMBOL,UNMARRIED PARTNERSHIP SYMBOL,COFFIN,FUNERAL URN,NEUTER,CERES,PALLAS,JUNO,VESTA,",
  "CHIRON,eMOON LILITH,SEXTILE,SEMISEXTILE,QUINCUNX,SESQUIQUADRATE,SOCCER BALL,BASEBALL,",
  "SQUARED KEY,yDRAUGHTS MAN,yDRAUGHTS KING,eDRAUGHTS MAN,eDRAUGHTS KING,SNOWMAN WITHOUT SNOW,",
  "SUN BEHIND CLOUD,RAIN,eSNOWMAN,THUNDER CLOUD bRAIN,TURNED ySHOGI PIECE,TURNED eSHOGI PIECE,",
  "yDIAMOND IN SQUARE,CROSSING LANES,DISABLED CAR,OPHIUCHUS,PICK,CAR SLIDING,HELMET zyCROSS,",
  "CIRCLED CROSSING LANES,CHAINS,NO ENTRY,ALTERNATE ONE-WAY kWAY TRAFFIC,eTWO-WAY kWAY TRAFFIC,",
  "yTWO-WAY kWAY TRAFFIC,ekLANE MERGE,ykLANE MERGE,DRIVE SLOW SIGN,HEAVY yDOWN-pTRIANGLE,",
  "kCLOSED ENTRY,SQUARED SALTIRE,FALLING DIAGONAL IN yCIRCLE IN eSQUARE,eTRUCK;",
  "26E0,RESTRICTED kENTRY-,1,2;26E2,,ASTRONOMICAL SYMBOL FOR URANUS,",
  "HEAVY CIRCLE zSTROKE bTWO DOTS a,PENTAGRAM,RIGHT-HANDED INTERLACED PENTAGRAM,",
  "LEFT-HANDED INTERLACED PENTAGRAM,INVERTED PENTAGRAM,eCROSS ON SHIELD,SHINTO SHRINE,CHURCH,",
  "CASTLE,HISTORIC SITE,GEAR WITHOUT HUB,GEAR zHANDLES,MAP SYMBOL FOR LIGHTHOUSE,MOUNTAIN,",
  "UMBRELLA ON GROUND,FOUNTAIN,FLAG IN HOLE,FERRY,SAILBOAT,SQUARE FOUR CORNERS,SKIER,ICE SKATE,",
  "PERSON zBALL,TENT,JAPANESE BANK SYMBOL,HEADSTONE GRAVEYARD SYMBOL,FUEL PUMP,CUP ON eSQUARE,",
  "yFLAG zHORIZONTAL oeSTRIPE,eSAFETY SCISSORS,UPPER BLADE SCISSORS,eSCISSORS,",
  "LOWER BLADE SCISSORS,ySCISSORS,yHEAVY CHECK MARK,TELEPHONE LOCATION SIGN,TAPE DRIVE,AIRPLANE,",
  "ENVELOPE,RAISED FIST,RAISED HAND,VICTORY HAND,WRITING HAND,LOWER qPENCIL,PENCIL,UPPER qPENCIL,",
  "yNIB,eNIB,CHECK MARK,HEAVY CHECK MARK,MULTIPLICATION X,HEAVY MULTIPLICATION X,BALLOT X,",
  "HEAVY BALLOT X,OUTLINED GREEK CROSS,HEAVY GREEK CROSS,OPEN CENTRE CROSS;",
  "271C,,HEAVY OPEN CENTRE CROSS,LATIN CROSS,SHADOWED yLATIN CROSS,OUTLINED LATIN CROSS,",
  "MALTESE CROSS,STAR OF DAVID,FOUR TEARDROP-SPOKED ASTERISK,FOUR BALLOON-SPOKED ASTERISK,",
  "HEAVY FOUR BALLOON-SPOKED ASTERISK,FOUR CLUB-SPOKED ASTERISK,eFOUR POINTED STAR,",
  "yFOUR POINTED STAR,SPARKLES,STRESS OUTLINED ySTAR,CIRCLED ySTAR,OPEN CENTRE eSTAR,",
  "eCENTRE ySTAR,OUTLINED eSTAR,HEAVY OUTLINED eSTAR,PINWHEEL STAR,SHADOWED ySTAR,HEAVY ASTERISK,",
  "OPEN CENTRE ASTERISK,EIGHT SPOKED ASTERISK,EIGHT POINTED eSTAR,EIGHT POINTED PINWHEEL STAR,",
  "SIX POINTED eSTAR,EIGHT POINTED RECTILINEAR eSTAR,HEAVY EIGHT POINTED RECTILINEAR eSTAR,",
  "TWELVE POINTED eSTAR,SIXTEEN POINTED ASTERISK,TEARDROP-SPOKED ASTERISK,",
  "OPEN CENTRE TEARDROP-SPOKED ASTERISK,HEAVY TEARDROP-SPOKED ASTERISK,SIX PETALLED ebyFLORETTE,",
  "eFLORETTE,yFLORETTE,EIGHT PETALLED OUTLINED eFLORETTE,CIRCLED OPEN CENTRE EIGHT POINTED STAR,",
  "HEAVY TEARDROP-SPOKED PINWHEEL ASTERISK,SNOWFLAKE,TIGHT TRIFOLIATE SNOWFLAKE,",
  "HEAVY CHEVRON SNOWFLAKE,SPARKLE,HEAVY SPARKLE,BALLOON-SPOKED ASTERISK,",
  "EIGHT TEARDROP-SPOKED PROPELLER ASTERISK,HEAVY EIGHT TEARDROP-SPOKED PROPELLER ASTERISK,",
  "CROSS MARK,SHADOWED yCIRCLE,NEGATIVE SQUARED CROSS MARK,LOWER qDROP-SHADOWED ySQUARE,",
  "UPPER qDROP-SHADOWED ySQUARE,LOWER qSHADOWED ySQUARE,UPPER qSHADOWED ySQUARE,",
  "eQUESTION MARK ORNAMENT,yQUESTION MARK ORNAMENT,yEXCLAMATION MARK ORNAMENT,eDIAMOND MINUS yX,",
  "HEAVY EXCLAMATION MARK SYMBOL,LIGHT wBAR,MEDIUM wBAR;275A,HEAVY ,wBAR,",
  "SINGLE TURNED COMMA QUOTATION MARK ORNAMENT,SINGLE COMMA QUOTATION MARK ORNAMENT,",
  "gTURNED COMMA QUOTATION MARK ORNAMENT,gCOMMA QUOTATION MARK ORNAMENT,",
  "LOW SINGLE COMMA QUOTATION MARK ORNAMENT,LOW gCOMMA QUOTATION MARK ORNAMENT;",
  "2761,,CURVED STEM PARAGRAPH sORNAMENT,HEAVY EXCLAMATION MARK ORNAMENT,",
  "HEAVY HEART EXCLAMATION MARK ORNAMENT,HEAVY eHEART,ROTATED HEAVY eHEART BULLET,FLORAL HEART,",
  "ROTATED FLORAL HEART BULLET;2768,MEDIUM ,kPARENTHESIS ORNAMENT,qPARENTHESIS ORNAMENT,",
  "FLATTENED kPARENTHESIS ORNAMENT,FLATTENED qPARENTHESIS ORNAMENT,LEFT-pANGLE BRACKET ORNAMENT,",
  "RIGHT-pANGLE BRACKET ORNAMENT;276E,HEAVY ,LEFT-pANGLE QUOTATION MARK ORNAMENT,",
  "RIGHT-pANGLE QUOTATION MARK ORNAMENT,LEFT-pANGLE BRACKET ORNAMENT,",
  "RIGHT-pANGLE BRACKET ORNAMENT;2772,LIGHT ,kTORTOISE SHELL BRACKET ORNAMENT,",
  "qTORTOISE SHELL BRACKET ORNAMENT;2774,MEDIUM ,kCURLY BRACKET ORNAMENT,qCURLY BRACKET ORNAMENT;",
  "2776,DINGBAT NEGATIVE CIRCLED DIGIT ,ONE,TWO,THREE,FOUR,FIVE,SIX,SEVEN,EIGHT,NINE;",
  "277F,,DINGBAT NEGATIVE CIRCLED NUMBER TEN;2780,DINGBAT CIRCLED SANS-SERIF DIGIT ,ONE,TWO,THREE,",
  "FOUR,FIVE,SIX,SEVEN,EIGHT,NINE;2789,,DINGBAT CIRCLED SANS-SERIF NUMBER TEN;",
  "278A,DINGBAT NEGATIVE CIRCLED SANS-SERIF DIGIT ,ONE,TWO,THREE,FOUR,FIVE,SIX,SEVEN,EIGHT,NINE;",
  "2793,,DINGBAT NEGATIVE CIRCLED SANS-SERIF NUMBER TEN;2794,HEAVY ,WIDE-HEADED rc,PLUS SIGN,",
  "MINUS SIGN,DIVISION SIGN,SOUTH EAST c,rc,NORTH EAST c;279B,,DRAFTING POINT rc,",
  "HEAVY ROUND-TIPPED rc,vrc,HEAVY vrc,DASHED vrc,HEAVY DASHED vrc,erc,THREE-D TOP-LIGHTED rcHEAD,",
  "THREE-D BOTTOM-LIGHTED rcHEAD,ercHEAD,HEAVY eCURVED DOWNWARDS brc,HEAVY eCURVED UPWARDS brc,",
  "SQUAT erc,HEAVY CONCAVE-POINTED erc,RIGHT-SHADED yrc,LEFT-SHADED yrc,BACK-TILTED SHADOWED yrc,",
  "FRONT-TILTED SHADOWED yrc,HEAVY LOWER RIGHT-SHADOWED yrc,HEAVY UPPER RIGHT-SHADOWED yrc,",
  "NOTCHED LOWER RIGHT-SHADOWED yrc,CURLY LOOP,NOTCHED UPPER RIGHT-SHADOWED yrc,CIRCLED HEAVY yrc,",
  "WHITE-FEATHERED rc;27B4,BLACK-FEATHERED ,SOUTH EAST c,rc,NORTH EAST c;",
  "27B7,HEAVY BLACK-FEATHERED ,SOUTH EAST c,rc,NORTH EAST c;27BA,,TEARDROP-BARBED rc,",
  "HEAVY TEARDROP-SHANKED rc,WEDGE-TAILED rc,HEAVY WEDGE-TAILED rc,OPEN-OUTLINED rc,gCURLY LOOP,",
  "THREE DIMENSIONAL ANGLE,yTRIANGLE CONTAINING tyTRIANGLE,PERPENDICULAR,OPEN SUBSET,",
  "OPEN SUPERSET,kS-SHAPED BAG DELIMITER,qS-SHAPED BAG DELIMITER,OR zDOT INSIDE,",
  "REVERSE SOLIDUS PRECEDING SUBSET,SUPERSET PRECEDING SOLIDUS,wBAR zHORIZONTAL STROKE,",
  "nRISING DIAGONAL,LONG DIVISION,nFALLING DIAGONAL,SQUARED LOGICAL AND,SQUARED LOGICAL OR,",
  "yDIAMOND zCENTRED DOT,bzDOT,ELEMENT OF OPENING UPWARDS,LOWER qCORNER zDOT,UPPER kCORNER zDOT,",
  "kOUTER JOIN,qOUTER JOIN,FULL OUTER JOIN,LARGE UP TACK,LARGE DOWN TACK,kbqgTURNSTILE,kbqTACK,",
  "kMULTIMAP,LONG qTACK,LONG kTACK,UP TACK zCIRCLE a,LOZENGE DIVIDED BY HORIZONTAL RULE;",
  "27E1,yCONCAVE-SIDED ,DIAMOND,DIAMOND zlTICK,DIAMOND zrTICK;27E4,ySQUARE z,lTICK,rTICK;",
  "27E6,n,kySQUARE BRACKET,qySQUARE BRACKET,kANGLE BRACKET,qANGLE BRACKET,kgANGLE BRACKET,",
  "qgANGLE BRACKET,kyTORTOISE SHELL BRACKET,qyTORTOISE SHELL BRACKET,kFLATTENED PARENTHESIS,",
  "qFLATTENED PARENTHESIS;27F0,,UPWARDS QUADRUPLE c,DOWNWARDS QUADRUPLE c,",
  "ANTICLOCKWISE GAPPED CIRCLE c,CLOCKWISE GAPPED CIRCLE c,qc zCIRCLED PLUS;27F5,LONG ,lc,rc,kqc,",
  "lgc,rgc,kqgc,lc FROM BAR,rc FROM BAR,lgc FROM BAR,rgc FROM BAR,rSQUIGGLE c;",
  "2800,,BRAILLE PATTERN BLANK;2801,BRAILLE PATTERN DOTS-,1,2,12,3,13,23,123,4,14,24,124,34,134,",
  "234,1234,5,15,25,125,35,135,235,1235,45,145,245,1245,345,1345,2345,12345,6,16,26,126,36,136,",
  "236,1236,46,146,246,1246,346,1346,2346,12346,56,156,256,1256,356,1356,2356,12356,456,1456,2456,",
  "12456,3456,13456,23456,123456,7,17,27,127,37,137,237,1237,47,147,247,1247,347,1347,2347,12347,",
  "57,157,257,1257,357,1357,2357,12357,457,1457,2457,12457,3457,13457,23457,123457,67,167,267,",
  "1267,367,1367,2367,12367,467,1467,2467,12467,3467,13467,23467,123467,567,1567,2567,12567,3567,",
  "13567,23567,123567,4567,14567,24567,124567,34567,134567,234567,1234567,8,18,28,128,38,138,238,",
  "1238,48,148,248,1248,348,1348,2348,12348,58,158,258,1258,358,1358,2358,12358,458,1458,2458,",
  "12458,3458,13458,23458,123458,68,168,268,1268,368,1368,2368,12368,468,1468,2468,12468,3468,",
  "13468,23468,123468,568,1568,2568,12568,3568,13568,23568,123568,4568,14568,24568,124568,34568,",
  "134568,234568,1234568,78,178,278,1278,378,1378,2378,12378,478,1478,2478,12478,3478,13478,23478,",
  "123478,578,1578,2578,12578,3578,13578,23578,123578,4578,14578,24578,124578,34578,134578,234578,",
  "1234578,678,1678,2678,12678,3678,13678,23678,123678,4678,14678,24678,124678,34678,134678,",
  "234678,1234678,5678,15678,25678,125678,35678,135678,235678,1235678,45678,145678,245678,1245678,",
  "345678,1345678,2345678,12345678;2900,rTWO-HEADED c z,wSTROKE,gwSTROKE;2902,,lgc zwSTROKE,",
  "rgc zwSTROKE,kqgc zwSTROKE,rTWO-HEADED c FROM BAR,lgc FROM BAR,rgc FROM BAR,",
  "DOWNWARDS c zHORIZONTAL STROKE,UPWARDS c zHORIZONTAL STROKE,UPWARDS TRIPLE c,",
  "DOWNWARDS TRIPLE c,lgDASH c,rgDASH c,lTRIPLE DASH c,rTRIPLE DASH c,rTWO-HEADED TRIPLE DASH c,",
  "rc zDOTTED STEM,UPWARDS c TO BAR,DOWNWARDS c TO BAR;2914,rc zTAIL z,wSTROKE,gwSTROKE;",
  "2916,rTWO-HEADED c z,TAIL,TAIL zwSTROKE,TAIL zgwSTROKE;2919,,lc-TAIL,rc-TAIL,lgc-TAIL,rgc-TAIL,",
  "lc TO eDIAMOND,rc TO eDIAMOND,lc FROM BAR TO eDIAMOND,rc FROM BAR TO eDIAMOND;",
  "2921,NORTH ,WEST bSOUTH EAST c,EAST bSOUTH WEST c,WEST c zHOOK,EAST c zHOOK;",
  "2925,,SOUTH EAST c zHOOK,SOUTH WEST c zHOOK,NORTH WEST c bNORTH EAST c,",
  "NORTH EAST c bSOUTH EAST c,SOUTH EAST c bSOUTH WEST c,SOUTH WEST c bNORTH WEST c,",
  "RISING DIAGONAL CROSSING FALLING DIAGONAL,FALLING DIAGONAL CROSSING RISING DIAGONAL,",
  "SOUTH EAST c CROSSING NORTH EAST c,NORTH EAST c CROSSING SOUTH EAST c,",
  "FALLING DIAGONAL CROSSING NORTH EAST c,RISING DIAGONAL CROSSING SOUTH EAST c,",
  "NORTH EAST c CROSSING NORTH WEST c,NORTH WEST c CROSSING NORTH EAST c,WAVE c pDIRECTLY RIGHT;",
  "2934,c prTHEN CURVING ,UPWARDS,DOWNWARDS;2936,c pDOWNWARDS THEN CURVING ,LEFTWARDS,RIGHTWARDS;",
  "2938,,RIGHT-SIDE ARC CLOCKWISE c,LEFT-SIDE ARC ANTICLOCKWISE c,TOP ARC ANTICLOCKWISE c,",
  "BOTTOM ARC ANTICLOCKWISE c,TOP ARC CLOCKWISE c zMINUS,TOP ARC ANTICLOCKWISE c zPLUS,",
  "LOWER qSEMICIRCULAR CLOCKWISE c,LOWER kSEMICIRCULAR ANTICLOCKWISE c,",
  "ANTICLOCKWISE CLOSED CIRCLE c,CLOCKWISE CLOSED CIRCLE c,rc a SHORT lc,lc a SHORT rc,",
  "SHORT rc a lc,rc zPLUS d,lc zPLUS d,rc THROUGH X,kqc THROUGH tCIRCLE,",
  "UPWARDS TWO-HEADED c FROM tCIRCLE,kBARB UP qBARB DOWN HARPOON,kBARB DOWN qBARB UP HARPOON,",
  "UP BARB qDOWN BARB kHARPOON,UP BARB kDOWN BARB qHARPOON,kBARB UP qBARB UP HARPOON,",
  "UP BARB qDOWN BARB qHARPOON,kBARB DOWN qBARB DOWN HARPOON,UP BARB kDOWN BARB kHARPOON,",
  "lHARPOON zBARB UP TO BAR,rHARPOON zBARB UP TO BAR,UPWARDS HARPOON zBARB qTO BAR,",
  "DOWNWARDS HARPOON zBARB qTO BAR,lHARPOON zBARB DOWN TO BAR,rHARPOON zBARB DOWN TO BAR,",
  "UPWARDS HARPOON zBARB kTO BAR,DOWNWARDS HARPOON zBARB kTO BAR,lHARPOON zBARB UP FROM BAR,",
  "rHARPOON zBARB UP FROM BAR,UPWARDS HARPOON zBARB qFROM BAR,DOWNWARDS HARPOON zBARB qFROM BAR,",
  "lHARPOON zBARB DOWN FROM BAR,rHARPOON zBARB DOWN FROM BAR,UPWARDS HARPOON zBARB kFROM BAR,",
  "DOWNWARDS HARPOON zBARB kFROM BAR,lHARPOON zBARB UP a lHARPOON zBARB DOWN,",
  "UPWARDS HARPOON zBARB kBESIDE UPWARDS HARPOON zBARB RIGHT,",
  "rHARPOON zBARB UP a rHARPOON zBARB DOWN,",
  "DOWNWARDS HARPOON zBARB kBESIDE DOWNWARDS HARPOON zBARB RIGHT;",
  "2966,lHARPOON zBARB ,UP a rHARPOON zBARB UP,DOWN a rHARPOON zBARB DOWN;",
  "2968,rHARPOON zBARB ,UP a lHARPOON zBARB UP,DOWN a lHARPOON zBARB DOWN;",
  "296A,lHARPOON zBARB ,UP a LONG DASH,DOWN d LONG DASH;296C,rHARPOON zBARB ,UP a LONG DASH,",
  "DOWN d LONG DASH;296E,,UPWARDS HARPOON zBARB kBESIDE DOWNWARDS HARPOON zBARB RIGHT,",
  "DOWNWARDS HARPOON zBARB kBESIDE UPWARDS HARPOON zBARB RIGHT,qgc zROUNDED HEAD,EQUALS sa rc,",
  "TILDE OPERATOR a rc,lc a TILDE OPERATOR,rc a TILDE OPERATOR,rc a ALMOST EQUAL TO,",
  "LESS-THAN a lc,lc THROUGH LESS-THAN,GREATER-THAN a rc,SUBSET a rc,lc THROUGH SUBSET,",
  "SUPERSET a lc,kFISH TAIL,qFISH TAIL,UP FISH TAIL,DOWN FISH TAIL,TRIPLE wBAR DELIMITER,",
  "Z NOTATION SPOT,Z NOTATION TYPE COLON,kyCURLY BRACKET,qyCURLY BRACKET,kyPARENTHESIS,",
  "qyPARENTHESIS;2987,Z NOTATION ,kIMAGE BRACKET,qIMAGE BRACKET,kBINDING BRACKET,qBINDING BRACKET;",
  "298B,,kSQUARE BRACKET zUNDERBAR,qSQUARE BRACKET zUNDERBAR,kSQUARE BRACKET zTICK IN TOP CORNER,",
  "qSQUARE BRACKET zTICK IN BOTTOM CORNER,kSQUARE BRACKET zTICK IN BOTTOM CORNER,",
  "qSQUARE BRACKET zTICK IN TOP CORNER,kANGLE BRACKET zDOT,qANGLE BRACKET zDOT,",
  "kARC LESS-THAN BRACKET,qARC GREATER-THAN BRACKET,gkARC GREATER-THAN BRACKET,",
  "gqARC LESS-THAN BRACKET,keTORTOISE SHELL BRACKET,qeTORTOISE SHELL BRACKET,DOTTED FENCE,",
  "wZIGZAG LINE,MEASURED ANGLE OPENING LEFT,qANGLE VARIANT zSQUARE,MEASURED qANGLE zDOT,",
  "ANGLE zS INSIDE,ACUTE ANGLE;29A0,SPHERICAL ANGLE OPENING ,LEFT,UP;29A2,,TURNED ANGLE,",
  "REVERSED ANGLE,ANGLE zUNDERBAR,REVERSED ANGLE zUNDERBAR;29A6,OBLIQUE ANGLE OPENING ,UP,DOWN;",
  "29A8,MEASURED ANGLE zOPEN ARM ENDING IN c p,UP bRIGHT,UP bLEFT,DOWN bRIGHT,DOWN bLEFT,qbUP,",
  "kbUP,qbDOWN,kbDOWN;29B0,,REVERSED EMPTY SET;29B1,EMPTY SET z,OVERBAR,tCIRCLE a,qc a,kc a;",
  "29B5,,CIRCLE zHORIZONTAL BAR;29B6,CIRCLED ,wBAR,PARALLEL,REVERSE SOLIDUS,PERPENDICULAR;",
  "29BA,,CIRCLE DIVIDED BY HORIZONTAL BAR bTOP HALF DIVIDED BY wBAR,CIRCLE zSUPERIMPOSED X,",
  "CIRCLED ANTICLOCKWISE-ROTATED DIVISION SIGN,UP c THROUGH CIRCLE;29BE,CIRCLED ,yBULLET,BULLET,",
  "LESS-THAN,GREATER-THAN;29C2,CIRCLE z,tCIRCLE TO THE RIGHT,TWO HORIZONTAL STROKES TO THE RIGHT;",
  "29C4,SQUARED ,RISING DIAGONAL SLASH,FALLING DIAGONAL SLASH,ASTERISK,tCIRCLE,SQUARE;",
  "29C9,,TWO JOINED SQUARES,TRIANGLE zDOT a,TRIANGLE zUNDERBAR,S IN TRIANGLE,",
  "TRIANGLE zSERIFS AT BOTTOM,qTRIANGLE a kTRIANGLE,kTRIANGLE BESIDE wBAR,wBAR BESIDE qTRIANGLE,",
  "BOWTIE zkHALF BLACK,BOWTIE zqHALF BLACK,eBOWTIE,uzkHALF BLACK,uzqHALF BLACK,yHOURGLASS,",
  "eHOURGLASS,kWIGGLY FENCE,qWIGGLY FENCE,kgWIGGLY FENCE,qgWIGGLY FENCE,INCOMPLETE INFINITY,",
  "TIE OVER INFINITY,INFINITY NEGATED zwBAR,DOUBLE-ENDED MULTIMAP,SQUARE zCONTOURED OUTLINE,",
  "INCREASES AS,SHUFFLE PRODUCT;29E3,EQUALS sbSLANTED ,PARALLEL,PARALLEL zTILDE a;",
  "29E5,,IDENTICAL TO bSLANTED PARALLEL,GLEICH STARK,THERMODYNAMIC,DOWN-pTRIANGLE zkHALF BLACK,",
  "DOWN-pTRIANGLE zqHALF BLACK,eDIAMOND zDOWN c,eLOZENGE,yCIRCLE zDOWN c,eCIRCLE zDOWN c;",
  "29EE,ERROR-BARRED ,ySQUARE,eSQUARE,yDIAMOND,eDIAMOND,yCIRCLE,eCIRCLE;29F4,,RULE-DELAYED,",
  "REVERSE SOLIDUS OPERATOR,SOLIDUS zOVERBAR,REVERSE SOLIDUS zHORIZONTAL STROKE,BIG SOLIDUS,",
  "BIG REVERSE SOLIDUS,gPLUS,TRIPLE PLUS,LEFT-pCURVED ANGLE BRACKET,RIGHT-pCURVED ANGLE BRACKET,",
  "TINY,MINY;2A00,N-ARY CIRCLED ,DOT OPERATOR,PLUS OPERATOR,uOPERATOR;",
  "2A03,N-ARY UNION OPERATOR z,DOT,PLUS;2A05,N-ARY SQUARE ,INTERSECTION OPERATOR,UNION OPERATOR;",
  "2A07,TWO LOGICAL ,bOPERATOR,OR OPERATOR;2A09,,N-ARY uOPERATOR,MODULO TWO SUM,",
  "SUMMATION zINTEGRAL,QUADRUPLE INTEGRAL OPERATOR,FINITE PART INTEGRAL,INTEGRAL zgSTROKE,",
  "INTEGRAL AVERAGE zSLASH,CIRCULATION FUNCTION,ANTICLOCKWISE INTEGRATION;",
  "2A12,LINE INTEGRATION ,zRECTANGULAR PATH AROUND POLE,zSEMICIRCULAR PATH AROUND POLE,",
  "NOT INCLUDING THE POLE;2A15,,INTEGRAL AROUND A POINT OPERATOR,QUATERNION INTEGRAL OPERATOR;",
  "2A17,INTEGRAL z,lc zHOOK,uSIGN,INTERSECTION,UNION,OVERBAR,UNDERBAR;2A1D,,JOIN,",
  "LARGE kTRIANGLE OPERATOR;2A1F,Z NOTATION SCHEMA ,COMPOSITION,PIPING,PROJECTION;",
  "2A22,PLUS sz,tCIRCLE a,CIRCUMFLEX ACCENT a,TILDE a,DOT d,TILDE d,SUBSCRIPT TWO,eTRIANGLE;",
  "2A29,MINUS sz,COMMA a,DOT d,FALLING DOTS,RISING DOTS;2A2D,PLUS sIN ,kHALF CIRCLE,qHALF CIRCLE;",
  "2A2F,,VECTOR OR CROSS PRODUCT;2A30,MULTIPLICATION sz,DOT a,UNDERBAR;",
  "2A32,,SEMIDIRECT PRODUCT zBOTTOM CLOSED,SMASH PRODUCT;2A34,MULTIPLICATION sIN ,kHALF CIRCLE,",
  "qHALF CIRCLE;2A36,,CIRCLED MULTIPLICATION szCIRCUMFLEX ACCENT,MULTIPLICATION sIN gCIRCLE,",
  "CIRCLED DIVISION SIGN,PLUS sIN TRIANGLE,MINUS sIN TRIANGLE,MULTIPLICATION sIN TRIANGLE,",
  "INTERIOR PRODUCT,RIGHTHAND INTERIOR PRODUCT,Z NOTATION RELATIONAL COMPOSITION,",
  "AMALGAMATION OR COPRODUCT,INTERSECTION zDOT,UNION zMINUS SIGN,UNION zOVERBAR,",
  "INTERSECTION zOVERBAR,INTERSECTION zLOGICAL AND,UNION zLOGICAL OR,UNION a INTERSECTION,",
  "INTERSECTION a UNION,UNION a BAR a INTERSECTION,INTERSECTION a BAR a UNION,",
  "UNION BESIDE bJOINED zUNION,INTERSECTION BESIDE bJOINED zINTERSECTION,CLOSED UNION zSERIFS,",
  "CLOSED INTERSECTION zSERIFS,gSQUARE INTERSECTION,gSQUARE UNION,",
  "CLOSED UNION zSERIFS bSMASH PRODUCT,LOGICAL bzDOT a,LOGICAL OR zDOT a;2A53,gLOGICAL ,AND,OR;",
  "2A55,TWO INTERSECTING LOGICAL ,AND,OR;2A57,SLOPING LARGE ,OR,AND;",
  "2A59,LOGICAL ,OR OVERLAPPING LOGICAL AND,bzoSTEM,OR zoSTEM,bzHORIZONTAL DASH,",
  "OR zHORIZONTAL DASH,bzgOVERBAR,bzUNDERBAR,bzgUNDERBAR;2A61,,tVEE zUNDERBAR,",
  "LOGICAL OR zgOVERBAR,LOGICAL OR zgUNDERBAR,Z NOTATION DOMAIN ANTIRESTRICTION,",
  "Z NOTATION RANGE ANTIRESTRICTION,EQUALS szDOT d,IDENTICAL zDOT a;",
  "2A68,TRIPLE HORIZONTAL BAR z,gwSTROKE,TRIPLE wSTROKE;2A6A,TILDE OPERATOR z,DOT a,RISING DOTS;",
  "2A6C,,SIMILAR MINUS SIMILAR,CONGRUENT zDOT a,EQUALS zASTERISK,",
  "ALMOST EQUAL TO zCIRCUMFLEX ACCENT,APPROXIMATELY EQUAL OR EQUAL TO,EQUALS sa PLUS SIGN,",
  "PLUS sa EQUALS SIGN,EQUALS sa TILDE OPERATOR,gCOLON EQUAL,TWO CONSECUTIVE EQUALS SIGNS,",
  "THREE CONSECUTIVE EQUALS SIGNS,EQUALS szTWO DOTS a bTWO DOTS d,EQUIVALENT zFOUR DOTS a,",
  "LESS-THAN zCIRCLE INSIDE,GREATER-THAN zCIRCLE INSIDE,LESS-THAN zQUESTION MARK a,",
  "GREATER-THAN zQUESTION MARK a,LESS-THAN OR SLANTED EQUAL TO,GREATER-THAN OR SLANTED EQUAL TO,",
  "LESS-THAN OR SLANTED EQUAL TO zDOT INSIDE,GREATER-THAN OR SLANTED EQUAL TO zDOT INSIDE,",
  "LESS-THAN OR SLANTED EQUAL TO zDOT a,GREATER-THAN OR SLANTED EQUAL TO zDOT a,",
  "LESS-THAN OR SLANTED EQUAL TO zDOT a RIGHT,GREATER-THAN OR SLANTED EQUAL TO zDOT a LEFT,",
  "LESS-THAN OR APPROXIMATE,GREATER-THAN OR APPROXIMATE,LESS-THAN bSINGLE-LINE NOT EQUAL TO,",
  "GREATER-THAN bSINGLE-LINE NOT EQUAL TO,LESS-THAN bNOT APPROXIMATE,",
  "GREATER-THAN bNOT APPROXIMATE,LESS-THAN a DOUBLE-LINE EQUAL a GREATER-THAN,",
  "GREATER-THAN a DOUBLE-LINE EQUAL a LESS-THAN,LESS-THAN a SIMILAR OR EQUAL,",
  "GREATER-THAN a SIMILAR OR EQUAL,LESS-THAN a SIMILAR a GREATER-THAN,",
  "GREATER-THAN a SIMILAR a LESS-THAN,LESS-THAN a GREATER-THAN a DOUBLE-LINE EQUAL,",
  "GREATER-THAN a LESS-THAN a DOUBLE-LINE EQUAL,",
  "LESS-THAN a SLANTED EQUAL a GREATER-THAN a SLANTED EQUAL,",
  "GREATER-THAN a SLANTED EQUAL a LESS-THAN a SLANTED EQUAL;2A95,SLANTED EQUAL TO OR ,LESS-THAN,",
  "GREATER-THAN,LESS-THAN zDOT INSIDE,GREATER-THAN zDOT INSIDE;",
  "2A99,DOUBLE-LINE EQUAL TO OR ,LESS-THAN,GREATER-THAN;",
  "2A9B,DOUBLE-LINE SLANTED EQUAL TO OR ,LESS-THAN,GREATER-THAN;2A9D,SIMILAR ,OR LESS-THAN,",
  "OR GREATER-THAN,a LESS-THAN a EQUALS SIGN,a GREATER-THAN a EQUALS SIGN;2AA1,gNESTED ,LESS-THAN,",
  "GREATER-THAN,LESS-THAN zUNDERBAR;2AA4,GREATER-THAN ,OVERLAPPING LESS-THAN,BESIDE LESS-THAN;",
  "2AA6,,LESS-THAN CLOSED BY CURVE,GREATER-THAN CLOSED BY CURVE,",
  "LESS-THAN CLOSED BY CURVE a SLANTED EQUAL,GREATER-THAN CLOSED BY CURVE a SLANTED EQUAL,",
  "SMALLER THAN,LARGER THAN,SMALLER THAN OR EQUAL TO,LARGER THAN OR EQUAL TO,EQUALS szBUMPY a,",
  "PRECEDES a SINGLE-LINE EQUALS SIGN,SUCCEEDS a SINGLE-LINE EQUALS SIGN,",
  "PRECEDES a SINGLE-LINE NOT EQUAL TO,SUCCEEDS a SINGLE-LINE NOT EQUAL TO,PRECEDES a EQUALS SIGN,",
  "SUCCEEDS a EQUALS SIGN,PRECEDES a NOT EQUAL TO,SUCCEEDS a NOT EQUAL TO,",
  "PRECEDES a ALMOST EQUAL TO,SUCCEEDS a ALMOST EQUAL TO,PRECEDES a NOT ALMOST EQUAL TO,",
  "SUCCEEDS a NOT ALMOST EQUAL TO,gPRECEDES,gSUCCEEDS,SUBSET zDOT,SUPERSET zDOT,SUBSET zPLUS sd,",
  "SUPERSET zPLUS sd,SUBSET zMULTIPLICATION sd,SUPERSET zMULTIPLICATION sd,",
  "SUBSET OF OR EQUAL TO zDOT a,SUPERSET OF OR EQUAL TO zDOT a,SUBSET OF a EQUALS SIGN,",
  "SUPERSET OF a EQUALS SIGN,SUBSET OF a TILDE OPERATOR,SUPERSET OF a TILDE OPERATOR,",
  "SUBSET OF a ALMOST EQUAL TO,SUPERSET OF a ALMOST EQUAL TO,SUBSET OF a NOT EQUAL TO,",
  "SUPERSET OF a NOT EQUAL TO,SQUARE kOPEN BOX OPERATOR,SQUARE qOPEN BOX OPERATOR;",
  "2ACF,CLOSED ,SUBSET,SUPERSET,SUBSET OR EQUAL TO,SUPERSET OR EQUAL TO;2AD3,,SUBSET a SUPERSET,",
  "SUPERSET a SUBSET,SUBSET a SUBSET;2AD6,SUPERSET ,a SUPERSET,BESIDE SUBSET,",
  "BESIDE bJOINED BY DASH zSUBSET;2AD9,,ELEMENT OF OPENING DOWNWARDS,PITCHFORK zTEE TOP,",
  "TRANSVERSAL INTERSECTION,FORKING,NONFORKING,SHORT kTACK,SHORT DOWN TACK,SHORT UP TACK,",
  "PERPENDICULAR zS,wBAR TRIPLE qTURNSTILE,gwBAR kTURNSTILE,wBAR gkTURNSTILE,gwBAR gkTURNSTILE,",
  "LONG DASH FROM kMEMBER OF gVERTICAL,SHORT DOWN TACK zOVERBAR,SHORT UP TACK zUNDERBAR,",
  "SHORT UP TACK a SHORT DOWN TACK,gDOWN TACK,gUP TACK,gSTROKE NOT SIGN,REVERSED gSTROKE NOT SIGN,",
  "DOES NOT DIVIDE zREVERSED NEGATION SLASH,wLINE zCIRCLE a,wLINE zCIRCLE d,DOWN TACK zCIRCLE d;",
  "2AF2,PARALLEL z,HORIZONTAL STROKE,TILDE OPERATOR;2AF4,TRIPLE ,wBAR BINARY RELATION,",
  "wBAR zHORIZONTAL STROKE,COLON OPERATOR,NESTED LESS-THAN,NESTED GREATER-THAN;",
  "2AF9,DOUBLE-LINE SLANTED ,LESS-THAN OR EQUAL TO,GREATER-THAN OR EQUAL TO;",
  "2AFB,,TRIPLE SOLIDUS BINARY RELATION,LARGE TRIPLE wBAR OPERATOR,gSOLIDUS OPERATOR,ywBAR,",
  "N-ARY ywBAR,NORTH EAST yc,NORTH WEST yc,SOUTH EAST yc,SOUTH WEST yc,kqyc,lec,UPWARDS ec,",
  "DOWNWARDS ec,NORTH EAST ec,NORTH WEST ec,SOUTH EAST ec,SOUTH WEST ec,kqec,UP DOWN ec,",
  "rc zTIP DOWNWARDS,rc zTIP UPWARDS,lc zTIP DOWNWARDS,lc zTIP UPWARDS;",
  "2B12,SQUARE z,TOP HALF BLACK,BOTTOM HALF BLACK,UPPER qDIAGONAL HALF BLACK,",
  "LOWER kDIAGONAL HALF BLACK;2B16,DIAMOND z,kHALF BLACK,qHALF BLACK,TOP HALF BLACK,",
  "BOTTOM HALF BLACK;2B1A,,DOTTED SQUARE,eLARGE SQUARE,yLARGE SQUARE,eVERY tSQUARE,yVERY tSQUARE,",
  "ePENTAGON,yPENTAGON,yHEXAGON,eHEXAGON,HORIZONTAL eHEXAGON,eLARGE CIRCLE,eMEDIUM DIAMOND,",
  "yMEDIUM DIAMOND,eMEDIUM LOZENGE,yMEDIUM LOZENGE,etDIAMOND,etLOZENGE,ytLOZENGE,",
  "eHORIZONTAL ELLIPSE,yHORIZONTAL ELLIPSE,ewELLIPSE,ywELLIPSE,kc ztCIRCLE,THREE lcS,",
  "kc zCIRCLED PLUS,LONG lSQUIGGLE c;2B34,lTWO-HEADED ,c zwSTROKE,c zgwSTROKE,c FROM BAR,",
  "TRIPLE DASH c;2B38,lc z,DOTTED STEM,TAIL zwSTROKE,TAIL zgwSTROKE;2B3B,lTWO-HEADED c z,TAIL,",
  "TAIL zwSTROKE,TAIL zgwSTROKE;2B3E,,lc THROUGH X,WAVE c pDIRECTLY LEFT,EQUALS sa lc,",
  "REVERSE TILDE OPERATOR a lc,lc a REVERSE ALMOST EQUAL TO,rc THROUGH GREATER-THAN,",
  "rc THROUGH SUPERSET,lQUADRUPLE c,rQUADRUPLE c,REVERSE TILDE OPERATOR a rc,",
  "rc a REVERSE ALMOST EQUAL TO,TILDE OPERATOR a lc,lc a ALMOST EQUAL TO,",
  "lc a REVERSE TILDE OPERATOR,rc a REVERSE TILDE OPERATOR,DOWNWARDS vZIGZAG c,",
  "SHORT SLANTED NORTH c,SHORT BACKSLANTED SOUTH c,yMEDIUM STAR,etSTAR,ytSTAR,eRIGHT-pPENTAGON,",
  "yRIGHT-pPENTAGON;2B55,HEAVY ,LARGE CIRCLE,OVAL zOVAL INSIDE,CIRCLE zCIRCLE INSIDE,CIRCLE,",
  "CIRCLED SALTIRE;2B5A,,SLANTED NORTH c zHOOKED HEAD,BACKSLANTED SOUTH c zHOOKED TAIL,",
  "SLANTED NORTH c zHORIZONTAL TAIL,BACKSLANTED SOUTH c zHORIZONTAL TAIL,",
  "BENT c pDOWNWARDS THEN NORTH EAST,SHORT BENT c pDOWNWARDS THEN NORTH EAST,lvc,UPWARDS vc,rvc,",
  "DOWNWARDS vc,kqvc,UP DOWN vc,NORTH WEST vc,NORTH EAST vc,SOUTH EAST vc,SOUTH WEST vc,",
  "lvDASHED c,UPWARDS vDASHED c,rvDASHED c,DOWNWARDS vDASHED c,CLOCKWISE vOPEN CIRCLE c,",
  "ANTICLOCKWISE vOPEN CIRCLE c,lvc TO BAR,UPWARDS vc TO BAR,rvc TO BAR,DOWNWARDS vc TO BAR;",
  "2B76,,NORTH WEST vc TO BAR,NORTH EAST vc TO BAR,SOUTH EAST vc TO BAR,SOUTH WEST vc TO BAR,",
  "lvc zgHORIZONTAL STROKE,UPWARDS vc zgHORIZONTAL STROKE,rvc zgHORIZONTAL STROKE,",
  "DOWNWARDS vc zgHORIZONTAL STROKE,HORIZONTAL TAB KEY,wTAB KEY,lvc OVER rvc,",
  "UPWARDS vc lOF DOWNWARDS vc,rvc OVER lvc,DOWNWARDS vc lOF UPWARDS vc,lvPAIRED cS,",
  "UPWARDS vPAIRED cS,rvPAIRED cS,DOWNWARDS vPAIRED cS,leCIRCLED yc,UPWARDS eCIRCLED yc,",
  "reCIRCLED yc,DOWNWARDS eCIRCLED yc;2B8C,ANTICLOCKWISE v,qU-SHAPED c,BOTTOM U-SHAPED c,",
  "kU-SHAPED c,TOP U-SHAPED c;2B90,,RETURN LEFT,RETURN RIGHT,NEWLINE LEFT,NEWLINE RIGHT,",
  "FOUR CORNER cS CIRCLING ANTICLOCKWISE,rec;2B97,,SYMBOL FOR TYPE A ELECTRONICS;",
  "2B98,THREE-D ,TOP-LIGHTED lEQUILATERAL cHEAD,RIGHT-LIGHTED UPWARDS EQUILATERAL cHEAD,",
  "TOP-LIGHTED rEQUILATERAL cHEAD,LEFT-LIGHTED DOWNWARDS EQUILATERAL cHEAD;",
  "2B9C,e,lEQUILATERAL cHEAD,UPWARDS EQUILATERAL cHEAD,rEQUILATERAL cHEAD,",
  "DOWNWARDS EQUILATERAL cHEAD;2BA0,DOWNWARDS vc zLONG TIP ,LEFTWARDS,RIGHTWARDS;",
  "2BA2,UPWARDS vc zLONG TIP ,LEFTWARDS,RIGHTWARDS;2BA4,,lvc zLONG TIP UPWARDS,",
  "rvc zLONG TIP UPWARDS,lvc zLONG TIP DOWNWARDS,rvc zLONG TIP DOWNWARDS;",
  "2BA8,eCURVED ,DOWNWARDS blc,DOWNWARDS brc,UPWARDS blc,UPWARDS brc,lbUPWARDS c,rbUPWARDS c,",
  "lbDOWNWARDS c,rbDOWNWARDS c;2BB0,RIBBON c ,DOWN LEFT,DOWN RIGHT,UP LEFT,UP RIGHT,kUP,qUP,kDOWN,",
  "qDOWN;2BB8,,UPWARDS yc FROM BAR zHORIZONTAL BAR,UP cHEAD IN A RECTANGLE BOX;",
  "2BBA,OVERLAPPING ,ySQUARES,ybeSQUARES,eSQUARES;2BBD,,BALLOT BOX zLIGHT X,CIRCLED X,",
  "CIRCLED BOLD X,eSQUARE CENTRED,eDIAMOND CENTRED,TURNED ePENTAGON,HORIZONTAL eOCTAGON,eOCTAGON;",
  "2BC5,eMEDIUM ,UP-pTRIANGLE CENTRED,DOWN-pTRIANGLE CENTRED,LEFT-pTRIANGLE CENTRED,",
  "RIGHT-pTRIANGLE CENTRED;2BC9,,NEPTUNE FORM TWO,TOP HALF eCIRCLE,BOTTOM HALF eCIRCLE,",
  "LIGHT FOUR POINTED eCUSP,ROTATED LIGHT FOUR POINTED eCUSP,yFOUR POINTED CUSP,",
  "ROTATED yFOUR POINTED CUSP,SQUARE POSITION INDICATOR,UNCERTAINTY SIGN,GROUP MARK;",
  "2BD3,PLUTO FORM ,TWO,THREE,FOUR,FIVE;2BD7,,TRANSPLUTO,PROSERPINA,ASTRAEA,HYGIEA,PHOLUS,NESSUS,",
  "yMOON SELENA,eDIAMOND ON CROSS,TRUE LIGHT MOON ARTA,CUPIDO,HADES,ZEUS,KRONOS,APOLLON,ADMETOS,",
  "VULCANUS,POSEIDON,kHALF eSTAR,qHALF eSTAR,STAR zkHALF BLACK,STAR zqHALF BLACK,",
  "lTWO-HEADED c zTRIANGLE cHEADS,UPWARDS TWO-HEADED c zTRIANGLE cHEADS,",
  "rTWO-HEADED c zTRIANGLE cHEADS,DOWNWARDS TWO-HEADED c zTRIANGLE cHEADS,ERIS FORM ONE,",
  "ERIS FORM TWO,SEDNA;2BF3,RUSSIAN ASTROLOGICAL SYMBOL ,VIGINTILE,NOVILE,QUINTILE,BINOVILE,",
  "SENTAGON,TREDECILE;2BF9,,EQUALS szINFINITY d,UNITED SYMBOL,SEPARATED SYMBOL,DOUBLED SYMBOL,",
  "PASSED SYMBOL,REVERSED qANGLE,HELLSCHREIBER PAUSE SYMBOL"]

end CharacterName

end SearchBridge
