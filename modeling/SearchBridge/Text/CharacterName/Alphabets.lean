/-!
The names of characters up to U+08FF: the alphabets of Europe and of the Middle East.
-/

namespace SearchBridge

namespace CharacterName

/-- Latin, Greek, Cyrillic, Armenian, Hebrew and Arabic letters, and what is written with them. -/
def alphabets : List String := [
  "20,,SPACE,EXCLAMATION MARK,QUOTATION MARK,NUMBER SIGN,DOLLAR SIGN,PERCENT SIGN,AMPERSAND,",
  "APOSTROPHE,kPARENTHESIS,qPARENTHESIS,ASTERISK,PLUS SIGN,COMMA,HYPHEN-MINUS,FULL STOP,SOLIDUS;",
  "30,DIGIT ,ZERO,ONE,TWO,THREE,FOUR,FIVE,SIX,SEVEN,EIGHT,NINE;3A,,COLON,SEMICOLON,LESS-THAN SIGN,",
  "EQUALS SIGN,GREATER-THAN SIGN,QUESTION MARK,COMMERCIAL AT;41,LATIN fm,A,B,C,D,E,F,G,H,I,J,K,L,",
  "M,N,O,P,Q,R,S,T,U,V,W,X,Y,Z;5B,,kSQUARE BRACKET,REVERSE SOLIDUS,qSQUARE BRACKET,",
  "CIRCUMFLEX ACCENT,LOW LINE,GRAVE ACCENT;61,LATIN tm,A,B,C,D,E,F,G,H,I,J,K,L,M,N,O,P,Q,R,S,T,U,",
  "V,W,X,Y,Z;7B,,kCURLY BRACKET,wLINE,qCURLY BRACKET,TILDE;A0,,NO-BREAK SPACE,",
  "INVERTED EXCLAMATION MARK,CENT SIGN,POUND SIGN,CURRENCY SIGN,YEN SIGN,BROKEN BAR,SECTION SIGN,",
  "DIAERESIS,COPYRIGHT SIGN,FEMININE ORDINAL INDICATOR,LEFT-pgANGLE QUOTATION MARK,NOT SIGN,",
  "SOFT HYPHEN,REGISTERED SIGN,MACRON,DEGREE SIGN,PLUS-MINUS SIGN,SUPERSCRIPT TWO,",
  "SUPERSCRIPT THREE,ACUTE ACCENT,MICRO SIGN,PILCROW SIGN,oDOT,CEDILLA,SUPERSCRIPT ONE,",
  "MASCULINE ORDINAL INDICATOR,RIGHT-pgANGLE QUOTATION MARK;BC,VULGAR FRACTION ,ONE QUARTER,",
  "ONE HALF,THREE QUARTERS;BF,,INVERTED QUESTION MARK;C0,LATIN fm,A zGRAVE,A zACUTE,A zCIRCUMFLEX,",
  "A zTILDE,A zDIAERESIS,A zRING a,AE,C zCEDILLA,E zGRAVE,E zACUTE,E zCIRCUMFLEX,E zDIAERESIS,",
  "I zGRAVE,I zACUTE,I zCIRCUMFLEX,I zDIAERESIS,ETH,N zTILDE,O zGRAVE,O zACUTE,O zCIRCUMFLEX,",
  "O zTILDE,O zDIAERESIS;D7,,MULTIPLICATION SIGN;D8,LATIN fm,O zSTROKE,U zGRAVE,U zACUTE,",
  "U zCIRCUMFLEX,U zDIAERESIS,Y zACUTE,THORN;DF,LATIN tm,SHARP S,A zGRAVE,A zACUTE,A zCIRCUMFLEX,",
  "A zTILDE,A zDIAERESIS,A zRING a,AE,C zCEDILLA,E zGRAVE,E zACUTE,E zCIRCUMFLEX,E zDIAERESIS,",
  "I zGRAVE,I zACUTE,I zCIRCUMFLEX,I zDIAERESIS,ETH,N zTILDE,O zGRAVE,O zACUTE,O zCIRCUMFLEX,",
  "O zTILDE,O zDIAERESIS;F7,,DIVISION SIGN;F8,LATIN ,tmO zSTROKE,tmU zGRAVE,tmU zACUTE,",
  "tmU zCIRCUMFLEX,tmU zDIAERESIS,tmY zACUTE,tmTHORN,tmY zDIAERESIS,fmA zMACRON,tmA zMACRON,",
  "fmA zBREVE,tmA zBREVE,fmA zOGONEK,tmA zOGONEK,fmC zACUTE,tmC zACUTE,fmC zCIRCUMFLEX,",
  "tmC zCIRCUMFLEX,fmC zDOT a,tmC zDOT a,fmC zCARON,tmC zCARON,fmD zCARON,tmD zCARON,fmD zSTROKE,",
  "tmD zSTROKE,fmE zMACRON,tmE zMACRON,fmE zBREVE,tmE zBREVE,fmE zDOT a,tmE zDOT a,fmE zOGONEK,",
  "tmE zOGONEK,fmE zCARON,tmE zCARON,fmG zCIRCUMFLEX,tmG zCIRCUMFLEX,fmG zBREVE,tmG zBREVE,",
  "fmG zDOT a,tmG zDOT a,fmG zCEDILLA,tmG zCEDILLA,fmH zCIRCUMFLEX,tmH zCIRCUMFLEX,fmH zSTROKE,",
  "tmH zSTROKE,fmI zTILDE,tmI zTILDE,fmI zMACRON,tmI zMACRON,fmI zBREVE,tmI zBREVE,fmI zOGONEK,",
  "tmI zOGONEK,fmI zDOT a,tmDOTLESS I,fLIGATURE IJ,tLIGATURE IJ,fmJ zCIRCUMFLEX,tmJ zCIRCUMFLEX,",
  "fmK zCEDILLA,tmK zCEDILLA,tmKRA,fmL zACUTE,tmL zACUTE,fmL zCEDILLA,tmL zCEDILLA,fmL zCARON,",
  "tmL zCARON,fmL zoDOT,tmL zoDOT,fmL zSTROKE,tmL zSTROKE,fmN zACUTE,tmN zACUTE,fmN zCEDILLA,",
  "tmN zCEDILLA,fmN zCARON,tmN zCARON,tmN PRECEDED BY APOSTROPHE,fmENG,tmENG,fmO zMACRON,",
  "tmO zMACRON,fmO zBREVE,tmO zBREVE,fmO zgACUTE,tmO zgACUTE,fLIGATURE OE,tLIGATURE OE,fmR zACUTE,",
  "tmR zACUTE,fmR zCEDILLA,tmR zCEDILLA,fmR zCARON,tmR zCARON,fmS zACUTE,tmS zACUTE,",
  "fmS zCIRCUMFLEX,tmS zCIRCUMFLEX,fmS zCEDILLA,tmS zCEDILLA,fmS zCARON,tmS zCARON,fmT zCEDILLA,",
  "tmT zCEDILLA,fmT zCARON,tmT zCARON,fmT zSTROKE,tmT zSTROKE,fmU zTILDE,tmU zTILDE,fmU zMACRON,",
  "tmU zMACRON,fmU zBREVE,tmU zBREVE,fmU zRING a,tmU zRING a,fmU zgACUTE,tmU zgACUTE,fmU zOGONEK,",
  "tmU zOGONEK,fmW zCIRCUMFLEX,tmW zCIRCUMFLEX,fmY zCIRCUMFLEX,tmY zCIRCUMFLEX,fmY zDIAERESIS,",
  "fmZ zACUTE,tmZ zACUTE,fmZ zDOT a,tmZ zDOT a,fmZ zCARON,tmZ zCARON,tmLONG S,tmB zSTROKE,",
  "fmB zHOOK,fmB zTOPBAR,tmB zTOPBAR,fmTONE SIX,tmTONE SIX,fmOPEN O,fmC zHOOK,tmC zHOOK,",
  "fmAFRICAN D,fmD zHOOK,fmD zTOPBAR,tmD zTOPBAR,tmTURNED DELTA,fmREVERSED E,fmSCHWA,fmOPEN E,",
  "fmF zHOOK,tmF zHOOK,fmG zHOOK,fmGAMMA,tmHV,fmIOTA,fmI zSTROKE,fmK zHOOK,tmK zHOOK,tmL zBAR,",
  "tmLAMBDA zSTROKE,fmTURNED M,fmN zkHOOK,tmN zLONG qLEG,fmO zoTILDE,fmO zHORN,tmO zHORN,fmOI,",
  "tmOI,fmP zHOOK,tmP zHOOK,mYR,fmTONE TWO,tmTONE TWO,fmESH,mREVERSED ESH LOOP,tmT zPALATAL HOOK,",
  "fmT zHOOK,tmT zHOOK,fmT zRETROFLEX HOOK,fmU zHORN,tmU zHORN,fmUPSILON,fmV zHOOK,fmY zHOOK,",
  "tmY zHOOK,fmZ zSTROKE,tmZ zSTROKE,fmEZH,fmEZH REVERSED,tmEZH REVERSED,tmEZH zTAIL,mTWO zSTROKE,",
  "fmTONE FIVE,tmTONE FIVE,mINVERTED GLOTTAL STOP zSTROKE,mWYNN,mDENTAL CLICK,mLATERAL CLICK,",
  "mALVEOLAR CLICK,mRETROFLEX CLICK,fmDZ zCARON,fmD ztmZ zCARON,tmDZ zCARON,fmLJ,fmL ztmJ,tmLJ,",
  "fmNJ,fmN ztmJ,tmNJ,fmA zCARON,tmA zCARON,fmI zCARON,tmI zCARON,fmO zCARON,tmO zCARON,",
  "fmU zCARON,tmU zCARON,fmU zDIAERESIS bMACRON,tmU zDIAERESIS bMACRON,fmU zDIAERESIS bACUTE,",
  "tmU zDIAERESIS bACUTE,fmU zDIAERESIS bCARON,tmU zDIAERESIS bCARON,fmU zDIAERESIS bGRAVE,",
  "tmU zDIAERESIS bGRAVE,tmTURNED E,fmA zDIAERESIS bMACRON,tmA zDIAERESIS bMACRON,",
  "fmA zDOT a bMACRON,tmA zDOT a bMACRON,fmAE zMACRON,tmAE zMACRON,fmG zSTROKE,tmG zSTROKE,",
  "fmG zCARON,tmG zCARON,fmK zCARON,tmK zCARON,fmO zOGONEK,tmO zOGONEK,fmO zOGONEK bMACRON,",
  "tmO zOGONEK bMACRON,fmEZH zCARON,tmEZH zCARON,tmJ zCARON,fmDZ,fmD ztmZ,tmDZ,fmG zACUTE,",
  "tmG zACUTE,fmHWAIR,fmWYNN,fmN zGRAVE,tmN zGRAVE,fmA zRING a bACUTE,tmA zRING a bACUTE,",
  "fmAE zACUTE,tmAE zACUTE,fmO zSTROKE bACUTE,tmO zSTROKE bACUTE,fmA zgGRAVE,tmA zgGRAVE,",
  "fmA zINVERTED BREVE,tmA zINVERTED BREVE,fmE zgGRAVE,tmE zgGRAVE,fmE zINVERTED BREVE,",
  "tmE zINVERTED BREVE,fmI zgGRAVE,tmI zgGRAVE,fmI zINVERTED BREVE,tmI zINVERTED BREVE,",
  "fmO zgGRAVE,tmO zgGRAVE,fmO zINVERTED BREVE,tmO zINVERTED BREVE,fmR zgGRAVE,tmR zgGRAVE,",
  "fmR zINVERTED BREVE,tmR zINVERTED BREVE,fmU zgGRAVE,tmU zgGRAVE,fmU zINVERTED BREVE,",
  "tmU zINVERTED BREVE,fmS zCOMMA d,tmS zCOMMA d,fmT zCOMMA d,tmT zCOMMA d,fmYOGH,tmYOGH,",
  "fmH zCARON,tmH zCARON,fmN zLONG qLEG,tmD zCURL,fmOU,tmOU,fmZ zHOOK,tmZ zHOOK,fmA zDOT a,",
  "tmA zDOT a,fmE zCEDILLA,tmE zCEDILLA,fmO zDIAERESIS bMACRON,tmO zDIAERESIS bMACRON,",
  "fmO zTILDE bMACRON,tmO zTILDE bMACRON,fmO zDOT a,tmO zDOT a,fmO zDOT a bMACRON,",
  "tmO zDOT a bMACRON,fmY zMACRON,tmY zMACRON,tmL zCURL,tmN zCURL,tmT zCURL,tmDOTLESS J,",
  "tmDB DIGRAPH,tmQP DIGRAPH,fmA zSTROKE,fmC zSTROKE,tmC zSTROKE,fmL zBAR,fmT zDIAGONAL STROKE,",
  "tmS zSWASH TAIL,tmZ zSWASH TAIL,fmGLOTTAL STOP,tmGLOTTAL STOP,fmB zSTROKE,fmU BAR,fmTURNED V,",
  "fmE zSTROKE,tmE zSTROKE,fmJ zSTROKE,tmJ zSTROKE,fmtQ zHOOK TAIL,tmQ zHOOK TAIL,fmR zSTROKE,",
  "tmR zSTROKE,fmY zSTROKE;24F,LATIN tm,Y zSTROKE,TURNED A,ALPHA,TURNED ALPHA,B zHOOK,OPEN O,",
  "C zCURL,D zTAIL,D zHOOK,REVERSED E,SCHWA,SCHWA zHOOK,OPEN E,REVERSED OPEN E,",
  "REVERSED OPEN E zHOOK,CLOSED REVERSED OPEN E,DOTLESS J zSTROKE,G zHOOK,SCRIPT G;",
  "262,LATIN ,mtfG,tmGAMMA,tmRAMS HORN,tmTURNED H,tmH zHOOK,tmHENG zHOOK,tmI zSTROKE,tmIOTA,mtfI,",
  "tmL zoTILDE,tmL zBELT,tmL zRETROFLEX HOOK,tmLEZH,tmTURNED M,tmTURNED M zLONG LEG,tmM zHOOK,",
  "tmN zkHOOK,tmN zRETROFLEX HOOK,mtfN,tmBARRED O,mtfOE,tmCLOSED OMEGA,tmPHI,tmTURNED R,",
  "tmTURNED R zLONG LEG,tmTURNED R zHOOK,tmR zLONG LEG,tmR zTAIL,tmR zFISHHOOK,",
  "tmREVERSED R zFISHHOOK,mtfR,mtfINVERTED R,tmS zHOOK,tmESH,tmDOTLESS J zSTROKE bHOOK,",
  "tmSQUAT REVERSED ESH,tmESH zCURL,tmTURNED T,tmT zRETROFLEX HOOK,tmU BAR,tmUPSILON,tmV zHOOK,",
  "tmTURNED V,tmTURNED W,tmTURNED Y,mtfY,tmZ zRETROFLEX HOOK,tmZ zCURL,tmEZH,tmEZH zCURL,",
  "mGLOTTAL STOP,mPHARYNGEAL VOICED FRICATIVE,mINVERTED GLOTTAL STOP,mSTRETCHED C,mBILABIAL CLICK,",
  "mtfB,tmCLOSED OPEN E,mtfG zHOOK,mtfH,tmJ zCROSSED-TAIL,tmTURNED K,mtfL,tmQ zHOOK,",
  "mGLOTTAL STOP zSTROKE,mREVERSED GLOTTAL STOP zSTROKE,tmDZ DIGRAPH,tmDEZH DIGRAPH,",
  "tmDZ DIGRAPH zCURL,tmTS DIGRAPH,tmTESH DIGRAPH,tmTC DIGRAPH zCURL,tmFENG DIGRAPH,tmLS DIGRAPH,",
  "tmLZ DIGRAPH,mBILABIAL PERCUSSIVE,mBIDENTAL PERCUSSIVE,tmTURNED H zFISHHOOK,",
  "tmTURNED H zFISHHOOK bTAIL;2B0,MODIFIER m,tH,tH zHOOK,tJ,tR,tTURNED R,tTURNED R zHOOK,",
  "tfINVERTED R,tW,tY,PRIME,gPRIME,TURNED COMMA,APOSTROPHE,REVERSED COMMA,qHALF RING,kHALF RING,",
  "GLOTTAL STOP,REVERSED GLOTTAL STOP,kcHEAD,qcHEAD,UP cHEAD,DOWN cHEAD,CIRCUMFLEX ACCENT;",
  "2C7,,CARON;2C8,MODIFIER m,wLINE,MACRON,ACUTE ACCENT,GRAVE ACCENT,LOW wLINE,LOW MACRON,",
  "LOW GRAVE ACCENT,LOW ACUTE ACCENT,TRIANGULAR COLON,HALF TRIANGULAR COLON,CENTRED qHALF RING,",
  "CENTRED kHALF RING,UP TACK,DOWN TACK,PLUS SIGN,MINUS SIGN;2D8,,BREVE,DOT a,RING a,OGONEK,",
  "tTILDE,gACUTE ACCENT;2DE,MODIFIER m,RHOTIC HOOK,CROSS ACCENT,tGAMMA,tL,tS,tX,",
  "tREVERSED GLOTTAL STOP,EXTRA-HIGH TONE BAR,HIGH TONE BAR,MID TONE BAR,LOW TONE BAR,",
  "EXTRA-LOW TONE BAR,YIN DEPARTING TONE MARK,YANG DEPARTING TONE MARK,VOICING,UNASPIRATED,",
  "gAPOSTROPHE,LOW DOWN cHEAD,LOW UP cHEAD,LOW kcHEAD,LOW qcHEAD,LOW RING,oGRAVE ACCENT,",
  "ogGRAVE ACCENT,ogACUTE ACCENT,LOW TILDE,RAISED COLON,BEGIN HIGH TONE,END HIGH TONE,",
  "BEGIN LOW TONE,END LOW TONE,SHELF,OPEN SHELF,LOW kc;300,COMBINING ,GRAVE ACCENT,ACUTE ACCENT,",
  "CIRCUMFLEX ACCENT,TILDE,MACRON,OVERLINE,BREVE,DOT a,DIAERESIS,HOOK a,RING a,gACUTE ACCENT,",
  "CARON,wLINE a,gwLINE a,gGRAVE ACCENT,CANDRABINDU,INVERTED BREVE,TURNED COMMA a,COMMA a,",
  "REVERSED COMMA a,COMMA a RIGHT,GRAVE ACCENT d,ACUTE ACCENT d,kTACK d,qTACK d,kANGLE a,HORN,",
  "kHALF RING d,UP TACK d,DOWN TACK d,PLUS sd,MINUS sd,PALATALIZED HOOK d,RETROFLEX HOOK d,DOT d,",
  "DIAERESIS d,RING d,COMMA d,CEDILLA,OGONEK,wLINE d,BRIDGE d,INVERTED gARCH d,CARON d,",
  "CIRCUMFLEX ACCENT d,BREVE d,INVERTED BREVE d,TILDE d,MACRON d,LOW LINE,gLOW LINE,TILDE OVERLAY,",
  "SHORT STROKE OVERLAY,LONG STROKE OVERLAY,SHORT SOLIDUS OVERLAY,LONG SOLIDUS OVERLAY,",
  "qHALF RING d,INVERTED BRIDGE d,SQUARE d,SEAGULL d,X a,wTILDE,gOVERLINE,GRAVE TONE MARK,",
  "ACUTE TONE MARK,GREEK PERISPOMENI,GREEK KORONIS,GREEK DIALYTIKA TONOS,GREEK YPOGEGRAMMENI,",
  "BRIDGE a,EQUALS sd,gwLINE d,kANGLE d,NOT TILDE a,HOMOTHETIC a,ALMOST EQUAL TO a,kqc d,",
  "UPWARDS c d,GRAPHEME JOINER,qcHEAD a,kHALF RING a,FERMATA,X d,kcHEAD d,qcHEAD d,",
  "qcHEAD bUP cHEAD d,qHALF RING a,DOT a RIGHT,ASTERISK d,gRING d,ZIGZAG a,gBREVE d,gBREVE,",
  "gMACRON,gMACRON d,gTILDE,gINVERTED BREVE,grc d;363,COMBINING LATIN tm,A,E,I,O,U,C,D,H,M,R,T,V,",
  "X;370,GREEK ,fmHETA,tmHETA,fmARCHAIC SAMPI,tmARCHAIC SAMPI,NUMERAL SIGN,LOWER NUMERAL SIGN,",
  "fmPAMPHYLIAN DIGAMMA,tmPAMPHYLIAN DIGAMMA;37A,GREEK ,YPOGEGRAMMENI,",
  "tREVERSED LUNATE SIGMA SYMBOL,tDOTTED LUNATE SIGMA SYMBOL,tREVERSED DOTTED LUNATE SIGMA SYMBOL,",
  "QUESTION MARK,fmYOT;384,GREEK ,TONOS,DIALYTIKA TONOS,fmALPHA zTONOS,ANO TELEIA,",
  "fmEPSILON zTONOS,fmETA zTONOS,fmIOTA zTONOS;38C,,GREEK fmOMICRON zTONOS;",
  "38E,GREEK ,fmUPSILON zTONOS,fmOMEGA zTONOS,tmIOTA zDIALYTIKA bTONOS;391,GREEK fm,ALPHA,BETA,",
  "GAMMA,DELTA,EPSILON,ZETA,ETA,THETA,IOTA,KAPPA,LAMDA,MU,NU,XI,OMICRON,PI,RHO;3A3,GREEK fm,SIGMA,",
  "TAU,UPSILON,PHI,CHI,PSI,OMEGA,IOTA zDIALYTIKA,UPSILON zDIALYTIKA;3AC,GREEK tm,ALPHA zTONOS,",
  "EPSILON zTONOS,ETA zTONOS,IOTA zTONOS,UPSILON zDIALYTIKA bTONOS,ALPHA,BETA,GAMMA,DELTA,EPSILON,",
  "ZETA,ETA,THETA,IOTA,KAPPA,LAMDA,MU,NU,XI,OMICRON,PI,RHO,FINAL SIGMA,SIGMA,TAU,UPSILON,PHI,CHI,",
  "PSI,OMEGA,IOTA zDIALYTIKA,UPSILON zDIALYTIKA,OMICRON zTONOS,UPSILON zTONOS,OMEGA zTONOS;",
  "3CF,GREEK ,fKAI SYMBOL,BETA SYMBOL,THETA SYMBOL,UPSILON zHOOK SYMBOL,",
  "UPSILON zACUTE bHOOK SYMBOL,UPSILON zDIAERESIS bHOOK SYMBOL,PHI SYMBOL,PI SYMBOL,KAI SYMBOL,",
  "mARCHAIC KOPPA,tmARCHAIC KOPPA,mSTIGMA,tmSTIGMA,mDIGAMMA,tmDIGAMMA,mKOPPA,tmKOPPA,mSAMPI,",
  "tmSAMPI;3E2,COPTIC ,fmSHEI,tmSHEI,fmFEI,tmFEI,fmKHEI,tmKHEI,fmHORI,tmHORI,fmGANGIA,tmGANGIA,",
  "fmSHIMA,tmSHIMA,fmDEI,tmDEI;3F0,GREEK ,KAPPA SYMBOL,RHO SYMBOL,LUNATE SIGMA SYMBOL,mYOT,",
  "fTHETA SYMBOL,LUNATE EPSILON SYMBOL,REVERSED LUNATE EPSILON SYMBOL,fmSHO,tmSHO,",
  "fLUNATE SIGMA SYMBOL,fmSAN,tmSAN,RHO zSTROKE SYMBOL,fREVERSED LUNATE SIGMA SYMBOL,",
  "fDOTTED LUNATE SIGMA SYMBOL,fREVERSED DOTTED LUNATE SIGMA SYMBOL;400,CYRILLIC fm,IE zGRAVE,IO,",
  "DJE,GJE,UKRAINIAN IE,DZE,BYELORUSSIAN-UKRAINIAN I,YI,JE,LJE,NJE,TSHE,KJE,I zGRAVE,SHORT U,DZHE,",
  "A,BE,VE,GHE,DE,IE,ZHE,ZE,I,SHORT I,KA,EL,EM,EN,O,PE,ER,ES,TE,U,EF,HA,TSE,CHE,SHA,SHCHA,",
  "HARD SIGN,YERU,SOFT SIGN,E,YU,YA;430,CYRILLIC tm,A,BE,VE,GHE,DE,IE,ZHE,ZE,I,SHORT I,KA,EL,EM,",
  "EN,O,PE,ER,ES,TE,U,EF,HA,TSE,CHE,SHA,SHCHA,HARD SIGN,YERU,SOFT SIGN,E,YU,YA,IE zGRAVE,IO,DJE,",
  "GJE,UKRAINIAN IE,DZE,BYELORUSSIAN-UKRAINIAN I,YI,JE,LJE,NJE,TSHE,KJE,I zGRAVE,SHORT U,DZHE;",
  "460,CYRILLIC ,fmOMEGA,tmOMEGA,fmYAT,tmYAT,fmIOTIFIED E,tmIOTIFIED E,fmLITTLE YUS,tmLITTLE YUS,",
  "fmIOTIFIED LITTLE YUS,tmIOTIFIED LITTLE YUS,fmBIG YUS,tmBIG YUS,fmIOTIFIED BIG YUS,",
  "tmIOTIFIED BIG YUS,fmKSI,tmKSI,fmPSI,tmPSI,fmFITA,tmFITA,fmIZHITSA,tmIZHITSA,",
  "fmIZHITSA zgGRAVE ACCENT,tmIZHITSA zgGRAVE ACCENT,fmUK,tmUK,fmROUND OMEGA,tmROUND OMEGA,",
  "fmOMEGA zTITLO,tmOMEGA zTITLO,fmOT,tmOT,fmKOPPA,tmKOPPA,THOUSANDS SIGN;",
  "483,COMBINING CYRILLIC ,TITLO,PALATALIZATION,DASIA PNEUMATA,PSILI PNEUMATA,POKRYTIE,",
  "HUNDRED THOUSANDS SIGN,MILLIONS SIGN;48A,CYRILLIC ,fmSHORT I zTAIL,tmSHORT I zTAIL,",
  "fmSEMISOFT SIGN,tmSEMISOFT SIGN,fmER zTICK,tmER zTICK,fmGHE zUPTURN,tmGHE zUPTURN,",
  "fmGHE zSTROKE,tmGHE zSTROKE,fmGHE zoHOOK,tmGHE zoHOOK,fmZHE zDESCENDER,tmZHE zDESCENDER,",
  "fmZE zDESCENDER,tmZE zDESCENDER,fmKA zDESCENDER,tmKA zDESCENDER,fmKA zwSTROKE,tmKA zwSTROKE,",
  "fmKA zSTROKE,tmKA zSTROKE,fmBASHKIR KA,tmBASHKIR KA,fmEN zDESCENDER,tmEN zDESCENDER,",
  "fLIGATURE EN GHE,tLIGATURE EN GHE,fmPE zoHOOK,tmPE zoHOOK,fmABKHASIAN HA,tmABKHASIAN HA,",
  "fmES zDESCENDER,tmES zDESCENDER,fmTE zDESCENDER,tmTE zDESCENDER,fmSTRAIGHT U,tmSTRAIGHT U,",
  "fmSTRAIGHT U zSTROKE,tmSTRAIGHT U zSTROKE,fmHA zDESCENDER,tmHA zDESCENDER,fLIGATURE TE TSE,",
  "tLIGATURE TE TSE,fmCHE zDESCENDER,tmCHE zDESCENDER,fmCHE zwSTROKE,tmCHE zwSTROKE,fmSHHA,tmSHHA,",
  "fmABKHASIAN CHE,tmABKHASIAN CHE,fmABKHASIAN CHE zDESCENDER,tmABKHASIAN CHE zDESCENDER,",
  "mPALOCHKA,fmZHE zBREVE,tmZHE zBREVE,fmKA zHOOK,tmKA zHOOK,fmEL zTAIL,tmEL zTAIL,fmEN zHOOK,",
  "tmEN zHOOK,fmEN zTAIL,tmEN zTAIL,fmKHAKASSIAN CHE,tmKHAKASSIAN CHE,fmEM zTAIL,tmEM zTAIL,",
  "tmPALOCHKA,fmA zBREVE,tmA zBREVE,fmA zDIAERESIS,tmA zDIAERESIS,fLIGATURE A IE,tLIGATURE A IE,",
  "fmIE zBREVE,tmIE zBREVE,fmSCHWA,tmSCHWA,fmSCHWA zDIAERESIS,tmSCHWA zDIAERESIS,fmZHE zDIAERESIS,",
  "tmZHE zDIAERESIS,fmZE zDIAERESIS,tmZE zDIAERESIS,fmABKHASIAN DZE,tmABKHASIAN DZE,fmI zMACRON,",
  "tmI zMACRON,fmI zDIAERESIS,tmI zDIAERESIS,fmO zDIAERESIS,tmO zDIAERESIS,fmBARRED O,tmBARRED O,",
  "fmBARRED O zDIAERESIS,tmBARRED O zDIAERESIS,fmE zDIAERESIS,tmE zDIAERESIS,fmU zMACRON,",
  "tmU zMACRON,fmU zDIAERESIS,tmU zDIAERESIS,fmU zgACUTE,tmU zgACUTE,fmCHE zDIAERESIS,",
  "tmCHE zDIAERESIS,fmGHE zDESCENDER,tmGHE zDESCENDER,fmYERU zDIAERESIS,tmYERU zDIAERESIS,",
  "fmGHE zSTROKE bHOOK,tmGHE zSTROKE bHOOK,fmHA zHOOK,tmHA zHOOK,fmHA zSTROKE,tmHA zSTROKE,",
  "fmKOMI DE,tmKOMI DE,fmKOMI DJE,tmKOMI DJE,fmKOMI ZJE,tmKOMI ZJE,fmKOMI DZJE,tmKOMI DZJE,",
  "fmKOMI LJE,tmKOMI LJE,fmKOMI NJE,tmKOMI NJE,fmKOMI SJE,tmKOMI SJE,fmKOMI TJE,tmKOMI TJE,",
  "fmREVERSED ZE,tmREVERSED ZE,fmEL zHOOK,tmEL zHOOK,fmLHA,tmLHA,fmRHA,tmRHA,fmYAE,tmYAE,fmQA,",
  "tmQA,fmWE,tmWE,fmALEUT KA,tmALEUT KA,fmEL zoHOOK,tmEL zoHOOK,fmEN zoHOOK,tmEN zoHOOK,",
  "fmPE zDESCENDER,tmPE zDESCENDER,fmSHHA zDESCENDER,tmSHHA zDESCENDER,fmEN zkHOOK,tmEN zkHOOK,",
  "fmDZZHE,tmDZZHE,fmDCHE,tmDCHE,fmEL zDESCENDER,tmEL zDESCENDER;531,ARMENIAN fm,AYB,BEN,GIM,DA,",
  "ECH,ZA,EH,ET,TO,ZHE,INI,LIWN,XEH,CA,KEN,HO,JA,GHAD,CHEH,MEN,YI,NOW,SHA,VO,CHA,PEH,JHEH,RA,SEH,",
  "VEW,TIWN,REH,CO,YIWN,PIWR,KEH,OH,FEH;559,ARMENIAN ,MODIFIER mkHALF RING,APOSTROPHE,",
  "EMPHASIS MARK,EXCLAMATION MARK,COMMA,QUESTION MARK,ABBREVIATION MARK;",
  "560,ARMENIAN tm,TURNED AYB,AYB,BEN,GIM,DA,ECH,ZA,EH,ET,TO,ZHE,INI,LIWN,XEH,CA,KEN,HO,JA,GHAD,",
  "CHEH,MEN,YI,NOW,SHA,VO,CHA,PEH,JHEH,RA,SEH,VEW,TIWN,REH,CO,YIWN,PIWR,KEH,OH,FEH;",
  "587,ARMENIAN ,tLIGATURE ECH YIWN,tmYI zSTROKE,FULL STOP,HYPHEN;",
  "58D,,RIGHT-FACING ARMENIAN ETERNITY SIGN,LEFT-FACING ARMENIAN ETERNITY SIGN,ARMENIAN DRAM SIGN;",
  "591,HEBREW ACCENT ,ETNAHTA,SEGOL,SHALSHELET,ZAQEF QATAN,ZAQEF GADOL,TIPEHA,REVIA,ZARQA,PASHTA,",
  "YETIV,TEVIR,GERESH,GERESH MUQDAM,GERSHAYIM,QARNEY PARA,TELISHA GEDOLA,PAZER,ATNAH HAFUKH,MUNAH,",
  "MAHAPAKH,MERKHA,MERKHA KEFULA,DARGA,QADMA,TELISHA QETANA,YERAH BEN YOMO,OLE,ILUY,DEHI,ZINOR;",
  "5AF,,HEBREW MARK MASORA CIRCLE;5B0,HEBREW POINT ,SHEVA,HATAF SEGOL,HATAF PATAH,HATAF QAMATS,",
  "HIRIQ,TSERE,SEGOL,PATAH,QAMATS,HOLAM,HOLAM HASER FOR VAV,QUBUTS,DAGESH OR MAPIQ,METEG;",
  "5BE,HEBREW ,PUNCTUATION MAQAF,POINT RAFE,PUNCTUATION PASEQ,POINT SHIN DOT,POINT SIN DOT,",
  "PUNCTUATION SOF PASUQ,MARK UPPER DOT,MARK LOWER DOT,PUNCTUATION NUN HAFUKHA,POINT QAMATS QATAN;",
  "5D0,HEBREW m,ALEF,BET,GIMEL,DALET,HE,VAV,ZAYIN,HET,TET,YOD,FINAL KAF,KAF,LAMED,FINAL MEM,MEM,",
  "FINAL NUN,NUN,SAMEKH,AYIN,FINAL PE,PE,FINAL TSADI,TSADI,QOF,RESH,SHIN,TAV;",
  "5EF,,HEBREW YOD TRIANGLE;5F0,HEBREW LIGATURE YIDDISH ,gVAV,VAV YOD,gYOD;",
  "5F3,HEBREW PUNCTUATION ,GERESH,GERSHAYIM;600,ARABIC ,NUMBER SIGN,sSANAH,FOOTNOTE MARKER,sSAFHA,",
  "sSAMVAT,NUMBER MARK a;606,ARABIC-INDIC ,CUBE ROOT,FOURTH ROOT;608,,ARABIC RAY;",
  "609,ARABIC-INDIC PER ,MILLE SIGN,TEN THOUSAND SIGN;60B,,AFGHANI SIGN;60C,ARABIC ,COMMA,",
  "DATE SEPARATOR,POETIC VERSE SIGN,sMISRA,sSALLALLAHOU ALAYHE WASSALLAM,sALAYHE ASSALLAM,",
  "sRAHMATULLAH ALAYHE,sRADI ALLAHOU ANHU,sTAKHALLUS,tHIGH TAH,tHIGH LIGATURE ALEF zLAM zYEH,",
  "tHIGH ZAIN,tFATHA,tDAMMA,tKASRA,SEMICOLON,mMARK,END OF TEXT MARK,TRIPLE DOT PUNCTUATION MARK,",
  "QUESTION MARK;620,ARABIC m,KASHMIRI YEH,HAMZA,ALEF zMADDA a,ALEF zHAMZA a,WAW zHAMZA a,",
  "ALEF zHAMZA d,YEH zHAMZA a,ALEF,BEH,TEH MARBUTA,TEH,THEH,JEEM,HAH,KHAH,DAL,THAL,REH,ZAIN,SEEN,",
  "SHEEN,SAD,DAD,TAH,ZAH,AIN,GHAIN,KEHEH zTWO DOTS a,KEHEH zTHREE DOTS d;",
  "63D,ARABIC mFARSI YEH z,INVERTED V,TWO DOTS a,THREE DOTS a;640,ARABIC ,TATWEEL,mFEH,mQAF,mKAF,",
  "mLAM,mMEEM,mNOON,mHEH,mWAW,mALEF MAKSURA,mYEH,FATHATAN,DAMMATAN,KASRATAN,FATHA,DAMMA,KASRA,",
  "SHADDA,SUKUN,MADDAH a,HAMZA a,HAMZA d,SUBSCRIPT ALEF,INVERTED DAMMA,MARK NOON GHUNNA,ZWARAKAY,",
  "xstV a,xsINVERTED tV a,xsDOT d,REVERSED DAMMA,FATHA zTWO DOTS,WAVY HAMZA d;",
  "660,ARABIC-INDIC DIGIT ,ZERO,ONE,TWO,THREE,FOUR,FIVE,SIX,SEVEN,EIGHT,NINE;",
  "66A,ARABIC ,PERCENT SIGN,DECIMAL SEPARATOR,THOUSANDS SEPARATOR,FIVE POINTED STAR;",
  "66E,ARABIC m,DOTLESS BEH,DOTLESS QAF,SUPERSCRIPT ALEF,ALEF WASLA,ALEF zWAVY HAMZA a,",
  "ALEF zWAVY HAMZA d,HIGH HAMZA,HIGH HAMZA ALEF,HIGH HAMZA WAW,U zHAMZA a,HIGH HAMZA YEH,TTEH,",
  "TTEHEH,BEEH,TEH zRING,TEH zTHREE DOTS a DOWNWARDS,PEH,TEHEH,BEHEH,HAH zHAMZA a,",
  "HAH zTWO DOTS wa,NYEH,DYEH,HAH zTHREE DOTS a,TCHEH,TCHEHEH,DDAL,DAL zRING,DAL zDOT d,",
  "DAL zDOT d btTAH,DAHAL,DDAHAL,DUL,DAL zTHREE DOTS a DOWNWARDS,DAL zFOUR DOTS a,RREH,REH ztV,",
  "REH zRING,REH zDOT d,REH ztV d,REH zDOT d bDOT a,REH zTWO DOTS a,JEH,REH zFOUR DOTS a,",
  "SEEN zDOT d bDOT a,SEEN zTHREE DOTS d,SEEN zTHREE DOTS d bTHREE DOTS a,SAD zTWO DOTS d,",
  "SAD zTHREE DOTS a,TAH zTHREE DOTS a,AIN zTHREE DOTS a,DOTLESS FEH,FEH zDOT MOVED d,FEH zDOT d,",
  "VEH,FEH zTHREE DOTS d,PEHEH,QAF zDOT a,QAF zTHREE DOTS a,KEHEH,SWASH KAF,KAF zRING,KAF zDOT a,",
  "NG,KAF zTHREE DOTS d,GAF,GAF zRING,NGOEH,GAF zTWO DOTS d,GUEH,GAF zTHREE DOTS a,LAM ztV,",
  "LAM zDOT a,LAM zTHREE DOTS a,LAM zTHREE DOTS d,NOON zDOT d,NOON GHUNNA,RNOON,NOON zRING,",
  "NOON zTHREE DOTS a,HEH DOACHASHMEE,TCHEH zDOT a,HEH zYEH a,HEH GOAL,HEH GOAL zHAMZA a,",
  "TEH MARBUTA GOAL,WAW zRING,KIRGHIZ OE,OE,U,YU,KIRGHIZ YU,WAW zTWO DOTS a,VE,FARSI YEH,",
  "YEH zTAIL,YEH ztV,WAW zDOT a,E,YEH zTHREE DOTS d,YEH BARREE,YEH BARREE zHAMZA a;",
  "6D4,ARABIC ,FULL STOP,mAE;6D6,ARABIC tHIGH ,LIGATURE SAD zLAM zALEF MAKSURA,",
  "LIGATURE QAF zLAM zALEF MAKSURA,MEEM i,LAM ALEF,JEEM,THREE DOTS,SEEN;6DD,ARABIC ,END OF AYAH,",
  "START OF RUB EL HIZB,tHIGH ROUNDED ZERO,tHIGH UPRIGHT RECTANGULAR ZERO,",
  "tHIGH DOTLESS HEAD OF KHAH,tHIGH MEEM j,tLOW SEEN,tHIGH MADDA,tWAW,tYEH,tHIGH YEH,tHIGH NOON,",
  "PLACE OF SAJDAH,EMPTY CENTRE LOW STOP,EMPTY CENTRE HIGH STOP,ROUNDED HIGH STOP zFILLED CENTRE,",
  "tLOW MEEM,mDAL zINVERTED V,mREH zINVERTED V;6F0,EXTENDED ARABIC-INDIC DIGIT ,ZERO,ONE,TWO,",
  "THREE,FOUR,FIVE,SIX,SEVEN,EIGHT,NINE;6FA,ARABIC ,mSHEEN zDOT d,mDAD zDOT d,mGHAIN zDOT d,",
  "sSINDHI AMPERSAND,sSINDHI POSTPOSITION MEN,mHEH zINVERTED V;700,SYRIAC ,END OF PARAGRAPH,",
  "SUPRALINEAR FULL STOP,SUBLINEAR FULL STOP,SUPRALINEAR COLON,SUBLINEAR COLON,HORIZONTAL COLON,",
  "COLON SKEWED LEFT,COLON SKEWED RIGHT,SUPRALINEAR COLON SKEWED LEFT,",
  "SUBLINEAR COLON SKEWED RIGHT,CONTRACTION;70B,SYRIAC HARKLEAN ,OBELUS,METOBELUS,ASTERISCUS;",
  "70F,,SYRIAC ABBREVIATION MARK;710,SYRIAC m,ALAPH,SUPERSCRIPT ALAPH,BETH,GAMAL,GAMAL GARSHUNI,",
  "DALATH,DOTLESS DALATH RISH,HE,WAW,ZAIN,HETH,TETH,TETH GARSHUNI,YUDH,YUDH HE,KAPH,LAMADH,MIM,",
  "NUN,SEMKATH,FINAL SEMKATH,E,PE,REVERSED PE,SADHE,QAPH,RISH,SHIN,TAW,PERSIAN BHETH,",
  "PERSIAN GHAMAL,PERSIAN DHALATH;730,SYRIAC ,PTHAHA a,PTHAHA d,PTHAHA DOTTED,ZQAPHA a,ZQAPHA d,",
  "ZQAPHA DOTTED,RBASA a,RBASA d,DOTTED ZLAMA HORIZONTAL,DOTTED ZLAMA ANGULAR,HBASA a,HBASA d,",
  "HBASA-ESASA DOTTED,ESASA a,ESASA d,RWAHA,FEMININE DOT,QUSHSHAYA,RUKKAKHA,TWO wDOTS a,",
  "TWO wDOTS d,THREE DOTS a,THREE DOTS d,OBLIQUE LINE a,OBLIQUE LINE d,MUSIC,BARREKH;",
  "74D,SYRIAC mSOGDIAN ,ZHAIN,KHAPH,FE;750,ARABIC mBEH z,THREE DOTS HORIZONTALLY d,",
  "DOT d bTHREE DOTS a,THREE DOTS pUPWARDS d,THREE DOTS pUPWARDS d bTWO DOTS a,TWO DOTS d bDOT a,",
  "INVERTED tV d,tV;757,ARABIC m,HAH zTWO DOTS a,HAH zTHREE DOTS pUPWARDS d,",
  "DAL zTWO DOTS VERTICALLY d btTAH,DAL zINVERTED tV d,REH zSTROKE,SEEN zFOUR DOTS a,",
  "AIN zTWO DOTS a,AIN zTHREE DOTS pDOWNWARDS a,AIN zTWO DOTS VERTICALLY a,FEH zTWO DOTS d,",
  "FEH zTHREE DOTS pUPWARDS d,KEHEH zDOT a,KEHEH zTHREE DOTS a,KEHEH zTHREE DOTS pUPWARDS d,",
  "MEEM zDOT a,MEEM zDOT d,NOON zTWO DOTS d,NOON ztTAH,NOON ztV,LAM zBAR,",
  "REH zTWO DOTS VERTICALLY a,REH zHAMZA a,SEEN zTWO DOTS VERTICALLY a,HAH ztARABIC mTAH d,",
  "HAH ztARABIC mTAH bTWO DOTS,SEEN ztARABIC mTAH bTWO DOTS,REH ztARABIC mTAH bTWO DOTS,",
  "HAH ztARABIC mTAH a;773,ARABIC mALEF zEXTENDED ARABIC-INDIC DIGIT ,TWO a,THREE a;",
  "775,ARABIC mFARSI YEH zEXTENDED ARABIC-INDIC DIGIT ,TWO a,THREE a,FOUR d;",
  "778,ARABIC mWAW zEXTENDED ARABIC-INDIC DIGIT ,TWO a,THREE a;",
  "77A,ARABIC mYEH BARREE zEXTENDED ARABIC-INDIC DIGIT ,TWO a,THREE a;",
  "77C,ARABIC m,HAH zEXTENDED ARABIC-INDIC DIGIT FOUR d,SEEN zEXTENDED ARABIC-INDIC DIGIT FOUR a,",
  "SEEN zINVERTED V,KAF zTWO DOTS a;780,THAANA m,HAA,SHAVIYANI,NOONU,RAA,BAA,LHAVIYANI,KAAFU,",
  "ALIFU,VAAVU,MEEMU,FAAFU,DHAALU,THAA,LAAMU,GAAFU,GNAVIYANI,SEENU,DAVIYANI,ZAVIYANI,TAVIYANI,YAA,",
  "PAVIYANI,JAVIYANI,CHAVIYANI,TTAA,HHAA,KHAA,THAALU,ZAA,SHEENU,SAADHU,DAADHU,TO,ZO,AINU,GHAINU,",
  "QAAFU,WAAVU;7A6,THAANA ,ABAFILI,AABAAFILI,IBIFILI,EEBEEFILI,UBUFILI,OOBOOFILI,EBEFILI,",
  "EYBEYFILI,OBOFILI,OABOAFILI,SUKUN,mNAA;7C0,NKO DIGIT ,ZERO,ONE,TWO,THREE,FOUR,FIVE,SIX,SEVEN,",
  "EIGHT,NINE;7CA,NKO m,A,EE,I,E,U,OO,O,DAGBASINNA,N,BA,PA,TA,JA,CHA,DA,RA,RRA,SA,GBA,FA,KA,LA,",
  "NA WOLOSO,MA,NYA,NA,HA,WA,YA,NYA WOLOSO,JONA JA,JONA CHA,JONA RA;",
  "7EB,NKO COMBINING ,SHORT HIGH TONE,SHORT LOW TONE,SHORT RISING TONE,LONG DESCENDING TONE,",
  "LONG HIGH TONE,LONG LOW TONE,LONG RISING TONE,NASALIZATION MARK,gDOT a;",
  "7F4,NKO ,HIGH TONE APOSTROPHE,LOW TONE APOSTROPHE,SYMBOL OO DENNEN,SYMBOL GBAKURUNEN,COMMA,",
  "EXCLAMATION MARK,LAJANYALAN;7FD,NKO ,DANTAYALAN,DOROME SIGN,TAMAN SIGN;800,SAMARITAN m,ALAF,",
  "BIT,GAMAN,DALAT,IY,BAA,ZEN,IT,TIT,YUT,KAAF,LABAT,MIM,NUN,SINGAAT,IN,FI,TSAADIY,QUF,RISH,SHAN,",
  "TAAF;816,SAMARITAN ,MARK IN,MARK IN-ALAF,MARK OCCLUSION,MARK DAGESH,MODIFIER mEPENTHETIC YUT,",
  "MARK EPENTHETIC YUT,xsLONG E,xsE,xsOVERLONG AA,xsLONG AA,xsAA,xsOVERLONG A,xsLONG A,xsA,",
  "MODIFIER mSHORT A,xsSHORT A,xsLONG U,xsU,MODIFIER mI,xsLONG I,xsI,xsO,xsSUKUN,MARK NEQUDAA;",
  "830,SAMARITAN PUNCTUATION ,NEQUDAA,AFSAAQ,ANGED,BAU,ATMAAU,SHIYYAALAA;",
  "836,,SAMARITAN ABBREVIATION MARK;837,SAMARITAN PUNCTUATION ,MELODIC QITSA,ZIQAA,QITSA,ZAEF,",
  "TURU,ARKAANU,SOF MASHFAAT,ANNAAU;840,MANDAIC m,HALQA,AB,AG,AD,AH,USHENNA,AZ,IT,ATT,AKSA,AK,AL,",
  "AM,AN,AS,IN,AP,ASZ,AQ,AR,ASH,AT,DUSHENNA,KAD,AIN;859,MANDAIC ,AFFRICATION MARK,",
  "VOCALIZATION MARK,GEMINATION MARK;85E,,MANDAIC PUNCTUATION;860,SYRIAC mMALAYALAM ,NGA,JA,NYA,",
  "TTA,NNA,NNNA,BHA,RA,LLA,LLLA,SSA;870,ARABIC mALEF z,ATTACHED FATHA,ATTACHED TOP qFATHA,",
  "qoSTROKE,koSTROKE;874,ARABIC mALEF zATTACHED ,KASRA,BOTTOM qKASRA,ROUND DOT a,qROUND DOT,",
  "kROUND DOT,ROUND DOT d;87A,ARABIC mALEF z,DOT a,ATTACHED TOP qFATHA bDOT a,qoSTROKE bDOT a,",
  "ATTACHED BOTTOM qKASRA bDOT a,ATTACHED TOP qFATHA bkRING,qoSTROKE bkRING,",
  "ATTACHED BOTTOM qKASRA bkRING,ATTACHED qHAMZA,ATTACHED kHAMZA;",
  "883,ARABIC TATWEEL zOVERSTRUCK ,HAMZA,WAW;885,ARABIC ,TATWEEL zTWO DOTS d,mTHIN YEH,",
  "BASELINE ROUND DOT,RAISED ROUND DOT,mNOON zINVERTED tV,mHAH zINVERTED tV d,mTAH zDOT d,",
  "mTAH zTHREE DOTS d,mKEHEH zTWO DOTS VERTICALLY d,wTAIL;890,ARABIC ,POUND MARK a,PIASTRE MARK a;",
  "898,ARABIC ,tHIGH WORD AL-JUZ,tLOW WORD ISHMAAM,tLOW WORD IMAALA,tLOW WORD TASHEEL,",
  "MADDA WAAJIB,SUPERSCRIPT ALEF MOKHASSAS,DOUBLED MADDA,HALF MADDA OVER MADDA;",
  "8A0,ARABIC m,BEH ztV d,BEH zHAMZA a,JEEM zTWO DOTS a,TAH zTWO DOTS a,FEH zDOT d bTHREE DOTS a,",
  "QAF zDOT d,LAM zgBAR,MEEM zTHREE DOTS a,YEH zTWO DOTS d bHAMZA a,YEH zTWO DOTS d bDOT a,",
  "REH zLOOP,WAW zDOT WITHIN,ROHINGYA YEH,LOW ALEF,DAL zTHREE DOTS d,SAD zTHREE DOTS d,",
  "GAF zINVERTED STROKE,STRAIGHT WAW,ZAIN zINVERTED V a,AIN zTHREE DOTS d,KAF zDOT d,",
  "QAF zDOT d bNO DOTS a,BEH ztMEEM a,PEH ztMEEM a,TEH ztTEH a,REH ztNOON a,",
  "YEH zTWO DOTS d btNOON a,AFRICAN FEH,AFRICAN QAF,AFRICAN NOON,PEH ztV,TEH ztV,TTEH ztV,",
  "TCHEH ztV,KEHEH ztV,GHAIN zTHREE DOTS a,AFRICAN QAF zTHREE DOTS a,JEEM zTHREE DOTS a,",
  "JEEM zTHREE DOTS d,LAM ztARABIC mTAH a,GRAF;8C9,ARABIC ,tFARSI YEH,tHIGH FARSI YEH,",
  "tHIGH YEH BARREE zTWO DOTS d,tHIGH WORD SAH,tHIGH ZAH,LARGE ROUND DOT a,LARGE ROUND DOT d,",
  "SUKUN d,LARGE CIRCLE d,LARGE ROUND DOT INSIDE CIRCLE d,tLOW WAW,tHIGH WORD AR-RUB,tHIGH SAD,",
  "tHIGH AIN,tHIGH QAF,tHIGH NOON zKASRA,tLOW NOON zKASRA;8DA,ARABIC tHIGH WORD ,ATH-THALATHA,",
  "AS-SAJDA,AN-NISF,SAKTA,QIF,WAQFA;8E0,ARABIC ,tHIGH FOOTNOTE MARKER,tHIGH sSAFHA,",
  "DISPUTED END OF AYAH,TURNED DAMMA d;8E4,ARABIC CURLY ,FATHA,DAMMA,KASRA,FATHATAN,DAMMATAN,",
  "KASRATAN;8EA,ARABIC TONE ,ONE DOT a,TWO DOTS a,LOOP a,ONE DOT d,TWO DOTS d,LOOP d;",
  "8F0,ARABIC ,OPEN FATHATAN,OPEN DAMMATAN,OPEN KASRATAN,tHIGH WAW,FATHA zRING,FATHA zDOT a,",
  "KASRA zDOT d,kcHEAD a,qcHEAD a,kcHEAD d,qcHEAD d,gqcHEAD a,gqcHEAD a zDOT,qcHEAD a zDOT,",
  "DAMMA zDOT,MARK SIDEWAYS NOON GHUNNA"]

end CharacterName

end SearchBridge
