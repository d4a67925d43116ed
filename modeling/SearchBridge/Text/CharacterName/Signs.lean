/-!
The names of characters from U+1D00 to U+24FF: phonetic letters, letters with marks, punctuation,
arrows, and the signs of mathematics and of machines.
-/

namespace SearchBridge

namespace CharacterName

/-- Phonetic and Greek letters, punctuation, arrows, operators and technical signs. -/
def signs : List String := [
  "1D00,LATIN ,mtfA,mtfAE,tmTURNED AE,mtfBARRED B,mtfC,mtfD,mtfETH,mtfE,tmTURNED OPEN E,",
  "tmTURNED I,mtfJ,mtfK,mtfL zSTROKE,mtfM,mtfREVERSED N,mtfO,mtfOPEN O,tmSIDEWAYS O,",
  "tmSIDEWAYS OPEN O,tmSIDEWAYS O zSTROKE,tmTURNED OE,mtfOU,tmTOP HALF O,tmBOTTOM HALF O,mtfP,",
  "mtfREVERSED R,mtfTURNED R,mtfT,mtfU,tmSIDEWAYS U,tmSIDEWAYS DIAERESIZED U,tmSIDEWAYS TURNED M,",
  "mtfV,mtfW,mtfZ,mtfEZH,mVOICED LARYNGEAL SPIRANT,mAIN;1D26,GREEK mtf,GAMMA,LAMDA,PI,RHO,PSI;",
  "1D2B,,CYRILLIC mtfEL;1D2C,MODIFIER mf,A,AE,B,BARRED B,D,E,REVERSED E,G,H,I,J,K,L,M,N,",
  "REVERSED N,O,OU,P,R,T,U,W;1D43,MODIFIER mt,A,TURNED A,ALPHA,TURNED AE,B,D,E,SCHWA,OPEN E,",
  "TURNED OPEN E,G,TURNED I,K,M,ENG,O,OPEN O,TOP HALF O,BOTTOM HALF O,P,T,U,SIDEWAYS U,TURNED M,V,",
  "AIN,BETA,GREEK GAMMA,DELTA,GREEK PHI,CHI;1D62,LATIN SUBSCRIPT tm,I,R,U,V;",
  "1D66,GREEK SUBSCRIPT tm,BETA,GAMMA,RHO,PHI,CHI;1D6B,LATIN tm,UE,B zoTILDE,D zoTILDE,F zoTILDE,",
  "M zoTILDE,N zoTILDE,P zoTILDE,R zoTILDE,R zFISHHOOK boTILDE,S zoTILDE,T zoTILDE,Z zoTILDE,",
  "TURNED G;1D78,,MODIFIER mCYRILLIC EN;1D79,LATIN t,mINSULAR G,mTH zSTRIKETHROUGH,fmI zSTROKE,",
  "mIOTA zSTROKE,mP zSTROKE,fmU zSTROKE;1D7F,LATIN tm,UPSILON zSTROKE,B zPALATAL HOOK,",
  "D zPALATAL HOOK,F zPALATAL HOOK,G zPALATAL HOOK,K zPALATAL HOOK,L zPALATAL HOOK,",
  "M zPALATAL HOOK,N zPALATAL HOOK,P zPALATAL HOOK,R zPALATAL HOOK,S zPALATAL HOOK,",
  "ESH zPALATAL HOOK,V zPALATAL HOOK,X zPALATAL HOOK,Z zPALATAL HOOK,A zRETROFLEX HOOK,",
  "ALPHA zRETROFLEX HOOK,D zHOOK bTAIL,E zRETROFLEX HOOK,OPEN E zRETROFLEX HOOK,",
  "REVERSED OPEN E zRETROFLEX HOOK,SCHWA zRETROFLEX HOOK,I zRETROFLEX HOOK,OPEN O zRETROFLEX HOOK,",
  "ESH zRETROFLEX HOOK,U zRETROFLEX HOOK,EZH zRETROFLEX HOOK;1D9B,MODIFIER mt,TURNED ALPHA,C,",
  "C zCURL,ETH,REVERSED OPEN E,F,DOTLESS J zSTROKE,SCRIPT G,TURNED H,I zSTROKE,IOTA,fI,fI zSTROKE,",
  "J zCROSSED-TAIL,L zRETROFLEX HOOK,L zPALATAL HOOK,fL,M zHOOK,TURNED M zLONG LEG,N zkHOOK,",
  "N zRETROFLEX HOOK,fN,BARRED O,PHI,S zHOOK,ESH,T zPALATAL HOOK,U BAR,UPSILON,fU,V zHOOK,",
  "TURNED V,Z,Z zRETROFLEX HOOK,Z zCURL,EZH,THETA;1DC0,COMBINING ,DOTTED GRAVE ACCENT,",
  "DOTTED ACUTE ACCENT,SNAKE d,SUSPENSION MARK,MACRON-ACUTE,GRAVE-MACRON,MACRON-GRAVE,",
  "ACUTE-MACRON,GRAVE-ACUTE-GRAVE,ACUTE-GRAVE-ACUTE,LATIN tmR d,BREVE-MACRON,MACRON-BREVE,",
  "gCIRCUMFLEX a,OGONEK a,ZIGZAG d,IS d,UR a,US a;1DD3,COMBINING LATIN ,tmFLATTENED OPEN A a,tmAE,",
  "tmAO,tmAV,tmC CEDILLA,tmINSULAR D,tmETH,tmG,mtfG,tmK,tmL,mtfL,mtfM,tmN,mtfN,mtfR;",
  "1DE3,COMBINING LATIN tm,R ROTUNDA,S,LONG S,Z,ALPHA,B,BETA,SCHWA,F,L zgoTILDE,",
  "O zLIGHT CENTRALIZATION STROKE,P,ESH,U zLIGHT CENTRALIZATION STROKE,W,A zDIAERESIS,",
  "O zDIAERESIS,U zDIAERESIS;1DF5,COMBINING ,UP TACK a,KAVYKA a RIGHT,KAVYKA a LEFT,DOT a LEFT,",
  "WIDE INVERTED BRIDGE d,DOT d LEFT,DELETION MARK,gINVERTED BREVE d,ALMOST EQUAL TO d,kcHEAD a,",
  "qcHEAD bDOWN cHEAD d;1E00,LATIN ,fmA zRING d,tmA zRING d,fmB zDOT a,tmB zDOT a,fmB zDOT d,",
  "tmB zDOT d,fmB zLINE d,tmB zLINE d,fmC zCEDILLA bACUTE,tmC zCEDILLA bACUTE,fmD zDOT a,",
  "tmD zDOT a,fmD zDOT d,tmD zDOT d,fmD zLINE d,tmD zLINE d,fmD zCEDILLA,tmD zCEDILLA,",
  "fmD zCIRCUMFLEX d,tmD zCIRCUMFLEX d,fmE zMACRON bGRAVE,tmE zMACRON bGRAVE,fmE zMACRON bACUTE,",
  "tmE zMACRON bACUTE,fmE zCIRCUMFLEX d,tmE zCIRCUMFLEX d,fmE zTILDE d,tmE zTILDE d,",
  "fmE zCEDILLA bBREVE,tmE zCEDILLA bBREVE,fmF zDOT a,tmF zDOT a,fmG zMACRON,tmG zMACRON,",
  "fmH zDOT a,tmH zDOT a,fmH zDOT d,tmH zDOT d,fmH zDIAERESIS,tmH zDIAERESIS,fmH zCEDILLA,",
  "tmH zCEDILLA,fmH zBREVE d,tmH zBREVE d,fmI zTILDE d,tmI zTILDE d,fmI zDIAERESIS bACUTE,",
  "tmI zDIAERESIS bACUTE,fmK zACUTE,tmK zACUTE,fmK zDOT d,tmK zDOT d,fmK zLINE d,tmK zLINE d,",
  "fmL zDOT d,tmL zDOT d,fmL zDOT d bMACRON,tmL zDOT d bMACRON,fmL zLINE d,tmL zLINE d,",
  "fmL zCIRCUMFLEX d,tmL zCIRCUMFLEX d,fmM zACUTE,tmM zACUTE,fmM zDOT a,tmM zDOT a,fmM zDOT d,",
  "tmM zDOT d,fmN zDOT a,tmN zDOT a,fmN zDOT d,tmN zDOT d,fmN zLINE d,tmN zLINE d,",
  "fmN zCIRCUMFLEX d,tmN zCIRCUMFLEX d,fmO zTILDE bACUTE,tmO zTILDE bACUTE,fmO zTILDE bDIAERESIS,",
  "tmO zTILDE bDIAERESIS,fmO zMACRON bGRAVE,tmO zMACRON bGRAVE,fmO zMACRON bACUTE,",
  "tmO zMACRON bACUTE,fmP zACUTE,tmP zACUTE,fmP zDOT a,tmP zDOT a,fmR zDOT a,tmR zDOT a,",
  "fmR zDOT d,tmR zDOT d,fmR zDOT d bMACRON,tmR zDOT d bMACRON,fmR zLINE d,tmR zLINE d,fmS zDOT a,",
  "tmS zDOT a,fmS zDOT d,tmS zDOT d,fmS zACUTE bDOT a,tmS zACUTE bDOT a,fmS zCARON bDOT a,",
  "tmS zCARON bDOT a,fmS zDOT d bDOT a,tmS zDOT d bDOT a,fmT zDOT a,tmT zDOT a,fmT zDOT d,",
  "tmT zDOT d,fmT zLINE d,tmT zLINE d,fmT zCIRCUMFLEX d,tmT zCIRCUMFLEX d,fmU zDIAERESIS d,",
  "tmU zDIAERESIS d,fmU zTILDE d,tmU zTILDE d,fmU zCIRCUMFLEX d,tmU zCIRCUMFLEX d,",
  "fmU zTILDE bACUTE,tmU zTILDE bACUTE,fmU zMACRON bDIAERESIS,tmU zMACRON bDIAERESIS,fmV zTILDE,",
  "tmV zTILDE,fmV zDOT d,tmV zDOT d,fmW zGRAVE,tmW zGRAVE,fmW zACUTE,tmW zACUTE,fmW zDIAERESIS,",
  "tmW zDIAERESIS,fmW zDOT a,tmW zDOT a,fmW zDOT d,tmW zDOT d,fmX zDOT a,tmX zDOT a,",
  "fmX zDIAERESIS,tmX zDIAERESIS,fmY zDOT a,tmY zDOT a,fmZ zCIRCUMFLEX,tmZ zCIRCUMFLEX,fmZ zDOT d,",
  "tmZ zDOT d,fmZ zLINE d,tmZ zLINE d,tmH zLINE d,tmT zDIAERESIS,tmW zRING a,tmY zRING a,",
  "tmA zqHALF RING,tmLONG S zDOT a,tmLONG S zDIAGONAL STROKE,tmLONG S zHIGH STROKE,fmSHARP S,",
  "tmDELTA,fmA zDOT d,tmA zDOT d,fmA zHOOK a,tmA zHOOK a,fmA zCIRCUMFLEX bACUTE,",
  "tmA zCIRCUMFLEX bACUTE,fmA zCIRCUMFLEX bGRAVE,tmA zCIRCUMFLEX bGRAVE,fmA zCIRCUMFLEX bHOOK a,",
  "tmA zCIRCUMFLEX bHOOK a,fmA zCIRCUMFLEX bTILDE,tmA zCIRCUMFLEX bTILDE,fmA zCIRCUMFLEX bDOT d,",
  "tmA zCIRCUMFLEX bDOT d,fmA zBREVE bACUTE,tmA zBREVE bACUTE,fmA zBREVE bGRAVE,tmA zBREVE bGRAVE,",
  "fmA zBREVE bHOOK a,tmA zBREVE bHOOK a,fmA zBREVE bTILDE,tmA zBREVE bTILDE,fmA zBREVE bDOT d,",
  "tmA zBREVE bDOT d,fmE zDOT d,tmE zDOT d,fmE zHOOK a,tmE zHOOK a,fmE zTILDE,tmE zTILDE,",
  "fmE zCIRCUMFLEX bACUTE,tmE zCIRCUMFLEX bACUTE,fmE zCIRCUMFLEX bGRAVE,tmE zCIRCUMFLEX bGRAVE,",
  "fmE zCIRCUMFLEX bHOOK a,tmE zCIRCUMFLEX bHOOK a,fmE zCIRCUMFLEX bTILDE,tmE zCIRCUMFLEX bTILDE,",
  "fmE zCIRCUMFLEX bDOT d,tmE zCIRCUMFLEX bDOT d,fmI zHOOK a,tmI zHOOK a,fmI zDOT d,tmI zDOT d,",
  "fmO zDOT d,tmO zDOT d,fmO zHOOK a,tmO zHOOK a,fmO zCIRCUMFLEX bACUTE,tmO zCIRCUMFLEX bACUTE,",
  "fmO zCIRCUMFLEX bGRAVE,tmO zCIRCUMFLEX bGRAVE,fmO zCIRCUMFLEX bHOOK a,tmO zCIRCUMFLEX bHOOK a,",
  "fmO zCIRCUMFLEX bTILDE,tmO zCIRCUMFLEX bTILDE,fmO zCIRCUMFLEX bDOT d,tmO zCIRCUMFLEX bDOT d,",
  "fmO zHORN bACUTE,tmO zHORN bACUTE,fmO zHORN bGRAVE,tmO zHORN bGRAVE,fmO zHORN bHOOK a,",
  "tmO zHORN bHOOK a,fmO zHORN bTILDE,tmO zHORN bTILDE,fmO zHORN bDOT d,tmO zHORN bDOT d,",
  "fmU zDOT d,tmU zDOT d,fmU zHOOK a,tmU zHOOK a,fmU zHORN bACUTE,tmU zHORN bACUTE,",
  "fmU zHORN bGRAVE,tmU zHORN bGRAVE,fmU zHORN bHOOK a,tmU zHORN bHOOK a,fmU zHORN bTILDE,",
  "tmU zHORN bTILDE,fmU zHORN bDOT d,tmU zHORN bDOT d,fmY zGRAVE,tmY zGRAVE,fmY zDOT d,tmY zDOT d,",
  "fmY zHOOK a,tmY zHOOK a,fmY zTILDE,tmY zTILDE,fmMIDDLE-WELSH LL,tmMIDDLE-WELSH LL,",
  "fmMIDDLE-WELSH V,tmMIDDLE-WELSH V,fmY zLOOP,tmY zLOOP;1F00,GREEK tmALPHA z,PSILI,DASIA,",
  "PSILI bVARIA,DASIA bVARIA,PSILI bOXIA,DASIA bOXIA,PSILI bPERISPOMENI,DASIA bPERISPOMENI;",
  "1F08,GREEK fmALPHA z,PSILI,DASIA,PSILI bVARIA,DASIA bVARIA,PSILI bOXIA,DASIA bOXIA,",
  "PSILI bPERISPOMENI,DASIA bPERISPOMENI;1F10,GREEK tmEPSILON z,PSILI,DASIA,PSILI bVARIA,",
  "DASIA bVARIA,PSILI bOXIA,DASIA bOXIA;1F18,GREEK fmEPSILON z,PSILI,DASIA,PSILI bVARIA,",
  "DASIA bVARIA,PSILI bOXIA,DASIA bOXIA;1F20,GREEK tmETA z,PSILI,DASIA,PSILI bVARIA,DASIA bVARIA,",
  "PSILI bOXIA,DASIA bOXIA,PSILI bPERISPOMENI,DASIA bPERISPOMENI;1F28,GREEK fmETA z,PSILI,DASIA,",
  "PSILI bVARIA,DASIA bVARIA,PSILI bOXIA,DASIA bOXIA,PSILI bPERISPOMENI,DASIA bPERISPOMENI;",
  "1F30,GREEK tmIOTA z,PSILI,DASIA,PSILI bVARIA,DASIA bVARIA,PSILI bOXIA,DASIA bOXIA,",
  "PSILI bPERISPOMENI,DASIA bPERISPOMENI;1F38,GREEK fmIOTA z,PSILI,DASIA,PSILI bVARIA,",
  "DASIA bVARIA,PSILI bOXIA,DASIA bOXIA,PSILI bPERISPOMENI,DASIA bPERISPOMENI;",
  "1F40,GREEK tmOMICRON z,PSILI,DASIA,PSILI bVARIA,DASIA bVARIA,PSILI bOXIA,DASIA bOXIA;",
  "1F48,GREEK fmOMICRON z,PSILI,DASIA,PSILI bVARIA,DASIA bVARIA,PSILI bOXIA,DASIA bOXIA;",
  "1F50,GREEK tmUPSILON z,PSILI,DASIA,PSILI bVARIA,DASIA bVARIA,PSILI bOXIA,DASIA bOXIA,",
  "PSILI bPERISPOMENI,DASIA bPERISPOMENI;1F59,,GREEK fmUPSILON zDASIA;",
  "1F5B,,GREEK fmUPSILON zDASIA bVARIA;1F5D,,GREEK fmUPSILON zDASIA bOXIA;",
  "1F5F,,GREEK fmUPSILON zDASIA bPERISPOMENI;1F60,GREEK tmOMEGA z,PSILI,DASIA,PSILI bVARIA,",
  "DASIA bVARIA,PSILI bOXIA,DASIA bOXIA,PSILI bPERISPOMENI,DASIA bPERISPOMENI;",
  "1F68,GREEK fmOMEGA z,PSILI,DASIA,PSILI bVARIA,DASIA bVARIA,PSILI bOXIA,DASIA bOXIA,",
  "PSILI bPERISPOMENI,DASIA bPERISPOMENI;1F70,GREEK tm,ALPHA zVARIA,ALPHA zOXIA,EPSILON zVARIA,",
  "EPSILON zOXIA,ETA zVARIA,ETA zOXIA,IOTA zVARIA,IOTA zOXIA,OMICRON zVARIA,OMICRON zOXIA,",
  "UPSILON zVARIA,UPSILON zOXIA,OMEGA zVARIA,OMEGA zOXIA;",
  "1F80,GREEK tmALPHA z,PSILI bYPOGEGRAMMENI,DASIA bYPOGEGRAMMENI,PSILI bVARIA bYPOGEGRAMMENI,",
  "DASIA bVARIA bYPOGEGRAMMENI,PSILI bOXIA bYPOGEGRAMMENI,DASIA bOXIA bYPOGEGRAMMENI,",
  "PSILI bPERISPOMENI bYPOGEGRAMMENI,DASIA bPERISPOMENI bYPOGEGRAMMENI;",
  "1F88,GREEK fmALPHA z,PSILI bPROSGEGRAMMENI,DASIA bPROSGEGRAMMENI,PSILI bVARIA bPROSGEGRAMMENI,",
  "DASIA bVARIA bPROSGEGRAMMENI,PSILI bOXIA bPROSGEGRAMMENI,DASIA bOXIA bPROSGEGRAMMENI,",
  "PSILI bPERISPOMENI bPROSGEGRAMMENI,DASIA bPERISPOMENI bPROSGEGRAMMENI;",
  "1F90,GREEK tmETA z,PSILI bYPOGEGRAMMENI,DASIA bYPOGEGRAMMENI,PSILI bVARIA bYPOGEGRAMMENI,",
  "DASIA bVARIA bYPOGEGRAMMENI,PSILI bOXIA bYPOGEGRAMMENI,DASIA bOXIA bYPOGEGRAMMENI,",
  "PSILI bPERISPOMENI bYPOGEGRAMMENI,DASIA bPERISPOMENI bYPOGEGRAMMENI;",
  "1F98,GREEK fmETA z,PSILI bPROSGEGRAMMENI,DASIA bPROSGEGRAMMENI,PSILI bVARIA bPROSGEGRAMMENI,",
  "DASIA bVARIA bPROSGEGRAMMENI,PSILI bOXIA bPROSGEGRAMMENI,DASIA bOXIA bPROSGEGRAMMENI,",
  "PSILI bPERISPOMENI bPROSGEGRAMMENI,DASIA bPERISPOMENI bPROSGEGRAMMENI;",
  "1FA0,GREEK tmOMEGA z,PSILI bYPOGEGRAMMENI,DASIA bYPOGEGRAMMENI,PSILI bVARIA bYPOGEGRAMMENI,",
  "DASIA bVARIA bYPOGEGRAMMENI,PSILI bOXIA bYPOGEGRAMMENI,DASIA bOXIA bYPOGEGRAMMENI,",
  "PSILI bPERISPOMENI bYPOGEGRAMMENI,DASIA bPERISPOMENI bYPOGEGRAMMENI;",
  "1FA8,GREEK fmOMEGA z,PSILI bPROSGEGRAMMENI,DASIA bPROSGEGRAMMENI,PSILI bVARIA bPROSGEGRAMMENI,",
  "DASIA bVARIA bPROSGEGRAMMENI,PSILI bOXIA bPROSGEGRAMMENI,DASIA bOXIA bPROSGEGRAMMENI,",
  "PSILI bPERISPOMENI bPROSGEGRAMMENI,DASIA bPERISPOMENI bPROSGEGRAMMENI;",
  "1FB0,GREEK tmALPHA z,VRACHY,MACRON,VARIA bYPOGEGRAMMENI,YPOGEGRAMMENI,OXIA bYPOGEGRAMMENI;",
  "1FB6,GREEK tmALPHA z,PERISPOMENI,PERISPOMENI bYPOGEGRAMMENI;1FB8,GREEK fmALPHA z,VRACHY,MACRON,",
  "VARIA,OXIA,PROSGEGRAMMENI;1FBD,GREEK ,KORONIS,PROSGEGRAMMENI,PSILI,PERISPOMENI,",
  "DIALYTIKA bPERISPOMENI,tmETA zVARIA bYPOGEGRAMMENI,tmETA zYPOGEGRAMMENI,",
  "tmETA zOXIA bYPOGEGRAMMENI;1FC6,GREEK tmETA z,PERISPOMENI,PERISPOMENI bYPOGEGRAMMENI;",
  "1FC8,GREEK fmEPSILON z,VARIA,OXIA;1FCA,GREEK fmETA z,VARIA,OXIA,PROSGEGRAMMENI;",
  "1FCD,GREEK PSILI b,VARIA,OXIA,PERISPOMENI;1FD0,GREEK tmIOTA z,VRACHY,MACRON,DIALYTIKA bVARIA,",
  "DIALYTIKA bOXIA;1FD6,GREEK tmIOTA z,PERISPOMENI,DIALYTIKA bPERISPOMENI;",
  "1FD8,GREEK fmIOTA z,VRACHY,MACRON,VARIA,OXIA;1FDD,GREEK DASIA b,VARIA,OXIA,PERISPOMENI;",
  "1FE0,GREEK tmUPSILON z,VRACHY,MACRON,DIALYTIKA bVARIA,DIALYTIKA bOXIA;1FE4,GREEK tm,RHO zPSILI,",
  "RHO zDASIA,UPSILON zPERISPOMENI,UPSILON zDIALYTIKA bPERISPOMENI;1FE8,GREEK fmUPSILON z,VRACHY,",
  "MACRON,VARIA,OXIA;1FEC,GREEK ,fmRHO zDASIA,DIALYTIKA bVARIA,DIALYTIKA bOXIA,VARIA;",
  "1FF2,GREEK tmOMEGA z,VARIA bYPOGEGRAMMENI,YPOGEGRAMMENI,OXIA bYPOGEGRAMMENI;",
  "1FF6,GREEK ,tmOMEGA zPERISPOMENI,tmOMEGA zPERISPOMENI bYPOGEGRAMMENI,fmOMICRON zVARIA,",
  "fmOMICRON zOXIA,fmOMEGA zVARIA,fmOMEGA zOXIA,fmOMEGA zPROSGEGRAMMENI,OXIA,DASIA;2000,,EN QUAD,",
  "EM QUAD,EN SPACE,EM SPACE,THREE-PER-EM SPACE,FOUR-PER-EM SPACE,SIX-PER-EM SPACE,FIGURE SPACE,",
  "PUNCTUATION SPACE,THIN SPACE,HAIR SPACE;200B,ZERO WIDTH ,SPACE,NON-JOINER,JOINER;",
  "200E,,LEFT-TO-qMARK,RIGHT-TO-kMARK,HYPHEN,NON-BREAKING HYPHEN,FIGURE DASH,EN DASH,EM DASH,",
  "HORIZONTAL BAR,gwLINE,gLOW LINE,kSINGLE QUOTATION MARK,qSINGLE QUOTATION MARK,",
  "SINGLE LOW-9 QUOTATION MARK,SINGLE HIGH-REVERSED-9 QUOTATION MARK,kgQUOTATION MARK,",
  "qgQUOTATION MARK,gLOW-9 QUOTATION MARK,gHIGH-REVERSED-9 QUOTATION MARK,DAGGER,gDAGGER,BULLET,",
  "TRIANGULAR BULLET,ONE DOT LEADER,TWO DOT LEADER,HORIZONTAL ELLIPSIS,HYPHENATION POINT,",
  "LINE SEPARATOR,PARAGRAPH SEPARATOR,LEFT-TO-qEMBEDDING,RIGHT-TO-kEMBEDDING,",
  "POP DIRECTIONAL FORMATTING,LEFT-TO-qOVERRIDE,RIGHT-TO-kOVERRIDE,NARROW NO-BREAK SPACE,",
  "PER MILLE SIGN,PER TEN THOUSAND SIGN,PRIME,gPRIME,TRIPLE PRIME;2035,REVERSED ,PRIME,gPRIME,",
  "TRIPLE PRIME;2038,,CARET,SINGLE LEFT-pANGLE QUOTATION MARK,SINGLE RIGHT-pANGLE QUOTATION MARK,",
  "REFERENCE MARK,gEXCLAMATION MARK,INTERROBANG,OVERLINE,UNDERTIE,CHARACTER TIE,",
  "CARET INSERTION POINT,ASTERISM,HYPHEN BULLET,FRACTION SLASH,kSQUARE BRACKET zQUILL,",
  "qSQUARE BRACKET zQUILL,gQUESTION MARK,QUESTION EXCLAMATION MARK,EXCLAMATION QUESTION MARK,",
  "TIRONIAN sET,REVERSED PILCROW SIGN,elBULLET,erBULLET,LOW ASTERISK,REVERSED SEMICOLON,CLOSE UP,",
  "TWO ASTERISKS ALIGNED VERTICALLY,COMMERCIAL MINUS SIGN,SWUNG DASH,INVERTED UNDERTIE,",
  "FLOWER PUNCTUATION MARK,THREE DOT PUNCTUATION,QUADRUPLE PRIME,FOUR DOT PUNCTUATION,",
  "FIVE DOT PUNCTUATION,TWO DOT PUNCTUATION,FOUR DOT MARK,DOTTED CROSS,TRICOLON,wFOUR DOTS,",
  "MEDIUM nSPACE,WORD JOINER,FUNCTION APPLICATION;2062,INVISIBLE ,TIMES,SEPARATOR,PLUS;",
  "2066,,LEFT-TO-qISOLATE,RIGHT-TO-kISOLATE,FIRST STRONG ISOLATE,POP DIRECTIONAL ISOLATE,",
  "INHIBIT SYMMETRIC SWAPPING,ACTIVATE SYMMETRIC SWAPPING,INHIBIT ARABIC FORM SHAPING,",
  "ACTIVATE ARABIC FORM SHAPING,NATIONAL DIGIT SHAPES,NOMINAL DIGIT SHAPES;2070,SUPERSCRIPT ,ZERO,",
  "LATIN tmI;2074,SUPERSCRIPT ,FOUR,FIVE,SIX,SEVEN,EIGHT,NINE,PLUS SIGN,MINUS,EQUALS SIGN,",
  "kPARENTHESIS,qPARENTHESIS,LATIN tmN;2080,SUBSCRIPT ,ZERO,ONE,TWO,THREE,FOUR,FIVE,SIX,SEVEN,",
  "EIGHT,NINE,PLUS SIGN,MINUS,EQUALS SIGN,kPARENTHESIS,qPARENTHESIS;2090,LATIN SUBSCRIPT tm,A,E,O,",
  "X,SCHWA,H,K,L,M,N,P,S,T;20A0,,EURO-CURRENCY SIGN,COLON SIGN,CRUZEIRO SIGN,FRENCH FRANC SIGN,",
  "LIRA SIGN,MILL SIGN,NAIRA SIGN,PESETA SIGN,RUPEE SIGN,WON SIGN,NEW SHEQEL SIGN,DONG SIGN,",
  "EURO SIGN,KIP SIGN,TUGRIK SIGN,DRACHMA SIGN,GERMAN PENNY SIGN,PESO SIGN,GUARANI SIGN,",
  "AUSTRAL SIGN,HRYVNIA SIGN,CEDI SIGN,LIVRE TOURNOIS SIGN,SPESMILO SIGN,TENGE SIGN,",
  "INDIAN RUPEE SIGN,TURKISH LIRA SIGN,NORDIC MARK SIGN,MANAT SIGN,RUBLE SIGN,LARI SIGN,",
  "BITCOIN SIGN,SOM SIGN;20D0,COMBINING ,kHARPOON a,qHARPOON a,LONG wLINE OVERLAY,",
  "SHORT wLINE OVERLAY,ANTICLOCKWISE c a,CLOCKWISE c a,kc a,qc a,RING OVERLAY,",
  "CLOCKWISE RING OVERLAY,ANTICLOCKWISE RING OVERLAY,THREE DOTS a,FOUR DOTS a,ENCLOSING CIRCLE,",
  "ENCLOSING SQUARE,ENCLOSING DIAMOND,ENCLOSING CIRCLE BACKSLASH,kqc a,ENCLOSING SCREEN,",
  "ENCLOSING KEYCAP,ENCLOSING UPWARD pTRIANGLE,REVERSE SOLIDUS OVERLAY,gwSTROKE OVERLAY,",
  "ANNUITY SYMBOL,TRIPLE UNDERDOT,WIDE BRIDGE a,lc OVERLAY,LONG gSOLIDUS OVERLAY,",
  "rHARPOON zBARB DOWNWARDS,lHARPOON zBARB DOWNWARDS,kc d,qc d,ASTERISK a;2100,,ACCOUNT OF,",
  "ADDRESSED TO THE SUBJECT,DOUBLE-STRUCK fC,DEGREE CELSIUS,CENTRE LINE SYMBOL,CARE OF,CADA UNA,",
  "EULER CONSTANT,SCRUPLE,DEGREE FAHRENHEIT,SCRIPT tG,SCRIPT fH,BLACK-mfH,DOUBLE-STRUCK fH,",
  "PLANCK CONSTANT,PLANCK CONSTANT OVER TWO PI,SCRIPT fI,BLACK-mfI,SCRIPT fL,SCRIPT tL,",
  "L B BAR SYMBOL,DOUBLE-STRUCK fN,NUMERO SIGN,SOUND RECORDING COPYRIGHT,SCRIPT fP,",
  "DOUBLE-STRUCK fP,DOUBLE-STRUCK fQ,SCRIPT fR,BLACK-mfR,DOUBLE-STRUCK fR,PRESCRIPTION TAKE,",
  "RESPONSE,SERVICE MARK,TELEPHONE SIGN,TRADE MARK SIGN,VERSICLE,DOUBLE-STRUCK fZ,OUNCE SIGN,",
  "OHM SIGN,INVERTED OHM SIGN,BLACK-mfZ,TURNED GREEK tmIOTA,KELVIN SIGN,ANGSTROM SIGN,SCRIPT fB,",
  "BLACK-mfC,ESTIMATED SYMBOL,SCRIPT tE,SCRIPT fE,SCRIPT fF,TURNED fF,SCRIPT fM,SCRIPT tO,",
  "ALEF SYMBOL,BET SYMBOL,GIMEL SYMBOL,DALET SYMBOL,INFORMATION SOURCE,ROTATED fQ,FACSIMILE SIGN;",
  "213C,DOUBLE-STRUCK ,tPI,tGAMMA,fGAMMA,fPI,N-ARY SUMMATION;2141,TURNED SANS-SERIF f,G,L;",
  "2143,,REVERSED SANS-SERIF fL,TURNED SANS-SERIF fY;2145,DOUBLE-STRUCK ITALIC ,fD,tD,tE,tI,tJ;",
  "214A,,PROPERTY LINE,TURNED AMPERSAND,PER SIGN,AKTIESELSKAB,TURNED tF,",
  "SYMBOL FOR SAMARITAN SOURCE;2150,VULGAR FRACTION ,ONE SEVENTH,ONE NINTH,ONE TENTH,ONE THIRD,",
  "TWO THIRDS,ONE FIFTH,TWO FIFTHS,THREE FIFTHS,FOUR FIFTHS,ONE SIXTH,FIVE SIXTHS,ONE EIGHTH,",
  "THREE EIGHTHS,FIVE EIGHTHS,SEVEN EIGHTHS;215F,,FRACTION NUMERATOR ONE;2160,ROMAN NUMERAL ,ONE,",
  "TWO,THREE,FOUR,FIVE,SIX,SEVEN,EIGHT,NINE,TEN,ELEVEN,TWELVE,FIFTY,ONE HUNDRED,FIVE HUNDRED,",
  "ONE THOUSAND;2170,tROMAN NUMERAL ,ONE,TWO,THREE,FOUR,FIVE,SIX,SEVEN,EIGHT,NINE,TEN,ELEVEN,",
  "TWELVE,FIFTY,ONE HUNDRED,FIVE HUNDRED,ONE THOUSAND;2180,ROMAN NUMERAL ,ONE THOUSAND C D,",
  "FIVE THOUSAND,TEN THOUSAND,REVERSED ONE HUNDRED;2184,,LATIN tmREVERSED C;",
  "2185,ROMAN NUMERAL ,SIX LATE FORM,FIFTY EARLY FORM,FIFTY THOUSAND,ONE HUNDRED THOUSAND;",
  "2189,,VULGAR FRACTION ZERO THIRDS;218A,TURNED DIGIT ,TWO,THREE;2190,,lc,UPWARDS c,rc,",
  "DOWNWARDS c,kqc,UP DOWN c,NORTH WEST c,NORTH EAST c,SOUTH EAST c,SOUTH WEST c,lc zSTROKE,",
  "rc zSTROKE,lWAVE c,rWAVE c,lTWO HEADED c,UPWARDS TWO HEADED c,rTWO HEADED c,",
  "DOWNWARDS TWO HEADED c,lc zTAIL,rc zTAIL,lc FROM BAR,UPWARDS c FROM BAR,rc FROM BAR,",
  "DOWNWARDS c FROM BAR,UP DOWN c zBASE,lc zHOOK,rc zHOOK,lc zLOOP,rc zLOOP,kqWAVE c,kqc zSTROKE,",
  "DOWNWARDS ZIGZAG c;21B0,UPWARDS c zTIP ,LEFTWARDS,RIGHTWARDS;21B2,DOWNWARDS c zTIP ,LEFTWARDS,",
  "RIGHTWARDS;21B4,,rc zCORNER DOWNWARDS,DOWNWARDS c zCORNER LEFTWARDS,",
  "ANTICLOCKWISE TOP SEMICIRCLE c,CLOCKWISE TOP SEMICIRCLE c,NORTH WEST c TO LONG BAR,",
  "lc TO BAR OVER rc TO BAR,ANTICLOCKWISE OPEN CIRCLE c,CLOCKWISE OPEN CIRCLE c;",
  "21BC,lHARPOON zBARB ,UPWARDS,DOWNWARDS;21BE,UPWARDS HARPOON zBARB ,RIGHTWARDS,LEFTWARDS;",
  "21C0,rHARPOON zBARB ,UPWARDS,DOWNWARDS;21C2,DOWNWARDS HARPOON zBARB ,RIGHTWARDS,LEFTWARDS;",
  "21C4,,rc OVER lc,UPWARDS c lOF DOWNWARDS c,lc OVER rc,lPAIRED cS,UPWARDS PAIRED cS,rPAIRED cS,",
  "DOWNWARDS PAIRED cS,lHARPOON OVER rHARPOON,rHARPOON OVER lHARPOON,lgc zSTROKE,kqgc zSTROKE,",
  "rgc zSTROKE,lgc,UPWARDS gc,rgc,DOWNWARDS gc,kqgc,UP DOWN gc,NORTH WEST gc,NORTH EAST gc,",
  "SOUTH EAST gc,SOUTH WEST gc,lTRIPLE c,rTRIPLE c,lSQUIGGLE c,rSQUIGGLE c,UPWARDS c zgSTROKE,",
  "DOWNWARDS c zgSTROKE,lDASHED c,UPWARDS DASHED c,rDASHED c,DOWNWARDS DASHED c,lc TO BAR,",
  "rc TO BAR,lyc,UPWARDS yc,ryc,DOWNWARDS yc;21EA,UPWARDS y,c FROM BAR,c ON PEDESTAL,",
  "c ON PEDESTAL zHORIZONTAL BAR,c ON PEDESTAL zwBAR,gc,gc ON PEDESTAL;21F0,,ryc FROM WALL,",
  "NORTH WEST c TO CORNER,SOUTH EAST c TO CORNER,UP DOWN yc,qc ztCIRCLE,DOWNWARDS c lOF UPWARDS c,",
  "THREE rcS,lc zwSTROKE,rc zwSTROKE,kqc zwSTROKE,lc zgwSTROKE,rc zgwSTROKE,kqc zgwSTROKE,",
  "lOPEN-HEADED c,rOPEN-HEADED c,kqOPEN-HEADED c,FOR ALL,COMPLEMENT,PARTIAL DIFFERENTIAL,",
  "THERE EXISTS,THERE DOES NOT EXIST,EMPTY SET,INCREMENT,NABLA,ELEMENT OF,NOT AN ELEMENT OF,",
  "tELEMENT OF,CONTAINS AS MEMBER,DOES NOT CONTAIN AS MEMBER,tCONTAINS AS MEMBER,END OF PROOF;",
  "220F,N-ARY ,PRODUCT,COPRODUCT,SUMMATION;2212,,MINUS SIGN,MINUS-OR-PLUS SIGN,DOT PLUS,",
  "DIVISION SLASH,SET MINUS,ASTERISK OPERATOR,RING OPERATOR,BULLET OPERATOR,SQUARE ROOT,CUBE ROOT,",
  "FOURTH ROOT,PROPORTIONAL TO,INFINITY,qANGLE,ANGLE,MEASURED ANGLE,SPHERICAL ANGLE,DIVIDES,",
  "DOES NOT DIVIDE,PARALLEL TO,NOT PARALLEL TO,LOGICAL AND,LOGICAL OR,INTERSECTION,UNION,INTEGRAL,",
  "gINTEGRAL,TRIPLE INTEGRAL,CONTOUR INTEGRAL,SURFACE INTEGRAL,VOLUME INTEGRAL,CLOCKWISE INTEGRAL,",
  "CLOCKWISE CONTOUR INTEGRAL,ANTICLOCKWISE CONTOUR INTEGRAL,THEREFORE,BECAUSE,RATIO,PROPORTION,",
  "DOT MINUS,EXCESS,GEOMETRIC PROPORTION,HOMOTHETIC,TILDE OPERATOR,REVERSED TILDE,INVERTED LAZY S,",
  "SINE WAVE,WREATH PRODUCT,NOT TILDE,MINUS TILDE,ASYMPTOTICALLY EQUAL TO,",
  "NOT ASYMPTOTICALLY EQUAL TO,APPROXIMATELY EQUAL TO,APPROXIMATELY BUT NOT ACTUALLY EQUAL TO,",
  "NEITHER APPROXIMATELY NOR ACTUALLY EQUAL TO,ALMOST EQUAL TO,NOT ALMOST EQUAL TO,",
  "ALMOST EQUAL OR EQUAL TO,TRIPLE TILDE,ALL EQUAL TO,EQUIVALENT TO,GEOMETRICALLY EQUIVALENT TO;",
  "224F,,DIFFERENCE BETWEEN,APPROACHES THE LIMIT,GEOMETRICALLY EQUAL TO,",
  "APPROXIMATELY EQUAL TO OR THE IMAGE OF,IMAGE OF OR APPROXIMATELY EQUAL TO,COLON EQUALS,",
  "EQUALS COLON,RING IN EQUAL TO,RING EQUAL TO,CORRESPONDS TO,ESTIMATES,EQUIANGULAR TO,",
  "STAR EQUALS,DELTA EQUAL TO,EQUAL TO BY DEFINITION,MEASURED BY,QUESTIONED EQUAL TO,NOT EQUAL TO,",
  "IDENTICAL TO,NOT IDENTICAL TO,STRICTLY EQUIVALENT TO,LESS-THAN OR EQUAL TO,",
  "GREATER-THAN OR EQUAL TO,LESS-THAN OVER EQUAL TO,GREATER-THAN OVER EQUAL TO,",
  "LESS-THAN BUT NOT EQUAL TO,GREATER-THAN BUT NOT EQUAL TO,MUCH LESS-THAN,MUCH GREATER-THAN,",
  "BETWEEN,NOT EQUIVALENT TO,NOT LESS-THAN,NOT GREATER-THAN,NEITHER LESS-THAN NOR EQUAL TO,",
  "NEITHER GREATER-THAN NOR EQUAL TO,LESS-THAN OR EQUIVALENT TO,GREATER-THAN OR EQUIVALENT TO,",
  "NEITHER LESS-THAN NOR EQUIVALENT TO,NEITHER GREATER-THAN NOR EQUIVALENT TO,",
  "LESS-THAN OR GREATER-THAN,GREATER-THAN OR LESS-THAN,NEITHER LESS-THAN NOR GREATER-THAN,",
  "NEITHER GREATER-THAN NOR LESS-THAN,PRECEDES,SUCCEEDS,PRECEDES OR EQUAL TO,SUCCEEDS OR EQUAL TO,",
  "PRECEDES OR EQUIVALENT TO,SUCCEEDS OR EQUIVALENT TO,DOES NOT PRECEDE,DOES NOT SUCCEED,",
  "SUBSET OF,SUPERSET OF,NOT A SUBSET OF,NOT A SUPERSET OF,SUBSET OF OR EQUAL TO,",
  "SUPERSET OF OR EQUAL TO,NEITHER A SUBSET OF NOR EQUAL TO,NEITHER A SUPERSET OF NOR EQUAL TO,",
  "SUBSET OF zNOT EQUAL TO,SUPERSET OF zNOT EQUAL TO,MULTISET;228D,MULTISET ,MULTIPLICATION,UNION;",
  "228F,SQUARE ,IMAGE OF,ORIGINAL OF,IMAGE OF OR EQUAL TO,ORIGINAL OF OR EQUAL TO,CAP,CUP;",
  "2295,CIRCLED ,PLUS,MINUS,TIMES,DIVISION SLASH,DOT OPERATOR,RING OPERATOR,ASTERISK OPERATOR,",
  "EQUALS,DASH;229E,SQUARED ,PLUS,MINUS,TIMES,DOT OPERATOR;22A2,,qTACK,kTACK,DOWN TACK,UP TACK,",
  "ASSERTION,MODELS,TRUE,FORCES,TRIPLE wBAR qTURNSTILE,gwBAR gqTURNSTILE,DOES NOT PROVE,NOT TRUE,",
  "DOES NOT FORCE,NEGATED gwBAR gqTURNSTILE,PRECEDES UNDER RELATION,SUCCEEDS UNDER RELATION,",
  "NORMAL SUBGROUP OF,CONTAINS AS NORMAL SUBGROUP,NORMAL SUBGROUP OF OR EQUAL TO,",
  "CONTAINS AS NORMAL SUBGROUP OR EQUAL TO,ORIGINAL OF,IMAGE OF,MULTIMAP,",
  "HERMITIAN CONJUGATE MATRIX,INTERCALATE,XOR,NAND,NOR,qANGLE zARC,qTRIANGLE;",
  "22C0,N-ARY ,LOGICAL AND,LOGICAL OR,INTERSECTION,UNION;22C4,,DIAMOND OPERATOR,DOT OPERATOR,",
  "STAR OPERATOR,DIVISION TIMES,BOWTIE,kNORMAL FACTOR SEMIDIRECT PRODUCT,",
  "qNORMAL FACTOR SEMIDIRECT PRODUCT,kSEMIDIRECT PRODUCT,qSEMIDIRECT PRODUCT,",
  "REVERSED TILDE EQUALS,CURLY LOGICAL OR,CURLY LOGICAL AND,gSUBSET,gSUPERSET,gINTERSECTION,",
  "gUNION,PITCHFORK,EQUAL bPARALLEL TO,LESS-THAN zDOT,GREATER-THAN zDOT,VERY MUCH LESS-THAN,",
  "VERY MUCH GREATER-THAN,LESS-THAN EQUAL TO OR GREATER-THAN,GREATER-THAN EQUAL TO OR LESS-THAN;",
  "22DC,EQUAL TO OR ,LESS-THAN,GREATER-THAN,PRECEDES,SUCCEEDS;22E0,DOES NOT ,PRECEDE OR EQUAL,",
  "SUCCEED OR EQUAL;22E2,NOT SQUARE ,IMAGE OF OR EQUAL TO,ORIGINAL OF OR EQUAL TO;",
  "22E4,,SQUARE IMAGE OF OR NOT EQUAL TO,SQUARE ORIGINAL OF OR NOT EQUAL TO,",
  "LESS-THAN BUT NOT EQUIVALENT TO,GREATER-THAN BUT NOT EQUIVALENT TO,",
  "PRECEDES BUT NOT EQUIVALENT TO,SUCCEEDS BUT NOT EQUIVALENT TO,NOT NORMAL SUBGROUP OF,",
  "DOES NOT CONTAIN AS NORMAL SUBGROUP,NOT NORMAL SUBGROUP OF OR EQUAL TO,",
  "DOES NOT CONTAIN AS NORMAL SUBGROUP OR EQUAL,wELLIPSIS,MIDLINE HORIZONTAL ELLIPSIS,",
  "UP qDIAGONAL ELLIPSIS,DOWN qDIAGONAL ELLIPSIS,ELEMENT OF zLONG HORIZONTAL STROKE,",
  "ELEMENT OF zwBAR AT END OF HORIZONTAL STROKE,tELEMENT OF zwBAR AT END OF HORIZONTAL STROKE,",
  "ELEMENT OF zDOT a,ELEMENT OF zOVERBAR,tELEMENT OF zOVERBAR;22F8,ELEMENT OF z,UNDERBAR,",
  "TWO HORIZONTAL STROKES;22FA,CONTAINS z,LONG HORIZONTAL STROKE,wBAR AT END OF HORIZONTAL STROKE;",
  "22FC,,tCONTAINS zwBAR AT END OF HORIZONTAL STROKE,CONTAINS zOVERBAR,tCONTAINS zOVERBAR,",
  "Z NOTATION BAG MEMBERSHIP,DIAMETER SIGN,ELECTRIC c,HOUSE,UP cHEAD,DOWN cHEAD,PROJECTIVE,",
  "PERSPECTIVE,WAVY LINE,kCEILING,qCEILING,kFLOOR,qFLOOR,BOTTOM qCROP,BOTTOM kCROP,TOP qCROP,",
  "TOP kCROP,REVERSED NOT SIGN,SQUARE LOZENGE,ARC,SEGMENT,SECTOR,TELEPHONE RECORDER,",
  "POSITION INDICATOR,VIEWDATA SQUARE,PLACE OF INTEREST SIGN,TURNED NOT SIGN,WATCH,HOURGLASS,",
  "TOP kCORNER,TOP qCORNER,BOTTOM kCORNER,BOTTOM qCORNER,TOP HALF INTEGRAL,BOTTOM HALF INTEGRAL,",
  "FROWN,SMILE,UP cHEAD BETWEEN TWO HORIZONTAL BARS,OPTION KEY,ERASE TO THE RIGHT,",
  "X IN A RECTANGLE BOX,KEYBOARD,LEFT-pANGLE BRACKET,RIGHT-pANGLE BRACKET,ERASE TO THE LEFT,",
  "BENZENE RING,CYLINDRICITY,ALL AROUND-PROFILE,SYMMETRY,TOTAL RUNOUT,DIMENSION ORIGIN,",
  "CONICAL TAPER,SLOPE,COUNTERBORE,COUNTERSINK;2336,APL FUNCTIONAL SYMBOL ,I-BEAM,SQUISH QUAD,",
  "QUAD EQUAL,QUAD DIVIDE,QUAD DIAMOND,QUAD JOT,QUAD CIRCLE,CIRCLE STILE,CIRCLE JOT,SLASH BAR,",
  "BACKSLASH BAR,QUAD SLASH,QUAD BACKSLASH,QUAD LESS-THAN,QUAD GREATER-THAN,lVANE,rVANE,QUAD lc,",
  "QUAD rc,CIRCLE BACKSLASH,DOWN TACK UNDERBAR,DELTA STILE,QUAD DOWN CARET,QUAD DELTA,",
  "DOWN TACK JOT,UPWARDS VANE,QUAD UPWARDS c,UP TACK OVERBAR,DEL STILE,QUAD UP CARET,QUAD DEL,",
  "UP TACK JOT,DOWNWARDS VANE,QUAD DOWNWARDS c,QUOTE UNDERBAR,DELTA UNDERBAR,DIAMOND UNDERBAR,",
  "JOT UNDERBAR,CIRCLE UNDERBAR,UP SHOE JOT,QUOTE QUAD,CIRCLE STAR,QUAD COLON,UP TACK DIAERESIS,",
  "DEL DIAERESIS,STAR DIAERESIS,JOT DIAERESIS,CIRCLE DIAERESIS,DOWN SHOE STILE,kSHOE STILE,",
  "TILDE DIAERESIS,GREATER-THAN DIAERESIS,COMMA BAR,DEL TILDE,ZILDE,STILE TILDE,",
  "SEMICOLON UNDERBAR,QUAD NOT EQUAL,QUAD QUESTION,DOWN CARET TILDE,UP CARET TILDE,IOTA,RHO,OMEGA,",
  "ALPHA UNDERBAR,EPSILON UNDERBAR,IOTA UNDERBAR,OMEGA UNDERBAR,ALPHA;237B,,NOT CHECK MARK,",
  "qANGLE zDOWNWARDS ZIGZAG c,SHOULDERED OPEN BOX,BELL SYMBOL,wLINE zoDOT,INSERTION SYMBOL,",
  "CONTINUOUS UNDERLINE SYMBOL,DISCONTINUOUS UNDERLINE SYMBOL,EMPHASIS SYMBOL,COMPOSITION SYMBOL,",
  "ySQUARE zCENTRE wLINE,ENTER SYMBOL,ALTERNATIVE KEY SYMBOL,HELM SYMBOL,",
  "CIRCLED HORIZONTAL BAR zNOTCH,CIRCLED TRIANGLE DOWN,BROKEN CIRCLE zNORTHWEST c,UNDO SYMBOL,",
  "MONOSTABLE SYMBOL,HYSTERESIS SYMBOL;238F,OPEN-CIRCUIT-OUTPUT ,H-TYPE SYMBOL,L-TYPE SYMBOL;",
  "2391,PASSIVE-PULL-,DOWN-OUTPUT SYMBOL,UP-OUTPUT SYMBOL;2393,,DIRECT CURRENT SYMBOL FORM TWO,",
  "SOFTWARE-FUNCTION SYMBOL,APL FUNCTIONAL SYMBOL QUAD,DECIMAL SEPARATOR KEY SYMBOL,PREVIOUS PAGE,",
  "NEXT PAGE,PRINT SCREEN SYMBOL,CLEAR SCREEN SYMBOL;239B,kPARENTHESIS ,UPPER HOOK,EXTENSION,",
  "LOWER HOOK;239E,qPARENTHESIS ,UPPER HOOK,EXTENSION,LOWER HOOK;",
  "23A1,kSQUARE BRACKET ,UPPER CORNER,EXTENSION,LOWER CORNER;23A4,qSQUARE BRACKET ,UPPER CORNER,",
  "EXTENSION,LOWER CORNER;23A7,kCURLY BRACKET ,UPPER HOOK,oPIECE,LOWER HOOK;",
  "23AA,,CURLY BRACKET EXTENSION;23AB,qCURLY BRACKET ,UPPER HOOK,oPIECE,LOWER HOOK;",
  "23AE,,INTEGRAL EXTENSION,HORIZONTAL LINE EXTENSION,UPPER kOR LOWER qCURLY BRACKET SECTION,",
  "UPPER qOR LOWER kCURLY BRACKET SECTION,SUMMATION TOP,SUMMATION BOTTOM,TOP SQUARE BRACKET,",
  "BOTTOM SQUARE BRACKET,BOTTOM SQUARE BRACKET OVER TOP SQUARE BRACKET,RADICAL SYMBOL BOTTOM,",
  "kwBOX LINE,qwBOX LINE;23BA,HORIZONTAL SCAN LINE-,1,3,7,9;",
  "23BE,DENTISTRY SYMBOL LIGHT ,wbTOP RIGHT,wbBOTTOM RIGHT,wzCIRCLE,DOWN bHORIZONTAL zCIRCLE,",
  "UP bHORIZONTAL zCIRCLE,wzTRIANGLE,DOWN bHORIZONTAL zTRIANGLE,UP bHORIZONTAL zTRIANGLE,wbWAVE,",
  "DOWN bHORIZONTAL zWAVE,UP bHORIZONTAL zWAVE,DOWN bHORIZONTAL,UP bHORIZONTAL,wbTOP LEFT,",
  "wbBOTTOM LEFT;23CD,,SQUARE FOOT,RETURN SYMBOL,EJECT SYMBOL,wLINE EXTENSION;",
  "23D1,METRICAL ,BREVE,LONG OVER SHORT,SHORT OVER LONG,LONG OVER TWO SHORTS,TWO SHORTS OVER LONG,",
  "TWO SHORTS JOINED,TRISEME,TETRASEME,PENTASEME;23DA,,EARTH GROUND,FUSE,TOP PARENTHESIS,",
  "BOTTOM PARENTHESIS,TOP CURLY BRACKET,BOTTOM CURLY BRACKET,TOP TORTOISE SHELL BRACKET,",
  "BOTTOM TORTOISE SHELL BRACKET,yTRAPEZIUM,BENZENE RING zCIRCLE,STRAIGHTNESS,FLATNESS,AC CURRENT,",
  "ELECTRICAL INTERSECTION,DECIMAL EXPONENT SYMBOL,eRIGHT-pgTRIANGLE,eLEFT-pgTRIANGLE,",
  "eUP-pgTRIANGLE,eDOWN-pgTRIANGLE,eRIGHT-pgTRIANGLE zwBAR,eLEFT-pgTRIANGLE zwBAR,",
  "eRIGHT-pTRIANGLE zgwBAR,ALARM CLOCK,STOPWATCH,TIMER CLOCK,HOURGLASS zFLOWING SAND;",
  "23F4,eMEDIUM ,LEFT-pTRIANGLE,RIGHT-pTRIANGLE,UP-pTRIANGLE,DOWN-pTRIANGLE;23F8,,gwBAR,",
  "eSQUARE FOR STOP,eCIRCLE FOR RECORD;23FB,POWER ,SYMBOL,ON-OFF SYMBOL,ON SYMBOL,SLEEP SYMBOL;",
  "23FF,,OBSERVER EYE SYMBOL;2400,SYMBOL FOR ,NULL,START OF HEADING,START OF TEXT,END OF TEXT,",
  "END OF TRANSMISSION,ENQUIRY,ACKNOWLEDGE,BELL,BACKSPACE,HORIZONTAL TABULATION,LINE FEED,",
  "wTABULATION,FORM FEED,CARRIAGE RETURN,SHIFT OUT,SHIFT IN,DATA LINK ESCAPE;",
  "2411,SYMBOL FOR DEVICE CONTROL ,ONE,TWO,THREE,FOUR;2415,SYMBOL FOR ,NEGATIVE ACKNOWLEDGE,",
  "SYNCHRONOUS IDLE,END OF TRANSMISSION BLOCK,CANCEL,END OF MEDIUM,SUBSTITUTE,ESCAPE,",
  "FILE SEPARATOR,GROUP SEPARATOR,RECORD SEPARATOR,UNIT SEPARATOR,SPACE,DELETE;2422,,BLANK SYMBOL,",
  "OPEN BOX;2424,SYMBOL FOR ,NEWLINE,DELETE FORM TWO,SUBSTITUTE FORM TWO;2440,OCR ,HOOK,CHAIR,",
  "FORK,INVERTED FORK,BELT BUCKLE,BOW TIE,BRANCH BANK IDENTIFICATION,AMOUNT OF CHECK,DASH,",
  "CUSTOMER ACCOUNT NUMBER,gBACKSLASH;2460,CIRCLED DIGIT ,ONE,TWO,THREE,FOUR,FIVE,SIX,SEVEN,EIGHT,",
  "NINE;2469,CIRCLED NUMBER ,TEN,ELEVEN,TWELVE,THIRTEEN,FOURTEEN,FIFTEEN,SIXTEEN,SEVENTEEN,",
  "EIGHTEEN,NINETEEN,TWENTY;2474,PARENTHESIZED DIGIT ,ONE,TWO,THREE,FOUR,FIVE,SIX,SEVEN,EIGHT,",
  "NINE;247D,PARENTHESIZED NUMBER ,TEN,ELEVEN,TWELVE,THIRTEEN,FOURTEEN,FIFTEEN,SIXTEEN,SEVENTEEN,",
  "EIGHTEEN,NINETEEN,TWENTY;2488,DIGIT ,ONE FULL STOP,TWO FULL STOP,THREE FULL STOP,",
  "FOUR FULL STOP,FIVE FULL STOP,SIX FULL STOP,SEVEN FULL STOP,EIGHT FULL STOP,NINE FULL STOP;",
  "2491,NUMBER ,TEN FULL STOP,ELEVEN FULL STOP,TWELVE FULL STOP,THIRTEEN FULL STOP,",
  "FOURTEEN FULL STOP,FIFTEEN FULL STOP,SIXTEEN FULL STOP,SEVENTEEN FULL STOP,EIGHTEEN FULL STOP,",
  "NINETEEN FULL STOP,TWENTY FULL STOP;249C,PARENTHESIZED LATIN tm,A,B,C,D,E,F,G,H,I,J,K,L,M,N,O,",
  "P,Q,R,S,T,U,V,W,X,Y,Z;24B6,CIRCLED LATIN fm,A,B,C,D,E,F,G,H,I,J,K,L,M,N,O,P,Q,R,S,T,U,V,W,X,Y,",
  "Z;24D0,CIRCLED LATIN tm,A,B,C,D,E,F,G,H,I,J,K,L,M,N,O,P,Q,R,S,T,U,V,W,X,Y,Z;",
  "24EA,,CIRCLED DIGIT ZERO;24EB,NEGATIVE CIRCLED NUMBER ,ELEVEN,TWELVE,THIRTEEN,FOURTEEN,FIFTEEN,",
  "SIXTEEN,SEVENTEEN,EIGHTEEN,NINETEEN,TWENTY;24F5,gCIRCLED DIGIT ,ONE,TWO,THREE,FOUR,FIVE,SIX,",
  "SEVEN,EIGHT,NINE;24FE,,gCIRCLED NUMBER TEN,NEGATIVE CIRCLED DIGIT ZERO"]

end CharacterName

end SearchBridge
