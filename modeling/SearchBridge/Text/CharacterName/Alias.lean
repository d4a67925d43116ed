/-!
Names that characters have besides their own: those of control characters, abbreviations, and
corrected spellings.
-/

namespace SearchBridge

namespace CharacterName

/-- Further names, several of them for some characters. -/
def aliases : List String := [
  "0,,NULL;0,,NUL,START OF HEADING;1,,SOH,START OF TEXT;2,,STX,END OF TEXT;3,,ETX,",
  "END OF TRANSMISSION;4,,EOT,ENQUIRY;5,,ENQ,ACKNOWLEDGE;6,,ACK,ALERT;7,,BEL,BACKSPACE;8,,BS,",
  "CHARACTER TABULATION;9,,HORIZONTAL TABULATION;9,,HT;9,,TAB,LINE FEED;A,,NEW LINE;",
  "A,,END OF LINE;A,,LF;A,,NL;A,,EOL,LINE TABULATION;B,,wTABULATION;B,,VT,FORM FEED;C,,FF,",
  "CARRIAGE RETURN;D,,CR,SHIFT OUT;E,,LOCKING-SHIFT ONE;E,,SO,SHIFT IN;F,,LOCKING-SHIFT ZERO;",
  "F,,SI,DATA LINK ESCAPE;10,,DLE,DEVICE CONTROL ONE;11,,DC1,DEVICE CONTROL TWO;12,,DC2,",
  "DEVICE CONTROL THREE;13,,DC3,DEVICE CONTROL FOUR;14,,DC4,NEGATIVE ACKNOWLEDGE;15,,NAK,",
  "SYNCHRONOUS IDLE;16,,SYN,END OF TRANSMISSION BLOCK;17,,ETB,CANCEL;18,,CAN,END OF MEDIUM;",
  "19,,EOM,SUBSTITUTE;1A,,SUB,ESCAPE;1B,,ESC,INFORMATION SEPARATOR FOUR;1C,,FILE SEPARATOR;1C,,FS,",
  "INFORMATION SEPARATOR THREE;1D,,GROUP SEPARATOR;1D,,GS,INFORMATION SEPARATOR TWO;",
  "1E,,RECORD SEPARATOR;1E,,RS,INFORMATION SEPARATOR ONE;1F,,UNIT SEPARATOR;1F,,US,SP;7F,,DELETE;",
  "7F,,DEL,PADDING CHARACTER;80,,PAD,HIGH OCTET PRESET;81,,HOP,BREAK PERMITTED HERE;82,,BPH,",
  "NO BREAK HERE;83,,NBH,INDEX;84,,IND,NEXT LINE;85,,NEL,START OF SELECTED AREA;86,,SSA,",
  "END OF SELECTED AREA;87,,ESA,CHARACTER TABULATION SET;88,,HORIZONTAL TABULATION SET;88,,HTS,",
  "CHARACTER TABULATION zJUSTIFICATION;89,,HORIZONTAL TABULATION zJUSTIFICATION;89,,HTJ,",
  "LINE TABULATION SET;8A,,wTABULATION SET;8A,,VTS,PARTIAL LINE FORWARD;8B,,PARTIAL LINE DOWN;",
  "8B,,PLD,PARTIAL LINE BACKWARD;8C,,PARTIAL LINE UP;8C,,PLU,REVERSE LINE FEED;8D,,REVERSE INDEX;",
  "8D,,RI,SINGLE SHIFT TWO;8E,,SINGLE-SHIFT-2;8E,,SS2,SINGLE SHIFT THREE;8F,,SINGLE-SHIFT-3;",
  "8F,,SS3,DEVICE CONTROL STRING;90,,DCS,PRIVATE USE ONE;91,,PRIVATE USE-1;91,,PU1,",
  "PRIVATE USE TWO;92,,PRIVATE USE-2;92,,PU2,SET TRANSMIT STATE;93,,STS,CANCEL CHARACTER;94,,CCH,",
  "MESSAGE WAITING;95,,MW,START OF GUARDED AREA;96,,START OF PROTECTED AREA;96,,SPA,",
  "END OF GUARDED AREA;97,,END OF PROTECTED AREA;97,,EPA,START OF STRING;98,,SOS,",
  "SINGLE GRAPHIC CHARACTER INTRODUCER;99,,SGC,SINGLE CHARACTER INTRODUCER;9A,,SCI,",
  "CONTROL SEQUENCE INTRODUCER;9B,,CSI,STRING TERMINATOR;9C,,ST,OPERATING SYSTEM COMMAND;9D,,OSC,",
  "PRIVACY MESSAGE;9E,,PM,APPLICATION PROGRAM COMMAND;9F,,APC,NBSP;AD,,SHY;1A2,,LATIN fmGHA,",
  "LATIN tmGHA;34F,,CGJ;61C,,ALM;709,,SYRIAC SUBLINEAR COLON SKEWED LEFT;CDE,,KANNADA mLLLA;",
  "E9D,,LAO mFO FON;E9F,,LAO mFO FAY;EA3,,LAO mRO;EA5,,LAO mLO;",
  "FD0,,TIBETAN MARK BKA- SHOG GI MGO RGYAN;11EC,,HANGUL JONGSEONG YESIEUNG-KIYEOK,",
  "HANGUL JONGSEONG YESIEUNG-SSANGKIYEOK,HANGUL JONGSEONG SSANGYESIEUNG,",
  "HANGUL JONGSEONG YESIEUNG-KHIEUKH;180B,,FVS1,FVS2,FVS3,MVS,FVS4;200B,,ZWSP,ZWNJ,ZWJ,LRM,RLM;",
  "202A,,LRE,RLE,PDF,LRO,RLO,NNBSP;205F,,MMSP,WJ;2066,,LRI,RLI,FSI,PDI;",
  "2118,,WEIERSTRASS ELLIPTIC FUNCTION;2448,,MICR ON US SYMBOL,MICR DASH SYMBOL;",
  "2B7A,,lvc zgwSTROKE;2B7C,,rvc zgwSTROKE;A015,,YI SYLLABLE ITERATION MARK;",
  "AA6E,,MYANMAR mKHAMTI LLA;FE00,VS,1,2,3,4,5,6,7,8,9,10,11,12,13,14,15,16;",
  "FE18,,PRESENTATION FORM FOR wqyLENTICULAR BRACKET;FEFF,,BYTE ORDER MARK;FEFF,,BOM;FEFF,,ZWNBSP;",
  "122D4,,CUNEIFORM sNU11 TENU,CUNEIFORM sNU11 OVER NU11 BUR OVER BUR;16E56,,MEDEFAIDRIN fmH,",
  "MEDEFAIDRIN fmNG;16E76,,MEDEFAIDRIN tmH,MEDEFAIDRIN tmNG;1B001,,HENTAIGANA mE-1;",
  "1D0C5,,BYZANTINE MUSICAL SYMBOL FTHORA SKLIRON CHROMA VASIS;E0100,VS,17,18,19,20,21,22,23,24,",
  "25,26,27,28,29,30,31,32,33,34,35,36,37,38,39,40,41,42,43,44,45,46,47,48,49,50,51,52,53,54,55,",
  "56,57,58,59,60,61,62,63,64,65,66,67,68,69,70,71,72,73,74,75,76,77,78,79,80,81,82,83,84,85,86,",
  "87,88,89,90,91,92,93,94,95,96,97,98,99,100,101,102,103,104,105,106,107,108,109,110,111,112,113,",
  "114,115,116,117,118,119,120,121,122,123,124,125,126,127,128,129,130,131,132,133,134,135,136,",
  "137,138,139,140,141,142,143,144,145,146,147,148,149,150,151,152,153,154,155,156,157,158,159,",
  "160,161,162,163,164,165,166,167,168,169,170,171,172,173,174,175,176,177,178,179,180,181,182,",
  "183,184,185,186,187,188,189,190,191,192,193,194,195,196,197,198,199,200,201,202,203,204,205,",
  "206,207,208,209,210,211,212,213,214,215,216,217,218,219,220,221,222,223,224,225,226,227,228,",
  "229,230,231,232,233,234,235,236,237,238,239,240,241,242,243,244,245,246,247,248,249,250,251,",
  "252,253,254,255,256"]

end CharacterName

end SearchBridge
