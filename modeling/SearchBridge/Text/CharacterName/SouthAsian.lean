/-!
The names of characters from U+0900 to U+10FF: most scripts of South and South East Asia.
-/

namespace SearchBridge

namespace CharacterName

/-- Devanagari and the scripts beside it, up to Myanmar, and Georgian. -/
def southAsian : List String := [
  "900,DEVANAGARI s,INVERTED CANDRABINDU,CANDRABINDU,ANUSVARA,VISARGA;904,DEVANAGARI m,SHORT A,A,",
  "AA,I,II,U,UU,VOCALIC R,VOCALIC L,CANDRA E,SHORT E,E,AI,CANDRA O,SHORT O,O,AU,KA,KHA,GA,GHA,NGA,",
  "CA,CHA,JA,JHA,NYA,TTA,TTHA,DDA,DDHA,NNA,TA,THA,DA,DHA,NA,NNNA,PA,PHA,BA,BHA,MA,YA,RA,RRA,LA,",
  "LLA,LLLA,VA,SHA,SSA,SA,HA;93A,DEVANAGARI ,xsOE,xsOOE,sNUKTA,sAVAGRAHA,xsAA,xsI,xsII,xsU,xsUU,",
  "xsVOCALIC R,xsVOCALIC RR,xsCANDRA E,xsSHORT E,xsE,xsAI,xsCANDRA O,xsSHORT O,xsO,xsAU,sVIRAMA,",
  "xsPRISHTHAMATRA E,xsAW,OM,STRESS sUDATTA,STRESS sANUDATTA,GRAVE ACCENT,ACUTE ACCENT,",
  "xsCANDRA LONG E,xsUE,xsUUE,mQA,mKHHA,mGHHA,mZA,mDDDHA,mRHA,mFA,mYYA,mVOCALIC RR,mVOCALIC LL,",
  "xsVOCALIC L,xsVOCALIC LL,DANDA,gDANDA;966,DEVANAGARI DIGIT ,ZERO,ONE,TWO,THREE,FOUR,FIVE,SIX,",
  "SEVEN,EIGHT,NINE;970,DEVANAGARI ,ABBREVIATION SIGN,sHIGH SPACING DOT,mCANDRA A,mOE,mOOE,mAW,",
  "mUE,mUUE,mMARWARI DDA,mZHA,mHEAVY YA,mGGA,mJJA,mGLOTTAL STOP,mDDDA,mBBA;980,BENGALI ,ANJI,",
  "sCANDRABINDU,sANUSVARA,sVISARGA;985,BENGALI m,A,AA,I,II,U,UU,VOCALIC R,VOCALIC L;",
  "98F,BENGALI m,E,AI;993,BENGALI m,O,AU,KA,KHA,GA,GHA,NGA,CA,CHA,JA,JHA,NYA,TTA,TTHA,DDA,DDHA,",
  "NNA,TA,THA,DA,DHA,NA;9AA,BENGALI m,PA,PHA,BA,BHA,MA,YA,RA;9B2,,BENGALI mLA;9B6,BENGALI m,SHA,",
  "SSA,SA,HA;9BC,BENGALI ,sNUKTA,sAVAGRAHA,xsAA,xsI,xsII,xsU,xsUU,xsVOCALIC R,xsVOCALIC RR;",
  "9C7,BENGALI xs,E,AI;9CB,BENGALI ,xsO,xsAU,sVIRAMA,mKHANDA TA;9D7,,BENGALI AU LENGTH MARK;",
  "9DC,BENGALI m,RRA,RHA;9DF,BENGALI ,mYYA,mVOCALIC RR,mVOCALIC LL,xsVOCALIC L,xsVOCALIC LL;",
  "9E6,BENGALI DIGIT ,ZERO,ONE,TWO,THREE,FOUR,FIVE,SIX,SEVEN,EIGHT,NINE;",
  "9F0,BENGALI ,mRA zoDIAGONAL,mRA zLOWER DIAGONAL,RUPEE MARK,RUPEE SIGN;",
  "9F4,BENGALI CURRENCY NUMERATOR ,ONE,TWO,THREE,FOUR,ONE LESS THAN THE DENOMINATOR;",
  "9F9,BENGALI ,CURRENCY DENOMINATOR SIXTEEN,ISSHAR,GANDA MARK,mVEDIC ANUSVARA,ABBREVIATION SIGN,",
  "SANDHI MARK;A01,GURMUKHI s,ADAK BINDI,BINDI,VISARGA;A05,GURMUKHI m,A,AA,I,II,U,UU;",
  "A0F,GURMUKHI m,EE,AI;A13,GURMUKHI m,OO,AU,KA,KHA,GA,GHA,NGA,CA,CHA,JA,JHA,NYA,TTA,TTHA,DDA,",
  "DDHA,NNA,TA,THA,DA,DHA,NA;A2A,GURMUKHI m,PA,PHA,BA,BHA,MA,YA,RA;A32,GURMUKHI m,LA,LLA;",
  "A35,GURMUKHI m,VA,SHA;A38,GURMUKHI m,SA,HA;A3C,,GURMUKHI sNUKTA;A3E,GURMUKHI xs,AA,I,II,U,UU;",
  "A47,GURMUKHI xs,EE,AI;A4B,GURMUKHI ,xsOO,xsAU,sVIRAMA;A51,,GURMUKHI sUDAAT;A59,GURMUKHI m,KHHA,",
  "GHHA,ZA,RRA;A5E,,GURMUKHI mFA;A66,GURMUKHI DIGIT ,ZERO,ONE,TWO,THREE,FOUR,FIVE,SIX,SEVEN,EIGHT,",
  "NINE;A70,GURMUKHI ,TIPPI,ADDAK,IRI,URA,EK ONKAR,sYAKASH,ABBREVIATION SIGN;",
  "A81,GUJARATI s,CANDRABINDU,ANUSVARA,VISARGA;A85,GUJARATI ,mA,mAA,mI,mII,mU,mUU,mVOCALIC R,",
  "mVOCALIC L,xCANDRA E;A8F,GUJARATI ,mE,mAI,xCANDRA O;A93,GUJARATI m,O,AU,KA,KHA,GA,GHA,NGA,CA,",
  "CHA,JA,JHA,NYA,TTA,TTHA,DDA,DDHA,NNA,TA,THA,DA,DHA,NA;AAA,GUJARATI m,PA,PHA,BA,BHA,MA,YA,RA;",
  "AB2,GUJARATI m,LA,LLA;AB5,GUJARATI m,VA,SHA,SSA,SA,HA;ABC,GUJARATI ,sNUKTA,sAVAGRAHA,xsAA,xsI,",
  "xsII,xsU,xsUU,xsVOCALIC R,xsVOCALIC RR,xsCANDRA E;AC7,GUJARATI xs,E,AI,CANDRA O;",
  "ACB,GUJARATI ,xsO,xsAU,sVIRAMA;AD0,,GUJARATI OM;AE0,GUJARATI mVOCALIC ,RR,LL;",
  "AE2,GUJARATI xsVOCALIC ,L,LL;AE6,GUJARATI DIGIT ,ZERO,ONE,TWO,THREE,FOUR,FIVE,SIX,SEVEN,EIGHT,",
  "NINE;AF0,GUJARATI ,ABBREVIATION SIGN,RUPEE SIGN;AF9,GUJARATI ,mZHA,sSUKUN,sSHADDA,sMADDAH,",
  "sTHREE-DOT NUKTA a,sCIRCLE NUKTA a,sTWO-CIRCLE NUKTA a;B01,ORIYA s,CANDRABINDU,ANUSVARA,",
  "VISARGA;B05,ORIYA m,A,AA,I,II,U,UU,VOCALIC R,VOCALIC L;B0F,ORIYA m,E,AI;B13,ORIYA m,O,AU,KA,",
  "KHA,GA,GHA,NGA,CA,CHA,JA,JHA,NYA,TTA,TTHA,DDA,DDHA,NNA,TA,THA,DA,DHA,NA;B2A,ORIYA m,PA,PHA,BA,",
  "BHA,MA,YA,RA;B32,ORIYA m,LA,LLA;B35,ORIYA m,VA,SHA,SSA,SA,HA;B3C,ORIYA ,sNUKTA,sAVAGRAHA,xsAA,",
  "xsI,xsII,xsU,xsUU,xsVOCALIC R,xsVOCALIC RR;B47,ORIYA xs,E,AI;B4B,ORIYA ,xsO,xsAU,sVIRAMA;",
  "B55,ORIYA ,sOVERLINE,AI LENGTH MARK,AU LENGTH MARK;B5C,ORIYA m,RRA,RHA;B5F,ORIYA ,mYYA,",
  "mVOCALIC RR,mVOCALIC LL,xsVOCALIC L,xsVOCALIC LL;B66,ORIYA DIGIT ,ZERO,ONE,TWO,THREE,FOUR,FIVE,",
  "SIX,SEVEN,EIGHT,NINE;B70,ORIYA ,ISSHAR,mWA;B72,ORIYA FRACTION ,ONE QUARTER,ONE HALF,",
  "THREE QUARTERS,ONE SIXTEENTH,ONE EIGHTH,THREE SIXTEENTHS;B82,TAMIL s,ANUSVARA,VISARGA;",
  "B85,TAMIL m,A,AA,I,II,U,UU;B8E,TAMIL m,E,EE,AI;B92,TAMIL m,O,OO,AU,KA;B99,TAMIL m,NGA,CA;",
  "B9C,,TAMIL mJA;B9E,TAMIL m,NYA,TTA;BA3,TAMIL m,NNA,TA;BA8,TAMIL m,NA,NNNA,PA;BAE,TAMIL m,MA,YA,",
  "RA,RRA,LA,LLA,LLLA,VA,SHA,SSA,SA,HA;BBE,TAMIL xs,AA,I,II,U,UU;BC6,TAMIL xs,E,EE,AI;",
  "BCA,TAMIL ,xsO,xsOO,xsAU,sVIRAMA;BD0,,TAMIL OM;BD7,,TAMIL AU LENGTH MARK;BE6,TAMIL DIGIT ,ZERO,",
  "ONE,TWO,THREE,FOUR,FIVE,SIX,SEVEN,EIGHT,NINE;BF0,TAMIL ,NUMBER TEN,NUMBER ONE HUNDRED,",
  "NUMBER ONE THOUSAND,DAY SIGN,MONTH SIGN,YEAR SIGN,DEBIT SIGN,CREDIT SIGN,AS a SIGN,RUPEE SIGN,",
  "NUMBER SIGN;C00,TELUGU ,sCOMBINING CANDRABINDU a,sCANDRABINDU,sANUSVARA,sVISARGA,",
  "sCOMBINING ANUSVARA a,mA,mAA,mI,mII,mU,mUU,mVOCALIC R,mVOCALIC L;C0E,TELUGU m,E,EE,AI;",
  "C12,TELUGU m,O,OO,AU,KA,KHA,GA,GHA,NGA,CA,CHA,JA,JHA,NYA,TTA,TTHA,DDA,DDHA,NNA,TA,THA,DA,DHA,",
  "NA;C2A,TELUGU m,PA,PHA,BA,BHA,MA,YA,RA,RRA,LA,LLA,LLLA,VA,SHA,SSA,SA,HA;C3C,TELUGU ,sNUKTA,",
  "sAVAGRAHA,xsAA,xsI,xsII,xsU,xsUU,xsVOCALIC R,xsVOCALIC RR;C46,TELUGU xs,E,EE,AI;",
  "C4A,TELUGU ,xsO,xsOO,xsAU,sVIRAMA;C55,TELUGU ,LENGTH MARK,AI LENGTH MARK;C58,TELUGU m,TSA,DZA,",
  "RRRA;C5D,,TELUGU mNAKAARA POLLU;C60,TELUGU mVOCALIC ,RR,LL;C62,TELUGU xsVOCALIC ,L,LL;",
  "C66,TELUGU DIGIT ,ZERO,ONE,TWO,THREE,FOUR,FIVE,SIX,SEVEN,EIGHT,NINE;C77,,TELUGU sSIDDHAM;",
  "C78,TELUGU FRACTION DIGIT ,ZERO FOR ODD POWERS OF FOUR,ONE FOR ODD POWERS OF FOUR,",
  "TWO FOR ODD POWERS OF FOUR,THREE FOR ODD POWERS OF FOUR,ONE FOR EVEN POWERS OF FOUR,",
  "TWO FOR EVEN POWERS OF FOUR,THREE FOR EVEN POWERS OF FOUR;C7F,,TELUGU sTUUMU;",
  "C80,KANNADA ,sSPACING CANDRABINDU,sCANDRABINDU,sANUSVARA,sVISARGA,sSIDDHAM,mA,mAA,mI,mII,mU,",
  "mUU,mVOCALIC R,mVOCALIC L;C8E,KANNADA m,E,EE,AI;C92,KANNADA m,O,OO,AU,KA,KHA,GA,GHA,NGA,CA,CHA,",
  "JA,JHA,NYA,TTA,TTHA,DDA,DDHA,NNA,TA,THA,DA,DHA,NA;CAA,KANNADA m,PA,PHA,BA,BHA,MA,YA,RA,RRA,LA,",
  "LLA;CB5,KANNADA m,VA,SHA,SSA,SA,HA;CBC,KANNADA ,sNUKTA,sAVAGRAHA,xsAA,xsI,xsII,xsU,xsUU,",
  "xsVOCALIC R,xsVOCALIC RR;CC6,KANNADA xs,E,EE,AI;CCA,KANNADA ,xsO,xsOO,xsAU,sVIRAMA;",
  "CD5,KANNADA ,LENGTH MARK,AI LENGTH MARK;CDD,KANNADA m,NAKAARA POLLU,FA;",
  "CE0,KANNADA mVOCALIC ,RR,LL;CE2,KANNADA xsVOCALIC ,L,LL;CE6,KANNADA DIGIT ,ZERO,ONE,TWO,THREE,",
  "FOUR,FIVE,SIX,SEVEN,EIGHT,NINE;CF1,KANNADA s,JIHVAMULIYA,UPADHMANIYA;",
  "D00,MALAYALAM ,sCOMBINING ANUSVARA a,sCANDRABINDU,sANUSVARA,sVISARGA,mVEDIC ANUSVARA,mA,mAA,mI,",
  "mII,mU,mUU,mVOCALIC R,mVOCALIC L;D0E,MALAYALAM m,E,EE,AI;D12,MALAYALAM m,O,OO,AU,KA,KHA,GA,GHA,",
  "NGA,CA,CHA,JA,JHA,NYA,TTA,TTHA,DDA,DDHA,NNA,TA,THA,DA,DHA,NA,NNNA,PA,PHA,BA,BHA,MA,YA,RA,RRA,",
  "LA,LLA,LLLA,VA,SHA,SSA,SA,HA,TTTA;D3B,MALAYALAM ,swBAR VIRAMA,sCIRCULAR VIRAMA,sAVAGRAHA,xsAA,",
  "xsI,xsII,xsU,xsUU,xsVOCALIC R,xsVOCALIC RR;D46,MALAYALAM xs,E,EE,AI;D4A,MALAYALAM ,xsO,xsOO,",
  "xsAU,sVIRAMA,mDOT REPH,sPARA;D54,MALAYALAM ,mCHILLU M,mCHILLU Y,mCHILLU LLL,AU LENGTH MARK;",
  "D58,MALAYALAM FRACTION ,ONE ONE-HUNDRED-AND-SIXTIETH,ONE FORTIETH,THREE EIGHTIETHS,",
  "ONE TWENTIETH,ONE TENTH,THREE TWENTIETHS,ONE FIFTH;D5F,MALAYALAM ,mARCHAIC II,mVOCALIC RR,",
  "mVOCALIC LL,xsVOCALIC L,xsVOCALIC LL;D66,MALAYALAM DIGIT ,ZERO,ONE,TWO,THREE,FOUR,FIVE,SIX,",
  "SEVEN,EIGHT,NINE;D70,MALAYALAM NUMBER ,TEN,ONE HUNDRED,ONE THOUSAND;",
  "D73,MALAYALAM FRACTION ,ONE QUARTER,ONE HALF,THREE QUARTERS,ONE SIXTEENTH,ONE EIGHTH,",
  "THREE SIXTEENTHS;D79,,MALAYALAM DATE MARK;D7A,MALAYALAM mCHILLU ,NN,N,RR,L,LL,K;",
  "D81,SINHALA s,CANDRABINDU,ANUSVARAYA,VISARGAYA;D85,SINHALA m,AYANNA,AAYANNA,AEYANNA,AEEYANNA,",
  "IYANNA,IIYANNA,UYANNA,UUYANNA,IRUYANNA,IRUUYANNA,ILUYANNA,ILUUYANNA,EYANNA,EEYANNA,AIYANNA,",
  "OYANNA,OOYANNA,AUYANNA;D9A,SINHALA m,ALPAPRAANA KAYANNA,MAHAAPRAANA KAYANNA,ALPAPRAANA GAYANNA,",
  "MAHAAPRAANA GAYANNA,KANTAJA NAASIKYAYA,SANYAKA GAYANNA,ALPAPRAANA CAYANNA,MAHAAPRAANA CAYANNA,",
  "ALPAPRAANA JAYANNA,MAHAAPRAANA JAYANNA,TAALUJA NAASIKYAYA,TAALUJA SANYOOGA NAAKSIKYAYA,",
  "SANYAKA JAYANNA,ALPAPRAANA TTAYANNA,MAHAAPRAANA TTAYANNA,ALPAPRAANA DDAYANNA,",
  "MAHAAPRAANA DDAYANNA,MUURDHAJA NAYANNA,SANYAKA DDAYANNA,ALPAPRAANA TAYANNA,MAHAAPRAANA TAYANNA,",
  "ALPAPRAANA DAYANNA,MAHAAPRAANA DAYANNA,DANTAJA NAYANNA;DB3,SINHALA m,SANYAKA DAYANNA,",
  "ALPAPRAANA PAYANNA,MAHAAPRAANA PAYANNA,ALPAPRAANA BAYANNA,MAHAAPRAANA BAYANNA,MAYANNA,",
  "AMBA BAYANNA,YAYANNA,RAYANNA;DBD,,SINHALA mDANTAJA LAYANNA;DC0,SINHALA m,VAYANNA,",
  "TAALUJA SAYANNA,MUURDHAJA SAYANNA,DANTAJA SAYANNA,HAYANNA,MUURDHAJA LAYANNA,FAYANNA;",
  "DCA,,SINHALA sAL-LAKUNA;DCF,SINHALA xs,AELA-PILLA,KETTI AEDA-PILLA,DIGA AEDA-PILLA,",
  "KETTI IS-PILLA,DIGA IS-PILLA,KETTI PAA-PILLA;DD6,,SINHALA xsDIGA PAA-PILLA;",
  "DD8,SINHALA xs,GAETTA-PILLA,KOMBUVA,DIGA KOMBUVA,KOMBU DEKA,KOMBUVA HAA AELA-PILLA,",
  "KOMBUVA HAA DIGA AELA-PILLA,KOMBUVA HAA GAYANUKITTA,GAYANUKITTA;DE6,SINHALA LITH DIGIT ,ZERO,",
  "ONE,TWO,THREE,FOUR,FIVE,SIX,SEVEN,EIGHT,NINE;DF2,SINHALA ,xsDIGA GAETTA-PILLA,",
  "xsDIGA GAYANUKITTA,PUNCTUATION KUNDDALIYA;E01,THAI CHARACTER ,KO KAI,KHO KHAI,KHO KHUAT,",
  "KHO KHWAI,KHO KHON,KHO RAKHANG,NGO NGU,CHO CHAN,CHO CHING,CHO CHANG,SO SO,CHO CHOE,YO YING,",
  "DO CHADA,TO PATAK,THO THAN,THO NANGMONTHO,THO PHUTHAO,NO NEN,DO DEK,TO TAO,THO THUNG,",
  "THO THAHAN,THO THONG,NO NU,BO BAIMAI,PO PLA,PHO PHUNG,FO FA,PHO PHAN,FO FAN,PHO SAMPHAO,MO MA,",
  "YO YAK,RO RUA,RU,LO LING,LU,WO WAEN,SO SALA,SO RUSI,SO SUA,HO HIP,LO CHULA,O ANG,HO NOKHUK,",
  "PAIYANNOI,SARA A,MAI HAN-AKAT,SARA AA,SARA AM,SARA I,SARA II,SARA UE,SARA UEE,SARA U,SARA UU,",
  "PHINTHU;E3F,,THAI CURRENCY SYMBOL BAHT;E40,THAI CHARACTER ,SARA E,SARA AE,SARA O,",
  "SARA AI MAIMUAN,SARA AI MAIMALAI,LAKKHANGYAO,MAIYAMOK,MAITAIKHU,MAI EK,MAI THO,MAI TRI,",
  "MAI CHATTAWA,THANTHAKHAT,NIKHAHIT,YAMAKKAN,FONGMAN;E50,THAI DIGIT ,ZERO,ONE,TWO,THREE,FOUR,",
  "FIVE,SIX,SEVEN,EIGHT,NINE;E5A,THAI CHARACTER ,ANGKHANKHU,KHOMUT;E81,LAO m,KO,KHO SUNG;",
  "E84,,LAO mKHO TAM;E86,LAO m,PALI GHA,NGO,CO,PALI CHA,SO TAM;E8C,LAO m,PALI JHA,NYO,PALI NYA,",
  "PALI TTA,PALI TTHA,PALI DDA,PALI DDHA,PALI NNA,DO,TO,THO SUNG,THO TAM,PALI DHA,NO,BO,PO,",
  "PHO SUNG,FO TAM,PHO TAM,FO SUNG,PALI BHA,MO,YO,LO LING;EA5,,LAO mLO LOOT;EA7,LAO ,mWO,",
  "mSANSKRIT SHA,mSANSKRIT SSA,mSO SUNG,mHO SUNG,mPALI LLA,mO,mHO TAM,ELLIPSIS,xsA,xsMAI KAN,xsAA,",
  "xsAM,xsI,xsII,xsY,xsYY,xsU,xsUU,sPALI VIRAMA,xsMAI KON,SEMIVOWEL sLO,SEMIVOWEL sNYO;",
  "EC0,LAO xs,E,EI,O,AY,AI;EC6,,LAO KO LA;EC8,LAO TONE MAI ,EK,THO,TI,CATAWA;",
  "ECC,LAO ,CANCELLATION MARK,NIGGAHITA;ED0,LAO DIGIT ,ZERO,ONE,TWO,THREE,FOUR,FIVE,SIX,SEVEN,",
  "EIGHT,NINE;EDC,LAO ,HO NO,HO MO,mKHMU GO,mKHMU NYO;F00,,TIBETAN SYLLABLE OM;",
  "F01,TIBETAN MARK GTER YIG MGO ,TRUNCATED A,-UM RNAM BCAD MA,-UM GTER TSHEG MA;",
  "F04,TIBETAN MARK ,INITIAL YIG MGO MDUN MA,CLOSING YIG MGO SGAB MA,CARET YIG MGO PHUR SHAD MA,",
  "YIG MGO TSHEG SHAD MA,SBRUL SHAD,BSKUR YIG MGO,BKA- SHOG YIG MGO,INTERSYLLABIC TSHEG,",
  "DELIMITER TSHEG BSTAR,SHAD,NYIS SHAD,TSHEG SHAD,NYIS TSHEG SHAD,RIN CHEN SPUNGS SHAD,",
  "RGYA GRAM SHAD,CARET -DZUD RTAGS ME LONG CAN,GTER TSHEG;F15,TIBETAN LOGOTYPE s,CHAD RTAGS,",
  "LHAG RTAGS;F17,TIBETAN ASTROLOGICAL s,SGRA GCAN -CHAR RTAGS,-KHYUD PA,SDONG TSHUGS;",
  "F1A,TIBETAN sRDEL ,DKAR GCIG,DKAR GNYIS,DKAR GSUM,NAG GCIG,NAG GNYIS,DKAR RDEL NAG;",
  "F20,TIBETAN DIGIT ,ZERO,ONE,TWO,THREE,FOUR,FIVE,SIX,SEVEN,EIGHT,NINE;",
  "F2A,TIBETAN DIGIT HALF ,ONE,TWO,THREE,FOUR,FIVE,SIX,SEVEN,EIGHT,NINE,ZERO;",
  "F34,TIBETAN MARK ,BSDUS RTAGS,NGAS BZUNG NYI ZLA,CARET -DZUD RTAGS BZHI MIG CAN,",
  "NGAS BZUNG SGOR RTAGS,CHE MGO,TSA -PHRU,GUG RTAGS GYON,GUG RTAGS GYAS,ANG KHANG GYON,",
  "ANG KHANG GYAS;F3E,TIBETAN ,sYAR TSHES,sMAR TSHES,mKA,mKHA,mGA,mGHA,mNGA,mCA,mCHA,mJA;",
  "F49,TIBETAN m,NYA,TTA,TTHA,DDA,DDHA,NNA,TA,THA,DA,DHA,NA,PA,PHA,BA,BHA,MA,TSA,TSHA,DZA,DZHA,WA,",
  "ZHA,ZA,-A,YA,RA,LA,SHA,SSA,SA,HA,A,KSSA,FIXED-FORM RA,KKA,RRA;F71,TIBETAN xs,AA,I,II,U,UU,",
  "VOCALIC R,VOCALIC RR,VOCALIC L,VOCALIC LL,E,EE,O,OO;F7E,TIBETAN ,sRJES SU NGA RO,sRNAM BCAD,",
  "xsREVERSED I,xsREVERSED II,sNYI ZLA NAA DA,sSNA LDAN,MARK HALANTA,MARK PALUTA,sLCI RTAGS,",
  "sYANG RTAGS,sLCE TSA CAN,sMCHU CAN,sGRU CAN RGYINGS,sGRU MED RGYINGS,sINVERTED MCHU CAN;",
  "F8D,TIBETAN SUBJOINED ,sLCE TSA CAN,sMCHU CAN,sINVERTED MCHU CAN,mKA,mKHA,mGA,mGHA,mNGA,mCA,",
  "mCHA,mJA;F99,TIBETAN SUBJOINED m,NYA,TTA,TTHA,DDA,DDHA,NNA,TA,THA,DA,DHA,NA,PA,PHA,BA,BHA,MA,",
  "TSA,TSHA,DZA,DZHA,WA,ZHA,ZA,-A,YA,RA,LA,SHA,SSA,SA,HA,A,KSSA,FIXED-FORM WA,FIXED-FORM YA,",
  "FIXED-FORM RA;FBE,TIBETAN KU RU ,KHA,KHA BZHI MIG CAN;FC0,TIBETAN CANTILLATION s,HEAVY BEAT,",
  "LIGHT BEAT,CANG TE-U,SBUB -CHAL;FC4,TIBETAN SYMBOL ,DRIL BU,RDO RJE,PADMA GDAN,",
  "RDO RJE RGYA GRAM,PHUR PA,NOR BU,NOR BU NYIS -KHYIL,NOR BU GSUM -KHYIL,NOR BU BZHI -KHYIL;",
  "FCE,TIBETAN sRDEL NAG ,RDEL DKAR,GSUM;FD0,TIBETAN MARK ,BSKA- SHOG GI MGO RGYAN,",
  "MNYAM YIG GI MGO RGYAN,NYIS TSHEG,INITIAL BRDA RNYING YIG MGO MDUN MA,",
  "CLOSING BRDA RNYING YIG MGO SGAB MA;FD5,,RIGHT-FACING SVASTI SIGN,LEFT-FACING SVASTI SIGN,",
  "RIGHT-FACING SVASTI szDOTS,LEFT-FACING SVASTI szDOTS;FD9,TIBETAN MARK ,LEADING MCHAN RTAGS,",
  "TRAILING MCHAN RTAGS;1000,MYANMAR m,KA,KHA,GA,GHA,NGA,CA,CHA,JA,JHA,NYA,NNYA,TTA,TTHA,DDA,DDHA,",
  "NNA,TA,THA,DA,DHA,NA,PA,PHA,BA,BHA,MA,YA,RA,LA,WA,SA,HA,LLA,A,SHAN A,I,II,U,UU,E,MON E,O,AU;",
  "102B,MYANMAR xs,TALL AA,AA,I,II,U,UU,E,AI,MON II,MON O,E a;1036,MYANMAR s,ANUSVARA,DOT d,",
  "VISARGA,VIRAMA,ASAT;103B,MYANMAR CONSONANT sMEDIAL ,YA,RA,WA,HA;103F,,MYANMAR mGREAT SA;",
  "1040,MYANMAR DIGIT ,ZERO,ONE,TWO,THREE,FOUR,FIVE,SIX,SEVEN,EIGHT,NINE;",
  "104A,MYANMAR ,sLITTLE SECTION,sSECTION,SYMBOL LOCATIVE,SYMBOL COMPLETED,SYMBOL AFOREMENTIONED,",
  "SYMBOL GENITIVE,mSHA,mSSA;1052,MYANMAR mVOCALIC ,R,RR,L,LL;1056,MYANMAR xsVOCALIC ,R,RR,L,LL;",
  "105A,MYANMAR mMON ,NGA,JHA,BBA,BBE;105E,MYANMAR CONSONANT sMON MEDIAL ,NA,MA,LA;",
  "1061,MYANMAR ,mSGAW KAREN SHA,xsSGAW KAREN EU;1063,MYANMAR TONE MARK SGAW KAREN ,HATHI,KE PHO;",
  "1065,MYANMAR mWESTERN PWO KAREN ,THA,PWA;1067,MYANMAR xsWESTERN PWO KAREN ,EU,UE;",
  "1069,MYANMAR sWESTERN PWO KAREN TONE-,1,2,3,4,5;106E,MYANMAR mEASTERN PWO KAREN ,NNA,YWA,GHWA;",
  "1071,MYANMAR xs,GEBA KAREN I,KAYAH OE,KAYAH U,KAYAH EE;1075,MYANMAR mSHAN ,KA,KHA,GA,CA,ZA,NYA,",
  "DA,NA,PHA,FA,BA,THA,HA;1082,,MYANMAR CONSONANT sSHAN MEDIAL WA;1083,MYANMAR xsSHAN ,AA,E,E a,",
  "FINAL Y;1087,MYANMAR sSHAN TONE-,2,3,5,6;108B,MYANMAR sSHAN COUNCIL ,TONE-2,TONE-3,",
  "EMPHATIC TONE;108E,MYANMAR ,mRUMAI PALAUNG FA,sRUMAI PALAUNG TONE-5;",
  "1090,MYANMAR SHAN DIGIT ,ZERO,ONE,TWO,THREE,FOUR,FIVE,SIX,SEVEN,EIGHT,NINE;",
  "109A,MYANMAR sKHAMTI TONE-,1,3;109C,MYANMAR xsAITON ,A,AI;109E,MYANMAR SYMBOL SHAN ,ONE,",
  "EXCLAMATION;10A0,GEORGIAN fm,AN,BAN,GAN,DON,EN,VIN,ZEN,TAN,IN,KAN,LAS,MAN,NAR,ON,PAR,ZHAR,RAE,",
  "SAN,TAR,UN,PHAR,KHAR,GHAN,QAR,SHIN,CHIN,CAN,JIL,CIL,CHAR,XAN,JHAN,HAE,HE,HIE,WE,HAR,HOE;",
  "10C7,,GEORGIAN fmYN;10CD,,GEORGIAN fmAEN;10D0,GEORGIAN m,AN,BAN,GAN,DON,EN,VIN,ZEN,TAN,IN,KAN,",
  "LAS,MAN,NAR,ON,PAR,ZHAR,RAE,SAN,TAR,UN,PHAR,KHAR,GHAN,QAR,SHIN,CHIN,CAN,JIL,CIL,CHAR,XAN,JHAN,",
  "HAE,HE,HIE,WE,HAR,HOE,FI,YN,ELIFI,TURNED GAN,AIN;10FB,,GEORGIAN PARAGRAPH SEPARATOR,",
  "MODIFIER mGEORGIAN NAR;10FD,GEORGIAN m,AEN,HARD SIGN,LABIAL SIGN"]

end CharacterName

end SearchBridge
