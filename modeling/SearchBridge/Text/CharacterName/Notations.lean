/-!
The names of characters from U+1D000 to U+1EFFF: the notations of music, of mathematics and of
signed languages.
-/

namespace SearchBridge

namespace CharacterName

/-- Musical signs, mathematical letters, the signs of sign writing, and some scripts. -/
def notations : List String := [
  "1D000,BYZANTINE MUSICAL SYMBOL ,PSILI,DASEIA,PERISPOMENI,OXEIA EKFONITIKON,OXEIA DIPLI,",
  "VAREIA EKFONITIKON,VAREIA DIPLI,KATHISTI,SYRMATIKI,PARAKLITIKI,YPOKRISIS,YPOKRISIS DIPLI,",
  "KREMASTI,APESO EKFONITIKON,EXO EKFONITIKON,TELEIA,KENTIMATA,APOSTROFOS,APOSTROFOS DIPLI,",
  "SYNEVMA,THITA,OLIGON ARCHAION,GORGON ARCHAION,PSILON,CHAMILON,VATHY,ISON ARCHAION,",
  "KENTIMA ARCHAION,KENTIMATA ARCHAION,SAXIMATA,PARICHON,STAVROS APODEXIA,OXEIAI ARCHAION,",
  "VAREIAI ARCHAION,APODERMA ARCHAION,APOTHEMA,KLASMA,REVMA,PIASMA ARCHAION,TINAGMA,ANATRICHISMA,",
  "SEISMA,SYNAGMA ARCHAION,SYNAGMA META STAVROU,OYRANISMA ARCHAION,THEMA,LEMOI,DYO,TRIA,TESSERA,",
  "KRATIMATA,APESO EXO NEO,FTHORA ARCHAION,IMIFTHORA,TROMIKON ARCHAION,KATAVA TROMIKON,PELASTON,",
  "PSIFISTON,KONTEVMA,CHOREVMA ARCHAION,RAPISMA,PARAKALESMA ARCHAION,PARAKLITIKI ARCHAION,ICHADIN,",
  "NANA,PETASMA,KONTEVMA ALLO,TROMIKON ALLO,STRAGGISMATA,GRONTHISMATA,ISON NEO,OLIGON NEO,",
  "OXEIA NEO,PETASTI,KOUFISMA,PETASTOKOUFISMA,KRATIMOKOUFISMA,PELASTON NEO,KENTIMATA NEO ANO,",
  "KENTIMA NEO ANO,YPSILI,APOSTROFOS NEO,APOSTROFOI SYNDESMOS NEO,YPORROI,KRATIMOYPORROON,ELAFRON,",
  "CHAMILI,MIKRON ISON,VAREIA NEO,PIASMA NEO,PSIFISTON NEO,OMALON,ANTIKENOMA,LYGISMA,",
  "PARAKLITIKI NEO,PARAKALESMA NEO,ETERON PARAKALESMA,KYLISMA,ANTIKENOKYLISMA,TROMIKON NEO,",
  "EKSTREPTON,SYNAGMA NEO,SYRMA,CHOREVMA NEO,EPEGERMA,SEISMA NEO,XIRON KLASMA,TROMIKOPSIFISTON,",
  "PSIFISTOLYGISMA,TROMIKOLYGISMA,TROMIKOPARAKALESMA,PSIFISTOPARAKALESMA,TROMIKOSYNAGMA,",
  "PSIFISTOSYNAGMA,GORGOSYNTHETON,ARGOSYNTHETON,ETERON ARGOSYNTHETON,OYRANISMA NEO,",
  "THEMATISMOS ESO,THEMATISMOS EXO,THEMA APLOUN,THES KAI APOTHES,KATAVASMA,ENDOFONON,YFEN KATO,",
  "YFEN ANO,STAVROS,KLASMA ANO,DIPLI ARCHAION,KRATIMA ARCHAION,KRATIMA ALLO,KRATIMA NEO,",
  "APODERMA NEO,APLI,DIPLI,TRIPLI,TETRAPLI,KORONIS,LEIMMA ENOS CHRONOU,LEIMMA DYO CHRONON,",
  "LEIMMA TRION CHRONON,LEIMMA TESSARON CHRONON,LEIMMA IMISEOS CHRONOU,GORGON NEO ANO,",
  "GORGON PARESTIGMENON ARISTERA,GORGON PARESTIGMENON DEXIA,DIGORGON,",
  "DIGORGON PARESTIGMENON ARISTERA KATO,DIGORGON PARESTIGMENON ARISTERA ANO,",
  "DIGORGON PARESTIGMENON DEXIA,TRIGORGON,ARGON,IMIDIARGON,DIARGON;",
  "1D09A,BYZANTINE MUSICAL SYMBOL AGOGI ,POLI ARGI,ARGOTERI,ARGI,METRIA,MESI,GORGI,GORGOTERI,",
  "POLI GORGI;1D0A2,BYZANTINE MUSICAL SYMBOL MARTYRIA ,PROTOS ICHOS,ALLI PROTOS ICHOS,",
  "DEYTEROS ICHOS,ALLI DEYTEROS ICHOS,TRITOS ICHOS,TRIFONIAS,TETARTOS ICHOS,",
  "TETARTOS LEGETOS ICHOS,LEGETOS ICHOS,PLAGIOS ICHOS;",
  "1D0AC,BYZANTINE MUSICAL SYMBOL ,ISAKIA TELOUS ICHIMATOS,APOSTROFOI TELOUS ICHIMATOS,",
  "FANEROSIS TETRAFONIAS,FANEROSIS MONOFONIAS,FANEROSIS DIFONIAS,MARTYRIA VARYS ICHOS,",
  "MARTYRIA PROTOVARYS ICHOS,MARTYRIA PLAGIOS TETARTOS ICHOS,GORTHMIKON N APLOUN,",
  "GORTHMIKON N DIPLOUN,ENARXIS KAI FTHORA VOU,IMIFONON,IMIFTHORON;",
  "1D0B9,BYZANTINE MUSICAL SYMBOL FTHORA ,ARCHAION DEYTEROU ICHOU,DIATONIKI PA,DIATONIKI NANA,",
  "NAOS ICHOS,DIATONIKI DI,SKLIRON DIATONON DI,DIATONIKI KE,DIATONIKI ZO,DIATONIKI NI KATO,",
  "DIATONIKI NI ANO,MALAKON CHROMA DIFONIAS,MALAKON CHROMA MONOFONIAS;",
  "1D0C5,BYZANTINE MUSICAL SYMBOL ,FHTORA SKLIRON CHROMA VASIS,FTHORA SKLIRON CHROMA SYNAFI,",
  "FTHORA NENANO,CHROA ZYGOS,CHROA KLITON,CHROA SPATHI,FTHORA I YFESIS TETARTIMORION,",
  "FTHORA ENARMONIOS ANTIFONIA,YFESIS TRITIMORION,DIESIS TRITIMORION,DIESIS TETARTIMORION,",
  "DIESIS APLI DYO DODEKATA,DIESIS MONOGRAMMOS TESSERA DODEKATA,DIESIS DIGRAMMOS EX DODEKATA,",
  "DIESIS TRIGRAMMOS OKTO DODEKATA,YFESIS APLI DYO DODEKATA,YFESIS MONOGRAMMOS TESSERA DODEKATA,",
  "YFESIS DIGRAMMOS EX DODEKATA,YFESIS TRIGRAMMOS OKTO DODEKATA,GENIKI DIESIS,GENIKI YFESIS,",
  "DIASTOLI APLI MIKRI,DIASTOLI APLI MEGALI,DIASTOLI DIPLI,DIASTOLI THESEOS,SIMANSIS THESEOS,",
  "SIMANSIS THESEOS DISIMOU,SIMANSIS THESEOS TRISIMOU,SIMANSIS THESEOS TETRASIMOU,SIMANSIS ARSEOS,",
  "SIMANSIS ARSEOS DISIMOU,SIMANSIS ARSEOS TRISIMOU,SIMANSIS ARSEOS TETRASIMOU,DIGRAMMA GG,",
  "DIFTOGGOS OU,STIGMA,ARKTIKO PA,ARKTIKO VOU,ARKTIKO GA,ARKTIKO DI,ARKTIKO KE,ARKTIKO ZO,",
  "ARKTIKO NI,KENTIMATA NEO MESO,KENTIMA NEO MESO,KENTIMATA NEO KATO,KENTIMA NEO KATO,KLASMA KATO,",
  "GORGON NEO KATO;1D100,MUSICAL SYMBOL ,SINGLE BARLINE,gBARLINE,FINAL BARLINE,",
  "REVERSE FINAL BARLINE,DASHED BARLINE,SHORT BARLINE,kREPEAT SIGN,qREPEAT SIGN,REPEAT DOTS,",
  "DAL SEGNO,DA CAPO,SEGNO,CODA,REPEATED FIGURE-1,REPEATED FIGURE-2,REPEATED FIGURE-3,FERMATA,",
  "FERMATA d,BREATH MARK,CAESURA,BRACE,BRACKET,ONE-LINE STAFF,TWO-LINE STAFF,THREE-LINE STAFF,",
  "FOUR-LINE STAFF,FIVE-LINE STAFF,SIX-LINE STAFF,SIX-STRING FRETBOARD,FOUR-STRING FRETBOARD,",
  "G CLEF,G CLEF OTTAVA ALTA,G CLEF OTTAVA BASSA,C CLEF,F CLEF,F CLEF OTTAVA ALTA,",
  "F CLEF OTTAVA BASSA,DRUM CLEF-1,DRUM CLEF-2;1D129,MUSICAL SYMBOL ,MULTIPLE MEASURE REST,gSHARP,",
  "gFLAT,FLAT UP,FLAT DOWN,NATURAL UP,NATURAL DOWN,SHARP UP,SHARP DOWN,QUARTER TONE SHARP,",
  "QUARTER TONE FLAT,COMMON TIME,CUT TIME,OTTAVA ALTA,OTTAVA BASSA,QUINDICESIMA ALTA,",
  "QUINDICESIMA BASSA,MULTI REST,WHOLE REST,HALF REST,QUARTER REST,EIGHTH REST,SIXTEENTH REST,",
  "THIRTY-SECOND REST,SIXTY-FOURTH REST,ONE HUNDRED TWENTY-EIGHTH REST,X NOTEHEAD,PLUS NOTEHEAD,",
  "CIRCLE X NOTEHEAD,SQUARE NOTEHEAD WHITE,SQUARE NOTEHEAD BLACK;",
  "1D148,MUSICAL SYMBOL TRIANGLE NOTEHEAD ,UP WHITE,UP BLACK,kWHITE,kBLACK,qWHITE,qBLACK,",
  "DOWN WHITE,DOWN BLACK,UP qWHITE,UP qBLACK;1D152,MUSICAL SYMBOL ,MOON NOTEHEAD WHITE,",
  "MOON NOTEHEAD BLACK,TRIANGLE-ROUND NOTEHEAD DOWN WHITE,TRIANGLE-ROUND NOTEHEAD DOWN BLACK,",
  "PARENTHESIS NOTEHEAD,VOID NOTEHEAD,NOTEHEAD BLACK,NULL NOTEHEAD,CLUSTER NOTEHEAD WHITE,",
  "CLUSTER NOTEHEAD BLACK,BREVE,WHOLE NOTE,HALF NOTE,QUARTER NOTE,EIGHTH NOTE,SIXTEENTH NOTE,",
  "THIRTY-SECOND NOTE,SIXTY-FOURTH NOTE,ONE HUNDRED TWENTY-EIGHTH NOTE;",
  "1D165,MUSICAL SYMBOL COMBINING ,STEM,SPRECHGESANG STEM,TREMOLO-1,TREMOLO-2,TREMOLO-3;",
  "1D16A,MUSICAL SYMBOL FINGERED TREMOLO-,1,2,3;1D16D,MUSICAL SYMBOL COMBINING ,AUGMENTATION DOT,",
  "FLAG-1,FLAG-2,FLAG-3,FLAG-4,FLAG-5;1D173,MUSICAL SYMBOL ,BEGIN BEAM,END BEAM,BEGIN TIE,END TIE,",
  "BEGIN SLUR,END SLUR,BEGIN PHRASE,END PHRASE;1D17B,MUSICAL SYMBOL COMBINING ,ACCENT,STACCATO,",
  "TENUTO,STACCATISSIMO,MARCATO,MARCATO-STACCATO,ACCENT-STACCATO,LOURE;",
  "1D183,MUSICAL SYMBOL ARPEGGIATO ,UP,DOWN;1D185,MUSICAL SYMBOL COMBINING ,DOIT,RIP,FLIP,SMEAR,",
  "BEND,gTONGUE,TRIPLE TONGUE;1D18C,MUSICAL SYMBOL ,RINFORZANDO,SUBITO,Z,PIANO,MEZZO,FORTE,",
  "CRESCENDO,DECRESCENDO,GRACE NOTE SLASH,GRACE NOTE NO SLASH,TR,TURN,INVERTED TURN,TURN SLASH,",
  "TURN UP;1D19B,MUSICAL SYMBOL ORNAMENT STROKE-,1,2,3,4,5,6,7,8,9,10,11;",
  "1D1A6,MUSICAL SYMBOL ,HAUPTSTIMME,NEBENSTIMME,END OF STIMME,DEGREE SLASH,COMBINING DOWN BOW,",
  "COMBINING UP BOW,COMBINING HARMONIC,COMBINING SNAP PIZZICATO,PEDAL MARK,PEDAL UP MARK,",
  "HALF PEDAL MARK,GLISSANDO UP,GLISSANDO DOWN,zFINGERNAILS,DAMP,DAMP ALL,MAXIMA,LONGA,BREVIS,",
  "SEMIBREVIS WHITE,SEMIBREVIS BLACK,MINIMA,MINIMA BLACK,SEMIMINIMA WHITE,SEMIMINIMA BLACK,",
  "FUSA WHITE,FUSA BLACK,LONGA PERFECTA REST,LONGA IMPERFECTA REST,BREVIS REST,SEMIBREVIS REST,",
  "MINIMA REST,SEMIMINIMA REST;1D1C7,MUSICAL SYMBOL TEMPUS PERFECTUM CUM PROLATIONE ,PERFECTA,",
  "IMPERFECTA,PERFECTA DIMINUTION-1;",
  "1D1CA,MUSICAL SYMBOL TEMPUS IMPERFECTUM CUM PROLATIONE ,PERFECTA,IMPERFECTA,",
  "IMPERFECTA DIMINUTION-1,IMPERFECTA DIMINUTION-2,IMPERFECTA DIMINUTION-3;",
  "1D1CF,MUSICAL SYMBOL ,CROIX,GREGORIAN C CLEF,GREGORIAN F CLEF,SQUARE B,VIRGA,PODATUS,CLIVIS,",
  "SCANDICUS,CLIMACUS,TORCULUS,PORRECTUS,PORRECTUS FLEXUS,SCANDICUS FLEXUS,TORCULUS RESUPINUS,",
  "PES SUBPUNCTIS;1D1DE,MUSICAL SYMBOL KIEVAN ,C CLEF,END OF PIECE,FINAL NOTE,RECITATIVE MARK,",
  "WHOLE NOTE,HALF NOTE,QUARTER NOTE STEM DOWN,QUARTER NOTE STEM UP,EIGHTH NOTE STEM DOWN,",
  "EIGHTH NOTE STEM UP,FLAT SIGN;1D1E9,MUSICAL SYMBOL ,SORI,KORON;",
  "1D200,GREEK VOCAL NOTATION SYMBOL-,1,2,3,4,5,6,7,8,9,10,11,12,13,14,15,16,17,18,19,20,21,22,23,",
  "24,50,51,52,53,54;1D21D,GREEK INSTRUMENTAL NOTATION SYMBOL-,1,2,4,5,7,8,11,12,13,14,17,18,19,",
  "23,24,25,26,27,29,30,32,36,37,38,39,40,42,43,45,47,48,49,50,51,52,53,54;",
  "1D242,COMBINING GREEK MUSICAL ,TRISEME,TETRASEME,PENTASEME;1D245,,GREEK MUSICAL LEIMMA;",
  "1D2E0,MAYAN NUMERAL ,ZERO,ONE,TWO,THREE,FOUR,FIVE,SIX,SEVEN,EIGHT,NINE,TEN,ELEVEN,TWELVE,",
  "THIRTEEN,FOURTEEN,FIFTEEN,SIXTEEN,SEVENTEEN,EIGHTEEN,NINETEEN;1D300,,MONOGRAM FOR EARTH;",
  "1D301,DIGRAM FOR ,HEAVENLY EARTH,HUMAN EARTH,EARTHLY HEAVEN,EARTHLY HUMAN,EARTH;",
  "1D306,TETRAGRAM FOR ,CENTRE,FULL CIRCLE,MIRED,BARRIER,KEEPING SMALL,CONTRARIETY,ASCENT,",
  "OPPOSITION,BRANCHING OUT,DEFECTIVENESS OR DISTORTION,DIVERGENCE,YOUTHFULNESS,INCREASE,",
  "PENETRATION,REACH,CONTACT,HOLDING BACK,WAITING,FOLLOWING,ADVANCE,RELEASE,RESISTANCE,EASE,JOY,",
  "CONTENTION,ENDEAVOUR,DUTIES,CHANGE,DECISIVENESS,BOLD RESOLUTION,PACKING,LEGION,CLOSENESS,",
  "KINSHIP,GATHERING,STRENGTH,PURITY,FULLNESS,RESIDENCE,LAW OR MODEL,RESPONSE,GOING TO MEET,",
  "ENCOUNTERS,STOVE,GREATNESS,ENLARGEMENT,PATTERN,RITUAL,FLIGHT,VASTNESS OR WASTING,CONSTANCY,",
  "MEASURE,ETERNITY,UNITY,DIMINISHMENT,CLOSED MOUTH,GUARDEDNESS,GATHERING IN,MASSING,ACCUMULATION,",
  "EMBELLISHMENT,DOUBT,WATCH,SINKING,INNER,DEPARTURE,DARKENING,DIMMING,EXHAUSTION,SEVERANCE,",
  "STOPPAGE,HARDNESS,COMPLETION,CLOSURE,FAILURE,AGGRAVATION,COMPLIANCE,ON THE VERGE,DIFFICULTIES,",
  "LABOURING,FOSTERING;1D360,COUNTING ROD UNIT DIGIT ,ONE,TWO,THREE,FOUR,FIVE,SIX,SEVEN,EIGHT,",
  "NINE;1D369,COUNTING ROD TENS DIGIT ,ONE,TWO,THREE,FOUR,FIVE,SIX,SEVEN,EIGHT,NINE;",
  "1D372,IDEOGRAPHIC TALLY MARK ,ONE,TWO,THREE,FOUR,FIVE;1D377,TALLY MARK ,ONE,FIVE;",
  "1D400,nBOLD f,A,B,C,D,E,F,G,H,I,J,K,L,M,N,O,P,Q,R,S,T,U,V,W,X,Y,Z;1D41A,nBOLD t,A,B,C,D,E,F,G,",
  "H,I,J,K,L,M,N,O,P,Q,R,S,T,U,V,W,X,Y,Z;1D434,nITALIC f,A,B,C,D,E,F,G,H,I,J,K,L,M,N,O,P,Q,R,S,T,",
  "U,V,W,X,Y,Z;1D44E,nITALIC t,A,B,C,D,E,F,G;1D456,nITALIC t,I,J,K,L,M,N,O,P,Q,R,S,T,U,V,W,X,Y,Z;",
  "1D468,nBOLD ITALIC f,A,B,C,D,E,F,G,H,I,J,K,L,M,N,O,P,Q,R,S,T,U,V,W,X,Y,Z;",
  "1D482,nBOLD ITALIC t,A,B,C,D,E,F,G,H,I,J,K,L,M,N,O,P,Q,R,S,T,U,V,W,X,Y,Z;1D49C,,nSCRIPT fA;",
  "1D49E,nSCRIPT f,C,D;1D4A2,,nSCRIPT fG;1D4A5,nSCRIPT f,J,K;1D4A9,nSCRIPT f,N,O,P,Q;",
  "1D4AE,nSCRIPT ,fS,fT,fU,fV,fW,fX,fY,fZ,tA,tB,tC,tD;1D4BB,,nSCRIPT tF;1D4BD,nSCRIPT t,H,I,J,K,L,",
  "M,N;1D4C5,nSCRIPT t,P,Q,R,S,T,U,V,W,X,Y,Z;1D4D0,nBOLD SCRIPT f,A,B,C,D,E,F,G,H,I,J,K,L,M,N,O,P,",
  "Q,R,S,T,U,V,W,X,Y,Z;1D4EA,nBOLD SCRIPT t,A,B,C,D,E,F,G,H,I,J,K,L,M,N,O,P,Q,R,S,T,U,V,W,X,Y,Z;",
  "1D504,nFRAKTUR f,A,B;1D507,nFRAKTUR f,D,E,F,G;1D50D,nFRAKTUR f,J,K,L,M,N,O,P,Q;",
  "1D516,nFRAKTUR f,S,T,U,V,W,X,Y;1D51E,nFRAKTUR t,A,B,C,D,E,F,G,H,I,J,K,L,M,N,O,P,Q,R,S,T,U,V,W,",
  "X,Y,Z;1D538,nDOUBLE-STRUCK f,A,B;1D53B,nDOUBLE-STRUCK f,D,E,F,G;1D540,nDOUBLE-STRUCK f,I,J,K,L,",
  "M;1D546,,nDOUBLE-STRUCK fO;1D54A,nDOUBLE-STRUCK f,S,T,U,V,W,X,Y;1D552,nDOUBLE-STRUCK t,A,B,C,D,",
  "E,F,G,H,I,J,K,L,M,N,O,P,Q,R,S,T,U,V,W,X,Y,Z;1D56C,nBOLD FRAKTUR f,A,B,C,D,E,F,G,H,I,J,K,L,M,N,",
  "O,P,Q,R,S,T,U,V,W,X,Y,Z;1D586,nBOLD FRAKTUR t,A,B,C,D,E,F,G,H,I,J,K,L,M,N,O,P,Q,R,S,T,U,V,W,X,",
  "Y,Z;1D5A0,nSANS-SERIF f,A,B,C,D,E,F,G,H,I,J,K,L,M,N,O,P,Q,R,S,T,U,V,W,X,Y,Z;",
  "1D5BA,nSANS-SERIF t,A,B,C,D,E,F,G,H,I,J,K,L,M,N,O,P,Q,R,S,T,U,V,W,X,Y,Z;",
  "1D5D4,nSANS-SERIF BOLD f,A,B,C,D,E,F,G,H,I,J,K,L,M,N,O,P,Q,R,S,T,U,V,W,X,Y,Z;",
  "1D5EE,nSANS-SERIF BOLD t,A,B,C,D,E,F,G,H,I,J,K,L,M,N,O,P,Q,R,S,T,U,V,W,X,Y,Z;",
  "1D608,nSANS-SERIF ITALIC f,A,B,C,D,E,F,G,H,I,J,K,L,M,N,O,P,Q,R,S,T,U,V,W,X,Y,Z;",
  "1D622,nSANS-SERIF ITALIC t,A,B,C,D,E,F,G,H,I,J,K,L,M,N,O,P,Q,R,S,T,U,V,W,X,Y,Z;",
  "1D63C,nSANS-SERIF BOLD ITALIC f,A,B,C,D,E,F,G,H,I,J,K,L,M,N,O,P,Q,R,S,T,U,V,W,X,Y,Z;",
  "1D656,nSANS-SERIF BOLD ITALIC t,A,B,C,D,E,F,G,H,I,J,K,L,M,N,O,P,Q,R,S,T,U,V,W,X,Y,Z;",
  "1D670,nMONOSPACE f,A,B,C,D,E,F,G,H,I,J,K,L,M,N,O,P,Q,R,S,T,U,V,W,X,Y,Z;1D68A,nMONOSPACE t,A,B,",
  "C,D,E,F,G,H,I,J,K,L,M,N,O,P,Q,R,S,T,U,V,W,X,Y,Z;1D6A4,nITALIC tDOTLESS ,I,J;",
  "1D6A8,nBOLD f,ALPHA,BETA,GAMMA,DELTA,EPSILON,ZETA,ETA,THETA,IOTA,KAPPA,LAMDA,MU,NU,XI,OMICRON,",
  "PI,RHO,THETA SYMBOL,SIGMA,TAU,UPSILON,PHI,CHI,PSI,OMEGA;1D6C1,nBOLD ,NABLA,tALPHA,tBETA,tGAMMA,",
  "tDELTA,tEPSILON,tZETA,tETA,tTHETA,tIOTA,tKAPPA,tLAMDA,tMU,tNU,tXI,tOMICRON,tPI,tRHO,",
  "tFINAL SIGMA,tSIGMA,tTAU,tUPSILON,tPHI,tCHI,tPSI,tOMEGA,PARTIAL DIFFERENTIAL,EPSILON SYMBOL,",
  "THETA SYMBOL,KAPPA SYMBOL,PHI SYMBOL,RHO SYMBOL,PI SYMBOL;1D6E2,nITALIC f,ALPHA,BETA,GAMMA,",
  "DELTA,EPSILON,ZETA,ETA,THETA,IOTA,KAPPA,LAMDA,MU,NU,XI,OMICRON,PI,RHO,THETA SYMBOL,SIGMA,TAU,",
  "UPSILON,PHI,CHI,PSI,OMEGA;1D6FB,nITALIC ,NABLA,tALPHA,tBETA,tGAMMA,tDELTA,tEPSILON,tZETA,tETA,",
  "tTHETA,tIOTA,tKAPPA,tLAMDA,tMU,tNU,tXI,tOMICRON,tPI,tRHO,tFINAL SIGMA,tSIGMA,tTAU,tUPSILON,",
  "tPHI,tCHI,tPSI,tOMEGA,PARTIAL DIFFERENTIAL,EPSILON SYMBOL,THETA SYMBOL,KAPPA SYMBOL,PHI SYMBOL,",
  "RHO SYMBOL,PI SYMBOL;1D71C,nBOLD ITALIC f,ALPHA,BETA,GAMMA,DELTA,EPSILON,ZETA,ETA,THETA,IOTA,",
  "KAPPA,LAMDA,MU,NU,XI,OMICRON,PI,RHO,THETA SYMBOL,SIGMA,TAU,UPSILON,PHI,CHI,PSI,OMEGA;",
  "1D735,nBOLD ITALIC ,NABLA,tALPHA,tBETA,tGAMMA,tDELTA,tEPSILON,tZETA,tETA,tTHETA,tIOTA,tKAPPA,",
  "tLAMDA,tMU,tNU,tXI,tOMICRON,tPI,tRHO,tFINAL SIGMA,tSIGMA,tTAU,tUPSILON,tPHI,tCHI,tPSI,tOMEGA,",
  "PARTIAL DIFFERENTIAL,EPSILON SYMBOL,THETA SYMBOL,KAPPA SYMBOL,PHI SYMBOL,RHO SYMBOL,PI SYMBOL;",
  "1D756,nSANS-SERIF BOLD ,fALPHA,fBETA,fGAMMA,fDELTA,fEPSILON,fZETA,fETA,fTHETA,fIOTA,fKAPPA,",
  "fLAMDA,fMU,fNU,fXI,fOMICRON,fPI,fRHO,fTHETA SYMBOL,fSIGMA,fTAU,fUPSILON,fPHI,fCHI,fPSI,fOMEGA,",
  "NABLA,tALPHA,tBETA,tGAMMA,tDELTA,tEPSILON,tZETA,tETA,tTHETA,tIOTA,tKAPPA,tLAMDA,tMU,tNU,tXI,",
  "tOMICRON,tPI,tRHO,tFINAL SIGMA,tSIGMA,tTAU,tUPSILON,tPHI,tCHI,tPSI,tOMEGA,PARTIAL DIFFERENTIAL,",
  "EPSILON SYMBOL,THETA SYMBOL,KAPPA SYMBOL,PHI SYMBOL,RHO SYMBOL,PI SYMBOL;",
  "1D790,nSANS-SERIF BOLD ITALIC ,fALPHA,fBETA,fGAMMA,fDELTA,fEPSILON,fZETA,fETA,fTHETA,fIOTA,",
  "fKAPPA,fLAMDA,fMU,fNU,fXI,fOMICRON,fPI,fRHO,fTHETA SYMBOL,fSIGMA,fTAU,fUPSILON,fPHI,fCHI,fPSI,",
  "fOMEGA,NABLA,tALPHA,tBETA,tGAMMA,tDELTA,tEPSILON,tZETA,tETA,tTHETA,tIOTA,tKAPPA,tLAMDA,tMU,tNU,",
  "tXI,tOMICRON,tPI,tRHO,tFINAL SIGMA,tSIGMA,tTAU,tUPSILON,tPHI,tCHI,tPSI,tOMEGA,",
  "PARTIAL DIFFERENTIAL,EPSILON SYMBOL,THETA SYMBOL,KAPPA SYMBOL,PHI SYMBOL,RHO SYMBOL,PI SYMBOL;",
  "1D7CA,nBOLD ,fDIGAMMA,tDIGAMMA;1D7CE,nBOLD DIGIT ,ZERO,ONE,TWO,THREE,FOUR,FIVE,SIX,SEVEN,EIGHT,",
  "NINE;1D7D8,nDOUBLE-STRUCK DIGIT ,ZERO,ONE,TWO,THREE,FOUR,FIVE,SIX,SEVEN,EIGHT,NINE;",
  "1D7E2,nSANS-SERIF DIGIT ,ZERO,ONE,TWO,THREE,FOUR,FIVE,SIX,SEVEN,EIGHT,NINE;",
  "1D7EC,nSANS-SERIF BOLD DIGIT ,ZERO,ONE,TWO,THREE,FOUR,FIVE,SIX,SEVEN,EIGHT,NINE;",
  "1D7F6,nMONOSPACE DIGIT ,ZERO,ONE,TWO,THREE,FOUR,FIVE,SIX,SEVEN,EIGHT,NINE;",
  "1D800,SIGNWRITING HAND-,FIST INDEX,CIRCLE INDEX,CUP INDEX,OVAL INDEX,HINGE INDEX,ANGLE INDEX,",
  "FIST INDEX BENT,CIRCLE INDEX BENT,FIST THUMB UNDER INDEX BENT,FIST INDEX RAISED KNUCKLE,",
  "FIST INDEX CUPPED,FIST INDEX HINGED,FIST INDEX HINGED LOW,CIRCLE INDEX HINGE,FIST INDEX MIDDLE,",
  "CIRCLE INDEX MIDDLE;1D810,SIGNWRITING HAND-FIST INDEX ,oBENT,oRAISED KNUCKLES,oHINGED,",
  "UP oHINGED,HINGED oUP,oCONJOINED,oCONJOINED INDEX BENT,oCONJOINED oBENT,oCONJOINED CUPPED,",
  "oCONJOINED HINGED,oCROSSED;1D81B,SIGNWRITING HAND-,CIRCLE INDEX oCROSSED,FIST oBENT OVER INDEX,",
  "FIST INDEX BENT OVER MIDDLE,FIST INDEX oTHUMB,CIRCLE INDEX oTHUMB;",
  "1D820,SIGNWRITING HAND-FIST INDEX ,oSTRAIGHT THUMB BENT,oBENT THUMB STRAIGHT,oTHUMB BENT,",
  "oHINGED SPREAD THUMB SIDE,UP oHINGED THUMB SIDE,UP oHINGED THUMB CONJOINED,",
  "HINGED oUP THUMB SIDE,oUP SPREAD THUMB FORWARD,oTHUMB CUPPED,oTHUMB CIRCLED,oTHUMB HOOKED,",
  "oTHUMB HINGED;1D82C,SIGNWRITING HAND-FIST ,THUMB BETWEEN INDEX oSTRAIGHT,",
  "INDEX oCONJOINED THUMB SIDE,INDEX oCONJOINED THUMB SIDE CONJOINED,",
  "INDEX oCONJOINED THUMB SIDE BENT,oTHUMB HOOKED INDEX UP,INDEX THUMB HOOKED oUP,",
  "INDEX oCONJOINED HINGED THUMB SIDE,INDEX oCROSSED THUMB SIDE,INDEX oCONJOINED THUMB FORWARD,",
  "INDEX oCONJOINED CUPPED THUMB FORWARD,oTHUMB CUPPED INDEX UP,INDEX THUMB CUPPED oUP,",
  "oTHUMB CIRCLED INDEX UP,oTHUMB CIRCLED INDEX HINGED,INDEX THUMB ANGLED OUT oUP,",
  "INDEX THUMB ANGLED IN oUP,INDEX THUMB CIRCLED oUP,INDEX oTHUMB CONJOINED HINGED,",
  "INDEX oTHUMB ANGLED OUT,INDEX oTHUMB ANGLED,oTHUMB ANGLED OUT INDEX UP,",
  "oTHUMB ANGLED OUT INDEX CROSSED,oTHUMB ANGLED INDEX UP,INDEX THUMB HOOKED oHINGED;",
  "1D844,SIGNWRITING HAND-FLAT FOUR ,FINGERS,FINGERS BENT,FINGERS HINGED,FINGERS CONJOINED,",
  "FINGERS CONJOINED SPLIT;1D849,SIGNWRITING HAND-,CLAW FOUR FINGERS CONJOINED,",
  "FIST FOUR FINGERS CONJOINED BENT,HINGE FOUR FINGERS CONJOINED,FLAT FIVE FINGERS SPREAD,",
  "FLAT HEEL FIVE FINGERS SPREAD,FLAT FIVE FINGERS SPREAD FOUR BENT,",
  "FLAT HEEL FIVE FINGERS SPREAD FOUR BENT,FLAT FIVE FINGERS SPREAD BENT,",
  "FLAT HEEL FIVE FINGERS SPREAD BENT,FLAT FIVE FINGERS SPREAD THUMB FORWARD,",
  "CUP FIVE FINGERS SPREAD,CUP FIVE FINGERS SPREAD OPEN,HINGE FIVE FINGERS SPREAD OPEN,",
  "OVAL FIVE FINGERS SPREAD,FLAT FIVE FINGERS SPREAD HINGED,",
  "FLAT FIVE FINGERS SPREAD HINGED THUMB SIDE,FLAT FIVE FINGERS SPREAD HINGED NO THUMB,FLAT,",
  "FLAT BETWEEN PALM FACINGS,FLAT HEEL,FLAT THUMB SIDE,FLAT HEEL THUMB SIDE,FLAT THUMB BENT,",
  "FLAT THUMB FORWARD,FLAT SPLIT INDEX THUMB SIDE,FLAT SPLIT CENTRE,FLAT SPLIT CENTRE THUMB SIDE,",
  "FLAT SPLIT CENTRE THUMB SIDE BENT,FLAT SPLIT LITTLE,CLAW,CLAW THUMB SIDE,CLAW NO THUMB,",
  "CLAW THUMB FORWARD,HOOK CURLICUE,HOOK,CUP OPEN,CUP,CUP OPEN THUMB SIDE,CUP THUMB SIDE,",
  "CUP OPEN NO THUMB,CUP NO THUMB,CUP OPEN THUMB FORWARD,CUP THUMB FORWARD,CURLICUE OPEN,CURLICUE,",
  "CIRCLE,OVAL,OVAL THUMB SIDE,OVAL NO THUMB,OVAL THUMB FORWARD,HINGE OPEN,",
  "HINGE OPEN THUMB FORWARD,HINGE,HINGE SMALL,HINGE OPEN THUMB SIDE,HINGE THUMB SIDE,",
  "HINGE OPEN NO THUMB,HINGE NO THUMB,HINGE THUMB SIDE TOUCHING INDEX,HINGE THUMB BETWEEN oRING,",
  "ANGLE,FIST INDEX oRING,CIRCLE INDEX oRING,HINGE INDEX oRING,ANGLE INDEX oRING,HINGE LITTLE,",
  "FIST INDEX oRING BENT,FIST INDEX oRING CONJOINED,HINGE INDEX oRING CONJOINED,FIST LITTLE DOWN,",
  "FIST LITTLE DOWN RIPPLE STRAIGHT,FIST LITTLE DOWN RIPPLE CURVED,",
  "FIST LITTLE DOWN OTHERS CIRCLED,FIST LITTLE UP,FIST THUMB UNDER LITTLE UP,CIRCLE LITTLE UP,",
  "OVAL LITTLE UP,ANGLE LITTLE UP,FIST LITTLE RAISED KNUCKLE,FIST LITTLE BENT,",
  "FIST LITTLE TOUCHES THUMB,FIST LITTLE THUMB,HINGE LITTLE THUMB,FIST LITTLE INDEX THUMB,",
  "HINGE LITTLE INDEX THUMB,ANGLE LITTLE INDEX THUMB INDEX THUMB OUT,",
  "ANGLE LITTLE INDEX THUMB INDEX THUMB,FIST LITTLE INDEX,CIRCLE LITTLE INDEX,HINGE LITTLE INDEX,",
  "ANGLE LITTLE INDEX,FIST INDEX oLITTLE,CIRCLE INDEX oLITTLE,HINGE INDEX oLITTLE,HINGE RING,",
  "ANGLE INDEX oLITTLE,FIST INDEX oCROSS LITTLE,CIRCLE INDEX oCROSS LITTLE,FIST RING DOWN,",
  "HINGE RING DOWN INDEX THUMB HOOK MIDDLE,ANGLE RING DOWN oTHUMB INDEX CROSS,FIST RING UP,",
  "FIST RING RAISED KNUCKLE,FIST RING LITTLE,CIRCLE RING LITTLE,OVAL RING LITTLE,",
  "ANGLE RING LITTLE,FIST RING MIDDLE,FIST RING oCONJOINED,FIST RING oRAISED KNUCKLES,",
  "FIST RING INDEX,FIST RING THUMB,HOOK RING THUMB,FIST INDEX RING LITTLE,",
  "CIRCLE INDEX RING LITTLE,CURLICUE INDEX RING LITTLE ON,HOOK INDEX RING LITTLE OUT,",
  "HOOK INDEX RING LITTLE IN,HOOK INDEX RING LITTLE UNDER,CUP INDEX RING LITTLE,",
  "HINGE INDEX RING LITTLE,ANGLE INDEX RING LITTLE OUT,ANGLE INDEX RING LITTLE,FIST oDOWN,",
  "HINGE MIDDLE,FIST oUP,CIRCLE oUP,FIST oRAISED KNUCKLE,FIST oUP THUMB SIDE,HOOK oTHUMB,",
  "FIST oTHUMB LITTLE,FIST oLITTLE,FIST oRING LITTLE,CIRCLE oRING LITTLE,CURLICUE oRING LITTLE ON,",
  "CUP oRING LITTLE,HINGE oRING LITTLE,ANGLE oRING LITTLE OUT,ANGLE oRING LITTLE IN,",
  "ANGLE oRING LITTLE,CIRCLE oRING LITTLE BENT,CLAW oRING LITTLE CONJOINED,",
  "CLAW oRING LITTLE CONJOINED SIDE,HOOK oRING LITTLE CONJOINED OUT,",
  "HOOK oRING LITTLE CONJOINED IN,HOOK oRING LITTLE CONJOINED,HINGE INDEX HINGED,",
  "FIST INDEX THUMB SIDE,HINGE INDEX THUMB SIDE;",
  "1D8DE,SIGNWRITING HAND-FIST INDEX THUMB ,SIDE THUMB DIAGONAL,SIDE THUMB CONJOINED,",
  "SIDE THUMB BENT,SIDE INDEX BENT,SIDE BOTH BENT,SIDE INDEX HINGE,FORWARD INDEX STRAIGHT,",
  "FORWARD INDEX BENT,HOOK,CURLICUE,CURVE THUMB INSIDE;",
  "1D8E9,SIGNWRITING HAND-,CLAW INDEX THUMB CURVE THUMB INSIDE,FIST INDEX THUMB CURVE THUMB UNDER,",
  "FIST INDEX THUMB CIRCLE,CUP INDEX THUMB,CUP INDEX THUMB OPEN,HINGE INDEX THUMB OPEN,",
  "HINGE INDEX THUMB LARGE,HINGE INDEX THUMB,HINGE INDEX THUMB SMALL,ANGLE INDEX THUMB OUT,",
  "ANGLE INDEX THUMB IN,ANGLE INDEX THUMB,FIST THUMB;1D8F6,SIGNWRITING HAND-FIST THUMB ,HEEL,",
  "SIDE DIAGONAL,SIDE CONJOINED,SIDE BENT,FORWARD,BETWEEN INDEX MIDDLE,BETWEEN oRING,",
  "BETWEEN RING LITTLE,UNDER TWO FINGERS,OVER TWO FINGERS,UNDER THREE FINGERS,UNDER FOUR FINGERS,",
  "OVER FOUR RAISED KNUCKLES;1D903,SIGNWRITING ,HAND-FIST,HAND-FIST HEEL,TOUCH SINGLE,",
  "TOUCH MULTIPLE,TOUCH BETWEEN,GRASP SINGLE,GRASP MULTIPLE,GRASP BETWEEN,STRIKE SINGLE,",
  "STRIKE MULTIPLE,STRIKE BETWEEN,BRUSH SINGLE,BRUSH MULTIPLE,BRUSH BETWEEN,RUB SINGLE,",
  "RUB MULTIPLE,RUB BETWEEN,SURFACE SYMBOLS,SURFACE BETWEEN,SQUEEZE LARGE SINGLE,SQUEEZE tSINGLE,",
  "SQUEEZE LARGE MULTIPLE,SQUEEZE tMULTIPLE,SQUEEZE SEQUENTIAL,FLICK LARGE SINGLE,FLICK tSINGLE,",
  "FLICK LARGE MULTIPLE,FLICK tMULTIPLE,FLICK SEQUENTIAL,SQUEEZE FLICK ALTERNATING;",
  "1D921,SIGNWRITING MOVEMENT-HINGE ,UP DOWN LARGE,UP DOWN SMALL,UP SEQUENTIAL,DOWN SEQUENTIAL,",
  "UP DOWN ALTERNATING LARGE,UP DOWN ALTERNATING SMALL,SIDE TO SIDE SCISSORS;",
  "1D928,SIGNWRITING MOVEMENT-,WALLPLANE FINGER CONTACT,FLOORPLANE FINGER CONTACT;",
  "1D92A,SIGNWRITING MOVEMENT-WALLPLANE SINGLE STRAIGHT ,SMALL,MEDIUM,LARGE,LARGEST;",
  "1D92E,SIGNWRITING MOVEMENT-WALLPLANE ,SINGLE WRIST FLEX,gSTRAIGHT,gWRIST FLEX,gALTERNATING,",
  "gALTERNATING WRIST FLEX,CROSS,TRIPLE STRAIGHT MOVEMENT,TRIPLE WRIST FLEX,TRIPLE ALTERNATING,",
  "TRIPLE ALTERNATING WRIST FLEX,BEND SMALL,BEND MEDIUM,BEND LARGE,CORNER SMALL,CORNER MEDIUM,",
  "CORNER LARGE,CORNER ROTATION,CHECK SMALL,CHECK MEDIUM,CHECK LARGE,BOX SMALL,BOX MEDIUM,",
  "BOX LARGE,ZIGZAG SMALL,ZIGZAG MEDIUM,ZIGZAG LARGE,PEAKS SMALL,PEAKS MEDIUM,PEAKS LARGE;",
  "1D94B,SIGNWRITING TRAVEL-WALLPLANE ROTATION-,WALLPLANE SINGLE,WALLPLANE DOUBLE,",
  "WALLPLANE ALTERNATING,FLOORPLANE SINGLE,FLOORPLANE DOUBLE,FLOORPLANE ALTERNATING;",
  "1D951,SIGNWRITING TRAVEL-WALLPLANE ,SHAKING,ARM SPIRAL SINGLE,ARM SPIRAL DOUBLE,",
  "ARM SPIRAL TRIPLE;1D955,SIGNWRITING MOVEMENT-DIAGONAL AWAY ,SMALL,MEDIUM,LARGE,LARGEST;",
  "1D959,SIGNWRITING MOVEMENT-DIAGONAL TOWARDS ,SMALL,MEDIUM,LARGE,LARGEST;",
  "1D95D,SIGNWRITING MOVEMENT-DIAGONAL BETWEEN ,AWAY SMALL,AWAY MEDIUM,AWAY LARGE,AWAY LARGEST,",
  "TOWARDS SMALL,TOWARDS MEDIUM,TOWARDS LARGE,TOWARDS LARGEST;",
  "1D965,SIGNWRITING MOVEMENT-FLOORPLANE SINGLE STRAIGHT ,SMALL,MEDIUM,LARGE,LARGEST;",
  "1D969,SIGNWRITING MOVEMENT-FLOORPLANE ,SINGLE WRIST FLEX,gSTRAIGHT,gWRIST FLEX,gALTERNATING,",
  "gALTERNATING WRIST FLEX,CROSS,TRIPLE STRAIGHT MOVEMENT,TRIPLE WRIST FLEX,",
  "TRIPLE ALTERNATING MOVEMENT,TRIPLE ALTERNATING WRIST FLEX,BEND,CORNER SMALL,CORNER MEDIUM,",
  "CORNER LARGE,CHECK,BOX SMALL,BOX MEDIUM,BOX LARGE,ZIGZAG SMALL,ZIGZAG MEDIUM,ZIGZAG LARGE,",
  "PEAKS SMALL,PEAKS MEDIUM,PEAKS LARGE;",
  "1D981,SIGNWRITING TRAVEL-FLOORPLANE ROTATION-,FLOORPLANE SINGLE,FLOORPLANE DOUBLE,",
  "FLOORPLANE ALTERNATING,WALLPLANE SINGLE,WALLPLANE DOUBLE,WALLPLANE ALTERNATING;",
  "1D987,,SIGNWRITING TRAVEL-FLOORPLANE SHAKING;",
  "1D988,SIGNWRITING MOVEMENT-WALLPLANE CURVE QUARTER ,SMALL,MEDIUM,LARGE,LARGEST;",
  "1D98C,SIGNWRITING MOVEMENT-WALLPLANE CURVE HALF-CIRCLE ,SMALL,MEDIUM,LARGE,LARGEST;",
  "1D990,SIGNWRITING MOVEMENT-WALLPLANE ,CURVE THREE-QUARTER CIRCLE SMALL,",
  "CURVE THREE-QUARTER CIRCLE MEDIUM,HUMP SMALL,HUMP MEDIUM,HUMP LARGE,LOOP SMALL,LOOP MEDIUM,",
  "LOOP LARGE,LOOP tDOUBLE,WAVE CURVE gSMALL,WAVE CURVE gMEDIUM,WAVE CURVE gLARGE,",
  "WAVE CURVE TRIPLE SMALL,WAVE CURVE TRIPLE MEDIUM,WAVE CURVE TRIPLE LARGE,CURVE THEN STRAIGHT,",
  "CURVED CROSS SMALL,CURVED CROSS MEDIUM;1D9A2,SIGNWRITING ROTATION-WALLPLANE ,SINGLE,DOUBLE,",
  "ALTERNATE;1D9A5,SIGNWRITING MOVEMENT-WALLPLANE ,SHAKING,CURVE HITTING FRONT WALL,",
  "HUMP HITTING FRONT WALL,LOOP HITTING FRONT WALL,WAVE HITTING FRONT WALL;",
  "1D9AA,SIGNWRITING ROTATION-WALLPLANE ,SINGLE HITTING FRONT WALL,gHITTING FRONT WALL,",
  "ALTERNATING HITTING FRONT WALL;1D9AD,SIGNWRITING MOVEMENT-WALLPLANE ,CURVE HITTING CHEST,",
  "HUMP HITTING CHEST,LOOP HITTING CHEST,WAVE HITTING CHEST;",
  "1D9B1,SIGNWRITING ROTATION-WALLPLANE ,SINGLE HITTING CHEST,gHITTING CHEST,",
  "ALTERNATING HITTING CHEST;1D9B4,SIGNWRITING MOVEMENT-WALLPLANE WAVE DIAGONAL PATH ,SMALL,",
  "MEDIUM,LARGE;1D9B7,SIGNWRITING MOVEMENT-FLOORPLANE CURVE HITTING CEILING ,SMALL,LARGE;",
  "1D9B9,SIGNWRITING MOVEMENT-FLOORPLANE HUMP HITTING CEILING ,tDOUBLE,LARGE DOUBLE,tTRIPLE,",
  "LARGE TRIPLE;1D9BD,SIGNWRITING MOVEMENT-FLOORPLANE LOOP HITTING CEILING ,tSINGLE,LARGE SINGLE,",
  "tDOUBLE,LARGE DOUBLE;1D9C1,SIGNWRITING MOVEMENT-FLOORPLANE WAVE HITTING CEILING ,SMALL,LARGE;",
  "1D9C3,SIGNWRITING ROTATION-FLOORPLANE ,SINGLE HITTING CEILING,gHITTING CEILING,",
  "ALTERNATING HITTING CEILING;1D9C6,SIGNWRITING MOVEMENT-FLOORPLANE CURVE HITTING FLOOR ,SMALL,",
  "LARGE;1D9C8,SIGNWRITING MOVEMENT-FLOORPLANE HUMP HITTING FLOOR ,tDOUBLE,LARGE DOUBLE,",
  "TRIPLE tTRIPLE,TRIPLE LARGE TRIPLE;",
  "1D9CC,SIGNWRITING MOVEMENT-FLOORPLANE LOOP HITTING FLOOR ,tSINGLE,LARGE SINGLE,tDOUBLE,",
  "LARGE DOUBLE;1D9D0,SIGNWRITING MOVEMENT-FLOORPLANE WAVE HITTING FLOOR ,SMALL,LARGE;",
  "1D9D2,SIGNWRITING ROTATION-FLOORPLANE ,SINGLE HITTING FLOOR,gHITTING FLOOR,",
  "ALTERNATING HITTING FLOOR;1D9D5,SIGNWRITING MOVEMENT-FLOORPLANE ,CURVE SMALL,CURVE MEDIUM,",
  "CURVE LARGE,CURVE LARGEST,CURVE COMBINED,HUMP SMALL,LOOP SMALL,WAVE SNAKE,WAVE SMALL,",
  "WAVE LARGE;1D9DF,SIGNWRITING ROTATION-FLOORPLANE ,SINGLE,DOUBLE,ALTERNATING;",
  "1D9E2,,SIGNWRITING MOVEMENT-FLOORPLANE SHAKING PARALLEL;",
  "1D9E3,SIGNWRITING MOVEMENT-WALLPLANE ARM CIRCLE ,tSINGLE,MEDIUM SINGLE,tDOUBLE,MEDIUM DOUBLE;",
  "1D9E7,SIGNWRITING MOVEMENT-FLOORPLANE ARM CIRCLE HITTING WALL ,tSINGLE,MEDIUM SINGLE,",
  "LARGE SINGLE,tDOUBLE,MEDIUM DOUBLE,LARGE DOUBLE;",
  "1D9ED,SIGNWRITING MOVEMENT-WALLPLANE WRIST CIRCLE FRONT ,SINGLE,DOUBLE;",
  "1D9EF,SIGNWRITING MOVEMENT-FLOORPLANE WRIST CIRCLE HITTING WALL ,SINGLE,DOUBLE;",
  "1D9F1,SIGNWRITING MOVEMENT-WALLPLANE FINGER CIRCLES ,SINGLE,DOUBLE;",
  "1D9F3,SIGNWRITING MOVEMENT-FLOORPLANE FINGER CIRCLES HITTING WALL ,SINGLE,DOUBLE;",
  "1D9F5,SIGNWRITING DYNAMIC ,cHEAD SMALL,cHEAD LARGE,FAST,SLOW,TENSE,RELAXED,SIMULTANEOUS,",
  "SIMULTANEOUS ALTERNATING,EVERY OTHER TIME,GRADUAL;1D9FF,SIGNWRITING ,HEAD,HEAD RIM;",
  "1DA01,SIGNWRITING HEAD MOVEMENT-,WALLPLANE STRAIGHT,WALLPLANE TILT,FLOORPLANE STRAIGHT,",
  "WALLPLANE CURVE,FLOORPLANE CURVE;1DA06,,SIGNWRITING HEAD MOVEMENT CIRCLE;",
  "1DA07,SIGNWRITING FACE DIRECTION POSITION NOSE ,FORWARD TILTING,UP OR DOWN,UP OR DOWN TILTING;",
  "1DA0A,SIGNWRITING EYEBROWS STRAIGHT ,UP,NEUTRAL,DOWN;",
  "1DA0D,SIGNWRITING DREAMY EYEBROWS ,NEUTRAL DOWN,DOWN NEUTRAL,UP NEUTRAL,NEUTRAL UP;",
  "1DA11,SIGNWRITING ,FOREHEAD NEUTRAL,FOREHEAD CONTACT,FOREHEAD WRINKLED,EYES OPEN,EYES SQUEEZED,",
  "EYES CLOSED,EYE BLINK SINGLE,EYE BLINK MULTIPLE,EYES HALF OPEN,EYES WIDE OPEN,EYES HALF CLOSED,",
  "EYES WIDENING MOVEMENT,EYE WINK,EYELASHES UP,EYELASHES DOWN,EYELASHES FLUTTERING;",
  "1DA21,SIGNWRITING EYEGAZE-,WALLPLANE STRAIGHT,WALLPLANE STRAIGHT DOUBLE,",
  "WALLPLANE STRAIGHT ALTERNATING,FLOORPLANE STRAIGHT,FLOORPLANE STRAIGHT DOUBLE,",
  "FLOORPLANE STRAIGHT ALTERNATING,WALLPLANE CURVED,FLOORPLANE CURVED,WALLPLANE CIRCLING;",
  "1DA2A,SIGNWRITING ,CHEEKS PUFFED,CHEEKS NEUTRAL,CHEEKS SUCKED,TENSE CHEEKS HIGH,",
  "TENSE CHEEKS MIDDLE,TENSE CHEEKS LOW,EARS,NOSE NEUTRAL,NOSE CONTACT,NOSE WRINKLES,NOSE WIGGLES,",
  "AIR BLOWING OUT,AIR SUCKING IN,AIR BLOW tROTATIONS,AIR SUCK tROTATIONS,BREATH INHALE,",
  "BREATH EXHALE;1DA3B,SIGNWRITING MOUTH ,CLOSED NEUTRAL,CLOSED FORWARD,CLOSED CONTACT,SMILE,",
  "SMILE WRINKLED,SMILE OPEN,FROWN,FROWN WRINKLED,FROWN OPEN,OPEN CIRCLE,OPEN FORWARD,",
  "OPEN WRINKLED,OPEN OVAL,OPEN OVAL WRINKLED,OPEN OVAL YAWN,OPEN RECTANGLE,",
  "OPEN RECTANGLE WRINKLED,OPEN RECTANGLE YAWN,KISS,KISS FORWARD,KISS WRINKLED,TENSE,",
  "TENSE FORWARD,TENSE SUCKED;1DA53,SIGNWRITING ,LIPS PRESSED TOGETHER,LIP LOWER OVER UPPER,",
  "LIP UPPER OVER LOWER,MOUTH CORNERS,MOUTH WRINKLES SINGLE,MOUTH WRINKLES DOUBLE;",
  "1DA59,SIGNWRITING TONGUE ,STICKING OUT FAR,LICKING LIPS,TIP BETWEEN LIPS,",
  "TIP TOUCHING INSIDE MOUTH,INSIDE MOUTH RELAXED,MOVES AGAINST CHEEK,CENTRE STICKING OUT,",
  "CENTRE INSIDE MOUTH;1DA61,SIGNWRITING ,TEETH,TEETH MOVEMENT,TEETH ON TONGUE,",
  "TEETH ON TONGUE MOVEMENT,TEETH ON LIPS,TEETH ON LIPS MOVEMENT,TEETH BITE LIPS,",
  "MOVEMENT-WALLPLANE JAW,MOVEMENT-FLOORPLANE JAW,NECK,HAIR,EXCITEMENT,SHOULDER HIP SPINE,",
  "SHOULDER HIP POSITIONS,WALLPLANE SHOULDER HIP MOVE,FLOORPLANE SHOULDER HIP MOVE,",
  "SHOULDER TILTING FROM WAIST,TORSO-WALLPLANE STRAIGHT STRETCH,TORSO-WALLPLANE CURVED BEND,",
  "TORSO-FLOORPLANE TWISTING,UPPER BODY TILTING FROM HIP JOINTS,LIMB COMBINATION;",
  "1DA77,SIGNWRITING LIMB LENGTH-,1,2,3,4,5,6,7;1DA7E,SIGNWRITING ,FINGER,",
  "LOCATION-WALLPLANE SPACE,LOCATION-FLOORPLANE SPACE;1DA81,SIGNWRITING LOCATION ,HEIGHT,WIDTH,",
  "DEPTH,HEAD NECK,TORSO,LIMBS DIGITS;1DA87,SIGNWRITING ,COMMA,FULL STOP,SEMICOLON,COLON,",
  "PARENTHESIS;1DA9B,SIGNWRITING FILL MODIFIER-,2,3,4,5,6;1DAA1,SIGNWRITING ROTATION MODIFIER-,2,",
  "3,4,5,6,7,8,9,10,11,12,13,14,15,16;1DF00,LATIN ,tmFENG DIGRAPH zTRILL,tmREVERSED SCRIPT G,",
  "mtfTURNED G,tmREVERSED K,mtfL zBELT,tmLEZH zRETROFLEX HOOK,tmTURNED Y zBELT,tmREVERSED ENG,",
  "tmTURNED R zLONG LEG bRETROFLEX HOOK,tmT zHOOK bRETROFLEX HOOK,",
  "mRETROFLEX CLICK zRETROFLEX HOOK,tmESH zgBAR,tmESH zgBAR bCURL,tmTURNED T zCURL,",
  "mINVERTED GLOTTAL STOP zCURL,mSTRETCHED C zCURL,mtfTURNED K;1DF11,LATIN tm,L zFISHHOOK,",
  "DEZH DIGRAPH zPALATAL HOOK,L zBELT bPALATAL HOOK,ENG zPALATAL HOOK,TURNED R zPALATAL HOOK,",
  "R zFISHHOOK bPALATAL HOOK,TESH DIGRAPH zPALATAL HOOK,EZH zPALATAL HOOK,",
  "DEZH DIGRAPH zRETROFLEX HOOK,I zSTROKE bRETROFLEX HOOK,O zRETROFLEX HOOK,",
  "TESH DIGRAPH zRETROFLEX HOOK,C zRETROFLEX HOOK,S zCURL;1E000,COMBINING GLAGOLITIC m,AZU,BUKY,",
  "VEDE,GLAGOLI,DOBRO,YESTU,ZHIVETE;1E008,COMBINING GLAGOLITIC m,ZEMLJA,IZHE,INITIAL IZHE,I,",
  "DJERVI,KAKO,LJUDIJE,MYSLITE,NASHI,ONU,POKOJI,RITSI,SLOVO,TVRIDO,UKU,FRITU,HERU;",
  "1E01B,COMBINING GLAGOLITIC m,SHTA,TSI,CHRIVI,SHA,YERU,YERI,YATI;",
  "1E023,COMBINING GLAGOLITIC m,YU,tYUS;1E026,COMBINING GLAGOLITIC m,YO,IOTATED tYUS,BIG YUS,",
  "IOTATED BIG YUS,FITA;1E100,NYIAKENG PUACHUE HMONG m,MA,TSA,NTA,TA,HA,NA,XA,NKA,CA,LA,SA,ZA,NCA,",
  "NTSA,KA,DA,NYA,NRA,VA,NTXA,TXA,FA,RA,QA,YA,NQA,PA,XYA,NPA,DLA,NPLA,HAH,MLA,PLA,GA,RRA,A,AA,I,U,",
  "O,OO,E,EE,W;1E130,NYIAKENG PUACHUE HMONG ,TONE-B,TONE-M,TONE-J,TONE-V,TONE-S,TONE-G,TONE-D,",
  "sFOR PERSON,sFOR THING,sFOR LOCATION,sFOR ANIMAL,sFOR INVERTEBRATE,sXW XW,SYLLABLE LENGTHENER;",
  "1E140,NYIAKENG PUACHUE HMONG DIGIT ,ZERO,ONE,TWO,THREE,FOUR,FIVE,SIX,SEVEN,EIGHT,NINE;",
  "1E14E,NYIAKENG PUACHUE HMONG ,LOGOGRAM NYAJ,CIRCLED CA;1E290,TOTO m,PA,BA,TA,DA,KA,GA,MA,NA,",
  "NGA,SA,CHA,YA,WA,JA,HA,RA,LA,I,BREATHY I,IU,BREATHY IU,U,E,BREATHY E,EO,BREATHY EO,O,AE,",
  "BREATHY AE,A;1E2AE,,TOTO sRISING TONE;1E2C0,WANCHO m,AA,A,BA,CA,DA,GA,YA,PHA,LA,NA,PA,TA,THA,",
  "FA,SA,SHA,JA,ZA,WA,VA,KA,O,AU,RA,MA,KHA,HA,E,I,NGA,U,LLHA,TSA,TRA,ONG,AANG,ANG,ING,ON,EN,AAN,",
  "NYA,UEN,YIH;1E2EC,WANCHO TONE ,TUP,TUPNI,KOI,KOINI;1E2F0,WANCHO DIGIT ,ZERO,ONE,TWO,THREE,FOUR,",
  "FIVE,SIX,SEVEN,EIGHT,NINE;1E2FF,,WANCHO NGUN SIGN;1E7E0,ETHIOPIC SYLLABLE ,HHYA,HHYU,HHYI,",
  "HHYAA,HHYEE,HHYE,HHYO;1E7E8,ETHIOPIC SYLLABLE ,GURAGE HHWA,HHWI,HHWEE,HHWE;",
  "1E7ED,ETHIOPIC SYLLABLE GURAGE ,MWI,MWEE;1E7F0,ETHIOPIC SYLLABLE GURAGE ,QWI,QWEE,QWE,BWI,BWEE,",
  "KWI,KWEE,KWE,GWI,GWEE,GWE,FWI,FWEE,PWI,PWEE;1E800,MENDE KIKAKUI SYLLABLE ,M001 KI,M002 KA,",
  "M003 KU,M065 KEE,M095 KE,M076 KOO,M048 KO,M179 KUA,M004 WI,M005 WA,M006 WU,M126 WEE,M118 WE,",
  "M114 WOO,M045 WO,M194 WUI,M143 WEI,M061 WVI,M049 WVA,M139 WVE,M007 MIN,M008 MAN,M009 MUN,",
  "M059 MEN,M094 MON,M154 MUAN,M189 MUEN,M010 BI,M011 BA,M012 BU,M150 BEE,M097 BE,M103 BOO,",
  "M138 BO,M013 I,M014 A,M015 U,M163 EE,M100 E,M165 OO,M147 O,M137 EI,M131 IN,M135 IN,M195 AN,",
  "M178 EN,M019 SI,M020 SA,M021 SU,M162 SEE,M116 SE,M136 SOO,M079 SO,M196 SIA,M025 LI,M026 LA,",
  "M027 LU,M084 LEE,M073 LE,M054 LOO,M153 LO,M110 LONG LE,M016 DI,M017 DA,M018 DU,M089 DEE,",
  "M180 DOO,M181 DO,M022 TI,M023 TA,M024 TU,M091 TEE,M055 TE,M104 TOO,M069 TO,M028 JI,M029 JA,",
  "M030 JU,M157 JEE,M113 JE,M160 JOO,M063 JO,M175 LONG JO,M031 YI,M032 YA,M033 YU,M109 YEE,",
  "M080 YE,M141 YOO,M121 YO,M034 FI,M035 FA,M036 FU,M078 FEE,M075 FE,M133 FOO,M088 FO,M197 FUA,",
  "M101 FAN,M037 NIN,M038 NAN,M039 NUN,M117 NEN,M169 NON,M176 HI,M041 HA,M186 HU,M040 HEE,M096 HE,",
  "M042 HOO,M140 HO,M083 HEEI,M128 HOOU,M053 HIN,M130 HAN,M087 HUN,M052 HEN,M193 HON,M046 HUAN,",
  "M090 NGGI,M043 NGGA,M082 NGGU,M115 NGGEE,M146 NGGE,M156 NGGOO,M120 NGGO,M159 NGGAA,M127 NGGUA,",
  "M086 LONG NGGE,M106 LONG NGGOO,M183 LONG NGGO,M155 GI,M111 GA,M168 GU,M190 GEE,M166 GUEI,",
  "M167 GUAN,M184 NGEN,M057 NGON,M177 NGUAN,M068 PI,M099 PA,M050 PU,M081 PEE,M051 PE,M102 POO,",
  "M066 PO,M145 MBI,M062 MBA,M122 MBU,M047 MBEE,M188 MBEE,M072 MBE,M172 MBOO,M174 MBO,M187 MBUU,",
  "M161 LONG MBE,M105 LONG MBOO,M142 LONG MBO,M132 KPI,M092 KPA,M074 KPU,M044 KPEE,M108 KPE,",
  "M112 KPOO,M158 KPO,M124 GBI,M056 GBA,M148 GBU,M093 GBEE,M107 GBE,M071 GBOO,M070 GBO,M171 RA,",
  "M123 NDI,M129 NDA,M125 NDU,M191 NDEE,M119 NDE,M067 NDOO,M064 NDO,M152 NJA,M192 NJU,M149 NJEE,",
  "M134 NJOO,M182 VI,M185 VA,M151 VU,M173 VEE,M085 VE,M144 VOO,M077 VO,M164 NYIN,M058 NYAN,",
  "M170 NYUN,M098 NYEN,M060 NYON;1E8C7,MENDE KIKAKUI DIGIT ,ONE,TWO,THREE,FOUR,FIVE,SIX,SEVEN,",
  "EIGHT,NINE;1E8D0,MENDE KIKAKUI COMBINING NUMBER ,TEENS,TENS,HUNDREDS,THOUSANDS,TEN THOUSANDS,",
  "HUNDRED THOUSANDS,MILLIONS;1E900,ADLAM fm,ALIF,DAALI,LAAM,MIIM,BA,SINNYIIYHE,PE,BHE,RA,E,FA,I,",
  "O,DHA,YHE,WAW,NUN,KAF,YA,U,JIIM,CHI,HA,QAAF,GA,NYA,TU,NHA,VA,KHA,GBE,ZAL,KPO,SHA;",
  "1E922,ADLAM tm,ALIF,DAALI,LAAM,MIIM,BA,SINNYIIYHE,PE,BHE,RA,E,FA,I,O,DHA,YHE,WAW,NUN,KAF,YA,U,",
  "JIIM,CHI,HA,QAAF,GA,NYA,TU,NHA,VA,KHA,GBE,ZAL,KPO,SHA;1E944,ADLAM ,ALIF LENGTHENER,xLENGTHENER,",
  "GEMINATION MARK,HAMZA,CONSONANT MODIFIER,GEMINATE CONSONANT MODIFIER,NUKTA,NASALIZATION MARK;",
  "1E950,ADLAM DIGIT ,ZERO,ONE,TWO,THREE,FOUR,FIVE,SIX,SEVEN,EIGHT,NINE;",
  "1E95E,ADLAM INITIAL ,EXCLAMATION MARK,QUESTION MARK;1EC71,INDIC SIYAQ NUMBER ,ONE,TWO,THREE,",
  "FOUR,FIVE,SIX,SEVEN,EIGHT,NINE,TEN,TWENTY,THIRTY,FORTY,FIFTY,SIXTY,SEVENTY,EIGHTY,NINETY,",
  "ONE HUNDRED,TWO HUNDRED,THREE HUNDRED,FOUR HUNDRED,FIVE HUNDRED,SIX HUNDRED,SEVEN HUNDRED,",
  "EIGHT HUNDRED,NINE HUNDRED,ONE THOUSAND,TWO THOUSAND,THREE THOUSAND,FOUR THOUSAND,",
  "FIVE THOUSAND,SIX THOUSAND,SEVEN THOUSAND,EIGHT THOUSAND,NINE THOUSAND,TEN THOUSAND,",
  "TWENTY THOUSAND,THIRTY THOUSAND,FORTY THOUSAND,FIFTY THOUSAND,SIXTY THOUSAND,SEVENTY THOUSAND,",
  "EIGHTY THOUSAND,NINETY THOUSAND,LAKH,LAKHAN;1ECA0,INDIC SIYAQ ,LAKH MARK,NUMBER KAROR,",
  "NUMBER KARORAN;1ECA3,INDIC SIYAQ NUMBER PREFIXED ,ONE,TWO,THREE,FOUR,FIVE,SIX,SEVEN,EIGHT,NINE;",
  "1ECAC,INDIC SIYAQ ,PLACEHOLDER,FRACTION ONE QUARTER,FRACTION ONE HALF,FRACTION THREE QUARTERS,",
  "RUPEE MARK,NUMBER ALTERNATE ONE,NUMBER ALTERNATE TWO,NUMBER ALTERNATE TEN THOUSAND,",
  "ALTERNATE LAKH MARK;1ED01,OTTOMAN SIYAQ NUMBER ,ONE,TWO,THREE,FOUR,FIVE,SIX,SEVEN,EIGHT,NINE,",
  "TEN,TWENTY,THIRTY,FORTY,FIFTY,SIXTY,SEVENTY,EIGHTY,NINETY,ONE HUNDRED,TWO HUNDRED,",
  "THREE HUNDRED,FOUR HUNDRED,FIVE HUNDRED,SIX HUNDRED,SEVEN HUNDRED,EIGHT HUNDRED,NINE HUNDRED,",
  "ONE THOUSAND,TWO THOUSAND,THREE THOUSAND,FOUR THOUSAND,FIVE THOUSAND,SIX THOUSAND,",
  "SEVEN THOUSAND,EIGHT THOUSAND,NINE THOUSAND,TEN THOUSAND,TWENTY THOUSAND,THIRTY THOUSAND,",
  "FORTY THOUSAND,FIFTY THOUSAND,SIXTY THOUSAND,SEVENTY THOUSAND,EIGHTY THOUSAND,NINETY THOUSAND;",
  "1ED2E,,OTTOMAN SIYAQ MARRATAN;1ED2F,OTTOMAN SIYAQ ALTERNATE NUMBER ,TWO,THREE,FOUR,FIVE,SIX,",
  "SEVEN,EIGHT,NINE,TEN,FOUR HUNDRED,SIX HUNDRED,TWO THOUSAND,TEN THOUSAND;",
  "1ED3C,OTTOMAN SIYAQ FRACTION ONE ,HALF,SIXTH;1EE00,ARABIC n,ALEF,BEH,JEEM,DAL;",
  "1EE05,ARABIC n,WAW,ZAIN,HAH,TAH,YEH,KAF,LAM,MEEM,NOON,SEEN,AIN,FEH,SAD,QAF,REH,SHEEN,TEH,THEH,",
  "KHAH,THAL,DAD,ZAH,GHAIN;1EE1C,ARABIC nDOTLESS ,BEH,NOON,FEH,QAF;1EE21,ARABIC nINITIAL ,BEH,",
  "JEEM;1EE24,,ARABIC nINITIAL HEH;1EE27,,ARABIC nINITIAL HAH;1EE29,ARABIC nINITIAL ,YEH,KAF,LAM,",
  "MEEM,NOON,SEEN,AIN,FEH,SAD,QAF;1EE34,ARABIC nINITIAL ,SHEEN,TEH,THEH,KHAH;",
  "1EE39,,ARABIC nINITIAL DAD;1EE3B,,ARABIC nINITIAL GHAIN;1EE42,,ARABIC nTAILED JEEM;",
  "1EE47,,ARABIC nTAILED HAH;1EE49,,ARABIC nTAILED YEH;1EE4B,,ARABIC nTAILED LAM;",
  "1EE4D,ARABIC nTAILED ,NOON,SEEN,AIN;1EE51,ARABIC nTAILED ,SAD,QAF;1EE54,,ARABIC nTAILED SHEEN;",
  "1EE57,,ARABIC nTAILED KHAH;1EE59,,ARABIC nTAILED DAD;1EE5B,,ARABIC nTAILED GHAIN;",
  "1EE5D,,ARABIC nTAILED DOTLESS NOON;1EE5F,,ARABIC nTAILED DOTLESS QAF;",
  "1EE61,ARABIC nSTRETCHED ,BEH,JEEM;1EE64,,ARABIC nSTRETCHED HEH;1EE67,ARABIC nSTRETCHED ,HAH,",
  "TAH,YEH,KAF;1EE6C,ARABIC nSTRETCHED ,MEEM,NOON,SEEN,AIN,FEH,SAD,QAF;",
  "1EE74,ARABIC nSTRETCHED ,SHEEN,TEH,THEH,KHAH;1EE79,ARABIC nSTRETCHED ,DAD,ZAH,GHAIN,",
  "DOTLESS BEH;1EE7E,,ARABIC nSTRETCHED DOTLESS FEH;1EE80,ARABIC nLOOPED ,ALEF,BEH,JEEM,DAL,HEH,",
  "WAW,ZAIN,HAH,TAH,YEH;1EE8B,ARABIC nLOOPED ,LAM,MEEM,NOON,SEEN,AIN,FEH,SAD,QAF,REH,SHEEN,TEH,",
  "THEH,KHAH,THAL,DAD,ZAH,GHAIN;1EEA1,ARABIC nDOUBLE-STRUCK ,BEH,JEEM,DAL;",
  "1EEA5,ARABIC nDOUBLE-STRUCK ,WAW,ZAIN,HAH,TAH,YEH;1EEAB,ARABIC nDOUBLE-STRUCK ,LAM,MEEM,NOON,",
  "SEEN,AIN,FEH,SAD,QAF,REH,SHEEN,TEH,THEH,KHAH,THAL,DAD,ZAH,GHAIN;",
  "1EEF0,ARABIC nOPERATOR ,MEEM zHAH zTATWEEL,HAH zDAL"]

end CharacterName

end SearchBridge
