/-!
The names of characters from U+AC00 to U+FFFF: old Hangul letters, and forms of letters for
presentation.
-/

namespace SearchBridge

namespace CharacterName

/-- Old Hangul letters, Arabic forms, and characters of full and half width. -/
def presentationForms : List String := [
  "D7B0,HANGUL JUNGSEONG ,O-YEO,O-O-I,YO-A,YO-AE,YO-EO,U-YEO,U-I-I,YU-AE,YU-O,EU-A,EU-EO,EU-E,",
  "EU-O,I-YA-O,I-YAE,I-YEO,I-YE,I-O-I,I-YO,I-YU,I-I,ARAEA-A,ARAEA-E;",
  "D7CB,HANGUL JONGSEONG ,NIEUN-RIEUL,NIEUN-CHIEUCH,SSANGTIKEUT,SSANGTIKEUT-PIEUP,TIKEUT-PIEUP,",
  "TIKEUT-SIOS,TIKEUT-SIOS-KIYEOK,TIKEUT-CIEUC,TIKEUT-CHIEUCH,TIKEUT-THIEUTH,RIEUL-SSANGKIYEOK,",
  "RIEUL-KIYEOK-HIEUH,SSANGRIEUL-KHIEUKH,RIEUL-MIEUM-HIEUH,RIEUL-PIEUP-TIKEUT,RIEUL-PIEUP-PHIEUPH,",
  "RIEUL-YESIEUNG,RIEUL-YEORINHIEUH-HIEUH,KAPYEOUNRIEUL,MIEUM-NIEUN,MIEUM-SSANGNIEUN,SSANGMIEUM,",
  "MIEUM-PIEUP-SIOS,MIEUM-CIEUC,PIEUP-TIKEUT,PIEUP-RIEUL-PHIEUPH,PIEUP-MIEUM,SSANGPIEUP,",
  "PIEUP-SIOS-TIKEUT,PIEUP-CIEUC,PIEUP-CHIEUCH,SIOS-MIEUM,SIOS-KAPYEOUNPIEUP,SSANGSIOS-KIYEOK,",
  "SSANGSIOS-TIKEUT,SIOS-PANSIOS,SIOS-CIEUC,SIOS-CHIEUCH,SIOS-THIEUTH,SIOS-HIEUH,PANSIOS-PIEUP,",
  "PANSIOS-KAPYEOUNPIEUP,YESIEUNG-MIEUM,YESIEUNG-HIEUH,CIEUC-PIEUP,CIEUC-SSANGPIEUP,SSANGCIEUC,",
  "PHIEUPH-SIOS,PHIEUPH-THIEUTH;FB00,LATIN tLIGATURE ,FF,FI,FL,FFI,FFL,LONG S T,ST;",
  "FB13,ARMENIAN tLIGATURE ,MEN NOW,MEN ECH,MEN INI,VEW NOW,MEN XEH;FB1D,HEBREW ,mYOD zHIRIQ,",
  "POINT JUDEO-SPANISH VARIKA,LIGATURE YIDDISH YOD YOD PATAH,mALTERNATIVE AYIN;",
  "FB21,HEBREW mWIDE ,ALEF,DALET,HE,KAF,LAMED,FINAL MEM,RESH,TAV;",
  "FB29,HEBREW m,ALTERNATIVE PLUS SIGN,SHIN zSHIN DOT,SHIN zSIN DOT,SHIN zDAGESH bSHIN DOT,",
  "SHIN zDAGESH bSIN DOT,ALEF zPATAH,ALEF zQAMATS,ALEF zMAPIQ,BET zDAGESH,GIMEL zDAGESH,",
  "DALET zDAGESH,HE zMAPIQ,VAV zDAGESH,ZAYIN zDAGESH;FB38,HEBREW m,TET zDAGESH,YOD zDAGESH,",
  "FINAL KAF zDAGESH,KAF zDAGESH,LAMED zDAGESH;FB3E,,HEBREW mMEM zDAGESH;",
  "FB40,HEBREW m,NUN zDAGESH,SAMEKH zDAGESH;FB43,HEBREW m,FINAL PE zDAGESH,PE zDAGESH;",
  "FB46,HEBREW ,mTSADI zDAGESH,mQOF zDAGESH,mRESH zDAGESH,mSHIN zDAGESH,mTAV zDAGESH,mVAV zHOLAM,",
  "mBET zRAFE,mKAF zRAFE,mPE zRAFE,LIGATURE ALEF LAMED;FB50,ARABIC mALEF WASLA ,j,h;",
  "FB52,ARABIC mBEEH ,j,h,i,MEDIAL FORM;FB56,ARABIC mPEH ,j,h,i,MEDIAL FORM;FB5A,ARABIC mBEHEH ,j,",
  "h,i,MEDIAL FORM;FB5E,ARABIC mTTEHEH ,j,h,i,MEDIAL FORM;FB62,ARABIC mTEHEH ,j,h,i,MEDIAL FORM;",
  "FB66,ARABIC mTTEH ,j,h,i,MEDIAL FORM;FB6A,ARABIC mVEH ,j,h,i,MEDIAL FORM;FB6E,ARABIC mPEHEH ,j,",
  "h,i,MEDIAL FORM;FB72,ARABIC mDYEH ,j,h,i,MEDIAL FORM;FB76,ARABIC mNYEH ,j,h,i,MEDIAL FORM;",
  "FB7A,ARABIC mTCHEH ,j,h,i,MEDIAL FORM;FB7E,ARABIC mTCHEHEH ,j,h,i,MEDIAL FORM;",
  "FB82,ARABIC m,DDAHAL j,DDAHAL h,DAHAL j,DAHAL h,DUL j,DUL h,DDAL j,DDAL h,JEH j,JEH h,RREH j,",
  "RREH h,KEHEH j,KEHEH h,KEHEH i,KEHEH MEDIAL FORM,GAF j,GAF h,GAF i,GAF MEDIAL FORM,GUEH j,",
  "GUEH h,GUEH i,GUEH MEDIAL FORM,NGOEH j,NGOEH h,NGOEH i,NGOEH MEDIAL FORM,NOON GHUNNA j,",
  "NOON GHUNNA h,RNOON j,RNOON h,RNOON i,RNOON MEDIAL FORM,HEH zYEH a j,HEH zYEH a h;",
  "FBA6,ARABIC mHEH GOAL ,j,h,i,MEDIAL FORM;FBAA,ARABIC mHEH DOACHASHMEE ,j,h,i,MEDIAL FORM;",
  "FBAE,ARABIC mYEH BARREE ,j,h,zHAMZA a j,zHAMZA a h;FBB2,ARABIC SYMBOL ,DOT a,DOT d,TWO DOTS a,",
  "TWO DOTS d,THREE DOTS a,THREE DOTS d,THREE DOTS pDOWNWARDS a,THREE DOTS pDOWNWARDS d,",
  "FOUR DOTS a,FOUR DOTS d,gwBAR d,TWO DOTS VERTICALLY a,TWO DOTS VERTICALLY d,RING,tTAH a,tTAH d,",
  "WASLA a;FBD3,ARABIC m,NG j,NG h,NG i,NG MEDIAL FORM,U j,U h,OE j,OE h,YU j,YU h,U zHAMZA a j,",
  "VE j,VE h,KIRGHIZ OE j,KIRGHIZ OE h,KIRGHIZ YU j,KIRGHIZ YU h,E j,E h,E i,E MEDIAL FORM;",
  "FBE8,ARABIC mUIGHUR KAZAKH KIRGHIZ ALEF MAKSURA ,i,MEDIAL FORM;",
  "FBEA,ARABIC LIGATURE YEH zHAMZA a z,ALEF j,ALEF h,AE j,AE h,WAW j,WAW h,U j,U h,OE j,OE h,YU j,",
  "YU h,E j,E h,E i;FBF9,ARABIC LIGATURE UIGHUR KIRGHIZ YEH zHAMZA a zALEF MAKSURA ,j,h,i;",
  "FBFC,ARABIC mFARSI YEH ,j,h,i,MEDIAL FORM;FC00,ARABIC LIGATURE YEH zHAMZA a z,JEEM j,HAH j,",
  "MEEM j,ALEF MAKSURA j,YEH j;FC05,ARABIC LIGATURE BEH z,JEEM j,HAH j,KHAH j,MEEM j,",
  "ALEF MAKSURA j,YEH j;FC0B,ARABIC LIGATURE TEH z,JEEM j,HAH j,KHAH j,MEEM j,ALEF MAKSURA j,",
  "YEH j;FC11,ARABIC LIGATURE ,THEH zJEEM j,THEH zMEEM j,THEH zALEF MAKSURA j,THEH zYEH j,",
  "JEEM zHAH j,JEEM zMEEM j,HAH zJEEM j,HAH zMEEM j,KHAH zJEEM j,KHAH zHAH j,KHAH zMEEM j,",
  "SEEN zJEEM j,SEEN zHAH j,SEEN zKHAH j,SEEN zMEEM j,SAD zHAH j,SAD zMEEM j,DAD zJEEM j,",
  "DAD zHAH j,DAD zKHAH j,DAD zMEEM j,TAH zHAH j,TAH zMEEM j,ZAH zMEEM j,AIN zJEEM j,AIN zMEEM j,",
  "GHAIN zJEEM j,GHAIN zMEEM j,FEH zJEEM j,FEH zHAH j,FEH zKHAH j,FEH zMEEM j,FEH zALEF MAKSURA j,",
  "FEH zYEH j,QAF zHAH j,QAF zMEEM j,QAF zALEF MAKSURA j,QAF zYEH j,KAF zALEF j,KAF zJEEM j,",
  "KAF zHAH j,KAF zKHAH j,KAF zLAM j,KAF zMEEM j,KAF zALEF MAKSURA j,KAF zYEH j,LAM zJEEM j,",
  "LAM zHAH j,LAM zKHAH j,LAM zMEEM j,LAM zALEF MAKSURA j,LAM zYEH j,MEEM zJEEM j,MEEM zHAH j,",
  "MEEM zKHAH j,MEEM zMEEM j,MEEM zALEF MAKSURA j,MEEM zYEH j,NOON zJEEM j,NOON zHAH j,",
  "NOON zKHAH j,NOON zMEEM j,NOON zALEF MAKSURA j,NOON zYEH j,HEH zJEEM j,HEH zMEEM j,",
  "HEH zALEF MAKSURA j,HEH zYEH j,YEH zJEEM j,YEH zHAH j,YEH zKHAH j,YEH zMEEM j,",
  "YEH zALEF MAKSURA j,YEH zYEH j,THAL zSUPERSCRIPT ALEF j,REH zSUPERSCRIPT ALEF j,",
  "ALEF MAKSURA zSUPERSCRIPT ALEF j;FC5E,ARABIC LIGATURE SHADDA z,DAMMATAN j,KASRATAN j,FATHA j,",
  "DAMMA j,KASRA j,SUPERSCRIPT ALEF j;FC64,ARABIC LIGATURE YEH zHAMZA a z,REH h,ZAIN h,MEEM h,",
  "NOON h,ALEF MAKSURA h,YEH h;FC6A,ARABIC LIGATURE BEH z,REH h,ZAIN h,MEEM h,NOON h,",
  "ALEF MAKSURA h,YEH h;FC70,ARABIC LIGATURE TEH z,REH h,ZAIN h,MEEM h,NOON h,ALEF MAKSURA h,",
  "YEH h;FC76,ARABIC LIGATURE THEH z,REH h,ZAIN h,MEEM h,NOON h,ALEF MAKSURA h,YEH h;",
  "FC7C,ARABIC LIGATURE ,FEH zALEF MAKSURA h,FEH zYEH h,QAF zALEF MAKSURA h,QAF zYEH h,",
  "KAF zALEF h,KAF zLAM h,KAF zMEEM h,KAF zALEF MAKSURA h,KAF zYEH h,LAM zMEEM h,",
  "LAM zALEF MAKSURA h,LAM zYEH h,MEEM zALEF h,MEEM zMEEM h,NOON zREH h,NOON zZAIN h,NOON zMEEM h,",
  "NOON zNOON h,NOON zALEF MAKSURA h,NOON zYEH h,ALEF MAKSURA zSUPERSCRIPT ALEF h;",
  "FC91,ARABIC LIGATURE YEH z,REH h,ZAIN h,MEEM h,NOON h,ALEF MAKSURA h,YEH h;",
  "FC97,ARABIC LIGATURE YEH zHAMZA a z,JEEM i,HAH i,KHAH i,MEEM i,HEH i;",
  "FC9C,ARABIC LIGATURE ,BEH zJEEM i,BEH zHAH i,BEH zKHAH i,BEH zMEEM i,BEH zHEH i,TEH zJEEM i,",
  "TEH zHAH i,TEH zKHAH i,TEH zMEEM i,TEH zHEH i,THEH zMEEM i,JEEM zHAH i,JEEM zMEEM i,",
  "HAH zJEEM i,HAH zMEEM i,KHAH zJEEM i,KHAH zMEEM i,SEEN zJEEM i,SEEN zHAH i,SEEN zKHAH i,",
  "SEEN zMEEM i,SAD zHAH i,SAD zKHAH i,SAD zMEEM i,DAD zJEEM i,DAD zHAH i,DAD zKHAH i,DAD zMEEM i,",
  "TAH zHAH i,ZAH zMEEM i,AIN zJEEM i,AIN zMEEM i,GHAIN zJEEM i,GHAIN zMEEM i,FEH zJEEM i,",
  "FEH zHAH i,FEH zKHAH i,FEH zMEEM i,QAF zHAH i,QAF zMEEM i,KAF zJEEM i,KAF zHAH i,KAF zKHAH i,",
  "KAF zLAM i,KAF zMEEM i,LAM zJEEM i,LAM zHAH i,LAM zKHAH i,LAM zMEEM i,LAM zHEH i,MEEM zJEEM i,",
  "MEEM zHAH i,MEEM zKHAH i,MEEM zMEEM i,NOON zJEEM i,NOON zHAH i,NOON zKHAH i,NOON zMEEM i,",
  "NOON zHEH i,HEH zJEEM i,HEH zMEEM i,HEH zSUPERSCRIPT ALEF i,YEH zJEEM i,YEH zHAH i,YEH zKHAH i,",
  "YEH zMEEM i,YEH zHEH i,YEH zHAMZA a zMEEM MEDIAL FORM,YEH zHAMZA a zHEH MEDIAL FORM,",
  "BEH zMEEM MEDIAL FORM,BEH zHEH MEDIAL FORM,TEH zMEEM MEDIAL FORM,TEH zHEH MEDIAL FORM,",
  "THEH zMEEM MEDIAL FORM,THEH zHEH MEDIAL FORM,SEEN zMEEM MEDIAL FORM,SEEN zHEH MEDIAL FORM,",
  "SHEEN zMEEM MEDIAL FORM,SHEEN zHEH MEDIAL FORM,KAF zLAM MEDIAL FORM,KAF zMEEM MEDIAL FORM,",
  "LAM zMEEM MEDIAL FORM,NOON zMEEM MEDIAL FORM,NOON zHEH MEDIAL FORM,YEH zMEEM MEDIAL FORM,",
  "YEH zHEH MEDIAL FORM,SHADDA zFATHA MEDIAL FORM,SHADDA zDAMMA MEDIAL FORM,",
  "SHADDA zKASRA MEDIAL FORM,TAH zALEF MAKSURA j,TAH zYEH j,AIN zALEF MAKSURA j,AIN zYEH j,",
  "GHAIN zALEF MAKSURA j,GHAIN zYEH j,SEEN zALEF MAKSURA j,SEEN zYEH j,SHEEN zALEF MAKSURA j,",
  "SHEEN zYEH j,HAH zALEF MAKSURA j,HAH zYEH j,JEEM zALEF MAKSURA j,JEEM zYEH j,",
  "KHAH zALEF MAKSURA j,KHAH zYEH j,SAD zALEF MAKSURA j,SAD zYEH j,DAD zALEF MAKSURA j,DAD zYEH j,",
  "SHEEN zJEEM j,SHEEN zHAH j,SHEEN zKHAH j,SHEEN zMEEM j,SHEEN zREH j,SEEN zREH j,SAD zREH j,",
  "DAD zREH j,TAH zALEF MAKSURA h,TAH zYEH h,AIN zALEF MAKSURA h,AIN zYEH h,GHAIN zALEF MAKSURA h,",
  "GHAIN zYEH h,SEEN zALEF MAKSURA h,SEEN zYEH h,SHEEN zALEF MAKSURA h,SHEEN zYEH h,",
  "HAH zALEF MAKSURA h,HAH zYEH h,JEEM zALEF MAKSURA h,JEEM zYEH h,KHAH zALEF MAKSURA h,",
  "KHAH zYEH h,SAD zALEF MAKSURA h,SAD zYEH h,DAD zALEF MAKSURA h,DAD zYEH h,SHEEN zJEEM h,",
  "SHEEN zHAH h,SHEEN zKHAH h,SHEEN zMEEM h,SHEEN zREH h,SEEN zREH h,SAD zREH h,DAD zREH h,",
  "SHEEN zJEEM i,SHEEN zHAH i,SHEEN zKHAH i,SHEEN zMEEM i,SEEN zHEH i,SHEEN zHEH i,TAH zMEEM i,",
  "SEEN zJEEM MEDIAL FORM,SEEN zHAH MEDIAL FORM,SEEN zKHAH MEDIAL FORM,SHEEN zJEEM MEDIAL FORM,",
  "SHEEN zHAH MEDIAL FORM,SHEEN zKHAH MEDIAL FORM,TAH zMEEM MEDIAL FORM,ZAH zMEEM MEDIAL FORM,",
  "ALEF zFATHATAN h,ALEF zFATHATAN j;FD3E,,ORNATE kPARENTHESIS,ORNATE qPARENTHESIS,",
  "ARABIC LIGATURE RAHIMAHU ALLAAH;FD41,ARABIC LIGATURE RADI ALLAAHU ,ANH,ANHAA,ANHUM,ANHUMAA,",
  "ANHUNNA;FD46,ARABIC LIGATURE ,SALLALLAAHU ALAYHI WA-AALIH,ALAYHI AS-SALAAM,ALAYHIM AS-SALAAM,",
  "ALAYHIMAA AS-SALAAM,ALAYHI AS-SALAATU WAS-SALAAM,QUDDISA SIRRAH,",
  "SALLALLAHU ALAYHI WAAALIHEE WA-SALLAM,ALAYHAA AS-SALAAM,TABAARAKA WA-TAAALAA,RAHIMAHUM ALLAAH,",
  "TEH zJEEM zMEEM i,TEH zHAH zJEEM h,TEH zHAH zJEEM i,TEH zHAH zMEEM i,TEH zKHAH zMEEM i,",
  "TEH zMEEM zJEEM i,TEH zMEEM zHAH i,TEH zMEEM zKHAH i,JEEM zMEEM zHAH h,JEEM zMEEM zHAH i,",
  "HAH zMEEM zYEH h,HAH zMEEM zALEF MAKSURA h,SEEN zHAH zJEEM i,SEEN zJEEM zHAH i,",
  "SEEN zJEEM zALEF MAKSURA h;FD5F,ARABIC LIGATURE SEEN zMEEM z,HAH h,HAH i,JEEM i,MEEM h,MEEM i;",
  "FD64,ARABIC LIGATURE SAD z,HAH zHAH h,HAH zHAH i,MEEM zMEEM h;",
  "FD67,ARABIC LIGATURE SHEEN z,HAH zMEEM h,HAH zMEEM i,JEEM zYEH h,MEEM zKHAH h,MEEM zKHAH i,",
  "MEEM zMEEM h,MEEM zMEEM i;FD6E,ARABIC LIGATURE ,DAD zHAH zALEF MAKSURA h,DAD zKHAH zMEEM h,",
  "DAD zKHAH zMEEM i,TAH zMEEM zHAH h,TAH zMEEM zHAH i,TAH zMEEM zMEEM i,TAH zMEEM zYEH h,",
  "AIN zJEEM zMEEM h,AIN zMEEM zMEEM h,AIN zMEEM zMEEM i,AIN zMEEM zALEF MAKSURA h,",
  "GHAIN zMEEM zMEEM h,GHAIN zMEEM zYEH h,GHAIN zMEEM zALEF MAKSURA h,FEH zKHAH zMEEM h,",
  "FEH zKHAH zMEEM i,QAF zMEEM zHAH h,QAF zMEEM zMEEM h;FD80,ARABIC LIGATURE LAM z,HAH zMEEM h,",
  "HAH zYEH h,HAH zALEF MAKSURA h,JEEM zJEEM i,JEEM zJEEM h,KHAH zMEEM h,KHAH zMEEM i,MEEM zHAH h,",
  "MEEM zHAH i;FD89,ARABIC LIGATURE MEEM z,HAH zJEEM i,HAH zMEEM i,HAH zYEH h,JEEM zHAH i,",
  "JEEM zMEEM i,KHAH zJEEM i,KHAH zMEEM i;FD92,ARABIC LIGATURE ,MEEM zJEEM zKHAH i,",
  "HEH zMEEM zJEEM i,HEH zMEEM zMEEM i,NOON zHAH zMEEM i,NOON zHAH zALEF MAKSURA h,",
  "NOON zJEEM zMEEM h,NOON zJEEM zMEEM i,NOON zJEEM zALEF MAKSURA h,NOON zMEEM zYEH h,",
  "NOON zMEEM zALEF MAKSURA h,YEH zMEEM zMEEM h,YEH zMEEM zMEEM i,BEH zKHAH zYEH h,",
  "TEH zJEEM zYEH h,TEH zJEEM zALEF MAKSURA h,TEH zKHAH zYEH h,TEH zKHAH zALEF MAKSURA h,",
  "TEH zMEEM zYEH h,TEH zMEEM zALEF MAKSURA h,JEEM zMEEM zYEH h,JEEM zHAH zALEF MAKSURA h,",
  "JEEM zMEEM zALEF MAKSURA h,SEEN zKHAH zALEF MAKSURA h,SAD zHAH zYEH h,SHEEN zHAH zYEH h,",
  "DAD zHAH zYEH h,LAM zJEEM zYEH h,LAM zMEEM zYEH h,YEH zHAH zYEH h,YEH zJEEM zYEH h,",
  "YEH zMEEM zYEH h,MEEM zMEEM zYEH h,QAF zMEEM zYEH h,NOON zHAH zYEH h,QAF zMEEM zHAH i,",
  "LAM zHAH zMEEM i,AIN zMEEM zYEH h,KAF zMEEM zYEH h,NOON zJEEM zHAH i,MEEM zKHAH zYEH h,",
  "LAM zJEEM zMEEM i,KAF zMEEM zMEEM h,LAM zJEEM zMEEM h,NOON zJEEM zHAH h,JEEM zHAH zYEH h,",
  "HAH zJEEM zYEH h,MEEM zJEEM zYEH h,FEH zMEEM zYEH h,BEH zHAH zYEH h,KAF zMEEM zMEEM i,",
  "AIN zJEEM zMEEM i,SAD zMEEM zMEEM i,SEEN zKHAH zYEH h,NOON zJEEM zYEH h;",
  "FDCF,,ARABIC LIGATURE SALAAMUHU ALAYNAA;FDF0,ARABIC LIGATURE ,SALLA USED AS KORANIC STOP sj,",
  "QALA USED AS KORANIC STOP sj,ALLAH j,AKBAR j,MOHAMMAD j,SALAM j,RASOUL j,ALAYHE j,WASALLAM j,",
  "SALLA j,SALLALLAHOU ALAYHE WASALLAM,JALLAJALALOUHOU;FDFC,,RIAL SIGN;",
  "FDFD,ARABIC LIGATURE ,BISMILLAH AR-RAHMAN AR-RAHEEM,SUBHAANAHU WA TAAALAA,AZZA WA JALL;",
  "FE00,VARIATION SELECTOR-,1,2,3,4,5,6,7,8,9,10,11,12,13,14,15,16;",
  "FE10,PRESENTATION FORM FOR w,COMMA,IDEOGRAPHIC COMMA,IDEOGRAPHIC FULL STOP,COLON,SEMICOLON,",
  "EXCLAMATION MARK,QUESTION MARK,kyLENTICULAR BRACKET,qyLENTICULAR BRAKCET,HORIZONTAL ELLIPSIS;",
  "FE20,COMBINING ,LIGATURE kHALF,LIGATURE qHALF,gTILDE kHALF,gTILDE qHALF,MACRON kHALF,",
  "MACRON qHALF,CONJOINING MACRON,LIGATURE kHALF d,LIGATURE qHALF d,TILDE kHALF d,TILDE qHALF d,",
  "MACRON kHALF d,MACRON qHALF d,CONJOINING MACRON d,CYRILLIC TITLO kHALF,CYRILLIC TITLO qHALF;",
  "FE30,PRESENTATION FORM FOR w,TWO DOT LEADER,EM DASH,EN DASH,LOW LINE,WAVY LOW LINE,",
  "kPARENTHESIS,qPARENTHESIS,kCURLY BRACKET,qCURLY BRACKET,kTORTOISE SHELL BRACKET,",
  "qTORTOISE SHELL BRACKET,keLENTICULAR BRACKET,qeLENTICULAR BRACKET,kgANGLE BRACKET,",
  "qgANGLE BRACKET,kANGLE BRACKET,qANGLE BRACKET,kCORNER BRACKET,qCORNER BRACKET,kyCORNER BRACKET,",
  "qyCORNER BRACKET;FE45,,SESAME DOT,ySESAME DOT;FE47,PRESENTATION FORM FOR w,kSQUARE BRACKET,",
  "qSQUARE BRACKET;FE49,,DASHED OVERLINE,CENTRELINE OVERLINE,WAVY OVERLINE,gWAVY OVERLINE,",
  "DASHED LOW LINE,CENTRELINE LOW LINE,WAVY LOW LINE,tCOMMA,tIDEOGRAPHIC COMMA,tFULL STOP;",
  "FE54,t,SEMICOLON,COLON,QUESTION MARK,EXCLAMATION MARK,EM DASH,kPARENTHESIS,qPARENTHESIS,",
  "kCURLY BRACKET,qCURLY BRACKET,kTORTOISE SHELL BRACKET,qTORTOISE SHELL BRACKET,NUMBER SIGN,",
  "AMPERSAND,ASTERISK,PLUS SIGN,HYPHEN-MINUS,LESS-THAN SIGN,GREATER-THAN SIGN,EQUALS SIGN;",
  "FE68,t,REVERSE SOLIDUS,DOLLAR SIGN,PERCENT SIGN,COMMERCIAL AT;FE70,ARABIC ,FATHATAN j,",
  "TATWEEL zFATHATAN a,DAMMATAN j,TAIL FRAGMENT,KASRATAN j;FE76,ARABIC ,FATHA j,FATHA MEDIAL FORM,",
  "DAMMA j,DAMMA MEDIAL FORM,KASRA j,KASRA MEDIAL FORM,SHADDA j,SHADDA MEDIAL FORM,SUKUN j,",
  "SUKUN MEDIAL FORM,mHAMZA j;FE81,ARABIC mALEF z,MADDA a j,MADDA a h,HAMZA a j,HAMZA a h;",
  "FE85,ARABIC mWAW zHAMZA a ,j,h;FE87,ARABIC mALEF zHAMZA d ,j,h;FE89,ARABIC mYEH zHAMZA a ,j,h,",
  "i,MEDIAL FORM;FE8D,ARABIC m,ALEF j,ALEF h,BEH j,BEH h,BEH i,BEH MEDIAL FORM,TEH MARBUTA j,",
  "TEH MARBUTA h,TEH j,TEH h,TEH i,TEH MEDIAL FORM,THEH j,THEH h,THEH i,THEH MEDIAL FORM,JEEM j,",
  "JEEM h,JEEM i,JEEM MEDIAL FORM,HAH j,HAH h,HAH i,HAH MEDIAL FORM,KHAH j,KHAH h,KHAH i,",
  "KHAH MEDIAL FORM,DAL j,DAL h,THAL j,THAL h,REH j,REH h,ZAIN j,ZAIN h,SEEN j,SEEN h,SEEN i,",
  "SEEN MEDIAL FORM,SHEEN j,SHEEN h,SHEEN i,SHEEN MEDIAL FORM,SAD j,SAD h,SAD i,SAD MEDIAL FORM,",
  "DAD j,DAD h,DAD i,DAD MEDIAL FORM,TAH j,TAH h,TAH i,TAH MEDIAL FORM,ZAH j,ZAH h,ZAH i,",
  "ZAH MEDIAL FORM,AIN j,AIN h,AIN i,AIN MEDIAL FORM,GHAIN j,GHAIN h,GHAIN i,GHAIN MEDIAL FORM,",
  "FEH j,FEH h,FEH i,FEH MEDIAL FORM,QAF j,QAF h,QAF i,QAF MEDIAL FORM,KAF j,KAF h,KAF i,",
  "KAF MEDIAL FORM,LAM j,LAM h,LAM i,LAM MEDIAL FORM,MEEM j,MEEM h,MEEM i,MEEM MEDIAL FORM,NOON j,",
  "NOON h,NOON i,NOON MEDIAL FORM,HEH j,HEH h,HEH i,HEH MEDIAL FORM,WAW j,WAW h,ALEF MAKSURA j,",
  "ALEF MAKSURA h,YEH j,YEH h,YEH i,YEH MEDIAL FORM;FEF5,ARABIC LIGATURE LAM zALEF ,zMADDA a j,",
  "zMADDA a h,zHAMZA a j,zHAMZA a h,zHAMZA d j,zHAMZA d h,j,h;FEFF,,ZERO WIDTH NO-BREAK SPACE;",
  "FF01,FULLWIDTH ,EXCLAMATION MARK,QUOTATION MARK,NUMBER SIGN,DOLLAR SIGN,PERCENT SIGN,AMPERSAND,",
  "APOSTROPHE,kPARENTHESIS,qPARENTHESIS,ASTERISK,PLUS SIGN,COMMA,HYPHEN-MINUS,FULL STOP,SOLIDUS;",
  "FF10,FULLWIDTH DIGIT ,ZERO,ONE,TWO,THREE,FOUR,FIVE,SIX,SEVEN,EIGHT,NINE;FF1A,FULLWIDTH ,COLON,",
  "SEMICOLON,LESS-THAN SIGN,EQUALS SIGN,GREATER-THAN SIGN,QUESTION MARK,COMMERCIAL AT;",
  "FF21,FULLWIDTH LATIN fm,A,B,C,D,E,F,G,H,I,J,K,L,M,N,O,P,Q,R,S,T,U,V,W,X,Y,Z;",
  "FF3B,FULLWIDTH ,kSQUARE BRACKET,REVERSE SOLIDUS,qSQUARE BRACKET,CIRCUMFLEX ACCENT,LOW LINE,",
  "GRAVE ACCENT;FF41,FULLWIDTH LATIN tm,A,B,C,D,E,F,G,H,I,J,K,L,M,N,O,P,Q,R,S,T,U,V,W,X,Y,Z;",
  "FF5B,FULLWIDTH ,kCURLY BRACKET,wLINE,qCURLY BRACKET,TILDE,kyPARENTHESIS,qyPARENTHESIS;",
  "FF61,HALFWIDTH ,IDEOGRAPHIC FULL STOP,kCORNER BRACKET,qCORNER BRACKET,IDEOGRAPHIC COMMA;",
  "FF65,HALFWIDTH KATAKANA ,oDOT,mWO,mtA,mtI,mtU,mtE,mtO,mtYA,mtYU,mtYO,mtTU;",
  "FF70,,HALFWIDTH KATAKANA-HIRAGANA PROLONGED SOUND MARK;FF71,HALFWIDTH KATAKANA m,A,I,U,E,O,KA,",
  "KI,KU,KE,KO,SA,SI,SU,SE,SO,TA,TI,TU,TE,TO,NA,NI,NU,NE,NO,HA,HI,HU,HE,HO,MA,MI,MU,ME,MO,YA,YU,",
  "YO,RA,RI,RU,RE,RO,WA,N;FF9E,HALFWIDTH ,KATAKANA VOICED SOUND MARK,",
  "KATAKANA SEMI-VOICED SOUND MARK,HANGUL FILLER;FFA1,HALFWIDTH HANGUL m,KIYEOK,SSANGKIYEOK,",
  "KIYEOK-SIOS,NIEUN,NIEUN-CIEUC,NIEUN-HIEUH,TIKEUT,SSANGTIKEUT,RIEUL,RIEUL-KIYEOK,RIEUL-MIEUM,",
  "RIEUL-PIEUP,RIEUL-SIOS,RIEUL-THIEUTH,RIEUL-PHIEUPH,RIEUL-HIEUH,MIEUM,PIEUP,SSANGPIEUP,",
  "PIEUP-SIOS,SIOS,SSANGSIOS,IEUNG,CIEUC,SSANGCIEUC,CHIEUCH,KHIEUKH,THIEUTH,PHIEUPH,HIEUH;",
  "FFC2,HALFWIDTH HANGUL m,A,AE,YA,YAE,EO,E;FFCA,HALFWIDTH HANGUL m,YEO,YE,O,WA,WAE,OE;",
  "FFD2,HALFWIDTH HANGUL m,YO,U,WEO,WE,WI,YU;FFDA,HALFWIDTH HANGUL m,EU,YI,I;",
  "FFE0,FULLWIDTH ,CENT SIGN,POUND SIGN,NOT SIGN,MACRON,BROKEN BAR,YEN SIGN,WON SIGN;",
  "FFE8,HALFWIDTH ,FORMS LIGHT VERTICAL,lc,UPWARDS c,rc,DOWNWARDS c,eSQUARE,yCIRCLE;",
  "FFF9,INTERLINEAR ANNOTATION ,ANCHOR,SEPARATOR,TERMINATOR;FFFC,,OBJECT REPLACEMENT CHARACTER,",
  "REPLACEMENT CHARACTER"]

end CharacterName

end SearchBridge
