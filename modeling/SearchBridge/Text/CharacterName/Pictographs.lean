/-!
The names of characters from U+1F000 on: tiles, cards, pictographs, pieces and variation selectors.
-/

namespace SearchBridge

namespace CharacterName

/-- Tiles, cards, pictographs, arrows, and the characters that select a variant. -/
def pictographs : List String := [
  "1F000,MAHJONG TILE ,EAST WIND,SOUTH WIND,WEST WIND,NORTH WIND,RED DRAGON,GREEN DRAGON,yDRAGON,",
  "ONE OF CHARACTERS,TWO OF CHARACTERS,THREE OF CHARACTERS,FOUR OF CHARACTERS,FIVE OF CHARACTERS,",
  "SIX OF CHARACTERS,SEVEN OF CHARACTERS,EIGHT OF CHARACTERS,NINE OF CHARACTERS,ONE OF BAMBOOS,",
  "TWO OF BAMBOOS,THREE OF BAMBOOS,FOUR OF BAMBOOS,FIVE OF BAMBOOS,SIX OF BAMBOOS,",
  "SEVEN OF BAMBOOS,EIGHT OF BAMBOOS,NINE OF BAMBOOS,ONE OF CIRCLES,TWO OF CIRCLES,",
  "THREE OF CIRCLES,FOUR OF CIRCLES,FIVE OF CIRCLES,SIX OF CIRCLES,SEVEN OF CIRCLES,",
  "EIGHT OF CIRCLES,NINE OF CIRCLES,PLUM,ORCHID,BAMBOO,CHRYSANTHEMUM,SPRING,SUMMER,AUTUMN,WINTER,",
  "JOKER,BACK;1F030,,DOMINO TILE HORIZONTAL BACK;1F031,DOMINO TILE HORIZONTAL-,00-00,00-01,00-02,",
  "00-03,00-04,00-05,00-06,01-00,01-01,01-02,01-03,01-04,01-05,01-06,02-00,02-01,02-02,02-03,",
  "02-04,02-05,02-06,03-00,03-01,03-02,03-03,03-04,03-05,03-06,04-00,04-01,04-02,04-03,04-04,",
  "04-05,04-06,05-00,05-01,05-02,05-03,05-04,05-05,05-06,06-00,06-01,06-02,06-03,06-04,06-05,",
  "06-06;1F062,,DOMINO TILE wBACK;1F063,DOMINO TILE VERTICAL-,00-00,00-01,00-02,00-03,00-04,00-05,",
  "00-06,01-00,01-01,01-02,01-03,01-04,01-05,01-06,02-00,02-01,02-02,02-03,02-04,02-05,02-06,",
  "03-00,03-01,03-02,03-03,03-04,03-05,03-06,04-00,04-01,04-02,04-03,04-04,04-05,04-06,05-00,",
  "05-01,05-02,05-03,05-04,05-05,05-06,06-00,06-01,06-02,06-03,06-04,06-05,06-06;",
  "1F0A0,PLAYING CARD ,BACK,ACE OF SPADES,TWO OF SPADES,THREE OF SPADES,FOUR OF SPADES,",
  "FIVE OF SPADES,SIX OF SPADES,SEVEN OF SPADES,EIGHT OF SPADES,NINE OF SPADES,TEN OF SPADES,",
  "JACK OF SPADES,KNIGHT OF SPADES,QUEEN OF SPADES,KING OF SPADES;",
  "1F0B1,PLAYING CARD ,ACE OF HEARTS,TWO OF HEARTS,THREE OF HEARTS,FOUR OF HEARTS,FIVE OF HEARTS,",
  "SIX OF HEARTS,SEVEN OF HEARTS,EIGHT OF HEARTS,NINE OF HEARTS,TEN OF HEARTS,JACK OF HEARTS,",
  "KNIGHT OF HEARTS,QUEEN OF HEARTS,KING OF HEARTS,RED JOKER;1F0C1,PLAYING CARD ,ACE OF DIAMONDS,",
  "TWO OF DIAMONDS,THREE OF DIAMONDS,FOUR OF DIAMONDS,FIVE OF DIAMONDS,SIX OF DIAMONDS,",
  "SEVEN OF DIAMONDS,EIGHT OF DIAMONDS,NINE OF DIAMONDS,TEN OF DIAMONDS,JACK OF DIAMONDS,",
  "KNIGHT OF DIAMONDS,QUEEN OF DIAMONDS,KING OF DIAMONDS,eJOKER;1F0D1,PLAYING CARD ,ACE OF CLUBS,",
  "TWO OF CLUBS,THREE OF CLUBS,FOUR OF CLUBS,FIVE OF CLUBS,SIX OF CLUBS,SEVEN OF CLUBS,",
  "EIGHT OF CLUBS,NINE OF CLUBS,TEN OF CLUBS,JACK OF CLUBS,KNIGHT OF CLUBS,QUEEN OF CLUBS,",
  "KING OF CLUBS,yJOKER,FOOL;1F0E1,PLAYING CARD TRUMP-,1,2,3,4,5,6,7,8,9,10,11,12,13,14,15,16,17,",
  "18,19,20,21;1F100,DIGIT ,ZERO FULL STOP,ZERO COMMA,ONE COMMA,TWO COMMA,THREE COMMA,FOUR COMMA,",
  "FIVE COMMA,SIX COMMA,SEVEN COMMA,EIGHT COMMA,NINE COMMA;",
  "1F10B,DINGBAT ,CIRCLED SANS-SERIF DIGIT ZERO,NEGATIVE CIRCLED SANS-SERIF DIGIT ZERO;",
  "1F10D,CIRCLED ,ZERO zSLASH,ANTICLOCKWISE c,DOLLAR szOVERLAID BACKSLASH;",
  "1F110,PARENTHESIZED LATIN fm,A,B,C,D,E,F,G,H,I,J,K,L,M,N,O,P,Q,R,S,T,U,V,W,X,Y,Z;",
  "1F12A,,TORTOISE SHELL BRACKETED LATIN fmS;1F12B,CIRCLED ,ITALIC LATIN fmC,ITALIC LATIN fmR,CD,",
  "WZ;1F12F,,COPYLEFT SYMBOL;1F130,SQUARED LATIN fm,A,B,C,D,E,F,G,H,I,J,K,L,M,N,O,P,Q,R,S,T,U,V,W,",
  "X,Y,Z;1F14A,SQUARED ,HV,MV,SD,SS,PPV,WC;1F150,NEGATIVE CIRCLED LATIN fm,A,B,C,D,E,F,G,H,I,J,K,",
  "L,M,N,O,P,Q,R,S,T,U,V,W,X,Y,Z;1F16A,RAISED ,MC SIGN,MD SIGN,MR SIGN;1F16D,CIRCLED ,CC,",
  "C zOVERLAID BACKSLASH,HUMAN FIGURE;1F170,NEGATIVE SQUARED LATIN fm,A,B,C,D,E,F,G,H,I,J,K,L,M,N,",
  "O,P,Q,R,S,T,U,V,W,X,Y,Z;1F18A,,CROSSED NEGATIVE SQUARED LATIN fmP;1F18B,NEGATIVE SQUARED ,IC,",
  "PA,SA,AB,WC;1F190,,SQUARE DJ;1F191,SQUARED ,CL,COOL,FREE,ID,NEW,NG,OK,SOS,UP zEXCLAMATION MARK,",
  "VS,THREE D,SECOND SCREEN,TWO K,FOUR K,EIGHT K,FIVE POINT ONE,SEVEN POINT ONE,",
  "TWENTY-TWO POINT TWO,SIXTY P,ONE HUNDRED TWENTY P,LATIN tmD,HC,HDR,HI-RES,LOSSLESS,SHV,UHD,VOD;",
  "1F1AD,,MASK WORK SYMBOL;1F1E6,REGIONAL INDICATOR SYMBOL m,A,B,C,D,E,F,G,H,I,J,K,L,M,N,O,P,Q,R,",
  "S,T,U,V,W,X,Y,Z;1F200,,SQUARE HIRAGANA HOKA;1F201,SQUARED KATAKANA ,KOKO,SA;",
  "1F210,SQUARED CJK UNIFIED IDEOGRAPH-,624B,5B57,53CC;1F213,,SQUARED KATAKANA DE;",
  "1F214,SQUARED CJK UNIFIED IDEOGRAPH-,4E8C,591A,89E3,5929,4EA4,6620,7121,6599,524D,5F8C,518D,",
  "65B0,521D,7D42,751F,8CA9,58F0,5439,6F14,6295,6355,4E00,4E09,904A,5DE6,4E2D,53F3,6307,8D70,6253,",
  "7981,7A7A,5408,6E80,6709,6708,7533,5272,55B6,914D;",
  "1F240,TORTOISE SHELL BRACKETED CJK UNIFIED IDEOGRAPH-,672C,4E09,4E8C,5B89,70B9,6253,76D7,52DD,",
  "6557;1F250,CIRCLED IDEOGRAPH ,ADVANTAGE,ACCEPT;1F260,ROUNDED SYMBOL FOR ,FU,LU,SHOU,XI,",
  "SHUANGXI,CAI;1F300,,CYCLONE,FOGGY,CLOSED UMBRELLA,NIGHT zSTARS,SUNRISE OVER MOUNTAINS,SUNRISE,",
  "CITYSCAPE AT DUSK,SUNSET OVER BUILDINGS,RAINBOW,BRIDGE AT NIGHT,WATER WAVE,VOLCANO,MILKY WAY;",
  "1F30D,EARTH GLOBE ,EUROPE-AFRICA,AMERICAS,ASIA-AUSTRALIA;1F310,,GLOBE zMERIDIANS,",
  "NEW MOON SYMBOL,WAXING CRESCENT MOON SYMBOL,FIRST QUARTER MOON SYMBOL,",
  "WAXING GIBBOUS MOON SYMBOL,FULL MOON SYMBOL,WANING GIBBOUS MOON SYMBOL,",
  "LAST QUARTER MOON SYMBOL,WANING CRESCENT MOON SYMBOL,CRESCENT MOON,NEW MOON zFACE,",
  "FIRST QUARTER MOON zFACE,LAST QUARTER MOON zFACE,FULL MOON zFACE,SUN zFACE,GLOWING STAR,",
  "SHOOTING STAR,THERMOMETER,eDROPLET,ySUN,ySUN ztCLOUD;1F325,ySUN BEHIND ,CLOUD,CLOUD zRAIN;",
  "1F327,CLOUD z,RAIN,SNOW,LIGHTNING,TORNADO;1F32B,,FOG,WIND BLOWING FACE,HOT DOG,TACO,BURRITO,",
  "CHESTNUT,SEEDLING,EVERGREEN TREE,DECIDUOUS TREE,PALM TREE,CACTUS,HOT PEPPER,TULIP,",
  "CHERRY BLOSSOM,ROSE,HIBISCUS,SUNFLOWER,BLOSSOM,EAR OF MAIZE,EAR OF RICE,HERB,FOUR LEAF CLOVER;",
  "1F341,,MAPLE LEAF,FALLEN LEAF,LEAF FLUTTERING IN WIND,MUSHROOM,TOMATO,AUBERGINE,GRAPES,MELON,",
  "WATERMELON,TANGERINE,LEMON,BANANA,PINEAPPLE,RED APPLE,GREEN APPLE,PEAR,PEACH,CHERRIES,",
  "STRAWBERRY,HAMBURGER,SLICE OF PIZZA,MEAT ON BONE,POULTRY LEG,RICE CRACKER,RICE BALL,",
  "COOKED RICE,CURRY bRICE,STEAMING BOWL,SPAGHETTI,BREAD,FRENCH FRIES,ROASTED SWEET POTATO,DANGO,",
  "ODEN,SUSHI,FRIED SHRIMP,FISH CAKE zSWIRL DESIGN,SOFT ICE CREAM,SHAVED ICE,ICE CREAM,DOUGHNUT,",
  "COOKIE,CHOCOLATE BAR,CANDY,LOLLIPOP,CUSTARD,HONEY POT,SHORTCAKE,BENTO BOX,POT OF FOOD,COOKING,",
  "FORK bKNIFE,TEACUP WITHOUT HANDLE,SAKE BOTTLE bCUP,WINE GLASS,COCKTAIL GLASS,TROPICAL DRINK,",
  "BEER MUG,CLINKING BEER MUGS,BABY BOTTLE,FORK bKNIFE zPLATE,BOTTLE zPOPPING CORK;1F37F,,POPCORN,",
  "RIBBON,WRAPPED PRESENT,BIRTHDAY CAKE,JACK-O-LANTERN,CHRISTMAS TREE,FATHER CHRISTMAS,FIREWORKS,",
  "FIREWORK SPARKLER,BALLOON,PARTY POPPER,CONFETTI BALL,TANABATA TREE,CROSSED FLAGS,",
  "PINE DECORATION,JAPANESE DOLLS,CARP STREAMER,WIND CHIME,MOON VIEWING CEREMONY,SCHOOL SATCHEL,",
  "GRADUATION CAP,HEART zTIP ON THE LEFT,BOUQUET OF FLOWERS,MILITARY MEDAL,REMINDER RIBBON,",
  "MUSICAL KEYBOARD zJACKS,STUDIO MICROPHONE,LEVEL SLIDER,CONTROL KNOBS,",
  "BEAMED ASCENDING MUSICAL NOTES,BEAMED DESCENDING MUSICAL NOTES,FILM FRAMES,ADMISSION TICKETS,",
  "CAROUSEL HORSE,FERRIS WHEEL,ROLLER COASTER,FISHING POLE bFISH,MICROPHONE,MOVIE CAMERA,CINEMA,",
  "HEADPHONE,ARTIST PALETTE,TOP HAT,CIRCUS TENT,TICKET,CLAPPER BOARD,PERFORMING ARTS,VIDEO GAME,",
  "DIRECT HIT,SLOT MACHINE,BILLIARDS,GAME DIE,BOWLING,FLOWER PLAYING CARDS,MUSICAL NOTE,",
  "MULTIPLE MUSICAL NOTES,SAXOPHONE,GUITAR,MUSICAL KEYBOARD,TRUMPET,VIOLIN,MUSICAL SCORE;",
  "1F3BD,,RUNNING SHIRT zSASH,TENNIS RACQUET bBALL,SKI bSKI BOOT,BASKETBALL bHOOP,CHEQUERED FLAG,",
  "SNOWBOARDER,RUNNER,SURFER,SPORTS MEDAL,TROPHY,HORSE RACING,AMERICAN FOOTBALL,RUGBY FOOTBALL,",
  "SWIMMER,WEIGHT LIFTER,GOLFER,RACING MOTORCYCLE,RACING CAR,CRICKET BAT bBALL,VOLLEYBALL,",
  "FIELD HOCKEY STICK bBALL,ICE HOCKEY STICK bPUCK,TABLE TENNIS PADDLE bBALL,SNOW CAPPED MOUNTAIN,",
  "CAMPING,BEACH zUMBRELLA,BUILDING CONSTRUCTION,HOUSE BUILDINGS,CITYSCAPE,",
  "DERELICT HOUSE BUILDING,CLASSICAL BUILDING,DESERT,DESERT ISLAND,NATIONAL PARK,STADIUM,",
  "HOUSE BUILDING,HOUSE zGARDEN,OFFICE BUILDING,JAPANESE POST OFFICE,EUROPEAN POST OFFICE,",
  "HOSPITAL,BANK,AUTOMATED TELLER MACHINE,HOTEL,LOVE HOTEL,CONVENIENCE STORE,SCHOOL,",
  "DEPARTMENT STORE,FACTORY,IZAKAYA LANTERN,JAPANESE CASTLE,EUROPEAN CASTLE,yPENNANT,ePENNANT,",
  "WAVING yFLAG,WAVING eFLAG,ROSETTE,eROSETTE,LABEL,BADMINTON RACQUET bSHUTTLECOCK,BOW bc,AMPHORA;",
  "1F3FB,EMOJI MODIFIER FITZPATRICK TYPE-,1-2,3,4,5,6;1F400,,RAT,MOUSE,OX,WATER BUFFALO,COW,TIGER,",
  "LEOPARD,RABBIT,CAT,DRAGON,CROCODILE,WHALE,SNAIL,SNAKE,HORSE,RAM,GOAT,SHEEP,MONKEY,ROOSTER,",
  "CHICKEN,DOG,PIG,BOAR,ELEPHANT,OCTOPUS,SPIRAL SHELL,BUG,ANT,HONEYBEE,LADY BEETLE,FISH,",
  "TROPICAL FISH,BLOWFISH,TURTLE,HATCHING CHICK,BABY CHICK,FRONT-FACING BABY CHICK,BIRD,PENGUIN,",
  "KOALA,POODLE,DROMEDARY CAMEL,BACTRIAN CAMEL,DOLPHIN,MOUSE FACE,COW FACE,TIGER FACE,RABBIT FACE,",
  "CAT FACE,DRAGON FACE,SPOUTING WHALE,HORSE FACE,MONKEY FACE,DOG FACE,PIG FACE,FROG FACE,",
  "HAMSTER FACE,WOLF FACE;1F43B,,BEAR FACE,PANDA FACE,PIG NOSE,PAW PRINTS,CHIPMUNK,EYES,EYE,EAR,",
  "NOSE,MOUTH,TONGUE,yUP pBACKHAND INDEX,yDOWN pBACKHAND INDEX,ykpBACKHAND INDEX,",
  "yqpBACKHAND INDEX,FISTED HAND SIGN,WAVING HAND SIGN,OK HAND SIGN,THUMBS UP SIGN,",
  "THUMBS DOWN SIGN,CLAPPING HANDS SIGN,OPEN HANDS SIGN,CROWN,WOMANS HAT,EYEGLASSES,NECKTIE,",
  "T-SHIRT,JEANS,DRESS,KIMONO,BIKINI,WOMANS CLOTHES,PURSE,HANDBAG,POUCH,MANS SHOE,ATHLETIC SHOE,",
  "HIGH-HEELED SHOE,WOMANS SANDAL,WOMANS BOOTS,FOOTPRINTS,BUST IN SILHOUETTE,BUSTS IN SILHOUETTE,",
  "BOY,GIRL,MAN,WOMAN,FAMILY,MAN bWOMAN HOLDING HANDS,TWO MEN HOLDING HANDS,",
  "TWO WOMEN HOLDING HANDS,POLICE OFFICER,WOMAN zBUNNY EARS,BRIDE zVEIL,PERSON zBLOND HAIR,",
  "MAN zGUA PI MAO,MAN zTURBAN,OLDER MAN,OLDER WOMAN,BABY,CONSTRUCTION WORKER,PRINCESS;",
  "1F479,JAPANESE ,OGRE,GOBLIN;1F47B,,GHOST,BABY ANGEL,EXTRATERRESTRIAL ALIEN,ALIEN MONSTER,IMP,",
  "SKULL,INFORMATION DESK PERSON,GUARDSMAN,DANCER,LIPSTICK,NAIL POLISH,FACE MASSAGE,HAIRCUT,",
  "BARBER POLE,SYRINGE,PILL,KISS MARK,LOVE LETTER,RING,GEM STONE,KISS,BOUQUET,COUPLE zHEART,",
  "WEDDING,BEATING HEART,BROKEN HEART,TWO HEARTS,SPARKLING HEART,GROWING HEART,HEART zc,",
  "BLUE HEART,GREEN HEART,YELLOW HEART,PURPLE HEART,HEART zRIBBON,REVOLVING HEARTS,",
  "HEART DECORATION,DIAMOND SHAPE zA DOT INSIDE,ELECTRIC LIGHT BULB,ANGER SYMBOL,BOMB,",
  "SLEEPING SYMBOL,COLLISION SYMBOL,SPLASHING SWEAT SYMBOL,DROPLET,DASH SYMBOL,PILE OF POO,",
  "FLEXED BICEPS,DIZZY SYMBOL,SPEECH BALLOON,THOUGHT BALLOON,yFLOWER,HUNDRED POINTS SYMBOL,",
  "MONEY BAG,CURRENCY EXCHANGE,HEAVY DOLLAR SIGN,CREDIT CARD;1F4B4,BANKNOTE z,YEN SIGN,",
  "DOLLAR SIGN,EURO SIGN,POUND SIGN;1F4B8,,MONEY zWINGS,CHART zUPWARDS TREND bYEN SIGN,SEAT,",
  "PERSONAL COMPUTER,BRIEFCASE,MINIDISC,FLOPPY DISK,OPTICAL DISC,DVD,FILE FOLDER,OPEN FILE FOLDER,",
  "PAGE zCURL,PAGE FACING UP,CALENDAR,TEAR-OFF CALENDAR,CARD INDEX,CHART zUPWARDS TREND,",
  "CHART zDOWNWARDS TREND,BAR CHART,CLIPBOARD,PUSHPIN,ROUND PUSHPIN,PAPERCLIP,STRAIGHT RULER,",
  "TRIANGULAR RULER,BOOKMARK TABS,LEDGER,NOTEBOOK,NOTEBOOK zDECORATIVE COVER,CLOSED BOOK,",
  "OPEN BOOK,GREEN BOOK,BLUE BOOK,ORANGE BOOK,BOOKS,NAME BADGE,SCROLL,MEMO,TELEPHONE RECEIVER,",
  "PAGER,FAX MACHINE,SATELLITE ANTENNA,PUBLIC ADDRESS LOUDSPEAKER,CHEERING MEGAPHONE,OUTBOX TRAY,",
  "INBOX TRAY,PACKAGE,E-MAIL SYMBOL,INCOMING ENVELOPE,ENVELOPE zDOWNWARDS c a;",
  "1F4EA,CLOSED MAILBOX z,LOWERED FLAG,RAISED FLAG;1F4EC,OPEN MAILBOX z,RAISED FLAG,LOWERED FLAG;",
  "1F4EE,,POSTBOX,POSTAL HORN,NEWSPAPER,MOBILE PHONE,MOBILE PHONE zrc AT LEFT,VIBRATION MODE,",
  "MOBILE PHONE OFF,NO MOBILE PHONES,ANTENNA zBARS,CAMERA,CAMERA zFLASH,VIDEO CAMERA,TELEVISION,",
  "RADIO,VIDEOCASSETTE,FILM PROJECTOR,PORTABLE STEREO,PRAYER BEADS,TWISTED rcS;",
  "1F501,CLOCKWISE rblOPEN CIRCLE ,cS,cS zCIRCLED ONE OVERLAY;",
  "1F503,,CLOCKWISE DOWNWARDS bUPWARDS OPEN CIRCLE cS,",
  "ANTICLOCKWISE DOWNWARDS bUPWARDS OPEN CIRCLE cS,LOW BRIGHTNESS SYMBOL,HIGH BRIGHTNESS SYMBOL,",
  "SPEAKER zCANCELLATION STROKE,SPEAKER,SPEAKER zONE SOUND WAVE,SPEAKER zTHREE SOUND WAVES,",
  "BATTERY,ELECTRIC PLUG,LEFT-pMAGNIFYING GLASS,RIGHT-pMAGNIFYING GLASS,LOCK zINK PEN,",
  "CLOSED LOCK zKEY,KEY,LOCK,OPEN LOCK,BELL,BELL zCANCELLATION STROKE,BOOKMARK,LINK SYMBOL,",
  "RADIO BUTTON,BACK zlc a,END zlc a,ON zEXCLAMATION MARK zkqc a,SOON zrc a,TOP zUPWARDS c a,",
  "NO ONE UNDER EIGHTEEN SYMBOL,KEYCAP TEN;1F520,INPUT SYMBOL FOR ,LATIN fLETTERS,LATIN tLETTERS,",
  "NUMBERS,SYMBOLS,LATIN LETTERS;1F525,,FIRE,ELECTRIC TORCH,WRENCH,HAMMER,NUT bBOLT,HOCHO,PISTOL,",
  "MICROSCOPE,TELESCOPE,CRYSTAL BALL,SIX POINTED STAR zoDOT,JAPANESE SYMBOL FOR BEGINNER,",
  "TRIDENT EMBLEM,eSQUARE BUTTON,ySQUARE BUTTON;1F534,LARGE ,RED CIRCLE,BLUE CIRCLE,",
  "ORANGE DIAMOND,BLUE DIAMOND;1F538,,tORANGE DIAMOND,tBLUE DIAMOND,UP-pRED TRIANGLE,",
  "DOWN-pRED TRIANGLE,UP-ptRED TRIANGLE,DOWN-ptRED TRIANGLE,LOWER qSHADOWED yCIRCLE,",
  "UPPER qSHADOWED yCIRCLE,CIRCLED CROSS POMMEE,CROSS POMMEE zHALF-CIRCLE d,CROSS POMMEE,",
  "NOTCHED kSEMICIRCLE zTHREE DOTS,NOTCHED qSEMICIRCLE zTHREE DOTS,SYMBOL FOR MARKS CHAPTER,",
  "yLATIN CROSS,HEAVY LATIN CROSS,CELTIC CROSS,OM SYMBOL,DOVE OF PEACE,KAABA,MOSQUE,SYNAGOGUE,",
  "MENORAH zNINE BRANCHES,BOWL OF HYGIEIA;1F550,CLOCK FACE ,ONE OCLOCK,TWO OCLOCK,THREE OCLOCK,",
  "FOUR OCLOCK,FIVE OCLOCK,SIX OCLOCK,SEVEN OCLOCK,EIGHT OCLOCK,NINE OCLOCK,TEN OCLOCK,",
  "ELEVEN OCLOCK,TWELVE OCLOCK,ONE-THIRTY,TWO-THIRTY,THREE-THIRTY,FOUR-THIRTY,FIVE-THIRTY,",
  "SIX-THIRTY,SEVEN-THIRTY,EIGHT-THIRTY,NINE-THIRTY,TEN-THIRTY,ELEVEN-THIRTY,TWELVE-THIRTY;",
  "1F568,,qSPEAKER,qSPEAKER zONE SOUND WAVE,qSPEAKER zTHREE SOUND WAVES,BULLHORN,",
  "BULLHORN zSOUND WAVES,RINGING BELL,BOOK,CANDLE,MANTELPIECE CLOCK,eSKULL bCROSSBONES,NO PIRACY,",
  "HOLE,MAN IN BUSINESS SUIT LEVITATING,SLEUTH OR SPY,DARK SUNGLASSES,SPIDER,SPIDER WEB,JOYSTICK,",
  "MAN DANCING,kHAND TELEPHONE RECEIVER,TELEPHONE RECEIVER zPAGE,qHAND TELEPHONE RECEIVER,",
  "yTOUCHTONE TELEPHONE,eTOUCHTONE TELEPHONE,TELEPHONE ON TOP OF MODEM,CLAMSHELL MOBILE PHONE,",
  "BACK OF ENVELOPE,STAMPED ENVELOPE,ENVELOPE zLIGHTNING,FLYING ENVELOPE,",
  "PEN OVER STAMPED ENVELOPE,LINKED PAPERCLIPS,ePUSHPIN;1F589,LOWER k,PENCIL,BALLPOINT PEN,",
  "FOUNTAIN PEN,PAINTBRUSH,CRAYON;1F58E,,kWRITING HAND,TURNED OK HAND SIGN,",
  "RAISED HAND zFINGERS SPLAYED;1F591,REVERSED ,RAISED HAND zFINGERS SPLAYED,THUMBS UP SIGN,",
  "THUMBS DOWN SIGN,VICTORY HAND,HAND zoFINGER EXTENDED;",
  "1F596,,RAISED HAND zPART BETWEEN obRING FINGERS,yDOWN pkHAND INDEX;1F598,SIDEWAYS ,ykpINDEX,",
  "yqpINDEX,ekpINDEX,eqpINDEX;1F59C,e,kpBACKHAND INDEX,qpBACKHAND INDEX;",
  "1F59E,SIDEWAYS ,yUP pINDEX,yDOWN pINDEX,eUP pINDEX,eDOWN pINDEX;1F5A2,,eUP pBACKHAND INDEX,",
  "eDOWN pBACKHAND INDEX,eHEART,DESKTOP COMPUTER,KEYBOARD bMOUSE,THREE NETWORKED COMPUTERS,",
  "PRINTER,POCKET CALCULATOR,eHARD SHELL FLOPPY DISK,yHARD SHELL FLOPPY DISK,",
  "SOFT SHELL FLOPPY DISK,TAPE CARTRIDGE,WIRED KEYBOARD,ONE BUTTON MOUSE,TWO BUTTON MOUSE,",
  "THREE BUTTON MOUSE,TRACKBALL,OLD PERSONAL COMPUTER,HARD DISK,SCREEN,PRINTER ICON,FAX ICON,",
  "OPTICAL DISC ICON;1F5B9,DOCUMENT z,TEXT,TEXT bPICTURE,PICTURE;1F5BC,FRAME z,PICTURE,TILES,AN X;",
  "1F5BF,,eFOLDER,FOLDER,OPEN FOLDER,CARD INDEX DIVIDERS,CARD FILE BOX,FILE CABINET,EMPTY NOTE,",
  "EMPTY NOTE PAGE,EMPTY NOTE PAD,NOTE,NOTE PAGE,NOTE PAD,EMPTY DOCUMENT,EMPTY PAGE,EMPTY PAGES,",
  "DOCUMENT,PAGE,PAGES,WASTEBASKET,SPIRAL NOTE PAD,SPIRAL CALENDAR PAD,DESKTOP WINDOW,MINIMIZE,",
  "MAXIMIZE,OVERLAP,CLOCKWISE qbkSEMICIRCLE cS,CANCELLATION X,INCREASE FONT SIZE SYMBOL,",
  "DECREASE FONT SIZE SYMBOL,COMPRESSION,OLD KEY,ROLLED-UP NEWSPAPER,PAGE zCIRCLED TEXT,",
  "STOCK CHART,DAGGER KNIFE,LIPS,SPEAKING HEAD IN SILHOUETTE;1F5E4,THREE RAYS ,a,d,LEFT,RIGHT;",
  "1F5E8,,kSPEECH BUBBLE,qSPEECH BUBBLE,TWO SPEECH BUBBLES,THREE SPEECH BUBBLES,kTHOUGHT BUBBLE,",
  "qTHOUGHT BUBBLE,kANGER BUBBLE,qANGER BUBBLE,MOOD BUBBLE;1F5F1,LIGHTNING ,MOOD BUBBLE,MOOD;",
  "1F5F3,BALLOT ,BOX zBALLOT,SCRIPT X,BOX zSCRIPT X,BOLD SCRIPT X,BOX zBOLD SCRIPT X;",
  "1F5F8,,LIGHT CHECK MARK,BALLOT BOX zBOLD CHECK,WORLD MAP,MOUNT FUJI,TOKYO TOWER,",
  "STATUE OF LIBERTY,SILHOUETTE OF JAPAN,MOYAI,GRINNING FACE,GRINNING FACE zSMILING EYES,",
  "FACE zTEARS OF JOY;1F603,SMILING FACE z,OPEN MOUTH,OPEN MOUTH bSMILING EYES,",
  "OPEN MOUTH bCOLD SWEAT,OPEN MOUTH bTIGHTLY-CLOSED EYES,HALO,HORNS;1F609,,WINKING FACE,",
  "SMILING FACE zSMILING EYES,FACE SAVOURING DELICIOUS FOOD,RELIEVED FACE,",
  "SMILING FACE zHEART-SHAPED EYES,SMILING FACE zSUNGLASSES,SMIRKING FACE,NEUTRAL FACE,",
  "EXPRESSIONLESS FACE,UNAMUSED FACE,FACE zCOLD SWEAT,PENSIVE FACE,CONFUSED FACE,CONFOUNDED FACE,",
  "KISSING FACE,FACE THROWING A KISS;1F619,KISSING FACE z,SMILING EYES,CLOSED EYES;",
  "1F61B,FACE zSTUCK-OUT ,TONGUE,TONGUE bWINKING EYE,TONGUE bTIGHTLY-CLOSED EYES;",
  "1F61E,,DISAPPOINTED FACE,WORRIED FACE,ANGRY FACE,POUTING FACE,CRYING FACE,PERSEVERING FACE,",
  "FACE zLOOK OF TRIUMPH,DISAPPOINTED BUT RELIEVED FACE,FROWNING FACE zOPEN MOUTH,ANGUISHED FACE,",
  "FEARFUL FACE,WEARY FACE,SLEEPY FACE,TIRED FACE,GRIMACING FACE,LOUDLY CRYING FACE,",
  "FACE zOPEN MOUTH,HUSHED FACE,FACE zOPEN MOUTH bCOLD SWEAT,FACE SCREAMING IN FEAR,",
  "ASTONISHED FACE,FLUSHED FACE,SLEEPING FACE,DIZZY FACE,FACE WITHOUT MOUTH,FACE zMEDICAL MASK,",
  "GRINNING CAT FACE zSMILING EYES,CAT FACE zTEARS OF JOY;1F63A,SMILING CAT FACE z,OPEN MOUTH,",
  "HEART-SHAPED EYES;1F63C,,CAT FACE zWRY SMILE,KISSING CAT FACE zCLOSED EYES,POUTING CAT FACE,",
  "CRYING CAT FACE,WEARY CAT FACE,SLIGHTLY FROWNING FACE,SLIGHTLY SMILING FACE,UPSIDE-DOWN FACE,",
  "FACE zROLLING EYES,FACE zNO GOOD GESTURE,FACE zOK GESTURE,PERSON BOWING DEEPLY,",
  "SEE-NO-EVIL MONKEY,HEAR-NO-EVIL MONKEY,SPEAK-NO-EVIL MONKEY,HAPPY PERSON RAISING ONE HAND;",
  "1F64C,PERSON ,RAISING BOTH HANDS IN CELEBRATION,FROWNING,zPOUTING FACE,zFOLDED HANDS;",
  "1F650,,NORTH WEST pLEAF,SOUTH WEST pLEAF,NORTH EAST pLEAF,SOUTH EAST pLEAF;",
  "1F654,TURNED ,NORTH WEST pLEAF,SOUTH WEST pLEAF,NORTH EAST pLEAF,SOUTH EAST pLEAF;",
  "1F658,,NORTH WEST pVINE LEAF,SOUTH WEST pVINE LEAF,NORTH EAST pVINE LEAF,SOUTH EAST pVINE LEAF;",
  "1F65C,HEAVY ,NORTH WEST pVINE LEAF,SOUTH WEST pVINE LEAF,NORTH EAST pVINE LEAF,",
  "SOUTH EAST pVINE LEAF;1F660,,NORTH WEST pBUD,SOUTH WEST pBUD,NORTH EAST pBUD,SOUTH EAST pBUD;",
  "1F664,HEAVY ,NORTH WEST pBUD,SOUTH WEST pBUD,NORTH EAST pBUD,SOUTH EAST pBUD;",
  "1F668,HOLLOW QUILT SQUARE ,ORNAMENT,ORNAMENT IN eSQUARE;1F66A,SOLID QUILT SQUARE ,ORNAMENT,",
  "ORNAMENT IN eSQUARE;1F66C,,lROCKET,UPWARDS ROCKET,rROCKET,DOWNWARDS ROCKET,",
  "SCRIPT LIGATURE ET ORNAMENT,HEAVY SCRIPT LIGATURE ET ORNAMENT,LIGATURE OPEN ET ORNAMENT,",
  "HEAVY LIGATURE OPEN ET ORNAMENT,HEAVY AMPERSAND ORNAMENT,SWASH AMPERSAND ORNAMENT;",
  "1F676,SANS-SERIF HEAVY ,gTURNED COMMA QUOTATION MARK ORNAMENT,gCOMMA QUOTATION MARK ORNAMENT,",
  "LOW gCOMMA QUOTATION MARK ORNAMENT;1F679,,HEAVY INTERROBANG ORNAMENT,",
  "SANS-SERIF INTERROBANG ORNAMENT,HEAVY SANS-SERIF INTERROBANG ORNAMENT,VERY HEAVY SOLIDUS,",
  "VERY HEAVY REVERSE SOLIDUS,CHECKER BOARD,REVERSE CHECKER BOARD,ROCKET,HELICOPTER,",
  "STEAM LOCOMOTIVE,RAILWAY CAR,HIGH-SPEED TRAIN,HIGH-SPEED TRAIN zBULLET NOSE,TRAIN,METRO,",
  "LIGHT RAIL,STATION,TRAM,TRAM CAR,BUS,ONCOMING BUS,TROLLEYBUS,BUS STOP,MINIBUS,AMBULANCE,",
  "FIRE ENGINE,POLICE CAR,ONCOMING POLICE CAR,TAXI,ONCOMING TAXI,AUTOMOBILE,ONCOMING AUTOMOBILE,",
  "RECREATIONAL VEHICLE;1F69A,,DELIVERY TRUCK,ARTICULATED LORRY,TRACTOR,MONORAIL,MOUNTAIN RAILWAY,",
  "SUSPENSION RAILWAY,MOUNTAIN CABLEWAY,AERIAL TRAMWAY,SHIP,ROWBOAT,SPEEDBOAT,",
  "HORIZONTAL TRAFFIC LIGHT,wTRAFFIC LIGHT,CONSTRUCTION SIGN,POLICE CARS REVOLVING LIGHT,",
  "TRIANGULAR FLAG ON POST,DOOR,NO ENTRY SIGN,SMOKING SYMBOL,NO SMOKING SYMBOL,",
  "PUT LITTER IN ITS PLACE SYMBOL,DO NOT LITTER SYMBOL,POTABLE WATER SYMBOL,",
  "NON-POTABLE WATER SYMBOL,BICYCLE,NO BICYCLES,BICYCLIST,MOUNTAIN BICYCLIST,PEDESTRIAN,",
  "NO PEDESTRIANS,CHILDREN CROSSING,MENS SYMBOL,WOMENS SYMBOL,RESTROOM,BABY SYMBOL,TOILET,",
  "WATER CLOSET,SHOWER,BATH,BATHTUB,PASSPORT CONTROL,CUSTOMS,BAGGAGE CLAIM,kLUGGAGE,",
  "TRIANGLE zROUNDED CORNERS,PROHIBITED SIGN,CIRCLED INFORMATION SOURCE,BOYS SYMBOL,GIRLS SYMBOL,",
  "COUCH bLAMP,SLEEPING ACCOMMODATION,SHOPPING BAGS,BELLHOP BELL,BED,PLACE OF WORSHIP,",
  "OCTAGONAL SIGN,SHOPPING TROLLEY,STUPA,PAGODA,HINDU TEMPLE,HUT,ELEVATOR;1F6DD,,PLAYGROUND SLIDE,",
  "WHEEL,RING BUOY,HAMMER bWRENCH,SHIELD,OIL DRUM,MOTORWAY,RAILWAY TRACK,MOTOR BOAT,",
  "UP-pMILITARY AIRPLANE,UP-pAIRPLANE,UP-ptAIRPLANE,tAIRPLANE,NORTHEAST-pAIRPLANE;",
  "1F6EB,AIRPLANE ,DEPARTURE,ARRIVING;1F6F0,,SATELLITE,ONCOMING FIRE ENGINE,DIESEL LOCOMOTIVE,",
  "PASSENGER SHIP,SCOOTER,MOTOR SCOOTER,CANOE,SLED,FLYING SAUCER,SKATEBOARD,AUTO RICKSHAW,",
  "PICKUP TRUCK,ROLLER SKATE;1F700,ALCHEMICAL SYMBOL FOR ,QUINTESSENCE,AIR,FIRE,EARTH,WATER,",
  "AQUAFORTIS,AQUA REGIA,AQUA REGIA-2,AQUA VITAE,AQUA VITAE-2,VINEGAR,VINEGAR-2,VINEGAR-3,SULFUR,",
  "PHILOSOPHERS SULFUR,eSULFUR,MERCURY SUBLIMATE,MERCURY SUBLIMATE-2,MERCURY SUBLIMATE-3,CINNABAR,",
  "SALT,NITRE,VITRIOL,VITRIOL-2,ROCK SALT,ROCK SALT-2,GOLD,SILVER,IRON ORE,IRON ORE-2,",
  "CROCUS OF IRON,REGULUS OF IRON,COPPER ORE,IRON-COPPER ORE,SUBLIMATE OF COPPER,CROCUS OF COPPER,",
  "CROCUS OF COPPER-2,COPPER ANTIMONIATE,SALT OF COPPER ANTIMONIATE,SUBLIMATE OF SALT OF COPPER,",
  "VERDIGRIS,TIN ORE,LEAD ORE,ANTIMONY ORE,SUBLIMATE OF ANTIMONY,SALT OF ANTIMONY,",
  "SUBLIMATE OF SALT OF ANTIMONY,VINEGAR OF ANTIMONY,REGULUS OF ANTIMONY,REGULUS OF ANTIMONY-2,",
  "REGULUS,REGULUS-2,REGULUS-3,REGULUS-4,ALKALI,ALKALI-2,MARCASITE,SAL-AMMONIAC,ARSENIC,REALGAR,",
  "REALGAR-2,AURIPIGMENT,BISMUTH ORE,TARTAR,TARTAR-2,QUICK LIME,BORAX,BORAX-2,BORAX-3,ALUM,OIL,",
  "SPIRIT,TINCTURE,GUM,WAX,POWDER,CALX,TUTTY,CAPUT MORTUUM,SCEPTER OF JOVE,CADUCEUS,TRIDENT,",
  "STARRED TRIDENT,LODESTONE,SOAP,URINE,HORSE DUNG,ASHES,POT ASHES,BRICK,POWDERED BRICK,AMALGAM,",
  "STRATUM SUPER STRATUM,STRATUM SUPER STRATUM-2,SUBLIMATION,PRECIPITATE,DISTILL,DISSOLVE,",
  "DISSOLVE-2,PURIFY,PUTREFACTION,CRUCIBLE,CRUCIBLE-2,CRUCIBLE-3,CRUCIBLE-4,CRUCIBLE-5,ALEMBIC,",
  "BATH OF MARY,BATH OF VAPOURS,RETORT,HOUR,NIGHT,DAY-NIGHT,MONTH,HALF DRAM,HALF OUNCE;",
  "1F780,,eLEFT-pISOSCELES qTRIANGLE,eUP-pISOSCELES qTRIANGLE,eRIGHT-pISOSCELES qTRIANGLE,",
  "eDOWN-pISOSCELES qTRIANGLE,eSLIGHTLY tCIRCLE,MEDIUM BOLD yCIRCLE,BOLD yCIRCLE,HEAVY yCIRCLE,",
  "VERY HEAVY yCIRCLE,EXTREMELY HEAVY yCIRCLE,yCIRCLE CONTAINING etCIRCLE,ROUND TARGET,",
  "eTINY SQUARE,eSLIGHTLY tSQUARE,LIGHT ySQUARE,MEDIUM ySQUARE,BOLD ySQUARE,HEAVY ySQUARE,",
  "VERY HEAVY ySQUARE,EXTREMELY HEAVY ySQUARE;1F794,ySQUARE CONTAINING e,VERY tSQUARE,",
  "MEDIUM SQUARE;1F796,,SQUARE TARGET,eTINY DIAMOND,eVERY tDIAMOND,eMEDIUM tDIAMOND;",
  "1F79A,yDIAMOND CONTAINING e,VERY tDIAMOND,MEDIUM DIAMOND;1F79C,,DIAMOND TARGET,eTINY LOZENGE,",
  "eVERY tLOZENGE,eMEDIUM tLOZENGE,yLOZENGE CONTAINING etLOZENGE,THIN GREEK CROSS,",
  "LIGHT GREEK CROSS,MEDIUM GREEK CROSS,BOLD GREEK CROSS,VERY BOLD GREEK CROSS,",
  "VERY HEAVY GREEK CROSS,EXTREMELY HEAVY GREEK CROSS,THIN SALTIRE,LIGHT SALTIRE,MEDIUM SALTIRE,",
  "BOLD SALTIRE,HEAVY SALTIRE,VERY HEAVY SALTIRE,EXTREMELY HEAVY SALTIRE,",
  "LIGHT FIVE SPOKED ASTERISK,MEDIUM FIVE SPOKED ASTERISK,BOLD FIVE SPOKED ASTERISK,",
  "HEAVY FIVE SPOKED ASTERISK,VERY HEAVY FIVE SPOKED ASTERISK,",
  "EXTREMELY HEAVY FIVE SPOKED ASTERISK,LIGHT SIX SPOKED ASTERISK,MEDIUM SIX SPOKED ASTERISK,",
  "BOLD SIX SPOKED ASTERISK,HEAVY SIX SPOKED ASTERISK,VERY HEAVY SIX SPOKED ASTERISK,",
  "EXTREMELY HEAVY SIX SPOKED ASTERISK,LIGHT EIGHT SPOKED ASTERISK,MEDIUM EIGHT SPOKED ASTERISK,",
  "BOLD EIGHT SPOKED ASTERISK,HEAVY EIGHT SPOKED ASTERISK,VERY HEAVY EIGHT SPOKED ASTERISK,",
  "LIGHT THREE POINTED eSTAR,MEDIUM THREE POINTED eSTAR,THREE POINTED eSTAR,",
  "MEDIUM THREE POINTED PINWHEEL STAR,LIGHT FOUR POINTED eSTAR,MEDIUM FOUR POINTED eSTAR,",
  "FOUR POINTED eSTAR,MEDIUM FOUR POINTED PINWHEEL STAR,REVERSE LIGHT FOUR POINTED PINWHEEL STAR,",
  "LIGHT FIVE POINTED eSTAR,HEAVY FIVE POINTED eSTAR,MEDIUM SIX POINTED eSTAR,",
  "HEAVY SIX POINTED eSTAR,SIX POINTED PINWHEEL STAR,MEDIUM EIGHT POINTED eSTAR,",
  "HEAVY EIGHT POINTED eSTAR,VERY HEAVY EIGHT POINTED eSTAR,HEAVY EIGHT POINTED PINWHEEL STAR,",
  "LIGHT TWELVE POINTED eSTAR;1F7D3,HEAVY TWELVE POINTED ,eSTAR,PINWHEEL STAR;",
  "1F7D5,,CIRCLED TRIANGLE,NEGATIVE CIRCLED TRIANGLE,CIRCLED SQUARE,NEGATIVE CIRCLED SQUARE;",
  "1F7E0,LARGE ,ORANGE CIRCLE,YELLOW CIRCLE,GREEN CIRCLE,PURPLE CIRCLE,BROWN CIRCLE,RED SQUARE,",
  "BLUE SQUARE,ORANGE SQUARE,YELLOW SQUARE,GREEN SQUARE,PURPLE SQUARE,BROWN SQUARE;",
  "1F7F0,,HEAVY EQUALS SIGN;1F800,,lc ztTRIANGLE cHEAD,UPWARDS c ztTRIANGLE cHEAD,",
  "rc ztTRIANGLE cHEAD,DOWNWARDS c ztTRIANGLE cHEAD,lc zMEDIUM TRIANGLE cHEAD,",
  "UPWARDS c zMEDIUM TRIANGLE cHEAD,rc zMEDIUM TRIANGLE cHEAD,DOWNWARDS c zMEDIUM TRIANGLE cHEAD,",
  "lc zLARGE TRIANGLE cHEAD,UPWARDS c zLARGE TRIANGLE cHEAD,rc zLARGE TRIANGLE cHEAD,",
  "DOWNWARDS c zLARGE TRIANGLE cHEAD;1F810,,lc ztEQUILATERAL cHEAD,UPWARDS c ztEQUILATERAL cHEAD,",
  "rc ztEQUILATERAL cHEAD,DOWNWARDS c ztEQUILATERAL cHEAD,lc zEQUILATERAL cHEAD,",
  "UPWARDS c zEQUILATERAL cHEAD,rc zEQUILATERAL cHEAD,DOWNWARDS c zEQUILATERAL cHEAD;",
  "1F818,HEAVY ,lc zEQUILATERAL cHEAD,UPWARDS c zEQUILATERAL cHEAD,rc zEQUILATERAL cHEAD,",
  "DOWNWARDS c zEQUILATERAL cHEAD,lc zLARGE EQUILATERAL cHEAD,UPWARDS c zLARGE EQUILATERAL cHEAD,",
  "rc zLARGE EQUILATERAL cHEAD,DOWNWARDS c zLARGE EQUILATERAL cHEAD;1F820,,lvc zNARROW SHAFT,",
  "UPWARDS vc zNARROW SHAFT,rvc zNARROW SHAFT,DOWNWARDS vc zNARROW SHAFT,lvc zMEDIUM SHAFT,",
  "UPWARDS vc zMEDIUM SHAFT,rvc zMEDIUM SHAFT,DOWNWARDS vc zMEDIUM SHAFT,lvc zBOLD SHAFT,",
  "UPWARDS vc zBOLD SHAFT,rvc zBOLD SHAFT,DOWNWARDS vc zBOLD SHAFT,lvc zHEAVY SHAFT,",
  "UPWARDS vc zHEAVY SHAFT,rvc zHEAVY SHAFT,DOWNWARDS vc zHEAVY SHAFT,lvc zVERY HEAVY SHAFT,",
  "UPWARDS vc zVERY HEAVY SHAFT,rvc zVERY HEAVY SHAFT,DOWNWARDS vc zVERY HEAVY SHAFT,",
  "lFINGER-POST c,UPWARDS FINGER-POST c,rFINGER-POST c,DOWNWARDS FINGER-POST c,lSQUARED c,",
  "UPWARDS SQUARED c,rSQUARED c,DOWNWARDS SQUARED c,lCOMPRESSED c,UPWARDS COMPRESSED c,",
  "rCOMPRESSED c,DOWNWARDS COMPRESSED c,lHEAVY COMPRESSED c,UPWARDS HEAVY COMPRESSED c,",
  "rHEAVY COMPRESSED c,DOWNWARDS HEAVY COMPRESSED c,lHEAVY c,UPWARDS HEAVY c,rHEAVY c,",
  "DOWNWARDS HEAVY c;1F850,,lSANS-SERIF c,UPWARDS SANS-SERIF c,rSANS-SERIF c,",
  "DOWNWARDS SANS-SERIF c,NORTH WEST SANS-SERIF c,NORTH EAST SANS-SERIF c,SOUTH EAST SANS-SERIF c,",
  "SOUTH WEST SANS-SERIF c,kqSANS-SERIF c,UP DOWN SANS-SERIF c;1F860,WIDE-HEADED ,lLIGHT BARB c,",
  "UPWARDS LIGHT BARB c,rLIGHT BARB c,DOWNWARDS LIGHT BARB c,NORTH WEST LIGHT BARB c,",
  "NORTH EAST LIGHT BARB c,SOUTH EAST LIGHT BARB c,SOUTH WEST LIGHT BARB c,lBARB c,UPWARDS BARB c,",
  "rBARB c,DOWNWARDS BARB c,NORTH WEST BARB c,NORTH EAST BARB c,SOUTH EAST BARB c,",
  "SOUTH WEST BARB c,lMEDIUM BARB c,UPWARDS MEDIUM BARB c,rMEDIUM BARB c,DOWNWARDS MEDIUM BARB c,",
  "NORTH WEST MEDIUM BARB c,NORTH EAST MEDIUM BARB c,SOUTH EAST MEDIUM BARB c,",
  "SOUTH WEST MEDIUM BARB c,lHEAVY BARB c,UPWARDS HEAVY BARB c,rHEAVY BARB c,",
  "DOWNWARDS HEAVY BARB c,NORTH WEST HEAVY BARB c,NORTH EAST HEAVY BARB c,SOUTH EAST HEAVY BARB c,",
  "SOUTH WEST HEAVY BARB c,lVERY HEAVY BARB c,UPWARDS VERY HEAVY BARB c,rVERY HEAVY BARB c,",
  "DOWNWARDS VERY HEAVY BARB c,NORTH WEST VERY HEAVY BARB c,NORTH EAST VERY HEAVY BARB c,",
  "SOUTH EAST VERY HEAVY BARB c,SOUTH WEST VERY HEAVY BARB c;1F890,,lTRIANGLE cHEAD,",
  "UPWARDS TRIANGLE cHEAD,rTRIANGLE cHEAD,DOWNWARDS TRIANGLE cHEAD,lyc WITHIN TRIANGLE cHEAD,",
  "UPWARDS yc WITHIN TRIANGLE cHEAD,ryc WITHIN TRIANGLE cHEAD,DOWNWARDS yc WITHIN TRIANGLE cHEAD,",
  "lc zNOTCHED TAIL,UPWARDS c zNOTCHED TAIL,rc zNOTCHED TAIL,DOWNWARDS c zNOTCHED TAIL;",
  "1F89C,HEAVY c SHAFT WIDTH ,ONE,TWO THIRDS,ONE HALF,ONE THIRD;1F8A0,,lBOTTOM-SHADED yc,",
  "rBOTTOM SHADED yc,lTOP SHADED yc,rTOP SHADED yc,lLEFT-SHADED yc,rRIGHT-SHADED yc,",
  "lRIGHT-SHADED yc,rLEFT-SHADED yc,lBACK-TILTED SHADOWED yc,rBACK-TILTED SHADOWED yc,",
  "lFRONT-TILTED SHADOWED yc,rFRONT-TILTED SHADOWED yc;1F8AC,yc SHAFT WIDTH ,ONE,TWO THIRDS;",
  "1F8B0,c p,UPWARDS THEN NORTH WEST,rTHEN CURVING SOUTH WEST;",
  "1F900,CIRCLED CROSS ,FORMEE zFOUR DOTS,FORMEE zTWO DOTS,FORMEE;1F903,kHALF CIRCLE z,FOUR DOTS,",
  "THREE DOTS,TWO DOTS,DOT;1F907,,kHALF CIRCLE;1F908,DOWNWARD FACING ,HOOK,NOTCHED HOOK,HOOK zDOT,",
  "NOTCHED HOOK zDOT;1F90C,,PINCHED FINGERS,yHEART,BROWN HEART,PINCHING HAND,ZIPPER-MOUTH FACE,",
  "MONEY-MOUTH FACE,FACE zTHERMOMETER,NERD FACE,THINKING FACE,FACE zHEAD-BANDAGE,ROBOT FACE,",
  "HUGGING FACE,sOF THE HORNS,CALL ME HAND,RAISED BACK OF HAND,LEFT-FACING FIST,RIGHT-FACING FIST,",
  "HANDSHAKE,HAND zINDEX boFINGERS CROSSED,I LOVE YOU HAND SIGN,FACE zCOWBOY HAT,CLOWN FACE,",
  "NAUSEATED FACE,ROLLING ON THE FLOOR LAUGHING,DROOLING FACE,LYING FACE,FACE PALM,SNEEZING FACE,",
  "FACE zONE EYEBROW RAISED,GRINNING FACE zSTAR EYES,GRINNING FACE zONE LARGE bONE tEYE,",
  "FACE zFINGER COVERING CLOSED LIPS,SERIOUS FACE zSYMBOLS COVERING MOUTH,",
  "SMILING FACE zSMILING EYES bHAND COVERING MOUTH,FACE zOPEN MOUTH VOMITING,",
  "SHOCKED FACE zEXPLODING HEAD,PREGNANT WOMAN,BREAST-FEEDING,PALMS UP TOGETHER,SELFIE;",
  "1F934,,PRINCE,MAN IN TUXEDO,MOTHER CHRISTMAS,SHRUG,PERSON DOING CARTWHEEL,JUGGLING,FENCER,",
  "MODERN PENTATHLON,WRESTLERS,WATER POLO,HANDBALL,DIVING MASK,WILTED FLOWER,DRUM zDRUMSTICKS,",
  "CLINKING GLASSES,TUMBLER GLASS,SPOON,GOAL NET,RIFLE,FIRST PLACE MEDAL,SECOND PLACE MEDAL,",
  "THIRD PLACE MEDAL,BOXING GLOVE,MARTIAL ARTS UNIFORM,CURLING STONE,LACROSSE STICK bBALL,",
  "SOFTBALL,FLYING DISC,CROISSANT,AVOCADO,CUCUMBER,BACON,POTATO,CARROT,BAGUETTE BREAD,GREEN SALAD,",
  "SHALLOW PAN OF FOOD,STUFFED FLATBREAD,EGG,GLASS OF MILK,PEANUTS,KIWIFRUIT,PANCAKES,DUMPLING,",
  "FORTUNE COOKIE,TAKEOUT BOX,CHOPSTICKS,BOWL zSPOON,CUP zSTRAW,COCONUT,BROCCOLI,PIE,PRETZEL,",
  "CUT OF MEAT,SANDWICH,CANNED FOOD,LEAFY GREEN,MANGO,MOON CAKE,BAGEL,",
  "SMILING FACE zSMILING EYES bTHREE HEARTS,YAWNING FACE;1F972,,SMILING FACE zTEAR,",
  "FACE zPARTY HORN bPARTY HAT,FACE zUNEVEN EYES bWAVY MOUTH,OVERHEATED FACE,FREEZING FACE,NINJA,",
  "DISGUISED FACE,FACE HOLDING BACK TEARS,FACE zPLEADING EYES,SARI,LAB COAT,GOGGLES,HIKING BOOT,",
  "FLAT SHOE,CRAB,LION FACE,SCORPION,TURKEY,UNICORN FACE,EAGLE,DUCK,BAT,SHARK,OWL,FOX FACE,",
  "BUTTERFLY,DEER,GORILLA,LIZARD,RHINOCEROS,SHRIMP,SQUID,GIRAFFE FACE,ZEBRA FACE,HEDGEHOG,",
  "SAUROPOD,T-REX,CRICKET,KANGAROO,LLAMA,PEACOCK,HIPPOPOTAMUS,PARROT,RACCOON,LOBSTER,MOSQUITO,",
  "MICROBE,BADGER,SWAN,MAMMOTH,DODO,SLOTH,OTTER,ORANGUTAN,SKUNK,FLAMINGO,OYSTER,BEAVER,BISON,SEAL,",
  "GUIDE DOG,PROBING CANE;1F9B0,EMOJI COMPONENT ,RED HAIR,CURLY HAIR,BALD,yHAIR;1F9B4,,BONE,LEG,",
  "FOOT,TOOTH,SUPERHERO,SUPERVILLAIN,SAFETY VEST,EAR zHEARING AID,MOTORIZED WHEELCHAIR,",
  "MANUAL WHEELCHAIR,MECHANICAL ARM,MECHANICAL LEG,CHEESE WEDGE,CUPCAKE,SALT SHAKER,BEVERAGE BOX,",
  "GARLIC,ONION,FALAFEL,WAFFLE,BUTTER,MATE DRINK,ICE CUBE,BUBBLE TEA,TROLL,STANDING PERSON,",
  "KNEELING PERSON,DEAF PERSON,FACE zMONOCLE,ADULT,CHILD,OLDER ADULT,BEARDED PERSON;",
  "1F9D5,PERSON ,zHEADSCARF,IN STEAMY ROOM,CLIMBING,IN LOTUS POSITION;1F9D9,,MAGE,FAIRY,VAMPIRE,",
  "MERPERSON,ELF,GENIE,ZOMBIE,BRAIN,ORANGE HEART,BILLED CAP,SCARF,GLOVES,COAT,SOCKS,",
  "RED GIFT ENVELOPE,FIRECRACKER,JIGSAW PUZZLE PIECE,TEST TUBE,PETRI DISH,DNA gHELIX,COMPASS,",
  "ABACUS,FIRE EXTINGUISHER,TOOLBOX,BRICK,MAGNET,LUGGAGE,LOTION BOTTLE,SPOOL OF THREAD,",
  "BALL OF YARN,SAFETY PIN,TEDDY BEAR,BROOM,BASKET,ROLL OF PAPER,BAR OF SOAP,SPONGE,RECEIPT,",
  "NAZAR AMULET;1FA00,NEUTRAL CHESS ,KING,QUEEN,ROOK,BISHOP,KNIGHT,PAWN;",
  "1FA06,,yCHESS KNIGHT ROTATED FORTY-FIVE DEGREES,eCHESS KNIGHT ROTATED FORTY-FIVE DEGREES,",
  "NEUTRAL CHESS KNIGHT ROTATED FORTY-FIVE DEGREES;1FA09,yCHESS ,KING ROTATED NINETY DEGREES,",
  "QUEEN ROTATED NINETY DEGREES,ROOK ROTATED NINETY DEGREES,BISHOP ROTATED NINETY DEGREES,",
  "KNIGHT ROTATED NINETY DEGREES,PAWN ROTATED NINETY DEGREES;",
  "1FA0F,eCHESS ,KING ROTATED NINETY DEGREES,QUEEN ROTATED NINETY DEGREES,",
  "ROOK ROTATED NINETY DEGREES,BISHOP ROTATED NINETY DEGREES,KNIGHT ROTATED NINETY DEGREES,",
  "PAWN ROTATED NINETY DEGREES;1FA15,NEUTRAL CHESS ,KING ROTATED NINETY DEGREES,",
  "QUEEN ROTATED NINETY DEGREES,ROOK ROTATED NINETY DEGREES,BISHOP ROTATED NINETY DEGREES,",
  "KNIGHT ROTATED NINETY DEGREES,PAWN ROTATED NINETY DEGREES;",
  "1FA1B,,yCHESS KNIGHT ROTATED ONE HUNDRED THIRTY-FIVE DEGREES,",
  "eCHESS KNIGHT ROTATED ONE HUNDRED THIRTY-FIVE DEGREES,",
  "NEUTRAL CHESS KNIGHT ROTATED ONE HUNDRED THIRTY-FIVE DEGREES;1FA1E,yCHESS TURNED ,KING,QUEEN,",
  "ROOK,BISHOP,KNIGHT,PAWN;1FA24,eCHESS TURNED ,KING,QUEEN,ROOK,BISHOP,KNIGHT,PAWN;",
  "1FA2A,NEUTRAL CHESS TURNED ,KING,QUEEN,ROOK,BISHOP,KNIGHT,PAWN;",
  "1FA30,,yCHESS KNIGHT ROTATED TWO HUNDRED TWENTY-FIVE DEGREES,",
  "eCHESS KNIGHT ROTATED TWO HUNDRED TWENTY-FIVE DEGREES,",
  "NEUTRAL CHESS KNIGHT ROTATED TWO HUNDRED TWENTY-FIVE DEGREES;",
  "1FA33,yCHESS ,KING ROTATED TWO HUNDRED SEVENTY DEGREES,",
  "QUEEN ROTATED TWO HUNDRED SEVENTY DEGREES,ROOK ROTATED TWO HUNDRED SEVENTY DEGREES,",
  "BISHOP ROTATED TWO HUNDRED SEVENTY DEGREES,KNIGHT ROTATED TWO HUNDRED SEVENTY DEGREES,",
  "PAWN ROTATED TWO HUNDRED SEVENTY DEGREES;",
  "1FA39,eCHESS ,KING ROTATED TWO HUNDRED SEVENTY DEGREES,",
  "QUEEN ROTATED TWO HUNDRED SEVENTY DEGREES,ROOK ROTATED TWO HUNDRED SEVENTY DEGREES,",
  "BISHOP ROTATED TWO HUNDRED SEVENTY DEGREES,KNIGHT ROTATED TWO HUNDRED SEVENTY DEGREES,",
  "PAWN ROTATED TWO HUNDRED SEVENTY DEGREES;",
  "1FA3F,NEUTRAL CHESS ,KING ROTATED TWO HUNDRED SEVENTY DEGREES,",
  "QUEEN ROTATED TWO HUNDRED SEVENTY DEGREES,ROOK ROTATED TWO HUNDRED SEVENTY DEGREES,",
  "BISHOP ROTATED TWO HUNDRED SEVENTY DEGREES,KNIGHT ROTATED TWO HUNDRED SEVENTY DEGREES,",
  "PAWN ROTATED TWO HUNDRED SEVENTY DEGREES;",
  "1FA45,,yCHESS KNIGHT ROTATED THREE HUNDRED FIFTEEN DEGREES,",
  "eCHESS KNIGHT ROTATED THREE HUNDRED FIFTEEN DEGREES,",
  "NEUTRAL CHESS KNIGHT ROTATED THREE HUNDRED FIFTEEN DEGREES,yCHESS EQUIHOPPER,eCHESS EQUIHOPPER,",
  "NEUTRAL CHESS EQUIHOPPER,yCHESS EQUIHOPPER ROTATED NINETY DEGREES,",
  "eCHESS EQUIHOPPER ROTATED NINETY DEGREES,NEUTRAL CHESS EQUIHOPPER ROTATED NINETY DEGREES;",
  "1FA4E,yCHESS KNIGHT-,QUEEN,ROOK,BISHOP;1FA51,eCHESS KNIGHT-,QUEEN,ROOK,BISHOP;",
  "1FA60,XIANGQI RED ,GENERAL,MANDARIN,ELEPHANT,HORSE,CHARIOT,CANNON,SOLDIER;",
  "1FA67,XIANGQI e,GENERAL,MANDARIN,ELEPHANT,HORSE,CHARIOT,CANNON,SOLDIER;1FA70,,BALLET SHOES,",
  "ONE-PIECE SWIMSUIT,BRIEFS,SHORTS,THONG SANDAL;1FA78,,DROP OF BLOOD,ADHESIVE BANDAGE,",
  "STETHOSCOPE,X-RAY,CRUTCH;1FA80,,YO-YO,KITE,PARACHUTE,BOOMERANG,MAGIC WAND,PINATA,NESTING DOLLS;",
  "1FA90,,RINGED PLANET,CHAIR,RAZOR,AXE,DIYA LAMP,BANJO,MILITARY HELMET,ACCORDION,LONG DRUM,COIN,",
  "CARPENTRY SAW,SCREWDRIVER,LADDER,HOOK,MIRROR,WINDOW,PLUNGER,SEWING NEEDLE,KNOT,BUCKET,",
  "MOUSE TRAP,TOOTHBRUSH,HEADSTONE,PLACARD,ROCK,MIRROR BALL,IDENTIFICATION CARD,LOW BATTERY,HAMSA;",
  "1FAB0,,FLY,WORM,BEETLE,COCKROACH,POTTED PLANT,WOOD,FEATHER,LOTUS,CORAL,EMPTY NEST,NEST zEGGS;",
  "1FAC0,,ANATOMICAL HEART,LUNGS,PEOPLE HUGGING,PREGNANT MAN,PREGNANT PERSON,PERSON zCROWN;",
  "1FAD0,,BLUEBERRIES,BELL PEPPER,OLIVE,FLATBREAD,TAMALE,FONDUE,TEAPOT,POURING LIQUID,BEANS,JAR;",
  "1FAE0,,MELTING FACE,SALUTING FACE,FACE zOPEN EYES bHAND OVER MOUTH,FACE zPEEKING EYE,",
  "FACE zDIAGONAL MOUTH,DOTTED LINE FACE,BITING LIP,BUBBLES;",
  "1FAF0,,HAND zINDEX FINGER bTHUMB CROSSED,rHAND,lHAND,PALM DOWN HAND,PALM UP HAND,",
  "INDEX pAT THE VIEWER,HEART HANDS;1FB00,BLOCK SEXTANT-,1,2,12,3,13,23,123,4,14,24,124,34,134,",
  "234,1234,5,15,25,125,35,235,1235,45,145,245,1245,345,1345,2345,12345,6,16,26,126,36,136,236,",
  "1236,46,146,1246,346,1346,2346,12346,56,156,256,1256,356,1356,2356,12356,456,1456,2456,12456,",
  "3456,13456,23456;1FB3C,LOWER kBLOCK DIAGONAL ,LOWER okTO LOWER CENTRE,LOWER okTO LOWER RIGHT,",
  "UPPER okTO LOWER CENTRE,UPPER okTO LOWER RIGHT,UPPER kTO LOWER CENTRE;",
  "1FB41,LOWER qBLOCK DIAGONAL UPPER okTO UPPER ,CENTRE,RIGHT;",
  "1FB43,LOWER qBLOCK DIAGONAL LOWER ,okTO UPPER CENTRE,okTO UPPER RIGHT,kTO UPPER CENTRE,",
  "okTO UPPER oRIGHT,CENTRE TO LOWER oRIGHT,kTO LOWER oRIGHT,CENTRE TO UPPER oRIGHT,",
  "kTO UPPER oRIGHT,CENTRE TO UPPER RIGHT;",
  "1FB4C,LOWER kBLOCK DIAGONAL UPPER ,CENTRE TO UPPER oRIGHT,kTO UPPER oRIGHT,",
  "CENTRE TO LOWER oRIGHT,kTO LOWER oRIGHT,CENTRE TO LOWER RIGHT,okTO LOWER oRIGHT;",
  "1FB52,UPPER qBLOCK DIAGONAL ,LOWER okTO LOWER CENTRE,LOWER okTO LOWER RIGHT,",
  "UPPER okTO LOWER CENTRE,UPPER okTO LOWER RIGHT,UPPER kTO LOWER CENTRE;",
  "1FB57,UPPER kBLOCK DIAGONAL UPPER okTO UPPER ,CENTRE,RIGHT;",
  "1FB59,UPPER kBLOCK DIAGONAL LOWER ,okTO UPPER CENTRE,okTO UPPER RIGHT,kTO UPPER CENTRE,",
  "okTO UPPER oRIGHT,CENTRE TO LOWER oRIGHT,kTO LOWER oRIGHT,CENTRE TO UPPER oRIGHT,",
  "kTO UPPER oRIGHT,CENTRE TO UPPER RIGHT;",
  "1FB62,UPPER qBLOCK DIAGONAL UPPER ,CENTRE TO UPPER oRIGHT,kTO UPPER oRIGHT,",
  "CENTRE TO LOWER oRIGHT,kTO LOWER oRIGHT,CENTRE TO LOWER RIGHT,okTO LOWER oRIGHT;",
  "1FB68,,UPPER bqbLOWER TRIANGULAR THREE QUARTERS BLOCK,",
  "kbLOWER bqTRIANGULAR THREE QUARTERS BLOCK,UPPER bkbLOWER TRIANGULAR THREE QUARTERS BLOCK,",
  "kbUPPER bqTRIANGULAR THREE QUARTERS BLOCK,kTRIANGULAR ONE QUARTER BLOCK,",
  "UPPER TRIANGULAR ONE QUARTER BLOCK,qTRIANGULAR ONE QUARTER BLOCK,",
  "LOWER TRIANGULAR ONE QUARTER BLOCK;1FB70,wONE EIGHTH BLOCK-,2,3,4,5,6,7;",
  "1FB76,HORIZONTAL ONE EIGHTH BLOCK-,2,3,4,5,6,7;1FB7C,,kbLOWER ONE EIGHTH BLOCK,",
  "kbUPPER ONE EIGHTH BLOCK,qbUPPER ONE EIGHTH BLOCK,qbLOWER ONE EIGHTH BLOCK,",
  "UPPER bLOWER ONE EIGHTH BLOCK,HORIZONTAL ONE EIGHTH BLOCK-1358;1FB82,UPPER ,ONE QUARTER BLOCK,",
  "THREE EIGHTHS BLOCK,FIVE EIGHTHS BLOCK,THREE QUARTERS BLOCK,SEVEN EIGHTHS BLOCK;",
  "1FB87,,qONE QUARTER BLOCK,qTHREE EIGHTHS BLOCK,qFIVE EIGHTHS BLOCK,qTHREE QUARTERS BLOCK,",
  "qSEVEN EIGHTHS BLOCK,kHALF MEDIUM SHADE,qHALF MEDIUM SHADE,UPPER HALF MEDIUM SHADE,",
  "LOWER HALF MEDIUM SHADE,INVERSE MEDIUM SHADE;",
  "1FB91,UPPER HALF ,BLOCK bLOWER HALF INVERSE MEDIUM SHADE,",
  "INVERSE MEDIUM SHADE bLOWER HALF BLOCK;1FB94,,kHALF INVERSE MEDIUM SHADE bqHALF BLOCK,",
  "CHECKER BOARD FILL,INVERSE CHECKER BOARD FILL,HEAVY HORIZONTAL FILL,UPPER kTO LOWER qFILL,",
  "UPPER qTO LOWER kFILL,UPPER bLOWER TRIANGULAR HALF BLOCK,kbqTRIANGULAR HALF BLOCK,",
  "UPPER kTRIANGULAR MEDIUM SHADE,UPPER qTRIANGULAR MEDIUM SHADE,LOWER qTRIANGULAR MEDIUM SHADE,",
  "LOWER kTRIANGULAR MEDIUM SHADE;1FBA0,BOX DRAWINGS LIGHT DIAGONAL ,UPPER CENTRE TO oLEFT,",
  "UPPER CENTRE TO oRIGHT,okTO LOWER CENTRE,oqTO LOWER CENTRE,UPPER CENTRE TO okTO LOWER CENTRE,",
  "UPPER CENTRE TO oqTO LOWER CENTRE,okTO LOWER CENTRE TO oRIGHT,okTO UPPER CENTRE TO oRIGHT,",
  "UPPER CENTRE TO okboqTO LOWER CENTRE,UPPER CENTRE TO oqbokTO LOWER CENTRE,",
  "UPPER CENTRE TO oqTO LOWER CENTRE TO oLEFT,UPPER CENTRE TO okTO LOWER CENTRE TO oRIGHT,",
  "okTO UPPER CENTRE TO oqTO LOWER CENTRE,oqTO UPPER CENTRE TO okTO LOWER CENTRE,DIAMOND;",
  "1FBAF,,BOX DRAWINGS LIGHT HORIZONTAL zwSTROKE,cHEAD-SHAPED POINTER,INVERSE CHECK MARK,",
  "kHALF RUNNING MAN,qHALF RUNNING MAN,INVERSE DOWNWARDS c zTIP LEFTWARDS,",
  "lc bUPPER bLOWER ONE EIGHTH BLOCK,rc bUPPER bLOWER ONE EIGHTH BLOCK,",
  "DOWNWARDS c bqONE EIGHTH BLOCK,UPWARDS c bqONE EIGHTH BLOCK,kHALF FOLDER,qHALF FOLDER,",
  "VOIDED GREEK CROSS,qOPEN SQUARED DOT;1FBBD,NEGATIVE DIAGONAL ,CROSS,oqTO LOWER CENTRE,DIAMOND;",
  "1FBC0,,yHEAVY SALTIRE zROUNDED CORNERS,kTHIRD yqpINDEX,oTHIRD yqpINDEX,qTHIRD yqpINDEX,",
  "NEGATIVE SQUARED QUESTION MARK,STICK FIGURE;1FBC6,STICK FIGURE ,zARMS RAISED,LEANING LEFT,",
  "LEANING RIGHT,zDRESS;1FBCA,,yUP-pCHEVRON;1FBF0,SEGMENTED DIGIT ,ZERO,ONE,TWO,THREE,FOUR,FIVE,",
  "SIX,SEVEN,EIGHT,NINE;E0001,,LANGUAGE TAG;E0020,TAG ,SPACE,EXCLAMATION MARK,QUOTATION MARK,",
  "NUMBER SIGN,DOLLAR SIGN,PERCENT SIGN,AMPERSAND,APOSTROPHE,kPARENTHESIS,qPARENTHESIS,ASTERISK,",
  "PLUS SIGN,COMMA,HYPHEN-MINUS,FULL STOP,SOLIDUS;E0030,TAG DIGIT ,ZERO,ONE,TWO,THREE,FOUR,FIVE,",
  "SIX,SEVEN,EIGHT,NINE;E003A,TAG ,COLON,SEMICOLON,LESS-THAN SIGN,EQUALS SIGN,GREATER-THAN SIGN,",
  "QUESTION MARK,COMMERCIAL AT;E0041,TAG LATIN fm,A,B,C,D,E,F,G,H,I,J,K,L,M,N,O,P,Q,R,S,T,U,V,W,X,",
  "Y,Z;E005B,TAG ,kSQUARE BRACKET,REVERSE SOLIDUS,qSQUARE BRACKET,CIRCUMFLEX ACCENT,LOW LINE,",
  "GRAVE ACCENT;E0061,TAG LATIN tm,A,B,C,D,E,F,G,H,I,J,K,L,M,N,O,P,Q,R,S,T,U,V,W,X,Y,Z;",
  "E007B,TAG ,kCURLY BRACKET,wLINE,qCURLY BRACKET,TILDE;E007F,,CANCEL TAG;",
  "E0100,VARIATION SELECTOR-,17,18,19,20,21,22,23,24,25,26,27,28,29,30,31,32,33,34,35,36,37,38,39,",
  "40,41,42,43,44,45,46,47,48,49,50,51,52,53,54,55,56,57,58,59,60,61,62,63,64,65,66,67,68,69,70,",
  "71,72,73,74,75,76,77,78,79,80,81,82,83,84,85,86,87,88,89,90,91,92,93,94,95,96,97,98,99,100,101,",
  "102,103,104,105,106,107,108,109,110,111,112,113,114,115,116,117,118,119,120,121,122,123,124,",
  "125,126,127,128,129,130,131,132,133,134,135,136,137,138,139,140,141,142,143,144,145,146,147,",
  "148,149,150,151,152,153,154,155,156,157,158,159,160,161,162,163,164,165,166,167,168,169,170,",
  "171,172,173,174,175,176,177,178,179,180,181,182,183,184,185,186,187,188,189,190,191,192,193,",
  "194,195,196,197,198,199,200,201,202,203,204,205,206,207,208,209,210,211,212,213,214,215,216,",
  "217,218,219,220,221,222,223,224,225,226,227,228,229,230,231,232,233,234,235,236,237,238,239,",
  "240,241,242,243,244,245,246,247,248,249,250,251,252,253,254,255,256"]

end CharacterName

end SearchBridge
