import LineTally.Charset.CharNames.Basic

namespace LineTally.CharNames

/-!
# Names of syllables

The names of the characters from 0x3000 to 0xFFFF: the kana and other
syllabaries, additions to the alphabets, and the presentation forms.
-/

/-- The names of these characters, in their order. -/
def syllables : List NameRun :=
  [ ⟨0x3000, "",
      ["IDEOGRAPHIC SPACE,aCOMMA,aFULL STOP,DITTO MARK,JAPANESE INDUSTRIAL STANDARD SYMBOL",
       "IDEOGRAPHIC ITERATION MARK,aCLOSINGa,aNUMBER ZERO,LEFT ANGLE BRACKET,RIGHTb",
       "LEFT DOUBLEb,RIGHTc,LEFT CORNERa,RIGHTb,LEFT WHITEb,RIGHTc,LEFT BLACK LENTICULARa",
       "RIGHTc,POSTAL MARK,GETAa,LEFT TORTOISE SHELL BRACKET,RIGHTc,LEFT WHITE LENTICULARa",
       "RIGHTc,LEFT WHITE TORTOISE SHELLa,RIGHTd,LEFT WHITE SQUAREa,RIGHTc,WAVE DASH",
       "REVERSED DOUBLE PRIME QUOTATION MARK,DOUBLE PRIME QUOTATION MARK,LOWd,POSTAL MARK FACE"]⟩,
    ⟨0x3021, "HANGZHOU NUMERAL ",
      ["ONE,TWO,THREE,FOUR,FIVE,SIX,SEVEN,EIGHT,NINE"]⟩,
    ⟨0x302A, "IDEOGRAPHIC ",
      ["LEVEL TONE MARK,RISINGb,DEPARTINGb,ENTERINGb"]⟩,
    ⟨0x302E, "HANGUL ",
      ["SINGLE DOT TONE MARK,DOUBLEc"]⟩,
    ⟨0x3030, "WAVY ",
      ["DASH"]⟩,
    ⟨0x3031, "VERTICAL KANA REPEAT ",
      ["MARK,WITH VOICED SOUNDa,MARK UPPER HALF,WITH VOICED SOUNDc,MARK LOWERa"]⟩,
    ⟨0x3036, "",
      ["CIRCLED POSTAL MARK,IDEOGRAPHIC TELEGRAPH LINE FEED SEPARATOR SYMBOL",
       "HANGZHOU NUMERAL TEN,bTWENTY,bTHIRTY,VERTICAL IDEOGRAPHIC ITERATION MARK,MASUa",
       "PART ALTERNATIONa"]⟩,
    ⟨0x303E, "IDEOGRAPHIC ",
      ["VARIATION INDICATOR,HALF FILL SPACE"]⟩,
    ⟨0x3041, "HIRAGANA LETTER ",
      ["SMALL A,A,SMALL I,I,SMALL U,U,SMALL E,E,SMALL O,O,KA,GA,KI,GI,KU,GU,KE,GE,KO,GO,SA,ZA",
       "SI,ZI,SU,ZU,SE,ZE,SO,ZO,TA,DA,TI,DI,SMALL TU,TU,DU,TE,DE,TO,DO,NA,NI,NU,NE,NO,HA,BA,PA",
       "HI,BI,PI,HU,BU,PU,HE,BE,PE,HO,BO,PO,MA,MI,MU,ME,MO,SMALL YA,YA,SMALL YU,YU,SMALL YO,YO",
       "RA,RI,RU,RE,RO,SMALL WA,WA,WI,WE,WO,N,VU,SMALL KA,aKE"]⟩,
    ⟨0x3099, "COMBINING KATAKANA-HIRAGANA ",
      ["VOICED SOUND MARK,SEMI-VOICEDb"]⟩,
    ⟨0x309B, "KATAKANA-HIRAGANA ",
      ["VOICED SOUND MARK,SEMI-VOICEDb"]⟩,
    ⟨0x309D, "HIRAGANA ",
      ["ITERATION MARK,VOICEDb,DIGRAPH YORI"]⟩,
    ⟨0x30A0, "KATAKANA-HIRAGANA DOUBLE ",
      ["HYPHEN"]⟩,
    ⟨0x30A1, "KATAKANA LETTER ",
      ["SMALL A,A,SMALL I,I,SMALL U,U,SMALL E,E,SMALL O,O,KA,GA,KI,GI,KU,GU,KE,GE,KO,GO,SA,ZA",
       "SI,ZI,SU,ZU,SE,ZE,SO,ZO,TA,DA,TI,DI,SMALL TU,TU,DU,TE,DE,TO,DO,NA,NI,NU,NE,NO,HA,BA,PA",
       "HI,BI,PI,HU,BU,PU,HE,BE,PE,HO,BO,PO,MA,MI,MU,ME,MO,SMALL YA,YA,SMALL YU,YU,SMALL YO,YO",
       "RA,RI,RU,RE,RO,SMALL WA,WA,WI,WE,WO,N,VU,SMALL KA,aKE,VA,VI,VE,VO"]⟩,
    ⟨0x30FB, "KATAKANA MIDDLE ",
      ["DOT"]⟩,
    ⟨0x30FC, "KATAKANA-HIRAGANA PROLONGED SOUND ",
      ["MARK"]⟩,
    ⟨0x30FD, "KATAKANA ",
      ["ITERATION MARK,VOICEDb,DIGRAPH KOTO"]⟩,
    ⟨0x3105, "BOPOMOFO LETTER ",
      ["B,P,M,F,D,T,N,L,G,K,H,J,Q,X,ZH,CH,SH,R,Z,C,S,A,O,E,EH,AI,EI,AU,OU,AN,EN,ANG,ENG,ER,I,U",
       "IU,V,NG,GN,IH,O WITH DOT ABOVE,NN"]⟩,
    ⟨0x3131, "HANGUL LETTER ",
      ["KIYEOK,SSANGKIYEOK,KIYEOK-SIOS,NIEUN,NIEUN-CIEUC,NIEUN-HIEUH,TIKEUT,SSANGTIKEUT,RIEUL",
       "RIEUL-KIYEOK,RIEUL-MIEUM,RIEUL-PIEUP,RIEUL-SIOS,RIEUL-THIEUTH,RIEUL-PHIEUPH,RIEUL-HIEUH",
       "MIEUM,PIEUP,SSANGPIEUP,PIEUP-SIOS,SIOS,SSANGSIOS,IEUNG,CIEUC,SSANGCIEUC,CHIEUCH,KHIEUKH",
       "THIEUTH,PHIEUPH,HIEUH,A,AE,YA,YAE,EO,E,YEO,YE,O,WA,WAE,OE,YO,U,WEO,WE,WI,YU,EU,YI,I"]⟩,
    ⟨0x3164, "HANGUL ",
      ["FILLER"]⟩,
    ⟨0x3165, "HANGUL LETTER ",
      ["SSANGNIEUN,NIEUN-TIKEUT,NIEUN-SIOS,NIEUN-PANSIOS,RIEUL-KIYEOK-SIOS,RIEUL-TIKEUT",
       "RIEUL-PIEUP-SIOS,RIEUL-PANSIOS,RIEUL-YEORINHIEUH,MIEUM-PIEUP,MIEUM-SIOS,MIEUM-PANSIOS",
       "KAPYEOUNMIEUM,PIEUP-KIYEOK,PIEUP-TIKEUT,PIEUP-SIOS-KIYEOK,PIEUP-SIOS-TIKEUT,PIEUP-CIEUC",
       "PIEUP-THIEUTH,KAPYEOUNPIEUP,KAPYEOUNSSANGPIEUP,SIOS-KIYEOK,SIOS-NIEUN,SIOS-TIKEUT",
       "SIOS-PIEUP,SIOS-CIEUC,PANSIOS,SSANGIEUNG,YESIEUNG,YESIEUNG-SIOS,YESIEUNG-PANSIOS",
       "KAPYEOUNPHIEUPH,SSANGHIEUH,YEORINHIEUH,YO-YA,YO-YAE,YO-I,YU-YEO,YU-YE,YU-I,ARAEA,ARAEAE"]⟩,
    ⟨0x3190, "IDEOGRAPHIC ANNOTATION ",
      ["LINKING MARK,REVERSEa,ONEa,TWOa,THREEa,FOURa,TOPa,MIDDLEa,BOTTOMa,FIRSTa,SECONDa,THIRDa",
       "FOURTHa,HEAVENa,EARTHa,MANa"]⟩,
    ⟨0x31A0, "BOPOMOFO ",
      ["LETTER BU,aZI,aJI,aGU,aEE,aENN,aOO,aONN,aIR,aANN,aINN,aUNN,aIM,aNGG,aAINN,aAUNN,aAM,aOM",
       "aONG,aINNN,FINAL LETTER P,bT,bK,bH,LETTER GH,aLH,aZY,FINAL LETTER G,LETTER GW,aKW,aOE",
       "aAH"]⟩,
    ⟨0x31C0, "CJK STROKE ",
      ["T,WG,XG,BXG,SW,HZZ,HZG,HP,HZWG,SZWG,HZT,HZZP,HPWG,HZW,HZZZ,N,H,S,P,SP,D,HZ,HG,SZ,SWZ,ST",
       "SG,PD,PZ,TN,SZZ,SWG,HXWG,HZZZG,PG,Q"]⟩,
    ⟨0x31F0, "KATAKANA LETTER SMALL ",
      ["KU,SI,SU,TO,NU,HA,HI,HU,HE,HO,MU,RA,RI,RU,RE,RO"]⟩,
    ⟨0x3200, "PARENTHESIZED ",
      ["HANGUL KIYEOK,aNIEUN,aTIKEUT,aRIEUL,aMIEUM,aPIEUP,aSIOS,aIEUNG,aCIEUC,aCHIEUCH,aKHIEUKH",
       "aTHIEUTH,aPHIEUPH,aHIEUH,aKIYEOK A,aNIEUNa,aTIKEUTa,aRIEULa,aMIEUMa,aPIEUPa,aSIOSa",
       "aIEUNGa,aCIEUCa,aCHIEUCHa,aKHIEUKHa,aTHIEUTHa,aPHIEUPHa,aHIEUHa,aCIEUC U",
       "KOREAN CHARACTER OJEON,bO HU"]⟩,
    ⟨0x3220, "PARENTHESIZED IDEOGRAPH ",
      ["ONE,TWO,THREE,FOUR,FIVE,SIX,SEVEN,EIGHT,NINE,TEN,MOON,FIRE,WATER,WOOD,METAL,EARTH,SUN",
       "STOCK,HAVE,SOCIETY,NAME,SPECIAL,FINANCIAL,CONGRATULATION,LABOR,REPRESENT,CALL,STUDY",
       "SUPERVISE,ENTERPRISE,RESOURCE,ALLIANCE,FESTIVAL,REST,SELF,REACH"]⟩,
    ⟨0x3244, "CIRCLED ",
      ["IDEOGRAPH QUESTION,aKINDERGARTEN,aSCHOOL,aKOTO,NUMBER TEN ON BLACK SQUARE,aTWENTYc",
       "aTHIRTYc,aFORTYc,aFIFTYc,aSIXTYc,aSEVENTYc,aEIGHTYc"]⟩,
    ⟨0x3250, "PARTNERSHIP ",
      ["SIGN"]⟩,
    ⟨0x3251, "CIRCLED ",
      ["NUMBER TWENTY ONE,bTWO,bTHREE,bFOUR,bFIVE,bSIX,bSEVEN,bEIGHT,bNINE,aTHIRTY,bONE,bTWO",
       "bTHREE,bFOUR,bFIVE,HANGUL KIYEOK,aNIEUN,aTIKEUT,aRIEUL,aMIEUM,aPIEUP,aSIOS,aIEUNG",
       "aCIEUC,aCHIEUCH,aKHIEUKH,aTHIEUTH,aPHIEUPH,aHIEUH,aKIYEOK A,aNIEUNa,aTIKEUTa,aRIEULa",
       "aMIEUMa,aPIEUPa,aSIOSa,aIEUNGa,aCIEUCa,aCHIEUCHa,aKHIEUKHa,aTHIEUTHa,aPHIEUPHa,aHIEUHa",
       "KOREAN CHARACTER CHAMKO,bJUEUI,HANGUL IEUNG U"]⟩,
    ⟨0x327F, "KOREAN STANDARD ",
      ["SYMBOL"]⟩,
    ⟨0x3280, "CIRCLED IDEOGRAPH ",
      ["ONE,TWO,THREE,FOUR,FIVE,SIX,SEVEN,EIGHT,NINE,TEN,MOON,FIRE,WATER,WOOD,METAL,EARTH,SUN",
       "STOCK,HAVE,SOCIETY,NAME,SPECIAL,FINANCIAL,CONGRATULATION,LABOR,SECRET,MALE,FEMALE",
       "SUITABLE,EXCELLENT,PRINT,ATTENTION,ITEM,REST,COPY,CORRECT,HIGH,CENTRE,LOW,LEFT,RIGHT",
       "MEDICINE,RELIGION,STUDY,SUPERVISE,ENTERPRISE,RESOURCE,ALLIANCE,NIGHT"]⟩,
    ⟨0x32B1, "CIRCLED NUMBER ",
      ["THIRTY SIX,aSEVEN,aEIGHT,aNINE,FORTY,aONE,aTWO,aTHREE,aFOUR,aFIVE,aSIX,aSEVEN,aEIGHT",
       "aNINE,FIFTY"]⟩,
    ⟨0x32C0, "IDEOGRAPHIC TELEGRAPH SYMBOL FOR ",
      ["JANUARY,FEBRUARY,MARCH,APRIL,MAY,JUNE,JULY,AUGUST,SEPTEMBER,OCTOBER,NOVEMBER,DECEMBER"]⟩,
    ⟨0x32CC, "SQUARE ",
      ["HG,ERG,EV"]⟩,
    ⟨0x32CF, "LIMITED LIABILITY ",
      ["SIGN"]⟩,
    ⟨0x32D0, "CIRCLED KATAKANA ",
      ["A,I,U,E,O,KA,KI,KU,KE,KO,SA,SI,SU,SE,SO,TA,TI,TU,TE,TO,NA,NI,NU,NE,NO,HA,HI,HU,HE,HO,MA",
       "MI,MU,ME,MO,YA,YU,YO,RA,RI,RU,RE,RO,WA,WI,WE,WO"]⟩,
    ⟨0x32FF, "SQUARE ",
      ["ERA NAME REIWA,APAATO,ARUHUA,ANPEA,AARU,ININGU,INTI,UON,ESUKUUDO,EEKAA,ONSU,OOMU,KAIRI",
       "KARATTO,KARORII,GARON,GANMA,GIGA,GINII,KYURII,GIRUDAA,KIRO,KIROGURAMU,KIROMEETORU",
       "KIROWATTO,GURAMU,GURAMUTON,KURUZEIRO,KUROONE,KEESU,KORUNA,KOOPO,SAIKURU,SANTIIMU",
       "SIRINGU,SENTI,SENTO,DAASU,DESI,DORU,TON,NANO,NOTTO,HAITU,PAASENTO,PAATU,BAARERU",
       "PIASUTORU,PIKURU,PIKO,BIRU,HUARADDO,HUIITO,BUSSYERU,HURAN,HEKUTAARU,PESO,PENIHI,HERUTU",
       "PENSU,PEEZI,BEETA,POINTO,BORUTO,HON,PONDO,HOORU,HOON,MAIKURO,MAIRU,MAHHA,MARUKU,MANSYON",
       "MIKURON,MIRI,MIRIBAARU,MEGA,MEGATON,MEETORU,YAADO,YAARU,YUAN,RITTORU,RIRA,RUPII,RUUBURU",
       "REMU,RENTOGEN,WATTO"]⟩,
    ⟨0x3358, "IDEOGRAPHIC TELEGRAPH SYMBOL FOR HOUR ",
      ["ZERO,ONE,TWO,THREE,FOUR,FIVE,SIX,SEVEN,EIGHT,NINE,TEN,ELEVEN,TWELVE,THIRTEEN,FOURTEEN",
       "FIFTEEN,SIXTEEN,SEVENTEEN,EIGHTEEN,NINETEEN,TWENTY,TWENTY-ONE,TWENTY-TWO,TWENTY-THREE",
       "TWENTY-FOUR"]⟩,
    ⟨0x3371, "SQUARE ",
      ["HPA,DA,AU,BAR,OV,PC,DM,aSQUARED,aCUBED,IU,ERA NAME HEISEI,bSYOUWA,bTAISYOU,bMEIZI",
       "CORPORATION,PA AMPS,NA,MU A,MA,KA,KB,MB,GB,CAL,KCAL,PF,NF,MU F,aG,MG,KG,HZ,KHZ,MHZ,GHZ",
       "THZ,MU L,ML,DL,KL,FM,NM,MU M,MM,CM,KM,MM SQUARED,CMa,Ma,KMa,MM CUBED,CMa,Ma,KMa",
       "M OVER S,cSQUARED,PA,KPA,MPA,GPA,RAD,aOVER S,cSQUARED,PS,NS,MU S,MS,PV,NV,MU V,MV,KV",
       "MV MEGA,PW,NW,MU W,MW,KW,MW MEGA,K OHM,Ma,AM,BQ,CC,CD,C OVER KG,CO,DB,GY,HA,HP,IN,KK",
       "KM CAPITAL,KT,LM,LN,LOG,LX,MB SMALL,MIL,MOL,PH,PM,PPM,PR,SR,SV,WB,V OVER M,Ab"]⟩,
    ⟨0x33E0, "IDEOGRAPHIC TELEGRAPH SYMBOL FOR DAY ",
      ["ONE,TWO,THREE,FOUR,FIVE,SIX,SEVEN,EIGHT,NINE,TEN,ELEVEN,TWELVE,THIRTEEN,FOURTEEN",
       "FIFTEEN,SIXTEEN,SEVENTEEN,EIGHTEEN,NINETEEN,TWENTY,TWENTY-ONE,TWENTY-TWO,TWENTY-THREE",
       "TWENTY-FOUR,TWENTY-FIVE,TWENTY-SIX,TWENTY-SEVEN,TWENTY-EIGHT,TWENTY-NINE,THIRTY",
       "THIRTY-ONE"]⟩,
    ⟨0x33FF, "SQUARE ",
      ["GAL"]⟩,
    ⟨0x4DC0, "HEXAGRAM FOR ",
      ["THE CREATIVE HEAVEN,aRECEPTIVE EARTH,DIFFICULTY AT THE BEGINNING,YOUTHFUL FOLLY,WAITING",
       "CONFLICT,THE ARMY,HOLDING TOGETHER,SMALL TAMING,TREADING,PEACE,STANDSTILL,FELLOWSHIP",
       "GREAT POSSESSION,MODESTY,ENTHUSIASM,FOLLOWING,WORK ON THE DECAYED,APPROACH",
       "CONTEMPLATION,BITING THROUGH,GRACE,SPLITTING APART,RETURN,INNOCENCE,GREAT TAMING",
       "MOUTH CORNERS,GREAT PREPONDERANCE,THE ABYSMAL WATER,aCLINGING FIRE,INFLUENCE,DURATION",
       "RETREAT,GREAT POWER,PROGRESS,DARKENING OF THE LIGHT,THE FAMILY,OPPOSITION,OBSTRUCTION",
       "DELIVERANCE,DECREASE,INCREASE,BREAKTHROUGH,COMING TO MEET,GATHERING TOGETHER",
       "PUSHING UPWARD,OPPRESSION,THE WELL,REVOLUTION,THE CAULDRON,aAROUSING THUNDER",
       "aKEEPING STILL MOUNTAIN,DEVELOPMENT,THE MARRYING MAIDEN,ABUNDANCE,THE WANDERER",
       "aGENTLE WIND,aJOYOUS LAKE,DISPERSION,LIMITATION,INNER TRUTH,SMALL PREPONDERANCE",
       "AFTER COMPLETION,BEFOREa"]⟩,
    ⟨0xA000, "YI SYLLABLE ",
      ["IT,IX,I,IP,IET,IEX,IE,IEP,AT,AX,A,AP,UOX,UO,UOP,OT,OX,O,OP,EX,E,WU,BIT,BIX,BI,BIP,BIET",
       "BIEX,BIE,BIEP,BAT,BAX,BA,BAP,BUOX,BUO,BUOP,BOT,BOX,BO,BOP,BEX,BE,BEP,BUT,BUX,BU,BUP",
       "BURX,BUR,BYT,BYX,BY,BYP,BYRX,BYR,PIT,PIX,PI,PIP,PIEX,PIE,PIEP,PAT,PAX,PA,PAP,PUOX,PUO",
       "PUOP,POT,POX,PO,POP,PUT,PUX,PU,PUP,PURX,PUR,PYT,PYX,PY,PYP,PYRX,PYR,BBIT,BBIX,BBI,BBIP",
       "BBIET,BBIEX,BBIE,BBIEP,BBAT,BBAX,BBA,BBAP,BBUOX,BBUO,BBUOP,BBOT,BBOX,BBO,BBOP,BBEX,BBE",
       "BBEP,BBUT,BBUX,BBU,BBUP,BBURX,BBUR,BBYT,BBYX,BBY,BBYP,NBIT,NBIX,NBI,NBIP,NBIEX,NBIE",
       "NBIEP"]⟩,
    ⟨0xA07D, "YI SYLLABLE ",
      ["NBAT,NBAX,NBA,NBAP,NBOT,NBOX,NBO,NBOP,NBUT,NBUX,NBU,NBUP,NBURX,NBUR,NBYT,NBYX,NBY,NBYP",
       "NBYRX,NBYR,HMIT,HMIX,HMI,HMIP,HMIEX,HMIE,HMIEP,HMAT,HMAX,HMA,HMAP,HMUOX,HMUO,HMUOP,HMOT",
       "HMOX,HMO,HMOP,HMUT,HMUX,HMU,HMUP,HMURX,HMUR,HMYX,HMY,HMYP,HMYRX,HMYR,MIT,MIX,MI,MIP",
       "MIEX,MIE,MIEP,MAT,MAX,MA,MAP,MUOT,MUOX,MUO,MUOP,MOT,MOX,MO,MOP,MEX,ME,MUT,MUX,MU,MUP",
       "MURX,MUR,MYT,MYX,MY,MYP,FIT,FIX,FI,FIP,FAT,FAX,FA,FAP,FOX,FO,FOP,FUT,FUX,FU,FUP,FURX",
       "FUR,FYT,FYX,FY,FYP,VIT,VIX,VI,VIP,VIET,VIEX,VIE,VIEP,VAT,VAX,VA,VAP,VOT,VOX,VO,VOP,VEX",
       "VEP,VUT,VUX,VU,VUP,VURX,VUR,VYT,VYX,VY,VYP,VYRX,VYR,DIT,DIX,DI,DIP,DIEX,DIE,DIEP,DAT",
       "DAX,DA,DAP,DUOX,DUO,DOT,DOX,DO,DOP,DEX,DE,DEP,DUT,DUX,DU,DUP,DURX,DUR,TIT,TIX,TI,TIP",
       "TIEX,TIE,TIEP,TAT,TAX,TA,TAP,TUOT,TUOX,TUO,TUOP,TOT,TOX,TO,TOP,TEX,TE,TEP,TUT,TUX,TU",
       "TUP,TURX,TUR,DDIT,DDIX,DDI,DDIP,DDIEX,DDIE,DDIEP,DDAT,DDAX,DDA,DDAP,DDUOX,DDUO,DDUOP",
       "DDOT,DDOX,DDO,DDOP,DDEX,DDE,DDEP,DDUT,DDUX,DDU,DDUP,DDURX,DDUR,NDIT,NDIX,NDI,NDIP,NDIEX",
       "NDIE,NDAT,NDAX,NDA,NDAP,NDOT,NDOX,NDO,NDOP,NDEX,NDE,NDEP,NDUT,NDUX,NDU,NDUP,NDURX,NDUR",
       "HNIT,HNIX,HNI,HNIP,HNIET,HNIEX,HNIE,HNIEP,HNAT,HNAX,HNA,HNAP,HNUOX,HNUO,HNOT,HNOX,HNOP",
       "HNEX,HNE,HNEP,HNUT,NIT,NIX,NI,NIP"]⟩,
    ⟨0xA181, "YI SYLLABLE ",
      ["NIEX,NIE,NIEP,NAX,NA,NAP,NUOX,NUO,NUOP,NOT,NOX,NO,NOP,NEX,NE,NEP,NUT,NUX,NU,NUP,NURX",
       "NUR,HLIT,HLIX,HLI,HLIP,HLIEX,HLIE,HLIEP,HLAT,HLAX,HLA,HLAP,HLUOX,HLUO,HLUOP,HLOX,HLO",
       "HLOP,HLEX,HLE,HLEP,HLUT,HLUX,HLU,HLUP,HLURX,HLUR,HLYT,HLYX,HLY,HLYP,HLYRX,HLYR,LIT,LIX",
       "LI,LIP,LIET,LIEX,LIE,LIEP,LAT,LAX,LA,LAP,LUOT,LUOX,LUO,LUOP,LOT,LOX,LO,LOP,LEX,LE,LEP",
       "LUT,LUX,LU,LUP,LURX,LUR,LYT,LYX,LY,LYP,LYRX,LYR,GIT,GIX,GI,GIP,GIET,GIEX,GIE,GIEP,GAT",
       "GAX,GA,GAP,GUOT,GUOX,GUO,GUOP,GOT,GOX,GO,GOP,GET,GEX,GE,GEP,GUT,GUX,GU,GUP,GURX,GUR,KIT",
       "KIX,KI,KIP,KIEX,KIE,KIEP,KAT,KAX,KA,KAP,KUOX,KUO,KUOP,KOT,KOX,KO,KOP,KET,KEX,KE,KEP,KUT",
       "KUX,KU,KUP,KURX,KUR,GGIT,GGIX,GGI,GGIEX,GGIE,GGIEP,GGAT,GGAX,GGA,GGAP,GGUOT,GGUOX,GGUO",
       "GGUOP,GGOT,GGOX,GGO,GGOP,GGET,GGEX,GGE,GGEP,GGUT,GGUX,GGU,GGUP,GGURX,GGUR,MGIEX,MGIE",
       "MGAT,MGAX,MGA,MGAP,MGUOX,MGUO,MGUOP,MGOT,MGOX,MGO,MGOP,MGEX,MGE,MGEP,MGUT,MGUX,MGU,MGUP",
       "MGURX,MGUR,HXIT,HXIX,HXI,HXIP,HXIET,HXIEX,HXIE,HXIEP,HXAT,HXAX,HXA,HXAP,HXUOT,HXUOX",
       "HXUO,HXUOP,HXOT,HXOX,HXO,HXOP,HXEX,HXE,HXEP,NGIEX,NGIE,NGIEP,NGAT,NGAX,NGA,NGAP,NGUOT",
       "NGUOX,NGUO,NGOT,NGOX,NGO,NGOP,NGEX,NGE,NGEP,HIT,HIEX,HIE,HAT,HAX,HA,HAP,HUOT,HUOX,HUO",
       "HUOP,HOT,HOX,HO,HOP,HEX,HE,HEP,WAT,WAX,WA,WAP,WUOX"]⟩,
    ⟨0xA285, "YI SYLLABLE ",
      ["WUO,WUOP,WOX,WO,WOP,WEX,WE,WEP,ZIT,ZIX,ZI,ZIP,ZIEX,ZIE,ZIEP,ZAT,ZAX,ZA,ZAP,ZUOX,ZUO",
       "ZUOP,ZOT,ZOX,ZO,ZOP,ZEX,ZE,ZEP,ZUT,ZUX,ZU,ZUP,ZURX,ZUR,ZYT,ZYX,ZY,ZYP,ZYRX,ZYR,CIT,CIX",
       "CI,CIP,CIET,CIEX,CIE,CIEP,CAT,CAX,CA,CAP,CUOX,CUO,CUOP,COT,COX,CO,COP,CEX,CE,CEP,CUT",
       "CUX,CU,CUP,CURX,CUR,CYT,CYX,CY,CYP,CYRX,CYR,ZZIT,ZZIX,ZZI,ZZIP,ZZIET,ZZIEX,ZZIE,ZZIEP",
       "ZZAT,ZZAX,ZZA,ZZAP,ZZOX,ZZO,ZZOP,ZZEX,ZZE,ZZEP,ZZUX,ZZU,ZZUP,ZZURX,ZZUR,ZZYT,ZZYX,ZZY",
       "ZZYP,ZZYRX,ZZYR,NZIT,NZIX,NZI,NZIP,NZIEX,NZIE,NZIEP,NZAT,NZAX,NZA,NZAP,NZUOX,NZUO,NZOX",
       "NZOP,NZEX,NZE,NZUX,NZU,NZUP,NZURX,NZUR,NZYT,NZYX,NZY,NZYP,NZYRX,NZYR,SIT,SIX,SI,SIP",
       "SIEX,SIE,SIEP,SAT,SAX,SA,SAP,SUOX,SUO,SUOP,SOT,SOX,SO,SOP,SEX,SE,SEP,SUT,SUX,SU,SUP",
       "SURX,SUR,SYT,SYX,SY,SYP,SYRX,SYR,SSIT,SSIX,SSI,SSIP,SSIEX,SSIE,SSIEP,SSAT,SSAX,SSA,SSAP",
       "SSOT,SSOX,SSO,SSOP,SSEX,SSE,SSEP,SSUT,SSUX,SSU,SSUP,SSYT,SSYX,SSY,SSYP,SSYRX,SSYR,ZHAT",
       "ZHAX,ZHA,ZHAP,ZHUOX,ZHUO,ZHUOP,ZHOT,ZHOX,ZHO,ZHOP,ZHET,ZHEX,ZHE,ZHEP,ZHUT,ZHUX,ZHU,ZHUP",
       "ZHURX,ZHUR,ZHYT,ZHYX,ZHY,ZHYP,ZHYRX,ZHYR,CHAT,CHAX,CHA,CHAP,CHUOT,CHUOX,CHUO,CHUOP,CHOT",
       "CHOX,CHO,CHOP,CHET,CHEX,CHE,CHEP,CHUX,CHU,CHUP,CHURX,CHUR,CHYT,CHYX,CHY,CHYP,CHYRX,CHYR",
       "RRAX,RRA,RRUOX,RRUO,RROT,RROX,RRO,RROP,RRET,RREX,RRE,RREP,RRUT"]⟩,
    ⟨0xA389, "YI SYLLABLE ",
      ["RRUX,RRU,RRUP,RRURX,RRUR,RRYT,RRYX,RRY,RRYP,RRYRX,RRYR,NRAT,NRAX,NRA,NRAP,NROX,NRO,NROP",
       "NRET,NREX,NRE,NREP,NRUT,NRUX,NRU,NRUP,NRURX,NRUR,NRYT,NRYX,NRY,NRYP,NRYRX,NRYR,SHAT",
       "SHAX,SHA,SHAP,SHUOX,SHUO,SHUOP,SHOT,SHOX,SHO,SHOP,SHET,SHEX,SHE,SHEP,SHUT,SHUX,SHU,SHUP",
       "SHURX,SHUR,SHYT,SHYX,SHY,SHYP,SHYRX,SHYR,RAT,RAX,RA,RAP,RUOX,RUO,RUOP,ROT,ROX,RO,ROP",
       "REX,RE,REP,RUT,RUX,RU,RUP,RURX,RUR,RYT,RYX,RY,RYP,RYRX,RYR,JIT,JIX,JI,JIP,JIET,JIEX,JIE",
       "JIEP,JUOT,JUOX,JUO,JUOP,JOT,JOX,JO,JOP,JUT,JUX,JU,JUP,JURX,JUR,JYT,JYX,JY,JYP,JYRX,JYR",
       "QIT,QIX,QI,QIP,QIET,QIEX,QIE,QIEP,QUOT,QUOX,QUO,QUOP,QOT,QOX,QO,QOP,QUT,QUX,QU,QUP,QURX",
       "QUR,QYT,QYX,QY,QYP,QYRX,QYR,JJIT,JJIX,JJI,JJIP,JJIET,JJIEX,JJIE,JJIEP,JJUOX,JJUO,JJUOP",
       "JJOT,JJOX,JJO,JJOP,JJUT,JJUX,JJU,JJUP,JJURX,JJUR,JJYT,JJYX,JJY,JJYP,NJIT,NJIX,NJI,NJIP",
       "NJIET,NJIEX,NJIE,NJIEP,NJUOX,NJUO,NJOT,NJOX,NJO,NJOP,NJUX,NJU,NJUP,NJURX,NJUR,NJYT,NJYX",
       "NJY,NJYP,NJYRX,NJYR,NYIT,NYIX,NYI,NYIP,NYIET,NYIEX,NYIE,NYIEP,NYUOX,NYUO,NYUOP,NYOT",
       "NYOX,NYO,NYOP,NYUT,NYUX,NYU,NYUP,XIT,XIX,XI,XIP,XIET,XIEX,XIE,XIEP,XUOX,XUO,XOT,XOX,XO",
       "XOP,XYT,XYX,XY,XYP,XYRX,XYR,YIT,YIX,YI,YIP,YIET,YIEX,YIE,YIEP,YUOT,YUOX,YUO,YUOP,YOT",
       "YOX,YO,YOP,YUT,YUX,YU,YUP,YURX,YUR,YYT,YYX,YY,YYP,YYRX,YYR"]⟩,
    ⟨0xA490, "YI RADICAL ",
      ["QOT,LI,KIT,NYIP,CYP,SSI,GGOP,GEP,MI,HXIT,LYR,BBUT,MOP,YO,PUT,HXUO,TAT,GA,ZUP,CYT,DDUR",
       "BUR,GGUO,NYOP,TU,OP,JJUT,ZOT,PYT,HMO,YIT,VUR,SHY,VEP,ZA,JO,NZUP,JJY,GOT,JJIE,WO,DU,SHUR",
       "LIE,CY,CUOP,CIP,HXOP,SHAT,ZUR,SHOP,CHE,ZZIET,NBIE,KE"]⟩,
    ⟨0xA4D0, "LISU LETTER ",
      ["BA,PA,PHA,DA,TA,THA,GA,KA,KHA,JA,CA,CHA,DZA,TSA,TSHA,MA,NA,LA,SA,ZHA,ZA,NGA,HA,XA,HHA",
       "FA,WA,SHA,YA,GHA,A,AE,E,EU,I,O,U,UE,UH,OE,TONE MYA TI,aNA PO,aMYA CYA,bBO,bNA,bJEU"]⟩,
    ⟨0xA4FE, "LISU PUNCTUATION ",
      ["COMMA,FULL STOP"]⟩,
    ⟨0xA500, "VAI SYLLABLE ",
      ["EE,EEN,HEE,WEE,WEEN,PEE,BHEE,BEE,MBEE,KPEE,MGBEE,GBEE,FEE,VEE,TEE,THEE,DHEE,DHHEE,LEE",
       "REE,DEE,NDEE,SEE,SHEE,ZEE,ZHEE,CEE,JEE,NJEE,YEE,KEE,NGGEE,GEE,MEE,NEE,NYEE,I,IN,HI,HIN",
       "WI,WIN,PI,BHI,BI,MBI,KPI,MGBI,GBI,FI,VI,TI,THI,DHI,DHHI,LI,RI,DI,NDI,SI,SHI,ZI,ZHI,CI",
       "JI,NJI,YI,KI,NGGI,GI,MI,NI,NYI,A,AN,NGAN,HA,HAN,WA,WAN,PA,BHA,BA,MBA,KPA,KPAN,MGBA,GBA",
       "FA,VA,TA,THA,DHA,DHHA,LA,RA,DA,NDA,SA,SHA,ZA,ZHA,CA,JA,NJA,YA,KA,KAN,NGGA,GA,MA,NA,NYA",
       "OO,OON,HOO,WOO,WOON,POO,BHOO,BOO,MBOO,KPOO,MGBOO,GBOO,FOO,VOO,TOO,THOO,DHOO,DHHOO,LOO",
       "ROO,DOO,NDOO,SOO,SHOO,ZOO,ZHOO,COO,JOO,NJOO,YOO,KOO,NGGOO,GOO,MOO,NOO,NYOO,U,UN,HU,HUN",
       "WU,WUN,PU,BHU,BU,MBU,KPU,MGBU,GBU,FU,VU,TU,THU,DHU,DHHU,LU,RU,DU,NDU,SU,SHU,ZU,ZHU,CU",
       "JU,NJU,YU,KU,NGGU,GU,MU,NU,NYU,O,ON,NGON,HO,HON,WO,WON,PO,BHO,BO,MBO,KPO,MGBO,GBO,GBON",
       "FO,VO,TO,THO,DHO,DHHO,LO,RO,DO,NDO,SO,SHO,ZO,ZHO,CO,JO,NJO,YO,KO,NGGO,GO,MO,NO,NYO,E,EN",
       "NGEN,HE,HEN,WE,WEN,PE,BHE,BE,MBE,KPE,KPEN,MGBE,GBE,GBEN,FE,VE,TE,THE,DHE,DHHE,LE,RE,DE",
       "NDE,SE,SHE,ZE,ZHE,CE,JE,NJE,YE,KE"]⟩,
    ⟨0xA604, "VAI ",
      ["SYLLABLE NGGE,aNGGEN,aGE,aGEN,aME,aNE,aNYE,aNG,aLENGTHENER,COMMA,FULL STOP",
       "QUESTION MARK,SYLLABLE NDOLE FA,bKA,bSOO,SYMBOL FEENG,aKEENG,aTING,aNII,aBANG,aFAA,aTAA",
       "aDANG,aDOONG,aKUNG,aTONG,aDO-O,aJONG,DIGIT ZERO,aONE,aTWO,aTHREE,aFOUR,aFIVE,aSIX",
       "aSEVEN,aEIGHT,aNINE,SYLLABLE NDOLE MA,bDO"]⟩,
    ⟨0xA640, "CYRILLIC ",
      ["CAPITAL LETTER ZEMLYA,SMALLb,CAPITAL LETTER DZELO,SMALLb,CAPITAL LETTER REVERSED DZE",
       "SMALLc,CAPITAL LETTER IOTA,SMALLb,CAPITAL LETTER DJERV,SMALLb",
       "CAPITAL LETTER MONOGRAPH UK,SMALLc,CAPITAL LETTER BROAD OMEGA,SMALLc",
       "CAPITAL LETTER NEUTRAL YER,SMALLc,CAPITAL LETTER YERU WITH BACKa,SMALLe",
       "CAPITAL LETTER IOTIFIED YAT,SMALLc,CAPITAL LETTER REVERSED YU,SMALLc",
       "CAPITAL LETTER IOTIFIED A,SMALLc,CAPITAL LETTER CLOSED LITTLE YUS,SMALLd",
       "CAPITAL LETTER BLENDEDa,SMALLc,CAPITAL LETTER IOTIFIED CLOSED LITTLEa,SMALLe",
       "CAPITAL LETTER YN,SMALLb,CAPITAL LETTER REVERSED TSE,SMALLc,CAPITAL LETTER SOFT DE",
       "SMALLc,CAPITAL LETTER SOFT EL,SMALLc,CAPITAL LETTER SOFT EM,SMALLc",
       "CAPITAL LETTER MONOCULAR O,SMALLc,CAPITAL LETTER BINOCULARa,SMALLc",
       "CAPITAL LETTER DOUBLE MONOCULARa,SMALLd,LETTER MULTIOCULARa"]⟩,
    ⟨0xA66F, "COMBINING CYRILLIC ",
      ["VZMET,TEN MILLIONS SIGN,HUNDREDb,THOUSANDb"]⟩,
    ⟨0xA673, "SLAVONIC ",
      ["ASTERISK"]⟩,
    ⟨0xA674, "COMBINING CYRILLIC ",
      ["LETTER UKRAINIAN IE,aI,aYI,aU,aHARD SIGN,aYERU,aSOFT SIGN,aOMEGA,KAVYKA,PAYEROK"]⟩,
    ⟨0xA67E, "CYRILLIC ",
      ["KAVYKA,PAYEROK,CAPITAL LETTER DWE,SMALLb,CAPITAL LETTER DZWE,SMALLb,CAPITAL LETTER ZHWE",
       "SMALLb,CAPITAL LETTER CCHE,SMALLb,CAPITAL LETTER DZZE,SMALLb",
       "CAPITAL LETTER TE WITH MIDDLE HOOK,SMALLe,CAPITAL LETTER TWE,SMALLb,CAPITAL LETTER TSWE",
       "SMALLb,CAPITAL LETTER TSSE,SMALLb,CAPITAL LETTER TCHE,SMALLb,CAPITAL LETTER HWE,SMALLb",
       "CAPITAL LETTER SHWE,SMALLb,CAPITAL LETTER DOUBLE O,SMALLc,CAPITAL LETTER CROSSEDa",
       "SMALLc"]⟩,
    ⟨0xA69C, "MODIFIER LETTER CYRILLIC ",
      ["HARD SIGN,SOFTa"]⟩,
    ⟨0xA69E, "COMBINING CYRILLIC LETTER ",
      ["EF,IOTIFIED E"]⟩,
    ⟨0xA6A0, "BAMUM LETTER ",
      ["A,KA,U,KU,EE,REE,TAE,O,NYI,I,LA,PA,RII,RIEE,LEEEE,MEEEE,TAA,NDAA,NJAEM,M,SUU,MU,SHII,SI",
       "SHEUX,SEUX,KYEE,KET,NUAE,NU,NJUAE,YOQ,SHU,YUQ,YA,NSHA,KEUX,PEUX,NJEE,NTEE,PUE,WUE,PEE",
       "FEE,RU,LU,MI,NI,REUX,RAE,KEN,NGKWAEN,NGGA,NGA,SHO,PUAE,FU,FOM,WA,NA,LI,PI,LOQ,KO,MBEN",
       "REN,MEN,MA,TI,KI,MO,MBAA,TET,KPA,TEN,NTUU,SAMBA,FAAMAE,KOVUU,KOGHOM"]⟩,
    ⟨0xA6F0, "BAMUM ",
      ["COMBINING MARK KOQNDON,bTUKWENTIS,NJAEMLI,FULL STOP,COLON,COMMA,SEMICOLON,QUESTION MARK"]⟩,
    ⟨0xA700, "MODIFIER LETTER ",
      ["CHINESE TONE YIN PING,bYANGa,bYIN SHANG,bYANGa,bYIN QU,bYANGa,bYIN RU,bYANGa",
       "EXTRA-HIGH DOTTED TONE BAR,HIGHc,MIDc,LOWc,EXTRA-LOWc,EXTRA-HIGH DOTTED LEFT-STEMb",
       "HIGHd,MIDd,LOWd,EXTRA-LOWd,EXTRA-HIGHc,HIGHc,MIDc,LOWc,EXTRA-LOWc,DOT VERTICALa,aSLASH",
       "aHORIZONTAL BAR,LOWER RIGHT CORNER ANGLE,RAISED UP ARROW,aDOWNa,aEXCLAMATION MARK",
       "aINVERTEDb,LOWc,STRESS AND HIGH TONE,bLOWa"]⟩,
    ⟨0xA722, "LATIN ",
      ["CAPITAL LETTER EGYPTOLOGICAL ALEF,SMALLc,CAPITAL LETTER EGYPTOLOGICAL AIN,SMALLc",
       "CAPITAL LETTER HENG,SMALLb,CAPITAL LETTER TZ,SMALLb,CAPITAL LETTER TRESILLO,SMALLb",
       "CAPITAL LETTER CUATRILLO,SMALLb,CAPITAL LETTER CUATRILLO WITH COMMA,SMALLd",
       "LETTER SMALL CAPITAL F,cS,CAPITAL LETTER AA,SMALLb,CAPITAL LETTER AO,SMALLb",
       "CAPITAL LETTER AU,SMALLb,CAPITAL LETTER AV,SMALLb,CAPITAL LETTER AV WITH HORIZONTAL BAR",
       "SMALLe,CAPITAL LETTER AY,SMALLb,CAPITAL LETTER REVERSED C WITH DOT,SMALLe",
       "CAPITAL LETTER K WITH STROKE,SMALLd,CAPITAL LETTER K WITH DIAGONALa,SMALLe",
       "CAPITAL LETTER K WITH STROKE ANDb,SMALLg,CAPITAL LETTER BROKEN L,SMALLc",
       "CAPITAL LETTER L WITH HIGH STROKE,SMALLe,CAPITAL LETTER O WITH LONG STROKE OVERLAY",
       "SMALLf,CAPITAL LETTER O WITH LOOP,SMALLd,CAPITAL LETTER OO,SMALLb",
       "CAPITAL LETTER P WITH STROKE THROUGH DESCENDER,SMALLf,CAPITAL LETTER P WITH FLOURISH",
       "SMALLd,CAPITAL LETTER P WITH SQUIRREL TAIL,SMALLe",
       "CAPITAL LETTER Q WITH STROKE THROUGH DESCENDER,SMALLf",
       "CAPITAL LETTER Q WITH DIAGONAL STROKE,SMALLe,CAPITAL LETTER R ROTUNDA,SMALLc",
       "CAPITAL LETTER RUMa,SMALLc,CAPITAL LETTER V WITH DIAGONAL STROKE,SMALLe",
       "CAPITAL LETTER VY,SMALLb,CAPITAL LETTER VISIGOTHIC Z,SMALLc",
       "CAPITAL LETTER THORN WITH STROKE,SMALLd",
       "CAPITAL LETTER THORN WITH STROKE THROUGH DESCENDER,SMALLf,CAPITAL LETTER VEND,SMALLb",
       "CAPITAL LETTER ET,SMALLb,CAPITAL LETTER IS,SMALLb,CAPITAL LETTER CON,SMALLb"]⟩,
    ⟨0xA770, "MODIFIER LETTER ",
      ["US"]⟩,
    ⟨0xA771, "LATIN ",
      ["SMALL LETTER DUM,bLUM,bMUM,bNUM,bRUM,LETTER SMALL CAPITALa,SMALL LETTER TUM,bUM",
       "CAPITAL LETTER INSULAR D,SMALLc,CAPITAL LETTER INSULAR F,SMALLc",
       "CAPITAL LETTER INSULAR G,bTURNEDb,SMALLd,CAPITAL LETTER TURNED L,SMALLc",
       "CAPITAL LETTER INSULAR R,SMALLc,CAPITAL LETTER INSULAR S,SMALLc",
       "CAPITAL LETTER INSULAR T,SMALLc"]⟩,
    ⟨0xA788, "MODIFIER LETTER ",
      ["LOW CIRCUMFLEX ACCENT,COLON,SHORT EQUALS SIGN"]⟩,
    ⟨0xA78B, "LATIN ",
      ["CAPITAL LETTER SALTILLO,SMALLb,CAPITAL LETTER TURNED H",
       "SMALL LETTER L WITH RETROFLEX HOOK AND BELT,LETTER SINOLOGICAL DOT",
       "CAPITAL LETTER N WITH DESCENDER,SMALLd,CAPITAL LETTER C WITH BAR,SMALLd,dPALATAL HOOK",
       "bHc,CAPITAL LETTER B WITH FLOURISH,SMALLd,CAPITAL LETTER F WITH STROKE,SMALLd",
       "CAPITAL LETTER VOLAPUK AE,SMALLc,CAPITAL LETTER VOLAPUK OE,SMALLc",
       "CAPITAL LETTER VOLAPUK UE,SMALLc,CAPITAL LETTER G WITH OBLIQUE STROKE,SMALLe",
       "CAPITAL LETTER Kc,SMALLe,CAPITAL LETTER Nc,SMALLe,CAPITAL LETTER Rc,SMALLe",
       "CAPITAL LETTER Sc,SMALLe,CAPITAL LETTER H WITH HOOK,bREVERSED OPEN E,bSCRIPT G",
       "bL WITH BELT,bSMALL CAPITAL I,LETTER SMALL CAPITAL Q,CAPITAL LETTER TURNED K,cT",
       "bJ WITH CROSSED-TAIL,bCHI,bBETA,SMALLb,CAPITAL LETTER OMEGA,SMALLb",
       "CAPITAL LETTER U WITH STROKE,SMALLd,CAPITAL LETTER GLOTTAL A,SMALLc",
       "CAPITAL LETTER GLOTTAL I,SMALLc,CAPITAL LETTER GLOTTAL U,SMALLc",
       "CAPITAL LETTER OLD POLISH O,SMALLd,CAPITAL LETTER ANGLICANA W,SMALLc",
       "CAPITAL LETTER C WITH PALATAL HOOK,bS WITHa,bZ WITH PALATALa",
       "bD WITH SHORT STROKE OVERLAY,SMALLf,CAPITAL LETTER Sd,SMALLf,,,,,",
       "CAPITAL LETTER CLOSED INSULAR G,SMALLd,,bDOUBLE THORN,,cWYNN",
       "CAPITAL LETTER MIDDLE SCOTS S,SMALLd,CAPITAL LETTER SIGMOIDa,SMALLc"]⟩,
    ⟨0xA7F2, "MODIFIER LETTER CAPITAL ",
      ["C,F,Q"]⟩,
    ⟨0xA7F5, "LATIN ",
      ["CAPITAL LETTER REVERSED HALF H,SMALLd,EPIGRAPHIC LETTER SIDEWAYS I"]⟩,
    ⟨0xA7F8, "MODIFIER LETTER ",
      ["CAPITAL H WITH STROKE,SMALL LIGATURE OE"]⟩,
    ⟨0xA7FA, "LATIN ",
      ["LETTER SMALL CAPITAL TURNED M,EPIGRAPHIC LETTER REVERSED F,cP,bINVERTED M,bI LONGA",
       "bARCHAIC M"]⟩,
    ⟨0xA800, "SYLOTI NAGRI ",
      ["LETTER A,aI,SIGN DVISVARA,LETTER U,aE,aO,SIGN HASANTA,LETTER KO,aKHO,aGO,aGHO",
       "SIGN ANUSVARA,LETTER CO,aCHO,aJO,aJHO,aTTO,aTTHO,aDDO,aDDHO,aTO,aTHO,aDO,aDHO,aNO,aPO",
       "aPHO,aBO,aBHO,aMO,aRO,aLO,aRRO,aSO,aHO,VOWEL SIGN A,bI,bU,bE,bOO,POETRY MARK-1,aMARK-2",
       "aMARK-3,aMARK-4,SIGN ALTERNATE HASANTA"]⟩,
    ⟨0xA830, "NORTH INDIC ",
      ["FRACTION ONE QUARTER,bHALF,aTHREE QUARTERS,aONE SIXTEENTH,bEIGHTH,aTHREE SIXTEENTHS",
       "QUARTER MARK,PLACEHOLDERa,RUPEEa,QUANTITYa"]⟩,
    ⟨0xA840, "PHAGS-PA LETTER ",
      ["KA,KHA,GA,NGA,CA,CHA,JA,NYA,TA,THA,DA,NA,PA,PHA,BA,MA,TSA,TSHA,DZA,WA,ZHA,ZA,SMALL A,YA",
       "RA,LA,SHA,SA,HA,A,I,U,E,O,QA,XA,FA,GGA,EE"]⟩,
    ⟨0xA867, "PHAGS-PA ",
      ["SUBJOINED LETTER WA,bYA,LETTER TTA,aTTHA,aDDA,aNNA,aALTERNATE YA,aVOICELESS SHA",
       "aVOICED HA,aASPIRATED FA,SUBJOINED LETTER RA,SUPERFIXEDb,LETTER CANDRABINDU",
       "SINGLE HEAD MARK,DOUBLEb,MARK SHAD,aDOUBLEa"]⟩,
    ⟨0xA880, "SAURASHTRA ",
      ["SIGN ANUSVARA,aVISARGA,LETTER A,aAA,aI,aII,aU,aUU,aVOCALIC R,bRR,bL,bLL,aE,aEE,aAI,aO",
       "aOO,aAU,aKA,aKHA,aGA,aGHA,aNGA,aCA,aCHA,aJA,aJHA,aNYA,aTTA,aTTHA,aDDA,aDDHA,aNNA,aTA",
       "aTHA,aDA,aDHA,aNA,aPA,aPHA,aBA,aBHA,aMA,aYA,aRA,aLA,aVA,aSHA,aSSA,aSA,aHA,aLLA",
       "CONSONANT SIGN HAARU,VOWEL SIGN AA,bI,bII,bU,bUU,bVOCALIC R,cRR,cL,cLL,bE,bEE,bAI,bO",
       "bOO,bAU,SIGN VIRAMA,aCANDRABINDU,,,,,,,,,DANDA,DOUBLEa,DIGIT ZERO,aONE,aTWO,aTHREE",
       "aFOUR,aFIVE,aSIX,aSEVEN,aEIGHT,aNINE"]⟩,
    ⟨0xA8E0, "COMBINING DEVANAGARI ",
      ["DIGIT ZERO,aONE,aTWO,aTHREE,aFOUR,aFIVE,aSIX,aSEVEN,aEIGHT,aNINE,LETTER A,aU,aKA,aNA",
       "aPA,aRA,aVI,SIGN AVAGRAHA"]⟩,
    ⟨0xA8F2, "DEVANAGARI ",
      ["SIGN SPACING CANDRABINDU,aCANDRABINDU VIRAMA,aDOUBLEb,aCANDRABINDU TWO,bTHREE,bAVAGRAHA",
       "aPUSHPIKA,GAP FILLER,CARET,HEADSTROKE,SIGN SIDDHAM,JAIN OM,LETTER AY,VOWEL SIGNa"]⟩,
    ⟨0xA900, "KAYAH LI ",
      ["DIGIT ZERO,aONE,aTWO,aTHREE,aFOUR,aFIVE,aSIX,aSEVEN,aEIGHT,aNINE,LETTER KA,aKHA,aGA",
       "aNGA,aSA,aSHA,aZA,aNYA,aTA,aHTA,aNA,aPA,aPHA,aMA,aDA,aBA,aRA,aYA,aLA,aWA,aTHA,aHA,aVA",
       "aCA,aA,aOE,aI,aOO,VOWEL UE,aE,aU,aEE,aO,TONE PLOPHU,aCALYA,bPLOPHU,SIGN CWI,aSHYA"]⟩,
    ⟨0xA930, "REJANG ",
      ["LETTER KA,aGA,aNGA,aTA,aDA,aNA,aPA,aBA,aMA,aCA,aJA,aNYA,aSA,aRA,aLA,aYA,aWA,aHA,aMBA",
       "aNGGA,aNDA,aNYJA,aA,VOWEL SIGN I,bU,bE,bAI,bO,bAU,bEU,bEA,CONSONANT SIGN NG,bN,bR,bH",
       "VIRAMA,,,,,,,,,,,,SECTION MARK"]⟩,
    ⟨0xA960, "HANGUL CHOSEONG ",
      ["TIKEUT-MIEUM,TIKEUT-PIEUP,TIKEUT-SIOS,TIKEUT-CIEUC,RIEUL-KIYEOK,RIEUL-SSANGKIYEOK",
       "RIEUL-TIKEUT,RIEUL-SSANGTIKEUT,RIEUL-MIEUM,RIEUL-PIEUP,RIEUL-SSANGPIEUP",
       "RIEUL-KAPYEOUNPIEUP,RIEUL-SIOS,RIEUL-CIEUC,RIEUL-KHIEUKH,MIEUM-KIYEOK,MIEUM-TIKEUT",
       "MIEUM-SIOS,PIEUP-SIOS-THIEUTH,PIEUP-KHIEUKH,PIEUP-HIEUH,SSANGSIOS-PIEUP,IEUNG-RIEUL",
       "IEUNG-HIEUH,SSANGCIEUC-HIEUH,SSANGTHIEUTH,PHIEUPH-HIEUH,HIEUH-SIOS,SSANGYEORINHIEUH"]⟩,
    ⟨0xA980, "JAVANESE ",
      ["SIGN PANYANGGA,aCECAK,aLAYAR,aWIGNYAN,LETTER A,aI KAWI,b,aII,aU,aPA CEREK,aNGA LELET",
       "cRASWADI,aE,aAI,aO,aKA,bSASAK,bMURDA,aGA,bMURDA,aNGA,aCA,bMURDA,aJA,aNYA MURDA",
       "aJA MAHAPRANA,aNYA,aTTA,bMAHAPRANA,aDDA,bMAHAPRANA,aNA MURDA,aTA,bMURDA,aDA,bMAHAPRANA",
       "aNA,aPA,bMURDA,aBA,bMURDA,aMA,aYA,aRA,bAGUNG,aLA,aWA,aSA MURDA,bMAHAPRANA,b,aHA",
       "SIGN CECAK TELU,VOWEL SIGN TARUNG,bTOLONG,bWULU,cMELIK,bSUKU,cMENDUT,bTALING",
       "bDIRGA MURE,bPEPET,CONSONANT SIGN KERET,bPENGKAL,bCAKRA,PANGKON,LEFT RERENGGAN,RIGHTa",
       "PADA ANDAP,aMADYA,aLUHUR,aWINDU,aPANGKAT,aLINGSA,aLUNGSI,aADEG,bADEG,aPISELEH,TURNEDb,",
       "PANGRANGKEP,DIGIT ZERO,aONE,aTWO,aTHREE,aFOUR,aFIVE,aSIX,aSEVEN,aEIGHT,aNINE,,,,",
       "PADA TIRTA TUMETES,aISEN-ISEN"]⟩,
    ⟨0xA9E0, "MYANMAR ",
      ["LETTER SHAN GHA,bCHA,bJHA,bNNA,bBHA,SIGN SHAN SAW,MODIFIER LETTER SHAN REDUPLICATION",
       "LETTER TAI LAING NYA,cFA,cGA,cGHA,cJA,cJHA,cDDA,cDDHA,cNNA,TAI LAING DIGIT ZERO,cONE",
       "cTWO,cTHREE,cFOUR,cFIVE,cSIX,cSEVEN,cEIGHT,cNINE,LETTER TAI LAING LLA,cDA,cDHA,cBA,cBHA"]⟩,
    ⟨0xAA00, "CHAM LETTER ",
      ["A,I,U,E,AI,O,KA,KHA,GA,GHA,NGUE,NGA,CHA,CHHA,JA,JHA,NHUE,NHA,NHJA,TA,THA,DA,DHA,NUE,NA",
       "DDA,PA,PPA,PHA,BA,BHA,MUE,MA,BBA,YA,RA,LA,VA,SSA,SA,HA"]⟩,
    ⟨0xAA29, "CHAM ",
      ["VOWEL SIGN AA,bI,bII,bEI,bU,bOE,bO,bAI,bAU,bUE,CONSONANT SIGN YA,bRA,bLA,bWA,,,,,,,,,",
       "LETTER FINAL K,bG,bNG,CONSONANT SIGNb,LETTER FINAL CH,bT,bN,bP,bY,bR,bL,bSS",
       "CONSONANT SIGN FINAL M,cH,,,DIGIT ZERO,aONE,aTWO,aTHREE,aFOUR,aFIVE,aSIX,aSEVEN,aEIGHT",
       "aNINE,,,PUNCTUATION SPIRAL,aDANDA,aDOUBLEa,aTRIPLEa"]⟩,
    ⟨0xAA60, "MYANMAR ",
      ["LETTER KHAMTI GA,bCA,bCHA,bJA,bJHA,bNYA,bTTA,bTTHA,bDDA,bDDHA,bDHA,bNA,bSA,bHA,bHHA,bFA",
       "MODIFIER LETTER KHAMTI REDUPLICATION,LETTER KHAMTI XA,bZA,bRA,LOGOGRAM KHAMTI OAY,bQN",
       "bHM,SYMBOL AITON EXCLAMATION,bONE,bTWO,LETTER AITON RA,SIGN PAO KAREN TONE",
       "aTAI LAING TONE-2,cTONE-5,LETTER SHWE PALAUNG CHA,cSHA"]⟩,
    ⟨0xAA80, "TAI VIET LETTER ",
      ["LOW KO,HIGHa,LOW KHO,HIGHa,LOW KHHO,HIGHa,LOW GO,HIGHa,LOW NGO,HIGHa,LOW CO,HIGHa",
       "LOW CHO,HIGHa,LOW SO,HIGHa,LOW NYO,HIGHa,LOW DO,HIGHa,LOW TO,HIGHa,LOW THO,HIGHa,LOW NO",
       "HIGHa,LOW BO,HIGHa,LOW PO,HIGHa,LOW PHO,HIGHa,LOW FO,HIGHa,LOW MO,HIGHa,LOW YO,HIGHa",
       "LOW RO,HIGHa,LOW LO,HIGHa,LOW VO,HIGHa,LOW HO,HIGHa,LOW O,HIGHa"]⟩,
    ⟨0xAAB0, "TAI VIET ",
      ["MAI KANG,VOWEL AA,aI,aUE,aU,aE,aO,MAI KHIT,VOWEL IA,aUEA,aUA,aAUE,aAY,aAN,aAM",
       "TONE MAI EK,bNUENG,bTHO,bSONG"]⟩,
    ⟨0xAADB, "TAI VIET SYMBOL ",
      ["KON,NUENG,SAM,HO HOI,KOI KOI"]⟩,
    ⟨0xAAE0, "MEETEI MAYEK ",
      ["LETTER E,aO,aCHA,aNYA,aTTA,aTTHA,aDDA,aDDHA,aNNA,aSHA,aSSA,VOWEL SIGN II,bUU,bAAI,bAU",
       "bAAU,CHEIKHAN,AHANG KHUDAM,ANJI,SYLLABLE REPETITION MARK,WORDb,VOWEL SIGN VISARGA",
       "VIRAMA"]⟩,
    ⟨0xAB01, "ETHIOPIC SYLLABLE ",
      ["TTHU,TTHI,TTHAA,TTHEE,TTHE,TTHO,,,DDHU,DDHI,DDHAA,DDHEE,DDHE,DDHO,,,DZU,DZI,DZAA,DZEE",
       "DZE,DZO,,,,,,,,,,CCHHA,CCHHU,CCHHI,CCHHAA,CCHHEE,CCHHE,CCHHO,,BBA,BBU,BBI,BBAA,BBEE,BBE",
       "BBO"]⟩,
    ⟨0xAB30, "LATIN ",
      ["SMALL LETTER BARRED ALPHA,bA REVERSED-SCHWA,bBLACKLETTER E,bBARREDa,bE WITH FLOURISH",
       "bLENIS F,bSCRIPT G WITH CROSSED-TAIL,bL WITH INVERTED LAZY S,dDOUBLE MIDDLE TILDE",
       "dMIDDLE RING,bM WITH CROSSED-TAIL,bNb,bENGb,bBLACKLETTER O,dWITH STROKE,bOPENc",
       "bINVERTED OE,bTURNED OE WITH STROKE,eHORIZONTALa,cO OPEN-O,eWITH STROKE,bSTIRRUP R",
       "LETTER SMALL CAPITAL R WITH RIGHT LEG,SMALL LETTER R WITHOUT HANDLE,bDOUBLE R",
       "bR WITH CROSSED-TAIL,bDOUBLEc,bSCRIPT R,dWITH RING,bBASELINE ESH",
       "bU WITH SHORT RIGHT LEG,cBARd,bUI,bTURNEDa,bU WITH LEFT HOOK,bCHI,cWITH LOW RIGHT RING",
       "eLEFT SERIF,bX WITH LOW RIGHT RING,dLONG LEFT LEG,gAND LOW RIGHT RING,gWITH SERIF",
       "bY WITH SHORT RIGHT LEG"]⟩,
    ⟨0xAB5B, "MODIFIER ",
      ["BREVE WITH INVERTED BREVE,LETTER SMALL HENG,bL WITH INVERTED LAZY S,dMIDDLE TILDE",
       "bU WITH LEFT HOOK"]⟩,
    ⟨0xAB60, "LATIN SMALL LETTER ",
      ["SAKHA YAT,IOTIFIED E,OPEN OE,UO,INVERTED ALPHA"]⟩,
    ⟨0xAB65, "GREEK LETTER SMALL CAPITAL ",
      ["OMEGA"]⟩,
    ⟨0xAB66, "LATIN SMALL LETTER ",
      ["DZ DIGRAPH WITH RETROFLEX HOOK,TSd,TURNED R WITH MIDDLE TILDE"]⟩,
    ⟨0xAB69, "MODIFIER LETTER ",
      ["SMALL TURNED W,LEFT TACK,RIGHTa"]⟩,
    ⟨0xAB70, "CHEROKEE SMALL LETTER ",
      ["A,E,I,O,U,V,GA,KA,GE,GI,GO,GU,GV,HA,HE,HI,HO,HU,HV,LA,LE,LI,LO,LU,LV,MA,ME,MI,MO,MU,NA",
       "HNA,NAH,NE,NI,NO,NU,NV,QUA,QUE,QUI,QUO,QUU,QUV,SA,S,SE,SI,SO,SU,SV,DA,TA,DE,TE,DI,TI,DO",
       "DU,DV,DLA,TLA,TLE,TLI,TLO,TLU,TLV,TSA,TSE,TSI,TSO,TSU,TSV,WA,WE,WI,WO,WU,WV,YA"]⟩,
    ⟨0xABC0, "MEETEI MAYEK ",
      ["LETTER KOK,aSAM,aLAI,aMIT,aPA,aNA,aCHIL,aTIL,aKHOU,aNGOU,aTHOU,aWAI,aYANG,aHUK,aUN,aI",
       "aPHAM,aATIYA,aGOK,aJHAM,aRAI,aBA,aJIL,aDIL,aGHOU,aDHOU,aBHAM,aKOK LONSUM,aLAIa,aMITa",
       "aPAa,aNAa,aTILa,aNGOUa,aIa,VOWEL SIGN ONAP,bINAP,bANAP,bYENAP,bSOUNAP,bUNAP,bCHEINAP",
       "bNUNG,CHEIKHEI,LUM IYEK,APUNa,,,DIGIT ZERO,aONE,aTWO,aTHREE,aFOUR,aFIVE,aSIX,aSEVEN",
       "aEIGHT,aNINE"]⟩,
    ⟨0xD7B0, "HANGUL JUNGSEONG ",
      ["O-YEO,O-O-I,YO-A,YO-AE,YO-EO,U-YEO,U-I-I,YU-AE,YU-O,EU-A,EU-EO,EU-E,EU-O,I-YA-O,I-YAE",
       "I-YEO,I-YE,I-O-I,I-YO,I-YU,I-I,ARAEA-A,ARAEA-E"]⟩,
    ⟨0xD7CB, "HANGUL JONGSEONG ",
      ["NIEUN-RIEUL,NIEUN-CHIEUCH,SSANGTIKEUT,SSANGTIKEUT-PIEUP,TIKEUT-PIEUP,TIKEUT-SIOS",
       "TIKEUT-SIOS-KIYEOK,TIKEUT-CIEUC,TIKEUT-CHIEUCH,TIKEUT-THIEUTH,RIEUL-SSANGKIYEOK",
       "RIEUL-KIYEOK-HIEUH,SSANGRIEUL-KHIEUKH,RIEUL-MIEUM-HIEUH,RIEUL-PIEUP-TIKEUT",
       "RIEUL-PIEUP-PHIEUPH,RIEUL-YESIEUNG,RIEUL-YEORINHIEUH-HIEUH,KAPYEOUNRIEUL,MIEUM-NIEUN",
       "MIEUM-SSANGNIEUN,SSANGMIEUM,MIEUM-PIEUP-SIOS,MIEUM-CIEUC,PIEUP-TIKEUT",
       "PIEUP-RIEUL-PHIEUPH,PIEUP-MIEUM,SSANGPIEUP,PIEUP-SIOS-TIKEUT,PIEUP-CIEUC,PIEUP-CHIEUCH",
       "SIOS-MIEUM,SIOS-KAPYEOUNPIEUP,SSANGSIOS-KIYEOK,SSANGSIOS-TIKEUT,SIOS-PANSIOS,SIOS-CIEUC",
       "SIOS-CHIEUCH,SIOS-THIEUTH,SIOS-HIEUH,PANSIOS-PIEUP,PANSIOS-KAPYEOUNPIEUP,YESIEUNG-MIEUM",
       "YESIEUNG-HIEUH,CIEUC-PIEUP,CIEUC-SSANGPIEUP,SSANGCIEUC,PHIEUPH-SIOS,PHIEUPH-THIEUTH"]⟩,
    ⟨0xFB00, "LATIN SMALL LIGATURE ",
      ["FF,FI,FL,FFI,FFL,LONG S T,ST"]⟩,
    ⟨0xFB13, "ARMENIAN SMALL LIGATURE ",
      ["MEN NOW,aECH,aINI,VEW NOW,MEN XEH"]⟩,
    ⟨0xFB1D, "HEBREW ",
      ["LETTER YOD WITH HIRIQ,POINT JUDEO-SPANISH VARIKA,LIGATURE YIDDISH YOD YOD PATAH",
       "LETTER ALTERNATIVE AYIN,aWIDE ALEF,bDALET,bHE,bKAF,bLAMED,bFINAL MEM,bRESH,bTAV",
       "aALTERNATIVE PLUS SIGN,aSHIN WITH SHIN DOT,cSINa,cDAGESH AND SHINa,eSINa",
       "aALEF WITH PATAH,cQAMATS,cMAPIQ,aBET WITH DAGESH,aGIMELb,aDALETb,aHE WITH MAPIQ",
       "aVAV WITH DAGESH,aZAYINb,,aTETb,aYODb,aFINAL KAFb,ac,aLAMEDb,,aMEMb,,aNUNb,aSAMEKHb,",
       "aFINAL PEb,ac,,aTSADIb,aQOFb,aRESHb,aSHINb,aTAVb,aVAV WITH HOLAM,aBET WITH RAFE,aKAFb",
       "aPEb,LIGATURE ALEF LAMED"]⟩,
    ⟨0xFB50, "ARABIC LETTER ",
      ["ALEF WASLA ISOLATED FORM,bFINALa,BEEH ISOLATEDa,aFINALa,aINITIALa,aMEDIALa",
       "PEH ISOLATEDa,aFINALa,aINITIALa,aMEDIALa,BEHEH ISOLATEDa,aFINALa,aINITIALa,aMEDIALa",
       "TTEHEH ISOLATEDa,aFINALa,aINITIALa,aMEDIALa,TEHEH ISOLATEDa,aFINALa,aINITIALa,aMEDIALa",
       "TTEH ISOLATEDa,aFINALa,aINITIALa,aMEDIALa,VEH ISOLATEDa,aFINALa,aINITIALa,aMEDIALa",
       "PEHEH ISOLATEDa,aFINALa,aINITIALa,aMEDIALa,DYEH ISOLATEDa,aFINALa,aINITIALa,aMEDIALa",
       "NYEH ISOLATEDa,aFINALa,aINITIALa,aMEDIALa,TCHEH ISOLATEDa,aFINALa,aINITIALa,aMEDIALa",
       "TCHEHEH ISOLATEDa,aFINALa,aINITIALa,aMEDIALa,DDAHAL ISOLATEDa,aFINALa,DAHAL ISOLATEDa",
       "aFINALa,DUL ISOLATEDa,aFINALa,DDAL ISOLATEDa,aFINALa,JEH ISOLATEDa,aFINALa",
       "RREH ISOLATEDa,aFINALa,KEHEH ISOLATEDa,aFINALa,aINITIALa,aMEDIALa,GAF ISOLATEDa,aFINALa",
       "aINITIALa,aMEDIALa,GUEH ISOLATEDa,aFINALa,aINITIALa,aMEDIALa,NGOEH ISOLATEDa,aFINALa",
       "aINITIALa,aMEDIALa,NOON GHUNNA ISOLATEDa,bFINALa,RNOON ISOLATEDa,aFINALa,aINITIALa",
       "aMEDIALa,HEH WITH YEH ABOVE ISOLATEDa,dFINALa,aGOAL ISOLATEDa,bFINALa,bINITIALa",
       "bMEDIALa,aDOACHASHMEE ISOLATEDa,bFINALa,bINITIALa,bMEDIALa,YEH BARREE ISOLATEDa,bFINALa",
       "bWITH HAMZA ABOVE ISOLATEDa,eFINALa"]⟩,
    ⟨0xFBB2, "ARABIC SYMBOL ",
      ["DOT ABOVE,aBELOW,TWO DOTS ABOVE,bBELOW,THREE DOTS ABOVE,bBELOW",
       "bPOINTING DOWNWARDS ABOVE,dBELOW,FOUR DOTS ABOVE,bBELOW,DOUBLE VERTICAL BARa",
       "TWO DOTS VERTICALLY ABOVE,cBELOW,RING,SMALL TAH ABOVE,bBELOW,WASLA ABOVE"]⟩,
    ⟨0xFBD3, "ARABIC ",
      ["LETTER NG ISOLATED FORM,bFINALa,bINITIALa,bMEDIALa,aU ISOLATEDa,bFINALa,aOE ISOLATEDa",
       "bFINALa,aYU ISOLATEDa,bFINALa,aU WITH HAMZA ABOVE ISOLATEDa,aVEb,bFINALa",
       "aKIRGHIZ OE ISOLATEDa,cFINALa,bYU ISOLATEDa,cFINALa,aE ISOLATEDa,bFINALa,bINITIALa",
       "bMEDIALa,aUIGHUR KAZAKH KIRGHIZ ALEF MAKSURA INITIALa,fMEDIALa",
       "LIGATURE YEH WITH HAMZA ABOVE WITH ALEF ISOLATEDa,gFINALa,fAE ISOLATEDa,gFINALa",
       "fWAW ISOLATEDa,gFINALa,fU ISOLATEDa,gFINALa,fOE ISOLATEDa,gFINALa,fYU ISOLATEDa,gFINALa",
       "fE ISOLATEDa,gFINALa,gINITIALa",
       "aUIGHUR KIRGHIZ YEH WITH HAMZA ABOVE WITH ALEF MAKSURA ISOLATEDa,jFINALa,jINITIALa",
       "LETTER FARSI YEH ISOLATEDa,cFINALa,cINITIALa,cMEDIALa",
       "LIGATURE YEH WITH HAMZA ABOVE WITH JEEM ISOLATEDa,fHAHb,fMEEMb,fALEF MAKSURAb,fYEHb",
       "aBEH WITH JEEMb,cHAHb,cKHAHb,cMEEMb,cALEF MAKSURAb,cYEHb,aTEH WITH JEEMb,cHAHb,cKHAHb",
       "cMEEMb,cALEF MAKSURAb,cYEHb,aTHEH WITH JEEMb,cMEEMb,cALEF MAKSURAb,cYEHb",
       "aJEEM WITH HAHb,cMEEMb,aHAH WITH JEEMb,cMEEMb,aKHAH WITH JEEMb,cHAHb,cMEEMb",
       "aSEEN WITH JEEMb,cHAHb,cKHAHb,cMEEMb,aSAD WITH HAHb,cMEEMb,aDAD WITH JEEMb,cHAHb,cKHAHb",
       "cMEEMb,aTAH WITH HAHb,cMEEMb,aZAHd,aAIN WITH JEEMb,cMEEMb,aGHAIN WITH JEEMb,cMEEMb",
       "aFEH WITH JEEMb,cHAHb,cKHAHb,cMEEMb,cALEF MAKSURAb,cYEHb,aQAF WITH HAHb,cMEEMb",
       "cALEF MAKSURAb,cYEHb,aKAF WITH ALEFb,cJEEMb,cHAHb,cKHAHb,cLAMb,cMEEMb,cALEF MAKSURAb",
       "cYEHb"]⟩,
    ⟨0xFC3F, "ARABIC LIGATURE ",
      ["LAM WITH JEEM ISOLATED FORM,bHAHb,bKHAHb,bMEEMb,bALEF MAKSURAb,bYEHb,MEEM WITH JEEMb",
       "bHAHb,bKHAHb,bMEEMb,bALEF MAKSURAb,bYEHb,NOON WITH JEEMb,bHAHb,bKHAHb,bMEEMb",
       "bALEF MAKSURAb,bYEHb,HEH WITH JEEMb,bMEEMb,bALEF MAKSURAb,bYEHb,YEH WITH JEEMb,bHAHb",
       "bKHAHb,bMEEMb,bALEF MAKSURAb,bYEHb,THAL WITH SUPERSCRIPT ALEFb,REHe,ALEF MAKSURAe",
       "SHADDA WITH DAMMATANb,bKASRATANb,bFATHAb,bDAMMAb,bKASRAb,bSUPERSCRIPT ALEFb",
       "YEH WITH HAMZA ABOVE WITH REH FINALa,eZAINb,eMEEMb,eNOONb,eALEF MAKSURAb,eYEHb",
       "BEH WITH REHb,bZAINb,bMEEMb,bNOONb,bALEF MAKSURAb,bYEHb,TEH WITH REHb,bZAINb,bMEEMb",
       "bNOONb,bALEF MAKSURAb,bYEHb,THEH WITH REHb,bZAINb,bMEEMb,bNOONb,bALEF MAKSURAb,bYEHb",
       "FEH WITH ALEF MAKSURAb,bYEHb,QAF WITH ALEF MAKSURAb,bYEHb,KAF WITH ALEFb,bLAMb,bMEEMb",
       "bALEF MAKSURAb,bYEHb,LAM WITH MEEMb,bALEF MAKSURAb,bYEHb,MEEM WITH ALEFb,bMEEMb",
       "NOON WITH REHb,bZAINb,bMEEMb,bNOONb,bALEF MAKSURAb,bYEHb",
       "ALEF MAKSURA WITH SUPERSCRIPT ALEFb,YEH WITH REHb,bZAINb,bMEEMb,bNOONb,bALEF MAKSURAb",
       "bYEHb,bHAMZA ABOVE WITH JEEM INITIALa,eHAHb,eKHAHb,eMEEMb,eHEHb,BEH WITH JEEMb,bHAHb",
       "bKHAHb,bMEEMb,bHEHb,TEH WITH JEEMb,bHAHb,bKHAHb,bMEEMb,bHEHb,THEH WITH MEEMb",
       "JEEM WITH HAHb,bMEEMb,HAH WITH JEEMb,bMEEMb,KHAH WITH JEEMb,bMEEMb,SEEN WITH JEEMb",
       "bHAHb,bKHAHb,bMEEMb,SAD WITH HAHb,bKHAHb,bMEEMb,DAD WITH JEEMb,bHAHb,bKHAHb,bMEEMb",
       "TAH WITH HAHb,ZAH WITH MEEMb,AIN WITH JEEMb,bMEEMb,GHAIN WITH JEEMb,bMEEMb",
       "FEH WITH JEEMb,bHAHb,bKHAHb,bMEEMb,QAF WITH HAHb,bMEEMb,KAF WITH JEEMb,bHAHb,bKHAHb",
       "bLAMb,bMEEMb,LAM WITH JEEMb,bHAHb,bKHAHb,bMEEMb,bHEHb,MEEM WITH JEEMb,bHAHb,bKHAHb",
       "bMEEMb,NOON WITH JEEMb,bHAHb,bKHAHb,bMEEMb,bHEHb,HEH WITH JEEMb,bMEEMb",
       "bSUPERSCRIPT ALEFb,YEH WITH JEEMb,bHAHb,bKHAHb,bMEEMb,bHEHb",
       "bHAMZA ABOVE WITH MEEM MEDIALa,eHEHb,BEH WITH MEEMb,bHEHb,TEH WITH MEEMb,bHEHb",
       "THEH WITH MEEMb,bHEHb,SEEN WITH MEEMb,bHEHb,SHEEN WITH MEEMb,bHEHb,KAF WITH LAMb,bMEEMb",
       "LAMd,NOONd,bHEHb,YEH WITH MEEMb,bHEHb,SHADDA WITH FATHAb,bDAMMAb,bKASRAb",
       "TAH WITH ALEF MAKSURA ISOLATEDa,bYEHb,AIN WITH ALEF MAKSURAb,bYEHb",
       "GHAIN WITH ALEF MAKSURAb,bYEHb,SEEN WITH ALEF MAKSURAb,bYEHb,SHEEN WITH ALEF MAKSURAb",
       "bYEHb,HAH WITH ALEF MAKSURAb,bYEHb,JEEM WITH ALEF MAKSURAb,bYEHb",
       "KHAH WITH ALEF MAKSURAb,bYEHb,SAD WITH ALEF MAKSURAb,bYEHb,DAD WITH ALEF MAKSURAb,bYEHb",
       "SHEEN WITH JEEMb,bHAHb,bKHAHb,bMEEMb,bREHb,SEENd,SADd,DADd,TAH WITH ALEF MAKSURA FINALa",
       "bYEHb,AIN WITH ALEF MAKSURAb,bYEHb,GHAIN WITH ALEF MAKSURAb,bYEHb",
       "SEEN WITH ALEF MAKSURAb,bYEHb,SHEEN WITH ALEF MAKSURAb,bYEHb,HAH WITH ALEF MAKSURAb",
       "bYEHb,JEEM WITH ALEF MAKSURAb,bYEHb,KHAH WITH ALEF MAKSURAb,bYEHb",
       "SAD WITH ALEF MAKSURAb,bYEHb,DAD WITH ALEF MAKSURAb,bYEHb,SHEEN WITH JEEMb,bHAHb,bKHAHb",
       "bMEEMb,bREHb,SEENd,SADd,DADd,SHEEN WITH JEEM INITIALa,bHAHb,bKHAHb,bMEEMb",
       "SEEN WITH HEHb,SHEENd,TAH WITH MEEMb,SEEN WITH JEEM MEDIALa,bHAHb,bKHAHb",
       "SHEEN WITH JEEMb,bHAHb,bKHAHb,TAH WITH MEEMb,ZAHd,ALEF WITH FATHATAN FINALa,cISOLATEDa"]⟩,
    ⟨0xFD3E, "ORNATE ",
      ["LEFT PARENTHESIS,RIGHTa"]⟩,
    ⟨0xFD40, "ARABIC LIGATURE ",
      ["RAHIMAHU ALLAAH,RADI ALLAAHU ANH,bANHAA,bANHUM,bANHUMAA,bANHUNNA",
       "SALLALLAAHU ALAYHI WA-AALIH,ALAYHI AS-SALAAM,ALAYHIMa,ALAYHIMAAa",
       "ALAYHI AS-SALAATU WAS-SALAAM,QUDDISA SIRRAH,SALLALLAHU ALAYHI WAAALIHEE WA-SALLAM",
       "ALAYHAA AS-SALAAM,TABAARAKA WA-TAAALAA,RAHIMAHUM ALLAAH",
       "TEH WITH JEEM WITH MEEM INITIAL FORM,bHAH WITH JEEM FINALa,eINITIALa,dMEEMb,bKHAHd",
       "bMEEM WITH JEEMb,dHAHb,dKHAHb,JEEM WITH MEEM WITH HAH FINALa,eINITIALa",
       "HAH WITH MEEM WITH YEH FINALa,dALEF MAKSURAb,SEEN WITH HAH WITH JEEM INITIALa",
       "bJEEM WITH HAHb,dALEF MAKSURA FINALa,bMEEM WITH HAHb,eINITIALa,dJEEMb,dMEEM FINALa",
       "eINITIALa,SAD WITH HAH WITH HAH FINALa,eINITIALa,bMEEM WITH MEEM FINALa,SHEEN WITH HAHd",
       "eINITIALa,bJEEM WITH YEH FINALa,bMEEM WITH KHAHb,eINITIALa,dMEEM FINALa,eINITIALa",
       "DAD WITH HAH WITH ALEF MAKSURA FINALa,bKHAH WITH MEEMb,eINITIALa",
       "TAH WITH MEEM WITH HAH FINALa,eINITIALa,dMEEMb,dYEH FINALa,AIN WITH JEEM WITH MEEMb",
       "bMEEMd,eINITIALa,dALEF MAKSURA FINALa,GHAIN WITH MEEM WITH MEEMb,dYEHb,dALEF MAKSURAb",
       "FEH WITH KHAH WITH MEEMb,eINITIALa,QAF WITH MEEM WITH HAH FINALa,dMEEMb,LAM WITH HAHd",
       "dYEHb,dALEF MAKSURAb,bJEEM WITH JEEM INITIALa,eFINALa,bKHAH WITH MEEMb,eINITIALa",
       "bMEEM WITH HAH FINALa,eINITIALa,MEEM WITH HAH WITH JEEMb,dMEEMb,dYEH FINALa",
       "bJEEM WITH HAH INITIALa,dMEEMb,bKHAH WITH JEEMb,dMEEMb,,,bJEEM WITH KHAHb",
       "HEH WITH MEEM WITH JEEMb,dMEEMb,NOON WITH HAHd,dALEF MAKSURA FINALa,bJEEM WITH MEEMb",
       "eINITIALa,dALEF MAKSURA FINALa,bMEEM WITH YEHb,dALEF MAKSURAb,YEH WITH MEEM WITH MEEMb",
       "eINITIALa,BEH WITH KHAH WITH YEH FINALa,TEH WITH JEEMd,dALEF MAKSURAb,bKHAH WITH YEHb",
       "dALEF MAKSURAb,bMEEM WITH YEHb,dALEF MAKSURAb,JEEM WITH MEEM WITH YEHb",
       "bHAH WITH ALEF MAKSURAb,bMEEMe,SEEN WITH KHAHe,SAD WITH HAH WITH YEHb,SHEENf,DADf",
       "LAM WITH JEEMd,bMEEMd,YEH WITH HAHd,bJEEMd,bMEEMd,MEEMf,QAFf,NOON WITH HAHd",
       "QAF WITH MEEM WITH HAH INITIALa,LAM WITH HAH WITH MEEMb,AIN WITH MEEM WITH YEH FINALa",
       "KAFf,NOON WITH JEEM WITH HAH INITIALa,MEEM WITH KHAH WITH YEH FINALa",
       "LAM WITH JEEM WITH MEEM INITIALa,KAF WITH MEEM WITH MEEM FINALa,LAM WITH JEEMd",
       "NOON WITH JEEM WITH HAHb,JEEM WITH HAH WITH YEHb,HAH WITH JEEMd,MEEMf,FEH WITH MEEMd",
       "BEH WITH HAHd,KAF WITH MEEM WITH MEEM INITIALa,AIN WITH JEEMd,SAD WITH MEEMd",
       "SEEN WITH KHAH WITH YEH FINALa,NOON WITH JEEMd,,,,,,,,SALAAMUHU ALAYNAA"]⟩,
    ⟨0xFDF0, "ARABIC LIGATURE ",
      ["SALLA USED AS KORANIC STOP SIGN ISOLATED FORM,QALAg,ALLAHb,AKBARb,MOHAMMADb,SALAMb",
       "RASOULb,ALAYHEb,WASALLAMb,SALLAb,SALLALLAHOU ALAYHE WASALLAM,JALLAJALALOUHOU"]⟩,
    ⟨0xFDFC, "RIAL ",
      ["SIGN"]⟩,
    ⟨0xFDFD, "ARABIC LIGATURE ",
      ["BISMILLAH AR-RAHMAN AR-RAHEEM,SUBHAANAHU WA TAAALAA,AZZA WA JALL"]⟩,
    ⟨0xFE10, "PRESENTATION FORM FOR VERTICAL ",
      ["COMMA,IDEOGRAPHICa,aFULL STOP,COLON,SEMICOLON,EXCLAMATION MARK,QUESTIONa",
       "LEFT WHITE LENTICULAR BRACKET,RIGHT WHITE LENTICULAR BRAKCET,HORIZONTAL ELLIPSIS"]⟩,
    ⟨0xFE20, "COMBINING ",
      ["LIGATURE LEFT HALF,aRIGHTa,DOUBLE TILDE LEFTa,bRIGHTa,MACRON LEFTa,aRIGHTa",
       "CONJOINING MACRON,LIGATURE LEFT HALF BELOW,aRIGHTb,TILDE LEFTb,aRIGHTb,MACRON LEFTb",
       "aRIGHTb,CONJOINING MACRONa,CYRILLIC TITLO LEFT HALF,bRIGHTa"]⟩,
    ⟨0xFE30, "PRESENTATION FORM FOR VERTICAL ",
      ["TWO DOT LEADER,EM DASH,ENa,LOW LINE,WAVYb,LEFT PARENTHESIS,RIGHTa,LEFT CURLY BRACKET",
       "RIGHTb,LEFT TORTOISE SHELLa,RIGHTc,LEFT BLACK LENTICULARa,RIGHTc,LEFT DOUBLE ANGLEa",
       "RIGHTc,LEFTb,RIGHTb,LEFT CORNERa,RIGHTb,LEFT WHITEb,RIGHTc"]⟩,
    ⟨0xFE45, "",
      ["SESAME DOT,WHITEb,PRESENTATION FORM FOR VERTICAL LEFT SQUARE BRACKET,dRIGHTb",
       "DASHED OVERLINE,CENTRELINEa,WAVYa,DOUBLEb,DASHED LOW LINE,CENTRELINEb,WAVYb"]⟩,
    ⟨0xFE50, "SMALL ",
      ["COMMA,IDEOGRAPHICa,FULL STOP,,SEMICOLON,COLON,QUESTION MARK,EXCLAMATIONa,EM DASH",
       "LEFT PARENTHESIS,RIGHTa,LEFT CURLY BRACKET,RIGHTb,LEFT TORTOISE SHELLa,RIGHTc",
       "NUMBER SIGN,AMPERSAND,ASTERISK,PLUS SIGN,HYPHEN-MINUS,LESS-THAN SIGN,GREATER-THANa",
       "EQUALSa,,REVERSE SOLIDUS,DOLLAR SIGN,PERCENTa,COMMERCIAL AT"]⟩,
    ⟨0xFE70, "ARABIC ",
      ["FATHATAN ISOLATED FORM,TATWEEL WITH FATHATAN ABOVE,DAMMATAN ISOLATED FORM,TAIL FRAGMENT",
       "KASRATAN ISOLATED FORM,,FATHAb,aMEDIALa,DAMMA ISOLATEDa,aMEDIALa,KASRA ISOLATEDa",
       "aMEDIALa,SHADDA ISOLATEDa,aMEDIALa,SUKUN ISOLATEDa,aMEDIALa,LETTER HAMZA ISOLATEDa",
       "aALEF WITH MADDA ABOVEb,eFINALa,cHAMZA ABOVE ISOLATEDa,eFINALa",
       "aWAW WITH HAMZA ABOVE ISOLATEDa,eFINALa,aALEF WITH HAMZA BELOW ISOLATEDa,eFINALa",
       "aYEH WITH HAMZA ABOVE ISOLATEDa,eFINALa,eINITIALa,eMEDIALa,aALEF ISOLATEDa,bFINALa",
       "aBEH ISOLATEDa,bFINALa,bINITIALa,bMEDIALa,aTEH MARBUTA ISOLATEDa,cFINALa,bISOLATEDa",
       "bFINALa,bINITIALa,bMEDIALa,aTHEH ISOLATEDa,bFINALa,bINITIALa,bMEDIALa,aJEEM ISOLATEDa",
       "bFINALa,bINITIALa,bMEDIALa,aHAH ISOLATEDa,bFINALa,bINITIALa,bMEDIALa,aKHAH ISOLATEDa",
       "bFINALa,bINITIALa,bMEDIALa,aDAL ISOLATEDa,bFINALa,aTHAL ISOLATEDa,bFINALa",
       "aREH ISOLATEDa,bFINALa,aZAIN ISOLATEDa,bFINALa,aSEEN ISOLATEDa,bFINALa,bINITIALa",
       "bMEDIALa,aSHEEN ISOLATEDa,bFINALa,bINITIALa,bMEDIALa,aSAD ISOLATEDa,bFINALa,bINITIALa",
       "bMEDIALa,aDAD ISOLATEDa,bFINALa,bINITIALa,bMEDIALa,aTAH ISOLATEDa,bFINALa,bINITIALa",
       "bMEDIALa,aZAH ISOLATEDa,bFINALa,bINITIALa,bMEDIALa,aAIN ISOLATEDa,bFINALa,bINITIALa",
       "bMEDIALa,aGHAIN ISOLATEDa,bFINALa,bINITIALa,bMEDIALa,aFEH ISOLATEDa,bFINALa,bINITIALa",
       "bMEDIALa,aQAF ISOLATEDa,bFINALa,bINITIALa,bMEDIALa,aKAF ISOLATEDa,bFINALa,bINITIALa",
       "bMEDIALa,aLAM ISOLATEDa,bFINALa,bINITIALa,bMEDIALa,aMEEM ISOLATEDa,bFINALa,bINITIALa",
       "bMEDIALa,aNOON ISOLATEDa,bFINALa,bINITIALa,bMEDIALa,aHEH ISOLATEDa,bFINALa,bINITIALa",
       "bMEDIALa,aWAW ISOLATEDa,bFINALa,aALEF MAKSURA ISOLATEDa,cFINALa,aYEH ISOLATEDa,bFINALa",
       "bINITIALa,bMEDIALa,LIGATURE LAM WITH ALEF WITH MADDA ABOVE ISOLATEDa,gFINALa",
       "eHAMZA ABOVE ISOLATEDa,gFINALa,fBELOW ISOLATEDa,gFINALa,dISOLATEDa,dFINALa"]⟩,
    ⟨0xFEFF, "ZERO WIDTH NO-BREAK ",
      ["SPACE"]⟩,
    ⟨0xFF01, "FULLWIDTH ",
      ["EXCLAMATION MARK,QUOTATIONa,NUMBER SIGN,DOLLARa,PERCENTa,AMPERSAND,APOSTROPHE",
       "LEFT PARENTHESIS,RIGHTa,ASTERISK,PLUS SIGN,COMMA,HYPHEN-MINUS,FULL STOP,SOLIDUS",
       "DIGIT ZERO,aONE,aTWO,aTHREE,aFOUR,aFIVE,aSIX,aSEVEN,aEIGHT,aNINE,COLON,SEMICOLON",
       "LESS-THAN SIGN,EQUALSa,GREATER-THANa,QUESTION MARK,COMMERCIAL AT,LATIN CAPITAL LETTER A",
       "cB,cC,cD,cE,cF,cG,cH,cI,cJ,cK,cL,cM,cN,cO,cP,cQ,cR,cS,cT,cU,cV,cW,cX,cY,cZ",
       "LEFT SQUARE BRACKET,REVERSE SOLIDUS,RIGHT SQUARE BRACKET,CIRCUMFLEX ACCENT,LOW LINE",
       "GRAVE ACCENT,LATIN SMALL LETTER A,cB,cC,cD,cE,cF,cG,cH,cI,cJ,cK,cL,cM,cN,cO,cP,cQ,cR,cS",
       "cT,cU,cV,cW,cX,cY,cZ,LEFT CURLY BRACKET,VERTICAL LINE,RIGHT CURLY BRACKET,TILDE",
       "LEFT WHITE PARENTHESIS,RIGHTb"]⟩,
    ⟨0xFF61, "HALFWIDTH ",
      ["IDEOGRAPHIC FULL STOP,LEFT CORNER BRACKET,RIGHTb,IDEOGRAPHIC COMMA,KATAKANA MIDDLE DOT",
       "aLETTER WO,bSMALL A,cI,cU,cE,cO,cYA,cYU,cYO,cTU,KATAKANA-HIRAGANA PROLONGED SOUND MARK",
       "KATAKANA LETTER A,bI,bU,bE,bO,bKA,bKI,bKU,bKE,bKO,bSA,bSI,bSU,bSE,bSO,bTA,bTI,bTU,bTE",
       "bTO,bNA,bNI,bNU,bNE,bNO,bHA,bHI,bHU,bHE,bHO,bMA,bMI,bMU,bME,bMO,bYA,bYU,bYO,bRA,bRI,bRU",
       "bRE,bRO,bWA,bN,aVOICED SOUND MARK,aSEMI-VOICEDb,HANGUL FILLER"]⟩,
    ⟨0xFFA1, "HALFWIDTH HANGUL LETTER ",
      ["KIYEOK,SSANGKIYEOK,KIYEOK-SIOS,NIEUN,NIEUN-CIEUC,NIEUN-HIEUH,TIKEUT,SSANGTIKEUT,RIEUL",
       "RIEUL-KIYEOK,RIEUL-MIEUM,RIEUL-PIEUP,RIEUL-SIOS,RIEUL-THIEUTH,RIEUL-PHIEUPH,RIEUL-HIEUH",
       "MIEUM,PIEUP,SSANGPIEUP,PIEUP-SIOS,SIOS,SSANGSIOS,IEUNG,CIEUC,SSANGCIEUC,CHIEUCH,KHIEUKH",
       "THIEUTH,PHIEUPH,HIEUH,,,,A,AE,YA,YAE,EO,E,,,YEO,YE,O,WA,WAE,OE,,,YO,U,WEO,WE,WI,YU,,,EU",
       "YI,I"]⟩,
    ⟨0xFFE0, "FULLWIDTH ",
      ["CENT SIGN,POUNDa,NOTa,MACRON,BROKEN BAR,YEN SIGN,WONa"]⟩,
    ⟨0xFFE8, "HALFWIDTH ",
      ["FORMS LIGHT VERTICAL,LEFTWARDS ARROW,UPWARDSa,RIGHTWARDSa,DOWNWARDSa,BLACK SQUARE",
       "WHITE CIRCLE"]⟩,
    ⟨0xFFF9, "INTERLINEAR ANNOTATION ",
      ["ANCHOR,SEPARATOR,TERMINATOR"]⟩,
    ⟨0xFFFC, "OBJECT REPLACEMENT ",
      ["CHARACTER"]⟩,
    ⟨0xFFFD, "REPLACEMENT ",
      ["CHARACTER"]⟩ ]

end LineTally.CharNames
