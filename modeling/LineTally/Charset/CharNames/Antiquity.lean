import LineTally.Charset.CharNames.Basic

namespace LineTally.CharNames

/-!
# Names of ancient letters

The names of the characters from 0x10000 to 0x1CDFF: mostly the scripts of
languages that are no longer spoken.
-/

/-- The names of these characters, in their order. -/
def antiquity : List NameRun :=
  [ ⟨0x10000, "LINEAR B SYLLABLE ",
      ["B008 A,B038 E,B028 I,B061 O,B010 U,B001 DA,B045 DE,B007 DI,B014 DO,B051 DU,B057 JA",
       "B046 JE,,B036 JO,B065 JU,B077 KA,B044 KE,B067 KI,B070 KO,B081 KU,B080 MA,B013 ME",
       "B073 MI,B015 MO,B023 MU,B006 NA,B024 NE,B030 NI,B052 NO,B055 NU,B003 PA,B072 PE,B039 PI",
       "B011 PO,B050 PU,B016 QA,B078 QE,B021 QI,B032 QO,,B060 RA,B027 RE,B053 RI,B002 RO",
       "B026 RU,B031 SA,B009 SE,B041 SI,B012 SO,B058 SU,B059 TA,B004 TE,B037 TI,B005 TO,B069 TU",
       "B054 WA,B075 WE,B040 WI,B042 WO,,B017 ZA,B074 ZE,,B020 ZO,B025 A2,B043 A3,B085 AU",
       "B071 DWE,B090 DWO,B048 NWA,B029 PU2,B062 PTE,B076 RA2,B033 RA3,B068 RO2,B066 TA2",
       "B087 TWE,B091 TWO"]⟩,
    ⟨0x10050, "LINEAR B SYMBOL ",
      ["B018,B019,B022,B034,B047,B049,B056,B063,B064,B079,B082,B083,B086,B089"]⟩,
    ⟨0x10080, "LINEAR B ",
      ["IDEOGRAM B100 MAN,aB102 WOMAN,aB104 DEER,aB105 EQUID,aB105F MARE,aB105M STALLION",
       "aB106F EWE,aB106M RAM,aB107F SHE-GOAT,aB107M HE-GOAT,aB108F SOW,aB108M BOAR,aB109F COW",
       "aB109M BULL,aB120 WHEAT,aB121 BARLEY,aB122 OLIVE,aB123 SPICE,aB125 CYPERUS",
       "MONOGRAM B127 KAPO,aB128 KANAKO,IDEOGRAM B130 OIL,aB131 WINE,aB132,MONOGRAM B133 AREPA",
       "aB135 MERI,IDEOGRAM B140 BRONZE,aB141 GOLD,aB142,aB145 WOOL,aB146,aB150,aB151 HORN",
       "aB152,aB153,aB154,MONOGRAM B156 TURO2,IDEOGRAM B157,aB158,aB159 CLOTH,aB160,aB161",
       "aB162 GARMENT,aB163 ARMOUR,aB164,aB165,aB166,aB167,aB168,aB169,aB170,aB171,aB172",
       "aB173 MONTH,aB174,aB176 TREE,aB177,aB178,aB179,aB180,aB181,aB182,aB183,aB184,aB185",
       "aB189,aB190,aB191 HELMET,aB220 FOOTSTOOL,aB225 BATHTUB,aB230 SPEAR,aB231 ARROW,aB232",
       "aB233 SWORD,aB234,aB236,aB240 WHEELED CHARIOT,aB241a,aB242 CHARIOT FRAME,aB243 WHEEL",
       "aB245,aB246,MONOGRAM B247 DIPTE,IDEOGRAM B248,aB249,aB251,aB252,aB253,aB254 DART,aB255",
       "aB256,aB257,aB258,aB259,aVESSEL B155,bB200,bB201,bB202,bB203,bB204,bB205,bB206,bB207",
       "bB208,bB209,bB210,bB211,bB212,bB213,bB214,bB215,bB216,bB217,bB218,bB219,bB221,bB222",
       "bB226,bB227,bB228,bB229,bB250,bB305"]⟩,
    ⟨0x10100, "AEGEAN ",
      ["WORD SEPARATOR LINE,bDOT,CHECK MARK,,,,,NUMBER ONE,aTWO,aTHREE,aFOUR,aFIVE,aSIX,aSEVEN",
       "aEIGHT,aNINE,aTEN,aTWENTY,aTHIRTY,aFORTY,aFIFTY,aSIXTY,aSEVENTY,aEIGHTY,aNINETY",
       "aONE HUNDRED,aTWOa,aTHREEa,aFOURa,aFIVEa,aSIXa,aSEVENa,aEIGHTa,aNINEa,aONE THOUSAND",
       "aTWOa,aTHREEa,aFOURa,aFIVEa,aSIXa,aSEVENa,aEIGHTa,aNINEa,aTENa,aTWENTYa,aTHIRTYa",
       "aFORTYa,aFIFTYa,aSIXTYa,aSEVENTYa,aEIGHTYa,aNINETYa,,,,WEIGHT BASE UNIT,aFIRST SUBUNIT",
       "aSECONDa,aTHIRDa,aFOURTHa,DRY MEASURE FIRSTa,LIQUIDc,MEASURE SECONDa,aTHIRDa"]⟩,
    ⟨0x10140, "GREEK ",
      ["ACROPHONIC ATTIC ONE QUARTER,cHALF,cDRACHMA,bFIVE,bFIFTY,bFIVE HUNDRED,cTHOUSAND",
       "bFIFTYa,bFIVE TALENTS,bTENa,bFIFTYa,bONE HUNDREDa,bFIVEb,bONE THOUSANDa,bFIVEb,cSTATERS",
       "bTENa,bFIFTYa,bONE HUNDREDa,bFIVEb,bONE THOUSANDa,bTENb,bFIFTYb,bTEN MNAS",
       "aHERAEUM ONE PLETHRON,aTHESPIAN ONE,aHERMIONIANa,aEPIDAUREAN TWO,aTHESPIANa",
       "aCYRENAIC TWO DRACHMAS,aEPIDAUREANb,aTROEZENIAN FIVE,bTEN,cALTERNATE FORM",
       "aHERMIONIAN TEN,aMESSENIANa,aTHESPIANa,bTHIRTY,aTROEZENIAN FIFTY,cALTERNATE FORM",
       "aHERMIONIAN FIFTY,aTHESPIANa,bONE HUNDRED,bTHREEa,aEPIDAUREAN FIVEa,aTROEZENIANb",
       "aTHESPIANb,aCARYSTIANb,aNAXIANb,aTHESPIAN ONE THOUSAND,bFIVEa,aDELPHIC FIVE MNAS",
       "aSTRATIAN FIFTYa,ONE HALF SIGN,cALTERNATE FORM,TWO THIRDS SIGN,THREE QUARTERSa,YEARa",
       "TALENTa,DRACHMAa,OBOLa,TWO OBOLSa,THREEb,FOURb,FIVEb,METRETESa,KYATHOS BASEa,LITRAa",
       "OUNKIAa,XESTESa,ARTABEa,AROURAa,GRAMMAa,TRYBLION BASEa,ZEROa,ONE QUARTERa,SINUSOIDa",
       "INDICTIONa"]⟩,
    ⟨0x1018E, "NOMISMA ",
      ["SIGN"]⟩,
    ⟨0x10190, "ROMAN ",
      ["SEXTANS SIGN,UNCIAa,SEMUNCIAa,SEXTULAa,DIMIDIAb,SILIQUAa,DENARIUSa,QUINARIUSa",
       "SESTERTIUSa,DUPONDIUSa,ASa,CENTURIALa"]⟩,
    ⟨0x1019C, "ASCIA ",
      ["SYMBOL"]⟩,
    ⟨0x101A0, "GREEK SYMBOL TAU ",
      ["RHO"]⟩,
    ⟨0x101D0, "PHAISTOS DISC SIGN ",
      ["PEDESTRIAN,PLUMED HEAD,TATTOOEDa,CAPTIVE,CHILD,WOMAN,HELMET,GAUNTLET,TIARA,ARROW,BOW",
       "SHIELD,CLUB,MANACLES,MATTOCK,SAW,LID,BOOMERANG,CARPENTRY PLANE,DOLIUM,COMB,SLING,COLUMN",
       "BEEHIVE,SHIP,HORN,HIDE,BULLS LEG,CAT,RAM,EAGLE,DOVE,TUNNY,BEE,PLANE TREE,VINE,PAPYRUS",
       "ROSETTE,LILY,OX BACK,FLUTE,GRATER,STRAINER,SMALL AXE,WAVY BAND,COMBINING OBLIQUE STROKE"]⟩,
    ⟨0x10280, "LYCIAN LETTER ",
      ["A,E,B,BH,G,D,I,W,Z,TH,J,K,Q,L,M,N,MM,NN,U,P,KK,R,S,T,TT,AN,EN,H,X"]⟩,
    ⟨0x102A0, "CARIAN LETTER ",
      ["A,P2,D,L,UUU,R,LD,A2,Q,B,M,O,D2,T,SH,SH2,S,C-18,U,NN,X,N,TT2,P,SS,I,E,UUUU,K,K2,ND,UU,G",
       "G2,ST,ST2,NG,II,C-39,TT,UUU2,RR,MB,MB2,MB3,MB4,LD2,E2,UUU3"]⟩,
    ⟨0x102E0, "COPTIC EPACT ",
      ["THOUSANDS MARK,DIGIT ONE,aTWO,aTHREE,aFOUR,aFIVE,aSIX,aSEVEN,aEIGHT,aNINE,NUMBER TEN",
       "aTWENTY,aTHIRTY,aFORTY,aFIFTY,aSIXTY,aSEVENTY,aEIGHTY,aNINETY,aONE HUNDRED,aTWOa",
       "aTHREEa,aFOURa,aFIVEa,aSIXa,aSEVENa,aEIGHTa,aNINEa"]⟩,
    ⟨0x10300, "OLD ITALIC ",
      ["LETTER A,aBE,aKE,aDE,aE,aVE,aZE,aHE,aTHE,aI,aKA,aEL,aEM,aEN,aESH,aO,aPE,aSHE,aKU,aER",
       "aES,aTE,aU,aEKS,aPHE,aKHE,aEF,aERS,aCHE,aII,aUU,aESS,NUMERAL ONE,aFIVE,aTEN,aFIFTY,,,,,",
       ",,,,LETTER YE,aNORTHERN TSE,aSOUTHERNa"]⟩,
    ⟨0x10330, "GOTHIC LETTER ",
      ["AHSA,BAIRKAN,GIBA,DAGS,AIHVUS,QAIRTHRA,IUJA,HAGL,THIUTH,EIS,KUSMA,LAGUS,MANNA,NAUTHS",
       "JER,URUS,PAIRTHRA,NINETY,RAIDA,SAUIL,TEIWS,WINJA,FAIHU,IGGWS,HWAIR,OTHAL,NINE HUNDRED"]⟩,
    ⟨0x10350, "OLD PERMIC LETTER ",
      ["AN,BUR,GAI,DOI,E,ZHOI,DZHOI,ZATA,DZITA,I,KOKE,LEI,MENOE,NENOE,VOOI,PEEI,REI,SII,TAI,U",
       "CHERY,SHOOI,SHCHOOI,YRY,YERU,O,OO,EF,HA,TSIU,VER,YER,YERI,YAT,IE,YU,YA,IA"]⟩,
    ⟨0x10376, "COMBINING OLD PERMIC LETTER ",
      ["AN,DOI,ZATA,NENOE,SII"]⟩,
    ⟨0x10380, "UGARITIC ",
      ["LETTER ALPA,aBETA,aGAMLA,aKHA,aDELTA,aHO,aWO,aZETA,aHOTA,aTET,aYOD,aKAF,aSHIN,aLAMDA",
       "aMEM,aDHAL,aNUN,aZU,aSAMKA,aAIN,aPU,aSADE,aQOPA,aRASHA,aTHANNA,aGHAIN,aTO,aI,aU,aSSU,",
       "WORD DIVIDER"]⟩,
    ⟨0x103A0, "OLD PERSIAN SIGN ",
      ["A,I,U,KA,KU,GA,GU,XA,CA,JA,JI,TA,TU,DA,DI,DU,THA,PA,BA,FA,NA,NU,MA,MI,MU,YA,VA,VI,RA,RU",
       "LA,SA,ZA,SHA,SSA,HA,,,,,AURAMAZDAA,AURAMAZDAA-2,AURAMAZDAAHA,XSHAAYATHIYA,DAHYAAUSH",
       "DAHYAAUSH-2,BAGA,BUUMISH"]⟩,
    ⟨0x103D0, "OLD PERSIAN ",
      ["WORD DIVIDER,NUMBER ONE,aTWO,aTEN,aTWENTY,aHUNDRED"]⟩,
    ⟨0x10400, "DESERET CAPITAL LETTER ",
      ["LONG I,aE,aA,aAH,aO,aOO,SHORT I,aE,aA,aAH,aO,aOO,AY,OW,WU,YEE,H,PEE,BEE,TEE,DEE,CHEE",
       "JEE,KAY,GAY,EF,VEE,ETH,THEE,ES,ZEE,ESH,ZHEE,ER,EL,EM,EN,ENG,OI,EW"]⟩,
    ⟨0x10428, "DESERET SMALL LETTER ",
      ["LONG I,aE,aA,aAH,aO,aOO,SHORT I,aE,aA,aAH,aO,aOO,AY,OW,WU,YEE,H,PEE,BEE,TEE,DEE,CHEE",
       "JEE,KAY,GAY,EF,VEE,ETH,THEE,ES,ZEE,ESH,ZHEE,ER,EL,EM,EN,ENG,OI,EW"]⟩,
    ⟨0x10450, "SHAVIAN LETTER ",
      ["PEEP,TOT,KICK,FEE,THIGH,SO,SURE,CHURCH,YEA,HUNG,BIB,DEAD,GAG,VOW,THEY,ZOO,MEASURE,JUDGE",
       "WOE,HA-HA,LOLL,MIME,IF,EGG,ASH,ADO,ON,WOOL,OUT,AH,ROAR,NUN,EAT,AGE,ICE,UP,OAK,OOZE,OIL",
       "AWE,ARE,OR,AIR,ERR,ARRAY,EAR,IAN,YEW"]⟩,
    ⟨0x10480, "OSMANYA LETTER ",
      ["ALEF,BA,TA,JA,XA,KHA,DEEL,RA,SA,SHIIN,DHA,CAYN,GA,FA,QAAF,KAAF,LAAN,MIIN,NUUN,WAW,HA,YA",
       "A,E,I,O,U,AA,EE,OO"]⟩,
    ⟨0x104A0, "OSMANYA DIGIT ",
      ["ZERO,ONE,TWO,THREE,FOUR,FIVE,SIX,SEVEN,EIGHT,NINE"]⟩,
    ⟨0x104B0, "OSAGE CAPITAL LETTER ",
      ["A,AI,AIN,AH,BRA,CHA,EHCHA,E,EIN,HA,HYA,I,KA,EHKA,KYA,LA,MA,NA,O,OIN,PA,EHPA,SA,SHA,TA",
       "EHTA,TSA,EHTSA,TSHA,DHA,U,WA,KHA,GHA,ZA,ZHA"]⟩,
    ⟨0x104D8, "OSAGE SMALL LETTER ",
      ["A,AI,AIN,AH,BRA,CHA,EHCHA,E,EIN,HA,HYA,I,KA,EHKA,KYA,LA,MA,NA,O,OIN,PA,EHPA,SA,SHA,TA",
       "EHTA,TSA,EHTSA,TSHA,DHA,U,WA,KHA,GHA,ZA,ZHA"]⟩,
    ⟨0x10500, "ELBASAN LETTER ",
      ["A,BE,CE,CHE,DE,NDE,DHE,EI,E,FE,GE,GJE,HE,I,JE,KE,LE,LLE,ME,NE,NA,NJE,O,PE,QE,RE,RRE,SE",
       "SHE,TE,THE,U,VE,XE,Y,ZE,ZHE,GHE,GHAMMA,KHE"]⟩,
    ⟨0x10530, "CAUCASIAN ALBANIAN LETTER ",
      ["ALT,BET,GIM,DAT,EB,ZARL,EYN,ZHIL,TAS,CHA,YOWD,ZHA,IRB,SHA,LAN,INYA,XEYN,DYAN,CAR,JHOX",
       "KAR,LYIT,HEYT,QAY,AOR,CHOY,CHI,CYAY,MAQ,QAR,NOWC,DZYAY,SHAK,JAYN,ON,TYAY,FAM,DZAY,CHAT",
       "PEN,GHEYS,RAT,SEYK,VEYZ,TIWR,SHOY,IWN,CYAW,CAYN,YAYD,PIWR,KIW"]⟩,
    ⟨0x1056F, "CAUCASIAN ALBANIAN CITATION ",
      ["MARK"]⟩,
    ⟨0x10570, "VITHKUQI CAPITAL LETTER ",
      ["A,BBE,BE,CE,CHE,DE,DHE,EI,E,FE,GA,,HA,HHA,I,IJE,JE,KA,LA,LLA,ME,NE,NJE,O,PE,QA,RE,,SE",
       "SHE,TE,THE,U,VE,XE,,Y,ZE"]⟩,
    ⟨0x10597, "VITHKUQI SMALL LETTER ",
      ["A,BBE,BE,CE,CHE,DE,DHE,EI,E,FE,GA,,HA,HHA,I,IJE,JE,KA,LA,LLA,ME,NE,NJE,O,PE,QA,RE,,SE",
       "SHE,TE,THE,U,VE,XE,,Y,ZE"]⟩,
    ⟨0x10600, "LINEAR A SIGN ",
      ["AB001,AB002,AB003,AB004,AB005,AB006,AB007,AB008,AB009,AB010,AB011,AB013,AB016,AB017",
       "AB020,AB021,AB021F,AB021M,AB022,AB022F,AB022M,AB023,AB023M,AB024,AB026,AB027,AB028",
       "A028B,AB029,AB030,AB031,AB034,AB037,AB038,AB039,AB040,AB041,AB044,AB045,AB046,AB047",
       "AB048,AB049,AB050,AB051,AB053,AB054,AB055,AB056,AB057,AB058,AB059,AB060,AB061,AB065",
       "AB066,AB067,AB069,AB070,AB073,AB074,AB076,AB077,AB078,AB079,AB080,AB081,AB082,AB085",
       "AB086,AB087,A100-102,AB118,AB120,A120B,AB122,AB123,AB131A,AB131B,A131C,AB164"]⟩,
    ⟨0x10651, "LINEAR A SIGN ",
      ["AB171,AB180,AB188,AB191,A301,A302,A303,A304,A305,A306,A307,A308,A309A,A309B,A309C,A310",
       "A311,A312,A313A,A313B,A313C,A314,A315,A316,A317,A318,A319,A320,A321,A322,A323,A324,A325",
       "A326,A327,A328,A329,A330,A331,A332,A333,A334,A335,A336,A337,A338,A339,A340,A341,A342",
       "A343,A344,A345,A346,A347,A348,A349,A350,A351,A352,A353,A354,A355,A356,A357,A358,A359",
       "A360,A361,A362,A363,A364,A365,A366,A367,A368,A369,A370,A371,A400-VAS,A401-VAS,A402-VAS",
       "A403-VAS,A404-VAS,A405-VAS,A406-VAS,A407-VAS,A408-VAS,A409-VAS,A410-VAS,A411-VAS",
       "A412-VAS,A413-VAS,A414-VAS,A415-VAS,A416-VAS,A417-VAS,A418-VAS,A501,A502,A503,A504,A505",
       "A506,A508,A509,A510,A511,A512,A513,A515,A516,A520,A521,A523,A524,A525,A526,A527,A528",
       "A529,A530,A531,A532,A534,A535,A536,A537,A538,A539,A540,A541,A542,A545,A547,A548,A549",
       "A550,A551,A552,A553,A554,A555,A556,A557,A559,A563,A564,A565,A566,A568,A569,A570,A571",
       "A572,A573,A574,A575,A576,A577,A578,A579,A580,A581,A582,A583,A584,A585,A586,A587,A588",
       "A589,A591,A592,A594,A595,A596,A598,A600,A601,A602,A603,A604,A606,A608,A609,A610,A611",
       "A612,A613,A614,A615,A616,A617,A618,A619,A620,A621,A622,A623,A624,A626,A627,A628,A629",
       "A634,A637,A638,A640,A642,A643,A644,A645,A646,A648,A649,A651,A652,A653,A654,A655,A656",
       "A657,A658,A659,A660,A661,A662,A663,A664,,,,,,,,,,A701 A,A702 B,A703 D,A704 E,A705 F",
       "A706 H,A707 J,A708 K,A709 L,A709-2 L2,A709-3 L3,A709-4 L4,A709-6 L6,A710 W,A711 X",
       "A712 Y,A713 OMEGA,A714 ABB,A715 BB,A717 DD,A726 EYYY,A732 JE,,,,,,,,,,,A800,A801,A802",
       "A803,A804,A805,A806,A807"]⟩,
    ⟨0x10780, "MODIFIER LETTER ",
      ["SMALL CAPITAL AA,SUPERSCRIPT TRIANGULAR COLON,aHALFb,SMALL AE,aCAPITAL B,aB WITH HOOK,",
       "aDZ DIGRAPH,cWITH RETROFLEX HOOK,dCURL,aDEZH DIGRAPH,aD WITH TAIL,cHOOK,dAND TAIL",
       "aREVERSED E,aCLOSED REVERSED OPENa,aFENG DIGRAPH,aRAMS HORN,aCAPITAL G,aG WITH HOOK",
       "aCAPITALc,aH WITH STROKE,aCAPITAL H,aHENG WITH HOOK,aDOTLESS J WITH STROKE ANDa",
       "aLS DIGRAPH,aLZa,aL WITH BELT,aCAPITALc,aL WITH RETROFLEX HOOK ANDa,aLEZH",
       "bWITH RETROFLEX HOOK,aTURNED Y,cWITH BELT,aO WITH STROKE,aCAPITAL OE,aCLOSED OMEGA,aQ",
       "aTURNED R WITH LONG LEG,fAND RETROFLEX HOOK,aR WITH TAIL,cFISHHOOK,aCAPITAL R",
       "aTC DIGRAPH WITH CURL,aTS DIGRAPH,cWITH RETROFLEX HOOK,aTESH DIGRAPH",
       "aT WITH RETROFLEX HOOK,aV WITH RIGHTa,,aCAPITAL Y,GLOTTAL STOP WITH STROKE,REVERSEDd",
       "BILABIAL CLICK,DENTALa,LATERALa,ALVEOLARa,RETROFLEX CLICK WITH RETROFLEX HOOK",
       "SMALL S WITH CURL"]⟩,
    ⟨0x10800, "CYPRIOT SYLLABLE ",
      ["A,E,I,O,U,JA,,,JO,,KA,KE,KI,KO,KU,LA,LE,LI,LO,LU,MA,ME,MI,MO,MU,NA,NE,NI,NO,NU,PA,PE,PI",
       "PO,PU,RA,RE,RI,RO,RU,SA,SE,SI,SO,SU,TA,TE,TI,TO,TU,WA,WE,WI,WO,,XA,XE,,,,ZA,,,ZO"]⟩,
    ⟨0x10840, "IMPERIAL ARAMAIC ",
      ["LETTER ALEPH,aBETH,aGIMEL,aDALETH,aHE,aWAW,aZAYIN,aHETH,aTETH,aYODH,aKAPH,aLAMEDH,aMEM",
       "aNUN,aSAMEKH,aAYIN,aPE,aSADHE,aQOPH,aRESH,aSHIN,aTAW,,SECTION SIGN,NUMBER ONE,aTWO",
       "aTHREE,aTEN,aTWENTY,aONE HUNDRED,bTHOUSAND,aTENa"]⟩,
    ⟨0x10860, "PALMYRENE ",
      ["LETTER ALEPH,aBETH,aGIMEL,aDALETH,aHE,aWAW,aZAYIN,aHETH,aTETH,aYODH,aKAPH,aLAMEDH,aMEM",
       "aFINAL NUN,aa,aSAMEKH,aAYIN,aPE,aSADHE,aQOPH,aRESH,aSHIN,aTAW,LEFT-POINTING FLEURON",
       "RIGHT-POINTINGa,NUMBER ONE,aTWO,aTHREE,aFOUR,aFIVE,aTEN,aTWENTY"]⟩,
    ⟨0x10880, "NABATAEAN ",
      ["LETTER FINAL ALEPH,aa,aFINAL BETH,aa,aGIMEL,aDALETH,aFINAL HE,aa,aWAW,aZAYIN,aHETH",
       "aTETH,aFINAL YODH,aa,aFINAL KAPH,aa,aFINAL LAMEDH,aa,aFINAL MEM,aa,aFINAL NUN,aa",
       "aSAMEKH,aAYIN,aPE,aSADHE,aQOPH,aRESH,aFINAL SHIN,aa,aTAW,,,,,,,,,NUMBER ONE,aTWO,aTHREE",
       "aFOUR,CRUCIFORMb,NUMBER FIVE,aTEN,aTWENTY,aONE HUNDRED"]⟩,
    ⟨0x108E0, "HATRAN LETTER ",
      ["ALEPH,BETH,GIMEL,DALETH-RESH,HE,WAW,ZAYN,HETH,TETH,YODH,KAPH,LAMEDH,MEM,NUN,SAMEKH,AYN",
       "PE,SADHE,QOPH,,SHIN,TAW"]⟩,
    ⟨0x108FB, "HATRAN NUMBER ",
      ["ONE,FIVE,TEN,TWENTY,ONE HUNDRED"]⟩,
    ⟨0x10900, "PHOENICIAN ",
      ["LETTER ALF,aBET,aGAML,aDELT,aHE,aWAU,aZAI,aHET,aTET,aYOD,aKAF,aLAMD,aMEM,aNUN,aSEMK",
       "aAIN,aPE,aSADE,aQOF,aROSH,aSHIN,aTAU,NUMBER ONE,aTEN,aTWENTY,aONE HUNDRED,aTWO,aTHREE,,",
       ",WORD SEPARATOR"]⟩,
    ⟨0x10920, "LYDIAN LETTER ",
      ["A,B,G,D,E,V,I,Y,K,L,M,N,O,R,SS,T,U,F,Q,S,TT,AN,EN,LY,NN,C"]⟩,
    ⟨0x1093F, "LYDIAN TRIANGULAR ",
      ["MARK"]⟩,
    ⟨0x10980, "MEROITIC ",
      ["HIEROGLYPHIC LETTER A,bE,bI,bO,bYA,bWA,bBA,bBA-2,bPA,bMA,bNA,bNA-2,bNE,bNE-2,bRA,bRA-2",
       "bLA,bKHA,bHHA,bSA,bSA-2,bSE,bKA,bQA,bTA,bTA-2,bTE,bTE-2,bTO,bDA,aSYMBOL VIDJ,bVIDJ-2",
       "CURSIVE LETTER A,bE,bI,bO,bYA,bWA,bBA,bPA,bMA,bNA,bNE,bRA,bLA,bKHA,bHHA,bSA,bARCHAICa",
       "bSE,bKA,bQA,bTA,bTE,bTO,bDA,,,,,aFRACTION ELEVEN TWELFTHS,bONE HALF,aLOGOGRAM RMT,bIMN",
       "aNUMBER ONE,bTWO,bTHREE,bFOUR,bFIVE,bSIX,bSEVEN,bEIGHT,bNINE,bTEN,bTWENTY,bTHIRTY",
       "bFORTY,bFIFTY,bSIXTY,bSEVENTY,,,bONE HUNDRED,bTWOa,bTHREEa,bFOURa,bFIVEa,bSIXa,bSEVENa",
       "bEIGHTa,bNINEa,bONE THOUSAND,bTWOa,bTHREEa,bFOURa,bFIVEa,bSIXa,bSEVENa,bEIGHTa,bNINEa",
       "bTENa,bTWENTYa,bTHIRTYa,bFORTYa,bFIFTYa,bSIXTYa,bSEVENTYa,bEIGHTYa,bNINETYa",
       "bONE HUNDREDa,bTWOb,bTHREEb,bFOURb,bFIVEb,bSIXb,bSEVENb,bEIGHTb,bNINEb",
       "aFRACTION ONE TWELFTH,bTWO TWELFTHS,bTHREEa,bFOURa,bFIVEa,bSIXa,bSEVENa,bEIGHTa,bNINEa",
       "bTENa"]⟩,
    ⟨0x10A00, "KHAROSHTHI ",
      ["LETTER A,VOWEL SIGN I,bU,bVOCALIC R,,bE,bO,,,,,,aLENGTH MARK,SIGN DOUBLE RING BELOW",
       "aANUSVARA,aVISARGA,LETTER KA,aKHA,aGA,aGHA,,aCA,aCHA,aJA,,aNYA,aTTA,aTTHA,aDDA,aDDHA",
       "aNNA,aTA,aTHA,aDA,aDHA,aNA,aPA,aPHA,aBA,aBHA,aMA,aYA,aRA,aLA,aVA,aSHA,aSSA,aSA,aZA,aHA",
       "aKKA,aTTTHA,aTTTA,aVHA,,,SIGN BAR ABOVE,aCAUDA,aDOT BELOW,,,,,VIRAMA,DIGIT ONE,aTWO",
       "aTHREE,aFOUR,NUMBER TEN,aTWENTY,aONE HUNDRED,bTHOUSAND,FRACTION ONE HALF,,,,,,,",
       "PUNCTUATION DOT,aSMALL CIRCLE,aa,aCRESCENT BAR,aMANGALAM,aLOTUS,aDANDA,aDOUBLEa,aLINES"]⟩,
    ⟨0x10A60, "OLD ",
      ["SOUTH ARABIAN LETTER HE,cLAMEDH,cHETH,cMEM,cQOPH,cWAW,cSHIN,cRESH,cBETH,cTAW,cSAT,cKAPH",
       "cNUN,cKHETH,cSADHE,cSAMEKH,cFE,cALEF,cAYN,cDHADHE,cGIMEL,cDALETH,cGHAYN,cTETH,cZAYN",
       "cDHALETH,cYODH,cTHAW,cTHETH,bNUMBER ONE,cFIFTY,bNUMERIC INDICATOR",
       "NORTH ARABIAN LETTER HEH,cLAM,cHAH,cMEEM,cQAF,cWAW,cES-2,cREH,cBEH,cTEH,cES-1,cKAF",
       "cNOON,cKHAH,cSAD,cES-3,cFEH,cALEF,cAIN,cDAD,cGEEM,cDAL,cGHAIN,cTAH,cZAIN,cTHAL,cYEH",
       "cTHEH,cZAH,bNUMBER ONE,cTEN,cTWENTY"]⟩,
    ⟨0x10AC0, "MANICHAEAN ",
      ["LETTER ALEPH,aBETH,aBHETH,aGIMEL,aGHIMEL,aDALETH,aHE,aWAW,SIGN UD,LETTER ZAYIN,aZHAYIN",
       "aJAYIN,aJHAYIN,aHETH,aTETH,aYODH,aKAPH,aXAPH,aKHAPH,aLAMEDH,aDHAMEDH,aTHAMEDH,aMEM,aNUN",
       "aSAMEKH,aAYIN,aAAYIN,aPE,aFE,aSADHE,aQOPH,aXOPH,aQHOPH,aRESH,aSHIN,aSSHIN,aTAW",
       "ABBREVIATION MARK ABOVE,bBELOW,,,,,NUMBER ONE,aFIVE,aTEN,aTWENTY,aONE HUNDRED",
       "PUNCTUATION STAR,aFLEURON,aDOUBLE DOT WITHIN DOT,ac,b,aTWO DOTS,aLINE FILLER"]⟩,
    ⟨0x10B00, "AVESTAN LETTER ",
      ["A,AA,AO,AAO,AN,AAN,AE,AEE,E,EE,O,OO,I,II,U,UU,KE,XE,XYE,XVE,GE,GGE,GHE,CE,JE,TE,THE,DE",
       "DHE,TTE,PE,FE,BE,BHE,NGE,NGYE,NGVE,NE,NYE,NNE,ME,HME,YYE,YE,VE,RE,LE,SE,ZE,SHE,ZHE,SHYE",
       "SSHE,HE"]⟩,
    ⟨0x10B39, "",
      ["AVESTAN ABBREVIATION MARK,TINY TWO DOTS OVER ONE DOT PUNCTUATION,SMALLf,LARGEf"]⟩,
    ⟨0x10B3D, "LARGE ",
      ["ONE DOT OVER TWO DOTS PUNCTUATION,TWO RINGS OVER ONE RINGa,ONE RING OVER TWO RINGSa"]⟩,
    ⟨0x10B40, "INSCRIPTIONAL ",
      ["PARTHIAN LETTER ALEPH,bBETH,bGIMEL,bDALETH,bHE,bWAW,bZAYIN,bHETH,bTETH,bYODH,bKAPH",
       "bLAMEDH,bMEM,bNUN,bSAMEKH,bAYIN,bPE,bSADHE,bQOPH,bRESH,bSHIN,bTAW,,,aNUMBER ONE,bTWO",
       "bTHREE,bFOUR,bTEN,bTWENTY,bONE HUNDRED,cTHOUSAND,PAHLAVI LETTER ALEPH,bBETH,bGIMEL",
       "bDALETH,bHE,bWAW-AYIN-RESH,bZAYIN,bHETH,bTETH,bYODH,bKAPH,bLAMEDH,bMEM-QOPH,bNUN",
       "bSAMEKH,bPE,bSADHE,bSHIN,bTAW,,,,,,aNUMBER ONE,bTWO,bTHREE,bFOUR,bTEN,bTWENTY",
       "bONE HUNDRED,cTHOUSAND"]⟩,
    ⟨0x10B80, "PSALTER PAHLAVI ",
      ["LETTER ALEPH,aBETH,aGIMEL,aDALETH,aHE,aWAW-AYIN-RESH,aZAYIN,aHETH,aYODH,aKAPH,aLAMEDH",
       "aMEM-QOPH,aNUN,aSAMEKH,aPE,aSADHE,aSHIN,aTAW,,,,,,,,SECTION MARK,TURNEDb",
       "FOUR DOTS WITH CROSS,cDOT,,,,,,,,,,,,,NUMBER ONE,aTWO,aTHREE,aFOUR,aTEN,aTWENTY",
       "aONE HUNDRED"]⟩,
    ⟨0x10C00, "OLD TURKIC LETTER ",
      ["ORKHON A,YENISEIa,aAE,ORKHON I,YENISEIa,aE,ORKHON O,aOE,YENISEIa,ORKHON AB,YENISEIa",
       "ORKHON AEB,YENISEIa,ORKHON AG,YENISEIa,ORKHON AEG,YENISEIa,ORKHON AD,YENISEIa",
       "ORKHON AED,aEZ,YENISEIa,ORKHON AY,YENISEIa,ORKHON AEY,YENISEIa,ORKHON AEK,YENISEIa",
       "ORKHON OEK,YENISEIa,ORKHON AL,YENISEIa,ORKHON AEL,aELT,aEM,aAN,aAEN,YENISEIa,ORKHON ENT",
       "YENISEIa,ORKHON ENC,YENISEIa,ORKHON ENY,YENISEIa,aANG,ORKHON ENG,YENISEI AENG,ORKHON EP",
       "aOP,aIC,aEC,YENISEIa,ORKHON AQ,YENISEIa,ORKHON IQ,YENISEIa,ORKHON OQ,YENISEIa,ORKHON AR",
       "YENISEIa,ORKHON AER,aAS,aAES,aASH,YENISEIa,ORKHON ESH,YENISEIa,ORKHON AT,YENISEIa",
       "ORKHON AET,YENISEIa,ORKHON OT,aBASH"]⟩,
    ⟨0x10C80, "OLD HUNGARIAN CAPITAL LETTER ",
      ["A,AA,EB,AMB,EC,ENC,ECS,ED,AND,E,CLOSEa,EE,EF,EG,EGY,EH,I,II,EJ,EK,AK,UNK,EL,ELY,EM,EN",
       "ENY,O,OO,NIKOLSBURG OE,RUDIMENTAa,OEE,EP,EMP,ER,SHORTa,ES,ESZ,ET,ENT,ETY,ECH,U,UU",
       "NIKOLSBURG UE,RUDIMENTAa,EV,EZ,EZS,ENT-SHAPED SIGN,US"]⟩,
    ⟨0x10CC0, "OLD HUNGARIAN SMALL LETTER ",
      ["A,AA,EB,AMB,EC,ENC,ECS,ED,AND,E,CLOSEa,EE,EF,EG,EGY,EH,I,II,EJ,EK,AK,UNK,EL,ELY,EM,EN",
       "ENY,O,OO,NIKOLSBURG OE,RUDIMENTAa,OEE,EP,EMP,ER,SHORTa,ES,ESZ,ET,ENT,ETY,ECH,U,UU",
       "NIKOLSBURG UE,RUDIMENTAa,EV,EZ,EZS,ENT-SHAPED SIGN,US"]⟩,
    ⟨0x10CFA, "OLD HUNGARIAN NUMBER ",
      ["ONE,FIVE,TEN,FIFTY,ONE HUNDRED,aTHOUSAND"]⟩,
    ⟨0x10D00, "HANIFI ROHINGYA ",
      ["LETTER A,aBA,aPA,aTA,aTTA,aJA,aCA,aHA,aKHA,aFA,aDA,aDDA,aRA,aRRA,aZA,aSA,aSHA,aKA,aGA",
       "aLA,aMA,aNA,aWA,aKINNAa,aYA,aKINNAa,aNGA,aNYA,aVA,VOWEL A,aI,aU,aE,aO,MARK SAKIN",
       "aNA KHONNA,SIGN HARBAHAY,aTAHALA,aTANA,aTASSI,,,,,,,,,DIGIT ZERO,aONE,aTWO,aTHREE,aFOUR",
       "aFIVE,aSIX,aSEVEN,aEIGHT,aNINE"]⟩,
    ⟨0x10E60, "RUMI ",
      ["DIGIT ONE,aTWO,aTHREE,aFOUR,aFIVE,aSIX,aSEVEN,aEIGHT,aNINE,NUMBER TEN,aTWENTY,aTHIRTY",
       "aFORTY,aFIFTY,aSIXTY,aSEVENTY,aEIGHTY,aNINETY,aONE HUNDRED,aTWOa,aTHREEa,aFOURa,aFIVEa",
       "aSIXa,aSEVENa,aEIGHTa,aNINEa,FRACTION ONE HALF,bQUARTER,bTHIRD,aTWO THIRDS"]⟩,
    ⟨0x10E80, "YEZIDI LETTER ",
      ["ELIF,BE,PE,PHE,THE,SE,CIM,CHIM,CHHIM,HHA,XA,DAL,ZAL,RA,RHA,ZA,JA,SIN,SHIN,SAD,DAD,TA,ZE",
       "EYN,XHEYN,FA,VA,aALTERNATE FORM,QAF,KAF,KHAF,GAF,LAM,MIM,NUN,UM,WAW,OW,EW,HAY,YOT,ET"]⟩,
    ⟨0x10EAB, "YEZIDI ",
      ["COMBINING HAMZA MARK,aMADDAa,HYPHENATIONa,,,LETTER LAM WITH DOT ABOVE",
       "aYOT WITH CIRCUMFLEXa"]⟩,
    ⟨0x10F00, "OLD SOGDIAN ",
      ["LETTER ALEPH,aFINALa,aBETH,aFINALa,aGIMEL,aHE,aFINALa,aWAW,aZAYIN,aHETH,aYODH,aKAPH",
       "aLAMEDH,aMEM,aNUN,aFINALa,cWITH VERTICAL TAIL,aSAMEKH,aAYIN,aALTERNATEa,aPE,aSADHE",
       "aFINALa,cWITH VERTICAL TAIL,aRESH-AYIN-DALETH,aSHIN,aTAW,aFINALa,cWITH VERTICAL TAIL",
       "NUMBER ONE,aTWO,aTHREE,aFOUR,aFIVE,aTEN,aTWENTY,aTHIRTY,aONE HUNDRED,FRACTION ONE HALF",
       "LIGATURE AYIN-DALETH"]⟩,
    ⟨0x10F30, "SOGDIAN ",
      ["LETTER ALEPH,aBETH,aGIMEL,aHE,aWAW,aZAYIN,aHETH,aYODH,aKAPH,aLAMEDH,aMEM,aNUN,aSAMEKH",
       "aAYIN,aPE,aSADHE,aRESH-AYIN,aSHIN,aTAW,aFETH,aLESH,INDEPENDENT SHIN,COMBINING DOT BELOW",
       "aTWO DOTSa,aDOT ABOVE,aTWO DOTSa,aCURVEa,bBELOW,aHOOK ABOVE,bBELOW,aLONGb,aRESHa",
       "aSTROKEa,NUMBER ONE,aTEN,aTWENTY,aONE HUNDRED,PUNCTUATION TWO VERTICAL BARS,dWITH DOTS",
       "aCIRCLE WITH DOT,aTWO CIRCLES WITH DOTS,aHALF CIRCLE WITH DOT"]⟩,
    ⟨0x10F70, "OLD UYGHUR ",
      ["LETTER ALEPH,aBETH,aGIMEL-HETH,aWAW,aZAYIN,aFINAL HETH,aYODH,aKAPH,aLAMEDH,aMEM,aNUN",
       "aSAMEKH,aPE,aSADHE,aRESH,aSHIN,aTAW,aLESH,COMBINING DOT ABOVE,bBELOW,aTWO DOTS ABOVE",
       "cBELOW,PUNCTUATION BAR,aTWO BARS,bDOTS,aFOURa"]⟩,
    ⟨0x10FB0, "CHORASMIAN ",
      ["LETTER ALEPH,aSMALLa,aBETH,aGIMEL,aDALETH,aHE,aWAW,aCURLEDa,aZAYIN,aHETH,aYODH,aKAPH",
       "aLAMEDH,aMEM,aNUN,aSAMEKH,aAYIN,aPE,aRESH,aSHIN,aTAW,NUMBER ONE,aTWO,aTHREE,aFOUR,aTEN",
       "aTWENTY,aONE HUNDRED"]⟩,
    ⟨0x10FE0, "ELYMAIC ",
      ["LETTER ALEPH,aBETH,aGIMEL,aDALETH,aHE,aWAW,aZAYIN,aHETH,aTETH,aYODH,aKAPH,aLAMEDH,aMEM",
       "aNUN,aSAMEKH,aAYIN,aPE,aSADHE,aQOPH,aRESH,aSHIN,aTAW,LIGATURE ZAYIN-YODH"]⟩,
    ⟨0x11000, "BRAHMI ",
      ["SIGN CANDRABINDU,aANUSVARA,aVISARGA,aJIHVAMULIYA,aUPADHMANIYA,LETTER A,aAA,aI,aII,aU",
       "aUU,aVOCALIC R,bRR,bL,bLL,aE,aAI,aO,aAU,aKA,aKHA,aGA,aGHA,aNGA,aCA,aCHA,aJA,aJHA,aNYA",
       "aTTA,aTTHA,aDDA,aDDHA,aNNA,aTA,aTHA,aDA,aDHA,aNA,aPA,aPHA,aBA,aBHA,aMA,aYA,aRA,aLA,aVA",
       "aSHA,aSSA,aSA,aHA,aLLA,aOLD TAMIL LLLA,cRRA,cNNNA,VOWEL SIGN AA,bBHATTIPROLUa,bI,bII,bU",
       "bUU,bVOCALIC R,cRR,cL,cLL,bE,bAI,bO,bAU,VIRAMA,DANDA,DOUBLEa,PUNCTUATION DOT,aDOUBLEa",
       "aLINE,aCRESCENT BAR,aLOTUS,,,,,NUMBER ONE,aTWO,aTHREE,aFOUR,aFIVE,aSIX,aSEVEN,aEIGHT",
       "aNINE,aTEN,aTWENTY,aTHIRTY,aFORTY,aFIFTY,aSIXTY,aSEVENTY,aEIGHTY,aNINETY,aONE HUNDRED",
       "bTHOUSAND,DIGIT ZERO,aONE,aTWO,aTHREE,aFOUR,aFIVE,aSIX,aSEVEN,aEIGHT,aNINE",
       "SIGN OLD TAMIL VIRAMA,LETTER OLD TAMIL SHORT E,dO,VOWEL SIGN OLD TAMIL SHORT E,eO",
       "LETTER OLD TAMIL LLA,,,,,,,,,,NUMBER JOINER"]⟩,
    ⟨0x11080, "KAITHI ",
      ["SIGN CANDRABINDU,aANUSVARA,aVISARGA,LETTER A,aAA,aI,aII,aU,aUU,aE,aAI,aO,aAU,aKA,aKHA",
       "aGA,aGHA,aNGA,aCA,aCHA,aJA,aJHA,aNYA,aTTA,aTTHA,aDDA,aDDDHA,aDDHA,aRHA,aNNA,aTA,aTHA",
       "aDA,aDHA,aNA,aPA,aPHA,aBA,aBHA,aMA,aYA,aRA,aLA,aVA,aSHA,aSSA,aSA,aHA,VOWEL SIGN AA,bI",
       "bII,bU,bUU,bE,bAI,bO,bAU,SIGN VIRAMA,aNUKTA,ABBREVIATION SIGN,ENUMERATIONa,NUMBERa",
       "SECTION MARK,DOUBLEb,DANDA,DOUBLEa,VOWEL SIGN VOCALIC R,,,,,,,,,,,NUMBER SIGN ABOVE"]⟩,
    ⟨0x110D0, "SORA SOMPENG LETTER ",
      ["SAH,TAH,BAH,CAH,DAH,GAH,MAH,NGAH,LAH,NAH,VAH,PAH,YAH,RAH,HAH,KAH,JAH,NYAH,AH,EEH,IH,UH",
       "OH,EH,MAE"]⟩,
    ⟨0x110F0, "SORA SOMPENG DIGIT ",
      ["ZERO,ONE,TWO,THREE,FOUR,FIVE,SIX,SEVEN,EIGHT,NINE"]⟩,
    ⟨0x11100, "CHAKMA ",
      ["SIGN CANDRABINDU,aANUSVARA,aVISARGA,LETTER AA,aI,aU,aE,aKAA,aKHAA,aGAA,aGHAA,aNGAA,aCAA",
       "aCHAA,aJAA,aJHAA,aNYAA,aTTAA,aTTHAA,aDDAA,aDDHAA,aNNAA,aTAA,aTHAA,aDAA,aDHAA,aNAA,aPAA",
       "aPHAA,aBAA,aBHAA,aMAA,aYYAA,aYAA,aRAA,aLAA,aWAA,aSAA,aHAA,VOWEL SIGN A,bI,bII,bU,bUU,bE",
       "bAI,bO,bAU,bOI,O MARK,AUa,VIRAMA,MAAYYAA,,DIGIT ZERO,aONE,aTWO,aTHREE,aFOUR,aFIVE,aSIX",
       "aSEVEN,aEIGHT,aNINE,SECTION MARK,DANDA,DOUBLEa,QUESTION MARK,LETTER LHAA,VOWEL SIGN AA",
       "bEI,LETTER VAA"]⟩,
    ⟨0x11150, "MAHAJANI LETTER ",
      ["A,I,U,E,O,KA,KHA,GA,GHA,CA,CHA,JA,JHA,NYA,TTA,TTHA,DDA,DDHA,NNA,TA,THA,DA,DHA,NA,PA,PHA",
       "BA,BHA,MA,RA,LA,VA,SA,HA,RRA"]⟩,
    ⟨0x11173, "MAHAJANI ",
      ["SIGN NUKTA,ABBREVIATION SIGN,SECTION MARK,LIGATURE SHRI"]⟩,
    ⟨0x11180, "SHARADA ",
      ["SIGN CANDRABINDU,aANUSVARA,aVISARGA,LETTER A,aAA,aI,aII,aU,aUU,aVOCALIC R,bRR,bL,bLL,aE",
       "aAI,aO,aAU,aKA,aKHA,aGA,aGHA,aNGA,aCA,aCHA,aJA,aJHA,aNYA,aTTA,aTTHA,aDDA,aDDHA,aNNA,aTA",
       "aTHA,aDA,aDHA,aNA,aPA,aPHA,aBA,aBHA,aMA,aYA,aRA,aLA,aLLA,aVA,aSHA,aSSA,aSA,aHA",
       "VOWEL SIGN AA,bI,bII,bU,bUU,bVOCALIC R,cRR,cL,cLL,bE,bAI,bO,bAU,SIGN VIRAMA,aAVAGRAHA",
       "aJIHVAMULIYA,aUPADHMANIYA,OM,DANDA,DOUBLEa,ABBREVIATION SIGN,SEPARATOR,SANDHI MARK",
       "SIGN NUKTA,VOWEL MODIFIER MARK,EXTRA SHORT VOWELa,SUTRAa,VOWEL SIGN PRISHTHAMATRA E",
       "SIGN INVERTED CANDRABINDU,DIGIT ZERO,aONE,aTWO,aTHREE,aFOUR,aFIVE,aSIX,aSEVEN,aEIGHT",
       "aNINE,EKAM,SIGN SIDDHAM,HEADSTROKE,CONTINUATION SIGN,SECTION MARK-1,aMARK-2"]⟩,
    ⟨0x111E1, "SINHALA ARCHAIC ",
      ["DIGIT ONE,aTWO,aTHREE,aFOUR,aFIVE,aSIX,aSEVEN,aEIGHT,aNINE,NUMBER TEN,aTWENTY,aTHIRTY",
       "aFORTY,aFIFTY,aSIXTY,aSEVENTY,aEIGHTY,aNINETY,aONE HUNDRED,bTHOUSAND"]⟩,
    ⟨0x11200, "KHOJKI LETTER ",
      ["A,AA,I,U,E,AI,O,AU,KA,KHA,GA,GGA,GHA,NGA,CA,CHA,JA,JJA,,NYA,TTA,TTHA,DDA,DDHA,NNA,TA",
       "THA,DA,DDDA,DHA,NA,PA,PHA,BA,BBA,BHA,MA,YA,RA,LA,VA,SA,HA,LLA"]⟩,
    ⟨0x1122C, "KHOJKI ",
      ["VOWEL SIGN AA,bI,bII,bU,bE,bAI,bO,bAU,SIGN ANUSVARA,aVIRAMA,aNUKTA,aSHADDA,DANDA",
       "DOUBLEa,WORD SEPARATOR,SECTION MARK,DOUBLEb,ABBREVIATION SIGN,SIGN SUKUN"]⟩,
    ⟨0x11280, "MULTANI LETTER ",
      ["A,I,U,E,KA,KHA,GA,,GHA,,CA,CHA,JA,JJA,,NYA,TTA,TTHA,DDA,DDDA,DDHA,NNA,TA,THA,DA,DHA,NA",
       "PA,PHA,BA,,BHA,MA,YA,RA,LA,VA,SA,HA,RRA,RHA"]⟩,
    ⟨0x112A9, "MULTANI SECTION ",
      ["MARK"]⟩,
    ⟨0x112B0, "KHUDAWADI LETTER ",
      ["A,AA,I,II,U,UU,E,AI,O,AU,KA,KHA,GA,GGA,GHA,NGA,CA,CHA,JA,JJA,JHA,NYA,TTA,TTHA,DDA,DDDA",
       "RRA,DDHA,NNA,TA,THA,DA,DHA,NA,PA,PHA,BA,BBA,BHA,MA,YA,RA,LA,VA,SHA,SA,HA"]⟩,
    ⟨0x112DF, "KHUDAWADI ",
      ["SIGN ANUSVARA,VOWEL SIGN AA,bI,bII,bU,bUU,bE,bAI,bO,bAU,SIGN NUKTA,aVIRAMA,,,,,",
       "DIGIT ZERO,aONE,aTWO,aTHREE,aFOUR,aFIVE,aSIX,aSEVEN,aEIGHT,aNINE"]⟩,
    ⟨0x11300, "GRANTHA SIGN ",
      ["COMBINING ANUSVARA ABOVE,CANDRABINDU,ANUSVARA,VISARGA"]⟩,
    ⟨0x11305, "GRANTHA LETTER ",
      ["A,AA,I,II,U,UU,VOCALIC R,aL,,,EE,AI,,,OO,AU,KA,KHA,GA,GHA,NGA,CA,CHA,JA,JHA,NYA,TTA",
       "TTHA,DDA,DDHA,NNA,TA,THA,DA,DHA,NA,,PA,PHA,BA,BHA,MA,YA,RA,,LA,LLA,,VA,SHA,SSA,SA,HA"]⟩,
    ⟨0x1133B, "COMBINING BINDU ",
      ["BELOW"]⟩,
    ⟨0x1133C, "GRANTHA ",
      ["SIGN NUKTA,aAVAGRAHA,VOWEL SIGN AA,bI,bII,bU,bUU,bVOCALIC R,cRR,,,bEE,bAI,,,bOO,bAU",
       "SIGN VIRAMA,,,OM,,,,,,,AU LENGTH MARK,,,,,,SIGN PLUTA,LETTER VEDIC ANUSVARA,bDOUBLEa",
       "aVOCALIC RR,bLL,VOWEL SIGN VOCALIC L,cLL"]⟩,
    ⟨0x11366, "COMBINING GRANTHA ",
      ["DIGIT ZERO,aONE,aTWO,aTHREE,aFOUR,aFIVE,aSIX,,,,LETTER A,aKA,aNA,aVI,aPA"]⟩,
    ⟨0x11400, "NEWA LETTER ",
      ["A,AA,I,II,U,UU,VOCALIC R,aRR,aL,aLL,E,AI,O,AU,KA,KHA,GA,GHA,NGA,NGHA,CA,CHA,JA,JHA,NYA",
       "NYHA,TTA,TTHA,DDA,DDHA,NNA,TA,THA,DA,DHA,NA,NHA,PA,PHA,BA,BHA,MA,MHA,YA,RA,RHA,LA,LHA",
       "WA,SHA,SSA,SA,HA"]⟩,
    ⟨0x11435, "NEWA ",
      ["VOWEL SIGN AA,bI,bII,bU,bUU,bVOCALIC R,cRR,cL,cLL,bE,bAI,bO,bAU,SIGN VIRAMA",
       "aCANDRABINDU,aANUSVARA,aVISARGA,aNUKTA,aAVAGRAHA,aFINAL ANUSVARA,OM,SIDDHI,DANDA",
       "DOUBLEa,COMMA,GAP FILLER,ABBREVIATION SIGN,DIGIT ZERO,aONE,aTWO,aTHREE,aFOUR,aFIVE,aSIX",
       "aSEVEN,aEIGHT,aNINE,DOUBLE COMMA,PLACEHOLDER MARK,,INSERTION SIGN,SANDHI MARK",
       "LETTER VEDIC ANUSVARA,SIGN JIHVAMULIYA,aUPADHMANIYA"]⟩,
    ⟨0x11480, "TIRHUTA ",
      ["ANJI,LETTER A,aAA,aI,aII,aU,aUU,aVOCALIC R,bRR,bL,bLL,aE,aAI,aO,aAU,aKA,aKHA,aGA,aGHA",
       "aNGA,aCA,aCHA,aJA,aJHA,aNYA,aTTA,aTTHA,aDDA,aDDHA,aNNA,aTA,aTHA,aDA,aDHA,aNA,aPA,aPHA",
       "aBA,aBHA,aMA,aYA,aRA,aLA,aVA,aSHA,aSSA,aSA,aHA,VOWEL SIGN AA,bI,bII,bU,bUU,bVOCALIC R",
       "cRR,cL,cLL,bE,bSHORTa,bAI,bO,bSHORTa,bAU,SIGN CANDRABINDU,aANUSVARA,aVISARGA,aVIRAMA",
       "aNUKTA,aAVAGRAHA,GVANG,ABBREVIATION SIGN,OM,,,,,,,,,DIGIT ZERO,aONE,aTWO,aTHREE,aFOUR",
       "aFIVE,aSIX,aSEVEN,aEIGHT,aNINE"]⟩,
    ⟨0x11580, "SIDDHAM LETTER ",
      ["A,AA,I,II,U,UU,VOCALIC R,aRR,aL,aLL,E,AI,O,AU,KA,KHA,GA,GHA,NGA,CA,CHA,JA,JHA,NYA,TTA",
       "TTHA,DDA,DDHA,NNA,TA,THA,DA,DHA,NA,PA,PHA,BA,BHA,MA,YA,RA,LA,VA,SHA,SSA,SA,HA"]⟩,
    ⟨0x115AF, "SIDDHAM ",
      ["VOWEL SIGN AA,bI,bII,bU,bUU,bVOCALIC R,cRR,,,bE,bAI,bO,bAU,SIGN CANDRABINDU,aANUSVARA",
       "aVISARGA,aVIRAMA,aNUKTA,aSIDDHAM,DANDA,DOUBLEa,SEPARATOR DOT,aBAR,REPETITION MARK-1",
       "aMARK-2,aMARK-3,END OF TEXT MARK,SECTION MARK WITH TRIDENT AND U-SHAPED ORNAMENTS",
       "eDOTTED CRESCENTS,cRAYSc,fDOUBLEa,fTRIPLEa,bDOUBLE RING,dWITH RAYS",
       "bWITH DOUBLE CRESCENTS,cTRIPLEa,cQUADRUPLEa,cSEPTUPLEa,cCIRCLES AND RAYS",
       "eTWO ENCLOSURES,eFOURa,LETTER THREE-CIRCLE ALTERNATE I,aTWO-CIRCLEb,cII,aALTERNATE U",
       "VOWEL SIGNb,cUU"]⟩,
    ⟨0x11600, "MODI LETTER ",
      ["A,AA,I,II,U,UU,VOCALIC R,aRR,aL,aLL,E,AI,O,AU,KA,KHA,GA,GHA,NGA,CA,CHA,JA,JHA,NYA,TTA",
       "TTHA,DDA,DDHA,NNA,TA,THA,DA,DHA,NA,PA,PHA,BA,BHA,MA,YA,RA,LA,VA,SHA,SSA,SA,HA,LLA"]⟩,
    ⟨0x11630, "MODI ",
      ["VOWEL SIGN AA,bI,bII,bU,bUU,bVOCALIC R,cRR,cL,cLL,bE,bAI,bO,bAU,SIGN ANUSVARA,aVISARGA",
       "aVIRAMA,aARDHACANDRA,DANDA,DOUBLEa,ABBREVIATION SIGN,SIGN HUVA,,,,,,,,,,,,DIGIT ZERO",
       "aONE,aTWO,aTHREE,aFOUR,aFIVE,aSIX,aSEVEN,aEIGHT,aNINE"]⟩,
    ⟨0x11660, "MONGOLIAN ",
      ["BIRGA WITH ORNAMENT,ROTATED BIRGA,DOUBLE BIRGA WITH ORNAMENT,TRIPLEc,BIRGA WITH DOUBLEa",
       "ROTATED BIRGA WITHa,cDOUBLEa,INVERTED BIRGA,bWITH DOUBLE ORNAMENT,SWIRL BIRGA",
       "bWITH ORNAMENT,cDOUBLEa,TURNEDe"]⟩,
    ⟨0x11680, "TAKRI LETTER ",
      ["A,AA,I,II,U,UU,E,AI,O,AU,KA,KHA,GA,GHA,NGA,CA,CHA,JA,JHA,NYA,TTA,TTHA,DDA,DDHA,NNA,TA",
       "THA,DA,DHA,NA,PA,PHA,BA,BHA,MA,YA,RA,LA,VA,SHA,SA,HA,RRA"]⟩,
    ⟨0x116AB, "TAKRI ",
      ["SIGN ANUSVARA,aVISARGA,VOWEL SIGN AA,bI,bII,bU,bUU,bE,bAI,bO,bAU,SIGN VIRAMA,aNUKTA",
       "LETTER ARCHAIC KHA,ABBREVIATION SIGN,,,,,,,DIGIT ZERO,aONE,aTWO,aTHREE,aFOUR,aFIVE,aSIX",
       "aSEVEN,aEIGHT,aNINE"]⟩,
    ⟨0x11700, "AHOM LETTER ",
      ["KA,KHA,NGA,NA,TA,ALTERNATEa,PA,PHA,BA,MA,JA,CHA,THA,RA,LA,SA,NYA,HA,A,DA,DHA,GA",
       "ALTERNATEa,GHA,BHA,JHA,ALTERNATE BA"]⟩,
    ⟨0x1171D, "AHOM ",
      ["CONSONANT SIGN MEDIAL LA,cRA,cLIGATINGa,VOWEL SIGN A,bAA,bI,bII,bU,bUU,bE,bAW,bO,bAI",
       "bAM,SIGN KILLER,,,,,DIGIT ZERO,aONE,aTWO,aTHREE,aFOUR,aFIVE,aSIX,aSEVEN,aEIGHT,aNINE",
       "NUMBER TEN,aTWENTY,SIGN SMALL SECTION,aa,aRULAI,SYMBOL VI,LETTER CA,aTTA,aTTHA,aDDA",
       "aDDHA,aNNA,aLLA"]⟩,
    ⟨0x11800, "DOGRA LETTER ",
      ["A,AA,I,II,U,UU,E,AI,O,AU,KA,KHA,GA,GHA,NGA,CA,CHA,JA,JHA,NYA,TTA,TTHA,DDA,DDHA,NNA,TA",
       "THA,DA,DHA,NA,PA,PHA,BA,BHA,MA,YA,RA,LA,VA,SHA,SSA,SA,HA,RRA"]⟩,
    ⟨0x1182C, "DOGRA ",
      ["VOWEL SIGN AA,bI,bII,bU,bUU,bVOCALIC R,cRR,bE,bAI,bO,bAU,SIGN ANUSVARA,aVISARGA,aVIRAMA",
       "aNUKTA,ABBREVIATION SIGN"]⟩,
    ⟨0x118A0, "WARANG CITI ",
      ["CAPITAL LETTER NGAA,bA,bWI,bYU,bYA,bYO,bII,bUU,bE,bO,bANG,bGA,bKO,bENY,bYUJ,bUC,bENN",
       "bODD,bTTE,bNUNG,bDA,bAT,bAM,bBU,bPU,bHIYO,bHOLO,bHORR,bHAR,bSSUU,bSII,bVIYO",
       "SMALL LETTER NGAA,bA,bWI,bYU,bYA,bYO,bII,bUU,bE,bO,bANG,bGA,bKO,bENY,bYUJ,bUC,bENN,bODD",
       "bTTE,bNUNG,bDA,bAT,bAM,bBU,bPU,bHIYO,bHOLO,bHORR,bHAR,bSSUU,bSII,bVIYO,DIGIT ZERO,aONE",
       "aTWO,aTHREE,aFOUR,aFIVE,aSIX,aSEVEN,aEIGHT,aNINE,NUMBER TEN,aTWENTY,aTHIRTY,aFORTY",
       "aFIFTY,aSIXTY,aSEVENTY,aEIGHTY,aNINETY,,,,,,,,,,,,,OM"]⟩,
    ⟨0x11900, "DIVES AKURU LETTER ",
      ["A,AA,I,II,U,UU,E,,,O,,,KA,KHA,GA,GHA,NGA,CA,CHA,JA,,NYA,TTA,,DDA,DDHA,NNA,TA,THA,DA,DHA",
       "NA,PA,PHA,BA,BHA,MA,YA,YYA,RA,LA,VA,SHA,SSA,SA,HA,LLA,ZA"]⟩,
    ⟨0x11930, "DIVES AKURU ",
      ["VOWEL SIGN AA,bI,bII,bU,bUU,bE,,bAI,bO,,,SIGN ANUSVARA,aCANDRABINDU,aHALANTA,VIRAMA",
       "PREFIXED NASAL SIGN,MEDIAL YA,INITIAL RA,MEDIALa,SIGN NUKTA,DOUBLE DANDA,GAP FILLER",
       "END OF TEXT MARK,,,,,,,,,,DIGIT ZERO,aONE,aTWO,aTHREE,aFOUR,aFIVE,aSIX,aSEVEN,aEIGHT",
       "aNINE"]⟩,
    ⟨0x119A0, "NANDINAGARI LETTER ",
      ["A,AA,I,II,U,UU,VOCALIC R,aRR,,,E,AI,O,AU,KA,KHA,GA,GHA,NGA,CA,CHA,JA,JHA,NYA,TTA,TTHA",
       "DDA,DDHA,NNA,TA,THA,DA,DHA,NA,PA,PHA,BA,BHA,MA,YA,RA,LA,VA,SHA,SSA,SA,HA,LLA,RRA"]⟩,
    ⟨0x119D1, "NANDINAGARI ",
      ["VOWEL SIGN AA,bI,bII,bU,bUU,bVOCALIC R,cRR,,,bE,bAI,bO,bAU,SIGN ANUSVARA,aVISARGA",
       "aVIRAMA,aAVAGRAHA,aSIDDHAM,HEADSTROKE,VOWEL SIGN PRISHTHAMATRA E"]⟩,
    ⟨0x11A00, "ZANABAZAR SQUARE ",
      ["LETTER A,VOWEL SIGN I,bUE,bU,bE,bOE,bO,bAI,bAU,bREVERSED I,aLENGTH MARK,LETTER KA,aKHA",
       "aGA,aGHA,aNGA,aCA,aCHA,aJA,aNYA,aTTA,aTTHA,aDDA,aDDHA,aNNA,aTA,aTHA,aDA,aDHA,aNA,aPA",
       "aPHA,aBA,aBHA,aMA,aTSA,aTSHA,aDZA,aDZHA,aZHA,aZA,a-A,aYA,aRA,aLA,aVA,aSHA,aSSA,aSA,aHA",
       "aKSSA,FINAL CONSONANT MARK,SIGN VIRAMA,aCANDRABINDU,bWITH ORNAMENT,aCANDRAb,aANUSVARA",
       "aVISARGA,CLUSTER-INITIAL LETTER RA,CLUSTER-FINAL LETTER YA,bRA,bLA,bVA",
       "INITIAL HEAD MARK,CLOSINGb,MARK TSHEG,aSHAD,aDOUBLEa,aLONG TSHEG",
       "INITIAL DOUBLE-LINED HEAD MARK,CLOSINGc,SUBJOINER"]⟩,
    ⟨0x11A50, "SOYOMBO ",
      ["LETTER A,VOWEL SIGN I,bUE,bU,bE,bO,bOE,bAI,bAU,bVOCALIC R,cL,aLENGTH MARK,LETTER KA",
       "aKHA,aGA,aGHA,aNGA,aCA,aCHA,aJA,aJHA,aNYA,aTTA,aTTHA,aDDA,aDDHA,aNNA,aTA,aTHA,aDA,aDHA",
       "aNA,aPA,aPHA,aBA,aBHA,aMA,aTSA,aTSHA,aDZA,aZHA,aZA,a-A,aYA,aRA,aLA,aVA,aSHA,aSSA,aSA",
       "aHA,aKSSA,SIGN JIHVAMULIYA,aUPADHMANIYA,CLUSTER-INITIAL LETTER RA,bLA,bSHA,bSA",
       "FINAL CONSONANT SIGN G,cK,cNG,cD,cN,cB,cM,cR,cL,cSH,cS,c-A,SIGN ANUSVARA,aVISARGA",
       "GEMINATION MARK,SUBJOINER,MARK TSHEG,aSHAD,aDOUBLEa,aPLUTA",
       "HEAD MARK WITH MOON AND SUN AND TRIPLE FLAME,ga,f,TERMINAL MARK-1,aMARK-2"]⟩,
    ⟨0x11AB0, "CANADIAN SYLLABICS ",
      ["NATTILIK HI,aHII,aHO,aHOO,aHA,aHAA,aSHRI,aSHRII,aSHRO,aSHROO,aSHRA,aSHRAA,SPE,SPI,SPO",
       "SPA"]⟩,
    ⟨0x11AC0, "PAU CIN HAU ",
      ["LETTER PA,aKA,aLA,aMA,aDA,aZA,aVA,aNGA,aHA,aGA,aKHA,aSA,aBA,aCA,aTA,aTHA,aNA,aPHA,aRA",
       "aFA,aCHA,aA,aE,aI,aO,aU,aUA,aIA,aFINAL P,bK,bT,bM,bN,bL,bW,bNG,bY,RISING TONE LONG,b",
       "SANDHI GLOTTAL STOP,RISING TONE LONG FINAL,ba,SANDHI GLOTTAL STOPa,aTONE LONG,b",
       "bLONG FINAL,ba,MID-LEVEL TONE,GLOTTAL STOP VARIANT,MID-LEVEL TONE LONG FINAL,ba",
       "LOW-FALLING TONE LONG,b,GLOTTAL STOP,LOW-FALLING TONE LONG FINAL,ba,GLOTTAL STOPa"]⟩,
    ⟨0x11C00, "BHAIKSUKI LETTER ",
      ["A,AA,I,II,U,UU,VOCALIC R,aRR,aL,,E,AI,O,AU,KA,KHA,GA,GHA,NGA,CA,CHA,JA,JHA,NYA,TTA,TTHA",
       "DDA,DDHA,NNA,TA,THA,DA,DHA,NA,PA,PHA,BA,BHA,MA,YA,RA,LA,VA,SHA,SSA,SA,HA"]⟩,
    ⟨0x11C2F, "BHAIKSUKI ",
      ["VOWEL SIGN AA,bI,bII,bU,bUU,bVOCALIC R,cRR,cL,,bE,bAI,bO,bAU,SIGN CANDRABINDU,aANUSVARA",
       "aVISARGA,aVIRAMA,aAVAGRAHA,DANDA,DOUBLEa,WORD SEPARATOR,GAP FILLER-1,aFILLER-2,,,,,,,,,",
       ",DIGIT ZERO,aONE,aTWO,aTHREE,aFOUR,aFIVE,aSIX,aSEVEN,aEIGHT,aNINE,NUMBER ONE,aTWO",
       "aTHREE,aFOUR,aFIVE,aSIX,aSEVEN,aEIGHT,aNINE,aTEN,aTWENTY,aTHIRTY,aFORTY,aFIFTY,aSIXTY",
       "aSEVENTY,aEIGHTY,aNINETY,HUNDREDS UNIT MARK"]⟩,
    ⟨0x11C70, "MARCHEN ",
      ["HEAD MARK,MARK SHAD,LETTER KA,aKHA,aGA,aNGA,aCA,aCHA,aJA,aNYA,aTA,aTHA,aDA,aNA,aPA,aPHA",
       "aBA,aMA,aTSA,aTSHA,aDZA,aWA,aZHA,aZA,a-A,aYA,aRA,aLA,aSHA,aSA,aHA,aA,,",
       "SUBJOINED LETTER KA,bKHA,bGA,bNGA,bCA,bCHA,bJA,bNYA,bTA,bTHA,bDA,bNA,bPA,bPHA,bBA,bMA",
       "bTSA,bTSHA,bDZA,bWA,bZHA,bZA,,bYA,bRA,bLA,bSHA,bSA,bHA,bA,VOWEL SIGN AA,bI,bU,bE,bO",
       "SIGN ANUSVARA,aCANDRABINDU"]⟩,
    ⟨0x11D00, "MASARAM GONDI LETTER ",
      ["A,AA,I,II,U,UU,E,,AI,O,,AU,KA,KHA,GA,GHA,NGA,CA,CHA,JA,JHA,NYA,TTA,TTHA,DDA,DDHA,NNA,TA",
       "THA,DA,DHA,NA,PA,PHA,BA,BHA,MA,YA,RA,LA,VA,SHA,SSA,SA,HA,LLA,KSSA,JNYA,TRA"]⟩,
    ⟨0x11D31, "MASARAM GONDI ",
      ["VOWEL SIGN AA,bI,bII,bU,bUU,bVOCALIC R,,,,bE,,bAI,bO,,bAU,SIGN ANUSVARA,aVISARGA,aNUKTA",
       "aCANDRA,aHALANTA,VIRAMA,REPHA,RA-KARA,,,,,,,,,DIGIT ZERO,aONE,aTWO,aTHREE,aFOUR,aFIVE",
       "aSIX,aSEVEN,aEIGHT,aNINE"]⟩,
    ⟨0x11D60, "GUNJALA GONDI LETTER ",
      ["A,AA,I,II,U,UU,,EE,AI,,OO,AU,YA,VA,BA,BHA,MA,KA,KHA,TA,THA,LA,GA,GHA,DA,DHA,NA,CA,CHA",
       "TTA,TTHA,LLA,JA,JHA,DDA,DDHA,NGA,PA,PHA,HA,RA,SA"]⟩,
    ⟨0x11D8A, "GUNJALA GONDI ",
      ["VOWEL SIGN AA,bI,bII,bU,bUU,,bEE,bAI,,bOO,bAU,SIGN ANUSVARA,aVISARGA,VIRAMA,OM,,,,,,,",
       "DIGIT ZERO,aONE,aTWO,aTHREE,aFOUR,aFIVE,aSIX,aSEVEN,aEIGHT,aNINE"]⟩,
    ⟨0x11EE0, "MAKASAR ",
      ["LETTER KA,aGA,aNGA,aPA,aBA,aMA,aTA,aDA,aNA,aCA,aJA,aNYA,aYA,aRA,aLA,aVA,aSA,aA,ANGKA",
       "VOWEL SIGN I,bU,bE,bO,PASSIMBANG,END OF SECTION"]⟩,
    ⟨0x11FB0, "LISU LETTER ",
      ["YHA"]⟩,
    ⟨0x11FC0, "TAMIL ",
      ["FRACTION ONE THREE-HUNDRED-AND-TWENTIETH,bONE-HUNDRED-AND-SIXTIETH,bEIGHTIETH",
       "bSIXTY-FOURTH,bFORTIETH,bTHIRTY-SECOND,aTHREE EIGHTIETHS,bSIXTY-FOURTHS,aONE TWENTIETH",
       "bSIXTEENTH-1,bSIXTEENTH-2,bTENTH,bEIGHTH,aTHREE TWENTIETHS,bSIXTEENTHS,aONE FIFTH",
       "bQUARTER,bHALF-1,bHALF-2,aTHREE QUARTERS,aDOWNSCALING FACTOR KIIZH,SIGN NEL,aCEVITU",
       "aAAZHAAKKU,aUZHAKKU,aMUUVUZHAKKU,aKURUNI,aPATHAKKU,aMUKKURUNI,aKAACU,aPANAM,aPON",
       "aVARAAKAN,aPAARAM,aKUZHI,aVELI,WET CULTIVATION SIGN,DRYb,LANDa,SALT PANa",
       "TRADITIONAL CREDITa,aNUMBERa,CURRENTa,AND ODDa,SPENTa,TOTALa,IN POSSESSIONa",
       "STARTING FROMa,SIGN MUTHALIYA,aVAKAIYARAA"]⟩,
    ⟨0x11FFF, "TAMIL PUNCTUATION END OF ",
      ["TEXT"]⟩,
    ⟨0x12000, "CUNEIFORM SIGN ",
      ["A,aTIMES A,bBAD,bGAN2 TENU,bHA,bIGI,bLAGAR GUNU,bMUSH,bSAG,A2,AB,aTIMES ASH2,bDUN3 GUNU",
       "bGAL,bGAN2 TENU,bHA,bIGI GUNU,bIMIN,bLAGAB,bSHESH,bU PLUS U PLUS U,aGUNU,AB2",
       "aTIMES BALAG,bGAN2 TENU,bME PLUS EN,bSHA3,bTAK4,AD,AK,aTIMES ERIN2,bSHITA PLUS GISH,AL",
       "aTIMES AL,bDIM2,bGISH,bHA,bKAD3,bKI,bSHE,bUSH,ALAN,ALEPH,AMAR,aTIMES SHE,AN,aOVER AN",
       "aTHREE TIMES,aPLUS NAGA OPPOSING AN PLUS NAGA,cSQUARED,ANSHE,APIN,ARAD,aTIMES KUR,ARKAB",
       "ASAL2,ASH,aZIDA TENU,aKABAa,aOVER ASH TUG2 OVER TUG2 TUG2 OVER TUG2 PAP,cOVER ASH",
       "eCROSSING ASH OVER ASH OVER ASH,ASH2,ASHGAB,BA,BAD,BAG3,BAHAR2,BAL,aOVER BAL,BALAG,BAR",
       "BARA2,BI,aTIMES A,bGAR,bIGI GUNU,BU,aOVER BU AB,cUN,aCROSSING BU,BULUG,aOVER BULUG,BUR",
       "BUR2,DA,DAG,aKISIM5 TIMES A PLUS MASH,cAMAR,cBALAG,cBI,cGA,dPLUS MASH,cGI,cGIR2,cGUD",
       "cHA,cIR,dPLUS LU,cKAK,cLA,cLU,dPLUS MASH2,cLUM,cNE,cPAP PLUS PAP,cSI,cTAK4",
       "cU2 PLUS GIR2,cUSH,DAM,DAR,DARA3,DARA4,DI,DIB,DIM,aTIMES SHE,DIM2,DIN",
       "aKASKAL U GUNU DISH,DISH,DU,aOVER DU,aGUNU,aSHESHIG,DUB,aTIMES ESH2,DUB2,DUG,DUGUD,DUH",
       "DUN,DUN3,aGUNU,bGUNU,DUN4,DUR2,E,aTIMES PAP,aOVER E NUN OVER NUN,E2",
       "aTIMES A PLUS HA PLUS DA,bGAR,bMI,bSAL,bSHE,bU,EDIN,EGIR,EL,EN,aTIMES GAN2,cTENU,bME",
       "aCROSSING EN,aOPPOSINGa,aSQUARED,EREN,ERIN2,ESH2"]⟩,
    ⟨0x120A1, "CUNEIFORM SIGN ",
      ["EZEN,aTIMES A,cPLUS LAL,eTIMES LAL,bAN,bBAD,bDUN3 GUNU,dGUNU,bHA,cGUNU,bIGIa,bKASKAL",
       "cSQUARED,bKU3,bLA,bLAL TIMES LAL,bLI,bLU,bU2,bUD,GA,aGUNU,GA2,aTIMES A PLUS DA PLUS HA",
       "da,dIGI,bAB2 TENU PLUS TAB,bAN,bASH,bASH2 PLUS GAL,bBAD,bBAR PLUS RA,bBUR,cPLUS RA,bDA",
       "bDI,bDIM TIMES SHE,bDUB,bEL,cPLUS LA,bEN,cTIMES GAN2 TENU,bb,bGAR,bGI,bGI4,cPLUS A",
       "bGIR2 PLUS SU,bHA PLUS LU PLUS ESH2,bHAL,cPLUS LA,bHI PLUS LI,bHUB2,bIGI GUNU",
       "bISH PLUS HU PLUS ASH,bKAK,bKASKAL,bKID,cPLUS LAL,bKU3 PLUS AN,bLA,bME PLUS EN,bMI,bNUN",
       "cOVER NUN,bPA,bSAL,bSAR,bSHE,cPLUS TUR,bSHID,bSUM,bTAK4,bU,bUD,cPLUS DU,aOVER GA2,GABA",
       "aCROSSING GABA,GAD,aOVER GAD GAR OVER GAR,GAL,aGAD OVER GAD GAR OVER GAR,GALAM,GAM,GAN",
       "GAN2,aTENU,aOVER GAN2,aCROSSINGa,GAR,GAR3,GASHAN,GESHTIN,aTIMES KUR,GI,aTIMES E,bU",
       "aCROSSING GI,GI4,aOVER GI4,aCROSSINGa,GIDIM,GIR2,aGUNU,GIR3,aTIMES A PLUS IGI",
       "bGAN2 TENU,bIGI,bLU PLUSa,bPA,GISAL,GISH,aCROSSING GISH,aTIMES BAD,bTAK4,aTENU,GU",
       "aCROSSING GU,GU2,aTIMES KAK,cTIMES IGI GUNU,bNUN,bSAL PLUS TUG2,aGUNU,GUD",
       "aTIMES A PLUS KUR,ba,aOVER GUD LUGAL,GUL,GUM,aTIMES SHE,GUR,GUR7,GURUN,GURUSH,HA,aTENU",
       "aGUNU,HAL,HI,aTIMES ASH,bASH2,bBAD,bDISH,bGAD,bKIN,bNUN,bSHE,bU,HU,HUB2,aTIMES AN,bHAL",
       "bKASKAL,bLISH,bUD,HUL2,I,aA,IB,IDIM,aOVER IDIM BUR,cSQUARED,IG,IGI,aDIB,aRI",
       "aOVER IGI SHIR OVER SHIR UD OVER UD,aGUNU,IL,aTIMES GAN2 TENU,IL2,IM,aTIMES TAK4",
       "aCROSSING IM,aOPPOSINGa,aSQUARED,IMIN,IN,IR,ISH,KA,aTIMES A,bAD,cPLUS KU3,bASH2,bBAD",
       "bBALAG,bBAR,bBI,bERIN2,bESH2,bGA,bGAL,bGAN2 TENU,bGAR,cPLUS SHA3 PLUS A,bGI,bGIR2",
       "bGISH PLUS SAR,cCROSSING GISH,bGU,bGUR7,bIGI,bIM,bKAK,bKI,bKID,bLI,bLU,bME,cPLUS DU,dGI",
       "dTE,bMI,cPLUS NUNUZ,bNE,bNUN,bPI,bRU,bSA,bSAR,bSHA,bSHE,bSHID,bSHU,bSIG,bSUHUR,bTAR,bU",
       "bU2,bUD,bUMUM TIMES PA,bUSH,bZI,KA2,aCROSSING KA2,KAB,KAD2,KAD3,KAD4,KAD5,aOVER KAD5",
       "KAK,aTIMES IGI GUNU,KAL,aTIMES BAD,aCROSSING KAL,KAM2,KAM4,KASKAL",
       "aLAGAB TIMES U OVER LAGAB TIMES U,aOVER KASKALg,KESH2,KI,aTIMES BAD,bU,bUD,KID"]⟩,
    ⟨0x121A5, "CUNEIFORM SIGN ",
      ["KIN,KISAL,KISH,KISIM5,aOVER KISIM5,KU,aOVER HI TIMES ASH2 KU OVER HI TIMES ASH2,KU3,KU4",
       "aVARIANT FORM,KU7,KUL,aGUNU,KUN,KUR,aOPPOSING KUR,KUSHU2,KWU318,LA,LAGAB,aTIMES A",
       "cPLUS DA PLUS HA,dGAR,dLAL,bAL,bAN,bASH ZIDA TENU,bBAD,bBI,bDAR,bEN,bGA,bGAR,bGUD",
       "cPLUS GUD,bHA,bHAL,bHI TIMES NUN,bIGI GUNU,bIM,cPLUS HA,dLU,bKI,bKIN,bKU3,bKUL",
       "cPLUS HI PLUS A,bLAGAB,bLISH,bLU,bLUL,bME,cPLUS EN,bMUSH,bNE,bSHE PLUS SUM",
       "bSHITA PLUS GISH PLUS ERIN2,eTENU,bSHU2,cPLUS SHU2,bSUM,bTAG,bTAK4",
       "bTE PLUS A PLUS SU PLUS NA,bU,cPLUS A,dU PLUS U,bU2 PLUS ASH,bUD,bUSH,aSQUARED,LAGAR",
       "aTIMES SHE,cPLUS SUM,aGUNU,bOVER LAGAR GUNU SHE,LAHSHU,LAL,aTIMES LAL,LAM,aTIMES KUR",
       "cPLUS RU,LI,LIL,LIMMU2,LISH,LU,aTIMES BAD,LU2,aTIMES AL,bBAD,bESH2,cTENU,bGAN2a",
       "bHI TIMES BAD,bIM,bKAD2,bKAD3,cPLUS ASH,bKI,bLA PLUS ASH,bLAGAB,bME PLUS EN,bNE,bNU",
       "bSI PLUS ASH,bSIK2 PLUS BU,bTUG2,aTENU,aCROSSING LU2,aOPPOSINGa,aSQUARED,aSHESHIG,LU3",
       "LUGAL,aOVER LUGAL,aOPPOSINGa,aSHESHIG,LUH,LUL,LUM,aOVER LUM,cGAR OVER GAR,MA",
       "aTIMES TAK4,aGUNU,MA2,MAH,MAR,MASH,MASH2,ME,MES,MI,MIN,MU,aOVER MU,MUG,aGUNU,MUNSUB",
       "MURGU2,MUSH,aTIMES A,bKUR,bZA,aOVER MUSH,cTIMES A PLUS NA,aCROSSING MUSH,MUSH3,aTIMES A",
       "cPLUS DI,ba,aGUNU,NA,NA2,NAGA,aINVERTED,aTIMES SHU TENU,aOPPOSING NAGA,NAGAR",
       "NAM NUTILLU,a,NAM2,NE,aTIMES A,bUD,aSHESHIG,NI,aTIMES E,NI2,NIM,aTIMES GAN2 TENU",
       "bGAR PLUSb,NINDA2,aTIMES AN,bASH,cPLUS ASH,bGUD,bME PLUS GAN2 TENU,bNE,bNUN,bSHE",
       "cPLUS A AN,dASH,ePLUS ASH,bU2b,bUSH,NISAG,NU,NU11,NUN,aLAGAR TIMES GAR,cMASH,cSAL",
       "dOVER NUN LAGAR TIMES SAL,cUSH,aTENU,aOVER NUN,aCROSSINGa,cLAGAR OVER LAGAR,NUNUZ",
       "aAB2 TIMES ASHGAB,cBI,cDUG,cGUD,cIGI GUNU,cKAD3,cLA,cNE,cSILA3,cU2,aKISIM5 TIMES BI,dU",
       "PA,PAD,PAN,PAP,PESH2,PI,aTIMES A,bAB,bBI,bBU,bE,bI,bIB,bU,bU2,aCROSSING PI,PIRIG",
       "aTIMES KAL,bUD,bZA,aOPPOSING PIRIG,RA,RAB,RI,RU,SA,SAG NUTILLU,a,aTIMES A,bDU,bDUB,bHA",
       "bKAK,bKUR,bLUM,bMI,bNUN,bSAL,bSHID,bTAB,bU2,bUB,bUM,bUR,bUSH,aOVER SAG,aGUNU"]⟩,
    ⟨0x122A9, "CUNEIFORM SIGN ",
      ["SAL,aLAGAB TIMES ASH2,SANGA2,SAR,SHA,SHA3,aTIMES A,bBAD,bGISH,bNE,bSHU2,bTUR,bU,cPLUS A",
       "SHA6,SHAB6,SHAR2,SHE,aHU,aOVER SHE GAD OVER GAD GAR OVER GAR,cTAB OVER TABc,SHEG9,SHEN",
       "SHESH,SHESH2,SHESHLAM,SHID,aTIMES A,bIM,SHIM,aTIMES A,bBAL,bBULUG,bDIN,bGAR,bIGI,cGUNU",
       "bKUSHU2,bLUL,bMUG,bSAL,SHINIG,SHIR,aTENU,aOVER SHIR BUR OVER BUR,SHITA,SHU",
       "aOVER INVERTED SHU,SHU2,SHUBUR,SI,aGUNU,SIG,SIG4,aOVER SIG4 SHU2,SIK2,SILA3,SU,aOVER SU",
       "SUD,SUD2,SUHUR,SUM,SUMASH,SUR,SUR9,TA,aASTERISK,aTIMES HI,bMI,aGUNU,TAB",
       "aOVER TAB NI OVER NI DISH OVER DISH,aSQUARED,TAG,aTIMES BI,bGUD,bSHE,bSHU,bTUG2,bUD",
       "TAK4,TAR,TE,aGUNU,TI,aTENU,TIL,TIR,aTIMES TAK4,aOVER TIR,cGAD OVER GAD GAR OVER GAR,TU",
       "TUG2,TUK,TUM,TUR,aOVER TUR ZA OVER ZA,U,aGUD,aU U,aOVER U PA OVER PA GAR OVER GAR",
       "cSUR OVER SUR,cU REVERSED OVER U REVERSED,U2,UB,UD,aKUSHU2,aTIMES BAD,bMI",
       "bU PLUS U PLUS U,gGUNU,aa,aSHESHIG,bTIMES BAD,UDUG,UM,aTIMES LAGAB,bME PLUS DA,bSHA3,bU",
       "UMBIN,UMUM,aTIMES KASKAL,bPA,UN,aGUNU,UR,aCROSSING UR,aSHESHIG,UR2,aTIMES A PLUS HA,dNA",
       "bAL,bHA,bNUN,bU2,cPLUS ASH,dBI,UR4,URI,URI3,URU,aTIMES A,bASHGAB,bBAR,bDUN,bGA,bGAL",
       "bGAN2 TENU,bGAR,bGU,bHA,bIGI,bIM,bISH,bKI,bLUM,bMIN,bPA,bSHE,bSIG4,bTU,bU PLUS GUD,bUD",
       "bURUDA,URUDA,aTIMES U,USH,aTIMES A,bKU,bKUR,bTAK4,USHX,USH2,USHUMX,UTUKI,UZ3",
       "aTIMES KASKAL,UZU,ZA,aTENU,aSQUARED TIMES KUR,ZAG,ZAMX,ZE2,ZI,aOVER ZI,ZI3,ZIB",
       "aKABA TENU,ZIG,ZIZ2,ZU,ZU5,aTIMES A,ZUBUR,ZUM,KAP ELAMITE,AB TIMES NUN,AB2 TIMES A",
       "AMAR TIMES KUG,DAG KISIM5 TIMES U2 PLUS MASH,DAG3,DISH PLUS SHU,DUB TIMES SHE",
       "EZEN TIMES GUD,bSHE,GA2 TIMES AN PLUS KAK PLUS A,bASH2,GE22,GIG,HUSH,KA TIMES ANSHE",
       "bASH3,bGISH,bGUD,bHI TIMES ASH2,bLUM,bPA,bSHUL,bTU,bUR2,LAGAB TIMES GI",
       "LU2 SHESHIG TIMES BAD,aTIMES ESH2 PLUS LAL,bSHU,MESH,MUSH3 TIMES ZA,NA4,NIN,NIN9",
       "NINDA2 TIMES BAL,bGI,NU11 ROTATED NINETY DEGREES,PESH2 ASTERISK,PIR2,SAG TIMES IGI GUNU",
       "TI2,UM TIMES ME,U U"]⟩,
    ⟨0x12400, "CUNEIFORM NUMERIC SIGN ",
      ["TWO ASH,THREEa,FOURa,FIVEa,SIXa,SEVENa,EIGHTa,NINEa,THREE DISH,FOURa,FIVEa,SIXa,SEVENa",
       "EIGHTa,NINEa,FOUR U,FIVEa,SIXa,SEVENa,EIGHTa,NINEa,ONE GESH2,TWOa,THREEa,FOURa,FIVEa",
       "SIXa,SEVENa,EIGHTa,NINEa,ONE GESHU,TWOa,THREEa,FOURa,FIVEa,TWO SHAR2,THREEa",
       "bVARIANT FORM,FOUR SHAR2,FIVEa,SIXa,SEVENa,EIGHTa,NINEa,ONE SHARU,TWOa,THREEa",
       "bVARIANT FORM,FOUR SHARU,FIVEa,SHAR2 TIMES GAL PLUS DISH,dMIN,ONE BURU,TWOa,THREEa",
       "bVARIANT FORM,FOUR BURU,FIVEa,THREE VARIANT FORM ESH16,cESH21,FOUR VARIANT FORM LIMMU",
       "cLIMMU4,cLIMMU A,dB,SIX VARIANT FORM ASH9,SEVEN VARIANT FORM IMIN3,cIMIN A,dB",
       "EIGHT VARIANT FORM USSU,cUSSU3,NINE VARIANT FORM ILIMMU,cILIMMU3,cILIMMU4,cILIMMU A",
       "TWO ASH TENU,THREEb,FOURb,FIVEb,SIXb,ONE BAN2,TWOa,THREEa,FOURa,bVARIANT FORM,FIVE BAN2",
       "bVARIANT FORM,NIGIDAMIN,NIGIDAESH,ONE ESHE3,TWOa,ONE THIRD DISH,TWO THIRDSa",
       "FIVE SIXTHSa,ONE THIRD VARIANT FORM A,TWO THIRDSc,ONE EIGHTH ASH,aQUARTERa",
       "OLD ASSYRIAN ONE SIXTH,cQUARTER,ONE QUARTER GUR,aHALFa,ELAMITE ONE THIRD,aTWO THIRDS",
       "aFORTY,aFIFTY,FOUR U VARIANT FORM,FIVEc,SIXc,SEVENc,EIGHTc,NINEc"]⟩,
    ⟨0x12470, "CUNEIFORM PUNCTUATION SIGN ",
      ["OLD ASSYRIAN WORD DIVIDER,VERTICAL COLON,DIAGONALa,aTRICOLON,aQUADCOLON"]⟩,
    ⟨0x12480, "CUNEIFORM SIGN ",
      ["AB TIMES NUN TENU,bSHU2,AD TIMES ESH2,BAD TIMES DISH TENU,BAHAR2 TIMES AB2,bNI,bZA",
       "BU OVER BU TIMES NA2,DA TIMES TAK4,DAG TIMES KUR,DIM TIMES IGI,bU U U,DIM2 TIMES UD",
       "DUG TIMES ANSHE,bASH,cAT LEFT,bDIN,bDUN,bERIN2,bGA,bGI,bGIR2 GUNU,bGISH,bHA,bHI",
       "bIGI GUNU,bKASKAL,bKUR,bKUSHU2,cPLUS KASKAL,bLAK-020,bLAM,cTIMES KUR,bLUH PLUS GISH",
       "bMASH,bMES,bMI,bNI,bPI,bSHE,bSI GUNU,E2 TIMES KUR,bPAP,ERIN2 X,ESH2 CROSSING ESH2",
       "EZEN SHESHIG TIMES ASH,cHI,cIGI GUNU,cLA,cLAL,cME,cMES,cSU,ab,GA2 TIMES BAHAR2",
       "bDIM GUNU,bDUG TIMES IGIa,dKASKAL,bEREN,bGA,bGAR PLUS DI,dNE,bHA PLUS A",
       "bKUSHU2 PLUS KASKAL,bLAM,cTIMES KUR,bLUH,bMUSH,bNE,cPLUS E2,dGI,bSHIM,bZIZ2",
       "GABA ROTATED NINETY DEGREES,GESHTIN TIMES U,GISH TIMES GISH CROSSING GISH",
       "GU2 TIMES IGI GUNU,GUD PLUS GISH TIMES TAK4,HA TENU GUNU,HI TIMES ASH OVER HI TIMES ASH",
       "KA TIMES BU,bKA,bU U U,bUR,LAGAB TIMES ZU OVER ZU,LAK-003,LAK-021,LAK-025,LAK-030",
       "LAK-050,LAK-051,LAK-062,LAK-079 OVER LAK-079 GUNU,LAK-080,LAK-081 OVER LAK-081,LAK-092",
       "LAK-130,LAK-142,LAK-210,LAK-219,LAK-220,LAK-225,LAK-228,LAK-238,LAK-265,LAK-266,LAK-343",
       "LAK-347,LAK-348,LAK-383,LAK-384,LAK-390,LAK-441,LAK-449,aTIMES GU,bIGI,bPAP PLUS LU3",
       "dPAP PLUSa,bU2 PLUS BA,LAK-450,LAK-457,LAK-470,LAK-483,LAK-490,LAK-492,LAK-493,LAK-495",
       "LAK-550,LAK-608,LAK-617,aTIMES ASH,bBAD,bDUN3 GUNU GUNU,bKU3,bLA,bTAR,bTE,bU2,bUD",
       "bURUDA,LAK-636,LAK-648,aTIMES DUB,bGA,bIGI,cGUNU,bNI,bPAP PLUS PAP PLUS LU3",
       "bSHESH PLUS KI,bUD,bURUDA,LAK-724,LAK-749,LU2 GUNU TIMES ASH,aTIMES DISH,bHAL,bPAP",
       "cPLUS PAP PLUS LU3,bTAK4,MI PLUS ZA7,MUSH OVER MUSH TIMES GA,dKAK,NINDA2 TIMES DIM GUNU",
       "bGISH,bGUL,bHI,bKESH2,bLAK-050,bMASH,bPAP PLUS PAP,bU,cPLUS U,bURUDA,SAG GUNU TIMES HA",
       "aTIMES EN,bSHE AT LEFT,bTAK4,SHA6 TENU,SHE OVER SHE,aPLUS HUB2,bNAM2,bSAR",
       "SHU2 PLUS DUG TIMES NI,bE2 TIMES AN,SI TIMES TAK4,TAK4 PLUS SAG,TUM TIMES GAN2 TENU",
       "bTHREE DISH,UR2 INVERTED,aTIMES UD,URU TIMES DARA3,bLAK-668,bLU3,ZA7",
       "ZU OVER ZU PLUS SAR,ZU5 TIMES THREE DISH TENU"]⟩,
    ⟨0x12F90, "CYPRO-MINOAN SIGN ",
      ["CM001,CM002,CM004,CM005,CM006,CM007,CM008,CM009,CM010,CM011,CM012,CM012B,CM013,CM015",
       "CM017,CM019,CM021,CM023,CM024,CM025,CM026,CM027,CM028,CM029,CM030,CM033,CM034,CM035",
       "CM036,CM037,CM038,CM039,CM040,CM041,CM044,CM046,CM047,CM049,CM050,CM051,CM052,CM053",
       "CM054,CM055,CM056,CM058,CM059,CM060,CM061,CM062,CM063,CM064,CM066,CM067,CM068,CM069",
       "CM070,CM071,CM072,CM073,CM074,CM075,CM075B,CM076,CM078,CM079,CM080,CM081,CM082,CM083",
       "CM084,CM085,CM086,CM087,CM088,CM089,CM090,CM091,CM092,CM094,CM095,CM096,CM097,CM098",
       "CM099,CM100,CM101,CM102,CM103,CM104,CM105,CM107,CM108,CM109,CM110,CM112,CM114,CM301",
       "CM302"]⟩,
    ⟨0x13000, "EGYPTIAN HIEROGLYPH ",
      ["A001,A002,A003,A004,A005,A005A,A006,A006A,A006B,A007,A008,A009,A010,A011,A012,A013,A014",
       "A014A,A015,A016,A017,A017A,A018,A019,A020,A021,A022,A023,A024,A025,A026,A027,A028,A029",
       "A030,A031,A032,A032A,A033,A034"]⟩,
    ⟨0x13028, "EGYPTIAN HIEROGLYPH ",
      ["A035,A036,A037,A038,A039,A040,A040A,A041,A042,A042A,A043,A043A,A044,A045,A045A,A046",
       "A047,A048,A049,A050,A051,A052,A053,A054,A055,A056,A057,A058,A059,A060,A061,A062,A063",
       "A064,A065,A066,A067,A068,A069,A070,B001,B002,B003,B004,B005,B005A,B006,B007,B008,B009",
       "C001,C002,C002A,C002B,C002C,C003,C004,C005,C006,C007,C008,C009,C010,C010A,C011,C012",
       "C013,C014,C015,C016,C017,C018,C019,C020,C021,C022,C023,C024,D001,D002,D003,D004,D005",
       "D006,D007,D008,D008A,D009,D010,D011,D012,D013,D014,D015,D016,D017,D018,D019,D020,D021",
       "D022,D023,D024,D025,D026,D027,D027A,D028,D029,D030,D031,D031A,D032,D033,D034,D034A,D035",
       "D036,D037,D038,D039,D040,D041,D042,D043,D044,D045,D046,D046A,D047,D048,D048A,D049,D050",
       "D050A,D050B,D050C,D050D,D050E,D050F,D050G,D050H,D050I,D051,D052,D052A,D053,D054,D054A",
       "D055,D056,D057,D058,D059,D060,D061,D062,D063,D064,D065,D066,D067,D067A,D067B,D067C",
       "D067D,D067E,D067F,D067G,D067H,E001,E002,E003,E004,E005,E006,E007,E008,E008A,E009,E009A",
       "E010,E011,E012,E013,E014,E015,E016,E016A,E017,E017A,E018,E019,E020,E020A,E021,E022,E023",
       "E024,E025,E026,E027,E028,E028A,E029,E030,E031,E032,E033,E034,E034A,E036,E037,E038,F001",
       "F001A,F002,F003,F004,F005,F006,F007,F008,F009,F010,F011,F012,F013,F013A,F014,F015,F016",
       "F017,F018,F019,F020,F021,F021A,F022,F023,F024,F025,F026,F027,F028,F029,F030,F031,F031A",
       "F032,F033,F034,F035,F036,F037,F037A,F038,F038A,F039,F040"]⟩,
    ⟨0x1312C, "EGYPTIAN HIEROGLYPH ",
      ["F041,F042,F043,F044,F045,F045A,F046,F046A,F047,F047A,F048,F049,F050,F051,F051A,F051B",
       "F051C,F052,F053,G001,G002,G003,G004,G005,G006,G006A,G007,G007A,G007B,G008,G009,G010",
       "G011,G011A,G012,G013,G014,G015,G016,G017,G018,G019,G020,G020A,G021,G022,G023,G024,G025",
       "G026,G026A,G027,G028,G029,G030,G031,G032,G033,G034,G035,G036,G036A,G037,G037A,G038,G039",
       "G040,G041,G042,G043,G043A,G044,G045,G045A,G046,G047,G048,G049,G050,G051,G052,G053,G054",
       "H001,H002,H003,H004,H005,H006,H006A,H007,H008,I001,I002,I003,I004,I005,I005A,I006,I007",
       "I008,I009,I009A,I010,I010A,I011,I011A,I012,I013,I014,I015,K001,K002,K003,K004,K005,K006",
       "K007,K008,L001,L002,L002A,L003,L004,L005,L006,L006A,L007,L008,M001,M001A,M001B,M002",
       "M003,M003A,M004,M005,M006,M007,M008,M009,M010,M010A,M011,M012,M012A,M012B,M012C,M012D",
       "M012E,M012F,M012G,M012H,M013,M014,M015,M015A,M016,M016A,M017,M017A,M018,M019,M020,M021",
       "M022,M022A,M023,M024,M024A,M025,M026,M027,M028,M028A,M029,M030,M031,M031A,M032,M033",
       "M033A,M033B,M034,M035,M036,M037,M038,M039,M040,M040A,M041,M042,M043,M044,N001,N002,N003",
       "N004,N005,N006,N007,N008,N009,N010,N011,N012,N013,N014,N015,N016,N017,N018,N018A,N018B",
       "N019,N020,N021,N022,N023,N024,N025,N025A,N026,N027,N028,N029,N030,N031,N032,N033,N033A",
       "N034,N034A,N035,N035A,N036,N037,N037A,N038,N039,N040,N041,N042,NL001,NL002,NL003,NL004",
       "NL005,NL005A,NL006,NL007,NL008,NL009,NL010,NL011,NL012,NL013,NL014,NL015"]⟩,
    ⟨0x13230, "EGYPTIAN HIEROGLYPH ",
      ["NL016,NL017,NL017A,NL018,NL019,NL020,NU001,NU002,NU003,NU004,NU005,NU006,NU007,NU008",
       "NU009,NU010,NU010A,NU011,NU011A,NU012,NU013,NU014,NU015,NU016,NU017,NU018,NU018A,NU019",
       "NU020,NU021,NU022,NU022A,O001,O001A,O002,O003,O004,O005,O005A,O006,O006A,O006B,O006C",
       "O006D,O006E,O006F,O007,O008,O009,O010,O010A,O010B,O010C,O011,O012,O013,O014,O015,O016",
       "O017,O018,O019,O019A,O020,O020A,O021,O022,O023,O024,O024A,O025,O025A,O026,O027,O028",
       "O029,O029A,O030,O030A,O031,O032,O033,O033A,O034,O035,O036,O036A,O036B,O036C,O036D,O037",
       "O038,O039,O040,O041,O042,O043,O044,O045,O046,O047,O048,O049,O050,O050A,O050B,O051,P001",
       "P001A,P002,P003,P003A,P004,P005,P006,P007,P008,P009,P010,P011,Q001,Q002,Q003,Q004,Q005",
       "Q006,Q007,R001,R002,R002A,R003,R003A,R003B,R004,R005,R006,R007,R008,R009,R010,R010A",
       "R011,R012,R013,R014,R015,R016,R016A,R017,R018,R019,R020,R021,R022,R023,R024,R025,R026",
       "R027,R028,R029,S001,S002,S002A,S003,S004,S005,S006,S006A,S007,S008,S009,S010,S011,S012",
       "S013,S014,S014A,S014B,S015,S016,S017,S017A,S018,S019,S020,S021,S022,S023,S024,S025,S026",
       "S026A,S026B,S027,S028,S029,S030,S031,S032,S033,S034,S035,S035A,S036,S037,S038,S039,S040",
       "S041,S042,S043,S044,S045,S046,T001,T002,T003,T003A,T004,T005,T006,T007,T007A,T008,T008A",
       "T009,T009A,T010,T011,T011A,T012,T013,T014,T015,T016,T016A,T017,T018,T019,T020,T021,T022",
       "T023,T024,T025,T026,T027,T028,T029,T030,T031,T032,T032A,T033,T033A,T034,T035,T036,U001"]⟩,
    ⟨0x13334, "EGYPTIAN HIEROGLYPH ",
      ["U002,U003,U004,U005,U006,U006A,U006B,U007,U008,U009,U010,U011,U012,U013,U014,U015,U016",
       "U017,U018,U019,U020,U021,U022,U023,U023A,U024,U025,U026,U027,U028,U029,U029A,U030,U031",
       "U032,U032A,U033,U034,U035,U036,U037,U038,U039,U040,U041,U042,V001,V001A,V001B,V001C",
       "V001D,V001E,V001F,V001G,V001H,V001I,V002,V002A,V003,V004,V005,V006,V007,V007A,V007B",
       "V008,V009,V010,V011,V011A,V011B,V011C,V012,V012A,V012B,V013,V014,V015,V016,V017,V018",
       "V019,V020,V020A,V020B,V020C,V020D,V020E,V020F,V020G,V020H,V020I,V020J,V020K,V020L,V021",
       "V022,V023,V023A,V024,V025,V026,V027,V028,V028A,V029,V029A,V030,V030A,V031,V031A,V032",
       "V033,V033A,V034,V035,V036,V037,V037A,V038,V039,V040,V040A,W001,W002,W003,W003A,W004",
       "W005,W006,W007,W008,W009,W009A,W010,W010A,W011,W012,W013,W014,W014A,W015,W016,W017",
       "W017A,W018,W018A,W019,W020,W021,W022,W023,W024,W024A,W025,X001,X002,X003,X004,X004A",
       "X004B,X005,X006,X006A,X007,X008,X008A,Y001,Y001A,Y002,Y003,Y004,Y005,Y006,Y007,Y008",
       "Z001,Z002,Z002A,Z002B,Z002C,Z002D,Z003,Z003A,Z003B,Z004,Z004A,Z005,Z005A,Z006,Z007,Z008",
       "Z009,Z010,Z011,Z012,Z013,Z014,Z015,Z015A,Z015B,Z015C,Z015D,Z015E,Z015F,Z015G,Z015H",
       "Z015I,Z016,Z016A,Z016B,Z016C,Z016D,Z016E,Z016F,Z016G,Z016H,AA001,AA002,AA003,AA004",
       "AA005,AA006,AA007,AA007A,AA007B,AA008,AA009,AA010,AA011,AA012,AA013,AA014,AA015,AA016",
       "AA017,AA018,AA019,AA020,AA021,AA022,AA023,AA024,AA025,AA026,AA027,AA028,AA029,AA030",
       "AA031,AA032,,VERTICAL JOINER,HORIZONTALa,INSERT AT TOP START,bBOTTOMa,bTOP END,bBOTTOMa",
       "OVERLAY MIDDLE,BEGIN SEGMENT,ENDa"]⟩,
    ⟨0x14400, "ANATOLIAN HIEROGLYPH ",
      ["A001,A002,A003,A004,A005,A006,A007,A008,A009,A010,A010A,A011,A012,A013,A014,A015,A016",
       "A017,A018,A019,A020,A021,A022,A023,A024,A025,A026,A026A,A027,A028,A029,A030,A031,A032",
       "A033,A034,A035,A036,A037,A038,A039,A039A,A040,A041,A041A,A042,A043,A044,A045,A045A,A046",
       "A046A,A046B,A047,A048,A049,A050,A051,A052,A053,A054,A055,A056"]⟩,
    ⟨0x1443F, "ANATOLIAN HIEROGLYPH ",
      ["A057,A058,A059,A060,A061,A062,A063,A064,A065,A066,A066A,A066B,A066C,A067,A068,A069,A070",
       "A071,A072,A073,A074,A075,A076,A077,A078,A079,A080,A081,A082,A083,A084,A085,A086,A087",
       "A088,A089,A090,A091,A092,A093,A094,A095,A096,A097,A097A,A098,A098A,A099,A100,A100A,A101",
       "A101A,A102,A102A,A103,A104,A104A,A104B,A104C,A105,A105A,A105B,A106,A107,A107A,A107B",
       "A107C,A108,A109,A110,A110A,A110B,A111,A112,A113,A114,A115,A115A,A116,A117,A118,A119",
       "A120,A121,A122,A123,A124,A125,A125A,A126,A127,A128,A129,A130,A131,A132,A133,A134,A135",
       "A135A,A136,A137,A138,A139,A140,A141,A142,A143,A144,A145,A146,A147,A148,A149,A150,A151",
       "A152,A153,A154,A155,A156,A157,A158,A159,A160,A161,A162,A163,A164,A165,A166,A167,A168",
       "A169,A170,A171,A172,A173,A174,A175,A176,A177,A178,A179,A180,A181,A182,A183,A184,A185",
       "A186,A187,A188,A189,A190,A191,A192,A193,A194,A195,A196,A197,A198,A199,A200,A201,A202",
       "A202A,A202B,A203,A204,A205,A206,A207,A207A,A208,A209,A209A,A210,A211,A212,A213,A214",
       "A215,A215A,A216,A216A,A217,A218,A219,A220,A221,A222,A223,A224,A225,A226,A227,A227A,A228",
       "A229,A230,A231,A232,A233,A234,A235,A236,A237,A238,A239,A240,A241,A242,A243,A244,A245",
       "A246,A247,A248,A249,A250,A251,A252,A253,A254,A255,A256,A257,A258,A259,A260,A261,A262",
       "A263,A264,A265,A266,A267,A267A,A268,A269,A270,A271,A272,A273,A274,A275,A276,A277,A278",
       "A279,A280,A281,A282,A283,A284,A285,A286,A287"]⟩,
    ⟨0x14543, "ANATOLIAN HIEROGLYPH ",
      ["A288,A289,A289A,A290,A291,A292,A293,A294,A294A,A295,A296,A297,A298,A299,A299A,A300,A301",
       "A302,A303,A304,A305,A306,A307,A308,A309,A309A,A310,A311,A312,A313,A314,A315,A316,A317",
       "A318,A319,A320,A321,A322,A323,A324,A325,A326,A327,A328,A329,A329A,A330,A331,A332A,A332B",
       "A332C,A333,A334,A335,A336,A336A,A336B,A336C,A337,A338,A339,A340,A341,A342,A343,A344",
       "A345,A346,A347,A348,A349,A350,A351,A352,A353,A354,A355,A356,A357,A358,A359,A359A,A360",
       "A361,A362,A363,A364,A364A,A365,A366,A367,A368,A368A,A369,A370,A371,A371A,A372,A373,A374",
       "A375,A376,A377,A378,A379,A380,A381,A381A,A382,A383 RA OR RI,A383A,A384,A385,A386,A386A",
       "A387,A388,A389,A390,A391,A392,A393 EIGHT,A394,A395,A396,A397,A398,A399,A400,A401,A402",
       "A403,A404,A405,A406,A407,A408,A409,A410 BEGIN LOGOGRAM MARK,A410A ENDb,A411,A412,A413",
       "A414,A415,A416,A417,A418,A419,A420,A421,A422,A423,A424,A425,A426,A427,A428,A429,A430",
       "A431,A432,A433,A434,A435,A436,A437,A438,A439,A440,A441,A442,A443,A444,A445,A446,A447",
       "A448,A449,A450,A450A,A451,A452,A453,A454,A455,A456,A457,A457A,A458,A459,A460,A461,A462",
       "A463,A464,A465,A466,A467,A468,A469,A470,A471,A472,A473,A474,A475,A476,A477,A478,A479",
       "A480,A481,A482,A483,A484,A485,A486,A487,A488,A489,A490,A491,A492,A493,A494,A495,A496",
       "A497,A501,A502,A503,A504,A505,A506,A507,A508,A509,A510,A511,A512,A513,A514,A515,A516",
       "A517,A518,A519,A520,A521,A522,A523,A524,A525,A526,A527,A528,A529,A530"]⟩,
    ⟨0x16800, "BAMUM LETTER PHASE-A ",
      ["NGKUE MFON,GBIEE FON,PON MFON PIPAEMGBIEE,bPIPAEMBA,NAA MFON,SHUENSHUET,TITA MFON,NZAa",
       "SHINDA PA NJI,PON PA NJI PIPAEMGBIEE,cPIPAEMBA,MAEMBGBIEE,TU MAEMBA,NGANGU,MAEMVEUX",
       "MANSUAE,MVEUAENGAM,SEUNYAM,NTOQPEN,KEUKEUTNDA,NKINDI,SUU,NGKUENZEUM,LAPAQ,LET KUT",
       "NTAP MFAA,MAEKEUP,PASHAE,GHEUAERAE,PAMSHAE,MON NGGEUAET,NZUN MEUT,U YUQ NAE",
       "GHEUAEGHEUAE,NTAP NTAA,SISA,MGBASA,MEUNJOMNDEUQ,MOOMPUQ,KAFA,PA LEERAEWA,NDAa,PET",
       "MAEMKPEN,NIKA,PUP,TUAEP,LUAEP,SONJAM,TEUTEUWEN,MAENYI,KET,NDAANGGEUAET,KUOQ,MOOMEUT",
       "SHUM,LOMMAE,FIRI,ROM,KPOQ,SOQ,MAP PIEET,SHIRAE,NTAP,SHOQ NSHUT YUM,NYIT MONGKEUAEQ",
       "PAARAE,NKAARAE,UNKNOWN,NGGEN,MAESI,NJAM,MBANYI,NYET,TEUAEN,SOT,PAAM,NSHIEE,MAEM,NYI,KAQ",
       "NSHA,VEE,LU,NEN,NAQ,MBAQ"]⟩,
    ⟨0x16857, "BAMUM LETTER PHASE-B ",
      ["NSHUET,TU MAEMGBIEE,SIEE,SET TU,LOM NTEUM,MBA MAELEE,KIEEM,YEURAE,MBAARAE,KAM,PEESHI",
       "YAFU LEERAEWA,LAM NSHUT NYAM,NTIEE SHEUOQ,NDU NJAA,GHEUGHEUAEM,PIT,TU NSIEE,SHET NJAQ",
       "SHEUAEQTU,MFON TEUAEQ,MBIT MBAAKET,NYI NTEUM,KEUPUQ,GHEUGHEN,KEUYEUX,LAANAE,PARUM,VEUM",
       "NGKINDI MVOP,NGGEU MBU,WUAET,SAKEUAE,TAAM,MEUQ,NGGUOQ,aLARGE,MFIYAQ,SUE,MBEURI,MONTIEEN",
       "NYAEMAE,PUNGAAM,MEUT NGGEET,FEUX,MBUOQ,FEE,KEUAEM,MA NJEUAENA,aNJUQA,LET,NGGAAM,NSEN,MA",
       "KIQ,NGOM"]⟩,
    ⟨0x1688F, "BAMUM LETTER PHASE-C ",
      ["NGKUE MAEMBA,NZA,YUM,WANGKUOQ,NGGEN,NDEUAEREE,NGKAQ,GHARAE,MBEEKEET,GBAYI",
       "NYIR MKPARAQ MEUN,NTU MBIT,MBEUM,PIRIEEN,NDOMBU,MBAA CABBAGE-TREE,KEUSHEUAEP,GHAP",
       "KEUKAQ,YU MUOMAE,NZEUM,MBUE,NSEUAEN,MBIT,YEUQ,KPARAQ,KAA,SEUX,NDIDA,TAASHAE,NJUEQ",
       "TITA YUE,SUAET,NGGUAEN NYAM,VEUX,NANSANAQ,MA KEUAERI,NTAA,NGGUON,LAP,MBIRIEEN,MGBASAQ",
       "NTEUNGBA,TEUTEUX,NGGUM,FUE,NDEUT,NSA,NSHAQ,BUNG,VEUAEPEN,MBERAE,RU,NJAEM,LAM,TITUAEP",
       "NSUOT NGOM,NJEEEE,KET,NGGU,MAESI,MBUAEM,LU,KUT,NJAM,NGOM,WUP,NGGUEET,NSOM,NTEN",
       "KUOP NKAARAE,NSUN,NDAM,MA NSIEE,YAA,NDAP,SHUEQ,SETFON,MBI,MAEMBA,MBANYI,KEUSEUX,MBEUX",
       "KEUM,MBAA PICKET,YUWOQ,NJEUX,MIEE,MUAE,SHIQ,KEN LAW,aFATIGUE,NGAQ,NAQ,LIQ,PIN,PEN,TET"]⟩,
    ⟨0x168F1, "BAMUM LETTER PHASE-D ",
      ["MBUO,WAP,NJI,MFON,NJIEE,LIEE,NJEUT,NSHEE,NGGAAMAE,NYAM,WUAEN,NGKUN,SHEE,NGKAP",
       "KEUAETMEUN,TEUT,SHEUAE,NJAP,SUE,KET,YAEMMAE,KUOM,SAP,MFEUT,NDEUX,MALEERI,MEUT,SEUAEQ",
       "YEN,NJEUAEM,KEUOT MBUAE,NGKEURI,TU,GHAA,NGKYEE,FEUFEUAET,NDEE,MGBOFUM,LEUAEP,NDON,MONI",
       "MGBEUN,PUUT,MGBIEE,MFO,LUM,NSIEEP,MBAA,KWAET,NYET,TEUAEN,SOT,YUWOQ,KEUM,RAEM,TEEEE",
       "NGKEUAEQ,MFEUAE,NSIEET,KEUP,PIP,PEUTAE,NYUE,LET,NGGAAM,MFIEE,NGGWAEN,YUOM,PAP,YUOP,NDAM",
       "NTEUM,SUAE,KUN,NGGEUX,NGKIEE,TUOT,MEUN,KUQ,NSUM,TEUN,MAENJET,NGGAP,LEUM,NGGUOM,NSHUT",
       "NJUEQ,GHEUAE,KU,REN OLD,TAE,TOQ,NYI,RII,LEEEE,MEEEE,M,SUU,MU,SHII,SHEUX,KYEE,NU,SHU",
       "NTEE,PEE,NI,SHOQ,PUQ,MVOP,LOQ,REN MUCH,TI,NTUU,MBAA SEVEN,SAQ,FAA"]⟩,
    ⟨0x16966, "BAMUM LETTER PHASE-E ",
      ["NDAP,TOON,MBEUM,LAP,VOM,LOON,PAA,SOM,RAQ,NSHUOP,NDUN,PUAE,TAM,NGKA,KPEUX,WUO,SEE",
       "NGGEUAET,PAAM,TOO,KUOP,LOM,NSHIEE,NGOP,MAEM,NGKEUX,NGOQ,NSHUE,RIMGBA,NJEUX,PEEM,SAA",
       "NGGURAE,MGBA,GHEUX,NGKEUAEM,NJAEMLI,MAP,LOOT,NGGEEEE,NDIQ,TAEN NTEUM,SET,PUM",
       "NDAA SOFTNESS,NGGUAESHAE NYAM,YIEE,GHEUN,TUAE,YEUAE,PO,TUMAE,KEUAE,SUAEN,TEUAEQ,VEUAE",
       "WEUX,LAAM,PU,TAAQ,GHAAMAE,NGEUREUT,SHEUAEQ,MGBEN,MBEE,NZAQ,NKOM,GBET,TUM,KUET,YAP",
       "NYI CLEAVER,YIT,MFEUQ,NDIAQ,PIEEQ,YUEQ,LEUAEM,FUE,GBEUX,NGKUP,KET,MAE,NGKAAMI,GHET,FA",
       "NTUM,PEUT,YEUM,NGGEUAE,NYI BETWEEN,NZUQ,POON,MIEE,FUET,NAE,MUAE,GHEUAE,FU I,MVI,PUAQ",
       "NGKUM,KUT,PIET,NTAP,YEUAET,NGGUP,PA PEOPLE,FU CALL,FOM,NJEE,A,TOQ,O,I,LAQ,PA PLURAL,TAA",
       "TAQ,NDAA MY HOUSE,SHIQ,YEUX,NGUAE,YUAEN,YOQ SWIMMING,aCOVER,YUQ,YUN,KEUX,PEUX",
       "NJEE EPOCH,PUE,WUE,FEE,VEE,LU,MI,REUX,RAE,NGUAET,NGA,SHO,SHOQ,FU REMEDY,NA,PI,LOQ,KO",
       "MEN,MA,MAQ,TEU,KI,MON,TEN,FAQ,GHOM"]⟩,
    ⟨0x16A03, "BAMUM LETTER PHASE-F ",
      ["KA,U,KU,EE,REE,TAE,NYI,LA,RII,RIEE,MEEEE,TAA,NDAA,NJAEM,M,SUU,SHII,SI,SEUX,KYEE,KET",
       "NUAE,NU,NJUAE,YOQ,SHU,YA,NSHA,PEUX,NTEE,WUE,PEE,RU,NI,REUX,KEN,NGKWAEN,NGGA,SHO,PUAE",
       "FOM,WA,LI,LOQ,KO,MBEN,REN,MA,MO,MBAA,TET,KPA,SAMBA,VUEQ"]⟩,
    ⟨0x16A40, "MRO LETTER ",
      ["TA,NGI,YO,MIM,BA,DA,A,PHI,KHAI,HAO,DAI,CHU,KEAAE,OL,MAEM,NIN,PA,OO,O,RO,SHI,THEA,EA,WA",
       "E,KO,LAN,LA,HAI,RI,TEK"]⟩,
    ⟨0x16A60, "MRO ",
      ["DIGIT ZERO,aONE,aTWO,aTHREE,aFOUR,aFIVE,aSIX,aSEVEN,aEIGHT,aNINE,,,,,DANDA,DOUBLEa"]⟩,
    ⟨0x16A70, "TANGSA LETTER ",
      ["OZ,OC,OQ,OX,AZ,AC,AQ,AX,VZ,VC,VQ,VX,EZ,EC,EQ,EX,IZ,IC,IQ,IX,UZ,UC,UQ,UX,AWZ,AWC,AWQ,AWX",
       "UIZ,UIC,UIQ,UIX,FINAL NG,LONG UEX,SHORT UEZ,aAWX,UEC,UEZ,UEQ,UEX,UIUZ,UIUC,UIUQ,UIUX,MZ",
       "MC,MQ,MX,KA,KHA,GA,NGA,SA,YA,WA,PA,NYA,PHA,BA,MA,NA,HA,LA,HTA,TA,DA,RA,NHA,SHA,CA,TSA",
       "GHA,HTTA,THA,XA,FA,DHA,CHA,ZA"]⟩,
    ⟨0x16AC0, "TANGSA DIGIT ",
      ["ZERO,ONE,TWO,THREE,FOUR,FIVE,SIX,SEVEN,EIGHT,NINE"]⟩,
    ⟨0x16AD0, "BASSA VAH ",
      ["LETTER ENNI,aKA,aSE,aFA,aMBE,aYIE,aGAH,aDHII,aKPAH,aJO,aHWAH,aWA,aZO,aGBU,aDO,aCE,aUWU",
       "aTO,aBA,aVU,aYEIN,aPA,aWADDA,aA,aO,aOO,aU,aEE,aE,aI,,,COMBINING HIGH TONE,aLOWa,aMIDa",
       "aLOW-MIDa,aHIGH-LOWa,FULL STOP"]⟩,
    ⟨0x16B00, "PAHAWH HMONG ",
      ["VOWEL KEEB,aKEEV,aKIB,aKIV,aKAUB,aKAUV,aKUB,aKUV,aKEB,aKEV,aKAIB,aKAIV,aKOOB,aKOOV",
       "aKAWB,aKAWV,aKUAB,aKUAV,aKOB,aKOV,aKIAB,aKIAV,aKAB,aKAV,aKWB,aKWV,aKAAB,aKAAV",
       "CONSONANT VAU,aNTSAU,aLAU,aHAU,aNLAU,aRAU,aNKAU,aQHAU,aYAU,aHLAU,aMAU,aCHAU,aNCHAU",
       "aHNAU,aPLHAU,aNTHAU,aNAU,aAU,aXAU,aCAU,MARK CIM TUB,bSO,bKES,bKHAV,bSUAM,bHOM,bTAUM",
       "SIGN VOS THOM,bTSHAB CEEB,aCIM CHEEM,aVOS THIAB,bFEEM,aXYEEM NTXIV,bRHO,bTOV,bFAIB",
       "aVOS SEEV,aMEEJ SUAB,aVOS NRUA,aIB YAM,aXAUS,aCIM TSOV ROG,,,,,,,,,,,DIGIT ZERO,aONE",
       "aTWO,aTHREE,aFOUR,aFIVE,aSIX,aSEVEN,aEIGHT,aNINE,,NUMBER TENS,aHUNDREDS,aTEN THOUSANDS",
       "aMILLIONS,aHUNDREDa,aTEN BILLIONS,aTRILLIONS,,SIGN VOS LUB,aXYOO,aHLI,aTHIRD-STAGEa",
       "aZWJ THAJ,aHNUB,aNQIG,aXIAB,aNTUJ,aAV,aTXHEEJ CEEV,aMEEJ TSEEB,aTAU,aLOS,aMUS",
       "aCIM HAIS LUS NTOG NTOG,bCUAM TSHOOJ,bTXWV,cCHWV,bPUB DAWB,bNRES TOS,,,,,",
       "CLAN SIGN TSHEEJ,bYEEG,bLIS,bLAUJ,bXYOOJ,bKOO,bHAWJ,bMUAS,bTHOJ,bTSAB,bPHAB,bKHAB,bHAM",
       "bVAJ,bFAJ,bYAJ,bTSWB,bKWM,bVWJ"]⟩,
    ⟨0x16E40, "MEDEFAIDRIN ",
      ["CAPITAL LETTER M,bS,bV,bW,bATIU,bZ,bKP,bP,bT,bG,bF,bI,bK,bA,bJ,bE,bB,bC,bU,bYU,bL,bQ",
       "bHP,bNY,bX,bD,bOE,bN,bR,bO,bAI,bY,SMALL LETTER M,bS,bV,bW,bATIU,bZ,bKP,bP,bT,bG,bF,bI",
       "bK,bA,bJ,bE,bB,bC,bU,bYU,bL,bQ,bHP,bNY,bX,bD,bOE,bN,bR,bO,bAI,bY,DIGIT ZERO,aONE,aTWO",
       "aTHREE,aFOUR,aFIVE,aSIX,aSEVEN,aEIGHT,aNINE,NUMBER TEN,aELEVEN,aTWELVE,aTHIRTEEN",
       "aFOURTEEN,aFIFTEEN,aSIXTEEN,aSEVENTEEN,aEIGHTEEN,aNINETEEN,DIGIT ONE ALTERNATE FORM",
       "aTWOb,aTHREEb,COMMA,FULL STOP,SYMBOL AIVA,EXCLAMATION OH"]⟩,
    ⟨0x16F00, "MIAO LETTER ",
      ["PA,BA,YI PA,PLA,MA,MHA,ARCHAIC MA,FA,VA,VFA,TA,DA,YI TTA,aTA,TTA,DDA,NA,NHA,YI NNA",
       "ARCHAIC NA,NNA,NNHA,LA,LYA,LHA,LHYA,TLHA,DLHA,TLHYA,DLHYA,KA,GA,YI KA,QA,QGA,NGA,NGHA",
       "ARCHAIC NGA,HA,XA,GHA,GHHA,TSSA,DZZA,NYA,NYHA,TSHA,DZHA,YI TSHA,aDZHA,REFORMED TSHA,SHA",
       "SSA,ZHA,ZSHA,TSA,DZA,YI TSA,SA,ZA,ZSA,ZZA,ZZSA,ARCHAIC ZZA,ZZYA,ZZSYA,WA,AH,HHA,BRI,SYI",
       "DZYI,TE,TSE,RTE"]⟩,
    ⟨0x16F4F, "MIAO ",
      ["SIGN CONSONANT MODIFIER BAR,LETTER NASALIZATION,SIGN ASPIRATION,aREFORMED VOICING",
       "bASPIRATION"]⟩,
    ⟨0x16F54, "MIAO VOWEL SIGN ",
      ["A,AA,AHH,AN,ANG,O,OO,WO,W,E,EN,ENG,OEY,I,IA,IAN,IANG,IO,IE,II,IU,ING,U,UA,UAN,UANG,UU",
       "UEI,UNG,Y,YI,AE,AEE,ERR,ROUNDEDa,ER,ROUNDEDa,AI,EI,AU,OU,N,NG,UOG,YUI,OG,OER,VW,IG,EA",
       "IONG,UI"]⟩,
    ⟨0x16F8F, "MIAO ",
      ["TONE RIGHT,aTOPa,aABOVE,aBELOW,LETTER TONE-2,aTONE-3,aTONE-4,aTONE-5,aTONE-6,aTONE-7",
       "aTONE-8,aREFORMED TONE-1,bTONE-2,bTONE-4,bTONE-5,bTONE-6,bTONE-8"]⟩,
    ⟨0x16FE0, "",
      ["TANGUT ITERATION MARK,NUSHUb,OLD CHINESE HOOKa,bITERATIONa,KHITAN SMALL SCRIPT FILLER"]⟩,
    ⟨0x16FF0, "VIETNAMESE ALTERNATE READING MARK ",
      ["CA,NHAY"]⟩,
    ⟨0x18800, "TANGUT ",
      ["COMPONENT-001,COMPONENT-002,COMPONENT-003,COMPONENT-004,COMPONENT-005,COMPONENT-006",
       "COMPONENT-007,COMPONENT-008,COMPONENT-009,COMPONENT-010,COMPONENT-011,COMPONENT-012",
       "COMPONENT-013,COMPONENT-014,COMPONENT-015,COMPONENT-016,COMPONENT-017,COMPONENT-018",
       "COMPONENT-019,COMPONENT-020,COMPONENT-021,COMPONENT-022,COMPONENT-023,COMPONENT-024",
       "COMPONENT-025,COMPONENT-026,COMPONENT-027,COMPONENT-028,COMPONENT-029,COMPONENT-030",
       "COMPONENT-031,COMPONENT-032,COMPONENT-033,COMPONENT-034,COMPONENT-035,COMPONENT-036",
       "COMPONENT-037,COMPONENT-038,COMPONENT-039,COMPONENT-040,COMPONENT-041,COMPONENT-042",
       "COMPONENT-043,COMPONENT-044,COMPONENT-045,COMPONENT-046,COMPONENT-047,COMPONENT-048",
       "COMPONENT-049,COMPONENT-050,COMPONENT-051,COMPONENT-052,COMPONENT-053,COMPONENT-054",
       "COMPONENT-055,COMPONENT-056,COMPONENT-057,COMPONENT-058,COMPONENT-059,COMPONENT-060",
       "COMPONENT-061,COMPONENT-062,COMPONENT-063,COMPONENT-064,COMPONENT-065,COMPONENT-066",
       "COMPONENT-067,COMPONENT-068,COMPONENT-069,COMPONENT-070,COMPONENT-071,COMPONENT-072",
       "COMPONENT-073,COMPONENT-074,COMPONENT-075,COMPONENT-076,COMPONENT-077,COMPONENT-078",
       "COMPONENT-079,COMPONENT-080,COMPONENT-081,COMPONENT-082,COMPONENT-083,COMPONENT-084",
       "COMPONENT-085,COMPONENT-086,COMPONENT-087,COMPONENT-088,COMPONENT-089,COMPONENT-090",
       "COMPONENT-091,COMPONENT-092,COMPONENT-093,COMPONENT-094,COMPONENT-095,COMPONENT-096",
       "COMPONENT-097,COMPONENT-098,COMPONENT-099,COMPONENT-100,COMPONENT-101,COMPONENT-102",
       "COMPONENT-103,COMPONENT-104,COMPONENT-105,COMPONENT-106,COMPONENT-107,COMPONENT-108",
       "COMPONENT-109,COMPONENT-110,COMPONENT-111,COMPONENT-112,COMPONENT-113,COMPONENT-114",
       "COMPONENT-115,COMPONENT-116,COMPONENT-117,COMPONENT-118,COMPONENT-119,COMPONENT-120",
       "COMPONENT-121,COMPONENT-122,COMPONENT-123,COMPONENT-124,COMPONENT-125,COMPONENT-126",
       "COMPONENT-127,COMPONENT-128,COMPONENT-129,COMPONENT-130,COMPONENT-131,COMPONENT-132",
       "COMPONENT-133,COMPONENT-134,COMPONENT-135,COMPONENT-136,COMPONENT-137,COMPONENT-138",
       "COMPONENT-139,COMPONENT-140,COMPONENT-141,COMPONENT-142,COMPONENT-143,COMPONENT-144",
       "COMPONENT-145,COMPONENT-146,COMPONENT-147,COMPONENT-148,COMPONENT-149,COMPONENT-150",
       "COMPONENT-151,COMPONENT-152,COMPONENT-153,COMPONENT-154,COMPONENT-155,COMPONENT-156",
       "COMPONENT-157,COMPONENT-158,COMPONENT-159,COMPONENT-160,COMPONENT-161,COMPONENT-162",
       "COMPONENT-163,COMPONENT-164,COMPONENT-165,COMPONENT-166,COMPONENT-167,COMPONENT-168",
       "COMPONENT-169,COMPONENT-170,COMPONENT-171,COMPONENT-172,COMPONENT-173,COMPONENT-174",
       "COMPONENT-175,COMPONENT-176,COMPONENT-177,COMPONENT-178,COMPONENT-179,COMPONENT-180",
       "COMPONENT-181,COMPONENT-182,COMPONENT-183,COMPONENT-184,COMPONENT-185,COMPONENT-186",
       "COMPONENT-187,COMPONENT-188,COMPONENT-189,COMPONENT-190,COMPONENT-191,COMPONENT-192",
       "COMPONENT-193,COMPONENT-194,COMPONENT-195,COMPONENT-196,COMPONENT-197,COMPONENT-198",
       "COMPONENT-199,COMPONENT-200,COMPONENT-201,COMPONENT-202,COMPONENT-203,COMPONENT-204",
       "COMPONENT-205,COMPONENT-206,COMPONENT-207,COMPONENT-208,COMPONENT-209,COMPONENT-210",
       "COMPONENT-211,COMPONENT-212,COMPONENT-213,COMPONENT-214,COMPONENT-215,COMPONENT-216",
       "COMPONENT-217,COMPONENT-218,COMPONENT-219,COMPONENT-220,COMPONENT-221,COMPONENT-222",
       "COMPONENT-223,COMPONENT-224,COMPONENT-225,COMPONENT-226,COMPONENT-227,COMPONENT-228",
       "COMPONENT-229,COMPONENT-230,COMPONENT-231,COMPONENT-232,COMPONENT-233,COMPONENT-234",
       "COMPONENT-235,COMPONENT-236,COMPONENT-237,COMPONENT-238,COMPONENT-239,COMPONENT-240",
       "COMPONENT-241,COMPONENT-242,COMPONENT-243,COMPONENT-244,COMPONENT-245,COMPONENT-246",
       "COMPONENT-247,COMPONENT-248"]⟩,
    ⟨0x188F8, "TANGUT ",
      ["COMPONENT-249,COMPONENT-250,COMPONENT-251,COMPONENT-252,COMPONENT-253,COMPONENT-254",
       "COMPONENT-255,COMPONENT-256,COMPONENT-257,COMPONENT-258,COMPONENT-259,COMPONENT-260",
       "COMPONENT-261,COMPONENT-262,COMPONENT-263,COMPONENT-264,COMPONENT-265,COMPONENT-266",
       "COMPONENT-267,COMPONENT-268,COMPONENT-269,COMPONENT-270,COMPONENT-271,COMPONENT-272",
       "COMPONENT-273,COMPONENT-274,COMPONENT-275,COMPONENT-276,COMPONENT-277,COMPONENT-278",
       "COMPONENT-279,COMPONENT-280,COMPONENT-281,COMPONENT-282,COMPONENT-283,COMPONENT-284",
       "COMPONENT-285,COMPONENT-286,COMPONENT-287,COMPONENT-288,COMPONENT-289,COMPONENT-290",
       "COMPONENT-291,COMPONENT-292,COMPONENT-293,COMPONENT-294,COMPONENT-295,COMPONENT-296",
       "COMPONENT-297,COMPONENT-298,COMPONENT-299,COMPONENT-300,COMPONENT-301,COMPONENT-302",
       "COMPONENT-303,COMPONENT-304,COMPONENT-305,COMPONENT-306,COMPONENT-307,COMPONENT-308",
       "COMPONENT-309,COMPONENT-310,COMPONENT-311,COMPONENT-312,COMPONENT-313,COMPONENT-314",
       "COMPONENT-315,COMPONENT-316,COMPONENT-317,COMPONENT-318,COMPONENT-319,COMPONENT-320",
       "COMPONENT-321,COMPONENT-322,COMPONENT-323,COMPONENT-324,COMPONENT-325,COMPONENT-326",
       "COMPONENT-327,COMPONENT-328,COMPONENT-329,COMPONENT-330,COMPONENT-331,COMPONENT-332",
       "COMPONENT-333,COMPONENT-334,COMPONENT-335,COMPONENT-336,COMPONENT-337,COMPONENT-338",
       "COMPONENT-339,COMPONENT-340,COMPONENT-341,COMPONENT-342,COMPONENT-343,COMPONENT-344",
       "COMPONENT-345,COMPONENT-346,COMPONENT-347,COMPONENT-348,COMPONENT-349,COMPONENT-350",
       "COMPONENT-351,COMPONENT-352,COMPONENT-353,COMPONENT-354,COMPONENT-355,COMPONENT-356",
       "COMPONENT-357,COMPONENT-358,COMPONENT-359,COMPONENT-360,COMPONENT-361,COMPONENT-362",
       "COMPONENT-363,COMPONENT-364,COMPONENT-365,COMPONENT-366,COMPONENT-367,COMPONENT-368",
       "COMPONENT-369,COMPONENT-370,COMPONENT-371,COMPONENT-372,COMPONENT-373,COMPONENT-374",
       "COMPONENT-375,COMPONENT-376,COMPONENT-377,COMPONENT-378,COMPONENT-379,COMPONENT-380",
       "COMPONENT-381,COMPONENT-382,COMPONENT-383,COMPONENT-384,COMPONENT-385,COMPONENT-386",
       "COMPONENT-387,COMPONENT-388,COMPONENT-389,COMPONENT-390,COMPONENT-391,COMPONENT-392",
       "COMPONENT-393,COMPONENT-394,COMPONENT-395,COMPONENT-396,COMPONENT-397,COMPONENT-398",
       "COMPONENT-399,COMPONENT-400,COMPONENT-401,COMPONENT-402,COMPONENT-403,COMPONENT-404",
       "COMPONENT-405,COMPONENT-406,COMPONENT-407,COMPONENT-408,COMPONENT-409,COMPONENT-410",
       "COMPONENT-411,COMPONENT-412,COMPONENT-413,COMPONENT-414,COMPONENT-415,COMPONENT-416",
       "COMPONENT-417,COMPONENT-418,COMPONENT-419,COMPONENT-420,COMPONENT-421,COMPONENT-422",
       "COMPONENT-423,COMPONENT-424,COMPONENT-425,COMPONENT-426,COMPONENT-427,COMPONENT-428",
       "COMPONENT-429,COMPONENT-430,COMPONENT-431,COMPONENT-432,COMPONENT-433,COMPONENT-434",
       "COMPONENT-435,COMPONENT-436,COMPONENT-437,COMPONENT-438,COMPONENT-439,COMPONENT-440",
       "COMPONENT-441,COMPONENT-442,COMPONENT-443,COMPONENT-444,COMPONENT-445,COMPONENT-446",
       "COMPONENT-447,COMPONENT-448,COMPONENT-449,COMPONENT-450,COMPONENT-451,COMPONENT-452",
       "COMPONENT-453,COMPONENT-454,COMPONENT-455,COMPONENT-456,COMPONENT-457,COMPONENT-458",
       "COMPONENT-459,COMPONENT-460,COMPONENT-461,COMPONENT-462,COMPONENT-463,COMPONENT-464",
       "COMPONENT-465,COMPONENT-466,COMPONENT-467,COMPONENT-468,COMPONENT-469,COMPONENT-470",
       "COMPONENT-471,COMPONENT-472,COMPONENT-473,COMPONENT-474,COMPONENT-475,COMPONENT-476",
       "COMPONENT-477,COMPONENT-478,COMPONENT-479,COMPONENT-480,COMPONENT-481,COMPONENT-482",
       "COMPONENT-483,COMPONENT-484,COMPONENT-485,COMPONENT-486,COMPONENT-487,COMPONENT-488",
       "COMPONENT-489,COMPONENT-490,COMPONENT-491,COMPONENT-492,COMPONENT-493,COMPONENT-494",
       "COMPONENT-495,COMPONENT-496,COMPONENT-497,COMPONENT-498,COMPONENT-499,COMPONENT-500",
       "COMPONENT-501,COMPONENT-502,COMPONENT-503,COMPONENT-504,COMPONENT-505,COMPONENT-506",
       "COMPONENT-507,COMPONENT-508"]⟩,
    ⟨0x189FC, "TANGUT ",
      ["COMPONENT-509,COMPONENT-510,COMPONENT-511,COMPONENT-512,COMPONENT-513,COMPONENT-514",
       "COMPONENT-515,COMPONENT-516,COMPONENT-517,COMPONENT-518,COMPONENT-519,COMPONENT-520",
       "COMPONENT-521,COMPONENT-522,COMPONENT-523,COMPONENT-524,COMPONENT-525,COMPONENT-526",
       "COMPONENT-527,COMPONENT-528,COMPONENT-529,COMPONENT-530,COMPONENT-531,COMPONENT-532",
       "COMPONENT-533,COMPONENT-534,COMPONENT-535,COMPONENT-536,COMPONENT-537,COMPONENT-538",
       "COMPONENT-539,COMPONENT-540,COMPONENT-541,COMPONENT-542,COMPONENT-543,COMPONENT-544",
       "COMPONENT-545,COMPONENT-546,COMPONENT-547,COMPONENT-548,COMPONENT-549,COMPONENT-550",
       "COMPONENT-551,COMPONENT-552,COMPONENT-553,COMPONENT-554,COMPONENT-555,COMPONENT-556",
       "COMPONENT-557,COMPONENT-558,COMPONENT-559,COMPONENT-560,COMPONENT-561,COMPONENT-562",
       "COMPONENT-563,COMPONENT-564,COMPONENT-565,COMPONENT-566,COMPONENT-567,COMPONENT-568",
       "COMPONENT-569,COMPONENT-570,COMPONENT-571,COMPONENT-572,COMPONENT-573,COMPONENT-574",
       "COMPONENT-575,COMPONENT-576,COMPONENT-577,COMPONENT-578,COMPONENT-579,COMPONENT-580",
       "COMPONENT-581,COMPONENT-582,COMPONENT-583,COMPONENT-584,COMPONENT-585,COMPONENT-586",
       "COMPONENT-587,COMPONENT-588,COMPONENT-589,COMPONENT-590,COMPONENT-591,COMPONENT-592",
       "COMPONENT-593,COMPONENT-594,COMPONENT-595,COMPONENT-596,COMPONENT-597,COMPONENT-598",
       "COMPONENT-599,COMPONENT-600,COMPONENT-601,COMPONENT-602,COMPONENT-603,COMPONENT-604",
       "COMPONENT-605,COMPONENT-606,COMPONENT-607,COMPONENT-608,COMPONENT-609,COMPONENT-610",
       "COMPONENT-611,COMPONENT-612,COMPONENT-613,COMPONENT-614,COMPONENT-615,COMPONENT-616",
       "COMPONENT-617,COMPONENT-618,COMPONENT-619,COMPONENT-620,COMPONENT-621,COMPONENT-622",
       "COMPONENT-623,COMPONENT-624,COMPONENT-625,COMPONENT-626,COMPONENT-627,COMPONENT-628",
       "COMPONENT-629,COMPONENT-630,COMPONENT-631,COMPONENT-632,COMPONENT-633,COMPONENT-634",
       "COMPONENT-635,COMPONENT-636,COMPONENT-637,COMPONENT-638,COMPONENT-639,COMPONENT-640",
       "COMPONENT-641,COMPONENT-642,COMPONENT-643,COMPONENT-644,COMPONENT-645,COMPONENT-646",
       "COMPONENT-647,COMPONENT-648,COMPONENT-649,COMPONENT-650,COMPONENT-651,COMPONENT-652",
       "COMPONENT-653,COMPONENT-654,COMPONENT-655,COMPONENT-656,COMPONENT-657,COMPONENT-658",
       "COMPONENT-659,COMPONENT-660,COMPONENT-661,COMPONENT-662,COMPONENT-663,COMPONENT-664",
       "COMPONENT-665,COMPONENT-666,COMPONENT-667,COMPONENT-668,COMPONENT-669,COMPONENT-670",
       "COMPONENT-671,COMPONENT-672,COMPONENT-673,COMPONENT-674,COMPONENT-675,COMPONENT-676",
       "COMPONENT-677,COMPONENT-678,COMPONENT-679,COMPONENT-680,COMPONENT-681,COMPONENT-682",
       "COMPONENT-683,COMPONENT-684,COMPONENT-685,COMPONENT-686,COMPONENT-687,COMPONENT-688",
       "COMPONENT-689,COMPONENT-690,COMPONENT-691,COMPONENT-692,COMPONENT-693,COMPONENT-694",
       "COMPONENT-695,COMPONENT-696,COMPONENT-697,COMPONENT-698,COMPONENT-699,COMPONENT-700",
       "COMPONENT-701,COMPONENT-702,COMPONENT-703,COMPONENT-704,COMPONENT-705,COMPONENT-706",
       "COMPONENT-707,COMPONENT-708,COMPONENT-709,COMPONENT-710,COMPONENT-711,COMPONENT-712",
       "COMPONENT-713,COMPONENT-714,COMPONENT-715,COMPONENT-716,COMPONENT-717,COMPONENT-718",
       "COMPONENT-719,COMPONENT-720,COMPONENT-721,COMPONENT-722,COMPONENT-723,COMPONENT-724",
       "COMPONENT-725,COMPONENT-726,COMPONENT-727,COMPONENT-728,COMPONENT-729,COMPONENT-730",
       "COMPONENT-731,COMPONENT-732,COMPONENT-733,COMPONENT-734,COMPONENT-735,COMPONENT-736",
       "COMPONENT-737,COMPONENT-738,COMPONENT-739,COMPONENT-740,COMPONENT-741,COMPONENT-742",
       "COMPONENT-743,COMPONENT-744,COMPONENT-745,COMPONENT-746,COMPONENT-747,COMPONENT-748",
       "COMPONENT-749,COMPONENT-750,COMPONENT-751,COMPONENT-752,COMPONENT-753,COMPONENT-754",
       "COMPONENT-755,COMPONENT-756,COMPONENT-757,COMPONENT-758,COMPONENT-759,COMPONENT-760",
       "COMPONENT-761,COMPONENT-762,COMPONENT-763,COMPONENT-764,COMPONENT-765,COMPONENT-766",
       "COMPONENT-767,COMPONENT-768"]⟩,
    ⟨0x1AFF0, "KATAKANA LETTER ",
      ["MINNAN TONE-2,aTONE-3,aTONE-4,aTONE-5,,aTONE-7,aTONE-8,aNASALIZED TONE-1,bTONE-2",
       "bTONE-3,bTONE-4,bTONE-5,,bTONE-7,bTONE-8,,ARCHAIC E"]⟩,
    ⟨0x1B001, "HIRAGANA LETTER ARCHAIC ",
      ["YE"]⟩,
    ⟨0x1B002, "HENTAIGANA LETTER ",
      ["A-1,A-2,A-3,A-WO,I-1,I-2,I-3,I-4,U-1,U-2,U-3,U-4,U-5,E-2,E-3,E-4,E-5,E-6,O-1,O-2,O-3",
       "KA-1,KA-2,KA-3,KA-4"]⟩,
    ⟨0x1B01B, "HENTAIGANA LETTER ",
      ["KA-5,KA-6,KA-7,KA-8,KA-9,KA-10,KA-11,KA-KE,KI-1,KI-2,KI-3,KI-4,KI-5,KI-6,KI-7,KI-8,KU-1",
       "KU-2,KU-3,KU-4,KU-5,KU-6,KU-7,KE-1,KE-2,KE-3,KE-4,KE-5,KE-6,KO-1,KO-2,KO-3,KO-KI,SA-1",
       "SA-2,SA-3,SA-4,SA-5,SA-6,SA-7,SA-8,SI-1,SI-2,SI-3,SI-4,SI-5,SI-6,SU-1,SU-2,SU-3,SU-4",
       "SU-5,SU-6,SU-7,SU-8,SE-1,SE-2,SE-3,SE-4,SE-5,SO-1,SO-2,SO-3,SO-4,SO-5,SO-6,SO-7,TA-1",
       "TA-2,TA-3,TA-4,TI-1,TI-2,TI-3,TI-4,TI-5,TI-6,TI-7,TU-1,TU-2,TU-3,TU-4,TU-TO,TE-1,TE-2",
       "TE-3,TE-4,TE-5,TE-6,TE-7,TE-8,TE-9,TO-1,TO-2,TO-3,TO-4,TO-5,TO-6,TO-RA,NA-1,NA-2,NA-3",
       "NA-4,NA-5,NA-6,NA-7,NA-8,NA-9,NI-1,NI-2,NI-3,NI-4,NI-5,NI-6,NI-7,NI-TE,NU-1,NU-2,NU-3",
       "NE-1,NE-2,NE-3,NE-4,NE-5,NE-6,NE-KO,NO-1,NO-2,NO-3,NO-4,NO-5,HA-1,HA-2,HA-3,HA-4,HA-5",
       "HA-6,HA-7,HA-8,HA-9,HA-10,HA-11,HI-1,HI-2,HI-3,HI-4,HI-5,HI-6,HI-7,HU-1,HU-2,HU-3,HE-1",
       "HE-2,HE-3,HE-4,HE-5,HE-6,HE-7,HO-1,HO-2,HO-3,HO-4,HO-5,HO-6,HO-7,HO-8,MA-1,MA-2,MA-3",
       "MA-4,MA-5,MA-6,MA-7,MI-1,MI-2,MI-3,MI-4,MI-5,MI-6,MI-7,MU-1,MU-2,MU-3,MU-4,ME-1,ME-2",
       "ME-MA,MO-1,MO-2,MO-3,MO-4,MO-5,MO-6,YA-1,YA-2,YA-3,YA-4,YA-5,YA-YO,YU-1,YU-2,YU-3,YU-4",
       "YO-1,YO-2,YO-3,YO-4,YO-5,YO-6,RA-1,RA-2,RA-3,RA-4,RI-1,RI-2,RI-3,RI-4,RI-5,RI-6,RI-7",
       "RU-1,RU-2,RU-3,RU-4,RU-5,RU-6,RE-1,RE-2,RE-3,RE-4,RO-1,RO-2,RO-3,RO-4,RO-5,RO-6,WA-1",
       "WA-2,WA-3,WA-4,WA-5,WI-1,WI-2,WI-3,WI-4,WI-5,WE-1,WE-2,WE-3,WE-4,WO-1,WO-2,WO-3,WO-4",
       "WO-5,WO-6,WO-7,N-MU-MO-1,N-MU-MO-2"]⟩,
    ⟨0x1B11F, "HIRAGANA LETTER ARCHAIC ",
      ["WU"]⟩,
    ⟨0x1B120, "KATAKANA LETTER ARCHAIC ",
      ["YI,YE,WU"]⟩,
    ⟨0x1B150, "HIRAGANA LETTER SMALL ",
      ["WI,WE,WO"]⟩,
    ⟨0x1B164, "KATAKANA LETTER SMALL ",
      ["WI,WE,WO,N"]⟩,
    ⟨0x1BC00, "DUPLOYAN LETTER ",
      ["H,X,P,T,F,K,L,B,D,V,G,R,P N,D S,F N,K M,R S,TH,SLOAN DH,DH,KK,SLOAN J,HL,LH,RH,M,N,J,S",
       "M N,N M,Ja,S J,M WITH DOT,Nb,Jb,bDOTS INSIDE AND ABOVE,S WITH DOT,cBELOW,M S,Na,Ja,Sa",
       "M Na,N Ma,Jb,S Ja,J S WITH DOT,aN,bS,S T,bR,aP,bR,T S,aRa,W,WH,W R,S N,aM,K R S,Gb,S K",
       "bR,A,SLOAN OW,OA,O,AOU,I,E,IE,SHORT I,UI,EE,SLOAN EH,ROMANIAN I,SLOAN EE,LONG I,YE,U,EU",
       "XW,U N,LONG U,ROMANIANa,UH,SLOAN U,OOH,OW,OU,WA,WO,WI,WEI,WOW,NASAL U,aO,aI,aA",
       "PERNIN AN,aAM,SLOAN EN,aAN,aON,VOCALIC M"]⟩,
    ⟨0x1BC70, "DUPLOYAN ",
      ["AFFIX LEFT HORIZONTAL SECANT,aMIDb,aRIGHTb,aLOW VERTICALa,aMIDb,aHIGHb,aATTACHEDa",
       "bLEFT-TO-RIGHTa,bTANGENT,bTAIL,bE HOOK,bIa,bTANGENTa,,,,aHIGH ACUTE,bTIGHTa,bGRAVE",
       "bLONGa,bDOT,bCIRCLE,bLINE,bWAVE,bVERTICAL,,,,,,,,aLOW ACUTE,bTIGHTa,bGRAVE,bLONGa,bDOT",
       "bCIRCLE,bLINE,bWAVE,bVERTICAL,bARROW,,,SIGN O WITH CROSS,THICK LETTER SELECTOR",
       "DOUBLE MARK,PUNCTUATION CHINOOK FULL STOP"]⟩,
    ⟨0x1BCA0, "SHORTHAND FORMAT ",
      ["LETTER OVERLAP,CONTINUINGa,DOWN STEP,UPa"]⟩ ]

end LineTally.CharNames
