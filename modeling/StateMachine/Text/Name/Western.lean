import StateMachine.Text.Name.Table

/-!
# Names of characters: from Latin to Arabic

The code points up to 07FF: Latin, Greek, Cyrillic, Hebrew, Arabic and their neighbours.
-/

namespace StateMachine.Text

/-- The names of these characters. -/
def westernNames : NameTable :=
  ⟨
   [(0x20, 0x7e), (0xa0, 0x377), (0x37a, 0x37f), (0x384, 0x38a), (0x38c, 0x38c), (0x38e, 0x3a1), (0x3a3, 0x52f),
    (0x531, 0x556), (0x559, 0x58a), (0x58d, 0x58f), (0x591, 0x5c7), (0x5d0, 0x5ea), (0x5ef, 0x5f4),
    (0x600, 0x70d), (0x70f, 0x74a), (0x74d, 0x7b1), (0x7c0, 0x7fa), (0x7fd, 0x7ff)],
   ["aaSPACEaaEXCLAMATION MARKakQUOTaaNUMBER SIGNagDOLLAafPERCENTaaAMPERSANDbaPOSTROPHEaaLEFT PARENTHESISanRIGHaa",
    "ASTERISKaaPLUS SIGNaaCOMMAaaHYPHEN-MINUSaaFULL STOPaaSOLIDUSaaDIGIT ZEROgaONEgaTWOhaHREEgaFOURhaIVEgaSIXhaEV",
    "ENgaEIGHTgaNINEaaCOLONafSEMIabLESS-THAN SIGafEQUALSafGREATER-THANaaQUESTION MARKaaCOMMERCIAL ATaaLATIN CAPIT",
    "AL LETTER AvaBvaCvaDvaEvaFvaGvaHvaIvaJvaKvaLvaMvaNvaOvaPvaQvaRvaSvaTvaUvaVvaWvaXvaYvaZbaEFT SQUARE BRACKETaa",
    "REVERSE SOLIDUSbaIGHT SQUARE BRACKETabCIRCUMFLEX ACCENaaLOW LINEaaGRAVE ACCENTaaLATIN SMALL LETTER AtaBtaCta",
    "DtaEtaFtaGtaHtaItaJtaKtaLtaMtaNtaOtaPtaQtaRtaStaTtaUtaVtaWtaXtaYtaZbaEFT CURLY BRACKETaaVERTICAL LINEaaRIGHT",
    " CURLY BRACKETaaTILDEabNO-BREAK SPACaaINVERTED EXCLAMATION MARKaaCENT SIGNafPOUNDafCURRENCYafYENaaBROKEN BAR",
    "aaSECTION SIGNaaDIAERESISaaCOPYRIGHT SIGNaaFEMININE ORDINAL INDICATORaaLEFT-POINTING DOUBLE ANGLE QUOTATION ",
    "MARKaaNOT SIGNabSOFT HYPHEabREGISTERED SIGabMACROabDEGREE SIGafPLUS-MINUSaaSUPERSCRIPT TWOnaHREEaaACUTE ACCE",
    "NTaaMICRO SIGNafPILCROWaaMIDDLE DOTaaCEDILLAaaSUPERSCRIPT ONEaaMASCULINE ORDINAL INDICATORaaRIGHT-POINTING D",
    "OUBLE ANGLE QUOTATION MARKaaVULGAR FRACTION ONE QUARTERuaHALFqaTHREE QUARTERSaaINVERTED QUESTION MARKaaLATIN",
    " CAPITAL LETTER A WITH GRAVE%bACUT%aCIRCUMFLEX%aTILDE%aDIAERESIS%aRING ABOVEwbvaC WITH CEDILLAvaE WITH GRAVE",
    "%bACUT%aCIRCUMFLEX%aDIAERESISvaI WITH GRAVE%bACUT%aCIRCUMFLEX%aDIAERESISvaETHvaN WITH TILDEvbO WITH GRAV%bAC",
    "UT%aCIRCUMFLEX%aTILDE%aDIAERESISaaMULTIPLICATION SIGNaaLATIN CAPITAL LETTER O WITH STROKEvbU WITH GRAV%bACUT",
    "%aCIRCUMFLEX%aDIAERESISvaY WITH ACUTEvaTHORNgaSMALL LETTER SHARP StaA WITH GRAVE!bACUT!aCIRCUMFLEX!aTILDE!aD",
    "IAERESIS!aRING ABOVEubtaC WITH CEDILLAtaE WITH GRAVE!bACUT!aCIRCUMFLEX!aDIAERESIStaI WITH GRAVE!bACUT!aCIRCU",
    "MFLEX!aDIAERESIStaETHtaN WITH TILDEtbO WITH GRAV!bACUT!aCIRCUMFLEX!aTILDE!aDIAERESISaaDIVISION SIGNaaLATIN S",
    "MALL LETTER O WITH STROKEtbU WITH GRAV!bACUT!aCIRCUMFLEX!aDIAERESIStaY WITH ACUTEtaTHORNtaY WITH DIAERESISga",
    "CAPITAL LETTER A WITH MACRONgwSMALgaCAPITAL LETTER A WITH BREVEgvSMALgaCAPITAL LETTER A WITH OGONEKgwSMALgaC",
    "APITAL LETTER C WITH ACUTEgvSMALgaCAPITAL LETTER C WITH CIRCUMFLEXg!SMALgaCAPITAL LETTER C WITH DOT ABOVEgzS",
    "MALgaCAPITAL LETTER C WITH CARONgvSMALglCAPITAL LETTER DgvSMALgaCAPITAL LETTER D WITH STROKEgwSMALgaCAPITAL ",
    "LETTER E WITH MACRONgwSMALgaCAPITAL LETTER E WITH BREVEgvSMALgcCAPITAL LETTER E WITH DOT ABOgzSMALgaCAPITAL ",
    "LETTER E WITH OGONEKgwSMALgaCAPITAL LETTER E WITH CARONgvSMALgaCAPITAL LETTER G WITH CIRCUMFLEXg!SMALgaCAPIT",
    "AL LETTER G WITH BREVEgvSMALgcCAPITAL LETTER G WITH DOT ABOgzSMALgaCAPITAL LETTER G WITH CEDILLAgxSMALgaCAPI",
    "TAL LETTER H WITH CIRCUMFLEXg!SMALgaCAPITAL LETTER H WITH STROKEgwSMALgbCAPITAL LETTER I WITH TILDgvSMALgaCA",
    "PITAL LETTER I WITH MACRONgwSMALgaCAPITAL LETTER I WITH BREVEgvSMALgaCAPITAL LETTER I WITH OGONEKgwSMALgaCAP",
    "ITAL LETTER I WITH DOT ABOVEgaSMALL LETTER DOTLESS IgaCAPITAL LIGATURE IJgnSMALgaCAPITAL LETTER J WITH CIRCU",
    "MFLEXg!SMALgaCAPITAL LETTER K WITH CEDILLAgxSMALubRgaCAPITAL LETTER L WITH ACUTEgvSMALgaCAPITAL LETTER L WIT",
    "H CEDILLAgxSMALgaCAPITAL LETTER L WITH CARONgvSMALgaCAPITAL LETTER L WITH MIDDLE DOTg!SMALgaCAPITAL LETTER L",
    " WITH STROKEgwSMALgbCAPITAL LETTER N WITH ACUTgvSMALgaCAPITAL LETTER N WITH CEDILLAgxSMALgaCAPITAL LETTER N ",
    "WITH CARONgvSMALvaPRECEDED BY APOSTROPHEgaCAPITAL LETTER ENGgmSMALgaCAPITAL LETTER O WITH MACRONgwSMALgaCAPI",
    "TAL LETTER O WITH BREVEgvSMALgbCAPITAL LETTER O WITH DOUBLE ACUTg%SMALgbCAPITAL LIGATURE OgnSMALgbCAPITAL LE",
    "TTER R WITH ACUTgvSMALgaCAPITAL LETTER R WITH CEDILLAgxSMALgaCAPITAL LETTER R WITH CARONgvSMALgaCAPITAL LETT",
    "ER S WITH ACUTEgvSMALgaCAPITAL LETTER S WITH CIRCUMFLEXg!SMALgaCAPITAL LETTER S WITH CEDILLAgxSMALgaCAPITAL ",
    "LETTER S WITH CARONgvSMALgaCAPITAL LETTER T WITH CEDILLAgxSMALgaCAPITAL LETTER T WITH CARONgvSMALgaCAPITAL L",
    "ETTER T WITH STROKEgwSMALgbCAPITAL LETTER U WITH TILDgvSMALgaCAPITAL LETTER U WITH MACRONgwSMALgaCAPITAL LET",
    "TER U WITH BREVEgvSMALgcCAPITAL LETTER U WITH RING ABOg!SMALgbCAPITAL LETTER U WITH DOUBLE ACUTg%SMALgaCAPIT",
    "AL LETTER U WITH OGONEKgwSMALgaCAPITAL LETTER W WITH CIRCUMFLEXg!SMALgqCAPITAL LETTER Yg!SMALgaCAPITAL LETTE",
    "R Y WITH DIAERESISvaZ WITH ACUTEgvSMALgbCAPITAL LETTER Z WITH DOT ABOVgzSMALgaCAPITAL LETTER Z WITH CARONgvS",
    "MALtaLONG StaB WITH STROKEgaCAPITAL LETTER B WITH HOOK%aTOPBARgwSMALgaCAPITAL LETTER TONE SIXgrSMALgaCAPITAL",
    " LETTER OPEN OvaC WITH HOOKguSMALgaCAPITAL LETTER AFRICAN DvaD WITH HOOK%aTOPBARgwSMALtaTURNED DELTAgaCAPITA",
    "L LETTER REVERSED EvaSCHWAvaOPEN EvaF WITH HOOKguSMALgkCAPITAL LETTER GwaAMMAgaSMALL LETTER HVgaCAPITAL LETT",
    "ER IOTAwa WITH STROKEvaK WITH HOOKguSMALtaL WITH BARuaAMBDA WITH STROKEgaCAPITAL LETTER TURNED MvaN WITH LEF",
    "T HOOKgaSMALL LETTER N WITH LONG RIGHT LEGgaCAPITAL LETTER O WITH MIDDLE TILDE%aHORNguSMALgaCAPITAL LETTER O",
    "IglSMALgaCAPITAL LETTER P WITH HOOKguSMALgaLETTER YRgaCAPITAL LETTER TONE TWOgrSMALgaCAPITAL LETTER ESHgaLET",
    "TER REVERSED ESH LOOPgaSMALL LETTER T WITH PALATAL HOOKgfCAPITAL LETTER T WITHguSMALgfCAPITAL LETTER T WITH ",
    "RETROFLEXvaU WITH HORNguSMALgbCAPITAL LETTER UPSILOvaV WITH HOOKvkYguSMALgaCAPITAL LETTER Z WITH STROKEgwSMA",
    "LgaCAPITAL LETTER EZHya REVERSEDgvSMALxaWITH TAILgaLETTER TWO WITH STROKEgbCAPITAL LETTER TONE FIVgsSMALgbLE",
    "TTER INVERTED GLOTTAL STOP WITH STROKnaWYNNnaDENTAL CLICKniLATERngALVEOLARngRETROFLEXgaCAPITAL LETTER DZ WIT",
    "H CARONwm WITH SMALL LETTER gmSMALL LETTER DgaCAPITAL LETTER LJwb WITH SMALL LETTER gbSMALL LETTER LgbCAPITA",
    "L LETTER Nwb WITH SMALL LETTER gbSMALL LETTER NgaCAPITAL LETTER A WITH CARONgvSMALglCAPITAL LETTER IgvSMALgl",
    "CAPITAL LETTER OgvSMALglCAPITAL LETTER UgvSMALgdCAPITAL LETTER U WITH DIAERESIS AND MACg:SMALgaCAPITAL LETTE",
    "R U WITH DIAERESIS AND ACUTEg.SMALgaCAPITAL LETTER U WITH DIAERESIS AND CARONg.SMALgaCAPITAL LETTER U WITH D",
    "IAERESIS AND GRAVEg.SMALtbTURNED gaCAPITAL LETTER A WITH DIAERESIS AND MACRONg:SMALglCAPITAL LETTER A WITH D",
    "OT ABOVEg:SMALghCAPITAL LETTER AE WITHgxSMALgaCAPITAL LETTER G WITH STROKEgwSMALgaCAPITAL LETTER G WITH CARO",
    "NgvSMALglCAPITAL LETTER KgvSMALgaCAPITAL LETTER O WITH OGONEKgwSMALgaCAPITAL LETTER O WITH OGONEK AND MACRON",
    "g+SMALgdCAPITAL LETTER EZH WITH CAgxSMALtlJgaCAPITAL LETTER DZwb WITH SMALL LETTER gbSMALL LETTER DgaCAPITAL",
    " LETTER G WITH ACUTEgvSMALgaCAPITAL LETTER HWAIRvaWYNNvaN WITH GRAVEgvSMALgbCAPITAL LETTER A WITH RING ABOVE",
    " AND ACUTg:SMALggCAPITAL LETTER AE WITHgwSMALggCAPITAL LETTER O WITH STROKE ANDg*SMALgbCAPITAL LETTER A WITH",
    " DOUBLE GRAVg%SMALgcCAPITAL LETTER A WITH INVERTED BREg(SMALgcCAPITAL LETTER E WITH DOUBLE GRAg%SMALgcCAPITA",
    "L LETTER E WITH INVERTED BREg(SMALgcCAPITAL LETTER I WITH DOUBLE GRAg%SMALgcCAPITAL LETTER I WITH INVERTED B",
    "REg(SMALgcCAPITAL LETTER O WITH DOUBLE GRAg%SMALgcCAPITAL LETTER O WITH INVERTED BREg(SMALgcCAPITAL LETTER R",
    " WITH DOUBLE GRAg%SMALgcCAPITAL LETTER R WITH INVERTED BREg(SMALgcCAPITAL LETTER U WITH DOUBLE GRAg%SMALgcCA",
    "PITAL LETTER U WITH INVERTED BREg(SMALgaCAPITAL LETTER S WITH COMMA BELOWg$SMALgrCAPITAL LETTER Tg$SMALgaCAP",
    "ITAL LETTER YOGHgnSMALgaCAPITAL LETTER H WITH CARONgvSMALgaCAPITAL LETTER N WITH LONG RIGHT LEGgaSMALL LETTE",
    "R D WITH CURLgaCAPITAL LETTER OUglSMALgaCAPITAL LETTER Z WITH HOOKguSMALgaCAPITAL LETTER A WITH DOT ABOVEgzS",
    "MALgaCAPITAL LETTER E WITH CEDILLAgxSMALgaCAPITAL LETTER O WITH DIAERESIS AND MACRONg:SMALglCAPITAL LETTER O",
    " WITH TILDEg*SMALgaCAPITAL LETTER O WITH DOT ABOVEgzSMALgaCAPITAL LETTER O WITH DOT ABOVE AND MACRONg:SMALgh",
    "CAPITAL LETTER Y WITHgwSMALtaL WITH CURLtkNtkTtaDOTLESS JuaB DIGRAPHtiQPgaCAPITAL LETTER A WITH STROKEvmCgwS",
    "MALgaCAPITAL LETTER L WITH BARvaT WITH DIAGONAL STROKEgaSMALL LETTER S WITH SWASH TAILtqZgaCAPITAL LETTER GL",
    "OTTAL STOPgvSMALgaCAPITAL LETTER B WITH STROKEvaU BARvaTURNED VvaE WITH STROKEgwSMALgmCAPITAL LETTER JgwSMAL",
    "gaCAPITAL LETTER SMALL Q WITH HOOK TAILgrSMALL LETTERgaCAPITAL LETTER R WITH STROKEgwSMALgmCAPITAL LETTER Yg",
    "wSMALtaTURNED AtbALPHtfTURNED taB WITH HOOKtaOPEN OtaC WITH CURLtbD WITH TAI!aHOOKtaREVERSED EtaSCHWAya WITH",
    " HOOKtaOPEN EtgREVERSED ,a WITH HOOKtaCLOSED REVERSED OPEN EtbDOTLESS J WITH STROKtaG WITH HOOKtaSCRIPT GgcL",
    "ETTER SMALL CAPITALgaSMALL LETTER GAMMAtaRAMS HORNtaTURNED HtaH WITH HOOKukENGtaI WITH STROKEuaOTAgaLETTER S",
    "MALL CAPITAL IgaSMALL LETTER L WITH MIDDLE TILDE!aBELT!aRETROFLEX HOOKuaEZHtaTURNED M$a WITH LONG LEGtaM WIT",
    "H HOOKtfN WITH LEFT!fRETROFLEXgaLETTER SMALL CAPITAL NgaSMALL LETTER BARRED OgaLETTER SMALL CAPITAL OEgaSMAL",
    "L LETTER CLOSED OMEGAtaPHItaTURNED R$a WITH LONG LEG+aHOOKtaR WITH LONG LEG!aTAIL!aFISHHOOKuoEVERSED RgaLETT",
    "ER SMALL CAPITAL R$bINVERTED gaSMALL LETTER S WITH HOOKtaESHtaDOTLESS J WITH STROKE AND HOOKtaSQUAT REVERSED",
    " ESHtaESH WITH CURLtaTURNED Tua WITH RETROFLEX HOOKtaU BARuaPSILONtaV WITH HOOKtaTURNED V!aW!aYgcLETTER SMAL",
    "L CAPITALgaSMALL LETTER Z WITH RETROFLEX HOOK!aCURLtaEZHwa WITH CURLgaLETTER GLOTTAL STOPnaPHARYNGEAL VOICED",
    " FRICATIVEnaINVERTED GLOTTAL STOPnaSTRETCHED CnaBILABIAL CLICKnaSMALL CAPITAL BgaSMALL LETTER CLOSED OPEN Eg",
    "aLETTER SMALL CAPITAL G WITH HOOK$aHgaSMALL LETTER J WITH CROSSED-TAILtaTURNED KgaLETTER SMALL CAPITAL LgaSM",
    "ALL LETTER Q WITH HOOKgaLETTER GLOTTAL STOP WITH STROKEnyREVERSED gaSMALL LETTER DZ DIGRAPHuiEZHuaZ DIGRAPH ",
    "WITH CURLtaTS DIGRAPHuiESHuaC DIGRAPH WITH CURLtaFENG DIGRAPHtiLSuiZgaLETTER BILABIAL PERCUSSIVEpnDENTgaSMAL",
    "L LETTER TURNED H WITH FISHHOOK?a AND TAILaaMODIFIER LETTER SMALL Hxa WITH HOOKwaJwaRwbTURNED (a WITH HOOKwa",
    "CAPITAL INVERTED RwaWwaYqaPRIMEqfDOUBLE qaTURNED COMMAqaAPOSTROPHEqaREVERSED COMMAraIGHT HALF RINGqlLEFqaGLO",
    "TTAL STOPqmREVERSED qaLEFT ARROWHEADqlRIGHqkUPqkDOWNqaCIRCUMFLEX ACCENTaaCARONaaMODIFIER LETTER VERTICAL LIN",
    "EqaMACRONqaACUTE ACCENTqiGRAVqaLOW VERTICAL LINEuaMACRONuaGRAVE ACCENTuiACUTqaTRIANGULAR COLONqqHALF qaCENTR",
    "ED RIGHT HALF RINGylLEFqaUP TACKqfDOWNqaPLUS SIGNqhMINaaBREVEacDOT ABOagRINGaaOGONEKaaSMALL TILDEaaDOUBLE AC",
    "UTE ACCENTaaMODIFIER LETTER RHOTIC HOOKqaCROSS ACCENTqaSMALL GAMMAwaLwaSwaXwaREVERSED GLOTTAL STOPqaEXTRA-HI",
    "GH TONE BARqnqjMIDqjLOWqmEXTRA-qaYIN DEPARTING TONE MARKruANGqaVOICINGqaUNASPIRATEDqaDOUBLE APOSTROPHEqaLOW ",
    "DOWN ARROWHEADukUPukLEFTulRIGHwaNGqaMIDDLE GRAVE ACCENTxmDOUBLE (iACUTqaLOW TILDEqaRAISED COLONqaBEGIN HIGH ",
    "TONEqkENDqfBEGIN LOWqjENDqaSHELFqfOPEN qaLOW LEFT ARROWaaCOMBINING GRAVE ACCENTkiACUTkhCIRCUMFLEXkaTILDEkaMA",
    "CRONkaOVERLINEkbBREVkcDOT ABOlaIAERESISkaHOOK ABOVEkgRINGkaDOUBLE ACUTE ACCENTkaCARONkaVERTICAL LINE ABOVEkt",
    "DOUBLE raGRAVE ACCENTkaCANDRABINDUkaINVERTED BREVEkcTURNED COMMA ABOklklREVERSED kaCOMMA ABOVE RIGHTkaGRAVE ",
    "ACCENT BELOWkoACUTkgLEFT TACKkmRIGHkaLEFT ANGLE ABOVEkaHORNkaLEFT HALF RING BELOWkgUP TACKklDOWNkgPLUS SIGNk",
    "nMINkgPALATALIZED HOOKklRETROFLEXkgDOTlgIAERESISkgRINGkgCOMMAlaEDILLAkaOGONEKkaVERTICAL LINE BELOWkhBRIDGkgI",
    "NVERTED DOUBLE ARCHkgCARONlgIRCUMFLEX ACCENTkgBREVEklINVERTED khTILDkgMACRONkaLOW LINEkiDOUBLE kaTILDE OVERL",
    "AYkjSHORT STROKkpLONGkiSHORT SOLIDUSkqLONGkaRIGHT HALF RING BELOWkgINVERTED BRIDGEkhSQUARlgEAGULLkaX ABOVEkb",
    "VERTICAL TILDkbDOUBLE OVERLINkaGRAVE TONE MARKklACUTkaGREEK PERISPOMENIqaKORONISqbDIALYTIKA TONOqaYPOGEGRAMM",
    "ENIkaBRIDGE ABOVEkaEQUALS SIGN BELOWkgDOUBLE VERTICAL LINEkhLEFT ANGLkaNOT TILDE ABOVEkgHOMOTHETICkgALMOST E",
    "QUAL TOkaLEFT RIGHT ARROW BELOWkmUPWARDSkaGRAPHEME JOINERkaRIGHT ARROWHEAD ABOVEkgLEFT HALF RINGkaFERMATAkaX",
    " BELOWkgLEFT ARROWHEADkrRIGH!fAND UP ARROWHEAD qaHALF RING ABOVEkaDOT ABOVE RIGHTkaASTERISK BELOWkgDOUBLE RI",
    "NGkaZIGZAG ABOVEkaDOUBLE BREVE BELOWwaraMACRONxa BELOWraTILDErbINVERTED BREVraRIGHTWARDS ARROW BELOWkaLATIN ",
    "SMALL LETTER A&aE&aI&aO&aU&aC&aD&aH&aM&aR&aT&aV&aXaaGREEK CAPITAL LETTER HETAgnSMALgaCAPITAL LETTER ARCHAIC ",
    "SAMPIgwSMALgaNUMERAL SIGNgmLOWER gaCAPITAL LETTER PAMPHYLIAN DIGAMMAg$SMALgaYPOGEGRAMMENIgaSMALL REVERSED LU",
    "NATE SIGMA SYMBOLmwDOTTm!REVERSED gaQUESTION MARKgaCAPITAL LETTER YOTgaTONOSgfDIALYTIKA ggCAPITAL LETTER ALP",
    "HA WITHgaANO TELEIAgaCAPITAL LETTER EPSILON WITH TONOSwlTAvnIOvlOMICRONvnUPSILvlOMEGAggSMALL LETTER IOTA WIT",
    "H DIALYTIKA ANDgaCAPITAL LETTER ALPHAvbBETvbGAMMvbDELTvaEPSILONvaZETAvdvdTHvcIOvbKAPPvbLAMDvaMUvbNvaXIvaOMIC",
    "RONvaPIvaRHOvaSIGMAvaTAUvaUPSILONvaPHIvcCvbPSvaOMEGAvbIOTA WITH DIALYTIKvpUPSILONgaSMALL LETTER ALPHA WITH T",
    "ONOStlEPSILONulTAtnIOtgUPSILON WITH DIALYTIKA ANDtaALPHAtbBETtbGAMMtbDELTtaEPSILONtaZETAtdtdTHtcIOtbKAPPtbLA",
    "MDtaMUtbNtaXItaOMICRONtaPItaRHOtaFINAL SIGMAtftaTAUtaUPSILONtaPHItcCtbPStaOMEGAtbIOTA WITH DIALYTIKtpUPSILON",
    "taOMICRON WITH TONOStnUPSILtlOMEGAgaCAPITAL KAI SYMBOLghBETAgkTHghUPSILON WITH HOOKtlACUTE AND tqDIAERESISgh",
    "PHIhigiKAgaLETTER ARCHAIC KOPPAguSMALL gbLETTER STIGMgnSMALL gcLETTER DIGAMgoSMALL gbLETTER KOPPgmSMALL gaLE",
    "TTER SAMPIgmSMALL abCOPTIC CAPITAL LETTER SHEhnSMALhcCAPITAL LETTER FhmSMALhcCAPITAL LETTER KHhnSMALhbCAPITA",
    "L LETTER HORhnSMALhaCAPITAL LETTER GANGIAhpSMALhbCAPITAL LETTER SHIMhoSMALhaCAPITAL LETTER DEIhmSMALaaGREEK ",
    "KAPPA SYMBOLghRHOghLUNATE SIGMAhaETTER YOTgaCAPITAL THETA SYMBOLghLUNATE EPSILONgvREVERSED gaCAPITAL LETTER ",
    "SHOgmSMALgaCAPITAL LUNATE SIGMA SYMBOLpaETTER SANgmSMALgaRHO WITH STROKE SYMBOLghCAPITAL REVERSED LUNATE SIG",
    "MAowDOTTo!REVERSED aaCYRILLIC CAPITAL LETTER IE WITH GRAVEzaOyaDJEycGybUKRAINIAN IybDZyaBYELORUSSIAN-UKRAINI",
    "AN IybYyaJEycLycNybTSHybKJybI WITH GRAVyaSHORT UyaDZHEyaAyaBEybVybGHybDybIybZHzbyaIybSHORT yaKAyaELzaMzaNyaO",
    "yaPEyaERzaSyaTEyaUyaEFyaHAyaTSEybCHyaSHA!bCHyaHARD SIGNyaYERUyaSOFT SIGNyaEyaYUzaAjbSMALL LETTER waBEwbVwbGH",
    "wbDwbIwbZHxbwaIwbSHORT waKAwaELxaMxaNwaOwaPEwaERxaSwaTEwaUwaEFwaHAwaTSEwbCHwaSHAybCHwaHARD SIGNwaYERUwaSOFT ",
    "SIGNwaEwaYUxaAwaIE WITH GRAVExaOwaDJEwcGwbUKRAINIAN IwbDZwaBYELORUSSIAN-UKRAINIAN IwbYwaJEwcLwcNwbTSHwbKJwbI",
    " WITH GRAVwaSHORT UwaDZHEjaCAPITAL LETTER OMEGAjoSMALjaCAPITAL LETTER YATjmSMALjaCAPITAL LETTER IOTIFIED Ejt",
    "SMALjaCAPITAL LETTER LITTLE YUSjtSMALjlCAPITAL LETTER IOTIFIEDj%SMALjeCAPITAL LETTER BIGjqSMALjiCAPITAL LETT",
    "ER IOTIFIEDjzSMALjaCAPITAL LETTER KSIjmSMALjcCAPITAL LETTER PjmSMALjaCAPITAL LETTER FITAjnSMALjbCAPITAL LETT",
    "ER IZHITSjqSMALjaCAPITAL LETTER IZHITSA WITH DOUBLE GRAVE ACCENTj?SMALjaCAPITAL LETTER UKjlSMALjaCAPITAL LET",
    "TER ROUND OMEGAjuSMALjaCAPITAL LETTER OMEGA WITH TITLOjzSMALjaCAPITAL LETTER OTjlSMALjaCAPITAL LETTER KOPPAj",
    "oSMALjaTHOUSANDS SIGNbaOMBINING CYRILLIC TITLOtaPALATALIZATIONtaDASIA PNEUMATAtjPSILIuaOKRYTIEtaHUNDRED THOU",
    "SANDS SIGNtgMILLIONbaYRILLIC CAPITAL LETTER SHORT I WITH TAILj!SMALjaCAPITAL LETTER SEMISOFT SIGNjwSMALjaCAP",
    "ITAL LETTER ER WITH TICKjvSMALjaCAPITAL LETTER GHE WITH UPTURNjySMALjaCAPITAL LETTER GHE WITH STROKEjySMALja",
    "CAPITAL LETTER GHE WITH MIDDLE HOOKj&SMALjaCAPITAL LETTER ZHE WITH DESCENDERj$SMALjqCAPITAL LETTER Zj!SMALjp",
    "CAPITAL LETTER KAj!SMALjaCAPITAL LETTER KA WITH VERTICAL STROKEj*SMALjhCAPITAL LETTER KA WITHjxSMALjaCAPITAL",
    " LETTER BASHKIR KAjtSMALjaCAPITAL LETTER EN WITH DESCENDERj!SMALjaCAPITAL LIGATURE EN GHEjrSMALjaCAPITAL LET",
    "TER PE WITH MIDDLE HOOKj%SMALjaCAPITAL LETTER ABKHASIAN HAjvSMALjaCAPITAL LETTER ES WITH DESCENDERj!SMALjpCA",
    "PITAL LETTER TEj!SMALjaCAPITAL LETTER STRAIGHT UjtSMALjaCAPITAL LETTER STRAIGHT U WITH STROKEj)SMALjaCAPITAL",
    " LETTER HA WITH DESCENDERj!SMALjaCAPITAL LIGATURE TE TSEjrSMALjaCAPITAL LETTER CHE WITH DESCENDERj$SMALjaCAP",
    "ITAL LETTER CHE WITH VERTICAL STROKEj+SMALjaCAPITAL LETTER SHHAjnSMALjaCAPITAL LETTER ABKHASIAN CHEjwSMALjaC",
    "APITAL LETTER ABKHASIAN CHE WITH DESCENDERj;SMALjaLETTER PALOCHKAjaCAPITAL LETTER ZHE WITH BREVEjxSMALjaCAPI",
    "TAL LETTER KA WITH HOOKjvSMALjaCAPITAL LETTER EL WITH TAILjvSMALjaCAPITAL LETTER EN WITH HOOKjvSMALjaCAPITAL",
    " LETTER EN WITH TAILjvSMALjaCAPITAL LETTER KHAKASSIAN CHEjxSMALjaCAPITAL LETTER EM WITH TAILjvSMALwaPALOCHKA",
    "jaCAPITAL LETTER A WITH BREVEjvSMALjaCAPITAL LETTER A WITH DIAERESISjzSMALjaCAPITAL LIGATURE A IEjpSMALjbCAP",
    "ITAL LETTER IE WITH BREVjwSMALjaCAPITAL LETTER SCHWAjoSMALjaCAPITAL LETTER SCHWA WITH DIAERESISj&SMALjpCAPIT",
    "AL LETTER ZHEj$SMALjqCAPITAL LETTER Zj!SMALjaCAPITAL LETTER ABKHASIAN DZEjwSMALjaCAPITAL LETTER I WITH MACRO",
    "NjwSMALjaCAPITAL LETTER I WITH DIAERESISjzSMALjpCAPITAL LETTER OjzSMALjaCAPITAL LETTER BARRED OjrSMALjaCAPIT",
    "AL LETTER BARRED O WITH DIAERESISj*SMALjpCAPITAL LETTER EjzSMALjaCAPITAL LETTER U WITH MACRONjwSMALjaCAPITAL",
    " LETTER U WITH DIAERESISjzSMALjaCAPITAL LETTER U WITH DOUBLE ACUTEj%SMALjaCAPITAL LETTER CHE WITH DIAERESISj",
    "$SMALjaCAPITAL LETTER GHE WITH DESCENDERj$SMALjaCAPITAL LETTER YERU WITH DIAERESISj%SMALjaCAPITAL LETTER GHE",
    " WITH STROKE AND HOOKj+SMALjfCAPITAL LETTER HA WITHjvSMALjaCAPITAL LETTER HA WITH STROKEjxSMALjbCAPITAL LETT",
    "ER KOMI DjqSMALjbCAPITAL LETTER KOMI DJjrSMALjcCAPITAL LETTER KOMI ZjrSMALjdCAPITAL LETTER KOMI DjsSMALjcCAP",
    "ITAL LETTER KOMI LjrSMALjcCAPITAL LETTER KOMI NjrSMALjcCAPITAL LETTER KOMI SjrSMALjcCAPITAL LETTER KOMI TjrS",
    "MALjbCAPITAL LETTER REVERSED ZjuSMALjaCAPITAL LETTER EL WITH HOOKjvSMALjaCAPITAL LETTER LHAjmSMALjcCAPITAL L",
    "ETTER RjmSMALjaCAPITAL LETTER YAEjmSMALjaCAPITAL LETTER QAjlSMALjaCAPITAL LETTER WEjlSMALjaCAPITAL LETTER AL",
    "EUT KAjrSMALjaCAPITAL LETTER EL WITH MIDDLE HOOKj%SMALjrCAPITAL LETTER ENj%SMALjaCAPITAL LETTER PE WITH DESC",
    "ENDERj!SMALjpCAPITAL LETTER SHHAj%SMALjaCAPITAL LETTER EN WITH LEFT HOOKj!SMALjaCAPITAL LETTER DZZHEjoSMALjc",
    "CAPITAL LETTER DCjnSMALjaCAPITAL LETTER EL WITH DESCENDERj!SMALaaARMENIAN CAPITAL LETTER AYByaBENyaGIMyaDAya",
    "ECHyaZAyaEHzaTyaTOyaZHEyaINIyaLIWNyaXEHyaCAyaKENyaHOyaJAyaGHADyaCHEHyaMENyaYIyaNOWyaSHAyaVOyaCHAyaPEHycJHyaR",
    "AyaSEHyaVEWyaTIWNyaREHyaCOyaYIWNyaPIWRyaKEHybOybFEjaMODIFIER LETTER LEFT HALF RINGjaAPOSTROPHEjaEMPHASIS MAR",
    "KkfXCLAMATIONjaCOMMAjaQUESTION MARKjjABBREVIAjaSMALL LETTER TURNED AYBwdwaBENwaGIMwaDAwaECHwaZAwaEHxaTwaTOwa",
    "ZHEwaINIwaLIWNwaXEHwaCAwaKENwaHOwaJAwaGHADwaCHEHwaMENwaYIwaNOWwaSHAwaVOwaCHAwaPEHwcJHwaRAwaSEHwaVEWwaTIWNwaR",
    "EHwaCOwaYIWNwaPIWRwaKEHwbOwbFEqaIGATURE ECH YIWNqaETTER YI WITH STROKEjaFULL STOPjaHYPHENabRIGHT-FACING ARME",
    "NIAN ETERNITY SIGa)LEFafARMENIAN DRAMaaHEBREW ACCENT ETNAHTAoaSEGOLpaHALSHELEToaZAQEF QATANuaGADOLoaTIPEHAob",
    "REVIobZARQobPASHToaYETIVoaTEVIRoaGERESHua MUQDAMrbSHAYIoaQARNEY PARAobTELISHA GEDOLoaPAZERoaATNAH HAFUKHobMU",
    "NApbAHAPAKpaERKHAua KEFULAobDARGobQADMobTELISHA QETANoaYERAH BEN YOMOoaOLEoaILUYoaDEHIoaZINORhaMARK MASORA C",
    "IRCLEhaPOINT SHEVAnaHATAF SEGOLtaPATAHtaQAMATSoaIRIQnaTSEREnaSEGOLnaPATAHnaQAMATSnaHOLAMsa HASER FOR VAVnaQU",
    "BUTSnaDAGESH OR MAPIQnaMETEGiaUNCTUATION MAQAFiaOINT RAFEiaUNCTUATION PASEQiaOINT SHIN DOTogiaUNCTUATION SOF",
    " PASUQhaMARK UPPER DOTmgLOWhaPUNCTUATION NUN HAFUKHAiaOINT QAMATS QATANhaLETTER ALEFoaBEToaGIMELoaDALEToaHEo",
    "aVAVoaZAYINoaHETocToaYODoaFINAL KAFodoaLAMEDoaFINAL MEModoaFINAL NUNodoaSAMEKHoaAYINoaFINAL PEocoaFINAL TSAD",
    "IofoaQOFoaRESHoaSHINoaTAVhaYOD TRIANGLEhaLIGATURE YIDDISH DOUBLE VAVyaVAV YODyeDOUBLEhaPUNCTUATION GERESHwaS",
    "HAYIMaaARABIC NUMBER SIGNhaSIGN SANAHhaFOOTNOTE MARKERhaSIGN SAFHAoaMVAThaNUMBER MARK ABOVEga-INDIC CUBE ROO",
    "TnfFOURTHga RAYga-INDIC PER MILLE SIGNrfTEN THOUSANDbfFGHANIbaRABIC COMMAhaDATE SEPARATORhaPOETIC VERSE SIGN",
    "haSIGN MISRAmaSALLALLAHOU ALAYHE WASSALLAMmiALAYHE maRAHMATULLAH ALAYHEoaDI ALLAHOU ANHUmaTAKHALLUSiaMALL HI",
    "GH TAHsbLIGATURE ALEF WITH LAM WITH YEsaZAINnaFATHAnbDAMMnbKASRiaEMICOLONhaLETTER MARKhfEND OF TEXThfTRIPLE ",
    "DOT PUNCTUATIONhjQUEShaLETTER KASHMIRI YEHoaHAMZAoaALEF WITH MADDA ABOVEyhHAMZorWAWoaALEF WITH HAMZA BELOWoa",
    "YEH WITH HAMZA ABOVEoaALEFoaBEHoaTEH MARBUTArapcHoaJEEMoaHAHodKoaDALocTHoaREHoaZAINobSEEpdHpaADocDoaTAHocZoa",
    "AINodGHoaKEHEH WITH TWO DOTS ABOVE!aHREE DOTS BELOWoaFARSI YEH WITH INVERTED V&aTWO DOTS ABOVE(lHREEhaTATWEE",
    "LhaLETTER FEHoaQAFocKoaLAMobMEEoaNOONoaHEHoaWAWoaALEF MAKSURAoaYEHhaFATHATANheDAMMheKASRhaFATHAhbDAMMhbKASRh",
    "bSHADDiaUKUNhaMADDAH ABOVEhgHAMZAnaBELOWhaSUBSCRIPT ALEFhaINVERTED DAMMAhbMARK NOON GHUNNhaZWARAKAYhaVOWEL S",
    "IGN SMALL V ABOVEsnINVERTED saDOT BELOWhaREVERSED DAMMAhaFATHA WITH TWO DOTShaWAVY HAMZA BELOWga-INDIC DIGIT",
    " ZEROtaONEtaTWOuaHREEtaFOURuaIVEtaSIXuaEVENtaEIGHTtaNINEga PERCENT SIGNhaDECIMAL SEPARATORhkTHOUSANDShbFIVE ",
    "POINTED STAhaLETTER DOTLESS BEHwaQAFobSUPERSCRIPT ALEoaALEF WASLAuaITH WAVY HAMZA ABOVE.aBELOWoaHIGH HAMZAya",
    " ALEFzaWAWoaU WITH HAMZA ABOVEoaHIGH HAMZA YEHocTTsaEHocBEoaTEH WITH RINGxaTHREE DOTS ABOVE DOWNWARDSoaPEHoc",
    "TEHoeBoaHAH WITH HAMZA ABOVExgTWO DOTS VERTICALoaNYEHodDoaHAH WITH THREE DOTS ABOVEoaTCHEHtaEHoaDDALpaAL WIT",
    "H RINGxaDOT BELOW*a AND SMALL TAHqaHALpeDpbUpaAL WITH THREE DOTS ABOVE DOWNWARDSxaFOUR DOTS ABOVEoaRREHpaEH ",
    "WITH SMALL VxaRINGxaDOT BELOWxgSMALL VxaDOT BELOW AND DOT ABOVExgTWO DOTSoaJEHoaREH WITH FOUR DOTS ABOVEogSE",
    "EN WITH DOT BELOW AND DOTyaTHREE DOTS BELOW>a AND THREE DOTS ABOVEpaAD WITH TWO DOTS BELOWyaHREE DOTS ABOVEo",
    "wTAHowAINoaDOTLESS FEHoaFEH WITH DOT MOVED BELOW$foaVEHoaFEH WITH THREE DOTS BELOWoaPEHEHoaQAF WITH DOT ABOV",
    "ExgTHREE DOTSoaKEHEHoaSWASH KAFoaKAF WITH RINGxaDOT ABOVEoaNGoaKAF WITH THREE DOTS BELOWoaGAFra WITH RINGoaN",
    "GOEHoaGAF WITH TWO DOTS BELOWpaUEHpaAF WITH THREE DOTS ABOVEoaLAM WITH SMALL VxaDOT ABOVExgTHREE DOTS,aBELOW",
    "ogNOON WITH DOTtaGHUNNAoaRNOONoaNOON WITH RINGyaTHREE DOTS ABOVEobHEH DOACHASHMEobTCHEH WITH DOT ABOVogHEH W",
    "ITH YEHsaGOALwa WITH HAMZA ABOVEoaTEH MARBUTA GOALoaWAW WITH RINGoaKIRGHIZ OEocoaUobYocKIRGHIZ oaWAW WITH TW",
    "O DOTS ABOVEocoaFARSI YEHoaYEH WITH TAILxaSMALL VoaWAW WITH DOT ABOVEoboaYEH WITH THREE DOTS BELOWsaBARREEya",
    " WITH HAMZA ABOVEhaFULL STOPhaLETTER AEhaSMALL HIGH LIGATURE SAD WITH LAM WITH ALEF MAKSURA$$QAFsaMEEM INITI",
    "AL FORMsaLAM ALEFsaJEEMsaTHREE DOTSsaSEENhaEND OF AYAHhaSTART OF RUB EL HIZBiaMALL HIGH ROUNDED ZEROsfUPRIGH",
    "T RECTANGULARsaDOTLESS HEAD OF KHAHsaMEEM ISOLATED FORMnaLOW SEENnaHIGH MADDAnaWAWnaYEHndHIGH saNOONhaPLACE ",
    "OF SAJDAHhaEMPTY CENTRE LOW STOPufHIGHhaROUNDED HIGH STOP WITH FILLED CENTREhaSMALL LOW MEEMhaLETTER DAL WIT",
    "H INVERTED VoqREHaaEXTENDED ARABIC-INDIC DIGIT ZERO%aONE%aTWO&aHREE%aFOUR&aIVE%aSIX&aEVEN%aEIGHT%aNINEaaARAB",
    "IC LETTER SHEEN WITH DOT BELOWopDADopGHAINhaSIGN SINDHI AMPERSANDtaPOSTPOSITION MENhaLETTER HEH WITH INVERTE",
    "D VaaSYRIAC END OF PARAGRAPHhaSUPRALINEAR FULL STOPjqBjaPRALINEAR COLONjmBhgHORIZONTALhaCOLON SKEWED LEFTubR",
    "IGHhbSUPRALINEAR COLON SKEWED LEFjbBLINEAR COLON SKEWED RIGHhaCONTRACTIONhaHARKLEAN OBELUSqgMETqcASTERISChaA",
    "BBREVIATION MARKhaLETTER ALAPHofSUPERSCRIPT obBEToaGAMALta GARSHUNIoaDALATHpbOTLESS DALATH RISoaHEoaWAWoaZAI",
    "NoaHETHodTsa GARSHUNIoaYUDHsa HEoaKAPHobLAMADoaMIMoaNUNoaSEMKATHohFINAL oaEobPocREVERSED obSADHoaQAPHobRISoa",
    "SHINoaTAWoaPERSIAN BHETHwaGHAMALwaDHALATHhaPTHAHA ABOVEoaBELOWoaDOTTEDhaZQAPHA ABOVEoaBELOWoaDOTTEDhaRBASA A",
    "BOVEnaBELOWhaDOTTED ZLAMA HORIZONTALuaANGULARhaHBASA ABOVEnaBELOWma-ESASA DOTTEDhaESASA ABOVEnaBELOWhaRWAHAh",
    "aFEMININE DOThaQUSHSHAYAhbRUKKAKHhaTWO VERTICAL DOTS ABOVEzaBELOWiaHREE DOTS ABOVEsaBELOWhaOBLIQUE LINE ABOV",
    "EuaBELOWhaMUSIChaBARREKHhaLETTER SOGDIAN ZHAINwaKHAPHwaFEaaARABIC LETTER BEH WITH THREE DOTS HORIZONTALLY BE",
    "LOWxaDOT BELOW AND THREE DOTS ABOVExaTHREE DOTS POINTING UPWARDS BELOW~aWARDS BELOW AND TWO DOTS ABOVEygWO D",
    "OTS BELOW AND DOTxaINVERTED SMALL V BELOWxaSMALL VoaHAH WITH TWO DOTS ABOVEyaHREE DOTS POINTING UPWARDS BELO",
    "WoaDAL WITH TWO DOTS VERTICALLY BELOW AND SMALL TAHxaINVERTED SMALL V BELOWoaREH WITH STROKEobSEEN WITH FOUR",
    " DOTS ABOVolAIN WITH TWOyhHREE DOTS POINTING DOWNWARDygWO DOTS VERTICALLYoaFEH WITH TWO DOTS BELOWyhHREE DOT",
    "S POINTING UPWARDoaKEHEH WITH DOT ABOVEzgTHREE DOTS:aPOINTING UPWARDS BELOWoaMEEM WITH DOT ABOVE%aBELOWogNOO",
    "N WITH TWO DOTSyaSMALL TAH(aVoaLAM WITH BARoaREH WITH TWO DOTS VERTICALLY ABOVExgHAMZAogSEEN WITH TWO DOTS V",
    "ERTICALLYoaHAH WITH SMALL ARABIC LETTER TAH BELOW~aH AND TWO DOTSo^SEENo^REHoaHAH WITH SMALL ARABIC LETTER T",
    "AH ABOVEogALEF WITH EXTENDED ARABIC-INDIC DIGIT TWO~g DIGIT THREEogFARSI YEH WITH EXTENDED ARABIC-INDIC DIGI",
    "T TWO~gINDIC DIGIT THREE~aINDIC DIGIT FOUR BELOWoaWAW WITH EXTENDED ARABIC-INDIC DIGIT TWO ABOVE~gDIGIT THRE",
    "EogYEH BARREE WITH EXTENDED ARABIC-INDIC DIGIT TWO~g-INDIC DIGIT THREEoaHAH WITH EXTENDED ARABIC-INDIC DIGIT",
    " FOUR BELOWoaSEEN WITH EXTENDED ARABIC-INDIC DIGIT FOUR ABOVEyaINVERTED VoaKAF WITH TWO DOTS ABOVEaaTHAANA L",
    "ETTER HAAoaSHAVIYANIoaNOONUoaRAAocBoaLHAVIYANIoaKAAFUocALIobVAAVobMEEMobFAAFobDHAALoaTHAAoaLAAMUobGAAFpaNAVI",
    "YANIoaSEENUoaDAVIYANIohZohToaYAAoaPAVIYANIohJohCHoaTTAAocHHodKoaTHAALUoaZAAoaSHEENUpbAADHofDoaTOobZoaAINUoeG",
    "HobQAAFobWAAVhaABAFILIifABAheIBIheEEBEEheUBUheOOBOOheEBEieYBEYheOBOieABOAhaSUKUNhaLETTER NAAaaNKO DIGIT ZERO",
    "kaONEkaTWOlaHREEkaFOURlaIVEkaSIXlaEVENkaEIGHTkaNINEeaLETTER AlaEElaIlaElaUlaOOmalaDAGBASINNAlaNlaBAlbPlbTlbJ",
    "lbCHlbDlbRmbRlbSlbGBlbFlbKlbLlaNA WOLOSOlaMAlbNYmblbHlbWlbYlaNYA WOLOSOlaJONA JAqbCHqbReaCOMBINING SHORT HIG",
    "H TONEufLOWufRISINGoiLONG DESCENDtfHIGHtfLOWtfRISINGoaNASALIZATION MARKoaDOUBLE DOT ABOVEebHIGH TONE APOSTRO",
    "PHeqLOWeaSYMBOL OO DENNENldGBAKURUeaCOMMAeaEXCLAMATION MARKeaLAJANYALANefDANTAfbOROME SIGefTAMAN"]⟩

end StateMachine.Text
