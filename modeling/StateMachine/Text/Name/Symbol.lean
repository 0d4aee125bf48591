import StateMachine.Text.Name.Table

/-!
# Names of characters: punctuation and symbols

The code points from 2000 to 2FFF: punctuation, currencies, arrows, mathematical and other symbols, and radicals.
-/

namespace StateMachine.Text

/-- The names of these characters. -/
def symbolNames : NameTable :=
  ⟨
   [(0x2000, 0x2064), (0x2066, 0x2071), (0x2074, 0x208e), (0x2090, 0x209c), (0x20a0, 0x20c0), (0x20d0, 0x20f0),
    (0x2100, 0x218b), (0x2190, 0x2426), (0x2440, 0x244a), (0x2460, 0x2b73), (0x2b76, 0x2b95), (0x2b97, 0x2cf3),
    (0x2cf9, 0x2d25), (0x2d27, 0x2d27), (0x2d2d, 0x2d2d), (0x2d30, 0x2d67), (0x2d6f, 0x2d70), (0x2d7f, 0x2d96),
    (0x2da0, 0x2da6), (0x2da8, 0x2dae), (0x2db0, 0x2db6), (0x2db8, 0x2dbe), (0x2dc0, 0x2dc6), (0x2dc8, 0x2dce),
    (0x2dd0, 0x2dd6), (0x2dd8, 0x2dde), (0x2de0, 0x2e5d), (0x2e80, 0x2e99), (0x2e9b, 0x2ef3), (0x2f00, 0x2fd5),
    (0x2ff0, 0x2ffb)],
   ["aaEN QUADbfMbaN SPACEbgMaiTHREE-PER-anFOURanSIXagFIGUREagPUNCTUATIONahTHIagHAIRagZERO WIDTHlaNON-JOINERlgaaL",
    "EFT-TO-RIGHT MARKagRIGHT-TO-LEFaaHYPHENagNON-BREAKING aaFIGURE DASHafENbfMaaHORIZONTAL BARaaDOUBLE VERTICAL ",
    "LINEhfLOWaaLEFT SINGLE QUOTATION MARKaxRIGHapSINGLE LOW-9hrHIGH-REVERSEDapLEFT DOUBLEaxRIGHapDOUBLE LOW-9hrH",
    "IGH-REVERSEDbaAGGERbfOUBLE DaaBULLETagTRIANGULAR aaONE DOT LEADERalTWOaaHORIZONTAL ELLIPSISbaYPHENATION POIN",
    "TaaLINE SEPARATORakPARAGRAPHaaLEFT-TO-RIGHT EMBEDDINGalRIGHT-TO-LEFadPOP DIRECTIONAL FORMATTaaLEFT-TO-RIGHT ",
    "OVERRIDEakRIGHT-TO-LEFabNARROW NO-BREAK SPACaaPER MILLE SIGNefTEN THOUSANDbaRIMEafDOUBLE aiTRIPagREVERSEDjfD",
    "OUBLE jiTRIPaaCARETaaSINGLE LEFT-POINTING ANGLE QUOTATION MARKh)RIGHafREFERENCEafDOUBLE EXCLAMATIONaaINTERRO",
    "BANGaaOVERLINEabUNDERTIadCHARACTER baARET INSERTION POINTaaASTERISMaaHYPHEN BULLETaaFRACTION SLASHaaLEFT SQU",
    "ARE BRACKET WITH QUILLa$RIGHaaDOUBLE QUESTION MARKajQUESTION EXCLAMAajEXCLAMATION QUESaaTIRONIAN SIGN ETaaRE",
    "VERSED PILCROW SIGNaaBLACK LEFTWARDS BULLETgnRIGHaaLOW ASTERISKaaREVERSED SEMICOLONaaCLOSE UPaaTWO ASTERISKS",
    " ALIGNED VERTICALLYaaCOMMERCIAL MINUS SIGNaaSWUNG DASHaaINVERTED UNDERTIEaaFLOWER PUNCTUATION MARKaaTHREE DO",
    "T PUNCTUATIONaaQUADRUPLE PRIMEaaFOUR DOT PUNCTUATIONbqIVEaqTWOaaFOUR DOT MARKaaDOTTED CROSSaaTRICOLONaaVERTI",
    "CAL FOUR DOTSaaMEDIUM MATHEMATICAL SPACEaaWORD JOINERaaFUNCTION APPLICATIONaaINVISIBLE TIMESkaSEPARATORkaPLU",
    "SaaLEFT-TO-RIGHT ISOLATEajRIGHT-TO-LEFaiFIRST STRONGaiPOP DIRECTIONALaaINHIBIT SYMMETRIC SWAPPINGatACTIVATEa",
    "eINHIBIT ARABIC FORM SHAauACTIVATEaaNATIONAL DIGIT SHAPESbqOMIaaSUPERSCRIPT ZEROmaLATIN SMALL LETTER ImaFOUR",
    "naIVEmaSIXnaEVENmaEIGHTmaNINEmaPLUS SIGNmaMINUSmaEQUALS SIGNmaLEFT PARENTHESISmnRIGHmaLATIN SMALL LETTER Nca",
    "BSCRIPT ZEROkaONEkaTWOlaHREEkaFOURlaIVEkaSIXlaEVENkaEIGHTkaNINEkaPLUS SIGNkaMINUSkaEQUALS SIGNkaLEFT PARENTH",
    "ESISknRIGHaaLATIN SUBSCRIPT SMALL LETTER A&aE&aO&aX&aSCHWA&aH&aK&aL&aM&aN&aP&aS&aTaaEURO-CURRENCY SIGNafCOLO",
    "NbfRUZEIROafFRENCH FRANCafLIRAafMILLafNAIRAagPESETafRUPEEafWONafNEW SHEQELafDONGafEUROafKIPafTUGRIKafDRACHMA",
    "afGERMAN PENNYafPESOafGUARANIafAUSTRALafHRYVNIAafCEDIafLIVRE TOURNOISafSPESMILOafTENGEagINDIAN RUPEafTURKISH",
    " LIRAafNORDIC MARKafMANATafRUBLEafLARIafBITCOINafSOMaaCOMBINING LEFT HARPOON ABOVEkpRIGHkaLONG VERTICAL LINE",
    " OVERLAYkwSHORTkaANTICLOCKWISE ARROW ABOVEkvkmLEFTknRIGHmaNG OVERLAYkmCLOCKWISE kwANTIkaTHREE DOTS ABOVEklFO",
    "URkbENCLOSING CIRCLubSQUARuaDIAMONDuaCIRCLE BACKSLASHkaLEFT RIGHT ARROW ABOVEkaENCLOSING SCREENuaKEYCAPuaUPW",
    "ARD POINTING TRIANGLEkaREVERSE SOLIDUS OVERLAYkiDOUBLE VERTICAL STROKEkaANNUITY SYMBOLkaTRIPLE UNDERDOTkaWID",
    "E BRIDGE ABOVEkaLEFTWARDS ARROW OVERLAYliONG DOUBLE SOLIDUSkaRIGHTWARDS HARPOON WITH BARB DOWNWARDSk,LEFoa A",
    "RROW BELOWknRIGHkaASTERISK ABOVEaaACCOUNT OFbaDDRESSED TO THE SUBJECTaaDOUBLE-STRUCK CAPITAL CbaEGREE CELSIU",
    "SaaCENTRE LINE SYMBOLbaARE OFcaDA UNAaaEULER CONSTANTaaSCRUPLEaaDEGREE FAHRENHEITaaSCRIPT SMALL GhaCAPITAL H",
    "akBLACK-LETTERakDOUBLE-STRUCKaaPLANCK CONSTANTpa OVER TWO PIabSCRIPT CAPITAL akBLACK-LETTERaaSCRIPT CAPITAL ",
    "LhdSMALabL B BAR SYMBOaaDOUBLE-STRUCK CAPITAL NabNUMERO SIGaaSOUND RECORDING COPYRIGHTbaCRIPT CAPITAL PakDOU",
    "BLE-STRUCKwaQaaSCRIPT CAPITAL RakBLACK-LETTERakDOUBLE-STRUCKaaPRESCRIPTION TAKEabRESPONSaaSERVICE MARKaaTELE",
    "PHONE SIGNbfRADE MARKaaVERSICLEaaDOUBLE-STRUCK CAPITAL ZaaOUNCE SIGNbfHMaiINVERTED aaBLACK-LETTER CAPITAL Za",
    "aTURNED GREEK SMALL LETTER IOTAaaKELVIN SIGNafANGSTROMaaSCRIPT CAPITAL BaaBLACK-LETTER CAPITAL CaaESTIMATED ",
    "SYMBOLaaSCRIPT SMALL EhdCAPITApaFakTURNEDaaSCRIPT CAPITAL MhaSMALL OaaALEF SYMBOLahBETahGIMELahDALETaaINFORM",
    "ATION SOURCEaaROTATED CAPITAL QaaFACSIMILE SIGNaaDOUBLE-STRUCK SMALL PIuaGAMMAohCAPITAwaPIoaN-ARY SUMMATIONa",
    "aTURNED SANS-SERIF CAPITAL G!aLaxREVERSaaTURNED SANS-SERIF CAPITAL YaaDOUBLE-STRUCK ITALIC CAPITAL DvdSMAL$a",
    "E$aI$aJaaPROPERTY LINEaaTURNED AMPERSANDaaPER SIGNaaAKTIESELSKABaaTURNED SMALL FaaSYMBOL FOR SAMARITAN SOURC",
    "EaaVULGAR FRACTION ONE SEVENTHudNIudTEvaHIRDqaTWO THIRDSqaONE FIFTHqaTWO FIFTHSrhHREEqhFOURqaONE SIXTHqaFIVE",
    " SIXTHSqaONE EIGHTHqaTHREE EIGHTHSqjFIVqiSEVENaaFRACTION NUMERATOR ONEaeROMAN NUMERALoaTWOpaHREEoaFOURpaIVEo",
    "aSIXpaEVENoaEIGHToaNINEoaTENocELEVoaTWELVEoaFIFTYoaONE HUNDREDojFIVobONE THOUSANaaSMALL ROMAN NUMERAL ONEuaT",
    "WOvaHREEuaFOURvaIVEuaSIXvaEVENuaEIGHTuaNINEuaTENucELEVuaTWELVEuaFIFTYuaONE HUNDREDujFIVubONE THOUSANabROMAN ",
    "NUMERAL ONE THOUSAND C obFIVE THOUSANojTENobREVERSED ONE HUNDREaaLATIN SMALL LETTER REVERSED CaaROMAN NUMERA",
    "L SIX LATE FORMofFIFTY EARLYuaTHOUSANDojONE HUNDREDaaVULGAR FRACTION ZERO THIRDSaaTURNED DIGIT TWOoaHREEaaLE",
    "FTWARDS ARROWalUPalRIGHTalDOWNagLEFT RIGHTagUP DOWNagNORTH WESTgiEAanSOUgiWEaaLEFTWARDS ARROW WITH STROKEayR",
    "IGHaaLEFTWARDS WAVE ARROWarRIGHagLEFTWARDS TWO HEADEDawUPawRIGHTawDOWNaaLEFTWARDS ARROW WITH TAILawRIGHaaLEF",
    "TWARDS ARROW FROM BARauUPauRIGHTauDOWNaaUP DOWN ARROW WITH BASEaaLEFTWARDS ARROW WITH HOOKawRIGHaaLEFTWARDS ",
    "ARROW WITH LOOPawRIGHaaLEFT RIGHT WAVE ARROWlaARROW WITH STROKEaaDOWNWARDS ZIGZAG ARROWaaUPWARDS ARROW WITH ",
    "TIP LEFTWARDSxgRIGHagDOWNWARDS ARROW WITH TIP LEFzgRIGHafRIGHTWARDS ARROW WITH CORNER DOWNafDOWNWARDS ARROW ",
    "WITH CORNER LEFTaaANTICLOCKWISE TOP SEMICIRCLE ARROWa(aaNORTH WEST ARROW TO LONG BARaeLEFTWARDS ARROW TO BAR",
    " OVER RIGHTWARDS ARROW TOaaANTICLOCKWISE OPEN CIRCLE ARROWa$aaLEFTWARDS HARPOON WITH BARB UPWARDS%fDOWNafUPW",
    "ARDS HARPOON WITH BARB RIGHT!gLEFafRIGHTWARDS HARPOON WITH BARB UP&fDOWNafDOWNWARDS HARPOON WITH BARB RIGHT%",
    "gLEFaaRIGHTWARDS ARROW OVER LEFTWARDS ARROWalUPWARDS ARROW LEFTWARDS OF DOWNalLEFTWARDS ARROW OVER RIGHTkaPA",
    "IRED ARROWSatUPatRIGHTatDOWNaaLEFTWARDS HARPOON OVER RIGHTWARDS HARPOONaoRIGHTWARDS HARPOON OVER LEFaaLEFTWA",
    "RDS DOUBLE ARROW WITH STROKEez RIGHTazRIGHTWARDSaaLEFTWARDS DOUBLE ARROWasUPasRIGHTasDOWNanLEFT RIGHTanUP DO",
    "WNanNORTH WESTgpEAauSOUgpWEaiLEFTWARDS TRIPatRIGHaiLEFTWARDS SQUIGGavRIGHaaUPWARDS ARROW WITH DOUBLE STROKEa",
    "(DOWNaaLEFTWARDS DASHED ARROWasUPasRIGHTasDOWNaaLEFTWARDS ARROW TO BARatRIGHaaLEFTWARDS WHITE ARROWarUParRIG",
    "HTarDOWNaaUPWARDS WHITE ARROW FROM BARuaON PEDESTAL)a WITH HORIZONTAL BAR;gVERTICoaDOUBLE ARROW!a ON PEDESTA",
    "LabRIGHTWARDS WHITE ARROW FROM WALaaNORTH WEST ARROW TO CORNERasSOUTH EAaaUP DOWN WHITE ARROWaaRIGHT ARROW W",
    "ITH SMALL CIRCLEaaDOWNWARDS ARROW LEFTWARDS OF UPWARDS ARROWaaTHREE RIGHTWARDS ARROWSaaLEFTWARDS ARROW WITH ",
    "VERTICAL STROKEa+RIGHa$LEFT RIGHTeqWARDS ARROW WITH DOUBLEa>RIGHa,LEFT RIGHTeaWARDS OPEN-HEADED ARROWayRIGHa",
    "sLEFT RIGHTaaFOR ALLaaCOMPLEMENTaaPARTIAL DIFFERENTIALaaTHERE EXISTSgaDOES NOT EXISTabEMPTY SEabINCREMENaaNA",
    "BLAaaELEMENT OFakNOT AN alSMALLaaCONTAINS AS MEMBERakDOES NOT CONTAINakSMALL CONTAINSaaEND OF PROOFaaN-ARY P",
    "RODUCTghCOgaSUMMATIONabMINUS SIGff-OR-PLUSaaDOT PLUSbaIVISION SLASHaaSET MINUSaaASTERISK OPERATORajRINGajBUL",
    "LETaaSQUARE ROOTagCUBafFOURTHaaPROPORTIONAL TOaaINFINITYaaRIGHT ANGLEafafMEASURED agSPHERICALaaDIVIDESbaOES ",
    "NOT DIVIDEaaPARALLEL TOalNOT aaLOGICAL ANDiaORaaINTERSECTIONadUNaaINTEGRALaiDOUBLE alTRIPajCONTOURajSURFACEa",
    "kVOLUMakCLOCKWISkiCONTOUR a!ANTIaaTHEREFOREabBECAUSaaRATIOaaPROPORTIONaaDOT MINUSabEXCESaaGEOMETRIC PROPORTI",
    "ONaaHOMOTHETICaaTILDE OPERATORaaREVERSED TILDEaaINVERTED LAZY SaaSINE WAVEaaWREATH PRODUCTaaNOT TILDEagMINUS",
    "aaASYMPTOTICALLY EQUAL TOaxNOT alAPPROXIMATEoiBUT NOT ACTUALLY asNEITHER APPROXIMATELY NORajALMOSTapNOT ajAL",
    "MOST EQUAL ORaaTRIPLE TILDEaaALL EQUAL TOadEQUIVALENTanGEOMETRICALLY aaDIFFERENCE BETWEENaaAPPROACHES THE LI",
    "MITaaGEOMETRICALLY EQUAL TOaaAPPROXIMATELY EQUAL TO OR THE IMAGE OFaaIMAGE OF OR APPROXIMATELY EQUAL TOaaCOL",
    "ON EQUALSaaEQUALS COLONaaRING IN EQUAL TOfiadCORRESPONDSaaESTIMATESbaQUIANGULAR TOaaSTAR EQUALSaaDELTA EQUAL",
    " TOaaEQUAL TO BY DEFINITIONaaMEASURED BYaaQUESTIONED EQUAL TOajNOTafIDENTICamNOT adSTRICTLY EQUIVALENTadLESS",
    "-THAN OR EQUALarGREATERakLESS-THAN OVEatGREATERajLESS-THAN BUT NOTawGREATERaaMUCH LESS-THANffGREATERabBETWEE",
    "aaNOT EQUIVALENT TOeaLESS-THANefGREATERbaEITHER LESS-THAN NOR EQUAL TOisGREATERadLESS-THAN OR EQUIVALENTawGR",
    "EATERaqNEITHER LESS-THAN NixGREATERaaLESS-THAN OR GREATER-THANafGREATER-THAN OR LESSafNEITHER LESS-THAN NOR ",
    "GREATERifGREATER-THAN NOR LESSaaPRECEDESabSUCCEEDaaPRECEDES OR EQUAL TOanSUCCEEDadPRECEDES OR EQUIVALENTasSU",
    "CCEEDaaDOES NOT PRECEDEjaSUCCEEDaaSUBSET OFcgPERagNOT A SUBigPERaaSUBSET OF OR EQUAL TOcsPERalNEITHER A SUBS",
    "ET OF NmtPERajSUBSET OF WITH NOTcyPERaaMULTISETia MULTIPLICATIONjdUNaaSQUARE IMAGE OFhdORIGINALhaIMAGE OF OR",
    " EQUAL TOhpORIGINALhaCAPibUaaCIRCLED PLUSicMINibTIMEiaDIVISION SLASHjaOT OPERATORijRINGijASTERISKiaEQUALSiaD",
    "ASHaaSQUARED PLUSicMINibTIMEiaDOT OPERATORaaRIGHT TACKagLEFafDOWNafUPaaASSERTIONaaMODELSaaTRUEaaFORCESaaTRIP",
    "LE VERTICAL BAR RIGHT TURNSTILEaqDOUBLE VERTICAL BAR DOUBLEcbES NOT PROVabNOT TRUabDOES NOT FORCabNEGATED DO",
    "UBLE VERTICAL BAR DOUBLE RIGHT TURNSTILaaPRECEDES UNDER RELATIONaqSUCCEEDaaNORMAL SUBGROUP OFaaCONTAINS AS N",
    "ORMAL SUBGROUPaaNORMAL SUBGROUP OF OR EQUAL TOamCONTAINS AS NORMAL SUBGROUPaaORIGINAL OFadIMAGEaaMULTIMAPaaH",
    "ERMITIAN CONJUGATE MATRIXaaINTERCALATEaaXORaaNANDbaORaaRIGHT ANGLE WITH ARCgaTRIANGLEaaN-ARY LOGICAL ANDoaOR",
    "gaINTERSECTIONgdUNaaDIAMOND OPERATORbjOTajSTARaaDIVISION TIMESaaBOWTIEaaLEFT NORMAL FACTOR SEMIDIRECT PRODUC",
    "Ta,RIGHatLEFTauRIGHbaEVERSED TILDE EQUALSaaCURLY LOGICAL ORoaANDaaDOUBLE SUBSETjdPERhaINTERSECTIONhdUNaaPITC",
    "HFORKaaEQUAL AND PARALLEL TOaaLESS-THAN WITH DOTaoGREATERaaVERY MUCH LESS-THANkfGREATERanLESS-THAN EQUAL TO ",
    "ORafGREATER-THAN EQUAL TO OR LESSavmfGREATERmaPRECEDESmbSUCCEEDaaDOES NOT PRECEDE OR EQUALjjSUCCEEDaaNOT SQU",
    "ARE IMAGE OF OR EQUAL TOlpORIGINALajSQUARE IMAGE OF OR NOThtORIGINALadLESS-THAN BUT NOT EQUIVALENTa$GREATERa",
    "wPRECEDESaxSUCCEEDaaNOT NORMAL SUBGROUP OFaaDOES NOT CONTAIN AS NORMAL SUBGROUPaaNOT NORMAL SUBGROUP OF OR E",
    "QUAL TOaaDOES NOT CONTAIN AS NORMAL SUBGROUP OR EQUALaaVERTICAL ELLIPSISalMIDLINE HORIZONTalUP RIGHT DIAGONa",
    "yDOWNaaELEMENT OF WITH LONG HORIZONTAL STROKEqsVERTICAL BAR AT END OFa~SMALL ELEMENT OF abELEMENT OF WITH DO",
    "T ABOVqaOVERBARaxSMALL afELEMENT OF WITH UNDqaTWO HORIZONTAL STROKESaaCONTAINS WITH LONG HORIZONTAL STROKEos",
    "VERTICAL BAR AT END OFa~SMALL CONTAINS aaCONTAINS WITH OVERBARavSMALL aaZ NOTATION BAG MEMBERSHIPaaDIAMETER ",
    "SIGNaaELECTRIC ARROWaaHOUSEaaUP ARROWHEADakDOWNaaPROJECTIVEbgERSPabWAVY LINaaLEFT CEILINGajRIGHaaLEFT FLOORa",
    "hRIGHaaBOTTOM RIGHT CROPhgLEFagTOP RIGHegLEFaaREVERSED NOT SIGNaaSQUARE LOZENGEaaARCaaSEGMENTcaCTORabTELEPHO",
    "NE RECORDEabPOSITION INDICATOaaVIEWDATA SQUAREaaPLACE OF INTEREST SIGNagTURNED NOaaWATCHaaHOURGLASSaaTOP LEF",
    "T CORNEReiRIGHaiBOTTOM LEFhiRIGHaaTOP HALF INTEGRALaoBOTTOMaaFROWNaaSMILEaaUP ARROWHEAD BETWEEN TWO HORIZONT",
    "AL BARSaaOPTION KEYaaERASE TO THE RIGHTaaX IN A RECTANGLE BOXaaKEYBOARDaaLEFT-POINTING ANGLE BRACKETayRIGHab",
    "ERASE TO THE LEFaaBENZENE RINGaaCYLINDRICITYaaALL AROUND-PROFILEaaSYMMETRYaaTOTAL RUNOUTaaDIMENSION ORIGINaa",
    "CONICAL TAPERaaSLOPEabCOUNTERBORhaSINKaaAPL FUNCTIONAL SYMBOL I-BEAMwaSQUISH QUADwaQUAD EQUAL$aDIVIDE&aAMOND",
    "$aJOT$aCIRCLEwcCIRCLE STI&aJOTwaSLASH BARwjBACKwaQUAD SLASH$fBACK$aLESS-THAN$fGREATERwaLEFTWARDS VANEwlRIGHw",
    "aQUAD LEFTWARDS ARROW$mRIGHwaCIRCLE BACKSLASHwaDOWN TACK UNDERBARxaELTA STILEwaQUAD DOWN CARET%aELTAwaDOWN T",
    "ACK JOTwaUPWARDS VANEwaQUAD UPWARDS ARROWwaUP TACK OVERBARwaDEL STILEwaQUAD UP CARET$aDELwaUP TACK JOTwaDOWN",
    "WARDS VANEwaQUAD DOWNWARDS ARROWyaOTE UNDERBARwjDELTAxjIAMONDwjJOTwjCIRCLEwaUP SHOE JOTwaQUOTE QUADwaCIRCLE ",
    "STARwaQUAD COLONwaUP TACK DIAERESISwkDELwkSTARwkJOTwkCIRCLEwaDOWN SHOE STILEwlLEFTwaTILDE DIAERESISwkGREATER",
    "-THANwaCOMMA BARwaDEL TILDEweZweSTILE TxaEMICOLON UNDERBARwaQUAD NOT EQUAL$aQUESTIONwaDOWN CARET TILDEwmUPwa",
    "IOTAwaRHOwaOMEGAwaALPHA UNDERBARwjEPSILONwjIOTAwkOMEGwaALPHAaaNOT CHECK MARKaaRIGHT ANGLE WITH DOWNWARDS ZIG",
    "ZAG ARROWaaSHOULDERED OPEN BOXaaBELL SYMBOLaaVERTICAL LINE WITH MIDDLE DOTaaINSERTION SYMBOLahCONTINUOUS UND",
    "ERLINEa$DISahEMPHASISahCOMPOSITIONaaWHITE SQUARE WITH CENTRE VERTICAL LINEaaENTER SYMBOLahALTERNATIVE KEYahH",
    "ELMaaCIRCLED HORIZONTAL BAR WITH NOTCHiaTRIANGLE DOWNaaBROKEN CIRCLE WITH NORTHWEST ARROWaaUNDO SYMBOLahMONO",
    "STABLEahHYSTERESISahOPEN-CIRCUIT-OUTPUT H-TYPEumLahPASSIVE-PULL-DOWN-OUTPUTnoUPaaDIRECT CURRENT SYMBOL FORM ",
    "TWOaaSOFTWARE-FUNCTION SYMBOLaaAPL FUNCTIONAL SYMBOL QUADaaDECIMAL SEPARATOR KEY SYMBOLaaPREVIOUS PAGEafNEXT",
    "aaPRINT SCREEN SYMBOLaoCLEARaaLEFT PARENTHESIS UPPER HOOKraEXTENSIONraLOWER HOOKahRIGHT PARENTHESIS UPPsaEXT",
    "ENSIONsaLOWER HOOKaaLEFT SQUARE BRACKET UPPER CORNERuaEXTENSIONuaLOWER CORNERajRIGHT SQUARE BRACKET UPPvaEXT",
    "ENSIONvaLOWER CORNERaaLEFT CURLY BRACKET UPPER HOOKtaMIDDLE PIECEtaLOWER HOOKaaCURLY BRACKET EXTENSIONaaRIGH",
    "T CURLY BRACKET UPPER HOOKuaMIDDLE PIECEuaLOWER HOOKaaINTEGRAL EXTENSIONakHORIZONTAL LINEadUPPER LEFT OR LOW",
    "ER RIGHT CURLY BRACKET SECTgxRIGHT OR LOWER LEFaaSUMMATION TOPkaBOTTOMaaTOP SQUARE BRACKETapBOTTOMva OVER TO",
    "P SQUARE BRACKETaaRADICAL SYMBOL BOTTOMaaLEFT VERTICAL BOX LINEatRIGHaaHORIZONTAL SCAN LINE-1va3va7va9aaDENT",
    "ISTRY SYMBOL LIGHT VERTICAL AND TOP RIGHT:gBOTTOM*aWITH CIRCLExoDOWN AND HORIZONTx$UPxcVERTICAL WITH TRIANGx",
    "qDOWN AND HORIZONTx&UPxbVERTICAL AND WAVxfDOWN AND HORIZONTAL WITHxzUPxaDOWN AND HORIZONTALxpUPxaVERTICAL AN",
    "D TOP LEFT:fBOTTOMabSQUARE FOOaaRETURN SYMBOLahEJECTaaVERTICAL LINE EXTENSIONaaMETRICAL BREVEjaLONG OVER SHO",
    "RTjaSHORT OVER LONGjaLONG OVER TWO SHORTSjaTWO SHORTS OVER LONGuaJOINEDkaRISEMEkeETRAjfPENTaaEARTH GROUNDaaF",
    "USEaaTOP PARENTHESISamBOTTOMaaTOP CURLY BRACKETaoBOTTOMaiTOP TORTOISE SHELLaxBOTTOMaaWHITE TRAPEZIUMaaBENZEN",
    "E RING WITH CIRCLEaaSTRAIGHTNESSafFLAaaAC CURRENTaaELECTRICAL INTERSECTIONaaDECIMAL EXPONENT SYMBOLaaBLACK R",
    "IGHT-POINTING DOUBLE TRIANGLEg!LEFgzUPgzDOWNgaRIGHT-POINTING DOUBLE TRIANGLE WITH VERTICAL BARg|LEFgnRIGHT-P",
    "OINTING TRIANGLE WITH DOUBLEaaALARM CLOCKaaSTOPWATCHaaTIMER CLOCKaaHOURGLASS WITH FLOWING SANDaaBLACK MEDIUM",
    " LEFT-POINTING TRIANGLEntRIGHnsUPnsDOWNaaDOUBLE VERTICAL BARaaBLACK SQUARE FOR STOPgaCIRCLE FOR RECORDaaPOWE",
    "R SYMBOLggON-OFF ihghSLEEPahOBSERVER EYEabSYMBOL FOR NULlaSTART OF HEADINGuaTEXTliENDtaRANSMISSIONnaQUIRYlaA",
    "CKNOWLEDGElaBELLmaACKSPACElaHORIZONTAL TABULATIONlaLINE FEEDlaVERTICAL TABULATIONlaFORM FEEDlaCARRIAGE RETUR",
    "NlaSHIFT OUTraINlaDATA LINK ESCAPEmbEVICE CONTROL ON!aTWO$aHREE!aFOURlaNEGATIVE ACKNOWLEDGElbSYNCHRONOUS IDL",
    "laEND OF TRANSMISSION BLOCKlaCANCELlaEND OF MEDIUMlaSUBSTITUTElbESCAPlaFILE SEPARATORlkGROUPlkRECORDlkUNITla",
    "SPACElbDELETaaBLANK SYMBOLaaOPEN BOXaaSYMBOL FOR NEWLINElaDELETE FORM TWOllSUBSTITUaaOCR HOOKeaCHAIReaFORKee",
    "INVERTED eaBELT BUCKLEfbOW TIfaRANCH BANK IDENTIFICATIONeaAMOUNT OF CHECKeaDASHeaCUSTOMER ACCOUNT NUMBEReaDO",
    "UBLE BACKSLASHaaCIRCLED DIGIT ONEoaTWOpaHREEoaFOURpaIVEoaSIXpaEVENoaEIGHToaNINEiaNUMBER TENpcELEVpaTWELVEqaH",
    "IRTEENpfFOUqeIFpeSIXqeEVENpeEIGHpeNINEpaTWENTYaaPARENTHESIZED DIGIT ONEuaTWOvaHREEuaFOURvaIVEuaSIXvaEVENuaEI",
    "GHTuaNINEoaNUMBER TENvcELEVvaTWELVEwaHIRTEENvfFOUweIFveSIXweEVENveEIGHveNINEvaTWENTYaaDIGIT ONE FULL STOPgkT",
    "WOhkHREEgkFOURhkIVEgkSIXhkEVENgkEIGHTgkNINEakNUMBER TENhmELEVhkTWELVEikHIRTEENhpFOUioIFhoSIXioEVENhoEIGHhoNI",
    "NEhkTWENTYaaPARENTHESIZED LATIN SMALL LETTER A+aB+aC+aD+aE+aF+aG+aH+aI+aJ+aK+aL+aM+aN+aO+aP+aQ+aR+aS+aT+aU+a",
    "V+aW+aX+aY+aZaaCIRCLED LATIN CAPITAL LETTER A&aB&aC&aD&aE&aF&aG&aH&aI&aJ&aK&aL&aM&aN&aO&aP&aQ&aR&aS&aT&aU&aV",
    "&aW&aX&aY&aZoaSMALL LETTER A$aB$aC$aD$aE$aF$aG$aH$aI$aJ$aK$aL$aM$aN$aO$aP$aQ$aR$aS$aT$aU$aV$aW$aX$aY$aZiaDIG",
    "IT ZEROaaNEGATIVE CIRCLED NUMBER ELEVENyaTWELVEzaHIRTEENyfFOUzeIFyeSIXzeEVENyeEIGHyeNINEyaTWENTYaaDOUBLE CIR",
    "CLED DIGIT ONEvaTWOwaHREEvaFOURwaIVEvaSIXwaEVENvaEIGHTvaNINEpaNUMBER TENaaNEGATIVE CIRCLED DIGIT ZEROaaBOX D",
    "RAWINGS LIGHT HORIZONTALnlHEAVYncLIGHT VERTICnjHEAVYncLIGHT TRIPLE DASH HORIZONTnxHEAVYncLIGHT TRIPLE DASH V",
    "ERTICnvHEAVYncLIGHT QUADRUPLE DASH HORIZONTn!HEAVYncLIGHT QUADRUPLE DASH VERTICnyHEAVYnaLIGHT DOWN AND RIGHT",
    "naDOWN LIGHT AND RIGHT HEAVYsaHEAVY AND RIGHT LIGHTneHEAVY DOWN AND RnbLIGHT DOWN AND LEFnaDOWN LIGHT AND LE",
    "FT HEAVYsaHEAVY AND LEFT LIGHTnbHEAVY DOWN AND LEFnbLIGHT UP AND RIGHnaUP LIGHT AND RIGHT HEAVYqaHEAVY AND R",
    "IGHT LIGHTneHEAVY UP AND RnbLIGHT UP AND LEFnaUP LIGHT AND LEFT HEAVYqaHEAVY AND LEFT LIGHTnbHEAVY UP AND LE",
    "FnbLIGHT VERTICAL AND RIGHnaVERTICAL LIGHT AND RIGHT HEAVYnaUP HEAVY AND RIGHT DOWN LIGHTngDOWN HEAVY AND RI",
    "GHT UPngVERTICAL HEAVY AND RIGHTnaDOWN LIGHT AND RIGHT UP HEAVYngUP LIGHT AND RIGHT DOWNnaHEAVY VERTICAL AND",
    " RIGHTnbLIGHT VERTICAL AND LEFnaVERTICAL LIGHT AND LEFT HEAVYnaUP HEAVY AND LEFT DOWN LIGHTngDOWN HEAVY AND ",
    "LEFT UPngVERTICAL HEAVY AND LEFTnaDOWN LIGHT AND LEFT UP HEAVYngUP LIGHT AND LEFT DOWNnaHEAVY VERTICAL AND L",
    "EFTnaLIGHT DOWN AND HORIZONTALoaEFT HEAVY AND RIGHT DOWN LIGHTnmRIGHT HEAVY AND LEFnaDOWN LIGHT AND HORIZONT",
    "AL HEAVYsaHEAVY AND HORIZONTAL LIGHTnaRIGHT LIGHT AND LEFT DOWN HEAVYnmLEFT LIGHT AND RIGHnaHEAVY DOWN AND H",
    "ORIZONTALnpLIGHT UPoaEFT HEAVY AND RIGHT UP LIGHTnkRIGHT HEAVY AND LEFnaUP LIGHT AND HORIZONTAL HEAVYqaHEAVY",
    " AND HORIZONTAL LIGHTnaRIGHT LIGHT AND LEFT UP HEAVYnkLEFT LIGHT AND RIGHnaHEAVY UP AND HORIZONTALnpLIGHT VE",
    "RTICALoaEFT HEAVY AND RIGHT VERTICAL LIGHTnqRIGHT HEAVY AND LEFnaVERTICAL LIGHT AND HORIZONTAL HEAVYnaUP HEA",
    "VY AND DOWN HORIZONTAL LIGHTnrDOWN HEAVY AND UPnrVERTICAL HEAVY ANDngLEFT UP HEAVY AND RIGHT DOWNnmRIGHT UP ",
    "HEAVY AND LEFngLEFT DOWN HEAVY AND RIGHT UPnkRIGHT DOWN HEAVY AND LEFnaDOWN LIGHT AND UP HORIZONTAL HEAVYnrU",
    "P LIGHT AND DOWNniRIGHT LIGHT AND LEFT VERTICnqLEFT LIGHT AND RIGHnaHEAVY VERTICAL AND HORIZONTALnlLIGHT DOU",
    "BLE DASHnxHEAVYncLIGHT DOUBLE DASH VERTICnvHEAVYncDOUBLE HORIZONTucVERTICpaWN SINGLE AND RIGHT DOUBLEscDOUBL",
    "E AND RIGHT SINGpaUBLE DOWN AND RIGHTpaWN SINGLE AND LEFT DOUBLEscDOUBLE AND LEFT SINGpaUBLE DOWN AND LEFTna",
    "UP SINGLE AND RIGHT DOUBLEqcDOUBLE AND RIGHT SINGnaDOUBLE UP AND RIGHTnaUP SINGLE AND LEFT DOUBLEqcDOUBLE AN",
    "D LEFT SINGnaDOUBLE UP AND LEFTnaVERTICAL SINGLE AND RIGHT DOUBLEwcDOUBLE AND RIGHT SINGnaDOUBLE VERTICAL AN",
    "D RIGHTnaVERTICAL SINGLE AND LEFT DOUBLEwcDOUBLE AND LEFT SINGnaDOUBLE VERTICAL AND LEFTpaWN SINGLE AND HORI",
    "ZONTAL DOUBLEscDOUBLE AND HORIZONTAL SINGpaUBLE DOWN AND HORIZONTALnaUP SINGLE AND HORIZONTAL DOUBLEqcDOUBLE",
    " AND HORIZONTAL SINGnaDOUBLE UP AND HORIZONTALnaVERTICAL SINGLE AND HORIZONTAL DOUBLEwcDOUBLE AND HORIZONTAL",
    " SINGnaDOUBLE VERTICAL AND HORIZONTALnaLIGHT ARC DOWN AND RIGHT*bLEFxjUP(bRIGHtbDIAGONAL UPPER RIGHT TO LOWE",
    "R LEF,bLEFT TO LOWER RIGH%aCROSStaLEFTtaUPtaRIGHTtaDOWNnaHEAVY LEFTtaUPtaRIGHTtaDOWNnaLIGHT LEFT AND HEAVY R",
    "IGHTtaUP AND HEAVY DOWNnaHEAVY LEFT AND LIGHT RIGHTtaUP AND LIGHT DOWNaaUPPER HALF BLOCKagLOWER ONE EIGHTHkg",
    "QUARTERggTHREE EIGHTHSggHALFggFIVE EIGHTHSghTHREE QUARTERghSEVEN EIGHTHagFULLagLEFT SEVEN EIGHTHSfhTHREE QUA",
    "RTERfhFIVE EIGHTHfgHALFfgTHREE EIGHTHSfgONE QUARTERjgEIGHTHagRIGHT HALFaaLIGHT SHADEagMEDIUMagDARKaaUPPER ON",
    "E EIGHTH BLOCKarRIGHTaaQUADRANT LOWER LEFTpbRIGHjbUPPER LEFta AND LOWER LEFT AND LOWER RIGHT(fybUPPER RIGHT ",
    "AND LOWER LEF~b RIGHpfua AND LOWER LEFT.a AND LOWER RIGHTaaBLACK SQUAREahWHITEma WITH ROUNDED CORNERSnaCONTA",
    "INING BLACK SMALL SQUAREaaSQUARE WITH HORIZONTAL FILLmhVERTICmfORTHOGONAL CROSSHATCHmfUPPER LEFT TO LOWER RI",
    "GHTsgRIGHT TO LOWER LEFmfDIAGONAL CROSSHATCHaaBLACK SMALL SQUAREanWHITEabBLACK RECTANGLakWHITEakBLACK VERTIC",
    "ALatWHITEaaBLACK PARALLELOGRAMaoWHITEaaBLACK UP-POINTING TRIANGLEavWHITEajBLACK UP-POINTING SMALLa$WHITEajBL",
    "ACK RIGHT-POINTINGayWHITEajBLACK RIGHT-POINTING SMALLa(WHITEaaBLACK RIGHT-POINTING POINTERaxWHITEaaBLACK DOW",
    "N-POINTING TRIANGLEaxWHITEajBLACK DOWN-POINTING SMALLa&WHITEajBLACK LEFT-POINTINGaxWHITEajBLACK LEFT-POINTIN",
    "G SMALLa&WHITEaaBLACK LEFT-POINTING POINTERawWHITEaaBLACK DIAMONDaiWHITEna CONTAINING BLACK SMALL DIAMONDaaF",
    "ISHEYEabLOZENGabWHITE CIRCLahDOTTEDaaCIRCLE WITH VERTICAL FILLaaBULLSEYEbbLACK CIRCLaaCIRCLE WITH LEFT HALF ",
    "BLACKmmRIGHmlLOWERmnUPPsgRIGHT QUADRANTmqALL BUT UPPER LEFaaLEFT HALF BLACK CIRCLEatRIGHaaINVERSE BULLETiaWH",
    "ITE CIRCLEauUPPER HALF a%LOWaaUPPER LEFT QUADRANT CIRCULAR ARCgxRIGHa(LOWgxLEFaaUPPER HALF CIRCLEaoLOWacBLAC",
    "K LOWER RIGHT TRIANGmkLEFgqUPPmkRIGHaaWHITE BULLETaaSQUARE WITH LEFT HALF BLACKmmRIGHmlUPPER LEFT DIAGONALmv",
    "LOWER RIGHaaWHITE SQUARE WITH VERTICAL BISECTING LINEgaUP-POINTING TRIANGLE WITH DOTaaUP-POINTING TRIANGLE W",
    "ITH LEFT HALF BLACK!mRIGHaaLARGE CIRCLEaaWHITE SQUARE WITH UPPER LEFT QUADRANTsqLOWykRIGHsrUPPgkCIRCLE WITH ",
    "UPPER LEFsqLOWykRIGHsrUPPaaUPPER LEFT TRIANGLEgkRIGHakLOWER LEFabWHITE MEDIUM SQUARaoBLACKahWHITE MEDIUM SMA",
    "LLauBLACKabLOWER RIGHT TRIANGLaaBLACK SUN WITH RAYSaaCLOUDaaUMBRELLAaaSNOWMANaaCOMETaaBLACK STARafWHITEaaLIG",
    "HTNINGaaTHUNDERSTORMaaSUNaaASCENDING NODEanDEaaCONJUNCTIONaeOPPOSIaaBLACK TELEPHONEakWHITEaaBALLOT BOXka WIT",
    "H CHECKqaXaaSALTIREaaUMBRELLA WITH RAIN DROPSaaHOT BEVERAGEabWHITE SHOGI PIECamBLACKaaSHAMROCKaaREVERSED ROT",
    "ATED FLORAL HEART BULLETaaBLACK LEFT POINTING INDEXgqRIGHaqWHITE LEFgpUPgpRIGHTgpDOWNaaSKULL AND CROSSBONESa",
    "aCAUTION SIGNafRADIOACTIVEafBIOHAZARDaaCADUCEUSaaANKHaaORTHODOX CROSSaaCHI RHObaROSS OF LORRAINEjaJERUSALEMa",
    "aSTAR AND CRESCENTaaFARSI SYMBOLaaADI SHAKTIaaHAMMER AND SICKLEaaPEACE SYMBOLaaYIN YANGaaTRIGRAM FOR HEAVENm",
    "aLAKEmbFIRmaTHUNDERmaWINDnaATERmaMOUNTAINmaEARTHaaWHEEL OF DHARMAcaITE FROWNING FACEgiSMILanBLACKaaWHITE SUN",
    " WITH RAYSaaFIRST QUARTER MOONapLAaaMERCURYaaFEMALE SIGNaaEARTHaaMALE SIGNaaJUPITERaaSATURNaaURANUSaaNEPTUNE",
    "aaPLUTOaaARIESabTAURUaaGEMINIaaCANCERaaLEOabVIRGaaLIBRAaaSCORPIUSbdAGITTARaaCAPRICORNaaAQUARIUSabPISCEaaWHIT",
    "E CHESS KINGmaQUEENmaROOKmaBISHOPmaKNIGHTmaPAWNaaBLACK CHESS KINGmaQUEENmaROOKmaBISHOPmaKNIGHTmaPAWNgaSPADE ",
    "SUITafWHITE HEARTgfDIAMONDafBLACK CLUBafWHITE SPADEafBLACK HEARTgfDIAMONDafWHITE CLUBaaHOT SPRINGSaaQUARTER ",
    "NOTEafEIGHTHaaBEAMED EIGHTH NOTEShiSIXTEENaaMUSIC FLAT SIGNgfNATURALgfSHARPaaWEST SYRIAC CROSSapEAaaUNIVERSA",
    "L RECYCLING SYMBOLaaRECYCLING SYMBOL FOR TYPE-1 PLASTICS!j2!j3!j4!j5!j6!j7vbGENERIC MATERIALaaBLACK UNIVERSA",
    "L RECYCLING SYMBOLahRECYCLED PAPERavPARTIALLY-baERMANENT PAPER SIGNaaWHEELCHAIR SYMBOLaaDIE FACE-1ja2ja3ja4j",
    "a5ja6aaWHITE CIRCLE WITH DOT RIGHTsaTWO DOTSaaBLACK CIRCLE WITH WHITE DOT RIGHTsaTWO WHITE DOTSaaMONOGRAM FO",
    "R YANGoaINaaDIGRAM FOR GREATER YANGlaLESSER YINtaANGlaGREATER YINaaWHITE FLAGafBLACKaaHAMMER AND PICKaaANCHO",
    "RaaCROSSED SWORDSabSTAFF OF AESCULAPIUbbCALEaaALEMBICaaFLOWERabGEAaaSTAFF OF HERMESaaATOM SYMBOLaaFLEUR-DE-L",
    "ISaaOUTLINED WHITE STARaaTHREE LINES CONVERGING RIGHTxbLEFaaWARNING SIGNafHIGH VOLTAGEagDOUBLED FEMALijalINT",
    "ERLOCKED FEMALE ANajMALE AND FEfgWITH STROKreAND MALE AND FEMALE agVERTICAL MALE WITH STROKayHORIZONTaaMEDIU",
    "M WHITE CIRCLEhhBLACKhhSMALL WHITEbaARRIAGE SYMBOLaiDIVORCahUNMARRIED PARTNERSHIPaaCOFFINabFUNERAL URaaNEUTE",
    "RaaCERESabPALLAaaJUNOaaVESTAaaCHIRONaaBLACK MOON LILITHaaSEXTILEcfMISEaaQUINCUNXaaSESQUIQUADRATEbaOCCER BALL",
    "aeBASEaaSQUARED KEYaaWHITE DRAUGHTS MANpaKINGaaBLACK DRAUGHTS MANpaKINGaaSNOWMAN WITHOUT SNOWbaUN BEHIND CLO",
    "UDaaRAINabBLACK SNOWMAabTHUNDER CLOUD AND RAIbaURNED WHITE SHOGI PIECEhmBLACKabWHITE DIAMOND IN SQUARaaCROSS",
    "ING LANESaaDISABLED CARaaOPHIUCHUSaaPICKaaCAR SLIDINGaaHELMET WITH WHITE CROSSabCIRCLED CROSSING LANEbbHAINa",
    "aNO ENTRYaaALTERNATE ONE-WAY LEFT WAY TRAFFICavBLACK TWOazWHITEaaBLACK LEFT LANE MERGEaqWHITEaaDRIVE SLOW SI",
    "GNaaHEAVY WHITE DOWN-POINTING TRIANGLEaaLEFT CLOSED ENTRYaaSQUARED SALTIREacFALLING DIAGONAL IN WHITE CIRCLE",
    " IN BLACK SQUAaaBLACK TRUCKaaRESTRICTED LEFT ENTRY-1wa2aaASTRONOMICAL SYMBOL FOR URANUSaaHEAVY CIRCLE WITH S",
    "TROKE AND TWO DOTS ABOVEaaPENTAGRAMajRIGHT-HANDED INTERLACED a&LEFamINVERTaaBLACK CROSS ON SHIELDaaSHINTO SH",
    "RINEaaCHURCHbaASTLEabHISTORIC SITaaGEAR WITHOUT HUBja HANDLESaaMAP SYMBOL FOR LIGHTHOUSEbaOUNTAINaaUMBRELLA ",
    "ON GROUNDaaFOUNTAINbaLAG IN HOLEbaERRYaaSAILBOATbaQUARE FOUR CORNERSbaKIERaaICE SKATEaaPERSON WITH BALLaaTEN",
    "TaaJAPANESE BANK SYMBOLahHEADSTONE GRAVEYARDaaFUEL PUMPaaCUP ON BLACK SQUAREabWHITE FLAG WITH HORIZONTAL MID",
    "DLE BLACK STRIPaaBLACK SAFETY SCISSORSajUPPER BLADEajBLACKajLOWER BLADEakWHITgaHEAVY CHECK MARKaaTELEPHONE L",
    "OCATION SIGNbaAPE DRIVEabAIRPLANabENVELOPaaRAISED FISThaHANDafVICTORYafWRITINGaaLOWER RIGHT PENCILagagUPPER ",
    "RIGHT aaWHITE NIBaeBLACKaaCHECK MARKakHEAVY aaMULTIPLICATION XaqHEAVY acBALLOTaiHEAVY aaOUTLINED GREEK CROSS",
    "amHEAVYagOPEN CENTREarHEAVY agLATINalSHADOWED WHITE amOUTLINEDagMALTESEaaSTAR OF DAVIDaaFOUR TEARDROP-SPOKED",
    " ASTERISKfqBALLOONa%HEAVY aqFOUR CLUBaaBLACK FOUR POINTED STARasWHITEaaSPARKLESbaTRESS OUTLINED WHITE STARan",
    "CIRCLafOPEN CENTRE BLACKafBLACK CENTRE WHITEafOUTLINED BLACKatHEAVY afPINWHEELafSHADOWED WHITEaaHEAVY ASTERI",
    "SKajOPEN CENTREajEIGHT SPOKEDgaPOINTED BLACK STARofPINWHEELafSIX POINTED BLACKalEIGHT POINTED RECTILINEARa:H",
    "EAVY alTWELVE POINTEDaaSIXTEEN POINTED ASTERISKalTEARDROP-SPOKayOPEN CENTRE azHEAVYaaSIX PETALLED BLACK AND ",
    "WHITE FLORETTEajBLACKajWHITEajEIGHT PETALLED OUTLINED BLACKaaCIRCLED OPEN CENTRE EIGHT POINTED STARaaHEAVY T",
    "EARDROP-SPOKED PINWHEEL ASTERISKaaSNOWFLAKEajTIGHT TRIFOLIATE akHEAVY CHEVRONabSPARKLahHEAVY aaBALLOON-SPOKE",
    "D ASTERISKajEIGHT TEARDROP-SPOKED PROPELLERa>HEAVY abCROSS MARaaSHADOWED WHITE CIRCLEaaNEGATIVE SQUARED CROS",
    "S MARKaaLOWER RIGHT DROP-SHADOWED WHITE SQUAREa.UPPavLOWER RIGHT a(UPPaaBLACK QUESTION MARK ORNAMENTaxWHITEg",
    "sEXCLAMAaaBLACK DIAMOND MINUS WHITE XaaHEAVY EXCLAMATION MARK SYMBOLaaLIGHT VERTICAL BARanMEDIUManHEAVYgaSIN",
    "GLE TURNED COMMA QUOTATION MARK ORNAMENTn&g(DOUBLE TURNEDn&g*LOW SINGk*DOUBajCURVED STEM PARAGRAPH SIGNajHEA",
    "VY EXCLAMATION MARKgzHEART gbBLACK HEARabROTATED HEAVY BLACK HEART BULLEabFLORAL HEARabROTATED FLORAL HEART ",
    "BULLEabMEDIUM LEFT PARENTHESIS ORNAMENhwRIGHhwFLATTENED LEFrwRIGHhjLEFT-POINTING ANGLE BRACKETh+RIGHajHEAVY ",
    "LEFT-POINTING ANGLE QUOTATION MARKg>RIGHgjLEFT-POINTING ANGLE BRACKETg+RIGHarLIGHT LEFT TORTOISE SHELLg+RIGH",
    "arMEDIUM LEFT CURLYhyRIGHaaDINGBAT NEGATIVE CIRCLED DIGIT ONE)aTWO*aHREE)aFOUR*aIVE)aSIX*aEVEN)aEIGHT)aNINEz",
    "aNUMBER TENiaCIRCLED SANS-SERIF DIGIT ONE+aTWO,aHREE+aFOUR,aIVE+aSIX,aEVEN+aEIGHT+aNINE$aNUMBER TENiaNEGATIV",
    "E CIRCLED SANS-SERIF DIGIT ONE^aTWO_aHREE^aFOUR_aIVE^aSIX_aEVEN^aEIGHT^aNINE:aNUMBER TENaaHEAVY WIDE-HEADED ",
    "RIGHTWARDS ARROWgaPLUS SIGNghMINgfDIVISIONgaSOUTH EAST ARROWggRIGHTWARDSggNORTH EASTagDRAFTING POINT RIGHTWA",
    "RDSarHEAVY ROUND-TIPPEDatTRIANGLE-HEADa*HEAVY a+DASHEDa=HEAVY arBLACKaaTHREE-D TOP-LIGHTED RIGHTWARDS ARROWH",
    "EADi&BOTTOMavBLACKaaHEAVY BLACK CURVED DOWNWARDS AND RIGHTWARDS ARROWt!UParSQUAT BLACKaxHEAVY CONCAVE-POINTE",
    "DarRIGHT-SHADED WHITEa)LEFazBACK-TILTED SHADOWa=FRONTa)HEAVY LOWER RIGHT-g>UPPa>NOTCHED LOWaaCURLY LOOPaaNOT",
    "CHED UPPER RIGHT-SHADOWED WHITE RIGHTWARDS ARROWaxCIRCLED HEAVYarWHITE-FEATHEREDagBLACK-FEATHERED SOUTH EAST",
    "qgRIGHTWARDSqgNORTH EASTanHEAVY BLACK-FEATHERED SOUwgRIGHTWARDSwgNORTH EASTagTEARDROP-BARBED RIGHTWARDSatHEA",
    "VY TEARDROP-SHANKatWEDGE-TAILa&HEAVY atOPEN-OUTLINaaDOUBLE CURLY LOOPaaTHREE DIMENSIONAL ANGLEafWHITE TRIANG",
    "LE CONTAINING SMALL WHITE TRIaaPERPENDICULARaaOPEN SUBSEThdPERaaLEFT S-SHAPED BAG DELIMITERayRIGHaaOR WITH D",
    "OT INSIDEaaREVERSE SOLIDUS PRECEDING SUBSETaaSUPERSET PRECEDING SOLIDUSaaVERTICAL BAR WITH HORIZONTAL STROKE",
    "aaMATHEMATICAL RISING DIAGONALaaLONG DIVISIONaaMATHEMATICAL FALLING DIAGONALaaSQUARED LOGICAL ANDqaORaaWHITE",
    " DIAMOND WITH CENTRED DOTaeAND WITHaaELEMENT OF OPENING UPWARDSaaLOWER RIGHT CORNER WITH DOTarUPPER LEFaaLEF",
    "T OUTER JOINamRIGHalFULLaaLARGE UP TACKgfDOWNbaEFT AND RIGHT DOUBLE TURNSTILEpaTACKfaMULTIMAPbaONG RIGHT TAC",
    "KfgLEFaaUP TACK WITH CIRCLE ABOVEabLOZENGE DIVIDED BY HORIZONTAL RULaaWHITE CONCAVE-SIDED DIAMOND$a WITH LEF",
    "TWARDS TICK+lRIGHglSQUARE WITH LEFslRIGHaaMATHEMATICAL LEFT WHITE SQUARE BRACKETnwRIGHnjLEFT ANGLnpRIGHnoLEF",
    "T DOUBLEnwRIGHniLEFT WHITE TORTOISE SHELLn(RIGHnaLEFT FLATTENED PARENTHESISnxRIGHaaUPWARDS QUADRUPLE ARROWav",
    "DOWNaiANTICLOCKWISE GAPPED CIRCa&aaRIGHT ARROW WITH CIRCLED PLUSaaLONG LEFTWARDS ARROWfmRIGHfgLEFT RIGHTjgWA",
    "RDS DOUBLEftRIGHfnLEFT RIGHTjaWARDS ARROW FROM BARfvRIGHfpLEFTWARDS DOUBLEf%RIGHqaSQUIGGLE ARROWaaBRAILLE PA",
    "TTERN BLANKqaDOTS-1va2vb1va3vb1vb2vc1va4vb1vb2vc1vb3vc1vc2vd1va5vb1vb2vc1vb3vc1vc2vd1vb4vc1vc2vd1vc3vd1vd2ve",
    "1va6vb1vb2vc1vb3vc1vc2vd1vb4vc1vc2vd1vc3vd1vd2ve1vb5vc1vc2vd1vc3vd1vd2ve1vc4vd1vd2ve1vd3ve1ve2vf1va7vb1vb2vc",
    "1vb3vc1vc2vd1vb4vc1vc2vd1vc3vd1vd2ve1vb5vc1vc2vd1vc3vd1vd2ve1vc4vd1vd2ve1vd3ve1ve2vf1vb6vc1vc2vd1vc3vd1vd2ve",
    "1vc4vd1vd2ve1vd3ve1ve2vf1vc5vd1vd2ve1vd3ve1ve2vf1vd4ve1ve2vf1ve3vf1vf2vg1va8vb1vb2vc1vb3vc1vc2vd1vb4vc1vc2vd",
    "1vc3vd1vd2ve1vb5vc1vc2vd1vc3vd1vd2ve1vc4vd1vd2ve1vd3ve1ve2vf1vb6vc1vc2vd1vc3vd1vd2ve1vc4vd1vd2ve1vd3ve1ve2vf",
    "1vc5vd1vd2ve1vd3ve1ve2vf1vd4ve1ve2vf1ve3vf1vf2vg1vb7vc1vc2vd1vc3vd1vd2ve1vc4vd1vd2ve1vd3ve1ve2vf1vc5vd1vd2ve",
    "1vd3ve1ve2vf1vd4ve1ve2vf1ve3vf1vf2vg1vc6vd1vd2ve1vd3ve1ve2vf1vd4ve1ve2vf1ve3vf1vf2vg1vd5ve1ve2vf1ve3vf1vf2vg",
    "1ve4vf1vf2vg1vf3vg1vg2vh1aaRIGHTWARDS TWO-HEADED ARROW WITH VERTICAL STROKE+pDOUBLE aqLEFTWARDS DOUBLE ARROW",
    " WITHa>RIGHa,LEFT RIGHTaaRIGHTWARDS TWO-HEADED ARROW FROM BARapLEFTWARDS DOUBLEa%RIGHaaDOWNWARDS ARROW WITH ",
    "HORIZONTAL STROKEa,UPiaTRIPLE ARROWasDOWNagLEFTWARDS DOUBLE DASHayRIGHanLEFTWARDS TRIPayRIGHmqWO-HEADED TlaA",
    "RROW WITH DOTTED STEMaaUPWARDS ARROW TO BARasDOWNaaRIGHTWARDS ARROW WITH TAIL WITH VERTICAL STROKE*pDOUBLE l",
    "aTWO-HEADED ARROW WITH TAIL;a WITH VERTICAL STROKE_pDOUBLE aaLEFTWARDS ARROW-TAILarRIGHalLEFTWARDS DOUBLEayR",
    "IGHaaLEFTWARDS ARROW TO BLACK DIAMONDa&RIGHarLEFTWARDS ARROW FROM BARa<RIGHaaNORTH WEST AND SOUTH EAST ARROW",
    "giEAST AND SOUTH WEgaWEST ARROW WITH HOOKgsEAaxSOUgsWEaaNORTH WEST ARROW AND NORTH EAST ARROWgnEAST ARROW AN",
    "D SOUaiSOUTH EAST ARROW AND SOUTH WEgnWEST ARROW AND NORaaRISING DIAGONAL CROSSING FALLING DIAGONALamFALLING",
    " DIAGONAL CROSSING RISaaSOUTH EAST ARROW CROSSING NORTH EAST ARROWanNORTH EAST ARROW CROSSING SOUanFALLING D",
    "IAGONAL CROSSING NORanRISING DIAGONAL CROSSING SOUaiNORTH EAST ARROW CROSSING NORTH WEgiWEST ARROW CROSSING ",
    "NORTH EAaaWAVE ARROW POINTING DIRECTLY RIGHTaaARROW POINTING RIGHTWARDS THEN CURVING UPWARDS=fDOWNpfDOWNWARD",
    "S THEN CURVING LEFT<gRIGHaaRIGHT-SIDE ARC CLOCKWISE ARROWapLEFT-SIDE ARC ANTIayTOPayBOTTOMaaTOP ARC CLOCKWIS",
    "E ARROW WITH MINUSicANTICLOCKWISE ARROW WITH PLaaLOWER RIGHT SEMICIRCULAR CLOCKWISE ARROWgpLEFT SEMICIRCULAR",
    " ANTIahANTICLOCKWISE CLOSED CIRCLa&agRIGHTWARDS ARROW ABOVE SHORT LEFTWARDSamLEFTWARDS ARROW ABOVE SHORT RIG",
    "HamSHORT RIGHTWARDS ARROW ABOVE LEFacRIGHTWARDS ARROW WITH PLUS BELa%LEFaaRIGHTWARDS ARROW THROUGH XaaLEFT R",
    "IGHT ARROW THROUGH SMALL CIRCLEanUPWARDS TWO-HEADED ARROW FROMaaLEFT BARB UP RIGHT BARB DOWN HARPOONkiDOWN R",
    "IGHT BARB UPaiUP BARB RIGHT DOWN BARB LEFTijLEFT DOWN BARB RIGHaiLEFT BARB UP RIGHT BARB UPaiUP BARB RIGHT D",
    "OWN BARB RIGHTaiLEFT BARB DOWN RIGHT BARB DOWNaiUP BARB LEFT DOWN BARB LEFTaaLEFTWARDS HARPOON WITH BARB UP ",
    "TO BARa,RIGHahUPWARDS HARPOON WITH BARB RIGHTa:DOWNahLEFTWARDS HARPOON WITH BARB DOWNa:RIGHahUPWARDS HARPOON",
    " WITH BARB LEFTa.DOWNaeLEFTWARDS HARPOON WITH BARB UP FROMa:RIGHajUPWARDS HARPOON WITH BARB RIGHTa<DOWNajLEF",
    "TWARDS HARPOON WITH BARB DOWNa<RIGHajUPWARDS HARPOON WITH BARB LEFTa;DOWNaaLEFTWARDS HARPOON WITH BARB UP AB",
    "OVE LEFTWARDS HARPOON WITH BARB DOWNaaUPWARDS HARPOON WITH BARB LEFT BESIDE UPWARDS HARPOON WITH BARB RIGHTa",
    "aRIGHTWARDS HARPOON WITH BARB UP ABOVE RIGHTWARDS HARPOON WITH BARB DOWNaaDOWNWARDS HARPOON WITH BARB LEFT B",
    "ESIDE DOWNWARDS HARPOON WITH BARB RIGHTaaLEFTWARDS HARPOON WITH BARB UP ABOVE RIGHTWARDS HARPOON WITH BARB U",
    "P%aDOWN ABOVE RIGHTWARDS HARPOON WITH BARB DOWNaaRIGHTWARDS HARPOON WITH BARB UP ABOVE LEFTWARDS HARPOON WIT",
    "H BARB UP&aDOWN ABOVE LEFTWARDS HARPOON WITH BARB DOWNaaLEFTWARDS HARPOON WITH BARB UP ABOVE LONG DASH%kDOWN",
    " BELOWakRIGHTWARDS HARPOON WITH BARB UP ABOVE&kDOWN BELOWaaUPWARDS HARPOON WITH BARB LEFT BESIDE DOWNWARDS H",
    "ARPOON WITH BARB RIGHTa&DOWNWARDS HARPOON WITH BARB LEFT BESIDE UPaaRIGHT DOUBLE ARROW WITH ROUNDED HEADaaEQ",
    "UALS SIGN ABOVE RIGHTWARDS ARROWaxTILDE OPERATORaaLEFTWARDS ARROW ABOVE TILDE OPERATORa+RIGHxaALMOST EQUAL T",
    "OaaLESS-THAN ABOVE LEFTWARDS ARROWcaFTWARDS ARROW THROUGH LESS-THANaaGREATER-THAN ABOVE RIGHTWARDS ARROWaxSU",
    "BSETaaLEFTWARDS ARROW THROUGH SUBSETaaSUPERSET ABOVE LEFTWARDS ARROWaaLEFT FISH TAILalRIGHakUPakDOWNaaTRIPLE",
    " VERTICAL BAR DELIMITERaaZ NOTATION SPOTlaTYPE COLONaaLEFT WHITE CURLY BRACKETavRIGHaaLEFT WHITE PARENTHESIS",
    "atRIGHaaZ NOTATION LEFT IMAGE BRACKETlpRIGHliLEFT BINDINGlrRIGHaaLEFT SQUARE BRACKET WITH UNDERBARa(RIGHabLE",
    "FT SQUARE BRACKET WITH TICK IN TOP CORNEahRIGHT SQUARE BRACKET WITH TICK IN BOTTOMa_LEFahRIGHT SQUARE BRACKE",
    "T WITH TICK IN TOPaaLEFT ANGLE BRACKET WITH DOTayRIGHabLEFT ARC LESS-THAN BRACKEanRIGHT ARC GREATERa!DOUBLE ",
    "LEFhnRIGHT ARC LESSaiLEFT BLACK TORTOISE SHELLa(RIGHaaDOTTED FENCEabVERTICAL ZIGZAG LINaaMEASURED ANGLE OPEN",
    "ING LEFTaaRIGHT ANGLE VARIANT WITH SQUAREaaMEASURED RIGHT ANGLE WITH DOTaaANGLE WITH S INSIDEbbCUTE ANGLaaSP",
    "HERICAL ANGLE OPENING LEFTyaUPaaTURNED ANGLEaiREVERSaaANGLE WITH UNDERBARatREVERSED aaOBLIQUE ANGLE OPENING ",
    "UPwaDOWNaaMEASURED ANGLE WITH OPEN ARM ENDING IN ARROW POINTING UP AND RIGHT~bPOINTING UP AND LEF~bPOINTING ",
    "DOWN AND RIGH~bPOINTING DOWN AND LEF~aPOINTING RIGHT AND UP~iPOINTING LEF~aPOINTING RIGHT AND DOWN~kPOINTING",
    " LEFaaREVERSED EMPTY SETaaEMPTY SET WITH OVERBARpaSMALL CIRCLE ABOVEpgRIGHT ARROWpnLEFaaCIRCLE WITH HORIZONT",
    "AL BARggD VERTICiaPARALLELiaREVERSE SOLIDUSiaPERPENDICULARgc DIVIDED BY HORIZONTAL BAR AND TOP HALF DIVIDED ",
    "BY VERTICAL BhaWITH SUPERIMPOSED XgaD ANTICLOCKWISE-ROTATED DIVISION SIGNaaUP ARROW THROUGH CIRCLEaaCIRCLED ",
    "WHITE BULLETigiaLESS-THANifGREATERga WITH SMALL CIRCLE TO THE RIGHTmnTWO HORIZONTAL STROKESaaSQUARED RISING ",
    "DIAGONAL SLASHisFALLiaASTERISKiaSMALL CIRCLEjbQUARaaTWO JOINED SQUARESbaRIANGLE WITH DOT ABOVEoaUNDERBARaaS ",
    "IN TRIANGLEaaTRIANGLE WITH SERIFS AT BOTTOMaaRIGHT TRIANGLE ABOVE LEFT TRIANGLEaaLEFT TRIANGLE BESIDE VERTIC",
    "AL BARaaVERTICAL BAR BESIDE RIGHT TRIANGLEaaBOWTIE WITH LEFT HALF BLACKmmRIGHbaLACK BOWTIEaaTIMES WITH LEFT ",
    "HALF BLACKlmRIGHaaWHITE HOURGLASSakBLACKaaLEFT WIGGLY FENCEaoRIGHanLEFT DOUBLEavRIGHaaINCOMPLETE INFINITYajT",
    "IE OVERaaINFINITY NEGATED WITH VERTICAL BARaaDOUBLE-ENDED MULTIMAPaaSQUARE WITH CONTOURED OUTLINEaaINCREASES",
    " ASaaSHUFFLE PRODUCTaaEQUALS SIGN AND SLANTED PARALLEL*a WITH TILDE ABOVEaaIDENTICAL TO AND SLANTED PARALLEL",
    "aaGLEICH STARKaaTHERMODYNAMICaaDOWN-POINTING TRIANGLE WITH LEFT HALF BLACK%mRIGHaaBLACK DIAMOND WITH DOWN AR",
    "ROWgaLOZENGEaaWHITE CIRCLE WITH DOWN ARROWaxBLACKaaERROR-BARRED WHITE SQUAREnhBLACKnaWHITE DIAMONDniBLACKnaW",
    "HITE CIRCLEnhBLACKaaRULE-DELAYEDbaEVERSE SOLIDUS OPERATORabSOLIDUS WITH OVERBAaaREVERSE SOLIDUS WITH HORIZON",
    "TAL STROKEaaBIG SOLIDUSehREVERSE acDOUBLE PLahTRIPaaLEFT-POINTING CURVED ANGLE BRACKETa)RIGHaaTINYadMaaN-ARY",
    " CIRCLED DOT OPERATORojPLUSokTIMEgaUNION OPERATOR WITH DOT!aPLUSgaSQUARE INTERSECTION OPERATORnmUNajTWO LOGI",
    "CAL ANDmjORajN-ARY TIMESaaMODULO TWO SUMaaSUMMATION WITH INTEGRALaaQUADRUPLE INTEGRAL OPERATORaaFINITE PART ",
    "INTEGRALaaINTEGRAL WITH DOUBLE STROKEjaAVERAGE WITH SLASHaaCIRCULATION FUNCTIONaeANTICLOCKWISE INTEGRAaaLINE",
    " INTEGRATION WITH RECTANGULAR PATH AROUND POLEwvSEMICIRCrfNOT INCLUDING THEaaINTEGRAL AROUND A POINT OPERATO",
    "RajQUATERNION INTEGRALaaINTEGRAL WITH LEFTWARDS ARROW WITH HOOKoaTIMES SIGNobINTERSECTIOodUNoaOVERBARofUNDaa",
    "JOINaaLARGE LEFT TRIANGLE OPERATORaaZ NOTATION SCHEMA COMPOSITIONsaPIPINGtaROJECTIONaaPLUS SIGN WITH SMALL C",
    "IRCLE ABOVEpgCIRCUMFLEX ACCENTpgTILDEpaDOT BELOWpgTILDEpaSUBSCRIPT TWOpaBLACK TRIANGLEabMINUS SIGN WITH COMM",
    "A ABOVqaDOT BELOWqaFALLING DOTSqiRISaaPLUS SIGN IN LEFT HALF CIRCLEnnRIGHaaVECTOR OR CROSS PRODUCTaaMULTIPLI",
    "CATION SIGN WITH DOT ABOVEzaUNDERBARaaSEMIDIRECT PRODUCT WITH BOTTOM CLOSEDbaMASH PRODUCTaaMULTIPLICATION SI",
    "GN IN LEFT HALF CIRCLExnRIGHaaCIRCLED MULTIPLICATION SIGN WITH CIRCUMFLEX ACCENTaaMULTIPLICATION SIGN IN DOU",
    "BLE CIRCLEaaCIRCLED DIVISION SIGNaaPLUS SIGN IN TRIANGLEatMINbrULTIPLICATIONaaINTERIOR PRODUCTaqRIGHTHAND aa",
    "Z NOTATION RELATIONAL COMPOSITIONaaAMALGAMATION OR COPRODUCTabINTERSECTION WITH DOaaUNION WITH MINUS SIGNlaO",
    "VERBARaqINTERSECTsaLOGICAL ANDaaUNION WITH LOGICAL ORgaABOVE INTERSECTIONadINTERSECTION ABOVE UNadUNION ABOV",
    "E BAR ABOVE INTERSECTadINTERSECTION ABOVE BAR ABOVE UNagUNION BESIDE AND JOINED WITHadINTERSECTION BESIDE AN",
    "D JOINED WITH INTERSECTaaCLOSED UNION WITH SERIFShpINTERSECTaaDOUBLE SQUARE INTERSECTIONodUNaaCLOSED UNION W",
    "ITH SERIFS AND SMASH PRODUCTaaLOGICAL AND WITH DOT ABOVEipORaaDOUBLE LOGICAL ANDpaORaaTWO INTERSECTING LOGIC",
    "AL ANDzaORadSLOPING LARGEoaANDaeLOGICAL OR OVERLAPPING LOGICALiaAND WITH MIDDLE STEMirORiaAND WITH HORIZONTA",
    "L DASHivORiaAND WITH DOUBLE OVERBARrfUNDriDOUBLE ajSMALL VEE WITHafLOGICAL OR WITH DOUBLE OVxfUNDaaZ NOTATIO",
    "N DOMAIN ANTIRESTRICTIONlqRANGEaaEQUALS SIGN WITH DOT BELOWaaIDENTICAL WITH DOT ABOVEabTRIPLE HORIZONTAL BAR",
    " WITH DOUBLE VERTICAL STROK$sTRIPbbILDE OPERATOR WITH DOT ABOVuaRISING DOTSaaSIMILAR MINUS SIMILARaaCONGRUEN",
    "T WITH DOT ABOVEaaEQUALS WITH ASTERISKaaALMOST EQUAL TO WITH CIRCUMFLEX ACCENTbaPPROXIMATELY EQUAL OR EQUAL ",
    "TOaaEQUALS SIGN ABOVE PLUS SIGNagPLUS SIGN ABOVE EQUALaaEQUALS SIGN ABOVE TILDE OPERATORaaDOUBLE COLON EQUAL",
    "aaTWO CONSECUTIVE EQUALS SIGNSbzHREEaaEQUALS SIGN WITH TWO DOTS ABOVE AND TWO DOTS BELOWdaIVALENT WITH FOUR ",
    "DOTS ABOVEabLESS-THAN WITH CIRCLE INSIDayGREATERabLESS-THAN WITH QUESTION MARK ABOVa(GREATERaaLESS-THAN OR S",
    "LANTED EQUAL TOazGREATERaaLESS-THAN OR SLANTED EQUAL TO WITH DOT INSIDEa?GREATERabLESS-THAN OR SLANTED EQUAL",
    " TO WITH DOT ABOVa>GREATERaaLESS-THAN OR SLANTED EQUAL TO WITH DOT ABOVE RIGHTabGREATER-THAN OR SLANTED EQUA",
    "L TO WITH DOT ABOVE LEFaaLESS-THAN OR APPROXIMATEauGREATERaaLESS-THAN AND SINGLE-LINE NOT EQUAL TOa,GREATERa",
    "aLESS-THAN AND NOT APPROXIMATEazGREATERaaLESS-THAN ABOVE DOUBLE-LINE EQUAL ABOVE GREATER-THANafGREATER-THAN ",
    "ABOVE DOUBLE-LINE EQUAL ABOVE LESSaaLESS-THAN ABOVE SIMILAR OR EQUALa%GREATERaaLESS-THAN ABOVE SIMILAR ABOVE",
    " GREATER-THANafGREATER-THAN ABOVE SIMILAR ABOVE LESSaaLESS-THAN ABOVE GREATER-THAN ABOVE DOUBLE-LINE EQUALa&",
    "GREATER-THAN ABOVE LESSagLESS-THAN ABOVE SLANTED EQUAL ABOVE GREATER-THAN ABOVE SLANTEDazGREATER-THAN ABOVE ",
    "SLANTED EQUAL ABOVE LESSaaSLANTED EQUAL TO OR LESS-THANufGREATERuaLESS-THAN WITH DOT INSIDEuvGREATERaaDOUBLE",
    "-LINE EQUAL TO OR LESS-THANyfGREATERmfSLANTED EQUAL TO OR LESS*fGREATERafSIMILAR OR LESSlfGREATERibABOVE LES",
    "S-THAN ABOVE EQUALS SIGoxGREATERabDOUBLE NESTED LESS-THAofGREATERoaLESS-THAN WITH UNDERBARaaGREATER-THAN OVE",
    "RLAPPING LESS-THANnkBESIDEaaLESS-THAN CLOSED BY CURVEavGREATERaaLESS-THAN CLOSED BY CURVE ABOVE SLANTED EQUA",
    "La?GREATERaaSMALLER THANahLARGaaSMALLER THAN OR EQUAL TOatLARGaaEQUALS SIGN WITH BUMPY ABOVEaaPRECEDES ABOVE",
    " SINGLE-LINE EQUALS SIGNa)SUCCEEDaaPRECEDES ABOVE SINGLE-LINE NOT EQUAL TOa*SUCCEEDaaPRECEDES ABOVE EQUALS S",
    "IGNatSUCCEEDaaPRECEDES ABOVE NOT EQUAL TOauSUCCEEDakPRECEDES ABOVE ALMOSaxSUCCEEDaqPRECEDES ABOVE NOTa$SUCCE",
    "EDaaDOUBLE PRECEDEShbSUCCEEDaaSUBSET WITH DOTcmPERcaBSET WITH PLUS SIGN BELOWcyPERclBSET WITH MULTIPLICATION",
    "c,PERcaBSET OF OR EQUAL TO WITH DOT ABOVEc+PERcaBSET OF ABOVE EQUALS SIGNcyPERcaBSET OF ABOVE TILDE OPERATOR",
    "c$PERcaBSET OF ABOVE ALMOST EQUAL TOc%PERckBSET OF ABOVE NOczPERbaQUARE LEFT OPEN BOX OPERATORhtRIGHaaCLOSED",
    " SUBSETjdPERjaBSET OR EQUAL TOjpPERaaSUBSET ABOVE SUPERSETcdPERSET ABOVE SUBcqBcdPERSET ABOVE SUPERjdBESIDE ",
    "SUBqgAND JOINED BY DASH WITH aaELEMENT OF OPENING DOWNWARDSaaPITCHFORK WITH TEE TOPaaTRANSVERSAL INTERSECTIO",
    "NaaFORKINGahNONaaSHORT LEFT TACKgfDOWNgfUPaaPERPENDICULAR WITH SaaVERTICAL BAR TRIPLE RIGHT TURNSTILEalDOUBL",
    "E VERTICAL BAR LEFapVERTICAL BAR DOUBLEa,DOUBLE aaLONG DASH FROM LEFT MEMBER OF DOUBLE VERTICALaaSHORT DOWN ",
    "TACK WITH OVERBARgfUP TACK WITH UNDoaABOVE SHORT DOWN TACKakDOUBLEhfUPhaSTROKE NOT SIGNawREVERSED aaDOES NOT",
    " DIVIDE WITH REVERSED NEGATION SLASHaaVERTICAL LINE WITH CIRCLE ABOVE!aBELOWasDOWN TACKaaPARALLEL WITH HORIZ",
    "ONTAL STROKEoaTILDE OPERATORaaTRIPLE VERTICAL BAR BINARY RELATIONuaWITH HORIZONTAL STROKEhaCOLON OPERATORhaN",
    "ESTED LESS-THANofGREATERaaDOUBLE-LINE SLANTED LESS-THAN OR EQUAL TOurGREATERaaTRIPLE SOLIDUS BINARY RELATION",
    "aaLARGE TRIPLE VERTICAL BAR OPERATORajDOUBLE SOLIDUSabWHITE VERTICAL BAasN-ARY baORTH EAST WHITE ARROWgoWEao",
    "SOUTH EAgoWEanLEFT RIGHegWARDS BLACKarUParDOWNamNORTH EASTgoWEaoSOUTH EAgoWEanLEFT RIGHamUP DOWNaaRIGHTWARDS",
    " ARROW WITH TIP DOWNWARDS!fUPafLEFTWARDS ARROW WITH TIP DOWNzfUPaaSQUARE WITH TOP HALF BLACKmlBOTTOMmlUPPER ",
    "RIGHT DIAGONALmvLOWER LEFalDIAMOND WITH LEFTnmRIGHnlTOPnlBOTTOMbaOTTED SQUAREahBLACK LARGEanWHITEahBLACK VER",
    "Y SMALLasWHITEaaBLACK PENTAGONajWHITEgeHEXaiBLACKanHORIZONTAL aaBLACK LARGE CIRCLEgaMEDIUM DIAMONDapWHITEaaB",
    "LACK MEDIUM LOZENGEapWHITEaaBLACK SMALL DIAMONDmaLOZENGEaoWHITEabBLACK HORIZONTAL ELLIPSatWHITEakBLACK VERTI",
    "CarWHITEabLEFT ARROW WITH SMALL CIRCLaaTHREE LEFTWARDS ARROWSabLEFT ARROW WITH CIRCLED PLUbaONG LEFTWARDS SQ",
    "UIGGLE ARROWbaEFTWARDS TWO-HEADED ARROW WITH VERTICAL STROKE*pDOUBLE $aFROM BARvaTRIPLE DASH ARROWkaARROW WI",
    "TH DOTTED STEMvaTAIL WITH VERTICAL STROKE)pDOUBLE kaTWO-HEADED ARROW WITH TAIL:a WITH VERTICAL STROKE^pDOUBL",
    "E kaARROW THROUGH XaaWAVE ARROW POINTING DIRECTLY LEFTaaEQUALS SIGN ABOVE LEFTWARDS ARROWawREVERSE TILDE OPE",
    "RATORaaLEFTWARDS ARROW ABOVE REVERSE ALMOST EQUAL TOaaRIGHTWARDS ARROW THROUGH GREATER-THANzaSUPERSETaaLEFTW",
    "ARDS QUADRUPLE ARROWawRIGHbgEVERSE TILDE OPERATOR ABOVE RIGHTWARDSbaIGHTWARDS ARROW ABOVE REVERSE ALMOST EQU",
    "AL TOaaTILDE OPERATOR ABOVE LEFTWARDS ARROWaaLEFTWARDS ARROW ABOVE ALMOST EQUAL TOwaREVERSE TILDE OPERATORa?",
    "RIGHaaDOWNWARDS TRIANGLE-HEADED ZIGZAG ARROWagSHORT SLANTED NORTHgiBACKSLANTED SOUaaWHITE MEDIUM STARafBLACK",
    " SMALLalWHITEaaBLACK RIGHT-POINTING PENTAGONayWHITEaaHEAVY LARGE CIRCLEgbOVAL WITH OVAL INSIDghCIRCLE WITH C",
    "IRCLEmamaD SALTIREaaSLANTED NORTH ARROW WITH HOOKED HEADaaBACKSLANTED SOUTH ARROW WITH HOOKED TAILafSLANTED ",
    "NORTH ARROW WITH HORIZONTALa&BACKSLANTED SOUbaENT ARROW POINTING DOWNWARDS THEN NORTH EASTa~SHORT aaLEFTWARD",
    "S TRIANGLE-HEADED ARROWa$UPa$RIGHTa$DOWNawLEFT RIGHTawUP DOWNawNORTH WESTgyEAa&SOUgyWEaiLEFTWARDS TRIANGLE-H",
    "EADED DASHa,UPa,RIGHTa,DOWNagCLOCKWISE TRIANGLE-HEADED OPEN CIRCLEa_ANTIaaLEFTWARDS TRIANGLE-HEADED ARROW TO",
    " BARa,UPa,RIGHTa,DOWNa&NORTH WESTg)EAa:SOUg)WEaaLEFTWARDS TRIANGLE-HEADED ARROW WITH DOUBLE HORIZONTAL STROK",
    "Ea~UPWARDS TRIANGa~RIGHTWARDS TRIANGa~DOWNWARDS TRIANGaaHORIZONTAL TAB KEYakVERTICaaLEFTWARDS TRIANGLE-HEADE",
    "D ARROW OVER RIGHTWARDS TRIANGLE-HEADED ARROWa$UPWARDS TRIANGLE-HEADED ARROW LEFTWARDS OF DOWNa$RIGHTWARDS T",
    "RIANGLE-HEADED ARROW OVER LEFTa$DOWNWARDS TRIANGLE-HEADED ARROW LEFTWARDS OF UPaaLEFTWARDS TRIANGLE-HEADED P",
    "AIRED ARROWSa.UPa.RIGHTa.DOWNaaLEFTWARDS BLACK CIRCLED WHITE ARROWa)UPa)RIGHTa)DOWNagANTICLOCKWISE TRIANGLE-",
    "HEADED RIGHT U-SHAPED(pBOTTOM(pLEFT(pTOPaaRETURN LEFThbRIGHabNEWLINE LEFibRIGHaaFOUR CORNER ARROWS CIRCLING ",
    "ANTICLOCKWISEaaRIGHTWARDS BLACK ARROWaaSYMBOL FOR TYPE A ELECTRONICSaaTHREE-D TOP-LIGHTED LEFTWARDS EQUILATE",
    "RAL ARROWHEADi$RIGHT-LIGHTED UPi$TOP-LIGHTED RIGHTi$LEFT-LIGHTED DOWNa$BLACK LEFTg$UPg$RIGHTg$DOWNaaDOWNWARD",
    "S TRIANGLE-HEADED ARROW WITH LONG TIP LEFTWARDS~g RIGHagUPWARDS TRIANGLE-HEADED ARROW WITH LONG TIP LEF|gRIG",
    "HafLEFTWARDS TRIANGLE-HEADED ARROW WITH LONG TIP UPa~RIGHTWARDafLEFTWARDS TRIANGLE-HEADED ARROW WITH LONG TI",
    "P DOWNa~RIGHTWARDS aaBLACK CURVED DOWNWARDS AND LEFTWARDS ARROW$mRIGHnmUPWARDS AND LEFzmRIGHnlLEFTWARDS AND ",
    "UPnyRIGHnlLEFTWARDS AND DOWNn!RIGHaaRIBBON ARROW DOWN LEFTsbRIGHnbUP LEFqbRIGHnaLEFT UPneRIGHnaLEFT DOWNngRI",
    "GHaaUPWARDS WHITE ARROW FROM BAR WITH HORIZONTAL BARca ARROWHEAD IN A RECTANGLE BOXaaOVERLAPPING WHITE SQUAR",
    "ESshAND BLACK mnaaBALLOT BOX WITH LIGHT XacCIRCLEDibBOLD aaBLACK SQUARE CENTREDgiDIAMONDaaTURNED BLACK PENTA",
    "GONafHORIZONTAL BLACK OCangaMEDIUM UP-POINTING TRIANGLE CENTREDn!DOWNn!LEFTn$RIGHaaNEPTUNE FORM TWOaaTOP HAL",
    "F BLACK CIRCLEasBOTTOMaaLIGHT FOUR POINTED BLACK CUSPa&ROTATED afWHITE FOUR POINTEDaxROTATED aaSQUARE POSITI",
    "ON INDICATORaaUNCERTAINTY SIGNaaGROUP MARKaaPLUTO FORM TWOmaHREElaFOURmaIVEaaTRANSPLUTOaaPROSERPINAabASTRAEa",
    "cHYGIaaPHOLUSacNESSaaWHITE MOON SELENAaaBLACK DIAMOND ON CROSSaaTRUE LIGHT MOON ARTAaaCUPIDOaaHADESabZEUabKR",
    "ONOaaAPOLLONbaDMETOSabVULCANUaaPOSEIDONaaLEFT HALF BLACK STARarRIGHaaSTAR WITH LEFT HALF BLACKkmRIGHaaLEFTWA",
    "RDS TWO-HEADED ARROW WITH TRIANGLE ARROWHEADSa~UPWAa~RIGHTWAa~DOWNWAaaERIS FORM ONEkaTWOaaSEDNAaaRUSSIAN AST",
    "ROLOGICAL SYMBOL VIGINTILE%dNOV%dQUINT%dBINOV%aSENTAGON%aTREDECILEaaEQUALS SIGN WITH INFINITY BELOWaaUNITED ",
    "SYMBOLakSEPARAajDOUBLajPASSaaREVERSED RIGHT ANGLEaaHELLSCHREIBER PAUSE SYMBOLaaGLAGOLITIC CAPITAL LETTER AZU",
    "!aBUKY!aVEDE!aGLAGOLI!aDOBRO!aYESTU!aZHIVETE!aDZELO!aZEMLJA!aIZHE$dNITIAL I$a!bDJERV!aKAKO!aLJUDIJE!bMYSLIT!",
    "aNASHI!aONU!aPOKOJI!bRITS!aSLOVO!bTVRID!aUKU!bFRIT!bHER!bOT!aPE!aSHTA!aTSI!bCHRIV!aSHA!aYERU&aI$bAT!aSPIDERY",
    " HA!aYU!aSMALL YUS.a WITH TAIL!aYO!aIOTATED SMALL YUS!eBIG!hIOTATED !aFITA!bIZHITS!aSHTAPIC!aTROKUTASTI A!aL",
    "ATINATE MYSLITE!aCAUDATE CHRIVIlaSMALL LETTER AZUyaBUKYyaVEDEyaGLAGOLIyaDOBROyaYESTUyaZHIVETEyaDZELOyaZEMLJA",
    "yaIZHEzdNITIAL IzaybDJERVyaKAKOyaLJUDIJEybMYSLITyaNASHIyaONUyaPOKOJIybRITSyaSLOVOybTVRIDyaUKUybFRITybHERybOT",
    "yaPEyaSHTAyaTSIybCHRIVyaSHAyaYERU$aIzbATyaSPIDERY HAyaYUyaSMALL YUS+a WITH TAILyaYOyaIOTATED SMALL YUSyeBIGy",
    "hIOTATED yaFITAybIZHITSyaSHTAPICyaTROKUTASTI AyaLATINATE MYSLITEyaCAUDATE CHRIVIaaLATIN CAPITAL LETTER L WIT",
    "H DOUBLE BARg!SMALgaCAPITAL LETTER L WITH MIDDLE TILDEvbP WITH STROKvaR WITH TAILgaSMALL LETTER A WITH STROK",
    "EthT WITH DIAGONALgaCAPITAL LETTER H WITH DESCENDERgzSMALgpCAPITAL LETTER KgzSMALgpCAPITAL LETTER ZgzSMALgaC",
    "APITAL LETTER ALPHAvaM WITH HOOKvaTURNED A&aLPHAgaSMALL LETTER V WITH RIGHT HOOKgfCAPITAL LETTER W WITHguSMA",
    "LtaV WITH CURLgaCAPITAL LETTER HALF HgpSMALtaTAILLESS PHItaE WITH NOTCHtaTURNED R WITH TAILtaO WITH LOW RING",
    " INSIDEgbLETTER SMALL CAPITAL TURNED gaSUBSCRIPT SMALL LETTER JaaMODIFIER LETTER CAPITAL VaaLATIN CAPITAL LE",
    "TTER S WITH SWASH TAILvqZaaCOPTIC CAPITAL LETTER ALFAhnSMALhbCAPITAL LETTER VIDhnSMALhbCAPITAL LETTER GAMMho",
    "SMALhbCAPITAL LETTER DALDhoSMALhaCAPITAL LETTER EIEhmSMALhaCAPITAL LETTER SOUhmSMALhaCAPITAL LETTER ZATAhnSM",
    "ALhaCAPITAL LETTER HATEhnSMALhbCAPITAL LETTER THETHhpSMALhaCAPITAL LETTER IAUDAhoSMALhbCAPITAL LETTER KAPhnS",
    "MALhbCAPITAL LETTER LAULhoSMALhaCAPITAL LETTER MIhlSMALhbCAPITAL LETTER NhlSMALhbCAPITAL LETTER KShmSMALhaCA",
    "PITAL LETTER OhkSMALhaCAPITAL LETTER PIhlSMALhaCAPITAL LETTER ROhlSMALhaCAPITAL LETTER SIMAhnSMALhaCAPITAL L",
    "ETTER TAUhmSMALhaCAPITAL LETTER UAhlSMALhaCAPITAL LETTER FIhlSMALhbCAPITAL LETTER KHhmSMALhbCAPITAL LETTER P",
    "ShmSMALhaCAPITAL LETTER OOUhmSMALhaCAPITAL LETTER DIALECT-P ALEFhxSMALhaCAPITAL LETTER OLD COPTIC AINhxSMALh",
    "aCAPITAL LETTER CRYPTOGRAMMIC EIEh!SMALhaCAPITAL LETTER DIALECT-P KAPAhxSMALhaCAPITAL LETTER DIALECT-P NIhvS",
    "MALhdCAPITAL LETTER CRYPTOGRAMMIChzSMALhaCAPITAL LETTER OLD COPTIC OOUhxSMALhaCAPITAL LETTER SAMPIhoSMALhbCA",
    "PITAL LETTER CROSSED SHEhvSMALhfCAPITAL LETTER OLD COPTIChySMALhaCAPITAL LETTER OLD COPTIC ESHhxSMALhaCAPITA",
    "L LETTER AKHMIMIC KHEIhwSMALhbCAPITAL LETTER DIALECT-P HORhxSMALhfCAPITAL LETTER OLD COPTIChySMALhaCAPITAL L",
    "ETTER OLD COPTIC HAhwSMALhdCAPITAL LETTER L-SHAPEDhuSMALhaCAPITAL LETTER OLD COPTIC HEIhxSMALhaCAPITAL LETTE",
    "R OLD COPTIC HAThxSMALhaCAPITAL LETTER OLD COPTIC GANGIAh!SMALhbCAPITAL LETTER OLD COPTIC DJhxSMALhbCAPITAL ",
    "LETTER OLD COPTIC SHIMhzSMALhgCAPITAL LETTER OLD NUBIANhzSMALhaCAPITAL LETTER OLD NUBIAN NGIhxSMALhbCAPITAL ",
    "LETTER OLD NUBIAN NYhxSMALhaCAPITAL LETTER OLD NUBIAN WAUhxSMALiaYMBOL KAIoaMI ROoePoaSTAUROSoaTAU ROodKHIoa",
    "SHIMA SIMAhaCAPITAL LETTER CRYPTOGRAMMIC SHEIh$SMALhaCAPITAL LETTER CRYPTOGRAMMIC GANGIAh&SMALhaCOMBINING NI",
    " ABOVEraSPIRITUS ASPER!aLENISiaAPITAL LETTER BOHAIRIC KHEIhwSMALhaOLD NUBIAN FULL STOPsaDIRECT QUESTION MARK",
    "suINsaVERSE DIVIDERhaFRACTION ONE HALFiaULL STOPhaMORPHOLOGICAL DIVIDERaaGEORGIAN SMALL LETTER ANwcBwcGwbDOw",
    "bEwbVIwbZEwbTAwbIwbKAwaLASwaMANwaNARwaONwaPARwcZHwaRAEwaSANwaTARwaUNwaPHARwdKwaGHANwaQARwaSHINwdCxbAwaJILwcC",
    "xaHARwaXANwcJHwaHAExbxbIwbWwaHARxaOEwaYNwbAEaaTIFINAGH LETTER YAsaBtaHsaGtaHHqaBERBER ACADEMY YAJqdsaDtaHtaD",
    "uaHraEYraAFsaKqdTUAREG qaYAKHHsbqdBERBER ACADEMY qeTUAREGqbYAHsaAsaKHqeTUAREG qaYAQqdTUAREG qaYIraAZHqeAHAGG",
    "AR qfTUAREGqaYALsaMsaNqbTUAREG YAGzaNGqaYAPraUraARtaRsaGHqeTUAREG qfAYERqaYAStaStaHsaTtaHsbCsaTTsaVsaWsaYsaZ",
    "qdTAWELLEMET qbYAZraEraOjaMODIFIER LETTER LABIALIZATION MARKjfSEPARATORjaCONSONANT JOINERaaETHIOPIC SYLLABLE",
    " LOAscMscRscStcHscBscTscCscNtcYscGLOTTAL scZscDtcDscJscTHsdCsdPtcsbGGWvaIvaEEwasaSSAuaUuaIuaAAuaEEvauaOsaCCA",
    "uaUuaIuaAAuaEEvauaOsaZZAuaUuaIuaAAuaEEvauaOsaCCHAvaUvaIvaAAvaEEwavaOsaQYAuaUuaIuaAAuaEEvauaOsaKYAuaUuaIuaAAu",
    "aEEvauaOsaXYAuaUuaIuaAAuaEEvauaOsaGYAuaUuaIuaAAuaEEvauaOaaCOMBINING CYRILLIC LETTER BE!bV!bGH!bD!bZH$b!aKA!a",
    "EL$aM$aN!aO!aPE!aER$aS!aTE!aHA!aTSE!bCH!aSHA%bCH!bFIT!aES-TE!aA!aIE!aDJERV!aMONOGRAPH UK!aYAT$aU!aIOTIFIED A",
    "!aLITTLE YUS!eBIG!hIOTIFIED aaRIGHT ANGLE SUBSTITUTION MARKERmtDOTTED aaLEFT SUBSTITUTION BRACKETawRIGHavLEF",
    "T DOTTEDa&RIGHbaAISED INTERPOLATION MARKERhuDOTTED alDOTTED TRANSPOSIaaLEFT TRANSPOSITION BRACKETaxRIGHbaAIS",
    "ED SQUAREaaLEFT RAISED OMISSION BRACKETazRIGHaaEDITORIAL CORONISabPARAGRAPHOalFORKED asREVERSED aaHYPODIASTO",
    "LEaaDOTTED OBELOScaWNWARDS ANCORAamUPaaDOTTED RIGHT-POINTING ANGLEcaUBLE OBLIQUE HYPHENaaINVERTED INTERROBAN",
    "GaaPALM BRANCHaaHYPHEN WITH DIAERESISaaTILDE WITH RING ABOVEaaLEFT LOW PARAPHRASE BRACKETayRIGHaaTILDE WITH ",
    "DOT ABOVEpaBELOWaaLEFT VERTICAL BAR WITH QUILLazRIGHaaTOP LEFT HALF BRACKETeoRIGHaoBOTTOM LEFhoRIGHaiLEFT SI",
    "DEWAYS UauRIGHaaLEFT DOUBLE PARENTHESISauRIGHaaTWO DOTS OVER ONE DOT PUNCTUATIONamONE DOT OVER TWO DOTSamSQU",
    "ARED FOUR DOTaaFIVE DOT MARKafREVERSED QUESTIONaaVERTICAL TILDEaaRING POINTabWORD SEPARATOR MIDDLE DOaaTURNE",
    "D COMMAaaRAISED DOThaCOMMAaaTURNED SEMICOLONaaDAGGER WITH LEFT GUARDmhRIGHaaTURNED DAGGERbaOP HALF SECTION S",
    "IGNbaWO-EM DASHbiHREEaaSTENOGRAPHIC FULL STOPaaVERTICAL SIX DOTSaaWIGGLY VERTICAL LINEaaCAPITULUMaaDOUBLE HY",
    "PHENaaREVERSED COMMAaaDOUBLE LOW-REVERSED-9 QUOTATION MARKbaASH WITH LEFT UPTURNbaOUBLE SUSPENSION MARKaaINV",
    "ERTED LOW KAVYKAta WITH KAVYKA ABOVEaaLOW KAVYKAka WITH DOTaaDOUBLE STACKED COMMAcaTTED SOLIDUSaaTRIPLE DAGG",
    "ERaaMEDIEVAL COMMAaaPARAGRAPHUS MARKbhUNCTUS ELEVATaaCORNISH VERSE DIVIDERbbROSS PATTY WITH RIGHT CROSSBArkL",
    "EFaaTIRONIAN SIGN CAPITAL ETaaMEDIEVAL EXCLAMATION MARKjjQUESaaLEFT SQUARE BRACKET WITH STROKEa%RIGHahLEFT S",
    "QUARE BRACKET WITH DOUBLEa.RIGHaaTOP HALF LEFT PARENTHESISjnRIGHanBOTTOM HALF LEFmnRIGHaaOBLIQUE HYPHENaaCJK",
    " RADICAL REPEATmaCLIFFmaSECOND ONEtaTWOuaHREEmaPERSONmaBOXmaTABLEmbKNIFE ONsaTWOmaDIVINATIONmaSEALnaMALL ONE",
    "saTWOmaLAME ONEraTWOsaHREEraFOURmaSNAKEmaTHREADmaSNOUT ONEsaTWOmaHEART ONEsaTWOnaANDmaRAPmaCHOKEmaSUNmbMOOma",
    "DEATHmaMOTHERmaCIVILIANmaWATER ONEsaTWOmaFIREmbPAW ONqaTWOmaSIMPLIFIED HALF TREE TRUNKmaCOWmaDOGmaJADEmaBOLT",
    " OF CLOTHmaEYEmbSPIRIT ONtaTWOmbBAMBOmaSILKmeC-SIMPLIFIED maNET ONEqaTWOraHREEqaFOURmaMESHmaSHEEPmaRAMmaEWEm",
    "aOLDmaBRUSH ONEsaTWOmaMEATnaORTARmaGRASS ONEsaTWOtaHREEmaTIGERmaCLOTHESmaWEST ONEraTWOmaC-SIMPLIFIED SEEmaSI",
    "MPLIFIED HORNmemaC-SIMPLIFIED SPEECH!aHELLmaFOOTmbC-SIMPLIFIED CARmaSIMPLIFIED WALKmaWALK ONEraTWOmaCITYna-S",
    "IMPLIFIED GOLDmaLONG ONEraTWOmaC-SIMPLIFIED LONGzaGATEmbMOUND ONsaTWOmaRAINmaBLUEmaC-SIMPLIFIED TANNED LEATH",
    "ERzaLEAFzaWINDzaFLYmaEAT ONEqaTWOraHREEmaC-SIMPLIFIED EATmaHEADmaC-SIMPLIFIED HORSEmbBONmaGHOSTmaC-SIMPLIFIE",
    "D FISHzaBIRDzaSALTmbSIMPLIFIED WHEAxaYELLOWmaC-SIMPLIFIED FROGmaJ-SIMPLIFIED EVENmqCmaJ-SIMPLIFIED TOOTHmrCm",
    "aJ-SIMPLIFIED DRAGONmsCmaTURTLEmgJ-SIMPLIFIED msCabKANGXI RADICAL ONpcLIpaDOTpaSLASHqaECONDpaHOOKpaTWOpaLIDp",
    "aMANpaLEGSpaENTERqaIGHTpaDOWN BOXpaCOVERpaICEpbTABLpaOPEN BOXpaKNIFEpaPOWERpaWRAPpaSPOONpaRIGHT OPEN BOXpaHI",
    "DING ENCLOSUREpaTENpbDIVINATIOpaSEALpaCLIFFpaPRIVATEpaAGAINpaMOUTHpaENCLOSUREqaARTHpaSCHOLARpaGOra SLOWLYpaE",
    "VENINGpbBIpaWOMANpaCHILDpaROOFpaINCHpaSMALLpaLAMEpbCORPSpaSPROUTpaMOUNTAINpaRIVERpaWORKpaONESELFpaTURBANpaDR",
    "YpaSHORT THREADpaDOTTED CLIFFpaLONG STRIDEpaTWO HANDSpaSHOOTpaBOWpaSNOUTpaBRISTLEpaSTEPpaHEARTqaALBERDpaDOOR",
    "paHANDpaBRANCHpaRAPpaSCRIPTpaDIPPERpaAXEpbSQUARpaNOTpaSUNqaAYpaMOONpaTREEpaLACKpaSTOPpaDEATHpaWEAPONpaDO NOT",
    "paCOMPAREpaFURpaCLANpaSTEAMpaWATERpaFIREpaCLAWpaFATHERpaDOUBLE XpaHALF TREE TRUNKpaSLICEpaFANGpaCOWpaDOGpaPR",
    "OFOUNDpaJADEpaMELONpaTILEpaSWEETpaLIFEpbUSpaFIELDpaBOLT OF CLOTHpaSICKNESSpaDOTTED TENTpaWHITEpaSKINpaDISHpa",
    "EYEpaSPEARpaARROWpaSTONEqaPIRITpaTRACKpaGRAINpaCAVEpaSTANDpaBAMBOOpaRICEpaSILKpaJARpaNETpaSHEEPpaFEATHERpaOL",
    "DpbANpaPLOWpaEARpaBRUSHpaMEATqaINISTERpaSELFpaARRIVEpaMORTARpaTONGUEpbOPPOSpaBOATpaSTOPPINGpaCOLORpaGRASSpaT",
    "IGERpaINSECTpaBLOODpaWALK ENCLOSUREpaCLOTHESpaWESTpaSEEpaHORNpaSPEECHpaVALLEYpaBEANpaPIGpaBADGERpaSHELLpaRED",
    "qaUNpaFOOTpaBODYpaCARTpaBITTERpaMORNINGpaWALKpaCITYpaWINEpaDISTINGUISHpaVILLAGEpaGOLDpaLONGpaGATEpaMOUNDpaSL",
    "AVEqaHORT TAILED BIRDpaRAINpaBLUEpaWRONGpaFACEpaLEATHERphTANNED paLEEKpaSOUNDpaLEAFpaWINDpaFLYpaEATpaHEADpaF",
    "RAGRANTpaHORSEpbBONpaTALLpaHAIRpaFIGHTpaSACRIFICIAL WINEpaCAULDRONpaGHOSTpaFISHpaBIRDpaSALTpaDEERpaWHEATpaHE",
    "MPpaYELLOWpaMILLETpaBLACKpaEMBROIDERYpaFROGpaTRIPODpaDRUMpaRATpaNOSEpaEVENpaTOOTHpaDRAGONpaTURTLEpbFLUTaaIDE",
    "OGRAPHIC DESCRIPTION CHARACTER LEFT TO RIGHT,aABOVE TO BELOW,aLEFT TO MIDDLE AND RIGHT,aABOVE TO MIDDLE AND ",
    "BELOW,aFULL SURROUND,aSURROUND FROM ABOVE~aOM BELOW~aOM LEFT~fOM UPPER~bOM UPPER RIGH~bOM LOWER LEF,aOVERLAI",
    "D"]⟩

end StateMachine.Text
