import StateMachine.Text.Name.Table

/-!
# Names of characters: music, mathematics and sign writing

The code points from 1D000 to 1DFFF.
-/

namespace StateMachine.Text

/-- The names of these characters. -/
def notationNames : NameTable :=
  ⟨
   [(0x1d000, 0x1d0f5), (0x1d100, 0x1d126), (0x1d129, 0x1d1ea), (0x1d200, 0x1d245), (0x1d2e0, 0x1d2f3),
    (0x1d300, 0x1d356), (0x1d360, 0x1d378), (0x1d400, 0x1d454), (0x1d456, 0x1d49c), (0x1d49e, 0x1d49f),
    (0x1d4a2, 0x1d4a2), (0x1d4a5, 0x1d4a6), (0x1d4a9, 0x1d4ac), (0x1d4ae, 0x1d4b9), (0x1d4bb, 0x1d4bb),
    (0x1d4bd, 0x1d4c3), (0x1d4c5, 0x1d505), (0x1d507, 0x1d50a), (0x1d50d, 0x1d514), (0x1d516, 0x1d51c),
    (0x1d51e, 0x1d539), (0x1d53b, 0x1d53e), (0x1d540, 0x1d544), (0x1d546, 0x1d546), (0x1d54a, 0x1d550),
    (0x1d552, 0x1d6a5), (0x1d6a8, 0x1d7cb), (0x1d7ce, 0x1da8b), (0x1da9b, 0x1da9f), (0x1daa1, 0x1daaf),
    (0x1df00, 0x1df1e)],
   ["aaBYZANTINE MUSICAL SYMBOL PSILIzaDASEIAzaPERISPOMENIzaOXEIA EKFONITIKON)aDIPLIzaVAREIA EKFONITIKON*aDIPLIzb",
    "KATHISTzbSYRMATIKzePARAKLIzaYPOKRISIS,a DIPLIzbKREMASTzaAPESO EKFONITIKONznEXzaTELEIAzbKENTIMATzaAPOSTROFOS.",
    "a DIPLIzaSYNEVMAzbTHITzaOLIGON ARCHAIONzmGORzcPSILzeCHAMzaVATHYzaISON ARCHAIONzjKENTIMA*jTAzaSAXIMATAzaPARIC",
    "HONzaSTAVROS APODEXIAzaOXEIAI ARCHAIONznVARzjAPODERMA%aTHEMAzcKLASzcREVzaPIASMA ARCHAIONzaTINAGMAzcANATRICHI",
    "SzeSE!aYNAGMA ARCHAION+aMETA STAVROUzaOYRANISMA ARCHAIONzaTHEMAzaLEMOIzaDYOzaTRIA!bESSERzbKRATIMATzaAPESO EX",
    "O NEOzaFTHORA ARCHAIONzaIMIFTHORAzaTROMIKON ARCHAIONzcKATAVA TROMIKzcPELAST!eSIFIzaKONTEVMAzaCHOREVMA ARCHAI",
    "ONzaRAPISMAzaPARAKALESMA ARCHAION(jLITIKIzbICHADIzaNANAzbPETASMzaKONTEVMA ALLOzfTROMIKONzaSTRAGGISMATAzgGRON",
    "THzaISON NEOzgOLIG!eXEIAzaPETASTIzaKOUFISMAziPETASTOzjKRATIMzaPELASTON NEOzbKENTIMATA NEO AN*izaYPSILIzaAPOS",
    "TROFOS NEO,fI SYNDESMOzaYPORROIzaKRATIMOYPORROONzcELAFRzaCHAMILIzaMIKRON ISONzaVAREIA NEOzfPIASM!eSIFISTONza",
    "OMALONzaANTIKENOMAzcLYGISzaPARAKLITIKI NEO(eALESMAzaETERON PARAKALESMAzdKYLIzhANTIKENOzaTROMIKON NEOzaEKSTRE",
    "PTONzaSYNAGMA NEO$aRMAzaCHOREVMA NEOzaEPEGERMAzaSEISMA NEOzaXIRON KLASMAzaTROMIKOPSIFISTONzaPSIFISTOLYGISMAz",
    "iTROMIK*dPARAKALEzmPSIFISTzcTROMIKOSYNAGziPSIFISTzaGORGOSYNTHETONzmAznETERON zaOYRANISMA NEOzbTHEMATISMOS ES",
    "<bX(a APLOUN%aS KAI APOTHESzaKATAVASMAzaENDOFONONzaYFEN KATO(bANzaSTAVROSzaKLASMA ANOzaDIPLI ARCHAIONzjKRATI",
    "MA,aLLO+bNEzgAPODER$aLIzdDIzeTR!dETRAzaKORONISzaLEIMMA ENOS CHRONOU*aDYO CHRONON*iTRION+kESSAR*aIMISEOS CHRO",
    "NOUzaGORGON NEO ANO*aPARESTIGMENON ARISTERA~b DEXIzaDIGORGON+a PARESTIGMENON ARISTERA KATO~bON ARISTERA AN~a",
    "ON DEXIAzaTRIGORGONzeAzfIMIDIzhzaAGOGI POLI ARGI)bARGOTER,b)aMETRIA+aSI)bGORG.bOTER)bPOLI GORGzaMARTYRIA PRO",
    "TOS ICHOS,mALLI ,iDEYTER,oALLI ,iTRIT;bFONIA.bETARTOS ICHO_fLEGETOS ,n,iPLAGIzcISAKIA TELOUS ICHIMATzrAPOSTR",
    "OFOIzbFANEROSIS TETRAFONIA.gMONO.gDIzbMARTYRIA VARYS ICHO,lPROTO.hLAGIOS TETARTOzaGORTHMIKON N APLOUN<fDIzaE",
    "NARXIS KAI FTHORA VOUzaIMIFONON&cTHORzaFTHORA ARCHAION DEYTEROU ICHOU*aDIATONIKI PA^bNAN*aNAOS ICHOS*aDIATON",
    "IKI DI*dSKLIRON DIATONON*aDIATONIKI KE^aZO^bNI KAT~bAN*aMALAKON CHROMA DIFONIAS~gA MONO!bHTORA SKLIRON CHROM",
    "A VASI!aTHORA SKLIRON CHROMA SYNAFI*aNENANOzaCHROA ZYGOS)aKLITON)aSPATHIzaFTHORA I YFESIS TETARTIMORION*aENA",
    "RMONIOS ANTIFONIAzaYFESIS TRITIMORIONzqDI+iETAR*aAPLI DYO DODEKATA*jMONOGRAMMOS TESSERA*jDIGRAMMOS EX*jTRIGR",
    "AMMOS OKTOzkYFESIS APLI DY*jMONOGRAMMOS TESSERA*jDIGRAMMOS EX*jTRIGRAMMOS OKTOzaGENIKI DIESIS*eYFzaDIASTOLI ",
    "APLI MIKRI>bEGAL,cDIP,aTHESEOSziSIMANSIS?a DISIMOU^gTR_fETRA,aARSEOS>a DISIMOU?gTR^fETRAzaDIGRAMMA GG$aFTOGG",
    "OS OUzaSTIGMAzbARKTIKO P+aVOU+aGA+aDI+aKE+aZO+aNIzaKENTIMATA NEO MESO*j*bTA NEO KAT*j!fLASMAzfGORGON NEOaaMU",
    "SICAL SYMBOL SINGLE BARLINEpkDOUBpiFINALpnREVERSE piDASHEDpiSHORTpaLEFT REPEAT SIGNpnRIGHqaEPEAT DOTSpaDAL S",
    "EGNOrb CAPpbSEGNpaCODApaREPEATED FIGURE-1)a2)a3paFERMATAwa BELOWpaBREATH MARKpaCAESURApaBRACEtaKETpaONE-LINE",
    " STAFFplTWOqlHREEplFOURqlIVEplSIXtaSTRING FRETBOARDprFOURpaG CLEFva OTTAVA ALTA&bBASSpaC CLEFpfFva OTTAVA AL",
    "TA&bBASSpaDRUM CLEF-1za2paMULTIPLE MEASURE RESTpaDOUBLE SHARPwaFLATpaFLAT UPuaDOWNpaNATURAL UPxaDOWNpaSHARP ",
    "UPvaDOWNpaQUARTER TONE SHARP%aFLATpaCOMMON TIMEqfUTpaOTTAVA ALTAwbBASSpbQUINDICESIMA ALT%bBASSpaMULTI RESTpf",
    "WHOLEpfHALFpfQUARTERpfEIGHTHphSIXTEENpfTHIRTY-SECONDpfSIXTY-FOURTHphONE HUNDRED TWENTY-EIGHpaX NOTEHEADpjPLU",
    "SpjCIRCLE XpaSQUARE NOTEHEAD WHITE)aBLACKpaTRIANGLE NOTEHEAD UP WHITE:aBLACK+aLEFT WHITE<aBLACK+aRIGHT WHITE",
    "=aBLACK+aDOWN WHITE<aBLACK+aUP RIGHT WHITE^aBLACKpaMOON NOTEHEAD WHITE&aBLACKpaTRIANGLE-ROUND NOTEHEAD DOWN ",
    "WHITE|aBLACKpaPARENTHESIS NOTEHEADpjVOIDpaNOTEHEAD BLACKqaULL NOTEHEADpaCLUSTER NOTEHEAD WHITE*aBLACKpaBREVE",
    "pbWHOLE NOTpfHALFpfQUARTERpfEIGHTHphSIXTEENpfTHIRTY-SECONDpfSIXTY-FOURTHphONE HUNDRED TWENTY-EIGHpaCOMBINING",
    " STEM!dPRECHGESANG SzaTREMOLO-1+a2+a3paFINGERED TREMOLO-1*a2*a3paCOMBINING AUGMENTATION DOTzaFLAG-1(a2(a3(a4",
    "(a5paBEGIN BEAMpfENDpaBEGIN TIEpeENDpaBEGIN SLURpfENDpaBEGIN PHRASEphENDpaCOMBINING ACCENTzaSTACCATOzcTENUzb",
    "STACCATISSIMzbMARCAT*a-STACCATOzjACCENTzaLOUREpaARPEGGIATO UP!aDOWNpaCOMBINING DOITzaRIPzcFLzaSMEARzaBENDzaD",
    "OUBLE TONGUEzjTRIPpaRINFORZANDOpbSUBITpaZpaPIANOpbMEZZpaFORTEpaCRESCENDOpjDEpaGRACE NOTE SLASH!fNO paTRqaURN",
    "peINVERTED paTURN SLASHuaUPpaORNAMENT STROKE-1)a2)a3)a4)a5)a6)a7)a8)a9)a10*a1paHAUPTSTIMMEpgNEBENpgEND OF pa",
    "DEGREE SLASHpaCOMBINING DOWN BOWzeUPzaHARMONICzaSNAP PIZZICATOpaPEDAL MARKveUP pfHALF PEDALpaGLISSANDO UPzaD",
    "OWNpaWITH FINGERNAILSpaDAMPta ALLpaMAXIMApbLONGpaBREVISpaSEMIBREVIS WHITE!aBLACKpaMINIMAva BLACKpaSEMIMINIMA",
    " WHITE!aBLACKpaFUSA WHITEuaBLACKpaLONGA PERFECTA RESTvnIMpfBREVISplSEMIpfMINIMAplSEMIpaTEMPUS PERFECTUM CUM ",
    "PROLATIONE PERFECTA~iE IM~aE PERFECTA DIMINUTION-1waIMPERFECTUM CUM PROLATIONE PERFECTA~iONE IM~aONE IMPERFE",
    "CTA DIMINUTION-1~aONE IMPERFECTA DIMINUTION-2~aONE IMPERFECTA DIMINUTION-3paCROIXpaGREGORIAN C CLEFzfFpaSQUA",
    "RE BpaVIRGApaPODATUSpbCLIVIpbSCANDICUpdCLIMApcTORCULpcPORRECTya FLEXUSpjSCANDICpcTORCULUS RESUPINpbPES SUBPU",
    "NCTIpaKIEVAN C CLEFwaEND OF PIECEwbFINAL NOTwaRECITATIVE MARKwaWHOLE NOTEwfHALFwaQUARTER NOTE STEM DOWN>aUPw",
    "aEIGHTH NOTE STEM DOWN=aUPwaFLAT SIGNpaSORIpaKORONaaGREEK VOCAL NOTATION SYMBOL-1%a2%a3%a4%a5%a6%a7%a8%a9%a1",
    "0&a1&a2&a3&a4&a5&a6&a7&a8&a9%a20&a1&a2&a3&a4%a50&a1&a2&a3&a4gaINSTRUMENTAL NOTATION SYMBOL-1.a2.a4.a5.a7.a8.",
    "a11:a2:a3:a4:a7:a8:a9.a23:a4:a5:a6:a7:a9.a30:a2:a6:a7:a8:a9.a40:a2:a3:a5:a7:a8:a9.a50:a1:a2:a3:a4aaCOMBINING",
    " GREEK MUSICAL TRISEMEzeETRAyfPENTaaGREEK MUSICAL LEIMMAaaMAYAN NUMERAL ZEROoaONEoaTWOpaHREEoaFOURpaIVEoaSIX",
    "paEVENoaEIGHToaNINEoaTENocELEVoaTWELVEpaHIRTEENofFOUpeIFoeSIXpeEVENoeEIGHoeNINEbaONOGRAM FOR EARTHagDIGRAM F",
    "OR HEAVENLYmgUMANlaEARTHLY HEAVENubUMAqaaaTETRAGRAM FOR CENTREobFULL CIRCLoaMIREDoaBARRIERoaKEEPING SMALLoaC",
    "ONTRARIETYoaASCENToaOPPOSITIONoaBRANCHING OUToaDEFECTIVENESS OR DISTORTIONpaIVERGENCEoaYOUTHFULNESSoaINCREAS",
    "EoaPENETRATIONoaREACHoaCONTACToaHOLDING BACKoaWAITINGodFOLLOWoaADVANCEobRELEASqbSISTANCobEASoaJOYoaCONTENTIO",
    "NoaENDEAVOURoaDUTIESoaCHANGEoaDECISIVENESSoaBOLD RESOLUTIONoaPACKINGoaLEGIONoaCLOSENESSoaKINSHIPoaGATHERINGo",
    "aSTRENGTHoaPURITYoaFULLNESSoaRESIDENCEoaLAW OR MODELoaRESPONSEoaGOING TO MEEToaENCOUNTERSoaSTOVEoaGREATNESSo",
    "aENLARGEMENToaPATTERNoaRITUALoaFLIGHToaVASTNESS OR WASTINGoaCONSTANCYoaMEASUREoaETERNITYoeUoaDIMINISHMENToaC",
    "LOSED MOUTHoaGUARDEDNESSpaATHERING INoaMASSINGoaACCUMULATIONoaEMBELLISHMENTobDOUBoaWATCHoaSINKINGoaINNERoaDE",
    "PARTUREpaARKENINGpdIMMoaEXHAUSTIONoaSEVERANCEpbTOPPAGoaHARDNESSoaCOMPLETIONpaLOSUREodFAILoaAGGRAVATIONoaCOMP",
    "LIANCEobON THE VERGoaDIFFICULTIESoaLABOURINGoeFOSTEaaCOUNTING ROD UNIT DIGIT ONEyaTWOzaHREEyaFOURzaIVEyaSIXz",
    "aEVENyaEIGHTyaNINEncTENS DIGIT OyaTWOzaHREEyaFOURzaIVEyaSIXzaEVENyaEIGHTyaNINEacIDEOGRAPHIC TALLY MARK OxaTW",
    "OyaHREExaFOURyaIVEabTALLY MARK ONlbFIVaaMATHEMATICAL BOLD CAPITAL A!aB!aC!aD!aE!aF!aG!aH!aI!aJ!aK!aL!aM!aN!a",
    "O!aP!aQ!aR!aS!aT!aU!aV!aW!aX!aY!aZsaSMALL AyaByaCyaDyaEyaFyaGyaHyaIyaJyaKyaLyaMyaNyaOyaPyaQyaRyaSyaTyaUyaVya",
    "WyaXyaYyaZnaITALIC CAPITAL A%aB%aC%aD%aE%aF%aG%aH%aI%aJ%aK%aL%aM%aN%aO%aP%aQ%aR%aS%aT%aU%aV%aW%aX%aY%aZuaSMA",
    "LL A!aB!aC!aD!aE!aF!aG!aI!aJ!aK!aL!aM!aN!aO!aP!aQ!aR!aS!aT!aU!aV!aW!aX!aY!aZnaBOLD ITALIC CAPITAL A+aB+aC+aD",
    "+aE+aF+aG+aH+aI+aJ+aK+aL+aM+aN+aO+aP+aQ+aR+aS+aT+aU+aV+aW+aX+aY+aZzaSMALL A)aB)aC)aD)aE)aF)aG)aH)aI)aJ)aK)aL",
    ")aM)aN)aO)aP)aQ)aR)aS)aT)aU)aV)aW)aX)aY)aZnaSCRIPT CAPITAL A%aC%aD%aG%aJ%aK%aN%aO%aP%aQ%aS%aT%aU%aV%aW%aX%aY",
    "%aZuaSMALL A!aB!aC!aD!aF!aH!aI!aJ!aK!aL!aM!aN!aP!aQ!aR!aS!aT!aU!aV!aW!aX!aY!aZnaBOLD SCRIPT CAPITAL A+aB+aC+",
    "aD+aE+aF+aG+aH+aI+aJ+aK+aL+aM+aN+aO+aP+aQ+aR+aS+aT+aU+aV+aW+aX+aY+aZzaSMALL A)aB)aC)aD)aE)aF)aG)aH)aI)aJ)aK)",
    "aL)aM)aN)aO)aP)aQ)aR)aS)aT)aU)aV)aW)aX)aY)aZnaFRAKTUR CAPITAL A&aB&aD&aE&aF&aG&aJ&aK&aL&aM&aN&aO&aP&aQ&aS&aT",
    "&aU&aV&aW&aX&aYvaSMALL A$aB$aC$aD$aE$aF$aG$aH$aI$aJ$aK$aL$aM$aN$aO$aP$aQ$aR$aS$aT$aU$aV$aW$aX$aY$aZnaDOUBLE-",
    "STRUCK CAPITAL A.aB.aD.aE.aF.aG.aI.aJ.aK.aL.aM.aO.aS.aT.aU.aV.aW.aX.aY$aSMALL A+aB+aC+aD+aE+aF+aG+aH+aI+aJ+a",
    "K+aL+aM+aN+aO+aP+aQ+aR+aS+aT+aU+aV+aW+aX+aY+aZnaBOLD FRAKTUR CAPITAL A,aB,aC,aD,aE,aF,aG,aH,aI,aJ,aK,aL,aM,a",
    "N,aO,aP,aQ,aR,aS,aT,aU,aV,aW,aX,aY,aZ!aSMALL A*aB*aC*aD*aE*aF*aG*aH*aI*aJ*aK*aL*aM*aN*aO*aP*aQ*aR*aS*aT*aU*a",
    "V*aW*aX*aY*aZnaSANS-SERIF CAPITAL A*aB*aC*aD*aE*aF*aG*aH*aI*aJ*aK*aL*aM*aN*aO*aP*aQ*aR*aS*aT*aU*aV*aW*aX*aY*",
    "aZyaSMALL A(aB(aC(aD(aE(aF(aG(aH(aI(aJ(aK(aL(aM(aN(aO(aP(aQ(aR(aS(aT(aU(aV(aW(aX(aY(aZyaBOLD CAPITAL A;aB;aC",
    ";aD;aE;aF;aG;aH;aI;aJ;aK;aL;aM;aN;aO;aP;aQ;aR;aS;aT;aU;aV;aW;aX;aY;aZ&aSMALL A.aB.aC.aD.aE.aF.aG.aH.aI.aJ.aK",
    ".aL.aM.aN.aO.aP.aQ.aR.aS.aT.aU.aV.aW.aX.aY.aZyaITALIC CAPITAL A=aB=aC=aD=aE=aF=aG=aH=aI=aJ=aK=aL=aM=aN=aO=aP",
    "=aQ=aR=aS=aT=aU=aV=aW=aX=aY=aZ)aSMALL A;aB;aC;aD;aE;aF;aG;aH;aI;aJ;aK;aL;aM;aN;aO;aP;aQ;aR;aS;aT;aU;aV;aW;aX",
    ";aY;aZyaBOLD ITALIC CAPITAL A|aB|aC|aD|aE|aF|aG|aH|aI|aJ|aK|aL|aM|aN|aO|aP|aQ|aR|aS|aT|aU|aV|aW|aX|aY|aZ:aSM",
    "ALL A^aB^aC^aD^aE^aF^aG^aH^aI^aJ^aK^aL^aM^aN^aO^aP^aQ^aR^aS^aT^aU^aV^aW^aX^aY^aZnaMONOSPACE CAPITAL A)aB)aC)",
    "aD)aE)aF)aG)aH)aI)aJ)aK)aL)aM)aN)aO)aP)aQ)aR)aS)aT)aU)aV)aW)aX)aY)aZxaSMALL A&aB&aC&aD&aE&aF&aG&aH&aI&aJ&aK&",
    "aL&aM&aN&aO&aP&aQ&aR&aS&aT&aU&aV&aW&aX&aY&aZnaITALIC SMALL DOTLESS I,aJnaBOLD CAPITAL ALPHA!bBET!bGAMM!bDELT",
    "!aEPSILON!aZETA!d!dTH!cIO!bKAPP!bLAMD!aMU!bN!aXI!aOMICRON!aPI!aRHO!aTHETA SYMBOL!aSIGMA!aTAU!aUPSILON!aPHI!c",
    "C!bPS!aOMEGAsbNABLsbSMALL ALPHybBETybGAMMybDELTyaEPSILONyaZETAydydTHycIOybKAPPybLAMDyaMUybNyaXIyaOMICRONyaPI",
    "yaRHOyaFINAL SIGMAyfyaTAUyaUPSILONyaPHIycCybPSyaOMEGAsaPARTIAL DIFFERENTIALsbEPSILON SYMBOshTHETAsiKAPPshPHI",
    "shRHOshPInaITALIC CAPITAL ALPHA%bBET%bGAMM%bDELT%aEPSILON%aZETA%d%dTH%cIO%bKAPP%bLAMD%aMU%bN%aXI%aOMICRON%aP",
    "I%aRHO%aTHETA SYMBOL%aSIGMA%aTAU%aUPSILON%aPHI%cC%bPS%aOMEGAubNABLubSMALL ALPH!bBET!bGAMM!bDELT!aEPSILON!aZE",
    "TA!d!dTH!cIO!bKAPP!bLAMD!aMU!bN!aXI!aOMICRON!aPI!aRHO!aFINAL SIGMA!f!aTAU!aUPSILON!aPHI!cC!bPS!aOMEGAuaPARTI",
    "AL DIFFERENTIALubEPSILON SYMBOuhTHETAuiKAPPuhPHIuhRHOuhPInaBOLD ITALIC CAPITAL ALPHA+bBET+bGAMM+bDELT+aEPSIL",
    "ON+aZETA+d+dTH+cIO+bKAPP+bLAMD+aMU+bN+aXI+aOMICRON+aPI+aRHO+aTHETA SYMBOL+aSIGMA+aTAU+aUPSILON+aPHI+cC+bPS+a",
    "OMEGAzbNABLzbSMALL ALPH)bBET)bGAMM)bDELT)aEPSILON)aZETA)d)dTH)cIO)bKAPP)bLAMD)aMU)bN)aXI)aOMICRON)aPI)aRHO)a",
    "FINAL SIGMA)f)aTAU)aUPSILON)aPHI)cC)bPS)aOMEGAzaPARTIAL DIFFERENTIALzbEPSILON SYMBOzhTHETAziKAPPzhPHIzhRHOzh",
    "PInaSANS-SERIF BOLD CAPITAL ALPHA;bBET;bGAMM;bDELT;aEPSILON;aZETA;d;dTH;cIO;bKAPP;bLAMD;aMU;bN;aXI;aOMICRON;",
    "aPI;aRHO;aTHETA SYMBOL;aSIGMA;aTAU;aUPSILON;aPHI;cC;bPS;aOMEGA&bNABL&bSMALL ALPH.bBET.bGAMM.bDELT.aEPSILON.a",
    "ZETA.d.dTH.cIO.bKAPP.bLAMD.aMU.bN.aXI.aOMICRON.aPI.aRHO.aFINAL SIGMA.f.aTAU.aUPSILON.aPHI.cC.bPS.aOMEGA&aPAR",
    "TIAL DIFFERENTIAL&bEPSILON SYMBO&hTHETA&iKAPP&hPHI&hRHO&hPI&aITALIC CAPITAL ALPHA|bBET|bGAMM|bDELT|aEPSILON|",
    "aZETA|d|dTH|cIO|bKAPP|bLAMD|aMU|bN|aXI|aOMICRON|aPI|aRHO|aTHETA SYMBOL|aSIGMA|aTAU|aUPSILON|aPHI|cC|bPS|aOME",
    "GA:bNABL:bSMALL ALPH^bBET^bGAMM^bDELT^aEPSILON^aZETA^d^dTH^cIO^bKAPP^bLAMD^aMU^bN^aXI^aOMICRON^aPI^aRHO^aFIN",
    "AL SIGMA^f^aTAU^aUPSILON^aPHI^cC^bPS^aOMEGA:aPARTIAL DIFFERENTIAL:bEPSILON SYMBO:hTHETA:iKAPP:hPHI:hRHO:hPIn",
    "aBOLD CAPITAL DIGAMMAsjSMALsaDIGIT ZEROyaONEyaTWOzaHREEyaFOURzaIVEyaSIXzaEVENyaEIGHTyaNINEnaDOUBLE-STRUCK DI",
    "GIT ZERO+aONE+aTWO,aHREE+aFOUR,aIVE+aSIX,aEVEN+aEIGHT+aNINEnaSANS-SERIF DIGIT ZERO(aONE(aTWO)aHREE(aFOUR)aIV",
    "E(aSIX)aEVEN(aEIGHT(aNINEyaBOLD DIGIT ZERO.aONE.aTWO:aHREE.aFOUR:aIVE.aSIX:aEVEN.aEIGHT.aNINEnaMONOSPACE DIG",
    "IT ZERO&aONE&aTWO(aHREE&aFOUR(aIVE&aSIX(aEVEN&aEIGHT&aNINEaaSIGNWRITING HAND-FIST INDEXrgCIRCLEsgUPrgOVALrgH",
    "INGErhANGLraFIST INDEX BENTrlCIRCLErlFIST THUMB UNDERwaINDEX RAISED KNUCKLE%aCUPPED%cHING,a LOWraCIRCLE INDE",
    "X HINGErbFIST INDEX MIDDLrnCIRCLEraFIST INDEX MIDDLE BENT.aRAISED KNUCKLES.aHINGED%nUP %aHINGED MIDDLE UP%aM",
    "IDDLE CONJOINED|a INDEX BENT~fMIDDLE~aCUPPED~cHING:cROSSrvCIRCLEraFIST MIDDLE BENT OVER INDEXwaINDEX BENT OV",
    "ER MIDDLE%aMIDDLE THUMBrtCIRCLEraFIST INDEX MIDDLE STRAIGHT THUMB BENT.bBENT THUMB STRAIGH.bTHUMB BEN.aHINGE",
    "D SPREAD THUMB SIDE%mUP MIDDLE HINGE~aTHUMB CONJOINED%aHINGED MIDDLE UP THUMB SIDE%aMIDDLE UP SPREAD THUMB F",
    "ORWARD.bTHUMB CUPPE^cIRCL?cHOOK^cINGwaTHUMB BETWEEN INDEX MIDDLE STRAIGHTwaINDEX MIDDLE CONJOINED THUMB SIDE",
    "~aTHUMB SIDE CONJOINED~aTHUMB SIDE BENTwaMIDDLE THUMB HOOKED INDEX UPwdINDEX THUMB HOOKED MIDDLE%aMIDDLE CON",
    "JOINED HINGED THUMB SIDE:nROSS:aONJOINED THUMB FORWARD~nCUPPED waMIDDLE THUMB CUPPED INDEX UPwdINDEX THUMB C",
    "UPPED MIDDLEwdMIDDLE THUMB CIRCLED INDEX~aDEX HINGEDwaINDEX THUMB ANGLED OUT MIDDLE UP?kIN,kCIRCLED%aMIDDLE ",
    "THUMB CONJOINED HINGED?aANGLED OUT~aEDwaMIDDLE THUMB ANGLED OUT INDEX UP~a INDEX CROSSED^aINDEX UPwaINDEX TH",
    "UMB HOOKED MIDDLE HINGEDsaLAT FOUR FINGERS,a BENT.aHINGED.cCONJOIN|a SPLITraCLAW FOUR FINGERS CONJOINEDraFIS",
    "T FOUR FINGERS CONJOINED BENTraHINGE FOUR FINGERS CONJOINEDrbFLAT FIVE FINGERS SPREAwtHEEL waFIVE FINGERS SP",
    "READ FOUR BENTw&HEEL wfFIVE FINGERS SPREADwyHEEL waFIVE FINGERS SPREAD THUMB FORWARDrbCUP FIVE FINGERS SPREA",
    ">a OPENrzHINGEraOVAL FIVE FINGERS SPREADrbFLAT FIVE FINGERS SPREAD HINGE~aGED THUMB SIDE~aGED NO THUMBvava B",
    "ETWEEN PALM FACINGSwaHEELwaTHUMB SIDEwkHEEL waTHUMB BENT%aFORWARDwaSPLIT INDEX THUMB SIDE%bCENTR,a THUMB SID",
    "E~a BENT%aLITTLEraCLAWva THUMB SIDEwaNO THUMBwaTHUMB FORWARDraHOOK CURLICUEvaraCUP OPENuaua OPEN THUMB SIDEv",
    "kvaOPEN NO THUMBvivaOPEN THUMB FORWARDvntaRLICUE OPENzasbIRCLraOVALva THUMB SIDEwaNO THUMBwaTHUMB FORWARDraH",
    "INGE OPEN$a THUMB FORWARDwawa SMALLxaOPEN THUMB SIDExkxaOPEN NO THUMBxixaTHUMB SIDE TOUCHING INDEX&aBETWEEN ",
    "MIDDLE RINGraANGLEraFIST INDEX MIDDLE RINGrsCIRCLErtHINGrtANGLraHINGE LITTLEraFIST INDEX MIDDLE RING BENT>aC",
    "ONJOINEDr%HINGEraFIST LITTLE DOWN+a RIPPLE STRAIGHT?aCURVED,cOTHERS CIRCL&aUPwjTHUMB UNDER rkCIRCLErkOVALrkA",
    "NGLEraFIST LITTLE RAISED KNUCKLE&aBENT&aTOUCHES THUMB(ernHINGErgFIST LITTLE INDEXrtHINGEraANGLE LITTLE INDEX",
    " THUMB INDEX THUMB OUT~aEX THUMBraFIST LITTLE INDEXrnCIRCLEroHINGroANGLraFIST INDEX MIDDLE LITTLEruCIRCLErvH",
    "INGxaRINGraANGLE INDEX MIDDLE LITTLErhFIST INDEX MIDDLE CROSSr!CIRCLEraFIST RING DOWNraHINGE RING DOWN INDEX",
    " THUMB HOOK MIDDLEraANGLE RING DOWN MIDDLE THUMB INDEX CROSSraFIST RING UP$aRAISED KNUCKLE$cLITTrmCIRCLErmOV",
    "ALrmANGLErcFIST RING MIDD+a CONJOINED,aRAISED KNUCKLES$aINDEX$aTHUMBrlHOOKraFIST INDEX RING LITTLErsCIRCLEsa",
    "URLICUE INDEX RING LITTLE ONraHOOK INDEX RING LITTLE OUT>aIN>aUNDERraCUP INDEX RING LITTLErsHINGEraANGLE IND",
    "EX RING LITTLE OUT>araFIST MIDDLE DOWNraHINGE MIDDLEraFIST MIDDLE UPrkCIRCLEraFIST MIDDLE RAISED KNUCKLE&bUP",
    " THUMB SIDraHOOK MIDDLE THUMBraFIST MIDDLE THUMB LITTLE&g&gRING rtCIRCLEsaURLICUE MIDDLE RING LITTLE ONtaP M",
    "IDDLE RING LITTLErtHINGEraANGLE MIDDLE RING LITTLE OUT^aIN?araCIRCLE MIDDLE RING LITTLE BENTsaLAW MIDDLE RIN",
    "G LITTLE CONJOINED~aOINED SIDEraHOOK MIDDLE RING LITTLE CONJOINED OUT~aOINED IN~aOINEDscINGE INDEX HINGraFIS",
    "T INDEX THUMB SIDErrHINGEraFIST INDEX THUMB SIDE THUMB DIAGONAL~aCONJOINED~aBENT=fINDEX=fBOTH=aINDEX HINGE,a",
    "FORWARD INDEX STRAIGHT~bEX BEN,aHOOK,aCURLICUE;bVE THUMB INSIDr)CLAWraFIST INDEX THUMB CURVE THUMB UNDER.aIR",
    "CLEraCUP INDEX THUMB*a OPENrrHINGE.aLARGE,a,a SMALLraANGLE INDEX THUMB OUT.aIN,argFIST$a HEEL%bSIDE DIAGONA+",
    "aCONJOINED+aBENT%aFORWARD%aBETWEEN INDEX MIDDLE:aMIDDLE RING:aRING LITTLE%aUNDER TWO FINGERS%oOV%iUNDER THRE",
    "E,iFOUR%bOVER FOUR RAISED KNUCKLEvava HEELmaTOUCH SINGLEscMULTIPsaBETWEENmaGRASP SINGLEscMULTIPsaBETWEENmaST",
    "RIKE SINGLEtcMULTIPtaBETWEENmaBRUSH SINGLEscMULTIPsaBETWEENmaRUB SINGLEqcMULTIPqaBETWEENmaSURFACE SYMBOLSuaB",
    "ETWEENnaQUEEZE LARGE SINGLEuhSMALLucLARGE MULTIPujSMALLvaEQUENTIALmaFLICK LARGE SINGLEshSMALLscLARGE MULTIPs",
    "jSMALLtaEQUENTIALmaSQUEEZE FLICK ALTERNATINGmaMOVEMENT-HINGE UP DOWN LARGE.aSMALL(bSEQUENTIA$lDOWN$aUP DOWN ",
    "ALTERNATING LARGE~aG SMALL$aSIDE TO SIDE SCISSORSvaWALLPLANE FINGER CONTACTvuFLOORvaWALLPLANE SINGLE STRAIGH",
    "T SMALL~aT MEDIUM~aT LARGE~aT LARGEST<aWRIST FLEX)aDOUBLE STRAIGHT<aWRIST FLEX<aALTERNATING~aTING WRIST FLEX",
    ")aCROSS)aTRIPLE STRAIGHT MOVEMENT<aWRIST FLEX<aALTERNATING~aTING WRIST FLEX)aBEND SMALL:aMEDIUM:aLARGE)aCORN",
    "ER SMALL<aMEDIUM<aLARGE<aROTATION*aHECK SMALL;aMEDIUM;aLARGE)aBOX SMALL.aMEDIUM.aLARGE)aZIGZAG SMALL<aMEDIUM",
    "<aLARGE)aPEAKS SMALL;aMEDIUM;aLARGEmbTRAVEL-WALLPLANE ROTATION-WALLPLANE SINGL~cNE DOUB~aNE ALTERNATING<aFLO",
    "ORPLANE SINGLE~cANE DOUB~aANE ALTERNATING&dSHAK&aARM SPIRAL SINGLE>cDOUB>cTRIPmaMOVEMENT-DIAGONAL AWAY SMALL",
    ".aMEDIUM.aLARGE>aST(aTOWARDS SMALL<aMEDIUM<aLARGE_aST(aBETWEEN AWAY SMALL_aMEDIUM_aLARGE~aRGEST<aTOWARDS SMA",
    "LL~a MEDIUM~a LARGE~a LARGESTvaFLOORPLANE SINGLE STRAIGHT SMALL~aHT MEDIUM~aHT LARGE~aHT LARGEST=aWRIST FLEX",
    "*aDOUBLE STRAIGHT=aWRIST FLEX=aALTERNATING~aATING WRIST FLEX*aCROSS*aTRIPLE STRAIGHT MOVEMENT=aWRIST FLEX=aA",
    "LTERNATING MOVEMENT~aATING WRIST FLEX*aBEND*aCORNER SMALL=aMEDIUM=aLARGE+aHECK*aBOX SMALL:aMEDIUM:aLARGE*aZI",
    "GZAG SMALL=aMEDIUM=aLARGE*aPEAKS SMALL<aMEDIUM<aLARGEmbTRAVEL-FLOORPLANE ROTATION-FLOORPLANE SINGL~cLANE DOU",
    "B~aLANE ALTERNATING=aWALLPLANE SINGLE~cANE DOUB~aANE ALTERNATING(dSHAKmaMOVEMENT-WALLPLANE CURVE QUARTER SMA",
    "LL~aMEDIUM~aLARGE~aLARGEST;aHALF-CIRCLE SMALL~aCLE MEDIUM~aCLE LARGE~aCLE LARGEST;aTHREE-QUARTER CIRCLE SMAL",
    "L~aARTER CIRCLE MEDIUM)aHUMP SMALL:aMEDIUM:aLARGE)aLOOP SMALL:aMEDIUM:aLARGE:bSMALL DOUBL)aWAVE CURVE DOUBLE",
    " SMALL~aBLE MEDIUM~aBLE LARGE^aTRIPLE SMALL~aPLE MEDIUM~aPLE LARGE)aCURVE THEN STRAIGHT:aD CROSS SMALL|aMEDI",
    "UMmaROTATION-WALLPLANE SINGLE)cDOUB)bALTERNATmaMOVEMENT-WALLPLANE SHAKING)aCURVE HITTING FRONT WALL)tHUMP)uL",
    "OO)tWAVEmuROTATION-WALLPLANE SINGL)vDOUB)tALTERNATINGmaMOVEMENT-WALLPLANE CURVE HITTING CHEST)oHUMP)pLOO)oWA",
    "VEmpROTATION-WALLPLANE SINGL)qDOUB)oALTERNATINGmaMOVEMENT-WALLPLANE WAVE DIAGONAL PATH SMALL~aPATH MEDIUM~aP",
    "ATH LARGEvaFLOORPLANE CURVE HITTING CEILING SMALL~a CEILING LARGE*bHUMP HITTING CEILING SMALL DOUBL~hCEILING",
    " LARGE~cCEILING SMALL TRIP~hCEILING LARGE*cLOOP HITTING CEILING SMALL SING~hCEILING LARGE~cCEILING SMALL DOU",
    "B~hCEILING LARGE*aWAVE HITTING CEILING SMALL~aCEILING LARGEmaROTATION-FLOORPLANE SINGLE HITTING CEILING*sDOU",
    "B*qALTERNATINGmaMOVEMENT-FLOORPLANE CURVE HITTING FLOOR SMALL~a FLOOR LARGE*bHUMP HITTING FLOOR SMALL DOUBL~",
    "hFLOOR LARGE~cFLOOR TRIPLE SMALL TRIP~hFLOOR TRIPLE LARGE*cLOOP HITTING FLOOR SMALL SING~hFLOOR LARGE~cFLOOR",
    " SMALL DOUB~hFLOOR LARGE*aWAVE HITTING FLOOR SMALL~aFLOOR LARGEmaROTATION-FLOORPLANE SINGLE HITTING FLOOR*qD",
    "OUB*oALTERNATINGmaMOVEMENT-FLOORPLANE CURVE SMALL<aMEDIUM<aLARGE_aST<aCOMBINED*aHUMP SMALL*hLOO*aWAVE SNAKE<",
    "aMALL;aLARGEmbROTATION-FLOORPLANE SINGL*cDOUB*aALTERNATINGmaMOVEMENT-FLOORPLANE SHAKING PARALLELvaWALLPLANE ",
    "ARM CIRCLE SMALL SINGLE^hMEDIUM^cSMALL DOUB^hMEDIUMvcFLOORPLANE ARM CIRCLE HITTING WALL SMALL SING~hTTING WA",
    "LL MEDIUM~hTTING WALL LARGE~cTTING WALL SMALL DOUB~hTTING WALL MEDIUM~hTTING WALL LARGEvcWALLPLANE WRIST CIR",
    "CLE FRONT SING~cRONT DOUBvcFLOORPLANE WRIST CIRCLE HITTING WALL SING~cHITTING WALL DOUBvcWALLPLANE FINGER CI",
    "RCLES SING~c DOUBvcFLOORPLANE FINGER CIRCLES HITTING WALL SING~cS HITTING WALL DOUBmaDYNAMIC ARROWHEAD SMALL",
    "(aLARGEuaFASTuaSLOWuaTENSEuaRELAXEDuaSIMULTANEOUS*a ALTERNATINGuaEVERY OTHER TIMEuaGRADUALmaHEADqa RIMraMOVE",
    "MENT-WALLPLANE STRAIGHT:bTIL!bFLOORPLANE STRAIGH!aWALLPLANE CURVE!lFLOORzb CIRCLmaFACE DIRECTION POSITION NO",
    "SE FORWARD TILTING?aUP OR DOWN~aR DOWN TILTINGmaEYEBROWS STRAIGHT UP(aNEUTRAL(aDOWNmfDREAMY EYEBROWS NEUTRAL",
    "%aDOWN NEUTRAL%iUP%aNEUTRAL UPmaFOREHEAD NEUTRALvaCONTACTvaWRINKLEDmaEYES OPENraSQUEEZEDrcCLOSpa BLINK SINGL",
    "EwcMULTIPpaS HALF OPENrfWIDEraHALF CLOSEDraWIDENING MOVEMENTpa WINKpaLASHES UPwaDOWNwaFLUTTERINGpaGAZE-WALLP",
    "LANE STRAIGHT<a DOUBLE=aALTERNATINGuaFLOORPLANE STRAIGHT=a DOUBLE>aALTERNATINGuaWALLPLANE CURVEDumFLOORuaWAL",
    "LPLANE CIRCLINGmaCHEEKS PUFFEDtaNEUTRALtaSUCKEDmaTENSE CHEEKS HIGHzaMIDDLEzaLOWmaEARSmaNOSE NEUTRALraCONTACT",
    "raWRINKLESsdIGGmaAIR BLOWING OUTqaSUCKING INqaBLOW SMALL ROTATIONSqqSUCKmaBREATH INHALEteEXmaMOUTH CLOSED NE",
    "UTRALzaFORWARDzaCONTACTsaSMILExa WRINKLEDyaOPENsbFROWxa WRINKLEDyaOPENsaOPEN CIRCLExaFORWARDxbWRINKLExaOVAL$",
    "a WRINKLED%aYAWNxaRECTANGLE*a WRINKLED+aYAWNsaKISSwa FORWARDxbWRINKLEsaTENSExa FORWARDybSUCKEmaLIPS PRESSED ",
    "TOGETHERpc LOWER OVER UPPqcUPPER OVER LOWmaMOUTH CORNERSsaWRINKLES SINGLE$cDOUBmaTONGUE STICKING OUT FARtaLI",
    "CKING LIPStfTIP BETWEENxaTOUCHING INSIDE MOUTHtaINSIDE MOUTH RELAXEDtaMOVES AGAINST CHEEKtaCENTRE STICKING O",
    "UT!aINSIDE MOUTHncEEra MOVEMENTsaON TONGUE$a MOVEMENTvaLIPSza MOVEMENTsaBITE LIPSmaMOVEMENT-WALLPLANE JAWvjF",
    "LOORmaNECKmaHAIRmaEXCITEMENTmaSHOULDER HIP SPINEzaPOSITIONSmaWALLPLANE SHOULDER HIP MOVEmxFLOORmaSHOULDER TI",
    "LTING FROM WAISTmaTORSO-WALLPLANE STRAIGHT STRETCH%aCURVED BENDsaFLOORPLANE TWISTINGmaUPPER BODY TILTING FRO",
    "M HIP JOINTSmaLIMB COMBINATIONraLENGTH-1ya2ya3ya4ya5ya6ya7maFINGERmaLOCATION-WALLPLANE SPACEvlFLOORua HEIGHT",
    "vaWIDTHvcDEPvaHEAD NECKvaTORSOvaLIMBS DIGITSmaCOMMAmaFULL STOPmaSEMICOLONmfmaPARENTHESISmaFILL MODIFIER-2!a3",
    "!a4!a5!a6maROTATION MODIFIER-2(a3(a4(a5(a6(a7(a8(a9(a10)a1)a2)a3)a4)a5)a6aaLATIN SMALL LETTER FENG DIGRAPH W",
    "ITH TRILLtaREVERSED SCRIPT GgcLETTER SMALL CAPITAL TURNEDgaSMALL LETTER REVERSED KgaLETTER SMALL CAPITAL L W",
    "ITH BELTgaSMALL LETTER LEZH WITH RETROFLEX HOOKtaTURNED Y WITH BELTtaREVERSED ENGtaTURNED R WITH LONG LEG AN",
    "D RETROFLEX HOOKut WITH HOOKgpLETTER RETROFLEX CLICK WITHgaSMALL LETTER ESH WITH DOUBLE BAR<a AND CURLtfTURN",
    "ED T WITHgkLETTER INVERTED GLOTTAL STOPnkSTRETCHED CoaMALL CAPITAL TURNED KgbSMALL LETTER L WITH FISHHOOteDE",
    "ZH DIGRAPH WITH PALATAL tnL WITH BELT ANDtnENG WITHtsTURNED RtnR WITH FISHHOOK ANDtnTESH DIGRAPH WITHttEZtfD",
    "EZH DIGRAPH WITH RETROFLEXtpI WITH STROKE ANDtpO WITHtuTESH DIGRAPHtuCtaS WITH CURL"]⟩

end StateMachine.Text
