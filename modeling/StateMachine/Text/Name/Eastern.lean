import StateMachine.Text.Name.Table

/-!
# Names of characters: from kana to the end of the first plane

The code points from 3000 to FFFF: kana, Yi, compatibility ideographs and presentation forms.
-/

namespace StateMachine.Text

/-- The names of these characters. -/
def easternNames : NameTable :=
  ⟨
   [(0x3000, 0x303f), (0x3041, 0x3096), (0x3099, 0x30ff), (0x3105, 0x312f), (0x3131, 0x318e), (0x3190, 0x31e3),
    (0x31f0, 0x321e), (0x3220, 0x33ff), (0x4dc0, 0x4dff), (0xa000, 0xa48c), (0xa490, 0xa4c6), (0xa4d0, 0xa62b),
    (0xa640, 0xa6f7), (0xa700, 0xa7ca), (0xa7d0, 0xa7d1), (0xa7d3, 0xa7d3), (0xa7d5, 0xa7d9), (0xa7f2, 0xa82c),
    (0xa830, 0xa839), (0xa840, 0xa877), (0xa880, 0xa8c5), (0xa8ce, 0xa8d9), (0xa8e0, 0xa953), (0xa95f, 0xa97c),
    (0xa980, 0xa9cd), (0xa9cf, 0xa9d9), (0xa9de, 0xa9fe), (0xaa00, 0xaa36), (0xaa40, 0xaa4d), (0xaa50, 0xaa59),
    (0xaa5c, 0xaac2), (0xaadb, 0xaaf6), (0xab01, 0xab06), (0xab09, 0xab0e), (0xab11, 0xab16), (0xab20, 0xab26),
    (0xab28, 0xab2e), (0xab30, 0xab6b), (0xab70, 0xabed), (0xabf0, 0xabf9), (0xd7b0, 0xd7c6), (0xd7cb, 0xd7fb),
    (0xf900, 0xfa6d), (0xfa70, 0xfad9), (0xfb00, 0xfb06), (0xfb13, 0xfb17), (0xfb1d, 0xfb36), (0xfb38, 0xfb3c),
    (0xfb3e, 0xfb3e), (0xfb40, 0xfb41), (0xfb43, 0xfb44), (0xfb46, 0xfbc2), (0xfbd3, 0xfd8f), (0xfd92, 0xfdc7),
    (0xfdcf, 0xfdcf), (0xfdf0, 0xfe19), (0xfe20, 0xfe52), (0xfe54, 0xfe66), (0xfe68, 0xfe6b), (0xfe70, 0xfe74),
    (0xfe76, 0xfefc), (0xfeff, 0xfeff), (0xff01, 0xffbe), (0xffc2, 0xffc7), (0xffca, 0xffcf), (0xffd2, 0xffd7),
    (0xffda, 0xffdc), (0xffe0, 0xffe6), (0xffe8, 0xffee), (0xfff9, 0xfffd)],
   ["aaIDEOGRAPHIC SPACEmaCOMMAmaFULL STOPaaDITTO MARKaaJAPANESE INDUSTRIAL STANDARD SYMBOLaaIDEOGRAPHIC ITERATIO",
    "N MARKmfCLOSINGmaNUMBER ZEROaaLEFT ANGLE BRACKETapRIGHaoLEFT DOUBLEawRIGHaiLEFT CORNERaqRIGHapLEFT WHITEawRI",
    "GHajLEFT BLACK LENTICULAa!RIGHaaPOSTAL MARKafGETAaaLEFT TORTOISE SHELL BRACKETayRIGHaiLEFT WHITE LENTICULARa",
    "!RIGHaiLEFT WHITE TORTOISE SHELLa(RIGHaiLEFT WHITE SQUAREawRIGHaaWAVE DASHaaREVERSED DOUBLE PRIME QUOTATION ",
    "MARKa$a$LOW aaPOSTAL MARK FACEabHANGZHOU NUMERAL ONraTWOsaHREEraFOURsaIVEraSIXsaEVENraEIGHTraNINEaaIDEOGRAPH",
    "IC LEVEL TONE MARKmkRISINGmnDEPARTmnENTERakHANGUL SINGLE DOThqDOUBaaWAVY DASHaaVERTICAL KANA REPEAT MARKveWI",
    "TH VOICED SOUND vaMARK UPPER HALFvpWITH VOICED SOUND vhMARK LOWaaCIRCLED POSTAL MARKaaIDEOGRAPHIC TELEGRAPH ",
    "LINE FEED SEPARATOR SYMBOLaaHANGZHOU NUMERAL TENsaWENTYscHIRaaVERTICAL IDEOGRAPHIC ITERATION MARKafMASUafPAR",
    "T ALTERNATIONaaIDEOGRAPHIC VARIATION INDICATORmaHALF FILL SPACEaaHIRAGANA LETTER SMALL AqbqaSMALL IqbqaSMALL",
    " UqbqaSMALL EqbqaSMALL OqbqaKAqbGqaKIqbGqaKUqbGqaKEqbGqaKOqbGqaSAqbZqaSIqbZqaSUqbZqaSEqbZqaSOqbZqaTAqbDqaTIq",
    "bDqaSMALL TUqcqbDqaTEqbDqaTOqbDqaNAraIraUraEraOqaHAqbBqbPqaHIqbBqbPqaHUqbBqbPqaHEqbBqbPqaHOqbBqbPqaMAraIraUr",
    "aEraOqaSMALL YAqcqaSMALL YUqcqaSMALL YOqcqaRAraIraUraEraOqaSMALL WAqcraIraEraOqaNqaVUqaSMALL KAxaEaaCOMBININ",
    "G KATAKANA-HIRAGANA VOICED SOUND MARK%rSEMI-arKATAKANA-HIRAGANA srSEMI-afHIRAGANA ITERATIONjoVOICED jaDIGRAP",
    "H YORIaaKATAKANA-HIRAGANA DOUBLE HYPHENia LETTER SMALL AqbqaSMALL IqbqaSMALL UqbqaSMALL EqbqaSMALL OqbqaKAqb",
    "GqaKIqbGqaKUqbGqaKEqbGqaKOqbGqaSAqbZqaSIqbZqaSUqbZqaSEqbZqaSOqbZqaTAqbDqaTIqbDqaSMALL TUqcqbDqaTEqbDqaTOqbDq",
    "aNAraIraUraEraOqaHAqbBqbPqaHIqbBqbPqaHUqbBqbPqaHEqbBqbPqaHOqbBqbPqaMAraIraUraEraOqaSMALL YAqcqaSMALL YUqcqaS",
    "MALL YOqcqaRAraIraUraEraOqaSMALL WAqcraIraEraOqaNqaVUqaSMALL KAxaEqaVAraIraEraOjaMIDDLE DOTia-HIRAGANA PROLO",
    "NGED SOUND MARKif ITERATIONjoVOICED jaDIGRAPH KOTOaaBOPOMOFO LETTER BqaPqaMqaFqaDqaTqaNqaLqaGqaKqaHqaJqaQqaX",
    "qaZHqbCqbSqaRqaZqaCqaSqaAqaOqaEraHqaAIqbEqaAUqbOqaANqbEqaANGqcEraRqaIqaUqbIqaVqaNGqaGNqaIHqaO WITH DOT ABOVE",
    "qaNNaaHANGUL LETTER KIYEOKogSSANGoaKIYEOK-SIOSoaNIEUNta-CIEUCuaHIEUHoaTIKEUTogSSANGoaRIEULta-KIYEOKuaMIEUMua",
    "PIEUPuaSIOSuaTHIEUTHubPHIEUPubHIEUoaMIEUMoaPIEUPofSSANGoaPIEUP-SIOSoepdSANGSoaIEUNGoaCIEUCofSSANGoaCHIEUCHob",
    "KHIEUKobTHIEUTobPHIEUPobHIEUoaApaEoaYAqaEoaEOpaoaYEOqaoaOoaWAqaEobOoaYOoaUoaWEOqapaIoaYUobEoaYIobhaFILLERhaL",
    "ETTER SSANGNIEUNoaNIEUN-TIKEUTuaSIOSuePANoeRIEUL-KIYEOK-uaTIKEUTuaPIEUP-SIOSveANuaYEORINHIEUHoaMIEUM-PIEUPua",
    "SIOSuePANoaKAPYEOUNMIEUMoaPIEUP-KIYEOKuaTIKEUTuaSIOS-KIYEOKzaTIKEUTuaCIEUCuaTHIEUTHoaKAPYEOUNPIEUPwfSSANGoaS",
    "IOS-KIYEOKtaNIEUNtaTIKEUTtaPIEUPtaCIEUCoaPANSIOSoaSSANGIEUNGofYESwa-SIOSxePANoaKAPYEOUNPHIEUPHobSSANGHIEUofY",
    "EORINpaO-YAtaEraIpaU-YEOtaraIoaARAEAtaEaaIDEOGRAPHIC ANNOTATION LINKING MARKxfREVERSExgONxfTWOyfHREExfFOURxf",
    "TOPxfMIDDLExfBOTTOMxfFIRSTxfSECONDxgTHIRxfFOURTHxfHEAVENxfEARTHxfMANaaBOPOMOFO LETTER BUqaZIqbJqaGUqaEEraNNq",
    "aOOraNNqaIRqaANNqcIqcUqaIMqaNGGqaAINNrcUraMqbOraNGqaINNNjaFINAL LETTER PwaTwaKwaHjbLETTER GqbLqaZYjaFINAL LE",
    "TTER GjaLETTER GWqbKqaOEqaAHaaCJK STROKE TlaWGlbXlcBlaSWlaHZZnaGmaPmaZWGldSlaHZTnaZPmaPWGmaZWnaZZlaNlaHlaSla",
    "PlbSlaDlaHZmaGlaSZmbWmaTmaGlaPDmaZlaTNlaSZZmaWGlcHXmbZZZlbPlaQaaKATAKANA LETTER SMALL KUwaSIxaUwaTOwaNUwaHAx",
    "aIxaUxaExaOwaMUwaRAxaIxaUxaExaOaaPARENTHESIZED HANGUL KIYEOKvaNIEUNvaTIKEUTvaRIEULvaMIEUMvaPIEUPvaSIOSvaIEUN",
    "GvaCIEUCwaHIEUCHvbKHIEUKvbTHIEUTvbPHIEUPvbHIEUvaKIYEOK AvcNIEUNvcTIKEUTvcRIEULvcMIEUMvcPIEUPvcSIOSvcIEUNGvcC",
    "IEUCwcHIEUCHvdKHIEUKvdTHIEUTvdPHIEUPvdHIEUvaCIEUC UoaKOREAN CHARACTER OJEON*a HUoaIDEOGRAPH ONEyaTWOzaHREEya",
    "FOURzaIVEyaSIXzaEVENyaEIGHTyaNINEyaTENybMOOyaFIREyaWATERzaOODyaMETALyaEARTHyaSUNzaTOCKyaHAVEyaSOCIETYyaNAMEy",
    "aSPECIALyeFINANyaCONGRATULATIONyaLABORyaREPRESENTyaCALLyaSTUDYzaUPERVISEydENTERPRybRESOURCycALLIANyaFESTIVAL",
    "yaRESTyaSELFyaREACHaaCIRCLED IDEOGRAPH QUESTIONsbKINDERGARTEsaSCHOOLsaKOTOiaNUMBER TEN ON BLACK SQUAREqqWENT",
    "YqsHIRptFOqsIFpsSIXqsEVENpsEIGHaaPARTNERSHIP SIGNaaCIRCLED NUMBER TWENTY ONEwaTWOxaHREEwaFOURxaIVEwaSIXxaEVE",
    "NwaEIGHTwaNINEqaHIRTYva ONEwaTWOxaHREEwaFOURxaIVEiaHANGUL KIYEOKpaNIEUNpaTIKEUTpaRIEULpaMIEUMpaPIEUPpaSIOSpa",
    "IEUNGpaCIEUCqaHIEUCHpbKHIEUKpbTHIEUTpbPHIEUPpbHIEUpaKIYEOK ApcNIEUNpcTIKEUTpcRIEULpcMIEUMpcPIEUPpcSIOSpcIEUN",
    "GpcCIEUCqcHIEUCHpdKHIEUKpdTHIEUTpdPHIEUPpdHIEUiaKOREAN CHARACTER CHAMKOzaJUEUIiaHANGUL IEUNG UaaKOREAN STAND",
    "ARD SYMBOLaaCIRCLED IDEOGRAPH ONEsaTWOtaHREEsaFOURtaIVEsaSIXtaEVENsaEIGHTsaNINEsaTENsbMOOsaFIREsaWATERtaOODs",
    "aMETALsaEARTHsaSUNtaTOCKsaHAVEsaSOCIETYsaNAMEsaSPECIALseFINANsaCONGRATULATIONsaLABORsaSECRETsaMALEseFEscSUIT",
    "ABsaEXCELLENTscPRIsaATTENTIONsaITEMsaRESTsaCOPYuaRRECTsaHIGHsaCENTREsaLOWtaEFTsbRIGHsaMEDICINEsaRELIGIONsaST",
    "UDYtaUPERVISEsdENTERPRsbRESOURCscALLIANsaNIGHTiaNUMBER THIRTY SIXxaEVENwaEIGHTwaNINEpaFORTYua ONEvaTWOwaHREE",
    "vaFOURwaIVEvaSIXwaEVENvaEIGHTvaNINEqaIFTYabIDEOGRAPHIC TELEGRAPH SYMBOL FOR JANUAR+eFEBR+aMARCH+aAPRIL+aMAY+",
    "aJUNE.aLY+aAUGUST+aSEPTEMBER+dOCTO+dNOVEM+fDECaaSQUARE HGhbERiaVaaLIMITED LIABILITY SIGNaaCIRCLED KATAKANA A",
    "raIraUraEraOraKAsaIsaUsaEsaOraSAsaIsaUsaEsaOraTAsaIsaUsaEsaOraNAsaIsaUsaEsaOraHAsaIsaUsaEsaOraMAsaIsaUsaEsaO",
    "raYAsaUsaOraRAsaIsaUsaEsaOraWAsaIsaEsaOaaSQUARE ERA NAME REIWAhaAPAATOiaRUHUAibNPEiaARUhbININGjaTIhaUONhaESU",
    "KUUDOiaEKAAhaONSUibOMhaKAIRIjaRATTOkaORIIhaGARONjaNMAibIGjaNIIhcKYURhaGIRUDAAhaKIROlaGURAMUlbMEETORlaWATTOha",
    "GURAMUnaTONhaKURUZEIROkaOONEiaEESUiaORUNAjaOPOhaSAIKURUjbNTIIMibIRINGiaENTIlaOhaDAASUiaESIiaORUhaTONhaNANOib",
    "OTThaHAITUhaPAASENTOkaTUhbBAARERhcPIASUTOjcKUkaOhaBIRUhaHUARADDOjbIIThaBUSSYERUhaHURANiaEKUTAARUhaPESOjaNIHI",
    "haHERUTUhbPENSjaEZIhaBEETAhaPOINTOhcBORUhaHONhaPONDOhaHOORUkaNhaMAIKUROkaRUjaHHAjaRUKUjaNSYONicIKURjaRIlaBAA",
    "RUiaEGAlaTONjaETORUhaYAADOkaRUiaUANhaRITTORUjaRAiaUPIIjaUBURUibEMjaNTOGENhaWATTOabIDEOGRAPHIC TELEGRAPH SYMB",
    "OL FOR HOUR ZER<aONE<aTWO=aHREE<aFOUR=aIVE<aSIX=aEVEN<aEIGHT<aNINE<aTEN<cELEV<aTWELVE=aHIRTEEN<fFOU=eIF<eSIX",
    "=eEVEN<eEIGH<eNINE<aTWENTY|a-ONE~aTWO~aTHREE~aFOURaaSQUARE HPAhbDhaAUhaBARhaOVhaPChaDMja SQUAREDkcCUBhaIUhaE",
    "RA NAME HEISEIqaSYOUWAqaTAISYOUqaMEIZIhaCORPORATIONhaPA AMPShaNAhbMU ibhbKiaBhbMhbGhaCALhdKhaPFhbNhbMU kaGib",
    "hbKhaHZhcKhcMhcGhcThaMU LibhbDhbKhaFMhbNhbMU ibhbChbKhaMM SQUAREDhjChjhjKhcMM CUBhhChhhhKhaM OVER Spa SQUARE",
    "DhaPAhcKhcMhcGhaRADka OVER Sra SQUAREDhaPShbNhbMU ibhaPVhbNhbMU ibhbKhaMV MEGAhaPWhbNhbMU ibhbKhaMW MEGAhaK ",
    "OHMheMhbAhaBQhaCCiaDia OVER KGiaOhaDBhaGYhaHAiaPhaINhaKKiaM CAPITALiaThaLMiaNiaOGiaXhaMB SMALLibIibOhaPHiaMi",
    "bPiaRhbSiaVhaWBhaV OVER MhhAaaIDEOGRAPHIC TELEGRAPH SYMBOL FOR DAY ONE;aTWO<aHREE;aFOUR<aIVE;aSIX<aEVEN;aEIG",
    "HT;aNINE;aTEN;cELEV;aTWELVE<aHIRTEEN;fFOU<eIF;eSIX<eEVEN;eEIGH;eNINE;aTWENTY_a-ONE|aTWO~aHREE|aFOUR~aIVE|aSI",
    "X~aEVEN|aEIGHT|aNINE<aHIRTY_a-ONEaaSQUARE GALaaHEXAGRAM FOR THE CREATIVE HEAVENraRECEPTIVE EARTHnaDIFFICULTY",
    " AT THE BEGINNINGnaYOUTHFUL FOLLYnaWAITINGnaCONFLICTnaTHE ARMYnaHOLDING TOGETHERnaSMALL TAMINGndTREADnaPEACE",
    "naSTANDSTILLnaFELLOWSHIPnaGREAT POSSESSIONnaMODESTYnaENTHUSIASMnaFOLLOWINGnaWORK ON THE DECAYEDnaAPPROACHnaC",
    "ONTEMPLATIONnaBITING THROUGHnaGRACEnaSPLITTING APARTnaRETURNnaINNOCENCEnaGREAT TAMINGnaMOUTH CORNERSnaGREAT ",
    "PREPONDERANCEnaTHE ABYSMAL WATERraCLINGING FIREnbINFLUENCnaDURATIONnaRETREATnaGREAT POWERnaPROGRESSnaDARKENI",
    "NG OF THE LIGHTnaTHE FAMILYnaOPPOSITIONoeBSTRUCnaDELIVERANCEpbCREASngINnaBREAKTHROUGHnaCOMING TO MEETnaGATHE",
    "RING TOGETHERnaPUSHING UPWARDnaOPPRESSIONnaTHE WELLnaREVOLUTIONncTHE CAULDRraAROUSING THUNDERraKEEPING STILL",
    " MOUNTAINnaDEVELOPMENTnaTHE MARRYING MAIDENnaABUNDANCEnaTHE WANDERERraGENTLE WINDraJOYOUS LAKEnaDISPERSIONnd",
    "LIMITATnaINNER TRUTHnaSMALL PREPONDERANCEnaAFTER COMPLETIONnlBEFOREaaYI SYLLABLE ITnaXnanaPnaEToaXoaoaPmaATn",
    "aXnanaPmaUOXoaoaPmaOTnaXnanaPmaEXnamaWUmaBIToaXoaoaPoaETpaXpapaPnaAToaXoaoaPnaUOXpapaPnaOToaXoaoaPnaEXoaoaPn",
    "aUToaXoaoaPoaRXpanaYToaXoaoaPoaRXpamaPIToaXoaoaPoaEXpapaPnaAToaXoaoaPnaUOXpapaPnaOToaXoaoaPnaUToaXoaoaPoaRXp",
    "anaYToaXoaoaPoaRXpamaBBITpaXpapaPpaETqaXqaqaPoaATpaXpapaPoaUOXqaqaPoaOTpaXpapaPoaEXpapaPoaUTpaXpapaPpaRXqaoa",
    "YTpaXpapaPmaNBITpaXpapaPpaEXqaqaPoaATpaXpapaPoaOTpaXpapaPoaUTpaXpapaPpaRXqaoaYTpaXpapaPpaRXqamaHMITpaXpapaPp",
    "aEXqaqaPoaATpaXpapaPoaUOXqaqaPoaOTpaXpapaPoaUTpaXpapaPpaRXqaoaYXpapaPpaRXqamaMIToaXoaoaPoaEXpapaPnaAToaXoaoa",
    "PnaUOTpaXpapaPnaOToaXoaoaPnaEXoanaUToaXoaoaPoaRXpanaYToaXoaoaPmaFIToaXoaoaPnaAToaXoaoaPnaOXoaoaPnaUToaXoaoaP",
    "oaRXpanaYToaXoaoaPmaVIToaXoaoaPoaETpaXpapaPnaAToaXoaoaPnaOToaXoaoaPnaEXoaPnaUToaXoaoaPoaRXpanaYToaXoaoaPoaRX",
    "pamaDIToaXoaoaPoaEXpapaPnaAToaXoaoaPnaUOXpanaOToaXoaoaPnaEXoaoaPnaUToaXoaoaPoaRXpamaTIToaXoaoaPoaEXpapaPnaAT",
    "oaXoaoaPnaUOTpaXpapaPnaOToaXoaoaPnaEXoaoaPnaUToaXoaoaPoaRXpamaDDITpaXpapaPpaEXqaqaPoaATpaXpapaPoaUOXqaqaPoaO",
    "TpaXpapaPoaEXpapaPoaUTpaXpapaPpaRXqamaNDITpaXpapaPpaEXqaoaATpaXpapaPoaOTpaXpapaPoaEXpapaPoaUTpaXpapaPpaRXqam",
    "aHNITpaXpapaPpaETqaXqaqaPoaATpaXpapaPoaUOXqaoaOTpaXpaPoaEXpapaPoaUTmbNIoaXoaoaPoaEXpapaPnaAXoaoaPnaUOXpapaPn",
    "aOToaXoaoaPnaEXoaoaPnaUToaXoaoaPoaRXpamaHLITpaXpapaPpaEXqaqaPoaATpaXpapaPoaUOXqaqaPoaOXpapaPoaEXpapaPoaUTpaX",
    "papaPpaRXqaoaYTpaXpapaPpaRXqamaLIToaXoaoaPoaETpaXpapaPnaAToaXoaoaPnaUOTpaXpapaPnaOToaXoaoaPnaEXoaoaPnaUToaXo",
    "aoaPoaRXpanaYToaXoaoaPoaRXpamaGIToaXoaoaPoaETpaXpapaPnaAToaXoaoaPnaUOTpaXpapaPnaOToaXoaoaPnaEToaXoaoaPnaUToa",
    "XoaoaPoaRXpamaKIToaXoaoaPoaEXpapaPnaAToaXoaoaPnaUOXpapaPnaOToaXoaoaPnaEToaXoaoaPnaUToaXoaoaPoaRXpamaGGITpaXp",
    "apaEXqaqaPoaATpaXpapaPoaUOTqaXqaqaPoaOTpaXpapaPoaETpaXpapaPoaUTpaXpapaPpaRXqamaMGIEXqaoaATpaXpapaPoaUOXqaqaP",
    "oaOTpaXpapaPoaEXpapaPoaUTpaXpapaPpaRXqamaHXITpaXpapaPpaETqaXqaqaPoaATpaXpapaPoaUOTqaXqaqaPoaOTpaXpapaPoaEXpa",
    "paPmaNGIEXqaqaPoaATpaXpapaPoaUOTqaXqaoaOTpaXpapaPoaEXpapaPmaHIToaEXpanaAToaXoaoaPnaUOTpaXpapaPnaOToaXoaoaPna",
    "EXoaoaPmaWAToaXoaoaPnaUOXpapaPnaOXoaoaPnaEXoaoaPmaZIToaXoaoaPoaEXpapaPnaAToaXoaoaPnaUOXpapaPnaOToaXoaoaPnaEX",
    "oaoaPnaUToaXoaoaPoaRXpanaYToaXoaoaPoaRXpamaCIToaXoaoaPoaETpaXpapaPnaAToaXoaoaPnaUOXpapaPnaOToaXoaoaPnaEXoaoa",
    "PnaUToaXoaoaPoaRXpanaYToaXoaoaPoaRXpamaZZITpaXpapaPpaETqaXqaqaPoaATpaXpapaPoaOXpapaPoaEXpapaPoaUXpapaPpaRXqa",
    "oaYTpaXpapaPpaRXqamaNZITpaXpapaPpaEXqaqaPoaATpaXpapaPoaUOXqaoaOXpaPoaEXpaoaUXpapaPpaRXqaoaYTpaXpapaPpaRXqama",
    "SIToaXoaoaPoaEXpapaPnaAToaXoaoaPnaUOXpapaPnaOToaXoaoaPnaEXoaoaPnaUToaXoaoaPoaRXpanaYToaXoaoaPoaRXpanaSITpaXp",
    "apaPpaEXqaqaPoaATpaXpapaPoaOTpaXpapaPoaEXpapaPoaUTpaXpapaPoaYTpaXpapaPpaRXqamaZHATpaXpapaPoaUOXqaqaPoaOTpaXp",
    "apaPoaETpaXpapaPoaUTpaXpapaPpaRXqaoaYTpaXpapaPpaRXqamaCHATpaXpapaPoaUOTqaXqaqaPoaOTpaXpapaPoaETpaXpapaPoaUXp",
    "apaPpaRXqaoaYTpaXpapaPpaRXqamaRRAXpaoaUOXqaoaOTpaXpapaPoaETpaXpapaPoaUTpaXpapaPpaRXqaoaYTpaXpapaPpaRXqamaNRA",
    "TpaXpapaPoaOXpapaPoaETpaXpapaPoaUTpaXpapaPpaRXqaoaYTpaXpapaPpaRXqamaSHATpaXpapaPoaUOXqaqaPoaOTpaXpapaPoaETpa",
    "XpapaPoaUTpaXpapaPpaRXqaoaYTpaXpapaPpaRXqamaRAToaXoaoaPnaUOXpapaPnaOToaXoaoaPnaEXoaoaPnaUToaXoaoaPoaRXpanaYT",
    "oaXoaoaPoaRXpamaJIToaXoaoaPoaETpaXpapaPnaUOTpaXpapaPnaOToaXoaoaPnaUToaXoaoaPoaRXpanaYToaXoaoaPoaRXpamaQIToaX",
    "oaoaPoaETpaXpapaPnaUOTpaXpapaPnaOToaXoaoaPnaUToaXoaoaPoaRXpanaYToaXoaoaPoaRXpamaJJITpaXpapaPpaETqaXqaqaPoaUO",
    "XqaqaPoaOTpaXpapaPoaUTpaXpapaPpaRXqaoaYTpaXpapaPmaNJITpaXpapaPpaETqaXqaqaPoaUOXqaoaOTpaXpapaPoaUXpapaPpaRXqa",
    "oaYTpaXpapaPpaRXqanaYITpaXpapaPpaETqaXqaqaPoaUOXqaqaPoaOTpaXpapaPoaUTpaXpapaPmaXIToaXoaoaPoaETpaXpapaPnaUOXp",
    "anaOToaXoaoaPnaYToaXoaoaPoaRXpamaYIToaXoaoaPoaETpaXpapaPnaUOTpaXpapaPnaOToaXoaoaPnaUToaXoaoaPoaRXpanaYToaXoa",
    "oaPoaRXpadaRADICAL QOTlaLIlaKITlaNYIPlbCYlaSSIlaGGOPmbElaMIlaHXITlaLYRlaBBUTlaMOPlaYOlaPUTlaHXUOlaTATlaGAlaZ",
    "UPlaCYTlaDDURlcBlaGGUOlaNYOPlaTUlaOPlaJJUTlbZOlbPYlaHMOlaYITlaVURlaSHYlaVEPlaZAlaJOlaNZUPlaJJYlaGOTlaJJIElaW",
    "OlaDUlaSHURlaLIElaCYmaUOPmbIlbHXOlaSHATlaZURlaSHOPlaCHElaZZIETlaNBIElbKaaLISU LETTER BAmbPnbHmbDmbTnbHmbGmbK",
    "nbHmbJmbCnbHmbDZmbTSobHmbMmbNmbLmbSmbZHnbmbNGmbHmbXmbHHmbFmbWmbSHmbYmbGHmbnaEmbnaUmaImaOmaUnaEnaHmaOEmaTONE ",
    "MYA TIraNA POraMYA CYAvaBOvaNAvaJEUfaPUNCTUATION COMMAraFULL STOPaaVAI SYLLABLE EEpaNnaHEEncWqaNnaPEEncBHocn",
    "dMncKPncMGBnencFncVncTocHndDpcHncLncRncDndNncSocHncZocHncCncJndNncYncKncNGGndncMncNocYnaIoaNnaHIpaNnaWIpaNna",
    "PInbBHobncMnbKPnbMGBndnbFnbVnbTobHncDpbHnbLnbRnbDncNnbSobHnbZobHnbCnbJncNnbYnbKnbNGGncnbMnbNobYnaAoaNncNGnaH",
    "ApaNnaWApaNnaPAnbBHobncMnbKPqaNnaMGBAndnbFnbVnbTobHncDpbHnbLnbRnbDncNnbSobHnbZobHnbCnbJncNnbYnbKpaNnaNGGAncn",
    "bMnbNobYnaOOpaNnaHOOncWqaNnaPOOncBHocndMncKPncMGBnencFncVncTocHndDpcHncLncRncDndNncSocHncZocHncCncJndNncYncK",
    "ncNGGndncMncNocYnaUoaNnaHUpaNnaWUpaNnaPUnbBHobncMnbKPnbMGBndnbFnbVnbTobHncDpbHnbLnbRnbDncNnbSobHnbZobHnbCnbJ",
    "ncNnbYnbKnbNGGncnbMnbNobYnaOoaNncNGnaHOpaNnaWOpaNnaPOnbBHobncMnbKPnbMGBndqaNnaFOnbVnbTobHncDpbHnbLnbRnbDncNn",
    "bSobHnbZobHnbCnbJncNnbYnbKnbNGGncnbMnbNobYnaEoaNncNGnaHEpaNnaWEpaNnaPEnbBHobncMnbKPqaNnaMGBEndqaNnaFEnbVnbTo",
    "bHncDpbHnbLnbRnbDncNnbSobHnbZobHnbCnbJncNnbYnbKnbNGGraNnaGEpaNnaMEnbNobYoaGnaLENGTHENEReaCOMMAeaFULL STOPeaQ",
    "UESTION MARKeaSYLLABLE NDOLE FAtbKtaSOOgaMBOL FEENGleKlcTIlaNIIlaBANGlaFAAlcTlaDANGmcOOlcKUlcTOlaDO-OlaJONGe",
    "aDIGIT ZEROkaONEkaTWOlaHREEkaFOURlaIVEkaSIXlaEVENkaEIGHTkaNINEeaSYLLABLE NDOLE MAtaDOaaCYRILLIC CAPITAL LETT",
    "ER ZEMLYAjpSMALjaCAPITAL LETTER DZELOjoSMALjaCAPITAL LETTER REVERSED DZEjvSMALjaCAPITAL LETTER IOTAjnSMALjaC",
    "APITAL LETTER DJERVjoSMALjaCAPITAL LETTER MONOGRAPH UKjvSMALjaCAPITAL LETTER BROAD OMEGAjuSMALjaCAPITAL LETT",
    "ER NEUTRAL YERjuSMALjeCAPITAL LETTER YERU WITH BACKj$SMALjaCAPITAL LETTER IOTIFIED YATjvSMALjaCAPITAL LETTER",
    " REVERSED YUjuSMALjaCAPITAL LETTER IOTIFIED AjtSMALjaCAPITAL LETTER CLOSED LITTLE YUSj!SMALjeCAPITAL LETTER ",
    "BLENDEDjuSMALjeCAPITAL LETTER IOTIFIED CLOSED LITTLEj.SMALjaCAPITAL LETTER YNjlSMALjaCAPITAL LETTER REVERSED",
    " TSEjvSMALjbCAPITAL LETTER SOFT DjqSMALjaCAPITAL LETTER SOFT ELjqSMALjaCAPITAL LETTER SOFT EMjqSMALjaCAPITAL",
    " LETTER MONOCULAR OjuSMALjjCAPITAL LETTER BIjuSMALjjCAPITAL LETTER DOUBLE MOj$SMALjiLETTER MULTIbaOMBINING C",
    "YRILLIC VZMETtaTEN MILLIONS SIGNtoHUNDREDtpTHOUSANaaSLAVONIC ASTERISKaaCOMBINING CYRILLIC LETTER UKRAINIAN I",
    "E!aI!bY!aU!aHARD SIGN!aYERU!aSOFT SIGN!aOMEGAtbKAVYKtaPAYEROKbaYRILLIC KAVYKAjaPAYEROKjaCAPITAL LETTER DWEjm",
    "SMALjcCAPITAL LETTER DZjnSMALjcCAPITAL LETTER ZHjnSMALjbCAPITAL LETTER CCHjnSMALjbCAPITAL LETTER DZZjnSMALja",
    "CAPITAL LETTER TE WITH MIDDLE HOOKj%SMALjaCAPITAL LETTER TWEjmSMALjcCAPITAL LETTER TSjnSMALjbCAPITAL LETTER ",
    "TSSjnSMALjbCAPITAL LETTER TCHjnSMALjbCAPITAL LETTER HWjmSMALjdCAPITAL LETTER SjnSMALjaCAPITAL LETTER DOUBLE ",
    "OjrSMALjcCAPITAL LETTER CROSSEDjsSMALaaMODIFIER LETTER CYRILLIC HARD SIGNzfSOFTaaCOMBINING CYRILLIC LETTER E",
    "F!aIOTIFIED EaaBAMUM LETTER AnbKnaUnbKnaEEncRnbTAnaOnaNYInbnaLAnbPnaRIIpaEEncLEEneMnaTAAncNDoaJAEMnbnaSUUnbM",
    "naSHIIoboaHEUXodnaKYEEoaETnaNUAEpaoaJUAEnaYOQnaSHUnaYUQoaAnbNSHnaKEUXndPnaNJEEocTnbPUncWnbPEncFnaRUnbLnaMInb",
    "NnaREUXoaAEnaKENncNGKWApaGApbnaSHOnaPUAEnaFUoaOMnaWAnbNnaLInbPnaLOQnaKOnaMBENncRncMoaAnaTInbKnaMOoaBAAnaTETn",
    "aKPAnaTENnaNTUUnaSAMBAnaFAAMAEnaKOVUUpaGHOMgaCOMBINING MARK KOQNDONvaTUKWENTISgaNJAEMLIgaFULL STOPgaCOLONiaM",
    "MAgaSEMICOLONgaQUESTION MARKaaMODIFIER LETTER CHINESE TONE YIN PING(fANG(cIN SHA(gANG(aIN QU(dANG(bIN R(dANG",
    "qaEXTRA-HIGH DOTTED TONE BARquqqMIDqqLOWqtEXTRA-wjHIGH DOTTED LEFT-STEMq(q!MIDq!LOWq&EXTRA-wtHIGHqxqtMIDqtLO",
    "WqwEXTRA-qeDOT VERTICALuaSLASHuaHORIZONTAL BARqaLOWER RIGHT CORNER ANGLEqaRAISED UP ARROWxgDOWNxaEXCLAMATION",
    " MARKxqINVERTED q!LOWqaSTRESS AND HIGH TONE$fLOWaaLATIN CAPITAL LETTER EGYPTOLOGICAL ALEFg$SMALgaCAPITAL LET",
    "TER EGYPTOLOGICAL AINg!SMALgaCAPITAL LETTER HENGgnSMALgaCAPITAL LETTER TZglSMALgaCAPITAL LETTER TRESILLOgrSM",
    "ALgeCAPITAL LETTER CUATRgsSMALgaCAPITAL LETTER CUATRILLO WITH COMMAg&SMALgaLETTER SMALL CAPITAL F$aSgaCAPITA",
    "L LETTER AAglSMALgaCAPITAL LETTER AOglSMALgaCAPITAL LETTER AUglSMALgaCAPITAL LETTER AVglSMALgaCAPITAL LETTER",
    " AV WITH HORIZONTAL BARg)SMALgaCAPITAL LETTER AYglSMALgaCAPITAL LETTER REVERSED C WITH DOTg%SMALgaCAPITAL LE",
    "TTER K WITH STROKEgwSMALghCAPITAL LETTER K WITH DIAGONALg)SMALgqCAPITAL LETTER K WITH STROKE ANDg^SMALgaCAPI",
    "TAL LETTER BROKEN LgrSMALgaCAPITAL LETTER L WITH HIGH STROKEg$SMALgaCAPITAL LETTER O WITH LONG STROKE OVERLA",
    "Yg.SMALgaCAPITAL LETTER O WITH LOOPguSMALgaCAPITAL LETTER OOglSMALgaCAPITAL LETTER P WITH STROKE THROUGH DES",
    "CENDERg>SMALgaCAPITAL LETTER P WITH FLOURISHgySMALgaCAPITAL LETTER P WITH SQUIRREL TAILg&SMALgaCAPITAL LETTE",
    "R Q WITH STROKE THROUGH DESCENDERg>SMALgaCAPITAL LETTER Q WITH DIAGONAL STROKEg)SMALgaCAPITAL LETTER R ROTUN",
    "DAgsSMALgiCAPITAL LETTER RUMguSMALgaCAPITAL LETTER V WITH DIAGONAL STROKEg)SMALgaCAPITAL LETTER VYglSMALgaCA",
    "PITAL LETTER VISIGOTHIC ZgvSMALgaCAPITAL LETTER THORN WITH STROKEg!SMALgaCAPITAL LETTER THORN WITH STROKE TH",
    "ROUGH DESCENDERg|SMALgaCAPITAL LETTER VENDgnSMALgaCAPITAL LETTER ETglSMALgaCAPITAL LETTER ISglSMALgaCAPITAL ",
    "LETTER CONgmSMALaaMODIFIER LETTER USaaLATIN SMALL LETTER DUMtcLtcMtcNtcRgeLETTER SMALL CAPITALgcSMALL LETTER",
    " TtcgaCAPITAL LETTER INSULAR DgsSMALgaCAPITAL LETTER INSULAR FgsSMALgaCAPITAL LETTER INSULAR GvjTURNED gzSMA",
    "LgaCAPITAL LETTER TURNED LgrSMALgaCAPITAL LETTER INSULAR RgsSMALgaCAPITAL LETTER INSULAR SgsSMALgaCAPITAL LE",
    "TTER INSULAR TgsSMALabMODIFIER LETTER LOW CIRCUMFLEX ACCENqaCOLONqbSHORT EQUALS SIGaaLATIN CAPITAL LETTER SA",
    "LTILLOgrSMALgaCAPITAL LETTER TURNED HgaSMALL LETTER L WITH RETROFLEX HOOK AND BELTgbLETTER SINOLOGICAL DOgaC",
    "APITAL LETTER N WITH DESCENDERgzSMALgbCAPITAL LETTER C WITH BAgtSMAL!aPALATAL HOOKtsHgaCAPITAL LETTER B WITH",
    " FLOURISHgySMALgaCAPITAL LETTER F WITH STROKEgwSMALgbCAPITAL LETTER VOLAPUK AgtSMALgbCAPITAL LETTER VOLAPUK ",
    "OgtSMALgbCAPITAL LETTER VOLAPUK UgtSMALgbCAPITAL LETTER G WITH OBLIQUE STROKg(SMALguCAPITAL LETTER Kg(SMALgu",
    "CAPITAL LETTER Ng(SMALguCAPITAL LETTER Rg(SMALguCAPITAL LETTER Sg(SMALgaCAPITAL LETTER H WITH HOOKvaREVERSED",
    " OPEN EvaSCRIPT GvaL WITH BELTvaSMALL CAPITAL IgaLETTER SMALL CAPITAL QgaCAPITAL LETTER TURNED K%aTvaJ WITH ",
    "CROSSED-TAILvaCHIvaBETAgnSMALgbCAPITAL LETTER OMEGgoSMALgaCAPITAL LETTER U WITH STROKEgwSMALgaCAPITAL LETTER",
    " GLOTTAL AgsSMALgaCAPITAL LETTER GLOTTAL IgsSMALgaCAPITAL LETTER GLOTTAL UgsSMALgaCAPITAL LETTER OLD POLISH ",
    "OgvSMALgaCAPITAL LETTER ANGLICANA WguSMALgaCAPITAL LETTER C WITH PALATAL HOOKvfS WITHvfZ WITH PALATALvaD WIT",
    "H SHORT STROKE OVERLAYg:SMALg!CAPITAL LETTER Sg:SMALgaCAPITAL LETTER CLOSED INSULAR GgzSMALtaDOUBLE THORN!bW",
    "YNgaCAPITAL LETTER MIDDLE SCOTS SgxSMALgcCAPITAL LETTER SIGMOIDgsSMALaaMODIFIER LETTER CAPITAL CyaFyaQaaLATI",
    "N CAPITAL LETTER REVERSED HALF HgySMALgaEPIGRAPHIC LETTER SIDEWAYS IaaMODIFIER LETTER CAPITAL H WITH STROKEq",
    "bSMALL LIGATURE OaaLATIN LETTER SMALL CAPITAL TURNED MgaEPIGRAPHIC LETTER REVERSED F+aPyaINVERTED Mza LONGAy",
    "aARCHAIC MaaSYLOTI NAGRI LETTER AuaInaSIGN DVISVARAnaLETTER UuaEuaOnaSIGN HASANTAnaLETTER KOvbHubGvbHnaSIGN ",
    "ANUSVARAnaLETTER COvbHubJvbHubTTwbHubDDwbHubTvbHubDvbHubNubPvbHubBvbHubMubRubLubRRubSubHnaVOWEL SIGN AyaIyaU",
    "yaEyaOOnaPOETRY MARK-1za2za3za4naSIGN ALTERNATE HASANTAaaNORTH INDIC FRACTION ONE QUARTERzaHALFvaTHREE QUART",
    "ERSvaONE SIXTEENTHzcEIGHvaTHREE SIXTEENTHSmaQUARTER MARKmhPLACEHOLDmfRUPEEmfQUANTITYaaPHAGS-PA LETTER KArbHq",
    "bGqcNqbCrbHqbJqbNYqbTrbHqbDqbNqbPrbHqbBqbMqbTSsbHqbDZqbWqbZHrbqbSMALL qbYqbRqbLqbSHrbqbHqbqaIqaUqaEqaOqaQAqb",
    "XqbFqbGGqaEEjaSUBJOINED LETTER WA!bYjbLETTER TTsbHqbDDqbNNqbALTERNATE YqbVOICELESS SHvcD qbASPIRATED FjbSUBJ",
    "OINED LETTER RlmPERFIXjaLETTER CANDRABINDUjaSINGLE HEAD MARKjmDOUBjaMARK SHADoeDOUBLE aaSAURASHTRA SIGN ANUS",
    "VARAqbVISARGlbLETTER taAsaItaIsaUtaUsaVOCALIC R$aR!aL$aLsaEtaEsaAIsaOtaOsaAUsaKAtbHsbGtbHsbNGsbCtbHsbJtbHsbN",
    "YsbTTubHsbDDubHsbNNsbTtbHsbDtbHsbNsbPtbHsbBtbHsbMsbYsbRsbLsbVsbSHtbStbsbHsbLLlaCONSONANT SIGN HAARUlaVOWEL S",
    "IGN AAwaIxaIwaUxaUwaVOCALIC R)aR(aL)aLwaExaEwaAIwaOxaOwaAUlaSIGN VIRAMAqaCANDRABINDUlaDANDAmeOUBLE DmaIGIT Z",
    "EROraONEraTWOsaHREEraFOURsaIVEraSIXsaEVENraEIGHTraNINEaaCOMBINING DEVANAGARI DIGIT ZERO$aONE$aTWO%aHREE$aFOU",
    "R%aIVE$aSIX%aEVEN$aEIGHT$aNINEvaLETTER A%aU%aKA%bN%bP%bR%aVIvaSIGN AVAGRAHAaaDEVANAGARI SIGN SPACING CANDRAB",
    "INDUqaCANDRABINDU VIRAMAqsDOUBLE qaCANDRABINDU TWO&aHREE%aAVAGRAHAqbPUSHPIKlaGAP FILLERlaCARETlaHEADSTROKEla",
    "SIGN SIDDHAMlbJAIN OlaLETTER AYldVOWEL SIGNaaKAYAH LI DIGIT ZEROpaONEpaTWOqaHREEpaFOURqaIVEpaSIXqaEVENpaEIGH",
    "TpaNINEjaLETTER KArbHqbGqcNqbSrbHqbZqbNYqbTqcHqbNqbPrbHqbMqbDqbBqbRqbYqbLqbWqbTHqcqbVqbCqbqaOEqaIqaOOjaVOWEL",
    " UEpbpaUpaEEpaOjaTONE PLOPHUoaCALYAta PLOPHUjaSIGN CWIoaSHYAabREJANG LETTER KobGocNobTobDobNobPobBobMobCobJo",
    "bNYobSobRobLobYobWobHobMBobNGGpbDpbYJobhaVOWEL SIGN IsaUsaEsaAIsaOsaAUsbEtaAhaCONSONANT SIGN NGxawaRwaHhaVIR",
    "AMAhaSECTION MARKaaHANGUL CHOSEONG TIKEUT-MIEUMxaPIEUPxaSIOSxaCIEUCqaRIEUL-KIYEOKwgSSANGwaTIKEUTwgSSANGwaMIE",
    "UMwaPIEUPwfSSANGwfKAPYEOUNwaSIOSwaCIEUCwaKHIEUKHqaMIEUM-KIYEOKwaTIKEUTwaSIOSqaPIEUP-SIOS-THIEUTHwbKHIEUKwbHI",
    "EUqaSSANGSIOS-PIEUPqaIEUNG-RIEULwaHIEUHqgSSANGCIEUCvbTHIEUTqbPHIEUPH-HIEUqaHIEUH-SIOSqaSSANGYEORINHIEUHaaJAV",
    "ANESE SIGN PANYANGGAoaCECAKoaLAYARoaWIGNYANjaLETTER AqaI KAWIraraIqaUqaPA CEREKqaNGA LELETza RASWADIqaEqaAIq",
    "aOqaKAsa SASAKtaMURDAqbGsa MURDAqbNGqbCsa MURDAqbJqbNYA MURDqbJA MAHAPRANqbNYqbTTta MAHAPRANAqbDDta MAHAPRAN",
    "AqbNA MURDqbTsa MURDAqcsa MAHAPRANAqcqbPsa MURDAqbBsa MURDAqbMqbYqbRsa AGUNGqaLAqbWqbSA MURDubAHAPRANsaqbHja",
    "SIGN CECAK TELUjaVOWEL SIGN TARUNGvcOLOuaWULUya MELIKuaSUKUya MENDUTuaTALINGuaDIRGA MUREuaPEPETjcCONSONANT S",
    "IGN KERyaPENGKALyaCAKRAjaPANGKONjbLEFT RERENGGAjlRIGHjaPADA ANDAPoaMADYAoaLUHURoaWINDUoaPANGKAToaLINGSApaUNG",
    "SIoaADEGsa ADEGoaPISELEHjmTURNED jaPANGRANGKEPjaDIGIT ZEROpaONEpaTWOqaHREEpaFOURqaIVEpaSIXqaEVENpaEIGHTpaNIN",
    "EjaPADA TIRTA TUMETESoaISEN-ISENaaMYANMAR LETTER SHAN GHAucCucJubNNubBHiaSIGN SHAN SAWiaMODIFIER LETTER SHAN",
    " REDUPLICATIONiaLETTER TAI LAING NYAzbFzbG!bHzbJ!bHzbDD$bHzbNNiaTAI LAING DIGIT ZEROyaONEyaTWOzaHREEyaFOURza",
    "IVEyaSIXzaEVENyaEIGHTyaNINEiaLETTER TAI LAING LLAzbD!bHzbB!bHabCHAM LETTER maImaUmaEmaAImaOmaKAnbHmbGnbHmaNG",
    "UEoaAmbCHobHmbJnbHmaNHUEoaAobJmbTnbHmbDnbHmaNUEnaAmbDDmbPnbPnbHmbBnbHmaMUEnaAmbBBmbYmbRmbLmbVmbSSnbmbHfbVOWE",
    "L SIGN AqaIraIqbEqaUqaOEraqaAIraUqaUEfaCONSONANT SIGN YAubRubLubWfaLETTER FINAL KsaGsbNfjCONSONANT SIGNfaLET",
    "TER FINAL CHsaTsaNsaPsaYsaRsaLsaSSfaCONSONANT SIGN FINAL M!aHfaDIGIT ZEROlaONElaTWOmaHREElaFOURmaIVElaSIXmaE",
    "VENlaEIGHTlaNINEfaPUNCTUATION SPIRALraDANDAseOUBLE DriTRIPabMYANMAR LETTER KHAMTI GwbCxbHwbJxbHwbNYwbTTybHwb",
    "DDybHxcwbNwbSwbHxbHwbFiaMODIFIER LETTER KHAMTI REDUPLICATIONiaLETTER KHAMTI XAwbZwbRjaOGOGRAM KHAMTI OAYyaQN",
    "yaHMiaSYMBOL AITON EXCLAMATIONvaONEvaTWOiaLETTER AITON RAiaSIGN PAO KAREN TONEnaTAI LAING TONE-2%a5iaLETTER ",
    "SHWE PALAUNG CHA%cSaaTAI VIET LETTER LOW KOqdHIGHqbLOW KHqeHIGHqcLOW KHqfHIGHqbLOW GqdHIGHqcLOW NqeHIGHqbLOW",
    " CqdHIGHqbLOW CHqeHIGHqbLOW SqdHIGHqbLOW NYqeHIGHqbLOW DqdHIGHqbLOW TqdHIGHqbLOW THqeHIGHqbLOW NqdHIGHqbLOW ",
    "BqdHIGHqbLOW PqdHIGHqbLOW PHqeHIGHqbLOW FqdHIGHqbLOW MqdHIGHqbLOW YqdHIGHqbLOW RqdHIGHqbLOW LqdHIGHqbLOW Vqd",
    "HIGHqbLOW HqdHIGHqbLOW qcHIGHjaMAI KANGjaVOWEL AApaIpaUEqapaEpaOjaMAI KHITjaVOWEL IApbUEqbpaAUEqaYqaNqaMjaTO",
    "NE MAI EKsaNUENGsaTHOsaSONGjaSYMBOL KONqaNUENGqaSAMqaHO HOIqcKOI KaaMEETEI MAYEK LETTER EuaOuaCHAubNYubTTwbH",
    "ubDDwbHubNNubSHvbSnaVOWEL SIGN IIyaUUyaAAIzaUzbAnaCHEIKHANnaAHANG KHUDAMoaNJInaSYLLABLE REPETITION MARKnqWOR",
    "DnaVOWEL SIGN VISARGAobIRAMaaETHIOPIC SYLLABLE TTHUvaIvaAAvaEEwavaOsaDDHUvaIvaAAvaEEwavaOtaZUuaIuaAAuaEEvaua",
    "OsaCCHHAwaUwaIwaAAwaEExawaOsaBBAuaUuaIuaAAuaEEvauaOaaLATIN SMALL LETTER BARRED ALPHAtbA REVERSED-SCHWtaBLACK",
    "LETTER EucARREDtaE WITH FLOURISHtaLENIS FtaSCRIPT G WITH CROSSED-TAILtaL WITH INVERTED LAZY S!aDOUBLE MIDDLE",
    " TILDE!aMIDDLE RINGtaM WITH CROSSED-TAILtsNtsENGtaBLACKLETTER O*a WITH STROKEtoOPENtbINVERTED OtbTURNED OE W",
    "ITH STROK,gHORIZONTAL $a OPEN-O,a WITH STROKEtaSTIRRUP RgaLETTER SMALL CAPITAL R WITH RIGHT LEGgaSMALL LETTE",
    "R R WITHOUT HANDLEtaDOUBLE RtaR WITH CROSSED-TAILttDOUBLE taSCRIPT R$a WITH RINGtaBASELINE ESHtaU WITH SHORT",
    " RIGHT LEGvuBAR uaItcTURNED taU WITH LEFT HOOKtaCHIwa WITH LOW RIGHT RING*aLEFT SERIFtaX WITH LOW RIGHT RING",
    "%bNG LEFT LE=a AND LOW RIGHT RING>aWITH SERIFtaY WITH SHORT RIGHT LEGaaMODIFIER BREVE WITH INVERTED BREVEjaL",
    "ETTER SMALL HENGwaL WITH INVERTED LAZY S&aMIDDLE TILDEwaU WITH LEFT HOOKaaLATIN SMALL LETTER SAKHA YATtaIOTI",
    "FIED EtbOPEN OtaUOtaINVERTED ALPHAabGREEK LETTER SMALL CAPITAL OMEGaaLATIN SMALL LETTER DZ DIGRAPH WITH RETR",
    "OFLEX HOOKt%TSuaURNED R WITH MIDDLE TILDEaaMODIFIER LETTER SMALL TURNED WqaLEFT TACKqgRIGHaaCHEROKEE SMALL L",
    "ETTER AwaEwaIwaOwaUwaVwaGAwbKwaGExaIxaOxaUxaVwaHAxaExaIxaOxaUxaVwaLAxaExaIxaOxaUxaVwaMAxaExaIxaOxaUwaNAwcHwa",
    "NAHxaExaIxaOxaUxaVwaQUAyaEyaIyaOyaUyaVwaSAxaxaExaIxaOxaUxaVwaDAwbTwaDEwbTwaDIwbTwaDOxaUxaVxaLAwcTyaEyaIyaOya",
    "UyaVxaSAyaEyaIyaOyaUyaVwaWAxaExaIxaOxaUxaVwaYAaaMEETEI MAYEK LETTER KOKuaSAMuaLAIuaMITuaPAubNuaCHILucTuaKHOU",
    "ucNGucTHuaWAIuaYANGuaHUKuaUNuaIuaPHAMuaATIYAuaGOKuaJHAMuaRAIuaBAuaJILucDuaGHOUudDuaBHAMubKOK LONSUuhLAIuhMIT",
    "uhPAuiNuhTILuhNGOUuhInaVOWEL SIGN ONAPydIydAydYEydSOUyeydCHEIyaNUNGnaCHEIKHEInaLUM IYEKnfAPUNnaDIGIT ZEROtaO",
    "NEtaTWOuaHREEtaFOURuaIVEtaSIXuaEVENtaEIGHTtaNINEaaHANGUL JUNGSEONG O-YEOtaO-IraYO-AvaEuaEOrcU-YtaI-IraYU-AEu",
    "aOraEU-AuaEOvauaOrcI-YAvaEuaEOvataO-ItaYOuaUtaIraARAEA-AxaEiaONGSEONG NIEUN-RIEULxaCHIEUCHraSSANGTIKEUT%a-PI",
    "EUPrmyaSIOS%a-KIYEOKyaCIEUCzaHIEUCHybTHIEUTraRIEUL-SSANGKIYEOKxaKIYEOK-HIEUHrbSSANGRIEUL-KHIEUKrbRIEUL-MIEUM",
    "-HIEUxaPIEUP-TIKEUT&aPHIEUPHxaYESIEUNGzaORINHIEUH-HIEUHraKAPYEOUNRIEULraMIEUM-NIEUNxfSSANGraSSANGMIEUMraMIEU",
    "M-PIEUP-SIOSxaCIEUCraPIEUP-TIKEUTxaRIEUL-PHIEUPHxaMIEUMraSSANGPIEUPraPIEUP-SIOS-TIKEUTxaCIEUCyaHIEUCHraSIOS-",
    "MIEUMwaKAPYEOUNPIEUPsaSANGSIOS-KIYEOK$aTIKEUTsaIOS-PANSIOSwaCIEUCxaHIEUCHwbTHIEUTwbHIEUraPANSIOS-PIEUPzfKAPY",
    "EOUNraYESIEUNG-MIEUM!aHIEUHraCIEUC-PIEUPxfSSANGraSSANGCIEUCraPHIEUPH-SIOSzaTHIEUTHaaCJK COMPATIBILITY IDEOGR",
    "APH-F900)a1)a2)a3)a4)a5)a6)a7)a8)a9)aA)aB)aC)aD)aE)aF(a10)a1)a2)a3)a4)a5)a6)a7)a8)a9)aA)aB)aC)aD)aE)aF(a20)a",
    "1)a2)a3)a4)a5)a6)a7)a8)a9)aA)aB)aC)aD)aE)aF(a30)a1)a2)a3)a4)a5)a6)a7)a8)a9)aA)aB)aC)aD)aE)aF(a40)a1)a2)a3)a4",
    ")a5)a6)a7)a8)a9)aA)aB)aC)aD)aE)aF(a50)a1)a2)a3)a4)a5)a6)a7)a8)a9)aA)aB)aC)aD)aE)aF(a60)a1)a2)a3)a4)a5)a6)a7)",
    "a8)a9)aA)aB)aC)aD)aE)aF(a70)a1)a2)a3)a4)a5)a6)a7)a8)a9)aA)aB)aC)aD)aE)aF(a80)a1)a2)a3)a4)a5)a6)a7)a8)a9)aA)a",
    "B)aC)aD)aE)aF(a90)a1)a2)a3)a4)a5)a6)a7)a8)a9)aA)aB)aC)aD)aE)aF(aA0)a1)a2)a3)a4)a5)a6)a7)a8)a9)aA)aB)aC)aD)aE",
    ")aF(aB0)a1)a2)a3)a4)a5)a6)a7)a8)a9)aA)aB)aC)aD)aE)aF(aC0)a1)a2)a3)a4)a5)a6)a7)a8)a9)aA)aB)aC)aD)aE)aF(aD0)a1",
    ")a2)a3)a4)a5)a6)a7)a8)a9)aA)aB)aC)aD)aE)aF(aE0)a1)a2)a3)a4)a5)a6)a7)a8)a9)aA)aB)aC)aD)aE)aF(aF0)a1)a2)a3)a4)",
    "a5)a6)a7)a8)a9)aA)aB)aC)aD)aE)aF&aA00)a1)a2)a3)a4)a5)a6)a7)a8)a9)aA)aB)aC)aD)aE)aF(a10)a1)a2)a3)a4)a5)a6)a7)",
    "a8)a9)aA)aB)aC)aD)aE)aF(a20)a1)a2)a3)a4)a5)a6)a7)a8)a9)aA)aB)aC)aD)aE)aF(a30)a1)a2)a3)a4)a5)a6)a7)a8)a9)aA)a",
    "B)aC)aD)aE)aF(a40)a1)a2)a3)a4)a5)a6)a7)a8)a9)aA)aB)aC)aD)aE)aF(a50)a1)a2)a3)a4)a5)a6)a7)a8)a9)aA)aB)aC)aD)aE",
    ")aF(a60)a1)a2)a3)a4)a5)a6)a7)a8)a9)aA)aB)aC)aD(a70)a1)a2)a3)a4)a5)a6)a7)a8)a9)aA)aB)aC)aD)aE)aF(a80)a1)a2)a3",
    ")a4)a5)a6)a7)a8)a9)aA)aB)aC)aD)aE)aF(a90)a1)a2)a3)a4)a5)a6)a7)a8)a9)aA)aB)aC)aD)aE)aF(aA0)a1)a2)a3)a4)a5)a6)",
    "a7)a8)a9)aA)aB)aC)aD)aE)aF(aB0)a1)a2)a3)a4)a5)a6)a7)a8)a9)aA)aB)aC)aD)aE)aF(aC0)a1)a2)a3)a4)a5)a6)a7)a8)a9)a",
    "A)aB)aC)aD)aE)aF(aD0)a1)a2)a3)a4)a5)a6)a7)a8)a9aaLATIN SMALL LIGATURE FFwaIwaLwaFIxaLvaLONG S TvbSaaARMENIAN",
    " SMALL LIGATURE MEN NOW%aECH%aINIyaVEW NOWyaMEN XEHaaHEBREW LETTER YOD WITH HIRIQhaPOINT JUDEO-SPANISH VARIK",
    "AhaLIGATURE YIDDISH YOD YOD PATAHiaETTER ALTERNATIVE AYINoaWIDE ALEFtaDALETtaHEtaKAFtaLAMEDtaFINAL MEMtaRESH",
    "taTAVoaALTERNATIVE PLUS SIGNoaSHIN WITH SHIN DOTzgygDAGESH AND SH:goaALEF WITH PATAHyaQAMATSyaMAPIQoaBET WIT",
    "H DAGESHomGIMELomDALEToaHE WITH MAPIQoaVAV WITH DAGESHomZAYINomTETomYODomFINAL KAFopomLAMEDomMEMomNUNomSAMEK",
    "HomFINAL PEooomTSADIomQOFomRESHomSHINomTAVoaVAV WITH HOLAMoaBET WITH RAFEokKAFokPEiaIGATURE ALEF LAMEDaaARAB",
    "IC LETTER ALEF WASLA ISOLATED FORMzfFINALofBEEH ISOLATEDtfFINALthINITItiMEDofPEH ISOLATEDsfFINALshINITIsiMED",
    "ofBEHEH ISOLATEDufFINALuhINITIuiMEDofTTEHEH ISOLATEDvfFINALvhINITIviMEDpfEHEH ISOLATEDufFINALuhINITIuiMEDpfT",
    "EH ISOLATEDtfFINALthINITItiMEDofVEH ISOLATEDsfFINALshINITIsiMEDofPEHEH ISOLATEDufFINALuhINITIuiMEDofDYEH ISO",
    "LATEDtfFINALthINITItiMEDofNYEH ISOLATEDtfFINALthINITItiMEDofTCHEH ISOLATEDufFINALuhINITIuiMEDtfEH ISOLATEDwf",
    "FINALwhINITIwiMEDofDDAHAL ISOLATEDvfFINALpfAHAL ISOLATEDufFINALpfUL ISOLATEDsfFINALpfDAL ISOLATEDtfFINALofJE",
    "H ISOLATEDsfFINALofRREH ISOLATEDtfFINALofKEHEH ISOLATEDufFINALuhINITIuiMEDofGAF ISOLATEDsfFINALshINITIsiMEDp",
    "fUEH ISOLATEDtfFINALthINITItiMEDofNGOEH ISOLATEDufFINALuhINITIuiMEDpfOON GHUNNA ISOLATED!fFINALofRNOON ISOLA",
    "TEDufFINALuhINITIuiMEDofHEH WITH YEH ABOVE ISOLATED+fFINALsfGOAL ISOLATEDxfFINALxhINITIxiMEDsfDOACHASHMEE IS",
    "OLATED(fFINAL(hINITI(iMEDofYEH BARREE ISOLATEDzfFINALzfWITH HAMZA ABOVE ISOLATED^fFINALhaSYMBOL DOT ABOVEsaB",
    "ELOWoaTWO DOTS ABOVExaBELOWpaHREE DOTS ABOVEzaBELOWzaPOINTING DOWNWARDS ABOVE|aBELOWoaFOUR DOTS ABOVEyaBELOW",
    "ogDOUBLE VERTICAL BARoaTWO DOTS VERTICALLY ABOVE,aBELOWoaRINGoaSMALL TAH ABOVEyaBELOWoaWASLA ABOVEhaLETTER N",
    "G ISOLATED FORMrfFINALrhINITIriMEDofU ISOLATEDqfFINALofOE ISOLATEDrfFINALofYU ISOLATEDrfFINALofU WITH HAMZA ",
    "ABOVE ISOLATEDoqrfFINALofKIRGHIZ OE ISOLATEDzfFINALwfYU ISOLATEDzfFINALofE ISOLATEDqfFINALqhINITIqiMEDoiUIGH",
    "UR KAZAKH KIRGHIZ ALEF MAKSURA INIT~iURA MEDifIGATURE YEH WITH HAMZA ABOVE WITH ALEF ISOLATED~fF FINAL_fE IS",
    "OLATED~fFINAL^fWAW ISOLATED~f FINAL^fU ISOLATED|fFINAL^fOE ISOLATED~fFINAL^fYU ISOLATED~fFINAL^fE ISOLATED|f",
    "FINAL|hINITIqfUIGHUR KIRGHIZ YEH WITH HAMZA ABOVE WITH ALEF MAKSURA ISOLATED~f ABOVE WITH ALEF MAKSURA FINAL",
    "~h ABOVE WITH ALEF MAKSURA INITIifETTER FARSI YEH ISOLATEDyfFINALyhINITIyiMEDifIGATURE YEH WITH HAMZA ABOVE ",
    "WITH JEEM ISOLATED^oHAH^oMEEM^oALEF MAKSURA^oYEHqoBEH WITH JEEMzoHAHzrKzoMEEMzoALEF MAKSURAzoYEHqoTEH WITH J",
    "EEMzoHAHzrKzoMEEMzoALEF MAKSURAzoYEHroHEH WITH JEEM!rM!oALEF MAKSURA!oYEHqpJEEM WITH HA!oMEEMqrHAH WITH JzrM",
    "qrKHAH WITH J!oHAH!oMEEMqrSEEN WITH J!oHAH!rK!oMEEMroAD WITH HAHzoMEEMqrDAD WITH JzoHAHzrKzoMEEMqoTAH WITH H",
    "AHzoMEEMq!ZqrAIN WITH JzrMqrGHAIN WITH J$rMqrFEH WITH JzoHAHzrKzoMEEMzoALEF MAKSURAzoYEHqpQAF WITH HAzoMEEMz",
    "oALEF MAKSURAzoYEHqoKAF WITH ALEFzoJEEMzoHAHzrKzoLAMzpMEEzoALEF MAKSURAzoYEHqoLAM WITH JEEMzoHAHzrKzoMEEMzoA",
    "LEF MAKSURAzoYEHqoMEEM WITH JEEM!oHAH!rK!oMEEM!oALEF MAKSURA!oYEHqoNOON WITH JEEM!oHAH!rK!oMEEM!oALEF MAKSUR",
    "A!oYEHqoHEH WITH JEEMzrMzoALEF MAKSURAzoYEHqoYEH WITH JEEMzoHAHzrKzoMEEMzoALEF MAKSURAzoYEHqoTHAL WITH SUPER",
    "SCRIPT ALEFq:REHq:ALEF MAKSURAqoSHADDA WITH DAMMATAN%sKASR%oFATHA%pDAMM%pKASR%oSUPERSCRIPT ALEFqfYEH WITH HA",
    "MZA ABOVE WITH REH FINAL^lZAIN^lMEEM^lNOON^lALEF MAKSURA^lYEHqnBEH WITH RzlZAINzlMEEMzlNOONzlALEF MAKSURAzlY",
    "EHqnTEH WITH RzlZAINzlMEEMzlNOONzlALEF MAKSURAzlYEHrnHEH WITH R!lZAIN!lMEEM!lNOON!lALEF MAKSURA!lYEHqlFEH WI",
    "TH ALEF MAKSURAzlYEHqlQAF WITH ALEF MAKSURAzlYEHqlKAF WITH ALEFzlLAMzmMEEzlALEF MAKSURAzlYEHqlLAM WITH MEEMz",
    "lALEF MAKSURAzlYEHqlMEEM WITH ALEF!lMEEMqlNOON WITH REH!lZAIN!lMEEM!lNOON!lALEF MAKSURA!lYEHqlALEF MAKSURA W",
    "ITH SUPERSCRIPT ALEFqlYEH WITH REHzlZAINzlMEEMzlNOONzlALEF MAKSURAzlYEHzhHAMZA ABOVE WITH JEEM INITI^nHAH^qK",
    "^nMEEM^nHEHqnBEH WITH JEEMznHAHzqKznMEEMznHEHqnTEH WITH JEEMznHAHzqKznMEEMznHEHrnHEH WITH MEEMqnJEEM WITH HA",
    "H!nMEEMqqHAH WITH JzqMqqKHAH WITH J!qMqqSEEN WITH J!nHAH!qK!nMEEMrnAD WITH HAHzqKznMEEMqqDAD WITH JznHAHzqKz",
    "nMEEMqnTAH WITH HAHqnZAH WITH MEEMqqAIN WITH JzqMqqGHAIN WITH J$qMqqFEH WITH JznHAHzqKznMEEMqnQAF WITH HAHzn",
    "MEEMqqKAF WITH JznHAHzqKznLAMzoMEEqqLAM WITH JznHAHzqKznMEEMznHEHqnMEEM WITH JEEM!nHAH!qK!nMEEMqqNOON WITH J",
    "!nHAH!qK!nMEEM!nHEHqnHEH WITH JEEMzqMznSUPERSCRIPT ALEFqnYEH WITH JEEMznHAHzqKznMEEMznHEH!iAMZA ABOVE WITH M",
    "EEM MED^mHEHqmBEH WITH MEEMzmHEHqmTEH WITH MEEMzmHEHrmHEH WITH MEEM!mHEHqmSEEN WITH MEEM!mHEHrmHEEN WITH MEE",
    "M$mHEHqmKAF WITH LAMznMEEqwLAMqwNOON!mHEHqmYEH WITH MEEMzmHEHqmSHADDA WITH FATHA%nDAMM%nKASRqfTAH WITH ALEF ",
    "MAKSURA ISOLATEDzoYEHqoAIN WITH ALEF MAKSURAzoYEHqoGHAIN WITH ALEF MAKSURA$oYEHqoSEEN WITH ALEF MAKSURA!oYEH",
    "roHEEN WITH ALEF MAKSURA$oYEHqoHAH WITH ALEF MAKSURAzoYEHqoJEEM WITH ALEF MAKSURA!oYEHqoKHAH WITH ALEF MAKSU",
    "RA!oYEHqoSAD WITH ALEF MAKSURAzoYEHqoDAD WITH ALEF MAKSURAzoYEHqoSHEEN WITH JEEM$oHAH$rK$oMEEM$oREHr!rxADqzD",
    "qfTAH WITH ALEF MAKSURA FINALzlYEHqlAIN WITH ALEF MAKSURAzlYEHqlGHAIN WITH ALEF MAKSURA$lYEHqlSEEN WITH ALEF",
    " MAKSURA!lYEHrlHEEN WITH ALEF MAKSURA$lYEHqlHAH WITH ALEF MAKSURAzlYEHqlJEEM WITH ALEF MAKSURA!lYEHqlKHAH WI",
    "TH ALEF MAKSURA!lYEHqlSAD WITH ALEF MAKSURAzlYEHqlDAD WITH ALEF MAKSURAzlYEHqlSHEEN WITH JEEM$lHAH$oK$lMEEM$",
    "lREHrxruADqwDqhSHEEN WITH JEEM INITI$nHAH$qK$nMEEMrnEEN WITH HEHrzHqnTAH WITH MEEMqiSEEN WITH JEEM MED!mHAH!",
    "pKrmHEEN WITH JEEM$mHAH$pKqmTAH WITH MEEMqyZqhALEF WITH FATHATAN FIN.fISOLATEDaaORNATE LEFT PARENTHESIShnRIG",
    "HaaARABIC LIGATURE RAHIMAHU ALLAAHsbDI ALLAAHU AN*aAA*aUM,aAA+bNNqaSALLALLAAHU ALAYHI WA-AALIHqaALAYHI AS-SA",
    "LAAMwkMxkAAwj AS-SALAATU WqaQUDDISA SIRRAHqaSALLALLAHU ALAYHI WAAALIHEE WA-SALLAMqcALAYHAA AS-SALAqaTABAARAK",
    "A WA-TAAALAAqaRAHIMAHUM ALLAAHqaTEH WITH JEEM WITH MEEM INITIAL FORMzhHAH WITH JEEM FIN=hINITI,qMz!KzqMEEM W",
    "ITH J.nHAH.qKqhJEEM WITH MEEM WITH HAH FIN>hINITIqhHAH WITH MEEM WITH YEH FIN.lALEF MAKSURAqhSEEN WITH HAH W",
    "ITH JEEM INITI!nJEEM WITH HAH:hALEF MAKSURA FIN!lMEEM WITH HAH>hINITI:nJEEM:hMEEM FIN?hINITIrhAD WITH HAH WI",
    "TH HAH FIN<hINITIzhMEEM WITH MEEM FINrvHEEN WITH HAH?hINITI$hJEEM WITH YEH FIN$mMEEM WITH KHA^hINITI;hMEEM F",
    "IN^hINITIqhDAD WITH HAH WITH ALEF MAKSURA FINzlKHAH WITH MEEM>hINITIqhTAH WITH MEEM WITH HAH FIN=hINITI.nMEE",
    "M.hYEH FINqlAIN WITH JEEM WITH MEEMzyM>hINITI.hALEF MAKSURA FINqlGHAIN WITH MEEM WITH MEEM;lYEH;lALEF MAKSUR",
    "AqlFEH WITH KHAH WITH MEEM>hINITIqhQAF WITH MEEM WITH HAH FIN.lMEEMqvLAM WITH HAH,lYEH,lALEF MAKSURAzhJEEM W",
    "ITH JEEM INITI>hFINzoKHAH WITH M>hINITIzhMEEM WITH HAH FIN=hINITIqnMEEM WITH HAH WITH JEEM.qM.hYEH FIN!hJEEM",
    " WITH HAH INITI:nMEEM!qKHAH WITH J:qM!nJEEM WITH KHAHqnHEH WITH MEEM WITH JEEM.qMqxNOON WITH HAH.hALEF MAKSU",
    "RA FIN!lJEEM WITH MEEM?hINITI:hALEF MAKSURA FIN!lMEEM WITH YEH:lALEF MAKSURAqlYEH WITH MEEM WITH MEEM>hINITI",
    "qhBEH WITH KHAH WITH YEH FINquTEH WITH JEEM.lALEF MAKSURAzlKHAH WITH YEH.lALEF MAKSURAzlMEEM WITH YEH.lALEF ",
    "MAKSURAqlJEEM WITH MEEM WITH YEH!lHAH WITH ALEF MAKSURA!&MEEMq&SEEN WITH KHAHrlAD WITH HAH WITH YEHr&HEENq&D",
    "ADquLAM WITH JEEMzxMquYEH WITH HAHzuJEEMzxMq(MEEMq(QAFquNOON WITH HAHqhQAF WITH MEEM WITH HAH INITIqnLAM WIT",
    "H HAH WITH MEEMqhAIN WITH MEEM WITH YEH FINq(KAFqhNOON WITH JEEM WITH HAH INITIqhMEEM WITH KHAH WITH YEH FIN",
    "qhLAM WITH JEEM WITH MEEM INITIqhKAF WITH MEEM WITH MEEM FINqyLAM WITH JqlNOON WITH JEEM WITH HAHqmJEEM WITH",
    " HAH WITH YEquHAH WITH JEEMq(MEEMqxFEH WITH MquBEH WITH HAHqhKAF WITH MEEM WITH MEEM INITIq!AIN WITH Jq!SAD ",
    "WITH MrhEEN WITH KHAH WITH YEH FINquNOON WITH JEEMqaSALAAMUHU ALAYNAAtaLA USED AS KORANIC STOP SIGN ISOLATED",
    " FORMq^QAqoALLAHroKBARqoMOHAMMADqoSALAMqoRASOULqoALAYHEqoWASALLAMqoSALLAvbLLAHOU ALAYHE WASALLAqaJALLAJALALO",
    "UHOUaaRIAL SIGNaaARABIC LIGATURE BISMILLAH AR-RAHMAN AR-RAHEEMqaSUBHAANAHU WA TAAALAAqaAZZA WA JALLaaVARIATI",
    "ON SELECTOR-1ta2ta3ta4ta5ta6ta7ta8ta9ta10ua1ua2ua3ua4ua5ua6aaPRESENTATION FORM FOR VERTICAL COMMA)fIDEOGRAPH",
    "IC _aFULL STOP)aCOLON)fSEMI)aEXCLAMATION MARK)jQUES)aLEFT WHITE LENTICULAR BRACKET)cRIGHT WHITE LENTICULAR B",
    "RAKC)aHORIZONTAL ELLIPSISaaCOMBINING LIGATURE LEFT HALFtgRIGHkgDOUBLE TILDE LEFxgRIGHkgMACRON LEFrgRIGHkaCON",
    "JOINING MACRONkaLIGATURE LEFT HALF BELOWtmRIGHkmTILDE LEFqmRIGHkmMACRON LEFrmRIGHkgCONJOINING MACRONlaYRILLI",
    "C TITLO LEFT HALFzgRIGHaaPRESENTATION FORM FOR VERTICAL TWO DOT LEADER)aEM DASH*fN)aLOW LINE)iWAVY )aLEFT PA",
    "RENTHESIS)nRIGH)aLEFT CURLY BRACKET)pRIGH)iLEFT TORTOISE SHELL)yRIGH)iLEFT BLACK LENTICULAR)!RIGH)iLEFT DOUB",
    "LE ANGLE)wRIGH)oLEFT)pRIGH)iLEFT CORNER)qRIGH)pLEFT WHITE)wRIGHabSESAME DOakWHITE abPRESENTATION FORM FOR VE",
    "RTICAL LEFT SQUARE BRACKE)qRIGHaaDASHED OVERLINEajCENTRELINEajWAVYanDOUBLE beASHED LOW ajCENTRELINEajWAVYaaS",
    "MALL COMMAgfIDEOGRAPHIC gaFULL STOPgaSEMICOLONgfgaQUESTION MARKgjEXCLAMAhaM DASHgaLEFT PARENTHESISgnRIGHgaLE",
    "FT CURLY BRACKETgpRIGHgiLEFT TORTOISE SHELLgyRIGHgaNUMBER SIGNgaAMPERSANDhaSTERISKgaPLUS SIGNgaHYPHEN-MINUSg",
    "aLESS-THAN SIGNgkGREATERgfEQUALSgaREVERSE SOLIDUSgaDOLLAR SIGNgfPERCENTgaCOMMERCIAL ATaaARABIC FATHATAN ISOL",
    "ATED FORMhaTATWEEL WITH FATHATAN ABOVEhaDAMMATAN ISOLATED FORMhaTAIL FRAGMENThaKASRATAN ISOLATED FORMhoFATHA",
    "nfMEDIALhfDAMMA ISOLATEDnfMEDIALhfKASRA ISOLATEDnfMEDIALhfSHADDA ISOLATEDofMEDIALifUKUN ISOLATEDnfMEDIALhfLE",
    "TTER HAMZA ISOLATEDooALEF WITH MADDA ABOVE:fFINALyfHAMZA ABOVE ISOLATED:fFINALofWAW WITH HAMZA ABOVE ISOLATE",
    "D.fFINALofALEF WITH HAMZA BELOW ISOLATED:fFINALofYEH WITH HAMZA ABOVE ISOLATED.fFINAL.hINITI.iMEDofALEF ISOL",
    "ATEDtfFINALofBEH ISOLATEDsfFINALshINITIsiMEDofTEH MARBUTA ISOLATED!fFINALsfISOLATEDsfFINALshINITIsiMEDpfHEH ",
    "ISOLATEDtfFINALthINITItiMEDofJEEM ISOLATEDtfFINALthINITItiMEDofHAH ISOLATEDsfFINALshINITIsiMEDofKHAH ISOLATE",
    "DtfFINALthINITItiMEDofDAL ISOLATEDsfFINALofTHAL ISOLATEDtfFINALofREH ISOLATEDsfFINALofZAIN ISOLATEDtfFINALof",
    "SEEN ISOLATEDtfFINALthINITItiMEDpfHEEN ISOLATEDufFINALuhINITIuiMEDpfAD ISOLATEDsfFINALshINITIsiMEDofDAD ISOL",
    "ATEDsfFINALshINITIsiMEDofTAH ISOLATEDsfFINALshINITIsiMEDofZAH ISOLATEDsfFINALshINITIsiMEDofAIN ISOLATEDsfFIN",
    "ALshINITIsiMEDofGHAIN ISOLATEDufFINALuhINITIuiMEDofFEH ISOLATEDsfFINALshINITIsiMEDofQAF ISOLATEDsfFINALshINI",
    "TIsiMEDofKAF ISOLATEDsfFINALshINITIsiMEDofLAM ISOLATEDsfFINALshINITIsiMEDofMEEM ISOLATEDtfFINALthINITItiMEDo",
    "fNOON ISOLATEDtfFINALthINITItiMEDofHEH ISOLATEDsfFINALshINITIsiMEDofWAW ISOLATEDsfFINALofALEF MAKSURA ISOLAT",
    "ED$fFINALofYEH ISOLATEDsfFINALshINITIsiMEDifIGATURE LAM WITH ALEF WITH MADDA ABOVE ISOLATED~fE FINAL.fHAMZA ",
    "ABOVE ISOLATED~fE FINAL?fBELOW ISOLATED~fW FINAL(fISOLATED(fFINALaaZERO WIDTH NO-BREAK SPACEaaFULLWIDTH EXCL",
    "AMATION MARKkkQUOTkaNUMBER SIGNkgDOLLAkfPERCENTkaAMPERSANDlaPOSTROPHEkaLEFT PARENTHESISknRIGHkaASTERISKkaPLU",
    "S SIGNkaCOMMAkaHYPHEN-MINUSkaFULL STOPkaSOLIDUSkaDIGIT ZEROqaONEqaTWOraHREEqaFOURraIVEqaSIXraEVENqaEIGHTqaNI",
    "NEkaCOLONkfSEMIkbLESS-THAN SIGkfEQUALSkfGREATER-THANkaQUESTION MARKkaCOMMERCIAL ATkaLATIN CAPITAL LETTER A)a",
    "B)aC)aD)aE)aF)aG)aH)aI)aJ)aK)aL)aM)aN)aO)aP)aQ)aR)aS)aT)aU)aV)aW)aX)aY)aZlaEFT SQUARE BRACKETkaREVERSE SOLID",
    "USlaIGHT SQUARE BRACKETkbCIRCUMFLEX ACCENkaLOW LINEkaGRAVE ACCENTkaLATIN SMALL LETTER A&aB&aC&aD&aE&aF&aG&aH",
    "&aI&aJ&aK&aL&aM&aN&aO&aP&aQ&aR&aS&aT&aU&aV&aW&aX&aY&aZlaEFT CURLY BRACKETkaVERTICAL LINEkaRIGHT CURLY BRACKE",
    "TkaTILDEkaLEFT WHITE PARENTHESISktRIGHaaHALFWIDTH IDEOGRAPHIC FULL STOPkaLEFT CORNER BRACKETkqRIGHkaIDEOGRAP",
    "HIC COMMAkaKATAKANA MIDDLE DOTtaLETTER WO!aSMALL A*aI*aU*aE*aO*aYA+aU+aO*aTUsa-HIRAGANA PROLONGED SOUND MARK",
    "sa LETTER A!aI!aU!aE!aO!aKA$aI$aU$aE$aO!aSA$aI$aU$aE$aO!aTA$aI$aU$aE$aO!aNA$aI$aU$aE$aO!aHA$aI$aU$aE$aO!aMA$",
    "aI$aU$aE$aO!aYA$aU$aO!aRA$aI$aU$aE$aO!aWA!aNtaVOICED SOUND MARKtrSEMI-kaHANGUL FILLERraLETTER KIYEOKygSSANGy",
    "aKIYEOK-SIOSyaNIEUN&a-CIEUC(aHIEUHyaTIKEUTygSSANGyaRIEUL&a-KIYEOK(aMIEUM(aPIEUP(aSIOS(aTHIEUTH(bPHIEUP(bHIEU",
    "yaMIEUMyaPIEUPyfSSANGyaPIEUP-SIOSyezdSANGSyaIEUNGyaCIEUCyfSSANGyaCHIEUCHybKHIEUKybTHIEUTybPHIEUPybHIEUyaAzaE",
    "yaYA!aEyaEOzayaYEO!ayaOyaWA!aEybOyaYOyaUyaWEO!azaIyaYUybEyaYIybaaFULLWIDTH CENT SIGNkfPOUNDkfNOTkbMACROkaBRO",
    "KEN BARkaYEN SIGNkgWOaaHALFWIDTH FORMS LIGHT VERTICALkaLEFTWARDS ARROWklUPklRIGHTklDOWNkaBLACK SQUAREkbWHITE",
    " CIRCLaaINTERLINEAR ANNOTATION ANCHORxcSEPARATxeTERMINabOBJECT REPLACEMENT CHARACTEav"]⟩

end StateMachine.Text
