import StateMachine.Text.Name.Table

/-!
# Names of characters: pictures

The code points from 1E000 on: late scripts, pictures, and the characters for special purposes.
-/

namespace StateMachine.Text

/-- The names of these characters. -/
def pictureNames : NameTable :=
  ⟨
   [(0x1e000, 0x1e006), (0x1e008, 0x1e018), (0x1e01b, 0x1e021), (0x1e023, 0x1e024), (0x1e026, 0x1e02a),
    (0x1e100, 0x1e12c), (0x1e130, 0x1e13d), (0x1e140, 0x1e149), (0x1e14e, 0x1e14f), (0x1e290, 0x1e2ae),
    (0x1e2c0, 0x1e2f9), (0x1e2ff, 0x1e2ff), (0x1e7e0, 0x1e7e6), (0x1e7e8, 0x1e7eb), (0x1e7ed, 0x1e7ee),
    (0x1e7f0, 0x1e7fe), (0x1e800, 0x1e8c4), (0x1e8c7, 0x1e8d6), (0x1e900, 0x1e94b), (0x1e950, 0x1e959),
    (0x1e95e, 0x1e95f), (0x1ec71, 0x1ecb4), (0x1ed01, 0x1ed3d), (0x1ee00, 0x1ee03), (0x1ee05, 0x1ee1f),
    (0x1ee21, 0x1ee22), (0x1ee24, 0x1ee24), (0x1ee27, 0x1ee27), (0x1ee29, 0x1ee32), (0x1ee34, 0x1ee37),
    (0x1ee39, 0x1ee39), (0x1ee3b, 0x1ee3b), (0x1ee42, 0x1ee42), (0x1ee47, 0x1ee47), (0x1ee49, 0x1ee49),
    (0x1ee4b, 0x1ee4b), (0x1ee4d, 0x1ee4f), (0x1ee51, 0x1ee52), (0x1ee54, 0x1ee54), (0x1ee57, 0x1ee57),
    (0x1ee59, 0x1ee59), (0x1ee5b, 0x1ee5b), (0x1ee5d, 0x1ee5d), (0x1ee5f, 0x1ee5f), (0x1ee61, 0x1ee62),
    (0x1ee64, 0x1ee64), (0x1ee67, 0x1ee6a), (0x1ee6c, 0x1ee72), (0x1ee74, 0x1ee77), (0x1ee79, 0x1ee7c),
    (0x1ee7e, 0x1ee7e), (0x1ee80, 0x1ee89), (0x1ee8b, 0x1ee9b), (0x1eea1, 0x1eea3), (0x1eea5, 0x1eea9),
    (0x1eeab, 0x1eebb), (0x1eef0, 0x1eef1), (0x1f000, 0x1f02b), (0x1f030, 0x1f093), (0x1f0a0, 0x1f0ae),
    (0x1f0b1, 0x1f0bf), (0x1f0c1, 0x1f0cf), (0x1f0d1, 0x1f0f5), (0x1f100, 0x1f1ad), (0x1f1e6, 0x1f202),
    (0x1f210, 0x1f23b), (0x1f240, 0x1f248), (0x1f250, 0x1f251), (0x1f260, 0x1f265), (0x1f300, 0x1f6d7),
    (0x1f6dd, 0x1f6ec), (0x1f6f0, 0x1f6fc), (0x1f700, 0x1f773), (0x1f780, 0x1f7d8), (0x1f7e0, 0x1f7eb),
    (0x1f7f0, 0x1f7f0), (0x1f800, 0x1f80b), (0x1f810, 0x1f847), (0x1f850, 0x1f859), (0x1f860, 0x1f887),
    (0x1f890, 0x1f8ad), (0x1f8b0, 0x1f8b1), (0x1f900, 0x1fa53), (0x1fa60, 0x1fa6d), (0x1fa70, 0x1fa74),
    (0x1fa78, 0x1fa7c), (0x1fa80, 0x1fa86), (0x1fa90, 0x1faac), (0x1fab0, 0x1faba), (0x1fac0, 0x1fac5),
    (0x1fad0, 0x1fad9), (0x1fae0, 0x1fae7), (0x1faf0, 0x1faf6), (0x1fb00, 0x1fb92), (0x1fb94, 0x1fbca),
    (0x1fbf0, 0x1fbf9), (0x2f800, 0x2fa1d), (0xe0001, 0xe0001), (0xe0020, 0xe007f), (0xe0100, 0xe01ef)],
   ["aaCOMBINING GLAGOLITIC LETTER AZU%aBUKY%aVEDE%aGLAGOLI%aDOBRO%aYESTU%aZHIVETE&aEMLJA%aIZHE&dNITIAL I&a%bDJER",
    "V%aKAKO%aLJUDIJE%bMYSLIT%aNASHI%aONU%aPOKOJI%bRITS%aSLOVO%bTVRID%aUKU%bFRIT%bHER%aSHTA%aTSI%bCHRIV%aSHA%aYER",
    "U)aI&bAT&aU%aSMALL YUS%aYO%aIOTATED SMALL YUS%eBIG%hIOTATED %aFITAabNYIAKENG PUACHUE HMONG LETTER M(bTS(bNT(",
    "c(bH(bN(bX(bNK(bC(bL(bS(bZ(bNC)bTS(bK(bD(bNY)bR(bV(bNTX(d(bF(bR(bQ(bY(bNQ(bP(bXY(bNP(bDL(cNP(aHAH(aMLA(cP(bG",
    "(bRR(b)aA(aI(aU(aO)aO(aE)aE(aWxaTONE-B%aM%aJ%aV%aS%aG%aDxaSIGN FOR PERSON*aTHING*aLOCATION*aANIMAL*aINVERTEB",
    "RATE%aXW XWyaYLLABLE LENGTHENERxaDIGIT ZERO&aONE&aTWO(aHREE&aFOUR(aIVE&aSIX(aEVEN&aEIGHT&aNINExaLOGOGRAM NYA",
    "JxaCIRCLED CAabTOTO LETTER PmbBmbTmbDmbKmbGmbMmbNnbGmbSmbCHmbYmbWmbJmbHmbRmbLmaImbBREATHY maIUmcBREATHY mbma",
    "EmbBREATHY maEOmcBREATHY mbmaAEmcBREATHY maAfaSIGN RISING TONEaaWANCHO LETTER AApaobBobCobDobGobYobPHobLobNo",
    "bPobTpbHobFobSpbHobJobZobWobVobKoaOoaAUoaRAobMobKHocoaEoaIoaNGAoaUoaLLHAobTSpbRoaONGocAApcocIoaONobEobAAoaNY",
    "AoaUENoaYIHhaTONE TUPpaNImbKOpaNIhaDIGIT ZEROnaONEnaTWOoaHREEnaFOURoaIVEnaSIXoaEVENnaEIGHTnaNINEhaNGUN SIGNa",
    "aETHIOPIC SYLLABLE HHYAvaUvaIvaAAvaEEwavaOsaGURAGE HHWAsaHHWIvaEEwasaGURAGE MWI$aEEzaQWI$aEE%azaBWI$aEEzaKWI",
    "$aEE%azaGWI$aEE%azaFWI$aEEzaPWI$aEEaaMENDE KIKAKUI SYLLABLE M001 KI!a2 KA!a3 KUza65 KEEzb95 Kza76 KOOzb48 Ky",
    "a179 KUAya004 WI!a5 WA!a6 WUya126 WEEzb18 W!a4 WOOyb045 Wya194 WUIzb43 WEyb061 WVza49 WVAya139 WVEya007 MIN!",
    "b8 MA!b9 MUzb59 MEzb94 MOyb154 MUAzb89 MUEya010 BI!a1 BA!a2 BUya150 BEEyb097 Bya103 BOOzb38 Bya013 I!a4 A!a5",
    " Uya163 EEzb00 za65 OOzb47 za37 EI!a1 IN!d5zb95 Azb78 Eya019 SIza20 SA!a1 SUya162 SEEzb16 Sza36 SOOyb079 Sya",
    "196 SIAya025 LI!a6 LA!a7 LUza84 LEEzb73 Lza54 LOOyb153 Lza10 LONG LEya016 DI!a7 DA!a8 DUza89 DEEya180 DOO!b1",
    " Dya022 TI!a3 TA!a4 TUza91 TEEzb55 Tya104 TOOyb069 Tza28 JI!a9 JAza30 JUya157 JEEzb13 Jza60 JOOyb063 Jyd175 ",
    "LONGya031 YI!a2 YA!a3 YUya109 YEEyb080 Yya141 YOOzb21 Yya034 FI!a5 FA!a6 FUza78 FEE!b5 Fya133 FOOyb088 Fya19",
    "7 FUAza01 FANyb037 NI!b8 NA!b9 NUyb117 NEzb69 NOza76 HIya041 HAya186 HUya040 HEEzb96 Hza42 HOOyb140 Hya083 H",
    "EEIya128 HOOUya053 HINyb130 HAyb087 HUzb52 HEyb193 HOyb046 HUAza90 NGGIza43 NGGAza82 NGGUya115 NGGEEzb46 NGG",
    "za56 NGGOOzb20 NGGza59 NGGAAzb27 NGGUya086 LONG NGGEya106 LONG NGGOOzb83 LONG NGGza55 GIza11 GAza68 GUza90 G",
    "EEza66 GUEI!a7 GUANzb84 NGEyb057 NGOyb177 NGUAya068 PIza99 PAza50 PUza81 PEEzb51 Pya102 POOyb066 Pya145 MBIy",
    "a062 MBAya122 MBUya047 MBEEyf188yb072 MBya172 MBOO!b4 MBza87 MBUUza61 LONG MBEza05 LONG MBOOzb42 LONG MBza32",
    " KPIya092 KPAza74 KPUza44 KPEEyb108 KPza12 KPOOzb58 KPza24 GBIya056 GBAya148 GBUya093 GBEEyb107 GBya071 GBOO",
    "!b0 GBya171 RAza23 NDI!a9 NDA!a5 NDUza91 NDEEzb19 NDya067 NDOO!b4 NDya152 NJAza92 NJUza49 NJEEza34 NJOOza82 ",
    "VI!a5 VAza51 VUza73 VEEyb085 Vya144 VOOyb077 Vya164 NYINyb058 NYAyb170 NYUyb098 NYEzb60 NYOoaDIGIT ONEuaTWOv",
    "aHREEuaFOURvaIVEuaSIXvaEVENuaEIGHTuaNINEoaCOMBINING NUMBER TEENS+c)bHUNDRED)cTHOUSAN*iEN T)kHUNDRED)bMILLION",
    "aaADLAM CAPITAL LETTER ALIFvaDAALIvaLAAMvbMIIvaBAvaSINNYIIYHEvbPvbBHvaRAvaEvaFAvaIvaOvaDHAvaYHEvaWAWvaNUNvaK",
    "AFvaYAvaUvaJIIMvaCHIvaHAvaQAAFvaGAvbNYvaTUvaNHAvbVvbKHvaGBEvaZALvaKPOvaSHAgaSMALL LETTER ALIFtaDAALItaLAAMtb",
    "MIItaBAtaSINNYIIYHEtbPtbBHtaRAtaEtaFAtaItaOtaDHAtaYHEtaWAWtaNUNtaKAFtaYAtaUtaJIIMtaCHItaHAtaQAAFtaGAtbNYtaTU",
    "taNHAtbVtbKHtaGBEtaZALtaKPOtaSHAgaALIF LENGTHENERglVOWELgaGEMINATION MARKgaHAMZAgaCONSONANT MODIFIERgsGEMINA",
    "TE gaNUKTAhaASALIZATION MARKgaDIGIT ZEROmaONEmaTWOnaHREEmaFOURnaIVEmaSIXnaEVENmaEIGHTmaNINEgaINITIAL EXCLAMA",
    "TION MARKojQUESaaINDIC SIYAQ NUMBER ONEtaTWOuaHREEtaFOURuaIVEtaSIXuaEVENtaEIGHTtaNINEtaTENuaWENTYucHIRtdFOuc",
    "IFtcSIXucEVENtcEIGHtcNINEtaONE HUNDREDtiTWOuiHREEtiFOURuiIVEtiSIXuiEVENtiEIGHTtiNINEtbONE THOUSANtjTWOujHREE",
    "tjFOURujIVEtjSIXujEVENtjEIGHTtjNINEtjTENujWENTYulHIRtmFOulIFtlSIXulEVENtlEIGHtlNINEtaLAKHxaANmaLAKH MARKmaNU",
    "MBER KARORyaANtaPREFIXED ONE%aTWO&aHREE%aFOUR&aIVE%aSIX&aEVEN%aEIGHT%aNINEmaPLACEHOLDERmcFRACTION ONE QUARTz",
    "aHALFvaTHREE QUARTERSmaRUPEE MARKmaNUMBER ALTERNATE ONE&aTWO(aEN THOUSANDmaALTERNATE LAKH MARKaaOTTOMAN SIYA",
    "Q NUMBER ONEvaTWOwaHREEvaFOURwaIVEvaSIXwaEVENvaEIGHTvaNINEvaTENwaWENTYwcHIRvdFOwcIFvcSIXwcEVENvcEIGHvcNINEva",
    "ONE HUNDREDviTWOwiHREEviFOURwiIVEviSIXwiEVENviEIGHTviNINEvbONE THOUSANvjTWOwjHREEvjFOURwjIVEvjSIXwjEVENvjEIG",
    "HTvjNINEvjTENwjWENTYwlHIRvmFOwlIFvlSIXwlEVENvlEIGHvlNINEoaMARRATANoaALTERNATE NUMBER TWO*aHREE)aFOUR*aIVE)aS",
    "IX*aEVEN)aEIGHT)aNINE)aTEN)aFOUR HUNDRED)iSIX)bTWO THOUSAN*jENoaFRACTION ONE HALF$aSIXTHaaARABIC MATHEMATICA",
    "L ALEFuaBEHuaJEEMuaDALuaWAWuaZAINuaHAHucTubYEuaKAFuaLAMubMEEuaNOONubSEEubAIuaFEHuaSADuaQAFuaREHuaSHEENuaTEHv",
    "cHubKHAuaTHALuaDADuaZAHuaGHAINuaDOTLESS BEH%aNOON%aFEH%aQAFuaINITIAL BEH%aJEEM%aHEH&bA%bYE%aKAF%aLAM%bMEE%aN",
    "OON%bSEE%bAI%aFEH%aSAD%aQAF%aSHEEN%aTEH&cH%bKHA%aDAD%aGHAINuaTAILED JEEM$aHAH$bYE$aLAM$aNOON$bSEE$bAI$aSAD$a",
    "QAF$aSHEEN$aKHAH$aDAD$aGHAIN$bDOTLESS NOO.aQAFuaSTRETCHED BEH(aJEEM(aHEH)bA(cT(bYE(aKAF(aMEEM(aNOON(bSEE(bAI",
    "(aFEH(aSAD(aQAF(aSHEEN(aTEH)cH(bKHA(aDAD(aZAH(aGHAIN(aDOTLESS BEH<cFuaLOOPED ALEF$aBEH$aJEEM$aDAL$aHEH$aWAW$",
    "aZAIN$aHAH$cT$bYE$aLAM$bMEE$aNOON$bSEE$bAI$aFEH$aSAD$aQAF$aREH$aSHEEN$aTEH%cH$bKHA$aTHAL$aDAD$aZAH$aGHAINuaD",
    "OUBLE-STRUCK BEH,aJEEM,aDAL,aWAW,aZAIN,aHAH,cT,bYE,aLAM,bMEE,aNOON,bSEE,bAI,aFEH,aSAD,aQAF,aREH,aSHEEN,aTEH.",
    "cH,bKHA,aTHAL,aDAD,aZAH,aGHAINuaOPERATOR MEEM WITH HAH WITH TATWEEL&bHAH WITH DAaaMAHJONG TILE EAST WINDnfSO",
    "UTHnfWESTnfNORTHnaRED DRAGONnhGREENnhWHITEnaONE OF CHARACTERSnoTWOooHREEnoFOURooIVEnoSIXooEVENnoEIGHTnoNINEn",
    "bONE OF BAMBOOnlTWOolHREEnlFOURolIVEnlSIXolEVENnlEIGHTnlNINEnbONE OF CIRCLEnlTWOolHREEnlFOURolIVEnlSIXolEVEN",
    "nlEIGHTnlNINEnaPLUMnaORCHIDnaBAMBOOnaCHRYSANTHEMUMnaSPRINGoaUMMERnaAUTUMNnaWINTERncJOKnaBACKafDOMINO TILE HO",
    "RIZONTALwa-00-00$a1$a2$a3$a4$a5$a6ya1-00$a1$a2$a3$a4$a5$a6ya2-00$a1$a2$a3$a4$a5$a6ya3-00$a1$a2$a3$a4$a5$a6ya",
    "4-00$a1$a2$a3$a4$a5$a6ya5-00$a1$a2$a3$a4$a5$a6ya6-00$a1$a2$a3$a4$a5$a6maVERTICAL BACKua-00-00za1za2za3za4za5",
    "za6wa1-00za1za2za3za4za5za6wa2-00za1za2za3za4za5za6wa3-00za1za2za3za4za5za6wa4-00za1za2za3za4za5za6wa5-00za1",
    "za2za3za4za5za6wa6-00za1za2za3za4za5za6aaPLAYING CARD BACKnaACE OF SPADESnkTWOokHREEnkFOURokIVEnkSIXokEVENnk",
    "EIGHTnkNINEnkTENnkJACKnkKNIGHTnkQUEENnkKINGnbACE OF HEARTnkTWOokHREEnkFOURokIVEnkSIXokEVENnkEIGHTnkNINEnkTEN",
    "nkJACKnkKNIGHTnkQUEENnkKINGnaRED JOKERnaACE OF DIAMONDSnmTWOomHREEnmFOURomIVEnmSIXomEVENnmEIGHTnmNINEnmTENnm",
    "JACKnmKNIGHTnmQUEENnmKINGnaBLACK JOKERnaACE OF CLUBSnjTWOojHREEnjFOURojIVEnjSIXojEVENnjEIGHTnjNINEnjTENnjJAC",
    "KnjKNIGHTnjQUEENnjKINGnaWHITE JOKERnaFOOLnaTRUMP-1ta2ta3ta4ta5ta6ta7ta8ta9ta10ua1ua2ua3ua4ua5ua6ua7ua8ua9ta2",
    "0ua1aaDIGIT ZERO FULL STOPlaCOMMAggONEggTWOhgHREEggFOURhgIVEggSIXhgEVENggEIGHTggNINEcaNGBAT CIRCLED SANS-SER",
    "IF DIGIT ZEROi&NEGATIVE aaCIRCLED ZERO WITH SLASHiaANTICLOCKWISE ARROWiaDOLLAR SIGN WITH OVERLAID BACKSLASHa",
    "aPARENTHESIZED LATIN CAPITAL LETTER A.aB.aC.aD.aE.aF.aG.aH.aI.aJ.aK.aL.aM.aN.aO.aP.aQ.aR.aS.aT.aU.aV.aW.aX.a",
    "Y.aZaaTORTOISE SHELL BRACKETED LATIN CAPITAL LETTER SaaCIRCLED ITALIC LATIN CAPITAL LETTER C:aRiaCDiaWZbaOPY",
    "LEFT SYMBOLaaSQUARED LATIN CAPITAL LETTER A&aB&aC&aD&aE&aF&aG&aH&aI&aJ&aK&aL&aM&aN&aO&aP&aQ&aR&aS&aT&aU&aV&a",
    "W&aX&aY&aZiaHVibMiaSDjaSiaPPViaWCaaNEGATIVE CIRCLED LATIN CAPITAL LETTER A<aB<aC<aD<aE<aF<aG<aH<aI<aJ<aK<aL<",
    "aM<aN<aO<aP<aQ<aR<aS<aT<aU<aV<aW<aX<aY<aZaaRAISED MC SIGNifDifRaaCIRCLED CCja WITH OVERLAID BACKSLASHiaHUMAN",
    " FIGUREaaNEGATIVE SQUARED LATIN CAPITAL LETTER A<aB<aC<aD<aE<aF<aG<aH<aI<aJ<aK<aL<aM<aN<aO<aP<aQ<aR<aS<aT<aU",
    "<aV<aW<aX<aY<aZaaCROSSED NEGATIVE SQUARED LATIN CAPITAL LETTER PaaNEGATIVE SQUARED ICraPArbSraABraWCaaSQUARE",
    " DJgaD CLjbOOiaFREEiaIDiaNEWjaGiaOKiaSOSiaUP WITH EXCLAMATION MARKiaVSiaTHREE DiaSECOND SCREENiaTWO KicFOURi",
    "cEIGHTiaFIVE POINT ONEikSEVENiaTWENTY-TWO POINT TWOiaSIXTY PieONE HUNDRED TWENiaLATIN SMALL LETTER DiaHCjaDR",
    "jaI-RESibLOSSLESiaSHViaUHDibVOaaMASK WORK SYMBOLaaREGIONAL INDICATOR SYMBOL LETTER A+aB+aC+aD+aE+aF+aG+aH+aI",
    "+aJ+aK+aL+aM+aN+aO+aP+aQ+aR+aS+aT+aU+aV+aW+aX+aY+aZaaSQUARE HIRAGANA HOKAgaD KATAKANA KOKOraSAiaCJK UNIFIED ",
    "IDEOGRAPH-624B(a5B57)a3CCiaKATAKANA DEiaCJK UNIFIED IDEOGRAPH-4E8C(a591A(a89E3(a5929(a4EA4(a6620(a7121(a6599",
    "(a524D)aF8C)a18D(a65B0(a521D(a7D42)a51F(a8CA9(a58F0)a439(a6F14)a295)b35(a4E00+a9(a904A(a5DE6(a4E2D(a53F3(a63",
    "07(a8D70(a6253(a7981)aA7A(a5408(a6E80)a709+a8(a7533(a5272)a5B6(a914DaaTORTOISE SHELL BRACKETED CJK UNIFIED I",
    "DEOGRAPH-672C~aH-4E09~aH-4E8C~aH-5B89~bH-70B~aH-6253~aH-76D7~aH-52DD~aH-6557aaCIRCLED IDEOGRAPH ADVANTAGEtaC",
    "CEPTaaROUNDED SYMBOL FOR FUtbLtbSHOtaXItcSHUANGtbCAaaCYCLONEaaFOGGYaaCLOSED UMBRELLAaaNIGHT WITH STARSabSUNR",
    "ISE OVER MOUNTAINhaaaCITYSCAPE AT DUSKaaSUNSET OVER BUILDINGSaaRAINBOWaaBRIDGE AT NIGHTaaWATER WAVEaaVOLCANO",
    "aaMILKY WAYaaEARTH GLOBE EUROPE-AFRICAmaAMERICASnaSIA-AUSTRALIAaaGLOBE WITH MERIDIANSaaNEW MOON SYMBOLamWAXI",
    "NG CRESCENTamFIRST QUARTERamWAXING GIBBOUSamFULLamWANING GIBBOUSamLAST QUARTERamWANING CRESCENTaaCRESCENT MO",
    "ONaaNEW MOON WITH FACEapFIRST QUARTERazLAapFULLalSUaaGLOWING STARaiSHOOTabTHERMOMETEaaBLACK DROPLETaaWHITE S",
    "UNja WITH SMALL CLOUDkgBEHINDwa WITH RAINaplaSNOWlaLIGHTNINGlaTORNADOaaFOGaaWIND BLOWING FACEaaHOT DOGaaTACO",
    "abBURRITaaCHESTNUTaaSEEDLINGaaEVERGREEN TREEafDECIDUOUSafPALMaaCACTUSaaHOT PEPPERaaTULIPaaCHERRY BLOSSOMaaRO",
    "SEaaHIBISCUSaaSUNFLOWERaaBLOSSOMaaEAR OF MAIZEhbRICaaHERBaaFOUR LEAF CLOVERaaMAPLE LEAFafFALLENaaLEAF FLUTTE",
    "RING IN WINDaaMUSHROOMaaTOMATOaaAUBERGINEaaGRAPESaaMELONafWATERaaTANGERINEaaLEMONaaBANANAaaPINEAPPLEafRED ag",
    "GREENaaPEARdaCHaaCHERRIESaaSTRAWBERRYaaHAMBURGERaaSLICE OF PIZZAaaMEAT ON BONEaaPOULTRY LEGaaRICE CRACKERfaB",
    "ALLaaCOOKED RICEbgURRY ANaaSTEAMING BOWLbaPAGHETTIaaBREADaaFRENCH FRIESaaROASTED SWEET POTATOabDANGaaODENaaS",
    "USHIaaFRIED SHRIMPbaISH CAKE WITH SWIRL DESIGNaaSOFT ICE CREAMbaHAVED ICEaaICE CREAMaaDOUGHNUTaaCOOKIEbaHOCO",
    "LATE BARbaANDYaaLOLLIPOPaaCUSTARDaaHONEY POTaaSHORTCAKEaaBENTO BOXaaPOT OF FOODaaCOOKINGaaFORK AND KNIFEabTE",
    "ACUP WITHOUT HANDLaaSAKE BOTTLE AND CUPaaWINE GLASSagCOCKTAILaaTROPICAL DRINKaaBEER MUGaaCLINKING BEER MUGSa",
    "aBABY BOTTLEabFORK AND KNIFE WITH PLATaaBOTTLE WITH POPPING CORKaaPOPCORNabRIBBOaaWRAPPED PRESENTaaBIRTHDAY ",
    "CAKEaaJACK-O-LANTERNaaCHRISTMAS TREEaaFATHER CHRISTMASbbIREWORKia SPARKLERaaBALLOONaaPARTY POPPERaaCONFETTI ",
    "BALLaaTANABATA TREEaaCROSSED FLAGSaaPINE DECORATIONaaJAPANESE DOLLSaaCARP STREAMERaaWIND CHIMEaaMOON VIEWING",
    " CEREMONYaaSCHOOL SATCHELaaGRADUATION CAPaaHEART WITH TIP ON THE LEFTaaBOUQUET OF FLOWERSaaMILITARY MEDALaaR",
    "EMINDER RIBBONaaMUSICAL KEYBOARD WITH JACKSaaSTUDIO MICROPHONEaaLEVEL SLIDERaaCONTROL KNOBSabBEAMED ASCENDIN",
    "G MUSICAL NOTEhwDEacFILM FRAMabADMISSION TICKETaaCAROUSEL HORSEaaFERRIS WHEELaaROLLER COASTERaaFISHING POLE ",
    "AND FISHaaMICROPHONEbaOVIE CAMERAabCINEMaaHEADPHONEabARTIST PALETTaaTOP HATabCIRCUS TENabTICKEaaCLAPPER BOAR",
    "DaaPERFORMING ARTSaaVIDEO GAMEaaDIRECT HITaaSLOT MACHINEaaBILLIARDSaaGAME DIEaaBOWLINGaaFLOWER PLAYING CARDS",
    "aaMUSICAL NOTEcaLTIPLE MUSICAL NOTESaaSAXOPHONEaaGUITARaaMUSICAL KEYBOARDaaTRUMPETaaVIOLINaaMUSICAL SCOREaaR",
    "UNNING SHIRT WITH SASHaaTENNIS RACQUET AND BALLaaSKI AND SKI BOOTaaBASKETBALL AND HOOPaaCHEQUERED FLAGaaSNOW",
    "BOARDERacRUNNacSURFbaPORTS MEDALaaTROPHYaaHORSE RACINGaaAMERICAN FOOTBALLajRUGBYaaSWIMMERacWEIGHT LIFTacGOLF",
    "aaRACING MOTORCYCLEhaCARaaCRICKET BAT AND BALLaeVOLLEYaeFIELD HOCKEY STICK AND aaICE HOCKEY STICK AND PUCKaa",
    "TABLE TENNIS PADDLE AND BALLaaSNOW CAPPED MOUNTAINaaCAMPINGaaBEACH WITH UMBRELLAbaUILDING CONSTRUCTIONaaHOUS",
    "E BUILDINGSaaCITYSCAPEaaDERELICT HOUSE BUILDINGajCLASSICALaaDESERTga ISLANDaaNATIONAL PARKaaSTADIUMaaHOUSE B",
    "UILDINGgaWITH GARDENaaOFFICE BUILDINGaaJAPANESE POST OFFICEamEUROPEANaaHOSPITALaaBANKaaAUTOMATED TELLER MACH",
    "INEaaHOTELafLOVE aaCONVENIENCE STOREaaSCHOOLaaDEPARTMENT STOREaaFACTORYaaIZAKAYA LANTERNaaJAPANESE CASTLEahE",
    "UROPEANaaWHITE PENNANTaiBLACKaaWAVING WHITE FLAGhfBLACKaaROSETTEahBLACK aaLABELaaBADMINTON RACQUET AND SHUTT",
    "LECOCKbaOW AND ARROWaaAMPHORAaaEMOJI MODIFIER FITZPATRICK TYPE-1-2*a3*a4*a5*a6aaRATaaMOUSEaaOXaaWATER BUFFAL",
    "OaaCOWaaTIGERaaLEOPARDaaRABBITabCAaaDRAGONaaCROCODILEacWHAaaSNAILdaKEabHORSaaRAMaaGOATaaSHEEPaaMONKEYaaROOST",
    "ERaaCHICKENaaDOGabPIaaBOARaaELEPHANTaaOCTOPUSaaSPIRAL SHELLaaBUGaaANTaaHONEYBEEabLADY BEETLaaFISHaeTROPICAL ",
    "aeBLOWaaTURTLEaaHATCHING CHICKagBABYakFRONT-FACING aaBIRDaaPENGUINaaKOALAaaPOODLEaaDROMEDARY CAMELagBACTRIAN",
    "aaDOLPHINaaMOUSE FACEafCOWafTIGERafRABBITagCAafDRAGONabSPOUTING WHALabHORSE FACafMONKEYafDOGagPIagFROafHAMST",
    "ERafWOLFafBEARafPANDAbbIG NOSbaAW PRINTSaaCHIPMUNKaaEYESdabaARaaNOSEaaMOUTHaaTONGUEaaWHITE UP POINTING BACKH",
    "AND INDEXgyDOWNgyLEFTgzRIGHaaFISTED HAND SIGNakWAVINGakOKafTHUMBS UPhfDOWNafCLAPPING HANDSalOPENabCROWaaWOMA",
    "NS HATaaEYEGLASSESaaNECKTIEaaT-SHIRTaaJEANSabDRESaaKIMONOaaBIKINIaaWOMANS CLOTHESaaPURSEaaHANDBAGaaPOUCHaaMA",
    "NS SHOEafATHLETICafHIGH-HEELEDaaWOMANS SANDALhaBOOTSacFOOTPRINaaBUST IN SILHOUETTEeoSbaOYaaGIRLaaMANadWOaaFA",
    "MILYaaMAN AND WOMAN HOLDING HANDSapTWO MEerWOaaPOLICE OFFICERaaWOMAN WITH BUNNY EARSaaBRIDE WITH VEILaaPERSO",
    "N WITH BLOND HAIRaaMAN WITH GUA PI MAOjaTURBANacOLDER MgdWOaaBABYaaCONSTRUCTION WORKERaaPRINCESSaaJAPANESE O",
    "GREjaGOBLINaaGHOSTaaBABY ANGELaaEXTRATERRESTRIAL ALIENaaALIEN MONSTERaaIMPaaSKULLaaINFORMATION DESK PERSONab",
    "GUARDSMAaaDANCERaaLIPSTICKaaNAIL POLISHaaFACE MASSAGEaaHAIRCUTaaBARBER POLEabSYRINGaaPILLaaKISS MARKaaLOVE L",
    "ETTERaaRINGaaGEM STONEaaKISSaaBOUQUETabCOUPLE WITH HEARaaWEDDINGaaBEATING HEARTbgROKENaaTWO HEARTSaaSPARKLIN",
    "G HEARTajGROWaaHEART WITH ARROWaaBLUE HEARTagGREENagYELLOWagPURPLEaaHEART WITH RIBBONaaREVOLVING HEARTSaaHEA",
    "RT DECORATIONaaDIAMOND SHAPE WITH A DOT INSIDEaaELECTRIC LIGHT BULBaaANGER SYMBOLaaBOMBaaSLEEPING SYMBOLahCO",
    "LLISIONahSPLASHING SWEATaaDROPLETbaASH SYMBOLaaPILE OF POOaaFLEXED BICEPSaaDIZZY SYMBOLaaSPEECH BALLOONaiTHO",
    "UGHTaaWHITE FLOWERaaHUNDRED POINTS SYMBOLaaMONEY BAGaaCURRENCY EXCHANGEaaHEAVY DOLLAR SIGNaaCREDIT CARDaaBAN",
    "KNOTE WITH YEN SIGNofDOLLARofEUROofPOUNDaaMONEY WITH WINGSaaCHART WITH UPWARDS TREND AND YEN SIGNaaSEATaaPER",
    "SONAL COMPUTERaaBRIEFCASEaaMINIDISCaaFLOPPY DISKaaOPTICAL DISCaaDVDaaFILE FOLDERalOPEN aaPAGE WITH CURLfaFAC",
    "ING UPaaCALENDARaiTEAR-OFF aaCARD INDEXbaHART WITH UPWARDS TRENDllDOWNaaBAR CHARTaaCLIPBOARDaaPUSHPINahROUND",
    " aaPAPERCLIPaaSTRAIGHT RULERagTRIANGULARaaBOOKMARK TABSaaLEDGERaaNOTEBOOKia WITH DECORATIVE COVERaaCLOSED BO",
    "OKafOPENahGREafBLUEagORANGaaBOOKSaaNAME BADGEaaSCROLLaaMEMOaaTELEPHONE RECEIVERacPAGaaFAX MACHINEaaSATELLITE",
    " ANTENNAaaPUBLIC ADDRESS LOUDSPEAKERaaCHEERING MEGAPHONEaaOUTBOX TRAYaiINaaPACKAGEaaE-MAIL SYMBOLaaINCOMING ",
    "ENVELOPEabENVELOPE WITH DOWNWARDS ARROW ABOVaaCLOSED MAILBOX WITH LOWERED FLAGuhRAISazOPENshLOWERaaPOSTBOXea",
    "AL HORNaaNEWSPAPERaaMOBILE PHONEma WITH RIGHTWARDS ARROW AT LEFTaaVIBRATION MODEaaMOBILE PHONE OFFaaNO MOBIL",
    "E PHONESabANTENNA WITH BARaaCAMERAga WITH FLASHaaVIDEO CAMERAaaTELEVISIONaaRADIOaaVIDEOCASSETTEaaFILM PROJEC",
    "TORaaPORTABLE STEREObaRAYER BEADSabTWISTED RIGHTWARDS ARROWahCLOCKWISE RIGHTWARDS AND LEFTWARDS OPEN CIRCLE~",
    "aE ARROWS WITH CIRCLED ONE OVERLAYkaDOWNWARDS AND UPWARDS OPEN CIRCLE ARROWSa~ANTICLOCKaaLOW BRIGHTNESS SYMB",
    "OLasHIGHaaSPEAKER WITH CANCELLATION STROKEhaha WITH ONE SOUND WAVEnaTHREE SOUND WAVESaaBATTERYaaELECTRIC PLU",
    "GaaLEFT-POINTING MAGNIFYING GLASSa$RIGHaaLOCK WITH INK PENaaCLOSED LOCK WITH KEYadaaLOCKaeOPEN aaBELLea WITH",
    " CANCELLATION STROKEbaOOKMARKaaLINK SYMBOLaaRADIO BUTTONaaBACK WITH LEFTWARDS ARROW ABOVEa$ENDamON WITH EXCL",
    "AMATION MARK WITH LEFT RIGHTamSOON WITH RIGHTWARDSarTOP WITH UPaaNO ONE UNDER EIGHTEEN SYMBOLaaKEYCAP TENaaI",
    "NPUT SYMBOL FOR LATIN CAPITAL LETTERSxjSMALrdNUMBrbSYMBOLrbLATIN LETTERaaFIREaaELECTRIC TORCHacWRENaaHAMMERa",
    "aNUT AND BOLTaaHOCHOaaPISTOLaaMICROSCOPEafTELEaaCRYSTAL BALLaaSIX POINTED STAR WITH MIDDLE DOTaaJAPANESE SYM",
    "BOL FOR BEGINNERaaTRIDENT EMBLEMaaBLACK SQUARE BUTTONaoWHITEaaLARGE RED CIRCLEghBLUEgaORANGE DIAMONDgjBLUajS",
    "MALL ORANGgjBLUaaUP-POINTING RED TRIANGLEawDOWNanUP-POINTING SMALLa%DOWNacLOWER RIGHT SHADOWED WHITE CIRCa(U",
    "PPabCIRCLED CROSS POMMEbaROSS POMMEE WITH HALF-CIRCLE BELOWmaaaNOTCHED LEFT SEMICIRCLE WITH THREE DOTSi%RIGH",
    "aaSYMBOL FOR MARKS CHAPTERaaWHITE LATIN CROSSamHEAVYagCELTICaaOM SYMBOLaaDOVE OF PEACEaaKAABAaaMOSQUEacSYNAG",
    "OGaaMENORAH WITH NINE BRANCHESaaBOWL OF HYGIEIAaaCLOCK FACE ONE OCLOCKlhTWOmhHREElhFOURmhIVElhSIXmhEVENlhEIG",
    "HTlhNINElhTENljELEVlhTWELVElaONE-THIRTYlhTWOmhHREElhFOURmhIVElhSIXmhEVENlhEIGHTlhNINElhTENljELEVlhTWELVEaaRI",
    "GHT SPEAKERna WITH ONE SOUND WAVEtaTHREE SOUND WAVESaaBULLHORNia WITH SOUND WAVESaaRINGING BELLaaBOOKaaCANDL",
    "EaaMANTELPIECE CLOCKaaBLACK SKULL AND CROSSBONESaaNO PIRACYaaHOLEaaMAN IN BUSINESS SUIT LEVITATINGaaSLEUTH O",
    "R SPYaaDARK SUNGLASSESaaSPIDERga WEBaaJOYSTICKaaMAN DANCINGaaLEFT HAND TELEPHONE RECEIVERaaTELEPHONE RECEIVE",
    "R WITH PAGEaaRIGHT HAND TELEPHONE RECEIVERaaWHITE TOUCHTONE TELEPHONEauBLACKaaTELEPHONE ON TOP OF MODEMaaCLA",
    "MSHELL MOBILE PHONEabBACK OF ENVELOPajSTAMPEDaaENVELOPE WITH LIGHTNINGaaFLYING ENVELOPEajPEN OVER STAMPEDaaL",
    "INKED PAPERCLIPSaaBLACK PUSHPINaaLOWER LEFT PENCILlaBALLPOINT PENleFOUNTAINlaPAINTBRUSHlaCRAYONbaEFT WRITING",
    " HANDaaTURNED OK HAND SIGNaaRAISED HAND WITH FINGERS SPLAYEDb)EVERSED RjaTHUMBS UP SIGNqfDOWNjaVICTORY HANDj",
    "bHAND WITH MIDDLE FINGER EXTENDEbaAISED HAND WITH PART BETWEEN MIDDLE AND RING FINGERSaaWHITE DOWN POINTING ",
    "LEFT HAND INDEXagSIDEWAYS WHITE LEFT POINTINGpqRIGHjqBLACK LEFpqRIGHagBLACK LEFT POINTING BACKHANDgzRIGHagSI",
    "DEWAYS WHITE UP POINTINGppDOWNjpBLACK UPppDOWNagBLACK UP POINTING BACKHANDgyDOWNgaHEARTaaDESKTOP COMPUTERaaK",
    "EYBOARD AND MOUSEaaTHREE NETWORKED COMPUTERSaaPRINTERbbOCKET CALCULATOaaBLACK HARD SHELL FLOPPY DISKaxWHITEa",
    "sSOFTaaTAPE CARTRIDGEaaWIRED KEYBOARDaaONE BUTTON MOUSEanTWObnHREEbaRACKBALLaaOLD PERSONAL COMPUTERaaHARD DI",
    "SKaaSCREENabPRINTER ICOafFAXafOPTICAL DISCaaDOCUMENT WITH TEXTsa AND PICTUREohanFRAMElaTILESlaAN XaaBLACK FO",
    "LDERagagOPEN aaCARD INDEX DIVIDERSfaFILE BOXaaFILE CABINETaaEMPTY NOTEka PAGEnaDaaNOTEea PAGEhaDaaEMPTY DOCU",
    "MENTgaPAGEkaSaaDOCUMENTaaPAGEeaSaaWASTEBASKETaaSPIRAL NOTE PADheCALENDARaaDESKTOP WINDOWaaMINIMIZEbfAXaaOVER",
    "LAPaaCLOCKWISE RIGHT AND LEFT SEMICIRCLE ARROWSbaANCELLATION XaaINCREASE FONT SIZE SYMBOLaxDEaaCOMPRESSIONaa",
    "OLD KEYaaROLLED-UP NEWSPAPERaaPAGE WITH CIRCLED TEXTabSTOCK CHARaaDAGGER KNIFEaaLIPSaaSPEAKING HEAD IN SILHO",
    "UETTEabTHREE RAYS ABOVlaBELOWlaLEFTlbRIGHaaLEFT SPEECH BUBBLEapRIGHaaTWO SPEECH BUBBLESbpHREEaaLEFT THOUGHT ",
    "BUBBLEaqRIGHahLEFT ANGERaoRIGHahMOODalLIGHTNING oaaaBALLOT BOX WITH BALLOThaSCRIPT XhiBOX WITH jjLDjlX WITH ",
    "BOaaLIGHT CHECK MARKabBALLOT BOX WITH BOLD CHECaaWORLD MAPaaMOUNT FUJIaaTOKYO TOWERaaSTATUE OF LIBERTYbaILHO",
    "UETTE OF JAPANaaMOYAIaaGRINNING FACEna WITH SMILING EYESaaFACE WITH TEARS OF JOYaaSMILING FACE WITH OPEN MOU",
    "TH%a AND SMILING EYES+aCOLD SWEAT+aTIGHTLY-CLOSED EYESsaHALOtaORNSaaWINKING FACEaaSMILING FACE WITH SMILING ",
    "EYESaaFACE SAVOURING DELICIOUS FOODaaRELIEVED FACEaaSMILING FACE WITH HEART-SHAPED EYESscSUNGLASSdaRKING FAC",
    "EafNEUTRALafEXPRESSIONLESSafUNAMUSEDaaFACE WITH COLD SWEATaaPENSIVE FACEafCONFUSEDehOUNDafKISSINGaaFACE THRO",
    "WING A KISSabKISSING FACE WITH SMILING EYEsfCLOSEDaaFACE WITH STUCK-OUT TONGUE!a AND WINKING EYE)aTIGHTLY-CL",
    "OSED EYESaaDISAPPOINTED FACEahWORRIafANGRYafPOUTINGaiCRYaiPERSEVERaaFACE WITH LOOK OF TRIUMPHaaDISAPPOINTED ",
    "BUT RELIEVED FACEaaFROWNING FACE WITH OPEN MOUTHaaANGUISHED FACEafFEARFULafWEARYagSLEEPafTIREDafGRIMACINGaiL",
    "OUDLY CRYaaFACE WITH OPEN MOUTHaaHUSHED FACEaaFACE WITH OPEN MOUTH AND COLD SWEATfaSCREAMING IN FEARaaASTONI",
    "SHED FACEajFLUafSLEEPINGafDIZZYaaFACE WITHOUT MOUTHja MEDICAL MASKaaGRINNING CAT FACE WITH SMILING EYESaaCAT",
    " FACE WITH TEARS OF JOYaaSMILING CAT FACE WITH OPEN MOUTHwaHEART-SHAPED EYESaaCAT FACE WITH WRY SMILEaaKISSI",
    "NG CAT FACE WITH CLOSED EYESaaPOUTING CAT FACEamCRYajWEARYafSLIGHTLY FROWNINGjiSMILafUPSIDE-DOWNaaFACE WITH ",
    "ROLLING EYESkaNO GOOD GESTUREkiOKaaPERSON BOWING DEEPLYabSEE-NO-EVIL MONKEapHEARapSPEAKaaHAPPY PERSON RAISIN",
    "G ONE HANDaaPERSON RAISING BOTH HANDS IN CELEBRATIONhaFROWNINGhaWITH POUTING FACEmaFOLDED HANDSaaNORTH WEST ",
    "POINTING LEAFavSOUaqNORTH EAavSOUaqTURNED NORTH WEhvSOUhqNORTH EAhvSOUafNORTH WEST POINTING VINEa!SOUavNORTH",
    " EAa!SOUavHEAVY NORTH WEg!SOUgvNORTH EAg!SOUaaNORTH WEST POINTING BUDauSOUapNORTH EAauSOUapHEAVY NORTH WEguS",
    "OUgpNORTH EAguSOUbaOLLOW QUILT SQUARE ORNAMENT%a IN BLACK SQUAREaaSOLID QUILT SQUARE ORNAMENT$a IN BLACK SQU",
    "AREaaLEFTWARDS ROCKETamUPamRIGHTamDOWNabSCRIPT LIGATURE ET ORNAMENa$HEAVY amLIGATURE OPENazHEAVY gjAMPERSAND",
    "atSWASHbjANS-SERIF HEAVY DOUBLE TURNED COMMA QUOTATION MARKy&r:LOW ajHEAVY INTERROBANGavSANS-SERIFa)HEAVY aa",
    "VERY HEAVY SOLIDUSlhREVERSE aaCHECKER BOARDanREVERSE baOCKETaaHELICOPTERaaSTEAM LOCOMOTIVEaaRAILWAY CARaaHIG",
    "H-SPEED TRAINqa WITH BULLET NOSEaaTRAINaaMETROaaLIGHT RAILaaSTATIONaaTRAMea CARaaBUSadONCOMING adTROLLEYaaBU",
    "S STOPaaMINIBUSaaAMBULANCEabFIRE ENGINaaPOLICE CARakONCOMING aaTAXIaeONCOMING aaAUTOMOBILEakONCOMING acRECRE",
    "ATIONAL VEHICaaDELIVERY TRUCKaaARTICULATED LORRYaaTRACTORaaMONORAILcaUNTAIN RAILWAYajSUSPENSIOadMOUNTAIN CAB",
    "LEadAERIAL TRAMaaSHIPaaROWBOATaeSPEEDabHORIZONTAL TRAFFIC LIGHaqVERTICaaCONSTRUCTION SIGNaaPOLICE CARS REVOL",
    "VING LIGHTabTRIANGULAR FLAG ON POSaaDOORaaNO ENTRY SIGNaaSMOKING SYMBOLaoNO ahPUT LITTER IN ITS PLACEahDO NO",
    "T LITTERakPOTABLE WAauNON-aaBICYCLEaaNO BICYCLESaaBICYCLISTajMOUNTAIN aaPEDESTRIANaaNO PEDESTRIANSaaCHILDREN",
    " CROSSINGaaMENS SYMBOLalWOaaRESTROOMaaBABY SYMBOLaaTOILETacWATER CLOSaaSHOWERaaBATHeaTUBaaPASSPORT CONTROLaa",
    "CUSTOMSaaBAGGAGE CLAIMaaLEFT LUGGAGEaaTRIANGLE WITH ROUNDED CORNERSaaPROHIBITED SIGNaaCIRCLED INFORMATION SO",
    "URCEaaBOYS SYMBOLaiGIRLaaCOUCH AND LAMPaaSLEEPING ACCOMMODATIONbaHOPPING BAGSaaBELLHOP BELLcaDaaPLACE OF WOR",
    "SHIPaaOCTAGONAL SIGNaaSHOPPING TROLLEYbaTUPAabPAGODaaHINDU TEMPLEbaUTaaELEVATORaaPLAYGROUND SLIDEaaWHEELaaRI",
    "NG BUOYaaHAMMER AND WRENCHaaSHIELDaaOIL DRUMaaMOTORWAYaaRAILWAY TRACKaaMOTOR BOATaaUP-POINTING MILITARY AIRP",
    "LANEmimiSMALL aoajNORTHEAST-POINTINGabAIRPLANE DEPARTURjaARRIVINGaaSATELLITEabONCOMING FIRE ENGINabDIESEL LO",
    "COMOTIVaaPASSENGER SHIPaaSCOOTERahMOTOR aaCANOEaaSLEDaaFLYING SAUCERaaSKATEBOARDaaAUTO RICKSHAWaaPICKUP TRUC",
    "KaaROLLER SKATEabALCHEMICAL SYMBOL FOR QUINTESSENCwaAIRwaFIREwaEARTHwaWATERwaAQUAFORTIS!a REGIA*a-2$aVITAE*a",
    "-2waVINEGAR&a-2(a3waSULFURwgPHILOSOPHERS whBLACKwaMERCURY SUBLIMATE=a-2>a3waCINNABARwaSALTwaNITREwaVITRIOL&a",
    "-2waROCK SALT)a-2waGOLDwaSILVERwaIRON ORE(a-2waCROCUS OF IRONwkREGULwaCOPPER OREwkIRON-waSUBLIMATE OF COPPER",
    "wkCROCUS<a-2xaOPPER ANTIMONIATEwsSALT OF xaUBLIMATE OF SALT OF COPPERwaVERDIGRISwaTIN OREweLEADweANTIMONYwaS",
    "UBLIMATE OF ANTIMONYxmALTxpUBLIMATE OF SwmVINEGARwmREGULUS?a-2&a&a-2(a3(a4waALKALI%a-2waMARCASITEwaSAL-AMMON",
    "IACwbARSENIwaREALGAR&a-2waAURIPIGMENTwaBISMUTH OREwaTARTAR%a-2waQUICK LIMEwaBORAX$a-2%a3waALUMwaOILwaSPIRITw",
    "aTINCTUREwaGUMwaWAXwaPOWDERwaCALXwaTUTTYwaCAPUT MORTUUMwaSCEPTER OF JOVEwaCADUCEUSwaTRIDENTwhSTARRED waLODES",
    "TONEwaSOAPwaURINEwaHORSE DUNGwaASHESwfPOT waBRICKwfPOWDERED waAMALGAMwbSTRATUM SUPER STRATU_a-2xaUBLIMATIONw",
    "aPRECIPITATEwaDISTILLzaSOLVE(a-2waPURIFYyaTREFACTIONwaCRUCIBLE(a-2)a3)a4)a5waALEMBICwaBATH OF MARY(aVAPOURSw",
    "aRETORTwaHOURwaNIGHTwfDAY-waMONTHwaHALF DRAM$aOUNCEabBLACK LEFT-POINTING ISOSCELES RIGHT TRIANGLg,UPg,RIGHTg",
    ",DOWNgcSLIGHTLY SMALL CIRCahMEDIUM BOLD WHITEaranHEAVYasVERY auEXTREMELahWHITE CIRCLE CONTAINING BLACK SMALL",
    "aaROUND TARGETaaBLACK TINY SQUAREghSLIGHTLY SMALLahLIGHT WHITEanMEDIUManBOLDanHEAVYasVERY auEXTREMELahWHITE ",
    "SQUARE CONTAINING BLACK VERY SMALL(hMEDIUMaaSQUARE TARGETaaBLACK TINY DIAMONDgiVERY SMALLgoMEDIUMaoWHITE DIA",
    "MOND CONTAINING BLACK VERY)iMEDIUMaaDIAMOND TARGETaaBLACK TINY LOZENGEgiVERY SMALLgoMEDIUMaoWHITE LOZENGE CO",
    "NTAINING BLACKaaTHIN GREEK CROSSamLIGHTamMEDIUMamBOLDaqVERY fmHEAVYatEXTREMELaaTHIN SALTIREaiLIGHTaiMEDIUMai",
    "BOLDaiHEAVYanVERY apEXTREMELaaLIGHT FIVE SPOKED ASTERISKavMEDIUMavBOLDavHEAVYa!VERY a%EXTREMELaqLIGHT SIXauM",
    "EDIUMauBOLDauHEAVYazVERY a$EXTREMELaqLIGHT EIGHTawMEDIUMawBOLDawHEAVYa$VERY aaLIGHT THREE POINTED BLACK STAR",
    "azMEDIUMayafMEDIUM THREE POINTED PINWHEELafLIGHT FOUR POINTED BLACKayMEDIUMaxafMEDIUM FOUR POINTED PINWHEELa",
    "$REVERSE LIGHTafLIGHT FIVE POINTED BLACKayHEAVYatMEDIUM SIXaxHEAVYafSIX POINTED PINWHEELafMEDIUM EIGHT POINT",
    "ED BLACKazHEAVYa(VERY afHEAVY EIGHT POINTED PINWHEELafLIGHT TWELVE POINTED BLACKa!HEAVYvfPINWHEELaaCIRCLED T",
    "RIANGLEaqNEGATIVE abCIRCLED SQUARaoNEGATIVE abLARGE ORANGE CIRCLghYELLOWghGREENghPURPLEghBROWNgbRED SQUARghB",
    "LUEgiORANGghYELLOWghGREENghPURPLEghBROWNaaHEAVY EQUALS SIGNaaLEFTWARDS ARROW WITH SMALL TRIANGLE ARROWHEADa?",
    "UPa?RIGHTa?DOWNatLEFTWARDS ARROW WITH MEDIUMa^UPa^RIGHTa^DOWNatLEFTWARDS ARROW WITH LARGEa?UPa?RIGHTa?DOWNak",
    "LEFTWARDS ARROW WITH SMALL EQUILATERALa|UPa|RIGHTa|DOWNawLEFTWARDS ARROW WITHa<UPa<RIGHTa<DOWNa<HEAVY LEFTg<",
    "UPg<RIGHTg<DOWNgwLEFTWARDS ARROW WITH LARGEg|UPg|RIGHTg|DOWNaaLEFTWARDS TRIANGLE-HEADED ARROW WITH NARROW SH",
    "AFTa~UPa~RIGHTa~DOWNagLEFTWARDS TRIANGLE-HEADED ARROW WITH MEDIUMa~UPa~RIGHTa~DOWNagLEFTWARDS TRIANGLE-HEADE",
    "D ARROW WITH BOLDa_UPa_RIGHTa_DOWNagLEFTWARDS TRIANGLE-HEADED ARROW WITH HEAVYa|UPa|RIGHTa|DOWNamLEFTWARDS T",
    "RIANGLE-HEADED ARROW WITH VERYa~UPWARDa~RIGHTWARDa~DOWNWARDaaLEFTWARDS FINGER-POST ARROWaxUPaxRIGHTaxDOWNagL",
    "EFTWARDS SQUAREDatUPatRIGHTatDOWNaiLEFTWARDS COMPRESSawUPawRIGHTawDOWNarLEFTWARDS HEAVYa%UPa%RIGHTa%DOWNagLE",
    "FTWARDS HEAVYarUParRIGHTarDOWNagLEFTWARDS SANS-SERIFawUPawRIGHTawDOWNarNORTH WESTgtEAaySOUgtWEasLEFT RIGHarU",
    "P DOWNagWIDE-HEADED LEFTWARDS LIGHT BARBmwUPmwRIGHTmwDOWNmrNORTH WESTstEAmySOUstWEmlLEFTWARDSmqUPmqRIGHTmqDO",
    "WNmlNORTH WESTsnEAmsSOUsnWEmlLEFTWARDS MEDIUMmxUPmxRIGHTmxDOWNmsNORTH WESTsuEAmzSOUsuWEmlLEFTWARDS HEAVYmwUP",
    "mwRIGHTmwDOWNmrNORTH WESTstEAmySOUstWEmrLEFTWARDS VERYm$UPm$RIGHTm$DOWNmwNORTH WESTsyEAm&SOUsyWEaaLEFTWARDS ",
    "TRIANGLE ARROWHEADayUPayRIGHTayDOWNatLEFTWARDS WHITE ARROW WITHINa_UPa_RIGHTa_DOWNaaLEFTWARDS ARROW WITH NOT",
    "CHED TAILa&UPa&RIGHTa&DOWNaaHEAVY ARROW SHAFT WIDTH ONEyaTWO THIRDSyaONE HALF%aTHIRDaaLEFTWARDS BOTTOM-SHADE",
    "D WHITE ARROWasRIGHTWARDS BOTTOM atLEFTWARDS TOPa&RIGHasLEFTWARDS LEFT-auRIGHTWARDS RIGHa)LEFauRIGHTWARDS LE",
    "FaoLEFTWARDS BACK-TILTED SHADOWa=RIGHa%LEFTWARDS FRONTa>RIGHaaWHITE ARROW SHAFT WIDTH ONEyaTWO THIRDSaaARROW",
    " POINTING UPWARDS THEN NORTH WESTphRIGHTWARDS THEN CURVING SOUaaCIRCLED CROSS FORMEE WITH FOUR DOTS!fTWOuaaa",
    "LEFT HALF CIRCLE WITH FOUR DOTSwfTHREExfWOwaDOTqaaaDOWNWARD FACING HOOKqeNOTCHED qaHOOK WITH DOTqnNOTCHED aa",
    "PINCHED FINGERSaaWHITE HEARTagBROWNaaPINCHING HANDaaZIPPER-MOUTH FACEalMONEYaaFACE WITH THERMOMETERaaNERD FA",
    "CEafTHINKINGabFACE WITH HEAD-BANDAGabROBOT FACafHUGGINGaaSIGN OF THE HORNSaaCALL ME HANDafRAISED BACK OFaaLE",
    "FT-FACING FISTanRIGHaaHANDSHAKEea WITH INDEX AND MIDDLE FINGERS CROSSEDaaI LOVE YOU HAND SIGNaaFACE WITH COW",
    "BOY HATaaCLOWN FACEafNAUSEATEDaaROLLING ON THE FLOOR LAUGHINGaaDROOLING FACEaiLYaaFACE PALMaaSNEEZING FACEaa",
    "FACE WITH ONE EYEBROW RAISEDaaGRINNING FACE WITH STAR EYEStaONE LARGE AND ONE SMALL EYEaaFACE WITH FINGER CO",
    "VERING CLOSED LIPSaaSERIOUS FACE WITH SYMBOLS COVERING MOUTHbpMILING FACE WITH SMILING EYES AND HANDaaFACE W",
    "ITH OPEN MOUTH VOMITINGaaSHOCKED FACE WITH EXPLODING HEADaaPREGNANT WOMANaaBREAST-FEEDINGaaPALMS UP TOGETHER",
    "aaSELFIEabPRINCaaMAN IN TUXEDObaOTHER CHRISTMASaaSHRUGaaPERSON DOING CARTWHEELaaJUGGLINGaaFENCERaaMODERN PEN",
    "TATHLONaaWRESTLERSbaATER POLOaaHANDBALLaaDIVING MASKaaWILTED FLOWERaaDRUM WITH DRUMSTICKSabCLINKING GLASSEab",
    "TUMBLER GLASaaSPOONaaGOAL NETaaRIFLEaaFIRST PLACE MEDALamSECONDanTHIRaaBOXING GLOVEaaMARTIAL ARTS UNIFORMaaC",
    "URLING STONEaaLACROSSE STICK AND BALLaeSOFTaaFLYING DISCaaCROISSANTaaAVOCADOaaCUCUMBERaaBACONaaPOTATOaaCARRO",
    "TaaBAGUETTE BREADacGREEN SALabSHALLOW PAN OF FOObbTUFFED FLATBREAaaEGGaaGLASS OF MILKaaPEANUTSaaKIWIFRUITaaP",
    "ANCAKESaaDUMPLINGaaFORTUNE COOKIEaaTAKEOUT BOXaaCHOPSTICKSaaBOWL WITH SPOONaaCUP WITH STRAWbaOCONUTaaBROCCOL",
    "IaaPIEbaRETZELaaCUT OF MEATaaSANDWICHaaCANNED FOODaaLEAFY GREENaaMANGObaOON CAKEaaBAGELaaSMILING FACE WITH S",
    "MILING EYES AND THREE HEARTSaaYAWNING FACEaaSMILING FACE WITH TEARaaFACE WITH PARTY HORN AND PARTY HATkaUNEV",
    "EN EYES AND WAVY MOUTHaaOVERHEATED FACEafFREEZINGaaNINJAaaDISGUISED FACEaaFACE HOLDING BACK TEARSfbWITH PLEA",
    "DING EYEaaSARIaaLAB COATaaGOGGLESaaHIKING BOOTaaFLAT SHOEaaCRABaaLION FACEaaSCORPIONaaTURKEYaaUNICORN FACEab",
    "EAGLaaDUCKaaBATaaSHARKaaOWLaaFOX FACEaaBUTTERFLYaaDEERaaGORILLAaaLIZARDaaRHINOCEROSaaSHRIMPbaQUIDaaGIRAFFE F",
    "ACEafZEBRAaaHEDGEHOGaaSAUROPODaaT-REXaaCRICKETaaKANGAROOaaLLAMAaaPEACOCKaaHIPPOPOTAMUSaaPARROTaaRACCOONaaLOB",
    "STERaaMOSQUITObaICROBEaaBADGERaaSWANaaMAMMOTHaaDODOaaSLOTHaaOTTERbaRANGUTANaaSKUNKaaFLAMINGOaaOYSTERacBEAVba",
    "ISONaaSEALaaGUIDE DOGaaPROBING CANEaaEMOJI COMPONENT RED HAIRqfCURLYqaBALDqaWHITE HAIRaaBONEaaLEGaaFOOTaaTOO",
    "THaaSUPERHEROfaVILLAINbaAFETY VESTaaEAR WITH HEARING AIDaaMOTORIZED WHEELCHAIRblANUALbaECHANICAL ARMlaLEGaaC",
    "HEESE WEDGEbbUPCAKaaSALT SHAKERaaBEVERAGE BOXaaGARLICaaONIONaaFALAFELaaWAFFLEaaBUTTERaaMATE DRINKaaICE CUBEa",
    "aBUBBLE TEAaaTROLLaaSTANDING PERSONakKNEELahDEAFaaFACE WITH MONOCLEaaADULTaaCHILDaaOLDER ADULTaaBEARDED PERS",
    "ONaaPERSON WITH HEADSCARFhaIN STEAMY ROOMhaCLIMBINGhaIN LOTUS POSITIONaaMAGEaaFAIRYaaVAMPIREaaMERPERSONaaELF",
    "aaGENIEacZOMBaaBRAINaaORANGE HEARTaaBILLED CAPaaSCARFaaGLOVESaaCOATaaSOCKSaaRED GIFT ENVELOPEaaFIRECRACKERaa",
    "JIGSAW PUZZLE PIECEabTEST TUBaaPETRI DISHaaDNA DOUBLE HELIXaaCOMPASSabABACUaaFIRE EXTINGUISHERaaTOOLBOXaaBRI",
    "CKaaMAGNETaaLUGGAGEbbOTION BOTTLaaSPOOL OF THREADaaBALL OF YARNabSAFETY PIaaTEDDY BEARaaBROOMbaASKETaaROLL O",
    "F PAPERaaBAR OF SOAPaaSPONGEaaRECEIPTabNAZAR AMULEbaEUTRAL CHESS KINGoaQUEENoaROOKoaBISHOPoaKNIGHToaPAWNaaWH",
    "ITE CHESS KNIGHT ROTATED FORTY-FIVE DEGREESa>BLACKa>NEUTRALaiWHITE CHESS KING ROTATED NINETYmxQUEENmxROOKmxB",
    "ISHOPmxKNIGHTmxPAWNaxBLACK CHESS KINGmxQUEENmxROOKmxBISHOPmxKNIGHTmxPAWNaxNEUTRAL CHESS KINGoxQUEENoxROOKoxB",
    "ISHOPoxKNIGHToxPAWNaiWHITE CHESS KNIGHT ROTATED ONE HUNDRED THIRTY-FIVEa~BLACK CHESS Ka~NEUTRAL CHESS KaaWHI",
    "TE CHESS TURNED KINGtaQUEENtaROOKtaBISHOPtaKNIGHTtaPAWNaaBLACK CHESS TURNED KINGtaQUEENtaROOKtaBISHOPtaKNIGH",
    "TtaPAWNaaNEUTRAL CHESS TURNED KINGvaQUEENvaROOKvaBISHOPvaKNIGHTvaPAWNaaWHITE CHESS KNIGHT ROTATED TWO HUNDRE",
    "D TWENTY-FIVE DEGREESa~BLACK CHESS Ka~NEUTRAL CHESS KaiWHITE CHESS KING ROTATED TWO HUNDRED SEVENTYm:QUEENm:",
    "ROOKm:BISHOPm:KNIGHTm:PAWNa:BLACK CHESS KINGm:QUEENm:ROOKm:BISHOPm:KNIGHTm:PAWNa:NEUTRAL CHESS KINGo:QUEENo:",
    "ROOKo:BISHOPo:KNIGHTo:PAWNaiWHITE CHESS KNIGHT ROTATED THREE HUNDRED FIFTEENa~BLACK CHESSa~NEUTRAL CHESSaaWH",
    "ITE CHESS EQUIHOPPERarBLACKarNEUTRALaaWHITE CHESS EQUIHOPPER ROTATED NINETY DEGREESa>BLACKa>NEUTRALaaWHITE C",
    "HESS KNIGHT-QUEENtaROOKtaBISHOPaaBLACK CHESS KNIGHT-QUEENtaROOKtaBISHOPaaXIANGQI RED GENERALmaMANDARINmaELEP",
    "HANTmaHORSEmaCHARIOTnaANNONmaSOLDIERiaBLACK GENERALoaMANDARINoaELEPHANToaHORSEoaCHARIOTpaANNONoaSOLDIERaaBAL",
    "LET SHOESaaONE-PIECE SWIMSUITaaBRIEFSabSHORTaaTHONG SANDALaaDROP OF BLOODaaADHESIVE BANDAGEabSTETHOSCOPaaX-R",
    "AYaaCRUTCHaaYO-YOaaKITEacPARACHUaaBOOMERANGaaMAGIC WANDaaPINATAaaNESTING DOLLSaaRINGED PLANETaaCHAIRabRAZOaa",
    "AXEaaDIYA LAMPaaBANJOaaMILITARY HELMETaaACCORDIONaaLONG DRUMaaCOINbaARPENTRY SAWaaSCREWDRIVERacLADDaaHOOKaaM",
    "IRRORaaWINDOWaaPLUNGERaaSEWING NEEDLEaaKNOTabBUCKEaaMOUSE TRAPaaTOOTHBRUSHaaHEADSTONEaaPLACARDaaROCKaaMIRROR",
    " BALLaaIDENTIFICATION CARDaaLOW BATTERYaaHAMSAaaFLYaaWORMaaBEETLEaaCOCKROACHaaPOTTED PLANTaaWOODaaFEATHERaaL",
    "OTUSaaCORALaaEMPTY NESTaaNEST WITH EGGSaaANATOMICAL HEARTaaLUNGSaaPEOPLE HUGGINGbaREGNANT MANjbPERSObbERSON ",
    "WITH CROWaaBLUEBERRIESbaELL PEPPERaaOLIVEaaFLATBREADaaTAMALEabFONDUaaTEAPOTaaPOURING LIQUIDaaBEANSaaJARaaMEL",
    "TING FACEajSALUaaFACE WITH OPEN EYES AND HAND OVER MOUTHkaPEEKING EYEkaDIAGONAL MOUTHaaDOTTED LINE FACEaaBIT",
    "ING LIPbaUBBLESaaHAND WITH INDEX FINGER AND THUMB CROSSEDabRIGHTWARDS HANalLEFafPALM DOWNffUPaaINDEX POINTIN",
    "G AT THE VIEWERaaHEART HANDSaaBLOCK SEXTANT-1oa2ob1oa3ob1ob2oc1oa4ob1ob2oc1ob3oc1oc2od1oa5ob1ob2oc1ob3oc2od1",
    "ob4oc1oc2od1oc3od1od2oe1oa6ob1ob2oc1ob3oc1oc2od1ob4oc1pc2oc3od1od2oe1ob5oc1oc2od1oc3od1od2oe1oc4od1od2oe1od3",
    "oe1oe2aaLOWER LEFT BLOCK DIAGONAL LOWER MIDDLE LEFT TO LOWER CENTRE~aO LOWER RIGHT!aUPPER MIDDLE LEFT TO LOW",
    "ER CENTRE~aO LOWER RIGHT*aLEFT TO LOWER CENTREgjRIGHT BLOCK DIAGONAL UPPER MIDDLE LEFT TO UPP~aTO UPPER RIGH",
    "T$aLOWER MIDDLE LEFT TO UPPER CENTRE~aTO UPPER RIGHT+aLEFT TO UPPER CENTRE+aMIDDLE LEFT TO UPPER MIDDLE RIGH",
    "T+pCENTRE TO LOW+wLEFT+pCENTRE TO UPP+wLEFT+gCENTRE TO UPPERggLEFT BLOCK DIAGONAL UPPER CENTRE TO UPPER MIDD",
    "LE*wLEFT*pCENTRE TO LOW*wLEFT*gCENTRE TO LOWER*gMIDDLE LEFT TO LOWER MIDDLEaaUPPER RIGHT BLOCK DIAGONAL LOWE",
    "R MIDDLE LEFT TO LOWER CENTRE~aTO LOWER RIGHT$aUPPER MIDDLE LEFT TO LOWER CENTRE~aTO LOWER RIGHT+aLEFT TO LO",
    "WER CENTREgjLEFT BLOCK DIAGONAL UPPER MIDDLE LEFT TO UPP~aO UPPER RIGHT!aLOWER MIDDLE LEFT TO UPPER CENTRE~a",
    "O UPPER RIGHT*aLEFT TO UPPER CENTRE*aMIDDLE LEFT TO UPPER MIDDLE RIGHT*pCENTRE TO LOW*wLEFT*pCENTRE TO UPP*w",
    "LEFT*gCENTRE TO UPPERggRIGHT BLOCK DIAGONAL UPPER CENTRE TO UPPER MIDDLE+wLEFT+pCENTRE TO LOW+wLEFT+gCENTRE ",
    "TO LOWER+gMIDDLE LEFT TO LOWER MIDDLEgaAND RIGHT AND LOWER TRIANGULAR THREE QUARTERS BLOCKa*LEFT AND LOWER A",
    "ND RIGHTa*UPPER AND LEFT AND LOWERa*LEFT AND UPPER AND RIGHTfgTRIANGULAR ONE QUARTERa&UPPERa&RIGHTa&LOWERaaV",
    "ERTICAL ONE EIGHTH BLOCK-2!a3!a4!a5!a6!a7aaHORIZONTAL ONE EIGHTH BLOCK-2%a3%a4%a5%a6%a7aaLEFT AND LOWER ONE ",
    "EIGHTH BLOCKjtUPPa%RIGHktLOWa$UPPERaaHORIZONTAL ONE EIGHTH BLOCK-1358aaUPPER ONE QUARTER BLOCKggTHREE EIGHTH",
    "SgpFIVghTHREE QUARTERghSEVEN EIGHTHagRIGHT ONE QUARTERggTHREE EIGHTHSgpFIVghTHREE QUARTERghSEVEN EIGHTHaaLEF",
    "T HALF MEDIUM SHADEatRIGHasUPPERauLOWanINVERSEauUPPER HALF BLOCK AND LOWER HALF laINVERSE MEDIUM SHADE AND L",
    "OWER HALF BLOCKalLEFT HALF INVERSE MEDIUM SHADE AND RIGHTaaCHECKER BOARD FILLasINVERSE afHEAVY HORIZONTALafU",
    "PPER LEFT TO LOWER RIGHTggRIGHT TO LOWER LEFgaAND LOWER TRIANGULAR HALF BLOCKawLEFT AND RIGHTaaUPPER LEFT TR",
    "IANGULAR MEDIUM SHADEgzRIGHa*LOWgzLEFaaBOX DRAWINGS LIGHT DIAGONAL UPPER CENTRE TO MIDDLE LEFT~bIDDLE RIGH%a",
    "MIDDLE LEFT TO LOWER CENTRE.rRIGH%rUPPER CENTRE TO MIDDLE LEF~rIDDLE RIGH%aMIDDLE LEFT TO LOWER CENTRE TO MI",
    "DDLE RIGHT_zUPP%aUPPER CENTRE TO MIDDLE LEFT AND MIDDLE RIGHT TO LOWER CENTRE~rIDDLE RIGHT AND MIDDLE LEF~aI",
    "DDLE RIGHT TO LOWER CENTRE TO MIDDLE LEFT~bIDDLE LEFT TO LOWER CENTRE TO MIDDLE RIGH%aMIDDLE LEFT TO UPPER C",
    "ENTRE TO MIDDLE RIGHT TO LOWER CENTRE.rRIGHT TO UPPER CENTRE TO MIDDLE LEF%aDIAMONDtaHORIZONTAL WITH VERTICA",
    "L STROKEaaARROWHEAD-SHAPED POINTERaaINVERSE CHECK MARKaaLEFT HALF RUNNING MANasRIGHaaINVERSE DOWNWARDS ARROW",
    " WITH TIP LEFTWARDSaaLEFTWARDS ARROW AND UPPER AND LOWER ONE EIGHTH BLOCKa~RIGHTWARarDOWNWARDS ARROW AND RIG",
    "HTa<UPaaLEFT HALF FOLDERanRIGHaaVOIDED GREEK CROSSaaRIGHT OPEN SQUARED DOTaaNEGATIVE DIAGONAL CROSSsaMIDDLE ",
    "RIGHT TO LOWER CENTREsaDIAMONDaaWHITE HEAVY SALTIRE WITH ROUNDED CORNERSaaLEFT THIRD WHITE RIGHT POINTING IN",
    "DEXa+MIDDLEa+RIGHTaaNEGATIVE SQUARED QUESTION MARKaaSTICK FIGUREma WITH ARMS RAISEDnaLEANING LEFTvbRIGHnaWIT",
    "H DRESSaaWHITE UP-POINTING CHEVRONaaSEGMENTED DIGIT ZEROqaONEqaTWOraHREEqaFOURraIVEqaSIXraEVENqaEIGHTqaNINEa",
    "aCJK COMPATIBILITY IDEOGRAPH-2F800*a1*a2*a3*a4*a5*a6*a7*a8*a9*aA*aB*aC*aD*aE*aF)a10*a1*a2*a3*a4*a5*a6*a7*a8*",
    "a9*aA*aB*aC*aD*aE*aF)a20*a1*a2*a3*a4*a5*a6*a7*a8*a9*aA*aB*aC*aD*aE*aF)a30*a1*a2*a3*a4*a5*a6*a7*a8*a9*aA*aB*a",
    "C*aD*aE*aF)a40*a1*a2*a3*a4*a5*a6*a7*a8*a9*aA*aB*aC*aD*aE*aF)a50*a1*a2*a3*a4*a5*a6*a7*a8*a9*aA*aB*aC*aD*aE*aF",
    ")a60*a1*a2*a3*a4*a5*a6*a7*a8*a9*aA*aB*aC*aD*aE*aF)a70*a1*a2*a3*a4*a5*a6*a7*a8*a9*aA*aB*aC*aD*aE*aF)a80*a1*a2",
    "*a3*a4*a5*a6*a7*a8*a9*aA*aB*aC*aD*aE*aF)a90*a1*a2*a3*a4*a5*a6*a7*a8*a9*aA*aB*aC*aD*aE*aF)aA0*a1*a2*a3*a4*a5*",
    "a6*a7*a8*a9*aA*aB*aC*aD*aE*aF)aB0*a1*a2*a3*a4*a5*a6*a7*a8*a9*aA*aB*aC*aD*aE*aF)aC0*a1*a2*a3*a4*a5*a6*a7*a8*a",
    "9*aA*aB*aC*aD*aE*aF)aD0*a1*a2*a3*a4*a5*a6*a7*a8*a9*aA*aB*aC*aD*aE*aF)aE0*a1*a2*a3*a4*a5*a6*a7*a8*a9*aA*aB*aC",
    "*aD*aE*aF)aF0*a1*a2*a3*a4*a5*a6*a7*a8*a9*aA*aB*aC*aD*aE*aF(a900*a1*a2*a3*a4*a5*a6*a7*a8*a9*aA*aB*aC*aD*aE*aF",
    ")a10*a1*a2*a3*a4*a5*a6*a7*a8*a9*aA*aB*aC*aD*aE*aF)a20*a1*a2*a3*a4*a5*a6*a7*a8*a9*aA*aB*aC*aD*aE*aF)a30*a1*a2",
    "*a3*a4*a5*a6*a7*a8*a9*aA*aB*aC*aD*aE*aF)a40*a1*a2*a3*a4*a5*a6*a7*a8*a9*aA*aB*aC*aD*aE*aF)a50*a1*a2*a3*a4*a5*",
    "a6*a7*a8*a9*aA*aB*aC*aD*aE*aF)a60*a1*a2*a3*a4*a5*a6*a7*a8*a9*aA*aB*aC*aD*aE*aF)a70*a1*a2*a3*a4*a5*a6*a7*a8*a",
    "9*aA*aB*aC*aD*aE*aF)a80*a1*a2*a3*a4*a5*a6*a7*a8*a9*aA*aB*aC*aD*aE*aF)a90*a1*a2*a3*a4*a5*a6*a7*a8*a9*aA*aB*aC",
    "*aD*aE*aF)aA0*a1*a2*a3*a4*a5*a6*a7*a8*a9*aA*aB*aC*aD*aE*aF)aB0*a1*a2*a3*a4*a5*a6*a7*a8*a9*aA*aB*aC*aD*aE*aF)",
    "aC0*a1*a2*a3*a4*a5*a6*a7*a8*a9*aA*aB*aC*aD*aE*aF)aD0*a1*a2*a3*a4*a5*a6*a7*a8*a9*aA*aB*aC*aD*aE*aF)aE0*a1*a2*",
    "a3*a4*a5*a6*a7*a8*a9*aA*aB*aC*aD*aE*aF)aF0*a1*a2*a3*a4*a5*a6*a7*a8*a9*aA*aB*aC*aD*aE*aF(aA00*a1*a2*a3*a4*a5*",
    "a6*a7*a8*a9*aA*aB*aC*aD*aE*aF)a10*a1*a2*a3*a4*a5*a6*a7*a8*a9*aA*aB*aC*aDaaLANGUAGE TAGaaTAG SPACEeaEXCLAMATI",
    "ON MARKekQUOTeaNUMBER SIGNegDOLLAefPERCENTeaAMPERSANDfaPOSTROPHEeaLEFT PARENTHESISenRIGHeaASTERISKeaPLUS SIG",
    "NeaCOMMAeaHYPHEN-MINUSeaFULL STOPeaSOLIDUSeaDIGIT ZEROkaONEkaTWOlaHREEkaFOURlaIVEkaSIXlaEVENkaEIGHTkaNINEeaC",
    "OLONefSEMIebLESS-THAN SIGefEQUALSefGREATER-THANeaQUESTION MARKeaCOMMERCIAL ATeaLATIN CAPITAL LETTER AzaBzaCz",
    "aDzaEzaFzaGzaHzaIzaJzaKzaLzaMzaNzaOzaPzaQzaRzaSzaTzaUzaVzaWzaXzaYzaZfaEFT SQUARE BRACKETeaREVERSE SOLIDUSfaI",
    "GHT SQUARE BRACKETebCIRCUMFLEX ACCENeaLOW LINEeaGRAVE ACCENTeaLATIN SMALL LETTER AxaBxaCxaDxaExaFxaGxaHxaIxa",
    "JxaKxaLxaMxaNxaOxaPxaQxaRxaSxaTxaUxaVxaWxaXxaYxaZfaEFT CURLY BRACKETeaVERTICAL LINEeaRIGHT CURLY BRACKETeaTI",
    "LDEaaCANCEL TAGaaVARIATION SELECTOR-17ua8ua9ta20ua1ua2ua3ua4ua5ua6ua7ua8ua9ta30ua1ua2ua3ua4ua5ua6ua7ua8ua9ta",
    "40ua1ua2ua3ua4ua5ua6ua7ua8ua9ta50ua1ua2ua3ua4ua5ua6ua7ua8ua9ta60ua1ua2ua3ua4ua5ua6ua7ua8ua9ta70ua1ua2ua3ua4u",
    "a5ua6ua7ua8ua9ta80ua1ua2ua3ua4ua5ua6ua7ua8ua9ta90ua1ua2ua3ua4ua5ua6ua7ua8ua9ta100va1va2va3va4va5va6va7va8va9",
    "ua10va1va2va3va4va5va6va7va8va9ua20va1va2va3va4va5va6va7va8va9ua30va1va2va3va4va5va6va7va8va9ua40va1va2va3va",
    "4va5va6va7va8va9ua50va1va2va3va4va5va6va7va8va9ua60va1va2va3va4va5va6va7va8va9ua70va1va2va3va4va5va6va7va8va",
    "9ua80va1va2va3va4va5va6va7va8va9ua90va1va2va3va4va5va6va7va8va9ta200va1va2va3va4va5va6va7va8va9ua10va1va2va3",
    "va4va5va6va7va8va9ua20va1va2va3va4va5va6va7va8va9ua30va1va2va3va4va5va6va7va8va9ua40va1va2va3va4va5va6va7va8",
    "va9ua50va1va2va3va4va5va6"]⟩

end StateMachine.Text
