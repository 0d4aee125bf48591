import StateMachine.Text.Name.Table

/-!
# Names of characters: scripts of the second plane

The code points from 10000 to 1CFFF: Linear B, cuneiform, hieroglyphs and other scripts, most of them of the past.
-/

namespace StateMachine.Text

/-- The names of these characters. -/
def ancientNames : NameTable :=
  ⟨
   [(0x10000, 0x1000b), (0x1000d, 0x10026), (0x10028, 0x1003a), (0x1003c, 0x1003d), (0x1003f, 0x1004d),
    (0x10050, 0x1005d), (0x10080, 0x100fa), (0x10100, 0x10102), (0x10107, 0x10133), (0x10137, 0x1018e),
    (0x10190, 0x1019c), (0x101a0, 0x101a0), (0x101d0, 0x101fd), (0x10280, 0x1029c), (0x102a0, 0x102d0),
    (0x102e0, 0x102fb), (0x10300, 0x10323), (0x1032d, 0x1034a), (0x10350, 0x1037a), (0x10380, 0x1039d),
    (0x1039f, 0x103c3), (0x103c8, 0x103d5), (0x10400, 0x1049d), (0x104a0, 0x104a9), (0x104b0, 0x104d3),
    (0x104d8, 0x104fb), (0x10500, 0x10527), (0x10530, 0x10563), (0x1056f, 0x1057a), (0x1057c, 0x1058a),
    (0x1058c, 0x10592), (0x10594, 0x10595), (0x10597, 0x105a1), (0x105a3, 0x105b1), (0x105b3, 0x105b9),
    (0x105bb, 0x105bc), (0x10600, 0x10736), (0x10740, 0x10755), (0x10760, 0x10767), (0x10780, 0x10785),
    (0x10787, 0x107b0), (0x107b2, 0x107ba), (0x10800, 0x10805), (0x10808, 0x10808), (0x1080a, 0x10835),
    (0x10837, 0x10838), (0x1083c, 0x1083c), (0x1083f, 0x10855), (0x10857, 0x1089e), (0x108a7, 0x108af),
    (0x108e0, 0x108f2), (0x108f4, 0x108f5), (0x108fb, 0x1091b), (0x1091f, 0x10939), (0x1093f, 0x1093f),
    (0x10980, 0x109b7), (0x109bc, 0x109cf), (0x109d2, 0x10a03), (0x10a05, 0x10a06), (0x10a0c, 0x10a13),
    (0x10a15, 0x10a17), (0x10a19, 0x10a35), (0x10a38, 0x10a3a), (0x10a3f, 0x10a48), (0x10a50, 0x10a58),
    (0x10a60, 0x10a9f), (0x10ac0, 0x10ae6), (0x10aeb, 0x10af6), (0x10b00, 0x10b35), (0x10b39, 0x10b55),
    (0x10b58, 0x10b72), (0x10b78, 0x10b91), (0x10b99, 0x10b9c), (0x10ba9, 0x10baf), (0x10c00, 0x10c48),
    (0x10c80, 0x10cb2), (0x10cc0, 0x10cf2), (0x10cfa, 0x10d27), (0x10d30, 0x10d39), (0x10e60, 0x10e7e),
    (0x10e80, 0x10ea9), (0x10eab, 0x10ead), (0x10eb0, 0x10eb1), (0x10f00, 0x10f27), (0x10f30, 0x10f59),
    (0x10f70, 0x10f89), (0x10fb0, 0x10fcb), (0x10fe0, 0x10ff6), (0x11000, 0x1104d), (0x11052, 0x11075),
    (0x1107f, 0x110c2), (0x110cd, 0x110cd), (0x110d0, 0x110e8), (0x110f0, 0x110f9), (0x11100, 0x11134),
    (0x11136, 0x11147), (0x11150, 0x11176), (0x11180, 0x111df), (0x111e1, 0x111f4), (0x11200, 0x11211),
    (0x11213, 0x1123e), (0x11280, 0x11286), (0x11288, 0x11288), (0x1128a, 0x1128d), (0x1128f, 0x1129d),
    (0x1129f, 0x112a9), (0x112b0, 0x112ea), (0x112f0, 0x112f9), (0x11300, 0x11303), (0x11305, 0x1130c),
    (0x1130f, 0x11310), (0x11313, 0x11328), (0x1132a, 0x11330), (0x11332, 0x11333), (0x11335, 0x11339),
    (0x1133b, 0x11344), (0x11347, 0x11348), (0x1134b, 0x1134d), (0x11350, 0x11350), (0x11357, 0x11357),
    (0x1135d, 0x11363), (0x11366, 0x1136c), (0x11370, 0x11374), (0x11400, 0x1145b), (0x1145d, 0x11461),
    (0x11480, 0x114c7), (0x114d0, 0x114d9), (0x11580, 0x115b5), (0x115b8, 0x115dd), (0x11600, 0x11644),
    (0x11650, 0x11659), (0x11660, 0x1166c), (0x11680, 0x116b9), (0x116c0, 0x116c9), (0x11700, 0x1171a),
    (0x1171d, 0x1172b), (0x11730, 0x11746), (0x11800, 0x1183b), (0x118a0, 0x118f2), (0x118ff, 0x11906),
    (0x11909, 0x11909), (0x1190c, 0x11913), (0x11915, 0x11916), (0x11918, 0x11935), (0x11937, 0x11938),
    (0x1193b, 0x11946), (0x11950, 0x11959), (0x119a0, 0x119a7), (0x119aa, 0x119d7), (0x119da, 0x119e4),
    (0x11a00, 0x11a47), (0x11a50, 0x11aa2), (0x11ab0, 0x11af8), (0x11c00, 0x11c08), (0x11c0a, 0x11c36),
    (0x11c38, 0x11c45), (0x11c50, 0x11c6c), (0x11c70, 0x11c8f), (0x11c92, 0x11ca7), (0x11ca9, 0x11cb6),
    (0x11d00, 0x11d06), (0x11d08, 0x11d09), (0x11d0b, 0x11d36), (0x11d3a, 0x11d3a), (0x11d3c, 0x11d3d),
    (0x11d3f, 0x11d47), (0x11d50, 0x11d59), (0x11d60, 0x11d65), (0x11d67, 0x11d68), (0x11d6a, 0x11d8e),
    (0x11d90, 0x11d91), (0x11d93, 0x11d98), (0x11da0, 0x11da9), (0x11ee0, 0x11ef8), (0x11fb0, 0x11fb0),
    (0x11fc0, 0x11ff1), (0x11fff, 0x12399), (0x12400, 0x1246e), (0x12470, 0x12474), (0x12480, 0x12543),
    (0x12f90, 0x12ff2), (0x13000, 0x1342e), (0x13430, 0x13438), (0x14400, 0x14646), (0x16800, 0x16a38),
    (0x16a40, 0x16a5e), (0x16a60, 0x16a69), (0x16a6e, 0x16abe), (0x16ac0, 0x16ac9), (0x16ad0, 0x16aed),
    (0x16af0, 0x16af5), (0x16b00, 0x16b45), (0x16b50, 0x16b59), (0x16b5b, 0x16b61), (0x16b63, 0x16b77),
    (0x16b7d, 0x16b8f), (0x16e40, 0x16e9a), (0x16f00, 0x16f4a), (0x16f4f, 0x16f87), (0x16f8f, 0x16f9f),
    (0x16fe0, 0x16fe4), (0x16ff0, 0x16ff1), (0x18800, 0x18cd5), (0x1aff0, 0x1aff3), (0x1aff5, 0x1affb),
    (0x1affd, 0x1affe), (0x1b000, 0x1b122), (0x1b150, 0x1b152), (0x1b164, 0x1b167), (0x1b170, 0x1b2fb),
    (0x1bc00, 0x1bc6a), (0x1bc70, 0x1bc7c), (0x1bc80, 0x1bc88), (0x1bc90, 0x1bc99), (0x1bc9c, 0x1bca3),
    (0x1cf00, 0x1cf2d), (0x1cf30, 0x1cf46), (0x1cf50, 0x1cfc3)],
   ["aaLINEAR B SYLLABLE B008 Aua38 Eua28 Iua61 Oua10 Uua01 DAua45 DEua07 DIua14 DOua51 DUva7 JAua46 JEua36 JOua6",
    "5 JUua77 KAua44 KEua67 KIua70 KOua81 KUva0 MAua13 MEua73 MIua15 MOua23 MUua06 NAua24 NEua30 NIua52 NOva5 NUu",
    "a03 PAua72 PEua39 PIua11 POua50 PUua16 QAua78 QEua21 QIua32 QOua60 RAua27 REua53 RIua02 ROua26 RUua31 SAua09",
    " SEua41 SIua12 SOua58 SUva9 TAua04 TEua37 TIua05 TOua69 TUua54 WAua75 WEua40 WIva2 WOua17 ZAua74 ZEua20 ZOva",
    "5 A2ua43 A3ua85 AUua71 DWEua90 DWOua48 NWAua29 PU2ua62 PTEua76 RA2ua33 RA3ua68 RO2vb6 TAua87 TWEua91 TWOlaMB",
    "OL B018ta9sa22sa34sa47ta9sa56sa63ta4sa79sa82ta3ta6ta9jaIDEOGRAM B100 MANvd2 WOva4 DEERva5 EQUIDwaF MAREwaM S",
    "TALLIONva6F EWEwaM RAMva7F SHE-GOATwhM va8F SOWwaM BOARva9F COWwaM BULLua20 WHEATva1 BARLEYva2 OLIVEvb3 SPIC",
    "va5 CYPERUSjaMONOGRAM B127 KAPOvb8 KANAKjaIDEOGRAM B130 OILva1 WINEva2jaMONOGRAM B133 AREPAva5 MERIjaIDEOGRA",
    "M B140 BRONZEva1 GOLDva2va5 WOOLva6ua50va1 HORNva2va3va4jaMONOGRAM B156 TURO2jaIDEOGRAM B157va8va9 CLOTHua60",
    "va1va2 GARMENTva3 ARMOURva4va5va6va7va8va9ua70va1va2va3 MONTHva4va6 TREEva7va8va9ua80va1va2va3va4va5va9ua90v",
    "a1 HELMETta220 FOOTSTOOLva5 BATHTUBua30 SPEARva1 ARROWva2va3 SWORDva4va6ua40 WHEELED CHARIOTvi1va2 CHARIOT F",
    "RAMEva3 WHEELva5va6jaMONOGRAM B247 DIPTEjaIDEOGRAM B248va9ua51va2va3va4 DARTva5va6va7va8va9saVESSEL B155!a20",
    "0%a1%a2%a3%a4%a5%a6%a7%a8%a9$a10%a1%a2%a3%a4%a5%a6%a7%a8%a9$a21%a2%a6%a7%a8%a9$a50!a305aaAEGEAN WORD SEPARAT",
    "OR LINEwaDOThaCHECK MARKhaNUMBER ONEoaTWOpaHREEoaFOURpaIVEoaSIXpaEVENoaEIGHToaNINEoaTENpaWENTYpcHIRodFOpcIFo",
    "cSIXpcEVENocEIGHocNINEoaONE HUNDREDoiTWOpiHREEoiFOURpiIVEoiSIXpiEVENoiEIGHToiNINEobONE THOUSANojTWOpjHREEojF",
    "OURpjIVEojSIXpjEVENojEIGHTojNINEojTENpjWENTYplHIRomFOplIFolSIXplEVENolEIGHolNINEhaWEIGHT BASE UNIToeFIRST SU",
    "BoiSECONDojTHIRoiFOURTHhiDRY MEASURE FIRSThwLIQUIDhiMEASURE SECONDpjTHIRaaGREEK ACROPHONIC ATTIC ONE QUARTER",
    "$aHALF$aDRACHMAxaFIVEzaFTYzaVE HUNDRED%bTHOUSANzjFTYzaVE TALENTSxiTENxiFIFTYxiONE HUNDREDxrFIVxjONE THOUSANx",
    "sFIV%bSTATERxiTENxiFIFTYxiONE HUNDREDxrFIVxjONE THOUSANxrTENxrFIFTYxbTEN MNAraHERAEUM ONE PLETHRONraTHESPIAN",
    " ONErhHERMIONraEPIDAUREAN TWOrgTHESPIraCYRENAIC TWO DRACHMASrnEPIDAUREANraTROEZENIAN FIVE%aTEN)a ALTERNATE F",
    "ORMraHERMIONIAN TENriMESSErhTHESP$aHIRTYscROEZENIAN FIF+a ALTERNATE FORMraHERMIONIAN FIFTYrjTHESP!aONE HUNDR",
    "ED!jTHRErjEPIDAUREAN FIVrpTROEZENIsqHESPrqCARYSTrqNAXrbTHESPIAN ONE THOUSAN!kFIVraDELPHIC FIVE MNASrfSTRATIA",
    "N FIFTYgaONE HALF SIGNta ALTERNATE FORMgaTWO THIRDS SIGNhgHREE QUARTERgfYEARgfTALENTgfDRACHMAgfOBOLgfTWO OBO",
    "LShlHREEglFOURhlIVEggMETRETEgfKYATHOS BASEgfLITRAggOUNKIgfXESTESgfARTABEifOURAggGRAMMgfTRYBLION BASEgfZEROgf",
    "ONE QUARTERgfSINUSOIDgfINDICTIONafNOMISMAafROMAN SEXTANSgfUNCIAgkSEMigXTULgmDIMIDIA ggSILIQUgfDENARIUSglQUIg",
    "iSESTERTgiDUPONDggAgfCENTURIALaaASCIA SYMBOLaaGREEK SYMBOL TAU RHOaaPHAISTOS DISC SIGN PEDESTRIANuaLUMED HEA",
    "DthTATTOOtaCAPTIVEuaHILDtaWOMANtaHELMETtcGAUNTLtaTIARAtaARROWtcBtaSHIELDtaCLUBtaMANACLESvaTTOCKtaSAWtaLIDtaB",
    "OOMERANGtaCARPENTRY PLANEtaDOLIUMtaCOMBtaSLINGtaCOLUMNtaBEEHIVEtaSHIPtaHORNuaIDEtaBULLS LEGtaCATtaRAMtaEAGLE",
    "tbDOVtaTUNNYtaBEEtcPLANE TRtbVINtaPAPYRUStaROSETTEtaLILYtaOX BACKtaFLUTEtaGRATERtcSTRAINuaMALL AXEtaWAVY BAN",
    "DtaCOMBINING OBLIQUE STROKEaaLYCIAN LETTER AoaEoaBpaHoaGoaDoaIoaWoaZoaTHoaJoaKoaQoaLoaMoaNoaMMoaNNoaUoaPoaKK",
    "oaRoaSoaTpaToaANobEoaHoaXaaCARIAN LETTER AoaP2oaDoaLoaUUUoaRoaLDoaA2oaQoaBoaMoaOoaD2oaToaSHqa2paoaC-18oaUoaN",
    "NoaXoaNoaTT2oaPoaSSoaIoaEoaUUUUoaKpa2oaNDoaUUoaGpa2oaSTqa2oaNGoaIIoaC-39oaTToaUUU2oaRRoaMBqa2qa3qa4oaLD2obEo",
    "aUUU3baOPTIC EPACT THOUSANDS MARKnaDIGIT ONEtaTWOuaHREEtaFOURuaIVEtaSIXuaEVENtaEIGHTtaNINEnaNUMBER TENvaWENT",
    "YvcHIRudFOvcIFucSIXvcEVENucEIGHucNINEuaONE HUNDREDuiTWOviHREEuiFOURviIVEuiSIXviEVENuiEIGHTuiNINEaaOLD ITALIC",
    " LETTER AsaBEsbKsbDsbsbVsbZsbHscTsaIsaKAsaELtaMtaNtaSHsaOsaPEsbSHsaKUsaERtaSsaTEsaUsaEKSsaPHEscKsaEFtaRSsaCH",
    "EsaIIsaUUsaESSlaNUMERAL ONEtbFIVtaTENtaFIFTYlaLETTER YEsbNORTHERN TSsjSOUaaGOTHIC LETTER AHSAoaBAIRKANoaGIBA",
    "oaDAGSobAIHVUoaQAIRTHRAobIUJoaHAGLoaTHIUTHoaEISoaKUSMAoaLAGUSoaMANNAoaNAUTHSoaJERoaURUSoaPAIRTHRAoaNINETYoaR",
    "AIDAoaSAUILoaTEIWSoaWINJAoaFAIHUoaIGGWSoaHWAIRoaOTHALoaNINE HUNDREDaaOLD PERMIC LETTER ANsaBURsaGAIsbDOsaEsa",
    "ZHOIseDsaZATAscDZIsaIsaKOKEsaLEIsaMENOEseNsaVOOIsbPEEscRsbSIsbTAsaUsaCHERYsaSHOOIudCHsaYRYtaERUsaOtaOsaEFsaH",
    "AsaTSIUsaVERscYvaItaATsaIEsaYUtaAsbIaaCOMBINING OLD PERMIC LETTER AN%aDOI%aZATA%aNENOE%aSIIaaUGARITIC LETTER",
    " ALPAqbBETqbGAMLqbKHqbDELTqaHOqbWqaZETAqcHOqaTETqaYODqaKAFqaSHINqaLAMDAqaMEMqaDHALqaNUNqaZUqaSAMKAqaAINqaPUq",
    "aSADEqaQOPAqbRASHqbTHANNqaGHAINqaTOqaIqaUqbSSjaWORD DIVIDERaaOLD PERSIAN SIGN AraIraUraKAsaUraGAsaUraXArbCrb",
    "JsaIraTAsaUraDAsaIsaUraTHArbPrbBrbFrbNsaUraMAsaIsaUraYArbVsaIraRAsaUraLArbSrbZrbSHsbSrbHrbAURAMAZDA$a-2$aHAr",
    "bXSHAAYATHIYraDAHYAAUSH!a-2raBAGAsaUUMISHmaWORD DIVIDERmaNUMBER ONEtaTWOuaENuaWENTYtaHUNDREDaaDESERET CAPITA",
    "L LETTER LONG I%aE%aA&aH%aO&aOxaSHORT I&aE&aA(aH&aO(aOxaAYxaOWxaWUxaYEExaHxaPEExcBxcTxcDxcCHxcJxaKAYxcGxaEFx",
    "aVEExaETHxaTHEExaESxaZEExaESHxaZHEExaERyaLyaMyaNzaGxaOIxaEWiaSMALL LETTER LONG I!aE!aA$aH!aO$aOvaSHORT I$aE$",
    "aA%aH$aO%aOvaAYvaOWvaWUvaYEEvaHvaPEEvcBvcTvcDvcCHvcJvaKAYvcGvaEFvaVEEvaETHvaTHEEvaESvaZEEvaESHvaZHEEvaERwaLw",
    "aMwaNxaGvaOIvaEWaaSHAVIAN LETTER PEEPpaTOTpaKICKpaFEEpaTHIGHpaSOqaUREpaCHURCHpaYEApaHUNGpaBIBpaDEADpaGAGpaVO",
    "WpaTHEYpaZOOpaMEASUREpbJUDGpbWOpaHA-HApaLOLLpaMIMEpaIFpaEGGpaASHqaDOpaONpaWOOLpaOUTpaAHpaROARpaNUNpaEATpaAGE",
    "pbICpaUPpaOAKqaOZEqaILpaAWEqbRpaORpbAIpbERpaARRAYpaEARpaIANpaYEWaaOSMANYA LETTER ALEFpaBApbTpbJpbXpbKHpaDEEL",
    "paRApbSqaHIINpaDHApaCAYNpaGApbFpaQAAFpdKpaLAANpbMIIpbNUUpaWAWpaHApbYpbpaEpaIpaOpaUpaAApaEEpaOOibDIGIT ZERoaO",
    "NEoaTWOpaHREEoaFOURpaIVEoaSIXpaEVENoaEIGHToaNINEcaAGE CAPITAL LETTER AwaIxaNwaHvaBRAvbCHvdEHwawaINvaHAwbYvaI",
    "vaKAvcEHvbKYvbLvbMvbNvaOwaINvaPAvcEHvbSwbHvbTvcEHvbTSvdEHvbTSHvcDvaUvaWAvbKHvcGvbZwbHgbSMALL LETTER uaIvaNua",
    "HtaBRAtbCHtdEHuauaINtaHAubYtaItaKAtcEHtbKYtbLtbMtbNtaOuaINtaPAtcEHtbSubHtbTtcEHtbTStdEHtbTSHtcDtaUtaWAtbKHtc",
    "GtbZubHabELBASAN LETTER paBEpbCqbHpbDpcNpbDHpaEIqapbFpbGqbJpbHpaIpaJEpbKpbLqbLpbMpbNqaAqaJEpaOpaPEpbQpbRqbRp",
    "bSqbHpbTqbHpaUpaVEpbXpaYpaZEqbHpcGraAMMApaKHEaaCAUCASIAN ALBANIAN LETTER ALT!bBE!aGIM!aDAT!aEB!aZARL!aEYN!aZ",
    "HIL!aTAS!aCHA!aYOWD!aZHA!aIRB!aSHA!aLAN!aINYA!aXEYN!bDYA!aCAR!aJHOX!aKAR!aLYIT!bHEY!aQAY!aAOR!aCHOY%aI$aYAY!",
    "aMAQ!aQAR!aNOWC!aDZYAY!aSHAK!aJAYN!bO!aTYAY!aFAM!aDZAY!aCHAT!aPEN!aGHEYS!aRAT!aSEYK!aVEYZ!aTIWR!aSHOY!aIWN!a",
    "CYAW$aAYN!aYAYD!aPIWR!aKIWtaCITATION MARKaaVITHKUQI CAPITAL LETTER AyaBBEzbybCzbHybDzbHyaEIzaybFyaGAybHzbHya",
    "IzaJEycyaKAybLzbLyaMEybNzbJyaOyaPEyaQAyaREybSzbHybTzbHyaUyaVEybXyaYyaZEjaSMALL LETTER AwaBBExbwbCxbHwbDxbHwa",
    "EIxawbFwaGAwbHxbHwaIxaJEwcwaKAwbLxbLwaMEwbNxbJwaOwaPEwaQAwaREwbSxbHwbTxbHwaUwaVEwbXwaYwaZEaaLINEAR A SIGN AB",
    "001sa2sa3sa4sa5sa6sa7sa8sa9ra10sa1sa3sa6sa7ra20sa1taFtaMsa2taFtaMsa3taMsa4sa6sa7sa8pa028BpaB029ra30sa1sa4sa7",
    "sa8sa9ra40sa1sa4sa5sa6sa7sa8sa9ra50sa1sa3sa4sa5sa6sa7sa8sa9ra60sa1sa5sa6sa7sa9ra70sa3sa4sa6sa7sa8sa9ra80sa1s",
    "a2sa5sa6sa7pa100-102paB118ra20pa120BpaB122sa3ra31AtaBpa131CpaB164ra71ra80sa8ra91pb30ra2ra3ra4ra5ra6ra7ra8ra9",
    "AsaBsaCqa10ra1ra2ra3AsaBsaCra4ra5ra6ra7ra8ra9qa20ra1ra2ra3ra4ra5ra6ra7ra8ra9qa30ra1ra2ra3ra4ra5ra6ra7ra8ra9q",
    "a40ra1ra2ra3ra4ra5ra6ra7ra8ra9qa50ra1ra2ra3ra4ra5ra6ra7ra8ra9qa60ra1ra2ra3ra4ra5ra6ra7ra8ra9qa70ra1pa400-VAS",
    "re1re2re3re4re5re6re7re8re9qe10re1re2re3re4re5re6re7re8pa501ra2ra3ra4ra5ra6ra8ra9qa10ra1ra2ra3ra5ra6qa20ra1r",
    "a3ra4ra5ra6ra7ra8ra9qa30ra1ra2ra4ra5ra6ra7ra8ra9qa40ra1ra2ra5ra7ra8ra9qa50ra1ra2ra3ra4ra5ra6ra7ra9qa63ra4ra5",
    "ra6ra8ra9qa70ra1ra2ra3ra4ra5ra6ra7ra8ra9qa80ra1ra2ra3ra4ra5ra6ra7ra8ra9qa91ra2ra4ra5ra6ra8pa600ra1ra2ra3ra4r",
    "a6ra8ra9qa10ra1ra2ra3ra4ra5ra6ra7ra8ra9qa20ra1ra2ra3ra4ra6ra7ra8ra9qa34ra7ra8qa40ra2ra3ra4ra5ra6ra8ra9qa51ra",
    "2ra3ra4ra5ra6ra7ra8ra9qa60ra1ra2ra3ra4pa701 Ara2 Bra3 Dra4 Era5 Fra6 Hra7 Jra8 Kra9 Lsa-2 L2ta3 L3ta4 L4ta6 ",
    "L6qa10 Wra1 Xra2 Yra3 OMEGAra4 ABBrc5 ra7 DDqa26 EYYYqa32 JEpa800ra1ra2ra3ra4ra5ra6ra7aaMODIFIER LETTER SMAL",
    "L CAPITAL AAraUPERSCRIPT TRIANGULAR COLON%qHALF raMALL AEwaCAPITAL BwaB WITH HOOKwaDZ DIGRAPH*a WITH RETROFL",
    "EX HOOK<aCURLxaEZH DIGRAPHxa WITH TAIL&aHOOK+a AND TAILwaREVERSED EwcCLOSED REVERSED OPENwaFENG DIGRAPHwaRAM",
    "S HORNwaCAPITAL GwaG WITH HOOKwlCAPITAL waH WITH STROKEwaCAPITAL HwaHENG WITH HOOKwfDOTLESS J WITH STROKE AN",
    "DwaLS DIGRAPHxiZxa WITH BELTwlCAPITAL wfL WITH RETROFLEX HOOK ANDxaEZH!a WITH RETROFLEX HOOKwaTURNED Y(a WIT",
    "H BELTwaO WITH STROKEwbCAPITAL OxaLOSED OMEGAwaQwaTURNED R WITH LONG LEG|a AND RETROFLEX HOOKwaR WITH TAIL&a",
    "FISHHOOKwaCAPITAL RwaTC DIGRAPH WITH CURLxaS DIGRAPH*a WITH RETROFLEX HOOKxaESH DIGRAPHxa WITH RETROFLEX HOO",
    "KwfV WITH RIGHTwaCAPITAL YqaGLOTTAL STOP WITH STROKEqyREVERSED qaBILABIAL CLICKqiDENTqiLATERqgALVEOLARqbRETR",
    "OFLEX CLICK WITH RETROFLEX HOOqaSMALL S WITH CURLaaCYPRIOT SYLLABLE AraEraIraOraUraJAsaOraKAsaEsaIsaOsaUraLA",
    "saEsaIsaOsaUraMAsaEsaIsaOsaUraNAsaEsaIsaOsaUraPAsaEsaIsaOsaUraRAsaEsaIsaOsaUraSAsaEsaIsaOsaUraTAsaEsaIsaOsaU",
    "raWAsaEsaIsaOraXAsaEraZAsaOaaIMPERIAL ARAMAIC LETTER ALEPHybBETyaGIMELyaDALETHyaHEyaWAWyaZAYINyaHETHydTybYOD",
    "ybKAPybLAMEDyaMEMyaNUNyaSAMEKHyaAYINyaPEybSADHyaQOPHybRESyaSHINyaTAWraSECTION SIGNraNUMBER ONEyaTWOzaHREEzaE",
    "NzaWENTYyaONE HUNDRED%bTHOUSANyjTENaaPALMYRENE LETTER ALEPHrbBETraGIMELraDALETHraHEraWAWraZAYINraHETHrdTrbYO",
    "DrbKAPrbLAMEDraMEMraFINAL NUNrdraSAMEKHraAYINraPErbSADHraQOPHrbRESraSHINraTAWmaFT-POINTING FLEURONksRIGHkaNU",
    "MBER ONEraTWOsaHREEraFOURsaIVEraTENsaWENTYaaNABATAEAN LETTER FINAL ALEPHrfrbFINAL BETreraGIMELraDALETHraFINA",
    "L HErcraWAWraZAYINraHETHrdTrbFINAL YODrerbFINAL KAPrerbFINAL LAMEDrgraFINAL MEMrdraFINAL NUNrdraSAMEKHraAYIN",
    "raPErbSADHraQOPHrbRESraFINAL SHINreraTAWkaNUMBER ONEraTWOsaHREEraFOURklCRUCIFORM kaNUMBER FIVEraTENsaWENTYra",
    "ONE HUNDREDaaHATRAN LETTER ALEPHobBEToaGIMELoaDALETH-RESHoaHEoaWAWoaZAYNoaHETHodTobYODobKAPobLAMEDoaMEMoaNUN",
    "oaSAMEKHoaAYNoaPEobSADHoaQOPHoaSHINoaTAWhaNUMBER ONEobFIVoaTENpaWENTYoaONE HUNDREDaaPHOENICIAN LETTER ALFsaB",
    "ETsaGAMLsaDELTsaHEsaWAUsaZAIsaHETscTsaYODsaKAFsaLAMDsaMEMsaNUNsaSEMKsaAINsaPEsbSADsaQOFsaROSHsaSHINsaTAUlaNU",
    "MBER ONEsaTENtaWENTYsaONE HUNDREDsaTWOtaHREElaWORD SEPARATORaaLYDIAN LETTER AoaBoaGoaDoaEoaVoaIoaYoaKoaLoaMo",
    "aNoaOoaRoaSSoaToaUoaFoaQoaSoaTToaANobEoaLYoaNNoaChaTRIANGULAR MARKaaMEROITIC HIEROGLYPHIC LETTER A&aE&aI&aO&",
    "aYA&bW&bB)a-2&aPA&bM&bN)a-2(aE)a-2&aRA)a-2&aLA&bKH&cH&bS)a-2(aE&aKA&bQ&bT)a-2(aE)a-2(aO&aDAwaSYMBOL VIDJ+a-2",
    "jaCURSIVE LETTER AyaEyaIyaOyaYAybWybBybPybMybNzaEyaRAybLybKHycHybSycARCHAIC yaSEyaKAybQybTzaEzaOyaDAraFRACTI",
    "ON ELEVEN TWELFTHS!aONE HALFraLOGOGRAM RMT!aIMNraNUMBER ONEyaTWOzaHREEyaFOURzaIVEyaSIXzaEVENyaEIGHTyaNINEyaT",
    "ENzaWENTYzcHIRydFOzcIFycSIXzcEVENyaONE HUNDREDyiTWOziHREEyiFOURziIVEyiSIXziEVENyiEIGHTyiNINEybONE THOUSANyjT",
    "WOzjHREEyjFOURzjIVEyjSIXzjEVENyjEIGHTyjNINEyjTENzjWENTYzlHIRymFOzlIFylSIXzlEVENylEIGHylNINEyjONE HUNDREDyrTW",
    "OzrHREEyrFOURzrIVEyrSIXzrEVENyrEIGHTyrNINEraFRACTION ONE TWELFTH!aTWO TWELFTHS$jHREE!jFOUR$jIVE!jSIX$jEVEN!j",
    "EIGHT!jNINE!jTENaaKHAROSHTHI LETTER AlaVOWEL SIGN IwaUwaVOCALIC RwaEwaOraLENGTH MARKlaSIGN DOUBLE RING BELOW",
    "qaANUSVARAqbVISARGlbLETTER KtbHsbGtbHsbCtbHsbJsbNYsbTTubHsbDDubHsbNNsbTtbHsbDtbHsbNsbPtbHsbBtbHsbMsbYsbRsbLs",
    "bVsbSHtbStbsbZsbHsbKKsbTTTHvbsbVHlaSIGN BAR ABOVEqaCAUDAqaDOT BELOWlaVIRAMAlaDIGIT ONEraTWOsaHREEraFOURlaNUM",
    "BER TENtaWENTYsaONE HUNDREDwbTHOUSANlaFRACTION ONE HALFlaPUNCTUATION DOTxaSMALL CIRCLExgyaRESCENT BARxaMANGA",
    "LAMxaLOTUSxaDANDAyeOUBLE DxaLINESaaOLD SOUTH ARABIAN LETTER HEzaLAMEDHzbHETzaMEMzaQOPHzaWAWzaSHINzaRESHzbBET",
    "zaTAWzaSATzaKAPHzaNUNzaKHETHzaSADHE$aMEKHzaFEzaALEF!aYNzaDHADHEzaGIMELzaDALETHzaGHAYNzaTETHzaZAYNzaDHALETHzb",
    "YODzaTHAW$aETHsaNUMBER ONEzaFIFTYvaERIC INDICATOReaNORTH ARABIAN LETTER HEHzaLAMzaHAHzaMEEMzaQAFzaWAWzaES-2z",
    "aREHzcBzcTzaES-1zaKAFzaNOONzaKHAHzaSADzaES-3zaFEHzaALEF!aINzaDADzaGEEMzaDALzaGHAINzaTAHzaZAINzaTHALzaYEHzcTH",
    "zbZAsaNUMBER ONEzaTEN!aWENTYaaMANICHAEAN LETTER ALEPHsbBETtdHsaGIMELteHsaDALETHsaHEsaWAWlaSIGN UDlaLETTER ZA",
    "YINteHseJteHsaHETHsdTsbYODsbKAPsdXsdKHsbLAMEDsfDHsgTsaMEMsaNUNsaSAMEKHsaAYINtdAsaPEsbFsbSADHsaQOPHsdXsdQHsbR",
    "ESsaSHINtdSsaTAWlaABBREVIATION MARK ABOVE&aBELOWlaNUMBER ONEsbFIVsaTENtaWENTYsaONE HUNDREDlaPUNCTUATION STAR",
    "xaFLEURONxaDOUBLE DOT WITHIN DOTzm!axaTWO DOTSxaLINE FILLERaaAVESTAN LETTER AqaAqaOqbAqaNqbAqaEraEpbqaEpaOqa",
    "OpaIqaIpaUqaUpaKEpbXqbYqbVpbGqbGqbHpbCpbJpbTqbHpbDqbHpbTTpbPpbFpbBqbHpbNGrbYrbVqbqbYqbNpbMpcHpbYYqbpbVpbRpbL",
    "pbSpbZpbSHpcZpbSHYqbSHpciaABBREVIATION MARKaaTINY TWO DOTS OVER ONE DOT PUNCTUATIONa,SMALLa,LARGEgmONE DOT O",
    "VER TWO DOTSgmTWO RINGS OVER ONE RINGgmONE RING OVER TWO RINGSaaINSCRIPTIONAL PARTHIAN LETTER ALEPH(bBET(aGI",
    "MEL(aDALETH(aHE(aWAW(aZAYIN(aHETH(dT(bYOD(bKAP(bLAMED(aMEM(aNUN(aSAMEKH(aAYIN(aPE(bSADH(aQOPH(bRES(aSHIN(aTA",
    "WxaNUMBER ONE(aTWO)aHREE(aFOUR(aTEN)aWENTY(aONE HUNDRED,bTHOUSANqaHLAVI LETTER ALEPH&bBET&aGIMEL&aDALETH&aHE",
    "&aWAW-AYIN-RESH&aZAYIN&aHETH&dT&bYOD&bKAP&bLAMED&bMEM-QOP&aNUN&aSAMEKH&aPE&bSADH(aHIN&aTAWwaNUMBER ONE&aTWO(",
    "aHREE&aFOUR&aTEN(aWENTY&aONE HUNDRED+bTHOUSANaaPSALTER PAHLAVI LETTER ALEPHxbBETxaGIMELxaDALETHxaHExaWAW-AYI",
    "N-RESHxaZAYINxaHETHxbYODxbKAPxbLAMEDxbMEM-QOPxaNUNxaSAMEKHxaPExbSADHyaHINxaTAWqaSECTION MARKqmTURNED qaFOUR ",
    "DOTS WITH CROSS)aDOTqaNUMBER ONExaTWOyaHREExaFOURxaTENyaWENTYxaONE HUNDREDaaOLD TURKIC LETTER ORKHON AscYENI",
    "SEI$aEsaORKHON IscYENISEI!aEsaORKHON O!aEsdYENISEIsaORKHON ABsdYENISEIsbORKHON AEseYENISEIsaORKHON AGsdYENIS",
    "EIsbORKHON AEseYENISEIsaORKHON ADsdYENISEIsbORKHON AEzaEZsdYENISEIsaORKHON AYsdYENISEIsbORKHON AEseYENISEIsa",
    "ORKHON AEKseYENISEIscORKHON OseYENISEIsaORKHON ALsdYENISEIsbORKHON AEzaELT!aMzaAN!bEseYENISEIsaORKHON ENTseY",
    "ENISEIsaORKHON ENCseYENISEIsaORKHON ENYseYENISEI!aANGscORKHON EsdYENISEI AsaORKHON EPzbOzaICzbEsdYENISEIsaOR",
    "KHON AQsdYENISEIsbORKHON IsdYENISEIsbORKHON OsdYENISEIsaORKHON ARsdYENISEIsbORKHON AE!aS!bE!aSHseYENISEIscOR",
    "KHON EseYENISEIsaORKHON ATsdYENISEIsbORKHON AEseYENISEIsbORKHON OzaBASHeaHUNGARIAN CAPITAL LETTER A(aA&aEB&b",
    "AM&aEC(bN(aCS(aD&bAN&aE&bCLOSE &bE(aF(aG)aY(aH&aI(aI&aEJ(aK&bA&bUN&aEL)aY(aM(aN)aY&aO(aO&aNIKOLSBURG OE&dRUD",
    "IMENTA&bOE&aEP(bM(aR&cSHORT &aES)aZ(aT(bN(aTY(aCH&aU(aU&aNIKOLSBURG UE&dRUDIMENTA&aEV(aZ)aS(aNT-SHAPED SIGN&",
    "aUSoaSMALL LETTER A%aA$aEB$bAM$aEC%bN%aCS%aD$bAN$aE$bCLOSE $bE%aF%aG&aY%aH$aI%aI$aEJ%aK$bA$bUN$aEL&aY%aM%aN&",
    "aY$aO%aO$aNIKOLSBURG OE$dRUDIMENTA$bOE$aEP%bM%aR$cSHORT $aES&aZ%aT%bN%aTY%aCH$aU%aU$aNIKOLSBURG UE$dRUDIMENT",
    "A$aEV%aZ&aS%aNT-SHAPED SIGN$aUSoaNUMBER ONEvbFIVvaTENvaFIFTYvaONE HUNDREDzbTHOUSANaaHANIFI ROHINGYA LETTER A",
    "xbBxbPxbTybTxbJxbCxbHxcKxbFxbDybDxbRybRxbZxbSybHxbKxbGxbLxbMxbNxbWxcKINNA xbYxcKINNA xbNGybYxbVqbVOWEL waIwa",
    "UwaEwaOqaMARK SAKINvaNA KHONNAqaSIGN HARBAHAYvaTAHALAxbNxaSSIqaDIGIT ZEROwaONEwaTWOxaHREEwaFOURxaIVEwaSIXxaE",
    "VENwaEIGHTwaNINEacRUMI DIGIT OlaTWOmaHREElaFOURmaIVElaSIXmaEVENlaEIGHTlaNINEfaNUMBER TENnaWENTYncHIRmdFOncIF",
    "mcSIXncEVENmcEIGHmcNINEmaONE HUNDREDmiTWOniHREEmiFOURniIVEmiSIXniEVENmiEIGHTmiNINEfaFRACTION ONE HALFsaQUART",
    "ERsaTHIRDoaTWO THIRDSaaYEZIDI LETTER ELIFoaBEobPpbHocTobSoaCIMpcHqcHoaHHAobXoaDALocZoaRApbHobZobJoaSINpcHpaA",
    "DocDoaTAoaZEoaEYNodXHoaFAobVqa ALTERNATE FORMoaQAFocKpcHocGoaLAMobMIoaNUNoaUMoaWAWobOobEoaHAYoaYOTobEhaCOMBI",
    "NING HAMZA MARKrgMADDhfHYPHENATIONhaLETTER LAM WITH DOT ABOVEogYOT WITH CIRCUMFLEXaaOLD SOGDIAN LETTER ALEPH",
    "tfFINAL tbBETteFINAL taGIMELtaHEtcFINAL taWAWtaZAYINtaHETHtbYODtbKAPtbLAMEDtaMEMtaNUNtdFINAL %a WITH VERTICA",
    "L TAILtaSAMEKHtaAYINudLTERNATE AtaPEtbSADHtfFINAL (a WITH VERTICAL TAILtaRESH-AYIN-DALETHtaSHINtaTAWtdFINAL ",
    "%a WITH VERTICAL TAILmaNUMBER ONEtaTWOuaHREEtaFOURuaIVEtaTENuaWENTYucHIRtaONE HUNDREDmaFRACTION ONE HALFmaLI",
    "GATURE AYIN-DALETHabSOGDIAN LETTER ALEPpbBETpaGIMELpaHEpaWAWpaZAYINpaHETHpbYODpbKAPpbLAMEDpaMEMpaNUNpaSAMEKH",
    "paAYINpaPEpbSADHpaRESH-AYINpcSHpaTAWpaFETHpbLESiaINDEPENDENT SHINiaCOMBINING DOT BELOWsgTWO DOTSsaDOT ABOVEs",
    "gTWO DOTSsgCURVEyaBELOWsaHOOK ABOVExaBELOWskLONG sgRESHsgSTROKEiaNUMBER ONEpaTENqaWENTYpaONE HUNDREDiaPUNCTU",
    "ATION TWO VERTICAL BARS;a WITH DOTSuaCIRCLE WITH DOTuaTWO CIRCLES WITH DOTSuaHALF CIRCLE WITH DOTaaOLD UYGHU",
    "R LETTER ALEPHsbBETsdGIMEL-HsaWAWsaZAYINsaFINAL HETHsbYODsbKAPsbLAMEDsaMEMsaNUNsaSAMEKHsaPEsbSADHsaRESHsaSHI",
    "NsaTAWsaLESHlaCOMBINING DOT ABOVEzaBELOWvaTWO DOTS ABOVE(aBELOWlaPUNCTUATION BARxaTWO BARS$bDOTxfFOURaaCHORA",
    "SMIAN LETTER ALEPHsfSMALL sbBETsaGIMELsaDALETHsaHEsaWAWsdCURLED saZAYINsaHETHsbYODsbKAPsbLAMEDsaMEMsaNUNsaSA",
    "MEKHsaAYINsaPEsaRESHsaSHINsaTAWlaNUMBER ONEsaTWOtaHREEsaFOURsaTENtaWENTYsaONE HUNDREDaaELYMAIC LETTER ALEPHp",
    "bBETpaGIMELpaDALETHpaHEpaWAWpaZAYINpaHETHpdTpbYODpbKAPpbLAMEDpaMEMpaNUNpaSAMEKHpaAYINpaPEpbSADHpaQOPHpbRESpa",
    "SHINpaTAWjaIGATURE ZAYIN-YODHaaBRAHMI SIGN CANDRABINDUmaANUSVARAmbVISARGmbJIHVAMULIYmdUPADHMANhbLETTER paAoa",
    "IpaIoaUpaUoaVOCALIC RxaRwaLxaLoaEoaAIoaOoaAUoaKApbHobGpbHobNGobCpbHobJpbHobNYobTTqbHobDDqbHobNNobTpbHobDpbHo",
    "bNobPpbHobBpbHobMobYobRobLobVobSHpbSpbobHobLLodOLD TAMIL LybRRybNNNhbVOWEL SIGN AscBHATTIPROLU saItaIsaUtaUs",
    "aVOCALIC R$aR!aL$aLsaEsaAIsaOsaAUiaIRAMAhbDANDieOUBLE DhaPUNCTUATION DOTvbUBLE DOtaLINEtaCRESCENT BARtaLOTUS",
    "haNUMBER ONEoaTWOpaHREEoaFOURpaIVEoaSIXpaEVENoaEIGHToaNINEoaTENpaWENTYpcHIRodFOpcIFocSIXpcEVENocEIGHocNINEoa",
    "ONE HUNDREDsbTHOUSANhaDIGIT ZEROnaONEnaTWOoaHREEnaFOURoaIVEnaSIXoaEVENnaEIGHTnaNINEhaSIGN OLD TAMIL VIRAMAha",
    "LETTER OLD TAMIL SHORT E(aOhaVOWEL SIGN OLD TAMIL SHORT E,aOhaLETTER OLD TAMIL LLAhaNUMBER JOINERaaKAITHI SI",
    "GN CANDRABINDUmaANUSVARAmbVISARGhbLETTER paAoaIpaIoaUpaUoaEoaAIoaOoaAUoaKApbHobGpbHobNGobCpbHobJpbHobNYobTTq",
    "bHobDDqbDHqcocRobNNobTpbHobDpbHobNobPpbHobBpbHobMobYobRobLobVobSHpbSpbobHhbVOWEL SIGN AsaItaIsaUtaUsaEsaAIsa",
    "OsaAUhaSIGN VIRAMAmbNUKThaABBREVIATION SIGNhkENUMERhfNUMBERhaSECTION MARKhmDOUBLE iaANDAieOUBLE DhaVOWEL SIG",
    "N VOCALIC RhaNUMBER SIGN ABOVEaaSORA SOMPENG LETTER SAHucTucBucCucDucGucMucNGucLucNucVucPucYucRucHucKucJucNY",
    "ucubEEubIubUubOubEuaMAEnaDIGIT ZEROtaONEtaTWOuaHREEtaFOURuaIVEtaSIXuaEVENtaEIGHTtaNINEaaCHAKMA SIGN CANDRABI",
    "NDUmaANUSVARAmbVISARGhbLETTER AoaIoaUoaEoaKAApcHocGpcHocNGocCpcHocJpcHocNYocTTqcHocDDqcHocNNocTpcHocDpcHocNo",
    "cPpcHocBpcHocMocYYpcocRocLocWocSocHhbVOWEL SIGN saItaIsaUtaUsaEsaAIsaOsaAUsaOIhaO MARKhfAUhaVIRAMAhbMAAYYAha",
    "DIGIT ZEROnaONEnaTWOoaHREEnaFOURoaIVEnaSIXoaEVENnaEIGHTnaNINEhaSECTION MARKhaDANDAieOUBLE DhaQUESTION MARKha",
    "LETTER LHAAhcVOWEL SIGN saEIhaLETTER VAAabMAHAJANI LETTER qaIqaUqaEqaOqaKArbHqbGrbHqbCrbHqbJrbHqbNYqbTTsbHqb",
    "DDsbHqbNNqbTrbHqbDrbHqbNqbPrbHqbBrbHqbMqbRqbLqbVqbSqbHqbRRjbSIGN NUKTjaABBREVIATION SIGNjaSECTION MARKjaLIGA",
    "TURE SHRIaaSHARADA SIGN CANDRABINDUnaANUSVARAnbVISARGibLETTER qaApaIqaIpaUqaUpaVOCALIC RyaRxaLyaLpaEpaAIpaOp",
    "aAUpaKAqbHpbGqbHpbNGpbCqbHpbJqbHpbNYpbTTrbHpbDDrbHpbNNpbTqbHpbDqbHpbNpbPqbHpbBqbHpbMpbYpbRpbLqbLpbVpbSHqbSqb",
    "pbHibVOWEL SIGN AtaIuaItaUuaUtaVOCALIC R%aR$aL%aLtaEtaAItaOtaAUiaSIGN VIRAMAnbAVAGRAHnbJIHVAMULIYndUPADHMANi",
    "aOMiaDANDAjeOUBLE DiaABBREVIATION SIGNiaSEPARATORjaANDHI MARKjaIGN NUKTAiaVOWEL MODIFIER MARKifEXTRA SHORT V",
    "OWELifSUTRAiaVOWEL SIGN PRISHTHAMATRA EiaSIGN INVERTED CANDRABINDUiaDIGIT ZEROoaONEoaTWOpaHREEoaFOURpaIVEoaS",
    "IXpaEVENoaEIGHToaNINEiaEKAMicSIGN SIDDHiaHEADSTROKEiaCONTINUATION SIGNiaSECTION MARK-1va2baINHALA ARCHAIC DI",
    "GIT ONEwaTWOxaHREEwaFOURxaIVEwaSIXxaEVENwaEIGHTwaNINEqaNUMBER TENyaWENTYycHIRxdFOycIFxcSIXycEVENxcEIGHxcNINE",
    "xaONE HUNDRED$bTHOUSANaaKHOJKI LETTER ApaAoaIoaUoaEoaAIoaOoaAUoaKApbHobGpbGpbHobNGobCpbHobJpbJobNYobTTqbHobD",
    "DqbHobNNobTpbHobDpbDDpbHobNobPpbHobBpbBpbHobMobYobRobLobVobSobHobLLhbVOWEL SIGN AsaItaIsaUsaEsaAIsaOsaAUhaSI",
    "GN ANUSVARAmbVIRAMmbNUKTmbSHADDhcDANieOUBLE DhaWORD SEPARATORhaSECTION MARKhmDOUBLE haABBREVIATION SIGNhbSIG",
    "N SUKUaaMULTANI LETTER ApaIpaUpaEpaKAqbHpbGqbHpbCqbHpbJqbJpbNYpbTTrbHpbDDrbDrbHpbNNpbTqbHpbDqbHpbNpbPqbHpbBq",
    "bHpbMpbYpbRpbLpbVpbSpbHpbRRqbHiaSECTION MARKaaKHUDAWADI LETTER AsaAraIsaIraUsaUraEraAIraOraAUraKAsbHrbGsbGsb",
    "HrbNGrbCsbHrbJsbJsbHrbNYrbTTtbHrbDDtbDrbRRrbDDHrbNNrbTsbHrbDsbHrbNrbPsbHrbBsbBsbHrbMrbYrbRrbLrbVrbSHsbrbHkbS",
    "IGN ANUSVARkbVOWEL SIGN AvaIwaIvaUwaUvaEvaAIvaOvaAUkaSIGN NUKTApbVIRAMkaDIGIT ZEROqaONEqaTWOraHREEqaFOURraIV",
    "EqaSIXraEVENqaEIGHTqaNINEabGRANTHA SIGN COMBINING ANUSVARA ABOVoaANDRABINDUnaANUSVARAnbVISARGibLETTER qaApaI",
    "qaIpaUqaUpaVOCALIC RxaLpaEEpaAIpaOOpaAUpaKAqbHpbGqbHpbNGpbCqbHpbJqbHpbNYpbTTrbHpbDDrbHpbNNpbTqbHpbDqbHpbNpbP",
    "qbHpbBqbHpbMpbYpbRpbLqbLpbVpbSHqbSqbpbHaaCOMBINING BINDU BELOWaaGRANTHA SIGN NUKTAnbAVAGRAHibVOWEL SIGN AtaI",
    "uaItaUuaUtaVOCALIC R%aRtaEEtaAItaOOtaAUiaSIGN VIRAMAiaOMiaAU LENGTH MARKiaSIGN PLUTAibLETTER VEDIC ANUSVARvi",
    "DOUBLE qaOCALIC RRxaLLibVOWEL SIGN VOCALIC %aLaaCOMBINING GRANTHA DIGIT ZEROyaONEyaTWOzaHREEyaFOURzaIVEyaSIX",
    "saLETTER AzbKzbNzaVIzaPAabNEWA LETTER naAmaInaImaUnaUmaVOCALIC RvaRuaLvaLmaEmaAImaOmaAUmaKAnbHmbGnbHmbNGobHm",
    "bCnbHmbJnbHmbNYobHmbTTobHmbDDobHmbNNmbTnbHmbDnbHmbNnbHmbPnbHmbBnbHmbMnbHmbYmbRnbHmbLnbHmbWmbSHnbSnbmbHfbVOWE",
    "L SIGN AqaIraIqaUraUqaVOCALIC RzaRyaLzaLqaEqaAIqaOqaAUfaSIGN VIRAMAkaCANDRABINDUkaANUSVARAkbVISARGkbNUKTkbAV",
    "AGRAHkbFINAL ANUSVARfaOMfaSIDDHIfaDANDAgeOUBLE DfbCOMMfaGAP FILLERfaABBREVIATION SIGNfaDIGIT ZEROlaONElaTWOm",
    "aHREElaFOURmaIVElaSIXmaEVENlaEIGHTlaNINEgaOUBLE COMMAfaPLACEHOLDER MARKfaINSERTION SIGNfaSANDHI MARKfaLETTER",
    " VEDIC ANUSVARAfbSIGN JIHVAMULIYkdUPADHMANaaTIRHUTA ANJIiaLETTER AqaApaIqaIpaUqaUpaVOCALIC RyaRxaLyaLpaEpaAI",
    "paOpaAUpaKAqbHpbGqbHpbNGpbCqbHpbJqbHpbNYpbTTrbHpbDDrbHpbNNpbTqbHpbDqbHpbNpbPqbHpbBqbHpbMpbYpbRpbLpbVpbSHqbSq",
    "bpbHibVOWEL SIGN AtaIuaItaUuaUtaVOCALIC R%aR$aL%aLtaEtbSHORT taAItaOtbSHORT taAUibSIGN CANDRABINDnaANUSVARAn",
    "bVISARGpbRAMnbNUKTnbAVAGRAHiaGVANGiaABBREVIATION SIGNiaOMiaDIGIT ZEROoaONEoaTWOpaHREEoaFOURpaIVEoaSIXpaEVENo",
    "aEIGHToaNINEaaSIDDHAM LETTER AqaApaIqaIpaUqaUpaVOCALIC RyaRxaLyaLpaEpaAIpaOpaAUpaKAqbHpbGqbHpbNGpbCqbHpbJqbH",
    "pbNYpbTTrbHpbDDrbHpbNNpbTqbHpbDqbHpbNpbPqbHpbBqbHpbMpbYpbRpbLpbVpbSHqbSqbpbHibVOWEL SIGN AtaIuaItaUuaUtaVOCA",
    "LIC R%aRtaEtaAItaOtaAUibSIGN CANDRABINDnaANUSVARAnbVISARGpbRAMnbNUKTnaSIDDHAMiaDANDAjeOUBLE DiaSEPARATOR DOT",
    "saBARiaREPETITION MARK-1ya2ya3iaEND OF TEXT MARKiaSECTION MARK WITH TRIDENT AND U-SHAPED ORNAMENTS<eDOTTED C",
    "RESC!vRAYS^jDOUBLE ^mTRIPvaDOUBLE RING*a WITH RAYSvbWITH DOUBLE CRESCENT!mTRIP!nQUADRU!oSEPT!bCIRCLES AND RA",
    "Y<bTWO ENCLOSURE<lFOURiaLETTER THREE-CIRCLE ALTERNATE IqtWO;aIpaALTERNATE UimVOWEL SIGN(aUaaMODI LETTER AnaA",
    "maInaImaUnaUmaVOCALIC RvaRuaLvaLmaEmaAImaOmaAUmaKAnbHmbGnbHmbNGmbCnbHmbJnbHmbNYmbTTobHmbDDobHmbNNmbTnbHmbDnb",
    "HmbNmbPnbHmbBnbHmbMmbYmbRmbLmbVmbSHnbSnbmbHmbLLfbVOWEL SIGN AqaIraIqaUraUqaVOCALIC RzaRyaLzaLqaEqaAIqaOqaAUf",
    "aSIGN ANUSVARAkbVISARGmbRAMkbARDHACANDRfbDANDgeOUBLE DfaABBREVIATION SIGNfaSIGN HUVAfaDIGIT ZEROlaONElaTWOma",
    "HREElaFOURmaIVElaSIXmaEVENlaEIGHTlaNINEcaNGOLIAN BIRGA WITH ORNAMENTkaROTATED BIRGAkaDOUBLE BIRGA WITH ORNAM",
    "ENTkwTRIPkjBIRGA WITH DOUBLEkjROTATED BIRGA WITH&iDOUBLE kaINVERTED BIRGAya WITH DOUBLE ORNAMENTkaSWIRL BIRG",
    "Ava WITH ORNAMENT$iDOUBLE k*TURNED aaTAKRI LETTER AoaAnaIoaInaUoaUnaEnaAInaOnaAUnaKAobHnbGobHnbNGnbCobHnbJob",
    "HnbNYnbTTpbHnbDDpbHnbNNnbTobHnbDobHnbNnbPobHnbBobHnbMnbYnbRnbLnbVnbSHobnbHnbRRgcSIGN ANUSVAlbVISARGgbVOWEL S",
    "IGN AraIsaIraUsaUraEraAIraOraAUgaSIGN VIRAMAlbNUKTgbLETTER ARCHAIC KHgaABBREVIATION SIGNgaDIGIT ZEROmaONEmaT",
    "WOnaHREEmaFOURnaIVEmaSIXnaEVENmaEIGHTmaNINEaaAHOM LETTER KAnbHmbNGnbmbTmcALTERNATE mbPnbHmbBmbMmbJmbCHmcTmbR",
    "mbLmbSmbNYmbHmbmbDnbHmbGmcALTERNATE mbGHmcBmcJmbALTERNATE BfbCONSONANT SIGN MEDIAL L$bR$cLIGATING fbVOWEL SI",
    "GN raAqaIraIqaUraUqaEqaAWqaOqaAIraMfaSIGN KILLERfaDIGIT ZEROlaONElaTWOmaHREElaFOURmaIVElaSIXmaEVENlaEIGHTlaN",
    "INEfaNUMBER TENnaWENTYfaSIGN SMALL SECTIONlgkaRULAIgbYMBOL VfaLETTER CAmbTTobHmbDDobHmbNNmbLLabDOGRA LETTER ",
    "oaAnaIoaInaUoaUnaEnaAInaOnaAUnaKAobHnbGobHnbNGnbCobHnbJobHnbNYnbTTpbHnbDDpbHnbNNnbTobHnbDobHnbNnbPobHnbBobHn",
    "bMnbYnbRnbLnbVnbSHobSobnbHnbRRgbVOWEL SIGN AraIsaIraUsaUraVOCALIC R!aRraEraAIraOraAUgaSIGN ANUSVARAlbVISARGn",
    "bRAMlbNUKTgaABBREVIATION SIGNaaWARANG CITI CAPITAL LETTER NGAA$b$aWI$aYU%aA%aO$aII$aUU$aE$aO$aANG$aGA$aKO$aE",
    "NY$aYUJ$aUC$aENN$aODD$aTTE$aNUNG$aDA$aAT%aM$aBU$bP$aHIYO%bOL&aRR%bA$aSSUU%aII$aVIYOmaSMALL LETTER NGAAzbzaWI",
    "zaYU!aA!aOzaIIzaUUzaEzaOzaANGzaGAzaKOzaENYzaYUJzaUCzaENNzaODDzaTTEzaNUNGzaDAzaAT!aMzaBUzbPzaHIYO!bOL$aRR!bAz",
    "aSSUU!aIIzaVIYOmbDIGIT ZERsaONEsaTWOtaHREEsaFOURtaIVEsaSIXtaEVENsaEIGHTsaNINEmaNUMBER TENuaWENTYucHIRtdFOucI",
    "FtcSIXucEVENtcEIGHtcNINEmaOMaaDIVES AKURU LETTER AuaAtaIuaItaUuaUtaEtaOtaKAubHtbGubHtbNGtbCubHtbJtbNYtbTTtbD",
    "DvbHtbNNtbTubHtbDubHtbNtbPubHtbBubHtbMtbYubYtbRtbLtbVtbSHubSubtbHtbLLtbZmbVOWEL SIGN AxaIyaIxaUyaUxaExaAIxaO",
    "maSIGN ANUSVARAraCANDRABINDUraHALANTAmbVIRAMmaPREFIXED NASAL SIGNmaMEDIAL YAmbINITIAL RmgMEDmbSIGN NUKTmbDOU",
    "BLE DANDmaGAP FILLERmaEND OF TEXT MARKmaDIGIT ZEROsaONEsaTWOtaHREEsaFOURtaIVEsaSIXtaEVENsaEIGHTsaNINEaaNANDI",
    "NAGARI LETTER AuaAtaIuaItaUuaUtaVOCALIC R%aRtaEtaAItaOtaAUtaKAubHtbGubHtbNGtbCubHtbJubHtbNYtbTTvbHtbDDvbHtbN",
    "NtbTubHtbDubHtbNtbPubHtbBubHtbMtbYtbRtbLtbVtbSHubSubtbHtbLLtbRRmbVOWEL SIGN AxaIyaIxaUyaUxaVOCALIC R*aRxaExa",
    "AIxaOxaAUmaSIGN ANUSVARArbVISARGtbRAMrbAVAGRAHraSIDDHAMmaHEADSTROKEmbVOWEL SIGN PRISHTHAMATRA aaZANABAZAR SQ",
    "UARE LETTER AraVOWEL SIGN I%aUE&a%aE%bO&a%aAI&aU%aREVERSED IxaLENGTH MARKraLETTER KAzbHybGzbHybNGybCzbHybJyb",
    "NYybTT!bHybDD!bHybNNybTzbHybDzbHybNybPzbHybBzbHybMybTS!bHybDZ!bHydzbyb-ybYybRybLybVybSHzbSzbybHybKSSraFINAL ",
    "CONSONANT MARKraSIGN VIRAMAwaCANDRABINDU+a WITH ORNAMENT%owaANUSVARAwbVISARGrbCLUSTER-INITIAL LETTER RzbFINA",
    "L LETTER Y<bR<bL<bVraINITIAL HEAD MARKrkCLOSINGraMARK TSHEGwaSHADweDOUBLE waLONG TSHEGraINITIAL DOUBLE-LINED",
    " HEAD MARKrxCLOSINGraSUBJOINERaaSOYOMBO LETTER AiaVOWEL SIGN ItaUEuataEtaOuaEtaAIuaUtaVOCALIC R$aLoaLENGTH M",
    "ARKiaLETTER KAqbHpbGqbHpbNGpbCqbHpbJqbHpbNYpbTTrbHpbDDrbHpbNNpbTqbHpbDqbHpbNpbPqbHpbBqbHpbMpbTSrbHpbDZpbZHqb",
    "pb-pbYpbRpbLpbVpbSHqbSqbpbHpbKSSibSIGN JIHVAMULIYndUPADHMANibCLUSTER-INITIAL LETTER R)bL)bSH*biaFINAL CONSON",
    "ANT SIGN G&aK&aNG&aD&aN&aB&aM&aR&aL&aSH(a&a-AibSIGN ANUSVARnbVISARGiaGEMINATION MARKiaSUBJOINERiaMARK TSHEGn",
    "aSHADneDOUBLE naPLUTAiaHEAD MARK WITH MOON AND SUN AND TRIPLE FLAME>f.aiaTERMINAL MARK-1wa2aaCANADIAN SYLLAB",
    "ICS NATTILIK HI(aI&aO(aO&aA(aA%aSHRI*aI)aO*aO)aA*aAtaSPEvaIvaOvaAacPAU CIN HAU LETTER tbKtbLtbMtbDtbZtbVtbNG",
    "tbHtbGtbKHtbStbBtbCtbTubHtbNtbPHtbRtbFtbCHtbtaEtaItaOtaUuaAtbItaFINAL PzaKzaTzaMzaNzaLzaWzaNGzaYmaRISING TON",
    "E LONGxamaSANDHI GLOTTAL STOPmaRISING TONE LONG FINALyfmgSANDHI GLOTTAL STOPtaTONE LONGxaxa LONG FINALyfmaMI",
    "D-LEVEL TONEmaGLOTTAL STOP VARIANTmaMID-LEVEL TONE LONG FINAL$fmaLOW-FALLING TONE LONG%amaGLOTTAL STOPmaLOW-",
    "FALLING TONE LONG FINAL&fmgGLOTTAL STOPaaBHAIKSUKI LETTER AsaAraIsaIraUsaUraVOCALIC R!aRzaLraEraAIraOraAUraK",
    "AsbHrbGsbHrbNGrbCsbHrbJsbHrbNYrbTTtbHrbDDtbHrbNNrbTsbHrbDsbHrbNrbPsbHrbBsbHrbMrbYrbRrbLrbVrbSHsbSsbrbHkbVOWE",
    "L SIGN AvaIwaIvaUwaUvaVOCALIC R(aR&aLvaEvaAIvaOvaAUkbSIGN CANDRABINDpaANUSVARApbVISARGrbRAMpbAVAGRAHkbDANDle",
    "OUBLE DkaWORD SEPARATORkaGAP FILLER-1va2kaDIGIT ZEROqaONEqaTWOraHREEqaFOURraIVEqaSIXraEVENqaEIGHTqaNINEkcNUM",
    "BER OraTWOsaHREEraFOURsaIVEraSIXsaEVENraEIGHTraNINEraTENsaWENTYscHIRrdFOscIFrcSIXscEVENrcEIGHrcNINEkaHUNDRED",
    "S UNIT MARKafMARCHEN HEADiaMARK SHADiaLETTER KAqbHpbGpcNpbCqbHpbJpbNYpbTqbHpbDpbNpbPqbHpbBpbMpbTSrbHpbDZpbWp",
    "bZHqbpb-pbYpbRpbLpbSHqbpbHpbibSUBJOINED LETTER K!bHzbGzcNzbC!bHzbJzbNYzbT!bHzbDzbNzbP!bHzbBzbMzbTS$bHzbDZzbW",
    "zbZH!bzbYzbRzbLzbSH!bzbHzbibVOWEL SIGN AtaItaUtaEtaOiaSIGN ANUSVARAnaCANDRABINDUcaSARAM GONDI LETTER AwaAvaI",
    "waIvaUwaUvaEvaAIvaOvaAUvaKAwbHvbGwbHvbNGvbCwbHvbJwbHvbNYvbTTxbHvbDDxbHvbNNvbTwbHvbDwbHvbNvbPwbHvbBwbHvbMvbYv",
    "bRvbLvbVvbSHwbSwbvbHvbLLvbKSSvbJNYvbTRobVOWEL SIGN AzaI!aIzaU!aUzaVOCALIC RzaEzaAIzaOzaAUoaSIGN ANUSVARAtbVI",
    "SARGtbNUKTtbCANDRtbHALANTobVIRAMobREPHpbA-KARoaDIGIT ZEROuaONEuaTWOvaHREEuaFOURvaIVEuaSIXvaEVENuaEIGHTuaNINE",
    "aaGUNJALA GONDI LETTER AwaAvaIwaIvaUwaUvaEEvaAIvaOOvaAUvaYAvbVvbBwbHvbMvbKwbHvbTwbHvbLvbGwbHvbDwbHvbNvbCwbHv",
    "bTTxbHvbLLvbJwbHvbDDxbHvbNGvbPwbHvcvbRvbSobVOWEL SIGN AzaI!aIzaU!aUzaEEzaAIzaOOzaAUoaSIGN ANUSVARAtbVISARGob",
    "VIRAMoaOMoaDIGIT ZEROuaONEuaTWOvaHREEuaFOURvaIVEuaSIXvaEVENuaEIGHTuaNINEaaMAKASAR LETTER KApbGpcNpbPpbBpbMpb",
    "TpbDpbNpbCpbJpbNYpcpbRpbLpbVpbSpbibANGKiaVOWEL SIGN ItaUtaEtaOiaPASSIMBANGiaEND OF SECTIONaaLISU LETTER YHAa",
    "aTAMIL FRACTION ONE THREE-HUNDRED-AND-TWENTIETHtfONE-HUNDRED-AND-SIXtfEIGHtcSIXTY-FOURtcFORTIEtaTHIRTY-SECON",
    "DpaTHREE EIGHTIETHSvdSIXTY-FOURpaONE TWENTIETHtaSIXTEENTH-1&a2taTENTHtcEIGHpaTHREE TWENTIETHSvdSIXTEENpaONE ",
    "FIFTHtaQUARTERtaHALF-1ya2paTHREE QUARTERSpaDOWNSCALING FACTOR KIIZHgaSIGN NELlaCEVITUlbAAZHAAKKleUZHlhMUUVla",
    "KURUNIlaPATHAKKUlaMUKKURUNIlaKAACUlaPANAMmaONlbVARAAKAlaPAARAMlaKUZHIlbVELgaWET CULTIVATION SIGNgrDRYgfLANDg",
    "fSALT PANgfTRADITIONAL CREDITsfNUMBERgfCURRENTgfAND ODDgfSPENTgfTOTALgfIN POSSESSIONgfSTARTING FROMhaIGN MUT",
    "HALIYAlbVAKAIYARAgaPUNCTUATION END OF TEXTaaCUNEIFORM SIGN Aqa TIMES AxaBADxaGAN2 TENUxaHAxaIGIxaLAGAR GUNUx",
    "aMUSHxaSAGqa2qaBra TIMES ASH2yaDUN3 GUNUyaGAL!aN2 TENUyaHAyaIGI GUNUzaMINyaLAGAByaSHESHyaU PLUS U PLUS UsbGU",
    "Nra2sa TIMES BALAGzaGAN2 TENUzaME PLUS ENzaSHA3zaTAK4qaDqaKra TIMES ERIN2yaSHITA PLUS GISHqaLra TIMES ALyaDI",
    "M2yaGISHyaHAyaKAD3zaIyaSHEyaUSHraANraEPHqaMARta TIMES SHEqaNra OVER ANsaTHREE TIMESsaPLUS NAGA OPPOSING AN P",
    "LUS NAGA%aSQUAREDraSHEqaPINqaRADta TIMES KURraKABqaSAL2raHsa ZIDA TENUtgKABtaOVER ASH TUG2 OVER TUG2 TUG2 OV",
    "ER TUG2 PAP%aOVER ASH:a CROSSING ASH OVER ASH OVER ASHsa2saGABpaBAraDraG3raHAR2raLsa OVER BALsaAGraRsaA2qaIr",
    "a TIMES AyaGARyaIGI GUNUqbra OVER BU AB!aUNsaCROSSING BUraLUGua OVER BULUGraRsa2paDAraGsa KISIM5 TIMES A PLU",
    "S MASH+aMAR*aBALAG+aI*aGA,a PLUS MASH+aI,aR2+aUD*aHA*aIR,a PLUS LU*aKAK*aLA+aU,a PLUS MASH2,aM*aNE*aPAP PLUS",
    " PAP*aSI*aTAK4*aU2 PLUS GIR2+aSHraMraRsaA3ta4qaIraBraMsa TIMES SHEsa2raNsa KASKAL U GUNU DISHrcqaUra OVER DU",
    "sbGUNsaSHESHIGraBsa TIMES ESH2sbraGsaUDraHraNsa3ta GUNUya GUNUsa4raR2paEqa TIMES PAPraOVER E NUN OVER NUNqa2",
    "ra TIMES A PLUS HA PLUS DAyaGARyaMIyaSALzaHEyaUqaDINqaGIRqaLqaNra TIMES GAN2%a TENUyaMEsaCROSSING ENshOPPOsa",
    "SQUAREDqaRENraIN2qbSHqaZENta TIMES A$a PLUS LAL:a TIMES LAL$aN!aBAD!aDUN3 GUNU.a GUNU!aHA%a GUNU!fIGI!aKASKA",
    "L*a SQUARED$aU3!aLA%aL TIMES LAL$aI$aU!aU2$aDpaGAra GUNUra2sa TIMES A PLUS DA PLUS HA*c*aIGI!aB2 TENU PLUS T",
    "AB!aN!aSH%a2 PLUS GALzaBAD$aR PLUS RA!aUR%a PLUS RAzbD!aI$aM TIMES SHE!aUBzaEL$a PLUS LA!aN$a TIMES GAN2 TEN",
    "Uzj$aR!aI$a4%a PLUS A$aR2 PLUS SUzaHA PLUS LU PLUS ESH2$aL%a PLUS LA!aI PLUS LI!aUB2zaIGI GUNU!aSH PLUS HU P",
    "LUS ASHzaKAK$aSKAL!aID%a PLUS LAL!aU3 PLUS ANzaLAzaME PLUS EN!aIzaNUN%a OVER NUNzaPAzaSAL$aR!aHE%a PLUS TUR$",
    "aID!aUMzaTAK4zaU!aD$a PLUS DUtaOVER GA2raBAta CROSSING GABAraDsa OVER GAD GAR OVER GARraLsa GAD OVER GAD GAR",
    " OVER GARsaAMrbraNsa2ta TENUuaOVER GAN2ufCROSSINGraRsa3raSHANqbESHTIwa TIMES KURqaIra TIMES EyaUsaCROSSING G",
    "Ira4sa OVER GI4teCROSSINGraDIMraR2ta GUNUsa3ta TIMES A PLUS IGI!aGAN2 TENU!aIGI!dLU PLUS !aPAraSALsaHta CROS",
    "SING GISHuaTIMES BAD!aTAK4vaENUqbra CROSSING GUra2sa TIMES KAK%a TIMES IGI GUNUzaNUNzaSAL PLUS TUG2taGUNUraD",
    "sa TIMES A PLUS KURzdtaOVER GUD LUGALrbraMsa TIMES SHEraRsa7saUNtaSHpaHAra TENUscGUraLqaIra TIMES ASH$a2yaBA",
    "DyaDISHyaGADyaKINybNUyaSHEyaUqbraB2ta TIMES AN!aHAL!cKASK!aLISH!aUDraL2paIqa AqaBqaDIMta OVER IDIM BUR(aSQUA",
    "REDqaGraIsa DIBtaRItaOVER IGI SHIR OVER SHIR UD OVER UDtaGUNUqaLra TIMES GAN2 TENUra2qaMra TIMES TAK4saCROSS",
    "ING IMshOPPOsaSQUAREDraINqbqaRqaSHpaKAra TIMES AzaD!a PLUS KU3zaSH2yaBAD!aLAG!aRzaIyaERIN2zbSHyaGA!aL!aN2 TE",
    "NU!aR$a PLUS SHA3 PLUS AzaI!aR2!aSH PLUS SAR&aCROSSING GISHzaU!aR7yaIGIzaMyaKAKzaI!aDyaLIzaUyaME!a PLUS DU*a",
    "GI*aTEzaI!a PLUS NUNUZyaNEzaUNyaPIyaRUyaSA!aRzaHA!aE!aID!aUzaIGzaUHURybTAyaUza2zaDzaMUM TIMES PAzaSHyaZIra2s",
    "a CROSSING KA2raBraD2sa3sa4sa5ta OVER KAD5raKsa TIMES IGI GUNUraLsa TIMES BADtaCROSSING KALraM2sa4raSKALva L",
    "AGAB TIMES U OVER LAGAB TIMES Uw*OVER KASKAL qaESH2qaIra TIMES BADyaUzaDrbraNraSALsaHsaIM5va OVER KISIM5qaUr",
    "a OVER HI TIMES ASH2 KU OVER HI TIMES ASH2ra3ra4sa VARIANT FORMra7raLsa GUNUraNraRsa OPPOSING KURraSHU2qaWU3",
    "18paLAraGABua TIMES A%a PLUS DA PLUS HA,aGAR,aLAL%b%aN%aSH ZIDA TENU$aBAD%aI$aDAR$aEN$aGA&aR%aUD(a PLUS GUD$",
    "aHA&aL%aI TIMES NUN$aIGI GUNU%aM&a PLUS HA.aLU$aKI&aN%aU3&aL(a PLUS HI PLUS A$aLAGAB%aISH%aU&aL$aME&a PLUS E",
    "N%aUSH$aNE$aSHE PLUS SUM&aITA PLUS GISH PLUS ERIN2_aTENU&aU2)a PLUS SHU2%aUM$aTAG&aK4%aE PLUS A PLUS SU PLUS",
    " NA$aU%a PLUS A,aU PLUS U%a2 PLUS ASH%aD%aSHvaSQUAREDtaRua TIMES SHE(a PLUS SUMvaGUNUza OVER LAGAR GUNU SHEr",
    "aHSHUraLsa TIMES LALraMsa TIMES KUR%a PLUS RUqaIraLraMMU2raSHqaUra TIMES BADra2sa TIMES ALzaBADzaESH2&a TENU",
    "zgGANzaHI TIMES BADzaIMzaKAD2%a3&a PLUS ASH!aIzaLA PLUS ASH$aGABzaME PLUS ENzaNE!aUzaSI PLUS ASH$aK2 PLUS BU",
    "zaTUG2uaENUtaCROSSING LU2tiOPPOtaSQUAREDuaHESHIGra3raGALua OVER LUGALwgPPOSINGvaSHESHIGraHraLraMsa OVER LUM$",
    "a GAR OVER GARpaMAra TIMES TAK4saGUNUra2raHraRraSHta2qaEraSqaIraNqaUra OVER MUraGsa GUNUraNSUBraRGU2raSHta T",
    "IMES A!aKUR!aZAuaOVER MUSH&a TIMES A PLUS NAuaCROSSING MUSHta3ua TIMES A%a PLUS DI$cvaGUNUpaNAra2raGAta INVE",
    "RTEDuaTIMES SHU TENUuaOPPOSING NAGAtaRraM NUTILLUsasa2qaEra TIMES AyaUDsaSHESHIGqaIra TIMES Era2raMsa TIMES ",
    "GAN2 TENU$hR PLUS GAraNDA2va TIMES AN&aSH)a PLUS ASH%aGUD%aME PLUS GAN2 TENU%aNE&aUN%aSHE)a PLUS A AN<aSH>a ",
    "PLUS ASH%jU2&craSAGqaUra11raNsa LAGAR TIMES GAR)aMASH)aSAL,a OVER NUN LAGAR TIMES SAL)aUSHtaTENUtaOVER NUNte",
    "CROSSING)a LAGAR OVER LAGARsaUZua AB2 TIMES ASHGAB)aBI)aDUG)aGUD)aIGI GUNU)aKAD3)aLA)aNE)aSILA3)aU2vaKISIM5 ",
    "TIMES BI:a UpaPAraDraNraPqaESH2qaIra TIMES AzaByaBIzaUyaEyaIzaByaUza2saCROSSING PIraRIGua TIMES KAL$aUD$aZAv",
    "aOPPOSING PIRIGpaRAraBqaIqaUpaSAraG NUTILLUsasa TIMES AzaDU$aBzaHAzaKAK!aURzaLUMzaMIzaNUNzaSAL!aHIDzaTABzaU2",
    "!aB!aM!aR!aSHtaOVER SAGtaGUNUraLsa LAGAB TIMES ASH2rbNGAraRqaHAsa3ta TIMES A!aBAD!aGISH!aNE!aSHU2!aTUR!aU$a ",
    "PLUS Asa6sbBsaR2raEsa HUtaOVER SHE GAD OVER GAD GAR OVER GAR%nTAB OVER TABsaG9saNsaSHua2uaLAMraIDta TIMES A!",
    "aIMsbta TIMES A!aBAL$aULUG!aDIN!aGAR!aIGI&a GUNU!aKUSHU2!aLUL!aMUG!aSALsaNIGsaRta TENUuaOVER SHIR BUR OVER B",
    "URsaTAraUsa OVER INVERTED SHUsa2saBURqaIra GUNUraGsa4ta OVER SIG4 SHU2rbKraLA3qaUra OVER SUraDsa2raHURraMsaA",
    "SHraRsa9paTAra ASTERISKsaTIMES HIybMsaGUNUraBsa OVER TAB NI OVER NI DISH OVER DISHtaSQUAREDraGsa TIMES BIzaG",
    "UDzaSHE$aUzaTUG2zaUDraK4raRqaEra GUNUqaIra TENUraLraRsa TIMES TAK4taOVER TIR$a GAD OVER GAD GAR OVER GARqaUr",
    "aG2raKraMraRsa OVER TUR ZA OVER ZApaUqa GUDraU UraOVER U PA OVER PA GAR OVER GARybSUR OVER SUyaU REVERSED OV",
    "ER U REVERSEDqa2qaBqaDra KUSHU2saTIMES BADyaMIyaU PLUS U PLUS U=a GUNUsesaSHESHIGza TIMES BADraUGqaMra TIMES",
    " LAGAByaME PLUS DAyaSHA3yaUraBINraUMta TIMES KASKAL!aPAqaNra GUNUqaRra CROSSING URsaSHESHIGra2sa TIMES A PLU",
    "S HA*bN!aLzaHAzaNUNzaU2$a PLUS ASH+aBIra4raIsa3raUsa TIMES A!aSHGABzaBARzaDUNzaGA$aL$aN2 TENU$aR!aUzaHAzaIGI",
    "!aM!aSHzaKIzaLUMzaMINzaPAzaSHE!aIG4zaTUzaU PLUS GUD!b!aRUDAscua TIMES UqaSHsa TIMES AzaKU$aRzaTAK4saXsa2saUM",
    "XqaTUKIqaZ3sa TIMES KASKALraUpaZAra TENUsaSQUARED TIMES KURraGraMXqaE2qaIra OVER ZIra3raBsa KABA TENUraGraZ2",
    "qaUra5sa TIMES AraBURraMpaKAP ELAMITEpaAB TIMES NUNra2 TIMES AqaMAR TIMES KUGpaDAG KISIM5 TIMES U2 PLUS MASH",
    "sa3qaISH PLUS SHUqaUB TIMES SHEpaEZEN TIMES GUD!aSHEpaGA2 TIMES AN PLUS KAK PLUS A!aSH2qbE2qaIGpaHUSHpaKA TI",
    "MES ANSHEzaSH3yaGISHzaUDyaHI TIMES ASH2yaLUMyaPAyaSHULyaTUyaUR2paLAGAB TIMES GIqaU2 SHESHIG TIMES BADtaTIMES",
    " ESH2 PLUS LALzaSHUpaMESHqaUSH3 TIMES ZApaNA4qaINsa9saDA2 TIMES BAL%aGIqaU11 ROTATED NINETY DEGREESpaPESH2 A",
    "STERISKqaIR2paSAG TIMES IGI GUNUpaTI2paUM TIMES MEqa UkaNUMERIC SIGN TWO ASHyeHREExeFOURyeIVExeSIXyeEVENxeEI",
    "GHTxeNINExcTHREE DIxfFOURyfIVExfSIXyfEVENxfEIGHTxfNINExaFOUR UycIVExcSIXycEVENxcEIGHTxcNINExaONE GESH2xgTWOy",
    "gHREExgFOURygIVExgSIXygEVENxgEIGHTxgNINExaONE GESHUxgTWOygHREExgFOURygIVExaTWO SHAR2ygHREE,a VARIANT FORMxaF",
    "OUR SHAR2ygIVExgSIXygEVENxgEIGHTxgNINExaONE SHARUxgTWOygHREE,a VARIANT FORMxaFOUR SHARUygIVExaSHAR2 TIMES GA",
    "L PLUS DISH|aMINxaONE BURUxfTWOyfHREE+a VARIANT FORMxaFOUR BURUyfIVExaTHREE VARIANT FORM ESH16~a21xaFOUR VAR",
    "IANT FORM LIMMU~aU4~aU A~aU BxaSIX VARIANT FORM ASH9yaEVEN VARIANT FORM IMIN3~aN A~aN BxaEIGHT VARIANT FORM ",
    "USSU~aU3xaNINE VARIANT FORM ILIMMU~aMU3~aMU4~aMU AxaTWO ASH TENUyjHREExjFOURyjIVExjSIXxaONE BAN2xfTWOyfHREEx",
    "fFOUR*a VARIANT FORMyaIVE BAN2*a VARIANT FORMxaNIGIDAMIN&aESHxaONE ESHE3xgTWOxaONE THIRD DISHxfTWO THIRDSxgF",
    "IVE SIXTHxaONE THIRD VARIANT FORM AxpTWO THIRDSxaONE EIGHTH ASH$eQUARTERybLD ASSYRIAN ONE SIXT>aQUARTERybNE ",
    "QUARTER GU$eHALFxaELAMITE ONE THIRD)aTWO THIRDS)aFORTY*cIFxaFOUR U VARIANT FORMypIVExpSIXypEVENxpEIGHTxpNINE",
    "kaPUNCTUATION SIGN OLD ASSYRIAN WORD DIVIDER$aVERTICAL COLON$iDIAGON:fTRI:fQUADkaSIGN AB TIMES NUN TENUyaSHU",
    "2qbD TIMES ESHpaBAD TIMES DISH TENUraHAR2 TIMES AB2%aNI%aZAqaU OVER BU TIMES NA2paDA TIMES TAK4raG TIMES KUR",
    "qaIM TIMES IGIzaU U Usa2 TIMES UDqaUG TIMES ANSHE!aSH%a AT LEFTzaDIN!bUzaERIN2zaGA!aI$aR2 GUNU$aSHzaHA!aIzaI",
    "GI GUNUzaKASKAL!aUR$aSHU2)a PLUS KASKALzaLAK-020$aM%a TIMES KUR!aUH PLUS GISHzcMA!aES!aIzbNzbPzaSHE!aI GUNUp",
    "aE2 TIMES KURyaPAPqaRIN2 XqaSH2 CROSSING ESH2qaZEN SHESHIG TIMES ASH,aHI,aIGI GUNU,aLA:aL,aME:aS,aSUuipaGA2 ",
    "TIMES BAHAR2zaDIM GUNU!fUG TIMES IGI.aKASKALzaERENzaGA$aR PLUS DI,aNEzaHA PLUS AzaKUSHU2 PLUS KASKALzaLAM%a ",
    "TIMES KUR!aUHzbMUSzaNE$a PLUS E2+aGIzaSHIMzaZIZ2raBA ROTATED NINETY DEGREESqaESHTIN TIMES UqaISH TIMES GISH ",
    "CROSSING GISHqaU2 TIMES IGI GUNUraD PLUS GISH TIMES TAK4paHA TENU GUNUqaI TIMES ASH OVER HI TIMES ASHpaKA TI",
    "MES BUyaKAyaU U UzaRpaLAGAB TIMES ZU OVER ZUraK-003ua21va5ua30ub5va1ua62ua79 OVER LAK-079 GUNUua80va1 OVER L",
    "AK-081ua92ta130ua42ta210va9ua20va5va8ub3ua65va6ta343va7va8ua83va4ua90ta441va9wa TIMES GU&aIGI&aPAP PLUS LU3<",
    "dPAP PLUS &aU2 PLUS BAua50va7ua70ua83ua90va2va3va5ta550ta608ua17wa TIMES ASH&aBAD&aDUN3 GUNU GUNU&aKU3&aLA&a",
    "TAR(aE&aU2(aD(aRUDAua36ua48wa TIMES DUB&aGA&aIGI*a GUNU&aNI&aPAP PLUS PAP PLUS LU3&aSHESH PLUS KI&aUD(aRUDAt",
    "a724ua49qaU2 GUNU TIMES ASHtcTIMES DIzaHALzaPAP%a PLUS PAP PLUS LU3zaTAK4paMI PLUS ZA7qaUSH OVER MUSH TIMES ",
    "GA:aKAKpaNINDA2 TIMES DIM GUNU%aGISH&aUL%aHI%aKESH2%aLAK-050%aMASH%aPAP PLUS PAP%aU&a PLUS U&aRUDApbSAG GUNU",
    " TIMES HtaTIMES ENzaSHE AT LEFTzaTAK4qaHA6 TENUraE OVER SHEtaPLUS HUB2ybNAMyaSARraU2 PLUS DUG TIMES NIzaE2 T",
    "IMES ANqaI TIMES TAK4paTAK4 PLUS SAGqaUM TIMES GAN2 TENUzaTHREE DISHpaUR2 INVERTEDtbTIMES UraU TIMES DARA3za",
    "LAK-668!aU3paZA7qaU OVER ZU PLUS SARra5 TIMES THREE DISH TENUbaYPRO-MINOAN SIGN CM001wa2wa4wa5wa6wa7wa8wa9va",
    "10wa1wa2xaBwa3wa5wa7wa9va21wa3wa4wa5wa6wa7wa8wa9va30wa3wa4wa5wa6wa7wa8wa9va40wa1wa4wa6wa7wa9va50wa1wa2wa3wa4",
    "wa5wa6wa8wa9va60wa1wa2wa3wa4wa6wa7wa8wa9va70wa1wa2wa3wa4wa5xaBwa6wa8wa9va80wa1wa2wa3wa4wa5wa6wa7wa8wa9va90wa",
    "1wa2wa4wa5wa6wa7wa8wa9ua100wa1wa2wa3wa4wa5wa7wa8wa9va10wa2wa4ua301wa2aaEGYPTIAN HIEROGLYPH A001xa2xa3xa4xa5y",
    "aAxa6yaAyaBxa7xa8xa9wa10xa1xa2xa3xa4yaAxa5xa6xa7yaAxa8xa9wa20xa1xa2xa3xa4xa5xa6xa7xa8xa9wa30xa1xa2yaAxa3xa4x",
    "a5xa6xa7xa8xa9wa40yaAxa1xa2yaAxa3yaAxa4xa5yaAxa6xa7xa8xa9wa50xa1xa2xa3xa4xa5xa6xa7xa8xa9wa60xa1xa2xa3xa4xa5x",
    "a6xa7xa8xa9wa70uaB001xa2xa3xa4xa5yaAxa6xa7xa8xa9uaC001xa2yaAyaByaCxa3xa4xa5xa6xa7xa8xa9wa10yaAxa1xa2xa3xa4xa",
    "5xa6xa7xa8xa9wa20xa1xa2xa3xa4uaD001xa2xa3xa4xa5xa6xa7xa8yaAxa9wa10xa1xa2xa3xa4xa5xa6xa7xa8xa9wa20xa1xa2xa3xa",
    "4xa5xa6xa7yaAxa8xa9wa30xa1yaAxa2xa3xa4yaAxa5xa6xa7xa8xa9wa40xa1xa2xa3xa4xa5xa6yaAxa7xa8yaAxa9wa50yaAyaByaCya",
    "DyaEyaFyaGyaHyaIxa1xa2yaAxa3xa4yaAxa5xa6xa7xa8xa9wa60xa1xa2xa3xa4xa5xa6xa7yaAyaByaCyaDyaEyaFyaGyaHuaE001xa2x",
    "a3xa4xa5xa6xa7xa8yaAxa9yaAwa10xa1xa2xa3xa4xa5xa6yaAxa7yaAxa8xa9wa20yaAxa1xa2xa3xa4xa5xa6xa7xa8yaAxa9wa30xa1x",
    "a2xa3xa4yaAxa6xa7xa8uaF001yaAxa2xa3xa4xa5xa6xa7xa8xa9wa10xa1xa2xa3yaAxa4xa5xa6xa7xa8xa9wa20xa1yaAxa2xa3xa4xa",
    "5xa6xa7xa8xa9wa30xa1yaAxa2xa3xa4xa5xa6xa7yaAxa8yaAxa9wa40xa1xa2xa3xa4xa5yaAxa6yaAxa7yaAxa8xa9wa50xa1yaAyaBya",
    "Cxa2xa3uaG001xa2xa3xa4xa5xa6yaAxa7yaAyaBxa8xa9wa10xa1yaAxa2xa3xa4xa5xa6xa7xa8xa9wa20yaAxa1xa2xa3xa4xa5xa6yaA",
    "xa7xa8xa9wa30xa1xa2xa3xa4xa5xa6yaAxa7yaAxa8xa9wa40xa1xa2xa3yaAxa4xa5yaAxa6xa7xa8xa9wa50xa1xa2xa3xa4uaH001xa2",
    "xa3xa4xa5xa6yaAxa7xa8uaI001xa2xa3xa4xa5yaAxa6xa7xa8xa9yaAwa10yaAxa1yaAxa2xa3xa4xa5uaK001xa2xa3xa4xa5xa6xa7xa",
    "8uaL001xa2yaAxa3xa4xa5xa6yaAxa7xa8uaM001yaAyaBxa2xa3yaAxa4xa5xa6xa7xa8xa9wa10yaAxa1xa2yaAyaByaCyaDyaEyaFyaGy",
    "aHxa3xa4xa5yaAxa6yaAxa7yaAxa8xa9wa20xa1xa2yaAxa3xa4yaAxa5xa6xa7xa8yaAxa9wa30xa1yaAxa2xa3yaAyaBxa4xa5xa6xa7xa",
    "8xa9wa40yaAxa1xa2xa3xa4uaN001xa2xa3xa4xa5xa6xa7xa8xa9wa10xa1xa2xa3xa4xa5xa6xa7xa8yaAyaBxa9wa20xa1xa2xa3xa4xa",
    "5yaAxa6xa7xa8xa9wa30xa1xa2xa3yaAxa4yaAxa5yaAxa6xa7yaAxa8xa9wa40xa1xa2vaL001ya2ya3ya4ya5zaAya6ya7ya8ya9xa10ya",
    "1ya2ya3ya4ya5ya6ya7zaAya8ya9xa20vaU001ya2ya3ya4ya5ya6ya7ya8ya9xa10zaAya1zaAya2ya3ya4ya5ya6ya7ya8zaAya9xa20ya",
    "1ya2zaAuaO001yaAxa2xa3xa4xa5yaAxa6yaAyaByaCyaDyaEyaFxa7xa8xa9wa10yaAyaByaCxa1xa2xa3xa4xa5xa6xa7xa8xa9yaAwa20",
    "yaAxa1xa2xa3xa4yaAxa5yaAxa6xa7xa8xa9yaAwa30yaAxa1xa2xa3yaAxa4xa5xa6yaAyaByaCyaDxa7xa8xa9wa40xa1xa2xa3xa4xa5x",
    "a6xa7xa8xa9wa50yaAyaBxa1ubP00yaAxa2xa3yaAxa4xa5xa6xa7xa8xa9wa10xa1ubQ00xa2xa3xa4xa5xa6xa7uaR001xa2yaAxa3yaAy",
    "aBxa4xa5xa6xa7xa8xa9wa10yaAxa1xa2xa3xa4xa5xa6yaAxa7xa8xa9wa20xa1xa2xa3xa4xa5xa6xa7xa8xa9uaS001xa2yaAxa3xa4xa",
    "5xa6yaAxa7xa8xa9wa10xa1xa2xa3xa4yaAyaBxa5xa6xa7yaAxa8xa9wa20xa1xa2xa3xa4xa5xa6yaAyaBxa7xa8xa9wa30xa1xa2xa3xa",
    "4xa5yaAxa6xa7xa8xa9wa40xa1xa2xa3xa4xa5xa6uaT001xa2xa3yaAxa4xa5xa6xa7yaAxa8yaAxa9yaAwa10xa1yaAxa2xa3xa4xa5xa6",
    "yaAxa7xa8xa9wa20xa1xa2xa3xa4xa5xa6xa7xa8xa9wa30xa1xa2yaAxa3yaAxa4xa5xa6uaU001xa2xa3xa4xa5xa6yaAyaBxa7xa8xa9w",
    "a10xa1xa2xa3xa4xa5xa6xa7xa8xa9wa20xa1xa2xa3yaAxa4xa5xa6xa7xa8xa9yaAwa30xa1xa2yaAxa3xa4xa5xa6xa7xa8xa9wa40xa1",
    "xa2uaV001yaAyaByaCyaDyaEyaFyaGyaHyaIxa2yaAxa3xa4xa5xa6xa7yaAyaBxa8xa9wa10xa1yaAyaByaCxa2yaAyaBxa3xa4xa5xa6xa",
    "7xa8xa9wa20yaAyaByaCyaDyaEyaFyaGyaHyaIyaJyaKyaLxa1xa2xa3yaAxa4xa5xa6xa7xa8yaAxa9yaAwa30yaAxa1yaAxa2xa3yaAxa4",
    "xa5xa6xa7yaAxa8xa9wa40yaAuaW001xa2xa3yaAxa4xa5xa6xa7xa8xa9yaAwa10yaAxa1xa2xa3xa4yaAxa5xa6xa7yaAxa8yaAxa9wa20",
    "xa1xa2xa3xa4yaAxa5uaX001xa2xa3xa4yaAyaBxa5xa6yaAxa7xa8yaAuaY001yaAxa2xa3xa4xa5xa6xa7xa8uaZ001xa2yaAyaByaCyaD",
    "xa3yaAyaBxa4yaAxa5yaAxa6xa7xa8xa9wa10xa1xa2xa3xa4xa5yaAyaByaCyaDyaEyaFyaGyaHyaIxa6yaAyaByaCyaDyaEyaFyaGyaHua",
    "AA001ya2ya3ya4ya5ya6ya7zaAzaBya8ya9xa10ya1ya2ya3ya4ya5ya6ya7ya8ya9xa20ya1ya2ya3ya4ya5ya6ya7ya8ya9xa30ya1ya2u",
    "aVERTICAL JOINERujHORIZONTuaINSERT AT TOP START(gBOTTOM(aTOP END(eBOTTOMuaOVERLAY MIDDLEuaBEGIN SEGMENTuiEND",
    "aaANATOLIAN HIEROGLYPH A001ya2ya3ya4ya5ya6ya7ya8ya9xa10zaAya1ya2ya3ya4ya5ya6ya7ya8ya9xa20ya1ya2ya3ya4ya5ya6z",
    "aAya7ya8ya9xa30ya1ya2ya3ya4ya5ya6ya7ya8ya9zaAxa40ya1zaAya2ya3ya4ya5zaAya6zaAzaBya7ya8ya9xa50ya1ya2ya3ya4ya5y",
    "a6ya7ya8ya9xa60ya1ya2ya3ya4ya5ya6zaAzaBzaCya7ya8ya9xa70ya1ya2ya3ya4ya5ya6ya7ya8ya9xa80ya1ya2ya3ya4ya5ya6ya7y",
    "a8ya9xa90ya1ya2ya3ya4ya5ya6ya7zaAya8zaAya9wa100zaAya1zaAya2zaAya3ya4zaAzaBzaCya5zaAzaBya6ya7zaAzaBzaCya8ya9x",
    "a10zaAzaBya1ya2ya3ya4ya5zaAya6ya7ya8ya9xa20ya1ya2ya3ya4ya5zaAya6ya7ya8ya9xa30ya1ya2ya3ya4ya5zaAya6ya7ya8ya9x",
    "a40ya1ya2ya3ya4ya5ya6ya7ya8ya9xa50ya1ya2ya3ya4ya5ya6ya7ya8ya9xa60ya1ya2ya3ya4ya5ya6ya7ya8ya9xa70ya1ya2ya3ya4",
    "ya5ya6ya7ya8ya9xa80ya1ya2ya3ya4ya5ya6ya7ya8ya9xa90ya1ya2ya3ya4ya5ya6ya7ya8ya9wa200ya1ya2zaAzaBya3ya4ya5ya6ya",
    "7zaAya8ya9zaAxa10ya1ya2ya3ya4ya5zaAya6zaAya7ya8ya9xa20ya1ya2ya3ya4ya5ya6ya7zaAya8ya9xa30ya1ya2ya3ya4ya5ya6ya",
    "7ya8ya9xa40ya1ya2ya3ya4ya5ya6ya7ya8ya9xa50ya1ya2ya3ya4ya5ya6ya7ya8ya9xa60ya1ya2ya3ya4ya5ya6ya7zaAya8ya9xa70y",
    "a1ya2ya3ya4ya5ya6ya7ya8ya9xa80ya1ya2ya3ya4ya5ya6ya7ya8ya9zaAxa90ya1ya2ya3ya4zaAya5ya6ya7ya8ya9zaAwa300ya1ya2",
    "ya3ya4ya5ya6ya7ya8ya9zaAxa10ya1ya2ya3ya4ya5ya6ya7ya8ya9xa20ya1ya2ya3ya4ya5ya6ya7ya8ya9zaAxa30ya1ya2AzaBzaCya",
    "3ya4ya5ya6zaAzaBzaCya7ya8ya9xa40ya1ya2ya3ya4ya5ya6ya7ya8ya9xa50ya1ya2ya3ya4ya5ya6ya7ya8ya9zaAxa60ya1ya2ya3ya",
    "4zaAya5ya6ya7ya8zaAya9xa70ya1zaAya2ya3ya4ya5ya6ya7ya8ya9xa80ya1zaAya2ya3 RA OR RIzaAya4ya5ya6zaAya7ya8ya9xa9",
    "0ya1ya2ya3 EIGHTya4ya5ya6ya7ya8ya9wa400ya1ya2ya3ya4ya5ya6ya7ya8ya9xa10 BEGIN LOGOGRAM MARKzoA ENDya1ya2ya3ya",
    "4ya5ya6ya7ya8ya9xa20ya1ya2ya3ya4ya5ya6ya7ya8ya9xa30ya1ya2ya3ya4ya5ya6ya7ya8ya9xa40ya1ya2ya3ya4ya5ya6ya7ya8ya",
    "9xa50zaAya1ya2ya3ya4ya5ya6ya7zaAya8ya9xa60ya1ya2ya3ya4ya5ya6ya7ya8ya9xa70ya1ya2ya3ya4ya5ya6ya7ya8ya9xa80ya1y",
    "a2ya3ya4ya5ya6ya7ya8ya9xa90ya1ya2ya3ya4ya5ya6ya7wa501ya2ya3ya4ya5ya6ya7ya8ya9xa10ya1ya2ya3ya4ya5ya6ya7ya8ya9",
    "xa20ya1ya2ya3ya4ya5ya6ya7ya8ya9xa30aaBAMUM LETTER PHASE-A NGKUE MFONvdGBIEE vaPON MFON PIPAEMGBIEE:aBAvaNAA ",
    "MFONvaSHUENSHUETvaTITA MFONvgNZvaSHINDA PA NJIvaPON PA NJI PIPAEMGBIEE<aBAvaMAEMBGBIEEvaTU MAEMBAvaNGANGUvaM",
    "AEMVEUXxaNSUAEwaVEUAENGAMvcSEUNYvaNTOQPENvaKEUKEUTNDAvaNKINDIvaSUUvaNGKUENZEUMvaLAPAQwaET KUTvaNTAP MFAAvaMA",
    "EKEUPvaPASHAEvcGHEUAERvcPAMSHvaMON NGGEUAETvbNZUN MEUvaU YUQ NAEvcGHEUAEGHEUvaNTAP NTAAvbSISvcMGBAwaEUNJOMND",
    "EUQwcOOMPvaKAFAvbPA LEERAEWvkNDvaPETvaMAEMKPENvaNIKAvaPUPvbTUAEveLvaSONJAMvaTEUTEUWENvaMAENYIvaKETvcNDAANGGE",
    "UAvaKUOQvaMOOMEUTvaSHUMvaLOMMAEvaFIRIvaROMvaKPOQvcSvaMAP PIEETvaSHIRAEvaNTAPvaSHOQ NSHUT YUMvaNYIT MONGKEUAE",
    "QvaPAARAEvfNKvaUNKNOWNvbNGGEvaMAESIvaNJAMvaMBANYIvaNYETvaTEUAENvaSOTvaPAAMvaNSHIEEvaMAEMvaNYIvaKAQvaNSHAvaVE",
    "EvaLUvaNENwaAQvcMBtaB NSHUETvaTU MAEMGBIEEvdSwaET TUvaLOM NTEUMvaMBA MAELEEvaKIEEMvaYEURAEvdMBAAvaKAMvaPEESH",
    "IvaYAFU LEERAEWAvaLAM NSHUT NYAMvaNTIEE SHEUOQwaDU NJAAvaGHEUGHEUAEMvaPITvaTU NSIEEvaSHET NJAQyaUAEQTUvaMFON",
    " TEUAEQwaBIT MBAAKETvaNYI NTEUMvaKEUPUQvaGHEUGHENvaKEUYEUXvaLAANAEvaPARUMvcVEvaNGKINDI MVOPxaGEU MBUvaWUAETv",
    "aSAKEUAEvaTAAMvaMEUQvbNGGUO$a LARGEvaMFIYAQvaSUEvaMBEURIwaONTIEENvaNYAEMAEvaPUNGAAMvaMEUT NGGEETvaFEUXvaMBUO",
    "QvaFEEvaKEUAEMvaMA NJEUAENA!bUQvaLETvaNGGAAMwaSENvaMAvaKIQvaNGOMtaC NGKUE MAEMBAwbZvaYUMvaWANGKUOQvaNGGENwaD",
    "EUAEREEwaGKAQvaGHARAEvaMBEEKEETvaGBAYIvaNYIR MKPARAQ MEUNwaTU MBITvaMBEUMvaPIRIEENvaNDOMBUvaMBAA CABBAGE-TRE",
    "EvaKEUSHEUAEPvbGHAvaKEUKAQvaYU MUOMAEvaNZEUMvaMBUEvaNSEUAENvaMBITvaYEUQvbKPARAwaAAvaSEUXvaNDIDAvaTAASHAEvaNJ",
    "UEQvaTITA YUEvaSUAETvaNGGUAEN NYAMvaVEUXvaNANSANAQvaMA KEUAERIvaNTAAwaGGUONvaLAPvaMBIRIEENwaGBASAQvaNTEUNGBA",
    "vaTEUTEUXvaNGGUMvaFUEvaNDEUTwaSAxaHAQvaBUNGvaVEUAEPENvaMBERAEvaRUvaNJAEMvbLAvaTITUAEPvaNSUOT NGOMwaJEEEEvaKE",
    "TvaNGGUvaMAESIwaBUAEMvaLUvaKUTvaNJAMwbGOvaWUPvaNGGUEETwaSOMwaTENvaKUOP NKAARAEvaNSUNwaDAMvaMA NSIEEvaYAAvaND",
    "APvaSHUEQwaETFONvaMBIwaAEMBAwaBANYIvaKEUSEUXvdMBvaKEUMvaMBAA PICKETvaYUWOQvaNJEUXvaMIEEwbUAvaSHIQvaKEN LAWza",
    "FATIGUEvaNGAQwcvbLIvaPINwbEvaTETtaD MBUOvaWAPvaNJIvaMFONvaNJIEEvdLvaNJEUTwaSHEEwbGGAAMAwaYAMvaWUAENvbNGKUvaS",
    "HEEvaNGKAPvaKEUAETMEUNvaTEUTvaSHEUAEvaNJAPvaSUEvaKETvaYAEMMAEvaKUOMvaSAPvaMFEUTvaNDEUXvaMALEERIwaEUTvaSEUAEQ",
    "vaYENvaNJEUAEMvaKEUOT MBUAEvaNGKEURIvaTUvaGHAAvaNGKYEEvaFEUFEUAETvaNDEEvaMGBOFUMvaLEUAEPvaNDONvaMONIwaGBEUNv",
    "aPUUTvaMGBIEEwaFOvaLUMvaNSIEEPvaMBAAvaKWAETvcNYvaTEUAENvaSOTvaYUWOQvaKEUMvbRAEvaTEEEEvaNGKEUAEQvaMFEUAEvaNSI",
    "EETvaKEUPvbPIwaEUTAEvbNYUvaLETvaNGGAAMvaMFIEEvaNGGWAENvaYUOMvaPAPvbYUOvaNDAMwbTEUvaSUAEvaKUNvaNGGEUXxaKIEEva",
    "TUOTvaMEUNvaKUQvaNSUMvaTEUNvaMAENJETvaNGGAPvaLEUMvbNGGUOwaSHUTwaJUEQvaGHEUAEvaKUvaREN OLDvaTAEwaOQvaNYIvbRIv",
    "aLEEEEveMwavaSUUvbMvaSHIIxaEUXvaKYEEvaNUvbSHvaNTEEvcPvaNIvaSHOQvbPUvaMVOPvaLOQvaREN MUCHvaTIvaNTUUvaMBAA SEV",
    "ENvaSAQvaFAAtaE NDAPvaTOONvaMBEUMvaLAPvaVOMvaLOONvaPAAvaSOMvaRAQvaNSHUOPwaDUNvaPUAEvaTAMvaNGKAvaKPEUXvaWUOva",
    "SEEvaNGGEUAETvaPAAMvaTOOvaKUOPvaLOMvaNSHIEEwaGOPvaMAEMvaNGKEUXxaOQwaSHUEvaRIMGBAvaNJEUXvaPEEMvaSAAvaNGGURAEv",
    "aMGBAvaGHEUXvaNGKEUAEMwaJAEMLIvaMAPvaLOOTvaNGGEEEEwaDIQvaTAEN NTEUMvaSETvaPUMvaNDAA SOFTNESSwaGGUAESHAE NYAM",
    "vaYIEEvaGHEUNvaTUAEvdYEvaPOvaTUMAEvcKEUvaSUAENvaTEUAEQvaVEUAEvaWEUXvaLAAMvaPUvaTAAQvaGHAAMAEvaNGEUREUTvaSHEU",
    "AEQvaMGBENwaBEEvaNZAQwaKOMvaGBETvaTUMvaKUETvaYAPvaNYI CLEAVERvaYITvaMFEUQvbNDIAvbPIEEvcYUvaLEUAEMvaFUEvaGBEU",
    "XvaNGKUPvaKETvaMAEvaNGKAAMIvaGHETvaFAvaNTUMvaPEUTvaYEUMvaNGGEUAEwaYI BETWEENwaZUQvaPOONvaMIEEvaFUETvaNAEvcMU",
    "vdGHEvaFU IvbMVvaPUAQvaNGKUMvaKUTvbPIEvaNTAPvaYEUAETvaNGGUPvaPA PEOPLEvaFU CALLwaOMvaNJEEvaAvaTOQvaOvaIvaLAQ",
    "vaPA PLURALvaTAAxaQvaNDAA MY HOUSEvaSHIQvaYEUXvaNGUAEvaYUAENwaOQ SWIMMINGzaCOVERwaUQxaNvaKEUXvdPvaNJEE EPOCH",
    "vaPUEvcWvbFEvcVvaLUvaMIvaREUXwaAEvaNGUAETxaAvaSHOyaQvaFU REMEDYvaNAvaPIvaLOQvaKOvaMENwaAxaQvaTEUvaKIvaMONvbT",
    "EvaFAQvaGHOMtaF KAvaUvbKvaEEvcRvbTAvaNYIvaLAvaRIIxaEEvcMEEvaTAAvcNDwaJAEMvbvaSUUwaHIIwbwaEUXvaKYEEwaETvaNUAE",
    "xawaJUAEvaYOQvaSHUvaYAvbNSHvaPEUXvaNTEEvbWUvbPEvaRUvaNIvaREUXvaKENvcNGKWAxaGAvaSHOvaPUAEvaFOMvaWAvaLIwaOQvaK",
    "OvaMBENvcRvaMAwaOwaBAAvaTETvaKPAvbSAMBvaVUEQaaMRO LETTER TAlaNGIlaYOlaMIMlaBAlbDlblaPHIlbKHAlaHAOlaDAIlaCHUl",
    "aKEAAElaOLlaMAEMlaNINlaPAlaOOmalbRlaSHIlaTHEAlclbWlaElaKOlaLANnalaHAIlbRlaTEKeaDIGIT ZEROkaONEkaTWOlaHREEkaF",
    "OURlaIVEkaSIXlaEVENkaEIGHTkaNINEfaANDAfeOUBLE DaaTANGSA LETTER OZpaCpaQpaXoaAZpaCpaQpaXoaVZpaCpaQpaXoaEZpaCp",
    "aQpaXoaIZpaCpaQpaXoaUZpaCpaQpaXoaAWZqaCqaQqaXoaUIZqaCqaQqaXoaFINAL NGoaLONG UEXoaSHORT UEZuaAWXoaUECqaZqaQqa",
    "XpaIUZraCraQraXoaMZpaCpaQpaXoaKApbHobGocNobSobYobWobPobNYobPHobBobMobNobHobLobHTocobDobRobNHocSobCobTSobGHob",
    "HTTobTHobXobFobDHocCobZhaDIGIT ZEROnaONEnaTWOoaHREEnaFOURoaIVEnaSIXoaEVENnaEIGHTnaNINEaaBASSA VAH LETTER ENN",
    "IraKAraSEraFAraMBErbYIraGAHraDHIIraKPAHraJOraHWAHraWAraZOraGBUraDOraCEraUWUraTOraBAraVUraYEINraPArbWADDrbraO",
    "saOraUraEEsaraIkaCOMBINING HIGH TONEufLOWufMIDuiLOW-ufHIGH-LOWkaFULL STOPaaPAHAWH HMONG VOWEL KEEBwaVuaIBvaV",
    "uaAUBwaVuaUBvaVuaEBvaVuaAIBwaVuaOOBwaVuaAWBwaVuaUABwaVuaOBvaVuaIABwaVuaABvaVuaWBvaVuaAABwaVnaCONSONANT VAUxc",
    "NTSxcLxcHxcNLxcRxcNKxcQHxcYxcHLxcMxcCHxeNxcHNxcPLHxdNTycxcxcXxcCnaMARK CIM TUBwaSOwaKESxaHAVwaSUAMwbHOwbTAUn",
    "bSIGN VOS THOxaSHAB CEEBsaCIM CHEEMsaVOS THIABwaFEEMsaXYEEM NTXIVyaRHOyaTOVyaFAIBsaVOS SEEVsaMEEJ SUABsaVOS ",
    "NRUAsaIB YAMsaXAUSsaCIM TSOV ROGnaDIGIT ZEROtaONEtaTWOuaHREEtaFOURuaIVEtaSIXuaEVENtaEIGHTtaNINEnaNUMBER TENS",
    "ubHUNDREDucTEN THOUSANubMILLIONuiHUNDRED uhTEN BvhRnaSIGN VOS LUBsaXYOOsaHLIsdTHIRD-STAGE saZWJ THAJsaHNUBsa",
    "NQIGsaXIABsaNTUJsaAVsbTXHEEJ CEEsaMEEJ TSEEBsaTAUsaLOSsbMUsaCIM HAIS LUS NTOG NTOGwaCUAM TSHOOJwaTXWV!a CHWV",
    "waPUB DAWBwaNRES TOSnaCLAN SIGN TSHEEJxaYEEGxaLISyaAUJxbXYOOxaKOOxaHAWJxaMUASxaTHOJyaSABxcPHxdKxaHAMxaVAJxcF",
    "xcYxaTSWBxaKWMxaVWJaaMEDEFAIDRIN CAPITAL LETTER M$aS$aV$aW$aATIU$aZ$aKP$b$aT$aG$aF$aI$aK$aA$aJ$aE$aB$aC$aU$b",
    "Y$aL$aQ$aHP$aNY$aX$aD$aOE$aN$aR$aO$aAI$aYmaSMALL LETTER MzaSzaVzaWzaATIUzaZzaKPzbzaTzaGzaFzaIzaKzaAzaJzaEzaB",
    "zaCzaUzbYzaLzaQzaHPzaNYzaXzaDzaOEzaNzaRzaOzaAIzaYmaDIGIT ZEROsaONEsaTWOtaHREEsaFOURtaIVEsaSIXtaEVENsaEIGHTsa",
    "NINEmaNUMBER TENtcELEVtaTWELVEuaHIRTEENtfFOUueIFteSIXueEVENteEIGHteNINEmaDIGIT ONE ALTERNATE FORMspTWOtpHREE",
    "maCOMMAmaFULL STOPmaSYMBOL AIVAmaEXCLAMATION OHbaIAO LETTER PAmbBmbYI PmbPLmbMnbHmbARCHAIC MmbFmbVnbFmbTmbDm",
    "bYI TTqbmcTmbDDmbNnbHmbYI NNmcARCHAIC mcNobHmbLnbYnbHobYmbTLHmdDmbTLHYmeDmbKmbGmbYI KmbQnbGmcNobHmbARCHAIC N",
    "GmbHmbXmbGHobHmbTSSmbDZZmbNYobHmcTSmcDZmcYI TSpcDZmcREFORMED TSmdnbSmbZHncSmbTSmbDZmbYI TSmcmbZnbSnbZobSmbAR",
    "CHAIC ZZmbZZYocSmbWmaAHmaHHAmaBRImbSYmcDZmaTEnbSmbRTfaSIGN CONSONANT MODIFIER BARfaLETTER NASALIZATIONffSIGN",
    " ASPIRkaREFORMED VOICINGtaASPIRATIONfaVOWEL SIGN AraAraHHraNsaGqaOraOqbWraqaEraNsaGqaOEYqaIraAsaNtaGraOraEra",
    "IraUraNGqaUraAsaNtaGraUraEIraNGqaYraIqaAEsaEqaERRqdROUNDED qbEqcROUNDED qaAIqbEqaAUqbOqaNraGqbUOqaYUIqaOGraE",
    "RqaVWqaIGqaEAqaIONGqaUIfaTONE RIGHTkfTOP kaABOVEkaBELOWfaLETTER TONE-2ra3ra4ra5ra6ra7ra8maREFORMED TONE-1!a2",
    "!a4!a5!a6!a8aaTANGUT ITERATION MARKapNUSHUafOLD CHINESE HOOKmfITERATIONaaKHITAN SMALL SCRIPT FILLERaaVIETNAM",
    "ESE ALTERNATE READING MARK CA,aNHAYaaTANGUT COMPONENT-001ta2ta3ta4ta5ta6ta7ta8ta9sa10ta1ta2ta3ta4ta5ta6ta7ta",
    "8ta9sa20ta1ta2ta3ta4ta5ta6ta7ta8ta9sa30ta1ta2ta3ta4ta5ta6ta7ta8ta9sa40ta1ta2ta3ta4ta5ta6ta7ta8ta9sa50ta1ta2t",
    "a3ta4ta5ta6ta7ta8ta9sa60ta1ta2ta3ta4ta5ta6ta7ta8ta9sa70ta1ta2ta3ta4ta5ta6ta7ta8ta9sa80ta1ta2ta3ta4ta5ta6ta7t",
    "a8ta9sa90ta1ta2ta3ta4ta5ta6ta7ta8ta9ra100ta1ta2ta3ta4ta5ta6ta7ta8ta9sa10ta1ta2ta3ta4ta5ta6ta7ta8ta9sa20ta1ta",
    "2ta3ta4ta5ta6ta7ta8ta9sa30ta1ta2ta3ta4ta5ta6ta7ta8ta9sa40ta1ta2ta3ta4ta5ta6ta7ta8ta9sa50ta1ta2ta3ta4ta5ta6ta",
    "7ta8ta9sa60ta1ta2ta3ta4ta5ta6ta7ta8ta9sa70ta1ta2ta3ta4ta5ta6ta7ta8ta9sa80ta1ta2ta3ta4ta5ta6ta7ta8ta9sa90ta1t",
    "a2ta3ta4ta5ta6ta7ta8ta9ra200ta1ta2ta3ta4ta5ta6ta7ta8ta9sa10ta1ta2ta3ta4ta5ta6ta7ta8ta9sa20ta1ta2ta3ta4ta5ta6",
    "ta7ta8ta9sa30ta1ta2ta3ta4ta5ta6ta7ta8ta9sa40ta1ta2ta3ta4ta5ta6ta7ta8ta9sa50ta1ta2ta3ta4ta5ta6ta7ta8ta9sa60ta",
    "1ta2ta3ta4ta5ta6ta7ta8ta9sa70ta1ta2ta3ta4ta5ta6ta7ta8ta9sa80ta1ta2ta3ta4ta5ta6ta7ta8ta9sa90ta1ta2ta3ta4ta5ta",
    "6ta7ta8ta9ra300ta1ta2ta3ta4ta5ta6ta7ta8ta9sa10ta1ta2ta3ta4ta5ta6ta7ta8ta9sa20ta1ta2ta3ta4ta5ta6ta7ta8ta9sa30",
    "ta1ta2ta3ta4ta5ta6ta7ta8ta9sa40ta1ta2ta3ta4ta5ta6ta7ta8ta9sa50ta1ta2ta3ta4ta5ta6ta7ta8ta9sa60ta1ta2ta3ta4ta5",
    "ta6ta7ta8ta9sa70ta1ta2ta3ta4ta5ta6ta7ta8ta9sa80ta1ta2ta3ta4ta5ta6ta7ta8ta9sa90ta1ta2ta3ta4ta5ta6ta7ta8ta9ra4",
    "00ta1ta2ta3ta4ta5ta6ta7ta8ta9sa10ta1ta2ta3ta4ta5ta6ta7ta8ta9sa20ta1ta2ta3ta4ta5ta6ta7ta8ta9sa30ta1ta2ta3ta4t",
    "a5ta6ta7ta8ta9sa40ta1ta2ta3ta4ta5ta6ta7ta8ta9sa50ta1ta2ta3ta4ta5ta6ta7ta8ta9sa60ta1ta2ta3ta4ta5ta6ta7ta8ta9s",
    "a70ta1ta2ta3ta4ta5ta6ta7ta8ta9sa80ta1ta2ta3ta4ta5ta6ta7ta8ta9sa90ta1ta2ta3ta4ta5ta6ta7ta8ta9ra500ta1ta2ta3ta",
    "4ta5ta6ta7ta8ta9sa10ta1ta2ta3ta4ta5ta6ta7ta8ta9sa20ta1ta2ta3ta4ta5ta6ta7ta8ta9sa30ta1ta2ta3ta4ta5ta6ta7ta8ta",
    "9sa40ta1ta2ta3ta4ta5ta6ta7ta8ta9sa50ta1ta2ta3ta4ta5ta6ta7ta8ta9sa60ta1ta2ta3ta4ta5ta6ta7ta8ta9sa70ta1ta2ta3t",
    "a4ta5ta6ta7ta8ta9sa80ta1ta2ta3ta4ta5ta6ta7ta8ta9sa90ta1ta2ta3ta4ta5ta6ta7ta8ta9ra600ta1ta2ta3ta4ta5ta6ta7ta8",
    "ta9sa10ta1ta2ta3ta4ta5ta6ta7ta8ta9sa20ta1ta2ta3ta4ta5ta6ta7ta8ta9sa30ta1ta2ta3ta4ta5ta6ta7ta8ta9sa40ta1ta2ta",
    "3ta4ta5ta6ta7ta8ta9sa50ta1ta2ta3ta4ta5ta6ta7ta8ta9sa60ta1ta2ta3ta4ta5ta6ta7ta8ta9sa70ta1ta2ta3ta4ta5ta6ta7ta",
    "8ta9sa80ta1ta2ta3ta4ta5ta6ta7ta8ta9sa90ta1ta2ta3ta4ta5ta6ta7ta8ta9ra700ta1ta2ta3ta4ta5ta6ta7ta8ta9sa10ta1ta2",
    "ta3ta4ta5ta6ta7ta8ta9sa20ta1ta2ta3ta4ta5ta6ta7ta8ta9sa30ta1ta2ta3ta4ta5ta6ta7ta8ta9sa40ta1ta2ta3ta4ta5ta6ta7",
    "ta8ta9sa50ta1ta2ta3ta4ta5ta6ta7ta8ta9sa60ta1ta2ta3ta4ta5ta6ta7ta8aaKHITAN SMALL SCRIPT CHARACTER-18B00,a1,a2",
    ",a3,a4,a5,a6,a7,a8,a9,aA,aB,aC,aD,aE,aF+a10,a1,a2,a3,a4,a5,a6,a7,a8,a9,aA,aB,aC,aD,aE,aF+a20,a1,a2,a3,a4,a5,",
    "a6,a7,a8,a9,aA,aB,aC,aD,aE,aF+a30,a1,a2,a3,a4,a5,a6,a7,a8,a9,aA,aB,aC,aD,aE,aF+a40,a1,a2,a3,a4,a5,a6,a7,a8,a",
    "9,aA,aB,aC,aD,aE,aF+a50,a1,a2,a3,a4,a5,a6,a7,a8,a9,aA,aB,aC,aD,aE,aF+a60,a1,a2,a3,a4,a5,a6,a7,a8,a9,aA,aB,aC",
    ",aD,aE,aF+a70,a1,a2,a3,a4,a5,a6,a7,a8,a9,aA,aB,aC,aD,aE,aF+a80,a1,a2,a3,a4,a5,a6,a7,a8,a9,aA,aB,aC,aD,aE,aF+",
    "a90,a1,a2,a3,a4,a5,a6,a7,a8,a9,aA,aB,aC,aD,aE,aF+aA0,a1,a2,a3,a4,a5,a6,a7,a8,a9,aA,aB,aC,aD,aE,aF+aB0,a1,a2,",
    "a3,a4,a5,a6,a7,a8,a9,aA,aB,aC,aD,aE,aF+aC0,a1,a2,a3,a4,a5,a6,a7,a8,a9,aA,aB,aC,aD,aE,aF+aD0,a1,a2,a3,a4,a5,a",
    "6,a7,a8,a9,aA,aB,aC,aD,aE,aF+aE0,a1,a2,a3,a4,a5,a6,a7,a8,a9,aA,aB,aC,aD,aE,aF+aF0,a1,a2,a3,a4,a5,a6,a7,a8,a9",
    ",aA,aB,aC,aD,aE,aF*aC00,a1,a2,a3,a4,a5,a6,a7,a8,a9,aA,aB,aC,aD,aE,aF+a10,a1,a2,a3,a4,a5,a6,a7,a8,a9,aA,aB,aC",
    ",aD,aE,aF+a20,a1,a2,a3,a4,a5,a6,a7,a8,a9,aA,aB,aC,aD,aE,aF+a30,a1,a2,a3,a4,a5,a6,a7,a8,a9,aA,aB,aC,aD,aE,aF+",
    "a40,a1,a2,a3,a4,a5,a6,a7,a8,a9,aA,aB,aC,aD,aE,aF+a50,a1,a2,a3,a4,a5,a6,a7,a8,a9,aA,aB,aC,aD,aE,aF+a60,a1,a2,",
    "a3,a4,a5,a6,a7,a8,a9,aA,aB,aC,aD,aE,aF+a70,a1,a2,a3,a4,a5,a6,a7,a8,a9,aA,aB,aC,aD,aE,aF+a80,a1,a2,a3,a4,a5,a",
    "6,a7,a8,a9,aA,aB,aC,aD,aE,aF+a90,a1,a2,a3,a4,a5,a6,a7,a8,a9,aA,aB,aC,aD,aE,aF+aA0,a1,a2,a3,a4,a5,a6,a7,a8,a9",
    ",aA,aB,aC,aD,aE,aF+aB0,a1,a2,a3,a4,a5,a6,a7,a8,a9,aA,aB,aC,aD,aE,aF+aC0,a1,a2,a3,a4,a5,a6,a7,a8,a9,aA,aB,aC,",
    "aD,aE,aF+aD0,a1,a2,a3,a4,a5baATAKANA LETTER MINNAN TONE-2%a3%a4%a5%a7%a8xaNASALIZED TONE-1<a2<a3<a4<a5<a7<a8",
    "qaARCHAIC EabHIRAGANA LETTER ARCHAIC YbaENTAIGANA LETTER A-1ua2ua3uaWOsaI-1ua2ua3ua4saU-1ua2ua3ua4ua5saE-2ua",
    "3ua4ua5ua6saO-1ua2ua3saKA-1va2va3va4va5va6va7va8va9va10wa1vaKEtaI-1va2va3va4va5va6va7va8taU-1va2va3va4va5va6",
    "va7taE-1va2va3va4va5va6taO-1va2va3vaKIsaSA-1va2va3va4va5va6va7va8taI-1va2va3va4va5va6taU-1va2va3va4va5va6va7",
    "va8taE-1va2va3va4va5taO-1va2va3va4va5va6va7saTA-1va2va3va4taI-1va2va3va4va5va6va7taU-1va2va3va4vaTOtaE-1va2v",
    "a3va4va5va6va7va8va9taO-1va2va3va4va5va6vaRAsaNA-1va2va3va4va5va6va7va8va9taI-1va2va3va4va5va6va7vaTEtaU-1va",
    "2va3taE-1va2va3va4va5va6vaKOtaO-1va2va3va4va5saHA-1va2va3va4va5va6va7va8va9va10wa1tbI-va2va3va4va5va6va7taU-",
    "1va2va3taE-1va2va3va4va5va6va7taO-1va2va3va4va5va6va7va8saMA-1va2va3va4va5va6va7taI-1va2va3va4va5va6va7taU-1",
    "va2va3va4taE-1va2vaMAtaO-1va2va3va4va5va6saYA-1va2va3va4va5vaYOtaU-1va2va3va4taO-1va2va3va4va5va6saRA-1va2va",
    "3va4taI-1va2va3va4va5va6va7taU-1va2va3va4va5va6taE-1va2va3va4taO-1va2va3va4va5va6saWA-1va2va3va4va5taI-1va2v",
    "a3va4va5taE-1va2va3va4taO-1va2va3va4va5va6va7saN-MU-MO-1!a2baIRAGANA LETTER ARCHAIC WUaaKATAKANA LETTER ARCH",
    "AIC YIzaEyaWUaaHIRAGANA LETTER SMALL WIxaExaOaaKATAKANA LETTER SMALL WIxaExaOwaNaaNUSHU CHARACTER-1B170ua1ua",
    "2ua3ua4ua5ua6ua7ua8ua9uaAuaBuaCuaDuaEuaFta80ua1ua2ua3ua4ua5ua6ua7ua8ua9uaAuaBuaCuaDuaEuaFta90ua1ua2ua3ua4ua5",
    "ua6ua7ua8ua9uaAuaBuaCuaDuaEuaFtaA0ua1ua2ua3ua4ua5ua6ua7ua8ua9uaAuaBuaCuaDuaEuaFtaB0ua1ua2ua3ua4ua5ua6ua7ua8u",
    "a9uaAuaBuaCuaDuaEuaFtaC0ua1ua2ua3ua4ua5ua6ua7ua8ua9uaAuaBuaCuaDuaEuaFtaD0ua1ua2ua3ua4ua5ua6ua7ua8ua9uaAuaBua",
    "CuaDuaEuaFtaE0ua1ua2ua3ua4ua5ua6ua7ua8ua9uaAuaBuaCuaDuaEuaFtaF0ua1ua2ua3ua4ua5ua6ua7ua8ua9uaAuaBuaCuaDuaEuaF",
    "sa200ua1ua2ua3ua4ua5ua6ua7ua8ua9uaAuaBuaCuaDuaEuaFta10ua1ua2ua3ua4ua5ua6ua7ua8ua9uaAuaBuaCuaDuaEuaFta20ua1ua",
    "2ua3ua4ua5ua6ua7ua8ua9uaAuaBuaCuaDuaEuaFta30ua1ua2ua3ua4ua5ua6ua7ua8ua9uaAuaBuaCuaDuaEuaFta40ua1ua2ua3ua4ua5",
    "ua6ua7ua8ua9uaAuaBuaCuaDuaEuaFta50ua1ua2ua3ua4ua5ua6ua7ua8ua9uaAuaBuaCuaDuaEuaFta60ua1ua2ua3ua4ua5ua6ua7ua8u",
    "a9uaAuaBuaCuaDuaEuaFta70ua1ua2ua3ua4ua5ua6ua7ua8ua9uaAuaBuaCuaDuaEuaFta80ua1ua2ua3ua4ua5ua6ua7ua8ua9uaAuaBua",
    "CuaDuaEuaFta90ua1ua2ua3ua4ua5ua6ua7ua8ua9uaAuaBuaCuaDuaEuaFtaA0ua1ua2ua3ua4ua5ua6ua7ua8ua9uaAuaBuaCuaDuaEuaF",
    "taB0ua1ua2ua3ua4ua5ua6ua7ua8ua9uaAuaBuaCuaDuaEuaFtaC0ua1ua2ua3ua4ua5ua6ua7ua8ua9uaAuaBuaCuaDuaEuaFtaD0ua1ua2",
    "ua3ua4ua5ua6ua7ua8ua9uaAuaBuaCuaDuaEuaFtaE0ua1ua2ua3ua4ua5ua6ua7ua8ua9uaAuaBuaCuaDuaEuaFtaF0ua1ua2ua3ua4ua5u",
    "a6ua7ua8ua9uaAuaBaaDUPLOYAN LETTER HqaXqaPqaTqaFqaKqaLqaBqaDqaVqaGqaRqaP NqaD SqaF NqaK MqaR SqaTHqbSLOAN Dq",
    "cqaKKqaSLOAN JqaHLqaLHqbRqaMqaNqaJqaSqaM NqaN MqcJqaS JqaM WITH DOTqjNqjJ!aS INSIDE AND ABOVEqaS WITH DOT!a ",
    "BELOWqaM SqcNqcJqcSqcM NqcN MqeJqcS JqaJ S WITH DOTsaNta SqaS Tta RsaPta RqaT SsbR qaWraHra RqaS NsaMqaK R S",
    "qeGqaS Kta RqaAqaSLOAN OWqaOAraqaAOUqaIqaEqbIqaSHORT IqbUqaEEqaSLOAN EHqaROMANIAN IqaSLOAN EEqaLONG IqaYEqaU",
    "qbEqaXWqaU NqaLONG UqcROMANIANqaUHqaSLOAN UqaOOHraWraUqaWAraOraIrbEraOWqaNASAL UwaOwaIwaAqaPERNIN ANyaMqaSLO",
    "AN ENwbAwbOqaVOCALIC MjaAFFIX LEFT HORIZONTAL SECANTpsMIDpsRIGHTpjLOW VERTICpqMIDpqHIGHphATTACHEDygLEFT-TO-R",
    "IGHT ycTANGE!aILyaE HOOKyfIyfTANGENTpaHIGH ACUTEufTIGHT ubGRAVufLONG uaDOTuaCIRCLEubLINubWAVuaVERTICALpaLOW ",
    "ACUTEtfTIGHT tbGRAVtfLONG taDOTtaCIRCLEtbLINtbWAVtaVERTICALtaARROWjaSIGN O WITH CROSSjaTHICK LETTER SELECTOR",
    "jaDOUBLE MARKjaPUNCTUATION CHINOOK FULL STOPabSHORTHAND FORMAT LETTER OVERLAriCONTINUINGrbDOWN STErfUPaaZNAM",
    "ENNY COMBINING MARK GORAZDO NIZKO S KRYZHEM ON LEFTyxyiTSATAyiGORAZDO NIZKOynyiSREDNEyjMALO POVYSHypyiVYSOKO",
    "yiMALO POVYSHE S KHOKHLOMy!ytVYSOKOybGORAZDO NIZKO S KRYZHEM ON RIGHyyyjTSATAyjGORAZDO NIZKOyoyjSREDNEykMALO",
    " POVYSHyqyjVYSOKOyjMALO POVYSHE S KHOKHLOMy$yuVYSOKOyaTSATA S KRYZHEMykMALO POVYSHEyaSTRANNO MALO POVYSHEyaP",
    "OVYSHE S KRYZHEM+aTRANNOyaVYSOKO S KRYZHEMyaMALO POVYSHE STRANNOybGORAZDO VYSOKybZELyaONyaRAVNOyaTIKHAYAydBO",
    "RZybUDARKycPODVERTycLOMybKUPNAYzbACHKyaZEVOKyaSKOBAybRAZSEKyaKRYZH ON LEFTtaTONAL RANGE MARK MRACHNO:bSVETL:",
    "gTREtaMARK ZADERZHKAyjDEMESTVENNY ydOTSECyaPODCHASHIE,a WITH VERTICAL STROKEyaCHASHKA)a POLNAYAyaOBLACHKOyaS",
    "OROCHYA NOZHKAydTOCyaDVOETOCHIEtaATTACHING VERTICAL OMETtfMARK CURVEDyaKRYZHtaLOWER TONAL RANGE INDICATORjaP",
    "RIZNAK MODIFIER LEVEL-2*a3!aDIRECTION FLIP!aKRYZH!aROGjaNEUME KRYUKua TIKHYpaPARAKLITpaDVA V CHELNUpaKLYUCHp",
    "aZANOZHEKpaSTOPITSAxa S OCHKOMpaPEREVODKAya NEPOSTOYANNAYApbSTOPITSA WITH SOROCHYA NOZHKpcCHELYUSTpcPALpbZAP",
    "YATAYpaGOLUBCHIK BORZYzbTIKHzbMRACHNzbSVETLzgTREpaVRAKHIYA PROSTAYAydMRACHNydSVETLyiTREydKLYUCHEVAYA PROST:d",
    "MRACHN:dSVETL:iTREpdDOUBLE ZAPYATpbREVERSED CHELYUSTKpbDERBITSpaKHAMILOpaCHASHKApaPODCHASHIEpaSKAMEYTSA MRAC",
    "HNAYAzdSVETLziTRE!dIKHpaDEMESTVENNY KLYUCHpaSKAMEYTSA KLYUCHEVAYA SVETLAYA*dNEPOSTOYANN*dVAYA TIKHzdDVOECHEL",
    "NAYA PROST<dSVETL<dNEPOSTOYANN<dKLYUCHEVqaLOZHITIEya S ZAPYATOYzaZAKRYTOEzaS KRYZHEMpaKRYZHpaROGpaFITApbKOBY",
    "LpbZMEYTSpbSTATYva S ZAPYATOYyaKRYZHEMyhZAPYATOY I yaKRYZHEM I ZAPYATOYwaZAKRYTAYA)a S ZAPYATOYwaS ROGOMyaDV",
    "UMYA ZAPYATYMIyaZAPYATOY I PODCHASHIEMpaPOLKULIZMYpaSTATYA NEPOSTOYANNAYArdRELA PROSTwdMRACHNOTIKHwdKRYZHEVw",
    "dPOLUPOVODNyhweNEPOSTOYANweKLYUCHEPOVOD&eNEPOSTOYANweTIKHAYA PUTweDVOECHEL)dOKRYZHEV*dPOVODN)dAYA KLYUCHEV)p",
    "OPOVODNwdGROMNAYA WITH SINGLE ZAPYAT!!OPOVOD!dN!eOPOVOD:a WITH DOUBLE ZAPYATAYA$dKRYZHEV;a POVODNAYApaMECHIK",
    "va POVODNYwbKLYUCHEVO&bPOVODN&cNEPOSTOYANpaSTRELA TRYASOGLASNAYA%ePOVOD%eSTRELpbOSOKua SVETLAYAviTREviKRYUKO",
    "VAYA wnLYUCHE+dNEPOSTOYANNpdSTRELA KRYUKOV*a POVODNAYA+dGROMNAYA WITH SINGLE ZAPYAT;!OPOVOD;dN;eOPOVOD~cYA W",
    "ITH DOUBLE ZAPYATA<dKRYZHEV~dAYA POVODN+bTRYASKpbKUFISMpaOBLAKOpaDUDApbNEMKpaPAUK"]⟩

end StateMachine.Text
