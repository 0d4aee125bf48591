import StateMachine.Text.Name.Table

/-!
# Names of characters: from Samaritan to extended Greek

The code points from 0800 to 1FFF: most scripts of India and of the lands around it, and additions to Latin and
Greek.
-/

namespace StateMachine.Text

/-- The names of these characters. -/
def southernNames : NameTable :=
  ⟨
   [(0x800, 0x82d), (0x830, 0x83e), (0x840, 0x85b), (0x85e, 0x85e), (0x860, 0x86a), (0x870, 0x88e),
    (0x890, 0x891), (0x898, 0x983), (0x985, 0x98c), (0x98f, 0x990), (0x993, 0x9a8), (0x9aa, 0x9b0),
    (0x9b2, 0x9b2), (0x9b6, 0x9b9), (0x9bc, 0x9c4), (0x9c7, 0x9c8), (0x9cb, 0x9ce), (0x9d7, 0x9d7),
    (0x9dc, 0x9dd), (0x9df, 0x9e3), (0x9e6, 0x9fe), (0xa01, 0xa03), (0xa05, 0xa0a), (0xa0f, 0xa10),
    (0xa13, 0xa28), (0xa2a, 0xa30), (0xa32, 0xa33), (0xa35, 0xa36), (0xa38, 0xa39), (0xa3c, 0xa3c),
    (0xa3e, 0xa42), (0xa47, 0xa48), (0xa4b, 0xa4d), (0xa51, 0xa51), (0xa59, 0xa5c), (0xa5e, 0xa5e),
    (0xa66, 0xa76), (0xa81, 0xa83), (0xa85, 0xa8d), (0xa8f, 0xa91), (0xa93, 0xaa8), (0xaaa, 0xab0),
    (0xab2, 0xab3), (0xab5, 0xab9), (0xabc, 0xac5), (0xac7, 0xac9), (0xacb, 0xacd), (0xad0, 0xad0),
    (0xae0, 0xae3), (0xae6, 0xaf1), (0xaf9, 0xaff), (0xb01, 0xb03), (0xb05, 0xb0c), (0xb0f, 0xb10),
    (0xb13, 0xb28), (0xb2a, 0xb30), (0xb32, 0xb33), (0xb35, 0xb39), (0xb3c, 0xb44), (0xb47, 0xb48),
    (0xb4b, 0xb4d), (0xb55, 0xb57), (0xb5c, 0xb5d), (0xb5f, 0xb63), (0xb66, 0xb77), (0xb82, 0xb83),
    (0xb85, 0xb8a), (0xb8e, 0xb90), (0xb92, 0xb95), (0xb99, 0xb9a), (0xb9c, 0xb9c), (0xb9e, 0xb9f),
    (0xba3, 0xba4), (0xba8, 0xbaa), (0xbae, 0xbb9), (0xbbe, 0xbc2), (0xbc6, 0xbc8), (0xbca, 0xbcd),
    (0xbd0, 0xbd0), (0xbd7, 0xbd7), (0xbe6, 0xbfa), (0xc00, 0xc0c), (0xc0e, 0xc10), (0xc12, 0xc28),
    (0xc2a, 0xc39), (0xc3c, 0xc44), (0xc46, 0xc48), (0xc4a, 0xc4d), (0xc55, 0xc56), (0xc58, 0xc5a),
    (0xc5d, 0xc5d), (0xc60, 0xc63), (0xc66, 0xc6f), (0xc77, 0xc8c), (0xc8e, 0xc90), (0xc92, 0xca8),
    (0xcaa, 0xcb3), (0xcb5, 0xcb9), (0xcbc, 0xcc4), (0xcc6, 0xcc8), (0xcca, 0xccd), (0xcd5, 0xcd6),
    (0xcdd, 0xcde), (0xce0, 0xce3), (0xce6, 0xcef), (0xcf1, 0xcf2), (0xd00, 0xd0c), (0xd0e, 0xd10),
    (0xd12, 0xd44), (0xd46, 0xd48), (0xd4a, 0xd4f), (0xd54, 0xd63), (0xd66, 0xd7f), (0xd81, 0xd83),
    (0xd85, 0xd96), (0xd9a, 0xdb1), (0xdb3, 0xdbb), (0xdbd, 0xdbd), (0xdc0, 0xdc6), (0xdca, 0xdca),
    (0xdcf, 0xdd4), (0xdd6, 0xdd6), (0xdd8, 0xddf), (0xde6, 0xdef), (0xdf2, 0xdf4), (0xe01, 0xe3a),
    (0xe3f, 0xe5b), (0xe81, 0xe82), (0xe84, 0xe84), (0xe86, 0xe8a), (0xe8c, 0xea3), (0xea5, 0xea5),
    (0xea7, 0xebd), (0xec0, 0xec4), (0xec6, 0xec6), (0xec8, 0xecd), (0xed0, 0xed9), (0xedc, 0xedf),
    (0xf00, 0xf47), (0xf49, 0xf6c), (0xf71, 0xf97), (0xf99, 0xfbc), (0xfbe, 0xfcc), (0xfce, 0xfda),
    (0x1000, 0x10c5), (0x10c7, 0x10c7), (0x10cd, 0x10cd), (0x10d0, 0x1248), (0x124a, 0x124d), (0x1250, 0x1256),
    (0x1258, 0x1258), (0x125a, 0x125d), (0x1260, 0x1288), (0x128a, 0x128d), (0x1290, 0x12b0), (0x12b2, 0x12b5),
    (0x12b8, 0x12be), (0x12c0, 0x12c0), (0x12c2, 0x12c5), (0x12c8, 0x12d6), (0x12d8, 0x1310), (0x1312, 0x1315),
    (0x1318, 0x135a), (0x135d, 0x137c), (0x1380, 0x1399), (0x13a0, 0x13f5), (0x13f8, 0x13fd), (0x1400, 0x169c),
    (0x16a0, 0x16f8), (0x1700, 0x1715), (0x171f, 0x1736), (0x1740, 0x1753), (0x1760, 0x176c), (0x176e, 0x1770),
    (0x1772, 0x1773), (0x1780, 0x17dd), (0x17e0, 0x17e9), (0x17f0, 0x17f9), (0x1800, 0x1819), (0x1820, 0x1878),
    (0x1880, 0x18aa), (0x18b0, 0x18f5), (0x1900, 0x191e), (0x1920, 0x192b), (0x1930, 0x193b), (0x1940, 0x1940),
    (0x1944, 0x196d), (0x1970, 0x1974), (0x1980, 0x19ab), (0x19b0, 0x19c9), (0x19d0, 0x19da), (0x19de, 0x1a1b),
    (0x1a1e, 0x1a5e), (0x1a60, 0x1a7c), (0x1a7f, 0x1a89), (0x1a90, 0x1a99), (0x1aa0, 0x1aad), (0x1ab0, 0x1ace),
    (0x1b00, 0x1b4c), (0x1b50, 0x1b7e), (0x1b80, 0x1bf3), (0x1bfc, 0x1c37), (0x1c3b, 0x1c49), (0x1c4d, 0x1c88),
    (0x1c90, 0x1cba), (0x1cbd, 0x1cc7), (0x1cd0, 0x1cfa), (0x1d00, 0x1f15), (0x1f18, 0x1f1d), (0x1f20, 0x1f45),
    (0x1f48, 0x1f4d), (0x1f50, 0x1f57), (0x1f59, 0x1f59), (0x1f5b, 0x1f5b), (0x1f5d, 0x1f5d), (0x1f5f, 0x1f7d),
    (0x1f80, 0x1fb4), (0x1fb6, 0x1fc4), (0x1fc6, 0x1fd3), (0x1fd6, 0x1fdb), (0x1fdd, 0x1fef), (0x1ff2, 0x1ff4),
    (0x1ff6, 0x1ffe)],
   ["aaSAMARITAN LETTER ALAFraBITraGAMANraDALATraIYraBAAraZENraITrcTrbYUraKAAFraLABATraMIMraNUNraSINGAATraINraFIr",
    "aTSAADIYraQUFraRISHraSHANraTAAFkaMARK INra-ALAFpaOCCLUSIONpaDAGESHlaODIFIER LETTER EPENTHETIC YUTlpARKkaVOWE",
    "L SIGN LONG EvbvaOVERLONG AAvhvcvbOVERLONG vgvbkcMODIFIER LETTER SHORTkiVOWEL SIGNvaLONG UvbkaMODIFIER LETTE",
    "R IkcVOWEL SIGN LONGvbvaOvaSUKUNkaMARK NEQUDAAkiPUNCTUATIONwaAFSAAQxaNGEDwaBAUwcATMAwaSHIYYAALAAkaABBREVIATI",
    "ON MARKkaPUNCTUATION MELODIC QITSAwbZIQAwbQITSwaZAEFwaTURUwbARKAANwaSOF MASHFAATwaANNAAUaaMANDAIC LETTER HAL",
    "QApaABqaGqaDqaHpaUSHENNApaAZpaITpbATqaKSAraqaLqaMqaNqaSpaINpaAPqaSZqaQqaRqaSHqaTpaDUSHENNApaKADpaAINiaAFFRIC",
    "ATION MARKikVOCALIZikGEMINiaPUNCTUATIONaaSYRIAC LETTER MALAYALAM NGAybJybNYybTTybNN!bNybBHybRybLL!bLybSSabAR",
    "ABIC LETTER ALEF WITH ATTACHED FATH+fTOP RIGHT yaRIGHT MIDDLE STROKEypLEFyaATTACHED KASRA+fBOTTOM RIGHT +aRO",
    "UND DOT ABOVE,aIGHT ROUND DOT+lLEF+aROUND DOT BELOWyaDOT ABOVEyjATTACHED TOP RIGHT FATHA AND yoRIGHT MIDDLE ",
    "STROKEyoATTACHED BOTTOM RIGHT KASRA+aTOP RIGHT FATHA AND LEFT RINGyoRIGHT MIDDLE STROKEyoATTACHED BOTTOM RIG",
    "HT KASRA+aRIGHT HAMZA+hLEFhgTATWEEL WITH OVERSTRUCK)aWAWubTWO DOTS BELOhaLETTER THIN YEHhaBASELINE ROUND DOT",
    "hkRAISEDhaLETTER NOON WITH INVERTED SMALL VoaHAH WITH INVERTED SMALL V BELOWogTAH WITH DOTxgTHREE DOTSogKEHE",
    "H WITH TWO DOTS VERTICALLYhaVERTICAL TAILhaPOUND MARK ABOVEilIASTREhaSMALL HIGH WORD AL-JUZnaLOW WORD ISHMAA",
    "MxaMAALAwaTASHEELhaMADDA WAAJIBhaSUPERSCRIPT ALEF MOKHASSAShaDOUBLED MADDAhgHALF MADDA OVERhaLETTER BEH WITH",
    " SMALL V BELOWxaHAMZA ABOVEogJEEM WITH TWO DOTSouTAHolFEH WITH DOT BELOW AND THREEoaQAF WITH DOT BELOWoaLAM ",
    "WITH DOUBLE BARoaMEEM WITH THREE DOTS ABOVEogYEH WITH TWO DOTS BELOW AND HAMZA^gDOToaREH WITH LOOPoaWAW WITH",
    " DOT WITHINoaROHINGYA YEHoaLOW ALEFoaDAL WITH THREE DOTS BELOWowSADoaGAF WITH INVERTED STROKEoaSTRAIGHT WAWo",
    "aZAIN WITH INVERTED V ABOVEoaAIN WITH THREE DOTS BELOWogKAF WITH DOToaQAF WITH DOT BELOW AND NO DOTS ABOVEog",
    "BEH WITH SMALL MEEMoyPogTEH WITH SMALL TEHogREH WITH SMALL NOONorYEH WITH TWO DOTS BELOW ANDoaAFRICAN FEHwaQ",
    "AFwaNOONoaPEH WITH SMALL VopTppTppCHoqKEoaGHAIN WITH THREE DOTS ABOVEowAFRICAN QAFowJEEM.aBELOWoaLAM WITH SM",
    "ALL ARABIC LETTER TAH ABOVEoaGRAFhaSMALL FARSI YEHnjHIGH saYEH BARREE WITH TWO DOTS BELOWsaWORD SAHscZhaLARG",
    "E ROUND DOT ABOVExaBELOWhgSUKUNhgLARGE CIRCLEnmROUND DOT INSIDE hbSMALL LOW WAnaHIGH WORD AR-RUBsaSADsaAINsa",
    "QAFsaNOON WITH KASRAnqLOWnbHIGH WORD ATH-THALATHybS-SAJDyaN-NISFxaSAKTAxaQIFxaWAQFAsaFOOTNOTE MARKERsaSIGN S",
    "AFHAhaDISPUTED END OF AYAHhaTURNED DAMMA BELOWhaCURLY FATHAnbDAMMnbKASRnaFATHATANneDAMMneKASRhaTONE ONE DOT ",
    "ABOVEmgTWO DOTSmgLOOPmaONE DOT BELOWmgTWO DOTSmgLOOPhaOPEN FATHATANmeDAMMmeKASRhaSMALL HIGH WAWhaFATHA WITH ",
    "RINGsaDOT ABOVEhaKASRA WITH DOT BELOWhaLEFT ARROWHEAD ABOVEhrRIGHhaLEFT ARROWHEAD BELOWhrRIGHhaDOUBLE RIGHT ",
    "ARROWHEAD ABOVE.a WITH DOTh(hjDAMMAhaMARK SIDEWAYS NOON GHUNNAaaDEVANAGARI SIGN INVERTED CANDRABINDUqlqaANUS",
    "VARAqbVISARGlbLETTER SHORT sbtaAsaItaIsaUtaUsaVOCALIC R!aLsaCANDRA EscSHORTsbsaAIsaCANDRA OscSHORTsbsaAUsaKA",
    "tbHsbGtbHsbNGsbCtbHsbJtbHsbNYsbTTubHsbDDubHsbNNsbTtbHsbDtbHsbNtbNNsbPtbHsbBtbHsbMsbYsbRtbRsbLtbLubLsbVsbSHtb",
    "StbsbHlaVOWEL SIGN OExbOlaSIGN NUKTAqbAVAGRAHlbVOWEL SIGN AwaIxaIwaUxaUwaVOCALIC R)aRwaCANDRA EwcSHORTwbwaAI",
    "waCANDRA OwcSHORTwbwaAUlaSIGN VIRAMAlaVOWEL SIGN PRISHTHAMATRA EwaAWlaOMlaSTRESS SIGN UDATTAxgANlaGRAVE ACCE",
    "NTliACUTlaVOWEL SIGN CANDRA LONG EwbUxbUlaLETTER QAsbKHHsdGsbZsbDDDHscRsbFsbYYsaVOCALIC RR!aLLlbVOWEL SIGN V",
    "OCALIC )aLlaDANDAmeOUBLE DmaIGIT ZEROraONEraTWOsaHREEraFOURsaIVEraSIXsaEVENraEIGHTraNINElaABBREVIATION SIGNl",
    "aSIGN HIGH SPACING DOTlaLETTER CANDRA AsaOEtbOsaAWsaUEtbUsaMARWARI DDAsbZHsbHEAVY YsbGGsbJJsaGLOTTAL STOPsaD",
    "DDAsbBBaaBENGALI ANJIiaSIGN CANDRABINDUnaANUSVARAnbVISARGibLETTER qaApaIqaIpaUqaUpaVOCALIC RxaLpaEpaAIpaOpaA",
    "UpaKAqbHpbGqbHpbNGpbCqbHpbJqbHpbNYpbTTrbHpbDDrbHpbNNpbTqbHpbDqbHpbNpbPqbHpbBqbHpbMpbYpbRpbLpbSHqbSqbpbHibSIG",
    "N NUKTnbAVAGRAHibVOWEL SIGN AtaIuaItaUuaUtaVOCALIC R%aRtaEtaAItaOtaAUiaSIGN VIRAMAibLETTER KHANDA TiaAU LENG",
    "TH MARKiaLETTER RRAqbHpbYYpaVOCALIC RRxaLLibVOWEL SIGN VOCALIC %aLiaDIGIT ZEROoaONEoaTWOpaHREEoaFOURpaIVEoaS",
    "IXpaEVENoaEIGHToaNINEiaLETTER RA WITH MIDDLE DIAGONALxjLOWERiaRUPEE MARKoaSIGNiaCURRENCY NUMERATOR ONE$aTWO%",
    "aHREE$aFOUR$bONE LESS THAN THE DENOMINATOraDENOMINATOR SIXTEENiaISSHARiaGANDA MARKiaLETTER VEDIC ANUSVARAiaA",
    "BBREVIATION SIGNiaSANDHI MARKaaGURMUKHI SIGN ADAK BINDIofoaVISARGAjbLETTER raAqaIraIqaUraUqaEEqaAIqaOOqaAUqa",
    "KArbHqbGrbHqbNGqbCrbHqbJrbHqbNYqbTTsbHqbDDsbHqbNNqbTrbHqbDrbHqbNqbPrbHqbBrbHqbMqbYqbRqbLrbLqbVqbSHrbqbHjbSIG",
    "N NUKTjbVOWEL SIGN AuaIvaIuaUvaUuaEEuaAIuaOOuaAUjaSIGN VIRAMAoaUDAATjaLETTER KHHAqdGqbZqbRRqbFjaDIGIT ZEROpa",
    "ONEpaTWOqaHREEpaFOURqaIVEpaSIXqaEVENpaEIGHTpaNINEjaTIPPIjaADDAKjaIRIjaURAjaEK ONKARjaSIGN YAKASHjaABBREVIATI",
    "ON SIGNcaJARATI SIGN CANDRABINDUoaANUSVARAobVISARGjbLETTER raAqaIraIqaUraUqaVOCALIC RyaLjaVOWEL CANDRA EjcLE",
    "TTERqaAIjaVOWEL CANDRA OjcLETTERqaAUqaKArbHqbGrbHqbNGqbCrbHqbJrbHqbNYqbTTsbHqbDDsbHqbNNqbTrbHqbDrbHqbNqbPrbH",
    "qbBrbHqbMqbYqbRqbLrbLqbVqbSHrbSrbqbHjbSIGN NUKTobAVAGRAHjbVOWEL SIGN AuaIvaIuaUvaUuaVOCALIC R&aRuaCANDRA Eub",
    "uaAIuaCANDRA OubuaAUjaSIGN VIRAMAjaOMjaLETTER VOCALIC RRyaLLjbVOWEL SIGN VOCALIC &aLjaDIGIT ZEROpaONEpaTWOqa",
    "HREEpaFOURqaIVEpaSIXqaEVENpaEIGHTpaNINEjaABBREVIATION SIGNjfRUPEEjaLETTER ZHAjaSIGN SUKUNpaHADDAoaMADDAHoaTH",
    "REE-DOT NUKTA ABOVEomCIRCLEosTWO-aaORIYA SIGN CANDRABINDUlaANUSVARAlbVISARGgbLETTER oaAnaIoaInaUoaUnaVOCALIC",
    " RvaLnaEnaAInaOnaAUnaKAobHnbGobHnbNGnbCobHnbJobHnbNYnbTTpbHnbDDpbHnbNNnbTobHnbDobHnbNnbPobHnbBobHnbMnbYnbRnb",
    "LobLnbVnbSHobSobnbHgbSIGN NUKTlbAVAGRAHgbVOWEL SIGN AraIsaIraUsaUraVOCALIC R!aRraEraAIraOraAUgaSIGN VIRAMAla",
    "OVERLINEgaAI LENGTH MARKhmUgaLETTER RRAobHnbYYnaVOCALIC RRvaLLgbVOWEL SIGN VOCALIC !aLgaDIGIT ZEROmaONEmaTWO",
    "naHREEmaFOURnaIVEmaSIXnaEVENmaEIGHTmaNINEgaISSHARgaLETTER WAgaFRACTION ONE QUARTERtaHALFpaTHREE QUARTERSpaON",
    "E SIXTEENTHtcEIGHpaTHREE SIXTEENTHSaaTAMIL SIGN ANUSVARAlbVISARGgbLETTER oaAnaIoaInaUoaUnaEoaEnaAInaOoaOnaAU",
    "naKAnbNGnbCnbJnbNYnbTTnbNNnbTnbNobNNnbPnbMnbYnbRobRnbLobLpbLnbVnbSHobSobnbHgbVOWEL SIGN AraIsaIraUsaUraEsaEr",
    "aAIraOsaOraAUgaSIGN VIRAMAgaOMgaAU LENGTH MARKgaDIGIT ZEROmaONEmaTWOnaHREEmaFOURnaIVEmaSIXnaEVENmaEIGHTmaNIN",
    "EgaNUMBER TENnaONE HUNDREDrbTHOUSANgaDAY SIGNgfMONTHgfYEARgfDEBITghCREDgfAS ABOVEggRUPEgfNUMBERbaELUGU SIGN ",
    "COMBINING CANDRABINDU ABOVEnaANDRABINDUmaANUSVARAmbVISARGmaCOMBINING ANUSVARA ABOVEhaLETTER ApaAoaIpaIoaUpaU",
    "oaVOCALIC RwaLoaEpaEoaAIoaOpaOoaAUoaKApbHobGpbHobNGobCpbHobJpbHobNYobTTqbHobDDqbHobNNobTpbHobDpbHobNobPpbHob",
    "BpbHobMobYobRpbRobLpbLqbLobVobSHpbSpbobHhbSIGN NUKTmbAVAGRAHhbVOWEL SIGN AsaItaIsaUtaUsaVOCALIC R$aRsaEtaEsa",
    "AIsaOtaOsaAUhaSIGN VIRAMAhaLENGTH MARKhlAI haLETTER TSAobDZobRRRoaNAKAARA POLLUoaVOCALIC RRwaLLhbVOWEL SIGN ",
    "VOCALIC $aLhaDIGIT ZEROnaONEnaTWOoaHREEnaFOURoaIVEnaSIXoaEVENnaEIGHTnaNINEhaSIGN SIDDHAMhaFRACTION DIGIT ZER",
    "O FOR ODD POWERS OF FOURwxONEwxTWOxxHREEwpONE FOR EVENwyTWOxyHREEhaSIGN TUUMUabKANNADA SIGN SPACING CANDRABI",
    "NDnlnaANUSVARAnbVISARGnaSIDDHAMiaLETTER AqaApaIqaIpaUqaUpaVOCALIC RxaLpaEqaEpaAIpaOqaOpaAUpaKAqbHpbGqbHpbNGp",
    "bCqbHpbJqbHpbNYpbTTrbHpbDDrbHpbNNpbTqbHpbDqbHpbNpbPqbHpbBqbHpbMpbYpbRqbRpbLqbLpbVpbSHqbSqbpbHibSIGN NUKTnbAV",
    "AGRAHibVOWEL SIGN AtaIuaItaUuaUtaVOCALIC R%aRtaEuaEtaAItaOuaOtaAUiaSIGN VIRAMAiaLENGTH MARKilAI iaLETTER NAK",
    "AARA POLLUpaFApaVOCALIC RRxaLLibVOWEL SIGN VOCALIC %aLiaDIGIT ZEROoaONEoaTWOpaHREEoaFOURpaIVEoaSIXpaEVENoaEI",
    "GHToaNINEiaSIGN JIHVAMULIYAndUPADHMANaaMALAYALAM SIGN COMBINING ANUSVARA ABOVEqaANDRABINDUpaANUSVARApbVISARG",
    "kbLETTER VEDIC ANUSVARrbsaAraIsaIraUsaUraVOCALIC RzaLraEsaEraAIraOsaOraAUraKAsbHrbGsbHrbNGrbCsbHrbJsbHrbNYrb",
    "TTtbHrbDDtbHrbNNrbTsbHrbDsbHrbNsbNNrbPsbHrbBsbHrbMrbYrbRsbRrbLsbLtbLrbVrbSHsbSsbrbHrbTTTkbSIGN VERTICAL BAR ",
    "VIRAMpjCIRCULpbAVAGRAHkbVOWEL SIGN AvaIwaIvaUwaUvaVOCALIC R(aRvaEwaEvaAIvaOwaOvaAUkaSIGN VIRAMAkaLETTER DOT ",
    "REPHkaSIGN PARAkaLETTER CHILLU MyaYyaLLLkaAU LENGTH MARKkaFRACTION ONE ONE-HUNDRED-AND-SIXTIETHxfFORtaTHREE ",
    "EIGHTIETHStaONE TWENTIETHycENtaTHREE TWENTIETHStaONE FIFTHkaLETTER ARCHAIC IIraVOCALIC RRzaLLkbVOWEL SIGN VO",
    "CALIC (aLkaDIGIT ZEROqaONEqaTWOraHREEqaFOURraIVEqaSIXraEVENqaEIGHTqaNINEkaNUMBER TENraONE HUNDREDvbTHOUSANka",
    "FRACTION ONE QUARTERxaHALFtaTHREE QUARTERStaONE SIXTEENTHxcEIGHtaTHREE SIXTEENTHSkaDATE MARKkaLETTER CHILLU ",
    "NNzayaRRyaLzaLyaKaaSINHALA SIGN CANDRABINDUnaANUSVARAYAndVISARGibLETTER AYANNqfAqfErfEpfIqfIpfUqfUpgIRsfUqgL",
    "sfUpfEqfEpfAIpfOqfOpfAUqfLPAPRAANA KAppMAHApgALPAPRAANA GppMAHApbKANTAJA NAASIKYAYpbSANYAKA GAYANNpgALPAPRAA",
    "NA CppMAHApgALPAPRAANA JppMAHApbTAALUJA NAASIKYAYxhSANYOOGA NAAKpbSANYAKA JAYANNpgALPAPRAANA TTpqMAHApgALPAP",
    "RAANA DDpqMAHAqgUURDHAJA NpgSANYAKA DDpgALPAPRAANA TppMAHApgALPAPRAANA DppMAHApgDANTAJA NpgSANYAKA DpgALPAPR",
    "AANA PppMAHApgALPAPRAANA BppMAHArfpgAMBA BpgYpgRpgDANTAJA LpgVpgTAALUJA SpkMUURDHAplDANTpgHpgMUURDHAJA LpgFi",
    "cSIGN AL-LAKUibVOWEL SIGN AELA-PILLthKETTI AEDtlDIGAtgKETTI IStjDIGAtgKETTI PAAtkDIGAthGAETTtbKOMBUVthDIGA t",
    "bKOMBU DEKybVA HAA AELA-PILL)kDIGA )bGAYANUKITTtliaLITH DIGIT ZEROtaONEtaTWOuaHREEtaFOURuaIVEtaSIXuaEVENtaEI",
    "GHTtaNINEiaVOWEL SIGN DIGA GAETTA-PILLA!bYANUKITTibPUNCTUATION KUNDDALIYaaTHAI CHARACTER KO KAIqcHO KHvaUATv",
    "aWAIvaONtaRAKHANGpaNGO NGUpaCHO CHANvaINGvcApaSO SOpaCHO CHOEpaYO YINGpaDO CHADApaTO PATAKqaHO THANtaNANGMON",
    "THOtbPHUTHApaNO NENpaDO DEKpaTO TAOqaHO THUNGvaAHANvaONGpaNO NUpaBO BAIMAIpaPO PLAqaHO PHUNGpaFO FApaPHO PHA",
    "NpcFO FpaPHO SAMPHAOpaMO MApaYO YAKpaRO RUAqaUpaLO LINGqaUpaWO WAENpaSO SALAsaRUSIsaSUApaHO HIPpaLO CHULApaO",
    " ANGpaHO NOKHUKpaPAIYANNOIpaSARA ApaMAI HAN-AKATpaSARA AAvaMuaIvaIuaUEwaEvavaUpbPHINTHgaURRENCY SYMBOL BAHTg",
    "aHARACTER SARA EubAuaOuaAI MAIMUAN$aALAIpaLAKKHANGYAOpaMAIYAMOKsaTAIKHUsa EKtaTHOuaRItaCHATTAWApaTHANTHAKHAT",
    "pbNIKHAHIpaYAMAKKANpcFONGMfaDIGIT ZEROlaONElaTWOmaHREElaFOURmaIVElaSIXmaEVENlaEIGHTlaNINEfaCHARACTER ANGKHAN",
    "KHUpaKHOMUTaaLAO LETTER KOmaHO SUNGpaTAMlaPALI GHAlaNGOlbClaPALI CHAlaSO TAMlaPALI JHAlaNYOlaPALI NYAqbTTsbH",
    "qbDDsbHqbNNlaDOlbTmaHO SUNGpaTAMlaPALI DHAlaNOlbBlbPmaHO SUNGlaFO TAMlfPHlaFO SUNGlaPALI BHAlaMOlbYlaLO LING",
    "paOOTlaWOlaSANSKRIT SHAvbSmaO SUNGlgHlaPALI LLAlaOlaHO TAMeaELLIPSISeaVOWEL SIGN ApaMAI KANpaAAqaMpaIqaIpaYq",
    "aYpaUqaUeaSIGN PALI VIRAMAeaVOWEL SIGN MAI KONeaSEMIVOWEL SIGN LOtbNYeaVOWEL SIGN EqaIpaOpaAYqaIeaKO LAeaTON",
    "E MAI EKnaTHOoaInaCATAWAeaCANCELLATION MARKeaNIGGAHITAeaDIGIT ZEROkaONEkaTWOlaHREEkaFOURlaIVEkaSIXlaEVENkaEI",
    "GHTkaNINEeaHO NOhbMebLETTER KHMU GqbNYaaTIBETAN SYLLABLE OMiaMARK GTER YIG MGO TRUNCATED A!b-UM RNAM BCAD M(",
    "dGTER TSHEGndINITIAL YIG MGO MDUNndCLOSING YIG MGO SGABodARET YIG MGO PHUR SHADniYIG MGO TSHEGnaSBRUL SHADna",
    "BSKUR YIG MGOoiKA- SHOGnaINTERSYLLABIC TSHEGnaDELIMITER TSHEG BSTARnaSHADneNYIS nfTSHEGnkNYIS nfRIN CHEN SPU",
    "NGSofGYA GRAMnaCARET -DZUD RTAGS ME LONG CANnaGTER TSHEGiaLOGOTYPE SIGN CHAD RTAGSwgLHAGigASTROLOGICAL SIGN ",
    "SGRA GCAN -CHAR!a-KHYUD PA!aSDONG TSHUGSiaSIGN RDEL DKAR GCIGyaNYISyaSUMsaNAG GCIGxaNYISsaDKAR RDEL NAGiaDIG",
    "IT ZEROoaONEoaTWOpaHREEoaFOURpaIVEoaSIXpaEVENoaEIGHToaNINEocHALF OtaTWOuaHREEtaFOURuaIVEtaSIXuaEVENtaEIGHTta",
    "NINEtaZEROiaMARK BSDUS RTAGSnaNGAS BZUNG NYI ZLAnaCARET -DZUD RTAGS BZHI MIG CANnaNGAS BZUNG SGOR RTAGSnaCHE",
    " MGOnaTSA -PHRUnaGUG RTAGS GYONzaASnaANG KHANG GYONzaASibSIGN YAR TSHEniMiaLETTER KAqbHpbGqbHpbNGpbCqbHpbJpb",
    "NYpbTTrbHpbDDrbHpbNNpbTqbHpbDqbHpbNpbPqbHpbBqbHpbMpbTSrbHpbDZrbHpbWpbZHqbpb-pbYpbRpbLpbSHqbSqbpbHpbpbKSSpbFI",
    "XED-FORM RpbKKpbRRibVOWEL SIGN AtaIuaItaUuaUtaVOCALIC R%aR$aL%aLtaEuaEtaOuaOibSIGN RJES SU NGA RoaNAM BCADia",
    "VOWEL SIGN REVERSED I&aIiaSIGN NYI ZLA NAA DAnaSNA LDANiaMARK HALANTAncPALUiaSIGN LCI RTAGSngYANGnaLCE TSA C",
    "ANneMCHUnaGRU CAN RGYINGSriMEDnaINVERTED MCHU CANjeUBJOINED SIGN LCE TSAxeMCHUxiINVERTED saLETTER KA!bHzbG!b",
    "HzbNGzbC!bHzbJzbNYzbTT$bHzbDD$bHzbNNzbT!bHzbD!bHzbNzbP!bHzbB!bHzbMzbTS$bHzbDZ$bHzbWzbZH!bzb-zbYzbRzbLzbSH!bS",
    "!bzbHzbzbKSSzbFIXED-FORM W:bY:bRibKU RU KHra BZHI MIG CANiaCANTILLATION SIGN HEAVY BEAT!fLIGHT!aCANG TE-U!aS",
    "BUB -CHALiaSYMBOL DRIL BUpaRDO RJEpaPADMA GDANpaRDO RJE RGYA GRAMpaPHUR PApaNOR BUva NYIS -KHYILwhGSUMwhBZHI",
    "jaIGN RDEL NAG RDEL DKARwaGSUMiaMARK BSKA- SHOG GI MGO RGYANnoMNYAM YInaNYIS TSHEGnaINITIAL BRDA RNYING YIG ",
    "MGO MDUN MAndCLOSING BRDA RNYING YIG MGO SGABaaRIGHT-FACING SVASTI SIGNauLEFaaRIGHT-FACING SVASTI SIGN WITH ",
    "DOTSa(LEFabTIBETAN MARK LEADING MCHAN RTAGnpTRAILaaMYANMAR LETTER KAqbHpbGqbHpbNGpbCqbHpbJqbHpbNYqcNpbTTrbHp",
    "bDDrbHpbNNpbTqbHpbDqbHpbNpbPqbHpbBqbHpbMpbYpbRpbLpbWpbSpbHpbLLpbpbSHAN paIqaIpaUqaUpaEpbMON paOpaAUiaVOWEL S",
    "IGN TALL AAtctaIuaItaUuaUtaEtaAItbMON IxaOtaE ABOVEiaSIGN ANUSVARAnaDOT BELOWnaVISARGApbRAMnaASATiaCONSONANT",
    " SIGN MEDIAL YA(bR(bW(bHibLETTER GREAT SiaDIGIT ZEROoaONEoaTWOpaHREEoaFOURpaIVEoaSIXpaEVENoaEIGHToaNINEiaSIG",
    "N LITTLE SECTIONnhjaYMBOL LOCATIVEpaCOMPLETEDpcAFOREMENTIONpaGENITIVEiaLETTER SHAqbSpaVOCALIC RyaRxaLyaLiaVO",
    "WEL SIGN VOCALIC R%aR$aL%aLiaLETTER MON NGAtbJHtbBBvaEiaCONSONANT SIGN MON MEDIAL NA,bM,bLibLETTER SGAW KARE",
    "N SHiaVOWEL SIGN SGAW KAREN EUiaTONE MARK SGAW KAREN HATHI&aKE PHOiaLETTER WESTERN PWO KAREN THA+bPWiaVOWEL ",
    "SIGN WESTERN PWO KAREN EU;aUEiaSIGN WESTERN PWO KAREN TONE-1:a2:a3:a4:a5iaLETTER EASTERN PWO KAREN NNA+bYW+c",
    "GHiaVOWEL SIGN GEBA KAREN ItaKAYAH OEzaUzaEEiaLETTER SHAN KAvbHubGubCubZubNYubDubNubPHubFubBubTHucibCONSONAN",
    "T SIGN SHAN MEDIAL WibVOWEL SIGN SHAN AyaEza ABOVEyaFINAL YiaSIGN SHAN TONE-2xa3xa5xa6saCOUNCIL TONE-2)a3!aE",
    "MPHATIC TONEiaLETTER RUMAI PALAUNG FAiaSIGN RUMAI PALAUNG TONE-5jaHAN DIGIT ZEROtaONEtaTWOuaHREEtaFOURuaIVEt",
    "aSIXuaEVENtaEIGHTtaNINEjaIGN KHAMTI TONE-1za3iaVOWEL SIGN AITON A!aIiaSYMBOL SHAN ONEuaEXCLAMATIONabGEORGIAN",
    " CAPITAL LETTER AycBycGybDOybEybVIybZEybTAybIybKAyaLASyaMANyaNARyaONyaPARycZHyaRAEyaSANyaTARyaUNyaPHARydKyaG",
    "HANyaQARyaSHINydCzbAyaJILycCzaHARyaXANycJHyaHAEzbzbIybWyaHARzaOEyaYNybAEjbLETTER AqcBqcGqbDOqbEqbVIqbZEqbTAq",
    "bIqbKAqaLASqaMANqaNARqaONqaPARqcZHqaRAEqaSANqaTARqaUNqaPHARqdKqaGHANqaQARqaSHINqdCrbAqaJILqcCraHARqaXANqcJHq",
    "aHAErbrbIqbWqaHARraOEqaFIqaYNqaELIFIqaTURNED GANqbAIjaPARAGRAPH SEPARATORabMODIFIER LETTER GEORGIAN NAaaGEOR",
    "GIAN LETTER AENqbHARD SIGqfLABIALaaHANGUL CHOSEONG KIYEOKqgSSANGqaNIEUNqaTIKEUTqgSSANGqaRIEULqaMIEUMqaPIEUPq",
    "fSSANGraIOSrdSANGSqaIEUNGqaCIEUCqfSSANGqaCHIEUCHqbKHIEUKqbTHIEUTqbPHIEUPqbHIEUqaNIEUN-KIYEOKqaSSANGNIEUNqaNI",
    "EUN-TIKEUTwaPIEUPqaTIKEUT-KIYEOKqaRIEUL-NIEUNqaSSANGRIEULqaRIEUL-HIEUHqaKAPYEOUNRIEULqaMIEUM-PIEUPqaKAPYEOUN",
    "MIEUMqaPIEUP-KIYEOKwaNIEUNwaTIKEUTwaSIOS!a-KIYEOK$aTIKEUT$aPIEUPxaSANGSIOSxaIOS-CIEUCwfxaHIEUCHwbTHIEUTwbPHI",
    "EUPqaKAPYEOUNPIEUPyfSSANGqaSIOS-KIYEOKvaNIEUNvaTIKEUTvaRIEULvaMIEUMvaPIEUP!a-KIYEOKvaSSANGSIOSvaIEUNGvaCIEUC",
    "waHIEUCHvbKHIEUKvbTHIEUTvbPHIEUPvbHIEUqaCHITUEUMSIOSzdSANGSreEONGCHIEUM%dSANGSqePANqaIEUNG-KIYEOKwaTIKEUTwaM",
    "IEUMwaPIEUPwaSIOSwePANqaSSANGIEUNGqaIEUNG-CIEUCxaHIEUCHwbTHIEUTwbPHIEUPqaYESIEUNGqfCIEUC-raHITUEUMCIEUCyfSSA",
    "NGrfEONGCHIEUM$fSSANGraHIEUCH-KHIEUKHybHIEUtbTUEUMCHIEUCrkEONGCHIqaPHIEUPH-PIEUPqaKAPYEOUNPHIEUPHqbSSANGHIEU",
    "qfYEORINqaKIYEOK-TIKEUTqaNIEUN-SIOSwaCIEUCwaHIEUHqaTIKEUT-RIEULqaFILLERhmJUNGraAsaEraYAtaEraEOsaraYEOtaraOra",
    "WAtaErbOraYOraUraWEOtasaIraYUrbEraYIrbraA-OtaUraYA-OubYrbEO-uaUubEraYEO-OvaUraO-EOuatbYtaOtaUraYO-YAwaEvaEOu",
    "buaIraU-AuaEtaEO-EUtaYEtaUraYU-AuaEOvauaYEOwauaUuaIraEU-UubErbYI-raI-AtbYtaOtaUtbEtaARAEArfwa-EOxaUxaIraSSAN",
    "GARAEAraA-EUrbYA-saEO-YArevaEiaONGSEONG KIYEOKrgSSANGraKIYEOK-SIOSraNIEUNwa-CIEUCxaHIEUHraTIKEUTraRIEULwa-KI",
    "YEOKxaMIEUMxaPIEUPxaSIOSxaTHIEUTHxbPHIEUPxbHIEUraMIEUMraPIEUPwa-SIOSresdSANGSraIEUNGraCIEUCsaHIEUCHrbKHIEUKr",
    "bTHIEUTrbPHIEUPrbHIEUraKIYEOK-RIEULyaSIOS-KIYEOKrhNIEUNxaTIKEUTxaSIOSxePANxaTHIEUTHraTIKEUT-KIYEOKyaRIEULraR",
    "IEUL-KIYEOK-SIOSxaNIEUNxaTIKEUT&a-HIEUHraSSANGRIEULraRIEUL-MIEUM-KIYEOK&aSIOSxfPIEUP&aHIEUHxaKAPYEOUNPIEUPxa",
    "SSANGSIOSxePANxaKHIEUKHxbYEORINHIEUraMIEUM-KIYEOKxaRIEULxaPIEUPxaSIOSydSANGSxePANxaCHIEUCHxbHIEUraKAPYEOUNMI",
    "EUMraPIEUP-RIEULxaPHIEUPHxbHIEUraKAPYEOUNPIEUPraSIOS-KIYEOKwaTIKEUTwaRIEULwaPIEUPraPANSIOSraIEUNG-KIYEOKxgSS",
    "ANGraSSANGIEUNGraIEUNG-KHIEUKHraYESIEUNGza-SIOS!ePANraPHIEUPH-PIEUPraKAPYEOUNPHIEUPHraHIEUH-NIEUNxaRIEULxaMI",
    "EUMxaPIEUPraYEORINHIEUHraKIYEOK-NIEUNyaPIEUPyaCHIEUCHybKHIEUKybHIEUraSSANGNIEUNaaETHIOPIC SYLLABLE HAtaUtaIt",
    "aAAtaEEuataOuaAsbLtaUtaItaAAtaEEuataOtaWAsbHHuaUuaIuaAAuaEEvauaOuaWAsbMtaUtaItaAAtaEEuataOtaWAsbSZuaUuaIuaAA",
    "uaEEvauaOuaWAsbRtaUtaItaAAtaEEuataOtaWAsbStaUtaItaAAtaEEuataOtaWAtbHuaUuaIuaAAuaEEvauaOuaWAsbQtaUtaItaAAtaEE",
    "uataOuaAtbWuaIuaAAuaEEvataHAuaUuaIuaAAuaEEvauaOuaWAvaIvaAAvaEEwasaBAtaUtaItaAAtaEEuataOtaWAsbVtaUtaItaAAtaEE",
    "uataOtaWAsbTtaUtaItaAAtaEEuataOtaWAsbCtaUtaItaAAtaEEuataOtaWAsbXtaUtaItaAAtaEEuataOuaAtbWuaIuaAAuaEEvasaNAta",
    "UtaItaAAtaEEuataOtaWAtbYuaUuaIuaAAuaEEvauaOuaWAsbGLOTTAL !aU!aI!aAA!aEE$a!aO!aWAsbKtaUtaItaAAtaEEuataOuaAtbW",
    "uaIuaAAuaEEvataXAuaUuaIuaAAuaEEvauaOuaWAvaIvaAAvaEEwasaWAtaUtaItaAAtaEEuataOuaAsbPHARYNGEAL &aU&aI&aAA&aEE(a",
    "&aOsaZAtaUtaItaAAtaEEuataOtaWAtbHuaUuaIuaAAuaEEvauaOuaWAsbYtaUtaItaAAtaEEuataOuaAsbDtaUtaItaAAtaEEuataOtaWAt",
    "bDuaUuaIuaAAuaEEvauaOuaWAsbJtaUtaItaAAtaEEuataOtaWAsbGtaUtaItaAAtaEEuataOuaAtbWuaIuaAAuaEEvataGAuaUuaIuaAAua",
    "EEvauaOuaWAAsbTHuaUuaIuaAAuaEEvauaOuaWAsbCHuaUuaIuaAAuaEEvauaOuaWAsbPHuaUuaIuaAAuaEEvauaOuaWAsbTSuaUuaIuaAAu",
    "aEEvauaOuaWAtbZuaUuaIuaAAuaEEvauaOvaAsbFtaUtaItaAAtaEEuataOtaWAsbPtaUtaItaAAtaEEuataOtaWAsbRYscMscFjaCOMBINI",
    "NG GEMINATION AND VOWEL LENGTH MARKtrtfGEMINATIONjjSECjaWORDSPACEjaFULL STOPjaCOMMAjaSEMICOLONjfjfPREFACE ja",
    "QUESTION MARKjaPARAGRAPH SEPARATORjaDIGIT ONEpaTWOqaHREEpaFOURqaIVEpaSIXqaEVENpaEIGHTpaNINEjaNUMBER TENraWEN",
    "TYrcHIRqdFOrcIFqcSIXrcEVENqcEIGHqcNINEqaHUNDREDqbTEN THOUSANjaSYLLABLE SEBATBEIT MWAsaMWIuaEEvasaSEBATBEIT B",
    "WAsaBWIuaEEvasaSEBATBEIT FWAsaFWIuaEEvasaSEBATBEIT PWAsaPWIuaEEvajaTONAL MARK YIZETucDERuaRIKRIKugSHORT uaDI",
    "FATucKENubCHIREucHIDufDERET-ubKURaaCHEROKEE LETTER AqaEqaIqaOqaUqaVqaGAqbKqaGEraIraOraUraVqaHAraEraIraOraUra",
    "VqaLAraEraIraOraUraVqaMAraEraIraOraUqaNAqcHqaNAHraEraIraOraUraVqaQUAsaEsaIsaOsaUsaVqaSAraraEraIraOraUraVqaDA",
    "qbTqaDEqbTqaDIqbTqaDOraUraVraLAqcTsaEsaIsaOsaUsaVraSAsaEsaIsaOsaUsaVqaWAraEraIraOraUraVqaYAraEraIraOraUraVqb",
    "MjaSMALL LETTER YExaIxaOxaUxaVwbMbaANADIAN SYLLABICS HYPHENtaEtaAAItbuaItaOuaOtcY-CREE taCARRIER EE$aItaAuaA",
    "taWEvaST-CREE WEuaIubEST-CREE WubIucEST-CREE WuaOubEST-CREE WubOucEST-CREE WteNASKAPItaWAubEST-CREE WubAucES",
    "T-CREE WteNASKAPItaAItaY-CREE WtaGLOTTAL STOPtaFINAL ACUTEzbGRAVzaBOTTOM HALF RINGzkTOPzkRIGHT$czaDOUBLE ACU",
    "TE*aSHORT VERTICAL STROKESzaMIDDLE DOTzaSHORT HORIZONTAL STROKEzaPLUSzaDOWN TACKtaENtbItbOtbAtaPEuaAAIubvaIu",
    "aOvaOtdY-CREE taCARRIER HEE%aItaPAvaAuaWEtdWEST-CREE taPWItdWEST-CREE tbPWIteWEST-CREE taPWOtdWEST-CREE tbPW",
    "OteWEST-CREE taPWAtdWEST-CREE tbPWAteWEST-CREE tkYtaPtbWEST-CREE taCARRIER HtaTEuaAAIubvaIuaOvaOtdY-CREE taC",
    "ARRIER DEE%aItaTAvaAuaWEtdWEST-CREE taTWItdWEST-CREE tbTWIteWEST-CREE taTWOtdWEST-CREE tbTWOteWEST-CREE taTW",
    "AtdWEST-CREE tbTWAteWEST-CREE tfNASKAPItaTuaTEvaIvaOvaAtaKEuaAAIubvaIuaOvaOtdY-CREE taKAvaAuaWEtdWEST-CREE t",
    "aKWItdWEST-CREE tbKWIteWEST-CREE taKWOtdWEST-CREE tbKWOteWEST-CREE taKWAtdWEST-CREE tbKWAteWEST-CREE tfNASKA",
    "PItaKuaWtaSOUTH-SLAVEY KEH+bI+bO+bAtaCEuaAAIubvaIuaOvaOtdY-CREE taCAvaAuaWEtdWEST-CREE taCWItdWEST-CREE tbCW",
    "IteWEST-CREE taCWOtdWEST-CREE tbCWOteWEST-CREE taCWAtdWEST-CREE tbCWAteWEST-CREE tfNASKAPItaCtaSAYISI THtaME",
    "uaAAIubvaIuaOvaOtdY-CREE taMAvaAuaWEtdWEST-CREE taMWItdWEST-CREE tbMWIteWEST-CREE taMWOtdWEST-CREE tbMWOteWE",
    "ST-CREE taMWAtdWEST-CREE tbMWAteWEST-CREE tfNASKAPItaMtbWEST-CREE taMHtaATHAPASCAN MtcSAYISItaNEuaAAIubvaIua",
    "OvaOtdY-CREE taNAvaAuaWEtdWEST-CREE taNWAtdWEST-CREE tbNWAteWEST-CREE tfNASKAPIuataCARRIER NGtaNHtaLEuaAAIub",
    "vaIuaOvaOtdY-CREE taLAvaAuaWEtdWEST-CREE taLWItdWEST-CREE tbLWIteWEST-CREE taLWOtdWEST-CREE tbLWOteWEST-CREE",
    " taLWAtdWEST-CREE tbLWAteWEST-CREE taLtbWEST-CREE tcMEDIALtaSEuaAAIubvaIuaOvaOtdY-CREE taSAvaAuaWEtdWEST-CRE",
    "E taSWItdWEST-CREE tbSWIteWEST-CREE taSWOtdWEST-CREE tbSWOteWEST-CREE taSWAtdWEST-CREE tbSWAteWEST-CREE tfNA",
    "SKAPItaStbATHAPASCAN taSWtaBLACKFOOT StaMOOSE-CREE SKtaNASKAPI SKW%b-%aPWA%cT%cK%cCtaSHEvaIwaIvaOwaOvaAwaAva",
    "WEteWEST-CREE taSHWIteWEST-CREE tbSHWItfWEST-CREE taSHWOteWEST-CREE tbSHWOtfWEST-CREE taSHWAteWEST-CREE tbSH",
    "WAtfWEST-CREE taSHtaYEuaAAIubvaIuaOvaOuc-CREE YuaAvaAuaWEtdWEST-CREE taYWItdWEST-CREE tbYWIteWEST-CREE taYWO",
    "tdWEST-CREE tbYWOteWEST-CREE taYWAtdWEST-CREE tbYWAteWEST-CREE tfNASKAPItaYtbBIBLE-CREE thWESTtaSAYISI YItaR",
    "Eub-CREE RtbWEST-CREE LtaRAAIubvaIuaOvaOtbWEST-CREE LtaRAvaAtbWEST-CREE LtbRWAteWEST-CREE taRtbWEST-CREE tcM",
    "EDIALtaFEuaAAIubvaIuaOvaOuaAvaAucWteWEST-CREE taFtaTHEtdN-CREE taTHItdN-CREE tbTHIteN-CREE taTHOwaOvaAwaAvcW",
    "tfWEST-CREE taTHuaTHEwaIwaOwaAwauaYEvaIvaOvaAtaNUNAVIK HE%aI&aI%aO&aO%aA&aA%aycUTtaHKtaQAAIubvaIuaOvaOuaAvaA",
    "uataTLHEwaIwaOwaAtaWEST-CREE RE(aI(aO(aAtaNGAAIvbwaIvaOwaOvaAwaAvaubNtaSAYISI SHE%aI%aO%aAtaWOODS-CREE THE*a",
    "I*aO*aA*ataLHIwaIvaOwaOvaAwaAvataTH-CREE THE&aI(aI&aO(aO&aA(aA&ataAIVILIK BtaBLACKFOOT E&aI&aO&aA&aWE(aI(aO(",
    "aA&aNE(aI(aO(aA&aKE(aI(aO(aAtaSAYISI HE$aI$aO$aAtaCARRIER GHU&aO&aE(aE&aI&aA$aRU%aO%aE&aE%aI%aA$aWU%aO%aE&aE",
    "%aI%aA$aHWU&aO&aE(aE&aI&aA$aTHU&aO&aE(aE&aI&aA%aTU&aO&aE(aE&aI&aA$aPU%aO%aE&aE%aI%aA%a$aGU%aO%aE&aE%aI%aA$aK",
    "HU&aO&aE(aE&aI&aA%aKU&aO&aE(aE&aI&aA&a$aNU%aO%aE&aE%aI%aA$aMU%aO%aE&aE%aI%aA$aYU%aO%aE&aE%aI%aA$aJUtdSAYISIt",
    "aCARRIER JO%aE&aE%aItdSAYISItaCARRIER JA%aJU&aO&aE(aE&aI&aA$aLU%aO%aE&aE%aI%aA$aDLU&aO&aE(aE&aI&aA$aLHU&aO&a",
    "E(aE&aI&aA$aTLHU(aO(aE)aE(aI(aA&aU&aO&aE(aE&aI&aA$aZU%aO%aE&aE%aI%aA%a$bINITIAL $aDZU&aO&aE(aE&aI&aA$aSU%aO%",
    "aE&aE%aI%aA%aHU&aO&aE(aE&aI&aA&a$aTSU&aO&aE(aE&aI&aA$aCHU&aO&aE(aE&aI&aA$aTTSU(aO(aE)aE(aI(aAuaHI SIGNtaFULL",
    " STOPtaQAItcNGubNGxaIwaOxaOwaAxaAtaWOODS-CREE THWEE+aI,aI+aO,aO+aA,aA(aFINAL THtaBLACKFOOT WaaOGHAM SPACE MA",
    "RKgaLETTER BEITHnaLUISnaFEARNnaSAILnaNIONnaUATHnaDAIRnaTINNEnaCOLLoaEIRTnaMUINnaGORTnaNGEADALnaSTRAIFnaRUISn",
    "aAILMnaONNnaURnaEADHADHnfIOneEABnaORnaUILLEANNnbIFInaEAMHANCHOLLnaPEITHgaFEATHER MARKgmREVERSED aaRUNIC LETT",
    "ER FEHU FEOH FE FnaVnaURUZ UR UnaYRoanaWnaTHURISAZ THURS THORNnaETHnaANSUZ AnaOS OnaAC AoaESCnaLONG-BRANCH-O",
    "SS OngSHORT-TWIGnboaEoaNnaRAIDO RAD REID RnaKAUNAnaCENnaKAUN KnaGnbENnbGEBO GYFU oaARnaWUNJO WYNN WnaHAGLAZ ",
    "HpcEGLndLONG-BRANCH-HAGALnjSHORT-TWIGnaNAUDIZ NYD NAUD NngSHORT-TWIG-nbDOTTED-naISAZ IS ISS InaEnaJERAN JnaG",
    "ERnaLONG-BRANCH-AR AEnaSHORT-TWIG-AR AnaIWAZ EOHnaPERTHO PEORTH PnaALGIZ EOLHXnaSOWILO SocIGEL LONG-BRANCH-S",
    "OLogHORT-TWIGnaCnaZnaTIWAZ TIR TYR TnfSHORT-TWIG-naDnaBERKANAN BEORC BJARKAN BnjSHORT-TWIG-naDOTTED-PncOPENn",
    "aEHWAZ EH EnaMANNAZ MAN MncLONG-BRANCH-MADRnhSHORT-TWIGnaLAUKAZ LAGU LOGR LnbDOTTED-naINGWAZqanaDAGAZ DAEG D",
    "naOTHALAN ETHEL OnaEARnbIOnaCWEORTHoaALCodEnaSTANnaLONG-BRANCH-YRndSHORT-TWIGndICELANDICnaQnaXgaSINGLE PUNCT",
    "UATIONgoMULTIPgmCROSSgaARLAUG SYMBOLghTVIMADURgiBELGTHOgaLETTER KnaSHnaOOnaFRANKS CASKET OS$bI$aEH$aAC%bESaa",
    "TAGALOG LETTER ApaIpaUpaKApbGpcNpbTpbDpbNpbPpbBpbMpbYpbRpbLpbWpbSpbHiaVOWEL SIGN ItaUiaSIGN VIRAMAnaPAMUDPOD",
    "iaLETTER ARCHAIC RAabHANUNOO LETTER paIpaUpaKApbGpcNpbTpbDpbNpbPpbBpbMpbYpbRpbLpbWpbSpbHiaVOWEL SIGN ItaUiaS",
    "IGN PAMUDPODaaPHILIPPINE SINGLE PUNCTUATIONloDOUBaaBUHID LETTER AnaInaUnaKAnbGncNnbTnbDnbNnbPnbBnbMnbYnbRnbL",
    "nbWnbSnbHgaVOWEL SIGN IraUaaTAGBANWA LETTER AqaIqaUqaKAqbGqcNqbTqbDqbNqbPqbBqbMqbYqbLqbWqbSjaVOWEL SIGN IuaU",
    "aaKHMER LETTER KAobHoaOobHnbNGnaCAobHoaOobHnbNYnaDAnbTTHnaDOnbTTHnbNNnaTAobHoaOobHnbNnaBAnbPHoaOobHnbMnbYnbR",
    "nbLnbVnaSHAoaSOoaAnbHnbLnbQgaINDEPENDENT VOWEL QAQ!aAzaI!aIzaU!aK!aU$aVyaRY!aYybL!aYyaQEzaAIzaOO TYPE ONE+aT",
    "WOzaAUgaVOWEL INHERENT AQwaAmdSIGNraIsaIraYsaYraUsaUsaAraOEraYAraIErbrbAsaIraOOraAUgaSIGN NIKAHITlaREAHMUKla",
    "YUUKALEAPINTUlaMUUSIKATOANlaTRIISAPlaBANTOClaROBATlcTOANDAKHIlcKAKABlaAHSDAlbSAMYOK SANNYlaVIRIAMlaCOENGlaBA",
    "THAMASATlaKHANlcBARIYOOSlaCAMNUC PII KUUHlaLEK TOOlaBEYYALlaPHNAEK MUANlaKOOMUUTgaCURRENCY SYMBOL RIELgaSIGN",
    " AVAKRAHASANYAmaTTHACANgaDIGIT ZEROmaONEmaTWOnaHREEmaFOURnaIVEmaSIXnaEVENmaEIGHTmaNINEgaSYMBOL LEK ATTAK SON",
    "xaMUOYxaPIIxbBEyaUONxaPRAM$a-MUOY%aPII%bBE&aUONaaMONGOLIAN BIRGAkaELLIPSISkaCOMMAkaFULL STOPkaCOLONkaFOUR DO",
    "TSkaTODO SOFT HYPHENkaSIBE SYLLABLE BOUNDARY MARKERkaMANCHU COMMAraFULL STOPkaNIRUGUkaFREE VARIATION SELECTO",
    "R ONE,aTWO.aHREEkaVOWEL SEPARATORkbFREE VARIATION SELECTOR FOUkaDIGIT ZEROqaONEqaTWOraHREEqaFOURraIVEqaSIXra",
    "EVENqaEIGHTqaNINEkaLETTER AraEraIraOraUraOErbUrbEraNAraANGraBArbPrbQrbGrbMrbLrbSsbHrbTrbDrbCHrbJrbYrbRrbWrbF",
    "rbKsbHrbTSrbZrbHArbZRrbLHraZHIrcCraTODO LONG VOWEL SIGNwaEwaIwaOwaUwaOEwbUwaANGwaBAwbPwbQwbGwbMwbTwbDwbCHwbJ",
    "wbTSwbYwbWwbKwbGAwcHwbJIwcNwbDZraSIBE EwaIxaYwaUExawaANGwaKAwbGwbHwbPwbSHwbTwbDwbJwbFwbGAwcHwbTSwbZwbRAwbCHw",
    "cZraMANCHU IyaKAybRybFybZHraCHA WITH TWO DOTSraALI GALI ANUSVARA ONE!fVISARG!aDAMARU!aUBADAMA!hINVERTED !bBA",
    "LUD!gTHREE !b!aI!aKA!bNG!bC!bTT%bH!bDD!bNN!bT!bD!bP$bH!bSS!bZH$b!aAHraTODO ALI GALI TA)bZHrcMANCHU ALI GALI ",
    "G+bNG+bC+bJH+bTT+bDDH+bT+bDH+bSS+bCY+bZH,braALI GALI HALF U)aYArbMANCHU ALI GALI BHrbALI GALI DAGALGrbMANCHU",
    " ALI GALI LHaaCANADIAN SYLLABICS OYtbAubAtcWtbPOubAubWOtbTAtcKucWtcMtbNOubAtcLtbSOubAubHOvbAvbWOtcYubAtcRtaN",
    "WItdOJIBWAY tbNWIteOJIBWAY taNWOtdOJIBWAY tbNWOteOJIBWAY taRWEEvaIwaIvaOwaOvaAtaOJIBWAY P$aT$aK$aC$aM$aN$aS%",
    "aHtaEASTERN WthWEtaFINAL SMALL RINGzaRAISED DOTtaR-CREE RWEtaWEST-CREE LOO(aAAtaTHWEwaAuaTHWEwaOOwaAAuaLHWEw",
    "aOOtaSAYISI SHWE%aOO!dtaCARRIER GWU$aDENE GEE$aGAA%bWtaSAYISI JUUtaCARRIER JWAtaBEAVER DENE L)aRtaCARRIER DE",
    "NTAL SaaLIMBU VOWEL-CARRIER LETTERgaLETTER KAobHnbGobHnbNGnbCobHnbJobHnaYANnaTAobHnbDobHnbNnbPobHnbBobHnbMnb",
    "YnbRnbLnbWnbSHobSobnbHnaGYANnaTRAgbVOWEL SIGN raIraUraEEraAIraOOraAUraEraOgaSUBJOINED LETTER YAxbRxbWhbMALL ",
    "LETTER KtbNGtbANUSVARtbTtbNtbPtbMtbRtbLhaIGN MUKPHRENGlgKEMlaSA-IlaLOOgaEXCLAMATION MARKgjQUESgaDIGIT ZEROma",
    "ONEmaTWOnaHREEmaFOURnaIVEmaSIXnaEVENmaEIGHTmaNINEaaTAI LE LETTER KAobXobNGobTSocobYobTpbHobLobPpbHobMobFobVo",
    "bHobQobKHocTSobNoboaIoaEEpaHoaUoaOOpaoaUEobobAUpaIoaTONE-2ta3ta4ta5ta6aaNEW TAI LUE LETTER HIGH QAtdLOWtbHIG",
    "H KybXybNGtbLOW KxbXxbNGtbHIGH TSycybYtbLOW TSxcxbYtbHIGH TzbHybNtbLOW TybHxbNtbHIGH PzbHybMtbLOW PybHxbMtbH",
    "IGH FybVybLtbLOW FxbVxbLtbHIGH HybDybBtbLOW HxbDxbBtbHIGH KVycXtcLOW KxcXtbHIGH SUteLOWmaVOWEL SIGN VOWEL SH",
    "ORTENERxaAAxaIIxaUyaUxaExbAxaOyaAxaUExaAYybAxbUxbOybAxbUExbImaLETTER FINAL VzaNG!azaMzaKzaDzaBmaTONE MARK-1w",
    "a2maDIGIT ZEROsaONEsaTWOtaHREEsaFOURtaIVEsaSIXtaEVENsaEIGHTsaNINEmcTHAM DIGIT OmbSIGN LAuaVaaKHMER SYMBOL PA",
    "THAMASATnbMUOY KOEnfPIIngBEofUONnfPRAMrf-MUOYsfPIIsgBEtfUONnfDAPqf-MUOYrfPIIrgBEsfUONrfPRAMnbTUTEYASAnaMUOY ",
    "ROCnePIInfBEoeUONnePRAMre-MUOYsePIIsfBEteUONneDAPqe-MUOYrePIIrfBEseUONrePRAMaaBUGINESE LETTER KAqbGqcNsbKqbP",
    "qbBqbMrbPqbTqbDqbNrbRqbCqbJqbNYsbCqbYqbRqbLqbVqbSqbqbHjaVOWEL SIGN IuaUuaEuaOuaAEjaPALLAWAjaEND OF SECTIONaa",
    "TAI THAM LETTER HIGH KAwbHwbXqbLOW KvbXvbHqbNGqbHIGH CwbHqbLOW CubSubCHqbNYqbRATqbHIGH RATHqbDqbLOW RATHqbRA",
    "NqbHIGH TwbHqbLOW TvbHqbNqbBqbHIGH PwbHvbFqbLOW PubFubPHqbMqbLOW YqdHIGHqbRraUEqaLAraUEqaWAqbHIGH SHwbSwbvbH",
    "qbLLqbqbLOW HqaIraIqaUraUqaEEqaOOqaLAEqaGREAT SAjbCONSONANT SIGN MEDIAL R)bLyaLA TANG LAIjhSIGN MAI KjaCONSO",
    "NANT SIGN FINAL NGAybLOW PygHIGH RATHA OR ybMybBybSjaSIGN SAKOTjaVOWEL SIGN AuaMAI SATuaAAucTALL uaIvaIuaUEv",
    "bUvavaUuaOvaA BELOWvaYuaEubAuaOOuaAIucTHAM uaOA ABOVEjaSIGN MAI KANGoaTONE-1ta2oaKHUEN TONE-3za4za5oaRA HAAM",
    "ocMAI SoaKHUEN-LUE KARANjaCOMBINING CRYPTOGRAMMIC DOTjaHORA DIGIT ZEROuaONEuaTWOvaHREEuaFOURvaIVEuaSIXvaEVEN",
    "uaEIGHTuaNINEjaTHAM DIGIT ZEROuaONEuaTWOvaHREEuaFOURvaIVEuaSIXvaEVENuaEIGHTuaNINEjaSIGN WIANGtaWAAKoaSAWANoa",
    "KEOWoaHOYoaDOKMAIoaREVERSED ROTATED RANAoaMAI YAMOKoaKAANsaKUUoaSATKAANvaKUUoaHANGodCAaaCOMBINING DOUBLED CI",
    "RCUMFLEX ACCENTlaIAERESIS-RINGkaINFINITYkaDOWNWARDS ARROWkaTRIPLE DOTkaX-X BELOWkgWIGGLY LINEkgOPEN MARKkpDO",
    "UBLE kgLIGHT CENTRALIZATION STROKEk%STRONGkaPARENTHESES ABOVEkrDOUBLE kaPARENTHESES BELOWwaOVERLAYkaLATIN SM",
    "ALL LETTER W BELOW&hTURNED laEFT PARENTHESIS ABOVE LEFTkbRIGHT PARENTHESIS ABOVE RIGHkbLEFT PARENTHESIS BELO",
    "W LEFkbRIGHT PARENTHESIS BELOW RIGHkaSQUARE BRACKETS ABOVEkgNUMBER SIGNkgINVERTED DOUBLE ARCHkgPLUS SIGNkpDO",
    "UBLE $aBELOWkaTRIPLE ACUTE ACCENTkaLATIN SMALL LETTER INSULAR G;aR;aTaaBALINESE SIGN ULU RICEMsaCANDRAoaCECE",
    "KoaSURANGoaBISAHjaLETTER AKARAva TEDUNGqaIKARAva TEDUNGqaUKARAva TEDUNGqaRA REPAxa TEDUNGqaLA LENGAya TEDUNG",
    "qaEKARAqeAIqeOva TEDUNGqaKAsa MAHAPRANAqbGsa GORAqbNGqbCsa LACAqbJsa JERAqbNYqaTA LATIKtaMURDA MAHAPRANAqgDA",
    " MURDA ALPzgMAHqaNA RAMBATqaTAsa TAWAqbDsa MADUqaNAqbPsa KAPALqaBAsa KEMBANGqaMAqbYqbRqbLqbWqbSA SAGvbPsaqbH",
    "jaSIGN REREKANjaVOWEL SIGN TEDUNGuaULUxa SARIuaSUKUya ILUTuaRA REPA$a TEDUNGuaLA LENGA%a TEDUNGucTALI!a REPA",
    "$aTEDUNG$gREPA uaPEPETza TEDUNGjbADEG ADEjaLETTER KAF SASAKrgHOTqgTZIRqgEFqgVEqgZALqgASYURAraRCHAIC JNYAjaDI",
    "GIT ZEROpaONEpaTWOqaHREEpaFOURqaIVEpaSIXqaEVENpaEIGHTpaNINEjaPANTIlaMADAjaWINDUjaCARIK PAMUNGKAHpaSIKIpaPARE",
    "RENjaPAMENENGjcMUSICAL SYMBOL DOzcEzcUzcA%a SURANGzcIzcAEzcEUzcAI!aNG GEDEyaCOMBINING TEGEH,aENDEP,aKEMPUL<a",
    "LI,aJEGOGAN,hKEMPUL WITH <nLI,aBENDE,aGONGybRIGHT-HAND OPEN DU?bA.aCLOSED TUK_bAyaLEFT-HAND OPEN PANG>cU,aCL",
    "OSED PLAK_bU,aOPEN PINGjcPANTI LANTAliMADAaaSUNDANESE SIGN PANYECEKsaGLAYARtaWISADkaLETTER AraIraUraAEraOraE",
    "saUraKArbQrbGrcNrbCrbJrbZrbNYrbTrbDrbNrbPrbFrbVrbBrbMrbYrbRrbLrbWrbSrbXrbHkaCONSONANT SIGN PAMINGKAL$aNYAKRA",
    "&aIKUkbVOWEL SIGN PANGHULybYUKyaAELAENGycOLOxaMEPETxaNEULEUNGkaSIGN PAMAAEHpaVIRAMAkcCONSONANT SIGN PASANGAN",
    " ,bWkbLETTER KHrbSYkaDIGIT ZEROqaONEqaTWOraHREEqaFOURraIVEqaSIXraEVENqaEIGHTqaNINEkaAVAGRAHAkaLETTER REUrcLr",
    "aBHAraFINAL KxaMaaBATAK LETTER AnbSIMALUNGUN nbHncSIMALUNGUN ndMANDAILINGnbBncKARO nbPncSIMALUNGUN nbNncMAND",
    "AILING nbWncSIMALUNGUN ndPAKPAKnbGncSIMALUNGUN nbJnbDnbRncSIMALUNGUN nbMncSIMALUNGUN obOUTHERN TniNORnbSobIM",
    "ALUNGUN SndMANDAILINGnbYncSIMALUNGUN nbNGnbLncSIMALUNGUN nbNYnbCnbNDnbMBnaInaUgaSIGN TOMPIgaVOWEL SIGN ErbPA",
    "KPAK rbEraIrbKARO raOrbKARO raUsa FOR SIMALUNGUN SAgaCONSONANT SIGN NGvaHgaPANGOLATjaONGONANgaSYMBOL BINDU N",
    "A METEKtaPINARBORAStaJUDULtaPANGOLATaaLEPCHA LETTER KApbLpbHobGpbLobNGobCpbHobJobNYobTpbHobDobNobPpbLpbHobFp",
    "bLobBpbLobMpbLobTSqbHobDZobYobRobLobHpbLobVobSpbHobWobhbSUBJOINED LETTER YybRhbVOWEL SIGN AsaIsaOtaOsaUtaUsa",
    "EhaCONSONANT SIGN KwaMwaLwaNwaPwaRwaTwaNYIN-DOwaKANGhaSIGN RANmaNUKTAhaPUNCTUATION TA-ROLtgNYET THYOOM taCER",
    "-WAtgTSHOOK zahaDIGIT ZEROnaONEnaTWOoaHREEnaFOURoaIVEnaSIXoaEVENnaEIGHTnaNINEhaLETTER TTAqbHobDDaaOL CHIKI D",
    "IGIT ZEROpaONEpaTWOqaHREEpaFOURqaIVEpaSIXqaEVENpaEIGHTpaNINEjaLETTER LAqaATraGrbNraLqaLAAqaAAKsaJsaMsaWqaLIq",
    "aISraHraNYraRqaLUqaUCraDraNNraYqaLEqaEPraDDraNraRRqaLOqaOTTraBraVraHjaMU TTUDDAGjcGAAHLAA TTUDDAjqMU-jaRELAA",
    "jcPHAARKjaAHADjcPUNCTUATION MUCAvgDOUBLE aaCYRILLIC SMALL LETTER ROUNDED VEwbLONG-LEGGED DwaNARROW OwaWIDE E",
    "SwaTALL TExdHREE-LEGGEDxaALL HARD SIGN$aYATwaUNBLENDED UKaaGEORGIAN MTAVRULI CAPITAL LETTER AN+cB+cG+bDO+bE+",
    "bVI+bZE+bTA+bI+bKA+aLAS+aMAN+aNAR+aON+aPAR+cZH+aRAE+aSAN+aTAR+aUN+aPHAR+dK+aGHAN+aQAR+aSHIN+dC,bA+aJIL+cC,aH",
    "AR+aXAN+cJH+aHAE,b,bI+bW+aHAR,aOE+aFI+aYN+aELIFI+aTURNED GAN+bAI,bE+bHARD SIG+fLABIALaaSUNDANESE PUNCTUATION",
    " BINDU SURYA%aPANGLONG&aURNAMA%bCAKR%bLEU SATANG%iKA%jD%jBabVEDIC TONE KARSHANlbSHARlbPRENKHgbSIGN NIHSHVASl",
    "bYAJURVEDIC MIDLINE SVARITgiTONE YAJURVEDIC AGGRAVATED INDEPENDENTwtwtKATHAKA laCANDRA BELOWlaYAJURVEDIC KAT",
    "HAKA INDEPENDENT SVARITA SCHROEDERlaDOUBLE SVARITAlkTRIPlcKATHAKA ANUDATlaDOT BELOWlgTWO DOTSmlHREElaRIGVEDI",
    "C KASHMIRI INDEPENDENT SVARITAluATHARVAVEDICgiSIGN VISARGAtcUDATloREVERSED lgVISARGA ANlqREVERSED laVISARGA ",
    "UDATTA WITH TAILtqANlaANUSVARA ANTARGOMUKHAuiBAHIuhVAMA)a WITH TAILlaTIRYAKlaHEXIFORM LONG ANUSVARAlnlnRTHAN",
    "G lbANUSVARA UBHAYATO MUKHmbRDHAVISARGlmROTATED gaTONE CANDRA ABOVEgaSIGN JIHVAMULIYAldUPADHMANlbATIKRAMgaTO",
    "NE RING ABOVElkDOUBLE gaSIGN DOUBLE ANUSVARA ANTARGOMUKHAabLATIN LETTER SMALL CAPITAL %aEgdSMALL LETTER TURN",
    "EDgaLETTER SMALL CAPITAL BARRED B$aC$aD$aETH%agcSMALL LETTER TURNED OPEN!aIgaLETTER SMALL CAPITAL J$aK$aL WI",
    "TH STROKE$aM$aREVERSED N$aO%aPEN OgcSMALL LETTER SIDEWAYS&aPEN O&a WITH STROKEtbTURNED OgaLETTER SMALL CAPIT",
    "AL OUgaSMALL LETTER TOP HALF OthBOTTOMgaLETTER SMALL CAPITAL P$aREVERSED R$eTURN%a$aUgcSMALL LETTER SIDEWAYS",
    "%bDIAERESIZED %aTURNED MgaLETTER SMALL CAPITAL V$aW$aZ$aEZHnaVOICED LARYNGEAL SPIRANTnaAINaaGREEK LETTER SMA",
    "LL CAPITAL GAMMA$bLAMD$aPI$aRHO$aPSIaaCYRILLIC LETTER SMALL CAPITAL ELaaMODIFIER LETTER CAPITAL AzaEyaBzaARR",
    "ED ByaDyaEybREVERSED yaGyaHyaIyaJyaKyaLyaMyaNybREVERSED yaOzaUyaPyaRyaTyaUyaWqaSMALL AwbTURNED wbALPHwaTURNE",
    "D AEwaBwaDwaEwaSCHWAwaOPEN EwgTURNED waGwaTURNED IwaKwaMwaENGwaOxaPEN OwcTOP HALFwhBOTTOMwaPwaTwaUwbSIDEWAYS",
    " waTURNED MwaVwaAINwaBETAwbGREEK GAMMwbDELTwaGREEK PHIwcCabLATIN SUBSCRIPT SMALL LETTER &aR&aU&aVaaGREEK SUB",
    "SCRIPT SMALL LETTER BETA&bGAMM&aRHO&aPHI&cCaaLATIN SMALL LETTER UEtbB WITH MIDDLE TILDtsDtsFtsMtsNtsPtsR!mFI",
    "SHHOOK AND tnS WITHtsTtsZtaTURNED GaaMODIFIER LETTER CYRILLIC ENaaLATIN SMALL LETTER INSULAR GtaTH WITH STRI",
    "KETHROUGHmaCAPITAL LETTER I WITH STROKEmmLETTER IOTAtmPmmCAPITAL LETTER UmmLETTER UPSILONtaB WITH PALATAL HO",
    "OKtsDtsFtsGtsKtsLtsMtsNtsPtsRtsStsESHtsVtsXtsZtfA WITH RETROFLEXuuLPHAtaD WITH HOOK AND TAILtaE WITH RETROFL",
    "EX HOOKtvOPEN t!REVERSED tuSCHWAtuItuOPEN OtuESHtuUtuEZHaaMODIFIER LETTER SMALL TURNED ALPHAwaCxa WITH CURLw",
    "aETHwaREVERSED OPEN EwaFwaDOTLESS J WITH STROKEwaSCRIPT GwaTURNED HwaI WITH STROKExaOTAwaCAPITAL I)a WITH ST",
    "ROKEwaJ WITH CROSSED-TAILwaL WITH RETROFLEX HOOK&fPALATALwaCAPITAL LwaM WITH HOOKwaTURNED M WITH LONG LEGwaN",
    " WITH LEFT HOOK&fRETROFLEXwaCAPITAL NwaBARRED OwaPHIwaS WITH HOOKwaESHwaT WITH PALATAL HOOKwaU BARxaPSILONwa",
    "CAPITAL UwaV WITH HOOKwaTURNED VwaZxa WITH RETROFLEX HOOK&aCURLwaEZHwaTHETAaaCOMBINING DOTTED GRAVE ACCENTri",
    "ACUTkaSNAKE BELOWlaUSPENSION MARKkaMACRON-ACUTEkaGRAVE-MACRONkaMACRON-GRAVEkaACUTE-MACRONkaGRAVE-ACUTE-GRAVE",
    "kbACUTE-GRAVE-ACUTkaLATIN SMALL LETTER R BELOWkaBREVE-MACRONkaMACRON-BREVEkcDOUBLE CIRCUMFLEX ABOkgOGONEKkaZ",
    "IGZAG BELOWkgISkaUR ABOVElgSkgLATIN SMALL LETTER FLATTENED OPEN A&bA(aO(aV&aC CEDILLA&aINSULAR D&aETH&aGqcLE",
    "TTER SMALL CAPITALqaSMALL LETTER K&aLqcLETTER SMALL CAPITAL;aMqaSMALL LETTER NqcLETTER SMALL CAPITAL;aRqaSMA",
    "LL LETTER R ROTUNDA&aS&bLONG &aZ&aALPHA&aB(aETA&bSCHW&aF&aL WITH DOUBLE MIDDLE TILDE&bO WITH LIGHT CENTRALIZ",
    "ATION STROK&aP&aESH&aU WITH LIGHT CENTRALIZATION STROKE&aW&aA WITH DIAERESIS&pO&pUkaUP TACK ABOVEkaKAVYKA AB",
    "OVE RIGHTxbLEFklDOTkaWIDE INVERTED BRIDGE BELOWkaDOT BELOW LEFTlaELETION MARKlaOUBLE INVERTED BREVE BELOWkgA",
    "LMOST EQUAL TOkaLEFT ARROWHEAD ABOVEkaRIGHT ARROWHEAD AND DOWN ARROWHEAD BELOWagLATIN CAPITAL LETTER A WITH ",
    "RINGg!SMALgaCAPITAL LETTER B WITH DOT ABOVEgzSMALgaCAPITAL LETTER B WITH DOT BELOWgzSMALggCAPITAL LETTER B W",
    "ITH LINEg!SMALgaCAPITAL LETTER C WITH CEDILLA AND ACUTEg+SMALgbCAPITAL LETTER D WITH DOT ABOVgzSMALgaCAPITAL",
    " LETTER D WITH DOT BELOWgzSMALggCAPITAL LETTER D WITH LINEg!SMALgaCAPITAL LETTER D WITH CEDILLAgxSMALgaCAPIT",
    "AL LETTER D WITH CIRCUMFLEX BELOWg*SMALgaCAPITAL LETTER E WITH MACRON AND GRAVEg*SMALgbCAPITAL LETTER E WITH",
    " MACRON AND ACUTg*SMALgaCAPITAL LETTER E WITH CIRCUMFLEX BELOWg*SMALggCAPITAL LETTER E WITH TILDEg$SMALgaCAP",
    "ITAL LETTER E WITH CEDILLA AND BREVEg+SMALgcCAPITAL LETTER F WITH DOT ABOgzSMALgaCAPITAL LETTER G WITH MACRO",
    "NgwSMALgaCAPITAL LETTER H WITH DOT ABOVEgzSMALgaCAPITAL LETTER H WITH DOT BELOWgzSMALgaCAPITAL LETTER H WITH",
    " DIAERESISgzSMALgaCAPITAL LETTER H WITH CEDILLAgxSMALgaCAPITAL LETTER H WITH BREVE BELOWg$SMALghCAPITAL LETT",
    "ER I WITH TILDg$SMALgaCAPITAL LETTER I WITH DIAERESIS AND ACUTEg.SMALggCAPITAL LETTER K WITHgvSMALgaCAPITAL ",
    "LETTER K WITH DOT BELOWgzSMALggCAPITAL LETTER K WITH LINEg!SMALggCAPITAL LETTER L WITH DOTgzSMALgaCAPITAL LE",
    "TTER L WITH DOT BELOW AND MACRONg:SMALgaCAPITAL LETTER L WITH LINE BELOWg!SMALggCAPITAL LETTER L WITH CIRCUM",
    "FLEXg*SMALgaCAPITAL LETTER M WITH ACUTEgvSMALgbCAPITAL LETTER M WITH DOT ABOVgzSMALgaCAPITAL LETTER M WITH D",
    "OT BELOWgzSMALgaCAPITAL LETTER N WITH DOT ABOVEgzSMALgaCAPITAL LETTER N WITH DOT BELOWgzSMALggCAPITAL LETTER",
    " N WITH LINEg!SMALggCAPITAL LETTER N WITH CIRCUMFLEXg*SMALgaCAPITAL LETTER O WITH TILDE AND ACUTEg)SMALgaCAP",
    "ITAL LETTER O WITH TILDE AND DIAERESISg.SMALgaCAPITAL LETTER O WITH MACRON AND GRAVEg*SMALgbCAPITAL LETTER O",
    " WITH MACRON AND ACUTg*SMALggCAPITAL LETTER P WITHgvSMALgbCAPITAL LETTER P WITH DOT ABOVgzSMALgpCAPITAL LETT",
    "ER RgzSMALgaCAPITAL LETTER R WITH DOT BELOWgzSMALgaCAPITAL LETTER R WITH DOT BELOW AND MACRONg:SMALgaCAPITAL",
    " LETTER R WITH LINE BELOWg!SMALgaCAPITAL LETTER S WITH DOT ABOVEgzSMALgaCAPITAL LETTER S WITH DOT BELOWgzSMA",
    "LgaCAPITAL LETTER S WITH ACUTE AND DOT ABOVEg.SMALgoCAPITAL LETTER S WITH CARONg.SMALgoCAPITAL LETTER S WITH",
    " DOT BELOWg=SMALgkCAPITAL LETTER T WITHgzSMALgaCAPITAL LETTER T WITH DOT BELOWgzSMALggCAPITAL LETTER T WITH ",
    "LINEg!SMALggCAPITAL LETTER T WITH CIRCUMFLEXg*SMALggCAPITAL LETTER U WITH DIAERESISg)SMALggCAPITAL LETTER U ",
    "WITH TILDEg$SMALggCAPITAL LETTER U WITH CIRCUMFLEXg*SMALgaCAPITAL LETTER U WITH TILDE AND ACUTEg)SMALgaCAPIT",
    "AL LETTER U WITH MACRON AND DIAERESISg:SMALgaCAPITAL LETTER V WITH TILDEgvSMALgaCAPITAL LETTER V WITH DOT BE",
    "LOWgzSMALgaCAPITAL LETTER W WITH GRAVEgvSMALgbCAPITAL LETTER W WITH ACUTgvSMALgaCAPITAL LETTER W WITH DIAERE",
    "SISgzSMALgaCAPITAL LETTER W WITH DOT ABOVEgzSMALgaCAPITAL LETTER W WITH DOT BELOWgzSMALgaCAPITAL LETTER X WI",
    "TH DOT ABOVEgzSMALgaCAPITAL LETTER X WITH DIAERESISgzSMALgaCAPITAL LETTER Y WITH DOT ABOVEgzSMALgaCAPITAL LE",
    "TTER Z WITH CIRCUMFLEXg!SMALgaCAPITAL LETTER Z WITH DOT BELOWgzSMALggCAPITAL LETTER Z WITH LINEg!SMALtqHtaT ",
    "WITH DIAERESIStaW WITH RING ABOVEtqYtaA WITH RIGHT HALF RINGtaLONG S WITH DOT ABOVE*bIAGONAL STROK)hHIGHgaCA",
    "PITAL LETTER SHARP SgaSMALL LETTER DELTAgaCAPITAL LETTER A WITH DOT BELOWgzSMALgaCAPITAL LETTER A WITH HOOK ",
    "ABOVEg!SMALgbCAPITAL LETTER A WITH CIRCUMFLEX AND ACUTg:SMALgbCAPITAL LETTER A WITH CIRCUMFLEX AND GRAVg:SMA",
    "LgcCAPITAL LETTER A WITH CIRCUMFLEX AND HOOK ABOg?SMALgbCAPITAL LETTER A WITH CIRCUMFLEX AND TILDg:SMALgaCAP",
    "ITAL LETTER A WITH CIRCUMFLEX AND DOT BELOWg>SMALgaCAPITAL LETTER A WITH BREVE AND ACUTEg)SMALgbCAPITAL LETT",
    "ER A WITH BREVE AND GRAVg)SMALgcCAPITAL LETTER A WITH BREVE AND HOOK ABOg:SMALgbCAPITAL LETTER A WITH BREVE ",
    "AND TILDg)SMALgaCAPITAL LETTER A WITH BREVE AND DOT BELOWg.SMALgkCAPITAL LETTER E WITHgzSMALgaCAPITAL LETTER",
    " E WITH HOOK ABOVEg!SMALgbCAPITAL LETTER E WITH TILDgvSMALgbCAPITAL LETTER E WITH CIRCUMFLEX AND ACUTg:SMALg",
    "bCAPITAL LETTER E WITH CIRCUMFLEX AND GRAVg:SMALgcCAPITAL LETTER E WITH CIRCUMFLEX AND HOOK ABOg?SMALgbCAPIT",
    "AL LETTER E WITH CIRCUMFLEX AND TILDg:SMALgaCAPITAL LETTER E WITH CIRCUMFLEX AND DOT BELOWg>SMALgaCAPITAL LE",
    "TTER I WITH HOOK ABOVEg!SMALgaCAPITAL LETTER I WITH DOT BELOWgzSMALgpCAPITAL LETTER OgzSMALgaCAPITAL LETTER ",
    "O WITH HOOK ABOVEg!SMALgbCAPITAL LETTER O WITH CIRCUMFLEX AND ACUTg:SMALgbCAPITAL LETTER O WITH CIRCUMFLEX A",
    "ND GRAVg:SMALgcCAPITAL LETTER O WITH CIRCUMFLEX AND HOOK ABOg?SMALgbCAPITAL LETTER O WITH CIRCUMFLEX AND TIL",
    "Dg:SMALgaCAPITAL LETTER O WITH CIRCUMFLEX AND DOT BELOWg>SMALgaCAPITAL LETTER O WITH HORN AND ACUTEg(SMALgbC",
    "APITAL LETTER O WITH HORN AND GRAVg(SMALgcCAPITAL LETTER O WITH HORN AND HOOK ABOg.SMALgbCAPITAL LETTER O WI",
    "TH HORN AND TILDg(SMALgaCAPITAL LETTER O WITH HORN AND DOT BELOWg,SMALgkCAPITAL LETTER U WITHgzSMALgaCAPITAL",
    " LETTER U WITH HOOK ABOVEg!SMALgbCAPITAL LETTER U WITH HORN AND ACUTg(SMALgbCAPITAL LETTER U WITH HORN AND G",
    "RAVg(SMALgcCAPITAL LETTER U WITH HORN AND HOOK ABOg.SMALgbCAPITAL LETTER U WITH HORN AND TILDg(SMALgaCAPITAL",
    " LETTER U WITH HORN AND DOT BELOWg,SMALgaCAPITAL LETTER Y WITH GRAVEgvSMALgaCAPITAL LETTER Y WITH DOT BELOWg",
    "zSMALgaCAPITAL LETTER Y WITH HOOK ABOVEg!SMALgbCAPITAL LETTER Y WITH TILDgvSMALgaCAPITAL LETTER MIDDLE-WELSH",
    " LLgySMALgaCAPITAL LETTER MIDDLE-WELSH VgxSMALgaCAPITAL LETTER Y WITH LOOPguSMALaaGREEK SMALL LETTER ALPHA W",
    "ITH PSILI(aDASIA(cPSILI AND VAR(kDASIA(cPSILI AND OX(jDASIA(aPSILI AND PERISPOMENI(qDASIAgbCAPITAL LETTER AL",
    "PHA WITH PSIL*aDASIA*cPSILI AND VAR*kDASIA*cPSILI AND OX*jDASIA*aPSILI AND PERISPOMENI*qDASIAgbSMALL LETTER ",
    "EPSILON WITH PSIL*aDASIA*cPSILI AND VAR*kDASIA*cPSILI AND OX*jDASIAgaCAPITAL LETTER EPSILON WITH PSILI,aDASI",
    "A,cPSILI AND VAR,kDASIA,cPSILI AND OX,jDASIAgaSMALL LETTER ETA WITH PSILI%aDASIA%cPSILI AND VAR%kDASIA%cPSIL",
    "I AND OX%jDASIA%aPSILI AND PERISPOMENI%qDASIAgbCAPITAL LETTER ETA WITH PSIL(aDASIA(cPSILI AND VAR(kDASIA(cPS",
    "ILI AND OX(jDASIA(aPSILI AND PERISPOMENI(qDASIAgbSMALL LETTER IOTA WITH PSIL&aDASIA&cPSILI AND VAR&kDASIA&cP",
    "SILI AND OX&jDASIA&aPSILI AND PERISPOMENI&qDASIAgbCAPITAL LETTER IOTA WITH PSIL)aDASIA)cPSILI AND VAR)kDASIA",
    ")cPSILI AND OX)jDASIA)aPSILI AND PERISPOMENI)qDASIAgbSMALL LETTER OMICRON WITH PSIL*aDASIA*cPSILI AND VAR*kD",
    "ASIA*cPSILI AND OX*jDASIAgaCAPITAL LETTER OMICRON WITH PSILI,aDASIA,cPSILI AND VAR,kDASIA,cPSILI AND OX,jDAS",
    "IAgaSMALL LETTER UPSILON WITH PSILI*aDASIA*cPSILI AND VAR*kDASIA*cPSILI AND OX*jDASIA*aPSILI AND PERISPOMENI",
    "*qDASIAgaCAPITAL LETTER UPSILON WITH DASIA=a AND VARIA|cOX|aPERISPOMENIgbSMALL LETTER OMEGA WITH PSIL(aDASIA",
    "(cPSILI AND VAR(kDASIA(cPSILI AND OX(jDASIA(aPSILI AND PERISPOMENI(qDASIAgbCAPITAL LETTER OMEGA WITH PSIL*aD",
    "ASIA*cPSILI AND VAR*kDASIA*cPSILI AND OX*jDASIA*aPSILI AND PERISPOMENI*qDASIAgaSMALL LETTER ALPHA WITH VARIA",
    "(cOXtcEPSILON WITH VAR*cOXucTA WITH VAR%cOXtcIOTA WITH VAR&cOXtcOMICRON WITH VAR*cOXtcUPSILON WITH VAR*cOXtc",
    "OMEGA WITH VAR(cOXtaALPHA WITH PSILI AND YPOGEGRAMMENI(sDASIA(uPSILI AND VAR(%DASIA(uPSILI AND OX($DASIA(sPS",
    "ILI AND PERISPOMENI(,DASIAgkCAPITAL LETTER ALPHA WITH PSILI AND PROS*tDASIA*vPSILI AND VAR*&DASIA*vPSILI AND",
    " OX*%DASIA*tPSILI AND PERISPOMENI*.DASIAgkSMALL LETTER ETA WITH PSILI AND YPO%sDASIA%uPSILI AND VAR%%DASIA%u",
    "PSILI AND OX%$DASIA%sPSILI AND PERISPOMENI%,DASIAgkCAPITAL LETTER ETA WITH PSILI AND PROS(tDASIA(vPSILI AND ",
    "VAR(&DASIA(vPSILI AND OX(%DASIA(tPSILI AND PERISPOMENI(.DASIAgkSMALL LETTER OMEGA WITH PSILI AND YPO(sDASIA(",
    "uPSILI AND VAR(%DASIA(uPSILI AND OX($DASIA(sPSILI AND PERISPOMENI(,DASIAgkCAPITAL LETTER OMEGA WITH PSILI AN",
    "D PROS*tDASIA*vPSILI AND VAR*&DASIA*vPSILI AND OX*%DASIA*tPSILI AND PERISPOMENI*.DASIAgaSMALL LETTER ALPHA W",
    "ITH VRACHY(aMACRON(aVARIA AND YPOGEGRAMMENI(n(nOXIA AND (ePERISPO?a AND YPOGEGRAMMENIgaCAPITAL LETTER ALPHA ",
    "WITH VRACHY*aMACRON*aVARIA*cOX*aPROSGEGRAMMENIgaKORONISgaPROSGEGRAMMENIhbSILhbERISPOMENglDIALYTIKA AND geSMA",
    "LL LETTER ETA WITH VARIA AND YPOGEGRAM%n%nOXIA AND %ePERISPO=a AND YPOGEGRAMMENIgaCAPITAL LETTER EPSILON WIT",
    "H VARIA,cOXwcTA WITH VAR(cOX(aPROSGEGRAMMENIgaPSILI AND VARIAqcOXqaPERISPOMENIgaSMALL LETTER IOTA WITH VRACH",
    "Y&aMACRON&aDIALYTIKA AND VARIA_cOX&aPERISPOMENI&lDIALYTIKA AND gaCAPITAL LETTER IOTA WITH VRACHY)aMACRON)aVA",
    "RIA)cOXgcDASIA AND VARqcOXqaPERISPOMENIgaSMALL LETTER UPSILON WITH VRACHY*aMACRON*aDIALYTIKA AND VARIA~c OXt",
    "aRHO WITH PSILI%aDASIAtaUPSILON WITH PERISPOMENI*lDIALYTIKA AND gaCAPITAL LETTER UPSILON WITH VRACHY,aMACRON",
    ",aVARIA,cOXvcRHO WITH DASgcDIALYTIKA AND VARucOXgcVARgaSMALL LETTER OMEGA WITH VARIA AND YPOGEGRAMMENI(n(nOX",
    "IA AND (ePERISPO?a AND YPOGEGRAMMENIgaCAPITAL LETTER OMICRON WITH VARIA,cOXxcEGA WITH VAR*cOX*aPROSGEGRAMMEN",
    "IgaOXIAgcDAS"]⟩

end StateMachine.Text
