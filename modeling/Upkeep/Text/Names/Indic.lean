import Upkeep.Text.Names.Packed

/-!
Names of characters: the scripts of South and Southeast Asia.
-/
namespace Upkeep.Text.Names

def indic : List Run :=
  [⟨0x900, [
      "aDEVyAGsI SIGN vVzTED CyDRABvDUcCyDRABvDUcyUSVsAcVISsGAbuTTz SHORT AcAcAAcIcIIcUcUUcVOCrIC",
      " RdLcCyDRA EcSHORT EcEcAIcCyDRA OcSHORT OcOcAUcKAcKHAcGAcGHAcNGAcCAcCHAcJAcJHAcNYAcTTAcTTH",
      "AcDDAcDDHAcNNAcTAcTHAcDAcDHAcNAcNNNAcPAcPHAcBAcBHAcMAcYAcRAcRRAcLAcLLAcLLLAcVAcSHAcSSAcSAc",
      "HAbVOWEL SIGN OEdOOEbSIGN NUKTAcAVAGRAHAbVOWEL SIGN AAdIdIIdUdUUdVOCrIC ReRRdCyDRA EdSHORT",
      " EdEdAIdCyDRA OdSHORT OdOdAUbSIGN VIRAMAbVOWEL SIGN PRISHTHAMATRA EdAWbOMbSTRESS SIGN UDAT",
      "TAdyUDATTAbGRAVE ACCENTbACUTE ACCENTbVOWEL SIGN CyDRA LONG EdUEdUUEbuTTz QAcKHHAcGHHAcZAcD",
      "DDHAcRHAcFAcYYAcVOCrIC RRdLLbVOWEL SIGN VOCrIC LeLLbDyDAbDOUBu DyDAbDIGIT ZzOcONEcTWOcTHRE",
      "EcFOURcFIVEcSIXcSEVENcEtcNvEbABBREVIATION SIGNbSIGN HIGH SPACvG DOTbuTTz CyDRA AcOEcOOEcAW",
      "cUEcUUEcMsWsI DDAcZHAcHEAVY YAcGGAcJJAcGLOTTr STOPcDDDAcBBAaBENGrI yJIbSIGN CyDRABvDUcyUSV",
      "sAcVISsGA.buTTz AcAAcIcIIcUcUUcVOCrIC RdL..cEcAI..cOcAUcKAcKHAcGAcGHAcNGAcCAcCHAcJAcJHAcNY",
      "AcTTAcTTHAcDDAcDDHAcNNAcTAcTHAcDAcDHAcNA.cPAcPHAcBAcBHAcMAcYAcRA.cLA...cSHAcSSAcSAcHA..bSI",
      "GN NUKTAcAVAGRAHAbVOWEL SIGN AAdIdIIdUdUUdVOCrIC ReRR..dEdAI..dOdAUbSIGN VIRAMAbuTTz KHyDA",
      " TA"]⟩,
   ⟨0x9D7, [
      "aBENGrI AU uNGTH MsK....buTTz RRAcRHA.cYYAcVOCrIC RRdLLbVOWEL SIGN VOCrIC LeLL..bDIGIT ZzO",
      "cONEcTWOcTHREEcFOURcFIVEcSIXcSEVENcEtcNvEbuTTz RAqMIDDu DIAGONreLOWz DIAGONrbRUPEE MsKcSIG",
      "NbCURRENCY NUMzATOR ONEdTWOdTHREEdFOURdONE uSS THy THE DENOMvATORcDENOMvATOR SIXTEENbISSHs",
      "bGyDA MsKbuTTz VEDIC yUSVsAbABBREVIATION SIGNbSyDHI MsK..aGURMUKHI SIGN ADAK BvDIcBvDIcVIS",
      "sGA.buTTz AcAAcIcIIcUcUU....cEEcAI..cOOcAUcKAcKHAcGAcGHAcNGAcCAcCHAcJAcJHAcNYAcTTAcTTHAcDD",
      "AcDDHAcNNAcTAcTHAcDAcDHAcNA.cPAcPHAcBAcBHAcMAcYAcRA.cLAcLLA.cVAcSHA.cSAcHA..bSIGN NUKTA.bV",
      "OWEL SIGN AAdIdIIdUdUU....dEEdAI..dOOdAUbSIGN VIRAMA...cUDAAT"]⟩,
   ⟨0xA59, ["aGURMUKHIpKHHAcGHHAcZAcRRA.cFA"]⟩,
   ⟨0xA66, [
      "aGURMUKHI DIGIT ZzOcONEcTWOcTHREEcFOURcFIVEcSIXcSEVENcEtcNvEbTIPPIbADDAKbIRIbURAbEK ONKsbS",
      "IGN YAKASHbABBREVIATION SIGN"]⟩,
   ⟨0xA81, [
      "aGUJsATI SIGN CyDRABvDUcyUSVsAcVISsGA.buTTz AcAAcIcIIcUcUUcVOCrIC RdLbVOWEL CyDRA E.buTTz ",
      "EcAIbVOWEL CyDRA O.buTTz OcAUcKAcKHAcGAcGHAcNGAcCAcCHAcJAcJHAcNYAcTTAcTTHAcDDAcDDHAcNNAcTA",
      "cTHAcDAcDHAcNA.cPAcPHAcBAcBHAcMAcYAcRA.cLAcLLA.cVAcSHAcSSAcSAcHA..bSIGN NUKTAcAVAGRAHAbVOW",
      "EL SIGN AAdIdIIdUdUUdVOCrIC ReRRdCyDRA E.dEdAIdCyDRA O.dOdAUbSIGN VIRAMA..bOM"]⟩,
   ⟨0xAE0, [
      "aGUJsATIpVOCrIC RRdLLbVOWEL SIGN VOCrIC LeLL..bDIGIT ZzOcONEcTWOcTHREEcFOURcFIVEcSIXcSEVEN",
      "cEtcNvEbABBREVIATION SIGNbRUPEE SIGN"]⟩,
   ⟨0xAF9, [
      "aGUJsATIpZHAbSIGN SUKUNcSHADDAcMADDAHcTHREE-DOT NUKTA ABOVEcCIRCu NUKTA ABOVEcTWO-CIRCu NU",
      "KTA ABOVE.aORIYA SIGN CyDRABvDUcyUSVsAcVISsGA.buTTz AcAAcIcIIcUcUUcVOCrIC RdL..cEcAI..cOcA",
      "UcKAcKHAcGAcGHAcNGAcCAcCHAcJAcJHAcNYAcTTAcTTHAcDDAcDDHAcNNAcTAcTHAcDAcDHAcNA.cPAcPHAcBAcBH",
      "AcMAcYAcRA.cLAcLLA.cVAcSHAcSSAcSAcHA..bSIGN NUKTAcAVAGRAHAbVOWEL SIGN AAdIdIIdUdUUdVOCrIC ",
      "ReRR..dEdAI..dOdAUbSIGN VIRAMA"]⟩,
   ⟨0xB55, [
      "aORIYA SIGN OVzLvEbAI uNGTH MsKbAU uNGTH MsK....buTTz RRAcRHA.cYYAcVOCrIC RRdLLbVOWEL SIGN",
      " VOCrIC LeLL..bDIGIT ZzOcONEcTWOcTHREEcFOURcFIVEcSIXcSEVENcEtcNvEbISSHsbuTTz WAbFRACTION O",
      "NE QUsTzdHrFcTHREE QUsTzScONE SIXTEENTHdEtHcTHREE SIXTEENTHS"]⟩,
   ⟨0xB82, [
      "aTAMIL SIGN yUSVsAcVISsGA.buTTz AcAAcIcIIcUcUU...cEcEEcAI.cOcOOcAUcKA...cNGAcCA.cJA.cNYAcT",
      "TA...cNNAcTA...cNAcNNNAcPA...cMAcYAcRAcRRAcLAcLLAcLLLAcVAcSHAcSSAcSAcHA....bVOWEL SIGN AAd",
      "IdIIdUdUU...dEdEEdAI.dOdOOdAUbSIGN VIRAMA..bOM"]⟩,
   ⟨0xBD7, ["aTAMIL AU uNGTH MsK"]⟩,
   ⟨0xBE6, [
      "aTAMIL DIGIT ZzOcONEcTWOcTHREEcFOURcFIVEcSIXcSEVENcEtcNvEbNUMBz TENcONE HUNDREDdTHOUSyDbDA",
      "Y SIGNbMONTH SIGNbYEs SIGNbDEBIT SIGNbCREDIT SIGNbAS ABOVE SIGNbRUPEE SIGNbNUMBz SIGN.....",
      "aTELUGU SIGN COMBvvG CyDRABvDU ABOVEcCyDRABvDUcyUSVsAcVISsGAcCOMBvvG yUSVsA ABOVEbuTTz AcA",
      "AcIcIIcUcUUcVOCrIC RdL.cEcEEcAI.cOcOOcAUcKAcKHAcGAcGHAcNGAcCAcCHAcJAcJHAcNYAcTTAcTTHAcDDAc",
      "DDHAcNNAcTAcTHAcDAcDHAcNA.cPAcPHAcBAcBHAcMAcYAcRAcRRAcLAcLLAcLLLAcVAcSHAcSSAcSAcHA..bSIGN ",
      "NUKTAcAVAGRAHAbVOWEL SIGN AAdIdIIdUdUUdVOCrIC ReRR.dEdEEdAI.dOdOOdAUbSIGN VIRAMA"]⟩,
   ⟨0xC55, [
      "aTELUGU uNGTH MsKbAI uNGTH MsK.buTTz TSAcDZAcRRRA..cNAKAsA POLLU..cVOCrIC RRdLLbVOWEL SIGN",
      " VOCrIC LeLL..bDIGIT ZzOcONEcTWOcTHREEcFOURcFIVEcSIXcSEVENcEtcNvE"]⟩,
   ⟨0xC77, [
      "aTELUGU SIGN SIDDHAMbFRACTION DIGIT ZzO FOR ODD POWzS OF FOURdONE FOR ODD POWzS OF FOURdTW",
      "O FOR ODD POWzS OF FOURdTHREE FOR ODD POWzS OF FOURdONE FOR EVEN POWzS OF FOURdTWO FOR EVE",
      "N POWzS OF FOURdTHREE FOR EVEN POWzS OF FOURbSIGN TUUMUaKyNADA SIGN SPACvG CyDRABvDUcCyDRA",
      "BvDUcyUSVsAcVISsGAcSIDDHAMbuTTz AcAAcIcIIcUcUUcVOCrIC RdL.cEcEEcAI.cOcOOcAUcKAcKHAcGAcGHAc",
      "NGAcCAcCHAcJAcJHAcNYAcTTAcTTHAcDDAcDDHAcNNAcTAcTHAcDAcDHAcNA.cPAcPHAcBAcBHAcMAcYAcRAcRRAcL",
      "AcLLA.cVAcSHAcSSAcSAcHA..bSIGN NUKTAcAVAGRAHAbVOWEL SIGN AAdIdIIdUdUUdVOCrIC ReRR.dEdEEdAI",
      ".dOdOOdAUbSIGN VIRAMA"]⟩,
   ⟨0xCD5, ["aKyNADA uNGTH MsKbAI uNGTH MsK"]⟩,
   ⟨0xCDD, [
      "aKyNADApNAKAsA POLLUcFA.cVOCrIC RRdLLbVOWEL SIGN VOCrIC LeLL..bDIGIT ZzOcONEcTWOcTHREEcFOU",
      "RcFIVEcSIXcSEVENcEtcNvE.bSIGN JIHVAMULIYAcUPADHMyIYA"]⟩,
   ⟨0xD00, [
      "aMrAYrAM SIGN COMBvvG yUSVsA ABOVEcCyDRABvDUcyUSVsAcVISsGAbuTTz VEDIC yUSVsAcAcAAcIcIIcUcU",
      "UcVOCrIC RdL.cEcEEcAI.cOcOOcAUcKAcKHAcGAcGHAcNGAcCAcCHAcJAcJHAcNYAcTTAcTTHAcDDAcDDHAcNNAcT",
      "AcTHAcDAcDHAcNAcNNNAcPAcPHAcBAcBHAcMAcYAcRAcRRAcLAcLLAcLLLAcVAcSHAcSSAcSAcHAcTTTAbSIGN VzT",
      "ICr Bs VIRAMAcCIRCULs VIRAMAcAVAGRAHAbVOWEL SIGN AAdIdIIdUdUUdVOCrIC ReRR.dEdEEdAI.dOdOOdA",
      "UbSIGN VIRAMAbuTTz DOT REPHbSIGN PsA....buTTz CHILLU MdYdLLLbAU uNGTH MsKbFRACTION ONE ONE",
      "-HUNDRED-yD-SIXTIETHdFORTIETHcTHREE EtIETHScONE TWENTIETHdTENTHcTHREE TWENTIETHScONE FIFTH",
      "buTTz sCHAIC IIcVOCrIC RRdLLbVOWEL SIGN VOCrIC LeLL..bDIGIT ZzOcONEcTWOcTHREEcFOURcFIVEcSI",
      "XcSEVENcEtcNvEbNUMBz TENcONE HUNDREDdTHOUSyDbFRACTION ONE QUsTzdHrFcTHREE QUsTzScONE SIXTE",
      "ENTHdEtHcTHREE SIXTEENTHSbDATE MsKbuTTz CHILLU NNdNdRRdLdLLdK.aSvHrA SIGN CyDRABvDUcyUSVsA",
      "YAcVISsGAYA.buTTz AYyNAcAAYyNAcAEYyNAcAEEYyNAcIYyNAcIIYyNAcUYyNAcUUYyNAcIRUYyNAcIRUUYyNAcI",
      "LUYyNAcILUUYyNAcEYyNAcEEYyNAcAIYyNAcOYyNAcOOYyNAcAUYyNA...crPAPRAyA KAYyNAcMAHAAPRAyA KAYy",
      "NAcrPAPRAyA GAYyNAcMAHAAPRAyA GAYyNAcKyTAJA NAASIKYAYAcSyYAKA GAYyNAcrPAPRAyA CAYyNAcMAHAA",
      "PRAyA CAYyNAcrPAPRAyA JAYyNAcMAHAAPRAyA JAYyNAcTArUJA NAASIKYAYAdSyYOOGA NAAKSIKYAYAcSyYAK",
      "A JAYyNAcrPAPRAyA TTAYyNAcMAHAAPRAyA TTAYyNAcrPAPRAyA DDAYyNAcMAHAAPRAyA DDAYyNAcMUURDHAJA",
      " NAYyNAcSyYAKA DDAYyNAcrPAPRAyA TAYyNAcMAHAAPRAyA TAYyNAcrPAPRAyA DAYyNAcMAHAAPRAyA DAYyNA",
      "cDyTAJA NAYyNA.cSyYAKA DAYyNAcrPAPRAyA PAYyNAcMAHAAPRAyA PAYyNAcrPAPRAyA BAYyNAcMAHAAPRAyA",
      " BAYyNAcMAYyNAcAMBA BAYyNAcYAYyNAcRAYyNA.cDyTAJA LAYyNA..cVAYyNAcTArUJA SAYyNAcMUURDHAJA S",
      "AYyNAcDyTAJA SAYyNAcHAYyNAcMUURDHAJA LAYyNAcFAYyNA...bSIGN r-LAKUNA....bVOWEL SIGN AELA-PI",
      "LLAdKETTI AEDA-PILLAdDIGA AEDA-PILLAdKETTI IS-PILLAdDIGA IS-PILLAdKETTI PAA-PILLA.dDIGA PA",
      "A-PILLA.dGAETTA-PILLAdKOMBUVAdDIGA KOMBUVAdKOMBU DEKAdKOMBUVA HAA AELA-PILLAfDIGA AELA-PIL",
      "LAfGAYyUKITTAdGAYyUKITTA"]⟩,
   ⟨0xDE6, [
      "aSvHrA LITH DIGIT ZzOdONEdTWOdTHREEdFOURdFIVEdSIXdSEVENdEtdNvE..bVOWEL SIGN DIGA GAETTA-PI",
      "LLAeGAYyUKITTAbPUNCTUATION KUNDDrIYA"]⟩,
   ⟨0xE01, [
      "aTHAI CHsACTz KO KAIcKHO KHAIdKHUATdKHWAIdKHONdRAKHyGcNGO NGUcCHO CHydCHvGdCHyGcSO SOcCHO ",
      "CHOEcYO YvGcDO CHADAcTO PATAKcTHO THydNyGMONTHOdPHUTHAOcNO NENcDO DEKcTO TAOcTHO THUNGdTHA",
      "HydTHONGcNO NUcBO BAIMAIcPO PLAcPHO PHUNGcFO FAcPHO PHycFO FycPHO SAMPHAOcMO MAcYO YAKcRO ",
      "RUAcRUcLO LvGcLUcWO WAENcSO SrAdRUSIdSUAcHO HIPcLO CHULAcO yGcHO NOKHUKcPAIYyNOIcSsA AcMAI",
      " Hy-AKATcSsA AAdAMdIdIIdUEdUEEdUdUUcPHvTHU....bCURRENCY SYMBOL BAHTbCHsACTz SsA EdAEdOdAI ",
      "MAIMUyeMAIMrAIcLAKKHyGYAOcMAIYAMOKcMAITAIKHUcMAI EKdTHOdTRIdCHATTAWAcTHyTHAKHATcNIKHAHITcY",
      "AMAKKycFONGMybDIGIT ZzOcONEcTWOcTHREEcFOURcFIVEcSIXcSEVENcEtcNvEbCHsACTz yGKHyKHUcKHOMUT"]⟩,
   ⟨0xE81, [
      "aLAOpKOcKHO SUNG.dTAM.cPrI GHAcNGOcCOcPrI CHAcSO TAM.cPrI JHAcNYOcPrI NYAdTTAdTTHAdDDAdDDH",
      "AdNNAcDOcTOcTHO SUNGdTAMcPrI DHAcNOcBOcPOcPHO SUNGcFO TAMcPHO TAMcFO SUNGcPrI BHAcMOcYOcLO",
      " LvG.dLOOT.cWOcSySKRIT SHAdSSAcSO SUNGcHO SUNGcPrI LLAcOcHO TAMbELLIPSISbVOWEL SIGN AdMAI ",
      "KydAAdAMdIdIIdYdYYdUdUUbSIGN PrI VIRAMAbVOWEL SIGN MAI KONbSEMIVOWEL SIGN LOdNYO..bVOWEL S",
      "IGN EdEIdOdAYdAI.bKO LA.bTONE MAI EKdTHOdTIdCATAWAbCyCELLATION MsKbNIGGAHITA..bDIGIT ZzOcO",
      "NEcTWOcTHREEcFOURcFIVEcSIXcSEVENcEtcNvE..bHO NOcMObuTTz KHMU GOdNYO"]⟩,
   ⟨0xF00, [
      "aTIBETy SYLLABu OMbMsK GTz YIG MGO TRUNCATED Af-UM RNAM BCAD MAgGTz TSHEG MAcvITIr YIG MGO",
      " MDUN MAcCLOSvG YIG MGO SGAB MAcCsET YIG MGO PHUR SHAD MAcYIG MGO TSHEG SHAD MAcSBRUL SHAD",
      "cBSKUR YIG MGOcBKA- SHOG YIG MGOcvTzSYLLABIC TSHEGcDELIMITz TSHEG BSTscSHADcNYIS SHADcTSHE",
      "G SHADcNYIS TSHEG SHADcRv CHEN SPUNGS SHADcRGYA GRAM SHADcCsET -DZUD RTAGS ME LONG CycGTz ",
      "TSHEGbLOGOTYPE SIGN CHAD RTAGSdLHAG RTAGSbASTROLOGICr SIGN SGRA GCy -CHs RTAGSd-KHYUD PAdS",
      "DONG TSHUGSbSIGN RDEL DKs GCIGeGNYISeGSUMdNAG GCIGeGNYISdDKs RDEL NAGbDIGIT ZzOcONEcTWOcTH",
      "REEcFOURcFIVEcSIXcSEVENcEtcNvEcHrF ONEdTWOdTHREEdFOURdFIVEdSIXdSEVENdEtdNvEdZzObMsK BSDUS ",
      "RTAGScNGAS BZUNG NYI ZLAcCsET -DZUD RTAGS BZHI MIG CycNGAS BZUNG SGOR RTAGScCHE MGOcTSA -P",
      "HRUcGUG RTAGS GYONeGYAScyG KHyG GYONeGYASbSIGN Ys TSHEScMs TSHESbuTTz KAcKHAcGAcGHAcNGAcCA",
      "cCHAcJA.cNYAcTTAcTTHAcDDAcDDHAcNNAcTAcTHAcDAcDHAcNAcPAcPHAcBAcBHAcMAcTSAcTSHAcDZAcDZHAcWAc",
      "ZHAcZAc-AcYAcRAcLAcSHAcSSAcSAcHAcAcKSSAcFIXED-FORM RAcKKAcRRA....bVOWEL SIGN AAdIdIIdUdUUd",
      "VOCrIC ReRReLeLLdEdEEdOdOObSIGN RJES SU NGA ROcRNAM BCADbVOWEL SIGN REVzSED IeIIbSIGN NYI ",
      "ZLA NAA DAcSNA LDybMsK HryTAcPrUTAbSIGN LCI RTAGScYyG RTAGScLCE TSA CycMCHU CycGRU Cy RGYv",
      "GSdMED RGYvGScvVzTED MCHU CybSUBJOvED SIGN LCE TSA CydMCHU CydvVzTED MCHU CycuTTz KAdKHAdG",
      "AdGHAdNGAdCAdCHAdJA.dNYAdTTAdTTHAdDDAdDDHAdNNAdTAdTHAdDAdDHAdNAdPAdPHAdBAdBHAdMAdTSAdTSHAd",
      "DZAdDZHAdWAdZHAdZAd-AdYAdRAdLAdSHAdSSAdSAdHAdAdKSSAdFIXED-FORM WAeYAeRA.bKU RU KHAeBZHI MI",
      "G CybCyTILLATION SIGN HEAVY BEATdLt BEATdCyG TE-UdSBUB -CHrbSYMBOL DRIL BUcRDO RJEcPADMA G",
      "DycRDO RJE RGYA GRAMcPHUR PAcNOR BUeNYIS -KHYILeGSUM -KHYILeBZHI -KHYIL.bSIGN RDEL NAG RDE",
      "L DKseGSUMbMsK BSKA- SHOG GI MGO RGYycMNYAM YIG GI MGO RGYycNYIS TSHEGcvITIr BRDA RNYvG YI",
      "G MGO MDUN MAcCLOSvG BRDA RNYvG YIG MGO SGAB MAaRt-FACvG SVASTI SIGNauFT-FACvG SVASTI SIGN",
      "aRt-FACvG SVASTI SIGNqDOTSauFT-FACvG SVASTI SIGNqDOTSaTIBETy MsK uADvG MCHy RTAGScTRAILvG ",
      "MCHy RTAGS"]⟩,
   ⟨0x1000, [
      "aMYyMspKAcKHAcGAcGHAcNGAcCAcCHAcJAcJHAcNYAcNNYAcTTAcTTHAcDDAcDDHAcNNAcTAcTHAcDAcDHAcNAcPAc",
      "PHAcBAcBHAcMAcYAcRAcLAcWAcSAcHAcLLAcAcSHy AcIcIIcUcUUcEcMON EcOcAUbVOWEL SIGN TrL AAdAAdId",
      "IIdUdUUdEdAIdMON IIeOdE ABOVEbSIGN yUSVsAcDOT BELOWcVISsGAcVIRAMAcASATbCONSONyT SIGN MEDIr",
      " YAeRAeWAeHAbuTTz GREAT SAbDIGIT ZzOcONEcTWOcTHREEcFOURcFIVEcSIXcSEVENcEtcNvEbSIGN LITTu S",
      "ECTIONcSECTIONbSYMBOL LOCATIVEcCOMPuTEDcAFOREMENTIONEDcGENITIVEbuTTz SHAcSSAcVOCrIC RdRRdL",
      "dLLbVOWEL SIGN VOCrIC ReRReLeLLbuTTz MON NGAdJHAdBBAdBBEbCONSONyT SIGN MON MEDIr NAfMAfLAb",
      "uTTz SGAW KsEN SHAbVOWEL SIGN SGAW KsEN EUbTONE MsK SGAW KsEN HATHIfKE PHObuTTz WESTzN PWO",
      " KsEN THAfPWAbVOWEL SIGN WESTzN PWO KsEN EUgUEbSIGN WESTzN PWO KsEN TONE-1fTONE-2fTONE-3fT",
      "ONE-4fTONE-5buTTz EASTzN PWO KsEN NNAfYWAfGHWAbVOWEL SIGN GEBA KsEN IdKAYAH OEeUeEEbuTTz S",
      "Hy KAdKHAdGAdCAdZAdNYAdDAdNAdPHAdFAdBAdTHAdHAbCONSONyT SIGN SHy MEDIr WAbVOWEL SIGN SHy AA",
      "eEfABOVEeFvr YbSIGN SHy TONE-2dTONE-3dTONE-5dTONE-6dCOUNCIL TONE-2eTONE-3eEMPHATIC TONEbuT",
      "Tz RUMAI PrAUNG FAbSIGN RUMAI PrAUNG TONE-5bSHy DIGIT ZzOdONEdTWOdTHREEdFOURdFIVEdSIXdSEVE",
      "NdEtdNvEbSIGN KHAMTI TONE-1dTONE-3bVOWEL SIGN AITON AeAIbSYMBOL SHy ONEdEXCLAMATION"]⟩]

end Upkeep.Text.Names
