import Upkeep.Text.Names.Packed

/-!
Names of characters: further scripts from the Caucasus to Canada.
-/
namespace Upkeep.Text.Names

def eastern : List Run :=
  [⟨0x10A0, [
      "aGEORGIy xLpydBydGydDONdENdVvdZENdTydvdKydLASdMydNsdONdPsdZHsdRAEdSydTsdUNdPHsdKHsdGHydQsd",
      "SHvdCHvdCydJILdCILdCHsdXydJHydHAEdHEdHIEdWEdHsdHOE.dYN.....dAEN..buTTz ycBycGycDONcENcVvcZ",
      "ENcTycvcKycLAScMycNscONcPscZHscRAEcSycTscUNcPHscKHscGHycQscSHvcCHvcCycJILcCILcCHscXycJHycH",
      "AEcHEcHIEcWEcHscHOEcFIcYNcELIFIcTURNED GycAvbPsAGRAPH SEPsATORaMODIFIzpGEORGIy NsaGEORGIyp",
      "AENcHsD SIGNcLABIr SIGNaHyGUL CHOSEONG KIYEOKcSSyGKIYEOKcNIEUNcTIKEUTcSSyGTIKEUTcRIEULcMIE",
      "UMcPIEUPcSSyGPIEUPcSIOScSSyGSIOScIEUNGcCIEUCcSSyGCIEUCcCHIEUCHcKHIEUKHcTHIEUTHcPHIEUPHcHIE",
      "UHcNIEUN-KIYEOKcSSyGNIEUNcNIEUN-TIKEUTcNIEUN-PIEUPcTIKEUT-KIYEOKcRIEUL-NIEUNcSSyGRIEULcRIE",
      "UL-HIEUHcKAPYEOUNRIEULcMIEUM-PIEUPcKAPYEOUNMIEUMcPIEUP-KIYEOKcPIEUP-NIEUNcPIEUP-TIKEUTcPIE",
      "UP-SIOScPIEUP-SIOS-KIYEOKcPIEUP-SIOS-TIKEUTcPIEUP-SIOS-PIEUPcPIEUP-SSyGSIOScPIEUP-SIOS-CIE",
      "UCcPIEUP-CIEUCcPIEUP-CHIEUCHcPIEUP-THIEUTHcPIEUP-PHIEUPHcKAPYEOUNPIEUPcKAPYEOUNSSyGPIEUPcS",
      "IOS-KIYEOKcSIOS-NIEUNcSIOS-TIKEUTcSIOS-RIEULcSIOS-MIEUMcSIOS-PIEUPcSIOS-PIEUP-KIYEOKcSIOS-",
      "SSyGSIOScSIOS-IEUNGcSIOS-CIEUCcSIOS-CHIEUCHcSIOS-KHIEUKHcSIOS-THIEUTHcSIOS-PHIEUPHcSIOS-HI",
      "EUHcCHITUEUMSIOScCHITUEUMSSyGSIOScCEONGCHIEUMSIOScCEONGCHIEUMSSyGSIOScPySIOScIEUNG-KIYEOKc",
      "IEUNG-TIKEUTcIEUNG-MIEUMcIEUNG-PIEUPcIEUNG-SIOScIEUNG-PySIOScSSyGIEUNGcIEUNG-CIEUCcIEUNG-C",
      "HIEUCHcIEUNG-THIEUTHcIEUNG-PHIEUPHcYESIEUNGcCIEUC-IEUNGcCHITUEUMCIEUCcCHITUEUMSSyGCIEUCcCE",
      "ONGCHIEUMCIEUCcCEONGCHIEUMSSyGCIEUCcCHIEUCH-KHIEUKHcCHIEUCH-HIEUHcCHITUEUMCHIEUCHcCEONGCHI",
      "EUMCHIEUCHcPHIEUPH-PIEUPcKAPYEOUNPHIEUPHcSSyGHIEUHcYEORvHIEUHcKIYEOK-TIKEUTcNIEUN-SIOScNIE",
      "UN-CIEUCcNIEUN-HIEUHcTIKEUT-RIEULcFILuRbJUNGSEONG FILuRcAcAEcYAcYAEcEOcEcYEOcYEcOcWAcWAEcO",
      "EcYOcUcWEOcWEcWIcYUcEUcYIcIcA-OcA-UcYA-OcYA-YOcEO-OcEO-UcEO-EUcYEO-OcYEO-UcO-EOcO-EcO-YEcO",
      "-OcO-UcYO-YAcYO-YAEcYO-YEOcYO-OcYO-IcU-AcU-AEcU-EO-EUcU-YEcU-UcYU-AcYU-EOcYU-EcYU-YEOcYU-Y",
      "EcYU-UcYU-IcEU-UcEU-EUcYI-UcI-AcI-YAcI-OcI-UcI-EUcI-sAEAcsAEAcsAEA-EOcsAEA-UcsAEA-IcSSyGsA",
      "EAcA-EUcYA-UcYEO-YAcO-YAcO-YAEbJONGSEONG KIYEOKcSSyGKIYEOKcKIYEOK-SIOScNIEUNcNIEUN-CIEUCcN",
      "IEUN-HIEUHcTIKEUTcRIEULcRIEUL-KIYEOKcRIEUL-MIEUMcRIEUL-PIEUPcRIEUL-SIOScRIEUL-THIEUTHcRIEU",
      "L-PHIEUPHcRIEUL-HIEUHcMIEUMcPIEUPcPIEUP-SIOScSIOScSSyGSIOScIEUNGcCIEUCcCHIEUCHcKHIEUKHcTHI",
      "EUTHcPHIEUPHcHIEUHcKIYEOK-RIEULcKIYEOK-SIOS-KIYEOKcNIEUN-KIYEOKcNIEUN-TIKEUTcNIEUN-SIOScNI",
      "EUN-PySIOScNIEUN-THIEUTHcTIKEUT-KIYEOKcTIKEUT-RIEULcRIEUL-KIYEOK-SIOScRIEUL-NIEUNcRIEUL-TI",
      "KEUTcRIEUL-TIKEUT-HIEUHcSSyGRIEULcRIEUL-MIEUM-KIYEOKcRIEUL-MIEUM-SIOScRIEUL-PIEUP-SIOScRIE",
      "UL-PIEUP-HIEUHcRIEUL-KAPYEOUNPIEUPcRIEUL-SSyGSIOScRIEUL-PySIOScRIEUL-KHIEUKHcRIEUL-YEORvHI",
      "EUHcMIEUM-KIYEOKcMIEUM-RIEULcMIEUM-PIEUPcMIEUM-SIOScMIEUM-SSyGSIOScMIEUM-PySIOScMIEUM-CHIE",
      "UCHcMIEUM-HIEUHcKAPYEOUNMIEUMcPIEUP-RIEULcPIEUP-PHIEUPHcPIEUP-HIEUHcKAPYEOUNPIEUPcSIOS-KIY",
      "EOKcSIOS-TIKEUTcSIOS-RIEULcSIOS-PIEUPcPySIOScIEUNG-KIYEOKcIEUNG-SSyGKIYEOKcSSyGIEUNGcIEUNG",
      "-KHIEUKHcYESIEUNGcYESIEUNG-SIOScYESIEUNG-PySIOScPHIEUPH-PIEUPcKAPYEOUNPHIEUPHcHIEUH-NIEUNc",
      "HIEUH-RIEULcHIEUH-MIEUMcHIEUH-PIEUPcYEORvHIEUHcKIYEOK-NIEUNcKIYEOK-PIEUPcKIYEOK-CHIEUCHcKI",
      "YEOK-KHIEUKHcKIYEOK-HIEUHcSSyGNIEUNaETHIOPIC SYLLABu HAcHUcHIcHAAcHEEcHEcHOcHOAcLAcLUcLIcL",
      "AAcuEcucLOcLWAcHHAcHHUcHHIcHHAAcHHEEcHHEcHHOcHHWAcMAcMUcMIcMAAcMEEcMEcMOcMWAcSZAcSZUcSZIcS",
      "ZAAcSZEEcSZEcSZOcSZWAcRAcRUcRIcRAAcREEcREcROcRWAcSAcSUcSIcSAAcSEEcSEcSOcSWAcSHAcSHUcSHIcSH",
      "AAcSHEEcSHEcSHOcSHWAcQAcQUcQIcQAAcQEEcQEcQOcQOAcQWA.cQWIcQWAAcQWEEcQWE..cQHAcQHUcQHIcQHAAc",
      "QHEEcQHEcQHO.cQHWA.cQHWIcQHWAAcQHWEEcQHWE..cBAcBUcBIcBAAcBEEcBEcBOcBWAcVAcVUcVIcVAAcVEEcVE",
      "cVOcVWAcTAcTUcTIcTAAcTEEcTEcTOcTWAcCAcCUcCIcCAAcCEEcCEcCOcCWAcXAcXUcXIcXAAcXEEcXEcXOcXOAcX",
      "WA.cXWIcXWAAcXWEEcXWE..cNAcNUcNIcNAAcNEEcNEcNOcNWAcNYAcNYUcNYIcNYAAcNYEEcNYEcNYOcNYWAcGLOT",
      "Tr AdUdIdAAdEEdEdOdWAcKAcKUcKIcKAAcKEEcKEcKOcKOAcKWA.cKWIcKWAAcKWEEcKWE..cKXAcKXUcKXIcKXAA",
      "cKXEEcKXEcKXO.cKXWA.cKXWIcKXWAAcKXWEEcKXWE..cWAcWUcWIcWAAcWEEcWEcWOcWOAcPHsYNGEr AdUdIdAAd",
      "EEdEdO.cZAcZUcZIcZAAcZEEcZEcZOcZWAcZHAcZHUcZHIcZHAAcZHEEcZHEcZHOcZHWAcYAcYUcYIcYAAcYEEcYEc",
      "YOcYOAcDAcDUcDIcDAAcDEEcDEcDOcDWAcDDAcDDUcDDIcDDAAcDDEEcDDEcDDOcDDWAcJAcJUcJIcJAAcJEEcJEcJ",
      "OcJWAcGAcGUcGIcGAAcGEEcGEcGOcGOAcGWA.cGWIcGWAAcGWEEcGWE..cGGAcGGUcGGIcGGAAcGGEEcGGEcGGOcGG",
      "WAAcTHAcTHUcTHIcTHAAcTHEEcTHEcTHOcTHWAcCHAcCHUcCHIcCHAAcCHEEcCHEcCHOcCHWAcPHAcPHUcPHIcPHAA",
      "cPHEEcPHEcPHOcPHWAcTSAcTSUcTSIcTSAAcTSEEcTSEcTSOcTSWAcTZAcTZUcTZIcTZAAcTZEEcTZEcTZOcTZOAcF",
      "AcFUcFIcFAAcFEEcFEcFOcFWAcPAcPUcPIcPAAcPEEcPEcPOcPWAcRYAcMYAcFYA..bCOMBvvG GEMvATION yD VO",
      "WEL uNGTH MsKcVOWEL uNGTH MsKcGEMvATION MsKbSECTION MsKbWORDSPACEbFULL STOPbCOMMAbSEMICOLO",
      "NbCOLONbPREFACE COLONbQUESTION MsKbPsAGRAPH SEPsATORbDIGIT ONEcTWOcTHREEcFOURcFIVEcSIXcSEV",
      "ENcEtcNvEbNUMBz TENcTWENTYcTHIRTYcFORTYcFIFTYcSIXTYcSEVENTYcEtYcNvETYcHUNDREDcTEN THOUSyD.",
      "..bSYLLABu SEBATBEIT MWAcMWIcMWEEcMWEcSEBATBEIT BWAcBWIcBWEEcBWEcSEBATBEIT FWAcFWIcFWEEcFW",
      "EcSEBATBEIT PWAcPWIcPWEEcPWEbTONr MsK YIZETdDzETdRIKRIKdSHORT RIKRIKdDIFATdKENATdCHIRETdHI",
      "DETdDzET-HIDETdKURT"]⟩,
   ⟨0x13A0, [
      "aCHzOKEEpAcEcIcOcUcVcGAcKAcGEcGIcGOcGUcGVcHAcHEcHIcHOcHUcHVcLAcucLIcLOcLUcLVcMAcMEcMIcMOcM",
      "UcNAcHNAcNAHcNEcNIcNOcNUcNVcQUAcQUEcQUIcQUOcQUUcQUVcSAcScSEcSIcSOcSUcSVcDAcTAcDEcTEcDIcTIc",
      "DOcDUcDVcDLAcTLAcTucTLIcTLOcTLUcTLVcTSAcTSEcTSIcTSOcTSUcTSVcWAcWEcWIcWOcWUcWVcYAcYEcYIcYOc",
      "YUcYVcMV..bSMrLpYEdYIdYOdYUdYVdMV..aCyADIy SYLLABICS HYPHENcEcAAIcIcIIcOcOOcY-CREE OOcCsRI",
      "z EEdIcAcAAcWEcWEST-CREE WEcWIcWEST-CREE WIcWIIcWEST-CREE WIIcWOcWEST-CREE WOcWOOcWEST-CRE",
      "E WOOcNASKAPI WOOcWAcWEST-CREE WAcWAAcWEST-CREE WAAcNASKAPI WAAcAIcY-CREE WcGLOTTr STOPcFv",
      "r ACUTEdGRAVEdBOTTOM HrF RvGdTOP HrF RvGdRt HrF RvGdRvGdDOUBu ACUTEeSHORT VzTICr STROKESdM",
      "IDDu DOTdSHORT HORIZONTr STROKEdPLUSdDOWN TACKcENcvcONcycPEcPAAIcPIcPIIcPOcPOOcY-CREE POOc",
      "CsRIz HEEdHIcPAcPAAcPWEcWEST-CREE PWEcPWIcWEST-CREE PWIcPWIIcWEST-CREE PWIIcPWOcWEST-CREE ",
      "PWOcPWOOcWEST-CREE PWOOcPWAcWEST-CREE PWAcPWAAcWEST-CREE PWAAcY-CREE PWAAcPcWEST-CREE PcCs",
      "RIz HcTEcTAAIcTIcTIIcTOcTOOcY-CREE TOOcCsRIz DEEdDIcTAcTAAcTWEcWEST-CREE TWEcTWIcWEST-CREE",
      " TWIcTWIIcWEST-CREE TWIIcTWOcWEST-CREE TWOcTWOOcWEST-CREE TWOOcTWAcWEST-CREE TWAcTWAAcWEST",
      "-CREE TWAAcNASKAPI TWAAcTcTTEcTTIcTTOcTTAcKEcKAAIcKIcKIIcKOcKOOcY-CREE KOOcKAcKAAcKWEcWEST",
      "-CREE KWEcKWIcWEST-CREE KWIcKWIIcWEST-CREE KWIIcKWOcWEST-CREE KWOcKWOOcWEST-CREE KWOOcKWAc",
      "WEST-CREE KWAcKWAAcWEST-CREE KWAAcNASKAPI KWAAcKcKWcSOUTH-SLAVEY KEHdKIHdKOHdKAHcCEcCAAIcC",
      "IcCIIcCOcCOOcY-CREE COOcCAcCAAcCWEcWEST-CREE CWEcCWIcWEST-CREE CWIcCWIIcWEST-CREE CWIIcCWO",
      "cWEST-CREE CWOcCWOOcWEST-CREE CWOOcCWAcWEST-CREE CWAcCWAAcWEST-CREE CWAAcNASKAPI CWAAcCcSA",
      "YISI THcMEcMAAIcMIcMIIcMOcMOOcY-CREE MOOcMAcMAAcMWEcWEST-CREE MWEcMWIcWEST-CREE MWIcMWIIcW",
      "EST-CREE MWIIcMWOcWEST-CREE MWOcMWOOcWEST-CREE MWOOcMWAcWEST-CREE MWAcMWAAcWEST-CREE MWAAc",
      "NASKAPI MWAAcMcWEST-CREE McMHcATHAPASCy McSAYISI McNEcNAAIcNIcNIIcNOcNOOcY-CREE NOOcNAcNAA",
      "cNWEcWEST-CREE NWEcNWAcWEST-CREE NWAcNWAAcWEST-CREE NWAAcNASKAPI NWAAcNcCsRIz NGcNHcucLAAI",
      "cLIcLIIcLOcLOOcY-CREE LOOcLAcLAAcLWEcWEST-CREE LWEcLWIcWEST-CREE LWIcLWIIcWEST-CREE LWIIcL",
      "WOcWEST-CREE LWOcLWOOcWEST-CREE LWOOcLWAcWEST-CREE LWAcLWAAcWEST-CREE LWAAcLcWEST-CREE LcM",
      "EDIr LcSEcSAAIcSIcSIIcSOcSOOcY-CREE SOOcSAcSAAcSWEcWEST-CREE SWEcSWIcWEST-CREE SWIcSWIIcWE",
      "ST-CREE SWIIcSWOcWEST-CREE SWOcSWOOcWEST-CREE SWOOcSWAcWEST-CREE SWAcSWAAcWEST-CREE SWAAcN",
      "ASKAPI SWAAcScATHAPASCy ScSWcBLACKFOOT ScMOOSE-CREE SKcNASKAPI SKWdS-WdSPWAdSTWAdSKWAdSCWA",
      "cSHEcSHIcSHIIcSHOcSHOOcSHAcSHAAcSHWEcWEST-CREE SHWEcSHWIcWEST-CREE SHWIcSHWIIcWEST-CREE SH",
      "WIIcSHWOcWEST-CREE SHWOcSHWOOcWEST-CREE SHWOOcSHWAcWEST-CREE SHWAcSHWAAcWEST-CREE SHWAAcSH",
      "cYEcYAAIcYIcYIIcYOcYOOcY-CREE YOOcYAcYAAcYWEcWEST-CREE YWEcYWIcWEST-CREE YWIcYWIIcWEST-CRE",
      "E YWIIcYWOcWEST-CREE YWOcYWOOcWEST-CREE YWOOcYWAcWEST-CREE YWAcYWAAcWEST-CREE YWAAcNASKAPI",
      " YWAAcYcBIBu-CREE YcWEST-CREE YcSAYISI YIcREcR-CREE REcWEST-CREE ucRAAIcRIcRIIcROcROOcWEST",
      "-CREE LOcRAcRAAcWEST-CREE LAcRWAAcWEST-CREE RWAAcRcWEST-CREE RcMEDIr RcFEcFAAIcFIcFIIcFOcF",
      "OOcFAcFAAcFWAAcWEST-CREE FWAAcFcTHEcN-CREE THEcTHIcN-CREE THIcTHIIcN-CREE THIIcTHOcTHOOcTH",
      "AcTHAAcTHWAAcWEST-CREE THWAAcTHcTTHEcTTHIcTTHOcTTHAcTTHcTYEcTYIcTYOcTYAcNUNAVIK HEdHIdHIId",
      "HOdHOOdHAdHAAdHcNUNAVUT HcHKcQAAIcQIcQIIcQOcQOOcQAcQAAcQcTLHEcTLHIcTLHOcTLHAcWEST-CREE REd",
      "RIdROdRAcNGAAIcNGIcNGIIcNGOcNGOOcNGAcNGAAcNGcNNGcSAYISI SHEdSHIdSHOdSHAcWOODS-CREE THEdTHI",
      "dTHOdTHAdTHcLHIcLHIIcLHOcLHOOcLHAcLHAAcLHcTH-CREE THEdTHIdTHIIdTHOdTHOOdTHAdTHAAdTHcAIVILI",
      "K BcBLACKFOOT EdIdOdAdWEdWIdWOdWAdNEdNIdNOdNAdKEdKIdKOdKAcSAYISI HEdHIdHOdHAcCsRIz GHUdGHO",
      "dGHEdGHEEdGHIdGHAdRUdROdREdREEdRIdRAdWUdWOdWEdWEEdWIdWAdHWUdHWOdHWEdHWEEdHWIdHWAdTHUdTHOdT",
      "HEdTHEEdTHIdTHAdTTUdTTOdTTEdTTEEdTTIdTTAdPUdPOdPEdPEEdPIdPAdPdGUdGOdGEdGEEdGIdGAdKHUdKHOdK",
      "HEdKHEEdKHIdKHAdKKUdKKOdKKEdKKEEdKKIdKKAdKKdNUdNOdNEdNEEdNIdNAdMUdMOdMEdMEEdMIdMAdYUdYOdYE",
      "dYEEdYIdYAdJUcSAYISI JUcCsRIz JOdJEdJEEdJIcSAYISI JIcCsRIz JAdJJUdJJOdJJEdJJEEdJJIdJJAdLUd",
      "LOduduEdLIdLAdDLUdDLOdDudDuEdDLIdDLAdLHUdLHOdLHEdLHEEdLHIdLHAdTLHUdTLHOdTLHEdTLHEEdTLHIdTL",
      "HAdTLUdTLOdTudTuEdTLIdTLAdZUdZOdZEdZEEdZIdZAdZdvITIr ZdDZUdDZOdDZEdDZEEdDZIdDZAdSUdSOdSEdS",
      "EEdSIdSAdSHUdSHOdSHEdSHEEdSHIdSHAdSHdTSUdTSOdTSEdTSEEdTSIdTSAdCHUdCHOdCHEdCHEEdCHIdCHAdTTS",
      "UdTTSOdTTSEdTTSEEdTTSIdTTSAcCHI SIGNcFULL STOPcQAIcNGAIcNNGIcNNGIIcNNGOcNNGOOcNNGAcNNGAAcW",
      "OODS-CREE THWEEdTHWIdTHWIIdTHWOdTHWOOdTHWAdTHWAAdFvr THcBLACKFOOT WaOGHAM SPACE MsKbuTTz B",
      "EITHcLUIScFEsNcSAILcNIONcUATHcDAIRcTvNEcCOLLcCEIRTcMUvcGORTcNGEADrcSTRAIFcRUIScAILMcONNcUR",
      "cEADHADHcIODHADHcEABHADHcORcUILuyNcIFvcEAMHyCHOLLcPEITHbFEATHz MsKbREVzSED FEATHz MsK...aR",
      "UNICpFEHU FEOH FE FcVcURUZ UR UcYRcYcWcTHURISAZ THURS THORNcETHcySUZ AcOS OcAC AcAESCcLONG",
      "-BRyCH-OSS OcSHORT-TWIG-OSS OcOcOEcONcRAIDO RAD REID RcKAUNAcCENcKAUN KcGcENGcGEBO GYFU Gc",
      "GscWUNJO WYNN WcHAGLAZ HcHAEGL HcLONG-BRyCH-HAGrL HcSHORT-TWIG-HAGrL HcNAUDIZ NYD NAUD NcS",
      "HORT-TWIG-NAUD NcDOTTED-NcISAZ IS ISS IcEcJzy JcGzcLONG-BRyCH-s AEcSHORT-TWIG-s AcIWAZ EOH",
      "cPzTHO PEORTH PcrGIZ EOLHXcSOWILO ScSIGEL LONG-BRyCH-SOL ScSHORT-TWIG-SOL ScCcZcTIWAZ TIR ",
      "TYR TcSHORT-TWIG-TYR TcDcBzKyy BEORC BJsKy BcSHORT-TWIG-BJsKy BcDOTTED-PcOPEN-PcEHWAZ EH E",
      "cMyNAZ My McLONG-BRyCH-MADR McSHORT-TWIG-MADR McLAUKAZ LAGU LOGR LcDOTTED-LcvGWAZcvGcDAGAZ",
      " DAEG DcOTHry ETHEL OcEscIORcCWEORTHcCrCcCErCcSTycLONG-BRyCH-YRcSHORT-TWIG-YRcICELyDIC-YRc",
      "QcXbSvGu PUNCTUATIONbMULTIPu PUNCTUATIONbCROSS PUNCTUATIONbsLAUG SYMBOLbTVIMADUR SYMBOLbBE",
      "LGTHOR SYMBOLbuTTz KcSHcOOcFRyKS CASKET OSeISeEHeACeAESC"]⟩,
   ⟨0x1700, [
      "aTAGrOGpAcIcUcKAcGAcNGAcTAcDAcNAcPAcBAcMAcYAcRAcLAcWAcSAcHAbVOWEL SIGN IdUbSIGN VIRAMAcPAM",
      "UDPOD"]⟩,
   ⟨0x171F, [
      "aTAGrOGpsCHAIC RAaHyUNOOpAcIcUcKAcGAcNGAcTAcDAcNAcPAcBAcMAcYAcRAcLAcWAcSAcHAbVOWEL SIGN Id",
      "UbSIGN PAMUDPODaPHILIPPvE SvGu PUNCTUATIONbDOUBu PUNCTUATION"]⟩,
   ⟨0x1740, ["aBUHIDpAcIcUcKAcGAcNGAcTAcDAcNAcPAcBAcMAcYAcRAcLAcWAcSAcHAbVOWEL SIGN IdU"]⟩,
   ⟨0x1760, ["aTAGByWApAcIcUcKAcGAcNGAcTAcDAcNAcPAcBAcMAcYA.cLAcWAcSA.bVOWEL SIGN IdU"]⟩,
   ⟨0x1780, [
      "aKHMzpKAcKHAcKOcKHOcNGOcCAcCHAcCOcCHOcNYOcDAcTTHAcDOcTTHOcNNOcTAcTHAcTOcTHOcNOcBAcPHAcPOcP",
      "HOcMOcYOcROcLOcVOcSHAcSSOcSAcHAcLAcQAbvDEPENDENT VOWEL QAQdQAAdQIdQIIdQUdQUKdQUUdQUUVdRYdR",
      "YYdLYdLYYdQEdQAIdQOO TYPE ONEfTWOdQAUbVOWEL vHzENT AQdAAcSIGN AAdIdIIdYdYYdUdUUdUAdOEdYAdI",
      "EdEdAEdAIdOOdAUbSIGN NIKAHITcREAHMUKcYUUKrEAPvTUcMUUSIKATOycTRIISAPcByTOCcROBATcTOyDAKHIAT",
      "cKAKABATcAHSDAcSAMYOK SyNYAcVIRIAMcCOENGcBATHAMASATcKHycBsIYOOSycCAMNUC PII KUUHcuK TOOcBE",
      "YYrcPHNAEK MUycKOOMUUTbCURRENCY SYMBOL RIELbSIGN AVAKRAHASyYAcATTHACy..bDIGIT ZzOcONEcTWOc",
      "THREEcFOURcFIVEcSIXcSEVENcEtcNvE"]⟩,
   ⟨0x17F0, [
      "aKHMz SYMBOL uK ATTAK SONeMUOYePIIeBEIeBUONePRAMePRAM-MUOYePRAM-PIIePRAM-BEIePRAM-BUON"]⟩,
   ⟨0x1800, [
      "aMONGOLIy BIRGAbELLIPSISbCOMMAbFULL STOPbCOLONbFOUR DOTSbTODO SOFT HYPHENbSIBE SYLLABu BOU",
      "NDsY MsKzbMyCHU COMMAcFULL STOPbNIRUGUbFREE VsIATION SEuCTOR ONEeTWOeTHREEbVOWEL SEPsATORb",
      "FREE VsIATION SEuCTOR FOURbDIGIT ZzOcONEcTWOcTHREEcFOURcFIVEcSIXcSEVENcEtcNvE"]⟩,
   ⟨0x1820, [
      "aMONGOLIypAcEcIcOcUcOEcUEcEEcNAcyGcBAcPAcQAcGAcMAcLAcSAcSHAcTAcDAcCHAcJAcYAcRAcWAcFAcKAcKH",
      "AcTSAcZAcHAAcZRAcLHAcZHIcCHIcTODO LONG VOWEL SIGNdEdIdOdUdOEdUEdyGdBAdPAdQAdGAdMAdTAdDAdCH",
      "AdJAdTSAdYAdWAdKAdGAAdHAAdJIAdNIAdDZAcSIBE EdIdIYdUEdUdyGdKAdGAdHAdPAdSHAdTAdDAdJAdFAdGAAd",
      "HAAdTSAdZAdRAAdCHAdZHAcMyCHU IdKAdRAdFAdZHAcCHAqTWO DOTS"]⟩,
   ⟨0x1880, [
      "aMONGOLIyprI GrI yUSVsA ONEeVISsGA ONEeDAMsUeUBADAMAevVzTED UBADAMAeBrUDAeTHREE BrUDAeAeIe",
      "KAeNGAeCAeTTAeTTHAeDDAeNNAeTAeDAePAePHAeSSAeZHAeZAeAHcTODO rI GrI TAfZHAcMyCHU rI GrI GHAf",
      "NGAfCAfJHAfTTAfDDHAfTAfDHAfSSAfCYAfZHAfZAcrI GrI HrF UfYAcMyCHU rI GrI BHAcrI GrI DAGrGAcM",
      "yCHU rI GrI LHA.....aCyADIy SYLLABICS OYcAYcAAYcWAYcPOYcPAYcPWOYcTAYcKAYcKWAYcMAYcNOYcNAYc",
      "LAYcSOYcSAYcSHOYcSHAYcSHWOYcYOYcYAYcRAYcNWIcOJIBWAY NWIcNWIIcOJIBWAY NWIIcNWOcOJIBWAY NWOc",
      "NWOOcOJIBWAY NWOOcRWEEcRWIcRWIIcRWOcRWOOcRWAcOJIBWAY PdTdKdCdMdNdSdSHcEASTzN WcWESTzN WcFv",
      "r SMrL RvGdRAISED DOTcR-CREE RWEcWEST-CREE LOOdLAAcTHWEcTHWAcTTHWEcTTHOOcTTHAAcTLHWEcTLHOO",
      "cSAYISI SHWEdSHOOdHOOcCsRIz GWUdDENE GEEdGAAdGWAcSAYISI JUUcCsRIz JWAcBEAVz DENE LeRcCsRIz",
      " DENTr S"]⟩,
   ⟨0x1900, [
      "aLIMBU VOWEL-CsRIz uTTzbuTTz KAcKHAcGAcGHAcNGAcCAcCHAcJAcJHAcYycTAcTHAcDAcDHAcNAcPAcPHAcBA",
      "cBHAcMAcYAcRAcLAcWAcSHAcSSAcSAcHAcGYycTRA.bVOWEL SIGN AdIdUdEEdAIdOOdAUdEdObSUBJOvEDpYAdRA",
      "dWA....bSMrLpKAdNGAdyUSVsAdTAdNAdPAdMAdRAdLAbSIGN MUKPHRENGcKEMPHRENGcSA-I....cLOO...bEXCL",
      "AMATION MsKbQUESTION MsKbDIGIT ZzOcONEcTWOcTHREEcFOURcFIVEcSIXcSEVENcEtcNvEaTAI upKAdXAdNG",
      "AdTSAdSAdYAdTAdTHAdLAdPAdPHAdMAdFAdVAdHAdQAdKHAdTSHAdNAdAdIdEEdEHdUdOOdOdUEdEdAUEdAI..dTON",
      "E-2dTONE-3dTONE-4dTONE-5dTONE-6"]⟩,
   ⟨0x1980, [
      "aNEW TAI LUEpHIGH QAeLOW QAeHIGH KAfXAfNGAeLOW KAfXAfNGAeHIGH TSAfSAfYAeLOW TSAfSAfYAeHIGH",
      " TAfTHAfNAeLOW TAfTHAfNAeHIGH PAfPHAfMAeLOW PAfPHAfMAeHIGH FAfVAfLAeLOW FAfVAfLAeHIGH HAfD",
      "AfBAeLOW HAfDAfBAeHIGH KVAfXVAeLOW KVAfXVAeHIGH SUAeLOW SUA....dVOWEL SIGN VOWEL SHORTENzf",
      "AAfIIfUfUUfEfAEfOfOAfUEfAYfAAYfUYfOYfOAYfUEYfIYduTTz Fvr VfNGfNfMfKfDfBdTONE MsK-1eMsK-2"]⟩,
   ⟨0x19D0, [
      "aNEW TAI LUE DIGIT ZzOeONEeTWOeTHREEeFOUReFIVEeSIXeSEVENeEteNvEdTHAM DIGIT ONE...dSIGN LAE",
      "eLAEVaKHMz SYMBOL PATHAMASATcMUOY KOETcPII KOETcBEI KOETcBUON KOETcPRAM KOETcPRAM-MUOY KOE",
      "TcPRAM-PII KOETcPRAM-BEI KOETcPRAM-BUON KOETcDAP KOETcDAP-MUOY KOETcDAP-PII KOETcDAP-BEI K",
      "OETcDAP-BUON KOETcDAP-PRAM KOETcTUTEYASATcMUOY ROCcPII ROCcBEI ROCcBUON ROCcPRAM ROCcPRAM-",
      "MUOY ROCcPRAM-PII ROCcPRAM-BEI ROCcPRAM-BUON ROCcDAP ROCcDAP-MUOY ROCcDAP-PII ROCcDAP-BEI ",
      "ROCcDAP-BUON ROCcDAP-PRAM ROCaBUGvESEpKAcGAcNGAcNGKAcPAcBAcMAcMPAcTAcDAcNAcNRAcCAcJAcNYAcN",
      "YCAcYAcRAcLAcVAcSAcAcHAbVOWEL SIGN IdUdEdOdAE..bPrLAWAbEND OF SECTIONaTAI THAMpHIGH KAeKHA",
      "eKXAdLOW KAeKXAeKHAdNGAdHIGH CAeCHAdLOW CAeSAeCHAdNYAdRATAdHIGH RATHAdDAdLOW RATHAdRyAdHIG",
      "H TAeTHAdLOW TAeTHAdNAdBAdHIGH PAePHAeFAdLOW PAeFAePHAdMAdLOW YAdHIGH YAdRAdRUEdLAdLUEdWAd",
      "HIGH SHAeSSAeSAeHAdLLAdAdLOW HAdIdIIdUdUUdEEdOOdLAEdGREAT SAcCONSONyT SIGN MEDIr RAfLAeLA ",
      "TyG LAIcSIGN MAI KyG LAIcCONSONyT SIGN Fvr NGAeLOW PAeHIGH RATHA OR LOW PAeMAeBAeSA.cSIGN ",
      "SAKOTcVOWEL SIGN AeMAI SATeAAeTrL AAeIeIIeUEeUUEeUeUUeOeOA BELOWeOYeEeAEeOOeAIeTHAM AIeOA ",
      "ABOVEcSIGN MAI KyGdTONE-1dTONE-2dKHUEN TONE-3eTONE-4eTONE-5dRA HAAMdMAI SAMdKHUEN-LUE Ksy.",
      ".cCOMBvvG CRYPTOGRAMMIC DOTcHORA DIGIT ZzOeONEeTWOeTHREEeFOUReFIVEeSIXeSEVENeEteNvE"]⟩,
   ⟨0x1A90, ["aTAI THAM THAM DIGIT ZzOeONEeTWOeTHREEeFOUReFIVEeSIXeSEVENeEteNvE"]⟩,
   ⟨0x1AA0, [
      "aTAI THAM SIGN WIyGdWIyGWAAKdSAWydKEOWdHOYdDOKMAIdREVzSED ROTATED RyAdMAI YAMOKdKAydKAyKUU",
      "dSATKAydSATKAyKUUdHyGdCAyG..aCOMBvvG DOUBuD CIRCUMFuX ACCENTbDIAzESIS-RvGbvFvITYbDOWNWsDS ",
      "sROWbTRIPu DOTbX-X BELOWbWIGGLY LvE BELOWbOPEN MsK BELOWbDOUBu OPEN MsK BELOWbLt CENTRrIZA",
      "TION STROKE BELOWbSTRONG CENTRrIZATION STROKE BELOWbPsENTHESES ABOVEbDOUBu PsENTHESES ABOV",
      "EbPsENTHESES BELOWcOVzLAYbLATv SMrLpW BELOWeTURNED W BELOWbuFT PsENTHESIS ABOVE uFTbRt PsE",
      "NTHESIS ABOVE RtbuFT PsENTHESIS BELOW uFTbRt PsENTHESIS BELOW RtbSQUsE BRACKETS ABOVEbNUMB",
      "z SIGN ABOVEbvVzTED DOUBu sCH ABOVEbPLUS SIGN ABOVEbDOUBu PLUS SIGN ABOVEeBELOWbTRIPu ACUT",
      "E ACCENTbLATv SMrLpvSULs GfRfT"]⟩,
   ⟨0x1B00, [
      "aBrvESE SIGN ULU RICEMdCyDRAcCECEKcSURyGcBISAHbuTTz AKsAdTEDUNGcIKsAdTEDUNGcUKsAdTEDUNGcRA",
      " REPAeTEDUNGcLA uNGAeTEDUNGcEKsAcAIKsAcOKsAdTEDUNGcKAdMAHAPRyAcGAdGORAcNGAcCAdLACAcJAdJzAc",
      "NYAcTA LATIKdMURDA MAHAPRyAcDA MURDA rPAPRyAeMAHAPRyAcNA RAMBATcTAdTAWAcDAdMADUcNAcPAdKAPr",
      "cBAdKEMByGcMAcYAcRAcLAcWAcSA SAGAdSAPAcSAcHAbSIGN RzEKybVOWEL SIGN TEDUNGdULUeSsIdSUKUeILU",
      "TdRA REPAfTEDUNGdLA uNGAfTEDUNGdTrvGeREPAeTEDUNGeREPA TEDUNGdPEPETeTEDUNGbADEG ADEGbuTTz K",
      "AF SASAKcKHOT SASAKcTZIR SASAKcEF SASAKcVE SASAKcZr SASAKcASYURA SASAKcsCHAIC JNYA...bDIGI",
      "T ZzOcONEcTWOcTHREEcFOURcFIVEcSIXcSEVENcEtcNvEbPyTIbPAMADAbWvDUbCsIK PAMUNGKAHcSIKIcPszENb",
      "PAMENENGbMUSICr SYMBOL DONGdDENGdDUNGdDyGeSURyGdDvGdDAENGdDEUNGdDAvGdDyG GEDEdCOMBvvG TEGE",
      "HeENDEPeKEMPULeKEMPLIeJEGOGyeKEMPULqJEGOGyeKEMPLIqJEGOGyeBENDEeGONGdRt-HyD OPEN DUGfDAGeCL",
      "OSED TUKfTAKduFT-HyD OPEN PyGfPUNGeCLOSED PLAKfPLUKeOPEN PvGbPyTI LyTyGbPAMADA LyTyG.aSUND",
      "yESE SIGN PyYECEKcPyGLAYscPyGWISADbuTTz AcIcUcAEcOcEcEUcKAcQAcGAcNGAcCAcJAcZAcNYAcTAcDAcNA",
      "cPAcFAcVAcBAcMAcYAcRAcLAcWAcSAcXAcHAbCONSONyT SIGN PAMvGKrdPyYAKRAdPyYIKUbVOWEL SIGN PyGHU",
      "LUdPyYUKUdPyAELAENGdPyOLONGdPAMEPETdPyEUuUNGbSIGN PAMAAEHcVIRAMAbCONSONyT SIGN PASyGy MAeW",
      "AbuTTz KHAcSYAbDIGIT ZzOcONEcTWOcTHREEcFOURcFIVEcSIXcSEVENcEtcNvEbAVAGRAHAbuTTz REUcuUcBHA",
      "cFvr KdMaBATAKpAcSIMrUNGUN AcHAcSIMrUNGUN HAcMyDAILvG HAcBAcKsO BAcPAcSIMrUNGUN PAcNAcMyDA",
      "ILvG NAcWAcSIMrUNGUN WAcPAKPAK WAcGAcSIMrUNGUN GAcJAcDAcRAcSIMrUNGUN RAcMAcSIMrUNGUN MAcSO",
      "UTHzN TAcNORTHzN TAcSAcSIMrUNGUN SAcMyDAILvG SAcYAcSIMrUNGUN YAcNGAcLAcSIMrUNGUN LAcNYAcCA",
      "cNDAcMBAcIcUbSIGN TOMPIbVOWEL SIGN EdPAKPAK EdEEdIdKsO IdOdKsO OdUeFOR SIMrUNGUN SAbCONSON",
      "yT SIGN NGdHbPyGOLATbPyONGONy"]⟩,
   ⟨0x1BFC, [
      "aBATAK SYMBOL BvDU NA METEKdPvsBORASdJUDULdPyGOLATauPCHApKAcKLAcKHAcGAcGLAcNGAcCAcCHAcJAcN",
      "YAcTAcTHAcDAcNAcPAcPLAcPHAcFAcFLAcBAcBLAcMAcMLAcTSAcTSHAcDZAcYAcRAcLAcHAcHLAcVAcSAcSHAcWAc",
      "AbSUBJOvEDpYAdRAbVOWEL SIGN AAdIdOdOOdUdUUdEbCONSONyT SIGN KdMdLdNdPdRdTdNYv-DOdKyGbSIGN R",
      "ycNUKTA...bPUNCTUATION TA-ROLcNYET THYOOM TA-ROLcCz-WAcTSHOOK Cz-WAcTSHOOKbDIGIT ZzOcONEcT",
      "WOcTHREEcFOURcFIVEcSIXcSEVENcEtcNvE...buTTz TTAcTTHAcDDAaOL CHIKI DIGIT ZzOdONEdTWOdTHREEd",
      "FOURdFIVEdSIXdSEVENdEtdNvEcuTTz LAdATdAGdyGdrdLAAdAAKdAAJdAAMdAAWdLIdISdIHdvYdIRdLUdUCdUDd",
      "UNNdUYdudEPdEDDdENdzRdLOdOTTdOBdOVdOHcMU TTUDDAGcGAAHLAA TTUDDAAGcMU-GAAHLAA TTUDDAAGcRELA",
      "AcPHAsKAAcAHADcPUNCTUATION MUCAADdDOUBu MUCAADaCYRILLIC SMrLpROUNDED VEdLONG-uGGED DEdNsRO",
      "W OdWIDE ESdTrL TEdTHREE-uGGED TEdTrL HsD SIGNeYATdUNBuNDED UK"]⟩,
   ⟨0x1C90, [
      "aGEORGIy MTAVRULI xLpyeByeGyeDONeENeVveZENeTyeveKyeLASeMyeNseONePseZHseRAEeSyeTseUNePHseKH",
      "seGHyeQseSHveCHveCyeJILeCILeCHseXyeJHyeHAEeHEeHIEeWEeHseHOEeFIeYNeELIFIeTURNED GyeAv..eAEN",
      "eHsD SIGNeLABIr SIGNaSUNDyESE PUNCTUATION BvDU SURYAdPyGLONGdPURNAMAdCAKRAduU SATyGAdKA SA",
      "TyGAdDA SATyGAdBA SATyGA"]⟩,
   ⟨0x1CD0, [
      "aVEDIC TONE KsSHyAcSHsAcPRENKHAbSIGN NIHSHVASAcYAJURVEDIC MIDLvE SVsITAbTONE YAJURVEDIC AG",
      "GRAVATED vDEPENDENT SVsITAdvDEPENDENT SVsITAdKATHAKA vDEPENDENT SVsITAcCyDRA BELOWcYAJURVE",
      "DIC KATHAKA vDEPENDENT SVsITA SCHROEDzcDOUBu SVsITAcTRIPu SVsITAcKATHAKA yUDATTAcDOT BELOW",
      "cTWO DOTS BELOWcTHREE DOTS BELOWcRIGVEDIC KASHMIRI vDEPENDENT SVsITAcATHsVAVEDIC vDEPENDEN",
      "T SVsITAbSIGN VISsGA SVsITAdUDATTAcREVzSED VISsGA UDATTAcVISsGA yUDATTAcREVzSED VISsGA yUD",
      "ATTAcVISsGA UDATTAqTAILdyUDATTAqTAILcyUSVsA yTsGOMUKHAdBAHIRGOMUKHAdVAMAGOMUKHAeWITH TAILc",
      "TIRYAKcHEXIFORM LONG yUSVsAcLONG yUSVsAcRTHyG LONG yUSVsAcyUSVsA UBHAYATO MUKHAcsDHAVISsGA",
      "cROTATED sDHAVISsGAbTONE CyDRA ABOVEbSIGN JIHVAMULIYAcUPADHMyIYAcATIKRAMAbTONE RvG ABOVEcD",
      "OUBu RvG ABOVEbSIGN DOUBu yUSVsA yTsGOMUKHA"]⟩]

end Upkeep.Text.Names
