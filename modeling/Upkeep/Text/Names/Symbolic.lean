import Upkeep.Text.Names.Packed

/-!
Names of characters: shorthand, music, mathematical letters and sign writing.
-/
namespace Upkeep.Text.Names

def symbolic : List Run :=
  [⟨0x1BC00, [
      "aDUPLOYypHcXcPcTcFcKcLcBcDcVcGcRcP NcD ScF NcK McR ScTHcSLOy DHcDHcKKcSLOy JcHLcLHcRHcMcNc",
      "JcScM NcN McJ McS JcMqDOTcNqDOTcJqDOTeDOTS vSIDE yD ABOVEcSqDOTfBELOWcM ScN ScJ ScS ScM N ",
      "ScN M ScJ M ScS J ScJ SqDOTdNeScS TeRdPeRcT SdR ScWcWHcW RcS NdMcK R ScG R ScS KeRcAcSLOy ",
      "OWcOAcOcAOUcIcEcIEcSHORT IcUIcEEcSLOy EHcROMyIy IcSLOy EEcLONG IcYEcUcEUcXWcU NcLONG UcROM",
      "yIy UcUHcSLOy UcOOHcOWcOUcWAcWOcWIcWEIcWOWcNASr UdOdIdAcPzNv ydAMcSLOy ENdydONcVOCrIC M...",
      "..bAFFIX uFT HORIZONTr SECyTcMID HORIZONTr SECyTcRt HORIZONTr SECyTcLOW VzTICr SECyTcMID V",
      "zTICr SECyTcHIGH VzTICr SECyTcATTACHED SECyTduFT-TO-Rt SECyTdTyGENTdTAILdE HOOKdI HOOKdTyG",
      "ENT HOOK...cHIGH ACUTEdTt ACUTEdGRAVEdLONG GRAVEdDOTdCIRCudLvEdWAVEdVzTICr"]⟩,
   ⟨0x1BC90, [
      "aDUPLOYy AFFIX LOW ACUTEdTt ACUTEdGRAVEdLONG GRAVEdDOTdCIRCudLvEdWAVEdVzTICrdsROW..bSIGN O",
      "qCROSSbTHICKpSEuCTORbDOUBu MsKbPUNCTUATION CHvOOK FULL STOPaSHORTHyDwATpOVzLAPcCONTvUvG OV",
      "zLAPcDOWN STEPcUP STEP"]⟩,
   ⟨0x1CF00, [
      "aZNAMENNY COMBvvG MsK GORAZDO NIZKO S KRYZHEM ON uFTdNIZKO S KRYZHEM ON uFTdTSATA ON uFTdG",
      "ORAZDO NIZKO ON uFTdNIZKO ON uFTdSREDNE ON uFTdMrO POVYSHE ON uFTdPOVYSHE ON uFTdVYSOKO ON",
      " uFTdMrO POVYSHE S KHOKHLOM ON uFTdPOVYSHE S KHOKHLOM ON uFTdVYSOKO S KHOKHLOM ON uFTdGORA",
      "ZDO NIZKO S KRYZHEM ON RtdNIZKO S KRYZHEM ON RtdTSATA ON RtdGORAZDO NIZKO ON RtdNIZKO ON R",
      "tdSREDNE ON RtdMrO POVYSHE ON RtdPOVYSHE ON RtdVYSOKO ON RtdMrO POVYSHE S KHOKHLOM ON RtdP",
      "OVYSHE S KHOKHLOM ON RtdVYSOKO S KHOKHLOM ON RtdTSATA S KRYZHEMdMrO POVYSHE S KRYZHEMdSTRy",
      "NO MrO POVYSHEdPOVYSHE S KRYZHEMeSTRyNOdVYSOKO S KRYZHEMdMrO POVYSHE STRyNOdGORAZDO VYSOKO",
      "dZELOdONdRAVNOdTIKHAYAdBORZAYAdUDsKAdPODVzTKAdLOMKAdKUPNAYAdKACHKAdZEVOKdSKOBAdRAZSEKAdKRY",
      "ZH ON uFT..cTONr RyGE MsK MRACHNOfSVETLOfTRESVETLOcMsK ZADzZHKAdDEMESTVENNY ZADzZHKAdOTSEC",
      "HKAdPODCHASHIEeWITH VzTICr STROKEdCHASHKAePOLNAYAdOBLACHKOdSOROCHYA NOZHKAdTOCHKAdDVOETOCH",
      "IEcATTACHvG VzTICr OMETcMsK CURVED OMETdKRYZHcLOWz TONr RyGE vDICATORbPRIZNAK MODIFIz uVEL",
      "-2duVEL-3dDIRECTION FLIPdKRYZHdROG"]⟩,
   ⟨0x1CF50, [
      "aZNAMENNY NEUME KRYUKdTIKHYcPsAKLITcDVA V CHELNUcKLYUCHcZyOZHEKcSTOPITSAdS OCHKOMcPzEVODKA",
      "dNEPOSTOYyNAYAcSTOPITSAqSOROCHYA NOZHKAcCHELYUSTKAcPrKAcZAPYATAYAcGOLUBCHIK BORZYdTIKHYdMR",
      "ACHNYdSVETLYdTRESVETLYcVRAKHIYA PROSTAYAdMRACHNAYAdSVETLAYAdTRESVETLAYAdKLYUCHEVAYA PROSTA",
      "YAeMRACHNAYAeSVETLAYAeTRESVETLAYAcDOUBu ZAPYATAYAcREVzSED CHELYUSTKAcDzBITSAcKHAMILOcCHASH",
      "KAcPODCHASHIEcSKAMEYTSA MRACHNAYAdSVETLAYAdTRESVETLAYAdTIKHAYAcDEMESTVENNY KLYUCHcSKAMEYTS",
      "A KLYUCHEVAYA SVETLAYAdKLYUCHENEPOSTOYyNAYAdKLYUCHEVAYA TIKHAYAdDVOECHELNAYA PROSTAYAeSVET",
      "LAYAeNEPOSTOYyNAYAeKLYUCHEVAYAcSLOZHITIEdS ZAPYATOYdZAKRYTOEdS KRYZHEMcKRYZHcROGcFITAcKOBY",
      "LAcZMEYTSAcSTATYAdS ZAPYATOYeKRYZHEMeZAPYATOY I KRYZHEMeKRYZHEM I ZAPYATOYdZAKRYTAYAeS ZAP",
      "YATOYdS ROGOMeDVUMYA ZAPYATYMIeZAPYATOY I PODCHASHIEMcPOLKULIZMYcSTATYA NEPOSTOYyNAYAcSTRE",
      "LA PROSTAYAdMRACHNOTIKHAYAdKRYZHEVAYAdPOLUPOVODNAYAdPOVODNAYAdNEPOSTOYyNAYAdKLYUCHEPOVODNA",
      "YAdKLYUCHENEPOSTOYyNAYAdTIKHAYA PUTNAYAdDVOECHELNAYAdDVOECHELNOKRYZHEVAYAdDVOECHELNOPOVODN",
      "AYAdDVOECHELNAYA KLYUCHEVAYAdDVOECHELNOPOVODNAYA KLYUCHEVAYAdGROMNAYAqSvGu ZAPYATAYAdGROMO",
      "POVODNAYAqSvGu ZAPYATAYAdGROMNAYAdGROMOPOVODNAYAeWITH DOUBu ZAPYATAYAdGROMOKRYZHEVAYAePOVO",
      "DNAYAcMECHIKdPOVODNYdKLYUCHEVOYdKLYUCHEPOVODNYdKLYUCHENEPOSTOYyNYcSTRELA TRYASOGLASNAYAdTR",
      "YASOPOVODNAYAdTRYASOSTRELNAYAcOSOKAdSVETLAYAdTRESVETLAYAdKRYUKOVAYA SVETLAYAdKLYUCHEVAYA S",
      "VETLAYAeNEPOSTOYyNAYAcSTRELA KRYUKOVAYAePOVODNAYAeGROMNAYAqSvGu ZAPYATAYAeGROMOPOVODNAYAqS",
      "vGu ZAPYATAYAeGROMNAYAeGROMOPOVODNAYAfWITH DOUBu ZAPYATAYAeGROMOKRYZHEVAYAfPOVODNAYAeTRYAS",
      "KAcKUFISMAcOBLAKOcDUDAcNEMKAcPAUK"]⟩,
   ⟨0x1D000, [
      "aBYZyTvE MUSICr SYMBOL PSILIdDASEIAdPzISPOMENIdOXEIA EKFONITIKONeDIPLIdVsEIA EKFONITIKONeD",
      "IPLIdKATHISTIdSYRMATIKIdPsAKLITIKIdYPOKRISISeDIPLIdKREMASTIdAPESO EKFONITIKONdEXO EKFONITI",
      "KONdTEuIAdKENTIMATAdAPOSTROFOSeDIPLIdSYNEVMAdTHITAdOLIGON sCHAIONdGORGON sCHAIONdPSILONdCH",
      "AMILONdVATHYdISON sCHAIONdKENTIMA sCHAIONdKENTIMATA sCHAIONdSAXIMATAdPsICHONdSTAVROS APODE",
      "XIAdOXEIAI sCHAIONdVsEIAI sCHAIONdAPODzMA sCHAIONdAPOTHEMAdKLASMAdREVMAdPIASMA sCHAIONdTvA",
      "GMAdyATRICHISMAdSEISMAdSYNAGMA sCHAIONeMETA STAVROUdOYRyISMA sCHAIONdTHEMAduMOIdDYOdTRIAdT",
      "ESSzAdKRATIMATAdAPESO EXO NEOdFTHORA sCHAIONdIMIFTHORAdTROMIKON sCHAIONdKATAVA TROMIKONdPE",
      "LASTONdPSIFISTONdKONTEVMAdCHOREVMA sCHAIONdRAPISMAdPsAKrESMA sCHAIONdPsAKLITIKI sCHAIONdIC",
      "HADvdNyAdPETASMAdKONTEVMA rLOdTROMIKON rLOdSTRAGGISMATAdGRONTHISMATAdISON NEOdOLIGON NEOdO",
      "XEIA NEOdPETASTIdKOUFISMAdPETASTOKOUFISMAdKRATIMOKOUFISMAdPELASTON NEOdKENTIMATA NEO yOdKE",
      "NTIMA NEO yOdYPSILIdAPOSTROFOS NEOdAPOSTROFOI SYNDESMOS NEOdYPORROIdKRATIMOYPORROONdELAFRO",
      "NdCHAMILIdMIKRON ISONdVsEIA NEOdPIASMA NEOdPSIFISTON NEOdOMrONdyTIKENOMAdLYGISMAdPsAKLITIK",
      "I NEOdPsAKrESMA NEOdETzON PsAKrESMAdKYLISMAdyTIKENOKYLISMAdTROMIKON NEOdEKSTREPTONdSYNAGMA",
      " NEOdSYRMAdCHOREVMA NEOdEPEGzMAdSEISMA NEOdXIRON KLASMAdTROMIKOPSIFISTONdPSIFISTOLYGISMAdT",
      "ROMIKOLYGISMAdTROMIKOPsAKrESMAdPSIFISTOPsAKrESMAdTROMIKOSYNAGMAdPSIFISTOSYNAGMAdGORGOSYNTH",
      "ETONdsGOSYNTHETONdETzON sGOSYNTHETONdOYRyISMA NEOdTHEMATISMOS ESOeEXOdTHEMA APLOUNdTHES KA",
      "I APOTHESdKATAVASMAdENDOFONONdYFEN KATOeyOdSTAVROSdKLASMA yOdDIPLI sCHAIONdKRATIMA sCHAION",
      "erLOeNEOdAPODzMA NEOdAPLIdDIPLIdTRIPLIdTETRAPLIdKORONISduIMMA ENOS CHRONOUeDYO CHRONONeTRI",
      "ON CHRONONeTESSsON CHRONONeIMISEOS CHRONOUdGORGON NEO yOePsESTIGMENON sISTzAfDEXIAdDIGORGO",
      "NePsESTIGMENON sISTzA KATOgyOfDEXIAdTRIGORGONdsGONdIMIDIsGONdDIsGONdAGOGI POLI sGIesGOTzIe",
      "sGIeMETRIAeMESIeGORGIeGORGOTzIePOLI GORGIdMsTYRIA PROTOS ICHOSerLI PROTOS ICHOSeDEYTzOS IC",
      "HOSerLI DEYTzOS ICHOSeTRITOS ICHOSeTRIFONIASeTETsTOS ICHOSfuGETOS ICHOSeuGETOS ICHOSePLAGI",
      "OS ICHOSdISAKIA TELOUS ICHIMATOSdAPOSTROFOI TELOUS ICHIMATOSdFyzOSIS TETRAFONIASeMONOFONIA",
      "SeDIFONIASdMsTYRIA VsYS ICHOSePROTOVsYS ICHOSePLAGIOS TETsTOS ICHOSdGORTHMIKON N APLOUNfDI",
      "PLOUNdENsXIS KAI FTHORA VOUdIMIFONONdIMIFTHORONdFTHORA sCHAION DEYTzOU ICHOUeDIATONIKI PAf",
      "NyAeNAOS ICHOSeDIATONIKI DIeSKLIRON DIATONON DIeDIATONIKI KEfZOfNI KATOgyOeMrAKON CHROMA D",
      "IFONIASgMONOFONIASdFHTORA SKLIRON CHROMA VASISdFTHORA SKLIRON CHROMA SYNAFIeNENyOdCHROA ZY",
      "GOSeKLITONeSPATHIdFTHORA I YFESIS TETsTIMORIONeENsMONIOS yTIFONIAdYFESIS TRITIMORIONdDIESI",
      "S TRITIMORIONeTETsTIMORIONeAPLI DYO DODEKATAeMONOGRAMMOS TESSzA DODEKATAeDIGRAMMOS EX DODE",
      "KATAeTRIGRAMMOS OKTO DODEKATAdYFESIS APLI DYO DODEKATAeMONOGRAMMOS TESSzA DODEKATAeDIGRAMM",
      "OS EX DODEKATAeTRIGRAMMOS OKTO DODEKATAdGENIKI DIESISeYFESISdDIASTOLI APLI MIKRIfMEGrIeDIP",
      "LIeTHESEOSdSIMySIS THESEOSfDISIMOUfTRISIMOUfTETRASIMOUesSEOSfDISIMOUfTRISIMOUfTETRASIMOUdD",
      "IGRAMMA GGdDIFTOGGOS OUdSTIGMAdsKTIKO PAeVOUeGAeDIeKEeZOeNIdKENTIMATA NEO MESOdKENTIMA NEO",
      " MESOdKENTIMATA NEO KATOdKENTIMA NEO KATOdKLASMA KATOdGORGON NEO KATO"]⟩,
   ⟨0x1D100, [
      "aMUSICr SYMBOL SvGu BsLvEcDOUBu BsLvEcFvr BsLvEcREVzSE Fvr BsLvEcDASHED BsLvEcSHORT BsLvEc",
      "uFT REPEAT SIGNcRt REPEAT SIGNcREPEAT DOTScDr SEGNOcDA CAPOcSEGNOcCODAcREPEATED FIGURE-1dF",
      "IGURE-2dFIGURE-3cFzMATAdBELOWcBREATH MsKcCAESURAcBRACEcBRACKETcONE-LvE STAFFcTWO-LvE STAFF",
      "cTHREE-LvE STAFFcFOUR-LvE STAFFcFIVE-LvE STAFFcSIX-LvE STAFFcSIX-STRvG FRETBOsDcFOUR-STRvG",
      " FRETBOsDcG CuFeOTTAVA rTAfBASSAcC CuFcF CuFeOTTAVA rTAfBASSAcDRUM CuF-1dCuF-2..cMULTIPu M",
      "EASURE RESTcDOUBu SHsPdFLATcFLAT UPdDOWNcNATURr UPdDOWNcSHsP UPdDOWNcQUsTz TONE SHsPeFLATc",
      "COMMON TIMEcCUT TIMEcOTTAVA rTAdBASSAcQUvDICESIMA rTAdBASSAcMULTI RESTcWHOu RESTcHrF RESTc",
      "QUsTz RESTcEtH RESTcSIXTEENTH RESTcTHIRTY-SECOND RESTcSIXTY-FOURTH RESTcONE HUNDRED TWENTY",
      "-EtH RESTcX NOTEHEADcPLUS NOTEHEADcCIRCu X NOTEHEADcSQUsE NOTEHEAD WHITEeBLACKcTRIyGu NOTE",
      "HEAD UP WHITEfBLACKeuFT WHITEfBLACKeRt WHITEfBLACKeDOWN WHITEfBLACKeUP Rt WHITEgBLACKcMOON",
      " NOTEHEAD WHITEeBLACKcTRIyGu-ROUND NOTEHEAD DOWN WHITEfBLACKcPsENTHESIS NOTEHEADcVOID NOTE",
      "HEADcNOTEHEAD BLACKcNULL NOTEHEADcCLUSTz NOTEHEAD WHITEeBLACKcBREVEcWHOu NOTEcHrF NOTEcQUs",
      "Tz NOTEcEtH NOTEcSIXTEENTH NOTEcTHIRTY-SECOND NOTEcSIXTY-FOURTH NOTEcONE HUNDRED TWENTY-Et",
      "H NOTEcCOMBvvG STEMdSPRECHGESyG STEMdTREMOLO-1dTREMOLO-2dTREMOLO-3cFvGzED TREMOLO-1dTREMOL",
      "O-2dTREMOLO-3cCOMBvvG AUGMENTATION DOTdFLAG-1dFLAG-2dFLAG-3dFLAG-4dFLAG-5cBEGv BEAMcEND BE",
      "AMcBEGv TIEcEND TIEcBEGv SLURcEND SLURcBEGv PHRASEcEND PHRASEcCOMBvvG ACCENTdSTACCATOdTENU",
      "TOdSTACCATISSIMOdMsCATOdMsCATO-STACCATOdACCENT-STACCATOdLOUREcsPEGGIATO UPdDOWNcCOMBvvG DO",
      "ITdRIPdFLIPdSMEsdBENDdDOUBu TONGUEdTRIPu TONGUEcRvFORZyDOcSUBITOcZcPIyOcMEZZOcFORTEcCRESCE",
      "NDOcDECRESCENDOcGRACE NOTE SLASHeNO SLASHcTRcTURNcvVzTED TURNcTURN SLASHdUPcORNAMENT STROK",
      "E-1dSTROKE-2dSTROKE-3dSTROKE-4dSTROKE-5dSTROKE-6dSTROKE-7dSTROKE-8dSTROKE-9dSTROKE-10dSTRO",
      "KE-11cHAUPTSTIMMEcNEBENSTIMMEcEND OF STIMMEcDEGREE SLASHcCOMBvvG DOWN BOWdUP BOWdHsMONICdS",
      "NAP PIZZICATOcPEDr MsKdUP MsKcHrF PEDr MsKcGLISSyDO UPdDOWNcWITH FvGzNAILScDAMPdrLcMAXIMAc",
      "LONGAcBREVIScSEMIBREVIS WHITEdBLACKcMvIMAdBLACKcSEMIMvIMA WHITEdBLACKcFUSA WHITEdBLACKcLON",
      "GA PzFECTA RESTdIMPzFECTA RESTcBREVIS RESTcSEMIBREVIS RESTcMvIMA RESTcSEMIMvIMA RESTcTEMPU",
      "S PzFECTUM CUM PROLATIONE PzFECTAgIMPzFECTAgPzFECTA DIMvUTION-1dIMPzFECTUM CUM PROLATIONE ",
      "PzFECTAgIMPzFECTAhDIMvUTION-1hDIMvUTION-2hDIMvUTION-3cCROIXcGREGORIy C CuFdF CuFcSQUsE BcV",
      "IRGAcPODATUScCLIVIScSCyDICUScCLIMACUScTORCULUScPORRECTUSdFuXUScSCyDICUS FuXUScTORCULUS RES",
      "UPvUScPES SUBPUNCTIScKIEVy C CuFdEND OF PIECEdFvr NOTEdRECITATIVE MsKdWHOu NOTEdHrF NOTEdQ",
      "UsTz NOTE STEM DOWNgUPdEtH NOTE STEM DOWNgUPdFLAT SIGNcSORIcKORON"]⟩,
   ⟨0x1D200, [
      "aGREEK VOCr NOTATION SYMBOL-1dSYMBOL-2dSYMBOL-3dSYMBOL-4dSYMBOL-5dSYMBOL-6dSYMBOL-7dSYMBOL",
      "-8dSYMBOL-9dSYMBOL-10dSYMBOL-11dSYMBOL-12dSYMBOL-13dSYMBOL-14dSYMBOL-15dSYMBOL-16dSYMBOL-1",
      "7dSYMBOL-18dSYMBOL-19dSYMBOL-20dSYMBOL-21dSYMBOL-22dSYMBOL-23dSYMBOL-24dSYMBOL-50dSYMBOL-5",
      "1dSYMBOL-52dSYMBOL-53dSYMBOL-54bvSTRUMENTr NOTATION SYMBOL-1dSYMBOL-2dSYMBOL-4dSYMBOL-5dSY",
      "MBOL-7dSYMBOL-8dSYMBOL-11dSYMBOL-12dSYMBOL-13dSYMBOL-14dSYMBOL-17dSYMBOL-18dSYMBOL-19dSYMB",
      "OL-23dSYMBOL-24dSYMBOL-25dSYMBOL-26dSYMBOL-27dSYMBOL-29dSYMBOL-30dSYMBOL-32dSYMBOL-36dSYMB",
      "OL-37dSYMBOL-38dSYMBOL-39dSYMBOL-40dSYMBOL-42dSYMBOL-43dSYMBOL-45dSYMBOL-47dSYMBOL-48dSYMB",
      "OL-49dSYMBOL-50dSYMBOL-51dSYMBOL-52dSYMBOL-53dSYMBOL-54aCOMBvvG GREEK MUSICr TRISEMEdTETRA",
      "SEMEdPENTASEMEaGREEK MUSICr uIMMA"]⟩,
   ⟨0x1D2E0, [
      "aMAYy NUMzr ZzOcONEcTWOcTHREEcFOURcFIVEcSIXcSEVENcEtcNvEcTENcEuVENcTWELVEcTHIRTEENcFOURTEE",
      "NcFIFTEENcSIXTEENcSEVENTEENcEtEENcNvETEEN"]⟩,
   ⟨0x1D300, [
      "aMONOGRAM FOR EsTHaDIGRAM FOR HEAVENLY EsTHcHUMy EsTHcEsTHLY HEAVENdHUMycEsTHaTETRAGRAM FO",
      "R CENTREcFULL CIRCucMIREDcBsRIzcKEEPvG SMrLcCONTRsIETYcASCENTcOPPOSITIONcBRyCHvG OUTcDEFEC",
      "TIVENESS OR DISTORTIONcDIVzGENCEcYOUTHFULNESScvCREASEcPENETRATIONcREACHcCONTACTcHOLDvG BAC",
      "KcWAITvGcFOLLOWvGcADVyCEcREuASEcRESISTyCEcEASEcJOYcCONTENTIONcENDEAVOURcDUTIEScCHyGEcDECIS",
      "IVENESScBOLD RESOLUTIONcPACKvGcuGIONcCLOSENESScKvSHIPcGATHzvGcSTRENGTHcPURITYcFULLNESScRES",
      "IDENCEcLAW OR MODELcRESPONSEcGOvG TO MEETcENCOUNTzScSTOVEcGREATNESScENLsGEMENTcPATTzNcRITU",
      "rcFLtcVASTNESS OR WASTvGcCONSTyCYcMEASUREcETzNITYcUNITYcDIMvISHMENTcCLOSED MOUTHcGUsDEDNES",
      "ScGATHzvG vcMASSvGcACCUMULATIONcEMBELLISHMENTcDOUBTcWATCHcSvKvGcvNzcDEPsTUREcDsKENvGcDIMMv",
      "GcEXHAUSTIONcSEVzyCEcSTOPPAGEcHsDNESScCOMPuTIONcCLOSUREcFAILUREcAGGRAVATIONcCOMPLIyCEcON T",
      "HE VzGEcDIFFICULTIEScLABOURvGcFOSTzvG"]⟩,
   ⟨0x1D360, [
      "aCOUNTvG ROD UNIT DIGIT ONEeTWOeTHREEeFOUReFIVEeSIXeSEVENeEteNvEcTENS DIGIT ONEeTWOeTHREEe",
      "FOUReFIVEeSIXeSEVENeEteNvEaIDEOGRAPHIC TrLY MsK ONEdTWOdTHREEdFOURdFIVEaTrLY MsK ONEcFIVE"]⟩,
   ⟨0x1D400, [
      "aMATHEMATICr BOLD xL AdBdCdDdEdFdGdHdIdJdKdLdMdNdOdPdQdRdSdTdUdVdWdXdYdZcSMrL AdBdCdDdEdFd",
      "GdHdIdJdKdLdMdNdOdPdQdRdSdTdUdVdWdXdYdZbITrIC xL AdBdCdDdEdFdGdHdIdJdKdLdMdNdOdPdQdRdSdTdU",
      "dVdWdXdYdZcSMrL AdBdCdDdEdFdG.dIdJdKdLdMdNdOdPdQdRdSdTdUdVdWdXdYdZbBOLD ITrIC xL AeBeCeDeE",
      "eFeGeHeIeJeKeLeMeNeOePeQeReSeTeUeVeWeXeYeZdSMrL AeBeCeDeEeFeGeHeIeJeKeLeMeNeOePeQeReSeTeUe",
      "VeWeXeYeZbSCRIPT xL A.dCdD..dG..dJdK..dNdOdPdQ.dSdTdUdVdWdXdYdZcSMrL AdBdCdD.dF.dHdIdJdKdL",
      "dMdN.dPdQdRdSdTdUdVdWdXdYdZbBOLD SCRIPT xL AeBeCeDeEeFeGeHeIeJeKeLeMeNeOePeQeReSeTeUeVeWeX",
      "eYeZdSMrL AeBeCeDeEeFeGeHeIeJeKeLeMeNeOePeQeReSeTeUeVeWeXeYeZbFRAKTUR xL AdB.dDdEdFdG..dJd",
      "KdLdMdNdOdPdQ.dSdTdUdVdWdXdY.cSMrL AdBdCdDdEdFdGdHdIdJdKdLdMdNdOdPdQdRdSdTdUdVdWdXdYdZbDOU",
      "Bu-STRUCK xL AdB.dDdEdFdG.dIdJdKdLdM.dO...dSdTdUdVdWdXdY.cSMrL AdBdCdDdEdFdGdHdIdJdKdLdMdN",
      "dOdPdQdRdSdTdUdVdWdXdYdZbBOLD FRAKTUR xL AeBeCeDeEeFeGeHeIeJeKeLeMeNeOePeQeReSeTeUeVeWeXeY",
      "eZdSMrL AeBeCeDeEeFeGeHeIeJeKeLeMeNeOePeQeReSeTeUeVeWeXeYeZbSyS-SzIF xL AdBdCdDdEdFdGdHdId",
      "JdKdLdMdNdOdPdQdRdSdTdUdVdWdXdYdZcSMrL AdBdCdDdEdFdGdHdIdJdKdLdMdNdOdPdQdRdSdTdUdVdWdXdYdZ",
      "cBOLD xL AeBeCeDeEeFeGeHeIeJeKeLeMeNeOePeQeReSeTeUeVeWeXeYeZdSMrL AeBeCeDeEeFeGeHeIeJeKeLe",
      "MeNeOePeQeReSeTeUeVeWeXeYeZcITrIC xL AeBeCeDeEeFeGeHeIeJeKeLeMeNeOePeQeReSeTeUeVeWeXeYeZdS",
      "MrL AeBeCeDeEeFeGeHeIeJeKeLeMeNeOePeQeReSeTeUeVeWeXeYeZcBOLD ITrIC xL AfBfCfDfEfFfGfHfIfJf",
      "KfLfMfNfOfPfQfRfSfTfUfVfWfXfYfZeSMrL AfBfCfDfEfFfGfHfIfJfKfLfMfNfOfPfQfRfSfTfUfVfWfXfYfZbM",
      "ONOSPACE xL AdBdCdDdEdFdGdHdIdJdKdLdMdNdOdPdQdRdSdTdUdVdWdXdYdZcSMrL AdBdCdDdEdFdGdHdIdJdK",
      "dLdMdNdOdPdQdRdSdTdUdVdWdXdYdZbITrIC SMrL DOTuSS IeJ..bBOLD xL rPHAdBETAdGAMMAdDELTAdEPSIL",
      "ONdZETAdETAdTHETAdIOTAdKAPPAdLAMDAdMUdNUdXIdOMICRONdPIdRHOdTHETA SYMBOLdSIGMAdTAUdUPSILONd",
      "PHIdCHIdPSIdOMEGAcNABLAcSMrL rPHAdBETAdGAMMAdDELTAdEPSILONdZETAdETAdTHETAdIOTAdKAPPAdLAMDA",
      "dMUdNUdXIdOMICRONdPIdRHOdFvr SIGMAdSIGMAdTAUdUPSILONdPHIdCHIdPSIdOMEGAcPsTIr DIFFzENTIrcEP",
      "SILON SYMBOLcTHETA SYMBOLcKAPPA SYMBOLcPHI SYMBOLcRHO SYMBOLcPI SYMBOLbITrIC xL rPHAdBETAd",
      "GAMMAdDELTAdEPSILONdZETAdETAdTHETAdIOTAdKAPPAdLAMDAdMUdNUdXIdOMICRONdPIdRHOdTHETA SYMBOLdS",
      "IGMAdTAUdUPSILONdPHIdCHIdPSIdOMEGAcNABLAcSMrL rPHAdBETAdGAMMAdDELTAdEPSILONdZETAdETAdTHETA",
      "dIOTAdKAPPAdLAMDAdMUdNUdXIdOMICRONdPIdRHOdFvr SIGMAdSIGMAdTAUdUPSILONdPHIdCHIdPSIdOMEGAcPs",
      "TIr DIFFzENTIrcEPSILON SYMBOLcTHETA SYMBOLcKAPPA SYMBOLcPHI SYMBOLcRHO SYMBOLcPI SYMBOLbBO",
      "LD ITrIC xL rPHAeBETAeGAMMAeDELTAeEPSILONeZETAeETAeTHETAeIOTAeKAPPAeLAMDAeMUeNUeXIeOMICRON",
      "ePIeRHOeTHETA SYMBOLeSIGMAeTAUeUPSILONePHIeCHIePSIeOMEGAdNABLAdSMrL rPHAeBETAeGAMMAeDELTAe",
      "EPSILONeZETAeETAeTHETAeIOTAeKAPPAeLAMDAeMUeNUeXIeOMICRONePIeRHOeFvr SIGMAeSIGMAeTAUeUPSILO",
      "NePHIeCHIePSIeOMEGAdPsTIr DIFFzENTIrdEPSILON SYMBOLdTHETA SYMBOLdKAPPA SYMBOLdPHI SYMBOLdR",
      "HO SYMBOLdPI SYMBOLbSyS-SzIF BOLD xL rPHAeBETAeGAMMAeDELTAeEPSILONeZETAeETAeTHETAeIOTAeKAP",
      "PAeLAMDAeMUeNUeXIeOMICRONePIeRHOeTHETA SYMBOLeSIGMAeTAUeUPSILONePHIeCHIePSIeOMEGAdNABLAdSM",
      "rL rPHAeBETAeGAMMAeDELTAeEPSILONeZETAeETAeTHETAeIOTAeKAPPAeLAMDAeMUeNUeXIeOMICRONePIeRHOeF",
      "vr SIGMAeSIGMAeTAUeUPSILONePHIeCHIePSIeOMEGAdPsTIr DIFFzENTIrdEPSILON SYMBOLdTHETA SYMBOLd",
      "KAPPA SYMBOLdPHI SYMBOLdRHO SYMBOLdPI SYMBOLdITrIC xL rPHAfBETAfGAMMAfDELTAfEPSILONfZETAfE",
      "TAfTHETAfIOTAfKAPPAfLAMDAfMUfNUfXIfOMICRONfPIfRHOfTHETA SYMBOLfSIGMAfTAUfUPSILONfPHIfCHIfP",
      "SIfOMEGAeNABLAeSMrL rPHAfBETAfGAMMAfDELTAfEPSILONfZETAfETAfTHETAfIOTAfKAPPAfLAMDAfMUfNUfXI",
      "fOMICRONfPIfRHOfFvr SIGMAfSIGMAfTAUfUPSILONfPHIfCHIfPSIfOMEGAePsTIr DIFFzENTIreEPSILON SYM",
      "BOLeTHETA SYMBOLeKAPPA SYMBOLePHI SYMBOLeRHO SYMBOLePI SYMBOLbBOLD xL DIGAMMAcSMrL DIGAMMA",
      "..cDIGIT ZzOdONEdTWOdTHREEdFOURdFIVEdSIXdSEVENdEtdNvEbDOUBu-STRUCK DIGIT ZzOdONEdTWOdTHREE",
      "dFOURdFIVEdSIXdSEVENdEtdNvEbSyS-SzIF DIGIT ZzOdONEdTWOdTHREEdFOURdFIVEdSIXdSEVENdEtdNvEcBO",
      "LD DIGIT ZzOeONEeTWOeTHREEeFOUReFIVEeSIXeSEVENeEteNvEbMONOSPACE DIGIT ZzOdONEdTWOdTHREEdFO",
      "URdFIVEdSIXdSEVENdEtdNvEaSIGNWRITvG HyD-FIST vDEXbHyD-CIRCu vDEXbHyD-CUP vDEXbHyD-OVr vDEX",
      "bHyD-HvGE vDEXbHyD-yGu vDEXbHyD-FIST vDEX BENTbHyD-CIRCu vDEX BENTbHyD-FIST THUMB UNDz vDE",
      "X BENTcvDEX RAISED KNUCKudCUPPEDdHvGEDeLOWbHyD-CIRCu vDEX HvGEbHyD-FIST vDEX MIDDubHyD-CIR",
      "Cu vDEX MIDDubHyD-FIST vDEX MIDDu BENTeRAISED KNUCKuSeHvGEDdUP MIDDu HvGEDdHvGED MIDDu UPd",
      "MIDDu CONJOvEDfvDEX BENTfMIDDu BENTfCUPPEDfHvGEDeCROSSEDbHyD-CIRCu vDEX MIDDu CROSSEDbHyD-",
      "FIST MIDDu BENT OVz vDEXcvDEX BENT OVz MIDDudMIDDu THUMBbHyD-CIRCu vDEX MIDDu THUMBbHyD-FI",
      "ST vDEX MIDDu STRAt THUMB BENTeBENT THUMB STRAteTHUMB BENTeHvGED SPREAD THUMB SIDEdUP MIDD",
      "u HvGED THUMB SIDEhCONJOvEDdHvGED MIDDu UP THUMB SIDEdMIDDu UP SPREAD THUMB FORWsDeTHUMB C",
      "UPPEDfCIRCuDfHOOKEDfHvGEDcTHUMB BETWEEN vDEX MIDDu STRAtcvDEX MIDDu CONJOvED THUMB SIDEhCO",
      "NJOvEDhBENTcMIDDu THUMB HOOKED vDEX UPcvDEX THUMB HOOKED MIDDu UPdMIDDu CONJOvED HvGED THU",
      "MB SIDEeCROSSED THUMB SIDEeCONJOvED THUMB FORWsDfCUPPED THUMB FORWsDcMIDDu THUMB CUPPED vD",
      "EX UPcvDEX THUMB CUPPED MIDDu UPcMIDDu THUMB CIRCuD vDEX UPgHvGEDcvDEX THUMB yGuD OUT MIDD",
      "u UPfv MIDDu UPeCIRCuD MIDDu UPdMIDDu THUMB CONJOvED HvGEDfyGuD OUTfyGuDcMIDDu THUMB yGuD ",
      "OUT vDEX UPhCROSSEDfvDEX UPcvDEX THUMB HOOKED MIDDu HvGEDbHyD-FLAT FOUR FvGzSeBENTeHvGEDeC",
      "ONJOvEDfSPLITbHyD-CLAW FOUR FvGzS CONJOvEDbHyD-FIST FOUR FvGzS CONJOvED BENTbHyD-HvGE FOUR",
      " FvGzS CONJOvEDbHyD-FLAT FIVE FvGzS SPREADcHEEL FIVE FvGzS SPREADcFIVE FvGzS SPREAD FOUR B",
      "ENTcHEEL FIVE FvGzS SPREAD FOUR BENTcFIVE FvGzS SPREAD BENTcHEEL FIVE FvGzS SPREAD BENTcFI",
      "VE FvGzS SPREAD THUMB FORWsDbHyD-CUP FIVE FvGzS SPREADfOPENbHyD-HvGE FIVE FvGzS SPREAD OPE",
      "NbHyD-OVr FIVE FvGzS SPREADbHyD-FLAT FIVE FvGzS SPREAD HvGEDgTHUMB SIDEgNO THUMBbHyD-FLATc",
      "BETWEEN PrM FACvGScHEELcTHUMB SIDEcHEEL THUMB SIDEcTHUMB BENTdFORWsDcSPLIT vDEX THUMB SIDE",
      "dCENTREeTHUMB SIDEgBENTdLITTubHyD-CLAWcTHUMB SIDEcNO THUMBcTHUMB FORWsDbHyD-HOOK CURLICUEb",
      "HyD-HOOKbHyD-CUP OPENbHyD-CUPcOPEN THUMB SIDEcTHUMB SIDEcOPEN NO THUMBcNO THUMBcOPEN THUMB",
      " FORWsDcTHUMB FORWsDbHyD-CURLICUE OPENbHyD-CURLICUEbHyD-CIRCubHyD-OVrcTHUMB SIDEcNO THUMBc",
      "THUMB FORWsDbHyD-HvGE OPENdTHUMB FORWsDbHyD-HvGEcSMrLcOPEN THUMB SIDEcTHUMB SIDEcOPEN NO T",
      "HUMBcNO THUMBcTHUMB SIDE TOUCHvG vDEXdBETWEEN MIDDu RvGbHyD-yGubHyD-FIST vDEX MIDDu RvGbHy",
      "D-CIRCu vDEX MIDDu RvGbHyD-HvGE vDEX MIDDu RvGbHyD-yGu vDEX MIDDu RvGbHyD-HvGE LITTubHyD-F",
      "IST vDEX MIDDu RvG BENTfCONJOvEDbHyD-HvGE vDEX MIDDu RvG CONJOvEDbHyD-FIST LITTu DOWNeRIPP",
      "u STRAtfCURVEDeOTHzS CIRCuDdUPcTHUMB UNDz LITTu UPbHyD-CIRCu LITTu UPbHyD-OVr LITTu UPbHyD",
      "-yGu LITTu UPbHyD-FIST LITTu RAISED KNUCKudBENTdTOUCHES THUMBdTHUMBbHyD-HvGE LITTu THUMBbH",
      "yD-FIST LITTu vDEX THUMBbHyD-HvGE LITTu vDEX THUMBbHyD-yGu LITTu vDEX THUMB vDEX THUMB OUT",
      "gTHUMBbHyD-FIST LITTu vDEXbHyD-CIRCu LITTu vDEXbHyD-HvGE LITTu vDEXbHyD-yGu LITTu vDEXbHyD",
      "-FIST vDEX MIDDu LITTubHyD-CIRCu vDEX MIDDu LITTubHyD-HvGE vDEX MIDDu LITTucRvGbHyD-yGu vD",
      "EX MIDDu LITTubHyD-FIST vDEX MIDDu CROSS LITTubHyD-CIRCu vDEX MIDDu CROSS LITTubHyD-FIST R",
      "vG DOWNbHyD-HvGE RvG DOWN vDEX THUMB HOOK MIDDubHyD-yGu RvG DOWN MIDDu THUMB vDEX CROSSbHy",
      "D-FIST RvG UPdRAISED KNUCKudLITTubHyD-CIRCu RvG LITTubHyD-OVr RvG LITTubHyD-yGu RvG LITTub",
      "HyD-FIST RvG MIDDueCONJOvEDeRAISED KNUCKuSdvDEXdTHUMBbHyD-HOOK RvG THUMBbHyD-FIST vDEX RvG",
      " LITTubHyD-CIRCu vDEX RvG LITTubHyD-CURLICUE vDEX RvG LITTu ONbHyD-HOOK vDEX RvG LITTu OUT",
      "fvfUNDzbHyD-CUP vDEX RvG LITTubHyD-HvGE vDEX RvG LITTubHyD-yGu vDEX RvG LITTu OUTeLITTubHy",
      "D-FIST MIDDu DOWNbHyD-HvGE MIDDubHyD-FIST MIDDu UPbHyD-CIRCu MIDDu UPbHyD-FIST MIDDu RAISE",
      "D KNUCKudUP THUMB SIDEbHyD-HOOK MIDDu THUMBbHyD-FIST MIDDu THUMB LITTudLITTudRvG LITTubHyD",
      "-CIRCu MIDDu RvG LITTubHyD-CURLICUE MIDDu RvG LITTu ONbHyD-CUP MIDDu RvG LITTubHyD-HvGE MI",
      "DDu RvG LITTubHyD-yGu MIDDu RvG LITTu OUTfveLITTubHyD-CIRCu MIDDu RvG LITTu BENTbHyD-CLAW ",
      "MIDDu RvG LITTu CONJOvEDgSIDEbHyD-HOOK MIDDu RvG LITTu CONJOvED OUTgvfCONJOvEDbHyD-HvGE vD",
      "EX HvGEDbHyD-FIST vDEX THUMB SIDEbHyD-HvGE vDEX THUMB SIDEbHyD-FIST vDEX THUMB SIDE THUMB ",
      "DIAGONrgCONJOvEDgBENTfvDEX BENTfBOTH BENTfvDEX HvGEeFORWsD vDEX STRAtgBENTeHOOKeCURLICUEeC",
      "URVE THUMB vSIDEbHyD-CLAW vDEX THUMB CURVE THUMB vSIDEbHyD-FIST vDEX THUMB CURVE THUMB UND",
      "zeCIRCubHyD-CUP vDEX THUMBeOPENbHyD-HvGE vDEX THUMB OPENeLsGEdTHUMBeSMrLbHyD-yGu vDEX THUM",
      "B OUTevdTHUMBbHyD-FIST THUMBdHEELdSIDE DIAGONreCONJOvEDeBENTdFORWsDdBETWEEN vDEX MIDDueMID",
      "Du RvGeRvG LITTudUNDz TWO FvGzSdOVz TWO FvGzSdUNDz THREE FvGzSeFOUR FvGzSdOVz FOUR RAISED ",
      "KNUCKuSbHyD-FISTcHEELbTOUCH SvGucMULTIPucBETWEENbGRASP SvGucMULTIPucBETWEENbSTRIKE SvGucMU",
      "LTIPucBETWEENbBRUSH SvGucMULTIPucBETWEENbRUB SvGucMULTIPucBETWEENbSURFACE SYMBOLScBETWEENb",
      "SQUEEZE LsGE SvGucSMrL SvGucLsGE MULTIPucSMrL MULTIPucSEQUENTIrbFLICK LsGE SvGucSMrL SvGuc",
      "LsGE MULTIPucSMrL MULTIPucSEQUENTIrbSQUEEZE FLICK rTzNATvGbMOVEMENT-HvGE UP DOWN LsGEeSMrL",
      "dSEQUENTIrcDOWN SEQUENTIrcUP DOWN rTzNATvG LsGEfSMrLcSIDE TO SIDE SCISSORSbMOVEMENT-WrLPLy",
      "E FvGz CONTACTbMOVEMENT-FLOORPLyE FvGz CONTACTbMOVEMENT-WrLPLyE SvGu STRAt SMrLeMEDIUMeLsG",
      "EeLsGESTdWRIST FuXcDOUBu STRAtdWRIST FuXdrTzNATvGeWRIST FuXcCROSScTRIPu STRAt MOVEMENTdWRI",
      "ST FuXdrTzNATvGeWRIST FuXcBEND SMrLdMEDIUMdLsGEcCORNz SMrLdMEDIUMdLsGEdROTATIONcCHECK SMrL",
      "dMEDIUMdLsGEcBOX SMrLdMEDIUMdLsGEcZIGZAG SMrLdMEDIUMdLsGEcPEAKS SMrLdMEDIUMdLsGEbTRAVEL-Wr",
      "LPLyE ROTATION-WrLPLyE SvGudDOUBudrTzNATvGcROTATION-FLOORPLyE SvGudDOUBudrTzNATvGcSHAKvGcs",
      "M SPIRr SvGueDOUBueTRIPubMOVEMENT-DIAGONr AWAY SMrLdMEDIUMdLsGEdLsGESTcTOWsDS SMrLdMEDIUMd",
      "LsGEdLsGESTcBETWEEN AWAY SMrLeMEDIUMeLsGEeLsGESTdTOWsDS SMrLeMEDIUMeLsGEeLsGESTbMOVEMENT-F",
      "LOORPLyE SvGu STRAt SMrLeMEDIUMeLsGEeLsGESTdWRIST FuXcDOUBu STRAtdWRIST FuXdrTzNATvGeWRIST",
      " FuXcCROSScTRIPu STRAt MOVEMENTdWRIST FuXdrTzNATvG MOVEMENTeWRIST FuXcBENDcCORNz SMrLdMEDI",
      "UMdLsGEcCHECKcBOX SMrLdMEDIUMdLsGEcZIGZAG SMrLdMEDIUMdLsGEcPEAKS SMrLdMEDIUMdLsGEbTRAVEL-F",
      "LOORPLyE ROTATION-FLOORPLyE SvGudDOUBudrTzNATvGcROTATION-WrLPLyE SvGudDOUBudrTzNATvGcSHAKv",
      "GbMOVEMENT-WrLPLyE CURVE QUsTz SMrLeMEDIUMeLsGEeLsGESTdHrF-CIRCu SMrLeMEDIUMeLsGEeLsGESTdT",
      "HREE-QUsTz CIRCu SMrLfMEDIUMcHUMP SMrLdMEDIUMdLsGEcLOOP SMrLdMEDIUMdLsGEdSMrL DOUBucWAVE C",
      "URVE DOUBu SMrLfMEDIUMfLsGEeTRIPu SMrLfMEDIUMfLsGEcCURVE THEN STRAtcCURVED CROSS SMrLeMEDI",
      "UMbROTATION-WrLPLyE SvGucDOUBucrTzNATEbMOVEMENT-WrLPLyE SHAKvGcCURVE HITTvG FRONT WrLcHUMP",
      " HITTvG FRONT WrLcLOOP HITTvG FRONT WrLcWAVE HITTvG FRONT WrLbROTATION-WrLPLyE SvGu HITTvG",
      " FRONT WrLcDOUBu HITTvG FRONT WrLcrTzNATvG HITTvG FRONT WrLbMOVEMENT-WrLPLyE CURVE HITTvG ",
      "CHESTcHUMP HITTvG CHESTcLOOP HITTvG CHESTcWAVE HITTvG CHESTbROTATION-WrLPLyE SvGu HITTvG C",
      "HESTcDOUBu HITTvG CHESTcrTzNATvG HITTvG CHESTbMOVEMENT-WrLPLyE WAVE DIAGONr PATH SMrLfMEDI",
      "UMfLsGEbMOVEMENT-FLOORPLyE CURVE HITTvG CEILvG SMrLfLsGEcHUMP HITTvG CEILvG SMrL DOUBufLsG",
      "E DOUBufSMrL TRIPufLsGE TRIPucLOOP HITTvG CEILvG SMrL SvGufLsGE SvGufSMrL DOUBufLsGE DOUBu",
      "cWAVE HITTvG CEILvG SMrLfLsGEbROTATION-FLOORPLyE SvGu HITTvG CEILvGcDOUBu HITTvG CEILvGcrT",
      "zNATvG HITTvG CEILvGbMOVEMENT-FLOORPLyE CURVE HITTvG FLOOR SMrLfLsGEcHUMP HITTvG FLOOR SMr",
      "L DOUBufLsGE DOUBufTRIPu SMrL TRIPugLsGE TRIPucLOOP HITTvG FLOOR SMrL SvGufLsGE SvGufSMrL ",
      "DOUBufLsGE DOUBucWAVE HITTvG FLOOR SMrLfLsGEbROTATION-FLOORPLyE SvGu HITTvG FLOORcDOUBu HI",
      "TTvG FLOORcrTzNATvG HITTvG FLOORbMOVEMENT-FLOORPLyE CURVE SMrLdMEDIUMdLsGEdLsGESTdCOMBvEDc",
      "HUMP SMrLcLOOP SMrLcWAVE SNAKEdSMrLdLsGEbROTATION-FLOORPLyE SvGucDOUBucrTzNATvGbMOVEMENT-F",
      "LOORPLyE SHAKvG PsruLbMOVEMENT-WrLPLyE sM CIRCu SMrL SvGueMEDIUM SvGueSMrL DOUBueMEDIUM DO",
      "UBubMOVEMENT-FLOORPLyE sM CIRCu HITTvG WrL SMrL SvGugMEDIUM SvGugLsGE SvGugSMrL DOUBugMEDI",
      "UM DOUBugLsGE DOUBubMOVEMENT-WrLPLyE WRIST CIRCu FRONT SvGufDOUBubMOVEMENT-FLOORPLyE WRIST",
      " CIRCu HITTvG WrL SvGugDOUBubMOVEMENT-WrLPLyE FvGz CIRCuS SvGueDOUBubMOVEMENT-FLOORPLyE Fv",
      "Gz CIRCuS HITTvG WrL SvGugDOUBubDYNAMIC sROWHEAD SMrLdLsGEcFASTcSLOWcTENSEcRELAXEDcSIMULTy",
      "EOUSdrTzNATvGcEVzY OTHz TIMEcGRADUrbHEADcRIMcMOVEMENT-WrLPLyE STRAtdTILTcMOVEMENT-FLOORPLy",
      "E STRAtcMOVEMENT-WrLPLyE CURVEcMOVEMENT-FLOORPLyE CURVEcMOVEMENT CIRCubFACE DIRECTION POSI",
      "TION NOSE FORWsD TILTvGfUP OR DOWNiTILTvGbEYEBROWS STRAt UPdNEUTRrdDOWNbDREAMY EYEBROWS NE",
      "UTRr DOWNdDOWN NEUTRrdUP NEUTRrdNEUTRr UPbFOREHEAD NEUTRrcCONTACTcWRvKuDbEYES OPENcSQUEEZE",
      "DcCLOSEDbEYE BLvK SvGudMULTIPubEYES HrF OPENcWIDE OPENcHrF CLOSEDcWIDENvG MOVEMENTbEYE WvK",
      "bEYELASHES UPcDOWNcFLUTTzvGbEYEGAZE-WrLPLyE STRAtdDOUBudrTzNATvGbEYEGAZE-FLOORPLyE STRAtdD",
      "OUBudrTzNATvGbEYEGAZE-WrLPLyE CURVEDbEYEGAZE-FLOORPLyE CURVEDbEYEGAZE-WrLPLyE CIRCLvGbCHEE",
      "KS PUFFEDcNEUTRrcSUCKEDbTENSE CHEEKS HIGHdMIDDudLOWbEsSbNOSE NEUTRrcCONTACTcWRvKuScWIGGuSb",
      "AIR BLOWvG OUTcSUCKvG vcBLOW SMrL ROTATIONScSUCK SMrL ROTATIONSbBREATH vHrEcEXHrEbMOUTH CL",
      "OSED NEUTRrdFORWsDdCONTACTcSMIudWRvKuDdOPENcFROWNdWRvKuDdOPENcOPEN CIRCudFORWsDdWRvKuDdOVr",
      "eWRvKuDeYAWNdRECTyGueWRvKuDeYAWNcKISSdFORWsDdWRvKuDcTENSEdFORWsDdSUCKEDbLIPS PRESSED TOGET",
      "HzbLIP LOWz OVz UPPzcUPPz OVz LOWzbMOUTH CORNzScWRvKuS SvGudDOUBubTONGUE STICKvG OUT FscLI",
      "CKvG LIPScTIP BETWEEN LIPSdTOUCHvG vSIDE MOUTHcvSIDE MOUTH RELAXEDcMOVES AGAvST CHEEKcCENT",
      "RE STICKvG OUTdvSIDE MOUTHbTEETHcMOVEMENTcON TONGUEeMOVEMENTdLIPSeMOVEMENTcBITE LIPSbMOVEM",
      "ENT-WrLPLyE JAWbMOVEMENT-FLOORPLyE JAWbNECKbHAIRbEXCITEMENTbSHOULDz HIP SPvEdPOSITIONSbWrL",
      "PLyE SHOULDz HIP MOVEbFLOORPLyE SHOULDz HIP MOVEbSHOULDz TILTvG FROM WAISTbTORSO-WrLPLyE S",
      "TRAt STRETCHcCURVED BENDbTORSO-FLOORPLyE TWISTvGbUPPz BODY TILTvG FROM HIP JOvTSbLIMB COMB",
      "vATIONcuNGTH-1cuNGTH-2cuNGTH-3cuNGTH-4cuNGTH-5cuNGTH-6cuNGTH-7bFvGzbLOCATION-WrLPLyE SPACE",
      "bLOCATION-FLOORPLyE SPACEbLOCATION HEtcWIDTHcDEPTHcHEAD NECKcTORSOcLIMBS DIGITSbCOMMAbFULL",
      " STOPbSEMICOLONbCOLONbPsENTHESIS"]⟩,
   ⟨0x1DA9B, [
      "aSIGNWRITvG FILL MODIFIz-2cMODIFIz-3cMODIFIz-4cMODIFIz-5cMODIFIz-6.bROTATION MODIFIz-2cMOD",
      "IFIz-3cMODIFIz-4cMODIFIz-5cMODIFIz-6cMODIFIz-7cMODIFIz-8cMODIFIz-9cMODIFIz-10cMODIFIz-11cM",
      "ODIFIz-12cMODIFIz-13cMODIFIz-14cMODIFIz-15cMODIFIz-16"]⟩,
   ⟨0x1DF00, [
      "aLATv SMrLpFENG DIGRAPHqTRILLdREVzSED SCRIPT GbuTTz SMrL xL TURNED GbSMrLpREVzSED KbuTTz S",
      "MrL xL LqBELTbSMrLpuZHqRETROFuX HOOKdTURNED YqBELTdREVzSED ENGdTURNED RqLONG uG yD RETROFu",
      "X HOOKdTqHOOK yD RETROFuX HOOKbuTTz RETROFuX CLICKqRETROFuX HOOKbSMrLpESHqDOUBu BshyD CURL",
      "dTURNED TqCURLbuTTz vVzTED GLOTTr STOPqCURLcSTRETCHED CqCURLcSMrL xL TURNED KbSMrLpLqFISHH",
      "OOKdDEZH DIGRAPHqPrATr HOOKdLqBELT yD PrATr HOOKdENGqPrATr HOOKdTURNED RqPrATr HOOKdRqFISH",
      "HOOK yD PrATr HOOKdTESH DIGRAPHqPrATr HOOKdEZHqPrATr HOOKdDEZH DIGRAPHqRETROFuX HOOKdIqSTR",
      "OKE yD RETROFuX HOOKdOqRETROFuX HOOKdTESH DIGRAPHqRETROFuX HOOKdCqRETROFuX HOOKdSqCURL"]⟩,
   ⟨0x1E000, [
      "aCOMBvvG GLAGOLITICpAZUdBUKYdVEDEdGLAGOLIdDOBROdYESTUdZHIVETE.dZEMLJAdIZHEdvITIr IZHEdIdDJ",
      "zVIdKAKOdLJUDIJEdMYSLITEdNASHIdONUdPOKOJIdRITSIdSLOVOdTVRIDOdUKUdFRITUdHzU..dSHTAdTSIdCHRI",
      "VIdSHAdYzUdYzIdYATI.dYUdSMrL YUS.dYOdIOTATED SMrL YUSdBIG YUSdIOTATED BIG YUSdFITA"]⟩,
   ⟨0x1E100, [
      "aNYIAKENG PUACHUE HMONGpMAeTSAeNTAeTAeHAeNAeXAeNKAeCAeLAeSAeZAeNCAeNTSAeKAeDAeNYAeNRAeVAeN",
      "TXAeTXAeFAeRAeQAeYAeNQAePAeXYAeNPAeDLAeNPLAeHAHeMLAePLAeGAeRRAeAeAAeIeUeOeOOeEeEEeW...dTON",
      "E-BdTONE-MdTONE-JdTONE-VdTONE-SdTONE-GdTONE-DdSIGN FOR PzSONfTHvGfLOCATIONfyIMrfvVzTEBRATE",
      "eXW XWdSYLLABu uNGTHENz..dDIGIT ZzOeONEeTWOeTHREEeFOUReFIVEeSIXeSEVENeEteNvE....dLOGOGRAM ",
      "NYAJdCIRCuD CA"]⟩,
   ⟨0x1E290, [
      "aTOTOpPAcBAcTAcDAcKAcGAcMAcNAcNGAcSAcCHAcYAcWAcJAcHAcRAcLAcIcBREATHY IcIUcBREATHY IUcUcEcB",
      "REATHY EcEOcBREATHY EOcOcAEcBREATHY AEcAbSIGN RISvG TONE"]⟩,
   ⟨0x1E2C0, [
      "aWyCHOpAAcAcBAcCAcDAcGAcYAcPHAcLAcNAcPAcTAcTHAcFAcSAcSHAcJAcZAcWAcVAcKAcOcAUcRAcMAcKHAcHAc",
      "EcIcNGAcUcLLHAcTSAcTRAcONGcAyGcyGcvGcONcENcAycNYAcUENcYIHbTONE TUPcTUPNIcKOIcKOvIbDIGIT Zz",
      "OcONEcTWOcTHREEcFOURcFIVEcSIXcSEVENcEtcNvE.....bNGUN SIGN"]⟩,
   ⟨0x1E7E0, [
      "aETHIOPIC SYLLABu HHYAcHHYUcHHYIcHHYAAcHHYEEcHHYEcHHYO.cGURAGE HHWAcHHWIcHHWEEcHHWE.cGURAG",
      "E MWIdMWEE.dQWIdQWEEdQWEdBWIdBWEEdKWIdKWEEdKWEdGWIdGWEEdGWEdFWIdFWEEdPWIdPWEE.aMENDE KIKAK",
      "UI SYLLABu M001 KIdM002 KAdM003 KUdM065 KEEdM095 KEdM076 KOOdM048 KOdM179 KUAdM004 WIdM005",
      " WAdM006 WUdM126 WEEdM118 WEdM114 WOOdM045 WOdM194 WUIdM143 WEIdM061 WVIdM049 WVAdM139 WVE",
      "dM007 MvdM008 MydM009 MUNdM059 MENdM094 MONdM154 MUydM189 MUENdM010 BIdM011 BAdM012 BUdM15",
      "0 BEEdM097 BEdM103 BOOdM138 BOdM013 IdM014 AdM015 UdM163 EEdM100 EdM165 OOdM147 OdM137 EId",
      "M131 vdM135 vdM195 ydM178 ENdM019 SIdM020 SAdM021 SUdM162 SEEdM116 SEdM136 SOOdM079 SOdM19",
      "6 SIAdM025 LIdM026 LAdM027 LUdM084 uEdM073 udM054 LOOdM153 LOdM110 LONG udM016 DIdM017 DAd",
      "M018 DUdM089 DEEdM180 DOOdM181 DOdM022 TIdM023 TAdM024 TUdM091 TEEdM055 TEdM104 TOOdM069 T",
      "OdM028 JIdM029 JAdM030 JUdM157 JEEdM113 JEdM160 JOOdM063 JOdM175 LONG JOdM031 YIdM032 YAdM",
      "033 YUdM109 YEEdM080 YEdM141 YOOdM121 YOdM034 FIdM035 FAdM036 FUdM078 FEEdM075 FEdM133 FOO",
      "dM088 FOdM197 FUAdM101 FydM037 NvdM038 NydM039 NUNdM117 NENdM169 NONdM176 HIdM041 HAdM186 ",
      "HUdM040 HEEdM096 HEdM042 HOOdM140 HOdM083 HEEIdM128 HOOUdM053 HvdM130 HydM087 HUNdM052 HEN",
      "dM193 HONdM046 HUydM090 NGGIdM043 NGGAdM082 NGGUdM115 NGGEEdM146 NGGEdM156 NGGOOdM120 NGGO",
      "dM159 NGGAAdM127 NGGUAdM086 LONG NGGEdM106 LONG NGGOOdM183 LONG NGGOdM155 GIdM111 GAdM168 ",
      "GUdM190 GEEdM166 GUEIdM167 GUydM184 NGENdM057 NGONdM177 NGUydM068 PIdM099 PAdM050 PUdM081 ",
      "PEEdM051 PEdM102 POOdM066 POdM145 MBIdM062 MBAdM122 MBUdM047 MBEEdM188 MBEEdM072 MBEdM172 ",
      "MBOOdM174 MBOdM187 MBUUdM161 LONG MBEdM105 LONG MBOOdM142 LONG MBOdM132 KPIdM092 KPAdM074 ",
      "KPUdM044 KPEEdM108 KPEdM112 KPOOdM158 KPOdM124 GBIdM056 GBAdM148 GBUdM093 GBEEdM107 GBEdM0",
      "71 GBOOdM070 GBOdM171 RAdM123 NDIdM129 NDAdM125 NDUdM191 NDEEdM119 NDEdM067 NDOOdM064 NDOd",
      "M152 NJAdM192 NJUdM149 NJEEdM134 NJOOdM182 VIdM185 VAdM151 VUdM173 VEEdM085 VEdM144 VOOdM0",
      "77 VOdM164 NYvdM058 NYydM170 NYUNdM098 NYENdM060 NYON..cDIGIT ONEdTWOdTHREEdFOURdFIVEdSIXd",
      "SEVENdEtdNvEcCOMBvvG NUMBz TEENSeTENSeHUNDREDSeTHOUSyDSeTEN THOUSyDSeHUNDRED THOUSyDSeMILL",
      "IONS"]⟩,
   ⟨0x1E900, [
      "aADLAM xLprIFdDArIdLAAMdMIIMdBAdSvNYIIYHEdPEdBHEdRAdEdFAdIdOdDHAdYHEdWAWdNUNdKAFdYAdUdJIIM",
      "dCHIdHAdQAAFdGAdNYAdTUdNHAdVAdKHAdGBEdZrdKPOdSHAbSMrLprIFdDArIdLAAMdMIIMdBAdSvNYIIYHEdPEdB",
      "HEdRAdEdFAdIdOdDHAdYHEdWAWdNUNdKAFdYAdUdJIIMdCHIdHAdQAAFdGAdNYAdTUdNHAdVAdKHAdGBEdZrdKPOdS",
      "HAbrIF uNGTHENzbVOWEL uNGTHENzbGEMvATION MsKbHAMZAbCONSONyT MODIFIzbGEMvATE CONSONyT MODIF",
      "IzbNUKTAbNASrIZATION MsK....bDIGIT ZzOcONEcTWOcTHREEcFOURcFIVEcSIXcSEVENcEtcNvE....bvITIr ",
      "EXCLAMATION MsKcQUESTION MsK"]⟩,
   ⟨0x1EC71, [
      "avDIC SIYAQ NUMBz ONEdTWOdTHREEdFOURdFIVEdSIXdSEVENdEtdNvEdTENdTWENTYdTHIRTYdFORTYdFIFTYdS",
      "IXTYdSEVENTYdEtYdNvETYdONE HUNDREDdTWO HUNDREDdTHREE HUNDREDdFOUR HUNDREDdFIVE HUNDREDdSIX",
      " HUNDREDdSEVEN HUNDREDdEt HUNDREDdNvE HUNDREDdONE THOUSyDdTWO THOUSyDdTHREE THOUSyDdFOUR T",
      "HOUSyDdFIVE THOUSyDdSIX THOUSyDdSEVEN THOUSyDdEt THOUSyDdNvE THOUSyDdTEN THOUSyDdTWENTY TH",
      "OUSyDdTHIRTY THOUSyDdFORTY THOUSyDdFIFTY THOUSyDdSIXTY THOUSyDdSEVENTY THOUSyDdEtY THOUSyD",
      "dNvETY THOUSyDdLAKHdLAKHycLAKH MsKcNUMBz KsORdKsORydPREFIXED ONEeTWOeTHREEeFOUReFIVEeSIXeS",
      "EVENeEteNvEcPLACEHOLDzcFRACTION ONE QUsTzeHrFdTHREE QUsTzScRUPEE MsKcNUMBz rTzNATE ONEeTWO",
      "eTEN THOUSyDcrTzNATE LAKH MsK"]⟩,
   ⟨0x1ED01, [
      "aOTTOMy SIYAQ NUMBz ONEdTWOdTHREEdFOURdFIVEdSIXdSEVENdEtdNvEdTENdTWENTYdTHIRTYdFORTYdFIFTY",
      "dSIXTYdSEVENTYdEtYdNvETYdONE HUNDREDdTWO HUNDREDdTHREE HUNDREDdFOUR HUNDREDdFIVE HUNDREDdS",
      "IX HUNDREDdSEVEN HUNDREDdEt HUNDREDdNvE HUNDREDdONE THOUSyDdTWO THOUSyDdTHREE THOUSyDdFOUR",
      " THOUSyDdFIVE THOUSyDdSIX THOUSyDdSEVEN THOUSyDdEt THOUSyDdNvE THOUSyDdTEN THOUSyDdTWENTY ",
      "THOUSyDdTHIRTY THOUSyDdFORTY THOUSyDdFIFTY THOUSyDdSIXTY THOUSyDdSEVENTY THOUSyDdEtY THOUS",
      "yDdNvETY THOUSyDcMsRATycrTzNATE NUMBz TWOeTHREEeFOUReFIVEeSIXeSEVENeEteNvEeTENeFOUR HUNDRE",
      "DeSIX HUNDREDeTWO THOUSyDeTEN THOUSyDcFRACTION ONE HrFeSIXTH"]⟩,
   ⟨0x1EE00, [
      "asABIC MATHEMATICr rEFcBEHcJEEMcDr.cWAWcZAvcHAHcTAHcYEHcKAFcLAMcMEEMcNOONcSEENcAvcFEHcSADc",
      "QAFcREHcSHEENcTEHcTHEHcKHAHcTHrcDADcZAHcGHAvcDOTuSS BEHdNOONdFEHdQAF.cvITIr BEHdJEEM.dHEH.",
      ".dHAH.dYEHdKAFdLAMdMEEMdNOONdSEENdAvdFEHdSADdQAF.dSHEENdTEHdTHEHdKHAH.dDAD.dGHAv"]⟩,
   ⟨0x1EE42, [
      "asABIC MATHEMATICr TAIuD JEEM....dHAH.dYEH.dLAM.dNOONdSEENdAv.dSADdQAF.dSHEEN..dKHAH.dDAD.",
      "dGHAv.dDOTuSS NOON.eQAF.cSTRETCHED BEHdJEEM.dHEH..dHAHdTAHdYEHdKAF.dMEEMdNOONdSEENdAvdFEHd",
      "SADdQAF.dSHEENdTEHdTHEHdKHAH.dDADdZAHdGHAvdDOTuSS BEH.eFEH.cLOOPED rEFdBEHdJEEMdDrdHEHdWAW",
      "dZAvdHAHdTAHdYEH.dLAMdMEEMdNOONdSEENdAvdFEHdSADdQAFdREHdSHEENdTEHdTHEHdKHAHdTHrdDADdZAHdGH",
      "Av.....cDOUBu-STRUCK BEHdJEEMdDr.dWAWdZAvdHAHdTAHdYEH.dLAMdMEEMdNOONdSEENdAvdFEHdSADdQAFdR",
      "EHdSHEENdTEHdTHEHdKHAHdTHrdDADdZAHdGHAv"]⟩,
   ⟨0x1EEF0, ["asABIC MATHEMATICr OPzATOR MEEMqHAHqTATWEELdHAHqDr"]⟩]

end Upkeep.Text.Names
