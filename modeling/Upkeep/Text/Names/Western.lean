import Upkeep.Text.Names.Packed

/-!
Names of characters: Latin, Greek, Cyrillic and Armenian.
-/
namespace Upkeep.Text.Names

def western : List Run :=
  [⟨0x20, [
      "aSPACEaEXCLAMATION MsKaQUOTATION MsKaNUMBz SIGNaDOLLs SIGNaPzCENT SIGNaAMPzSyDaAPOSTROPHEa",
      "uFT PsENTHESISaRt PsENTHESISaASTzISKaPLUS SIGNaCOMMAaHYPHEN-MvUSaFULL STOPaSOLIDUSaDIGIT Z",
      "zObONEbTWObTHREEbFOURbFIVEbSIXbSEVENbEtbNvEaCOLONaSEMICOLONauSS-THy SIGNaEQUrS SIGNaGREATz",
      "-THy SIGNaQUESTION MsKaCOMMzCIr ATaLATv xLpAdBdCdDdEdFdGdHdIdJdKdLdMdNdOdPdQdRdSdTdUdVdWdX",
      "dYdZauFT SQUsE BRACKETaREVzSE SOLIDUSaRt SQUsE BRACKETaCIRCUMFuX ACCENTaLOW LvEaGRAVE ACCE",
      "NTaLATv SMrLpAdBdCdDdEdFdGdHdIdJdKdLdMdNdOdPdQdRdSdTdUdVdWdXdYdZauFT CURLY BRACKETaVzTICr ",
      "LvEaRt CURLY BRACKETaTILDE"]⟩,
   ⟨0xA0, [
      "aNO-BREAK SPACEavVzTED EXCLAMATION MsKaCENT SIGNaPOUND SIGNaCURRENCY SIGNaYEN SIGNaBROKEN ",
      "BsaSECTION SIGNaDIAzESISaCOPYRt SIGNaFEMvvE ORDvr vDICATORauFT-POvTvG DOUBu yGu QUOTATION ",
      "MsKaNOT SIGNaSOFT HYPHENaREGISTzED SIGNaMACRONaDEGREE SIGNaPLUS-MvUS SIGNaSUPzSCRIPT TWObT",
      "HREEaACUTE ACCENTaMICRO SIGNaPILCROW SIGNaMIDDu DOTaCEDILLAaSUPzSCRIPT ONEaMASCULvE ORDvr ",
      "vDICATORaRt-POvTvG DOUBu yGu QUOTATION MsKaVULGs FRACTION ONE QUsTzdHrFcTHREE QUsTzSavVzTE",
      "D QUESTION MsKaLATv xLpAqGRAVEfACUTEfCIRCUMFuXfTILDEfDIAzESISfRvG ABOVEdAEdCqCEDILLAdEqGRA",
      "VEfACUTEfCIRCUMFuXfDIAzESISdIqGRAVEfACUTEfCIRCUMFuXfDIAzESISdETHdNqTILDEdOqGRAVEfACUTEfCIR",
      "CUMFuXfTILDEfDIAzESISaMULTIPLICATION SIGNaLATv xLpOqSTROKEdUqGRAVEfACUTEfCIRCUMFuXfDIAzESI",
      "SdYqACUTEdTHORNbSMrLpSHsP SdAqGRAVEfACUTEfCIRCUMFuXfTILDEfDIAzESISfRvG ABOVEdAEdCqCEDILLAd",
      "EqGRAVEfACUTEfCIRCUMFuXfDIAzESISdIqGRAVEfACUTEfCIRCUMFuXfDIAzESISdETHdNqTILDEdOqGRAVEfACUT",
      "EfCIRCUMFuXfTILDEfDIAzESISaDIVISION SIGNaLATv SMrLpOqSTROKEdUqGRAVEfACUTEfCIRCUMFuXfDIAzES",
      "ISdYqACUTEdTHORNdYqDIAzESISbxLpAqMACRONbSMrLpAqMACRONbxLpAqBREVEbSMrLpAqBREVEbxLpAqOGONEKb",
      "SMrLpAqOGONEKbxLpCqACUTEbSMrLpCqACUTEbxLpCqCIRCUMFuXbSMrLpCqCIRCUMFuXbxLpCqDOT ABOVEbSMrLp",
      "CqDOT ABOVEbxLpCqCsONbSMrLpCqCsONbxLpDqCsONbSMrLpDqCsONbxLpDqSTROKEbSMrLpDqSTROKEbxLpEqMAC",
      "RONbSMrLpEqMACRONbxLpEqBREVEbSMrLpEqBREVEbxLpEqDOT ABOVEbSMrLpEqDOT ABOVEbxLpEqOGONEKbSMrL",
      "pEqOGONEKbxLpEqCsONbSMrLpEqCsONbxLpGqCIRCUMFuXbSMrLpGqCIRCUMFuXbxLpGqBREVEbSMrLpGqBREVEbxL",
      "pGqDOT ABOVEbSMrLpGqDOT ABOVEbxLpGqCEDILLAbSMrLpGqCEDILLAbxLpHqCIRCUMFuXbSMrLpHqCIRCUMFuXb",
      "xLpHqSTROKEbSMrLpHqSTROKEbxLpIqTILDEbSMrLpIqTILDEbxLpIqMACRONbSMrLpIqMACRONbxLpIqBREVEbSMr",
      "LpIqBREVEbxLpIqOGONEKbSMrLpIqOGONEKbxLpIqDOT ABOVEbSMrLpDOTuSS IbxL LIGATURE IJbSMrL LIGAT",
      "URE IJbxLpJqCIRCUMFuXbSMrLpJqCIRCUMFuXbxLpKqCEDILLAbSMrLpKqCEDILLAdKRAbxLpLqACUTEbSMrLpLqA",
      "CUTEbxLpLqCEDILLAbSMrLpLqCEDILLAbxLpLqCsONbSMrLpLqCsONbxLpLqMIDDu DOTbSMrLpLqMIDDu DOTbxLp",
      "LqSTROKEbSMrLpLqSTROKEbxLpNqACUTEbSMrLpNqACUTEbxLpNqCEDILLAbSMrLpNqCEDILLAbxLpNqCsONbSMrLp",
      "NqCsONePRECEDED BY APOSTROPHEbxLpENGbSMrLpENGbxLpOqMACRONbSMrLpOqMACRONbxLpOqBREVEbSMrLpOq",
      "BREVEbxLpOqDOUBu ACUTEbSMrLpOqDOUBu ACUTEbxL LIGATURE OEbSMrL LIGATURE OEbxLpRqACUTEbSMrLp",
      "RqACUTEbxLpRqCEDILLAbSMrLpRqCEDILLAbxLpRqCsONbSMrLpRqCsONbxLpSqACUTEbSMrLpSqACUTEbxLpSqCIR",
      "CUMFuXbSMrLpSqCIRCUMFuXbxLpSqCEDILLAbSMrLpSqCEDILLAbxLpSqCsONbSMrLpSqCsONbxLpTqCEDILLAbSMr",
      "LpTqCEDILLAbxLpTqCsONbSMrLpTqCsONbxLpTqSTROKEbSMrLpTqSTROKEbxLpUqTILDEbSMrLpUqTILDEbxLpUqM",
      "ACRONbSMrLpUqMACRONbxLpUqBREVEbSMrLpUqBREVEbxLpUqRvG ABOVEbSMrLpUqRvG ABOVEbxLpUqDOUBu ACU",
      "TEbSMrLpUqDOUBu ACUTEbxLpUqOGONEKbSMrLpUqOGONEKbxLpWqCIRCUMFuXbSMrLpWqCIRCUMFuXbxLpYqCIRCU",
      "MFuXbSMrLpYqCIRCUMFuXbxLpYqDIAzESISdZqACUTEbSMrLpZqACUTEbxLpZqDOT ABOVEbSMrLpZqDOT ABOVEbx",
      "LpZqCsONbSMrLpZqCsONdLONG SdBqSTROKEbxLpBqHOOKfTOPBsbSMrLpBqTOPBsbxLpTONE SIXbSMrLpTONE SI",
      "XbxLpOPEN OdCqHOOKbSMrLpCqHOOKbxLpAFRICy DdDqHOOKfTOPBsbSMrLpDqTOPBsdTURNED DELTAbxLpREVzS",
      "ED EdSCHWAdOPEN EdFqHOOKbSMrLpFqHOOKbxLpGqHOOKdGAMMAbSMrLpHVbxLpIOTAdIqSTROKEdKqHOOKbSMrLp",
      "KqHOOKdLqBsdLAMBDAqSTROKEbxLpTURNED MdNquFT HOOKbSMrLpNqLONG Rt uGbxLpOqMIDDu TILDEfHORNbS",
      "MrLpOqHORNbxLpOIbSMrLpOIbxLpPqHOOKbSMrLpPqHOOKbuTTz YRbxLpTONE TWObSMrLpTONE TWObxLpESHbuT",
      "Tz REVzSED ESH LOOPbSMrLpTqPrATr HOOKbxLpTqHOOKbSMrLpTqHOOKbxLpTqRETROFuX HOOKdUqHORNbSMrL",
      "pUqHORNbxLpUPSILONdVqHOOKdYqHOOKbSMrLpYqHOOKbxLpZqSTROKEbSMrLpZqSTROKEbxLpEZHeREVzSEDbSMrL",
      "pEZH REVzSEDeWITH TAILbuTTz TWOqSTROKEbxLpTONE FIVEbSMrLpTONE FIVEbuTTz vVzTED GLOTTr STOP",
      "qSTROKEcWYNNcDENTr CLICKcLATzr CLICKcrVEOLs CLICKcRETROFuX CLICKbxLpDZqCsONdDqSMrLpZqCsONb",
      "SMrLpDZqCsONbxLpLJdLqSMrLpJbSMrLpLJbxLpNJdNqSMrLpJbSMrLpNJbxLpAqCsONbSMrLpAqCsONbxLpIqCsON",
      "bSMrLpIqCsONbxLpOqCsONbSMrLpOqCsONbxLpUqCsONbSMrLpUqCsONbxLpUqDIAzESIS yD MACRONbSMrLpUqDI",
      "AzESIS yD MACRONbxLpUqDIAzESIS yD ACUTEbSMrLpUqDIAzESIS yD ACUTEbxLpUqDIAzESIS yD CsONbSMr",
      "LpUqDIAzESIS yD CsONbxLpUqDIAzESIS yD GRAVEbSMrLpUqDIAzESIS yD GRAVEdTURNED EbxLpAqDIAzESI",
      "S yD MACRONbSMrLpAqDIAzESIS yD MACRONbxLpAqDOT ABOVE yD MACRONbSMrLpAqDOT ABOVE yD MACRONb",
      "xLpAEqMACRONbSMrLpAEqMACRONbxLpGqSTROKEbSMrLpGqSTROKEbxLpGqCsONbSMrLpGqCsONbxLpKqCsONbSMrL",
      "pKqCsONbxLpOqOGONEKbSMrLpOqOGONEKbxLpOqOGONEK yD MACRONbSMrLpOqOGONEK yD MACRONbxLpEZHqCsO",
      "NbSMrLpEZHqCsONdJqCsONbxLpDZdDqSMrLpZbSMrLpDZbxLpGqACUTEbSMrLpGqACUTEbxLpHWAIRdWYNNdNqGRAV",
      "EbSMrLpNqGRAVEbxLpAqRvG ABOVE yD ACUTEbSMrLpAqRvG ABOVE yD ACUTEbxLpAEqACUTEbSMrLpAEqACUTE",
      "bxLpOqSTROKE yD ACUTEbSMrLpOqSTROKE yD ACUTEbxLpAqDOUBu GRAVEbSMrLpAqDOUBu GRAVEbxLpAqvVzT",
      "ED BREVEbSMrLpAqvVzTED BREVEbxLpEqDOUBu GRAVEbSMrLpEqDOUBu GRAVEbxLpEqvVzTED BREVEbSMrLpEq",
      "vVzTED BREVEbxLpIqDOUBu GRAVEbSMrLpIqDOUBu GRAVEbxLpIqvVzTED BREVEbSMrLpIqvVzTED BREVEbxLp",
      "OqDOUBu GRAVEbSMrLpOqDOUBu GRAVEbxLpOqvVzTED BREVEbSMrLpOqvVzTED BREVEbxLpRqDOUBu GRAVEbSM",
      "rLpRqDOUBu GRAVEbxLpRqvVzTED BREVEbSMrLpRqvVzTED BREVEbxLpUqDOUBu GRAVEbSMrLpUqDOUBu GRAVE",
      "bxLpUqvVzTED BREVEbSMrLpUqvVzTED BREVEbxLpSqCOMMA BELOWbSMrLpSqCOMMA BELOWbxLpTqCOMMA BELO",
      "WbSMrLpTqCOMMA BELOWbxLpYOGHbSMrLpYOGHbxLpHqCsONbSMrLpHqCsONbxLpNqLONG Rt uGbSMrLpDqCURLbx",
      "LpOUbSMrLpOUbxLpZqHOOKbSMrLpZqHOOKbxLpAqDOT ABOVEbSMrLpAqDOT ABOVEbxLpEqCEDILLAbSMrLpEqCED",
      "ILLAbxLpOqDIAzESIS yD MACRONbSMrLpOqDIAzESIS yD MACRONbxLpOqTILDE yD MACRONbSMrLpOqTILDE y",
      "D MACRONbxLpOqDOT ABOVEbSMrLpOqDOT ABOVEbxLpOqDOT ABOVE yD MACRONbSMrLpOqDOT ABOVE yD MACR",
      "ONbxLpYqMACRONbSMrLpYqMACRONdLqCURLdNqCURLdTqCURLdDOTuSS JdDB DIGRAPHdQP DIGRAPHbxLpAqSTRO",
      "KEdCqSTROKEbSMrLpCqSTROKEbxLpLqBsdTqDIAGONr STROKEbSMrLpSqSWASH TAILdZqSWASH TAILbxLpGLOTT",
      "r STOPbSMrLpGLOTTr STOPbxLpBqSTROKEdU BsdTURNED VdEqSTROKEbSMrLpEqSTROKEbxLpJqSTROKEbSMrLp",
      "JqSTROKEbxLpSMrL QqHOOK TAILbSMrLpQqHOOK TAILbxLpRqSTROKEbSMrLpRqSTROKEbxLpYqSTROKEbSMrLpY",
      "qSTROKEdTURNED AdrPHAdTURNED rPHAdBqHOOKdOPEN OdCqCURLdDqTAILfHOOKdREVzSED EdSCHWAeWITH HO",
      "OKdOPEN EdREVzSED OPEN EgWITH HOOKdCLOSED REVzSED OPEN EdDOTuSS JqSTROKEdGqHOOKdSCRIPT Gbu",
      "TTz SMrL xL GbSMrLpGAMMAdRAMS HORNdTURNED HdHqHOOKdHENGqHOOKdIqSTROKEdIOTAbuTTz SMrL xL Ib",
      "SMrLpLqMIDDu TILDEfBELTfRETROFuX HOOKduZHdTURNED MfWITH LONG uGdMqHOOKdNquFT HOOKfRETROFuX",
      " HOOKbuTTz SMrL xL NbSMrLpBsRED ObuTTz SMrL xL OEbSMrLpCLOSED OMEGAdPHIdTURNED RfWITH LONG",
      " uGgHOOKdRqLONG uGfTAILfFISHHOOKdREVzSED RqFISHHOOKbuTTz SMrL xL RevVzTED RbSMrLpSqHOOKdES",
      "HdDOTuSS JqSTROKE yD HOOKdSQUAT REVzSED ESHdESHqCURLdTURNED TdTqRETROFuX HOOKdU BsdUPSILON",
      "dVqHOOKdTURNED VeWeYbuTTz SMrL xL YbSMrLpZqRETROFuX HOOKfCURLdEZHeWITH CURLbuTTz GLOTTr ST",
      "OPcPHsYNGEr VOICED FRICATIVEcvVzTED GLOTTr STOPcSTRETCHED CcBILABIr CLICKcSMrL xL BbSMrLpC",
      "LOSED OPEN EbuTTz SMrL xL GqHOOKeHbSMrLpJqCROSSED-TAILdTURNED KbuTTz SMrL xL LbSMrLpQqHOOK",
      "buTTz GLOTTr STOPqSTROKEcREVzSED GLOTTr STOPqSTROKEbSMrLpDZ DIGRAPHdDEZH DIGRAPHdDZ DIGRAP",
      "HqCURLdTS DIGRAPHdTESH DIGRAPHdTC DIGRAPHqCURLdFENG DIGRAPHdLS DIGRAPHdLZ DIGRAPHbuTTz BIL",
      "ABIr PzCUSSIVEcBIDENTr PzCUSSIVEbSMrLpTURNED HqFISHHOOKhyD TAILaMODIFIzpSMrL HeWITH HOOKdJ",
      "dRdTURNED RfWITH HOOKdxL vVzTED RdWdYcPRIMEcDOUBu PRIMEcTURNED COMMAcAPOSTROPHEcREVzSED CO",
      "MMAcRt HrF RvGcuFT HrF RvGcGLOTTr STOPcREVzSED GLOTTr STOPcuFT sROWHEADcRt sROWHEADcUP sRO",
      "WHEADcDOWN sROWHEADcCIRCUMFuX ACCENTaCsONaMODIFIzpVzTICr LvEcMACRONcACUTE ACCENTcGRAVE ACC",
      "ENTcLOW VzTICr LvEdMACRONdGRAVE ACCENTdACUTE ACCENTcTRIyGULs COLONcHrF TRIyGULs COLONcCENT",
      "RED Rt HrF RvGduFT HrF RvGcUP TACKcDOWN TACKcPLUS SIGNcMvUS SIGNaBREVEaDOT ABOVEaRvG ABOVE",
      "aOGONEKaSMrL TILDEaDOUBu ACUTE ACCENTaMODIFIzpRHOTIC HOOKcCROSS ACCENTcSMrL GAMMAdLdSdXdRE",
      "VzSED GLOTTr STOPcEXTRA-HIGH TONE BscHIGH TONE BscMID TONE BscLOW TONE BscEXTRA-LOW TONE B",
      "scYv DEPsTvG TONE MsKcYyG DEPsTvG TONE MsKcVOICvGcUNASPIRATEDcDOUBu APOSTROPHEcLOW DOWN sR",
      "OWHEADdUP sROWHEADduFT sROWHEADdRt sROWHEADdRvGcMIDDu GRAVE ACCENTdDOUBu GRAVE ACCENTeACUT",
      "E ACCENTcLOW TILDEcRAISED COLONcBEGv HIGH TONEcEND HIGH TONEcBEGv LOW TONEcEND LOW TONEcSH",
      "ELFcOPEN SHELFcLOW uFT sROWaCOMBvvG GRAVE ACCENTbACUTE ACCENTbCIRCUMFuX ACCENTbTILDEbMACRO",
      "NbOVzLvEbBREVEbDOT ABOVEbDIAzESISbHOOK ABOVEbRvG ABOVEbDOUBu ACUTE ACCENTbCsONbVzTICr LvE ",
      "ABOVEbDOUBu VzTICr LvE ABOVEcGRAVE ACCENTbCyDRABvDUbvVzTED BREVEbTURNED COMMA ABOVEbCOMMA ",
      "ABOVEbREVzSED COMMA ABOVEbCOMMA ABOVE RtbGRAVE ACCENT BELOWbACUTE ACCENT BELOWbuFT TACK BE",
      "LOWbRt TACK BELOWbuFT yGu ABOVEbHORNbuFT HrF RvG BELOWbUP TACK BELOWbDOWN TACK BELOWbPLUS ",
      "SIGN BELOWbMvUS SIGN BELOWbPrATrIZED HOOK BELOWbRETROFuX HOOK BELOWbDOT BELOWbDIAzESIS BEL",
      "OWbRvG BELOWbCOMMA BELOWbCEDILLAbOGONEKbVzTICr LvE BELOWbBRIDGE BELOWbvVzTED DOUBu sCH BEL",
      "OWbCsON BELOWbCIRCUMFuX ACCENT BELOWbBREVE BELOWbvVzTED BREVE BELOWbTILDE BELOWbMACRON BEL",
      "OWbLOW LvEbDOUBu LOW LvEbTILDE OVzLAYbSHORT STROKE OVzLAYbLONG STROKE OVzLAYbSHORT SOLIDUS",
      " OVzLAYbLONG SOLIDUS OVzLAYbRt HrF RvG BELOWbvVzTED BRIDGE BELOWbSQUsE BELOWbSEAGULL BELOW",
      "bX ABOVEbVzTICr TILDEbDOUBu OVzLvEbGRAVE TONE MsKbACUTE TONE MsKbGREEK PzISPOMENIcKORONISc",
      "DIrYTIKA TONOScYPOGEGRAMMENIbBRIDGE ABOVEbEQUrS SIGN BELOWbDOUBu VzTICr LvE BELOWbuFT yGu ",
      "BELOWbNOT TILDE ABOVEbHOMOTHETIC ABOVEbrMOST EQUr TO ABOVEbuFT Rt sROW BELOWbUPWsDS sROW B",
      "ELOWbGRAPHEME JOvzbRt sROWHEAD ABOVEbuFT HrF RvG ABOVEbFzMATAbX BELOWbuFT sROWHEAD BELOWbR",
      "t sROWHEAD BELOWdyD UP sROWHEAD BELOWcHrF RvG ABOVEbDOT ABOVE RtbASTzISK BELOWbDOUBu RvG B",
      "ELOWbZIGZAG ABOVEbDOUBu BREVE BELOWcBREVEcMACRONdBELOWcTILDEcvVzTED BREVEcRtWsDS sROW BELO",
      "WbLATv SMrLpAeEeIeOeUeCeDeHeMeReTeVeXaGREEK xLpHETAbSMrLpHETAbxLpsCHAIC SAMPIbSMrLpsCHAIC ",
      "SAMPIbNUMzr SIGNbLOWz NUMzr SIGNbxLpPAMPHYLIy DIGAMMAbSMrLpPAMPHYLIy DIGAMMA..bYPOGEGRAMME",
      "NIbSMrL REVzSED LUNATE SIGMA SYMBOLcDOTTED LUNATE SIGMA SYMBOLcREVzSED DOTTED LUNATE SIGMA",
      " SYMBOLbQUESTION MsKbxLpYOT....bTONOSbDIrYTIKA TONOSbxLprPHAqTONOSbyO TEuIAbxLpEPSILONqTON",
      "OSdETAqTONOSdIOTAqTONOS.dOMICRONqTONOS.dUPSILONqTONOSdOMEGAqTONOSbSMrLpIOTAqDIrYTIKA yD TO",
      "NOSbxLprPHAdBETAdGAMMAdDELTAdEPSILONdZETAdETAdTHETAdIOTAdKAPPAdLAMDAdMUdNUdXIdOMICRONdPIdR",
      "HO.dSIGMAdTAUdUPSILONdPHIdCHIdPSIdOMEGAdIOTAqDIrYTIKAdUPSILONqDIrYTIKAbSMrLprPHAqTONOSdEPS",
      "ILONqTONOSdETAqTONOSdIOTAqTONOSdUPSILONqDIrYTIKA yD TONOSdrPHAdBETAdGAMMAdDELTAdEPSILONdZE",
      "TAdETAdTHETAdIOTAdKAPPAdLAMDAdMUdNUdXIdOMICRONdPIdRHOdFvr SIGMAdSIGMAdTAUdUPSILONdPHIdCHId",
      "PSIdOMEGAdIOTAqDIrYTIKAdUPSILONqDIrYTIKAdOMICRONqTONOSdUPSILONqTONOSdOMEGAqTONOSbxL KAI SY",
      "MBOLbBETA SYMBOLbTHETA SYMBOLbUPSILONqHOOK SYMBOLdACUTE yD HOOK SYMBOLdDIAzESIS yD HOOK SY",
      "MBOLbPHI SYMBOLbPI SYMBOLbKAI SYMBOLbuTTz sCHAIC KOPPAbSMrLpsCHAIC KOPPAbuTTz STIGMAbSMrLp",
      "STIGMAbuTTz DIGAMMAbSMrLpDIGAMMAbuTTz KOPPAbSMrLpKOPPAbuTTz SAMPIbSMrLpSAMPIaCOPTIC xLpSHE",
      "IbSMrLpSHEIbxLpFEIbSMrLpFEIbxLpKHEIbSMrLpKHEIbxLpHORIbSMrLpHORIbxLpGyGIAbSMrLpGyGIAbxLpSHI",
      "MAbSMrLpSHIMAbxLpDEIbSMrLpDEIaGREEK KAPPA SYMBOLbRHO SYMBOLbLUNATE SIGMA SYMBOLbuTTz YOTbx",
      "L THETA SYMBOLbLUNATE EPSILON SYMBOLbREVzSED LUNATE EPSILON SYMBOLbxLpSHObSMrLpSHObxL LUNA",
      "TE SIGMA SYMBOLcuTTz SybSMrLpSybRHOqSTROKE SYMBOLbxL REVzSED LUNATE SIGMA SYMBOLcDOTTED LU",
      "NATE SIGMA SYMBOLcREVzSED DOTTED LUNATE SIGMA SYMBOLaCYRILLIC xLpIEqGRAVEdIOdDJEdGJEdUKRAv",
      "Iy IEdDZEdBYELORUSSIy-UKRAvIy IdYIdJEdLJEdNJEdTSHEdKJEdIqGRAVEdSHORT UdDZHEdAdBEdVEdGHEdDE",
      "dIEdZHEdZEdIdSHORT IdKAdELdEMdENdOdPEdzdESdTEdUdEFdHAdTSEdCHEdSHAdSHCHAdHsD SIGNdYzUdSOFT ",
      "SIGNdEdYUdYAbSMrLpAdBEdVEdGHEdDEdIEdZHEdZEdIdSHORT IdKAdELdEMdENdOdPEdzdESdTEdUdEFdHAdTSEd",
      "CHEdSHAdSHCHAdHsD SIGNdYzUdSOFT SIGNdEdYUdYAdIEqGRAVEdIOdDJEdGJEdUKRAvIy IEdDZEdBYELORUSSI",
      "y-UKRAvIy IdYIdJEdLJEdNJEdTSHEdKJEdIqGRAVEdSHORT UdDZHEbxLpOMEGAbSMrLpOMEGAbxLpYATbSMrLpYA",
      "TbxLpIOTIFIED EbSMrLpIOTIFIED EbxLpLITTu YUSbSMrLpLITTu YUSbxLpIOTIFIED LITTu YUSbSMrLpIOT",
      "IFIED LITTu YUSbxLpBIG YUSbSMrLpBIG YUSbxLpIOTIFIED BIG YUSbSMrLpIOTIFIED BIG YUSbxLpKSIbS",
      "MrLpKSIbxLpPSIbSMrLpPSIbxLpFITAbSMrLpFITAbxLpIZHITSAbSMrLpIZHITSAbxLpIZHITSAqDOUBu GRAVE A",
      "CCENTbSMrLpIZHITSAqDOUBu GRAVE ACCENTbxLpUKbSMrLpUKbxLpROUND OMEGAbSMrLpROUND OMEGAbxLpOME",
      "GAqTITLObSMrLpOMEGAqTITLObxLpOTbSMrLpOTbxLpKOPPAbSMrLpKOPPAbTHOUSyDS SIGNaCOMBvvG CYRILLIC",
      " TITLOcPrATrIZATIONcDASIA PNEUMATAcPSILI PNEUMATAcPOKRYTIEcHUNDRED THOUSyDS SIGNcMILLIONS ",
      "SIGNaCYRILLIC xLpSHORT IqTAILbSMrLpSHORT IqTAILbxLpSEMISOFT SIGNbSMrLpSEMISOFT SIGNbxLpzqT",
      "ICKbSMrLpzqTICKbxLpGHEqUPTURNbSMrLpGHEqUPTURNbxLpGHEqSTROKEbSMrLpGHEqSTROKEbxLpGHEqMIDDu H",
      "OOKbSMrLpGHEqMIDDu HOOKbxLpZHEqDESCENDzbSMrLpZHEqDESCENDzbxLpZEqDESCENDzbSMrLpZEqDESCENDzb",
      "xLpKAqDESCENDzbSMrLpKAqDESCENDzbxLpKAqVzTICr STROKEbSMrLpKAqVzTICr STROKEbxLpKAqSTROKEbSMr",
      "LpKAqSTROKEbxLpBASHKIR KAbSMrLpBASHKIR KAbxLpENqDESCENDzbSMrLpENqDESCENDzbxL LIGATURE EN G",
      "HEbSMrL LIGATURE EN GHEbxLpPEqMIDDu HOOKbSMrLpPEqMIDDu HOOKbxLpABKHASIy HAbSMrLpABKHASIy H",
      "AbxLpESqDESCENDzbSMrLpESqDESCENDzbxLpTEqDESCENDzbSMrLpTEqDESCENDzbxLpSTRAt UbSMrLpSTRAt Ub",
      "xLpSTRAt UqSTROKEbSMrLpSTRAt UqSTROKEbxLpHAqDESCENDzbSMrLpHAqDESCENDzbxL LIGATURE TE TSEbS",
      "MrL LIGATURE TE TSEbxLpCHEqDESCENDzbSMrLpCHEqDESCENDzbxLpCHEqVzTICr STROKEbSMrLpCHEqVzTICr",
      " STROKEbxLpSHHAbSMrLpSHHAbxLpABKHASIy CHEbSMrLpABKHASIy CHEbxLpABKHASIy CHEqDESCENDzbSMrLp",
      "ABKHASIy CHEqDESCENDzbuTTz PrOCHKAbxLpZHEqBREVEbSMrLpZHEqBREVEbxLpKAqHOOKbSMrLpKAqHOOKbxLp",
      "ELqTAILbSMrLpELqTAILbxLpENqHOOKbSMrLpENqHOOKbxLpENqTAILbSMrLpENqTAILbxLpKHAKASSIy CHEbSMrL",
      "pKHAKASSIy CHEbxLpEMqTAILbSMrLpEMqTAILdPrOCHKAbxLpAqBREVEbSMrLpAqBREVEbxLpAqDIAzESISbSMrLp",
      "AqDIAzESISbxL LIGATURE A IEbSMrL LIGATURE A IEbxLpIEqBREVEbSMrLpIEqBREVEbxLpSCHWAbSMrLpSCH",
      "WAbxLpSCHWAqDIAzESISbSMrLpSCHWAqDIAzESISbxLpZHEqDIAzESISbSMrLpZHEqDIAzESISbxLpZEqDIAzESISb",
      "SMrLpZEqDIAzESISbxLpABKHASIy DZEbSMrLpABKHASIy DZEbxLpIqMACRONbSMrLpIqMACRONbxLpIqDIAzESIS",
      "bSMrLpIqDIAzESISbxLpOqDIAzESISbSMrLpOqDIAzESISbxLpBsRED ObSMrLpBsRED ObxLpBsRED OqDIAzESIS",
      "bSMrLpBsRED OqDIAzESISbxLpEqDIAzESISbSMrLpEqDIAzESISbxLpUqMACRONbSMrLpUqMACRONbxLpUqDIAzES",
      "ISbSMrLpUqDIAzESISbxLpUqDOUBu ACUTEbSMrLpUqDOUBu ACUTEbxLpCHEqDIAzESISbSMrLpCHEqDIAzESISbx",
      "LpGHEqDESCENDzbSMrLpGHEqDESCENDzbxLpYzUqDIAzESISbSMrLpYzUqDIAzESISbxLpGHEqSTROKE yD HOOKbS",
      "MrLpGHEqSTROKE yD HOOKbxLpHAqHOOKbSMrLpHAqHOOKbxLpHAqSTROKEbSMrLpHAqSTROKEbxLpKOMI DEbSMrL",
      "pKOMI DEbxLpKOMI DJEbSMrLpKOMI DJEbxLpKOMI ZJEbSMrLpKOMI ZJEbxLpKOMI DZJEbSMrLpKOMI DZJEbx",
      "LpKOMI LJEbSMrLpKOMI LJEbxLpKOMI NJEbSMrLpKOMI NJEbxLpKOMI SJEbSMrLpKOMI SJEbxLpKOMI TJEbS",
      "MrLpKOMI TJEbxLpREVzSED ZEbSMrLpREVzSED ZEbxLpELqHOOKbSMrLpELqHOOKbxLpLHAbSMrLpLHAbxLpRHAb",
      "SMrLpRHAbxLpYAEbSMrLpYAEbxLpQAbSMrLpQAbxLpWEbSMrLpWEbxLprEUT KAbSMrLprEUT KAbxLpELqMIDDu H",
      "OOKbSMrLpELqMIDDu HOOKbxLpENqMIDDu HOOKbSMrLpENqMIDDu HOOKbxLpPEqDESCENDzbSMrLpPEqDESCENDz",
      "bxLpSHHAqDESCENDzbSMrLpSHHAqDESCENDzbxLpENquFT HOOKbSMrLpENquFT HOOKbxLpDZZHEbSMrLpDZZHEbx",
      "LpDCHEbSMrLpDCHEbxLpELqDESCENDzbSMrLpELqDESCENDz.asMENIy xLpAYBdBENdGIMdDAdECHdZAdEHdETdTO",
      "dZHEdvIdLIWNdXEHdCAdKENdHOdJAdGHADdCHEHdMENdYIdNOWdSHAdVOdCHAdPEHdJHEHdRAdSEHdVEWdTIWNdREH",
      "dCOdYIWNdPIWRdKEHdOHdFEH..bMODIFIzpuFT HrF RvGbAPOSTROPHEbEMPHASIS MsKbEXCLAMATION MsKbCOM",
      "MAbQUESTION MsKbABBREVIATION MsKbSMrLpTURNED AYBdAYBdBENdGIMdDAdECHdZAdEHdETdTOdZHEdvIdLIW",
      "NdXEHdCAdKENdHOdJAdGHADdCHEHdMENdYIdNOWdSHAdVOdCHAdPEHdJHEHdRAdSEHdVEWdTIWNdREHdCOdYIWNdPI",
      "WRdKEHdOHdFEHcLIGATURE ECH YIWNcuTTz YIqSTROKEbFULL STOPbHYPHEN..aRt-FACvG sMENIy ETzNITY ",
      "SIGNauFT-FACvG sMENIy ETzNITY SIGNasMENIy DRAM SIGN"]⟩]

end Upkeep.Text.Names
