import Upkeep.Text.Names.Packed

/-!
Names of characters: phonetic letters and letters with several marks.
-/
namespace Upkeep.Text.Names

def phonetic : List Run :=
  [⟨0x1D00, [
      "aLATvpSMrL xL AeAEbSMrLpTURNED AEbuTTz SMrL xL BsRED BeCeDeETHeEbSMrLpTURNED OPEN EeIbuTTz",
      " SMrL xL JeKeLqSTROKEeMeREVzSED NeOeOPEN ObSMrLpSIDEWAYS OeOPEN OeOqSTROKEdTURNED OEbuTTz ",
      "SMrL xL OUbSMrLpTOP HrF OdBOTTOM HrF ObuTTz SMrL xL PeREVzSED ReTURNED ReTeUbSMrLpSIDEWAYS",
      " UeDIAzESIZED UeTURNED MbuTTz SMrL xL VeWeZeEZHcVOICED LsYNGEr SPIRyTcAvaGREEKpSMrL xL GAM",
      "MAeLAMDAePIeRHOePSIaCYRILLICpSMrL xL ELaMODIFIzpxL AdAEdBdBsRED BdDdEdREVzSED EdGdHdIdJdKd",
      "LdMdNdREVzSED NdOdOUdPdRdTdUdWcSMrL AdTURNED AdrPHAdTURNED AEdBdDdEdSCHWAdOPEN EdTURNED OP",
      "EN EdGdTURNED IdKdMdENGdOdOPEN OdTOP HrF OdBOTTOM HrF OdPdTdUdSIDEWAYS UdTURNED MdVdAvdBET",
      "AdGREEK GAMMAdDELTAdGREEK PHIdCHIaLATv SUBSCRIPT SMrLpIeReUeVaGREEK SUBSCRIPT SMrLpBETAeGA",
      "MMAeRHOePHIeCHIaLATv SMrLpUEdBqMIDDu TILDEdDqMIDDu TILDEdFqMIDDu TILDEdMqMIDDu TILDEdNqMID",
      "Du TILDEdPqMIDDu TILDEdRqMIDDu TILDEfFISHHOOK yD MIDDu TILDEdSqMIDDu TILDEdTqMIDDu TILDEdZ",
      "qMIDDu TILDEdTURNED GaMODIFIzpCYRILLIC ENaLATv SMrLpvSULs GdTHqSTRIKETHROUGHcxLpIqSTROKEcu",
      "TTz IOTAqSTROKEdPqSTROKEcxLpUqSTROKEcuTTz UPSILONqSTROKEdBqPrATr HOOKdDqPrATr HOOKdFqPrATr",
      " HOOKdGqPrATr HOOKdKqPrATr HOOKdLqPrATr HOOKdMqPrATr HOOKdNqPrATr HOOKdPqPrATr HOOKdRqPrAT",
      "r HOOKdSqPrATr HOOKdESHqPrATr HOOKdVqPrATr HOOKdXqPrATr HOOKdZqPrATr HOOKdAqRETROFuX HOOKd",
      "rPHAqRETROFuX HOOKdDqHOOK yD TAILdEqRETROFuX HOOKdOPEN EqRETROFuX HOOKdREVzSED OPEN EqRETR",
      "OFuX HOOKdSCHWAqRETROFuX HOOKdIqRETROFuX HOOKdOPEN OqRETROFuX HOOKdESHqRETROFuX HOOKdUqRET",
      "ROFuX HOOKdEZHqRETROFuX HOOKaMODIFIzpSMrL TURNED rPHAdCeWITH CURLdETHdREVzSED OPEN EdFdDOT",
      "uSS JqSTROKEdSCRIPT GdTURNED HdIqSTROKEdIOTAdxL IfWITH STROKEdJqCROSSED-TAILdLqRETROFuX HO",
      "OKfPrATr HOOKdxL LdMqHOOKdTURNED MqLONG uGdNquFT HOOKfRETROFuX HOOKdxL NdBsRED OdPHIdSqHOO",
      "KdESHdTqPrATr HOOKdU BsdUPSILONdxL UdVqHOOKdTURNED VdZeWITH RETROFuX HOOKfCURLdEZHdTHETAaC",
      "OMBvvG DOTTED GRAVE ACCENTcACUTE ACCENTbSNAKE BELOWbSUSPENSION MsKbMACRON-ACUTEbGRAVE-MACR",
      "ONbMACRON-GRAVEbACUTE-MACRONbGRAVE-ACUTE-GRAVEbACUTE-GRAVE-ACUTEbLATv SMrLpR BELOWbBREVE-M",
      "ACRONbMACRON-BREVEbDOUBu CIRCUMFuX ABOVEbOGONEK ABOVEbZIGZAG BELOWbIS BELOWbUR ABOVEbUS AB",
      "OVEbLATv SMrLpFLATTENED OPEN A ABOVEeAEeAOeAVeC CEDILLAevSULs DeETHeGcuTTz SMrL xL GcSMrLp",
      "KeLcuTTz SMrL xL LfMcSMrLpNcuTTz SMrL xL NfRcSMrLpR ROTUNDAeSeLONG SeZerPHAeBeBETAeSCHWAeF",
      "eLqDOUBu MIDDu TILDEeOqLt CENTRrIZATION STROKEePeESHeUqLt CENTRrIZATION STROKEeWeAqDIAzESI",
      "SeOqDIAzESISeUqDIAzESISbUP TACK ABOVEbKAVYKA ABOVE RtduFTbDOT ABOVE uFTbWIDE vVzTED BRIDGE",
      " BELOWbDOT BELOW uFTbDEuTION MsKbDOUBu vVzTED BREVE BELOWbrMOST EQUr TO BELOWbuFT sROWHEAD",
      " ABOVEbRt sROWHEAD yD DOWN sROWHEAD BELOWaLATv xLpAqRvG BELOWbSMrLpAqRvG BELOWbxLpBqDOT AB",
      "OVEbSMrLpBqDOT ABOVEbxLpBqDOT BELOWbSMrLpBqDOT BELOWbxLpBqLvE BELOWbSMrLpBqLvE BELOWbxLpCq",
      "CEDILLA yD ACUTEbSMrLpCqCEDILLA yD ACUTEbxLpDqDOT ABOVEbSMrLpDqDOT ABOVEbxLpDqDOT BELOWbSM",
      "rLpDqDOT BELOWbxLpDqLvE BELOWbSMrLpDqLvE BELOWbxLpDqCEDILLAbSMrLpDqCEDILLAbxLpDqCIRCUMFuX ",
      "BELOWbSMrLpDqCIRCUMFuX BELOWbxLpEqMACRON yD GRAVEbSMrLpEqMACRON yD GRAVEbxLpEqMACRON yD AC",
      "UTEbSMrLpEqMACRON yD ACUTEbxLpEqCIRCUMFuX BELOWbSMrLpEqCIRCUMFuX BELOWbxLpEqTILDE BELOWbSM",
      "rLpEqTILDE BELOWbxLpEqCEDILLA yD BREVEbSMrLpEqCEDILLA yD BREVEbxLpFqDOT ABOVEbSMrLpFqDOT A",
      "BOVEbxLpGqMACRONbSMrLpGqMACRONbxLpHqDOT ABOVEbSMrLpHqDOT ABOVEbxLpHqDOT BELOWbSMrLpHqDOT B",
      "ELOWbxLpHqDIAzESISbSMrLpHqDIAzESISbxLpHqCEDILLAbSMrLpHqCEDILLAbxLpHqBREVE BELOWbSMrLpHqBRE",
      "VE BELOWbxLpIqTILDE BELOWbSMrLpIqTILDE BELOWbxLpIqDIAzESIS yD ACUTEbSMrLpIqDIAzESIS yD ACU",
      "TEbxLpKqACUTEbSMrLpKqACUTEbxLpKqDOT BELOWbSMrLpKqDOT BELOWbxLpKqLvE BELOWbSMrLpKqLvE BELOW",
      "bxLpLqDOT BELOWbSMrLpLqDOT BELOWbxLpLqDOT BELOW yD MACRONbSMrLpLqDOT BELOW yD MACRONbxLpLq",
      "LvE BELOWbSMrLpLqLvE BELOWbxLpLqCIRCUMFuX BELOWbSMrLpLqCIRCUMFuX BELOWbxLpMqACUTEbSMrLpMqA",
      "CUTEbxLpMqDOT ABOVEbSMrLpMqDOT ABOVEbxLpMqDOT BELOWbSMrLpMqDOT BELOWbxLpNqDOT ABOVEbSMrLpN",
      "qDOT ABOVEbxLpNqDOT BELOWbSMrLpNqDOT BELOWbxLpNqLvE BELOWbSMrLpNqLvE BELOWbxLpNqCIRCUMFuX ",
      "BELOWbSMrLpNqCIRCUMFuX BELOWbxLpOqTILDE yD ACUTEbSMrLpOqTILDE yD ACUTEbxLpOqTILDE yD DIAzE",
      "SISbSMrLpOqTILDE yD DIAzESISbxLpOqMACRON yD GRAVEbSMrLpOqMACRON yD GRAVEbxLpOqMACRON yD AC",
      "UTEbSMrLpOqMACRON yD ACUTEbxLpPqACUTEbSMrLpPqACUTEbxLpPqDOT ABOVEbSMrLpPqDOT ABOVEbxLpRqDO",
      "T ABOVEbSMrLpRqDOT ABOVEbxLpRqDOT BELOWbSMrLpRqDOT BELOWbxLpRqDOT BELOW yD MACRONbSMrLpRqD",
      "OT BELOW yD MACRONbxLpRqLvE BELOWbSMrLpRqLvE BELOWbxLpSqDOT ABOVEbSMrLpSqDOT ABOVEbxLpSqDO",
      "T BELOWbSMrLpSqDOT BELOWbxLpSqACUTE yD DOT ABOVEbSMrLpSqACUTE yD DOT ABOVEbxLpSqCsON yD DO",
      "T ABOVEbSMrLpSqCsON yD DOT ABOVEbxLpSqDOT BELOW yD DOT ABOVEbSMrLpSqDOT BELOW yD DOT ABOVE",
      "bxLpTqDOT ABOVEbSMrLpTqDOT ABOVEbxLpTqDOT BELOWbSMrLpTqDOT BELOWbxLpTqLvE BELOWbSMrLpTqLvE",
      " BELOWbxLpTqCIRCUMFuX BELOWbSMrLpTqCIRCUMFuX BELOWbxLpUqDIAzESIS BELOWbSMrLpUqDIAzESIS BEL",
      "OWbxLpUqTILDE BELOWbSMrLpUqTILDE BELOWbxLpUqCIRCUMFuX BELOWbSMrLpUqCIRCUMFuX BELOWbxLpUqTI",
      "LDE yD ACUTEbSMrLpUqTILDE yD ACUTEbxLpUqMACRON yD DIAzESISbSMrLpUqMACRON yD DIAzESISbxLpVq",
      "TILDEbSMrLpVqTILDEbxLpVqDOT BELOWbSMrLpVqDOT BELOWbxLpWqGRAVEbSMrLpWqGRAVEbxLpWqACUTEbSMrL",
      "pWqACUTEbxLpWqDIAzESISbSMrLpWqDIAzESISbxLpWqDOT ABOVEbSMrLpWqDOT ABOVEbxLpWqDOT BELOWbSMrL",
      "pWqDOT BELOWbxLpXqDOT ABOVEbSMrLpXqDOT ABOVEbxLpXqDIAzESISbSMrLpXqDIAzESISbxLpYqDOT ABOVEb",
      "SMrLpYqDOT ABOVEbxLpZqCIRCUMFuXbSMrLpZqCIRCUMFuXbxLpZqDOT BELOWbSMrLpZqDOT BELOWbxLpZqLvE ",
      "BELOWbSMrLpZqLvE BELOWdHqLvE BELOWdTqDIAzESISdWqRvG ABOVEdYqRvG ABOVEdAqRt HrF RvGdLONG Sq",
      "DOT ABOVEgDIAGONr STROKEgHIGH STROKEbxLpSHsP SbSMrLpDELTAbxLpAqDOT BELOWbSMrLpAqDOT BELOWb",
      "xLpAqHOOK ABOVEbSMrLpAqHOOK ABOVEbxLpAqCIRCUMFuX yD ACUTEbSMrLpAqCIRCUMFuX yD ACUTEbxLpAqC",
      "IRCUMFuX yD GRAVEbSMrLpAqCIRCUMFuX yD GRAVEbxLpAqCIRCUMFuX yD HOOK ABOVEbSMrLpAqCIRCUMFuX ",
      "yD HOOK ABOVEbxLpAqCIRCUMFuX yD TILDEbSMrLpAqCIRCUMFuX yD TILDEbxLpAqCIRCUMFuX yD DOT BELO",
      "WbSMrLpAqCIRCUMFuX yD DOT BELOWbxLpAqBREVE yD ACUTEbSMrLpAqBREVE yD ACUTEbxLpAqBREVE yD GR",
      "AVEbSMrLpAqBREVE yD GRAVEbxLpAqBREVE yD HOOK ABOVEbSMrLpAqBREVE yD HOOK ABOVEbxLpAqBREVE y",
      "D TILDEbSMrLpAqBREVE yD TILDEbxLpAqBREVE yD DOT BELOWbSMrLpAqBREVE yD DOT BELOWbxLpEqDOT B",
      "ELOWbSMrLpEqDOT BELOWbxLpEqHOOK ABOVEbSMrLpEqHOOK ABOVEbxLpEqTILDEbSMrLpEqTILDEbxLpEqCIRCU",
      "MFuX yD ACUTEbSMrLpEqCIRCUMFuX yD ACUTEbxLpEqCIRCUMFuX yD GRAVEbSMrLpEqCIRCUMFuX yD GRAVEb",
      "xLpEqCIRCUMFuX yD HOOK ABOVEbSMrLpEqCIRCUMFuX yD HOOK ABOVEbxLpEqCIRCUMFuX yD TILDEbSMrLpE",
      "qCIRCUMFuX yD TILDEbxLpEqCIRCUMFuX yD DOT BELOWbSMrLpEqCIRCUMFuX yD DOT BELOWbxLpIqHOOK AB",
      "OVEbSMrLpIqHOOK ABOVEbxLpIqDOT BELOWbSMrLpIqDOT BELOWbxLpOqDOT BELOWbSMrLpOqDOT BELOWbxLpO",
      "qHOOK ABOVEbSMrLpOqHOOK ABOVEbxLpOqCIRCUMFuX yD ACUTEbSMrLpOqCIRCUMFuX yD ACUTEbxLpOqCIRCU",
      "MFuX yD GRAVEbSMrLpOqCIRCUMFuX yD GRAVEbxLpOqCIRCUMFuX yD HOOK ABOVEbSMrLpOqCIRCUMFuX yD H",
      "OOK ABOVEbxLpOqCIRCUMFuX yD TILDEbSMrLpOqCIRCUMFuX yD TILDEbxLpOqCIRCUMFuX yD DOT BELOWbSM",
      "rLpOqCIRCUMFuX yD DOT BELOWbxLpOqHORN yD ACUTEbSMrLpOqHORN yD ACUTEbxLpOqHORN yD GRAVEbSMr",
      "LpOqHORN yD GRAVEbxLpOqHORN yD HOOK ABOVEbSMrLpOqHORN yD HOOK ABOVEbxLpOqHORN yD TILDEbSMr",
      "LpOqHORN yD TILDEbxLpOqHORN yD DOT BELOWbSMrLpOqHORN yD DOT BELOWbxLpUqDOT BELOWbSMrLpUqDO",
      "T BELOWbxLpUqHOOK ABOVEbSMrLpUqHOOK ABOVEbxLpUqHORN yD ACUTEbSMrLpUqHORN yD ACUTEbxLpUqHOR",
      "N yD GRAVEbSMrLpUqHORN yD GRAVEbxLpUqHORN yD HOOK ABOVEbSMrLpUqHORN yD HOOK ABOVEbxLpUqHOR",
      "N yD TILDEbSMrLpUqHORN yD TILDEbxLpUqHORN yD DOT BELOWbSMrLpUqHORN yD DOT BELOWbxLpYqGRAVE",
      "bSMrLpYqGRAVEbxLpYqDOT BELOWbSMrLpYqDOT BELOWbxLpYqHOOK ABOVEbSMrLpYqHOOK ABOVEbxLpYqTILDE",
      "bSMrLpYqTILDEbxLpMIDDu-WELSH LLbSMrLpMIDDu-WELSH LLbxLpMIDDu-WELSH VbSMrLpMIDDu-WELSH VbxL",
      "pYqLOOPbSMrLpYqLOOPaGREEK SMrLprPHAqPSILIfDASIAfPSILI yD VsIAfDASIA yD VsIAfPSILI yD OXIAf",
      "DASIA yD OXIAfPSILI yD PzISPOMENIfDASIA yD PzISPOMENIbxLprPHAqPSILIfDASIAfPSILI yD VsIAfDA",
      "SIA yD VsIAfPSILI yD OXIAfDASIA yD OXIAfPSILI yD PzISPOMENIfDASIA yD PzISPOMENIbSMrLpEPSIL",
      "ONqPSILIfDASIAfPSILI yD VsIAfDASIA yD VsIAfPSILI yD OXIAfDASIA yD OXIA..bxLpEPSILONqPSILIf",
      "DASIAfPSILI yD VsIAfDASIA yD VsIAfPSILI yD OXIAfDASIA yD OXIA..bSMrLpETAqPSILIfDASIAfPSILI",
      " yD VsIAfDASIA yD VsIAfPSILI yD OXIAfDASIA yD OXIAfPSILI yD PzISPOMENIfDASIA yD PzISPOMENI",
      "bxLpETAqPSILIfDASIAfPSILI yD VsIAfDASIA yD VsIAfPSILI yD OXIAfDASIA yD OXIAfPSILI yD PzISP",
      "OMENIfDASIA yD PzISPOMENIbSMrLpIOTAqPSILIfDASIAfPSILI yD VsIAfDASIA yD VsIAfPSILI yD OXIAf",
      "DASIA yD OXIAfPSILI yD PzISPOMENIfDASIA yD PzISPOMENIbxLpIOTAqPSILIfDASIAfPSILI yD VsIAfDA",
      "SIA yD VsIAfPSILI yD OXIAfDASIA yD OXIAfPSILI yD PzISPOMENIfDASIA yD PzISPOMENIbSMrLpOMICR",
      "ONqPSILIfDASIAfPSILI yD VsIAfDASIA yD VsIAfPSILI yD OXIAfDASIA yD OXIA..bxLpOMICRONqPSILIf",
      "DASIAfPSILI yD VsIAfDASIA yD VsIAfPSILI yD OXIAfDASIA yD OXIA..bSMrLpUPSILONqPSILIfDASIAfP",
      "SILI yD VsIAfDASIA yD VsIAfPSILI yD OXIAfDASIA yD OXIAfPSILI yD PzISPOMENIfDASIA yD PzISPO",
      "MENI.bxLpUPSILONqDASIA.gyD VsIA.hOXIA.hPzISPOMENIbSMrLpOMEGAqPSILIfDASIAfPSILI yD VsIAfDAS",
      "IA yD VsIAfPSILI yD OXIAfDASIA yD OXIAfPSILI yD PzISPOMENIfDASIA yD PzISPOMENIbxLpOMEGAqPS",
      "ILIfDASIAfPSILI yD VsIAfDASIA yD VsIAfPSILI yD OXIAfDASIA yD OXIAfPSILI yD PzISPOMENIfDASI",
      "A yD PzISPOMENIbSMrLprPHAqVsIAfOXIAdEPSILONqVsIAfOXIAdETAqVsIAfOXIAdIOTAqVsIAfOXIAdOMICRON",
      "qVsIAfOXIAdUPSILONqVsIAfOXIAdOMEGAqVsIAfOXIA..drPHAqPSILI yD YPOGEGRAMMENIfDASIA yD YPOGEG",
      "RAMMENIfPSILI yD VsIA yD YPOGEGRAMMENIfDASIA yD VsIA yD YPOGEGRAMMENIfPSILI yD OXIA yD YPO",
      "GEGRAMMENIfDASIA yD OXIA yD YPOGEGRAMMENIfPSILI yD PzISPOMENI yD YPOGEGRAMMENIfDASIA yD Pz",
      "ISPOMENI yD YPOGEGRAMMENIbxLprPHAqPSILI yD PROSGEGRAMMENIfDASIA yD PROSGEGRAMMENIfPSILI yD",
      " VsIA yD PROSGEGRAMMENIfDASIA yD VsIA yD PROSGEGRAMMENIfPSILI yD OXIA yD PROSGEGRAMMENIfDA",
      "SIA yD OXIA yD PROSGEGRAMMENIfPSILI yD PzISPOMENI yD PROSGEGRAMMENIfDASIA yD PzISPOMENI yD",
      " PROSGEGRAMMENIbSMrLpETAqPSILI yD YPOGEGRAMMENIfDASIA yD YPOGEGRAMMENIfPSILI yD VsIA yD YP",
      "OGEGRAMMENIfDASIA yD VsIA yD YPOGEGRAMMENIfPSILI yD OXIA yD YPOGEGRAMMENIfDASIA yD OXIA yD",
      " YPOGEGRAMMENIfPSILI yD PzISPOMENI yD YPOGEGRAMMENIfDASIA yD PzISPOMENI yD YPOGEGRAMMENIbx",
      "LpETAqPSILI yD PROSGEGRAMMENIfDASIA yD PROSGEGRAMMENIfPSILI yD VsIA yD PROSGEGRAMMENIfDASI",
      "A yD VsIA yD PROSGEGRAMMENIfPSILI yD OXIA yD PROSGEGRAMMENIfDASIA yD OXIA yD PROSGEGRAMMEN",
      "IfPSILI yD PzISPOMENI yD PROSGEGRAMMENIfDASIA yD PzISPOMENI yD PROSGEGRAMMENIbSMrLpOMEGAqP",
      "SILI yD YPOGEGRAMMENIfDASIA yD YPOGEGRAMMENIfPSILI yD VsIA yD YPOGEGRAMMENIfDASIA yD VsIA ",
      "yD YPOGEGRAMMENIfPSILI yD OXIA yD YPOGEGRAMMENIfDASIA yD OXIA yD YPOGEGRAMMENIfPSILI yD Pz",
      "ISPOMENI yD YPOGEGRAMMENIfDASIA yD PzISPOMENI yD YPOGEGRAMMENIbxLpOMEGAqPSILI yD PROSGEGRA",
      "MMENIfDASIA yD PROSGEGRAMMENIfPSILI yD VsIA yD PROSGEGRAMMENIfDASIA yD VsIA yD PROSGEGRAMM",
      "ENIfPSILI yD OXIA yD PROSGEGRAMMENIfDASIA yD OXIA yD PROSGEGRAMMENIfPSILI yD PzISPOMENI yD",
      " PROSGEGRAMMENIfDASIA yD PzISPOMENI yD PROSGEGRAMMENIbSMrLprPHAqVRACHYfMACRONfVsIA yD YPOG",
      "EGRAMMENIfYPOGEGRAMMENIfOXIA yD YPOGEGRAMMENI.fPzISPOMENIgyD YPOGEGRAMMENIbxLprPHAqVRACHYf",
      "MACRONfVsIAfOXIAfPROSGEGRAMMENIbKORONISbPROSGEGRAMMENIbPSILIbPzISPOMENIbDIrYTIKA yD PzISPO",
      "MENIbSMrLpETAqVsIA yD YPOGEGRAMMENIfYPOGEGRAMMENIfOXIA yD YPOGEGRAMMENI.fPzISPOMENIgyD YPO",
      "GEGRAMMENIbxLpEPSILONqVsIAfOXIAdETAqVsIAfOXIAfPROSGEGRAMMENIbPSILI yD VsIAdOXIAdPzISPOMENI",
      "bSMrLpIOTAqVRACHYfMACRONfDIrYTIKA yD VsIAhOXIA..fPzISPOMENIfDIrYTIKA yD PzISPOMENIbxLpIOTA",
      "qVRACHYfMACRONfVsIAfOXIA.bDASIA yD VsIAdOXIAdPzISPOMENIbSMrLpUPSILONqVRACHYfMACRONfDIrYTIK",
      "A yD VsIAhOXIAdRHOqPSILIfDASIAdUPSILONqPzISPOMENIfDIrYTIKA yD PzISPOMENIbxLpUPSILONqVRACHY",
      "fMACRONfVsIAfOXIAdRHOqDASIAbDIrYTIKA yD VsIAdOXIAbVsIA..bSMrLpOMEGAqVsIA yD YPOGEGRAMMENIf",
      "YPOGEGRAMMENIfOXIA yD YPOGEGRAMMENI.fPzISPOMENIgyD YPOGEGRAMMENIbxLpOMICRONqVsIAfOXIAdOMEG",
      "AqVsIAfOXIAfPROSGEGRAMMENIbOXIAbDASIA"]⟩]

end Upkeep.Text.Names
