import Upkeep.Text.Names.Packed

/-!
Names of characters: cuneiform, hieroglyphs and syllabaries.
-/
namespace Upkeep.Text.Names

def pictorial : List Run :=
  [⟨0x12000, [
      "aCUNEIFORM SIGN AdTIMES AeBADeGy2 TENUeHAeIGIeLAGs GUNUeMUSHeSAGcA2cABdTIMES ASH2eDUN3 GUN",
      "UeGreGy2 TENUeHAeIGI GUNUeIMveLAGABeSHESHeU PLUS U PLUS UdGUNUcAB2dTIMES BrAGeGy2 TENUeME ",
      "PLUS ENeSHA3eTAK4cADcAKdTIMES zv2eSHITA PLUS GISHcrdTIMES reDIM2eGISHeHAeKAD3eKIeSHEeUSHcr",
      "ycrEPHcAMsdTIMES SHEcydOVz ydTHREE TIMESdPLUS NAGA OPPOSvG y PLUS NAGAfSQUsEDcySHEcAPvcsAD",
      "dTIMES KURcsKABcASr2cASHdZIDA TENUdKABA TENUdOVz ASH TUG2 OVz TUG2 TUG2 OVz TUG2 PAPfOVz A",
      "SHhCROSSvG ASH OVz ASH OVz ASHcASH2cASHGABcBAcBADcBAG3cBAHs2cBrdOVz BrcBrAGcBscBsA2cBIdTIM",
      "ES AeGseIGI GUNUcBUdOVz BU ABfUNdCROSSvG BUcBULUGdOVz BULUGcBURcBUR2cDAcDAGdKISIM5 TIMES A",
      " PLUS MASHfAMsfBrAGfBIfGAgPLUS MASHfGIfGIR2fGUDfHAfIRgPLUS LUfKAKfLAfLUgPLUS MASH2fLUMfNEf",
      "PAP PLUS PAPfSIfTAK4fU2 PLUS GIR2fUSHcDAMcDscDsA3cDsA4cDIcDIBcDIMdTIMES SHEcDIM2cDvdKASKr ",
      "U GUNU DISHcDISHcDUdOVz DUdGUNUdSHESHIGcDUBdTIMES ESH2cDUB2cDUGcDUGUDcDUHcDUNcDUN3dGUNUeGU",
      "NUcDUN4cDUR2cEdTIMES PAPdOVz E NUN OVz NUNcE2dTIMES A PLUS HA PLUS DAeGseMIeSreSHEeUcEDvcE",
      "GIRcELcENdTIMES Gy2fTENUeMEdCROSSvG ENdOPPOSvG ENdSQUsEDczENczv2cESH2cEZENdTIMES AfPLUS Lr",
      "hTIMES LreyeBADeDUN3 GUNUgGUNUeHAfGUNUeIGI GUNUeKASKrfSQUsEDeKU3eLAeLr TIMES LreLIeLUeU2eU",
      "DcGAdGUNUcGA2dTIMES A PLUS DA PLUS HAgHAgIGIeAB2 TENU PLUS TABeyeASHeASH2 PLUS GreBADeBs P",
      "LUS RAeBURfPLUS RAeDAeDIeDIM TIMES SHEeDUBeELfPLUS LAeENfTIMES Gy2 TENUeGy2 TENUeGseGIeGI4",
      "fPLUS AeGIR2 PLUS SUeHA PLUS LU PLUS ESH2eHrfPLUS LAeHI PLUS LIeHUB2eIGI GUNUeISH PLUS HU ",
      "PLUS ASHeKAKeKASKreKIDfPLUS LreKU3 PLUS yeLAeME PLUS ENeMIeNUNfOVz NUNePAeSreSseSHEfPLUS T",
      "UReSHIDeSUMeTAK4eUeUDfPLUS DUdOVz GA2cGABAdCROSSvG GABAcGADdOVz GAD Gs OVz GscGrdGAD OVz G",
      "AD Gs OVz GscGrAMcGAMcGycGy2dTENUdOVz Gy2dCROSSvG Gy2cGscGs3cGASHycGESHTvdTIMES KURcGIdTIM",
      "ES EeUdCROSSvG GIcGI4dOVz GI4dCROSSvG GI4cGIDIMcGIR2dGUNUcGIR3dTIMES A PLUS IGIeGy2 TENUeI",
      "GIeLU PLUS IGIePAcGISrcGISHdCROSSvG GISHdTIMES BADeTAK4dTENUcGUdCROSSvG GUcGU2dTIMES KAKfT",
      "IMES IGI GUNUeNUNeSr PLUS TUG2dGUNUcGUDdTIMES A PLUS KUReKURdOVz GUD LUGrcGULcGUMdTIMES SH",
      "EcGURcGUR7cGURUNcGURUSHcHAdTENUdGUNUcHrcHIdTIMES ASHeASH2eBADeDISHeGADeKveNUNeSHEeUcHUcHUB",
      "2dTIMES yeHreKASKreLISHeUDcHUL2cIdAcIBcIDIMdOVz IDIM BURfSQUsEDcIGcIGIdDIBdRIdOVz IGI SHIR",
      " OVz SHIR UD OVz UDdGUNUcILdTIMES Gy2 TENUcIL2cIMdTIMES TAK4dCROSSvG IMdOPPOSvG IMdSQUsEDc",
      "IMvcvcIRcISHcKAdTIMES AeADfPLUS KU3eASH2eBADeBrAGeBseBIezv2eESH2eGAeGreGy2 TENUeGsfPLUS SH",
      "A3 PLUS AeGIeGIR2eGISH PLUS SsfCROSSvG GISHeGUeGUR7eIGIeIMeKAKeKIeKIDeLIeLUeMEfPLUS DUgGIg",
      "TEeMIfPLUS NUNUZeNEeNUNePIeRUeSAeSseSHAeSHEeSHIDeSHUeSIGeSUHUReTseUeU2eUDeUMUM TIMES PAeUS",
      "HeZIcKA2dCROSSvG KA2cKABcKAD2cKAD3cKAD4cKAD5dOVz KAD5cKAKdTIMES IGI GUNUcKrdTIMES BADdCROS",
      "SvG KrcKAM2cKAM4cKASKrdLAGAB TIMES U OVz LAGAB TIMES UdOVz KASKr LAGAB TIMES U OVz LAGAB T",
      "IMES UcKESH2cKIdTIMES BADeUeUDcKIDcKvcKISrcKISHcKISIM5dOVz KISIM5cKUdOVz HI TIMES ASH2 KU ",
      "OVz HI TIMES ASH2cKU3cKU4dVsIyTwcKU7cKULdGUNUcKUNcKURdOPPOSvG KURcKUSHU2cKWU318cLAcLAGABdT",
      "IMES AfPLUS DA PLUS HAgGsgLrereyeASH ZIDA TENUeBADeBIeDseENeGAeGseGUDfPLUS GUDeHAeHreHI TI",
      "MES NUNeIGI GUNUeIMfPLUS HAgLUeKIeKveKU3eKULfPLUS HI PLUS AeLAGABeLISHeLUeLULeMEfPLUS ENeM",
      "USHeNEeSHE PLUS SUMeSHITA PLUS GISH PLUS zv2hTENUeSHU2fPLUS SHU2eSUMeTAGeTAK4eTE PLUS A PL",
      "US SU PLUS NAeUfPLUS AgU PLUS UeU2 PLUS ASHeUDeUSHdSQUsEDcLAGsdTIMES SHEfPLUS SUMdGUNUeOVz",
      " LAGs GUNU SHEcLAHSHUcLrdTIMES LrcLAMdTIMES KURfPLUS RUcLIcLILcLIMMU2cLISHcLUdTIMES BADcLU",
      "2dTIMES reBADeESH2fTENUeGy2 TENUeHI TIMES BADeIMeKAD2eKAD3fPLUS ASHeKIeLA PLUS ASHeLAGABeM",
      "E PLUS ENeNEeNUeSI PLUS ASHeSIK2 PLUS BUeTUG2dTENUdCROSSvG LU2dOPPOSvG LU2dSQUsEDdSHESHIGc",
      "LU3cLUGrdOVz LUGrdOPPOSvG LUGrdSHESHIGcLUHcLULcLUMdOVz LUMfGs OVz GscMAdTIMES TAK4dGUNUcMA",
      "2cMAHcMscMASHcMASH2cMEcMEScMIcMvcMUdOVz MUcMUGdGUNUcMUNSUBcMURGU2cMUSHdTIMES AeKUReZAdOVz ",
      "MUSHfTIMES A PLUS NAdCROSSvG MUSHcMUSH3dTIMES AfPLUS DIeDIdGUNUcNAcNA2cNAGAdvVzTEDdTIMES S",
      "HU TENUdOPPOSvG NAGAcNAGscNAM NUTILLUcNAMcNAM2cNEdTIMES AeUDdSHESHIGcNIdTIMES EcNI2cNIMdTI",
      "MES Gy2 TENUeGs PLUS Gy2 TENUcNvDA2dTIMES yeASHfPLUS ASHeGUDeME PLUS Gy2 TENUeNEeNUNeSHEfP",
      "LUS A ygASHhPLUS ASHeU2 PLUS ASHeUSHcNISAGcNUcNU11cNUNdLAGs TIMES GsfMASHfSrgOVz NUN LAGs ",
      "TIMES SrfUSHdTENUdOVz NUNdCROSSvG NUNfLAGs OVz LAGscNUNUZdAB2 TIMES ASHGABfBIfDUGfGUDfIGI ",
      "GUNUfKAD3fLAfNEfSILA3fU2dKISIM5 TIMES BIgUcPAcPADcPycPAPcPESH2cPIdTIMES AeABeBIeBUeEeIeIBe",
      "UeU2dCROSSvG PIcPIRIGdTIMES KreUDeZAdOPPOSvG PIRIGcRAcRABcRIcRUcSAcSAG NUTILLUcSAGdTIMES A",
      "eDUeDUBeHAeKAKeKUReLUMeMIeNUNeSreSHIDeTABeU2eUBeUMeUReUSHdOVz SAGdGUNUcSrdLAGAB TIMES ASH2",
      "cSyGA2cSscSHAcSHA3dTIMES AeBADeGISHeNEeSHU2eTUReUfPLUS AcSHA6cSHAB6cSHs2cSHEdHUdOVz SHE GA",
      "D OVz GAD Gs OVz GsfTAB OVz TAB Gs OVz GscSHEG9cSHENcSHESHcSHESH2cSHESHLAMcSHIDdTIMES AeIM",
      "cSHIMdTIMES AeBreBULUGeDveGseIGIfGUNUeKUSHU2eLULeMUGeSrcSHvIGcSHIRdTENUdOVz SHIR BUR OVz B",
      "URcSHITAcSHUdOVz vVzTED SHUcSHU2cSHUBURcSIdGUNUcSIGcSIG4dOVz SIG4 SHU2cSIK2cSILA3cSUdOVz S",
      "UcSUDcSUD2cSUHURcSUMcSUMASHcSURcSUR9cTAdASTzISKdTIMES HIeMIdGUNUcTABdOVz TAB NI OVz NI DIS",
      "H OVz DISHdSQUsEDcTAGdTIMES BIeGUDeSHEeSHUeTUG2eUDcTAK4cTscTEdGUNUcTIdTENUcTILcTIRdTIMES T",
      "AK4dOVz TIRfGAD OVz GAD Gs OVz GscTUcTUG2cTUKcTUMcTURdOVz TUR ZA OVz ZAcUdGUDdU UdOVz U PA",
      " OVz PA Gs OVz GsfSUR OVz SURfU REVzSED OVz U REVzSEDcU2cUBcUDdKUSHU2dTIMES BADeMIeU PLUS ",
      "U PLUS UjGUNUdGUNUdSHESHIGeTIMES BADcUDUGcUMdTIMES LAGABeME PLUS DAeSHA3eUcUMBvcUMUMdTIMES",
      " KASKrePAcUNdGUNUcURdCROSSvG URdSHESHIGcUR2dTIMES A PLUS HAgNAereHAeNUNeU2fPLUS ASHgBIcUR4",
      "cURIcURI3cURUdTIMES AeASHGABeBseDUNeGAeGreGy2 TENUeGseGUeHAeIGIeIMeISHeKIeLUMeMvePAeSHEeSI",
      "G4eTUeU PLUS GUDeUDeURUDAcURUDAdTIMES UcUSHdTIMES AeKUeKUReTAK4cUSHXcUSH2cUSHUMXcUTUKIcUZ3",
      "dTIMES KASKrcUZUcZAdTENUdSQUsED TIMES KURcZAGcZAMXcZE2cZIdOVz ZIcZI3cZIBdKABA TENUcZIGcZIZ",
      "2cZUcZU5dTIMES AcZUBURcZUMcKAP ELAMITEcAB TIMES NUNcAB2 TIMES AcAMs TIMES KUGcDAG KISIM5 T",
      "IMES U2 PLUS MASHcDAG3cDISH PLUS SHUcDUB TIMES SHEcEZEN TIMES GUDeSHEcGA2 TIMES y PLUS KAK",
      " PLUS AeASH2cGE22cGIGcHUSHcKA TIMES ySHEeASH3eGISHeGUDeHI TIMES ASH2eLUMePAeSHULeTUeUR2cLA",
      "GAB TIMES GIcLU2 SHESHIG TIMES BADdTIMES ESH2 PLUS LreSHUcMESHcMUSH3 TIMES ZAcNA4cNvcNv9cN",
      "vDA2 TIMES BreGIcNU11 ROTATED NvETY DEGREEScPESH2 ASTzISKcPIR2cSAG TIMES IGI GUNUcTI2cUM T",
      "IMES MEcU U"]⟩,
   ⟨0x12400, [
      "aCUNEIFORM NUMzIC SIGN TWO ASHdTHREE ASHdFOUR ASHdFIVE ASHdSIX ASHdSEVEN ASHdEt ASHdNvE AS",
      "HdTHREE DISHdFOUR DISHdFIVE DISHdSIX DISHdSEVEN DISHdEt DISHdNvE DISHdFOUR UdFIVE UdSIX Ud",
      "SEVEN UdEt UdNvE UdONE GESH2dTWO GESH2dTHREE GESH2dFOUR GESH2dFIVE GESH2dSIX GESH2dSEVEN G",
      "ESH2dEt GESH2dNvE GESH2dONE GESHUdTWO GESHUdTHREE GESHUdFOUR GESHUdFIVE GESHUdTWO SHs2dTHR",
      "EE SHs2fVsIyTwdFOUR SHs2dFIVE SHs2dSIX SHs2dSEVEN SHs2dEt SHs2dNvE SHs2dONE SHsUdTWO SHsUd",
      "THREE SHsUfVsIyTwdFOUR SHsUdFIVE SHsUdSHs2 TIMES Gr PLUS DISHhMvdONE BURUdTWO BURUdTHREE B",
      "URUfVsIyTwdFOUR BURUdFIVE BURUdTHREE VsIyTw ESH16gESH21dFOUR VsIyTw LIMMUgLIMMU4gLIMMU AhB",
      "dSIX VsIyTw ASH9dSEVEN VsIyTw IMv3gIMv AhBdEt VsIyTw USSUgUSSU3dNvE VsIyTw ILIMMUgILIMMU3g",
      "ILIMMU4gILIMMU AdTWO ASH TENUdTHREE ASH TENUdFOUR ASH TENUdFIVE ASH TENUdSIX ASH TENUdONE ",
      "By2dTWO By2dTHREE By2dFOUR By2fVsIyTwdFIVE By2fVsIyTwdNIGIDAMvdNIGIDAESHdONE ESHE3dTWO ESH",
      "E3dONE THIRD DISHdTWO THIRDS DISHdFIVE SIXTHS DISHdONE THIRD VsIyTw AdTWO THIRDS VsIyTw Ad",
      "ONE EtH ASHeQUsTz ASHdOLD ASSYRIy ONE SIXTHgQUsTzdONE QUsTz GUReHrF GURdELAMITE ONE THIRDe",
      "TWO THIRDSeFORTYeFIFTYdFOUR U VsIyTwdFIVE U VsIyTwdSIX U VsIyTwdSEVEN U VsIyTwdEt U VsIyTw",
      "dNvE U VsIyTw.bPUNCTUATION SIGN OLD ASSYRIy WORD DIVIDzdVzTICr COLONdDIAGONr COLONeTRICOLO",
      "NeQUADCOLON"]⟩,
   ⟨0x12480, [
      "aCUNEIFORM SIGN AB TIMES NUN TENUeSHU2cAD TIMES ESH2cBAD TIMES DISH TENUcBAHs2 TIMES AB2eN",
      "IeZAcBU OVz BU TIMES NA2cDA TIMES TAK4cDAG TIMES KURcDIM TIMES IGIeU U UcDIM2 TIMES UDcDUG",
      " TIMES ySHEeASHfAT uFTeDveDUNezv2eGAeGIeGIR2 GUNUeGISHeHAeHIeIGI GUNUeKASKreKUReKUSHU2fPLU",
      "S KASKreLAK-020eLAMfTIMES KUReLUH PLUS GISHeMASHeMESeMIeNIePIeSHEeSI GUNUcE2 TIMES KURePAP",
      "czv2 XcESH2 CROSSvG ESH2cEZEN SHESHIG TIMES ASHfHIfIGI GUNUfLAfLrfMEfMESfSUdTIMES SUcGA2 T",
      "IMES BAHs2eDIM GUNUeDUG TIMES IGI GUNUgKASKrezENeGAeGs PLUS DIgNEeHA PLUS AeKUSHU2 PLUS KA",
      "SKreLAMfTIMES KUReLUHeMUSHeNEfPLUS E2gGIeSHIMeZIZ2cGABA ROTATED NvETY DEGREEScGESHTv TIMES",
      " UcGISH TIMES GISH CROSSvG GISHcGU2 TIMES IGI GUNUcGUD PLUS GISH TIMES TAK4cHA TENU GUNUcH",
      "I TIMES ASH OVz HI TIMES ASHcKA TIMES BUeKAeU U UeURcLAGAB TIMES ZU OVz ZUcLAK-003cLAK-021",
      "cLAK-025cLAK-030cLAK-050cLAK-051cLAK-062cLAK-079 OVz LAK-079 GUNUcLAK-080cLAK-081 OVz LAK-",
      "081cLAK-092cLAK-130cLAK-142cLAK-210cLAK-219cLAK-220cLAK-225cLAK-228cLAK-238cLAK-265cLAK-26",
      "6cLAK-343cLAK-347cLAK-348cLAK-383cLAK-384cLAK-390cLAK-441cLAK-449dTIMES GUeIGIePAP PLUS LU",
      "3gPAP PLUS LU3eU2 PLUS BAcLAK-450cLAK-457cLAK-470cLAK-483cLAK-490cLAK-492cLAK-493cLAK-495c",
      "LAK-550cLAK-608cLAK-617dTIMES ASHeBADeDUN3 GUNU GUNUeKU3eLAeTseTEeU2eUDeURUDAcLAK-636cLAK-",
      "648dTIMES DUBeGAeIGIfGUNUeNIePAP PLUS PAP PLUS LU3eSHESH PLUS KIeUDeURUDAcLAK-724cLAK-749c",
      "LU2 GUNU TIMES ASHdTIMES DISHeHrePAPfPLUS PAP PLUS LU3eTAK4cMI PLUS ZA7cMUSH OVz MUSH TIME",
      "S GAgKAKcNvDA2 TIMES DIM GUNUeGISHeGULeHIeKESH2eLAK-050eMASHePAP PLUS PAPeUfPLUS UeURUDAcS",
      "AG GUNU TIMES HAdTIMES ENeSHE AT uFTeTAK4cSHA6 TENUcSHE OVz SHEdPLUS HUB2eNAM2eSscSHU2 PLU",
      "S DUG TIMES NIeE2 TIMES ycSI TIMES TAK4cTAK4 PLUS SAGcTUM TIMES Gy2 TENUeTHREE DISHcUR2 vV",
      "zTEDdTIMES UDcURU TIMES DsA3eLAK-668eLU3cZA7cZU OVz ZU PLUS SscZU5 TIMES THREE DISH TENU"]⟩,
   ⟨0x12F90, [
      "aCYPRO-MvOy SIGN CM001cCM002cCM004cCM005cCM006cCM007cCM008cCM009cCM010cCM011cCM012cCM012Bc",
      "CM013cCM015cCM017cCM019cCM021cCM023cCM024cCM025cCM026cCM027cCM028cCM029cCM030cCM033cCM034c",
      "CM035cCM036cCM037cCM038cCM039cCM040cCM041cCM044cCM046cCM047cCM049cCM050cCM051cCM052cCM053c",
      "CM054cCM055cCM056cCM058cCM059cCM060cCM061cCM062cCM063cCM064cCM066cCM067cCM068cCM069cCM070c",
      "CM071cCM072cCM073cCM074cCM075cCM075BcCM076cCM078cCM079cCM080cCM081cCM082cCM083cCM084cCM085",
      "cCM086cCM087cCM088cCM089cCM090cCM091cCM092cCM094cCM095cCM096cCM097cCM098cCM099cCM100cCM101",
      "cCM102cCM103cCM104cCM105cCM107cCM108cCM109cCM110cCM112cCM114cCM301cCM302"]⟩,
   ⟨0x13000, [
      "aEGYPTIy HIzOGLYPH A001cA002cA003cA004cA005cA005AcA006cA006AcA006BcA007cA008cA009cA010cA01",
      "1cA012cA013cA014cA014AcA015cA016cA017cA017AcA018cA019cA020cA021cA022cA023cA024cA025cA026cA",
      "027cA028cA029cA030cA031cA032cA032AcA033cA034cA035cA036cA037cA038cA039cA040cA040AcA041cA042",
      "cA042AcA043cA043AcA044cA045cA045AcA046cA047cA048cA049cA050cA051cA052cA053cA054cA055cA056cA",
      "057cA058cA059cA060cA061cA062cA063cA064cA065cA066cA067cA068cA069cA070cB001cB002cB003cB004cB",
      "005cB005AcB006cB007cB008cB009cC001cC002cC002AcC002BcC002CcC003cC004cC005cC006cC007cC008cC0",
      "09cC010cC010AcC011cC012cC013cC014cC015cC016cC017cC018cC019cC020cC021cC022cC023cC024cD001cD",
      "002cD003cD004cD005cD006cD007cD008cD008AcD009cD010cD011cD012cD013cD014cD015cD016cD017cD018c",
      "D019cD020cD021cD022cD023cD024cD025cD026cD027cD027AcD028cD029cD030cD031cD031AcD032cD033cD03",
      "4cD034AcD035cD036cD037cD038cD039cD040cD041cD042cD043cD044cD045cD046cD046AcD047cD048cD048Ac",
      "D049cD050cD050AcD050BcD050CcD050DcD050EcD050FcD050GcD050HcD050IcD051cD052cD052AcD053cD054c",
      "D054AcD055cD056cD057cD058cD059cD060cD061cD062cD063cD064cD065cD066cD067cD067AcD067BcD067CcD",
      "067DcD067EcD067FcD067GcD067HcE001cE002cE003cE004cE005cE006cE007cE008cE008AcE009cE009AcE010",
      "cE011cE012cE013cE014cE015cE016cE016AcE017cE017AcE018cE019cE020cE020AcE021cE022cE023cE024cE",
      "025cE026cE027cE028cE028AcE029cE030cE031cE032cE033cE034cE034AcE036cE037cE038cF001cF001AcF00",
      "2cF003cF004cF005cF006cF007cF008cF009cF010cF011cF012cF013cF013AcF014cF015cF016cF017cF018cF0",
      "19cF020cF021cF021AcF022cF023cF024cF025cF026cF027cF028cF029cF030cF031cF031AcF032cF033cF034c",
      "F035cF036cF037cF037AcF038cF038AcF039cF040cF041cF042cF043cF044cF045cF045AcF046cF046AcF047cF",
      "047AcF048cF049cF050cF051cF051AcF051BcF051CcF052cF053cG001cG002cG003cG004cG005cG006cG006AcG",
      "007cG007AcG007BcG008cG009cG010cG011cG011AcG012cG013cG014cG015cG016cG017cG018cG019cG020cG02",
      "0AcG021cG022cG023cG024cG025cG026cG026AcG027cG028cG029cG030cG031cG032cG033cG034cG035cG036cG",
      "036AcG037cG037AcG038cG039cG040cG041cG042cG043cG043AcG044cG045cG045AcG046cG047cG048cG049cG0",
      "50cG051cG052cG053cG054cH001cH002cH003cH004cH005cH006cH006AcH007cH008cI001cI002cI003cI004cI",
      "005cI005AcI006cI007cI008cI009cI009AcI010cI010AcI011cI011AcI012cI013cI014cI015cK001cK002cK0",
      "03cK004cK005cK006cK007cK008cL001cL002cL002AcL003cL004cL005cL006cL006AcL007cL008cM001cM001A",
      "cM001BcM002cM003cM003AcM004cM005cM006cM007cM008cM009cM010cM010AcM011cM012cM012AcM012BcM012",
      "CcM012DcM012EcM012FcM012GcM012HcM013cM014cM015cM015AcM016cM016AcM017cM017AcM018cM019cM020c",
      "M021cM022cM022AcM023cM024cM024AcM025cM026cM027cM028cM028AcM029cM030cM031cM031AcM032cM033cM",
      "033AcM033BcM034cM035cM036cM037cM038cM039cM040cM040AcM041cM042cM043cM044cN001cN002cN003cN00",
      "4cN005cN006cN007cN008cN009cN010cN011cN012cN013cN014cN015cN016cN017cN018cN018AcN018BcN019cN",
      "020cN021cN022cN023cN024cN025cN025AcN026cN027cN028cN029cN030cN031cN032cN033cN033AcN034cN034",
      "AcN035cN035AcN036cN037cN037AcN038cN039cN040cN041cN042cNL001cNL002cNL003cNL004cNL005cNL005A",
      "cNL006cNL007cNL008cNL009cNL010cNL011cNL012cNL013cNL014cNL015cNL016cNL017cNL017AcNL018cNL01",
      "9cNL020cNU001cNU002cNU003cNU004cNU005cNU006cNU007cNU008cNU009cNU010cNU010AcNU011cNU011AcNU",
      "012cNU013cNU014cNU015cNU016cNU017cNU018cNU018AcNU019cNU020cNU021cNU022cNU022AcO001cO001AcO",
      "002cO003cO004cO005cO005AcO006cO006AcO006BcO006CcO006DcO006EcO006FcO007cO008cO009cO010cO010",
      "AcO010BcO010CcO011cO012cO013cO014cO015cO016cO017cO018cO019cO019AcO020cO020AcO021cO022cO023",
      "cO024cO024AcO025cO025AcO026cO027cO028cO029cO029AcO030cO030AcO031cO032cO033cO033AcO034cO035",
      "cO036cO036AcO036BcO036CcO036DcO037cO038cO039cO040cO041cO042cO043cO044cO045cO046cO047cO048c",
      "O049cO050cO050AcO050BcO051cP001cP001AcP002cP003cP003AcP004cP005cP006cP007cP008cP009cP010cP",
      "011cQ001cQ002cQ003cQ004cQ005cQ006cQ007cR001cR002cR002AcR003cR003AcR003BcR004cR005cR006cR00",
      "7cR008cR009cR010cR010AcR011cR012cR013cR014cR015cR016cR016AcR017cR018cR019cR020cR021cR022cR",
      "023cR024cR025cR026cR027cR028cR029cS001cS002cS002AcS003cS004cS005cS006cS006AcS007cS008cS009",
      "cS010cS011cS012cS013cS014cS014AcS014BcS015cS016cS017cS017AcS018cS019cS020cS021cS022cS023cS",
      "024cS025cS026cS026AcS026BcS027cS028cS029cS030cS031cS032cS033cS034cS035cS035AcS036cS037cS03",
      "8cS039cS040cS041cS042cS043cS044cS045cS046cT001cT002cT003cT003AcT004cT005cT006cT007cT007AcT",
      "008cT008AcT009cT009AcT010cT011cT011AcT012cT013cT014cT015cT016cT016AcT017cT018cT019cT020cT0",
      "21cT022cT023cT024cT025cT026cT027cT028cT029cT030cT031cT032cT032AcT033cT033AcT034cT035cT036c",
      "U001cU002cU003cU004cU005cU006cU006AcU006BcU007cU008cU009cU010cU011cU012cU013cU014cU015cU01",
      "6cU017cU018cU019cU020cU021cU022cU023cU023AcU024cU025cU026cU027cU028cU029cU029AcU030cU031cU",
      "032cU032AcU033cU034cU035cU036cU037cU038cU039cU040cU041cU042cV001cV001AcV001BcV001CcV001DcV",
      "001EcV001FcV001GcV001HcV001IcV002cV002AcV003cV004cV005cV006cV007cV007AcV007BcV008cV009cV01",
      "0cV011cV011AcV011BcV011CcV012cV012AcV012BcV013cV014cV015cV016cV017cV018cV019cV020cV020AcV0",
      "20BcV020CcV020DcV020EcV020FcV020GcV020HcV020IcV020JcV020KcV020LcV021cV022cV023cV023AcV024c",
      "V025cV026cV027cV028cV028AcV029cV029AcV030cV030AcV031cV031AcV032cV033cV033AcV034cV035cV036c",
      "V037cV037AcV038cV039cV040cV040AcW001cW002cW003cW003AcW004cW005cW006cW007cW008cW009cW009AcW",
      "010cW010AcW011cW012cW013cW014cW014AcW015cW016cW017cW017AcW018cW018AcW019cW020cW021cW022cW0",
      "23cW024cW024AcW025cX001cX002cX003cX004cX004AcX004BcX005cX006cX006AcX007cX008cX008AcY001cY0",
      "01AcY002cY003cY004cY005cY006cY007cY008cZ001cZ002cZ002AcZ002BcZ002CcZ002DcZ003cZ003AcZ003Bc",
      "Z004cZ004AcZ005cZ005AcZ006cZ007cZ008cZ009cZ010cZ011cZ012cZ013cZ014cZ015cZ015AcZ015BcZ015Cc",
      "Z015DcZ015EcZ015FcZ015GcZ015HcZ015IcZ016cZ016AcZ016BcZ016CcZ016DcZ016EcZ016FcZ016GcZ016HcA",
      "A001cAA002cAA003cAA004cAA005cAA006cAA007cAA007AcAA007BcAA008cAA009cAA010cAA011cAA012cAA013",
      "cAA014cAA015cAA016cAA017cAA018cAA019cAA020cAA021cAA022cAA023cAA024cAA025cAA026cAA027cAA028",
      "cAA029cAA030cAA031cAA032.cVzTICr JOvzcHORIZONTr JOvzcvSzT AT TOP STsTeBOTTOM STsTeTOP ENDe",
      "BOTTOM ENDcOVzLAY MIDDucBEGv SEGMENTcEND SEGMENT"]⟩,
   ⟨0x14400, [
      "ayATOLIy HIzOGLYPH A001cA002cA003cA004cA005cA006cA007cA008cA009cA010cA010AcA011cA012cA013c",
      "A014cA015cA016cA017cA018cA019cA020cA021cA022cA023cA024cA025cA026cA026AcA027cA028cA029cA030",
      "cA031cA032cA033cA034cA035cA036cA037cA038cA039cA039AcA040cA041cA041AcA042cA043cA044cA045cA0",
      "45AcA046cA046AcA046BcA047cA048cA049cA050cA051cA052cA053cA054cA055cA056cA057cA058cA059cA060",
      "cA061cA062cA063cA064cA065cA066cA066AcA066BcA066CcA067cA068cA069cA070cA071cA072cA073cA074cA",
      "075cA076cA077cA078cA079cA080cA081cA082cA083cA084cA085cA086cA087cA088cA089cA090cA091cA092cA",
      "093cA094cA095cA096cA097cA097AcA098cA098AcA099cA100cA100AcA101cA101AcA102cA102AcA103cA104cA",
      "104AcA104BcA104CcA105cA105AcA105BcA106cA107cA107AcA107BcA107CcA108cA109cA110cA110AcA110BcA",
      "111cA112cA113cA114cA115cA115AcA116cA117cA118cA119cA120cA121cA122cA123cA124cA125cA125AcA126",
      "cA127cA128cA129cA130cA131cA132cA133cA134cA135cA135AcA136cA137cA138cA139cA140cA141cA142cA14",
      "3cA144cA145cA146cA147cA148cA149cA150cA151cA152cA153cA154cA155cA156cA157cA158cA159cA160cA16",
      "1cA162cA163cA164cA165cA166cA167cA168cA169cA170cA171cA172cA173cA174cA175cA176cA177cA178cA17",
      "9cA180cA181cA182cA183cA184cA185cA186cA187cA188cA189cA190cA191cA192cA193cA194cA195cA196cA19",
      "7cA198cA199cA200cA201cA202cA202AcA202BcA203cA204cA205cA206cA207cA207AcA208cA209cA209AcA210",
      "cA211cA212cA213cA214cA215cA215AcA216cA216AcA217cA218cA219cA220cA221cA222cA223cA224cA225cA2",
      "26cA227cA227AcA228cA229cA230cA231cA232cA233cA234cA235cA236cA237cA238cA239cA240cA241cA242cA",
      "243cA244cA245cA246cA247cA248cA249cA250cA251cA252cA253cA254cA255cA256cA257cA258cA259cA260cA",
      "261cA262cA263cA264cA265cA266cA267cA267AcA268cA269cA270cA271cA272cA273cA274cA275cA276cA277c",
      "A278cA279cA280cA281cA282cA283cA284cA285cA286cA287cA288cA289cA289AcA290cA291cA292cA293cA294",
      "cA294AcA295cA296cA297cA298cA299cA299AcA300cA301cA302cA303cA304cA305cA306cA307cA308cA309cA3",
      "09AcA310cA311cA312cA313cA314cA315cA316cA317cA318cA319cA320cA321cA322cA323cA324cA325cA326cA",
      "327cA328cA329cA329AcA330cA331cA332AcA332BcA332CcA333cA334cA335cA336cA336AcA336BcA336CcA337",
      "cA338cA339cA340cA341cA342cA343cA344cA345cA346cA347cA348cA349cA350cA351cA352cA353cA354cA355",
      "cA356cA357cA358cA359cA359AcA360cA361cA362cA363cA364cA364AcA365cA366cA367cA368cA368AcA369cA",
      "370cA371cA371AcA372cA373cA374cA375cA376cA377cA378cA379cA380cA381cA381AcA382cA383 RA OR RIc",
      "A383AcA384cA385cA386cA386AcA387cA388cA389cA390cA391cA392cA393 EtcA394cA395cA396cA397cA398c",
      "A399cA400cA401cA402cA403cA404cA405cA406cA407cA408cA409cA410 BEGv LOGOGRAM MsKcA410A END LO",
      "GOGRAM MsKcA411cA412cA413cA414cA415cA416cA417cA418cA419cA420cA421cA422cA423cA424cA425cA426",
      "cA427cA428cA429cA430cA431cA432cA433cA434cA435cA436cA437cA438cA439cA440cA441cA442cA443cA444",
      "cA445cA446cA447cA448cA449cA450cA450AcA451cA452cA453cA454cA455cA456cA457cA457AcA458cA459cA4",
      "60cA461cA462cA463cA464cA465cA466cA467cA468cA469cA470cA471cA472cA473cA474cA475cA476cA477cA4",
      "78cA479cA480cA481cA482cA483cA484cA485cA486cA487cA488cA489cA490cA491cA492cA493cA494cA495cA4",
      "96cA497cA501cA502cA503cA504cA505cA506cA507cA508cA509cA510cA511cA512cA513cA514cA515cA516cA5",
      "17cA518cA519cA520cA521cA522cA523cA524cA525cA526cA527cA528cA529cA530"]⟩,
   ⟨0x16800, [
      "aBAMUMpPHASE-A NGKUE MFONdGBIEE FONdPON MFON PIPAEMGBIEEfPIPAEMBAdNAA MFONdSHUENSHUETdTITA",
      " MFONdNZA MFONdSHvDA PA NJIdPON PA NJI PIPAEMGBIEEgPIPAEMBAdMAEMBGBIEEdTU MAEMBAdNGyGUdMAE",
      "MVEUXdMySUAEdMVEUAENGAMdSEUNYAMdNTOQPENdKEUKEUTNDAdNKvDIdSUUdNGKUENZEUMdLAPAQduT KUTdNTAP ",
      "MFAAdMAEKEUPdPASHAEdGHEUAzAEdPAMSHAEdMON NGGEUAETdNZUN MEUTdU YUQ NAEdGHEUAEGHEUAEdNTAP NT",
      "AAdSISAdMGBASAdMEUNJOMNDEUQdMOOMPUQdKAFAdPA uzAEWAdNDA uzAEWAdPETdMAEMKPENdNIKAdPUPdTUAEPd",
      "LUAEPdSONJAMdTEUTEUWENdMAENYIdKETdNDAyGGEUAETdKUOQdMOOMEUTdSHUMdLOMMAEdFIRIdROMdKPOQdSOQdM",
      "AP PIEETdSHIRAEdNTAPdSHOQ NSHUT YUMdNYIT MONGKEUAEQdPAsAEdNKAsAEdUNKNOWNdNGGENdMAESIdNJAMd",
      "MByYIdNYETdTEUAENdSOTdPAAMdNSHIEEdMAEMdNYIdKAQdNSHAdVEEdLUdNENdNAQdMBAQcPHASE-B NSHUETdTU ",
      "MAEMGBIEEdSIEEdSET TUdLOM NTEUMdMBA MAEuEdKIEEMdYEURAEdMBAsAEdKAMdPEESHIdYAFU uzAEWAdLAM N",
      "SHUT NYAMdNTIEE SHEUOQdNDU NJAAdGHEUGHEUAEMdPITdTU NSIEEdSHET NJAQdSHEUAEQTUdMFON TEUAEQdM",
      "BIT MBAAKETdNYI NTEUMdKEUPUQdGHEUGHENdKEUYEUXdLAyAEdPsUMdVEUMdNGKvDI MVOPdNGGEU MBUdWUAETd",
      "SAKEUAEdTAAMdMEUQdNGGUOQeLsGEdMFIYAQdSUEdMBEURIdMONTIEENdNYAEMAEdPUNGAAMdMEUT NGGEETdFEUXd",
      "MBUOQdFEEdKEUAEMdMA NJEUAENAeNJUQAduTdNGGAAMdNSENdMAdKIQdNGOMcPHASE-C NGKUE MAEMBAdNZAdYUM",
      "dWyGKUOQdNGGENdNDEUAzEEdNGKAQdGHsAEdMBEEKEETdGBAYIdNYIR MKPsAQ MEUNdNTU MBITdMBEUMdPIRIEEN",
      "dNDOMBUdMBAA CABBAGE-TREEdKEUSHEUAEPdGHAPdKEUKAQdYU MUOMAEdNZEUMdMBUEdNSEUAENdMBITdYEUQdKP",
      "sAQdKAAdSEUXdNDIDAdTAASHAEdNJUEQdTITA YUEdSUAETdNGGUAEN NYAMdVEUXdNySyAQdMA KEUAzIdNTAAdNG",
      "GUONdLAPdMBIRIEENdMGBASAQdNTEUNGBAdTEUTEUXdNGGUMdFUEdNDEUTdNSAdNSHAQdBUNGdVEUAEPENdMBzAEdR",
      "UdNJAEMdLAMdTITUAEPdNSUOT NGOMdNJEEEEdKETdNGGUdMAESIdMBUAEMdLUdKUTdNJAMdNGOMdWUPdNGGUEETdN",
      "SOMdNTENdKUOP NKAsAEdNSUNdNDAMdMA NSIEEdYAAdNDAPdSHUEQdSETFONdMBIdMAEMBAdMByYIdKEUSEUXdMBE",
      "UXdKEUMdMBAA PICKETdYUWOQdNJEUXdMIEEdMUAEdSHIQdKEN LAWeFATIGUEdNGAQdNAQdLIQdPvdPENdTETcPHA",
      "SE-D MBUOdWAPdNJIdMFONdNJIEEdLIEEdNJEUTdNSHEEdNGGAAMAEdNYAMdWUAENdNGKUNdSHEEdNGKAPdKEUAETM",
      "EUNdTEUTdSHEUAEdNJAPdSUEdKETdYAEMMAEdKUOMdSAPdMFEUTdNDEUXdMrEzIdMEUTdSEUAEQdYENdNJEUAEMdKE",
      "UOT MBUAEdNGKEURIdTUdGHAAdNGKYEEdFEUFEUAETdNDEEdMGBOFUMduUAEPdNDONdMONIdMGBEUNdPUUTdMGBIEE",
      "dMFOdLUMdNSIEEPdMBAAdKWAETdNYETdTEUAENdSOTdYUWOQdKEUMdRAEMdTEEEEdNGKEUAEQdMFEUAEdNSIEETdKE",
      "UPdPIPdPEUTAEdNYUEduTdNGGAAMdMFIEEdNGGWAENdYUOMdPAPdYUOPdNDAMdNTEUMdSUAEdKUNdNGGEUXdNGKIEE",
      "dTUOTdMEUNdKUQdNSUMdTEUNdMAENJETdNGGAPduUMdNGGUOMdNSHUTdNJUEQdGHEUAEdKUdREN OLDdTAEdTOQdNY",
      "IdRIIduEEEdMEEEEdMdSUUdMUdSHIIdSHEUXdKYEEdNUdSHUdNTEEdPEEdNIdSHOQdPUQdMVOPdLOQdREN MUCHdTI",
      "dNTUUdMBAA SEVENdSAQdFAAcPHASE-E NDAPdTOONdMBEUMdLAPdVOMdLOONdPAAdSOMdRAQdNSHUOPdNDUNdPUAE",
      "dTAMdNGKAdKPEUXdWUOdSEEdNGGEUAETdPAAMdTOOdKUOPdLOMdNSHIEEdNGOPdMAEMdNGKEUXdNGOQdNSHUEdRIMG",
      "BAdNJEUXdPEEMdSAAdNGGURAEdMGBAdGHEUXdNGKEUAEMdNJAEMLIdMAPdLOOTdNGGEEEEdNDIQdTAEN NTEUMdSET",
      "dPUMdNDAA SOFTNESSdNGGUAESHAE NYAMdYIEEdGHEUNdTUAEdYEUAEdPOdTUMAEdKEUAEdSUAENdTEUAEQdVEUAE",
      "dWEUXdLAAMdPUdTAAQdGHAAMAEdNGEUREUTdSHEUAEQdMGBENdMBEEdNZAQdNKOMdGBETdTUMdKUETdYAPdNYI CuA",
      "VzdYITdMFEUQdNDIAQdPIEEQdYUEQduUAEMdFUEdGBEUXdNGKUPdKETdMAEdNGKAAMIdGHETdFAdNTUMdPEUTdYEUM",
      "dNGGEUAEdNYI BETWEENdNZUQdPOONdMIEEdFUETdNAEdMUAEdGHEUAEdFU IdMVIdPUAQdNGKUMdKUTdPIETdNTAP",
      "dYEUAETdNGGUPdPA PEOPudFU CrLdFOMdNJEEdAdTOQdOdIdLAQdPA PLURrdTAAdTAQdNDAA MY HOUSEdSHIQdY",
      "EUXdNGUAEdYUAENdYOQ SWIMMvGeCOVzdYUQdYUNdKEUXdPEUXdNJEE EPOCHdPUEdWUEdFEEdVEEdLUdMIdREUXdR",
      "AEdNGUAETdNGAdSHOdSHOQdFU REMEDYdNAdPIdLOQdKOdMENdMAdMAQdTEUdKIdMONdTENdFAQdGHOMcPHASE-F K",
      "AdUdKUdEEdREEdTAEdNYIdLAdRIIdRIEEdMEEEEdTAAdNDAAdNJAEMdMdSUUdSHIIdSIdSEUXdKYEEdKETdNUAEdNU",
      "dNJUAEdYOQdSHUdYAdNSHAdPEUXdNTEEdWUEdPEEdRUdNIdREUXdKENdNGKWAENdNGGAdSHOdPUAEdFOMdWAdLIdLO",
      "QdKOdMBENdRENdMAdMOdMBAAdTETdKPAdSAMBAdVUEQ"]⟩,
   ⟨0x16A40, [
      "aMROpTAcNGIcYOcMIMcBAcDAcAcPHIcKHAIcHAOcDAIcCHUcKEAAEcOLcMAEMcNvcPAcOOcOcROcSHIcTHEAcEAcWA",
      "cEcKOcLycLAcHAIcRIcTEK.bDIGIT ZzOcONEcTWOcTHREEcFOURcFIVEcSIXcSEVENcEtcNvE....bDyDAbDOUBu ",
      "DyDAaTyGSApOZcOCcOQcOXcAZcACcAQcAXcVZcVCcVQcVXcEZcECcEQcEXcIZcICcIQcIXcUZcUCcUQcUXcAWZcAWC",
      "cAWQcAWXcUIZcUICcUIQcUIXcFvr NGcLONG UEXcSHORT UEZdAWXcUECcUEZcUEQcUEXcUIUZcUIUCcUIUQcUIUX",
      "cMZcMCcMQcMXcKAcKHAcGAcNGAcSAcYAcWAcPAcNYAcPHAcBAcMAcNAcHAcLAcHTAcTAcDAcRAcNHAcSHAcCAcTSAc",
      "GHAcHTTAcTHAcXAcFAcDHAcCHAcZA.bDIGIT ZzOcONEcTWOcTHREEcFOURcFIVEcSIXcSEVENcEtcNvE"]⟩,
   ⟨0x16AD0, [
      "aBASSA VAHpENNIdKAdSEdFAdMBEdYIEdGAHdDHIIdKPAHdJOdHWAHdWAdZOdGBUdDOdCEdUWUdTOdBAdVUdYEvdPA",
      "dWADDAdAdOdOOdUdEEdEdI..cCOMBvvG HIGH TONEdLOW TONEdMID TONEdLOW-MID TONEdHIGH-LOW TONEcFU",
      "LL STOP"]⟩,
   ⟨0x16B00, [
      "aPAHAWH HMONG VOWEL KEEBdKEEVdKIBdKIVdKAUBdKAUVdKUBdKUVdKEBdKEVdKAIBdKAIVdKOOBdKOOVdKAWBdK",
      "AWVdKUABdKUAVdKOBdKOVdKIABdKIAVdKABdKAVdKWBdKWVdKAABdKAAVcCONSONyT VAUdNTSAUdLAUdHAUdNLAUd",
      "RAUdNKAUdQHAUdYAUdHLAUdMAUdCHAUdNCHAUdHNAUdPLHAUdNTHAUdNAUdAUdXAUdCAUcMsK CIM TUBeSOeKESeK",
      "HAVeSUAMeHOMeTAUMcSIGN VOS THOMeTSHAB CEEBdCIM CHEEMdVOS THIABeFEEMdXYEEM NTXIVeRHOeTOVeFA",
      "IBdVOS SEEVdMEEJ SUABdVOS NRUAdIB YAMdXAUSdCIM TSOV ROG"]⟩,
   ⟨0x16B50, [
      "aPAHAWH HMONG DIGIT ZzOdONEdTWOdTHREEdFOURdFIVEdSIXdSEVENdEtdNvE.cNUMBz TENSdHUNDREDSdTEN ",
      "THOUSyDSdMILLIONSdHUNDRED MILLIONSdTEN BILLIONSdTRILLIONS.cSIGN VOS LUBdXYOOdHLIdTHIRD-STA",
      "GE HLIdZWJ THAJdHNUBdNQIGdXIABdNTUJdAVdTXHEEJ CEEVdMEEJ TSEEBdTAUdLOSdMUSdCIM HAIS LUS NTO",
      "G NTOGeCUAM TSHOOJeTXWVfCHWVePUB DAWBeNRES TOS.....cCLy SIGN TSHEEJeYEEGeLISeLAUJeXYOOJeKO",
      "OeHAWJeMUASeTHOJeTSABePHABeKHABeHAMeVAJeFAJeYAJeTSWBeKWMeVWJ"]⟩,
   ⟨0x16E40, [
      "aMEDEFAIDRv xLpMdSdVdWdATIUdZdKPdPdTdGdFdIdKdAdJdEdBdCdUdYUdLdQdHPdNYdXdDdOEdNdRdOdAIdYbSM",
      "rLpMdSdVdWdATIUdZdKPdPdTdGdFdIdKdAdJdEdBdCdUdYUdLdQdHPdNYdXdDdOEdNdRdOdAIdYbDIGIT ZzOcONEc",
      "TWOcTHREEcFOURcFIVEcSIXcSEVENcEtcNvEbNUMBz TENcEuVENcTWELVEcTHIRTEENcFOURTEENcFIFTEENcSIXT",
      "EENcSEVENTEENcEtEENcNvETEENbDIGIT ONE rTzNATEwcTWO rTzNATEwcTHREE rTzNATEwbCOMMAbFULL STOP",
      "bSYMBOL AIVAbEXCLAMATION OH"]⟩,
   ⟨0x16F00, [
      "aMIAOpPAcBAcYI PAcPLAcMAcMHAcsCHAIC MAcFAcVAcVFAcTAcDAcYI TTAdTAcTTAcDDAcNAcNHAcYI NNAcsCH",
      "AIC NAcNNAcNNHAcLAcLYAcLHAcLHYAcTLHAcDLHAcTLHYAcDLHYAcKAcGAcYI KAcQAcQGAcNGAcNGHAcsCHAIC N",
      "GAcHAcXAcGHAcGHHAcTSSAcDZZAcNYAcNYHAcTSHAcDZHAcYI TSHAdDZHAcREFORMED TSHAcSHAcSSAcZHAcZSHA",
      "cTSAcDZAcYI TSAcSAcZAcZSAcZZAcZZSAcsCHAIC ZZAcZZYAcZZSYAcWAcAHcHHAcBRIcSYIcDZYIcTEcTSEcRTE",
      "....bSIGN CONSONyT MODIFIz BsbuTTz NASrIZATIONbSIGN ASPIRATIONcREFORMED VOICvGdASPIRATIONb",
      "VOWEL SIGN AdAAdAHHdydyGdOdOOdWOdWdEdENdENGdOEYdIdIAdIydIyGdIOdIEdIIdIUdvGdUdUAdUydUyGdUUd",
      "UEIdUNGdYdYIdAEdAEEdzRdROUNDED zRdzdROUNDED zdAIdEIdAUdOUdNdNGdUOGdYUIdOGdOzdVWdIGdEAdIONG",
      "dUI"]⟩,
   ⟨0x16F8F, [
      "aMIAO TONE RtcTOP RtcABOVEcBELOWbuTTz TONE-2cTONE-3cTONE-4cTONE-5cTONE-6cTONE-7cTONE-8cREF",
      "ORMED TONE-1dTONE-2dTONE-4dTONE-5dTONE-6dTONE-8"]⟩,
   ⟨0x16FE0, [
      "aTyGUT ITzATION MsKaNUSHU ITzATION MsKaOLD CHvESE HOOK MsKcITzATION MsKaKHITy SMrL SCRIPT ",
      "FILuR"]⟩,
   ⟨0x16FF0, ["aVIETNAMESE rTzNATE READvG MsK CAeNHAY"]⟩,
   ⟨0x1AFF0, [
      "aKATAKyApMvNy TONE-2dTONE-3dTONE-4dTONE-5.dTONE-7dTONE-8dNASrIZED TONE-1eTONE-2eTONE-3eTON",
      "E-4eTONE-5.eTONE-7eTONE-8.csCHAIC EaHIRAGyApsCHAIC YEaHENTAIGyApA-1cA-2cA-3cA-WOcI-1cI-2cI",
      "-3cI-4cU-1cU-2cU-3cU-4cU-5cE-2cE-3cE-4cE-5cE-6cO-1cO-2cO-3cKA-1cKA-2cKA-3cKA-4cKA-5cKA-6cK",
      "A-7cKA-8cKA-9cKA-10cKA-11cKA-KEcKI-1cKI-2cKI-3cKI-4cKI-5cKI-6cKI-7cKI-8cKU-1cKU-2cKU-3cKU-",
      "4cKU-5cKU-6cKU-7cKE-1cKE-2cKE-3cKE-4cKE-5cKE-6cKO-1cKO-2cKO-3cKO-KIcSA-1cSA-2cSA-3cSA-4cSA",
      "-5cSA-6cSA-7cSA-8cSI-1cSI-2cSI-3cSI-4cSI-5cSI-6cSU-1cSU-2cSU-3cSU-4cSU-5cSU-6cSU-7cSU-8cSE",
      "-1cSE-2cSE-3cSE-4cSE-5cSO-1cSO-2cSO-3cSO-4cSO-5cSO-6cSO-7cTA-1cTA-2cTA-3cTA-4cTI-1cTI-2cTI",
      "-3cTI-4cTI-5cTI-6cTI-7cTU-1cTU-2cTU-3cTU-4cTU-TOcTE-1cTE-2cTE-3cTE-4cTE-5cTE-6cTE-7cTE-8cT",
      "E-9cTO-1cTO-2cTO-3cTO-4cTO-5cTO-6cTO-RAcNA-1cNA-2cNA-3cNA-4cNA-5cNA-6cNA-7cNA-8cNA-9cNI-1c",
      "NI-2cNI-3cNI-4cNI-5cNI-6cNI-7cNI-TEcNU-1cNU-2cNU-3cNE-1cNE-2cNE-3cNE-4cNE-5cNE-6cNE-KOcNO-",
      "1cNO-2cNO-3cNO-4cNO-5cHA-1cHA-2cHA-3cHA-4cHA-5cHA-6cHA-7cHA-8cHA-9cHA-10cHA-11cHI-1cHI-2cH",
      "I-3cHI-4cHI-5cHI-6cHI-7cHU-1cHU-2cHU-3cHE-1cHE-2cHE-3cHE-4cHE-5cHE-6cHE-7cHO-1cHO-2cHO-3cH",
      "O-4cHO-5cHO-6cHO-7cHO-8cMA-1cMA-2cMA-3cMA-4cMA-5cMA-6cMA-7cMI-1cMI-2cMI-3cMI-4cMI-5cMI-6cM",
      "I-7cMU-1cMU-2cMU-3cMU-4cME-1cME-2cME-MAcMO-1cMO-2cMO-3cMO-4cMO-5cMO-6cYA-1cYA-2cYA-3cYA-4c",
      "YA-5cYA-YOcYU-1cYU-2cYU-3cYU-4cYO-1cYO-2cYO-3cYO-4cYO-5cYO-6cRA-1cRA-2cRA-3cRA-4cRI-1cRI-2",
      "cRI-3cRI-4cRI-5cRI-6cRI-7cRU-1cRU-2cRU-3cRU-4cRU-5cRU-6cRE-1cRE-2cRE-3cRE-4cRO-1cRO-2cRO-3",
      "cRO-4cRO-5cRO-6cWA-1cWA-2cWA-3cWA-4cWA-5cWI-1cWI-2cWI-3cWI-4cWI-5cWE-1cWE-2cWE-3cWE-4cWO-1",
      "cWO-2cWO-3cWO-4cWO-5cWO-6cWO-7cN-MU-MO-1cN-MU-MO-2aHIRAGyApsCHAIC WUaKATAKyApsCHAIC YIdYEd",
      "WU"]⟩,
   ⟨0x1B150, ["aHIRAGyApSMrL WIdWEdWO"]⟩,
   ⟨0x1B164, ["aKATAKyApSMrL WIdWEdWOdN"]⟩]

end Upkeep.Text.Names
