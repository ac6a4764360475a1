import Upkeep.Text.Names.Packed

/-!
Names of characters: further names of characters that have another one, or none.
-/
namespace Upkeep.Text.Names

def aliases : List Run :=
  [⟨0x0, [
      "aNULLaSTsT OF HEADvGcTEXTaEND OF TEXTcTRySMISSIONaENQUIRYaACKNOWuDGEarzTaBACKSPACEaCHsACTz",
      " TABULATIONaLvE FEEDbTABULATIONaFORM FEEDaCsRIAGE RETURNaSHIFT OUTbvaDATA LvK ESCAPEaDEVIC",
      "E CONTROL ONEcTWOcTHREEcFOURaNEGATIVE ACKNOWuDGEaSYNCHRONOUS IDuaEND OF TRySMISSION BLOCKa",
      "CyCELaEND OF MEDIUMaSUBSTITUTEaESCAPEavFORMATION SEPsATOR FOURcTHREEcTWOcONEaSP"]⟩,
   ⟨0x7F, [
      "aDEuTEaPADDvG CHsACTzaHIGH OCTET PRESETaBREAK PzMITTED HzEaNO BREAK HzEavDEXaNEXT LvEaSTsT",
      " OF SEuCTED sEAaEND OF SEuCTED sEAaCHsACTz TABULATION SETcWITH JUSTIFICATIONaLvE TABULATIO",
      "N SETaPsTIr LvE FORWsDcBACKWsDaREVzSE LvE FEEDaSvGu SHIFT TWOcTHREEaDEVICE CONTROL STRvGaP",
      "RIVATE USE ONEcTWOaSET TRySMIT STATEaCyCEL CHsACTzaMESSAGE WAITvGaSTsT OF GUsDED sEAaEND O",
      "F GUsDED sEAaSTsT OF STRvGaSvGu GRAPHIC CHsACTz vTRODUCzbCHsACTz vTRODUCzaCONTROL SEQUENCE",
      " vTRODUCzaSTRvG TzMvATORaOPzATvG SYSTEM COMMyDaPRIVACY MESSAGEaAPPLICATION PROGRAM COMMyDa",
      "NBSP"]⟩,
   ⟨0xAD, ["aSHY"]⟩,
   ⟨0x1A2, ["aLATv xLpGHAbSMrLpGHA"]⟩,
   ⟨0x34F, ["aCGJ"]⟩,
   ⟨0x61C, ["arM"]⟩,
   ⟨0x709, ["aSYRIAC SUBLvEs COLON SKEWED uFT"]⟩,
   ⟨0xCDE, ["aKyNADApLLLA"]⟩,
   ⟨0xE9D, ["aLAOpFO FON.dFAY...cRO.cLO"]⟩,
   ⟨0xFD0, ["aTIBETy MsK BKA- SHOG GI MGO RGYy"]⟩,
   ⟨0x11EC, [
      "aHyGUL JONGSEONG YESIEUNG-KIYEOKcYESIEUNG-SSyGKIYEOKcSSyGYESIEUNGcYESIEUNG-KHIEUKH"]⟩,
   ⟨0x180B, ["aFVS1aFVS2aFVS3aMVSaFVS4"]⟩,
   ⟨0x200B, ["aZWSPaZWNJaZWJaLRMaRLM"]⟩,
   ⟨0x202A, ["aLREaRuaPDFaLROaRLOaNNBSP"]⟩,
   ⟨0x205F, ["aMMSPaWJ.....aLRIaRLIaFSIaPDI"]⟩,
   ⟨0x2118, ["aWEIzSTRASS ELLIPTIC FUNCTION"]⟩,
   ⟨0x2448, ["aMICR ON US SYMBOLbDASH SYMBOL"]⟩,
   ⟨0x2B7A, [
      "auFTWsDS TRIyGu-HEADED sROWqDOUBu VzTICr STROKE.aRtWsDS TRIyGu-HEADED sROWqDOUBu VzTICr ST",
      "ROKE"]⟩,
   ⟨0xA015, ["aYI SYLLABu ITzATION MsK"]⟩,
   ⟨0xAA6E, ["aMYyMspKHAMTI LLA"]⟩,
   ⟨0xFE00, ["aVS1aVS2aVS3aVS4aVS5aVS6aVS7aVS8aVS9aVS10aVS11aVS12aVS13aVS14aVS15aVS16"]⟩,
   ⟨0xFE18, ["aPRESENTATIONw FOR VzTICr Rt WHITE uNTICULs BRACKET"]⟩,
   ⟨0xFEFF, ["aBYTE ORDz MsK"]⟩,
   ⟨0x122D4, ["aCUNEIFORM SIGN NU11 TENUdOVz NU11 BUR OVz BUR"]⟩,
   ⟨0x16E56, ["aMEDEFAIDRv xLpHdNG"]⟩,
   ⟨0x16E76, ["aMEDEFAIDRv SMrLpHdNG"]⟩,
   ⟨0x1B001, ["aHENTAIGyApE-1"]⟩,
   ⟨0x1D0C5, ["aBYZyTvE MUSICr SYMBOL FTHORA SKLIRON CHROMA VASIS"]⟩,
   ⟨0xE0100, [
      "aVS17aVS18aVS19aVS20aVS21aVS22aVS23aVS24aVS25aVS26aVS27aVS28aVS29aVS30aVS31aVS32aVS33aVS34",
      "aVS35aVS36aVS37aVS38aVS39aVS40aVS41aVS42aVS43aVS44aVS45aVS46aVS47aVS48aVS49aVS50aVS51aVS52",
      "aVS53aVS54aVS55aVS56aVS57aVS58aVS59aVS60aVS61aVS62aVS63aVS64aVS65aVS66aVS67aVS68aVS69aVS70",
      "aVS71aVS72aVS73aVS74aVS75aVS76aVS77aVS78aVS79aVS80aVS81aVS82aVS83aVS84aVS85aVS86aVS87aVS88",
      "aVS89aVS90aVS91aVS92aVS93aVS94aVS95aVS96aVS97aVS98aVS99aVS100aVS101aVS102aVS103aVS104aVS10",
      "5aVS106aVS107aVS108aVS109aVS110aVS111aVS112aVS113aVS114aVS115aVS116aVS117aVS118aVS119aVS12",
      "0aVS121aVS122aVS123aVS124aVS125aVS126aVS127aVS128aVS129aVS130aVS131aVS132aVS133aVS134aVS13",
      "5aVS136aVS137aVS138aVS139aVS140aVS141aVS142aVS143aVS144aVS145aVS146aVS147aVS148aVS149aVS15",
      "0aVS151aVS152aVS153aVS154aVS155aVS156aVS157aVS158aVS159aVS160aVS161aVS162aVS163aVS164aVS16",
      "5aVS166aVS167aVS168aVS169aVS170aVS171aVS172aVS173aVS174aVS175aVS176aVS177aVS178aVS179aVS18",
      "0aVS181aVS182aVS183aVS184aVS185aVS186aVS187aVS188aVS189aVS190aVS191aVS192aVS193aVS194aVS19",
      "5aVS196aVS197aVS198aVS199aVS200aVS201aVS202aVS203aVS204aVS205aVS206aVS207aVS208aVS209aVS21",
      "0aVS211aVS212aVS213aVS214aVS215aVS216aVS217aVS218aVS219aVS220aVS221aVS222aVS223aVS224aVS22",
      "5aVS226aVS227aVS228aVS229aVS230aVS231aVS232aVS233aVS234aVS235aVS236aVS237aVS238aVS239aVS24",
      "0aVS241aVS242aVS243aVS244aVS245aVS246aVS247aVS248aVS249aVS250aVS251aVS252aVS253aVS254aVS25",
      "5aVS256"]⟩,
   ⟨0x0, [
      "aNULaSOHaSTXaETXaEOTaENQaACKaBELaBSaHORIZONTr TABULATIONaNEW LvEaVzTICr TABULATIONaFFaCRaL",
      "OCKvG-SHIFT ONEbZzOaDuaDC1aDC2aDC3aDC4aNAKaSYNaETBaCyaEOMaSUBaESCaFIu SEPsATORaGROUP SEPsA",
      "TORaRECORD SEPsATORaUNIT SEPsATOR"]⟩,
   ⟨0x7F, [
      "aDELaPADaHOPaBPHaNBHavDaNELaSSAaESAaHORIZONTr TABULATION SETcWITH JUSTIFICATIONaVzTICr TAB",
      "ULATION SETaPsTIr LvE DOWNcUPaREVzSE vDEXaSvGu-SHIFT-2aSvGu-SHIFT-3aDCSaPRIVATE USE-1bUSE-",
      "2aSTSaCCHaMWaSTsT OF PROTECTED sEAaEND OF PROTECTED sEAaSOSaSGCaSCIaCSIaSTaOSCaPMaAPC"]⟩,
   ⟨0xFEFF, ["aBOM"]⟩,
   ⟨0x9, ["aHTaEND OF LvEaVT..aSOaSI"]⟩,
   ⟨0x1C, ["aFSaGSaRSaUS"]⟩,
   ⟨0x88, ["aHTSaHTJaVTSaPLDaPLUaRIaSS2aSS3.aPU1aPU2...aSPAaEPA"]⟩,
   ⟨0xFEFF, ["aZWNBSP"]⟩,
   ⟨0x9, ["aTABaEOL"]⟩,
   ⟨0xA, ["aLF"]⟩,
   ⟨0xA, ["aNL"]⟩]

end Upkeep.Text.Names
