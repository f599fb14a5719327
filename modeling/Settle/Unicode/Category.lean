import Settle.Unicode.Table

/-!
# General categories

Every code point has one general category, written with two letters such as `Lu`: the first one
names the group, here letters, the second one the kind within it, here upper-case. The table holds
the categories of edition 16.0 of the standard, as do all tables here but one.
-/

namespace Settle.Unicode

/-- The general categories of all code points, as run lengths with category tags. -/
def categoryText : String := String.join
  ["20CcZs3PoSc3PoPsPePoSmPoPd2PoaNd2Po3Sm2Po1aLuPsPoPeSkPcSk1aLlPsSmPeSm21CcZsPo4ScSoPoSkSoLoPi",
   "SmCfSoSkSoSm2NoSkLl2PoSkNoLoPf3NoPo17LuSm7Lu18LlSm8LlLuLlLuLlLuLlLuLlLuLlLuLlLuLlLuLlLuLlLuL",
   "lLuLlLuLlLuLlLuLlLuLlLuLlLuLlLuLlLuLlLuLlLuLlLuLlLuLlLuLlLuLlLuLlLuLlLu2LlLuLlLuLlLuLlLuLlLu",
   "LlLuLlLuLlLu2LlLuLlLuLlLuLlLuLlLuLlLuLlLuLlLuLlLuLlLuLlLuLlLuLlLuLlLuLlLuLlLuLlLuLlLuLlLuLlL",
   "uLlLuLlLuLlLuLl2LuLlLuLlLu3Ll2LuLlLuLl2LuLl3Lu2Ll4LuLl2LuLl3Lu3Ll2LuLl2LuLlLuLlLuLl2LuLlLu2L",
   "lLuLl2LuLl3LuLlLuLl2Lu2LlLoLu3Ll4LoLuLtLlLuLtLlLuLtLlLuLlLuLlLuLlLuLlLuLlLuLlLuLlLu2LlLuLlLu",
   "LlLuLlLuLlLuLlLuLlLuLlLuLlLu2LlLuLtLlLuLl3LuLlLuLlLuLlLuLlLuLlLuLlLuLlLuLlLuLlLuLlLuLlLuLlLu",
   "LlLuLlLuLlLuLlLuLlLuLlLuLlLuLlLuLlLuLlLuLlLuLlLuLlLuLlLuLlLuLlLuLlLu7Ll2LuLl2Lu2LlLuLl4LuLlL",
   "uLlLuLlLuLlLu45LlLo1bLl12Lm4SkcLmeSk5Lm7SkLmSkLm11Sk70MnLuLlLuLlLmSkLuLl2CnLm3LlPoLu4Cn2SkLu",
   "Po3LuCnLuCn2LuLl11LuCn9Lu23LlLu2Ll3Lu3LlLuLlLuLlLuLlLuLlLuLlLuLlLuLlLuLlLuLlLuLlLuLlLu5LlLuL",
   "lSmLuLl2Lu2Ll33Lu30LlLuLlLuLlLuLlLuLlLuLlLuLlLuLlLuLlLuLlLuLlLuLlLuLlLuLlLuLlLuLlLuLlLuLlSo5",
   "Mn2MeLuLlLuLlLuLlLuLlLuLlLuLlLuLlLuLlLuLlLuLlLuLlLuLlLuLlLuLlLuLlLuLlLuLlLuLlLuLlLuLlLuLlLuL",
   "lLuLlLuLlLuLlLuLlLuLl2LuLlLuLlLuLlLuLlLuLlLuLlLu2LlLuLlLuLlLuLlLuLlLuLlLuLlLuLlLuLlLuLlLuLlL",
   "uLlLuLlLuLlLuLlLuLlLuLlLuLlLuLlLuLlLuLlLuLlLuLlLuLlLuLlLuLlLuLlLuLlLuLlLuLlLuLlLuLlLuLlLuLlL",
   "uLlLuLlLuLlLuLlLuLlLuLlLuLlLuLlLuLlLuLlLuLlLuLlLuLlLuLlLuLlCn26Lu2CnLm6Po29LlPoPd2Cn2SoScCn2",
   "dMnPdMnPo2MnPo2MnPoMn8Cn1bLo4Cn4Lo2PobCn6Cf3Sm2PoSc2Po2SobMnPoCf3Po20LoLmaLo15MnaNd4Po2LoMn6",
   "3LoPoLo7MnCfSo6Mn2Lm2MnSo4Mn2LoaNd3Lo2SoLoePoCnCfLoMn1eLo1bMn2Cn59LobMnLoeCnaNd21Lo9Mn2LmSo3",
   "PoLm2CnMn2Sc16Lo4MnLm9MnLm3MnLm5Mn2CnfPoCn19Lo3Mn2CnPoCnbLo5Cn18LoSk6LoCn2Cf5Cn9Mn29LoLm18Mn",
   "Cf20MnMc36LoMnMcMnLo3Mc8Mn4McMn2McLo7MnaLo2Mn2PoaNdPoLmfLoMn2McCn8Lo2Cn2Lo2Cn16LoCn7LoCnLo3C",
   "n4Lo2CnMnLo3Mc4Mn2Cn2Mc2Cn2McMnLo8CnMc4Cn2LoCn3Lo2Mn2CnaNd2Lo2Sc6NoSoScLoPoMn2Cn2MnMcCn6Lo4C",
   "n2Lo2Cn16LoCn7LoCn2LoCn2LoCn2Lo2CnMnCn3Mc2Mn4Cn2Mn2Cn3Mn3CnMn7Cn4LoCnLo7CnaNd2Mn3LoMnPoaCn2M",
   "nMcCn9LoCn3LoCn16LoCn7LoCn2LoCn5Lo2CnMnLo3Mc5MnCn2MnMcCn2McMn2CnLofCn2Lo2Mn2CnaNdPoSc7CnLo6M",
   "nCnMn2McCn8Lo2Cn2Lo2Cn16LoCn7LoCn2LoCn5Lo2CnMnLoMcMnMc4Mn2Cn2Mc2Cn2McMn7Cn2MnMc4Cn2LoCn3Lo2M",
   "n2CnaNdSoLo6NoaCnMnLoCn6Lo3Cn3LoCn4Lo3Cn2LoCnLoCn2Lo3Cn2Lo3Cn3Lo3CncLo4Cn2McMn2Mc3Cn3McCn3Mc",
   "Mn2CnLo6CnMceCnaNd3No6SoScSo5CnMn3McMn8LoCn3LoCn17LoCn10Lo2CnMnLo3Mn4McCn3MnCn4Mn7Cn2MnCn3Lo",
   "2CnLo2Cn2Lo2Mn2CnaNd7CnPo7NoSoLoMn2McPo8LoCn3LoCn17LoCnaLoCn5Lo2CnMnLoMcMn5McCnMn2McCn2Mc2Mn",
   "7Cn2Mc6Cn2LoCn2Lo2Mn2CnaNdCn2LoMccCn2Mn2Mc9LoCn3LoCn29Lo2MnLo3Mc4MnCn3McCn3McMnLoSo4Cn3LoMc7",
   "No3Lo2Mn2CnaNd9NoSo6LoCnMn2McCn12Lo3Cn18LoCn9LoCnLo2Cn7Lo3CnMn4Cn3Mc3MnCnMnCn8Mc6CnaNd2Cn2Mc",
   "PocCn30LoMn2Lo7Mn4CnSc6LoLm8MnPoaNd2Po25Cn2LoCnLoCn5LoCn18LoCnLoCnaLoMn2Lo9MnLo2Cn5LoCnLmCn7",
   "MnCnaNd2Cn4Lo20CnLo3SofPoSoPo3So2Mn6SoaNdaNoSoMnSoMnSoMnPsPePsPe2Mc8LoCn24Lo4CneMnMc5MnPo2Mn",
   "5LobMnCn24MnCn8SoMn6SoCn2So5Po4So2Po25Cn2bLo2Mc4MnMc6MnMc2Mn2Mc2MnLoaNd6Po6Lo2Mc2Mn4Lo3MnLo3",
   "Mc2Lo7Mc3Lo4MndLoMn2Mc2Mn6McMnLoMcaNd3McMn2So26LuCnLu5CnLu2Cn2bLlPoLm3Ll149LoCn4Lo2Cn7LoCnLo",
   "Cn4Lo2Cn29LoCn4Lo2Cn21LoCn4Lo2Cn7LoCnLoCn4Lo2CnfLoCn39LoCn4Lo2Cn43Lo2Cn3Mn9Po14No3Cn10LoaSo6",
   "Cn56Lu2Cn6Ll2CnPd26cLoSoPo11LoZs1aLoPsPe3Cn4bLo3Po3Nl8Lo7Cn12Lo3MnMc9Cn13Lo2MnMc2Po9Cn12Lo2M",
   "ncCndLoCn3LoCn2MncCn34Lo2MnMc7Mn8McMn2McbMn3PoLm3PoScLoMn2CnaNd6CnaNo6Cn6PoPd4Po3MnCfMnaNd6C",
   "n23LoLm35Lo7Cn5Lo2Mn22LoMnLo5Cn46LoaCn1fLoCn3Mn4Mc2Mn3Mc4Cn2McMn6Mc3Mn4CnSo3Cn2PoaNd1eLo2Cn5",
   "LobCn2cLo4Cn1aLo6CnaNdNo3Cn22So17Lo2Mn2McMn2Cn2Po35LoMcMnMc7MnCnMnMcMn2Mc8Mn6McaMn2CnMnaNd6C",
   "naNd6Cn7PoLm6Po2CneMnMe10Mn31Cn4MnMc2fLoMnMc5MnMcMn5McMn2Mc8LoCn2PoaNd7PoaSo9Mn9So3Po2MnMc1e",
   "LoMc4Mn2Mc2MnMc3Mn2LoaNd2cLoMnMc2Mn3McMnMc3Mn2Mc8Cn4Po24Lo8Mc8Mn2Mc2Mn3Cn5PoaNd3Cn3LoaNd1eLo",
   "6Lm2Po9LlLuLl5Cn2bLu2Cn3Lu8Po8Cn3MnPodMnMc7Mn4LoMn6LoMn2LoMc2MnLo5Cn2cLl3fLmdLlLm22Ll25Lm40M",
   "nLuLlLuLlLuLlLuLlLuLlLuLlLuLlLuLlLuLlLuLlLuLlLuLlLuLlLuLlLuLlLuLlLuLlLuLlLuLlLuLlLuLlLuLlLuL",
   "lLuLlLuLlLuLlLuLlLuLlLuLlLuLlLuLlLuLlLuLlLuLlLuLlLuLlLuLlLuLlLuLlLuLlLuLlLuLlLuLlLuLlLuLlLuL",
   "lLuLlLuLlLuLlLuLlLuLlLuLlLuLlLuLlLuLlLuLlLuLlLuLlLuLlLuLlLuLlLuLlLuLlLuLlLuLlLuLlLuLlLuLlLuL",
   "lLuLlLuLlLuLlLuLlLuLlLu9LlLuLlLuLlLuLlLuLlLuLlLuLlLuLlLuLlLuLlLuLlLuLlLuLlLuLlLuLlLuLlLuLlLu",
   "LlLuLlLuLlLuLlLuLlLuLlLuLlLuLlLuLlLuLlLuLlLuLlLuLlLuLlLuLlLuLlLuLlLuLlLuLlLuLlLuLlLuLlLuLlLu",
   "LlLuLlLuLlLuLlLuLlLuLlLuLlLuLlLuLlLu9Ll8Lu6Ll2Cn6Lu2Cn8Ll8Lu8Ll8Lu6Ll2Cn6Lu2Cn8LlCnLuCnLuCnL",
   "uCnLu8Ll8LueLl2Cn8Ll8Lt8Ll8Lt8Ll8Lt5LlCn2Ll4LuLtSkLl3Sk3LlCn2Ll4LuLt3Sk4Ll2Cn2Ll4LuCn3Sk8Ll5",
   "Lu3Sk2Cn3LlCn2Ll4LuLt2SkCnbZs5Cf6Pd2PoPiPfPs2PiPfPsPi8PoZlZp5CfZs9PoPiPf4Po2Pc3PoSmPsPebPoSm",
   "PoPcaPoZs5CfCnaCfNoLm2Cn6No3SmPsPeLmaNo3SmPsPeCndLm3Cn21ScfCndMn4MeMn3MecMnfCn2SoLu4SoLu2SoL",
   "l3Lu2Ll3LuLlSoLu2SoSm5Lu6SoLuSoLuSoLuSo4LuSoLl4LuLl4LoLl2So2Ll2Lu5SmLu4LlSoSm2SoLlSo10No23Nl",
   "LuLl4NlNo2So4Cn5Sm5So2Sm4SoSm2SoSm2SoSm7SoSm1fSo2Sm2SoSmSoSm1fSo10cSm8SoPsPePsPe14So2Sm7SoPs",
   "Pe51SoSm1eSo19Sm28So6Sm48So16CnbSo15Cn3cNo4eSo16Nob7SoSm9SoSm36So8Sm6fSoSmf8SoPsPePsPePsPePs",
   "PePsPePsPePsPe1eNo2cSo5SmPsPe1fSmPsPePsPePsPePsPePsPe10Sm100So83SmPsPePsPePsPePsPePsPePsPePs",
   "PePsPePsPePsPePsPe3fSmPsPePsPe20SmPsPe102Sm30So15Sm2So6Sm27So2Cn20SoCn69So30Lu30LlLuLl3Lu2Ll",
   "LuLlLuLlLuLl4LuLlLu2LlLu6Ll2Lm3LuLlLuLlLuLlLuLlLuLlLuLlLuLlLuLlLuLlLuLlLuLlLuLlLuLlLuLlLuLlL",
   "uLlLuLlLuLlLuLlLuLlLuLlLuLlLuLlLuLlLuLlLuLlLuLlLuLlLuLlLuLlLuLlLuLlLuLlLuLlLuLlLuLlLuLlLuLlL",
   "uLlLuLlLuLlLuLlLuLlLuLlLuLlLuLlLuLlLuLlLuLlLu2Ll6SoLuLlLuLl3MnLuLl5Cn4PoNo2Po26LlCnLl5CnLl2C",
   "n38Lo7CnLmPoeCnMn17Lo9Cn7LoCn7LoCn7LoCn7LoCn7LoCn7LoCn7LoCn7LoCn20Mn2PoPiPfPiPf3PoPiPfPoPiPf",
   "9PoPd2PoPdPoPiPf2PoPiPfPsPePsPePsPePsPe5PoLmaPo2Pd4PoPdPoPsdPo2So3PoPsPePsPePsPePsPePd22Cn1a",
   "SoCn59SocCnd6So1aCn10SoZs3PoSoLmLoNlPsPePsPePsPePsPePsPe2SoPsPePsPePsPePsPePdPs2PeSo9Nl4Mn2M",
   "cPd5Lm2So3NlLmLoPo2SoCn56Lo2Cn2Mn2Sk2LmLoPd5aLoPo3LmLo5Cn2bLoCn5eLoCn2So4NoaSo20Lo26So9CnSo1",
   "0Lo1fSoCnaNo1eSo8NoSofNo20SoaNo27SofNo140So19c0Lo40So5215LoLm477Lo3Cn37So9Cn28Lo6Lm2Po10cLoL",
   "m3Po10LoaNd2Lo14CnLuLlLuLlLuLlLuLlLuLlLuLlLuLlLuLlLuLlLuLlLuLlLuLlLuLlLuLlLuLlLuLlLuLlLuLlLu",
   "LlLuLlLuLlLuLlLuLlLoMn3MePoaMnPoLmLuLlLuLlLuLlLuLlLuLlLuLlLuLlLuLlLuLlLuLlLuLlLuLlLuLlLuLl2L",
   "m2Mn46LoaNl2Mn6Po8Cn17Sk9Lm2SkLuLlLuLlLuLlLuLlLuLlLuLlLu3LlLuLlLuLlLuLlLuLlLuLlLuLlLuLlLuLlL",
   "uLlLuLlLuLlLuLlLuLlLuLlLuLlLuLlLuLlLuLlLuLlLuLlLuLlLuLlLuLlLuLlLuLlLuLlLuLlLuLlLuLlLuLlLuLlL",
   "m8LlLuLlLuLl2LuLlLuLlLuLlLuLlLuLlLm2SkLuLlLuLlLoLuLlLu3LlLuLlLuLlLuLlLuLlLuLlLuLlLuLlLuLlLuL",
   "lLuLl5LuLl5LuLlLuLlLuLlLuLlLuLlLuLlLuLlLuLl4LuLlLuLl2LuLl2CnLuLlCnLlCnLlLuLlLuLlLuLlLu15Cn3L",
   "mLuLlLo2LmLl7LoMn3LoMn4LoMn17Lo2Mc2MnMc4SoMn3Cn6No2SoScSo6Cn34Lo4Po8Cn2Mc32Lo10Mc2Mn8Cn2PoaN",
   "d6Cn12Mn6Lo3PoLoPo2LoMnaNd1cLo8Mn2Po17LobMn2McbCnPo1dLo3Cn3MnMc2fLoMn2Mc4Mn2Mc2Mn3McdPoCnLma",
   "Nd4Cn2Po5LoMnLm9LoaNd5LoCn29Lo6Mn2Mc2Mn2Mc2Mn9Cn3LoMn8LoMnMc2CnaNd2Cn4Po10LoLm6Lo3SoLoMcMnMc",
   "32LoMnLo3Mn2Lo2Mn5Lo2MnLoMnLo18Cn2LoLm2PobLoMc2Mn2Mc2PoLo2LmMcMnaCn6Lo2Cn6Lo2Cn6Lo9Cn7LoCn7L",
   "oCn2bLlSk4Lm9LlLm2Sk4Cn50Ll23Lo2McMn2McMn2McPoMcMn2CnaNd6Cn2ba4LocCn17Lo4Cn31Lo4Cn800Cs1900C",
   "o16eLo2Cn6aLo26Cn7LlcCn5Ll5CnLoMnaLoSmdLoCn5LoCnLoCn2LoCn2LoCn6cLo11Sk10Cn16bLoPePs10So40Lo2",
   "Cn36Lo7CnSo20CncLoSc3So10Mn7PoPsPePo6Cn10MnPo2Pd2PcPsPePsPePsPePsPePsPePsPePsPePsPe2PoPsPe4P",
   "o3Pc3PoCn4PoPdPsPePsPePsPe3PoSmPd3SmCnPoSc2Po4Cn5LoCn87Lo2CnCfCn3PoSc3PoPsPePoSmPoPd2PoaNd2P",
   "o3Sm2Po1aLuPsPoPeSkPcSk1aLlPsSmPeSmPsPePoPsPe2PoaLoLm2dLo2Lm1fLo3Cn6Lo2Cn6Lo2Cn6Lo2Cn3Lo3Cn2",
   "ScSmSkSo2ScCnSo4Sm2SoaCn3Cf2So2CncLoCn1aLoCn13LoCn2LoCnfLo2CneLo22Cn7bLo5Cn3Po4Cn2dNo3Cn9So3",
   "5Nl4No11So2No3SoCndSo3CnSo2fCn2dSoMn82Cn1dLo3Cn31LofCnMn1bNo4Cn20Lo4No9Cn14LoNl8LoNl5Cn26Lo5",
   "Mn5Cn1eLoCnPo24Lo4Cn8LoPo5Nl2aCn28Lu28Ll4eLo2CnaNd6Cn24Lu4Cn24Ll4Cn28Lo8Cn34LobCnPobLuCnfLuC",
   "n7LuCn2LuCnbLlCnfLlCn7LlCn2Ll3Cn34LocCn137Lo9Cn16LoaCn8Lo18Cn6LmCn2aLmCn9Lm45Cn6Lo2CnLoCn2cL",
   "oCn2Lo3CnLo2Cn17LoCnPo8No17Lo2So7No1fLo8Cn9No30Cn13LoCn2Lo5Cn5No16Lo6No3CnPo1aLo5CnPo40Cn38L",
   "o4Cn2No2Lo10No2Cn2eNoLo3MnCn2Mn5Cn4Mn4LoCn3LoCn1dLo2Cn3Mn4CnMn9No7Cn9Po7Cn1dLo2NoPo1dLo3No20",
   "Cn8LoSo1cLo2Mn4Cn5No7Po9Cn36Lo3Cn7Po16Lo2Cn8No13Lo5Cn8No12Lo7Cn4PocCn7No50Cn49Lo37Cn33LudCn3",
   "3Ll7Cn6No24Lo4Mn8CnaNd6CnaNd4LoLmLo16Lu3Cn5MnPdLm16Ll8Cn2Smd0Cn1fNoCn2aLoCn2MnPd2Cn2Lo10Cn3L",
   "o37Cn4Mn1dLoaNoLo8Cn16LobMn4No5Po16Cn12Lo4Mn4Po26Cn15Lo7No14Cn17Lo9CnMcMnMc35LofMn7Po4Cn14No",
   "aNdMn2Lo2MnLo9Cn3MnMc2dLo3Mc4Mn2Mc2Mn2PoCf4PoMnaCnCf2Cn19Lo7CnaNd6Cn3Mn24Lo5MnMc8MnCnaNd4PoL",
   "o2McLo8Cn23LoMn2PoLo9Cn2MnMc30Lo3Mc9Mn2Mc4Lo4Po4MnPoMcMnaNdLoPoLo3PoCn14NobCn12LoCn19Lo3Mc3M",
   "n2McMnMc2Mn6PoMn2LoMn3eCn7LoCnLoCn4LoCnfLoCnaLoPo6Cn2fLoMn3Mc8Mn5CnaNd6Cn2Mn2McCn8Lo2Cn2Lo2C",
   "n16LoCn7LoCn2LoCn5LoCn2MnLo2McMn4Mc2Cn2Mc2Cn3Mc2CnLo6CnMc5Cn5Lo2Mc2Cn7Mn3Cn5MnbCnaLoCnLo2CnL",
   "oCn26LoCnLo3Mc6MnCnMc2CnMcCn4McCn2McMnMcMnLoMnLo2PoCn2Po8Cn2Mn1dCn35Lo3Mc8Mn2Mc3MnMcMn4Lo5Po",
   "aNd2PoCnPoMn3Lo1eCn30Lo3Mc6MnMcMn4Mc2MnMc2Mn2LoPoLo8CnaNda6Cn2fLo3Mc4Mn2Cn4Mc2MnMc2Mn17Po4Lo",
   "2Mn22Cn30Lo3Mc8Mn2McMnMc2Mn3PoLobCnaNd6CndPo13Cn2bLoMnMcMn2Mc6MnMcMnLoPo6CnaNd6Cn14Nd1cCn1bL",
   "o2CnMnMcMn2Mc4MnMc5Mn4CnaNd2No3PoSo7Lob9Cn2cLo3Mc9MnMc2MnPo64Cn20Lu20LlaNd9NocCn8Lo2CnLo2Cn8",
   "LoCn2LoCn18Lo6McCn2Mc2Cn2MnMcMnLoMcLoMcMn3Po9CnaNd46Cn8Lo2Cn27Lo3Mc4Mn2Cn2Mn4McMnLoPoLoMc1bC",
   "nLoaMn28Lo6MnMcLo4Mn8PoMn8CnLo6Mn2Mc3Mn2eLodMnMc2Mn3PoLo5PodCn49Lo7CnaPob6Cn21LoPoeCnaNd6Cn9",
   "LoCn25LoMc7MnCn6MnMcMnLo5PoaCnaNd13No3Cn2Po1eLo2Cn16MnCnMc7MnMc2MnMc2Mn49Cn7LoCn2LoCn26Lo6Mn",
   "3CnMnCn2MnCn7MnLoMn8CnaNd6Cn6LoCn2LoCn20Lo5McCn2MnCn2McMnMcMnLo7CnaNd136Cn13Lo2Mn2Mc2Po7Cn2M",
   "nLoMcdLoCn22Lo2Mc5Mn3Cn2McMnMcMndPoaNdMn55CnLofCn15No8So4Sc11SodCnPo39aLo66Cn6fNlCn5PobCnc4L",
   "oa4cCn61Lo2PodCn430Lo10CfMn6LofMnaCnf9bLo5Cn247Lo1ab9Cn1eLocMn3Mc3MnaNd6c6Cn239Lo7Cn1fLoCnaN",
   "d4Cn2Po4fLoCnaNd6Cn1eLo2Cn5MnPoaCn30Lo7Mn5Po4So4LmPoSoaCnaNdCn7NoCn15Lo5Cn13Lo1b0Cn3Lm28Lo2L",
   "m3PoaNdc6Cn20Lu20Ll17No4Po65Cn4bLo4CnMnLo37Mc7Cn4MndLm40Cn2LmPoLmMnbCn2MceCn17f8Lo8Cn4d6Lo29",
   "CnaLo22e7Cn4LmCn7LmCn2LmCn123LofCnLo1dCn3Lo2CnLoeCn4Lo8Cn18cLo904Cn6bLo5CndLo3Cn9Lo7CnaLo2Cn",
   "So2MnPo4Cff5cCnf0SoaNd6Cn1b4So4cCn2eMn2Cn17Mn9Cn74So3cCnf6SoaCn27So2Cn3cSo2Mc3Mn3So6Mc8Cf8Mn",
   "2So7Mn1eSo4Mn3dSo15Cn42So3MnSo7aCn14NocCn14NocCn57So9Cn19No87Cn1aLu1aLl1aLu7LlCn12Ll1aLu1aLl",
   "LuCn2Lu2CnLu2Cn2Lu2Cn4LuCn8Lu4LlCnLlCn7LlCnbLl1aLu1aLl2LuCn4Lu2Cn8LuCn7LuCn1aLl2LuCn4LuCn5Lu",
   "CnLu3Cn7LuCn1aLl1aLu1aLl1aLu1aLl1aLu1aLl1aLu1aLl1aLu1aLl1aLu1cLl2Cn19LuSm19LlSm6Ll19LuSm19Ll",
   "Sm6Ll19LuSm19LlSm6Ll19LuSm19LlSm6Ll19LuSm19LlSm6LlLuLl2Cn32Nd200So37Mn4So32Mn8SoMneSoMn2So5P",
   "ofCn5MnCnfMn450CnaLlLo14Ll6Cn6Lld5Cn7MnCn11Mn2Cn7MnCn2MnCn5Mn5Cn3eLm21CnMn70Cn2dLo3Cn7Mn7Lm2",
   "CnaNd4CnLoSo140Cn1eLoMn11Cn2cLo4MnaNd5CnSc1d0Cn1bLoLm4MnaNdd6Cn1eLo2MnLoaNd4CnPo1e0Cn7LoCn4L",
   "oCn2LoCnfLoCnc5Lo2Cn9No7Mn29Cn22Lu22Ll7MnLm4CnaNd4Cn2Po311Cn3bNoSo3NoSc4No4cCn2dNoSofNoc2Cn4",
   "LoCn1bLoCn2LoCnLo2CnLoCnaLoCn4LoCnLoCnLo6CnLo4CnLoCnLoCnLoCn3LoCn2LoCnLo2CnLoCnLoCnLoCnLoCnL",
   "oCn2LoCnLo2Cn4LoCn7LoCn4LoCn4LoCnLoCnaLoCn11Lo5Cn3LoCn5LoCn11Lo34Cn2Sm10eCn2cSo4Cn64SocCnfSo",
   "2CnfSoCnfSoCn25SoaCndNoa1So38Cn1dSodCn2cSo4Cn9So7Cn2SoeCn6So9aCnfbSo5Sk2d8So4Cn11So3CndSo3Cn",
   "77So4Cn5fSo6CncSo4CnSofCncSo4Cn38So8CnaSo6Cn28So8Cn1eSo2CncSo4Cn2So3eCn154SocCneSo2CndSo3Cna",
   "So5Cn38So7CnfSo2CnbSo6Cn9So7Cn93SoCn5cSoaNd406Cna6e0Lo20Cn103aLo6CndeLo2Cn1682LoeCn1d31LofCn",
   "26eLo9a2Cn21eLo5e2Cn134bLo5Cn1060Loadc51CnCf1eCn60Cf80Cnf0Mnfe10CnfffeCo2CnfffeCo2Cn"]

def categoryRuns : List Run := readRuns 2 categoryText

def inCategories (tags : List String) : CharSet := selectRuns tags.contains categoryRuns

/-- The general categories of characters with their long names, in the spelling of the standard. -/
def categoryNames : List (String × String) :=
  [("Lu", "Uppercase_Letter"), ("Ll", "Lowercase_Letter"), ("Lt", "Titlecase_Letter"),
   ("Lm", "Modifier_Letter"), ("Lo", "Other_Letter"), ("Mn", "Nonspacing_Mark"),
   ("Mc", "Spacing_Mark"), ("Me", "Enclosing_Mark"), ("Nd", "Decimal_Number"),
   ("Nl", "Letter_Number"), ("No", "Other_Number"), ("Pc", "Connector_Punctuation"),
   ("Pd", "Dash_Punctuation"), ("Ps", "Open_Punctuation"), ("Pe", "Close_Punctuation"),
   ("Pi", "Initial_Punctuation"), ("Pf", "Final_Punctuation"), ("Po", "Other_Punctuation"),
   ("Sm", "Math_Symbol"), ("Sc", "Currency_Symbol"), ("Sk", "Modifier_Symbol"),
   ("So", "Other_Symbol"), ("Zs", "Space_Separator"), ("Zl", "Line_Separator"),
   ("Zp", "Paragraph_Separator"), ("Cc", "Control"), ("Cf", "Format"), ("Co", "Private_Use"),
   ("Cn", "Unassigned")]

/-- The groups of general categories: short name, long name, members. Surrogates are no characters
and belong to none. -/
def categoryGroups : List (String × String × List String) :=
  [("L", "Letter", ["Lu", "Ll", "Lt", "Lm", "Lo"]), ("LC", "Cased_Letter", ["Lu", "Ll", "Lt"]),
   ("M", "Mark", ["Mn", "Mc", "Me"]), ("N", "Number", ["Nd", "Nl", "No"]),
   ("P", "Punctuation", ["Pc", "Pd", "Ps", "Pe", "Pi", "Pf", "Po"]),
   ("S", "Symbol", ["Sm", "Sc", "Sk", "So"]), ("Z", "Separator", ["Zs", "Zl", "Zp"]),
   ("C", "Other", ["Cc", "Cf", "Co", "Cn"])]

end Settle.Unicode
