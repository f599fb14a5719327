import Settle.Unicode.Table

/-!
# Scripts

The script of a code point, by the four-letter code of the script. `Zyyy` is the code of what all
scripts share, `Zinh` of what takes its script from the character before, `Zzzz` of the rest.
Some characters are in use with several scripts; the second table lists these.
-/

namespace Settle.Unicode

/-- The scripts of all code points, as run lengths with script codes. -/
def scriptText : String := String.join
  ["41Zyyy1aLatn6Zyyy1aLatn2fZyyyLatnfZyyyLatn5Zyyy17LatnZyyy1fLatnZyyy1c1Latn27Zyyy5Latn5Zyyy2B",
   "opo14Zyyy70Zinh4GrekZyyy3Grek2Zzzz4GrekZyyyGrek4ZzzzGrekZyyyGrekZyyy3GrekZzzzGrekZzzz14GrekZ",
   "zzz3fGrekeCopt10Grek85Cyrl2Zinha9CyrlZzzz26Armn2Zzzz32Armn2Zzzz3ArmnZzzz37Hebr8Zzzz1bHebr4Zz",
   "zz6HebrbZzzz5ArabZyyy6ArabZyyyeArabZyyy3ArabZyyy20ArabZyyyaArabbZinh1aArabZinh6cArabZyyy22Ar",
   "abeSyrcZzzz3cSyrc2Zzzz3Syrc30Arab32ThaaeZzzz3bNkoo2Zzzz3Nkoo2eSamr2ZzzzfSamrZzzz1cMand2ZzzzM",
   "andZzzzbSyrc5Zzzz1fArabZzzz2Arab5Zzzz4bArabZyyy1dArab51Deva4ZinhfDeva2Zyyy1aDeva4BengZzzz8Be",
   "ng2Zzzz2Beng2Zzzz16BengZzzz7BengZzzzBeng3Zzzz4Beng2Zzzz9Beng2Zzzz2Beng2Zzzz4Beng8ZzzzBeng4Zz",
   "zz2BengZzzz5Beng2Zzzz19Beng2Zzzz3GuruZzzz6Guru4Zzzz2Guru2Zzzz16GuruZzzz7GuruZzzz2GuruZzzz2Gu",
   "ruZzzz2Guru2ZzzzGuruZzzz5Guru4Zzzz2Guru2Zzzz3Guru3ZzzzGuru7Zzzz4GuruZzzzGuru7Zzzz11GuruaZzzz",
   "3GujrZzzz9GujrZzzz3GujrZzzz16GujrZzzz7GujrZzzz2GujrZzzz5Gujr2ZzzzaGujrZzzz3GujrZzzz3Gujr2Zzz",
   "zGujrfZzzz4Gujr2ZzzzcGujr7Zzzz7GujrZzzz3OryaZzzz8Orya2Zzzz2Orya2Zzzz16OryaZzzz7OryaZzzz2Orya",
   "Zzzz5Orya2Zzzz9Orya2Zzzz2Orya2Zzzz3Orya7Zzzz3Orya4Zzzz2OryaZzzz5Orya2Zzzz12OryaaZzzz2TamlZzz",
   "z6Taml3Zzzz3TamlZzzz4Taml3Zzzz2TamlZzzzTamlZzzz2Taml3Zzzz2Taml3Zzzz3Taml3ZzzzcTaml4Zzzz5Taml",
   "3Zzzz3TamlZzzz4Taml2ZzzzTaml6ZzzzTamleZzzz15Taml5ZzzzdTeluZzzz3TeluZzzz17TeluZzzz10Telu2Zzzz",
   "9TeluZzzz3TeluZzzz4Telu7Zzzz2TeluZzzz3Telu2ZzzzTelu2Zzzz4Telu2ZzzzaTelu7Zzzz9TeludKndaZzzz3K",
   "ndaZzzz17KndaZzzzaKndaZzzz5Knda2Zzzz9KndaZzzz3KndaZzzz4Knda7Zzzz2Knda6Zzzz2KndaZzzz4Knda2Zzz",
   "zaKndaZzzz3KndacZzzzdMlymZzzz3MlymZzzz33MlymZzzz3MlymZzzz6Mlym4Zzzz10Mlym2Zzzz1aMlymZzzz3Sin",
   "hZzzz12Sinh3Zzzz18SinhZzzz9SinhZzzzSinh2Zzzz7Sinh3ZzzzSinh4Zzzz6SinhZzzzSinhZzzz8Sinh6ZzzzaS",
   "inh2Zzzz3SinhcZzzz3aThai4ZzzzZyyy1cThai25Zzzz2LaooZzzzLaooZzzz5LaooZzzz18LaooZzzzLaooZzzz17L",
   "aoo2Zzzz5LaooZzzzLaooZzzz7LaooZzzzaLaoo2Zzzz4Laoo20Zzzz48TibtZzzz24Tibt4Zzzz27TibtZzzz24Tibt",
   "ZzzzfTibtZzzz7Tibt4Zyyy2Tibt25Zzzza0Mymr26GeorZzzzGeor5ZzzzGeor2Zzzz2bGeorZyyy4Geor100Hang49",
   "EthiZzzz4Ethi2Zzzz7EthiZzzzEthiZzzz4Ethi2Zzzz29EthiZzzz4Ethi2Zzzz21EthiZzzz4Ethi2Zzzz7EthiZz",
   "zzEthiZzzz4Ethi2ZzzzfEthiZzzz39EthiZzzz4Ethi2Zzzz43Ethi2Zzzz20Ethi3Zzzz1aEthi6Zzzz56Cher2Zzz",
   "z6Cher2Zzzz280Cans1dOgam3Zzzz4bRunr3ZyyybRunr7Zzzz16Tglg9ZzzzTglg15Hano2Zyyy9Zzzz14BuhdcZzzz",
   "dTagbZzzz3TagbZzzz2TagbcZzzz5eKhmr2ZzzzaKhmr6ZzzzaKhmr6Zzzz2Mong2ZyyyMongZyyy14Mong6Zzzz59Mo",
   "ng7Zzzz2bMong5Zzzz46CansaZzzz1fLimbZzzzcLimb4ZzzzcLimb4ZzzzLimb3ZzzzcLimb1eTale2Zzzz5TalebZz",
   "zz2cTalu4Zzzz1aTalu6ZzzzbTalu3Zzzz2Talu20Khmr1cBugi2Zzzz2Bugi3fLanaZzzz1dLana2ZzzzbLana6Zzzz",
   "aLana6ZzzzeLana2Zzzz1fZinh31Zzzz4dBaliZzzz32Bali40Sund34Batk8Zzzz4Batk38Lepc3ZzzzfLepc3Zzzz3",
   "Lepc30OlckbCyrl5Zzzz2bGeor2Zzzz3Geor8Sund8Zzzz3ZinhZyyydZinhZyyy7Zinh4ZyyyZinh6ZyyyZinh3Zyyy",
   "2ZinhZyyy5Zzzz26Latn5GrekCyrl31Latn5Grek4Latn5GrekdLatnCyrl46LatnGrek40Zinh100Latn16Grek2Zzz",
   "z6Grek2Zzzz26Grek2Zzzz6Grek2Zzzz8GrekZzzzGrekZzzzGrekZzzzGrekZzzz1fGrek2Zzzz35GrekZzzzfGrekZ",
   "zzzeGrek2Zzzz6GrekZzzz13Grek2Zzzz3GrekZzzz9GrekZzzzcZyyy2Zinh57ZyyyZzzzbZyyyLatn2ZzzzbZyyyLa",
   "tnfZyyyZzzzdLatn3Zzzz21ZyyyfZzzz21ZinhfZzzz26ZyyyGrek3Zyyy2Latn6ZyyyLatn1bZyyyLatn11Zyyy29La",
   "tn3Zyyy4Zzzz29aZyyy16ZzzzbZyyy15Zzzz3a0Zyyy100Brai274Zyyy2Zzzz20ZyyyZzzz69Zyyy60Glag20Latn74",
   "Copt5Zzzz7Copt26GeorZzzzGeor5ZzzzGeor2Zzzz38Tfng7Zzzz2TfngeZzzzTfng17Ethi9Zzzz7EthiZzzz7Ethi",
   "Zzzz7EthiZzzz7EthiZzzz7EthiZzzz7EthiZzzz7EthiZzzz7EthiZzzz20Cyrl5eZyyy22Zzzz1aHaniZzzz59Hani",
   "cZzzzd6Hani1aZzzz15ZyyyHaniZyyyHani19Zyyy9Hani4Zinh2Hang8Zyyy4Hani4ZyyyZzzz56Hira2Zzzz2Zinh2",
   "Zyyy3HiraZyyy5aKana2Zyyy3Kana5Zzzz2bBopoZzzz5eHangZzzz10Zyyy20Bopo26Zyyy9ZzzzZyyy10Kana1fHan",
   "gZzzz40Zyyy1fHang51Zyyy2fKanaZyyy58Kanaa8Zyyy19c0Hani40Zyyy5200Hani48dYiii3Zzzz37Yiii9Zzzz30",
   "Lisu12cVaii14Zzzz60Cyrl58Bamu8Zzzz22Zyyy66Latn3Zyyy43Latn2Zzzz2LatnZzzzLatnZzzz8Latn15ZzzzeL",
   "atn2dSylo3ZzzzaZyyy6Zzzz38Phag8Zzzz46Saur8ZzzzcSaur6Zzzz20Deva2eKaliZyyyKali24RjngbZzzzRjng1",
   "dHang3Zzzz4eJavaZzzzZyyyaJava4Zzzz2Java1fMymrZzzz37Cham9ZzzzeCham2ZzzzaCham2Zzzz4Cham20Mymr4",
   "3Tavt18Zzzz5Tavt17MteiaZzzz6Ethi2Zzzz6Ethi2Zzzz6Ethi9Zzzz7EthiZzzz7EthiZzzz2bLatnZyyy9LatnGr",
   "ek4Latn2Zyyy4Zzzz50Cher2eMtei2ZzzzaMtei6Zzzz2ba4HangcZzzz17Hang4Zzzz31Hang2104Zzzz16eHani2Zz",
   "zz6aHani26Zzzz7LatncZzzz5Armn5Zzzz1aHebrZzzz5HebrZzzzHebrZzzz2HebrZzzz2HebrZzzzaHebr73Arab10",
   "Zzzz16bArab2Zyyy50Arab2Zzzz36Arab7ZzzzArab20Zzzz10Arab10ZinhaZyyy6ZzzzeZinh2Cyrl23ZyyyZzzz13",
   "ZyyyZzzz4Zyyy4Zzzz5ArabZzzz87Arab2ZzzzZyyyZzzz20Zyyy1aLatn6Zyyy1aLatnbZyyyaKanaZyyy2dKana2Zy",
   "yy1fHang3Zzzz6Hang2Zzzz6Hang2Zzzz6Hang2Zzzz3Hang3Zzzz7ZyyyZzzz7ZyyyaZzzz5Zyyy2ZzzzcLinbZzzz1",
   "aLinbZzzz13LinbZzzz2LinbZzzzfLinb2ZzzzeLinb22Zzzz7bLinb5Zzzz3Zyyy4Zzzz2dZyyy3Zzzz9Zyyy4fGrek",
   "ZzzzdZyyy3ZzzzGrek2fZzzz2dZyyyZinh82Zzzz1dLyci3Zzzz31CarifZzzzZinh1bZyyy4Zzzz24Ital9Zzzz3Ita",
   "l1bGoth5Zzzz2bPerm5Zzzz1eUgarZzzzUgar24Xpeo4ZzzzeXpeo2aZzzz50Dsrt30Shaw1eOsma2ZzzzaOsma6Zzzz",
   "24Osge4Zzzz24Osge4Zzzz28Elba8Zzzz34AghbbZzzzAghbbVithZzzzfVithZzzz7VithZzzz2VithZzzzbVithZzz",
   "zfVithZzzz7VithZzzz2Vith3Zzzz34TodrcZzzz137Lina9Zzzz16LinaaZzzz8Lina18Zzzz6LatnZzzz2aLatnZzz",
   "z9Latn45Zzzz6Cprt2ZzzzCprtZzzz2cCprtZzzz2Cprt3ZzzzCprt2ZzzzCprt16ArmiZzzz9Armi20Palm1fNbat8Z",
   "zzz9Nbat30Zzzz13HatrZzzz2Hatr5Zzzz5Hatr1cPhnx3ZzzzPhnx1aLydi5ZzzzLydi40Zzzz20Mero18Merc4Zzzz",
   "14Merc2Zzzz2eMerc4KharZzzz2Khar5Zzzz8KharZzzz3KharZzzz1dKhar2Zzzz3Khar4ZzzzaKhar7Zzzz9Khar7Z",
   "zzz20Sarb20Narb20Zzzz27Mani4ZzzzcMani9Zzzz36Avst3Zzzz7Avst16Prti2Zzzz8Prti13Phli5Zzzz8Phli12",
   "Phlp7Zzzz4PhlpcZzzz7Phlp50Zzzz49Orkh37Zzzz33HungdZzzz33Hung7Zzzz6Hung28Rohg8ZzzzaRohg6Zzzz26",
   "Gara3Zzzz1dGara8Zzzz2Garad0Zzzz1fArabZzzz2aYeziZzzz3Yezi2Zzzz2Yezi10Zzzz3Arab37Zzzz4Arab28So",
   "go8Zzzz2aSogd16Zzzz1aOugr26Zzzz1cChrs14Zzzz17Elym9Zzzz4eBrah4Zzzz24Brah9ZzzzBrah43KthiaZzzzK",
   "thi2Zzzz19Sora7ZzzzaSora6Zzzz35CakmZzzz12Cakm8Zzzz27Mahj9Zzzz60ShrdZzzz14SinhbZzzz12KhojZzzz",
   "2fKhoj3eZzzz7MultZzzzMultZzzz4MultZzzzfMultZzzzbMult6Zzzz3bSind5ZzzzaSind6Zzzz4GranZzzz8Gran",
   "2Zzzz2Gran2Zzzz16GranZzzz7GranZzzz2GranZzzz5GranZzzzZinh9Gran2Zzzz2Gran2Zzzz3Gran2ZzzzGran6Z",
   "zzzGran5Zzzz7Gran2Zzzz7Gran3Zzzz5GranbZzzzaTutgZzzzTutg2ZzzzTutgZzzz26TutgZzzzaTutgZzzzTutg2",
   "ZzzzTutgZzzz4TutgZzzzaTutgZzzz2Tutg8Zzzz2Tutg1dZzzz5cNewaZzzz5Newa1eZzzz48Tirh8ZzzzaTirha6Zz",
   "zz36Sidd2Zzzz26Sidd22Zzzz45ModibZzzzaModi6ZzzzdMong13Zzzz3aTakr6ZzzzaTakr6Zzzz14Mymr1cZzzz1b",
   "Ahom2ZzzzfAhom4Zzzz17Ahomb9Zzzz3cDogr64Zzzz53WaracZzzzWara7Diak2ZzzzDiak2Zzzz8DiakZzzz2DiakZ",
   "zzz1eDiakZzzz2Diak2ZzzzcDiak9ZzzzaDiak46Zzzz8Nand2Zzzz2eNand2ZzzzbNand1bZzzz48Zanb8Zzzz53Soy",
   "odZzzz10Cans39Pauc7ZzzzaDevab6Zzzz22SunueZzzzaSunu6Zzzz9BhksZzzz2dBhksZzzzeBhksaZzzz1dBhks3Z",
   "zzz20Marc2Zzzz16MarcZzzzeMarc49Zzzz7GonmZzzz2GonmZzzz2cGonm3ZzzzGonmZzzz2GonmZzzz9Gonm8Zzzza",
   "Gonm6Zzzz6GongZzzz2GongZzzz25GongZzzz2GongZzzz6Gong7ZzzzaGong136Zzzz19Maka7Zzzz11KawiZzzz29K",
   "awi3Zzzz1dKawi55ZzzzLisufZzzz32TamldZzzzTaml39aXsux66Zzzz6fXsuxZzzz5XsuxbZzzzc4Xsuxa4cZzzz63",
   "CpmndZzzz456EgypaZzzzf9bEgyp5Zzzz247Hluw1ab9Zzzz3aGukh6c6Zzzz239Bamu7Zzzz1fMrooZzzzaMroo4Zzz",
   "z2Mroo4fTnsaZzzzaTnsa6Zzzz1eBass2Zzzz6BassaZzzz46HmngaZzzzaHmngZzzz7HmngZzzz15Hmng5Zzzz13Hmn",
   "g1b0Zzzz3aKraic6Zzzz5bMedf65Zzzz4bPlrd4Zzzz39Plrd7Zzzz11Plrd40ZzzzTangNshu2HaniKitsbZzzz2Han",
   "ieZzzz17f8Tang8Zzzz300Tang1d6Kits29ZzzzKits9Tang22e7Zzzz4KanaZzzz7KanaZzzz2KanaZzzzKana11fHi",
   "ra3KanafZzzzHira1dZzzz3Hira2ZzzzKanaeZzzz4Kana8Zzzz18cNshu904Zzzz6bDupl5ZzzzdDupl3Zzzz9Dupl7",
   "ZzzzaDupl2Zzzz4Dupl4Zyyyf5cZzzzfaZyyy6Zzzz1b4Zyyy4cZzzz2eZinh2Zzzz17Zinh9Zzzz74Zyyy3cZzzzf6Z",
   "yyyaZzzz27Zyyy2Zzzz3eZyyy3Zinh11Zyyy8Zinh2Zyyy7Zinh1eZyyy4Zinh3dZyyy15Zzzz46Grek7aZzzz14Zyyy",
   "cZzzz14ZyyycZzzz57Zyyy9Zzzz19Zyyy87Zzzz55ZyyyZzzz47ZyyyZzzz2Zyyy2ZzzzZyyy2Zzzz2Zyyy2Zzzz4Zyy",
   "yZzzzcZyyyZzzzZyyyZzzz7ZyyyZzzz41ZyyyZzzz4Zyyy2Zzzz8ZyyyZzzz7ZyyyZzzz1cZyyyZzzz4ZyyyZzzz5Zyy",
   "yZzzzZyyy3Zzzz7ZyyyZzzz154Zyyy2Zzzz124Zyyy2Zzzz32Zyyy28cSgnwfZzzz5SgnwZzzzfSgnw450Zzzz1fLatn",
   "6Zzzz6Latnd5Zzzz7GlagZzzz11Glag2Zzzz7GlagZzzz2GlagZzzz5Glag5Zzzz3eCyrl21ZzzzCyrl70Zzzz2dHmnp",
   "3ZzzzeHmnp2ZzzzaHmnp4Zzzz2Hmnp140Zzzz1fToto11Zzzz3aWcho5ZzzzWcho1d0Zzzz2aNagmd6Zzzz2bOnao4Zz",
   "zzOnao1e0Zzzz7EthiZzzz4EthiZzzz2EthiZzzzfEthiZzzzc5Mend2Zzzz10Mend29Zzzz4cAdlm4ZzzzaAdlm4Zzz",
   "z2Adlm311Zzzz44Zyyy4cZzzz3dZyyyc2Zzzz4ArabZzzz1bArabZzzz2ArabZzzzArab2ZzzzArabZzzzaArabZzzz4",
   "ArabZzzzArabZzzzArab6ZzzzArab4ZzzzArabZzzzArabZzzzArabZzzz3ArabZzzz2ArabZzzzArab2ZzzzArabZzz",
   "zArabZzzzArabZzzzArabZzzzArabZzzz2ArabZzzzArab2Zzzz4ArabZzzz7ArabZzzz4ArabZzzz4ArabZzzzArabZ",
   "zzzaArabZzzz11Arab5Zzzz3ArabZzzz5ArabZzzz11Arab34Zzzz2Arab10eZzzz2cZyyy4Zzzz64ZyyycZzzzfZyyy",
   "2ZzzzfZyyyZzzzfZyyyZzzz25ZyyyaZzzzaeZyyy38Zzzz1aZyyyHira2ZyyydZzzz2cZyyy4Zzzz9Zyyy7Zzzz2Zyyy",
   "eZzzz6Zyyy9aZzzz3d8Zyyy4Zzzz11Zyyy3ZzzzdZyyy3Zzzz77Zyyy4Zzzz5fZyyy6ZzzzcZyyy4ZzzzZyyyfZzzzcZ",
   "yyy4Zzzz38Zyyy8ZzzzaZyyy6Zzzz28Zyyy8Zzzz1eZyyy2ZzzzcZyyy4Zzzz2Zyyy3eZzzz154ZyyycZzzzeZyyy2Zz",
   "zzdZyyy3ZzzzaZyyy5Zzzz38Zyyy7ZzzzfZyyy2ZzzzbZyyy6Zzzz9Zyyy7Zzzz93ZyyyZzzz66Zyyy406Zzzza6e0Ha",
   "ni20Zzzz103aHani6ZzzzdeHani2Zzzz1682HanieZzzz1d31HanifZzzz26eHani9a2Zzzz21eHani5e2Zzzz134bHa",
   "ni5Zzzz1060Haniadc51ZzzzZyyy1eZzzz60Zyyy80Zzzzf0Zinh2fe10Zzzz"]

def scriptRuns : List Run := readRuns 4 scriptText

def inScript (code : String) : CharSet := selectRuns (· == code) scriptRuns

/-- Code points whose scripts in use are others than their own script, with the codes of these. -/
def sharedScripts : List (String × String) :=
  [("Avst Cari Copt Dupl Elba Geor Glag Gong Goth Grek Hani Latn Lydi Mahj Perm Shaw", "b7"),
   ("Beng Cyrl Deva Latn Lisu Thai Toto", "2bc"), ("Bopo Latn", "2c7 2c9-2cb 2d9"),
   ("Latn Lisu", "2cd"), ("Latn Thai", "2d7"), ("Cher Copt Cyrl Grek Latn Perm Sunu Tale", "300"),
   ("Cher Cyrl Grek Latn Osge Sunu Tale Todr", "301"), ("Cher Cyrl Latn Tfng", "302"),
   ("Glag Latn Sunu Syrc Thai", "303"),
   ("Aghb Cher Copt Cyrl Goth Grek Latn Osge Syrc Tfng Todr", "304"),
   ("Copt Elba Glag Goth Kana Latn", "305"), ("Cyrl Grek Latn Perm Tfng", "306"),
   ("Copt Dupl Hebr Latn Perm Syrc Tale Tfng Todr", "307"),
   ("Armn Cyrl Dupl Goth Grek Hebr Latn Perm Syrc Tale Tfng", "308"), ("Latn Tfng", "309"),
   ("Dupl Latn Syrc", "30a"), ("Cher Cyrl Latn Osge", "30b"), ("Cher Latn Tale", "30c"),
   ("Latn Sunu", "30d 310"), ("Ethi Latn", "30e"), ("Cyrl Latn Todr", "311"),
   ("Grek Latn Perm Todr", "313"), ("Cher Dupl Kana Latn Syrc Tfng", "323"),
   ("Cher Dupl Latn Syrc", "324"), ("Latn Syrc", "325 32e"), ("Latn Sunu Syrc", "32d"),
   ("Cher Latn Syrc", "330"), ("Aghb Cher Goth Latn Sunu Syrc Thai", "331"),
   ("Grek", "342 345 1dc0-1dc1"), ("Latn Osge", "358"), ("Aghb Latn Todr", "35e"),
   ("Latn", "363-36f"), ("Copt Grek", "374-375"), ("Cyrl Perm", "483"),
   ("Cyrl Glag", "484 487 2e43 a66f"), ("Cyrl Latn", "485-486"), ("Armn Geor Glag", "589"),
   ("Arab Gara Nkoo Rohg Syrc Thaa Yezi", "60c 61b"), ("Arab Syrc Thaa", "61c"),
   ("Adlm Arab Gara Nkoo Rohg Syrc Thaa Yezi", "61f"),
   ("Adlm Arab Mand Mani Ougr Phlp Rohg Sogd Syrc", "640"), ("Arab Syrc", "64b-655 670"),
   ("Arab Thaa Yezi", "660-669"), ("Arab Rohg", "6d4"),
   ("Beng Deva Gran Gujr Guru Knda Latn Mlym Nand Newa Orya Shrd Taml Telu Tirh", "951"),
   ("Beng Deva Gran Gujr Guru Knda Latn Mlym Newa Orya Taml Telu Tirh", "952"),
   (String.join ["Beng Deva Dogr Gong Gonm Gran Gujr Guru Knda Mahj Mlym Nand Onao Orya Sind ",
      "Sinh Sylo Takr Taml Telu Tirh"],
    "964"),
   (String.join ["Beng Deva Dogr Gong Gonm Gran Gujr Gukh Guru Knda Limb Mahj Mlym Nand Onao ",
      "Orya Sind Sinh Sylo Takr Taml Telu Tirh"],
    "965"),
   ("Deva Dogr Kthi Mahj", "966-96f"), ("Beng Cakm Sylo", "9e6-9ef"), ("Guru Mult", "a66-a6f"),
   ("Gujr Khoj", "ae6-aef"), ("Gran Taml", "be6-bf3 11301 11303 1133b-1133c 11fd0-11fd1 11fd3"),
   ("Knda Nand Tutg", "ce6-cef"), ("Cakm Mymr Tale", "1040-1049"), ("Geor Glag Latn", "10fb"),
   ("Runr", "16eb-16ed"), ("Buhd Hano Tagb Tglg", "1735-1736"), ("Mong Phag", "1802-1803 1805"),
   ("Beng Deva Gran Knda", "1cd0 1cd2"),
   ("Deva", "1cd1 1cd4 1cdb 1cde-1cdf 1ce3-1ce8 1cec 1cee-1cf1"), ("Deva Gran Knda", "1cd3"),
   ("Beng Deva Newa Telu Tirh", "1cd5"), ("Beng Deva Telu", "1cd6"), ("Deva Newa Shrd", "1cd7"),
   ("Beng Deva Newa Telu", "1cd8"), ("Deva Shrd", "1cd9 1cdc-1cdd 1ce0"),
   ("Deva Knda Mlym Orya Taml Telu", "1cda"), ("Beng Deva", "1ce1 1cf5-1cf6"),
   ("Deva Newa Tirh", "1ce2"), ("Deva Nand Newa", "1ce9"), ("Beng Deva Shrd", "1cea"),
   ("Deva Newa", "1ceb"), ("Beng Deva Newa Shrd", "1ced"),
   ("Beng Deva Gran Knda Mlym Nand Orya Sinh Telu Tirh Tutg", "1cf2"),
   ("Deva Gran", "1cf3 1cf8-1cf9"), ("Deva Gran Knda Tutg", "1cf4"), ("Beng", "1cf7"),
   ("Nand", "1cfa"), ("Cyrl Latn Syrc", "1df8"), ("Syrc", "1dfa"), ("Latn Mong Phag", "202f"),
   ("Adlm Arab", "204f"), ("Cari Geor Glag Hung Lyci Orkh", "205a"),
   ("Cari Grek Hung Mero", "205d"), ("Deva Gran Latn", "20f0"), ("Copt Latn", "2e17"),
   ("Avst Orkh", "2e30"), ("Avst Cari Geor Hung Kthi Lydi Samr", "2e31"),
   ("Dupl", "2e3c 1bca0-1bca3"), ("Adlm Arab Hung", "2e41"), ("Hani Tang", "2ff0-2fff 31ef"),
   ("Bopo Hang Hani Hira Kana Mong Yiii", "3001"),
   ("Bopo Hang Hani Hira Kana Mong Phag Yiii", "3002"),
   ("Bopo Hang Hani Hira Kana", "3003 3013 301c-301f 3030 3037 fe45-fe46"),
   ("Hani",
    String.join ["3006 303e-303f 3190-319f 31c0-31e5 3220-3247 3280-32b0 32c0-32cb 32ff ",
      "3358-3370 337b-337f 33e0-33fe 1d360-1d371 1f250-1f251"]),
   ("Bopo Hang Hani Hira Kana Mong Tibt Yiii", "3008-3009"),
   ("Bopo Hang Hani Hira Kana Lisu Mong Tibt Yiii", "300a-300b"),
   ("Bopo Hang Hani Hira Kana Yiii", "300c-3011 3014-301b 30fb ff61-ff65"),
   ("Bopo Hani", "302a-302d"), ("Hira Kana", "3031-3035 3099-309c 30a0 30fc ff70 ff9e-ff9f"),
   ("Hani Hira Kana", "303c-303d"), ("Hani Latn", "a700-a707"),
   ("Deva Dogr Gujr Guru Khoj Knda Kthi Mahj Mlym Modi Nand Shrd Sind Takr Tirh Tutg",
    "a830-a832"),
   ("Deva Dogr Gujr Guru Khoj Knda Kthi Mahj Modi Nand Shrd Sind Takr Tirh Tutg", "a833-a835"),
   ("Deva Dogr Gujr Guru Khoj Kthi Mahj Modi Sind Takr Tirh", "a836-a837 a839"),
   ("Deva Dogr Gujr Guru Khoj Kthi Mahj Modi Shrd Sind Takr Tirh", "a838"),
   ("Beng Deva Tutg", "a8f1"), ("Deva Taml", "a8f3"), ("Kali Latn Mymr", "a92e"),
   ("Bugi Java", "a9cf"), ("Arab Nkoo", "fd3e-fd3f"), ("Arab Thaa", "fdf2 fdfd"),
   ("Cpmn Cprt Linb", "10100-10101"), ("Cprt Linb", "10102 10137-1013f"),
   ("Cprt Lina Linb", "10107-10133"), ("Arab Copt", "102e0-102fb"), ("Mani Ougr", "10af2")]

/-- The code points in use with a script: those of the script itself, unless the table says with
which scripts they are in use, and those that the table lists for it. -/
def usedWith (code : String) : CharSet :=
  let listed := sharedScripts.map fun (codes, text) => (codes.splitOn " ", readRanges text)
  let others := CharSet.unions (listed.map (·.2))
  let own := (listed.filter fun (codes, _) => codes.contains code).map (·.2)
  ((inScript code).diff others).union (.unions own)

/-- The scripts with their long names, in the spelling of the standard. -/
def scriptNames : List (String × String) :=
  [("Adlm", "Adlam"), ("Aghb", "Caucasian_Albanian"), ("Ahom", "Ahom"), ("Arab", "Arabic"),
   ("Armi", "Imperial_Aramaic"), ("Armn", "Armenian"), ("Avst", "Avestan"), ("Bali", "Balinese"),
   ("Bamu", "Bamum"), ("Bass", "Bassa_Vah"), ("Batk", "Batak"), ("Beng", "Bengali"),
   ("Bhks", "Bhaiksuki"), ("Bopo", "Bopomofo"), ("Brah", "Brahmi"), ("Brai", "Braille"),
   ("Bugi", "Buginese"), ("Buhd", "Buhid"), ("Cakm", "Chakma"), ("Cans", "Canadian_Aboriginal"),
   ("Cari", "Carian"), ("Cham", "Cham"), ("Cher", "Cherokee"), ("Chrs", "Chorasmian"),
   ("Copt", "Coptic"), ("Cpmn", "Cypro_Minoan"), ("Cprt", "Cypriot"), ("Cyrl", "Cyrillic"),
   ("Deva", "Devanagari"), ("Diak", "Dives_Akuru"), ("Dogr", "Dogra"), ("Dsrt", "Deseret"),
   ("Dupl", "Duployan"), ("Egyp", "Egyptian_Hieroglyphs"), ("Elba", "Elbasan"), ("Elym", "Elymaic"),
   ("Ethi", "Ethiopic"), ("Gara", "Garay"), ("Geor", "Georgian"), ("Glag", "Glagolitic"),
   ("Gong", "Gunjala_Gondi"), ("Gonm", "Masaram_Gondi"), ("Goth", "Gothic"), ("Gran", "Grantha"),
   ("Grek", "Greek"), ("Gujr", "Gujarati"), ("Gukh", "Gurung_Khema"), ("Guru", "Gurmukhi"),
   ("Hang", "Hangul"), ("Hani", "Han"), ("Hano", "Hanunoo"), ("Hatr", "Hatran"), ("Hebr", "Hebrew"),
   ("Hira", "Hiragana"), ("Hluw", "Anatolian_Hieroglyphs"), ("Hmng", "Pahawh_Hmong"),
   ("Hmnp", "Nyiakeng_Puachue_Hmong"), ("Hung", "Old_Hungarian"), ("Ital", "Old_Italic"),
   ("Java", "Javanese"), ("Kali", "Kayah_Li"), ("Kana", "Katakana"), ("Kawi", "Kawi"),
   ("Khar", "Kharoshthi"), ("Khmr", "Khmer"), ("Khoj", "Khojki"), ("Kits", "Khitan_Small_Script"),
   ("Knda", "Kannada"), ("Krai", "Kirat_Rai"), ("Kthi", "Kaithi"), ("Lana", "Tai_Tham"),
   ("Laoo", "Lao"), ("Latn", "Latin"), ("Lepc", "Lepcha"), ("Limb", "Limbu"), ("Lina", "Linear_A"),
   ("Linb", "Linear_B"), ("Lisu", "Lisu"), ("Lyci", "Lycian"), ("Lydi", "Lydian"),
   ("Mahj", "Mahajani"), ("Maka", "Makasar"), ("Mand", "Mandaic"), ("Mani", "Manichaean"),
   ("Marc", "Marchen"), ("Medf", "Medefaidrin"), ("Mend", "Mende_Kikakui"),
   ("Merc", "Meroitic_Cursive"), ("Mero", "Meroitic_Hieroglyphs"), ("Mlym", "Malayalam"),
   ("Modi", "Modi"), ("Mong", "Mongolian"), ("Mroo", "Mro"), ("Mtei", "Meetei_Mayek"),
   ("Mult", "Multani"), ("Mymr", "Myanmar"), ("Nagm", "Nag_Mundari"), ("Nand", "Nandinagari"),
   ("Narb", "Old_North_Arabian"), ("Nbat", "Nabataean"), ("Newa", "Newa"), ("Nkoo", "Nko"),
   ("Nshu", "Nushu"), ("Ogam", "Ogham"), ("Olck", "Ol_Chiki"), ("Onao", "Ol_Onal"),
   ("Orkh", "Old_Turkic"), ("Orya", "Oriya"), ("Osge", "Osage"), ("Osma", "Osmanya"),
   ("Ougr", "Old_Uyghur"), ("Palm", "Palmyrene"), ("Pauc", "Pau_Cin_Hau"), ("Perm", "Old_Permic"),
   ("Phag", "Phags_Pa"), ("Phli", "Inscriptional_Pahlavi"), ("Phlp", "Psalter_Pahlavi"),
   ("Phnx", "Phoenician"), ("Plrd", "Miao"), ("Prti", "Inscriptional_Parthian"), ("Rjng", "Rejang"),
   ("Rohg", "Hanifi_Rohingya"), ("Runr", "Runic"), ("Samr", "Samaritan"),
   ("Sarb", "Old_South_Arabian"), ("Saur", "Saurashtra"), ("Sgnw", "SignWriting"),
   ("Shaw", "Shavian"), ("Shrd", "Sharada"), ("Sidd", "Siddham"), ("Sind", "Khudawadi"),
   ("Sinh", "Sinhala"), ("Sogd", "Sogdian"), ("Sogo", "Old_Sogdian"), ("Sora", "Sora_Sompeng"),
   ("Soyo", "Soyombo"), ("Sund", "Sundanese"), ("Sunu", "Sunuwar"), ("Sylo", "Syloti_Nagri"),
   ("Syrc", "Syriac"), ("Tagb", "Tagbanwa"), ("Takr", "Takri"), ("Tale", "Tai_Le"),
   ("Talu", "New_Tai_Lue"), ("Taml", "Tamil"), ("Tang", "Tangut"), ("Tavt", "Tai_Viet"),
   ("Telu", "Telugu"), ("Tfng", "Tifinagh"), ("Tglg", "Tagalog"), ("Thaa", "Thaana"),
   ("Thai", "Thai"), ("Tibt", "Tibetan"), ("Tirh", "Tirhuta"), ("Tnsa", "Tangsa"),
   ("Todr", "Todhri"), ("Toto", "Toto"), ("Tutg", "Tulu_Tigalari"), ("Ugar", "Ugaritic"),
   ("Vaii", "Vai"), ("Vith", "Vithkuqi"), ("Wara", "Warang_Citi"), ("Wcho", "Wancho"),
   ("Xpeo", "Old_Persian"), ("Xsux", "Cuneiform"), ("Yezi", "Yezidi"), ("Yiii", "Yi"),
   ("Zanb", "Zanabazar_Square"), ("Zinh", "Inherited"), ("Zyyy", "Common")]

end Settle.Unicode
