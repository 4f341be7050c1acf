import BundleFront.Text.CodeSet

/-!
# Scripts of code points

Each assigned code point belongs to one script, which has a short name and often
further ones.  The table lists, in ascending order, where a run of one script
starts; a run lasts until the next one starts.

A sign that several scripts use belongs to all of them by its script extensions.
Where they differ from the one script of the sign, they are listed.
-/

namespace BundleFront.Text.Script

/-- The names of the scripts, short one first: lower case, without separators. -/
def names : List (List String) :=
  [["adlm", "adlam"], ["aghb", "caucasianalbanian"], ["ahom"], ["arab", "arabic"],
   ["armi", "imperialaramaic"], ["armn", "armenian"], ["avst", "avestan"], ["bali", "balinese"],
   ["bamu", "bamum"], ["bass", "bassavah"], ["batk", "batak"], ["beng", "bengali"],
   ["bhks", "bhaiksuki"], ["bopo", "bopomofo"], ["brah", "brahmi"], ["brai", "braille"],
   ["bugi", "buginese"], ["buhd", "buhid"], ["cakm", "chakma"], ["cans", "canadianaboriginal"],
   ["cari", "carian"], ["cham"], ["cher", "cherokee"], ["chrs", "chorasmian"],
   ["copt", "coptic", "qaac"], ["cpmn", "cyprominoan"], ["cprt", "cypriot"], ["cyrl", "cyrillic"],
   ["deva", "devanagari"], ["diak", "divesakuru"], ["dogr", "dogra"], ["dsrt", "deseret"],
   ["dupl", "duployan"], ["egyp", "egyptianhieroglyphs"], ["elba", "elbasan"],
   ["elym", "elymaic"], ["ethi", "ethiopic"], ["gara", "garay"], ["geor", "georgian"],
   ["glag", "glagolitic"], ["gong", "gunjalagondi"], ["gonm", "masaramgondi"], ["goth", "gothic"],
   ["gran", "grantha"], ["grek", "greek"], ["gujr", "gujarati"], ["gukh", "gurungkhema"],
   ["guru", "gurmukhi"], ["hang", "hangul"], ["hani", "han"], ["hano", "hanunoo"],
   ["hatr", "hatran"], ["hebr", "hebrew"], ["hira", "hiragana"], ["hluw", "anatolianhieroglyphs"],
   ["hmng", "pahawhhmong"], ["hmnp", "nyiakengpuachuehmong"], ["hung", "oldhungarian"],
   ["ital", "olditalic"], ["java", "javanese"], ["kali", "kayahli"], ["kana", "katakana"],
   ["kawi"], ["khar", "kharoshthi"], ["khmr", "khmer"], ["khoj", "khojki"],
   ["kits", "khitansmallscript"], ["knda", "kannada"], ["krai", "kiratrai"], ["kthi", "kaithi"],
   ["lana", "taitham"], ["laoo", "lao"], ["latn", "latin"], ["lepc", "lepcha"], ["limb", "limbu"],
   ["lina", "lineara"], ["linb", "linearb"], ["lisu"], ["lyci", "lycian"], ["lydi", "lydian"],
   ["mahj", "mahajani"], ["maka", "makasar"], ["mand", "mandaic"], ["mani", "manichaean"],
   ["marc", "marchen"], ["medf", "medefaidrin"], ["mend", "mendekikakui"],
   ["merc", "meroiticcursive"], ["mero", "meroitichieroglyphs"], ["mlym", "malayalam"], ["modi"],
   ["mong", "mongolian"], ["mroo", "mro"], ["mtei", "meeteimayek"], ["mult", "multani"],
   ["mymr", "myanmar"], ["nagm", "nagmundari"], ["nand", "nandinagari"],
   ["narb", "oldnortharabian"], ["nbat", "nabataean"], ["newa"], ["nkoo", "nko"],
   ["nshu", "nushu"], ["ogam", "ogham"], ["olck", "olchiki"], ["onao", "olonal"],
   ["orkh", "oldturkic"], ["orya", "oriya"], ["osge", "osage"], ["osma", "osmanya"],
   ["ougr", "olduyghur"], ["palm", "palmyrene"], ["pauc", "paucinhau"], ["perm", "oldpermic"],
   ["phag", "phagspa"], ["phli", "inscriptionalpahlavi"], ["phlp", "psalterpahlavi"],
   ["phnx", "phoenician"], ["plrd", "miao"], ["prti", "inscriptionalparthian"],
   ["rjng", "rejang"], ["rohg", "hanifirohingya"], ["runr", "runic"], ["samr", "samaritan"],
   ["sarb", "oldsoutharabian"], ["saur", "saurashtra"], ["sgnw", "signwriting"],
   ["shaw", "shavian"], ["shrd", "sharada"], ["sidd", "siddham"], ["sind", "khudawadi"],
   ["sinh", "sinhala"], ["sogd", "sogdian"], ["sogo", "oldsogdian"], ["sora", "sorasompeng"],
   ["soyo", "soyombo"], ["sund", "sundanese"], ["sunu", "sunuwar"], ["sylo", "sylotinagri"],
   ["syrc", "syriac"], ["tagb", "tagbanwa"], ["takr", "takri"], ["tale", "taile"],
   ["talu", "newtailue"], ["taml", "tamil"], ["tang", "tangut"], ["tavt", "taiviet"],
   ["telu", "telugu"], ["tfng", "tifinagh"], ["tglg", "tagalog"], ["thaa", "thaana"], ["thai"],
   ["tibt", "tibetan"], ["tirh", "tirhuta"], ["tnsa", "tangsa"], ["todr", "todhri"], ["toto"],
   ["tutg", "tulutigalari"], ["ugar", "ugaritic"], ["vaii", "vai"], ["vith", "vithkuqi"],
   ["wara", "warangciti"], ["wcho", "wancho"], ["xpeo", "oldpersian"], ["xsux", "cuneiform"],
   ["yezi", "yezidi"], ["yiii", "yi"], ["zanb", "zanabazarsquare"], ["zinh", "inherited", "qaai"],
   ["zyyy", "common"]]

private def scriptRunsFrom0 : String :=
  "0:zyyy 41:latn 5b:zyyy 61:latn 7b:zyyy aa:latn ab:zyyy ba:latn bb:zyyy c0:latn d7:zyyy d8:latn
   f7:zyyy f8:latn 2b9:zyyy 2e0:latn 2e5:zyyy 2ea:bopo 2ec:zyyy 300:zinh 370:grek 374:zyyy
   375:grek 378:none 37a:grek 37e:zyyy 37f:grek 380:none 384:grek 385:zyyy 386:grek 387:zyyy
   388:grek 38b:none 38c:grek 38d:none 38e:grek 3a2:none 3a3:grek 3e2:copt 3f0:grek 400:cyrl
   485:zinh 487:cyrl 530:none 531:armn 557:none 559:armn 58b:none 58d:armn 590:none 591:hebr
   5c8:none 5d0:hebr 5eb:none 5ef:hebr 5f5:none 600:arab 605:zyyy 606:arab 60c:zyyy 60d:arab
   61b:zyyy 61c:arab 61f:zyyy 620:arab 640:zyyy 641:arab 64b:zinh 656:arab 670:zinh 671:arab
   6dd:zyyy 6de:arab 700:syrc 70e:none 70f:syrc 74b:none 74d:syrc 750:arab 780:thaa 7b2:none
   7c0:nkoo 7fb:none 7fd:nkoo 800:samr 82e:none 830:samr 83f:none 840:mand 85c:none 85e:mand
   85f:none 860:syrc 86b:none 870:arab 88f:none 890:arab 892:none 897:arab 8e2:zyyy 8e3:arab
   900:deva 951:zinh 955:deva 964:zyyy 966:deva 980:beng 984:none 985:beng 98d:none 98f:beng
   991:none 993:beng 9a9:none 9aa:beng 9b1:none 9b2:beng 9b3:none 9b6:beng 9ba:none 9bc:beng
   9c5:none 9c7:beng 9c9:none 9cb:beng 9cf:none 9d7:beng 9d8:none 9dc:beng 9de:none 9df:beng
   9e4:none 9e6:beng 9ff:none a01:guru a04:none a05:guru a0b:none a0f:guru a11:none a13:guru
   a29:none a2a:guru a31:none a32:guru a34:none a35:guru a37:none a38:guru a3a:none a3c:guru
   a3d:none a3e:guru a43:none a47:guru a49:none a4b:guru a4e:none a51:guru a52:none a59:guru
   a5d:none a5e:guru a5f:none a66:guru a77:none a81:gujr a84:none a85:gujr a8e:none a8f:gujr
   a92:none a93:gujr aa9:none aaa:gujr ab1:none ab2:gujr ab4:none ab5:gujr aba:none abc:gujr
   ac6:none ac7:gujr aca:none acb:gujr ace:none ad0:gujr ad1:none ae0:gujr ae4:none ae6:gujr
   af2:none af9:gujr b00:none b01:orya b04:none b05:orya b0d:none b0f:orya b11:none b13:orya
   b29:none b2a:orya b31:none b32:orya b34:none b35:orya b3a:none b3c:orya b45:none b47:orya
   b49:none b4b:orya b4e:none b55:orya b58:none b5c:orya b5e:none b5f:orya b64:none b66:orya
   b78:none b82:taml b84:none b85:taml b8b:none b8e:taml b91:none b92:taml b96:none b99:taml
   b9b:none b9c:taml b9d:none b9e:taml ba0:none ba3:taml ba5:none ba8:taml bab:none bae:taml
   bba:none bbe:taml bc3:none bc6:taml bc9:none bca:taml bce:none bd0:taml bd1:none bd7:taml
   bd8:none be6:taml bfb:none c00:telu c0d:none c0e:telu c11:none c12:telu c29:none c2a:telu
   c3a:none c3c:telu c45:none c46:telu c49:none c4a:telu c4e:none c55:telu c57:none c58:telu
   c5b:none c5d:telu c5e:none c60:telu c64:none c66:telu c70:none c77:telu c80:knda c8d:none
   c8e:knda c91:none c92:knda ca9:none caa:knda cb4:none cb5:knda cba:none cbc:knda cc5:none
   cc6:knda cc9:none cca:knda cce:none cd5:knda cd7:none cdd:knda cdf:none ce0:knda ce4:none
   ce6:knda cf0:none cf1:knda cf4:none d00:mlym d0d:none d0e:mlym d11:none d12:mlym d45:none
   d46:mlym d49:none d4a:mlym d50:none d54:mlym d64:none d66:mlym d80:none d81:sinh d84:none
   d85:sinh d97:none d9a:sinh db2:none db3:sinh dbc:none dbd:sinh dbe:none dc0:sinh dc7:none
   dca:sinh dcb:none dcf:sinh dd5:none dd6:sinh dd7:none dd8:sinh de0:none de6:sinh df0:none
   df2:sinh df5:none e01:thai e3b:none e3f:zyyy e40:thai e5c:none e81:laoo e83:none e84:laoo
   e85:none e86:laoo e8b:none e8c:laoo ea4:none ea5:laoo ea6:none ea7:laoo ebe:none ec0:laoo
   ec5:none ec6:laoo ec7:none ec8:laoo ecf:none ed0:laoo eda:none edc:laoo ee0:none f00:tibt
   f48:none f49:tibt f6d:none f71:tibt f98:none f99:tibt fbd:none fbe:tibt fcd:none fce:tibt
   fd5:zyyy fd9:tibt fdb:none 1000:mymr 10a0:geor 10c6:none 10c7:geor 10c8:none 10cd:geor
   10ce:none 10d0:geor 10fb:zyyy 10fc:geor 1100:hang 1200:ethi 1249:none 124a:ethi 124e:none
   1250:ethi 1257:none 1258:ethi 1259:none 125a:ethi 125e:none 1260:ethi 1289:none 128a:ethi
   128e:none 1290:ethi 12b1:none 12b2:ethi 12b6:none 12b8:ethi 12bf:none 12c0:ethi 12c1:none
   12c2:ethi 12c6:none 12c8:ethi 12d7:none 12d8:ethi 1311:none 1312:ethi 1316:none 1318:ethi
   135b:none 135d:ethi 137d:none 1380:ethi 139a:none 13a0:cher 13f6:none 13f8:cher 13fe:none
   1400:cans 1680:ogam 169d:none 16a0:runr 16eb:zyyy 16ee:runr 16f9:none 1700:tglg 1716:none
   171f:tglg 1720:hano 1735:zyyy 1737:none 1740:buhd 1754:none 1760:tagb 176d:none 176e:tagb
   1771:none 1772:tagb 1774:none 1780:khmr 17de:none 17e0:khmr 17ea:none 17f0:khmr 17fa:none
   1800:mong 1802:zyyy 1804:mong 1805:zyyy 1806:mong 181a:none 1820:mong 1879:none 1880:mong
   18ab:none 18b0:cans 18f6:none 1900:limb 191f:none 1920:limb 192c:none 1930:limb 193c:none
   1940:limb 1941:none 1944:limb 1950:tale 196e:none 1970:tale 1975:none 1980:talu 19ac:none
   19b0:talu 19ca:none 19d0:talu 19db:none 19de:talu 19e0:khmr 1a00:bugi 1a1c:none 1a1e:bugi
   1a20:lana 1a5f:none 1a60:lana 1a7d:none 1a7f:lana 1a8a:none 1a90:lana 1a9a:none 1aa0:lana
   1aae:none 1ab0:zinh 1acf:none 1b00:bali 1b4d:none 1b4e:bali 1b80:sund 1bc0:batk 1bf4:none
   1bfc:batk 1c00:lepc 1c38:none 1c3b:lepc 1c4a:none 1c4d:lepc 1c50:olck 1c80:cyrl 1c8b:none
   1c90:geor 1cbb:none 1cbd:geor 1cc0:sund 1cc8:none 1cd0:zinh 1cd3:zyyy 1cd4:zinh 1ce1:zyyy
   1ce2:zinh 1ce9:zyyy 1ced:zinh 1cee:zyyy 1cf4:zinh 1cf5:zyyy 1cf8:zinh 1cfa:zyyy 1cfb:none
   1d00:latn 1d26:grek 1d2b:cyrl 1d2c:latn 1d5d:grek 1d62:latn 1d66:grek 1d6b:latn 1d78:cyrl
   1d79:latn 1dbf:grek 1dc0:zinh 1e00:latn 1f00:grek 1f16:none 1f18:grek 1f1e:none 1f20:grek
   1f46:none 1f48:grek 1f4e:none 1f50:grek 1f58:none 1f59:grek 1f5a:none 1f5b:grek 1f5c:none
   1f5d:grek 1f5e:none 1f5f:grek 1f7e:none 1f80:grek 1fb5:none 1fb6:grek 1fc5:none 1fc6:grek"

private def scriptRunsFrom1FD4 : String :=
  "1fd4:none 1fd6:grek 1fdc:none 1fdd:grek 1ff0:none 1ff2:grek 1ff5:none 1ff6:grek 1fff:none
   2000:zyyy 200c:zinh 200e:zyyy 2065:none 2066:zyyy 2071:latn 2072:none 2074:zyyy 207f:latn
   2080:zyyy 208f:none 2090:latn 209d:none 20a0:zyyy 20c1:none 20d0:zinh 20f1:none 2100:zyyy
   2126:grek 2127:zyyy 212a:latn 212c:zyyy 2132:latn 2133:zyyy 214e:latn 214f:zyyy 2160:latn
   2189:zyyy 218c:none 2190:zyyy 242a:none 2440:zyyy 244b:none 2460:zyyy 2800:brai 2900:zyyy
   2b74:none 2b76:zyyy 2b96:none 2b97:zyyy 2c00:glag 2c60:latn 2c80:copt 2cf4:none 2cf9:copt
   2d00:geor 2d26:none 2d27:geor 2d28:none 2d2d:geor 2d2e:none 2d30:tfng 2d68:none 2d6f:tfng
   2d71:none 2d7f:tfng 2d80:ethi 2d97:none 2da0:ethi 2da7:none 2da8:ethi 2daf:none 2db0:ethi
   2db7:none 2db8:ethi 2dbf:none 2dc0:ethi 2dc7:none 2dc8:ethi 2dcf:none 2dd0:ethi 2dd7:none
   2dd8:ethi 2ddf:none 2de0:cyrl 2e00:zyyy 2e5e:none 2e80:hani 2e9a:none 2e9b:hani 2ef4:none
   2f00:hani 2fd6:none 2ff0:zyyy 3005:hani 3006:zyyy 3007:hani 3008:zyyy 3021:hani 302a:zinh
   302e:hang 3030:zyyy 3038:hani 303c:zyyy 3040:none 3041:hira 3097:none 3099:zinh 309b:zyyy
   309d:hira 30a0:zyyy 30a1:kana 30fb:zyyy 30fd:kana 3100:none 3105:bopo 3130:none 3131:hang
   318f:none 3190:zyyy 31a0:bopo 31c0:zyyy 31e6:none 31ef:zyyy 31f0:kana 3200:hang 321f:none
   3220:zyyy 3260:hang 327f:zyyy 32d0:kana 32ff:zyyy 3300:kana 3358:zyyy 3400:hani 4dc0:zyyy
   4e00:hani a000:yiii a48d:none a490:yiii a4c7:none a4d0:lisu a500:vaii a62c:none a640:cyrl
   a6a0:bamu a6f8:none a700:zyyy a722:latn a788:zyyy a78b:latn a7ce:none a7d0:latn a7d2:none
   a7d3:latn a7d4:none a7d5:latn a7dd:none a7f2:latn a800:sylo a82d:none a830:zyyy a83a:none
   a840:phag a878:none a880:saur a8c6:none a8ce:saur a8da:none a8e0:deva a900:kali a92e:zyyy
   a92f:kali a930:rjng a954:none a95f:rjng a960:hang a97d:none a980:java a9ce:none a9cf:zyyy
   a9d0:java a9da:none a9de:java a9e0:mymr a9ff:none aa00:cham aa37:none aa40:cham aa4e:none
   aa50:cham aa5a:none aa5c:cham aa60:mymr aa80:tavt aac3:none aadb:tavt aae0:mtei aaf7:none
   ab01:ethi ab07:none ab09:ethi ab0f:none ab11:ethi ab17:none ab20:ethi ab27:none ab28:ethi
   ab2f:none ab30:latn ab5b:zyyy ab5c:latn ab65:grek ab66:latn ab6a:zyyy ab6c:none ab70:cher
   abc0:mtei abee:none abf0:mtei abfa:none ac00:hang d7a4:none d7b0:hang d7c7:none d7cb:hang
   d7fc:none f900:hani fa6e:none fa70:hani fada:none fb00:latn fb07:none fb13:armn fb18:none
   fb1d:hebr fb37:none fb38:hebr fb3d:none fb3e:hebr fb3f:none fb40:hebr fb42:none fb43:hebr
   fb45:none fb46:hebr fb50:arab fbc3:none fbd3:arab fd3e:zyyy fd40:arab fd90:none fd92:arab
   fdc8:none fdcf:arab fdd0:none fdf0:arab fe00:zinh fe10:zyyy fe1a:none fe20:zinh fe2e:cyrl
   fe30:zyyy fe53:none fe54:zyyy fe67:none fe68:zyyy fe6c:none fe70:arab fe75:none fe76:arab
   fefd:none feff:zyyy ff00:none ff01:zyyy ff21:latn ff3b:zyyy ff41:latn ff5b:zyyy ff66:kana
   ff70:zyyy ff71:kana ff9e:zyyy ffa0:hang ffbf:none ffc2:hang ffc8:none ffca:hang ffd0:none
   ffd2:hang ffd8:none ffda:hang ffdd:none ffe0:zyyy ffe7:none ffe8:zyyy ffef:none fff9:zyyy
   fffe:none 10000:linb 1000c:none 1000d:linb 10027:none 10028:linb 1003b:none 1003c:linb
   1003e:none 1003f:linb 1004e:none 10050:linb 1005e:none 10080:linb 100fb:none 10100:zyyy
   10103:none 10107:zyyy 10134:none 10137:zyyy 10140:grek 1018f:none 10190:zyyy 1019d:none
   101a0:grek 101a1:none 101d0:zyyy 101fd:zinh 101fe:none 10280:lyci 1029d:none 102a0:cari
   102d1:none 102e0:zinh 102e1:zyyy 102fc:none 10300:ital 10324:none 1032d:ital 10330:goth
   1034b:none 10350:perm 1037b:none 10380:ugar 1039e:none 1039f:ugar 103a0:xpeo 103c4:none
   103c8:xpeo 103d6:none 10400:dsrt 10450:shaw 10480:osma 1049e:none 104a0:osma 104aa:none
   104b0:osge 104d4:none 104d8:osge 104fc:none 10500:elba 10528:none 10530:aghb 10564:none
   1056f:aghb 10570:vith 1057b:none 1057c:vith 1058b:none 1058c:vith 10593:none 10594:vith
   10596:none 10597:vith 105a2:none 105a3:vith 105b2:none 105b3:vith 105ba:none 105bb:vith
   105bd:none 105c0:todr 105f4:none 10600:lina 10737:none 10740:lina 10756:none 10760:lina
   10768:none 10780:latn 10786:none 10787:latn 107b1:none 107b2:latn 107bb:none 10800:cprt
   10806:none 10808:cprt 10809:none 1080a:cprt 10836:none 10837:cprt 10839:none 1083c:cprt
   1083d:none 1083f:cprt 10840:armi 10856:none 10857:armi 10860:palm 10880:nbat 1089f:none
   108a7:nbat 108b0:none 108e0:hatr 108f3:none 108f4:hatr 108f6:none 108fb:hatr 10900:phnx
   1091c:none 1091f:phnx 10920:lydi 1093a:none 1093f:lydi 10940:none 10980:mero 109a0:merc
   109b8:none 109bc:merc 109d0:none 109d2:merc 10a00:khar 10a04:none 10a05:khar 10a07:none
   10a0c:khar 10a14:none 10a15:khar 10a18:none 10a19:khar 10a36:none 10a38:khar 10a3b:none
   10a3f:khar 10a49:none 10a50:khar 10a59:none 10a60:sarb 10a80:narb 10aa0:none 10ac0:mani
   10ae7:none 10aeb:mani 10af7:none 10b00:avst 10b36:none 10b39:avst 10b40:prti 10b56:none
   10b58:prti 10b60:phli 10b73:none 10b78:phli 10b80:phlp 10b92:none 10b99:phlp 10b9d:none
   10ba9:phlp 10bb0:none 10c00:orkh 10c49:none 10c80:hung 10cb3:none 10cc0:hung 10cf3:none
   10cfa:hung 10d00:rohg 10d28:none 10d30:rohg 10d3a:none 10d40:gara 10d66:none 10d69:gara
   10d86:none 10d8e:gara 10d90:none 10e60:arab 10e7f:none 10e80:yezi 10eaa:none 10eab:yezi
   10eae:none 10eb0:yezi 10eb2:none 10ec2:arab 10ec5:none 10efc:arab 10f00:sogo 10f28:none
   10f30:sogd 10f5a:none 10f70:ougr 10f8a:none 10fb0:chrs 10fcc:none 10fe0:elym 10ff7:none
   11000:brah 1104e:none 11052:brah 11076:none 1107f:brah 11080:kthi 110c3:none 110cd:kthi"

private def scriptRunsFrom110CE : String :=
  "110ce:none 110d0:sora 110e9:none 110f0:sora 110fa:none 11100:cakm 11135:none 11136:cakm
   11148:none 11150:mahj 11177:none 11180:shrd 111e0:none 111e1:sinh 111f5:none 11200:khoj
   11212:none 11213:khoj 11242:none 11280:mult 11287:none 11288:mult 11289:none 1128a:mult
   1128e:none 1128f:mult 1129e:none 1129f:mult 112aa:none 112b0:sind 112eb:none 112f0:sind
   112fa:none 11300:gran 11304:none 11305:gran 1130d:none 1130f:gran 11311:none 11313:gran
   11329:none 1132a:gran 11331:none 11332:gran 11334:none 11335:gran 1133a:none 1133b:zinh
   1133c:gran 11345:none 11347:gran 11349:none 1134b:gran 1134e:none 11350:gran 11351:none
   11357:gran 11358:none 1135d:gran 11364:none 11366:gran 1136d:none 11370:gran 11375:none
   11380:tutg 1138a:none 1138b:tutg 1138c:none 1138e:tutg 1138f:none 11390:tutg 113b6:none
   113b7:tutg 113c1:none 113c2:tutg 113c3:none 113c5:tutg 113c6:none 113c7:tutg 113cb:none
   113cc:tutg 113d6:none 113d7:tutg 113d9:none 113e1:tutg 113e3:none 11400:newa 1145c:none
   1145d:newa 11462:none 11480:tirh 114c8:none 114d0:tirh 114da:none 11580:sidd 115b6:none
   115b8:sidd 115de:none 11600:modi 11645:none 11650:modi 1165a:none 11660:mong 1166d:none
   11680:takr 116ba:none 116c0:takr 116ca:none 116d0:mymr 116e4:none 11700:ahom 1171b:none
   1171d:ahom 1172c:none 11730:ahom 11747:none 11800:dogr 1183c:none 118a0:wara 118f3:none
   118ff:wara 11900:diak 11907:none 11909:diak 1190a:none 1190c:diak 11914:none 11915:diak
   11917:none 11918:diak 11936:none 11937:diak 11939:none 1193b:diak 11947:none 11950:diak
   1195a:none 119a0:nand 119a8:none 119aa:nand 119d8:none 119da:nand 119e5:none 11a00:zanb
   11a48:none 11a50:soyo 11aa3:none 11ab0:cans 11ac0:pauc 11af9:none 11b00:deva 11b0a:none
   11bc0:sunu 11be2:none 11bf0:sunu 11bfa:none 11c00:bhks 11c09:none 11c0a:bhks 11c37:none
   11c38:bhks 11c46:none 11c50:bhks 11c6d:none 11c70:marc 11c90:none 11c92:marc 11ca8:none
   11ca9:marc 11cb7:none 11d00:gonm 11d07:none 11d08:gonm 11d0a:none 11d0b:gonm 11d37:none
   11d3a:gonm 11d3b:none 11d3c:gonm 11d3e:none 11d3f:gonm 11d48:none 11d50:gonm 11d5a:none
   11d60:gong 11d66:none 11d67:gong 11d69:none 11d6a:gong 11d8f:none 11d90:gong 11d92:none
   11d93:gong 11d99:none 11da0:gong 11daa:none 11ee0:maka 11ef9:none 11f00:kawi 11f11:none
   11f12:kawi 11f3b:none 11f3e:kawi 11f5b:none 11fb0:lisu 11fb1:none 11fc0:taml 11ff2:none
   11fff:taml 12000:xsux 1239a:none 12400:xsux 1246f:none 12470:xsux 12475:none 12480:xsux
   12544:none 12f90:cpmn 12ff3:none 13000:egyp 13456:none 13460:egyp 143fb:none 14400:hluw
   14647:none 16100:gukh 1613a:none 16800:bamu 16a39:none 16a40:mroo 16a5f:none 16a60:mroo
   16a6a:none 16a6e:mroo 16a70:tnsa 16abf:none 16ac0:tnsa 16aca:none 16ad0:bass 16aee:none
   16af0:bass 16af6:none 16b00:hmng 16b46:none 16b50:hmng 16b5a:none 16b5b:hmng 16b62:none
   16b63:hmng 16b78:none 16b7d:hmng 16b90:none 16d40:krai 16d7a:none 16e40:medf 16e9b:none
   16f00:plrd 16f4b:none 16f4f:plrd 16f88:none 16f8f:plrd 16fa0:none 16fe0:tang 16fe1:nshu
   16fe2:hani 16fe4:kits 16fe5:none 16ff0:hani 16ff2:none 17000:tang 187f8:none 18800:tang
   18b00:kits 18cd6:none 18cff:kits 18d00:tang 18d09:none 1aff0:kana 1aff4:none 1aff5:kana
   1affc:none 1affd:kana 1afff:none 1b000:kana 1b001:hira 1b120:kana 1b123:none 1b132:hira
   1b133:none 1b150:hira 1b153:none 1b155:kana 1b156:none 1b164:kana 1b168:none 1b170:nshu
   1b2fc:none 1bc00:dupl 1bc6b:none 1bc70:dupl 1bc7d:none 1bc80:dupl 1bc89:none 1bc90:dupl
   1bc9a:none 1bc9c:dupl 1bca0:zyyy 1bca4:none 1cc00:zyyy 1ccfa:none 1cd00:zyyy 1ceb4:none
   1cf00:zinh 1cf2e:none 1cf30:zinh 1cf47:none 1cf50:zyyy 1cfc4:none 1d000:zyyy 1d0f6:none
   1d100:zyyy 1d127:none 1d129:zyyy 1d167:zinh 1d16a:zyyy 1d17b:zinh 1d183:zyyy 1d185:zinh
   1d18c:zyyy 1d1aa:zinh 1d1ae:zyyy 1d1eb:none 1d200:grek 1d246:none 1d2c0:zyyy 1d2d4:none
   1d2e0:zyyy 1d2f4:none 1d300:zyyy 1d357:none 1d360:zyyy 1d379:none 1d400:zyyy 1d455:none
   1d456:zyyy 1d49d:none 1d49e:zyyy 1d4a0:none 1d4a2:zyyy 1d4a3:none 1d4a5:zyyy 1d4a7:none
   1d4a9:zyyy 1d4ad:none 1d4ae:zyyy 1d4ba:none 1d4bb:zyyy 1d4bc:none 1d4bd:zyyy 1d4c4:none
   1d4c5:zyyy 1d506:none 1d507:zyyy 1d50b:none 1d50d:zyyy 1d515:none 1d516:zyyy 1d51d:none
   1d51e:zyyy 1d53a:none 1d53b:zyyy 1d53f:none 1d540:zyyy 1d545:none 1d546:zyyy 1d547:none
   1d54a:zyyy 1d551:none 1d552:zyyy 1d6a6:none 1d6a8:zyyy 1d7cc:none 1d7ce:zyyy 1d800:sgnw
   1da8c:none 1da9b:sgnw 1daa0:none 1daa1:sgnw 1dab0:none 1df00:latn 1df1f:none 1df25:latn
   1df2b:none 1e000:glag 1e007:none 1e008:glag 1e019:none 1e01b:glag 1e022:none 1e023:glag
   1e025:none 1e026:glag 1e02b:none 1e030:cyrl 1e06e:none 1e08f:cyrl 1e090:none 1e100:hmnp
   1e12d:none 1e130:hmnp 1e13e:none 1e140:hmnp 1e14a:none 1e14e:hmnp 1e150:none 1e290:toto
   1e2af:none 1e2c0:wcho 1e2fa:none 1e2ff:wcho 1e300:none 1e4d0:nagm 1e4fa:none 1e5d0:onao
   1e5fb:none 1e5ff:onao 1e600:none 1e7e0:ethi 1e7e7:none 1e7e8:ethi 1e7ec:none 1e7ed:ethi
   1e7ef:none 1e7f0:ethi 1e7ff:none 1e800:mend 1e8c5:none 1e8c7:mend 1e8d7:none 1e900:adlm
   1e94c:none 1e950:adlm 1e95a:none 1e95e:adlm 1e960:none 1ec71:zyyy 1ecb5:none 1ed01:zyyy
   1ed3e:none 1ee00:arab 1ee04:none 1ee05:arab 1ee20:none 1ee21:arab 1ee23:none 1ee24:arab
   1ee25:none 1ee27:arab 1ee28:none 1ee29:arab 1ee33:none 1ee34:arab 1ee38:none 1ee39:arab
   1ee3a:none 1ee3b:arab 1ee3c:none 1ee42:arab 1ee43:none 1ee47:arab 1ee48:none 1ee49:arab
   1ee4a:none 1ee4b:arab 1ee4c:none 1ee4d:arab 1ee50:none 1ee51:arab 1ee53:none 1ee54:arab"

private def scriptRunsFrom1EE55 : String :=
  "1ee55:none 1ee57:arab 1ee58:none 1ee59:arab 1ee5a:none 1ee5b:arab 1ee5c:none 1ee5d:arab
   1ee5e:none 1ee5f:arab 1ee60:none 1ee61:arab 1ee63:none 1ee64:arab 1ee65:none 1ee67:arab
   1ee6b:none 1ee6c:arab 1ee73:none 1ee74:arab 1ee78:none 1ee79:arab 1ee7d:none 1ee7e:arab
   1ee7f:none 1ee80:arab 1ee8a:none 1ee8b:arab 1ee9c:none 1eea1:arab 1eea4:none 1eea5:arab
   1eeaa:none 1eeab:arab 1eebc:none 1eef0:arab 1eef2:none 1f000:zyyy 1f02c:none 1f030:zyyy
   1f094:none 1f0a0:zyyy 1f0af:none 1f0b1:zyyy 1f0c0:none 1f0c1:zyyy 1f0d0:none 1f0d1:zyyy
   1f0f6:none 1f100:zyyy 1f1ae:none 1f1e6:zyyy 1f200:hira 1f201:zyyy 1f203:none 1f210:zyyy
   1f23c:none 1f240:zyyy 1f249:none 1f250:zyyy 1f252:none 1f260:zyyy 1f266:none 1f300:zyyy
   1f6d8:none 1f6dc:zyyy 1f6ed:none 1f6f0:zyyy 1f6fd:none 1f700:zyyy 1f777:none 1f77b:zyyy
   1f7da:none 1f7e0:zyyy 1f7ec:none 1f7f0:zyyy 1f7f1:none 1f800:zyyy 1f80c:none 1f810:zyyy
   1f848:none 1f850:zyyy 1f85a:none 1f860:zyyy 1f888:none 1f890:zyyy 1f8ae:none 1f8b0:zyyy
   1f8bc:none 1f8c0:zyyy 1f8c2:none 1f900:zyyy 1fa54:none 1fa60:zyyy 1fa6e:none 1fa70:zyyy
   1fa7d:none 1fa80:zyyy 1fa8a:none 1fa8f:zyyy 1fac7:none 1face:zyyy 1fadd:none 1fadf:zyyy
   1faea:none 1faf0:zyyy 1faf9:none 1fb00:zyyy 1fb93:none 1fb94:zyyy 1fbfa:none 20000:hani
   2a6e0:none 2a700:hani 2b73a:none 2b740:hani 2b81e:none 2b820:hani 2cea2:none 2ceb0:hani
   2ebe1:none 2ebf0:hani 2ee5e:none 2f800:hani 2fa1e:none 30000:hani 3134b:none 31350:hani
   323b0:none e0001:zyyy e0002:none e0020:zyyy e0080:none e0100:zinh e01f0:none"

/-- Where a run of one script starts, with the short name of the script. -/
def runs : List (Nat × String) :=
  let all := [scriptRunsFrom0, scriptRunsFrom1FD4, scriptRunsFrom110CE, scriptRunsFrom1EE55]
  (all.flatMap words).map fun word =>
    (ofHexDigits (word.takeWhile (· != ':')), String.ofList ((word.dropWhile (· != ':')).drop 1))

/-- The code points from the start of each run of the script to the start of the next run. -/
def rangesOf (short : String) : List (Nat × String) → CodeSet
  | [] => []
  | [run] => if run.2 == short then [⟨run.1, CodeSet.maxCode⟩] else []
  | run :: next :: rest =>
      if run.2 == short then ⟨run.1, next.1 - 1⟩ :: rangesOf short (next :: rest)
      else rangesOf short (next :: rest)

/-- The short name of the script with the given name. -/
def short? (name : String) : Option String :=
  (names.find? (·.contains name)).bind List.head?

/-- The code points of the script with the given name. -/
def codeSet? (name : String) : Option CodeSet :=
  (short? name).map fun short => rangesOf short runs

private def extensionText : String :=
  "b7:avst.cari.copt.dupl.elba.geor.glag.gong.goth.grek.hani.latn b7:lydi.mahj.perm.shaw
   2bc:beng.cyrl.deva.latn.lisu.thai.toto 2c7:bopo.latn 2c9-2cb:bopo.latn 2cd:latn.lisu
   2d7:latn.thai 2d9:bopo.latn 300:cher.copt.cyrl.grek.latn.perm.sunu.tale
   301:cher.cyrl.grek.latn.osge.sunu.tale.todr 302:cher.cyrl.latn.tfng
   303:glag.latn.sunu.syrc.thai 304:aghb.cher.copt.cyrl.goth.grek.latn.osge.syrc.tfng.todr
   305:copt.elba.glag.goth.kana.latn 306:cyrl.grek.latn.perm
   307:copt.dupl.hebr.latn.perm.syrc.tale.tfng.todr
   308:armn.cyrl.dupl.goth.grek.hebr.latn.perm.syrc.tale 309:latn.tfng 30a:dupl.latn.syrc
   30b:cher.cyrl.latn.osge 30c:cher.latn.tale 30d:latn.sunu 30e:ethi.latn 310:latn.sunu
   311:cyrl.latn.todr 313:grek.latn.perm.todr 320:latn.syrc 323:cher.dupl.kana.latn.syrc
   324:cher.dupl.latn.syrc 325:latn.syrc 32d:latn.sunu.syrc 32e:latn.syrc 330:cher.latn.syrc
   331:aghb.cher.goth.latn.sunu.thai 342:grek 345:grek 358:latn.osge 35e:aghb.latn.todr
   363-36f:latn 374-375:copt.grek 483:cyrl.perm 484:cyrl.glag 485-486:cyrl.latn 487:cyrl.glag
   589:armn.geor.glag 60c:arab.gara.nkoo.rohg.syrc.thaa.yezi
   61b:arab.gara.nkoo.rohg.syrc.thaa.yezi 61c:arab.syrc.thaa
   61f:adlm.arab.gara.nkoo.rohg.syrc.thaa.yezi 640:adlm.arab.mand.mani.ougr.phlp.rohg.sogd.syrc
   64b-655:arab.syrc 660-669:arab.thaa.yezi 670:arab.syrc 6d4:arab.rohg
   951:beng.deva.gran.gujr.guru.knda.latn.mlym.orya.shrd.taml.telu 951:tirh
   952:beng.deva.gran.gujr.guru.knda.latn.mlym.orya.taml.telu.tirh
   964:beng.deva.dogr.gong.gonm.gran.gujr.guru.knda.mahj.mlym.nand
   964:onao.orya.sind.sinh.sylo.takr.taml.telu.tirh
   965:beng.deva.dogr.gong.gonm.gran.gujr.gukh.guru.knda.limb.mahj
   965:mlym.nand.onao.orya.sind.sinh.sylo.takr.taml.telu.tirh 966-96f:deva.dogr.kthi.mahj
   9e6-9ef:beng.cakm.sylo a66-a6f:guru.mult ae6-aef:gujr.khoj be6-bf3:gran.taml
   ce6-cef:knda.nand.tutg 1040-1049:cakm.mymr.tale 10fb:geor.glag.latn 16eb-16ed:runr
   1735-1736:buhd.hano.tagb.tglg 1802-1803:mong.phag 1805:mong.phag 1cd0:beng.deva.gran.knda
   1cd1:deva 1cd2:beng.deva.gran.knda 1cd3:deva.gran.knda 1cd4:deva 1cd5-1cd6:beng.deva
   1cd7:deva.shrd 1cd8:beng.deva 1cd9:deva.shrd 1cda:deva.knda.mlym.orya.taml.telu 1cdb:deva
   1cdc-1cdd:deva.shrd 1cde-1cdf:deva 1ce0:deva.shrd 1ce1:beng.deva 1ce2-1ce8:deva 1ce9:deva.nand
   1cea:beng.deva 1ceb-1cec:deva 1ced:beng.deva 1cee-1cf1:deva
   1cf2:beng.deva.gran.knda.mlym.nand.orya.sinh.telu.tirh.tutg 1cf3:deva.gran
   1cf4:deva.gran.knda.tutg 1cf5-1cf6:beng.deva 1cf7:beng 1cf8-1cf9:deva.gran 1cfa:nand
   1dc0-1dc1:grek 1df8:cyrl.latn.syrc 1dfa:syrc 202f:latn.mong.phag 204f:adlm.arab
   205a:cari.geor.glag.hung.lyci.orkh 205d:cari.grek.hung.mero 20f0:deva.gran.latn 2e17:copt.latn
   2e30:avst.orkh 2e31:avst.cari.geor.hung.kthi.lydi.samr 2e3c:dupl 2e41:adlm.arab.hung
   2e43:cyrl.glag 2ff0-2fff:hani.tang 3001:bopo.hang.hani.hira.kana.mong.yiii
   3002:bopo.hang.hani.hira.kana.mong.phag.yiii 3003:bopo.hang.hani.hira.kana 3006:hani
   3008-3009:bopo.hang.hani.hira.kana.mong.tibt.yiii
   300a-300b:bopo.hang.hani.hira.kana.lisu.mong.tibt.yiii 300c-3011:bopo.hang.hani.hira.kana.yiii
   3013:bopo.hang.hani.hira.kana 3014-301b:bopo.hang.hani.hira.kana.yiii
   301c-301f:bopo.hang.hani.hira.kana 302a-302d:bopo.hani 3030:bopo.hang.hani.hira.kana
   3031-3035:hira.kana 3037:bopo.hang.hani.hira.kana 303c-303d:hani.hira.kana 303e-303f:hani
   3099-309c:hira.kana 30a0:hira.kana 30fb:bopo.hang.hani.hira.kana.yiii 30fc:hira.kana
   3190-319f:hani 31c0-31e5:hani 31ef:hani.tang 3220-3247:hani 3280-32b0:hani 32c0-32cb:hani
   32ff:hani 3358-3370:hani 337b-337f:hani 33e0-33fe:hani a66f:cyrl.glag a700-a707:hani.latn
   a830-a832:deva.dogr.gujr.guru.khoj.knda.kthi.mahj.mlym.modi.nand.shrd
   a830-a832:sind.takr.tirh.tutg
   a833-a835:deva.dogr.gujr.guru.khoj.knda.kthi.mahj.modi.nand.shrd.sind a833-a835:takr.tirh.tutg
   a836-a837:deva.dogr.gujr.guru.khoj.kthi.mahj.modi.sind.takr.tirh
   a838:deva.dogr.gujr.guru.khoj.kthi.mahj.modi.shrd.sind.takr.tirh
   a839:deva.dogr.gujr.guru.khoj.kthi.mahj.modi.sind.takr.tirh a8f1:beng.deva.tutg a8f3:deva.taml
   a92e:kali.latn.mymr a9cf:bugi.java fd3e-fd3f:arab.nkoo fdf2:arab.thaa fdfd:arab.thaa
   fe45-fe46:bopo.hang.hani.hira.kana ff61-ff65:bopo.hang.hani.hira.kana.yiii ff70:hira.kana
   ff9e-ff9f:hira.kana 10100-10101:cpmn.cprt.linb 10102:cprt.linb 10107-10133:cprt.lina.linb
   10137-1013f:cprt.linb 102e0-102fb:arab.copt 10af2:mani.ougr 11301:gran.taml 11303:gran.taml
   1133b-1133c:gran.taml 11fd0-11fd1:gran.taml 11fd3:gran.taml 1bca0-1bca3:dupl 1d360-1d371:hani
   1f250-1f251:hani"

/-- The code points whose script extensions are not just their script, with the short names of
their scripts. -/
def extensions : List (CodeSet × List String) :=
  (words extensionText).map fun word =>
    (CodeSet.ofHex (String.ofList (word.takeWhile (· != ':'))),
      (String.ofList ((word.dropWhile (· != ':')).drop 1)).splitOn ".")

/-- The code points that the script with the given name uses. -/
def extendedCodeSet? (name : String) : Option CodeSet :=
  (short? name).map fun short =>
    let listed := (extensions.map Prod.fst).flatten
    let shared := (extensions.filter (·.2.contains short)).map Prod.fst
    (CodeSet.diff (rangesOf short runs) listed).union shared.flatten

end BundleFront.Text.Script
