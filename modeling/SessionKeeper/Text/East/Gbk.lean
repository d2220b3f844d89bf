/-!
# Additions to the Chinese chart

* `gbkRuns`, `gb18030Runs` : signs outside the chart.
* `gb18030Steps` : characters in four octets.
-/

namespace SessionKeeper.Text.East

/-- The signs that the extended set adds, each run from the place of its two octets on. -/
def gbkRuns : List (Nat × String) := [
  (0xA1A4, "·"),
  (0xA1AA, "—"),
  (0xA2A1, "ⅰⅱⅲⅳⅴⅵⅶⅷⅸⅹ"),
  (0xA6E0, "︵︶︹︺︿﹀︽︾﹁﹂﹃﹄"),
  (0xA6EE, "︻︼︷︸︱"),
  (0xA6F4, "︳︴"),
  (0xA840, "ˊˋ˙–―‥‵℅℉↖↗↘↙∕∟∣≒≦≧⊿═║╒╓╔╕╖╗╘╙╚╛╜╝╞╟╠╡╢╣╤╥╦╧╨╩╪╫╬╭╮╯╰╱╲╳▁▂▃▄▅▆▇"),
  (0xA880, "█▉▊▋▌▍▎▏▓▔▕▼▽◢◣◤◥☉⊕〒〝〞"),
  (0xA8BB, "ɑ"),
  (0xA8BD, "ńň"),
  (0xA8C0, "ɡ"),
  (0xA940, "〡〢〣〤〥〦〧〨〩㊣㎎㎏㎜㎝㎞㎡㏄㏎㏑㏒㏕︰￢￤"),
  (0xA959, "℡㈱"),
  (0xA95C, "‐"),
  (0xA960, "ー゛゜ヽヾ〆ゝゞ﹉﹊﹋﹌﹍﹎﹏﹐﹑﹒﹔﹕﹖﹗﹙﹚﹛﹜﹝﹞﹟﹠﹡"),
  (0xA980, "﹢﹣﹤﹥﹦﹨﹩﹪﹫"),
  (0xA996, "〇"),
  (0xFD9C, "郎凉秊裏隣"),
  (0xFE40, "兀嗀﨎﨏﨑﨓﨔礼﨟蘒﨡﨣﨤﨧﨨﨩")]

/-- The places that the full set adds or has other characters in. -/
def gb18030Runs : List (Nat × String) := [
  (0xA2AB, "\ue766\ue767\ue768\ue769\ue76a\ue76b"),
  (0xA2E3, "€\ue76d"),
  (0xA2EF, "\ue76e\ue76f"),
  (0xA2FD, "\ue770\ue771"),
  (0xA4F4, "\ue772\ue773\ue774\ue775\ue776\ue777\ue778\ue779\ue77a\ue77b\ue77c"),
  (0xA5F7, "\ue77d\ue77e\ue77f\ue780\ue781\ue782\ue783\ue784"),
  (0xA6B9, "\ue785\ue786\ue787\ue788\ue789\ue78a\ue78b\ue78c"),
  (0xA6D9, "\ue78d\ue78e\ue78f\ue790\ue791\ue792\ue793"),
  (0xA6EC, "\ue794\ue795"),
  (0xA6F3, "\ue796"),
  (0xA6F6, "\ue797\ue798\ue799\ue79a\ue79b\ue79c\ue79d\ue79e\ue79f"),
  (0xA7C2, "\ue7a0\ue7a1\ue7a2\ue7a3\ue7a4\ue7a5\ue7a6\ue7a7\ue7a8\ue7a9\ue7aa\ue7ab\ue7ac\ue7ad" ++
    "\ue7ae"),
  (0xA7F2, "\ue7af\ue7b0\ue7b1\ue7b2\ue7b3\ue7b4\ue7b5\ue7b6\ue7b7\ue7b8\ue7b9\ue7ba\ue7bb"),
  (0xA896, "\ue7bc\ue7bd\ue7be\ue7bf\ue7c0\ue7c1\ue7c2\ue7c3\ue7c4\ue7c5\ue7c6"),
  (0xA8BC, "\ue7c7"),
  (0xA8BF, "ǹ"),
  (0xA8C1, "\ue7c9\ue7ca\ue7cb\ue7cc"),
  (0xA8EA, "\ue7cd\ue7ce\ue7cf\ue7d0\ue7d1\ue7d2\ue7d3\ue7d4\ue7d5\ue7d6\ue7d7\ue7d8\ue7d9\ue7da" ++
    "\ue7db\ue7dc\ue7dd\ue7de\ue7df\ue7e0\ue7e1"),
  (0xA958, "\ue7e2"),
  (0xA95B, "\ue7e3"),
  (0xA95D, "\ue7e4\ue7e5\ue7e6"),
  (0xA989, "〾⿰⿱⿲⿳⿴⿵⿶⿷⿸⿹⿺⿻"),
  (0xA997, "\ue7f4\ue7f5\ue7f6\ue7f7\ue7f8\ue7f9\ue7fa\ue7fb\ue7fc\ue7fd\ue7fe\ue7ff\ue800"),
  (0xA9F0, "\ue801\ue802\ue803\ue804\ue805\ue806\ue807\ue808\ue809\ue80a\ue80b\ue80c\ue80d\ue80e" ++
    "\ue80f"),
  (0xD7FA, "\ue810\ue811\ue812\ue813\ue814"),
  (0xFE50, "⺁\ue816\ue817\ue818⺄㑳㑇⺈⺋\ue81e㖞㘚㘎⺌⺗㥮㤘\ue826㧏㧟㩳㧐\ue82b\ue82c㭎㱮㳠⺧\ue831\ue832⺪䁖䅟⺮䌷⺳⺶⺷" ++
    "\ue83b䎱䎬⺻䏝䓖䙡䙌\ue843"),
  (0xFE80, "䜣䜩䝼䞍⻊䥇䥺䥽䦂䦃䦅䦆䦟䦛䦷䦶\ue854\ue855䲣䲟䲠䲡䱷䲢䴓䴔䴕䴖䴗䴘䴙䶮\ue864")]

/-- Four octets count up over the characters that have no place of two octets: from each number on, the
number and the character that it means. -/
def gb18030Steps : List (Nat × Nat) := [
  (0, 128), (36, 165), (38, 169), (45, 178), (50, 184), (81, 216), (89, 226), (95, 235), (96, 238),
  (100, 244), (103, 248), (104, 251), (105, 253), (109, 258), (126, 276), (133, 284), (148, 300),
  (172, 325), (175, 329), (179, 334), (208, 364), (306, 463), (307, 465), (308, 467), (309, 469),
  (310, 471), (311, 473), (312, 475), (313, 477), (341, 506), (428, 594), (443, 610), (544, 712),
  (545, 716), (558, 730), (741, 930), (742, 938), (749, 962), (750, 970), (805, 1026), (819, 1104),
  (820, 1106), (7922, 8209), (7924, 8215), (7925, 8218), (7927, 8222), (7934, 8231), (7943, 8241),
  (7944, 8244), (7945, 8246), (7950, 8252), (8062, 8365), (8148, 8452), (8149, 8454), (8152, 8458),
  (8164, 8471), (8174, 8482), (8236, 8556), (8240, 8570), (8262, 8596), (8264, 8602), (8374, 8713),
  (8380, 8720), (8381, 8722), (8384, 8726), (8388, 8731), (8390, 8737), (8392, 8740), (8393, 8742),
  (8394, 8748), (8396, 8751), (8401, 8760), (8406, 8766), (8416, 8777), (8419, 8781), (8424, 8787),
  (8437, 8802), (8439, 8808), (8445, 8816), (8482, 8854), (8485, 8858), (8496, 8870), (8521, 8896),
  (8603, 8979), (8936, 9322), (8946, 9372), (9046, 9548), (9050, 9588), (9063, 9616), (9066, 9622),
  (9076, 9634), (9092, 9652), (9100, 9662), (9108, 9672), (9111, 9676), (9113, 9680), (9131, 9702),
  (9162, 9735), (9164, 9738), (9218, 9793), (9219, 9795), (11329, 11906), (11331, 11909),
  (11334, 11913), (11336, 11917), (11346, 11928), (11361, 11944), (11363, 11947), (11366, 11951),
  (11370, 11956), (11372, 11960), (11375, 11964), (11389, 11979), (11682, 12284), (11686, 12292),
  (11687, 12312), (11692, 12319), (11694, 12330), (11714, 12351), (11716, 12436), (11723, 12447),
  (11725, 12535), (11730, 12543), (11736, 12586), (11982, 12842), (11989, 12850), (12102, 12964),
  (12336, 13200), (12348, 13215), (12350, 13218), (12384, 13253), (12393, 13263), (12395, 13267),
  (12397, 13270), (12510, 13384), (12553, 13428), (12851, 13727), (12962, 13839), (12973, 13851),
  (13738, 14617), (13823, 14703), (13919, 14801), (13933, 14816), (14080, 14964), (14298, 15183),
  (14585, 15471), (14698, 15585), (15583, 16471), (15847, 16736), (16318, 17208), (16434, 17325),
  (16438, 17330), (16481, 17374), (16729, 17623), (17102, 17997), (17122, 18018), (17315, 18212),
  (17320, 18218), (17402, 18301), (17418, 18318), (17859, 18760), (17909, 18811), (17911, 18814),
  (17915, 18820), (17916, 18823), (17936, 18844), (17939, 18848), (17961, 18872), (18664, 19576),
  (18703, 19620), (18814, 19738), (18962, 19887), (19043, 40870), (33469, 59244), (33470, 59336),
  (33471, 59367), (33484, 59413), (33485, 59417), (33490, 59423), (33497, 59431), (33501, 59437),
  (33505, 59443), (33513, 59452), (33520, 59460), (33536, 59478), (33550, 59493), (37845, 63789),
  (37921, 63866), (37948, 63894), (38029, 63976), (38038, 63986), (38064, 64016), (38065, 64018),
  (38066, 64021), (38069, 64025), (38075, 64034), (38076, 64037), (38078, 64042), (39108, 65074),
  (39109, 65093), (39113, 65107), (39114, 65112), (39115, 65127), (39116, 65132), (39265, 65375),
  (39394, 65510)]

end SessionKeeper.Text.East
