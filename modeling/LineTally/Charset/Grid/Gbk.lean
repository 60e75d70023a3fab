import LineTally.Charset.Grid.Basic

namespace LineTally.Charset.Grid

/-!
# The extended Chinese table

What GBK and GB 18030 add to GB 2312, apart from the ideographs that are in the order of
their codes.
-/

/-- The signs of GBK that are not in GB 2312, or are other ones there. -/
def gbkRuns : Runs :=
  [ (0xA1A4, "·     —"),
    (0xA2A1, "ⅰⅱⅲⅳⅴⅵⅶⅷⅸⅹ"),
    (0xA6E0, "︵︶︹︺︿﹀︽︾﹁﹂﹃﹄  ︻︼︷︸︱ ︳︴"),
    (0xA840, "ˊˋ˙–―‥‵℅℉↖↗↘↙∕∟∣≒≦≧⊿═║╒╓╔╕╖╗╘╙╚╛╜╝╞╟╠╡╢╣╤╥╦╧╨╩╪╫╬╭╮╯╰╱╲╳▁▂▃▄▅▆▇ █▉▊▋▌▍▎▏▓▔▕▼▽◢◣◤◥☉⊕〒〝"
      ++ "〞"),
    (0xA8BB, "ɑ ńň ɡ"),
    (0xA940, "〡〢〣〤〥〦〧〨〩㊣㎎㎏㎜㎝㎞㎡㏄㏎㏑㏒㏕︰￢￤ ℡㈱ ‐   ー゛゜ヽヾ〆ゝゞ﹉﹊﹋﹌﹍﹎﹏﹐﹑﹒﹔﹕﹖﹗﹙﹚﹛﹜﹝﹞﹟﹠﹡ ﹢﹣﹤﹥﹦﹨﹩﹪﹫"),
    (0xA996, "〇"),
    (0xFD9C, "\uf92c\uf979\uf995\uf9e7\uf9f1"),
    (0xFE40, "\ufa0c\ufa0d\ufa0e\ufa0f\ufa11\ufa13\ufa14\ufa18\ufa1f\ufa20\ufa21\ufa23\ufa24\ufa27"
      ++ "\ufa28\ufa29") ]

/-- The signs of GB 18030 in two bytes that are not in GBK. -/
def gb18030Runs : Runs :=
  [ (0xA2AB, "\ue766\ue767\ue768\ue769\ue76a\ue76b"),
    (0xA2E3, "€\ue76d"),
    (0xA2EF, "\ue76e\ue76f"),
    (0xA2FD, "\ue770\ue771"),
    (0xA4F4, "\ue772\ue773\ue774\ue775\ue776\ue777\ue778\ue779\ue77a\ue77b\ue77c"),
    (0xA5F7, "\ue77d\ue77e\ue77f\ue780\ue781\ue782\ue783\ue784"),
    (0xA6B9, "\ue785\ue786\ue787\ue788\ue789\ue78a\ue78b\ue78c"),
    (0xA6D9, "\ue78d\ue78e\ue78f\ue790\ue791\ue792\ue793"),
    (0xA6EC, "\ue794\ue795     \ue796  \ue797\ue798\ue799\ue79a\ue79b\ue79c\ue79d\ue79e\ue79f"),
    (0xA7C2, "\ue7a0\ue7a1\ue7a2\ue7a3\ue7a4\ue7a5\ue7a6\ue7a7\ue7a8\ue7a9\ue7aa\ue7ab\ue7ac\ue7ad"
      ++ "\ue7ae"),
    (0xA7F2, "\ue7af\ue7b0\ue7b1\ue7b2\ue7b3\ue7b4\ue7b5\ue7b6\ue7b7\ue7b8\ue7b9\ue7ba\ue7bb"),
    (0xA896, "\ue7bc\ue7bd\ue7be\ue7bf\ue7c0\ue7c1\ue7c2\ue7c3\ue7c4\ue7c5\ue7c6"),
    (0xA8BC, "\ue7c7  ǹ \ue7c9\ue7ca\ue7cb\ue7cc"),
    (0xA8EA, "\ue7cd\ue7ce\ue7cf\ue7d0\ue7d1\ue7d2\ue7d3\ue7d4\ue7d5\ue7d6\ue7d7\ue7d8\ue7d9\ue7da"
      ++ "\ue7db\ue7dc\ue7dd\ue7de\ue7df\ue7e0\ue7e1"),
    (0xA958, "\ue7e2  \ue7e3 \ue7e4\ue7e5\ue7e6"),
    (0xA989, "〾\u2ff0\u2ff1\u2ff2\u2ff3\u2ff4\u2ff5\u2ff6\u2ff7\u2ff8\u2ff9\u2ffa\u2ffb \ue7f4"
      ++ "\ue7f5\ue7f6\ue7f7\ue7f8\ue7f9\ue7fa\ue7fb\ue7fc\ue7fd\ue7fe\ue7ff\ue800"),
    (0xA9F0, "\ue801\ue802\ue803\ue804\ue805\ue806\ue807\ue808\ue809\ue80a\ue80b\ue80c\ue80d\ue80e"
      ++ "\ue80f"),
    (0xD7FA, "\ue810\ue811\ue812\ue813\ue814"),
    (0xFE50, "\u2e81\ue816\ue817\ue818\u2e84㑳㑇\u2e88\u2e8b\ue81e㖞㘚㘎\u2e8c\u2e97㥮㤘\ue826㧏㧟㩳㧐\ue82b"
      ++ "\ue82c㭎㱮㳠\u2ea7\ue831\ue832\u2eaa䁖䅟\u2eae䌷\u2eb3\u2eb6\u2eb7\ue83b䎱䎬\u2ebb䏝䓖䙡䙌\ue843 䜣䜩䝼"
      ++ "䞍\u2eca䥇䥺䥽䦂䦃䦅䦆䦟䦛䦷䦶\ue854\ue855䲣䲟䲠䲡䱷䲢䴓䴔䴕䴖䴗䴘䴙䶮\ue864") ]

end LineTally.Charset.Grid
