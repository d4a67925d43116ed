import SearchBridge.Bytes.Grid.Basic
/-!
The Hong Kong supplementary character set, by octets.
-/

namespace SearchBridge

namespace Grid

/-- What the supplementary character set adds to Big5 and changes in it. -/
def hongKong : Grid where
  rows := [
    ⟨0x87, 0x40, "䏰䰲䘃䖦䕸𧉧䵷䖳𧲱䳢𧳅㮕䜶䝄䱇䱀𤊿𣘗𧍒𦺋𧃒䱗𪍑䝏䗚䲅𧱬䴇䪤䚡𦬣爥𥩔𡩣𣸆𣽡晍囻 綕夝𨮹㷴霴𧯯寛𡵞"⟩,
    ⟨0x87, 0x6F, "媤㘥𩺰嫑宷峼杮薓𩥅瑡璝"⟩,
    ⟨0x88, 0x40, "㇀㇁㇂㇃㇄𠄌㇅𠃑𠃍㇆㇇𠃋𡿨㇈𠃊㇉㇊㇋㇌𠄎㇍㇎ĀÁǍÀĒÉĚÈŌÓǑÒ Ế ỀÊāáǎàɑēéě"⟩,
    ⟨0x88, 0x6F, "èīíǐìōóǒòūúǔùǖǘǚ"⟩,
    ⟨0x88, 0xA1, "ǜü ế ềêɡ⏚⏛"⟩,
    ⟨0x89, 0x40, "𪎩𡅅 攊  丽滝鵎釟  𧜵撑会伨侨兖兴农凤务动医华发变团声处备夲头学实実岚庆总斉柾栄桥济炼电纤"⟩,
    ⟨0x89, 0x6F, "纬纺织经统缆缷艺苏药视设询车轧轮"⟩,
    ⟨0x89, 0xA1, "琑糼緍楆竉刧"⟩,
    ⟨0x89, 0xAB, "醌碸酞肼 贋胶𠧧  肟黇䳍鷉鸌䰾𩷶𧀎鸊𪄳㗁 溚舾甙 䤑马骏龙禇𨑬𡷊𠗐𢫦两亁亀亇亿仫伷㑌侽㹈倃傈"⟩,
    ⟨0x89, 0xDA, "㑽㒓㒥円夅凛凼刅争剹劐匧㗇厩㕑厰㕓参吣㕭㕲㚁咓咣咴咹哐哯唘唣唨㖘唿㖥㖿嗗㗅"⟩,
    ⟨0x8A, 0x40, "𧶄唥 𠱂𠴕𥄫喐𢳆㧬𠍁蹆𤶸𩓥䁓𨂾睺𢰸㨴䟕𨅝𦧲𤷪擝𠵼𠾴𠳕𡃴撍蹾𠺖𠰋𠽤𢲩𨉖𤓓 𠵆𩩍𨃩䟴𤺧𢳂骲㩧𩗴㿭㔆"⟩,
    ⟨0x8A, 0x6F, "𥋇𩟔𧣈𢵄鵮頕 䏙𦂥撴哣𢵌𢯊𡁷㧻𡁯"⟩,
    ⟨0x8A, 0xA1, "𦛚𦜖𧦠擪𥁒𠱃蹨𢆡𨭌𠜱 䠋𠆩㿺塳𢶍 𤗈𠓼𦂗𠽌𠶖啹䂻䎺 䪴𢩦𡂝膪飵𠶜捹㧾𢝵跀嚡摼㹃 𪘁𠸉𢫏𢳉 𡃈𣧂"⟩,
    ⟨0x8A, 0xD0, "㦒㨆𨊛㕸𥹉𢃇噒𠼱𢲲𩜠㒼氽𤸻  𧕴𢺋𢈈𪙛𨳍𠹺𠰴𦠜羓𡃏𢠃𢤹㗻𥇣𠺌𠾍𠺪㾓𠼰𠵇𡅏𠹌 𠺫𠮩𠵈𡃀𡄽㿹𢚖搲𠾭"⟩,
    ⟨0x8B, 0x40, "𣏴𧘹𢯎𠵾𠵿𢱑𢱕㨘𠺘𡃇𠼮𪘲𦭐𨳒𨶙𨳊閪哌苄喹 𩻃鰦骶𧝞𢷮煀腭胬尜𦕲脴㞗卟𨂽醶𠻺𠸏𠹷𠻻㗝𤷫㘉𠳖嚯𢞵𡃉"⟩,
    ⟨0x8B, 0x6F, "𠸐𠹸𡁸𡅈𨈇𡑕𠹹𤹐𢶤婔𡀝𡀞𡃵𡃶垜𠸑"⟩,
    ⟨0x8B, 0xA1, "𧚔𨋍𠾵𠹻𥅾㜃𠾶𡆀𥋘𪊽𤧚𡠺𤅷𨉼墙剨㘚𥜽箲孨䠀䬬鼧䧧鰟鮍𥭴𣄽嗻㗲嚉丨夂𡯁屮靑𠂆乛亻㔾尣彑忄㣺扌攵歺"⟩,
    ⟨0x8B, 0xD0, "氵氺灬爫丬犭𤣩罒礻糹罓𦉪㓁 𦍋耂肀𦘒𦥑卝衤见𧢲讠贝钅镸长门𨸏韦页风飞饣𩠐鱼鸟黄歯\uf907丷𠂇阝户钢"⟩,
    ⟨0x8C, 0x40, "倻淾𩱳龦㷉袏𤅎灷峵䬠𥇍㕙𥴰愢𨨲辧釶熑朙玺𣊁𪄇㲋𡦀䬐磤琂冮𨜏䀉橣𪊺䈣蘏𠩯稪𩥇𨫪靕灍匤𢁾鏴盙𨧣龧矝"⟩,
    ⟨0x8C, 0x6F, "亣俰傼丯众龨吴綋墒壐𡶶庒庙忂𢜒斋"⟩,
    ⟨0x8C, 0xA1, "𣏹椙橃𣱣泿 爀𤔅玌㻛𤨓嬕璹讃𥲤𥚕窓篬糃繬苸薗龩袐龪躹龫迏蕟駠鈡龬𨶹𡐿䁱䊢娚   顨杫䉶圽 藖𤥻"⟩,
    ⟨0x8C, 0xD0, "芿𧄍䲁𦵴嵻𦬕𦾾龭龮宖龯曧繛湗秊㶈䓃𣉖𢞖䎚䔶 峕𣬚諹屸㴒𣕑嵸龲煗䕘𤃬𡸣䱷㥸㑊𠆤𦱁諌侴𠈹妿腬顖𩣺弻"⟩,
    ⟨0x8D, 0x40, "𠮟 𢇁𨥭䄂䚻𩁹㼇龳𪆵䃸㟖䛷𦱆䅼𨚲𧏿䕭㣔𥒚䕡䔛䶉䱻䵶䗪㿈𤬏㙡䓞䒽䇭崾嵈嵖㷼㠏嶤嶹㠠㠸幂庽弥徃㤈㤔"⟩,
    ⟨0x8D, 0x6F, "㤿㥍惗愽峥㦉憷憹懏㦸戬抐拥挘㧸嚱"⟩,
    ⟨0x8D, 0xA1, "㨃揢揻搇摚㩋擀崕嘡龟㪗斆㪽旿晓㫲暒㬢朖㭂枤栀㭘桊梄㭲㭱㭻椉楃牜楤榟榅㮼槖㯝橥橴橱檂㯬檙㯲檫檵櫔"⟩,
    ⟨0x8D, 0xD0, "櫶殁毁毪汵沪㳋洂洆洦涁㳯涤涱渕渘温溆𨧀溻滢滚齿滨滩漤漴㵆𣽁澁澾㵪㵵熷岙㶊瀬㶑灐灔灯灿炉𠌥䏁㗱𠻘"⟩,
    ⟨0x8E, 0x40, "𣻗垾𦻓焾𥟠㙎榢𨯩孴穉𥣡𩓙穥穽𥦬窻窰竂竃燑𦒍䇊竚竝竪䇯咲𥰁笋筕笩𥌎𥳾箢筯莜𥮴𦱿篐萡箒 𥴠㶭𥱥蒒篺"⟩,
    ⟨0x8E, 0x70, "簵𥳁籄粃𤢂粦晽𤕸糉糇糦籴糳糵"⟩,
    ⟨0x8E, 0xA1, "繧䔝𦹄絝𦻖璍綉綫焵綳 𤁗𦀩緤㴓緵𡟹緥𨍭 𦄡𦅚繮纒䌫鑬縧罀罁罇礶𦋐駡羗𦍑羣𡙡𠁨䕜𣝦䔃𨌺翺𦒉 耈耝"⟩,
    ⟨0x8E, 0xD1, "耯𪂇𦳃耻耼聡𢜔䦉𦘦𣷣𦛨朥肧𨩈脇脚墰𢛶汿𦒘𤾸擧𡒊舘𡡞橓𤩥𤪕䑺舩𠬍𦩒𣵾俹𡓽蓢荢𦬊𤦧𣔰𡝳𣷸芪椛芳䇛"⟩,
    ⟨0x8F, 0x40, "蕋苐茚𠸖𡞴㛁𣅽𣕚艻苢茘𣺋𦶣𦬅𦮗𣗎㶿茝嗬莅䔋𦶥莬 菓㑾𦻔橗蕚㒖𦹂𢻯葘𥯤葱㷓䓤檧葊𣲵祘 𦮖𦹷𦹃蓞"⟩,
    ⟨0x8F, 0x6F, "莑䒠蒓蓤𥲑䉀𥳀䕃蔴嫲𦺙䔧蕳䔖枿蘖"⟩,
    ⟨0x8F, 0xA1, "𨘥𨘻藁𧂈蘂𡖂𧃍䕫䕪蘨㙈𡢢号𧎚虾蝱𪃸蟮𢰧螱蟚蠏噡虬桖䘏衅衆𧗠𣶹𧗤衞袜䙛袴袵揁装睷𧜏覇覊  覧覼𨨥"⟩,
    ⟨0x8F, 0xD0, "觧𧤤𧪽誜瞓釾誐𧩙竩𧬺𣾏䜓𧬸煼謌謟𥐰𥕥謿譌譍誩𤩺讐讛誯𡛟䘕衏貛𧵔𧶏貫㜥𧵓賖𧶘𧶽贒贃𡤐賛灜贑𤳉㻐"⟩,
    ⟨0x90, 0x40, "趩𨀂𡀔𤦊㭼𨆼𧄌竧躭躶軃鋔輙輭𨍥𨐒辥錃𪊟𠩐辳䤪𨧞𨔽𣶻廸𣉢迹𪀔𨚼𨔁𢌥㦀𦻗逷𨔼𧪾遡𨕬𨘋邨𨜓郄𨛦邮 酧"⟩,
    ⟨0x90, 0x6F, "㫰醩釄粬𨤳𡺉鈎沟鉁鉢𥖹 𨫆𣲛𨬌𥗛"⟩,
    ⟨0x90, 0xA1, "𠴱錬鍫𨫡𨯫炏嫃𨫢𨫥䥥鉄𨯬𨰹𨯿鍳鑛躼閅閦鐦閠濶䊹𢙺𨛘𡉼𣸮䧟氜陻隖䅬隣𦻕懚隶磵𨫠隽双䦡𦲸𠉴𦐐𩂯𩃥𤫑"⟩,
    ⟨0x90, 0xD0, "𡤕𣌊霱虂霶䨏䔽䖅𤫩灵孁霛 𩇕靗孊𩇫靟鐥僐𣂷𣂼鞉鞟鞱鞾韀韒韠𥑬韮琜𩐳 韵𩐝𧥺䫑頴頳顋顦㬎𧅵㵑𠘰𤅜"⟩,
    ⟨0x91, 0x40, "𥜆飊颷飈飇䫿𦴧𡛓喰飡飦飬鍸餹𤨩䭲𩡗𩤅駵騌騻騐驘𥜥㛄𩂱𩯕髠髢𩬅髴䰎鬔鬭𨘀倴鬴𦦨㣃𣁽魐魀𩴾婅𡡣鮎𤉋"⟩,
    ⟨0x91, 0x6F, "鰂鯿鰌𩹨鷔𩾷𪆒𪆫𪃡𪄣𪇟鵾鶃𪄴鸎梈"⟩,
    ⟨0x91, 0xA1, "鷄𢅛𪆓𪈠𡤻𪈳鴹𪂹𪊴麐麕麞麢䴴麪麯𤍤黁㭠㧥㴝伲㞾𨰫鼂鼈䮖鐤𦶢鼗 鼹嚟嚊齅馸𩂋韲葿齢齩竜龎爖䮾𤥵𤦻"⟩,
    ⟨0x91, 0xD0, "煷𤧸𤍈𤩑玞𨯚𡣺禟𨥾𨸶鍩鏳𨩄鋬鎁鏋𨥬𤒹爗㻫睲穃烐𤑳𤏸煾𡟯炣𡢾𣖙㻇𡢅𥐯𡟸㜢𡛻𡠹㛡𡝴𡣑𥽋㜣𡛀坛𤨥𡏾𡊨"⟩,
    ⟨0x92, 0x40, "𡏆𡒶蔃𣚦 葕𤦔𧅥𣸱𥕜𣻻𧁒䓴𣛮𩦝𦼦柹㜳㰕㷧塬𡤢栐䁗𣜿𤃡𤂋𤄏𦰡哋嚞𦚱嚒𠿟𠮨𠸍鏆𨬓鎜仸儫㠙𤐶亼𠑥𠍿佋"⟩,
    ⟨0x92, 0x6F, "侊𥙑婨𠆫𠏋㦙𠌊𠐔㐵伩𠋀𨺳𠉵諚𠈌亘"⟩,
    ⟨0x92, 0xA1, "働儍侢伃𤨎𣺊佂倮偬傁俌俥偘僼"⟩,
    ⟨0x92, 0xB3, "湶𣖕𣸹𣺿浲𡢄𣺉冨凃𠗠䓝𠒣𠒒𠒑赺𨪜𠜎剙劤𠡳勡 䙺熌𤎌𠰠𤦬𡃤槑𠸝 㻞璙琔瑖玘䮎𤪼𤂍叐㖄爏𤃉喴𠍅响𠯆"⟩,
    ⟨0x92, 0xE2, "圝鉝雴鍦埝垍坿㘾壋媙𨩆𡛺𡝯𡜐娬妸銏婾嫏娒𥥆𡧳𡡡𤊕㛵洅瑃娡𥺃"⟩,
    ⟨0x93, 0x40, "媁𨯗𠐓鏠璌𡌃焅䥲鐈𨧻鎽㞠尞岞幞幈𡦖𡥼𣫮廍孏𡤃𡤄㜁𡢠㛝𡛾㛓脪𨩇𡶺𣑲𨦨弌弎𡤧𡞫婫𡜻孄蘔𧗽衠恾𢡠𢘫忛"⟩,
    ⟨0x93, 0x6F, "㺸𢖯𢖾𩂈𦽳懀𠀾𠁆𢘛憙憘恵𢲛𢴇𤛔𩅍"⟩,
    ⟨0x93, 0xA1, "摱𤙥𢭪㨩𢬢𣑐𩣪𢹸挷𪑛撶挱揑𤧣𢵧护𢲡搻敫楲㯴𣂎𣊭𤦉𣊫唍𣋠𡣙𩐿曎𣊉𣆳㫠䆐𥖄𨬢𥖏𡛼𥕛𥐥磮𣄃𡠪𣈴㑤𣈏𣆂"⟩,
    ⟨0x93, 0xD0, "𤋉暎𦴤晫䮓昰𧡰𡷫晣𣋒𣋡昞𥡲㣑𣠺𣞼㮙𣞢𣏾瓐㮖枏𤘪梶栞㯄檾㡣𣟕𤒇樳橒櫉欅𡤒攑梘橌㯗橺歗𣿀𣲚鎠鋲𨯪𨫋"⟩,
    ⟨0x94, 0x40, "銉𨀞𨧜鑧涥漋𤧬 𣽿㶏渄𤀼娽渊塇洤硂焻𤌚𤉶烱牐犇犔𤞏𤜥兹𤪤𠗫瑺𣻸𣙟𤩊𤤗𥿡㼆㺱𤫟𨰣𣼵悧㻳瓌琼鎇琷䒟"⟩,
    ⟨0x94, 0x6F, "𦷪䕑疃㽣𤳙𤴆㽘畕癳𪗆㬙瑨𨫌𤦫𤦎㫻"⟩,
    ⟨0x94, 0xA1, "㷍𤩎㻿𤧅𤣳釺圲鍂𨫣𡡤僟𥈡𥇧睸𣈲眎眏睻𤚗𣞁㩞𤣰琸璛㺿𤪺𤫇䃈𤪖𦆮錇𥖁砞碍碈磒珐祙𧝁𥛣䄎 蒖禥樭𣻺稺"⟩,
    ⟨0x94, 0xD0, "秴䅮𡛦䄲鈵秱𠵌𤦌𠊙𣶺𡝮㖗啫㕰㚪𠇔𠰍竢婙𢛵𥪯𥪜娍𠉛磰娪𥯆竾䇹籝籭䈑𥮳𥺼𥺦糍𤧹𡞰粎籼粮檲緜縇緓罎𦉡"⟩,
    ⟨0x95, 0x40, "𦅜𧭈綗𥺂䉪𦭵𠤖柖𠁎𣗏埄𦐒𦏸𤥢翝笧𠠬𥫩𥵃笌𥸎駦虅驣樜𣐿㧢𤧷𦖭騟𦖠蒀𧄧𦳑䓪脷䐂胆脉腂𦞴飃𦩂艢艥𦩑葓"⟩,
    ⟨0x95, 0x6F, "𦶧蘐𧈛媆䅿𡡀嬫𡢡嫤𡣘蚠蜨𣶏蠭𧐢娂"⟩,
    ⟨0x95, 0xA1, "衮佅袇袿裦襥襍𥚃襔𧞅𧞄𨯵𨯙𨮜𨧹㺭蒣䛵䛏㟲訽訜𩑈彍鈫𤊄旔焩烄𡡅鵭貟賩𧷜妚矃姰䍮㛔踪躧𤰉輰轊䋴汘澻"⟩,
    ⟨0x95, 0xD0, "𢌡䢛潹溋𡟚鯩㚵𤤯邻 啱䤆醻鐄𨩋䁢𨫼鐧𨰝𨰻蓥訫閙閧閗閖𨴴瑅㻂𤣿𤩂𤏪㻧𣈥随𨻧𨹦𨹥㻌𤧭𤩸𣿮琒瑫㻼靁𩂰"⟩,
    ⟨0x96, 0x40, "桇䨝𩂓𥟟 鍨𨦉𨰦𨬯𦎾銺嬑譩䤼珹𤈛鞛靱餸𠼦巁𨯅𤪲頟𩓚鋶𩗗釥䓀𨭐𤩧𨭤飜𨩅㼀鈪䤥萔餻饍𧬆㷽馛䭯馪驜𨭥"⟩,
    ⟨0x96, 0x6F, "𥣈檏騡嫾騯𩣱䮐𩥈馼䮽䮗鍽塲𡌂堢𤦸"⟩,
    ⟨0x96, 0xA1, "𡓨硄𢜟𣶸棅㵽鑘㤧慐𢞁𢥫愇鱏鱓鱻鰵鰐魿鯏𩸭鮟𪇵𪃾鴡䲮𤄄鸘䲰鴌𪆴𪃭𪃳𩤯鶥蒽𦸒𦿟𦮂藼䔳𦶤𦺄𦷰萠藮𦸀𣟗"⟩,
    ⟨0x96, 0xD0, "𦁤秢𣖜𣙀䤭𤧞㵢鏛銾鍈𠊿碹鉷鑍俤㑀遤𥕝砽硔碶硋𡝗𣇉𤥁㚚佲濚濙 瀞吔𤆵垻壳垊鴖埗焴㒯𤆬燫𦱀𤾗 𡞵𨩉"⟩,
    ⟨0x97, 0x40, "愌嫎娋䊼𤒈㜬䭻𨧼鎻鎸𡣖𠼝葲𦳀𡐓𤋺𢰦𤏁妔𣶷𦝁綨𦅛𦂤𤦹𤦋𨧺鋥珢㻩璴𨭣𡢟㻡𤪳櫘珳珻㻖𤨾𤪔𡟙𤩦𠎧𡐤𤧥瑈"⟩,
    ⟨0x97, 0x6F, "𤤖炥𤥶銄珦鍟𠓾錱𨫎𨨖鎆𨯧𥗕䤵𨪂煫"⟩,
    ⟨0x97, 0xA1, "𤥃𠳿嚤𠘚𠯫𠲸唂秄𡟺緾𡛂𤩐𡡒䔮鐁㜊𨫀𤦭妰𡢿𡢃𧒄媡㛢𣵛㚰鉟婹𨪁𡡢鍴㳍𠪴䪖㦊僴㵩㵌𡎜煵䋻𨈘渏𩃤䓫浗𧹏"⟩,
    ⟨0x97, 0xD0, "灧沯㳖𣿭𣸭渂漌㵯𠏵畑㚼㓈䚀㻚䡱姄鉮䤾轁𨰜𦯀堒埈㛖𡑒烾𤍢𤩱𢿣𡊰𢎽梹楧𡎘𣓥𧯴𣛟𨪃𣟖𣏺𤲟樚𣚭𦲷萾䓟䓎"⟩,
    ⟨0x98, 0x40, "𦴦𦵑𦲂𦿞漗𧄉茽𡜺菭𦲀𧁓𡟛妉媂𡞳婡婱𡤅𤇼㜭姯𡜼㛇熎鎐暚𤊥婮娫𤊓樫𣻹𧜶𤑛𤋊焝𤉙𨧡侰𦴨峂𤓎𧹍𤎽樌𤉖𡌄"⟩,
    ⟨0x98, 0x6F, "炦焳𤏩㶥泟勇𤩏繥姫崯㷳彜𤩝𡟟綤萦"⟩,
    ⟨0x98, 0xA1, "咅𣫺𣌀𠈔坾𠣕𠘙㿥𡾞𪊶瀃𩅛嵰玏糓𨩙𩐠俈翧狍猐𧫴猸猹𥛶獁獈㺩𧬘遬燵𤣲珡臶㻊県㻑沢国琙琞琟㻢㻰㻴㻺瓓"⟩,
    ⟨0x98, 0xD0, "㼎㽓畂畭畲疍㽼痈痜㿀癍㿗癴㿜発𤽜熈嘣覀塩䀝睃䀹条䁅㗛瞘䁪䁯属瞾矋売砘点砜䂨砹硇硑硦葈𥔵礳栃礲䄃"⟩,
    ⟨0x99, 0x40, "䄉禑禙辻稆込䅧窑䆲窼艹䇄竏竛䇏両筢筬筻簒簛䉠䉺类粜䊌粸䊔糭输烀𠳏総緔緐緽羮羴犟䎗耠耥笹耮耱联㷌"⟩,
    ⟨0x99, 0x6F, "垴炠肷胩䏭脌猪脎脒畠脔䐁㬹腖腙腚"⟩,
    ⟨0x99, 0xA1, "䐓堺腼膄䐥膓䐭膥埯臁臤艔䒏芦艶苊苘苿䒰荗险榊萅烵葤惣蒈䔄蒾蓡蓸蔐蔸蕒䔻蕯蕰藠䕷虲蚒蚲蛯际螋䘆䘗"⟩,
    ⟨0x99, 0xD0, "袮裿褤襇覑𧥧訩訸誔誴豑賔賲贜䞘塟跃䟭仮踺嗘坔蹱嗵躰䠷軎転軤軭軲辷迁迊迌逳駄䢭飠鈓䤞鈨鉘鉫銱銮銿"⟩,
    ⟨0x9A, 0x40, "鋣鋫鋳鋴鋽鍃鎄鎭䥅䥑麿鐗匁鐝鐭鐾䥪鑔鑹锭関䦧间阳䧥枠䨤靀䨵鞲韂噔䫤惨颹䬙飱塄餎餙冴餜餷饂饝饢䭰"⟩,
    ⟨0x9A, 0x6F, "駅䮝騼鬏窃魩鮁鯝鯱鯴䱭鰠㝯𡯂鵉鰺"⟩,
    ⟨0x9A, 0xA1, "黾噐鶓鶽鷀鷼银辶鹻麬麱麽黆铜黢黱黸竈齄𠂔𠊷𠎠椚铃妬𠓗塀铁㞹𠗕𠘕𠙶𡚺块煳𠫂𠫍𠮿呪吆𠯋咞𠯻𠰻𠱓𠱥𠱼"⟩,
    ⟨0x9A, 0xD0, "惧𠲍噺𠲵𠳝𠳭𠵯𠶲𠷈楕鰯螥𠸄𠸎𠻗𠾐𠼭𠹳尠𠾼帋𡁜𡁏𡁶朞𡁻𡂈𡂖㙇𡂿𡃓𡄯𡄻卤蒭𡋣𡍵𡌶讁𡕷𡘙𡟃𡟇乸炻𡠭𡥪"⟩,
    ⟨0x9B, 0x40, "𡨭𡩅𡰪𡱰𡲬𡻈拃𡻕𡼕熘桕𢁅槩㛈𢉼𢏗𢏺𢜪𢡱𢥏苽𢥧𢦓𢫕覥𢫨辠𢬎鞸𢬿顇骽𢱌 𢲈𢲷𥯨𢴈𢴒𢶷𢶕𢹂𢽴𢿌𣀳𣁦𣌟"⟩,
    ⟨0x9B, 0x6F, "𣏞徱晈暿𧩹𣕧𣗳 𤦺 𣘚𣜖 𠍆墵朎"⟩,
    ⟨0x9B, 0xA1, "椘𣪧𧙗𥿢𣸑𣺹𧗾𢂚䣐䪸𤄙𨪚𤋮𤌍𤀻𤌴𤎖𤩅𠗊凒𠘑妟𡺨㮾𣳿𤐄𤓖垈𤙴㦛𤜯𨗨𩧉㝢𢇃譞𨭎 𤠒𤣻𤨕爉𤫀𠱸奥𤺥𤾆"⟩,
    ⟨0x9B, 0xD0, "𠝹軚𥀬劏圿煱𥊙𥐙𣽊𤪧喼𥑆𥑮𦭒 㑳𥔿𧘲𥕞䜘𥕢𥕦𥟇𤤿𥡝偦㓻𣏌 𥤃䝼𨥈𥪮𥮉𥰆𡶐垡煑 𦄂𧰒遖𦆲𤾚譢𦐂𦑊"⟩,
    ⟨0x9C, 0x40, "嵛𦯷 𦒄𡤜諪𤧶𦒈𣿯𦔒䯀𦖿𦚵𢜛鑥𥟡憕娧晉 嚹𤔡𦛼乪𤤴陖涏𦲽㘘襷𦞙𦡮𦐑𦡞 𦣇筂𩃀𠨑𦤦 𦤹穅 𦧺騦𦨭"⟩,
    ⟨0x9C, 0x6F, "㙟𦑩𠀡禃𦨴𦭛崬𣔙 𦮝䛐𦲤画补𦶮墶"⟩,
    ⟨0x9C, 0xA1, "㜜𢖍𧁋𧇍㱔𧊀𧊅銁𢅺𧊋錰𧋦𤧐氹钟𧑐𠻸蠧裵𢤦𨑳𡞱溸𤨪𡠠㦤㚹  䔿暶𩲭𩢤襃𧟌𧡘囖䃟𡘊㦡𣜯𨃨𡏅熭荦𧧝𩆨"⟩,
    ⟨0x9C, 0xD1, "䲷𧂯𨦫𧧽𧨊𧬋𧵦𤅺筃祾𨀉澵𪋟樃𨌘厢𦸇鎿栶靝𨅯𨀣𦦵𡏭𣈯𨁈嶅𨰰𨂃圕頣𨥉嶫𤦈斾槕叒𤪥𣾁㰑朶𨂐𨃴𨄮𡾡𨅏"⟩,
    ⟨0x9D, 0x40, "𨆉𨆯𨈚𨌆𨌯𨎊㗊𨑨𨚪䣺揦𨥖砈鉕𨦸䏲𨧧䏟𨧨𨭆𨯔姸𨰉 𨿅𩃬 𩄐𩄼㷷𩅞𤫊运犏嚋𩓧𩗩𩖰𩖸𩜲𩣑𩥉𩥪𩧃𩨨𩬎𩵚"⟩,
    ⟨0x9D, 0x6F, "𩶛纟𩻸𩼣䲤镇𪊓熢𪋿䶑递𪗋䶜𠲜达嗁"⟩,
    ⟨0x9D, 0xA1, "辺𢒰边𤪓䔉繿潖檱仪㓤𨬬𧢝㜺躀𡟵𨀤𨭬𨮙𧨾𦚯㷫𧙕𣲷𥘵𥥖亚𥺁𦉘嚿𠹭踎孭𣺈𤲞揞 𡟶𡡻攰嘭𥱊吚𥌑㷆𩶘䱽嘢"⟩,
    ⟨0x9D, 0xD0, "嘞罉𥻘奵𣵀蝰东𠿪𠵉𣚺脗鵞贘瘻鱅癎瞹鍅吲腈苷嘥脲萘肽嗪祢噃吖𠺝㗎嘅嗱曱𨋢㘭甴嗰喺咗啲𠱁𠲖廐𥅈𠹶𢱢"⟩,
    ⟨0x9E, 0x40, "𠺢麫絚嗞𡁵抝靭咔賍燶酶揼掹揾啩𢭃鱲𢺳冚㓟𠶧冧呍唞唓癦踭𦢊疱肶蠄螆裇膶萜𡃁䓬猄𤜆宐茋𦢓噻𢛴𧴯𤆣𧵳"⟩,
    ⟨0x9E, 0x6F, "𦻐𧊶酰𡇙鈈𣳼𪚩𠺬𠻹牦𡲢䝎𤿂𧿹𠿫䃺"⟩,
    ⟨0x9E, 0xA1, "鱝攟𢶠䣳𤟠𩵼𠿬𠸊 𧖣𠿭 𦁈𡆇熣纎鵐业丄㕷嬍沲卧㚬㧜卽㚥𤘘墚𤭮舭呋垪𥪕𠥹 㩒𢑥獴𩺬䴉鯭𣳾𩼰䱛𤾩𩖞"⟩,
    ⟨0x9E, 0xD0, "𩿞葜𣶶𧊲𦞳𣜠挮紥𣻷𣸬㨪逈勌㹴㙺䗩𠒎癀嫰𠺶硺𧼮墧䂿噼鮋嵴癔𪐴麅䳡 㟻愙𣃚𤏲 噝𡊩垧𤥣𩸆刴𧂮㖭 鵼"⟩,
    ⟨0x9F, 0x40, "籖鬹埞𡝬屓擓𩓐𦌵𧅤蚭𠴨𦴢𤫢𠵱 凾𡼏嶎霃𡷑麁遌笟鬂峑箣扨挵髿篏鬪籾 籂粆鰕篼鬉 鰛𤤾齚啳寃俽麘俲"⟩,
    ⟨0x9F, 0x6F, "剠㸆勑坧偖妷帒韈鶫轜呩鞴饀鞺匬愰"⟩,
    ⟨0x9F, 0xA1, "椬叚鰊鴂䰻陁榀傦畆𡝭駚剳 酙隁酜 酑𨺗捿𦴣櫊嘑醎畺抅𠏼獏籰𥰡𣳽 𤤙盖鮝个𠳔莾衂 届槀 坺刟巵从"⟩,
    ⟨0x9F, 0xD0, "氱𠇲伹咜哚劚趂㗾 㗳 歒酼龥鮗頮颴骺麨麄煺笔 毺蠘罸 嘠𪙊蹷齓 跔蹏鸜踁抂𨍽踨蹵竓𤩷稾磘泪詧瘇"⟩,
    ⟨0xA0, 0x40, "𨩚鼦泎蟖痃𪊲硓咢贌狢獱謭猂瓱賫𤪻蘯徺袠䒷 𡠻𦸅 詾𢔛 惽癧髗鵄鍮鮏蟵  賷猬霡鮰㗖犲䰇籑饊𦅙慙"⟩,
    ⟨0xA0, 0x6F, "䰄麖慽 坟慯抦戹 㩜懢厪𣏵捤栂㗒"⟩,
    ⟨0xA0, 0xA1, "嵗𨯂迚𨸹 僙𡵆礆匲阸𠼻䁥 矾 糂𥼚糚稭聦聣絍甅瓲覔舚朌聢𧒆聛瓰脃眤覉𦟌畓𦻑螩蟎臈螌詉貭譃眫瓸蓚"⟩,
    ⟨0xA0, 0xD0, "㘵榲趦 覩 涹蟁𤀑瓧㷛煶悤憜㳑 恷 罱𨬭 惩䭾删㰘𣳇𥻗𧙖𥔱𡥄𡋾𩤃𦷜𧂭峁𦆭𨨏𣙷𠃮𦡆𤼎䕢嬟𦍌齐麦𦉫"⟩,
    ⟨0xC6, 0xA1, "①②③④⑤⑥⑦⑧⑨⑩⑴⑵⑶⑷⑸⑹⑺⑻⑼⑽ⅰⅱⅲⅳⅴⅵⅶⅷⅸⅹ丶丿亅亠冂冖冫勹匸卩厶夊宀巛⼳广"⟩,
    ⟨0xC6, 0xD0, "彐彡攴 疒 辵 ¨ˆヽヾゝゞ  々〆〇ー［］✽ぁあぃいぅうぇえぉおかがきぎくぐけげこごさざしじ"⟩,
    ⟨0xC7, 0x40, "すずせぜそぞただちぢっつづてでとどなにぬねのはばぱひびぴふぶぷへべぺほぼぽまみむめもゃやゅゆょ"⟩,
    ⟨0xC7, 0x6F, "よらりるれろゎわゐゑをんァアィイ"⟩,
    ⟨0xC7, 0xA1, "ゥウェエォオカガキギクグケゲコゴサザシジスズセゼソゾタダチヂッツヅテデトドナニヌネノハバパヒビ"⟩,
    ⟨0xC7, 0xD0, "ピフブプヘベペホボポマミムメモャヤュユョヨラリルレロヮワヰヱヲンヴヵヶАБВГДЕЁЖЗИЙК"⟩,
    ⟨0xC8, 0x40, "ЛМНОПРСТУФХЦЧШЩЪЫЬЭЮЯабвгдеёжзийклмнопрстуфхцчш"⟩,
    ⟨0xC8, 0x6F, "щъыьэюя⇧↸↹㇏𠃌乚𠂊刂䒑"⟩,
    ⟨0xC8, 0xA1, "龰冈龱𧘇"⟩,
    ⟨0xC8, 0xCD, "￢￤＇＂㈱№℡゛゜⺀⺄⺆⺇⺈⺊⺌⺍⺕⺜⺝⺥⺧⺪⺬⺮⺶⺼⺾⻆⻊⻌⻍⻏⻖⻗⻞⻣   ʃɐɛɔɵœø"⟩,
    ⟨0xC8, 0xFC, "ŋʊɪ"⟩,
    ⟨0xF9, 0xD6, "碁銹裏墻恒粧嫺╔╦╗╠╬╣╚╩╝╒╤╕╞╪╡╘╧╛╓╥╖╟╫╢╙╨╜║═╭╮╰╯￭"⟩,
    ⟨0xFA, 0x40, "𠕇鋛𠗟𣿅蕌䊵珯况㙉𤥂𨧤鍄𡧛苮𣳈砼杄拟𤤳𨦪𠊠𦮳𡌅侫𢓭倈𦴩𧪄𣘀𤪱𢔓 𠍾徤𠎀𠍇滛𠐟 儁㑺儎顬㝃萖𤦤𠒇"⟩,
    ⟨0xFA, 0x6F, "兠𣎴兪𠯿𢃼𠋥𢔰𠖎𣈳𡦃宂蝽𠖳𣲙冲冸"⟩,
    ⟨0xFA, 0xA1, "鴴凉减凑㳜凓𤪦决凢卂凭菍椾𣜭彻刋刦刼劵剗劔効勅簕蕂勠蘍𦬓 𨫞啉滙𣾀𠥔𣿬匳 𠯢泋𡜦栛珕恊㺪㣌𡛨燝"⟩,
    ⟨0xFA, 0xD0, "䒢卭却𨚫卾 𡖖𡘓矦厓𨪛厠厫厮玧𥝲㽙玜叁叅汉义埾叙㪫𠮏叠𣿫𢶣叶𠱷吓灹唫晗浛呭𦭓𠵴啝咏咤䞦𡜍𠻝㶴𠵍"⟩,
    ⟨0xFB, 0x40, "𨦼𢚘啇䳭启琗喆喩 𡣗𤀺䕒𤐵暳𡂴嘷曍𣊊暤暭噍噏磱囱鞇叾圀囯园𨭦㘣𡉏坆𤆥汮炋坂㚱𦱾埦𡐖堃𡑔𤍣堦𤯵塜"⟩,
    ⟨0xFB, 0x6F, "墪㕡壠壜𡈼壻寿坃𪅐𤉸鏓㖡够梦㛃湙"⟩,
    ⟨0xFB, 0xA1, "𡘾娤啓𡚒蔅姉𠵎𦲁𦴪𡟜姙𡟻𡞲𦶦浱𡠨𡛕姹𦹅媫婣㛦𤦩 㜈媖瑥嫓𦾡𢕔㶅𡤑㜲𡚸広勐孶斈孼𧨎䀄䡝𠈄寕慠𡨴𥧌"⟩,
    ⟨0xFB, 0xD0, "𠖥寳宝䴐尅𡭄尓珎尔𡲥𦬨屉䣝岅峩峯嶋𡷹𡸷崐崘嵆𡺤岺巗苼㠭𤤁𢁉𢅳芇㠶㯂帮檊 幺𤒼𠳓厦亷 厨𡝱帉廴𨒂"⟩,
    ⟨0xFC, 0x40, "廹廻㢠廼栾鐛弍𠇁弢㫞䢮𡌺强𦢈𢏐 𢑱彣鞽𦹮彲鍀𨨶徧嶶㵟𥉐𡽪𧃸𢙨釖𠊞𨨩怱暅𡡷㥣㷇㘹垐𢞴祱㹀悞 悳𤦂"⟩,
    ⟨0xFC, 0x6F, "𤦏𧩓璤僡媠慤萤慂慈𦻒憁凴𠙖憇宪𣾷"⟩,
    ⟨0xFC, 0xA1, "𢡟懓𨮝𩥝懐㤲𢦀𢣁怣慜攞掋𠄘担𡝰拕𢸍捬𤧟㨗搸揸𡎎𡟼 澊𢸶頔𤂌𥜝擡擥鑻㩦携㩗敍漖𤨨𤨣斅敭敟𣁾斵𤥀䬷"⟩,
    ⟨0xFC, 0xD0, "旑䃘𡠩无旣忟𣐀昘𣇷𣇸晄𣆤𣆥晋𠹵晧𥇦晳 𡸽𣈱𨗴𣇈𥌓矅𢣷馤朂𤎜𤨡㬫槺𣟂 杧杢𤇍𩃭柗䓩栢湐鈼栁𣏦𦶠桝"⟩,
    ⟨0xFD, 0x40, "𣑯槡樋𨫟楳棃𣗍椁椀㴲㨁𣘼㮀枬楡𨩊䋼椶榘㮡𠏉荣傐槹𣙙𢄪橅𣜃檝㯳枱櫈𩆜㰍欝𠤣惞欵歴𢟍溵𣫛𠎵𡥘㝀吡𣭚"⟩,
    ⟨0xFD, 0x6F, "毡𣻼毜氷𢒋𤣱𦭑汚舦汹𣶼䓅𣶽𤆤𤤌𤤀"⟩,
    ⟨0xFD, 0xA1, "𣳉㛥㳫𠴲鮃𣇹𢒑羏样𦴥𦶡𦷫涖浜湼漄𤥿𤂅𦹲蔳𦽴凇  萮𨬡 𣸯瑓𣾂秌湏媑𣁋濸㜍澝𣸰滺𡒗𤀽䕕鏰潄潜㵎潴"⟩,
    ⟨0xFD, 0xD0, "𩅰㴻澟𤅄濓𤂑𤅕𤀹𣿰𣾴𤄿凟𤅖𤅗𤅀𦇝灋灾炧炁烌烕烖烟䄄㷨熴熖𤉷焫煅媈煊 岜𤍥煏鍢𤋁焬𤑚𤨧𤨢熺𨯨炽爎"⟩,
    ⟨0xFE, 0x40, "鑂爕夑鑃爤鍁𥘅爮牀𤥴梽牕牗㹕𣁄栍漽犂 猫𤠣𨠫䣭𨠄猨献珏玪𠰺𦨮珉瑉𤇢𡛧𤨤昣㛅𤦷𤦍𤧻珷琕椃𤨦琹𠗃㻗"⟩,
    ⟨0xFE, 0x70, "𢢭瑠𨺲瑇珤瑶莹瑬㜰瑴鏱樬璂䥓𤪌"⟩,
    ⟨0xFE, 0xA1, "𤅟𤩹𨮏孆𨰃𡢞瓈𡦈甎 甞𨻙𡩋寗𨺬鎅畍畊畧畮𤾂㼄𤴓疎瑝疞疴瘂瘬癑癏癯癶𦏵皐臯㟸𦤑𦤎皡皥皷盌𦾟葢𥂝𥅽"⟩,
    ⟨0xFE, 0xD0, "𡸜眞眦着撯𥈠睘𣊬瞯𨥤𨥨𡛁矴 𡍶𤨒棊碯磇磓隥礮𥗠磗礴碱𧘌辸袄𨬫𦂃𢘜禆褀椂禀𥡗禝𧬹礼禩渪𧄦㺨秆𩄍秔"⟩]
  pairs := [
    (0x8862, [0x00CA, 0x0304]), (0x8864, [0x00CA, 0x030C]), (0x88A3, [0x00EA, 0x0304]),
    (0x88A5, [0x00EA, 0x030C])]

end Grid

end SearchBridge
