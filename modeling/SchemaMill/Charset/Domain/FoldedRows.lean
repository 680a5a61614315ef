import SchemaMill.Text.Letter

/-!
# Foldings

What characters become in a prepared label, where this is more than the small letter: characters
that differ in width, form or font become one, and letters lose their accents to marks of their own.
-/

namespace SchemaMill.Charset.Domain

/-- Runs of characters that become characters at one and the same distance. -/
def foldedRuns : List CaseRun :=
  [⟨0x2074, 0x2079, 1, -8256⟩, ⟨0x2080, 0x2089, 1, -8272⟩, ⟨0x2119, 0x211B, 1, -8361⟩,
   ⟨0x2135, 0x2138, 1, -7013⟩, ⟨0x2460, 0x2468, 1, -9263⟩, ⟨0x24B6, 0x24CF, 1, -9301⟩,
   ⟨0x24D0, 0x24E9, 1, -9327⟩, ⟨0x3137, 0x3139, 1, -8244⟩, ⟨0x313A, 0x313F, 1, -8074⟩,
   ⟨0x3141, 0x3143, 1, -8251⟩, ⟨0x3145, 0x314E, 1, -8252⟩, ⟨0x314F, 0x3163, 1, -8174⟩,
   ⟨0x3178, 0x317C, 1, -8269⟩, ⟨0x3184, 0x3186, 1, -8237⟩, ⟨0x3263, 0x3265, 1, -8542⟩,
   ⟨0x3269, 0x326D, 1, -8539⟩, ⟨0x32E4, 0x32E9, 1, -538⟩, ⟨0x32EE, 0x32F2, 1, -528⟩,
   ⟨0x32F5, 0x32FA, 1, -525⟩, ⟨0x32FB, 0x32FE, 1, -524⟩, ⟨0xFB24, 0xFB26, 1, -62793⟩,
   ⟨0xFE41, 0xFE44, 1, -52789⟩, ⟨0xFF01, 0xFF20, 1, -65248⟩, ⟨0xFF21, 0xFF3A, 1, -65216⟩,
   ⟨0xFF3B, 0xFF5E, 1, -65248⟩, ⟨0xFF85, 0xFF8A, 1, -52923⟩, ⟨0xFF8F, 0xFF93, 1, -52913⟩,
   ⟨0xFF96, 0xFF9B, 1, -52910⟩, ⟨0xFFA7, 0xFFA9, 1, -61092⟩, ⟨0xFFAA, 0xFFAF, 1, -60922⟩,
   ⟨0xFFB1, 0xFFB3, 1, -61099⟩, ⟨0xFFB5, 0xFFBE, 1, -61100⟩, ⟨0xFFC2, 0xFFC7, 1, -61025⟩,
   ⟨0xFFCA, 0xFFCF, 1, -61027⟩, ⟨0xFFD2, 0xFFD7, 1, -61029⟩, ⟨0xFFDA, 0xFFDC, 1, -61031⟩,
   ⟨0xFFE9, 0xFFEC, 1, -56921⟩, ⟨0x1D400, 0x1D419, 1, -119711⟩, ⟨0x1D41A, 0x1D433, 1, -119737⟩,
   ⟨0x1D434, 0x1D44D, 1, -119763⟩, ⟨0x1D44E, 0x1D466, 2, -119789⟩, ⟨0x1D44F, 0x1D453, 2, -119789⟩,
   ⟨0x1D457, 0x1D467, 2, -119789⟩, ⟨0x1D468, 0x1D481, 1, -119815⟩, ⟨0x1D482, 0x1D49B, 1, -119841⟩,
   ⟨0x1D4A9, 0x1D4AC, 1, -119867⟩, ⟨0x1D4AE, 0x1D4B5, 1, -119867⟩, ⟨0x1D4B6, 0x1D4B9, 1, -119893⟩,
   ⟨0x1D4BB, 0x1D4BF, 2, -119893⟩, ⟨0x1D4BE, 0x1D4C2, 2, -119893⟩, ⟨0x1D4C3, 0x1D4CF, 2, -119893⟩,
   ⟨0x1D4C6, 0x1D4CE, 2, -119893⟩, ⟨0x1D4D0, 0x1D4E9, 1, -119919⟩, ⟨0x1D4EA, 0x1D503, 1, -119945⟩,
   ⟨0x1D505, 0x1D509, 2, -119971⟩, ⟨0x1D50D, 0x1D514, 1, -119971⟩, ⟨0x1D516, 0x1D51C, 1, -119971⟩,
   ⟨0x1D51E, 0x1D537, 1, -119997⟩, ⟨0x1D539, 0x1D53D, 2, -120023⟩, ⟨0x1D53C, 0x1D546, 2, -120023⟩,
   ⟨0x1D54A, 0x1D550, 1, -120023⟩, ⟨0x1D552, 0x1D56B, 1, -120049⟩, ⟨0x1D56C, 0x1D585, 1, -120075⟩,
   ⟨0x1D586, 0x1D59F, 1, -120101⟩, ⟨0x1D5A0, 0x1D5B9, 1, -120127⟩, ⟨0x1D5BA, 0x1D5D3, 1, -120153⟩,
   ⟨0x1D5D4, 0x1D5ED, 1, -120179⟩, ⟨0x1D5EE, 0x1D607, 1, -120205⟩, ⟨0x1D608, 0x1D621, 1, -120231⟩,
   ⟨0x1D622, 0x1D63B, 1, -120257⟩, ⟨0x1D63C, 0x1D655, 1, -120283⟩, ⟨0x1D656, 0x1D66F, 1, -120309⟩,
   ⟨0x1D670, 0x1D689, 1, -120335⟩, ⟨0x1D68A, 0x1D6A3, 1, -120361⟩, ⟨0x1D6A8, 0x1D6B8, 1, -119543⟩,
   ⟨0x1D6BA, 0x1D6C0, 1, -119543⟩, ⟨0x1D6C2, 0x1D6D2, 1, -119569⟩, ⟨0x1D6D4, 0x1D6DA, 1, -119569⟩,
   ⟨0x1D6E2, 0x1D6F2, 1, -119601⟩, ⟨0x1D6F4, 0x1D6FA, 1, -119601⟩, ⟨0x1D6FC, 0x1D70C, 1, -119627⟩,
   ⟨0x1D70E, 0x1D714, 1, -119627⟩, ⟨0x1D71C, 0x1D72C, 1, -119659⟩, ⟨0x1D72E, 0x1D734, 1, -119659⟩,
   ⟨0x1D736, 0x1D746, 1, -119685⟩, ⟨0x1D748, 0x1D74E, 1, -119685⟩, ⟨0x1D756, 0x1D766, 1, -119717⟩,
   ⟨0x1D768, 0x1D76E, 1, -119717⟩, ⟨0x1D770, 0x1D780, 1, -119743⟩, ⟨0x1D782, 0x1D788, 1, -119743⟩,
   ⟨0x1D790, 0x1D7A0, 1, -119775⟩, ⟨0x1D7A2, 0x1D7A8, 1, -119775⟩, ⟨0x1D7AA, 0x1D7BA, 1, -119801⟩,
   ⟨0x1D7BC, 0x1D7C2, 1, -119801⟩, ⟨0x1D7CE, 0x1D7D7, 1, -120734⟩, ⟨0x1D7D8, 0x1D7E1, 1, -120744⟩,
   ⟨0x1D7E2, 0x1D7EB, 1, -120754⟩, ⟨0x1D7EC, 0x1D7F5, 1, -120764⟩, ⟨0x1D7F6, 0x1D7FF, 1, -120774⟩]

/-- Characters and what they become, one after the other, in rows for each number of characters that
one becomes. -/
def foldedRows : List (Nat × List String) := [
  (0, [
    "\u00AD\u034F᠆\u180B\u180C\u180D\u200B\u200C\u200D\u2060\uFE00\uFE01\uFE02\uFE03\uFE04\uFE05",
    "\uFE06\uFE07\uFE08\uFE09\uFE0A\uFE0B\uFE0C\uFE0D\uFE0E\uFE0F\uFEFF"]),
  (1, [
    "\u00A0 ªa²2³3µμ¹1ºoſs\u02B0h\u02B1ɦ\u02B2j\u02B3r\u02B4ɹ\u02B5ɻ\u02B6ʁ\u02B7w\u02B8y\u02E0ɣ",
    "\u02E1l\u02E2s\u02E3x\u02E4ʕ\u0340\u0300\u0341\u0301\u0343\u0313\u0345ι\u0374\u02B9;;··ςσϐβ",
    "ϑθϒυϕφϖπϰκϱρϲσϵεϹσ༌་ιι`\x60\u2000 \u2001 \u2002 \u2003 \u2004 \u2005 \u2006 \u2007 \u2008 ",
    "\u2009 \u200A ‑‐․.\u202F \u205F ⁰0\u2071i⁺+⁻−⁼=⁽(⁾)\u207Fn₊+₋−₌=₍(₎)ℂcℇɛℊgℋhℌhℍhℎhℏħℐiℑiℒl",
    "ℓlℕnℜrℝrℤzℨzℬbℭcℯeℰeℱfℳmℴoℹiℽγℾγℿπ⅀∑ⅅdⅆdⅇeⅈiⅉjⅠiⅤvⅩxⅬlⅭcⅮdⅯmⅰiⅴvⅹxⅼlⅽcⅾdⅿm〈〈〉〉⓪0⺟母⻳龟⼀一⼁丨⼂丶",
    "⼃丿⼄乙⼅亅⼆二⼇亠⼈人⼉儿⼊入⼋八⼌冂⼍冖⼎冫⼏几⼐凵⼑刀⼒力⼓勹⼔匕⼕匚⼖匸⼗十⼘卜⼙卩⼚厂⼛厶⼜又⼝口⼞囗⼟土⼠士⼡夂⼢夊⼣夕⼤大⼥女⼦子⼧宀⼨寸⼩小⼪尢⼫尸⼬屮⼭山⼮巛⼯工",
    "⼰己⼱巾⼲干⼳幺⼴广⼵廴⼶廾⼷弋⼸弓⼹彐⼺彡⼻彳⼼心⼽戈⼾戶⼿手⽀支⽁攴⽂文⽃斗⽄斤⽅方⽆无⽇日⽈曰⽉月⽊木⽋欠⽌止⽍歹⽎殳⽏毋⽐比⽑毛⽒氏⽓气⽔水⽕火⽖爪⽗父⽘爻⽙爿⽚片⽛牙⽜牛",
    "⽝犬⽞玄⽟玉⽠瓜⽡瓦⽢甘⽣生⽤用⽥田⽦疋⽧疒⽨癶⽩白⽪皮⽫皿⽬目⽭矛⽮矢⽯石⽰示⽱禸⽲禾⽳穴⽴立⽵竹⽶米⽷糸⽸缶⽹网⽺羊⽻羽⽼老⽽而⽾耒⽿耳⾀聿⾁肉⾂臣⾃自⾄至⾅臼⾆舌⾇舛⾈舟⾉艮",
    "⾊色⾋艸⾌虍⾍虫⾎血⾏行⾐衣⾑襾⾒見⾓角⾔言⾕谷⾖豆⾗豕⾘豸⾙貝⾚赤⾛走⾜足⾝身⾞車⾟辛⾠辰⾡辵⾢邑⾣酉⾤釆⾥里⾦金⾧長⾨門⾩阜⾪隶⾫隹⾬雨⾭靑⾮非⾯面⾰革⾱韋⾲韭⾳音⾴頁⾵風⾶飛",
    "⾷食⾸首⾹香⾺馬⾻骨⾼高⾽髟⾾鬥⾿鬯⿀鬲⿁鬼⿂魚⿃鳥⿄鹵⿅鹿⿆麥⿇麻⿈黃⿉黍⿊黑⿋黹⿌黽⿍鼎⿎鼓⿏鼠⿐鼻⿑齊⿒齒⿓龍⿔龜⿕龠\u3000 〶〒〸十〹卄〺卅ㄱ\u1100ㄲ\u1101",
    "ㄳ\u11AAㄴ\u1102ㄵ\u11ACㄶ\u11ADㅀ\u111Aㅄ\u1121\u3164\u1160ㅥ\u1114ㅦ\u1115ㅧ\u11C7ㅨ\u11C8ㅩ\u11CC",
    "ㅪ\u11CEㅫ\u11D3ㅬ\u11D7ㅭ\u11D9ㅮ\u111Cㅯ\u11DDㅰ\u11DFㅱ\u111Dㅲ\u111Eㅳ\u1120ㅴ\u1122ㅵ\u1123ㅶ\u1127",
    "ㅷ\u1129ㅽ\u1132ㅾ\u1136ㅿ\u1140ㆀ\u1147ㆁ\u114Cㆂ\u11F1ㆃ\u11F2ㆇ\u1184ㆈ\u1185ㆉ\u1188ㆊ\u1191ㆋ\u1192",
    "ㆌ\u1194ㆍ\u119Eㆎ\u11A1㆒一㆓二㆔三㆕四㆖上㆗中㆘下㆙甲㆚乙㆛丙㆜丁㆝天㆞地㆟人㉠\u1100㉡\u1102㉢\u1103㉦\u1109㉧\u110B㉨\u110C",
    "㊀一㊁二㊂三㊃四㊄五㊅六㊆七㊇八㊈九㊉十㊊月㊋火㊌水㊍木㊎金㊏土㊐日㊑株㊒有㊓社㊔名㊕特㊖財㊗祝㊘労㊙秘㊚男㊛女㊜適㊝優㊞印㊟注㊠項㊡休㊢写㊣正㊤上㊥中㊦下㊧左㊨右㊩医㊪宗㊫学㊬監",
    "㊭企㊮資㊯協㊰夜㋐ア㋑イ㋒ウ㋓エ㋔オ㋕カ㋖キ㋗ク㋘ケ㋙コ㋚サ㋛シ㋜ス㋝セ㋞ソ㋟タ㋠チ㋡ツ㋢テ㋣ト㋪ヒ㋫フ㋬ヘ㋭ホ㋳ヤ㋴ユ豈豈更更車車賈賈滑滑串串句句龜龜龜龜契契金金喇喇奈奈懶懶癩癩",
    "羅羅蘿蘿螺螺裸裸邏邏樂樂洛洛烙烙珞珞落落酪酪駱駱亂亂卵卵欄欄爛爛蘭蘭鸞鸞嵐嵐濫濫藍藍襤襤拉拉臘臘蠟蠟廊廊朗朗浪浪狼狼郎郎來來冷冷勞勞擄擄櫓櫓爐爐盧盧老老蘆蘆虜虜路路露露魯魯鷺鷺碌碌",
    "祿祿綠綠菉菉錄錄鹿鹿論論壟壟弄弄籠籠聾聾牢牢磊磊賂賂雷雷壘壘屢屢樓樓淚淚漏漏累累縷縷陋陋勒勒肋肋凜凜凌凌稜稜綾綾菱菱陵陵讀讀拏拏樂樂諾諾丹丹寧寧怒怒率率異異北北磻磻便便復復不不泌泌",
    "數數索索參參塞塞省省葉葉說說殺殺辰辰沈沈拾拾若若掠掠略略亮亮兩兩凉凉梁梁糧糧良良諒諒量量勵勵呂呂女女廬廬旅旅濾濾礪礪閭閭驪驪麗麗黎黎力力曆曆歷歷轢轢年年憐憐戀戀撚撚漣漣煉煉璉璉秊秊",
    "練練聯聯輦輦蓮蓮連連鍊鍊列列劣劣咽咽烈烈裂裂說說廉廉念念捻捻殮殮簾簾獵獵令令囹囹寧寧嶺嶺怜怜玲玲瑩瑩羚羚聆聆鈴鈴零零靈靈領領例例禮禮醴醴隸隸惡惡了了僚僚寮寮尿尿料料樂樂燎燎療療蓼蓼",
    "遼遼龍龍暈暈阮阮劉劉杻杻柳柳流流溜溜琉琉留留硫硫紐紐類類六六戮戮陸陸倫倫崙崙淪淪輪輪律律慄慄栗栗率率隆隆利利吏吏履履易易李李梨梨泥泥理理痢痢罹罹裏裏裡裡里里離離匿匿溺溺吝吝燐燐璘璘",
    "藺藺隣隣鱗鱗麟麟林林淋淋臨臨立立笠笠粒粒狀狀炙炙識識什什茶茶刺刺切切度度拓拓糖糖宅宅洞洞暴暴輻輻行行降降見見廓廓兀兀嗀嗀塚塚晴晴凞凞猪猪益益礼礼神神祥祥福福靖靖精精羽羽蘒蘒諸諸逸逸",
    "都都飯飯飼飼館館鶴鶴侮侮僧僧免免勉勉勤勤卑卑喝喝嘆嘆器器塀塀墨墨層層屮屮悔悔慨慨憎憎懲懲敏敏既既暑暑梅梅海海渚渚漢漢煮煮爫爫琢琢碑碑社社祉祉祈祈祐祐祖祖祝祝禍禍禎禎穀穀突突節節練練",
    "縉縉繁繁署署者者臭臭艹艹艹艹著著褐褐視視謁謁謹謹賓賓贈贈辶辶逸逸難難響響頻頻\uFB20\u05E2\uFB21\u05D0\uFB22\u05D3\uFB23\u05D4",
    "\uFB27\u05E8\uFB28\u05EA﬩+\uFB50\u0671\uFB51\u0671\uFB52\u067B\uFB53\u067B\uFB54\u067B",
    "\uFB55\u067B\uFB56\u067E\uFB57\u067E\uFB58\u067E\uFB59\u067E\uFB5A\u0680\uFB5B\u0680",
    "\uFB5C\u0680\uFB5D\u0680\uFB5E\u067A\uFB5F\u067A\uFB60\u067A\uFB61\u067A\uFB62\u067F",
    "\uFB63\u067F\uFB64\u067F\uFB65\u067F\uFB66\u0679\uFB67\u0679\uFB68\u0679\uFB69\u0679",
    "\uFB6A\u06A4\uFB6B\u06A4\uFB6C\u06A4\uFB6D\u06A4\uFB6E\u06A6\uFB6F\u06A6\uFB70\u06A6",
    "\uFB71\u06A6\uFB72\u0684\uFB73\u0684\uFB74\u0684\uFB75\u0684\uFB76\u0683\uFB77\u0683",
    "\uFB78\u0683\uFB79\u0683\uFB7A\u0686\uFB7B\u0686\uFB7C\u0686\uFB7D\u0686\uFB7E\u0687",
    "\uFB7F\u0687\uFB80\u0687\uFB81\u0687\uFB82\u068D\uFB83\u068D\uFB84\u068C\uFB85\u068C",
    "\uFB86\u068E\uFB87\u068E\uFB88\u0688\uFB89\u0688\uFB8A\u0698\uFB8B\u0698\uFB8C\u0691",
    "\uFB8D\u0691\uFB8E\u06A9\uFB8F\u06A9\uFB90\u06A9\uFB91\u06A9\uFB92\u06AF\uFB93\u06AF",
    "\uFB94\u06AF\uFB95\u06AF\uFB96\u06B3\uFB97\u06B3\uFB98\u06B3\uFB99\u06B3\uFB9A\u06B1",
    "\uFB9B\u06B1\uFB9C\u06B1\uFB9D\u06B1\uFB9E\u06BA\uFB9F\u06BA\uFBA0\u06BB\uFBA1\u06BB",
    "\uFBA2\u06BB\uFBA3\u06BB\uFBA6\u06C1\uFBA7\u06C1\uFBA8\u06C1\uFBA9\u06C1\uFBAA\u06BE",
    "\uFBAB\u06BE\uFBAC\u06BE\uFBAD\u06BE\uFBAE\u06D2\uFBAF\u06D2\uFBD3\u06AD\uFBD4\u06AD",
    "\uFBD5\u06AD\uFBD6\u06AD\uFBD7\u06C7\uFBD8\u06C7\uFBD9\u06C6\uFBDA\u06C6\uFBDB\u06C8",
    "\uFBDC\u06C8\uFBDE\u06CB\uFBDF\u06CB\uFBE0\u06C5\uFBE1\u06C5\uFBE2\u06C9\uFBE3\u06C9",
    "\uFBE4\u06D0\uFBE5\u06D0\uFBE6\u06D0\uFBE7\u06D0\uFBE8\u0649\uFBE9\u0649\uFBFC\u06CC",
    "\uFBFD\u06CC\uFBFE\u06CC\uFBFF\u06CC︱—︲–︳_︴_︵(︶)︷\x7b︸\x7d︹〔︺〕︻【︼】︽《︾》︿〈﹀〉﹍_﹎_﹏_﹐,﹑、﹒.﹔;﹕:",
    "﹖?﹗!﹘—﹙(﹚)﹛\x7b﹜\x7d﹝〔﹞〕﹟#﹠&﹡*﹢+﹣-﹤<﹥>﹦=﹨\\﹩$﹪%﹫@\uFE80\u0621\uFE8D\u0627\uFE8E\u0627",
    "\uFE8F\u0628\uFE90\u0628\uFE91\u0628\uFE92\u0628\uFE93\u0629\uFE94\u0629\uFE95\u062A",
    "\uFE96\u062A\uFE97\u062A\uFE98\u062A\uFE99\u062B\uFE9A\u062B\uFE9B\u062B\uFE9C\u062B",
    "\uFE9D\u062C\uFE9E\u062C\uFE9F\u062C\uFEA0\u062C\uFEA1\u062D\uFEA2\u062D\uFEA3\u062D",
    "\uFEA4\u062D\uFEA5\u062E\uFEA6\u062E\uFEA7\u062E\uFEA8\u062E\uFEA9\u062F\uFEAA\u062F",
    "\uFEAB\u0630\uFEAC\u0630\uFEAD\u0631\uFEAE\u0631\uFEAF\u0632\uFEB0\u0632\uFEB1\u0633",
    "\uFEB2\u0633\uFEB3\u0633\uFEB4\u0633\uFEB5\u0634\uFEB6\u0634\uFEB7\u0634\uFEB8\u0634",
    "\uFEB9\u0635\uFEBA\u0635\uFEBB\u0635\uFEBC\u0635\uFEBD\u0636\uFEBE\u0636\uFEBF\u0636",
    "\uFEC0\u0636\uFEC1\u0637\uFEC2\u0637\uFEC3\u0637\uFEC4\u0637\uFEC5\u0638\uFEC6\u0638",
    "\uFEC7\u0638\uFEC8\u0638\uFEC9\u0639\uFECA\u0639\uFECB\u0639\uFECC\u0639\uFECD\u063A",
    "\uFECE\u063A\uFECF\u063A\uFED0\u063A\uFED1\u0641\uFED2\u0641\uFED3\u0641\uFED4\u0641",
    "\uFED5\u0642\uFED6\u0642\uFED7\u0642\uFED8\u0642\uFED9\u0643\uFEDA\u0643\uFEDB\u0643",
    "\uFEDC\u0643\uFEDD\u0644\uFEDE\u0644\uFEDF\u0644\uFEE0\u0644\uFEE1\u0645\uFEE2\u0645",
    "\uFEE3\u0645\uFEE4\u0645\uFEE5\u0646\uFEE6\u0646\uFEE7\u0646\uFEE8\u0646\uFEE9\u0647",
    "\uFEEA\u0647\uFEEB\u0647\uFEEC\u0647\uFEED\u0648\uFEEE\u0648\uFEEF\u0649\uFEF0\u0649",
    "\uFEF1\u064A\uFEF2\u064A\uFEF3\u064A\uFEF4\u064A｟⦅｠⦆｡。｢「｣」､、･・ｦヲｧァｨィｩゥｪェｫォｬャｭュｮョｯッ",
    "\uFF70\u30FCｱアｲイｳウｴエｵオｶカｷキｸクｹケｺコｻサｼシｽスｾセｿソﾀタﾁチﾂツﾃテﾄトﾋヒﾌフﾍヘﾎホﾔヤﾕユﾜワﾝン\uFF9E\u3099",
    "\uFF9F\u309A\uFFA0\u1160ﾡ\u1100ﾢ\u1101ﾣ\u11AAﾤ\u1102ﾥ\u11ACﾦ\u11ADﾰ\u111Aﾴ\u1121￠¢￡£￢¬￤¦￥¥",
    "￦₩￨│￭■￮○𝒜a𝒞c𝒟d𝒢g𝒥j𝒦k𝔄a𝔈e𝔊g𝔸a𝕁j𝕃l𝚹θ𝛁∇𝛓σ𝛛∂𝛜ε𝛝θ𝛞κ𝛟φ𝛠ρ𝛡π𝛳θ𝛻∇𝜍σ𝜕∂𝜖ε𝜗θ𝜘κ𝜙φ𝜚ρ𝜛π𝜭θ𝜵∇𝝇σ𝝏∂𝝐ε𝝑θ𝝒κ𝝓φ𝝔ρ",
    "𝝕π𝝧θ𝝯∇𝞁σ𝞉∂𝞊ε𝞋θ𝞌κ𝞍φ𝞎ρ𝞏π𝞡θ𝞩∇𝞻σ𝟃∂𝟄ε𝟅θ𝟆κ𝟇φ𝟈ρ𝟉π丽丽丸丸乁乁𠄢𠄢你你侮侮侻侻倂倂偺偺備備僧僧像像㒞㒞𠘺𠘺免免兔兔兤兤具具𠔜𠔜㒹㒹內內再再𠕋𠕋冗冗",
    "冤冤仌仌冬冬况况𩇟𩇟凵凵刃刃㓟㓟刻刻剆剆割割剷剷㔕㔕勇勇勉勉勤勤勺勺包包匆匆北北卉卉卑卑博博即即卽卽卿卿卿卿卿卿𠨬𠨬灰灰及及叟叟𠭣𠭣叫叫叱叱吆吆咞咞吸吸呈呈周周咢咢哶哶唐唐啓啓啣啣",
    "善善善善喙喙喫喫喳喳嗂嗂圖圖嘆嘆圗圗噑噑噴噴切切壮壮城城埴埴堍堍型型堲堲報報墬墬𡓤𡓤売売壷壷夆夆多多夢夢奢奢𡚨𡚨𡛪𡛪姬姬娛娛娧娧姘姘婦婦㛮㛮㛼𡍪嬈嬈嬾嬾嬾嬾𡧈𡧈寃寃寘寘寧寧寳寳𡬘𡬘",
    "寿寿将将当弳尢尢㞁㞁屠屠屮屮峀峀岍岍𡷤𡷤嵃嵃𡷦𡷦嵮嵮嵫嵫嵼嵼巡巡巢巢㠯㠯巽巽帨帨帽帽幩幩㡢㡢𢆃𢆃㡼㡼庰庰庳庳庶庶廊廊𪎒𪎒廾廾𢌱𢌱𢌱𢌱舁舁弢弢弢弢㣇㣇𣊸𣊸𦇚𦇚形形彫彫㣣㣣徚徚忍忍志志",
    "忹忹悁悁㤺㤺㤜㤜悔悔𢛔𢛔惇惇慈慈慌慌慎慎慌慌慺慺憎憎憲憲憤憤憯憯懞懞懲懲懶懶成成戛戛扝扝抱抱拔拔捐捐𢬌𢬌挽挽拼拼捨捨掃掃揤揤𢯱𢯱搢搢揅揅掩掩㨮㨮摩摩摾摾撝撝摷摷㩬㩬敏敏敬敬𣀊𣀊旣旣",
    "書書晉晉㬙㬙暑暑㬈㬈㫤㫤冒冒冕冕最最暜暜肭肭䏙䏙朗朗望望朡朡杞杞杓杓𣏃𣏃㭉㭉柺柺枅枅桒桒梅梅𣑭𣑭梎梎栟栟椔椔㮝㮝楂楂榣榣槪槪檨檨𣚣𣚣櫛櫛㰘㰘次次𣢧𣢧歔歔㱎㱎歲歲殟殟殺殺殻殻𣪍𣪍𡴋𡴋",
    "𣫺𣫺汎汎𣲼𣲼沿沿泍泍汧汧洖洖派派海海流流浩浩浸浸涅涅𣴞𣴞洴洴港港湮湮㴳㴳滋滋滇滇𣻑𣻑淹淹潮潮𣽞𣽞𣾎𣾎濆濆瀹瀹瀞瀞瀛瀛㶖㶖灊灊災災灷灷炭炭𠔥𠔥煅煅𤉣𤉣熜熜𤎫䎫爨爨爵爵牐牐𤘈𤘈犀犀犕犕",
    "𤜵𤜵𤠔𤠔獺獺王王㺬㺬玥玥㺸㺸㺸㺸瑇瑇瑜瑜瑱瑱璅璅瓊瓊㼛㼛甤甤𤰶𤰶甾甾𤲒𤲒異異𢆟𢆟瘐瘐𤾡𤾡𤾸𤾸𥁄𥁄㿼㿼䀈䀈直直𥃳𥃳𥃲𥃲𥄙𥄙𥄳𥄳眞眞真真真真睊睊䀹䀹瞋瞋䁆䁆䂖䂖𥐝𥐝硎硎碌碌磌磌䃣䃣𥘦𥘦",
    "祖祖𥚚𥚚𥛅𥛅福福秫秫䄯䄯穀穀穊穊穏穏𥥼𥥼𥪧𥪧𥪧𥪧竮窮䈂䈂𥮫𥮫篆篆築築䈧䈧𥲀𥲀糒糒䊠䊠糨糨糣糣紀紀𥾆𥾆絣絣䌁䌁緇緇縂縂繅繅䌴䌴𦈨𦈨𦉇𦉇䍙䍙𦋙𦋙罺罺𦌾𦌾羕羕翺翺者者𦓚𦓚𦔣𦔣聠聠𦖨𦖨聰聰",
    "𣍟𣍟䏕䏕育育脃脃䐋䐋脾脾媵媵𦞧𦞧𦞵𦞵𣎓𣎓𣎜𣎜舁舁舄舄辞辞䑫䑫芑芑芋芋芝芝劳劳花花芳芳芽芽苦苦𦬼𦬼若若茝茝荣荣莭莭茣茣莽莽菧菧著著荓荓菊菊菌菌菜菜𦰶𦰶𦵫𦵫𦳕𦳕䔫䔫蓱蓱蓳蓳蔖蔖𧏊𧏊蕤蕤",
    "𦼬𦼬䕝䕝䕡䕡𦾱𦾱𧃒𧃒䕫䕫虐虐虜虜虧虧虩虩蚩蚩蚈蚈蜎蜎蛢蛢蝹蝹蜨蜨蝫蝫螆螆䗗䵗蟡蟡蠁蠁䗹䗹衠衠衣衣𧙧𧙧裗裗裞裞䘵䘵裺裺㒻㒻𧢮𧢮𧥦𧥦䚾䚾䛇䛇誠誠諭諭變變豕豕𧲨𧲨貫貫賁賁贛贛起起𧼯𧼯𠠄𠠄",
    "跋跋趼趼跰跰𠣞𠣞軔軔輸輸𨗒𨗒𨗭𨗭邔邔郱郱鄑鄑𨜮𨜮鄛鄛鈸鈸鋗鋗鋘鋘鉼鉼鏹鏹鐕鐕𨯺𨯺開開䦕䦕閷閷𨵷𨵷䧦䧦雃雃嶲嶲霣霣𩅅𩅅𩈚𩈚䩮䩮䩶䩶韠韠𩐊𩐊䪲䪲𩒖𩒖頋頋頋頋頩頩𩖶𩖶飢飢䬳䬳餩餩馧馧駂駂",
    "駾駾䯎䯎𩬰𩬰鬒鬒鱀鱀鳽鳽䳎䳎䳭䳭鵧鵧𪃎𪃎䳸䳸𪄅𪄅𪈎𪈎𪊑𪊑麻麻䵖䵖黹黹黾黾鼅鼅鼏鼏鼖鼖鼻鼻𪘀𪘀"]),
  (2, [
    "¨ \u0308¯ \u0304´ \u0301¸ \u0327Àa\u0300Áa\u0301Âa\u0302Ãa\u0303Äa\u0308Åa\u030AÇc\u0327",
    "Èe\u0300Ée\u0301Êe\u0302Ëe\u0308Ìi\u0300Íi\u0301Îi\u0302Ïi\u0308Ñn\u0303Òo\u0300Óo\u0301",
    "Ôo\u0302Õo\u0303Öo\u0308Ùu\u0300Úu\u0301Ûu\u0302Üu\u0308Ýy\u0301ßssàa\u0300áa\u0301âa\u0302",
    "ãa\u0303äa\u0308åa\u030Açc\u0327èe\u0300ée\u0301êe\u0302ëe\u0308ìi\u0300íi\u0301îi\u0302",
    "ïi\u0308ñn\u0303òo\u0300óo\u0301ôo\u0302õo\u0303öo\u0308ùu\u0300úu\u0301ûu\u0302üu\u0308",
    "ýy\u0301ÿy\u0308Āa\u0304āa\u0304Ăa\u0306ăa\u0306Ąa\u0328ąa\u0328Ćc\u0301ćc\u0301Ĉc\u0302",
    "ĉc\u0302Ċc\u0307ċc\u0307Čc\u030Cčc\u030CĎd\u030Cďd\u030CĒe\u0304ēe\u0304Ĕe\u0306ĕe\u0306",
    "Ėe\u0307ėe\u0307Ęe\u0328ęe\u0328Ěe\u030Cěe\u030CĜg\u0302ĝg\u0302Ğg\u0306ğg\u0306Ġg\u0307",
    "ġg\u0307Ģg\u0327ģg\u0327Ĥh\u0302ĥh\u0302Ĩi\u0303ĩi\u0303Īi\u0304īi\u0304Ĭi\u0306ĭi\u0306",
    "Įi\u0328įi\u0328ĲijĳijĴj\u0302ĵj\u0302Ķk\u0327ķk\u0327Ĺl\u0301ĺl\u0301Ļl\u0327ļl\u0327",
    "Ľl\u030Cľl\u030CĿl·ŀl·Ńn\u0301ńn\u0301Ņn\u0327ņn\u0327Ňn\u030Cňn\u030Cŉ\u02BCnŌo\u0304",
    "ōo\u0304Ŏo\u0306ŏo\u0306Őo\u030Bőo\u030BŔr\u0301ŕr\u0301Ŗr\u0327ŗr\u0327Řr\u030Cřr\u030C",
    "Śs\u0301śs\u0301Ŝs\u0302ŝs\u0302Şs\u0327şs\u0327Šs\u030Cšs\u030CŢt\u0327ţt\u0327Ťt\u030C",
    "ťt\u030CŨu\u0303ũu\u0303Ūu\u0304ūu\u0304Ŭu\u0306ŭu\u0306Ůu\u030Aůu\u030AŰu\u030Bűu\u030B",
    "Ųu\u0328ųu\u0328Ŵw\u0302ŵw\u0302Ŷy\u0302ŷy\u0302Ÿy\u0308Źz\u0301źz\u0301Żz\u0307żz\u0307",
    "Žz\u030Cžz\u030CƠo\u031Bơo\u031BƯu\u031Bưu\u031BǇljǈljǉljǊnjǋnjǌnjǍa\u030Cǎa\u030CǏi\u030C",
    "ǐi\u030CǑo\u030Cǒo\u030CǓu\u030Cǔu\u030CǢæ\u0304ǣæ\u0304Ǧg\u030Cǧg\u030CǨk\u030Cǩk\u030C",
    "Ǫo\u0328ǫo\u0328Ǯʒ\u030Cǯʒ\u030Cǰj\u030CǱdzǲdzǳdzǴg\u0301ǵg\u0301Ǹn\u0300ǹn\u0300Ǽæ\u0301",
    "ǽæ\u0301Ǿø\u0301ǿø\u0301Ȁa\u030Fȁa\u030FȂa\u0311ȃa\u0311Ȅe\u030Fȅe\u030FȆe\u0311ȇe\u0311",
    "Ȉi\u030Fȉi\u030FȊi\u0311ȋi\u0311Ȍo\u030Fȍo\u030FȎo\u0311ȏo\u0311Ȑr\u030Fȑr\u030FȒr\u0311",
    "ȓr\u0311Ȕu\u030Fȕu\u030FȖu\u0311ȗu\u0311Șs\u0326șs\u0326Țt\u0326țt\u0326Ȟh\u030Cȟh\u030C",
    "Ȧa\u0307ȧa\u0307Ȩe\u0327ȩe\u0327Ȯo\u0307ȯo\u0307Ȳy\u0304ȳy\u0304˘ \u0306˙ \u0307˚ \u030A",
    "˛ \u0328˜ \u0303˝ \u030B\u0344\u0308\u0301\u037A ι΄ \u0301Άα\u0301Έε\u0301Ήη\u0301Ίι\u0301",
    "Όο\u0301Ύυ\u0301Ώω\u0301Ϊι\u0308Ϋυ\u0308άα\u0301έε\u0301ήη\u0301ίι\u0301ϊι\u0308ϋυ\u0308",
    "όο\u0301ύυ\u0301ώω\u0301ϓυ\u0301ϔυ\u0308Ѐе\u0300Ёе\u0308Ѓг\u0301Їі\u0308Ќк\u0301Ѝи\u0300",
    "Ўу\u0306Йи\u0306йи\u0306ѐе\u0300ёе\u0308ѓг\u0301їі\u0308ќк\u0301ѝи\u0300ўу\u0306Ѷѵ\u030F",
    "ѷѵ\u030FӁж\u0306ӂж\u0306Ӑа\u0306ӑа\u0306Ӓа\u0308ӓа\u0308Ӗе\u0306ӗе\u0306Ӛә\u0308ӛә\u0308",
    "Ӝж\u0308ӝж\u0308Ӟз\u0308ӟз\u0308Ӣи\u0304ӣи\u0304Ӥи\u0308ӥи\u0308Ӧо\u0308ӧо\u0308Ӫө\u0308",
    "ӫө\u0308Ӭэ\u0308ӭэ\u0308Ӯу\u0304ӯу\u0304Ӱу\u0308ӱу\u0308Ӳу\u030Bӳу\u030BӴч\u0308ӵч\u0308",
    "Ӹы\u0308ӹы\u0308ևեւ\u0622\u0627\u0653\u0623\u0627\u0654\u0624\u0648\u0654\u0625\u0627\u0655",
    "\u0626\u064A\u0654\u0675\u0627\u0674\u0676\u0648\u0674\u0677\u06C7\u0674\u0678\u064A\u0674",
    "\u06C0\u06D5\u0654\u06C2\u06C1\u0654\u06D3\u06D2\u0654ऩन\u093Cऱर\u093Cऴळ\u093Cक़क\u093C",
    "ख़ख\u093Cग़ग\u093Cज़ज\u093Cड़ड\u093Cढ़ढ\u093Cफ़फ\u093Cय़य\u093C\u09CB\u09C7\u09BE",
    "\u09CC\u09C7\u09D7ড়ড\u09BCঢ়ঢ\u09BCয়য\u09BCਲ਼ਲ\u0A3Cਸ਼ਸ\u0A3Cਖ਼ਖ\u0A3Cਗ਼ਗ\u0A3Cਜ਼ਜ\u0A3Cਫ਼ਫ\u0A3C",
    "\u0B48\u0B47\u0B56\u0B4B\u0B47\u0B3E\u0B4C\u0B47\u0B57ଡ଼ଡ\u0B3Cଢ଼ଢ\u0B3Cஔஒ\u0BD7",
    "\u0BCA\u0BC6\u0BBE\u0BCB\u0BC7\u0BBE\u0BCC\u0BC6\u0BD7\u0C48\u0C46\u0C56\u0CC0\u0CBF\u0CD5",
    "\u0CC7\u0CC6\u0CD5\u0CC8\u0CC6\u0CD6\u0CCA\u0CC6\u0CC2\u0D4A\u0D46\u0D3E\u0D4B\u0D47\u0D3E",
    "\u0D4C\u0D46\u0D57\u0DDA\u0DD9\u0DCA\u0DDC\u0DD9\u0DCF\u0DDE\u0DD9\u0DDFำ\u0E4Dาຳ\u0ECDາໜຫນ",
    "ໝຫມགྷག\u0FB7ཌྷཌ\u0FB7དྷད\u0FB7བྷབ\u0FB7ཛྷཛ\u0FB7ཀྵཀ\u0FB5\u0F73\u0F71\u0F72\u0F75\u0F71\u0F74",
    "\u0F76\u0FB2\u0F80\u0F78\u0FB3\u0F80\u0F81\u0F71\u0F80\u0F93\u0F92\u0FB7\u0F9D\u0F9C\u0FB7",
    "\u0FA2\u0FA1\u0FB7\u0FA7\u0FA6\u0FB7\u0FAC\u0FAB\u0FB7\u0FB9\u0F90\u0FB5ဦဥ\u102EḀa\u0325",
    "ḁa\u0325Ḃb\u0307ḃb\u0307Ḅb\u0323ḅb\u0323Ḇb\u0331ḇb\u0331Ḋd\u0307ḋd\u0307Ḍd\u0323ḍd\u0323",
    "Ḏd\u0331ḏd\u0331Ḑd\u0327ḑd\u0327Ḓd\u032Dḓd\u032DḘe\u032Dḙe\u032DḚe\u0330ḛe\u0330Ḟf\u0307",
    "ḟf\u0307Ḡg\u0304ḡg\u0304Ḣh\u0307ḣh\u0307Ḥh\u0323ḥh\u0323Ḧh\u0308ḧh\u0308Ḩh\u0327ḩh\u0327",
    "Ḫh\u032Eḫh\u032EḬi\u0330ḭi\u0330Ḱk\u0301ḱk\u0301Ḳk\u0323ḳk\u0323Ḵk\u0331ḵk\u0331Ḷl\u0323",
    "ḷl\u0323Ḻl\u0331ḻl\u0331Ḽl\u032Dḽl\u032DḾm\u0301ḿm\u0301Ṁm\u0307ṁm\u0307Ṃm\u0323ṃm\u0323",
    "Ṅn\u0307ṅn\u0307Ṇn\u0323ṇn\u0323Ṉn\u0331ṉn\u0331Ṋn\u032Dṋn\u032DṔp\u0301ṕp\u0301Ṗp\u0307",
    "ṗp\u0307Ṙr\u0307ṙr\u0307Ṛr\u0323ṛr\u0323Ṟr\u0331ṟr\u0331Ṡs\u0307ṡs\u0307Ṣs\u0323ṣs\u0323",
    "Ṫt\u0307ṫt\u0307Ṭt\u0323ṭt\u0323Ṯt\u0331ṯt\u0331Ṱt\u032Dṱt\u032DṲu\u0324ṳu\u0324Ṵu\u0330",
    "ṵu\u0330Ṷu\u032Dṷu\u032DṼv\u0303ṽv\u0303Ṿv\u0323ṿv\u0323Ẁw\u0300ẁw\u0300Ẃw\u0301ẃw\u0301",
    "Ẅw\u0308ẅw\u0308Ẇw\u0307ẇw\u0307Ẉw\u0323ẉw\u0323Ẋx\u0307ẋx\u0307Ẍx\u0308ẍx\u0308Ẏy\u0307",
    "ẏy\u0307Ẑz\u0302ẑz\u0302Ẓz\u0323ẓz\u0323Ẕz\u0331ẕz\u0331ẖh\u0331ẗt\u0308ẘw\u030Aẙy\u030A",
    "ẚa\u02BEẛs\u0307ẞssẠa\u0323ạa\u0323Ảa\u0309ảa\u0309Ẹe\u0323ẹe\u0323Ẻe\u0309ẻe\u0309Ẽe\u0303",
    "ẽe\u0303Ỉi\u0309ỉi\u0309Ịi\u0323ịi\u0323Ọo\u0323ọo\u0323Ỏo\u0309ỏo\u0309Ụu\u0323ụu\u0323",
    "Ủu\u0309ủu\u0309Ỳy\u0300ỳy\u0300Ỵy\u0323ỵy\u0323Ỷy\u0309ỷy\u0309Ỹy\u0303ỹy\u0303ἀα\u0313",
    "ἁα\u0314Ἀα\u0313Ἁα\u0314ἐε\u0313ἑε\u0314Ἐε\u0313Ἑε\u0314ἠη\u0313ἡη\u0314Ἠη\u0313Ἡη\u0314",
    "ἰι\u0313ἱι\u0314Ἰι\u0313Ἱι\u0314ὀο\u0313ὁο\u0314Ὀο\u0313Ὁο\u0314ὐυ\u0313ὑυ\u0314Ὑυ\u0314",
    "ὠω\u0313ὡω\u0314Ὠω\u0313Ὡω\u0314ὰα\u0300άα\u0301ὲε\u0300έε\u0301ὴη\u0300ήη\u0301ὶι\u0300",
    "ίι\u0301ὸο\u0300όο\u0301ὺυ\u0300ύυ\u0301ὼω\u0300ώω\u0301ᾰα\u0306ᾱα\u0304ᾳαιᾶα\u0342Ᾰα\u0306",
    "Ᾱα\u0304Ὰα\u0300Άα\u0301ᾼαι᾽ \u0313᾿ \u0313῀ \u0342ῃηιῆη\u0342Ὲε\u0300Έε\u0301Ὴη\u0300",
    "Ήη\u0301ῌηιῐι\u0306ῑι\u0304ῖι\u0342Ῐι\u0306Ῑι\u0304Ὶι\u0300Ίι\u0301ῠυ\u0306ῡυ\u0304ῤρ\u0313",
    "ῥρ\u0314ῦυ\u0342Ῠυ\u0306Ῡυ\u0304Ὺυ\u0300Ύυ\u0301Ῥρ\u0314ῳωιῶω\u0342Ὸο\u0300Όο\u0301Ὼω\u0300",
    "Ώω\u0301ῼωι´ \u0301῾ \u0314‗ \u0333‥..″′′‶‵‵‼!!‾ \u0305⁇??⁈?!⁉!?₨rs℃°c℉°f№no℠sm™tmÅa\u030A",
    "⅟1⁄ⅡiiⅣivⅥviⅨixⅪxiⅱiiⅳivⅵviⅸixⅺxi↚←\u0338↛→\u0338↮↔\u0338⇍⇐\u0338⇎⇔\u0338⇏⇒\u0338∄∃\u0338",
    "∉∈\u0338∌∋\u0338∤∣\u0338∦∥\u0338∬∫∫∯∮∮≁∼\u0338≄≃\u0338≇≅\u0338≉≈\u0338≠=\u0338≢≡\u0338",
    "≭≍\u0338≮<\u0338≯>\u0338≰≤\u0338≱≥\u0338≴≲\u0338≵≳\u0338≸≶\u0338≹≷\u0338⊀≺\u0338⊁≻\u0338",
    "⊄⊂\u0338⊅⊃\u0338⊈⊆\u0338⊉⊇\u0338⊬⊢\u0338⊭⊨\u0338⊮⊩\u0338⊯⊫\u0338⋠≼\u0338⋡≽\u0338⋢⊑\u0338",
    "⋣⊒\u0338⋪⊲\u0338⋫⊳\u0338⋬⊴\u0338⋭⊵\u0338⑩10⑪11⑫12⑬13⑭14⑮15⑯16⑰17⑱18⑲19⑳20⒈1.⒉2.⒊3.⒋4.⒌5.⒍6.",
    "⒎7.⒏8.⒐9.⩵==⫝̸⫝\u0338がか\u3099ぎき\u3099ぐく\u3099げけ\u3099ごこ\u3099ざさ\u3099じし\u3099ずす\u3099",
    "ぜせ\u3099ぞそ\u3099だた\u3099ぢち\u3099づつ\u3099でて\u3099どと\u3099ばは\u3099ぱは\u309Aびひ\u3099ぴひ\u309A",
    "ぶふ\u3099ぷふ\u309Aべへ\u3099ぺへ\u309Aぼほ\u3099ぽほ\u309Aゔう\u3099゛ \u3099゜ \u309A\u309E\u309D\u3099",
    "ゟよりガカ\u3099ギキ\u3099グク\u3099ゲケ\u3099ゴコ\u3099ザサ\u3099ジシ\u3099ズス\u3099ゼセ\u3099ゾソ\u3099ダタ\u3099",
    "ヂチ\u3099ヅツ\u3099デテ\u3099ドト\u3099バハ\u3099パハ\u309Aビヒ\u3099ピヒ\u309Aブフ\u3099プフ\u309Aベヘ\u3099",
    "ペヘ\u309Aボホ\u3099ポホ\u309Aヴウ\u3099ヷワ\u3099ヸヰ\u3099ヹヱ\u3099ヺヲ\u3099\u30FE\u30FD\u3099ヿコト㉑21㉒22",
    "㉓23㉔24㉕25㉖26㉗27㉘28㉙29㉚30㉛31㉜32㉝33㉞34㉟35㉮\u1100\u1161㉯\u1102\u1161㉰\u1103\u1161㉱\u1105\u1161",
    "㉲\u1106\u1161㉳\u1107\u1161㉴\u1109\u1161㉵\u110B\u1161㉶\u110C\u1161㉷\u110E\u1161㉸\u110F\u1161",
    "㉹\u1110\u1161㉺\u1111\u1161㉻\u1112\u1161㊱36㊲37㊳38㊴39㊵40㊶41㊷42㊸43㊹44㊺45㊻46㊼47㊽48㊾49㊿50㋀1月㋁2月",
    "㋂3月㋃4月㋄5月㋅6月㋆7月㋇8月㋈9月㌔キロ㌧トン㌨ナノ㌿ホン㍉ミリ㍒リラ㍕レム㍘0点㍙1点㍚2点㍛3点㍜4点㍝5点㍞6点㍟7点㍠8点㍡9点㍲da㍳au㍵ov㍶pc㍻平成㍼昭和",
    "㍽大正㍾明治㎀pa㎁na㎂μa㎃ma㎄ka㎅kb㎆mb㎇gb㎊pf㎋nf㎌μf㎍μg㎎mg㎏kg㎐hz㎕μl㎖ml㎗dl㎘kl㎙fm㎚nm㎛μm㎜mm㎝cm㎞km㎡m2㎥m3㎩pa",
    "㎰ps㎱ns㎲μs㎳ms㎴pv㎵nv㎶μv㎷mv㎸kv㎹mv㎺pw㎻nw㎼μw㎽mw㎾kw㎿mw㏀kω㏁mω㏃bq㏄cc㏅cd㏈db㏉gy㏊ha㏋hp㏌in㏍kk㏎km㏏kt㏐lm",
    "㏑ln㏓lx㏔mb㏗ph㏚pr㏛sr㏜sv㏝wb㏠1日㏡2日㏢3日㏣4日㏤5日㏥6日㏦7日㏧8日㏨9日ﬀffﬁfiﬂflﬅstﬆstﬓմնﬔմեﬕմիﬖվնﬗմխ",
    "\uFB1D\u05D9\u05B4\uFB1F\u05F2\u05B7\uFB2A\u05E9\u05C1\uFB2B\u05E9\u05C2\uFB2E\u05D0\u05B7",
    "\uFB2F\u05D0\u05B8\uFB30\u05D0\u05BC\uFB31\u05D1\u05BC\uFB32\u05D2\u05BC\uFB33\u05D3\u05BC",
    "\uFB34\u05D4\u05BC\uFB35\u05D5\u05BC\uFB36\u05D6\u05BC\uFB38\u05D8\u05BC\uFB39\u05D9\u05BC",
    "\uFB3A\u05DA\u05BC\uFB3B\u05DB\u05BC\uFB3C\u05DC\u05BC\uFB3E\u05DE\u05BC\uFB40\u05E0\u05BC",
    "\uFB41\u05E1\u05BC\uFB43\u05E3\u05BC\uFB44\u05E4\u05BC\uFB46\u05E6\u05BC\uFB47\u05E7\u05BC",
    "\uFB48\u05E8\u05BC\uFB49\u05E9\u05BC\uFB4A\u05EA\u05BC\uFB4B\u05D5\u05B9\uFB4C\u05D1\u05BF",
    "\uFB4D\u05DB\u05BF\uFB4E\u05E4\u05BF\uFB4F\u05D0\u05DC\uFBA4\u06D5\u0654\uFBA5\u06D5\u0654",
    "\uFBB0\u06D2\u0654\uFBB1\u06D2\u0654\uFBDD\u06C7\u0674\uFC05\u0628\u062C\uFC06\u0628\u062D",
    "\uFC07\u0628\u062E\uFC08\u0628\u0645\uFC09\u0628\u0649\uFC0A\u0628\u064A\uFC0B\u062A\u062C",
    "\uFC0C\u062A\u062D\uFC0D\u062A\u062E\uFC0E\u062A\u0645\uFC0F\u062A\u0649\uFC10\u062A\u064A",
    "\uFC11\u062B\u062C\uFC12\u062B\u0645\uFC13\u062B\u0649\uFC14\u062B\u064A\uFC15\u062C\u062D",
    "\uFC16\u062C\u0645\uFC17\u062D\u062C\uFC18\u062D\u0645\uFC19\u062E\u062C\uFC1A\u062E\u062D",
    "\uFC1B\u062E\u0645\uFC1C\u0633\u062C\uFC1D\u0633\u062D\uFC1E\u0633\u062E\uFC1F\u0633\u0645",
    "\uFC20\u0635\u062D\uFC21\u0635\u0645\uFC22\u0636\u062C\uFC23\u0636\u062D\uFC24\u0636\u062E",
    "\uFC25\u0636\u0645\uFC26\u0637\u062D\uFC27\u0637\u0645\uFC28\u0638\u0645\uFC29\u0639\u062C",
    "\uFC2A\u0639\u0645\uFC2B\u063A\u062C\uFC2C\u063A\u0645\uFC2D\u0641\u062C\uFC2E\u0641\u062D",
    "\uFC2F\u0641\u062E\uFC30\u0641\u0645\uFC31\u0641\u0649\uFC32\u0641\u064A\uFC33\u0642\u062D",
    "\uFC34\u0642\u0645\uFC35\u0642\u0649\uFC36\u0642\u064A\uFC37\u0643\u0627\uFC38\u0643\u062C",
    "\uFC39\u0643\u062D\uFC3A\u0643\u062E\uFC3B\u0643\u0644\uFC3C\u0643\u0645\uFC3D\u0643\u0649",
    "\uFC3E\u0643\u064A\uFC3F\u0644\u062C\uFC40\u0644\u062D\uFC41\u0644\u062E\uFC42\u0644\u0645",
    "\uFC43\u0644\u0649\uFC44\u0644\u064A\uFC45\u0645\u062C\uFC46\u0645\u062D\uFC47\u0645\u062E",
    "\uFC48\u0645\u0645\uFC49\u0645\u0649\uFC4A\u0645\u064A\uFC4B\u0646\u062C\uFC4C\u0646\u062D",
    "\uFC4D\u0646\u062E\uFC4E\u0646\u0645\uFC4F\u0646\u0649\uFC50\u0646\u064A\uFC51\u0647\u062C",
    "\uFC52\u0647\u0645\uFC53\u0647\u0649\uFC54\u0647\u064A\uFC55\u064A\u062C\uFC56\u064A\u062D",
    "\uFC57\u064A\u062E\uFC58\u064A\u0645\uFC59\u064A\u0649\uFC5A\u064A\u064A\uFC5B\u0630\u0670",
    "\uFC5C\u0631\u0670\uFC5D\u0649\u0670\uFC6A\u0628\u0631\uFC6B\u0628\u0632\uFC6C\u0628\u0645",
    "\uFC6D\u0628\u0646\uFC6E\u0628\u0649\uFC6F\u0628\u064A\uFC70\u062A\u0631\uFC71\u062A\u0632",
    "\uFC72\u062A\u0645\uFC73\u062A\u0646\uFC74\u062A\u0649\uFC75\u062A\u064A\uFC76\u062B\u0631",
    "\uFC77\u062B\u0632\uFC78\u062B\u0645\uFC79\u062B\u0646\uFC7A\u062B\u0649\uFC7B\u062B\u064A",
    "\uFC7C\u0641\u0649\uFC7D\u0641\u064A\uFC7E\u0642\u0649\uFC7F\u0642\u064A\uFC80\u0643\u0627",
    "\uFC81\u0643\u0644\uFC82\u0643\u0645\uFC83\u0643\u0649\uFC84\u0643\u064A\uFC85\u0644\u0645",
    "\uFC86\u0644\u0649\uFC87\u0644\u064A\uFC88\u0645\u0627\uFC89\u0645\u0645\uFC8A\u0646\u0631",
    "\uFC8B\u0646\u0632\uFC8C\u0646\u0645\uFC8D\u0646\u0646\uFC8E\u0646\u0649\uFC8F\u0646\u064A",
    "\uFC90\u0649\u0670\uFC91\u064A\u0631\uFC92\u064A\u0632\uFC93\u064A\u0645\uFC94\u064A\u0646",
    "\uFC95\u064A\u0649\uFC96\u064A\u064A\uFC9C\u0628\u062C\uFC9D\u0628\u062D\uFC9E\u0628\u062E",
    "\uFC9F\u0628\u0645\uFCA0\u0628\u0647\uFCA1\u062A\u062C\uFCA2\u062A\u062D\uFCA3\u062A\u062E",
    "\uFCA4\u062A\u0645\uFCA5\u062A\u0647\uFCA6\u062B\u0645\uFCA7\u062C\u062D\uFCA8\u062C\u0645",
    "\uFCA9\u062D\u062C\uFCAA\u062D\u0645\uFCAB\u062E\u062C\uFCAC\u062E\u0645\uFCAD\u0633\u062C",
    "\uFCAE\u0633\u062D\uFCAF\u0633\u062E\uFCB0\u0633\u0645\uFCB1\u0635\u062D\uFCB2\u0635\u062E",
    "\uFCB3\u0635\u0645\uFCB4\u0636\u062C\uFCB5\u0636\u062D\uFCB6\u0636\u062E\uFCB7\u0636\u0645",
    "\uFCB8\u0637\u062D\uFCB9\u0638\u0645\uFCBA\u0639\u062C\uFCBB\u0639\u0645\uFCBC\u063A\u062C",
    "\uFCBD\u063A\u0645\uFCBE\u0641\u062C\uFCBF\u0641\u062D\uFCC0\u0641\u062E\uFCC1\u0641\u0645",
    "\uFCC2\u0642\u062D\uFCC3\u0642\u0645\uFCC4\u0643\u062C\uFCC5\u0643\u062D\uFCC6\u0643\u062E",
    "\uFCC7\u0643\u0644\uFCC8\u0643\u0645\uFCC9\u0644\u062C\uFCCA\u0644\u062D\uFCCB\u0644\u062E",
    "\uFCCC\u0644\u0645\uFCCD\u0644\u0647\uFCCE\u0645\u062C\uFCCF\u0645\u062D\uFCD0\u0645\u062E",
    "\uFCD1\u0645\u0645\uFCD2\u0646\u062C\uFCD3\u0646\u062D\uFCD4\u0646\u062E\uFCD5\u0646\u0645",
    "\uFCD6\u0646\u0647\uFCD7\u0647\u062C\uFCD8\u0647\u0645\uFCD9\u0647\u0670\uFCDA\u064A\u062C",
    "\uFCDB\u064A\u062D\uFCDC\u064A\u062E\uFCDD\u064A\u0645\uFCDE\u064A\u0647\uFCE1\u0628\u0645",
    "\uFCE2\u0628\u0647\uFCE3\u062A\u0645\uFCE4\u062A\u0647\uFCE5\u062B\u0645\uFCE6\u062B\u0647",
    "\uFCE7\u0633\u0645\uFCE8\u0633\u0647\uFCE9\u0634\u0645\uFCEA\u0634\u0647\uFCEB\u0643\u0644",
    "\uFCEC\u0643\u0645\uFCED\u0644\u0645\uFCEE\u0646\u0645\uFCEF\u0646\u0647\uFCF0\u064A\u0645",
    "\uFCF1\u064A\u0647\uFCF5\u0637\u0649\uFCF6\u0637\u064A\uFCF7\u0639\u0649\uFCF8\u0639\u064A",
    "\uFCF9\u063A\u0649\uFCFA\u063A\u064A\uFCFB\u0633\u0649\uFCFC\u0633\u064A\uFCFD\u0634\u0649",
    "\uFCFE\u0634\u064A\uFCFF\u062D\u0649\uFD00\u062D\u064A\uFD01\u062C\u0649\uFD02\u062C\u064A",
    "\uFD03\u062E\u0649\uFD04\u062E\u064A\uFD05\u0635\u0649\uFD06\u0635\u064A\uFD07\u0636\u0649",
    "\uFD08\u0636\u064A\uFD09\u0634\u062C\uFD0A\u0634\u062D\uFD0B\u0634\u062E\uFD0C\u0634\u0645",
    "\uFD0D\u0634\u0631\uFD0E\u0633\u0631\uFD0F\u0635\u0631\uFD10\u0636\u0631\uFD11\u0637\u0649",
    "\uFD12\u0637\u064A\uFD13\u0639\u0649\uFD14\u0639\u064A\uFD15\u063A\u0649\uFD16\u063A\u064A",
    "\uFD17\u0633\u0649\uFD18\u0633\u064A\uFD19\u0634\u0649\uFD1A\u0634\u064A\uFD1B\u062D\u0649",
    "\uFD1C\u062D\u064A\uFD1D\u062C\u0649\uFD1E\u062C\u064A\uFD1F\u062E\u0649\uFD20\u062E\u064A",
    "\uFD21\u0635\u0649\uFD22\u0635\u064A\uFD23\u0636\u0649\uFD24\u0636\u064A\uFD25\u0634\u062C",
    "\uFD26\u0634\u062D\uFD27\u0634\u062E\uFD28\u0634\u0645\uFD29\u0634\u0631\uFD2A\u0633\u0631",
    "\uFD2B\u0635\u0631\uFD2C\u0636\u0631\uFD2D\u0634\u062C\uFD2E\u0634\u062D\uFD2F\u0634\u062E",
    "\uFD30\u0634\u0645\uFD31\u0633\u0647\uFD32\u0634\u0647\uFD33\u0637\u0645\uFD34\u0633\u062C",
    "\uFD35\u0633\u062D\uFD36\u0633\u062E\uFD37\u0634\u062C\uFD38\u0634\u062D\uFD39\u0634\u062E",
    "\uFD3A\u0637\u0645\uFD3B\u0638\u0645\uFD3C\u0627\u064B\uFD3D\u0627\u064B︰..﹉ \u0305﹊ \u0305",
    "﹋ \u0305﹌ \u0305\uFE70 \u064B\uFE71\u0640\u064B\uFE72 \u064C\uFE74 \u064D\uFE76 \u064E",
    "\uFE77\u0640\u064E\uFE78 \u064F\uFE79\u0640\u064F\uFE7A \u0650\uFE7B\u0640\u0650",
    "\uFE7C \u0651\uFE7D\u0640\u0651\uFE7E \u0652\uFE7F\u0640\u0652\uFE81\u0627\u0653",
    "\uFE82\u0627\u0653\uFE83\u0627\u0654\uFE84\u0627\u0654\uFE85\u0648\u0654\uFE86\u0648\u0654",
    "\uFE87\u0627\u0655\uFE88\u0627\u0655\uFE89\u064A\u0654\uFE8A\u064A\u0654\uFE8B\u064A\u0654",
    "\uFE8C\u064A\u0654\uFEFB\u0644\u0627\uFEFC\u0644\u0627￣ \u0304𝅗𝅥𝅗𝅥𝅘𝅥𝅘𝅥𝆹𝅥𝆹𝅥𝆺𝅥𝆺𝅥"]),
  (3, [
    "¼1⁄4½1⁄2¾3⁄4Ǆdz\u030Cǅdz\u030Cǆdz\u030CǕu\u0308\u0304ǖu\u0308\u0304Ǘu\u0308\u0301",
    "ǘu\u0308\u0301Ǚu\u0308\u030Cǚu\u0308\u030CǛu\u0308\u0300ǜu\u0308\u0300Ǟa\u0308\u0304",
    "ǟa\u0308\u0304Ǡa\u0307\u0304ǡa\u0307\u0304Ǭo\u0328\u0304ǭo\u0328\u0304Ǻa\u030A\u0301",
    "ǻa\u030A\u0301Ȫo\u0308\u0304ȫo\u0308\u0304Ȭo\u0303\u0304ȭo\u0303\u0304Ȱo\u0307\u0304",
    "ȱo\u0307\u0304΅ \u0308\u0301ΐι\u0308\u0301ΰυ\u0308\u0301\u0CCB\u0CC6\u0CC2\u0CD5",
    "\u0DDD\u0DD9\u0DCF\u0DCA\u0F77\u0FB2\u0F71\u0F80\u0F79\u0FB3\u0F71\u0F80Ḉc\u0327\u0301",
    "ḉc\u0327\u0301Ḕe\u0304\u0300ḕe\u0304\u0300Ḗe\u0304\u0301ḗe\u0304\u0301Ḝe\u0327\u0306",
    "ḝe\u0327\u0306Ḯi\u0308\u0301ḯi\u0308\u0301Ḹl\u0323\u0304ḹl\u0323\u0304Ṍo\u0303\u0301",
    "ṍo\u0303\u0301Ṏo\u0303\u0308ṏo\u0303\u0308Ṑo\u0304\u0300ṑo\u0304\u0300Ṓo\u0304\u0301",
    "ṓo\u0304\u0301Ṝr\u0323\u0304ṝr\u0323\u0304Ṥs\u0301\u0307ṥs\u0301\u0307Ṧs\u030C\u0307",
    "ṧs\u030C\u0307Ṩs\u0323\u0307ṩs\u0323\u0307Ṹu\u0303\u0301ṹu\u0303\u0301Ṻu\u0304\u0308",
    "ṻu\u0304\u0308Ấa\u0302\u0301ấa\u0302\u0301Ầa\u0302\u0300ầa\u0302\u0300Ẩa\u0302\u0309",
    "ẩa\u0302\u0309Ẫa\u0302\u0303ẫa\u0302\u0303Ậa\u0323\u0302ậa\u0323\u0302Ắa\u0306\u0301",
    "ắa\u0306\u0301Ằa\u0306\u0300ằa\u0306\u0300Ẳa\u0306\u0309ẳa\u0306\u0309Ẵa\u0306\u0303",
    "ẵa\u0306\u0303Ặa\u0323\u0306ặa\u0323\u0306Ếe\u0302\u0301ếe\u0302\u0301Ềe\u0302\u0300",
    "ềe\u0302\u0300Ểe\u0302\u0309ểe\u0302\u0309Ễe\u0302\u0303ễe\u0302\u0303Ệe\u0323\u0302",
    "ệe\u0323\u0302Ốo\u0302\u0301ốo\u0302\u0301Ồo\u0302\u0300ồo\u0302\u0300Ổo\u0302\u0309",
    "ổo\u0302\u0309Ỗo\u0302\u0303ỗo\u0302\u0303Ộo\u0323\u0302ộo\u0323\u0302Ớo\u031B\u0301",
    "ớo\u031B\u0301Ờo\u031B\u0300ờo\u031B\u0300Ởo\u031B\u0309ởo\u031B\u0309Ỡo\u031B\u0303",
    "ỡo\u031B\u0303Ợo\u031B\u0323ợo\u031B\u0323Ứu\u031B\u0301ứu\u031B\u0301Ừu\u031B\u0300",
    "ừu\u031B\u0300Ửu\u031B\u0309ửu\u031B\u0309Ữu\u031B\u0303ữu\u031B\u0303Ựu\u031B\u0323",
    "ựu\u031B\u0323ἂα\u0313\u0300ἃα\u0314\u0300ἄα\u0313\u0301ἅα\u0314\u0301ἆα\u0313\u0342",
    "ἇα\u0314\u0342Ἂα\u0313\u0300Ἃα\u0314\u0300Ἄα\u0313\u0301Ἅα\u0314\u0301Ἆα\u0313\u0342",
    "Ἇα\u0314\u0342ἒε\u0313\u0300ἓε\u0314\u0300ἔε\u0313\u0301ἕε\u0314\u0301Ἒε\u0313\u0300",
    "Ἓε\u0314\u0300Ἔε\u0313\u0301Ἕε\u0314\u0301ἢη\u0313\u0300ἣη\u0314\u0300ἤη\u0313\u0301",
    "ἥη\u0314\u0301ἦη\u0313\u0342ἧη\u0314\u0342Ἢη\u0313\u0300Ἣη\u0314\u0300Ἤη\u0313\u0301",
    "Ἥη\u0314\u0301Ἦη\u0313\u0342Ἧη\u0314\u0342ἲι\u0313\u0300ἳι\u0314\u0300ἴι\u0313\u0301",
    "ἵι\u0314\u0301ἶι\u0313\u0342ἷι\u0314\u0342Ἲι\u0313\u0300Ἳι\u0314\u0300Ἴι\u0313\u0301",
    "Ἵι\u0314\u0301Ἶι\u0313\u0342Ἷι\u0314\u0342ὂο\u0313\u0300ὃο\u0314\u0300ὄο\u0313\u0301",
    "ὅο\u0314\u0301Ὂο\u0313\u0300Ὃο\u0314\u0300Ὄο\u0313\u0301Ὅο\u0314\u0301ὒυ\u0313\u0300",
    "ὓυ\u0314\u0300ὔυ\u0313\u0301ὕυ\u0314\u0301ὖυ\u0313\u0342ὗυ\u0314\u0342Ὓυ\u0314\u0300",
    "Ὕυ\u0314\u0301Ὗυ\u0314\u0342ὢω\u0313\u0300ὣω\u0314\u0300ὤω\u0313\u0301ὥω\u0314\u0301",
    "ὦω\u0313\u0342ὧω\u0314\u0342Ὢω\u0313\u0300Ὣω\u0314\u0300Ὤω\u0313\u0301Ὥω\u0314\u0301",
    "Ὦω\u0313\u0342Ὧω\u0314\u0342ᾀα\u0313ιᾁα\u0314ιᾈα\u0313ιᾉα\u0314ιᾐη\u0313ιᾑη\u0314ιᾘη\u0313ι",
    "ᾙη\u0314ιᾠω\u0313ιᾡω\u0314ιᾨω\u0313ιᾩω\u0314ιᾲα\u0300ιᾴα\u0301ιᾷα\u0342ι῁ \u0308\u0342",
    "ῂη\u0300ιῄη\u0301ιῇη\u0342ι῍ \u0313\u0300῎ \u0313\u0301῏ \u0313\u0342ῒι\u0308\u0300",
    "ΐι\u0308\u0301ῗι\u0308\u0342῝ \u0314\u0300῞ \u0314\u0301῟ \u0314\u0342ῢυ\u0308\u0300",
    "ΰυ\u0308\u0301ῧυ\u0308\u0342῭ \u0308\u0300΅ \u0308\u0301ῲω\u0300ιῴω\u0301ιῷω\u0342ι…...‴′′′",
    "‷‵‵‵℀a/c℁a/s℅c/o℆c/u℡tel⅓1⁄3⅔2⁄3⅕1⁄5⅖2⁄5⅗3⁄5⅘4⁄5⅙1⁄6⅚5⁄6⅛1⁄8⅜3⁄8⅝5⁄8⅞7⁄8ⅢiiiⅦviiⅫxiiⅲiii",
    "ⅶviiⅻxii∭∫∫∫∰∮∮∮⑴(1)⑵(2)⑶(3)⑷(4)⑸(5)⑹(6)⑺(7)⑻(8)⑼(9)⒑10.⒒11.⒓12.⒔13.⒕14.⒖15.⒗16.⒘17.⒙18.",
    "⒚19.⒛20.⒜(a)⒝(b)⒞(c)⒟(d)⒠(e)⒡(f)⒢(g)⒣(h)⒤(i)⒥(j)⒦(k)⒧(l)⒨(m)⒩(n)⒪(o)⒫(p)⒬(q)⒭(r)⒮(s)⒯(t)",
    "⒰(u)⒱(v)⒲(w)⒳(x)⒴(y)⒵(z)⩴::=⩶===㈀(\u1100)㈁(\u1102)㈂(\u1103)㈃(\u1105)㈄(\u1106)㈅(\u1107)",
    "㈆(\u1109)㈇(\u110B)㈈(\u110C)㈉(\u110E)㈊(\u110F)㈋(\u1110)㈌(\u1111)㈍(\u1112)㈠(一)㈡(二)㈢(三)㈣(四)",
    "㈤(五)㈥(六)㈦(七)㈧(八)㈨(九)㈩(十)㈪(月)㈫(火)㈬(水)㈭(木)㈮(金)㈯(土)㈰(日)㈱(株)㈲(有)㈳(社)㈴(名)㈵(特)㈶(財)㈷(祝)㈸(労)㈹(代)",
    "㈺(呼)㈻(学)㈼(監)㈽(企)㈾(資)㈿(協)㉀(祭)㉁(休)㉂(自)㉃(至)㋉10月㋊11月㋋12月㌃ア\u30FCル㌅インチ㌆ウォン㌉オンス㌊オ\u30FCム㌋カイリ",
    "㌜ケ\u30FCス㌝コルナ㌢センチ㌣セント㌥テ\u3099シ㌦ト\u3099ル㌩ノット㌪ハイツ㌰ヒ\u309Aコ㌱ヒ\u3099ル㌵フラン㌷ヘ\u309Aソ㌹ヘルツ㍁ホ\u30FCル",
    "㍂ホ\u30FCン㍄マイル㍅マッハ㍆マルク㍋メカ\u3099㍏ヤ\u30FCル㍐ユアン㍗ワット㍢10点㍣11点㍤12点㍥13点㍦14点㍧15点㍨16点㍩17点㍪18点㍫19点㍬20点",
    "㍭21点㍮22点㍯23点㍰24点㍱hpa㍴bar㎈cal㎑khz㎒mhz㎓ghz㎔thz㎟mm2㎠cm2㎢km2㎣mm3㎤cm3㎦km3㎧m∕s㎪kpa㎫mpa㎬gpa㎭rad",
    "㏇co.㏒log㏕mil㏖mol㏙ppm㏩10日㏪11日㏫12日㏬13日㏭14日㏮15日㏯16日㏰17日㏱18日㏲19日㏳20日㏴21日㏵22日㏶23日㏷24日㏸25日㏹26日",
    "㏺27日㏻28日㏼29日㏽30日㏾31日ﬃffiﬄffl\uFB2C\u05E9\u05BC\u05C1\uFB2D\u05E9\u05BC\u05C2",
    "\uFBEA\u064A\u0654\u0627\uFBEB\u064A\u0654\u0627\uFBEC\u064A\u0654\u06D5",
    "\uFBED\u064A\u0654\u06D5\uFBEE\u064A\u0654\u0648\uFBEF\u064A\u0654\u0648",
    "\uFBF0\u064A\u0654\u06C7\uFBF1\u064A\u0654\u06C7\uFBF2\u064A\u0654\u06C6",
    "\uFBF3\u064A\u0654\u06C6\uFBF4\u064A\u0654\u06C8\uFBF5\u064A\u0654\u06C8",
    "\uFBF6\u064A\u0654\u06D0\uFBF7\u064A\u0654\u06D0\uFBF8\u064A\u0654\u06D0",
    "\uFBF9\u064A\u0654\u0649\uFBFA\u064A\u0654\u0649\uFBFB\u064A\u0654\u0649",
    "\uFC00\u064A\u0654\u062C\uFC01\u064A\u0654\u062D\uFC02\u064A\u0654\u0645",
    "\uFC03\u064A\u0654\u0649\uFC04\u064A\u0654\u064A\uFC5E \u064C\u0651\uFC5F \u064D\u0651",
    "\uFC60 \u064E\u0651\uFC61 \u064F\u0651\uFC62 \u0650\u0651\uFC63 \u0651\u0670",
    "\uFC64\u064A\u0654\u0631\uFC65\u064A\u0654\u0632\uFC66\u064A\u0654\u0645",
    "\uFC67\u064A\u0654\u0646\uFC68\u064A\u0654\u0649\uFC69\u064A\u0654\u064A",
    "\uFC97\u064A\u0654\u062C\uFC98\u064A\u0654\u062D\uFC99\u064A\u0654\u062E",
    "\uFC9A\u064A\u0654\u0645\uFC9B\u064A\u0654\u0647\uFCDF\u064A\u0654\u0645",
    "\uFCE0\u064A\u0654\u0647\uFCF2\u0640\u064E\u0651\uFCF3\u0640\u064F\u0651",
    "\uFCF4\u0640\u0650\u0651\uFD50\u062A\u062C\u0645\uFD51\u062A\u062D\u062C",
    "\uFD52\u062A\u062D\u062C\uFD53\u062A\u062D\u0645\uFD54\u062A\u062E\u0645",
    "\uFD55\u062A\u0645\u062C\uFD56\u062A\u0645\u062D\uFD57\u062A\u0645\u062E",
    "\uFD58\u062C\u0645\u062D\uFD59\u062C\u0645\u062D\uFD5A\u062D\u0645\u064A",
    "\uFD5B\u062D\u0645\u0649\uFD5C\u0633\u062D\u062C\uFD5D\u0633\u062C\u062D",
    "\uFD5E\u0633\u062C\u0649\uFD5F\u0633\u0645\u062D\uFD60\u0633\u0645\u062D",
    "\uFD61\u0633\u0645\u062C\uFD62\u0633\u0645\u0645\uFD63\u0633\u0645\u0645",
    "\uFD64\u0635\u062D\u062D\uFD65\u0635\u062D\u062D\uFD66\u0635\u0645\u0645",
    "\uFD67\u0634\u062D\u0645\uFD68\u0634\u062D\u0645\uFD69\u0634\u062C\u064A",
    "\uFD6A\u0634\u0645\u062E\uFD6B\u0634\u0645\u062E\uFD6C\u0634\u0645\u0645",
    "\uFD6D\u0634\u0645\u0645\uFD6E\u0636\u062D\u0649\uFD6F\u0636\u062E\u0645",
    "\uFD70\u0636\u062E\u0645\uFD71\u0637\u0645\u062D\uFD72\u0637\u0645\u062D",
    "\uFD73\u0637\u0645\u0645\uFD74\u0637\u0645\u064A\uFD75\u0639\u062C\u0645",
    "\uFD76\u0639\u0645\u0645\uFD77\u0639\u0645\u0645\uFD78\u0639\u0645\u0649",
    "\uFD79\u063A\u0645\u0645\uFD7A\u063A\u0645\u064A\uFD7B\u063A\u0645\u0649",
    "\uFD7C\u0641\u062E\u0645\uFD7D\u0641\u062E\u0645\uFD7E\u0642\u0645\u062D",
    "\uFD7F\u0642\u0645\u0645\uFD80\u0644\u062D\u0645\uFD81\u0644\u062D\u064A",
    "\uFD82\u0644\u062D\u0649\uFD83\u0644\u062C\u062C\uFD84\u0644\u062C\u062C",
    "\uFD85\u0644\u062E\u0645\uFD86\u0644\u062E\u0645\uFD87\u0644\u0645\u062D",
    "\uFD88\u0644\u0645\u062D\uFD89\u0645\u062D\u062C\uFD8A\u0645\u062D\u0645",
    "\uFD8B\u0645\u062D\u064A\uFD8C\u0645\u062C\u062D\uFD8D\u0645\u062C\u0645",
    "\uFD8E\u0645\u062E\u062C\uFD8F\u0645\u062E\u0645\uFD92\u0645\u062C\u062E",
    "\uFD93\u0647\u0645\u062C\uFD94\u0647\u0645\u0645\uFD95\u0646\u062D\u0645",
    "\uFD96\u0646\u062D\u0649\uFD97\u0646\u062C\u0645\uFD98\u0646\u062C\u0645",
    "\uFD99\u0646\u062C\u0649\uFD9A\u0646\u0645\u064A\uFD9B\u0646\u0645\u0649",
    "\uFD9C\u064A\u0645\u0645\uFD9D\u064A\u0645\u0645\uFD9E\u0628\u062E\u064A",
    "\uFD9F\u062A\u062C\u064A\uFDA0\u062A\u062C\u0649\uFDA1\u062A\u062E\u064A",
    "\uFDA2\u062A\u062E\u0649\uFDA3\u062A\u0645\u064A\uFDA4\u062A\u0645\u0649",
    "\uFDA5\u062C\u0645\u064A\uFDA6\u062C\u062D\u0649\uFDA7\u062C\u0645\u0649",
    "\uFDA8\u0633\u062E\u0649\uFDA9\u0635\u062D\u064A\uFDAA\u0634\u062D\u064A",
    "\uFDAB\u0636\u062D\u064A\uFDAC\u0644\u062C\u064A\uFDAD\u0644\u0645\u064A",
    "\uFDAE\u064A\u062D\u064A\uFDAF\u064A\u062C\u064A\uFDB0\u064A\u0645\u064A",
    "\uFDB1\u0645\u0645\u064A\uFDB2\u0642\u0645\u064A\uFDB3\u0646\u062D\u064A",
    "\uFDB4\u0642\u0645\u062D\uFDB5\u0644\u062D\u0645\uFDB6\u0639\u0645\u064A",
    "\uFDB7\u0643\u0645\u064A\uFDB8\u0646\u062C\u062D\uFDB9\u0645\u062E\u064A",
    "\uFDBA\u0644\u062C\u0645\uFDBB\u0643\u0645\u0645\uFDBC\u0644\u062C\u0645",
    "\uFDBD\u0646\u062C\u062D\uFDBE\u062C\u062D\u064A\uFDBF\u062D\u062C\u064A",
    "\uFDC0\u0645\u062C\u064A\uFDC1\u0641\u0645\u064A\uFDC2\u0628\u062D\u064A",
    "\uFDC3\u0643\u0645\u0645\uFDC4\u0639\u062C\u0645\uFDC5\u0635\u0645\u0645",
    "\uFDC6\u0633\u062E\u064A\uFDC7\u0646\u062C\u064A\uFDF0\u0635\u0644\u06D2",
    "\uFDF1\u0642\u0644\u06D2\uFDF9\u0635\u0644\u0649\uFEF5\u0644\u0627\u0653",
    "\uFEF6\u0644\u0627\u0653\uFEF7\u0644\u0627\u0654\uFEF8\u0644\u0627\u0654",
    "\uFEF9\u0644\u0627\u0655\uFEFA\u0644\u0627\u0655𝅘𝅥𝅮𝅘𝅥𝅮𝅘𝅥𝅯𝅘𝅥𝅯𝅘𝅥𝅰𝅘𝅥𝅰𝅘𝅥𝅱𝅘𝅥𝅱𝅘𝅥𝅲𝅘𝅥𝅲𝆹𝅥𝅮𝆹𝅥𝅮𝆺𝅥𝅮𝆺𝅥𝅮𝆹𝅥𝅯𝆹𝅥𝅯𝆺𝅥𝅯𝆺𝅥𝅯"]),
  (4, [
    "ᾂα\u0313\u0300ιᾃα\u0314\u0300ιᾄα\u0313\u0301ιᾅα\u0314\u0301ιᾆα\u0313\u0342ιᾇα\u0314\u0342ι",
    "ᾊα\u0313\u0300ιᾋα\u0314\u0300ιᾌα\u0313\u0301ιᾍα\u0314\u0301ιᾎα\u0313\u0342ιᾏα\u0314\u0342ι",
    "ᾒη\u0313\u0300ιᾓη\u0314\u0300ιᾔη\u0313\u0301ιᾕη\u0314\u0301ιᾖη\u0313\u0342ιᾗη\u0314\u0342ι",
    "ᾚη\u0313\u0300ιᾛη\u0314\u0300ιᾜη\u0313\u0301ιᾝη\u0314\u0301ιᾞη\u0313\u0342ιᾟη\u0314\u0342ι",
    "ᾢω\u0313\u0300ιᾣω\u0314\u0300ιᾤω\u0313\u0301ιᾥω\u0314\u0301ιᾦω\u0313\u0342ιᾧω\u0314\u0342ι",
    "ᾪω\u0313\u0300ιᾫω\u0314\u0300ιᾬω\u0313\u0301ιᾭω\u0314\u0301ιᾮω\u0313\u0342ιᾯω\u0314\u0342ι",
    "⁗′′′′Ⅷviiiⅷviii⑽(10)⑾(11)⑿(12)⒀(13)⒁(14)⒂(15)⒃(16)⒄(17)⒅(18)⒆(19)⒇(20)⨌∫∫∫∫㈎(\u1100\u1161)",
    "㈏(\u1102\u1161)㈐(\u1103\u1161)㈑(\u1105\u1161)㈒(\u1106\u1161)㈓(\u1107\u1161)㈔(\u1109\u1161)",
    "㈕(\u110B\u1161)㈖(\u110C\u1161)㈗(\u110E\u1161)㈘(\u110F\u1161)㈙(\u1110\u1161)㈚(\u1111\u1161)",
    "㈛(\u1112\u1161)㈜(\u110C\u116E)㌁アルファ㌈エ\u30FCカ\u30FC㌌カラット㌍カロリ\u30FC㌎カ\u3099ロン㌏カ\u3099ンマ",
    "㌐キ\u3099カ\u3099㌑キ\u3099ニ\u30FC㌒キュリ\u30FC㌘ク\u3099ラム㌛クロ\u30FCネ㌞コ\u30FCホ\u309A㌟サイクル",
    "㌤タ\u3099\u30FCス㌬ハ\u309A\u30FCツ㌯ヒ\u309Aクル㌳フィ\u30FCト㌸ヘ\u309Aニヒ㌺ヘ\u309Aンス㌼ヘ\u3099\u30FCタ",
    "㌾ホ\u3099ルト㍃マイクロ㍈ミクロン㍍メ\u30FCトル㍎ヤ\u30FCト\u3099㍑リットル㍓ルヒ\u309A\u30FC㍿株式会社㎉kcal㎨m∕s2㏂a.m.㏆c∕kg",
    "㏘p.m.\uFDF2\u0627\u0644\u0644\u0647\uFDF3\u0627\u0643\u0628\u0631",
    "\uFDF4\u0645\u062D\u0645\u062F\uFDF5\u0635\u0644\u0639\u0645\uFDF6\u0631\u0633\u0648\u0644",
    "\uFDF7\u0639\u0644\u064A\u0647\uFDF8\u0648\u0633\u0644\u0645\uFDFC\u0631\u06CC\u0627\u0644"]),
  (5, [
    "㌀アハ\u309A\u30FCト㌂アンヘ\u309Aア㌄イニンク\u3099㌗キロワット㌠サンチ\u30FCム㌡シリンク\u3099㌭ハ\u3099\u30FCレル",
    "㌶ヘクタ\u30FCル㌻ヘ\u309A\u30FCシ\u3099㌽ホ\u309Aイント㍀ホ\u309Aント\u3099㍇マンション㍌メカ\u3099トン",
    "㍔ル\u30FCフ\u3099ル㎮rad∕s"]),
  (6, [
    "㌇エスク\u30FCト\u3099㌓キ\u3099ルタ\u3099\u30FC㌕キロク\u3099ラム㌖キロメ\u30FCトル㌙ク\u3099ラムトン㌚クルセ\u3099イロ",
    "㌫ハ\u309A\u30FCセント㌮ヒ\u309Aアストル㌲ファラット\u3099㌴フ\u3099ッシェル㍊ミリハ\u3099\u30FCル㍖レントケ\u3099ン㎯rad∕s2"]),
  (8, [
    "\uFDFB\u062C\u0644 \u062C\u0644\u0627\u0644\u0647"]),
  (18, [
    "",
    "\uFDFA\u0635\u0644\u0649 \u0627\u0644\u0644\u0647 \u0639\u0644\u064A\u0647 \u0648\u0633\u0644\u0645"])]

end SchemaMill.Charset.Domain
