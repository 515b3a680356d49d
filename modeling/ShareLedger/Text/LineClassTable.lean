import ShareLedger.Text.LineClass
/-!
# Text.LineClassTable

The line breaking classes of the Unicode standard beyond the first 128 characters.

Characters in no range are letters or count as such: ambiguous and unknown ones, and the syllables
of the scripts of Southeast Asia. Small kana count as nonstarters. Hangul syllables have a rule of
their own.
-/

namespace ShareLedger.Text

/-- The classes with their characters. -/
def lineClassRanges : List (LineClass × List (Nat × Nat)) := [
  (.combiningMark, [
    (128, 132), (134, 159), (768, 846), (848, 859), (867, 879), (1155, 1161), (1425, 1469),
    (1471, 1471), (1473, 1474), (1476, 1477), (1479, 1479), (1552, 1562), (1564, 1564),
    (1611, 1631), (1648, 1648), (1750, 1756), (1759, 1764), (1767, 1768), (1770, 1773),
    (1809, 1809), (1840, 1866), (1958, 1968), (2027, 2035), (2045, 2045), (2070, 2073),
    (2075, 2083), (2085, 2087), (2089, 2093), (2137, 2139), (2200, 2207), (2250, 2273),
    (2275, 2307), (2362, 2364), (2366, 2383), (2385, 2391), (2402, 2403), (2433, 2435),
    (2492, 2492), (2494, 2500), (2503, 2504), (2507, 2509), (2519, 2519), (2530, 2531),
    (2558, 2558), (2561, 2563), (2620, 2620), (2622, 2626), (2631, 2632), (2635, 2637),
    (2641, 2641), (2672, 2673), (2677, 2677), (2689, 2691), (2748, 2748), (2750, 2757),
    (2759, 2761), (2763, 2765), (2786, 2787), (2810, 2815), (2817, 2819), (2876, 2876),
    (2878, 2884), (2887, 2888), (2891, 2893), (2901, 2903), (2914, 2915), (2946, 2946),
    (3006, 3010), (3014, 3016), (3018, 3021), (3031, 3031), (3072, 3076), (3132, 3132),
    (3134, 3140), (3142, 3144), (3146, 3149), (3157, 3158), (3170, 3171), (3201, 3203),
    (3260, 3260), (3262, 3268), (3270, 3272), (3274, 3277), (3285, 3286), (3298, 3299),
    (3315, 3315), (3328, 3331), (3387, 3388), (3390, 3396), (3398, 3400), (3402, 3405),
    (3415, 3415), (3426, 3427), (3457, 3459), (3530, 3530), (3535, 3540), (3542, 3542),
    (3544, 3551), (3570, 3571), (3864, 3865), (3893, 3893), (3895, 3895), (3897, 3897),
    (3902, 3903), (3953, 3966), (3968, 3972), (3974, 3975), (3981, 3991), (3993, 4028),
    (4038, 4038), (4957, 4959), (5906, 5909), (5938, 5940), (5970, 5971), (6002, 6003),
    (6155, 6157), (6159, 6159), (6277, 6278), (6313, 6313), (6432, 6443), (6448, 6459),
    (6679, 6683), (6783, 6783), (6832, 6862), (6912, 6916), (6964, 6980), (7019, 7027),
    (7040, 7042), (7073, 7085), (7142, 7155), (7204, 7223), (7376, 7378), (7380, 7400),
    (7405, 7405), (7412, 7412), (7415, 7417), (7616, 7628), (7630, 7675), (7677, 7679),
    (8204, 8204), (8206, 8207), (8234, 8238), (8294, 8303), (8400, 8432), (11503, 11505),
    (11647, 11647), (11744, 11775), (12330, 12335), (12341, 12341), (12441, 12442),
    (42607, 42610), (42612, 42621), (42654, 42655), (42736, 42737), (43010, 43010),
    (43014, 43014), (43019, 43019), (43043, 43047), (43052, 43052), (43136, 43137),
    (43188, 43205), (43232, 43249), (43263, 43263), (43302, 43309), (43335, 43347),
    (43392, 43395), (43443, 43456), (43561, 43574), (43587, 43587), (43596, 43597),
    (43755, 43759), (43765, 43766), (44003, 44010), (44012, 44013), (64286, 64286),
    (65024, 65039), (65056, 65071), (65529, 65531), (66045, 66045), (66272, 66272),
    (66422, 66426), (68097, 68099), (68101, 68102), (68108, 68111), (68152, 68154),
    (68159, 68159), (68325, 68326), (68900, 68903), (69291, 69292), (69373, 69375),
    (69446, 69456), (69506, 69509), (69632, 69634), (69688, 69702), (69744, 69744),
    (69747, 69748), (69759, 69762), (69808, 69818), (69826, 69826), (69888, 69890),
    (69927, 69940), (69957, 69958), (70003, 70003), (70016, 70018), (70067, 70080),
    (70089, 70092), (70094, 70095), (70188, 70199), (70206, 70206), (70209, 70209),
    (70367, 70378), (70400, 70403), (70459, 70460), (70462, 70468), (70471, 70472),
    (70475, 70477), (70487, 70487), (70498, 70499), (70502, 70508), (70512, 70516),
    (70709, 70726), (70750, 70750), (70832, 70851), (71087, 71093), (71096, 71104),
    (71132, 71133), (71216, 71232), (71339, 71351), (71724, 71738), (71984, 71989),
    (71991, 71992), (71995, 71998), (72000, 72000), (72002, 72003), (72145, 72151),
    (72154, 72160), (72164, 72164), (72193, 72202), (72243, 72249), (72251, 72254),
    (72263, 72263), (72273, 72283), (72330, 72345), (72751, 72758), (72760, 72767),
    (72850, 72871), (72873, 72886), (73009, 73014), (73018, 73018), (73020, 73021),
    (73023, 73029), (73031, 73031), (73098, 73102), (73104, 73105), (73107, 73111),
    (73459, 73462), (73472, 73473), (73475, 73475), (73524, 73530), (73534, 73538),
    (78912, 78912), (78919, 78933), (92912, 92916), (92976, 92982), (94031, 94031),
    (94033, 94087), (94095, 94098), (94192, 94193), (113821, 113822), (113824, 113827),
    (118528, 118573), (118576, 118598), (119141, 119145), (119149, 119170), (119173, 119179),
    (119210, 119213), (119362, 119364), (121344, 121398), (121403, 121452), (121461, 121461),
    (121476, 121476), (121499, 121503), (121505, 121519), (122880, 122886), (122888, 122904),
    (122907, 122913), (122915, 122916), (122918, 122922), (123023, 123023), (123184, 123190),
    (123566, 123566), (123628, 123631), (124140, 124143), (125136, 125142), (125252, 125258),
    (917505, 917505), (917536, 917631), (917760, 917999)]),
  (.nextLine, [
    (133, 133)]),
  (.glue, [
    (160, 160), (847, 847), (860, 866), (3848, 3848), (3852, 3852), (3858, 3858), (4057, 4058),
    (6158, 6158), (7629, 7629), (7676, 7676), (8199, 8199), (8209, 8209), (8239, 8239),
    (78896, 78902), (78905, 78907), (94180, 94180)]),
  (.openPunctuation, [
    (161, 161), (191, 191), (3898, 3898), (3900, 3900), (5787, 5787), (8218, 8218), (8222, 8222),
    (8261, 8261), (8317, 8317), (8333, 8333), (8968, 8968), (8970, 8970), (9001, 9001),
    (10088, 10088), (10090, 10090), (10092, 10092), (10094, 10094), (10096, 10096),
    (10098, 10098), (10100, 10100), (10181, 10181), (10214, 10214), (10216, 10216),
    (10218, 10218), (10220, 10220), (10222, 10222), (10627, 10627), (10629, 10629),
    (10631, 10631), (10633, 10633), (10635, 10635), (10637, 10637), (10639, 10639),
    (10641, 10641), (10643, 10643), (10645, 10645), (10647, 10647), (10712, 10712),
    (10714, 10714), (10748, 10748), (11800, 11800), (11810, 11810), (11812, 11812),
    (11814, 11814), (11816, 11816), (11842, 11842), (11861, 11861), (11863, 11863),
    (11865, 11865), (11867, 11867), (12296, 12296), (12298, 12298), (12300, 12300),
    (12302, 12302), (12304, 12304), (12308, 12308), (12310, 12310), (12312, 12312),
    (12314, 12314), (12317, 12317), (64831, 64831), (65047, 65047), (65077, 65077),
    (65079, 65079), (65081, 65081), (65083, 65083), (65085, 65085), (65087, 65087),
    (65089, 65089), (65091, 65091), (65095, 65095), (65113, 65113), (65115, 65115),
    (65117, 65117), (65288, 65288), (65339, 65339), (65371, 65371), (65375, 65375),
    (65378, 65378), (78424, 78426), (78470, 78470), (78472, 78472), (78713, 78713),
    (78903, 78903), (78908, 78908), (78910, 78910), (83406, 83406), (125278, 125279)]),
  (.postfixNumeric, [
    (162, 162), (176, 176), (1545, 1547), (1642, 1642), (2546, 2547), (2553, 2553), (3449, 3449),
    (8240, 8247), (8279, 8279), (8359, 8359), (8374, 8374), (8379, 8379), (8382, 8382),
    (8384, 8384), (8451, 8451), (8457, 8457), (43064, 43064), (65020, 65020), (65130, 65130),
    (65285, 65285), (65504, 65504), (73693, 73696), (126124, 126124), (126128, 126128)]),
  (.prefixNumeric, [
    (163, 165), (177, 177), (1423, 1423), (2046, 2047), (2555, 2555), (2801, 2801), (3065, 3065),
    (3647, 3647), (6107, 6107), (8352, 8358), (8360, 8373), (8375, 8378), (8380, 8381),
    (8383, 8383), (8385, 8399), (8470, 8470), (8722, 8723), (65129, 65129), (65284, 65284),
    (65505, 65505), (65509, 65510), (123647, 123647)]),
  (.quotation, [
    (171, 171), (187, 187), (8216, 8217), (8219, 8221), (8223, 8223), (8249, 8250),
    (10075, 10080), (11776, 11789), (11804, 11805), (11808, 11809), (128630, 128632)]),
  (.breakAfter, [
    (173, 173), (1418, 1418), (1470, 1470), (2404, 2405), (3674, 3675), (3851, 3851),
    (3892, 3892), (3967, 3967), (3973, 3973), (4030, 4031), (4050, 4050), (4170, 4171),
    (4961, 4961), (5120, 5120), (5760, 5760), (5867, 5869), (5941, 5942), (6100, 6101),
    (6104, 6104), (6106, 6106), (6148, 6149), (7002, 7003), (7005, 7008), (7037, 7038),
    (7227, 7231), (7294, 7295), (8192, 8198), (8200, 8202), (8208, 8208), (8210, 8211),
    (8231, 8231), (8278, 8278), (8280, 8283), (8285, 8287), (11514, 11516), (11519, 11519),
    (11632, 11632), (11790, 11797), (11799, 11799), (11801, 11801), (11818, 11821),
    (11824, 11825), (11827, 11828), (11836, 11838), (11840, 11841), (11843, 11850),
    (11852, 11852), (11854, 11855), (11869, 11869), (12288, 12288), (42238, 42239),
    (42509, 42509), (42511, 42511), (42739, 42743), (43214, 43215), (43310, 43311),
    (43463, 43465), (43613, 43615), (43760, 43761), (44011, 44011), (65792, 65794),
    (66463, 66463), (66512, 66512), (67671, 67671), (67871, 67871), (68176, 68183),
    (68336, 68341), (68409, 68415), (69293, 69293), (69703, 69704), (69822, 69825),
    (69952, 69955), (70085, 70086), (70088, 70088), (70109, 70111), (70200, 70201),
    (70203, 70204), (70313, 70313), (70731, 70734), (70746, 70747), (71106, 71107),
    (71113, 71127), (71233, 71234), (71484, 71486), (72004, 72006), (72257, 72260),
    (72346, 72348), (72353, 72354), (72769, 72773), (73539, 73540), (73727, 73727),
    (74864, 74868), (92782, 92783), (92917, 92917), (92983, 92985), (92996, 92996),
    (93847, 93848), (113823, 113823), (121479, 121482)]),
  (.breakBefore, [
    (180, 180), (712, 712), (716, 716), (735, 735), (3191, 3191), (3204, 3204), (3841, 3844),
    (3846, 3847), (3849, 3850), (4048, 4049), (4051, 4051), (6150, 6150), (8189, 8189),
    (43124, 43125), (43260, 43260), (70005, 70005), (70107, 70107), (71105, 71105),
    (71264, 71276), (72162, 72162), (72255, 72255), (72261, 72261), (72350, 72352),
    (72448, 72457), (72816, 72816)]),
  (.infixNumeric, [
    (894, 894), (1417, 1417), (1548, 1549), (2040, 2040), (8260, 8260), (65040, 65040),
    (65043, 65044)]),
  (.exclamation, [
    (1478, 1478), (1563, 1563), (1565, 1567), (1748, 1748), (2041, 2041), (3853, 3857),
    (3860, 3860), (6146, 6147), (6152, 6153), (6468, 6469), (10082, 10083), (11513, 11513),
    (11518, 11518), (11822, 11822), (11859, 11860), (42510, 42510), (43126, 43127),
    (65045, 65046), (65110, 65111), (65281, 65281), (65311, 65311), (71108, 71109),
    (72817, 72817)]),
  (.hebrewLetter, [
    (1488, 1514), (1519, 1522), (64285, 64285), (64287, 64296), (64298, 64310), (64312, 64316),
    (64318, 64318), (64320, 64321), (64323, 64324), (64326, 64335)]),
  (.numeric, [
    (1632, 1641), (1643, 1644), (1776, 1785), (1984, 1993), (2406, 2415), (2534, 2543),
    (2662, 2671), (2790, 2799), (2918, 2927), (3046, 3055), (3174, 3183), (3302, 3311),
    (3430, 3439), (3558, 3567), (3664, 3673), (3792, 3801), (3872, 3881), (4160, 4169),
    (4240, 4249), (6112, 6121), (6160, 6169), (6470, 6479), (6608, 6617), (6784, 6793),
    (6800, 6809), (6992, 7001), (7088, 7097), (7232, 7241), (7248, 7257), (42528, 42537),
    (43216, 43225), (43264, 43273), (43472, 43481), (43504, 43513), (43600, 43609),
    (44016, 44025), (66720, 66729), (68912, 68921), (69734, 69743), (69872, 69881),
    (69942, 69951), (70096, 70105), (70384, 70393), (70736, 70745), (70864, 70873),
    (71248, 71257), (71360, 71369), (71472, 71481), (71904, 71913), (72016, 72025),
    (72784, 72793), (73040, 73049), (73120, 73129), (73552, 73561), (92768, 92777),
    (92864, 92873), (93008, 93017), (120782, 120831), (123200, 123209), (123632, 123641),
    (124144, 124153), (125264, 125273), (130032, 130041)]),
  (.closePunctuation, [
    (3899, 3899), (3901, 3901), (5788, 5788), (8262, 8262), (8318, 8318), (8334, 8334),
    (8969, 8969), (8971, 8971), (9002, 9002), (10089, 10089), (10091, 10091), (10093, 10093),
    (10095, 10095), (10097, 10097), (10099, 10099), (10101, 10101), (10182, 10182),
    (10215, 10215), (10217, 10217), (10219, 10219), (10221, 10221), (10223, 10223),
    (10628, 10628), (10630, 10630), (10632, 10632), (10634, 10634), (10636, 10636),
    (10638, 10638), (10640, 10640), (10642, 10642), (10644, 10644), (10646, 10646),
    (10648, 10648), (10713, 10713), (10715, 10715), (10749, 10749), (11811, 11811),
    (11813, 11813), (11815, 11815), (11817, 11817), (11862, 11862), (11864, 11864),
    (11866, 11866), (11868, 11868), (12289, 12290), (12297, 12297), (12299, 12299),
    (12301, 12301), (12303, 12303), (12305, 12305), (12309, 12309), (12311, 12311),
    (12313, 12313), (12315, 12315), (12318, 12319), (64830, 64830), (65041, 65042),
    (65048, 65048), (65078, 65078), (65080, 65080), (65082, 65082), (65084, 65084),
    (65086, 65086), (65088, 65088), (65090, 65090), (65092, 65092), (65096, 65096),
    (65104, 65104), (65106, 65106), (65114, 65114), (65116, 65116), (65118, 65118),
    (65289, 65289), (65292, 65292), (65294, 65294), (65341, 65341), (65373, 65373),
    (65376, 65377), (65379, 65380), (78427, 78429), (78466, 78466), (78471, 78471),
    (78473, 78473), (78714, 78715), (78904, 78904), (78909, 78909), (78911, 78911),
    (83407, 83407)]),
  (.hangulLeading, [
    (4352, 4447), (43360, 43388)]),
  (.hangulVowel, [
    (4448, 4519), (55216, 55238)]),
  (.hangulTrailing, [
    (4520, 4607), (55243, 55291)]),
  (.nonstarter, [
    (6102, 6102), (8252, 8253), (8263, 8265), (12293, 12293), (12316, 12316), (12347, 12348),
    (12353, 12353), (12355, 12355), (12357, 12357), (12359, 12359), (12361, 12361),
    (12387, 12387), (12419, 12419), (12421, 12421), (12423, 12423), (12430, 12430),
    (12437, 12438), (12443, 12446), (12448, 12449), (12451, 12451), (12453, 12453),
    (12455, 12455), (12457, 12457), (12483, 12483), (12515, 12515), (12517, 12517),
    (12519, 12519), (12526, 12526), (12533, 12534), (12539, 12542), (12784, 12799),
    (40981, 40981), (65108, 65109), (65306, 65307), (65381, 65381), (65383, 65392),
    (65438, 65439), (94176, 94179), (110898, 110898), (110928, 110930), (110933, 110933),
    (110948, 110951), (128633, 128635)]),
  (.zeroWidthSpace, [
    (8203, 8203)]),
  (.joiner, [
    (8205, 8205)]),
  (.breakBoth, [
    (8212, 8212), (11834, 11835)]),
  (.inseparable, [
    (8228, 8230), (8943, 8943), (65049, 65049), (68342, 68342)]),
  (.mandatoryBreak, [
    (8232, 8233)]),
  (.wordJoiner, [
    (8288, 8288), (65279, 65279)]),
  (.ideographic, [
    (8986, 8987), (9200, 9203), (9728, 9731), (9748, 9749), (9752, 9752), (9754, 9756),
    (9758, 9759), (9785, 9787), (9832, 9832), (9855, 9855), (9917, 9928), (9933, 9933),
    (9935, 9937), (9939, 9940), (9944, 9945), (9948, 9948), (9951, 9953), (9962, 9962),
    (9969, 9973), (9975, 9976), (9978, 9978), (9981, 9988), (9992, 9993), (10084, 10084),
    (11904, 11929), (11931, 12019), (12032, 12245), (12272, 12283), (12291, 12292),
    (12294, 12295), (12306, 12307), (12320, 12329), (12336, 12340), (12342, 12346),
    (12349, 12351), (12354, 12354), (12356, 12356), (12358, 12358), (12360, 12360),
    (12362, 12386), (12388, 12418), (12420, 12420), (12422, 12422), (12424, 12429),
    (12431, 12436), (12447, 12447), (12450, 12450), (12452, 12452), (12454, 12454),
    (12456, 12456), (12458, 12482), (12484, 12514), (12516, 12516), (12518, 12518),
    (12520, 12525), (12527, 12532), (12535, 12538), (12543, 12543), (12549, 12591),
    (12593, 12686), (12688, 12771), (12800, 12830), (12832, 12871), (12880, 19903),
    (19968, 40980), (40982, 42124), (42128, 42182), (63744, 64255), (65072, 65076),
    (65093, 65094), (65097, 65103), (65105, 65105), (65112, 65112), (65119, 65126),
    (65128, 65128), (65131, 65131), (65282, 65283), (65286, 65287), (65290, 65291),
    (65293, 65293), (65295, 65305), (65308, 65310), (65312, 65338), (65340, 65340),
    (65342, 65370), (65372, 65372), (65374, 65374), (65382, 65382), (65393, 65437),
    (65440, 65470), (65474, 65479), (65482, 65487), (65490, 65495), (65498, 65500),
    (65506, 65508), (73541, 73551), (94208, 100343), (100352, 101119), (101632, 101640),
    (110592, 110882), (110960, 111355), (126976, 127231), (127245, 127247), (127341, 127343),
    (127405, 127461), (127488, 127876), (127878, 127899), (127902, 127924), (127927, 127931),
    (127933, 127937), (127941, 127942), (127944, 127945), (127949, 127994), (128000, 128065),
    (128068, 128069), (128081, 128101), (128121, 128123), (128125, 128128), (128132, 128132),
    (128136, 128142), (128144, 128144), (128146, 128159), (128161, 128161), (128163, 128163),
    (128165, 128169), (128171, 128174), (128176, 128176), (128179, 128255), (128263, 128278),
    (128293, 128305), (128330, 128371), (128374, 128377), (128379, 128399), (128401, 128404),
    (128407, 128467), (128476, 128499), (128506, 128580), (128584, 128586), (128640, 128674),
    (128676, 128691), (128695, 128703), (128705, 128715), (128717, 128767), (128884, 128895),
    (128981, 129023), (129036, 129039), (129096, 129103), (129114, 129119), (129160, 129167),
    (129198, 129279), (129293, 129294), (129296, 129303), (129312, 129317), (129319, 129327),
    (129338, 129339), (129343, 129398), (129400, 129460), (129463, 129463), (129466, 129466),
    (129468, 129484), (129488, 129488), (129502, 129535), (129620, 129730), (129734, 129775),
    (129785, 129791), (130048, 131069), (131072, 196605), (196608, 262141)]),
  (.emojiBase, [
    (9757, 9757), (9977, 9977), (9994, 9997), (127877, 127877), (127938, 127940),
    (127943, 127943), (127946, 127948), (128066, 128067), (128070, 128080), (128102, 128120),
    (128124, 128124), (128129, 128131), (128133, 128135), (128143, 128143), (128145, 128145),
    (128170, 128170), (128372, 128373), (128378, 128378), (128400, 128400), (128405, 128406),
    (128581, 128583), (128587, 128591), (128675, 128675), (128692, 128694), (128704, 128704),
    (128716, 128716), (129292, 129292), (129295, 129295), (129304, 129311), (129318, 129318),
    (129328, 129337), (129340, 129342), (129399, 129399), (129461, 129462), (129464, 129465),
    (129467, 129467), (129485, 129487), (129489, 129501), (129731, 129733), (129776, 129784)]),
  (.contingentBreak, [
    (65532, 65532)]),
  (.regionalIndicator, [
    (127462, 127487)]),
  (.emojiModifier, [
    (127995, 127999)])]

end ShareLedger.Text
