/-!
# Characters that stand for a character with a mark

A table of the Unicode standard.  A row names a mark by its code point, then the characters that it
may stand on, and in the same order the characters that stand for them together with the mark.
Rows of three code points hold the same for the characters of the later planes.
-/

namespace SqlAccess.Text

/-- Rows (mark, characters, characters with the mark). -/
def compositionRows : List (Nat × String × String) := [
  (0x0300, "AEINOUWYaeinouwy¨ÂÊÔÜâêôüĂăĒēŌōƠơƯưΑΕΗΙΟ", "ÀÈÌǸÒÙẀỲàèìǹòùẁỳ῭ẦỀỒǛầềồǜẰằḔḕṐṑỜờỪừᾺῈῊῚῸ"),
  (0x0300, "ΥΩαεηιουωϊϋЕИеиἀἁἈἉἐἑἘἙἠἡἨἩἰἱἸἹὀὁὈὉὐὑὙὠὡ", "ῪῺὰὲὴὶὸὺὼῒῢЀЍѐѝἂἃἊἋἒἓἚἛἢἣἪἫἲἳἺἻὂὃὊὋὒὓὛὢὣ"),
  (0x0300, "ὨὩ᾿῾", "ὪὫ῍῝"),
  (0x0301, "ACEGIKLMNOPRSUWYZacegiklmnoprsuwyz¨ÂÅÆÇÊ", "ÁĆÉǴÍḰĹḾŃÓṔŔŚÚẂÝŹáćéǵíḱĺḿńóṕŕśúẃýź΅ẤǺǼḈẾ"),
  (0x0301, "ÏÔÕØÜâåæçêïôõøüĂăĒēŌōŨũƠơƯưΑΕΗΙΟΥΩαεηιου", "ḮỐṌǾǗấǻǽḉếḯốṍǿǘẮắḖḗṒṓṸṹỚớỨứΆΈΉΊΌΎΏάέήίόύ"),
  (0x0301, "ωϊϋϒГКгкἀἁἈἉἐἑἘἙἠἡἨἩἰἱἸἹὀὁὈὉὐὑὙὠὡὨὩ᾿῾", "ώΐΰϓЃЌѓќἄἅἌἍἔἕἜἝἤἥἬἭἴἵἼἽὄὅὌὍὔὕὝὤὥὬὭ῎῞"),
  (0x0302, "ACEGHIJOSUWYZaceghijosuwyzẠạẸẹỌọ", "ÂĈÊĜĤÎĴÔŜÛŴŶẐâĉêĝĥîĵôŝûŵŷẑẬậỆệỘộ"),
  (0x0303, "AEINOUVYaeinouvyÂÊÔâêôĂăƠơƯư", "ÃẼĨÑÕŨṼỸãẽĩñõũṽỹẪỄỖẫễỗẴẵỠỡỮữ"),
  (0x0304, "AEGIOUYaegiouyÄÆÕÖÜäæõöüǪǫȦȧȮȯΑΙΥαιυИУиу", "ĀĒḠĪŌŪȲāēḡīōūȳǞǢȬȪǕǟǣȭȫǖǬǭǠǡȰȱᾹῙῩᾱῑῡӢӮӣӯ"),
  (0x0304, "ḶḷṚṛ", "ḸḹṜṝ"),
  (0x0306, "AEGIOUaegiouȨȩΑΙΥαιυАЕЖИУаежиуẠạ", "ĂĔĞĬŎŬăĕğĭŏŭḜḝᾸῘῨᾰῐῠӐӖӁЙЎӑӗӂйўẶặ"),
  (0x0307, "ABCDEFGHIMNOPRSTWXYZabcdefghmnoprstwxyzŚ", "ȦḂĊḊĖḞĠḢİṀṄȮṖṘṠṪẆẊẎŻȧḃċḋėḟġḣṁṅȯṗṙṡṫẇẋẏżṤ"),
  (0x0307, "śŠšſṢṣ", "ṥṦṧẛṨṩ"),
  (0x0308, "AEHIOUWXYaehiotuwxyÕõŪūΙΥιυϒІАЕЖЗИОУЧЫЭа", "ÄËḦÏÖÜẄẌŸäëḧïöẗüẅẍÿṎṏṺṻΪΫϊϋϔЇӒЁӜӞӤӦӰӴӸӬӓ"),
  (0x0308, "ежзиоучыэіӘәӨө", "ёӝӟӥӧӱӵӹӭїӚӛӪӫ"),
  (0x0309, "AEIOUYaeiouyÂÊÔâêôĂăƠơƯư", "ẢẺỈỎỦỶảẻỉỏủỷẨỂỔẩểổẲẳỞởỬử"),
  (0x030A, "AUauwy", "ÅŮåůẘẙ"),
  (0x030B, "OUouУу", "ŐŰőűӲӳ"),
  (0x030C, "ACDEGHIKLNORSTUZacdeghijklnorstuzÜüƷʒ", "ǍČĎĚǦȞǏǨĽŇǑŘŠŤǓŽǎčďěǧȟǐǰǩľňǒřšťǔžǙǚǮǯ"),
  (0x030F, "AEIORUaeioruѴѵ", "ȀȄȈȌȐȔȁȅȉȍȑȕѶѷ"),
  (0x0311, "AEIORUaeioru", "ȂȆȊȎȒȖȃȇȋȏȓȗ"),
  (0x0313, "ΑΕΗΙΟΩαεηιορυω", "ἈἘἨἸὈὨἀἐἠἰὀῤὐὠ"),
  (0x0314, "ΑΕΗΙΟΡΥΩαεηιορυω", "ἉἙἩἹὉῬὙὩἁἑἡἱὁῥὑὡ"),
  (0x031B, "OUou", "ƠƯơư"),
  (0x0323, "ABDEHIKLMNORSTUVWYZabdehiklmnorstuvwyzƠơ", "ẠḄḌẸḤỊḲḶṂṆỌṚṢṬỤṾẈỴẒạḅḍẹḥịḳḷṃṇọṛṣṭụṿẉỵẓỢợ"),
  (0x0323, "Ưư", "Ựự"),
  (0x0324, "Uu", "Ṳṳ"),
  (0x0325, "Aa", "Ḁḁ"),
  (0x0326, "STst", "ȘȚșț"),
  (0x0327, "CDEGHKLNRSTcdeghklnrst", "ÇḐȨĢḨĶĻŅŖŞŢçḑȩģḩķļņŗşţ"),
  (0x0328, "AEIOUaeiou", "ĄĘĮǪŲąęįǫų"),
  (0x032D, "DELNTUdelntu", "ḒḘḼṊṰṶḓḙḽṋṱṷ"),
  (0x032E, "Hh", "Ḫḫ"),
  (0x0330, "EIUeiu", "ḚḬṴḛḭṵ"),
  (0x0331, "BDKLNRTZbdhklnrtz", "ḆḎḴḺṈṞṮẔḇḏẖḵḻṉṟṯẕ"),
  (0x0338, "<=>←→↔⇐⇒⇔∃∈∋∣∥∼≃≅≈≍≡≤≥≲≳≶≷≺≻≼≽⊂⊃⊆⊇⊑⊒⊢⊨⊩⊫", "≮≠≯↚↛↮⇍⇏⇎∄∉∌∤∦≁≄≇≉≭≢≰≱≴≵≸≹⊀⊁⋠⋡⊄⊅⊈⊉⋢⋣⊬⊭⊮⊯"),
  (0x0338, "⊲⊳⊴⊵", "⋪⋫⋬⋭"),
  (0x0342, "¨αηιυωϊϋἀἁἈἉἠἡἨἩἰἱἸἹὐὑὙὠὡὨὩ᾿῾", "῁ᾶῆῖῦῶῗῧἆἇἎἏἦἧἮἯἶἷἾἿὖὗὟὦὧὮὯ῏῟"),
  (0x0345, "ΑΗΩάήαηωώἀἁἂἃἄἅἆἇἈἉἊἋἌἍἎἏἠἡἢἣἤἥἦἧἨἩἪἫἬἭἮ", "ᾼῌῼᾴῄᾳῃῳῴᾀᾁᾂᾃᾄᾅᾆᾇᾈᾉᾊᾋᾌᾍᾎᾏᾐᾑᾒᾓᾔᾕᾖᾗᾘᾙᾚᾛᾜᾝᾞ"),
  (0x0345, "ἯὠὡὢὣὤὥὦὧὨὩὪὫὬὭὮὯὰὴὼᾶῆῶ", "ᾟᾠᾡᾢᾣᾤᾥᾦᾧᾨᾩᾪᾫᾬᾭᾮᾯᾲῂῲᾷῇῷ"),
  (0x0653, "\u0627", "\u0622"),
  (0x0654, "\u0627\u0648\u064a\u06c1\u06d2\u06d5", "\u0623\u0624\u0626\u06c2\u06d3\u06c0"),
  (0x0655, "\u0627", "\u0625"),
  (0x093C, "नरळ", "ऩऱऴ"),
  (0x09BE, "\u09c7", "\u09cb"),
  (0x09D7, "\u09c7", "\u09cc"),
  (0x0B3E, "\u0b47", "\u0b4b"),
  (0x0B56, "\u0b47", "\u0b48"),
  (0x0B57, "\u0b47", "\u0b4c"),
  (0x0BBE, "\u0bc6\u0bc7", "\u0bca\u0bcb"),
  (0x0BD7, "ஒ\u0bc6", "ஔ\u0bcc"),
  (0x0C56, "\u0c46", "\u0c48"),
  (0x0CC2, "\u0cc6", "\u0cca"),
  (0x0CD5, "\u0cbf\u0cc6\u0cca", "\u0cc0\u0cc7\u0ccb"),
  (0x0CD6, "\u0cc6", "\u0cc8"),
  (0x0D3E, "\u0d46\u0d47", "\u0d4a\u0d4b"),
  (0x0D57, "\u0d46", "\u0d4c"),
  (0x0DCA, "\u0dd9\u0ddc", "\u0dda\u0ddd"),
  (0x0DCF, "\u0dd9", "\u0ddc"),
  (0x0DDF, "\u0dd9", "\u0dde"),
  (0x102E, "ဥ", "ဦ"),
  (0x1B35, "ᬅᬇᬉᬋᬍᬑ\u1b3a\u1b3c\u1b3e\u1b3f\u1b42", "ᬆᬈᬊᬌᬎᬒ\u1b3b\u1b3d\u1b40\u1b41\u1b43"),
  (0x3099, "うかきくけこさしすせそたちつてとはひふへほゝウカキクケコサシスセソタチツテトハヒ", "ゔがぎぐげござじずぜぞだぢづでどばびぶべぼゞヴガギグゲゴザジズゼゾダヂヅデドバビ"),
  (0x3099, "フヘホワヰヱヲヽ", "ブベボヷヸヹヺヾ"),
  (0x309A, "はひふへほハヒフヘホ", "ぱぴぷぺぽパピプペポ")]

/-- Rows (character, mark, character with the mark) of the later planes. -/
def compositionTriples : List (Nat × Nat × Nat) := [
  (0x105D2, 0x0307, 0x105C9), (0x105DA, 0x0307, 0x105E4), (0x11099, 0x110BA, 0x1109A),
  (0x1109B, 0x110BA, 0x1109C), (0x110A5, 0x110BA, 0x110AB), (0x11131, 0x11127, 0x1112E),
  (0x11132, 0x11127, 0x1112F), (0x11347, 0x1133E, 0x1134B), (0x11347, 0x11357, 0x1134C),
  (0x113C2, 0x113B8, 0x113C7), (0x11384, 0x113BB, 0x11385), (0x1138B, 0x113C2, 0x1138E),
  (0x113C2, 0x113C2, 0x113C5), (0x11382, 0x113C9, 0x11383), (0x11390, 0x113C9, 0x11391),
  (0x113C2, 0x113C9, 0x113C8), (0x114B9, 0x114B0, 0x114BC), (0x114B9, 0x114BA, 0x114BB),
  (0x114B9, 0x114BD, 0x114BE), (0x115B8, 0x115AF, 0x115BA), (0x115B9, 0x115AF, 0x115BB),
  (0x11935, 0x11930, 0x11938), (0x1611E, 0x1611E, 0x16121), (0x1611E, 0x1611F, 0x16123),
  (0x16121, 0x1611F, 0x16126), (0x16122, 0x1611F, 0x16127), (0x16129, 0x1611F, 0x16124),
  (0x1611E, 0x16120, 0x16125), (0x16121, 0x16120, 0x16128), (0x1611E, 0x16129, 0x16122),
  (0x16D63, 0x16D67, 0x16D69), (0x16D67, 0x16D67, 0x16D68), (0x16D69, 0x16D67, 0x16D6A)]

end SqlAccess.Text
