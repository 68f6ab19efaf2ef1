/-
# Case folding

The full case folding of Unicode 14: two texts that differ only in letter case have equal
foldings.  It differs from its input at 1,530 code points; 104 of these have an image of
two or three.
-/
import Criteria.Text.CaseTable

namespace Criteria
namespace Text

/-- The characters moved by case folding, in ascending blocks of runs. -/
def casefoldBlocks : List Block := [
  ⟨390, [
    ⟨65, 90, 1, [97]⟩, ⟨181, 181, 1, [956]⟩, ⟨192, 214, 1, [224]⟩, ⟨216, 222, 1, [248]⟩,
    ⟨223, 223, 1, [115, 115]⟩, ⟨256, 302, 2, [257]⟩, ⟨304, 304, 1, [105, 775]⟩,
    ⟨306, 310, 2, [307]⟩, ⟨313, 327, 2, [314]⟩, ⟨329, 329, 1, [700, 110]⟩, ⟨330, 374, 2, [331]⟩,
    ⟨376, 376, 1, [255]⟩, ⟨377, 381, 2, [378]⟩, ⟨383, 383, 1, [115]⟩, ⟨385, 385, 1, [595]⟩,
    ⟨386, 388, 2, [387]⟩, ⟨390, 390, 1, [596]⟩]⟩,
  ⟨422, [
    ⟨391, 391, 1, [392]⟩, ⟨393, 394, 1, [598]⟩, ⟨395, 395, 1, [396]⟩, ⟨398, 398, 1, [477]⟩,
    ⟨399, 399, 1, [601]⟩, ⟨400, 400, 1, [603]⟩, ⟨401, 401, 1, [402]⟩, ⟨403, 403, 1, [608]⟩,
    ⟨404, 404, 1, [611]⟩, ⟨406, 406, 1, [617]⟩, ⟨407, 407, 1, [616]⟩, ⟨408, 408, 1, [409]⟩,
    ⟨412, 412, 1, [623]⟩, ⟨413, 413, 1, [626]⟩, ⟨415, 415, 1, [629]⟩, ⟨416, 420, 2, [417]⟩,
    ⟨422, 422, 1, [640]⟩]⟩,
  ⟨494, [
    ⟨423, 423, 1, [424]⟩, ⟨425, 425, 1, [643]⟩, ⟨428, 428, 1, [429]⟩, ⟨430, 430, 1, [648]⟩,
    ⟨431, 431, 1, [432]⟩, ⟨433, 434, 1, [650]⟩, ⟨435, 437, 2, [436]⟩, ⟨439, 439, 1, [658]⟩,
    ⟨440, 440, 1, [441]⟩, ⟨444, 444, 1, [445]⟩, ⟨452, 452, 1, [454]⟩, ⟨453, 453, 1, [454]⟩,
    ⟨455, 455, 1, [457]⟩, ⟨456, 456, 1, [457]⟩, ⟨458, 458, 1, [460]⟩, ⟨459, 475, 2, [460]⟩,
    ⟨478, 494, 2, [479]⟩]⟩,
  ⟨590, [
    ⟨496, 496, 1, [106, 780]⟩, ⟨497, 497, 1, [499]⟩, ⟨498, 500, 2, [499]⟩, ⟨502, 502, 1, [405]⟩,
    ⟨503, 503, 1, [447]⟩, ⟨504, 542, 2, [505]⟩, ⟨544, 544, 1, [414]⟩, ⟨546, 562, 2, [547]⟩,
    ⟨570, 570, 1, [11365]⟩, ⟨571, 571, 1, [572]⟩, ⟨573, 573, 1, [410]⟩, ⟨574, 574, 1, [11366]⟩,
    ⟨577, 577, 1, [578]⟩, ⟨579, 579, 1, [384]⟩, ⟨580, 580, 1, [649]⟩, ⟨581, 581, 1, [652]⟩,
    ⟨582, 590, 2, [583]⟩]⟩,
  ⟨981, [
    ⟨837, 837, 1, [953]⟩, ⟨880, 882, 2, [881]⟩, ⟨886, 886, 1, [887]⟩, ⟨895, 895, 1, [1011]⟩,
    ⟨902, 902, 1, [940]⟩, ⟨904, 906, 1, [941]⟩, ⟨908, 908, 1, [972]⟩, ⟨910, 911, 1, [973]⟩,
    ⟨912, 912, 1, [953, 776, 769]⟩, ⟨913, 929, 1, [945]⟩, ⟨931, 939, 1, [963]⟩,
    ⟨944, 944, 1, [965, 776, 769]⟩, ⟨962, 962, 1, [963]⟩, ⟨975, 975, 1, [983]⟩,
    ⟨976, 976, 1, [946]⟩, ⟨977, 977, 1, [952]⟩, ⟨981, 981, 1, [966]⟩]⟩,
  ⟨1326, [
    ⟨982, 982, 1, [960]⟩, ⟨984, 1006, 2, [985]⟩, ⟨1008, 1008, 1, [954]⟩, ⟨1009, 1009, 1, [961]⟩,
    ⟨1012, 1012, 1, [952]⟩, ⟨1013, 1013, 1, [949]⟩, ⟨1015, 1015, 1, [1016]⟩,
    ⟨1017, 1017, 1, [1010]⟩, ⟨1018, 1018, 1, [1019]⟩, ⟨1021, 1023, 1, [891]⟩,
    ⟨1024, 1039, 1, [1104]⟩, ⟨1040, 1071, 1, [1072]⟩, ⟨1120, 1152, 2, [1121]⟩,
    ⟨1162, 1214, 2, [1163]⟩, ⟨1216, 1216, 1, [1231]⟩, ⟨1217, 1229, 2, [1218]⟩,
    ⟨1232, 1326, 2, [1233]⟩]⟩,
  ⟨7828, [
    ⟨1329, 1366, 1, [1377]⟩, ⟨1415, 1415, 1, [1381, 1410]⟩, ⟨4256, 4293, 1, [11520]⟩,
    ⟨4295, 4295, 1, [11559]⟩, ⟨4301, 4301, 1, [11565]⟩, ⟨5112, 5117, 1, [5104]⟩,
    ⟨7296, 7296, 1, [1074]⟩, ⟨7297, 7297, 1, [1076]⟩, ⟨7298, 7298, 1, [1086]⟩,
    ⟨7299, 7300, 1, [1089]⟩, ⟨7301, 7301, 1, [1090]⟩, ⟨7302, 7302, 1, [1098]⟩,
    ⟨7303, 7303, 1, [1123]⟩, ⟨7304, 7304, 1, [42571]⟩, ⟨7312, 7354, 1, [4304]⟩,
    ⟨7357, 7359, 1, [4349]⟩, ⟨7680, 7828, 2, [7681]⟩]⟩,
  ⟨8022, [
    ⟨7830, 7830, 1, [104, 817]⟩, ⟨7831, 7831, 1, [116, 776]⟩, ⟨7832, 7832, 1, [119, 778]⟩,
    ⟨7833, 7833, 1, [121, 778]⟩, ⟨7834, 7834, 1, [97, 702]⟩, ⟨7835, 7835, 1, [7777]⟩,
    ⟨7838, 7838, 1, [115, 115]⟩, ⟨7840, 7934, 2, [7841]⟩, ⟨7944, 7951, 1, [7936]⟩,
    ⟨7960, 7965, 1, [7952]⟩, ⟨7976, 7983, 1, [7968]⟩, ⟨7992, 7999, 1, [7984]⟩,
    ⟨8008, 8013, 1, [8000]⟩, ⟨8016, 8016, 1, [965, 787]⟩, ⟨8018, 8018, 1, [965, 787, 768]⟩,
    ⟨8020, 8020, 1, [965, 787, 769]⟩, ⟨8022, 8022, 1, [965, 787, 834]⟩]⟩,
  ⟨8078, [
    ⟨8025, 8031, 2, [8017]⟩, ⟨8040, 8047, 1, [8032]⟩, ⟨8064, 8064, 1, [7936, 953]⟩,
    ⟨8065, 8065, 1, [7937, 953]⟩, ⟨8066, 8066, 1, [7938, 953]⟩, ⟨8067, 8067, 1, [7939, 953]⟩,
    ⟨8068, 8068, 1, [7940, 953]⟩, ⟨8069, 8069, 1, [7941, 953]⟩, ⟨8070, 8070, 1, [7942, 953]⟩,
    ⟨8071, 8071, 1, [7943, 953]⟩, ⟨8072, 8072, 1, [7936, 953]⟩, ⟨8073, 8073, 1, [7937, 953]⟩,
    ⟨8074, 8074, 1, [7938, 953]⟩, ⟨8075, 8075, 1, [7939, 953]⟩, ⟨8076, 8076, 1, [7940, 953]⟩,
    ⟨8077, 8077, 1, [7941, 953]⟩, ⟨8078, 8078, 1, [7942, 953]⟩]⟩,
  ⟨8095, [
    ⟨8079, 8079, 1, [7943, 953]⟩, ⟨8080, 8080, 1, [7968, 953]⟩, ⟨8081, 8081, 1, [7969, 953]⟩,
    ⟨8082, 8082, 1, [7970, 953]⟩, ⟨8083, 8083, 1, [7971, 953]⟩, ⟨8084, 8084, 1, [7972, 953]⟩,
    ⟨8085, 8085, 1, [7973, 953]⟩, ⟨8086, 8086, 1, [7974, 953]⟩, ⟨8087, 8087, 1, [7975, 953]⟩,
    ⟨8088, 8088, 1, [7968, 953]⟩, ⟨8089, 8089, 1, [7969, 953]⟩, ⟨8090, 8090, 1, [7970, 953]⟩,
    ⟨8091, 8091, 1, [7971, 953]⟩, ⟨8092, 8092, 1, [7972, 953]⟩, ⟨8093, 8093, 1, [7973, 953]⟩,
    ⟨8094, 8094, 1, [7974, 953]⟩, ⟨8095, 8095, 1, [7975, 953]⟩]⟩,
  ⟨8114, [
    ⟨8096, 8096, 1, [8032, 953]⟩, ⟨8097, 8097, 1, [8033, 953]⟩, ⟨8098, 8098, 1, [8034, 953]⟩,
    ⟨8099, 8099, 1, [8035, 953]⟩, ⟨8100, 8100, 1, [8036, 953]⟩, ⟨8101, 8101, 1, [8037, 953]⟩,
    ⟨8102, 8102, 1, [8038, 953]⟩, ⟨8103, 8103, 1, [8039, 953]⟩, ⟨8104, 8104, 1, [8032, 953]⟩,
    ⟨8105, 8105, 1, [8033, 953]⟩, ⟨8106, 8106, 1, [8034, 953]⟩, ⟨8107, 8107, 1, [8035, 953]⟩,
    ⟨8108, 8108, 1, [8036, 953]⟩, ⟨8109, 8109, 1, [8037, 953]⟩, ⟨8110, 8110, 1, [8038, 953]⟩,
    ⟨8111, 8111, 1, [8039, 953]⟩, ⟨8114, 8114, 1, [8048, 953]⟩]⟩,
  ⟨8147, [
    ⟨8115, 8115, 1, [945, 953]⟩, ⟨8116, 8116, 1, [940, 953]⟩, ⟨8118, 8118, 1, [945, 834]⟩,
    ⟨8119, 8119, 1, [945, 834, 953]⟩, ⟨8120, 8121, 1, [8112]⟩, ⟨8122, 8123, 1, [8048]⟩,
    ⟨8124, 8124, 1, [945, 953]⟩, ⟨8126, 8126, 1, [953]⟩, ⟨8130, 8130, 1, [8052, 953]⟩,
    ⟨8131, 8131, 1, [951, 953]⟩, ⟨8132, 8132, 1, [942, 953]⟩, ⟨8134, 8134, 1, [951, 834]⟩,
    ⟨8135, 8135, 1, [951, 834, 953]⟩, ⟨8136, 8139, 1, [8050]⟩, ⟨8140, 8140, 1, [951, 953]⟩,
    ⟨8146, 8146, 1, [953, 776, 768]⟩, ⟨8147, 8147, 1, [953, 776, 769]⟩]⟩,
  ⟨8183, [
    ⟨8150, 8150, 1, [953, 834]⟩, ⟨8151, 8151, 1, [953, 776, 834]⟩, ⟨8152, 8153, 1, [8144]⟩,
    ⟨8154, 8155, 1, [8054]⟩, ⟨8162, 8162, 1, [965, 776, 768]⟩, ⟨8163, 8163, 1, [965, 776, 769]⟩,
    ⟨8164, 8164, 1, [961, 787]⟩, ⟨8166, 8166, 1, [965, 834]⟩, ⟨8167, 8167, 1, [965, 776, 834]⟩,
    ⟨8168, 8169, 1, [8160]⟩, ⟨8170, 8171, 1, [8058]⟩, ⟨8172, 8172, 1, [8165]⟩,
    ⟨8178, 8178, 1, [8060, 953]⟩, ⟨8179, 8179, 1, [969, 953]⟩, ⟨8180, 8180, 1, [974, 953]⟩,
    ⟨8182, 8182, 1, [969, 834]⟩, ⟨8183, 8183, 1, [969, 834, 953]⟩]⟩,
  ⟨11373, [
    ⟨8184, 8185, 1, [8056]⟩, ⟨8186, 8187, 1, [8060]⟩, ⟨8188, 8188, 1, [969, 953]⟩,
    ⟨8486, 8486, 1, [969]⟩, ⟨8490, 8490, 1, [107]⟩, ⟨8491, 8491, 1, [229]⟩,
    ⟨8498, 8498, 1, [8526]⟩, ⟨8544, 8559, 1, [8560]⟩, ⟨8579, 8579, 1, [8580]⟩,
    ⟨9398, 9423, 1, [9424]⟩, ⟨11264, 11311, 1, [11312]⟩, ⟨11360, 11360, 1, [11361]⟩,
    ⟨11362, 11362, 1, [619]⟩, ⟨11363, 11363, 1, [7549]⟩, ⟨11364, 11364, 1, [637]⟩,
    ⟨11367, 11371, 2, [11368]⟩, ⟨11373, 11373, 1, [593]⟩]⟩,
  ⟨42891, [
    ⟨11374, 11374, 1, [625]⟩, ⟨11375, 11375, 1, [592]⟩, ⟨11376, 11376, 1, [594]⟩,
    ⟨11378, 11378, 1, [11379]⟩, ⟨11381, 11381, 1, [11382]⟩, ⟨11390, 11391, 1, [575]⟩,
    ⟨11392, 11490, 2, [11393]⟩, ⟨11499, 11501, 2, [11500]⟩, ⟨11506, 11506, 1, [11507]⟩,
    ⟨42560, 42604, 2, [42561]⟩, ⟨42624, 42650, 2, [42625]⟩, ⟨42786, 42798, 2, [42787]⟩,
    ⟨42802, 42862, 2, [42803]⟩, ⟨42873, 42875, 2, [42874]⟩, ⟨42877, 42877, 1, [7545]⟩,
    ⟨42878, 42886, 2, [42879]⟩, ⟨42891, 42891, 1, [42892]⟩]⟩,
  ⟨42953, [
    ⟨42893, 42893, 1, [613]⟩, ⟨42896, 42898, 2, [42897]⟩, ⟨42902, 42920, 2, [42903]⟩,
    ⟨42922, 42922, 1, [614]⟩, ⟨42923, 42923, 1, [604]⟩, ⟨42924, 42924, 1, [609]⟩,
    ⟨42925, 42925, 1, [620]⟩, ⟨42926, 42926, 1, [618]⟩, ⟨42928, 42928, 1, [670]⟩,
    ⟨42929, 42929, 1, [647]⟩, ⟨42930, 42930, 1, [669]⟩, ⟨42931, 42931, 1, [43859]⟩,
    ⟨42932, 42946, 2, [42933]⟩, ⟨42948, 42948, 1, [42900]⟩, ⟨42949, 42949, 1, [642]⟩,
    ⟨42950, 42950, 1, [7566]⟩, ⟨42951, 42953, 2, [42952]⟩]⟩,
  ⟨65338, [
    ⟨42960, 42960, 1, [42961]⟩, ⟨42966, 42968, 2, [42967]⟩, ⟨42997, 42997, 1, [42998]⟩,
    ⟨43888, 43967, 1, [5024]⟩, ⟨64256, 64256, 1, [102, 102]⟩, ⟨64257, 64257, 1, [102, 105]⟩,
    ⟨64258, 64258, 1, [102, 108]⟩, ⟨64259, 64259, 1, [102, 102, 105]⟩,
    ⟨64260, 64260, 1, [102, 102, 108]⟩, ⟨64261, 64261, 1, [115, 116]⟩,
    ⟨64262, 64262, 1, [115, 116]⟩, ⟨64275, 64275, 1, [1396, 1398]⟩,
    ⟨64276, 64276, 1, [1396, 1381]⟩, ⟨64277, 64277, 1, [1396, 1387]⟩,
    ⟨64278, 64278, 1, [1406, 1398]⟩, ⟨64279, 64279, 1, [1396, 1389]⟩,
    ⟨65313, 65338, 1, [65345]⟩]⟩,
  ⟨125217, [
    ⟨66560, 66599, 1, [66600]⟩, ⟨66736, 66771, 1, [66776]⟩, ⟨66928, 66938, 1, [66967]⟩,
    ⟨66940, 66954, 1, [66979]⟩, ⟨66956, 66962, 1, [66995]⟩, ⟨66964, 66965, 1, [67003]⟩,
    ⟨68736, 68786, 1, [68800]⟩, ⟨71840, 71871, 1, [71872]⟩, ⟨93760, 93791, 1, [93792]⟩,
    ⟨125184, 125217, 1, [125218]⟩]⟩]

/-- The full case folding. -/
def casefold : CaseTable := ⟨casefoldBlocks⟩

end Text
end Criteria
