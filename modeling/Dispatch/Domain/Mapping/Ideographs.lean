import Dispatch.Domain.Mapping.Rule

namespace Dispatch.Domain.Mapping

set_option maxRecDepth 10000

def ideographRules : List Rule := [
    .one 0x2E9F [0x6BCD], .one 0x2EF3 [0x9F9F],
    .each 0x2F00 [
      0x4E00, 0x4E28, 0x4E36, 0x4E3F, 0x4E59, 0x4E85, 0x4E8C, 0x4EA0, 0x4EBA, 0x513F, 0x5165,
      0x516B, 0x5182, 0x5196, 0x51AB, 0x51E0, 0x51F5, 0x5200, 0x529B, 0x52F9, 0x5315, 0x531A,
      0x5338, 0x5341, 0x535C, 0x5369, 0x5382, 0x53B6, 0x53C8, 0x53E3, 0x56D7, 0x571F, 0x58EB,
      0x5902, 0x590A, 0x5915, 0x5927, 0x5973, 0x5B50, 0x5B80, 0x5BF8, 0x5C0F, 0x5C22, 0x5C38,
      0x5C6E, 0x5C71, 0x5DDB, 0x5DE5, 0x5DF1, 0x5DFE, 0x5E72, 0x5E7A, 0x5E7F, 0x5EF4, 0x5EFE,
      0x5F0B, 0x5F13, 0x5F50, 0x5F61, 0x5F73, 0x5FC3, 0x6208, 0x6236, 0x624B, 0x652F, 0x6534,
      0x6587, 0x6597, 0x65A4, 0x65B9, 0x65E0, 0x65E5, 0x66F0, 0x6708, 0x6728, 0x6B20, 0x6B62,
      0x6B79, 0x6BB3, 0x6BCB, 0x6BD4, 0x6BDB, 0x6C0F, 0x6C14, 0x6C34, 0x706B, 0x722A, 0x7236,
      0x723B, 0x723F, 0x7247, 0x7259, 0x725B, 0x72AC, 0x7384, 0x7389, 0x74DC, 0x74E6, 0x7518,
      0x751F, 0x7528, 0x7530, 0x758B, 0x7592, 0x7676, 0x767D, 0x76AE, 0x76BF, 0x76EE, 0x77DB,
      0x77E2, 0x77F3, 0x793A, 0x79B8, 0x79BE, 0x7A74, 0x7ACB, 0x7AF9, 0x7C73, 0x7CF8, 0x7F36,
      0x7F51, 0x7F8A, 0x7FBD, 0x8001, 0x800C, 0x8012, 0x8033, 0x807F, 0x8089, 0x81E3, 0x81EA,
      0x81F3, 0x81FC, 0x820C, 0x821B, 0x821F, 0x826E, 0x8272, 0x8278, 0x864D, 0x866B, 0x8840,
      0x884C, 0x8863, 0x897E, 0x898B, 0x89D2, 0x8A00, 0x8C37, 0x8C46, 0x8C55, 0x8C78, 0x8C9D,
      0x8D64, 0x8D70, 0x8DB3, 0x8EAB, 0x8ECA, 0x8F9B, 0x8FB0, 0x8FB5, 0x9091, 0x9149, 0x91C6,
      0x91CC, 0x91D1, 0x9577, 0x9580, 0x961C, 0x96B6, 0x96B9, 0x96E8, 0x9751, 0x975E, 0x9762,
      0x9769, 0x97CB, 0x97ED, 0x97F3, 0x9801, 0x98A8, 0x98DB, 0x98DF, 0x9996, 0x9999, 0x99AC,
      0x9AA8, 0x9AD8, 0x9ADF, 0x9B25, 0x9B2F, 0x9B32, 0x9B3C, 0x9B5A, 0x9CE5, 0x9E75, 0x9E7F,
      0x9EA5, 0x9EBB, 0x9EC3, 0x9ECD, 0x9ED1, 0x9EF9, 0x9EFD, 0x9F0E, 0x9F13, 0x9F20, 0x9F3B,
      0x9F4A, 0x9F52, 0x9F8D, 0x9F9C, 0x9FA0],
    .one 0x3000 [0x20], .one 0x3002 [0x2E], .one 0x3036 [0x3012], .one 0x3038 [0x5341],
    .along 0x3039 0x303A 0x5344, .one 0x309B [0x20, 0x3099], .one 0x309C [0x20, 0x309A],
    .one 0x309F [0x3088, 0x308A], .one 0x30FF [0x30B3, 0x30C8], .along 0x3131 0x3132 0x1100,
    .second 0x3133 0x3135 0x11AA, .one 0x3134 [0x1102], .one 0x3136 [0x11AD],
    .along 0x3137 0x3139 0x1103, .along 0x313A 0x313F 0x11B0, .one 0x3140 [0x111A],
    .along 0x3141 0x3143 0x1106, .one 0x3144 [0x1121], .along 0x3145 0x314E 0x1109,
    .along 0x314F 0x3163 0x1161, .along 0x3165 0x3166 0x1114, .along 0x3167 0x3168 0x11C7,
    .each 0x3169 [0x11CC, 0x11CE, 0x11D3, 0x11D7, 0x11D9, 0x111C, 0x11DD, 0x11DF],
    .along 0x3171 0x3172 0x111D, .one 0x3173 [0x1120], .along 0x3174 0x3175 0x1122,
    .one 0x3176 [0x1127], .one 0x3177 [0x1129], .along 0x3178 0x317C 0x112B,
    .each 0x317D [0x1132, 0x1136, 0x1140, 0x1147, 0x114C], .along 0x3182 0x3183 0x11F1,
    .along 0x3184 0x3186 0x1157, .along 0x3187 0x3188 0x1184, .one 0x3189 [0x1188],
    .along 0x318A 0x318B 0x1191, .each 0x318C [0x1194, 0x119E, 0x11A1],
    .each 0x3192 [
      0x4E00, 0x4E8C, 0x4E09, 0x56DB, 0x4E0A, 0x4E2D, 0x4E0B, 0x7532, 0x4E59, 0x4E19, 0x4E01,
      0x5929, 0x5730, 0x4EBA],
    .one 0x3200 [0x28, 0x1100, 0x29], .one 0x3201 [0x28, 0x1102, 0x29],
    .one 0x3202 [0x28, 0x1103, 0x29], .one 0x3203 [0x28, 0x1105, 0x29],
    .one 0x3204 [0x28, 0x1106, 0x29], .one 0x3205 [0x28, 0x1107, 0x29],
    .one 0x3206 [0x28, 0x1109, 0x29], .one 0x3207 [0x28, 0x110B, 0x29],
    .one 0x3208 [0x28, 0x110C, 0x29], .one 0x3209 [0x28, 0x110E, 0x29],
    .one 0x320A [0x28, 0x110F, 0x29], .one 0x320B [0x28, 0x1110, 0x29],
    .one 0x320C [0x28, 0x1111, 0x29], .one 0x320D [0x28, 0x1112, 0x29],
    .one 0x320E [0x28, 0xAC00, 0x29], .one 0x320F [0x28, 0xB098, 0x29],
    .one 0x3210 [0x28, 0xB2E4, 0x29], .one 0x3211 [0x28, 0xB77C, 0x29],
    .one 0x3212 [0x28, 0xB9C8, 0x29], .one 0x3213 [0x28, 0xBC14, 0x29],
    .one 0x3214 [0x28, 0xC0AC, 0x29], .one 0x3215 [0x28, 0xC544, 0x29],
    .one 0x3216 [0x28, 0xC790, 0x29], .one 0x3217 [0x28, 0xCC28, 0x29],
    .one 0x3218 [0x28, 0xCE74, 0x29], .one 0x3219 [0x28, 0xD0C0, 0x29],
    .one 0x321A [0x28, 0xD30C, 0x29], .one 0x321B [0x28, 0xD558, 0x29],
    .one 0x321C [0x28, 0xC8FC, 0x29], .one 0x321D [0x28, 0xC624, 0xC804, 0x29],
    .one 0x321E [0x28, 0xC624, 0xD6C4, 0x29], .one 0x3220 [0x28, 0x4E00, 0x29],
    .one 0x3221 [0x28, 0x4E8C, 0x29], .one 0x3222 [0x28, 0x4E09, 0x29],
    .one 0x3223 [0x28, 0x56DB, 0x29], .one 0x3224 [0x28, 0x4E94, 0x29],
    .one 0x3225 [0x28, 0x516D, 0x29], .one 0x3226 [0x28, 0x4E03, 0x29],
    .one 0x3227 [0x28, 0x516B, 0x29], .one 0x3228 [0x28, 0x4E5D, 0x29],
    .one 0x3229 [0x28, 0x5341, 0x29], .one 0x322A [0x28, 0x6708, 0x29],
    .one 0x322B [0x28, 0x706B, 0x29], .one 0x322C [0x28, 0x6C34, 0x29],
    .one 0x322D [0x28, 0x6728, 0x29], .one 0x322E [0x28, 0x91D1, 0x29],
    .one 0x322F [0x28, 0x571F, 0x29], .one 0x3230 [0x28, 0x65E5, 0x29],
    .one 0x3231 [0x28, 0x682A, 0x29], .one 0x3232 [0x28, 0x6709, 0x29],
    .one 0x3233 [0x28, 0x793E, 0x29], .one 0x3234 [0x28, 0x540D, 0x29],
    .one 0x3235 [0x28, 0x7279, 0x29], .one 0x3236 [0x28, 0x8CA1, 0x29],
    .one 0x3237 [0x28, 0x795D, 0x29], .one 0x3238 [0x28, 0x52B4, 0x29],
    .one 0x3239 [0x28, 0x4EE3, 0x29], .one 0x323A [0x28, 0x547C, 0x29],
    .one 0x323B [0x28, 0x5B66, 0x29], .one 0x323C [0x28, 0x76E3, 0x29],
    .one 0x323D [0x28, 0x4F01, 0x29], .one 0x323E [0x28, 0x8CC7, 0x29],
    .one 0x323F [0x28, 0x5354, 0x29], .one 0x3240 [0x28, 0x796D, 0x29],
    .one 0x3241 [0x28, 0x4F11, 0x29], .one 0x3242 [0x28, 0x81EA, 0x29],
    .one 0x3243 [0x28, 0x81F3, 0x29], .each 0x3244 [0x554F, 0x5E7C, 0x6587, 0x7B8F],
    .one 0x3250 [0x70, 0x74, 0x65], .one 0x3251 [0x32, 0x31], .one 0x3252 [0x32, 0x32],
    .one 0x3253 [0x32, 0x33], .one 0x3254 [0x32, 0x34], .one 0x3255 [0x32, 0x35],
    .one 0x3256 [0x32, 0x36], .one 0x3257 [0x32, 0x37], .one 0x3258 [0x32, 0x38],
    .one 0x3259 [0x32, 0x39], .one 0x325A [0x33, 0x30], .one 0x325B [0x33, 0x31],
    .one 0x325C [0x33, 0x32], .one 0x325D [0x33, 0x33], .one 0x325E [0x33, 0x34],
    .one 0x325F [0x33, 0x35], .one 0x3260 [0x1100], .along 0x3261 0x3262 0x1102,
    .along 0x3263 0x3265 0x1105, .one 0x3266 [0x1109], .along 0x3267 0x3268 0x110B,
    .along 0x3269 0x326D 0x110E,
    .each 0x326E [
      0xAC00, 0xB098, 0xB2E4, 0xB77C, 0xB9C8, 0xBC14, 0xC0AC, 0xC544, 0xC790, 0xCC28, 0xCE74,
      0xD0C0, 0xD30C, 0xD558],
    .one 0x327C [0xCC38, 0xACE0], .one 0x327D [0xC8FC, 0xC758], .one 0x327E [0xC6B0],
    .each 0x3280 [
      0x4E00, 0x4E8C, 0x4E09, 0x56DB, 0x4E94, 0x516D, 0x4E03, 0x516B, 0x4E5D, 0x5341, 0x6708,
      0x706B, 0x6C34, 0x6728, 0x91D1, 0x571F, 0x65E5, 0x682A, 0x6709, 0x793E, 0x540D, 0x7279,
      0x8CA1, 0x795D, 0x52B4, 0x79D8, 0x7537, 0x5973, 0x9069, 0x512A, 0x5370, 0x6CE8, 0x9805,
      0x4F11, 0x5199, 0x6B63, 0x4E0A, 0x4E2D, 0x4E0B, 0x5DE6, 0x53F3, 0x533B, 0x5B97, 0x5B66,
      0x76E3, 0x4F01, 0x8CC7, 0x5354, 0x591C],
    .one 0x32B1 [0x33, 0x36], .one 0x32B2 [0x33, 0x37], .one 0x32B3 [0x33, 0x38],
    .one 0x32B4 [0x33, 0x39], .one 0x32B5 [0x34, 0x30], .one 0x32B6 [0x34, 0x31],
    .one 0x32B7 [0x34, 0x32], .one 0x32B8 [0x34, 0x33], .one 0x32B9 [0x34, 0x34],
    .one 0x32BA [0x34, 0x35], .one 0x32BB [0x34, 0x36], .one 0x32BC [0x34, 0x37],
    .one 0x32BD [0x34, 0x38], .one 0x32BE [0x34, 0x39], .one 0x32BF [0x35, 0x30],
    .one 0x32C0 [0x31, 0x6708], .one 0x32C1 [0x32, 0x6708], .one 0x32C2 [0x33, 0x6708],
    .one 0x32C3 [0x34, 0x6708], .one 0x32C4 [0x35, 0x6708], .one 0x32C5 [0x36, 0x6708],
    .one 0x32C6 [0x37, 0x6708], .one 0x32C7 [0x38, 0x6708], .one 0x32C8 [0x39, 0x6708],
    .one 0x32C9 [0x31, 0x30, 0x6708], .one 0x32CA [0x31, 0x31, 0x6708],
    .one 0x32CB [0x31, 0x32, 0x6708], .one 0x32CC [0x68, 0x67], .one 0x32CD [0x65, 0x72, 0x67],
    .one 0x32CE [0x65, 0x76], .one 0x32CF [0x6C, 0x74, 0x64],
    .each 0x32D0 [0x30A2, 0x30A4, 0x30A6, 0x30A8], .along 0x32D4 0x32D5 0x30AA,
    .each 0x32D6 [
      0x30AD, 0x30AF, 0x30B1, 0x30B3, 0x30B5, 0x30B7, 0x30B9, 0x30BB, 0x30BD, 0x30BF, 0x30C1,
      0x30C4, 0x30C6, 0x30C8],
    .along 0x32E4 0x32E9 0x30CA, .each 0x32EA [0x30D2, 0x30D5, 0x30D8, 0x30DB],
    .along 0x32EE 0x32F2 0x30DE, .one 0x32F3 [0x30E4], .one 0x32F4 [0x30E6],
    .along 0x32F5 0x32FA 0x30E8, .along 0x32FB 0x32FE 0x30EF, .one 0x32FF [0x4EE4, 0x548C],
    .one 0x3300 [0x30A2, 0x30D1, 0x30FC, 0x30C8], .one 0x3301 [0x30A2, 0x30EB, 0x30D5, 0x30A1],
    .one 0x3302 [0x30A2, 0x30F3, 0x30DA, 0x30A2], .one 0x3303 [0x30A2, 0x30FC, 0x30EB],
    .one 0x3304 [0x30A4, 0x30CB, 0x30F3, 0x30B0], .one 0x3305 [0x30A4, 0x30F3, 0x30C1],
    .one 0x3306 [0x30A6, 0x30A9, 0x30F3], .one 0x3307 [0x30A8, 0x30B9, 0x30AF, 0x30FC, 0x30C9],
    .one 0x3308 [0x30A8, 0x30FC, 0x30AB, 0x30FC], .one 0x3309 [0x30AA, 0x30F3, 0x30B9],
    .one 0x330A [0x30AA, 0x30FC, 0x30E0], .one 0x330B [0x30AB, 0x30A4, 0x30EA],
    .one 0x330C [0x30AB, 0x30E9, 0x30C3, 0x30C8], .one 0x330D [0x30AB, 0x30ED, 0x30EA, 0x30FC],
    .one 0x330E [0x30AC, 0x30ED, 0x30F3], .one 0x330F [0x30AC, 0x30F3, 0x30DE],
    .one 0x3310 [0x30AE, 0x30AC], .one 0x3311 [0x30AE, 0x30CB, 0x30FC],
    .one 0x3312 [0x30AD, 0x30E5, 0x30EA, 0x30FC], .one 0x3313 [0x30AE, 0x30EB, 0x30C0, 0x30FC],
    .one 0x3314 [0x30AD, 0x30ED], .one 0x3315 [0x30AD, 0x30ED, 0x30B0, 0x30E9, 0x30E0],
    .one 0x3316 [0x30AD, 0x30ED, 0x30E1, 0x30FC, 0x30C8, 0x30EB],
    .one 0x3317 [0x30AD, 0x30ED, 0x30EF, 0x30C3, 0x30C8], .one 0x3318 [0x30B0, 0x30E9, 0x30E0],
    .one 0x3319 [0x30B0, 0x30E9, 0x30E0, 0x30C8, 0x30F3],
    .one 0x331A [0x30AF, 0x30EB, 0x30BC, 0x30A4, 0x30ED],
    .one 0x331B [0x30AF, 0x30ED, 0x30FC, 0x30CD], .one 0x331C [0x30B1, 0x30FC, 0x30B9],
    .one 0x331D [0x30B3, 0x30EB, 0x30CA], .one 0x331E [0x30B3, 0x30FC, 0x30DD],
    .one 0x331F [0x30B5, 0x30A4, 0x30AF, 0x30EB],
    .one 0x3320 [0x30B5, 0x30F3, 0x30C1, 0x30FC, 0x30E0],
    .one 0x3321 [0x30B7, 0x30EA, 0x30F3, 0x30B0], .one 0x3322 [0x30BB, 0x30F3, 0x30C1],
    .one 0x3323 [0x30BB, 0x30F3, 0x30C8], .one 0x3324 [0x30C0, 0x30FC, 0x30B9],
    .one 0x3325 [0x30C7, 0x30B7], .one 0x3326 [0x30C9, 0x30EB], .one 0x3327 [0x30C8, 0x30F3],
    .one 0x3328 [0x30CA, 0x30CE], .one 0x3329 [0x30CE, 0x30C3, 0x30C8],
    .one 0x332A [0x30CF, 0x30A4, 0x30C4], .one 0x332B [0x30D1, 0x30FC, 0x30BB, 0x30F3, 0x30C8],
    .one 0x332C [0x30D1, 0x30FC, 0x30C4], .one 0x332D [0x30D0, 0x30FC, 0x30EC, 0x30EB],
    .one 0x332E [0x30D4, 0x30A2, 0x30B9, 0x30C8, 0x30EB], .one 0x332F [0x30D4, 0x30AF, 0x30EB],
    .one 0x3330 [0x30D4, 0x30B3], .one 0x3331 [0x30D3, 0x30EB],
    .one 0x3332 [0x30D5, 0x30A1, 0x30E9, 0x30C3, 0x30C9],
    .one 0x3333 [0x30D5, 0x30A3, 0x30FC, 0x30C8],
    .one 0x3334 [0x30D6, 0x30C3, 0x30B7, 0x30A7, 0x30EB], .one 0x3335 [0x30D5, 0x30E9, 0x30F3],
    .one 0x3336 [0x30D8, 0x30AF, 0x30BF, 0x30FC, 0x30EB], .one 0x3337 [0x30DA, 0x30BD],
    .one 0x3338 [0x30DA, 0x30CB, 0x30D2], .one 0x3339 [0x30D8, 0x30EB, 0x30C4],
    .one 0x333A [0x30DA, 0x30F3, 0x30B9], .one 0x333B [0x30DA, 0x30FC, 0x30B8],
    .one 0x333C [0x30D9, 0x30FC, 0x30BF], .one 0x333D [0x30DD, 0x30A4, 0x30F3, 0x30C8],
    .one 0x333E [0x30DC, 0x30EB, 0x30C8], .one 0x333F [0x30DB, 0x30F3],
    .one 0x3340 [0x30DD, 0x30F3, 0x30C9], .one 0x3341 [0x30DB, 0x30FC, 0x30EB],
    .one 0x3342 [0x30DB, 0x30FC, 0x30F3], .one 0x3343 [0x30DE, 0x30A4, 0x30AF, 0x30ED],
    .one 0x3344 [0x30DE, 0x30A4, 0x30EB], .one 0x3345 [0x30DE, 0x30C3, 0x30CF],
    .one 0x3346 [0x30DE, 0x30EB, 0x30AF], .one 0x3347 [0x30DE, 0x30F3, 0x30B7, 0x30E7, 0x30F3],
    .one 0x3348 [0x30DF, 0x30AF, 0x30ED, 0x30F3], .one 0x3349 [0x30DF, 0x30EA],
    .one 0x334A [0x30DF, 0x30EA, 0x30D0, 0x30FC, 0x30EB], .one 0x334B [0x30E1, 0x30AC],
    .one 0x334C [0x30E1, 0x30AC, 0x30C8, 0x30F3], .one 0x334D [0x30E1, 0x30FC, 0x30C8, 0x30EB],
    .one 0x334E [0x30E4, 0x30FC, 0x30C9], .one 0x334F [0x30E4, 0x30FC, 0x30EB],
    .one 0x3350 [0x30E6, 0x30A2, 0x30F3], .one 0x3351 [0x30EA, 0x30C3, 0x30C8, 0x30EB],
    .one 0x3352 [0x30EA, 0x30E9], .one 0x3353 [0x30EB, 0x30D4, 0x30FC],
    .one 0x3354 [0x30EB, 0x30FC, 0x30D6, 0x30EB], .one 0x3355 [0x30EC, 0x30E0],
    .one 0x3356 [0x30EC, 0x30F3, 0x30C8, 0x30B2, 0x30F3], .one 0x3357 [0x30EF, 0x30C3, 0x30C8],
    .one 0x3358 [0x30, 0x70B9], .one 0x3359 [0x31, 0x70B9], .one 0x335A [0x32, 0x70B9],
    .one 0x335B [0x33, 0x70B9], .one 0x335C [0x34, 0x70B9], .one 0x335D [0x35, 0x70B9],
    .one 0x335E [0x36, 0x70B9], .one 0x335F [0x37, 0x70B9], .one 0x3360 [0x38, 0x70B9],
    .one 0x3361 [0x39, 0x70B9], .one 0x3362 [0x31, 0x30, 0x70B9], .one 0x3363 [0x31, 0x31, 0x70B9],
    .one 0x3364 [0x31, 0x32, 0x70B9], .one 0x3365 [0x31, 0x33, 0x70B9],
    .one 0x3366 [0x31, 0x34, 0x70B9], .one 0x3367 [0x31, 0x35, 0x70B9],
    .one 0x3368 [0x31, 0x36, 0x70B9], .one 0x3369 [0x31, 0x37, 0x70B9],
    .one 0x336A [0x31, 0x38, 0x70B9], .one 0x336B [0x31, 0x39, 0x70B9],
    .one 0x336C [0x32, 0x30, 0x70B9], .one 0x336D [0x32, 0x31, 0x70B9],
    .one 0x336E [0x32, 0x32, 0x70B9], .one 0x336F [0x32, 0x33, 0x70B9],
    .one 0x3370 [0x32, 0x34, 0x70B9], .one 0x3371 [0x68, 0x70, 0x61], .one 0x3372 [0x64, 0x61],
    .one 0x3373 [0x61, 0x75], .one 0x3374 [0x62, 0x61, 0x72], .one 0x3375 [0x6F, 0x76],
    .one 0x3376 [0x70, 0x63], .one 0x3377 [0x64, 0x6D], .one 0x3378 [0x64, 0x6D, 0x32],
    .one 0x3379 [0x64, 0x6D, 0x33], .one 0x337A [0x69, 0x75], .one 0x337B [0x5E73, 0x6210],
    .one 0x337C [0x662D, 0x548C], .one 0x337D [0x5927, 0x6B63], .one 0x337E [0x660E, 0x6CBB],
    .one 0x337F [0x682A, 0x5F0F, 0x4F1A, 0x793E], .one 0x3380 [0x70, 0x61],
    .one 0x3381 [0x6E, 0x61], .one 0x3382 [0x3BC, 0x61], .one 0x3383 [0x6D, 0x61],
    .one 0x3384 [0x6B, 0x61], .one 0x3385 [0x6B, 0x62], .one 0x3386 [0x6D, 0x62],
    .one 0x3387 [0x67, 0x62], .one 0x3388 [0x63, 0x61, 0x6C], .one 0x3389 [0x6B, 0x63, 0x61, 0x6C],
    .one 0x338A [0x70, 0x66], .one 0x338B [0x6E, 0x66], .one 0x338C [0x3BC, 0x66],
    .one 0x338D [0x3BC, 0x67], .one 0x338E [0x6D, 0x67], .one 0x338F [0x6B, 0x67],
    .one 0x3390 [0x68, 0x7A], .one 0x3391 [0x6B, 0x68, 0x7A], .one 0x3392 [0x6D, 0x68, 0x7A],
    .one 0x3393 [0x67, 0x68, 0x7A], .one 0x3394 [0x74, 0x68, 0x7A], .one 0x3395 [0x3BC, 0x6C],
    .one 0x3396 [0x6D, 0x6C], .one 0x3397 [0x64, 0x6C], .one 0x3398 [0x6B, 0x6C],
    .one 0x3399 [0x66, 0x6D], .one 0x339A [0x6E, 0x6D], .one 0x339B [0x3BC, 0x6D],
    .one 0x339C [0x6D, 0x6D], .one 0x339D [0x63, 0x6D], .one 0x339E [0x6B, 0x6D],
    .one 0x339F [0x6D, 0x6D, 0x32], .one 0x33A0 [0x63, 0x6D, 0x32], .one 0x33A1 [0x6D, 0x32],
    .one 0x33A2 [0x6B, 0x6D, 0x32], .one 0x33A3 [0x6D, 0x6D, 0x33], .one 0x33A4 [0x63, 0x6D, 0x33],
    .one 0x33A5 [0x6D, 0x33], .one 0x33A6 [0x6B, 0x6D, 0x33], .one 0x33A7 [0x6D, 0x2215, 0x73],
    .one 0x33A8 [0x6D, 0x2215, 0x73, 0x32], .one 0x33A9 [0x70, 0x61],
    .one 0x33AA [0x6B, 0x70, 0x61], .one 0x33AB [0x6D, 0x70, 0x61], .one 0x33AC [0x67, 0x70, 0x61],
    .one 0x33AD [0x72, 0x61, 0x64], .one 0x33AE [0x72, 0x61, 0x64, 0x2215, 0x73],
    .one 0x33AF [0x72, 0x61, 0x64, 0x2215, 0x73, 0x32], .one 0x33B0 [0x70, 0x73],
    .one 0x33B1 [0x6E, 0x73], .one 0x33B2 [0x3BC, 0x73], .one 0x33B3 [0x6D, 0x73],
    .one 0x33B4 [0x70, 0x76], .one 0x33B5 [0x6E, 0x76], .one 0x33B6 [0x3BC, 0x76],
    .one 0x33B7 [0x6D, 0x76], .one 0x33B8 [0x6B, 0x76], .one 0x33B9 [0x6D, 0x76],
    .one 0x33BA [0x70, 0x77], .one 0x33BB [0x6E, 0x77], .one 0x33BC [0x3BC, 0x77],
    .one 0x33BD [0x6D, 0x77], .one 0x33BE [0x6B, 0x77], .one 0x33BF [0x6D, 0x77],
    .one 0x33C0 [0x6B, 0x3C9], .one 0x33C1 [0x6D, 0x3C9], .one 0x33C3 [0x62, 0x71],
    .one 0x33C4 [0x63, 0x63], .one 0x33C5 [0x63, 0x64], .one 0x33C6 [0x63, 0x2215, 0x6B, 0x67],
    .one 0x33C8 [0x64, 0x62], .one 0x33C9 [0x67, 0x79], .one 0x33CA [0x68, 0x61],
    .one 0x33CB [0x68, 0x70], .one 0x33CC [0x69, 0x6E], .one 0x33CD [0x6B, 0x6B],
    .one 0x33CE [0x6B, 0x6D], .one 0x33CF [0x6B, 0x74], .one 0x33D0 [0x6C, 0x6D],
    .one 0x33D1 [0x6C, 0x6E], .one 0x33D2 [0x6C, 0x6F, 0x67], .one 0x33D3 [0x6C, 0x78],
    .one 0x33D4 [0x6D, 0x62], .one 0x33D5 [0x6D, 0x69, 0x6C], .one 0x33D6 [0x6D, 0x6F, 0x6C],
    .one 0x33D7 [0x70, 0x68], .one 0x33D9 [0x70, 0x70, 0x6D], .one 0x33DA [0x70, 0x72],
    .one 0x33DB [0x73, 0x72], .one 0x33DC [0x73, 0x76], .one 0x33DD [0x77, 0x62],
    .one 0x33DE [0x76, 0x2215, 0x6D], .one 0x33DF [0x61, 0x2215, 0x6D], .one 0x33E0 [0x31, 0x65E5],
    .one 0x33E1 [0x32, 0x65E5], .one 0x33E2 [0x33, 0x65E5], .one 0x33E3 [0x34, 0x65E5],
    .one 0x33E4 [0x35, 0x65E5], .one 0x33E5 [0x36, 0x65E5], .one 0x33E6 [0x37, 0x65E5],
    .one 0x33E7 [0x38, 0x65E5], .one 0x33E8 [0x39, 0x65E5], .one 0x33E9 [0x31, 0x30, 0x65E5],
    .one 0x33EA [0x31, 0x31, 0x65E5], .one 0x33EB [0x31, 0x32, 0x65E5],
    .one 0x33EC [0x31, 0x33, 0x65E5], .one 0x33ED [0x31, 0x34, 0x65E5],
    .one 0x33EE [0x31, 0x35, 0x65E5], .one 0x33EF [0x31, 0x36, 0x65E5],
    .one 0x33F0 [0x31, 0x37, 0x65E5], .one 0x33F1 [0x31, 0x38, 0x65E5],
    .one 0x33F2 [0x31, 0x39, 0x65E5], .one 0x33F3 [0x32, 0x30, 0x65E5],
    .one 0x33F4 [0x32, 0x31, 0x65E5], .one 0x33F5 [0x32, 0x32, 0x65E5],
    .one 0x33F6 [0x32, 0x33, 0x65E5], .one 0x33F7 [0x32, 0x34, 0x65E5],
    .one 0x33F8 [0x32, 0x35, 0x65E5], .one 0x33F9 [0x32, 0x36, 0x65E5],
    .one 0x33FA [0x32, 0x37, 0x65E5], .one 0x33FB [0x32, 0x38, 0x65E5],
    .one 0x33FC [0x32, 0x39, 0x65E5], .one 0x33FD [0x33, 0x30, 0x65E5],
    .one 0x33FE [0x33, 0x31, 0x65E5], .one 0x33FF [0x67, 0x61, 0x6C],
    .each 0xF900 [0x8C48, 0x66F4, 0x8ECA, 0x8CC8, 0x6ED1, 0x4E32, 0x53E5],
    .all 0xF907 0xF908 [0x9F9C],
    .each 0xF909 [
      0x5951, 0x91D1, 0x5587, 0x5948, 0x61F6, 0x7669, 0x7F85, 0x863F, 0x87BA, 0x88F8, 0x908F,
      0x6A02, 0x6D1B, 0x70D9, 0x73DE, 0x843D, 0x916A, 0x99F1, 0x4E82, 0x5375, 0x6B04, 0x721B,
      0x862D, 0x9E1E, 0x5D50, 0x6FEB, 0x85CD, 0x8964, 0x62C9, 0x81D8, 0x881F, 0x5ECA, 0x6717,
      0x6D6A, 0x72FC, 0x90CE, 0x4F86, 0x51B7, 0x52DE, 0x64C4, 0x6AD3, 0x7210, 0x76E7, 0x8001,
      0x8606, 0x865C, 0x8DEF, 0x9732, 0x9B6F, 0x9DFA, 0x788C, 0x797F, 0x7DA0, 0x83C9, 0x9304,
      0x9E7F, 0x8AD6, 0x58DF, 0x5F04, 0x7C60, 0x807E, 0x7262, 0x78CA, 0x8CC2, 0x96F7, 0x58D8,
      0x5C62, 0x6A13, 0x6DDA, 0x6F0F, 0x7D2F, 0x7E37, 0x964B, 0x52D2, 0x808B, 0x51DC, 0x51CC,
      0x7A1C, 0x7DBE, 0x83F1, 0x9675, 0x8B80, 0x62CF, 0x6A02, 0x8AFE, 0x4E39, 0x5BE7, 0x6012,
      0x7387, 0x7570, 0x5317, 0x78FB, 0x4FBF, 0x5FA9, 0x4E0D, 0x6CCC, 0x6578, 0x7D22, 0x53C3,
      0x585E, 0x7701, 0x8449, 0x8AAA, 0x6BBA, 0x8FB0, 0x6C88, 0x62FE, 0x82E5, 0x63A0, 0x7565,
      0x4EAE, 0x5169, 0x51C9, 0x6881, 0x7CE7, 0x826F, 0x8AD2, 0x91CF, 0x52F5, 0x5442, 0x5973,
      0x5EEC, 0x65C5, 0x6FFE, 0x792A, 0x95AD, 0x9A6A, 0x9E97, 0x9ECE, 0x529B, 0x66C6, 0x6B77,
      0x8F62, 0x5E74, 0x6190, 0x6200, 0x649A, 0x6F23, 0x7149, 0x7489, 0x79CA, 0x7DF4, 0x806F,
      0x8F26, 0x84EE, 0x9023, 0x934A, 0x5217, 0x52A3, 0x54BD, 0x70C8, 0x88C2, 0x8AAA, 0x5EC9,
      0x5FF5, 0x637B, 0x6BAE, 0x7C3E, 0x7375, 0x4EE4, 0x56F9, 0x5BE7, 0x5DBA, 0x601C, 0x73B2,
      0x7469, 0x7F9A, 0x8046, 0x9234, 0x96F6, 0x9748, 0x9818, 0x4F8B, 0x79AE, 0x91B4, 0x96B8,
      0x60E1, 0x4E86, 0x50DA, 0x5BEE, 0x5C3F, 0x6599, 0x6A02, 0x71CE, 0x7642, 0x84FC, 0x907C,
      0x9F8D, 0x6688, 0x962E, 0x5289, 0x677B, 0x67F3, 0x6D41, 0x6E9C, 0x7409, 0x7559, 0x786B,
      0x7D10, 0x985E, 0x516D, 0x622E, 0x9678, 0x502B, 0x5D19, 0x6DEA, 0x8F2A, 0x5F8B, 0x6144,
      0x6817, 0x7387, 0x9686, 0x5229, 0x540F, 0x5C65, 0x6613, 0x674E, 0x68A8, 0x6CE5, 0x7406,
      0x75E2, 0x7F79, 0x88CF, 0x88E1, 0x91CC, 0x96E2, 0x533F, 0x6EBA, 0x541D, 0x71D0, 0x7498,
      0x85FA, 0x96A3, 0x9C57, 0x9E9F, 0x6797, 0x6DCB, 0x81E8, 0x7ACB, 0x7B20, 0x7C92, 0x72C0,
      0x7099, 0x8B58, 0x4EC0, 0x8336, 0x523A, 0x5207, 0x5EA6, 0x62D3, 0x7CD6, 0x5B85, 0x6D1E,
      0x66B4, 0x8F3B, 0x884C, 0x964D, 0x898B, 0x5ED3, 0x5140, 0x55C0],
    .one 0xFA10 [0x585A], .one 0xFA12 [0x6674],
    .each 0xFA15 [0x51DE, 0x732A, 0x76CA, 0x793C, 0x795E, 0x7965, 0x798F, 0x9756, 0x7CBE, 0x7FBD],
    .one 0xFA20 [0x8612], .one 0xFA22 [0x8AF8], .one 0xFA25 [0x9038], .one 0xFA26 [0x90FD],
    .each 0xFA2A [
      0x98EF, 0x98FC, 0x9928, 0x9DB4, 0x90DE, 0x96B7, 0x4FAE, 0x50E7, 0x514D, 0x52C9, 0x52E4,
      0x5351, 0x559D, 0x5606, 0x5668, 0x5840, 0x58A8, 0x5C64, 0x5C6E, 0x6094, 0x6168, 0x618E,
      0x61F2, 0x654F, 0x65E2, 0x6691, 0x6885, 0x6D77, 0x6E1A, 0x6F22, 0x716E, 0x722B, 0x7422,
      0x7891, 0x793E, 0x7949, 0x7948, 0x7950, 0x7956, 0x795D],
    .along 0xFA52 0xFA53 0x798D,
    .each 0xFA54 [0x7A40, 0x7A81, 0x7BC0, 0x7DF4, 0x7E09, 0x7E41, 0x7F72, 0x8005, 0x81ED],
    .all 0xFA5D 0xFA5E [0x8279],
    .each 0xFA5F [
      0x8457, 0x8910, 0x8996, 0x8B01, 0x8B39, 0x8CD3, 0x8D08, 0x8FB6, 0x9038, 0x96E3, 0x97FF,
      0x983B, 0x6075, 0x242EE, 0x8218],
    .each 0xFA70 [
      0x4E26, 0x51B5, 0x5168, 0x4F80, 0x5145, 0x5180, 0x52C7, 0x52FA, 0x559D, 0x5555, 0x5599,
      0x55E2, 0x585A, 0x58B3, 0x5944, 0x5954, 0x5A62, 0x5B28, 0x5ED2, 0x5ED9, 0x5F69, 0x5FAD,
      0x60D8, 0x614E, 0x6108, 0x618E, 0x6160, 0x61F2, 0x6234, 0x63C4, 0x641C, 0x6452, 0x6556,
      0x6674, 0x6717, 0x671B, 0x6756, 0x6B79, 0x6BBA, 0x6D41, 0x6EDB, 0x6ECB, 0x6F22, 0x701E,
      0x716E, 0x77A7, 0x7235, 0x72AF, 0x732A, 0x7471, 0x7506, 0x753B, 0x761D, 0x761F, 0x76CA,
      0x76DB, 0x76F4, 0x774A, 0x7740, 0x78CC, 0x7AB1, 0x7BC0, 0x7C7B, 0x7D5B, 0x7DF4, 0x7F3E,
      0x8005, 0x8352, 0x83EF, 0x8779, 0x8941, 0x8986, 0x8996, 0x8ABF, 0x8AF8, 0x8ACB, 0x8B01,
      0x8AFE, 0x8AED, 0x8B39, 0x8B8A, 0x8D08, 0x8F38, 0x9072, 0x9199, 0x9276, 0x967C, 0x96E3,
      0x9756, 0x97DB, 0x97FF, 0x980B, 0x983B, 0x9B12, 0x9F9C, 0x2284A, 0x22844, 0x233D5, 0x3B9D,
      0x4018, 0x4039, 0x25249, 0x25CD0, 0x27ED3, 0x9F43, 0x9F8E],
    .each 0x2F800 [
      0x4E3D, 0x4E38, 0x4E41, 0x20122, 0x4F60, 0x4FAE, 0x4FBB, 0x5002, 0x507A, 0x5099, 0x50E7,
      0x50CF, 0x349E, 0x2063A, 0x514D, 0x5154, 0x5164, 0x5177, 0x2051C, 0x34B9, 0x5167, 0x518D,
      0x2054B, 0x5197, 0x51A4, 0x4ECC, 0x51AC, 0x51B5, 0x291DF, 0x51F5, 0x5203, 0x34DF, 0x523B,
      0x5246, 0x5272, 0x5277, 0x3515, 0x52C7, 0x52C9, 0x52E4, 0x52FA],
    .along 0x2F829 0x2F82A 0x5305, .each 0x2F82B [0x5317, 0x5349, 0x5351, 0x535A, 0x5373],
    .second 0x2F830 0x2F832 0x537D, .one 0x2F831 [0x537F],
    .each 0x2F833 [
      0x537F, 0x20A2C, 0x7070, 0x53CA, 0x53DF, 0x20B63, 0x53EB, 0x53F1, 0x5406, 0x549E, 0x5438,
      0x5448, 0x5468, 0x54A2, 0x54F6, 0x5510, 0x5553, 0x5563],
    .all 0x2F845 0x2F846 [0x5584],
    .each 0x2F847 [
      0x5599, 0x55AB, 0x55B3, 0x55C2, 0x5716, 0x5606, 0x5717, 0x5651, 0x5674, 0x5207, 0x58EE,
      0x57CE, 0x57F4, 0x580D, 0x578B, 0x5832, 0x5831, 0x58AC, 0x214E4, 0x58F2, 0x58F7, 0x5906,
      0x591A, 0x5922, 0x5962, 0x216A8, 0x216EA, 0x59EC, 0x5A1B, 0x5A27, 0x59D8, 0x5A66, 0x36EE,
      0x36FC, 0x5B08],
    .all 0x2F86A 0x2F86B [0x5B3E],
    .each 0x2F86C [
      0x219C8, 0x5BC3, 0x5BD8, 0x5BE7, 0x5BF3, 0x21B18, 0x5BFF, 0x5C06, 0x5F53, 0x5C22, 0x3781,
      0x5C60, 0x5C6E, 0x5CC0, 0x5C8D],
    .second 0x2F87B 0x2F87D 0x21DE4, .one 0x2F87C [0x5D43], .each 0x2F87E [0x5D6E, 0x5D6B, 0x5D7C],
    .along 0x2F881 0x2F882 0x5DE1,
    .each 0x2F883 [
      0x382F, 0x5DFD, 0x5E28, 0x5E3D, 0x5E69, 0x3862, 0x22183, 0x387C, 0x5EB0, 0x5EB3, 0x5EB6,
      0x5ECA, 0x2A392, 0x5EFE],
    .all 0x2F891 0x2F892 [0x22331], .one 0x2F893 [0x8201], .all 0x2F894 0x2F895 [0x5F22],
    .each 0x2F896 [
      0x38C7, 0x232B8, 0x261DA, 0x5F62, 0x5F6B, 0x38E3, 0x5F9A, 0x5FCD, 0x5FD7, 0x5FF9, 0x6081,
      0x393A, 0x391C, 0x6094, 0x226D4, 0x60C7, 0x6148, 0x614C, 0x614E, 0x614C, 0x617A, 0x618E,
      0x61B2, 0x61A4, 0x61AF, 0x61DE, 0x61F2, 0x61F6, 0x6210, 0x621B, 0x625D, 0x62B1, 0x62D4,
      0x6350, 0x22B0C, 0x633D, 0x62FC, 0x6368, 0x6383, 0x63E4, 0x22BF1, 0x6422, 0x63C5, 0x63A9,
      0x3A2E, 0x6469, 0x647E, 0x649D, 0x6477, 0x3A6C, 0x654F, 0x656C, 0x2300A, 0x65E3, 0x66F8,
      0x6649, 0x3B19, 0x6691, 0x3B08, 0x3AE4, 0x5192, 0x5195, 0x6700, 0x669C, 0x80AD, 0x43D9,
      0x6717, 0x671B, 0x6721, 0x675E, 0x6753, 0x233C3, 0x3B49, 0x67FA, 0x6785, 0x6852, 0x6885,
      0x2346D, 0x688E, 0x681F, 0x6914, 0x3B9D, 0x6942, 0x69A3, 0x69EA, 0x6AA8, 0x236A3, 0x6ADB,
      0x3C18, 0x6B21, 0x238A7, 0x6B54, 0x3C4E, 0x6B72, 0x6B9F],
    .along 0x2F8F5 0x2F8F6 0x6BBA,
    .each 0x2F8F7 [
      0x23A8D, 0x21D0B, 0x23AFA, 0x6C4E, 0x23CBC, 0x6CBF, 0x6CCD, 0x6C67, 0x6D16, 0x6D3E, 0x6D77,
      0x6D41, 0x6D69, 0x6D78, 0x6D85, 0x23D1E, 0x6D34, 0x6E2F, 0x6E6E, 0x3D33, 0x6ECB, 0x6EC7,
      0x23ED1, 0x6DF9, 0x6F6E, 0x23F5E, 0x23F8E, 0x6FC6, 0x7039, 0x701E, 0x701B, 0x3D96, 0x704A,
      0x707D, 0x7077, 0x70AD, 0x20525, 0x7145, 0x24263, 0x719C, 0x243AB, 0x7228, 0x7235, 0x7250,
      0x24608, 0x7280, 0x7295, 0x24735, 0x24814, 0x737A, 0x738B, 0x3EAC, 0x73A5],
    .all 0x2F92C 0x2F92D [0x3EB8],
    .each 0x2F92E [
      0x7447, 0x745C, 0x7471, 0x7485, 0x74CA, 0x3F1B, 0x7524, 0x24C36, 0x753E, 0x24C92, 0x7570,
      0x2219F, 0x7610, 0x24FA1, 0x24FB8, 0x25044, 0x3FFC, 0x4008, 0x76F4, 0x250F3, 0x250F2, 0x25119,
      0x25133],
    .along 0x2F945 0x2F946 0x771E,
    .each 0x2F947 [
      0x771F, 0x774A, 0x4039, 0x778B, 0x4046, 0x4096, 0x2541D, 0x784E, 0x788C, 0x78CC, 0x40E3,
      0x25626, 0x7956, 0x2569A, 0x256C5, 0x798F, 0x79EB, 0x412F, 0x7A40, 0x7A4A, 0x7A4F, 0x2597C],
    .all 0x2F95D 0x2F95E [0x25AA7],
    .each 0x2F95F [
      0x7AEE, 0x4202, 0x25BAB, 0x7BC6, 0x7BC9, 0x4227, 0x25C80, 0x7CD2, 0x42A0, 0x7CE8, 0x7CE3,
      0x7D00, 0x25F86, 0x7D63, 0x4301, 0x7DC7, 0x7E02, 0x7E45, 0x4334, 0x26228, 0x26247, 0x4359,
      0x262D9, 0x7F7A, 0x2633E, 0x7F95, 0x7FFA, 0x8005, 0x264DA, 0x26523, 0x8060, 0x265A8, 0x8070,
      0x2335F, 0x43D5, 0x80B2, 0x8103, 0x440B, 0x813E, 0x5AB5, 0x267A7, 0x267B5, 0x23393, 0x2339C,
      0x8201, 0x8204, 0x8F9E, 0x446B, 0x8291, 0x828B, 0x829D, 0x52B3, 0x82B1, 0x82B3, 0x82BD,
      0x82E6, 0x26B3C, 0x82E5, 0x831D, 0x8363, 0x83AD, 0x8323, 0x83BD, 0x83E7, 0x8457, 0x8353,
      0x83CA, 0x83CC, 0x83DC, 0x26C36, 0x26D6B, 0x26CD5, 0x452B, 0x84F1, 0x84F3, 0x8516, 0x273CA,
      0x8564, 0x26F2C, 0x455D, 0x4561, 0x26FB1, 0x270D2, 0x456B, 0x8650, 0x865C, 0x8667, 0x8669,
      0x86A9, 0x8688, 0x870E, 0x86E2, 0x8779, 0x8728, 0x876B, 0x8786, 0x45D7, 0x87E1, 0x8801,
      0x45F9, 0x8860, 0x8863, 0x27667, 0x88D7, 0x88DE, 0x4635, 0x88FA, 0x34BB, 0x278AE, 0x27966,
      0x46BE, 0x46C7, 0x8AA0, 0x8AED, 0x8B8A, 0x8C55, 0x27CA8, 0x8CAB, 0x8CC1, 0x8D1B, 0x8D77,
      0x27F2F, 0x20804, 0x8DCB, 0x8DBC, 0x8DF0, 0x208DE, 0x8ED4, 0x8F38, 0x285D2, 0x285ED, 0x9094,
      0x90F1, 0x9111, 0x2872E, 0x911B, 0x9238],
    .along 0x2F9E8 0x2F9E9 0x92D7,
    .each 0x2F9EA [
      0x927C, 0x93F9, 0x9415, 0x28BFA, 0x958B, 0x4995, 0x95B7, 0x28D77, 0x49E6, 0x96C3, 0x5DB2,
      0x9723, 0x29145, 0x2921A, 0x4A6E, 0x4A76, 0x97E0, 0x2940A, 0x4AB2, 0x29496],
    .all 0x2F9FE 0x2F9FF [0x980B],
    .each 0x2FA00 [
      0x9829, 0x295B6, 0x98E2, 0x4B33, 0x9929, 0x99A7, 0x99C2, 0x99FE, 0x4BCE, 0x29B30, 0x9B12,
      0x9C40, 0x9CFD, 0x4CCE, 0x4CED, 0x9D67, 0x2A0CE, 0x4CF8, 0x2A105, 0x2A20E, 0x2A291, 0x9EBB,
      0x4D56, 0x9EF9, 0x9EFE, 0x9F05, 0x9F0F, 0x9F16, 0x9F3B, 0x2A600]]

end Dispatch.Domain.Mapping
