import Dispatch.Domain.Mapping.Rule

namespace Dispatch.Domain.Mapping

def letterRules : List Rule := [
    .one 0xA0 [0x20], .one 0xA8 [0x20, 0x308], .one 0xAA [0x61], .one 0xAF [0x20, 0x304],
    .along 0xB2 0xB3 0x32, .one 0xB4 [0x20, 0x301], .one 0xB5 [0x3BC], .one 0xB8 [0x20, 0x327],
    .one 0xB9 [0x31], .one 0xBA [0x6F], .one 0xBC [0x31, 0x2044, 0x34],
    .one 0xBD [0x31, 0x2044, 0x32], .one 0xBE [0x33, 0x2044, 0x34], .along 0xC0 0xD6 0xE0,
    .along 0xD8 0xDE 0xF8, .second 0x100 0x12E 0x101, .one 0x130 [0x69, 0x307],
    .all 0x132 0x133 [0x69, 0x6A], .second 0x134 0x136 0x135, .second 0x139 0x13D 0x13A,
    .all 0x13F 0x140 [0x6C, 0xB7], .second 0x141 0x147 0x142, .one 0x149 [0x2BC, 0x6E],
    .second 0x14A 0x176 0x14B, .one 0x178 [0xFF], .second 0x179 0x17D 0x17A, .one 0x17F [0x73],
    .one 0x181 [0x253], .second 0x182 0x184 0x183, .one 0x186 [0x254], .one 0x187 [0x188],
    .along 0x189 0x18A 0x256, .one 0x18B [0x18C], .each 0x18E [0x1DD, 0x259, 0x25B, 0x192],
    .one 0x193 [0x260], .one 0x194 [0x263], .each 0x196 [0x269, 0x268, 0x199], .one 0x19C [0x26F],
    .one 0x19D [0x272], .one 0x19F [0x275], .second 0x1A0 0x1A4 0x1A1, .one 0x1A6 [0x280],
    .one 0x1A7 [0x1A8], .one 0x1A9 [0x283], .one 0x1AC [0x1AD], .one 0x1AE [0x288],
    .one 0x1AF [0x1B0], .along 0x1B1 0x1B2 0x28A, .second 0x1B3 0x1B5 0x1B4, .one 0x1B7 [0x292],
    .one 0x1B8 [0x1B9], .one 0x1BC [0x1BD], .all 0x1C4 0x1C6 [0x64, 0x17E],
    .all 0x1C7 0x1C9 [0x6C, 0x6A], .all 0x1CA 0x1CC [0x6E, 0x6A], .second 0x1CD 0x1DB 0x1CE,
    .second 0x1DE 0x1EE 0x1DF, .all 0x1F1 0x1F3 [0x64, 0x7A], .one 0x1F4 [0x1F5],
    .one 0x1F6 [0x195], .one 0x1F7 [0x1BF], .second 0x1F8 0x21E 0x1F9, .one 0x220 [0x19E],
    .second 0x222 0x232 0x223, .one 0x23A [0x2C65], .one 0x23B [0x23C], .one 0x23D [0x19A],
    .one 0x23E [0x2C66], .one 0x241 [0x242], .each 0x243 [0x180, 0x289, 0x28C],
    .second 0x246 0x24E 0x247, .second 0x2B0 0x2B2 0x68, .one 0x2B1 [0x266],
    .each 0x2B3 [0x72, 0x279, 0x27B, 0x281, 0x77, 0x79], .one 0x2D8 [0x20, 0x306],
    .one 0x2D9 [0x20, 0x307], .one 0x2DA [0x20, 0x30A], .one 0x2DB [0x20, 0x328],
    .one 0x2DC [0x20, 0x303], .one 0x2DD [0x20, 0x30B],
    .each 0x2E0 [0x263, 0x6C, 0x73, 0x78, 0x295], .along 0x340 0x341 0x300, .one 0x343 [0x313],
    .one 0x344 [0x308, 0x301], .one 0x345 [0x3B9], .second 0x370 0x372 0x371, .one 0x374 [0x2B9],
    .one 0x376 [0x377], .one 0x37A [0x20, 0x3B9], .one 0x37E [0x3B], .one 0x37F [0x3F3],
    .one 0x384 [0x20, 0x301], .one 0x385 [0x20, 0x308, 0x301], .one 0x386 [0x3AC],
    .one 0x387 [0xB7], .along 0x388 0x38A 0x3AD, .one 0x38C [0x3CC], .along 0x38E 0x38F 0x3CD,
    .along 0x391 0x3A1 0x3B1, .along 0x3A3 0x3AB 0x3C3,
    .each 0x3CF [0x3D7, 0x3B2, 0x3B8, 0x3C5, 0x3CD, 0x3CB, 0x3C6, 0x3C0], .second 0x3D8 0x3EE 0x3D9,
    .each 0x3F0 [0x3BA, 0x3C1, 0x3C3], .one 0x3F4 [0x3B8], .one 0x3F5 [0x3B5], .one 0x3F7 [0x3F8],
    .one 0x3F9 [0x3C3], .one 0x3FA [0x3FB], .along 0x3FD 0x3FF 0x37B, .along 0x400 0x40F 0x450,
    .along 0x410 0x42F 0x430, .second 0x460 0x480 0x461, .second 0x48A 0x4BE 0x48B,
    .one 0x4C0 [0x4CF], .second 0x4C1 0x4CD 0x4C2, .second 0x4D0 0x52E 0x4D1,
    .along 0x531 0x556 0x561, .one 0x587 [0x565, 0x582], .one 0x675 [0x627, 0x674],
    .one 0x676 [0x648, 0x674], .one 0x677 [0x6C7, 0x674], .one 0x678 [0x64A, 0x674],
    .one 0x958 [0x915, 0x93C], .one 0x959 [0x916, 0x93C], .one 0x95A [0x917, 0x93C],
    .one 0x95B [0x91C, 0x93C], .one 0x95C [0x921, 0x93C], .one 0x95D [0x922, 0x93C],
    .one 0x95E [0x92B, 0x93C], .one 0x95F [0x92F, 0x93C], .one 0x9DC [0x9A1, 0x9BC],
    .one 0x9DD [0x9A2, 0x9BC], .one 0x9DF [0x9AF, 0x9BC], .one 0xA33 [0xA32, 0xA3C],
    .one 0xA36 [0xA38, 0xA3C], .one 0xA59 [0xA16, 0xA3C], .one 0xA5A [0xA17, 0xA3C],
    .one 0xA5B [0xA1C, 0xA3C], .one 0xA5E [0xA2B, 0xA3C], .one 0xB5C [0xB21, 0xB3C],
    .one 0xB5D [0xB22, 0xB3C], .one 0xE33 [0xE4D, 0xE32], .one 0xEB3 [0xECD, 0xEB2],
    .one 0xEDC [0xEAB, 0xE99], .one 0xEDD [0xEAB, 0xEA1], .one 0xF0C [0xF0B],
    .one 0xF43 [0xF42, 0xFB7], .one 0xF4D [0xF4C, 0xFB7], .one 0xF52 [0xF51, 0xFB7],
    .one 0xF57 [0xF56, 0xFB7], .one 0xF5C [0xF5B, 0xFB7], .one 0xF69 [0xF40, 0xFB5],
    .one 0xF73 [0xF71, 0xF72], .one 0xF75 [0xF71, 0xF74], .one 0xF76 [0xFB2, 0xF80],
    .one 0xF77 [0xFB2, 0xF71, 0xF80], .one 0xF78 [0xFB3, 0xF80], .one 0xF79 [0xFB3, 0xF71, 0xF80],
    .one 0xF81 [0xF71, 0xF80], .one 0xF93 [0xF92, 0xFB7], .one 0xF9D [0xF9C, 0xFB7],
    .one 0xFA2 [0xFA1, 0xFB7], .one 0xFA7 [0xFA6, 0xFB7], .one 0xFAC [0xFAB, 0xFB7],
    .one 0xFB9 [0xF90, 0xFB5], .along 0x10A0 0x10C5 0x2D00, .one 0x10C7 [0x2D27],
    .one 0x10CD [0x2D2D], .one 0x10FC [0x10DC], .along 0x13F8 0x13FD 0x13F0,
    .each 0x1C80 [0x432, 0x434, 0x43E], .along 0x1C83 0x1C84 0x441,
    .each 0x1C85 [0x442, 0x44A, 0x463, 0xA64B, 0x1C8A], .along 0x1C90 0x1CBA 0x10D0,
    .along 0x1CBD 0x1CBF 0x10FD, .one 0x1D2C [0x61], .one 0x1D2D [0xE6], .second 0x1D2E 0x1D30 0x62,
    .second 0x1D31 0x1D39 0x65, .one 0x1D32 [0x1DD], .second 0x1D34 0x1D3A 0x68,
    .each 0x1D3C [0x6F, 0x223, 0x70, 0x72], .along 0x1D40 0x1D41 0x74, .one 0x1D42 [0x77],
    .one 0x1D43 [0x61], .along 0x1D44 0x1D45 0x250, .one 0x1D46 [0x1D02], .one 0x1D47 [0x62],
    .along 0x1D48 0x1D49 0x64, .one 0x1D4A [0x259], .along 0x1D4B 0x1D4C 0x25B, .one 0x1D4D [0x67],
    .one 0x1D4F [0x6B], .second 0x1D50 0x1D52 0x6D, .one 0x1D51 [0x14B], .one 0x1D53 [0x254],
    .along 0x1D54 0x1D55 0x1D16, .one 0x1D56 [0x70], .along 0x1D57 0x1D58 0x74,
    .each 0x1D59 [0x1D1D, 0x26F, 0x76, 0x1D25], .along 0x1D5D 0x1D5F 0x3B2,
    .along 0x1D60 0x1D61 0x3C6, .one 0x1D62 [0x69], .one 0x1D63 [0x72], .along 0x1D64 0x1D65 0x75,
    .along 0x1D66 0x1D67 0x3B2, .one 0x1D68 [0x3C1], .along 0x1D69 0x1D6A 0x3C6,
    .one 0x1D78 [0x43D], .each 0x1D9B [0x252, 0x63, 0x255, 0xF0, 0x25C, 0x66, 0x25F, 0x261, 0x265],
    .along 0x1DA4 0x1DA6 0x268, .each 0x1DA7 [0x1D7B, 0x29D, 0x26D, 0x1D85, 0x29F, 0x271, 0x270],
    .along 0x1DAE 0x1DB1 0x272, .one 0x1DB2 [0x278], .along 0x1DB3 0x1DB4 0x282,
    .one 0x1DB5 [0x1AB], .along 0x1DB6 0x1DB7 0x289, .one 0x1DB8 [0x1D1C],
    .along 0x1DB9 0x1DBA 0x28B, .one 0x1DBB [0x7A], .along 0x1DBC 0x1DBE 0x290, .one 0x1DBF [0x3B8],
    .second 0x1E00 0x1E94 0x1E01, .one 0x1E9A [0x61, 0x2BE], .one 0x1E9B [0x1E61],
    .one 0x1E9E [0xDF], .second 0x1EA0 0x1EFE 0x1EA1, .along 0x1F08 0x1F0F 0x1F00,
    .along 0x1F18 0x1F1D 0x1F10, .along 0x1F28 0x1F2F 0x1F20, .along 0x1F38 0x1F3F 0x1F30,
    .along 0x1F48 0x1F4D 0x1F40, .second 0x1F59 0x1F5F 0x1F51, .along 0x1F68 0x1F6F 0x1F60,
    .one 0x1F71 [0x3AC], .one 0x1F73 [0x3AD], .one 0x1F75 [0x3AE], .one 0x1F77 [0x3AF],
    .one 0x1F79 [0x3CC], .one 0x1F7B [0x3CD], .one 0x1F7D [0x3CE], .one 0x1F80 [0x1F00, 0x3B9],
    .one 0x1F81 [0x1F01, 0x3B9], .one 0x1F82 [0x1F02, 0x3B9], .one 0x1F83 [0x1F03, 0x3B9],
    .one 0x1F84 [0x1F04, 0x3B9], .one 0x1F85 [0x1F05, 0x3B9], .one 0x1F86 [0x1F06, 0x3B9],
    .one 0x1F87 [0x1F07, 0x3B9], .one 0x1F88 [0x1F00, 0x3B9], .one 0x1F89 [0x1F01, 0x3B9],
    .one 0x1F8A [0x1F02, 0x3B9], .one 0x1F8B [0x1F03, 0x3B9], .one 0x1F8C [0x1F04, 0x3B9],
    .one 0x1F8D [0x1F05, 0x3B9], .one 0x1F8E [0x1F06, 0x3B9], .one 0x1F8F [0x1F07, 0x3B9],
    .one 0x1F90 [0x1F20, 0x3B9], .one 0x1F91 [0x1F21, 0x3B9], .one 0x1F92 [0x1F22, 0x3B9],
    .one 0x1F93 [0x1F23, 0x3B9], .one 0x1F94 [0x1F24, 0x3B9], .one 0x1F95 [0x1F25, 0x3B9],
    .one 0x1F96 [0x1F26, 0x3B9], .one 0x1F97 [0x1F27, 0x3B9], .one 0x1F98 [0x1F20, 0x3B9],
    .one 0x1F99 [0x1F21, 0x3B9], .one 0x1F9A [0x1F22, 0x3B9], .one 0x1F9B [0x1F23, 0x3B9],
    .one 0x1F9C [0x1F24, 0x3B9], .one 0x1F9D [0x1F25, 0x3B9], .one 0x1F9E [0x1F26, 0x3B9],
    .one 0x1F9F [0x1F27, 0x3B9], .one 0x1FA0 [0x1F60, 0x3B9], .one 0x1FA1 [0x1F61, 0x3B9],
    .one 0x1FA2 [0x1F62, 0x3B9], .one 0x1FA3 [0x1F63, 0x3B9], .one 0x1FA4 [0x1F64, 0x3B9],
    .one 0x1FA5 [0x1F65, 0x3B9], .one 0x1FA6 [0x1F66, 0x3B9], .one 0x1FA7 [0x1F67, 0x3B9],
    .one 0x1FA8 [0x1F60, 0x3B9], .one 0x1FA9 [0x1F61, 0x3B9], .one 0x1FAA [0x1F62, 0x3B9],
    .one 0x1FAB [0x1F63, 0x3B9], .one 0x1FAC [0x1F64, 0x3B9], .one 0x1FAD [0x1F65, 0x3B9],
    .one 0x1FAE [0x1F66, 0x3B9], .one 0x1FAF [0x1F67, 0x3B9], .one 0x1FB2 [0x1F70, 0x3B9],
    .one 0x1FB3 [0x3B1, 0x3B9], .one 0x1FB4 [0x3AC, 0x3B9], .one 0x1FB7 [0x1FB6, 0x3B9],
    .along 0x1FB8 0x1FB9 0x1FB0, .one 0x1FBA [0x1F70], .one 0x1FBB [0x3AC],
    .one 0x1FBC [0x3B1, 0x3B9], .one 0x1FBD [0x20, 0x313], .one 0x1FBE [0x3B9],
    .one 0x1FBF [0x20, 0x313], .one 0x1FC0 [0x20, 0x342], .one 0x1FC1 [0x20, 0x308, 0x342],
    .one 0x1FC2 [0x1F74, 0x3B9], .one 0x1FC3 [0x3B7, 0x3B9], .one 0x1FC4 [0x3AE, 0x3B9],
    .one 0x1FC7 [0x1FC6, 0x3B9], .second 0x1FC8 0x1FCA 0x1F72, .one 0x1FC9 [0x3AD],
    .one 0x1FCB [0x3AE], .one 0x1FCC [0x3B7, 0x3B9], .one 0x1FCD [0x20, 0x313, 0x300],
    .one 0x1FCE [0x20, 0x313, 0x301], .one 0x1FCF [0x20, 0x313, 0x342], .one 0x1FD3 [0x390],
    .along 0x1FD8 0x1FD9 0x1FD0, .one 0x1FDA [0x1F76], .one 0x1FDB [0x3AF],
    .one 0x1FDD [0x20, 0x314, 0x300], .one 0x1FDE [0x20, 0x314, 0x301],
    .one 0x1FDF [0x20, 0x314, 0x342], .one 0x1FE3 [0x3B0], .along 0x1FE8 0x1FE9 0x1FE0,
    .each 0x1FEA [0x1F7A, 0x3CD, 0x1FE5], .one 0x1FED [0x20, 0x308, 0x300],
    .one 0x1FEE [0x20, 0x308, 0x301], .one 0x1FEF [0x60], .one 0x1FF2 [0x1F7C, 0x3B9],
    .one 0x1FF3 [0x3C9, 0x3B9], .one 0x1FF4 [0x3CE, 0x3B9], .one 0x1FF7 [0x1FF6, 0x3B9],
    .one 0x1FF8 [0x1F78], .second 0x1FF9 0x1FFB 0x3CC, .one 0x1FFA [0x1F7C],
    .one 0x1FFC [0x3C9, 0x3B9], .one 0x1FFD [0x20, 0x301], .one 0x1FFE [0x20, 0x314],
    .along 0x2C00 0x2C2F 0x2C30, .one 0x2C60 [0x2C61], .each 0x2C62 [0x26B, 0x1D7D, 0x27D],
    .second 0x2C67 0x2C6B 0x2C68, .each 0x2C6D [0x251, 0x271, 0x250, 0x252], .one 0x2C72 [0x2C73],
    .one 0x2C75 [0x2C76], .one 0x2C7C [0x6A], .one 0x2C7D [0x76], .along 0x2C7E 0x2C7F 0x23F,
    .second 0x2C80 0x2CE2 0x2C81, .second 0x2CEB 0x2CED 0x2CEC, .one 0x2CF2 [0x2CF3],
    .one 0x2D6F [0x2D61], .second 0xA640 0xA66C 0xA641, .second 0xA680 0xA69A 0xA681,
    .one 0xA69C [0x44A], .one 0xA69D [0x44C], .second 0xA722 0xA72E 0xA723,
    .second 0xA732 0xA76E 0xA733, .one 0xA770 [0xA76F], .second 0xA779 0xA77B 0xA77A,
    .one 0xA77D [0x1D79], .second 0xA77E 0xA786 0xA77F, .one 0xA78B [0xA78C], .one 0xA78D [0x265],
    .second 0xA790 0xA792 0xA791, .second 0xA796 0xA7A8 0xA797,
    .each 0xA7AA [0x266, 0x25C, 0x261, 0x26C, 0x26A], .each 0xA7B0 [0x29E, 0x287, 0x29D, 0xAB53],
    .second 0xA7B4 0xA7C2 0xA7B5, .each 0xA7C4 [0xA794, 0x282, 0x1D8E],
    .second 0xA7C7 0xA7C9 0xA7C8, .one 0xA7CB [0x264], .second 0xA7CC 0xA7DA 0xA7CD,
    .one 0xA7DC [0x19B], .each 0xA7F1 [0x73, 0x63, 0x66, 0x71, 0xA7F6], .one 0xA7F8 [0x127],
    .one 0xA7F9 [0x153], .each 0xAB5C [0xA727, 0xAB37, 0x26B, 0xAB52], .one 0xAB69 [0x28D],
    .along 0xAB70 0xABBF 0x13A0, .one 0xFB00 [0x66, 0x66], .one 0xFB01 [0x66, 0x69],
    .one 0xFB02 [0x66, 0x6C], .one 0xFB03 [0x66, 0x66, 0x69], .one 0xFB04 [0x66, 0x66, 0x6C],
    .all 0xFB05 0xFB06 [0x73, 0x74], .one 0xFB13 [0x574, 0x576], .one 0xFB14 [0x574, 0x565],
    .one 0xFB15 [0x574, 0x56B], .one 0xFB16 [0x57E, 0x576], .one 0xFB17 [0x574, 0x56D],
    .one 0xFB1D [0x5D9, 0x5B4], .one 0xFB1F [0x5F2, 0x5B7], .one 0xFB20 [0x5E2],
    .one 0xFB21 [0x5D0], .along 0xFB22 0xFB23 0x5D3, .along 0xFB24 0xFB26 0x5DB,
    .each 0xFB27 [0x5E8, 0x5EA, 0x2B], .one 0xFB2A [0x5E9, 0x5C1], .one 0xFB2B [0x5E9, 0x5C2],
    .one 0xFB2C [0x5E9, 0x5BC, 0x5C1], .one 0xFB2D [0x5E9, 0x5BC, 0x5C2],
    .one 0xFB2E [0x5D0, 0x5B7], .one 0xFB2F [0x5D0, 0x5B8], .one 0xFB30 [0x5D0, 0x5BC],
    .one 0xFB31 [0x5D1, 0x5BC], .one 0xFB32 [0x5D2, 0x5BC], .one 0xFB33 [0x5D3, 0x5BC],
    .one 0xFB34 [0x5D4, 0x5BC], .one 0xFB35 [0x5D5, 0x5BC], .one 0xFB36 [0x5D6, 0x5BC],
    .one 0xFB38 [0x5D8, 0x5BC], .one 0xFB39 [0x5D9, 0x5BC], .one 0xFB3A [0x5DA, 0x5BC],
    .one 0xFB3B [0x5DB, 0x5BC], .one 0xFB3C [0x5DC, 0x5BC], .one 0xFB3E [0x5DE, 0x5BC],
    .one 0xFB40 [0x5E0, 0x5BC], .one 0xFB41 [0x5E1, 0x5BC], .one 0xFB43 [0x5E3, 0x5BC],
    .one 0xFB44 [0x5E4, 0x5BC], .one 0xFB46 [0x5E6, 0x5BC], .one 0xFB47 [0x5E7, 0x5BC],
    .one 0xFB48 [0x5E8, 0x5BC], .one 0xFB49 [0x5E9, 0x5BC], .one 0xFB4A [0x5EA, 0x5BC],
    .one 0xFB4B [0x5D5, 0x5B9], .one 0xFB4C [0x5D1, 0x5BF], .one 0xFB4D [0x5DB, 0x5BF],
    .one 0xFB4E [0x5E4, 0x5BF], .one 0xFB4F [0x5D0, 0x5DC], .along 0x10400 0x10427 0x10428,
    .along 0x104B0 0x104D3 0x104D8, .second 0x10570 0x10594 0x10597,
    .second 0x10571 0x10579 0x10598, .second 0x1057D 0x10589 0x105A4,
    .second 0x1058D 0x10591 0x105B4, .one 0x10595 [0x105BC], .along 0x10781 0x10782 0x2D0,
    .each 0x10783 [0xE6, 0x299, 0x253], .second 0x10787 0x10789 0x2A3, .one 0x10788 [0xAB66],
    .one 0x1078A [0x2A4], .along 0x1078B 0x1078C 0x256,
    .each 0x1078D [
      0x1D91, 0x258, 0x25E, 0x2A9, 0x264, 0x262, 0x260, 0x29B, 0x127, 0x29C, 0x267, 0x284],
    .along 0x10799 0x1079A 0x2AA,
    .each 0x1079B [0x26C, 0x1DF04, 0xA78E, 0x26E, 0x1DF05, 0x28E, 0x1DF06, 0xF8],
    .along 0x107A3 0x107A4 0x276, .each 0x107A5 [0x71, 0x27A, 0x1DF08],
    .along 0x107A8 0x107A9 0x27D, .each 0x107AA [0x280, 0x2A8, 0x2A6, 0xAB67, 0x2A7, 0x288, 0x2C71],
    .one 0x107B2 [0x28F], .along 0x107B3 0x107B4 0x2A1, .one 0x107B5 [0x298],
    .along 0x107B6 0x107B8 0x1C0, .one 0x107B9 [0x1DF0A], .one 0x107BA [0x1DF1E],
    .along 0x10C80 0x10CB2 0x10CC0, .along 0x10D50 0x10D65 0x10D70, .along 0x118A0 0x118BF 0x118C0,
    .along 0x16E40 0x16E5F 0x16E60, .along 0x16EA0 0x16EB8 0x16EBB, .along 0x1E030 0x1E038 0x430,
    .along 0x1E039 0x1E03B 0x43A, .along 0x1E03C 0x1E046 0x43E, .one 0x1E047 [0x44B],
    .along 0x1E048 0x1E049 0x44D, .each 0x1E04A [0xA689, 0x4D9, 0x456, 0x458, 0x4E9, 0x4AF, 0x4CF],
    .along 0x1E051 0x1E059 0x430, .along 0x1E05A 0x1E05B 0x43A, .along 0x1E05C 0x1E05D 0x43E,
    .one 0x1E05E [0x441], .along 0x1E05F 0x1E064 0x443, .along 0x1E065 0x1E066 0x44A,
    .each 0x1E067 [0x491, 0x456, 0x455, 0x45F, 0x4AB, 0xA651, 0x4B1], .along 0x1E900 0x1E921 0x1E922]

end Dispatch.Domain.Mapping
