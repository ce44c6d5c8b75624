import Dispatch.Domain.Mapping.Rule

namespace Dispatch.Domain.Mapping

def arabicRules : List Rule := [
    .all 0xFB50 0xFB51 [0x671], .all 0xFB52 0xFB55 [0x67B], .all 0xFB56 0xFB59 [0x67E],
    .all 0xFB5A 0xFB5D [0x680], .all 0xFB5E 0xFB61 [0x67A], .all 0xFB62 0xFB65 [0x67F],
    .all 0xFB66 0xFB69 [0x679], .all 0xFB6A 0xFB6D [0x6A4], .all 0xFB6E 0xFB71 [0x6A6],
    .all 0xFB72 0xFB75 [0x684], .all 0xFB76 0xFB79 [0x683], .all 0xFB7A 0xFB7D [0x686],
    .all 0xFB7E 0xFB81 [0x687], .all 0xFB82 0xFB83 [0x68D], .all 0xFB84 0xFB85 [0x68C],
    .all 0xFB86 0xFB87 [0x68E], .all 0xFB88 0xFB89 [0x688], .all 0xFB8A 0xFB8B [0x698],
    .all 0xFB8C 0xFB8D [0x691], .all 0xFB8E 0xFB91 [0x6A9], .all 0xFB92 0xFB95 [0x6AF],
    .all 0xFB96 0xFB99 [0x6B3], .all 0xFB9A 0xFB9D [0x6B1], .all 0xFB9E 0xFB9F [0x6BA],
    .all 0xFBA0 0xFBA3 [0x6BB], .all 0xFBA4 0xFBA5 [0x6C0], .all 0xFBA6 0xFBA9 [0x6C1],
    .all 0xFBAA 0xFBAD [0x6BE], .all 0xFBAE 0xFBAF [0x6D2], .all 0xFBB0 0xFBB1 [0x6D3],
    .all 0xFBD3 0xFBD6 [0x6AD], .all 0xFBD7 0xFBD8 [0x6C7], .all 0xFBD9 0xFBDA [0x6C6],
    .all 0xFBDB 0xFBDC [0x6C8], .one 0xFBDD [0x6C7, 0x674], .all 0xFBDE 0xFBDF [0x6CB],
    .all 0xFBE0 0xFBE1 [0x6C5], .all 0xFBE2 0xFBE3 [0x6C9], .all 0xFBE4 0xFBE7 [0x6D0],
    .all 0xFBE8 0xFBE9 [0x649], .all 0xFBEA 0xFBEB [0x626, 0x627],
    .all 0xFBEC 0xFBED [0x626, 0x6D5], .all 0xFBEE 0xFBEF [0x626, 0x648],
    .all 0xFBF0 0xFBF1 [0x626, 0x6C7], .all 0xFBF2 0xFBF3 [0x626, 0x6C6],
    .all 0xFBF4 0xFBF5 [0x626, 0x6C8], .all 0xFBF6 0xFBF8 [0x626, 0x6D0],
    .all 0xFBF9 0xFBFB [0x626, 0x649], .all 0xFBFC 0xFBFF [0x6CC], .one 0xFC00 [0x626, 0x62C],
    .one 0xFC01 [0x626, 0x62D], .one 0xFC02 [0x626, 0x645], .one 0xFC03 [0x626, 0x649],
    .one 0xFC04 [0x626, 0x64A], .one 0xFC05 [0x628, 0x62C], .one 0xFC06 [0x628, 0x62D],
    .one 0xFC07 [0x628, 0x62E], .one 0xFC08 [0x628, 0x645], .one 0xFC09 [0x628, 0x649],
    .one 0xFC0A [0x628, 0x64A], .one 0xFC0B [0x62A, 0x62C], .one 0xFC0C [0x62A, 0x62D],
    .one 0xFC0D [0x62A, 0x62E], .one 0xFC0E [0x62A, 0x645], .one 0xFC0F [0x62A, 0x649],
    .one 0xFC10 [0x62A, 0x64A], .one 0xFC11 [0x62B, 0x62C], .one 0xFC12 [0x62B, 0x645],
    .one 0xFC13 [0x62B, 0x649], .one 0xFC14 [0x62B, 0x64A], .one 0xFC15 [0x62C, 0x62D],
    .one 0xFC16 [0x62C, 0x645], .one 0xFC17 [0x62D, 0x62C], .one 0xFC18 [0x62D, 0x645],
    .one 0xFC19 [0x62E, 0x62C], .one 0xFC1A [0x62E, 0x62D], .one 0xFC1B [0x62E, 0x645],
    .one 0xFC1C [0x633, 0x62C], .one 0xFC1D [0x633, 0x62D], .one 0xFC1E [0x633, 0x62E],
    .one 0xFC1F [0x633, 0x645], .one 0xFC20 [0x635, 0x62D], .one 0xFC21 [0x635, 0x645],
    .one 0xFC22 [0x636, 0x62C], .one 0xFC23 [0x636, 0x62D], .one 0xFC24 [0x636, 0x62E],
    .one 0xFC25 [0x636, 0x645], .one 0xFC26 [0x637, 0x62D], .one 0xFC27 [0x637, 0x645],
    .one 0xFC28 [0x638, 0x645], .one 0xFC29 [0x639, 0x62C], .one 0xFC2A [0x639, 0x645],
    .one 0xFC2B [0x63A, 0x62C], .one 0xFC2C [0x63A, 0x645], .one 0xFC2D [0x641, 0x62C],
    .one 0xFC2E [0x641, 0x62D], .one 0xFC2F [0x641, 0x62E], .one 0xFC30 [0x641, 0x645],
    .one 0xFC31 [0x641, 0x649], .one 0xFC32 [0x641, 0x64A], .one 0xFC33 [0x642, 0x62D],
    .one 0xFC34 [0x642, 0x645], .one 0xFC35 [0x642, 0x649], .one 0xFC36 [0x642, 0x64A],
    .one 0xFC37 [0x643, 0x627], .one 0xFC38 [0x643, 0x62C], .one 0xFC39 [0x643, 0x62D],
    .one 0xFC3A [0x643, 0x62E], .one 0xFC3B [0x643, 0x644], .one 0xFC3C [0x643, 0x645],
    .one 0xFC3D [0x643, 0x649], .one 0xFC3E [0x643, 0x64A], .one 0xFC3F [0x644, 0x62C],
    .one 0xFC40 [0x644, 0x62D], .one 0xFC41 [0x644, 0x62E], .one 0xFC42 [0x644, 0x645],
    .one 0xFC43 [0x644, 0x649], .one 0xFC44 [0x644, 0x64A], .one 0xFC45 [0x645, 0x62C],
    .one 0xFC46 [0x645, 0x62D], .one 0xFC47 [0x645, 0x62E], .one 0xFC48 [0x645, 0x645],
    .one 0xFC49 [0x645, 0x649], .one 0xFC4A [0x645, 0x64A], .one 0xFC4B [0x646, 0x62C],
    .one 0xFC4C [0x646, 0x62D], .one 0xFC4D [0x646, 0x62E], .one 0xFC4E [0x646, 0x645],
    .one 0xFC4F [0x646, 0x649], .one 0xFC50 [0x646, 0x64A], .one 0xFC51 [0x647, 0x62C],
    .one 0xFC52 [0x647, 0x645], .one 0xFC53 [0x647, 0x649], .one 0xFC54 [0x647, 0x64A],
    .one 0xFC55 [0x64A, 0x62C], .one 0xFC56 [0x64A, 0x62D], .one 0xFC57 [0x64A, 0x62E],
    .one 0xFC58 [0x64A, 0x645], .one 0xFC59 [0x64A, 0x649], .one 0xFC5A [0x64A, 0x64A],
    .one 0xFC5B [0x630, 0x670], .one 0xFC5C [0x631, 0x670], .one 0xFC5D [0x649, 0x670],
    .one 0xFC5E [0x20, 0x64C, 0x651], .one 0xFC5F [0x20, 0x64D, 0x651],
    .one 0xFC60 [0x20, 0x64E, 0x651], .one 0xFC61 [0x20, 0x64F, 0x651],
    .one 0xFC62 [0x20, 0x650, 0x651], .one 0xFC63 [0x20, 0x651, 0x670], .one 0xFC64 [0x626, 0x631],
    .one 0xFC65 [0x626, 0x632], .one 0xFC66 [0x626, 0x645], .one 0xFC67 [0x626, 0x646],
    .one 0xFC68 [0x626, 0x649], .one 0xFC69 [0x626, 0x64A], .one 0xFC6A [0x628, 0x631],
    .one 0xFC6B [0x628, 0x632], .one 0xFC6C [0x628, 0x645], .one 0xFC6D [0x628, 0x646],
    .one 0xFC6E [0x628, 0x649], .one 0xFC6F [0x628, 0x64A], .one 0xFC70 [0x62A, 0x631],
    .one 0xFC71 [0x62A, 0x632], .one 0xFC72 [0x62A, 0x645], .one 0xFC73 [0x62A, 0x646],
    .one 0xFC74 [0x62A, 0x649], .one 0xFC75 [0x62A, 0x64A], .one 0xFC76 [0x62B, 0x631],
    .one 0xFC77 [0x62B, 0x632], .one 0xFC78 [0x62B, 0x645], .one 0xFC79 [0x62B, 0x646],
    .one 0xFC7A [0x62B, 0x649], .one 0xFC7B [0x62B, 0x64A], .one 0xFC7C [0x641, 0x649],
    .one 0xFC7D [0x641, 0x64A], .one 0xFC7E [0x642, 0x649], .one 0xFC7F [0x642, 0x64A],
    .one 0xFC80 [0x643, 0x627], .one 0xFC81 [0x643, 0x644], .one 0xFC82 [0x643, 0x645],
    .one 0xFC83 [0x643, 0x649], .one 0xFC84 [0x643, 0x64A], .one 0xFC85 [0x644, 0x645],
    .one 0xFC86 [0x644, 0x649], .one 0xFC87 [0x644, 0x64A], .one 0xFC88 [0x645, 0x627],
    .one 0xFC89 [0x645, 0x645], .one 0xFC8A [0x646, 0x631], .one 0xFC8B [0x646, 0x632],
    .one 0xFC8C [0x646, 0x645], .one 0xFC8D [0x646, 0x646], .one 0xFC8E [0x646, 0x649],
    .one 0xFC8F [0x646, 0x64A], .one 0xFC90 [0x649, 0x670], .one 0xFC91 [0x64A, 0x631],
    .one 0xFC92 [0x64A, 0x632], .one 0xFC93 [0x64A, 0x645], .one 0xFC94 [0x64A, 0x646],
    .one 0xFC95 [0x64A, 0x649], .one 0xFC96 [0x64A, 0x64A], .one 0xFC97 [0x626, 0x62C],
    .one 0xFC98 [0x626, 0x62D], .one 0xFC99 [0x626, 0x62E], .one 0xFC9A [0x626, 0x645],
    .one 0xFC9B [0x626, 0x647], .one 0xFC9C [0x628, 0x62C], .one 0xFC9D [0x628, 0x62D],
    .one 0xFC9E [0x628, 0x62E], .one 0xFC9F [0x628, 0x645], .one 0xFCA0 [0x628, 0x647],
    .one 0xFCA1 [0x62A, 0x62C], .one 0xFCA2 [0x62A, 0x62D], .one 0xFCA3 [0x62A, 0x62E],
    .one 0xFCA4 [0x62A, 0x645], .one 0xFCA5 [0x62A, 0x647], .one 0xFCA6 [0x62B, 0x645],
    .one 0xFCA7 [0x62C, 0x62D], .one 0xFCA8 [0x62C, 0x645], .one 0xFCA9 [0x62D, 0x62C],
    .one 0xFCAA [0x62D, 0x645], .one 0xFCAB [0x62E, 0x62C], .one 0xFCAC [0x62E, 0x645],
    .one 0xFCAD [0x633, 0x62C], .one 0xFCAE [0x633, 0x62D], .one 0xFCAF [0x633, 0x62E],
    .one 0xFCB0 [0x633, 0x645], .one 0xFCB1 [0x635, 0x62D], .one 0xFCB2 [0x635, 0x62E],
    .one 0xFCB3 [0x635, 0x645], .one 0xFCB4 [0x636, 0x62C], .one 0xFCB5 [0x636, 0x62D],
    .one 0xFCB6 [0x636, 0x62E], .one 0xFCB7 [0x636, 0x645], .one 0xFCB8 [0x637, 0x62D],
    .one 0xFCB9 [0x638, 0x645], .one 0xFCBA [0x639, 0x62C], .one 0xFCBB [0x639, 0x645],
    .one 0xFCBC [0x63A, 0x62C], .one 0xFCBD [0x63A, 0x645], .one 0xFCBE [0x641, 0x62C],
    .one 0xFCBF [0x641, 0x62D], .one 0xFCC0 [0x641, 0x62E], .one 0xFCC1 [0x641, 0x645],
    .one 0xFCC2 [0x642, 0x62D], .one 0xFCC3 [0x642, 0x645], .one 0xFCC4 [0x643, 0x62C],
    .one 0xFCC5 [0x643, 0x62D], .one 0xFCC6 [0x643, 0x62E], .one 0xFCC7 [0x643, 0x644],
    .one 0xFCC8 [0x643, 0x645], .one 0xFCC9 [0x644, 0x62C], .one 0xFCCA [0x644, 0x62D],
    .one 0xFCCB [0x644, 0x62E], .one 0xFCCC [0x644, 0x645], .one 0xFCCD [0x644, 0x647],
    .one 0xFCCE [0x645, 0x62C], .one 0xFCCF [0x645, 0x62D], .one 0xFCD0 [0x645, 0x62E],
    .one 0xFCD1 [0x645, 0x645], .one 0xFCD2 [0x646, 0x62C], .one 0xFCD3 [0x646, 0x62D],
    .one 0xFCD4 [0x646, 0x62E], .one 0xFCD5 [0x646, 0x645], .one 0xFCD6 [0x646, 0x647],
    .one 0xFCD7 [0x647, 0x62C], .one 0xFCD8 [0x647, 0x645], .one 0xFCD9 [0x647, 0x670],
    .one 0xFCDA [0x64A, 0x62C], .one 0xFCDB [0x64A, 0x62D], .one 0xFCDC [0x64A, 0x62E],
    .one 0xFCDD [0x64A, 0x645], .one 0xFCDE [0x64A, 0x647], .one 0xFCDF [0x626, 0x645],
    .one 0xFCE0 [0x626, 0x647], .one 0xFCE1 [0x628, 0x645], .one 0xFCE2 [0x628, 0x647],
    .one 0xFCE3 [0x62A, 0x645], .one 0xFCE4 [0x62A, 0x647], .one 0xFCE5 [0x62B, 0x645],
    .one 0xFCE6 [0x62B, 0x647], .one 0xFCE7 [0x633, 0x645], .one 0xFCE8 [0x633, 0x647],
    .one 0xFCE9 [0x634, 0x645], .one 0xFCEA [0x634, 0x647], .one 0xFCEB [0x643, 0x644],
    .one 0xFCEC [0x643, 0x645], .one 0xFCED [0x644, 0x645], .one 0xFCEE [0x646, 0x645],
    .one 0xFCEF [0x646, 0x647], .one 0xFCF0 [0x64A, 0x645], .one 0xFCF1 [0x64A, 0x647],
    .one 0xFCF2 [0x640, 0x64E, 0x651], .one 0xFCF3 [0x640, 0x64F, 0x651],
    .one 0xFCF4 [0x640, 0x650, 0x651], .one 0xFCF5 [0x637, 0x649], .one 0xFCF6 [0x637, 0x64A],
    .one 0xFCF7 [0x639, 0x649], .one 0xFCF8 [0x639, 0x64A], .one 0xFCF9 [0x63A, 0x649],
    .one 0xFCFA [0x63A, 0x64A], .one 0xFCFB [0x633, 0x649], .one 0xFCFC [0x633, 0x64A],
    .one 0xFCFD [0x634, 0x649], .one 0xFCFE [0x634, 0x64A], .one 0xFCFF [0x62D, 0x649],
    .one 0xFD00 [0x62D, 0x64A], .one 0xFD01 [0x62C, 0x649], .one 0xFD02 [0x62C, 0x64A],
    .one 0xFD03 [0x62E, 0x649], .one 0xFD04 [0x62E, 0x64A], .one 0xFD05 [0x635, 0x649],
    .one 0xFD06 [0x635, 0x64A], .one 0xFD07 [0x636, 0x649], .one 0xFD08 [0x636, 0x64A],
    .one 0xFD09 [0x634, 0x62C], .one 0xFD0A [0x634, 0x62D], .one 0xFD0B [0x634, 0x62E],
    .one 0xFD0C [0x634, 0x645], .one 0xFD0D [0x634, 0x631], .one 0xFD0E [0x633, 0x631],
    .one 0xFD0F [0x635, 0x631], .one 0xFD10 [0x636, 0x631], .one 0xFD11 [0x637, 0x649],
    .one 0xFD12 [0x637, 0x64A], .one 0xFD13 [0x639, 0x649], .one 0xFD14 [0x639, 0x64A],
    .one 0xFD15 [0x63A, 0x649], .one 0xFD16 [0x63A, 0x64A], .one 0xFD17 [0x633, 0x649],
    .one 0xFD18 [0x633, 0x64A], .one 0xFD19 [0x634, 0x649], .one 0xFD1A [0x634, 0x64A],
    .one 0xFD1B [0x62D, 0x649], .one 0xFD1C [0x62D, 0x64A], .one 0xFD1D [0x62C, 0x649],
    .one 0xFD1E [0x62C, 0x64A], .one 0xFD1F [0x62E, 0x649], .one 0xFD20 [0x62E, 0x64A],
    .one 0xFD21 [0x635, 0x649], .one 0xFD22 [0x635, 0x64A], .one 0xFD23 [0x636, 0x649],
    .one 0xFD24 [0x636, 0x64A], .one 0xFD25 [0x634, 0x62C], .one 0xFD26 [0x634, 0x62D],
    .one 0xFD27 [0x634, 0x62E], .one 0xFD28 [0x634, 0x645], .one 0xFD29 [0x634, 0x631],
    .one 0xFD2A [0x633, 0x631], .one 0xFD2B [0x635, 0x631], .one 0xFD2C [0x636, 0x631],
    .one 0xFD2D [0x634, 0x62C], .one 0xFD2E [0x634, 0x62D], .one 0xFD2F [0x634, 0x62E],
    .one 0xFD30 [0x634, 0x645], .one 0xFD31 [0x633, 0x647], .one 0xFD32 [0x634, 0x647],
    .one 0xFD33 [0x637, 0x645], .one 0xFD34 [0x633, 0x62C], .one 0xFD35 [0x633, 0x62D],
    .one 0xFD36 [0x633, 0x62E], .one 0xFD37 [0x634, 0x62C], .one 0xFD38 [0x634, 0x62D],
    .one 0xFD39 [0x634, 0x62E], .one 0xFD3A [0x637, 0x645], .one 0xFD3B [0x638, 0x645],
    .all 0xFD3C 0xFD3D [0x627, 0x64B], .one 0xFD50 [0x62A, 0x62C, 0x645],
    .all 0xFD51 0xFD52 [0x62A, 0x62D, 0x62C], .one 0xFD53 [0x62A, 0x62D, 0x645],
    .one 0xFD54 [0x62A, 0x62E, 0x645], .one 0xFD55 [0x62A, 0x645, 0x62C],
    .one 0xFD56 [0x62A, 0x645, 0x62D], .one 0xFD57 [0x62A, 0x645, 0x62E],
    .all 0xFD58 0xFD59 [0x62C, 0x645, 0x62D], .one 0xFD5A [0x62D, 0x645, 0x64A],
    .one 0xFD5B [0x62D, 0x645, 0x649], .one 0xFD5C [0x633, 0x62D, 0x62C],
    .one 0xFD5D [0x633, 0x62C, 0x62D], .one 0xFD5E [0x633, 0x62C, 0x649],
    .all 0xFD5F 0xFD60 [0x633, 0x645, 0x62D], .one 0xFD61 [0x633, 0x645, 0x62C],
    .all 0xFD62 0xFD63 [0x633, 0x645, 0x645], .all 0xFD64 0xFD65 [0x635, 0x62D, 0x62D],
    .one 0xFD66 [0x635, 0x645, 0x645], .all 0xFD67 0xFD68 [0x634, 0x62D, 0x645],
    .one 0xFD69 [0x634, 0x62C, 0x64A], .all 0xFD6A 0xFD6B [0x634, 0x645, 0x62E],
    .all 0xFD6C 0xFD6D [0x634, 0x645, 0x645], .one 0xFD6E [0x636, 0x62D, 0x649],
    .all 0xFD6F 0xFD70 [0x636, 0x62E, 0x645], .all 0xFD71 0xFD72 [0x637, 0x645, 0x62D],
    .one 0xFD73 [0x637, 0x645, 0x645], .one 0xFD74 [0x637, 0x645, 0x64A],
    .one 0xFD75 [0x639, 0x62C, 0x645], .all 0xFD76 0xFD77 [0x639, 0x645, 0x645],
    .one 0xFD78 [0x639, 0x645, 0x649], .one 0xFD79 [0x63A, 0x645, 0x645],
    .one 0xFD7A [0x63A, 0x645, 0x64A], .one 0xFD7B [0x63A, 0x645, 0x649],
    .all 0xFD7C 0xFD7D [0x641, 0x62E, 0x645], .one 0xFD7E [0x642, 0x645, 0x62D],
    .one 0xFD7F [0x642, 0x645, 0x645], .one 0xFD80 [0x644, 0x62D, 0x645],
    .one 0xFD81 [0x644, 0x62D, 0x64A], .one 0xFD82 [0x644, 0x62D, 0x649],
    .all 0xFD83 0xFD84 [0x644, 0x62C, 0x62C], .all 0xFD85 0xFD86 [0x644, 0x62E, 0x645],
    .all 0xFD87 0xFD88 [0x644, 0x645, 0x62D], .one 0xFD89 [0x645, 0x62D, 0x62C],
    .one 0xFD8A [0x645, 0x62D, 0x645], .one 0xFD8B [0x645, 0x62D, 0x64A],
    .one 0xFD8C [0x645, 0x62C, 0x62D], .one 0xFD8D [0x645, 0x62C, 0x645],
    .one 0xFD8E [0x645, 0x62E, 0x62C], .one 0xFD8F [0x645, 0x62E, 0x645],
    .one 0xFD92 [0x645, 0x62C, 0x62E], .one 0xFD93 [0x647, 0x645, 0x62C],
    .one 0xFD94 [0x647, 0x645, 0x645], .one 0xFD95 [0x646, 0x62D, 0x645],
    .one 0xFD96 [0x646, 0x62D, 0x649], .all 0xFD97 0xFD98 [0x646, 0x62C, 0x645],
    .one 0xFD99 [0x646, 0x62C, 0x649], .one 0xFD9A [0x646, 0x645, 0x64A],
    .one 0xFD9B [0x646, 0x645, 0x649], .all 0xFD9C 0xFD9D [0x64A, 0x645, 0x645],
    .one 0xFD9E [0x628, 0x62E, 0x64A], .one 0xFD9F [0x62A, 0x62C, 0x64A],
    .one 0xFDA0 [0x62A, 0x62C, 0x649], .one 0xFDA1 [0x62A, 0x62E, 0x64A],
    .one 0xFDA2 [0x62A, 0x62E, 0x649], .one 0xFDA3 [0x62A, 0x645, 0x64A],
    .one 0xFDA4 [0x62A, 0x645, 0x649], .one 0xFDA5 [0x62C, 0x645, 0x64A],
    .one 0xFDA6 [0x62C, 0x62D, 0x649], .one 0xFDA7 [0x62C, 0x645, 0x649],
    .one 0xFDA8 [0x633, 0x62E, 0x649], .one 0xFDA9 [0x635, 0x62D, 0x64A],
    .one 0xFDAA [0x634, 0x62D, 0x64A], .one 0xFDAB [0x636, 0x62D, 0x64A],
    .one 0xFDAC [0x644, 0x62C, 0x64A], .one 0xFDAD [0x644, 0x645, 0x64A],
    .one 0xFDAE [0x64A, 0x62D, 0x64A], .one 0xFDAF [0x64A, 0x62C, 0x64A],
    .one 0xFDB0 [0x64A, 0x645, 0x64A], .one 0xFDB1 [0x645, 0x645, 0x64A],
    .one 0xFDB2 [0x642, 0x645, 0x64A], .one 0xFDB3 [0x646, 0x62D, 0x64A],
    .one 0xFDB4 [0x642, 0x645, 0x62D], .one 0xFDB5 [0x644, 0x62D, 0x645],
    .one 0xFDB6 [0x639, 0x645, 0x64A], .one 0xFDB7 [0x643, 0x645, 0x64A],
    .one 0xFDB8 [0x646, 0x62C, 0x62D], .one 0xFDB9 [0x645, 0x62E, 0x64A],
    .one 0xFDBA [0x644, 0x62C, 0x645], .one 0xFDBB [0x643, 0x645, 0x645],
    .one 0xFDBC [0x644, 0x62C, 0x645], .one 0xFDBD [0x646, 0x62C, 0x62D],
    .one 0xFDBE [0x62C, 0x62D, 0x64A], .one 0xFDBF [0x62D, 0x62C, 0x64A],
    .one 0xFDC0 [0x645, 0x62C, 0x64A], .one 0xFDC1 [0x641, 0x645, 0x64A],
    .one 0xFDC2 [0x628, 0x62D, 0x64A], .one 0xFDC3 [0x643, 0x645, 0x645],
    .one 0xFDC4 [0x639, 0x62C, 0x645], .one 0xFDC5 [0x635, 0x645, 0x645],
    .one 0xFDC6 [0x633, 0x62E, 0x64A], .one 0xFDC7 [0x646, 0x62C, 0x64A],
    .one 0xFDF0 [0x635, 0x644, 0x6D2], .one 0xFDF1 [0x642, 0x644, 0x6D2],
    .one 0xFDF2 [0x627, 0x644, 0x644, 0x647], .one 0xFDF3 [0x627, 0x643, 0x628, 0x631],
    .one 0xFDF4 [0x645, 0x62D, 0x645, 0x62F], .one 0xFDF5 [0x635, 0x644, 0x639, 0x645],
    .one 0xFDF6 [0x631, 0x633, 0x648, 0x644], .one 0xFDF7 [0x639, 0x644, 0x64A, 0x647],
    .one 0xFDF8 [0x648, 0x633, 0x644, 0x645], .one 0xFDF9 [0x635, 0x644, 0x649],
    .one 0xFDFA [
      0x635, 0x644, 0x649, 0x20, 0x627, 0x644, 0x644, 0x647, 0x20, 0x639, 0x644, 0x64A, 0x647, 0x20,
      0x648, 0x633, 0x644, 0x645],
    .one 0xFDFB [0x62C, 0x644, 0x20, 0x62C, 0x644, 0x627, 0x644, 0x647],
    .one 0xFDFC [0x631, 0x6CC, 0x627, 0x644], .one 0xFE70 [0x20, 0x64B], .one 0xFE71 [0x640, 0x64B],
    .one 0xFE72 [0x20, 0x64C], .one 0xFE74 [0x20, 0x64D], .one 0xFE76 [0x20, 0x64E],
    .one 0xFE77 [0x640, 0x64E], .one 0xFE78 [0x20, 0x64F], .one 0xFE79 [0x640, 0x64F],
    .one 0xFE7A [0x20, 0x650], .one 0xFE7B [0x640, 0x650], .one 0xFE7C [0x20, 0x651],
    .one 0xFE7D [0x640, 0x651], .one 0xFE7E [0x20, 0x652], .one 0xFE7F [0x640, 0x652],
    .along 0xFE80 0xFE81 0x621, .along 0xFE82 0xFE83 0x622, .along 0xFE84 0xFE85 0x623,
    .along 0xFE86 0xFE87 0x624, .along 0xFE88 0xFE89 0x625, .all 0xFE8A 0xFE8C [0x626],
    .all 0xFE8D 0xFE8E [0x627], .all 0xFE8F 0xFE92 [0x628], .all 0xFE93 0xFE94 [0x629],
    .all 0xFE95 0xFE98 [0x62A], .all 0xFE99 0xFE9C [0x62B], .all 0xFE9D 0xFEA0 [0x62C],
    .all 0xFEA1 0xFEA4 [0x62D], .all 0xFEA5 0xFEA8 [0x62E], .all 0xFEA9 0xFEAA [0x62F],
    .all 0xFEAB 0xFEAC [0x630], .all 0xFEAD 0xFEAE [0x631], .all 0xFEAF 0xFEB0 [0x632],
    .all 0xFEB1 0xFEB4 [0x633], .all 0xFEB5 0xFEB8 [0x634], .all 0xFEB9 0xFEBC [0x635],
    .all 0xFEBD 0xFEC0 [0x636], .all 0xFEC1 0xFEC4 [0x637], .all 0xFEC5 0xFEC8 [0x638],
    .all 0xFEC9 0xFECC [0x639], .all 0xFECD 0xFED0 [0x63A], .all 0xFED1 0xFED4 [0x641],
    .all 0xFED5 0xFED8 [0x642], .all 0xFED9 0xFEDC [0x643], .all 0xFEDD 0xFEE0 [0x644],
    .all 0xFEE1 0xFEE4 [0x645], .all 0xFEE5 0xFEE8 [0x646], .all 0xFEE9 0xFEEC [0x647],
    .all 0xFEED 0xFEEE [0x648], .all 0xFEEF 0xFEF0 [0x649], .all 0xFEF1 0xFEF4 [0x64A],
    .all 0xFEF5 0xFEF6 [0x644, 0x622], .all 0xFEF7 0xFEF8 [0x644, 0x623],
    .all 0xFEF9 0xFEFA [0x644, 0x625], .all 0xFEFB 0xFEFC [0x644, 0x627],
    .along 0x1EE00 0x1EE01 0x627, .one 0x1EE02 [0x62C], .one 0x1EE03 [0x62F],
    .each 0x1EE05 [0x648, 0x632, 0x62D, 0x637, 0x64A], .along 0x1EE0A 0x1EE0D 0x643,
    .each 0x1EE0E [0x633, 0x639, 0x641, 0x635, 0x642, 0x631, 0x634], .along 0x1EE15 0x1EE16 0x62A,
    .each 0x1EE17 [0x62E, 0x630, 0x636, 0x638, 0x63A, 0x66E, 0x6BA, 0x6A1, 0x66F],
    .one 0x1EE21 [0x628], .one 0x1EE22 [0x62C], .one 0x1EE24 [0x647], .one 0x1EE27 [0x62D],
    .one 0x1EE29 [0x64A], .along 0x1EE2A 0x1EE2D 0x643,
    .each 0x1EE2E [0x633, 0x639, 0x641, 0x635, 0x642], .one 0x1EE34 [0x634],
    .along 0x1EE35 0x1EE36 0x62A, .one 0x1EE37 [0x62E], .one 0x1EE39 [0x636], .one 0x1EE3B [0x63A],
    .one 0x1EE42 [0x62C], .one 0x1EE47 [0x62D], .one 0x1EE49 [0x64A], .second 0x1EE4B 0x1EE4D 0x644,
    .one 0x1EE4E [0x633], .one 0x1EE4F [0x639], .one 0x1EE51 [0x635], .one 0x1EE52 [0x642],
    .one 0x1EE54 [0x634], .one 0x1EE57 [0x62E], .one 0x1EE59 [0x636], .one 0x1EE5B [0x63A],
    .one 0x1EE5D [0x6BA], .one 0x1EE5F [0x66F], .one 0x1EE61 [0x628], .one 0x1EE62 [0x62C],
    .one 0x1EE64 [0x647], .each 0x1EE67 [0x62D, 0x637, 0x64A], .second 0x1EE6A 0x1EE6C 0x643,
    .each 0x1EE6D [0x646, 0x633, 0x639, 0x641, 0x635, 0x642], .one 0x1EE74 [0x634],
    .along 0x1EE75 0x1EE76 0x62A, .one 0x1EE77 [0x62E], .each 0x1EE79 [0x636, 0x638, 0x63A, 0x66E],
    .one 0x1EE7E [0x6A1], .along 0x1EE80 0x1EE81 0x627, .one 0x1EE82 [0x62C], .one 0x1EE83 [0x62F],
    .along 0x1EE84 0x1EE85 0x647, .each 0x1EE86 [0x632, 0x62D, 0x637, 0x64A],
    .along 0x1EE8B 0x1EE8D 0x644, .each 0x1EE8E [0x633, 0x639, 0x641, 0x635, 0x642, 0x631, 0x634],
    .along 0x1EE95 0x1EE96 0x62A, .each 0x1EE97 [0x62E, 0x630, 0x636, 0x638, 0x63A],
    .each 0x1EEA1 [0x628, 0x62C, 0x62F], .each 0x1EEA5 [0x648, 0x632, 0x62D, 0x637, 0x64A],
    .along 0x1EEAB 0x1EEAD 0x644, .each 0x1EEAE [0x633, 0x639, 0x641, 0x635, 0x642, 0x631, 0x634],
    .along 0x1EEB5 0x1EEB6 0x62A, .each 0x1EEB7 [0x62E, 0x630, 0x636, 0x638, 0x63A]]

end Dispatch.Domain.Mapping
