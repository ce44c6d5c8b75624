import Dispatch.Domain.Mapping.Rule

namespace Dispatch.Domain.Mapping

def symbolRules : List Rule := [
    .all 0x2000 0x200A [0x20], .one 0x2011 [0x2010], .one 0x2017 [0x20, 0x333], .one 0x202F [0x20],
    .one 0x2033 [0x2032, 0x2032], .one 0x2034 [0x2032, 0x2032, 0x2032],
    .one 0x2036 [0x2035, 0x2035], .one 0x2037 [0x2035, 0x2035, 0x2035], .one 0x203C [0x21, 0x21],
    .one 0x203E [0x20, 0x305], .one 0x2047 [0x3F, 0x3F], .one 0x2048 [0x3F, 0x21],
    .one 0x2049 [0x21, 0x3F], .one 0x2057 [0x2032, 0x2032, 0x2032, 0x2032], .one 0x205F [0x20],
    .one 0x2070 [0x30], .one 0x2071 [0x69], .along 0x2074 0x2079 0x34,
    .each 0x207A [0x2B, 0x2212, 0x3D], .along 0x207D 0x207E 0x28, .one 0x207F [0x6E],
    .along 0x2080 0x2089 0x30, .each 0x208A [0x2B, 0x2212, 0x3D], .along 0x208D 0x208E 0x28,
    .each 0x2090 [0x61, 0x65, 0x6F, 0x78, 0x259, 0x68], .along 0x2096 0x2099 0x6B,
    .one 0x209A [0x70], .along 0x209B 0x209C 0x73, .one 0x20A8 [0x72, 0x73],
    .one 0x2100 [0x61, 0x2F, 0x63], .one 0x2101 [0x61, 0x2F, 0x73], .one 0x2102 [0x63],
    .one 0x2103 [0xB0, 0x63], .one 0x2105 [0x63, 0x2F, 0x6F], .one 0x2106 [0x63, 0x2F, 0x75],
    .one 0x2107 [0x25B], .one 0x2109 [0xB0, 0x66], .along 0x210A 0x210B 0x67,
    .all 0x210C 0x210E [0x68], .one 0x210F [0x127], .all 0x2110 0x2111 [0x69],
    .all 0x2112 0x2113 [0x6C], .one 0x2115 [0x6E], .one 0x2116 [0x6E, 0x6F],
    .along 0x2119 0x211B 0x70, .all 0x211C 0x211D [0x72], .one 0x2120 [0x73, 0x6D],
    .one 0x2121 [0x74, 0x65, 0x6C], .one 0x2122 [0x74, 0x6D], .one 0x2124 [0x7A],
    .one 0x2126 [0x3C9], .one 0x2128 [0x7A], .one 0x212A [0x6B], .one 0x212B [0xE5],
    .along 0x212C 0x212D 0x62, .all 0x212F 0x2130 [0x65], .each 0x2131 [0x66, 0x214E, 0x6D, 0x6F],
    .along 0x2135 0x2138 0x5D0, .one 0x2139 [0x69], .one 0x213B [0x66, 0x61, 0x78],
    .one 0x213C [0x3C0], .all 0x213D 0x213E [0x3B3], .one 0x213F [0x3C0], .one 0x2140 [0x2211],
    .all 0x2145 0x2146 [0x64], .one 0x2147 [0x65], .along 0x2148 0x2149 0x69,
    .one 0x2150 [0x31, 0x2044, 0x37], .one 0x2151 [0x31, 0x2044, 0x39],
    .one 0x2152 [0x31, 0x2044, 0x31, 0x30], .one 0x2153 [0x31, 0x2044, 0x33],
    .one 0x2154 [0x32, 0x2044, 0x33], .one 0x2155 [0x31, 0x2044, 0x35],
    .one 0x2156 [0x32, 0x2044, 0x35], .one 0x2157 [0x33, 0x2044, 0x35],
    .one 0x2158 [0x34, 0x2044, 0x35], .one 0x2159 [0x31, 0x2044, 0x36],
    .one 0x215A [0x35, 0x2044, 0x36], .one 0x215B [0x31, 0x2044, 0x38],
    .one 0x215C [0x33, 0x2044, 0x38], .one 0x215D [0x35, 0x2044, 0x38],
    .one 0x215E [0x37, 0x2044, 0x38], .one 0x215F [0x31, 0x2044], .one 0x2160 [0x69],
    .one 0x2161 [0x69, 0x69], .one 0x2162 [0x69, 0x69, 0x69], .one 0x2163 [0x69, 0x76],
    .one 0x2164 [0x76], .one 0x2165 [0x76, 0x69], .one 0x2166 [0x76, 0x69, 0x69],
    .one 0x2167 [0x76, 0x69, 0x69, 0x69], .one 0x2168 [0x69, 0x78], .one 0x2169 [0x78],
    .one 0x216A [0x78, 0x69], .one 0x216B [0x78, 0x69, 0x69], .one 0x216C [0x6C],
    .along 0x216D 0x216E 0x63, .one 0x216F [0x6D], .one 0x2170 [0x69], .one 0x2171 [0x69, 0x69],
    .one 0x2172 [0x69, 0x69, 0x69], .one 0x2173 [0x69, 0x76], .one 0x2174 [0x76],
    .one 0x2175 [0x76, 0x69], .one 0x2176 [0x76, 0x69, 0x69], .one 0x2177 [0x76, 0x69, 0x69, 0x69],
    .one 0x2178 [0x69, 0x78], .one 0x2179 [0x78], .one 0x217A [0x78, 0x69],
    .one 0x217B [0x78, 0x69, 0x69], .one 0x217C [0x6C], .along 0x217D 0x217E 0x63,
    .one 0x217F [0x6D], .one 0x2183 [0x2184], .one 0x2189 [0x30, 0x2044, 0x33],
    .one 0x222C [0x222B, 0x222B], .one 0x222D [0x222B, 0x222B, 0x222B],
    .one 0x222F [0x222E, 0x222E], .one 0x2230 [0x222E, 0x222E, 0x222E], .along 0x2329 0x232A 0x3008,
    .along 0x2460 0x2468 0x31, .one 0x2469 [0x31, 0x30], .one 0x246A [0x31, 0x31],
    .one 0x246B [0x31, 0x32], .one 0x246C [0x31, 0x33], .one 0x246D [0x31, 0x34],
    .one 0x246E [0x31, 0x35], .one 0x246F [0x31, 0x36], .one 0x2470 [0x31, 0x37],
    .one 0x2471 [0x31, 0x38], .one 0x2472 [0x31, 0x39], .one 0x2473 [0x32, 0x30],
    .one 0x2474 [0x28, 0x31, 0x29], .one 0x2475 [0x28, 0x32, 0x29], .one 0x2476 [0x28, 0x33, 0x29],
    .one 0x2477 [0x28, 0x34, 0x29], .one 0x2478 [0x28, 0x35, 0x29], .one 0x2479 [0x28, 0x36, 0x29],
    .one 0x247A [0x28, 0x37, 0x29], .one 0x247B [0x28, 0x38, 0x29], .one 0x247C [0x28, 0x39, 0x29],
    .one 0x247D [0x28, 0x31, 0x30, 0x29], .one 0x247E [0x28, 0x31, 0x31, 0x29],
    .one 0x247F [0x28, 0x31, 0x32, 0x29], .one 0x2480 [0x28, 0x31, 0x33, 0x29],
    .one 0x2481 [0x28, 0x31, 0x34, 0x29], .one 0x2482 [0x28, 0x31, 0x35, 0x29],
    .one 0x2483 [0x28, 0x31, 0x36, 0x29], .one 0x2484 [0x28, 0x31, 0x37, 0x29],
    .one 0x2485 [0x28, 0x31, 0x38, 0x29], .one 0x2486 [0x28, 0x31, 0x39, 0x29],
    .one 0x2487 [0x28, 0x32, 0x30, 0x29], .one 0x249C [0x28, 0x61, 0x29],
    .one 0x249D [0x28, 0x62, 0x29], .one 0x249E [0x28, 0x63, 0x29], .one 0x249F [0x28, 0x64, 0x29],
    .one 0x24A0 [0x28, 0x65, 0x29], .one 0x24A1 [0x28, 0x66, 0x29], .one 0x24A2 [0x28, 0x67, 0x29],
    .one 0x24A3 [0x28, 0x68, 0x29], .one 0x24A4 [0x28, 0x69, 0x29], .one 0x24A5 [0x28, 0x6A, 0x29],
    .one 0x24A6 [0x28, 0x6B, 0x29], .one 0x24A7 [0x28, 0x6C, 0x29], .one 0x24A8 [0x28, 0x6D, 0x29],
    .one 0x24A9 [0x28, 0x6E, 0x29], .one 0x24AA [0x28, 0x6F, 0x29], .one 0x24AB [0x28, 0x70, 0x29],
    .one 0x24AC [0x28, 0x71, 0x29], .one 0x24AD [0x28, 0x72, 0x29], .one 0x24AE [0x28, 0x73, 0x29],
    .one 0x24AF [0x28, 0x74, 0x29], .one 0x24B0 [0x28, 0x75, 0x29], .one 0x24B1 [0x28, 0x76, 0x29],
    .one 0x24B2 [0x28, 0x77, 0x29], .one 0x24B3 [0x28, 0x78, 0x29], .one 0x24B4 [0x28, 0x79, 0x29],
    .one 0x24B5 [0x28, 0x7A, 0x29], .along 0x24B6 0x24CF 0x61, .along 0x24D0 0x24E9 0x61,
    .one 0x24EA [0x30], .one 0x2A0C [0x222B, 0x222B, 0x222B, 0x222B],
    .one 0x2A74 [0x3A, 0x3A, 0x3D], .one 0x2A75 [0x3D, 0x3D], .one 0x2A76 [0x3D, 0x3D, 0x3D],
    .one 0x2ADC [0x2ADD, 0x338], .along 0x1CCD6 0x1CCEF 0x61, .along 0x1CCF0 0x1CCF9 0x30,
    .one 0x1D15E [0x1D157, 0x1D165], .one 0x1D15F [0x1D158, 0x1D165],
    .one 0x1D160 [0x1D158, 0x1D165, 0x1D16E], .one 0x1D161 [0x1D158, 0x1D165, 0x1D16F],
    .one 0x1D162 [0x1D158, 0x1D165, 0x1D170], .one 0x1D163 [0x1D158, 0x1D165, 0x1D171],
    .one 0x1D164 [0x1D158, 0x1D165, 0x1D172], .one 0x1D1BB [0x1D1B9, 0x1D165],
    .one 0x1D1BC [0x1D1BA, 0x1D165], .one 0x1D1BD [0x1D1B9, 0x1D165, 0x1D16E],
    .one 0x1D1BE [0x1D1BA, 0x1D165, 0x1D16E], .one 0x1D1BF [0x1D1B9, 0x1D165, 0x1D16F],
    .one 0x1D1C0 [0x1D1BA, 0x1D165, 0x1D16F], .one 0x1F101 [0x30, 0x2C], .one 0x1F102 [0x31, 0x2C],
    .one 0x1F103 [0x32, 0x2C], .one 0x1F104 [0x33, 0x2C], .one 0x1F105 [0x34, 0x2C],
    .one 0x1F106 [0x35, 0x2C], .one 0x1F107 [0x36, 0x2C], .one 0x1F108 [0x37, 0x2C],
    .one 0x1F109 [0x38, 0x2C], .one 0x1F10A [0x39, 0x2C], .one 0x1F110 [0x28, 0x61, 0x29],
    .one 0x1F111 [0x28, 0x62, 0x29], .one 0x1F112 [0x28, 0x63, 0x29],
    .one 0x1F113 [0x28, 0x64, 0x29], .one 0x1F114 [0x28, 0x65, 0x29],
    .one 0x1F115 [0x28, 0x66, 0x29], .one 0x1F116 [0x28, 0x67, 0x29],
    .one 0x1F117 [0x28, 0x68, 0x29], .one 0x1F118 [0x28, 0x69, 0x29],
    .one 0x1F119 [0x28, 0x6A, 0x29], .one 0x1F11A [0x28, 0x6B, 0x29],
    .one 0x1F11B [0x28, 0x6C, 0x29], .one 0x1F11C [0x28, 0x6D, 0x29],
    .one 0x1F11D [0x28, 0x6E, 0x29], .one 0x1F11E [0x28, 0x6F, 0x29],
    .one 0x1F11F [0x28, 0x70, 0x29], .one 0x1F120 [0x28, 0x71, 0x29],
    .one 0x1F121 [0x28, 0x72, 0x29], .one 0x1F122 [0x28, 0x73, 0x29],
    .one 0x1F123 [0x28, 0x74, 0x29], .one 0x1F124 [0x28, 0x75, 0x29],
    .one 0x1F125 [0x28, 0x76, 0x29], .one 0x1F126 [0x28, 0x77, 0x29],
    .one 0x1F127 [0x28, 0x78, 0x29], .one 0x1F128 [0x28, 0x79, 0x29],
    .one 0x1F129 [0x28, 0x7A, 0x29], .one 0x1F12A [0x3014, 0x73, 0x3015], .one 0x1F12B [0x63],
    .one 0x1F12C [0x72], .one 0x1F12D [0x63, 0x64], .one 0x1F12E [0x77, 0x7A],
    .along 0x1F130 0x1F149 0x61, .one 0x1F14A [0x68, 0x76], .one 0x1F14B [0x6D, 0x76],
    .one 0x1F14C [0x73, 0x64], .one 0x1F14D [0x73, 0x73], .one 0x1F14E [0x70, 0x70, 0x76],
    .one 0x1F14F [0x77, 0x63], .one 0x1F16A [0x6D, 0x63], .one 0x1F16B [0x6D, 0x64],
    .one 0x1F16C [0x6D, 0x72], .one 0x1F190 [0x64, 0x6A], .one 0x1F200 [0x307B, 0x304B],
    .one 0x1F201 [0x30B3, 0x30B3], .one 0x1F202 [0x30B5],
    .each 0x1F210 [
      0x624B, 0x5B57, 0x53CC, 0x30C7, 0x4E8C, 0x591A, 0x89E3, 0x5929, 0x4EA4, 0x6620, 0x7121,
      0x6599, 0x524D, 0x5F8C, 0x518D, 0x65B0, 0x521D, 0x7D42, 0x751F, 0x8CA9, 0x58F0, 0x5439,
      0x6F14, 0x6295, 0x6355, 0x4E00, 0x4E09, 0x904A, 0x5DE6, 0x4E2D, 0x53F3, 0x6307, 0x8D70,
      0x6253, 0x7981, 0x7A7A, 0x5408, 0x6E80, 0x6709, 0x6708, 0x7533, 0x5272, 0x55B6, 0x914D],
    .one 0x1F240 [0x3014, 0x672C, 0x3015], .one 0x1F241 [0x3014, 0x4E09, 0x3015],
    .one 0x1F242 [0x3014, 0x4E8C, 0x3015], .one 0x1F243 [0x3014, 0x5B89, 0x3015],
    .one 0x1F244 [0x3014, 0x70B9, 0x3015], .one 0x1F245 [0x3014, 0x6253, 0x3015],
    .one 0x1F246 [0x3014, 0x76D7, 0x3015], .one 0x1F247 [0x3014, 0x52DD, 0x3015],
    .one 0x1F248 [0x3014, 0x6557, 0x3015], .one 0x1F250 [0x5F97], .one 0x1F251 [0x53EF],
    .along 0x1FBF0 0x1FBF9 0x30]

def mathematicalRules : List Rule := [
    .along 0x1D400 0x1D419 0x61, .along 0x1D41A 0x1D433 0x61, .along 0x1D434 0x1D44D 0x61,
    .second 0x1D44E 0x1D466 0x61, .second 0x1D44F 0x1D453 0x62, .second 0x1D457 0x1D467 0x6A,
    .along 0x1D468 0x1D481 0x61, .along 0x1D482 0x1D49B 0x61, .second 0x1D49C 0x1D49E 0x61,
    .one 0x1D49F [0x64], .one 0x1D4A2 [0x67], .along 0x1D4A5 0x1D4A6 0x6A,
    .along 0x1D4A9 0x1D4AC 0x6E, .along 0x1D4AE 0x1D4B5 0x73, .along 0x1D4B6 0x1D4B9 0x61,
    .second 0x1D4BB 0x1D4CF 0x66, .second 0x1D4BE 0x1D4C2 0x69, .second 0x1D4C6 0x1D4CE 0x71,
    .along 0x1D4D0 0x1D4E9 0x61, .along 0x1D4EA 0x1D503 0x61, .along 0x1D504 0x1D505 0x61,
    .along 0x1D507 0x1D50A 0x64, .along 0x1D50D 0x1D514 0x6A, .along 0x1D516 0x1D51C 0x73,
    .along 0x1D51E 0x1D537 0x61, .along 0x1D538 0x1D539 0x61, .along 0x1D53B 0x1D53E 0x64,
    .along 0x1D540 0x1D544 0x69, .one 0x1D546 [0x6F], .along 0x1D54A 0x1D550 0x73,
    .along 0x1D552 0x1D56B 0x61, .along 0x1D56C 0x1D585 0x61, .along 0x1D586 0x1D59F 0x61,
    .along 0x1D5A0 0x1D5B9 0x61, .along 0x1D5BA 0x1D5D3 0x61, .along 0x1D5D4 0x1D5ED 0x61,
    .along 0x1D5EE 0x1D607 0x61, .along 0x1D608 0x1D621 0x61, .along 0x1D622 0x1D63B 0x61,
    .along 0x1D63C 0x1D655 0x61, .along 0x1D656 0x1D66F 0x61, .along 0x1D670 0x1D689 0x61,
    .along 0x1D68A 0x1D6A3 0x61, .one 0x1D6A4 [0x131], .one 0x1D6A5 [0x237],
    .along 0x1D6A8 0x1D6B8 0x3B1, .one 0x1D6B9 [0x3B8], .along 0x1D6BA 0x1D6C0 0x3C3,
    .one 0x1D6C1 [0x2207], .along 0x1D6C2 0x1D6D2 0x3B1, .all 0x1D6D3 0x1D6D4 [0x3C3],
    .along 0x1D6D5 0x1D6DA 0x3C4, .each 0x1D6DB [0x2202, 0x3B5, 0x3B8, 0x3BA, 0x3C6, 0x3C1, 0x3C0],
    .along 0x1D6E2 0x1D6F2 0x3B1, .one 0x1D6F3 [0x3B8], .along 0x1D6F4 0x1D6FA 0x3C3,
    .one 0x1D6FB [0x2207], .along 0x1D6FC 0x1D70C 0x3B1, .all 0x1D70D 0x1D70E [0x3C3],
    .along 0x1D70F 0x1D714 0x3C4, .each 0x1D715 [0x2202, 0x3B5, 0x3B8, 0x3BA, 0x3C6, 0x3C1, 0x3C0],
    .along 0x1D71C 0x1D72C 0x3B1, .one 0x1D72D [0x3B8], .along 0x1D72E 0x1D734 0x3C3,
    .one 0x1D735 [0x2207], .along 0x1D736 0x1D746 0x3B1, .all 0x1D747 0x1D748 [0x3C3],
    .along 0x1D749 0x1D74E 0x3C4, .each 0x1D74F [0x2202, 0x3B5, 0x3B8, 0x3BA, 0x3C6, 0x3C1, 0x3C0],
    .along 0x1D756 0x1D766 0x3B1, .one 0x1D767 [0x3B8], .along 0x1D768 0x1D76E 0x3C3,
    .one 0x1D76F [0x2207], .along 0x1D770 0x1D780 0x3B1, .all 0x1D781 0x1D782 [0x3C3],
    .along 0x1D783 0x1D788 0x3C4, .each 0x1D789 [0x2202, 0x3B5, 0x3B8, 0x3BA, 0x3C6, 0x3C1, 0x3C0],
    .along 0x1D790 0x1D7A0 0x3B1, .one 0x1D7A1 [0x3B8], .along 0x1D7A2 0x1D7A8 0x3C3,
    .one 0x1D7A9 [0x2207], .along 0x1D7AA 0x1D7BA 0x3B1, .all 0x1D7BB 0x1D7BC [0x3C3],
    .along 0x1D7BD 0x1D7C2 0x3C4, .each 0x1D7C3 [0x2202, 0x3B5, 0x3B8, 0x3BA, 0x3C6, 0x3C1, 0x3C0],
    .all 0x1D7CA 0x1D7CB [0x3DD], .along 0x1D7CE 0x1D7D7 0x30, .along 0x1D7D8 0x1D7E1 0x30,
    .along 0x1D7E2 0x1D7EB 0x30, .along 0x1D7EC 0x1D7F5 0x30, .along 0x1D7F6 0x1D7FF 0x30]

def widthRules : List Rule := [
    .one 0xFE10 [0x2C], .one 0xFE11 [0x3001], .along 0xFE13 0xFE14 0x3A, .one 0xFE15 [0x21],
    .one 0xFE16 [0x3F], .along 0xFE17 0xFE18 0x3016, .one 0xFE31 [0x2014], .one 0xFE32 [0x2013],
    .all 0xFE33 0xFE34 [0x5F], .along 0xFE35 0xFE36 0x28, .one 0xFE37 [0x7B], .one 0xFE38 [0x7D],
    .along 0xFE39 0xFE3A 0x3014, .along 0xFE3B 0xFE3C 0x3010, .along 0xFE3D 0xFE3E 0x300A,
    .along 0xFE3F 0xFE40 0x3008, .along 0xFE41 0xFE44 0x300C, .one 0xFE47 [0x5B],
    .one 0xFE48 [0x5D], .all 0xFE49 0xFE4C [0x20, 0x305], .all 0xFE4D 0xFE4F [0x5F],
    .one 0xFE50 [0x2C], .one 0xFE51 [0x3001], .each 0xFE54 [0x3B, 0x3A, 0x3F, 0x21, 0x2014],
    .along 0xFE59 0xFE5A 0x28, .one 0xFE5B [0x7B], .one 0xFE5C [0x7D], .along 0xFE5D 0xFE5E 0x3014,
    .one 0xFE5F [0x23], .one 0xFE60 [0x26], .along 0xFE61 0xFE62 0x2A,
    .each 0xFE63 [0x2D, 0x3C, 0x3E, 0x3D], .one 0xFE68 [0x5C], .along 0xFE69 0xFE6A 0x24,
    .one 0xFE6B [0x40], .along 0xFF01 0xFF20 0x21, .along 0xFF21 0xFF3A 0x61,
    .along 0xFF3B 0xFF5E 0x5B, .along 0xFF5F 0xFF60 0x2985, .one 0xFF61 [0x2E],
    .along 0xFF62 0xFF63 0x300C,
    .each 0xFF64 [
      0x3001, 0x30FB, 0x30F2, 0x30A1, 0x30A3, 0x30A5, 0x30A7, 0x30A9, 0x30E3, 0x30E5, 0x30E7,
      0x30C3, 0x30FC, 0x30A2, 0x30A4, 0x30A6, 0x30A8],
    .along 0xFF75 0xFF76 0x30AA,
    .each 0xFF77 [
      0x30AD, 0x30AF, 0x30B1, 0x30B3, 0x30B5, 0x30B7, 0x30B9, 0x30BB, 0x30BD, 0x30BF, 0x30C1,
      0x30C4, 0x30C6, 0x30C8],
    .along 0xFF85 0xFF8A 0x30CA, .each 0xFF8B [0x30D2, 0x30D5, 0x30D8, 0x30DB],
    .along 0xFF8F 0xFF93 0x30DE, .one 0xFF94 [0x30E4], .one 0xFF95 [0x30E6],
    .along 0xFF96 0xFF9B 0x30E8, .one 0xFF9C [0x30EF], .one 0xFF9D [0x30F3],
    .along 0xFF9E 0xFF9F 0x3099, .along 0xFFA1 0xFFA2 0x1100, .second 0xFFA3 0xFFA5 0x11AA,
    .one 0xFFA4 [0x1102], .one 0xFFA6 [0x11AD], .along 0xFFA7 0xFFA9 0x1103,
    .along 0xFFAA 0xFFAF 0x11B0, .one 0xFFB0 [0x111A], .along 0xFFB1 0xFFB3 0x1106,
    .one 0xFFB4 [0x1121], .along 0xFFB5 0xFFBE 0x1109, .along 0xFFC2 0xFFC7 0x1161,
    .along 0xFFCA 0xFFCF 0x1167, .along 0xFFD2 0xFFD7 0x116D, .along 0xFFDA 0xFFDC 0x1173,
    .along 0xFFE0 0xFFE1 0xA2, .one 0xFFE2 [0xAC], .one 0xFFE3 [0x20, 0x304],
    .each 0xFFE4 [0xA6, 0xA5, 0x20A9], .one 0xFFE8 [0x2502], .along 0xFFE9 0xFFEC 0x2190,
    .one 0xFFED [0x25A0], .one 0xFFEE [0x25CB]]

end Dispatch.Domain.Mapping
