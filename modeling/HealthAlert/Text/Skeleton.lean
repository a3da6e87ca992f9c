/-!
# ASCII skeletons

`skeleton c` is what remains of a character when it is decomposed for compatibility (Unicode 14,
form NFKD), its combining marks are dropped, it is lowercased, and only the letters `a` to `z`
and the digits are kept: `é` leaves `e`, the ligature `ĳ` leaves `ij`, `½` leaves `12`, and a
character without any ASCII part leaves nothing.

Because the marks are dropped, the canonical ordering of a decomposed text moves only characters
that vanish, so the skeleton of a text is the concatenation of those of its characters.
-/

namespace HealthAlert.Text

/-- Consecutive code points `first` to `last` that each leave one character: `letter` for the
first of them, then the same again (`step = 0`) or its successors (`step = 1`). -/
structure SkeletonRun where
  first : Nat
  last : Nat
  letter : Char
  step : Nat

/-- The characters above the ASCII range that leave one letter or digit. -/
def skeletonRuns : List SkeletonRun := [
    ⟨0xAA, 0xAA, 'a', 0⟩, ⟨0xB2, 0xB3, '2', 1⟩, ⟨0xB9, 0xB9, '1', 0⟩, ⟨0xBA, 0xBA, 'o', 0⟩,
    ⟨0xC0, 0xC5, 'a', 0⟩, ⟨0xC7, 0xC7, 'c', 0⟩, ⟨0xC8, 0xCB, 'e', 0⟩, ⟨0xCC, 0xCF, 'i', 0⟩,
    ⟨0xD1, 0xD2, 'n', 1⟩, ⟨0xD3, 0xD6, 'o', 0⟩, ⟨0xD9, 0xDC, 'u', 0⟩, ⟨0xDD, 0xDD, 'y', 0⟩,
    ⟨0xE0, 0xE5, 'a', 0⟩, ⟨0xE7, 0xE7, 'c', 0⟩, ⟨0xE8, 0xEB, 'e', 0⟩, ⟨0xEC, 0xEF, 'i', 0⟩,
    ⟨0xF1, 0xF2, 'n', 1⟩, ⟨0xF3, 0xF6, 'o', 0⟩, ⟨0xF9, 0xFC, 'u', 0⟩, ⟨0xFD, 0xFD, 'y', 0⟩,
    ⟨0xFF, 0xFF, 'y', 0⟩, ⟨0x100, 0x105, 'a', 0⟩, ⟨0x106, 0x10D, 'c', 0⟩, ⟨0x10E, 0x10F, 'd', 0⟩,
    ⟨0x112, 0x11B, 'e', 0⟩, ⟨0x11C, 0x123, 'g', 0⟩, ⟨0x124, 0x125, 'h', 0⟩,
    ⟨0x128, 0x130, 'i', 0⟩, ⟨0x134, 0x135, 'j', 0⟩, ⟨0x136, 0x137, 'k', 0⟩,
    ⟨0x139, 0x140, 'l', 0⟩, ⟨0x143, 0x149, 'n', 0⟩, ⟨0x14C, 0x151, 'o', 0⟩,
    ⟨0x154, 0x159, 'r', 0⟩, ⟨0x15A, 0x161, 's', 0⟩, ⟨0x162, 0x165, 't', 0⟩,
    ⟨0x168, 0x173, 'u', 0⟩, ⟨0x174, 0x175, 'w', 0⟩, ⟨0x176, 0x178, 'y', 0⟩,
    ⟨0x179, 0x17E, 'z', 0⟩, ⟨0x17F, 0x17F, 's', 0⟩, ⟨0x1A0, 0x1A1, 'o', 0⟩,
    ⟨0x1AF, 0x1B0, 'u', 0⟩, ⟨0x1CD, 0x1CE, 'a', 0⟩, ⟨0x1CF, 0x1D0, 'i', 0⟩,
    ⟨0x1D1, 0x1D2, 'o', 0⟩, ⟨0x1D3, 0x1DC, 'u', 0⟩, ⟨0x1DE, 0x1E1, 'a', 0⟩,
    ⟨0x1E6, 0x1E7, 'g', 0⟩, ⟨0x1E8, 0x1E9, 'k', 0⟩, ⟨0x1EA, 0x1ED, 'o', 0⟩,
    ⟨0x1F0, 0x1F0, 'j', 0⟩, ⟨0x1F4, 0x1F5, 'g', 0⟩, ⟨0x1F8, 0x1F9, 'n', 0⟩,
    ⟨0x1FA, 0x1FB, 'a', 0⟩, ⟨0x200, 0x203, 'a', 0⟩, ⟨0x204, 0x207, 'e', 0⟩,
    ⟨0x208, 0x20B, 'i', 0⟩, ⟨0x20C, 0x20F, 'o', 0⟩, ⟨0x210, 0x213, 'r', 0⟩,
    ⟨0x214, 0x217, 'u', 0⟩, ⟨0x218, 0x219, 's', 0⟩, ⟨0x21A, 0x21B, 't', 0⟩,
    ⟨0x21E, 0x21F, 'h', 0⟩, ⟨0x226, 0x227, 'a', 0⟩, ⟨0x228, 0x229, 'e', 0⟩,
    ⟨0x22A, 0x231, 'o', 0⟩, ⟨0x232, 0x233, 'y', 0⟩, ⟨0x2B0, 0x2B0, 'h', 0⟩,
    ⟨0x2B2, 0x2B2, 'j', 0⟩, ⟨0x2B3, 0x2B3, 'r', 0⟩, ⟨0x2B7, 0x2B7, 'w', 0⟩,
    ⟨0x2B8, 0x2B8, 'y', 0⟩, ⟨0x2E1, 0x2E1, 'l', 0⟩, ⟨0x2E2, 0x2E2, 's', 0⟩,
    ⟨0x2E3, 0x2E3, 'x', 0⟩, ⟨0x1D2C, 0x1D2C, 'a', 0⟩, ⟨0x1D2E, 0x1D2E, 'b', 0⟩,
    ⟨0x1D30, 0x1D31, 'd', 1⟩, ⟨0x1D33, 0x1D3A, 'g', 1⟩, ⟨0x1D3C, 0x1D3C, 'o', 0⟩,
    ⟨0x1D3E, 0x1D3E, 'p', 0⟩, ⟨0x1D3F, 0x1D3F, 'r', 0⟩, ⟨0x1D40, 0x1D41, 't', 1⟩,
    ⟨0x1D42, 0x1D42, 'w', 0⟩, ⟨0x1D43, 0x1D43, 'a', 0⟩, ⟨0x1D47, 0x1D47, 'b', 0⟩,
    ⟨0x1D48, 0x1D49, 'd', 1⟩, ⟨0x1D4D, 0x1D4D, 'g', 0⟩, ⟨0x1D4F, 0x1D4F, 'k', 0⟩,
    ⟨0x1D50, 0x1D50, 'm', 0⟩, ⟨0x1D52, 0x1D52, 'o', 0⟩, ⟨0x1D56, 0x1D56, 'p', 0⟩,
    ⟨0x1D57, 0x1D58, 't', 1⟩, ⟨0x1D5B, 0x1D5B, 'v', 0⟩, ⟨0x1D62, 0x1D62, 'i', 0⟩,
    ⟨0x1D63, 0x1D63, 'r', 0⟩, ⟨0x1D64, 0x1D65, 'u', 1⟩, ⟨0x1D9C, 0x1D9C, 'c', 0⟩,
    ⟨0x1DA0, 0x1DA0, 'f', 0⟩, ⟨0x1DBB, 0x1DBB, 'z', 0⟩, ⟨0x1E00, 0x1E01, 'a', 0⟩,
    ⟨0x1E02, 0x1E07, 'b', 0⟩, ⟨0x1E08, 0x1E09, 'c', 0⟩, ⟨0x1E0A, 0x1E13, 'd', 0⟩,
    ⟨0x1E14, 0x1E1D, 'e', 0⟩, ⟨0x1E1E, 0x1E1F, 'f', 0⟩, ⟨0x1E20, 0x1E21, 'g', 0⟩,
    ⟨0x1E22, 0x1E2B, 'h', 0⟩, ⟨0x1E2C, 0x1E2F, 'i', 0⟩, ⟨0x1E30, 0x1E35, 'k', 0⟩,
    ⟨0x1E36, 0x1E3D, 'l', 0⟩, ⟨0x1E3E, 0x1E43, 'm', 0⟩, ⟨0x1E44, 0x1E4B, 'n', 0⟩,
    ⟨0x1E4C, 0x1E53, 'o', 0⟩, ⟨0x1E54, 0x1E57, 'p', 0⟩, ⟨0x1E58, 0x1E5F, 'r', 0⟩,
    ⟨0x1E60, 0x1E69, 's', 0⟩, ⟨0x1E6A, 0x1E71, 't', 0⟩, ⟨0x1E72, 0x1E7B, 'u', 0⟩,
    ⟨0x1E7C, 0x1E7F, 'v', 0⟩, ⟨0x1E80, 0x1E89, 'w', 0⟩, ⟨0x1E8A, 0x1E8D, 'x', 0⟩,
    ⟨0x1E8E, 0x1E8F, 'y', 0⟩, ⟨0x1E90, 0x1E95, 'z', 0⟩, ⟨0x1E96, 0x1E96, 'h', 0⟩,
    ⟨0x1E97, 0x1E97, 't', 0⟩, ⟨0x1E98, 0x1E98, 'w', 0⟩, ⟨0x1E99, 0x1E99, 'y', 0⟩,
    ⟨0x1E9A, 0x1E9A, 'a', 0⟩, ⟨0x1E9B, 0x1E9B, 's', 0⟩, ⟨0x1EA0, 0x1EB7, 'a', 0⟩,
    ⟨0x1EB8, 0x1EC7, 'e', 0⟩, ⟨0x1EC8, 0x1ECB, 'i', 0⟩, ⟨0x1ECC, 0x1EE3, 'o', 0⟩,
    ⟨0x1EE4, 0x1EF1, 'u', 0⟩, ⟨0x1EF2, 0x1EF9, 'y', 0⟩, ⟨0x2070, 0x2070, '0', 0⟩,
    ⟨0x2071, 0x2071, 'i', 0⟩, ⟨0x2074, 0x2079, '4', 1⟩, ⟨0x207F, 0x207F, 'n', 0⟩,
    ⟨0x2080, 0x2089, '0', 1⟩, ⟨0x2090, 0x2090, 'a', 0⟩, ⟨0x2091, 0x2091, 'e', 0⟩,
    ⟨0x2092, 0x2092, 'o', 0⟩, ⟨0x2093, 0x2093, 'x', 0⟩, ⟨0x2095, 0x2095, 'h', 0⟩,
    ⟨0x2096, 0x2099, 'k', 1⟩, ⟨0x209A, 0x209A, 'p', 0⟩, ⟨0x209B, 0x209C, 's', 1⟩,
    ⟨0x2102, 0x2103, 'c', 0⟩, ⟨0x2109, 0x210B, 'f', 1⟩, ⟨0x210C, 0x210E, 'h', 0⟩,
    ⟨0x2110, 0x2111, 'i', 0⟩, ⟨0x2112, 0x2113, 'l', 0⟩, ⟨0x2115, 0x2115, 'n', 0⟩,
    ⟨0x2119, 0x211B, 'p', 1⟩, ⟨0x211C, 0x211D, 'r', 0⟩, ⟨0x2124, 0x2124, 'z', 0⟩,
    ⟨0x2128, 0x2128, 'z', 0⟩, ⟨0x212A, 0x212A, 'k', 0⟩, ⟨0x212B, 0x212D, 'a', 1⟩,
    ⟨0x212F, 0x2130, 'e', 0⟩, ⟨0x2131, 0x2131, 'f', 0⟩, ⟨0x2133, 0x2133, 'm', 0⟩,
    ⟨0x2134, 0x2134, 'o', 0⟩, ⟨0x2139, 0x2139, 'i', 0⟩, ⟨0x2145, 0x2146, 'd', 0⟩,
    ⟨0x2147, 0x2147, 'e', 0⟩, ⟨0x2148, 0x2149, 'i', 1⟩, ⟨0x215F, 0x215F, '1', 0⟩,
    ⟨0x2160, 0x2160, 'i', 0⟩, ⟨0x2164, 0x2164, 'v', 0⟩, ⟨0x2169, 0x2169, 'x', 0⟩,
    ⟨0x216C, 0x216C, 'l', 0⟩, ⟨0x216D, 0x216E, 'c', 1⟩, ⟨0x216F, 0x216F, 'm', 0⟩,
    ⟨0x2170, 0x2170, 'i', 0⟩, ⟨0x2174, 0x2174, 'v', 0⟩, ⟨0x2179, 0x2179, 'x', 0⟩,
    ⟨0x217C, 0x217C, 'l', 0⟩, ⟨0x217D, 0x217E, 'c', 1⟩, ⟨0x217F, 0x217F, 'm', 0⟩,
    ⟨0x2460, 0x2468, '1', 1⟩, ⟨0x2474, 0x247C, '1', 1⟩, ⟨0x2488, 0x2490, '1', 1⟩,
    ⟨0x249C, 0x24B5, 'a', 1⟩, ⟨0x24B6, 0x24CF, 'a', 1⟩, ⟨0x24D0, 0x24E9, 'a', 1⟩,
    ⟨0x24EA, 0x24EA, '0', 0⟩, ⟨0x2C7C, 0x2C7C, 'j', 0⟩, ⟨0x2C7D, 0x2C7D, 'v', 0⟩,
    ⟨0x32C0, 0x32C8, '1', 1⟩, ⟨0x3358, 0x3361, '0', 1⟩, ⟨0x3382, 0x3382, 'a', 0⟩,
    ⟨0x338C, 0x338D, 'f', 1⟩, ⟨0x3395, 0x3395, 'l', 0⟩, ⟨0x339B, 0x339B, 'm', 0⟩,
    ⟨0x33B2, 0x33B2, 's', 0⟩, ⟨0x33B6, 0x33B6, 'v', 0⟩, ⟨0x33BC, 0x33BC, 'w', 0⟩,
    ⟨0x33C0, 0x33C0, 'k', 0⟩, ⟨0x33C1, 0x33C1, 'm', 0⟩, ⟨0x33E0, 0x33E8, '1', 1⟩,
    ⟨0xA7F2, 0xA7F2, 'c', 0⟩, ⟨0xA7F3, 0xA7F3, 'f', 0⟩, ⟨0xA7F4, 0xA7F4, 'q', 0⟩,
    ⟨0xFF10, 0xFF19, '0', 1⟩, ⟨0xFF21, 0xFF3A, 'a', 1⟩, ⟨0xFF41, 0xFF5A, 'a', 1⟩,
    ⟨0x107A5, 0x107A5, 'q', 0⟩, ⟨0x1D400, 0x1D419, 'a', 1⟩, ⟨0x1D41A, 0x1D433, 'a', 1⟩,
    ⟨0x1D434, 0x1D44D, 'a', 1⟩, ⟨0x1D44E, 0x1D454, 'a', 1⟩, ⟨0x1D456, 0x1D467, 'i', 1⟩,
    ⟨0x1D468, 0x1D481, 'a', 1⟩, ⟨0x1D482, 0x1D49B, 'a', 1⟩, ⟨0x1D49C, 0x1D49C, 'a', 0⟩,
    ⟨0x1D49E, 0x1D49F, 'c', 1⟩, ⟨0x1D4A2, 0x1D4A2, 'g', 0⟩, ⟨0x1D4A5, 0x1D4A6, 'j', 1⟩,
    ⟨0x1D4A9, 0x1D4AC, 'n', 1⟩, ⟨0x1D4AE, 0x1D4B5, 's', 1⟩, ⟨0x1D4B6, 0x1D4B9, 'a', 1⟩,
    ⟨0x1D4BB, 0x1D4BB, 'f', 0⟩, ⟨0x1D4BD, 0x1D4C3, 'h', 1⟩, ⟨0x1D4C5, 0x1D4CF, 'p', 1⟩,
    ⟨0x1D4D0, 0x1D4E9, 'a', 1⟩, ⟨0x1D4EA, 0x1D503, 'a', 1⟩, ⟨0x1D504, 0x1D505, 'a', 1⟩,
    ⟨0x1D507, 0x1D50A, 'd', 1⟩, ⟨0x1D50D, 0x1D514, 'j', 1⟩, ⟨0x1D516, 0x1D51C, 's', 1⟩,
    ⟨0x1D51E, 0x1D537, 'a', 1⟩, ⟨0x1D538, 0x1D539, 'a', 1⟩, ⟨0x1D53B, 0x1D53E, 'd', 1⟩,
    ⟨0x1D540, 0x1D544, 'i', 1⟩, ⟨0x1D546, 0x1D546, 'o', 0⟩, ⟨0x1D54A, 0x1D550, 's', 1⟩,
    ⟨0x1D552, 0x1D56B, 'a', 1⟩, ⟨0x1D56C, 0x1D585, 'a', 1⟩, ⟨0x1D586, 0x1D59F, 'a', 1⟩,
    ⟨0x1D5A0, 0x1D5B9, 'a', 1⟩, ⟨0x1D5BA, 0x1D5D3, 'a', 1⟩, ⟨0x1D5D4, 0x1D5ED, 'a', 1⟩,
    ⟨0x1D5EE, 0x1D607, 'a', 1⟩, ⟨0x1D608, 0x1D621, 'a', 1⟩, ⟨0x1D622, 0x1D63B, 'a', 1⟩,
    ⟨0x1D63C, 0x1D655, 'a', 1⟩, ⟨0x1D656, 0x1D66F, 'a', 1⟩, ⟨0x1D670, 0x1D689, 'a', 1⟩,
    ⟨0x1D68A, 0x1D6A3, 'a', 1⟩, ⟨0x1D7CE, 0x1D7D7, '0', 1⟩, ⟨0x1D7D8, 0x1D7E1, '0', 1⟩,
    ⟨0x1D7E2, 0x1D7EB, '0', 1⟩, ⟨0x1D7EC, 0x1D7F5, '0', 1⟩, ⟨0x1D7F6, 0x1D7FF, '0', 1⟩,
    ⟨0x1F100, 0x1F101, '0', 0⟩, ⟨0x1F102, 0x1F10A, '1', 1⟩, ⟨0x1F110, 0x1F129, 'a', 1⟩,
    ⟨0x1F12A, 0x1F12A, 's', 0⟩, ⟨0x1F12B, 0x1F12B, 'c', 0⟩, ⟨0x1F12C, 0x1F12C, 'r', 0⟩,
    ⟨0x1F130, 0x1F149, 'a', 1⟩, ⟨0x1FBF0, 0x1FBF9, '0', 1⟩]

/-- The characters that leave several letters or digits. -/
def skeletonExpansions : List (Nat × String) := [
    (0xBC, "14"), (0xBD, "12"), (0xBE, "34"), (0x132, "ij"), (0x133, "ij"), (0x1C4, "dz"),
    (0x1C5, "dz"), (0x1C6, "dz"), (0x1C7, "lj"), (0x1C8, "lj"), (0x1C9, "lj"), (0x1CA, "nj"),
    (0x1CB, "nj"), (0x1CC, "nj"), (0x1F1, "dz"), (0x1F2, "dz"), (0x1F3, "dz"), (0x20A8, "rs"),
    (0x2100, "ac"), (0x2101, "as"), (0x2105, "co"), (0x2106, "cu"), (0x2116, "no"),
    (0x2120, "sm"), (0x2121, "tel"), (0x2122, "tm"), (0x213B, "fax"), (0x2150, "17"),
    (0x2151, "19"), (0x2152, "110"), (0x2153, "13"), (0x2154, "23"), (0x2155, "15"),
    (0x2156, "25"), (0x2157, "35"), (0x2158, "45"), (0x2159, "16"), (0x215A, "56"),
    (0x215B, "18"), (0x215C, "38"), (0x215D, "58"), (0x215E, "78"), (0x2161, "ii"),
    (0x2162, "iii"), (0x2163, "iv"), (0x2165, "vi"), (0x2166, "vii"), (0x2167, "viii"),
    (0x2168, "ix"), (0x216A, "xi"), (0x216B, "xii"), (0x2171, "ii"), (0x2172, "iii"),
    (0x2173, "iv"), (0x2175, "vi"), (0x2176, "vii"), (0x2177, "viii"), (0x2178, "ix"),
    (0x217A, "xi"), (0x217B, "xii"), (0x2189, "03"), (0x2469, "10"), (0x246A, "11"),
    (0x246B, "12"), (0x246C, "13"), (0x246D, "14"), (0x246E, "15"), (0x246F, "16"),
    (0x2470, "17"), (0x2471, "18"), (0x2472, "19"), (0x2473, "20"), (0x247D, "10"),
    (0x247E, "11"), (0x247F, "12"), (0x2480, "13"), (0x2481, "14"), (0x2482, "15"),
    (0x2483, "16"), (0x2484, "17"), (0x2485, "18"), (0x2486, "19"), (0x2487, "20"),
    (0x2491, "10"), (0x2492, "11"), (0x2493, "12"), (0x2494, "13"), (0x2495, "14"),
    (0x2496, "15"), (0x2497, "16"), (0x2498, "17"), (0x2499, "18"), (0x249A, "19"),
    (0x249B, "20"), (0x3250, "pte"), (0x3251, "21"), (0x3252, "22"), (0x3253, "23"),
    (0x3254, "24"), (0x3255, "25"), (0x3256, "26"), (0x3257, "27"), (0x3258, "28"),
    (0x3259, "29"), (0x325A, "30"), (0x325B, "31"), (0x325C, "32"), (0x325D, "33"),
    (0x325E, "34"), (0x325F, "35"), (0x32B1, "36"), (0x32B2, "37"), (0x32B3, "38"),
    (0x32B4, "39"), (0x32B5, "40"), (0x32B6, "41"), (0x32B7, "42"), (0x32B8, "43"),
    (0x32B9, "44"), (0x32BA, "45"), (0x32BB, "46"), (0x32BC, "47"), (0x32BD, "48"),
    (0x32BE, "49"), (0x32BF, "50"), (0x32C9, "10"), (0x32CA, "11"), (0x32CB, "12"),
    (0x32CC, "hg"), (0x32CD, "erg"), (0x32CE, "ev"), (0x32CF, "ltd"), (0x3362, "10"),
    (0x3363, "11"), (0x3364, "12"), (0x3365, "13"), (0x3366, "14"), (0x3367, "15"),
    (0x3368, "16"), (0x3369, "17"), (0x336A, "18"), (0x336B, "19"), (0x336C, "20"),
    (0x336D, "21"), (0x336E, "22"), (0x336F, "23"), (0x3370, "24"), (0x3371, "hpa"),
    (0x3372, "da"), (0x3373, "au"), (0x3374, "bar"), (0x3375, "ov"), (0x3376, "pc"),
    (0x3377, "dm"), (0x3378, "dm2"), (0x3379, "dm3"), (0x337A, "iu"), (0x3380, "pa"),
    (0x3381, "na"), (0x3383, "ma"), (0x3384, "ka"), (0x3385, "kb"), (0x3386, "mb"),
    (0x3387, "gb"), (0x3388, "cal"), (0x3389, "kcal"), (0x338A, "pf"), (0x338B, "nf"),
    (0x338E, "mg"), (0x338F, "kg"), (0x3390, "hz"), (0x3391, "khz"), (0x3392, "mhz"),
    (0x3393, "ghz"), (0x3394, "thz"), (0x3396, "ml"), (0x3397, "dl"), (0x3398, "kl"),
    (0x3399, "fm"), (0x339A, "nm"), (0x339C, "mm"), (0x339D, "cm"), (0x339E, "km"),
    (0x339F, "mm2"), (0x33A0, "cm2"), (0x33A1, "m2"), (0x33A2, "km2"), (0x33A3, "mm3"),
    (0x33A4, "cm3"), (0x33A5, "m3"), (0x33A6, "km3"), (0x33A7, "ms"), (0x33A8, "ms2"),
    (0x33A9, "pa"), (0x33AA, "kpa"), (0x33AB, "mpa"), (0x33AC, "gpa"), (0x33AD, "rad"),
    (0x33AE, "rads"), (0x33AF, "rads2"), (0x33B0, "ps"), (0x33B1, "ns"), (0x33B3, "ms"),
    (0x33B4, "pv"), (0x33B5, "nv"), (0x33B7, "mv"), (0x33B8, "kv"), (0x33B9, "mv"),
    (0x33BA, "pw"), (0x33BB, "nw"), (0x33BD, "mw"), (0x33BE, "kw"), (0x33BF, "mw"),
    (0x33C2, "am"), (0x33C3, "bq"), (0x33C4, "cc"), (0x33C5, "cd"), (0x33C6, "ckg"),
    (0x33C7, "co"), (0x33C8, "db"), (0x33C9, "gy"), (0x33CA, "ha"), (0x33CB, "hp"),
    (0x33CC, "in"), (0x33CD, "kk"), (0x33CE, "km"), (0x33CF, "kt"), (0x33D0, "lm"),
    (0x33D1, "ln"), (0x33D2, "log"), (0x33D3, "lx"), (0x33D4, "mb"), (0x33D5, "mil"),
    (0x33D6, "mol"), (0x33D7, "ph"), (0x33D8, "pm"), (0x33D9, "ppm"), (0x33DA, "pr"),
    (0x33DB, "sr"), (0x33DC, "sv"), (0x33DD, "wb"), (0x33DE, "vm"), (0x33DF, "am"),
    (0x33E9, "10"), (0x33EA, "11"), (0x33EB, "12"), (0x33EC, "13"), (0x33ED, "14"),
    (0x33EE, "15"), (0x33EF, "16"), (0x33F0, "17"), (0x33F1, "18"), (0x33F2, "19"),
    (0x33F3, "20"), (0x33F4, "21"), (0x33F5, "22"), (0x33F6, "23"), (0x33F7, "24"),
    (0x33F8, "25"), (0x33F9, "26"), (0x33FA, "27"), (0x33FB, "28"), (0x33FC, "29"),
    (0x33FD, "30"), (0x33FE, "31"), (0x33FF, "gal"), (0xFB00, "ff"), (0xFB01, "fi"),
    (0xFB02, "fl"), (0xFB03, "ffi"), (0xFB04, "ffl"), (0xFB05, "st"), (0xFB06, "st"),
    (0x1F12D, "cd"), (0x1F12E, "wz"), (0x1F14A, "hv"), (0x1F14B, "mv"), (0x1F14C, "sd"),
    (0x1F14D, "ss"), (0x1F14E, "ppv"), (0x1F14F, "wc"), (0x1F16A, "mc"), (0x1F16B, "md"),
    (0x1F16C, "mr"), (0x1F190, "dj")]

/-- A lowercase ASCII letter or a digit. -/
def isLowerAlnum (c : Char) : Bool :=
  c.isLower || c.isDigit

/-- The lowercase ASCII letters and digits that a character leaves. -/
def skeleton (c : Char) : List Char :=
  if c.toNat < 128 then [c.toLower].filter isLowerAlnum
  else
    match skeletonRuns.find? fun r => decide (r.first ≤ c.toNat) && decide (c.toNat ≤ r.last) with
    | some r => [Char.ofNat (r.letter.toNat + r.step * (c.toNat - r.first))]
    | none =>
      match skeletonExpansions.find? fun e => e.1 == c.toNat with
      | some e => e.2.toList
      | none => []

end HealthAlert.Text
