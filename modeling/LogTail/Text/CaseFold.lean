/-!
# Simple case folding

Two characters are the same up to case when simple folding (statuses `C` and `S` in Unicode 16, the
edition that patterns know) takes them to the same character. An orbit holds all characters that are
the same up to case.
-/

namespace LogTail.Text

/-- Runs of folded characters: the first character, the one it folds to, how many characters the run
has, and the distance between neighbours on both sides. -/
def foldRuns : List (Nat × Nat × Nat × Nat) :=
  [(0x41, 0x61, 26, 1), (0xb5, 0x3bc, 1, 1), (0xc0, 0xe0, 23, 1), (0xd8, 0xf8, 7, 1),
   (0x100, 0x101, 24, 2), (0x132, 0x133, 3, 2), (0x139, 0x13a, 8, 2), (0x14a, 0x14b, 23, 2),
   (0x178, 0xff, 1, 1), (0x179, 0x17a, 3, 2), (0x17f, 0x73, 1, 1), (0x181, 0x253, 1, 1),
   (0x182, 0x183, 2, 2), (0x186, 0x254, 1, 1), (0x187, 0x188, 1, 1), (0x189, 0x256, 2, 1),
   (0x18b, 0x18c, 1, 1), (0x18e, 0x1dd, 1, 1), (0x18f, 0x259, 1, 1), (0x190, 0x25b, 1, 1),
   (0x191, 0x192, 1, 1), (0x193, 0x260, 1, 1), (0x194, 0x263, 1, 1), (0x196, 0x269, 1, 1),
   (0x197, 0x268, 1, 1), (0x198, 0x199, 1, 1), (0x19c, 0x26f, 1, 1), (0x19d, 0x272, 1, 1),
   (0x19f, 0x275, 1, 1), (0x1a0, 0x1a1, 3, 2), (0x1a6, 0x280, 1, 1), (0x1a7, 0x1a8, 1, 1),
   (0x1a9, 0x283, 1, 1), (0x1ac, 0x1ad, 1, 1), (0x1ae, 0x288, 1, 1), (0x1af, 0x1b0, 1, 1),
   (0x1b1, 0x28a, 2, 1), (0x1b3, 0x1b4, 2, 2), (0x1b7, 0x292, 1, 1), (0x1b8, 0x1b9, 1, 1),
   (0x1bc, 0x1bd, 1, 1), (0x1c4, 0x1c6, 1, 1), (0x1c5, 0x1c6, 1, 1), (0x1c7, 0x1c9, 1, 1),
   (0x1c8, 0x1c9, 1, 1), (0x1ca, 0x1cc, 1, 1), (0x1cb, 0x1cc, 9, 2), (0x1de, 0x1df, 9, 2),
   (0x1f1, 0x1f3, 1, 1), (0x1f2, 0x1f3, 2, 2), (0x1f6, 0x195, 1, 1), (0x1f7, 0x1bf, 1, 1),
   (0x1f8, 0x1f9, 20, 2), (0x220, 0x19e, 1, 1), (0x222, 0x223, 9, 2), (0x23a, 0x2c65, 1, 1),
   (0x23b, 0x23c, 1, 1), (0x23d, 0x19a, 1, 1), (0x23e, 0x2c66, 1, 1), (0x241, 0x242, 1, 1),
   (0x243, 0x180, 1, 1), (0x244, 0x289, 1, 1), (0x245, 0x28c, 1, 1), (0x246, 0x247, 5, 2),
   (0x345, 0x3b9, 1, 1), (0x370, 0x371, 2, 2), (0x376, 0x377, 1, 1), (0x37f, 0x3f3, 1, 1),
   (0x386, 0x3ac, 1, 1), (0x388, 0x3ad, 3, 1), (0x38c, 0x3cc, 1, 1), (0x38e, 0x3cd, 2, 1),
   (0x391, 0x3b1, 17, 1), (0x3a3, 0x3c3, 9, 1), (0x3c2, 0x3c3, 1, 1), (0x3cf, 0x3d7, 1, 1),
   (0x3d0, 0x3b2, 1, 1), (0x3d1, 0x3b8, 1, 1), (0x3d5, 0x3c6, 1, 1), (0x3d6, 0x3c0, 1, 1),
   (0x3d8, 0x3d9, 12, 2), (0x3f0, 0x3ba, 1, 1), (0x3f1, 0x3c1, 1, 1), (0x3f4, 0x3b8, 1, 1),
   (0x3f5, 0x3b5, 1, 1), (0x3f7, 0x3f8, 1, 1), (0x3f9, 0x3f2, 1, 1), (0x3fa, 0x3fb, 1, 1),
   (0x3fd, 0x37b, 3, 1), (0x400, 0x450, 16, 1), (0x410, 0x430, 32, 1), (0x460, 0x461, 17, 2),
   (0x48a, 0x48b, 27, 2), (0x4c0, 0x4cf, 1, 1), (0x4c1, 0x4c2, 7, 2), (0x4d0, 0x4d1, 48, 2),
   (0x531, 0x561, 38, 1), (0x10a0, 0x2d00, 38, 1), (0x10c7, 0x2d27, 1, 1), (0x10cd, 0x2d2d, 1, 1),
   (0x13f8, 0x13f0, 6, 1), (0x1c80, 0x432, 1, 1), (0x1c81, 0x434, 1, 1), (0x1c82, 0x43e, 1, 1),
   (0x1c83, 0x441, 2, 1), (0x1c85, 0x442, 1, 1), (0x1c86, 0x44a, 1, 1), (0x1c87, 0x463, 1, 1),
   (0x1c88, 0xa64b, 1, 1), (0x1c89, 0x1c8a, 1, 1), (0x1c90, 0x10d0, 43, 1), (0x1cbd, 0x10fd, 3, 1),
   (0x1e00, 0x1e01, 75, 2), (0x1e9b, 0x1e61, 1, 1), (0x1e9e, 0xdf, 1, 1), (0x1ea0, 0x1ea1, 48, 2),
   (0x1f08, 0x1f00, 8, 1), (0x1f18, 0x1f10, 6, 1), (0x1f28, 0x1f20, 8, 1), (0x1f38, 0x1f30, 8, 1),
   (0x1f48, 0x1f40, 6, 1), (0x1f59, 0x1f51, 4, 2), (0x1f68, 0x1f60, 8, 1), (0x1f88, 0x1f80, 8, 1),
   (0x1f98, 0x1f90, 8, 1), (0x1fa8, 0x1fa0, 8, 1), (0x1fb8, 0x1fb0, 2, 1), (0x1fba, 0x1f70, 2, 1),
   (0x1fbc, 0x1fb3, 1, 1), (0x1fbe, 0x3b9, 1, 1), (0x1fc8, 0x1f72, 4, 1), (0x1fcc, 0x1fc3, 1, 1),
   (0x1fd3, 0x390, 1, 1), (0x1fd8, 0x1fd0, 2, 1), (0x1fda, 0x1f76, 2, 1), (0x1fe3, 0x3b0, 1, 1),
   (0x1fe8, 0x1fe0, 2, 1), (0x1fea, 0x1f7a, 2, 1), (0x1fec, 0x1fe5, 1, 1), (0x1ff8, 0x1f78, 2, 1),
   (0x1ffa, 0x1f7c, 2, 1), (0x1ffc, 0x1ff3, 1, 1), (0x2126, 0x3c9, 1, 1), (0x212a, 0x6b, 1, 1),
   (0x212b, 0xe5, 1, 1), (0x2132, 0x214e, 1, 1), (0x2160, 0x2170, 16, 1), (0x2183, 0x2184, 1, 1),
   (0x24b6, 0x24d0, 26, 1), (0x2c00, 0x2c30, 48, 1), (0x2c60, 0x2c61, 1, 1), (0x2c62, 0x26b, 1, 1),
   (0x2c63, 0x1d7d, 1, 1), (0x2c64, 0x27d, 1, 1), (0x2c67, 0x2c68, 3, 2), (0x2c6d, 0x251, 1, 1),
   (0x2c6e, 0x271, 1, 1), (0x2c6f, 0x250, 1, 1), (0x2c70, 0x252, 1, 1), (0x2c72, 0x2c73, 1, 1),
   (0x2c75, 0x2c76, 1, 1), (0x2c7e, 0x23f, 2, 1), (0x2c80, 0x2c81, 50, 2), (0x2ceb, 0x2cec, 2, 2),
   (0x2cf2, 0x2cf3, 1, 1), (0xa640, 0xa641, 23, 2), (0xa680, 0xa681, 14, 2), (0xa722, 0xa723, 7, 2),
   (0xa732, 0xa733, 31, 2), (0xa779, 0xa77a, 2, 2), (0xa77d, 0x1d79, 1, 1), (0xa77e, 0xa77f, 5, 2),
   (0xa78b, 0xa78c, 1, 1), (0xa78d, 0x265, 1, 1), (0xa790, 0xa791, 2, 2), (0xa796, 0xa797, 10, 2),
   (0xa7aa, 0x266, 1, 1), (0xa7ab, 0x25c, 1, 1), (0xa7ac, 0x261, 1, 1), (0xa7ad, 0x26c, 1, 1),
   (0xa7ae, 0x26a, 1, 1), (0xa7b0, 0x29e, 1, 1), (0xa7b1, 0x287, 1, 1), (0xa7b2, 0x29d, 1, 1),
   (0xa7b3, 0xab53, 1, 1), (0xa7b4, 0xa7b5, 8, 2), (0xa7c4, 0xa794, 1, 1), (0xa7c5, 0x282, 1, 1),
   (0xa7c6, 0x1d8e, 1, 1), (0xa7c7, 0xa7c8, 2, 2), (0xa7cb, 0x264, 1, 1), (0xa7cc, 0xa7cd, 1, 1),
   (0xa7d0, 0xa7d1, 1, 1), (0xa7d6, 0xa7d7, 2, 2), (0xa7da, 0xa7db, 1, 1), (0xa7dc, 0x19b, 1, 1),
   (0xa7f5, 0xa7f6, 1, 1), (0xab70, 0x13a0, 80, 1), (0xfb05, 0xfb06, 1, 1), (0xff21, 0xff41, 26, 1),
   (0x10400, 0x10428, 40, 1), (0x104b0, 0x104d8, 36, 1), (0x10570, 0x10597, 11, 1),
   (0x1057c, 0x105a3, 15, 1), (0x1058c, 0x105b3, 7, 1), (0x10594, 0x105bb, 2, 1),
   (0x10c80, 0x10cc0, 51, 1), (0x10d50, 0x10d70, 22, 1), (0x118a0, 0x118c0, 32, 1),
   (0x16e40, 0x16e60, 32, 1), (0x1e900, 0x1e922, 34, 1)]

def foldPairs : List (Nat × Nat) :=
  foldRuns.flatMap fun (source, target, count, step) =>
    (List.range count).map fun k => (source + k * step, target + k * step)

/-- All characters that fold to one target, the target first, for each target of the table. -/
def foldOrbits : List (List Nat) :=
  let byTarget := foldPairs.mergeSort fun a b => a.2 ≤ b.2
  (byTarget.splitBy fun a b => a.2 == b.2).filterMap fun pairs =>
    pairs.head?.map fun p => p.2 :: pairs.map (·.1)

end LogTail.Text
