import RichText.Font.Widths

/-!
Glyph widths of the two faces of signs.
-/
namespace RichText.Font.Metrics

def symbol : Widths := [
  (0x20, #[250, 333]),
  (0x23, #[500]),
  (0x25, #[833, 778]),
  (0x28, #[333, 333]),
  (0x2b, #[549, 250]),
  (0x2e, #[
    250, 278, 500, 500, 500, 500, 500, 500, 500, 500, 500, 500, 278, 278, 549, 549, 549, 444]),
  (0x5b, #[333]),
  (0x5d, #[333]),
  (0x5f, #[500]),
  (0x7b, #[480, 200, 480]),
  (0xac, #[713]),
  (0xb0, #[400, 549]),
  (0xb5, #[576]),
  (0xd7, #[549]),
  (0xf7, #[549]),
  (0x192, #[500]),
  (0x391, #[722, 667, 603, 612, 611, 611, 722, 741, 333, 722, 686, 889, 722, 645, 722, 768, 556]),
  (0x3a3, #[592, 611, 690, 763, 722, 795, 768]),
  (0x3b1, #[
    631, 549, 411, 494, 439, 494, 603, 521, 329, 549, 549, 576, 521, 493, 549, 549, 549, 439, 603,
    439, 576, 521, 549, 686, 686]),
  (0x3d1, #[631, 620]),
  (0x3d5, #[603, 713]),
  (0x2022, #[460]),
  (0x2026, #[1000]),
  (0x2032, #[247, 411]),
  (0x2044, #[167]),
  (0x20ac, #[750]),
  (0x2111, #[686]),
  (0x2118, #[987]),
  (0x211c, #[795]),
  (0x2126, #[768]),
  (0x2135, #[823]),
  (0x2190, #[987, 603, 987, 603, 1042]),
  (0x21b5, #[658]),
  (0x21d0, #[987, 603, 987, 603, 1042]),
  (0x2200, #[713]),
  (0x2202, #[494, 549]),
  (0x2205, #[823, 612, 713, 713, 713]),
  (0x220b, #[439]),
  (0x220f, #[823]),
  (0x2211, #[713, 549]),
  (0x2217, #[500]),
  (0x221a, #[549]),
  (0x221d, #[713, 713]),
  (0x2220, #[768]),
  (0x2227, #[603, 603, 768, 768, 274]),
  (0x2234, #[863]),
  (0x223c, #[549]),
  (0x2245, #[549]),
  (0x2248, #[549]),
  (0x2260, #[549, 549]),
  (0x2264, #[549, 549]),
  (0x2282, #[713, 713, 713]),
  (0x2286, #[713, 713]),
  (0x2295, #[768]),
  (0x2297, #[768]),
  (0x22a5, #[658]),
  (0x22c5, #[250]),
  (0x2320, #[686, 686]),
  (0x2329, #[329, 329]),
  (0x25ca, #[494]),
  (0x2660, #[753]),
  (0x2663, #[753]),
  (0x2665, #[753, 753]),
  (0xf6d9, #[790, 790, 890]),
  (0xf8e5, #[
    500, 603, 1000, 790, 790, 786, 384, 384, 384, 384, 384, 384, 494, 494, 494, 494, 686, 384, 384,
    384, 384, 384, 384, 494, 494, 494])]

def zapfDingbats : Widths := [
  (0x20, #[278]),
  (0x2192, #[838]),
  (0x2194, #[1016, 458]),
  (0x2460, Array.replicate 10 788),
  (0x25a0, #[761]),
  (0x25b2, #[892]),
  (0x25bc, #[892]),
  (0x25c6, #[788]),
  (0x25cf, #[791]),
  (0x25d7, #[438]),
  (0x2605, #[816]),
  (0x260e, #[719]),
  (0x261b, #[960]),
  (0x261e, #[939]),
  (0x2660, #[626]),
  (0x2663, #[776]),
  (0x2665, #[694, 595]),
  (0x2701, #[974, 961, 974, 980]),
  (0x2706, #[789, 790, 791, 690]),
  (0x270c, #[
    549, 855, 911, 933, 911, 945, 974, 755, 846, 762, 761, 571, 677, 763, 760, 759, 754, 494, 552,
    537, 577, 692, 786, 788, 788, 790, 793, 794]),
  (0x2729, #[
    823, 789, 841, 823, 833, 816, 831, 923, 744, 723, 749, 790, 792, 695, 776, 768, 792, 759, 707,
    708, 682, 701, 826, 815, 789, 789, 707, 687, 696, 689, 786, 787, 713, 791, 785]),
  (0x274d, #[873]),
  (0x274f, #[762, 762, 759, 759]),
  (0x2756, #[784]),
  (0x2758, #[138, 277, 415, 392, 392, 668, 668]),
  (0x2761, #[
    732, 544, 544, 910, 667, 760, 760, 390, 390, 317, 317, 276, 276, 509, 509, 410, 410, 234, 234,
    334, 334, 788, 788, 788, 788, 788, 788, 788, 788, 788, 788, 788, 788, 788, 788, 788, 788, 788,
    788, 788, 788, 788, 788, 788, 788, 788, 788, 788, 788, 788, 788, 894]),
  (0x2798, #[
    748, 924, 748, 918, 927, 928, 928, 834, 873, 828, 924, 924, 917, 930, 931, 463, 883, 836, 836,
    867, 867, 696, 696, 874]),
  (0x27b1, #[874, 760, 946, 771, 865, 771, 888, 967, 888, 831, 873, 927, 970, 918])]

end RichText.Font.Metrics
