import RichText.Font.Widths

/-!
Glyph widths of the Helvetica faces; a slanted face has the widths of the upright one.
-/
namespace RichText.Font.Metrics

/-- Widths of Helvetica, upright and oblique. -/
def helvetica : Widths := [
  (0x20, #[
    278, 278, 355, 556, 556, 889, 667, 191, 333, 333, 389, 584, 278, 333, 278, 278, 556, 556, 556,
    556, 556, 556, 556, 556, 556, 556, 278, 278, 584, 584, 584, 556, 1015, 667, 667, 722, 722, 667,
    611, 778, 722, 278, 500, 667, 556, 833, 722, 778, 667, 778, 722, 667, 611, 722, 667, 944, 667,
    667, 611, 278, 278, 278, 469, 556, 333, 556, 556, 500, 556, 556, 278, 556, 556, 222, 222, 500,
    222, 833, 556, 556, 556, 556, 333, 500, 278, 556, 500, 722, 500, 500, 500, 334, 260, 334, 584]),
  (0xa0, #[
    278, 333, 556, 556, 556, 556, 260, 556, 333, 737, 370, 556, 584, 333, 737, 333, 400, 584, 333,
    333, 333, 556, 537, 278, 333, 333, 365, 556, 834, 834, 834, 611, 667, 667, 667, 667, 667, 667,
    1000, 722, 667, 667, 667, 667, 278, 278, 278, 278, 722, 722, 778, 778, 778, 778, 778, 584, 778,
    722, 722, 722, 722, 667, 667, 611, 556, 556, 556, 556, 556, 556, 889, 500, 556, 556, 556, 556,
    278, 278, 278, 278, 556, 556, 556, 556, 556, 556, 556, 584, 611, 556, 556, 556, 556, 500, 556,
    500]),
  (0x152, #[1000, 944]),
  (0x160, #[667, 500]),
  (0x178, #[667]),
  (0x17d, #[611, 500]),
  (0x192, #[556]),
  (0x2c6, #[333]),
  (0x2dc, #[333]),
  (0x2013, #[556, 1000]),
  (0x2018, #[222, 222, 222]),
  (0x201c, #[333, 333, 333]),
  (0x2020, #[556, 556, 350]),
  (0x2026, #[1000]),
  (0x2030, #[1000]),
  (0x2039, #[333, 333]),
  (0x20ac, #[556]),
  (0x2122, #[1000])]

/-- Widths of Helvetica in bold, upright and oblique. -/
def helveticaBold : Widths := [
  (0x20, #[
    278, 333, 474, 556, 556, 889, 722, 238, 333, 333, 389, 584, 278, 333, 278, 278, 556, 556, 556,
    556, 556, 556, 556, 556, 556, 556, 333, 333, 584, 584, 584, 611, 975, 722, 722, 722, 722, 667,
    611, 778, 722, 278, 556, 722, 611, 833, 722, 778, 667, 778, 722, 667, 611, 722, 667, 944, 667,
    667, 611, 333, 278, 333, 584, 556, 333, 556, 611, 556, 611, 556, 333, 611, 611, 278, 278, 556,
    278, 889, 611, 611, 611, 611, 389, 556, 333, 611, 556, 778, 556, 556, 500, 389, 280, 389, 584]),
  (0xa0, #[
    278, 333, 556, 556, 556, 556, 280, 556, 333, 737, 370, 556, 584, 333, 737, 333, 400, 584, 333,
    333, 333, 611, 556, 278, 333, 333, 365, 556, 834, 834, 834, 611, 722, 722, 722, 722, 722, 722,
    1000, 722, 667, 667, 667, 667, 278, 278, 278, 278, 722, 722, 778, 778, 778, 778, 778, 584, 778,
    722, 722, 722, 722, 667, 667, 611, 556, 556, 556, 556, 556, 556, 889, 556, 556, 556, 556, 556,
    278, 278, 278, 278, 611, 611, 611, 611, 611, 611, 611, 584, 611, 611, 611, 611, 611, 556, 611,
    556]),
  (0x152, #[1000, 944]),
  (0x160, #[667, 556]),
  (0x178, #[667]),
  (0x17d, #[611, 500]),
  (0x192, #[556]),
  (0x2c6, #[333]),
  (0x2dc, #[333]),
  (0x2013, #[556, 1000]),
  (0x2018, #[278, 278, 278]),
  (0x201c, #[500, 500, 500]),
  (0x2020, #[556, 556, 350]),
  (0x2026, #[1000]),
  (0x2030, #[1000]),
  (0x2039, #[333, 333]),
  (0x20ac, #[556]),
  (0x2122, #[1000])]

end RichText.Font.Metrics
