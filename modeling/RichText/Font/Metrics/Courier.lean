import RichText.Font.Widths

/-!
Glyph widths of the Courier faces: every glyph has one width.
-/
namespace RichText.Font.Metrics

/-- Widths of all four Courier faces. -/
def courier : Widths := [
  (0x20, Array.replicate 95 600),
  (0xa0, Array.replicate 96 600),
  (0x152, #[600, 600]),
  (0x160, #[600, 600]),
  (0x178, #[600]),
  (0x17d, #[600, 600]),
  (0x192, #[600]),
  (0x2c6, #[600]),
  (0x2dc, #[600]),
  (0x2013, #[600, 600]),
  (0x2018, #[600, 600, 600]),
  (0x201c, #[600, 600, 600]),
  (0x2020, #[600, 600, 600]),
  (0x2026, #[600]),
  (0x2030, #[600]),
  (0x2039, #[600, 600]),
  (0x20ac, #[600]),
  (0x2122, #[600])]

end RichText.Font.Metrics
