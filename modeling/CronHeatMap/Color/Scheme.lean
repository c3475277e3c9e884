import CronHeatMap.Color

/-!
# Colour schemes

Oranges is a scheme of discrete classes, with one palette for each number of classes from three to
nine. Reds is the scheme of nine colours that the continuous ramp runs along.
-/

namespace CronHeatMap.Scheme

private def palette (hex : List Nat) : List Rgb := hex.map Rgb.ofNat

/-- The Oranges palette with a number of classes, which is taken as three if it is less and as nine
if it is more. -/
def oranges : Nat → List Rgb
  | 0 | 1 | 2 | 3 => palette [0xfee6ce, 0xfdae6b, 0xe6550d]
  | 4 => palette [0xfeedde, 0xfdbe85, 0xfd8d3c, 0xd94701]
  | 5 => palette [0xfeedde, 0xfdbe85, 0xfd8d3c, 0xe6550d, 0xa63603]
  | 6 => palette [0xfeedde, 0xfdd0a2, 0xfdae6b, 0xfd8d3c, 0xe6550d, 0xa63603]
  | 7 => palette [0xfeedde, 0xfdd0a2, 0xfdae6b, 0xfd8d3c, 0xf16913, 0xd94801, 0x8c2d04]
  | 8 =>
    palette [0xfff5eb, 0xfee6ce, 0xfdd0a2, 0xfdae6b, 0xfd8d3c, 0xf16913, 0xd94801, 0x8c2d04]
  | _ =>
    palette
      [0xfff5eb, 0xfee6ce, 0xfdd0a2, 0xfdae6b, 0xfd8d3c, 0xf16913, 0xd94801, 0xa63603, 0x7f2704]

/-- The nine colours of Reds, from light to dark. -/
def reds : List Rgb :=
  palette
    [0xfff5f0, 0xfee0d2, 0xfcbba1, 0xfc9272, 0xfb6a4a, 0xef3b2c, 0xcb181d, 0xa50f15, 0x67000d]

/-- Every palette of Oranges has as many colours as it has classes. -/
theorem length_oranges (n : Nat) : (oranges n).length = max 3 (min 9 n) := by
  match n with
  | 0 | 1 | 2 | 3 | 4 | 5 | 6 | 7 | 8 => rfl
  | n + 9 =>
    have h : max 3 (min 9 (n + 9)) = 9 := by omega
    rw [h]
    rfl

end CronHeatMap.Scheme
