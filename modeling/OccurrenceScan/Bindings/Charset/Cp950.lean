import OccurrenceScan.Bindings.Charset

namespace OccurrenceScan

namespace Charset

/-!
# Code page 950

The pairs of bytes code page 950 reads otherwise than Big5, or adds to it, by lead and trail
byte.
-/

/-- Runs 1 to 10 of `cp950Extension`. -/
def cp950ExtensionRuns0 : Array Run := #[
  ⟨0xA1, 0x45, "‧"⟩,
  ⟨0xA1, 0x4E, "﹑"⟩,
  ⟨0xA1, 0xC2, "¯"⟩,
  ⟨0xA1, 0xE3, "～"⟩,
  ⟨0xA1, 0xF2, "⊕⊙"⟩,
  ⟨0xA2, 0x41, "∕﹨"⟩,
  ⟨0xA2, 0x44, "￥"⟩,
  ⟨0xA2, 0x46, "￠￡"⟩,
  ⟨0xA3, 0xE1, "€"⟩,
  ⟨0xF9, 0xD6, "碁銹裏墻恒粧嫺╔╦╗╠╬╣╚╩╝╒╤╕╞╪╡╘╧╛╓╥╖╟╫╢╙╨╜║═╭╮╰╯▓"⟩]

/-- The pairs code page 950 reads otherwise than Big5, or adds. -/
def cp950Extension : Table :=
  ⟨cp950ExtensionRuns0, []⟩

end Charset

end OccurrenceScan
