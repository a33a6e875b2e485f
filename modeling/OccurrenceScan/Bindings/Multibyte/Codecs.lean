import OccurrenceScan.Bindings.Multibyte.Japanese
import OccurrenceScan.Bindings.Multibyte.Chinese
import OccurrenceScan.Bindings.Multibyte.Korean
import OccurrenceScan.Bindings.Multibyte.Iso2022

namespace OccurrenceScan

namespace Multibyte

/-!
# The multibyte codecs by module

Each East Asian codec module, by its name, with the decoder it runs. The stateless codecs
decode unit by unit under their own name; HZ and the ISO-2022 codecs keep a state.
-/

/-- The step of a stateless multibyte codec module. -/
def step? : String → Option (Array UInt8 → Nat → Step)
  | "euc_jp" => some eucJpStep
  | "euc_jis_2004" => some (eucJis2004Step false)
  | "euc_jisx0213" => some (eucJis2004Step true)
  | "shift_jis" => some shiftJisStep
  | "cp932" => some cp932Step
  | "shift_jis_2004" => some (shiftJis2004Step false)
  | "shift_jisx0213" => some (shiftJis2004Step true)
  | "gb2312" => some gb2312Step
  | "gbk" => some gbkStep
  | "gb18030" => some gb18030Step
  | "big5" => some big5Step
  | "cp950" => some cp950Step
  | "big5hkscs" => some big5hkscsStep
  | "euc_kr" => some eucKrStep
  | "cp949" => some cp949Step
  | "johab" => some johabStep
  | _ => none

/-- The ISO-2022 codec of a module. -/
def iso2022? : String → Option Iso2022
  | "iso2022_kr" => some .korean
  | "iso2022_jp" => some .japanese
  | "iso2022_jp_1" => some .japanese1
  | "iso2022_jp_2" => some .japanese2
  | "iso2022_jp_2004" => some .japanese2004
  | "iso2022_jp_3" => some .japanese3
  | "iso2022_jp_ext" => some .japaneseExt
  | _ => none

/-- The decoder of a multibyte codec module, if the module is one. -/
def decoder? (module : String) : Option (Array UInt8 → Except Decoding.Failure (Array Nat)) :=
  match step? module with
  | some step => some (decodeUnits module step)
  | none =>
    if module = "hz" then some hz
    else (iso2022? module).map iso2022

end Multibyte

end OccurrenceScan
