/-
  Locales.
-/
import SyntheticTables.Text.Blank

namespace SyntheticTables

/-- The spelling under which a locale is looked up: no white space around it, underscores for
    hyphens.  Applying it twice changes nothing more. -/
def normalizeLocale (locale : String) : String :=
  String.ofList ((Text.trimChars locale.toList).map fun c => if c = '-' then '_' else c)

/-- The locales whose words come with the program. -/
inductive LocaleKey where
  | enUS
  | ptBR
  | frFR
  | jaJP
  | zhCN
  | zhTW
  | arSA
  deriving DecidableEq, Inhabited

namespace LocaleKey

/-- The bundled locales, in the order in which they are tried. -/
def all : List LocaleKey := [.enUS, .ptBR, .frFR, .jaJP, .zhCN, .zhTW, .arSA]

/-- The spelling under which a bundled locale is looked up. -/
def name : LocaleKey → String
  | enUS => "en_US"
  | ptBR => "pt_BR"
  | frFR => "fr_FR"
  | jaJP => "ja_JP"
  | zhCN => "zh_CN"
  | zhTW => "zh_TW"
  | arSA => "ar_SA"

/-- The bundled locale a text names; English goes without a country too. -/
def parse? (locale : String) : Option LocaleKey :=
  let normal := normalizeLocale locale
  if normal = "en" then some .enUS else all.find? (·.name = normal)

end LocaleKey

end SyntheticTables
