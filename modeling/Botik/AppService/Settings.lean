import Botik.Library.Dict
import Botik.Library.Text
import Botik.Library.TextFile

/-!
# The settings file

`settings_read/service.py`: the service reads the `.env` file of the repository line by line, shows
some of its fields with the secrets masked, and writes the whole file again when fields are saved.
A value with a blank or a double quote is written between double quotes; nothing is escaped.

## Main definitions

* `EnvFile.parseLine`, `EnvFile.readEnvFile`, `EnvFile.writeEnvFile`
* `SettingsSaveRequest`, `Settings.save`
* `Settings.mask`, `Settings.snapshot`
-/

namespace Botik.AppService

open Text (isSpace)

/-- A character at which `splitlines` ends a line. -/
def isLineEnd (c : Char) : Bool := c.toNat ∈ [10, 11, 12, 13, 28, 29, 30, 133, 8232, 8233]

namespace EnvFile

/-- `value.strip().strip('"').strip("'")`. -/
def unquote (value : List Char) : List Char :=
  Lines.trim (· = '\'') (Lines.trim (· = '"') (Lines.trim isSpace value))

/-- One line of `_read_env_file`, which may have no setting. -/
def parseLine (raw : List Char) : Option (String × String) :=
  let line := Lines.trim isSpace raw
  if line = [] ∨ line.head? = some '#' ∨ '=' ∉ line then none
  else
    some (String.ofList (Lines.trim isSpace (line.takeWhile (· ≠ '='))),
      String.ofList (unquote (line.dropWhile (· ≠ '=')).tail))

/-- `_read_env_file`. -/
def readEnvFile (text : List Char) : Dict String String :=
  ((Lines.split isLineEnd (TextFile.newlines false text)).filterMap parseLine).foldl
    (fun result setting => result.set setting.1 setting.2) .empty

/-- The value as it is written. -/
def escaped (value : String) : String :=
  if ' ' ∈ value.toList ∨ '"' ∈ value.toList then "\"" ++ value ++ "\"" else value

/-- One line of `_write_env_file`. -/
def envLine (key value : String) : List Char := key.toList ++ '=' :: (escaped value).toList

/-- `_write_env_file`. -/
def writeEnvFile (data : Dict String String) : List Char :=
  Lines.joined '\n' (data.entries.map fun e => envLine e.1 e.2) ++ ['\n']

end EnvFile

open EnvFile

/-! ### Saving -/

/-- The fields to save, `none` where a field stays. -/
structure SettingsSaveRequest where
  bybitApiKey : Option String
  bybitApiSecret : Option String
  bybitMainnetApiKey : Option String
  bybitMainnetApiSecret : Option String
  telegramBotToken : Option String
  telegramChatId : Option String
  dbUrl : Option String
  deriving DecidableEq, Repr

/-- The keys of the fields. -/
def SettingsSaveRequest.updates (r : SettingsSaveRequest) : List (String × Option String) :=
  [("BYBIT_API_KEY", r.bybitApiKey), ("BYBIT_API_SECRET", r.bybitApiSecret),
    ("BYBIT_MAINNET_API_KEY", r.bybitMainnetApiKey),
    ("BYBIT_MAINNET_API_SECRET", r.bybitMainnetApiSecret),
    ("TELEGRAM_BOT_TOKEN", r.telegramBotToken), ("TELEGRAM_CHAT_ID", r.telegramChatId),
    ("DB_URL", r.dbUrl)]

structure SettingsSaveResult where
  success : Bool
  fieldsWritten : List String
  deriving DecidableEq, Repr

namespace Settings

/-- The settings of a file, none where there is no file. -/
def current (file : Option (List Char)) : Dict String String := file.elim .empty readEnvFile

/-- One update of `save`. -/
def applyUpdate (d : Dict String String) (update : String × Option String) : Dict String String :=
  match update.2 with
  | none => d
  | some value => d.set update.1 value

/-- `save`; a write that fails leaves the file as `failure` says. -/
def save (failure : Option (Option (List Char))) (r : SettingsSaveRequest)
    (file : Option (List Char)) : SettingsSaveResult × Option (List Char) :=
  let data := r.updates.foldl applyUpdate (current file)
  match failure with
  | none =>
    (⟨true, (r.updates.filter fun u => u.2.isSome).map Prod.fst⟩, some (writeEnvFile data))
  | some left => (⟨false, []⟩, left)

/-! ### Showing -/

/-- `_FIELD_ORDER`, and whether the field is in `_MASKED_KEYS`. -/
def fieldOrder : List (String × String × Bool) :=
  [("BYBIT_API_KEY", "Bybit Demo API Key", true),
    ("BYBIT_API_SECRET", "Bybit Demo API Secret", true),
    ("BYBIT_MAINNET_API_KEY", "Bybit MainNet API Key", true),
    ("BYBIT_MAINNET_API_SECRET", "Bybit MainNet API Secret", true),
    ("TELEGRAM_BOT_TOKEN", "Telegram Bot Token", true),
    ("TELEGRAM_CHAT_ID", "Telegram Chat ID", false), ("DB_URL", "Database URL", false)]

structure SettingsField where
  key : String
  label : String
  value : String
  masked : Bool
  present : Bool
  deriving DecidableEq, Repr

/-- `_mask`. -/
def mask (value : String) : String :=
  let cs := value.toList
  if cs.length ≤ 8 then "***"
  else String.ofList (cs.take 4) ++ "***" ++ String.ofList (cs.drop (cs.length - 4))

/-- The value of a field: that of the environment, or else that of the file. -/
def rawValue (env : String → Option String) (file : Option (List Char)) (key : String) : String :=
  match env key with
  | some value => if value ≠ "" then value else ((current file).get? key).getD ""
  | none => ((current file).get? key).getD ""

/-- The fields of `snapshot`. -/
def snapshot (env : String → Option String) (file : Option (List Char)) : List SettingsField :=
  fieldOrder.map fun (key, label, masked) =>
    let raw := rawValue env file key
    ⟨key, label, if masked ∧ raw ≠ "" then mask raw else raw, masked, decide (raw ≠ "")⟩

end Settings

end Botik.AppService
